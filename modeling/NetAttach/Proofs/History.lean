-- SUMMARY: What a store of pods holds and announces over its whole history, and what each subscriber receives of it.
import NetAttach.Proofs.Store
import Mathlib.Data.List.Range
import Mathlib.Data.List.Infix

/-!
# Histories of a store

A history is any sequence of calls to a store, mixed with subscribers that come and receive.
It remembers every accepted write and every update that was announced. The pods that were
written under one name tell what the store holds there and what it announced there, and what
was announced tells what each subscriber receives.
-/

namespace NetAttach

/-! ## Feeds -/

namespace Feed

variable {f : Feed} {us : List PodUpdate} {place : Nat}

/-- These updates were announced, the oldest first. -/
structure Announced (f : Feed) (us : List PodUpdate) : Prop where
  sent : f.sent = us.length
  kept : f.kept = us.reverse.take f.capacity

theorem announced_ofCapacity (capacity : Nat) : (ofCapacity capacity).Announced [] :=
  ⟨rfl, (List.take_nil ..).symm⟩

theorem Announced.send (h : f.Announced us) (u : PodUpdate) : (f.send u).Announced (us ++ [u]) := by
  refine ⟨?_, ?_⟩
  · rw [List.length_append, ← h.sent]
    rfl
  · rw [List.reverse_append]
    change (u :: f.kept).take f.capacity = (u :: us.reverse).take f.capacity
    rw [h.kept]
    cases f.capacity with
    | zero => rfl
    | succ n => simp [List.take_take]

/-- A subscriber that is too far behind learns what it missed; any other receives the update at its
place. -/
theorem Announced.receive? (h : f.Announced us) :
    f.receive? place =
      if f.capacity < us.length - place then
        some (.lagged (us.length - place - f.capacity), us.length - f.capacity)
      else us[place]?.map fun u => (.update u, place + 1) := by
  unfold Feed.receive?
  simp only [h.sent, gt_iff_lt]
  split
  · rfl
  · next near =>
    split
    · next upToDate => rw [List.getElem?_eq_none (by omega)]; rfl
    · next behind =>
      rw [h.kept, List.getElem?_take_of_lt (by omega), List.getElem?_reverse (by omega)]
      congr 2
      omega

theorem Announced.pending (h : f.Announced us) :
    f.pending place =
      if f.capacity < us.length - place then
        .lagged (us.length - place - f.capacity)
          :: (us.drop (us.length - f.capacity)).map .update
      else (us.drop place).map .update := by
  have kept : (f.kept.take (us.length - place)).reverse
      = us.drop (us.length - min (us.length - place) f.capacity) := by
    rw [h.kept, List.take_take, List.take_reverse, List.reverse_reverse]
  simp only [Feed.pending, h.sent, gt_iff_lt, kept]
  split
  · next far => rw [min_eq_right (le_of_lt far)]
  · next near =>
    rw [min_eq_left (by omega)]
    by_cases behind : place ≤ us.length
    · rw [Nat.sub_sub_self behind]
    · rw [List.drop_eq_nil_of_le (by omega), List.drop_eq_nil_of_le (by omega)]

/-- A receipt is the first that is pending, and those after it are pending at the next place. -/
theorem Announced.pending_cons (h : f.Announced us) {r : Receipt} {next : Nat}
    (received : f.receive? place = some (r, next)) :
    f.pending place = r :: f.pending next := by
  rw [h.receive?] at received
  rw [h.pending, h.pending]
  split at received
  · next far =>
    cases received
    rw [if_pos far, if_neg (by omega)]
  · next near =>
    obtain ⟨u, here, received⟩ := Option.map_eq_some_iff.1 received
    cases received
    obtain ⟨lt, rfl⟩ := List.getElem?_eq_some_iff.1 here
    rw [if_neg near, if_neg (by omega), List.drop_eq_getElem_cons lt]
    rfl

theorem Announced.pending_nil (h : f.Announced us) (received : f.receive? place = none) :
    f.pending place = [] := by
  rw [h.receive?] at received
  split at received
  · cases received
  · next near =>
    have past := List.getElem?_eq_none_iff.1 (Option.map_eq_none_iff.1 received)
    rw [h.pending, if_neg near, List.drop_eq_nil_of_le past]
    rfl

end Feed

/-! ## Subscribers -/

/-- Receipts that account for updates: each update is received in its order, or it is lost and the
number of those that are lost at this point is told. -/
inductive Accounts : List Receipt → List PodUpdate → Prop where
  | nil : Accounts [] []
  | update {rs : List Receipt} {us : List PodUpdate} (u : PodUpdate) :
    Accounts rs us → Accounts (.update u :: rs) (u :: us)
  | lagged {rs : List Receipt} {us : List PodUpdate} (lost : List PodUpdate) :
    Accounts rs us → Accounts (.lagged lost.length :: rs) (lost ++ us)

namespace Accounts

variable {rs rs' : List Receipt} {us us' : List PodUpdate}

theorem append (h : Accounts rs us) (h' : Accounts rs' us') :
    Accounts (rs ++ rs') (us ++ us') := by
  induction h with
  | nil => exact h'
  | update u _ ih => exact ih.update u
  | lagged lost _ ih =>
    rw [List.append_assoc]
    exact ih.lagged lost

theorem split {rs' : List Receipt} (h : Accounts (rs ++ rs') us) :
    ∃ front back, us = front ++ back ∧ Accounts rs front ∧ Accounts rs' back := by
  induction rs generalizing us with
  | nil => exact ⟨[], us, rfl, .nil, h⟩
  | cons r rs ih =>
    cases h with
    | update u h =>
      obtain ⟨front, back, rfl, hf, hb⟩ := ih h
      exact ⟨u :: front, back, rfl, hf.update u, hb⟩
    | lagged lost h =>
      obtain ⟨front, back, rfl, hf, hb⟩ := ih h
      exact ⟨lost ++ front, back, (List.append_assoc ..).symm, hf.lagged lost, hb⟩

theorem eq_of_updates (h : Accounts (us'.map .update) us) : us = us' := by
  induction us' generalizing us with
  | nil => cases h; rfl
  | cons u us' ih =>
    cases h with
    | update _ h => rw [ih h]

/-- Updates that are received one after the other were announced one after the other. -/
theorem infix_of_updates (h : Accounts rs us) (received : us'.map .update <:+: rs) : us' <:+: us := by
  obtain ⟨before, after, rfl⟩ := received
  obtain ⟨front, back, rfl, h, -⟩ := h.split
  obtain ⟨first, middle, rfl, -, h⟩ := h.split
  rw [eq_of_updates h]
  exact ⟨first, back, rfl⟩

theorem eq_updates (h : Accounts rs us) (gapless : ∀ missed, .lagged missed ∉ rs) :
    rs = us.map .update := by
  induction h with
  | nil => rfl
  | update u _ ih =>
    rw [ih fun missed mem => gapless missed (List.mem_cons_of_mem _ mem)]
    rfl
  | lagged lost _ _ => exact absurd (List.mem_cons_self ..) (gapless lost.length)

end Accounts

/-- A subscriber of a store. -/
structure Subscriber where
  /-- The number of updates before it came. -/
  since : Nat
  place : Nat
  /-- All that it received, the oldest first. -/
  receipts : List Receipt

namespace Subscriber

variable {f : Feed} {us : List PodUpdate} {s : Subscriber}

def join (f : Feed) : Subscriber := ⟨f.subscribe, f.subscribe, []⟩

/-- Take the next receipt, if there is one. -/
def receive (f : Feed) (s : Subscriber) : Subscriber :=
  match f.receive? s.place with
  | some (r, place) => { s with place, receipts := s.receipts ++ [r] }
  | none => s

/-- What it received accounts for all that was announced since it came and before its place. -/
structure Follows (s : Subscriber) (us : List PodUpdate) : Prop where
  since_le : s.since ≤ s.place
  place_le : s.place ≤ us.length
  accounts : Accounts s.receipts ((us.take s.place).drop s.since)

theorem follows_join (h : f.Announced us) : (join f).Follows us := by
  refine ⟨Nat.le_refl _, Nat.le_of_eq h.sent, ?_⟩
  have none : (us.take (join f).place).drop (join f).since = [] :=
    List.drop_eq_nil_of_le (List.length_take_le ..)
  rw [none]
  exact .nil

theorem Follows.announce (h : s.Follows us) (u : PodUpdate) : s.Follows (us ++ [u]) := by
  refine ⟨h.since_le, ?_, ?_⟩
  · rw [List.length_append]
    exact Nat.le_add_right_of_le h.place_le
  · rw [List.take_append_of_le_length h.place_le]
    exact h.accounts

/-- Going on to a later place takes receipts that account for what is between. -/
theorem Follows.advance (h : s.Follows us) {place : Nat} {rs : List Receipt} (le : s.place ≤ place)
    (fits : place ≤ us.length) (accounts : Accounts rs ((us.take place).drop s.place)) :
    Follows { s with place, receipts := s.receipts ++ rs } us := by
  refine ⟨Nat.le_trans h.since_le le, fits, ?_⟩
  have between : (us.take place).drop s.since
      = (us.take s.place).drop s.since ++ (us.take place).drop s.place := by
    have taken : us.take place = us.take s.place ++ (us.take place).drop s.place := by
      conv_lhs => rw [← List.take_append_drop s.place (us.take place), List.take_take, min_eq_left le]
    conv_lhs => rw [taken]
    refine List.drop_append_of_le_length ?_
    rw [List.length_take_of_le h.place_le]
    exact h.since_le
  rw [between]
  exact h.accounts.append accounts

theorem Follows.receive (h : s.Follows us) (announced : f.Announced us) :
    (s.receive f).Follows us := by
  have received : f.receive? s.place = _ := announced.receive?
  unfold Subscriber.receive
  rw [received]
  by_cases far : f.capacity < us.length - s.place
  · rw [if_pos far]
    have lost : us.length - s.place - f.capacity
        = ((us.take (us.length - f.capacity)).drop s.place).length := by
      rw [List.length_drop, List.length_take]
      omega
    refine h.advance (by omega) (Nat.sub_le ..) ?_
    rw [lost]
    simpa using Accounts.nil.lagged ((us.take (us.length - f.capacity)).drop s.place)
  · rw [if_neg far]
    cases here : us[s.place]? with
    | none => exact h
    | some u =>
      obtain ⟨lt, rfl⟩ := List.getElem?_eq_some_iff.1 here
      refine h.advance (Nat.le_succ _) lt ?_
      rw [List.take_add_one, here, List.drop_append_of_le_length (List.length_take_of_le h.place_le).ge,
        List.drop_eq_nil_of_le (List.length_take_le ..)]
      exact Accounts.nil.update _

/-- Receiving again and again gives what is pending, in its order. -/
theorem receipts_iterate (announced : f.Announced us) (n : Nat) (s : Subscriber) :
    ((receive f)^[n] s).receipts = s.receipts ++ (f.pending s.place).take n := by
  induction n generalizing s with
  | zero => simp
  | succ n ih =>
    rw [Function.iterate_succ_apply, ih]
    cases received : f.receive? s.place with
    | none => simp [receive, received, announced.pending_nil received]
    | some next =>
      obtain ⟨r, place⟩ := next
      simp [receive, received, announced.pending_cons received]

end Subscriber

/-! ## Calls -/

namespace PodStore

variable {s s' : PodStore} {pod new : Pod}

/-- A call to a store. -/
inductive Call where
  | apply (pod : Pod)
  | update (pod : Pod)
  | get (key : ObjectKey)

/-- The store after a call. -/
def after (s : PodStore) : Call → PodStore
  | .apply pod => (s.apply pod).2
  | .update pod => (s.update pod).2
  | .get _ => s

/-- The pod that an accepted write stores. -/
def stored? (s : PodStore) : Call → Option Pod
  | .apply pod => some (s.apply pod).1
  | .update pod => (s.update pod).1.toOption
  | .get _ => none

/-- The change of a stored pod that a call makes. -/
def change? (s : PodStore) (c : Call) : Option PodUpdate :=
  (s.stored? c).bind fun new => (s.pods.get? new.key).map fun old => ⟨old, new⟩

/-- A pod is stored as the successor of what is there under its name. -/
structure Puts (s : PodStore) (new : Pod) (s' : PodStore) : Prop where
  version : new.version = (s.pods.get? new.key).elim 0 (·.version) + 1
  pods : s'.pods = s.pods.put new.key new
  /-- Only the change of a pod that is there is announced. -/
  feed : s'.feed = (s.pods.get? new.key).elim s.feed fun old => s.feed.send ⟨old, new⟩

theorem puts_apply (s : PodStore) (pod : Pod) : s.Puts (s.apply pod).1 (s.apply pod).2 := by
  unfold apply
  split
  · next old stored =>
    have stored : s.pods.get? { pod with version := old.version + 1 }.key = some old := stored
    exact ⟨by rw [stored]; rfl, rfl, by rw [stored]; rfl⟩
  · next absent =>
    have absent : s.pods.get? { pod with version := 1 }.key = none := absent
    exact ⟨by rw [absent]; rfl, rfl, by rw [absent]; rfl⟩

/-- A write that brings the stored version is accepted, and no other is. -/
theorem update_accepted_iff :
    (∃ new, (s.update pod).1 = .ok new) ↔ ∃ old, s.get pod.key = .ok old ∧ old.version = pod.version := by
  unfold update
  simp only [get_eq_ok]
  cases stored : s.pods.get? pod.key with
  | none => simp
  | some old =>
    by_cases version : old.version = pod.version <;> simp [version]

theorem puts_update (h : s.update pod = (.ok new, s')) : s.Puts new s' := by
  unfold update at h
  split at h
  · cases h
  · next old stored =>
    split at h
    · next version =>
      cases h
      have stored : s.pods.get? { pod with version := pod.version + 1 }.key = some old := stored
      exact ⟨by rw [stored, ← version]; rfl, rfl, by rw [stored]; rfl⟩
    · cases h

/-- What is stored is what was given but for its version. -/
theorem given_of_stored {c : Call} (stored : s.stored? c = some new) :
    ∃ pod, (c = .apply pod ∨ c = .update pod) ∧ new = { pod with version := new.version } := by
  cases c with
  | get key => cases stored
  | apply pod =>
    refine ⟨pod, .inl rfl, ?_⟩
    obtain rfl := Option.some.inj stored
    unfold apply
    split <;> rfl
  | update pod =>
    refine ⟨pod, .inr rfl, ?_⟩
    simp only [stored?] at stored
    cases h : s.update pod with
    | mk answer s' =>
      rw [h] at stored
      cases answer with
      | error cause => cases stored
      | ok accepted =>
        obtain rfl := Option.some.inj stored
        obtain ⟨_, _, _, rfl, -⟩ := update_eq_ok h
        rfl

/-- A call stores a pod as a successor, or it leaves the store as it is. -/
theorem puts_or_same (s : PodStore) (c : Call) :
    (∃ new, s.stored? c = some new ∧ s.Puts new (s.after c)) ∨ s.stored? c = none ∧ s.after c = s := by
  cases c with
  | apply pod => exact .inl ⟨_, rfl, puts_apply s pod⟩
  | get key => exact .inr ⟨rfl, rfl⟩
  | update pod =>
    simp only [stored?, after]
    cases h : s.update pod with
    | mk answer s' =>
      cases answer with
      | error cause => exact .inr ⟨rfl, update_eq_error h⟩
      | ok new => exact .inl ⟨new, rfl, puts_update h⟩

end PodStore

/-! ## Histories -/

/-- The changes from each pod to the next one. -/
def changes (pods : List Pod) : List PodUpdate := List.zipWith PodUpdate.mk pods pods.tail

theorem changes_concat (pods : List Pod) (new : Pod) :
    changes (pods ++ [new]) = changes pods ++ (pods.getLast?.map (PodUpdate.mk · new)).toList := by
  induction pods with
  | nil => rfl
  | cons p pods ih =>
    cases pods with
    | nil => rfl
    | cons q pods =>
      have ih : changes (q :: (pods ++ [new])) = _ := ih
      have tail : changes (p :: q :: (pods ++ [new])) = ⟨p, q⟩ :: changes (q :: (pods ++ [new])) := rfl
      rw [List.cons_append, List.cons_append, tail, ih]
      rfl

/-- Each change begins where the one before it ends. -/
theorem chain_changes (pods : List Pod) :
    (changes pods).IsChain fun earlier later => later.old = earlier.new := by
  induction pods with
  | nil => exact .nil
  | cons p pods ih =>
    cases pods with
    | nil => exact .nil
    | cons q pods =>
      cases pods with
      | nil => exact .singleton _
      | cons r pods => exact .cons_cons rfl ih

theorem version_of_changes {pods : List Pod} {start : Nat}
    (versions : pods.map (·.version) = List.range' start pods.length) :
    ∀ u ∈ changes pods, u.new.version = u.old.version + 1 := by
  induction pods generalizing start with
  | nil => exact nofun
  | cons p pods ih =>
    cases pods with
    | nil => exact nofun
    | cons q pods =>
      obtain ⟨first, versions⟩ := List.cons.inj versions
      rintro u (_ | ⟨_, mem⟩)
      · have second : q.version = start + 1 := (List.cons.inj versions).1
        exact second.trans (congrArg (· + 1) first.symm)
      · exact ih versions u mem

/-- A store with all that was done to it, and its subscribers. -/
structure History where
  store : PodStore
  /-- The accepted writes, the oldest first. -/
  written : List Pod
  /-- The changes of pods that were stored, the oldest first. -/
  changed : List PodUpdate
  subscribers : List Subscriber

namespace History

/-- A call is made, a subscriber comes, or the one at a position receives. -/
inductive Move where
  | call (c : PodStore.Call)
  | subscribe
  | receive (i : Nat)

def start : History := ⟨.empty, [], [], []⟩

def next (h : History) : Move → History
  | .call c => {
      store := h.store.after c
      written := h.written ++ (h.store.stored? c).toList
      changed := h.changed ++ (h.store.change? c).toList
      subscribers := h.subscribers }
  | .subscribe => { h with subscribers := h.subscribers ++ [.join h.store.feed] }
  | .receive i => { h with subscribers := h.subscribers.modify i (.receive h.store.feed) }

/-- The history that some moves make. -/
def of (moves : List Move) : History := moves.foldl next start

theorem of_concat (moves : List Move) (m : Move) : of (moves ++ [m]) = (of moves).next m :=
  List.foldl_concat ..

/-- The accepted writes under a name. -/
def writes (h : History) (key : ObjectKey) : List Pod := h.written.filter (·.key = key)

/-- The store holds the last pod that was written under each name, has announced each change of
one, and every subscriber follows what was announced. -/
structure Sound (h : History) : Prop where
  versions : ∀ key, (h.writes key).map (·.version) = List.range' 1 (h.writes key).length
  stored : ∀ key, h.store.pods.get? key = (h.writes key).getLast?
  changed : ∀ key, h.changed.filter (·.new.key = key) = changes (h.writes key)
  capacity : h.store.feed.capacity = PodStore.feedCapacity
  announced : h.store.feed.Announced h.changed
  follows : ∀ s ∈ h.subscribers, s.Follows h.changed

theorem sound_start : start.Sound where
  versions _ := rfl
  stored _ := rfl
  changed _ := rfl
  capacity := rfl
  announced := Feed.announced_ofCapacity _
  follows := nofun

namespace Sound

variable {h : History}

/-- The next version under a name is one more than the number of writes under it. -/
theorem version_of_puts (sound : h.Sound) {new : Pod} {s' : PodStore} (puts : h.store.Puts new s') :
    new.version = 1 + (h.writes new.key).length := by
  rw [puts.version, sound.stored, Nat.add_comm]
  congr 1
  cases last : (h.writes new.key).getLast? with
  | none => rw [List.getLast?_eq_none_iff.1 last]; rfl
  | some old =>
    have version : ((h.writes new.key).map (·.version)).getLast? = some old.version := by
      rw [List.getLast?_map, last]
      rfl
    rw [sound.versions, List.getLast?_range'] at version
    split at version
    · cases version
    · exact (Option.some.inj version).symm.trans (Nat.add_sub_cancel_left ..)

theorem call (sound : h.Sound) (c : PodStore.Call) : (h.next (.call c)).Sound := by
  obtain ⟨new, stored, puts⟩ | ⟨stored, same⟩ := h.store.puts_or_same c
  · have writes (key : ObjectKey) : (h.next (.call c)).writes key
        = h.writes key ++ if new.key = key then [new] else [] := by
      simp only [History.writes, History.next, stored, List.filter_append]
      by_cases hk : new.key = key <;> simp [hk]
    have change : h.store.change? c = (h.writes new.key).getLast?.map (PodUpdate.mk · new) := by
      simp only [PodStore.change?, stored, sound.stored, Option.bind_some]
    refine ⟨fun key => ?_, fun key => ?_, fun key => ?_, ?_, ?_, fun s mem => ?_⟩
    · rw [writes]
      split
      · next hk =>
        subst hk
        rw [List.map_append, List.length_append, List.length_singleton, List.range'_1_concat,
          sound.versions, ← sound.version_of_puts puts]
        rfl
      · simpa using sound.versions key
    · rw [writes]
      change (h.store.after c).pods.get? key = _
      rw [puts.pods, Keyed.get?_put]
      by_cases hk : key = new.key
      · subst hk
        simp
      · have other : new.key ≠ key := fun eq => hk eq.symm
        simpa [hk, other] using sound.stored key
    · rw [writes]
      change (h.changed ++ (h.store.change? c).toList).filter _ = _
      rw [List.filter_append, sound.changed, change]
      by_cases hk : new.key = key
      · subst hk
        rw [if_pos rfl, changes_concat]
        cases (h.writes new.key).getLast? <;> simp
      · rw [if_neg hk, List.append_nil]
        cases (h.writes new.key).getLast? <;> simp [hk]
    · change (h.store.after c).feed.capacity = _
      rw [puts.feed]
      cases h.store.pods.get? new.key <;> exact sound.capacity
    · change (h.store.after c).feed.Announced (h.changed ++ _)
      rw [puts.feed, change, sound.stored]
      cases (h.writes new.key).getLast? with
      | none => simpa using sound.announced
      | some old => exact sound.announced.send _
    · have follows := sound.follows s mem
      change s.Follows (h.changed ++ _)
      cases h.store.change? c with
      | none => simpa using follows
      | some u => exact follows.announce u
  · have change : h.store.change? c = none := by rw [PodStore.change?, stored]; rfl
    have none : h.next (.call c) = h := by
      simp only [History.next, stored, change, same, Option.toList_none, List.append_nil]
    rwa [none]

/-- What subscribers do changes nothing but subscribers. -/
theorem of_subscribers (sound : h.Sound) {subscribers : List Subscriber}
    (follows : ∀ s ∈ subscribers, s.Follows h.changed) : Sound { h with subscribers } :=
  { sound with follows }

theorem next (sound : h.Sound) (m : Move) : (h.next m).Sound := by
  cases m with
  | call c => exact sound.call c
  | subscribe =>
    refine sound.of_subscribers fun s mem => ?_
    obtain mem | mem := List.mem_append.1 mem
    · exact sound.follows s mem
    · obtain rfl := List.mem_singleton.1 mem
      exact Subscriber.follows_join sound.announced
  | receive i =>
    refine sound.of_subscribers fun s mem => ?_
    obtain ⟨j, here⟩ := List.mem_iff_getElem?.1 mem
    rw [List.getElem?_modify] at here
    obtain ⟨before, was, rfl⟩ := Option.map_eq_some_iff.1 here
    have follows := sound.follows before (List.mem_of_getElem? was)
    split
    · exact follows.receive sound.announced
    · exact follows

end Sound

theorem sound_of (moves : List Move) : (of moves).Sound := by
  induction moves using List.reverseRecOn with
  | nil => exact sound_start
  | append_singleton moves m ih =>
    rw [of_concat]
    exact ih.next m

/-- The subscriber at a position is never further behind than the feed reaches. -/
def KeepsUp (moves : List Move) (i : Nat) : Prop :=
  ∀ past, past <+: moves → ∀ s, (of past).subscribers[i]? = some s →
    (of past).changed.length - s.place ≤ PodStore.feedCapacity

theorem gapless_of_keepsUp {moves : List Move} {i : Nat} (keeps : KeepsUp moves i) {s : Subscriber}
    (here : (of moves).subscribers[i]? = some s) : ∀ missed, .lagged missed ∉ s.receipts := by
  induction moves using List.reverseRecOn generalizing s with
  | nil => cases here
  | append_singleton moves m ih =>
    have ih := @ih fun past le => keeps past (le.trans (List.prefix_append ..))
    have near := keeps moves (List.prefix_append ..)
    have sound := sound_of moves
    rw [of_concat] at here
    cases m with
    | call c => exact ih here
    | subscribe =>
      change ((of moves).subscribers ++ [_])[i]? = some s at here
      rw [List.getElem?_append] at here
      split at here
      · exact ih here
      · obtain rfl := List.mem_singleton.1 (List.mem_of_getElem? here)
        exact nofun
    | receive j =>
      change ((of moves).subscribers.modify j _)[i]? = some s at here
      rw [List.getElem?_modify] at here
      obtain ⟨before, was, rfl⟩ := Option.map_eq_some_iff.1 here
      split
      · have received : (of moves).store.feed.receive? before.place = _ := sound.announced.receive?
        rw [sound.capacity, if_neg (Nat.not_lt.2 (near before was))] at received
        rw [Subscriber.receive, received]
        cases (of moves).changed[before.place]? with
        | none => exact ih was
        | some u =>
          intro missed mem
          obtain mem | mem := List.mem_append.1 mem
          · exact ih was missed mem
          · cases List.mem_singleton.1 mem
      · exact ih was

end History

/-- Under each name the accepted writes have the versions 1, 2, 3 and so on, the last of them is what
is stored, and each that follows another is announced once, with the pod before it. A write that is
refused leaves all as it is. A subscriber receives what was announced since it came, in its order, or
first how much of it is lost and then the last of it; what it receives without a gap goes, under each
name, from version to version. -/
theorem store_keeps_its_history (moves : List History.Move) :
    let h := History.of moves
    (∀ key, (h.writes key).map (·.version) = List.range' 1 (h.writes key).length
      ∧ h.store.get key = (h.writes key).getLast?.elim (.error (.notFound .pod key)) .ok
      ∧ h.changed.filter (·.new.key = key) = changes (h.writes key))
    ∧ (∀ pod, (∃ new, (h.store.update pod).1 = .ok new) ↔
        ∃ old, h.store.get pod.key = .ok old ∧ old.version = pod.version)
    ∧ (∀ c, h.store.stored? c = none → h.store.after c = h.store)
    ∧ (∀ c new, h.store.stored? c = some new →
        (∃ pod, (c = .apply pod ∨ c = .update pod) ∧ new = { pod with version := new.version })
        ∧ (h.store.after c).get new.key = .ok new
        ∧ (h.store.after c).feed = match h.store.get new.key with
          | .ok old => h.store.feed.send ⟨old, new⟩
          | .error _ => h.store.feed)
    ∧ ∀ i s, h.subscribers[i]? = some s →
        (∀ n, ((Subscriber.receive h.store.feed)^[n] s).receipts = s.receipts
          ++ (if 128 < h.changed.length - s.place then
                .lagged (h.changed.length - s.place - 128)
                  :: (h.changed.drop (h.changed.length - 128)).map .update
              else (h.changed.drop s.place).map .update).take n)
        ∧ (History.KeepsUp moves i →
            s.receipts = ((h.changed.take s.place).drop s.since).map .update)
        ∧ ∀ us : List PodUpdate, us.map .update <:+: s.receipts → ∀ key,
            let own := us.filter (·.new.key = key)
            own.IsChain (fun earlier later => later.old = earlier.new)
            ∧ ∀ u ∈ own, u.new.version = u.old.version + 1 := by
  intro h
  have sound : h.Sound := History.sound_of moves
  refine ⟨fun key => ⟨sound.versions key, ?_, sound.changed key⟩,
    fun pod => PodStore.update_accepted_iff, fun c refused => ?_, fun c new stored => ?_,
    fun i s here => ?_⟩
  · rw [PodStore.get, sound.stored]
    cases (h.writes key).getLast? <;> rfl
  · obtain ⟨new, stored, -⟩ | ⟨-, same⟩ := h.store.puts_or_same c
    · rw [refused] at stored
      cases stored
    · exact same
  · obtain ⟨new', stored', puts⟩ | ⟨none, -⟩ := h.store.puts_or_same c
    · obtain rfl := Option.some.inj (stored.symm.trans stored')
      refine ⟨PodStore.given_of_stored stored, (PodStore.get_put puts.pods _).trans (if_pos rfl), ?_⟩
      rw [puts.feed, PodStore.get]
      cases h.store.pods.get? new.key <;> rfl
    · rw [none] at stored
      cases stored
  · have follows := sound.follows s (List.mem_of_getElem? here)
    refine ⟨fun n => ?_, fun keeps => ?_, fun us received key => ?_⟩
    · rw [Subscriber.receipts_iterate sound.announced, sound.announced.pending, sound.capacity]
      rfl
    · exact follows.accounts.eq_updates (History.gapless_of_keepsUp keeps here)
    · have part := (((follows.accounts.infix_of_updates received).trans
        (List.drop_suffix ..).isInfix).trans (List.take_prefix ..).isInfix).filter
          (·.new.key = key)
      rw [sound.changed key] at part
      have chained := List.IsChain.infix (chain_changes _) part
      exact ⟨chained, fun u mem => version_of_changes (sound.versions key) u (part.subset mem)⟩

/-- A pod of a name in a version. -/
private def podNamed (name : String) (version : Nat) : Pod := ⟨"ns1", name, "", version, ∅, []⟩

/-- A subscriber that comes after the first write of a pod receives the change of it, but neither
the first write of another pod nor the stale one. -/
theorem subscriber_receives_each_change :
    let moves : List History.Move := [.call (.apply (podNamed "a" 0)), .subscribe,
      .call (.apply (podNamed "b" 0)), .call (.update (podNamed "a" 1)), .receive 0,
      .call (.update (podNamed "a" 1)), .call (.apply (podNamed "a" 0)), .receive 0]
    History.KeepsUp moves 0 ∧ ∃ s, (History.of moves).subscribers[0]? = some s
      ∧ s.receipts = [.update ⟨podNamed "a" 1, podNamed "a" 2⟩, .update ⟨podNamed "a" 2, podNamed "a" 3⟩] := by
  intro moves
  obtain ⟨s, here, place, since⟩ : ∃ s, (History.of moves).subscribers[0]? = some s
      ∧ s.place = 2 ∧ s.since = 0 :=
    ⟨_, rfl, by decide +kernel, by decide +kernel⟩
  have keeps : History.KeepsUp moves 0 := by
    intro past le s here
    have few : (History.of past).changed.length ≤ 2 := by
      have all : ∀ past ∈ moves.inits, (History.of past).changed.length ≤ 2 := by decide +kernel
      exact all past ((List.mem_inits ..).2 le)
    exact Nat.le_trans (Nat.sub_le ..) (Nat.le_trans few (by decide))
  obtain ⟨-, -, -, -, subscribers⟩ := store_keeps_its_history moves
  obtain ⟨-, gapless, -⟩ := subscribers 0 s here
  have changed : (History.of moves).changed
      = [⟨podNamed "a" 1, podNamed "a" 2⟩, ⟨podNamed "a" 2, podNamed "a" 3⟩] := by
    decide +kernel
  refine ⟨keeps, s, here, (gapless keeps).trans ?_⟩
  rw [changed, place, since]
  rfl

/-- The first two of 130 changes are lost to a subscriber that receives nothing in the meantime. -/
example :
    let writes := List.replicate 130 (History.Move.call (.apply (podNamed "a" 0)))
    let moves := .call (.apply (podNamed "a" 0)) :: .subscribe :: writes ++ [.receive 0, .receive 0]
    (History.of moves).subscribers.map (·.receipts)
      = [[.lagged 2, .update ⟨podNamed "a" 3, podNamed "a" 4⟩]] := by
  decide +kernel

end NetAttach
