-- SUMMARY: At most one task holds the lock of a pod, whatever the order in which tasks ask, let go and sweep.
import NetAttach.Proofs.Run
import NetAttach.Controller.Locks

/-!
# Pod locks in use

A task asks for the lock of a pod, is granted it when it is first in line, lets go of it
and looks afterwards whether the lock can be forgotten. Between the last two steps
others may make, take, release or forget a lock of the same pod. What holds all the
time is that whoever is in line for a pod is in line at the lock that the pod has now,
because a lock is forgotten only when its line is empty.
-/

namespace NetAttach

/-- Where a task stands with the locks. -/
inductive LockStage where
  | away
  | waiting (pod : ObjectKey) (lock : Nat)
  | holding (pod : ObjectKey) (lock : Nat)
  /-- It has let go of the lock and is about to sweep. -/
  | leaving (pod : ObjectKey)
deriving DecidableEq

namespace LockStage

/-- The task is in line at the lock of a pod, first or not. -/
def InLine (pod : ObjectKey) (lock : Nat) (s : LockStage) : Prop :=
  s = .waiting pod lock ∨ s = .holding pod lock

@[simp] theorem not_inLine_away {pod : ObjectKey} {lock : Nat} : ¬(away).InLine pod lock := by
  simp [InLine]

@[simp] theorem not_inLine_leaving {pod p : ObjectKey} {lock : Nat} :
    ¬(leaving p).InLine pod lock := by
  simp [InLine]

@[simp] theorem inLine_waiting {pod p : ObjectKey} {lock l : Nat} :
    (waiting p l).InLine pod lock ↔ p = pod ∧ l = lock := by
  simp [InLine]

@[simp] theorem inLine_holding {pod p : ObjectKey} {lock l : Nat} :
    (holding p l).InLine pod lock ↔ p = pod ∧ l = lock := by
  simp [InLine]

end LockStage

namespace Locks

theorem line_put (l : Locks) (lock lock' : Nat) (line : List Nat) :
    ({ l with lines := l.lines.put lock line } : Locks).line lock'
      = if lock' = lock then line else l.line lock' := by
  unfold Locks.line
  simp only [Keyed.get?_put]
  split <;> rfl

theorem line_release (l : Locks) (lock task lock' : Nat) :
    (l.release lock task).line lock'
      = if lock' = lock then (l.line lock).erase task else l.line lock' :=
  line_put l lock lock' _

theorem line_sweep (l : Locks) (pod : ObjectKey) (lock : Nat) :
    (l.sweep pod).line lock = l.line lock := by
  unfold sweep
  split
  · split <;> rfl
  · rfl

theorem fresh_sweep (l : Locks) (pod : ObjectKey) : (l.sweep pod).fresh = l.fresh := by
  unfold sweep
  split
  · split <;> rfl
  · rfl

theorem entries_sweep (l : Locks) (pod pod' : ObjectKey) :
    (l.sweep pod).entries.get? pod'
      = if pod' = pod ∧ ∀ lock, l.entries.get? pod = some lock → l.line lock = [] then none
        else l.entries.get? pod' := by
  unfold sweep
  cases he : l.entries.get? pod with
  | none =>
    by_cases hp : pod' = pod
    · subst hp; simp [he]
    · simp [hp]
  | some lock =>
    by_cases hl : l.line lock = []
    · by_cases hp : pod' = pod <;> simp [hl, hp, Keyed.get?_erase]
    · simp [hl]

/-! ## One step of a task -/

/-- One step of a task at the locks, from the stage it is in to the next. -/
inductive Step (l : Locks) (task : Nat) : LockStage → Locks → LockStage → Prop where
  | ask (pod : ObjectKey) :
    Step l task .away (l.request pod task).2 (.waiting pod (l.request pod task).1)
  | grant {pod : ObjectKey} {lock : Nat} (first : l.holds lock task = true) :
    Step l task (.waiting pod lock) l (.holding pod lock)
  | release (pod : ObjectKey) (lock : Nat) :
    Step l task (.holding pod lock) (l.release lock task) (.leaving pod)
  | sweep (pod : ObjectKey) : Step l task (.leaving pod) (l.sweep pod) .away

/-- What holds of the locks and of the stages of all tasks at any time. -/
structure Sound (l : Locks) (stage : Nat → LockStage) : Prop where
  /-- Who is in line for a pod is in line at the lock that the pod has. -/
  entry : ∀ {task pod lock}, (stage task).InLine pod lock → l.entries.get? pod = some lock
  mem_line : ∀ {task lock}, task ∈ l.line lock ↔ ∃ pod, (stage task).InLine pod lock
  nodup : ∀ lock, (l.line lock).Nodup
  first : ∀ {task pod lock}, stage task = .holding pod lock → (l.line lock).head? = some task
  /-- Two pods never have the same lock. -/
  inj : ∀ {pod pod' lock}, l.entries.get? pod = some lock → l.entries.get? pod' = some lock →
    pod = pod'
  old : ∀ {pod lock}, l.entries.get? pod = some lock → lock < l.fresh
  /-- A lock is kept for someone only. -/
  used : ∀ {pod lock}, l.entries.get? pod = some lock →
    ∃ task, (stage task).InLine pod lock ∨ stage task = .leaving pod

theorem sound_empty : empty.Sound fun _ => .away := by
  constructor <;> simp [empty, line]

namespace Sound

variable {l : Locks} {stage : Nat → LockStage}

/-- At most one task holds the lock of a pod. -/
theorem holder_unique (h : l.Sound stage) {task task' lock lock' : Nat} {pod : ObjectKey}
    (ht : stage task = .holding pod lock) (ht' : stage task' = .holding pod lock') :
    task = task' := by
  have hlock : some lock = some lock' :=
    (h.entry (.inr ht)).symm.trans (h.entry (.inr ht'))
  obtain rfl := Option.some.inj hlock
  exact Option.some.inj ((h.first ht).symm.trans (h.first ht'))

/-- Nobody holds the lock of a pod while another task is first in line at it. -/
theorem not_held_of_first (h : l.Sound stage) {task task' lock lock' : Nat} {pod : ObjectKey}
    (ht : stage task = .waiting pod lock) (first : l.holds lock task = true) :
    stage task' ≠ .holding pod lock' := by
  intro ht'
  have hlock : some lock = some lock' :=
    (h.entry (.inl ht)).symm.trans (h.entry (.inr ht'))
  obtain rfl := Option.some.inj hlock
  have hhead : (l.line lock).head? = some task := by simpa [holds] using first
  obtain rfl := Option.some.inj (hhead.symm.trans (h.first ht'))
  rw [ht] at ht'
  cases ht'

/-! ## What one step preserves -/

variable {l' : Locks} {stage' : Nat → LockStage} {task : Nat} {s' : LockStage}

/-- Who was away joins the line at a lock that is there. -/
private theorem join (h : l.Sound stage) {pod : ObjectKey} {lock : Nat}
    (away : stage task = .away) (he : l.entries.get? pod = some lock)
    (hstage : ∀ i, stage' i = if i = task then .waiting pod lock else stage i) :
    ({ l with lines := l.lines.put lock (l.line lock ++ [task]) } : Locks).Sound stage' := by
  have hnot : ∀ lock', task ∉ l.line lock' := by
    intro lock' hm
    obtain ⟨p, hp⟩ := h.mem_line.1 hm
    simp [away] at hp
  refine ⟨?entry, ?mem_line, ?nodup, ?first, h.inj, h.old, ?used⟩
  case entry =>
    intro i p k hi
    rw [hstage] at hi
    split at hi
    · obtain ⟨rfl, rfl⟩ := LockStage.inLine_waiting.1 hi
      exact he
    · exact h.entry hi
  case mem_line =>
    intro i k
    rw [line_put, hstage]
    by_cases hi : i = task
    · subst hi
      by_cases hk : k = lock
      · simp [hk]
      · simp [hk, Ne.symm hk, hnot k]
    · by_cases hk : k = lock <;> simp [hi, hk, h.mem_line]
  case nodup =>
    intro k
    rw [line_put]
    split
    · have hlock := h.nodup lock
      have htask := hnot lock
      grind
    · exact h.nodup k
  case first =>
    intro i p k hi
    rw [hstage] at hi
    split at hi
    · cases hi
    · rw [line_put]
      split
      · next hk => subst hk; simp [h.first hi]
      · exact h.first hi
  case used =>
    intro p k hp
    obtain ⟨i, hi⟩ := h.used hp
    refine ⟨i, ?_⟩
    rw [hstage, if_neg]
    · exact hi
    · rintro rfl
      simp [away] at hi

/-- Who was away makes a lock. -/
private theorem make (h : l.Sound stage) {pod : ObjectKey} (away : stage task = .away)
    (he : l.entries.get? pod = none)
    (hstage : ∀ i, stage' i = if i = task then .waiting pod l.fresh else stage i) :
    Sound ⟨l.entries.put pod l.fresh, l.lines.put l.fresh [task], l.fresh + 1⟩ stage' := by
  have hline : ∀ k, line ⟨l.entries.put pod l.fresh, l.lines.put l.fresh [task], l.fresh + 1⟩ k
      = if k = l.fresh then [task] else l.line k := by
    intro k
    unfold line
    simp only [Keyed.get?_put]
    split <;> rfl
  have hold : ∀ {i p k}, (stage i).InLine p k → p ≠ pod ∧ k ≠ l.fresh := by
    intro i p k hi
    have hp := h.entry hi
    refine ⟨?_, Nat.ne_of_lt (h.old hp)⟩
    rintro rfl
    rw [he] at hp
    cases hp
  refine ⟨?entry, ?mem_line, ?nodup, ?first, ?inj, ?old, ?used⟩
  case entry =>
    intro i p k hi
    rw [hstage] at hi
    rw [Keyed.get?_put]
    split at hi
    · obtain ⟨rfl, rfl⟩ := LockStage.inLine_waiting.1 hi
      simp
    · rw [if_neg (hold hi).1]
      exact h.entry hi
  case mem_line =>
    intro i k
    rw [hline, hstage]
    by_cases hi : i = task
    · subst hi
      by_cases hk : k = l.fresh
      · simp [hk]
      · have hnot : i ∉ l.line k := by
          rw [h.mem_line, away]
          simp
        simp [hk, Ne.symm hk, hnot]
    · by_cases hk : k = l.fresh
      · have : ¬∃ p, (stage i).InLine p k := by
          rintro ⟨p, hp⟩
          exact (hold hp).2 hk
        simpa [hi, hk] using this
      · simp [hi, hk, h.mem_line]
  case nodup =>
    intro k
    rw [hline]
    split
    · simp
    · exact h.nodup k
  case first =>
    intro i p k hi
    rw [hstage] at hi
    split at hi
    · cases hi
    · rw [hline, if_neg (hold (.inr hi)).2]
      exact h.first hi
  case inj =>
    intro p p' k hp hp'
    rw [Keyed.get?_put] at hp hp'
    split at hp <;> split at hp'
    · next a b => rw [a, b]
    · have := h.old hp'; cases hp; omega
    · have := h.old hp; cases hp'; omega
    · exact h.inj hp hp'
  case old =>
    intro p k hp
    rw [Keyed.get?_put] at hp
    split at hp
    · cases hp; exact Nat.lt_succ_self _
    · exact Nat.lt_succ_of_lt (h.old hp)
  case used =>
    intro p k hp
    rw [Keyed.get?_put] at hp
    split at hp
    · next hpod => cases hp; exact ⟨task, .inl (by simp [hstage, hpod])⟩
    · obtain ⟨i, hi⟩ := h.used hp
      refine ⟨i, ?_⟩
      rw [hstage, if_neg]
      · exact hi
      · rintro rfl
        simp [away] at hi

/-- The first in line holds the lock. -/
private theorem grant (h : l.Sound stage) {pod : ObjectKey} {lock : Nat}
    (waiting : stage task = .waiting pod lock) (first : l.holds lock task = true)
    (hstage : ∀ i, stage' i = if i = task then .holding pod lock else stage i) :
    l.Sound stage' := by
  have same : ∀ i p k, (stage' i).InLine p k ↔ (stage i).InLine p k := by
    intro i p k
    rw [hstage]
    split
    · next hi => subst hi; simp [waiting]
    · rfl
  refine ⟨fun hi => h.entry ((same _ _ _).1 hi), ?mem_line, h.nodup, ?first, h.inj, h.old, ?used⟩
  case mem_line =>
    intro i k
    simp only [same, h.mem_line]
  case first =>
    intro i p k hi
    rw [hstage] at hi
    split at hi
    · next hit => cases hi; subst hit; simpa [holds] using first
    · exact h.first hi
  case used =>
    intro p k hp
    obtain ⟨i, hi⟩ := h.used hp
    refine ⟨i, hi.imp (same _ _ _).2 fun hleave => ?_⟩
    rw [hstage, if_neg]
    · exact hleave
    · rintro rfl
      simp [waiting] at hleave

/-- The holder leaves the line. -/
private theorem letGo (h : l.Sound stage) {pod : ObjectKey} {lock : Nat}
    (holding : stage task = .holding pod lock)
    (hstage : ∀ i, stage' i = if i = task then .leaving pod else stage i) :
    (l.release lock task).Sound stage' := by
  have hin : ∀ i p k, (stage' i).InLine p k ↔ i ≠ task ∧ (stage i).InLine p k := by
    intro i p k
    rw [hstage]
    split
    · next hi => simp [hi]
    · next hi => simp [hi]
  refine ⟨fun hi => h.entry ((hin _ _ _).1 hi).2, ?mem_line, ?nodup, ?first, h.inj, h.old, ?used⟩
  case mem_line =>
    intro i k
    rw [line_release]
    by_cases hk : k = lock
    · simp [hk, (h.nodup lock).mem_erase_iff, hin, h.mem_line]
    · have hnot : task ∉ l.line k := by
        rw [h.mem_line, holding]
        rintro ⟨p, hp⟩
        exact hk (LockStage.inLine_holding.1 hp).2.symm
      simp only [hk, if_false, hin]
      by_cases hi : i = task
      · simp [hi, hnot]
      · simp [hi, h.mem_line]
  case nodup =>
    intro k
    rw [line_release]
    split
    · exact (h.nodup lock).erase task
    · exact h.nodup k
  case first =>
    intro i p k hi
    rw [hstage] at hi
    split at hi
    · cases hi
    · next hne =>
      rw [line_release, if_neg]
      · exact h.first hi
      · rintro rfl
        exact hne (Option.some.inj ((h.first hi).symm.trans (h.first holding)))
  case used =>
    intro p k hp
    obtain ⟨i, hi⟩ := h.used hp
    refine ⟨i, ?_⟩
    rw [hstage]
    split
    · next hit =>
      subst hit
      rw [holding] at hi
      simp only [LockStage.inLine_holding, reduceCtorEq, or_false] at hi
      exact .inr (by rw [hi.1])
    · exact hi

/-- Who has left forgets the lock that the pod has now, if nobody is in line at it. -/
private theorem forget (h : l.Sound stage) {pod : ObjectKey} (leaving : stage task = .leaving pod)
    (hstage : ∀ i, stage' i = if i = task then .away else stage i) :
    (l.sweep pod).Sound stage' := by
  have hin : ∀ i p k, (stage' i).InLine p k ↔ (stage i).InLine p k := by
    intro i p k
    rw [hstage]
    split
    · next hi => simp [hi, leaving]
    · rfl
  have hsub : ∀ {p k}, (l.sweep pod).entries.get? p = some k → l.entries.get? p = some k := by
    intro p k hp
    rw [entries_sweep] at hp
    split at hp
    · cases hp
    · exact hp
  refine ⟨?entry, ?mem_line, ?nodup, ?first, fun hp hp' => h.inj (hsub hp) (hsub hp'), ?old, ?used⟩
  case entry =>
    intro i p k hi
    have hp := h.entry ((hin _ _ _).1 hi)
    rw [entries_sweep, if_neg]
    · exact hp
    · rintro ⟨rfl, hempty⟩
      have hm : i ∈ l.line k := h.mem_line.2 ⟨p, (hin _ _ _).1 hi⟩
      rw [hempty k hp] at hm
      cases hm
  case mem_line =>
    intro i k
    rw [line_sweep]
    simp only [hin, h.mem_line]
  case nodup =>
    intro k
    rw [line_sweep]
    exact h.nodup k
  case first =>
    intro i p k hi
    rw [line_sweep]
    rw [hstage] at hi
    split at hi
    · cases hi
    · exact h.first hi
  case old =>
    intro p k hp
    rw [fresh_sweep]
    exact h.old (hsub hp)
  case used =>
    intro p k hp
    have hold := hsub hp
    obtain ⟨i, hi⟩ := h.used hold
    by_cases hit : i = task
    · subst hit
      rw [leaving] at hi
      simp only [LockStage.not_inLine_leaving, false_or, LockStage.leaving.injEq] at hi
      subst hi
      -- the lock was not forgotten, so that someone is in line at it
      rw [entries_sweep] at hp
      split at hp
      · cases hp
      · next hkept =>
        have hline : l.line k ≠ [] := by
          intro hempty
          refine hkept ⟨rfl, fun k' hk' => ?_⟩
          obtain rfl := Option.some.inj (hold.symm.trans hk')
          exact hempty
        obtain ⟨j, hj⟩ := List.exists_mem_of_ne_nil _ hline
        obtain ⟨p, hjp⟩ := h.mem_line.1 hj
        obtain rfl := h.inj (h.entry hjp) hold
        exact ⟨j, .inl ((hin _ _ _).2 hjp)⟩
    · exact ⟨i, by rw [hstage, if_neg hit]; exact hi⟩

theorem step (h : l.Sound stage) (step : Step l task (stage task) l' s')
    (hstage : ∀ i, stage' i = if i = task then s' else stage i) : l'.Sound stage' := by
  generalize hs : stage task = s at step
  cases step with
  | ask pod =>
    cases he : l.entries.get? pod with
    | none =>
      have hr : l.request pod task = (l.fresh, ⟨l.entries.put pod l.fresh,
        l.lines.put l.fresh [task], l.fresh + 1⟩) := by simp [request, he]
      rw [hr] at hstage ⊢
      exact h.make hs he hstage
    | some lock =>
      have hr : l.request pod task
        = (lock, { l with lines := l.lines.put lock (l.line lock ++ [task]) }) := by
        simp [request, he]
      rw [hr] at hstage ⊢
      exact h.join hs he hstage
  | grant first => exact h.grant hs first hstage
  | release pod lock => exact h.letGo hs hstage
  | sweep pod => exact h.forget hs hstage

end Sound

end Locks

end NetAttach
