-- SUMMARY: What a tree of limiters answers and has counted, told by the calls that it got.
import NetAttach.Queue.Limiter
import Mathlib.Data.List.Induction
import Mathlib.Data.List.MinMax
import Mathlib.Order.Nat

/-!
# Trees of limiters

A tree asks all its leaves and answers the longest of their delays, so that it does with
every sequence of calls what its leaves do with the same sequence. A back-off knows of
the calls no more than how often each item was tried since it was last forgotten.
-/

namespace NetAttach

variable {α : Type}

/-! ## Histories -/

/-- A call of a limiter. -/
inductive LimiterCall (α : Type) where
  /-- The delay of an item is asked for, at a time that the buckets read. -/
  | delay (clock : Nat) (x : α)
  | forget (x : α)
deriving DecidableEq

/-- The item of a call. -/
def LimiterCall.item : LimiterCall α → α
  | .delay _ x => x
  | .forget x => x

@[simp] theorem LimiterCall.item_delay (clock : Nat) (x : α) : (delay clock x).item = x := rfl

@[simp] theorem LimiterCall.item_forget (x : α) : (forget x).item = x := rfl

namespace Limiter

variable [DecidableEq α]

/-- How often the delay of an item was asked for since the item was last forgotten. -/
def tries (x : α) (calls : List (LimiterCall α)) : Nat :=
  (calls.reverse.takeWhile (· ≠ .forget x)).countP (·.item = x)

theorem tries_delay (x : α) (calls : List (LimiterCall α)) (clock : Nat) (y : α) :
    tries x (calls ++ [.delay clock y]) = tries x calls + if y = x then 1 else 0 := by
  by_cases same : y = x <;> simp [tries, same]

theorem tries_forget (x : α) (calls : List (LimiterCall α)) (y : α) :
    tries x (calls ++ [.forget y]) = if y = x then 0 else tries x calls := by
  by_cases same : y = x <;> simp [tries, same]

/-- The calls for other items do not count. -/
theorem tries_filter (x : α) (calls : List (LimiterCall α)) :
    tries x (calls.filter (·.item = x)) = tries x calls := by
  induction calls using List.reverseRecOn with
  | nil => rfl
  | append_singleton calls call ih =>
    rw [List.filter_append]
    cases call with
    | delay clock y =>
      by_cases same : y = x <;> simp [same, tries_delay, ih]
    | forget y =>
      by_cases same : y = x <;> simp [same, tries_forget, ih]

end Limiter

/-! ## The longest delay -/

/-- The longest of several delays, and none if there are none. -/
def longest (delays : List Nat) : Nat := delays.foldr max 0

theorem longest_append (ds es : List Nat) : longest (ds ++ es) = max (longest ds) (longest es) := by
  induction ds with
  | nil => simp [longest]
  | cons d ds ih =>
    simp only [longest, List.cons_append, List.foldr_cons] at ih ⊢
    rw [ih, Nat.max_assoc]

theorem longest_flatMap {β : Type} (f : β → List Nat) (xs : List β) :
    longest (xs.flatMap f) = longest (xs.map fun x => longest (f x)) := by
  induction xs with
  | nil => rfl
  | cons x xs ih =>
    rw [List.flatMap_cons, longest_append, ih]
    rfl

theorem le_longest {d : Nat} {ds : List Nat} (h : d ∈ ds) : d ≤ longest ds :=
  List.le_max_of_le h (Nat.le_refl d)

theorem longest_le {n : Nat} {ds : List Nat} (h : ∀ d ∈ ds, d ≤ n) : longest ds ≤ n :=
  List.max_le_of_forall_le ds n h

/-! ## Trees and their leaves -/

namespace Limiter

/-- What holds of the leaves, and of a node if it holds of its parts, holds of all trees. -/
@[elab_as_elim]
theorem byParts {P : Limiter α → Prop}
    (exponential : ∀ base ceiling failures, P (.exponential base ceiling failures))
    (bucket : ∀ tokens, P (.bucket tokens))
    (maxOf : ∀ parts, (∀ l ∈ parts, P l) → P (.maxOf parts)) (l : Limiter α) : P l :=
  @Limiter.rec α P (fun ls => ∀ l ∈ ls, P l) exponential bucket maxOf (List.forall_mem_nil _)
    (fun _ _ first others => List.forall_mem_cons.2 ⟨first, others⟩) l

mutual

/-- The leaves of a tree. -/
def leaves : Limiter α → List (Limiter α)
  | .maxOf parts => leavesAll parts
  | .exponential base ceiling failures => [.exponential base ceiling failures]
  | .bucket tokens => [.bucket tokens]

/-- The leaves of several trees. -/
def leavesAll : List (Limiter α) → List (Limiter α)
  | [] => []
  | l :: ls => l.leaves ++ leavesAll ls

end

theorem leavesAll_eq (ls : List (Limiter α)) : leavesAll ls = ls.flatMap leaves := by
  induction ls with
  | nil => rfl
  | cons l ls ih => rw [leavesAll, ih, List.flatMap_cons]

@[simp] theorem leaves_exponential (base ceiling : Nat) (failures : Tally α) :
    (exponential base ceiling failures).leaves = [exponential base ceiling failures] := rfl

@[simp] theorem leaves_bucket (tokens : Bucket) : (bucket tokens : Limiter α).leaves = [bucket tokens] := rfl

@[simp] theorem leaves_maxOf (parts : List (Limiter α)) : (maxOf parts).leaves = parts.flatMap leaves :=
  leavesAll_eq parts

/-- A leaf counts the failures of each item, or it is a bucket. -/
theorem leaf_cases {l leaf : Limiter α} (h : leaf ∈ l.leaves) :
    (∃ base ceiling failures, leaf = .exponential base ceiling failures)
      ∨ ∃ tokens, leaf = .bucket tokens := by
  induction l using byParts with
  | exponential base ceiling failures => exact .inl ⟨base, ceiling, failures, List.mem_singleton.1 h⟩
  | bucket tokens => exact .inr ⟨tokens, List.mem_singleton.1 h⟩
  | maxOf parts ih =>
    rw [leaves_maxOf, List.mem_flatMap] at h
    obtain ⟨part, mem, h⟩ := h
    exact ih part mem h

/-- Some leaf counts failures. -/
def Counts (l : Limiter α) : Prop := ∃ base ceiling failures, exponential base ceiling failures ∈ l.leaves

variable [DecidableEq α]

theorem delayAll_eq (clock : Nat) (x : α) (ls : List (Limiter α)) :
    delayAll clock x ls
      = (longest (ls.map fun l => (l.delay clock x).1), ls.map fun l => (l.delay clock x).2) := by
  induction ls with
  | nil => rfl
  | cons l ls ih =>
    rw [delayAll, ih]
    rfl

theorem forgetAll_eq (x : α) (ls : List (Limiter α)) : forgetAll x ls = ls.map (forget x) := by
  induction ls with
  | nil => rfl
  | cons l ls ih => rw [forgetAll, ih, List.map_cons]

theorem retriesAll_eq (x : α) (ls : List (Limiter α)) : retriesAll x ls = longest (ls.map (retries x)) := by
  induction ls with
  | nil => rfl
  | cons l ls ih =>
    rw [retriesAll, ih]
    rfl

/-- The answer is the longest delay of all leaves. -/
theorem delay_eq_longest (clock : Nat) (x : α) (l : Limiter α) :
    (l.delay clock x).1 = longest (l.leaves.map fun leaf => (leaf.delay clock x).1) := by
  induction l using byParts with
  | exponential base ceiling failures => exact (Nat.max_zero _).symm
  | bucket tokens => exact (Nat.max_zero _).symm
  | maxOf parts ih =>
    rw [leaves_maxOf, List.map_flatMap, longest_flatMap, delay, delayAll_eq]
    exact congrArg longest (List.map_congr_left ih)

/-- The count is the highest count of all leaves. -/
theorem retries_eq_longest (x : α) (l : Limiter α) :
    l.retries x = longest (l.leaves.map (retries x)) := by
  induction l using byParts with
  | exponential base ceiling failures => exact (Nat.max_zero _).symm
  | bucket tokens => exact (Nat.max_zero _).symm
  | maxOf parts ih =>
    rw [leaves_maxOf, List.map_flatMap, longest_flatMap, retries, retriesAll_eq]
    exact congrArg longest (List.map_congr_left ih)

/-! ## Calls -/

/-- The limiter after a call. -/
def after (l : Limiter α) : LimiterCall α → Limiter α
  | .delay clock x => (l.delay clock x).2
  | .forget x => l.forget x

/-- The limiter after calls one after the other. -/
def run (l : Limiter α) (calls : List (LimiterCall α)) : Limiter α := calls.foldl after l

@[simp] theorem after_maxOf (parts : List (Limiter α)) (call : LimiterCall α) :
    (maxOf parts).after call = maxOf (parts.map (·.after call)) := by
  cases call with
  | delay clock x => simp only [after, delay, delayAll_eq]
  | forget x => simp only [after, forget, forgetAll_eq]

/-- A call of a tree is one call of every leaf. -/
theorem leaves_after (l : Limiter α) (call : LimiterCall α) :
    (l.after call).leaves = l.leaves.map (·.after call) := by
  induction l using byParts with
  | exponential base ceiling failures => cases call <;> rfl
  | bucket tokens => cases call <;> rfl
  | maxOf parts ih =>
    rw [after_maxOf, leaves_maxOf, leaves_maxOf, List.flatMap_map, List.map_flatMap]
    exact List.flatMap_congr ih

theorem leaves_run (l : Limiter α) (calls : List (LimiterCall α)) :
    (l.run calls).leaves = l.leaves.map (·.run calls) := by
  induction calls generalizing l with
  | nil => exact (List.map_id _).symm
  | cons call calls ih =>
    show ((l.after call).run calls).leaves = _
    rw [ih, leaves_after, List.map_map]
    rfl

theorem run_append (l : Limiter α) (calls more : List (LimiterCall α)) :
    l.run (calls ++ more) = (l.run calls).run more := List.foldl_append

theorem run_concat (l : Limiter α) (calls : List (LimiterCall α)) (call : LimiterCall α) :
    l.run (calls ++ [call]) = (l.run calls).after call := by
  rw [run, List.foldl_concat, run]

theorem run_bucket (tokens : Bucket) (calls : List (LimiterCall α)) :
    ∃ left, (bucket tokens).run calls = bucket left := by
  induction calls using List.reverseRecOn with
  | nil => exact ⟨tokens, rfl⟩
  | append_singleton calls call ih =>
    obtain ⟨left, same⟩ := ih
    rw [run_concat, same]
    cases call with
    | delay clock x => exact ⟨_, rfl⟩
    | forget x => exact ⟨left, rfl⟩

/-- A back-off that has counted nothing counts the calls up to the highest count. -/
theorem run_exponential (base ceiling : Nat) {failures : Tally α} (new : ∀ x, failures.count x = 0)
    (calls : List (LimiterCall α)) :
    ∃ counted, (exponential base ceiling failures).run calls = exponential base ceiling counted
      ∧ ∀ x, counted.count x = min (tries x calls) Tally.maxCount := by
  induction calls using List.reverseRecOn with
  | nil => exact ⟨failures, rfl, fun x => (new x).trans (Nat.zero_min _).symm⟩
  | append_singleton calls call ih =>
    obtain ⟨counted, same, count⟩ := ih
    rw [run_concat, same]
    cases call with
    | delay clock y =>
      refine ⟨counted.bump y, rfl, fun x => ?_⟩
      rw [Tally.count_bump, tries_delay, count, count]
      by_cases h : x = y
      · rw [if_pos h, if_pos h.symm, h]
        omega
      · rw [if_neg h, if_neg (Ne.symm h), Nat.add_zero]
    | forget y =>
      refine ⟨counted.clear y, rfl, fun x => ?_⟩
      rw [Tally.count_clear, tries_forget, count]
      by_cases h : x = y
      · rw [if_pos h, if_pos h.symm, Nat.zero_min]
      · rw [if_neg h, if_neg (Ne.symm h)]

/-- A back-off leaf of a tree that has counted nothing has counted nothing. -/
theorem count_of_leaf {l : Limiter α} (new : ∀ x, l.retries x = 0) {base ceiling : Nat}
    {failures : Tally α} (leaf : exponential base ceiling failures ∈ l.leaves) (x : α) :
    failures.count x = 0 := by
  have le := le_longest (List.mem_map_of_mem (f := retries x) leaf)
  rw [← retries_eq_longest, new x] at le
  exact Nat.le_zero.1 le

/-- No leaf of a tree that had counted nothing counts more than the calls, and buckets count nothing. -/
theorem retries_leaf_le {l leaf : Limiter α} (new : ∀ x, l.retries x = 0) (mem : leaf ∈ l.leaves)
    (calls : List (LimiterCall α)) (x : α) :
    (leaf.run calls).retries x ≤ min (tries x calls) Tally.maxCount := by
  obtain ⟨base, ceiling, failures, rfl⟩ | ⟨tokens, rfl⟩ := leaf_cases mem
  · obtain ⟨counted, same, count⟩ := run_exponential base ceiling (count_of_leaf new mem) calls
    rw [same]
    exact Nat.le_of_eq (count x)
  · obtain ⟨left, same⟩ := run_bucket (α := α) tokens calls
    rw [same]
    exact Nat.zero_le _

theorem retries_run (l : Limiter α) (calls : List (LimiterCall α)) (x : α) :
    (l.run calls).retries x = longest (l.leaves.map fun leaf => (leaf.run calls).retries x) := by
  rw [retries_eq_longest, leaves_run, List.map_map]
  rfl

theorem retries_run_of_counts {l : Limiter α} (new : ∀ x, l.retries x = 0) (counts : l.Counts)
    (calls : List (LimiterCall α)) (x : α) :
    (l.run calls).retries x = min (tries x calls) Tally.maxCount := by
  obtain ⟨base, ceiling, failures, mem⟩ := counts
  obtain ⟨counted, same, count⟩ := run_exponential base ceiling (count_of_leaf new mem) calls
  rw [retries_run]
  refine Nat.le_antisymm (longest_le ?_) (le_longest ?_)
  · rw [List.forall_mem_map]
    exact fun leaf mem => retries_leaf_le new mem calls x
  · refine List.mem_map.2 ⟨_, mem, ?_⟩
    rw [same]
    exact count x

theorem retries_run_of_not_counts {l : Limiter α} (none : ¬l.Counts) (calls : List (LimiterCall α))
    (x : α) : (l.run calls).retries x = 0 := by
  rw [retries_run, ← Nat.le_zero]
  refine longest_le (List.forall_mem_map.2 fun leaf mem => ?_)
  obtain ⟨base, ceiling, failures, rfl⟩ | ⟨tokens, rfl⟩ := leaf_cases mem
  · exact absurd ⟨base, ceiling, failures, mem⟩ none
  · obtain ⟨left, same⟩ := run_bucket (α := α) tokens calls
    rw [same]
    exact Nat.le_refl 0

/-- After any calls of a tree that had counted nothing, the count of an item is how often its delay
was asked for since it was last forgotten, up to the highest count, if there is a back-off among the
leaves, and otherwise zero. Every call is one call of each leaf, and the answer is the longest of the
answers that the leaves give to it. So every back-off counts each call, whichever leaf has the longest
delay, and the calls for other items matter neither to the count of an item nor to its back-off. -/
theorem tree_counts_in_every_leaf (l : Limiter α) (new : ∀ x, l.retries x = 0)
    (calls : List (LimiterCall α)) :
    (∀ x, (l.Counts → (l.run calls).retries x = min (tries x calls) Tally.maxCount)
        ∧ (¬l.Counts → (l.run calls).retries x = 0))
      ∧ (l.run calls).leaves = l.leaves.map (·.run calls)
      ∧ (∀ clock x, ((l.run calls).delay clock x).1
          = longest (l.leaves.map fun leaf => ((leaf.run calls).delay clock x).1))
      ∧ (∀ base ceiling failures, exponential base ceiling failures ∈ l.leaves → ∀ clock x,
          ((exponential base ceiling failures).run calls).retries x = min (tries x calls) Tally.maxCount
            ∧ (((exponential base ceiling failures).run calls).delay clock x).1
              = backoff base ceiling (min (tries x calls) Tally.maxCount))
      ∧ ∀ x, (l.run calls).retries x = (l.run (calls.filter (·.item = x))).retries x
          ∧ ∀ base ceiling failures, exponential base ceiling failures ∈ l.leaves → ∀ clock,
              (((exponential base ceiling failures).run calls).delay clock x).1
                = (((exponential base ceiling failures).run (calls.filter (·.item = x))).delay clock x).1 := by
  have leaf {base ceiling : Nat} {failures : Tally α} (mem : exponential base ceiling failures ∈ l.leaves)
      (calls : List (LimiterCall α)) (clock : Nat) (x : α) :
      ((exponential base ceiling failures).run calls).retries x = min (tries x calls) Tally.maxCount
        ∧ (((exponential base ceiling failures).run calls).delay clock x).1
          = backoff base ceiling (min (tries x calls) Tally.maxCount) := by
    obtain ⟨counted, same, count⟩ := run_exponential base ceiling (count_of_leaf new mem) calls
    rw [same, ← count x]
    exact ⟨rfl, rfl⟩
  refine ⟨fun x => ⟨fun counts => retries_run_of_counts new counts calls x,
    fun none => retries_run_of_not_counts none calls x⟩, leaves_run l calls, fun clock x => ?_,
    fun base ceiling failures mem clock x => leaf mem calls clock x,
    fun x => ⟨?_, fun base ceiling failures mem clock => ?_⟩⟩
  · rw [delay_eq_longest, leaves_run, List.map_map]
    rfl
  · by_cases counts : l.Counts
    · rw [retries_run_of_counts new counts, retries_run_of_counts new counts, tries_filter]
    · rw [retries_run_of_not_counts counts, retries_run_of_not_counts counts]
  · rw [(leaf mem calls clock x).2, (leaf mem (calls.filter (·.item = x)) clock x).2, tries_filter]

/-- A back-off of a second and one of five milliseconds count alike, below a node each, and the bucket
beside them does not. -/
theorem shorter_delay_is_counted :
    let l : Limiter Nat := .maxOf [.exponential second (10 * second) .empty,
      .maxOf [.exponential (5 * millisecond) (10 * second) .empty, .bucket (.ofRate 10 100)], .maxOf []]
    let calls : List (LimiterCall Nat) := [.delay 0 1, .delay 0 2, .delay 0 1, .forget 2]
    (∀ x, l.retries x = 0) ∧ l.Counts ∧ tries 1 calls = 2 ∧ (l.run calls).retries 1 = 2
      ∧ (l.run calls).retries 2 = 0
      ∧ ((Limiter.exponential (5 * millisecond) (10 * second) .empty).run calls).retries 1 = 2 := by
  intro l calls
  have new : ∀ x, l.retries x = 0 := fun x => rfl
  have counts : l.Counts := ⟨second, 10 * second, .empty, by simp [l]⟩
  obtain ⟨root, -, -, leaf, -⟩ := tree_counts_in_every_leaf l new calls
  exact ⟨new, counts, by decide, (root 1).1 counts, (root 2).1 counts,
    (leaf _ _ _ (by simp [l]) 0 1).1⟩

end Limiter

end NetAttach
