-- SUMMARY: Which delays double with every try, and where doubling ends before the ceiling is reached.
import NetAttach.Proofs.Limiters
import Mathlib.Algebra.Ring.Nat

/-!
# Back-off

The delay of an item doubles with each try up to a ceiling. The factor has 32 bits, so
that it stays at its largest value from the 33rd try on: a base delay that is small
enough beside the ceiling never gets there.
-/

namespace NetAttach

variable {α : Type} [DecidableEq α] {base ceiling : Nat}

/-- The largest factor of a back-off. -/
def maxFactor : Nat := 0xFFFFFFFF

/-- The factor doubles with each failure until it is the largest. -/
theorem backoffFactor_eq (failures : Nat) : backoffFactor failures = min (2 ^ failures) maxFactor := by
  unfold backoffFactor
  split
  · next few =>
    have small : 2 ^ failures ≤ 2 ^ 31 := Nat.pow_le_pow_right (by decide) (Nat.le_of_lt_succ few)
    rw [Nat.one_shiftLeft, Nat.min_eq_left (Nat.le_trans small (by decide))]
  · next many =>
    have large : 2 ^ 32 ≤ 2 ^ failures := Nat.pow_le_pow_right (by decide) (Nat.not_lt.1 many)
    rw [Nat.min_eq_right (Nat.le_trans (by decide) large)]
    rfl

/-- A product that is out of bounds is above every ceiling. -/
theorem backoff_eq (bounded : ceiling < delayBound) (failures : Nat) :
    backoff base ceiling failures = min (base * min (2 ^ failures) maxFactor) ceiling := by
  unfold backoff
  rw [backoffFactor_eq]
  dsimp only
  split
  · rfl
  · next outside =>
    exact (Nat.min_eq_right (Nat.le_trans (Nat.le_of_lt bounded) (Nat.not_lt.1 outside))).symm

/-- The factor is the largest long before counting stops. -/
theorem min_pow_maxCount (n : Nat) : min (2 ^ min n Tally.maxCount) maxFactor = min (2 ^ n) maxFactor := by
  rw [← backoffFactor_eq, ← backoffFactor_eq]
  unfold backoffFactor
  have many : 32 ≤ Tally.maxCount := by decide
  by_cases few : n < 32
  · rw [Nat.min_eq_left (by omega)]
  · rw [if_neg few, if_neg (by omega)]

/-- The largest factor does for the power itself if there are few tries, or if either product is zero
or above the ceiling. -/
theorem min_factor_eq_iff {n : Nat} :
    min (base * min (2 ^ n) maxFactor) ceiling = min (base * 2 ^ n) ceiling
      ↔ n < 32 ∨ base = 0 ∨ ceiling ≤ base * maxFactor := by
  have factor := backoffFactor_eq n
  unfold backoffFactor at factor
  by_cases few : n < 32
  · rw [if_pos few, Nat.one_shiftLeft] at factor
    rw [← factor]
    exact iff_of_true rfl (.inl few)
  rw [if_neg few] at factor
  have less : maxFactor < 2 ^ n :=
    Nat.lt_of_lt_of_le (by decide : maxFactor < 2 ^ 32) (Nat.pow_le_pow_right (by decide) (Nat.not_lt.1 few))
  rw [← factor]
  show min (base * maxFactor) ceiling = _ ↔ _
  obtain rfl | positive := Nat.eq_zero_or_pos base
  · simp
  · have product : base * maxFactor < base * 2 ^ n := Nat.mul_lt_mul_of_pos_left less positive
    omega

namespace Limiter

/-- The delay of an item is the base delay times two to the number of tries since the item was last
forgotten, or the ceiling if that is shorter, where the factor is at most the largest of 32 bits. So
it is the exact product, cut at the ceiling, for the first 32 tries, and afterwards only for a base
delay that is zero or reaches the ceiling with the largest factor. -/
theorem delay_doubles_while_the_factor_grows (base : Nat) (bounded : ceiling < delayBound)
    (calls : List (LimiterCall α)) (clock : Nat) (x : α) :
    (((exponential base ceiling .empty).run calls).delay clock x).1
        = min (base * min (2 ^ tries x calls) maxFactor) ceiling
      ∧ ((((exponential base ceiling .empty).run calls).delay clock x).1
          = min (base * 2 ^ tries x calls) ceiling
        ↔ tries x calls < 32 ∨ base = 0 ∨ ceiling ≤ base * maxFactor) := by
  obtain ⟨counted, same, count⟩ := run_exponential base ceiling Tally.count_empty calls
  have answer : (((exponential base ceiling .empty).run calls).delay clock x).1
      = min (base * min (2 ^ tries x calls) maxFactor) ceiling := by
    rw [same]
    show backoff base ceiling (counted.count x) = _
    rw [backoff_eq bounded, count, min_pow_maxCount]
  exact ⟨answer, answer ▸ min_factor_eq_iff⟩

/-- The third delay of an item is four times the base delay, whatever happens to another item. -/
theorem third_delay_is_doubled_twice :
    let calls : List (LimiterCall Nat) := [.delay 0 7, .delay 0 8, .delay 0 7, .forget 8]
    1000 * second < delayBound ∧ tries 7 calls = 2
      ∧ (((exponential (5 * millisecond) (1000 * second) .empty).run calls).delay 0 7).1
        = min (5 * millisecond * 2 ^ tries 7 calls) (1000 * second)
      ∧ min (5 * millisecond * 2 ^ tries 7 calls) (1000 * second) = 20 * millisecond := by
  intro calls
  have bounded : 1000 * second < delayBound := by decide
  have twice : tries 7 calls = 2 := by decide
  exact ⟨bounded, twice, (delay_doubles_while_the_factor_grows _ bounded calls 0 7).2.2
    (.inl (by omega)), by decide⟩

/-- A nanosecond is not doubled for the 32nd time, although the ceiling is far. -/
theorem doubling_ends_below_the_ceiling :
    let calls : List (LimiterCall Nat) := List.replicate 32 (.delay 0 7)
    1000 * second < delayBound ∧ tries 7 calls = 32
      ∧ (((exponential 1 (1000 * second) .empty).run calls).delay 0 7).1 = 4294967295
      ∧ (((exponential 1 (1000 * second) .empty).run calls).delay 0 7).1
        ≠ min (1 * 2 ^ tries 7 calls) (1000 * second) := by
  decide +kernel

end Limiter

end NetAttach
