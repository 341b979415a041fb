-- SUMMARY: Delay policies for items that are tried again, with the count of tries of each item.
import NetAttach.Keyed

/-!
# Limiters

A limiter says how long an item waits before it is delivered again. Limiters form a
tree: the leaves are back-offs, which double the delay of one item with each failure,
and buckets, which all items share; an inner node answers the longest delay of its
parts. Times are in nanoseconds.
-/

namespace NetAttach

-- ---------------------------------------------------------------------------
-- Counting
-- ---------------------------------------------------------------------------

/-- How often each item failed. An item that is not listed did not fail. -/
structure Tally (α : Type) where
  counts : Keyed α Nat
deriving Repr, DecidableEq

namespace Tally

variable {α : Type} [DecidableEq α]

/-- The count at which counting stops. -/
def maxCount : Nat := 0xFFFFFFFF

def empty : Tally α := ⟨.empty⟩

def count (t : Tally α) (x : α) : Nat := (t.counts.get? x).getD 0

/-- Forget an item. -/
def clear (t : Tally α) (x : α) : Tally α := ⟨t.counts.erase x⟩

/-- Count one more failure of an item. -/
def bump (t : Tally α) (x : α) : Tally α := ⟨t.counts.put x (min (t.count x + 1) maxCount)⟩

@[simp] theorem count_empty (x : α) : (empty : Tally α).count x = 0 := rfl

theorem count_clear (t : Tally α) (x y : α) :
    (t.clear x).count y = if y = x then 0 else t.count y := by
  unfold count clear
  rw [Keyed.get?_erase]
  split <;> rfl

theorem count_bump (t : Tally α) (x y : α) :
    (t.bump x).count y = if y = x then min (t.count x + 1) maxCount else t.count y := by
  unfold bump
  show ((t.counts.put x (min (t.count x + 1) maxCount)).get? y).getD 0 = _
  rw [Keyed.get?_put]
  split <;> rfl

end Tally

-- ---------------------------------------------------------------------------
-- Delays
-- ---------------------------------------------------------------------------

/-- A millisecond in nanoseconds. -/
def millisecond : Nat := 1000000

/-- A second in nanoseconds. -/
def second : Nat := 1000 * millisecond

/-- No delay reaches this length, which is 2⁶⁴ seconds. -/
def delayBound : Nat := 0x10000000000000000 * second

/-- What a base delay is multiplied by after some failures. It doubles while it fits in 32 bits. -/
def backoffFactor (failures : Nat) : Nat := if failures < 32 then 1 <<< failures else 0xFFFFFFFF

/-- The delay after some failures: the base delay times its factor, or the ceiling if that is
shorter or the product is out of bounds. -/
def backoff (base ceiling failures : Nat) : Nat :=
  let delay := base * backoffFactor failures
  if delay < delayBound then min delay ceiling else ceiling

-- ---------------------------------------------------------------------------
-- Buckets
-- ---------------------------------------------------------------------------

/-- A bucket of tokens, one of which is added in each interval. -/
structure Bucket where
  /-- The time in which a token is added. -/
  interval : Nat
  /-- As many tokens fit in. -/
  burst : Nat
  /-- When the bucket will be full, and one interval more; absent before the first use. -/
  full : Option Nat
deriving Repr, DecidableEq

/-- A full bucket that is filled `rate` times a second and holds `burst` tokens. Zero counts as
one. -/
def Bucket.ofRate (rate burst : Nat) : Bucket := ⟨second / max rate 1, max burst 1, none⟩

/-- Take a token, or say how long it takes until there is one. -/
def Bucket.take (b : Bucket) (clock : Nat) : Nat × Bucket :=
  let full := b.full.getD (clock + b.interval)
  let ready := full - b.interval * b.burst
  if clock < ready then (ready - clock, b)
  else (0, { b with full := some (max full clock + b.interval) })

-- ---------------------------------------------------------------------------
-- Trees of limiters
-- ---------------------------------------------------------------------------

/-- A delay policy and what it remembers. -/
inductive Limiter (α : Type) where
  /-- Every failure of an item doubles its delay. -/
  | exponential (base ceiling : Nat) (failures : Tally α)
  /-- A delay while the bucket is empty, whatever the item. -/
  | bucket (tokens : Bucket)
  /-- The longest delay of the parts. -/
  | maxOf (parts : List (Limiter α))

instance {α : Type} : Inhabited (Limiter α) := ⟨.maxOf []⟩

namespace Limiter

variable {α : Type} [DecidableEq α]

mutual

/-- The delay of an item, which counts as one more failure of it. The clock is read by buckets. -/
def delay (clock : Nat) (x : α) : Limiter α → Nat × Limiter α
  | .exponential base ceiling failures =>
    (backoff base ceiling (failures.count x), .exponential base ceiling (failures.bump x))
  | .bucket tokens =>
    let (wait, tokens) := tokens.take clock
    (wait, .bucket tokens)
  | .maxOf parts =>
    let (wait, parts) := delayAll clock x parts
    (wait, .maxOf parts)

/-- The longest delay of several limiters, all of which count the failure. -/
def delayAll (clock : Nat) (x : α) : List (Limiter α) → Nat × List (Limiter α)
  | [] => (0, [])
  | l :: ls =>
    let (first, l) := l.delay clock x
    let (others, ls) := delayAll clock x ls
    (max first others, l :: ls)

end

mutual

/-- Forget the failures of an item. -/
def forget (x : α) : Limiter α → Limiter α
  | .exponential base ceiling failures => .exponential base ceiling (failures.clear x)
  | .bucket tokens => .bucket tokens
  | .maxOf parts => .maxOf (forgetAll x parts)

/-- Forget the failures of an item in several limiters. -/
def forgetAll (x : α) : List (Limiter α) → List (Limiter α)
  | [] => []
  | l :: ls => l.forget x :: forgetAll x ls

end

mutual

/-- How often an item failed since it was forgotten. -/
def retries (x : α) : Limiter α → Nat
  | .exponential _ _ failures => failures.count x
  | .bucket _ => 0
  | .maxOf parts => retriesAll x parts

/-- The highest count of several limiters. -/
def retriesAll (x : α) : List (Limiter α) → Nat
  | [] => 0
  | l :: ls => max (l.retries x) (retriesAll x ls)

end

/-- Back-off from 5 milliseconds up to 1000 seconds for each item, together with a bucket of 100
tokens for all, which is filled ten times a second. -/
def standard : Limiter α :=
  .maxOf [.exponential (5 * millisecond) (1000 * second) .empty, .bucket (.ofRate 10 100)]

end Limiter

end NetAttach
