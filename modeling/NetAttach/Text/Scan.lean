-- SUMMARY: Scanners, which read the start of a text or fail, and the ways to put them together.

/-!
# Scanners

A scanner takes characters off the front of a text. A choice `p <|> q` tries `q` at
the place where `p` started, so a scanner that fails has read nothing. Repetitions
are bounded by the characters that are left, of which every round takes one.
-/

namespace NetAttach.Text

/-- Reads the start of a text and leaves the rest, or fails. -/
abbrev Scan (α : Type) : Type := StateT (List Char) Option α

namespace Scan

variable {α β : Type}

-- ---------------------------------------------------------------------------
-- Single characters
-- ---------------------------------------------------------------------------

/-- The next character, which stays where it is; none at the end. -/
def peek? : Scan (Option Char) := fun s => some (s.head?, s)

/-- A character of a class. -/
def one (p : Char → Bool) : Scan Char
  | c :: r => if p c then some (c, r) else none
  | [] => none

/-- Any character. -/
def any : Scan Char := one fun _ => true

/-- A given character. -/
def char (c : Char) : Scan Unit := discard (one (· == c))

/-- Nothing is left. -/
def ends : Scan Unit
  | [] => some ((), [])
  | _ :: _ => none

-- ---------------------------------------------------------------------------
-- Runs of characters
-- ---------------------------------------------------------------------------

/-- The characters of a class, as many as there are. -/
def run (p : Char → Bool) : Scan (List Char) := fun s => some (s.takeWhile p, s.dropWhile p)

/-- At least one character of a class, and as many as there are. -/
def run1 (p : Char → Bool) : Scan (List Char) := do
  let c ← one p
  return c :: (← run p)

/-- A number of characters of a class. -/
def times (p : Char → Bool) : Nat → Scan (List Char)
  | 0 => pure []
  | n + 1 => do
    let c ← one p
    return c :: (← times p n)

/-- Given characters. -/
def exactly : List Char → Scan Unit
  | [] => pure ()
  | c :: cs => do char c; exactly cs

/-- A given word. -/
def word (w : String) : Scan Unit := exactly w.toList

-- ---------------------------------------------------------------------------
-- Combinations
-- ---------------------------------------------------------------------------

/-- What a scanner reads, or nothing. -/
def optionally (p : Scan α) : Scan (Option α) := some <$> p <|> pure none

/-- Repeat a scanner until it fails, within a bound. -/
def manyUpTo (p : Scan α) : Nat → Scan (List α)
  | 0 => pure []
  | n + 1 => (do
      let a ← p
      return a :: (← manyUpTo p n)) <|> pure []

/-- Repeat a scanner that takes at least a character until it fails. -/
def many (p : Scan α) : Scan (List α) := fun s => manyUpTo p (s.length + 1) s

/-- Items with a separator between any two of them, and at least one item. -/
def separated (item : Scan α) (separator : Scan β) : Scan (List α) := do
  let a ← item
  return a :: (← many (separator *> item))

/-- Read a whole text. -/
def whole (p : Scan α) (s : List Char) : Option α := ((p <* ends) s).map (·.1)

-- ---------------------------------------------------------------------------
-- What a run takes
-- ---------------------------------------------------------------------------

/-- A run loses nothing. -/
theorem run_append (p : Char → Bool) {s taken rest : List Char}
    (h : run p s = some (taken, rest)) : taken ++ rest = s := by
  simp only [run, Option.some.injEq, Prod.mk.injEq] at h
  rw [← h.1, ← h.2, List.takeWhile_append_dropWhile]

end Scan

end NetAttach.Text
