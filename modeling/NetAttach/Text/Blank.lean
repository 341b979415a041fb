-- SUMMARY: White space as the Unicode property White_Space, and trimming it off both ends of a text.

/-!
# Blank characters

Annotations and replies are trimmed of every character with the property
`White_Space`, of which there are 25, and not only of the ASCII blanks.
-/

namespace NetAttach.Text

/-- The characters with the property `White_Space` (Unicode 17), as closed ranges of code points. -/
def blankRanges : List (Nat × Nat) :=
  [(0x09, 0x0D), (0x20, 0x20), (0x85, 0x85), (0xA0, 0xA0), (0x1680, 0x1680), (0x2000, 0x200A),
   (0x2028, 0x2029), (0x202F, 0x202F), (0x205F, 0x205F), (0x3000, 0x3000)]

/-- Whether a code point lies in one of the closed ranges. -/
def inRanges (ranges : List (Nat × Nat)) (n : Nat) : Bool :=
  ranges.any fun r => r.1 ≤ n && n ≤ r.2

/-- A character that counts as white space. -/
def isBlank (c : Char) : Bool := inRanges blankRanges c.toNat

-- ---------------------------------------------------------------------------
-- Trimming
-- ---------------------------------------------------------------------------

/-- The characters between the first and the last that are not blank. -/
def trimChars (s : List Char) : List Char :=
  ((s.dropWhile isBlank).reverse.dropWhile isBlank).reverse

/-- A text without the blanks at its two ends. -/
def trim (s : String) : String := String.ofList (trimChars s.toList)

end NetAttach.Text
