-- SUMMARY: The written forms of addresses: IP literals, address blocks, hardware addresses and DNS labels.
import NetAttach.Text.Digits
import NetAttach.Text.Split

/-!
# Addresses

Recognisers for the addresses that a selection may ask for. IPv4 literals have no
leading zeros; IPv6 literals may leave out one run of zero groups and may end in
an IPv4 literal. The length behind the slash of a block is a number of eight bits
with any number of leading zeros, and may have a plus sign.
-/

namespace NetAttach.Network

open NetAttach.Text

/-- The version of the internet protocol an address belongs to. -/
inductive Family where
  | v4
  | v6
deriving Repr, DecidableEq

/-- How many bits an address has. -/
def Family.bits : Family → Nat
  | .v4 => 32
  | .v6 => 128

-- ---------------------------------------------------------------------------
-- IP literals
-- ---------------------------------------------------------------------------

/-- One to three decimal digits without a leading zero, up to 255. -/
def isOctet (s : List Char) : Bool :=
  s != [] && s.length ≤ 3 && s.all Char.isDigit && (s.head? != some '0' || s.length == 1)
    && decimalValue s ≤ 255

/-- Four octets between points. -/
def isV4 (s : List Char) : Bool :=
  let octets := splitAll '.' s
  octets.length == 4 && octets.all isOctet

/-- One to four hexadecimal digits. -/
def isGroup (s : List Char) : Bool := s != [] && s.length ≤ 4 && s.all isHexDigit

/-- How many groups the pieces stand for. The last may be an IPv4 literal, which stands for two, if
that is allowed. -/
def groupCount? (lastV4 : Bool) : List (List Char) → Option Nat
  | [] => some 0
  | [p] => if isGroup p then some 1 else if lastV4 && isV4 p then some 2 else none
  | p :: ps => if isGroup p then (groupCount? lastV4 ps).map (· + 1) else none

/-- The groups of a part of an IPv6 literal; an empty part has none. -/
def partCount? (lastV4 : Bool) (s : List Char) : Option Nat :=
  if s = [] then some 0 else groupCount? lastV4 (splitAll ':' s)

/-- What stands before and after the first `::`, if there is one. -/
def splitGap : List Char → Option (List Char × List Char)
  | ':' :: ':' :: r => some ([], r)
  | c :: r => (splitGap r).map fun p => (c :: p.1, p.2)
  | [] => none

/-- Eight groups, or at most seven around a gap. An IPv4 literal stands only at the end. -/
def isV6 (s : List Char) : Bool :=
  match splitGap s with
  | none => partCount? true s == some 8
  | some (head, tail) =>
    match partCount? false head, partCount? true tail with
    | some a, some b => a + b ≤ 7
    | _, _ => false

/-- The family of an IP literal. -/
def family? (s : List Char) : Option Family :=
  if isV4 s then some .v4 else if isV6 s then some .v6 else none

-- ---------------------------------------------------------------------------
-- Blocks, hardware addresses, labels
-- ---------------------------------------------------------------------------

/-- An IP literal, a slash, and a length that fits the address. -/
def isBlock (s : List Char) : Bool :=
  match splitOnce '/' s with
  | none => false
  | some (address, length) =>
    match family? address, readNat? 255 length with
    | some f, some n => n ≤ f.bits
    | _, _ => false

/-- Six groups of two hexadecimal digits between colons. -/
def isMac (s : List Char) : Bool :=
  let groups := splitAll ':' s
  groups.length == 6 && groups.all fun g => g.length == 2 && g.all isHexDigit

/-- A lower-case ASCII letter or a digit. -/
def isLabelEnd (c : Char) : Bool := ('a' ≤ c && c ≤ 'z') || c.isDigit

/-- At most 63 lower-case letters, digits and hyphens, with no hyphen at either end. -/
def isLabel (s : List Char) : Bool :=
  s.length ≤ 63 && s.head?.any isLabelEnd && s.getLast?.any isLabelEnd
    && s.all fun c => isLabelEnd c || c == '-'

end NetAttach.Network
