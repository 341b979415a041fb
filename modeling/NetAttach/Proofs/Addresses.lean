-- SUMMARY: A grammar of IP literals, address blocks and hardware addresses, and how far the recognisers agree with it.
import NetAttach.Network.Address
import NetAttach.Proofs.JsonText
import NetAttach.Proofs.Pieces

/-!
# Written addresses

The addresses that a selection may ask for, told by how they are put together: numbers and
groups to literals, literals and lengths to blocks. The recognisers take the texts apart. They
agree with the grammar, but for a block whose length stands behind a plus sign.
-/

namespace NetAttach

namespace Network

open NetAttach.Text

variable {s p : List Char} {c : Char}

/-! ## Digits -/

/-- A hexadecimal digit of either case. -/
def HexDigit (c : Char) : Prop :=
  ('0' ≤ c ∧ c ≤ '9') ∨ ('a' ≤ c ∧ c ≤ 'f') ∨ ('A' ≤ c ∧ c ≤ 'F')

instance (c : Char) : Decidable (HexDigit c) := inferInstanceAs (Decidable (_ ∨ _ ∨ _))

theorem isHexDigit_iff : isHexDigit c = true ↔ HexDigit c := by
  unfold isHexDigit hexValue? HexDigit
  split
  · next digit => simp [digit]
  · next digit =>
    split
    · next lower => simp [lower]
    · next lower => simp [digit, lower]

theorem isDigit_iff : c.isDigit = true ↔ '0' ≤ c ∧ c ≤ '9' := by
  simp [Char.isDigit, Char.le_def]

theorem digitValue_lt (digit : c.isDigit = true) : digitValue c < 10 := by
  have top : c.toNat ≤ 57 := (isDigit_iff.1 digit).2
  unfold digitValue
  omega

theorem digitValue_pos (digit : c.isDigit = true) (other : c ≠ '0') : 0 < digitValue c := by
  have bottom : 48 ≤ c.toNat := (isDigit_iff.1 digit).1
  have above : c.toNat ≠ 48 := fun same => other (Char.toNat_inj.1 same)
  unfold digitValue
  omega

theorem toDigits_digitValue (digit : c.isDigit = true) : Nat.toDigits 10 (digitValue c) = [c] := by
  have bottom : 48 ≤ c.toNat := (isDigit_iff.1 digit).1
  rw [Nat.toDigits_of_lt_base (digitValue_lt digit), List.singleton_inj, ← Char.toNat_inj,
    Nat.toNat_digitChar_of_lt_ten (digitValue_lt digit), digitValue]
  omega

/-- Digits that follow a number that is not zero go on with it. -/
theorem toDigits_append {ds : List Char} (digits : ∀ c ∈ ds, c.isDigit = true) {n : Nat}
    (pos : 0 < n) :
    Nat.toDigits 10 n ++ ds = Nat.toDigits 10 (ds.foldl (fun n c => n * 10 + digitValue c) n) := by
  induction ds generalizing n with
  | nil => simp
  | cons c ds ih =>
    obtain ⟨digit, digits⟩ := List.forall_mem_cons.1 digits
    calc
      Nat.toDigits 10 n ++ c :: ds
          = (Nat.toDigits 10 n ++ Nat.toDigits 10 (digitValue c)) ++ ds := by
        rw [toDigits_digitValue digit, List.append_assoc, List.singleton_append]
      _ = Nat.toDigits 10 (n * 10 + digitValue c) ++ ds := by
        rw [Nat.toDigits_append_toDigits (by decide) pos (digitValue_lt digit), Nat.mul_comm]
      _ = _ := ih digits (by omega)

/-- Digits with no zero before them are the digits of their number. -/
theorem toDigits_decimalValue (some_digit : s ≠ []) (digits : ∀ c ∈ s, c.isDigit = true)
    (unpadded : s.head? ≠ some '0' ∨ s.length = 1) : Nat.toDigits 10 (decimalValue s) = s := by
  cases s with
  | nil => exact absurd rfl some_digit
  | cons c ds =>
    obtain ⟨digit, digits⟩ := List.forall_mem_cons.1 digits
    have value : decimalValue (c :: ds)
        = ds.foldl (fun n c => n * 10 + digitValue c) (digitValue c) := by simp [decimalValue]
    rw [value]
    obtain other | single := unpadded
    · rw [← toDigits_append digits (digitValue_pos digit (by simpa using other)),
        toDigits_digitValue digit, List.singleton_append]
    · obtain rfl : ds = [] := by simpa using single
      exact toDigits_digitValue digit

/-! ## IPv4 literals -/

theorem isOctet_iff : isOctet s = true ↔ ∃ n ≤ 255, Nat.toDigits 10 n = s := by
  simp only [isOctet, Bool.and_eq_true, Bool.or_eq_true, bne_iff_ne, beq_iff_eq, decide_eq_true_eq,
    List.all_eq_true]
  constructor
  · rintro ⟨⟨⟨⟨some_digit, -⟩, digits⟩, unpadded⟩, fits⟩
    exact ⟨_, fits, toDigits_decimalValue some_digit digits unpadded⟩
  · rintro ⟨n, fits, rfl⟩
    have short : (Nat.toDigits 10 n).length ≤ 3 :=
      (Nat.length_toDigits_le_iff (by decide) (by decide)).2 (by omega)
    have digits : ∀ c ∈ Nat.toDigits 10 n, c.isDigit = true :=
      fun c hc => Nat.isDigit_of_mem_toDigits (by decide) (by decide) hc
    rw [Json.decimalValue_toDigits]
    exact ⟨⟨⟨⟨Nat.toDigits_ne_nil, short⟩, digits⟩, Json.head?_toDigits n⟩, fits⟩

/-- Four numbers up to 255 in decimal digits between points, with no zero before a number. -/
def V4 (s : List Char) : Prop :=
  ∃ octets : List Nat, octets.length = 4 ∧ (∀ n ∈ octets, n ≤ 255)
    ∧ s = ['.'].intercalate (octets.map (Nat.toDigits 10))

theorem V4.mem (h : V4 s) (hc : c ∈ s) : c = '.' ∨ c.isDigit = true := by
  obtain ⟨octets, -, -, rfl⟩ := h
  refine (mem_intercalate hc).imp_right fun ⟨p, mem, inside⟩ => ?_
  obtain ⟨n, -, rfl⟩ := List.mem_map.1 mem
  exact Nat.isDigit_of_mem_toDigits (by decide) (by decide) inside

theorem V4.point_mem (h : V4 s) : '.' ∈ s := by
  obtain ⟨octets, four, -, rfl⟩ := h
  obtain ⟨a, b, c, d, rfl⟩ := List.length_eq_four.1 four
  simp [List.intercalate_cons_cons]

theorem isV4_iff : isV4 s = true ↔ V4 s := by
  simp only [isV4, Bool.and_eq_true, beq_iff_eq, List.all_eq_true, isOctet_iff]
  constructor
  · rintro ⟨four, octets⟩
    have written : (splitAll '.' s).map (Nat.toDigits 10 ∘ decimalValue) = splitAll '.' s := by
      refine (List.map_congr_left fun p hp => ?_).trans (List.map_id _)
      obtain ⟨n, -, rfl⟩ := octets p hp
      exact congrArg _ (Json.decimalValue_toDigits n)
    refine ⟨(splitAll '.' s).map decimalValue, by simpa using four, fun n hn => ?_, ?_⟩
    · obtain ⟨p, hp, rfl⟩ := List.mem_map.1 hn
      obtain ⟨n, fits, rfl⟩ := octets p hp
      rwa [Json.decimalValue_toDigits]
    · rw [List.map_map, written, intercalate_splitAll]
  · rintro ⟨octets, four, fit, rfl⟩
    have some_octet : octets.map (Nat.toDigits 10) ≠ [] := by
      rintro none
      simp_all
    have apart : ∀ p ∈ octets.map (Nat.toDigits 10), '.' ∉ p := fun p hp point => by
      obtain ⟨n, -, rfl⟩ := List.mem_map.1 hp
      cases Nat.isDigit_of_mem_toDigits (by decide) (by decide) point
    rw [splitAll_intercalate some_octet apart, List.length_map]
    exact ⟨four, fun p hp => (List.mem_map.1 hp).imp fun n ⟨mem, same⟩ => ⟨fit n mem, same⟩⟩

/-! ## IPv6 literals -/

/-- One to four hexadecimal digits. -/
structure Group (p : List Char) : Prop where
  some_digit : p ≠ []
  short : p.length ≤ 4
  digits : ∀ c ∈ p, HexDigit c

theorem isGroup_iff : isGroup p = true ↔ Group p := by
  simp only [isGroup, Bool.and_eq_true, bne_iff_ne, decide_eq_true_eq, List.all_eq_true, isHexDigit_iff]
  exact ⟨fun ⟨⟨some_digit, short⟩, digits⟩ => ⟨some_digit, short, digits⟩,
    fun h => ⟨⟨h.some_digit, h.short⟩, h.digits⟩⟩

/-- Pieces that are so many groups. The last may be an IPv4 literal, which is two, if that is
allowed. -/
inductive Groups (lastV4 : Bool) : List (List Char) → Nat → Prop
  | nil : Groups lastV4 [] 0
  | group {p : List Char} {ps : List (List Char)} {n : Nat} (group : Group p)
      (rest : Groups lastV4 ps n) : Groups lastV4 (p :: ps) (n + 1)
  | v4 {p : List Char} (allowed : lastV4 = true) (literal : V4 p) : Groups lastV4 [p] 2

/-- Eight groups between colons, or up to seven with a gap of two colons somewhere. -/
inductive V6 : List Char → Prop
  | whole {ps : List (List Char)} (groups : Groups true ps 8) : V6 ([':'].intercalate ps)
  | gap {ps qs : List (List Char)} {a b : Nat} (head : Groups false ps a) (tail : Groups true qs b)
      (few : a + b ≤ 7) : V6 ([':'].intercalate ps ++ ':' :: ':' :: [':'].intercalate qs)

variable {lastV4 : Bool} {ps : List (List Char)} {n : Nat}

theorem Group.not_v4 (h : Group p) : ¬V4 p := fun literal =>
  absurd (h.digits '.' literal.point_mem) (by decide)

theorem groupCount?_cons (h : Group p) :
    groupCount? lastV4 (p :: ps) = (groupCount? lastV4 ps).map (· + 1) := by
  cases ps <;> simp [groupCount?, isGroup_iff.2 h]

theorem groupCount?_eq_some_iff : groupCount? lastV4 ps = some n ↔ Groups lastV4 ps n := by
  induction ps generalizing n with
  | nil =>
    constructor
    · rintro ⟨⟩
      exact .nil
    · rintro ⟨⟩
      rfl
  | cons p ps ih =>
    by_cases group : Group p
    · rw [groupCount?_cons group, Option.map_eq_some_iff]
      constructor
      · rintro ⟨m, rest, rfl⟩
        exact .group group (ih.1 rest)
      · intro h
        cases h with
        | group _ rest => exact ⟨_, ih.2 rest, rfl⟩
        | v4 _ literal => exact absurd literal group.not_v4
    · have other : isGroup p = false := Bool.eq_false_iff.2 (mt isGroup_iff.1 group)
      constructor
      · intro h
        cases ps with
        | nil =>
          simp [groupCount?, other, isV4_iff] at h
          obtain ⟨⟨allowed, literal⟩, rfl⟩ := h
          exact .v4 allowed literal
        | cons q ps => simp [groupCount?, other] at h
      · intro h
        cases h with
        | group yes => exact absurd yes group
        | v4 allowed literal => simp [groupCount?, other, allowed, isV4_iff.2 literal]

theorem Groups.mem (h : Groups lastV4 ps n) (hp : p ∈ ps) : Group p ∨ V4 p := by
  induction h with
  | nil => cases hp
  | group group _ ih =>
    obtain rfl | hp := List.mem_cons.1 hp
    · exact .inl group
    · exact ih hp
  | v4 _ literal => exact .inr (List.mem_singleton.1 hp ▸ literal)

/-- A piece of an IPv6 literal is not empty and holds no colon. -/
theorem Groups.piece (h : Groups lastV4 ps n) (hp : p ∈ ps) :
    p ≠ [] ∧ ∀ c ∈ p, HexDigit c ∨ c = '.' := by
  obtain group | literal := h.mem hp
  · exact ⟨group.some_digit, fun c hc => .inl (group.digits c hc)⟩
  · refine ⟨List.ne_nil_of_mem literal.point_mem, fun c hc => ?_⟩
    exact (literal.mem hc).symm.imp_left fun digit => .inl (isDigit_iff.1 digit)

theorem Groups.colon_not_mem (h : Groups lastV4 ps n) (hp : p ∈ ps) : ':' ∉ p := fun colon =>
  absurd ((h.piece hp).2 ':' colon) (by decide)

theorem Groups.eq_zero (h : Groups lastV4 ps n) (empty : [':'].intercalate ps = []) : n = 0 := by
  cases ps with
  | nil =>
    cases h
    rfl
  | cons p ps =>
    obtain ⟨r, text⟩ := intercalate_cons ':' p ps
    rw [text, List.append_eq_nil_iff] at empty
    exact absurd empty.1 (h.piece List.mem_cons_self).1

theorem partCount?_eq_some_iff :
    partCount? lastV4 s = some n ↔ ∃ ps, Groups lastV4 ps n ∧ s = [':'].intercalate ps := by
  unfold partCount?
  split
  · next empty =>
    constructor
    · rintro ⟨⟩
      exact ⟨[], .nil, empty⟩
    · rintro ⟨ps, groups, text⟩
      rw [groups.eq_zero (text ▸ empty)]
  · next filled =>
    rw [groupCount?_eq_some_iff]
    constructor
    · intro groups
      exact ⟨_, groups, intercalate_splitAll.symm⟩
    · rintro ⟨ps, groups, rfl⟩
      have some_piece : ps ≠ [] := by
        rintro rfl
        exact filled rfl
      rwa [splitAll_intercalate some_piece fun p hp => groups.colon_not_mem hp]

/-! ## The gap -/

theorem splitGap_eq_some {a b : List Char} (h : splitGap s = some (a, b)) :
    s = a ++ ':' :: ':' :: b := by
  fun_induction splitGap s generalizing a b with
  | case1 r =>
    cases h
    rfl
  | case2 c r apart ih =>
    obtain ⟨⟨a', b'⟩, found, same⟩ := Option.map_eq_some_iff.1 h
    cases same
    rw [ih found, List.cons_append]
  | case3 => cases h

theorem splitGap_cons (h : c ≠ ':' ∨ s.head? ≠ some ':') :
    splitGap (c :: s) = (splitGap s).map fun p => (c :: p.1, p.2) := by
  rw [splitGap]
  rintro r rfl rfl
  simp at h

theorem splitGap_append (plain : ':' ∉ p) (s : List Char) :
    splitGap (p ++ s) = (splitGap s).map fun q => (p ++ q.1, q.2) := by
  induction p with
  | nil => simp
  | cons c p ih =>
    obtain ⟨first, rest⟩ := not_or.1 (mt List.mem_cons.2 plain)
    rw [List.cons_append, splitGap_cons (.inl (Ne.symm first)), ih rest, Option.map_map]
    rfl

/-- There is no gap among groups, and none begins with their last character. -/
theorem Groups.splitGap_append (h : Groups lastV4 ps n) (s : List Char) :
    splitGap ([':'].intercalate ps ++ s) =
      (splitGap s).map fun q => ([':'].intercalate ps ++ q.1, q.2) := by
  induction ps generalizing n with
  | nil => simp
  | cons p ps ih =>
    have plain := h.colon_not_mem List.mem_cons_self
    cases ps with
    | nil =>
      rw [List.intercalate_singleton]
      exact Network.splitGap_append plain s
    | cons q qs =>
      obtain ⟨m, rest⟩ : ∃ m, Groups lastV4 (q :: qs) m := by
        cases h with
        | group _ rest => exact ⟨_, rest⟩
      -- the colon before the next piece begins no gap, as that piece begins with something else
      have first : ([':'].intercalate (q :: qs) ++ s).head? ≠ some ':' := by
        obtain ⟨r, text⟩ := intercalate_cons ':' q qs
        obtain ⟨c, q, rfl⟩ := List.exists_cons_of_ne_nil (rest.piece List.mem_cons_self).1
        have other := rest.colon_not_mem List.mem_cons_self
        rw [text]
        simpa [eq_comm] using (not_or.1 (mt List.mem_cons.2 other)).1
      rw [List.intercalate_cons_cons, List.append_assoc, List.append_assoc,
        Network.splitGap_append plain, List.singleton_append, splitGap_cons (.inr first), ih rest]
      simp [Function.comp_def]

theorem isV6_iff : isV6 s = true ↔ V6 s := by
  unfold isV6
  constructor
  · intro h
    cases gap : splitGap s with
    | none =>
      rw [gap] at h
      obtain ⟨ps, groups, rfl⟩ := partCount?_eq_some_iff.1 (beq_iff_eq.1 h)
      exact .whole groups
    | some parts =>
      obtain ⟨before, after⟩ := parts
      obtain rfl := splitGap_eq_some gap
      simp only [gap] at h
      split at h
      · next a b counted counted' =>
        obtain ⟨ps, head, rfl⟩ := partCount?_eq_some_iff.1 counted
        obtain ⟨qs, tail, rfl⟩ := partCount?_eq_some_iff.1 counted'
        exact .gap head tail (by simpa using h)
      · cases h
  · -- the first gap of the text is the one of the grammar, as groups have none
    rintro (groups | ⟨head, tail, few⟩)
    · have gapless := groups.splitGap_append []
      rw [List.append_nil] at gapless
      rw [gapless]
      simpa [splitGap] using partCount?_eq_some_iff.2 ⟨_, groups, rfl⟩
    · rw [head.splitGap_append]
      simp only [splitGap, Option.map_some, List.append_nil]
      rw [partCount?_eq_some_iff.2 ⟨_, head, rfl⟩, partCount?_eq_some_iff.2 ⟨_, tail, rfl⟩]
      simpa using few

theorem V6.colon_mem (h : V6 s) : ':' ∈ s := by
  cases h with
  | @whole ps groups =>
    match ps, groups with
    | [_], .group _ rest => cases rest
    | p :: q :: qs, _ => simp [List.intercalate_cons_cons]
  | gap head tail few => simp

theorem V6.mem (h : V6 s) (hc : c ∈ s) : c = ':' ∨ c = '.' ∨ HexDigit c := by
  have inside {lastV4 : Bool} {ps : List (List Char)} {n : Nat} (groups : Groups lastV4 ps n)
      (hc : c ∈ [':'].intercalate ps) : c = ':' ∨ c = '.' ∨ HexDigit c :=
    (mem_intercalate hc).imp_right fun ⟨p, hp, hc⟩ => ((groups.piece hp).2 c hc).symm
  cases h with
  | whole groups => exact inside groups hc
  | gap head tail few =>
    simp only [List.mem_append, List.mem_cons] at hc
    obtain hc | rfl | rfl | hc := hc
    · exact inside head hc
    · exact .inl rfl
    · exact .inl rfl
    · exact inside tail hc

/-! ## Literals and blocks -/

/-- An IP literal of a family. -/
inductive Literal : Family → List Char → Prop
  | v4 {s : List Char} (literal : V4 s) : Literal .v4 s
  | v6 {s : List Char} (literal : V6 s) : Literal .v6 s

variable {f : Family} {a d : List Char}

theorem family?_eq_some_iff : family? s = some f ↔ Literal f s := by
  unfold family?
  split
  · next four =>
    have four := isV4_iff.1 four
    constructor
    · rintro ⟨⟩
      exact .v4 four
    · rintro (_ | six)
      · rfl
      · exact absurd (four.mem six.colon_mem) (by decide)
  · next other =>
    rw [isV4_iff] at other
    split
    · next six =>
      constructor
      · rintro ⟨⟩
        exact .v6 (isV6_iff.1 six)
      · rintro (four | _)
        · exact absurd four other
        · rfl
    · next neither =>
      rw [isV6_iff] at neither
      constructor
      · rintro ⟨⟩
      · rintro (four | six)
        · exact absurd four other
        · exact absurd six neither

theorem Literal.slash_not_mem (h : Literal f a) : '/' ∉ a := by
  intro slash
  cases h with
  | v4 literal => exact absurd (literal.mem slash) (by decide)
  | v6 literal => exact absurd (literal.mem slash) (by decide)

/-- A number in decimal digits, which may have zeros before them, that is no more than the bits of
an address. -/
structure Length (f : Family) (d : List Char) : Prop where
  some_digit : d ≠ []
  digits : ∀ c ∈ d, '0' ≤ c ∧ c ≤ '9'
  fits : decimalValue d ≤ f.bits

/-- An IP literal and, behind a slash and a sign, the length of its subnet. -/
inductive BlockWith (sign : List Char) : List Char → Prop
  | mk {f : Family} {a d : List Char} (address : Literal f a) (length : Length f d) :
      BlockWith sign (a ++ '/' :: (sign ++ d))

/-- An IP literal and the length of its subnet. -/
abbrev Block : List Char → Prop := BlockWith []

/-- A block but for a plus sign before the length. -/
abbrev SignedBlock : List Char → Prop := BlockWith ['+']

/-- A block is cut at its first slash, as no address has one. -/
theorem blockWith_iff {sign : List Char} :
    BlockWith sign s ↔ ∃ a d f, splitOnce '/' s = some (a, sign ++ d) ∧ Literal f a ∧ Length f d := by
  constructor
  · rintro ⟨address, length⟩
    exact ⟨_, _, _, splitOnce_append address.slash_not_mem _, address, length⟩
  · rintro ⟨a, d, f, cut, address, length⟩
    rw [splitOnce_eq_some cut]
    exact .mk address length

theorem length_iff :
    Length f d ↔ d ≠ [] ∧ d.all Char.isDigit = true ∧ decimalValue d ≤ f.bits := by
  simp only [List.all_eq_true, isDigit_iff]
  exact ⟨fun h => ⟨h.some_digit, h.digits, h.fits⟩, fun ⟨some_digit, digits, fits⟩ =>
    ⟨some_digit, digits, fits⟩⟩

theorem Length.unsigned : ¬Length f ('+' :: d) := fun length =>
  absurd (length.digits '+' List.mem_cons_self) (by decide)

theorem SignedBlock.not_block (h : SignedBlock s) : ¬Block s := by
  intro block
  obtain ⟨a, d, f, cut, -⟩ := blockWith_iff.1 h
  obtain ⟨a', d', f', cut', -, length⟩ := blockWith_iff.1 block
  rw [cut] at cut'
  cases cut'
  exact length.unsigned

/-- The length of a block is read as a number of eight bits, and may have a sign. -/
theorem exists_readNat?_iff :
    (∃ n, readNat? 255 d = some n ∧ n ≤ f.bits) ↔ Length f d ∨ ∃ ds, d = '+' :: ds ∧ Length f ds := by
  have small : f.bits ≤ 255 := by cases f <;> decide
  simp only [readNat?_eq_some_iff, length_iff]
  constructor
  · rintro ⟨n, ⟨ds, rfl | rfl, ⟨some_digit, digits, -⟩, rfl⟩, fits⟩
    · exact .inl ⟨some_digit, digits, fits⟩
    · exact .inr ⟨ds, rfl, some_digit, digits, fits⟩
  · rintro (⟨some_digit, digits, fits⟩ | ⟨ds, rfl, some_digit, digits, fits⟩)
    · exact ⟨_, ⟨d, .inl rfl, ⟨some_digit, digits, fits.trans small⟩, rfl⟩, fits⟩
    · exact ⟨_, ⟨ds, .inr rfl, ⟨some_digit, digits, fits.trans small⟩, rfl⟩, fits⟩

/-- A text with one slash or more is a block if what stands before the first is an address and what
stands behind it a length. -/
theorem isBlock_iff_of_cut (cut : splitOnce '/' s = some (a, d)) :
    isBlock s = true ↔ ∃ f, Literal f a ∧ ∃ n, readNat? 255 d = some n ∧ n ≤ f.bits := by
  simp only [isBlock, cut, ← family?_eq_some_iff]
  cases family? a with
  | none => simp
  | some f => cases readNat? 255 d <;> simp

theorem isBlock_iff : isBlock s = true ↔ Block s ∨ SignedBlock s := by
  rw [Block, SignedBlock, blockWith_iff, blockWith_iff]
  cases cut : splitOnce '/' s with
  | none => simp [isBlock, cut]
  | some parts =>
    obtain ⟨a, d⟩ := parts
    rw [isBlock_iff_of_cut cut]
    simp only [exists_readNat?_iff]
    constructor
    · rintro ⟨f, address, length | ⟨ds, rfl, length⟩⟩
      · exact .inl ⟨a, d, f, rfl, address, length⟩
      · exact .inr ⟨a, ds, f, rfl, address, length⟩
    · rintro (⟨_, _, f, same, address, length⟩ | ⟨_, ds, f, same, address, length⟩)
      · cases same
        exact ⟨f, address, .inl length⟩
      · cases same
        exact ⟨f, address, .inr ⟨ds, rfl, length⟩⟩

example : isBlock "2001:db8::10.0.0.1/064".toList = true ∧ isBlock "10.0.0.1/33".toList = false := by
  decide +kernel

/-! ## Hardware addresses -/

/-- Six times two hexadecimal digits between colons. -/
def Hardware (s : List Char) : Prop :=
  ∃ octets : List (List Char), octets.length = 6
    ∧ (∀ p ∈ octets, p.length = 2 ∧ ∀ c ∈ p, HexDigit c) ∧ s = [':'].intercalate octets

theorem isMac_iff : isMac s = true ↔ Hardware s := by
  simp only [isMac, Bool.and_eq_true, beq_iff_eq, List.all_eq_true, isHexDigit_iff]
  constructor
  · rintro ⟨six, octets⟩
    exact ⟨_, six, octets, intercalate_splitAll.symm⟩
  · rintro ⟨octets, six, pairs, rfl⟩
    have some_octet : octets ≠ [] := by
      rintro rfl
      cases six
    have apart : ∀ p ∈ octets, ':' ∉ p := fun p hp colon =>
      absurd ((pairs p hp).2 ':' colon) (by decide)
    rw [splitAll_intercalate some_octet apart]
    exact ⟨six, pairs⟩

end Network

end NetAttach
