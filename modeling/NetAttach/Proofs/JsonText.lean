-- SUMMARY: A document that is written and read again is the same document.
import NetAttach.Json.Parser
import NetAttach.Json.Printer

/-!
# Documents as text

What the parser reads from the text of a document is the document. Integers have to
fit 64 bits, and a double has to be one that its own text reads as, which is more
than the shortest decimal promises, since numerals are read in two roundings.
-/

namespace NetAttach

/-- The text of a double is read as the double. -/
def Double.ReadsBack (d : Double) : Prop :=
  ∃ t, Json.scanNumber d.isNegative (Decimal.Magnitude.ofDouble d).shortest.render = some (t, [])
    ∧ t.toJson = .double d

namespace Json

open NetAttach.Text

/-! ## Integers -/

theorem decimalValue_toDigits (n : Nat) : decimalValue (Nat.toDigits 10 n) = n := by
  have same : decimalValue (Nat.toDigits 10 n) = Nat.ofDigitChars 10 (Nat.toDigits 10 n) 0 := by
    rw [Nat.ofDigitChars_eq_foldl]
    simp [decimalValue, digitValue, Nat.mul_comm]
  rw [same, Nat.ofDigitChars_ten_toDigits]

/-- A number is not written with a leading zero. -/
theorem head?_toDigits (n : Nat) :
    (Nat.toDigits 10 n).head? ≠ some '0' ∨ (Nat.toDigits 10 n).length = 1 := by
  induction n using Nat.base_induction 10 (by decide) with
  | single m hm => exact .inr (by rw [Nat.toDigits_of_lt_base hm]; rfl)
  | digit m k hk hm ih =>
    refine .inl ?_
    rw [← Nat.toDigits_append_toDigits (by decide) hm hk, List.head?_append]
    cases ih with
    | inl ih =>
      cases hd : Nat.toDigits 10 m with
      | nil => exact absurd hd Nat.toDigits_ne_nil
      | cons c cs => simpa [hd] using ih
    | inr ih =>
      have hlt : m < 10 := (Nat.length_toDigits_le_iff (by decide) (by decide)).1 (Nat.le_of_eq ih)
      rw [Nat.toDigits_of_lt_base hlt]
      simpa using Nat.ne_of_gt hm

/-- What follows a number does not go on with it. -/
def EndsNumber (rest : List Char) : Prop :=
  ∀ c, rest.head? = some c → c = ',' ∨ c = ']' ∨ c = '\x7d'

/-- A character that follows a number is none that could go on with it. -/
theorem EndsNumber.head {c : Char} {cs : List Char} (h : EndsNumber (c :: cs)) :
    c.isDigit = false ∧ c ≠ '.' ∧ c ≠ 'e' ∧ c ≠ 'E' ∧ c ≠ '+' ∧ c ≠ '-' := by
  obtain rfl | rfl | rfl := h c rfl <;> decide

theorem spanDigits_append (s : List Char) {rest : List Char} (h : EndsNumber rest) :
    spanDigits (s ++ rest) = ((spanDigits s).1, (spanDigits s).2 ++ rest) := by
  unfold spanDigits
  induction s with
  | nil =>
    cases rest with
    | nil => rfl
    | cons c cs => simp [h.head.1]
  | cons c cs ih => by_cases hc : c.isDigit <;> simp_all

/-- Read the fraction of a number, if there is one. -/
def scanFraction (s : List Char) : Option (Option (List Char) × List Char) :=
  match s with
  | '.' :: r => if (spanDigits r).1 = [] then none else some (some (spanDigits r).1, (spanDigits r).2)
  | _ => some (none, s)

/-- Read the sign of an exponent, if there is one. -/
def scanSign (s : List Char) : Bool × List Char :=
  match s with
  | '+' :: r => (false, r)
  | '-' :: r => (true, r)
  | _ => (false, s)

/-- Read the exponent of a number, if there is one. -/
def scanExponent (s : List Char) : Option (Option (Bool × List Char) × List Char) :=
  match s with
  | c :: r =>
    if c = 'e' ∨ c = 'E' then
      let ds := spanDigits (scanSign r).2
      if ds.1 = [] then none else some (some ((scanSign r).1, ds.1), ds.2)
    else some (none, s)
  | [] => some (none, s)

theorem guard_eq_some {p : Prop} [Decidable p] (h : p) : (guard p : Option Unit) = some () := if_pos h

theorem guard_eq_none {p : Prop} [Decidable p] (h : ¬p) : (guard p : Option Unit) = none := if_neg h

/-- A number is read part by part. -/
theorem scanNumber_eq (negative : Bool) (s : List Char) :
    scanNumber negative s =
      if (spanDigits s).1 ≠ [] ∧ ((spanDigits s).1.head? ≠ some '0' ∨ (spanDigits s).1.length = 1) then
        (scanFraction (spanDigits s).2).bind fun f => (scanExponent f.2).map fun e =>
          (⟨negative, (spanDigits s).1, f.1, e.1⟩, e.2)
      else none := by
  unfold scanNumber
  generalize spanDigits s = whole
  obtain ⟨whole, s⟩ := whole
  by_cases digits : whole ≠ []
  · by_cases lead : whole.head? ≠ some '0' ∨ whole.length = 1
    · dsimp only
      rw [guard_eq_some digits, guard_eq_some lead]
      simp only [digits, lead, scanFraction, scanExponent, scanSign, ne_eq, not_false_eq_true,
        and_self, if_true, Option.bind_eq_bind, Option.bind_some, Option.bind_none]
      grind
    · dsimp only
      rw [guard_eq_some digits, guard_eq_none lead, if_neg fun both => lead both.2]
      rfl
  · dsimp only
    rw [guard_eq_none digits, if_neg fun both => digits both.1]
    rfl

theorem scanFraction_append {s r rest : List Char} {f : Option (List Char)}
    (h : scanFraction s = some (f, r)) (hrest : EndsNumber rest) :
    scanFraction (s ++ rest) = some (f, r ++ rest) := by
  cases s with
  | nil =>
    cases h
    cases rest with
    | nil => rfl
    | cons c cs => simp [scanFraction, hrest.head]
  | cons c cs =>
    by_cases hc : c = '.'
    · subst hc
      simp only [scanFraction, List.cons_append, spanDigits_append cs hrest] at h ⊢
      grind
    · have stays : ∀ s, scanFraction (c :: s) = some (none, c :: s) := by simp [scanFraction, hc]
      rw [stays] at h
      cases h
      exact stays (cs ++ rest)

theorem scanSign_append (s : List Char) {rest : List Char} (hrest : EndsNumber rest) :
    scanSign (s ++ rest) = ((scanSign s).1, (scanSign s).2 ++ rest) := by
  cases s with
  | nil =>
    cases rest with
    | nil => rfl
    | cons c cs => simp [scanSign, hrest.head]
  | cons c cs =>
    by_cases plus : c = '+'
    · simp [plus, scanSign]
    · by_cases minus : c = '-' <;> simp [plus, minus, scanSign]

theorem scanExponent_append {s r rest : List Char} {e : Option (Bool × List Char)}
    (h : scanExponent s = some (e, r)) (hrest : EndsNumber rest) :
    scanExponent (s ++ rest) = some (e, r ++ rest) := by
  cases s with
  | nil =>
    cases h
    cases rest with
    | nil => rfl
    | cons c cs => simp [scanExponent, hrest.head]
  | cons c cs =>
    by_cases hc : c = 'e' ∨ c = 'E'
    · simp only [scanExponent, hc, if_true, List.cons_append, scanSign_append cs hrest,
        spanDigits_append _ hrest] at h ⊢
      grind
    · have stays : ∀ s, scanExponent (c :: s) = some (none, c :: s) := by simp [scanExponent, hc]
      rw [stays] at h
      cases h
      exact stays (cs ++ rest)

/-- A number is read alike whatever follows it. -/
theorem scanNumber_append {negative : Bool} {s r rest : List Char} {t : NumberText}
    (h : scanNumber negative s = some (t, r)) (hrest : EndsNumber rest) :
    scanNumber negative (s ++ rest) = some (t, r ++ rest) := by
  rw [scanNumber_eq] at h ⊢
  rw [spanDigits_append s hrest]
  split at h
  · next lead =>
    rw [if_pos lead]
    obtain ⟨⟨f, s₁⟩, hf, h⟩ := Option.bind_eq_some_iff.1 h
    obtain ⟨⟨e, s₂⟩, he, h⟩ := Option.map_eq_some_iff.1 h
    cases h
    rw [scanFraction_append hf hrest, Option.bind_some, scanExponent_append he hrest]
    rfl
  · cases h

/-- The digits of an integer are read as a number without a fraction or an exponent. -/
theorem scanNumber_toDigits (negative : Bool) (n : Nat) :
    scanNumber negative (Nat.toDigits 10 n)
      = some (⟨negative, Nat.toDigits 10 n, none, none⟩, []) := by
  have hall : ∀ c ∈ Nat.toDigits 10 n, c.isDigit := fun c hc =>
    Nat.isDigit_of_mem_toDigits (by decide) (by decide) hc
  have hspan : spanDigits (Nat.toDigits 10 n) = (Nat.toDigits 10 n, []) := by
    have htake := @List.takeWhile_append_of_pos _ _ _ [] hall
    have hdrop := @List.dropWhile_append_of_pos _ _ _ [] hall
    simp only [List.append_nil] at htake hdrop
    simp [spanDigits, htake, hdrop]
  rw [scanNumber_eq, hspan, if_pos ⟨Nat.toDigits_ne_nil, head?_toDigits n⟩]
  rfl

/-! ## Texts -/

theorem hexValue?_hexDigit : ∀ n, n < 16 → hexValue? (hexDigit n) = some n := by
  decide

/-- A piece that spells a character: itself, or its number if it is a control character. -/
def Spells (p : Piece) (c : Char) : Prop := p = .char c ∨ (p = .unit c.toNat ∧ c.toNat < 0x20)

theorem joinPieces_cons {p : Piece} {c : Char} (h : Spells p c) (ps : List Piece) :
    joinPieces (p :: ps) = (joinPieces ps).map (c :: ·) := by
  obtain rfl | ⟨rfl, hc⟩ := h
  · rfl
  · have high : isHighUnit c.toNat = false := by simp [isHighUnit]; omega
    have low : isLowUnit c.toNat = false := by simp [isLowUnit]; omega
    cases ps with
    | nil => simp [joinPieces, high, low]
    | cons q qs =>
      cases q with
      | char d => simp [joinPieces, high, low]
      | unit m => simp [joinPieces, high, low]

/-- A character that is written is read as a piece that spells it. -/
theorem scanText_escape (c : Char) :
    ∃ p, Spells p c ∧ ∀ s, scanText (escape c ++ s) = (scanText s).map fun r => (p :: r.1, r.2) := by
  have short : ∀ {d : Char}, d ≠ 'u' → unescape? d = some c → ∃ p, Spells p c
      ∧ ∀ s, scanText ('\\' :: d :: s) = (scanText s).map fun r => (p :: r.1, r.2) := by
    intro d hd hc
    refine ⟨.char c, .inl rfl, fun s => ?_⟩
    rw [scanText]
    · rw [hc, Option.map_eq_bind]
      rfl
    · intro _ _ _ _ _ hu _
      exact absurd hu hd
  unfold escape
  split
  · next h => exact short (by decide) (by rw [h]; rfl)
  split
  · next h => exact short (by decide) (by rw [h]; rfl)
  split
  · next h => exact short (by decide) (by rw [h]; rfl)
  split
  · next h => exact short (by decide) (by rw [h]; rfl)
  split
  · next h => exact short (by decide) (by rw [h]; rfl)
  split
  · next h => exact short (by decide) (by rw [h]; rfl)
  split
  · next h => exact short (by decide) (by rw [h]; rfl)
  split
  · next hc =>
    refine ⟨.unit c.toNat, .inr ⟨rfl, hc⟩, fun s => ?_⟩
    have h1 := hexValue?_hexDigit (c.toNat / 16) (by omega)
    have h2 := hexValue?_hexDigit (c.toNat % 16) (by omega)
    have h0 : hexValue? '0' = some 0 := by decide
    have hn : c.toNat / 16 * 16 + c.toNat % 16 = c.toNat := by omega
    have scanned : scanText ('\\' :: 'u' :: '0' :: '0' :: hexDigit (c.toNat / 16)
        :: hexDigit (c.toNat % 16) :: s) = (scanText s).bind fun r => some (.unit c.toNat :: r.1, r.2) := by
      simp [scanText, h0, h1, h2, hn]
    rw [Option.map_eq_bind]
    exact scanned
  · next quote backslash _ _ _ _ _ printable =>
    refine ⟨.char c, .inl rfl, fun s => ?_⟩
    rw [List.cons_append, List.nil_append, scanText]
    · rw [if_neg printable, Option.map_eq_bind]
      rfl
    · exact quote
    · intro _ _ _ _ _ h _
      exact absurd h backslash
    · intro _ _ h _
      exact absurd h backslash

/-- A text that is written is read again. -/
theorem parseText_escape (cs rest : List Char) :
    parseText (cs.flatMap escape ++ '\x22' :: rest) = some (some (String.ofList cs), rest) := by
  have h : ∃ ps, joinPieces ps = some cs
      ∧ scanText (cs.flatMap escape ++ '\x22' :: rest) = some (ps, rest) := by
    induction cs with
    | nil => exact ⟨[], rfl, rfl⟩
    | cons c cs ih =>
      obtain ⟨ps, join, scan⟩ := ih
      obtain ⟨p, spells, hp⟩ := scanText_escape c
      refine ⟨p :: ps, by rw [joinPieces_cons spells, join]; rfl, ?_⟩
      rw [List.flatMap_cons, List.append_assoc, hp, scan]
      rfl
  obtain ⟨ps, join, scan⟩ := h
  simp [parseText, scan, join]

/-! ## Documents -/

mutual

/-- What holds of all parts of a document that are neither arrays nor objects. -/
def Leaves (p : Json → Prop) : Json → Prop
  | .arr xs => LeavesOfItems p xs
  | .obj ms => LeavesOfMembers p ms
  | j => p j

/-- What holds of the leaves of all items. -/
def LeavesOfItems (p : Json → Prop) : List Json → Prop
  | [] => True
  | x :: xs => x.Leaves p ∧ LeavesOfItems p xs

/-- What holds of the leaves of all members. -/
def LeavesOfMembers (p : Json → Prop) : List (String × Json) → Prop
  | [] => True
  | (_, v) :: ms => v.Leaves p ∧ LeavesOfMembers p ms

end

theorem leavesOfItems_iff {p : Json → Prop} {xs : List Json} :
    LeavesOfItems p xs ↔ ∀ x ∈ xs, x.Leaves p := by
  induction xs with
  | nil => simp [LeavesOfItems]
  | cons x xs ih => simp [LeavesOfItems, ih]

theorem leavesOfMembers_iff {p : Json → Prop} {ms : List (String × Json)} :
    LeavesOfMembers p ms ↔ ∀ m ∈ ms, m.2.Leaves p := by
  induction ms with
  | nil => simp [LeavesOfMembers]
  | cons m ms ih => simp [LeavesOfMembers, ih]

mutual

theorem leaves_and {p q : Json → Prop} (j : Json) (hp : j.Leaves p) (hq : j.Leaves q) :
    j.Leaves fun l => p l ∧ q l := by
  cases j with
  | arr xs => exact leavesOfItems_and xs hp hq
  | obj ms => exact leavesOfMembers_and ms hp hq
  | _ => exact ⟨hp, hq⟩

theorem leavesOfItems_and {p q : Json → Prop} (xs : List Json) (hp : LeavesOfItems p xs)
    (hq : LeavesOfItems q xs) : LeavesOfItems (fun l => p l ∧ q l) xs := by
  cases xs with
  | nil => trivial
  | cons x xs => exact ⟨leaves_and x hp.1 hq.1, leavesOfItems_and xs hp.2 hq.2⟩

theorem leavesOfMembers_and {p q : Json → Prop} (ms : List (String × Json))
    (hp : LeavesOfMembers p ms) (hq : LeavesOfMembers q ms) :
    LeavesOfMembers (fun l => p l ∧ q l) ms := by
  cases ms with
  | nil => trivial
  | cons m ms => exact ⟨leaves_and m.2 hp.1 hq.1, leavesOfMembers_and ms hp.2 hq.2⟩

end

/-- An integer fits 64 bits. -/
def InRange (j : Json) : Prop := ∀ i, j = .int i → -0x8000000000000000 ≤ i ∧ i ≤ maxWord

/-- A double reads back. -/
def Exact (j : Json) : Prop := ∀ d, j = .double d → d.ReadsBack

/-- A document that its text is read as. -/
def Printable (j : Json) : Prop := j.Leaves fun l => InRange l ∧ Exact l ∧ l ≠ .unusable

/-- A number starts with a digit. -/
theorem digit_of_scanNumber {negative : Bool} {s : List Char} {p : NumberText × List Char}
    (h : scanNumber negative s = some p) : ∃ c cs, s = c :: cs ∧ c.isDigit := by
  rw [scanNumber_eq] at h
  split at h
  · next lead =>
    cases s with
    | nil => exact absurd rfl lead.1
    | cons c cs =>
      refine ⟨c, cs, rfl, ?_⟩
      by_cases hc : c.isDigit
      · exact hc
      · exact absurd (by simp [spanDigits, hc]) lead.1
  · cases h

theorem isSpace_eq_false_of_isDigit {c : Char} (h : c.isDigit) : isSpace c = false := by
  rw [isSpace]
  simp only [Bool.or_eq_false_iff, decide_eq_false_iff_not]
  refine ⟨⟨⟨?_, ?_⟩, ?_⟩, ?_⟩ <;> rintro rfl <;> cases h

/-- A number is read in its place. -/
theorem parseValue_number {s : List Char} {t : NumberText} {rest : List Char} (fuel : Nat)
    (h : scanNumber false s = some (t, [])) (hrest : EndsNumber rest) :
    parseValue (fuel + 1) (s ++ rest) = some (t.toJson, rest) := by
  have scan := scanNumber_append h hrest
  obtain ⟨c, cs, rfl, digit⟩ := digit_of_scanNumber h
  have skip : skipSpace (c :: (cs ++ rest)) = c :: (cs ++ rest) := by
    simp [skipSpace, isSpace_eq_false_of_isDigit digit]
  rw [List.cons_append] at scan ⊢
  rw [parseValue, skip]
  split <;> simp_all

theorem parseValue_negative {s : List Char} {t : NumberText} {rest : List Char} (fuel : Nat)
    (h : scanNumber true s = some (t, [])) (hrest : EndsNumber rest) :
    parseValue (fuel + 1) ('-' :: s ++ rest) = some (t.toJson, rest) := by
  have scan := scanNumber_append h hrest
  simp [parseValue, skipSpace, isSpace, scan]

theorem parseValue_int {i : Int} (hlow : -0x8000000000000000 ≤ i) (hhigh : i ≤ maxWord) (fuel : Nat)
    {rest : List Char} (hrest : EndsNumber rest) :
    parseValue (fuel + 1) (renderInt i ++ rest) = some (.int i, rest) := by
  cases i with
  | ofNat n =>
    have value : NumberText.toJson ⟨false, Nat.toDigits 10 n, none, none⟩ = .int n := by
      have : n ≤ maxWord := by simpa using hhigh
      simp [NumberText.toJson, decimalValue_toDigits, this]
    rw [renderInt, parseValue_number fuel (scanNumber_toDigits false n) hrest, value]
    rfl
  | negSucc n =>
    have value : NumberText.toJson ⟨true, Nat.toDigits 10 (n + 1), none, none⟩
        = .int (Int.negSucc n) := by
      have : n + 1 ≤ 0x8000000000000000 := by omega
      unfold NumberText.toJson
      dsimp only
      rw [decimalValue_toDigits, if_neg (by simp), if_pos ⟨rfl, rfl, rfl, Nat.succ_pos n, this⟩]
      rfl
    rw [renderInt, parseValue_negative fuel (scanNumber_toDigits true (n + 1)) hrest, value]

theorem parseValue_double {d : Double} (h : d.ReadsBack) (fuel : Nat) {rest : List Char}
    (hrest : EndsNumber rest) :
    parseValue (fuel + 1) (Decimal.renderDouble d ++ rest) = some (.double d, rest) := by
  obtain ⟨t, scan, value⟩ := h
  unfold Decimal.renderDouble
  cases negative : d.isNegative with
  | false =>
    rw [negative] at scan
    simpa [value] using parseValue_number fuel scan hrest
  | true =>
    rw [negative] at scan
    simpa [value] using parseValue_negative fuel scan hrest

theorem endsNumber_renderItems (xs : List Json) (rest : List Char) :
    EndsNumber (renderItems xs ++ ']' :: rest) := by
  cases xs <;> simp [EndsNumber, renderItems]

theorem endsNumber_renderMembers (ms : List (String × Json)) (rest : List Char) :
    EndsNumber (renderMembers ms ++ '\x7d' :: rest) := by
  cases ms <;> simp [EndsNumber, renderMembers]

/-- A document does not start with a blank or with a closing bracket. -/
theorem head_renderChars (j : Json) (h : j.Printable) :
    ∃ c cs, j.renderChars = c :: cs ∧ isSpace c = false ∧ c ≠ ']' := by
  have digit : ∀ {negative s p}, scanNumber negative s = some p →
      ∃ c cs, s = c :: cs ∧ isSpace c = false ∧ c ≠ ']' := by
    intro negative s p hs
    obtain ⟨c, cs, rfl, hc⟩ := digit_of_scanNumber hs
    exact ⟨c, cs, rfl, isSpace_eq_false_of_isDigit hc, by rintro rfl; cases hc⟩
  cases j with
  | null => exact ⟨_, _, rfl, by decide⟩
  | bool b => cases b <;> exact ⟨_, _, rfl, by decide⟩
  | int i =>
    cases i with
    | ofNat n => exact digit (scanNumber_toDigits false n)
    | negSucc n => exact ⟨_, _, rfl, by decide⟩
  | double d =>
    obtain ⟨t, scan, -⟩ := h.2.1 d rfl
    unfold renderChars Decimal.renderDouble
    split
    · exact ⟨_, _, rfl, by decide⟩
    · exact digit scan
  | str s => exact ⟨_, _, rfl, by decide⟩
  | arr xs => cases xs <;> exact ⟨_, _, rfl, by decide⟩
  | obj ms => rcases ms with _ | ⟨⟨k, v⟩, ms⟩ <;> exact ⟨_, _, rfl, by decide⟩
  | unusable => exact absurd rfl h.2.2

theorem ofMembers_some (ms : List (String × Json)) :
    ofMembers (ms.map fun m => (some m.1, m.2)) = .obj ms := by
  have h : (ms.map fun m => (some m.1, m.2)).mapM (fun m => m.1.map fun k => (k, m.2))
      = some ms := by
    induction ms with
    | nil => rfl
    | cons m ms ih => simp [ih]
  rw [ofMembers, h]

mutual

/-- A document is read from its text, whatever follows. -/
theorem parseValue_render (j : Json) (h : j.Printable) (fuel : Nat) (rest : List Char)
    (room : j.renderChars.length ≤ fuel) (hrest : EndsNumber rest) :
    parseValue fuel (j.renderChars ++ rest) = some (j, rest) := by
  obtain ⟨fuel, rfl⟩ : ∃ n, fuel = n + 1 := by
    obtain ⟨c, cs, head, -⟩ := head_renderChars j h
    rw [head, List.length_cons] at room
    exact ⟨fuel - 1, by omega⟩
  cases j with
  | null => simp [renderChars, parseValue, skipSpace, isSpace]
  | bool b => cases b <;> simp [renderChars, parseValue, skipSpace, isSpace]
  | int i => exact parseValue_int (h.1 i rfl).1 (h.1 i rfl).2 fuel hrest
  | double d => exact parseValue_double (h.2.1 d rfl) fuel hrest
  | str s =>
    have text := parseText_escape s.toList rest
    simp [renderChars, renderText, parseValue, skipSpace, isSpace, text]
  | arr xs =>
    cases xs with
    | nil => simp [renderChars, parseValue, skipSpace, isSpace]
    | cons x xs =>
      simp only [renderChars, List.length_cons, List.length_append, List.length_nil] at room
      have items := parseItems_render x xs h.1 (leavesOfItems_iff.1 h.2) fuel rest (by omega)
      obtain ⟨c, cs, head, space, bracket⟩ := head_renderChars x h.1
      rw [head] at items
      simp_all [renderChars, parseValue, skipSpace, isSpace]
  | obj ms =>
    cases ms with
    | nil => simp [renderChars, parseValue, skipSpace, isSpace]
    | cons m ms =>
      simp only [renderChars, List.length_cons, List.length_append, List.length_nil] at room
      have members := parseMembers_render m ms h.1 (leavesOfMembers_iff.1 h.2) fuel rest (by omega)
      have object := ofMembers_some (m :: ms)
      simp_all [renderChars, parseValue, skipSpace, isSpace, renderText]
  | unusable => exact absurd rfl h.2.2
termination_by fuel

/-- The items of an array that is not empty are read from their text. -/
theorem parseItems_render (x : Json) (xs : List Json) (hx : x.Printable) (hxs : ∀ y ∈ xs, y.Printable)
    (fuel : Nat) (rest : List Char)
    (room : x.renderChars.length + (renderItems xs).length + 1 ≤ fuel) :
    parseItems fuel (x.renderChars ++ (renderItems xs ++ ']' :: rest)) = some (x :: xs, rest) := by
  obtain ⟨fuel, rfl⟩ : ∃ n, fuel = n + 1 := ⟨fuel - 1, by omega⟩
  have first := parseValue_render x hx fuel _ (by omega) (endsNumber_renderItems xs rest)
  rw [parseItems, first]
  cases xs with
  | nil => simp [renderItems, skipSpace, isSpace]
  | cons y ys =>
    simp only [renderItems, List.length_cons, List.length_append] at room
    have others := parseItems_render y ys (hxs y (by simp))
      (fun z hz => hxs z (List.mem_cons_of_mem _ hz)) fuel rest (by omega)
    simp [renderItems, skipSpace, isSpace, others]
termination_by fuel

/-- The members of an object that is not empty are read from their text. -/
theorem parseMembers_render (m : String × Json) (ms : List (String × Json)) (hm : m.2.Printable)
    (hms : ∀ n ∈ ms, n.2.Printable) (fuel : Nat) (rest : List Char)
    (room : (renderText m.1).length + m.2.renderChars.length + (renderMembers ms).length + 1 ≤ fuel) :
    parseMembers fuel
      (renderText m.1 ++ ':' :: (m.2.renderChars ++ (renderMembers ms ++ '\x7d' :: rest)))
        = some ((m :: ms).map fun m => (some m.1, m.2), rest) := by
  obtain ⟨fuel, rfl⟩ : ∃ n, fuel = n + 1 := ⟨fuel - 1, by omega⟩
  have first := parseValue_render m.2 hm fuel _ (by omega) (endsNumber_renderMembers ms rest)
  have key := parseText_escape m.1.toList
    (':' :: (m.2.renderChars ++ (renderMembers ms ++ '\x7d' :: rest)))
  cases ms with
  | nil => simp_all [parseMembers, renderText, renderMembers, skipSpace, isSpace]
  | cons n ns =>
    simp only [renderMembers, List.length_cons, List.length_append] at room
    have others := parseMembers_render n ns (hms n (by simp))
      (fun l hl => hms l (List.mem_cons_of_mem _ hl)) fuel rest (by omega)
    simp_all [parseMembers, renderText, renderMembers, skipSpace, isSpace]
termination_by fuel

end

/-- What is read from the text of a document is the document. -/
theorem parseChars_render (j : Json) (h : j.Printable) : parseChars j.renderChars = some j := by
  have read := parseValue_render j h (2 * j.renderChars.length + 2) [] (by omega) nofun
  rw [List.append_nil] at read
  simp [parseChars, read, skipSpace]

/-! ## What is read -/

theorem inRange_toJson (t : NumberText) : t.toJson.Leaves InRange := by
  unfold NumberText.toJson
  dsimp only
  split
  · next h =>
    rintro i ⟨⟩
    have := h.2.2.2
    omega
  · split
    · next h =>
      rintro i ⟨⟩
      have := h.2.2.2
      omega
    · split <;> exact nofun

theorem exists_of_mapM {α β : Type} {f : α → Option β} {xs : List α} {ys : List β}
    (h : xs.mapM f = some ys) {y : β} (hy : y ∈ ys) : ∃ x ∈ xs, f x = some y := by
  induction xs generalizing ys with
  | nil => cases h; cases hy
  | cons x xs ih =>
    rw [List.mapM_cons] at h
    obtain ⟨z, hz, h⟩ := Option.bind_eq_some_iff.1 h
    obtain ⟨zs, hzs, h⟩ := Option.bind_eq_some_iff.1 h
    cases h
    obtain rfl | hy := List.mem_cons.1 hy
    · exact ⟨x, by simp, hz⟩
    · obtain ⟨w, hw, hwy⟩ := ih hzs hy
      exact ⟨w, List.mem_cons_of_mem _ hw, hwy⟩

theorem inRange_ofMembers {ms : List (Option String × Json)}
    (h : ∀ m ∈ ms, m.2.Leaves InRange) : (ofMembers ms).Leaves InRange := by
  unfold ofMembers
  split
  · next ns hns =>
    refine leavesOfMembers_iff.2 fun n hn => ?_
    obtain ⟨m, hm, hmn⟩ := exists_of_mapM hns hn
    obtain ⟨k, -, rfl⟩ := Option.map_eq_some_iff.1 hmn
    exact h m hm
  · intro i hi
    cases hi

mutual

/-- The integers that are read fit 64 bits. -/
theorem inRange_parseValue {fuel : Nat} {s r : List Char} {j : Json}
    (h : parseValue fuel s = some (j, r)) : j.Leaves InRange := by
  cases fuel with
  | zero => cases h
  | succ fuel =>
    rw [parseValue] at h
    split at h
    · cases h; exact nofun
    · cases h; exact nofun
    · cases h; exact nofun
    · obtain ⟨⟨text, _⟩, -, h⟩ := Option.map_eq_some_iff.1 h
      cases text <;> cases h <;> exact nofun
    · split at h
      · cases h; trivial
      · obtain ⟨⟨xs, _⟩, hxs, h⟩ := Option.map_eq_some_iff.1 h
        cases h
        exact leavesOfItems_iff.2 (inRange_parseItems hxs)
    · split at h
      · cases h; trivial
      · obtain ⟨⟨ms, _⟩, hms, h⟩ := Option.map_eq_some_iff.1 h
        cases h
        exact inRange_ofMembers (inRange_parseMembers hms)
    · obtain ⟨⟨t, _⟩, -, h⟩ := Option.map_eq_some_iff.1 h
      cases h
      exact inRange_toJson t
    · obtain ⟨⟨t, _⟩, -, h⟩ := Option.map_eq_some_iff.1 h
      cases h
      exact inRange_toJson t
termination_by fuel

theorem inRange_parseItems {fuel : Nat} {s r : List Char} {xs : List Json}
    (h : parseItems fuel s = some (xs, r)) : ∀ x ∈ xs, x.Leaves InRange := by
  cases fuel with
  | zero => cases h
  | succ fuel =>
    rw [parseItems] at h
    obtain ⟨⟨x, r⟩, hx, h⟩ := Option.bind_eq_some_iff.1 h
    have first := inRange_parseValue hx
    dsimp only at h
    split at h
    · cases h
      simpa using first
    · obtain ⟨⟨ys, r⟩, hys, h⟩ := Option.bind_eq_some_iff.1 h
      cases h
      simpa using ⟨first, inRange_parseItems hys⟩
    · cases h
termination_by fuel

theorem inRange_parseMembers {fuel : Nat} {s r : List Char} {ms : List (Option String × Json)}
    (h : parseMembers fuel s = some (ms, r)) : ∀ m ∈ ms, m.2.Leaves InRange := by
  cases fuel with
  | zero => cases h
  | succ fuel =>
    rw [parseMembers] at h
    split at h
    · obtain ⟨⟨k, r⟩, -, h⟩ := Option.bind_eq_some_iff.1 h
      dsimp only at h
      split at h
      · obtain ⟨⟨v, r⟩, hv, h⟩ := Option.bind_eq_some_iff.1 h
        have first := inRange_parseValue hv
        dsimp only at h
        split at h
        · cases h
          simpa using first
        · obtain ⟨⟨ns, r⟩, hns, h⟩ := Option.bind_eq_some_iff.1 h
          cases h
          have others := inRange_parseMembers hns
          intro m hm
          obtain rfl | hm := List.mem_cons.1 hm
          · exact first
          · exact others m hm
        · cases h
      · cases h
    · cases h
termination_by fuel

end

theorem inRange_parseChars {s : List Char} {j : Json} (h : parseChars s = some j) :
    j.Leaves InRange := by
  unfold parseChars at h
  split at h
  · next read =>
    split at h
    · cases h
      exact inRange_parseValue read
    · cases h
  · cases h

end Json

end NetAttach
