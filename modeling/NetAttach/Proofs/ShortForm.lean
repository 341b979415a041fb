-- SUMMARY: The texts that are networks annotations in the short form, and the selections that they list.
import NetAttach.Selection.Annotation
import NetAttach.Proofs.Pieces

/-!
# The short form of the networks annotation

A grammar for the pieces between the commas, told without the reader: a piece names a network,
perhaps behind a namespace, and may ask for an interface behind an at sign. The reader accepts a
text exactly if every piece is in the grammar, and lists one selection for each piece.
-/

namespace NetAttach

namespace Network

/-! ## Labels -/

/-- One to 63 lower-case letters, digits and hyphens, with no hyphen at either end. -/
structure Label (s : List Char) : Prop where
  some_char : s ≠ []
  short : s.length ≤ 63
  chars : ∀ c ∈ s, ('a' ≤ c ∧ c ≤ 'z') ∨ ('0' ≤ c ∧ c ≤ '9') ∨ c = '-'
  first : s.head? ≠ some '-'
  last : s.getLast? ≠ some '-'

theorem isLabelEnd_iff {c : Char} :
    isLabelEnd c = true ↔ ('a' ≤ c ∧ c ≤ 'z') ∨ ('0' ≤ c ∧ c ≤ '9') := by
  simp [isLabelEnd, Char.isDigit, Char.le_def]

theorem isLabelEnd_hyphen : isLabelEnd '-' = false := by decide

theorem isLabel_iff {s : List Char} : isLabel s = true ↔ Label s := by
  simp only [isLabel, Bool.and_eq_true, decide_eq_true_eq, Option.any_eq_true, List.all_eq_true,
    Bool.or_eq_true, beq_iff_eq]
  constructor
  · rintro ⟨⟨⟨short, c, first, c_end⟩, d, last, d_end⟩, chars⟩
    refine ⟨?_, short, fun c hc => ?_, ?_, ?_⟩
    · rintro rfl
      cases first
    · rw [← or_assoc, ← isLabelEnd_iff]
      exact chars c hc
    · rintro hyphen
      rw [hyphen, Option.some.injEq] at first
      rw [← first, isLabelEnd_hyphen] at c_end
      cases c_end
    · rintro hyphen
      rw [hyphen, Option.some.injEq] at last
      rw [← last, isLabelEnd_hyphen] at d_end
      cases d_end
  · intro h
    have chars : ∀ c ∈ s, isLabelEnd c = true ∨ c = '-' := fun c hc => by
      rw [isLabelEnd_iff, or_assoc]
      exact h.chars c hc
    have first := List.head?_eq_some_head h.some_char
    have last := List.getLast?_eq_some_getLast h.some_char
    refine ⟨⟨⟨h.short, _, first, ?_⟩, _, last, ?_⟩, chars⟩
    · exact (chars _ (List.head_mem _)).resolve_right fun e => h.first (e ▸ first)
    · exact (chars _ (List.getLast_mem _)).resolve_right fun e => h.last (e ▸ last)

theorem Label.slash_not_mem {s : List Char} (h : Label s) : '/' ∉ s := fun slash =>
  absurd (h.chars '/' slash) (by decide)

end Network

namespace Selection

open NetAttach.Text NetAttach.Network

/-! ## The grammar -/

/-- What stands before the at sign of a piece, and what is asked for behind it. -/
inductive Asks : List Char → List Char → Option (List Char) → Prop
  | nothing {network : List Char} (plain : '@' ∉ network) : Asks network network none
  | interface {network : List Char} (plain : '@' ∉ network) (interface : List Char) :
      Asks (network ++ '@' :: interface) network (some interface)

/-- The namespace and the name of a network, both labels. The namespace may be empty or missing. -/
inductive Names : List Char → List Char → List Char → Prop
  | bare {name : List Char} (label : Label name) : Names name [] name
  | rooted {name : List Char} (label : Label name) : Names ('/' :: name) [] name
  | inside {space name : List Char} (outer : Label space) (label : Label name) :
      Names (space ++ '/' :: name) space name

/-- A piece of the short form, with the namespace, the network and the interface of it. -/
structure Piece (p space name : List Char) (interface : Option (List Char)) : Prop where
  one_slash : p.count '/' ≤ 1
  one_at : p.count '@' ≤ 1
  parts : ∃ network, Asks p network interface ∧ Names network space name

/-- The selection of a network and of an interface, and nothing else. The namespace of the pod stands
for an empty or a missing one. -/
def short (default : String) (space name : List Char) (interface : Option (List Char)) : Selection where
  name := String.ofList name
  space := if space = [] then default else String.ofList space
  interfaceRequest := interface.map String.ofList
  ips := []
  mac := none
  defaultRoute := []
  cniArgs := none

/-- What a piece lists for a pod of a namespace. -/
def Lists (default : String) (p : List Char) (s : Selection) : Prop :=
  ∃ space name interface, Piece p space name interface ∧ s = short default space name interface

theorem exists_lists_iff {default : String} {p : List Char} :
    (∃ s, Lists default p s) ↔ ∃ space name interface, Piece p space name interface := by
  constructor
  · rintro ⟨s, space, name, interface, piece, -⟩
    exact ⟨space, name, interface, piece⟩
  · rintro ⟨space, name, interface, piece⟩
    exact ⟨_, space, name, interface, piece, rfl⟩

/-! ## Reading a piece -/

variable {default : String} {p network space name : List Char} {interface : Option (List Char)}
  {s u : Selection}

theorem asks_iff :
    Asks p network interface ↔
      (splitOnce '@' p = none ∧ network = p ∧ interface = none)
        ∨ ∃ i, splitOnce '@' p = some (network, i) ∧ interface = some i := by
  constructor
  · rintro (plain | ⟨plain, i⟩)
    · exact .inl ⟨splitOnce_eq_none_iff.2 plain, rfl, rfl⟩
    · exact .inr ⟨i, splitOnce_append plain i, rfl⟩
  · rintro (⟨whole, rfl, rfl⟩ | ⟨i, cut, rfl⟩)
    · exact .nothing (splitOnce_eq_none_iff.1 whole)
    · obtain ⟨rfl, plain⟩ := splitOnce_eq_some_iff.1 cut
      exact .interface plain i

/-- The namespace of a network ends with the first slash, as labels have none. -/
theorem names_iff :
    Names network space name ↔
      (splitOnce '/' network).getD ([], network) = (space, name)
        ∧ (space = [] ∨ Label space) ∧ Label name := by
  constructor
  · rintro (label | label | ⟨outer, label⟩)
    · rw [splitOnce_eq_none_iff.2 label.slash_not_mem]
      exact ⟨rfl, .inl rfl, label⟩
    · exact ⟨rfl, .inl rfl, label⟩
    · rw [splitOnce_append outer.slash_not_mem]
      exact ⟨rfl, .inr outer, label⟩
  · rintro ⟨cut, outer, label⟩
    cases slash : splitOnce '/' network with
    | none =>
      rw [slash] at cut
      cases cut
      exact .bare label
    | some parts =>
      rw [slash] at cut
      cases cut
      rw [splitOnce_eq_some slash]
      obtain empty | outer := outer
      · rw [empty]
        exact .rooted label
      · exact .inside outer label

theorem checkPart_eq_ok_iff {part : List Char} {r : Unit} :
    checkPart p part = .ok r ↔ part = [] ∨ Label part := by
  unfold checkPart
  split
  · next h => simpa [isLabel_iff] using h
  · next h => simpa [isLabel_iff] using h

theorem exists_asks (p : List Char) : ∃ network interface, Asks p network interface := by
  cases at_sign : splitOnce '@' p with
  | none => exact ⟨p, none, asks_iff.2 (.inl ⟨at_sign, rfl, rfl⟩)⟩
  | some parts => exact ⟨parts.1, some parts.2, asks_iff.2 (.inr ⟨parts.2, at_sign, rfl⟩)⟩

theorem short_empty :
    short "" space name interface =
      { name := String.ofList name, space := String.ofList space,
        interfaceRequest := interface.map String.ofList, ips := [], mac := none, defaultRoute := [],
        cniArgs := none } := by
  unfold short
  split
  · next h => rw [h, String.ofList_nil]
  · rfl

theorem ofItem_eq (asks : Asks p network interface)
    (cut : (splitOnce '/' network).getD ([], network) = (space, name)) :
    ofItem p =
      if 1 < p.count '/' then .error (.manyNamespaces (String.ofList p))
      else if 1 < p.count '@' then .error (.manyInterfaces (String.ofList p))
      else do
        checkPart p space
        checkPart p name
        return short "" space name interface := by
  rw [short_empty]
  obtain ⟨whole, rfl, rfl⟩ | ⟨i, found, rfl⟩ := asks_iff.1 asks
  · simp only [ofItem, whole, cut, Option.map_none]
  · simp only [ofItem, found, cut, Option.map_some]

/-- A piece is read if its parts are labels or empty. -/
theorem ofItem_eq_ok_iff (asks : Asks p network interface)
    (cut : (splitOnce '/' network).getD ([], network) = (space, name)) :
    ofItem p = .ok u ↔
      p.count '/' ≤ 1 ∧ p.count '@' ≤ 1 ∧ (space = [] ∨ Label space) ∧ (name = [] ∨ Label name)
        ∧ short "" space name interface = u := by
  rw [ofItem_eq asks cut]
  split
  · next many => simp [Nat.not_le.2 many]
  split
  · next many => simp [Nat.not_le.2 many]
  next slashes ats =>
  simp only [Nat.not_lt.1 slashes, Nat.not_lt.1 ats, bind_eq_ok_iff, checkPart_eq_ok_iff, true_and,
    exists_const, pure, Except.pure, Except.ok.injEq]

/-! ## Completing a piece -/

theorem inSpace_short :
    (short "" space name interface).inSpace default = short default space name interface := by
  unfold inSpace short
  by_cases empty : space = []
  · simp [empty]
  · simp [empty]

theorem validate_short {r : Unit} :
    (short default space name interface).validate = .ok r ↔ name ≠ [] := by
  unfold validate short
  by_cases unnamed : name = []
  · simp [unnamed]
  · simp [unnamed]

/-- A piece is read and completed to the selection that it lists, and otherwise refused. -/
theorem lists_iff :
    Lists default p s ↔
      ∃ u, ofItem p = .ok u ∧ (do (u.inSpace default).validate; return u.inSpace default) = .ok s := by
  constructor
  · rintro ⟨space, name, interface, piece, rfl⟩
    obtain ⟨network, asks, names⟩ := piece.parts
    obtain ⟨cut, outer, label⟩ := names_iff.1 names
    refine ⟨short "" space name interface, (ofItem_eq_ok_iff asks cut).2
      ⟨piece.one_slash, piece.one_at, outer, .inr label, rfl⟩, ?_⟩
    rw [inSpace_short]
    exact bind_eq_ok_iff.2 ⟨(), validate_short.2 label.some_char, rfl⟩
  · rintro ⟨u, read, completed⟩
    obtain ⟨network, interface, asks⟩ := exists_asks p
    obtain ⟨slashes, ats, outer, part, rfl⟩ := (ofItem_eq_ok_iff asks rfl).1 read
    rw [inSpace_short, bind_eq_ok_iff] at completed
    obtain ⟨_, valid, done⟩ := completed
    cases done
    -- the reader lets an empty name pass, and the check refuses it
    have label := part.resolve_left (validate_short.1 valid)
    exact ⟨_, _, interface, ⟨slashes, ats, network, asks, names_iff.2 ⟨rfl, outer, label⟩⟩, rfl⟩

/-! ## Reading an annotation -/

theorem parseList_short {raw : String} {text : List Char} (trimmed : trimChars raw.toList = text)
    (filled : text ≠ []) (unmarked : ∀ c ∈ text, isJsonMark c = false) {ss : List Selection} :
    parseList raw default = .ok ss ↔
      List.Forall₂ (Lists default) ((text.splitOn ',').map trimChars) ss := by
  have form : text.any isJsonMark = false := by simpa using unmarked
  rw [parseList, trimmed]
  simp only [if_neg filled, form, Bool.false_eq_true, if_false, splitAll_eq_splitOn, bind_eq_ok_iff,
    complete, mapM_eq_ok_iff]
  rw [forall₂_comp_iff, List.forall₂_map_left_iff]
  simp only [lists_iff, bind_eq_ok_iff]

/-- A text with no mark of the other form is a list of selections exactly if every piece between
its commas is in the grammar, and then it lists one selection for each piece, in order. -/
theorem short_form_is_its_grammar (raw default : String)
    (filled : ∃ c ∈ raw.toList, isBlank c = false)
    (unmarked : ∀ c ∈ raw.toList, c ≠ '[' ∧ c ≠ '\x7b' ∧ c ≠ '\x22') :
    ∃ text pieces, Trims raw.toList text ∧ List.Forall₂ Trims (text.splitOn ',') pieces
      ∧ ((∃ ss, parseList raw default = .ok ss) ↔
          ∀ p ∈ pieces, ∃ space name interface, Piece p space name interface)
      ∧ ∀ ss, parseList raw default = .ok ss ↔ List.Forall₂ (Lists default) pieces ss := by
  have trimmed := trims_trimChars raw.toList
  obtain ⟨c, hc, ink⟩ := filled
  have some_ink := List.ne_nil_of_mem (trimmed.mem hc ink)
  have plain : ∀ c ∈ trimChars raw.toList, isJsonMark c = false := fun c hc => by
    simpa [isJsonMark, and_assoc] using unmarked c (trimmed.subset hc)
  have reads : ∀ ss, parseList raw default = .ok ss ↔ _ := fun ss => parseList_short rfl some_ink plain
  refine ⟨_, _, trimmed, ?_, ?_, reads⟩
  · rw [List.forall₂_map_right_iff]
    exact List.forall₂_same.2 fun p _ => trims_trimChars p
  · simp only [reads, exists_forall₂_iff, exists_lists_iff]

/-- A piece with a namespace and an interface stands before a piece with neither, and the blanks about
the comma belong to none. -/
theorem short_form_with_blanks :
    ∃ pieces : List (List Char), (∀ p ∈ pieces, ∃ space name interface, Piece p space name interface)
      ∧ parseList " ns2/net-b@eth7 , /net" "ns1" =
        .ok [short "ns1" ['n', 's', '2'] ['n', 'e', 't', '-', 'b'] (some ['e', 't', 'h', '7']),
          short "ns1" [] ['n', 'e', 't'] none]
      ∧ pieces.length = 2 := by
  obtain ⟨text, pieces, -, -, accepted, reads⟩ :=
    short_form_is_its_grammar " ns2/net-b@eth7 , /net" "ns1" ⟨'n', by decide +kernel, by decide⟩ (by simp)
  have listed : parseList " ns2/net-b@eth7 , /net" "ns1" =
      .ok [short "ns1" ['n', 's', '2'] ['n', 'e', 't', '-', 'b'] (some ['e', 't', 'h', '7']),
        short "ns1" [] ['n', 'e', 't'] none] := rfl
  exact ⟨pieces, accepted.1 ⟨_, listed⟩, listed, ((reads _).1 listed).length_eq⟩

end Selection

end NetAttach
