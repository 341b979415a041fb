-- SUMMARY: Paths through programs, and what holds of every question along every path.
import NetAttach.Controller.Control

/-!
# Paths through programs

The answers to its questions lead a program along a path. `Program.Keeps` says of a
program that, whatever the answers are, every question is a proper one after what was
asked and answered before, and so is the result. It is proved of a sequence from its
parts, and used at any point of a path.
-/

namespace NetAttach

theorem mem_toOption {ε α : Type} {x : Except ε α} {a : α} : a ∈ x.toOption ↔ x = .ok a := by
  cases x <;> simp [Except.toOption]

namespace Program

variable {Q : Type} {Answer : Q → Type} {α β : Type}

/-- A question with the answer to it. -/
abbrev Exchange (Answer : Q → Type) : Type := (q : Q) × Answer q

/-- The exchanges that lead from a program to what is left of it. -/
inductive Path (p : Program Answer α) : List (Exchange Answer) → Program Answer α → Prop where
  | nil : Path p [] p
  | snoc {es : List (Exchange Answer)} {q : Q} {next : Answer q → Program Answer α}
    (path : Path p es (.act q next)) (r : Answer q) : Path p (es ++ [⟨q, r⟩]) (next r)

/-- Every question is a proper one after the exchanges before it, and so is the result. -/
def Keeps (asks : List (Exchange Answer) → Q → Prop) (ends : List (Exchange Answer) → α → Prop) :
    Program Answer α → List (Exchange Answer) → Prop
  | .done a, past => ends past a
  | .act q next, past => asks past q ∧ ∀ r, (next r).Keeps asks ends (past ++ [⟨q, r⟩])

variable {asks : List (Exchange Answer) → Q → Prop} {ends : List (Exchange Answer) → α → Prop}
  {past es : List (Exchange Answer)}

theorem Keeps.path {p p' : Program Answer α} (h : p.Keeps asks ends past) (path : Path p es p') :
    p'.Keeps asks ends (past ++ es) := by
  induction path with
  | nil => simpa using h
  | snoc _ r ih => simpa using ih.2 r

theorem Keeps.bind {m : List (Exchange Answer) → β → Prop} {p : Program Answer β}
    {k : β → Program Answer α} (h : p.Keeps asks m past)
    (hk : ∀ es b, m (past ++ es) b → (k b).Keeps asks ends (past ++ es)) :
    (p.bind k).Keeps asks ends past := by
  induction p generalizing past with
  | done b => simpa [Program.bind] using hk [] b (by simpa [Keeps] using h)
  | act q next ih =>
    refine ⟨h.1, fun r => ih r (h.2 r) ?_⟩
    intro es b hb
    simpa using hk (⟨q, r⟩ :: es) b (by simpa using hb)

end Program

namespace Attempt

open Program

variable {α β : Type} {asks : List (Exchange Action.Answer) → Action → Prop}
  {past : List (Exchange Action.Answer)}

/-- Every action is a proper one after the exchanges before it, and so is the result of a success. -/
def Keeps (asks : List (Exchange Action.Answer) → Action → Prop)
    (ends : List (Exchange Action.Answer) → α → Prop) (x : Attempt α)
    (past : List (Exchange Action.Answer)) : Prop :=
  x.run.Keeps asks (fun past r => ∀ a, r = .ok a → ends past a) past

variable {ends : List (Exchange Action.Answer) → α → Prop}

theorem keeps_pure {a : α} (h : ends past a) : Keeps asks ends (pure a) past := by
  intro b hb
  cases hb
  exact h

theorem keeps_throw (e : Fault) : Keeps asks ends (throw e) past := by
  intro b hb
  cases hb

theorem keeps_ofExcept {r : Except AnnotationFault α} (h : ∀ a, r = .ok a → ends past a) :
    Keeps asks ends (ofExcept r) past := by
  intro a ha
  cases r with
  | error e => cases ha
  | ok b => cases ha; exact h _ rfl

theorem keeps_lift {p : Control α} (h : p.Keeps asks ends past) :
    Keeps asks ends (liftM p) past := by
  refine Program.Keeps.bind (p := p) h fun es a ha => ?_
  intro b hb
  cases hb
  exact ha

/-- An action whose answer is looked at. -/
theorem keeps_ask {q : Action} (h : asks past q) :
    Keeps asks (fun past' r => past' = past ++ [⟨q, r⟩]) (outcome (ask q)) past := by
  refine ⟨h, fun r => ?_⟩
  intro b hb
  cases hb
  rfl

theorem keeps_reply {p : Control (Except Fault α)}
    (h : p.Keeps asks (fun past r => ∀ a, r = .ok a → ends past a) past) :
    Keeps asks ends (reply p) past := h

theorem keeps_bind {x : Attempt β} {k : β → Attempt α}
    {m : List (Exchange Action.Answer) → β → Prop} (h : Keeps asks m x past)
    (hk : ∀ es b, m (past ++ es) b → Keeps asks ends (k b) (past ++ es)) :
    Keeps asks ends (x >>= k) past := by
  refine Program.Keeps.bind (p := x.run) h fun es r hr => ?_
  cases r with
  | error e => intro b hb; cases hb
  | ok b => exact hk es b (hr b rfl)

end Attempt

end NetAttach
