-- SUMMARY: Programs as trees: each node asks its surroundings for an answer and branches on it.

/-!
# Programs

A program that shares its surroundings with others is a tree: it says what is asked
next for every answer to the question before. Each question and its answer are one
step, between two of which anything may happen.
-/

namespace NetAttach

/-- A program that asks questions of type `Q`, each of which has its type of answers. -/
inductive Program {Q : Type} (Answer : Q → Type) (α : Type) where
  | done (result : α)
  | act (question : Q) (next : Answer question → Program Answer α)

namespace Program

variable {Q : Type} {Answer : Q → Type} {α β γ σ : Type}

instance [Inhabited α] : Inhabited (Program Answer α) := ⟨.done default⟩

-- ---------------------------------------------------------------------------
-- Sequences
-- ---------------------------------------------------------------------------

/-- One program after the other. -/
def bind : Program Answer α → (α → Program Answer β) → Program Answer β
  | .done a, k => k a
  | .act q next, k => .act q fun r => (next r).bind k

instance : Monad (Program Answer) where
  pure := .done
  bind := .bind

theorem bind_done (p : Program Answer α) : p.bind .done = p := by
  induction p with
  | done a => rfl
  | act q next ih => simp [bind, ih]

theorem bind_assoc (p : Program Answer α) (f : α → Program Answer β) (g : β → Program Answer γ) :
    (p.bind f).bind g = p.bind fun a => (f a).bind g := by
  induction p with
  | done a => rfl
  | act q next ih => simp [bind, ih]

instance : LawfulMonad (Program Answer) :=
  LawfulMonad.mk' (Program Answer) (fun p => bind_done p) (fun _ _ => rfl)
    fun p f g => bind_assoc p f g

/-- The program of one question. -/
def ask (q : Q) : Program Answer (Answer q) := .act q .done

-- ---------------------------------------------------------------------------
-- Runs
-- ---------------------------------------------------------------------------

/-- Run a program to its end in surroundings that nobody else changes. -/
def run (answer : (q : Q) → σ → Answer q × σ) : Program Answer α → σ → α × σ
  | .done a, s => (a, s)
  | .act q next, s =>
    let (r, s) := answer q s
    run answer (next r) s

end Program

end NetAttach
