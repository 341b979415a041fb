-- SUMMARY: How many actions a request takes at most, whatever the answers are.
import Mathlib.Data.Nat.Find
import NetAttach.Controller.Reconcile

/-!
# Depths of programs

A program is bounded if the number of questions on its way to an end is, whatever the
answers are. Working off a request is bounded, because it visits each network once and
repeats a refused write a limited number of times.
-/

namespace NetAttach

namespace Program

variable {Q : Type} {Answer : Q → Type} {α β : Type} {n m : Nat}

/-- A program comes to its end within a number of questions, whatever the answers are. -/
def Within : Nat → Program Answer α → Prop
  | _, .done _ => True
  | 0, .act _ _ => False
  | n + 1, .act _ next => ∀ r, (next r).Within n

theorem within_done (n : Nat) (a : α) : (done a : Program Answer α).Within n := by
  cases n <;> trivial

theorem within_ask (q : Q) : (ask q : Program Answer (Answer q)).Within 1 :=
  fun r => within_done 0 r

theorem Within.mono {p : Program Answer α} (h : p.Within n) (le : n ≤ m) : p.Within m := by
  induction p generalizing n m with
  | done a => exact within_done m a
  | act q next ih =>
    cases n with
    | zero => exact h.elim
    | succ n =>
      cases m with
      | zero => exact absurd le (Nat.not_succ_le_zero n)
      | succ m => exact fun r => ih r (h r) (Nat.le_of_succ_le_succ le)

theorem Within.bind {p : Program Answer β} {k : β → Program Answer α} (h : p.Within n)
    (hk : ∀ b, (k b).Within m) : (p.bind k).Within (n + m) := by
  induction p generalizing n with
  | done b => exact (hk b).mono (Nat.le_add_left m n)
  | act q next ih =>
    cases n with
    | zero => exact h.elim
    | succ n =>
      rw [Nat.add_right_comm]
      exact fun r => ih r (h r)

/-- The program is bounded. -/
def Bounded (p : Program Answer α) : Prop := ∃ n, p.Within n

open Classical in
/-- The number of questions within which a bounded program ends. -/
noncomputable def depth (p : Program Answer α) : Nat :=
  if h : p.Bounded then Nat.find h else 0

theorem depth_le {p : Program Answer α} (h : p.Within n) : p.depth ≤ n := by
  classical
  rw [depth, dif_pos ⟨n, h⟩]
  exact Nat.find_min' _ h

theorem within_depth {p : Program Answer α} (h : p.Bounded) : p.Within p.depth := by
  classical
  rw [depth, dif_pos h]
  exact Nat.find_spec h

/-- An answer brings a bounded program nearer to its end. -/
theorem Bounded.next {q : Q} {next : Answer q → Program Answer α} (h : (act q next).Bounded)
    (r : Answer q) : (next r).Bounded ∧ (next r).depth < (act q next).depth := by
  have within := within_depth h
  cases hd : (act q next).depth with
  | zero =>
    rw [hd] at within
    exact within.elim
  | succ n =>
    rw [hd] at within
    exact ⟨⟨n, within r⟩, Nat.lt_succ_of_le (depth_le (within r))⟩

end Program

namespace Attempt

variable {α β : Type} {n m : Nat}

/-- A program that may fail comes to its end within a number of actions. -/
def Within (n : Nat) (x : Attempt α) : Prop := x.run.Within n

theorem within_pure (a : α) : Within 0 (pure a) := trivial

theorem within_throw (cause : Fault) : Within 0 (throw cause : Attempt α) := trivial

theorem within_ofExcept (r : Except AnnotationFault α) : Within 0 (ofExcept r) := trivial

theorem within_reply {p : Control (Except Fault α)} (h : p.Within n) : Within n (reply p) := h

theorem Within.mono {x : Attempt α} (h : Within n x) (le : n ≤ m) : Within m x :=
  Program.Within.mono h le

theorem within_lift {p : Control α} (h : p.Within n) : Within n (liftM p) :=
  Program.Within.bind (p := p) h fun _ => Program.within_done 0 _

theorem within_outcome (q : Action) : Within 1 (outcome (ask q)) :=
  within_lift (Program.within_ask q)

theorem Within.bind {x : Attempt β} {k : β → Attempt α} (h : Within n x)
    (hk : ∀ b, Within m (k b)) : Within (n + m) (x >>= k) := by
  refine Program.Within.bind (p := x.run) h fun r => ?_
  cases r with
  | error cause => exact Program.within_done m _
  | ok b => exact hk b

end Attempt

open Attempt

variable {limit retries : Nat} {request : Request} {network : Selection} {pod : Pod}

theorem within_findAttachment (recorded : List Attachment) :
    (findAttachment pod recorded network).Within 1 := by
  unfold findAttachment currentSelections
  refine Program.Within.bind (n := 1) (m := 0) ?_ fun _ => Program.within_done 0 _
  split
  · exact Program.within_done 1 _
  · exact fun _ => Program.within_done 0 _

theorem within_getDefinition : Within 2 (getDefinition network) := by
  refine (within_outcome _).bind (m := 1) fun r => ?_
  cases r with
  | ok definition => exact (within_pure definition).mono (Nat.zero_le _)
  | error cause => exact (within_lift (Program.within_ask _)).bind fun _ => within_throw cause

/-- Every round of an update takes as many actions as its change, and three more. -/
theorem within_rewriteStatus {key : ObjectKey} {change : StatusChange} {n : Nat}
    (changes : ∀ pod recorded, Within n (change pod recorded)) (left : Nat) (pod : Pod) :
    Within ((left + 1) * (n + 3)) (rewriteStatus limit key change left pod) := by
  induction left using Nat.strongRecOn generalizing pod with
  | ind left ih =>
    unfold rewriteStatus
    refine (?_ : Within (0 + (n + (1 + (2 + left * (n + 3))))) _).mono (by rw [Nat.succ_mul]; omega)
    refine (within_ofExcept _).bind fun recorded => (changes pod recorded).bind fun updated? => ?_
    cases updated? with
    | none => exact (within_pure pod).mono (Nat.zero_le _)
    | some updated =>
      refine (within_outcome _).bind fun r => ?_
      split
      · exact (within_pure _).mono (Nat.zero_le _)
      · cases left with
        | zero => exact (within_throw _).mono (Nat.zero_le _)
        | succ left =>
          rw [show 2 = 1 + 1 from rfl, Nat.add_assoc]
          refine (within_lift (Program.within_ask _)).bind fun _ => ?_
          exact (within_reply (Program.within_ask _)).bind fun present =>
            ih left (Nat.lt_succ_self left) present
      · exact (within_throw _).mono (Nat.zero_le _)
      · exact (within_throw _).mono (Nat.zero_le _)

theorem within_recordNew (attached : Attachment) (recorded : List Attachment) :
    Within 1 (recordNew network attached pod recorded) := by
  refine (within_lift (within_findAttachment recorded)).bind (m := 0) fun found => ?_
  cases found with
  | some a => exact within_pure none
  | none => exact (within_ofExcept _).bind fun _ => within_pure _

theorem within_attach : Within (6 + (retries + 1) * 4) (attach retries request pod network) := by
  unfold attach
  refine (?_ : Within (0 + (1 + (2 + (1 + ((retries + 1) * 4 + 1))))) _).mono (by omega)
  refine (within_ofExcept _).bind fun recorded =>
    (within_lift (within_findAttachment recorded)).bind fun found => ?_
  split
  · exact (within_pure _).mono (Nat.zero_le _)
  · split
    · exact (within_throw _).mono (Nat.zero_le _)
    · refine within_getDefinition.bind fun definition =>
        (within_reply (Program.within_ask _)).bind fun response => ?_
      split
      · exact (within_throw _).mono (Nat.zero_le _)
      · exact (within_rewriteStatus (fun _ => within_recordNew _) retries pod).bind fun stored =>
          (within_lift (Program.within_ask _)).bind fun _ => within_pure stored

theorem within_detach : Within (6 + (retries + 1) * 4) (detach retries request pod network) := by
  unfold detach
  refine (?_ : Within (0 + (1 + (2 + (1 + ((retries + 1) * 3 + 1))))) _).mono (by omega)
  refine (within_ofExcept _).bind fun recorded =>
    (within_lift (within_findAttachment recorded)).bind fun found => ?_
  split
  · exact (within_pure _).mono (Nat.zero_le _)
  · refine within_getDefinition.bind fun definition =>
      (within_reply (Program.within_ask _)).bind fun _ => ?_
    exact (within_rewriteStatus (fun _ _ => within_pure _) retries pod).bind fun stored =>
      (within_lift (Program.within_ask _)).bind fun _ => within_pure stored

theorem within_workOff (networks : List Selection) (pod : Pod) :
    Within (networks.length * (6 + (retries + 1) * 4)) (workOff retries request networks pod) := by
  induction networks generalizing pod with
  | nil => exact (within_pure pod).mono (Nat.zero_le _)
  | cons network networks ih =>
    rw [List.length_cons, Nat.succ_mul, Nat.add_comm]
    unfold workOff
    split
    · exact within_attach.bind ih
    · exact within_detach.bind ih

/-- As many actions a request takes at most. -/
def reach (retries : Nat) (request : Request) : Nat :=
  1 + request.networks.length * (6 + (retries + 1) * 4)

theorem within_reconcile (retries : Nat) (request : Request) :
    Within (reach retries request) (reconcile retries request) := by
  unfold reconcile
  exact (within_reply (Program.within_ask _)).bind fun pod =>
    (within_workOff request.networks pod).bind fun _ => within_pure ()

end NetAttach
