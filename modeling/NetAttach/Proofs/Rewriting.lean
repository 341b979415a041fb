-- SUMMARY: A status update writes once or fails without a write, within its retries, whatever the store of pods answers.
import NetAttach.Proofs.Recording
import Mathlib.Data.List.Basic

/-!
# Rewriting a status

A status update works in rounds. Each computes the new status of the pod in hand and tries
to write it, and a write that comes too late begins another round with the pod as it is by
then. What a whole update comes to is told by the exchanges with the store of pods alone,
whatever the store answers and however the new status is computed.
-/

namespace NetAttach

open Program

/-! ## Paths and courses -/

namespace Program

variable {Q : Type} {Answer : Q → Type} {α σ : Type} {p p' : Program Answer α}
  {es es' : List (Exchange Answer)} {a : α}

theorem Path.cons {q : Q} {next : Answer q → Program Answer α} {r : Answer q}
    (path : Path (next r) es p') : Path (.act q next) (⟨q, r⟩ :: es) p' := by
  induction path with
  | nil => exact .snoc .nil r
  | snoc _ r' ih => exact .snoc ih r'

theorem Course.path {answers : σ → Exchange Answer → σ → Prop} {s s' : σ}
    (course : p.Course answers s es a s') : Path p es (.done a) := by
  induction course with
  | done => exact .nil
  | act _ _ ih => exact ih.cons

/-- A path is a course in surroundings that may answer anything. -/
theorem Path.course (path : Path p es p')
    (rest : p'.Course (fun (_ : Unit) _ _ => True) () es' a ()) :
    p.Course (fun (_ : Unit) _ _ => True) () (es ++ es') a () := by
  induction path generalizing es' with
  | nil => exact rest
  | snoc _ r ih =>
    rw [List.append_assoc]
    exact ih (.act trivial rest)

end Program

/-! ## Exchanges with the store of pods -/

/-- The action reads or writes a pod. -/
def Action.UsesPods : Action → Prop
  | .getPod _ | .updatePod _ => True
  | _ => False

namespace Exchange

variable {es es' : List Exchange} {pod : Pod}

/-- The writes that were tried, with the answers to them. -/
def tries (es : List Exchange) : List (Pod × Except Fault Pod) :=
  es.filterMap fun
    | ⟨.updatePod written, answer⟩ => some (written, answer)
    | _ => none

/-- The pods that were asked for, with the answers. -/
def lookups (es : List Exchange) : List (ObjectKey × Except Fault Pod) :=
  es.filterMap fun
    | ⟨.getPod key, answer⟩ => some (key, answer)
    | _ => none

/-- The pod that is in hand after these exchanges: the last one that was read, or else the one before
them. -/
def latest (pod : Pod) (es : List Exchange) : Pod := (reads es).getLast?.getD pod

@[simp] theorem tries_append : tries (es ++ es') = tries es ++ tries es' := List.filterMap_append

@[simp] theorem lookups_append : lookups (es ++ es') = lookups es ++ lookups es' :=
  List.filterMap_append

theorem writes_eq : writes es = (tries es).filterMap (·.2.toOption) := by
  unfold writes tries
  rw [List.filterMap_filterMap]
  refine List.filterMap_congr fun ⟨action, answer⟩ _ => ?_
  cases action with
  | updatePod written => cases answer <;> rfl
  | _ => rfl

theorem reads_eq : reads es = (lookups es).filterMap (·.2.toOption) := by
  unfold reads lookups
  rw [List.filterMap_filterMap]
  refine List.filterMap_congr fun ⟨action, answer⟩ _ => ?_
  cases action with
  | getPod key => cases answer <;> rfl
  | _ => rfl

theorem latest_append : latest pod (es ++ es') = latest (latest pod es) es' := by
  unfold latest
  rw [reads_append, List.getLast?_append]
  cases (reads es').getLast? <;> rfl

/-- The store of pods is left alone. -/
def Apart (es : List Exchange) : Prop := ∀ e ∈ es, ¬e.1.UsesPods

namespace Apart

variable (h : Apart es)

include h

theorem tries : tries es = [] :=
  List.filterMap_eq_nil_iff.2 fun ⟨action, answer⟩ he => by
    cases action with
    | updatePod written => exact absurd trivial (h _ he)
    | _ => rfl

theorem lookups : lookups es = [] :=
  List.filterMap_eq_nil_iff.2 fun ⟨action, answer⟩ he => by
    cases action with
    | getPod key => exact absurd trivial (h _ he)
    | _ => rfl

theorem writes : writes es = [] := by
  rw [writes_eq, h.tries]
  rfl

theorem latest (pod : Pod) : latest pod es = pod := by
  rw [Exchange.latest, reads_eq, h.lookups]
  rfl

/-- What uses the store is found behind such exchanges. -/
theorem split {rest front back : List Exchange} {e : Exchange} (uses : e.1.UsesPods)
    (same : es ++ rest = front ++ e :: back) :
    ∃ between, front = es ++ between ∧ rest = between ++ e :: back := by
  obtain ⟨between, hf, hr⟩ | ⟨between, he, hr⟩ := List.append_eq_append_iff.1 same
  · exact ⟨between, hf, hr⟩
  · cases between with
    | nil => exact ⟨[], by simpa using he.symm, by simpa using hr.symm⟩
    | cons e' between =>
      obtain ⟨rfl, -⟩ := List.cons.inj hr
      exact absurd uses (h e (by simp [he]))

end Apart

end Exchange

open Exchange (tries lookups latest Apart reads writes)

/-! ## Computations -/

namespace StatusChange

variable {change : StatusChange} {pod : Pod} {es : List Exchange}

/-- These exchanges lead the change of the status of a pod to an answer. -/
def Answers (change : StatusChange) (pod : Pod) (es : List Exchange)
    (answer : Except Fault (Option (List Attachment))) : Prop :=
  ∃ recorded, Attachment.ofPod pod = .ok recorded ∧ (change pod recorded).run.Path es (.done answer)

/-- A change only computes: it leaves the store of pods alone, and if it fails, then with the fault of
an annotation. -/
def Computes (change : StatusChange) : Prop :=
  ∀ pod es answer, change.Answers pod es answer →
    Apart es ∧ ∀ cause, answer = .error cause → ∃ fault, cause = .invalid fault

end StatusChange

/-- To record an attachment is to compute. -/
theorem recordNew_computes (network : Selection) (attached : Attachment) :
    (recordNew network attached).Computes := by
  rintro pod es answer ⟨recorded, -, path⟩
  have course := path.course (.done answer ())
  rw [List.append_nil] at course
  obtain ⟨tells, result⟩ := recordNew_course course
  constructor
  · cases tells with
    | nothing => nofun
    | notice =>
      intro e he
      rw [List.mem_singleton.1 he]
      exact id
  · rintro cause rfl
    split at result
    · cases result
    · cases record : Attachment.record recorded attached with
      | error fault =>
        rw [record] at result
        cases result
        exact ⟨fault, rfl⟩
      | ok updated =>
        rw [record] at result
        cases result

/-- To drop an attachment is to compute. -/
theorem dropOld_computes (attached : Attachment) : (dropOld attached).Computes := by
  rintro pod es answer ⟨recorded, -, path⟩
  have course := path.course (.done answer ())
  rw [List.append_nil] at course
  obtain ⟨rfl, rfl, -⟩ := Attempt.course_pure.1 course
  exact ⟨nofun, nofun⟩

/-! ## What an update comes to -/

section

variable (change : StatusChange) (key : ObjectKey) (pod : Pod)

/-- What is done in a round with the pod in hand, and what becomes of the update if it ends there. -/
inductive StatusChange.Round : List Exchange → Except Fault Pod → Prop where
  | unreadable {cause : AnnotationFault} (status : Attachment.ofPod pod = .error cause) :
    StatusChange.Round [] (.error (.invalid cause))
  | fails {es : List Exchange} {cause : Fault} (computed : change.Answers pod es (.error cause)) :
    StatusChange.Round es (.error cause)
  | unchanged {es : List Exchange} (computed : change.Answers pod es (.ok none)) :
    StatusChange.Round es (.ok pod)
  | writes {es : List Exchange} {updated : List Attachment}
    (computed : change.Answers pod es (.ok (some updated))) (answer : Except Fault Pod)
    (rest : List Exchange) (result : Except Fault Pod) :
    StatusChange.Round (es ++ ⟨.updatePod (pod.annotate statusKey (Attachment.renderList updated)), answer⟩
      :: rest) result

/-- Whatever is written was computed from the pod in hand, with which it shares its version. -/
def StatusChange.Precedes (es : List Exchange) : Prop :=
  ∀ front written answer back, es = front ++ ⟨.updatePod written, answer⟩ :: back →
    ∃ computing updated, computing <:+ front
      ∧ change.Answers (latest pod front) computing (.ok (some updated))
      ∧ written = (latest pod front).annotate statusKey (Attachment.renderList updated)

/-- Every pod that is read begins a round. -/
def StatusChange.Resumes (es : List Exchange) (result : Except Fault Pod) : Prop :=
  ∀ front key present back, es = front ++ ⟨.getPod key, .ok present⟩ :: back →
    change.Round present back result

/-- What the answers of the store make of an update of the pod of a key that may repeat a refused write so
many times: the answers to the writes that it tried, and to its questions for the pod. -/
structure Verdict (left : Nat) (tried : List (Pod × Except Fault Pod))
    (asked : List (ObjectKey × Except Fault Pod)) (result : Except Fault Pod) : Prop where
  tries_le : tried.length ≤ left + 1
  lookups_le : asked.length ≤ left
  /-- A success is one accepted write with its pod, or none. -/
  success : ∀ new, result = .ok new →
    tried.filterMap (·.2.toOption) = [new] ∨ tried.filterMap (·.2.toOption) = []
  failure : ∀ cause, result = .error cause → tried.filterMap (·.2.toOption) = []
  /-- It fails as overwritten exactly if all writes that it may try came too late. -/
  overwritten : ∀ key version, result = .error (.conflict key version) ↔
    tried.length = left + 1 ∧ (∀ t ∈ tried, ∃ key version, t.2 = .error (.conflict key version))
      ∧ ∃ written, tried.getLast? = some (written, .error (.conflict key version))
  gone : ∀ written kind key, (written, .error (.notFound kind key)) ∈ tried →
    result = .error (.notFound kind key)
  failed : ∀ written cause, (written, .error cause) ∈ tried →
    (∀ key version, cause ≠ .conflict key version) → (∀ kind key, cause ≠ .notFound kind key) →
    result = .error (.statusNotWritten key cause)
  lost : ∀ key cause, (key, .error cause) ∈ asked → result = .error cause

/-- What is known of a status update of the pod of a key that began with a pod, may repeat a refused write
so many times, went through these exchanges, and ended with this result. -/
structure Rewriting (left : Nat) (es : List Exchange) (result : Except Fault Pod) : Prop where
  verdict : Verdict key left (tries es) (lookups es) result
  /-- Without a write, a success says that the pod in hand needs no change. -/
  needless : ∀ new, result = .ok new → writes es = [] →
    new = latest pod es ∧ ∃ computing, computing <:+ es ∧ change.Answers new computing (.ok none)
  /-- It is always the same pod that is asked for. -/
  asked : ∀ l ∈ lookups es, l.1 = key
  /-- It is always the same pod that is written, if the store answers with the pods that it was asked
  for. -/
  own : (∀ p ∈ pod :: reads es, p.key = key) → ∀ t ∈ tries es, t.1.key = key
  first : change.Round pod es result
  computed : change.Precedes pod es
  resumed : change.Resumes es result

end

/-! ## The answers of the store -/

namespace Verdict

variable {key refused : ObjectKey} {left version : Nat} {written new : Pod}
  {tried : List (Pod × Except Fault Pod)} {asked : List (ObjectKey × Except Fault Pod)}
  {result : Except Fault Pod}

theorem untried (current : ∀ key version, result ≠ .error (.conflict key version)) :
    Verdict key left [] [] result where
  tries_le := Nat.zero_le _
  lookups_le := Nat.zero_le _
  success _ _ := .inr rfl
  failure _ _ := rfl
  overwritten key version := iff_of_false (current key version) (by simp)
  gone := nofun
  failed := nofun
  lost := nofun

theorem stored : Verdict key left [(written, .ok new)] [] (.ok new) where
  tries_le := by simp
  lookups_le := Nat.zero_le _
  success := by
    rintro _ ⟨⟩
    exact .inl rfl
  failure := nofun
  overwritten := by simp
  gone := by simp
  failed := by simp
  lost := nofun

theorem of_refusal {cause fault : Fault} (h : Refusal left key cause fault) :
    Verdict key left [(written, .error cause)] [] (.error fault) where
  tries_le := by simp
  lookups_le := Nat.zero_le _
  success := nofun
  failure _ _ := rfl
  overwritten key version := by
    cases h with
    | overwritten key' version' none_left => simp [none_left]
    | gone => simp
    | failed current => simp [current]
  gone := by
    intro written' kind key tried
    obtain ⟨⟩ := List.mem_singleton.1 tried
    cases h with
    | gone => rfl
    | failed _ present => exact absurd rfl (present kind key)
  failed := by
    intro written' cause' tried current present
    obtain ⟨⟩ := List.mem_singleton.1 tried
    cases h with
    | overwritten key version => exact absurd rfl (current key version)
    | gone kind key => exact absurd rfl (present kind key)
    | failed => rfl
  lost := nofun

/-- A write came too late, and the pod cannot be read again. -/
theorem lost_again {key' : ObjectKey} {cause : Fault} (some_left : 0 < left)
    (current : ∀ key version, cause ≠ .conflict key version) :
    Verdict key left [(written, .error (.conflict refused version))] [(key', .error cause)]
      (.error cause) where
  tries_le := by simp
  lookups_le := some_left
  success := nofun
  failure _ _ := rfl
  overwritten key' version' := by simp [current]; omega
  gone := by simp
  failed := by simp
  lost := by simp

/-- A write came too late, and another round follows. -/
theorem again {key' : ObjectKey} {present : Pod} (h : Verdict key left tried asked result) :
    Verdict key (left + 1) ((written, .error (.conflict refused version)) :: tried)
      ((key', .ok present) :: asked) result where
  tries_le := by simpa using h.tries_le
  lookups_le := by simpa using h.lookups_le
  success := h.success
  failure := h.failure
  overwritten key' version' := by
    rw [h.overwritten, List.length_cons, Nat.add_right_cancel_iff]
    cases tried with
    | nil => simp
    | cons t tried =>
      rw [List.getLast?_cons_cons, List.forall_mem_cons (a := (written, _))]
      simp
  gone := by simpa using h.gone
  failed := by
    intro written' cause tried' current
    obtain ⟨⟨⟩⟩ | tried' := List.mem_cons.1 tried'
    · exact absurd rfl (current refused version)
    · exact h.failed written' cause tried' current
  lost := by simpa using h.lost

end Verdict

section

variable {change : StatusChange} {left : Nat} {pod new present written : Pod}
  {computing es rest : List Exchange} {answer result : Except Fault Pod} {updated : List Attachment}

/-- What is seen of a round by the store of pods. -/
theorem Exchange.seen_of_write (h : Apart computing) (pod written : Pod)
    (answer : Except Fault Pod) (rest : List Exchange) :
    tries (computing ++ ⟨.updatePod written, answer⟩ :: rest) = (written, answer) :: tries rest
      ∧ lookups (computing ++ ⟨.updatePod written, answer⟩ :: rest) = lookups rest
      ∧ latest pod (computing ++ ⟨.updatePod written, answer⟩ :: rest) = latest pod rest := by
  rw [tries_append, lookups_append, latest_append, h.tries, h.lookups, h.latest]
  exact ⟨rfl, rfl, rfl⟩

/-- The exchanges in which the pod is read again. -/
theorem Exchange.latest_again (notice : Notice) (key : ObjectKey) :
    latest pod (⟨.notify notice, ()⟩ :: ⟨.getPod key, .ok present⟩ :: rest) = latest present rest := by
  have reads_eq : reads (⟨.notify notice, ()⟩ :: ⟨.getPod key, .ok present⟩ :: rest)
      = present :: reads rest := rfl
  rw [latest, reads_eq, List.getLast?_cons]
  rfl

namespace StatusChange

theorem Precedes.of_apart (h : Apart es) : change.Precedes pod es := by
  rintro front written answer back rfl
  exact absurd trivial (h ⟨.updatePod written, answer⟩ (by simp))

theorem Resumes.of_apart (h : Apart es) : change.Resumes es result := by
  rintro front key present back rfl
  exact absurd trivial (h ⟨.getPod key, .ok present⟩ (by simp))

/-- A round before what was computed is computed. -/
theorem Precedes.round (apart : Apart computing)
    (computed : change.Answers pod computing (.ok (some updated)))
    (h : change.Precedes pod rest) :
    change.Precedes pod (computing
      ++ ⟨.updatePod (pod.annotate statusKey (Attachment.renderList updated)), answer⟩ :: rest) := by
  intro front written answer' back same
  obtain ⟨between, rfl, after⟩ := apart.split (e := ⟨.updatePod written, answer'⟩) trivial same
  -- it is the write of this round, or one of the rest
  cases between with
  | nil =>
    obtain ⟨⟨⟩, rfl⟩ := List.cons.inj after
    rw [List.append_nil, apart.latest]
    exact ⟨computing, updated, List.suffix_refl _, computed, rfl⟩
  | cons e between =>
    obtain ⟨rfl, later⟩ := List.cons.inj after
    obtain ⟨computing', updated', suffix, computed', rfl⟩ := h between written answer' back later
    rw [(Exchange.seen_of_write apart ..).2.2]
    refine ⟨computing', updated', ?_, computed', rfl⟩
    exact suffix.trans ((List.suffix_cons _ _).trans (List.suffix_append _ _))

theorem Resumes.round (apart : Apart computing) (h : change.Resumes rest result) :
    change.Resumes (computing ++ ⟨.updatePod written, answer⟩ :: rest) result := by
  intro front key present back same
  obtain ⟨between, rfl, after⟩ := apart.split (e := ⟨.getPod key, .ok present⟩) trivial same
  cases between with
  | nil => cases after
  | cons e between =>
    exact h between key present back (List.cons.inj after).2

theorem Precedes.again (notice : Notice) (key : ObjectKey) (h : change.Precedes present rest) :
    change.Precedes pod (⟨.notify notice, ()⟩ :: ⟨.getPod key, .ok present⟩ :: rest) := by
  intro front written answer back same
  obtain _ | ⟨e₁, _ | ⟨e₂, between⟩⟩ := front
  · cases same
  · cases (List.cons.inj same).2
  · obtain ⟨rfl, read⟩ := List.cons.inj same
    obtain ⟨rfl, later⟩ := List.cons.inj read
    obtain ⟨computing, updated, suffix, computed, rfl⟩ := h between written answer back later
    rw [Exchange.latest_again]
    exact ⟨computing, updated,
      suffix.trans ((List.suffix_cons _ _).trans (List.suffix_cons _ _)), computed, rfl⟩

theorem Resumes.again (notice : Notice) (key : ObjectKey) (first : change.Round present rest result)
    (h : change.Resumes rest result) :
    change.Resumes (⟨.notify notice, ()⟩ :: ⟨.getPod key, .ok present⟩ :: rest) result := by
  intro front key' present' back same
  obtain _ | ⟨e₁, _ | ⟨e₂, between⟩⟩ := front
  · cases same
  · obtain ⟨⟨⟩, rfl⟩ := List.cons.inj (List.cons.inj same).2
    exact first
  · exact h between key' present' back (List.cons.inj (List.cons.inj same).2).2

end StatusChange

/-! ## Rounds of an update -/

namespace Rewriting

variable {key refused : ObjectKey} {version : Nat}

/-- An update that comes to its end before any write. -/
theorem of_apart (apart : Apart es) (first : change.Round pod es result)
    (needless : ∀ new, result = .ok new → new = pod ∧ change.Answers pod es (.ok none))
    (current : ∀ key version, result ≠ .error (.conflict key version)) :
    Rewriting change key pod left es result where
  verdict := by
    rw [apart.tries, apart.lookups]
    exact .untried current
  needless new ok _ := by
    obtain ⟨rfl, needless⟩ := needless new ok
    exact ⟨(apart.latest new).symm, es, List.suffix_refl es, needless⟩
  asked := by
    rw [apart.lookups]
    exact nofun
  own _ := by
    rw [apart.tries]
    exact nofun
  first := first
  computed := .of_apart apart
  resumed := .of_apart apart

section

variable (apart : Apart computing) (computed : change.Answers pod computing (.ok (some updated)))

include apart computed

/-- The last write of an update, which is accepted or refused for good. -/
theorem of_write
    (verdict : Verdict key left [(pod.annotate statusKey (Attachment.renderList updated), answer)] []
      result)
    (wrote : ∀ new, result = .ok new → answer = .ok new) :
    Rewriting change key pod left
      (computing ++ [⟨.updatePod (pod.annotate statusKey (Attachment.renderList updated)), answer⟩])
      result := by
  obtain ⟨tried, asked, -⟩ := Exchange.seen_of_write apart pod
    (pod.annotate statusKey (Attachment.renderList updated)) answer []
  refine ⟨?_, ?_, ?_, ?_, .writes computed answer [] result, .round apart computed (.of_apart nofun),
    .round apart (.of_apart nofun)⟩
  · rw [tried, asked]
    exact verdict
  · intro new ok none
    rw [Exchange.writes_eq, tried, wrote new ok] at none
    cases none
  · rw [asked]
    exact nofun
  · intro own
    rw [tried]
    exact List.forall_mem_singleton.2 (own pod List.mem_cons_self)

/-- A write came too late, and the pod cannot be read again. -/
theorem of_lost {cause : Fault} (notice : Notice) (some_left : 0 < left)
    (current : ∀ key version, cause ≠ .conflict key version) :
    Rewriting change key pod left
      (computing ++ [⟨.updatePod (pod.annotate statusKey (Attachment.renderList updated)),
          .error (.conflict refused version)⟩, ⟨.notify notice, ()⟩,
        ⟨.getPod key, .error cause⟩]) (.error cause) := by
  obtain ⟨tried, asked, -⟩ := Exchange.seen_of_write apart pod
    (pod.annotate statusKey (Attachment.renderList updated)) (.error (.conflict refused version))
    [⟨.notify notice, ()⟩, ⟨.getPod key, .error cause⟩]
  refine ⟨?_, nofun, ?_, ?_, .writes computed _ _ _, .round apart computed ?_, .round apart ?_⟩
  · rw [tried, asked]
    exact .lost_again some_left current
  · rw [asked]
    exact List.forall_mem_singleton.2 rfl
  · intro own
    rw [tried]
    exact List.forall_mem_singleton.2 (own pod List.mem_cons_self)
  · intro front written answer back same
    obtain _ | ⟨e₁, _ | ⟨e₂, between⟩⟩ := front <;> simp at same
  · intro front key' present back same
    obtain _ | ⟨e₁, _ | ⟨e₂, between⟩⟩ := front <;> simp at same

/-- A write came too late, and another round follows. -/
theorem again (notice : Notice) (h : Rewriting change key present left rest result) :
    Rewriting change key pod (left + 1)
      (computing ++ ⟨.updatePod (pod.annotate statusKey (Attachment.renderList updated)),
          .error (.conflict refused version)⟩
        :: ⟨.notify notice, ()⟩ :: ⟨.getPod key, .ok present⟩ :: rest) result := by
  obtain ⟨tried, asked, last⟩ := Exchange.seen_of_write apart pod
    (pod.annotate statusKey (Attachment.renderList updated)) (.error (.conflict refused version))
    (⟨.notify notice, ()⟩ :: ⟨.getPod key, .ok present⟩ :: rest)
  refine ⟨?_, ?_, ?_, ?_, .writes computed _ _ _, .round apart computed (h.computed.again _ _),
    .round apart (h.resumed.again _ _ h.first)⟩
  · rw [tried, asked]
    exact h.verdict.again
  · intro new ok none
    have none' : writes rest = [] := by
      rw [Exchange.writes_eq, tried] at none
      rw [Exchange.writes_eq]
      exact none
    obtain ⟨rfl, computing', suffix, needless⟩ := h.needless new ok none'
    rw [last, Exchange.latest_again]
    refine ⟨rfl, computing', suffix.trans ?_, needless⟩
    exact ((List.suffix_cons _ _).trans (List.suffix_cons _ _)).trans
      ((List.suffix_cons _ _).trans (List.suffix_append _ _))
  · rw [asked]
    exact List.forall_mem_cons.2 ⟨rfl, h.asked⟩
  · intro own
    have read : reads (computing ++ ⟨.updatePod (pod.annotate statusKey
        (Attachment.renderList updated)), .error (.conflict refused version)⟩
        :: ⟨.notify notice, ()⟩ :: ⟨.getPod key, .ok present⟩ :: rest)
        = present :: reads rest := by
      rw [Exchange.reads_eq, asked, Exchange.reads_eq]
      rfl
    rw [read] at own
    obtain ⟨begun, later⟩ := List.forall_mem_cons.1 own
    rw [tried]
    exact List.forall_mem_cons.2 ⟨begun, h.own later⟩

end

end Rewriting

end

/-! ## Status updates -/

variable {σ : Type} {answers : σ → Exchange → σ → Prop} {s s' : σ} {change : StatusChange}
  {limit left : Nat} {key : ObjectKey} {pod : Pod} {es : List Exchange} {result : Except Fault Pod}

theorem StatusChange.answers_of_course {recorded : List Attachment}
    {answer : Except Fault (Option (List Attachment))} (status : Attachment.ofPod pod = .ok recorded)
    (course : Attempt.Course answers (change pod recorded) s es answer s') :
    change.Answers pod es answer :=
  ⟨recorded, status, course.path⟩

theorem rewriting_of_course (computes : change.Computes)
    (current : ∀ key cause, (key, .error cause) ∈ lookups es →
      ∀ key' version, cause ≠ .conflict key' version)
    (course : StatusCourse answers limit key change left pod s es result s') :
    Rewriting change key pod left es result := by
  -- on the repetitions left, as only a write that came too late begins another round
  induction left using Nat.strongRecOn generalizing pod s es with
  | ind left ih =>
    cases course with
    | unreadable status => exact .of_apart nofun (.unreadable status) nofun nofun
    | impossible status fails =>
      have computed := StatusChange.answers_of_course status fails
      obtain ⟨apart, invalid⟩ := computes _ _ _ computed
      obtain ⟨fault, rfl⟩ := invalid _ rfl
      exact .of_apart apart (.fails computed) nofun nofun
    | unchanged status nothing =>
      have computed := StatusChange.answers_of_course status nothing
      refine .of_apart (computes _ _ _ computed).1 (.unchanged computed) ?_ nofun
      rintro _ ⟨⟩
      exact ⟨rfl, computed⟩
    | stored status changes =>
      have computed := StatusChange.answers_of_course status changes
      exact .of_write (computes _ _ _ computed).1 computed .stored fun _ ok => ok
    | refused status changes write refusal =>
      have computed := StatusChange.answers_of_course status changes
      exact .of_write (computes _ _ _ computed).1 computed (.of_refusal refusal) nofun
    | again some_left status changes write tell read rest =>
      have computed := StatusChange.answers_of_course status changes
      have apart := (computes _ _ _ computed).1
      subst some_left
      refine .again apart computed _ (ih _ (Nat.lt_succ_self _) ?_ (rewriteStatus_course rest))
      intro key cause lost
      refine current key cause ?_
      rw [(Exchange.seen_of_write apart pod ..).2.1]
      exact List.mem_cons_of_mem _ lost
    | lost status changes write tell read some_left =>
      have computed := StatusChange.answers_of_course status changes
      have apart := (computes _ _ _ computed).1
      refine .of_lost apart computed _ some_left (current key _ ?_)
      rw [(Exchange.seen_of_write apart pod ..).2.1]
      exact List.mem_cons_self

/-- Whatever its surroundings answer, an update of the status of a pod comes to an end. It tries at
most one write more than it may repeat and reads the pod again at most that often; it succeeds with the
one write that is accepted or with a pod that needs none, and writes nothing if it fails; it fails as
overwritten exactly if all writes that it may try came too late, passes on that the pod is gone and all
faults of reading and computing, and reports any other refusal of a write. All that is written was
computed from the pod that it replaces. The change only computes, as the two changes of the controller
do, and reading a pod does not bring a conflict. -/
theorem status_is_rewritten_within_its_retries (computes : change.Computes)
    (answer : (q : Action) → σ → q.Answer × σ) (s : σ) (limit : Nat) (pod : Pod)
    (current : ∀ key cause,
      (key, .error cause) ∈ lookups ((updateStatus limit change limit pod).run.exchanges answer s) →
      ∀ key' version, cause ≠ .conflict key' version) :
    Rewriting change pod.key pod limit ((updateStatus limit change limit pod).run.exchanges answer s)
      ((updateStatus limit change limit pod).run.run answer s).1 := by
  have course : Attempt.Course (fun s e s' => answer e.1 s = (e.2, s'))
      (updateStatus limit change limit pod) s _ _ _ := Program.course_run (fun _ _ => rfl) _ s
  exact rewriting_of_course computes current (rewriteStatus_course course)

/-- A pod without networks, as it is in a store and as it was before. -/
private def podAtVersion (version : Nat) : Pod :=
  ⟨"ns1", "pod1", "u1", version, (∅ : Dict String).insert networksKey "", [⟨"c", "docker://abc"⟩]⟩

private def afterTwoWrites : PodStore :=
  ((PodStore.empty.apply (podAtVersion 0)).2.apply (podAtVersion 0)).2

private def inStore : (q : Action) → PodStore → q.Answer × PodStore :=
  PodStore.respond (fun key => .error (.notFound .definition key)) fun _ => ⟨none⟩

/-- The pod in hand is out of date. With one repetition it is read again and its status is written, and
without any the update fails. What is not recorded need not be dropped. -/
theorem outdated_pod_is_read_again :
    let net : Selection := ⟨"net", "ns1", none, [], none, [], none⟩
    let attached : Attachment := ⟨"ns1/net", "net1", [], "", false, .empty, ∅⟩
    let once := (updateStatus 1 (recordNew net attached) 1 (podAtVersion 1)).run
    let never := (updateStatus 0 (recordNew net attached) 0 (podAtVersion 1)).run
    let idle := (updateStatus 0 (dropOld attached) 0 (podAtVersion 1)).run
    (∃ new, Rewriting (recordNew net attached) ⟨"ns1", "pod1"⟩ (podAtVersion 1) 1
        (once.exchanges inStore afterTwoWrites) (.ok new) ∧ (tries (once.exchanges inStore afterTwoWrites)).length = 2)
      ∧ Rewriting (recordNew net attached) ⟨"ns1", "pod1"⟩ (podAtVersion 1) 0
        (never.exchanges inStore afterTwoWrites) (.error (.conflict ⟨"ns1", "pod1"⟩ 1))
      ∧ Rewriting (dropOld attached) ⟨"ns1", "pod1"⟩ (podAtVersion 1) 0
        (idle.exchanges inStore afterTwoWrites) (.ok (podAtVersion 1)) := by
  intro net attached once never idle
  have found : ∀ l ∈ lookups (once.exchanges inStore afterTwoWrites), l.2.isOk = true := by
    decide +kernel
  have unasked : lookups (never.exchanges inStore afterTwoWrites) = [] := by decide +kernel
  obtain ⟨new, ok, -⟩ : ∃ new ∈ (once.run inStore afterTwoWrites).1.toOption, True := by decide +kernel
  have untouched : lookups (idle.exchanges inStore afterTwoWrites) = [] := by decide +kernel
  have kept : (idle.run inStore afterTwoWrites).1 = .ok (podAtVersion 1) := by decide +kernel
  have refused : (never.run inStore afterTwoWrites).1 = .error (.conflict ⟨"ns1", "pod1"⟩ 1) := by
    decide +kernel
  refine ⟨⟨new, ?_, by decide +kernel⟩, ?_, ?_⟩
  · rw [← mem_toOption.1 ok]
    refine status_is_rewritten_within_its_retries (recordNew_computes net attached) inStore _ 1
      (podAtVersion 1) ?_
    intro key cause lost
    cases found _ lost
  · rw [← refused]
    refine status_is_rewritten_within_its_retries (recordNew_computes net attached) inStore _ 0
      (podAtVersion 1) ?_
    intro key cause lost
    rw [unasked] at lost
    cases lost
  · rw [← kept]
    refine status_is_rewritten_within_its_retries (dropOld_computes attached) inStore _ 0 (podAtVersion 1) ?_
    intro key cause lost
    rw [untouched] at lost
    cases lost

end NetAttach
