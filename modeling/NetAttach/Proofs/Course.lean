-- SUMMARY: The courses that attaching and detaching a network can take, whatever the surroundings answer.
import NetAttach.Proofs.Attaching
import NetAttach.Proofs.Controller
import NetAttach.Proofs.Run

/-!
# Courses of programs

A course of a program begins in some surroundings, goes through exchanges that they
allow, and ends with a result in other surroundings. A course of a sequence is made of
courses of its parts, so that the courses of every part of reconciliation are told once
and for all, in `StatusCourse`, `CallCourse`, `AttachCourse` and `DetachCourse`.
-/

namespace NetAttach

namespace Program

variable {Q : Type} {Answer : Q → Type} {α β σ : Type}
  {answers : σ → Exchange Answer → σ → Prop} {s s' : σ} {es : List (Exchange Answer)}

/-! ## Courses -/

/-- From one state of its surroundings to another, a program goes through exchanges and ends with
a result. -/
inductive Course (answers : σ → Exchange Answer → σ → Prop) :
    Program Answer α → σ → List (Exchange Answer) → α → σ → Prop where
  | done (a : α) (s : σ) : Course answers (.done a) s [] a s
  | act {q : Q} {next : Answer q → Program Answer α} {r : Answer q} {s m s' : σ}
    {es : List (Exchange Answer)} {a : α} (answer : answers s ⟨q, r⟩ m)
    (rest : Course answers (next r) m es a s') : Course answers (.act q next) s (⟨q, r⟩ :: es) a s'

theorem course_done {a b : α} :
    (Program.done a).Course answers s es b s' ↔ es = [] ∧ b = a ∧ s' = s := by
  constructor
  · rintro ⟨⟩
    exact ⟨rfl, rfl, rfl⟩
  · rintro ⟨rfl, rfl, rfl⟩
    exact .done _ _

theorem course_bind {p : Program Answer β} {k : β → Program Answer α} {a : α} :
    (p.bind k).Course answers s es a s' ↔ ∃ es₁ b m es₂, es = es₁ ++ es₂
      ∧ p.Course answers s es₁ b m ∧ (k b).Course answers m es₂ a s' := by
  constructor
  · intro h
    induction p generalizing s es with
    | done b => exact ⟨[], b, s, es, rfl, .done b s, h⟩
    | act q next ih =>
      cases h with
      | act answer rest =>
        obtain ⟨es₁, b, m, es₂, rfl, first, second⟩ := ih _ rest
        exact ⟨_, b, m, es₂, rfl, .act answer first, second⟩
  · rintro ⟨es₁, b, m, es₂, rfl, first, second⟩
    induction first with
    | done => exact second
    | act answer _ ih => exact .act answer (ih second)

/-- A question and its answer. -/
theorem course_ask {q : Q} {r : Answer q} :
    (Program.ask q).Course answers s es r s' ↔ es = [⟨q, r⟩] ∧ answers s ⟨q, r⟩ s' := by
  constructor
  · intro h
    cases h with
    | act answer rest =>
      cases rest
      exact ⟨rfl, answer⟩
  · rintro ⟨rfl, answer⟩
    exact .act answer (.done r s')

/-- The exchanges of a program in surroundings that always answer in the same way. -/
def exchanges (answer : (q : Q) → σ → Answer q × σ) :
    Program Answer α → σ → List (Exchange Answer)
  | .done _, _ => []
  | .act q next, s => ⟨q, (answer q s).1⟩ :: exchanges answer (next (answer q s).1) (answer q s).2

/-- A program that runs by itself takes a course. -/
theorem course_run {answer : (q : Q) → σ → Answer q × σ}
    (allowed : ∀ q s, answers s ⟨q, (answer q s).1⟩ (answer q s).2) (p : Program Answer α) (s : σ) :
    p.Course answers s (p.exchanges answer s) (p.run answer s).1 (p.run answer s).2 := by
  induction p generalizing s with
  | done a => exact .done a s
  | act q next ih => exact .act (allowed q s) (ih _ _)

end Program

namespace Attempt

open Program

variable {α β σ : Type} {answers : σ → Exchange → σ → Prop} {s s' : σ} {es : List Exchange}

/-- A course of a program that may fail. -/
def Course (answers : σ → Exchange → σ → Prop) (x : Attempt α) (s : σ) (es : List Exchange)
    (r : Except Fault α) (s' : σ) : Prop :=
  x.run.Course answers s es r s'

variable {r : Except Fault α}

theorem course_pure {a : α} :
    Course answers (pure a) s es r s' ↔ es = [] ∧ r = .ok a ∧ s' = s :=
  course_done

theorem course_throw {cause : Fault} :
    Course answers (throw cause : Attempt α) s es r s' ↔ es = [] ∧ r = .error cause ∧ s' = s :=
  course_done

theorem course_reply {p : Control (Except Fault α)} :
    Course answers (reply p) s es r s' ↔ p.Course answers s es r s' :=
  .rfl

theorem course_lift {p : Control α} :
    Course answers (liftM p) s es r s' ↔ ∃ a, r = .ok a ∧ p.Course answers s es a s' := by
  refine (course_bind (p := p)).trans ⟨?_, ?_⟩
  · rintro ⟨es₁, a, m, es₂, rfl, course, rest⟩
    obtain ⟨rfl, rfl, rfl⟩ := course_done.1 rest
    exact ⟨a, rfl, by simpa using course⟩
  · rintro ⟨a, rfl, course⟩
    exact ⟨es, a, s', [], by simp, course, .done _ _⟩

/-- A sequence fails with its first part, or goes on with what that has come to. -/
theorem course_bind {x : Attempt β} {k : β → Attempt α} :
    Course answers (x >>= k) s es r s' ↔
      (∃ cause, r = .error cause ∧ Course answers x s es (.error cause) s')
        ∨ ∃ es₁ b m es₂, es = es₁ ++ es₂ ∧ Course answers x s es₁ (.ok b) m
          ∧ Course answers (k b) m es₂ r s' := by
  refine (Program.course_bind (p := x.run)).trans ⟨?_, ?_⟩
  · rintro ⟨es₁, b | b, m, es₂, rfl, first, second⟩
    · obtain ⟨rfl, rfl, rfl⟩ := course_done.1 second
      exact .inl ⟨b, rfl, by rw [List.append_nil]; exact first⟩
    · exact .inr ⟨es₁, b, m, es₂, rfl, first, second⟩
  · rintro (⟨cause, rfl, first⟩ | ⟨es₁, b, m, es₂, rfl, first, second⟩)
    · exact ⟨es, _, s', [], by simp, first, .done _ _⟩
    · exact ⟨es₁, _, m, es₂, rfl, first, second⟩

/-- A sequence that begins with a computation. -/
theorem course_bind_ofExcept {x : Except AnnotationFault β} {k : β → Attempt α} :
    Course answers (ofExcept x >>= k) s es r s' ↔
      (∃ cause, x = .error cause ∧ es = [] ∧ r = .error (.invalid cause) ∧ s' = s)
        ∨ ∃ b, x = .ok b ∧ Course answers (k b) s es r s' := by
  cases x with
  | error cause =>
    refine course_done.trans ⟨fun ⟨hes, hr, hs⟩ => .inl ⟨cause, rfl, hes, hr, hs⟩, ?_⟩
    rintro (⟨_, ⟨⟩, hes, hr, hs⟩ | ⟨_, ⟨⟩, -⟩)
    exact ⟨hes, hr, hs⟩
  | ok b =>
    refine ⟨fun h => .inr ⟨b, rfl, h⟩, ?_⟩
    rintro (⟨_, ⟨⟩, -⟩ | ⟨_, ⟨⟩, h⟩)
    exact h

/-- A sequence that begins with a program that cannot fail. -/
theorem course_bind_lift {p : Control β} {k : β → Attempt α} :
    Course answers (liftM p >>= k) s es r s' ↔ ∃ es₁ b m es₂, es = es₁ ++ es₂
      ∧ p.Course answers s es₁ b m ∧ Course answers (k b) m es₂ r s' := by
  refine course_bind.trans ⟨?_, ?_⟩
  · rintro (⟨cause, rfl, first⟩ | ⟨es₁, b, m, es₂, rfl, first, second⟩)
    · obtain ⟨_, ⟨⟩, -⟩ := course_lift.1 first
    · obtain ⟨_, ⟨⟩, first⟩ := course_lift.1 first
      exact ⟨es₁, b, m, es₂, rfl, first, second⟩
  · rintro ⟨es₁, b, m, es₂, rfl, first, second⟩
    exact .inr ⟨es₁, b, m, es₂, rfl, course_lift.2 ⟨b, rfl, first⟩, second⟩

/-- A sequence that begins with an action whose answer is looked at. -/
theorem course_bind_outcome {q : Action} {k : q.Answer → Attempt α} :
    Course answers (outcome (ask q) >>= k) s es r s' ↔ ∃ a m rest, es = ⟨q, a⟩ :: rest
      ∧ answers s ⟨q, a⟩ m ∧ Course answers (k a) m rest r s' := by
  refine course_bind_lift.trans ⟨?_, ?_⟩
  · rintro ⟨es₁, a, m, rest, rfl, first, second⟩
    obtain ⟨rfl, answer⟩ := course_ask.1 first
    exact ⟨a, m, rest, rfl, answer, second⟩
  · rintro ⟨a, m, rest, rfl, answer, second⟩
    exact ⟨[⟨q, a⟩], a, m, rest, rfl, course_ask.2 ⟨rfl, answer⟩, second⟩

end Attempt

/-! ## Looking at the selections -/

section

open Attempt

variable {σ : Type} {answers : σ → Exchange → σ → Prop} {s s' : σ} {es : List Exchange}
  {pod : Pod} {network : Selection}

/-- The selections of a pod. An annotation that is unreadable selects nothing. -/
def Pod.selections (pod : Pod) : List Selection := (Selection.ofPod pod).toOption.getD []

/-- A notice is given, or none. -/
inductive Tells (answers : σ → Exchange → σ → Prop) (s : σ) : List Exchange → σ → Prop where
  | nothing : Tells answers s [] s
  | notice {s' : σ} (n : Notice) (answer : answers s ⟨.notify n, ()⟩ s') :
    Tells answers s [⟨.notify n, ()⟩] s'

theorem findAttachment_course {recorded : List Attachment} {found : Option Attachment}
    (h : (findAttachment pod recorded network).Course answers s es found s') :
    found = Attachment.find? recorded network pod.selections ∧ Tells answers s es s' := by
  obtain ⟨es₁, all, m, es₂, rfl, look, rest⟩ := Program.course_bind.1 h
  obtain ⟨rfl, rfl, rfl⟩ := Program.course_done.1 rest
  rw [List.append_nil]
  unfold currentSelections at look
  unfold Pod.selections
  split at look
  · next all' readable =>
    obtain ⟨rfl, rfl, rfl⟩ := Program.course_done.1 look
    rw [readable]
    exact ⟨rfl, .nothing⟩
  · next cause unreadable =>
    obtain ⟨es₁, _, m, es₂, rfl, notice, rest⟩ := Program.course_bind.1 look
    obtain ⟨rfl, answer⟩ := Program.course_ask.1 notice
    obtain ⟨rfl, rfl, rfl⟩ := Program.course_done.1 rest
    rw [unreadable]
    exact ⟨rfl, .notice _ answer⟩

/-! ## Status updates -/

/-- What a status update fails with after a write that is refused for good. -/
inductive Refusal (left : Nat) (key : ObjectKey) : Fault → Fault → Prop where
  | overwritten (refused : ObjectKey) (version : Nat) (none_left : left = 0) :
    Refusal left key (.conflict refused version) (.conflict refused version)
  | gone (kind : ObjectKind) (missing : ObjectKey) :
    Refusal left key (.notFound kind missing) (.notFound kind missing)
  | failed {cause : Fault} (current : ∀ key version, cause ≠ .conflict key version)
    (present : ∀ kind key, cause ≠ .notFound kind key) :
    Refusal left key cause (.statusNotWritten key cause)

/-- The courses of a status update. It is over at once, unless a write is refused because the pod
has changed. -/
inductive StatusCourse (answers : σ → Exchange → σ → Prop) (limit : Nat) (key : ObjectKey)
    (change : StatusChange) (left : Nat) (pod : Pod) (s : σ) :
    List Exchange → Except Fault Pod → σ → Prop where
  | unreadable {cause : AnnotationFault} (status : Attachment.ofPod pod = .error cause) :
    StatusCourse answers limit key change left pod s [] (.error (.invalid cause)) s
  | impossible {recorded : List Attachment} {es : List Exchange} {cause : Fault} {s' : σ}
    (status : Attachment.ofPod pod = .ok recorded)
    (fails : Course answers (change pod recorded) s es (.error cause) s') :
    StatusCourse answers limit key change left pod s es (.error cause) s'
  | unchanged {recorded : List Attachment} {es : List Exchange} {s' : σ}
    (status : Attachment.ofPod pod = .ok recorded)
    (nothing : Course answers (change pod recorded) s es (.ok none) s') :
    StatusCourse answers limit key change left pod s es (.ok pod) s'
  | stored {recorded updated : List Attachment} {es : List Exchange} {m s' : σ} {new : Pod}
    (status : Attachment.ofPod pod = .ok recorded)
    (changes : Course answers (change pod recorded) s es (.ok (some updated)) m)
    (write : answers m
      ⟨.updatePod (pod.annotate statusKey (Attachment.renderList updated)), .ok new⟩ s') :
    StatusCourse answers limit key change left pod s
      (es ++ [⟨.updatePod (pod.annotate statusKey (Attachment.renderList updated)), .ok new⟩])
      (.ok new) s'
  | refused {recorded updated : List Attachment} {es : List Exchange} {m s' : σ}
    {cause fault : Fault} (status : Attachment.ofPod pod = .ok recorded)
    (changes : Course answers (change pod recorded) s es (.ok (some updated)) m)
    (write : answers m
      ⟨.updatePod (pod.annotate statusKey (Attachment.renderList updated)), .error cause⟩ s')
    (refusal : Refusal left key cause fault) :
    StatusCourse answers limit key change left pod s
      (es ++ [⟨.updatePod (pod.annotate statusKey (Attachment.renderList updated)), .error cause⟩])
      (.error fault) s'
  | again {recorded updated : List Attachment} {es rest : List Exchange} {m₁ m₂ m₃ m₄ s' : σ}
    {refused : ObjectKey} {version fewer : Nat} {present : Pod} {notice : Notice}
    {r : Except Fault Pod} (some_left : left = fewer + 1)
    (status : Attachment.ofPod pod = .ok recorded)
    (changes : Course answers (change pod recorded) s es (.ok (some updated)) m₁)
    (write : answers m₁
      ⟨.updatePod (pod.annotate statusKey (Attachment.renderList updated)),
        .error (.conflict refused version)⟩ m₂)
    (tell : answers m₂ ⟨.notify notice, ()⟩ m₃)
    (read : answers m₃ ⟨.getPod key, .ok present⟩ m₄)
    (course : Course answers (rewriteStatus limit key change fewer present) m₄ rest r s') :
    StatusCourse answers limit key change left pod s
      (es ++ ⟨.updatePod (pod.annotate statusKey (Attachment.renderList updated)),
          .error (.conflict refused version)⟩
        :: ⟨.notify notice, ()⟩ :: ⟨.getPod key, .ok present⟩ :: rest) r s'
  | lost {recorded updated : List Attachment} {es : List Exchange} {m₁ m₂ m₃ s' : σ}
    {refused : ObjectKey} {version : Nat} {cause : Fault} {notice : Notice}
    (status : Attachment.ofPod pod = .ok recorded)
    (changes : Course answers (change pod recorded) s es (.ok (some updated)) m₁)
    (write : answers m₁
      ⟨.updatePod (pod.annotate statusKey (Attachment.renderList updated)),
        .error (.conflict refused version)⟩ m₂)
    (tell : answers m₂ ⟨.notify notice, ()⟩ m₃)
    (read : answers m₃ ⟨.getPod key, .error cause⟩ s') (some_left : 0 < left) :
    StatusCourse answers limit key change left pod s
      (es ++ [⟨.updatePod (pod.annotate statusKey (Attachment.renderList updated)),
          .error (.conflict refused version)⟩, ⟨.notify notice, ()⟩,
        ⟨.getPod key, .error cause⟩]) (.error cause) s'

theorem rewriteStatus_course {limit left : Nat} {key : ObjectKey} {change : StatusChange}
    {r : Except Fault Pod} (h : Course answers (rewriteStatus limit key change left pod) s es r s') :
    StatusCourse answers limit key change left pod s es r s' := by
  unfold rewriteStatus at h
  obtain ⟨cause, status, rfl, rfl, rfl⟩ | ⟨recorded, status, h₁⟩ := course_bind_ofExcept.1 h
  · exact .unreadable status
  obtain ⟨cause, rfl, fails⟩ | ⟨es₁, _ | updated, m, es₂, rfl, changes, h₂⟩ := course_bind.1 h₁
  · exact .impossible status fails
  · obtain ⟨rfl, rfl, rfl⟩ := course_pure.1 h₂
    simpa using StatusCourse.unchanged status changes
  obtain ⟨answer, m', es₃, rfl, write, h₃⟩ := course_bind_outcome.1 h₂
  cases answer with
  | ok new =>
    obtain ⟨rfl, rfl, rfl⟩ := course_pure.1 h₃
    exact .stored status changes write
  | error cause =>
    cases cause with
    | conflict refused version =>
      cases left with
      | zero =>
        obtain ⟨rfl, rfl, rfl⟩ := course_throw.1 h₃
        exact .refused status changes write (.overwritten refused version rfl)
      | succ fewer =>
        obtain ⟨_, m₂, es₄, rfl, tell, h₄⟩ := course_bind_outcome.1 h₃
        obtain ⟨cause, rfl, got⟩ | ⟨es₅, present, m₃, es₆, rfl, got, h₅⟩ := course_bind.1 h₄
        · obtain ⟨rfl, read⟩ := Program.course_ask.1 (course_reply.1 got)
          exact .lost status changes write tell read (Nat.succ_pos fewer)
        · obtain ⟨rfl, read⟩ := Program.course_ask.1 (course_reply.1 got)
          exact .again rfl status changes write tell read h₅
    | notFound kind missing =>
      obtain ⟨rfl, rfl, rfl⟩ := course_throw.1 h₃
      exact .refused status changes write (.gone kind missing)
    | _ =>
      obtain ⟨rfl, rfl, rfl⟩ := course_throw.1 h₃
      exact .refused status changes write (.failed nofun nofun)

theorem Attachment.record_eq_ok {recorded updated : List Attachment} {a : Attachment}
    (h : record recorded a = .ok updated) : updated = recorded ++ [a] := by
  unfold record at h
  split at h
  · cases h
  · split at h
    · cases h
    · cases h
      rfl

/-- The change that records an attachment looks at the selections, and fails or does what it can. -/
theorem recordNew_course {recorded : List Attachment} {attached : Attachment}
    {r : Except Fault (Option (List Attachment))}
    (h : Course answers (recordNew network attached pod recorded) s es r s') :
    Tells answers s es s' ∧ r = if Attachment.Attached recorded network pod.selections then .ok none
      else ((Attachment.record recorded attached).mapError .invalid).map some := by
  unfold recordNew at h
  obtain ⟨told, found, m, rest, rfl, look, h₁⟩ := course_bind_lift.1 h
  obtain ⟨rfl, tells⟩ := findAttachment_course look
  split at h₁
  · next a found =>
    obtain ⟨rfl, rfl, rfl⟩ := course_pure.1 h₁
    rw [if_pos (Attachment.find?_isSome.1 (Option.isSome_iff_exists.2 ⟨a, found⟩)), List.append_nil]
    exact ⟨tells, rfl⟩
  · next absent =>
    rw [if_neg (Attachment.find?_eq_none.1 absent)]
    obtain ⟨cause, fails, rfl, rfl, rfl⟩ | ⟨updated, ok, h₂⟩ := course_bind_ofExcept.1 h₁
    · rw [fails, List.append_nil]
      exact ⟨tells, rfl⟩
    · obtain ⟨rfl, rfl, rfl⟩ := course_pure.1 h₂
      rw [ok, List.append_nil]
      exact ⟨tells, rfl⟩

/-! ## Calls -/

/-- The courses of a call of the plugin for a network, which depends on the definition. -/
inductive CallCourse (answers : σ → Exchange → σ → Prop) (network : Selection)
    (call : Definition → Plugin.Call) (s : σ) :
    List Exchange → Except Fault Plugin.Response → σ → Prop where
  | undefined {cause : Fault} {m s' : σ}
    (missing : answers s ⟨.getDefinition ⟨network.space, network.name⟩, .error cause⟩ m)
    (tell : answers m ⟨.notify (.definitionUnavailable network.network cause), ()⟩ s') :
    CallCourse answers network call s
      [⟨.getDefinition ⟨network.space, network.name⟩, .error cause⟩,
        ⟨.notify (.definitionUnavailable network.network cause), ()⟩] (.error cause) s'
  | answered {definition : Definition} {r : Except Fault Plugin.Response} {m s' : σ}
    (defined : answers s ⟨.getDefinition ⟨network.space, network.name⟩, .ok definition⟩ m)
    (answer : answers m ⟨.invoke (call definition), r⟩ s') :
    CallCourse answers network call s
      [⟨.getDefinition ⟨network.space, network.name⟩, .ok definition⟩,
        ⟨.invoke (call definition), r⟩] r s'

theorem call_course {α : Type} {call : Definition → Plugin.Call}
    {k : Plugin.Response → Attempt α} {r : Except Fault α}
    (h : Course answers (getDefinition network >>= fun definition =>
      reply (ask (.invoke (call definition))) >>= k) s es r s') :
    (∃ cause, r = .error cause ∧ CallCourse answers network call s es (.error cause) s')
      ∨ ∃ es₁ response m es₂, es = es₁ ++ es₂ ∧ CallCourse answers network call s es₁ (.ok response) m
        ∧ Course answers (k response) m es₂ r s' := by
  have defines : ∀ {es : List Exchange} {r : Except Fault Definition} {s' : σ},
      Course answers (getDefinition network) s es r s' →
        (∃ definition, r = .ok definition
          ∧ es = [⟨.getDefinition ⟨network.space, network.name⟩, .ok definition⟩]
          ∧ answers s ⟨.getDefinition ⟨network.space, network.name⟩, .ok definition⟩ s')
        ∨ ∃ cause, r = .error cause ∧ CallCourse answers network call s es (.error cause) s' := by
    intro es r s' h
    unfold getDefinition at h
    obtain ⟨definition | cause, m, es₁, rfl, answer, h₁⟩ := course_bind_outcome.1 h
    · obtain ⟨_, m', es₂, rfl, tell, h₂⟩ := course_bind_outcome.1 h₁
      obtain ⟨rfl, rfl, rfl⟩ := course_throw.1 h₂
      exact .inr ⟨_, rfl, .undefined answer tell⟩
    · obtain ⟨rfl, rfl, rfl⟩ := course_pure.1 h₁
      exact .inl ⟨_, rfl, rfl, answer⟩
  obtain ⟨cause, rfl, first⟩ | ⟨es₁, definition, m, es₂, rfl, first, h₁⟩ := course_bind.1 h
  · obtain ⟨_, ⟨⟩, -⟩ | ⟨_, ⟨⟩, undefined⟩ := defines first
    exact .inl ⟨cause, rfl, undefined⟩
  · obtain ⟨_, ⟨⟩, rfl, defined⟩ | ⟨_, ⟨⟩, -⟩ := defines first
    obtain ⟨cause, rfl, got⟩ | ⟨es₃, response, m', es₄, rfl, got, h₂⟩ := course_bind.1 h₁
    · obtain ⟨rfl, answer⟩ := Program.course_ask.1 (course_reply.1 got)
      exact .inl ⟨cause, rfl, .answered defined answer⟩
    · obtain ⟨rfl, answer⟩ := Program.course_ask.1 (course_reply.1 got)
      exact .inr ⟨_, response, m', es₄, rfl, .answered defined answer, h₂⟩

/-! ## Attaching and detaching -/

/-- The courses of attaching a network. -/
inductive AttachCourse (answers : σ → Exchange → σ → Prop) (retries : Nat) (request : Request)
    (pod : Pod) (network : Selection) (s : σ) : List Exchange → Except Fault Pod → σ → Prop where
  | unreadable {cause : AnnotationFault} (status : Attachment.ofPod pod = .error cause) :
    AttachCourse answers retries request pod network s [] (.error (.invalid cause)) s
  | present {recorded : List Attachment} {told : List Exchange} {s' : σ}
    (status : Attachment.ofPod pod = .ok recorded)
    (attached : Attachment.Attached recorded network pod.selections)
    (tells : Tells answers s told s') :
    AttachCourse answers retries request pod network s told (.ok pod) s'
  | taken {recorded : List Attachment} {told : List Exchange} {i : String} {cause : Fault} {s' : σ}
    (status : Attachment.ofPod pod = .ok recorded)
    (new : ¬Attachment.Attached recorded network pod.selections)
    (asked : network.interface? = some i) (held : ∃ b ∈ recorded, b.interface = i)
    (tells : Tells answers s told s') :
    AttachCourse answers retries request pod network s told (.error cause) s'
  | failed {recorded : List Attachment} {told es : List Exchange} {cause : Fault} {m s' : σ}
    (status : Attachment.ofPod pod = .ok recorded)
    (new : ¬Attachment.Attached recorded network pod.selections)
    (tells : Tells answers s told m)
    (call : CallCourse answers network
      (pluginCall .add request pod network (network.interface?.getD "")) m es (.error cause) s') :
    AttachCourse answers retries request pod network s (told ++ es) (.error cause) s'
  | empty {recorded : List Attachment} {told es : List Exchange} {response : Plugin.Response}
    {cause : Fault} {m s' : σ} (status : Attachment.ofPod pod = .ok recorded)
    (new : ¬Attachment.Attached recorded network pod.selections)
    (tells : Tells answers s told m)
    (call : CallCourse answers network
      (pluginCall .add request pod network (network.interface?.getD "")) m es (.ok response) s')
    (nothing : response.result = none) :
    AttachCourse answers retries request pod network s (told ++ es) (.error cause) s'
  | unrecorded {recorded : List Attachment} {told es es' : List Exchange} {cause : Fault}
    {response : Plugin.Response} {result : Plugin.Result} {m m' s' : σ}
    (status : Attachment.ofPod pod = .ok recorded)
    (new : ¬Attachment.Attached recorded network pod.selections)
    (tells : Tells answers s told m)
    (call : CallCourse answers network
      (pluginCall .add request pod network (network.interface?.getD "")) m es (.ok response) m')
    (made : response.result = some result)
    (update : StatusCourse answers retries pod.key (recordNew network (Attachment.ofResult network result))
      retries pod m' es' (.error cause) s') :
    AttachCourse answers retries request pod network s (told ++ (es ++ es')) (.error cause) s'
  | attached {recorded : List Attachment} {told es es' : List Exchange} {new : Pod}
    {response : Plugin.Response} {result : Plugin.Result} {m₁ m₂ m₃ s' : σ}
    (status : Attachment.ofPod pod = .ok recorded)
    (absent : ¬Attachment.Attached recorded network pod.selections)
    (tells : Tells answers s told m₁)
    (call : CallCourse answers network
      (pluginCall .add request pod network (network.interface?.getD "")) m₁ es (.ok response) m₂)
    (made : response.result = some result)
    (update : StatusCourse answers retries pod.key (recordNew network (Attachment.ofResult network result))
      retries pod m₂ es' (.ok new) m₃)
    (event : answers m₃ ⟨.emit ⟨request.pod, "AddedInterface", addedText request.pod
      (Attachment.ofResult network result).interface network.name⟩, ()⟩ s') :
    AttachCourse answers retries request pod network s
      (told ++ (es ++ (es' ++ [⟨.emit ⟨request.pod, "AddedInterface", addedText request.pod
        (Attachment.ofResult network result).interface network.name⟩, ()⟩]))) (.ok new) s'

theorem attach_course {retries : Nat} {request : Request} {r : Except Fault Pod}
    (h : Course answers (attach retries request pod network) s es r s') :
    AttachCourse answers retries request pod network s es r s' := by
  unfold attach at h
  obtain ⟨cause, status, rfl, rfl, rfl⟩ | ⟨recorded, status, h₁⟩ := course_bind_ofExcept.1 h
  · exact .unreadable status
  obtain ⟨told, found, m, es₁, rfl, look, h₂⟩ := course_bind_lift.1 h₁
  obtain ⟨rfl, tells⟩ := findAttachment_course look
  split at h₂
  · next attached =>
    obtain ⟨rfl, rfl, rfl⟩ := course_pure.1 h₂
    rw [List.append_nil]
    exact .present status (Attachment.find?_isSome.1 attached) tells
  next absent =>
  have new := mt Attachment.find?_isSome.2 absent
  split at h₂
  · next taken held =>
    obtain ⟨rfl, rfl, rfl⟩ := course_throw.1 h₂
    obtain ⟨i, asked, held⟩ := Option.bind_eq_some_iff.1 held
    have same : taken.interface = i := by simpa using List.find?_some held
    rw [List.append_nil]
    exact .taken status new asked ⟨taken, List.mem_of_find?_eq_some held, same⟩ tells
  obtain ⟨cause, rfl, call⟩ | ⟨es₂, response, m₂, es₃, rfl, call, h₃⟩ := call_course h₂
  · exact .failed status new tells call
  split at h₃
  · next nothing =>
    obtain ⟨rfl, rfl, rfl⟩ := course_throw.1 h₃
    rw [List.append_nil]
    exact .empty status new tells call nothing
  · next result made =>
    obtain ⟨cause, rfl, update⟩ | ⟨es₄, stored, m₃, es₅, rfl, update, h₄⟩ := course_bind.1 h₃
    · exact .unrecorded status new tells call made (rewriteStatus_course update)
    · obtain ⟨_, m₄, es₆, rfl, event, h₅⟩ := course_bind_outcome.1 h₄
      obtain ⟨rfl, rfl, rfl⟩ := course_pure.1 h₅
      exact .attached status new tells call made (rewriteStatus_course update) event

/-- The courses of detaching a network. -/
inductive DetachCourse (answers : σ → Exchange → σ → Prop) (retries : Nat) (request : Request)
    (pod : Pod) (network : Selection) (s : σ) : List Exchange → Except Fault Pod → σ → Prop where
  | unreadable {cause : AnnotationFault} (status : Attachment.ofPod pod = .error cause) :
    DetachCourse answers retries request pod network s [] (.error (.invalid cause)) s
  | absent {recorded : List Attachment} {told : List Exchange} {s' : σ}
    (status : Attachment.ofPod pod = .ok recorded)
    (absent : ¬Attachment.Attached recorded network pod.selections)
    (tells : Tells answers s told s') :
    DetachCourse answers retries request pod network s told (.ok pod) s'
  | failed {recorded : List Attachment} {attached : Attachment} {told es : List Exchange}
    {cause : Fault} {m s' : σ} (status : Attachment.ofPod pod = .ok recorded)
    (found : Attachment.find? recorded network pod.selections = some attached)
    (tells : Tells answers s told m)
    (call : CallCourse answers network (pluginCall .del request pod network attached.interface)
      m es (.error cause) s') :
    DetachCourse answers retries request pod network s (told ++ es) (.error cause) s'
  | unrecorded {recorded : List Attachment} {attached : Attachment} {told es es' : List Exchange}
    {cause : Fault} {response : Plugin.Response} {m m' s' : σ}
    (status : Attachment.ofPod pod = .ok recorded)
    (found : Attachment.find? recorded network pod.selections = some attached)
    (tells : Tells answers s told m)
    (call : CallCourse answers network (pluginCall .del request pod network attached.interface)
      m es (.ok response) m')
    (update : StatusCourse answers retries pod.key (dropOld attached) retries pod m' es' (.error cause) s') :
    DetachCourse answers retries request pod network s (told ++ (es ++ es')) (.error cause) s'
  | detached {recorded : List Attachment} {attached : Attachment} {told es es' : List Exchange}
    {response : Plugin.Response} {new : Pod} {m₁ m₂ m₃ s' : σ}
    (status : Attachment.ofPod pod = .ok recorded)
    (found : Attachment.find? recorded network pod.selections = some attached)
    (tells : Tells answers s told m₁)
    (call : CallCourse answers network (pluginCall .del request pod network attached.interface)
      m₁ es (.ok response) m₂)
    (update : StatusCourse answers retries pod.key (dropOld attached) retries pod m₂ es' (.ok new) m₃)
    (event : answers m₃ ⟨.emit ⟨request.pod, "RemovedInterface",
      removedText request.pod attached.interface network.name⟩, ()⟩ s') :
    DetachCourse answers retries request pod network s
      (told ++ (es ++ (es' ++ [⟨.emit ⟨request.pod, "RemovedInterface",
        removedText request.pod attached.interface network.name⟩, ()⟩]))) (.ok new) s'

theorem detach_course {retries : Nat} {request : Request} {r : Except Fault Pod}
    (h : Course answers (detach retries request pod network) s es r s') :
    DetachCourse answers retries request pod network s es r s' := by
  unfold detach at h
  obtain ⟨cause, status, rfl, rfl, rfl⟩ | ⟨recorded, status, h₁⟩ := course_bind_ofExcept.1 h
  · exact .unreadable status
  obtain ⟨told, found, m, es₁, rfl, look, h₂⟩ := course_bind_lift.1 h₁
  obtain ⟨rfl, tells⟩ := findAttachment_course look
  split at h₂
  · next absent =>
    obtain ⟨rfl, rfl, rfl⟩ := course_pure.1 h₂
    rw [List.append_nil]
    exact .absent status (Attachment.find?_eq_none.1 absent) tells
  next attached found =>
  obtain ⟨cause, rfl, call⟩ | ⟨es₂, response, m₂, es₃, rfl, call, h₃⟩ := call_course h₂
  · exact .failed status found tells call
  obtain ⟨cause, rfl, update⟩ | ⟨es₄, stored, m₃, es₅, rfl, update, h₄⟩ := course_bind.1 h₃
  · exact .unrecorded status found tells call (rewriteStatus_course update)
  · obtain ⟨_, m₄, es₆, rfl, event, h₅⟩ := course_bind_outcome.1 h₄
    obtain ⟨rfl, rfl, rfl⟩ := course_pure.1 h₅
    exact .detached status found tells call (rewriteStatus_course update) event

end

end NetAttach
