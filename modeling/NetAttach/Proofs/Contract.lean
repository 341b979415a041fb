-- SUMMARY: A write of a pod at a server that others write too is accepted and refused as by a store in memory.
import NetAttach.Proofs.Course
import NetAttach.Proofs.PodObject
import NetAttach.Proofs.Store
import Mathlib.Data.List.Chain
import Mathlib.Logic.Relation

/-!
# Writes at a server that others write too

A pod is written with two requests, one that reads its object and one that replaces it, and
before and between them others may write, delete and create objects. The server gives every
revision of an object a version that no revision of that name had before, and replaces an
object only if the version that is put is the present one. So a replaced object is the one
that was read, unless the pod names a version that came after the read. What takes its place
is not the document that was read, but what the client library writes again of it.
-/

namespace NetAttach.Cluster

open Relation (ReflTransGen)

/-! ## Servers -/

/-- A pod of a server in one of its versions. -/
structure Revision where
  object : PodObject
  version : Nat
  read : PodObject.read object.document = some object
  versioned : object.version = some (toString version)
  positive : 0 < version
  bounded : version ≤ Json.maxWord

namespace Revision

/-- A document that is a pod with a version is a revision. -/
theorem exists_of {document : Json} {version : Nat} (shaped : Shape.pod.describes document)
    (versioned : versionOf document = some (toString version)) (positive : 0 < version)
    (bounded : version ≤ Json.maxWord) :
    ∃ r : Revision, r.version = version ∧ r.object.document = document := by
  obtain ⟨o, read⟩ : ∃ o, PodObject.read document = some o :=
    ⟨_, PodObject.read_eq_some.2 ⟨shaped, rfl⟩⟩
  have kept : o.document = document := congrArg PodObject.document (PodObject.read_eq_some.1 read).2
  have named : o.version = versionOf document :=
    congrArg PodObject.version (PodObject.read_eq_some.1 read).2
  exact ⟨⟨o, version, by rw [kept, read], named.trans versioned, positive, bounded⟩, rfl, kept⟩

/-- The pod that a revision stands for. -/
def pod (r : Revision) : Pod :=
  ⟨r.object.key.space, r.object.key.name, r.object.uid.getD "", r.version, r.object.annotations.getD ∅,
    r.object.containers⟩

theorem pod_eq (r : Revision) : r.object.pod = .ok r.pod := by
  have version : r.object.versionNumber = .ok r.version := by
    unfold PodObject.versionNumber
    rw [r.versioned]
    dsimp only
    rw [Text.readNat?_toString r.bounded]
  unfold PodObject.pod
  rw [version]
  rfl

variable {rewrite : Json → Json}

/-- What is stored of an object that is put with a pod. -/
theorem pod_of_replaced (rewrites : Rewrites rewrite) {r new : Revision} {pod : Pod}
    (keeps : SameBut ["resourceVersion"] (r.object.replaced rewrite pod) new.object.document) :
    SameBut ["resourceVersion", "annotations"] (rewrite r.object.document) new.object.document
      ∧ new.pod = { r.pod with version := new.version, annotations := pod.annotations } := by
  have same := (PodObject.sameBut_replaced rewrite r.object pod).trans keeps (by simp)
  have identity := PodObject.eq_of_sameBut (rewrites.reads r.read) new.read same
  obtain ⟨key, uid, containers⟩ : new.object.key = r.object.key ∧ new.object.uid = r.object.uid
    ∧ new.object.containers = r.object.containers := identity
  have annotations : new.object.annotations = some pod.annotations := by
    refine PodObject.annotations_of_read new.read ((keeps.metadata _ (by decide)).trans ?_)
    exact PodObject.get?_replaced ..
  refine ⟨same, ?_⟩
  simp only [Revision.pod, key, uid, containers, annotations, Option.getD_some]

/-- Whatever is put with a pod can be stored, in any version that is left. -/
theorem exists_stored (rewrites : Rewrites rewrite) (r : Revision) (pod : Pod) {version : Nat}
    (positive : 0 < version) (bounded : version ≤ Json.maxWord) :
    ∃ new : Revision, new.version = version
      ∧ new.object.document = stamped (r.object.replaced rewrite pod) version :=
  have shaped := (PodObject.read_eq_some.1 (rewrites.reads r.read)).1
  exists_of (describes_stamped (PodObject.describes_replaced shaped pod) version)
    (versionOf_stamped ..) positive bounded

end Revision

/-- A document can be brought as a text. -/
theorem document_render {j : Json} (h : j.Printable) : (⟨200, j.render⟩ : ApiReply).document = .ok j := by
  have parsed : Json.parse j.render = some j := by
    rw [Json.parse, Json.render, String.toList_ofList, Json.parseChars_render j h]
  rw [ApiReply.document, if_neg (by simp [ApiReply.refuses]), parsed]

/-- A server with the revisions that are present at its paths. -/
structure Server where
  present : String → Option Revision
  /-- The last version that was given at a path. -/
  last : String → Nat
  current : ∀ path r, present path = some r → r.version = last path

namespace Server

/-- A revision is stored at a path. -/
def write (s : Server) (path : String) (r : Revision) : Server where
  present p := if p = path then some r else s.present p
  last p := if p = path then r.version else s.last p
  current p q h := by
    split at h
    · next same => cases h; rw [if_pos same]
    · next other => rw [if_neg other]; exact s.current p q h

/-- The object at a path is deleted. -/
def delete (s : Server) (path : String) : Server where
  present p := if p = path then none else s.present p
  last := s.last
  current p q h := by
    split at h
    · cases h
    · exact s.current p q h

/-- Someone else writes, creates or deletes an object. -/
inductive Change (s : Server) : Server → Prop where
  | write (path : String) (r : Revision) (newer : s.last path < r.version) : Change s (s.write path r)
  | delete (path : String) : Change s (s.delete path)

/-- A server after any changes of others. -/
abbrev Later : Server → Server → Prop := ReflTransGen Change

/-- The pod at a path as a store would give it under a name. -/
def get (s : Server) (path : String) (key : ObjectKey) : Except Fault Pod :=
  match s.present path with
  | some r => .ok r.pod
  | none => .error (.notFound .pod key)

variable {s t : Server} {path : String} {r : Revision}

theorem present_write_self : (s.write path r).present path = some r := if_pos rfl

theorem Change.last_le (h : s.Change t) (path : String) : s.last path ≤ t.last path := by
  cases h with
  | write p r newer =>
    change s.last path ≤ if path = p then r.version else s.last path
    split
    · next same => exact Nat.le_of_lt (same ▸ newer)
    · exact Nat.le_refl _
  | delete => exact Nat.le_refl _

theorem Change.present (h : s.Change t) (here : t.present path = some r) :
    s.present path = some r ∨ s.last path < r.version := by
  cases h with
  | write p new newer =>
    change (if path = p then some new else s.present path) = some r at here
    split at here
    · next same => cases here; exact .inr (same ▸ newer)
    · exact .inl here
  | delete p =>
    change (if path = p then none else s.present path) = some r at here
    split at here
    · cases here
    · exact .inl here

theorem Later.last_le (h : s.Later t) (path : String) : s.last path ≤ t.last path := by
  induction h with
  | refl => exact Nat.le_refl _
  | tail _ change ih => exact Nat.le_trans ih (change.last_le path)

/-- What is present was present before, or it is newer than all that was. -/
theorem Later.present (h : s.Later t) (here : t.present path = some r) :
    s.present path = some r ∨ s.last path < r.version := by
  induction h with
  | refl => exact .inl here
  | tail earlier change ih =>
    obtain before | newer := change.present here
    · exact ih before
    · exact .inr (Nat.lt_of_le_of_lt (Later.last_le earlier path) newer)

/-- A revision that was present at some time is present later if its version is not newer. -/
theorem Later.eq_of_le (h : s.Later t) {held : Revision} (before : s.present path = some r)
    (here : t.present path = some held) (le : held.version ≤ r.version) : held = r := by
  obtain same | newer := h.present here
  · exact Option.some.inj (same.symm.trans before)
  · rw [← s.current path r before] at newer
    exact absurd newer (Nat.not_lt.2 le)

/-! ## Replies -/

/-- How a server replies, and what it holds then. -/
inductive Replies (s : Server) : ApiRequest → ApiReply → Server → Prop where
  | found {path : String} {r : Revision} {reply : ApiReply} (here : s.present path = some r)
    (brings : reply.document = .ok r.object.document) : Replies s ⟨.get, path, none⟩ reply s
  | unknown {path : String} {reply : ApiReply} (absent : s.present path = none)
    (refuses : reply.document = .error (.refused 404)) : Replies s ⟨.get, path, none⟩ reply s
  | gone {path : String} {body : Json} {reply : ApiReply} (absent : s.present path = none)
    (refuses : reply.document = .error (.refused 404)) : Replies s ⟨.put, path, some body⟩ reply s
  /-- The version that is put is not the present one. -/
  | stale {path : String} {body : Json} {r : Revision} {reply : ApiReply}
    (here : s.present path = some r) (other : versionOf body ≠ some (toString r.version))
    (refuses : reply.document = .error (.refused 409)) : Replies s ⟨.put, path, some body⟩ reply s
  /-- What is put is stored in a version of its own. -/
  | stored {path : String} {body : Json} {r new : Revision} {reply : ApiReply}
    (here : s.present path = some r) (current : versionOf body = some (toString r.version))
    (newer : s.last path < new.version)
    (keeps : SameBut ["resourceVersion"] body new.object.document)
    (brings : reply.document = .ok new.object.document) :
    Replies s ⟨.put, path, some body⟩ reply (s.write path new)

end Server

/-- A server, with what it held at each request so far when it replied. -/
structure Session where
  server : Server
  moments : List Server

/-- Others change the server, and then it replies. -/
inductive Session.Answers (s : Session) :
    Program.Exchange (fun _ : ApiRequest => ApiReply) → Session → Prop where
  | intro {t u : Server} {q : ApiRequest} {reply : ApiReply} (later : s.server.Later t)
    (replies : t.Replies q reply u) : Answers s ⟨q, reply⟩ ⟨u, s.moments ++ [t]⟩

/-! ## Requests -/

section

variable {σ α : Type} {method : Method} {target path : String} {document : Option Json}
  {read : Json → Option α} {s s' : σ} {r : Except ApiFault α}
  {es : List (Program.Exchange fun _ : ApiRequest => ApiReply)}
  {answers : σ → Program.Exchange (fun _ : ApiRequest => ApiReply) → σ → Prop}

theorem request_course
    (sent : arrivingPath? (if document.isSome then target ++ "?" else target) = some path) :
    (request method target document read).Course answers s es r s' ↔
      ∃ reply, es = [⟨⟨method, path, document⟩, reply⟩]
        ∧ answers s ⟨⟨method, path, document⟩, reply⟩ s' ∧ r = reply.object read := by
  unfold request
  rw [sent]
  refine Program.course_bind.trans ⟨?_, ?_⟩
  · rintro ⟨_, reply, _, _, rfl, asked, rest⟩
    obtain ⟨rfl, answer⟩ := Program.course_ask.1 asked
    obtain ⟨rfl, rfl, rfl⟩ := Program.course_done.1 rest
    exact ⟨reply, rfl, answer, rfl⟩
  · rintro ⟨reply, rfl, answer, rfl⟩
    exact ⟨_, reply, _, [], rfl, Program.course_ask.2 ⟨rfl, answer⟩, .done _ _⟩

theorem request_course_of_unsent
    (unsent : arrivingPath? (if document.isSome then target ++ "?" else target) = none) :
    (request method target document read).Course answers s es r s' ↔
      es = [] ∧ r = .error .unsent ∧ s' = s := by
  unfold request
  rw [unsent]
  exact Program.course_done

/-- What cannot be asked for is not read. -/
theorem getPodObject_course_of_unasked {key : ObjectKey} {r : Except Fault PodObject}
    (no : key.name = "" ∨ arrivingPath? (podTarget key) = none)
    (h : (getPodObject key).Course answers s es r s') :
    r = .error (.store (.podUnavailable key)) ∧ s' = s := by
  unfold getPodObject at h
  by_cases named : key.name = ""
  · rw [if_pos named] at h
    exact (Program.course_done.1 h).2
  · rw [if_neg named] at h
    obtain ⟨_, _, _, _, -, sending, rest⟩ := Program.course_bind.1 h
    obtain ⟨-, rfl, rfl⟩ := (request_course_of_unsent (by exact no.resolve_left named)).1 sending
    exact (Program.course_done.1 rest).2

/-- A pod is written by a read of its object and a replace of that. -/
theorem updatePodBy_course {rewrite : Json → Json} {pod : Pod} {r : Except Fault Pod}
    (h : (updatePodBy rewrite pod).Course answers s es r s') :
    ∃ es₁ got between, (getPodObject pod.key).Course answers s es₁ got between
      ∧ ((∃ e, got = .error e ∧ r = .error e ∧ s' = between)
        ∨ ∃ object es₂ put, got = .ok object
          ∧ (request .put (podTarget pod.key) (some (object.replaced rewrite pod)) PodObject.read).Course
              answers between es₂ put s'
          ∧ r = (put.mapError (writeFault pod.key pod.version)).bind PodObject.pod) := by
  obtain ⟨es₁, got, between, es₂, -, first, second⟩ := Program.course_bind.1 h
  refine ⟨es₁, got, between, first, ?_⟩
  cases got with
  | error e => exact .inl ⟨e, rfl, (Program.course_done.1 second).2⟩
  | ok object =>
    obtain ⟨es₃, put, after, es₄, -, putting, rest⟩ := Program.course_bind.1 second
    cases put with
    | error e =>
      obtain ⟨-, rfl, rfl⟩ := Program.course_done.1 rest
      exact .inr ⟨object, es₃, _, rfl, putting, rfl⟩
    | ok stored =>
      obtain ⟨-, rfl, rfl⟩ := Program.course_done.1 rest
      exact .inr ⟨object, es₃, _, rfl, putting, rfl⟩

end

/-! ## Courses of a write -/

section

variable {s s' : Session} {path : String} {key : ObjectKey}
  {es : List (Program.Exchange fun _ : ApiRequest => ApiReply)}

/-- To get an object is to find it as it is at some moment, or to find that it is missing. -/
theorem getPodObject_course {r : Except Fault PodObject} (named : key.name ≠ "")
    (sent : arrivingPath? (podTarget key) = some path)
    (h : (getPodObject key).Course Session.Answers s es r s') :
    ∃ t, s.server.Later t ∧ s' = ⟨t, s.moments ++ [t]⟩
      ∧ ((t.present path = none ∧ r = .error (.notFound .pod key))
        ∨ ∃ found, t.present path = some found ∧ r = .ok found.object) := by
  unfold getPodObject at h
  rw [if_neg named] at h
  obtain ⟨_, _, _, _, -, asked, rest⟩ := Program.course_bind.1 h
  obtain ⟨-, rfl, rfl⟩ := Program.course_done.1 rest
  obtain ⟨reply, -, ⟨later, replies⟩, rfl⟩ := (request_course (by exact sent)).1 asked
  cases replies with
  | found here brings =>
    refine ⟨_, later, rfl, .inr ⟨_, here, ?_⟩⟩
    rw [ApiReply.object, brings, Except.bind, Revision.read]
    rfl
  | unknown absent refuses =>
    refine ⟨_, later, rfl, .inl ⟨absent, ?_⟩⟩
    rw [ApiReply.object, refuses]
    rfl

/-- To put a document is to replace the object that is present at some moment, or to be refused. -/
theorem put_course {body : Json} {r : Except ApiFault PodObject}
    (sent : arrivingPath? (podTarget key ++ "?") = some path)
    (h : (request .put (podTarget key) (some body) PodObject.read).Course Session.Answers s es r s') :
    ∃ u final, s.server.Later u ∧ s' = ⟨final, s.moments ++ [u]⟩
      ∧ ((u.present path = none ∧ r = .error (.refused 404) ∧ final = u)
        ∨ ∃ held, u.present path = some held
          ∧ ((versionOf body ≠ some (toString held.version) ∧ r = .error (.refused 409) ∧ final = u)
            ∨ ∃ new, versionOf body = some (toString held.version) ∧ u.last path < new.version
              ∧ SameBut ["resourceVersion"] body new.object.document
              ∧ r = .ok new.object ∧ final = u.write path new)) := by
  obtain ⟨reply, -, ⟨later, replies⟩, rfl⟩ := (request_course (by exact sent)).1 h
  cases replies with
  | gone absent refuses =>
    refine ⟨_, _, later, rfl, .inl ⟨absent, ?_, rfl⟩⟩
    rw [ApiReply.object, refuses]
    rfl
  | stale here other refuses =>
    refine ⟨_, _, later, rfl, .inr ⟨_, here, .inl ⟨other, ?_, rfl⟩⟩⟩
    rw [ApiReply.object, refuses]
    rfl
  | @stored _ _ _ new _ here current newer keeps brings =>
    refine ⟨_, _, later, rfl, .inr ⟨_, here, .inr ⟨_, current, newer, keeps, ?_, rfl⟩⟩⟩
    rw [ApiReply.object, brings, Except.bind, new.read]

end

/-! ## The contract -/

/-- Requests for the object of a pod can be sent, and arrive at a path. -/
structure Arrives (key : ObjectKey) (path : String) : Prop where
  named : key.name ≠ ""
  sent : arrivingPath? (podTarget key ++ "?") = some path

theorem Arrives.unique {key : ObjectKey} {path path' : String} (h : Arrives key path)
    (h' : Arrives key path') : path = path' :=
  Option.some.inj (h.sent.symm.trans h'.sent)

/-- How a write of a pod ends, with what the server held at the read and at the replace. It writes
nothing but in the last case. -/
inductive Outcome (rewrite : Json → Json) (s : Server) (pod : Pod) :
    List Server → Except Fault Pod → Server → Prop where
  /-- No request can be sent for an object of that name. -/
  | unasked (no : pod.name = "" ∨ arrivingPath? (podTarget pod.key) = none) :
    Outcome rewrite s pod [] (.error (.store (.podUnavailable pod.key))) s
  /-- The object is read, but no replace can be sent. -/
  | unput {t : Server} {path : String} {found : Revision} (named : pod.name ≠ "")
    (asked : arrivingPath? (podTarget pod.key) = some path)
    (no : arrivingPath? (podTarget pod.key ++ "?") = none) (here : t.present path = some found) :
    Outcome rewrite s pod [t] (.error (.store (.podNotWritten pod.key))) t
  /-- The object is missing at the read. -/
  | missing {t : Server} {path : String} (named : pod.name ≠ "")
    (asked : arrivingPath? (podTarget pod.key) = some path) (absent : t.present path = none) :
    Outcome rewrite s pod [t] (.error (.notFound .pod pod.key)) t
  /-- The object is missing at the replace. -/
  | vanished {t u : Server} {path : String} {found : Revision} (arrives : Arrives pod.key path)
    (here : t.present path = some found) (absent : u.present path = none) :
    Outcome rewrite s pod [t, u] (.error (.notFound .pod pod.key)) u
  /-- The object has another version at the replace. -/
  | outdated {t u : Server} {path : String} {found held : Revision} (arrives : Arrives pod.key path)
    (here : t.present path = some found) (here' : u.present path = some held)
    (other : held.version ≠ pod.version) :
    Outcome rewrite s pod [t, u] (.error (.conflict pod.key pod.version)) u
  /-- The object that was read is stored as it is written again, with the annotations of the pod and in a
  version of its own. It is the object that it replaces unless the version of the pod came after the read. -/
  | stored {t u : Server} {path : String} {found held new : Revision} (arrives : Arrives pod.key path)
    (here : t.present path = some found) (here' : u.present path = some held)
    (current : held.version = pod.version) (newer : u.last path < new.version)
    (keeps : SameBut ["resourceVersion", "annotations"] (rewrite found.object.document) new.object.document)
    (result : new.pod = { found.pod with version := new.version, annotations := pod.annotations })
    (unchanged : held = found ↔ pod.version ≤ found.version)
    (known : pod.version ≤ s.last path → held = found) :
    Outcome rewrite s pod [t, u] (.ok new.pod) (u.write path new)

/-- How a write ends of which the object was read. -/
theorem outcome_of_put {rewrite : Json → Json} (rewrites : Rewrites rewrite) {s t : Server}
    {s' : Session} {pod : Pod} {path : String} {found : Revision}
    {es : List (Program.Exchange fun _ : ApiRequest => ApiReply)} {put : Except ApiFault PodObject}
    (named : pod.name ≠ "") (asked : arrivingPath? (podTarget pod.key) = some path) (later : s.Later t)
    (here : t.present path = some found)
    (putting : (request .put (podTarget pod.key) (some (found.object.replaced rewrite pod))
      PodObject.read).Course Session.Answers ⟨t, [t]⟩ es put s') :
    Outcome rewrite s pod s'.moments
        ((put.mapError (writeFault pod.key pod.version)).bind PodObject.pod) s'.server
      ∧ (s :: s'.moments).IsChain Server.Later := by
  cases sent : arrivingPath? (podTarget pod.key ++ "?") with
  | none =>
    obtain ⟨-, rfl, rfl⟩ := (request_course_of_unsent (by exact sent)).1 putting
    exact ⟨.unput named asked sent here, by simpa using later⟩
  | some path' =>
    obtain rfl : path = path' := Option.some.inj (asked.symm.trans (arrivingPath?_of_query sent))
    have arrives : Arrives pod.key path := ⟨named, sent⟩
    obtain ⟨u, final, later', rfl, outcome⟩ := put_course sent putting
    refine ⟨?_, by simpa using ⟨later, later'⟩⟩
    obtain ⟨absent, rfl, rfl⟩ | ⟨held, here', ⟨other, rfl, rfl⟩ | ⟨new, current, newer, keeps, rfl, rfl⟩⟩ :=
      outcome
    · exact .vanished arrives here absent
    · exact .outdated arrives here here' fun eq => other (by rw [PodObject.versionOf_replaced, eq])
    · rw [PodObject.versionOf_replaced, Option.some_inj] at current
      have current : held.version = pod.version := (Text.eq_of_toString current).symm
      -- What is held has the version of the pod, so it is not newer than what was found.
      have unchanged (le : pod.version ≤ found.version) : held = found :=
        Server.Later.eq_of_le later' here here' (current ▸ le)
      have known (le : pod.version ≤ s.last path) : held = found :=
        unchanged (t.current path found here ▸ le.trans (Server.Later.last_le later path))
      obtain ⟨same, result⟩ := Revision.pod_of_replaced rewrites keeps
      change Outcome rewrite s pod _ new.object.pod _
      rw [new.pod_eq]
      exact .stored arrives here here' current newer same result
        ⟨fun same => by rw [← same, current], unchanged⟩ known

/-- How a write ends, whatever others do before the read and before the replace. -/
theorem outcome_of_course {rewrite : Json → Json} (rewrites : Rewrites rewrite) {s : Server} {s' : Session}
    {pod : Pod} {r : Except Fault Pod} {es : List (Program.Exchange fun _ : ApiRequest => ApiReply)}
    (course : (updatePodBy rewrite pod).Course Session.Answers ⟨s, []⟩ es r s') :
    Outcome rewrite s pod s'.moments r s'.server ∧ (s :: s'.moments).IsChain Server.Later := by
  obtain ⟨es₁, got, between, reading, rest⟩ := updatePodBy_course course
  by_cases no : pod.name = "" ∨ arrivingPath? (podTarget pod.key) = none
  · obtain ⟨rfl, rfl⟩ := getPodObject_course_of_unasked no reading
    obtain ⟨_, same, rfl, rfl⟩ | ⟨_, _, _, other, -⟩ := rest
    · cases same
      exact ⟨.unasked no, .singleton _⟩
    · cases other
  · obtain ⟨named, asked⟩ := not_or.1 no
    obtain ⟨path, asked⟩ := Option.ne_none_iff_exists'.1 asked
    obtain ⟨t, later, rfl, ⟨absent, rfl⟩ | ⟨found, here, rfl⟩⟩ := getPodObject_course named asked reading
    · obtain ⟨_, same, rfl, rfl⟩ | ⟨_, _, _, other, -⟩ := rest
      · cases same
        exact ⟨.missing named asked absent, by simpa using later⟩
      · cases other
    · obtain ⟨_, other, -⟩ | ⟨_, _, put, same, putting, rfl⟩ := rest
      · cases other
      · cases same
        exact outcome_of_put rewrites named asked later here putting

/-- A store in memory answers a write in the same way: it refuses it with the same cause and stays as it
is, or it accepts it. If the version of the pod was given before, the answer is what the store holds with
the annotations of the pod and a newer version. -/
def AnswersAlike (m : PodStore) (pod : Pod) (given : Prop) : Except Fault Pod → Prop
  | .error cause => m.update pod = (.error cause, m)
  | .ok stored => ∃ held m', m.get pod.key = .ok held
      ∧ m.update pod = (.ok { pod with version := pod.version + 1 }, m')
      ∧ pod.version < stored.version
      ∧ (given → stored = { held with version := stored.version, annotations := pod.annotations })

theorem Outcome.answersAlike {rewrite : Json → Json} {s s' : Server} {pod : Pod} {moments : List Server}
    {r : Except Fault Pod} (h : Outcome rewrite s pod moments r s') {path : String}
    (arrives : Arrives pod.key path) {u : Server} (last : moments.getLast? = some u) {m : PodStore}
    (alike : m.get pod.key = u.get path pod.key) :
    AnswersAlike m pod (pod.version ≤ s.last path) r := by
  have asked := arrivingPath?_of_query arrives.sent
  have absent (none : u.present path = none) : m.update pod = (.error (.notFound .pod pod.key), m) := by
    have missing : m.pods.get? pod.key = .none := by
      rw [Server.get, none, PodStore.get] at alike
      split at alike
      · cases alike
      · next missing => exact missing
    rw [PodStore.update, missing]
  have present {held : Revision} (here : u.present path = some held) :
      m.get pod.key = .ok held.pod ∧ m.pods.get? pod.key = some held.pod := by
    rw [Server.get, here] at alike
    exact ⟨alike, PodStore.get_eq_ok.1 alike⟩
  cases h with
  | unasked => cases last
  | unput _ _ no => cases no.symm.trans arrives.sent
  | missing _ asked' none =>
    cases last
    obtain rfl := Option.some.inj (asked.symm.trans asked')
    exact absent none
  | vanished arrives' _ none =>
    cases last
    obtain rfl := arrives.unique arrives'
    exact absent none
  | outdated arrives' _ here other =>
    cases last
    obtain rfl := arrives.unique arrives'
    change m.update pod = _
    rw [PodStore.update, (present here).2]
    exact if_neg other
  | @stored _ _ _ _ held new arrives' _ here current newer _ result _ known =>
    cases last
    obtain rfl := arrives.unique arrives'
    refine ⟨held.pod, m.replace held.pod { pod with version := pod.version + 1 }, (present here).1, ?_, ?_,
      fun given => ?_⟩
    · rw [PodStore.update, (present here).2]
      exact if_pos current
    · rw [← current, Server.current _ _ _ here]
      exact newer
    · rw [known given]
      exact result

/-- A server that holds the version of a pod can store what is put with it, as long as there are
versions left. -/
theorem exists_accepted {rewrite : Json → Json} (rewrites : Rewrites rewrite) {u : Server} {path : String}
    {pod : Pod} {found held : Revision} (printable : found.object.document.Printable)
    (here : u.present path = some held) (current : held.version = pod.version)
    (left : u.last path < Json.maxWord) :
    ∃ reply new, SameBut ["resourceVersion"] (found.object.replaced rewrite pod) new.object.document
      ∧ reply.document = .ok new.object.document
      ∧ u.Replies ⟨.put, path, some (found.object.replaced rewrite pod)⟩ reply (u.write path new) := by
  obtain ⟨new, version, document⟩ := found.exists_stored rewrites pod (Nat.succ_pos (u.last path)) left
  have keeps : SameBut ["resourceVersion"] (found.object.replaced rewrite pod) new.object.document :=
    document ▸ sameBut_stamped ..
  have written : (found.object.replaced rewrite pod).Printable :=
    PodObject.printable_replaced (rewrites.printable found.read printable) pod
  have brings := document_render (j := new.object.document) (document ▸ printable_stamped written _)
  refine ⟨_, new, keeps, brings, .stored here ?_ (version ▸ Nat.lt_succ_self _) keeps brings⟩
  rw [PodObject.versionOf_replaced, current]

/-- A write is accepted if the object has the version of the pod at the replace. -/
theorem exists_course {rewrite : Json → Json} (rewrites : Rewrites rewrite) {s t u : Server} {path : String}
    {pod : Pod} {found held : Revision} (arrives : Arrives pod.key path)
    (printable : found.object.document.Printable) (later : s.Later t) (here : t.present path = some found)
    (later' : t.Later u) (here' : u.present path = some held) (current : held.version = pod.version)
    (left : u.last path < Json.maxWord) :
    ∃ es new, SameBut ["resourceVersion", "annotations"] (rewrite found.object.document) new.object.document
      ∧ (updatePodBy rewrite pod).Course Session.Answers ⟨s, []⟩ es (.ok new.pod)
          ⟨u.write path new, [t, u]⟩ := by
  obtain ⟨reply, new, keeps, brings, stores⟩ := exists_accepted rewrites printable here' current left
  obtain ⟨es₁, reading⟩ : ∃ es,
      (getPodObject pod.key).Course Session.Answers ⟨s, []⟩ es (.ok found.object) ⟨t, [t]⟩ := by
    have asked : arrivingPath? (podTarget pod.key) = some path := arrivingPath?_of_query arrives.sent
    unfold getPodObject
    rw [if_neg (by exact arrives.named)]
    refine ⟨_, Program.course_bind.2 ⟨_, .ok found.object, _, [], rfl, (request_course (by exact asked)).2
      ⟨⟨200, found.object.document.render⟩, rfl, ?_, ?_⟩, .done _ _⟩⟩
    · exact .intro later (.found here (document_render printable))
    · rw [ApiReply.object, document_render printable, Except.bind, found.read]
  obtain ⟨es₂, putting⟩ : ∃ es, (request .put (podTarget pod.key) (some (found.object.replaced rewrite pod))
      PodObject.read).Course Session.Answers ⟨t, [t]⟩ es (.ok new.object) ⟨u.write path new, [t, u]⟩ := by
    refine ⟨_, (request_course (by exact arrives.sent)).2 ⟨reply, rfl, .intro later' stores, ?_⟩⟩
    rw [ApiReply.object, brings, Except.bind, new.read]
  refine ⟨_, new, (Revision.pod_of_replaced rewrites keeps).1,
    Program.course_bind.2 ⟨_, _, _, _, rfl, reading, Program.course_bind.2 ⟨_, _, _, [], rfl, putting, ?_⟩⟩⟩
  rw [← new.pod_eq]
  exact .done _ _

/-- Whatever others do, a write of a pod stores the object that was read, as the client library writes it
again, with the annotations of the pod if the object has the version of the pod at the replace, and writes
nothing otherwise. Nothing that others wrote and the library knows is lost if that version was given before
the write, and the answer is that of a store in memory. -/
theorem write_contract (rewrite : Json → Json) (rewrites : Rewrites rewrite) (s : Server) (pod : Pod) :
    (∀ es r s', (updatePodBy rewrite pod).Course Session.Answers ⟨s, []⟩ es r s' →
      (s :: s'.moments).IsChain Server.Later
        ∧ Outcome rewrite s pod s'.moments r s'.server
        ∧ ∀ path u, Arrives pod.key path → s'.moments.getLast? = some u →
            ∀ m : PodStore, m.get pod.key = u.get path pod.key →
              AnswersAlike m pod (pod.version ≤ s.last path) r)
      ∧ ∀ path t u (found held : Revision), Arrives pod.key path → found.object.document.Printable →
          s.Later t → t.present path = some found → t.Later u → u.present path = some held →
          held.version = pod.version → u.last path < Json.maxWord →
          ∃ es new,
            SameBut ["resourceVersion", "annotations"] (rewrite found.object.document) new.object.document
              ∧ (updatePodBy rewrite pod).Course Session.Answers ⟨s, []⟩ es (.ok new.pod)
                  ⟨u.write path new, [t, u]⟩ := by
  refine ⟨fun es r s' course => ?_, fun _ _ _ _ _ => exists_course rewrites⟩
  obtain ⟨outcome, chain⟩ := outcome_of_course rewrites course
  exact ⟨chain, outcome, fun _ _ arrives last _ alike => outcome.answersAlike arrives last alike⟩

/-- A pod with one container, as the library writes it, and with a setting that the library may not know. -/
private def podDocument (version : Nat) (container : String) (setting : Option String) : Json :=
  .obj [("apiVersion", .str "v1"), ("kind", .str "Pod"),
    ("metadata", .obj [("name", .str "pod1"), ("namespace", .str "ns1"),
      ("resourceVersion", .str (toString version))]),
    ("spec", Json.record [Json.member "containers" (.arr []), Json.member? "setting" (setting.map .str)]),
    ("status", .obj [("containerStatuses", .arr [.obj [("image", .str "app:1"), ("imageID", .str ""),
      ("name", .str container), ("ready", .bool true), ("restartCount", .int 0)]])])]

private def podRevision (version : Nat) (container : String) (setting : Option String)
    (positive : 0 < version) (bounded : version ≤ Json.maxWord) : Revision where
  object := {
    space := some "ns1"
    name := some "pod1"
    generateName := none
    uid := none
    version := some (toString version)
    annotations := none
    containers := [⟨container, ""⟩]
    document := podDocument version container setting }
  version
  read := by cases setting <;> rfl
  versioned := rfl
  positive := positive
  bounded := bounded

private theorem printable_podDocument (version : Nat) (container : String) (setting : Option String) :
    (podDocument version container setting).Printable := by
  cases setting <;> simp [podDocument, Json.record, Json.member, Json.member?, Json.Printable, Json.Leaves,
    Json.LeavesOfMembers, Json.LeavesOfItems, Json.InRange, Json.Exact]

private def podPath : String := "/api/v1/namespaces/ns1/pods/pod1"

private theorem arrives_podPath : Arrives ⟨"ns1", "pod1"⟩ podPath := by
  refine ⟨by decide, ?_⟩
  rw [arrivingPath?, isPathChar_eq, isQueryChar_eq]
  decide +kernel

/-- A server without objects. -/
private def noPods : Server := ⟨fun _ => none, fun _ => 0, nofun⟩

private def notedPod (version : Nat) : Pod :=
  ⟨"ns1", "pod1", "", version, Dict.empty.insert "note" "x", [⟨"app", ""⟩]⟩

/-- The first version of a pod is written with an annotation, and answered as in memory. -/
theorem noted_pod_is_stored :
    let first := podRevision 1 "app" none (by decide) (by decide)
    let s := noPods.write podPath first
    let m := (PodStore.empty.apply first.pod).2
    Rewrites Shape.pod.known ∧ Shape.pod.known first.object.document = first.object.document
      ∧ ∃ es new m', (updatePod (notedPod 1)).Course Session.Answers ⟨s, []⟩ es (.ok new.pod)
          ⟨s.write podPath new, [s, s]⟩
        ∧ new.pod = notedPod new.version
        ∧ SameBut ["resourceVersion", "annotations"] first.object.document new.object.document
        ∧ m.update (notedPod 1) = (.ok (notedPod 2), m') := by
  intro first s m
  have here : s.present podPath = some first := Server.present_write_self
  have alike : m.get (notedPod 1).key = s.get podPath (notedPod 1).key := by
    rw [Server.get, here]
    rfl
  have whole : Shape.pod.known first.object.document = first.object.document := by rfl
  obtain ⟨always, accepts⟩ := write_contract Shape.pod.known rewrites_known s (notedPod 1)
  obtain ⟨es, new, keeps, course⟩ := accepts podPath s s first first arrives_podPath
    (printable_podDocument ..) .refl here .refl here rfl (by decide)
  obtain ⟨-, -, alike'⟩ := always _ _ _ course
  obtain ⟨held, m', holds, updated, -, result⟩ := alike' podPath s arrives_podPath rfl m alike
  have same : held = first.pod := Except.ok.inj (holds.symm.trans (alike.trans (by rw [Server.get, here])))
  refine ⟨rewrites_known, whole, es, new, m', course, ?_, whole ▸ keeps, updated⟩
  rw [result (by decide), same]
  rfl

/-- A pod that names a version before it is given undoes the change that brings this version, for the
object was read before. A pod loses a setting that the library does not know, though nobody else writes.
And a pod without a name is not found missing, for it is never asked for. -/
theorem change_is_undone_by_foreseen_version :
    (let found := podRevision 5 "app" none (by decide) (by decide)
      let held := podRevision 7 "sidecar" none (by decide) (by decide)
      let s := noPods.write podPath found
      let u := s.write podPath held
      s.Later u ∧ u.present podPath = some held ∧ held.version = (notedPod 7).version
        ∧ ∃ es new, (updatePod (notedPod 7)).Course Session.Answers ⟨s, []⟩ es (.ok new.pod)
            ⟨u.write podPath new, [s, u]⟩
          ∧ ¬ SameBut ["resourceVersion", "annotations"] held.object.document new.object.document)
      ∧ (let held := podRevision 1 "app" (some "new") (by decide) (by decide)
        let s := noPods.write podPath held
        s.present podPath = some held ∧ held.version = (notedPod 1).version
          ∧ ∃ es new, (updatePod (notedPod 1)).Course Session.Answers ⟨s, []⟩ es (.ok new.pod)
              ⟨s.write podPath new, [s, s]⟩
            ∧ ¬ SameBut ["resourceVersion", "annotations"] held.object.document new.object.document)
      ∧ let pod : Pod := { notedPod 1 with name := "" }
        (∀ path, noPods.present path = none)
          ∧ (updatePod pod).Course Session.Answers ⟨noPods, []⟩ [] (.error (.store (.podUnavailable pod.key)))
              ⟨noPods, []⟩ := by
  refine ⟨?_, ?_, ?_⟩
  · intro found held s u
    have later : s.Later u := .single (.write podPath held (by decide))
    refine ⟨later, Server.present_write_self, rfl, ?_⟩
    have arrives : Arrives (notedPod 7).key podPath := arrives_podPath
    obtain ⟨es, new, keeps, course⟩ := exists_course rewrites_known arrives (printable_podDocument ..) .refl
      (Server.present_write_self : s.present podPath = some found) later
      (Server.present_write_self : u.present podPath = some held) rfl (by decide)
    refine ⟨es, new, course, fun same => ?_⟩
    obtain ⟨-, -, ofFound⟩ := PodObject.eq_of_sameBut (rewrites_known.reads found.read) new.read keeps
    obtain ⟨-, -, ofHeld⟩ := PodObject.eq_of_sameBut held.read new.read same
    have containers : found.object.containers = held.object.containers := ofFound.symm.trans ofHeld
    exact absurd containers (by decide)
  · intro held s
    have here : s.present podPath = some held := Server.present_write_self
    have arrives : Arrives (notedPod 1).key podPath := arrives_podPath
    obtain ⟨es, new, keeps, course⟩ := exists_course rewrites_known arrives (printable_podDocument ..) .refl
      here .refl here rfl (by decide)
    refine ⟨here, rfl, es, new, course, fun same => ?_⟩
    have lost : (Shape.pod.known held.object.document).get? "spec" = held.object.document.get? "spec" :=
      (keeps.members "spec" (by decide)).symm.trans (same.members "spec" (by decide))
    exact absurd lost (by decide)
  · exact ⟨fun _ => rfl, .done _ _⟩

end NetAttach.Cluster
