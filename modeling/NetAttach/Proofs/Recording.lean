-- SUMMARY: Whether the attachment that the plugin has made is recorded, while others write the pod too.
import NetAttach.Proofs.Undisturbed

/-!
# Recorded attachments

The attachment that a successful call has made is written to the status of the pod. If
others write the pod at the same time, the write is refused, and the pod is read again.
It is then looked at as if nothing had been attached yet: if the selection refers to any
attachment there, nothing is written, whether it is the one that was made or another of
the same network.
-/

namespace NetAttach

open Exchange (calls)

/-- How a store answers an action after others have written pods. -/
def PodStore.Disturbed (s : PodStore) (e : Exchange) (s' : PodStore) : Prop :=
  ∃ writes : List Pod, (writes.foldl (fun s pod => (s.apply pod).2) s).Answers e s'

/-- The pods that were read. -/
def Exchange.reads (es : List Exchange) : List Pod :=
  es.filterMap fun
    | ⟨.getPod _, .ok pod⟩ => some pod
    | _ => none

open Exchange (reads)

@[simp] theorem Exchange.reads_append (es es' : List Exchange) :
    reads (es ++ es') = reads es ++ reads es' :=
  List.filterMap_append

namespace Pod

/-- The status of a pod is readable, and a selection refers to an attachment of it. -/
def Attached (pod : Pod) (network : Selection) : Prop :=
  ∃ recorded, Attachment.ofPod pod = .ok recorded
    ∧ Attachment.Attached recorded network pod.selections

/-- The status of a pod is readable, and holds the network of an attachment with its interface. -/
def Records (pod : Pod) (a : Attachment) : Prop :=
  ∃ recorded, Attachment.ofPod pod = .ok recorded
    ∧ ∃ b ∈ recorded, b.network = a.network ∧ b.interface = a.interface

theorem attached_iff {pod : Pod} {network : Selection} {recorded : List Attachment}
    (status : Attachment.ofPod pod = .ok recorded) :
    pod.Attached network ↔ Attachment.Attached recorded network pod.selections := by
  simp [Attached, status]

instance (pod : Pod) (network : Selection) : Decidable (pod.Attached network) :=
  decidable_of_iff (∃ recorded ∈ (Attachment.ofPod pod).toOption,
      Attachment.Attached recorded network pod.selections)
    (exists_congr fun _ => and_congr_left' mem_toOption)

instance (pod : Pod) (a : Attachment) : Decidable (pod.Records a) :=
  decidable_of_iff (∃ recorded ∈ (Attachment.ofPod pod).toOption,
      ∃ b ∈ recorded, b.network = a.network ∧ b.interface = a.interface)
    (exists_congr fun _ => and_congr_left' mem_toOption)

end Pod

variable {s s' : PodStore} {es : List Exchange} {pod pod' : Pod} {network : Selection}
  {attached : Attachment} {retries : Nat} {request : Request} {recorded : List Attachment}

/-! ## Updates among other writers -/

theorem PodStore.Disturbed.stored {written : Pod}
    (h : s.Disturbed ⟨.updatePod written, .ok pod⟩ s') :
    pod = { written with version := written.version + 1 } := by
  obtain ⟨_, answers⟩ := h
  obtain ⟨_, _, _, new, _⟩ := update_eq_ok answers
  exact new

/-- What becomes of an attachment that was made for a pod, with the pods that were read since. -/
inductive Recording (network : Selection) (attached : Attachment) (pod : Pod) (read : List Pod) :
    Pod → Prop where
  /-- The attachment is added to the status of the last of them. -/
  | written {present : Pod} {recorded : List Attachment} (last : present ∈ pod :: read)
    (status : Attachment.ofPod present = .ok recorded)
    (lacking : ∀ q ∈ pod :: read, ¬q.Attached network) :
    Recording network attached pod read (present.withStatus (recorded ++ [attached]))
  /-- The selection refers to an attachment of the last of them, which is left as it is. -/
  | left {present : Pod} (last : present ∈ pod :: read) (refers : present.Attached network)
    (first : ∀ q ∈ pod :: read, q.Attached network → q = present) :
    Recording network attached pod read present

/-- The pod was read again because it lacked the attachment when it could not be written. -/
theorem Recording.cons {present : Pod} {read : List Pod}
    (h : Recording network attached present read pod') (lacking : ¬pod.Attached network) :
    Recording network attached pod (present :: read) pod' := by
  cases h with
  | written last status without =>
    refine .written (List.mem_cons_of_mem _ last) status fun q hq => ?_
    obtain rfl | hq := List.mem_cons.1 hq
    · exact lacking
    · exact without q hq
  | left last refers first =>
    refine .left (List.mem_cons_of_mem _ last) refers fun q hq refers' => ?_
    obtain rfl | hq := List.mem_cons.1 hq
    · exact absurd refers' lacking
    · exact first q hq refers'

theorem reads_tells {answers : PodStore → Exchange → PodStore → Prop}
    (h : Tells answers s es s') : reads es = [] ∧ calls es = [] := by
  cases h with
  | nothing => exact ⟨rfl, rfl⟩
  | notice => exact ⟨rfl, rfl⟩

theorem reads_call {answers : PodStore → Exchange → PodStore → Prop}
    {call : Definition → Plugin.Call} {r : Except Fault Plugin.Response}
    (h : CallCourse answers network call s es r s') : reads es = [] := by
  cases h with
  | undefined => rfl
  | answered => rfl

/-- What the change that records an attachment has found out, if it does not fail. -/
theorem recordNew_ok {answers : PodStore → Exchange → PodStore → Prop}
    {updated? : Option (List Attachment)} (status : Attachment.ofPod pod = .ok recorded)
    (h : Attempt.Course answers (recordNew network attached pod recorded) s es (.ok updated?) s') :
    reads es = [] ∧ calls es = [] ∧ (pod.Attached network ∧ updated? = none
      ∨ ¬pod.Attached network ∧ updated? = some (recorded ++ [attached])) := by
  obtain ⟨tells, result⟩ := recordNew_course h
  obtain ⟨unread, silent⟩ := reads_tells tells
  refine ⟨unread, silent, ?_⟩
  rw [Pod.attached_iff status]
  split at result
  · next refers =>
    cases result
    exact .inl ⟨refers, rfl⟩
  · next lacks =>
    refine .inr ⟨lacks, ?_⟩
    cases record : Attachment.record recorded attached with
    | error cause =>
      rw [record] at result
      cases result
    | ok updated =>
      rw [record] at result
      cases result
      rw [Attachment.record_eq_ok record]

/-- An update calls no plugin, and whether the attachment is in its result depends on the pods that
it reads. -/
theorem recording_of_course {limit left : Nat} {key : ObjectKey}
    (h : StatusCourse PodStore.Disturbed limit key (recordNew network attached) left pod s es (.ok pod')
      s') :
    calls es = [] ∧ Recording network attached pod (reads es) pod' := by
  induction left using Nat.strongRecOn generalizing pod s es with
  | ind left ih =>
    cases h with
    | unchanged status nothing =>
      obtain ⟨unread, silent, ⟨refers, -⟩ | ⟨-, ⟨⟩⟩⟩ := recordNew_ok status nothing
      refine ⟨silent, ?_⟩
      rw [unread]
      exact .left (List.mem_singleton_self _) refers fun q hq _ => List.mem_singleton.1 hq
    | stored status changes write =>
      obtain ⟨unread, silent, ⟨-, ⟨⟩⟩ | ⟨lacks, ⟨⟩⟩⟩ := recordNew_ok status changes
      obtain rfl := write.stored
      rw [Exchange.calls_append, Exchange.reads_append, silent, unread]
      refine ⟨rfl, .written (List.mem_singleton_self _) status fun q hq => ?_⟩
      rw [List.mem_singleton.1 hq]
      exact lacks
    | again some_left status changes write tell read course =>
      obtain ⟨unread, silent, ⟨-, ⟨⟩⟩ | ⟨lacks, -⟩⟩ := recordNew_ok status changes
      obtain ⟨silent', recording⟩ := ih _ (by omega) (rewriteStatus_course course)
      rw [Exchange.calls_append, Exchange.reads_append, silent, unread]
      exact ⟨silent', recording.cons lacks⟩

/-- If the selection refers to no other attachment of the pods that were read, the attachment is
recorded in the end, and otherwise it is not. -/
theorem Recording.records_iff {read : List Pod} (h : Recording network attached pod read pod')
    (absent : ¬pod.Attached network) (lasting : ∀ q ∈ pod :: read, q.Lasting)
    (made : attached.Lasting) :
    pod'.Records attached ↔ ∀ q ∈ read, q.Attached network → q.Records attached := by
  cases h with
  | @written present recorded last status lacking =>
    have all : ∀ a ∈ recorded ++ [attached], a.Lasting := by
      intro a ha
      obtain ha | ha := List.mem_append.1 ha
      · exact lasting present last recorded status a ha
      · rw [List.mem_singleton.1 ha]
        exact made
    refine iff_of_true ⟨_, Attachment.ofPod_withStatus all, attached, by simp, rfl, rfl⟩ ?_
    intro q hq refers
    exact absurd refers (lacking q (List.mem_cons_of_mem _ hq))
  | left last refers first =>
    constructor
    · intro records q hq refers'
      rw [first q (List.mem_cons_of_mem _ hq) refers']
      exact records
    · intro records
      obtain rfl | last := List.mem_cons.1 last
      · exact absurd refers absent
      · exact records pod' last refers

/-! ## Attaching among other writers -/

/-- If the plugin was called and attaching succeeds, the plugin was called once, has made an
attachment, and the event tells of it. The returned pod records it exactly if it is recorded on
every pod that was read again and on which the selection refers to any attachment. So it is
recorded if no write was refused, and if the plugin made the interface that the selection asks for.
Doubles in foreign fields of the status are taken to read back as they are written. -/
theorem success_is_recorded_unless_others_attached
    (doubles : ∀ q ∈ pod :: reads es, ∀ recorded, Attachment.ofPod q = .ok recorded →
      ∀ a ∈ recorded, ∀ m ∈ a.extra.entries, m.2.Leaves Json.Exact)
    (course : Attempt.Course PodStore.Disturbed (attach retries request pod network) s es (.ok pod') s')
    (called : calls es ≠ []) :
    ∃ (definition : Definition) (response : Plugin.Response) (result : Plugin.Result),
      calls es = [(pluginCall .add request pod network (network.interface?.getD "") definition,
        .ok response)]
      ∧ response.result = some result
      ∧ ⟨.emit ⟨request.pod, "AddedInterface", addedText request.pod
          (Attachment.ofResult network result).interface network.name⟩, ()⟩ ∈ es
      ∧ (pod'.Records (Attachment.ofResult network result)
        ↔ ∀ q ∈ reads es, q.Attached network → q.Records (Attachment.ofResult network result))
      ∧ (reads es = [] → pod'.Records (Attachment.ofResult network result))
      ∧ (network.interface? = some (Attachment.ofResult network result).interface →
          pod'.Records (Attachment.ofResult network result)) := by
  cases attach_course course with
  | present status attached tells => exact absurd (reads_tells tells).2 called
  | @attached recorded told es es' _ response result _ _ _ _ status absent tells call made update
      event =>
    obtain ⟨unread, quiet⟩ := reads_tells tells
    obtain ⟨silent, recording⟩ := recording_of_course update
    obtain ⟨definition, -, called'⟩ := PodStore.calls_of_answered call
    have read : reads (told ++ (es ++ (es' ++ [⟨.emit ⟨request.pod, "AddedInterface", addedText
        request.pod (Attachment.ofResult network result).interface network.name⟩, ()⟩])))
        = reads es' := by
      simp only [Exchange.reads_append, unread, reads_call call]
      exact List.append_nil _
    rw [read] at doubles ⊢
    have lasting : ∀ q ∈ pod :: reads es', q.Lasting := fun q hq recorded status =>
      Attachment.lasting_of_parseList status (doubles q hq recorded status)
    have records := recording.records_iff (mt (Pod.attached_iff status).1 absent) lasting
      (Attachment.lasting_ofResult network result)
    refine ⟨definition, response, result, (PodStore.calls_between quiet silent).trans called', made,
      by simp, records, fun none => records.2 ?_, fun asked => records.2 ?_⟩
    · rw [none]
      exact nofun
    · rintro q - ⟨recorded', status', a, ha, refers⟩
      obtain ⟨same, ⟨i, asked', hi⟩ | ⟨unasked, -⟩⟩ := Attachment.matchesSelection_iff.1 refers
      · cases asked.symm.trans asked'
        exact ⟨recorded', status', a, ha, same, hi⟩
      · cases asked.symm.trans unasked

/-- A pod that selects the network `net`, with this status. -/
private def selectingNet (status : String) : Pod :=
  ⟨"ns1", "pod1", "u1", 1,
    ((∅ : Dict String).insert networksKey "net").insert statusKey status, [⟨"c", "docker://abc"⟩]⟩

/-- Surroundings where every network is defined, and the plugin always makes the interface `net1`. -/
private def makingNet1 : (q : Action) → PodStore → q.Answer × PodStore :=
  PodStore.respond (fun key => .ok ⟨key.space, key.name, "\x7b\x7d"⟩)
    fun _ => ⟨some ⟨"", [⟨"net1", "", ""⟩], [], [], .empty⟩⟩

private theorem answers_makingNet1 (q : Action) (s : PodStore) :
    s.Answers ⟨q, (makingNet1 q s).1⟩ (makingNet1 q s).2 :=
  PodStore.answers_respond _ _ q s

/-- Somebody gives the pod this status right before it is written for the first time. -/
private def racing (status : String) : (q : Action) → PodStore → q.Answer × PodStore
  | .updatePod pod, s =>
    (if pod.version = 1 then (s.apply (selectingNet status)).2 else s).update pod
  | q, s => makingNet1 q s

private theorem disturbed_racing (status : String) (q : Action) (s : PodStore) :
    s.Disturbed ⟨q, (racing status q s).1⟩ (racing status q s).2 := by
  cases q with
  | updatePod pod =>
    by_cases first : pod.version = 1
    · refine ⟨[selectingNet status], ?_⟩
      simp [PodStore.Answers, racing, first]
    · refine ⟨[], ?_⟩
      simp [PodStore.Answers, racing, first]
  | _ => exact ⟨[], answers_makingNet1 _ s⟩

private def beforeRace : PodStore := (PodStore.empty.apply (selectingNet "")).2

/-- A write is refused because another network was attached meanwhile, and is repeated. -/
theorem attachment_is_recorded_after_refusal :
    let net : Selection := ⟨"net", "ns1", none, [], none, [], none⟩
    let request : Request := ⟨⟨"ns1", "pod1"⟩, .add, [net], ""⟩
    ∃ (pod pod' : Pod) (es : List Exchange) (s s' : PodStore) (result : Plugin.Result),
      s.get ⟨"ns1", "pod1"⟩ = .ok pod
        ∧ Attempt.Course PodStore.Disturbed (attach 5 request pod net) s es (.ok pod') s'
        ∧ (reads es).length = 1 ∧ pod'.Records (Attachment.ofResult net result) := by
  intro net request
  let rival := "[\x7b\"name\":\"ns1/other\",\"interface\":\"net9\"\x7d]"
  let answer := racing rival
  let program := (attach 5 request (selectingNet "") net).run
  let es := program.exchanges answer beforeRace
  have run := Program.course_run (disturbed_racing rival) program beforeRace
  obtain ⟨pod', ok, -⟩ : ∃ pod' ∈ (program.run answer beforeRace).1.toOption, True := by
    decide +kernel
  rw [mem_toOption.1 ok] at run
  have called : calls es ≠ [] := by decide +kernel
  have plain : ∀ q ∈ selectingNet "" :: reads es, ∀ recorded ∈ (Attachment.ofPod q).toOption,
      ∀ a ∈ recorded, a.extra.entries = [] := by
    decide +kernel
  have free : ∀ q ∈ reads es, ¬q.Attached net := by decide +kernel
  have once : (reads es).length = 1 := by decide +kernel
  obtain ⟨_, _, result, -, -, -, records, -⟩ := success_is_recorded_unless_others_attached
    (fun q hq recorded status a ha m hm => by
      rw [plain q hq recorded (mem_toOption.2 status) a ha] at hm
      cases hm) run called
  exact ⟨_, pod', es, beforeRace, _, result, rfl, run, once,
    records.2 fun q hq refers => absurd refers (free q hq)⟩

/-- A write is refused because another interface of the network was attached meanwhile. Attaching
succeeds and is told of, but the interface that was made is not recorded. -/
theorem attachment_is_left_unrecorded :
    let net : Selection := ⟨"net", "ns1", none, [], none, [], none⟩
    let request : Request := ⟨⟨"ns1", "pod1"⟩, .add, [net], ""⟩
    ∃ (pod pod' : Pod) (es : List Exchange) (s s' : PodStore) (response : Plugin.Response)
      (result : Plugin.Result),
      s.get ⟨"ns1", "pod1"⟩ = .ok pod
        ∧ Attempt.Course PodStore.Disturbed (attach 5 request pod net) s es (.ok pod') s'
        ∧ (calls es).map (·.2.toOption) = [some response] ∧ response.result = some result
        ∧ ¬pod'.Records (Attachment.ofResult net result) := by
  intro net request
  let rival := "[\x7b\"name\":\"ns1/net\",\"interface\":\"ethX\"\x7d]"
  let answer := racing rival
  let program := (attach 5 request (selectingNet "") net).run
  have run := Program.course_run (disturbed_racing rival) program beforeRace
  let result : Plugin.Result := ⟨"", [⟨"net1", "", ""⟩], [], [], .empty⟩
  obtain ⟨pod', ok, unrecorded⟩ : ∃ pod' ∈ (program.run answer beforeRace).1.toOption,
      ¬pod'.Records (Attachment.ofResult net result) := by
    decide +kernel
  rw [mem_toOption.1 ok] at run
  have answered : (calls (program.exchanges answer beforeRace)).map (·.2.toOption)
      = [some ⟨some result⟩] := by
    decide +kernel
  exact ⟨_, pod', _, beforeRace, _, ⟨some result⟩, result, rfl, run, answered, rfl, unrecorded⟩

end NetAttach
