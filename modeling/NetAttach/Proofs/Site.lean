-- SUMMARY: A controller on a store that others write too: no write of others is lost.
import NetAttach.Proofs.Reconciliations
import NetAttach.Proofs.StatusWrite

/-!
# Controllers on a store in memory

Between any two steps of the workers others may write any pod of the store. A worker
writes a pod as it last learned it, with one change of its status. The write is
accepted only if it brings the version of the stored pod, so that the worker had
learned the pod that it replaces.
-/

namespace NetAttach

/-! ## Answers of a store -/

namespace PodStore

/-- How a store answers an action, and what it holds then. Actions on anything else leave the
store alone and get any answer. -/
def Answers (s : PodStore) : Exchange → PodStore → Prop
  | ⟨.getPod key, answer⟩, s' => answer = s.get key ∧ s' = s
  | ⟨.updatePod pod, answer⟩, s' => s.update pod = (answer, s')
  | _, s' => s' = s

variable {s s' : PodStore} {e : Exchange}

theorem Answers.stores_or_same (h : s.Answers e s') : s' = s ∨ ∃ new, s.Stores new s' := by
  obtain ⟨action, answer⟩ := e
  cases action with
  | getPod key => exact .inl h.2
  | updatePod pod =>
    cases answer with
    | error cause => exact .inl (update_eq_error h)
    | ok new => exact .inr ⟨new, stores_update h⟩
  | _ => exact .inl h

/-- A pod in an answer is stored, under the name that was asked for or written. -/
theorem Answers.brings (h : s.Answers e s') (named : s.Named) {pod : Pod}
    (brings : Exchange.Brings e pod) : s'.Issued pod ∧ e.1.subject? = some pod.key := by
  cases brings with
  | get key _ =>
    obtain ⟨found, rfl⟩ := h
    have stored := get_eq_ok.1 found.symm
    exact ⟨named.issued stored, congrArg some (named stored).symm⟩
  | update written _ =>
    obtain ⟨_, _, _, rfl, _⟩ := update_eq_ok h
    exact ⟨(stores_update h).issued_self, rfl⟩

end PodStore

/-! ## Statuses that are written -/

/-- What was read from a status is read again after a change of it that was written. -/
theorem Attachment.ofPod_altered {request : Request} {pod : Pod} {recorded updated : List Attachment}
    (status : ofPod pod = .ok recorded)
    (exact : ∀ a ∈ recorded, ∀ m ∈ a.extra.entries, m.2.Leaves Json.Exact)
    (alters : request.Alters recorded updated) : ofPod (pod.withStatus updated) = .ok updated := by
  have lasting := lasting_of_parseList status exact
  refine ofPod_withStatus ?_
  cases alters with
  | append result => exact lasting_attached lasting
  | drop => exact fun a mem => lasting a (((List.sublist_cons_self _ _).append_left _).subset mem)

/-! ## Sites -/

/-- A controller and the store of the pods that it works on. -/
structure Site where
  controller : Controller
  store : PodStore

namespace Site

/-! ## Steps -/

/-- One step of anyone: of a worker, of a writer from outside, or of who makes requests. -/
inductive Step (s : Site) : Option Deed → Site → Prop where
  | move {c : Controller} {clock i : Nat} {effects : List Effect}
    (turn : s.controller.turn clock i = .moves c effects) : Step s none { s with controller := c }
  | act {clock i lock : Nat} {action : Action} {next : action.Answer → Controller} {t : Ticket}
    {rest : Control (Except Fault Unit)} {store : PodStore}
    (turn : s.controller.turn clock i = .acts action next)
    (phase : s.controller.phase i = .working t lock rest) (answer : action.Answer)
    (answers : s.store.Answers ⟨action, answer⟩ store) :
    Step s (some ⟨i, t, action, answer⟩) ⟨next answer, store⟩
  | apply (pod : Pod) : Step s none { s with store := (s.store.apply pod).2 }
  | update (pod : Pod) : Step s none { s with store := (s.store.update pod).2 }
  | enqueue (request : Request) :
    Step s none { s with controller := s.controller.enqueue request }
  | add (t : Ticket) : Step s none { s with controller := s.controller.add t }
  | shutDown : Step s none { s with controller := s.controller.shutDown }

/-- Workers without requests on a store without pods. -/
def start (retries workers : Nat) : Site := ⟨.ofWorkers retries workers, .empty⟩

variable {s s' : Site} {d : Option Deed}

theorem Step.controller (step : Step s d s') :
    Controller.Step s.controller d s'.controller
      ∨ (d = none ∧ s'.controller = s.controller) := by
  cases step with
  | move turn => exact .inl (.move turn)
  | act turn phase answer answers => exact .inl (.act turn phase answer)
  | apply pod => exact .inr ⟨rfl, rfl⟩
  | update pod => exact .inr ⟨rfl, rfl⟩
  | enqueue request => exact .inl (.enqueue _ request)
  | add t => exact .inl (.add _ t)
  | shutDown => exact .inl (.shutDown _)

theorem Step.stores_or_same (step : Step s d s') :
    s'.store = s.store ∨ ∃ new, s.store.Stores new s'.store := by
  cases step with
  | act turn phase answer answers => exact answers.stores_or_same
  | apply pod => exact .inr ⟨_, PodStore.stores_apply _ pod⟩
  | update pod => exact PodStore.stores_or_same _ pod
  | _ => exact .inl rfl

theorem Step.answers {d : Deed} (step : Step s (some d) s') :
    s.store.Answers d.exchange s'.store := by
  cases step with
  | act turn phase answer answers => exact answers

/-! ## Runs -/

open Controller (deeds deeds_append)

/-- The pods that workers have learned were stored, under their names. -/
structure Learned (steps : List (Option Deed)) (s : Site) : Prop where
  named : s.store.Named
  issued : ∀ d ∈ deeds steps, ∀ pod, Exchange.Brings d.exchange pod → s.store.Issued pod
  honest : ∀ d ∈ deeds steps, Exchange.Honest d.exchange

/-- What was learned stays so with a step that writes no older pod and brings only what is stored. -/
theorem Learned.grow {steps : List (Option Deed)} (h : Learned steps s)
    (stores : s'.store = s.store ∨ ∃ new, s.store.Stores new s'.store)
    (last : ∀ {e}, e ∈ d.toList → ∀ pod, Exchange.Brings e.exchange pod →
      s'.store.Issued pod ∧ e.exchange.1.subject? = some pod.key) :
    Learned (steps ++ [d]) s' := by
  have named : s'.store.Named := by
    obtain same | ⟨new, stores⟩ := stores
    · rw [same]; exact h.named
    · exact stores.named h.named
  have later : ∀ {pod}, s.store.Issued pod → s'.store.Issued pod := by
    intro pod issued
    obtain same | ⟨new, stores⟩ := stores
    · rw [same]; exact issued
    · exact stores.issued issued
  refine ⟨named, fun e he pod brings => ?_, fun e he => ?_⟩
  · rw [deeds_append] at he
    obtain he | he := List.mem_append.1 he
    · exact later (h.issued e he pod brings)
    · exact (last he pod brings).1
  · rw [deeds_append] at he
    obtain he | he := List.mem_append.1 he
    · exact h.honest e he
    · exact fun pod brings => (last he pod brings).2

theorem Learned.step {steps : List (Option Deed)} (h : Learned steps s) (step : Step s d s') :
    Learned (steps ++ [d]) s' := by
  refine h.grow step.stores_or_same fun he pod brings => ?_
  obtain rfl := Option.mem_toList.1 he
  exact step.answers.brings h.named brings

theorem learned_of_run {retries workers : Nat} {steps : List (Option Deed)}
    (run : Run Step (start retries workers) steps s) : Learned steps s := by
  refine Run.invariant_with (fun h step => h.step step) ?_ run
  exact ⟨PodStore.named_empty, nofun, nofun⟩

/-- Steps of the controller, and steps of others that leave it alone, are a run of its own. -/
theorem controller_of_steps {R : Site → Option Deed → Site → Prop}
    (controls : ∀ {s d s'}, R s d s' → Controller.Step s.controller d s'.controller
      ∨ (d = none ∧ s'.controller = s.controller))
    {retries workers : Nat} {steps : List (Option Deed)} (run : Run R (start retries workers) steps s) :
    ∃ steps', Run Controller.Step (.ofWorkers retries workers) steps' s.controller
      ∧ deeds steps' = deeds steps := by
  induction run with
  | nil => exact ⟨[], .nil, rfl⟩
  | @snoc t u es e run step ih =>
    obtain ⟨steps', run', hdeeds⟩ := ih
    obtain step' | ⟨rfl, same⟩ := controls step
    · exact ⟨_, run'.snoc step', by rw [deeds_append, deeds_append, hdeeds]⟩
    · exact ⟨steps', same ▸ run', by rw [deeds_append, hdeeds]; simp⟩

/-- Whatever others write, the controller goes through a run of its own. -/
theorem controller_of_run {retries workers : Nat} {steps : List (Option Deed)}
    (run : Run Step (start retries workers) steps s) :
    ∃ steps', Run Controller.Step (.ofWorkers retries workers) steps' s.controller
      ∧ deeds steps' = deeds steps :=
  controller_of_steps Step.controller run

/-- A worker that writes has learned the pod, and changes its status as its request says. -/
theorem written_of_run {retries workers : Nat} {steps : List (Option Deed)}
    (run : Run Step (start retries workers) steps s) {d : Deed} (step : Step s (some d) s')
    {written : Pod} (hw : d.exchange.1 = .updatePod written) :
    ∃ pod, s.store.Issued pod ∧ pod.key = d.ticket.request.pod
      ∧ d.ticket.request.Rewrites pod written := by
  have learned := learned_of_run run
  obtain ⟨steps', run', hdeeds⟩ := controller_of_run run
  obtain step' | ⟨none, -⟩ := step.controller
  · obtain ⟨lock, next, hi⟩ := step'.working
    obtain ⟨es, hes, proper⟩ := Controller.proper_of_working run' hi
    rw [hdeeds] at hes
    obtain ⟨pod, known, rewrites⟩ := proper.written written hw
    obtain ⟨e, he, brings⟩ := known.learned
    refine ⟨pod, learned.issued _ (hes e he) pod brings, ?_, rewrites⟩
    exact known.own fun e he => learned.honest _ (hes e he)
  · cases none

/-! ## Writes of the controller -/

/-- Whatever others write in between, a deed of the controller leaves the store as it is, or is an
accepted write. Such a write replaces the pod that is stored at that moment, and changes nothing
but the version and the status in it: the status that is stored gains one entry at its end, or
loses one, and is read as that if doubles in foreign fields of it read back as they are written. -/
theorem no_update_is_lost {retries workers : Nat} {steps : List (Option Deed)}
    (run : Run Step (start retries workers) steps s) {d : Deed} (step : Step s (some d) s') :
    s'.store = s.store
      ∨ ∃ stored new recorded updated, s.store.get d.ticket.request.pod = .ok stored
        ∧ Exchange.Brings d.exchange new
        ∧ Attachment.ofPod stored = .ok recorded ∧ d.ticket.request.Alters recorded updated
        ∧ new = { stored with
            version := stored.version + 1
            annotations := stored.annotations.insert statusKey (Attachment.renderList updated) }
        ∧ (∀ name, name ≠ statusKey → new.annotated? name = stored.annotated? name)
        ∧ (∀ key, s'.store.get key
            = if key = d.ticket.request.pod then .ok new else s.store.get key)
        ∧ ((∀ a ∈ recorded, ∀ m ∈ a.extra.entries, m.2.Leaves Json.Exact) →
            Attachment.ofPod new = .ok updated) := by
  have answers := step.answers
  obtain ⟨worker, ticket, action, answer⟩ := d
  cases action with
  | updatePod written =>
    cases answer with
    | error cause => exact .inl (PodStore.update_eq_error answers)
    | ok new =>
      obtain ⟨pod, issued, own, recorded, updated, hrecorded, alters, rfl⟩ :=
        written_of_run run step rfl
      obtain ⟨stored, hstored, version, rfl, put⟩ := PodStore.update_eq_ok answers
      -- the version tells that the pod was not written since the worker learned it
      obtain rfl := issued.eq_stored hstored version
      refine .inr ⟨stored, _, recorded, updated, ?_, .update _ _, hrecorded, alters, rfl, ?_, ?_,
        fun doubles => Attachment.ofPod_altered hrecorded doubles alters⟩
      · exact PodStore.get_eq_ok.2 (own ▸ hstored)
      · exact fun name hname => Dict.get?_insert_of_ne _ _ hname
      · exact fun key => own ▸ PodStore.get_put put key
  | getPod key => exact .inl answers.2
  | _ => exact .inl answers

/-- A worker goes along every path of its program that the store's answers allow. -/
theorem follow {retries workers i lock : Nat} {steps : List (Option Deed)} {t : Ticket}
    {p p' : Control (Except Fault Unit)} {es : List Exchange} {store : PodStore}
    (run : Run Step (start retries workers) steps s)
    (hi : s.controller.phase i = .working t lock p) (path : Program.Path p es p')
    (answers : Run PodStore.Answers s.store es store) :
    ∃ steps c, Run Step (start retries workers) steps ⟨c, store⟩
      ∧ c.phase i = .working t lock p' := by
  induction path generalizing store with
  | nil =>
    generalize hes : [] = es at answers
    cases answers with
    | nil => exact ⟨steps, _, run, hi⟩
    | snoc => simp at hes
  | @snoc es q next path answer ih =>
    obtain ⟨store', before, last⟩ := answers.last
    obtain ⟨steps, c, run, hi⟩ := ih before
    have hne : c.phase i ≠ .left := by rw [hi]; nofun
    refine ⟨_, _, run.snoc (.act (Controller.turn_working 0 hi) hi answer last), ?_⟩
    exact (Controller.phase_enter (d := c) rfl hne _ i).trans (if_pos rfl)

/-- A pod is written twice from outside before a worker records an attachment in it. -/
theorem status_is_recorded :
    ∃ (steps : List (Option Deed)) (s s' : Site) (d : Deed) (stored new : Pod),
      Run Step (start 5 1) steps s ∧ Step s (some d) s'
        ∧ s.store.get d.ticket.request.pod = .ok stored ∧ stored.version = 2
        ∧ s'.store.get d.ticket.request.pod = .ok new ∧ new.version = 3
        ∧ new.uid = "second" := by
  let pod : Pod := ⟨"s", "p", "first", 0, ∅, []⟩
  let found : Pod := { pod with uid := "second", version := 2 }
  let net : Selection := ⟨"n", "s", some "eth1", [], none, [], none⟩
  let request : Request := ⟨pod.key, .add, [net], ""⟩
  let store := ((PodStore.empty.apply pod).2.apply { pod with uid := "second" }).2
  have taken := Run.nil
    |>.snoc (Step.apply (s := start 5 1) pod)
    |>.snoc (Step.apply { pod with uid := "second" })
    |>.snoc (Step.enqueue request)
    |>.snoc (Step.move (rfl : Controller.turn _ 0 0 = .moves _ _))
    |>.snoc (Step.move (rfl : Controller.turn _ 0 0 = .moves _ _))
    |>.snoc (Step.move (rfl : Controller.turn _ 0 0 = .moves _ _))
    |>.snoc (Step.move (rfl : Controller.turn _ 0 0 = .moves _ _))
  have path := (Program.Path.nil (p := (reconcile 5 request).run))
    |>.snoc (q := Action.getPod _) (Except.ok found)
    |>.snoc (q := Action.notify _) ()
    |>.snoc (q := Action.getDefinition _) (Except.ok default)
  have path : Program.Path _ _ (((updateStatus 5 _ 5 found).run.bind _ |>.bind _).bind _) :=
    path.snoc (q := Action.invoke _) (Except.ok ⟨some default⟩)
  rw [updateStatus, rewriteStatus] at path
  have path : Program.Path _ _ (.act (Action.updatePod _) _) := path.snoc (q := Action.notify _) ()
  obtain ⟨steps, c, run, hi⟩ := follow (s := ⟨_, store⟩) (t := ⟨0, request⟩) (i := 0) taken rfl path
    (Run.nil |>.snoc ⟨rfl, rfl⟩ |>.snoc rfl |>.snoc rfl |>.snoc rfl |>.snoc rfl)
  have step := Step.act (s := ⟨c, store⟩) (Controller.turn_working 0 hi) hi
    (Except.ok { found.annotate statusKey _ with version := 3 }) rfl
  obtain same | ⟨stored, new, recorded, updated, hstored, -, -, -, hnew, -, hget, -⟩ :=
    no_update_is_lost run step
  · have versions : (Except.ok 3 : Except Fault Nat) = .ok 2 :=
      congrArg (fun s : PodStore => (s.get pod.key).map Pod.version) same
    cases versions
  · cases (show Except.ok found = Except.ok stored from hstored)
    subst hnew
    exact ⟨_, _, _, _, found, _, run, step, hstored, rfl, (hget _).trans (if_pos rfl), rfl, rfl⟩

end Site

end NetAttach
