import Mathlib.Data.List.Count
import NmDaemon.RuntimeRequests

/-!
# The history of a connect request

A connect request that is registered once, from its registration on. `Phase` is what can
be true of it: its task is live and there is no result yet; or a terminal event has been
recorded, and the results hold that event or nothing; or its registration was dropped
before anything was recorded.

* `Phase.step` — every action keeps the phase, counting the events it accepts;
* `Phase.stored_settled`, `Phase.progressed_settled`, `Phase.status` — what stores and reads answer;
* `request_step`, `read_revision`, `newer_task_stays` — the same for whole histories.
-/

namespace NmDaemon

namespace Runtime

/-- The revision of a request after `n` accepted events: it starts at one and saturates. -/
def revisionAfter (n : ℕ) : ℕ := min (1 + n) (2 ^ 64 - 1)

theorem saturatingSucc_revisionAfter (n : ℕ) :
    saturatingSucc (revisionAfter n) = revisionAfter (n + 1) := by
  unfold saturatingSucc revisionAfter
  omega

theorem revisionAfter_mono {m n : ℕ} (h : m ≤ n) : revisionAfter m ≤ revisionAfter n := by
  unfold revisionAfter
  omega

/-! ## The event that is recorded -/

/-- The terminal event of a connect task, before its revision is set. -/
def resolved (s : DaemonRuntime) (task : TaskHandle) (event : Json) (ownerChanged : Bool) : Json :=
  if (ownerChanged ∨ task.cancellation ∈ s.raised) ∧ isSuccess event = true then
    cancelledEvent event task.timedOut
  else event

theorem cancelledEvent_fields (event : Event) (timedOut : Bool) :
    (∃ fields, cancelledEvent event.value timedOut = .obj fields) ∧
      (cancelledEvent event.value timedOut).index "event" = .str "cancelled" ∧
      ((cancelledEvent event.value timedOut).index "data").get "result" = none := by
  obtain ⟨fields, hvalue⟩ := event.object
  obtain ⟨data, hdata⟩ := event.data
  rw [hvalue] at hdata
  have hdata' : ((Json.obj fields).put "event" (.str "cancelled")).index "data" = .obj data := by
    rw [Json.index_put_ne fields _ (by decide), hdata]
  simp only [cancelledEvent, hvalue, hdata']
  refine ⟨⟨_, rfl⟩, ?_, ?_⟩
  · rw [Json.put_obj, Json.index_put_ne _ _ (by decide), ← Json.put_obj, Json.index_put_self]
  · rw [Json.put_obj fields, Json.index_put_self, Json.get_erase, if_pos rfl]

theorem resolved_object (s : DaemonRuntime) (task : TaskHandle) (event : Event)
    (ownerChanged : Bool) : ∃ fields, resolved s task event.value ownerChanged = .obj fields := by
  unfold resolved
  split_ifs
  · exact (cancelledEvent_fields event task.timedOut).1
  · exact event.object

variable {task : TaskHandle}

/-- Once the flag is set no success is recorded, and what was one has no result. -/
theorem resolved_raised {s : DaemonRuntime} (hraised : task.cancellation ∈ s.raised) (event : Event)
    (ownerChanged : Bool) :
    (resolved s task event.value ownerChanged).index "event" ≠ .str "succeeded" ∧
      (isSuccess event.value = true →
        (resolved s task event.value ownerChanged).index "event" = .str "cancelled" ∧
          ((resolved s task event.value ownerChanged).index "data").get "result" = none) := by
  obtain ⟨-, hevent, hresult⟩ := cancelledEvent_fields event task.timedOut
  by_cases hsuccess : isSuccess event.value = true
  · rw [resolved, if_pos ⟨.inr hraised, hsuccess⟩]
    refine ⟨?_, fun _ => ⟨hevent, hresult⟩⟩
    rw [hevent]
    decide
  · rw [resolved, if_neg fun h => hsuccess h.2]
    exact ⟨by simpa [isSuccess] using hsuccess, fun h => absurd h hsuccess⟩

/-- The terminal store of a live connect task. -/
theorem storeTerminalResult_live {s : DaemonRuntime} {id : String} {owner : Option String}
    (htask : s.tasks.lookup id = some task) (howner : task.owner = owner)
    (hkind : task.kind = .connect) (hterminal : task.terminal = false)
    (hevidence : s.evidence id owner = none) (event : Json) (ownerChanged : Bool) :
    let revision := saturatingSucc task.observationRevision
    let stored := (resolved s task event ownerChanged).put "operation_revision" (.int revision)
    s.storeTerminalResult id owner .wifiConnect event ownerChanged =
      ({ s with
          tasks := AList.insert id
            { task with terminal := true, observationRevision := revision } s.tasks
          results := s.results.insert (id, owner) ⟨.wifiConnect, stored, revision⟩ },
        some stored, true) := by
  have hfilter : (some task).filter (fun task => task.owner = owner) = some task := by
    simp [howner]
  have hstream : (some task).filter (fun task => task.kind.stream = .wifiConnect) = some task := by
    simp [hkind, TaskKind.stream]
  simp only [DaemonRuntime.storeTerminalResult, hevidence, htask, hfilter, hstream, Option.any_some,
    hterminal, hkind, true_and, resolved, Bool.false_eq_true, if_false]

/-! ## Phases -/

/-- The registration and the task of the request, while it has both. -/
structure Live (id : String) (cell : ℕ) (owner : Option String) (s : DaemonRuntime)
    (task : TaskHandle) : Prop where
  worker : s.workers.lookup cell = some ⟨id, .connect, owner⟩
  held : s.tasks.lookup id = some task
  cancellation : task.cancellation = cell
  kind : task.kind = .connect
  owner : task.owner = owner

/-- The registration was dropped, and the task with it. -/
structure Gone (id : String) (cell : ℕ) (s : DaemonRuntime) : Prop where
  worker : s.workers.lookup cell = none
  task : s.tasks.lookup id = none

/-- What is true of a connect request after its registration: `n` events were accepted,
and the terminal event is recorded or not. -/
inductive Phase (id : String) (cell : ℕ) (owner : Option String) (s : DaemonRuntime) :
    ℕ → Option Json → Prop
  /-- the request runs -/
  | running {n : ℕ} {task : TaskHandle} (live : Live id cell owner s task)
      (hterminal : task.terminal = false)
      (hrevision : task.observationRevision = revisionAfter n)
      (hprogress : ∀ event, task.progress = some event →
        event.index "operation_revision" = .int (revisionAfter n))
      (hevidence : ∀ o, s.evidence id o = none) : Phase id cell owner s n none
  /-- the request has its terminal event -/
  | settled {n : ℕ} {event : Json}
      (htask : Gone id cell s ∨ ∃ task, Live id cell owner s task ∧ task.terminal = true)
      (hcarries : event.index "operation_revision" = .int (revisionAfter n))
      (hevidence : ∀ o result, s.evidence id o = some result →
        o = owner ∧ result = ⟨.wifiConnect, event, revisionAfter n⟩) :
      Phase id cell owner s n (some event)
  /-- the request was given up before it had one -/
  | abandoned {n : ℕ} (gone : Gone id cell s) (hevidence : ∀ o, s.evidence id o = none) :
      Phase id cell owner s n none

variable {id : String} {cell : ℕ} {owner : Option String} {s s' : DaemonRuntime} {n : ℕ}
  {event : Option Json}

/-- A step that is not the worker's own keeps the phase. -/
theorem Phase.quiet (h : Phase id cell owner s n event)
    (hworker : s'.workers.lookup cell = s.workers.lookup cell)
    (hquiet : Quiet id s s') : Phase id cell owner s' n event := by
  -- a dropped task stays away, a task that has ended stays as it is
  have hgone : Gone id cell s → Gone id cell s' := by
    intro gone
    refine ⟨by rw [hworker, gone.worker], ?_⟩
    rcases hquiet.task with htask | ⟨task, htask, -⟩
    · rw [htask, gone.task]
    · rw [gone.task] at htask
      cases htask
  have hnone : (∀ o, s.evidence id o = none) → ∀ o, s'.evidence id o = none := by
    intro hevidence o
    rcases hquiet.evidence o with ho | ho
    · rw [ho, hevidence o]
    · exact ho
  cases h with
  | running live hterminal hrevision hprogress hevidence =>
    rename_i task
    have hw : s'.workers.lookup cell = some ⟨id, .connect, owner⟩ := by
      rw [hworker, live.worker]
    rcases hquiet.task with htask | ⟨task', htask, -, htask'⟩
    · exact .running ⟨hw, by rw [htask, live.held], live.cancellation, live.kind, live.owner⟩
        hterminal hrevision hprogress (hnone hevidence)
    · obtain rfl := Option.some.inj (live.held.symm.trans htask)
      exact .running ⟨hw, htask', live.cancellation, live.kind, live.owner⟩
        hterminal hrevision hprogress (hnone hevidence)
  | settled htask hcarries hevidence =>
    refine .settled ?_ hcarries fun o result hresult => ?_
    · rcases htask with gone | ⟨task, live, hterminal⟩
      · exact .inl (hgone gone)
      refine .inr ⟨task, ⟨by rw [hworker, live.worker], ?_, live.cancellation, live.kind,
        live.owner⟩, hterminal⟩
      rcases hquiet.task with htask | ⟨task', htask, hlive, -⟩
      · rw [htask, live.held]
      · obtain rfl := Option.some.inj (live.held.symm.trans htask)
        rw [hterminal] at hlive
        cases hlive
    · rcases hquiet.evidence o with ho | ho
      · rw [ho] at hresult
        exact hevidence o result hresult
      · rw [ho] at hresult
        cases hresult
  | abandoned gone hevidence => exact .abandoned (hgone gone) (hnone hevidence)

/-- The tables are all a phase looks at. -/
theorem Phase.same (h : Phase id cell owner s n event) (same : SameTables s s') :
    Phase id cell owner s' n event := by
  refine h.quiet (by rw [same.workers]) ⟨.inl (by rw [same.tasks]), fun o => .inl ?_⟩
  rw [DaemonRuntime.evidence, same.results, DaemonRuntime.evidence]

/-! ## The worker's own steps -/

/-- The drop of a registration takes its task along. -/
theorem Live.drop (live : Live id cell owner s task) :
    Gone id cell (s.dropRegistration cell ⟨id, .connect, owner⟩) := by
  have hown : (s.tasks.lookup id).any (fun task => task.cancellation = cell) = true := by
    rw [live.held]
    simpa using live.cancellation
  refine ⟨?_, ?_⟩
  · rw [DaemonRuntime.dropRegistration, AList.lookup_erase]
  · rw [DaemonRuntime.dropRegistration, if_pos hown, AList.lookup_erase]

variable {o : Answer}

theorem Phase.drop (h : Phase id cell owner s n event) (hstep : step s (.drop cell) = some (s', o)) :
    Phase id cell owner s' n event := by
  have hdrop : ∀ task, Live id cell owner s task →
      Gone id cell s' ∧ ∀ o, s'.evidence id o = s.evidence id o := by
    intro task live
    rcases hst : s.storing.lookup cell with _ | storing
    · simp only [step, live.worker, hst, Option.some.injEq, Prod.mk.injEq] at hstep
      obtain ⟨rfl, -⟩ := hstep
      exact ⟨live.drop, fun _ => rfl⟩
    · simp [step, live.worker, hst] at hstep
  have hworker : s.workers.lookup cell ≠ none := by
    intro hnone
    simp [step, hnone] at hstep
  cases h with
  | running live hterminal hrevision hprogress hevidence =>
    obtain ⟨gone, hsame⟩ := hdrop _ live
    exact .abandoned gone fun o => by rw [hsame, hevidence]
  | settled htask hcarries hevidence =>
    rcases htask with gone | ⟨task, live, hterminal⟩
    · exact absurd gone.worker hworker
    obtain ⟨gone, hsame⟩ := hdrop _ live
    exact .settled (.inl gone) hcarries fun o result hresult =>
      hevidence o result (by rw [← hsame, hresult])
  | abandoned gone hevidence => exact absurd gone.worker hworker

/-- After the terminal event, a terminal store has no effect and answers that event or
nothing. -/
theorem Phase.stored_settled {e : Json} {lost : Bool} (h : Phase id cell owner s n (some e))
    (hstep : step s (.commitStore cell lost) = some (s', o)) :
    SameTables s s' ∧ (o = .stored none false ∨ o = .stored (some e) false) := by
  cases h with
  | settled htask hcarries hevidence =>
  simp only [step] at hstep
  rcases htask with gone | ⟨task, live, hterminal⟩
  · simp [gone.worker] at hstep
  rw [live.worker] at hstep
  rcases hst : s.storing.lookup cell with _ | ⟨event, bound⟩
  · simp [hst] at hstep
  simp only [hst, Option.some.injEq, Prod.mk.injEq, TaskKind.stream] at hstep
  obtain ⟨rfl, rfl⟩ := hstep
  rcases hev : s.evidence id owner with _ | result
  · have hfilter : (some task).filter (fun task => task.owner = owner) = some task := by
      simp [live.owner]
    have hev' : { s with storing := s.storing.erase cell }.evidence id owner = none := hev
    simp only [DaemonRuntime.storeTerminalResult, hev', live.held, hfilter, Option.any_some,
      hterminal, if_true]
    exact ⟨⟨rfl, rfl, rfl, rfl⟩, .inl trivial⟩
  · have hev' : { s with storing := s.storing.erase cell }.evidence id owner = some result :=
      hev
    simp only [DaemonRuntime.storeTerminalResult, hev']
    rw [(hevidence owner result hev).2]
    exact ⟨⟨rfl, rfl, rfl, rfl⟩, .inr rfl⟩

/-- Nor is progress accepted. -/
theorem Phase.progressed_settled {e : Json} {progress : Event}
    (h : Phase id cell owner s n (some e)) (hstep : step s (.progress cell progress) = some (s', o)) :
    SameTables s s' ∧ (o = .progressed none false ∨ o = .progressed (some e) false) := by
  cases h with
  | settled htask hcarries hevidence =>
  simp only [step] at hstep
  rcases htask with gone | ⟨task, live, hterminal⟩
  · simp [gone.worker] at hstep
  rw [live.worker] at hstep
  rcases hst : s.storing.lookup cell with _ | storing
  · have hfilter : (some task).filter (fun task => task.owner = owner ∧ task.kind = .connect) =
        some task := by
      simp [live.owner, live.kind]
    simp only [hst, Option.some.injEq, Prod.mk.injEq, DaemonRuntime.storeConnectProgress, live.held,
      hfilter] at hstep
    obtain ⟨rfl, rfl⟩ := hstep
    rcases hev : s.evidence id owner with _ | result
    · simp only [hterminal, if_true]
      exact ⟨⟨rfl, rfl, rfl, rfl⟩, .inl trivial⟩
    · simp only
      rw [(hevidence owner result hev).2]
      exact ⟨⟨rfl, rfl, rfl, rfl⟩, .inr rfl⟩
  · simp [hst] at hstep

/-- The terminal store of a running request: the worker's event, resolved against the
request's flag, is recorded with the next revision. -/
theorem Live.stored {lost : Bool} (live : Live id cell owner s task)
    (hterminal : task.terminal = false) (hevidence : ∀ o, s.evidence id o = none)
    (hstep : step s (.commitStore cell lost) = some (s', o)) :
    ∃ event bound, s.storing.lookup cell = some (event, bound) ∧
      let changed := isSuccess event.value && bound && lost
      let revision := saturatingSucc task.observationRevision
      let stored := (resolved s task event.value changed).put "operation_revision" (.int revision)
      o = .stored (some stored) true ∧
      Live id cell owner s' { task with terminal := true, observationRevision := revision } ∧
      ∀ o, s'.evidence id o =
        if o = owner then some ⟨.wifiConnect, stored, revision⟩ else none := by
  simp only [step, live.worker] at hstep
  rcases hst : s.storing.lookup cell with _ | ⟨event, bound⟩
  · simp [hst] at hstep
  refine ⟨event, bound, rfl, ?_⟩
  simp only [hst, Option.some.injEq, Prod.mk.injEq, TaskKind.stream] at hstep
  rw [storeTerminalResult_live (s := { s with storing := s.storing.erase cell }) live.held
    live.owner live.kind hterminal (hevidence owner)] at hstep
  obtain ⟨rfl, rfl⟩ := hstep
  refine ⟨rfl, ⟨live.worker, AList.lookup_insert _, live.cancellation, live.kind, live.owner⟩,
    fun o => ?_⟩
  simp only [DaemonRuntime.evidence, Table.lookup_insert_ite, Prod.mk.injEq, true_and]
  split_ifs
  · rfl
  · exact hevidence o

/-- A progress store of a running request is accepted. -/
theorem Live.progressed {progress : Event} (live : Live id cell owner s task)
    (hterminal : task.terminal = false) (hevidence : ∀ o, s.evidence id o = none)
    (hstep : step s (.progress cell progress) = some (s', o)) :
    let revision := saturatingSucc task.observationRevision
    let stored := progress.value.put "operation_revision" (.int revision)
    o = .progressed (some stored) true ∧
    Live id cell owner s' { task with observationRevision := revision, progress := some stored } ∧
    ∀ o, s'.evidence id o = none := by
  simp only [step, live.worker] at hstep
  rcases hst : s.storing.lookup cell with _ | storing
  · have hfilter : (some task).filter (fun task => task.owner = owner ∧ task.kind = .connect) =
        some task := by
      simp [live.owner, live.kind]
    have hlive : ¬ task.terminal = true := by simp [hterminal]
    simp only [hst, Option.some.injEq, Prod.mk.injEq, DaemonRuntime.storeConnectProgress, live.held,
      hfilter, hevidence owner, if_neg hlive] at hstep
    obtain ⟨rfl, rfl⟩ := hstep
    exact ⟨rfl, ⟨live.worker, AList.lookup_insert _, live.cancellation, live.kind, live.owner⟩,
      hevidence⟩
  · simp [hst] at hstep

/-- Setting the revision of an object. -/
theorem index_revision {event : Json} (hobject : ∃ fields, event = .obj fields) (revision : ℕ) :
    (event.put "operation_revision" (.int revision)).index "operation_revision" =
      .int revision := by
  obtain ⟨fields, rfl⟩ := hobject
  exact Json.index_put_self fields _ _

variable {a : Action}

/-- The own steps of a worker. -/
theorem Phase.own (h : Phase id cell owner s n event) (hstep : step s a = some (s', o))
    (hown : a.isOf cell = true) :
    Phase id cell owner s' (n + (accepted cell (a, o)).toNat) (event.or (recorded cell (a, o))) ∧
      (event.isSome → accepted cell (a, o) = false) := by
  cases a with
  | drop c =>
    obtain rfl : c = cell := by simpa [Action.isOf] using hown
    refine ⟨?_, fun _ => rfl⟩
    simpa [accepted, recorded] using h.drop hstep
  | commitStore c lost =>
    obtain rfl : c = cell := by simpa [Action.isOf] using hown
    cases h with
    | running live hterminal hrevision hprogress hevidence =>
      obtain ⟨event, bound, -, rfl, live', hevidence'⟩ := live.stored hterminal hevidence hstep
      rw [hrevision, saturatingSucc_revisionAfter] at hevidence'
      rw [hrevision, saturatingSucc_revisionAfter]
      refine ⟨?_, by simp⟩
      simp only [accepted, recorded, decide_true, Bool.toNat_true, if_true, Option.none_or]
      refine .settled (.inr ⟨_, live', rfl⟩) (index_revision (resolved_object _ _ _ _) _) ?_
      intro o result hresult
      rw [hevidence'] at hresult
      split_ifs at hresult with ho
      exact ⟨ho, (Option.some.inj hresult).symm⟩
    | settled htask hcarries hevidence =>
      have hphase : Phase id c owner s n (some _) := .settled htask hcarries hevidence
      obtain ⟨same, rfl | rfl⟩ := hphase.stored_settled hstep
      · exact ⟨hphase.same same, fun _ => rfl⟩
      · exact ⟨hphase.same same, fun _ => rfl⟩
    | abandoned gone hevidence => simp [step, gone.worker] at hstep
  | progress c progress =>
    obtain rfl : c = cell := by simpa [Action.isOf] using hown
    cases h with
    | running live hterminal hrevision hprogress hevidence =>
      obtain ⟨rfl, live', hevidence'⟩ := live.progressed hterminal hevidence hstep
      refine ⟨?_, by simp⟩
      simp only [accepted, recorded, decide_true, Bool.toNat_true, Option.none_or]
      refine .running live' hterminal ?_ ?_ hevidence'
      · rw [hrevision, saturatingSucc_revisionAfter]
      · intro event hevent
        obtain rfl := Option.some.inj hevent
        rw [index_revision progress.object, hrevision, saturatingSucc_revisionAfter]
    | settled htask hcarries hevidence =>
      have hphase : Phase id c owner s n (some _) := .settled htask hcarries hevidence
      obtain ⟨same, rfl | rfl⟩ := hphase.progressed_settled hstep
      · exact ⟨hphase.same same, fun _ => rfl⟩
      · exact ⟨hphase.same same, fun _ => rfl⟩
    | abandoned gone hevidence => simp [step, gone.worker] at hstep
  | _ => cases hown

/-- Only the worker's own steps record or accept events of its request. -/
theorem plain_of_not_isOf (hown : a.isOf cell = false) (o : Answer) :
    accepted cell (a, o) = false ∧ recorded cell (a, o) = none := by
  refine ⟨?_, ?_⟩
  · unfold accepted
    split <;> simp_all [Action.isOf]
  · unfold recorded
    split <;> simp_all [Action.isOf]

/-- **Every step** keeps the phase of the request, counting what it accepts; and nothing is
accepted after the terminal event. -/
theorem Phase.step (h : Phase id cell owner s n event) (hsolo : Solo id cell s)
    (hstep : step s a = some (s', o)) (hreg : a.registers id = false) :
    Phase id cell owner s' (n + (accepted cell (a, o)).toNat) (event.or (recorded cell (a, o))) ∧
      (event.isSome → accepted cell (a, o) = false) := by
  rcases hown : a.isOf cell with _ | _
  · have heffect := step_effect hstep
    have hdrop : a ≠ .drop cell := by
      rintro rfl
      simp [Action.isOf] at hown
    obtain ⟨haccepted, hrecorded⟩ := plain_of_not_isOf hown o
    have hquiet : Quiet id s s' := by
      refine step_quiet heffect hreg fun c registration hc hof hid => ?_
      rw [hsolo.worker c registration hc hid.symm, hown] at hof
      cases hof
    rw [haccepted, hrecorded, Option.or_none]
    exact ⟨h.quiet (heffect.worker_same hsolo.old hdrop) hquiet, fun _ => rfl⟩
  · exact h.own hstep hown

/-- What is accepted is reported with the next revision. -/
theorem Phase.carries (h : Phase id cell owner s n event) (hstep : Runtime.step s a = some (s', o))
    (hown : a.isOf cell = true) (haccepted : accepted cell (a, o) = true) :
    ∃ e, o.event = some e ∧ e.index "operation_revision" = .int (revisionAfter (n + 1)) := by
  have hnone : event.isSome → False := fun hsome => by
    rw [(h.own hstep hown).2 hsome] at haccepted
    cases haccepted
  cases h with
  | running live hterminal hrevision hprogress hevidence =>
    cases a with
    | commitStore c lost =>
      obtain rfl : c = cell := by simpa [Action.isOf] using hown
      obtain ⟨event, bound, -, rfl, -⟩ := live.stored hterminal hevidence hstep
      refine ⟨_, rfl, ?_⟩
      rw [index_revision (resolved_object _ _ _ _), hrevision, saturatingSucc_revisionAfter]
    | progress c progress =>
      obtain rfl : c = cell := by simpa [Action.isOf] using hown
      obtain ⟨rfl, -⟩ := live.progressed hterminal hevidence hstep
      refine ⟨_, rfl, ?_⟩
      rw [index_revision progress.object, hrevision, saturatingSucc_revisionAfter]
    | _ => cases haccepted
  | settled => exact absurd rfl hnone
  | abandoned gone hevidence =>
    cases a with
    | commitStore c lost | progress c progress =>
      obtain rfl : c = cell := by simpa [Action.isOf] using hown
      simp [Runtime.step, gone.worker] at hstep
    | _ => cases haccepted

/-- **Reads.** What the owner's status read can say. -/
theorem Phase.status (h : Phase id cell owner s n event) (now : ℕ) :
    s.requestStatus id owner now = .obj [("request_id", .str id), ("status", .str "unknown")] ∨
    (s.requestStatus id owner now).index "operation_revision" = .int (revisionAfter n) ∧
      ((s.requestStatus id owner now).index "status" = .str "running" ∧ event = none ∧
          ((s.requestStatus id owner now).index "event" = .null ∨
            ((s.requestStatus id owner now).index "event").index "operation_revision" =
              .int (revisionAfter n)) ∨
        (s.requestStatus id owner now).index "status" = .str "finished" ∧
          ∃ e, event = some e ∧ (s.requestStatus id owner now).index "event" = e ∧
            e.index "operation_revision" = .int (revisionAfter n)) := by
  cases h with
  | running live hterminal hrevision hprogress hevidence =>
    rename_i task
    have hfilter : (some task).filter (fun task => task.owner = owner ∧ task.terminal = false) =
        some task := by
      simp [live.owner, hterminal]
    simp only [DaemonRuntime.requestStatus, hevidence, live.held, hfilter]
    refine .inr ⟨by rw [← hrevision]; rfl, .inl ⟨rfl, trivial, ?_⟩⟩
    rcases hp : task.progress with _ | event
    · exact .inl rfl
    · exact .inr (hprogress event hp)
  | settled htask hcarries hevidence =>
    rename_i e
    rcases hev : s.evidence id owner with _ | result
    · refine .inl ?_
      simp only [DaemonRuntime.requestStatus, hev]
      rcases htask with gone | ⟨task, live, hterminal⟩
      · simp only [gone.task, Option.filter_none]
      · have hfilter :
            (some task).filter (fun task => task.owner = owner ∧ task.terminal = false) = none := by
          simp [hterminal]
        simp only [live.held, hfilter]
    · obtain ⟨-, rfl⟩ := hevidence owner result hev
      simp only [DaemonRuntime.requestStatus, hev]
      exact .inr ⟨rfl, .inr ⟨rfl, e, rfl, rfl, hcarries⟩⟩
  | abandoned gone hevidence =>
    simp only [DaemonRuntime.requestStatus, hevidence, gone.task, Option.filter_none]
    exact .inl trivial

/-! ## Whole histories -/

/-- How many events of the worker a history accepts. -/
def acceptedCount (cell : ℕ) (log : List Entry) : ℕ := log.countP (accepted cell)

/-- The terminal event a history records for the worker's request. -/
def recording (cell : ℕ) (log : List Entry) : Option Json := log.findSome? (recorded cell)

theorem run_backed {log : List Entry} (hrun : runtime.Reaches log s) : Backed s := by
  refine hrun.preserves Backed (fun t t' a o h hstep => h.step (step_effect hstep)) ?_
  refine ⟨fun id task h => ?_, fun c registration h => ?_⟩
  · cases h
  · cases h

theorem run_unused {log : List Entry} (hrun : runtime.Reaches log s)
    (hnone : ∀ e ∈ log, e.1.registers id = false) : Unused id s := by
  refine hrun.invariant (fun log s => (∀ e ∈ log, e.1.registers id = false) → Unused id s)
    (fun _ => ⟨rfl, fun c registration h => ?_, fun _ => rfl⟩) ?_ hnone
  · cases h
  · intro log t t' a o _ ih hstep hnone
    have hbefore := ih fun e he => hnone e (List.mem_append_left _ he)
    exact hbefore.step (step_effect hstep) (hnone (a, o) (by simp))

/-- The registration of an unused id opens the request. -/
theorem register_phase (hbacked : Backed s) (hunused : Unused id s) (owner : Option String)
    (ssid : Option SsidBytes) (destination : String) (now : ℕ) :
    Solo id s.cells (s.register id .connect owner ssid destination now) ∧
      Phase id s.cells owner (s.register id .connect owner ssid destination now) 0 none := by
  have heffect : Effect s _ _ _ := .register id .connect owner ssid destination now
  refine ⟨⟨hbacked.step heffect, Nat.lt_succ_self _, fun c registration hc hid => ?_⟩, ?_⟩
  · rcases heffect.worker hc with hc | ⟨-, hc⟩
    · exact absurd hid (hunused.worker c registration hc)
    · exact hc
  · refine .running ⟨AList.lookup_insert _, AList.lookup_insert _, rfl, rfl, rfl⟩ rfl rfl ?_
      hunused.evidence
    intro event hevent
    cases hevent

/-- A run from the registration of a request on. -/
theorem run_phase {post : List Entry} (hsolo : Solo id cell s) (hphase : Phase id cell owner s 0 none)
    (hrun : runtime.Run s post s') (honce : ∀ e ∈ post, e.1.registers id = false) :
    Solo id cell s' ∧
      Phase id cell owner s' (acceptedCount cell post) (recording cell post) := by
  refine hrun.invariant (fun post s' => (∀ e ∈ post, e.1.registers id = false) → Solo id cell s' ∧
    Phase id cell owner s' (acceptedCount cell post) (recording cell post)) (fun _ => ⟨hsolo, hphase⟩)
    ?_ honce
  intro post t t' a o _ ih hstep honce
  obtain ⟨hsolo, hphase⟩ := ih fun e he => honce e (List.mem_append_left _ he)
  have hreg : a.registers id = false := honce (a, o) (by simp)
  refine ⟨hsolo.step (step_effect hstep) hreg, ?_⟩
  have hnext := (hphase.step hsolo hstep hreg).1
  rw [acceptedCount, recording, List.countP_append, List.countP_singleton, List.findSome?_append,
    List.findSome?_singleton]
  rcases hacc : accepted cell (a, o) with _ | _ <;> rw [hacc] at hnext <;> exact hnext

/-- The entry that registers a connect request. -/
abbrev connectRegistered (id : String) (owner : Option String) (ssid : Option SsidBytes)
    (destination : String) (now cell : ℕ) : Entry :=
  (.register id .connect owner ssid destination now, .registered cell)

section Request

variable {pre post : List Entry} {ssid : Option SsidBytes} {destination : String} {now : ℕ}

/-- What is known at any point of the history of a request that is registered once. -/
theorem request_at
    (hrun : runtime.Reaches
      (pre ++ connectRegistered id owner ssid destination now cell :: post) s)
    (honce : ∀ e ∈ pre ++ post, e.1.registers id = false) :
    Solo id cell s ∧ Phase id cell owner s (acceptedCount cell post) (recording cell post) := by
  obtain ⟨t₀, t₁, hpre, hregister, hpost⟩ := hrun.step_at
  have hregister' : step t₀ (.register id .connect owner ssid destination now) =
    some (t₁, .registered cell) := hregister
  obtain ⟨rfl, hcell⟩ := Prod.mk.inj (Option.some.inj hregister')
  obtain rfl := Answer.registered.inj hcell
  obtain ⟨hsolo, hphase⟩ := register_phase (run_backed hpre)
    (run_unused hpre fun e he => honce e (by simp [he])) owner ssid destination now
  exact run_phase hsolo hphase hpost fun e he => honce e (by simp [he])

variable {l₁ l₂ : List Entry}

/-- The step that made an entry of the history, with what is known before it. -/
theorem request_step {a : Action} {o : Answer} (hrun : runtime.Reaches
      (pre ++ connectRegistered id owner ssid destination now cell :: (l₁ ++ (a, o) :: l₂)) s)
    (honce : ∀ e ∈ pre ++ (l₁ ++ (a, o) :: l₂), e.1.registers id = false) :
    ∃ t t', Solo id cell t ∧ Phase id cell owner t (acceptedCount cell l₁) (recording cell l₁) ∧
      step t a = some (t', o) ∧ a.registers id = false := by
  rw [← List.cons_append, ← List.append_assoc] at hrun
  obtain ⟨t, t', hbefore, hstep, -⟩ := hrun.step_at
  obtain ⟨hsolo, hphase⟩ := request_at hbefore fun e he => honce e (by
    rcases List.mem_append.mp he with he | he <;> simp [he])
  exact ⟨t, t', hsolo, hphase, hstep, honce (a, o) (by simp)⟩

/-- The terminal event that was recorded is the one the rest of the history knows. -/
theorem recording_after (l₃ : List Entry) {lost : Bool} {e : Json}
    (hrun : runtime.Reaches (pre ++ connectRegistered id owner ssid destination now cell ::
      (l₁ ++ (Action.commitStore cell lost, Answer.stored (some e) true) :: l₂)) s)
    (honce : ∀ x ∈ pre ++ (l₁ ++ (Action.commitStore cell lost, Answer.stored (some e) true) :: l₂),
      x.1.registers id = false) :
    recording cell (l₁ ++ (Action.commitStore cell lost, Answer.stored (some e) true) :: l₃) =
      some e := by
  obtain ⟨t, t', hsolo, hphase, hstep, hreg⟩ := request_step hrun honce
  have hfirst : recording cell l₁ = none := by
    rcases hr : recording cell l₁ with _ | e'
    · rfl
    · have hnot := (hphase.step hsolo hstep hreg).2 (by rw [hr]; rfl)
      simp [accepted] at hnot
  rw [recording, List.findSome?_append, ← recording, hfirst]
  simp [recorded]

/-- The owner's reads report how many events were accepted. -/
theorem read_revision {at' : ℕ} {o : Answer}
    (hrun : runtime.Reaches (pre ++ connectRegistered id owner ssid destination now cell ::
      (l₁ ++ (Action.status id owner at', o) :: l₂)) s)
    (honce : ∀ x ∈ pre ++ (l₁ ++ (Action.status id owner at', o) :: l₂),
      x.1.registers id = false) :
    ∃ j, o = .status j ∧ (j = .obj [("request_id", .str id), ("status", .str "unknown")] ∨
      j.index "operation_revision" = .int (revisionAfter (acceptedCount cell l₁)) ∧
        (j.index "status" = .str "running" ∧ recording cell l₁ = none ∧
            (j.index "event" = .null ∨ (j.index "event").index "operation_revision" =
              .int (revisionAfter (acceptedCount cell l₁))) ∨
          j.index "status" = .str "finished" ∧ ∃ e, recording cell l₁ = some e ∧
            j.index "event" = e ∧
            e.index "operation_revision" = .int (revisionAfter (acceptedCount cell l₁)))) := by
  obtain ⟨t, t', hsolo, hphase, hstep, -⟩ := request_step hrun honce
  cases hstep
  exact ⟨_, rfl, hphase.status at'⟩

end Request

/-- The task of a registration stays in the table until that registration is dropped,
whatever older registrations of its id do. -/
theorem newer_task_stays {log₁ log₂ : List Entry} {kind : TaskKind} {ssid : Option SsidBytes}
    {destination : String} {now : ℕ}
    (hrun : runtime.Reaches
      (log₁ ++ (Action.register id kind owner ssid destination now, Answer.registered cell) :: log₂)
      s)
    (hlast : ∀ e ∈ log₂, e.1.registers id = false) (hdrop : ∀ e ∈ log₂, e.1 ≠ .drop cell) :
    ∃ task, s.tasks.lookup id = some task ∧ task.cancellation = cell := by
  obtain ⟨t₀, t₁, hpre, hregister, hpost⟩ := hrun.step_at
  have hregister' : step t₀ (.register id kind owner ssid destination now) =
    some (t₁, .registered cell) := hregister
  obtain ⟨rfl, hcell⟩ := Prod.mk.inj (Option.some.inj hregister')
  obtain rfl := Answer.registered.inj hcell
  refine hpost.invariant (fun log s => (∀ e ∈ log, e.1.registers id = false) →
    (∀ e ∈ log, e.1 ≠ .drop t₀.cells) →
      ∃ task, s.tasks.lookup id = some task ∧ task.cancellation = t₀.cells)
    (fun _ _ => ⟨_, AList.lookup_insert _, rfl⟩) ?_ hlast hdrop
  intro log t t' a o _ ih hstep hlast hdrop
  obtain ⟨task, htask, hcell⟩ := ih (fun e he => hlast e (List.mem_append_left _ he))
    fun e he => hdrop e (List.mem_append_left _ he)
  exact (step_effect hstep).task_kept htask hcell (hlast (a, o) (by simp)) (hdrop (a, o) (by simp))

end Runtime

end NmDaemon
