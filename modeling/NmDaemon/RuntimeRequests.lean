import NmDaemon.Runtime

/-!
# What a step of the runtime does to its tables

A request is followed through two tables with independent lifetimes, the tasks and the
retained results. Here is what any action can do to them, once and for all.

* `step_effect` — the few things a step can do (`Effect`);
* `Backed`, `Solo`, `Unused` — which registrations tasks and ids belong to, kept by every
  step;
* `step_quiet` — what is not done by a request's own workers leaves it alone, except that
  a retained result may go and the deadline may be marked.
-/

namespace NmDaemon

namespace Runtime

/-! ## Ids and registrations -/

/-- The action registers a task under this id. -/
def Action.registers (requestId : String) : Action → Bool
  | .register id _ _ _ _ _ => id = requestId
  | _ => false

/-- Every task has a live registration with its flag, and flags are not reused. -/
structure Backed (s : DaemonRuntime) : Prop where
  task : ∀ id task, s.tasks.lookup id = some task →
    ∃ registration, s.workers.lookup task.cancellation = some registration ∧
      registration.requestId = id
  worker : ∀ cell registration, s.workers.lookup cell = some registration → cell < s.cells

/-- No task, registration or result belongs to the request. -/
structure Unused (requestId : String) (s : DaemonRuntime) : Prop where
  task : s.tasks.lookup requestId = none
  worker : ∀ cell registration, s.workers.lookup cell = some registration →
    registration.requestId ≠ requestId
  evidence : ∀ owner, s.evidence requestId owner = none

/-- Only the registration with flag `cell` belongs to the request. -/
structure Solo (requestId : String) (cell : ℕ) (s : DaemonRuntime) : Prop where
  backed : Backed s
  old : cell < s.cells
  worker : ∀ c registration, s.workers.lookup c = some registration →
    registration.requestId = requestId → c = cell

/-! ## What the critical sections leave alone -/

variable {cell : ℕ} {s : DaemonRuntime}

theorem mem_raise {tasks : List TaskHandle} :
    cell ∈ (s.raise tasks).raised ↔ cell ∈ s.raised ∨ ∃ task ∈ tasks, task.cancellation = cell := by
  simp [DaemonRuntime.raise]

/-- The event an entry of a history records as the result of the worker's request. -/
def recorded (cell : ℕ) : Entry → Option Json
  | (.commitStore c _, .stored (some event) true) => if c = cell then some event else none
  | _ => none

/-- The entry accepts a progress or terminal event of the worker. -/
def accepted (cell : ℕ) : Entry → Bool
  | (.commitStore c _, .stored _ true) => c = cell
  | (.progress c _, .progressed _ true) => c = cell
  | _ => false

/-- The event a store answers. -/
def Answer.event : Answer → Option Json
  | .stored answer _ => answer
  | .progressed answer _ => answer
  | _ => none

/-- The tables and the supply of flags are the same. -/
structure SameTables (s s' : DaemonRuntime) : Prop where
  tasks : s'.tasks = s.tasks
  workers : s'.workers = s.workers
  results : s'.results = s.results
  cells : s'.cells = s.cells

/-- What an action can do to the tables. -/
inductive Effect (s : DaemonRuntime) : Action → Answer → DaemonRuntime → Prop
  | none {a : Action} {o : Answer} {s' : DaemonRuntime} (same : SameTables s s')
      (hplain : ∀ cell, accepted cell (a, o) = false) : Effect s a o s'
  | register (id : String) (kind : TaskKind) (owner : Option String) (ssid : Option SsidBytes)
      (destination : String) (now : ℕ) :
      Effect s (.register id kind owner ssid destination now) (.registered s.cells)
        (s.register id kind owner ssid destination now)
  | drop {cell : ℕ} {registration : Registration}
      (hworker : s.workers.lookup cell = some registration) :
      Effect s (.drop cell) .done (s.dropRegistration cell registration)
  | record {cell : ℕ} {lost : Bool} {registration : Registration} {answer : Json}
      {result : TerminalRequestResult} {s' : DaemonRuntime}
      (hworker : s.workers.lookup cell = some registration)
      (htasks : s'.tasks = s.tasks ∨ ∃ task revision,
        s.tasks.lookup registration.requestId = some task ∧
        s'.tasks = AList.insert registration.requestId
          { task with terminal := true, observationRevision := revision } s.tasks)
      (hresults : s'.results =
        s.results.insert (registration.requestId, registration.owner) result)
      (hworkers : s'.workers = s.workers) (hcells : s'.cells = s.cells) :
      Effect s (.commitStore cell lost) (.stored (some answer) true) s'
  | accept {cell : ℕ} {event : Event} {registration : Registration} {answer : Json}
      {task : TaskHandle} {revision : ℕ}
      (hworker : s.workers.lookup cell = some registration)
      (htask : s.tasks.lookup registration.requestId = some task) :
      Effect s (.progress cell event) (.progressed (some answer) true)
        { s with
          tasks := AList.insert registration.requestId
            { task with observationRevision := revision, progress := some answer } s.tasks }
  | expire {id : String} {o : Answer} {task : TaskHandle} {s' : DaemonRuntime}
      (htask : s.tasks.lookup id = some task) (hterminal : task.terminal = false)
      (htasks : s'.tasks = AList.insert id { task with timedOut := true } s.tasks)
      (hworkers : s'.workers = s.workers) (hresults : s'.results = s.results)
      (hcells : s'.cells = s.cells) : Effect s (.expire id) o s'
  | evict (id : String) (owner : Option String) :
      Effect s (.evict id owner) .done
        { s with results := s.results.erase (id, owner) }

variable {o : Answer} {s' : DaemonRuntime}

theorem commitStore_effect {lost : Bool} (h : step s (.commitStore cell lost) = some (s', o)) :
    Effect s (.commitStore cell lost) o s' := by
  simp only [step] at h
  rcases hw : s.workers.lookup cell with _ | registration
  · simp [hw] at h
  rcases hst : s.storing.lookup cell with _ | ⟨event, bound⟩
  · simp [hw, hst] at h
  simp only [hw, hst, Option.some.injEq, Prod.mk.injEq] at h
  obtain ⟨rfl, rfl⟩ := h
  simp only [DaemonRuntime.storeTerminalResult]
  split
  · exact .none ⟨rfl, rfl, rfl, rfl⟩ fun _ => rfl
  split
  · exact .none ⟨rfl, rfl, rfl, rfl⟩ fun _ => rfl
  refine .record hw ?_ rfl rfl rfl
  -- the task is marked terminal if it is the one the store is for
  split
  · rename_i task htask
    obtain ⟨htask, -⟩ := Option.filter_eq_some_iff.mp htask
    exact .inr ⟨task, _, (Option.filter_eq_some_iff.mp htask).1, rfl⟩
  · exact .inl rfl

theorem progress_effect {event : Event} (h : step s (.progress cell event) = some (s', o)) :
    Effect s (.progress cell event) o s' := by
  simp only [step] at h
  rcases hw : s.workers.lookup cell with _ | registration
  · simp [hw] at h
  rcases hst : s.storing.lookup cell with _ | storing
  · simp only [hw, hst, Option.some.injEq, Prod.mk.injEq] at h
    obtain ⟨rfl, rfl⟩ := h
    simp only [DaemonRuntime.storeConnectProgress]
    split
    · exact .none ⟨rfl, rfl, rfl, rfl⟩ fun _ => rfl
    rename_i task htask
    split
    · exact .none ⟨rfl, rfl, rfl, rfl⟩ fun _ => rfl
    split
    · exact .none ⟨rfl, rfl, rfl, rfl⟩ fun _ => rfl
    · exact .accept hw (Option.filter_eq_some_iff.mp htask).1
  · simp [hw, hst] at h

variable {id : String}

theorem expire_effect (h : step s (.expire id) = some (s', o)) : Effect s (.expire id) o s' := by
  simp only [step, keepUnsent, DaemonRuntime.expireConnect, Option.some.injEq, Prod.mk.injEq] at h
  obtain ⟨rfl, rfl⟩ := h
  split
  · exact .none ⟨rfl, rfl, rfl, rfl⟩ fun _ => rfl
  rename_i task htask
  obtain ⟨htask, hp⟩ := Option.filter_eq_some_iff.mp htask
  simp only [decide_eq_true_eq] at hp
  split
  · exact .none ⟨rfl, rfl, rfl, rfl⟩ fun _ => rfl
  · exact .expire htask hp.2 rfl rfl rfl rfl

variable {a : Action}

/-- **What a step can do** to the tables. -/
theorem step_effect (h : step s a = some (s', o)) : Effect s a o s' := by
  cases a with
  | commitStore cell lost => exact commitStore_effect h
  | progress cell event => exact progress_effect h
  | expire id => exact expire_effect h
  | drop cell =>
    simp only [step] at h
    split at h
    · cases h
      exact .drop ‹_›
    · cases h
  | cancel id owner =>
    simp only [step, keepUnsent, DaemonRuntime.cancelTask] at h
    split at h <;> cases h <;> exact .none ⟨rfl, rfl, rfl, rfl⟩ fun _ => rfl
  | disown cell | beginStore cell event | submitAbort taken =>
    simp only [step] at h
    split at h <;> cases h
    exact .none ⟨rfl, rfl, rfl, rfl⟩ fun _ => rfl
  | register id kind owner ssid destination now =>
    cases h
    exact .register id kind owner ssid destination now
  | evict id owner =>
    cases h
    exact .evict id owner
  | _ =>
    cases h
    exact .none ⟨rfl, rfl, rfl, rfl⟩ fun _ => rfl

/-! ## Registrations along a run -/

variable {task : TaskHandle}

/-- Changing a task but not its flag keeps the tables backed. -/
theorem Backed.insert (h : Backed s) {task' : TaskHandle}
    (htask : s.tasks.lookup id = some task)
    (htasks : s'.tasks = s.tasks.insert id task')
    (hcell : task'.cancellation = task.cancellation) (hworkers : s'.workers = s.workers)
    (hcells : s'.cells = s.cells) : Backed s' := by
  refine ⟨fun id' other hother => ?_, fun c registration hc => ?_⟩
  · rw [htasks, Table.lookup_insert_ite] at hother
    rw [hworkers]
    split_ifs at hother with heq
    · cases hother
      rw [heq, hcell]
      exact h.task id task htask
    · exact h.task id' other hother
  · rw [hworkers] at hc
    rw [hcells]
    exact h.worker c registration hc

theorem Backed.step (h : Backed s) (heffect : Effect s a o s') : Backed s' := by
  cases heffect with
  | none same _ =>
    refine ⟨fun id task htask => ?_, fun c registration hc => ?_⟩
    · rw [same.tasks] at htask
      rw [same.workers]
      exact h.task id task htask
    · rw [same.workers] at hc
      rw [same.cells]
      exact h.worker c registration hc
  | register id kind owner ssid destination now =>
    refine ⟨fun id' task htask => ?_, fun c registration hc => ?_⟩
    · simp only [DaemonRuntime.register, Table.lookup_insert_ite] at htask ⊢
      split_ifs at htask with heq
      · cases htask
        exact ⟨_, if_pos rfl, heq.symm⟩
      · obtain ⟨registration, hc, hid⟩ := h.task id' task htask
        exact ⟨registration, by rw [if_neg (h.worker _ _ hc).ne, hc], hid⟩
    · simp only [DaemonRuntime.register, Table.lookup_insert_ite] at hc ⊢
      split_ifs at hc with heq
      · omega
      · exact (h.worker c registration hc).trans (Nat.lt_succ_self _)
  | drop hworker =>
    rename_i cell registration
    refine ⟨fun id task htask => ?_, fun c other hc => ?_⟩
    · -- a task with the dropped flag would be the registration's own, and gone
      have hkept : s.tasks.lookup id = some task ∧ task.cancellation ≠ cell := by
        simp only [DaemonRuntime.dropRegistration] at htask
        split_ifs at htask with hown
        · rw [Table.lookup_erase_ite] at htask
          split_ifs at htask with heq
          refine ⟨htask, fun hcell => heq ?_⟩
          obtain ⟨other, hother, hid⟩ := h.task id task htask
          rw [hcell, hworker] at hother
          cases hother
          exact hid.symm
        · refine ⟨htask, fun hcell => hown ?_⟩
          obtain ⟨other, hother, hid⟩ := h.task id task htask
          rw [hcell, hworker] at hother
          cases hother
          rw [hid, htask]
          simpa using hcell
      obtain ⟨other, hother, hid⟩ := h.task id task hkept.1
      refine ⟨other, ?_, hid⟩
      simp only [DaemonRuntime.dropRegistration, Table.lookup_erase_ite]
      rw [if_neg hkept.2, hother]
    · simp only [DaemonRuntime.dropRegistration, Table.lookup_erase_ite] at hc ⊢
      split_ifs at hc
      exact h.worker c other hc
  | record hworker htasks hresults hworkers hcells =>
    rcases htasks with htasks | ⟨task, revision, htask, htasks⟩
    · refine ⟨fun id task htask => ?_, fun c registration hc => ?_⟩
      · rw [htasks] at htask
        rw [hworkers]
        exact h.task id task htask
      · rw [hworkers] at hc
        rw [hcells]
        exact h.worker c registration hc
    · exact h.insert htask htasks rfl hworkers hcells
  | accept hworker htask => exact h.insert htask rfl rfl rfl rfl
  | expire htask _ htasks hworkers _ hcells => exact h.insert htask htasks rfl hworkers hcells
  | evict id owner => exact ⟨h.task, h.worker⟩

/-- The registrations after a step: those before it, or the new one. -/
theorem Effect.worker (heffect : Effect s a o s') {c : ℕ} {registration : Registration}
    (hc : s'.workers.lookup c = some registration) :
    s.workers.lookup c = some registration ∨
      a.registers registration.requestId = true ∧ c = s.cells := by
  cases heffect with
  | none same _ => exact .inl (same.workers ▸ hc)
  | register id kind owner ssid destination now =>
    simp only [DaemonRuntime.register, Table.lookup_insert_ite] at hc
    split_ifs at hc with heq
    · cases hc
      exact .inr ⟨by simp [Action.registers], heq⟩
    · exact .inl hc
  | drop hworker =>
    simp only [DaemonRuntime.dropRegistration, Table.lookup_erase_ite] at hc
    split_ifs at hc
    exact .inl hc
  | record _ _ _ hworkers _ => exact .inl (hworkers ▸ hc)
  | expire _ _ _ hworkers _ _ => exact .inl (hworkers ▸ hc)
  | accept _ _ => exact .inl hc
  | evict id owner => exact .inl hc

/-- Where a task comes from: it was there, for the same request, or it is new. -/
theorem Effect.task_origin (heffect : Effect s a o s')
    (htask : s'.tasks.lookup id = some task) :
    (∃ old, s.tasks.lookup id = some old ∧ old.kind = task.kind ∧
        old.targetSsid = task.targetSsid ∧ old.cancellation = task.cancellation) ∨
      task.cancellation = s.cells ∧ ∃ owner destination now,
        a = .register id task.kind owner task.targetSsid destination now := by
  have hsame : s.tasks.lookup id = some task → ∃ old, s.tasks.lookup id = some old ∧
      old.kind = task.kind ∧ old.targetSsid = task.targetSsid ∧
      old.cancellation = task.cancellation := fun h => ⟨task, h, rfl, rfl, rfl⟩
  -- a task that is changed stays that of its request
  have hinsert : ∀ id' old new, s.tasks.lookup id' = some old →
      s'.tasks = s.tasks.insert id' new → old.kind = new.kind →
      old.targetSsid = new.targetSsid → old.cancellation = new.cancellation →
      ∃ old, s.tasks.lookup id = some old ∧ old.kind = task.kind ∧
        old.targetSsid = task.targetSsid ∧ old.cancellation = task.cancellation := by
    intro id' old new hold htasks hkind hssid hcell
    rw [htasks, Table.lookup_insert_ite] at htask
    split at htask
    · rename_i hid
      cases htask
      exact ⟨old, hid ▸ hold, hkind, hssid, hcell⟩
    · exact hsame htask
  cases heffect with
  | none same _ => exact .inl (hsame (same.tasks ▸ htask))
  | register id' kind owner ssid destination now =>
    rw [DaemonRuntime.register, Table.lookup_insert_ite] at htask
    split at htask
    · rename_i hid
      cases htask
      exact .inr ⟨rfl, owner, destination, now, by rw [hid]⟩
    · exact .inl (hsame htask)
  | drop hworker =>
    simp only [DaemonRuntime.dropRegistration] at htask
    split at htask
    · rw [Table.lookup_erase_ite] at htask
      split at htask
      · cases htask
      · exact .inl (hsame htask)
    · exact .inl (hsame htask)
  | record hworker htasks _ _ _ =>
    rcases htasks with htasks | ⟨old, revision, hold, htasks⟩
    · exact .inl (hsame (htasks ▸ htask))
    · exact .inl (hinsert _ old _ hold htasks rfl rfl rfl)
  | accept hworker hold => exact .inl (hinsert _ _ _ hold rfl rfl rfl rfl)
  | expire hold _ htasks _ _ _ => exact .inl (hinsert _ _ _ hold htasks rfl rfl rfl)
  | evict => exact .inl (hsame htask)

theorem Effect.cells (heffect : Effect s a o s') : s.cells ≤ s'.cells := by
  cases heffect with
  | none same _ => exact same.cells.ge
  | register => exact Nat.le_succ _
  | record _ _ _ _ hcells => exact hcells.ge
  | expire _ _ _ _ _ hcells => exact hcells.ge
  | _ => exact le_rfl

theorem Solo.step (h : Solo id cell s) (heffect : Effect s a o s') (hother : a.registers id = false) :
    Solo id cell s' := by
  refine ⟨h.backed.step heffect, h.old.trans_le heffect.cells, fun c registration hc hid => ?_⟩
  rcases heffect.worker hc with hc | ⟨hreg, -⟩
  · exact h.worker c registration hc hid
  · rw [hid, hother] at hreg
    cases hreg

/-- How a request is left by what is not its own: its task at most marked as timed out,
its results at most lost. -/
structure Quiet (id : String) (s s' : DaemonRuntime) : Prop where
  task : s'.tasks.lookup id = s.tasks.lookup id ∨
    ∃ task, s.tasks.lookup id = some task ∧ task.terminal = false ∧
      s'.tasks.lookup id = some { task with timedOut := true }
  evidence : ∀ owner, s'.evidence id owner = s.evidence id owner ∨ s'.evidence id owner = none

/-- The worker with this flag takes the action. -/
def Action.isOf (cell : ℕ) : Action → Bool
  | .drop c => c = cell
  | .commitStore c _ => c = cell
  | .progress c _ => c = cell
  | _ => false

/-- **Frame.** Whatever its own workers do not do leaves a request alone. -/
theorem step_quiet (heffect : Effect s a o s') (hreg : a.registers id = false)
    (hown : ∀ c registration, s.workers.lookup c = some registration →
      a.isOf c = true → id ≠ registration.requestId) : Quiet id s s' := by
  cases heffect with
  | none same _ =>
    refine ⟨.inl (by rw [same.tasks]), fun owner => .inl ?_⟩
    rw [DaemonRuntime.evidence, same.results, DaemonRuntime.evidence]
  | register id' kind owner ssid destination now =>
    have hid : id ≠ id' := by simpa [Action.registers, eq_comm] using hreg
    refine ⟨.inl ?_, fun owner => .inl rfl⟩
    rw [DaemonRuntime.register, Table.lookup_insert_ite, if_neg hid]
  | drop hworker =>
    have hid := hown _ _ hworker (by simp [Action.isOf])
    refine ⟨.inl ?_, fun owner => .inl rfl⟩
    rw [DaemonRuntime.dropRegistration]
    split_ifs
    · rw [Table.lookup_erase_ite, if_neg hid]
    · rfl
  | record hworker htasks hresults _ _ =>
    have hid := hown _ _ hworker (by simp [Action.isOf])
    refine ⟨.inl ?_, fun owner => .inl ?_⟩
    · rcases htasks with htasks | ⟨task, revision, -, htasks⟩
      · rw [htasks]
      · rw [htasks, Table.lookup_insert_ite, if_neg hid]
    · rw [DaemonRuntime.evidence, hresults, Table.lookup_insert_ite,
        if_neg fun heq => hid (congrArg Prod.fst heq), DaemonRuntime.evidence]
  | accept hworker _ =>
    have hid := hown _ _ hworker (by simp [Action.isOf])
    exact ⟨.inl (by rw [Table.lookup_insert_ite, if_neg hid]), fun _ => .inl rfl⟩
  | expire htask hterminal htasks _ hresults _ =>
    refine ⟨?_, fun owner => .inl ?_⟩
    · rw [htasks, Table.lookup_insert_ite]
      split_ifs with heq
      · rw [heq]
        exact .inr ⟨_, htask, hterminal, rfl⟩
      · exact .inl rfl
    · rw [DaemonRuntime.evidence, hresults, DaemonRuntime.evidence]
  | evict id' owner' =>
    refine ⟨.inl rfl, fun owner => ?_⟩
    rw [DaemonRuntime.evidence, Table.lookup_erase_ite]
    split_ifs
    · exact .inr rfl
    · exact .inl rfl

/-- Only its own drop ends a registration. -/
theorem Effect.worker_same (heffect : Effect s a o s') (hold : cell < s.cells)
    (hdrop : a ≠ .drop cell) : s'.workers.lookup cell = s.workers.lookup cell := by
  cases heffect with
  | none same _ => rw [same.workers]
  | register id kind owner ssid destination now =>
    rw [DaemonRuntime.register, Table.lookup_insert_ite, if_neg hold.ne]
  | drop hworker =>
    rw [DaemonRuntime.dropRegistration, Table.lookup_erase_ite, if_neg]
    rintro rfl
    exact hdrop rfl
  | record _ _ _ hworkers _ => rw [hworkers]
  | expire _ _ _ hworkers _ _ => rw [hworkers]
  | accept => rfl
  | evict => rfl

/-- A task stays, with its flag, until its registration is dropped or its id registered
again. -/
theorem Effect.task_kept (heffect : Effect s a o s') (htask : s.tasks.lookup id = some task)
    (hcell : task.cancellation = cell) (hreg : a.registers id = false) (hdrop : a ≠ .drop cell) :
    ∃ task', s'.tasks.lookup id = some task' ∧ task'.cancellation = cell := by
  -- an insertion for the id keeps the flag, one for another id keeps the task
  have hinsert : ∀ id' new, (∀ old, s.tasks.lookup id' = some old →
      new.cancellation = old.cancellation) → s'.tasks = s.tasks.insert id' new →
      ∃ task', s'.tasks.lookup id = some task' ∧ task'.cancellation = cell := by
    intro id' new hsame htasks
    rw [htasks, Table.lookup_insert_ite]
    split_ifs with heq
    · exact ⟨new, rfl, by rw [hsame task (heq ▸ htask), hcell]⟩
    · exact ⟨task, htask, hcell⟩
  cases heffect with
  | none same _ => exact ⟨task, by rw [same.tasks, htask], hcell⟩
  | register id' kind owner ssid destination now =>
    have hid : id ≠ id' := by simpa [Action.registers, eq_comm] using hreg
    exact ⟨task, by rw [DaemonRuntime.register, Table.lookup_insert_ite, if_neg hid, htask], hcell⟩
  | drop hworker =>
    rename_i c registration
    have hc : c ≠ cell := fun heq => hdrop (by rw [heq])
    refine ⟨task, ?_, hcell⟩
    rw [DaemonRuntime.dropRegistration]
    split_ifs with hown
    · rw [Table.lookup_erase_ite, if_neg, htask]
      rintro rfl
      rw [htask] at hown
      exact hc (by simpa [hcell, eq_comm] using hown)
    · exact htask
  | record _ htasks _ _ _ =>
    rcases htasks with htasks | ⟨old, revision, hold, htasks⟩
    · exact ⟨task, by rw [htasks, htask], hcell⟩
    · refine hinsert _ _ (fun old' hold' => ?_) htasks
      rw [← Option.some.inj (hold.symm.trans hold')]
  | accept _ hold =>
    refine hinsert _ _ (fun old' hold' => ?_) rfl
    rw [← Option.some.inj (hold.symm.trans hold')]
  | expire hold _ htasks _ _ _ =>
    refine hinsert _ _ (fun old' hold' => ?_) htasks
    rw [← Option.some.inj (hold.symm.trans hold')]
  | evict id' owner' => exact ⟨task, htask, hcell⟩

/-- An id that was never registered stays unused. -/
theorem Unused.step (h : Unused id s) (heffect : Effect s a o s') (hreg : a.registers id = false) :
    Unused id s' := by
  have hquiet := step_quiet heffect hreg fun c registration hc _ => (h.worker c registration hc).symm
  refine ⟨?_, fun c registration hc hid => ?_, fun owner => ?_⟩
  · rcases hquiet.task with htask | ⟨task, htask, -⟩
    · rw [htask, h.task]
    · rw [h.task] at htask
      cases htask
  · rcases heffect.worker hc with hc | ⟨hnew, -⟩
    · exact h.worker c registration hc hid
    · rw [hid, hreg] at hnew
      cases hnew
  · rcases hquiet.evidence owner with he | he
    · rw [he, h.evidence]
    · exact he

end Runtime

end NmDaemon
