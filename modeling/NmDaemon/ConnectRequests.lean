import NmDaemon.Portal
import NmDaemon.RuntimeHistory

/-!
# Connect requests: one terminal event, and cancellation against success

The two guarantees the clients of the runtime build on.

* `connect_request_history` — a request has at most one terminal event, which is all that
  is ever said of it afterwards, and its revisions count the events that were accepted;
* `cancellation_linearised` — a cancellation that comes before the terminal event rules
  out a success, and with it an automatic captive-portal launch; one that comes after it
  does nothing.
-/

namespace NmDaemon

namespace Runtime

variable {id : String} {cell : ℕ} {owner : Option String} {ssid : Option SsidBytes}
  {destination : String} {now : ℕ} {pre post : List Entry} {s s' t t' : DaemonRuntime}

/-! ## The history of a request -/

variable {a : Action} {e : Json} {l₁ l₂ : List Entry} {o : Answer}

/-- What comes after the terminal event of a request repeats it or says nothing. -/
theorem after_terminal {l₃ : List Entry} {lost : Bool}
    (hrun : runtime.Reaches (pre ++ connectRegistered id owner ssid destination now cell ::
      (l₁ ++ (Action.commitStore cell lost, Answer.stored (some e) true) :: (l₂ ++ (a, o) :: l₃))) s)
    (honce : ∀ x ∈ pre ++ (l₁ ++ (Action.commitStore cell lost, Answer.stored (some e) true) ::
      (l₂ ++ (a, o) :: l₃)), x.1.registers id = false) :
    (∀ lost', a = .commitStore cell lost' →
      o = .stored none false ∨ o = .stored (some e) false) ∧
    (∀ event, a = .progress cell event →
      o = .progressed none false ∨ o = .progressed (some e) false) ∧
    (∀ read, a = .status id owner read → ∃ j, o = .status j ∧
      (j.index "status" = .str "unknown" ∨
        j.index "status" = .str "finished" ∧ j.index "event" = e)) := by
  have hrecording := recording_after l₂ hrun honce
  have hsplit : l₁ ++ (Action.commitStore cell lost, Answer.stored (some e) true) ::
      (l₂ ++ (a, o) :: l₃) =
      (l₁ ++ (Action.commitStore cell lost, Answer.stored (some e) true) :: l₂) ++ (a, o) :: l₃ := by
    simp
  rw [hsplit] at hrun honce
  obtain ⟨t, t', -, hphase, hstep, -⟩ := request_step hrun honce
  rw [hrecording] at hphase
  refine ⟨?_, ?_, ?_⟩
  · rintro lost' rfl
    exact (hphase.stored_settled hstep).2
  · rintro event rfl
    exact (hphase.progressed_settled hstep).2
  · rintro read rfl
    obtain ⟨j, rfl, hj⟩ := read_revision hrun honce
    refine ⟨j, rfl, ?_⟩
    rcases hj with rfl | ⟨-, ⟨-, hnone, -⟩ | ⟨hfinished, e', he', hevent, -⟩⟩
    · exact .inl rfl
    · rw [hrecording] at hnone
      cases hnone
    · rw [hrecording] at he'
      obtain rfl := Option.some.inj he'
      exact .inr ⟨hfinished, hevent⟩

/-- An accepted event is reported with the revision it brings the request to. -/
theorem accepted_revision (hrun : runtime.Reaches
      (pre ++ connectRegistered id owner ssid destination now cell :: (l₁ ++ (a, o) :: l₂)) s)
    (honce : ∀ x ∈ pre ++ (l₁ ++ (a, o) :: l₂), x.1.registers id = false)
    (haccepted : accepted cell (a, o) = true) :
    ∃ e, o.event = some e ∧
      e.index "operation_revision" = .int (revisionAfter (acceptedCount cell l₁ + 1)) := by
  obtain ⟨t, t', -, hphase, hstep, -⟩ := request_step hrun honce
  refine hphase.carries hstep ?_ haccepted
  by_contra hnot
  rw [(plain_of_not_isOf (by simpa using hnot) o).1] at haccepted
  cases haccepted

/-- The revisions the owner reads never decrease. -/
theorem reads_mono {l₃ : List Entry} {read₁ read₂ : ℕ} {j₁ j₂ : Json} {r₁ r₂ : ℤ}
    (hrun : runtime.Reaches (pre ++ connectRegistered id owner ssid destination now cell ::
      (l₁ ++ (Action.status id owner read₁, Answer.status j₁) ::
        (l₂ ++ (Action.status id owner read₂, Answer.status j₂) :: l₃))) s)
    (honce : ∀ x ∈ pre ++ (l₁ ++ (Action.status id owner read₁, Answer.status j₁) ::
      (l₂ ++ (Action.status id owner read₂, Answer.status j₂) :: l₃)), x.1.registers id = false)
    (h₁ : j₁.index "operation_revision" = .int r₁) (h₂ : j₂.index "operation_revision" = .int r₂) :
    r₁ ≤ r₂ := by
  -- a read that carries a revision carries the number of events accepted before it
  have hread : ∀ {l l' read j r}, runtime.Reaches (pre ++
        connectRegistered id owner ssid destination now cell ::
          (l ++ (Action.status id owner read, Answer.status j) :: l')) s →
      (∀ x ∈ pre ++ (l ++ (Action.status id owner read, Answer.status j) :: l'),
        x.1.registers id = false) →
      j.index "operation_revision" = .int r → r = revisionAfter (acceptedCount cell l) := by
    intro l l' read j r hrun honce hj
    obtain ⟨j', hj', hcases⟩ := read_revision hrun honce
    obtain rfl := Answer.status.inj hj'
    rcases hcases with rfl | ⟨hrevision, -⟩
    · cases hj
    · rw [hj] at hrevision
      exact Json.int.inj hrevision
  rw [hread hrun honce h₁]
  rw [show l₁ ++ (Action.status id owner read₁, Answer.status j₁) ::
      (l₂ ++ (Action.status id owner read₂, Answer.status j₂) :: l₃) =
      (l₁ ++ (Action.status id owner read₁, Answer.status j₁) :: l₂) ++
        (Action.status id owner read₂, Answer.status j₂) :: l₃ by simp] at hrun honce
  rw [hread hrun honce h₂]
  have hcount : acceptedCount cell l₁ ≤ acceptedCount cell
      (l₁ ++ (Action.status id owner read₁, Answer.status j₁) :: l₂) := by
    rw [acceptedCount, acceptedCount, List.countP_append]
    exact Nat.le_add_right _ _
  exact_mod_cast revisionAfter_mono hcount

/-- **The history of a connect request** that is registered once.

1. After its terminal event was recorded nothing more is recorded or accepted: every
   store answers that event or nothing, and the owner's reads answer `finished` with that
   event or `unknown`.
2. Every accepted event carries the revision it brings the request to: one for the
   registration and one more for each accepted event, up to `2 ^ 64 - 1`.
3. A read by the owner that is not `unknown` has the revision of the events accepted so
   far, and so does the event it shows; before any event it shows none.
4. So the revisions the owner reads never decrease.
5. The task of a registration, of any kind and under any id, stays until that registration
   is dropped, whatever happens to older registrations of its id. -/
theorem connect_request_history
    (hrun : runtime.Run runtime.start
      (pre ++ connectRegistered id owner ssid destination now cell :: post) s)
    (honce : ∀ x ∈ pre ++ post, x.1.registers id = false) :
    (∀ (l₁ l₂ l₃ : List Entry) (lost : Bool) (e : Json) (a : Action) (o : Answer),
      post = l₁ ++ (Action.commitStore cell lost, Answer.stored (some e) true) ::
        (l₂ ++ (a, o) :: l₃) →
      (∀ lost', a = .commitStore cell lost' →
        o = .stored none false ∨ o = .stored (some e) false) ∧
      (∀ event, a = .progress cell event →
        o = .progressed none false ∨ o = .progressed (some e) false) ∧
      (∀ read, a = .status id owner read → ∃ j, o = .status j ∧
        (j.index "status" = .str "unknown" ∨
          j.index "status" = .str "finished" ∧ j.index "event" = e))) ∧
    (∀ (l₁ l₂ : List Entry) (a : Action) (o : Answer), post = l₁ ++ (a, o) :: l₂ →
      accepted cell (a, o) = true → ∃ e, o.event = some e ∧
        e.index "operation_revision" = .int (revisionAfter (acceptedCount cell l₁ + 1))) ∧
    (∀ (l₁ l₂ : List Entry) (read : ℕ) (o : Answer),
      post = l₁ ++ (Action.status id owner read, o) :: l₂ → ∃ j, o = .status j ∧
        (j.index "status" = .str "unknown" ∨
          j.index "operation_revision" = .int (revisionAfter (acceptedCount cell l₁)) ∧
          (j.index "event" = .null ∨ (j.index "event").index "operation_revision" =
            .int (revisionAfter (acceptedCount cell l₁))))) ∧
    (∀ (l₁ l₂ l₃ : List Entry) (read₁ read₂ : ℕ) (j₁ j₂ : Json) (r₁ r₂ : ℤ),
      post = l₁ ++ (Action.status id owner read₁, Answer.status j₁) ::
        (l₂ ++ (Action.status id owner read₂, Answer.status j₂) :: l₃) →
      j₁.index "operation_revision" = .int r₁ → j₂.index "operation_revision" = .int r₂ →
      r₁ ≤ r₂) ∧
    (∀ (log₁ log₂ : List Entry) (id' : String) (kind' : TaskKind) (owner' : Option String)
      (ssid' : Option SsidBytes) (destination' : String) (now' cell' : ℕ) (t : DaemonRuntime),
      runtime.Run runtime.start (log₁ ++ (Action.register id' kind' owner' ssid' destination' now',
        Answer.registered cell') :: log₂) t →
      (∀ x ∈ log₂, x.1.registers id' = false) → (∀ x ∈ log₂, x.1 ≠ .drop cell') →
      ∃ task, t.tasks.lookup id' = some task ∧ task.cancellation = cell') := by
  refine ⟨?_, ?_, ?_, ?_, ?_⟩
  · rintro l₁ l₂ l₃ lost e a o rfl
    exact after_terminal hrun honce
  · rintro l₁ l₂ a o rfl haccepted
    exact accepted_revision hrun honce haccepted
  · rintro l₁ l₂ read o rfl
    obtain ⟨j, rfl, hj⟩ := read_revision hrun honce
    refine ⟨j, rfl, ?_⟩
    rcases hj with rfl | ⟨hrevision, ⟨-, -, hevent⟩ | ⟨-, e, -, hevent, he⟩⟩
    · exact .inl rfl
    · exact .inr ⟨hrevision, hevent⟩
    · exact .inr ⟨hrevision, .inr (by rw [hevent, he])⟩
  · rintro l₁ l₂ l₃ read₁ read₂ j₁ j₂ r₁ r₂ rfl h₁ h₂
    exact reads_mono hrun honce h₁ h₂
  · intro log₁ log₂ id' kind' owner' ssid' destination' now' cell' t hrun' hlast hdrop
    exact newer_task_stays hrun' hlast hdrop

/-! ### A request that succeeds, and one with very many events -/

/-- A progress event and a success, as a worker reports them. -/
def progressEvent : Event where
  value := .obj [("data", .obj [("phase", .str "activating")]), ("event", .str "progress")]
  object := ⟨_, rfl⟩
  data := ⟨_, rfl⟩

def successEvent : Event where
  value := .obj
    [("data", .obj [("phase", .str "connected"), ("result", .obj [("ssid", .str "home")])]),
      ("event", .str "succeeded")]
  object := ⟨_, rfl⟩
  data := ⟨_, rfl⟩

/-- The history of a request with a progress event that succeeds and is read afterwards. -/
def successHistory (e j : Json) : List Entry :=
  [(.progress 0 progressEvent,
      .progressed (some (progressEvent.value.put "operation_revision" (.int 2))) true),
    (.beginStore 0 successEvent, .done),
    (.commitStore 0 false, .stored (some e) true),
    (.status "c" (some ":1") 7, .status j)]

/-- There the owner reads the success, with the third revision. -/
theorem connect_request_history_success :
    ∃ (s : DaemonRuntime) (e j : Json),
      runtime.Run runtime.start
        ([] ++ connectRegistered "c" (some ":1") none "nm" 0 0 :: successHistory e j) s ∧
      j.index "status" = .str "finished" ∧ j.index "event" = e ∧
      j.index "operation_revision" = .int 3 := by
  obtain ⟨s, e, j, hrun, hknown, hrevision⟩ : ∃ s e j, runtime.Run runtime.start
      ([] ++ connectRegistered "c" (some ":1") none "nm" 0 0 :: successHistory e j) s ∧
      j.index "status" ≠ .str "unknown" ∧ j.index "operation_revision" = .int 3 :=
    ⟨_, successEvent.value.put "operation_revision" (.int 3), _, Machine.exec_run _ _
      [.register "c" .connect (some ":1") none "nm" 0, .progress 0 progressEvent,
        .beginStore 0 successEvent, .commitStore 0 false, .status "c" (some ":1") 7] rfl,
      by decide, rfl⟩
  have honce : ∀ x ∈ [] ++ successHistory e j, x.1.registers "c" = false := by
    simp [successHistory, Action.registers]
  have hafter := (connect_request_history hrun honce).1
    [(.progress 0 progressEvent, .progressed _ true), (.beginStore 0 successEvent, .done)] [] []
    false e (.status "c" (some ":1") 7) (.status j) rfl
  obtain ⟨j', hj', hcases⟩ := hafter.2.2 7 rfl
  obtain rfl := Answer.status.inj hj'
  rcases hcases with hunknown | ⟨hfinished, hevent⟩
  · exact absurd hunknown hknown
  · exact ⟨s, e, j, hrun, hfinished, hevent, hrevision⟩

/-- A worker can report progress any number of times. -/
theorem progress_run (n : ℕ) :
    ∃ (post : List Entry) (s : DaemonRuntime) (task : TaskHandle),
      runtime.Reaches
        ([] ++ connectRegistered "c" (some ":1") none "nm" 0 0 :: post) s ∧
      (∀ x ∈ [] ++ post, x.1.registers "c" = false) ∧
      Live "c" 0 (some ":1") s task ∧ task.terminal = false ∧
      task.observationRevision = revisionAfter n ∧ (∀ o, s.evidence "c" o = none) ∧
      s.storing.lookup 0 = none := by
  induction n with
  | zero =>
    exact ⟨[], _, _, Machine.exec_run _ _ [.register "c" .connect (some ":1") none "nm" 0] rfl,
      by simp, ⟨rfl, rfl, rfl, rfl, rfl⟩, rfl, rfl, fun _ => rfl, rfl⟩
  | succ n ih =>
    obtain ⟨post, s, task, hrun, honce, live, hterminal, hrevision, hevidence, hstoring⟩ := ih
    obtain ⟨s', o, hstep, hsame⟩ : ∃ s' o, step s (.progress 0 progressEvent) = some (s', o) ∧
        s'.storing = s.storing := by
      simp only [step, live.worker, hstoring]
      refine ⟨_, _, rfl, ?_⟩
      unfold DaemonRuntime.storeConnectProgress
      split
      · rfl
      split
      · rfl
      split <;> rfl
    obtain ⟨-, live', hevidence'⟩ := live.progressed hterminal hevidence hstep
    refine ⟨post ++ [(.progress 0 progressEvent, o)], s', _, ?_, ?_, live', hterminal, ?_, hevidence',
      by rw [hsame, hstoring]⟩
    · rw [← List.cons_append, ← List.append_assoc]
      exact hrun.snoc hstep
    · intro x hx
      rw [← List.append_assoc] at hx
      rcases List.mem_append.mp hx with hx | hx
      · exact honce x hx
      · rw [List.mem_singleton.mp hx]
        rfl
    · rw [hrevision, saturatingSucc_revisionAfter]

/-- **The revision saturates.** After enough progress events one more is accepted, and the
owner reads the same revision before and after it. -/
theorem revision_saturates :
    ∃ (post : List Entry) (s s' : DaemonRuntime) (e : Json),
      runtime.Run runtime.start
        ([] ++ connectRegistered "c" (some ":1") none "nm" 0 0 :: post) s ∧
      (∀ x ∈ [] ++ post, x.1.registers "c" = false) ∧
      step s (.progress 0 progressEvent) = some (s', .progressed (some e) true) ∧
      (s.requestStatus "c" (some ":1") 0).index "operation_revision" = .int (2 ^ 64 - 1) ∧
      (s'.requestStatus "c" (some ":1") 0).index "operation_revision" = .int (2 ^ 64 - 1) := by
  obtain ⟨post, s, task, hrun, honce, live, hterminal, hrevision, hevidence, hstoring⟩ :=
    progress_run (2 ^ 64 - 2)
  obtain ⟨s', o, hstep⟩ : ∃ s' o, step s (.progress 0 progressEvent) = some (s', o) := by
    simp only [step, live.worker, hstoring]
    exact ⟨_, _, rfl⟩
  obtain ⟨rfl, live', hevidence'⟩ := live.progressed hterminal hevidence hstep
  have hread : ∀ {r task'}, Live "c" 0 (some ":1") r task' → task'.terminal = false →
      (∀ o, r.evidence "c" o = none) →
      (r.requestStatus "c" (some ":1") 0).index "operation_revision" =
        .int task'.observationRevision := by
    intro r task' live hterminal hevidence
    have hfilter : (some task').filter
        (fun task => task.owner = some ":1" ∧ task.terminal = false) = some task' := by
      simp [live.owner, hterminal]
    simp only [DaemonRuntime.requestStatus, hevidence, live.held, hfilter]
    rfl
  have hbefore : task.observationRevision = 2 ^ 64 - 1 := by
    rw [hrevision, revisionAfter]
    omega
  have hafter : saturatingSucc task.observationRevision = 2 ^ 64 - 1 := by
    rw [hbefore, saturatingSucc]
    omega
  refine ⟨post, s, s', _, hrun, honce, hstep, ?_, ?_⟩
  · rw [hread live hterminal hevidence, hbefore]
    rfl
  · rw [hread live' hterminal hevidence', hafter]
    rfl

/-! ## Cancellation first -/

/-- A flag that is set stays set. -/
theorem step_raised (hstep : step s a = some (s', o)) (hcell : cell ∈ s.raised) :
    cell ∈ s'.raised := by
  have hraise : ∀ tasks : List TaskHandle, cell ∈ (s.raise tasks).raised :=
    fun tasks => mem_raise.mpr (.inl hcell)
  cases a with
  | disown c =>
    simp only [step] at hstep
    split at hstep <;> cases hstep
    exact Finset.mem_insert_of_mem hcell
  | commitStore c lost =>
    simp only [step] at hstep
    split at hstep
    · simp only [DaemonRuntime.storeTerminalResult] at hstep
      split at hstep
      · cases hstep
        exact hcell
      split at hstep <;> cases hstep <;> exact hcell
    · cases hstep
  | progress c event =>
    simp only [step] at hstep
    split at hstep
    · simp only [DaemonRuntime.storeConnectProgress] at hstep
      split at hstep
      · cases hstep
        exact hcell
      split at hstep
      · cases hstep
        exact hcell
      split at hstep <;> cases hstep <;> exact hcell
    · cases hstep
  | cancel id owner =>
    simp only [step, keepUnsent, DaemonRuntime.cancelTask] at hstep
    split at hstep <;> cases hstep
    · exact hcell
    · exact hraise _
  | expire id =>
    simp only [step, keepUnsent, DaemonRuntime.expireConnect] at hstep
    split at hstep
    · cases hstep
      exact hcell
    split at hstep <;> cases hstep
    · exact hcell
    · exact hraise _
  | drop c | beginStore c event | submitAbort taken =>
    simp only [step] at hstep
    split at hstep <;> cases hstep
    exact hcell
  | dropOwner owner | ownerChanged owner | forget ssid | shutdown =>
    cases hstep
    exact hraise _
  | _ =>
    cases hstep
    exact hcell

variable {event : Option Json} {n : ℕ}

/-- What is recorded for a request whose flag is set. -/
theorem Phase.stored_raised {lost : Bool} (h : Phase id cell owner t n event)
    (hraised : cell ∈ t.raised)
    (hstep : Runtime.step t (.commitStore cell lost) = some (t', .stored (some e) true)) :
    e.index "event" ≠ .str "succeeded" ∧
      ∃ reported bound, t.storing.lookup cell = some (reported, bound) ∧
        (isSuccess reported.value = true →
          e.index "event" = .str "cancelled" ∧ (e.index "data").get "result" = none) := by
  cases h with
  | running live hterminal hrevision hprogress hevidence =>
    rename_i task
    obtain ⟨reported, bound, hstoring, hanswer, -⟩ := live.stored hterminal hevidence hstep
    have hflag : task.cancellation ∈ t.raised := by rwa [live.cancellation]
    -- the revision does not touch what the event says
    have hindex : ∀ k, k ≠ "operation_revision" → e.index k = (resolved t task reported.value
        (isSuccess reported.value && bound && lost)).index k := by
      intro k hk
      obtain ⟨fields, hfields⟩ := resolved_object t task reported
        (isSuccess reported.value && bound && lost)
      simp only [Answer.stored.injEq, Option.some.injEq, and_true] at hanswer
      rw [hanswer, hfields]
      exact Json.index_put_ne fields _ hk
    obtain ⟨hnot, hcancelled⟩ := resolved_raised hflag reported
      (isSuccess reported.value && bound && lost)
    rw [hindex "event" (by decide), hindex "data" (by decide)]
    exact ⟨hnot, reported, bound, hstoring, hcancelled⟩
  | settled htask hcarries hevidence =>
    have hphase : Phase id cell owner t n (some _) := .settled htask hcarries hevidence
    obtain ⟨-, h | h⟩ := hphase.stored_settled hstep <;> simp at h
  | abandoned gone hevidence => simp [Runtime.step, gone.worker] at hstep

/-- What others read of a request: nothing. -/
theorem Phase.status_other (h : Phase id cell owner s n event) {other : Option String}
    (hother : other ≠ owner) (read : ℕ) :
    s.requestStatus id other read = .obj [("request_id", .str id), ("status", .str "unknown")] := by
  have hfilter : ∀ task : TaskHandle, task.owner = owner →
      (some task).filter (fun task => task.owner = other ∧ task.terminal = false) = none := by
    intro task howner
    simp [howner, hother.symm]
  cases h with
  | running live hterminal hrevision hprogress hevidence =>
    simp only [DaemonRuntime.requestStatus, hevidence, live.held, hfilter _ live.owner]
  | settled htask hcarries hevidence =>
    have hnone : s.evidence id other = none := by
      rcases hev : s.evidence id other with _ | result
      · rfl
      · exact absurd (hevidence other result hev).1 hother
    rcases htask with gone | ⟨task, live, -⟩
    · simp only [DaemonRuntime.requestStatus, hnone, gone.task, Option.filter_none]
    · simp only [DaemonRuntime.requestStatus, hnone, live.held, hfilter _ live.owner]
  | abandoned gone hevidence =>
    simp only [DaemonRuntime.requestStatus, hevidence, gone.task, Option.filter_none]

/-- A request without a success gives no automatic launch. -/
theorem Phase.no_launch (h : Phase id cell owner s n event)
    (hevent : ∀ e, event = some e → e.index "event" ≠ .str "succeeded") (x : Portal.Externals)
    {params : Portal.PrepareParams} (hmode : params.mode = .automatic) (nmOwner : String)
    (status : Portal.ConnectivityStatus) (caller : Option String) (read : ℕ)
    (launchId : Except String String) (now : ℕ) (intent : Portal.Intent) :
    Portal.validate x params nmOwner status (s.requestStatus id caller read) launchId now ≠
      .ok intent := by
  intro hok
  obtain ⟨hfinished, hsucceeded⟩ := Portal.validate_automatic x hmode hok
  have hnot : (Json.obj [("request_id", .str id), ("status", .str "unknown")]).index "status" ≠
      .str "finished" := by
    change Json.str "unknown" ≠ Json.str "finished"
    decide
  by_cases hcaller : caller = owner
  · subst hcaller
    rcases h.status read with hunknown | ⟨-, ⟨hrunning, -⟩ | ⟨-, e, he, hshown, -⟩⟩
    · rw [hunknown] at hfinished
      exact hnot hfinished
    · rw [hrunning] at hfinished
      exact absurd hfinished (by decide)
    · rw [hshown] at hsucceeded
      exact hevent e he hsucceeded
  · rw [h.status_other hcaller] at hfinished
    exact hnot hfinished

/-- Once the flag is set before the terminal event, no later event of the request reports
a success. -/
theorem recording_raised (hrun : runtime.Reaches
      (pre ++ connectRegistered id owner ssid destination now cell :: l₁) t)
    (honce : ∀ x ∈ pre ++ (l₁ ++ l₂), x.1.registers id = false) (hraised : cell ∈ t.raised)
    (hopen : recording cell l₁ = none) (hlater : runtime.Run t l₂ s) :
    cell ∈ s.raised ∧
      ∀ e, recording cell (l₁ ++ l₂) = some e → e.index "event" ≠ .str "succeeded" := by
  refine hlater.invariant (fun l₂ s => (∀ x ∈ pre ++ (l₁ ++ l₂), x.1.registers id = false) →
    cell ∈ s.raised ∧
      ∀ e, recording cell (l₁ ++ l₂) = some e → e.index "event" ≠ .str "succeeded")
    (fun _ => ⟨hraised, fun e he => ?_⟩) ?_ honce
  · rw [List.append_nil, hopen] at he
    cases he
  intro log u u' a o hlog ih hstep honce
  obtain ⟨hraised', hevents⟩ := ih fun x hx => honce x (by
    rw [← List.append_assoc, ← List.append_assoc, List.append_assoc pre]
    exact List.mem_append_left _ hx)
  refine ⟨step_raised hstep hraised', fun e he => ?_⟩
  rw [← List.append_assoc, recording, List.findSome?_append, ← recording,
    List.findSome?_singleton, Option.or_eq_some_iff] at he
  rcases he with he | ⟨hnone, he⟩
  · exact hevents e he
  · -- the event is recorded by this very step, with the flag set
    have hwhole := hrun.append hlog
    rw [List.append_assoc, List.cons_append] at hwhole
    obtain ⟨-, hphase⟩ := request_at hwhole fun x hx => honce x (by
      rw [← List.append_assoc, ← List.append_assoc, List.append_assoc pre]
      exact List.mem_append_left _ hx)
    unfold recorded at he
    split at he
    · rename_i c lost event heq
      obtain ⟨rfl, rfl⟩ := Prod.mk.inj heq
      split_ifs at he with hc
      subst hc
      cases he
      exact (hphase.stored_raised hraised' hstep).1
    · cases he

/-! ## The terminal event first -/

/-- After the terminal event, no live task is the request's or has its flag. -/
theorem Phase.others (h : Phase id cell owner t n (some e)) (hbacked : Backed t) {id' : String}
    {task : TaskHandle} (htask : t.tasks.lookup id' = some task)
    (hterminal : task.terminal = false) : id' ≠ id ∧ task.cancellation ≠ cell := by
  obtain ⟨registration, hworker, hid⟩ := hbacked.task id' task htask
  cases h with
  | settled hended hcarries hevidence =>
  have hne : id' ≠ id := by
    rintro rfl
    rcases hended with gone | ⟨own, live, hown⟩
    · rw [gone.task] at htask
      cases htask
    · obtain rfl := Option.some.inj (live.held.symm.trans htask)
      rw [hown] at hterminal
      cases hterminal
  refine ⟨hne, fun hcell => ?_⟩
  rw [hcell] at hworker
  rcases hended with gone | ⟨own, live, -⟩
  · rw [gone.worker] at hworker
    cases hworker
  · rw [live.worker] at hworker
    cases hworker
    exact hne hid.symm

/-- A cancellation, deadline or owner drop that comes after the terminal event: the
request's flag, its task and the queue of aborts stay as they are, and no cancelled task
is kept for it. -/
theorem Phase.late (h : Phase id cell owner t n (some e)) (hbacked : Backed t)
    (hstep : Runtime.step t a = some (t', o))
    (ha : (∃ caller, a = .cancel id caller) ∨ a = .expire id ∨ ∃ caller, a = .dropOwner caller) :
    (cell ∈ t'.raised ↔ cell ∈ t.raised) ∧ t'.tasks.lookup id = t.tasks.lookup id ∧
      t'.aborts = t.aborts ∧ ∃ more, t'.unsent = t.unsent ++ more ∧ ∀ x ∈ more, x.1 ≠ id := by
  -- no task under the id passes a filter that asks for a live one
  have hnone : ∀ p : TaskHandle → Bool, (∀ task, p task = true → task.terminal = false) →
      (t.tasks.lookup id).filter p = none := by
    intro p hp
    rcases hlookup : t.tasks.lookup id with _ | task
    · rfl
    rcases hpt : p task with _ | _
    · simp [hpt]
    · exact absurd rfl (h.others hbacked hlookup (hp task hpt)).1
  rcases ha with ⟨caller, rfl⟩ | rfl | ⟨caller, rfl⟩
  · simp only [Runtime.step, keepUnsent, DaemonRuntime.cancelTask] at hstep
    rw [hnone _ (by simp +contextual)] at hstep
    cases hstep
    exact ⟨Iff.rfl, rfl, rfl, [], rfl, by simp⟩
  · simp only [Runtime.step, keepUnsent, DaemonRuntime.expireConnect] at hstep
    rw [hnone _ (by simp +contextual)] at hstep
    cases hstep
    exact ⟨Iff.rfl, rfl, rfl, [], rfl, by simp⟩
  · cases hstep
    have howned : ∀ {id' task}, (id', task) ∈ t.tasks.pairs.filter (fun e =>
        e.2.owner = some caller ∧ e.2.terminal = false ∧ (t.evidence e.1 (some caller)).isNone) →
        id' ≠ id ∧ task.cancellation ≠ cell := by
      intro id' task hmem
      obtain ⟨hpair, hp⟩ := List.mem_filter.mp hmem
      simp only [decide_eq_true_eq] at hp
      exact h.others hbacked (Table.mem_pairs.mp hpair) hp.2.1
    refine ⟨?_, rfl, rfl, _, rfl, ?_⟩
    · constructor
      · intro hcell
        rcases mem_raise.mp hcell with hcell | ⟨task, htask, hcell⟩
        · exact hcell
        · obtain ⟨⟨id', task'⟩, hmem, rfl⟩ := List.mem_map.mp htask
          exact absurd hcell (howned hmem).2
      · intro hcell
        exact mem_raise.mpr (.inl hcell)
    · intro x hx
      obtain ⟨⟨id', task⟩, hmem, rfl⟩ := List.mem_map.mp hx
      exact (howned hmem).1

/-- **Cancellation and success are linearised**, for a connect request that is registered
once and reaches `t` and from there `s`.

1. If its flag is set in `t`, by whatever, and no terminal event is recorded yet, then the
   event that is recorded afterwards is no success; if the worker reported one, a
   cancellation without a result is recorded in its place; and no automatic captive-portal
   launch is accepted on what `s` says of the request, whoever asks.
2. If its terminal event is recorded in `s`, then a cancellation, the deadline and the drop
   of an owner leave its flag, its task (with the deadline mark) and the queue of aborts as
   they are, and have nothing of it to be aborted later. -/
theorem cancellation_linearised {l₁ l₂ : List Entry}
    (hrun : runtime.Run runtime.start
      (pre ++ connectRegistered id owner ssid destination now cell :: l₁) t)
    (hlater : runtime.Run t l₂ s) (honce : ∀ x ∈ pre ++ (l₁ ++ l₂), x.1.registers id = false) :
    (cell ∈ t.raised → recording cell l₁ = none →
      (∀ (m₁ m₂ : List Entry) (lost : Bool) (e : Json),
        l₂ = m₁ ++ (Action.commitStore cell lost, Answer.stored (some e) true) :: m₂ →
        e.index "event" ≠ .str "succeeded" ∧
        ∃ u reported bound, runtime.Run t m₁ u ∧
          u.storing.lookup cell = some (reported, bound) ∧
          (isSuccess reported.value = true →
            e.index "event" = .str "cancelled" ∧ (e.index "data").get "result" = none)) ∧
      (∀ (x : Portal.Externals) (params : Portal.PrepareParams) (nmOwner : String)
        (status : Portal.ConnectivityStatus) (caller : Option String) (read : ℕ)
        (launchId : Except String String) (time : ℕ) (intent : Portal.Intent),
        params.mode = .automatic →
        Portal.validate x params nmOwner status (s.requestStatus id caller read) launchId time ≠
          .ok intent)) ∧
    (∀ (e : Json) (a : Action) (o : Answer) (s' : DaemonRuntime),
      recording cell (l₁ ++ l₂) = some e → runtime.step s a = some (s', o) →
      ((∃ caller, a = .cancel id caller) ∨ a = .expire id ∨ ∃ caller, a = .dropOwner caller) →
      (cell ∈ s'.raised ↔ cell ∈ s.raised) ∧ s'.tasks.lookup id = s.tasks.lookup id ∧
        s'.aborts = s.aborts ∧ ∃ more, s'.unsent = s.unsent ++ more ∧ ∀ x ∈ more, x.1 ≠ id) := by
  have hwhole := hrun.append hlater
  rw [List.append_assoc, List.cons_append] at hwhole
  obtain ⟨hsolo, hphase⟩ := request_at hwhole honce
  refine ⟨fun hraised hopen => ⟨?_, ?_⟩, ?_⟩
  · rintro m₁ m₂ lost e rfl
    obtain ⟨u, u', hm₁, hstep, -⟩ := hlater.step_at
    have hbefore : ∀ x ∈ pre ++ (l₁ ++ m₁), x.1.registers id = false := fun x hx =>
      honce x (by
        rw [← List.append_assoc l₁, ← List.append_assoc pre]
        exact List.mem_append_left _ hx)
    have hwhole' := hrun.append hm₁
    rw [List.append_assoc, List.cons_append] at hwhole'
    obtain ⟨-, hphase'⟩ := request_at hwhole' hbefore
    obtain ⟨hraised', -⟩ := recording_raised hrun hbefore hraised hopen hm₁
    obtain ⟨hnot, reported, bound, hstoring, hcancelled⟩ := hphase'.stored_raised hraised' hstep
    exact ⟨hnot, u, reported, bound, hm₁, hstoring, hcancelled⟩
  · intro x params nmOwner status caller read launchId time intent hmode
    exact hphase.no_launch (recording_raised hrun honce hraised hopen hlater).2 x hmode nmOwner
      status caller read launchId time intent
  · intro e a o s' hrecorded hstep ha
    rw [hrecorded] at hphase
    exact hphase.late hsolo.backed hstep ha

/-- A success that was reported just before the caller cancelled: what is recorded after
the cancellation is a cancellation without a result. -/
theorem cancellation_linearised_race :
    ∃ (t s : DaemonRuntime) (e : Json),
      runtime.Run runtime.start
        ([] ++ connectRegistered "c" (some ":1") none "nm" 0 0 ::
          [(.beginStore 0 successEvent, .done),
            (.cancel "c" (some ":1"), .cancelled [("c", ⟨"nm", .connect, none⟩)])]) t ∧
      runtime.Run t [(.commitStore 0 false, .stored (some e) true)] s ∧
      e.index "event" = .str "cancelled" ∧ (e.index "data").get "result" = none := by
  obtain ⟨t, s, e, hrun, hlater, hraised, hstoring⟩ : ∃ t s e, runtime.Run runtime.start
        ([] ++ connectRegistered "c" (some ":1") none "nm" 0 0 ::
          [(.beginStore 0 successEvent, .done),
            (.cancel "c" (some ":1"), .cancelled [("c", ⟨"nm", .connect, none⟩)])]) t ∧
      runtime.Run t [(.commitStore 0 false, .stored (some e) true)] s ∧ 0 ∈ t.raised ∧
      t.storing.lookup 0 = some (successEvent, true) :=
    ⟨_, _, _, Machine.exec_run _ _ [.register "c" .connect (some ":1") none "nm" 0,
        .beginStore 0 successEvent, .cancel "c" (some ":1")] rfl,
      Machine.exec_run _ _ [.commitStore 0 false] rfl, by decide, rfl⟩
  have honce : ∀ x ∈ [] ++ ([(Action.beginStore 0 successEvent, Answer.done),
      (.cancel "c" (some ":1"), .cancelled [("c", ⟨"nm", .connect, none⟩)])] ++
      [(.commitStore 0 false, .stored (some e) true)]), x.1.registers "c" = false := by
    simp [Action.registers]
  obtain ⟨hfirst, -⟩ := cancellation_linearised hrun hlater honce
  obtain ⟨-, u, reported, bound, hnil, hu, hcancelled⟩ := (hfirst hraised rfl).1 [] [] false e rfl
  rw [hnil.nil_inv] at hu
  obtain ⟨rfl, -⟩ := Prod.mk.inj (Option.some.inj (hstoring.symm.trans hu))
  exact ⟨t, s, e, hrun, hlater, hcancelled rfl⟩

/-- A failure, as a worker reports it: with the result of the attempt. -/
def failureEvent : Event where
  value := .obj
    [("data", .obj [("phase", .str "failed"), ("result", .obj [("ssid", .str "home")])]),
      ("event", .str "failed")]
  object := ⟨_, rfl⟩
  data := ⟨_, rfl⟩

/-- **A cancelled failure keeps its result.** The flag is set before the terminal event is
recorded, and the event that is recorded carries a result. -/
theorem cancelled_failure_keeps_result :
    ∃ (t s : DaemonRuntime) (e : Json),
      runtime.Run runtime.start
        ([] ++ connectRegistered "c" (some ":1") none "nm" 0 0 ::
          [(.cancel "c" (some ":1"), .cancelled [("c", ⟨"nm", .connect, none⟩)]),
            (.beginStore 0 failureEvent, .done)]) t ∧
      0 ∈ t.raised ∧
      runtime.Run t [(.commitStore 0 false, .stored (some e) true)] s ∧
      e.index "event" = .str "failed" ∧
      (e.index "data").get "result" = some (.obj [("ssid", .str "home")]) :=
  ⟨_, _, _, Machine.exec_run _ _ [.register "c" .connect (some ":1") none "nm" 0,
      .cancel "c" (some ":1"), .beginStore 0 failureEvent] rfl, by decide,
    Machine.exec_run _ _ [.commitStore 0 false] rfl, rfl, rfl⟩

end Runtime

end NmDaemon
