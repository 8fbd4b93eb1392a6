import NmDaemon.ConnectWorkflow

/-!
# What a connect request comes to

The connect workflow under every cancellation time and every answer to its questions, with
events that can be emitted. The `record` of a run has the events, what became of each
candidate together with the cancellation flag at the time it returned, and what the
workflow read from the flag itself.

* `surroundings` — a cancellation flag that is set at some time or never;
* `Prior`, `Concluded` — what is known between two candidates, and at the end;
* `connect_concluded` — every run ends with one terminal event that fits its outcome.
-/

namespace NmDaemon

namespace Connect

open Client (Prog Service Exec Event Ends Assertion Stable ask)
open Admission (ConnectFailureReason)

/-! ## Surroundings and records -/

/-- A cancellation flag, which the workflow was given or not, and events that are emitted.
Others can set the flag at any time. -/
def surroundings (watched : Bool) : Service Bool Ask Reply Unit where
  serve
    | flag, .cancelled, (answer : Bool) => if answer = (watched && flag) then some flag else none
    | flag, .emit _, .ok _ => some flag
    | _, .emit _, .error _ => none
    | flag, _, _ => some flag
  rival _ _ := some true

/-- A candidate that was tried, with the cancellation flag at the time it returned. -/
structure Tried : Type where
  candidate : ConnectCandidate
  result : Except ErrorReport ConnectResult
  flagged : Bool

structure Record : Type where
  events : List ConnectEvent
  tried : List Tried
  /-- what was read from the cancellation flag -/
  checks : List Bool

def Record.empty : Record := ⟨[], [], []⟩

def observe (v : Record) : Event Bool Ask Reply Unit → Record
  | .own _ (.emit event) _ => { v with events := v.events ++ [event] }
  | .own flag (.candidate candidate _ _ _) reply =>
    { v with tried := v.tried ++ [⟨candidate, reply.2, flag⟩] }
  | .own _ .cancelled answer => { v with checks := v.checks ++ [answer] }
  | _ => v

/-- What happened in a run. -/
def record (history : List (Event Bool Ask Reply Unit)) : Record := history.foldl observe .empty

theorem record_snoc (history : List (Event Bool Ask Reply Unit)) (e : Event Bool Ask Reply Unit) :
    record (history ++ [e]) = observe (record history) e := by
  simp [record, List.foldl_append]

/-- This is what happened so far. -/
def At (v : Record) : Assertion Bool Ask Reply Unit := fun history flag =>
  record history = v ∧ ∀ t ∈ v.tried, t.flagged = true → flag = true

variable {watched : Bool} {v : Record} {α : Type}

/-- The flag is never taken back. -/
theorem stable_at : Stable (surroundings watched) (At v) := by
  rintro history flag a flag' ⟨hrecord, -⟩ hstep
  cases hstep
  exact ⟨by rw [record_snoc, hrecord]; rfl, fun _ _ _ => rfl⟩

/-- A part of the workflow that does not fail: what holds before it, and of its result. -/
abbrev Yields (watched : Bool) (P : Assertion Bool Ask Reply Unit) (p : Workflow α)
    (Q : α → Assertion Bool Ask Reply Unit) : Prop :=
  Ends (surroundings watched) (fun _ _ _ _ => True) P p Q fun _ _ _ => False

/-! ## Questions -/

theorem ends_emit (event : ConnectEvent) :
    Yields watched (At v) (emit event)
      (fun _ => At { v with events := v.events ++ [event] }) := by
  refine .ask stable_at ?_
  rintro history flag reply flag' ⟨rfl, hflag⟩ hserve
  cases reply with
  | error e => cases hserve
  | ok u =>
    cases hserve
    exact ⟨trivial, record_snoc .., hflag⟩

/-- The flag is read. It is found set if it was when a candidate returned. -/
theorem ends_cancelled :
    Yields watched (At v)
      (ask .cancelled .ok : Workflow Bool)
      (fun b history flag => At { v with checks := v.checks ++ [b] } history flag ∧
        (b = false → ∀ t ∈ v.tried, (watched && t.flagged) = false)) := by
  refine .ask stable_at ?_
  rintro history flag reply flag' ⟨rfl, hflag⟩ hserve
  change (if reply = (watched && flag) then some flag else none) = some flag' at hserve
  split at hserve
  · rename_i hreply
    cases hserve
    refine ⟨trivial, ⟨record_snoc .., hflag⟩, fun hfalse t ht => ?_⟩
    rw [hfalse] at hreply
    cases hflagged : t.flagged with
    | false => simp
    | true => rwa [hflag t ht hflagged, eq_comm] at hreply
  · cases hserve

theorem ends_candidate (candidate : ConnectCandidate) (password : Option String)
    (wepKeyType : Option WepKeyType) (publishFailure : Bool) :
    Yields watched (At v)
      (ask (.candidate candidate password wepKeyType publishFailure) .ok :
        Workflow (List ConnectPhase × Except ErrorReport ConnectResult))
      (fun reply history flag => ∃ flagged,
        At { v with tried := v.tried ++ [⟨candidate, reply.2, flagged⟩] } history flag) := by
  refine .ask stable_at ?_
  rintro history flag reply flag' ⟨rfl, hflag⟩ hserve
  cases hserve
  refine ⟨trivial, flag, record_snoc .., fun t ht hflagged => ?_⟩
  rcases List.mem_append.mp ht with ht | ht
  · exact hflag t ht hflagged
  · rw [List.mem_singleton.mp ht] at hflagged
    exact hflagged

/-- A question that is not recorded. -/
theorem ends_unrecorded {c : Ask} {f : Reply c → Except ErrorReport α}
    (hserve : ∀ flag r, (surroundings watched).serve flag c r = some flag)
    (hobserve : ∀ v flag r, observe v (.own flag c r) = v) (hf : ∀ r, ∃ a, f r = .ok a) :
    Yields watched (At v) (ask c f) (fun _ => At v) := by
  refine .ask stable_at ?_
  rintro history flag reply flag' ⟨rfl, hflag⟩ hstep
  cases (hserve flag reply).symm.trans hstep
  obtain ⟨a, ha⟩ := hf reply
  rw [ha]
  exact ⟨trivial, (record_snoc ..).trans (hobserve ..), hflag⟩

/-! ## A candidate -/

def IsProgress : ConnectEvent → Prop
  | .progress _ _ _ _ _ => True
  | _ => False

/-- `At`, after some progress was reported. -/
def Progressed (v : Record) : Assertion Bool Ask Reply Unit := fun history flag =>
  ∃ more, (∀ e ∈ more, IsProgress e) ∧ At { v with events := v.events ++ more } history flag

theorem ends_emitPhases (target : ConnectTargetIdentity) (info : ConnectCandidateInfo)
    (phases : List ConnectPhase) :
    Yields watched (At v) (emitPhases target info phases)
      (fun _ => Progressed v) := by
  induction phases generalizing v with
  | nil => exact .pure fun _ _ h => ⟨[], by simp, by simpa using h⟩
  | cons phase rest ih =>
    refine .bind (ends_emit _) fun _ => (ih).conseq (fun _ _ h => h) ?_ fun _ _ _ h => h
    rintro _ history flag ⟨more, hmore, hat⟩
    refine ⟨_ :: more, ?_, by simpa using hat⟩
    intro e he
    rcases List.mem_cons.mp he with rfl | he
    · exact trivial
    · exact hmore e he

theorem ends_runConnectCandidate (request : ConnectRequest) (candidate : ConnectCandidate)
    (publishFailure : Bool) (info : ConnectCandidateInfo) :
    Yields watched (At v)
      (runConnectCandidate request candidate publishFailure info)
      (fun result history flag => ∃ flagged,
        Progressed { v with tried := v.tried ++ [⟨candidate, result, flagged⟩] } history flag) := by
  refine .bind (ends_candidate _ _ _ _) fun reply => .choose fun flagged => ?_
  obtain ⟨phases, result⟩ := reply
  have hphases : Yields watched
      (At { v with tried := v.tried ++ [⟨candidate, result, flagged⟩] })
      (do emitPhases (identity request) info phases; pure result :
        Workflow (Except ErrorReport ConnectResult))
      (fun result history flag => ∃ flagged,
        Progressed { v with tried := v.tried ++ [⟨candidate, result, flagged⟩] } history flag) :=
    .bind (ends_emitPhases _ _ _) fun _ => .pure fun _ _ h => ⟨flagged, h⟩
  exact .handle hphases fun _ _ _ h => h.elim

/-! ## The verdict on a candidate -/

/-- The flag was not set when a candidate returned, as far as the workflow looks at it. -/
def Unflagged (watched : Bool) (v : Record) : Prop := ∀ t ∈ v.tried, (watched && t.flagged) = false

theorem ends_cancelledConnect (request : ConnectRequest) (message : String) :
    Yields watched (At v) (cancelledConnect request message)
      (fun outcome history flag => outcome = .cancelled message ∧
        At { v with
          events := v.events ++ [.cancelled .cancelled (identity request) message] } history flag) :=
  .bind (ends_emit _) fun _ => .pure fun _ _ h => ⟨rfl, h⟩

/-- The flag is read, and a request that was cancelled is over. -/
theorem ends_check (request : ConnectRequest) (message : String) :
    Yields watched (At v)
      (do
        if ← ask .cancelled .ok then some <$> cancelledConnect request message else pure none :
          Workflow (Option ConnectOutcome))
      (fun outcome history flag =>
        (outcome = none ∧ Unflagged watched v ∧
          At { v with checks := v.checks ++ [false] } history flag) ∨
        (outcome = some (.cancelled message) ∧
          At ⟨v.events ++ [.cancelled .cancelled (identity request) message], v.tried,
            v.checks ++ [true]⟩ history flag)) := by
  refine .bind ends_cancelled fun b => ?_
  cases b with
  | false => exact .pure fun _ _ ⟨hat, hunflagged⟩ => .inl ⟨rfl, hunflagged rfl, hat⟩
  | true =>
    refine .bind ((ends_cancelledConnect request message).conseq (fun _ _ h => h.1)
      (fun _ _ _ h => h) fun _ _ _ h => h) fun outcome => .pure ?_
    rintro history flag ⟨rfl, hat⟩
    exact .inr ⟨rfl, hat⟩

/-- The candidate reported that it was cancelled. -/
def ReportsCancellation (result : Except ErrorReport ConnectResult) : Prop :=
  ∃ report, result = .error report ∧ report.code = .cancelled

/-- The candidate failed in a way another one may not. -/
def Retryable (result : Except ErrorReport ConnectResult) : Prop :=
  ∃ report, result = .error report ∧ report.code ≠ .cancelled ∧ credentialFailure report = false ∧
    retryableCandidateFailure (failureReason report) = true

/-- The outcome of a request whose last candidate was not cancelled, with the attempt that was
added for it. -/
def Decided (info : ConnectCandidateInfo) (attempts : List ConnectAttemptSummary) :
    ConnectOutcome → Prop
  | .succeeded result => ∃ last : ConnectAttemptSummary, result.attempts = attempts ++ [last] ∧
      last.attempt = info.attempt ∧ last.status = .connected ∧
      result.fallbackUsed = decide (info.attempt > 1)
  | .failed result _ => ∃ last : ConnectAttemptSummary, result.attempts = attempts ++ [last] ∧
      last.attempt = info.attempt ∧ last.status = .failed ∧
      result.fallbackUsed = decide (attempts.length + 1 > 1)
  | .cancelled _ => False

/-- What a verdict on a candidate says. -/
def Judged (watched : Bool) (request : ConnectRequest) (info : ConnectCandidateInfo)
    (attempts : List ConnectAttemptSummary) (result : Except ErrorReport ConnectResult)
    (alternative : Bool) (v : Record) (verdict : Verdict) : Assertion Bool Ask Reply Unit :=
  fun history flag =>
    match verdict with
    | .reported outcome => ∃ message b, outcome = .cancelled message ∧
        (b = true ∨ ReportsCancellation result) ∧
        At ⟨v.events ++ [.cancelled .cancelled (identity request) message], v.tried,
          v.checks ++ [b]⟩ history flag
    | .outcome outcome => Unflagged watched v ∧ ¬ ReportsCancellation result ∧
        Decided info attempts outcome ∧ At { v with checks := v.checks ++ [false] } history flag
    | .retry report attempts' => Unflagged watched v ∧ alternative = true ∧
        result = .error report ∧ Retryable result ∧
        (∃ last : ConnectAttemptSummary, attempts' = attempts ++ [last] ∧
          last.attempt = info.attempt ∧ last.status = .failed) ∧
        At { v with checks := v.checks ++ [false] } history flag

theorem ends_successfulConnectOutcome (result : ConnectResult) (info : ConnectCandidateInfo)
    (attempts : List ConnectAttemptSummary) :
    Yields watched (At v)
      (successfulConnectOutcome result info attempts)
      (fun outcome history flag => Decided info attempts outcome ∧ At v history flag) := by
  refine .bind (ends_unrecorded (fun _ _ => rfl) (fun _ _ _ => rfl) fun r => ⟨r, rfl⟩)
    fun active => ?_
  refine .bind (ends_unrecorded (fun _ _ => rfl) (fun _ _ _ => rfl) fun r => ⟨r, rfl⟩)
    fun durationMs => ?_
  refine .pure fun history flag hat => ⟨⟨_, rfl, ?_, rfl, ?_⟩, hat⟩
  · cases active <;> rfl
  · cases active <;> rfl

theorem ends_recordFailedAttempt (attempts : List ConnectAttemptSummary)
    (info : ConnectCandidateInfo) (report : ErrorReport) :
    Yields watched (At v)
      (recordFailedAttempt attempts info report)
      (fun attempts' history flag => (∃ last : ConnectAttemptSummary,
        attempts' = attempts ++ [last] ∧ last.attempt = info.attempt ∧ last.status = .failed) ∧
        At v history flag) :=
  .bind (ends_unrecorded (fun _ _ => rfl) (fun _ _ _ => rfl) fun r => ⟨r, rfl⟩) fun _ =>
    .pure fun _ _ hat => ⟨⟨_, rfl, rfl, rfl⟩, hat⟩

theorem ends_judge (request : ConnectRequest) (info : ConnectCandidateInfo)
    (attempts : List ConnectAttemptSummary) (result : Except ErrorReport ConnectResult)
    (alternative : Bool) :
    Yields watched (At v)
      (judge request info attempts result alternative)
      (Judged watched request info attempts result alternative v) := by
  refine .bind (ends_check request "connection attempt was cancelled") fun outcome => ?_
  cases outcome with
  | some outcome =>
    refine .pure ?_
    rintro history flag (⟨h, -⟩ | ⟨h, hat⟩)
    · cases h
    · cases h
      exact ⟨_, true, rfl, .inl rfl, hat⟩
  | none =>
    refine .conseq (P := fun history flag => Unflagged watched v ∧
      At { v with checks := v.checks ++ [false] } history flag) ?_ ?_ (fun _ _ _ h => h)
      fun _ _ _ h => h
    swap
    · rintro history flag (⟨-, h⟩ | ⟨h, -⟩)
      · exact h
      · cases h
    refine .assume fun hunflagged => ?_
    rcases result with report | result
    · by_cases hcode : report.code = .cancelled
      · simp only [hcode, if_true]
        refine .bind (ends_cancelledConnect request report.message) fun outcome => .pure ?_
        rintro history flag ⟨rfl, hat⟩
        exact ⟨_, false, rfl, .inr ⟨report, rfl, hcode⟩, hat⟩
      · simp only [hcode, if_false]
        have hnot : ¬ ReportsCancellation (.error report) := by
          rintro ⟨report', h, hcode'⟩
          cases h
          exact hcode hcode'
        refine .bind (ends_recordFailedAttempt attempts info report) fun attempts' => ?_
        refine .assume fun hlast => ?_
        split
        · rename_i hretry
          simp only [Bool.and_eq_true, Bool.not_eq_true'] at hretry
          refine .pure fun _ _ hat => ⟨hunflagged, hretry.2, rfl, ?_, hlast, hat⟩
          exact ⟨report, rfl, hcode, hretry.1.1, hretry.1.2⟩
        · obtain ⟨last, rfl, hattempt, hstatus⟩ := hlast
          refine .pure fun _ _ hat => ⟨hunflagged, hnot, ⟨last, rfl, hattempt, hstatus, ?_⟩, hat⟩
          simp
    · refine .bind (ends_successfulConnectOutcome result info attempts) fun outcome => ?_
      refine .assume fun hdecided => .pure fun _ _ hat => ⟨hunflagged, ?_, hdecided, hat⟩
      rintro ⟨report, h, -⟩
      cases h

/-! ## The whole request -/

def startedEvent (request : ConnectRequest) : ConnectEvent :=
  .started .starting (identity request) "starting Wi-Fi connection"

/-- The request was started and there was nothing but progress since. -/
def Running (request : ConnectRequest) (v : Record) : Prop :=
  ∃ middle, v.events = startedEvent request :: middle ∧ ∀ e ∈ middle, IsProgress e

/-- All candidates so far failed in a way another one may not. -/
structure Prior (watched : Bool) (v : Record) (attempts : List ConnectAttemptSummary) : Prop where
  length : v.tried.length = attempts.length
  numbered : ∀ i a, attempts[i]? = some a → a.attempt = i + 1 ∧ a.status = .failed
  failed : ∀ t ∈ v.tried, Retryable t.result
  unflagged : Unflagged watched v

/-- The event that reports an outcome. -/
def terminalEvent (request : ConnectRequest) (outcome : ConnectOutcome) : ConnectEvent :=
  match outcome with
  | .succeeded _ => .finished .connected (identity request) outcome
  | .failed _ _ => .finished .failed (identity request) outcome
  | .cancelled message => .cancelled .cancelled (identity request) message

/-- The result of an outcome that has one. -/
def ConnectOutcome.result : ConnectOutcome → Option ConnectResult
  | .succeeded result => some result
  | .failed result _ => some result
  | .cancelled _ => none

/-- The attempts of an outcome are the candidates that were tried. -/
structure Attempted (outcome : ConnectOutcome) (tried : List Tried) (result : ConnectResult) :
    Prop where
  length : result.attempts.length = tried.length
  numbered : ∀ i a, result.attempts[i]? = some a → a.attempt = i + 1
  last : ∀ i a, result.attempts[i]? = some a → a.status = .connected →
    i + 1 = tried.length ∧ ∃ r, outcome = .succeeded r
  fallback : result.fallbackUsed = true ↔ tried.length = 2

/-- What a request has come to, by its record. -/
structure Concluded (watched : Bool) (request : ConnectRequest) (outcome : ConnectOutcome)
    (v : Record) : Prop where
  events : ∃ middle, v.events = startedEvent request :: middle ++ [terminalEvent request outcome] ∧
    ∀ e ∈ middle, IsProgress e
  few : v.tried.length ≤ 2
  /-- another candidate was tried only after such a failure -/
  failed : ∀ t ∈ v.tried.dropLast, Retryable t.result
  cancelled : ∀ t ∈ v.tried, (watched && t.flagged) = true ∨ ReportsCancellation t.result →
    ∃ message, outcome = .cancelled message
  /-- and only then, or if the flag was found set -/
  cause : (∃ message, outcome = .cancelled message) →
    true ∈ v.checks ∨ ∃ t ∈ v.tried, ReportsCancellation t.result
  attempts : ∀ result, outcome.result = some result → Attempted outcome v.tried result

theorem not_reportsCancellation {result : Except ErrorReport ConnectResult} (h : Retryable result) :
    ¬ ReportsCancellation result := by
  rintro ⟨report, rfl, hcode⟩
  obtain ⟨report', h, hcode', -⟩ := h
  cases h
  exact hcode' hcode

/-- The attempts with the last one added. -/
theorem attempted_of_decided {outcome : ConnectOutcome} {info : ConnectCandidateInfo}
    {attempts : List ConnectAttemptSummary} {tried : List Tried}
    (hdecided : Decided info attempts outcome) (hinfo : info.attempt = attempts.length + 1)
    (hfew : attempts.length ≤ 1) (hlength : tried.length = attempts.length + 1)
    (hnumbered : ∀ i a, attempts[i]? = some a → a.attempt = i + 1 ∧ a.status = .failed) :
    ∀ result, outcome.result = some result → Attempted outcome tried result := by
  intro result hresult
  obtain ⟨last, hattempts, hattempt, hconnected, hfallback⟩ :
      ∃ last : ConnectAttemptSummary, result.attempts = attempts ++ [last] ∧
        last.attempt = info.attempt ∧ (last.status = .connected → ∃ r, outcome = .succeeded r) ∧
        result.fallbackUsed = decide (attempts.length + 1 > 1) := by
    cases outcome with
    | succeeded r =>
      cases hresult
      obtain ⟨last, hattempts, hattempt, -, hfallback⟩ := hdecided
      exact ⟨last, hattempts, hattempt, fun _ => ⟨_, rfl⟩, hinfo ▸ hfallback⟩
    | failed r e =>
      cases hresult
      obtain ⟨last, hattempts, hattempt, hstatus, hfallback⟩ := hdecided
      refine ⟨last, hattempts, hattempt, fun h => ?_, hfallback⟩
      rw [hstatus] at h
      cases h
    | cancelled m => cases hresult
  -- an entry is one of the earlier ones or the last one
  have hentry : ∀ i a, result.attempts[i]? = some a →
      attempts[i]? = some a ∨ i = attempts.length ∧ a = last := by
    intro i a ha
    rw [hattempts, List.getElem?_append] at ha
    split at ha
    · exact .inl ha
    · obtain ⟨hi, rfl⟩ := List.getElem?_eq_some_iff.mp ha
      simp only [List.length_singleton] at hi
      exact .inr ⟨by omega, by simp⟩
  refine ⟨?_, fun i a ha => ?_, fun i a ha hstatus => ?_, ?_⟩
  · rw [hattempts, hlength, List.length_append]
    rfl
  · rcases hentry i a ha with ha | ⟨rfl, rfl⟩
    · exact (hnumbered i a ha).1
    · rw [hattempt, hinfo]
  · rcases hentry i a ha with ha | ⟨rfl, rfl⟩
    · rw [(hnumbered i a ha).2] at hstatus
      cases hstatus
    · exact ⟨hlength.symm, hconnected hstatus⟩
  · rw [hfallback, hlength, decide_eq_true_eq]
    omega

theorem Running.progress {request : ConnectRequest} (h : Running request v)
    {more : List ConnectEvent} (hmore : ∀ e ∈ more, IsProgress e) (tried : List Tried)
    (checks : List Bool) : Running request ⟨v.events ++ more, tried, checks⟩ := by
  obtain ⟨middle, hevents, hmiddle⟩ := h
  refine ⟨middle ++ more, by simp [hevents], fun e he => ?_⟩
  rcases List.mem_append.mp he with he | he
  · exact hmiddle e he
  · exact hmore e he

/-- Events do not matter to what was tried before. -/
theorem Prior.progress {attempts : List ConnectAttemptSummary} (h : Prior watched v attempts)
    (events : List ConnectEvent) : Prior watched ⟨events, v.tried, v.checks⟩ attempts :=
  ⟨h.length, h.numbered, h.failed, h.unflagged⟩

/-- A cancelled request. -/
theorem concluded_cancelled {request : ConnectRequest} {attempts : List ConnectAttemptSummary}
    (hrunning : Running request v) (hprior : Prior watched v attempts) (hfew : attempts.length ≤ 1)
    (t : Tried) {b : Bool} (hcause : b = true ∨ ReportsCancellation t.result) (message : String) :
    Concluded watched request (.cancelled message)
      ⟨v.events ++ [.cancelled .cancelled (identity request) message], v.tried ++ [t],
        v.checks ++ [b]⟩ := by
  obtain ⟨middle, hevents, hmiddle⟩ := hrunning
  refine ⟨⟨middle, by rw [hevents]; rfl, hmiddle⟩, ?_, ?_, fun _ _ _ => ⟨message, rfl⟩, fun _ => ?_,
    fun result hresult => by cases hresult⟩
  · rw [List.length_append, hprior.length]
    exact Nat.succ_le_succ hfew
  · rw [List.dropLast_concat]
    exact hprior.failed
  · rcases hcause with rfl | hcause
    · exact .inl (by simp)
    · exact .inr ⟨t, by simp, hcause⟩

/-- A request that was decided. -/
theorem concluded_decided {request : ConnectRequest} {info : ConnectCandidateInfo}
    {attempts : List ConnectAttemptSummary} {outcome : ConnectOutcome} {t : Tried}
    {checks : List Bool} (hrunning : Running request v) (hprior : Prior watched v attempts)
    (hfew : attempts.length ≤ 1) (hinfo : info.attempt = attempts.length + 1)
    (hunflagged : ∀ t' ∈ v.tried ++ [t], (watched && t'.flagged) = false)
    (hnot : ¬ ReportsCancellation t.result) (hdecided : Decided info attempts outcome) :
    Concluded watched request outcome
      ⟨v.events ++ [terminalEvent request outcome], v.tried ++ [t], checks⟩ := by
  obtain ⟨middle, hevents, hmiddle⟩ := hrunning
  have hlength : (v.tried ++ [t]).length = attempts.length + 1 := by
    rw [List.length_append, hprior.length]
    rfl
  refine ⟨⟨middle, by rw [hevents], hmiddle⟩, ?_, ?_, fun t' ht' hcancelled => ?_, ?_, ?_⟩
  · rw [hlength]
    exact Nat.succ_le_succ hfew
  · rw [List.dropLast_concat]
    exact hprior.failed
  · -- none of the candidates was cancelled
    rcases hcancelled with hflagged | hreports
    · rw [hunflagged t' ht'] at hflagged
      cases hflagged
    · rcases List.mem_append.mp ht' with ht' | ht'
      · exact absurd hreports (not_reportsCancellation (hprior.failed t' ht'))
      · rw [List.mem_singleton.mp ht'] at hreports
        exact absurd hreports hnot
  · rintro ⟨message, rfl⟩
    exact hdecided.elim
  · exact attempted_of_decided hdecided hinfo hfew hlength hprior.numbered

/-- The request goes on with another candidate. -/
theorem prior_snoc {attempts : List ConnectAttemptSummary} {last : ConnectAttemptSummary}
    {t : Tried} {events : List ConnectEvent} {checks : List Bool}
    (hprior : Prior watched v attempts) (hattempt : last.attempt = attempts.length + 1)
    (hstatus : last.status = .failed) (hretryable : Retryable t.result)
    (hunflagged : ∀ t' ∈ v.tried ++ [t], (watched && t'.flagged) = false) :
    Prior watched ⟨events, v.tried ++ [t], checks⟩ (attempts ++ [last]) := by
  refine ⟨by simp [hprior.length], fun i a ha => ?_, fun t' ht' => ?_, hunflagged⟩
  · rw [List.getElem?_append] at ha
    split at ha
    · exact hprior.numbered i a ha
    · obtain ⟨hi, rfl⟩ := List.getElem?_eq_some_iff.mp ha
      simp only [List.length_singleton] at hi
      obtain rfl : i = attempts.length := by omega
      simpa using ⟨hattempt, hstatus⟩
  · rcases List.mem_append.mp ht' with ht' | ht'
    · exact hprior.failed t' ht'
    · rw [List.mem_singleton.mp ht']
      exact hretryable

theorem ends_emitFinishedConnect (request : ConnectRequest) {outcome : ConnectOutcome}
    (h : ∀ message, outcome ≠ .cancelled message) :
    Yields watched (At v) (emitFinishedConnect request outcome)
      (fun _ => At { v with events := v.events ++ [terminalEvent request outcome] }) := by
  cases outcome with
  | succeeded result => exact ends_emit _
  | failed result error => exact ends_emit _
  | cancelled message => exact absurd rfl (h message)

/-- One candidate, up to the verdict on it. -/
theorem ends_tryCandidate (request : ConnectRequest) (total : ℕ) (candidate : ConnectCandidate)
    (attempt : ℕ) (attempts : List ConnectAttemptSummary) (alternative : Bool) :
    Yields watched (At v)
      (tryCandidate request total candidate attempt attempts alternative)
      (fun verdict history flag => ∃ t more, (∀ e ∈ more, IsProgress e) ∧
        Judged watched request (candidateInfo candidate attempt total) attempts t.result alternative
          ⟨v.events ++ more, v.tried ++ [t], v.checks⟩ verdict history flag) := by
  refine .bind (ends_emit _) fun _ => .bind (ends_runConnectCandidate _ _ _ _) fun result => ?_
  refine .choose fun flagged => .choose fun more => .assume fun hmore => ?_
  refine (ends_judge _ _ _ _ _).conseq (fun _ _ h => h) (fun verdict history flag hjudged => ?_)
    fun _ _ _ h => h
  refine ⟨⟨candidate, result, flagged⟩, .progress .tryingAccessPoint (identity request)
    (candidateMessage "trying" (candidateInfo candidate attempt total))
    (some (candidateInfo candidate attempt total)) none :: more,
    List.forall_mem_cons.mpr ⟨trivial, hmore⟩, ?_⟩
  simpa using hjudged

/-- The workflow is over. -/
abbrev Over (watched : Bool) (request : ConnectRequest) (outcome : ConnectOutcome) :
    Assertion Bool Ask Reply Unit := fun history _ =>
  Concluded watched request outcome (record history)

section

variable {request : ConnectRequest} {info : ConnectCandidateInfo} {alternative : Bool}
  {attempts : List ConnectAttemptSummary} {t : Tried} {more : List ConnectEvent}

/-- A candidate after which the request is over, and that was reported. -/
theorem ends_reported (hrunning : Running request v) (hprior : Prior watched v attempts)
    (hfew : attempts.length ≤ 1) (hmore : ∀ e ∈ more, IsProgress e) (outcome : ConnectOutcome) :
    Yields watched
      (Judged watched request info attempts t.result alternative
        ⟨v.events ++ more, v.tried ++ [t], v.checks⟩ (.reported outcome))
      (pure outcome : Workflow ConnectOutcome)
      (Over watched request) := by
  refine .pure ?_
  rintro history flag ⟨message, b, rfl, hcause, hrecord, -⟩
  rw [Over, hrecord]
  exact concluded_cancelled (hrunning.progress hmore _ _) (hprior.progress _) hfew t hcause message

/-- A candidate that decides the outcome, which is reported then. -/
theorem ends_decided (hrunning : Running request v) (hprior : Prior watched v attempts)
    (hfew : attempts.length ≤ 1) (hinfo : info.attempt = attempts.length + 1)
    (hmore : ∀ e ∈ more, IsProgress e) (outcome : ConnectOutcome) :
    Yields watched
      (Judged watched request info attempts t.result alternative
        ⟨v.events ++ more, v.tried ++ [t], v.checks⟩ (.outcome outcome))
      (finishConnect request outcome)
      (Over watched request) := by
  refine .assume fun hunflagged => .assume fun hnot => .assume fun hdecided => ?_
  have hopen : ∀ message, outcome ≠ .cancelled message := by
    rintro message rfl
    exact hdecided
  refine .bind (ends_emitFinishedConnect request hopen) fun _ => .pure ?_
  rintro history flag ⟨hrecord, -⟩
  rw [Over, hrecord]
  exact concluded_decided (hrunning.progress hmore _ _) (hprior.progress _) hfew hinfo hunflagged hnot
    hdecided

end

theorem ends_connectLoop (request : ConnectRequest) (total : ℕ)
    (alternatives : List ConnectCandidate) (candidate : ConnectCandidate)
    {attempts : List ConnectAttemptSummary} (hfew : alternatives.length + attempts.length ≤ 1)
    (hrunning : Running request v) (hprior : Prior watched v attempts) :
    Yields watched (At v)
      (connectLoop request total alternatives candidate (attempts.length + 1) attempts)
      (Over watched request) := by
  -- by induction on the alternatives that are left
  induction alternatives generalizing candidate attempts v with
  | nil =>
    refine .bind (ends_tryCandidate _ _ _ _ _ _) fun verdict => ?_
    refine .choose fun t => .choose fun more => .assume fun hmore => ?_
    cases verdict with
    | reported outcome => exact ends_reported hrunning hprior (by omega) hmore outcome
    | outcome outcome => exact ends_decided hrunning hprior (by omega) rfl hmore outcome
    | retry report attempts' =>
      refine .assume fun _ => .assume fun halternative => ?_
      cases halternative
  | cons next rest ih =>
    refine .bind (ends_tryCandidate _ _ _ _ _ _) fun verdict => ?_
    refine .choose fun t => .choose fun more => .assume fun hmore => ?_
    cases verdict with
    | reported outcome => exact ends_reported hrunning hprior (by omega) hmore outcome
    | outcome outcome => exact ends_decided hrunning hprior (by omega) rfl hmore outcome
    | retry report attempts' =>
      refine .assume fun hunflagged => .assume fun _ => .assume fun hresult =>
        .assume fun hretryable => .assume fun hlast => ?_
      obtain ⟨last, rfl, hattempt, hstatus⟩ := hlast
      refine .bind (ends_emit _) fun _ => ?_
      have hlength : attempts.length + 1 + 1 = (attempts ++ [last]).length + 1 := by simp
      rw [hlength]
      refine ih next ?_ ?_ ?_
      · simp only [List.length_cons, List.length_append, List.length_nil] at hfew ⊢
        omega
      · refine (hrunning.progress hmore _ _).progress (fun e he => ?_) _ _
        rw [List.mem_singleton.mp he]
        exact trivial
      · exact prior_snoc hprior hattempt hstatus hretryable hunflagged

/-- A request that was cancelled before a candidate was tried. -/
theorem concluded_unstarted (request : ConnectRequest) (message : String) :
    Concluded watched request (.cancelled message)
      ⟨[startedEvent request, .cancelled .cancelled (identity request) message], [], [true]⟩ :=
  ⟨⟨[], rfl, by simp⟩, by simp, by simp, by simp, fun _ => .inl (by simp),
    fun _ hresult => by cases hresult⟩

theorem ends_connectInner (request : ConnectRequest) :
    Yields watched (At .empty) (connectInner request)
      (Over watched request) := by
  unfold connectInner startConnect
  refine .bind (.bind (ends_emit _) fun _ => ends_check request _) fun outcome => ?_
  cases outcome with
  | some outcome =>
    refine .pure ?_
    rintro history flag (⟨h, -⟩ | ⟨h, hrecord, -⟩)
    · cases h
    · cases h
      rw [Over, hrecord]
      exact concluded_unstarted request _
  | none =>
    have hloop : Yields watched
        (At ⟨[startedEvent request], [], [false]⟩)
        (connectLoop request (1 + (request.alternatives.take 1).length)
          (request.alternatives.take 1) request.candidate
          (([] : List ConnectAttemptSummary).length + 1) [])
        (Over watched request) := by
      refine ends_connectLoop request _ _ _ ?_ ?_ ?_
      · simp
      · exact ⟨[], rfl, by simp⟩
      · exact ⟨rfl, by simp, by simp, by simp [Unflagged]⟩
    refine hloop.conseq ?_ (fun _ _ _ h => h) fun _ _ _ h => h
    rintro history flag (⟨-, -, hat⟩ | ⟨h, -⟩)
    · exact hat
    · cases h

/-- **Connect requests.** However a request is cancelled and whatever becomes of its candidates,
a run that has ended has an outcome, and its record is that of this outcome. -/
theorem connect_concluded (watched flag : Bool) (request : ConnectRequest)
    {history : List (Event Bool Ask Reply Unit)} {flag' : Bool}
    {r : Except ErrorReport ConnectOutcome}
    (hexec : Exec (surroundings watched) flag (connectInner request) history flag' (.done r)) :
    ∃ outcome, r = .ok outcome ∧ Concluded watched request outcome (record history) := by
  have hends : Yields watched _ _ _ := ends_connectInner request
  have hwp := hends [] flag ⟨rfl, by simp [Record.empty]⟩
  cases r with
  | ok outcome =>
    refine ⟨outcome, rfl, hexec.result hwp fun history flag a flag' h _ => ?_⟩
    change Concluded watched request outcome (record (history ++ [.rival a]))
    rw [record_snoc]
    exact h
  | error e => exact (hexec.result hwp fun _ _ _ _ h _ => h).elim

/-- A request with one alternative. -/
def homeRequest : ConnectRequest :=
  ⟨some "home", none, none, ⟨.home, some "5 GHz", some 36, none⟩,
    [⟨.home, some "2.4 GHz", some 6, none⟩]⟩

/-- The first candidate does not get an address, the other one connects. -/
def recovering : (c : Ask) → Option (Reply c)
  | .cancelled => some false
  | .emit _ => some (.ok ())
  | .candidate candidate _ _ _ =>
    if candidate = homeRequest.candidate then
      some ([.checkingActive], .error ⟨.dhcpFailed, .connect, .networkManager, "no address", []⟩)
    else some ([], .ok (.succeeded "home" "Connected" .dbus none))
  | .elapsed => some 5
  | .activeAccessPoint => some none

/-- A request that connects by its alternative. -/
theorem connect_concluded_fallback : ∃ history flag result,
    Exec (surroundings true) false (connectInner homeRequest) history flag
        (.done (.ok (.succeeded result))) ∧
      (record history).tried.length = 2 ∧ result.fallbackUsed = true := by
  obtain ⟨history, flag, result, hexec, htried⟩ : ∃ history flag result,
      Exec (surroundings true) false (connectInner homeRequest) history flag
        (.done (.ok (.succeeded result))) ∧ (record history).tried.length = 2 :=
    ⟨_, _, _, Exec.drive recovering false _, rfl⟩
  obtain ⟨outcome, houtcome, hconcluded⟩ := connect_concluded true false homeRequest hexec
  cases houtcome
  exact ⟨history, flag, result, hexec, htried, (hconcluded.attempts result rfl).fallback.mpr htried⟩

end Connect

end NmDaemon
