import NmDaemon.ActivationWait

/-!
# Activation verdicts

What a wait reports is said here from the observations alone, and then read off what the
wait remembers.

* `Fails` — the failure condition at an observation: progress so far, and the device is down
  or the requested activation has stopped;
* `Steady`, `Lasted` — it has held at every present status since some status, for the
  grace period;
* `IsRun` — the run of failures that goes on at the end of a history, from its first status;
* `Remembers` — what an undecided wait remembers of its history: the run, by the time of its
  first status and by the status to be reported (`remembers_follow`);
* `activation_verdicts` — when success is reported, when failure, and how long the wait is.

An observation that matches and is activated ends the wait before the failure condition is
looked at, also where that has lasted long enough (`success_over_failure`).
-/

namespace NmDaemon

namespace Waiting

variable {history before pre rest run : List Observation} {first o : Observation}
  {wait : ActivationWait} {target : WifiConnectTarget}

/-! ## Success and failure, from the observations -/

namespace Observation

/-- The target is active, as far as this shows. -/
def succeeds (o : Observation) : Bool :=
  o.ssidMatches && o.status.all WifiActivationStatus.activated

def showsProgress (o : Observation) : Bool :=
  o.status.any fun status => status.deviceState > 30 || o.requestedActivePath.isSome

def isDown (o : Observation) : Bool :=
  o.status.any fun status => status.terminalFailureAfterProgress || requestedActivationStopped o

end Observation

/-- The failure condition at an observation. -/
def Fails (before : List Observation) (o : Observation) : Prop :=
  (before ++ [o]).any Observation.showsProgress = true ∧ o.isDown = true

/-- It holds at every present status of the last part. -/
def Steady (pre run : List Observation) : Prop :=
  ∀ mid x post, run = mid ++ x :: post → x.status.isSome = true → Fails (pre ++ mid) x

/-- At a time, it has held at every present status since some present status that is at least
the grace period old. -/
def Lasted (history : List Observation) (now : ℕ) : Prop :=
  ∃ pre first rest, history = pre ++ first :: rest ∧ first.status.isSome = true ∧
    Steady pre (first :: rest) ∧ first.now + activationFailureGrace ≤ now

/-- The wait has failed at the observation. -/
def FailsAt (before : List Observation) (o : Observation) : Prop :=
  o.status.isSome = true ∧ Lasted (before ++ [o]) o.now

/-- Nothing has decided the wait. -/
def Undecided (history : List Observation) : Prop :=
  ∀ before o after, history = before ++ o :: after → o.succeeds = false ∧ ¬ FailsAt before o

/-- The condition does not hold at the last present status, if there is one. -/
def Fresh (history : List Observation) : Prop :=
  ∀ before o after, history = before ++ o :: after → o.status.isSome = true →
    (∀ x ∈ after, x.status = none) → ¬ Fails before o

/-- The run of failures at the end of a history. -/
structure IsRun (history pre : List Observation) (first : Observation) (rest : List Observation) :
    Prop where
  split : history = pre ++ first :: rest
  present : first.status.isSome = true
  steady : Steady pre (first :: rest)
  fresh : Fresh pre

/-- The first status of a run with a reason, or else the first one. -/
def reported (run : List Observation) : Option WifiActivationStatus :=
  let statuses := run.filterMap Observation.status
  (statuses.find? fun status => status.reason ≠ 0).or statuses.head?

/-- After these observations without a verdict, this one brings it. -/
def ReportsAt (target : WifiConnectTarget) (before : List Observation) (o : Observation)
    (verdict : Verdict) : Prop :=
  (follow target before).verdict = none ∧ (follow target (before ++ [o])).verdict = some verdict

/-! ## One more observation -/

/-- Splits of a list with one more element. -/
theorem snoc_eq_append_cons {α : Type} {l mid post : List α} {x y : α} :
    l ++ [y] = mid ++ x :: post ↔
      (post = [] ∧ l = mid ∧ y = x) ∨ ∃ post', post = post' ++ [y] ∧ l = mid ++ x :: post' := by
  constructor
  · intro h
    rcases List.eq_nil_or_concat post with rfl | ⟨post', z, rfl⟩
    · obtain ⟨rfl, hx⟩ := List.append_inj' h rfl
      cases hx
      exact .inl ⟨rfl, rfl, rfl⟩
    · rw [List.concat_eq_append, ← List.cons_append, ← List.append_assoc] at h
      obtain ⟨rfl, hz⟩ := List.append_inj' h rfl
      cases hz
      exact .inr ⟨post', List.concat_eq_append, rfl⟩
  · rintro (⟨rfl, rfl, rfl⟩ | ⟨post', rfl, rfl⟩)
    · rfl
    · simp

theorem steady_snoc :
    Steady pre (run ++ [o]) ↔ Steady pre run ∧ (o.status.isSome = true → Fails (pre ++ run) o) := by
  constructor
  · intro h
    refine ⟨fun mid x post hrun hx => h mid x (post ++ [o]) ?_ hx, fun ho => h run o [] rfl ho⟩
    rw [hrun, List.append_assoc, List.cons_append]
  · rintro ⟨hrun, ho⟩ mid x post hsplit hx
    rcases snoc_eq_append_cons.mp hsplit with ⟨-, rfl, rfl⟩ | ⟨post', -, hmid⟩
    · exact ho hx
    · exact hrun mid x post' hmid hx

theorem fresh_snoc_missing (ho : o.status = none) (h : Fresh history) : Fresh (history ++ [o]) := by
  intro before x after hsplit hx hafter
  rcases snoc_eq_append_cons.mp hsplit with ⟨-, -, rfl⟩ | ⟨after', rfl, hhistory⟩
  · rw [ho] at hx
    cases hx
  · exact h before x after' hhistory hx fun y hy => hafter y (List.mem_append_left _ hy)

theorem fresh_snoc_present (ho : o.status.isSome = true) (h : ¬ Fails history o) :
    Fresh (history ++ [o]) := by
  intro before x after hsplit hx hafter
  rcases snoc_eq_append_cons.mp hsplit with ⟨-, rfl, rfl⟩ | ⟨after', rfl, -⟩
  · exact h
  · rw [hafter o (List.mem_append_right _ List.mem_cons_self)] at ho
    cases ho

theorem fresh_nil : Fresh [] := by
  intro before x after hsplit
  cases before <;> cases hsplit

/-- An observation that fails if there is one prolongs the run. -/
theorem IsRun.snoc (h : IsRun history pre first rest)
    (ho : o.status.isSome = true → Fails history o) :
    IsRun (history ++ [o]) pre first (rest ++ [o]) where
  split := by rw [h.split, List.append_assoc, List.cons_append]
  present := h.present
  steady := by
    rw [← List.cons_append, steady_snoc, ← h.split]
    exact ⟨h.steady, ho⟩
  fresh := h.fresh

/-- The first failure begins one. -/
theorem Fresh.failure (h : Fresh history) (hpresent : o.status.isSome = true)
    (ho : Fails history o) : IsRun (history ++ [o]) history o [] where
  split := rfl
  present := hpresent
  steady := by
    intro mid x post hsplit _
    rcases snoc_eq_append_cons.mp (show [] ++ [o] = mid ++ x :: post from hsplit) with
      ⟨-, rfl, rfl⟩ | ⟨post', -, hmid⟩
    · rwa [List.append_nil]
    · cases mid <;> cases hmid
  fresh := h

/-! ## The length of a run -/

/-- Where a status is present there is a last one. -/
theorem last_present {l : List Observation} (h : first.status.isSome = true) :
    ∃ mid x post, first :: l = mid ++ x :: post ∧ x.status.isSome = true ∧
      ∀ y ∈ post, y.status = none := by
  induction l using List.reverseRecOn with
  | nil => exact ⟨[], first, [], rfl, h, fun _ hy => nomatch hy⟩
  | append_singleton l y ih =>
    cases hy : y.status with
    | some status =>
      exact ⟨first :: l, y, [], rfl, by rw [hy]; rfl, fun _ hz => nomatch hz⟩
    | none =>
      obtain ⟨mid, x, post, hsplit, hx, hpost⟩ := ih
      refine ⟨mid, x, post ++ [y], ?_, hx, ?_⟩
      · rw [← List.cons_append, hsplit, List.append_assoc, List.cons_append]
      · exact List.forall_mem_append.mpr ⟨hpost, List.forall_mem_singleton.mpr hy⟩

/-- The run begins no later than any other status since which the condition has held. -/
theorem IsRun.begins_first (h : IsRun history pre first rest) {pre' rest' : List Observation}
    {first' : Observation} (hsplit : history = pre' ++ first' :: rest')
    (hpresent : first'.status.isSome = true) (hsteady : Steady pre' (first' :: rest')) :
    ∃ between, pre' = pre ++ between ∧ first :: rest = between ++ first' :: rest' := by
  rw [h.split] at hsplit
  rcases List.append_eq_append_iff.mp hsplit with hafter | ⟨between, hpre, hrun⟩
  · exact hafter
  · cases between with
    | nil => exact ⟨[], by rw [hpre, List.append_nil, List.append_nil], hrun.symm⟩
    | cons y between =>
      -- otherwise the last status before the run would fail too
      obtain ⟨rfl, -⟩ := List.cons.inj hrun
      obtain ⟨mid, x, post, hlast, hx, hpost⟩ := last_present (l := between) hpresent
      have hfails : Fails (pre' ++ mid) x := by
        refine hsteady mid x (post ++ first :: rest) ?_ hx
        rw [hrun, hlast, List.append_assoc, List.cons_append]
      refine absurd hfails (h.fresh (pre' ++ mid) x post ?_ hx hpost)
      rw [hpre, hlast, List.append_assoc]

theorem IsRun.unique (h : IsRun history pre first rest) {pre' rest' : List Observation}
    {first' : Observation} (h' : IsRun history pre' first' rest') :
    first :: rest = first' :: rest' := by
  obtain ⟨c, hpre, hrun⟩ := h.begins_first h'.split h'.present h'.steady
  obtain ⟨d, hpre', -⟩ := h'.begins_first h.split h.present h.steady
  have hnil : c = [] := by
    have hlength := congrArg List.length hpre
    rw [hpre', List.length_append, List.length_append] at hlength
    exact List.eq_nil_of_length_eq_zero (by omega)
  rw [hrun, hnil, List.nil_append]

/-- How long the condition has lasted is measured from the first status of the run. -/
theorem IsRun.lasted_iff (h : IsRun history pre first rest)
    (htimes : history.Pairwise fun a b => a.now ≤ b.now) (now : ℕ) :
    Lasted history now ↔ first.now + activationFailureGrace ≤ now := by
  constructor
  · rintro ⟨pre', first', rest', hsplit, hpresent, hsteady, hold⟩
    refine le_trans (Nat.add_le_add_right ?_ _) hold
    obtain ⟨between, -, hrun⟩ := h.begins_first hsplit hpresent hsteady
    cases between with
    | nil =>
      cases hrun
      exact le_rfl
    | cons y between =>
      obtain ⟨rfl, hrest⟩ := List.cons.inj hrun
      rw [h.split, List.pairwise_append] at htimes
      refine (List.pairwise_cons.mp htimes.2.1).1 first' ?_
      rw [hrest]
      exact List.mem_append_right _ List.mem_cons_self
  · intro hold
    exact ⟨pre, first, rest, h.split, h.present, h.steady, hold⟩

theorem FailsAt.fails (h : FailsAt before o) : Fails before o := by
  obtain ⟨hpresent, pre, first, rest, hsplit, -, hsteady, -⟩ := h
  rcases snoc_eq_append_cons.mp hsplit with ⟨rfl, rfl, rfl⟩ | ⟨rest', rfl, rfl⟩
  · have hfails := hsteady [] o [] rfl hpresent
    rwa [List.append_nil] at hfails
  · exact hsteady (first :: rest') o [] rfl hpresent

/-- Missing statuses neither clear nor restart the period. -/
theorem lasted_missing (ho : o.status = none) (now : ℕ) :
    Lasted (history ++ [o]) now ↔ Lasted history now := by
  have hsteady : ∀ pre run, Steady pre (run ++ [o]) ↔ Steady pre run := by
    intro pre run
    rw [steady_snoc, ho]
    simp
  constructor
  · rintro ⟨pre, first, rest, hsplit, hpresent, hrun, hold⟩
    rcases snoc_eq_append_cons.mp hsplit with ⟨-, -, rfl⟩ | ⟨rest', rfl, hhistory⟩
    · rw [ho] at hpresent
      cases hpresent
    · rw [← List.cons_append, hsteady] at hrun
      exact ⟨pre, first, rest', hhistory, hpresent, hrun, hold⟩
  · rintro ⟨pre, first, rest, rfl, hpresent, hrun, hold⟩
    refine ⟨pre, first, rest ++ [o], by simp, hpresent, ?_, hold⟩
    rw [← List.cons_append, hsteady]
    exact hrun

/-! ## What is remembered -/

/-- What an undecided wait remembers of its history. -/
structure Remembers (history : List Observation) (wait : ActivationWait) : Prop where
  progress : wait.sawProgress = history.any Observation.showsProgress
  current : wait.hasCurrentStatus = history.getLast?.any fun o => o.status.isSome
  idle : wait.pendingFailure = none → Fresh history
  pending : ∀ p, wait.pendingFailure = some p → ∃ pre first rest,
    IsRun history pre first rest ∧ p.since = first.now ∧ reported (first :: rest) = some p.status

theorem remembers_new : Remembers [] .new :=
  ⟨rfl, rfl, fun _ => fresh_nil, fun _ h => nomatch h⟩

variable {status : WifiActivationStatus}

/-- Progress after one more status. -/
theorem Remembers.noted_progress (h : Remembers before wait) (hs : o.status = some status) :
    (wait.noted status o).sawProgress = (before ++ [o]).any Observation.showsProgress := by
  rw [List.any_append, ← h.progress]
  simp [ActivationWait.noted, Observation.showsProgress, hs]

theorem noted_current (wait : ActivationWait) (hs : o.status = some status) :
    (wait.noted status o).hasCurrentStatus =
      (before ++ [o]).getLast?.any fun o => o.status.isSome := by
  rw [List.getLast?_concat, Option.any_some, hs]
  rfl

theorem reported_missing (ho : o.status = none) : reported (run ++ [o]) = reported run := by
  have hnone : (run ++ [o]).filterMap Observation.status = run.filterMap Observation.status := by
    rw [List.filterMap_append, List.filterMap_cons_none ho]
    simp
  rw [reported, hnone, reported]

/-- One more status: the first reason that is one is kept. -/
theorem reported_snoc {new : WifiActivationStatus} (ho : o.status = some new)
    (h : reported run = some status) :
    reported (run ++ [o]) = some (if status.reason = 0 ∧ new.reason ≠ 0 then new else status) := by
  have hsnoc : (run ++ [o]).filterMap Observation.status =
      run.filterMap Observation.status ++ [new] := by
    rw [List.filterMap_append, List.filterMap_cons_some ho, List.filterMap_nil]
  rw [reported] at h ⊢
  rw [hsnoc, List.find?_append]
  generalize run.filterMap Observation.status = statuses at h ⊢
  cases hfind : statuses.find? fun status => status.reason ≠ 0 with
  | some found =>
    rw [hfind] at h
    cases h
    have hreason : status.reason ≠ 0 := by
      have hsome := List.find?_some hfind
      simpa using hsome
    rw [if_neg fun hboth => hreason hboth.1]
    rfl
  | none =>
    rw [hfind, Option.none_or] at h
    obtain ⟨tail, rfl⟩ := List.head?_eq_some_iff.mp h
    have hzero : status.reason = 0 := by
      have hnone := List.find?_eq_none.mp hfind status List.mem_cons_self
      simpa using hnone
    by_cases hnew : new.reason = 0
    · simp [hzero, hnew]
    · simp [hzero, hnew]

/-- The failure condition, as the wait sees it. -/
theorem Remembers.fails_iff (h : Remembers before wait) (hs : o.status = some status) :
    ((wait.noted status o).sawProgress &&
      (status.terminalFailureAfterProgress || requestedActivationStopped o)) = true ↔
      Fails before o := by
  rw [Fails, ← h.noted_progress hs, Observation.isDown, hs, Bool.and_eq_true, Option.any_some]

/-- A failure that is latched is the run's. -/
theorem Remembers.latched (h : Remembers before wait) (hs : o.status = some status)
    (ho : Fails before o) :
    ∃ pre first rest, IsRun (before ++ [o]) pre first rest ∧
      (latchPendingFailure wait.pendingFailure status o.now).since = first.now ∧
      reported (first :: rest) =
        some (latchPendingFailure wait.pendingFailure status o.now).status := by
  have hpresent : o.status.isSome = true := by rw [hs]; rfl
  cases hp : wait.pendingFailure with
  | none =>
    refine ⟨before, o, [], (h.idle hp).failure hpresent ho, ?_, ?_⟩
    · rw [latchPendingFailure, Option.getD_none]
      split <;> rfl
    · rw [reported, List.filterMap_cons_some hs, latchPendingFailure, Option.getD_none,
        if_neg fun hboth => hboth.2 hboth.1]
      by_cases hreason : status.reason = 0 <;> simp [hreason]
  | some p =>
    obtain ⟨pre, first, rest, hrun, hsince, hreported⟩ := h.pending p hp
    refine ⟨pre, first, rest ++ [o], hrun.snoc fun _ => ho, ?_, ?_⟩
    · rw [latchPendingFailure, Option.getD_some]
      split <;> exact hsince
    · rw [← List.cons_append, reported_snoc hs hreported, latchPendingFailure, Option.getD_some]
      split <;> rfl

/-- What an observation does, seen from the history. -/
inductive Outcome (target : WifiConnectTarget) (before : List Observation) (o : Observation) :
    ActivationWait × Except ErrorReport Bool → Prop where
  | success {wait : ActivationWait} (hsucceeds : o.succeeds = true) :
    Outcome target before o (wait, .ok true)
  | going {wait : ActivationWait} (hsucceeds : o.succeeds = false) (hfails : ¬ FailsAt before o)
    (hnext : Remembers (before ++ [o]) wait) : Outcome target before o (wait, .ok false)
  | failure {wait : ActivationWait} {pre rest : List Observation} {first : Observation}
    {status : WifiActivationStatus} (hsucceeds : o.succeeds = false) (hfails : FailsAt before o)
    (hrun : IsRun (before ++ [o]) pre first rest)
    (hreported : reported (first :: rest) = some status) :
    Outcome target before o (wait, .error (failureReport target status))

theorem outcome_missing (h : Remembers before wait) (hs : o.status = none) :
    Outcome target before o (wait.observe target o) := by
  rw [ActivationWait.observe_missing hs]
  have hsucceeds : o.succeeds = o.ssidMatches := by
    rw [Observation.succeeds, hs, Option.all_none, Bool.and_true]
  cases hmatches : o.ssidMatches with
  | true => exact .success (hsucceeds.trans hmatches)
  | false =>
    refine .going (hsucceeds.trans hmatches) (fun hfails => ?_) ⟨?_, ?_, fun hp => ?_, fun p hp => ?_⟩
    · rw [FailsAt, hs] at hfails
      exact nomatch hfails.1
    · rw [List.any_append]
      simp [Observation.showsProgress, hs, h.progress]
    · rw [List.getLast?_concat, Option.any_some, hs]
      rfl
    · exact fresh_snoc_missing hs (h.idle hp)
    · obtain ⟨pre, first, rest, hrun, hsince, hreported⟩ := h.pending p hp
      refine ⟨pre, first, rest ++ [o], hrun.snoc (by simp [hs]), hsince, ?_⟩
      rw [← List.cons_append, reported_missing hs]
      exact hreported

/-- The failure is latched, and its age decides. -/
theorem outcome_failing (h : Remembers before wait)
    (htimes : (before ++ [o]).Pairwise fun a b => a.now ≤ b.now) (hs : o.status = some status)
    (hsucceeds : o.succeeds = false) (hdone : (o.ssidMatches && status.activated) = false)
    (hfails : Fails before o) : Outcome target before o (wait.observe target o) := by
  have hpresent : o.status.isSome = true := by rw [hs]; rfl
  obtain ⟨pre, first, rest, hrun, hsince, hreported⟩ := h.latched hs hfails
  have hlasted := hrun.lasted_iff htimes o.now
  have hpositive : 0 < activationFailureGrace := by decide
  rw [ActivationWait.observe_failing hs hdone ((h.fails_iff hs).mpr hfails)]
  split
  · rename_i hyoung
    rw [hsince] at hyoung
    refine .going hsucceeds (fun hfail => ?_) ⟨h.noted_progress hs, noted_current wait hs,
      fun hp => (by cases hp), fun p hp => ?_⟩
    · have hold := hlasted.mp hfail.2
      omega
    · cases hp
      exact ⟨pre, first, rest, hrun, hsince, hreported⟩
  · rename_i hold
    rw [hsince] at hold
    exact .failure hsucceeds ⟨hpresent, hlasted.mpr (by omega)⟩ hrun hreported

theorem outcome_observe (target : WifiConnectTarget) (h : Remembers before wait)
    (htimes : (before ++ [o]).Pairwise fun a b => a.now ≤ b.now) :
    Outcome target before o (wait.observe target o) := by
  cases hs : o.status with
  | none => exact outcome_missing h hs
  | some status =>
    have hsucceeds : o.succeeds = (o.ssidMatches && status.activated) := by
      rw [Observation.succeeds, hs, Option.all_some]
    cases hdone : o.ssidMatches && status.activated with
    | true =>
      rw [ActivationWait.observe_activated hs hdone]
      exact .success (hsucceeds.trans hdone)
    | false =>
      by_cases hfails : Fails before o
      · exact outcome_failing h htimes hs (hsucceeds.trans hdone) hdone hfails
      · have hcheck := Bool.eq_false_iff.mpr (mt (h.fails_iff hs).mp hfails)
        rw [ActivationWait.observe_waiting hs hdone hcheck]
        refine .going (hsucceeds.trans hdone) (fun hfail => hfails hfail.fails)
          ⟨h.noted_progress hs, noted_current wait hs,
            fun _ => fresh_snoc_present ?_ hfails, fun p hp => (by cases hp)⟩
        rw [hs]
        rfl

/-! ## The whole wait -/

theorem undecided_snoc :
    Undecided (before ++ [o]) ↔ Undecided before ∧ o.succeeds = false ∧ ¬ FailsAt before o := by
  constructor
  · intro h
    refine ⟨fun a x b hsplit => h a x (b ++ [o]) ?_, h before o [] rfl⟩
    rw [hsplit, List.append_assoc, List.cons_append]
  · rintro ⟨hbefore, ho⟩ a x b hsplit
    rcases snoc_eq_append_cons.mp hsplit with ⟨-, rfl, rfl⟩ | ⟨b', -, hmid⟩
    · exact ho
    · exact hbefore a x b' hmid

theorem next_decided {watch : Watch} {verdict : Verdict} (h : watch.verdict = some verdict) :
    watch.next target o = watch := by
  rw [Watch.next, h]

/-- A wait is undecided as long as nothing has decided it, and then it remembers. -/
theorem remembers_follow (target : WifiConnectTarget) (history : List Observation)
    (htimes : history.Pairwise fun a b => a.now ≤ b.now) :
    ((follow target history).verdict = none ↔ Undecided history) ∧
      ((follow target history).verdict = none →
        Remembers history (follow target history).wait) := by
  induction history using List.reverseRecOn with
  | nil =>
    refine ⟨⟨fun _ a x b hsplit => ?_, fun _ => rfl⟩, fun _ => remembers_new⟩
    cases a <;> cases hsplit
  | append_singleton before o ih =>
    obtain ⟨hundecided, hremembers⟩ := ih (List.pairwise_append.mp htimes).1
    rw [follow_snoc, undecided_snoc, ← hundecided]
    cases hverdict : (follow target before).verdict with
    | some verdict =>
      rw [next_decided hverdict, hverdict]
      exact ⟨⟨fun h => (by cases h), fun h => (by cases h.1)⟩, fun h => (by cases h)⟩
    | none =>
      have houtcome := outcome_observe target (hremembers hverdict) htimes
      rw [Watch.next, hverdict]
      generalize (follow target before).wait.observe target o = observed at houtcome
      cases houtcome with
      | success hsucceeds =>
        rw [hsucceeds]
        exact ⟨⟨fun h => (by cases h), fun h => (by cases h.2.1)⟩, fun h => (by cases h)⟩
      | going hsucceeds hfails hnext =>
        exact ⟨⟨fun _ => ⟨rfl, hsucceeds, hfails⟩, fun _ => rfl⟩, fun _ => hnext⟩
      | failure hsucceeds hfails hrun hreported =>
        exact ⟨⟨fun h => (by cases h), fun h => absurd hfails h.2.2⟩, fun h => (by cases h)⟩

/-- The verdict an observation brings to an undecided wait. -/
theorem verdict_next (htimes : (before ++ [o]).Pairwise fun a b => a.now ≤ b.now)
    (hundecided : (follow target before).verdict = none) :
    ((follow target (before ++ [o])).verdict = some .connected ↔ o.succeeds = true) ∧
    ∀ report, (follow target (before ++ [o])).verdict = some (.failed report) ↔
      o.succeeds = false ∧ FailsAt before o ∧ ∃ pre first rest status,
        IsRun (before ++ [o]) pre first rest ∧ reported (first :: rest) = some status ∧
        report = failureReport target status := by
  have hremembers := (remembers_follow target before (List.pairwise_append.mp htimes).1).2 hundecided
  have houtcome := outcome_observe target hremembers htimes
  rw [follow_snoc, Watch.next, hundecided]
  generalize (follow target before).wait.observe target o = observed at houtcome
  cases houtcome with
  | success hsucceeds =>
    exact ⟨⟨fun _ => hsucceeds, fun _ => rfl⟩, fun report =>
      ⟨fun h => (by cases h), fun h => (by rw [hsucceeds] at h; cases h.1)⟩⟩
  | going hsucceeds hfails hnext =>
    exact ⟨⟨fun h => (by cases h), fun h => (by rw [hsucceeds] at h; cases h)⟩, fun report =>
      ⟨fun h => (by cases h), fun h => absurd h.2.1 hfails⟩⟩
  | @failure _ pre rest first status hsucceeds hfails hrun hreported =>
    refine ⟨⟨fun h => (by cases h), fun h => (by rw [hsucceeds] at h; cases h)⟩, fun report =>
      ⟨fun h => ?_, ?_⟩⟩
    · cases h
      exact ⟨hsucceeds, hfails, pre, first, rest, status, hrun, hreported, rfl⟩
    · -- there is one run only, and so one status to report
      rintro ⟨-, -, pre', first', rest', status', hrun', hreported', rfl⟩
      rw [← hrun.unique hrun', hreported] at hreported'
      cases hreported'
      rfl

/-- How long an undecided wait waits for the next event. -/
theorem Remembers.nextWake (h : Remembers history wait)
    (htimes : history.Pairwise fun a b => a.now ≤ b.now) (deadline now : ℕ) :
    wait.nextWake deadline now ≤ deadline - now ∧
      (wait.nextWake deadline now = 0 → deadline ≤ now ∨
        (history.getLast?.any fun o => o.status.isSome) = true ∧ Lasted history now) := by
  refine ⟨Nat.min_le_right _ _, fun hzero => ?_⟩
  have hpositive : 0 < activationFailureGrace := by decide
  rw [ActivationWait.nextWake, ActivationWait.waitAt, Nat.min_eq_zero_iff] at hzero
  refine hzero.symm.imp (fun hleft => by omega) fun hgrace => ?_
  cases hp : wait.pendingFailure with
  | none =>
    rw [hp, Option.map_none, Option.filter_none] at hgrace
    exact absurd hgrace (by decide)
  | some p =>
    obtain ⟨pre, first, rest, hrun, hsince, -⟩ := h.pending p hp
    rw [hp, Option.map_some, Option.filter_some] at hgrace
    split at hgrace
    · rename_i hkept
      rw [Option.getD_some] at hgrace
      rw [hgrace] at hkept
      refine ⟨?_, (hrun.lasted_iff htimes now).mpr (by omega)⟩
      rw [← h.current]
      simpa using hkept
    · exact absurd hgrace (by decide)

/-- **Activation verdicts.** Whatever is observed, at times that do not decrease: an observation
that finds the wait undecided ends it with success exactly if it matches and its status is
missing or activated. If not, it ends it with failure exactly if its status is present and the
failure condition has held at every present status since one that is at least the grace period
old, which missing statuses do not affect; and then the first status of that run with a reason
is reported, or else its first one. In between, the wait does not go beyond the deadline, and
it is no wait at all only past the deadline or when such a failure is there and old enough. -/
theorem activation_verdicts (target : WifiConnectTarget) (before : List Observation)
    (o : Observation) (htimes : (before ++ [o]).Pairwise fun a b => a.now ≤ b.now) :
    (ReportsAt target before o .connected ↔ Undecided before ∧ o.succeeds = true) ∧
    (∀ report, ReportsAt target before o (.failed report) ↔
      Undecided before ∧ o.succeeds = false ∧ FailsAt before o ∧ ∃ pre first rest status,
        IsRun (before ++ [o]) pre first rest ∧ reported (first :: rest) = some status ∧
        report = failureReport target status) ∧
    (o.status = none → ∀ now, Lasted (before ++ [o]) now ↔ Lasted before now) ∧
    ((follow target (before ++ [o])).verdict = none → ∀ deadline now,
      (follow target (before ++ [o])).wait.nextWake deadline now ≤ deadline - now ∧
      ((follow target (before ++ [o])).wait.nextWake deadline now = 0 →
        deadline ≤ now ∨ o.status.isSome = true ∧ Lasted (before ++ [o]) now)) := by
  have hundecided := (remembers_follow target before (List.pairwise_append.mp htimes).1).1
  refine ⟨⟨fun h => ?_, fun h => ?_⟩, fun report => ⟨fun h => ?_, fun h => ?_⟩,
    fun hmissing now => lasted_missing hmissing now, fun hgoing deadline now => ?_⟩
  · exact ⟨hundecided.mp h.1, (verdict_next htimes h.1).1.mp h.2⟩
  · have hnone := hundecided.mpr h.1
    exact ⟨hnone, (verdict_next htimes hnone).1.mpr h.2⟩
  · exact ⟨hundecided.mp h.1, ((verdict_next htimes h.1).2 report).mp h.2⟩
  · have hnone := hundecided.mpr h.1
    exact ⟨hnone, ((verdict_next htimes hnone).2 report).mpr h.2⟩
  · have hremembers := (remembers_follow target (before ++ [o]) htimes).2 hgoing
    have hwake := hremembers.nextWake htimes deadline now
    rw [List.getLast?_concat, Option.any_some] at hwake
    exact hwake

/-! ## Two waits -/

/-- The device is at work, but what was requested is being deactivated. -/
def stoppedAt (now : ℕ) : Observation :=
  ⟨some ⟨"wlan0", 60, (60, 0), some "/active/1", some 1⟩, false, some "/active/1", some 3, now⟩

/-- The device is up, on the network that is wanted, with another active connection. -/
def activatedAt (now : ℕ) : Observation :=
  ⟨some ⟨"wlan0", 100, (100, 0), some "/active/2", some 2⟩, true, some "/active/1", some 3, now⟩

theorem stopped_lasted {o : Observation} (ho : Fails [stoppedAt 0] o)
    (hnow : activationFailureGrace ≤ o.now) : Lasted ([stoppedAt 0] ++ [o]) o.now := by
  refine ⟨[], stoppedAt 0, [o], rfl, rfl, ?_, by change 0 + _ ≤ _; omega⟩
  have hfirst : Steady [] [stoppedAt 0] := (fresh_nil.failure rfl ⟨rfl, rfl⟩).steady
  exact steady_snoc.mpr ⟨hfirst, fun _ => ho⟩

/-- A requested activation that has stopped for the grace period is a failure. -/
theorem activation_verdicts_stopped :
    ReportsAt .home [stoppedAt 0] (stoppedAt activationFailureGrace)
      (.failed (failureReport .home ⟨"wlan0", 60, (60, 0), some "/active/1", some 1⟩)) := by
  have htimes : ([stoppedAt 0] ++ [stoppedAt activationFailureGrace]).Pairwise
      fun a b => a.now ≤ b.now := by decide
  have hfails : Fails [stoppedAt 0] (stoppedAt activationFailureGrace) := ⟨rfl, rfl⟩
  have hrun := (fresh_nil.failure (o := stoppedAt 0) rfl ⟨rfl, rfl⟩).snoc fun _ => hfails
  refine ((activation_verdicts .home _ _ htimes).2.1 _).mpr
    ⟨?_, rfl, ⟨rfl, stopped_lasted hfails le_rfl⟩, _, _, _, _, hrun, rfl, rfl⟩
  exact (remembers_follow .home [stoppedAt 0] (List.pairwise_singleton _ _)).1.mp rfl

/-- Success goes before failure: the requested activation has stopped for the grace period, and
the wait ends with success. -/
theorem success_over_failure :
    FailsAt [stoppedAt 0] (activatedAt activationFailureGrace) ∧
      ReportsAt .home [stoppedAt 0] (activatedAt activationFailureGrace) .connected ∧
      ∀ report, ¬ ReportsAt .home [stoppedAt 0] (activatedAt activationFailureGrace)
        (.failed report) :=
  ⟨⟨rfl, stopped_lasted ⟨rfl, rfl⟩ le_rfl⟩, ⟨rfl, rfl⟩, fun _ h => (by cases h.2)⟩

end Waiting

end NmDaemon
