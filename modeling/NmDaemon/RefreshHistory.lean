import NmDaemon.Subscriptions

/-!
# Coalesced refreshes lose no change

At most one refresh is in flight, and a change of the network or a new subscription is
answered for until a refresh was started after it: by the deadline that is pending, or by
the gate that is dirty.

* `Effect`, `step_effect` — what a turn does to the gate, the deadline and the lane;
* `Single` — the invariant of the gate: one refresh in flight, and the gate knows it;
* `Owed` — what answers for a change, from one step to the next;
* `coalesced_refreshes` — the two for every run.

Nothing is started when nobody watches what it would read, so a change that was received for
subscribers who are gone by then is not answered for (`change_for_nobody`). A refresh that the
lane refuses is not asked for again either (`change_refused`).
-/

namespace NmDaemon

namespace Subscriptions

/-- Somebody watches a stream that is shared. -/
def Watched (subscriptions : Registry) : Prop := (requiredSharedPayloads subscriptions).any = true

namespace State

/-- The refreshes in flight. -/
def outstanding (s : State) : List ℕ := s.lane ++ s.sent

/-- A refresh is submitted. -/
def submit (s : State) : State where
  __ := s
  refresh := s.refresh.started
  lane := s.lane ++ [s.submitted]
  submitted := s.submitted + 1

end State

/-! ## Asking for a refresh -/

/-- **What becomes of a refresh that is asked for.** -/
inductive Asked (s : State) : State → Request → Prop where
  | coalesced (inFlight : s.refresh.inFlight = true) :
      Asked s { s with refresh := { s.refresh with dirty := true } } .coalesced
  | unwanted (idle : s.refresh.inFlight = false) (nobody : ¬ Watched s.subscriptions) :
      Asked s s .unwanted
  | refused (idle : s.refresh.inFlight = false) (watched : Watched s.subscriptions) :
      Asked s s .refused
  | started (idle : s.refresh.inFlight = false) (watched : Watched s.subscriptions) :
      Asked s s.submit (.started s.submitted (requiredSharedPayloads s.subscriptions))

/-- Where there are no subscriptions nobody watches. -/
theorem not_watched_of_isEmpty {subscriptions : Registry}
    (h : subscriptions.pairs.isEmpty = true) : ¬ Watched subscriptions := by
  rw [Watched, requiredSharedPayloads, List.isEmpty_iff.mp h]
  decide

theorem requestSharedRefresh_asked (s : State) (admits : Bool) :
    Asked s (s.requestSharedRefresh admits).1 (s.requestSharedRefresh admits).2 := by
  rw [State.requestSharedRefresh, RefreshGate.invalidate]
  by_cases hflight : s.refresh.inFlight = true
  · rw [if_pos hflight]
    exact .coalesced hflight
  rw [if_neg hflight]
  have hidle : s.refresh.inFlight = false := Bool.not_eq_true _ ▸ hflight
  dsimp only
  rw [if_neg nofun]
  by_cases hempty : s.subscriptions.pairs.isEmpty = true
  · rw [if_pos hempty]
    exact .unwanted hidle (not_watched_of_isEmpty hempty)
  rw [if_neg hempty]
  by_cases hneeds : (requiredSharedPayloads s.subscriptions).any = false
  · rw [if_pos hneeds]
    exact .unwanted hidle (Bool.not_eq_true _ ▸ hneeds)
  rw [if_neg hneeds]
  have hwatched : Watched s.subscriptions := Bool.of_not_eq_false hneeds
  cases admits with
  | true => exact .started hidle hwatched
  | false => exact .refused hidle hwatched

/-! ## What a turn does -/

/-- The refreshes are where they were. -/
structure Same (s t : State) : Prop where
  refresh : t.refresh = s.refresh
  lane : t.lane = s.lane
  sent : t.sent = s.sent
  submitted : t.submitted = s.submitted

/-- The actor takes notice of a change or a subscriber. -/
def Action.Notices : Action → Prop
  | .receive .networkChanged _ _ => True
  | .receive (.subscribe _ _ _) alive _ => alive = true
  | _ => False

/-- **What a step does to refreshes.** -/
inductive Effect (s : State) (a : Action) (out : Output) (t : State) : Prop where
  /-- nothing, or the actor ends -/
  | other (same : Same s t) (request : out.request = none) (notices : ¬ a.Notices)
      (running : t.running = true → s.running = true)
      (deadline : t.running = true → t.networkChangeDeadline = s.networkChangeDeadline)
  /-- a change is received -/
  | noticed (same : Same s t) (request : out.request = none) (running : s.running = true)
      (deadline : t.networkChangeDeadline.isSome)
  /-- a subscriber is, or the deadline has passed -/
  | asked (u : State) (request : Request) (same : Same s u) (running : s.running = true)
      (asked : Asked u t request) (request_eq : out.request = some request)
  /-- a refresh comes back -/
  | completed (u : State) (job : ℕ) (sent : job ∈ s.sent) (running : s.running = true)
      (received : ∃ alive admits, a = .receive (.refreshed job) alive admits)
      (refresh : u.refresh = .default) (lane : u.lane = s.lane) (erased : u.sent = s.sent.erase job)
      (submitted : u.submitted = s.submitted)
      (deadline : u.networkChangeDeadline = s.networkChangeDeadline)
      (after : (s.refresh.dirty = false ∧ t = u ∧ out.request = none) ∨
        ∃ request, Asked u t request ∧ out.request = some request)
  | finished (job : ℕ) (action : a = .finish job) (lane : job ∈ s.lane)
      (state : t = { s with lane := s.lane.erase job, sent := s.sent ++ [job] })
      (request : out.request = none)
  | crashed (job : ℕ) (action : a = .crash job) (lane : job ∈ s.lane)
      (state : t = { s with lane := s.lane.erase job }) (request : out.request = none)

variable {s : State}

theorem handleControl_effect {control : Control} (admits : Bool) (hrunning : s.running = true)
    (hsent : ∀ job ∈ control.sentBy, job ∈ s.sent) (hnotice : control ≠ .networkChanged) :
    Effect s (.receive control true admits) (handleControl s admits control).2
      (handleControl s admits control).1 := by
  cases control with
  | subscribe id owner streams =>
    exact .asked { s with subscriptions := s.subscriptions.insert id (.new owner streams) } _
      ⟨rfl, rfl, rfl, rfl⟩ hrunning (requestSharedRefresh_asked _ admits) rfl
  | refreshed job =>
    refine .completed { s with sent := s.sent.erase job, refresh := .default } job (hsent job rfl)
      hrunning ⟨true, admits, rfl⟩ rfl rfl rfl rfl rfl ?_
    rw [handleControl, State.completeSharedRefresh, RefreshGate.complete]
    dsimp only
    by_cases hdirty : s.refresh.dirty = true
    · rw [if_pos hdirty]
      exact .inr ⟨_, requestSharedRefresh_asked _ admits, rfl⟩
    · rw [if_neg hdirty]
      exact .inl ⟨Bool.not_eq_true _ ▸ hdirty, rfl, rfl⟩
  | networkChanged => exact absurd rfl hnotice
  | _ => exact .other ⟨rfl, rfl, rfl, rfl⟩ rfl id id fun _ => rfl

variable {a : Action} {out : Output} {t : State}

theorem step_effect (h : step s a = some (t, out)) : Effect s a out t := by
  cases a with
  | tick ms =>
    cases h
    exact .other ⟨rfl, rfl, rfl, rfl⟩ rfl id id fun _ => rfl
  | close id =>
    cases h
    exact .other ⟨rfl, rfl, rfl, rfl⟩ rfl (fun h => h) (fun h => h) fun _ => rfl
  | finish job =>
    rw [step] at h
    split at h
    · rename_i hjob
      cases h
      exact .finished job rfl hjob rfl rfl
    · cases h
  | crash job =>
    rw [step] at h
    split at h
    · rename_i hjob
      cases h
      exact .crashed job rfl hjob rfl rfl
    · cases h
  | receive control alive admits =>
    rw [step] at h
    split at h
    · rename_i hguard
      obtain ⟨hrunning, hsent⟩ := hguard
      by_cases hnotice : control = .networkChanged
      · subst hnotice
        cases h
        exact .noticed ⟨rfl, rfl, rfl, rfl⟩ rfl hrunning rfl
      by_cases hshutdown : control = .shutdown
      · subst hshutdown
        cases h
        exact .other ⟨rfl, rfl, rfl, rfl⟩ rfl id nofun nofun
      have hreceive : s.receive control alive admits =
          if alive then handleControl s admits control else ({ s with running := false }, {}) := by
        cases control <;> first | rfl | exact absurd rfl hnotice | exact absurd rfl hshutdown
      rw [hreceive] at h
      cases alive with
      | true =>
        rw [if_pos rfl] at h
        have heffect := handleControl_effect admits hrunning hsent hnotice
        rw [Option.some.inj h] at heffect
        exact heffect
      | false =>
        cases h
        refine .other ⟨rfl, rfl, rfl, rfl⟩ rfl ?_ nofun nofun
        cases control <;> first | exact id | exact absurd rfl hnotice | exact Bool.false_ne_true
    · cases h
  | due alive admits =>
    rw [step] at h
    split at h
    · rename_i hguard
      cases alive with
      | true =>
        cases h
        exact .asked { s with networkChangeDeadline := none } _ ⟨rfl, rfl, rfl, rfl⟩ hguard.1
          (requestSharedRefresh_asked _ admits) rfl
      | false =>
        cases h
        exact .other ⟨rfl, rfl, rfl, rfl⟩ rfl id nofun nofun
    · cases h

/-! ## One refresh in flight -/

/-- The invariant of the gate. -/
structure Single (s : State) : Prop where
  one : s.outstanding.length ≤ 1
  known : s.running = true → s.outstanding ≠ [] → s.refresh.inFlight = true

theorem Same.outstanding (h : Same s t) : t.outstanding = s.outstanding := by
  rw [State.outstanding, State.outstanding, h.lane, h.sent]

theorem Single.of_same (h : Single s) (hsame : Same s t)
    (hrunning : t.running = true → s.running = true) : Single t := by
  refine ⟨hsame.outstanding ▸ h.one, fun ht hne => ?_⟩
  rw [hsame.refresh]
  exact h.known (hrunning ht) (hsame.outstanding ▸ hne)

variable {request : Request}

/-- A refresh that is asked for is started only while none is in flight. -/
theorem Single.asked (hone : s.outstanding.length ≤ 1)
    (hknown : s.outstanding ≠ [] → s.refresh.inFlight = true) (h : Asked s t request) :
    Single t := by
  cases h with
  | coalesced hflight => exact ⟨hone, fun _ _ => hflight⟩
  | unwanted => exact ⟨hone, fun _ => hknown⟩
  | refused => exact ⟨hone, fun _ => hknown⟩
  | started hidle =>
    have hnone : s.outstanding = [] := by
      by_contra hne
      rw [hknown hne] at hidle
      cases hidle
    obtain ⟨hlane, hsent⟩ := List.append_eq_nil_iff.mp hnone
    refine ⟨?_, fun _ _ => rfl⟩
    rw [State.outstanding, State.submit]
    simp [hlane, hsent]

variable {job : ℕ}

/-- The one in flight is the one that comes back. -/
theorem Single.erased {u : State} (h : Single s) (hjob : job ∈ s.sent) (hlane : u.lane = s.lane)
    (hsent : u.sent = s.sent.erase job) : u.outstanding = [] := by
  have hone := h.one
  rw [State.outstanding, List.length_append] at hone
  have hlength := List.length_pos_of_mem hjob
  have herased := List.length_erase_of_mem hjob
  rw [State.outstanding, hlane, hsent, List.append_eq_nil_iff, ← List.length_eq_zero_iff,
    ← List.length_eq_zero_iff]
  omega

theorem Effect.single (h : Effect s a out t) (hs : Single s) : Single t := by
  cases h with
  | other hsame _ _ hrunning => exact hs.of_same hsame hrunning
  | noticed hsame _ hrunning => exact hs.of_same hsame fun _ => hrunning
  | asked u request hsame hrunning hasked =>
    have hu := hs.of_same hsame fun _ => hrunning
    refine Single.asked hu.one (fun hne => ?_) hasked
    rw [hsame.refresh]
    exact hs.known hrunning (hsame.outstanding ▸ hne)
  | completed u job hjob hrunning _ hrefresh hlane hsent _ _ hafter =>
    have hnone := hs.erased hjob hlane hsent
    rcases hafter with ⟨-, rfl, -⟩ | ⟨request, hasked, -⟩
    · exact ⟨by rw [hnone]; exact Nat.zero_le 1, fun _ hne => absurd hnone hne⟩
    · exact Single.asked (by rw [hnone]; exact Nat.zero_le 1) (fun hne => absurd hnone hne) hasked
  | finished job _ hjob hstate =>
    subst hstate
    have hlength : (s.lane.erase job ++ (s.sent ++ [job])).length = (s.lane ++ s.sent).length := by
      have hpos := List.length_pos_of_mem hjob
      simp only [List.length_append, List.length_erase_of_mem hjob, List.length_singleton]
      omega
    refine ⟨hlength ▸ hs.one, fun hrunning _ => ?_⟩
    exact hs.known hrunning (List.append_ne_nil_of_left_ne_nil (List.ne_nil_of_mem hjob) _)
  | crashed job _ hjob hstate =>
    subst hstate
    have hlength : (s.lane.erase job ++ s.sent).length ≤ (s.lane ++ s.sent).length := by
      simp only [List.length_append]
      exact Nat.add_le_add_right (List.length_erase_le) _
    refine ⟨hlength.trans hs.one, fun hrunning _ => ?_⟩
    exact hs.known hrunning (List.append_ne_nil_of_left_ne_nil (List.ne_nil_of_mem hjob) _)

/-! ## What becomes of a refresh -/

/-- One entry of a history. -/
abbrev Entry : Type := Action × Output

/-- The refresh was started. -/
def Started (log : List Entry) (job : ℕ) : Prop :=
  ∃ e ∈ log, ∃ needs, e.2.request = some (.started job needs)

/-- The refresh came back. -/
def Completed (log : List Entry) (job : ℕ) : Prop :=
  ∃ e ∈ log, ∃ alive admits, e.1 = .receive (.refreshed job) alive admits

/-- The refresh panicked. -/
def Crashed (log : List Entry) (job : ℕ) : Prop := ∃ e ∈ log, e.1 = .crash job

theorem Asked.keeps (h : Asked s t request) (hjob : job ∈ s.outstanding) : job ∈ t.outstanding := by
  cases h with
  | started =>
    rcases List.mem_append.mp hjob with hlane | hsent
    · exact List.mem_append_left _ (List.mem_append_left _ hlane)
    · exact List.mem_append_right _ hsent
  | _ => exact hjob

theorem Asked.starts {needs : SharedPayloadDemand} (h : Asked s t (.started job needs)) :
    job ∈ t.outstanding := by
  cases h
  exact List.mem_append_left _ (List.mem_append_right _ (List.mem_singleton_self _))

/-- A refresh that is in flight or started is in flight, comes back or panics. -/
theorem Effect.tracks (h : Effect s a out t) (hjob : job ∈ s.outstanding ∨ Started [(a, out)] job) :
    job ∈ t.outstanding ∨ Completed [(a, out)] job ∨ Crashed [(a, out)] job := by
  have hstarted : Started [(a, out)] job → ∃ needs, out.request = some (.started job needs) := by
    rintro ⟨e, he, hrequest⟩
    rwa [List.mem_singleton.mp he] at hrequest
  have hidle : out.request = none → job ∈ s.outstanding := by
    intro hnone
    refine hjob.resolve_right fun hstart => ?_
    obtain ⟨needs, hrequest⟩ := hstarted hstart
    rw [hnone] at hrequest
    cases hrequest
  have hasked : ∀ {u : State} {request : Request}, Asked u t request → out.request = some request →
      (job ∈ s.outstanding → job ∈ u.outstanding) → job ∈ t.outstanding := by
    intro u request hasked hrequest hkept
    rcases hjob with hold | hnew
    · exact hasked.keeps (hkept hold)
    · obtain ⟨needs, hrequest'⟩ := hstarted hnew
      cases hrequest.symm.trans hrequest'
      exact hasked.starts
  cases h with
  | other hsame hnone | noticed hsame hnone =>
    left
    rw [hsame.outstanding]
    exact hidle hnone
  | asked u request hsame _ hask hrequest =>
    exact .inl (hasked hask hrequest fun h => hsame.outstanding ▸ h)
  | completed u other hother _ hreceived _ hlane hsent _ _ hafter =>
    obtain ⟨alive, admits, rfl⟩ := hreceived
    by_cases hsame : job = other
    · subst hsame
      exact .inr (.inl ⟨_, List.mem_singleton_self _, alive, admits, rfl⟩)
    have hkept : job ∈ s.outstanding → job ∈ u.outstanding := by
      intro h
      rw [State.outstanding, hlane, hsent]
      rcases List.mem_append.mp h with h | h
      · exact List.mem_append_left _ h
      · exact List.mem_append_right _ ((List.mem_erase_of_ne hsame).mpr h)
    left
    rcases hafter with ⟨-, rfl, hnone⟩ | ⟨request, hask, hrequest⟩
    · exact hkept (hidle hnone)
    · exact hasked hask hrequest hkept
  | finished other _ hother hstate hnone =>
    subst hstate
    left
    rcases List.mem_append.mp (hidle hnone) with h | h
    · by_cases hsame : job = other
      · exact List.mem_append_right _ (List.mem_append_right _ (List.mem_singleton.mpr hsame))
      · exact List.mem_append_left _ ((List.mem_erase_of_ne hsame).mpr h)
    · exact List.mem_append_right _ (List.mem_append_left _ h)
  | crashed other ha hother hstate hnone =>
    subst hstate
    by_cases hsame : job = other
    · subst hsame
      exact .inr (.inr ⟨_, List.mem_singleton_self _, ha⟩)
    · left
      rcases List.mem_append.mp (hidle hnone) with h | h
      · exact List.mem_append_left _ ((List.mem_erase_of_ne hsame).mpr h)
      · exact List.mem_append_right _ h

variable {log : List Entry}

theorem run_tracks (run : actor.Run s log t) (hjob : job ∈ s.outstanding ∨ Started log job) :
    job ∈ t.outstanding ∨ Completed log job ∨ Crashed log job := by
  revert hjob
  refine run.invariant (fun log t => job ∈ s.outstanding ∨ Started log job →
    job ∈ t.outstanding ∨ Completed log job ∨ Crashed log job) ?_ ?_
  · rintro (hold | ⟨e, he, -⟩)
    · exact .inl hold
    · cases he
  intro log u t a out _ ih hstep hjob
  have hbefore : (job ∈ u.outstanding ∨ Started [(a, out)] job) ∨
      Completed log job ∨ Crashed log job := by
    rcases hjob with hold | ⟨e, he, hstart⟩
    · rcases ih (.inl hold) with h | h
      · exact .inl (.inl h)
      · exact .inr h
    · rcases List.mem_append.mp he with he | he
      · rcases ih (.inr ⟨e, he, hstart⟩) with h | h
        · exact .inl (.inl h)
        · exact .inr h
      · exact .inl (.inr ⟨e, he, hstart⟩)
  rcases hbefore with hnow | ⟨e, he, h⟩ | ⟨e, he, h⟩
  · rcases (step_effect hstep).tracks hnow with h | ⟨e, he, h⟩ | ⟨e, he, h⟩
    · exact .inl h
    · exact .inr (.inl ⟨e, List.mem_append_right _ he, h⟩)
    · exact .inr (.inr ⟨e, List.mem_append_right _ he, h⟩)
  · exact .inr (.inl ⟨e, List.mem_append_left _ he, h⟩)
  · exact .inr (.inr ⟨e, List.mem_append_left _ he, h⟩)

/-! ## What answers for a change -/

/-- Another refresh is going to be asked for. -/
def Owed (s : State) : Prop :=
  s.networkChangeDeadline.isSome ∨ (s.refresh.dirty = true ∧ s.refresh.inFlight = true)

/-- A step in which a refresh was asked for and not started. -/
def Output.Dropped (out : Output) : Prop :=
  out.request = some .unwanted ∨ out.request = some .refused

/-- A refresh that is asked for is owed, started or dropped. -/
theorem Asked.owed (h : Asked s t request) (hrequest : out.request = some request) :
    Owed t ∨ (∃ job needs, out.request = some (.started job needs)) ∨ out.Dropped := by
  cases h with
  | coalesced hflight => exact .inl (.inr ⟨rfl, hflight⟩)
  | unwanted => exact .inr (.inr (.inl hrequest))
  | refused => exact .inr (.inr (.inr hrequest))
  | started => exact .inr (.inl ⟨_, _, hrequest⟩)

theorem Effect.running (h : Effect s a out t) (ht : t.running = true) : s.running = true := by
  cases h with
  | other _ _ _ hrunning => exact hrunning ht
  | noticed _ _ hrunning => exact hrunning
  | asked _ _ _ hrunning => exact hrunning
  | completed _ _ _ hrunning => exact hrunning
  | finished _ _ _ hstate =>
    subst hstate
    exact ht
  | crashed _ _ _ hstate =>
    subst hstate
    exact ht

/-- **The step lemma**: what is owed stays owed until it is started or dropped. -/
theorem Effect.owed (h : Effect s a out t) (hs : Owed s) (ht : t.running = true) :
    Owed t ∨ (∃ job needs, out.request = some (.started job needs)) ∨ out.Dropped := by
  cases h with
  | other hsame _ _ _ hdeadline =>
    left
    rwa [Owed, hdeadline ht, hsame.refresh]
  | noticed hsame _ _ hdeadline => exact .inl (.inl hdeadline)
  | asked u request _ _ hask hrequest => exact hask.owed hrequest
  | completed u _ _ _ _ _ _ _ _ hdeadline hafter =>
    rcases hafter with ⟨hclean, rfl, -⟩ | ⟨request, hask, hrequest⟩
    · -- a clean gate owed nothing
      rcases hs with hdue | ⟨hdirty, -⟩
      · exact .inl (.inl (hdeadline ▸ hdue))
      · rw [hclean] at hdirty
        cases hdirty
    · exact hask.owed hrequest
  | finished _ _ _ hstate | crashed _ _ _ hstate =>
    subst hstate
    exact .inl hs

/-- What is noticed is owed or started, unless the lane refuses it. -/
theorem Effect.notices (h : Effect s a out t) (ha : a.Notices) (ht : Watched t.subscriptions) :
    Owed t ∨ (∃ job needs, out.request = some (.started job needs)) ∨
      out.request = some .refused := by
  cases h with
  | other _ _ hnotices => exact absurd ha hnotices
  | noticed _ _ _ hdeadline => exact .inl (.inl hdeadline)
  | asked u request _ _ hask hrequest =>
    rcases hask.owed hrequest with h | h | h | h
    · exact .inl h
    · exact .inr (.inl h)
    · cases hrequest.symm.trans h
      cases hask with
      | unwanted _ hnobody => exact absurd ht hnobody
    · exact .inr (.inr h)
  | completed _ _ _ _ hreceived =>
    obtain ⟨alive, admits, rfl⟩ := hreceived
    cases ha
  | finished _ haction | crashed _ haction =>
    subst haction
    cases ha

/-- **The run lemma.** -/
theorem run_owed (run : actor.Run s log t) (hs : Owed s) (ht : t.running = true) :
    Owed t ∨ (∃ job, Started log job) ∨ ∃ e ∈ log, e.2.Dropped := by
  revert ht
  refine run.invariant (fun log t => t.running = true →
    Owed t ∨ (∃ job, Started log job) ∨ ∃ e ∈ log, e.2.Dropped) (fun _ => .inl hs) ?_
  intro log u t a out _ ih hstep ht
  have heffect := step_effect hstep
  rcases ih (heffect.running ht) with howed | ⟨job, e, he, hstart⟩ | ⟨e, he, hdropped⟩
  · rcases heffect.owed howed ht with h | ⟨job, hstart⟩ | hdropped
    · exact .inl h
    · exact .inr (.inl ⟨job, (a, out), by simp, hstart⟩)
    · exact .inr (.inr ⟨(a, out), by simp, hdropped⟩)
  · exact .inr (.inl ⟨job, e, List.mem_append_left _ he, hstart⟩)
  · exact .inr (.inr ⟨e, List.mem_append_left _ he, hdropped⟩)

/-- The gate says that a refresh is in flight only while one is, if none panics. -/
theorem run_inFlight (run : actor.Reaches log s) (hcrash : ∀ job, ¬ Crashed log job)
    (hflight : s.refresh.inFlight = true) : s.outstanding ≠ [] := by
  revert hcrash hflight
  refine run.invariant (fun log s => (∀ job, ¬ Crashed log job) → s.refresh.inFlight = true →
    s.outstanding ≠ []) nofun ?_
  intro log s t a out _ ih hstep hcrash hflight
  have hs : s.refresh.inFlight = true → s.outstanding ≠ [] :=
    ih fun job ⟨e, he, h⟩ => hcrash job ⟨e, List.mem_append_left _ he, h⟩
  have hask : ∀ {u : State} {request : Request}, Asked u t request →
      (u.refresh.inFlight = true → u.outstanding ≠ []) → t.outstanding ≠ [] := by
    intro u request hasked hu
    cases hasked with
    | coalesced h => exact hu h
    | unwanted => exact hu hflight
    | refused => exact hu hflight
    | started => simp [State.outstanding, State.submit]
  cases step_effect hstep with
  | other hsame | noticed hsame =>
    rw [hsame.outstanding]
    exact hs (hsame.refresh ▸ hflight)
  | asked u request hsame _ hasked =>
    refine hask hasked fun hu => ?_
    rw [hsame.outstanding]
    exact hs (hsame.refresh ▸ hu)
  | completed u _ _ _ _ hrefresh _ _ _ _ hafter =>
    have hu : u.refresh.inFlight = true → u.outstanding ≠ [] := by
      rw [hrefresh]
      nofun
    rcases hafter with ⟨-, rfl, -⟩ | ⟨request, hasked, -⟩
    · exact hu hflight
    · exact hask hasked hu
  | finished job _ _ hstate =>
    subst hstate
    simp [State.outstanding]
  | crashed job haction =>
    exact absurd ⟨(a, out), by simp, haction⟩ (hcrash job)

/-! ## Every run -/

/-- What was received at the first entry of a history is answered for: a deadline is pending, the
gate is dirty while a refresh is in flight, or a refresh that started since is in flight or came
back. -/
def Answered (since : List Entry) (s : State) : Prop :=
  s.networkChangeDeadline.isSome ∨
  (s.refresh.dirty = true ∧ s.outstanding ≠ []) ∨
  ∃ job, Started since job ∧ (job ∈ s.outstanding ∨ Completed since job)

/-- A refresh that was started since a step is accounted for, if none panics. -/
theorem Started.settled {pre post : List Entry} {u : State}
    (h : actor.Moment log s pre u a out t post) (hcrash : ∀ job, ¬ Crashed log job)
    (hjob : Started ((a, out) :: post) job) :
    job ∈ s.outstanding ∨ Completed ((a, out) :: post) job := by
  have htracked := run_tracks ((Machine.Run.single h.step).append h.after) (.inr hjob)
  rcases htracked with hin | hcame | ⟨e, he, hpanic⟩
  · exact .inl hin
  · exact .inr hcame
  · exact absurd ⟨e, h.split ▸ List.mem_append_right _ he, hpanic⟩ (hcrash job)

/-- **Coalesced refreshes lose no change.** In every run of the actor at most one refresh is in
flight, and the gate knows of it. If no refresh panics, the gate says that one is in flight only
while one is, and whenever a change of the network or a new subscription was received while
somebody watched a shared stream, it is answered for as long as the actor runs and no refresh that
was asked for since then was refused by the lane or wanted by nobody. -/
theorem coalesced_refreshes {log : List Entry} {s : State} (run : actor.Run actor.start log s) :
    s.outstanding.length ≤ 1 ∧
    (s.running = true → s.outstanding ≠ [] → s.refresh.inFlight = true) ∧
    ((∀ job, ¬ Crashed log job) → (s.refresh.inFlight = true → s.outstanding ≠ []) ∧
      ∀ (pre post : List Entry) (u t : State) (a : Action) (out : Output),
        actor.Moment log s pre u a out t post → a.Notices → Watched t.subscriptions →
        s.running = true → (∀ e ∈ (a, out) :: post, e.2.request ≠ some .refused) →
        (∀ e ∈ post, e.2.request ≠ some .unwanted) → Answered ((a, out) :: post) s) := by
  have hsingle : Single s := by
    refine run.preserves Single (fun t t' a o ht hstep => (step_effect hstep).single ht) ?_
    exact ⟨Nat.zero_le 1, fun _ h => absurd rfl h⟩
  refine ⟨hsingle.one, hsingle.known, fun hcrash => ⟨run_inFlight run hcrash, ?_⟩⟩
  intro pre post u t a out h ha hwatched hrunning hrefused hwanted
  have hstarted : ∀ job, Started ((a, out) :: post) job → Answered ((a, out) :: post) s :=
    fun job hjob => .inr (.inr ⟨job, hjob, hjob.settled h hcrash⟩)
  have howed : Owed s → Answered ((a, out) :: post) s := by
    rintro (hdue | ⟨hdirty, hflight⟩)
    · exact .inl hdue
    · exact .inr (.inl ⟨hdirty, run_inFlight run hcrash hflight⟩)
  rcases (step_effect h.step).notices ha hwatched with hnow | ⟨job, needs, hstart⟩ | hno
  · rcases run_owed h.after hnow hrunning with
      hlater | ⟨job, e, he, hstart⟩ | ⟨e, he, hno | hno⟩
    · exact howed hlater
    · exact hstarted job ⟨e, List.mem_cons_of_mem _ he, hstart⟩
    · exact absurd hno (hwanted e he)
    · exact absurd hno (hrefused e (List.mem_cons_of_mem _ he))
  · exact hstarted job ⟨_, List.mem_cons_self .., needs, hstart⟩
  · exact absurd hno (hrefused _ (List.mem_cons_self ..))

/-! ## What is lost -/

/-- Somebody subscribes to the status, and the first refresh is in flight. -/
def subscribed : List Action := [.receive (.subscribe "s" (some ":5") [.wifiStatus]) true true]

/-- The subscriber has seen the first refresh. -/
def settled : List Action := subscribed ++ [.finish 0, .receive (.refreshed 0) true true]

/-- The network changes. -/
def changed : Action := .receive .networkChanged true true

theorem not_crashed (h : ∀ job, .crash job ∉ log.map Prod.fst) (job : ℕ) : ¬ Crashed log job := by
  rintro ⟨e, he, hpanic⟩
  exact h job (hpanic ▸ List.mem_map_of_mem he)

/-- In some run without a panic a change is not answered for although somebody watches, with these
requests of refreshes from the change on. -/
def ChangeLost (requests : List (Option Request)) : Prop :=
  ∃ log pre post s u t out, actor.Moment log s pre u changed out t post ∧
    (∀ job, ¬ Crashed log job) ∧ Watched t.subscriptions ∧ s.running = true ∧
    ¬ Answered ((changed, out) :: post) s ∧
    ((changed, out) :: post).map (fun e => e.2.request) = requests

/-- A run in which nothing is left of a change after some more actions. -/
theorem change_lost (more : List Action) {requests : List (Option Request)}
    (h : ((actor.exec actor.start settled).bind fun r =>
      (actor.step r.2 changed).bind fun r' =>
      (actor.exec r'.1 more).map fun r'' =>
        ((requiredSharedPayloads r'.1.subscriptions).any && r''.2.running,
          r''.2.networkChangeDeadline, r''.2.refresh,
          ((changed, r'.2) :: r''.1).map fun e => e.2.request)) =
      some (true, none, .default, requests))
    (hrequests : ∀ job needs, some (.started job needs) ∉ requests)
    (hcrash : ∀ job, .crash job ∉ settled ++ changed :: more) : ChangeLost requests := by
  obtain ⟨⟨pre, u⟩, hpre, h⟩ := Option.bind_eq_some_iff.mp h
  obtain ⟨⟨t, out⟩, hstep, h⟩ := Option.bind_eq_some_iff.mp h
  obtain ⟨⟨post, s⟩, hpost, h⟩ := Option.map_eq_some_iff.mp h
  simp only [Prod.mk.injEq] at h
  obtain ⟨hboth, hdeadline, hrefresh, hlog⟩ := h
  obtain ⟨hwatched, hrunning⟩ := Bool.and_eq_true_iff.mp hboth
  refine ⟨_, pre, post, s, u, t, out,
    ⟨rfl, actor.exec_run _ _ hpre, hstep, actor.exec_run _ _ hpost⟩, ?_, hwatched, hrunning, ?_, hlog⟩
  · refine not_crashed ?_
    rwa [List.map_append, List.map_cons, actor.exec_actions _ _ hpre, actor.exec_actions _ _ hpost]
  rintro (hdue | ⟨hdirty, -⟩ | ⟨job, ⟨e, he, needs, hstart⟩, -⟩)
  · rw [hdeadline] at hdue
    cases hdue
  · rw [hrefresh] at hdirty
    cases hdirty
  · refine hrequests job needs (hlog ▸ ?_)
    rw [← hstart]
    exact List.mem_map_of_mem he

/-- A change is not answered for when its subscribers are gone before the deadline. -/
theorem change_for_nobody :
    ¬ ∀ (log pre post : List Entry) (s u t : State) (a : Action) (out : Output),
      actor.Moment log s pre u a out t post → (∀ job, ¬ Crashed log job) → a.Notices →
      Watched t.subscriptions → s.running = true → Answered ((a, out) :: post) s := by
  intro hclaim
  obtain ⟨log, pre, post, s, u, t, out, hmoment, hcrash, hwatched, hrunning, hlost, -⟩ :=
    change_lost [.receive (.cancelSubscription "s" (some ":5") false) true true, .tick 75,
      .due true true] (by decide +kernel : _ = some (_, _, _, [none, none, none, some .unwanted]))
      (by simp) (by simp [settled, subscribed, changed])
  exact hlost (hclaim log pre post s u t changed out hmoment hcrash trivial hwatched hrunning)

/-- Nor is one whose refresh the lane refuses, while its subscriber is still there. -/
theorem change_refused : ChangeLost [none, none, some .refused] :=
  change_lost [.tick 75, .due true false] (by decide +kernel) (by simp)
    (by simp [settled, subscribed, changed])

/-- A change while a refresh is in flight makes the gate dirty. -/
theorem dirty_run :
    ((actor.exec actor.start subscribed).bind fun r =>
      (actor.step r.2 changed).bind fun r' =>
      (actor.exec r'.1 [.tick 75, .due true true]).map fun r'' =>
        ((requiredSharedPayloads r'.1.subscriptions).any && r''.2.running, r''.2.refresh,
          r''.2.outstanding, ((changed, r'.2) :: r''.1).map fun e => e.2.request)) =
      some (true, ⟨true, true⟩, [0], [none, none, some .coalesced]) := by
  decide +kernel

theorem coalesced_refreshes_dirty :
    ∃ log pre post s u t out, actor.Moment log s pre u changed out t post ∧
      Watched t.subscriptions ∧ s.outstanding = [0] ∧ s.outstanding.length ≤ 1 ∧
      Answered ((changed, out) :: post) s := by
  obtain ⟨⟨pre, u⟩, hpre, h⟩ := Option.bind_eq_some_iff.mp dirty_run
  obtain ⟨⟨t, out⟩, hstep, h⟩ := Option.bind_eq_some_iff.mp h
  obtain ⟨⟨post, s⟩, hpost, h⟩ := Option.map_eq_some_iff.mp h
  simp only [Prod.mk.injEq] at h
  obtain ⟨hboth, -, houtstanding, hlog⟩ := h
  obtain ⟨hwatched, hrunning⟩ := Bool.and_eq_true_iff.mp hboth
  have hmoment : actor.Moment _ s pre u changed out t post :=
    ⟨rfl, actor.exec_run _ _ hpre, hstep, actor.exec_run _ _ hpost⟩
  have hrequests : ∀ e ∈ (changed, out) :: post, e.2.request ∈ [none, none, some .coalesced] := by
    intro e he
    rw [← hlog]
    exact List.mem_map_of_mem he
  have hcrash : ∀ job, ¬ Crashed (pre ++ (changed, out) :: post) job := by
    refine not_crashed ?_
    rw [List.map_append, List.map_cons, actor.exec_actions _ _ hpre, actor.exec_actions _ _ hpost]
    simp [subscribed, changed]
  obtain ⟨hone, -, hanswers⟩ := coalesced_refreshes hmoment.run
  obtain ⟨-, hanswered⟩ := hanswers hcrash
  refine ⟨_, pre, post, s, u, t, out, hmoment, hwatched, houtstanding, hone,
    hanswered pre post u t changed out hmoment trivial hwatched hrunning ?_ ?_⟩
  · intro e he heq
    have hmem := hrequests e he
    rw [heq] at hmem
    revert hmem
    decide
  · intro e he heq
    have hmem := hrequests e (List.mem_cons_of_mem _ he)
    rw [heq] at hmem
    revert hmem
    decide

end Subscriptions

end NmDaemon
