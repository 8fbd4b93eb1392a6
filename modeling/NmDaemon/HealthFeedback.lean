import NmDaemon.Base.Json
import NmDaemon.Base.Machine
import NmDaemon.Base.Table

/-!
# Health feedback

`daemon_runtime/health_feedback.rs`: a health event is projected for each owner before it is
sent. The daemon marks failures as worth a notification; the projection takes the mark away
while the owner is connecting itself, and when the same failure was recommended to the owner
less than three seconds ago. What it remembers of an owner is the last recommendation alone.

* `project_event` — what a projection gives and remembers, in one equation;
* `remembered` — the memory of a run is `lastRecommended` of its log: the last
  recommendation to the owner, unless the owner was dropped since;
* `recommendations_apart` — so two recommendations of one failure are three seconds apart,
  as long as no other one and no drop came between them;
* `owner_run` — the events of one owner alone give that owner the same.

Events carry the moment of their projection in nanoseconds of the monotonic clock.
-/

namespace NmDaemon

namespace Health

/-! ## The projection -/

/-- What is remembered: for an owner, what was recommended last and when. -/
structure HealthFeedback : Type where
  last : Table String (String × ℕ)

namespace HealthFeedback

def default : HealthFeedback := ⟨∅⟩

def dropOwner (feedback : HealthFeedback) (owner : String) : HealthFeedback :=
  ⟨feedback.last.erase owner⟩

end HealthFeedback

def recommendedKey : String := "notification_recommended"

/-- The fields that say what an event is about; the first one with a text counts. -/
def identityKeys : List String :=
  ["device_path", "active_connection_path", "profile_path", "uuid", "id", "device_iface",
    "connection_type"]

def identity (health : Json) : String :=
  (identityKeys.findSome? fun key => (health.index key).asStr.filter fun v => v ≠ "").getD "network"

def stateName (health : Json) : String := (health.index "state_name").asStr.getD "unknown"

def reasonName (health : Json) : String :=
  ((health.index "reason").index "name").asStr.getD "unknown"

def notificationKey (health : Json) : String :=
  identity health ++ "|" ++ stateName health ++ "|" ++ reasonName health

/-- Three seconds. -/
def repeatWindow : ℕ := 3 * 1000000000

namespace HealthFeedback

/-- This was recommended to the owner last, and a moment ago. -/
def duplicate (feedback : HealthFeedback) (owner key : String) (now : ℕ) : Bool :=
  (feedback.last.lookup owner).any fun (old, moment) => old = key && now - moment < repeatWindow

/-- The event for one owner. There is none for a value that cannot have a health field: the
source panics there. -/
def project (feedback : HealthFeedback) (owner : String) (data : Json) (connecting : Bool)
    (now : ℕ) : Option (HealthFeedback × Json) := do
  -- borrowing the field adds it where it is missing
  let data ← data.reach "health"
  let health := data.index "health"
  if health.index recommendedKey ≠ .bool true then
    return (feedback, data)
  let key := notificationKey health
  if connecting || feedback.duplicate owner key now then
    let health ← health.set recommendedKey (.bool false)
    let data ← data.set "health" health
    return (feedback, data)
  else
    return (⟨feedback.last.insert owner (key, now)⟩, data)

end HealthFeedback

/-! ## Health events -/

/-- An event as the daemon publishes it: an object with the description of the transition. -/
structure HealthEvent : Type where
  data : Json
  health : List (String × Json)
  described : data.get "health" = some (.obj health)

/-- The data asks for a notification. -/
def Recommended (data : Json) : Prop := (data.index "health").index recommendedKey = .bool true

instance (data : Json) : Decidable (Recommended data) := inferInstanceAs (Decidable (_ = _))

/-- The data with the mark taken away. -/
def withheld (data : Json) : Json :=
  data.put "health" ((data.index "health").put recommendedKey (.bool false))

/-- Everything in the data but the mark. -/
def withoutMark (data : Json) : Json :=
  data.put "health" ((data.index "health").erase recommendedKey)

namespace HealthEvent

variable (event : HealthEvent)

def key : String := notificationKey (.obj event.health)

/-- Two events report one failure: they are about the same thing, in the same state, for the
same reason. -/
def SameFailure (event other : HealthEvent) : Prop :=
  identity (.obj event.health) = identity (.obj other.health) ∧
    stateName (.obj event.health) = stateName (.obj other.health) ∧
    reasonName (.obj event.health) = reasonName (.obj other.health)

variable {event} in
theorem SameFailure.key_eq {other : HealthEvent} (h : event.SameFailure other) :
    event.key = other.key := by
  rw [key, key, notificationKey, notificationKey, h.1, h.2.1, h.2.2]

theorem index_health : event.data.index "health" = .obj event.health := by
  rw [Json.index, event.described]
  rfl

theorem exists_fields : ∃ fields, event.data = .obj fields := Json.eq_obj_of_get event.described

theorem not_recommended_withheld : ¬ Recommended (withheld event.data) := by
  obtain ⟨fields, hfields⟩ := event.exists_fields
  rw [Recommended, withheld, event.index_health, hfields, Json.index_put_self,
    Json.index_put_self]
  simp

theorem withoutMark_withheld : withoutMark (withheld event.data) = withoutMark event.data := by
  obtain ⟨fields, hfields⟩ := event.exists_fields
  rw [withoutMark, withoutMark, withheld, event.index_health, hfields, Json.index_put_self,
    Json.put_put, Json.erase_put]

/-- The mark is taken away, or the event is remembered as recommended, or there is no mark. -/
theorem project_event (feedback : HealthFeedback) (owner : String) (connecting : Bool)
    (now : ℕ) :
    feedback.project owner event.data connecting now =
      some (if Recommended event.data then
          if connecting || feedback.duplicate owner event.key now then
            (feedback, withheld event.data)
          else (⟨feedback.last.insert owner (event.key, now)⟩, event.data)
        else (feedback, event.data)) := by
  obtain ⟨fields, hfields⟩ := event.exists_fields
  rw [HealthFeedback.project, Json.reach_of_get event.described]
  simp only [Option.pure_def, Option.bind_eq_bind, Option.bind_some]
  by_cases hmark : Recommended event.data
  · have hmark' : (event.data.index "health").index recommendedKey = .bool true := hmark
    rw [if_neg (not_not.mpr hmark'), if_pos hmark, event.index_health]
    by_cases hsuppress : (connecting || feedback.duplicate owner event.key now) = true
    · have hsuppress' : (connecting ||
        feedback.duplicate owner (notificationKey (.obj event.health)) now) = true := hsuppress
      rw [if_pos hsuppress, if_pos hsuppress', withheld, event.index_health, hfields]
      rfl
    · have hsuppress' : ¬ (connecting ||
        feedback.duplicate owner (notificationKey (.obj event.health)) now) = true := hsuppress
      rw [if_neg hsuppress, if_neg hsuppress']
      rfl
  · have hmark' : (event.data.index "health").index recommendedKey ≠ .bool true := hmark
    rw [if_pos hmark', if_neg hmark]

end HealthEvent

/-! ## Runs -/

inductive Action : Type where
  | project (owner : String) (event : HealthEvent) (connecting : Bool) (now : ℕ)
  | dropOwner (owner : String)

/-- The action, with the data sent to the owner if it is a projection. -/
abbrev Entry : Type := Action × Option Json

def step (feedback : HealthFeedback) : Action → Option (HealthFeedback × Option Json)
  | .project owner event connecting now =>
    (feedback.project owner event.data connecting now).map fun (feedback, data) =>
      (feedback, some data)
  | .dropOwner owner => some (feedback.dropOwner owner, none)

def machine : Machine HealthFeedback Action (Option Json) := ⟨.default, step⟩

namespace Action

def owner : Action → String
  | .project owner .. => owner
  | .dropOwner owner => owner

def time : Action → Option ℕ
  | .project _ _ _ now => some now
  | .dropOwner _ => none

end Action

/-- The projections come in the order of the clock. -/
def Forward (actions : List Action) : Prop := (actions.filterMap Action.time).Pairwise (· ≤ ·)

instance (actions : List Action) : Decidable (Forward actions) :=
  inferInstanceAs (Decidable (List.Pairwise _ _))

/-- The entry recommends the event to the owner, at that moment. -/
def Recommends (owner : String) (event : HealthEvent) (now : ℕ) (e : Entry) : Prop :=
  ∃ connecting data, e = (.project owner event connecting now, some data) ∧ Recommended data

/-- What one entry leaves in the memory of an owner. -/
def recalled (owner : String) (memory : Option (String × ℕ)) : Entry → Option (String × ℕ)
  | (.project other event _ now, some data) =>
    if other = owner ∧ Recommended data then some (event.key, now) else memory
  | (.project .., none) => memory
  | (.dropOwner other, _) => if other = owner then none else memory

/-- The last recommendation to the owner, unless the owner was dropped since. -/
def lastRecommended (owner : String) (log : List Entry) : Option (String × ℕ) :=
  log.foldl (recalled owner) none

theorem lastRecommended_snoc (owner : String) (log : List Entry) (e : Entry) :
    lastRecommended owner (log ++ [e]) = recalled owner (lastRecommended owner log) e :=
  List.foldl_concat ..

variable {feedback feedback' : HealthFeedback} {now : ℕ} {o : Option Json}

/-- What the projection of an event can do. -/
theorem step_project_cases {owner : String} {event : HealthEvent} {connecting : Bool}
    (h : step feedback (.project owner event connecting now) = some (feedback', o)) :
    (¬ Recommended event.data ∧ feedback' = feedback ∧ o = some event.data) ∨
      (Recommended event.data ∧ feedback' = feedback ∧ o = some (withheld event.data)) ∨
      (Recommended event.data ∧ connecting = false ∧
        feedback.duplicate owner event.key now = false ∧
        feedback' = ⟨feedback.last.insert owner (event.key, now)⟩ ∧ o = some event.data) := by
  rw [step, event.project_event, Option.map_some, Option.some.injEq] at h
  by_cases hmark : Recommended event.data
  · rw [if_pos hmark] at h
    by_cases hsuppress : (connecting || feedback.duplicate owner event.key now) = true
    · rw [if_pos hsuppress] at h
      cases h
      exact .inr (.inl ⟨hmark, rfl, rfl⟩)
    · rw [if_neg hsuppress] at h
      cases h
      obtain ⟨hconnecting, hdup⟩ : connecting = false ∧
          feedback.duplicate owner event.key now = false := by simpa using hsuppress
      exact .inr (.inr ⟨hmark, hconnecting, hdup, rfl, rfl⟩)
  · rw [if_neg hmark] at h
    cases h
    exact .inl ⟨hmark, rfl, rfl⟩

/-- One step remembers as `recalled` says. -/
theorem step_recall {a : Action} (h : step feedback a = some (feedback', o)) (owner : String) :
    feedback'.last.lookup owner = recalled owner (feedback.last.lookup owner) (a, o) := by
  cases a with
  | dropOwner other =>
    cases h
    rw [recalled, HealthFeedback.dropOwner, Table.lookup_erase_ite]
    simp only [eq_comm]
  | project other event connecting now =>
    obtain ⟨hmark, rfl, rfl⟩ | ⟨-, rfl, rfl⟩ | ⟨hmark, -, -, rfl, rfl⟩ := step_project_cases h
    · rw [recalled, if_neg fun hc => hmark hc.2]
    · rw [recalled, if_neg fun hc => event.not_recommended_withheld hc.2]
    · rw [recalled, Table.lookup_insert_ite]
      simp only [hmark, and_true, eq_comm]

variable {log : List Entry} {s : HealthFeedback}

/-- The memory of a run, read off its log. -/
theorem remembered (hrun : machine.Reaches log s) (owner : String) :
    s.last.lookup owner = lastRecommended owner log := by
  refine hrun.invariant (fun log s => s.last.lookup owner = lastRecommended owner log) rfl ?_
  intro log t t' a o _ ih hstep
  rw [lastRecommended_snoc, ← ih]
  exact step_recall hstep owner

/-- What a projection needs to recommend an event, and what it sends. -/
theorem step_project {owner : String} {event : HealthEvent} {connecting : Bool} {data : Json}
    (h : step feedback (.project owner event connecting now) = some (feedback', some data)) :
    (Recommended data → connecting = false ∧ feedback.duplicate owner event.key now = false) ∧
      withoutMark data = withoutMark event.data := by
  obtain ⟨hmark, -, hdata⟩ | ⟨-, -, hdata⟩ | ⟨-, hconnecting, hdup, -, hdata⟩ :=
    step_project_cases h
  · cases hdata
    exact ⟨fun hc => absurd hc hmark, rfl⟩
  · cases hdata
    exact ⟨fun hc => absurd hc event.not_recommended_withheld, event.withoutMark_withheld⟩
  · cases hdata
    exact ⟨fun _ => ⟨hconnecting, hdup⟩, rfl⟩

/-! ## Recommendations of one failure -/

/-- While only this failure is recommended, the memory keeps it and its moment grows. -/
theorem foldl_recall {owner key : String} {moment : ℕ} {mid : List Entry}
    (hdrop : ∀ x ∈ mid, x.1 ≠ .dropOwner owner)
    (hother : ∀ x ∈ mid, ∀ event now, Recommends owner event now x → event.key = key)
    (hclock : ∀ now ∈ (mid.map Prod.fst).filterMap Action.time, moment ≤ now) :
    ∃ latest, moment ≤ latest ∧
      mid.foldl (recalled owner) (some (key, moment)) = some (key, latest) := by
  induction mid using List.reverseRecOn with
  | nil => exact ⟨moment, le_refl _, rfl⟩
  | append_singleton mid e ih =>
    rw [List.map_append, List.filterMap_append] at hclock
    obtain ⟨latest, hle, hlatest⟩ := ih
      (fun x hx => hdrop x (List.mem_append_left _ hx))
      (fun x hx => hother x (List.mem_append_left _ hx))
      (fun now hnow => hclock now (List.mem_append_left _ hnow))
    rw [List.foldl_concat, hlatest]
    have he : e ∈ mid ++ [e] := by simp
    obtain ⟨a, o⟩ := e
    cases a with
    | dropOwner other =>
      have hne : other ≠ owner := fun h => hdrop _ he (by rw [h])
      exact ⟨latest, hle, by rw [recalled, if_neg hne]⟩
    | project other event connecting now =>
      cases o with
      | none => exact ⟨latest, hle, rfl⟩
      | some data =>
        by_cases hrec : other = owner ∧ Recommended data
        · -- another recommendation of the same failure
          have hkey := hother _ he event now ⟨connecting, data, by rw [hrec.1], hrec.2⟩
          have hnow : moment ≤ now := hclock now (List.mem_append_right _ (by simp [Action.time]))
          exact ⟨now, hnow, by rw [recalled, if_pos hrec, hkey]⟩
        · exact ⟨latest, hle, by rw [recalled, if_neg hrec]⟩

theorem recommendations_apart {pre mid post : List Entry} {e e' : Entry} {owner : String}
    {event event' : HealthEvent} {moment : ℕ} (hrun : machine.Reaches log s)
    (hclock : Forward (log.map Prod.fst)) (hlog : log = pre ++ e :: (mid ++ e' :: post))
    (he : Recommends owner event moment e) (he' : Recommends owner event' now e')
    (hkey : event'.key = event.key) (hdrop : ∀ x ∈ mid, x.1 ≠ .dropOwner owner)
    (hother : ∀ x ∈ mid, ∀ other t, Recommends owner other t x → other.key = event.key) :
    moment + repeatWindow ≤ now := by
  obtain ⟨connecting, data, rfl, hdata⟩ := he
  obtain ⟨connecting', data', rfl, hdata'⟩ := he'
  subst hlog
  simp only [Forward, List.map_append, List.map_cons, List.filterMap_append, List.filterMap_cons,
    Action.time] at hclock
  obtain ⟨hclock, -⟩ := List.pairwise_cons.mp (List.pairwise_append.mp hclock).2.1
  -- the memory when the second one is projected
  rw [← List.cons_append, ← List.append_assoc] at hrun
  obtain ⟨t, t', hbefore, hstep, -⟩ := hrun.step_at
  obtain ⟨latest, hle, hlatest⟩ := foldl_recall hdrop hother
    (fun now hnow => hclock now (List.mem_append_left _ hnow))
  have hmemory : t.last.lookup owner = some (event.key, latest) := by
    rw [remembered hbefore, lastRecommended, List.foldl_append, List.foldl_cons, recalled,
      if_pos ⟨rfl, hdata⟩, hlatest]
  have hfresh := ((step_project hstep).1 hdata').2
  have hnot : ¬ now - latest < repeatWindow := by
    simpa [HealthFeedback.duplicate, hmemory, hkey] using hfresh
  have hnow : moment ≤ now := hclock now (by simp)
  simp only [repeatWindow] at hnot ⊢
  omega

/-! ## Other owners -/

/-- A step for the owner does not look at what is remembered of others. -/
theorem step_congr (other : HealthFeedback) {a : Action} (h : step feedback a = some (feedback', o))
    (hlast : other.last.lookup a.owner = feedback.last.lookup a.owner) :
    ∃ other', step other a = some (other', o) := by
  cases a with
  | dropOwner owner =>
    cases h
    exact ⟨_, rfl⟩
  | project owner event connecting now =>
    have hdup : other.duplicate owner event.key now = feedback.duplicate owner event.key now :=
      congrArg (Option.any _) hlast
    rw [step, event.project_event] at h ⊢
    rw [hdup]
    by_cases hmark : Recommended event.data
    · rw [if_pos hmark] at h ⊢
      by_cases hsuppress : (connecting || feedback.duplicate owner event.key now) = true
      · rw [if_pos hsuppress] at h ⊢
        cases h
        exact ⟨_, rfl⟩
      · rw [if_neg hsuppress] at h ⊢
        cases h
        exact ⟨_, rfl⟩
    · rw [if_neg hmark] at h ⊢
      cases h
      exact ⟨_, rfl⟩

/-- What an owner gets in a run, it gets when only its own events are projected. -/
theorem owner_run (hrun : machine.Reaches log s) (owner : String) :
    ∃ s', machine.Reaches (log.filter fun e => e.1.owner = owner) s' ∧
      s'.last.lookup owner = s.last.lookup owner := by
  refine hrun.invariant (fun log s => ∃ s',
    machine.Reaches (log.filter fun e => e.1.owner = owner) s' ∧
      s'.last.lookup owner = s.last.lookup owner) ⟨_, .nil _, rfl⟩ ?_
  intro log t t' a o _ ⟨s', hrun', hsame⟩ hstep
  rw [List.filter_append]
  by_cases ha : a.owner = owner
  · obtain ⟨s'', hstep'⟩ := step_congr s' hstep (by rw [ha, hsame])
    rw [List.filter_cons_of_pos (by simp [ha]), List.filter_nil]
    refine ⟨s'', hrun'.snoc hstep', ?_⟩
    rw [step_recall hstep', step_recall hstep, hsame]
  · rw [List.filter_cons_of_neg (by simp [ha]), List.filter_nil, List.append_nil]
    refine ⟨s', hrun', ?_⟩
    rw [step_recall hstep, hsame]
    cases a with
    | dropOwner other => exact (if_neg ha).symm
    | project other event connecting now =>
      cases o with
      | none => rfl
      | some data => exact (if_neg fun h => ha h.1).symm

/-- Every sequence of actions can be run: the projection of a health event does not fail. -/
theorem exists_run (actions : List Action) :
    ∃ log s, machine.Reaches log s ∧ log.map Prod.fst = actions := by
  induction actions using List.reverseRecOn with
  | nil => exact ⟨[], _, .nil _, rfl⟩
  | append_singleton actions a ih =>
    obtain ⟨log, s, hrun, rfl⟩ := ih
    have hstep : ∃ s' o, step s a = some (s', o) := by
      cases a with
      | dropOwner owner => exact ⟨_, _, rfl⟩
      | project owner event connecting now =>
        rw [step, event.project_event]
        exact ⟨_, _, rfl⟩
    obtain ⟨s', o, hstep⟩ := hstep
    exact ⟨log ++ [(a, o)], s', hrun.snoc hstep, by simp⟩

/-- **Health notifications.** Any sequence of health events can be projected, and when their
moments do not decrease: two events with one identity, state and reason are recommended to an
owner three seconds apart, unless the owner was dropped or another failure was recommended to
it in between; nothing is recommended to an owner that is connecting; all but the mark is
passed on; and every owner gets what it gets when only its own events are projected. -/
theorem notifications_spaced (actions : List Action) (hclock : Forward actions) :
    ∃ log s, machine.Run machine.start log s ∧ log.map Prod.fst = actions ∧
      (∀ owner event event' moment now e e' pre mid post,
        log = pre ++ e :: (mid ++ e' :: post) → Recommends owner event moment e →
        Recommends owner event' now e' → event.SameFailure event' →
        (∀ x ∈ mid, x.1 ≠ .dropOwner owner) →
        (∀ x ∈ mid, ∀ other t, Recommends owner other t x → other.SameFailure event) →
        moment + repeatWindow ≤ now) ∧
      (∀ owner event now data, (.project owner event true now, some data) ∈ log →
        ¬ Recommended data) ∧
      (∀ owner event connecting now data,
        (.project owner event connecting now, some data) ∈ log →
        withoutMark data = withoutMark event.data) ∧
      ∀ owner, ∃ s',
        machine.Run machine.start (log.filter fun e => e.1.owner = owner) s' := by
  obtain ⟨log, s, hrun, rfl⟩ := exists_run actions
  refine ⟨log, s, hrun, rfl, ?_, ?_, ?_, ?_⟩
  · intro owner event event' moment now e e' pre mid post hlog he he' hsame hdrop hother
    exact recommendations_apart hrun hclock hlog he he' hsame.key_eq.symm hdrop
      fun x hx other t h => (hother x hx other t h).key_eq
  · intro owner event now data hmem hdata
    obtain ⟨pre, post, rfl⟩ := List.append_of_mem hmem
    obtain ⟨t, t', -, hstep, -⟩ := hrun.step_at
    cases ((step_project hstep).1 hdata).1
  · intro owner event connecting now data hmem
    obtain ⟨pre, post, rfl⟩ := List.append_of_mem hmem
    obtain ⟨t, t', -, hstep, -⟩ := hrun.step_at
    exact (step_project hstep).2
  · intro owner
    obtain ⟨s', hrun', -⟩ := owner_run hrun owner
    exact ⟨s', hrun'⟩

/-- A failure of a device, as an event. -/
def deviceFailure (device : String) : HealthEvent where
  data := .obj [("health", .obj [("device_path", .str device),
    ("notification_recommended", .bool true), ("reason", .obj [("name", .str "no-secrets")]),
    ("state_name", .str "failed")]), ("request_id", .str "health-1")]
  health := [("device_path", .str device), ("notification_recommended", .bool true),
    ("reason", .obj [("name", .str "no-secrets")]), ("state_name", .str "failed")]
  described := by simp [Json.get, Json.field]

/-- Two devices fail in turn, a second apart. -/
def alternatingFailures : List Action :=
  [.project "a" (deviceFailure "/device/1") false 0,
    .project "a" (deviceFailure "/device/2") false 1000000000,
    .project "a" (deviceFailure "/device/1") false 2000000000]

/-- All three are recommended. -/
def alternatingLog : List Entry :=
  alternatingFailures.map fun a =>
    match a with
    | .project _ event _ _ => (a, some event.data)
    | .dropOwner _ => (a, none)

theorem notifications_spaced_alternating :
    Forward alternatingFailures ∧
      ∃ log s, machine.Run machine.start log s ∧ log.map Prod.fst = alternatingFailures ∧
        (∀ event moment now e e' pre post, log = pre ++ e :: ([] ++ e' :: post) →
          Recommends "a" event moment e → Recommends "a" event now e' →
          moment + repeatWindow ≤ now) ∧
        (∀ owner event connecting now data,
          (.project owner event connecting now, some data) ∈ log →
          withoutMark data = withoutMark event.data) ∧
        ∃ s', machine.Run machine.start (log.filter fun e => e.1.owner = "a") s' := by
  have hclock : Forward alternatingFailures := by decide
  obtain ⟨log, s, hrun, hactions, hspaced, -, hkept, hown⟩ :=
    notifications_spaced alternatingFailures hclock
  refine ⟨hclock, log, s, hrun, hactions, fun event moment now e e' pre post hlog he he' => ?_,
    hkept, hown "a"⟩
  exact hspaced "a" event event moment now e e' pre [] post hlog he he' ⟨rfl, rfl, rfl⟩
    (fun _ hmem => absurd hmem List.not_mem_nil) fun _ hmem => absurd hmem List.not_mem_nil

/-- A failure in between makes the owner hear of the first one again after two seconds. -/
theorem repeated_within_window :
    ¬ ∀ (log : List Entry) (s : HealthFeedback), machine.Run machine.start log s →
      Forward (log.map Prod.fst) → ∀ owner event event' moment now e e' pre mid post,
        log = pre ++ e :: (mid ++ e' :: post) → Recommends owner event moment e →
        Recommends owner event' now e' → event.SameFailure event' →
        (∀ x ∈ mid, x.1 ≠ .dropOwner owner) → moment + repeatWindow ≤ now := by
  intro h
  have hrun : machine.Run machine.start alternatingLog _ :=
    machine.exec_run machine.start alternatingFailures rfl
  have hlate := h alternatingLog _ hrun (by decide) "a" (deviceFailure "/device/1")
    (deviceFailure "/device/1") 0 2000000000 _ _ [] [_] [] rfl
    ⟨false, _, rfl, by decide⟩ ⟨false, _, rfl, by decide⟩ ⟨rfl, rfl, rfl⟩ (by simp)
  exact absurd hlate (by decide)

end Health

end NmDaemon
