import Mathlib.Logic.Relation
import NmDaemon.Base.Machine
import NmDaemon.Base.Json

/-!
# Status observations

`daemon_status/observation.rs`: all reads and watches of the Wi-Fi status share one
owner of its publication identity. A capture holds the capture lock for as long as
the NetworkManager read takes; an invalidation only takes the state lock, so it can
arrive at any moment, also while a capture runs. A capture remembers the generation
it began in and publishes only if that is still the current one.

An observation is identified by its epoch and its revision. The revision moves with
the value and never passes `maxRevision`, the largest integer every client can hold
exactly; then a fresh epoch begins, which names the one before it.

Epoch ids are `uuid 0`, `uuid 1`, … for a supply `uuid` that never repeats.
-/

namespace NmDaemon

namespace Observation

/-- The largest revision, `2^53 - 1`. -/
def maxRevision : ℕ := 2 ^ 53 - 1

/-- What the state lock protects. -/
structure State : Type where
  generation : ℕ
  epoch : String
  previousEpoch : Option String
  revision : ℕ
  value : Option Json

/-- `invalidate`; a generation that no longer fits 64 bits panics. -/
def State.invalidate (s : State) : Option State :=
  if s.generation + 1 < 2 ^ 64 then some { s with generation := s.generation + 1 } else none

/-- The value a read captured, as it is compared and published: a failed read says
so, and every other one says it is available unless it speaks of that itself. A
value that can have no such field panics. -/
def captured (read : Except String Json) : Option Json :=
  let value :=
    match read with
    | .ok value => value
    | .error _ => .obj [("available", .bool false)]
  if (value.get "available").isNone then value.set "available" (.bool true) else some value

/-- Whether publishing `value` starts a new epoch. -/
def State.exhausted (s : State) (value : Json) : Bool :=
  s.value ≠ some value ∧ s.revision = maxRevision

/-- Make `value` the current one, with `fresh` at hand for a new epoch. -/
def State.advance (s : State) (value : Json) (fresh : String) : State :=
  if s.value ≠ some value then
    let s :=
      if s.revision = maxRevision then
        { s with previousEpoch := some s.epoch, epoch := fresh, revision := 0 }
      else s
    { s with revision := s.revision + 1, value := some value }
  else s

/-- Put the publication identity into the value. -/
def State.attach (s : State) (value : Json) : Option Json :=
  match value.set "_publication"
      (.obj [("epoch", .str s.epoch), ("revision", .int s.revision)]) with
  | none => none
  | some value =>
    match s.previousEpoch with
    | none => some value
    | some previous =>
      match (value.index "_publication").set "previous_epoch" (.str previous) with
      | none => none
      | some publication => value.set "_publication" publication

/-- The two locks: the state, the generation a running capture began in, and how
many epoch ids were generated. -/
structure Observations : Type where
  state : State
  capture : Option ℕ
  issued : ℕ

/-- One moment at which the object is touched. -/
inductive Action : Type where
  /-- `observe` takes the capture lock and reads the generation -/
  | beginCapture
  /-- the read of a capture returned; `observe` ends -/
  | endCapture (read : Except String Json)
  /-- the read of a capture panicked -/
  | abortCapture
  | invalidate

/-- What came of it. -/
inductive Answer : Type where
  | began
  | invalidated
  | published (observation : Json)
  /-- "Wi-Fi status changed during observation; read current state again" -/
  | conflict
  | panicked

/-- One entry of a history. -/
abbrev Entry : Type := Action × Answer

variable (uuid : ℕ → String)

/-- The step function. -/
def step (s : Observations) : Action → Option (Observations × Answer)
  | .beginCapture =>
    match s.capture with
    | some _ => none
    | none => some ({ s with capture := some s.state.generation }, .began)
  | .endCapture read =>
    match s.capture with
    | none => none
    | some generation =>
      match captured read with
      | none => some ({ s with capture := none }, .panicked)
      | some value =>
        if generation ≠ s.state.generation then some ({ s with capture := none }, .conflict)
        else
          let state := s.state.advance value (uuid s.issued)
          let issued := if s.state.exhausted value then s.issued + 1 else s.issued
          match state.attach value with
          | none => some ({ state, capture := none, issued }, .panicked)
          | some observation => some ({ state, capture := none, issued }, .published observation)
  | .abortCapture =>
    match s.capture with
    | none => none
    | some _ => some ({ s with capture := none }, .panicked)
  | .invalidate =>
    match s.state.invalidate with
    | none => some (s, .panicked)
    | some state => some ({ s with state }, .invalidated)

/-- `StatusObservations` from its default on. -/
def observations : Machine Observations Action Answer where
  start := ⟨⟨0, uuid 0, none, 0, none⟩, none, 1⟩
  step := step uuid

/-! ## Reading an observation -/

/-- The epoch an observation carries. -/
def epochOf (observation : Json) : Option String :=
  ((observation.index "_publication").index "epoch").asStr

/-- The revision an observation carries. -/
def revisionOf (observation : Json) : Option ℤ :=
  ((observation.index "_publication").index "revision").asInt

/-- The predecessor an observation names. -/
def previousOf (observation : Json) : Option String :=
  ((observation.index "_publication").index "previous_epoch").asStr

/-- The history published this observation. -/
def Published (log : List Entry) (observation : Json) : Prop :=
  ∃ read, (Action.endCapture read, Answer.published observation) ∈ log

/-- Some published observation of `epoch` names `previous`. -/
def Link (log : List Entry) (previous epoch : Option String) : Prop :=
  ∃ observation, Published log observation ∧ epochOf observation = epoch ∧
    previousOf observation = previous ∧ previous ≠ none

/-- The order that following the links gives: by revision within an epoch, and an
epoch comes after those its links lead to. -/
def Precedes (log : List Entry) (a b : Json) : Prop :=
  (epochOf a = epochOf b ∧ ∃ r r', revisionOf a = some r ∧ revisionOf b = some r' ∧ r < r') ∨
  Relation.TransGen (Link log) (epochOf a) (epochOf b)

/-! ## What attaching writes -/

theorem captured_isObject {read : Except String Json} {value : Json}
    (h : captured read = some value) : ∃ fields, value = .obj fields := by
  unfold captured at h
  dsimp only at h
  generalize (match read with
    | .ok value => value
    | .error _ => Json.obj [("available", .bool false)]) = v at h
  split at h
  · cases v with
    | null =>
      cases h
      exact ⟨_, rfl⟩
    | obj fields =>
      cases h
      exact ⟨_, rfl⟩
    | bool b => cases h
    | int i => cases h
    | float q => cases h
    | str s => cases h
    | arr items => cases h
  · rename_i hsome
    cases h
    cases value with
    | obj fields => exact ⟨fields, rfl⟩
    | null => exact absurd rfl hsome
    | bool b => exact absurd rfl hsome
    | int i => exact absurd rfl hsome
    | float q => exact absurd rfl hsome
    | str s => exact absurd rfl hsome
    | arr items => exact absurd rfl hsome

/-- The publication object for an identity. -/
def publication (s : State) : Json :=
  .obj (("epoch", .str s.epoch) ::
    match s.previousEpoch with
    | none => [("revision", .int s.revision)]
    | some previous => [("previous_epoch", .str previous), ("revision", .int s.revision)])

theorem attach_obj (s : State) (fields : List (String × Json)) :
    s.attach (.obj fields) = some (.obj (Json.insertField "_publication" (publication s) fields)) := by
  unfold State.attach publication
  rcases hprev : s.previousEpoch with _ | previous
  · rfl
  · simp only [Json.set]
    have hindex : (Json.obj (Json.insertField "_publication"
        (.obj [("epoch", .str s.epoch), ("revision", .int s.revision)]) fields)).index
          "_publication" = .obj [("epoch", .str s.epoch), ("revision", .int s.revision)] := by
      rw [Json.index, Json.get, Json.field_insertField, if_pos rfl]
      rfl
    rw [hindex]
    have hins : Json.insertField "previous_epoch" (.str previous)
        [("epoch", .str s.epoch), ("revision", .int s.revision)] =
          [("epoch", .str s.epoch), ("previous_epoch", .str previous),
            ("revision", .int s.revision)] := by
      have h₁ : ¬ "previous_epoch" < "epoch" := by decide
      have h₂ : ¬ "previous_epoch" = "epoch" := by decide
      have h₃ : "previous_epoch" < "revision" := by decide
      rw [Json.insertField, if_neg h₁, if_neg h₂, Json.insertField, if_pos h₃]
    simp only [hins, Json.insertField_insertField]

/-- What a published observation says. -/
theorem attach_spec {s : State} {value observation : Json} (hobj : ∃ fields, value = .obj fields)
    (h : s.attach value = some observation) :
    epochOf observation = some s.epoch ∧ revisionOf observation = some (s.revision : ℤ) ∧
      previousOf observation = s.previousEpoch := by
  obtain ⟨fields, rfl⟩ := hobj
  rw [attach_obj] at h
  cases h
  have hindex : (Json.obj (Json.insertField "_publication" (publication s) fields)).index
      "_publication" = publication s := by
    rw [Json.index, Json.get, Json.field_insertField, if_pos rfl]
    rfl
  unfold epochOf revisionOf previousOf
  rw [hindex]
  unfold publication
  rcases s.previousEpoch with _ | previous <;> exact ⟨rfl, rfl, rfl⟩

end Observation

end NmDaemon
