import NmDaemon.Runtime

/-!
# The subscription actor

`daemon_runtime/subscriptions.rs`: one actor owns the subscriptions and decides when what
subscribers share is read again. Changes of the network wait for a short deadline, so that a
burst of them is one; a refresh runs as a job on the fast lane and comes back as a message;
what changes while one is in flight is noted in a gate and asks for another.

One action is one turn of the actor's loop, or one thing that happens around it: time passes,
the transport of a subscriber closes, a job sends what it has read or panics. Whether the lane
takes a job and whether the runtime still exists is part of the action. Jobs are numbered as
they are submitted.

What an event says and to whom it is sent is not part of this model; neither of the two
controls that pass one on touches the subscriptions or the gate.
-/

namespace NmDaemon

namespace Subscriptions

open NmDaemon.Runtime (Stream)

/-! ## Subscriptions -/

/-- A subscription, as far as it decides who is served. -/
structure SubscriptionState : Type where
  owner : Option String
  streams : List Stream
  /-- the emitter is closed -/
  closed : Bool

def SubscriptionState.new (owner : Option String) (streams : List Stream) : SubscriptionState :=
  ⟨owner, streams, false⟩

def SubscriptionState.watches (subscription : SubscriptionState) (stream : Stream) : Bool :=
  !subscription.closed && stream ∈ subscription.streams

/-- The subscriptions by their ids. -/
abbrev Registry : Type := Table String SubscriptionState

structure CancelOutcome : Type where
  task : Bool
  subscription : Bool

def CancelOutcome.found (outcome : CancelOutcome) : Bool := outcome.task || outcome.subscription

/-- The subscriptions that are left, and the answer. -/
def removeSubscription (subscriptions : Registry) (id : String) (owner : Option String)
    (taskFound : Bool) : Registry × CancelOutcome :=
  let subscription :=
    ((subscriptions.lookup id).filter fun subscription => subscription.owner = owner).isSome
  (if subscription then subscriptions.erase id else subscriptions,
    { task := taskFound, subscription })

def dropSubscriptionsForOwner (subscriptions : Registry) (owner : String) : Registry :=
  subscriptions.filterMap fun _ subscription =>
    if subscription.owner ≠ some owner then some subscription else none

def subscriberOwners (subscriptions : Registry) (stream : Stream) : List String :=
  ((subscriptions.pairs.filter fun e => e.2.watches stream).filterMap fun e => e.2.owner).dedup

def owners (subscriptions : Registry) : List String := subscriptions.pairs.filterMap fun e => e.2.owner

/-! ## The gate -/

structure RefreshGate : Type where
  inFlight : Bool
  dirty : Bool
  deriving DecidableEq

namespace RefreshGate

def default : RefreshGate := ⟨false, false⟩

/-- Whether a refresh has to be submitted; one in flight is too old and another follows it. -/
def invalidate (gate : RefreshGate) : RefreshGate × Bool :=
  if gate.inFlight then ({ gate with dirty := true }, false) else (gate, true)

def started (gate : RefreshGate) : RefreshGate := { gate with inFlight := true }

/-- Whether another refresh has to follow. -/
def complete (gate : RefreshGate) : RefreshGate × Bool := (⟨false, false⟩, gate.dirty)

end RefreshGate

structure SharedPayloadDemand : Type where
  status : Bool
  connectivity : Bool
  inventory : Bool
  networks : Bool
  deriving DecidableEq

def SharedPayloadDemand.any (needs : SharedPayloadDemand) : Bool :=
  needs.status || needs.connectivity || needs.inventory || needs.networks

def requiredSharedPayloads (subscriptions : Registry) : SharedPayloadDemand :=
  let watches := fun stream => subscriptions.pairs.any fun e => e.2.watches stream
  { status := watches .wifiStatus
    connectivity := watches .networkConnectivity
    inventory := watches .networkInventory
    networks := watches .wifiNetworks }

/-! ## The actor -/

/-- What becomes of a refresh that is asked for. -/
inductive Request : Type where
  /-- one is in flight, another will follow -/
  | coalesced
  /-- nobody watches what it would read -/
  | unwanted
  /-- the lane does not take it -/
  | refused
  | started (job : ℕ) (needs : SharedPayloadDemand)
  deriving DecidableEq

/-- The actor, and what goes on around it. -/
structure State : Type where
  /-- milliseconds -/
  now : ℕ
  running : Bool
  subscriptions : Registry
  refresh : RefreshGate
  networkChangeDeadline : Option ℕ
  /-- the refreshes on the lane -/
  lane : List ℕ
  /-- the refreshes whose message has not been received -/
  sent : List ℕ
  /-- how many refreshes were submitted -/
  submitted : ℕ

def networkChangeDebounce : ℕ := 75

namespace State

def start : State where
  now := 0
  running := true
  subscriptions := ∅
  refresh := .default
  networkChangeDeadline := none
  lane := []
  sent := []
  submitted := 0

variable (s : State)

def submitSharedRefresh (admits : Bool) (needs : SharedPayloadDemand) : State × Request :=
  if admits then
    ({ s with
        refresh := s.refresh.started
        lane := s.lane ++ [s.submitted]
        submitted := s.submitted + 1 }, .started s.submitted needs)
  else (s, .refused)

def requestSharedRefresh (admits : Bool) : State × Request :=
  let gate := s.refresh.invalidate
  let s := { s with refresh := gate.1 }
  if gate.2 = false then (s, .coalesced)
  else if s.subscriptions.pairs.isEmpty then (s, .unwanted)
  else
    let needs := requiredSharedPayloads s.subscriptions
    if needs.any = false then (s, .unwanted)
    else s.submitSharedRefresh admits needs

/-- A refresh came back. -/
def completeSharedRefresh (admits : Bool) : State × Option Request :=
  let gate := s.refresh.complete
  let s := { s with refresh := gate.1 }
  if gate.2 then
    let r := s.requestSharedRefresh admits
    (r.1, some r.2)
  else (s, none)

end State

/-! ## The machine -/

/-- What the actor is sent. -/
inductive Control : Type where
  | subscribe (id : String) (owner : Option String) (streams : List Stream)
  | cancelSubscription (id : String) (owner : Option String) (taskFound : Bool)
  | subscriberOwners (stream : Stream)
  | owners
  | externalEvent
  | dropOwner (owner : String)
  | healthSignal
  | networkChanged
  | refreshed (job : ℕ)
  | shutdown
  deriving DecidableEq

structure Output : Type where
  /-- what became of the refresh that was asked for -/
  request : Option Request := none
  cancelled : Option CancelOutcome := none
  owners : Option (List String) := none

/-- `handle_control`; a change of the network and the end of the actor do not come here. -/
def handleControl (s : State) (admits : Bool) : Control → State × Output
  | .subscribe id owner streams =>
    let r := { s with subscriptions := s.subscriptions.insert id (.new owner streams)
      }.requestSharedRefresh admits
    (r.1, { request := some r.2 })
  | .cancelSubscription id owner taskFound =>
    let r := removeSubscription s.subscriptions id owner taskFound
    ({ s with subscriptions := r.1 }, { cancelled := some r.2 })
  | .subscriberOwners stream => (s, { owners := some (subscriberOwners s.subscriptions stream) })
  | .owners => (s, { owners := some (owners s.subscriptions) })
  | .dropOwner owner =>
    ({ s with subscriptions := dropSubscriptionsForOwner s.subscriptions owner }, {})
  | .refreshed job =>
    let r := { s with sent := s.sent.erase job }.completeSharedRefresh admits
    (r.1, { request := r.2 })
  | .externalEvent | .healthSignal | .networkChanged | .shutdown => (s, {})

/-- What can happen to the actor, and beside it. -/
inductive Action : Type where
  /-- time passes -/
  | tick (ms : ℕ)
  /-- the transport of a subscriber closes -/
  | close (id : String)
  /-- a job has read what it was asked for and sends it -/
  | finish (job : ℕ)
  /-- a job panics and sends nothing -/
  | crash (job : ℕ)
  /-- the actor receives a message -/
  | receive (control : Control) (alive admits : Bool)
  /-- the actor finds that the deadline has passed -/
  | due (alive admits : Bool)

/-- One turn of the actor for a message. -/
def State.receive (s : State) (control : Control) (alive admits : Bool) : State × Output :=
  match control with
  | .shutdown => ({ s with running := false, subscriptions := ∅ }, {})
  | .networkChanged =>
    ({ s with
      networkChangeDeadline :=
        some (s.networkChangeDeadline.getD (s.now + networkChangeDebounce)) }, {})
  | control => if alive then handleControl s admits control else ({ s with running := false }, {})

/-- A message that only a job can send. -/
def Control.sentBy : Control → Option ℕ
  | .refreshed job => some job
  | _ => none

/-- One turn of the event loop, or something that happens beside it. -/
def step (s : State) : Action → Option (State × Output)
  | .tick ms => some ({ s with now := s.now + ms }, {})
  | .close id =>
    some ({ s with
      subscriptions :=
        match s.subscriptions.lookup id with
        | some subscription =>
          AList.insert id { subscription with closed := true } s.subscriptions
        | none => s.subscriptions }, {})
  | .finish job =>
    if job ∈ s.lane then
      some ({ s with lane := s.lane.erase job, sent := s.sent ++ [job] }, {})
    else none
  | .crash job =>
    if job ∈ s.lane then some ({ s with lane := s.lane.erase job }, {}) else none
  | .receive control alive admits =>
    if s.running = true ∧ ∀ job ∈ control.sentBy, job ∈ s.sent then
      some (s.receive control alive admits)
    else none
  | .due alive admits =>
    if s.running = true ∧ ∃ deadline ∈ s.networkChangeDeadline, deadline ≤ s.now then
      let s := { s with networkChangeDeadline := none }
      if alive then
        let r := s.requestSharedRefresh admits
        some (r.1, { request := some r.2 })
      else some ({ s with running := false }, {})
    else none

/-- The actor, from its start. -/
def actor : Machine State Action Output where
  start := .start
  step := step

end Subscriptions

end NmDaemon
