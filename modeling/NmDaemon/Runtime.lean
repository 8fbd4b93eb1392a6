import Mathlib.Data.Finset.Basic
import NmDaemon.Base.Json
import NmDaemon.Base.Machine
import NmDaemon.Base.Table

/-!
# The daemon runtime: tasks, their cancellation and their results

`daemon_runtime.rs`: what is shared between the workers of long-running requests and
the callers that watch and cancel them. A worker holds a registration; the task table
has the request's handle for as long as it does. Terminal events go to a store of
recent results, from which they may be evicted at any time. A request is cancelled by
raising a flag that its handle and its worker share.

The functions of the runtime come first. `runtime` is the machine of one daemon: one
action per critical section, so the two sections of `store_terminal_result`, with the
bus call between them, are two actions. Flags are numbered by the registration that
allocated them (`cancellation`, a shared cell); `raised` are those that are set.

Of the parts that are not in this source: the store of recent results is a table from
which anything may disappear, and a worker stores only while it holds its
registration, with the owner it was registered for and the stream of its kind.
-/

namespace NmDaemon

namespace Runtime

/-- What clients can subscribe to, and where events are sent. -/
inductive Stream : Type where
  | wifiStatus
  | networkConnectivity
  | networkInventory
  | networkStatistics
  | hotspot
  | vpn
  | networkHealth
  | wifiNetworks
  | wifiScan
  | wifiConnect
  | wifiBand
  | wifiSecret
  | daemonRequest
  | daemonSubscription
  deriving DecidableEq

/-- The name of a stream on the wire. -/
def Stream.name : Stream → String
  | .wifiStatus => "wifi.status"
  | .networkConnectivity => "network.connectivity"
  | .networkInventory => "network.inventory"
  | .networkStatistics => "network.statistics"
  | .hotspot => "hotspot"
  | .vpn => "vpn"
  | .networkHealth => "network.health"
  | .wifiNetworks => "wifi.networks"
  | .wifiScan => "wifi.scan"
  | .wifiConnect => "wifi.connect"
  | .wifiBand => "wifi.band"
  | .wifiSecret => "wifi.secret"
  | .daemonRequest => "daemon.request"
  | .daemonSubscription => "daemon.subscription"

inductive TaskKind : Type where
  | connect
  | scan
  | band
  | statistics
  | hotspot
  | vpn
  deriving DecidableEq

def TaskKind.stream : TaskKind → Stream
  | .connect => .wifiConnect
  | .scan => .wifiScan
  | .band => .wifiBand
  | .statistics => .networkStatistics
  | .hotspot => .hotspot
  | .vpn => .vpn

/-- The bytes of an SSID. -/
abbrev SsidBytes : Type := List UInt8

/-- What is shared about a task that runs. -/
structure TaskHandle : Type where
  /-- the NetworkManager owner the task is bound to -/
  destination : String
  started : ℕ
  progress : Option Json
  observationRevision : ℕ
  terminal : Bool
  timedOut : Bool
  kind : TaskKind
  owner : Option String
  targetSsid : Option SsidBytes
  cancellation : ℕ

structure TerminalRequestResult : Type where
  stream : Stream
  event : Json
  observationRevision : ℕ

/-- What is needed to abort a cancelled task's activation. -/
structure CancelledTask : Type where
  destination : String
  kind : TaskKind
  targetSsid : Option SsidBytes

/-- An activation abort in the queue of the fast lane. -/
structure Abort : Type where
  requestId : String
  targetSsid : SsidBytes
  destination : String

/-- A worker's registration. -/
structure Registration : Type where
  requestId : String
  kind : TaskKind
  owner : Option String

/-- An event as workers build it: an object, and so is its data. -/
structure Event : Type where
  value : Json
  object : ∃ fields, value = .obj fields
  data : ∃ fields, value.index "data" = .obj fields

/-- The shared state of the daemon, with the threads that work on it. -/
structure DaemonRuntime : Type where
  tasks : Table String TaskHandle
  /-- the retained results, by request and owner -/
  results : Table (String × Option String) TerminalRequestResult
  /-- the cancellation flags that are set -/
  raised : Finset ℕ
  /-- the live registrations, by their flag -/
  workers : Table ℕ Registration
  /-- the workers between the two sections of a terminal store: the event, and whether
  the request had a task in the first one -/
  storing : Table ℕ (Event × Bool)
  /-- how many flags were allocated -/
  cells : ℕ
  /-- cancelled tasks whose abort has not been submitted yet -/
  unsent : List (String × CancelledTask)
  /-- the activation aborts queued on the fast lane -/
  aborts : List Abort

/-! ## The critical sections -/

/-- `saturating_add(1)` on 64 bits. -/
def saturatingSucc (n : ℕ) : ℕ := min (n + 1) (2 ^ 64 - 1)

def TaskHandle.cancelled (task : TaskHandle) : CancelledTask :=
  ⟨task.destination, task.kind, task.targetSsid⟩

/-- A success that lost the race against a cancellation. -/
def cancelledEvent (event : Json) (timedOut : Bool) : Json :=
  let event := event.put "event" (.str "cancelled")
  let data := (event.index "data").put "phase" (.str "cancelled")
  let data := data.put "message" (.str
    (if timedOut then "Connection attempt timed out and was cancelled"
    else "Connection cancelled"))
  event.put "data" (data.erase "result")

/-- The event reports a success. -/
def isSuccess (event : Json) : Bool := event.index "event" = .str "succeeded"

namespace DaemonRuntime

variable (s : DaemonRuntime)

/-- `get_owned` of the retained results. -/
def evidence (requestId : String) (owner : Option String) : Option TerminalRequestResult :=
  s.results.lookup (requestId, owner)

/-- Raise the flags of some tasks. -/
def raise (tasks : List TaskHandle) : DaemonRuntime :=
  { s with raised := s.raised ∪ (tasks.map TaskHandle.cancellation).toFinset }

/-- `TaskRegistration::new`. -/
def register (requestId : String) (kind : TaskKind) (owner : Option String)
    (targetSsid : Option SsidBytes) (destination : String) (now : ℕ) : DaemonRuntime :=
  let task : TaskHandle :=
    { destination
      started := now
      progress := none
      observationRevision := 1
      terminal := false
      timedOut := false
      kind
      owner
      targetSsid
      cancellation := s.cells }
  { s with
    tasks := s.tasks.insert requestId task
    workers := s.workers.insert s.cells ⟨requestId, kind, owner⟩
    cells := s.cells + 1 }

/-- The drop of the registration with flag `cell`: the task goes if it is still its own. -/
def dropRegistration (cell : ℕ) (registration : Registration) : DaemonRuntime :=
  let tasks :=
    if (s.tasks.lookup registration.requestId).any fun task => task.cancellation = cell then
      s.tasks.erase registration.requestId
    else s.tasks
  { s with tasks, workers := s.workers.erase cell }

/-- The second section of `store_terminal_result`: the answer, and whether a result was
recorded. -/
def storeTerminalResult (requestId : String) (owner : Option String)
    (stream : Stream) (event : Json) (ownerChanged : Bool) : DaemonRuntime × Option Json × Bool :=
  match s.evidence requestId owner with
  | some result => (s, some result.event, false)
  | none =>
    let task := (s.tasks.lookup requestId).filter fun task => task.owner = owner
    if task.any TaskHandle.terminal then (s, none, false)
    else
      let event :=
        match task with
        | some task =>
          if task.kind = TaskKind.connect ∧ (ownerChanged ∨ task.cancellation ∈ s.raised) ∧
              isSuccess event = true then
            cancelledEvent event task.timedOut
          else event
        | none => event
      let (tasks, revision) :=
        match task.filter fun task => task.kind.stream = stream with
        | some task =>
          let revision := saturatingSucc task.observationRevision
          (AList.insert requestId
            { task with terminal := true, observationRevision := revision } s.tasks, revision)
        | none => (s.tasks, 1)
      let event := event.put "operation_revision" (.int revision)
      ({ s with
          tasks
          results := s.results.insert (requestId, owner) ⟨stream, event, revision⟩ },
        some event, true)

/-- `terminal_request_status`, the running task, or neither. -/
def requestStatus (requestId : String) (owner : Option String) (now : ℕ) : Json :=
  match s.evidence requestId owner with
  | some result =>
    .obj
      [("event", result.event),
        ("operation_revision", .int result.observationRevision),
        ("request_id", .str requestId),
        ("status", .str "finished"),
        ("stream", .str result.stream.name)]
  | none =>
    match (s.tasks.lookup requestId).filter fun task =>
        task.owner = owner ∧ task.terminal = false with
    | some task =>
      .obj
        [("cancellation_requested", .bool (task.cancellation ∈ s.raised)),
          ("elapsed_ms", .int (now - task.started : ℕ)),
          ("event", task.progress.getD .null),
          ("operation_revision", .int task.observationRevision),
          ("request_id", .str requestId),
          ("status", .str "running"),
          ("stream", .str task.kind.stream.name),
          ("timed_out", .bool task.timedOut)]
    | none => .obj [("request_id", .str requestId), ("status", .str "unknown")]

/-- The answer, and whether the event was accepted. -/
def storeConnectProgress (requestId : String) (owner : Option String)
    (event : Json) : DaemonRuntime × Option Json × Bool :=
  match (s.tasks.lookup requestId).filter fun task =>
      task.owner = owner ∧ task.kind = .connect with
  | none => (s, none, false)
  | some task =>
    match s.evidence requestId owner with
    | some result => (s, some result.event, false)
    | none =>
      if task.terminal then (s, none, false)
      else
        let revision := saturatingSucc task.observationRevision
        let event := event.put "operation_revision" (.int revision)
        ({ s with
            tasks := AList.insert requestId
              { task with observationRevision := revision, progress := some event } s.tasks },
          some event, true)

/-- The locked part of `expire_connect`. -/
def expireConnect (requestId : String) : DaemonRuntime × Option CancelledTask :=
  match (s.tasks.lookup requestId).filter fun task =>
      task.kind = .connect ∧ task.terminal = false with
  | none => (s, none)
  | some task =>
    if (s.evidence requestId task.owner).isSome then (s, none)
    else
      let task := { task with timedOut := true }
      ({ s with tasks := s.tasks.insert requestId task }.raise [task], some task.cancelled)

def cancelTask (requestId : String) (owner : Option String) :
    DaemonRuntime × Option CancelledTask :=
  match (s.tasks.lookup requestId).filter fun task =>
      task.owner = owner ∧ task.terminal = false ∧ (s.evidence requestId task.owner).isNone with
  | none => (s, none)
  | some task => (s.raise [task], some task.cancelled)

def cancelTasksForOwner (owner : String) : DaemonRuntime × List (String × CancelledTask) :=
  let owned := s.tasks.pairs.filter fun e =>
    e.2.owner = some owner ∧ e.2.terminal = false ∧ (s.evidence e.1 (some owner)).isNone
  (s.raise (owned.map Prod.snd), owned.map fun e => (e.1, e.2.cancelled))

/-- Tasks bound to another NetworkManager owner are cancelled; nothing is aborted. -/
def networkManagerOwnerChanged (owner : Option String) : DaemonRuntime :=
  s.raise ((s.tasks.pairs.map Prod.snd).filter fun task => some task.destination ≠ owner)

def cancelConnectsForSsid (ssid : SsidBytes) : DaemonRuntime × List String :=
  let matching := s.tasks.pairs.filter fun e =>
    e.2.kind = .connect ∧ e.2.targetSsid = some ssid
  (s.raise (matching.map Prod.snd), (matching.map Prod.fst).mergeSort fun a b => a ≤ b)

/-- The locked part of `shutdown`. -/
def cancelAll : DaemonRuntime := s.raise (s.tasks.pairs.map Prod.snd)

end DaemonRuntime

/-- The abort a cancelled task gives rise to. -/
def abortCancelledConnect (requestId : String) (task : CancelledTask) : Option Abort :=
  if task.kind = .connect then
    task.targetSsid.map fun targetSsid => ⟨requestId, targetSsid, task.destination⟩
  else none

/-! ## The machine -/

/-- What threads and requests do to the runtime. -/
inductive Action : Type where
  | register (requestId : String) (kind : TaskKind) (owner : Option String)
      (targetSsid : Option SsidBytes) (destination : String) (now : ℕ)
  /-- the registration with this flag is dropped, by the end of its worker or a panic -/
  | drop (cell : ℕ)
  /-- a worker starts after its NetworkManager owner is gone -/
  | disown (cell : ℕ)
  /-- the first section of a worker's terminal store -/
  | beginStore (cell : ℕ) (event : Event)
  /-- the second one, with what the bus said of the owner in between -/
  | commitStore (cell : ℕ) (ownerLost : Bool)
  | progress (cell : ℕ) (event : Event)
  | status (requestId : String) (owner : Option String) (now : ℕ)
  | cancel (requestId : String) (owner : Option String)
  | expire (requestId : String)
  | dropOwner (owner : String)
  | ownerChanged (owner : Option String)
  | forget (ssid : SsidBytes)
  | shutdown
  /-- a retained result is evicted or expires -/
  | evict (requestId : String) (owner : Option String)
  /-- the oldest cancelled task is passed on; whether the fast lane takes it -/
  | submitAbort (accepted : Bool)

inductive Answer : Type where
  | registered (cell : ℕ)
  | stored (answer : Option Json) (recorded : Bool)
  | progressed (answer : Option Json) (accepted : Bool)
  | status (status : Json)
  | cancelled (tasks : List (String × CancelledTask))
  | forgotten (requestIds : List String)
  | done

/-- One entry of a history. -/
abbrev Entry : Type := Action × Answer

/-- Keep the cancelled tasks whose abort is to be submitted. -/
def keepUnsent (r : DaemonRuntime × List (String × CancelledTask)) : DaemonRuntime × Answer :=
  ({ r.1 with unsent := r.1.unsent ++ r.2 }, .cancelled r.2)

/-- One critical section of the runtime, or of a thread that uses it. -/
def step (s : DaemonRuntime) : Action → Option (DaemonRuntime × Answer)
  | .register requestId kind owner targetSsid destination now =>
    some (s.register requestId kind owner targetSsid destination now, .registered s.cells)
  | .drop cell =>
    match s.workers.lookup cell, s.storing.lookup cell with
    | some registration, none => some (s.dropRegistration cell registration, .done)
    | _, _ => none
  | .disown cell =>
    match s.workers.lookup cell with
    | some _ => some ({ s with raised := insert cell s.raised }, .done)
    | none => none
  | .beginStore cell event =>
    match s.workers.lookup cell, s.storing.lookup cell with
    | some registration, none =>
      let bound := (s.tasks.lookup registration.requestId).isSome
      some ({ s with storing := s.storing.insert cell (event, bound) }, .done)
    | _, _ => none
  | .commitStore cell ownerLost =>
    match s.workers.lookup cell, s.storing.lookup cell with
    | some registration, some (event, bound) =>
      let ownerChanged := isSuccess event.value && bound && ownerLost
      let r := { s with storing := s.storing.erase cell }.storeTerminalResult
        registration.requestId registration.owner registration.kind.stream event.value ownerChanged
      some (r.1, .stored r.2.1 r.2.2)
    | _, _ => none
  | .progress cell event =>
    match s.workers.lookup cell, s.storing.lookup cell with
    | some registration, none =>
      let r := s.storeConnectProgress registration.requestId registration.owner event.value
      some (r.1, .progressed r.2.1 r.2.2)
    | _, _ => none
  | .status requestId owner now => some (s, .status (s.requestStatus requestId owner now))
  | .cancel requestId owner =>
    let r := s.cancelTask requestId owner
    some (keepUnsent (r.1, r.2.toList.map fun task => (requestId, task)))
  | .expire requestId =>
    let r := s.expireConnect requestId
    some (keepUnsent (r.1, r.2.toList.map fun task => (requestId, task)))
  | .dropOwner owner => some (keepUnsent (s.cancelTasksForOwner owner))
  | .ownerChanged owner => some (s.networkManagerOwnerChanged owner, .done)
  | .forget ssid =>
    let r := s.cancelConnectsForSsid ssid
    some (r.1, .forgotten r.2)
  | .shutdown => some (s.cancelAll, .done)
  | .evict requestId owner =>
    some ({ s with results := s.results.erase (requestId, owner) }, .done)
  | .submitAbort accepted =>
    match s.unsent with
    | [] => none
    | (requestId, task) :: unsent =>
      let aborts :=
        if accepted then s.aborts ++ (abortCancelledConnect requestId task).toList else s.aborts
      some ({ s with unsent, aborts }, .done)

/-- The runtime from its start on. -/
def runtime : Machine DaemonRuntime Action Answer where
  start := ⟨∅, ∅, ∅, ∅, ∅, 0, [], []⟩
  step := step

end Runtime

end NmDaemon
