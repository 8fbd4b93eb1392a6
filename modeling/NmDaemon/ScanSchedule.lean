import NmDaemon.Base.Table
import NmDaemon.Errors
import Mathlib.Data.List.Dedup
import Mathlib.Data.List.Lex
import Mathlib.Data.List.Sort

/-!
# The scan scheduler

NetworkManager limits how often a device may be scanned, so callers that ask for a scan
while one is in flight share it. A device has at most one scan in flight; a caller that
comes in between joins it, if it covers what the caller asked for, or waits for its turn.
Scans are told apart by a generation number that wraps around; callers are counted by the
generation they wait for, and the outcome of a scan is kept until the last of them left.

`DeviceScanState` is what the scheduler keeps of a device, with the operations on it;
`ScanScheduler` has one such state for each device. The operations are the critical
sections of the source: `pollCompletion` is one round of the waiting loop, which takes the
lock again in each round and keeps it until the caller has left.
-/

namespace NmDaemon

namespace Scan

/-! ## Scopes -/

/-- The order of byte strings. -/
def bytes (ssid : List UInt8) : List ℕ := ssid.map UInt8.toNat

theorem bytes_injective : Function.Injective bytes :=
  List.map_injective_iff.mpr fun _ _ => UInt8.toNat_inj.mp

/-- The networks of a scan, sorted and each of them once; none is a scan for all of them. -/
structure Scope : Type where
  ssids : List (List UInt8)
  sorted : ssids.Pairwise fun a b => bytes a < bytes b

namespace Scope

/-- A binary search finds what is in the list, since the list is sorted. -/
def binarySearch (scope : Scope) (ssid : List UInt8) : Bool := decide (ssid ∈ scope.ssids)

end Scope

/-- Insert into a sorted list. -/
def sortSsids (ssids : List (List UInt8)) : List (List UInt8) :=
  ssids.insertionSort fun a b => bytes a ≤ bytes b

theorem pairwise_sortSsids (ssids : List (List UInt8)) :
    (sortSsids ssids).Pairwise fun a b => bytes a ≤ bytes b := by
  have : Std.Total fun a b : List UInt8 => bytes a ≤ bytes b := ⟨fun a b => le_total _ _⟩
  have : IsTrans (List UInt8) fun a b => bytes a ≤ bytes b := ⟨fun _ _ _ => le_trans⟩
  exact List.pairwise_insertionSort _ ssids

def normalizedSsids (ssids : List (List UInt8)) : Scope where
  ssids := (sortSsids ssids).dedup
  sorted := by
    have hle := (pairwise_sortSsids ssids).sublist (List.dedup_sublist _)
    have hne : (sortSsids ssids).dedup.Pairwise (· ≠ ·) := List.nodup_dedup _
    exact (hle.and hne).imp fun h => lt_of_le_of_ne h.1 (bytes_injective.ne h.2)

@[simp] theorem mem_normalizedSsids {ssids : List (List UInt8)} {ssid : List UInt8} :
    ssid ∈ (normalizedSsids ssids).ssids ↔ ssid ∈ ssids := by
  simp [normalizedSsids, sortSsids]

def scanScopeCovers (inFlight : Scope) (requested : List (List UInt8)) : Bool :=
  if inFlight.ssids.isEmpty || requested.isEmpty then
    inFlight.ssids.isEmpty && requested.isEmpty
  else requested.all fun ssid => inFlight.binarySearch ssid

/-- Both are scans for all networks, or every network asked for is scanned for. -/
theorem scanScopeCovers_normalized {scanned requested : List (List UInt8)} :
    scanScopeCovers (normalizedSsids scanned) requested = true ↔
      (scanned = [] ∧ requested = []) ∨
        scanned ≠ [] ∧ requested ≠ [] ∧ ∀ ssid ∈ requested, ssid ∈ scanned := by
  have hempty : (normalizedSsids scanned).ssids.isEmpty = scanned.isEmpty := by
    rw [Bool.eq_iff_iff, List.isEmpty_iff, List.isEmpty_iff]
    simp only [List.eq_nil_iff_forall_not_mem, mem_normalizedSsids]
  unfold scanScopeCovers
  rw [hempty]
  rcases scanned with _ | ⟨a, scanned⟩
  · simp
  · rcases requested with _ | ⟨b, requested⟩ <;> simp [Scope.binarySearch]

/-! ## One device -/

inductive SharedScanOutcome : Type where
  | succeeded
  | failed (report : ErrorReport)

/-- What a caller has to do: scan, or wait for the scan of another caller, whose result it
shares or not. -/
inductive ScanTurn : Type where
  | request (generation : UInt64)
  | join (generation : UInt64)
  | wait (generation : UInt64)

inductive ScanWait : Type where
  | completed (outcome : SharedScanOutcome)
  | cancelled
  | deadlineExpired

/-- What is kept of a device. -/
structure DeviceScanState : Type where
  /-- what is scanned for, if a scan is in flight -/
  inFlight : Option Scope
  generation : UInt64
  /-- how many callers wait for a generation; each of them is a blocked thread, so that
  their number stays far from the limits of the type -/
  waiters : Table UInt64 ℕ
  /-- the outcomes some callers still wait for -/
  completions : Table UInt64 SharedScanOutcome
  lastRequest : Option ℕ
  previousRequest : Option ℕ

namespace DeviceScanState

def default : DeviceScanState := ⟨none, 0, ∅, ∅, none, none⟩

def claim (state : DeviceScanState) (ssids : List (List UInt8)) (now : ℕ) :
    ScanTurn × DeviceScanState :=
  match state.inFlight with
  | some inFlight =>
    let waiting := (state.waiters.lookup state.generation).getD 0
    (if scanScopeCovers inFlight ssids then .join state.generation else .wait state.generation,
      { state with waiters := state.waiters.insert state.generation (waiting + 1) })
  | none =>
    (.request (state.generation + 1),
      { state with
        inFlight := some (normalizedSsids ssids)
        generation := state.generation + 1
        previousRequest := state.lastRequest
        lastRequest := some now })

/-- The scan of a generation is over. Nothing happens if it is not the one in flight. -/
def complete (state : DeviceScanState) (generation : UInt64) (outcome : SharedScanOutcome) :
    DeviceScanState :=
  if state.generation = generation then
    match state.inFlight with
    | none => state
    | some _ =>
      { state with
        inFlight := none
        completions :=
          if (state.waiters.lookup generation).isSome then
            state.completions.insert generation outcome
          else state.completions }
  else state

/-- A caller that waited leaves; with the last one the outcome goes. -/
def consumeWaiter (state : DeviceScanState) (generation : UInt64) : DeviceScanState :=
  match state.waiters.lookup generation with
  | none => state
  | some waiters =>
    if waiters - 1 = 0 then
      { state with
        waiters := state.waiters.erase generation
        completions := state.completions.erase generation }
    else { state with waiters := state.waiters.insert generation (waiters - 1) }

/-- What a caller that waits finds, if it has not to wait any longer. -/
def waitResult (state : DeviceScanState) (generation : UInt64) (cancelled expired : Bool) :
    Option ScanWait :=
  if cancelled then some .cancelled
  else
    match state.completions.lookup generation with
    | some outcome => some (.completed outcome)
    | none => if expired then some .deadlineExpired else none

def noteRequest (state : DeviceScanState) (now : ℕ) : DeviceScanState :=
  { state with lastRequest := some now }

end DeviceScanState

/-! ## All devices -/

/-- The states of the devices that were scanned already. -/
structure ScanScheduler : Type where
  devices : Table String DeviceScanState

namespace ScanScheduler

variable (scheduler : ScanScheduler) (device : String)

/-- The state of a device. -/
def state : DeviceScanState := (scheduler.devices.lookup device).getD .default

def claim (ssids : List (List UInt8)) (now : ℕ) : ScanTurn × ScanScheduler :=
  let (turn, state) := (scheduler.state device).claim ssids now
  (turn, ⟨scheduler.devices.insert device state⟩)

/-- Change the state of a device that is known. -/
def modify (f : DeviceScanState → DeviceScanState) : ScanScheduler :=
  match scheduler.devices.lookup device with
  | none => scheduler
  | some state => ⟨scheduler.devices.insert device (f state)⟩

def complete (generation : UInt64) (outcome : SharedScanOutcome) : ScanScheduler :=
  scheduler.modify device fun state => state.complete generation outcome

/-- One round of waiting for a generation. -/
def pollCompletion (generation : UInt64) (cancelled expired : Bool) :
    Option ScanWait × ScanScheduler :=
  match (scheduler.state device).waitResult generation cancelled expired with
  | none => (none, scheduler)
  | some wait => (some wait, scheduler.modify device fun state => state.consumeWaiter generation)

def noteRequest (now : ℕ) : ScanScheduler :=
  ⟨scheduler.devices.insert device ((scheduler.state device).noteRequest now)⟩

end ScanScheduler

/-! ## The lease of a scan -/

/-- The outcome of a scan whose owner went away without one. -/
def stoppedOutcome : SharedScanOutcome :=
  .failed ⟨.internalError, .scan, .internal,
    "owned Wi-Fi scan stopped before publishing an outcome", []⟩

/-- The owner's lease ends, with an outcome or without. -/
def ScanScheduler.dropLease (scheduler : ScanScheduler) (device : String) (generation : UInt64)
    (outcome : Option SharedScanOutcome) : ScanScheduler :=
  scheduler.complete device generation (outcome.getD stoppedOutcome)

end Scan

end NmDaemon
