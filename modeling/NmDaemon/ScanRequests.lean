import NmDaemon.Base.Machine
import NmDaemon.ScanSchedule
import Mathlib.Tactic.Linarith

/-!
# How often a scan is requested

`nm/scan.rs` and `nm/scan_schedule.rs`: the owner of a turn reads when the device was scanned
last, works out how long NetworkManager will refuse another request, sleeps that long and asks.
A transient refusal is tried again after a delay; everything else ends the turn. The wait comes
from the moment the *previous* turn left in the scheduler, which every claim overwrites, also
one that never got to a request.

`requests` is one device with its scheduler, the owners that are at work, and the two clocks:
time passes in an action of its own, and the boot-time clock may gain on the monotonic one
while the machine is suspended. Whatever reads a clock of the outside (`/proc/uptime`, the
`LastScan` of the device) has the reading in the action. NetworkManager stamps `LastScan` in
milliseconds, `/proc/uptime` is cut to hundredths of a second: the boot time that is read can lie
behind a scan that is over, and the scan is then ignored.

* `le_rateLimitWait_request`, `Basis.covered_iff` — when the wait covers what is left of the
  interval after the last request, and after the last scan;
* `sleepRound_over` — a sleep that ends in time has lasted;
* `Spaced` — what each phase of an owner knows of the requests accepted so far, kept by every
  step (`Spaced.step`);
* `pending_requested` — an owner may be done with its wait the moment it is over.

Moments and durations are in nanoseconds.
-/

namespace NmDaemon

namespace Scan

/-! ## The wait -/

def nanosPerMilli : ℕ := 1000000

def scanRequestInterval : ℕ := 10000 * nanosPerMilli
def scanRetryDelay : ℕ := 1000 * nanosPerMilli
def scanSchedulePollInterval : ℕ := 100 * nanosPerMilli

/-- Subtraction of 64-bit numbers that stops at their limits. -/
def saturatingSub (a b : ℤ) : ℤ := max (-2 ^ 63) (min (2 ^ 63 - 1) (a - b))

/-- The time since the last scan of the device; it is negative if there was none. -/
def sinceScan (lastScanMs boottimeMs : ℤ) : Option ℕ :=
  if lastScanMs ≥ 0 then
    let elapsed := saturatingSub boottimeMs lastScanMs
    if elapsed ≥ 0 then some (elapsed.toNat * nanosPerMilli) else none
  else none

/-- How long to wait until NetworkManager accepts another request. -/
def rateLimitWait (lastScanMs boottimeMs : ℤ) (lastRequest : Option ℕ) (now : ℕ) : ℕ :=
  let sinceRequest := lastRequest.map fun moment => now - moment
  (([sinceScan lastScanMs boottimeMs, sinceRequest].filterMap id).map
    fun elapsed => scanRequestInterval - elapsed).max?.getD 0

/-- The number of 64 bits, written as a quotient, that is nearest to `num / den`. Quotients from
2 to the 54th on are not rounded; no clock gets there. -/
def nearestDouble (num den : ℕ) : ℕ × ℕ :=
  let shift := 53 + den.log2 - num.log2
  -- 53 binary digits are kept
  let shift := if num * 2 ^ shift / den < 2 ^ 53 then shift else shift - 1
  let scaled := num * 2 ^ shift
  let twice := 2 * (scaled % den)
  let even := scaled / den % 2 = 0
  (if twice < den ∨ (twice = den ∧ even) then scaled / den else scaled / den + 1, 2 ^ shift)

/-- A decimal fraction, as a quotient. `/proc/uptime` has no other numbers. -/
def parseSeconds (word : List Char) : Option (ℕ × ℕ) :=
  let fraction := (word.dropWhile (· ≠ '.')).drop 1
  let digits := word.takeWhile (· ≠ '.') ++ fraction
  if digits ≠ [] ∧ digits.all Char.isDigit then
    some (digits.foldl (fun n c => 10 * n + (c.toNat - 48)) 0, 10 ^ fraction.length)
  else none

/-- The boot time in milliseconds, from the text of `/proc/uptime` if it can be read. -/
def boottimeMs (uptime : Option String) : Option ℤ := do
  let text ← uptime
  let (num, den) ← parseSeconds ((text.toList.dropWhile Char.isWhitespace).takeWhile
    fun c => !c.isWhitespace)
  let seconds := nearestDouble num den
  let product := nearestDouble (seconds.1 * 1000) seconds.2
  some (product.1 / product.2 : ℕ)

/-- Without a boot-time clock there is no wait. -/
def rateLimitWaitFor (boottimeMs : Option ℤ) (lastScanMs : ℤ) (lastRequest : Option ℕ) (now : ℕ) :
    ℕ :=
  match boottimeMs with
  | none => 0
  | some boottimeMs => rateLimitWait lastScanMs boottimeMs lastRequest now

variable {lastScanMs : ℤ} {now : ℕ}

theorem le_rateLimitWait {boottimeMs : ℤ} {lastRequest : Option ℕ} {elapsed : ℕ}
    (h : sinceScan lastScanMs boottimeMs = some elapsed ∨
      (lastRequest.map fun moment => now - moment) = some elapsed) :
    scanRequestInterval - elapsed ≤ rateLimitWait lastScanMs boottimeMs lastRequest now := by
  apply List.le_max?_getD_of_mem
  refine List.mem_map_of_mem (f := fun elapsed => scanRequestInterval - elapsed) ?_
  rcases h with h | h <;> simp [h]

/-- The wait ends no sooner than the interval after the last request. -/
theorem le_rateLimitWait_request (lastScanMs boottimeMs : ℤ) {moment : ℕ} (h : moment ≤ now) :
    moment + scanRequestInterval ≤
      now + rateLimitWait lastScanMs boottimeMs (some moment) now := by
  have hle : scanRequestInterval - (now - moment) ≤
      rateLimitWait lastScanMs boottimeMs (some moment) now := le_rateLimitWait (.inr rfl)
  omega

/-- Without a scan in the past the wait is for the last request alone. -/
theorem rateLimitWait_of_none {boottimeMs : ℤ} (h : sinceScan lastScanMs boottimeMs = none)
    (lastRequest : Option ℕ) (now : ℕ) : rateLimitWait lastScanMs boottimeMs lastRequest now =
      (lastRequest.map fun moment => scanRequestInterval - (now - moment)).getD 0 := by
  rw [rateLimitWait, h]
  cases lastRequest <;> rfl

/-- The wait ends no sooner than the interval after the last scan. -/
theorem le_rateLimitWait_scan {boottimeMs : ℤ} (lastRequest : Option ℕ) (now : ℕ)
    (hscan : 0 ≤ lastScanMs) (hclock : lastScanMs ≤ boottimeMs) :
    lastScanMs * nanosPerMilli + scanRequestInterval ≤
      boottimeMs * nanosPerMilli + rateLimitWait lastScanMs boottimeMs lastRequest now := by
  have helapsed : 0 ≤ saturatingSub boottimeMs lastScanMs := by
    simp only [saturatingSub]
    omega
  have hsince : sinceScan lastScanMs boottimeMs =
      some ((saturatingSub boottimeMs lastScanMs).toNat * nanosPerMilli) := by
    rw [sinceScan, if_pos hscan]
    exact if_pos helapsed
  have hle : scanRequestInterval - (saturatingSub boottimeMs lastScanMs).toNat * nanosPerMilli ≤
      rateLimitWait lastScanMs boottimeMs lastRequest now := le_rateLimitWait (.inl hsince)
  have hsub : saturatingSub boottimeMs lastScanMs ≤ boottimeMs - lastScanMs := by
    simp only [saturatingSub]
    omega
  simp only [nanosPerMilli] at hle ⊢
  omega

/-! ## The sleep -/

/-- The clock as one round of a sleep reads it, and whether the scan is cancelled. -/
structure SleepRound : Type where
  loop : ℕ
  cancelled : Bool
  expiry : ℕ
  slice : ℕ
  wait : ℕ
  again : ℕ

inductive SleepStep : Type where
  /-- the sleep is over, in time or not -/
  | over (inTime : Bool)
  | cancelled
  | asleep (slice : ℕ)

/-- One round of `sleep_within_deadline`. -/
def sleepRound (wakeAt deadline : ℕ) (round : SleepRound) : SleepStep :=
  if round.loop < wakeAt then
    if round.cancelled then .cancelled
    else if deadline ≤ round.expiry then .over false
    else
      let slice := min (min scanSchedulePollInterval (wakeAt - round.slice))
        (min scanSchedulePollInterval (deadline - round.wait))
      if slice = 0 then .over (decide (round.again < deadline)) else .asleep slice
  else .over true

/-- The readings of a round are in order, and not in the future. -/
def SleepRound.Ordered (round : SleepRound) (now : ℕ) : Prop :=
  round.loop ≤ round.expiry ∧ round.expiry ≤ round.slice ∧ round.slice ≤ round.wait ∧
    round.wait ≤ round.again ∧ round.again ≤ now

instance (round : SleepRound) (now : ℕ) : Decidable (round.Ordered now) :=
  inferInstanceAs (Decidable (_ ∧ _))

theorem sleepRound_over {wakeAt deadline : ℕ} {round : SleepRound} (hordered : round.Ordered now)
    (h : sleepRound wakeAt deadline round = .over true) : wakeAt ≤ now := by
  obtain ⟨h₁, h₂, h₃, h₄, h₅⟩ := hordered
  unfold sleepRound at h
  split at h
  · split at h
    · cases h
    · split at h
      · cases h
      · simp only at h
        split at h
        · -- the slice is empty because the time has come, or because there is none left
          rename_i hslice
          have hagain : round.again < deadline := by simpa using h
          simp only [scanSchedulePollInterval, nanosPerMilli] at hslice
          omega
        · cases h
  · omega

/-! ## The machine -/

/-- The monotonic clock and the clock that also counts suspension. -/
structure Clock : Type where
  mono : ℕ
  boot : ℕ

/-- What the wait of a turn is worked out from: the scan time that was read, the boot time that
was, the request before this turn, and the clocks at that moment. -/
structure Basis : Type where
  lastScan : ℤ
  reading : Option ℤ
  previous : Option ℕ
  clock : Clock

def Basis.wait (basis : Basis) : ℕ :=
  rateLimitWaitFor basis.reading basis.lastScan basis.previous basis.clock.mono

/-- How far the owner of a turn is. -/
inductive Phase : Type where
  | claimed
  | scheduled (lastScan : ℤ)
  /-- about to wait -/
  | pending (basis : Basis) (wait : ℕ)
  | sleeping (basis : Basis) (wakeAt : ℕ)
  | ready (basis : Basis)
  /-- NetworkManager accepted, the scheduler does not know -/
  | accepted
  /-- only the lease is left -/
  | leaving

structure Owner : Type where
  generation : UInt64
  deadline : ℕ
  phase : Phase

/-- A device, those who scan it, and the time. -/
structure Station : Type where
  state : DeviceScanState
  owners : Table ℕ Owner
  clock : Clock

/-- What NetworkManager says to a request. -/
inductive RequestReply : Type where
  | accepted
  | rejected (isTransient : Bool)

/-- What the owner of a turn does. -/
inductive OwnerAction : Type where
  | readLastScan (lastScan : ℤ)
  | computeWait (uptime : Option String)
  | sleep
  | sleepRound (round : SleepRound)
  | request (reply : RequestReply)
  | note
  /-- the lease ends, with an outcome or because the owner unwinds -/
  | drop (outcome : Option SharedScanOutcome)

/-- What happens at the scheduler of a device. -/
inductive StationAction : Type where
  | advance (elapsed suspended : ℕ)
  | claim (thread : ℕ) (ssids : List (List UInt8)) (deadline : ℕ)
  /-- a caller that joined looks for the outcome -/
  | poll (generation : UInt64) (cancelled expired : Bool)
  | work (thread : ℕ) (a : OwnerAction)

inductive StationAnswer : Type where
  | done
  | turn (turn : ScanTurn)
  | waited (result : Option ScanWait)
  /-- the wait was worked out -/
  | scheduled (basis : Basis)
  /-- a request was accepted at this moment, after a wait that was worked out from this -/
  | accepted (moment boot : ℕ) (basis : Basis)

namespace Station

variable (s : Station)

def setPhase (thread : ℕ) (owner : Owner) (phase : Phase) : Station :=
  { s with owners := s.owners.insert thread { owner with phase } }

/-- A caller asks for its turn; if it gets it, it is an owner. -/
def claim (thread : ℕ) (ssids : List (List UInt8)) (deadline : ℕ) : Station × StationAnswer :=
  match s.state.claim ssids s.clock.mono with
  | (.request generation, state) =>
    ({ s with state, owners := s.owners.insert thread ⟨generation, deadline, .claimed⟩ },
      .turn (.request generation))
  | (turn, state) => ({ s with state }, .turn turn)

/-- What an owner does next, by its phase. -/
def work (thread : ℕ) (owner : Owner) : OwnerAction → Option (Station × StationAnswer)
  | .readLastScan lastScan =>
    match owner.phase with
    | .claimed => some (s.setPhase thread owner (.scheduled lastScan), .done)
    | _ => none
  | .computeWait uptime =>
    match owner.phase with
    | .scheduled lastScan =>
      let basis := ⟨lastScan, boottimeMs uptime, s.state.previousRequest, s.clock⟩
      some (s.setPhase thread owner (.pending basis basis.wait), .scheduled basis)
    | _ => none
  | .sleep =>
    match owner.phase with
    | .pending basis wait =>
      if wait = 0 then some (s.setPhase thread owner (.ready basis), .done)
      else some (s.setPhase thread owner (.sleeping basis (s.clock.mono + wait)), .done)
    | _ => none
  | .sleepRound round =>
    match owner.phase with
    | .sleeping basis wakeAt =>
      if round.Ordered s.clock.mono then
        match Scan.sleepRound wakeAt owner.deadline round with
        | .over true => some (s.setPhase thread owner (.ready basis), .done)
        | .over false | .cancelled => some (s.setPhase thread owner .leaving, .done)
        | .asleep _ => some (s, .done)
      else none
    | _ => none
  | .request reply =>
    match owner.phase, reply with
    | .ready basis, .accepted =>
      some (s.setPhase thread owner .accepted, .accepted s.clock.mono s.clock.boot basis)
    | .ready basis, .rejected isTransient =>
      if isTransient ∧ s.clock.mono < owner.deadline then
        some (s.setPhase thread owner (.pending basis scanRetryDelay), .done)
      else some (s.setPhase thread owner .leaving, .done)
    | _, _ => none
  | .note =>
    match owner.phase with
    | .accepted =>
      some ({ s.setPhase thread owner .leaving with
        state := s.state.noteRequest s.clock.mono }, .done)
    | _ => none
  | .drop outcome =>
    match owner.phase with
    -- the acceptance is noted before anything else happens
    | .accepted => none
    | _ =>
      some ({ s with
        state := s.state.complete owner.generation (outcome.getD stoppedOutcome)
        owners := s.owners.erase thread }, .done)

/-- A call of the scheduler, or a step of the owner of a turn. -/
def step : StationAction → Option (Station × StationAnswer)
  | .advance elapsed suspended =>
    some ({ s with clock := ⟨s.clock.mono + elapsed, s.clock.boot + elapsed + suspended⟩ }, .done)
  | .claim thread ssids deadline =>
    if (s.owners.lookup thread).isSome then none else some (s.claim thread ssids deadline)
  | .poll generation cancelled expired =>
    match s.state.waitResult generation cancelled expired with
    | none => some (s, .waited none)
    | some result =>
      some ({ s with state := s.state.consumeWaiter generation }, .waited (some result))
  | .work thread a => (s.owners.lookup thread).bind fun owner => s.work thread owner a

end Station

/-- A device that was not scanned through this scheduler yet. -/
def requests (clock : Clock) : Machine Station StationAction StationAnswer :=
  ⟨⟨.default, ∅, clock⟩, Station.step⟩

abbrev StationEntry : Type := StationAction × StationAnswer

/-- The boot-time clock can be read and is not ahead of the time. -/
def Basis.Read (basis : Basis) : Prop :=
  ∃ reading, basis.reading = some reading ∧ reading * nanosPerMilli ≤ basis.clock.boot

/-- It is so whenever a wait is worked out. -/
def ClockRead : StationEntry → Prop
  | (_, .scheduled basis) => basis.Read
  | _ => True

/-- The interval after the last scan is over at a boot time. -/
def Basis.Due (basis : Basis) (boot : ℕ) : Prop :=
  0 ≤ basis.lastScan → basis.lastScan * nanosPerMilli + scanRequestInterval ≤ boot

/-- The wait makes up for the last scan: the scan was long ago, or the boot time that was read is
not behind it, or the request before this turn was not earlier than the scan. -/
def Basis.Covered (basis : Basis) : Prop :=
  basis.Due basis.clock.boot ∨
    (∃ reading, basis.reading = some reading ∧ basis.lastScan ≤ reading) ∨
    ∃ moment, basis.previous = some moment ∧
      basis.lastScan * nanosPerMilli + (basis.clock.mono - moment : ℕ) ≤ basis.clock.boot

/-- That is exactly when the interval after the last scan is over with the wait. -/
theorem Basis.covered_iff {basis : Basis} (hread : basis.Read) :
    basis.Covered ↔ basis.Due (basis.clock.boot + basis.wait) := by
  obtain ⟨lastScan, _, previous, mono, boot⟩ := basis
  obtain ⟨reading, rfl, hboot⟩ := hread
  simp only [Basis.Covered, Basis.Due, Basis.wait, rateLimitWaitFor, Option.some.injEq,
    exists_eq_left'] at hboot ⊢
  constructor
  · rintro (hdue | hscan | ⟨moment, rfl, hrequest⟩) hzero
    · have := hdue hzero
      omega
    · have := le_rateLimitWait_scan previous mono hzero hscan
      push_cast
      omega
    · have : scanRequestInterval - (mono - moment) ≤
          rateLimitWait lastScan reading (some moment) mono := le_rateLimitWait (.inr rfl)
      omega
  · intro hdue
    by_cases hscan : lastScan ≤ reading
    · exact .inr (.inl hscan)
    by_cases hzero : 0 ≤ lastScan
    · have hnone : sinceScan lastScan reading = none := by
        rw [sinceScan, if_pos hzero]
        refine if_neg ?_
        simp only [saturatingSub]
        omega
      have hlate := hdue hzero
      rw [rateLimitWait_of_none hnone] at hlate
      rcases previous with _ | moment
      · exact .inl fun _ => by simpa using hlate
      · -- either the request is long past, and so is the scan, or the wait is for the request
        simp only [Option.map_some, Option.getD_some] at hlate
        by_cases hpast : mono - moment ≤ scanRequestInterval
        · exact .inr (.inr ⟨moment, rfl, by omega⟩)
        · exact .inl fun _ => by omega
    · exact .inl fun h => absurd h hzero

/-- The moments an answer reports as those of an accepted request. -/
def StationAnswer.moments : StationAnswer → List ℕ
  | .accepted moment _ _ => [moment]
  | _ => []

/-! ## What an owner knows -/

/-- If the wait covers the last scan, the interval after it is over at `moment` of the monotonic
clock; the boot-time clock will have gained at least as much until then. -/
def ScanOver (clock : Clock) (basis : Basis) (moment : ℕ) : Prop :=
  basis.Covered → 0 ≤ basis.lastScan →
    basis.lastScan * nanosPerMilli + scanRequestInterval + clock.mono ≤ moment + clock.boot

/-- At `moment` the interval after every accepted request and after the last scan is over. -/
def Rested (accepted : List ℕ) (clock : Clock) (basis : Basis) (moment : ℕ) : Prop :=
  (∀ a ∈ accepted, a + scanRequestInterval ≤ moment) ∧ ScanOver clock basis moment

/-- What a phase says of the requests accepted so far, and of the last scan. -/
def PhaseSpaced (accepted : List ℕ) (previousRequest : Option ℕ) (clock : Clock) : Phase → Prop
  | .claimed | .scheduled _ => ∀ a ∈ accepted, ∃ p, previousRequest = some p ∧ a ≤ p
  | .pending basis wait => Rested accepted clock basis (clock.mono + wait)
  | .sleeping basis wakeAt => Rested accepted clock basis wakeAt
  | .ready basis => Rested accepted clock basis clock.mono
  | .accepted | .leaving => True

variable {clock : Clock} {accepted : List ℕ}

/-- It stays so at a later moment, also when time has passed. -/
theorem Rested.later {basis : Basis} {moment moment' : ℕ} (h : Rested accepted clock basis moment)
    (hle : moment ≤ moment') (elapsed suspended : ℕ) :
    Rested accepted ⟨clock.mono + elapsed, clock.boot + elapsed + suspended⟩ basis moment' := by
  refine ⟨fun a ha => le_trans (h.1 a ha) hle, fun hcovered hscan => ?_⟩
  have := h.2 hcovered hscan
  push_cast
  omega

theorem PhaseSpaced.advance {previousRequest : Option ℕ} {phase : Phase}
    (h : PhaseSpaced accepted previousRequest clock phase) (elapsed suspended : ℕ) :
    PhaseSpaced accepted previousRequest ⟨clock.mono + elapsed, clock.boot + elapsed + suspended⟩
      phase := by
  cases phase with
  | claimed => exact h
  | scheduled lastScan => exact h
  | accepted => trivial
  | leaving => trivial
  | sleeping basis wakeAt => exact h.later le_rfl elapsed suspended
  | pending basis wait =>
    exact h.later (Nat.add_le_add_right (Nat.le_add_right _ _) _) elapsed suspended
  | ready basis => exact h.later (Nat.le_add_right _ _) elapsed suspended

/-- One owner at most, which knows what its phase says; and a request that was accepted is
in the scheduler, unless its owner is about to note it. -/
structure Spaced (accepted : List ℕ) (s : Station) : Prop where
  owner : ∀ thread owner, s.owners.lookup thread = some owner →
    s.state.inFlight.isSome = true ∧ owner.generation = s.state.generation ∧
      PhaseSpaced accepted s.state.previousRequest s.clock owner.phase
  unique : ∀ thread thread' owner owner', s.owners.lookup thread = some owner →
    s.owners.lookup thread' = some owner' → thread = thread'
  last_past : ∀ r, s.state.lastRequest = some r → r ≤ s.clock.mono
  previous_past : ∀ p, s.state.previousRequest = some p → p ≤ s.clock.mono
  accepted_past : ∀ a ∈ accepted, a ≤ s.clock.mono
  recorded : ∀ a ∈ accepted, (∃ r, s.state.lastRequest = some r ∧ a ≤ r) ∨
    ∃ thread owner, s.owners.lookup thread = some owner ∧ owner.phase = .accepted

namespace Spaced

variable {s : Station}

/-- Nothing but the callers that wait has changed. -/
theorem congr_state (h : Spaced accepted s) {state : DeviceScanState}
    (hflight : state.inFlight = s.state.inFlight)
    (hgeneration : state.generation = s.state.generation)
    (hlast : state.lastRequest = s.state.lastRequest)
    (hprevious : state.previousRequest = s.state.previousRequest) :
    Spaced accepted { s with state } where
  owner thread owner howner := by
    rw [hflight, hgeneration, hprevious]
    exact h.owner thread owner howner
  unique := h.unique
  last_past := by rw [hlast]; exact h.last_past
  previous_past := by rw [hprevious]; exact h.previous_past
  accepted_past := h.accepted_past
  recorded := by rw [hlast]; exact h.recorded

variable {owner : Owner} {thread : ℕ}

section

variable (h : Spaced accepted s)

include h

/-- Whoever is there after the owner went on to another phase is the owner. -/
theorem eq_of_setPhase (howner : s.owners.lookup thread = some owner)
    (phase : Phase) : ∀ t o, (s.setPhase thread owner phase).owners.lookup t = some o →
      t = thread ∧ o = { owner with phase } := by
  intro t o ho
  simp only [Station.setPhase, Table.lookup_insert_ite] at ho
  split_ifs at ho with heq
  · cases ho
    exact ⟨heq, rfl⟩
  · exact absurd (h.unique _ _ _ _ ho howner) heq

/-- A request whose owner is not about to note it is recorded. -/
theorem recorded_of_owner (howner : s.owners.lookup thread = some owner)
    (hphase : owner.phase ≠ .accepted) :
    ∀ a ∈ accepted, ∃ r, s.state.lastRequest = some r ∧ a ≤ r := by
  intro a ha
  rcases h.recorded a ha with hr | ⟨thread', owner', howner', hphase'⟩
  · exact hr
  · obtain rfl := h.unique _ _ _ _ howner howner'
    rw [howner] at howner'
    cases howner'
    exact absurd hphase' hphase

/-- The owner goes on to another phase. -/
theorem setPhase {phase : Phase}
    (howner : s.owners.lookup thread = some owner) (hnot : owner.phase ≠ .accepted)
    (hphase : PhaseSpaced accepted s.state.previousRequest s.clock phase) :
    Spaced accepted (s.setPhase thread owner phase) where
  owner t o ho := by
    obtain ⟨hflight, hgeneration, -⟩ := h.owner thread owner howner
    obtain ⟨-, rfl⟩ := h.eq_of_setPhase howner phase t o ho
    exact ⟨hflight, hgeneration, hphase⟩
  unique t t' o o' ho ho' := by
    have hthread := h.eq_of_setPhase howner phase
    rw [(hthread t o ho).1, (hthread t' o' ho').1]
  last_past := h.last_past
  previous_past := h.previous_past
  accepted_past := h.accepted_past
  recorded a ha := .inl (h.recorded_of_owner howner hnot a ha)

/-- Time passes. -/
theorem advance (elapsed suspended : ℕ) :
    Spaced accepted { s with
      clock := ⟨s.clock.mono + elapsed, s.clock.boot + elapsed + suspended⟩ } where
  owner thread owner howner := by
    obtain ⟨hflight, hgeneration, hphase⟩ := h.owner thread owner howner
    exact ⟨hflight, hgeneration, hphase.advance elapsed suspended⟩
  unique := h.unique
  last_past r hr := le_trans (h.last_past r hr) (Nat.le_add_right _ _)
  previous_past p hp := le_trans (h.previous_past p hp) (Nat.le_add_right _ _)
  accepted_past a ha := le_trans (h.accepted_past a ha) (Nat.le_add_right _ _)
  recorded := h.recorded

/-- A caller gets its turn: there is no other owner, and every request so far is recorded. -/
theorem claim (hidle : s.state.inFlight = none) (thread deadline : ℕ) (ssids : List (List UInt8)) :
    Spaced accepted (s.claim thread ssids deadline).1 := by
  have hnobody : ∀ t, s.owners.lookup t = none := by
    intro t
    rcases howner : s.owners.lookup t with _ | owner
    · rfl
    · obtain ⟨hflight, -⟩ := h.owner t owner howner
      rw [hidle] at hflight
      cases hflight
  have hrecorded : ∀ a ∈ accepted, ∃ r, s.state.lastRequest = some r ∧ a ≤ r := by
    intro a ha
    rcases h.recorded a ha with hr | ⟨t, owner, howner, -⟩
    · exact hr
    · rw [hnobody] at howner
      cases howner
  have hthread : ∀ t o, (s.owners.insert thread ⟨s.state.generation + 1, deadline, .claimed⟩).lookup
      t = some o → t = thread ∧ o = ⟨s.state.generation + 1, deadline, .claimed⟩ := by
    intro t o ho
    rw [Table.lookup_insert_ite, hnobody] at ho
    split_ifs at ho with heq
    cases ho
    exact ⟨heq, rfl⟩
  have hclaim : (s.claim thread ssids deadline).1 =
      { s with
        state := { s.state with
          inFlight := some (normalizedSsids ssids)
          generation := s.state.generation + 1
          previousRequest := s.state.lastRequest
          lastRequest := some s.clock.mono }
        owners := s.owners.insert thread ⟨s.state.generation + 1, deadline, .claimed⟩ } := by
    simp only [Station.claim, DeviceScanState.claim, hidle]
  rw [hclaim]
  refine ⟨?_, ?_, ?_, h.last_past, h.accepted_past, fun a ha => .inl ⟨_, rfl, h.accepted_past a ha⟩⟩
  · intro t o ho
    obtain ⟨-, rfl⟩ := hthread t o ho
    exact ⟨rfl, rfl, hrecorded⟩
  · intro t t' o o' ho ho'
    rw [(hthread t o ho).1, (hthread t' o' ho').1]
  · rintro r ⟨⟩
    exact le_refl _

/-- An owner's request is accepted. -/
theorem accept (howner : s.owners.lookup thread = some owner) :
    Spaced (accepted ++ [s.clock.mono]) (s.setPhase thread owner .accepted) := by
  have hself : (s.setPhase thread owner .accepted).owners.lookup thread =
      some { owner with phase := .accepted } := by
    simp [Station.setPhase]
  have hthread := h.eq_of_setPhase howner .accepted
  refine ⟨?_, ?_, h.last_past, h.previous_past, ?_, fun a ha => .inr ⟨thread, _, hself, rfl⟩⟩
  · intro t o ho
    obtain ⟨-, rfl⟩ := hthread t o ho
    obtain ⟨hflight, hgeneration, -⟩ := h.owner _ owner howner
    exact ⟨hflight, hgeneration, trivial⟩
  · intro t t' o o' ho ho'
    rw [(hthread t o ho).1, (hthread t' o' ho').1]
  · intro a ha
    rcases List.mem_append.mp ha with ha | ha
    · exact h.accepted_past a ha
    · rw [List.mem_singleton.mp ha]
      exact le_refl _

/-- The scheduler is told of an accepted request. -/
theorem note (howner : s.owners.lookup thread = some owner) :
    Spaced accepted { s.setPhase thread owner .leaving with
      state := s.state.noteRequest s.clock.mono } := by
  obtain ⟨hflight, hgeneration, -⟩ := h.owner thread owner howner
  have hthread := h.eq_of_setPhase howner .leaving
  refine ⟨?_, ?_, ?_, h.previous_past, h.accepted_past, ?_⟩
  · intro t o ho
    obtain ⟨-, rfl⟩ := hthread t o ho
    exact ⟨hflight, hgeneration, trivial⟩
  · intro t t' o o' ho ho'
    rw [(hthread t o ho).1, (hthread t' o' ho').1]
  · rintro r ⟨⟩
    exact le_refl _
  · exact fun a ha => .inl ⟨_, rfl, h.accepted_past a ha⟩

/-- The wait is worked out from the previous request and the last scan. -/
theorem pending {lastScan : ℤ} {uptime : Option ℤ}
    (hphase : PhaseSpaced accepted s.state.previousRequest s.clock (.scheduled lastScan))
    (hread : (⟨lastScan, uptime, s.state.previousRequest, s.clock⟩ : Basis).Read) :
    PhaseSpaced accepted s.state.previousRequest s.clock
      (.pending ⟨lastScan, uptime, s.state.previousRequest, s.clock⟩
        (⟨lastScan, uptime, s.state.previousRequest, s.clock⟩ : Basis).wait) := by
  refine ⟨fun a ha => ?_, fun hcovered hzero => ?_⟩
  · obtain ⟨reading, hreading, -⟩ := hread
    obtain rfl : uptime = some reading := hreading
    obtain ⟨p, hp, hle⟩ := hphase a ha
    have hwait := le_rateLimitWait_request lastScan reading (h.previous_past p hp)
    simp only [Basis.wait, rateLimitWaitFor, hp]
    omega
  · have hdue := (Basis.covered_iff hread).mp hcovered hzero
    push_cast at hdue ⊢
    omega

/-- The turn ends. -/
theorem drop (howner : s.owners.lookup thread = some owner)
    (hnot : owner.phase ≠ .accepted) (outcome : SharedScanOutcome) :
    Spaced accepted { s with
      state := s.state.complete owner.generation outcome
      owners := s.owners.erase thread } := by
  have hnobody : ∀ t, (s.owners.erase thread).lookup t = none := by
    intro t
    rw [Table.lookup_erase_ite]
    split_ifs with heq
    · rfl
    · rcases ho : s.owners.lookup t with _ | o
      · rfl
      · exact absurd (h.unique _ _ _ _ ho howner) heq
  have hkept : (s.state.complete owner.generation outcome).lastRequest = s.state.lastRequest ∧
      (s.state.complete owner.generation outcome).previousRequest = s.state.previousRequest := by
    unfold DeviceScanState.complete
    split
    · split <;> exact ⟨rfl, rfl⟩
    · exact ⟨rfl, rfl⟩
  refine ⟨fun t o ho => ?_, fun t _ o _ ho _ => ?_, ?_, ?_, h.accepted_past, fun a ha => ?_⟩
  · rw [hnobody] at ho
    cases ho
  · rw [hnobody] at ho
    cases ho
  · rw [hkept.1]
    exact h.last_past
  · rw [hkept.2]
    exact h.previous_past
  · rw [hkept.1]
    exact .inl (h.recorded_of_owner howner hnot a ha)

end

/-- A request is accepted when the interval is over. -/
def Due (accepted : List ℕ) (o : StationAnswer) : Prop :=
  ∀ moment boot basis, o = .accepted moment boot basis →
    (∀ a ∈ accepted, a + scanRequestInterval ≤ moment) ∧ (basis.Covered → basis.Due boot)

variable {o : StationAnswer}

/-- An answer that reports no request. -/
theorem quiet (ho : o.moments = []) (h : Spaced accepted s) :
    Spaced (accepted ++ o.moments) s ∧ Due accepted o := by
  rw [ho, List.append_nil]
  refine ⟨h, ?_⟩
  rintro moment boot basis rfl
  cases ho

/-- What an owner does keeps the requests spaced. -/
theorem work (h : Spaced accepted s) {s' : Station} {a : OwnerAction}
    (howner : s.owners.lookup thread = some owner) (hwork : s.work thread owner a = some (s', o))
    (hclock : ClockRead (.work thread a, o)) :
    Spaced (accepted ++ o.moments) s' ∧ Due accepted o := by
  obtain ⟨-, -, hphase⟩ := h.owner thread owner howner
  obtain ⟨generation, deadline, phase⟩ := owner
  cases a with
  | readLastScan lastScan =>
    cases phase with
    | claimed =>
      cases hwork
      exact quiet rfl (h.setPhase howner nofun hphase)
    | _ => cases hwork
  | computeWait uptime =>
    cases phase with
    | scheduled lastScan =>
      cases hwork
      exact quiet rfl (h.setPhase howner nofun (h.pending hphase hclock))
    | _ => cases hwork
  | sleep =>
    cases phase with
    | pending basis wait =>
      simp only [Station.work] at hwork
      split_ifs at hwork with hwait
      · cases hwork
        subst hwait
        exact quiet rfl (h.setPhase howner nofun hphase)
      · cases hwork
        exact quiet rfl (h.setPhase howner nofun hphase)
    | _ => cases hwork
  | sleepRound round =>
    cases phase with
    | sleeping basis wakeAt =>
      simp only [Station.work] at hwork
      split_ifs at hwork with hordered
      rcases hround : Scan.sleepRound wakeAt deadline round with (_ | _) | _ | slice
      all_goals
        rw [hround] at hwork
        cases hwork
      · exact quiet rfl (h.setPhase howner nofun trivial)
      · -- the sleep was long enough
        have hwoken := sleepRound_over hordered hround
        exact quiet rfl (h.setPhase howner nofun (hphase.later hwoken 0 0))
      · exact quiet rfl (h.setPhase howner nofun trivial)
      · exact quiet rfl h
    | _ => cases hwork
  | request reply =>
    cases phase with
    | ready basis =>
      cases reply with
      | accepted =>
        cases hwork
        refine ⟨h.accept howner, ?_⟩
        rintro moment boot basis' ⟨⟩
        refine ⟨hphase.1, fun hcovered hscan => ?_⟩
        have := hphase.2 hcovered hscan
        omega
      | rejected isTransient =>
        simp only [Station.work] at hwork
        split_ifs at hwork
        · cases hwork
          exact quiet rfl (h.setPhase howner nofun (hphase.later (Nat.le_add_right _ _) 0 0))
        · cases hwork
          exact quiet rfl (h.setPhase howner nofun trivial)
    | _ => cases reply <;> cases hwork
  | note =>
    cases phase with
    | accepted =>
      cases hwork
      exact quiet rfl (h.note howner)
    | _ => cases hwork
  | drop outcome =>
    cases phase with
    | accepted => cases hwork
    | _ =>
      cases hwork
      exact quiet rfl (h.drop howner nofun _)

theorem step (h : Spaced accepted s) {s' : Station} {a : StationAction}
    (hstep : s.step a = some (s', o)) (hclock : ClockRead (a, o)) :
    Spaced (accepted ++ o.moments) s' ∧ Due accepted o := by
  cases a with
  | advance elapsed suspended =>
    cases hstep
    exact quiet rfl (h.advance elapsed suspended)
  | claim thread ssids deadline =>
    simp only [Station.step] at hstep
    split_ifs at hstep
    rcases hflight : s.state.inFlight with _ | inFlight
    · have hclaim := h.claim hflight thread deadline ssids
      simp only [Station.claim, DeviceScanState.claim, hflight] at hclaim hstep
      cases hstep
      exact quiet rfl hclaim
    · -- a scan is in flight: one more caller waits
      simp only [Station.claim, DeviceScanState.claim, hflight] at hstep
      cases hcovers : scanScopeCovers inFlight ssids <;> rw [hcovers] at hstep <;> cases hstep
      · exact quiet rfl (h.congr_state hflight.symm rfl rfl rfl)
      · exact quiet rfl (h.congr_state hflight.symm rfl rfl rfl)
  | poll generation cancelled expired =>
    simp only [Station.step] at hstep
    split at hstep
    · cases hstep
      exact quiet rfl h
    · cases hstep
      refine quiet rfl (h.congr_state ?_ ?_ ?_ ?_)
      all_goals
        unfold DeviceScanState.consumeWaiter
        split
        · rfl
        · split <;> rfl
  | work thread a =>
    obtain ⟨owner, howner, hwork⟩ := Option.bind_eq_some_iff.mp hstep
    exact h.work howner hwork hclock

end Spaced

/-- The moments of the accepted requests, oldest first. -/
def acceptedMoments (log : List StationEntry) : List ℕ := log.flatMap fun e => e.2.moments

theorem spaced_run {log : List StationEntry} {s : Station}
    (hrun : (requests clock).Reaches log s) (hclock : ∀ e ∈ log, ClockRead e) :
    Spaced (acceptedMoments log) s := by
  have hspaced : (∀ e ∈ log, ClockRead e) → Spaced (acceptedMoments log) s := by
    refine hrun.invariant (fun log s => (∀ e ∈ log, ClockRead e) → Spaced (acceptedMoments log) s)
      (fun _ => ?_) ?_
    · have hnone : ∀ t, (∅ : Table ℕ Owner).lookup t = none := fun t => AList.lookup_empty t
      refine ⟨fun t o ho => ?_, fun t _ o _ ho _ => ?_, nofun, nofun, nofun, nofun⟩
      · rw [show (requests clock).start.owners = ∅ from rfl, hnone] at ho
        cases ho
      · rw [show (requests clock).start.owners = ∅ from rfl, hnone] at ho
        cases ho
    · intro log t t' a o _ ih hstep hclock
      have hbefore := ih fun e he => hclock e (List.mem_append_left _ he)
      have hnext := hbefore.step hstep (hclock (a, o) (by simp))
      simpa [acceptedMoments] using hnext.1
  exact hspaced hclock

/-- An owner that waits may be done the moment its wait is over. -/
theorem pending_requested (clock : Clock) {s : Station} {thread : ℕ} {owner : Owner}
    {basis : Basis} {wait : ℕ} (howner : s.owners.lookup thread = some owner)
    (hphase : owner.phase = .pending basis wait) :
    ∃ log s', (requests clock).Run s log s' ∧ (∀ e ∈ log, ClockRead e) ∧
      (.work thread (.request .accepted),
        .accepted (s.clock.mono + wait) (s.clock.boot + wait) basis) ∈ log := by
  by_cases hwait : wait = 0
  · subst hwait
    obtain ⟨s', hexec⟩ : ∃ s', (requests clock).exec s
          [.work thread .sleep, .work thread (.request .accepted)] =
        some ([(.work thread .sleep, .done), (.work thread (.request .accepted),
          .accepted s.clock.mono s.clock.boot basis)], s') := by
      simp [Machine.exec, requests, Station.step, Station.work, Station.setPhase, howner, hphase]
    exact ⟨_, s', Machine.exec_run _ _ _ hexec, by simp [ClockRead], by simp⟩
  · let wakeAt := s.clock.mono + wait
    obtain ⟨s', hexec⟩ : ∃ s', (requests clock).exec s [.work thread .sleep, .advance wait 0,
          .work thread (.sleepRound ⟨wakeAt, false, wakeAt, wakeAt, wakeAt, wakeAt⟩),
          .work thread (.request .accepted)] =
        some ([(.work thread .sleep, .done), (.advance wait 0, .done),
          (.work thread (.sleepRound ⟨wakeAt, false, wakeAt, wakeAt, wakeAt, wakeAt⟩), .done),
          (.work thread (.request .accepted),
            .accepted wakeAt (s.clock.boot + wait) basis)], s') := by
      simp [Machine.exec, requests, Station.step, Station.work, Station.setPhase, howner, hphase,
        hwait, SleepRound.Ordered, sleepRound, wakeAt]
    exact ⟨_, s', Machine.exec_run _ _ _ hexec, by simp [ClockRead], by simp [wakeAt]⟩

/-- **Requests and the interval.** In every run of scans on a device whose boot-time clock can be
read and is not ahead of the time: any two accepted requests are the interval apart; an accepted
request comes no sooner than the interval after the scan time its owner read, if its wait covers
the scan; and if a wait does not, the run can go on with a request that is accepted too soon. -/
theorem requests_respect_interval {clock : Clock} {log : List StationEntry} {s : Station}
    (hrun : (requests clock).Run (requests clock).start log s) (hclock : ∀ e ∈ log, ClockRead e) :
    (∀ pre mid post a a' moment boot basis moment' boot' basis',
      log = pre ++ (a, .accepted moment boot basis) ::
        (mid ++ (a', .accepted moment' boot' basis') :: post) →
      moment + scanRequestInterval ≤ moment') ∧
    (∀ a moment boot basis, (a, .accepted moment boot basis) ∈ log → basis.Covered →
      basis.Due boot) ∧
    ∀ pre u thread uptime basis t post,
      (requests clock).Moment log s pre u (.work thread (.computeWait uptime)) (.scheduled basis) t
        post → ¬ basis.Covered →
      ∃ log' s' moment boot, (requests clock).Run t log' s' ∧ (∀ e ∈ log', ClockRead e) ∧
        (.work thread (.request .accepted), .accepted moment boot basis) ∈ log' ∧
        ¬ basis.Due boot := by
  -- every accepted request was due in the state before it
  have hdue : ∀ pre post a o, log = pre ++ (a, o) :: post → Spaced.Due (acceptedMoments pre) o := by
    rintro pre post a o rfl
    obtain ⟨t, t', hbefore, hstep, -⟩ := hrun.step_at
    have hspaced := spaced_run hbefore fun e he => hclock e (List.mem_append_left _ he)
    exact (hspaced.step hstep (hclock (a, o) (by simp))).2
  refine ⟨?_, ?_, ?_⟩
  · intro pre mid post a a' moment boot basis moment' boot' basis' hlog
    have hlog' : log = (pre ++ (a, .accepted moment boot basis) :: mid) ++
        (a', .accepted moment' boot' basis') :: post := by
      rw [hlog, List.append_assoc, List.cons_append]
    refine (hdue _ _ _ _ hlog' _ _ _ rfl).1 moment ?_
    simp [acceptedMoments, StationAnswer.moments]
  · intro a moment boot basis hmem
    obtain ⟨pre, post, hlog⟩ := List.append_of_mem hmem
    exact (hdue pre post _ _ hlog _ _ _ rfl).2
  · intro pre u thread uptime basis t post hmoment huncovered
    have hread : basis.Read :=
      hclock (.work thread (.computeWait uptime), .scheduled basis) (hmoment.split ▸ by simp)
    obtain ⟨owner, howner, hwork⟩ := Option.bind_eq_some_iff.mp hmoment.step
    obtain ⟨generation, deadline, phase⟩ := owner
    cases phase with
    | scheduled lastScan =>
      cases hwork
      obtain ⟨log', s', hafter, hread', hmem⟩ := pending_requested clock
        (s := u.setPhase thread ⟨generation, deadline, .scheduled lastScan⟩ (.pending _ _))
        (AList.lookup_insert u.owners) rfl
      exact ⟨log', s', _, _, hafter, hread', hmem,
        fun hlate => huncovered ((Basis.covered_iff hread).mpr hlate)⟩
    | _ => cases hwork

/-- Two scans, the second asked for three seconds after the first. -/
def twoScans : List StationAction :=
  .claim 0 [] 60000000000 :: [.readLastScan (-1), .computeWait (some "0.00 0.00\n"), .sleep,
      .request .accepted, .note, .drop (some .succeeded)].map (.work 0) ++
    [.advance 3000000000 0, .claim 1 [] 60000000000] ++
    [.readLastScan 1000, .computeWait (some "3.00 2.00\n"), .sleep].map (.work 1) ++
    .advance 8000000000 0 :: [.sleepRound ⟨11000000000, false, 11000000000, 11000000000,
      11000000000, 11000000000⟩, .request .accepted].map (.work 1)

/-- What the wait of the second one is worked out from. -/
def secondBasis : Basis := ⟨1000, some 3000, some 0, ⟨3000000000, 3000000000⟩⟩

/-- Each of them is accepted, the second one after the interval. -/
def twoScansLog : List StationEntry :=
  twoScans.zip [.turn (.request 1), .done, .scheduled ⟨-1, some 0, none, ⟨0, 0⟩⟩, .done,
    .accepted 0 0 ⟨-1, some 0, none, ⟨0, 0⟩⟩, .done, .done, .done, .turn (.request 2), .done,
    .scheduled secondBasis, .done, .done, .done, .accepted 11000000000 11000000000 secondBasis]

theorem requests_respect_interval_twoScans :
    ∃ s, (requests ⟨0, 0⟩).Run (requests ⟨0, 0⟩).start twoScansLog s ∧
      acceptedMoments twoScansLog = [0, 11000000000] ∧ secondBasis.Covered ∧
      secondBasis.Due 11000000000 := by
  obtain ⟨s, hexec⟩ : ∃ s,
      (requests ⟨0, 0⟩).exec (requests ⟨0, 0⟩).start twoScans = some (twoScansLog, s) := ⟨_, rfl⟩
  have hrun := Machine.exec_run _ _ _ hexec
  have hread : ∀ e ∈ twoScansLog, ClockRead e := by
    simp only [twoScansLog, twoScans, List.map_cons, List.map_nil, List.cons_append,
      List.nil_append, List.zip_cons_cons, List.zip_nil_right, List.forall_mem_cons, ClockRead,
      true_and]
    exact ⟨⟨0, rfl, by decide⟩, ⟨3000, rfl, by decide⟩, by simp⟩
  have hcovered : secondBasis.Covered := .inr (.inl ⟨3000, rfl, by decide⟩)
  exact ⟨s, hrun, rfl, hcovered, (requests_respect_interval hrun hread).2.1
    (.work 1 (.request .accepted)) 11000000000 11000000000 secondBasis
    (by simp [twoScansLog, twoScans]) hcovered⟩

/-- A scan is asked for right after another one has ended. -/
def rightAfterScan : List StationAction :=
  .claim 0 [] 60000000000 :: [.readLastScan 12347, .computeWait (some "12.34 20.01\n"), .sleep,
    .request .accepted].map (.work 0)

/-- A scan that ended three milliseconds before the boot time reached 12350 is not seen: the boot
time that is read is cut to 12340. A request is accepted one millisecond after the scan. -/
theorem request_right_after_scan : boottimeMs (some "12.34 20.01\n") = some 12340 ∧
    ∃ log s, (requests ⟨0, 12348 * nanosPerMilli⟩).Run
        (requests ⟨0, 12348 * nanosPerMilli⟩).start log s ∧ (∀ e ∈ log, ClockRead e) ∧
      log.map Prod.fst = rightAfterScan ∧
      ∃ basis, (.work 0 (.request .accepted), .accepted 0 (12348 * nanosPerMilli) basis) ∈ log ∧
        basis.lastScan = 12347 ∧ ¬ basis.Due (12348 * nanosPerMilli) := by
  have hreading : boottimeMs (some "12.34 20.01\n") = some 12340 := by decide +kernel
  refine ⟨hreading, ?_⟩
  let basis : Basis := ⟨12347, some 12340, none, ⟨0, 12348 * nanosPerMilli⟩⟩
  obtain ⟨s, hexec⟩ : ∃ s, (requests ⟨0, 12348 * nanosPerMilli⟩).exec
      (requests ⟨0, 12348 * nanosPerMilli⟩).start rightAfterScan =
      some (rightAfterScan.zip [.turn (.request 1), .done, .scheduled basis, .done,
        .accepted 0 (12348 * nanosPerMilli) basis], s) := ⟨_, rfl⟩
  refine ⟨_, s, Machine.exec_run _ _ _ hexec, ?_, rfl, basis, by simp [rightAfterScan], rfl, ?_⟩
  · simp only [rightAfterScan, List.map_cons, List.map_nil, List.zip_cons_cons, List.zip_nil_right,
      List.forall_mem_cons, ClockRead, true_and]
    exact ⟨⟨12340, rfl, by decide⟩, by simp⟩
  · exact fun hdue => absurd (hdue (by decide)) (by decide)

end Scan

end NmDaemon
