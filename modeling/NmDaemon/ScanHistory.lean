import NmDaemon.Base.Machine
import NmDaemon.ScanBook

/-!
# Scheduling under every interleaving

`scheduling` is the scheduler with the books of its devices. Every claim, every end of a
lease — also late, repeated and without an outcome — and every round of waiting is an
action.

* `step_moves` — what a step does to a device;
* `linked_run`, `exact_run` — the books agree with the scheduler in every run;
* `scans_shared` — what callers can rely on;
* `reused_generation_misleads` — what happens when a generation number is used again.
-/

namespace NmDaemon

namespace Scan

/-! ## The machine -/

/-- The scheduler, with the book of each device. -/
structure System : Type where
  scheduler : ScanScheduler
  books : String → Book

inductive Action : Type where
  /-- a caller asks for its turn -/
  | claim (device : String) (ssids : List (List UInt8)) (now : ℕ)
  /-- the lease of a scan ends, with an outcome or not; this may happen at any time after
  the scan was requested, and again -/
  | drop (device : String) (n : ℕ) (outcome : Option SharedScanOutcome)
  /-- a caller that waits looks again -/
  | poll (device : String) (i : ℕ) (cancelled expired : Bool)
  /-- a scan is requested from NetworkManager -/
  | note (device : String) (now : ℕ)

inductive Answer : Type where
  | turn (turn : ScanTurn)
  | wait (result : Option ScanWait)
  | done

namespace System

variable (s : System)

def claim (device : String) (ssids : List (List UInt8)) (now : ℕ) : System × Answer :=
  let (turn, scheduler) := s.scheduler.claim device ssids now
  (⟨scheduler, Function.update s.books device ((s.books device).enter ssids turn)⟩, .turn turn)

def drop (device : String) (n : ℕ) (outcome : Option SharedScanOutcome) :
    Option (System × Answer) :=
  ((s.books device).scans[n]?).map fun scan =>
    (⟨s.scheduler.dropLease device scan.generation outcome,
      Function.update s.books device
        ((s.books device).publish n scan (outcome.getD stoppedOutcome))⟩, .done)

def poll (device : String) (i : ℕ) (cancelled expired : Bool) : Option (System × Answer) :=
  ((s.books device).waits[i]?).bind fun wait =>
    if wait.left then none
    else
      match s.scheduler.pollCompletion device wait.generation cancelled expired with
      | (none, scheduler) => some (⟨scheduler, s.books⟩, .wait none)
      | (some result, scheduler) =>
        some (⟨scheduler, Function.update s.books device ((s.books device).leave i wait)⟩,
          .wait (some result))

def step : Action → Option (System × Answer)
  | .claim device ssids now => some (s.claim device ssids now)
  | .drop device n outcome => s.drop device n outcome
  | .poll device i cancelled expired => s.poll device i cancelled expired
  | .note device now => some (⟨s.scheduler.noteRequest device now, s.books⟩, .done)

end System

def scheduling : Machine System Action Answer where
  start := ⟨⟨∅⟩, fun _ => .empty⟩
  step := System.step

/-! ## What a step does to a device -/

namespace ScanScheduler

variable (scheduler : ScanScheduler) (device : String)

theorem state_insert (state : DeviceScanState) (other : String) :
    ScanScheduler.state ⟨scheduler.devices.insert device state⟩ other =
      if other = device then state else scheduler.state other := by
  unfold ScanScheduler.state
  rw [Table.lookup_insert_ite]
  split <;> rfl

/-- A device that is not known has the first state. -/
theorem state_modify {f : DeviceScanState → DeviceScanState} (hf : f .default = .default)
    (other : String) :
    (scheduler.modify device f).state other =
      if other = device then f (scheduler.state device) else scheduler.state other := by
  unfold modify
  split
  · rename_i hnone
    have hdefault : scheduler.state device = .default := by rw [ScanScheduler.state, hnone]; rfl
    split
    · rename_i heq
      rw [heq, hdefault, hf]
    · rfl
  · rename_i state hstate
    have hknown : scheduler.state device = state := by rw [ScanScheduler.state, hstate]; rfl
    rw [state_insert, hknown]

theorem state_complete (generation : UInt64) (outcome : SharedScanOutcome) (other : String) :
    (scheduler.complete device generation outcome).state other =
      if other = device then (scheduler.state device).complete generation outcome
      else scheduler.state other := by
  refine state_modify scheduler device ?_ other
  unfold DeviceScanState.complete
  split <;> rfl

theorem state_consume (generation : UInt64) (other : String) :
    (scheduler.modify device fun state => state.consumeWaiter generation).state other =
      if other = device then (scheduler.state device).consumeWaiter generation
      else scheduler.state other :=
  state_modify scheduler device rfl other

end ScanScheduler

/-- A caller that waits goes on waiting, or leaves with what it finds. -/
theorem poll_eq {s : System} {device : String} {i : ℕ} {wait : Waiting}
    (hwait : (s.books device).waits[i]? = some wait) (hleft : wait.left = false)
    (cancelled expired : Bool) :
    s.poll device i cancelled expired =
      match (s.scheduler.state device).waitResult wait.generation cancelled expired with
      | none => some (s, .wait none)
      | some result =>
        some (⟨s.scheduler.modify device fun state => state.consumeWaiter wait.generation,
          Function.update s.books device ((s.books device).leave i wait)⟩, .wait (some result)) := by
  rw [System.poll, hwait, Option.bind_some, hleft, ScanScheduler.pollCompletion]
  cases (s.scheduler.state device).waitResult wait.generation cancelled expired <;> rfl

theorem step_drop {s : System} {device : String} {n : ℕ} {scan : OwnedScan}
    (hscan : (s.books device).scans[n]? = some scan) (outcome : Option SharedScanOutcome) :
    ∃ t, scheduling.step s (.drop device n outcome) = some (t, .done) ∧
      (∀ other, t.scheduler.state other = if other = device then
        (s.scheduler.state device).complete scan.generation (outcome.getD stoppedOutcome)
        else s.scheduler.state other) ∧
      t.books = Function.update s.books device
        ((s.books device).publish n scan (outcome.getD stoppedOutcome)) := by
  refine ⟨_, Option.map_eq_some_iff.mpr ⟨scan, hscan, rfl⟩, ?_, rfl⟩
  exact ScanScheduler.state_complete _ _ _ _

/-- What can happen on a device. -/
inductive Move (state : DeviceScanState) (book : Book) : DeviceScanState → Book → Prop where
  | stay : Move state book state book
  | claim (ssids : List (List UInt8)) (now : ℕ) :
      Move state book (state.claim ssids now).2 (book.enter ssids (state.claim ssids now).1)
  | complete {n : ℕ} {scan : OwnedScan} (hscan : book.scans[n]? = some scan)
      (outcome : SharedScanOutcome) :
      Move state book (state.complete scan.generation outcome) (book.publish n scan outcome)
  | leave {i : ℕ} {wait : Waiting} (hwait : book.waits[i]? = some wait)
      (hleft : wait.left = false) :
      Move state book (state.consumeWaiter wait.generation) (book.leave i wait)
  | note (now : ℕ) : Move state book (state.noteRequest now) book

/-- A step is a move on one device, and the others stay as they are. -/
theorem step_moves {s t : System} {a : Action} {o : Answer}
    (h : scheduling.step s a = some (t, o)) (device : String) :
    Move (s.scheduler.state device) (s.books device) (t.scheduler.state device)
      (t.books device) := by
  cases a with
  | claim actual ssids now =>
    cases h
    dsimp only
    rw [ScanScheduler.state_insert]
    by_cases hd : device = actual
    · subst hd
      rw [if_pos rfl, Function.update_self]
      exact .claim ssids now
    · rw [if_neg hd, Function.update_of_ne hd]
      exact .stay
  | drop actual n outcome =>
    obtain ⟨scan, hscan, -⟩ := Option.map_eq_some_iff.mp h
    obtain ⟨u, hstep, hstate, hbooks⟩ := step_drop hscan outcome
    cases hstep.symm.trans h
    rw [hstate, hbooks]
    by_cases hd : device = actual
    · subst hd
      rw [if_pos rfl, Function.update_self]
      exact .complete hscan _
    · rw [if_neg hd, Function.update_of_ne hd]
      exact .stay
  | poll actual i cancelled expired =>
    obtain ⟨wait, hwait, hpoll⟩ := Option.bind_eq_some_iff.mp h
    have hleft : wait.left = false := by
      by_contra hleft
      rw [if_pos (by simpa using hleft)] at hpoll
      cases hpoll
    have heq := (poll_eq hwait hleft cancelled expired).symm.trans h
    split at heq
    · cases heq
      exact .stay
    · cases heq
      dsimp only
      rw [ScanScheduler.state_consume]
      by_cases hd : device = actual
      · subst hd
        rw [if_pos rfl, Function.update_self]
        exact .leave hwait hleft
      · rw [if_neg hd, Function.update_of_ne hd]
        exact .stay
  | note actual now =>
    cases h
    dsimp only
    rw [ScanScheduler.noteRequest, ScanScheduler.state_insert]
    by_cases hd : device = actual
    · subst hd
      rw [if_pos rfl]
      exact .note now
    · rw [if_neg hd]
      exact .stay

namespace Move

variable {state state' : DeviceScanState} {book book' : Book}

theorem linked (hmove : Move state book state' book') (h : Linked state book) :
    Linked state' book' := by
  cases hmove with
  | stay => exact h
  | claim ssids now => exact h.claim ssids now
  | complete hscan outcome => exact (h.publish hscan outcome).complete _ outcome
  | leave hwait hleft => exact h.leave hwait hleft
  | note now => exact ⟨h.generation, h.numbered, h.scope, h.counted, h.kept, h.joined⟩

theorem length_le (hmove : Move state book state' book') :
    book.scans.length ≤ book'.scans.length := by
  cases hmove with
  | claim ssids now =>
    unfold Book.enter
    split <;> simp
  | complete hscan outcome => simp [Book.publish]
  | _ => exact le_rfl

theorem exact (hmove : Move state book state' book') (h : Linked state book)
    (hbound : book.scans.length ≤ 2 ^ 64) (e : Exact state book) : Exact state' book' := by
  cases hmove with
  | stay => exact e
  | claim ssids now => exact e.claim h hbound ssids now
  | complete hscan outcome => exact e.complete hscan outcome h hbound
  | leave hwait hleft => exact e.leave h hwait hleft
  | note now => exact ⟨e.flying, e.shared⟩

end Move

theorem linked_run {log : List (Action × Answer)} {s : System}
    (hrun : scheduling.Reaches log s) (device : String) :
    Linked (s.scheduler.state device) (s.books device) :=
  hrun.preserves (fun s => Linked (s.scheduler.state device) (s.books device))
    (fun _ _ _ _ h hstep => (step_moves hstep device).linked h) linked_default

theorem exact_run {log : List (Action × Answer)} {s : System}
    (hrun : scheduling.Reaches log s) (device : String) :
    (s.books device).scans.length ≤ 2 ^ 64 → Exact (s.scheduler.state device) (s.books device) := by
  refine hrun.invariant (fun _ s => (s.books device).scans.length ≤ 2 ^ 64 →
    Exact (s.scheduler.state device) (s.books device)) (fun _ => exact_default) ?_
  intro log t t' a o hbefore ih hstep hbound
  have hmove := step_moves hstep device
  have hold := hmove.length_le.trans hbound
  exact hmove.exact (linked_run hbefore device) hold (ih hold)

/-! ## Main result -/

/-- What a caller that waits for a scan finds. -/
def expected (outcome : Option SharedScanOutcome) (cancelled expired : Bool) : Option ScanWait :=
  if cancelled then some .cancelled
  else
    match outcome with
    | some outcome => some (.completed outcome)
    | none => if expired then some .deadlineExpired else none

/-- **Scans are shared.** In every state of every run and for every device:

* the number of waiters of a generation is that of the callers that wait for it;
* an outcome is kept only while somebody waits for it;
* who shares the result of a scan is served by it.

As long as generation numbers are not used again, moreover,

* at most one scan has no outcome yet;
* a caller that waits finds the outcome of its own scan as soon as there is one, and nothing
  else, unless it is cancelled or its deadline passes before that;
* a completion of a scan that is over changes nothing, and a scan that is not the last one
  is over. -/
theorem scans_shared {log : List (Action × Answer)} {s : System}
    (hrun : scheduling.Run scheduling.start log s) (device : String) :
    (∀ generation, ((s.scheduler.state device).waiters.lookup generation).getD 0 =
        (s.books device).waiting generation) ∧
      (∀ generation outcome, (s.scheduler.state device).completions.lookup generation =
        some outcome → (s.books device).waiting generation ≠ 0) ∧
      (∀ wait ∈ (s.books device).waits, wait.joined = true → ∃ scan,
        (s.books device).scans[wait.scan]? = some scan ∧ Serves scan.ssids wait.ssids) ∧
      ((s.books device).scans.length ≤ 2 ^ 64 →
        (∀ (m n : ℕ) (scan scan' : OwnedScan),
          (s.books device).scans[m]? = some scan → scan.outcome = none →
          (s.books device).scans[n]? = some scan' → scan'.outcome = none → m = n) ∧
        (∀ i wait, (s.books device).waits[i]? = some wait → wait.left = false → ∃ scan,
          (s.books device).scans[wait.scan]? = some scan ∧ ∀ cancelled expired, ∃ t,
            scheduling.step s (.poll device i cancelled expired) =
              some (t, .wait (expected scan.outcome cancelled expired))) ∧
        ∀ n scan, (s.books device).scans[n]? = some scan →
          (scan.outcome ≠ none ∨ n + 1 < (s.books device).scans.length) → ∀ outcome, ∃ t,
            scheduling.step s (.drop device n outcome) = some (t, .done) ∧ t.books = s.books ∧
              ∀ other, t.scheduler.state other = s.scheduler.state other) := by
  have hlinked := linked_run hrun device
  refine ⟨hlinked.getD_waiters, hlinked.kept, fun wait hwait hjoined => ?_, fun hbound => ?_⟩
  · obtain ⟨scan, hscan, -, hserves⟩ := hlinked.joined wait hwait
    exact ⟨scan, hscan, hserves.mp hjoined⟩
  have hexact := exact_run hrun device hbound
  refine ⟨fun m n scan scan' hm hopen hn hopen' => ?_, fun i wait hwait hleft => ?_,
    fun n scan hscan hover outcome => ?_⟩
  · have hlast := ((hexact.flying m scan hm).mp hopen).1
    have hlast' := ((hexact.flying n scan' hn).mp hopen').1
    omega
  · obtain ⟨scan, hscan, -, -⟩ := hlinked.joined wait (List.mem_of_getElem? hwait)
    refine ⟨scan, hscan, fun cancelled expired => ?_⟩
    have hfound : (s.scheduler.state device).waitResult wait.generation cancelled expired =
        expected scan.outcome cancelled expired := by
      rw [DeviceScanState.waitResult,
        hexact.shared wait (List.mem_of_getElem? hwait) hleft scan hscan]
      rfl
    change ∃ t, s.poll device i cancelled expired = some (t, _)
    rw [poll_eq hwait hleft, hfound]
    cases expected scan.outcome cancelled expired <;> exact ⟨_, rfl⟩
  · have hdone : scan.outcome ≠ none := by
      rcases hover with hdone | hlt
      · exact hdone
      · intro hopen
        have := ((hexact.flying n scan hscan).mp hopen).1
        omega
    obtain ⟨t, hstep, hstate, hbooks⟩ := step_drop hscan outcome
    refine ⟨t, hstep, ?_, fun other => ?_⟩
    · rw [hbooks, Exact.publish_late hscan _ hdone, Function.update_eq_self]
    · rw [hstate]
      split
      · rename_i heq
        rw [heq, hexact.complete_late hscan _ hlinked hbound hdone]
      · rfl

/-- A run in which a caller joins a scan that ends after that. -/
theorem joined_run : ∃ log s, scheduling.Reaches log s ∧
    (s.books "wlan0").scans.length = 1 ∧
    ∃ wait scan, (s.books "wlan0").waits[0]? = some wait ∧ wait.left = false ∧ wait.scan = 0 ∧
      (s.books "wlan0").scans[0]? = some scan ∧ scan.outcome = some .succeeded :=
  ⟨_, _, Machine.exec_run scheduling scheduling.start
    [.claim "wlan0" [[99]] 5, .claim "wlan0" [[99]] 6, .drop "wlan0" 0 (some .succeeded)] rfl,
    rfl, _, _, rfl, rfl, rfl, rfl, rfl⟩

/-- It shares the outcome. -/
theorem scans_shared_joined : ∃ log s t, scheduling.Run scheduling.start log s ∧
    (s.books "wlan0").scans.length ≤ 2 ^ 64 ∧
    scheduling.step s (.poll "wlan0" 0 false true) =
      some (t, .wait (some (.completed .succeeded))) := by
  obtain ⟨log, s, hrun, hlength, wait, scan, hwait, hleft, hnumber, hscan, houtcome⟩ := joined_run
  have hbound : (s.books "wlan0").scans.length ≤ 2 ^ 64 := by omega
  obtain ⟨-, hfinds, -⟩ := (scans_shared hrun "wlan0").2.2.2 hbound
  obtain ⟨scan', hscan', hpoll⟩ := hfinds 0 wait hwait hleft
  rw [hnumber, hscan] at hscan'
  cases hscan'
  obtain ⟨t, ht⟩ := hpoll false true
  rw [houtcome] at ht
  exact ⟨log, s, t, hrun, hbound, ht⟩

/-! ## Numbers that are used again -/

theorem step_claim (s : System) (device : String) (ssids : List (List UInt8)) (now : ℕ) :
    ∃ t o, scheduling.step s (.claim device ssids now) = some (t, o) ∧
      t.scheduler.state device = ((s.scheduler.state device).claim ssids now).2 ∧
      t.books device =
        (s.books device).enter ssids ((s.scheduler.state device).claim ssids now).1 := by
  refine ⟨_, _, rfl, ?_, ?_⟩
  · exact (ScanScheduler.state_insert _ _ _ _).trans (if_pos rfl)
  · exact Function.update_self ..

/-- One scan has an outcome that somebody waits for, and `n` more were done since. -/
structure Rounds (n : ℕ) (state : DeviceScanState) (book : Book) : Prop where
  idle : state.inFlight = none
  generation : state.generation = UInt64.ofNat (n + 1)
  waited : ∀ generation, state.waiters.lookup generation = if generation = 1 then some 1 else none
  kept : state.completions.lookup 1 = some .succeeded
  scans : book.scans.length = n + 1
  waits : book.waits.length = 1

namespace Rounds

variable {n : ℕ} {state : DeviceScanState} {book : Book}

/-- The next scan. -/
theorem claim (h : Rounds n state book) :
    state.claim [] 0 = (.request (UInt64.ofNat (n + 2)),
      { state with
        inFlight := some (normalizedSsids [])
        generation := UInt64.ofNat (n + 2)
        previousRequest := state.lastRequest
        lastRequest := some 0 }) := by
  have hnext : state.generation + 1 = UInt64.ofNat (n + 2) := by
    rw [h.generation, UInt64.ofNat_add (n + 1) 1]
    rfl
  rw [DeviceScanState.claim, h.idle, hnext]

/-- It ends without anybody waiting for it. -/
theorem next (h : Rounds n state book) (hn : n + 1 < 2 ^ 64) :
    ∃ scan, (book.enter [] (state.claim [] 0).1).scans[n + 1]? = some scan ∧
      Rounds (n + 1) ((state.claim [] 0).2.complete scan.generation .succeeded)
        ((book.enter [] (state.claim [] 0).1).publish (n + 1) scan .succeeded) := by
  have hfresh : UInt64.ofNat (n + 2) ≠ 1 := by
    intro heq
    have := generation_injective (m := n + 1) (n := 0) hn (by omega) heq
    omega
  rw [h.claim]
  refine ⟨⟨[], UInt64.ofNat (n + 2), none⟩, ?_, ?_⟩
  · rw [Book.enter, ← h.scans]
    exact List.getElem?_concat_length
  · rw [DeviceScanState.complete, if_pos rfl]
    refine ⟨rfl, rfl, h.waited, ?_, ?_, h.waits⟩
    · dsimp only
      rw [h.waited, if_neg hfresh]
      exact h.kept
    · simp [Book.enter, Book.publish, h.scans]

end Rounds

/-- There is a run with that many scans. -/
theorem rounds_run (n : ℕ) (hn : n < 2 ^ 64) : ∃ log s, scheduling.Reaches log s ∧
    Rounds n (s.scheduler.state "wlan0") (s.books "wlan0") := by
  induction n with
  | zero =>
    refine ⟨_, _, Machine.exec_run scheduling scheduling.start
      [.claim "wlan0" [] 0, .claim "wlan0" [] 0, .drop "wlan0" 0 (some .succeeded)] rfl, ?_⟩
    exact ⟨rfl, rfl, fun _ => Table.lookup_insert_ite _ _ _ _, rfl, rfl, rfl⟩
  | succ n ih =>
    obtain ⟨log, s, hrun, h⟩ := ih (by omega)
    obtain ⟨t, o, hclaim, hstate, hbook⟩ := step_claim s "wlan0" [] 0
    obtain ⟨scan, hscan, hnext⟩ := h.next hn
    rw [← hbook] at hscan
    obtain ⟨u, hdrop, hstate', hbooks⟩ := step_drop hscan (some .succeeded)
    refine ⟨_, u, (hrun.snoc hclaim).snoc hdrop, ?_⟩
    rw [hstate', if_pos rfl, hbooks, Function.update_self, hstate, hbook]
    exact hnext

/-- **A generation number that is used again misleads.** After 2^64 scans the number of the
first one is given out again. Somebody still waits for the first one, so that its outcome is
still there, and a caller that joins the new one gets it at once. -/
theorem reused_generation_misleads : ∃ log s wait scan t,
    scheduling.Run scheduling.start log s ∧ (s.books "wlan0").waits[1]? = some wait ∧
      wait.left = false ∧ wait.joined = true ∧
      (s.books "wlan0").scans[wait.scan]? = some scan ∧ scan.outcome = none ∧
      scheduling.step s (.poll "wlan0" 1 false false) =
        some (t, .wait (some (.completed .succeeded))) := by
  obtain ⟨log, s, hrun, h⟩ := rounds_run (2 ^ 64 - 1) (by omega)
  obtain ⟨t, o, hclaim, hstate, hbook⟩ := step_claim s "wlan0" [] 0
  rw [h.claim] at hstate hbook
  obtain ⟨u, o', hjoin, hstate', hbook'⟩ := step_claim t "wlan0" [] 0
  have hturn : ((t.scheduler.state "wlan0").claim [] 0).1 = .join 1 := by
    rw [hstate]
    rfl
  have hkept : (u.scheduler.state "wlan0").completions.lookup 1 = some .succeeded := by
    rw [hstate', hstate]
    exact h.kept
  rw [hturn, hbook] at hbook'
  have hwait : (u.books "wlan0").waits[1]? =
      some ⟨[], 1, (s.books "wlan0").scans.length, true, false⟩ := by
    rw [hbook', ← h.waits]
    simp [Book.enter]
  have hscan : (u.books "wlan0").scans[(s.books "wlan0").scans.length]? =
      some ⟨[], UInt64.ofNat (2 ^ 64 - 1 + 2), none⟩ := by
    rw [hbook']
    exact List.getElem?_concat_length
  have hpoll := poll_eq hwait rfl false false
  have hfound : (u.scheduler.state "wlan0").waitResult 1 false false =
      some (.completed .succeeded) := by
    rw [DeviceScanState.waitResult, if_neg (by simp), hkept]
  rw [hfound] at hpoll
  exact ⟨_, u, _, _, _, (hrun.snoc hclaim).snoc hjoin, hwait, rfl, rfl, hscan, rfl, hpoll⟩

end Scan

end NmDaemon
