import NmDaemon.ScanSchedule

/-!
# Scans and those who wait for them

A `Book` has what happened on a device: the scans that were requested, each with the first
outcome its owner published, and the callers that waited, each with the position of the
scan that was in flight when it came.

* `Linked` — what the scheduler keeps of a device agrees with its book, as far as
  generation numbers go;
* `Exact` — as long as the numbers are not used again it agrees with the scans themselves.

Both are kept by every operation of the scheduler on the device.
-/

namespace NmDaemon

namespace Scan

/-! ## Books -/

/-- A scan that was requested. -/
structure OwnedScan : Type where
  ssids : List (List UInt8)
  generation : UInt64
  /-- the first outcome that was published -/
  outcome : Option SharedScanOutcome

/-- A caller that waits, or waited. -/
structure Waiting : Type where
  ssids : List (List UInt8)
  generation : UInt64
  /-- the position of the scan in flight among the scans of the device -/
  scan : ℕ
  /-- the caller shares the result -/
  joined : Bool
  left : Bool

/-- What happened on a device. -/
structure Book : Type where
  scans : List OwnedScan
  waits : List Waiting

namespace Book

def empty : Book := ⟨[], []⟩

/-- A caller was told its turn. -/
def enter (book : Book) (ssids : List (List UInt8)) : ScanTurn → Book
  | .request generation => { book with scans := book.scans ++ [⟨ssids, generation, none⟩] }
  | .join generation =>
    { book with waits := book.waits ++ [⟨ssids, generation, book.scans.length - 1, true, false⟩] }
  | .wait generation =>
    { book with waits := book.waits ++ [⟨ssids, generation, book.scans.length - 1, false, false⟩] }

/-- The owner of a scan published an outcome. -/
def publish (book : Book) (n : ℕ) (scan : OwnedScan) (outcome : SharedScanOutcome) : Book :=
  { book with scans := book.scans.set n { scan with outcome := some (scan.outcome.getD outcome) } }

/-- A caller stopped waiting. -/
def leave (book : Book) (i : ℕ) (wait : Waiting) : Book :=
  { book with waits := book.waits.set i { wait with left := true } }

/-- How many callers wait for a generation. -/
def waiting (book : Book) (generation : UInt64) : ℕ :=
  book.waits.countP fun wait => !wait.left && wait.generation = generation

theorem waiting_ne_zero {book : Book} {generation : UInt64} :
    book.waiting generation ≠ 0 ↔
      ∃ wait ∈ book.waits, wait.left = false ∧ wait.generation = generation := by
  rw [← Nat.pos_iff_ne_zero, waiting, List.countP_pos_iff]
  simp

theorem waiting_leave {book : Book} {i : ℕ} {wait : Waiting} (hwait : book.waits[i]? = some wait)
    (hleft : wait.left = false) (generation : UInt64) :
    book.waiting generation =
      (book.leave i wait).waiting generation + if wait.generation = generation then 1 else 0 := by
  obtain ⟨hi, rfl⟩ := List.getElem?_eq_some_iff.mp hwait
  have hpos : book.waits[i].generation = generation → 0 < book.waiting generation := by
    intro h
    exact Nat.pos_of_ne_zero (waiting_ne_zero.mpr ⟨_, List.getElem_mem hi, hleft, h⟩)
  simp only [waiting, leave, List.countP_set hi] at hpos ⊢
  by_cases h : book.waits[i].generation = generation
  · have := hpos h
    simp [h, hleft]
    omega
  · simp [h]

theorem getElem?_publish {book : Book} {n : ℕ} {scan : OwnedScan}
    (hscan : book.scans[n]? = some scan) (outcome : SharedScanOutcome) (m : ℕ) :
    (book.publish n scan outcome).scans[m]? =
      if n = m then some { scan with outcome := some (scan.outcome.getD outcome) }
      else book.scans[m]? := by
  obtain ⟨hn, -⟩ := List.getElem?_eq_some_iff.mp hscan
  rw [publish, List.getElem?_set, if_pos hn]

end Book

/-! ## The book and the scheduler, by generation numbers -/

/-- A scan serves a request: both are for all networks, or every network asked for is
scanned for. -/
def Serves (scanned requested : List (List UInt8)) : Prop :=
  (scanned = [] ∧ requested = []) ∨
    scanned ≠ [] ∧ requested ≠ [] ∧ ∀ ssid ∈ requested, ssid ∈ scanned

/-- What is kept of a device agrees with its book. -/
structure Linked (state : DeviceScanState) (book : Book) : Prop where
  generation : state.generation = UInt64.ofNat book.scans.length
  numbered : ∀ n scan, book.scans[n]? = some scan → scan.generation = UInt64.ofNat (n + 1)
  scope : ∀ scope, state.inFlight = some scope →
    ∃ scan, book.scans[book.scans.length - 1]? = some scan ∧ scope = normalizedSsids scan.ssids
  counted : ∀ generation, state.waiters.lookup generation =
    if book.waiting generation = 0 then none else some (book.waiting generation)
  kept : ∀ generation outcome, state.completions.lookup generation = some outcome →
    book.waiting generation ≠ 0
  joined : ∀ wait ∈ book.waits, ∃ scan, book.scans[wait.scan]? = some scan ∧
    scan.generation = wait.generation ∧ (wait.joined = true ↔ Serves scan.ssids wait.ssids)

theorem linked_default : Linked .default .empty where
  generation := rfl
  numbered := by simp [Book.empty]
  scope _ hscope := by cases hscope
  counted _ := AList.lookup_empty _
  kept _ _ h := by
    rw [DeviceScanState.default, AList.lookup_empty] at h
    cases h
  joined := by simp [Book.empty]

namespace Linked

variable {state : DeviceScanState} {book : Book}

section

variable (h : Linked state book)

include h

theorem getD_waiters (generation : UInt64) :
    (state.waiters.lookup generation).getD 0 = book.waiting generation := by
  rw [h.counted]
  split <;> simp_all

/-- A caller that has to wait. -/
theorem enter_wait {inFlight : Scope} (hflight : state.inFlight = some inFlight)
    (ssids : List (List UInt8)) {joined : Bool}
    (hjoined : joined = scanScopeCovers inFlight ssids) :
    Linked
      { state with
        waiters := state.waiters.insert state.generation (book.waiting state.generation + 1) }
      { book with
        waits := book.waits ++
          [⟨ssids, state.generation, book.scans.length - 1, joined, false⟩] } := by
  have hwaiting : ∀ generation, Book.waiting ⟨book.scans, book.waits ++
      [⟨ssids, state.generation, book.scans.length - 1, joined, false⟩]⟩ generation =
      book.waiting generation + if state.generation = generation then 1 else 0 := by
    intro generation
    simp [Book.waiting, List.countP_append, List.countP_cons]
  obtain ⟨scan, hscan, rfl⟩ := h.scope _ hflight
  obtain ⟨hlast, -⟩ := List.getElem?_eq_some_iff.mp hscan
  refine ⟨h.generation, h.numbered, h.scope, fun generation => ?_, fun generation o ho => ?_, ?_⟩
  · rw [hwaiting, Table.lookup_insert_ite, h.counted]
    by_cases hg : state.generation = generation
    · subst hg
      simp
    · simp [hg, Ne.symm hg]
  · have := h.kept generation o ho
    rw [hwaiting]
    omega
  · intro wait hwait
    rcases List.mem_append.mp hwait with hwait | hwait
    · exact h.joined wait hwait
    · rw [List.mem_singleton.mp hwait]
      refine ⟨scan, hscan, ?_, ?_⟩
      · rw [h.numbered _ _ hscan, h.generation]
        congr 1
        omega
      · rw [hjoined]
        exact scanScopeCovers_normalized

/-- A caller that is to scan. -/
theorem enter_request (ssids : List (List UInt8)) (now : ℕ) :
    Linked
      { state with
        inFlight := some (normalizedSsids ssids)
        generation := state.generation + 1
        previousRequest := state.lastRequest
        lastRequest := some now }
      { book with scans := book.scans ++ [⟨ssids, state.generation + 1, none⟩] } := by
  have hnext : state.generation + 1 = UInt64.ofNat (book.scans.length + 1) := by
    rw [h.generation, UInt64.ofNat_add]
    rfl
  refine ⟨?_, fun n scan hscan => ?_, fun scope hscope => ?_, h.counted, h.kept, ?_⟩
  · rw [hnext, List.length_append]
    rfl
  · rw [List.getElem?_append] at hscan
    split at hscan
    · exact h.numbered n scan hscan
    · obtain ⟨hn, rfl⟩ := List.getElem?_eq_some_iff.mp hscan
      obtain rfl : n = book.scans.length := by
        simp only [List.length_singleton] at hn
        omega
      simpa using hnext
  · cases hscope
    exact ⟨⟨ssids, state.generation + 1, none⟩, by simp, rfl⟩
  · intro wait hwait
    obtain ⟨scan, hscan, hrest⟩ := h.joined wait hwait
    obtain ⟨hlt, -⟩ := List.getElem?_eq_some_iff.mp hscan
    exact ⟨scan, by rwa [List.getElem?_append_left hlt], hrest⟩

theorem claim (ssids : List (List UInt8)) (now : ℕ) :
    Linked (state.claim ssids now).2 (book.enter ssids (state.claim ssids now).1) := by
  unfold DeviceScanState.claim
  split
  · rename_i inFlight hflight
    rw [h.getD_waiters]
    cases hcovers : scanScopeCovers inFlight ssids with
    | true => exact h.enter_wait hflight ssids hcovers.symm
    | false => exact h.enter_wait hflight ssids hcovers.symm
  · exact h.enter_request ssids now

/-- The book after an outcome was published. -/
theorem publish {n : ℕ} {scan : OwnedScan}
    (hscan : book.scans[n]? = some scan) (outcome : SharedScanOutcome) :
    Linked state (book.publish n scan outcome) := by
  -- only the outcome of one scan differs
  have hold : ∀ (m : ℕ) (old : OwnedScan), book.scans[m]? = some old → ∃ new : OwnedScan,
      (book.publish n scan outcome).scans[m]? = some new ∧ new.ssids = old.ssids ∧
        new.generation = old.generation := by
    intro m old hold
    rw [Book.getElem?_publish hscan]
    split
    · rename_i heq
      subst heq
      rw [hscan] at hold
      cases hold
      exact ⟨_, rfl, rfl, rfl⟩
    · exact ⟨old, hold, rfl, rfl⟩
  have hlength : (book.publish n scan outcome).scans.length = book.scans.length :=
    List.length_set
  refine ⟨?_, fun m new hnew => ?_, fun scope hscope => ?_, h.counted, h.kept, fun wait hwait => ?_⟩
  · rw [hlength]
    exact h.generation
  · rw [Book.getElem?_publish hscan] at hnew
    split at hnew
    · rename_i heq
      subst heq
      cases hnew
      exact h.numbered _ scan hscan
    · exact h.numbered m new hnew
  · obtain ⟨old, hlast, rfl⟩ := h.scope scope hscope
    obtain ⟨new, hnew, hssids, -⟩ := hold _ _ hlast
    rw [hlength]
    exact ⟨new, hnew, by rw [hssids]⟩
  · obtain ⟨old, hat, hgeneration, hserves⟩ := h.joined wait hwait
    obtain ⟨new, hnew, hssids, hsame⟩ := hold _ _ hat
    exact ⟨new, hnew, hsame.trans hgeneration, by rw [hssids]; exact hserves⟩

theorem complete (generation : UInt64) (outcome : SharedScanOutcome) :
    Linked (state.complete generation outcome) book := by
  unfold DeviceScanState.complete
  split
  · split
    · exact h
    · refine ⟨h.generation, h.numbered, nofun, h.counted, fun g o ho => ?_, h.joined⟩
      split at ho
      · rename_i hwaited
        rw [Table.lookup_insert_ite] at ho
        split at ho
        · rename_i hg
          subst hg
          rw [h.counted] at hwaited
          intro hzero
          rw [if_pos hzero] at hwaited
          cases hwaited
        · exact h.kept g o ho
      · exact h.kept g o ho
  · exact h

/-- A caller that waited leaves. -/
theorem leave {i : ℕ} {wait : Waiting} (hwait : book.waits[i]? = some wait)
    (hleft : wait.left = false) :
    Linked (state.consumeWaiter wait.generation) (book.leave i wait) := by
  have hwaiting := Book.waiting_leave hwait hleft
  have hown := hwaiting wait.generation
  rw [if_pos rfl] at hown
  have hjoined : ∀ w ∈ (book.leave i wait).waits, ∃ scan, book.scans[w.scan]? = some scan ∧
      scan.generation = w.generation ∧ (w.joined = true ↔ Serves scan.ssids w.ssids) := by
    intro w hw
    rcases List.mem_or_eq_of_mem_set hw with hw | rfl
    · exact h.joined w hw
    · exact h.joined wait (List.mem_of_getElem? hwait)
  unfold DeviceScanState.consumeWaiter
  rw [h.counted, if_neg (by omega)]
  dsimp only
  split
  · -- the last one
    rename_i hlast
    refine ⟨h.generation, h.numbered, h.scope, fun g => ?_, fun g o ho => ?_, hjoined⟩
    · rw [Table.lookup_erase_ite, h.counted, hwaiting g]
      by_cases hg : wait.generation = g
      · subst hg
        simp
        omega
      · simp [hg, Ne.symm hg]
    · rw [Table.lookup_erase_ite] at ho
      split at ho
      · cases ho
      · rename_i hg
        have := h.kept g o ho
        rw [hwaiting g, if_neg (fun heq => hg heq.symm)] at this
        exact this
  · rename_i hmore
    refine ⟨h.generation, h.numbered, h.scope, fun g => ?_, fun g o ho => ?_, hjoined⟩
    · rw [Table.lookup_insert_ite, h.counted, hwaiting g]
      by_cases hg : wait.generation = g
      · subst hg
        simp
        omega
      · simp [hg, Ne.symm hg]
    · have := h.kept g o ho
      rw [hwaiting g] at this
      split at this
      · rename_i hg
        subst hg
        omega
      · exact this

end

end Linked

/-! ## The book and the scheduler, while numbers are not used again -/

/-- What is kept of a device agrees with its scans: only the last one can be in flight, and
those who wait for one find its outcome as soon as there is one. -/
structure Exact (state : DeviceScanState) (book : Book) : Prop where
  flying : ∀ n scan, book.scans[n]? = some scan →
    (scan.outcome = none ↔ n + 1 = book.scans.length ∧ state.inFlight.isSome = true)
  shared : ∀ wait ∈ book.waits, wait.left = false → ∀ scan, book.scans[wait.scan]? = some scan →
    state.completions.lookup wait.generation = scan.outcome

theorem exact_default : Exact .default .empty where
  flying := by simp [Book.empty]
  shared := by simp [Book.empty]

/-- The numbers of that many scans are all different. -/
theorem generation_injective {m n : ℕ} (hm : m < 2 ^ 64) (hn : n < 2 ^ 64)
    (h : UInt64.ofNat (m + 1) = UInt64.ofNat (n + 1)) : m = n := by
  have hmod := congrArg UInt64.toNat h
  simp only [UInt64.toNat_ofNat'] at hmod
  omega

namespace Exact

variable {state : DeviceScanState} {book : Book}

/-- The scan in flight has no outcome yet. -/
theorem fresh (e : Exact state book) (h : Linked state book) (hbound : book.scans.length ≤ 2 ^ 64)
    (hflight : state.inFlight.isSome = true) : state.completions.lookup state.generation = none := by
  obtain ⟨scope, hscope⟩ := Option.isSome_iff_exists.mp hflight
  obtain ⟨last, hlast, -⟩ := h.scope scope hscope
  obtain ⟨hlt, -⟩ := List.getElem?_eq_some_iff.mp hlast
  by_contra hsome
  obtain ⟨outcome, houtcome⟩ := Option.ne_none_iff_exists'.mp hsome
  obtain ⟨wait, hwait, hleft, hgeneration⟩ := Book.waiting_ne_zero.mp (h.kept _ _ houtcome)
  obtain ⟨scan, hscan, hsame, -⟩ := h.joined wait hwait
  obtain ⟨hn, -⟩ := List.getElem?_eq_some_iff.mp hscan
  -- whoever waits for this number waits for the last scan
  obtain hnumber : wait.scan = book.scans.length - 1 := by
    refine generation_injective (by omega) (by omega) ?_
    rw [← h.numbered _ _ hscan, hsame, hgeneration, h.generation]
    congr 1
    omega
  have hnone := (e.flying _ scan hscan).mpr ⟨by omega, hflight⟩
  rw [← hgeneration, e.shared wait hwait hleft scan hscan, hnone] at houtcome
  cases houtcome

theorem enter_wait (e : Exact state book) (h : Linked state book)
    (hbound : book.scans.length ≤ 2 ^ 64) (hflight : state.inFlight.isSome = true)
    (ssids : List (List UInt8)) (joined : Bool) (waiters : Table UInt64 ℕ) :
    Exact { state with waiters }
      { book with
        waits := book.waits ++
          [⟨ssids, state.generation, book.scans.length - 1, joined, false⟩] } := by
  refine ⟨e.flying, fun wait hwait hleft scan hscan => ?_⟩
  rcases List.mem_append.mp hwait with hwait | hwait
  · exact e.shared wait hwait hleft scan hscan
  · obtain rfl := List.mem_singleton.mp hwait
    obtain ⟨hlt, -⟩ := List.getElem?_eq_some_iff.mp hscan
    dsimp only at hlt
    rw [(e.flying _ scan hscan).mpr ⟨by dsimp only; omega, hflight⟩]
    exact e.fresh h hbound hflight

theorem enter_request (e : Exact state book) (h : Linked state book)
    (hflight : state.inFlight = none) (ssids : List (List UInt8)) (generation : UInt64) (now : ℕ) :
    Exact
      { state with
        inFlight := some (normalizedSsids ssids)
        generation := generation
        previousRequest := state.lastRequest
        lastRequest := some now }
      { book with scans := book.scans ++ [⟨ssids, generation, none⟩] } := by
  refine ⟨fun n scan hscan => ?_, fun wait hwait hleft scan hscan => ?_⟩
  · rw [List.getElem?_append] at hscan
    split at hscan
    · rename_i hn
      have := e.flying n scan hscan
      rw [hflight] at this
      simp only [Option.isSome_none, Bool.false_eq_true, and_false, iff_false] at this
      simp only [this, false_iff, List.length_append, List.length_singleton]
      omega
    · obtain ⟨hn, rfl⟩ := List.getElem?_eq_some_iff.mp hscan
      simp only [List.length_singleton] at hn
      simp
      omega
  · obtain ⟨old, hold, -⟩ := h.joined wait hwait
    obtain ⟨hlt, -⟩ := List.getElem?_eq_some_iff.mp hold
    rw [List.getElem?_append_left hlt] at hscan
    exact e.shared wait hwait hleft scan hscan

theorem claim (e : Exact state book) (h : Linked state book) (hbound : book.scans.length ≤ 2 ^ 64)
    (ssids : List (List UInt8)) (now : ℕ) :
    Exact (state.claim ssids now).2 (book.enter ssids (state.claim ssids now).1) := by
  unfold DeviceScanState.claim
  split
  · rename_i inFlight hflight
    have hsome : state.inFlight.isSome = true := by rw [hflight]; rfl
    cases scanScopeCovers inFlight ssids with
    | true => exact e.enter_wait h hbound hsome ssids true _
    | false => exact e.enter_wait h hbound hsome ssids false _
  · rename_i hflight
    exact e.enter_request h hflight ssids _ now

section

variable {n : ℕ} {scan : OwnedScan} (hscan : book.scans[n]? = some scan)
  (outcome : SharedScanOutcome)

include hscan

theorem publish_late (hdone : scan.outcome ≠ none) : book.publish n scan outcome = book := by
  obtain ⟨hn, rfl⟩ := List.getElem?_eq_some_iff.mp hscan
  obtain ⟨first, hfirst⟩ := Option.ne_none_iff_exists'.mp hdone
  have hsame : ({ book.scans[n] with
      outcome := some (book.scans[n].outcome.getD outcome) } : OwnedScan) = book.scans[n] := by
    rw [hfirst, Option.getD_some, ← hfirst]
  rw [Book.publish, hsame, List.set_getElem_self]

variable (e : Exact state book) (h : Linked state book) (hbound : book.scans.length ≤ 2 ^ 64)

include e h hbound

/-- **Late completions.** When a scan has an outcome, another completion of it does
nothing. -/
theorem complete_late (hdone : scan.outcome ≠ none) :
    state.complete scan.generation outcome = state := by
  obtain ⟨hn, -⟩ := List.getElem?_eq_some_iff.mp hscan
  unfold DeviceScanState.complete
  split
  · rename_i hsame
    have hlast : book.scans.length - 1 = n := by
      refine generation_injective (by omega) (by omega) ?_
      rw [← h.numbered _ _ hscan, ← hsame, h.generation]
      congr 1
      omega
    split
    · rfl
    · rename_i hflight
      exact absurd ((e.flying n scan hscan).mpr ⟨by omega, by rw [hflight]; rfl⟩) hdone
  · rfl

/-- The first completion of a scan. -/
theorem complete_first (hopen : scan.outcome = none) :
    Exact (state.complete scan.generation outcome) (book.publish n scan outcome) := by
  obtain ⟨hlast, hflight⟩ := (e.flying n scan hscan).mp hopen
  obtain ⟨scope, hscope⟩ := Option.isSome_iff_exists.mp hflight
  have hsame : state.generation = scan.generation := by
    rw [h.generation, h.numbered n scan hscan, hlast]
  unfold DeviceScanState.complete
  rw [if_pos hsame, hscope]
  refine ⟨fun m new hnew => ?_, fun wait hwait hleft new hnew => ?_⟩
  · -- nothing is in flight any more
    rw [Book.getElem?_publish hscan] at hnew
    simp only [Option.isSome_none, Bool.false_eq_true, and_false, iff_false]
    split at hnew
    · cases hnew
      simp
    · rename_i hne
      intro hnone
      have := ((e.flying m new hnew).mp hnone).1
      omega
  · obtain ⟨old, hold, hgeneration, -⟩ := h.joined wait hwait
    obtain ⟨hlt, -⟩ := List.getElem?_eq_some_iff.mp hold
    rw [Book.getElem?_publish hscan] at hnew
    dsimp only
    split at hnew
    · -- those who waited for this scan
      rename_i heq
      rw [← heq, hscan] at hold
      cases hold
      cases hnew
      have hwaited : book.waiting scan.generation ≠ 0 :=
        Book.waiting_ne_zero.mpr ⟨wait, hwait, hleft, hgeneration.symm⟩
      rw [h.counted, if_neg hwaited, if_pos Option.isSome_some, Table.lookup_insert_ite,
        if_pos hgeneration.symm, hopen, Option.getD_none]
    · rename_i hne
      have hother : wait.generation ≠ scan.generation := by
        rw [← hgeneration, h.numbered _ _ hold, h.numbered n scan hscan]
        intro hnumber
        exact hne (generation_injective (by omega) (by omega) hnumber).symm
      rw [← e.shared wait hwait hleft new hnew]
      split
      · rw [Table.lookup_insert_ite, if_neg hother]
      · rfl

theorem complete :
    Exact (state.complete scan.generation outcome) (book.publish n scan outcome) := by
  by_cases hopen : scan.outcome = none
  · exact e.complete_first hscan outcome h hbound hopen
  · rw [e.complete_late hscan outcome h hbound hopen, publish_late hscan outcome hopen]
    exact e

end

theorem leave (e : Exact state book) (h : Linked state book) {i : ℕ} {wait : Waiting}
    (hwait : book.waits[i]? = some wait) (hleft : wait.left = false) :
    Exact (state.consumeWaiter wait.generation) (book.leave i wait) := by
  have hwaiting := Book.waiting_leave hwait hleft wait.generation
  rw [if_pos rfl] at hwaiting
  have hflight : (state.consumeWaiter wait.generation).inFlight = state.inFlight := by
    unfold DeviceScanState.consumeWaiter
    split
    · rfl
    · split <;> rfl
  refine ⟨fun n scan hscan => ?_, fun w hw hopen scan hscan => ?_⟩
  · rw [hflight]
    exact e.flying n scan hscan
  · have hstill : (book.leave i wait).waiting w.generation ≠ 0 :=
      Book.waiting_ne_zero.mpr ⟨w, hw, hopen, rfl⟩
    have hold : w ∈ book.waits := by
      rcases List.mem_or_eq_of_mem_set hw with hw | rfl
      · exact hw
      · cases hopen
    rw [← e.shared w hold hopen scan hscan]
    unfold DeviceScanState.consumeWaiter
    rw [h.counted, if_neg (by omega)]
    dsimp only
    split
    · -- the outcome goes with the last one, and that is not `w`
      rename_i hlast
      rw [Table.lookup_erase_ite, if_neg]
      intro hsame
      rw [hsame] at hstill
      omega
    · rfl

end Exact

end Scan

end NmDaemon
