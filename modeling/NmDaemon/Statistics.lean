import Mathlib.Data.List.Count
import NmDaemon.Base.Machine
import NmDaemon.Base.Table
import NmDaemon.Errors

/-!
# Statistics watches

`nm/statistics.rs` and `daemon_statistics.rs`: NetworkManager refreshes the counters of a device
at a rate that its clients set. The daemon sets it for several watchers at once: it counts them
by device, sets the fastest rate any of them asked for, and turns the refresh off when the last
one leaves.

A watch is a worker thread that takes the refresh, samples until it is cancelled or fails, and
gives the refresh back. Taking and giving back are critical sections, so that one action is one
of them; whether NetworkManager accepts the rate is part of the action. Rates and intervals are
in milliseconds and only compared.

* `Tracked` — what the table says of a device and what was written to it last, in terms of the
  watches that run; only `Tracked.join` and `Tracked.leave` look into the operations;
* `live`, `refresh_shared` — the same in terms of the answers, in every state of every run.
-/

namespace NmDaemon

namespace Statistics

/-! ## The shared refresh -/

/-- How many watch a device, and the rate that was set for them. -/
structure DeviceRefresh : Type where
  watchers : ℕ
  rateMs : ℕ

/-- The devices that are watched. -/
abbrev StatisticsRefresh : Type := Table String DeviceRefresh

/-- A rate written to a device, and whether NetworkManager accepted it. -/
structure Write : Type where
  device : String
  rateMs : ℕ
  accepted : Bool

/-- Take the refresh for a watcher. The table changes only if the rate could be set. -/
def acquireStatisticsRefresh (devices : StatisticsRefresh) (device : String) (rateMs : ℕ)
    (accepted : Bool) : Write × Option StatisticsRefresh :=
  let effective :=
    ((devices.lookup device).map fun refresh => min refresh.rateMs rateMs).getD rateMs
  let watchers := ((devices.lookup device).map DeviceRefresh.watchers).getD 0
  (⟨device, effective, accepted⟩,
    if accepted then some (devices.insert device ⟨watchers + 1, effective⟩) else none)

/-- Give the refresh back; with the last watcher it is turned off. A rate that could not be
set is only logged. -/
def releaseStatisticsRefresh (devices : StatisticsRefresh) (device : String) (accepted : Bool) :
    Option Write × StatisticsRefresh :=
  match devices.lookup device with
  | none => (none, devices)
  | some entry =>
    let watchers := entry.watchers - 1
    if watchers > 0 then (none, devices.insert device { entry with watchers })
    else (some ⟨device, 0, accepted⟩, devices.erase device)

/-! ## Watches -/

def minIntervalMs : ℕ := 200
def maxIntervalMs : ℕ := 60000
def defaultIntervalMs : ℕ := 1000

/-- The interval of a watch, from the parameter of the request. -/
def intervalMs (requested : Option ℕ) : Except DomainError ℕ :=
  let interval := requested.getD defaultIntervalMs
  if minIntervalMs ≤ interval ∧ interval ≤ maxIntervalMs then .ok interval
  else
    .error ((DomainError.validation .statistics
      "interval_ms must be between 200 and 60000 milliseconds").withDetail
        "interval_ms" (.int interval))

/-- A watch that runs. -/
structure Watch : Type where
  requestId : String
  device : String
  intervalMs : ℕ
  deriving DecidableEq

/-- The table, and the watches that it is kept for. -/
structure Session : Type where
  devices : StatisticsRefresh
  /-- the worker threads that have the refresh -/
  watches : List Watch

/-- What workers do to the refresh. -/
inductive Action : Type where
  /-- a request whose worker takes the refresh of the device it resolved -/
  | start (requestId device : String) (requested : Option ℕ) (accepted : Bool)
  /-- a worker stops sampling and gives the refresh back -/
  | stop (watch : Watch) (accepted : Bool)

/-- What becomes of it. -/
inductive Answer : Type where
  /-- the request has no valid interval -/
  | rejected (error : DomainError)
  /-- the rate could not be set; the worker ends -/
  | failed (write : Write)
  | started (watch : Watch) (write : Write)
  | stopped (write : Option Write)

/-- One critical section: a worker takes the refresh or gives it back. A start with no valid
interval, or whose rate is refused, changes nothing. -/
def step (s : Session) : Action → Option (Session × Answer)
  | .start requestId device requested accepted =>
    match intervalMs requested with
    | .error error => some (s, .rejected error)
    | .ok interval =>
      let watch : Watch := ⟨requestId, device, interval⟩
      match acquireStatisticsRefresh s.devices device interval accepted with
      | (write, none) => some (s, .failed write)
      | (write, some devices) => some (⟨devices, watch :: s.watches⟩, .started watch write)
  | .stop watch accepted =>
    if watch ∈ s.watches then
      let (write, devices) := releaseStatisticsRefresh s.devices watch.device accepted
      some (⟨devices, s.watches.erase watch⟩, .stopped write)
    else none

def machine : Machine Session Action Answer := ⟨⟨∅, []⟩, step⟩

abbrev Entry : Type := Action × Answer

/-- The watches that were answered as started. -/
def started (log : List Entry) : List Watch :=
  log.filterMap fun
    | (_, .started watch _) => some watch
    | _ => none

/-- The watches whose stop was answered. -/
def stopped (log : List Entry) : List Watch :=
  log.filterMap fun
    | (.stop watch _, .stopped _) => some watch
    | _ => none

/-- The watches of a device that were started and have not stopped, as the answers tell. -/
def live (device : String) (log : List Entry) : List Watch :=
  ((started log).diff (stopped log)).filter fun watch => watch.device = device

/-- How many watchers the table has for a device. -/
def Session.watchers (s : Session) (device : String) : ℕ :=
  ((s.devices.lookup device).map DeviceRefresh.watchers).getD 0

/-- The rate an answer reports as written to a device. -/
def Answer.rate (device : String) : Answer → Option ℕ
  | .rejected _ => none
  | .failed write | .started _ write | .stopped (some write) =>
    if write.device = device ∧ write.accepted then some write.rateMs else none
  | .stopped none => none

/-- The rate that was written to a device last. -/
def lastRate (device : String) (log : List Entry) : Option ℕ :=
  log.foldl (fun rate e => (e.2.rate device).or rate) none

theorem lastRate_snoc (device : String) (log : List Entry) (e : Entry) :
    lastRate device (log ++ [e]) = (e.2.rate device).or (lastRate device log) := by
  rw [lastRate, List.foldl_append]
  rfl

/-- Turning the refresh off succeeds. -/
def StopsSucceed (log : List Entry) : Prop :=
  ∀ watch accepted o, (.stop watch accepted, o) ∈ log → accepted = true

/-! ## What is kept -/

/-- The entry of a device and the rate written last, as the watches that run want them. -/
structure Tracked (watches : List Watch) (device : String) (entry : Option DeviceRefresh)
    (rate : Option ℕ) : Prop where
  /-- nobody watches a device that is not in the table, and its refresh is off -/
  absent : entry = none → (∀ watch ∈ watches, watch.device ≠ device) ∧ (rate = none ∨ rate = some 0)
  present : ∀ refresh, entry = some refresh →
    0 < refresh.watchers ∧ refresh.watchers = watches.countP (fun watch => watch.device = device) ∧
      0 < refresh.rateMs ∧ rate = some refresh.rateMs ∧
      ∀ watch ∈ watches, watch.device = device → refresh.rateMs ≤ watch.intervalMs

/-- Another device's watch does not matter. -/
theorem Tracked.cons_ne {watches : List Watch} {device : String} {entry : Option DeviceRefresh}
    {rate : Option ℕ} (h : Tracked watches device entry rate) {watch : Watch}
    (hne : watch.device ≠ device) : Tracked (watch :: watches) device entry rate where
  absent hentry := by
    refine ⟨fun w hw => ?_, (h.absent hentry).2⟩
    rcases List.mem_cons.mp hw with rfl | hw
    · exact hne
    · exact (h.absent hentry).1 w hw
  present refresh hentry := by
    obtain ⟨hpos, hcount, hrate, hwritten, hle⟩ := h.present refresh hentry
    refine ⟨hpos, ?_, hrate, hwritten, fun w hw hdevice => ?_⟩
    · rw [List.countP_cons_of_neg (by simpa using hne), hcount]
    · rcases List.mem_cons.mp hw with rfl | hw
      · exact absurd hdevice hne
      · exact hle w hw hdevice

theorem Tracked.erase_ne {watches : List Watch} {device : String} {entry : Option DeviceRefresh}
    {rate : Option ℕ} (h : Tracked watches device entry rate) {watch : Watch}
    (hmem : watch ∈ watches) (hne : watch.device ≠ device) :
    Tracked (watches.erase watch) device entry rate where
  absent hentry :=
    ⟨fun w hw => (h.absent hentry).1 w (List.mem_of_mem_erase hw), (h.absent hentry).2⟩
  present refresh hentry := by
    obtain ⟨hpos, hcount, hrate, hwritten, hle⟩ := h.present refresh hentry
    refine ⟨hpos, ?_, hrate, hwritten, fun w hw => hle w (List.mem_of_mem_erase hw)⟩
    rw [hcount, (List.perm_cons_erase hmem).countP_eq, List.countP_cons_of_neg (by simpa using hne)]

/-- A watcher joins: the rate is the fastest one asked for. -/
theorem Tracked.join {devices : StatisticsRefresh} {watches : List Watch} {rate : Option ℕ}
    (watch : Watch) (h : Tracked watches watch.device (devices.lookup watch.device) rate)
    (hpos : 0 < watch.intervalMs) :
    ∃ effective, acquireStatisticsRefresh devices watch.device watch.intervalMs true =
        (⟨watch.device, effective, true⟩, some (devices.insert watch.device
          ⟨watches.countP (fun w => w.device = watch.device) + 1, effective⟩)) ∧
      Tracked (watch :: watches) watch.device
        (some ⟨watches.countP (fun w => w.device = watch.device) + 1, effective⟩)
        (some effective) := by
  have hcons : (watch :: watches).countP (fun w => w.device = watch.device) =
      watches.countP (fun w => w.device = watch.device) + 1 :=
    List.countP_cons_of_pos (by simp)
  unfold acquireStatisticsRefresh
  rcases hentry : devices.lookup watch.device with _ | refresh
  · -- the first watcher of the device
    have hnone := (h.absent hentry).1
    have hzero : watches.countP (fun w => w.device = watch.device) = 0 :=
      List.countP_eq_zero.mpr fun w hw => by simpa using hnone w hw
    refine ⟨watch.intervalMs, by rw [hzero]; rfl, nofun, fun refresh hrefresh => ?_⟩
    cases hrefresh
    refine ⟨Nat.succ_pos _, hcons.symm, hpos, rfl, fun w hw hdevice => ?_⟩
    rcases List.mem_cons.mp hw with rfl | hw
    · exact le_refl _
    · exact absurd hdevice (hnone w hw)
  · obtain ⟨-, hcount, hrate, -, hle⟩ := h.present refresh hentry
    refine ⟨min refresh.rateMs watch.intervalMs, by rw [← hcount]; rfl, nofun,
      fun refresh' hrefresh => ?_⟩
    cases hrefresh
    refine ⟨Nat.succ_pos _, hcons.symm, lt_min hrate hpos, rfl, fun w hw hdevice => ?_⟩
    rcases List.mem_cons.mp hw with rfl | hw
    · exact min_le_right _ _
    · exact le_trans (min_le_left _ _) (hle w hw hdevice)

/-- A watcher leaves: with the last one the refresh is turned off. -/
theorem Tracked.leave {devices : StatisticsRefresh} {watches : List Watch} {rate : Option ℕ}
    {watch : Watch} (h : Tracked watches watch.device (devices.lookup watch.device) rate)
    (hmem : watch ∈ watches) :
    ∃ refresh, devices.lookup watch.device = some refresh ∧
      ((1 < refresh.watchers ∧ Tracked (watches.erase watch) watch.device
          (some { refresh with watchers := refresh.watchers - 1 }) rate) ∨
        (refresh.watchers = 1 ∧ Tracked (watches.erase watch) watch.device none (some 0))) := by
  rcases hentry : devices.lookup watch.device with _ | refresh
  · exact absurd rfl ((h.absent hentry).1 watch hmem)
  · obtain ⟨hpos, hcount, hrate, hwritten, hle⟩ := h.present refresh hentry
    have herase : refresh.watchers =
        (watches.erase watch).countP (fun w => w.device = watch.device) + 1 := by
      rw [hcount, (List.perm_cons_erase hmem).countP_eq, List.countP_cons_of_pos (by simp)]
    refine ⟨refresh, rfl, ?_⟩
    rcases Nat.lt_or_ge 1 refresh.watchers with hmore | hlast
    · refine .inl ⟨hmore, nofun, fun refresh' hrefresh => ?_⟩
      cases hrefresh
      refine ⟨Nat.sub_pos_of_lt hmore, ?_, hrate, hwritten, fun w hw => ?_⟩
      · rw [herase]
        rfl
      · exact hle w (List.mem_of_mem_erase hw)
    · refine .inr ⟨by omega, fun _ => ⟨fun w hw => ?_, .inr rfl⟩, nofun⟩
      have hzero : (watches.erase watch).countP (fun w => w.device = watch.device) = 0 := by omega
      simpa using List.countP_eq_zero.mp hzero w hw

/-- Every device is tracked, and the workers that have the refresh are those that were started
and have not stopped. -/
structure Shared (log : List Entry) (s : Session) : Prop where
  listed : (s.watches ++ stopped log).Perm (started log)
  tracked : ∀ device, Tracked s.watches device (s.devices.lookup device) (lastRate device log)

theorem started_snoc (log : List Entry) (e : Entry) :
    started (log ++ [e]) = started log ++ started [e] :=
  List.filterMap_append

theorem stopped_snoc (log : List Entry) (e : Entry) :
    stopped (log ++ [e]) = stopped log ++ stopped [e] :=
  List.filterMap_append

variable {log : List Entry} {s s' : Session} {watch : Watch}

/-- The record of the session, read off the answers. -/
theorem Shared.watches_perm (h : Shared log s) :
    s.watches.Perm ((started log).diff (stopped log)) := by
  refine List.perm_iff_count.mpr fun w => ?_
  rw [List.count_diff, ← h.listed.count_eq, List.count_append, Nat.add_sub_cancel]

/-- A stop takes its watch out of the record. -/
theorem Shared.listed_stop (h : Shared log s) (hmem : watch ∈ s.watches) (accepted : Bool)
    (write : Option Write) : (s.watches.erase watch ++
      stopped (log ++ [(.stop watch accepted, .stopped write)])).Perm
        (started (log ++ [(.stop watch accepted, .stopped write)])) := by
  rw [stopped_snoc, started_snoc]
  change (_ ++ (stopped log ++ [watch])).Perm (started log ++ [])
  rw [List.append_nil, ← List.append_assoc]
  refine (List.perm_append_singleton _ _).trans ?_
  exact ((List.perm_cons_erase hmem).symm.append_right _).trans h.listed

/-- And its device has one watcher less. -/
theorem Shared.stop (h : Shared log s) (hmem : watch ∈ s.watches) (accepted : Bool) :
    ∃ t write, Statistics.step s (.stop watch accepted) = some (t, .stopped write) ∧
      t.watchers watch.device + 1 = s.watchers watch.device := by
  obtain ⟨refresh, hentry, hleft⟩ := (h.tracked watch.device).leave hmem
  simp only [Statistics.step, if_pos hmem, releaseStatisticsRefresh, hentry]
  rcases hleft with ⟨hmore, -⟩ | ⟨hlast, -⟩
  · rw [if_pos (Nat.sub_pos_of_lt hmore)]
    refine ⟨_, _, rfl, ?_⟩
    simp only [Session.watchers, AList.lookup_insert, hentry, Option.map_some, Option.getD_some]
    omega
  · rw [hlast, if_neg (by simp)]
    refine ⟨_, _, rfl, ?_⟩
    simp [Session.watchers, hentry, hlast]

theorem intervalMs_pos {requested : Option ℕ} {interval : ℕ} (h : intervalMs requested = .ok interval) :
    0 < interval := by
  simp only [intervalMs] at h
  split at h
  · rename_i hrange
    cases h
    exact lt_of_lt_of_le (by decide) hrange.1
  · cases h

/-- A start that does not succeed changes neither the table nor the rates. -/
theorem start_cases {requestId device : String} {requested : Option ℕ} {accepted : Bool}
    {o : Answer}
    (h : step s (.start requestId device requested accepted) = some (s', o)) :
    (s' = s ∧ (∀ d, o.rate d = none) ∧ ∀ watch write, o ≠ .started watch write) ∨
      ∃ interval write devices, 0 < interval ∧ accepted = true ∧
        acquireStatisticsRefresh s.devices device interval true = (write, some devices) ∧
        s' = ⟨devices, ⟨requestId, device, interval⟩ :: s.watches⟩ ∧
        o = .started ⟨requestId, device, interval⟩ write := by
  rw [step] at h
  rcases hinterval : intervalMs requested with error | interval
  · rw [hinterval] at h
    cases h
    exact .inl ⟨rfl, fun _ => rfl, nofun⟩
  · rw [hinterval] at h
    cases accepted with
    | false =>
      cases h
      refine .inl ⟨rfl, fun d => ?_, nofun⟩
      simp [Answer.rate]
    | true =>
      cases h
      exact .inr ⟨interval, _, _, intervalMs_pos hinterval, rfl, rfl, rfl, rfl⟩

theorem Shared.step {a : Action} {o : Answer} (h : Shared log s)
    (hstop : ∀ watch accepted, a = .stop watch accepted → accepted = true)
    (hstep : step s a = some (s', o)) : Shared (log ++ [(a, o)]) s' := by
  cases a with
  | start requestId device requested accepted =>
    obtain ⟨rfl, hrate, hnot⟩ | ⟨interval, write, devices, hpos, rfl, hacquire, rfl, rfl⟩ :=
      start_cases hstep
    · refine ⟨?_, fun d => ?_⟩
      · have hnone : started [(.start requestId device requested accepted, o)] = [] := by
          cases o with
          | started watch write => exact absurd rfl (hnot watch write)
          | _ => rfl
        have hstopped : stopped [(.start requestId device requested accepted, o)] = [] := rfl
        rw [stopped_snoc, started_snoc, hnone, hstopped, List.append_nil, List.append_nil]
        exact h.listed
      · rw [lastRate_snoc, hrate, Option.none_or]
        exact h.tracked d
    · obtain ⟨effective, heq, hjoined⟩ :=
        Tracked.join ⟨requestId, device, interval⟩ (h.tracked device) hpos
      rw [hacquire] at heq
      cases heq
      refine ⟨?_, fun d => ?_⟩
      · have hstopped : stopped [(.start requestId device requested true, .started
            ⟨requestId, device, interval⟩ ⟨device, effective, true⟩)] = [] := rfl
        rw [stopped_snoc, started_snoc, hstopped, List.append_nil]
        exact (h.listed.cons _).trans (List.perm_append_singleton _ _).symm
      · rw [lastRate_snoc, Table.lookup_insert_ite]
        by_cases hd : d = device
        · subst hd
          rw [if_pos rfl]
          simpa [Answer.rate] using hjoined
        · rw [if_neg hd]
          have hrate : (Answer.started ⟨requestId, device, interval⟩
              ⟨device, effective, true⟩).rate d = none := if_neg fun hc => hd hc.1.symm
          rw [hrate, Option.none_or]
          exact (h.tracked d).cons_ne (Ne.symm hd)
  | stop watch accepted =>
    obtain rfl := hstop watch accepted rfl
    rw [Statistics.step] at hstep
    split at hstep
    · rename_i hmem
      obtain ⟨refresh, hentry, hleft⟩ := (h.tracked watch.device).leave hmem
      simp only [releaseStatisticsRefresh, hentry] at hstep
      rcases hleft with ⟨hmore, hleft⟩ | ⟨hlast, hleft⟩
      · rw [if_pos (Nat.sub_pos_of_lt hmore)] at hstep
        cases hstep
        refine ⟨h.listed_stop hmem _ _, fun d => ?_⟩
        rw [lastRate_snoc, Table.lookup_insert_ite]
        by_cases hd : d = watch.device
        · rw [if_pos hd, hd]
          exact hleft
        · rw [if_neg hd]
          exact (h.tracked d).erase_ne hmem (Ne.symm hd)
      · rw [hlast, if_neg (by simp)] at hstep
        cases hstep
        refine ⟨h.listed_stop hmem _ _, fun d => ?_⟩
        rw [lastRate_snoc, Table.lookup_erase_ite]
        by_cases hd : d = watch.device
        · rw [if_pos hd, hd]
          simpa [Answer.rate] using hleft
        · have hrate : (Answer.stopped (some ⟨watch.device, 0, true⟩)).rate d = none :=
            if_neg fun hc => hd hc.1.symm
          rw [if_neg hd, hrate, Option.none_or]
          exact (h.tracked d).erase_ne hmem (Ne.symm hd)
    · cases hstep

theorem Shared.run (hrun : machine.Reaches log s) (hstops : StopsSucceed log) : Shared log s := by
  have hshared : StopsSucceed log → Shared log s := by
    refine hrun.invariant (fun log s => StopsSucceed log → Shared log s) (fun _ => ?_) ?_
    · exact ⟨.refl _, fun d => ⟨fun _ => ⟨by simp [machine], .inl rfl⟩, nofun⟩⟩
    · intro log t t' a o _ ih hstep hstops
      refine (ih fun w b o hmem => hstops w b o (List.mem_append_left _ hmem)).step ?_ hstep
      rintro watch accepted rfl
      exact hstops watch accepted o (by simp)
  exact hshared hstops

/-- The table agrees with the answers for a device: it counts the watches that are live, and the
rate written last is zero exactly if there are none, and no slower than any of them wants. -/
def Tallies (log : List Entry) (s : Session) (device : String) : Prop :=
  s.watchers device = (live device log).length ∧
  (∀ rate, lastRate device log = some rate →
    (rate = 0 ↔ live device log = []) ∧ ∀ watch ∈ live device log, rate ≤ watch.intervalMs) ∧
  (live device log ≠ [] → lastRate device log ≠ none)

/-- What is tracked, in terms of the answers for the device alone. -/
theorem Shared.device (h : Shared log s) (device : String) : Tallies log s device := by
  have htracked := h.tracked device
  have hlive : ∀ watch, watch ∈ live device log ↔ watch ∈ s.watches ∧ watch.device = device := by
    simp [live, h.watches_perm.mem_iff]
  rcases hentry : s.devices.lookup device with _ | refresh
  · obtain ⟨hnone, hrate⟩ := htracked.absent hentry
    have hempty : live device log = [] := List.eq_nil_iff_forall_not_mem.mpr fun watch hwatch =>
      hnone watch ((hlive watch).mp hwatch).1 ((hlive watch).mp hwatch).2
    refine ⟨by simp [Session.watchers, hentry, hempty], fun rate hlast => ?_, by simp [hempty]⟩
    rcases hrate with hrate | hrate
    · rw [hrate] at hlast
      cases hlast
    · rw [hrate] at hlast
      cases hlast
      simp [hempty]
  · obtain ⟨hpos, hcount, hratepos, hrate, hle⟩ := htracked.present refresh hentry
    have hlength : refresh.watchers = (live device log).length := by
      rw [hcount, h.watches_perm.countP_eq, live, List.countP_eq_length_filter]
    have hne : live device log ≠ [] := fun hempty => by simp [hempty] at hlength; omega
    refine ⟨by simp [Session.watchers, hentry, hlength], fun rate hlast => ?_, by simp [hrate]⟩
    rw [hrate] at hlast
    cases hlast
    refine ⟨⟨fun hzero => absurd hzero hratepos.ne', fun hempty => absurd hempty hne⟩, ?_⟩
    intro watch hwatch
    obtain ⟨hmem, hdevice⟩ := (hlive watch).mp hwatch
    exact hle watch hmem hdevice

/-- **The refresh is shared.** However watches start, fail to start and stop, the table counts
for each device the watches that were answered as started and whose stop has not been answered;
the rate written last is zero exactly if there are none, and no slower than any of them wants. A
start with a valid interval whose rate is accepted is answered as started; a watch that was
started can be stopped, and is then no longer counted; and one that fails to start changes
nothing. -/
theorem refresh_shared {log : List Entry} {s : Session} (hrun : machine.Run machine.start log s)
    (hstops : StopsSucceed log) :
    (∀ device, Tallies log s device) ∧
    (∀ requestId device requested interval, intervalMs requested = .ok interval →
      ∃ t write, machine.step s (.start requestId device requested true) =
        some (t, .started ⟨requestId, device, interval⟩ write)) ∧
    (∀ device, ∀ watch ∈ live device log, ∀ accepted,
      ∃ t write, machine.step s (.stop watch accepted) = some (t, .stopped write) ∧
        t.watchers device + 1 = s.watchers device) ∧
    ∀ pre u requestId device requested accepted o t post,
      machine.Moment log s pre u (.start requestId device requested accepted) o t post →
      (∀ watch write, o ≠ .started watch write) →
      t = u ∧ ∀ d, lastRate d (pre ++ [(.start requestId device requested accepted, o)]) =
        lastRate d pre := by
  have hshared := Shared.run hrun hstops
  refine ⟨hshared.device, fun requestId device requested interval hinterval => ?_,
    fun device watch hwatch accepted => ?_, ?_⟩
  · simp only [machine, Statistics.step, hinterval]
    exact ⟨_, _, rfl⟩
  · obtain ⟨hmem, hdevice⟩ := List.mem_filter.mp hwatch
    obtain rfl := of_decide_eq_true hdevice
    exact hshared.stop (hshared.watches_perm.mem_iff.mpr hmem) accepted
  · intro pre u requestId device requested accepted o t post hmoment hnot
    obtain ⟨rfl, hrate, -⟩ | ⟨interval, write, devices, -, -, -, -, rfl⟩ :=
      start_cases hmoment.step
    · exact ⟨rfl, fun d => by rw [lastRate_snoc, hrate, Option.none_or]⟩
    · exact absurd rfl (hnot _ _)

/-- A slow watcher, a fast one, one whose start fails, and the slow one stops. -/
def sharedWatches : List Action :=
  [.start "a" "/device" none true, .start "b" "/device" (some 500) true,
    .start "c" "/device" (some 300) false, .stop ⟨"a", "/device", 1000⟩ true]

/-- The fast one is left, with its rate. -/
theorem refresh_shared_sharedWatches :
    ∃ log s, machine.Run machine.start log s ∧ log.map Prod.fst = sharedWatches ∧
      live "/device" log = [⟨"b", "/device", 500⟩] ∧ s.watchers "/device" = 1 ∧
      ∀ rate, lastRate "/device" log = some rate → rate ≠ 0 ∧ rate ≤ 500 := by
  obtain ⟨log, s, hexec, hlive⟩ : ∃ log s, machine.exec machine.start sharedWatches = some (log, s) ∧
      live "/device" log = [⟨"b", "/device", 500⟩] := ⟨_, _, rfl, by decide⟩
  have hrun := machine.exec_run _ _ hexec
  have hactions := machine.exec_actions _ _ hexec
  have hstops : StopsSucceed log := by
    intro watch accepted o hmem
    have hmem' : Action.stop watch accepted ∈ sharedWatches := by
      rw [← hactions]
      exact List.mem_map_of_mem hmem
    have heq : watch = ⟨"a", "/device", 1000⟩ ∧ accepted = true := by
      simpa [sharedWatches] using hmem'
    exact heq.2
  obtain ⟨hcount, hrates, -⟩ := (refresh_shared hrun hstops).1 "/device"
  rw [hlive] at hcount hrates
  refine ⟨log, s, hrun, hactions, hlive, hcount, fun rate hrate => ?_⟩
  obtain ⟨hzero, hle⟩ := hrates rate hrate
  exact ⟨fun h => List.cons_ne_nil _ _ (hzero.mp h), hle _ List.mem_cons_self⟩

end Statistics

end NmDaemon
