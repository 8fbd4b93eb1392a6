import NmDaemon.Base.Fallible
import NmDaemon.Base.Transaction
import NmDaemon.Errors
import NmDaemon.NetworkEntries

/-!
# Status updates of the scan cache

`cache.rs` and `cache/merge.rs`: the daemon keeps the last scan in a file, beside the status of
the active connection and what it knows of earlier ones. A new status, or the end of the
connection, is written to all of them under one lock. Of the scan only the marks for the active
access point change.

A file can be read as what it holds, as missing, as corrupt, or not at all; what it holds may be
of another version of the format. Any write may fail.

* `ScanKept`, `scanKept_upsert` — what becomes of the cached access points;
* `run_ends` — how an update can end, whichever of its writes fail;
* `update_keeps_scan` — the scan after any update.
-/

namespace NmDaemon

namespace StatusCache

open Networks Transaction
open NmDaemon.Runtime (SsidBytes)

def cacheVersion : ℕ := 2

/-! ## The files -/

inductive CacheRead (T : Type) : Type where
  | missing
  | stale (foundVersion expectedVersion : ℕ)
  | corrupt (message : String)
  | available (value : T)

/-- What is found at the place of a file. -/
inductive Stored (T : Type) : Type where
  | missing
  /-- it is there but cannot be read, is too large or is not text -/
  | unreadable (e : AnyError)
  /-- its text is not of the expected form -/
  | corrupt (message : String)
  | holds (value : T)

structure CachedSnapshot : Type where
  version : ℕ
  updatedAtMs : ℕ
  scanning : Bool
  networksFound : ℕ
  networks : List ListedAccessPoint

structure ConnectionDetails : Type where
  ip4 : Option Json
  ip6 : Option Json
  wireless : Option Json
  metered : Option Json
  activeSinceMs : Option ℕ
  updatedAtMs : ℕ

structure CachedKnownConnections : Type where
  version : ℕ
  updatedAtMs : ℕ
  connections : Table String ConnectionDetails

/-- What an update reads of a connection's status. -/
structure WifiStatus : Type where
  active : Bool
  accessPoint : Option ListedAccessPoint
  ip4 : Option Json
  ip6 : Option Json
  wireless : Option Json
  metered : Option Json
  activeSinceMs : Option ℕ

structure CachedActiveStatus : Type where
  version : ℕ
  updatedAtMs : ℕ
  active : Bool
  status : WifiStatus

structure Cache : Type where
  snapshot : Stored CachedSnapshot
  known : Stored CachedKnownConnections
  activeStatus : Stored CachedActiveStatus

/-- `read_json` -/
def readJson {T : Type} : Stored T → Except AnyError (CacheRead T)
  | .missing => .ok .missing
  | .unreadable e => .error e
  | .corrupt message => .ok (.corrupt message)
  | .holds value => .ok (.available value)

def validateVersion {T : Type} (version : T → ℕ) : CacheRead T → CacheRead T
  | .available value =>
    if version value = cacheVersion then .available value else .stale (version value) cacheVersion
  | other => other

/-! ## Merging -/

def inactive (ap : ListedAccessPoint) : ListedAccessPoint := { ap with active := false }

def markInactive (networks : List ListedAccessPoint) : List ListedAccessPoint :=
  networks.map inactive

def sameAccessPoint (left right : ListedAccessPoint) : Bool :=
  if left.path ≠ "" ∧ right.path ≠ "" then left.path = right.path
  else if left.bssid ≠ "" ∧ right.bssid ≠ "" then Wifi.eqIgnoreAsciiCase left.bssid right.bssid
  else left.exactSsid = right.exactSsid && left.security = right.security

/-- Put the element in the place of the first that satisfies the condition, or in front. -/
def replaceOrInsert {α : Type} (p : α → Bool) (a : α) (l : List α) : List α :=
  match l.findIdx? p with
  | some i => l.set i a
  | none => a :: l

def upsertConnectedAccessPoint (networks : List ListedAccessPoint) (ap : ListedAccessPoint) :
    List ListedAccessPoint :=
  let ap := { ap with active := true }
  replaceOrInsert (fun network => sameAccessPoint network ap) ap (markInactive networks)

/-- The key of a network among the known connections. -/
def networkKey (ap : ListedAccessPoint) : String :=
  Connect.ssidHex ap.exactSsid ++ "|" ++ ap.security.name

/-! ## Updates -/

inductive File : Type where
  | snapshot
  | known
  | activeStatus

/-- What an update meets: how its writes go, and what the clock shows when it is read. -/
structure Environment : Type where
  write : File → Outcome AnyError
  /-- for an untyped error -/
  raise : String → AnyError
  nowEmpty : ℕ
  nowActiveStatus : ℕ
  nowKnown : ℕ

abbrev Update (α : Type) : Type := Txn Cache AnyError α

def readSnapshotLocked : Update (CacheRead CachedSnapshot) :=
  look fun cache => (readJson cache.snapshot).map (validateVersion CachedSnapshot.version)

variable (env : Environment)

def emptyKnownConnections : CachedKnownConnections where
  version := cacheVersion
  updatedAtMs := env.nowEmpty
  connections := ∅

/-- The known connections; a file of another version is replaced, a corrupt one is not. -/
def knownForUpdate (state : CacheRead CachedKnownConnections) :
    Except AnyError CachedKnownConnections :=
  match state with
  | .available known => .ok known
  | .missing => .ok (emptyKnownConnections env)
  | .stale _ _ => .ok (emptyKnownConnections env)
  | .corrupt message =>
    .error (env.raise ("refusing to overwrite corrupt known-connections cache: " ++ message))

def readKnownForUpdate (cache : Cache) : Except AnyError CachedKnownConnections := do
  let state ← readJson cache.known
  knownForUpdate env (validateVersion CachedKnownConnections.version state)

/-- What is written of a scan whose access points were changed. -/
def CachedSnapshot.updated (snapshot : CachedSnapshot)
    (update : List ListedAccessPoint → List ListedAccessPoint) : CachedSnapshot :=
  { snapshot with
    networks := update snapshot.networks
    scanning := false
    networksFound := (update snapshot.networks).length }

def updateSnapshot (snapshot : CacheRead CachedSnapshot)
    (update : List ListedAccessPoint → List ListedAccessPoint) : Update Unit :=
  match snapshot with
  | .available snapshot =>
    write (env.write .snapshot) fun cache =>
      { cache with snapshot := .holds (snapshot.updated update) }
  | .missing => pure ()
  | .stale _ _ | .corrupt _ => pure ()

def activeStatusRecord (status : WifiStatus) : CachedActiveStatus where
  version := cacheVersion
  updatedAtMs := env.nowActiveStatus
  active := status.active
  status := status

/-- The known connections with the details of one more. -/
def CachedKnownConnections.withDetails (known : CachedKnownConnections) (status : WifiStatus)
    (ap : ListedAccessPoint) : CachedKnownConnections :=
  { known with
    updatedAtMs := env.nowKnown
    connections := known.connections.insert (networkKey ap)
      { ip4 := status.ip4
        ip6 := status.ip6
        wireless := status.wireless
        metered := status.metered
        activeSinceMs := status.activeSinceMs
        updatedAtMs := env.nowKnown } }

/-- The known connections are read only for a connected access point. -/
def readKnownFor (status : WifiStatus) : Update (Option CachedKnownConnections) :=
  look fun cache =>
    if status.active && status.accessPoint.isSome then (readKnownForUpdate env cache).map some
    else .ok none

/-- The end of an update: the known connections, and the scan. -/
def updateKnownAndSnapshot (status : WifiStatus) (snapshot : CacheRead CachedSnapshot)
    (known : Option CachedKnownConnections) : Update Unit :=
  match status.accessPoint, known with
  | some ap, some known => do
    write (env.write .known) fun cache =>
      { cache with known := .holds (known.withDetails env status ap) }
    updateSnapshot env snapshot fun networks => upsertConnectedAccessPoint networks ap
  | _, _ => updateSnapshot env snapshot markInactive

/-- A status is cached: as the active one, among the known networks, and as a mark in the snapshot
of the last scan. -/
def cacheConnectedNetworkStatus (status : WifiStatus) : Update Unit := do
  let snapshot ← readSnapshotLocked
  let known ← readKnownFor env status
  write (env.write .activeStatus) fun cache =>
    { cache with activeStatus := .holds (activeStatusRecord env status) }
  updateKnownAndSnapshot env status snapshot known

/-- Nothing is connected any more; the known networks stay. -/
def clearActiveConnectionCache : Update Unit := do
  let snapshot ← readSnapshotLocked
  write (env.write .activeStatus) fun cache => { cache with activeStatus := .missing }
  updateSnapshot env snapshot markInactive

/-- What the cache is told. -/
inductive Change : Type where
  | status (status : WifiStatus)
  | clear

def Change.run : Change → Update Unit
  | .status s => cacheConnectedNetworkStatus env s
  | .clear => clearActiveConnectionCache env

/-- The access point that is connected, if one is. -/
def Change.connected : Change → Option ListedAccessPoint
  | .status s => if s.active then s.accessPoint else none
  | .clear => none

/-! ## The cached access points -/

/-- The scan is kept but for the marks of the active access point. -/
structure ScanKept (connected : Option ListedAccessPoint) (old new : CachedSnapshot) : Prop where
  version : new.version = old.version
  updatedAtMs : new.updatedAtMs = old.updatedAtMs
  scanning : new.scanning = false
  networksFound : new.networksFound = new.networks.length
  networks :
    match connected with
    | none => new.networks = old.networks.map inactive
    | some ap =>
      (∃ before replaced after, old.networks = before ++ replaced :: after ∧
        sameAccessPoint replaced ap = true ∧
        new.networks = before.map inactive ++ { ap with active := true } :: after.map inactive) ∨
      ((∀ network ∈ old.networks, sameAccessPoint network ap = false) ∧
        new.networks = { ap with active := true } :: old.networks.map inactive)
  active : new.networks.countP (·.active) = if connected.isSome then 1 else 0

theorem replaceOrInsert_cases {α : Type} (p : α → Bool) (a : α) (l : List α) :
    (∃ before old after, l = before ++ old :: after ∧ p old = true ∧
      replaceOrInsert p a l = before ++ a :: after) ∨
    ((∀ x ∈ l, p x = false) ∧ replaceOrInsert p a l = a :: l) := by
  unfold replaceOrInsert
  cases h : l.findIdx? p with
  | none => exact .inr ⟨List.findIdx?_eq_none_iff.mp h, rfl⟩
  | some i =>
    obtain ⟨hlt, hp, -⟩ := List.findIdx?_eq_some_iff_getElem.mp h
    refine .inl ⟨l.take i, l[i], l.drop (i + 1), ?_, hp, ?_⟩
    · rw [List.getElem_cons_drop, List.take_append_drop]
    · exact List.set_eq_take_append_cons_drop.trans (if_pos hlt)

theorem countP_inactive (networks : List ListedAccessPoint) :
    (networks.map inactive).countP (·.active) = 0 := by
  rw [List.countP_eq_zero]
  intro ap hap
  obtain ⟨_, -, rfl⟩ := List.mem_map.mp hap
  exact Bool.false_ne_true

theorem scanKept_markInactive (snapshot : CachedSnapshot) :
    ScanKept none snapshot (snapshot.updated markInactive) :=
  ⟨rfl, rfl, rfl, rfl, rfl, countP_inactive _⟩

theorem scanKept_upsert (snapshot : CachedSnapshot) (ap : ListedAccessPoint) :
    ScanKept (some ap) snapshot
      (snapshot.updated fun networks => upsertConnectedAccessPoint networks ap) := by
  have hactive : ∀ before after : List ListedAccessPoint,
      (before.map inactive ++ { ap with active := true } :: after.map inactive).countP
        (·.active) = 1 := by
    intro before after
    rw [List.countP_append, List.countP_cons, countP_inactive, countP_inactive]
    rfl
  rcases replaceOrInsert_cases (fun network => sameAccessPoint network { ap with active := true })
    { ap with active := true } (markInactive snapshot.networks) with
    ⟨before, old, after, hnetworks, hsame, hnew⟩ | ⟨hnone, hnew⟩
  · -- the entry that is replaced was an entry of the scan
    obtain ⟨before, rest, hold, rfl, hrest⟩ := List.map_eq_append_iff.mp hnetworks
    obtain ⟨replaced, after, rfl, rfl, rfl⟩ := List.map_eq_cons_iff.mp hrest
    refine ⟨rfl, rfl, rfl, rfl, .inl ⟨before, replaced, after, hold, hsame, hnew⟩, ?_⟩
    exact (congrArg (List.countP (·.active)) hnew).trans (hactive before after)
  · have hother : ∀ network ∈ snapshot.networks, sameAccessPoint network ap = false :=
      fun network hnetwork => hnone (inactive network) (List.mem_map_of_mem hnetwork)
    refine ⟨rfl, rfl, rfl, rfl, .inr ⟨hother, hnew⟩, ?_⟩
    exact (congrArg (List.countP (·.active)) hnew).trans (hactive [] snapshot.networks)

/-! ## Updates, however they end -/

/-- What an update reads before it writes anything. -/
def Reads (change : Change) (cache : Cache) (snapshot : CacheRead CachedSnapshot) : Prop :=
  (readJson cache.snapshot).map (validateVersion CachedSnapshot.version) = .ok snapshot ∧
    (change.connected.isSome = true → ∃ known, readKnownForUpdate env cache = .ok known)

/-- The ends of an update. -/
inductive Ends (change : Change) (cache : Cache) : Except AnyError Unit → Cache → Prop where
  /-- something could not be read, and nothing was written -/
  | unread (e : AnyError) (h : ∀ snapshot, ¬Reads env change cache snapshot) :
      Ends change cache (.error e) cache
  /-- a write failed before the scan was written -/
  | stopped {cache' : Cache} (e : AnyError) {snapshot : CacheRead CachedSnapshot}
      (hreads : Reads env change cache snapshot) (hwrite : ∃ file, env.write file ≠ .done)
      (hsnapshot : cache'.snapshot = cache.snapshot) : Ends change cache (.error e) cache'
  /-- the scan was written -/
  | updated {cache' : Cache} {result : Except AnyError Unit} {snapshot new : CachedSnapshot}
      (hreads : Reads env change cache (.available snapshot))
      (hresult : result = .ok () ∨ ∃ file, env.write file ≠ .done)
      (hkept : ScanKept change.connected snapshot new)
      (hsnapshot : cache'.snapshot = .holds new) : Ends change cache result cache'
  /-- there was no scan to update -/
  | skipped {cache' : Cache} {snapshot : CacheRead CachedSnapshot}
      (hreads : Reads env change cache snapshot) (hunusable : ∀ value, snapshot ≠ .available value)
      (hsnapshot : cache'.snapshot = cache.snapshot) : Ends change cache (.ok ()) cache'

theorem wp_updateSnapshot {change : Change} {cache cache' : Cache}
    {snapshot : CacheRead CachedSnapshot}
    {update : List ListedAccessPoint → List ListedAccessPoint}
    (hreads : Reads env change cache snapshot) (hsame : cache'.snapshot = cache.snapshot)
    (hkept : ∀ value : CachedSnapshot, ScanKept change.connected value (value.updated update)) :
    wp (updateSnapshot env snapshot update) cache' (Ends env change cache) := by
  cases snapshot with
  | available value =>
    refine wp_write_last (.updated hreads (.inl rfl) (hkept value) rfl) fun e hwrite => ?_
    exact ⟨.stopped e hreads ⟨_, hwrite⟩ hsame,
      .updated hreads (.inr ⟨_, hwrite⟩) (hkept value) rfl⟩
  | missing | stale _ _ | corrupt _ => exact .skipped hreads nofun hsame

theorem clear_ends (cache : Cache) :
    wp (clearActiveConnectionCache env) cache (Ends env .clear cache) := by
  refine wp_look (fun snapshot hsnapshot => ?_) fun e he => ?_
  · have hreads : Reads env .clear cache snapshot := ⟨hsnapshot, nofun⟩
    refine wp_write ?_ fun e hwrite =>
      ⟨.stopped e hreads ⟨_, hwrite⟩ rfl, .stopped e hreads ⟨_, hwrite⟩ rfl⟩
    exact wp_updateSnapshot env hreads rfl scanKept_markInactive
  · refine .unread e fun snapshot h => ?_
    cases he.symm.trans h.1

/-- A status without a connected access point. -/
theorem status_ends_of_none {status : WifiStatus} {cache : Cache}
    (h : (Change.status status).connected = none) :
    wp (cacheConnectedNetworkStatus env status) cache (Ends env (.status status) cache) := by
  have hneeds : (status.active && status.accessPoint.isSome) = false := by
    cases hactive : status.active with
    | false => rfl
    | true =>
      rw [Change.connected, if_pos hactive] at h
      rw [h]
      rfl
  have hend : ∀ snapshot, updateKnownAndSnapshot env status snapshot none =
      updateSnapshot env snapshot markInactive := by
    intro snapshot
    unfold updateKnownAndSnapshot
    cases status.accessPoint <;> rfl
  refine wp_look (fun snapshot hsnapshot => ?_) fun e he => ?_
  · have hreads : Reads env (.status status) cache snapshot :=
      ⟨hsnapshot, fun hsome => by rw [h] at hsome; cases hsome⟩
    have hknown : (if (status.active && status.accessPoint.isSome) = true then
        (readKnownForUpdate env cache).map some else .ok none) = .ok none :=
      if_neg (by rw [hneeds]; exact Bool.false_ne_true)
    refine wp_look (fun known hread => ?_) fun e he => ?_
    swap
    · cases hknown.symm.trans he
    obtain rfl := Except.ok.inj (hknown.symm.trans hread)
    refine wp_write ?_ fun e hwrite =>
      ⟨.stopped e hreads ⟨_, hwrite⟩ rfl, .stopped e hreads ⟨_, hwrite⟩ rfl⟩
    rw [hend]
    refine wp_updateSnapshot env hreads rfl ?_
    rw [h]
    exact scanKept_markInactive
  · refine .unread e fun snapshot h => ?_
    cases he.symm.trans h.1

/-- A status with a connected access point. -/
theorem status_ends_of_some {status : WifiStatus} {cache : Cache} {ap : ListedAccessPoint}
    (h : (Change.status status).connected = some ap) :
    wp (cacheConnectedNetworkStatus env status) cache (Ends env (.status status) cache) := by
  have hactive : status.active = true := by
    by_contra hactive
    rw [Change.connected, if_neg hactive] at h
    cases h
  have hap : status.accessPoint = some ap := by
    rw [Change.connected, if_pos hactive] at h
    exact h
  have hneeds : (status.active && status.accessPoint.isSome) = true := by
    rw [hactive, hap]
    rfl
  refine wp_look (fun snapshot hsnapshot => ?_) fun e he => ?_
  · refine wp_look (fun known hread => ?_) fun e he => ?_
    · have hread : (readKnownForUpdate env cache).map some = .ok known :=
        (if_pos hneeds).symm.trans hread
      obtain ⟨known, hknown, rfl⟩ := Fallible.map_eq_ok.mp hread
      have hreads : Reads env (.status status) cache snapshot :=
        ⟨hsnapshot, fun _ => ⟨known, hknown⟩⟩
      have hend : updateKnownAndSnapshot env status snapshot (some known) = (do
          write (env.write .known) fun cache =>
            { cache with known := .holds (known.withDetails env status ap) }
          updateSnapshot env snapshot fun networks => upsertConnectedAccessPoint networks ap) := by
        unfold updateKnownAndSnapshot
        rw [hap]
      refine wp_write ?_ fun e hwrite =>
        ⟨.stopped e hreads ⟨_, hwrite⟩ rfl, .stopped e hreads ⟨_, hwrite⟩ rfl⟩
      rw [hend]
      refine wp_write ?_ fun e hwrite =>
        ⟨.stopped e hreads ⟨_, hwrite⟩ rfl, .stopped e hreads ⟨_, hwrite⟩ rfl⟩
      refine wp_updateSnapshot env hreads rfl ?_
      rw [h]
      exact fun value => scanKept_upsert value ap
    · refine .unread _ fun snapshot hreads => ?_
      obtain ⟨known, hknown⟩ := hreads.2 (by rw [h]; rfl)
      have hread : (readKnownForUpdate env cache).map some = .error e :=
        (if_pos hneeds).symm.trans he
      rw [hknown] at hread
      cases hread
  · refine .unread e fun snapshot hreads => ?_
    cases he.symm.trans hreads.1

theorem run_ends (change : Change) (cache : Cache) :
    wp (change.run env) cache (Ends env change cache) := by
  cases change with
  | clear => exact clear_ends env cache
  | status status =>
    cases h : (Change.status status).connected with
    | none => exact status_ends_of_none env h
    | some ap => exact status_ends_of_some env h

/-! ## What was read -/

section Reads

variable {env} {change : Change} {cache : Cache} {snapshot : CachedSnapshot}
  {state : CacheRead CachedSnapshot}

theorem Reads.eq_of_holds (h : Reads env change cache state)
    (hsnapshot : cache.snapshot = .holds snapshot) (hversion : snapshot.version = cacheVersion) :
    state = .available snapshot := by
  have hread := h.1
  rw [hsnapshot] at hread
  obtain rfl := Except.ok.inj hread
  exact if_pos hversion

theorem Reads.holds (h : Reads env change cache (.available snapshot)) :
    cache.snapshot = .holds snapshot ∧ snapshot.version = cacheVersion := by
  have hread := h.1
  cases hstored : cache.snapshot with
  | missing | unreadable _ | corrupt _ =>
    rw [hstored] at hread
    cases hread
  | holds value =>
    rw [hstored] at hread
    have hvalid : (if value.version = cacheVersion then CacheRead.available value
      else .stale value.version cacheVersion) = .available snapshot := Except.ok.inj hread
    split_ifs at hvalid with hversion
    obtain rfl := CacheRead.available.inj hvalid
    exact ⟨rfl, hversion⟩

theorem Reads.known_not_corrupt (h : Reads env change cache state)
    (hsome : change.connected.isSome = true) (message : String) :
    cache.known ≠ .corrupt message := by
  intro hcorrupt
  obtain ⟨known, hknown⟩ := h.2 hsome
  rw [readKnownForUpdate, hcorrupt] at hknown
  cases hknown

theorem exists_reads (hsnapshot : ∀ e, cache.snapshot ≠ .unreadable e)
    (hknown : change.connected.isSome = true → (∀ e, cache.known ≠ .unreadable e) ∧
      ∀ message, cache.known ≠ .corrupt message) : ∃ state, Reads env change cache state := by
  have hfirst : ∃ state, (readJson cache.snapshot).map (validateVersion CachedSnapshot.version) =
      .ok state := by
    cases hstored : cache.snapshot with
    | unreadable e => exact absurd hstored (hsnapshot e)
    | missing | corrupt _ | holds _ => exact ⟨_, rfl⟩
  obtain ⟨state, hstate⟩ := hfirst
  refine ⟨state, hstate, fun hsome => ?_⟩
  obtain ⟨hreadable, hcorrupt⟩ := hknown hsome
  unfold readKnownForUpdate
  cases hstored : cache.known with
  | unreadable e => exact absurd hstored (hreadable e)
  | corrupt message => exact absurd hstored (hcorrupt message)
  | missing => exact ⟨_, rfl⟩
  | holds known =>
    change ∃ known', knownForUpdate env (if known.version = cacheVersion then .available known
      else .stale known.version cacheVersion) = .ok known'
    split_ifs
    · exact ⟨_, rfl⟩
    · exact ⟨_, rfl⟩

end Reads

/-- Whatever is cached and whatever it is told, an update neither creates a scan nor writes over
one that it cannot use. If it needs the known connections and they are corrupt, it writes
nothing. Otherwise the scan keeps its time and its access points, up to the marks of the active
one, unless a write failed before; and if no write fails and all can be read, it is made. -/
theorem update_keeps_scan (change : Change) (cache : Cache) :
    wp (change.run env) cache fun result cache' =>
      ((∀ snapshot, cache.snapshot = .holds snapshot → snapshot.version ≠ cacheVersion) →
        cache'.snapshot = cache.snapshot) ∧
      (change.connected.isSome = true → (∃ message, cache.known = .corrupt message) →
        cache' = cache ∧ ∃ e, result = .error e) ∧
      (∀ snapshot, cache.snapshot = .holds snapshot → snapshot.version = cacheVersion →
        (cache'.snapshot = cache.snapshot ∧ ∃ e, result = .error e) ∨
          ∃ new, cache'.snapshot = .holds new ∧ ScanKept change.connected snapshot new) ∧
      ((∀ file, env.write file = .done) → (∀ e, cache.snapshot ≠ .unreadable e) →
        (change.connected.isSome = true → (∀ e, cache.known ≠ .unreadable e) ∧
          ∀ message, cache.known ≠ .corrupt message) → result = .ok ()) := by
  have hends := run_ends env change cache
  unfold wp at hends ⊢
  generalize (change.run env cache).1 = result at hends ⊢
  generalize (change.run env cache).2 = cache' at hends ⊢
  cases hends with
  | unread e hunread =>
    refine ⟨fun _ => rfl, fun _ _ => ⟨rfl, e, rfl⟩, fun _ _ _ => .inl ⟨rfl, e, rfl⟩, ?_⟩
    intro _ hsnapshot hknown
    obtain ⟨state, hreads⟩ : ∃ state, Reads env change cache state :=
      exists_reads hsnapshot hknown
    exact absurd hreads (hunread state)
  | stopped e hreads hwrite hsnapshot =>
    refine ⟨fun _ => hsnapshot, fun hsome hcorrupt => ?_,
      fun _ _ _ => .inl ⟨hsnapshot, e, rfl⟩, fun hdone => ?_⟩
    · obtain ⟨message, hcorrupt⟩ := hcorrupt
      exact absurd hcorrupt (hreads.known_not_corrupt hsome message)
    · obtain ⟨file, hwrite⟩ := hwrite
      exact absurd (hdone file) hwrite
  | updated hreads hresult hkept hsnapshot =>
    obtain ⟨hholds, hversion⟩ := hreads.holds
    refine ⟨fun hunusable => absurd hversion (hunusable _ hholds), fun hsome hcorrupt => ?_,
      fun snapshot hsame _ => ?_, fun hdone _ _ => ?_⟩
    · obtain ⟨message, hcorrupt⟩ := hcorrupt
      exact absurd hcorrupt (hreads.known_not_corrupt hsome message)
    · obtain rfl := Stored.holds.inj (hholds.symm.trans hsame)
      exact .inr ⟨_, hsnapshot, hkept⟩
    · rcases hresult with hresult | ⟨file, hwrite⟩
      · exact hresult
      · exact absurd (hdone file) hwrite
  | skipped hreads hunusable hsnapshot =>
    refine ⟨fun _ => hsnapshot, fun hsome hcorrupt => ?_, fun snapshot hholds hversion => ?_,
      fun _ _ _ => rfl⟩
    · obtain ⟨message, hcorrupt⟩ := hcorrupt
      exact absurd hcorrupt (hreads.known_not_corrupt hsome message)
    · exact absurd (hreads.eq_of_holds hholds hversion) (hunusable snapshot)

end StatusCache

end NmDaemon
