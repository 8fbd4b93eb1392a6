import NmDaemon.Base.Monotone
import NmDaemon.HotspotOperations

/-!
# What hotspot operations delete

A failed start deletes the profile it has added. A stop deletes the profile of whatever a
device in access-point mode carries, and that can be a profile somebody has saved
(`saved_hotspot_deleted`).

* `World.Le` — active connections keep their profiles, and what was added stays added;
* `Owns` — whenever a stop looks what a device in access-point mode carries, this is of a
  profile that a hotspot start has added;
* `Passes`, `Secures` — parts of operations that delete nothing but added profiles;
* `hotspot_deletes_own` — under that condition nothing else is deleted.
-/

namespace NmDaemon

namespace Hotspot

open Client (Prog Service Event Exec Assertion Guarantee Stable Ends ask lift outcome)

variable {s s' : World} {α β : Type}

/-! ## What lasts -/

/-- What nobody can take back. -/
structure World.Le (s s' : World) : Prop where
  links : ∀ path link, s.links.lookup path = some link →
    ∃ link', s'.links.lookup path = some link' ∧ link'.profile = link.profile
  added : ∀ profile ∈ s.added, profile ∈ s'.added

abbrev Happening : Type := Event World Ask Reply Action

/-- The profile that a hotspot start of the daemon adds by this. -/
def addedBy : Happening → Option String
  | .own _ (.addAndActivate _ _) (.ok (profile, _)) => some profile
  | .rival (.hotspot profile _ _) => some profile
  | _ => none

/-- An event keeps the profiles of the active connections, and the record of what is added is
right. -/
structure Advances (e : Happening) (s s' : World) : Prop where
  links : ∀ path link, s.links.lookup path = some link →
    ∃ link', s'.links.lookup path = some link' ∧ link'.profile = link.profile
  added : s'.added = (addedBy e).toList ++ s.added

variable {e : Happening} {path profile : String}

theorem Advances.le (h : Advances e s s') : s.Le s' :=
  ⟨h.links, fun _ hmem => h.added ▸ List.mem_append_right _ hmem⟩

/-- Only the active connections and the record count. -/
theorem Advances.still (he : addedBy e = none) (hlinks : s'.links = s.links)
    (hadded : s'.added = s.added) : Advances e s s' := by
  refine ⟨fun path link h => ⟨link, ?_, rfl⟩, ?_⟩
  · rw [hlinks, h]
  · rw [hadded, he]
    rfl

theorem advances_bring {link : Link} (he : addedBy e = none) (h : s.bring path link = some s') :
    Advances e s s' := by
  rw [World.bring] at h
  split at h
  · rename_i hfresh
    cases h
    refine ⟨fun path' old hold => ⟨old, ?_, rfl⟩, by rw [he]; rfl⟩
    rw [Table.lookup_insert_ite, if_neg]
    · exact hold
    · rintro rfl
      rw [hfresh] at hold
      cases hold
  · cases h

theorem advances_addHotspot {settings : ConnectionSettings} (he : addedBy e = some profile)
    (h : s.addHotspot profile path settings = some s') : Advances e s s' := by
  rw [World.addHotspot, Option.map_eq_some_iff] at h
  obtain ⟨t, ht, rfl⟩ := h
  have hbring : Advances (.rival (.remove profile)) s t := advances_bring rfl ht
  refine ⟨hbring.links, ?_⟩
  rw [he, hbring.added]
  rfl

theorem advances_others {a : Action} (h : others s a = some s') : Advances (.rival a) s s' := by
  cases a with
  | devices devices wirelessEnabled | save profile settings | remove profile =>
    cases h
    exact .still rfl rfl rfl
  | link path profile state => exact advances_bring rfl h
  | linkState path state =>
    simp only [others, Option.map_eq_some_iff] at h
    obtain ⟨link, hlink, rfl⟩ := h
    refine ⟨fun path' old hold => ?_, rfl⟩
    rw [Table.lookup_insert_ite]
    split
    · rename_i heq
      rw [heq, hlink] at hold
      cases hold
      exact ⟨_, rfl, rfl⟩
    · exact ⟨old, hold, rfl⟩
  | hotspot profile path settings => exact advances_addHotspot rfl h

theorem readOk_eq {value reply : Option α} [DecidableEq α] (h : readOk s value reply = some s') :
    s' = s ∧ ∀ v, reply = some v → value = some v := by
  cases reply with
  | none =>
    cases h
    exact ⟨rfl, nofun⟩
  | some v =>
    rw [readOk] at h
    split at h
    · rename_i hvalue
      cases h
      exact ⟨rfl, fun w hw => hvalue.trans hw⟩
    · cases h

theorem advances_serve {c : Ask} {r : Reply c} (h : serve s c r = some s') :
    Advances (.own s c r) s s' := by
  cases c with
  | proxy | cancelled | expired | hostname | randomPassphrase length | randomUuid
  | deactivate path =>
    cases h
    exact .still rfl rfl rfl
  | addAndActivate settings device =>
    rcases r with e | ⟨profile, path⟩
    · cases h
      exact .still rfl rfl rfl
    · exact advances_addHotspot rfl h
  | delete profile =>
    rcases r with e | ⟨⟩ <;> cases h <;> exact .still rfl rfl rfl
  | _ =>
    rw [(readOk_eq h).1]
    exact .still rfl rfl rfl

/-! ## The condition -/

abbrev Claim : Type := Assertion World Ask Reply Action

/-- What a device carries, if anything, is of a profile that a hotspot start has added. -/
def carriesOwn (s : World) (path : String) : Bool :=
  (s.device path).all fun device => device.active = "/" ||
    (s.links.lookup device.active).any fun link => link.profile ∈ s.added

/-- The device a call finds in access-point mode. A proxy says nothing of devices. -/
def sighting : Happening → Option (Option String)
  | .own _ (.mode path) mode => some (if mode = some wifiModeAp then some path else none)
  | .own _ .proxy _ | .rival _ => none
  | .own _ _ _ => some none

/-- An operation has just found the device in access-point mode. -/
def Spotted (path : String) (tr : List Happening) : Prop :=
  (tr.filterMap sighting).getLast? = some (some path)

/-- An operation can only be stopping a hotspot: it is a stop, or a start that has added its
profile. -/
def Stopping (op : Operation) (tr : List Happening) : Prop :=
  op = .stop ∨ ∃ s settings device created,
    Event.own s (.addAndActivate settings device) (.ok created) ∈ tr

/-- Whenever a stop, or the stop that follows a late cancellation, looks what a device carries
that it has found in access-point mode, this is of a profile that a hotspot start has added. -/
def Owns (op : Operation) (history : List Happening) : Prop :=
  ∀ l₁ l₂ s path r, history = l₁ ++ .own s (.activeConnection path) r :: l₂ → Stopping op l₁ →
    Spotted path l₁ → carriesOwn s path = true

theorem Spotted.snoc {tr : List Happening} (h : Spotted path tr) (he : sighting e = none) :
    Spotted path (tr ++ [e]) := by
  rw [Spotted, List.filterMap_append, List.filterMap_cons, he]
  exact (congrArg List.getLast? (List.append_nil _)).trans h

theorem spotted_mode (tr : List Happening) (s : World) (path : String) :
    Spotted path (tr ++ [.own s (.mode path) (some wifiModeAp)]) := by
  rw [Spotted, List.filterMap_append]
  exact List.getLast?_concat

theorem Owns.before {op : Operation} {tr : List Happening} (h : Owns op (tr ++ [e])) :
    Owns op tr := by
  rintro l₁ l₂ s path r rfl
  exact h l₁ (l₂ ++ [e]) s path r (List.append_assoc l₁ _ [e])

/-! ## Deleting added profiles only -/

variable {op : Operation}

/-- What is deleted has been added, as long as the condition holds. -/
def Careful (op : Operation) : Guarantee World Ask Reply Action := fun tr s c _ =>
  ∀ profile, c = .delete profile → Owns op tr → profile ∈ s.added

theorem monotone_networkManager : Client.Monotone networkManager World.Le :=
  ⟨fun h => (advances_others h).le, fun h => (advances_serve h).le⟩

abbrev Lasting (K : Claim) : Prop := Client.Lasting World.Le K

theorem lasting_true : Lasting fun _ _ => True := fun _ _ _ _ _ _ => trivial

/-- Where `K` holds, the part deletes only added profiles; `K'` holds of its result, and
everything that lasts is as before. -/
abbrev Secures (op : Operation) (K : Claim) (p : Process α) (K' : α → Claim) : Prop :=
  Client.Secures networkManager World.Le (Careful op) K p K'

/-- It needs nothing for that. -/
def Passes (op : Operation) (p : Process α) : Prop :=
  Secures op (fun _ _ => True) p fun _ _ _ => True

/-- A call. -/
theorem secures_ask {K : Claim} {K' : α → Claim} {c : Ask} {f : Reply c → Except ErrorReport α}
    (hK : Stable networkManager K)
    (hdelete : ∀ tr s profile, c = .delete profile → K tr s → Owns op tr → profile ∈ s.added)
    (h : ∀ tr s r s' a, K tr s → serve s c r = some s' → f r = .ok a →
      K' a (tr ++ [.own s c r]) s') : Secures op K (ask c f) K' :=
  .ask monotone_networkManager hK fun tr s r s' hs hserve =>
    ⟨fun profile hc => hdelete tr s profile hc hs, fun a ha => h tr s r s' a hs hserve ha⟩

namespace Passes

theorem pure (a : α) : Passes op (Pure.pure a : Process α) := Client.Secures.pure fun _ _ h => h

variable {p : Process α}

theorem bind {f : α → Process β} (hp : Passes op p) (hf : ∀ a, Passes op (f a)) :
    Passes op (p >>= f) := Client.Secures.bind hp hf

theorem lift (r : Except ErrorReport α) : Passes op (Client.lift r : Process α) :=
  Client.Secures.lift fun _ _ _ _ h => h

theorem handle {f : ErrorReport → Process α} (hp : Passes op p) (hf : ∀ e, Passes op (f e)) :
    Passes op (tryCatch p f) :=
  Client.Secures.handle lasting_true hp hf

theorem ask {c : Ask} {f : Reply c → Except ErrorReport α} (hc : ∀ profile, c ≠ .delete profile) :
    Passes op (Client.ask c f) :=
  secures_ask (lasting_true.stable monotone_networkManager)
    (fun _ _ profile h _ => absurd h (hc profile)) fun _ _ _ _ _ h _ _ => h

/-- It keeps what lasts. -/
theorem keeps {K : Claim} (hp : Passes op p) (hK : Lasting K) :
    Secures op K p fun _ => K := Client.Secures.keeps hp hK

end Passes

/-! ## Devices and status -/

theorem passes_proxy : Passes op proxy := .ask nofun

theorem passes_wifiDevice (path : String) : Passes op (wifiDevice path) := by
  refine passes_proxy.bind fun _ => .bind (.ask nofun) fun deviceType => ?_
  split
  · exact .pure _
  · exact .bind (.ask nofun) fun iface => .pure _

theorem passes_readDevices (paths : List String) : Passes op (readDevices paths) := by
  induction paths with
  | nil => exact .pure _
  | cons path paths ih => exact (passes_wifiDevice path).bind fun device => ih.bind fun rest => .pure _

theorem passes_hotspotDevice (device : WifiDevice) : Passes op (hotspotDevice device) :=
  passes_proxy.bind fun _ => .bind (.ask nofun) fun _ => .bind (.ask nofun) fun _ =>
    passes_proxy.bind fun _ => .bind (.ask nofun) fun _ => .bind (.ask nofun) fun _ => .pure _

theorem passes_readHotspotDevices (devices : List WifiDevice) :
    Passes op (readHotspotDevices devices) := by
  induction devices with
  | nil => exact .pure _
  | cons device devices ih =>
    exact (passes_hotspotDevice device).bind fun device => ih.bind fun rest => .pure _

theorem passes_hotspotDevices : Passes op hotspotDevices :=
  .bind (.bind (.ask nofun) fun paths => passes_readDevices paths) fun devices =>
    passes_readHotspotDevices devices

variable {stops : Prop}

/-- The profile may be deleted by an operation that stops a hotspot. -/
def Disposable (op : Operation) (stops : Prop) (profile : String) : Claim :=
  fun tr s => profile = "/" ∨ (stops → Owns op tr → profile ∈ s.added)

theorem lasting_disposable (profile : String) : Lasting (Disposable op stops profile) :=
  fun _ _ _ _ h hle => h.imp_right fun hmem hstops howns =>
    hle.added profile (hmem hstops howns.before)

/-- The active connection is of a profile that it may delete. -/
def Carried (op : Operation) (stops : Prop) (path : String) : Claim := fun tr s =>
  stops → Owns op tr → ∃ link, s.links.lookup path = some link ∧ link.profile ∈ s.added

theorem lasting_carried (path : String) : Lasting (Carried op stops path) := by
  intro tr s e s' h hle hstops howns
  obtain ⟨link, hlink, hadded⟩ := h hstops howns.before
  obtain ⟨link', hlink', hsame⟩ := hle.links path link hlink
  exact ⟨link', hlink', hle.added _ (hsame ▸ hadded)⟩

/-- The profile of a status may be deleted. -/
def Removable (op : Operation) (stops : Prop) (status : HotspotStatus) : Claim :=
  fun tr s => ∀ profile, status.profilePath = some profile → Disposable op stops profile tr s

theorem lasting_removable (status : HotspotStatus) : Lasting (Removable op stops status) :=
  fun _ _ _ _ h hle profile hprofile => lasting_disposable profile (h profile hprofile) hle

/-- An operation that stops is known to do so. A start that looks for a hotspot does not. -/
def Knows (op : Operation) (stops : Prop) : Claim := fun tr _ => stops → Stopping op tr

theorem Knows.snoc {tr : List Happening} (h : Knows op stops tr s) (e : Happening) (s' : World) :
    Knows op stops (tr ++ [e]) s' :=
  fun hstops => (h hstops).imp_right fun ⟨t, settings, device, created, hmem⟩ =>
    ⟨t, settings, device, created, List.mem_append_left _ hmem⟩

theorem lasting_knows : Lasting (Knows op stops) := fun _ _ e s' h _ => h.snoc e s'

variable (displaySsid : Runtime.SsidBytes → String)

/-- The device has been found in access-point mode. -/
def Found (op : Operation) (stops : Prop) (path : String) : Claim :=
  fun tr s => Knows op stops tr s ∧ Spotted path tr

/-- Nothing but a look at another device changes that. -/
theorem Found.snoc {tr : List Happening} (h : Found op stops path tr s) (he : sighting e = none)
    (s' : World) : Found op stops path (tr ++ [e]) s' :=
  ⟨h.1.snoc e s', h.2.snoc he⟩

theorem stable_found (path : String) : Stable networkManager (Found op stops path) :=
  fun _ _ _ s' h _ => h.snoc rfl s'

theorem secures_mode (path : String) :
    Secures op (Knows op stops) (ask (.mode path) fun r => .ok (r.getD 0))
      fun mode tr s => Knows op stops tr s ∧ (mode = wifiModeAp → Found op stops path tr s) := by
  refine secures_ask (lasting_knows.stable monotone_networkManager) nofun
    fun tr s r s' mode hs _ hmode => ?_
  refine ⟨hs.snoc _ s', fun hap => ⟨hs.snoc _ s', ?_⟩⟩
  cases hmode
  cases r with
  | none => cases hap
  | some mode =>
    obtain rfl : mode = wifiModeAp := hap
    exact spotted_mode tr s path

/-- Here the condition is used. -/
theorem secures_activeConnection (path : String) :
    Secures op (Found op stops path) (ask (.activeConnection path) fun r => .ok (r.getD "/"))
      fun active tr s => active ≠ "/" → Carried op stops active tr s := by
  refine secures_ask (stable_found path) nofun fun tr s r s' active hs hserve hactive => ?_
  intro hne hstops howns
  cases hactive
  obtain ⟨rfl, hread⟩ := readOk_eq hserve
  cases r with
  | none => exact absurd rfl hne
  | some active =>
    obtain ⟨device, hdevice, rfl⟩ := Option.map_eq_some_iff.mp (hread active rfl)
    have hown := howns tr [] _ path _ rfl (hs.1 hstops) hs.2
    rw [carriesOwn, hdevice, Option.all_some, Bool.or_eq_true, decide_eq_true_eq] at hown
    rcases hlink : s'.links.lookup device.active with _ | link
    · rw [hlink] at hown
      exact absurd (hown.resolve_left hne) Bool.false_ne_true
    · rw [hlink] at hown
      exact ⟨link, hlink, of_decide_eq_true (hown.resolve_left hne)⟩

theorem secures_linkProfile (path : String) :
    Secures op (Carried op stops path) (ask (.linkProfile path) fun r => .ok (r.getD "/"))
      fun profile => Disposable op stops profile := by
  refine secures_ask ((lasting_carried path).stable monotone_networkManager) nofun
    fun tr s r s' profile hs hserve hprofile => ?_
  cases hprofile
  obtain ⟨rfl, hread⟩ := readOk_eq hserve
  cases r with
  | none => exact .inl rfl
  | some profile =>
    refine .inr fun hstops howns => ?_
    obtain ⟨link, hlink, hadded⟩ := hs hstops howns.before
    obtain ⟨link', hlink', rfl⟩ := Option.map_eq_some_iff.mp (hread profile rfl)
    obtain rfl := Option.some.inj (hlink.symm.trans hlink')
    exact hadded

theorem secures_statusForDevice (device : HotspotDevice) :
    Secures op (Knows op stops) (hotspotStatusForDevice displaySsid device) fun status tr s =>
      Knows op stops tr s ∧ ∀ found, status = some found → Removable op stops found tr s := by
  suffices h : Secures op (Knows op stops) (hotspotStatusForDevice displaySsid device)
      fun status tr s => ∀ found, status = some found → Removable op stops found tr s from
    (h.frame lasting_knows).imp_pre fun _ _ h => ⟨h, h⟩
  refine .bind (passes_proxy.keeps lasting_knows) fun _ => .bind (secures_mode device.path)
    fun mode => ?_
  split
  · exact .pure fun _ _ _ _ h => nomatch h
  · rename_i hmode
    have hproxy : Secures op (Found op stops device.path) proxy fun _ => Found op stops device.path :=
      secures_ask (stable_found device.path) nofun fun _ _ _ s' _ hs _ _ => hs.snoc rfl s'
    refine .bind (hproxy.imp_pre fun _ _ h => h.2 (not_not.mp hmode)) fun _ =>
      .bind (secures_activeConnection device.path) fun active => ?_
    split
    · exact .pure fun _ _ _ _ h => nomatch h
    · rename_i hactive
      have hlasts : Lasting (Carried op stops active) := lasting_carried active
      refine .bind ((passes_proxy.keeps hlasts).imp_pre fun _ _ h => h hactive)
        fun _ => .bind ((Passes.ask (c := .linkState active) nofun).keeps hlasts) fun state =>
        .bind (secures_linkProfile active) fun profile => ?_
      have hlasts : Lasting (Disposable op stops profile) := lasting_disposable profile
      refine .bind (passes_proxy.keeps hlasts) fun _ =>
        .bind ((Passes.ask (c := .getSettings profile) nofun).keeps hlasts) fun settings => ?_
      refine .pure fun _ s hs found hfound profile' hprofile => ?_
      cases hfound
      cases hprofile
      exact hs

theorem secures_firstStatus (devices : List HotspotDevice) :
    Secures op (Knows op stops) (firstStatus displaySsid devices) (Removable op stops) := by
  induction devices with
  | nil => exact .pure fun _ _ _ _ h => nomatch h
  | cons device devices ih =>
    refine .bind (secures_statusForDevice displaySsid device) fun status => ?_
    cases status with
    | some status => exact .pure fun _ s hs => hs.2 status rfl
    | none => exact ih.imp_pre fun _ _ h => h.1

theorem secures_hotspotStatus :
    Secures op (Knows op stops) (hotspotStatus displaySsid) (Removable op stops) :=
  .bind (passes_hotspotDevices.keeps lasting_knows) fun devices =>
    secures_firstStatus displaySsid devices

/-! ## Removing a profile -/

theorem secures_bestEffort {K : Claim} {p : Process Unit} (hK : Lasting K)
    (hp : Secures op K p fun _ _ _ => True) :
    Secures op K (bestEffort p) fun _ _ _ => True :=
  .handle hK hp fun _ => .pure fun _ _ _ => trivial

theorem passes_deactivate (path : String) : Passes op (bestEffort (ask (.deactivate path) id)) :=
  secures_bestEffort lasting_true (Passes.ask nofun)

theorem secures_removeHotspotProfile (profile : String) :
    Secures op (Disposable op True profile) (removeHotspotProfile profile) fun _ _ _ => True := by
  rw [removeHotspotProfile]
  split
  · exact .pure fun _ _ _ => trivial
  · rename_i hroot
    refine secures_bestEffort (lasting_disposable profile)
      (.bind (passes_proxy.keeps (lasting_disposable profile)) fun _ => ?_)
    refine secures_ask ((lasting_disposable profile).stable monotone_networkManager)
      (fun tr s other hother hs => ?_) fun _ _ _ _ _ _ _ _ => trivial
    cases hother
    exact hs.resolve_left hroot trivial

theorem secures_rollBackHotspot (profile path : String) :
    Secures op (Disposable op True profile) (rollBackHotspot profile path) fun _ _ _ => True :=
  .bind ((passes_deactivate path).keeps (lasting_disposable profile)) fun _ =>
    secures_removeHotspotProfile profile

/-! ## Starting -/

theorem passes_hotspotCapabilities : Passes op hotspotCapabilities :=
  passes_hotspotDevices.bind fun _ => .bind (.ask nofun) fun _ => .pure _

theorem passes_resolveSsid (request : HotspotRequest) : Passes op (resolveSsid request) := by
  rw [resolveSsid]
  split
  · exact .pure _
  · exact .ask nofun

theorem passes_resolvePassphrase (request : HotspotRequest) :
    Passes op (resolvePassphrase request) := by
  rw [resolvePassphrase]
  split
  · exact .bind (.lift _) fun _ => .pure _
  · exact .ask nofun

theorem passes_resolveHotspot (request : HotspotRequest) : Passes op (resolveHotspot request) := by
  refine passes_hotspotCapabilities.bind fun capabilities => ?_
  split
  · exact Client.Secures.throw _
  · exact .bind (.lift _) fun device => (passes_resolveSsid request).bind fun ssid =>
      .bind (.lift _) fun _ => (passes_resolvePassphrase request).bind fun passphrase =>
        .bind (.lift _) fun band => .pure _

theorem passes_hotspotConnectionSettings (resolved : ResolvedHotspot) (request : HotspotRequest) :
    Passes op (hotspotConnectionSettings resolved request) :=
  .bind (.ask nofun) fun _ => .pure _

theorem passes_checkCancellation (cancellable : Bool) : Passes op (checkCancellation cancellable) := by
  rw [checkCancellation]
  split
  · exact .ask nofun
  · exact .pure _

theorem passes_activationState (path : String) : Passes op (activationState path) :=
  .handle (passes_proxy.bind fun _ => .ask nofun) fun _ => .pure _

theorem passes_await (cancellable : Bool) (path : String) (rounds : ℕ) :
    Passes op (awaitHotspotActivation cancellable path rounds) := by
  induction rounds with
  | zero => exact Client.Secures.throw _
  | succ rounds ih =>
    refine (passes_checkCancellation cancellable).bind fun _ =>
      (passes_activationState path).bind fun state => ?_
    split
    · exact .pure _
    · split
      · exact Client.Secures.throw _
      · refine .bind (.ask nofun) fun expired => ?_
        split
        · exact Client.Secures.throw _
        · exact ih

/-- What a start adds may be deleted, and then it can only be stopping. -/
theorem secures_addAndActivate (settings : ConnectionSettings) (device : String) :
    Secures op (fun _ _ => True)
      (ask (.addAndActivate settings device) id : Process (String × String))
      fun created tr s => Disposable op True created.1 tr s ∧ Knows op True tr s := by
  refine secures_ask (lasting_true.stable monotone_networkManager) nofun
    fun tr s r s' created _ hserve hcreated => ?_
  cases hcreated
  refine ⟨.inr fun _ _ => ?_, fun _ => .inr ⟨s, settings, device, created, ?_⟩⟩
  · rw [(advances_serve hserve).added]
    exact List.mem_cons_self
  · exact List.mem_append_right _ List.mem_cons_self

theorem secures_startHotspot (rounds : ℕ) (request : HotspotRequest) (cancellable : Bool) :
    Secures op (fun _ _ => True) (startHotspot displaySsid rounds request cancellable)
      fun _ => Knows op True := by
  have hstatus : Secures op (Knows op False) (hotspotStatus displaySsid) _ :=
    secures_hotspotStatus displaySsid
  have hlook : Passes op (hotspotStatus displaySsid) :=
    hstatus.conseq (fun _ _ _ h => h.elim) fun _ _ _ _ => trivial
  refine .bind hlook fun status => ?_
  split
  · exact .throw _
  · refine .bind (passes_resolveHotspot request) fun resolved =>
      .bind (passes_checkCancellation cancellable) fun _ =>
        .bind (passes_hotspotConnectionSettings resolved request) fun settings =>
          .bind (secures_addAndActivate settings resolved.device.path) fun created => ?_
    refine .handle ((lasting_disposable created.1).and lasting_knows) ?_ fun error => ?_
    · exact ((Passes.bind (passes_await cancellable created.2 rounds) fun _ => .pure _).keeps
        lasting_knows).imp_pre fun _ _ h => h.2
    · exact .bind ((secures_rollBackHotspot created.1 created.2).imp_pre fun _ _ h => h.1)
        fun _ => .throw error

/-! ## Stopping -/

theorem secures_removeProfileOf (status : HotspotStatus) :
    Secures op (Removable op True status) (removeProfileOf status) fun _ _ _ => True := by
  rw [removeProfileOf]
  split
  · rename_i profile hprofile
    exact (secures_removeHotspotProfile profile).imp_pre fun _ _ h => h profile hprofile
  · exact .pure fun _ _ _ => trivial

theorem secures_stopHotspot :
    Secures op (Knows op True) (stopHotspot displaySsid) fun _ _ _ => True := by
  refine .bind (secures_hotspotStatus displaySsid) fun status => ?_
  split
  · rename_i path _ _ _
    exact .bind ((Passes.ask (c := .deactivate path) nofun).keeps (lasting_removable status)) fun _ =>
      .bind (secures_removeProfileOf status) fun _ => .pure fun _ _ h => h
  · exact .pure fun _ _ _ => trivial

/-! ## Operations -/

theorem passes_runHotspotWorker (rounds : ℕ) (request : HotspotRequest) :
    Passes op (runHotspotWorker displaySsid rounds request) := by
  refine .handle (Client.Secures.bind (secures_startHotspot displaySsid rounds request true)
    fun result => ?_) fun error => .pure _
  refine .bind (passes_proxy.keeps lasting_knows) fun _ =>
    .bind ((Passes.ask (c := .cancelled) nofun).keeps lasting_knows) fun cancelled => ?_
  split
  · exact .bind (secures_bestEffort lasting_knows
      (.bind (secures_stopHotspot displaySsid) fun _ => .pure fun _ _ h => h))
      fun _ => .pure fun _ _ h => h
  · exact .pure fun _ _ _ => trivial

theorem passes_operation (rounds : ℕ) (op : Operation) :
    Passes op (operation displaySsid rounds op) := by
  cases op with
  | start request =>
    exact (passes_runHotspotWorker displaySsid rounds request).bind fun _ => .pure _
  | directStart request =>
    exact Client.Secures.bind (secures_startHotspot displaySsid rounds request false)
      fun _ => .pure fun _ _ _ => trivial
  | stop =>
    exact Client.Secures.bind ((secures_stopHotspot displaySsid).imp_pre fun _ _ _ _ => .inl rfl)
      fun _ => .pure fun _ _ h => h

/-! ## Sessions -/

/-- One operation after another, however far they get: what has happened from `w` on, where
`ok` holds of what happens during each of them. -/
inductive Session (rounds : ℕ) (ok : Operation → List Happening → Prop) (w : World) :
    List Happening → World → Prop where
  | start : Session rounds ok w [] w
  | run {before history : List Happening} {s t : World} {op : Operation}
      {q : Prog Ask Reply (Except ErrorReport Unit)} (h : Session rounds ok w before s)
      (hrun : Exec networkManager s (operation displaySsid rounds op) history t q)
      (hok : ok op history) : Session rounds ok w (before ++ history) t

variable {displaySsid}

/-- A hotspot start of the daemon has added the profile: before, or in the history. -/
def Added (w : World) (history : List Happening) (profile : String) : Prop :=
  profile ∈ w.added ∨ profile ∈ history.filterMap addedBy

variable {history : List Happening} {w : World}

/-- The record is right. -/
theorem added_of_exec {t : World} {p q : Prog Ask Reply α} (h : Exec networkManager w p history t q) :
    ∀ profile ∈ t.added, Added w history profile := by
  have hnext : ∀ {tr : List Happening} {e : Happening} {s s' : World},
      (∀ profile ∈ s.added, Added w tr profile) → Advances e s s' →
      ∀ profile ∈ s'.added, Added w (tr ++ [e]) profile := by
    intro tr e s s' ih hadvances profile hmem
    rw [hadvances.added, List.mem_append, Option.mem_toList] at hmem
    rw [Added, List.filterMap_append, List.mem_append]
    rcases hmem with he | hmem
    · exact .inr (.inr (List.mem_filterMap.mpr ⟨e, List.mem_singleton_self e, he⟩))
    · exact (ih profile hmem).imp_right .inl
  induction h with
  | start => exact fun profile hmem => .inl hmem
  | rival _ hstep ih => exact hnext ih (advances_others hstep)
  | own _ hserve ih => exact hnext ih (advances_serve hserve)

theorem Added.append {s : World} {before : List Happening}
    (hw : ∀ profile ∈ s.added, Added w before profile) (h : Added s history profile) :
    Added w (before ++ history) profile := by
  rw [Added, List.filterMap_append, List.mem_append]
  rcases h with h | h
  · exact (hw profile h).imp_right .inl
  · exact .inr (.inr h)

theorem Session.added {rounds : ℕ} {ok : Operation → List Happening → Prop} {t : World}
    (h : Session displaySsid rounds ok w history t) :
    ∀ profile ∈ t.added, Added w history profile := by
  induction h with
  | start => exact fun profile hmem => .inl hmem
  | run _ hrun _ ih => exact fun profile hmem => .append ih (added_of_exec hrun profile hmem)

/-- **Hotspot operations delete what they have added**, in every order, cancelled or not and
whatever others do in between, if the access points that stops look at are the daemon's own:
whenever a stop (or the stop after a late cancellation) reads what a device carries that it has
found in access-point mode, this is of a profile that a hotspot start of the daemon has added. -/
theorem hotspot_deletes_own {rounds : ℕ} {w t : World} {history : List Happening}
    (h : Session displaySsid rounds Owns w history t) :
    ∀ l₁ l₂ s profile r, history = l₁ ++ .own s (.delete profile) r :: l₂ →
      Added w l₁ profile := by
  induction h with
  | start => exact fun l₁ l₂ s profile r heq => absurd heq.symm (by simp)
  | @run before history s₀ t op q hbefore hrun howns ih =>
    intro l₁ l₂ s profile r heq
    -- a deletion in the last operation
    have hlast : ∀ l, history = l ++ .own s (.delete profile) r :: l₂ →
        Added w (before ++ l) profile := by
      intro l hl
      obtain ⟨-, hcareful⟩ := hrun.sound (passes_operation displaySsid rounds op (fun _ _ => True)
        lasting_true [] s₀ ⟨trivial, trivial⟩)
      have howned : Owns op l := by
        rintro k₁ k₂ s' path r' rfl
        exact howns k₁ _ s' path r' (by rw [hl, List.append_assoc, List.cons_append])
      obtain ⟨q', hprefix⟩ := hrun.before hl
      exact .append hbefore.added
        (added_of_exec hprefix profile (hcareful l l₂ s _ r hl profile rfl howned))
    rcases List.append_eq_append_iff.mp heq with ⟨l, rfl, hl⟩ | ⟨l, hl, hl'⟩
    · exact hlast l hl
    · cases l with
      | nil =>
        rw [List.append_nil] at hl
        subst hl
        exact List.append_nil before ▸ hlast [] hl'.symm
      | cons e l =>
        cases hl'
        exact ih l₁ l s profile r hl

/-! ## Executions -/

/-- A device in access-point mode carries the profile `/settings/7`. -/
def sharedWorld (added : List String) : World where
  devices := [⟨"/devices/1", 2, "wlan0", 100, 3, 0x40, "/active/1"⟩]
  wirelessEnabled := true
  links := tableOf [("/active/1", ⟨"/settings/7", 2⟩)]
  profiles := tableOf [("/settings/7", tableOf [("802-11-wireless",
    tableOf [("ssid", .array "y" ([72, 111, 109, 101].map .byte)), ("mode", .str "ap")])])]
  added

/-- NetworkManager answers everything that a stop asks for. -/
def sharedAnswers : (c : Ask) → Option (Reply c)
  | .proxy | .deactivate _ | .delete _ => some (.ok ())
  | .getDevices => some (.ok ["/devices/1"])
  | .deviceType _ => some (.ok 2)
  | .interface _ => some (some "wlan0")
  | .deviceState _ => some (some 100)
  | .activeConnection _ => some (some "/active/1")
  | .wirelessCapabilities _ => some (some 0x40)
  | .mode _ => some (some 3)
  | .linkState _ => some (some 2)
  | .linkProfile _ => some (some "/settings/7")
  | .getSettings _ => some (.ok (tableOf [("802-11-wireless",
      tableOf [("ssid", .array "y" ([72, 111, 109, 101].map .byte)), ("mode", .str "ap")])]))
  | _ => none

/-- A stop of what the world carries. -/
def stopping (added : List String) :
    List Happening × World × Prog Ask Reply (Except ErrorReport Unit) :=
  Client.drive networkManager sharedAnswers (sharedWorld added) (operation (fun _ => "Home") 100 .stop)

/-- It is a session. -/
theorem session_stopping {added : List String} {ok : Operation → List Happening → Prop}
    (h : ok .stop (stopping added).1) : Session (fun _ => "Home") 100 ok (sharedWorld added)
      (stopping added).1 (stopping added).2.1 :=
  .run .start (Exec.drive sharedAnswers _ _) h

/-- The condition, for the reads of any device. -/
def readsOwn : Happening → Bool
  | .own s (.activeConnection path) _ => carriesOwn s path
  | _ => true

/-- A stop when the daemon has started the hotspot. -/
theorem hotspot_deletes_own_stop :
    ∃ l₁ l₂ s r, (stopping ["/settings/7"]).1 = l₁ ++ .own s (.delete "/settings/7") r :: l₂ ∧
      Added (sharedWorld ["/settings/7"]) l₁ "/settings/7" := by
  have hreads : (stopping ["/settings/7"]).1.all readsOwn = true := rfl
  have howns : Owns .stop (stopping ["/settings/7"]).1 := by
    intro l₁ l₂ s path r heq _ _
    refine List.all_eq_true.mp hreads (.own s (.activeConnection path) r) ?_
    rw [heq]
    exact List.mem_append_right _ List.mem_cons_self
  have hlast : (stopping ["/settings/7"]).1 = (stopping ["/settings/7"]).1.dropLast ++
      .own (sharedWorld ["/settings/7"]) (.delete "/settings/7") (.ok ()) :: [] := rfl
  exact ⟨_, _, _, _, hlast, hotspot_deletes_own (session_stopping howns) _ _ _ _ _ hlast⟩

/-- A stop when somebody else has: their profile is deleted. -/
theorem saved_hotspot_deleted :
    ∃ history t l₁ l₂ s r,
      Session (fun _ => "Home") 100 (fun _ _ => True) (sharedWorld []) history t ∧
      history = l₁ ++ .own s (.delete "/settings/7") r :: l₂ ∧
      ¬ Added (sharedWorld []) l₁ "/settings/7" := by
  have hnone : (stopping []).1.dropLast.filterMap addedBy = [] := rfl
  refine ⟨_, _, (stopping []).1.dropLast, [], sharedWorld [], .ok (), session_stopping trivial, rfl, ?_⟩
  rintro (h | h)
  · cases h
  · rw [hnone] at h
    cases h

end Hotspot

end NmDaemon
