import NmDaemon.Base.Refine
import NmDaemon.BandOperations
import NmDaemon.ConnectionMachine
import NmDaemon.PasswordPlacement
import NmDaemon.TemporarySettings

/-!
# Asking NetworkManager to activate a profile

`nm/activate.rs` and the activation of `nm/inventory.rs`: how the daemon has NetworkManager
activate a saved profile, with new credentials or without, or add one and activate it, for a
network that is visible or hidden, to be kept or only for now. Here the questions of the connection
machine (`Connection`) are carried out, so that a whole attempt is one program that talks to
NetworkManager (`connect`).

* `Ask`, `activationWorld` — the calls, and the profiles there are. The edits of a profile are
  those of `Profiles`, for any service of a profile;
* `activateSavedWifiConnectionFor`, `addAndActivateWifiConnectionFor`, `activateNetworkProfile`;
* `Operation` — the operations of the daemon that end in an activation.

What is read to find the access point, the device or the profile for a target is one call each
here. A scope is opened with the owner of NetworkManager's name, which may fail; what it makes of
the error of an activation (`activationError`) depends on what its agents were asked. The lock that
keeps profile edits apart is left out.
-/

namespace NmDaemon

namespace Activate

open Client (Prog Service Part ask lift perform)
open Connection (WifiActivation)
open Credentials (field)
open Hotspot (WifiDevice)
open ProfileSettings
open Profiles (Profile Foreign beginProfileEdit commitCredentialEdit)
open Wifi (ScannedAccessPoint)
open WifiSettings (Target savedActivationChange applyTargetConnectionMetadata
  applyTargetProfileSettings clonedWifiConnectionSettings visibleConnectionSettings
  hiddenWifiConnectionSettings insertMissing domain)

/-! ## Calls -/

structure ProfileSelector : Type where
  uuid : Option String
  path : Option String
  device : Option String

/-- The profile a selector stands for, and the device to activate it on. -/
structure SelectedProfile : Type where
  path : String
  id : String
  uuid : String
  device : Option String

/-- What NetworkManager says of a profile that was added. -/
structure Added : Type where
  profilePath : String
  activePath : String

/-- The calls of activations. -/
inductive Ask : Type where
  /-- a call of an edit of a profile -/
  | edit (path : String) (call : Profiles.Call)
  /-- the settings of a profile -/
  | settings (path : String)
  /-- the saved profile for a target, the device for it and the access point -/
  | savedTarget (target : WifiConnectTarget)
  | visibleAccessPoint (target : WifiConnectTarget)
  | wifiDevices (target : WifiConnectTarget)
  /-- the settings of a saved profile that suits an access point -/
  | savedSettings (ap : ScannedAccessPoint) (device : WifiDevice)
  | hiddenScan (device : String) (ssid : List UInt8)
  | freshUuid
  | openScope (settings : ConnectionSettings) (path : String)
  | activationError (scope : ℕ) (error : AnyError)
  | dropScope (scope : ℕ)
  | activate (path device specificObject : String)
  /-- with `persist=volatile` if it is temporary -/
  | addAndActivate (settings : ConnectionSettings) (device specificObject : String)
      (temporary : Bool)
  | selectProfile (selector : ProfileSelector)
  /-- the state of an active connection and its first device -/
  | activeSummary (active : String)
  | delete (path : String)
  /-- another question of the connection machine -/
  | machine (call : Connection.Ask)
  /-- a call of a band selection -/
  | band (path : String) (call : Band.Ask)

abbrev Reply : Ask → Type
  | .edit _ call => Profiles.Reply call
  | .settings _ => Except AnyError ConnectionSettings
  | .savedTarget _ => Except AnyError (Option (String × String × String))
  | .visibleAccessPoint _ => Except AnyError (Option (WifiDevice × String × ScannedAccessPoint))
  | .wifiDevices _ => Except AnyError (List WifiDevice)
  | .savedSettings _ _ => Except AnyError (Option ConnectionSettings)
  | .hiddenScan _ _ => Except AnyError Unit
  | .freshUuid => String
  | .openScope _ _ => Except AnyError ℕ
  | .activationError _ _ => AnyError
  | .dropScope _ => Unit
  | .activate _ _ _ => Except AnyError String
  | .addAndActivate _ _ _ _ => Except AnyError Added
  | .selectProfile _ => Except AnyError SelectedProfile
  | .activeSummary _ => Except AnyError (Option (UInt32 × Option String))
  | .delete _ => Except ErrorReport Unit
  | .machine call => Connection.Reply call
  | .band _ call => Band.Reply call

/-- The profiles there are, and whether the operation is cancelled. -/
structure World : Type where
  /-- what is at a path -/
  profiles : String → Profile
  /-- the paths of the saved profiles -/
  saved : List String
  cancelled : Bool

def World.setProfile (w : World) (path : String) (profile : Profile) : World :=
  { w with profiles := Function.update w.profiles path profile }

theorem World.profiles_setProfile (w : World) (path : String) (profile : Profile) (p : String) :
    (w.setProfile path profile).profiles p = if p = path then profile else w.profiles p :=
  Function.update_apply w.profiles path profile p

def uuidOf (settings : ConnectionSettings) : Option Value := field settings "connection" "uuid"

/-- What a band selection sees of the surroundings. -/
def World.forBand (w : World) (path : String) : Band.World := ⟨w.profiles path, w.cancelled⟩

/-- What others do. -/
inductive Action : Type where
  | profile (path : String) (action : Foreign)
  /-- the operation is cancelled -/
  | cancel

/-- The surroundings of an operation, for a service of a profile. A saved profile for a target is
one of those there are, a random uuid is none of theirs, and a profile that is added is a new one,
of which NetworkManager keeps what it keeps. Nobody changes the uuid of a profile. -/
def activationWorld (keep : ConnectionSettings → ConnectionSettings)
    (nm : Service Profile Profiles.Call Profiles.Reply Foreign) : Service World Ask Reply Action where
  serve w
    | .edit path call, reply => (nm.serve (w.profiles path) call reply).map (w.setProfile path)
    | .settings path, .ok settings =>
      if settings = (w.profiles path).settings then some w else none
    | .savedTarget _, .ok (some (path, _, _)) => if path ∈ w.saved then some w else none
    | .savedSettings _ _, .ok (some settings) =>
      if w.saved.any fun path => (w.profiles path).settings = settings then some w else none
    | .freshUuid, uuid =>
      if w.saved.all fun path => uuidOf (w.profiles path).settings ≠ some (.str uuid) then some w
      else none
    | .addAndActivate settings _ _ temporary, .ok added =>
      if added.profilePath ∈ w.saved then none
      else
        let w' := w.setProfile added.profilePath ⟨1, keep settings⟩
        some (if temporary then w' else { w' with saved := added.profilePath :: w.saved })
    | .delete path, .ok _ => some { w with saved := w.saved.erase path }
    | .machine .cancelled, reply => if reply = w.cancelled then some w else none
    | .band path call, reply =>
      ((Band.bandWorld nm).serve (w.forBand path) call reply).map fun b =>
        w.setProfile path b.profile
    | _, _ => some w
  rival w
    | .profile path action =>
      (nm.rival (w.profiles path) action).bind fun profile =>
        if uuidOf profile.settings = uuidOf (w.profiles path).settings then
          some (w.setProfile path profile)
        else none
    | .cancel => some { w with cancelled := true }

abbrev Process (α : Type) : Type := ExceptT AnyError (Prog Ask Reply) α

/-- An event of a history of an operation. -/
abbrev Happening : Type := Client.Event World Ask Reply Action

/-! ## Activations -/

/-- What an operation works with. -/
structure Session : Type where
  /-- the owner the connection to NetworkManager is pinned to, or the well-known name -/
  destination : String
  /-- the user the daemon runs for -/
  user : Option String
  /-- the error with which an edit of a profile fails, by its message -/
  raise : String → AnyError
  /-- the records of a target, read -/
  typed : WifiConnectTarget → Target

variable (session : Session)

/-- An edit of a profile, or a part of one. -/
def edit {α : Type} (path : String) (p : Profiles.NmProgram α) : Process α :=
  perform (.edit path) (fun _ reply => reply) session.raise p

/-- A call for an activation in a scope, which ends with an error. -/
def activating {α : Type} (scope : ℕ) (call : Ask) (reply : Reply call → Except AnyError α)
    (context : String) : Process α := do
  match ← ask call fun r => .ok (reply r) with
  | .ok activation => pure activation
  | .error error => do
    let error ← ask (.activationError scope (error.context context)) .ok
    ask (.dropScope scope) fun _ => .error error

section Connect

variable (target : WifiConnectTarget) (password : Option String) (wepKeyType : Option WepKeyType)

/-- The request has credentials. -/
def hasCredentials : Bool := password.isSome || (session.typed target).enterprise.isSome

/-- The join is not to be remembered. -/
def isTemporary : Bool := (session.typed target).profile.remember = some false

def prepareSavedActivation (path : String) : Process Unit :=
  if hasCredentials session target password then do
    let visible ← ask (.visibleAccessPoint target) id
    let begun ← edit session path (beginProfileEdit session.destination false)
    let settings ← lift (savedActivationChange (session.typed target) password wepKeyType
      session.user (visible.map fun found => found.2.2) begun.settings)
    edit session path (commitCredentialEdit session.destination { begun with settings } true)
  else do
    let settings ← ask (.settings path) id
    lift (domain (validatePrivateCaPaths .connect settings))

/-- A profile that is saved for the target is brought up to date and activated. -/
def activateSavedWifiConnectionFor : Process (Option WifiActivation) :=
  -- a saved profile is never updated for a temporary join
  if isTemporary session target then pure none
  else do
    match ← ask (.savedTarget target) id with
    | none => pure none
    | some (path, device, specificObject) => do
      prepareSavedActivation session target password wepKeyType path
      let settings ← ask (.settings path) id
      let scope ← ask (.openScope settings path) id
      let active ← activating scope (.activate path device specificObject) id
        ("ActivateConnection for saved Wi-Fi profile " ++ target.ssid.display)
      pure (some ⟨path, active, scope⟩)

/-- The uuid by which the secrets of the profile are asked for right away. -/
def withUuid (settings : ConnectionSettings) (uuid : String) : ConnectionSettings :=
  editSection settings "connection" fun connection => insertMissing connection "uuid" (.str uuid)

/-- The settings that are submitted for those that were built. -/
def submitted (temporary : Bool) (settings : ConnectionSettings) (uuid : String) :
    ConnectionSettings :=
  withUuid (if temporary then makeTemporary settings else settings) uuid

def addAndActivate (settings : ConnectionSettings) (device specificObject : String) :
    Process WifiActivation := do
  let temporary := isTemporary session target
  let uuid ← ask .freshUuid .ok
  let settings := submitted temporary settings uuid
  let scope ← ask (.openScope settings "/") id
  let added ← activating scope (.addAndActivate settings device specificObject temporary) id
    (if temporary then "temporary activation for Wi-Fi network " ++ target.ssid.display
    else "AddAndActivateConnection for Wi-Fi network " ++ target.ssid.display)
  pure ⟨added.profilePath, added.activePath, scope⟩

def addAndActivateHiddenWifiConnection : Process (Option WifiActivation) := do
  match ← ask (.wifiDevices target) id with
  | [] => pure none
  | device :: _ => do
    ask (.hiddenScan device.path target.ssid.bytes) id
    let settings ← lift
      (hiddenWifiConnectionSettings (session.typed target) password wepKeyType)
    let settings ← lift
      (applyTargetConnectionMetadata (session.typed target) session.user settings)
    let activation ← addAndActivate session target settings device.path "/"
    pure (some activation)

/-- The settings for an access point, from a saved profile that suits it or new ones. -/
def settingsForAccessPoint (saved : Option ConnectionSettings) (ap : ScannedAccessPoint) :
    Except AnyError (Option ConnectionSettings) :=
  match saved with
  | some saved =>
    (clonedWifiConnectionSettings (session.typed target) password wepKeyType saved ap).map some
  | none => do
    match ← visibleConnectionSettings (session.typed target) password wepKeyType ap with
    | none => pure none
    | some settings =>
      (applyTargetProfileSettings (session.typed target) settings).map some

def visibleActivationSettings (device : WifiDevice) (ap : ScannedAccessPoint) :
    Process (Option ConnectionSettings) := do
  let saved ←
    if isTemporary session target || hasCredentials session target password then
      ask (.savedSettings ap device) id
    else pure none
  lift (settingsForAccessPoint session target password wepKeyType saved ap)

/-- A new profile is built for the access point, or from the target alone if it is hidden. -/
def addAndActivateWifiConnectionFor : Process (Option WifiActivation) :=
  if target.hidden then addAndActivateHiddenWifiConnection session target password wepKeyType
  else do
    match ← ask (.visibleAccessPoint target) id with
    | none => pure none
    | some (device, apPath, ap) => do
      match ← visibleActivationSettings session target password wepKeyType device ap with
      | none => pure none
      | some settings => do
        let settings ← lift
          (applyTargetConnectionMetadata (session.typed target) session.user settings)
        let activation ← addAndActivate session target settings device.path apPath
        pure (some activation)

/-! ## The whole attempt -/

/-- The errors of a question of the connection machine. -/
def reported {α : Type} (p : Process α) : Prog Ask Reply (Except ErrorReport α) :=
  Prog.bind p fun r => .done (r.mapError fun error => .fromError error .connect)

/-- How the questions of the connection machine are carried out. -/
def carry : (c : Connection.Ask) → Prog Ask Reply (Connection.Reply c)
  | .activateSaved target password wepKeyType =>
    reported (activateSavedWifiConnectionFor session target password wepKeyType)
  | .addAndActivate target password wepKeyType =>
    reported (addAndActivateWifiConnectionFor session target password wepKeyType)
  | .delete path => .call (.delete path) .done
  | .dropScope scope => .call (.dropScope scope) .done
  | c => .call (.machine c) .done

/-- One attempt to connect to a target. -/
def connect : Prog Ask Reply (Except ErrorReport Connect.ConnectResult) :=
  Prog.refine (carry session) (Connection.connectTarget target password wepKeyType)

end Connect

/-! ## Any saved profile -/

structure ProfileActivationResult : Type where
  status : String
  message : String
  profilePath : String
  id : String
  uuid : String
  activeConnection : String
  device : Option String
  state : UInt32

/-- A saved profile is activated as it is, once its certificates are where they may be. -/
def activateNetworkProfile (selector : ProfileSelector) : Process ProfileActivationResult := do
  let profile ← ask (.selectProfile selector) id
  let settings ← ask (.settings profile.path) id
  lift (domain (validatePrivateCaPaths .connect settings))
  let activePath ← ask (.activate profile.path (profile.device.getD "/") "/") fun r =>
    r.mapError (.context ("ActivateConnection for profile " ++ profile.id))
  let active ← ask (.activeSummary activePath) id
  let state := (active.map Prod.fst).getD 1
  pure
    { status := if state = 2 then "activated" else "activating"
      message := "Activating saved profile " ++ profile.id
      profilePath := profile.path
      id := profile.id
      uuid := profile.uuid
      activeConnection := activePath
      device := (active.bind Prod.snd).or profile.device
      state }

/-! ## Operations -/

inductive Operation : Type where
  | connect (target : WifiConnectTarget) (password : Option String)
      (wepKeyType : Option WepKeyType)
  | activateProfile (selector : ProfileSelector)
  | selectBand (scope : Band.Scope) (requested : WifiBand)

def Operation.run : Operation → Prog Ask Reply Unit
  | .connect target password wepKeyType =>
    (Activate.connect session target password wepKeyType).bind fun _ => .done ()
  | .activateProfile selector => Prog.bind (activateNetworkProfile selector) fun _ => .done ()
  | .selectBand scope requested =>
    ((Band.runBandWorker scope requested).embed (.band scope.path) fun _ reply => reply).bind
      fun _ => .done ()

/-! ## Quiet calls -/

/-- The calls that leave the profiles alone. -/
def Ask.IsQuiet : Ask → Prop
  | .edit _ _ | .addAndActivate _ _ _ _ | .delete _ | .band _ _ => False
  | _ => True

section Calls

variable {keep : ConnectionSettings → ConnectionSettings}
  {nm : Service Profile Profiles.Call Profiles.Reply Foreign} {w w' : World}

theorem same_of_ite {b : Prop} [Decidable b] (h : (if b then some w else none) = some w') :
    w' = w :=
  (Option.some.inj (Option.ite_none_right_eq_some.mp h).2).symm

theorem serve_quiet {c : Ask} {r : Reply c} (hc : c.IsQuiet)
    (h : (activationWorld keep nm).serve w c r = some w') : w' = w := by
  cases c with
  | edit | addAndActivate | delete | band => exact hc.elim
  | settings path =>
    rcases r with e | settings
    · exact (Option.some.inj h).symm
    · exact same_of_ite h
  | savedTarget target =>
    rcases r with e | _ | found
    · exact (Option.some.inj h).symm
    · exact (Option.some.inj h).symm
    · exact same_of_ite h
  | savedSettings ap device =>
    rcases r with e | _ | settings
    · exact (Option.some.inj h).symm
    · exact (Option.some.inj h).symm
    · exact same_of_ite h
  | freshUuid => exact same_of_ite h
  | machine call =>
    cases call with
    | cancelled => exact same_of_ite h
    | _ => exact (Option.some.inj h).symm
  | _ => exact (Option.some.inj h).symm

theorem serve_settings {path : String} {settings : ConnectionSettings}
    (h : (activationWorld keep nm).serve w (.settings path) (.ok settings) = some w') :
    settings = (w.profiles path).settings :=
  (Option.ite_none_right_eq_some.mp h).1

theorem serve_freshUuid {uuid : String}
    (h : (activationWorld keep nm).serve w .freshUuid uuid = some w') :
    ∀ path ∈ w.saved, uuidOf (w.profiles path).settings ≠ some (.str uuid) := by
  have hall := (Option.ite_none_right_eq_some.mp h).1
  intro path hpath
  exact of_decide_eq_true (List.all_eq_true.mp hall path hpath)

/-- What others do to a profile leaves its uuid and the list of the profiles as they are. -/
theorem rival_spec {a : Action} (h : (activationWorld keep nm).rival w a = some w') :
    w'.saved = w.saved ∧
      ∀ path, uuidOf (w'.profiles path).settings = uuidOf (w.profiles path).settings := by
  cases a with
  | cancel =>
    cases h
    exact ⟨rfl, fun _ => rfl⟩
  | profile path action =>
    obtain ⟨profile, -, h⟩ := Option.bind_eq_some_iff.mp h
    obtain ⟨huuid, h⟩ := Option.ite_none_right_eq_some.mp h
    cases h
    refine ⟨rfl, fun path' => ?_⟩
    rw [World.profiles_setProfile]
    by_cases hpath : path' = path
    · rw [if_pos hpath, hpath]
      exact huuid
    · rw [if_neg hpath]

open Client in
/-- The rule for a quiet call, for what holds of the profiles. -/
theorem ends_quiet {α : Type} {G : Guarantee World Ask Reply Action} {I : World → Prop}
    (hI : Stable (activationWorld keep nm) fun _ w => I w) (c : Ask) (hc : c.IsQuiet)
    {f : Reply c → Except AnyError α} (hG : ∀ tr w r, I w → G tr w c r) :
    Ends (activationWorld keep nm) G (fun _ w => I w) (ask c f) (fun _ _ w => I w)
      fun _ _ w => I w := by
  refine .ask hI fun tr w r w' h hserve => ⟨hG tr w r h, ?_⟩
  rw [serve_quiet hc hserve]
  cases f r with
  | error e => exact h
  | ok a => exact h

open Client in
/-- The rule for an activation in a scope. -/
theorem ends_activating {α : Type} {G : Guarantee World Ask Reply Action}
    {P : Assertion World Ask Reply Action} {Q : α → Assertion World Ask Reply Action}
    {I : World → Prop} {c : Ask} {reply : Reply c → Except AnyError α} (scope : ℕ) (context : String)
    (hP : Stable (activationWorld keep nm) P) (hI : Stable (activationWorld keep nm) fun _ w => I w)
    (hcall : ∀ tr w r w', P tr w → (activationWorld keep nm).serve w c r = some w' →
      G tr w c r ∧ outcome Q (fun _ _ w => I w) (reply r) (tr ++ [.own w c r]) w')
    (herror : ∀ tr w e r, G tr w (.activationError scope e) r)
    (hdrop : ∀ tr w r, G tr w (.dropScope scope) r) :
    Ends (activationWorld keep nm) G P (activating scope c reply context) Q fun _ _ w => I w := by
  have hask : Ends (activationWorld keep nm) G P (ask c fun r => Except.ok (reply r))
      (fun answer => outcome Q (fun _ _ w => I w) answer) fun (_ : AnyError) _ w => I w :=
    Ends.ask hP hcall
  refine hask.bind fun answer => ?_
  cases answer with
  | ok a => exact .pure fun _ _ h => h
  | error e =>
    refine (ends_quiet hI (.activationError scope (e.context context)) trivial
      fun tr w r _ => herror tr w _ r).bind fun error => ?_
    refine .ask hI fun tr w r w' h hserve => ⟨hdrop tr w r, ?_⟩
    have hsame : w' = w := serve_quiet (c := .dropScope scope) trivial hserve
    rw [hsame]
    exact h

open Client in
/-- The rule for a program that answers a question of the connection machine. -/
theorem wp_reported {α : Type} {G : Guarantee World Ask Reply Action}
    {P : Assertion World Ask Reply Action} {Q : α → Assertion World Ask Reply Action}
    {F : AnyError → Assertion World Ask Reply Action}
    {Q' : Except ErrorReport α → Assertion World Ask Reply Action} {p : Process α}
    (hp : Ends (activationWorld keep nm) G P p Q F) (hok : ∀ a tr w, Q a tr w → Q' (.ok a) tr w)
    (herror : ∀ e report tr w, F e tr w → Q' (.error report) tr w) (tr : List Happening) (w : World)
    (hP : P tr w) : wp (activationWorld keep nm) G Q' (reported p) tr w := by
  refine wp_bind p _ tr w (wp_mono ?_ p tr w (hp tr w hP))
  rintro (e | a) tr w h
  · exact herror e _ tr w h
  · exact hok a tr w h

end Calls

/-! ## Parts -/

/-- A profile is part of the surroundings. -/
def profilePart (keep : ConnectionSettings → ConnectionSettings)
    (nm : Service Profile Profiles.Call Profiles.Reply Foreign) (path : String) :
    Part nm (activationWorld keep nm) where
  call := .edit path
  reply _ reply := reply
  state w := w.profiles path
  action
    | .profile path' action => if path' = path then some action else none
    | .cancel => none
  seen
    | .own w (.edit path' call) reply =>
      if path' = path then some (.own (w.profiles path) call reply) else none
    | .rival (.profile path' action) => if path' = path then some (.rival action) else none
    | _ => none
  seen_own _ _ _ := if_pos rfl
  seen_rival
    | .profile path' action => by
      by_cases h : path' = path
      · simp only [if_pos h, Option.map_some]
      · simp only [if_neg h, Option.map_none]
    | .cancel => rfl
  serve w c r w' h := by
    obtain ⟨profile, hserve, rfl⟩ := Option.map_eq_some_iff.mp h
    rw [World.profiles_setProfile, if_pos rfl]
    exact hserve
  rival_some w a w' b h hb := by
    cases a with
    | cancel => cases hb
    | profile path' action =>
      dsimp only at hb
      split_ifs at hb with hpath
      cases hb
      subst hpath
      obtain ⟨profile, hrival, h⟩ := Option.bind_eq_some_iff.mp h
      split_ifs at h
      cases h
      rw [World.profiles_setProfile, if_pos rfl]
      exact hrival
  rival_none w a w' h hb := by
    cases a with
    | cancel =>
      cases h
      rfl
    | profile path' action =>
      dsimp only at hb
      split_ifs at hb with hpath
      obtain ⟨profile, hrival, h⟩ := Option.bind_eq_some_iff.mp h
      split_ifs at h
      cases h
      rw [World.profiles_setProfile, if_neg (Ne.symm hpath)]

end Activate

end NmDaemon
