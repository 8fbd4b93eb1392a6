import NmDaemon.BandOperations
import NmDaemon.ProfileEdits

/-!
# What a rollback writes

A rollback of a band selection edits the settings the profile has by then, whatever was done to
them since the band was written: it restores the band and nothing else, only if the profile is
still the one of the selection and still has the band that was applied, and only if nobody edits
the profile between the snapshot and the update (`rollback_touches_band`).
-/

namespace NmDaemon

namespace Band

open Client Credentials Profiles
open ProfileSettings

/-- The settings with the band of the original ones. -/
def BandOnly (original current restored : ConnectionSettings) : Prop :=
  (∀ section' key, field restored section' key =
    if section' = "802-11-wireless" ∧ key = "band" then field original "802-11-wireless" "band"
    else field current section' key) ∧
  ∀ name, name ≠ "802-11-wireless" →
    (restored.lookup name).isSome = (current.lookup name).isSome

/-- What is written for settings: the settings themselves or, if they carry secrets, with the
secrets NetworkManager returned for the profile where they have none. -/
def Carried (settings : ConnectionSettings) (replies : Profiles.Replies)
    (written : ConnectionSettings) : Prop :=
  if hasSecrets settings then
    SameExcept Address.Supported settings written ∧
      (OnlyAsked replies → ∀ address : Address, address.Supported → slot written address =
        (offered settings address).or (returned replies address))
  else written = settings

/-- The profile in the history of a rollback. -/
def profileHistory (tr : List Happening) : List Profiles.Happening := tr.filterMap seen

theorem restoreBand_spec {original current restored : ConnectionSettings} {applied : WifiBand}
    (h : restoreBand original applied current = .ok restored) :
    (field current "connection" "uuid" = field original "connection" "uuid" ∧
      field current "802-11-wireless" "ssid" = field original "802-11-wireless" "ssid") ∧
    selectedBand current = applied ∧ BandOnly original current restored := by
  obtain ⟨⟨⟩, htarget, hrestore⟩ := Fallible.bind_eq_ok.mp h
  obtain ⟨hband, heq⟩ := restoreBandFields_eq_ok.mp hrestore
  refine ⟨by_contra fun hne => ?_, hband, restoreBandFields_field hrestore, fun name hname => ?_⟩
  · rw [ensureSameBandTarget, if_neg hne] at htarget
    cases htarget
  · rw [heq, lookup_editSection, if_neg hname]

theorem Prepared.carried {edit : ProfileEdit} {replies : Profiles.Replies}
    {written : ConnectionSettings} (h : Prepared edit replies written)
    (hremember : edit.explicitRemember = false) : Carried edit.settings replies written := by
  obtain ⟨settings, hcollected, hwritten⟩ := h
  rw [hremember, if_neg Bool.false_ne_true] at hwritten
  cases hwritten
  rw [Carried]
  by_cases hsecrets : hasSecrets edit.settings = true
  · have hcarries : (hasSecrets edit.settings || edit.explicitRemember) = true := by
      rw [hsecrets, Bool.true_or]
    rw [if_pos hsecrets]
    refine ⟨?_, fun honly => (hcollected.spec hcarries honly).2.1⟩
    rw [Collected, if_pos hcarries] at hcollected
    obtain ⟨-, preserved, hmerge, hoverlay⟩ := hcollected
    exact (mergeReplies_sameExcept hmerge).trans (mergeSecrets_sameExcept hoverlay)
  · rw [if_neg hsecrets]
    rw [Collected, hremember, Bool.or_false, if_neg hsecrets] at hcollected
    exact hcollected.2

/-! ## The calls of a rollback -/

/-- What is promised of a call of the edit of a rollback, by what has happened to the profile. -/
def rollbackGuarantee (original : ConnectionSettings) (applied : WifiBand) :
    Guarantee World Ask Reply Action := fun tr s c r =>
  match c, r with
  | .edit call, reply => editGuarantee (profileHistory tr) s.profile call reply ∧
      editedGuarantee (restoreBand original applied) false (profileHistory tr) s.profile call reply
  | _, _ => True

/-- An update was accepted. -/
def Updated (tr : List Happening) : Prop :=
  ∃ t written flags version, .own t (.edit (.update2 written flags version)) (.ok ()) ∈ tr

theorem Updated.append {tr : List Happening} (h : Updated tr) (m : List Happening) :
    Updated (tr ++ m) := by
  obtain ⟨t, written, flags, version, hmem⟩ := h
  exact ⟨t, written, flags, version, List.mem_append_left m hmem⟩

variable {original : ConnectionSettings} {applied : WifiBand} {α : Type}

theorem seen_eq_own {e : Happening} {u : Profile} {call : Call} {reply : Profiles.Reply call}
    (h : seen e = some (.own u call reply)) :
    ∃ t : World, t.profile = u ∧ e = .own t (.edit call) reply := by
  cases e with
  | rival a => cases a <;> cases h
  | own t c r =>
    cases c with
    | edit call' =>
      cases h
      exact ⟨t, rfl, rfl⟩
    | _ => cases h

/-- A call after the edit. -/
theorem ends_afterwards {svc : Service World Ask Reply Action} (c : Ask)
    (hc : ∀ call, c ≠ .edit call) {f : Reply c → Except AnyError α} :
    Ends svc (rollbackGuarantee original applied) (fun tr _ => Updated tr) (ask c f)
      (fun _ tr _ => Updated tr) fun _ tr _ => Updated tr := by
  refine .ask (fun tr s a s' h _ => h.append _) fun tr s r s' h _ => ⟨?_, ?_⟩
  · cases c with
    | edit call => exact absurd rfl (hc call)
    | _ => trivial
  · cases f r with
    | error e => exact h.append _
    | ok a => exact h.append _

theorem updated_of_wrote {change : ConnectionSettings → Except String ConnectionSettings}
    {m : List Happening} (h : Wrote change false (profileHistory m)) : Updated m := by
  obtain ⟨l, t, written, flags, version, l', hm, -⟩ := h
  have hmem : Client.Event.own t (.update2 written flags version) (.ok ()) ∈ profileHistory m := by
    rw [hm]
    exact List.mem_append_right l List.mem_cons_self
  obtain ⟨e, he, hseen⟩ := List.mem_filterMap.mp hmem
  obtain ⟨t', -, rfl⟩ := seen_eq_own hseen
  exact ⟨t', written, flags, version, he⟩

theorem ends_rollbackBandChange (keep : ConnectionSettings → ConnectionSettings) (scope : Scope)
    (change : BandChange) (applied : WifiBand) :
    Ends (bandWorld (networkManager keep)) (rollbackGuarantee change.original applied)
      (fun tr _ => tr = []) (rollbackBandChange scope change applied)
      (fun _ tr _ => Updated tr) fun _ _ _ => True := by
  have hedit : Ends (bandWorld (networkManager keep)) (rollbackGuarantee change.original applied)
      (fun tr _ => tr = [])
      (edit scope (profileEdit scope.destination false (restoreBand change.original applied) false))
      (fun _ tr _ => Updated tr) fun _ _ _ => True := by
    refine (profilePart (networkManager keep)).ends_perform
      ((ends_profileEdit scope.destination false (restoreBand change.original applied)
        false).and_triple (triple_profileEdit scope.destination false
          (restoreBand change.original applied) false)) ?_ ?_ ?_ fun _ _ _ _ _ _ _ _ => trivial
    · exact fun tr s _ => ⟨rfl, fun _ _ _ hmem => absurd hmem List.not_mem_nil⟩
    · rintro tr₀ s₀ m s c r rfl _ ⟨hedited, hlossless⟩
      exact ⟨hlossless, hedited⟩
    · rintro a tr₀ s₀ m s rfl _ ⟨hwrote, -⟩
      exact updated_of_wrote hwrote
  refine hedit.bind fun _ => ?_
  have hplace : Ends (bandWorld (networkManager keep)) (rollbackGuarantee change.original applied)
      (fun tr _ => Updated tr) (ensureNotReplaced scope change.device) (fun _ tr _ => Updated tr)
      fun _ _ _ => True := by
    refine .bind ((ends_afterwards (.activeConnection change.device.path)
      fun _ h => by cases h).imp_error fun _ _ _ _ => trivial) fun active => ?_
    split_ifs
    · exact .pure fun _ _ h => h
    · refine .bind ((ends_afterwards (.connectionOf active) fun _ h => by cases h).imp_error
        fun _ _ _ _ => trivial) fun current => ?_
      exact .ensure (fun _ _ _ h => h) fun _ _ _ _ => trivial
  refine hplace.bind fun _ => ?_
  exact (ends_afterwards (.activate .recovery change.device.path) fun _ h => by cases h).imp_error
    fun _ _ _ _ => trivial

/-! ## What is committed -/

/-- **A rollback touches one field.** Take any execution of a rollback, among whatever other clients
do. Every update it asks for is of settings it has read, of a profile with the identity of the
original one and the band that was applied, with only the band restored (and the profile's own
secrets). If the update is accepted, those settings are the ones the profile has, and nobody has
edited it since they were read. A rollback that succeeds has made such an update. -/
theorem rollback_touches_band (keep : ConnectionSettings → ConnectionSettings) (scope : Scope)
    (change : BandChange) (applied : WifiBand) {s₀ s : World} {tr : List Happening}
    {p : Prog Ask Reply (Except AnyError Unit)}
    (h : Exec (bandWorld (networkManager keep)) s₀ (rollbackBandChange scope change applied) tr s p) :
    (∀ (l₁ l₂ : List Happening) (t : World) (written : ConnectionSettings) (flags : UInt32)
      (version : ℕ) (r : Except String Unit),
      tr = l₁ ++ .own t (.edit (.update2 written flags version)) r :: l₂ →
      ∃ current restored,
        (∃ u, Event.own u (.edit .getSettings) (.ok current) ∈ l₁) ∧
        (field current "connection" "uuid" = field change.original "connection" "uuid" ∧
          field current "802-11-wireless" "ssid" =
            field change.original "802-11-wireless" "ssid") ∧
        selectedBand current = applied ∧
        BandOnly change.original current restored ∧
        Carried restored (secretReplies (profileHistory l₁)) written ∧
        (r = .ok () → t.profile.settings = current ∧ ∃ m₁ m₂, l₁ = m₁ ++ m₂ ∧
          (∃ u, Event.own u (.edit .getSettings) (.ok current) ∈ m₂) ∧
          ∀ settings more, Event.rival (.profile (.edit settings more)) ∉ m₂)) ∧
    (p = .done (.ok ()) → Updated tr) := by
  have hwp := ends_rollbackBandChange keep scope change applied [] s₀ rfl
  refine ⟨fun l₁ l₂ t written flags version r htr => ?_, fun hp => ?_⟩
  · obtain ⟨hlossless, hedited⟩ := (h.sound hwp).2 l₁ l₂ t
      (.edit (.update2 written flags version)) r htr
    obtain ⟨edit, hreads, hrestore, hremember, hprepared⟩ := hedited written flags version rfl
    obtain ⟨htarget, hband, honly⟩ := restoreBand_spec hrestore
    have hread : ∀ m : List Happening, ∀ settings u,
        Event.own u .getSettings (.ok settings) ∈ profileHistory m →
        ∃ u, Event.own u (.edit .getSettings) (.ok settings) ∈ m := by
      intro m settings u hmem
      obtain ⟨e, he, hseen⟩ := List.mem_filterMap.mp hmem
      obtain ⟨u', -, rfl⟩ := seen_eq_own hseen
      exact ⟨u', he⟩
    -- the settings were read once
    have honce : ∀ settings u, Event.own u .getSettings (.ok settings) ∈ profileHistory l₁ →
        settings = edit.original := by
      intro settings u hmem
      have hin : settings ∈ (record (profileHistory l₁)).reads :=
        List.mem_filterMap.mpr ⟨_, hmem, rfl⟩
      rw [hreads] at hin
      exact List.mem_singleton.mp hin
    refine ⟨edit.original, edit.settings, ?_, htarget, hband, honly,
      Prepared.carried hprepared hremember, fun hok => ?_⟩
    · have hin : edit.original ∈ (record (profileHistory l₁)).reads := by
        rw [hreads]
        exact List.mem_singleton_self _
      obtain ⟨e, he, hsettings⟩ := List.mem_filterMap.mp hin
      obtain ⟨u, rfl⟩ := settingsRead_eq_some hsettings
      exact hread l₁ _ u he
    · subst hok
      obtain ⟨l, u, first, m, hl₁, -, ⟨u', hmem⟩, hquiet⟩ := hlossless trivial
      have hsame : t.profile.settings = edit.original := by
        refine honce _ u' ?_
        rw [hl₁]
        exact List.mem_append_right l (List.mem_cons_of_mem _ hmem)
      obtain ⟨m₁, m₂, rfl, -, hm₂⟩ := List.filterMap_eq_append_iff.mp hl₁
      refine ⟨hsame, m₁, m₂, rfl, ?_, fun settings more hrival => ?_⟩
      · refine hread m₂ _ u' ?_
        rw [← hsame]
        change _ ∈ m₂.filterMap seen
        rw [hm₂]
        exact List.mem_cons_of_mem _ hmem
      · have hin : Event.rival (.edit settings more) ∈ m₂.filterMap seen :=
          List.mem_filterMap.mpr ⟨_, hrival, rfl⟩
        rw [hm₂] at hin
        rcases List.mem_cons.mp hin with hin | hin
        · cases hin
        · exact hquiet _ hin trivial
  · subst hp
    exact h.result hwp fun tr s a s' hupdated _ => hupdated.append _

/-- A profile of a network, with the band it is bound to. -/
def boundTo (id : String) (band : Option String) : ConnectionSettings :=
  tableOf [("connection", tableOf [("uuid", .str "u"), ("id", .str id)]),
    ("802-11-wireless", tableOf (("ssid", .array "y" [.byte 104]) ::
      (band.map fun band => ("band", Value.str band)).toList))]

def homeScope : Scope where
  destination := ":1.5"
  path := "/profile/1"
  displaySsid := fun _ => "h"
  raise := fun message => ⟨[message], .inr (.internalError, .internal, [])⟩

def homeDevice : Hotspot.WifiDevice := ⟨"/device/1", "wlan0"⟩

/-- A selection that began with a profile that was bound to no band. -/
def homeChange : BandChange where
  device := homeDevice
  before := ⟨"/profile/1", "home", "h", "wlan0", .ghz24, .auto, [.ghz24, .ghz5]⟩
  ssidBytes := [104]
  original := boundTo "home" none

/-- The answers of a NetworkManager that always answers, with the profile in a version. -/
def answers (version : ℕ) (settings : ConnectionSettings) : (c : Ask) → Option (Reply c)
  | .edit call => some (answering ":1.5" "/etc/NetworkManager/system-connections/home" 2 ∅
      ⟨version, settings⟩ call)
  | .activeConnection _ => some (.ok "/active/1")
  | .connectionOf _ => some (.ok "/profile/1")
  | .activate _ _ => some (.ok ())
  | _ => none

/-- The profile was renamed since the band was written; the rollback keeps the name. -/
theorem rollback_touches_band_renamed :
    ∃ (tr : List Happening) (s : World), Exec (bandWorld (networkManager id))
      ⟨⟨6, boundTo "renamed" (some "a")⟩, false⟩
      (rollbackBandChange homeScope homeChange .ghz5) tr s (.done (.ok ())) ∧
      selectedBand s.profile.settings = .auto ∧
      field s.profile.settings "connection" "id" = some (.str "renamed") ∧ Updated tr := by
  have hexec : Exec (bandWorld (networkManager id)) _ _ _ _ _ :=
    Exec.drive (answers 6 (boundTo "renamed" (some "a")))
      ⟨⟨6, boundTo "renamed" (some "a")⟩, false⟩ (rollbackBandChange homeScope homeChange .ghz5)
  refine ⟨_, _, hexec, ?_, ?_, (rollback_touches_band id homeScope homeChange .ghz5 hexec).2 rfl⟩
  · decide +kernel
  · decide +kernel

end Band

end NmDaemon
