import NmDaemon.BandOutcomes
import NmDaemon.TemporaryJoin

/-!
# Private profiles that name a directory of CA certificates

`validate_private_ca_paths` is to keep such profiles from being activated. It is called where
settings are built and where a profile is activated, but not in `nm/band.rs`. Here every call that
adds or activates a profile is followed back to the check: no operation ever asks for a profile that
is restricted, except for the band selection of a profile that is restricted when the selection
begins (`private_trust_kept`), which writes the band, activates the profile and, if that fails,
activates it once more (`band_selection_activates_restricted`).

* `undisturbed` — NetworkManager, while no other client edits a profile;
* `ends_profileEdit_trusted`, `ends_commit_trusted` — what an edit leaves behind;
* `keeps_selectWifiBand` — a band selection does not make a profile restricted;
* `ends_prepareSavedActivation`, `ends_addAndActivateWifiConnectionFor_trusted` — what is activated
  for a target was checked.
-/

namespace NmDaemon

open Client
open Credentials (field Address Container SameExcept)
open ProfileSettings

/-! ## Edits -/

namespace Profiles

variable {keep : ConnectionSettings → ConnectionSettings} {s s' : Profile}
  {settings written : ConnectionSettings}

/-- NetworkManager, while no other client edits the profile. -/
def undisturbed (keep : ConnectionSettings → ConnectionSettings) :
    Service Profile Call Reply Foreign where
  serve := serve keep
  rival s
    | .edit _ _ => none
    | .readSecrets => foreign s .readSecrets

theorem settings_of_rival {a : Foreign} (h : (undisturbed keep).rival s a = some s') :
    s'.settings = s.settings := by
  cases a with
  | edit settings more => cases h
  | readSecrets =>
    cases h
    rfl

/-- Only an update that is accepted changes the settings. -/
theorem settings_of_serve {c : Call} {r : Reply c} (h : serve keep s c r = some s') :
    s'.settings = (accepted (.own s c r)).elim s.settings fun written =>
      if written.entries = [] then s.settings else keep written := by
  by_cases hread : c.IsRead
  · have hsame : s' = s := serve_read hread h
    cases c with
    | update2 => exact hread.elim
    | _ => exact congrArg Profile.settings hsame
  · cases c with
    | getSecrets section' =>
      rcases r with e | secrets
      · cases h
        rfl
      · cases h
        rfl
    | update2 written flags version =>
      rcases r with e | u
      · cases h
        rfl
      · obtain ⟨-, h⟩ := Option.ite_none_right_eq_some.mp h
        cases h
        rfl
    | _ => exact (hread trivial).elim

variable {replies : Profiles.Replies}

/-- A field that is no secret is written as it is in the settings. -/
theorem field_of_carried (h : Band.Carried settings replies written) {section' key : String}
    (hcontainer : ¬ Container section' key) (hpublic : ¬ (Address.flat section' key).Supported) :
    field written section' key = field settings section' key := by
  rw [Band.Carried] at h
  split_ifs at h
  · exact h.1.field_eq section' key hcontainer hpublic
  · rw [h]

/-- What is written for settings is restricted if they are. -/
theorem restricted_of_carried (h : Band.Carried settings replies written) :
    Restricted written ↔ Restricted settings := by
  refine restricted_of_trustFields fun e he => field_of_carried h ?_ ?_
  · rintro (⟨hsection, -⟩ | ⟨hsection, -⟩)
    all_goals
      revert e
      decide
  · revert e
    decide

/-- What is written for a profile with a uuid is not empty. -/
theorem entries_of_carried (h : Band.Carried settings replies written)
    (huuid : (profileUuid settings).isSome = true) : written.entries ≠ [] := by
  intro hempty
  have hcontainer : ¬ Container "connection" "uuid" := by
    rintro (⟨hsection, -⟩ | ⟨hsection, -⟩)
    all_goals exact absurd hsection (by decide)
  have hnone : field settings "connection" "uuid" = none := by
    rw [← field_of_carried h hcontainer (by decide), field, AList.lookup, hempty]
    rfl
  have hsame : profileUuid settings = (field settings "connection" "uuid").bind Value.asStr :=
    (Option.bind_assoc _ _ _).symm
  rw [hsame, hnone] at huuid
  cases huuid

section Commit

variable (hkeep : ∀ σ, Restricted (keep σ) → Restricted σ)
include hkeep

/-- An update of settings that are not restricted. -/
theorem trusted_of_update {s s' : Profile} {c : Call} {r : Reply c}
    (hserve : serve keep s c r = some s') (hs : ¬ Restricted s.settings)
    (hwritten : ∀ written, accepted (.own s c r) = some written → ¬ Restricted written) :
    ¬ Restricted s'.settings := by
  rw [settings_of_serve hserve]
  cases haccepted : accepted (.own s c r) with
  | none => exact hs
  | some written =>
    rw [Option.elim_some]
    split_ifs
    · exact hs
    · exact fun h => hwritten written haccepted (hkeep written h)

/-- A snapshot leaves the profile alone. -/
theorem ends_begin_trusted (destination : String) :
    Ends (undisturbed keep) (fun _ s _ _ => ¬ Restricted s.settings)
      (fun tr s => tr = [] ∧ ¬ Restricted s.settings) (beginProfileEdit destination false)
      (fun _ _ s => ¬ Restricted s.settings) fun _ _ s => ¬ Restricted s.settings := by
  have hbegin : Ends (undisturbed keep) (fun _ _ c _ => ∀ written flags version,
      c ≠ .update2 written flags version) _ (beginProfileEdit destination false) _ _ :=
    ends_beginProfileEdit (fun _ _ _ _ h => h) destination false
  have hinvariant := hbegin.invariant (J := fun _ s => ¬ Restricted s.settings)
    (fun tr s a s' h hstep => mt (congrArg Restricted (settings_of_rival hstep)).mp h) ?_
  · refine (hinvariant.promise fun _ _ _ _ h => h.2).conseq ?_ (fun _ _ _ h => h.2)
      fun _ _ _ h => h.2
    rintro tr s ⟨rfl, hs⟩
    exact ⟨rfl, hs⟩
  · intro tr s c r s' hs hG hserve
    refine trusted_of_update hkeep hserve hs fun written haccepted => ?_
    obtain ⟨t, flags, version, hevent⟩ := accepted_eq_some haccepted
    cases hevent
    exact absurd rfl (hG written flags version)

/-- An edit that makes nothing restricted leaves the profile as it should be. -/
theorem ends_profileEdit_trusted (destination : String)
    {change : ConnectionSettings → Except String ConnectionSettings} (blockAutoconnect : Bool)
    (hchange : ∀ σ σ', change σ = .ok σ' → ¬ Restricted σ → ¬ Restricted σ') :
    Ends (undisturbed keep) (fun _ s _ _ => ¬ Restricted s.settings)
      (fun tr s => tr = [] ∧ ¬ Restricted s.settings)
      (profileEdit destination false change blockAutoconnect)
      (fun _ _ s => ¬ Restricted s.settings) fun _ _ s => ¬ Restricted s.settings := by
  have hedit : Ends (undisturbed keep) _ _ (profileEdit destination false change blockAutoconnect)
      _ _ := ends_profileEdit destination false change blockAutoconnect
  have hinvariant := hedit.invariant
    (J := fun tr s => ¬ Restricted s.settings ∧ ∀ σ ∈ (record tr).reads, ¬ Restricted σ) ?_ ?_
  · refine (hinvariant.promise fun _ _ _ _ h => h.2.1).conseq ?_ (fun _ _ _ h => h.2.1)
      fun _ _ _ h => h.2.1
    rintro tr s ⟨rfl, hs⟩
    exact ⟨rfl, hs, fun σ hσ => absurd hσ List.not_mem_nil⟩
  · rintro tr s a s' ⟨hs, hreads⟩ hstep
    rw [record_quiet rfl rfl, settings_of_rival hstep]
    exact ⟨hs, hreads⟩
  · rintro tr s c r s' ⟨hs, hreads⟩ hG hserve
    constructor
    · refine trusted_of_update hkeep hserve hs fun written haccepted => ?_
      obtain ⟨t, flags, version, hevent⟩ := accepted_eq_some haccepted
      cases hevent
      obtain ⟨edit, hread, hedit, hremember, hprepared⟩ := hG written flags version rfl
      rw [restricted_of_carried (Band.Prepared.carried hprepared hremember)]
      refine hchange edit.original edit.settings hedit (hreads edit.original ?_)
      rw [hread]
      exact List.mem_singleton_self _
    · intro σ hσ
      rw [record_snoc] at hσ
      rcases List.mem_append.mp hσ with hσ | hσ
      · exact hreads σ hσ
      · obtain ⟨t, hevent⟩ := settingsRead_eq_some (Option.mem_toList.mp hσ)
        cases hevent
        rw [(serve_getSettings hserve).2]
        exact hs

/-- A commit that succeeds has written settings that are not restricted, if those of the edit are
not. -/
theorem ends_commit_trusted (destination : String) {edit : ProfileEdit} (blockAutoconnect : Bool)
    (hremember : edit.explicitRemember = false) (hedit : ¬ Restricted edit.settings) :
    Ends (undisturbed keep) (fun _ _ _ _ => True) (fun tr _ => tr = [])
      (commitCredentialEdit destination edit blockAutoconnect)
      (fun _ _ s => ¬ Restricted s.settings) fun _ _ _ => True := by
  by_cases huuid : profileUuid edit.settings = some edit.uuid
  · have hcommit : Ends (undisturbed keep) (firstUpdate []) _
        (commitCredentialEdit destination edit blockAutoconnect) _ _ :=
      ends_commitCredentialEdit destination edit blockAutoconnect
    have hinvariant := (hcommit.and_triple
      (triple_commit_prepared destination edit blockAutoconnect)).invariant
      (J := fun tr s => (record tr).updates ≠ [] → ¬ Restricted s.settings) ?_ ?_
    · refine (hinvariant.promise fun _ _ _ _ _ => trivial).conseq ?_ ?_ fun _ _ _ _ => trivial
      · rintro tr s rfl
        exact ⟨⟨rfl, rfl⟩, fun h => absurd rfl h⟩
      · rintro _ tr s ⟨⟨⟨written, hat⟩, -⟩, hJ⟩
        refine hJ ?_
        rw [show record tr = _ from hat]
        exact List.cons_ne_nil _ _
    · intro tr s a s' hJ hstep
      rw [record_quiet rfl rfl, settings_of_rival hstep]
      exact hJ
    · rintro tr s c r s' hJ ⟨-, hG⟩ hserve hupdates
      rw [settings_of_serve hserve]
      rw [record_snoc] at hupdates
      cases haccepted : accepted (.own s c r) with
      | none =>
        rw [haccepted] at hupdates
        exact hJ fun hnone => hupdates (by rw [hnone]; rfl)
      | some written =>
        obtain ⟨t, flags, version, hevent⟩ := accepted_eq_some haccepted
        cases hevent
        have hcarried := Band.Prepared.carried (hG written flags version rfl) hremember
        rw [Option.elim_some, if_neg (entries_of_carried hcarried (by rw [huuid]; rfl))]
        exact fun h => hedit ((restricted_of_carried hcarried).mp (hkeep written h))
  · -- the identity of the profile is checked before anything is written
    have hany : ∀ {β : Type} {p : NmProgram β}, Ends (undisturbed keep) (fun _ _ _ _ => True)
        (fun _ _ => True) p (fun _ _ _ => True) fun _ _ _ => True := Ends.any
    refine Ends.conseq (P := fun _ _ => True) ?_ (fun _ _ _ => trivial) (fun _ _ _ h => h)
      fun _ _ _ h => h
    refine hany.bind fun _ => hany.bind fun owner => .ensure_bind (fun _ => ?_)
      fun _ _ _ _ => trivial
    refine hany.bind fun current => .ensure_bind (fun _ => ?_) fun _ _ _ _ => trivial
    exact .ensure_bind (fun h => absurd h huuid) fun _ _ _ _ => trivial

end Commit

end Profiles

/-! ## Band selections -/

namespace Band

open Profiles (undisturbed ends_profileEdit_trusted ends_begin_trusted settings_of_rival
  beginProfileEdit)

variable {keep : ConnectionSettings → ConnectionSettings} {scope : Scope} {requested : WifiBand}
  {settings changed original : ConnectionSettings} {applied : WifiBand} {α : Type}

/-- The band is not what makes a profile restricted. -/
theorem restricted_of_band
    (h : ∀ s k, ¬ (s = "802-11-wireless" ∧ k = "band") → field changed s k = field settings s k) :
    Restricted changed ↔ Restricted settings := by
  refine restricted_of_trustFields fun e he => h e.1 e.2 ?_
  revert e
  decide

theorem restricted_of_chooseBand (h : chooseBand original requested settings = .ok changed) :
    Restricted changed ↔ Restricted settings := by
  obtain ⟨_, -, h⟩ := Fallible.bind_eq_ok.mp h
  split_ifs at h
  cases h
  refine restricted_of_band fun s k hband => ?_
  rw [setSelectedBand_field, if_neg hband]

theorem restricted_of_restoreBand (h : restoreBand original applied settings = .ok changed) :
    Restricted changed ↔ Restricted settings := by
  refine restricted_of_band fun s k hband => ?_
  rw [(restoreBand_spec h).2.2.1, if_neg hband]

/-- The profile is not restricted. -/
def Trusted (s : World) : Prop := ¬ Restricted s.profile.settings

theorem trusted_stable : Stable (bandWorld (undisturbed keep)) fun _ s => Trusted s := by
  intro tr s a s' h hstep
  cases a with
  | cancel =>
    cases hstep
    exact h
  | profile action =>
    obtain ⟨profile, hrival, rfl⟩ := Option.map_eq_some_iff.mp hstep
    rw [Trusted, settings_of_rival hrival]
    exact h

theorem serve_other {nm : Service Profiles.Profile Profiles.Call Profiles.Reply Profiles.Foreign}
    {c : Ask} {r : Reply c} {s s' : World} (hc : ∀ call, c ≠ .edit call)
    (h : (bandWorld nm).serve s c r = some s') : s' = s := by
  cases c with
  | edit call => exact absurd rfl (hc call)
  | cancelled check => exact (Option.some.inj (Option.ite_none_right_eq_some.mp h).2).symm
  | _ => exact (Option.some.inj h).symm

/-- No call cancels the request. -/
theorem cancelled_of_serve
    {nm : Service Profiles.Profile Profiles.Call Profiles.Reply Profiles.Foreign} {c : Ask}
    {r : Reply c} {s s' : World} (h : (bandWorld nm).serve s c r = some s') :
    s'.cancelled = s.cancelled := by
  cases c with
  | edit call =>
    obtain ⟨profile, -, rfl⟩ := Option.map_eq_some_iff.mp h
    rfl
  | _ => rw [serve_other (fun _ hc => by cases hc) h]

/-- The calls that do not edit the profile. -/
theorem keeps_ask (c : Ask) {f : Reply c → Except AnyError α} (hc : ∀ call, c ≠ .edit call) :
    Keeps (bandWorld (undisturbed keep)) Trusted (ask c f) := by
  refine Keeps.ask trusted_stable fun s r s' h hserve => ?_
  rw [serve_other hc hserve]
  exact h

theorem keeps_checkBandCancelled (check : Check) :
    Keeps (bandWorld (undisturbed keep)) Trusted (checkBandCancelled check) := by
  rw [checkBandCancelled_eq]
  exact keeps_ask _ fun _ h => by cases h

section Selection

variable (hkeep : ∀ σ, Restricted (keep σ) → Restricted σ)
include hkeep

theorem keeps_edit {change : ConnectionSettings → Except String ConnectionSettings}
    (hchange : ∀ σ σ', change σ = .ok σ' → ¬ Restricted σ → ¬ Restricted σ') :
    Keeps (bandWorld (undisturbed keep)) Trusted
      (edit scope (Profiles.profileEdit scope.destination false change false)) :=
  (profilePart (undisturbed keep)).ends_perform
    (ends_profileEdit_trusted hkeep scope.destination false hchange) (fun _ _ h => ⟨rfl, h⟩)
    (fun _ _ _ _ _ _ _ _ h => h) (fun _ _ _ _ _ _ _ h => h) fun _ _ _ _ _ _ _ h => h

theorem keeps_rollbackBandChange (change : BandChange) :
    Keeps (bandWorld (undisturbed keep)) Trusted (rollbackBandChange scope change requested) := by
  refine .bind (keeps_edit hkeep fun σ σ' h => mt (restricted_of_restoreBand h).mp) fun _ => ?_
  refine .bind ?_ fun _ => keeps_ask _ fun _ h => by cases h
  refine .bind (keeps_ask _ fun _ h => by cases h) fun active => ?_
  split_ifs
  · exact .pure ()
  · exact .bind (keeps_ask _ fun _ h => by cases h) fun current => .ensure _ _

theorem keeps_commitBandChange (change : BandChange) :
    Keeps (bandWorld (undisturbed keep)) Trusted (commitBandChange scope change requested) := by
  refine .bind (keeps_edit hkeep fun σ σ' h => mt (restricted_of_chooseBand h).mp) fun _ => ?_
  refine .handle (.bind ?_ fun _ => keeps_checkBandCancelled _) fun error => ?_
  · refine .bind (keeps_checkBandCancelled _) fun _ => ?_
    refine .bind (keeps_ask _ fun _ h => by cases h) fun _ => ?_
    refine .bind (keeps_ask _ fun _ h => by cases h) fun _ => ?_
    exact .bind (keeps_ask _ fun _ h => by cases h) fun status => .lift _
  · refine .bind (.attempt (keeps_rollbackBandChange hkeep change)) fun result => ?_
    cases result with
    | error rollback => exact .throw _
    | ok u => exact .bind (keeps_ask _ fun _ h => by cases h) fun cancelled => .throw _

theorem keeps_prepareBandChange (before : WifiBandStatus) :
    Keeps (bandWorld (undisturbed keep)) Trusted (prepareBandChange scope before) := by
  have hbegin : Keeps (bandWorld (undisturbed keep)) Trusted
      (edit scope (beginProfileEdit scope.destination false)) :=
    (profilePart (undisturbed keep)).ends_perform (ends_begin_trusted hkeep scope.destination)
      (fun _ _ h => ⟨rfl, h⟩) (fun _ _ _ _ _ _ _ _ h => h) (fun _ _ _ _ _ _ _ h => h)
      fun _ _ _ _ _ _ _ h => h
  refine .bind (keeps_ask _ fun _ h => by cases h) fun devices => .bind (.lift _) fun device => ?_
  refine .bind (keeps_ask _ fun _ h => by cases h) fun settings => .bind (.lift _) fun profile => ?_
  exact .bind hbegin fun begun => .pure _

theorem keeps_selectWifiBand :
    Keeps (bandWorld (undisturbed keep)) Trusted (selectWifiBand scope requested) := by
  refine .bind (keeps_checkBandCancelled _) fun _ => .bind (keeps_checkBandCancelled _) fun _ => ?_
  refine .bind (keeps_ask _ fun _ h => by cases h) fun before => .bind (.lift _) fun _ => ?_
  split_ifs
  · exact .pure _
  · refine .bind (keeps_prepareBandChange hkeep before) fun change => ?_
    refine .bind (keeps_commitBandChange hkeep change) fun _ => ?_
    exact .bind (keeps_ask _ fun _ h => by cases h) fun after => .pure _

/-- A selection for a profile that is not restricted never makes a call while it is. -/
theorem wp_runBandWorker_trusted {tr : List Happening} {s : World} (hs : Trusted s) :
    wp (bandWorld (undisturbed keep)) (fun _ s _ _ => Trusted s) (fun _ _ _ => True)
      (runBandWorker scope requested) tr s := by
  have hselect : Keeps (bandWorld (undisturbed keep)) Trusted (do
      let result ← selectBand scope requested
      ensureCurrentOwner scope.destination (ask .currentOwner id) .ofDomain
      pure result : Process WifiBandSelectionResult) := by
    refine .bind (.handle (keeps_selectWifiBand hkeep) fun error => .throw _) fun result => ?_
    refine .bind ?_ fun _ => .pure _
    unfold ensureCurrentOwner
    split_ifs
    · exact .bind (keeps_ask _ fun _ h => by cases h) fun owner => .ensure _ _
    · exact .pure ()
  refine wp_bind _ _ tr s (wp_mono ?_ _ tr s (hselect tr s hs))
  rintro (error | result) tr s h
  · trivial
  · intro tr' s' hrivals cancelled s'' _
    exact ⟨trusted_stable.rivals hrivals h, trivial⟩

end Selection

end Band

/-! ## Every activation -/

namespace Activate

open Connection (WifiActivation)
open Profiles (undisturbed settings_of_rival ends_commit_trusted beginProfileEdit Profile Foreign
  ends_beginProfileEdit commitCredentialEdit)
open WifiSettings (applyTargetConnectionMetadata applyTargetConnectionMetadata_spec
  savedActivationChange)

/-- The settings of the profile that a call adds or activates. -/
def activated (w : World) : Ask → Option ConnectionSettings
  | .activate path _ _ | .band path (.activate _ _) => some (w.profiles path).settings
  | .addAndActivate settings _ _ _ => some settings
  | _ => none

/-- No profile is added or activated that is restricted. -/
def TrustKept : Guarantee World Ask Reply Action := fun _ w c _ =>
  ∀ settings, activated w c = some settings → ¬ Restricted settings

theorem trustKept_of_none {tr : List Happening} {w : World} {c : Ask} {r : Reply c}
    (h : activated w c = none) : TrustKept tr w c r := by
  intro settings hsettings
  rw [h] at hsettings
  exact absurd hsettings.symm (Option.some_ne_none settings)

variable {keep : ConnectionSettings → ConnectionSettings} {session : Session}
  {target : WifiConnectTarget} {password : Option String} {wepKeyType : Option WepKeyType}
  {path : String} {settings : ConnectionSettings}

/-! ## Saved profiles -/

/-- The profile is not restricted. -/
def Trusted (path : String) (w : World) : Prop := ¬ Restricted (w.profiles path).settings

theorem settings_stable : Stable (activationWorld keep (undisturbed keep)) fun _ w =>
    (w.profiles path).settings = settings := by
  intro tr w a w' h hstep
  cases a with
  | cancel =>
    cases hstep
    exact h
  | profile path' action =>
    obtain ⟨profile, hrival, hstep⟩ := Option.bind_eq_some_iff.mp hstep
    obtain ⟨-, hstep⟩ := Option.ite_none_right_eq_some.mp hstep
    cases hstep
    rw [World.profiles_setProfile]
    split_ifs with hpath
    · rw [settings_of_rival hrival, ← hpath]
      exact h
    · exact h

theorem trusted_stable : Stable (activationWorld keep (undisturbed keep)) fun _ w =>
    Trusted path w := by
  intro tr w a w' h hstep
  have hsame : (w'.profiles path).settings = (w.profiles path).settings :=
    settings_stable tr w a w' rfl hstep
  rw [Trusted, hsame]
  exact h

variable {α : Type}

/-- A part that keeps trust: what is known of the world before it, and of its result. -/
abbrev KeepsTrust (keep : ConnectionSettings → ConnectionSettings) (P : World → Prop)
    (p : Process α) (Q : α → World → Prop) : Prop :=
  Ends (activationWorld keep (undisturbed keep)) TrustKept (fun _ w => P w) p (fun a _ w => Q a w)
    fun _ _ _ => True

/-- It does so in any world. -/
abbrev Trustful (keep : ConnectionSettings → ConnectionSettings) (p : Process α) : Prop :=
  KeepsTrust keep (fun _ => True) p fun _ _ => True

/-- A call that neither adds nor activates anything. -/
theorem ends_other {I : World → Prop} (c : Ask) (hc : c.IsQuiet)
    {f : Reply c → Except AnyError α}
    (hI : Stable (activationWorld keep (undisturbed keep)) fun _ w => I w)
    (hnone : ∀ w, activated w c = none) :
    KeepsTrust keep I (ask c f) fun _ => I :=
  (ends_quiet hI c hc fun _ w _ _ => trustKept_of_none (hnone w)).imp_error fun _ _ _ _ => trivial

theorem true_stable : Stable (activationWorld keep (undisturbed keep)) fun _ _ => True :=
  fun _ _ _ _ _ _ => trivial

theorem trustful_ask (c : Ask) (hc : c.IsQuiet) (hnone : ∀ w, activated w c = none)
    {f : Reply c → Except AnyError α} : Trustful keep (ask c f) :=
  ends_other c hc true_stable hnone

/-- The settings of a profile are read. -/
theorem ends_settings (path : String) :
    KeepsTrust keep (fun _ => True) (ask (.settings path) id)
      fun settings w => (w.profiles path).settings = settings := by
  refine .ask true_stable fun tr w r w' _ hserve => ⟨trustKept_of_none rfl, ?_⟩
  cases r with
  | error e => trivial
  | ok settings =>
    have hsame : w' = w := serve_quiet (c := .settings path) trivial hserve
    rw [hsame]
    exact (serve_settings hserve).symm

/-- And checked. -/
theorem ends_validate (path : String) (settings : ConnectionSettings) :
    KeepsTrust keep (fun w => (w.profiles path).settings = settings)
      (lift (WifiSettings.domain (validatePrivateCaPaths .connect settings)))
      fun _ => Trusted path := by
  refine .lift fun tr w h => ?_
  cases hvalid : validatePrivateCaPaths .connect settings with
  | error e => trivial
  | ok u =>
    change ¬ Restricted (w.profiles path).settings
    rw [h]
    exact (validatePrivateCaPaths_eq_ok .connect settings).mp hvalid

section Saved

variable (hkeep : ∀ σ, Restricted (keep σ) → Restricted σ)
include hkeep

theorem ends_prepareSavedActivation (path : String) :
    KeepsTrust keep (fun _ => True) (prepareSavedActivation session target password wepKeyType path)
      fun _ => Trusted path := by
  unfold prepareSavedActivation
  split_ifs
  · refine (trustful_ask (.visibleAccessPoint target) trivial fun _ => rfl).bind
      fun visible => ?_
    have hbegin : KeepsTrust keep (fun _ => True)
        (edit session path (beginProfileEdit session.destination false))
        fun begun _ => begun.explicitRemember = false ∧ True :=
      (profilePart keep (undisturbed keep) path).ends_perform
        (ends_beginProfileEdit (G := fun _ _ _ _ => True) (fun _ _ _ _ _ => trivial)
          session.destination false)
        (fun _ _ _ => rfl) (fun _ _ _ _ _ _ _ _ _ => trustKept_of_none rfl)
        (fun _ _ _ _ _ _ _ h => ⟨h.2.1, trivial⟩) fun _ _ _ _ _ _ _ _ => trivial
    refine hbegin.bind fun begun => .assume fun hremember => ?_
    refine .lift_bind (fun settings hsettings => ?_) fun _ _ _ _ _ => trivial
    have htrusted : ¬ Restricted settings := by
      obtain ⟨applied, -, hmetadata⟩ := Fallible.bind_eq_ok.mp hsettings
      exact (applyTargetConnectionMetadata_spec hmetadata).2
    exact (profilePart keep (undisturbed keep) path).ends_perform
      (ends_commit_trusted hkeep session.destination true hremember htrusted)
      (fun _ _ _ => rfl) (fun _ _ _ _ _ _ _ _ _ => trustKept_of_none rfl)
      (fun _ _ _ _ _ _ _ h => h) fun _ _ _ _ _ _ _ _ => trivial
  · exact (ends_settings path).bind fun settings => ends_validate path settings

theorem ends_activateSaved :
    Trustful keep (activateSavedWifiConnectionFor session target password wepKeyType) := by
  unfold activateSavedWifiConnectionFor
  split_ifs
  · exact .pure fun _ _ _ => trivial
  · refine (trustful_ask (.savedTarget target) trivial fun _ => rfl).bind fun found => ?_
    rcases found with _ | ⟨path, device, specificObject⟩
    · exact .pure fun _ _ _ => trivial
    · refine (ends_prepareSavedActivation hkeep path).bind fun _ => ?_
      refine (ends_other (.settings path) trivial trusted_stable fun _ => rfl).bind
        fun settings => ?_
      refine (ends_other (.openScope settings path) trivial trusted_stable fun _ => rfl).bind
        fun scope => ?_
      refine .bind (ends_activating (Q := fun _ _ _ => True) scope _ trusted_stable true_stable
        (fun tr w r w' h _ => ⟨fun settings hsettings => ?_, ?_⟩)
        (fun _ _ _ _ => trustKept_of_none rfl) fun _ _ _ => trustKept_of_none rfl)
        fun active => .pure fun _ _ _ => trivial
      · cases hsettings
        exact h
      · cases r <;> trivial

end Saved

/-! ## New profiles -/

theorem restricted_submitted (temporary : Bool) (uuid : String) :
    Restricted (submitted temporary settings uuid) ↔ Restricted settings := by
  have huuid : ∀ σ, Restricted (withUuid σ uuid) ↔ Restricted σ := by
    refine fun σ => restricted_of_trustFields fun e he => ?_
    rw [field_withUuid, if_neg]
    revert e
    decide
  rw [submitted, huuid]
  split_ifs
  · exact restricted_makeTemporary settings
  · rfl

theorem ends_addAndActivate_trusted (hsettings : ¬ Restricted settings)
    (device specificObject : String) :
    Trustful keep (addAndActivate session target settings device specificObject) := by
  unfold addAndActivate
  refine (trustful_ask .freshUuid trivial fun _ => rfl).bind fun uuid => ?_
  refine (trustful_ask (.openScope _ "/") trivial fun _ => rfl).bind fun scope => ?_
  refine .bind (ends_activating (Q := fun _ _ _ => True) scope _ true_stable true_stable
    (fun tr w r w' _ _ => ⟨fun σ hσ => ?_, ?_⟩)
    (fun _ _ _ _ => trustKept_of_none rfl) fun _ _ _ => trustKept_of_none rfl)
    fun active => .pure fun _ _ _ => trivial
  · cases hσ
    exact mt (restricted_submitted _ uuid).mp hsettings
  · cases r <;> trivial

/-- Settings are checked before they are submitted. -/
theorem ends_submit_trusted (device specificObject : String) :
    Trustful keep (do
      let before ← lift (applyTargetConnectionMetadata (session.typed target) session.user settings)
      let activation ← addAndActivate session target before device specificObject
      pure (some activation)) := by
  refine .lift_bind (fun before hbefore => ?_) fun _ _ _ _ _ => trivial
  exact (ends_addAndActivate_trusted (applyTargetConnectionMetadata_spec hbefore).2 device
    specificObject).bind fun activation => .pure fun _ _ _ => trivial

theorem ends_addAndActivateWifiConnectionFor_trusted :
    Trustful keep (addAndActivateWifiConnectionFor session target password wepKeyType) := by
  unfold addAndActivateWifiConnectionFor
  split_ifs
  · refine (trustful_ask (.wifiDevices target) trivial fun _ => rfl).bind fun devices => ?_
    rcases devices with _ | ⟨device, others⟩
    · exact .pure fun _ _ _ => trivial
    · refine (trustful_ask (.hiddenScan device.path target.ssid.bytes) trivial fun _ => rfl).bind fun _ => ?_
      exact .lift_bind (fun hidden _ => ends_submit_trusted device.path "/")
        fun _ _ _ _ _ => trivial
  · refine (trustful_ask (.visibleAccessPoint target) trivial fun _ => rfl).bind
      fun found => ?_
    rcases found with _ | ⟨device, apPath, ap⟩
    · exact .pure fun _ _ _ => trivial
    · have hsettings : Trustful keep
          (visibleActivationSettings session target password wepKeyType device ap) := by
        have hbuild : ∀ saved, Trustful keep
            (lift (settingsForAccessPoint session target password wepKeyType saved ap)) := by
          refine fun saved => .lift fun tr w _ => ?_
          cases settingsForAccessPoint session target password wepKeyType saved ap <;> trivial
        unfold visibleActivationSettings
        split_ifs
        · exact (trustful_ask (.savedSettings ap device) trivial fun _ => rfl).bind hbuild
        · exact hbuild none
      refine hsettings.bind fun settings => ?_
      rcases settings with _ | visible
      · exact .pure fun _ _ _ => trivial
      · exact ends_submit_trusted device.path apPath

/-! ## Every operation -/

theorem ends_activateNetworkProfile (selector : ProfileSelector) :
    Trustful keep (activateNetworkProfile selector) := by
  refine (trustful_ask (.selectProfile selector) trivial fun _ => rfl).bind
    fun profile => ?_
  refine (ends_settings profile.path).bind fun settings =>
    (ends_validate profile.path settings).bind fun _ => ?_
  have hactivate : KeepsTrust keep (Trusted profile.path)
      (ask (.activate profile.path (profile.device.getD "/") "/") fun r =>
        r.mapError (AnyError.context ("ActivateConnection for profile " ++ profile.id)))
      fun _ _ => True := by
    refine .ask trusted_stable fun tr w r w' h _ => ⟨fun settings hsettings => ?_, ?_⟩
    · cases hsettings
      exact h
    · cases r <;> trivial
  refine hactivate.bind fun active => ?_
  exact (trustful_ask (.activeSummary active) trivial fun _ => rfl).bind
    fun summary => .pure fun _ _ _ => trivial

/-- A band selection sees one profile. -/
def bandPart (keep : ConnectionSettings → ConnectionSettings)
    (nm : Service Profile Profiles.Call Profiles.Reply Foreign) (path : String) :
    Part (Band.bandWorld nm) (activationWorld keep nm) where
  call := .band path
  reply _ reply := reply
  state w := w.forBand path
  action
    | .profile path' action => if path' = path then some (.profile action) else none
    | .cancel => some .cancel
  seen
    | .own w (.band path' call) reply =>
      if path' = path then some (.own (w.forBand path) call reply) else none
    | .rival (.profile path' action) =>
      if path' = path then some (.rival (.profile action)) else none
    | .rival .cancel => some (.rival .cancel)
    | _ => none
  seen_own _ _ _ := if_pos rfl
  seen_rival
    | .profile path' action => by
      by_cases h : path' = path
      · simp only [if_pos h, Option.map_some]
      · simp only [if_neg h, Option.map_none]
    | .cancel => rfl
  serve w c r w' h := by
    obtain ⟨b, hserve, rfl⟩ := Option.map_eq_some_iff.mp h
    have hcancelled : b.cancelled = w.cancelled := Band.cancelled_of_serve hserve
    rw [hserve, World.forBand, World.profiles_setProfile, if_pos rfl]
    exact congrArg (fun cancelled => some (Band.World.mk b.profile cancelled)) hcancelled
  rival_some w a w' b h hb := by
    cases a with
    | cancel =>
      cases hb
      cases h
      rfl
    | profile path' action =>
      dsimp only at hb
      split_ifs at hb with hpath
      cases hb
      subst hpath
      obtain ⟨profile, hrival, h⟩ := Option.bind_eq_some_iff.mp h
      split_ifs at h
      cases h
      rw [World.forBand, World.forBand, World.profiles_setProfile, if_pos rfl]
      exact congrArg (Option.map _) hrival
  rival_none w a w' h hb := by
    cases a with
    | cancel => cases hb
    | profile path' action =>
      dsimp only at hb
      split_ifs at hb with hpath
      obtain ⟨profile, hrival, h⟩ := Option.bind_eq_some_iff.mp h
      split_ifs at h
      cases h
      rw [World.forBand, World.profiles_setProfile, if_neg (Ne.symm hpath)]
      rfl

section Runs

variable (hkeep : ∀ σ, Restricted (keep σ) → Restricted σ)
include hkeep

theorem wp_carry_trusted (c : Connection.Ask) (tr : List Happening) (w : World) :
    wp (activationWorld keep (undisturbed keep)) TrustKept (fun _ _ _ => True) (carry session c)
      tr w := by
  have hpass : ∀ {ask : Ask} {β : Type} {reply : Reply ask → β}, (∀ w, activated w ask = none) →
      wp (activationWorld keep (undisturbed keep)) TrustKept (fun _ _ _ => True)
        (.call ask fun r => .done (reply r)) tr w :=
    fun hnone _ w _ r _ _ => ⟨trustKept_of_none (hnone w), trivial⟩
  cases c with
  | activateSaved t p k =>
    exact wp_reported (ends_activateSaved hkeep) (fun _ _ _ _ => trivial)
      (fun _ _ _ _ _ => trivial) tr w trivial
  | addAndActivate t p k =>
    exact wp_reported ends_addAndActivateWifiConnectionFor_trusted (fun _ _ _ _ => trivial)
      (fun _ _ _ _ _ => trivial) tr w trivial
  | _ => exact hpass fun _ => rfl

theorem wp_run_trusted (op : Operation) {w : World}
    (hband : ∀ scope requested, op = .selectBand scope requested → Trusted scope.path w) :
    wp (activationWorld keep (undisturbed keep)) TrustKept (fun _ _ _ => True) (op.run session)
      [] w := by
  have hend : ∀ {β : Type} {p : Prog Ask Reply β} {Q : β → Assertion World Ask Reply Action},
      wp (activationWorld keep (undisturbed keep)) TrustKept Q p [] w →
      wp (activationWorld keep (undisturbed keep)) TrustKept (fun _ _ _ => True)
        (p.bind fun _ => .done ()) [] w :=
    fun hp => wp_bind _ _ [] w (wp_mono (fun _ _ _ _ => trivial) _ [] w hp)
  cases op with
  | connect target password wepKeyType =>
    have hmachine : wp (anything Connection.Ask Connection.Reply) (fun _ _ _ _ => True)
        (outcome (fun _ _ _ => True) fun _ _ _ => True)
        (Connection.connectTarget target password wepKeyType) [] () :=
      Ends.any (P := fun _ _ => True) [] () trivial
    exact hend (wp_refine (K := fun _ _ _ => True)
      (fun _ c tr w _ _ => wp_carry_trusted hkeep c tr w) _ [] [] w hmachine trivial)
  | activateProfile selector => exact hend (ends_activateNetworkProfile selector [] w trivial)
  | selectBand scope requested =>
    have hworker : wp _ _ _ (Band.runBandWorker scope requested) [] (w.forBand scope.path) :=
      Band.wp_runBandWorker_trusted hkeep (hband scope requested rfl)
    have hembed : wp (activationWorld keep (undisturbed keep)) TrustKept (fun _ _ _ => True)
        ((Band.runBandWorker scope requested).embed (.band scope.path) fun _ reply => reply)
        ([] ++ []) w := by
      refine wp_mono (fun _ _ _ _ => trivial) _ _ w
        ((bandPart keep (undisturbed keep) scope.path).wp_embed ?_ _ [] w
          (fun e he => absurd he List.not_mem_nil) hworker)
      intro m w c r _ hG settings hsettings
      cases c with
      | activate activation device =>
        cases hsettings
        exact hG
      | _ => exact absurd hsettings.symm (Option.some_ne_none settings)
    exact hend hembed

/-- **The trust of private profiles is kept.** While no other client edits a profile, no operation
asks NetworkManager to add or activate a profile that is restricted, whatever is answered: not a
connection to a network, saved, new, hidden or temporary, not the activation of any profile, and not
the selection of a band, if its profile was not restricted when it began. -/
theorem private_trust_kept (op : Operation) {s t : World}
    (hband : ∀ scope requested, op = .selectBand scope requested →
      ¬ Restricted (s.profiles scope.path).settings)
    {history : List Happening} {p : Prog Ask Reply Unit}
    (hexec : Exec (activationWorld keep (undisturbed keep)) s (op.run session) history t p) :
    ∀ l₁ l₂ w c r, history = l₁ ++ .own w c r :: l₂ →
      ∀ settings, activated w c = some settings → ¬ Restricted settings :=
  (hexec.sound (wp_run_trusted hkeep op hband)).2

end Runs

/-! ## Selections -/

def oneSaved (settings : ConnectionSettings) : World :=
  ⟨fun _ => ⟨6, settings⟩, ["/profile/1"], false⟩

/-- NetworkManager answers up to the wait for the connection. -/
def selectionAnswers (settings : ConnectionSettings) : (c : Ask) → Option (Reply c)
  | .band _ (.edit call) => some (Profiles.answering ":1.5"
      "/etc/NetworkManager/system-connections/home" 2 ∅ ⟨6, settings⟩ call)
  | .band _ (.cancelled _) => some false
  | .band _ (.readings _) =>
    some (.ok { Band.homeReadings "2.4 GHz" with profile := settings, settings })
  | .band _ .wifiDevices => some (.ok [Band.homeDevice])
  | .band _ .settings => some (.ok settings)
  | .band _ (.activate _ _) => some (.ok ())
  | _ => none

/-- The selection of the 5 GHz band for a profile. -/
def selection (settings : ConnectionSettings) : List Happening × World × Prog Ask Reply Unit :=
  drive (activationWorld id (undisturbed id)) (selectionAnswers settings) (oneSaved settings)
    (Operation.run forgetful (.selectBand Band.homeScope .ghz5))

/-- What a call adds or activates. -/
def activation : Happening → Option ConnectionSettings
  | .own w c _ => activated w c
  | .rival _ => none

/-- A profile for everyone is activated on the band. -/
theorem private_trust_kept_home :
    ¬ Restricted (Band.boundTo "home" none) ∧
      ((selection (Band.boundTo "home" none)).1.filterMap activation).length = 1 ∧
      ∀ l₁ l₂ w c r, (selection (Band.boundTo "home" none)).1 = l₁ ++ .own w c r :: l₂ →
        ∀ settings, activated w c = some settings → ¬ Restricted settings := by
  have hhome : ¬ Restricted (Band.boundTo "home" none) := by decide
  refine ⟨hhome, by decide +kernel, ?_⟩
  exact private_trust_kept (fun _ h => h) _ (fun _ _ _ => hhome)
    (Exec.drive (selectionAnswers (Band.boundTo "home" none)) (oneSaved (Band.boundTo "home" none))
      (Operation.run forgetful (.selectBand Band.homeScope .ghz5)))

/-- A profile for one user that trusts a directory of CA certificates. -/
def restrictedHome : ConnectionSettings :=
  tableOf [("connection", tableOf [("uuid", .str "u"), ("id", .str "home"),
      ("permissions", .array "s" [.str "user:alice:"])]),
    ("802-11-wireless", tableOf [("ssid", .array "y" [.byte 104])]),
    ("802-1x", tableOf [("ca-path", .str "/etc/ssl/certs")])]

/-- A band selection writes the band of such a profile and activates it. -/
theorem band_selection_activates_restricted : ∃ history t p,
    Exec (activationWorld id (undisturbed id)) (oneSaved restrictedHome)
      (Operation.run forgetful (.selectBand Band.homeScope .ghz5)) history t p ∧
    ∃ l₁ l₂ w c r settings, history = l₁ ++ .own w c r :: l₂ ∧ activated w c = some settings ∧
      Restricted settings := by
  refine ⟨_, _, _, Exec.drive (selectionAnswers restrictedHome) _ _, ?_⟩
  have hactivates : ((selection restrictedHome).1.filterMap activation).any
      (fun settings => Restricted settings) = true := by decide +kernel
  obtain ⟨settings, hsettings, hrestricted⟩ := List.any_eq_true.mp hactivates
  obtain ⟨e, he, hactivation⟩ := List.mem_filterMap.mp hsettings
  obtain ⟨l₁, l₂, hsplit⟩ := List.append_of_mem he
  cases e with
  | rival a => exact absurd hactivation.symm (Option.some_ne_none settings)
  | own w c r =>
    exact ⟨l₁, l₂, w, c, r, settings, hsplit, hactivation, of_decide_eq_true hrestricted⟩

end Activate

end NmDaemon
