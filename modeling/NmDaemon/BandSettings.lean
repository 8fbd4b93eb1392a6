import NmDaemon.Base.Machine
import NmDaemon.ProfileAdvanced

/-!
# The band of a profile

`nm/band.rs`, as far as it edits settings: a band selection writes the band of the profile
(`setSelectedBand`), and a rollback restores the band from before (`restoreBandFields`). Together
with the advanced updates these are the writers of a profile's band and channel.

A channel goes with a band it belongs to (`Consistent`). The writers of the band leave the channel
alone, and an update checks the two against each other only if it sends both:
`bandStep_consistent` says exactly when a step leaves them consistent, and `band_channel_kept` what
follows for runs.
-/

namespace NmDaemon

namespace ProfileSettings

open Credentials (field)

/-! ## Edits of the band -/

def selectedBand (settings : ConnectionSettings) : WifiBand :=
  (((field settings "802-11-wireless" "band").bind Value.asStr).map WifiBand.fromNmValue).getD .auto

def setSelectedBand (settings : ConnectionSettings) (band : WifiBand) : ConnectionSettings :=
  editSection settings "802-11-wireless" fun wireless =>
    match band.nmValue with
    | some value => wireless.insert "band" (.str value)
    | none => wireless.erase "band"

/-- The profile is still the one the operation began with. -/
def ensureSameBandTarget (current original : ConnectionSettings) : Except String Unit :=
  if field current "connection" "uuid" = field original "connection" "uuid" ∧
      field current "802-11-wireless" "ssid" = field original "802-11-wireless" "ssid" then .ok ()
  else .error "profile identity changed; band operation cancelled"

def restoreBandFields (current original : ConnectionSettings) (applied : WifiBand) :
    Except String ConnectionSettings :=
  if selectedBand current = applied then
    .ok (editSection current "802-11-wireless" fun section' =>
      match field original "802-11-wireless" "band" with
      | some value => section'.insert "band" value
      | none => section'.erase "band")
  else .error "band changed externally; recovery cancelled"

variable {settings settings' original : ConnectionSettings} {band applied : WifiBand}

theorem setSelectedBand_field (settings : ConnectionSettings) (band : WifiBand) (s k : String) :
    field (setSelectedBand settings band) s k =
      if s = "802-11-wireless" ∧ k = "band" then band.nmValue.map Value.str
      else field settings s k := by
  have hpatch : setSelectedBand settings band = editSection settings "802-11-wireless"
      (Patch.apply [("band", band.nmValue.map Value.str)]) := by
    cases band <;> rfl
  rw [hpatch, field_patchSection, Patch.last_cons]
  by_cases hs : s = "802-11-wireless"
  · subst hs
    by_cases hk : k = "band"
    · simp [hk]
    · simp [hk]
  · simp [hs]

theorem restoreBandFields_eq_ok :
    restoreBandFields settings original applied = .ok settings' ↔
      selectedBand settings = applied ∧ settings' = editSection settings "802-11-wireless"
        (Patch.apply [("band", field original "802-11-wireless" "band")]) := by
  have hpatch : (fun section' : Values =>
      match field original "802-11-wireless" "band" with
      | some value => section'.insert "band" value
      | none => section'.erase "band") =
      Patch.apply [("band", field original "802-11-wireless" "band")] := by
    cases field original "802-11-wireless" "band" <;> rfl
  rw [restoreBandFields, hpatch]
  by_cases h : selectedBand settings = applied
  · rw [if_pos h]
    exact ⟨fun hok => ⟨h, (Except.ok.inj hok).symm⟩, fun hok => hok.2 ▸ rfl⟩
  · rw [if_neg h]
    exact ⟨fun hok => (by cases hok), fun hok => absurd hok.1 h⟩

/-- A rollback restores the band and leaves the rest. -/
theorem restoreBandFields_field (h : restoreBandFields settings original applied = .ok settings')
    (s k : String) : field settings' s k =
      if s = "802-11-wireless" ∧ k = "band" then field original "802-11-wireless" "band"
      else field settings s k := by
  obtain ⟨-, rfl⟩ := restoreBandFields_eq_ok.mp h
  rw [field_patchSection, Patch.last_cons]
  by_cases hs : s = "802-11-wireless"
  · subst hs
    by_cases hk : k = "band"
    · simp [hk]
    · simp [hk]
  · simp [hs]

theorem selectedBand_congr {a b : ConnectionSettings}
    (h : field a "802-11-wireless" "band" = field b "802-11-wireless" "band") :
    selectedBand a = selectedBand b := by
  rw [selectedBand, selectedBand, h]

/-- A band that is written is the one that is read. -/
theorem selectedBand_of_field
    (h : field settings "802-11-wireless" "band" = band.nmValue.map Value.str) :
    selectedBand settings = band := by
  rw [selectedBand, h]
  cases band <;> rfl

/-! ## Band and channel -/

/-- The channel a profile is bound to; zero is none. -/
def selectedChannel (settings : ConnectionSettings) : UInt32 :=
  ((field settings "802-11-wireless" "channel").bind Value.asU32).getD 0

/-- A channel that is unset, or goes with a band it belongs to. -/
def Fits (channel : UInt32) (band : WifiBand) : Prop :=
  channel = 0 ∨ (band ≠ .auto ∧ channelIsInBand channel band = true)

instance (channel : UInt32) (band : WifiBand) : Decidable (Fits channel band) :=
  inferInstanceAs (Decidable (_ ∨ _))

def Consistent (settings : ConnectionSettings) : Prop :=
  Fits (selectedChannel settings) (selectedBand settings)

instance (settings : ConnectionSettings) : Decidable (Consistent settings) :=
  inferInstanceAs (Decidable (Fits _ _))

/-- What writes the band or the channel of a profile. -/
inductive BandStep : Type where
  | update (update : WifiProfileAdvancedUpdate)
  | select (band : WifiBand)
  | rollback (original : ConnectionSettings) (applied : WifiBand)

/-- A step; what is not accepted does not happen. -/
def bandStep (settings : ConnectionSettings) : BandStep → Option ConnectionSettings
  | .update update => (applyAdvanced settings update).toOption
  | .select band => some (setSelectedBand settings band)
  | .rollback original applied => (restoreBandFields settings original applied).toOption

/-- The channel and the band that a step leaves together fit: those that it sends or restores,
with those that are there. -/
def StepFits (settings : ConnectionSettings) : BandStep → Prop
  | .update update => Fits
      (update.channel.getD (if update.band = some .auto then 0 else selectedChannel settings))
      (update.band.getD (selectedBand settings))
  | .select band => Fits (selectedChannel settings) band
  | .rollback original _ => Fits (selectedChannel settings) (selectedBand original)

theorem bind_asU32_cleared (channel : Option UInt32) (before : Option Value) :
    ((((cleared 0 Value.u32 channel).getD before).bind Value.asU32).getD 0) =
      channel.getD ((before.bind Value.asU32).getD 0) := by
  cases channel with
  | none => rfl
  | some channel =>
    rw [cleared, Option.map_some, Option.getD_some, Option.getD_some]
    by_cases hzero : channel = 0
    · rw [if_pos hzero, hzero]
      rfl
    · rw [if_neg hzero]
      rfl

/-- The band and the channel after an update. -/
theorem applyAdvanced_band {update : WifiProfileAdvancedUpdate}
    (h : applyAdvanced settings update = .ok settings') :
    selectedBand settings' = update.band.getD (selectedBand settings) ∧
      selectedChannel settings' = update.channel.getD
        (if update.band = some .auto then 0 else selectedChannel settings) := by
  obtain ⟨-, rfl, -⟩ := applyAdvanced_eq_ok.mp h
  have hsent : ∀ k, sentOf (advancedFields clearedText update) "802-11-wireless" k =
      ((wirelessFields clearedText update).lookup k).join := fun k => rfl
  have hband : sentOf (advancedFields clearedText update) "802-11-wireless" "band" =
      update.band.map fun band => band.nmValue.map Value.str := by
    rw [hsent]
    rfl
  have hchannel : sentOf (advancedFields clearedText update) "802-11-wireless" "channel" =
      (cleared 0 Value.u32 update.channel).or
        (if update.band = some .auto then some none else none) := by
    rw [hsent]
    rfl
  constructor
  · cases hupdate : update.band with
    | none =>
      refine selectedBand_congr ?_
      rw [field_patched, hband, hupdate]
      rfl
    | some band =>
      refine selectedBand_of_field ?_
      rw [field_patched, hband, hupdate]
      rfl
  · rw [selectedChannel, field_patched, hchannel]
    by_cases hauto : update.band = some .auto
    · rw [if_pos hauto, if_pos hauto]
      cases update.channel with
      | none => rfl
      | some channel => exact bind_asU32_cleared (some channel) none
    · rw [if_neg hauto, if_neg hauto, Option.or_none]
      exact bind_asU32_cleared update.channel _

/-- **A step leaves band and channel consistent** exactly if what it leaves together fits. -/
theorem bandStep_consistent {step : BandStep} (h : bandStep settings step = some settings') :
    Consistent settings' ↔ StepFits settings step := by
  cases step with
  | update update =>
    have hok : applyAdvanced settings update = .ok settings' := by
      rw [bandStep] at h
      cases happly : applyAdvanced settings update with
      | error e => rw [happly] at h; cases h
      | ok result => rw [happly] at h; rw [Option.some.inj h]
    obtain ⟨hband, hchannel⟩ := applyAdvanced_band hok
    rw [Consistent, hband, hchannel]
    rfl
  | select band =>
    obtain rfl := Option.some.inj h
    have hband : selectedBand (setSelectedBand settings band) = band :=
      selectedBand_of_field (by rw [setSelectedBand_field, if_pos ⟨rfl, rfl⟩])
    have hchannel : selectedChannel (setSelectedBand settings band) = selectedChannel settings := by
      rw [selectedChannel, setSelectedBand_field, if_neg (by decide), selectedChannel]
    rw [Consistent, hband, hchannel]
    rfl
  | rollback original applied =>
    have hok : restoreBandFields settings original applied = .ok settings' := by
      rw [bandStep] at h
      cases hrestore : restoreBandFields settings original applied with
      | error e => rw [hrestore] at h; cases h
      | ok result => rw [hrestore] at h; rw [Option.some.inj h]
    have hband : selectedBand settings' = selectedBand original :=
      selectedBand_congr (by rw [restoreBandFields_field hok, if_pos ⟨rfl, rfl⟩])
    have hchannel : selectedChannel settings' = selectedChannel settings := by
      rw [selectedChannel, restoreBandFields_field hok, if_neg (by decide), selectedChannel]
    rw [Consistent, hband, hchannel]
    rfl

/-- A profile and the writers of its band and channel. -/
def bandWriters (settings : ConnectionSettings) : Machine ConnectionSettings BandStep Unit where
  start := settings
  step settings step := (bandStep settings step).map fun settings => (settings, ())

/-- **Band and channel stay consistent** in every run in which what each step leaves together
fits; and a step for which it does not is one that breaks it. -/
theorem band_channel_kept (settings : ConnectionSettings) (hstart : Consistent settings) :
    (∀ log reached, (bandWriters settings).Run settings log reached →
      (∀ before step after state, log = before ++ (step, ()) :: after →
        (bandWriters settings).Run settings before state → StepFits state step) →
      Consistent reached) ∧
    ∀ log state step reached, (bandWriters settings).Run settings log state →
      (bandWriters settings).step state step = some (reached, ()) →
      (Consistent reached ↔ StepFits state step) := by
  have hstep : ∀ state step reached,
      (bandWriters settings).step state step = some (reached, ()) →
      (Consistent reached ↔ StepFits state step) := by
    intro state step reached h
    obtain ⟨result, hresult, heq⟩ := Option.map_eq_some_iff.mp h
    obtain rfl := (Prod.mk.inj heq).1
    exact bandStep_consistent hresult
  refine ⟨fun log reached hrun hfits => ?_, fun log state step reached _ h => hstep state step reached h⟩
  -- only the last step matters: it fits, whatever the settings were before it
  cases hrun with
  | nil => exact hstart
  | snoc hrun h => exact (hstep _ _ _ h).mpr (hfits _ _ [] _ rfl hrun)

/-- A profile bound to channel 36 of the 5 GHz band. -/
def boundProfile : ConnectionSettings :=
  AList.insert "802-11-wireless"
    ((AList.insert "band" (.str "a") ∅).insert "channel" (.u32 36)) ∅

/-- Another channel of the same band. -/
theorem band_channel_kept_channel : Consistent boundProfile ∧ ∃ reached,
    (bandWriters boundProfile).Run boundProfile
      [(.update { noUpdate with channel := some 40 }, ())] reached ∧ Consistent reached := by
  have hconsistent : Consistent boundProfile := by decide +kernel
  obtain ⟨reached, hreached⟩ : ∃ reached, (bandWriters boundProfile).Run boundProfile
      [(.update { noUpdate with channel := some 40 }, ())] reached := ⟨_, Machine.Run.single rfl⟩
  refine ⟨hconsistent, reached, hreached, ?_⟩
  refine (band_channel_kept boundProfile hconsistent).1 _ reached hreached ?_
  intro before step after state hlog hrun
  cases before with
  | nil =>
    obtain ⟨hstep, -⟩ := Prod.mk.inj (List.cons.inj hlog).1
    rw [← hstep, hrun.nil_inv]
    change Fits 40 (selectedBand boundProfile)
    decide +kernel
  | cons e before => cases before <;> cases (List.cons.inj hlog).2

/-- Selecting another band keeps the channel, updates may send a channel without a band or a band
without a channel, and a rollback restores the band under a channel that was set since. -/
theorem channel_outlives_band :
    (Consistent boundProfile ∧ ∃ reached, (bandWriters boundProfile).Run boundProfile
      [(.select .ghz24, ())] reached ∧ selectedBand reached = .ghz24 ∧
        selectedChannel reached = 36 ∧ ¬ Consistent reached) ∧
    (Consistent ∅ ∧ ∃ reached, (bandWriters ∅).Run ∅
      [(.update { noUpdate with band := some .auto, channel := some 36 }, ())] reached ∧
        selectedBand reached = .auto ∧ selectedChannel reached = 36 ∧ ¬ Consistent reached) ∧
    (∃ reached, (bandWriters boundProfile).Run boundProfile
      [(.update { noUpdate with band := some .ghz24 }, ())] reached ∧ ¬ Consistent reached) ∧
    ∃ reached, (bandWriters boundProfile).Run boundProfile [(.rollback ∅ .ghz5, ())] reached ∧
      ¬ Consistent reached := by
  refine ⟨⟨by decide +kernel, _, Machine.Run.single rfl, ?_, ?_, ?_⟩,
    ⟨by decide +kernel, _, Machine.Run.single rfl, ?_, ?_, ?_⟩,
    ⟨_, Machine.Run.single rfl, ?_⟩, ⟨_, Machine.Run.single rfl, ?_⟩⟩
  all_goals decide +kernel

end ProfileSettings

end NmDaemon
