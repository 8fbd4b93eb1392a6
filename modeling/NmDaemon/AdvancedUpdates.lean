import NmDaemon.ProfileAdvanced
import NmDaemon.PublicPolicy

/-!
# What an advanced update changes

An accepted update of a profile's advanced fields, against what was sent: every field that was
sent holds what was sent, in the type NetworkManager keeps it in, the others hold what they held
before, and the same update again changes nothing (`ChangesSent`). This fails for the addresses of
access points and adapters (`advanced_update`): NetworkManager keeps an address as its six bytes,
as the daemon's own matcher of profiles reads it, and an update writes its text.
-/

namespace NmDaemon

namespace ProfileSettings

open Credentials (field sameSettings_iff)

variable {settings settings' : ConnectionSettings} {update : WifiProfileAdvancedUpdate}

/-- An address that is sent, as NetworkManager keeps it; what is no address removes it. -/
def addressBytes (address : Option String) : Option (Option Value) :=
  address.map fun text => (Wifi.parseBssid text).map fun bytes => .array "y" (bytes.map Value.byte)

/-- The settings after an update against those before. -/
structure ChangesSent (settings : ConnectionSettings) (update : WifiProfileAdvancedUpdate)
    (settings' : ConnectionSettings) : Prop where
  sent : ∀ s fields k w, (s, fields) ∈ advancedFields addressBytes update → (k, some w) ∈ fields →
    field settings' s k = w
  kept : ∀ s k, (∀ fields w, (s, fields) ∈ advancedFields addressBytes update →
    (k, some w) ∉ fields) → field settings' s k = field settings s k
  /-- sections are created, perhaps empty -/
  sections : ∀ s, (settings'.lookup s).isSome = true ↔
    (settings.lookup s).isSome = true ∨
      s ∈ (advancedFields addressBytes update).map Prod.fst
  again : ∃ again, applyAdvanced settings' update = .ok again ∧ sameSettings again settings' = true

/-- What is sent of a field is what its list says. -/
theorem sentOf_eq_some {address : Option String → Option (Option Value)} {s k : String}
    {w : Option Value} : sentOf (advancedFields address update) s k = some w ↔
      ∃ fields, (s, fields) ∈ advancedFields address update ∧ (k, some w) ∈ fields := by
  rw [sentOf, Option.bind_eq_some_iff]
  have hsections := nodup_sections address update
  constructor
  · rintro ⟨fields, hfields, hjoin⟩
    have hmem := (lookup_eq_some_iff hsections).mp hfields
    refine ⟨fields, hmem, (lookup_eq_some_iff (nodup_fields address update _ hmem)).mp ?_⟩
    exact Option.join_eq_some_iff.mp hjoin
  · rintro ⟨fields, hmem, hk⟩
    refine ⟨fields, (lookup_eq_some_iff hsections).mpr hmem, Option.join_eq_some_iff.mpr ?_⟩
    exact (lookup_eq_some_iff (nodup_fields address update _ hmem)).mpr hk

/-- Without addresses, the two ways of writing them are one. -/
theorem fields_without_addresses (hbssid : filled update.bssid = none)
    (hmac : filled update.macAddress = none) :
    advancedFields addressBytes update = advancedFields clearedText update := by
  have hsame : ∀ address : Option String, filled address = none →
      addressBytes address = clearedText address := by
    intro address hempty
    cases address with
    | none => rfl
    | some text =>
      obtain rfl : text = "" := by
        by_contra hne
        rw [filled, Option.filter_some, if_pos (decide_eq_true hne)] at hempty
        cases hempty
      decide +kernel
  rw [advancedFields, wirelessFields, hsame _ hbssid, hsame _ hmac]
  rfl

/-- An update that is accepted once is accepted again, and changes nothing. -/
theorem applyAdvanced_again (h : applyAdvanced settings update = .ok settings') :
    ∃ again, applyAdvanced settings' update = .ok again ∧ sameSettings again settings' = true := by
  obtain ⟨hvalid, rfl, hrestricted⟩ := applyAdvanced_eq_ok.mp h
  have hfields : ∀ s k,
      field (patchSections (patchSections settings (patchesOf (advancedFields clearedText update)))
        (patchesOf (advancedFields clearedText update))) s k =
      field (patchSections settings (patchesOf (advancedFields clearedText update))) s k := by
    intro s k
    rw [field_patched, field_patched]
    cases sentOf (advancedFields clearedText update) s k <;> rfl
  refine ⟨_, applyAdvanced_eq_ok.mpr ⟨hvalid, rfl, ?_⟩, sameSettings_iff.mpr fun s => ⟨?_, hfields s⟩⟩
  · exact (not_congr (restricted_congr hfields)).mpr hrestricted
  · rw [Bool.eq_iff_iff, isSome_patchSections, isSome_patchSections, or_assoc, or_self]

/-- **Advanced updates** change exactly what was sent, exactly if no address is sent. -/
theorem advanced_update (h : applyAdvanced settings update = .ok settings') :
    ChangesSent settings update settings' ↔
      filled update.bssid = none ∧ filled update.macAddress = none := by
  obtain ⟨-, rfl, -⟩ := applyAdvanced_eq_ok.mp h
  constructor
  · intro hchanges
    -- the text of an address is none of the values an address has
    have htext : ∀ (key : String) (address : Option String),
        (key, addressBytes address) ∈ wirelessFields addressBytes update →
        (key, clearedText address) ∈ wirelessFields clearedText update → filled address = none := by
      intro key address hbytes hwritten
      cases address with
      | none => rfl
      | some text =>
        rw [filled, Option.filter_some]
        by_cases hempty : text = ""
        · rw [if_neg (by simpa using hempty)]
        · exfalso
          have hsection : ∀ address, ("802-11-wireless", wirelessFields address update) ∈
              advancedFields address update := fun address => by simp [advancedFields]
          have hvalue : clearedText (some text) = some (some (.str text)) :=
            congrArg some (if_neg hempty)
          rw [hvalue] at hwritten
          have hsent := hchanges.sent "802-11-wireless" _ key _ (hsection addressBytes) hbytes
          rw [field_patched, sentOf_eq_some.mpr ⟨_, hsection clearedText, hwritten⟩] at hsent
          obtain ⟨bytes, -, hvalue⟩ := Option.map_eq_some_iff.mp hsent.symm
          cases hvalue
    exact ⟨htext "bssid" update.bssid (by simp [wirelessFields]) (by simp [wirelessFields]),
      htext "mac-address" update.macAddress (by simp [wirelessFields]) (by simp [wirelessFields])⟩
  · rintro ⟨hbssid, hmac⟩
    have hfields := fields_without_addresses hbssid hmac
    refine ⟨fun s fields k w hs hk => ?_, fun s k hunsent => ?_, fun s => ?_, applyAdvanced_again h⟩
    · rw [hfields] at hs
      rw [field_patched, sentOf_eq_some.mpr ⟨fields, hs, hk⟩]
      rfl
    · rw [hfields] at hunsent
      rw [field_patched]
      cases hsent : sentOf (advancedFields clearedText update) s k with
      | none => rfl
      | some w =>
        obtain ⟨fields, hs, hk⟩ := sentOf_eq_some.mp hsent
        exact absurd hk (hunsent fields w hs)
    · rw [hfields, isSome_patchSections, patchesOf, List.map_map]
      rfl

/-- A saved profile for the network `ab`. -/
def savedWifi : ConnectionSettings :=
  AList.insert "802-11-wireless" (AList.insert "ssid" (.array "y" [.byte 97, .byte 98]) ∅) ∅

/-- An update of the MTU and the firewall zone. -/
theorem advanced_update_zone : ∃ settings',
    applyAdvanced savedWifi { noUpdate with mtu := some 1400, firewallZone := some "home" } =
      .ok settings' ∧
    ChangesSent savedWifi { noUpdate with mtu := some 1400, firewallZone := some "home" } settings' :=
  ⟨_, rfl, (advanced_update rfl).mpr ⟨rfl, rfl⟩⟩

/-- An access point is written as text, and the daemon's own matcher of profiles then reads no
restriction. -/
theorem bssid_written_as_text : ∃ settings',
    applyAdvanced savedWifi { noUpdate with bssid := some "00:11:22:33:44:55" } = .ok settings' ∧
    field settings' "802-11-wireless" "bssid" = some (.str "00:11:22:33:44:55") ∧
    addressBytes (some "00:11:22:33:44:55") =
      some (some (.array "y" [.byte 0, .byte 17, .byte 34, .byte 51, .byte 68, .byte 85])) ∧
    (Wifi.WifiProfileMatch.fromSettings settings').map (fun matcher => matcher.bssidBytes) =
      some none ∧
    ¬ ChangesSent savedWifi { noUpdate with bssid := some "00:11:22:33:44:55" } settings' := by
  refine ⟨_, rfl, rfl, by decide +kernel, by decide +kernel, fun hchanges => ?_⟩
  have hsent := hchanges.sent "802-11-wireless"
    (wirelessFields addressBytes { noUpdate with bssid := some "00:11:22:33:44:55" }) "bssid"
    (some (.array "y" [.byte 0, .byte 17, .byte 34, .byte 51, .byte 68, .byte 85]))
    (by simp [advancedFields]) (by decide +kernel)
  revert hsent
  decide +kernel

end ProfileSettings

end NmDaemon
