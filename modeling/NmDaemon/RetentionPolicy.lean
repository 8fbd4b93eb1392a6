import NmDaemon.CredentialWriter
import NmDaemon.SecretAddresses

/-!
# Retention flags under an edit

What the validation of an edit lets happen to the flags of the flat secrets, and what an
explicit remember does to the flags of all secrets.

* `flagsAt` — the flags of a secret, 0 where there are none;
* `policy_monotone_iff` — an accepted edit keeps the retention policy exactly if no section it
  adds has an agent-owned secret; sections that are only in the edit are not looked at;
* `rememberSecrets_slot`, `rememberSecrets_cleared` — an explicit remember clears `notSaved` for
  the secrets there are, and touches no secret. It writes the flags of a VPN's secrets and of
  preshared keys to a field of the section, where they are not read from.
-/

namespace NmDaemon

namespace Profiles

open Client Credentials Fallible

/-! ## Flags of flat secrets -/

/-- The flags of a secret, with absence as 0. -/
def flagsAt (settings : ConnectionSettings) (section' key : String) : UInt32 :=
  ((field settings section' (flagsKey key)).bind Value.asU32).getD 0

variable {key section' : String} {n : UInt32}

/-- The flags of a flat secret are read from one field. -/
theorem flags_known {settings : ConnectionSettings} (hkey : key ∈ knownKeys section')
    (h : flags settings section' key = .ok n) :
    flagOf (field settings section' (flagsKey key)) = .ok n := by
  obtain ⟨hvpn, hpeer⟩ := known_flat hkey
  rcases hvalues : settings.lookup section' with _ | values
  · rw [flags, hvalues] at h
    cases h
  rw [flags, hvalues] at h
  obtain ⟨m, hm, h⟩ := bind_eq_ok.mp h
  rw [storedFlags, if_neg hvpn, hpeer] at hm
  dsimp only at hm
  rw [if_pos hkey, flagValue] at hm
  rw [checkFlags] at h
  split_ifs at h
  cases h
  rw [field, hvalues, Option.bind_some, hm]

theorem flagsAt_of_flags {settings : ConnectionSettings} (hkey : key ∈ knownKeys section')
    (h : flags settings section' key = .ok n) : flagsAt settings section' key = n := by
  have hflag := flags_known hkey h
  unfold flagOf at hflag
  unfold flagsAt
  split at hflag
  next hnone =>
    rw [hnone]
    exact Except.ok.inj hflag
  next value hvalue =>
    split at hflag
    next m hm =>
      rw [hvalue, Option.bind_some, hm]
      exact Except.ok.inj hflag
    · cases hflag

/-! ## The policy of an edit -/

/-- An edit keeps the retention policy of a secret: one that is not saved does not become saved,
none becomes agent-owned, and none that is not required becomes required. -/
def KeyPolicyKept (original edited : ConnectionSettings) (section' key : String) : Prop :=
  (flagsAt original section' key &&& notSaved ≠ 0 → flagsAt edited section' key &&& notSaved ≠ 0) ∧
  (flagsAt edited section' key &&& agentOwned ≠ 0 →
    flagsAt original section' key &&& agentOwned ≠ 0) ∧
  (flagsAt original section' key &&& 4 ≠ 0 → flagsAt edited section' key &&& 4 ≠ 0)

/-- It does so for every secret of the schemas. -/
def PolicyKept (original edited : ConnectionSettings) : Prop :=
  ∀ section', (edited.lookup section').isSome → ∀ key ∈ knownKeys section',
    KeyPolicyKept original edited section' key

/-- What the validation of one secret says. -/
theorem validateKeyPolicy_ok {original edited : ConnectionSettings}
    (hkey : key ∈ knownKeys section') (h : validateKeyPolicy original edited section' key = .ok ()) :
    KeyPolicyKept original edited section' key := by
  rw [validateKeyPolicy] at h
  obtain ⟨before, hbefore, h⟩ := bind_eq_ok.mp h
  obtain ⟨after, hafter, h⟩ := bind_eq_ok.mp h
  rw [KeyPolicyKept, flagsAt_of_flags hkey hbefore, flagsAt_of_flags hkey hafter]
  -- every check has to be passed
  by_cases hsaved : before &&& notSaved = 0 ∨ after &&& notSaved ≠ 0
  · by_cases howned : after &&& agentOwned = 0 ∨ before &&& agentOwned ≠ 0
    · by_cases hrequired : before &&& 4 = 0 ∨ after &&& 4 ≠ 0
      · exact ⟨fun hne => hsaved.resolve_left hne, fun hne => howned.resolve_left hne,
          fun hne => hrequired.resolve_left hne⟩
      · rw [if_neg (not_not.mpr hsaved), if_neg (not_not.mpr howned), if_pos hrequired] at h
        cases h
    · rw [if_neg (not_not.mpr hsaved), if_pos howned] at h
      cases h
  · rw [if_pos hsaved] at h
    cases h

/-- The sections that are validated are those on both sides. -/
theorem validatePolicyChanges_ok {original edited : ConnectionSettings}
    (h : validatePolicyChanges original edited = .ok ())
    (horiginal : (original.lookup section').isSome)
    (hedited : (edited.lookup section').isSome) (hkey : key ∈ knownKeys section') :
    validateKeyPolicy original edited section' key = .ok () := by
  have hmem : section' ∈ original.keys.filter fun name => (edited.lookup name).isSome := by
    rw [List.mem_filter]
    exact ⟨AList.mem_keys.mp (AList.lookup_isSome.mp horiginal), hedited⟩
  exact forM_eq_ok (forM_eq_ok h section' hmem) key hkey

/-- **The policy of accepted edits.** An edit that passes the validation keeps the retention
policy of every known secret, counting what is absent as flags 0, exactly if no secret of a
section that it adds is agent-owned: the sections that are only in the edit are not validated. -/
theorem policy_monotone_iff {original edited : ConnectionSettings}
    (h : validatePolicyChanges original edited = .ok ()) :
    PolicyKept original edited ↔
      ∀ section', original.lookup section' = none → (edited.lookup section').isSome →
        ∀ key ∈ knownKeys section', flagsAt edited section' key &&& agentOwned = 0 := by
  have habsent : ∀ section' key, original.lookup section' = none →
      flagsAt original section' key = 0 := by
    intro section' key hnone
    rw [flagsAt, field, hnone]
    rfl
  constructor
  · intro hkept section' hnone hedited key hkey
    by_contra howned
    have hbefore := (hkept section' hedited key hkey).2.1 howned
    rw [habsent section' key hnone] at hbefore
    exact hbefore (by decide)
  · intro hadded section' hedited key hkey
    rcases horiginal : original.lookup section' with _ | values
    · rw [KeyPolicyKept, habsent section' key horiginal]
      refine ⟨fun hne => absurd (by decide) hne, fun howned => ?_, fun hne => absurd (by decide) hne⟩
      exact absurd (hadded section' horiginal hedited key hkey) howned
    · have hsome : (original.lookup section').isSome := by
        rw [horiginal]
        rfl
      exact validateKeyPolicy_ok hkey (validatePolicyChanges_ok h hsome hedited hkey)

/-- A password profile to which an edit adds enterprise settings. -/
def enterpriseAdded : ConnectionSettings :=
  homeProfile.insert "802-1x" (tableOf [("identity", .str "me"), ("password-flags", .u32 1)])

/-- The added settings make the password agent-owned, and the edit is accepted. -/
theorem agent_owned_added : validatePolicyChanges homeProfile enterpriseAdded = .ok () ∧
    ¬ PolicyKept homeProfile enterpriseAdded := by
  refine ⟨rfl, fun hkept => ?_⟩
  have howned := (hkept "802-1x" rfl "password" (by decide)).2.1 (by decide +kernel)
  exact absurd howned (by decide +kernel)

/-- A profile whose password is not saved. -/
def enterpriseProfile (identity : String) : ConnectionSettings :=
  tableOf [("802-1x", tableOf [("identity", .str identity), ("password-flags", .u32 2)])]

/-- Changing the identity is accepted and keeps the policy. -/
theorem policy_kept_identity :
    validatePolicyChanges (enterpriseProfile "me") (enterpriseProfile "you") = .ok () ∧
      PolicyKept (enterpriseProfile "me") (enterpriseProfile "you") := by
  refine ⟨rfl, (policy_monotone_iff rfl).mpr fun section' hnone hedited => ?_⟩
  -- the edit adds no section
  rw [enterpriseProfile, lookup_tableOf, List.lookup_cons] at hnone hedited
  split at hnone
  · cases hnone
  · rename_i hne
    rw [hne] at hedited
    cases hedited

/-! ## An explicit remember -/

/-- The names of flags all end alike. -/
theorem flagsKey_ne {other : String} (h : "-flags".toList.isSuffixOf other.toList = false) :
    flagsKey key ≠ other := by
  rintro rfl
  have hends : "-flags".toList.isSuffixOf (flagsKey key).toList = true := by
    unfold flagsKey
    split_ifs
    · decide
    · rw [String.toList_append, List.isSuffixOf_iff_suffix]
      exact List.suffix_append _ _
  rw [hends] at h
  cases h

theorem flagsKey_not_known (section' key : String) : flagsKey key ∉ knownKeys section' := by
  have hall : ∀ other ∈ knownKeys section', "-flags".toList.isSuffixOf other.toList = false := by
    unfold knownKeys
    split <;> decide
  exact fun hmem => flagsKey_ne (hall _ hmem) rfl

theorem flagsKey_not_container (section' key : String) : ¬ Container section' (flagsKey key) := by
  rintro (⟨-, h⟩ | ⟨-, h⟩)
  · exact flagsKey_ne (by decide) h
  · exact flagsKey_ne (by decide) h

theorem rememberSecrets_ok {settings written : ConnectionSettings}
    (h : rememberSecrets settings = .ok written) :
    ∃ secrets, values settings = .ok secrets ∧ secrets.foldlM rememberStep settings = .ok written :=
  bind_eq_ok.mp h

variable {next : ConnectionSettings} {text : String}

theorem rememberStep_ok {settings : ConnectionSettings}
    (h : rememberStep settings (section', key, text) = .ok next) :
    ∃ old values, flags settings section' key = .ok old ∧ old &&& agentOwned = 0 ∧
      settings.lookup section' = some values ∧
      next = AList.insert section'
        (values.insert (flagsKey key) (.u32 (old &&& ~~~notSaved))) settings := by
  rw [rememberStep] at h
  obtain ⟨old, hold, h⟩ := bind_eq_ok.mp h
  by_cases howned : old &&& agentOwned = 0
  · rw [if_neg (not_not.mpr howned)] at h
    rcases hvalues : settings.lookup section' with _ | values
    · rw [hvalues] at h
      cases h
    · rw [hvalues] at h
      cases h
      exact ⟨old, values, hold, howned, rfl, rfl⟩
  · rw [if_pos howned] at h
    cases h

/-- Each step writes one field: the flags of a secret. -/
theorem rememberStep_field {settings : ConnectionSettings}
    (h : rememberStep settings (section', key, text) = .ok next) (s k : String) :
    (s, k) ≠ (section', flagsKey key) → field next s k = field settings s k := by
  obtain ⟨old, values, -, -, hvalues, rfl⟩ := rememberStep_ok h
  intro hne
  by_cases hs : s = section'
  · subst hs
    have hk : k ≠ flagsKey key := fun hk => hne (by rw [hk])
    rw [field_insert_same, AList.lookup_insert_ne hk, field, hvalues, Option.bind_some]
  · exact field_insert_of_ne hs k

/-! ### The secrets that are listed -/

/-- A secret has a value: `values` lists it. -/
def Listed (settings : ConnectionSettings) (section' key : String) : Prop :=
  ∃ data secrets text, settings.lookup section' = some data ∧
    sectionSecrets section' data = .ok secrets ∧ (section', key, text) ∈ secrets

variable {secrets : List (String × String × String)}

theorem mem_values {settings : ConnectionSettings} (h : values settings = .ok secrets) :
    (∃ text, (section', key, text) ∈ secrets) ↔ Listed settings section' key := by
  obtain ⟨sections, hsections, h⟩ := bind_eq_ok.mp h
  obtain rfl := (Except.ok.inj h).symm
  obtain ⟨hback, hforth⟩ := mapM_eq_ok hsections
  constructor
  · rintro ⟨text, hmem⟩
    obtain ⟨l, hl, hmem⟩ := List.mem_flatten.mp hmem
    obtain ⟨⟨name, data⟩, hdata, hlisted⟩ := hback l hl
    -- what a section lists carries its name
    obtain rfl : section' = name := by
      obtain ⟨peers, rfl⟩ : ∃ peers, l = listedSecrets name data peers := by
        rw [sectionSecrets] at hlisted
        split_ifs at hlisted
        · obtain ⟨peers, -, h⟩ := bind_eq_ok.mp hlisted
          exact ⟨peers, (Except.ok.inj h).symm⟩
        · exact ⟨[], (Except.ok.inj hlisted).symm⟩
      obtain ⟨e, -, heq⟩ := List.mem_map.mp hmem
      exact (Prod.mk.inj heq).1.symm
    exact ⟨data, l, text, Table.mem_pairs.mp hdata, hlisted, hmem⟩
  · rintro ⟨data, secrets, text, hdata, hlisted, hmem⟩
    obtain ⟨l, hl, hl'⟩ := hforth (section', data) (Table.mem_pairs.mpr hdata)
    obtain rfl := Except.ok.inj (hl'.symm.trans hlisted)
    exact ⟨text, List.mem_flatten.mpr ⟨_, hl, hmem⟩⟩

/-- No secret is kept where flags are. -/
theorem sectionSecrets_insert_flags (section' key : String) (value : Value) (data : Values) :
    sectionSecrets section' (data.insert (flagsKey key) value) =
      sectionSecrets section' data := by
  have hpeers : peerDicts (data.insert (flagsKey key) value) = peerDicts data := by
    rw [peerDicts, peerDicts, AList.lookup_insert_ne (flagsKey_ne (by decide)).symm]
  have htext : ∀ other ∈ knownKeys section',
      settingText (data.insert (flagsKey key) value) other = settingText data other := by
    intro other hother
    have hne : other ≠ flagsKey key := fun h => flagsKey_not_known section' key (h ▸ hother)
    rw [settingText, settingText, setting, setting, AList.lookup_insert_ne hne]
  have hflat : ((knownKeys section').filterMap fun other =>
      (settingText (data.insert (flagsKey key) value) other).map fun text => (other, text)) =
      (knownKeys section').filterMap fun other =>
        (settingText data other).map fun text => (other, text) :=
    List.filterMap_congr fun other hother => by rw [htext other hother]
  have hvpn : (data.insert (flagsKey key) value).lookup "secrets" =
      data.lookup "secrets" := AList.lookup_insert_ne (flagsKey_ne (by decide)).symm
  simp only [sectionSecrets, listedSecrets, sectionVpnSecrets, hpeers, hflat, hvpn]

theorem rememberStep_listed {settings : ConnectionSettings}
    (h : rememberStep settings (section', key, text) = .ok next) (s k : String) :
    Listed next s k ↔ Listed settings s k := by
  obtain ⟨old, values, -, -, hvalues, rfl⟩ := rememberStep_ok h
  by_cases hs : s = section'
  · subst hs
    simp only [Listed, AList.lookup_insert, hvalues, Option.some.injEq, exists_and_left,
      exists_eq_left', sectionSecrets_insert_flags]
  · simp only [Listed, AList.lookup_insert_ne hs]

/-! ### The flags that are cleared -/

/-- Writing a field of flags changes the flags that are read from it, and no others. -/
theorem storedFlags_insert (section' key name : String) (n : UInt32) (values : Values) :
    storedFlags section' key (values.insert (flagsKey name) (.u32 n)) =
        storedFlags section' key values ∨
      (flagsKey key = flagsKey name ∧
        storedFlags section' key (values.insert (flagsKey name) (.u32 n)) = .ok n) := by
  have hdata : (values.insert (flagsKey name) (.u32 n)).lookup "data" =
      values.lookup "data" := AList.lookup_insert_ne (flagsKey_ne (by decide)).symm
  have hpeers : peers (values.insert (flagsKey name) (.u32 n)) = peers values := by
    rw [peers, peers, AList.lookup_insert_ne (flagsKey_ne (by decide)).symm]
  rw [storedFlags, storedFlags, hdata, hpeers]
  by_cases hvpn : section' = "vpn"
  · rw [if_pos hvpn, if_pos hvpn]
    exact .inl rfl
  rw [if_neg hvpn, if_neg hvpn]
  cases (if section' = "wireguard" then peerKey key else none) with
  | some peer => exact .inl rfl
  | none =>
    by_cases hown : flagsKey key = flagsKey name
    · by_cases hknown : key ∈ knownKeys section'
      · refine .inr ⟨hown, ?_⟩
        dsimp only
        rw [if_pos hknown, hown, flagValue, AList.lookup_insert]
        rfl
      · left
        dsimp only
        rw [if_neg hknown, if_neg hknown]
    · left
      rw [flagValue, flagValue, AList.lookup_insert_ne hown]

/-- What a step does to the flags of secrets, wherever they are read from: those that are kept in
the field it writes are cleared, all others stay. -/
theorem rememberStep_flags {settings : ConnectionSettings}
    (h : rememberStep settings (section', key, text) = .ok next) {s k : String}
    (hn : flags next s k = .ok n) :
    flags settings s k = .ok n ∨ (s = section' ∧ flagsKey k = flagsKey key ∧
      ∃ old, flags settings section' key = .ok old ∧ n = old &&& ~~~notSaved) := by
  obtain ⟨old, values, hold, -, hvalues, rfl⟩ := rememberStep_ok h
  by_cases hs : s = section'
  · subst hs
    have hflags : flags settings s k = storedFlags s k values >>= checkFlags := by rw [flags, hvalues]
    rw [flags, AList.lookup_insert] at hn
    dsimp only at hn
    rcases storedFlags_insert s k key (old &&& ~~~notSaved) values with hsame | ⟨hown, hwritten⟩
    · left
      rwa [hsame, ← hflags] at hn
    · refine .inr ⟨rfl, hown, old, hold, ?_⟩
      rw [hwritten] at hn
      change checkFlags _ = _ at hn
      rw [checkFlags] at hn
      split_ifs at hn
      exact (Except.ok.inj hn).symm
  · left
    rwa [flags, AList.lookup_insert_ne hs] at hn

/-- The steps leave the fields that hold the flags of none of their secrets. -/
theorem rememberSteps_field {name : String}
    (hnone : ¬ ∃ key text, (section', key, text) ∈ secrets ∧ flagsKey key = name)
    {settings written : ConnectionSettings} (h : secrets.foldlM rememberStep settings = .ok written) :
    field written section' name = field settings section' name := by
  refine foldlM_invariant (P := fun current =>
    field current section' name = field settings section' name) ?_ rfl h
  rintro current ⟨s, k, t⟩ next hmem hcurrent hstep
  rw [← hcurrent]
  refine rememberStep_field hstep section' name fun heq => hnone ⟨k, t, ?_⟩
  cases heq
  exact ⟨hmem, rfl⟩

/-- The loop clears the flags of every secret it comes to. -/
theorem rememberSteps_cleared {name : String} :
    ∀ {settings written : ConnectionSettings}, secrets.foldlM rememberStep settings = .ok written →
      (∃ key text, (section', key, text) ∈ secrets ∧ flagsKey key = name) →
      ∃ key text n, (section', key, text) ∈ secrets ∧ flagsKey key = name ∧
        flags settings section' key = .ok n ∧ n &&& agentOwned = 0 ∧
        field written section' name = some (.u32 (n &&& ~~~notSaved)) := by
  induction secrets with
  | nil => exact fun _ ⟨_, _, hmem, _⟩ => absurd hmem List.not_mem_nil
  | cons e rest ih =>
    obtain ⟨s, k, t⟩ := e
    intro settings written h hmem
    obtain ⟨next, hfirst, hrest⟩ := foldlM_cons_eq_ok.mp h
    obtain ⟨old, values, hold, howned, hvalues, hnext⟩ := rememberStep_ok hfirst
    by_cases hlater : ∃ key text, (section', key, text) ∈ rest ∧ flagsKey key = name
    · obtain ⟨key, text, n, hin, hname, hn, hn', hfield⟩ := ih hrest hlater
      rcases rememberStep_flags hfirst hn with hn | ⟨rfl, hown, m, hm, rfl⟩
      · exact ⟨key, text, n, List.mem_cons_of_mem _ hin, hname, hn, hn', hfield⟩
      · -- the flags were cleared by the first step already
        obtain rfl := Except.ok.inj (hm.symm.trans hold)
        refine ⟨k, t, m, List.mem_cons_self, hown.symm.trans hname, hm, howned, ?_⟩
        rw [hfield, UInt32.and_assoc, UInt32.and_self]
    · obtain ⟨key, text, hin, rfl⟩ := hmem
      rcases List.mem_cons.mp hin with heq | hin
      · cases heq
        refine ⟨k, t, old, List.mem_cons_self, rfl, hold, howned, ?_⟩
        rw [rememberSteps_field hlater hrest, hnext, field_insert_same, AList.lookup_insert]
      · exact absurd ⟨key, text, hin, rfl⟩ hlater

/-- Where an explicit remember writes: fields named like the flags of secrets with a value. -/
def IsFlags (settings : ConnectionSettings) (address : Address) : Prop :=
  ∃ section' key, address = .flat section' (flagsKey key) ∧ Listed settings section' key

/-- What it writes for a secret: the flags that it had, of a secret no agent owns, without
`notSaved`. They are written beside the secret, also where they were not read from there: those of
a VPN's secrets are kept in its data, those of a preshared key with its peer. -/
def FlagsCleared (edited written : ConnectionSettings) (section' key : String) : Prop :=
  ∃ other n, Listed written section' other ∧ flagsKey other = flagsKey key ∧
    flags edited section' other = .ok n ∧ n &&& agentOwned = 0 ∧
    field written section' (flagsKey key) = some (.u32 (n &&& ~~~notSaved))

variable {settings written : ConnectionSettings}

section

variable (h : rememberSecrets settings = .ok written)

include h

theorem rememberSecrets_listed (s k : String) : Listed written s k ↔ Listed settings s k := by
  obtain ⟨secrets, -, hsteps⟩ := rememberSecrets_ok h
  refine foldlM_invariant (P := fun current => Listed current s k ↔ Listed settings s k) ?_ .rfl
    hsteps
  rintro current ⟨section', key, text⟩ next - hcurrent hstep
  exact (rememberStep_listed hstep s k).trans hcurrent

/-- An explicit remember changes nothing but the flags of secrets with a value. -/
theorem rememberSecrets_sameExcept :
    SameExcept (IsFlags written) settings written ∧ ∀ name,
      (written.lookup name).isSome = (settings.lookup name).isSome := by
  obtain ⟨secrets, hsecrets, hsteps⟩ := rememberSecrets_ok h
  refine foldlM_invariant (P := fun current => SameExcept (IsFlags written) settings current ∧
    ∀ name, (current.lookup name).isSome = (settings.lookup name).isSome) ?_
    ⟨.refl _ _, fun _ => rfl⟩ hsteps
  rintro current ⟨section', key, text⟩ next hmem ⟨hsame, hsections⟩ hstep
  refine ⟨hsame.trans ((sameExcept_flat (flagsKey_not_container section' key)
    (rememberStep_field hstep)).mono ?_), fun name => ?_⟩
  · rintro address rfl
    exact ⟨section', key, rfl,
      (rememberSecrets_listed h section' key).mpr ((mem_values hsecrets).mp ⟨text, hmem⟩)⟩
  · obtain ⟨old, values, -, -, hvalues, rfl⟩ := rememberStep_ok hstep
    rw [← hsections, Table.lookup_insert_ite]
    split_ifs with hname
    · rw [hname, hvalues]
      rfl
    · rfl

/-- It touches no secret. -/
theorem rememberSecrets_slot {address : Address}
    (hsupported : address.Supported) : slot written address = slot settings address := by
  obtain ⟨hsame, -⟩ := rememberSecrets_sameExcept h
  cases address with
  | flat section' key =>
    refine hsame.field_eq section' key (knownKeys_not_container hsupported) ?_
    rintro ⟨s, k, heq, -⟩
    cases heq
    exact flagsKey_not_known section' k hsupported
  | vpn name => exact hsame.vpn_eq name fun ⟨_, _, heq, _⟩ => by cases heq
  | peer public' => exact hsame.peer_eq public' fun ⟨_, _, heq, _⟩ => by cases heq

/-- It clears the flags of every secret with a value. -/
theorem rememberSecrets_cleared
    (hlisted : Listed written section' key) : FlagsCleared settings written section' key := by
  obtain ⟨secrets, hsecrets, hsteps⟩ := rememberSecrets_ok h
  obtain ⟨text, hmem⟩ := (mem_values hsecrets).mpr ((rememberSecrets_listed h _ _).mp hlisted)
  obtain ⟨other, text, n, hmem, hflags⟩ := rememberSteps_cleared hsteps ⟨key, text, hmem, rfl⟩
  exact ⟨other, n, (rememberSecrets_listed h _ _).mpr ((mem_values hsecrets).mp ⟨text, hmem⟩), hflags⟩

end

end Profiles

end NmDaemon
