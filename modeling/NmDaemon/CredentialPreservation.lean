import NmDaemon.PublicPolicy

/-!
# What a committed edit writes

The settings a commit sends to NetworkManager, secret by secret. They are the edit's, with
the secrets NetworkManager returned merged into them first and those of the edit merged on
top; an explicit remember then changes retention flags.

* `secretReplies` — what NetworkManager returned, read off the history of the commit;
* `Prepared` — how the settings of an update come about, established call by call
  (`triple_commit_prepared`);
* `mergeReplies_slot` — what merging the replies does at every address;
* `committed_secrets` — every secret is the edit's or else the returned one, and everything
  else is the edit's, but for the flags an explicit remember writes (`FlagsCleared`).
-/

namespace NmDaemon

namespace Profiles

open Client Credentials Fallible

/-! ## The replies of a commit -/

/-- What a call returned, if it read secrets. -/
def secretReply : Happening → Option (String × ConnectionSettings)
  | .own _ (.getSecrets section') (.ok reply) => some (section', reply)
  | _ => none

/-- The secrets that were returned for sections, in order. -/
abbrev Replies : Type := List (String × ConnectionSettings)

/-- The secrets NetworkManager returned, with the settings they were asked for. -/
def secretReplies (tr : List Happening) : Replies :=
  tr.filterMap secretReply

/-- The sections whose secrets are read before an update. -/
def secretSections (settings : ConnectionSettings) : List String :=
  (settings.pairs.filter fun e => requiresSecrets e.1 e.2).map Prod.fst

/-- The replies, merged one after another. -/
def mergeReplies (settings : ConnectionSettings) (replies : Replies) :
    Except String ConnectionSettings :=
  replies.foldlM (fun settings reply => mergeSecrets settings reply.2) settings

/-- How the settings come about that have the secrets NetworkManager returned. -/
def Collected (edit : ProfileEdit) (replies : Replies)
    (settings : ConnectionSettings) : Prop :=
  if hasSecrets edit.settings || edit.explicitRemember then
    replies.map Prod.fst = secretSections edit.settings ∧
      ∃ preserved, mergeReplies edit.settings replies = .ok preserved ∧
        mergeSecrets preserved edit.settings = .ok settings
  else replies = [] ∧ settings = edit.settings

/-- How the settings of an update come about. -/
def Prepared (edit : ProfileEdit) (replies : Replies)
    (written : ConnectionSettings) : Prop :=
  ∃ settings, Collected edit replies settings ∧
    (if edit.explicitRemember then rememberSecrets settings else .ok settings) = .ok written

/-- What a commit guarantees of its updates. -/
def preparedGuarantee (edit : ProfileEdit) : Guarantee Profile Call Reply Foreign :=
  fun tr _ c _ => ∀ written flags version, c = .update2 written flags version →
    Prepared edit (secretReplies tr) written

/-- What is known of the secrets that were returned so far. -/
abbrev Replied (K : Replies → Prop) :
    Assertion Profile Call Reply Foreign := fun tr _ => K (secretReplies tr)

section Calls

variable {nm : Service Profile Call Reply Foreign} {edit : ProfileEdit}
  {K : Replies → Prop} {α : Type}

theorem secretReplies_snoc (tr : List Happening) (e : Happening) :
    secretReplies (tr ++ [e]) = secretReplies tr ++ (secretReply e).toList := by
  rw [secretReplies, List.filterMap_append, secretReplies]
  rcases h : secretReply e with _ | reply
  · simp [h]
  · simp [h]

theorem replied_stable : Stable nm (Replied K) := by
  intro tr s a s' h _
  change K (secretReplies (tr ++ [.rival a]))
  rw [secretReplies_snoc]
  exact (List.append_nil (secretReplies tr)).symm ▸ h

/-- A call that reads no secrets and writes nothing. -/
theorem replied_read (c : Call) {f : Reply c → Except String α} (hc : c.IsRead) :
    Triple nm (preparedGuarantee edit) (Replied K) (ask c f)
      fun _ => Replied K := by
  refine .ask replied_stable fun tr s r s' h _ => ⟨?_, fun _ _ => ?_⟩
  · rintro written flags version rfl
    exact hc.elim
  · have hnone : secretReply (.own s c r) = none := by
      cases c with
      | getSecrets => exact hc.elim
      | _ => rfl
    change K (secretReplies (tr ++ [.own s c r]))
    rw [secretReplies_snoc, hnone]
    exact (List.append_nil (secretReplies tr)).symm ▸ h

/-- A successful read of secrets is one more reply. -/
theorem replied_getSecrets (section' : String) (before : Replies) :
    Triple nm (preparedGuarantee edit) (Replied (· = before))
      (ask (.getSecrets section') fun r =>
        r.mapError fun _ => "cannot preserve existing credentials; no update attempted")
      fun secrets => Replied (· = before ++ [(section', secrets)]) := by
  refine .ask replied_stable fun tr s r s' h _ => ⟨?_, fun secrets hr => ?_⟩
  · intro written flags version heq
    cases heq
  · rcases r with e | reply
    · cases hr
    · cases hr
      change secretReplies (tr ++ [.own s (.getSecrets section') (.ok secrets)]) = _
      rw [secretReplies_snoc, show secretReplies tr = before from h]
      rfl

theorem replied_preserveSections (sections : List String) :
    ∀ (settings : ConnectionSettings) (version : ℕ) (before : Replies),
      Triple nm (preparedGuarantee edit) (Replied (· = before))
        (preserveSections sections settings version) fun r => Replied fun all =>
          ∃ replies, all = before ++ replies ∧ replies.map Prod.fst = sections ∧
            mergeReplies settings replies = .ok r.1 := by
  induction sections with
  | nil =>
    intro settings version before
    exact .pure fun tr _ h => ⟨[], h.trans (List.append_nil _).symm, rfl, rfl⟩
  | cons section' rest ih =>
    intro settings version before
    refine (replied_getSecrets section' before).bind fun secrets =>
      Triple.lift_bind fun expected _ => ?_
    refine (replied_read .versionId trivial).bind fun current => .ensure_bind fun _ => ?_
    refine .lift_bind fun _ _ => .lift_bind fun merged hmerged => ?_
    refine (ih merged expected (before ++ [(section', secrets)])).conseq (fun _ _ h => h) ?_
    rintro r tr s ⟨replies, htr, hnames, hmerge⟩
    refine ⟨(section', secrets) :: replies, htr.trans (List.append_assoc _ _ _), ?_,
      foldlM_cons_eq_ok.mpr ⟨merged, hmerged, hmerge⟩⟩
    rw [List.map_cons, hnames]

theorem replied_collectSecrets (edit : ProfileEdit) :
    Triple nm (preparedGuarantee edit) (Replied (· = [])) (collectSecrets edit)
      fun r => Replied fun replies => Collected edit replies r.1 := by
  unfold collectSecrets
  by_cases h : (hasSecrets edit.settings || edit.explicitRemember) = true
  · rw [if_pos h]
    refine (replied_read .version trivial).bind fun running => .ensure_bind fun _ => ?_
    refine (replied_preserveSections (secretSections edit.settings) edit.settings edit.version
      []).bind fun r => .lift_bind fun merged hmerged => .pure ?_
    rintro tr s ⟨replies, htr, hnames, hmerge⟩
    change Collected edit (secretReplies tr) merged
    rw [Collected, if_pos h, htr]
    exact ⟨hnames, r.1, hmerge, hmerged⟩
  · rw [if_neg h]
    refine .pure fun tr s hr => ?_
    change Collected edit (secretReplies tr) edit.settings
    rw [Collected, if_neg h]
    exact ⟨hr, rfl⟩

theorem replied_preserveCredentials (edit : ProfileEdit) :
    Triple nm (preparedGuarantee edit) (Replied (· = []))
      (preserveCredentials edit) fun r => Replied fun replies => Prepared edit replies r.1 := by
  refine (replied_collectSecrets edit).bind fun r => .lift_bind fun written hwritten => ?_
  exact .pure fun tr s h => ⟨r.1, h, hwritten⟩

/-- The settings of every update of a commit are prepared. -/
theorem triple_commit_prepared (destination : String) (edit : ProfileEdit)
    (blockAutoconnect : Bool) :
    Triple nm (preparedGuarantee edit) (Replied (· = []))
      (commitCredentialEdit destination edit blockAutoconnect) fun _ _ _ => True := by
  refine (triple_proxyPath (replied_read .currentOwner trivial) destination).bind fun _ => ?_
  refine (replied_read .currentOwner trivial).bind fun owner => .ensure_bind fun _ => ?_
  refine (replied_read .versionId trivial).bind fun current => .ensure_bind fun _ => ?_
  refine .ensure_bind fun _ => .lift_bind fun _ _ => ?_
  refine (replied_preserveCredentials edit).bind fun r => ?_
  refine (replied_read .currentOwner trivial).bind fun owner => .ensure_bind fun _ => ?_
  refine (replied_read .versionId trivial).bind fun current => .ensure_bind fun _ => ?_
  have hstaged : Triple nm (preparedGuarantee edit)
      (Replied fun replies => Prepared edit replies r.1) (ensureUnstaged edit.explicitRemember)
      fun _ => Replied fun replies => Prepared edit replies r.1 := by
    unfold ensureUnstaged
    split_ifs
    · exact .pure fun _ _ h => h
    · exact (replied_read .unsaved trivial).bind fun unsaved => .ensure fun _ _ h => h
  refine hstaged.bind fun _ => ?_
  have hupdate : Triple nm (preparedGuarantee edit)
      (Replied fun replies => Prepared edit replies r.1)
      (updateProfile r.1 blockAutoconnect r.2) fun _ _ _ => True := by
    refine .ask replied_stable fun tr s reply s' h _ => ⟨?_, fun _ _ => trivial⟩
    rintro written flags version heq
    cases heq
    exact h
  refine hupdate.bind fun _ => ?_
  refine .bind (Q := fun _ _ _ => True) ?_ fun owner => .ensure fun _ _ _ => trivial
  exact (replied_read (K := fun _ => True) .currentOwner trivial).conseq (fun _ _ h => h)
    fun _ _ _ _ => trivial

end Calls

/-! ## What was returned, merged -/

theorem offered_of_absent {settings : ConnectionSettings} {address : Address}
    (h : settings.lookup address.section' = none) : offered settings address = none := by
  cases address with
  | flat section' key =>
    rw [offered, field, show settings.lookup section' = none from h]
    rfl
  | vpn name =>
    have hnone : vpnSecrets settings = [] := by
      rw [vpnSecrets, field, show settings.lookup "vpn" = none from h]
      rfl
    rw [offered, hnone]
    rfl
  | peer public' =>
    have hnone : peersOf settings = [] := by
      rw [peersOf, field, show settings.lookup "wireguard" = none from h]
      rfl
    rw [offered, hnone]
    rfl

/-- Every reply is about what it was asked for only. -/
def OnlyAsked (replies : Replies) : Prop :=
  ∀ section' reply, (section', reply) ∈ replies →
    ∀ name, name ≠ section' → reply.lookup name = none

/-- What the replies offer at an address. -/
def returned (replies : Replies) (address : Address) : Option Value :=
  (replies.lookup address.section').bind fun reply => offered reply address

theorem mergeReplies_isSome {replies : Replies} (section' : String) :
    ∀ {settings preserved : ConnectionSettings}, mergeReplies settings replies = .ok preserved →
      (preserved.lookup section').isSome = (settings.lookup section').isSome := by
  intro settings preserved h
  refine foldlM_invariant (P := fun current => (current.lookup section').isSome =
    (settings.lookup section').isSome) ?_ rfl h
  intro current reply next _ hcurrent hmerge
  rw [mergeSecrets_isSome hmerge, hcurrent]

/-- The replies change nothing but secrets. -/
theorem mergeReplies_sameExcept {replies : Replies}
    {settings preserved : ConnectionSettings} (h : mergeReplies settings replies = .ok preserved) :
    SameExcept Address.Supported settings preserved := by
  refine foldlM_invariant (P := SameExcept Address.Supported settings) ?_ (.refl _ _) h
  intro current reply next _ hcurrent hmerge
  exact hcurrent.trans (mergeSecrets_sameExcept hmerge)

/-- Every secret is the one that was returned, or else the one that was there. -/
theorem mergeReplies_slot {replies : Replies} {address : Address}
    (hsupported : address.Supported) :
    ∀ {settings preserved : ConnectionSettings}, (replies.map Prod.fst).Nodup → OnlyAsked replies →
      (settings.lookup address.section').isSome →
      mergeReplies settings replies = .ok preserved →
      slot preserved address = (returned replies address).or (slot settings address) := by
  induction replies with
  | nil =>
    intro settings preserved _ _ _ h
    cases h
    rfl
  | cons reply rest ih =>
    obtain ⟨asked, secrets⟩ := reply
    intro settings preserved hnodup honly hsection h
    obtain ⟨next, hfirst, hrest⟩ := foldlM_cons_eq_ok.mp h
    rw [List.map_cons, List.nodup_cons] at hnodup
    have hnext : (next.lookup address.section').isSome := by
      rw [mergeSecrets_isSome hfirst]
      exact hsection
    rw [ih hnodup.2 (fun section' reply hmem => honly section' reply (List.mem_cons_of_mem _ hmem))
      hnext hrest, mergeSecrets_slot hfirst hsupported hsection]
    by_cases hasked : address.section' = asked
    · -- the reply for this section: no later one is about it
      have hlater : rest.lookup address.section' = none := by
        rw [List.lookup_eq_none_iff]
        rintro ⟨name, reply⟩ hmem
        rw [bne_iff_ne]
        rintro rfl
        exact hnodup.1 (hasked ▸ List.mem_map.mpr ⟨_, hmem, rfl⟩)
      rw [returned, hlater, returned, hasked, List.lookup_cons_self]
      rfl
    · have hnone : offered secrets address = none :=
        offered_of_absent (honly asked secrets List.mem_cons_self _ hasked)
      have hne : (address.section' == asked) = false := beq_eq_false_iff_ne.mpr hasked
      rw [hnone, Option.none_or, returned, returned, List.lookup_cons, hne]

/-! ## The settings of an update -/

theorem secretSections_nodup (settings : ConnectionSettings) : (secretSections settings).Nodup :=
  (Table.nodup_pairs settings).sublist (List.filter_sublist.map Prod.fst)

theorem mem_secretSections {settings : ConnectionSettings} {section' : String} :
    (section' ∈ secretSections settings) ↔
      ∃ data, settings.lookup section' = some data ∧ requiresSecrets section' data = true := by
  rw [secretSections, List.mem_map]
  constructor
  · rintro ⟨⟨name, data⟩, hmem, rfl⟩
    obtain ⟨hmem, hrequires⟩ := List.mem_filter.mp hmem
    exact ⟨data, Table.mem_pairs.mp hmem, hrequires⟩
  · rintro ⟨data, hdata, hrequires⟩
    exact ⟨(section', data), List.mem_filter.mpr ⟨Table.mem_pairs.mpr hdata, hrequires⟩, rfl⟩

variable {edit : ProfileEdit} {replies : Replies}
  {settings written : ConnectionSettings}

/-- The settings with the secrets that were returned: at every address the edit's secret, or else
the one that was returned, and everything else the edit's. -/
theorem Collected.spec (h : Collected edit replies settings)
    (hcarries : (hasSecrets edit.settings || edit.explicitRemember) = true)
    (honly : OnlyAsked replies) :
    replies.map Prod.fst = secretSections edit.settings ∧
    (∀ address : Address, address.Supported → slot settings address =
      (offered edit.settings address).or (returned replies address)) ∧
    SameExcept Address.Supported edit.settings settings ∧
    ∀ name, (settings.lookup name).isSome = (edit.settings.lookup name).isSome := by
  rw [Collected, if_pos hcarries] at h
  obtain ⟨hnames, preserved, hmerge, hoverlay⟩ := h
  have hsections : ∀ name,
      (settings.lookup name).isSome = (edit.settings.lookup name).isSome := by
    intro name
    rw [mergeSecrets_isSome hoverlay, mergeReplies_isSome name hmerge]
  refine ⟨hnames, fun address hsupported => ?_,
    (mergeReplies_sameExcept hmerge).trans (mergeSecrets_sameExcept hoverlay), hsections⟩
  by_cases hsection : (edit.settings.lookup address.section').isSome = true
  · have hnodup : (replies.map Prod.fst).Nodup := by
      rw [hnames]
      exact secretSections_nodup _
    have hpreserved : (preserved.lookup address.section').isSome := by
      rw [mergeReplies_isSome address.section' hmerge]
      exact hsection
    rw [mergeSecrets_slot hoverlay hsupported hpreserved,
      mergeReplies_slot hsupported hnodup honly hsection hmerge]
    -- what the edit holds is also what it offers
    rcases hoffered : offered edit.settings address with _ | value
    · rw [slot_eq_none_of_offered hoffered, Option.or_none]
    · rfl
  · -- nothing is asked for, and nothing added, where the edit has no section
    have habsent : edit.settings.lookup address.section' = none := by
      simpa using hsection
    have hsettings : settings.lookup address.section' = none := by
      have hsame := hsections address.section'
      rw [habsent] at hsame
      simpa using hsame
    have hunasked : replies.lookup address.section' = none := by
      rw [List.lookup_eq_none_iff]
      rintro ⟨name, reply⟩ hmem
      rw [bne_iff_ne]
      rintro rfl
      have hasked : address.section' ∈ secretSections edit.settings := by
        rw [← hnames]
        exact List.mem_map.mpr ⟨_, hmem, rfl⟩
      obtain ⟨data, hdata, -⟩ := mem_secretSections.mp hasked
      rw [habsent] at hdata
      cases hdata
    rw [slot_eq_none_of_offered (offered_of_absent hsettings), offered_of_absent habsent, returned,
      hunasked]
    rfl

/-! ## The flags of the settings -/

theorem peersOf_eq {settings : ConnectionSettings} {values : Values}
    (h : settings.lookup "wireguard" = some values) :
    peersOf settings = (peers values).toOption.getD [] := by
  rw [peersOf, field, h, Option.bind_some, peers]
  cases values.lookup "peers" with
  | none => rfl
  | some value =>
    dsimp only
    rw [Option.bind_some, decodePeers]
    cases valueDicts value with
    | none => rfl
    | some dicts => rfl

/-- Settings that differ in secrets only have the same flags. -/
theorem flags_of_sameExcept {a b : ConnectionSettings} (h : SameExcept Address.Supported a b)
    (hsections : ∀ name, (b.lookup name).isSome = (a.lookup name).isSome)
    {section' key : String} {n : UInt32} (hn : flags b section' key = .ok n) :
    flags a section' key = .ok n := by
  cases hw : b.lookup section' with
  | none =>
    rw [flags, hw] at hn
    cases hn
  | some w =>
    obtain ⟨v, hv⟩ : ∃ v, a.lookup section' = some v := by
      rw [← Option.isSome_iff_exists, ← hsections, hw]
      rfl
    rw [flags, hw] at hn
    rw [flags, hv]
    dsimp only at hn ⊢
    rw [← hn]
    refine congrArg (· >>= checkFlags)
      (storedFlags_congr (fun hvpn => ?_) ?_ fun hwireguard hkey => ?_).symm
    · subst hvpn
      have hdata := h.field_eq "vpn" "data" (by simp [Container]) List.not_mem_nil
      rwa [field, field, hv, hw] at hdata
    · have hflags := h.field_eq section' (flagsKey key) (flagsKey_not_container section' key)
        (flagsKey_not_known section' key)
      rwa [field, field, hv, hw] at hflags
    · subst hwireguard
      -- there is a peer with the key, so that the peers can be read on both sides
      obtain ⟨name, hname⟩ := Option.isSome_iff_exists.mp hkey
      obtain ⟨m, hm, -⟩ := bind_eq_ok.mp hn
      rw [storedFlags, if_neg (by decide), if_pos rfl, hname] at hm
      obtain ⟨qs, hqs, hm⟩ := bind_eq_ok.mp hm
      obtain ⟨index, hindex, -⟩ := bind_eq_ok.mp hm
      have hsame := h.peers
      rw [peersOf_eq hv, peersOf_eq hw, hqs] at hsame
      cases hps : peers v with
      | error e =>
        rw [hps] at hsame
        cases hsame
        cases hindex
      | ok ps =>
        rw [hps] at hsame
        exact .inr ⟨ps, qs, hps, hqs, hsame⟩

/-! ## The settings that are written -/

/-- What the settings of an update hold: every supported secret as the edit supplies it, and
otherwise as it was returned; and else what the edit has, but for the flags an explicit remember
writes. -/
structure Preserved (edit : ProfileEdit) (replies : Replies)
    (written : ConnectionSettings) : Prop where
  secrets : ∀ address : Address, address.Supported → slot written address =
    (offered edit.settings address).or (returned replies address)
  sections : ∀ name, (written.lookup name).isSome = (edit.settings.lookup name).isSome
  ordinary : edit.explicitRemember = false → SameExcept Address.Supported edit.settings written
  /-- Only fields of flags differ, those of the secrets that then have a value. -/
  remembered : edit.explicitRemember = true →
    SameExcept (fun address => address.Supported ∨ IsFlags written address) edit.settings written ∧
    ∀ section' key, Listed written section' key → FlagsCleared edit.settings written section' key

/-- The same for the settings that are written, where an explicit remember has changed flags. -/
theorem Prepared.spec (h : Prepared edit replies written)
    (hcarries : (hasSecrets edit.settings || edit.explicitRemember) = true)
    (honly : OnlyAsked replies) :
    replies.map Prod.fst = secretSections edit.settings ∧ Preserved edit replies written := by
  obtain ⟨settings, hcollected, hwritten⟩ := h
  obtain ⟨hnames, hslot, hsame, hsections⟩ := hcollected.spec hcarries honly
  refine ⟨hnames, ?_⟩
  rcases hremember : edit.explicitRemember with _ | _
  · rw [hremember, if_neg Bool.false_ne_true] at hwritten
    cases hwritten
    refine ⟨hslot, hsections, fun _ => hsame, fun h => ?_⟩
    cases hremember.symm.trans h
  · rw [hremember, if_pos rfl] at hwritten
    obtain ⟨hflags, hkept⟩ := rememberSecrets_sameExcept hwritten
    refine ⟨fun address hsupported => ?_, fun name => (hkept name).trans (hsections name),
      fun h => (by cases hremember.symm.trans h), fun _ => ⟨?_, fun section' key hlisted => ?_⟩⟩
    · rw [rememberSecrets_slot hwritten hsupported, hslot address hsupported]
    · exact (hsame.mono fun _ => .inl).trans (hflags.mono fun _ => .inr)
    · obtain ⟨other, n, hother, hname, hn, hcleared⟩ := rememberSecrets_cleared hwritten hlisted
      exact ⟨other, n, hother, hname, flags_of_sameExcept hsame hsections hn, hcleared⟩

/-- **Committed edits keep the secrets they do not replace.** Take any execution of a commit of an
edit that carries secrets (or is to be remembered), with replies that are about what they were
asked for. In the settings of every update that is sent, every secret-bearing section of the edit
was asked for; every supported address holds the secret the edit supplies, and otherwise the one
NetworkManager returned; and nothing else differs from the edit's settings, except that an explicit
remember writes, for every secret that then has a value, its flags without `notSaved` to a field
of its section. -/
theorem committed_secrets (keep : ConnectionSettings → ConnectionSettings) (destination : String)
    (edit : ProfileEdit) (blockAutoconnect : Bool) {s₀ s : Profile} {tr : List Happening}
    {p : Prog Call Reply (Except String Unit)}
    (h : Exec (networkManager keep) s₀ (commitCredentialEdit destination edit blockAutoconnect) tr s p)
    (hcarries : (hasSecrets edit.settings || edit.explicitRemember) = true)
    (honly : OnlyAsked (secretReplies tr)) :
    ∀ (l₁ l₂ : List Happening) (t : Profile) (written : ConnectionSettings) (flags : UInt32)
      (version : ℕ) (r : Reply (.update2 written flags version)),
      tr = l₁ ++ Event.own t (.update2 written flags version) r :: l₂ →
      (∀ section' data, edit.settings.lookup section' = some data →
        requiresSecrets section' data = true → ((secretReplies l₁).lookup section').isSome) ∧
      Preserved edit (secretReplies l₁) written := by
  intro l₁ l₂ t written flags version r htr
  have hcalls := (h.sound (triple_commit_prepared destination edit blockAutoconnect [] s₀ rfl)).2
  have hprepared : Prepared edit (secretReplies l₁) written :=
    hcalls l₁ l₂ t _ r htr written flags version rfl
  have honly₁ : OnlyAsked (secretReplies l₁) := by
    intro section' reply hmem
    refine honly section' reply ?_
    rw [htr, secretReplies, List.filterMap_append]
    exact List.mem_append_left _ hmem
  obtain ⟨hnames, hcommitted⟩ := hprepared.spec hcarries honly₁
  refine ⟨fun section' data hdata hrequires => ?_, hcommitted⟩
  have hasked : section' ∈ (secretReplies l₁).map Prod.fst := by
    rw [hnames]
    exact mem_secretSections.mpr ⟨data, hdata, hrequires⟩
  obtain ⟨⟨name, reply⟩, hmem, rfl⟩ := List.mem_map.mp hasked
  rw [Option.isSome_iff_ne_none, ne_eq, List.lookup_eq_none_iff]
  intro hnone
  exact absurd (hnone _ hmem) (by simp)

/-! ## Two commits of a new password -/

/-- An edit of a password that is not to be saved. -/
def passwordEdit (explicitRemember : Bool) : ProfileEdit where
  settings := homeWith [("psk-flags", .u32 2), ("psk", .str "new")]
  original := homeWith [("psk-flags", .u32 2)]
  version := 6
  uuid := "u"
  owner := ":1.5"
  explicitRemember := explicitRemember

/-- What NetworkManager has for it. -/
def storedSecrets : ConnectionSettings :=
  tableOf [("802-11-wireless-security",
    tableOf [("psk", .str "old"), ("leap-password", .str "stored")])]

/-- The commit, up to the update: an ordinary edit checks for staged edits first. -/
theorem password_commit (explicitRemember : Bool) :
    ∃ (tr : List Happening) (s : Profile) (p : Prog Call Reply (Except String Unit))
      (l₁ : List Happening) (written : ConnectionSettings),
      Exec (networkManager id) ⟨6, ∅⟩
        (commitCredentialEdit ":1.5" (passwordEdit explicitRemember) false) tr s p ∧
      tr = l₁ ++ [Event.own ⟨7, ∅⟩ (.update2 written 1 7) (.ok ())] ∧
      secretReplies tr = [("802-11-wireless-security", storedSecrets)] ∧
      field written "802-11-wireless-security" "psk-flags" =
        some (.u32 (if explicitRemember then 0 else 2)) := by
  obtain ⟨written, hplay, hflags⟩ : ∃ written, (play (networkManager id)
      (List.replicate (if explicitRemember then 9 else 10)
        (.inr (answering ":1.5" "" 2 storedSecrets))) [] ⟨6, ∅⟩
      (commitCredentialEdit ":1.5" (passwordEdit explicitRemember) false)).bind
        (fun r => r.1.getLast?.map fun e => (e, secretReplies r.1)) =
      some (Event.own ⟨7, ∅⟩ (.update2 written 1 7) (.ok ()),
        [("802-11-wireless-security", storedSecrets)]) ∧
      field written "802-11-wireless-security" "psk-flags" =
        some (.u32 (if explicitRemember then 0 else 2)) := by
    cases explicitRemember with
    | false => exact ⟨_, rfl, rfl⟩
    | true => exact ⟨_, rfl, rfl⟩
  obtain ⟨⟨tr, s, p⟩, hplay, hlast⟩ := Option.bind_eq_some_iff.mp hplay
  obtain ⟨e, hlast, heq⟩ := Option.map_eq_some_iff.mp hlast
  simp only [Prod.mk.injEq] at heq
  obtain ⟨rfl, hreplies⟩ := heq
  obtain ⟨l₁, rfl⟩ := List.getLast?_eq_some_iff.mp hlast
  exact ⟨_, s, p, l₁, written, Exec.start.play _ hplay, rfl, hreplies, hflags⟩

theorem storedSecrets_onlyAsked : OnlyAsked [("802-11-wireless-security", storedSecrets)] := by
  intro section' reply hmem name hname
  cases List.mem_singleton.mp hmem
  have hne : (name == "802-11-wireless-security") = false := beq_eq_false_iff_ne.mpr hname
  rw [storedSecrets, lookup_tableOf, List.lookup_cons, hne]
  rfl

/-- An explicit remember writes other retention flags than the edit has. -/
theorem remember_writes_flags :
    ∃ (edit : ProfileEdit) (tr : List Happening) (s : Profile)
      (p : Prog Call Reply (Except String Unit)) (l₁ : List Happening)
      (written : ConnectionSettings),
      Exec (networkManager id) ⟨6, ∅⟩ (commitCredentialEdit ":1.5" edit false) tr s p ∧
      hasSecrets edit.settings = true ∧ peersOf edit.settings = [] ∧
      OnlyAsked (secretReplies tr) ∧
      tr = l₁ ++ [Event.own ⟨7, ∅⟩ (.update2 written 1 7) (.ok ())] ∧
      ¬ SameExcept Address.Supported edit.settings written := by
  obtain ⟨tr, s, p, l₁, written, hexec, htr, hreplies, hflags⟩ := password_commit true
  refine ⟨passwordEdit true, tr, s, p, l₁, written, hexec, rfl, rfl, ?_, htr, fun hsame => ?_⟩
  · rw [hreplies]
    exact storedSecrets_onlyAsked
  · have hfield := hsame.field_eq "802-11-wireless-security" "psk-flags"
      (flagsKey_not_container _ "psk") (flagsKey_not_known _ "psk")
    rw [hflags] at hfield
    exact absurd hfield (by decide +kernel)

/-- The new password is written with the flags of the edit, next to the stored password the edit
knows nothing about. -/
theorem committed_secrets_password :
    ∃ (tr : List Happening) (s : Profile) (p : Prog Call Reply (Except String Unit))
      (l₁ : List Happening) (written : ConnectionSettings),
      Exec (networkManager id) ⟨6, ∅⟩ (commitCredentialEdit ":1.5" (passwordEdit false) false) tr s p ∧
      tr = l₁ ++ [Event.own ⟨7, ∅⟩ (.update2 written 1 7) (.ok ())] ∧
      slot written (.flat "802-11-wireless-security" "psk") = some (.str "new") ∧
      slot written (.flat "802-11-wireless-security" "leap-password") = some (.str "stored") ∧
      SameExcept Address.Supported (passwordEdit false).settings written := by
  obtain ⟨tr, s, p, l₁, written, hexec, htr, hreplies, -⟩ := password_commit false
  have honly : OnlyAsked (secretReplies tr) := by
    rw [hreplies]
    exact storedSecrets_onlyAsked
  obtain ⟨-, hcommitted⟩ := committed_secrets id ":1.5" (passwordEdit false) false hexec rfl honly l₁
    [] _ written 1 7 _ htr
  have hl₁ : secretReplies l₁ = [("802-11-wireless-security", storedSecrets)] := by
    rw [← hreplies, htr, secretReplies_snoc]
    exact (List.append_nil _).symm
  refine ⟨tr, s, p, l₁, written, hexec, htr, ?_, ?_, hcommitted.ordinary rfl⟩
  · rw [hcommitted.secrets (.flat "802-11-wireless-security" "psk") (by decide), hl₁]
    rfl
  · rw [hcommitted.secrets (.flat "802-11-wireless-security" "leap-password") (by decide), hl₁]
    rfl

end Profiles

end NmDaemon
