import NmDaemon.Base.InPlace
import NmDaemon.RetentionPolicy

/-!
# The public policy of settings

Taking the secrets out of settings and putting them back.

* `Hidden` — what the public policy leaves out: the secrets, and what NetworkManager
  maintains by itself;
* `publicSettings_field` — what the public policy holds, field by field, from which the rest
  follows: it lists no secrets, keeps the flags, and is its own public policy;
* `restore_peers` — a merge gives every peer its preshared key back, since it finds the peer by
  a public key no other peer has;
* `secrets_round_trip` — all of it together.

Settings are compared as maps (`sameSettings`).
-/

namespace NmDaemon

namespace Credentials

open Fallible Profiles

variable {settings public' merged : ConnectionSettings} {section' key : String} {data : Values}

/-! ## Settings as maps -/

theorem sameBy_iff {V : Type} {same : V → V → Bool} {t u : Table String V} :
    Table.sameBy same t u = true ↔
      ∀ k, Option.Rel (fun v w => same v w = true) (t.lookup k) (u.lookup k) := by
  rw [Table.sameBy, List.all_eq_true]
  constructor
  · intro h k
    by_cases hk : k ∈ t.keys ++ u.keys
    · have hsame := h k hk
      cases ht : t.lookup k with
      | none =>
        cases hu : u.lookup k with
        | none => exact .none
        | some w => simp [ht, hu] at hsame
      | some v =>
        cases hu : u.lookup k with
        | none => simp [ht, hu] at hsame
        | some w => exact .some (by simpa [ht, hu] using hsame)
    · rw [List.mem_append, not_or] at hk
      rw [AList.lookup_eq_none.mpr hk.1, AList.lookup_eq_none.mpr hk.2]
      exact .none
  · intro h k _
    have hk := h k
    generalize t.lookup k = a, u.lookup k = b at hk ⊢
    cases hk with
    | none => rfl
    | some hsame => exact hsame

theorem rel_eq_iff {V : Type} {a b : Option V} : Option.Rel (fun v w => v = w) a b ↔ a = b := by
  cases a <;> cases b <;> simp

/-- Settings are the same if they have the same sections and the same fields. -/
theorem sameSettings_iff {a b : ConnectionSettings} : sameSettings a b = true ↔
    ∀ s, (a.lookup s).isSome = (b.lookup s).isSome ∧
      ∀ k, field a s k = field b s k := by
  rw [sameSettings, sameBy_iff]
  refine forall_congr' fun s => ?_
  simp only [sameBy_iff, decide_eq_true_eq, rel_eq_iff, field]
  cases a.lookup s <;> cases b.lookup s <;> simp

/-! ## What is left out -/

/-- What NetworkManager maintains in settings by itself. -/
def Maintained (section' key : String) : Prop :=
  (section' = "connection" ∧ key = "timestamp") ∨
    (section' = "802-11-wireless" ∧ key = "seen-bssids")

/-- What the public policy leaves out. -/
def Hidden (section' key : String) : Prop :=
  key ∈ knownKeys section' ∨ (section' = "vpn" ∧ key = "secrets") ∨ Maintained section' key

instance : Decidable (Maintained section' key) := inferInstanceAs (Decidable (_ ∨ _))

instance : Decidable (Hidden section' key) := inferInstanceAs (Decidable (_ ∨ _ ∨ _))

/-- Peers without their preshared keys, as they are written. -/
def publicPeers (value : Value) : Value :=
  encodeDicts ((((valueDicts value).getD []).map tableOf).map (AList.erase "preshared-key"))

theorem lookup_foldl_erase (keys : List String) (key : String) : ∀ data : Values,
    (keys.foldl (fun data k => data.erase k) data).lookup key =
      if key ∈ keys then none else data.lookup key := by
  induction keys with
  | nil => exact fun data => rfl
  | cons k keys ih =>
    intro data
    rw [List.foldl_cons, ih, Table.lookup_erase_ite]
    by_cases hk : key = k
    · simp [hk]
    · simp [hk]

/-- The keys a section is stripped of. -/
def hiddenKeys (section' : String) : List String :=
  knownKeys section' ++ (match section' with
    | "vpn" => some "secrets"
    | "connection" => some "timestamp"
    | "802-11-wireless" => some "seen-bssids"
    | _ => none : Option String).toList

theorem mem_hiddenKeys : key ∈ hiddenKeys section' ↔ Hidden section' key := by
  unfold hiddenKeys Hidden Maintained
  rw [List.mem_append]
  refine or_congr_right ?_
  split
  · simp
  · simp
  · simp
  · rename_i hvpn hconnection hwireless
    refine ⟨fun hmem => absurd hmem List.not_mem_nil, ?_⟩
    rintro (⟨h, -⟩ | ⟨h, -⟩ | ⟨h, -⟩)
    · exact absurd h hvpn
    · exact absurd h hconnection
    · exact absurd h hwireless

/-- A section after its hidden keys are gone. -/
theorem publicSection_eq (section' : String) (data : Values) :
    publicSection section' data =
      match (if section' = "wireguard" then
        ((hiddenKeys section').foldl (fun data k => data.erase k) data).lookup "peers"
        else none) with
      | none => .ok ((hiddenKeys section').foldl (fun data k => data.erase k) data)
      | some value => do
        let peers ← decodePeers value
        return AList.insert "peers" (encodeDicts (peers.map (AList.erase "preshared-key")))
          ((hiddenKeys section').foldl (fun data k => data.erase k) data) := rfl

theorem peers_not_hidden : ¬ Hidden "wireguard" "peers" := by decide

variable {value : Value}

theorem decodePeers_ok {peers : List Values} (h : decodePeers value = .ok peers) :
    peers = ((valueDicts value).getD []).map tableOf := by
  unfold decodePeers at h
  split at h
  next dicts hdicts =>
    rw [hdicts]
    exact (Except.ok.inj h).symm
  · cases h

variable {stripped : Values}

/-- What a section holds in the public policy. -/
theorem publicSection_lookup (h : publicSection section' data = .ok stripped) (key : String) :
    stripped.lookup key =
      if Hidden section' key then none
      else if section' = "wireguard" ∧ key = "peers" then (data.lookup key).map publicPeers
      else data.lookup key := by
  rw [publicSection_eq] at h
  have hkeys := lookup_foldl_erase (hiddenKeys section') key data
  rw [if_congr mem_hiddenKeys rfl rfl] at hkeys
  by_cases hwireguard : section' = "wireguard"
  · subst hwireguard
    rw [if_pos rfl, lookup_foldl_erase, if_neg (mt mem_hiddenKeys.mp peers_not_hidden)] at h
    cases hpeers : data.lookup "peers" with
    | none =>
      rw [hpeers] at h
      obtain rfl := Except.ok.inj h
      rw [hkeys]
      by_cases hkey : key = "peers"
      · subst hkey
        simp [hpeers]
      · simp [hkey]
    | some value =>
      rw [hpeers] at h
      obtain ⟨peers, hdecoded, h⟩ := bind_eq_ok.mp h
      obtain rfl := Except.ok.inj h
      rw [Table.lookup_insert_ite, hkeys]
      by_cases hkey : key = "peers"
      · subst hkey
        rw [if_pos rfl, if_neg peers_not_hidden, if_pos ⟨rfl, rfl⟩, hpeers, decodePeers_ok hdecoded]
        rfl
      · simp [hkey]
  · rw [if_neg hwireguard] at h
    obtain rfl := Except.ok.inj h
    rw [hkeys]
    simp [hwireguard]

/-- The public policy holds what is not hidden, with peers without preshared keys. -/
theorem publicSettings_section (h : publicSettings settings = .ok public') (section' : String) :
    (settings.lookup section' = none → public'.lookup section' = none) ∧
      ∀ data, settings.lookup section' = some data →
        ∃ stripped, publicSection section' data = .ok stripped ∧
          public'.lookup section' = some stripped := by
  obtain ⟨hskip, hstrip⟩ := Table.foldlM_pairs (P := fun section' data _ new =>
    ∃ stripped, publicSection section' data = .ok stripped ∧ new = some stripped)
    (fun d k v d' hstep => by
      obtain ⟨stripped, hstripped, rfl⟩ := map_eq_ok.mp hstep
      exact ⟨fun l hl => AList.lookup_insert_ne hl, stripped, hstripped, AList.lookup_insert _⟩)
    h section'
  exact ⟨fun hnone => (hskip hnone).trans hnone, hstrip⟩

theorem publicSettings_isSome (h : publicSettings settings = .ok public') (section' : String) :
    (public'.lookup section').isSome = (settings.lookup section').isSome := by
  obtain ⟨hnone, hsome⟩ := publicSettings_section h section'
  cases hdata : settings.lookup section' with
  | none => rw [hnone hdata]
  | some data =>
    obtain ⟨stripped, -, hstripped⟩ := hsome data hdata
    rw [hstripped]
    rfl

theorem publicSettings_field (h : publicSettings settings = .ok public') (section' key : String) :
    field public' section' key =
      if Hidden section' key then none
      else if section' = "wireguard" ∧ key = "peers" then
        (field settings section' key).map publicPeers
      else field settings section' key := by
  obtain ⟨hnone, hsome⟩ := publicSettings_section h section'
  cases hdata : settings.lookup section' with
  | none =>
    rw [field, field, hnone hdata, hdata]
    simp
  | some data =>
    obtain ⟨stripped, hstripped, hlookup⟩ := hsome data hdata
    rw [field, field, hlookup, hdata]
    exact publicSection_lookup hstripped key

/-! ## No secret is left -/

/-- The peers of the public policy can be read, and have no preshared keys. -/
theorem peerDicts_stripped (h : publicSection "wireguard" data = .ok stripped) :
    ∃ peers, peerDicts stripped = .ok peers ∧
      ∀ p ∈ peers, p.lookup "preshared-key" = none := by
  have hpeers := publicSection_lookup h "peers"
  rw [if_neg peers_not_hidden, if_pos ⟨rfl, rfl⟩] at hpeers
  cases hvalue : data.lookup "peers" with
  | none =>
    rw [hvalue] at hpeers
    exact ⟨[], by rw [peerDicts, hpeers]; rfl, fun p hp => absurd hp List.not_mem_nil⟩
  | some value =>
    rw [hvalue, Option.map_some, publicPeers] at hpeers
    refine ⟨_, by rw [peerDicts, hpeers]; simp only [valueDicts_encodeDicts]; rfl, fun p hp => ?_⟩
    obtain ⟨entries, hentries, rfl⟩ := List.mem_map.mp hp
    obtain ⟨peer, hpeer, rfl⟩ := List.mem_map.mp hentries
    obtain ⟨original, -, rfl⟩ := List.mem_map.mp hpeer
    rw [lookup_tableOf, lookup_sortedEntries, AList.lookup_erase]

theorem listedSecrets_nil {peers : List Values}
    (hflat : ∀ k ∈ knownKeys section', data.lookup k = none)
    (hvpn : section' = "vpn" → data.lookup "secrets" = none)
    (hpeers : ∀ p ∈ peers, p.lookup "preshared-key" = none) :
    listedSecrets section' data peers = [] := by
  have hkeys : ((knownKeys section').filterMap fun key =>
      (settingText data key).map fun text => (key, text)) = [] := by
    refine List.filterMap_eq_nil_iff.mpr fun k hk => ?_
    rw [settingText, setting, hflat k hk]
    rfl
  have hnames : sectionVpnSecrets section' data = [] := by
    unfold sectionVpnSecrets
    split_ifs with hsection
    · rw [hvpn hsection]
      rfl
    · rfl
  have hpreshared : presharedSecrets peers = [] := by
    refine List.filterMap_eq_nil_iff.mpr fun p hp => ?_
    have hnone : setting Value.asStr p "preshared-key" = none := by
      rw [setting, hpeers p hp]
      rfl
    rw [hnone]
    cases setting Value.asStr p "public-key" <;> rfl
  rw [listedSecrets, hkeys, hnames, hpreshared]
  rfl

/-- A stripped section lists no secrets. -/
theorem sectionSecrets_stripped (h : publicSection section' data = .ok stripped) :
    sectionSecrets section' stripped = .ok [] := by
  have hlookup := publicSection_lookup h
  have hflat : ∀ k ∈ knownKeys section', stripped.lookup k = none := by
    intro k hk
    rw [hlookup, if_pos (.inl hk)]
  have hvpn : section' = "vpn" → stripped.lookup "secrets" = none := by
    intro hsection
    rw [hlookup, if_pos (.inr (.inl ⟨hsection, rfl⟩))]
  rw [sectionSecrets]
  by_cases hsection : section' = "wireguard"
  · subst hsection
    obtain ⟨peers, hpeers, hnone⟩ := peerDicts_stripped h
    rw [if_pos rfl, hpeers]
    exact congrArg Except.ok (listedSecrets_nil hflat hvpn hnone)
  · rw [if_neg hsection]
    exact congrArg Except.ok (listedSecrets_nil hflat hvpn fun p hp => absurd hp List.not_mem_nil)

/-- Every section of the public settings is one that was stripped. -/
theorem publicSettings_stripped (h : publicSettings settings = .ok public')
    (hmem : (section', stripped) ∈ public'.pairs) :
    ∃ data, publicSection section' data = .ok stripped := by
  have hlookup := Table.mem_pairs.mp hmem
  obtain ⟨hnone, hsome⟩ := publicSettings_section h section'
  cases hdata : settings.lookup section' with
  | none =>
    rw [hnone hdata] at hlookup
    cases hlookup
  | some data =>
    obtain ⟨stripped', hstripped, heq⟩ := hsome data hdata
    obtain rfl := Option.some.inj (heq.symm.trans hlookup)
    exact ⟨data, hstripped⟩

theorem values_public (h : publicSettings settings = .ok public') : values public' = .ok [] := by
  have hsections : (public'.pairs.mapM fun e => sectionSecrets e.1 e.2) =
      .ok (public'.pairs.map fun _ => []) := by
    refine mapM_ok fun ⟨section', stripped⟩ hmem => ?_
    obtain ⟨data, hstripped⟩ := publicSettings_stripped h hmem
    exact sectionSecrets_stripped hstripped
  change ((public'.pairs.mapM fun e => sectionSecrets e.1 e.2) >>=
    fun sections => .ok sections.flatten) = .ok []
  rw [hsections]
  refine congrArg Except.ok (List.flatten_eq_nil_iff.mpr fun l hl => ?_)
  obtain ⟨e, -, rfl⟩ := List.mem_map.mp hl
  rfl

theorem hasSecrets_public (h : publicSettings settings = .ok public') : hasSecrets public' = false := by
  rw [hasSecrets, List.any_eq_false]
  rintro ⟨section', stripped⟩ hmem
  obtain ⟨data, hstripped⟩ := publicSettings_stripped h hmem
  have hfields := publicSection_lookup hstripped
  rw [Bool.not_eq_true, Bool.or_eq_false_iff, Bool.or_eq_false_iff, List.any_eq_false,
    Bool.and_eq_false_iff, Bool.and_eq_false_iff]
  refine ⟨⟨fun k hk => ?_, ?_⟩, ?_⟩
  · rw [hfields, if_pos (.inl hk)]
    simp
  · by_cases hsection : section' = "vpn"
    · right
      rw [hfields, if_pos (.inr (.inl ⟨hsection, rfl⟩))]
      rfl
    · left
      exact decide_eq_false hsection
  · by_cases hsection : section' = "wireguard"
    · right
      subst hsection
      obtain ⟨peers, hpeers, hkeys⟩ := peerDicts_stripped hstripped
      rw [hpeers]
      refine List.any_eq_false.mpr fun p hp => ?_
      rw [hkeys p hp]
      simp
    · left
      exact decide_eq_false hsection

/-! ## The flags are kept -/

section Peers

variable {ps qs : List Values}

theorem map_isPeer (h : List.Forall₂ SamePublic ps qs) (name : String) :
    qs.map (isPeer name) = ps.map (isPeer name) := by
  induction h with
  | nil => rfl
  | cons hp _ ih => rw [List.map_cons, List.map_cons, ih, hp.isPeer]

/-- Where the peer with a public key is depends on the public keys alone. -/
theorem uniquePeer_congr {name : String} (hmap : qs.map (isPeer name) = ps.map (isPeer name)) :
    uniquePeer qs name = uniquePeer ps name := by
  have hcount : ∀ l : List Values, l.countP (isPeer name) = (l.map (isPeer name)).countP id :=
    fun l => by rw [List.countP_map]; rfl
  have hindex : ∀ l : List Values, l.findIdx (isPeer name) = (l.map (isPeer name)).findIdx id :=
    fun l => by rw [List.findIdx_map]; rfl
  rw [uniquePeer, uniquePeer, hcount, hcount, hindex, hindex, hmap]

theorem samePublic_getD (h : List.Forall₂ SamePublic ps qs) (index : ℕ) :
    SamePublic (ps.getD index ∅) (qs.getD index ∅) := by
  induction h generalizing index with
  | nil => exact SamePublic.refl _
  | cons hp _ ih =>
    cases index with
    | zero => exact hp
    | succ index => exact ih index

end Peers

/-- The peers of two sections, as far as flags are concerned. -/
def PeersAgree (a b : Values) : Prop :=
  (∃ e, peers a = .error e ∧ peers b = .error e) ∨
    ∃ ps qs, peers a = .ok ps ∧ peers b = .ok qs ∧ List.Forall₂ SamePublic ps qs

/-- What the flags of a secret are read from. -/
theorem storedFlags_congr {v w : Values}
    (hvpn : section' = "vpn" → w.lookup "data" = v.lookup "data")
    (hflat : w.lookup (flagsKey key) = v.lookup (flagsKey key))
    (hpeers : section' = "wireguard" → (peerKey key).isSome → PeersAgree v w) :
    storedFlags section' key w = storedFlags section' key v := by
  rw [storedFlags, storedFlags]
  by_cases hsection : section' = "vpn"
  · rw [if_pos hsection, if_pos hsection, hvpn hsection]
  rw [if_neg hsection, if_neg hsection]
  cases hpeer : (if section' = "wireguard" then peerKey key else none) with
  | none =>
    dsimp only
    rw [flagValue, flagValue, hflat]
  | some name =>
    obtain ⟨hwireguard, hkey⟩ : section' = "wireguard" ∧ (peerKey key).isSome := by
      split_ifs at hpeer with hwireguard
      rw [hpeer]
      exact ⟨hwireguard, rfl⟩
    dsimp only
    rcases hpeers hwireguard hkey with ⟨e, hv, hw⟩ | ⟨ps, qs, hv, hw, hsame⟩
    · rw [hv, hw]
    · have hflag : ∀ index, flagValue (qs.getD index ∅) "preshared-key-flags" =
          flagValue (ps.getD index ∅) "preshared-key-flags" := by
        intro index
        rw [flagValue, flagValue, samePublic_getD hsame index _ (by decide)]
      rw [hv, hw]
      change (uniquePeer qs name >>= fun index => flagValue (qs.getD index ∅) _) =
        (uniquePeer ps name >>= fun index => flagValue (ps.getD index ∅) _)
      simp only [uniquePeer_congr (map_isPeer hsame name), hflag]

/-- The peers of the public policy. -/
theorem peersOf_public (h : publicSettings settings = .ok public') :
    peersOf public' = ((peersOf settings).map (AList.erase "preshared-key")).map rewritten := by
  rw [peersOf, peersOf, publicSettings_field h, if_neg peers_not_hidden, if_pos ⟨rfl, rfl⟩]
  cases field settings "wireguard" "peers" with
  | none => rfl
  | some value =>
    rw [Option.map_some, Option.bind_some, publicPeers, valueDicts_encodeDicts, Option.getD_some,
      List.map_map]
    rfl

theorem samePublic_stripped (p : Values) : SamePublic p (rewritten (p.erase "preshared-key")) := by
  intro k hk
  rw [lookup_rewritten, AList.lookup_erase_ne hk]

theorem forall₂_samePublic_public (h : publicSettings settings = .ok public') :
    List.Forall₂ SamePublic (peersOf settings) (peersOf public') := by
  rw [peersOf_public h, List.map_map]
  exact forall₂_samePublic_map samePublic_stripped _

theorem peersAgree_stripped (h : publicSection "wireguard" data = .ok stripped) :
    PeersAgree data stripped := by
  have hpeers := publicSection_lookup h "peers"
  rw [if_neg peers_not_hidden, if_pos ⟨rfl, rfl⟩] at hpeers
  right
  cases hvalue : data.lookup "peers" with
  | none =>
    rw [hvalue] at hpeers
    exact ⟨[], [], by rw [peers, hvalue], by rw [peers, hpeers]; rfl, .nil⟩
  | some value =>
    rw [hvalue, Option.map_some] at hpeers
    obtain ⟨ps, hps⟩ : ∃ ps, decodePeers value = .ok ps := by
      rw [publicSection_eq, if_pos rfl, lookup_foldl_erase,
        if_neg (mt mem_hiddenKeys.mp peers_not_hidden), hvalue] at h
      obtain ⟨ps, hps, -⟩ := bind_eq_ok.mp h
      exact ⟨ps, hps⟩
    refine ⟨ps, ps.map fun p => rewritten (p.erase "preshared-key"), by rw [peers, hvalue]; exact hps,
      ?_, forall₂_samePublic_map samePublic_stripped ps⟩
    rw [peers, hpeers]
    simp only [publicPeers, decodePeers, valueDicts_encodeDicts, ← decodePeers_ok hps, List.map_map]
    rfl

/-- The public policy has the flags of every secret. -/
theorem flags_public (h : publicSettings settings = .ok public') (section' key : String) :
    flags public' section' key = flags settings section' key := by
  obtain ⟨hnone, hsome⟩ := publicSettings_section h section'
  rw [flags, flags]
  cases hdata : settings.lookup section' with
  | none => rw [hnone hdata]
  | some data =>
    obtain ⟨stripped, hstripped, hlookup⟩ := hsome data hdata
    have hfields := publicSection_lookup hstripped
    have hhidden : ¬ Hidden section' (flagsKey key) := by
      rintro (hknown | ⟨-, h⟩ | ⟨-, h⟩ | ⟨-, h⟩)
      · exact flagsKey_not_known section' key hknown
      · exact flagsKey_ne (by decide) h
      · exact flagsKey_ne (by decide) h
      · exact flagsKey_ne (by decide) h
    rw [hlookup]
    refine congrArg (· >>= checkFlags) (storedFlags_congr (fun hsection => ?_) ?_ fun hsection _ => ?_)
    · subst hsection
      rw [hfields, if_neg (by decide), if_neg (by decide)]
    · rw [hfields, if_neg hhidden, if_neg fun hpeers => flagsKey_ne (by decide) hpeers.2]
    · subst hsection
      exact peersAgree_stripped hstripped

/-! ## Twice is once -/

/-- Dictionaries with the same entries are written alike. -/
theorem encodeDicts_congr {ps qs : List Values}
    (h : List.Forall₂ (fun p q => ∀ k, q.lookup k = p.lookup k) ps qs) :
    encodeDicts ps = encodeDicts qs := by
  rw [encodeDicts, encodeDicts]
  refine congrArg (Value.array _) ?_
  induction h with
  | nil => rfl
  | cons hp _ ih => rw [List.map_cons, List.map_cons, ih, sortedEntries_congr hp]

theorem publicPeers_idem (value : Value) : publicPeers (publicPeers value) = publicPeers value := by
  rw [publicPeers, publicPeers, valueDicts_encodeDicts, Option.getD_some, List.map_map, List.map_map,
    List.map_map]
  refine encodeDicts_congr ?_
  rw [List.forall₂_map_left_iff, List.forall₂_map_right_iff]
  refine List.forall₂_same.mpr fun p _ k => ?_
  simp only [Function.comp_apply]
  rw [Table.lookup_erase_ite, Table.lookup_erase_ite, lookup_tableOf, lookup_sortedEntries,
    Table.lookup_erase_ite]
  split_ifs <;> rfl

/-- Nothing but malformed peers keeps the secrets from being taken out. -/
theorem publicSettings_ok
    (h : ∀ value, field settings "wireguard" "peers" = some value → (valueDicts value).isSome) :
    ∃ public', publicSettings settings = .ok public' := by
  refine foldlM_ok (fun current ⟨section', data⟩ hmem => ?_) settings
  obtain ⟨stripped, hstripped⟩ : ∃ stripped, publicSection section' data = .ok stripped := by
    rw [publicSection_eq]
    split
    · exact ⟨_, rfl⟩
    · rename_i value hvalue
      split_ifs at hvalue with hsection
      subst hsection
      rw [lookup_foldl_erase, if_neg (mt mem_hiddenKeys.mp peers_not_hidden)] at hvalue
      have hfield : field settings "wireguard" "peers" = some value := by
        rw [field, Table.mem_pairs.mp hmem]
        exact hvalue
      obtain ⟨dicts, hdicts⟩ := Option.isSome_iff_exists.mp (h value hfield)
      exact ⟨_, bind_eq_ok.mpr ⟨_, by rw [decodePeers, hdicts], rfl⟩⟩
  exact ⟨_, map_eq_ok.mpr ⟨stripped, hstripped, rfl⟩⟩

/-- The public policy is its own public policy. -/
theorem publicSettings_idem (h : publicSettings settings = .ok public') :
    ∃ again, publicSettings public' = .ok again ∧ sameSettings again public' = true := by
  have hfield := publicSettings_field h
  obtain ⟨again, hagain⟩ : ∃ again, publicSettings public' = .ok again := by
    refine publicSettings_ok fun value hvalue => ?_
    rw [hfield, if_neg peers_not_hidden, if_pos ⟨rfl, rfl⟩] at hvalue
    obtain ⟨original, -, rfl⟩ := Option.map_eq_some_iff.mp hvalue
    rw [publicPeers, valueDicts_encodeDicts]
    rfl
  refine ⟨again, hagain, sameSettings_iff.mpr fun s => ⟨publicSettings_isSome hagain s, fun k => ?_⟩⟩
  rw [publicSettings_field hagain, hfield]
  split_ifs
  · rfl
  · rw [Option.map_map]
    exact congrArg (Option.map · _) (funext publicPeers_idem)
  · rfl

/-! ## Merging in place -/

/-- Take over the secrets of one section, value by value. -/
def mergeSectionInPlace (section' : String) (values : Values) : InPlace String Values Unit :=
  forM values.pairs fun e => .update fun dest => mergeValue section' dest e.1 e.2

/-- `merge_secrets`: what was taken over before a failure stays. -/
def mergeSecretsInPlace (source : ConnectionSettings) : InPlace String ConnectionSettings Unit :=
  forM source.pairs fun e => do
    match (← get).lookup e.1 with
    | none => pure ()
    | some dest =>
      let (result, merged) := (mergeSectionInPlace e.1 e.2).after dest
      modify (AList.insert e.1 merged)
      InPlace.check result

variable {target : ConnectionSettings}

/-- One section of a merge in place. -/
theorem after_mergeSection (section' : String) (values : Values) :
    (do
      match (← get).lookup section' with
      | none => pure ()
      | some dest =>
        let (result, merged) := (mergeSectionInPlace section' values).after dest
        modify (AList.insert section' merged)
        InPlace.check result : InPlace String ConnectionSettings Unit).after target =
      match target.lookup section' with
      | none => (.ok (), target)
      | some dest =>
        (((mergeSectionInPlace section' values).after dest).1,
          target.insert section' ((mergeSectionInPlace section' values).after dest).2) := by
  rw [InPlace.after_bind]
  change (match target.lookup section' with
    | none => pure ()
    | some dest =>
      let (result, merged) := (mergeSectionInPlace section' values).after dest
      do
        modify (AList.insert section' merged)
        InPlace.check result : InPlace String ConnectionSettings Unit).after target = _
  cases target.lookup section' with
  | none => rfl
  | some dest => rfl

/-- A merge in place that succeeds is the merge. -/
theorem mergeSecretsInPlace_ok {source : ConnectionSettings} :
    (mergeSecretsInPlace source).after target = (.ok (), merged) ↔
      mergeSecrets target source = .ok merged := by
  refine InPlace.forM_eq_ok fun ⟨section', values⟩ current next => ?_
  rw [after_mergeSection]
  dsimp only
  cases current.lookup section' with
  | none => simp
  | some dest =>
    dsimp only
    rw [Prod.mk.injEq, map_eq_ok]
    have hsection : ∀ dest', (mergeSectionInPlace section' values).after dest = (.ok (), dest') ↔
        values.pairs.foldlM (fun dest e => mergeValue section' dest e.1 e.2) dest = .ok dest' :=
      fun dest' => InPlace.forM_eq_ok fun e s t => InPlace.after_update_eq_ok
    constructor
    · rintro ⟨hresult, rfl⟩
      exact ⟨_, (hsection _).mp (Prod.ext hresult rfl), rfl⟩
    · rintro ⟨dest', hdest', rfl⟩
      rw [(hsection dest').mpr hdest']
      exact ⟨rfl, rfl⟩

theorem sameExcept_of_field {A : Address → Prop} {a b : ConnectionSettings}
    (h : ∀ s k, field b s k = field a s k) : SameExcept A a b := by
  have hpeers := peersOf_congr (h "wireguard" "peers")
  refine ⟨fun s k _ _ => h s k, fun name _ => ?_, ?_, fun public' _ => ?_⟩
  · rw [slot, slot, vpnSecrets_congr (h _ _)]
  · rw [hpeers]
    exact forall₂_samePublic_refl _
  · rw [slot, slot, hpeers]

/-- Taking over one value changes nothing but secrets. -/
theorem mergeValue_sameExcept {dest dest' : Values}
    (h : mergeValue section' dest key value = .ok dest') :
    SameExcept Address.Supported (target.insert section' dest)
      (target.insert section' dest') := by
  -- it is the merge of settings with this value alone
  have hmerge : mergeSecrets (target.insert section' dest)
      (tableOf [(section', tableOf [(key, value)])]) = .ok (target.insert section' dest') := by
    have hvalues : [(key, value)].foldlM (fun dest e => mergeValue section' dest e.1 e.2) dest =
        .ok dest' := foldlM_cons_eq_ok.mpr ⟨dest', h, rfl⟩
    refine foldlM_cons_eq_ok.mpr ⟨target.insert section' dest', ?_, rfl⟩
    dsimp only
    rw [AList.lookup_insert]
    exact map_eq_ok.mpr ⟨dest', hvalues, AList.insert_insert _⟩
  exact mergeSecrets_sameExcept hmerge

/-- A merge in place changes nothing but secrets, whether it fails or not. -/
theorem mergeSecretsInPlace_sameExcept (target source : ConnectionSettings) :
    SameExcept Address.Supported target ((mergeSecretsInPlace source).after target).2 := by
  refine InPlace.forM_invariant (fun ⟨section', values⟩ current hcurrent => ?_) (.refl _ _)
  rw [after_mergeSection]
  cases hdest : current.lookup section' with
  | none => exact hcurrent
  | some dest =>
    refine hcurrent.trans ?_
    have hstart : SameExcept Address.Supported current (current.insert section' dest) := by
      refine sameExcept_of_field fun s k => ?_
      by_cases hs : s = section'
      · rw [hs, field_insert_same, field, hdest, Option.bind_some]
      · exact field_insert_of_ne hs k
    refine InPlace.forM_invariant
      (P := fun dest' => SameExcept Address.Supported current (current.insert section' dest'))
      (fun e dest' hsame => ?_) hstart
    rw [InPlace.after_update]
    cases hmerge : mergeValue section' dest' e.1 e.2 with
    | error _ => exact hsame
    | ok next => exact hsame.trans (mergeValue_sameExcept hmerge)

/-! ## Putting the secrets back -/

/-- Assigning a value of a peer, where the peer is known to be the one that is found. -/
theorem insertPeerValue_at {before after changed : List Values} {peer : Values} {name k : String}
    (hpeer : isPeer name peer = true)
    (h : insertPeerValue (before ++ peer :: after) name k value = .ok changed) :
    changed = before ++ peer.insert k value :: after := by
  obtain ⟨hcount, hchanged⟩ := insertPeerValue_ok h
  rw [hchanged, List.map_append, List.map_cons, if_pos hpeer]
  rw [List.countP_append, List.countP_cons_of_pos hpeer] at hcount
  -- no other peer has the public key
  have hother : ∀ l : List Values, l.countP (isPeer name) = 0 →
      (l.map fun p => if isPeer name p then p.insert k value else p) = l := by
    intro l hl
    exact (List.map_congr_left fun p hp => if_neg (List.countP_eq_zero.mp hl p hp)).trans
      (List.map_id l)
  rw [hother before (by omega), hother after (by omega)]

/-- Peers hold the same values. -/
def SameValues (p q : Values) : Prop := ∀ k, q.lookup k = p.lookup k

/-- A merge gives the peers their preshared keys back, one after another. -/
theorem restore_peers {strip : Values → Values} (hstrip : ∀ p k, (strip p).lookup k =
      if k = "preshared-key" then none else p.lookup k) {incoming : List Values} :
    ∀ (before : List Values) {target : List Values},
      incoming.foldlM mergePeer (before ++ incoming.map strip) = .ok target →
      ∃ restored, target = before ++ restored ∧ List.Forall₂ SameValues incoming restored := by
  induction incoming with
  | nil =>
    intro before target h
    obtain rfl := Except.ok.inj h
    exact ⟨[], by rw [List.map_nil], .nil⟩
  | cons p rest ih =>
    intro before target h
    obtain ⟨next, hfirst, hrest⟩ := foldlM_cons_eq_ok.mp h
    obtain ⟨q, hq, hsame⟩ : ∃ q, next = before ++ q :: rest.map strip ∧ SameValues p q := by
      rw [List.map_cons] at hfirst
      unfold mergePeer at hfirst
      split at hfirst
      next hsecret =>
        obtain rfl := Except.ok.inj hfirst
        refine ⟨strip p, rfl, fun k => ?_⟩
        rw [hstrip]
        split_ifs with hk
        · rw [hk, hsecret]
        · rfl
      next secret hsecret =>
        split at hfirst
        · cases hfirst
        next name hname =>
          have hpeer : isPeer name (strip p) = true := by
            rw [isPeer, setting, hstrip, if_neg (by decide), decide_eq_true_eq]
            exact hname
          refine ⟨_, insertPeerValue_at hpeer hfirst, fun k => ?_⟩
          rw [Table.lookup_insert_ite, hstrip]
          split_ifs with hk
          · rw [hk, hsecret]
          · rfl
    rw [hq, List.append_cons] at hrest
    obtain ⟨restored, rfl, hrestored⟩ := ih _ hrest
    exact ⟨q :: restored, by rw [List.append_assoc, List.singleton_append], .cons hsame hrestored⟩

/-- The secrets and peers of settings have the types NetworkManager gives them, `a\x7bss\x7d`
and `aa\x7bsv\x7d`. -/
structure WellFormed (settings : ConnectionSettings) : Prop where
  secrets : ∀ value, field settings "vpn" "secrets" = some value → ∃ names, value = encodeStrings names
  peers : ∀ value, field settings "wireguard" "peers" = some value → ∃ ps, value = encodeDicts ps

/-- Settings without what NetworkManager maintains in them. -/
def withoutMaintained (settings : ConnectionSettings) : ConnectionSettings :=
  Table.filterMap (fun section' data => some
    (if section' = "connection" then data.erase "timestamp"
      else if section' = "802-11-wireless" then data.erase "seen-bssids"
      else data)) settings

theorem withoutMaintained_isSome (section' : String) :
    ((withoutMaintained settings).lookup section').isSome =
      (settings.lookup section').isSome := by
  rw [withoutMaintained, Table.lookup_filterMap]
  cases settings.lookup section' <;> rfl

theorem withoutMaintained_field (section' key : String) :
    field (withoutMaintained settings) section' key =
      if Maintained section' key then none else field settings section' key := by
  rw [field, field, withoutMaintained, Table.lookup_filterMap]
  cases settings.lookup section' with
  | none => simp
  | some data =>
    simp only [Option.bind_some]
    by_cases hconnection : section' = "connection"
    · subst hconnection
      rw [if_pos rfl, Table.lookup_erase_ite]
      simp [Maintained]
    · by_cases hwireless : section' = "802-11-wireless"
      · subst hwireless
        rw [if_neg (by decide), if_pos rfl, Table.lookup_erase_ite]
        simp [Maintained]
      · rw [if_neg hconnection, if_neg hwireless, if_neg]
        rintro (⟨h, -⟩ | ⟨h, -⟩)
        · exact hconnection h
        · exact hwireless h

/-- The peers that are written back are the ones that were there. -/
theorem merged_peers {ps merged : List Values}
    (h : (((valueDicts (encodeDicts ps)).getD []).map tableOf).foldlM mergePeer
      ((((valueDicts (publicPeers (encodeDicts ps)))).getD []).map tableOf) = .ok merged) :
    encodeDicts merged = encodeDicts ps := by
  have hincoming : ((valueDicts (encodeDicts ps)).getD []).map tableOf = ps.map rewritten := by
    rw [valueDicts_encodeDicts, Option.getD_some, List.map_map]
    rfl
  have htarget : ((valueDicts (publicPeers (encodeDicts ps))).getD []).map tableOf =
      (ps.map rewritten).map fun p => rewritten (p.erase "preshared-key") := by
    rw [publicPeers, hincoming, valueDicts_encodeDicts, Option.getD_some, List.map_map, List.map_map]
    rfl
  rw [hincoming, htarget] at h
  have hstrip : ∀ (p : Values) (k : String),
      (rewritten (p.erase "preshared-key")).lookup k =
        if k = "preshared-key" then none else p.lookup k := by
    intro p k
    rw [lookup_rewritten, Table.lookup_erase_ite]
  obtain ⟨restored, hrestored, hsame⟩ := restore_peers hstrip [] h
  rw [hrestored, List.nil_append]
  rw [List.forall₂_map_left_iff] at hsame
  refine (encodeDicts_congr (hsame.imp fun p q hpq k => ?_)).symm
  rw [hpq k]
  exact lookup_rewritten p k

/-- The secrets of a VPN that are written back are the ones that were there. -/
theorem merged_names {names : Table String String} {incoming : List (String × String)}
    (h : valueStringMap (encodeStrings names) = some incoming) :
    encodeStrings (incoming.foldl (fun t e => t.insert e.1 e.2) (tableOf [])) =
      encodeStrings names := by
  rw [valueStringMap_encodeStrings] at h
  obtain rfl := Option.some.inj h
  rw [encodeStrings, encodeStrings]
  refine congrArg (fun entries => Value.dict "s" (entries.map fun e => (e.1, Value.str e.2)))
    (sortedEntries_congr fun k => ?_)
  -- every name is listed once, so the order of the listing does not matter
  have hperm : (sortedEntries names).reverse.Perm (sortedEntries names) := List.reverse_perm _
  have hnodup := nodup_sortedEntries names
  rw [lookup_foldl_insert, lookup_tableOf, List.lookup_nil, Option.or_none, ← lookup_sortedEntries]
  refine Option.ext fun text => ?_
  rw [lookup_eq_some_iff hnodup, lookup_eq_some_iff ((hperm.map Prod.fst).nodup_iff.mpr hnodup),
    hperm.mem_iff]

/-- What a merge of the original's secrets makes of the public policy. -/
theorem merge_field (hwell : WellFormed settings) (h : publicSettings settings = .ok public')
    (hmerged : mergeSecrets public' settings = .ok merged)
    (hsection : (settings.lookup section').isSome) (key : String) :
    field merged section' key =
      if Maintained section' key then none else field settings section' key := by
  have hpublic := publicSettings_field h section' key
  obtain ⟨hskip, hmerge⟩ := mergeSecrets_field hmerged section' key
    ((publicSettings_isSome h section').trans hsection)
  cases hvalue : field settings section' key with
  | none =>
    rw [hskip hvalue, hpublic, hvalue]
    split_ifs <;> rfl
  | some value =>
    have hfield := hmerge value hvalue
    rw [hpublic, hvalue, MergedField] at hfield
    by_cases hvpn : section' = "vpn" ∧ key = "secrets"
    · obtain ⟨rfl, rfl⟩ := hvpn
      rw [if_pos ⟨rfl, rfl⟩, if_pos (by decide)] at hfield
      obtain ⟨incoming, hincoming, hnew⟩ := hfield
      obtain ⟨names, rfl⟩ := hwell.secrets value hvalue
      rw [hnew, if_neg (by decide)]
      exact congrArg some (merged_names hincoming)
    rw [if_neg hvpn] at hfield
    by_cases hpeers : section' = "wireguard" ∧ key = "peers"
    · obtain ⟨rfl, rfl⟩ := hpeers
      rw [if_pos ⟨rfl, rfl⟩, if_neg peers_not_hidden, if_pos ⟨rfl, rfl⟩] at hfield
      obtain ⟨incoming, restored, hincoming, hrestored, hnew⟩ := hfield
      obtain ⟨ps, rfl⟩ := hwell.peers value hvalue
      rw [decodePeers_ok hincoming] at hrestored
      rw [hnew, if_neg (by decide)]
      exact congrArg some (merged_peers hrestored)
    rw [if_neg hpeers] at hfield
    by_cases hknown : key ∈ knownKeys section'
    · rw [if_pos hknown] at hfield
      have hmaintained : ¬ Maintained section' key := by
        rintro (⟨rfl, rfl⟩ | ⟨rfl, rfl⟩)
        · exact absurd hknown (by decide)
        · exact absurd hknown (by decide)
      rw [hfield, if_neg hmaintained]
    · rw [if_neg hknown, if_neg hpeers] at hfield
      have hhidden : Hidden section' key ↔ Maintained section' key :=
        ⟨fun hid => (hid.resolve_left hknown).resolve_left hvpn, fun hid => .inr (.inr hid)⟩
      rw [hfield, if_congr hhidden rfl rfl]

/-- **Secrets out and back.** Settings whose VPN secrets and WireGuard peers are well formed have
a public policy, and

* it has no secret: none is listed, and none is found;
* it has the flags of every secret, the same sections, the values of all fields but the secrets
  and what NetworkManager maintains, and the public values of all peers;
* its public policy is itself;
* if the secrets of the settings are merged into it, the result is the settings without what
  NetworkManager maintains;
* and whatever is merged into whatever settings, nothing but secrets is changed, also by a merge
  that fails halfway. -/
theorem secrets_round_trip (hwell : WellFormed settings) :
    ∃ public', publicSettings settings = .ok public' ∧
      (values public' = .ok [] ∧ hasSecrets public' = false) ∧
      ((∀ section' key, flags public' section' key = flags settings section' key) ∧
        (∀ section', (public'.lookup section').isSome = (settings.lookup section').isSome) ∧
        (∀ section' key, ¬ Hidden section' key → ¬ Container section' key →
          field public' section' key = field settings section' key) ∧
        List.Forall₂ SamePublic (peersOf settings) (peersOf public')) ∧
      (∃ again, publicSettings public' = .ok again ∧ sameSettings again public' = true) ∧
      (∀ merged, (mergeSecretsInPlace settings).after public' = (.ok (), merged) →
        sameSettings merged (withoutMaintained settings) = true) ∧
      ∀ target source result merged, (mergeSecretsInPlace source).after target = (result, merged) →
        SameExcept Address.Supported target merged := by
  obtain ⟨public', h⟩ : ∃ public', publicSettings settings = .ok public' := by
    refine publicSettings_ok fun value hvalue => ?_
    obtain ⟨ps, rfl⟩ := hwell.peers value hvalue
    rw [valueDicts_encodeDicts]
    rfl
  refine ⟨public', h, ⟨values_public h, hasSecrets_public h⟩,
    ⟨flags_public h, publicSettings_isSome h, fun section' key hhidden hcontainer => ?_,
      forall₂_samePublic_public h⟩, publicSettings_idem h, fun merged hmerged => ?_,
    fun target source result merged hmerged => ?_⟩
  · rw [publicSettings_field h, if_neg hhidden, if_neg fun hpeers => hcontainer (.inr hpeers)]
  · rw [mergeSecretsInPlace_ok] at hmerged
    refine sameSettings_iff.mpr fun section' => ⟨?_, fun key => ?_⟩
    · rw [mergeSecrets_isSome hmerged, publicSettings_isSome h, withoutMaintained_isSome]
    · rw [withoutMaintained_field]
      cases hsection : settings.lookup section' with
      | some data => exact merge_field hwell h hmerged (by rw [hsection]; rfl) key
      | none =>
        have hnone : merged.lookup section' = none := by
          have hsome := mergeSecrets_isSome hmerged section'
          rw [publicSettings_isSome h, hsection] at hsome
          exact Option.isNone_iff_eq_none.mp (Option.isSome_eq_false_iff.mp hsome)
        rw [field, field, hnone, hsection]
        simp
  · have hsame := mergeSecretsInPlace_sameExcept target source
    rwa [hmerged] at hsame

/-- A tunnel with a private key, a peer with a preshared key and the password of a VPN. -/
def tunnelProfile : ConnectionSettings :=
  tableOf [("connection", tableOf [("id", .str "Tunnel"), ("timestamp", .u64 7)]),
    ("vpn", tableOf [("secrets", encodeStrings (tableOf [("password", "one")]))]),
    ("wireguard", tableOf [("private-key", .str "two"), ("peers", encodeDicts
      [tableOf [("public-key", .str "peer"), ("preshared-key", .str "three")]])])]

theorem tunnel_wellFormed : WellFormed tunnelProfile where
  secrets := by
    intro value h
    rw [field, tunnelProfile, lookup_tableOf] at h
    exact ⟨_, (Option.some.inj h).symm⟩
  peers := by
    intro value h
    rw [field, tunnelProfile, lookup_tableOf] at h
    exact ⟨_, (Option.some.inj h).symm⟩

/-- Its secrets can be taken out and put back. -/
theorem secrets_round_trip_tunnel : hasSecrets tunnelProfile = true ∧
    ∃ public', publicSettings tunnelProfile = .ok public' ∧ hasSecrets public' = false ∧
      ∃ merged, (mergeSecretsInPlace tunnelProfile).after public' = (.ok (), merged) ∧
        sameSettings merged (withoutMaintained tunnelProfile) = true := by
  obtain ⟨public', hpublic, ⟨-, hnone⟩, -, -, hback, -⟩ := secrets_round_trip tunnel_wellFormed
  refine ⟨by decide +kernel, public', hpublic, hnone, ?_⟩
  have hmerge : ((publicSettings tunnelProfile >>= fun public' =>
      mergeSecrets public' tunnelProfile).toOption).isSome = true := by decide +kernel
  rw [hpublic] at hmerge
  change (mergeSecrets public' tunnelProfile).toOption.isSome = true at hmerge
  cases hmerged : mergeSecrets public' tunnelProfile with
  | error e =>
    rw [hmerged] at hmerge
    cases hmerge
  | ok merged =>
    have hafter := mergeSecretsInPlace_ok.mpr hmerged
    exact ⟨merged, hafter, hback merged hafter⟩

end Credentials

end NmDaemon
