import NmDaemon.Base.Spelling
import NmDaemon.Errors
import NmDaemon.PublicPolicy

/-!
# Version tokens

The token an editor sends back with its update (`checkExpectedVersion`), and that fences the
sharing of a profile (`shareVersion`): a hash of the settings without the time of their last
use. How a value is written for it is the `Debug` text of the D-Bus library, the parameter
`debug`.

* `canonical_congr` and `canonical_fields` — what is hashed stands for the sections and the
  fields other than that time, no more and no less;
* `hashed_canonical` — the bytes are read back, as long as names do not run together;
* `version_policy` — so the token follows the public policy of the settings, the values it
  leaves out being the same.
-/

namespace NmDaemon

namespace ProfileSettings

open Credentials Profiles

/-! ## The token -/

/-- Settings that change on their own and do not invalidate a token. -/
def volatileConnectionKeys : List String := ["timestamp"]

/-- Whether a value counts. -/
def isCounted (section' key : String) : Bool :=
  (section' ≠ "connection") || !volatileConnectionKeys.contains key

/-- A section as it is hashed: its texts in the order of their keys. -/
def canonicalSection (debug : Value → String) (section' : String) (values : Values) :
    List (String × String) :=
  sortedEntries (values.filterMap fun key value =>
    if isCounted section' key then some (debug value) else none)

def canonical (debug : Value → String) (settings : ConnectionSettings) :
    List (String × List (String × String)) :=
  sortedEntries (settings.filterMap fun section' values =>
    some (canonicalSection debug section' values))

def bytes (text : String) : List UInt8 := text.toUTF8.data.toList

def fnv1a (hash : UInt64) (byte : UInt8) : UInt64 := (hash ^^^ byte.toUInt64) * 0x00000100000001b3

/-- Sixteen hexadecimal digits. -/
def hex (hash : UInt64) : String :=
  String.ofList ((List.range 16).map fun i => Nat.digitChar (hash.toNat / 16 ^ (15 - i) % 16))

def profileVersion (debug : Value → String) (settings : ConnectionSettings) : String :=
  hex ((canonical debug settings).foldl (fun hash s =>
    s.2.foldl (fun hash e => (bytes e.1 ++ bytes e.2).foldl fnv1a hash)
      ((bytes s.1).foldl fnv1a hash)) 0xcbf29ce484222325)

/-- An update fails if the profile changed since it was read. -/
def checkExpectedVersion (debug : Value → String) (settings : ConnectionSettings) :
    Option String → Except DomainError Unit
  | none => .ok ()
  | some expected =>
    let current := profileVersion debug settings
    if current = expected then .ok ()
    else .error (((DomainError.new .conflict .profileOperation .validation
      "the saved profile changed since it was read; reload it and retry").withDetail
      "expected_version" (.str expected)).withDetail "current_version" (.str current))

/-- The token of a shared profile, whose settings are read again after its credential. -/
def shareVersion (debug : Value → String) (settings again : ConnectionSettings) :
    Except String String :=
  let version := profileVersion debug settings
  if profileVersion debug again ≠ version then
    .error "Wi-Fi profile changed while preparing sharing; request it again"
  else .ok version

/-! ## What is hashed -/

variable {debug : Value → String} {a b : ConnectionSettings} {section' key : String}

/-- The bytes a token is the hash of. -/
def hashed (debug : Value → String) (settings : ConnectionSettings) : List UInt8 :=
  (canonical debug settings).flatMap fun s =>
    bytes s.1 ++ s.2.flatMap fun e => bytes e.1 ++ bytes e.2

/-- The token is their hash: the nested loops go over these bytes one by one. -/
theorem profileVersion_hashed (settings : ConnectionSettings) : profileVersion debug settings =
    hex ((hashed debug settings).foldl fnv1a 0xcbf29ce484222325) := by
  rw [profileVersion, hashed, List.foldl_flatMap]
  simp only [List.foldl_append, List.foldl_flatMap]

/-- The bytes are those of the sections and of the entries under them. -/
theorem hashed_items (settings : ConnectionSettings) : hashed debug settings =
    (Spelling.items (canonical debug settings)).flatMap (Spelling.spell bytes bytes) := by
  rw [hashed, Spelling.items, List.flatMap_assoc]
  refine List.flatMap_congr fun s _ => ?_
  rw [List.flatMap_cons, List.flatMap_map]
  rfl

theorem lookup_canonicalSection (values : Values) :
    (canonicalSection debug section' values).lookup key =
      if isCounted section' key then (values.lookup key).map debug else none := by
  rw [canonicalSection, lookup_sortedEntries, Table.lookup_filterMap]
  by_cases hcounted : isCounted section' key = true
  · simp only [hcounted, if_true]
    cases values.lookup key <;> rfl
  · simp only [hcounted]
    cases values.lookup key <;> rfl

theorem lookup_canonical (settings : ConnectionSettings) :
    (canonical debug settings).lookup section' =
      (settings.lookup section').map (canonicalSection debug section') := by
  rw [canonical, lookup_sortedEntries, Table.lookup_filterMap]
  cases settings.lookup section' <;> rfl

/-- What does not count is not hashed. -/
theorem canonical_congr
    (hsections : ∀ s, (a.lookup s).isSome = (b.lookup s).isSome)
    (hfields : ∀ s k, isCounted s k = true → field a s k = field b s k) :
    canonical debug a = canonical debug b := by
  refine sortedEntries_congr fun s => ?_
  have hsection := hsections s
  have hfield := hfields s
  rw [Table.lookup_filterMap, Table.lookup_filterMap]
  simp only [field] at hfield
  cases ha : a.lookup s with
  | none =>
    rw [ha, Option.isSome_none, eq_comm, Option.isSome_eq_false_iff, Option.isNone_iff_eq_none] at hsection
    rw [hsection]
  | some v =>
    rw [ha, Option.isSome_some, eq_comm, Option.isSome_iff_exists] at hsection
    obtain ⟨w, hw⟩ := hsection
    rw [ha, hw] at hfield
    rw [hw]
    refine congrArg some (sortedEntries_congr fun k => ?_)
    rw [← lookup_sortedEntries, ← lookup_sortedEntries]
    change (canonicalSection debug s v).lookup k = (canonicalSection debug s w).lookup k
    rw [lookup_canonicalSection, lookup_canonicalSection]
    by_cases hcounted : isCounted s k = true
    · rw [show v.lookup k = w.lookup k from hfield k hcounted]
    · rw [if_neg hcounted, if_neg hcounted]

/-- And what counts is read from what is hashed, if values differ in their texts. -/
theorem canonical_fields (hcanonical : canonical debug a = canonical debug b)
    (hdebug : ∀ s k v w, isCounted s k = true → field a s k = some v → field b s k = some w →
      debug v = debug w → v = w) :
    (∀ s, (a.lookup s).isSome = (b.lookup s).isSome) ∧
      ∀ s k, isCounted s k = true → field a s k = field b s k := by
  have hlookup : ∀ s, (a.lookup s).map (canonicalSection debug s) =
      (b.lookup s).map (canonicalSection debug s) := by
    intro s
    rw [← lookup_canonical, ← lookup_canonical, hcanonical]
  refine ⟨fun s => ?_, fun s k hcounted => ?_⟩
  · have hsome := congrArg Option.isSome (hlookup s)
    rwa [Option.isSome_map, Option.isSome_map] at hsome
  · have htexts : (field a s k).map debug = (field b s k).map debug := by
      have hentries := congrArg (fun o => o.bind fun l => l.lookup k) (hlookup s)
      simp only [Option.bind_map, Function.comp_def, lookup_canonicalSection, hcounted, if_true]
        at hentries
      rwa [field, field, Option.map_bind, Option.map_bind]
    cases ha : field a s k with
    | none =>
      rw [ha, Option.map_none, eq_comm, Option.map_eq_none_iff] at htexts
      exact htexts.symm
    | some v =>
      rw [ha, Option.map_some, eq_comm, Option.map_eq_some_iff] at htexts
      obtain ⟨w, hw, hsame⟩ := htexts
      rw [hw, hdebug s k v w hcounted ha hw hsame.symm]

/-! ## Names that do not run together -/

/-- A section of one of two settings. -/
def IsSection (a b : ConnectionSettings) (name : String) : Prop :=
  (a.lookup name).isSome = true ∨ (b.lookup name).isSome = true

/-- A counted value of one of two settings, and its key. -/
def IsEntry (a b : ConnectionSettings) (key : String) (value : Value) : Prop :=
  ∃ s, isCounted s key = true ∧ (field a s key = some value ∨ field b s key = some value)

/-- How the values of two settings are written: each text begins `OwnedValue(`, and no text is
that of another value or begins one. -/
structure Written (debug : Value → String) (a b : ConnectionSettings) : Prop where
  opens : ∀ k v, IsEntry a b k v → ∃ rest, bytes (debug v) = bytes "OwnedValue" ++ 40 :: rest
  reads : ∀ k v k' v', IsEntry a b k v → IsEntry a b k' v' → ∀ r r',
    bytes (debug v) ++ r = bytes (debug v') ++ r' → v = v' ∧ r = r'

/-- The names of two settings can be told apart when written one after the other: none has a
parenthesis, and what sections, or sections and a key, spell is spelled by no others. -/
structure Separate (a b : ConnectionSettings) : Prop where
  section_unmarked : ∀ s, IsSection a b s → 40 ∉ bytes s
  key_unmarked : ∀ k v, IsEntry a b k v → 40 ∉ bytes k
  sections : ∀ ss ss' : List String, (∀ s ∈ ss, IsSection a b s) → (∀ s ∈ ss', IsSection a b s) →
    ss.flatMap bytes = ss'.flatMap bytes → ss = ss'
  keys : ∀ (ss ss' : List String) (k k' : String), (∀ s ∈ ss, IsSection a b s) →
    (∀ s ∈ ss', IsSection a b s) → (∃ v, IsEntry a b k v) → (∃ v, IsEntry a b k' v) →
    ss.flatMap bytes ++ bytes k = ss'.flatMap bytes ++ bytes k' → ss = ss' ∧ k = k'

theorem legible (hwritten : Written debug a b) (hseparate : Separate a b) :
    Spelling.Legible bytes bytes (bytes "OwnedValue") 40 (IsSection a b)
      (fun k => ∃ v, IsEntry a b k v) (fun t => ∃ k v, IsEntry a b k v ∧ debug v = t) where
  opens := by
    rintro t ⟨k, v, hentry, rfl⟩
    exact hwritten.opens k v hentry
  opening_unmarked := by decide +kernel
  heading_unmarked := hseparate.section_unmarked
  key_unmarked := by
    rintro k ⟨v, hentry⟩
    exact hseparate.key_unmarked k v hentry
  reads := by
    rintro t t' ⟨k, v, hentry, rfl⟩ ⟨k', v', hentry', rfl⟩ r r' heq
    obtain ⟨rfl, hrest⟩ := hwritten.reads k v k' v' hentry hentry' r r' heq
    exact ⟨rfl, hrest⟩
  headings := hseparate.sections
  keys := hseparate.keys

/-- The sections and entries that are hashed are those of the settings. -/
theorem canonical_occurs {settings : ConnectionSettings}
    (hsections : ∀ s, (settings.lookup s).isSome = true → IsSection a b s)
    (hentries : ∀ s k v, isCounted s k = true → field settings s k = some v → IsEntry a b k v) :
    ∀ s ∈ canonical debug settings, IsSection a b s.1 ∧
      ∀ e ∈ s.2, (∃ v, IsEntry a b e.1 v) ∧ ∃ k v, IsEntry a b k v ∧ debug v = e.2 := by
  rintro ⟨s, entries⟩ hs
  have hlookup := mem_sortedEntries.mp hs
  rw [Table.lookup_filterMap, Option.bind_eq_some_iff] at hlookup
  obtain ⟨values, hvalues, heq⟩ := hlookup
  obtain rfl := Option.some.inj heq
  refine ⟨hsections s (by rw [hvalues]; rfl), ?_⟩
  rintro ⟨k, t⟩ he
  have hentry := mem_sortedEntries.mp he
  rw [Table.lookup_filterMap, Option.bind_eq_some_iff] at hentry
  obtain ⟨v, hv, htext⟩ := hentry
  by_cases hcounted : isCounted s k = true
  · rw [if_pos hcounted] at htext
    have hfield : field settings s k = some v := by rw [field, hvalues]; exact hv
    have hthere := hentries s k v hcounted hfield
    exact ⟨⟨v, hthere⟩, k, v, hthere, Option.some.inj htext⟩
  · rw [if_neg hcounted] at htext
    cases htext

/-- What is hashed is read back from its bytes. -/
theorem hashed_canonical (hwritten : Written debug a b) (hseparate : Separate a b)
    (h : hashed debug a = hashed debug b) : canonical debug a = canonical debug b := by
  rw [hashed_items, hashed_items] at h
  refine Spelling.spelled_eq (legible hwritten hseparate) ?_ ?_ h
  · exact canonical_occurs (fun s hs => .inl hs) fun s k v hcounted hv => ⟨s, hcounted, .inl hv⟩
  · exact canonical_occurs (fun s hs => .inr hs) fun s k v hcounted hv => ⟨s, hcounted, .inr hv⟩

/-! ## The token and the public policy -/

theorem isCounted_of_not_hidden (h : ¬ Hidden section' key) : isCounted section' key = true := by
  rw [isCounted, Bool.or_eq_true, decide_eq_true_eq]
  by_cases hsection : section' = "connection"
  · right
    have hkey : key ≠ "timestamp" := fun hkey => h (.inr (.inr (.inl ⟨hsection, hkey⟩)))
    simp [volatileConnectionKeys, hkey]
  · exact .inl hsection

variable {pa pb : ConnectionSettings}

/-- Settings with the same counted fields have the same public policy. -/
theorem samePolicy_of_counted (ha : publicSettings a = .ok pa) (hb : publicSettings b = .ok pb)
    (hsections : ∀ s, (a.lookup s).isSome = (b.lookup s).isSome)
    (hfields : ∀ s k, isCounted s k = true → field a s k = field b s k) :
    sameSettings pa pb = true := by
  refine sameSettings_iff.mpr fun s => ⟨?_, fun k => ?_⟩
  · rw [publicSettings_isSome ha, publicSettings_isSome hb, hsections]
  · rw [publicSettings_field ha, publicSettings_field hb]
    by_cases hhidden : Hidden s k
    · rw [if_pos hhidden, if_pos hhidden]
    · rw [if_neg hhidden, if_neg hhidden, hfields s k (isCounted_of_not_hidden hhidden)]

/-- The preshared keys of peers. -/
def presharedKeys (value : Value) : List (Option Value) :=
  ((valueDicts value).getD []).map fun peer => peer.lookup "preshared-key"

/-- Two settings hold the same secrets and the same list of seen access points. Peers are in
NetworkManager's encoding. -/
structure SameHeld (a b : ConnectionSettings) : Prop where
  secrets : ∀ s k, k ∈ knownKeys s ∨ (s = "vpn" ∧ k = "secrets") → field a s k = field b s k
  seen : field a "802-11-wireless" "seen-bssids" = field b "802-11-wireless" "seen-bssids"
  preshared : (field a "wireguard" "peers").map presharedKeys =
    (field b "wireguard" "peers").map presharedKeys
  encoded : ∀ v, field a "wireguard" "peers" = some v ∨ field b "wireguard" "peers" = some v →
    ∃ ps, v = encodeDicts ps

theorem presharedKeys_encode (ps : List Values) :
    presharedKeys (encodeDicts ps) = ps.map (AList.lookup "preshared-key") := by
  rw [presharedKeys, valueDicts_encodeDicts, Option.getD_some, List.map_map]
  exact List.map_congr_left fun p _ => lookup_sortedEntries p "preshared-key"

/-- What peers hold is what they hold in public and their preshared keys. -/
theorem encodeDicts_of_public {ps qs : List Values}
    (hpublic : publicPeers (encodeDicts ps) = publicPeers (encodeDicts qs))
    (hpreshared : presharedKeys (encodeDicts ps) = presharedKeys (encodeDicts qs)) :
    encodeDicts ps = encodeDicts qs := by
  rw [presharedKeys_encode, presharedKeys_encode] at hpreshared
  simp only [publicPeers, valueDicts_encodeDicts, Option.getD_some, List.map_map] at hpublic
  obtain ⟨-, helements⟩ := Value.array.inj hpublic
  rw [List.map_map, List.map_map] at helements
  clear hpublic
  refine encodeDicts_congr ?_
  induction ps generalizing qs with
  | nil =>
    cases qs with
    | nil => exact .nil
    | cons q qs => cases hpreshared
  | cons p ps ih =>
    cases qs with
    | nil => cases hpreshared
    | cons q qs =>
      obtain ⟨hkey, hkeys⟩ := List.cons.inj hpreshared
      obtain ⟨hfirst, hrest⟩ := List.cons.inj helements
      refine .cons (fun k => ?_) (ih hkeys hrest)
      obtain ⟨-, hentries⟩ := Value.dict.inj hfirst
      by_cases hk : k = "preshared-key"
      · rw [hk, hkey]
      · have hlookup := congrArg (List.lookup k) hentries
        simp only [Function.comp_apply, lookup_sortedEntries] at hlookup
        rw [AList.lookup_erase_ne hk, AList.lookup_erase_ne hk, lookup_tableOf, lookup_tableOf,
          lookup_sortedEntries, lookup_sortedEntries] at hlookup
        exact hlookup.symm

theorem peers_eq (ha : publicSettings a = .ok pa) (hb : publicSettings b = .ok pb)
    (hsame : sameSettings pa pb = true) (hheld : SameHeld a b) :
    field a "wireguard" "peers" = field b "wireguard" "peers" := by
  have hpublic := (sameSettings_iff.mp hsame "wireguard").2 "peers"
  rw [publicSettings_field ha, publicSettings_field hb, if_neg peers_not_hidden,
    if_neg peers_not_hidden, if_pos ⟨rfl, rfl⟩, if_pos ⟨rfl, rfl⟩] at hpublic
  have hpreshared := hheld.preshared
  cases hv : field a "wireguard" "peers" with
  | none =>
    rw [hv, Option.map_none, eq_comm, Option.map_eq_none_iff] at hpublic
    exact hpublic.symm
  | some v =>
    rw [hv, Option.map_some, eq_comm, Option.map_eq_some_iff] at hpublic
    obtain ⟨w, hw, hpeers⟩ := hpublic
    rw [hv, hw, Option.map_some, Option.map_some] at hpreshared
    obtain ⟨ps, rfl⟩ := hheld.encoded v (.inl hv)
    obtain ⟨qs, rfl⟩ := hheld.encoded w (.inr hw)
    rw [hw, encodeDicts_of_public hpeers.symm (Option.some.inj hpreshared)]

/-- Settings with the same public policy that hold the same values it leaves out have the same
counted fields. -/
theorem counted_of_samePolicy (ha : publicSettings a = .ok pa) (hb : publicSettings b = .ok pb)
    (hsame : sameSettings pa pb = true) (hheld : SameHeld a b) :
    (∀ s, (a.lookup s).isSome = (b.lookup s).isSome) ∧
      ∀ s k, isCounted s k = true → field a s k = field b s k := by
  refine ⟨fun s => ?_, fun s k hcounted => ?_⟩
  · rw [← publicSettings_isSome ha, ← publicSettings_isSome hb, (sameSettings_iff.mp hsame s).1]
  · by_cases hhidden : Hidden s k
    · rcases hhidden with hknown | hvpn | ⟨rfl, rfl⟩ | ⟨rfl, rfl⟩
      · exact hheld.secrets s k (.inl hknown)
      · exact hheld.secrets s k (.inr hvpn)
      · cases hcounted
      · exact hheld.seen
    · by_cases hpeers : s = "wireguard" ∧ k = "peers"
      · obtain ⟨rfl, rfl⟩ := hpeers
        exact peers_eq ha hb hsame hheld
      · have hfield := (sameSettings_iff.mp hsame s).2 k
        rwa [publicSettings_field ha, publicSettings_field hb, if_neg hhidden, if_neg hhidden,
          if_neg hpeers, if_neg hpeers] at hfield

/-- **Tokens follow the public policy**: with the same public policy and the same values it
leaves out, an editor's token is accepted and sharing is not interrupted; with different
policies, different bytes are hashed. -/
theorem version_policy (debug : Value → String) {a b pa pb : ConnectionSettings}
    (ha : publicSettings a = .ok pa) (hb : publicSettings b = .ok pb) :
    (sameSettings pa pb = true → SameHeld a b →
      profileVersion debug a = profileVersion debug b ∧
        checkExpectedVersion debug b (some (profileVersion debug a)) = .ok () ∧
        shareVersion debug a b = .ok (profileVersion debug a)) ∧
      (sameSettings pa pb = false → Written debug a b → Separate a b →
        hashed debug a ≠ hashed debug b) := by
  refine ⟨fun hsame hheld => ?_, fun hdifferent hwritten hseparate hhashed => ?_⟩
  · obtain ⟨hsections, hfields⟩ := counted_of_samePolicy ha hb hsame hheld
    have hversion : profileVersion debug a = profileVersion debug b := by
      rw [profileVersion_hashed, profileVersion_hashed, hashed, hashed,
        canonical_congr hsections hfields]
    refine ⟨hversion, ?_, ?_⟩
    · rw [checkExpectedVersion, if_pos hversion.symm]
    · rw [shareVersion, if_neg (not_not_intro hversion.symm)]
  · have hcanonical := hashed_canonical hwritten hseparate hhashed
    obtain ⟨hsections, hfields⟩ := canonical_fields hcanonical fun s k v w hcounted hv hw hsame =>
      (hwritten.reads k v k w ⟨s, hcounted, .inl hv⟩ ⟨s, hcounted, .inr hw⟩ [] []
        (by rw [hsame])).1
    rw [samePolicy_of_counted ha hb hsections hfields] at hdifferent
    cases hdifferent

/-- Texts as the `Debug` of the D-Bus library writes them, for the values used below. -/
def sampleDebug : Value → String
  | .str text => "OwnedValue(Str(Str(\"" ++ text ++ "\")))"
  | .array _ [.str text] => "OwnedValue(Array(Array([Str(Str(\"" ++ text ++ "\"))])))"
  | _ => "OwnedValue(Value)"

/-- A profile with a name and the time of its last use. -/
def namedProfile (id : String) (timestamp : UInt64) : ConnectionSettings :=
  AList.insert "connection"
    ((AList.insert "id" (.str id) ∅).insert "timestamp" (.u64 timestamp)) ∅

theorem namedProfile_field (id : String) (timestamp : UInt64) (s k : String) :
    field (namedProfile id timestamp) s k =
      if s = "connection" then
        if k = "timestamp" then some (.u64 timestamp) else if k = "id" then some (.str id) else none
      else none := by
  rw [field, namedProfile, Table.lookup_insert_ite]
  by_cases hs : s = "connection"
  · rw [if_pos hs, if_pos hs, Option.bind_some, Table.lookup_insert_ite, Table.lookup_insert_ite]
    rfl
  · rw [if_neg hs, if_neg hs]
    rfl

variable {id id' : String} {t t' : UInt64}

theorem namedProfile_section {s : String}
    (h : IsSection (namedProfile id t) (namedProfile id' t') s) : s = "connection" := by
  by_contra hs
  rw [IsSection, namedProfile, namedProfile, AList.lookup_insert_ne hs, AList.lookup_insert_ne hs] at h
  rcases h with h | h <;> cases h

theorem namedProfile_entry {k : String} {v : Value}
    (h : IsEntry (namedProfile id t) (namedProfile id' t') k v) :
    k = "id" ∧ (v = .str id ∨ v = .str id') := by
  obtain ⟨s, hcounted, h⟩ := h
  rw [namedProfile_field, namedProfile_field] at h
  by_cases hs : s = "connection"
  · subst hs
    have hk : k ≠ "timestamp" := by
      rintro rfl
      cases hcounted
    rw [if_pos rfl, if_pos rfl, if_neg hk, if_neg hk] at h
    by_cases hid : k = "id"
    · rw [if_pos hid, if_pos hid] at h
      exact ⟨hid, h.imp (fun h => (Option.some.inj h).symm) fun h => (Option.some.inj h).symm⟩
    · rw [if_neg hid, if_neg hid] at h
      rcases h with h | h <;> cases h
  · rw [if_neg hs, if_neg hs] at h
    rcases h with h | h <;> cases h

theorem named_written : Written sampleDebug (namedProfile "Home" 1) (namedProfile "Work" 1) where
  opens := by
    intro k v hentry
    rcases (namedProfile_entry hentry).2 with rfl | rfl
    · exact ⟨(bytes (sampleDebug (.str "Home"))).drop 11, by decide +kernel⟩
    · exact ⟨(bytes (sampleDebug (.str "Work"))).drop 11, by decide +kernel⟩
  reads := by
    intro k v k' v' hentry hentry' r r' heq
    rcases (namedProfile_entry hentry).2 with rfl | rfl <;>
      rcases (namedProfile_entry hentry').2 with rfl | rfl
    · exact ⟨rfl, List.append_cancel_left heq⟩
    · exact absurd (List.append_inj_left heq (by decide +kernel)) (by decide +kernel)
    · exact absurd (List.append_inj_left heq (by decide +kernel)) (by decide +kernel)
    · exact ⟨rfl, List.append_cancel_left heq⟩

/-- One section and one key do not run together. -/
theorem named_separate : Separate (namedProfile id t) (namedProfile id' t') := by
  have hreplicate : ∀ {ss : List String},
      (∀ s ∈ ss, IsSection (namedProfile id t) (namedProfile id' t') s) →
      ss = List.replicate ss.length "connection" := fun hss =>
    List.eq_replicate_of_mem fun s hs => namedProfile_section (hss s hs)
  have hsections : ∀ ss ss' : List String,
      (∀ s ∈ ss, IsSection (namedProfile id t) (namedProfile id' t') s) →
      (∀ s ∈ ss', IsSection (namedProfile id t) (namedProfile id' t') s) →
      ss.flatMap bytes = ss'.flatMap bytes → ss = ss' := by
    intro ss ss' hss hss' heq
    have hlength := congrArg List.length heq
    have hten : (bytes "connection").length = 10 := by decide +kernel
    rw [hreplicate hss, hreplicate hss', List.length_flatMap, List.length_flatMap] at hlength
    rw [List.map_replicate, List.map_replicate, List.sum_replicate_nat, List.sum_replicate_nat,
      hten] at hlength
    have hsame : ss.length = ss'.length := by omega
    rw [hreplicate hss, hreplicate hss', hsame]
  refine ⟨fun s hs => ?_, fun k v hentry => ?_, hsections, fun ss ss' k k' hss hss' hk hk' heq => ?_⟩
  · rw [namedProfile_section hs]
    decide +kernel
  · rw [(namedProfile_entry hentry).1]
    decide +kernel
  · obtain ⟨v, hentry⟩ := hk
    obtain ⟨v', hentry'⟩ := hk'
    obtain rfl := (namedProfile_entry hentry).1
    obtain rfl := (namedProfile_entry hentry').1
    exact ⟨hsections ss ss' hss hss' (List.append_cancel_right heq), rfl⟩

theorem named_held (id : String) (t t' : UInt64) :
    SameHeld (namedProfile id t) (namedProfile id t') where
  secrets := by
    rintro s k (hknown | ⟨rfl, rfl⟩)
    · rw [namedProfile_field, namedProfile_field]
      by_cases hs : s = "connection"
      · subst hs
        cases hknown
      · rw [if_neg hs, if_neg hs]
    · rfl
  seen := rfl
  preshared := rfl
  encoded := by
    rintro v (h | h) <;> cases h

/-- A later use leaves the token, another name changes what is hashed. -/
theorem version_policy_named :
    (profileVersion sampleDebug (namedProfile "Home" 1) =
        profileVersion sampleDebug (namedProfile "Home" 2) ∧
      checkExpectedVersion sampleDebug (namedProfile "Home" 2)
        (some (profileVersion sampleDebug (namedProfile "Home" 1))) = .ok () ∧
      shareVersion sampleDebug (namedProfile "Home" 1) (namedProfile "Home" 2) =
        .ok (profileVersion sampleDebug (namedProfile "Home" 1))) ∧
      hashed sampleDebug (namedProfile "Home" 1) ≠ hashed sampleDebug (namedProfile "Work" 1) := by
  have hpublic : ∀ id t, publicSettings (namedProfile id t) =
      .ok (AList.insert "connection" (AList.insert "id" (.str id) ∅) ∅) := fun id t => rfl
  exact ⟨(version_policy sampleDebug (hpublic "Home" 1) (hpublic "Home" 2)).1 (by decide +kernel)
      (named_held "Home" 1 2),
    (version_policy sampleDebug (hpublic "Home" 1) (hpublic "Work" 1)).2 (by decide +kernel)
      named_written named_separate⟩

/-- A profile with one field. -/
def oneField (section' key : String) (value : Value) : ConnectionSettings :=
  AList.insert section' (AList.insert key value ∅) ∅

/-- A token also follows what the public policy leaves out: the access points NetworkManager has
seen, and secrets if the settings hold any. And names run together. -/
theorem version_beyond_policy :
    (∃ a b p, publicSettings a = .ok p ∧ publicSettings b = .ok p ∧
      field a "802-11-wireless" "seen-bssids" ≠ field b "802-11-wireless" "seen-bssids" ∧
      profileVersion sampleDebug a ≠ profileVersion sampleDebug b) ∧
    (∃ a b p, publicSettings a = .ok p ∧ publicSettings b = .ok p ∧
      field a "802-11-wireless-security" "psk" ≠ field b "802-11-wireless-security" "psk" ∧
      profileVersion sampleDebug a ≠ profileVersion sampleDebug b) ∧
    (∃ a b pa pb, publicSettings a = .ok pa ∧ publicSettings b = .ok pb ∧
      sameSettings pa pb = false ∧ ∀ debug, hashed debug a = hashed debug b) := by
  refine ⟨?_, ?_, ?_⟩
  · refine ⟨oneField "802-11-wireless" "seen-bssids" (.array "s" [.str "00:11:22:33:44:55"]),
      oneField "802-11-wireless" "seen-bssids" (.array "s" [.str "00:11:22:33:44:66"]),
      AList.insert "802-11-wireless" ∅ ∅, rfl, rfl, ?_, ?_⟩
    · decide +kernel
    · decide +kernel
  · refine ⟨oneField "802-11-wireless-security" "psk" (.str "first secret"),
      oneField "802-11-wireless-security" "psk" (.str "second secret"),
      AList.insert "802-11-wireless-security" ∅ ∅, rfl, rfl, ?_, ?_⟩
    · decide +kernel
    · decide +kernel
  · refine ⟨oneField "ipv4" "method" (.str "auto"), oneField "ipv" "4method" (.str "auto"),
      oneField "ipv4" "method" (.str "auto"), oneField "ipv" "4method" (.str "auto"), rfl, rfl,
      by decide +kernel, fun debug => ?_⟩
    have hleft : hashed debug (oneField "ipv4" "method" (.str "auto")) =
        (bytes "ipv4" ++ bytes "method") ++ bytes (debug (.str "auto")) := by
      have hcanonical : canonical debug (oneField "ipv4" "method" (.str "auto")) =
          [("ipv4", [("method", debug (.str "auto"))])] := rfl
      simp [hashed, hcanonical]
    have hright : hashed debug (oneField "ipv" "4method" (.str "auto")) =
        (bytes "ipv" ++ bytes "4method") ++ bytes (debug (.str "auto")) := by
      have hcanonical : canonical debug (oneField "ipv" "4method" (.str "auto")) =
          [("ipv", [("4method", debug (.str "auto"))])] := rfl
      simp [hashed, hcanonical]
    have hnames : bytes "ipv4" ++ bytes "method" = bytes "ipv" ++ bytes "4method" := by
      decide +kernel
    rw [hleft, hright, hnames]

end ProfileSettings

end NmDaemon
