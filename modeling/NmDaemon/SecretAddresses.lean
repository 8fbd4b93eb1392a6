import Mathlib.Data.List.Forall2
import NmDaemon.Base.Fallible
import NmDaemon.NetworkCredentials

/-!
# The addresses of secrets

Where settings keep a secret, and what writing or merging secrets does at every address.

* `Address`, `slot` — the three places a secret can be, and what is there;
* `offered` — what a merge takes from settings at an address;
* `SameExcept` — two settings that differ at some addresses only: the fields, the VPN
  secrets and the peers are compared by what they hold, since maps and peers are written
  anew as a whole;
* `setText_wrote` — writing the text of one secret;
* `mergeSecrets_slot`, `mergeSecrets_sameExcept` — taking over the secrets of other settings.
-/

namespace NmDaemon

namespace Credentials

open Fallible

/-- Where a secret is: under a key of a section, under a name in the secrets of a VPN, or
with the WireGuard peer that has a public key. -/
inductive Address : Type where
  | flat (section' key : String)
  | vpn (name : String)
  | peer (public' : String)
  deriving DecidableEq

namespace Address

def section' : Address → String
  | .flat section' _ => section'
  | .vpn _ => "vpn"
  | .peer _ => "wireguard"

/-- The schema knows a secret there. -/
def Supported : Address → Prop
  | .flat section' key => key ∈ knownKeys section'
  | .vpn _ => True
  | .peer _ => True

instance decidableSupported : (address : Address) → Decidable address.Supported
  | .flat section' key => inferInstanceAs (Decidable (key ∈ knownKeys section'))
  | .vpn _ => isTrue trivial
  | .peer _ => isTrue trivial

end Address

/-- The address of a secret a request names. -/
def addressOf (section' key : String) : Address :=
  if section' = "vpn" then .vpn key
  else
    match (if section' = "wireguard" then peerKey key else none) with
    | some public' => .peer public'
    | none => .flat section' key

/-- Plugins' secrets are none of the flat ones. -/
theorem known_flat {section' key : String} (h : key ∈ knownKeys section') :
    (section' ≠ "vpn") ∧ (if section' = "wireguard" then peerKey key else none) = none := by
  refine ⟨?_, ?_⟩
  · rintro rfl
    exact List.not_mem_nil h
  · split_ifs with hwireguard
    · subst hwireguard
      rw [List.mem_singleton.mp h]
      decide +kernel
    · rfl

/-! ## What settings hold -/

def field (settings : ConnectionSettings) (section' key : String) : Option Value :=
  (settings.lookup section').bind (AList.lookup key)

/-- The secrets of a VPN. -/
def vpnSecrets (settings : ConnectionSettings) : List (String × String) :=
  ((field settings "vpn" "secrets").bind valueStringMap).getD []

/-- The peers of a WireGuard connection. -/
def peersOf (settings : ConnectionSettings) : List Values :=
  (((field settings "wireguard" "peers").bind valueDicts).getD []).map tableOf

/-- The preshared key of the peer with a public key. -/
def presharedKey (peers : List Values) (public' : String) : Option Value :=
  (peers.find? (isPeer public')).bind (AList.lookup "preshared-key")

/-- What settings hold at an address. -/
def slot (settings : ConnectionSettings) : Address → Option Value
  | .flat section' key => field settings section' key
  | .vpn name => ((vpnSecrets settings).lookup name).map Value.str
  | .peer public' => presharedKey (peersOf settings) public'

/-- The preshared key a list of peers has for a public key, the last one if there are more. -/
def offeredKey (peers : List Values) (public' : String) : Option Value :=
  peers.reverse.findSome? fun peer =>
    if isPeer public' peer then peer.lookup "preshared-key" else none

/-- What a merge takes from settings at an address: what they hold there, where what is listed
more than once counts as it is listed last. -/
def offered (settings : ConnectionSettings) : Address → Option Value
  | .flat section' key => field settings section' key
  | .vpn name => ((vpnSecrets settings).reverse.lookup name).map Value.str
  | .peer public' => offeredKey (peersOf settings) public'

/-- Nothing is held that is not offered. -/
theorem slot_eq_none_of_offered {settings : ConnectionSettings} {address : Address}
    (h : offered settings address = none) : slot settings address = none := by
  cases address with
  | flat section' key => exact h
  | vpn name =>
    simp only [offered, Option.map_eq_none_iff, List.lookup_eq_none_iff] at h
    simp only [slot, Option.map_eq_none_iff, List.lookup_eq_none_iff]
    exact fun e he => h e (List.mem_reverse.mpr he)
  | peer public' =>
    rw [offered, offeredKey, List.findSome?_eq_none_iff] at h
    rw [slot, presharedKey, Option.bind_eq_none_iff]
    intro peer hpeer
    have hnone := h peer (List.mem_reverse.mpr (List.mem_of_find?_eq_some hpeer))
    rwa [if_pos (List.find?_some hpeer)] at hnone

/-! ## Settings that differ at some addresses only -/

/-- The values that hold further secrets. -/
def Container (section' key : String) : Prop :=
  (section' = "vpn" ∧ key = "secrets") ∨ (section' = "wireguard" ∧ key = "peers")

/-- Two peers that differ in the preshared key only. -/
def SamePublic (p q : Values) : Prop :=
  ∀ key, key ≠ "preshared-key" → q.lookup key = p.lookup key

/-- `b` differs from `a` at addresses with `A` only. -/
structure SameExcept (A : Address → Prop) (a b : ConnectionSettings) : Prop where
  field_eq : ∀ section' key, ¬ Container section' key → ¬ A (.flat section' key) →
    field b section' key = field a section' key
  vpn_eq : ∀ name, ¬ A (.vpn name) → slot b (.vpn name) = slot a (.vpn name)
  peers : List.Forall₂ SamePublic (peersOf a) (peersOf b)
  peer_eq : ∀ public', ¬ A (.peer public') → slot b (.peer public') = slot a (.peer public')

theorem SamePublic.refl (p : Values) : SamePublic p p := fun _ _ => rfl

theorem SamePublic.trans {p q r : Values} (h₁ : SamePublic p q) (h₂ : SamePublic q r) :
    SamePublic p r := fun key hkey => (h₂ key hkey).trans (h₁ key hkey)

theorem forall₂_samePublic_refl (peers : List Values) : List.Forall₂ SamePublic peers peers :=
  List.forall₂_same.mpr fun p _ => SamePublic.refl p

theorem forall₂_samePublic_trans {ps qs rs : List Values} (h₁ : List.Forall₂ SamePublic ps qs)
    (h₂ : List.Forall₂ SamePublic qs rs) : List.Forall₂ SamePublic ps rs := by
  induction h₁ generalizing rs with
  | nil => exact h₂
  | cons hpq _ ih =>
    obtain ⟨r, rest, hqr, hrest, rfl⟩ := List.forall₂_cons_left_iff.mp h₂
    exact .cons (hpq.trans hqr) (ih hrest)

namespace SameExcept

variable {A B : Address → Prop} {a b c : ConnectionSettings}

theorem refl (A : Address → Prop) (a : ConnectionSettings) : SameExcept A a a :=
  ⟨fun _ _ _ _ => rfl, fun _ _ => rfl, forall₂_samePublic_refl _, fun _ _ => rfl⟩

theorem trans (h₁ : SameExcept A a b) (h₂ : SameExcept A b c) : SameExcept A a c where
  field_eq section' key hc hA := (h₂.field_eq section' key hc hA).trans (h₁.field_eq section' key hc hA)
  vpn_eq name hA := (h₂.vpn_eq name hA).trans (h₁.vpn_eq name hA)
  peers := forall₂_samePublic_trans h₁.peers h₂.peers
  peer_eq public' hA := (h₂.peer_eq public' hA).trans (h₁.peer_eq public' hA)

theorem mono (h : SameExcept A a b) (hAB : ∀ address, A address → B address) :
    SameExcept B a b where
  field_eq section' key hc hB := h.field_eq section' key hc fun hA => hB (hAB _ hA)
  vpn_eq name hB := h.vpn_eq name fun hA => hB (hAB _ hA)
  peers := h.peers
  peer_eq public' hB := h.peer_eq public' fun hA => hB (hAB _ hA)

end SameExcept

/-! ## Peers -/

/-- A dictionary as it is read after it was written. -/
def rewritten (values : Values) : Values := tableOf (sortedEntries values)

@[simp] theorem lookup_rewritten (values : Values) (key : String) :
    (rewritten values).lookup key = values.lookup key := by
  rw [rewritten, lookup_tableOf, lookup_sortedEntries]

/-- Peers are told apart by a public field. -/
theorem SamePublic.isPeer {p q : Values} (h : SamePublic p q) (public' : String) :
    isPeer public' q = isPeer public' p := by
  have hkey : setting Value.asStr q "public-key" = setting Value.asStr p "public-key" := by
    rw [setting, setting, h "public-key" (by decide)]
  rw [Credentials.isPeer, Credentials.isPeer, hkey]

/-- What is done to every peer without touching its public fields. -/
theorem presharedKey_map {f : Values → Values} (hf : ∀ p, SamePublic p (f p)) (peers : List Values)
    (public' : String) :
    presharedKey (peers.map f) public' =
      (peers.find? (isPeer public')).bind fun p => (f p).lookup "preshared-key" := by
  have hsame : isPeer public' ∘ f = isPeer public' := funext fun p => (hf p).isPeer public'
  rw [presharedKey, List.find?_map, hsame]
  cases peers.find? (isPeer public') <;> rfl

theorem samePublic_rewritten (p : Values) : SamePublic p (rewritten p) :=
  fun key _ => lookup_rewritten p key

theorem forall₂_samePublic_map {f : Values → Values} (hf : ∀ p, SamePublic p (f p))
    (peers : List Values) : List.Forall₂ SamePublic peers (peers.map f) := by
  rw [List.forall₂_map_right_iff]
  exact List.forall₂_same.mpr fun p _ => hf p

theorem presharedKey_rewritten (peers : List Values) (public' : String) :
    presharedKey (peers.map rewritten) public' = presharedKey peers public' := by
  rw [presharedKey_map samePublic_rewritten, presharedKey]
  simp only [lookup_rewritten]

theorem modify_findIdx {α : Type} (p : α → Bool) (f : α → α) {l : List α} (h : l.countP p = 1) :
    l.modify (l.findIdx p) f = l.map fun a => if p a then f a else a := by
  induction l with
  | nil => cases h
  | cons a l ih =>
    by_cases ha : p a = true
    · -- the one element is the first: the rest stays
      have hrest : l.countP p = 0 := by simpa [ha] using h
      have hmap : (l.map fun a => if p a then f a else a) = l :=
        (List.map_congr_left fun b hb => if_neg (List.countP_eq_zero.mp hrest b hb)).trans
          (List.map_id l)
      simp [List.findIdx_cons, ha, hmap]
    · have hrest : l.countP p = 1 := by simpa [ha] using h
      simp [List.findIdx_cons, ha, ih hrest]

/-- A value is assigned to the one peer with the public key. -/
theorem insertPeerValue_ok {peers changed : List Values} {name k : String} {value : Value}
    (h : insertPeerValue peers name k value = .ok changed) : peers.countP (isPeer name) = 1 ∧
      changed = peers.map fun p => if isPeer name p then p.insert k value else p := by
  have hcount : peers.countP (isPeer name) = 1 := by
    by_contra hcount
    rw [insertPeerValue, uniquePeer, if_neg hcount] at h
    cases h
  rw [insertPeerValue, uniquePeer, if_pos hcount] at h
  exact ⟨hcount, (Except.ok.inj h).symm.trans (modify_findIdx (isPeer name) _ hcount)⟩

/-- What assigning a preshared key does: the peer with the public key has it, everything else
stays. -/
theorem insertPeerValue_spec {peers changed : List Values} {public' : String} {value : Value}
    (h : insertPeerValue peers public' "preshared-key" value = .ok changed) :
    List.Forall₂ SamePublic peers changed ∧ presharedKey changed public' = some value ∧
      ∀ other, other ≠ public' → presharedKey changed other = presharedKey peers other := by
  obtain ⟨hcount, rfl⟩ := insertPeerValue_ok h
  have hf : ∀ p, SamePublic p (if isPeer public' p then p.insert "preshared-key" value else p) := by
    intro p
    split_ifs
    · exact fun key hkey => AList.lookup_insert_ne hkey
    · exact SamePublic.refl p
  refine ⟨forall₂_samePublic_map hf peers, ?_, fun other hother => ?_⟩
  · obtain ⟨p, hp, hpublic⟩ := List.countP_pos_iff.mp (by omega : 0 < peers.countP (isPeer public'))
    obtain ⟨q, hq⟩ := Option.isSome_iff_exists.mp (List.find?_isSome.mpr ⟨p, hp, hpublic⟩)
    rw [presharedKey_map hf, hq, Option.bind_some, if_pos (List.find?_some hq), AList.lookup_insert]
  · rw [presharedKey_map hf, presharedKey]
    rcases hq : peers.find? (isPeer other) with _ | q
    · rfl
    -- a peer has one public key
    · have hq' : isPeer public' q = false := by
        have hown := List.find?_some hq
        simp only [isPeer, decide_eq_true_eq, decide_eq_false_iff_not] at hown ⊢
        rw [hown]
        exact fun heq => hother (Option.some.inj heq)
      rw [Option.bind_some, Option.bind_some, hq']
      rfl

theorem mergePeer_spec {target merged : List Values} {peer : Values}
    (h : mergePeer target peer = .ok merged) :
    List.Forall₂ SamePublic target merged ∧ ∀ public', presharedKey merged public' =
      (offeredKey [peer] public').or (presharedKey target public') := by
  unfold mergePeer at h
  split at h
  next hsecret =>
    cases h
    refine ⟨forall₂_samePublic_refl _, fun public' => ?_⟩
    simp [offeredKey, hsecret]
  next secret hsecret =>
    split at h
    · cases h
    next own hown =>
      obtain ⟨hsame, hset, hother⟩ := insertPeerValue_spec h
      refine ⟨hsame, fun public' => ?_⟩
      by_cases hpublic : public' = own
      · subst hpublic
        simp [offeredKey, isPeer, hown, hsecret, hset]
      · have hne : ¬ own = public' := fun h => hpublic h.symm
        simp [offeredKey, isPeer, hown, hne, hother public' hpublic]

theorem offeredKey_cons (peer : Values) (peers : List Values) (public' : String) :
    offeredKey (peer :: peers) public' =
      (offeredKey peers public').or (offeredKey [peer] public') := by
  rw [offeredKey, List.reverse_cons, List.findSome?_append]
  rfl

/-- Taking over the preshared keys of peers, one after another. -/
theorem mergePeers_spec {incoming : List Values} :
    ∀ {target merged : List Values}, incoming.foldlM mergePeer target = .ok merged →
      List.Forall₂ SamePublic target merged ∧ ∀ public', presharedKey merged public' =
        (offeredKey incoming public').or (presharedKey target public') := by
  induction incoming with
  | nil =>
    intro target merged h
    cases h
    exact ⟨forall₂_samePublic_refl _, fun _ => rfl⟩
  | cons peer rest ih =>
    intro target merged h
    obtain ⟨next, hfirst, h⟩ := foldlM_cons_eq_ok.mp h
    obtain ⟨hsame, hslot⟩ := mergePeer_spec hfirst
    obtain ⟨hrest, hslots⟩ := ih h
    refine ⟨forall₂_samePublic_trans hsame hrest, fun public' => ?_⟩
    rw [hslots, hslot, ← Option.or_assoc, ← offeredKey_cons]

/-- The peers of a section, as they are decoded to be changed, are those that are read. -/
theorem peers_decoded {values : Values} {decoded : List Values} (h : peers values = .ok decoded) :
    (((values.lookup "peers").bind valueDicts).getD []).map tableOf = decoded := by
  unfold peers at h
  split at h
  next hnone =>
    cases h
    rw [hnone]
    rfl
  next value hvalue =>
    rw [hvalue, Option.bind_some]
    unfold decodePeers at h
    split at h
    next dicts hdicts =>
      cases h
      rw [hdicts]
      rfl
    · cases h

theorem lookup_foldl_insert (entries : List (String × String)) (name : String) :
    ∀ t : Table String String,
      (entries.foldl (fun t e => t.insert e.1 e.2) t).lookup name =
        (entries.reverse.lookup name).or (t.lookup name) := by
  induction entries with
  | nil => exact fun t => rfl
  | cons e entries ih =>
    intro t
    rw [List.foldl_cons, ih, List.reverse_cons, List.lookup_append, Option.or_assoc,
      Table.lookup_insert_ite]
    congr 1
    obtain ⟨k, v⟩ := e
    by_cases h : name = k
    · subst h
      rw [if_pos rfl, List.lookup_cons_self, Option.some_or]
    · have hne : (name == k) = false := beq_eq_false_iff_ne.mpr h
      rw [if_neg h, List.lookup_cons, hne, List.lookup_nil, Option.none_or]

/-- The secrets of a VPN where entries were added to them. -/
theorem slot_vpn_extended {a b : ConnectionSettings} {entries : List (String × String)}
    (h : field b "vpn" "secrets" = some (encodeStrings
      (entries.foldl (fun t e => t.insert e.1 e.2) (tableOf (vpnSecrets a))))) (name : String) :
    slot b (.vpn name) =
      ((entries.reverse.lookup name).map Value.str).or (slot a (.vpn name)) := by
  have hlookup : (vpnSecrets b).lookup name =
      (entries.reverse.lookup name).or ((vpnSecrets a).lookup name) := by
    rw [vpnSecrets, h, Option.bind_some, valueStringMap_encodeStrings, Option.getD_some,
      lookup_sortedEntries, lookup_foldl_insert, lookup_tableOf]
  rw [slot, hlookup, Option.map_or]
  rfl

/-- The preshared keys where peers were written. -/
theorem slot_peer_written {a b : ConnectionSettings} {peers : List Values}
    (h : field b "wireguard" "peers" = some (encodeDicts peers))
    (hsame : List.Forall₂ SamePublic (peersOf a) peers) :
    List.Forall₂ SamePublic (peersOf a) (peersOf b) ∧
      ∀ public', slot b (.peer public') = presharedKey peers public' := by
  have hpeers : peersOf b = peers.map rewritten := by
    rw [peersOf, h, Option.bind_some, valueDicts_encodeDicts, Option.getD_some, List.map_map]
    rfl
  refine ⟨?_, fun public' => ?_⟩
  · rw [hpeers]
    exact forall₂_samePublic_trans hsame (forall₂_samePublic_map samePublic_rewritten peers)
  · rw [slot, hpeers, presharedKey_rewritten]

/-! ## Writing one section -/

section Insert

variable {settings : ConnectionSettings} {section' : String} {values : Values}

theorem field_insert_same (key : String) :
    field (settings.insert section' values) section' key = values.lookup key := by
  rw [field, AList.lookup_insert, Option.bind_some]

theorem field_insert_of_ne {other : String} (h : other ≠ section') (key : String) :
    field (settings.insert section' values) other key = field settings other key := by
  rw [field, AList.lookup_insert_ne h, field]

theorem field_getD (key : String) :
    ((settings.lookup section').getD ∅).lookup key = field settings section' key := by
  rw [field]
  cases settings.lookup section' <;> rfl

end Insert

/-- The peers are read from one field. -/
theorem peersOf_congr {a b : ConnectionSettings}
    (h : field b "wireguard" "peers" = field a "wireguard" "peers") : peersOf b = peersOf a := by
  rw [peersOf, peersOf, h]

theorem vpnSecrets_congr {a b : ConnectionSettings}
    (h : field b "vpn" "secrets" = field a "vpn" "secrets") : vpnSecrets b = vpnSecrets a := by
  rw [vpnSecrets, vpnSecrets, h]

/-- Settings that differ in one field that holds no further secrets. -/
theorem sameExcept_flat {a b : ConnectionSettings} {section' key : String}
    (hcontainer : ¬ Container section' key)
    (h : ∀ s k, (s, k) ≠ (section', key) → field b s k = field a s k) :
    SameExcept (· = .flat section' key) a b := by
  have hvpn : field b "vpn" "secrets" = field a "vpn" "secrets" := by
    refine h _ _ fun heq => hcontainer (.inl ?_)
    cases heq
    exact ⟨rfl, rfl⟩
  have hpeers : field b "wireguard" "peers" = field a "wireguard" "peers" := by
    refine h _ _ fun heq => hcontainer (.inr ?_)
    cases heq
    exact ⟨rfl, rfl⟩
  refine ⟨fun s k _ hk => h s k fun heq => hk ?_, fun name _ => ?_, ?_, fun public' _ => ?_⟩
  · cases heq
    rfl
  · rw [slot, slot, vpnSecrets_congr hvpn]
  · rw [peersOf_congr hpeers]
    exact forall₂_samePublic_refl _
  · rw [slot, slot, peersOf_congr hpeers]

/-- Settings that differ in the secrets of the VPN. -/
theorem sameExcept_vpn {A : Address → Prop} {a b : ConnectionSettings}
    (hfield : ∀ s k, ¬ Container s k → ¬ A (.flat s k) → field b s k = field a s k)
    (hpeers : field b "wireguard" "peers" = field a "wireguard" "peers")
    (hname : ∀ name, ¬ A (.vpn name) → slot b (.vpn name) = slot a (.vpn name)) :
    SameExcept A a b := by
  refine ⟨hfield, hname, ?_, fun public' _ => ?_⟩
  · rw [peersOf_congr hpeers]
    exact forall₂_samePublic_refl _
  · rw [slot, slot, peersOf_congr hpeers]

theorem knownKeys_not_container {section' key : String} (h : key ∈ knownKeys section') :
    ¬ Container section' key := by
  rintro (⟨rfl, rfl⟩ | ⟨rfl, rfl⟩)
  · exact absurd h (by decide)
  · exact absurd h (by decide)

/-! ## Writing the text of a secret -/

/-- A text as a secret at an address holds it: `password-raw` is bytes. -/
def encodeText (address : Address) (text : String) : Value :=
  match address with
  | .flat _ key =>
    if key = "password-raw" then .array "y" (text.toUTF8.data.toList.map Value.byte) else .str text
  | _ => .str text

/-- A value was written at an address of a section, and nothing else. -/
structure Wrote (section' : String) (address : Address) (value : Value)
    (settings written : ConnectionSettings) : Prop where
  same : SameExcept (· = address) settings written
  slot_eq : slot written address = some value
  lookup_eq : ∀ name, name ≠ section' → written.lookup name = settings.lookup name

variable {settings written : ConnectionSettings} {section' key text : String}

theorem wrote_flat (value : Value) (h : key ∈ knownKeys section') :
    Wrote section' (.flat section' key) value settings
      (AList.insert section' (((settings.lookup section').getD ∅).insert key value)
        settings) := by
  refine ⟨sameExcept_flat (knownKeys_not_container h) fun s k hne => ?_, ?_, fun name hname => ?_⟩
  · by_cases hs : s = section'
    · subst hs
      have hk : k ≠ key := fun hk => hne (by rw [hk])
      rw [field_insert_same, AList.lookup_insert_ne hk, field_getD]
    · exact field_insert_of_ne hs k
  · rw [slot, field_insert_same, AList.lookup_insert]
  · exact AList.lookup_insert_ne hname

/-- The map of a VPN's secrets is written anew. -/
theorem wrote_vpn : Wrote "vpn" (.vpn key) (.str text) settings (AList.insert "vpn"
    (extendVpnMap ((settings.lookup "vpn").getD ∅) "secrets" [(key, text)]) settings) := by
  have hfield : field (AList.insert "vpn" (extendVpnMap ((settings.lookup "vpn").getD ∅)
      "secrets" [(key, text)]) settings) "vpn" "secrets" = some (encodeStrings
        ([(key, text)].foldl (fun t e => t.insert e.1 e.2) (tableOf (vpnSecrets settings)))) := by
    rw [field_insert_same, extendVpnMap, AList.lookup_insert, field_getD, vpnSecrets]
  have hslot := slot_vpn_extended hfield
  refine ⟨sameExcept_vpn ?_ (field_insert_of_ne (by decide) _) fun name hname => ?_, ?_,
    fun name hname => AList.lookup_insert_ne hname⟩
  · intro s k hcontainer _
    by_cases hs : s = "vpn"
    · subst hs
      have hk : k ≠ "secrets" := fun hk => hcontainer (.inl ⟨rfl, hk⟩)
      rw [field_insert_same, extendVpnMap, AList.lookup_insert_ne hk, field_getD]
    · exact field_insert_of_ne hs k
  · have hne : (name == key) = false :=
      beq_eq_false_iff_ne.mpr fun heq => hname (congrArg Address.vpn heq)
    rw [hslot, List.reverse_singleton, List.lookup_cons, hne]
    rfl
  · rw [hslot, List.reverse_singleton, List.lookup_cons_self]
    rfl

/-- The peers are written anew. -/
theorem wrote_peer {public' : String} {value : Value} {values changed : Values}
    (hvalues : settings.lookup "wireguard" = some values)
    (h : setPeerValue values public' "preshared-key" value = .ok changed) :
    Wrote "wireguard" (.peer public') value settings (settings.insert "wireguard" changed) := by
  rw [setPeerValue] at h
  obtain ⟨decoded, hdecoded, h⟩ := bind_eq_ok.mp h
  obtain ⟨inserted, hinsert, h⟩ := bind_eq_ok.mp h
  obtain rfl := Except.ok.inj h
  obtain ⟨hsame, hown, hother⟩ := insertPeerValue_spec hinsert
  have hpeers : peersOf settings = decoded := by
    rw [peersOf, field, hvalues, Option.bind_some, peers_decoded hdecoded]
  obtain ⟨hpublic, hslot⟩ := slot_peer_written (a := settings)
    ((field_insert_same "peers").trans (AList.lookup_insert values)) (hpeers ▸ hsame)
  refine ⟨⟨fun s k hcontainer _ => ?_, fun name _ => ?_, hpublic, fun other hne => ?_⟩, ?_,
    fun name hname => AList.lookup_insert_ne hname⟩
  · by_cases hs : s = "wireguard"
    · subst hs
      have hk : k ≠ "peers" := fun hk => hcontainer (.inr ⟨rfl, hk⟩)
      rw [field_insert_same, AList.lookup_insert_ne hk, field, hvalues, Option.bind_some]
    · exact field_insert_of_ne hs k
  · rw [slot, slot, vpnSecrets_congr (field_insert_of_ne (by decide) _)]
  · rw [hslot, slot, hpeers, hother other fun heq => hne (congrArg Address.peer heq)]
  · rw [hslot, hown]

/-- What writing a text does: the address has it, and nothing else differs. -/
theorem setText_wrote (h : setText settings section' key text = .ok written) :
    Wrote section' (addressOf section' key) (encodeText (addressOf section' key) text)
      settings written ∧ (addressOf section' key).Supported := by
  by_cases hvpn : section' = "vpn"
  · subst hvpn
    rw [setText, if_pos rfl] at h
    obtain rfl := Except.ok.inj h
    rw [addressOf, if_pos rfl]
    exact ⟨wrote_vpn, trivial⟩
  rw [setText, if_neg hvpn] at h
  rw [addressOf, if_neg hvpn]
  rcases hpeer : (if section' = "wireguard" then peerKey key else none) with _ | public'
  · rw [hpeer] at h
    change (if key ∈ knownKeys section' then _ else _) = _ at h
    by_cases hknown : key ∈ knownKeys section'
    · rw [if_pos hknown] at h
      obtain rfl := Except.ok.inj h
      exact ⟨wrote_flat (encodeText (.flat section' key) text) hknown, hknown⟩
    · rw [if_neg hknown] at h
      cases h
  · have hwireguard : section' = "wireguard" := by
      by_contra hne
      rw [if_neg hne] at hpeer
      cases hpeer
    subst hwireguard
    rw [hpeer] at h
    rcases hvalues : settings.lookup "wireguard" with _ | values
    · rw [hvalues] at h
      cases h
    rw [hvalues] at h
    obtain ⟨changed, hset, rfl⟩ := map_eq_ok.mp h
    exact ⟨wrote_peer hvalues hset, trivial⟩

/-! ## Merging -/

/-- What a merge of one value makes of a field. -/
def MergedField (section' key : String) (value : Value) (old new : Option Value) : Prop :=
  if section' = "vpn" ∧ key = "secrets" then
    ∃ incoming, valueStringMap value = some incoming ∧ new = some (encodeStrings
      (incoming.foldl (fun t e => t.insert e.1 e.2)
        (tableOf ((old.bind valueStringMap).getD []))))
  else if section' = "wireguard" ∧ key = "peers" then
    ∃ incoming merged, decodePeers value = .ok incoming ∧
      incoming.foldlM mergePeer (((old.bind valueDicts).getD []).map tableOf) = .ok merged ∧
      new = some (encodeDicts merged)
  else if key ∈ knownKeys section' then new = some value
  else new = old

theorem mergePeerSecrets_merged {dest dest' : Values} {value : Value}
    (h : mergePeerSecrets dest value = .ok dest') :
    ∃ incoming merged, decodePeers value = .ok incoming ∧
      incoming.foldlM mergePeer
        ((((dest.lookup "peers").bind valueDicts).getD []).map tableOf) = .ok merged ∧
      dest' = dest.insert "peers" (encodeDicts merged) := by
  obtain ⟨target, htarget, h⟩ := bind_eq_ok.mp h
  obtain ⟨incoming, hincoming, h⟩ := bind_eq_ok.mp h
  obtain ⟨merged, hmerged, h⟩ := bind_eq_ok.mp h
  rw [peers_decoded htarget]
  exact ⟨incoming, merged, hincoming, hmerged, (Except.ok.inj h).symm⟩

theorem mergeValue_merged {dest dest' : Values} {value : Value}
    (h : mergeValue section' dest key value = .ok dest') :
    (∀ k, k ≠ key → dest'.lookup k = dest.lookup k) ∧
      MergedField section' key value (dest.lookup key) (dest'.lookup key) := by
  unfold mergeValue at h
  unfold MergedField
  by_cases hvpn : section' = "vpn" ∧ key = "secrets"
  · rw [if_pos hvpn] at h ⊢
    obtain ⟨rfl, rfl⟩ := hvpn
    rcases hincoming : valueStringMap value with _ | incoming
    · rw [hincoming] at h
      cases h
    rw [hincoming] at h
    obtain rfl := Except.ok.inj h
    exact ⟨fun k hk => AList.lookup_insert_ne hk, incoming, rfl, AList.lookup_insert _⟩
  rw [if_neg hvpn] at h ⊢
  by_cases hpeers : section' = "wireguard" ∧ key = "peers"
  · rw [if_pos hpeers] at h ⊢
    obtain ⟨rfl, rfl⟩ := hpeers
    obtain ⟨incoming, merged, hincoming, hmerged, rfl⟩ := mergePeerSecrets_merged h
    exact ⟨fun k hk => AList.lookup_insert_ne hk, incoming, merged, hincoming, hmerged,
      AList.lookup_insert _⟩
  rw [if_neg hpeers] at h ⊢
  by_cases hknown : key ∈ knownKeys section'
  · rw [if_pos hknown] at h ⊢
    obtain rfl := Except.ok.inj h
    exact ⟨fun k hk => AList.lookup_insert_ne hk, AList.lookup_insert _⟩
  · rw [if_neg hknown] at h ⊢
    obtain rfl := Except.ok.inj h
    exact ⟨fun k _ => rfl, rfl⟩

variable {target source merged : ConnectionSettings}

section

variable (h : mergeSecrets target source = .ok merged)

include h

/-- What a merge does, section by section. -/
theorem mergeSecrets_lookup (section' : String) :
    (source.lookup section' = none →
      merged.lookup section' = target.lookup section') ∧
    ∀ values, source.lookup section' = some values →
      (target.lookup section' = none → merged.lookup section' = none) ∧
      ∀ dest, target.lookup section' = some dest →
        ∃ dest', values.pairs.foldlM (fun dest e => mergeValue section' dest e.1 e.2) dest =
          .ok dest' ∧ merged.lookup section' = some dest' := by
  refine Table.foldlM_pairs (P := fun section' values old new =>
    (old = none → new = none) ∧ ∀ dest, old = some dest →
      ∃ dest', values.pairs.foldlM (fun dest e => mergeValue section' dest e.1 e.2) dest =
        .ok dest' ∧ new = some dest') ?_ h section'
  intro target section' values target' hstep
  dsimp only at hstep
  rcases hdest : target.lookup section' with _ | dest
  · rw [hdest] at hstep
    obtain rfl := Except.ok.inj hstep
    exact ⟨fun _ _ => rfl, fun _ => hdest, fun dest hdest => by cases hdest⟩
  · rw [hdest] at hstep
    obtain ⟨dest', hdest', rfl⟩ := map_eq_ok.mp hstep
    refine ⟨fun name hname => AList.lookup_insert_ne hname, fun hnone => (by cases hnone), ?_⟩
    rintro _ ⟨⟩
    exact ⟨dest', hdest', AList.lookup_insert _⟩

/-- A merge adds and removes no section. -/
theorem mergeSecrets_isSome (section' : String) :
    (merged.lookup section').isSome = (target.lookup section').isSome := by
  obtain ⟨hskip, hmerge⟩ := mergeSecrets_lookup h section'
  rcases hsource : source.lookup section' with _ | values
  · rw [hskip hsource]
  obtain ⟨hnone, hsome⟩ := hmerge values hsource
  rcases htarget : target.lookup section' with _ | dest
  · rw [hnone htarget]
  · obtain ⟨dest', -, hmerged⟩ := hsome dest htarget
    rw [hmerged]
    rfl

/-- What a merge does to a field: it stays, or it is there in both and merged. -/
theorem mergeSecrets_field (section' key : String) (hsection : (target.lookup section').isSome) :
    (field source section' key = none → field merged section' key = field target section' key) ∧
      ∀ value, field source section' key = some value →
        MergedField section' key value (field target section' key) (field merged section' key) := by
  obtain ⟨hskip, hmerge⟩ := mergeSecrets_lookup h section'
  obtain ⟨dest, hdest⟩ := Option.isSome_iff_exists.mp hsection
  rcases hsource : source.lookup section' with _ | values
  · rw [field, field, field, hskip hsource, hsource]
    exact ⟨fun _ => rfl, fun value hvalue => by cases hvalue⟩
  · obtain ⟨dest', hfold, hdest'⟩ := (hmerge values hsource).2 dest hdest
    rw [field, field, field, hdest, hdest', hsource]
    exact Table.foldlM_pairs (fun _ _ _ _ hstep => mergeValue_merged hstep) hfold key

/-- What a merge does to the peers. -/
theorem mergeSecrets_peers (hsection : (target.lookup "wireguard").isSome) :
    List.Forall₂ SamePublic (peersOf target) (peersOf merged) ∧
      ∀ public', slot merged (.peer public') =
        (offered source (.peer public')).or (slot target (.peer public')) := by
  obtain ⟨hskip, hmerge⟩ := mergeSecrets_field h "wireguard" "peers" hsection
  rcases hvalue : field source "wireguard" "peers" with _ | value
  · have hpeers := peersOf_congr (hskip hvalue)
    refine ⟨?_, fun public' => ?_⟩
    · rw [hpeers]
      exact forall₂_samePublic_refl _
    · have hnothing : peersOf source = [] := by
        rw [peersOf, hvalue]
        rfl
      rw [slot, slot, hpeers, offered, hnothing]
      rfl
  · have hmerged := hmerge value hvalue
    rw [MergedField, if_neg (by decide), if_pos ⟨rfl, rfl⟩] at hmerged
    obtain ⟨incoming, peers, hincoming, hfold, hmerged⟩ := hmerged
    obtain ⟨hsame, hslot⟩ := mergePeers_spec hfold
    obtain ⟨hpublic, hwritten⟩ := slot_peer_written (a := target) hmerged hsame
    have hoffered : peersOf source = incoming := by
      unfold decodePeers at hincoming
      split at hincoming
      next dicts hdicts =>
        rw [peersOf, hvalue, Option.bind_some, hdicts]
        exact Except.ok.inj hincoming
      · cases hincoming
    refine ⟨hpublic, fun public' => ?_⟩
    rw [hwritten, hslot, offered, hoffered]
    rfl

/-- Every secret is the one that is offered, or else the one that was there. -/
theorem mergeSecrets_slot {address : Address}
    (hsupported : address.Supported) (hsection : (target.lookup address.section').isSome) :
    slot merged address = (offered source address).or (slot target address) := by
  cases address with
  | flat section' key =>
    obtain ⟨hskip, hmerge⟩ := mergeSecrets_field h section' key hsection
    rw [slot, slot, offered]
    rcases hvalue : field source section' key with _ | value
    · rw [hskip hvalue, Option.none_or]
    · have hmerged := hmerge value hvalue
      have hcontainer := knownKeys_not_container hsupported
      rw [MergedField, if_neg fun hc => hcontainer (.inl hc), if_neg fun hc => hcontainer (.inr hc),
        if_pos (show key ∈ knownKeys section' from hsupported)] at hmerged
      rw [hmerged, Option.some_or]
  | vpn name =>
    obtain ⟨hskip, hmerge⟩ := mergeSecrets_field h "vpn" "secrets" hsection
    rcases hvalue : field source "vpn" "secrets" with _ | value
    · rw [slot, slot, vpnSecrets_congr (hskip hvalue), offered]
      simp [vpnSecrets, hvalue]
    · have hmerged := hmerge value hvalue
      rw [MergedField, if_pos ⟨rfl, rfl⟩] at hmerged
      obtain ⟨incoming, hincoming, hmerged⟩ := hmerged
      have hoffered : vpnSecrets source = incoming := by
        rw [vpnSecrets, hvalue, Option.bind_some, hincoming, Option.getD_some]
      rw [slot_vpn_extended (a := target) hmerged, offered, hoffered]
  | peer public' => exact (mergeSecrets_peers h hsection).2 public'

/-- A merge changes nothing but secrets. -/
theorem mergeSecrets_sameExcept : SameExcept Address.Supported target merged := by
  -- a section that is not there is not added
  have habsent : ∀ {section'}, target.lookup section' = none →
      merged.lookup section' = none := by
    intro section' hnone
    have hsome := mergeSecrets_isSome h section'
    rw [hnone] at hsome
    exact Option.isSome_eq_false_iff.mp hsome |> Option.isNone_iff_eq_none.mp
  have hfield : ∀ section' key, ¬ Container section' key → key ∉ knownKeys section' →
      field merged section' key = field target section' key := by
    intro section' key hcontainer hknown
    rcases hsection : target.lookup section' with _ | dest
    · rw [field, field, habsent hsection, hsection]
    · obtain ⟨hskip, hmerge⟩ := mergeSecrets_field h section' key (by rw [hsection]; rfl)
      rcases hvalue : field source section' key with _ | value
      · exact hskip hvalue
      · have hmerged := hmerge value hvalue
        rwa [MergedField, if_neg fun hc => hcontainer (.inl hc),
          if_neg fun hc => hcontainer (.inr hc), if_neg hknown] at hmerged
  have hpeers : List.Forall₂ SamePublic (peersOf target) (peersOf merged) := by
    rcases hsection : target.lookup "wireguard" with _ | dest
    · have hsame : peersOf merged = peersOf target :=
        peersOf_congr (by rw [field, field, habsent hsection, hsection])
      rw [hsame]
      exact forall₂_samePublic_refl _
    · exact (mergeSecrets_peers h (by rw [hsection]; rfl)).1
  exact ⟨hfield, fun name hname => absurd trivial hname, hpeers,
    fun public' hpublic => absurd trivial hpublic⟩

end

end Credentials

end NmDaemon
