import NmDaemon.Variant

/-!
# The secret schema

`network_credentials.rs`: which values of NetworkManager's settings are secrets, how they
are addressed, and what governs their retention. A secret is a flat key of a section, a
name in the `secrets` of a VPN, or the preshared key of a WireGuard peer, addressed by the
peer's public key. Its flags say whether an agent owns it (`agentOwned`), it is not to be
saved (`notSaved`) or not required.

Failures carry the text they are reported with.
-/

namespace NmDaemon

namespace Credentials

def agentOwned : UInt32 := 1

def notSaved : UInt32 := 2

/-- The flat secret keys of a section. -/
def knownKeys (section' : String) : List String :=
  match section' with
  | "802-11-wireless-security" =>
    ["psk", "wep-key0", "wep-key1", "wep-key2", "wep-key3", "leap-password"]
  | "802-1x" =>
    ["password", "password-raw", "private-key-password", "phase2-private-key-password",
      "ca-cert-password", "client-cert-password", "phase2-ca-cert-password",
      "phase2-client-cert-password", "pin"]
  | "gsm" => ["password", "pin"]
  | "cdma" | "ppp" | "adsl" => ["password"]
  | "macsec" => ["mka-cak"]
  | "wifi-p2p" => ["wps-pin"]
  | "wireguard" => ["private-key"]
  | _ => []

/-- Sections whose credentials must be preserved before a durable profile edit. -/
def requiresSecrets (section' : String) (data : Values) : Bool :=
  if section' = "802-11-wireless-security" then
    let keyMgmt := setting Value.asStr data "key-mgmt"
    keyMgmt = some "wpa-psk" || keyMgmt = some "sae" || keyMgmt = some "none" ||
      setting Value.asStr data "auth-alg" = some "leap"
  else !(knownKeys section').isEmpty || section' = "vpn"

/-- The key of the flags that govern a secret; the four WEP slots share theirs. -/
def flagsKey (key : String) : String :=
  if key = "wep-key0" ∨ key = "wep-key1" ∨ key = "wep-key2" ∨ key = "wep-key3" then
    "wep-key-flags"
  else key ++ "-flags"

/-- What is left of a text after its start. -/
def stripStart (start text : String) : Option String :=
  if start.toList.isPrefixOf text.toList then
    some (String.ofList (text.toList.drop start.toList.length))
  else none

/-- What is left of a text before its end. -/
def stripEnd (ending text : String) : Option String :=
  if ending.toList.isSuffixOf text.toList then
    some (String.ofList (text.toList.take (text.toList.length - ending.toList.length)))
  else none

/-- The public key of the peer whose preshared key is addressed. -/
def peerKey (key : String) : Option String :=
  (stripStart "peers." key).bind (stripEnd ".preshared-key")

/-! ## The names of the secrets a request is about -/

/-- Plugins name their credentials themselves. -/
def acceptsPluginSecretNames (section' : String) : Bool :=
  (section' = "vpn") || (section' = "wireguard")

/-- The name in a plugin's hint; a message of a VPN names nothing. -/
def pluginHint (section' hint : String) : Option String :=
  if section' = "vpn" ∧ (stripStart "x-vpn-message:" hint).isSome then none
  else
    let hint := (stripStart "vpn.secrets." hint).getD hint
    some (((stripStart section' hint).bind (stripStart ".")).getD hint)

def defaultSecretKeyForSetting (section' : String) : String :=
  match section' with
  | "802-11-wireless-security" => "psk"
  | "wifi-p2p" => "wps-pin"
  | "wireguard" => "private-key"
  | _ => "password"

/-- The keys a request with these hints asks for. -/
def secretKeysFor (section' : String) (hints : List String) : List String :=
  let plugin := acceptsPluginSecretNames section'
  let named := hints.filterMap fun hint =>
    (if plugin then pluginHint section' hint else some hint).filter fun hint => hint ≠ ""
  let keys := if plugin then named.destutter (· ≠ ·) else named
  if hints.isEmpty || (!plugin && keys.isEmpty) then keys ++ [defaultSecretKeyForSetting section']
  else keys

/-- The key a Wi-Fi profile asks for when there is no hint: the WEP slot it transmits with,
before the password of LEAP. -/
def wirelessSecretKey (settings : ConnectionSettings) (section' : String) (hints : List String) :
    Option String :=
  if section' ≠ "802-11-wireless-security" ∨ hints ≠ [] then none
  else do
    let security ← settings.lookup section'
    if setting Value.asStr security "key-mgmt" = some "none" then
      let index := (setting Value.asU32 security "wep-tx-keyidx").getD 0
      some ("wep-key" ++ toString (min index.toNat 3))
    else if setting Value.asStr security "auth-alg" = some "leap" then some "leap-password"
    else none

/-! ## WireGuard peers -/

/-- The peers, for reading. -/
def peerDicts (values : Values) : Except String (List Values) :=
  match values.lookup "peers" with
  | none => .ok []
  | some value =>
    match valueDicts value with
    | some dicts => .ok (dicts.map tableOf)
    | none => .error "invalid WireGuard peers"

/-- The peers, decoded to be changed. -/
def decodePeers (value : Value) : Except String (List Values) :=
  match valueDicts value with
  | some dicts => .ok (dicts.map tableOf)
  | none => .error "incorrect type"

def peers (values : Values) : Except String (List Values) :=
  match values.lookup "peers" with
  | none => .ok []
  | some value => decodePeers value

def isPeer (public' : String) (peer : Values) : Bool :=
  setting Value.asStr peer "public-key" = some public'

/-- The place of the only peer with a public key. -/
def uniquePeer (peers : List Values) (public' : String) : Except String ℕ :=
  if peers.countP (isPeer public') = 1 then .ok (peers.findIdx (isPeer public'))
  else .error "WireGuard peer missing or ambiguous"

/-- Assign a value of the only peer with a public key. -/
def insertPeerValue (peers : List Values) (public' key : String) (value : Value) :
    Except String (List Values) :=
  (uniquePeer peers public').map fun index => peers.modify index (AList.insert key value)

/-! ## Reading -/

/-- The secrets of a VPN. -/
def sectionVpnSecrets (section' : String) (data : Values) : List (String × String) :=
  if section' = "vpn" then ((data.lookup "secrets").bind valueStringMap).getD [] else []

/-- The preshared keys of peers. -/
def presharedSecrets (peers : List Values) : List (String × String) :=
  peers.filterMap fun peer => do
    let public' ← setting Value.asStr peer "public-key"
    let secret ← setting Value.asStr peer "preshared-key"
    return ("peers." ++ public' ++ ".preshared-key", secret)

/-- The secrets of one section with these peers. -/
def listedSecrets (section' : String) (data : Values) (peers : List Values) :
    List (String × String × String) :=
  let flat := (knownKeys section').filterMap fun key =>
    (settingText data key).map fun text => (key, text)
  ((flat ++ sectionVpnSecrets section' data ++ presharedSecrets peers).filter fun e => e.2 ≠ "").map
    fun e => (section', e.1, e.2)

/-- The secrets of one section; only the peers of WireGuard can fail to be read. -/
def sectionSecrets (section' : String) (data : Values) :
    Except String (List (String × String × String)) := do
  let peers ← if section' = "wireguard" then peerDicts data else pure []
  return listedSecrets section' data peers

/-- Values of the supported schemas, with their addresses. -/
def values (settings : ConnectionSettings) : Except String (List (String × String × String)) := do
  let sections ← settings.pairs.mapM fun e => sectionSecrets e.1 e.2
  return sections.flatten

/-- One more digit of a number of 32 bits. -/
def parseDigit (n : ℕ) (c : Char) : Except String ℕ :=
  if c.isDigit = false then .error "invalid digit found in string"
  else if 10 * n + (c.toNat - 48) < 2 ^ 32 then .ok (10 * n + (c.toNat - 48))
  else .error "number too large to fit in target type"

/-- A number of 32 bits that is written as text. -/
def parseU32 (text : String) : Except String UInt32 :=
  let digits := match text.toList with
    | '+' :: d :: rest => d :: rest
    | all => all
  if digits.isEmpty then .error "cannot parse integer from empty string"
  else (digits.foldlM parseDigit 0).map UInt32.ofNat

/-- The flags that are kept in a field; without one there are none. -/
def flagOf : Option Value → Except String UInt32
  | none => .ok 0
  | some value =>
    match value.asU32 with
    | some n => .ok n
    | none => .error "incorrect type"

def flagValue (values : Values) (key : String) : Except String UInt32 :=
  flagOf (values.lookup key)

/-- The flags of a secret as a section holds them: those of a VPN are texts in its data, those of
a preshared key are kept with the peer, all others in a field beside the secret. -/
def storedFlags (section' key : String) (values : Values) : Except String UInt32 :=
  if section' = "vpn" then
    match (values.lookup "data").bind valueStringMap with
    | none => .error "VPN secret policy missing"
    | some data =>
      match data.lookup (flagsKey key) with
      | none => .error "VPN secret policy unspecified; refusing automatic persistence"
      | some text => parseU32 text
  else
    match (if section' = "wireguard" then peerKey key else none) with
    | some name => do
      let peers ← peers values
      let index ← uniquePeer peers name
      flagValue (peers.getD index ∅) "preshared-key-flags"
    | none =>
      if key ∈ knownKeys section' then flagValue values (flagsKey key)
      else .error "unsupported secret schema"

/-- There are three flags. -/
def checkFlags (value : UInt32) : Except String UInt32 :=
  if value &&& ~~~7 = 0 then .ok value else .error "unknown secret flags"

/-- The retention flags of a secret. -/
def flags (settings : ConnectionSettings) (section' key : String) : Except String UInt32 :=
  match settings.lookup section' with
  | none => .error "secret setting missing"
  | some values => storedFlags section' key values >>= checkFlags

/-- The text of a secret. -/
def text (settings : ConnectionSettings) (section' key : String) : Option String := do
  let values ← settings.lookup section'
  if section' = "vpn" then
    let secrets ← (values.lookup "secrets").bind valueStringMap
    secrets.lookup key
  else
    match (if section' = "wireguard" then peerKey key else none) with
    | some public' => do
      let peers ← (peerDicts values).toOption
      let peer ← peers.find? (isPeer public')
      setting Value.asStr peer "preshared-key"
    | none => settingText values key

def hasSecrets (settings : ConnectionSettings) : Bool :=
  settings.pairs.any fun (section', values) =>
    (knownKeys section').any (fun key => (values.lookup key).isSome) ||
      (section' = "vpn" &&
        ((values.lookup "secrets").bind valueStringMap).any fun secrets => !secrets.isEmpty) ||
      (section' = "wireguard" && (peerDicts values).toOption.any fun peers =>
        peers.any fun peer => (peer.lookup "preshared-key").isSome)

/-! ## The public policy -/

/-- A section without its secrets and without what NetworkManager maintains in it. -/
def publicSection (section' : String) (data : Values) : Except String Values := do
  let metadata : Option String :=
    match section' with
    | "vpn" => some "secrets"
    | "connection" => some "timestamp"
    | "802-11-wireless" => some "seen-bssids"
    | _ => none
  let data := (knownKeys section' ++ metadata.toList).foldl (fun data key => data.erase key)
    data
  match (if section' = "wireguard" then data.lookup "peers" else none) with
  | none => return data
  | some value =>
    let peers ← decodePeers value
    return data.insert "peers" (encodeDicts (peers.map (AList.erase "preshared-key")))

/-- The public policy snapshot of settings. -/
def publicSettings (settings : ConnectionSettings) : Except String ConnectionSettings :=
  settings.pairs.foldlM (fun public' (section', data) =>
    (publicSection section' data).map fun data => public'.insert section' data) settings

/-! ## Writing and merging -/

def extendVpnMap (values : Values) (key : String) (entries : List (String × String)) : Values :=
  let map := tableOf (((values.lookup key).bind valueStringMap).getD [])
  values.insert key (encodeStrings (entries.foldl (fun map e => map.insert e.1 e.2) map))

/-- Assign a value of a peer; the array is decoded and the peer found before it is replaced. -/
def setPeerValue (values : Values) (public' key : String) (value : Value) :
    Except String Values := do
  let decoded ← peers values
  let changed ← insertPeerValue decoded public' key value
  return values.insert "peers" (encodeDicts changed)

/-- Write the text of a secret. -/
def setText (settings : ConnectionSettings) (section' key value : String) :
    Except String ConnectionSettings :=
  if section' = "vpn" then
    let values := (settings.lookup section').getD ∅
    .ok (settings.insert section' (extendVpnMap values "secrets" [(key, value)]))
  else
    match (if section' = "wireguard" then peerKey key else none) with
    | some public' =>
      match settings.lookup section' with
      | none => .error "WireGuard setting missing"
      | some values =>
        (setPeerValue values public' "preshared-key" (.str value)).map fun values =>
          settings.insert section' values
    | none =>
      if key ∈ knownKeys section' then
        let encoded : Value :=
          if key = "password-raw" then .array "y" (value.toUTF8.data.toList.map Value.byte)
          else .str value
        let values := (settings.lookup section').getD ∅
        .ok (settings.insert section' (values.insert key encoded))
      else .error "unsupported secret schema"

/-- One peer's preshared key, taken over. -/
def mergePeer (target : List Values) (peer : Values) : Except String (List Values) :=
  match peer.lookup "preshared-key" with
  | none => .ok target
  | some secret =>
    match setting Value.asStr peer "public-key" with
    | none => .error "peer identity missing"
    | some public' => insertPeerValue target public' "preshared-key" secret

/-- Take over the preshared keys of peers, each to the peer with its public key. -/
def mergePeerSecrets (dest : Values) (incoming : Value) : Except String Values := do
  let target ← peers dest
  let incoming ← decodePeers incoming
  let target ← incoming.foldlM mergePeer target
  return dest.insert "peers" (encodeDicts target)

/-- Take over one value, if it is a secret. -/
def mergeValue (section' : String) (dest : Values) (key : String) (value : Value) :
    Except String Values :=
  if section' = "vpn" ∧ key = "secrets" then
    match valueStringMap value with
    | some incoming => .ok (extendVpnMap dest "secrets" incoming)
    | none => .error "invalid VPN secrets"
  else if section' = "wireguard" ∧ key = "peers" then mergePeerSecrets dest value
  else if key ∈ knownKeys section' then .ok (dest.insert key value)
  else .ok dest

/-- Take over the secrets of `source`, for the sections there are, and nothing else. -/
def mergeSecrets (target source : ConnectionSettings) : Except String ConnectionSettings :=
  source.pairs.foldlM (fun target (section', values) =>
    match target.lookup section' with
    | none => .ok target
    | some dest =>
      (values.pairs.foldlM (fun dest (key, value) => mergeValue section' dest key value) dest).map
        fun dest => target.insert section' dest) target

end Credentials

end NmDaemon
