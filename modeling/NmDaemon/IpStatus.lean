import NmDaemon.WifiQr
import NmDaemon.WifiRadio

/-!
# The IPv4 status of a device

`nm/ip_status.rs`, `command/nmcli.rs` and the part of `nm/status.rs` that joins them: what a
device has for IPv4 is read from its configuration object, and what is missing there is
filled in from the output of nmcli. A status has its first address, and the length of its
prefix, beside the list of all addresses.

* `parseDeviceIp4_spec` — which address nmcli's output puts first, and when it is also the
  first of the list;
* `ip4_status_consistent_iff` — when the first address is the first of the list.
-/

namespace NmDaemon

namespace Ip4

open Wifi (settingU32)

/-! ## Statuses -/

structure IpAddressEntry : Type where
  address : String
  prefixLength : ℕ
  deriving DecidableEq

structure IpRouteEntry : Type where
  dest : String
  prefixLength : ℕ
  nextHop : Option String
  metric : Option ℕ
  deriving DecidableEq

structure DhcpLeaseStatus : Type where
  serverIdentifier : Option String
  domainName : Option String
  leaseTimeSeconds : Option ℕ
  expiresAtMs : Option ℕ
  deriving DecidableEq

structure IpStatus : Type where
  address : Option String
  prefixLength : Option ℕ
  addresses : List IpAddressEntry
  gateway : Option String
  dns : List String
  domains : List String
  searches : List String
  routes : List IpRouteEntry
  dhcpLease : Option DhcpLeaseStatus
  deriving DecidableEq

/-! ## The configuration object -/

/-- The properties of a configuration object, as far as they can be read. -/
structure Ip4Config : Type where
  gateway : Option String
  addressData : Option (List Values)
  routeData : Option (List Values)
  nameserverData : Option (List Values)
  nameservers : Option (List UInt32)
  domains : Option (List String)
  searches : Option (List String)
  /-- the options of the lease, if the device has one -/
  dhcpOptions : Option Values

def addressEntries (config : Ip4Config) : List IpAddressEntry :=
  (config.addressData.getD []).filterMap fun entry => do
    pure ⟨← settingString entry "address", ← settingU32 entry "prefix"⟩

def routeEntries (config : Ip4Config) : List IpRouteEntry :=
  (config.routeData.getD []).filterMap fun entry => do
    pure ⟨← settingString entry "dest", ← settingU32 entry "prefix",
      settingString entry "next-hop", settingU32 entry "metric"⟩

def nameserverEntries (config : Ip4Config) : Option (List String) := do
  let entries := (← config.nameserverData).filterMap (settingString · "address")
  if entries = [] then none else some entries

def defaultRouteNextHop (routes : List IpRouteEntry) : Option String :=
  ((routes.find? fun route => route.prefixLength = 0).bind IpRouteEntry.nextHop).filter (· ≠ "")

def stringList (values : Option (List String)) : List String := (values.getD []).filter (· ≠ "")

/-- The bytes of the number as they are in memory, lowest first. -/
def legacyIpv4 (value : UInt32) : String :=
  let n := value.toNat
  ".".intercalate ([n, n / 2 ^ 8, n / 2 ^ 16, n / 2 ^ 24].map fun part => toString (part % 256))

/-- `str::parse` for numbers below a limit: digits, perhaps after a plus sign. -/
def parseDecimal (limit : ℕ) (text : List Char) : Option ℕ :=
  let digits := match text with
    | '+' :: d :: rest => d :: rest
    | all => all
  if digits = [] then none
  else digits.foldlM (fun n c =>
    if c.isDigit ∧ 10 * n + (c.toNat - 48) < limit then some (10 * n + (c.toNat - 48)) else none) 0

/-- A number of up to 64 bits, or the text of one. -/
def optionU64 : Value → Option ℕ
  | .u64 n => some n.toNat
  | .u32 n => some n.toNat
  | .str text => parseDecimal (2 ^ 64) text.toList
  | _ => none

def dhcpLeaseFromOptions (options : Values) : Option DhcpLeaseStatus :=
  let optionString key := (settingString options key).filter (· ≠ "")
  let number key := setting optionU64 options key
  let lease : DhcpLeaseStatus :=
    { serverIdentifier := (optionString "dhcp_server_identifier").or (optionString "dhcp6_server_id")
      domainName := optionString "domain_name"
      leaseTimeSeconds := (number "dhcp_lease_time").or (number "max_life")
      expiresAtMs := (number "expiry").map fun seconds => min (seconds * 1000) (2 ^ 64 - 1) }
  if lease.serverIdentifier.isSome || lease.domainName.isSome || lease.leaseTimeSeconds.isSome ||
    lease.expiresAtMs.isSome then some lease else none

/-- `device_ip_status` for IPv4; there is no configuration if the device has none or it cannot
be read. -/
def deviceIpStatus (config : Option Ip4Config) : Option IpStatus :=
  config.map fun config =>
    let routes := routeEntries config
    let addresses := addressEntries config
    { address := addresses.head?.map IpAddressEntry.address
      prefixLength := addresses.head?.map IpAddressEntry.prefixLength
      addresses
      gateway := (config.gateway.filter (· ≠ "")).or (defaultRouteNextHop routes)
      dns := (nameserverEntries config).getD ((config.nameservers.getD []).map legacyIpv4)
      domains := stringList config.domains
      searches := stringList config.searches
      routes
      dhcpLease := config.dhcpOptions.bind dhcpLeaseFromOptions }

/-! ## The output of nmcli -/

/-- `str::lines`: a line that is ended has no carriage return before its end. -/
def textLines (text : List Char) : List (List Char) :=
  let parts := text.splitOn '\n'
  (parts.dropLast.map fun line => if line.getLast? = some '\r' then line.dropLast else line) ++
    (parts.getLast?.filter (· ≠ [])).toList

/-- The loop over a line, with the field that was begun. -/
def splitFields (current : List Char) (escaped : Bool) : List Char → List (List Char)
  | [] => [current]
  | c :: rest =>
    if escaped then splitFields (current ++ [c]) false rest
    else if c = '\\' then splitFields current true rest
    else if c = ':' then current :: splitFields [] false rest
    else splitFields (current ++ [c]) false rest

def splitKeyValue (line : List Char) : Option (List Char × List Char) :=
  match splitFields [] false line with
  | [] => none
  | key :: rest => some (key, rest.headD [])

def parseCidr (value : List Char) : String × Option ℕ :=
  let (address, length) := (Qr.splitOnce '/' value).getD (value, [])
  (String.ofList address, parseDecimal (2 ^ 32) length)

def isAddressKey (key : List Char) : Bool := "IP4.ADDRESS".toList.isPrefixOf key

/-- One field of the output of `nmcli`. -/
def applyDeviceIp4Field (ip4 : IpStatus) (field : List Char × List Char) : IpStatus :=
  let (key, value) := field
  if isAddressKey key then
    let (address, length) := parseCidr value
    let first :=
      if ip4.address.isNone then { ip4 with address := some address, prefixLength := length }
      else ip4
    { first with addresses := first.addresses ++ (length.map fun n => ⟨address, n⟩).toList }
  else if key = "IP4.GATEWAY".toList ∧ value ≠ [] then
    { ip4 with gateway := some (String.ofList value) }
  else if "IP4.DNS".toList.isPrefixOf key ∧ value ≠ [] then
    { ip4 with dns := ip4.dns ++ [String.ofList value] }
  else ip4

/-- `IpStatus::default` -/
def noStatus : IpStatus := ⟨none, none, [], none, [], [], [], [], none⟩

def deviceFields (output : String) : List (List Char × List Char) :=
  (textLines output.toList).filterMap splitKeyValue

def parseDeviceIp4 (output : String) : Option IpStatus :=
  let ip4 := (deviceFields output).foldl applyDeviceIp4Field noStatus
  if ip4.address.isSome || ip4.gateway.isSome || !ip4.dns.isEmpty then some ip4 else none

/-! ## Both together -/

def isBlank (text : Option String) : Bool := text.all (· = "")

def ip4StatusNeedsNmcliFill : Option IpStatus → Bool
  | none => true
  | some status => isBlank status.address || isBlank status.gateway || status.dns.isEmpty

def fillMissingIp4Fields (dbus fallback : IpStatus) : IpStatus :=
  let dbus :=
    if isBlank dbus.address then
      { dbus with address := fallback.address, prefixLength := fallback.prefixLength }
    else dbus
  let dbus := if isBlank dbus.gateway then { dbus with gateway := fallback.gateway } else dbus
  if dbus.dns = [] then { dbus with dns := fallback.dns } else dbus

def mergedIp4Status (dbus nmcli : Option IpStatus) : Option IpStatus :=
  match dbus with
  | some dbus => some (nmcli.elim dbus (fillMissingIp4Fields dbus))
  | none => nmcli

/-- The status from a configuration, and from nmcli's output if it could be run. -/
def enrichedIp4Status (config : Option Ip4Config) (output : Option String) : Option IpStatus :=
  let dbus := deviceIpStatus config
  if ip4StatusNeedsNmcliFill dbus then mergedIp4Status dbus (output.bind parseDeviceIp4)
  else dbus

/-- The address and the length of the prefix are those of the first entry of the list, and
there is no address exactly when the list is empty. -/
def Consistent (status : IpStatus) : Prop :=
  status.address = status.addresses.head?.map IpAddressEntry.address ∧
    status.prefixLength = status.addresses.head?.map IpAddressEntry.prefixLength ∧
    (status.address = none ↔ status.addresses = [])

/-! ## What nmcli puts first -/

/-- The first address of the output, with its prefix if it has one. -/
def firstAddress (fields : List (List Char × List Char)) : Option (String × Option ℕ) :=
  (fields.find? fun field => isAddressKey field.1).map fun field => parseCidr field.2

/-- A status that begins with an address; the list has only addresses with a prefix. -/
def Leads (ip4 : IpStatus) : Option (String × Option ℕ) → Prop
  | none => ip4.address = none ∧ ip4.prefixLength = none ∧ ip4.addresses = []
  | some first => ip4.address = some first.1 ∧ ip4.prefixLength = first.2 ∧
      ∀ n ∈ first.2, ip4.addresses.head? = some ⟨first.1, n⟩

section Fields

variable {ip4 : IpStatus} {field : List Char × List Char}

theorem leads_of_other (h : isAddressKey field.1 = false) {first : Option (String × Option ℕ)}
    (hleads : Leads ip4 first) : Leads (applyDeviceIp4Field ip4 field) first := by
  unfold applyDeviceIp4Field
  simp only [h, Bool.false_eq_true, if_false]
  -- gateways and servers are kept elsewhere
  split_ifs <;> exact hleads

theorem leads_of_address (h : isAddressKey field.1 = true) (hleads : Leads ip4 none) :
    Leads (applyDeviceIp4Field ip4 field) (some (parseCidr field.2)) := by
  obtain ⟨haddress, -, hlist⟩ := hleads
  unfold applyDeviceIp4Field
  simp only [h, haddress, hlist, Option.isNone_none, if_true, List.nil_append]
  refine ⟨rfl, rfl, fun n hn => ?_⟩
  rw [Option.mem_def.mp hn]
  rfl

/-- Later addresses are only added to the list. -/
theorem leads_of_later (h : isAddressKey field.1 = true) {first : String × Option ℕ}
    (hleads : Leads ip4 (some first)) :
    Leads (applyDeviceIp4Field ip4 field) (some first) := by
  obtain ⟨haddress, hlength, hlist⟩ := hleads
  unfold applyDeviceIp4Field
  simp only [h, haddress, Option.isNone_some, Bool.false_eq_true, if_true, if_false]
  refine ⟨rfl, hlength, fun n hn => ?_⟩
  rw [List.head?_append, hlist n hn, Option.some_or]

end Fields

theorem leads_foldl (fields : List (List Char × List Char)) {ip4 : IpStatus}
    {first : Option (String × Option ℕ)} (h : Leads ip4 first) :
    Leads (fields.foldl applyDeviceIp4Field ip4) (first.or (firstAddress fields)) := by
  induction fields generalizing ip4 first with
  | nil => rwa [firstAddress, List.find?_nil, Option.map_none, Option.or_none]
  | cons field fields ih =>
    rw [List.foldl_cons, firstAddress, List.find?_cons]
    split
    · rename_i hkey
      cases first with
      | none => exact ih (leads_of_address hkey h)
      | some first => exact ih (leads_of_later hkey h)
    · rename_i hkey
      exact ih (leads_of_other hkey h)

theorem leads_fields (output : String) : Leads
    ((deviceFields output).foldl applyDeviceIp4Field noStatus) (firstAddress (deviceFields output)) :=
  have hempty : Leads noStatus none := ⟨rfl, rfl, rfl⟩
  leads_foldl _ hempty

theorem parseDeviceIp4_spec {output : String} {status : IpStatus}
    (h : parseDeviceIp4 output = some status) : Leads status (firstAddress (deviceFields output)) := by
  unfold parseDeviceIp4 at h
  dsimp only at h
  split_ifs at h
  cases h
  exact leads_fields output

/-- Output that gives no status has no address. -/
theorem firstAddress_of_none {output : String} (h : parseDeviceIp4 output = none) :
    firstAddress (deviceFields output) = none := by
  have hleads := leads_fields output
  unfold parseDeviceIp4 at h
  dsimp only at h
  split_ifs at h with hfilled
  cases hfirst : firstAddress (deviceFields output) with
  | none => rfl
  | some first =>
    rw [hfirst] at hleads
    rw [hleads.1] at hfilled
    exact absurd rfl hfilled

/-! ## When the status is consistent -/

theorem consistent_iff {status : IpStatus} : Consistent status ↔
    status.address = status.addresses.head?.map IpAddressEntry.address ∧
      status.prefixLength = status.addresses.head?.map IpAddressEntry.prefixLength := by
  refine ⟨fun h => ⟨h.1, h.2.1⟩, fun h => ⟨h.1, h.2, ?_⟩⟩
  rw [h.1, Option.map_eq_none_iff, List.head?_eq_none_iff]

theorem consistent_iff_of_leads {status : IpStatus} {first : Option (String × Option ℕ)}
    (h : Leads status first) : Consistent status ↔ ∀ a ∈ first, a.2 ≠ none := by
  rw [consistent_iff]
  match first, h with
  | none, ⟨haddress, hlength, hlist⟩ =>
    rw [haddress, hlength, hlist]
    simp
  | some (address, none), ⟨haddress, hlength, _⟩ =>
    -- without a length there is no first entry, but there is an address
    rw [haddress, hlength]
    cases status.addresses <;> simp
  | some (address, some n), ⟨haddress, hlength, hlist⟩ =>
    rw [haddress, hlength, hlist n rfl]
    simp

/-- The first address by nmcli, if it could be run. -/
def nmcliAddress (output : Option String) : Option (String × Option ℕ) :=
  output.bind fun output => firstAddress (deviceFields output)

/-- What makes the status consistent. Without a configuration nmcli's first address must have
a prefix. With one, an address that is missing there must not be known to nmcli, which is not
asked for the list; and of a first entry without text nmcli must say nothing, or just that. -/
def AddressAgrees (config : Option Ip4Config) (output : Option String) : Prop :=
  match config with
  | none => ∀ a ∈ nmcliAddress output, a.2 ≠ none
  | some config =>
    match (addressEntries config).head? with
    | none => nmcliAddress output = none
    | some entry => entry.address ≠ "" ∨ output.bind parseDeviceIp4 = none ∨
        nmcliAddress output = some ("", some entry.prefixLength)

theorem nmcliAddress_leads {output : Option String} {status : IpStatus}
    (h : output.bind parseDeviceIp4 = some status) : Leads status (nmcliAddress output) := by
  obtain ⟨output, rfl, hparse⟩ := Option.bind_eq_some_iff.mp h
  exact parseDeviceIp4_spec hparse

theorem nmcliAddress_of_none {output : Option String} (h : output.bind parseDeviceIp4 = none) :
    nmcliAddress output = none := by
  cases output with
  | none => rfl
  | some output => exact firstAddress_of_none h

/-- What nmcli says of a configuration whose first address has no text. -/
def fallbackFor (config : Ip4Config) (output : Option String) : Option IpStatus :=
  if isBlank ((addressEntries config).head?.map IpAddressEntry.address) then
    output.bind parseDeviceIp4
  else none

/-- With a configuration the list is its own, and only an address without text is replaced. -/
theorem enriched_config (config : Ip4Config) (output : Option String) :
    ∃ status, enrichedIp4Status (some config) output = some status ∧
      status.addresses = addressEntries config ∧
      status.address = (fallbackFor config output).elim
        ((addressEntries config).head?.map IpAddressEntry.address) IpStatus.address ∧
      status.prefixLength = (fallbackFor config output).elim
        ((addressEntries config).head?.map IpAddressEntry.prefixLength) IpStatus.prefixLength := by
  have hfill : ∀ dbus fallback : IpStatus,
      (fillMissingIp4Fields dbus fallback).addresses = dbus.addresses ∧
        (fillMissingIp4Fields dbus fallback).address =
          (if isBlank dbus.address then fallback.address else dbus.address) ∧
        (fillMissingIp4Fields dbus fallback).prefixLength =
          (if isBlank dbus.address then fallback.prefixLength else dbus.prefixLength) := by
    intro dbus fallback
    unfold fillMissingIp4Fields
    dsimp only
    split_ifs <;> exact ⟨rfl, rfl, rfl⟩
  unfold enrichedIp4Status fallbackFor
  dsimp only [deviceIpStatus, Option.map_some]
  split_ifs with hneeds hblank hblank
  · cases output.bind parseDeviceIp4 with
    | none => exact ⟨_, rfl, rfl, rfl, rfl⟩
    | some fallback =>
      obtain ⟨hlist, haddress, hlength⟩ := hfill _ fallback
      exact ⟨_, rfl, hlist, haddress.trans (if_pos hblank), hlength.trans (if_pos hblank)⟩
  · cases output.bind parseDeviceIp4 with
    | none => exact ⟨_, rfl, rfl, rfl, rfl⟩
    | some fallback =>
      obtain ⟨hlist, haddress, hlength⟩ := hfill _ fallback
      exact ⟨_, rfl, hlist, haddress.trans (if_neg hblank), hlength.trans (if_neg hblank)⟩
  · -- a blank address is always asked for
    rw [ip4StatusNeedsNmcliFill, hblank] at hneeds
    exact absurd rfl hneeds
  · exact ⟨_, rfl, rfl, rfl, rfl⟩

/-- The first address is the first of the list exactly when the two sources agree on it. -/
theorem ip4_status_consistent_iff (config : Option Ip4Config) (output : Option String) :
    (∀ status ∈ enrichedIp4Status config output, Consistent status) ↔
      AddressAgrees config output := by
  cases config with
  | none =>
    change (∀ status ∈ output.bind parseDeviceIp4, Consistent status) ↔
      ∀ a ∈ nmcliAddress output, a.2 ≠ none
    cases hparse : output.bind parseDeviceIp4 with
    | none =>
      rw [nmcliAddress_of_none hparse]
      simp
    | some status =>
      rw [← consistent_iff_of_leads (nmcliAddress_leads hparse)]
      simp
  | some config =>
    obtain ⟨status, hstatus, hlist, haddress, hlength⟩ := enriched_config config output
    have hgoal : (∀ status ∈ enrichedIp4Status (some config) output, Consistent status) ↔
        Consistent status := by
      rw [hstatus]
      simp
    rw [hgoal, consistent_iff, hlist, haddress, hlength, AddressAgrees]
    unfold fallbackFor
    cases hhead : (addressEntries config).head? with
    | none =>
      simp only [Option.map_none, isBlank, Option.all_none, if_true]
      cases hparse : output.bind parseDeviceIp4 with
      | none => simp [nmcliAddress_of_none hparse]
      | some nmcli =>
        have hleads := nmcliAddress_leads hparse
        cases hfirst : nmcliAddress output with
        | none =>
          rw [hfirst] at hleads
          simp [hleads.1, hleads.2.1]
        | some first =>
          rw [hfirst] at hleads
          simp [hleads.1]
    | some entry =>
      by_cases hblank : entry.address = ""
      · simp only [Option.map_some, isBlank, Option.all_some, hblank, decide_true, if_true,
          ne_eq, not_true_eq_false, false_or]
        cases hparse : output.bind parseDeviceIp4 with
        | none => simp
        | some nmcli =>
          have hleads := nmcliAddress_leads hparse
          cases hfirst : nmcliAddress output with
          | none =>
            rw [hfirst] at hleads
            simp [hleads.1]
          | some first =>
            rw [hfirst] at hleads
            simp [hleads.1, hleads.2.1, Prod.ext_iff]
      · simp [isBlank, hblank]

/-- A configuration object that has no addresses (yet). -/
def withoutAddresses : Ip4Config := ⟨none, some [], some [], some [], some [], some [], some [], none⟩

/-- nmcli knows the address already: it is reported beside an empty list. -/
theorem filled_address_not_listed :
    enrichedIp4Status (some withoutAddresses)
        (some "GENERAL.DEVICE:wlan0\nIP4.ADDRESS[1]:192.0.2.7/24\n") =
      some { noStatus with address := some "192.0.2.7", prefixLength := some 24 } ∧
      ¬∀ (config : Option Ip4Config) (output : Option String),
        ∀ status ∈ enrichedIp4Status config output, Consistent status := by
  have hstatus : enrichedIp4Status (some withoutAddresses)
      (some "GENERAL.DEVICE:wlan0\nIP4.ADDRESS[1]:192.0.2.7/24\n") =
    some { noStatus with address := some "192.0.2.7", prefixLength := some 24 } := by decide
  refine ⟨hstatus, fun h => ?_⟩
  exact absurd ((h _ _ _ hstatus).2.2.mpr rfl) (Option.some_ne_none _)

end Ip4

end NmDaemon
