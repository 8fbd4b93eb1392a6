import NmDaemon.SettingsEdits

/-!
# IP configuration of a profile

`nm/ip_settings.rs` writes the addresses, gateway, name servers, routes and metric of a section,
and `profile_ip_settings` of `nm/settings.rs` reads them for the editor. NetworkManager keeps
addresses, name servers and routes in two forms, under a key with `-data` and under a legacy key.

* `replacing` — a replacement is a patch of the section;
* `replace_read` — what is read back is the update;
* `replace_independent` — what was there before does not matter, except for the legacy routes,
  which a replacement leaves in place.
-/

namespace NmDaemon

namespace ProfileSettings

open Credentials (field)

structure TargetIpAddress : Type where
  address : String
  prefixLength : UInt32

structure TargetIpRoute : Type where
  dest : String
  prefixLength : UInt32
  nextHop : Option String
  metric : Option UInt32
  table : Option UInt32

structure TargetIpSettings : Type where
  method : Option String
  addresses : List TargetIpAddress
  gateway : Option String
  dns : List String
  routes : List TargetIpRoute
  routeMetric : Option Int64
  ignoreAutoDns : Option Bool
  dnsSearch : List String

/-! ## Writing -/

def replacedKeys : List String :=
  ["address-data", "addresses", "gateway", "dns-data", "dns", "route-data", "route-metric",
    "ignore-auto-dns", "dns-search"]

def writeData {α : Type} (values : Values) (key : String) (entries : List α)
    (encode : List α → Value) : Values :=
  if entries.isEmpty then values else values.insert key (encode entries)

def addressValues (address : TargetIpAddress) : Values :=
  (AList.insert "address" (.str address.address) ∅).insert "prefix" (.u32 address.prefixLength)

def addressData (addresses : List TargetIpAddress) : List Values := addresses.map addressValues

def routeValues (route : TargetIpRoute) : Values :=
  let values : Values :=
    (AList.insert "dest" (.str route.dest) ∅).insert "prefix" (.u32 route.prefixLength)
  let values := insertOptionalString values "next-hop" route.nextHop
  let values := insertOptionalValue values "metric" (route.metric.map Value.u32)
  insertOptionalValue values "table" (route.table.map Value.u32)

def routeData (routes : List TargetIpRoute) : List Values := routes.map routeValues

/-- The fields that are sent are written; a replacement also says whether automatic DNS is ignored. -/
def writeValues (values : Values) (update : TargetIpSettings) (replacing : Bool) : Values :=
  let values := writeData values "address-data" update.addresses fun addresses =>
    encodeDicts (addressData addresses)
  let values := insertOptionalString values "gateway" update.gateway
  let values := writeData values "dns-data" update.dns stringList
  let values := writeData values "route-data" update.routes fun routes =>
    encodeDicts (routeData routes)
  let values := insertOptionalValue values "route-metric" (update.routeMetric.map Value.i64)
  let values := insertOptionalValue values "ignore-auto-dns"
    (((if replacing then some (update.ignoreAutoDns.getD false) else none).or
      update.ignoreAutoDns).map Value.bool)
  writeData values "dns-search" update.dnsSearch stringList

/-- The values of a section under a new configuration. -/
def replaceValues (update : TargetIpSettings) (values : Values) : Values :=
  let values := replacedKeys.foldl (fun values key => values.erase key) values
  writeValues (values.insert "method" (.str (update.method.getD "auto"))) update true

/-- An update of a saved profile replaces its configuration. -/
def replace (settings : ConnectionSettings) (section' : String) (update : TargetIpSettings) :
    ConnectionSettings :=
  editSection settings section' (replaceValues update)

/-- A connection request adds to the configuration. -/
def overlay (settings : ConnectionSettings) (section' : String) (update : TargetIpSettings) :
    ConnectionSettings :=
  editSection settings section' fun values =>
    let method := (filled update.method).or
      (if update.addresses.isEmpty then none else some "manual")
    writeValues (insertOptionalValue values "method" (method.map Value.str)) update false

def setSendHostname (settings : ConnectionSettings) (section' : String) (enabled : Bool) :
    ConnectionSettings :=
  editSection settings section' fun values =>
    let values :=
      if (values.lookup "method").isSome then values
      else values.insert "method" (.str "auto")
    values.insert "dhcp-send-hostname" (.bool enabled)

/-! ## Reading -/

structure ProfileIpSettings : Type where
  method : String
  addresses : List TargetIpAddress
  gateway : Option String
  dns : List String
  routes : List TargetIpRoute
  ignoreAutoDns : Bool
  dnsSearch : List String
  routeMetric : Option Int64
  ignoreAutoRoutes : Bool
  neverDefault : Bool
  mayFail : Bool
  dhcpHostname : Option String
  dhcpClientId : Option String
  dadTimeout : Option Int32
  ip6Privacy : Option Int32

/-- An address, if its entry has all of it. -/
def readAddress (entry : List (String × Value)) : Option TargetIpAddress := do
  let address ← (entry.lookup "address").bind valueText
  let prefixLength ← (entry.lookup "prefix").bind Value.asU32
  return { address, prefixLength }

def settingAddressData (value : Value) : Option (List TargetIpAddress) :=
  (valueDicts value).map fun dicts => dicts.filterMap readAddress

def readRoute (entry : List (String × Value)) : Option TargetIpRoute := do
  let dest ← (entry.lookup "dest").bind valueText
  let prefixLength ← (entry.lookup "prefix").bind Value.asU32
  return {
    dest, prefixLength
    nextHop := filled ((entry.lookup "next-hop").bind valueText)
    metric := (entry.lookup "metric").bind Value.asU32
    table := (entry.lookup "table").bind Value.asU32 }

def settingRouteData (value : Value) : Option (List TargetIpRoute) :=
  (valueDicts value).map fun dicts => dicts.filterMap readRoute

def settingI64 (value : Value) : Option Int64 :=
  (asI64 value).or (value.asU32.map fun n => n.toUInt64.toInt64)

/-- The settings of an address family as a profile has them. -/
def profileIpSettings (settings : ConnectionSettings) (section' : String) : ProfileIpSettings :=
  let values := (settings.lookup section').getD ∅
  let text := fun key => filled (settingText values key)
  let familyI32 := fun family key => if section' = family then settingI32 values key else none
  { method := (settingText values "method").getD "auto"
    addresses := (setting settingAddressData values "address-data").getD []
    gateway := text "gateway"
    dns := settingStrings values "dns-data"
    routes := (setting settingRouteData values "route-data").getD []
    ignoreAutoDns := (setting Wifi.asBool values "ignore-auto-dns").getD false
    dnsSearch := settingStrings values "dns-search"
    routeMetric := setting settingI64 values "route-metric"
    ignoreAutoRoutes := (setting Wifi.asBool values "ignore-auto-routes").getD false
    neverDefault := (setting Wifi.asBool values "never-default").getD false
    mayFail := (setting Wifi.asBool values "may-fail").getD true
    dhcpHostname := text "dhcp-hostname"
    dhcpClientId := if section' = "ipv4" then text "dhcp-client-id" else none
    dadTimeout := familyI32 "ipv4" "dad-timeout"
    ip6Privacy := familyI32 "ipv6" "ip6-privacy" }

/-! ## A replacement as a patch -/

variable {settings a b : ConnectionSettings} {section' key : String} {update : TargetIpSettings}

/-- What is written of entries that may be none. -/
def dataOf {α : Type} (entries : List α) (encode : List α → Value) : Option Value :=
  if entries.isEmpty then none else some (encode entries)

theorem writeData_eq {α : Type} (values : Values) (key : String) (entries : List α)
    (encode : List α → Value) : writeData values key entries encode =
      (Patch.optional key (dataOf entries encode)).apply values := by
  rw [writeData, dataOf]
  split_ifs <;> rfl

/-- The data an update writes when it replaces. -/
def written (update : TargetIpSettings) : Patch String Value :=
  Patch.optional "address-data" (dataOf update.addresses fun l => encodeDicts (addressData l)) ++
    Patch.optional "gateway" ((filled update.gateway).map Value.str) ++
    Patch.optional "dns-data" (dataOf update.dns stringList) ++
    Patch.optional "route-data" (dataOf update.routes fun l => encodeDicts (routeData l)) ++
    Patch.optional "route-metric" (update.routeMetric.map Value.i64) ++
    [("ignore-auto-dns", some (.bool (update.ignoreAutoDns.getD false)))] ++
    Patch.optional "dns-search" (dataOf update.dnsSearch stringList)

/-- A replacement: what is there is removed, the method and the new data are written. -/
def replacing (update : TargetIpSettings) : Patch String Value :=
  replacedKeys.map (fun key => (key, none)) ++
    [("method", some (.str (update.method.getD "auto")))] ++ written update

theorem replaceValues_eq (update : TargetIpSettings) (values : Values) :
    replaceValues update values = (replacing update).apply values := by
  have hremove : replacedKeys.foldl (fun values key => values.erase key) values =
      Patch.apply (replacedKeys.map fun key => (key, none)) values := rfl
  have hmethod : ∀ (method : String) (values : Values), values.insert "method" (.str method) =
      Patch.apply [("method", some (.str method))] values := fun _ _ => rfl
  rw [replaceValues, writeValues, hremove, hmethod]
  simp only [writeData_eq, insertOptionalString_eq, insertOptionalValue_eq, replacing, written,
    Patch.apply_append]
  rfl

theorem replace_field (s k : String) : field (replace settings section' update) s k =
    if s = section' then ((replacing update).last k).getD (field settings section' k)
    else field settings s k := by
  rw [replace, funext (replaceValues_eq update), field_patchSection]

/-- The keys a replacement names. -/
theorem mem_replacing : key ∈ (replacing update).map Prod.fst ↔
    key ∈ "method" :: replacedKeys := by
  have hwritten : ∀ k ∈ (written update).map Prod.fst, k ∈ replacedKeys := by
    have hoptional : ∀ {k : String} {value : Option Value} {l : String},
        l ∈ (Patch.optional k value).map Prod.fst → l = k := by
      intro k value l hl
      cases value with
      | none => cases hl
      | some v => exact List.mem_singleton.mp hl
    intro k hk
    simp only [written, List.map_append, List.mem_append] at hk
    rcases hk with (((((hk | hk) | hk) | hk) | hk) | hk) | hk
    all_goals first
      | (rw [hoptional hk]; decide)
      | (rw [List.mem_singleton.mp hk]; change "ignore-auto-dns" ∈ replacedKeys; decide)
  rw [replacing, List.map_append, List.map_append, List.mem_append, List.mem_append, List.map_map]
  have hremoved : key ∈ replacedKeys.map (Prod.fst ∘ fun key => (key, (none : Option Value))) ↔
      key ∈ replacedKeys := by
    rw [show (Prod.fst ∘ fun key : String => (key, (none : Option Value))) = id from rfl, List.map_id]
  rw [hremoved, List.mem_cons]
  constructor
  · rintro ((h | h) | h)
    · exact .inr h
    · exact .inl (List.mem_singleton.mp h)
    · exact .inr (hwritten _ h)
  · rintro (h | h)
    · exact .inl (.inr (List.mem_singleton.mpr h))
    · exact .inl (.inl h)

/-! ## Reading back -/

theorem readAddress_values (address : TargetIpAddress) :
    readAddress (sortedEntries (addressValues address)) = some address := by
  rw [readAddress, lookup_sortedEntries, lookup_sortedEntries, addressValues, AList.lookup_insert,
    AList.lookup_insert_ne (by decide), AList.lookup_insert]
  rfl

/-- A route as it is kept: an empty next hop is none. -/
def TargetIpRoute.kept (route : TargetIpRoute) : TargetIpRoute :=
  { route with nextHop := filled route.nextHop }

theorem bind_asU32_map (n : Option UInt32) : (n.map Value.u32).bind Value.asU32 = n := by
  cases n <;> rfl

theorem bind_valueText_map (text : Option String) : (text.map Value.str).bind valueText = text := by
  cases text <;> rfl

/-- The values of a route as a patch of none. -/
def routePatch (route : TargetIpRoute) : Patch String Value :=
  [("dest", some (.str route.dest)), ("prefix", some (.u32 route.prefixLength))] ++
    Patch.optional "next-hop" ((filled route.nextHop).map Value.str) ++
    Patch.optional "metric" (route.metric.map Value.u32) ++
    Patch.optional "table" (route.table.map Value.u32)

theorem routeValues_lookup (route : TargetIpRoute) (key : String) :
    (routeValues route).lookup key = ((routePatch route).last key).getD none := by
  have hpatch := Patch.lookup_apply (routePatch route) ∅ key
  rw [AList.lookup_empty, routePatch, Patch.apply_append, Patch.apply_append, Patch.apply_append,
    ← insertOptionalValue_eq, ← insertOptionalValue_eq, ← insertOptionalString_eq] at hpatch
  exact hpatch

theorem readRoute_values (route : TargetIpRoute) :
    readRoute (sortedEntries (routeValues route)) = some route.kept := by
  have hdest : (routeValues route).lookup "dest" = some (.str route.dest) := by
    simp [routeValues_lookup, routePatch, Patch.last_append, Patch.last_cons]
  have hprefix : (routeValues route).lookup "prefix" = some (.u32 route.prefixLength) := by
    simp [routeValues_lookup, routePatch, Patch.last_append, Patch.last_cons]
  have hhop : (routeValues route).lookup "next-hop" =
      (filled route.nextHop).map Value.str := by
    simp [routeValues_lookup, routePatch, Patch.last_append, Patch.last_cons]
    cases filled route.nextHop <;> rfl
  have hmetric : (routeValues route).lookup "metric" = route.metric.map Value.u32 := by
    simp [routeValues_lookup, routePatch, Patch.last_append, Patch.last_cons]
    cases route.metric <;> rfl
  have htable : (routeValues route).lookup "table" = route.table.map Value.u32 := by
    simp [routeValues_lookup, routePatch, Patch.last_append, Patch.last_cons]
    cases route.table <;> rfl
  simp only [readRoute, lookup_sortedEntries]
  rw [hdest, hprefix, hhop, hmetric, htable, bind_asU32_map, bind_asU32_map, bind_valueText_map,
    filled_filled]
  rfl

theorem settingAddressData_encode (addresses : List TargetIpAddress) :
    settingAddressData (encodeDicts (addressData addresses)) = some addresses := by
  rw [settingAddressData, valueDicts_encodeDicts, Option.map_some, addressData, List.map_map,
    List.filterMap_map]
  exact congrArg some ((List.filterMap_congr fun address _ => readAddress_values address).trans
    List.filterMap_some)

theorem settingRouteData_encode (routes : List TargetIpRoute) :
    settingRouteData (encodeDicts (routeData routes)) = some (routes.map TargetIpRoute.kept) := by
  rw [settingRouteData, valueDicts_encodeDicts, Option.map_some, routeData, List.map_map,
    List.filterMap_map]
  exact congrArg some ((List.filterMap_congr fun route _ => readRoute_values route).trans
    (congrFun List.filterMap_eq_map routes))

/-- What the editor shows of an update: what was not sent has its default, and an empty gateway
or next hop is none. What an update does not name is as before. -/
def TargetIpSettings.shown (update : TargetIpSettings) (before : ProfileIpSettings) :
    ProfileIpSettings :=
  { before with
    method := update.method.getD "auto"
    addresses := update.addresses
    gateway := filled update.gateway
    dns := update.dns
    routes := update.routes.map TargetIpRoute.kept
    ignoreAutoDns := update.ignoreAutoDns.getD false
    dnsSearch := update.dnsSearch
    routeMetric := update.routeMetric }

/-- What data that may be none is read as. -/
theorem read_dataOf {α β : Type} {entries : List α} {encode : List α → Value}
    {read : Value → Option (List β)} {out : List β} (hread : read (encode entries) = some out)
    (hnil : entries = [] → out = []) : ((dataOf entries encode).bind read).getD [] = out := by
  rw [dataOf]
  cases entries with
  | nil => exact (hnil rfl).symm
  | cons e entries =>
    rw [List.isEmpty_cons, if_neg Bool.false_ne_true, Option.bind_some, hread, Option.getD_some]

/-- What a replaced section holds under the keys of the update. -/
theorem replace_written (settings : ConnectionSettings) (section' : String)
    (update : TargetIpSettings) :
    field (replace settings section' update) section' "method" =
        some (.str (update.method.getD "auto")) ∧
      field (replace settings section' update) section' "address-data" =
        dataOf update.addresses (fun l => encodeDicts (addressData l)) ∧
      field (replace settings section' update) section' "gateway" =
        (filled update.gateway).map Value.str ∧
      field (replace settings section' update) section' "dns-data" = dataOf update.dns stringList ∧
      field (replace settings section' update) section' "route-data" =
        dataOf update.routes (fun l => encodeDicts (routeData l)) ∧
      field (replace settings section' update) section' "ignore-auto-dns" =
        some (.bool (update.ignoreAutoDns.getD false)) ∧
      field (replace settings section' update) section' "dns-search" =
        dataOf update.dnsSearch stringList ∧
      field (replace settings section' update) section' "route-metric" =
        update.routeMetric.map Value.i64 := by
  -- a key is removed first, so what was there is gone if nothing is written
  have hheld : ∀ value : Option Value, (value.map some).getD none = value := by
    intro value
    cases value <;> rfl
  have hwritten : ∀ {α : Type} (f : α → Value) (value : Option α),
      (value.map (some ∘ f)).getD none = value.map f := by
    intro α f value
    cases value <;> rfl
  simp only [replace_field, if_true]
  refine ⟨?_, ?_, ?_, ?_, ?_, ?_, ?_, ?_⟩
  all_goals
    simp [replacing, written, replacedKeys, Patch.last_append, Patch.last_cons, hheld, hwritten]

theorem setting_getD {α : Type} (read : Value → Option α) (settings : ConnectionSettings)
    (section' key : String) : setting read ((settings.lookup section').getD ∅) key =
      (field settings section' key).bind read := by
  rw [setting, lookup_getD]

/-- A replacement leaves what it does not name. -/
theorem replace_frame {s k : String} (h : ¬ (s = section' ∧ k ∈ "method" :: replacedKeys)) :
    field (replace settings section' update) s k = field settings s k := by
  rw [replace_field]
  by_cases hs : s = section'
  · subst hs
    have hkey : k ∉ (replacing update).map Prod.fst := fun hmem => h ⟨rfl, mem_replacing.mp hmem⟩
    rw [if_pos rfl, Patch.last_eq_none hkey]
    rfl
  · rw [if_neg hs]

/-- **Reading back**: the editor is shown what it sent. -/
theorem replace_read (settings : ConnectionSettings) (section' : String)
    (update : TargetIpSettings) :
    profileIpSettings (replace settings section' update) section' =
      update.shown (profileIpSettings settings section') := by
  obtain ⟨hmethod, haddresses, hgateway, hdns, hroutes, hignore, hsearch, hmetric⟩ :=
    replace_written settings section' update
  have hframe : ∀ k, k ∉ "method" :: replacedKeys →
      field (replace settings section' update) section' k = field settings section' k :=
    fun k hk => replace_frame fun h => hk h.2
  have hmetricRead : (update.routeMetric.map Value.i64).bind settingI64 = update.routeMetric := by
    cases update.routeMetric <;> rfl
  have haddressesRead : ((dataOf update.addresses fun l => encodeDicts (addressData l)).bind
      settingAddressData).getD [] = update.addresses :=
    read_dataOf (settingAddressData_encode _) id
  have hroutesRead : ((dataOf update.routes fun l => encodeDicts (routeData l)).bind
      settingRouteData).getD [] = update.routes.map TargetIpRoute.kept :=
    read_dataOf (settingRouteData_encode _) fun hnil => by rw [hnil]; rfl
  have hlistRead : ∀ texts : List String,
      ((dataOf texts stringList).bind (valueList Value.asStr)).getD [] = texts := fun texts =>
    read_dataOf (valueList_stringList texts) id
  simp only [profileIpSettings, TargetIpSettings.shown, settingText, settingStrings, settingI32,
    setting_getD, hmethod, haddresses, hgateway, hdns, hroutes, hignore, hsearch, hmetric,
    hframe "ignore-auto-routes" (by decide), hframe "never-default" (by decide),
    hframe "may-fail" (by decide), hframe "dhcp-hostname" (by decide),
    hframe "dhcp-client-id" (by decide), hframe "dad-timeout" (by decide),
    hframe "ip6-privacy" (by decide), bind_valueText_map, filled_filled, hmetricRead,
    haddressesRead, hroutesRead, hlistRead]
  rfl

/-! ## The configuration before -/

/-- The keys of the configuration, in both forms. -/
def dataKeys : List String :=
  ["address-data", "addresses", "gateway", "dns-data", "dns", "dns-search", "route-metric",
    "route-data", "routes"]

/-- A replacement makes the section a function of the update: two settings that differ only in
the configuration of the section end with one section, the editor reads the update back, and
nothing else changes. -/
structure Replaces (section' : String) (update : TargetIpSettings) (a b : ConnectionSettings) :
    Prop where
  equal : ∀ k, field (replace a section' update) section' k =
    field (replace b section' update) section' k
  read : profileIpSettings (replace a section' update) section' =
    update.shown (profileIpSettings a section')
  keys : ∀ s k, ¬ (s = section' ∧ (k ∈ dataKeys ∨ k = "method" ∨ k = "ignore-auto-dns")) →
    field (replace a section' update) s k = field a s k
  sections : ∀ s, s ≠ section' → (replace a section' update).lookup s = a.lookup s

/-- Whatever an update leaves is what settings that differ only in the configuration had in
common. -/
theorem replace_equal_iff (section' : String) (update : TargetIpSettings)
    (h : ∀ k, k ∉ dataKeys → field a section' k = field b section' k) :
    (∀ k, field (replace a section' update) section' k = field (replace b section' update) section' k) ↔
      field a section' "routes" = field b section' "routes" := by
  have hkey : ∀ k, field (replace a section' update) section' k =
      field (replace b section' update) section' k ↔
        k ∈ "method" :: replacedKeys ∨ field a section' k = field b section' k := by
    intro k
    rw [replace, replace, funext (replaceValues_eq update), field_editSection, field_editSection,
      if_pos rfl, if_pos rfl, Patch.lookup_apply_eq_iff, lookup_getD, lookup_getD, mem_replacing]
  constructor
  · intro hequal
    exact ((hkey "routes").mp (hequal "routes")).resolve_left (by decide)
  · intro hroutes k
    rw [hkey]
    by_cases hk : k ∈ dataKeys
    · by_cases hr : k = "routes"
      · exact .inr (hr ▸ hroutes)
      · left
        have hall : ∀ k ∈ dataKeys, k ≠ "routes" → k ∈ "method" :: replacedKeys := by decide
        exact hall k hk hr
    · exact .inr (h k hk)

/-- **Replacing a configuration** does not depend on the configuration before exactly if the
legacy routes of the section do not. -/
theorem replace_independent (section' : String) (update : TargetIpSettings)
    (a b : ConnectionSettings)
    (h : ∀ s k, ¬ (s = section' ∧ k ∈ dataKeys) → field a s k = field b s k) :
    Replaces section' update a b ↔ field a section' "routes" = field b section' "routes" := by
  have hiff := replace_equal_iff section' update fun k hk => h section' k fun hdata => hk hdata.2
  refine ⟨fun hreplaces => hiff.mp hreplaces.equal, fun hroutes => ⟨hiff.mpr hroutes, ?_, ?_, ?_⟩⟩
  · exact replace_read a section' update
  · intro s k hk
    refine replace_frame fun hnamed => hk ⟨hnamed.1, ?_⟩
    have hall : ∀ k ∈ "method" :: replacedKeys, k ∈ dataKeys ∨ k = "method" ∨ k = "ignore-auto-dns" := by
      decide
    exact hall k hnamed.2
  · intro s hs
    rw [replace, lookup_editSection, if_neg hs]

/-- An update that configures nothing. -/
def automatic : TargetIpSettings := ⟨none, [], none, [], [], none, none, []⟩

/-- A profile with its own name servers, and others for its routes. -/
def configuredProfile (dns : List String) (routes : Option Value) : ConnectionSettings :=
  AList.insert "ipv4" (insertOptionalValue (AList.insert "dns-data" (stringList dns) ∅) "routes" routes) ∅

theorem configuredProfile_frame (dns dns' : List String) (routes routes' : Option Value)
    (s k : String) (h : ¬ (s = "ipv4" ∧ k ∈ dataKeys)) :
    field (configuredProfile dns routes) s k = field (configuredProfile dns' routes') s k := by
  have hfield : ∀ dns routes, field (configuredProfile dns routes) s k = none := by
    intro dns routes
    rw [field, configuredProfile, Table.lookup_insert_ite]
    by_cases hs : s = "ipv4"
    · have hk : k ∉ dataKeys := fun hk => h ⟨hs, hk⟩
      have hdns : k ≠ "dns-data" := fun heq => hk (heq ▸ by decide)
      have hroutes : k ≠ "routes" := fun heq => hk (heq ▸ by decide)
      rw [if_pos hs, Option.bind_some, insertOptionalValue_eq, Patch.lookup_apply,
        Patch.last_optional, if_neg hroutes, AList.lookup_insert_ne hdns]
      rfl
    · rw [if_neg hs]
      rfl
  rw [hfield, hfield]

/-- Other name servers do not matter. -/
theorem replace_independent_dns :
    (∀ s k, ¬ (s = "ipv4" ∧ k ∈ dataKeys) →
      field (configuredProfile ["192.0.2.1"] none) s k =
        field (configuredProfile ["192.0.2.2"] none) s k) ∧
      Replaces "ipv4" automatic (configuredProfile ["192.0.2.1"] none)
        (configuredProfile ["192.0.2.2"] none) :=
  ⟨configuredProfile_frame _ _ _ _,
    (replace_independent "ipv4" automatic _ _ (configuredProfile_frame _ _ _ _)).mpr rfl⟩

/-- The route to 10.0.0.0/8, in the legacy form. -/
def legacyRoute : Value := .array "au" [.array "u" [.u32 10, .u32 8, .u32 0, .u32 0]]

/-- Routes in the legacy form outlive an update that sends none: two profiles that differ in
their routes alone stay different. -/
theorem routes_not_replaced :
    (∀ s k, ¬ (s = "ipv4" ∧ k ∈ dataKeys) →
      field (configuredProfile [] (some legacyRoute)) s k = field (configuredProfile [] none) s k) ∧
    automatic.routes = [] ∧
    field (replace (configuredProfile [] (some legacyRoute)) "ipv4" automatic) "ipv4" "routes" =
      some legacyRoute ∧
    field (replace (configuredProfile [] none) "ipv4" automatic) "ipv4" "routes" = none ∧
    ¬ Replaces "ipv4" automatic (configuredProfile [] (some legacyRoute))
      (configuredProfile [] none) := by
  refine ⟨configuredProfile_frame _ _ _ _, rfl, by decide +kernel, by decide +kernel, ?_⟩
  intro hreplaces
  have hequal := hreplaces.equal "routes"
  revert hequal
  decide +kernel

end ProfileSettings

end NmDaemon
