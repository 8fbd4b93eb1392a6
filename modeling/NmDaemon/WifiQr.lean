import NmDaemon.Base.Escaping
import NmDaemon.Base.Fallible
import NmDaemon.Base.Table
import NmDaemon.Cli
import NmDaemon.ConnectWorkflow
import NmDaemon.ConnectionMachine
import NmDaemon.Errors

/-!
# Wi-Fi QR payloads

`qr.rs`: the text of a code that a phone can join a network from, and the reader for it. The
writer puts a backslash before every character with a meaning; the reader splits the text at
the semicolons that have none before them, takes away quotes that older writers put around a
value, and only then the backslashes.

* `splitLoop_closed` — a closed piece up to a semicolon is one field;
* `unquote_escape` — what is written never looks quoted;
* `fields_payload` — the fields of a written payload;
* `parse_payload` — so it reads back as what was written.
-/

namespace NmDaemon

namespace Qr

open Escaping (escape unescape Closed)

def maxPassphraseChars : ℕ := 63
def rawPskChars : ℕ := 64
def maxWepKeyChars : ℕ := 58

/-! ## The writer -/

/-- The characters with a meaning in a payload. -/
def isSpecial (c : Char) : Bool := c = '\\' || c = ';' || c = ',' || c = ':' || c = '"'

def wifiQrValue (value : String) : String := String.ofList (escape '\\' isSpecial value.toList)

def wifiQrPayload (authType ssid : String) (password : Option String) (hidden : Bool) : String :=
  let password := (password.map fun password => ";P:" ++ wifiQrValue password).getD ""
  let hidden := if hidden then ";H:true" else ""
  "WIFI:T:" ++ authType ++ ";S:" ++ wifiQrValue ssid ++ password ++ hidden ++ ";;"

/-- The token of a hotspot's security. -/
def qrAuthType : HotspotSecurity → String
  | .wpaPsk => "WPA"
  | .sae => "SAE"

/-! ## The reader -/

inductive WifiQrAuth : Type where
  | opened
  | wpa
  | sae
  | wep
  deriving DecidableEq

structure ParsedWifiQr : Type where
  ssid : String
  ssidBytes : List UInt8
  ssidHex : String
  auth : WifiQrAuth
  /-- the token as written in the payload -/
  authToken : String
  hidden : Bool
  hasPassword : Bool
  password : Option String
  wepKeyType : Option WepKeyType

def qrError (message field : String) : DomainError :=
  (DomainError.validation .qrOperation message).withDetail "field" (.str field)

/-- The part before the first `c`, and the part after it. -/
def splitOnce (c : Char) : List Char → Option (List Char × List Char)
  | [] => none
  | d :: rest => if d = c then some ([], rest) else (splitOnce c rest).map fun (a, b) => (d :: a, b)

/-- Take away quotes around a value, unless the last one is escaped. -/
def unquote (value : List Char) : List Char :=
  match value with
  | '"' :: rest =>
    if rest.getLast? = some '"' ∧ (rest.dropLast.reverse.takeWhile (· = '\\')).length % 2 = 0 then
      rest.dropLast
    else value
  | _ => value

/-- The fields of a payload; of two with one key the later counts. -/
abbrev Fields : Type := Table String String

def insertField (fields : Fields) (field : List Char) : Except DomainError Fields :=
  if field = [] then .ok fields
  else
    match splitOnce ':' field with
    | none => .error (qrError "payload contains a field without a key" "payload")
    | some (key, value) =>
      .ok (fields.insert (String.ofList (unescape '\\' key))
        (String.ofList (unescape '\\' (unquote value))))

/-- The loop over the characters, with the field that was begun. -/
def splitLoop : List Char → List Char → Bool → Fields → Except DomainError Fields
  | [], field, escaped, fields =>
    if escaped then .error (qrError "payload ends with a dangling escape" "payload")
    else insertField fields field
  | c :: rest, field, escaped, fields =>
    if escaped then splitLoop rest (field ++ [c]) false fields
    else if c = '\\' then splitLoop rest (field ++ [c]) true fields
    else if c = ';' then insertField fields field >>= splitLoop rest [] false
    else splitLoop rest (field ++ [c]) false fields

def splitFields (body : List Char) : Except DomainError Fields := splitLoop body [] false ∅

def parseAuth (token : String) : Except DomainError WifiQrAuth :=
  match String.ofList (token.toList.map Char.toUpper) with
  | "" | "NOPASS" => .ok .opened
  | "WPA2-EAP" => .error (qrError "enterprise Wi-Fi cannot be joined from a QR code" "T")
  | "WPA" | "WPA2" => .ok .wpa
  | "SAE" | "WPA3" => .ok .sae
  | "WEP" => .ok .wep
  | _ => .error (qrError "unsupported QR authentication type" "T")

def isPassphrase (password : String) : Bool :=
  (8 ≤ password.length && password.length ≤ maxPassphraseChars) ||
    (password.length = rawPskChars && password.toList.all Connection.isHexDigit)

def validatePassword (auth : WifiQrAuth) (password : Option String) : Except DomainError Unit :=
  match auth, password with
  | .opened, none => .ok ()
  | .opened, some _ => .error (qrError "an open network payload must not carry a password" "P")
  | _, none => .error (qrError "payload has no password" "P")
  | .wpa, some password | .sae, some password =>
    if isPassphrase password then .ok ()
    else .error (qrError "WPA passphrase must be 8-63 characters or a 64-character key" "P")
  | .wep, some password =>
    if 1 ≤ password.length ∧ password.length ≤ maxWepKeyChars then .ok ()
    else .error (qrError "WEP key length is not valid" "P")

def wepKeyTypeFor (password : String) : WepKeyType :=
  let length := password.length
  let hex := password.toList.all Connection.isHexDigit
  if (hex && (length = 10 || length = 26 || length = 32 || length = 58)) ||
      length = 5 || length = 13 || length = 16 then .key
  else .phrase

def stripPrefix (start : List Char) (text : List Char) : Option (List Char) :=
  if start.isPrefixOf text then some (text.drop start.length) else none

/-- Reads a code: its fields by their letters, then each of them is validated. -/
def parseWifiQr (payload : String) : Except DomainError ParsedWifiQr := do
  let body ←
    ((stripPrefix "WIFI:".toList payload.toList).or (stripPrefix "wifi:".toList payload.toList)).elim
      (.error (qrError "payload is not a WIFI: code" "payload")) .ok
  let fields ← splitFields body
  let ssid ← ((fields.lookup "S").filter fun ssid => ssid ≠ "").elim
    (.error (qrError "payload has no SSID" "S")) .ok
  let ssidBytes := ssid.toUTF8.data.toList
  (validateSsidBytes ssidBytes).mapError fun message => qrError message "S"
  let authToken := (fields.lookup "T").getD ""
  let auth ← parseAuth authToken
  let password := (fields.lookup "P").filter fun value => value ≠ ""
  validatePassword auth password
  return {
    ssid, ssidBytes
    ssidHex := Connect.ssidHex ssidBytes
    auth, authToken
    hidden := ["true", "TRUE", "True", "1"].any fun value => fields.lookup "H" = some value
    hasPassword := password.isSome
    password
    wepKeyType := if auth = .wep then some (wepKeyTypeFor (password.getD "")) else none }

/-! ## Reading one field -/

/-- A piece of a payload as the writer makes it: a key, and a value with its marks. -/
def piece (key : Char) (value : String) : List Char :=
  key :: ':' :: escape '\\' isSpecial value.toList

theorem closed_piece {key : Char} (hkey : isSpecial key = false) (value : String) :
    Closed ';' '\\' (piece key value) := by
  have hsep : key ≠ ';' := fun h => by simp [h, isSpecial] at hkey
  have hesc : key ≠ '\\' := fun h => by simp [h, isSpecial] at hkey
  exact .plain hsep hesc (.plain (by decide) (by decide) (Escaping.closed_escape rfl rfl _))

/-- What is written never looks quoted: a quote has a backslash before it. -/
theorem unquote_escape (text : List Char) :
    unquote (escape '\\' isSpecial text) = escape '\\' isSpecial text := by
  cases text with
  | nil => rfl
  | cons c text =>
    rw [Escaping.escape_cons]
    by_cases hc : isSpecial c = true
    · rw [if_pos hc]
      rfl
    · have hne : c ≠ '"' := fun h => hc (by simp [h, isSpecial])
      rw [if_neg hc, List.singleton_append]
      unfold unquote
      split
      · rename_i rest heq
        exact absurd (List.cons.inj heq).1 hne
      · rfl

theorem insertField_piece {key : Char} (hkey : isSpecial key = false) (value : String)
    (fields : Fields) :
    insertField fields (piece key value) = .ok (fields.insert (String.ofList [key]) value) := by
  have hcolon : key ≠ ':' := fun h => by simp [h, isSpecial] at hkey
  have hesc : key ≠ '\\' := fun h => by simp [h, isSpecial] at hkey
  have hsplit : splitOnce ':' (piece key value) =
      some ([key], escape '\\' isSpecial value.toList) := by
    simp [piece, splitOnce, hcolon]
  have hkey' : unescape '\\' [key] = [key] := Escaping.unescape_plain hesc []
  rw [insertField, if_neg (by simp [piece]), hsplit]
  have hvalue : unescape '\\' (unquote (escape '\\' isSpecial value.toList)) = value.toList := by
    rw [unquote_escape]
    exact Escaping.unescape_escape rfl _
  simp only [hkey', hvalue, String.ofList_toList]

/-! ## Splitting -/

/-- A closed piece up to a semicolon is one field. -/
theorem splitLoop_closed {text : List Char} (h : Closed ';' '\\' text) (rest field : List Char)
    (fields : Fields) :
    splitLoop (text ++ ';' :: rest) field false fields =
      insertField fields (field ++ text) >>= splitLoop rest [] false := by
  induction h generalizing field with
  | nil =>
    rw [List.nil_append, List.append_nil, splitLoop, if_neg (by simp), if_neg (by decide),
      if_pos rfl]
  | @plain c text hsep hesc _ ih =>
    rw [List.cons_append, splitLoop, if_neg (by simp), if_neg hesc, if_neg hsep, ih,
      List.append_assoc, List.singleton_append]
  | @marked c text _ ih =>
    rw [List.cons_append, List.cons_append, splitLoop, if_neg (by simp), if_pos rfl, splitLoop,
      if_pos rfl, ih, List.append_assoc, List.append_assoc]
    rfl

theorem splitLoop_pieces {pieces : List (Char × String)}
    (hkeys : ∀ p ∈ pieces, isSpecial p.1 = false) (rest : List Char) (fields : Fields) :
    splitLoop (pieces.flatMap (fun p => piece p.1 p.2 ++ [';']) ++ rest) [] false fields =
      splitLoop rest [] false
        (pieces.foldl (fun fields p => fields.insert (String.ofList [p.1]) p.2) fields) := by
  induction pieces generalizing fields with
  | nil => rfl
  | cons p pieces ih =>
    have hkey := hkeys p List.mem_cons_self
    rw [List.flatMap_cons, List.append_assoc, List.append_assoc, List.singleton_append,
      splitLoop_closed (closed_piece hkey _), List.nil_append, insertField_piece hkey]
    exact ih (fun q hq => hkeys q (List.mem_cons_of_mem _ hq)) _

/-! ## A written payload -/

/-- The pieces of a payload. -/
def pieces (authType ssid : String) (password : Option String) (hidden : Bool) :
    List (Char × String) :=
  [('T', authType), ('S', ssid)] ++ (password.map fun password => ('P', password)).toList ++
    if hidden then [('H', "true")] else []

theorem toList_payload {authType : String} (hauth : ∀ c ∈ authType.toList, isSpecial c = false)
    (ssid : String) (password : Option String) (hidden : Bool) :
    (wifiQrPayload authType ssid password hidden).toList =
      "WIFI:".toList ++ ((pieces authType ssid password hidden).flatMap
        (fun p => piece p.1 p.2 ++ [';']) ++ [';']) := by
  have htoken : escape '\\' isSpecial authType.toList = authType.toList :=
    Escaping.escape_of_forall hauth
  have htrue : escape '\\' isSpecial ['t', 'r', 'u', 'e'] = ['t', 'r', 'u', 'e'] := by decide
  cases password <;> cases hidden <;>
    simp [wifiQrPayload, wifiQrValue, pieces, piece, htoken, htrue]

theorem keys_pieces (authType ssid : String) (password : Option String) (hidden : Bool) :
    ∀ p ∈ pieces authType ssid password hidden, isSpecial p.1 = false := by
  intro p hp
  cases password <;> cases hidden <;> simp [pieces] at hp <;>
    rcases hp with rfl | rfl | rfl | rfl <;> rfl

/-- The table that a written payload is split into. -/
def payloadFields (authType ssid : String) (password : Option String) (hidden : Bool) : Fields :=
  (pieces authType ssid password hidden).foldl
    (fun fields p => fields.insert (String.ofList [p.1]) p.2) ∅

/-- The fields of a written payload are those it was written from. -/
theorem fields_payload (authType ssid : String) (password : Option String) (hidden : Bool) :
    splitFields ((pieces authType ssid password hidden).flatMap
      (fun p => piece p.1 p.2 ++ [';']) ++ [';']) =
      .ok (payloadFields authType ssid password hidden) := by
  rw [splitFields, splitLoop_pieces (keys_pieces authType ssid password hidden)]
  rfl

section Lookups

variable (authType ssid : String) (password : Option String) (hidden : Bool)

@[simp] theorem lookup_payloadFields_ssid :
    (payloadFields authType ssid password hidden).lookup "S" = some ssid := by
  cases password <;> cases hidden <;> rfl

@[simp] theorem lookup_payloadFields_auth :
    (payloadFields authType ssid password hidden).lookup "T" = some authType := by
  cases password <;> cases hidden <;> rfl

@[simp] theorem lookup_payloadFields_password :
    (payloadFields authType ssid password hidden).lookup "P" = password := by
  cases password <;> cases hidden <;> rfl

@[simp] theorem lookup_payloadFields_hidden :
    (payloadFields authType ssid password hidden).lookup "H" =
      if hidden then some "true" else none := by
  cases password <;> cases hidden <;> rfl

end Lookups

/-! ## Reading a written payload -/

/-- What a payload stands for, once it is read. -/
def contents (auth : WifiQrAuth) (authType ssid : String) (password : Option String)
    (hidden : Bool) : ParsedWifiQr where
  ssid := ssid
  ssidBytes := ssid.toUTF8.data.toList
  ssidHex := Connect.ssidHex ssid.toUTF8.data.toList
  auth := auth
  authToken := authType
  hidden := hidden
  hasPassword := password.isSome
  password := password
  wepKeyType := if auth = .wep then some (wepKeyTypeFor (password.getD "")) else none

/-- Reading a written payload comes down to the checks of its parts. -/
theorem parse_payload {authType : String} (hauth : ∀ c ∈ authType.toList, isSpecial c = false)
    (ssid : String) (password : Option String) (hidden : Bool) :
    parseWifiQr (wifiQrPayload authType ssid password hidden) = (do
      let ssid ← ((some ssid).filter fun ssid => ssid ≠ "").elim
        (.error (qrError "payload has no SSID" "S")) .ok
      (validateSsidBytes ssid.toUTF8.data.toList).mapError fun message => qrError message "S"
      let auth ← parseAuth authType
      let password := password.filter fun value => value ≠ ""
      validatePassword auth password
      return contents auth authType ssid password hidden) := by
  have hbody : (stripPrefix "WIFI:".toList
      (wifiQrPayload authType ssid password hidden).toList) =
      some ((pieces authType ssid password hidden).flatMap
        (fun p => piece p.1 p.2 ++ [';']) ++ [';']) := by
    rw [toList_payload hauth, stripPrefix, if_pos (by simp), List.drop_left]
  have hhidden : (["true", "TRUE", "True", "1"].any fun value =>
      (payloadFields authType ssid password hidden).lookup "H" = some value) = hidden := by
    rw [lookup_payloadFields_hidden]
    cases hidden <;> rfl
  rw [parseWifiQr, hbody, Option.some_or, Option.elim_some]
  simp only [bind, Except.bind, fields_payload, lookup_payloadFields_ssid, lookup_payloadFields_auth,
    lookup_payloadFields_password, hhidden, Option.getD_some, contents]

/-- The tokens that the daemon writes, and what they stand for: the first three when it shares
a profile, the last for a hotspot of its own. -/
inductive Emitted : String → WifiQrAuth → Prop where
  | passwordless : Emitted "nopass" .opened
  | personal : Emitted "WPA" .wpa
  | wep : Emitted "WEP" .wep
  | hotspot (security : HotspotSecurity) :
      Emitted (qrAuthType security) (match security with | .wpaPsk => .wpa | .sae => .sae)

theorem Emitted.plain {token : String} {auth : WifiQrAuth} (h : Emitted token auth) :
    ∀ c ∈ token.toList, isSpecial c = false := by
  have hall : token.toList.all (fun c => isSpecial c = false) = true := by
    rcases h with _ | _ | _ | ⟨_ | _⟩ <;> decide
  exact fun c hc => of_decide_eq_true (List.all_eq_true.mp hall c hc)

theorem Emitted.parseAuth {token : String} {auth : WifiQrAuth} (h : Emitted token auth) :
    parseAuth token = .ok auth := by
  rcases h with _ | _ | _ | ⟨_ | _⟩ <;> rfl

theorem validateSsidBytes_ok {bytes : List UInt8} (hpos : 1 ≤ bytes.length)
    (hlen : bytes.length ≤ 32) : validateSsidBytes bytes = .ok () := by
  refine if_neg ?_
  rintro (rfl | hlong)
  · exact absurd hpos (by decide)
  · omega

/-- No authentication takes an empty password, so none is lost on the way. -/
theorem filter_password {auth : WifiQrAuth} {password : Option String}
    (h : validatePassword auth password = .ok ()) :
    (password.filter fun value => value ≠ "") = password := by
  rcases password with _ | password
  · rfl
  · have hne : password ≠ "" := by
      rintro rfl
      cases auth <;> cases h
    rw [Option.filter_some, if_pos (by simp [hne])]

/-- What the daemon writes, its own reader reads back: the network name, the password, the
hidden flag and the authentication, whatever characters they are made of. -/
theorem payload_round_trip {token : String} {auth : WifiQrAuth} (htoken : Emitted token auth)
    {ssid : String} (hpos : 1 ≤ ssid.utf8ByteSize) (hlen : ssid.utf8ByteSize ≤ 32)
    {password : Option String} (hpassword : validatePassword auth password = .ok ())
    (hidden : Bool) :
    parseWifiQr (wifiQrPayload token ssid password hidden) =
      .ok (contents auth token ssid password hidden) := by
  have hssid : ((some ssid).filter fun ssid => ssid ≠ "") = some ssid := by
    have hne : ssid ≠ "" := by
      rintro rfl
      exact absurd hpos (by decide)
    rw [Option.filter_some, if_pos (by simp [hne])]
  have hbytes : validateSsidBytes ssid.toUTF8.data.toList = .ok () :=
    validateSsidBytes_ok hpos hlen
  rw [parse_payload htoken.plain, hssid, htoken.parseAuth, filter_password hpassword]
  simp only [Option.elim_some, bind, Except.bind, hbytes, hpassword, Except.mapError]
  rfl

/-- A name and a passphrase made of the characters with a meaning. -/
theorem payload_round_trip_special :
    parseWifiQr (wifiQrPayload "WPA" "\"a;b\"" (some "\\;,:\"é\\\"") true) =
      .ok (contents .wpa "WPA" "\"a;b\"" (some "\\;,:\"é\\\"") true) :=
  payload_round_trip .personal (by decide) (by decide) rfl true

end Qr

end NmDaemon
