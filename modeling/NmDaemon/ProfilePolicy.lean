import NmDaemon.Errors
import NmDaemon.SettingsEdits

/-!
# Policy of saved profiles

`nm/profile_policy.rs`: what a profile may not say, whoever wrote it. A certificate is named by a
URI, ended by a zero byte; a profile that is private to some users must not name a directory of
CA certificates, neither for the outer nor for the inner method of 802.1X.
-/

namespace NmDaemon

namespace ProfileSettings

open Credentials (field)

def validatePeaplabel (operation : ErrorOperation) (value : Option String) :
    Except DomainError Unit :=
  if value = none ∨ value = some "" ∨ value = some "0" ∨ value = some "1" then .ok ()
  else .error ((DomainError.validation operation "phase1_peaplabel must be empty, 0, or 1").withDetail
    "field" (.str "802-1x.phase1-peaplabel"))

/-- A reference is a URI of one of two kinds, without a zero in it. -/
def isCertificateReference (value : String) : Bool :=
  !value.toList.contains '\x00' &&
    ("file://".toList.isPrefixOf value.toList || "pkcs11:".toList.isPrefixOf value.toList)

/-- A reference as NetworkManager keeps it. -/
def certificateReference (value : String) : Value :=
  .array "y" ((value.toUTF8.data.toList ++ [0]).map Value.byte)

def setCertificateReference (operation : ErrorOperation) (values : Values) (key : String)
    (value : Option String) : Except DomainError Values :=
  match value with
  | none => .ok values
  | some value =>
    if value = "" then .ok (values.erase key)
    else if isCertificateReference value then
      .ok (values.insert key (certificateReference value))
    else .error ((DomainError.validation operation
      "certificate references must be a file:// or pkcs11: URI without embedded NULs").withDetail
      "field" (.str ("802-1x." ++ key)))

/-- The profile is private to some users. -/
def isPrivate (settings : ConnectionSettings) : Bool :=
  ((field settings "connection" "permissions").bind (valueList Value.asStr)).any fun permissions =>
    !permissions.isEmpty

/-- The profile names a directory of CA certificates under a key. -/
def namesDirectory (settings : ConnectionSettings) (key : String) : Bool :=
  ((field settings "802-1x" key).bind Value.asStr).any fun path => path ≠ ""

def directoryError (operation : ErrorOperation) (key : String) : DomainError :=
  (DomainError.validation operation ("802-1x." ++ key ++
    " is not supported for private connections; clear the CA directory and use ca-cert/phase2-ca-cert or system-ca-certs instead")).withDetail
    "field" (.str ("802-1x." ++ key))

def validatePrivateCaPaths (operation : ErrorOperation) (settings : ConnectionSettings) :
    Except DomainError Unit :=
  if !isPrivate settings then .ok ()
  else if namesDirectory settings "ca-path" then .error (directoryError operation "ca-path")
  else if namesDirectory settings "phase2-ca-path" then
    .error (directoryError operation "phase2-ca-path")
  else .ok ()

/-- A private profile that names a directory of CA certificates. -/
def Restricted (settings : ConnectionSettings) : Prop :=
  isPrivate settings = true ∧
    (namesDirectory settings "ca-path" = true ∨ namesDirectory settings "phase2-ca-path" = true)

instance (settings : ConnectionSettings) : Decidable (Restricted settings) :=
  inferInstanceAs (Decidable (_ ∧ _))

/-- The check accepts exactly the profiles that are not restricted. -/
theorem validatePrivateCaPaths_eq_ok (operation : ErrorOperation) (settings : ConnectionSettings) :
    validatePrivateCaPaths operation settings = .ok () ↔ ¬ Restricted settings := by
  rw [validatePrivateCaPaths, Restricted]
  cases isPrivate settings with
  | false => simp
  | true =>
    cases namesDirectory settings "ca-path" with
    | true => simp
    | false => cases namesDirectory settings "phase2-ca-path" <;> simp

/-- The fields the check looks at. -/
def trustFields : List (String × String) :=
  [("connection", "permissions"), ("802-1x", "ca-path"), ("802-1x", "phase2-ca-path")]

theorem restricted_of_trustFields {a b : ConnectionSettings}
    (h : ∀ e ∈ trustFields, field a e.1 e.2 = field b e.1 e.2) : Restricted a ↔ Restricted b := by
  have hpermissions := h ("connection", "permissions") (by decide)
  have hpath := h ("802-1x", "ca-path") (by decide)
  have hinner := h ("802-1x", "phase2-ca-path") (by decide)
  simp only [Restricted, isPrivate, namesDirectory, hpermissions, hpath, hinner]

/-- The check reads settings field by field. -/
theorem restricted_congr {a b : ConnectionSettings} (h : ∀ s k, field a s k = field b s k) :
    Restricted a ↔ Restricted b :=
  restricted_of_trustFields fun e _ => h e.1 e.2

end ProfileSettings

end NmDaemon
