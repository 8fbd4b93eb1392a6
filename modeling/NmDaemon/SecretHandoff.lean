import NmDaemon.SecretRequests

/-!
# The transient handoff

`daemon_secret/session.rs`: secrets NetworkManager asked the agent to save are kept for a
short time, to be handed out once if it asks for them again. Every access drops what has
expired first.
-/

namespace NmDaemon

namespace Secrets

open Credentials

structure HandoffEntry : Type where
  deadline : ℕ
  /-- the values of each setting, with their keys -/
  values : Table String (List (String × String))

/-- What is handed over, by owner, connection path and uuid of the profile. -/
abbrev Handoff : Type := Table (String × String × String) HandoffEntry

namespace Handoff

/-- What every access begins with. -/
def unexpired (handoff : Handoff) (now : ℕ) : Handoff :=
  handoff.filterMap fun _ entry => if now < entry.deadline then some entry else none

def uuid (connection : ConnectionSettings) : Option String :=
  ((connection.lookup "connection").bind fun values =>
    setting Value.asStr values "uuid").filter fun uuid => uuid ≠ ""

/-- The secrets of settings that may be kept at all. -/
def connectionSecretValues (connection : ConnectionSettings) : List (String × String × String) :=
  ((values connection).toOption.getD []).filter fun e =>
    (flags connection e.1 e.2.1).toOption.any fun retention => retention &&& notSaved = 0

/-- The values by setting. -/
def bySetting (secrets : List (String × String × String)) :
    Table String (List (String × String)) :=
  secrets.foldl (fun t e =>
    t.insert e.1 ((t.lookup e.1).getD [] ++ [(e.2.1, e.2.2)])) ∅

/-- Make room for one more entry, at the expense of the one that expires first. -/
def evict (handoff : Handoff) : Handoff :=
  if handoff.pairs.length < 32 then handoff
  else
    match handoff.pairs.minOn? fun e => e.2.deadline with
    | some e => handoff.erase e.1
    | none => handoff

def stage (handoff : Handoff) (now : ℕ) (owner path : String) (connection : ConnectionSettings) :
    Handoff :=
  match uuid connection with
  | none => handoff
  | some uuid =>
    let values := bySetting (connectionSecretValues connection)
    let others := (handoff.unexpired now).filterMap fun key entry =>
      if key.2.1 ≠ path then some entry else none
    if values.pairs.isEmpty then others
    else AList.insert (owner, path, uuid) { deadline := now + secretTimeout, values } (evict others)

/-- Hand out the values of the request's setting; they are gone then. -/
def take (handoff : Handoff) (now : ℕ) (request : PendingSecretRequest)
    (connection : ConnectionSettings) : Handoff × List (String × String) :=
  match uuid connection with
  | none => (handoff, [])
  | some uuid =>
    let key := (request.nmOwner.getD "", request.connectionPath, uuid)
    let handoff := handoff.unexpired now
    match handoff.lookup key with
    | none => (handoff, [])
    | some entry =>
      let values := (entry.values.lookup request.settingName).getD []
      let rest := entry.values.erase request.settingName
      (if (Table.pairs rest).isEmpty then handoff.erase key
        else AList.insert key { entry with values := rest } handoff,
        values.filter fun e => e.1 ∈ request.secretKeys)

/-- Forget what belongs to a path, or everything. -/
def clear (handoff : Handoff) (now : ℕ) (path : Option String) : Handoff :=
  (handoff.unexpired now).filterMap fun key entry =>
    match path with
    | none => none
    | some path => if path ≠ key.2.1 then some entry else none

end Handoff

end Secrets

end NmDaemon
