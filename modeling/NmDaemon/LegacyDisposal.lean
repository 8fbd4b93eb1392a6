import Mathlib.Data.List.Perm.Basic
import NmDaemon.Base.Along
import NmDaemon.Base.Fallible
import NmDaemon.Base.Table

/-!
# Disposing of a legacy credential

`credential_migration.rs`: `discard_legacy` deletes one credential that an older version left
with the desktop's secret service. The user names the item and says which profile, setting and
key it is for. Other programs use the service at the same time, and it may be replaced by
another provider; all the daemon can do is look twice and ask the provider it has looked at.
What is replied to its calls is left open.

* `discardOn` — the disposal, call by call;
* `discard_verified` — what was seen before a deletion was asked for;
* `discard_confirmed` — what was seen when it is reported as done.
-/

namespace NmDaemon

namespace Legacy

open Client

/-! ## The disposal -/

inductive Ask : Type where
  | nameOwner
  | search (owner : String) (expected : List (String × String))
  | attributes (owner path : String)
  | locked (owner path : String)
  | modified (owner path : String)
  | delete (owner path : String)

/-- The reply to a call that does not fail. A search finds unlocked and locked items; the reply to
a deletion is the path of a prompt. -/
abbrev Answer : Ask → Type
  | .nameOwner => String
  | .search .. => List String × List String
  | .attributes .. => Table String String
  | .locked .. => Bool
  | .modified .. => ℕ
  | .delete .. => String

abbrev Reply (c : Ask) : Type := Except String (Answer c)

inductive Failure : Type where
  /-- a call that failed -/
  | bus (error : String)
  | refused (message : String)

abbrev Program (α : Type) : Type := ExceptT Failure (Prog Ask Reply) α

def nameOwner : Program String := ask .nameOwner (Except.mapError .bus)

/-- The attributes of a credential of this program. -/
def expected (uuid setting key : String) : List (String × String) :=
  [("application", "nm-daemon"), ("uuid", uuid), ("setting", setting), ("key", key)]

def search (owner : String) (expected : List (String × String)) :
    Program (List String × List String) :=
  ask (.search owner expected) (Except.mapError fun _ => .refused "legacy metadata search failed")

/-- The attributes include the given ones. -/
def carries (attributes : Table String String) (expected : List (String × String)) : Bool :=
  expected.all fun e => attributes.lookup e.1 = some e.2

/-- The whole metadata of the item, if it is the expected one and unlocked. -/
def checkedItem (owner path : String) (expected : List (String × String)) :
    Program (Table String String × ℕ) := do
  let attributes ← ask (.attributes owner path) (Except.mapError .bus)
  ensure (carries attributes expected = true)
    (.refused "item ownership/identity mismatch; no deletion attempted")
  let locked ← ask (.locked owner path) (Except.mapError .bus)
  ensure (locked = false) (.refused "item is locked; no deletion attempted")
  let modified ← ask (.modified owner path) (Except.mapError .bus)
  pure (attributes, modified)

/-- Two snapshots are the same: attributes are not ordered. -/
def Same (a b : Table String String × ℕ) : Prop := a.1.entries.Perm b.1.entries ∧ a.2 = b.2

instance (a b : Table String String × ℕ) : Decidable (Same a b) :=
  inferInstanceAs (Decidable (_ ∧ _))

/-- Whether a condition holds and the provider is still the one it was; the name is only asked
for if the condition holds. -/
def stillOwned (owner : String) (condition : Prop) [Decidable condition] : Program Bool :=
  if condition then do
    let current ← nameOwner
    pure (decide (current = owner))
  else pure false

/-- The second half of `discardOn`: the deletion, and whether it is known to be done. -/
def deleteVerified (owner path : String) (expected : List (String × String)) : Program Unit := do
  let prompt ← ask (.delete owner path) (Except.mapError fun _ =>
    .refused "item deletion not acknowledged; re-inventory before retrying")
  ensure (prompt = "/") (.refused ("deletion requires a provider prompt; completion " ++
    "unconfirmed, no prompt presented or dismissed"))
  let left ← search owner expected
  let gone ← stillOwned owner (path ∉ left.1 ++ left.2)
  ensure (gone = true)
    (.refused "deletion outcome unconfirmed; re-inventory before retrying")

def discardOn (path uuid setting key : String) : Program Unit := do
  ensure (uuid ≠ "" ∧ setting ≠ "" ∧ key ≠ "") (.refused "exact item identity is required")
  let owner ← nameOwner
  let found ← search owner (expected uuid setting key)
  ensure (path ∈ found.1 ∧ path ∉ found.2)
    (.refused "exact item is absent or locked; no deletion attempted")
  let snapshot ← checkedItem owner path (expected uuid setting key)
  let again ← checkedItem owner path (expected uuid setting key)
  let unchanged ← stillOwned owner (Same again snapshot)
  ensure (unchanged = true) (.refused "item/provider changed; no deletion attempted")
  deleteVerified owner path (expected uuid setting key)

/-! ## What is known when -/

/-- The three readings of the metadata of an item that is unlocked. -/
def reading (owner path : String) (snapshot : Table String String × ℕ) : List (Sigma Reply) :=
  [⟨.attributes owner path, .ok snapshot.1⟩, ⟨.locked owner path, .ok false⟩,
    ⟨.modified owner path, .ok snapshot.2⟩]

/-- The calls made so far are a complete verification of the item, by one provider. -/
structure Verified (path uuid setting key owner : String) (l : List (Sigma Reply)) : Prop where
  named : uuid ≠ "" ∧ setting ≠ "" ∧ key ≠ ""
  history : ∃ found snapshot again, l =
    [⟨.nameOwner, .ok owner⟩, ⟨.search owner (expected uuid setting key), .ok found⟩] ++
      reading owner path snapshot ++ reading owner path again ++ [⟨.nameOwner, .ok owner⟩] ∧
    path ∈ found.1 ∧ path ∉ found.2 ∧ Same again snapshot ∧
    carries snapshot.1 (expected uuid setting key) ∧ carries again.1 (expected uuid setting key)

/-- The calls of a disposal that succeeded: the provider acknowledged the deletion, then no longer
found the item, and still owned the name after that. -/
def Confirmed (path uuid setting key : String) (l : List (Sigma Reply)) : Prop :=
  ∃ owner before left, Verified path uuid setting key owner before ∧
    l = before ++ [⟨.delete owner path, .ok "/"⟩,
      ⟨.search owner (expected uuid setting key), .ok left⟩, ⟨.nameOwner, .ok owner⟩] ∧
    path ∉ left.1 ++ left.2

/-- A deletion is asked for after a verification by the same provider, and for the named item. -/
def Careful (path uuid setting key : String) (l : List (Sigma Reply)) : Ask → Prop
  | .delete owner path' => path' = path ∧ Verified path uuid setting key owner l
  | _ => True

/-! ## Following the disposal -/

variable {path uuid setting key owner : String} {l : List (Sigma Reply)}

section Follow

variable {α : Type} {P : List (Sigma Reply) → Ask → Prop} {Q : List (Sigma Reply) → α → Prop}

theorem along_call {c : Ask} {report : String → Failure} {g : Answer c → Program α} (hc : P l c)
    (hok : ∀ a, Prog.Along P Q (l ++ [⟨c, .ok a⟩]) (g a)) :
    Prog.Along P Q l (ask c (Except.mapError report) >>= g : Program α) := by
  refine .ask_bind hc fun r a hr => ?_
  obtain rfl := Fallible.mapError_eq_ok hr
  exact hok a

theorem along_stillOwned {condition : Prop} [Decidable condition] {g : Bool → Program α}
    (hc : P l .nameOwner)
    (hyes : condition → ∀ current, Prog.Along P Q (l ++ [⟨.nameOwner, .ok current⟩])
      (g (decide (current = owner))))
    (hno : Prog.Along P Q l (g false)) :
    Prog.Along P Q l (stillOwned owner condition >>= g : Program α) := by
  by_cases hcondition : condition
  · rw [stillOwned, if_pos hcondition]
    exact .bind (along_call hc (hyes hcondition))
  · rw [stillOwned, if_neg hcondition]
    exact hno

/-- What a reading gives is what was read, of an item that is unlocked. -/
theorem along_checkedItem {identity : List (String × String)}
    {g : Table String String × ℕ → Program α} (hattributes : ∀ l, P l (.attributes owner path))
    (hlocked : ∀ l, P l (.locked owner path)) (hmodified : ∀ l, P l (.modified owner path))
    (hok : ∀ snapshot, carries snapshot.1 identity = true →
      Prog.Along P Q (l ++ reading owner path snapshot) (g snapshot)) :
    Prog.Along P Q l (checkedItem owner path identity >>= g : Program α) := by
  refine .bind (along_call (hattributes _) fun attributes => .ensure_bind fun hcarries => ?_)
  refine along_call (hlocked _) fun locked => .ensure_bind fun hunlocked => ?_
  subst hunlocked
  refine along_call (hmodified _) fun modified => ?_
  rw [List.append_assoc, List.append_assoc]
  exact hok (attributes, modified) hcarries

end Follow

/-- After a verification the item is deleted once. -/
theorem along_deleteVerified (h : Verified path uuid setting key owner l) :
    Prog.Along (Careful path uuid setting key) (fun l _ => Confirmed path uuid setting key l) l
      (deleteVerified owner path (expected uuid setting key)) := by
  refine along_call ⟨rfl, h⟩ fun prompt => .ensure_bind fun hprompt => ?_
  subst hprompt
  refine along_call trivial fun left => along_stillOwned trivial (fun hleft now => ?_) ?_
  · refine .ensure fun hnow => ?_
    obtain rfl := of_decide_eq_true hnow
    exact ⟨now, l, left, h, by simp, hleft⟩
  · exact .ensure fun hfalse => Bool.noConfusion hfalse

/-- What every way through the disposal has in common. -/
theorem along_discardOn (path uuid setting key : String) :
    Prog.Along (Careful path uuid setting key) (fun l _ => Confirmed path uuid setting key l) []
      (discardOn path uuid setting key) := by
  refine .ensure_bind fun hnamed => along_call trivial fun owner => ?_
  refine along_call trivial fun found => .ensure_bind fun hfound => ?_
  refine along_checkedItem (fun _ => trivial) (fun _ => trivial) (fun _ => trivial)
    fun snapshot hsnapshot => ?_
  refine along_checkedItem (fun _ => trivial) (fun _ => trivial) (fun _ => trivial)
    fun again hagain => ?_
  refine along_stillOwned trivial (fun hsame current => ?_) ?_
  · refine .ensure_bind fun hcurrent => ?_
    obtain rfl := of_decide_eq_true hcurrent
    exact along_deleteVerified ⟨hnamed, found, snapshot, again, rfl, hfound.1, hfound.2, hsame,
      hsnapshot, hagain⟩
  · exact .ensure_bind fun hfalse => Bool.noConfusion hfalse

/-! ## Every run -/

variable {S A : Type} {svc : Service S Ask Reply A} {s₀ s : S} {tr : List (Event S Ask Reply A)}

/-- **Nothing is deleted unseen.** Whatever others do and whatever is replied, a deletion is asked
for only of the item that was named, and only after one provider, which owned the name before and
after, had listed it as unlocked and shown the same complete metadata twice, each time with all of
its identity. These are all calls made before, so there is no second deletion. -/
theorem discard_verified {p : Prog Ask Reply (Except Failure Unit)}
    {before after : List (Sigma Reply)} {owner path' : String} {r : Reply (.delete owner path')}
    (h : Exec svc s₀ (discardOn path uuid setting key) tr s p)
    (hcalls : calls tr = before ++ ⟨.delete owner path', r⟩ :: after) :
    path' = path ∧ Verified path uuid setting key owner before :=
  h.along_call (along_discardOn path uuid setting key) hcalls

/-- **A disposal that succeeds was done.** The deletion was acknowledged without a prompt by the
provider that had shown the item; after that it found no such item and still owned the name. -/
theorem discard_confirmed
    (h : Exec svc s₀ (discardOn path uuid setting key) tr s (.done (.ok ()))) :
    Confirmed path uuid setting key (calls tr) :=
  (h.along (along_discardOn path uuid setting key)).1

/-! ## One credential -/

/-- A provider that has the password of one network, and deletes it without asking: `true` while
it is there. -/
def keeper : Service Bool Ask Reply Empty where
  serve there c _ :=
    match c with
    | .delete .. => some false
    | _ => some there
  rival _ _ := none

def honest (there : Bool) : (c : Ask) → Reply c
  | .nameOwner => .ok ":1.9"
  | .search .. => .ok (if there then ["/item/1"] else [], [])
  | .attributes .. => .ok (AList.insert "application" "nm-daemon" (AList.insert "uuid" "u"
      ((AList.insert "key" "psk" ∅).insert "setting" "802-11-wireless-security")))
  | .locked .. => .ok false
  | .modified .. => .ok 7
  | .delete .. => .ok "/"

def discardHome : Program Unit := discardOn "/item/1" "u" "802-11-wireless-security" "psk"

theorem discard_verified_home :
    ∃ (tr : List (Event Bool Ask Reply Empty)) (s : Bool) (before after : List (Sigma Reply)),
      Exec keeper true discardHome tr s (.done (.ok ())) ∧
      calls tr = before ++ ⟨.delete ":1.9" "/item/1", .ok "/"⟩ :: after ∧
      Verified "/item/1" "u" "802-11-wireless-security" "psk" ":1.9" before := by
  obtain ⟨tr, s, before, after, hexec, hcalls⟩ : ∃ tr s before after,
      Exec keeper true discardHome tr s (.done (.ok ())) ∧
      calls tr = before ++ ⟨.delete ":1.9" "/item/1", .ok "/"⟩ :: after :=
    ⟨_, _, [_, _, _, _, _, _, _, _, _], [_, _],
      Exec.start.play (List.replicate 12 (.inr honest)) rfl, rfl⟩
  exact ⟨tr, s, before, after, hexec, hcalls, (discard_verified hexec hcalls).2⟩

theorem discard_confirmed_home :
    ∃ (tr : List (Event Bool Ask Reply Empty)) (s : Bool),
      Exec keeper true discardHome tr s (.done (.ok ())) ∧
      Confirmed "/item/1" "u" "802-11-wireless-security" "psk" (calls tr) := by
  have hexec : Exec keeper true discardHome _ _ (.done (.ok ())) :=
    Exec.start.play (List.replicate 12 (.inr honest)) rfl
  exact ⟨_, _, hexec, discard_confirmed hexec⟩

end Legacy

end NmDaemon
