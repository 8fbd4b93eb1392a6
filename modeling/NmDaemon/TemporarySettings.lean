import NmDaemon.PublicPolicy
import NmDaemon.WifiSettings

/-!
# Settings of a temporary connection

`make_temporary` (`nm/activate.rs`): what is done to the settings of a join that is not to be
remembered. They may be those of a saved profile, so their uuid goes; the connection does not come
up by itself, and no secret in it may be saved, neither by NetworkManager nor by an agent.

* `temporaryFlag_bits` — the flags of a secret, bit by bit;
* `field_makeTemporary`, `isSome_makeTemporary` — what the settings hold afterwards;
* `makeTemporary_idem` — once is enough;
* `restricted_makeTemporary` — nothing of it matters for the policy of private profiles.
-/

namespace NmDaemon

namespace Activate

open ProfileSettings
open Credentials (field knownKeys flagsKey agentOwned notSaved sameSettings_iff)

/-! ## Flags -/

/-- The secret need not be there. -/
def notRequired : UInt32 := 4

/-- The flags of a secret that is not saved, from those it had. -/
def temporaryFlag (old : Option Value) : Value :=
  .u32 (((old.bind Value.asU32).getD 0 &&& ~~~agentOwned) ||| notSaved)

def temporarySecrets (section' : String) (values : Values) : Values :=
  (knownKeys section').foldl (fun values key =>
    values.insert (flagsKey key) (temporaryFlag (values.lookup (flagsKey key)))) values

/-- A section is changed if it is there. -/
def changeSection (settings : ConnectionSettings) (section' : String) (f : Values → Values) :
    ConnectionSettings :=
  match settings.lookup section' with
  | some values => settings.insert section' (f values)
  | none => settings

def makeTemporary (settings : ConnectionSettings) : ConnectionSettings :=
  let settings := editSection settings "connection" fun connection =>
    (connection.erase "uuid").insert "autoconnect" (.bool false)
  ["802-11-wireless-security", "802-1x"].foldl
    (fun settings section' => changeSection settings section' (temporarySecrets section')) settings

/-- Some bits of flags that were changed. -/
theorem marked_and (x mask : UInt32) : ((x &&& ~~~agentOwned) ||| notSaved) &&& mask =
    (x &&& (~~~agentOwned &&& mask)) ||| (notSaved &&& mask) := by
  rw [← UInt32.and_assoc]
  exact UInt32.toBitVec_inj.mp BitVec.and_or_distrib_right

theorem and_or_self (x y : UInt32) : (x &&& y) ||| y = y := by
  apply UInt32.toBitVec_inj.mp
  ext i hi
  simp

theorem temporaryFlag_bits (old : Option Value) :
    ∃ flags, temporaryFlag old = .u32 flags ∧ flags &&& agentOwned = 0 ∧
      flags &&& notSaved = notSaved ∧
      flags &&& notRequired = (old.bind Value.asU32).getD 0 &&& notRequired := by
  refine ⟨_, rfl, ?_, ?_, ?_⟩
  · rw [marked_and, show ~~~agentOwned &&& agentOwned = 0 by decide,
      show notSaved &&& agentOwned = 0 by decide, UInt32.and_zero, UInt32.or_self]
  · rw [marked_and, show ~~~agentOwned &&& notSaved = notSaved by decide, UInt32.and_self,
      and_or_self]
  · rw [marked_and, show ~~~agentOwned &&& notRequired = notRequired by decide,
      show notSaved &&& notRequired = 0 by decide, UInt32.or_zero]

theorem temporaryFlag_temporaryFlag (old : Option Value) :
    temporaryFlag (some (temporaryFlag old)) = temporaryFlag old := by
  have hagain : ∀ x : UInt32, (((x &&& ~~~agentOwned) ||| notSaved) &&& ~~~agentOwned) |||
      notSaved = (x &&& ~~~agentOwned) ||| notSaved := by
    intro x
    rw [marked_and, UInt32.and_self, show notSaved &&& ~~~agentOwned = notSaved by decide,
      UInt32.or_assoc, UInt32.or_self]
  exact congrArg Value.u32 (hagain _)

/-! ## What is changed -/

/-- The key of the flags of a secret of a section that is made temporary. -/
def IsTemporaryFlag (settings : ConnectionSettings) (section' key : String) : Prop :=
  (section' ∈ ["802-11-wireless-security", "802-1x"]) ∧
    (settings.lookup section').isSome = true ∧ key ∈ (knownKeys section').map flagsKey

instance (settings : ConnectionSettings) (section' key : String) :
    Decidable (IsTemporaryFlag settings section' key) :=
  inferInstanceAs (Decidable (_ ∧ _))

theorem lookup_temporarySecrets (section' : String) (values : Values) (k : String) :
    (temporarySecrets section' values).lookup k =
      if k ∈ (knownKeys section').map flagsKey then some (temporaryFlag (values.lookup k))
      else values.lookup k := by
  -- the slots of WEP share their flags, which are rewritten more than once
  rw [temporarySecrets, ← List.foldl_map (f := flagsKey) (g := fun values key =>
    AList.insert key (temporaryFlag (AList.lookup key values)) values)]
  exact Table.lookup_foldl_rewrite temporaryFlag_temporaryFlag _ values k

theorem lookup_changeSection (settings : ConnectionSettings) (section' : String)
    (f : Values → Values) (s : String) : (changeSection settings section' f).lookup s =
      if s = section' then (settings.lookup s).map f else settings.lookup s := by
  unfold changeSection
  split
  · rename_i values hvalues
    rw [Table.lookup_insert_ite]
    by_cases hs : s = section'
    · rw [if_pos hs, if_pos hs, hs, hvalues]
      rfl
    · rw [if_neg hs, if_neg hs]
  · rename_i hnone
    by_cases hs : s = section'
    · rw [if_pos hs, hs, hnone]
      rfl
    · rw [if_neg hs]

section

variable (settings : ConnectionSettings)

/-- The settings, section by section. -/
theorem lookup_makeTemporary (s : String) : (makeTemporary settings).lookup s =
      if s = "connection" then
        some (AList.insert "autoconnect" (.bool false)
          (((settings.lookup "connection").getD ∅).erase "uuid"))
      else if s ∈ ["802-11-wireless-security", "802-1x"] then
        (settings.lookup s).map (temporarySecrets s)
      else settings.lookup s := by
  change (changeSection (changeSection _ _ _) _ _).lookup s = _
  rw [lookup_changeSection, lookup_changeSection, lookup_editSection]
  by_cases hconnection : s = "connection"
  · subst hconnection
    rfl
  · rw [if_neg hconnection, if_neg hconnection]
    by_cases hsecurity : s = "802-11-wireless-security"
    · subst hsecurity
      rfl
    · rw [if_neg hsecurity]
      by_cases hdot1x : s = "802-1x"
      · subst hdot1x
        rfl
      · rw [if_neg hdot1x, if_neg (by simp [hsecurity, hdot1x])]

/-- The settings, field by field. -/
theorem field_makeTemporary (s k : String) : field (makeTemporary settings) s k =
      if s = "connection" ∧ k = "autoconnect" then some (.bool false)
      else if s = "connection" ∧ k = "uuid" then none
      else if IsTemporaryFlag settings s k then some (temporaryFlag (field settings s k))
      else field settings s k := by
  rw [field, lookup_makeTemporary]
  by_cases hconnection : s = "connection"
  · subst hconnection
    have hflag : ¬ IsTemporaryFlag settings "connection" k := fun h => absurd h.1 (by decide)
    rw [if_pos rfl, Option.bind_some, Table.lookup_insert_ite, Table.lookup_erase_ite, lookup_getD,
      if_neg hflag]
    simp only [true_and]
  · have hother : ∀ key, ¬(s = "connection" ∧ k = key) := fun _ h => hconnection h.1
    rw [if_neg hconnection, if_neg (hother "autoconnect"), if_neg (hother "uuid")]
    by_cases hsection : s ∈ ["802-11-wireless-security", "802-1x"]
    · rw [if_pos hsection, field]
      rcases hvalues : settings.lookup s with _ | values
      · have hnone : ¬IsTemporaryFlag settings s k := by
          rintro ⟨-, hsome, -⟩
          rw [hvalues] at hsome
          cases hsome
        rw [if_neg hnone]
        rfl
      · have hiff : IsTemporaryFlag settings s k ↔ k ∈ (knownKeys s).map flagsKey :=
          ⟨fun h => h.2.2, fun h => ⟨hsection, by rw [hvalues]; rfl, h⟩⟩
        rw [Option.map_some, Option.bind_some, lookup_temporarySecrets]
        simp only [hiff, Option.bind_some]
    · rw [if_neg hsection, if_neg fun h => hsection h.1, field]

theorem isSome_makeTemporary (s : String) : ((makeTemporary settings).lookup s).isSome =
      ((settings.lookup s).isSome || decide (s = "connection")) := by
  rw [lookup_makeTemporary]
  by_cases hconnection : s = "connection"
  · rw [if_pos hconnection, decide_eq_true hconnection, Bool.or_true]
    rfl
  · rw [if_neg hconnection, decide_eq_false hconnection, Bool.or_false]
    split_ifs
    · rw [Option.isSome_map]
    · rfl

/-- What was made temporary can be made temporary again. -/
theorem makeTemporary_idem :
    sameSettings (makeTemporary (makeTemporary settings)) (makeTemporary settings) = true := by
  refine sameSettings_iff.mpr fun s => ⟨?_, fun k => ?_⟩
  · rw [isSome_makeTemporary, isSome_makeTemporary, Bool.or_assoc, Bool.or_self]
  · have hflag : IsTemporaryFlag (makeTemporary settings) s k ↔ IsTemporaryFlag settings s k := by
      refine and_congr_right fun hs => ?_
      have hconnection : decide (s = "connection") = false := by
        rw [decide_eq_false_iff_not]
        rintro rfl
        exact absurd hs (by decide)
      rw [isSome_makeTemporary, hconnection, Bool.or_false]
    rw [field_makeTemporary (makeTemporary settings), field_makeTemporary settings]
    simp only [hflag]
    split_ifs
    · rfl
    · rfl
    · rw [temporaryFlag_temporaryFlag]
    · rfl

/-- The policy of private profiles looks at nothing that is changed. -/
theorem restricted_makeTemporary : Restricted (makeTemporary settings) ↔ Restricted settings := by
  refine restricted_of_trustFields fun e he => ?_
  rw [field_makeTemporary]
  rcases List.mem_cons.mp he with rfl | he
  · rw [if_neg (by decide), if_neg (by decide), if_neg fun h => absurd h.1 (by decide)]
  have hdirectory : e.1 = "802-1x" ∧ e.2 ∉ (knownKeys "802-1x").map flagsKey := by
    revert e
    decide
  obtain ⟨hsection, hkey⟩ := hdirectory
  rw [hsection, if_neg fun h => absurd h.1 (by decide), if_neg fun h => absurd h.1 (by decide),
    if_neg fun h => hkey h.2.2]

end

end Activate

end NmDaemon
