import NmDaemon.Base.Patch
import NmDaemon.SecretAddresses
import NmDaemon.WifiProfiles

/-!
# Edits of settings

`variant.rs`: how the values of a section are written, and read by type. A section is looked up
or created (`editSection`), and values are written into it one after the other; each of these
writes is a patch of the section, so that what an edit leaves is read off its patch.

Making a D-Bus value of what is written here cannot fail.
-/

namespace NmDaemon

namespace ProfileSettings

open Credentials (field)

/-! ## Writing -/

/-- A section is changed; it is created if it is missing. -/
def editSection (settings : ConnectionSettings) (section' : String) (f : Values → Values) :
    ConnectionSettings :=
  settings.insert section' (f ((settings.lookup section').getD ∅))

def insertOptionalValue (values : Values) (key : String) (value : Option Value) : Values :=
  match value with
  | some value => values.insert key value
  | none => values

/-- Text that is not empty. -/
def filled (text : Option String) : Option String := text.filter fun text => text ≠ ""

def insertOptionalString (values : Values) (key : String) (value : Option String) : Values :=
  insertOptionalValue values key ((filled value).map Value.str)

def insertOptionalStrings (values : Values) (entries : List (String × Option String)) : Values :=
  entries.foldl (fun values e => insertOptionalString values e.1 e.2) values

def insertOptionalValues (values : Values) (entries : List (String × Option Value)) : Values :=
  entries.foldl (fun values e => insertOptionalValue values e.1 e.2) values

def stringList (texts : List String) : Value := .array "s" (texts.map Value.str)

/-! ## Reading -/

def asI64 : Value → Option Int64
  | .i64 n => some n
  | _ => none

/-- Signed 32-bit values; wider or unsigned ones if they fit. -/
def settingI32 (values : Values) (key : String) : Option Int32 :=
  (setting Value.asI32 values key).or
    (((setting asI64 values key).map Int64.toInt).or
      ((setting Value.asU32 values key).map fun n => (n.toNat : ℤ)) |>.bind fun wide =>
        if -2 ^ 31 ≤ wide ∧ wide < 2 ^ 31 then some (Int32.ofInt wide) else none)

/-! ## What edits leave -/

variable {settings : ConnectionSettings} {section' : String}

theorem lookup_editSection (settings : ConnectionSettings) (section' : String) (f : Values → Values)
    (s : String) : (editSection settings section' f).lookup s =
      if s = section' then some (f ((settings.lookup section').getD ∅))
      else settings.lookup s :=
  Table.lookup_insert_ite _ _ _ _

theorem field_editSection (settings : ConnectionSettings) (section' : String)
    (f : Values → Values) (s k : String) : field (editSection settings section' f) s k =
      if s = section' then (f ((settings.lookup section').getD ∅)).lookup k
      else field settings s k := by
  rw [field, lookup_editSection]
  by_cases hs : s = section'
  · rw [if_pos hs, if_pos hs]
    rfl
  · rw [if_neg hs, if_neg hs]
    rfl

/-- The values of a section that may be missing. -/
theorem lookup_getD (settings : ConnectionSettings) (section' k : String) :
    ((settings.lookup section').getD ∅).lookup k = field settings section' k := by
  rw [field]
  cases settings.lookup section' with
  | none => exact AList.lookup_empty k
  | some values => rfl

/-- A patch of a section, field by field. -/
theorem field_patchSection (settings : ConnectionSettings) (section' : String)
    (p : Patch String Value) (s k : String) : field (editSection settings section' p.apply) s k =
      if s = section' then (p.last k).getD (field settings section' k) else field settings s k := by
  rw [field_editSection, Patch.lookup_apply, lookup_getD]

/-- Edits of one section, one after the other. -/
theorem editSection_editSection (settings : ConnectionSettings) (section' : String)
    (f g : Values → Values) : editSection (editSection settings section' f) section' g =
      editSection settings section' fun values => g (f values) := by
  rw [editSection, editSection, AList.lookup_insert, AList.insert_insert]
  rfl

/-- Patches of several sections. -/
def patchSections (settings : ConnectionSettings) (patches : List (String × Patch String Value)) :
    ConnectionSettings :=
  patches.foldl (fun settings e => editSection settings e.1 e.2.apply) settings

/-- With one patch for a section, it says what the section holds. -/
theorem field_patchSections {patches : List (String × Patch String Value)}
    (hnodup : (patches.map Prod.fst).Nodup) (settings : ConnectionSettings) (s k : String) :
    field (patchSections settings patches) s k =
      ((patches.lookup s).bind fun p => p.last k).getD (field settings s k) := by
  induction patches generalizing settings with
  | nil => rfl
  | cons e patches ih =>
    obtain ⟨section', p⟩ := e
    rw [List.map_cons, List.nodup_cons] at hnodup
    rw [show patchSections settings ((section', p) :: patches) =
      patchSections (editSection settings section' p.apply) patches from rfl, ih hnodup.2,
      field_patchSection, List.lookup_cons]
    by_cases hs : s = section'
    · have hlater : patches.lookup s = none := by
        refine List.lookup_eq_none_iff.mpr fun e he => bne_iff_ne.mpr fun heq => ?_
        exact hnodup.1 (List.mem_map.mpr ⟨e, he, heq.symm.trans hs⟩)
      rw [hlater, if_pos hs, beq_iff_eq.mpr hs, hs]
      rfl
    · rw [if_neg hs, beq_eq_false_iff_ne.mpr hs]

/-- Sections are created, and none is removed. -/
theorem isSome_patchSections (patches : List (String × Patch String Value)) (s : String) :
    ∀ settings : ConnectionSettings,
      ((patchSections settings patches).lookup s).isSome = true ↔
        (settings.lookup s).isSome = true ∨ s ∈ patches.map Prod.fst := by
  induction patches with
  | nil => exact fun settings => ⟨.inl, fun h => h.resolve_right List.not_mem_nil⟩
  | cons e patches ih =>
    intro settings
    rw [show patchSections settings (e :: patches) =
      patchSections (editSection settings e.1 e.2.apply) patches from rfl, ih, lookup_editSection,
      List.map_cons, List.mem_cons]
    by_cases hs : s = e.1
    · simp [hs]
    · simp [hs]

theorem insertOptionalValue_eq (values : Values) (key : String) (value : Option Value) :
    insertOptionalValue values key value = (Patch.optional key value).apply values := by
  cases value <;> rfl

theorem insertOptionalString_eq (values : Values) (key : String) (value : Option String) :
    insertOptionalString values key value =
      (Patch.optional key ((filled value).map Value.str)).apply values :=
  insertOptionalValue_eq values key _

theorem insertOptionalValues_eq (entries : List (String × Option Value)) : ∀ values : Values,
    insertOptionalValues values entries =
      Patch.apply (entries.flatMap fun e => Patch.optional e.1 e.2) values := by
  induction entries with
  | nil => exact fun values => rfl
  | cons e entries ih =>
    intro values
    rw [List.flatMap_cons, Patch.apply_append, ← insertOptionalValue_eq, ← ih]
    rfl

theorem filled_filled (text : Option String) : filled (filled text) = filled text := by
  rw [filled, filled, Option.filter_filter]
  simp

/-- A list of texts is read as it was written. -/
theorem valueList_stringList (texts : List String) :
    valueList Value.asStr (stringList texts) = some texts := by
  rw [stringList, valueList]
  induction texts with
  | nil => rfl
  | cons text texts ih =>
    rw [List.map_cons, List.mapM_cons, ih]
    rfl

end ProfileSettings

end NmDaemon
