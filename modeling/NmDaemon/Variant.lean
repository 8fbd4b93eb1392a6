import Mathlib.Data.List.Sort
import NmDaemon.Base.Table

/-!
# D-Bus values

`variant.rs`: the values of NetworkManager's settings and the ways they are read.
Containers keep the signature of their elements. Elements that are wrapped in a variant
stand here without the wrapper, since every reader looks through it; values of the types
nothing reads are kept as what they are (`other`), to be compared and passed on.
Dictionaries are sorted by key, as ordered maps keep them, so that equal ones are equal.

Settings and sections are tables in arbitrary order, compared by what they hold
(`sameSettings`).
-/

namespace NmDaemon

/-- A D-Bus value. -/
inductive Value : Type where
  | bool (b : Bool)
  | byte (n : UInt8)
  | i32 (n : Int32)
  | u32 (n : UInt32)
  | i64 (n : Int64)
  | u64 (n : UInt64)
  | str (s : String)
  | array (signature : String) (elements : List Value)
  /-- a dictionary with string keys -/
  | dict (signature : String) (entries : List (String × Value))
  /-- a value of another type -/
  | other (signature : String) (content : List UInt8)

namespace Value

mutual

/-- Equality of D-Bus values is decidable. -/
def decEq : (a b : Value) → Decidable (a = b)
  | .bool a, b => match b with
    | .bool b => decidable_of_iff (a = b) (by simp)
    | .byte _ | .i32 _ | .u32 _ | .i64 _ | .u64 _ | .str _ | .array _ _ | .dict _ _
    | .other _ _ => isFalse (by simp)
  | .byte a, b => match b with
    | .byte b => decidable_of_iff (a = b) (by simp)
    | .bool _ | .i32 _ | .u32 _ | .i64 _ | .u64 _ | .str _ | .array _ _ | .dict _ _
    | .other _ _ => isFalse (by simp)
  | .i32 a, b => match b with
    | .i32 b => decidable_of_iff (a = b) (by simp)
    | .bool _ | .byte _ | .u32 _ | .i64 _ | .u64 _ | .str _ | .array _ _ | .dict _ _
    | .other _ _ => isFalse (by simp)
  | .u32 a, b => match b with
    | .u32 b => decidable_of_iff (a = b) (by simp)
    | .bool _ | .byte _ | .i32 _ | .i64 _ | .u64 _ | .str _ | .array _ _ | .dict _ _
    | .other _ _ => isFalse (by simp)
  | .i64 a, b => match b with
    | .i64 b => decidable_of_iff (a = b) (by simp)
    | .bool _ | .byte _ | .i32 _ | .u32 _ | .u64 _ | .str _ | .array _ _ | .dict _ _
    | .other _ _ => isFalse (by simp)
  | .u64 a, b => match b with
    | .u64 b => decidable_of_iff (a = b) (by simp)
    | .bool _ | .byte _ | .i32 _ | .u32 _ | .i64 _ | .str _ | .array _ _ | .dict _ _
    | .other _ _ => isFalse (by simp)
  | .str a, b => match b with
    | .str b => decidable_of_iff (a = b) (by simp)
    | .bool _ | .byte _ | .i32 _ | .u32 _ | .i64 _ | .u64 _ | .array _ _ | .dict _ _
    | .other _ _ => isFalse (by simp)
  | .array σ a, b => match b with
    | .array τ b => @decidable_of_iff _ (σ = τ ∧ a = b) (by simp)
        (@instDecidableAnd _ _ inferInstance (decEqElements a b))
    | .bool _ | .byte _ | .i32 _ | .u32 _ | .i64 _ | .u64 _ | .str _ | .dict _ _
    | .other _ _ => isFalse (by simp)
  | .dict σ a, b => match b with
    | .dict τ b => @decidable_of_iff _ (σ = τ ∧ a = b) (by simp)
        (@instDecidableAnd _ _ inferInstance (decEqEntries a b))
    | .bool _ | .byte _ | .i32 _ | .u32 _ | .i64 _ | .u64 _ | .str _ | .array _ _
    | .other _ _ => isFalse (by simp)
  | .other σ a, b => match b with
    | .other τ b => decidable_of_iff (σ = τ ∧ a = b) (by simp)
    | .bool _ | .byte _ | .i32 _ | .u32 _ | .i64 _ | .u64 _ | .str _ | .array _ _
    | .dict _ _ => isFalse (by simp)

def decEqElements : (a b : List Value) → Decidable (a = b)
  | [], [] => isTrue rfl
  | [], _ :: _ => isFalse (by simp)
  | _ :: _, [] => isFalse (by simp)
  | x :: a, y :: b =>
    @decidable_of_iff _ (x = y ∧ a = b) (by simp)
      (@instDecidableAnd _ _ (decEq x y) (decEqElements a b))

def decEqEntries : (a b : List (String × Value)) → Decidable (a = b)
  | [], [] => isTrue rfl
  | [], _ :: _ => isFalse (by simp)
  | _ :: _, [] => isFalse (by simp)
  | (k, x) :: a, (l, y) :: b =>
    @decidable_of_iff _ ((k = l ∧ x = y) ∧ a = b) (by simp)
      (@instDecidableAnd _ _ (@instDecidableAnd _ _ inferInstance (decEq x y)) (decEqEntries a b))

end

instance : DecidableEq Value := decEq

/-! ## Reading -/

def asStr : Value → Option String
  | .str s => some s
  | _ => none

def asI32 : Value → Option Int32
  | .i32 n => some n
  | _ => none

def asU32 : Value → Option UInt32
  | .u32 n => some n
  | _ => none

def asByte : Value → Option UInt8
  | .byte n => some n
  | _ => none

def asDict : Value → Option (List (String × Value))
  | .dict _ entries => some entries
  | _ => none

end Value

/-- The values of one section of settings, or of one dictionary. -/
abbrev Values : Type := Table String Value

abbrev ConnectionSettings : Type := Table String Values

/-- A whole list, if every element can be read. -/
def valueList {α : Type} (read : Value → Option α) : Value → Option (List α)
  | .array _ elements => elements.mapM read
  | _ => none

/-- A list of dictionaries. -/
def valueDicts (value : Value) : Option (List (List (String × Value))) :=
  valueList Value.asDict value

/-- A dictionary of strings, if all its values are. -/
def valueStringMap (value : Value) : Option (List (String × String)) :=
  value.asDict.bind fun entries => entries.mapM fun e => e.2.asStr.map fun s => (e.1, s)

/-- Text is a string or its UTF-8 bytes. -/
def valueText (value : Value) : Option String :=
  value.asStr.or ((valueList Value.asByte value).bind fun bytes =>
    String.fromUTF8? ⟨bytes.toArray⟩)

/-- A key of a section, read as a value of a type. -/
def setting {α : Type} (read : Value → Option α) (values : Values) (key : String) : Option α :=
  (values.lookup key).bind read

def settingString (values : Values) (key : String) : Option String := setting Value.asStr values key

def settingText (values : Values) (key : String) : Option String := setting valueText values key

def settingStrings (values : Values) (key : String) : List String :=
  (setting (valueList Value.asStr) values key).getD []

/-! ## Writing -/

/-- The table of a dictionary's entries. -/
def tableOf {V : Type} (entries : List (String × V)) : Table String V :=
  (entries.map fun e => (⟨e.1, e.2⟩ : Sigma fun _ : String => V)).toAList

/-- The entries of a table in the order a dictionary keeps them. -/
def sortedEntries {V : Type} (t : Table String V) : List (String × V) :=
  t.pairs.insertionSort fun a b => a.1 ≤ b.1

def encodeStrings (t : Table String String) : Value :=
  .dict "s" ((sortedEntries t).map fun e => (e.1, .str e.2))

def encodeDicts (dicts : List Values) : Value :=
  .array "a\x7bsv\x7d" (dicts.map fun values => .dict "v" (sortedEntries values))

/-! ### Reading what was written -/

theorem lookup_tableOf {V : Type} (entries : List (String × V)) (k : String) :
    (tableOf entries).lookup k = entries.lookup k := by
  rw [tableOf, List.toAList, AList.lookup, List.dlookup_dedupKeys]
  induction entries with
  | nil => rfl
  | cons e entries ih =>
    obtain ⟨k', v⟩ := e
    by_cases h : k = k'
    · subst h
      rw [List.map_cons, List.dlookup_cons_eq, List.lookup_cons_self]
    · have hne : (k == k') = false := beq_eq_false_iff_ne.mpr h
      rw [List.map_cons, List.lookup_cons, hne, ← ih]
      exact List.dlookup_cons_ne _ (⟨k', v⟩ : Sigma fun _ : String => V) h

/-- With one entry for a key, the entry is what is found. -/
theorem lookup_eq_some_iff {V : Type} {entries : List (String × V)}
    (h : (entries.map Prod.fst).Nodup) {k : String} {v : V} :
    entries.lookup k = some v ↔ (k, v) ∈ entries := by
  induction entries with
  | nil => simp
  | cons e entries ih =>
    obtain ⟨k', v'⟩ := e
    rw [List.map_cons, List.nodup_cons] at h
    by_cases hk : k = k'
    · subst hk
      have hlater : (k, v) ∉ entries := fun hmem => h.1 (List.mem_map.mpr ⟨_, hmem, rfl⟩)
      simp [hlater, eq_comm]
    · have hne : (k == k') = false := beq_eq_false_iff_ne.mpr hk
      rw [List.lookup_cons, hne, ih h.2]
      simp [hk]

theorem nodup_sortedEntries {V : Type} (t : Table String V) :
    ((sortedEntries t).map Prod.fst).Nodup :=
  ((List.perm_insertionSort _ t.pairs).map Prod.fst).nodup_iff.mpr t.nodup_pairs

theorem mem_sortedEntries {V : Type} {t : Table String V} {k : String} {v : V} :
    (k, v) ∈ sortedEntries t ↔ t.lookup k = some v := by
  have hperm : (sortedEntries t).Perm t.pairs := List.perm_insertionSort _ _
  rw [hperm.mem_iff, Table.mem_pairs]

theorem lookup_sortedEntries {V : Type} (t : Table String V) (k : String) :
    (sortedEntries t).lookup k = t.lookup k := by
  refine Option.ext fun v => ?_
  rw [lookup_eq_some_iff (nodup_sortedEntries t), mem_sortedEntries]

/-- A dictionary is written in one way, whatever the order of its table. -/
theorem sortedEntries_congr {V : Type} {t u : Table String V}
    (h : ∀ k, t.lookup k = u.lookup k) : sortedEntries t = sortedEntries u := by
  have hnodup : ∀ w : Table String V, w.pairs.Nodup := fun w => w.nodup_pairs.of_map _
  have hperm : t.pairs.Perm u.pairs :=
    (List.perm_ext_iff_of_nodup (hnodup t) (hnodup u)).mpr fun e => by
      rw [Table.mem_pairs, Table.mem_pairs, h]
  have hsorted := ((List.perm_insertionSort (fun a b : String × V => a.1 ≤ b.1) t.pairs).trans
    hperm).trans (List.perm_insertionSort (fun a b => a.1 ≤ b.1) u.pairs).symm
  refine hsorted.eq_of_pairwise (fun a b ha hb hab hba => ?_)
    (List.pairwise_insertionSort (fun a b : String × V => a.1 ≤ b.1) t.pairs)
    (List.pairwise_insertionSort (fun a b : String × V => a.1 ≤ b.1) u.pairs)
  -- entries with one key are one entry
  have hkey : a.1 = b.1 := String.le_antisymm hab hba
  have ha' : t.lookup a.1 = some a.2 := mem_sortedEntries.mp ha
  have hb' : u.lookup b.1 = some b.2 := mem_sortedEntries.mp hb
  rw [h, hkey, hb'] at ha'
  exact Prod.ext hkey (Option.some.inj ha').symm

theorem valueStringMap_encodeStrings (t : Table String String) :
    valueStringMap (encodeStrings t) = some (sortedEntries t) := by
  rw [encodeStrings, valueStringMap, Value.asDict, Option.bind_some]
  induction sortedEntries t with
  | nil => rfl
  | cons e entries ih =>
    rw [List.map_cons, List.mapM_cons, ih]
    rfl

theorem valueDicts_encodeDicts (dicts : List Values) :
    valueDicts (encodeDicts dicts) = some (dicts.map sortedEntries) := by
  rw [encodeDicts, valueDicts, valueList]
  induction dicts with
  | nil => rfl
  | cons values dicts ih =>
    rw [List.map_cons, List.mapM_cons, ih]
    rfl

/-! ## Comparing -/

/-- Two tables hold the same under every key, up to `same`. -/
def Table.sameBy {V : Type} (same : V → V → Bool) (t u : Table String V) : Bool :=
  (t.keys ++ u.keys).all fun k =>
    match t.lookup k, u.lookup k with
    | some v, some w => same v w
    | none, none => true
    | _, _ => false

/-- Equality of settings as maps. -/
def sameSettings (a b : ConnectionSettings) : Bool :=
  Table.sameBy (Table.sameBy fun v w => v = w) a b

end NmDaemon
