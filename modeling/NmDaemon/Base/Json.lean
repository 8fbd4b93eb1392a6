import Mathlib.Data.List.Perm.Subperm
import Mathlib.Data.Rat.Defs
import Mathlib.Data.String.Basic

/-!
# JSON values

The JSON trees programs build and compare. An object is a list of fields in
strictly increasing key order (`Json.WellFormed`), as an ordered map keeps them, so
that two objects with the same fields are equal.

* `Json.get`, `Json.index` — reading a field, with absence as `none` or as null;
* `Json.set` — assigning a field by index: null turns into an object, and any other
  value that is not an object has no fields to assign (`none`);
* `Json.put` — the same for a value that is known to be an object;
* `Json.erase` — removing a field.

Numbers are integers or exact decimals: a finite binary float is the rational it
denotes, so comparing two of them is comparing the numbers (the two zeros are one).
-/

namespace NmDaemon

/-- A JSON value. -/
inductive Json : Type where
  | null
  | bool (b : Bool)
  | int (i : ℤ)
  | float (q : ℚ)
  | str (s : String)
  | arr (items : List Json)
  | obj (fields : List (String × Json))

namespace Json

mutual

/-- Equality of JSON values is decidable. -/
def decEq : (a b : Json) → Decidable (a = b)
  | .null, .null => isTrue rfl
  | .bool a, .bool b => decidable_of_iff (a = b) (by simp)
  | .int a, .int b => decidable_of_iff (a = b) (by simp)
  | .float a, .float b => decidable_of_iff (a = b) (by simp)
  | .str a, .str b => decidable_of_iff (a = b) (by simp)
  | .arr a, .arr b => @decidable_of_iff _ (a = b) (by simp) (decEqItems a b)
  | .obj a, .obj b => @decidable_of_iff _ (a = b) (by simp) (decEqFields a b)
  | .null, .bool _ | .null, .int _ | .null, .float _ | .null, .str _ | .null, .arr _
  | .null, .obj _ | .bool _, .null | .bool _, .int _ | .bool _, .float _ | .bool _, .str _
  | .bool _, .arr _ | .bool _, .obj _ | .int _, .null | .int _, .bool _ | .int _, .float _
  | .int _, .str _ | .int _, .arr _ | .int _, .obj _ | .float _, .null | .float _, .bool _
  | .float _, .int _ | .float _, .str _ | .float _, .arr _ | .float _, .obj _ | .str _, .null
  | .str _, .bool _ | .str _, .int _ | .str _, .float _ | .str _, .arr _ | .str _, .obj _
  | .arr _, .null | .arr _, .bool _ | .arr _, .int _ | .arr _, .float _ | .arr _, .str _
  | .arr _, .obj _ | .obj _, .null | .obj _, .bool _ | .obj _, .int _ | .obj _, .float _
  | .obj _, .str _ | .obj _, .arr _ => isFalse (by simp)

/-- Equality of lists of JSON values is decidable. -/
def decEqItems : (a b : List Json) → Decidable (a = b)
  | [], [] => isTrue rfl
  | [], _ :: _ => isFalse (by simp)
  | _ :: _, [] => isFalse (by simp)
  | x :: a, y :: b =>
    match decEq x y, decEqItems a b with
    | isTrue h, isTrue h' => isTrue (by rw [h, h'])
    | isFalse h, _ => isFalse fun hc => h (List.cons.inj hc).1
    | _, isFalse h => isFalse fun hc => h (List.cons.inj hc).2

/-- Equality of lists of fields is decidable. -/
def decEqFields : (a b : List (String × Json)) → Decidable (a = b)
  | [], [] => isTrue rfl
  | [], _ :: _ => isFalse (by simp)
  | _ :: _, [] => isFalse (by simp)
  | (k, x) :: a, (l, y) :: b =>
    match decEq x y, decEqFields a b, (inferInstance : Decidable (k = l)) with
    | isTrue h, isTrue h', isTrue h'' => isTrue (by rw [h, h', h''])
    | isFalse h, _, _ => isFalse fun hc => h (Prod.mk.inj (List.cons.inj hc).1).2
    | _, isFalse h, _ => isFalse fun hc => h (List.cons.inj hc).2
    | _, _, isFalse h => isFalse fun hc => h (Prod.mk.inj (List.cons.inj hc).1).1

end

instance : DecidableEq Json := decEq

/-! ## Fields -/

/-- The value of a field in a list of fields. -/
def field (k : String) : List (String × Json) → Option Json
  | [] => none
  | (l, v) :: fields => if k = l then some v else field k fields

/-- Insert a field at its place, replacing the one with the same key. -/
def insertField (k : String) (v : Json) : List (String × Json) → List (String × Json)
  | [] => [(k, v)]
  | (l, w) :: fields =>
    if k < l then (k, v) :: (l, w) :: fields
    else if k = l then (k, v) :: fields
    else (l, w) :: insertField k v fields

@[simp] theorem field_nil (k : String) : field k [] = none := rfl

theorem field_insertField (k l : String) (v : Json) (fields : List (String × Json)) :
    field l (insertField k v fields) = if l = k then some v else field l fields := by
  induction fields with
  | nil => rfl
  | cons f fields ih =>
    obtain ⟨m, w⟩ := f
    by_cases hlt : k < m
    · rw [insertField, if_pos hlt]
      rfl
    · by_cases heq : k = m
      · subst heq
        rw [insertField, if_neg hlt, if_pos rfl, field, field]
        by_cases h : l = k
        · rw [if_pos h, if_pos h]
        · rw [if_neg h, if_neg h, if_neg h]
      · rw [insertField, if_neg hlt, if_neg heq, field, field, ih]
        by_cases h : l = k
        · rw [if_neg fun hm => heq (h.symm.trans hm), if_pos h, if_pos h]
        · rw [if_neg h, if_neg h]

theorem insertField_insertField (k : String) (v w : Json) (fields : List (String × Json)) :
    insertField k w (insertField k v fields) = insertField k w fields := by
  induction fields with
  | nil => simp [insertField]
  | cons f fields ih =>
    obtain ⟨l, x⟩ := f
    by_cases hlt : k < l
    · simp [insertField, hlt]
    · by_cases heq : k = l
      · simp [insertField, heq]
      · simp [insertField, hlt, heq, ih]

/-- Remove a field. -/
def eraseField (k : String) (fields : List (String × Json)) : List (String × Json) :=
  fields.filter fun f => f.1 ≠ k

theorem field_eraseField (k l : String) (fields : List (String × Json)) :
    field l (eraseField k fields) = if l = k then none else field l fields := by
  unfold eraseField
  induction fields with
  | nil => simp
  | cons f fields ih =>
    obtain ⟨m, w⟩ := f
    by_cases hm : m = k
    · rw [List.filter_cons_of_neg (by simp [hm]), ih]
      by_cases hl : l = k
      · rw [if_pos hl, if_pos hl]
      · rw [if_neg hl, if_neg hl, field, if_neg fun h => hl (h.trans hm)]
    · rw [List.filter_cons_of_pos (by simp [hm]), field, field, ih]
      by_cases hl : l = m
      · rw [if_pos hl, if_neg fun h => hm (hl.symm.trans h), if_pos hl]
      · rw [if_neg hl, if_neg hl]

theorem eraseField_insertField (k : String) (v : Json) (fields : List (String × Json)) :
    eraseField k (insertField k v fields) = eraseField k fields := by
  unfold eraseField
  induction fields with
  | nil => simp [insertField]
  | cons f fields ih =>
    obtain ⟨l, x⟩ := f
    by_cases hlt : k < l
    · simp [insertField, hlt]
    · by_cases heq : k = l
      · simp [insertField, heq]
      · simp only [insertField, if_neg hlt, if_neg heq, List.filter_cons, ih]

/-! ## Reading and assigning -/

/-- The value of a field, if the value is an object that has it. -/
def get (j : Json) (k : String) : Option Json :=
  match j with
  | .obj fields => field k fields
  | _ => none

/-- The value of a field, null if there is none. -/
def index (j : Json) (k : String) : Json := (j.get k).getD .null

/-- Assign a field. Null becomes an object; anything else without fields cannot be
assigned to. -/
def set (j : Json) (k : String) (v : Json) : Option Json :=
  match j with
  | .null => some (.obj [(k, v)])
  | .obj fields => some (.obj (insertField k v fields))
  | _ => none

/-- Assign a field of a value that is known to have fields (or to be null). -/
def put (j : Json) (k : String) (v : Json) : Json := (j.set k v).getD j

/-- The value with a field that can be changed in place: a missing one is added as null. -/
def reach (j : Json) (k : String) : Option Json :=
  match j.get k with
  | some _ => some j
  | none => j.set k .null

/-- Remove a field, if the value is an object. -/
def erase (j : Json) (k : String) : Json :=
  match j with
  | .obj fields => .obj (eraseField k fields)
  | _ => j

/-- The text of a string value. -/
def asStr : Json → Option String
  | .str s => some s
  | _ => none

/-- The number of an integer value. -/
def asInt : Json → Option ℤ
  | .int i => some i
  | _ => none

/-- The items of an array value. -/
def asArray : Json → Option (List Json)
  | .arr items => some items
  | _ => none

theorem get_erase (j : Json) (k l : String) :
    (j.erase k).get l = if l = k then none else j.get l := by
  cases j with
  | obj fields => exact field_eraseField k l fields
  | null => simp [erase, get]
  | bool b => simp [erase, get]
  | int i => simp [erase, get]
  | float q => simp [erase, get]
  | str s => simp [erase, get]
  | arr items => simp [erase, get]

section

variable (fields : List (String × Json))

theorem get_put_obj (k l : String) (v : Json) :
    ((obj fields).put k v).get l = if l = k then some v else (obj fields).get l :=
  field_insertField k l v fields

theorem index_put_self (k : String) (v : Json) : ((obj fields).put k v).index k = v := by
  rw [index, get_put_obj, if_pos rfl]
  rfl

variable {k : String}

theorem index_put_ne {l : String} (v : Json) (hne : l ≠ k) :
    ((obj fields).put k v).index l = (obj fields).index l := by
  rw [index, get_put_obj, if_neg hne, index]

theorem put_put (k : String) (v w : Json) : ((obj fields).put k v).put k w = (obj fields).put k w :=
  congrArg obj (insertField_insertField k v w fields)

theorem erase_put (k : String) (v : Json) : ((obj fields).put k v).erase k = (obj fields).erase k :=
  congrArg obj (eraseField_insertField k v fields)

theorem reach_of_get {j v : Json} (h : j.get k = some v) : j.reach k = some j := by
  rw [reach, h]

/-- Only an object has fields. -/
theorem eq_obj_of_get {j v : Json} (h : j.get k = some v) : ∃ fields, j = .obj fields := by
  cases j with
  | obj fields => exact ⟨fields, rfl⟩
  | null => cases h
  | bool b => cases h
  | int i => cases h
  | float q => cases h
  | str s => cases h
  | arr items => cases h

theorem put_obj (k : String) (v : Json) : (obj fields).put k v = obj (insertField k v fields) := rfl

end

/-! ## Well-formed values -/

/-- The fields are in strictly increasing key order. -/
def Sorted (fields : List (String × Json)) : Prop := fields.Pairwise fun f g => f.1 < g.1

instance (fields : List (String × Json)) : Decidable (Sorted fields) :=
  inferInstanceAs (Decidable (fields.Pairwise _))

mutual

/-- Every object of the value has its fields in order. -/
def wellFormed : Json → Bool
  | .null | .bool _ | .int _ | .float _ | .str _ => true
  | .arr items => wellFormedItems items
  | .obj fields => decide (Sorted fields) && wellFormedFields fields

/-- `wellFormed` of all items. -/
def wellFormedItems : List Json → Bool
  | [] => true
  | j :: items => j.wellFormed && wellFormedItems items

/-- `wellFormed` of all fields. -/
def wellFormedFields : List (String × Json) → Bool
  | [] => true
  | (_, j) :: fields => j.wellFormed && wellFormedFields fields

end

/-- A value as an ordered map builds it. -/
abbrev WellFormed (j : Json) : Prop := j.wellFormed = true

theorem wellFormed_arr {items : List Json} :
    (arr items).WellFormed ↔ ∀ j ∈ items, j.WellFormed := by
  rw [WellFormed, wellFormed]
  induction items with
  | nil => simp [wellFormedItems]
  | cons j items ih => simp [wellFormedItems, ih]

variable {fields : List (String × Json)}

theorem wellFormed_obj :
    (obj fields).WellFormed ↔ Sorted fields ∧ ∀ f ∈ fields, f.2.WellFormed := by
  have hall : wellFormedFields fields = true ↔ ∀ f ∈ fields, f.2.WellFormed := by
    induction fields with
    | nil => simp [wellFormedFields]
    | cons f fields ih => simp [wellFormedFields, ih]
  rw [WellFormed, wellFormed, Bool.and_eq_true, decide_eq_true_iff, hall]

variable {k : String} {v : Json}

theorem mem_of_field (h : field k fields = some v) : (k, v) ∈ fields := by
  induction fields with
  | nil => cases h
  | cons f fields ih =>
    obtain ⟨l, w⟩ := f
    rw [field] at h
    split at h
    · rename_i hk
      cases h
      rw [hk]
      exact List.mem_cons_self
    · exact List.mem_cons_of_mem _ (ih h)

theorem field_of_mem (hs : Sorted fields) (h : (k, v) ∈ fields) : field k fields = some v := by
  induction fields with
  | nil => cases h
  | cons f fields ih =>
    obtain ⟨l, w⟩ := f
    obtain ⟨hlt, hs⟩ := List.pairwise_cons.mp hs
    rcases List.mem_cons.mp h with heq | h
    · cases heq
      exact if_pos rfl
    · rw [field, if_neg (ne_of_gt (hlt _ h))]
      exact ih hs h

theorem WellFormed.get {j : Json} (hj : j.WellFormed) (h : j.get k = some v) : v.WellFormed := by
  cases j with
  | obj fields => exact (wellFormed_obj.mp hj).2 _ (mem_of_field h)
  | null => cases h
  | bool b => cases h
  | int i => cases h
  | float q => cases h
  | str s => cases h
  | arr items => cases h

/-- Sorted lists of fields of one length are equal if one is part of the other. -/
theorem Sorted.eq_of_subset {l m : List (String × Json)} (hl : Sorted l) (hm : Sorted m)
    (hlen : l.length = m.length) (hsub : l ⊆ m) : l = m := by
  have hnodup : l.Nodup := hl.imp fun hlt heq => absurd hlt (by rw [heq]; exact lt_irrefl _)
  have hperm : l.Perm m := (hnodup.subperm hsub).perm_of_length_le hlen.ge
  exact hperm.eq_of_pairwise (fun f g _ _ h₁ h₂ => absurd h₁ (lt_asymm h₂)) hl hm

end Json

end NmDaemon
