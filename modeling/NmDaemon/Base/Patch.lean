import NmDaemon.Base.Table

/-!
# Patches

A patch of a table is a list of writes and removals. What a patched table holds under a key is
what the last of them for the key left, and what it held before if there is none
(`lookup_apply`). From this a patch touches only the keys it names, leaves nothing of what was
there under them, and may be applied twice.
-/

namespace NmDaemon

universe u v

variable {K : Type u} {V : Type v}

/-- Writes (`some`) and removals (`none`). -/
abbrev Patch (K : Type u) (V : Type v) : Type (max u v) := List (K × Option V)

namespace Patch

/-- The write or removal that is named of a field, if any is. -/
def sent (k : K) (value : Option (Option V)) : Patch K V :=
  match value with
  | some w => [(k, w)]
  | none => []

/-- A write that is made if there is something to write. -/
def optional (k : K) (value : Option V) : Patch K V := sent k (value.map some)

/-- What is named of a list of fields. -/
def ofFields (fields : List (K × Option (Option V))) : Patch K V :=
  fields.flatMap fun f => sent f.1 f.2

theorem ofFields_append (l l' : List (K × Option (Option V))) :
    ofFields (l ++ l') = ofFields l ++ ofFields l' :=
  List.flatMap_append

variable [DecidableEq K]

/-- One write or removal. -/
def step (t : Table K V) (w : K × Option V) : Table K V :=
  match w.2 with
  | some v => t.insert w.1 v
  | none => t.erase w.1

def apply (p : Patch K V) (t : Table K V) : Table K V := p.foldl step t

/-- What a patch leaves under a key it names. -/
def last (p : Patch K V) (k : K) : Option (Option V) := p.reverse.lookup k

variable {p q : Patch K V} {t u : Table K V} {k : K}

theorem lookup_step (t : Table K V) (w : K × Option V) (k : K) :
    (step t w).lookup k = if k = w.1 then w.2 else t.lookup k := by
  obtain ⟨k', value⟩ := w
  cases value with
  | some v => exact Table.lookup_insert_ite t k k' v
  | none => exact Table.lookup_erase_ite t k k'

theorem apply_append (p q : Patch K V) (t : Table K V) : apply (p ++ q) t = apply q (apply p t) :=
  List.foldl_append

/-- A removal before a write or removal under the same key makes no difference. -/
theorem step_erase (t : Table K V) (k : K) (value : Option V) :
    step (t.erase k) (k, value) = step t (k, value) := by
  cases value with
  | some v =>
    refine AList.ext ?_
    change (⟨k, v⟩ : Sigma fun _ : K => V) :: List.kerase k (List.kerase k t.entries) =
      ⟨k, v⟩ :: List.kerase k t.entries
    rw [List.kerase_of_notMem_keys (List.notMem_keys_kerase k t.nodupKeys)]
  | none =>
    refine AList.ext ?_
    change List.kerase k (List.kerase k t.entries) = List.kerase k t.entries
    rw [List.kerase_of_notMem_keys (List.notMem_keys_kerase k t.nodupKeys)]

@[simp] theorem last_nil (k : K) : last ([] : Patch K V) k = none := rfl

theorem last_append (p q : Patch K V) (k : K) : last (p ++ q) k = (last q k).or (last p k) := by
  rw [last, List.reverse_append, List.lookup_append]
  rfl

theorem last_cons (k' : K) (value : Option V) (p : Patch K V) (k : K) :
    last ((k', value) :: p) k = (last p k).or (if k = k' then some value else none) := by
  rw [last, List.reverse_cons, List.lookup_append]
  by_cases h : k = k'
  · rw [if_pos h, h]
    simp [last]
  · have hne : (k == k') = false := beq_eq_false_iff_ne.mpr h
    rw [if_neg h, List.lookup_cons, hne]
    rfl

@[simp] theorem last_sent (k' : K) (value : Option (Option V)) (k : K) :
    last (sent k' value) k = if k = k' then value else none := by
  cases value with
  | some w =>
    rw [sent, last_cons]
    rfl
  | none =>
    rw [sent, last_nil]
    split_ifs <;> rfl

@[simp] theorem last_optional (k' : K) (value : Option V) (k : K) :
    last (optional k' value) k = if k = k' then value.map some else none :=
  last_sent k' (value.map some) k

/-- What a patched table holds. -/
theorem lookup_apply (p : Patch K V) : ∀ (t : Table K V) (k : K),
    (apply p t).lookup k = (last p k).getD (t.lookup k) := by
  induction p with
  | nil => exact fun t k => rfl
  | cons w p ih =>
    obtain ⟨k', value⟩ := w
    intro t k
    rw [show apply ((k', value) :: p) t = apply p (step t (k', value)) from rfl, ih, last_cons,
      lookup_step]
    cases last p k with
    | some w => rfl
    | none =>
      by_cases h : k = k'
      · rw [if_pos h, if_pos h]
        rfl
      · rw [if_neg h, if_neg h]
        rfl

/-- A patch touches only the keys it names. -/
theorem last_eq_none (h : k ∉ p.map Prod.fst) : last p k = none := by
  rw [last]
  induction p with
  | nil => rfl
  | cons w p ih =>
    rw [List.map_cons, List.mem_cons, not_or] at h
    have hne : (k == w.1) = false := beq_eq_false_iff_ne.mpr h.1
    rw [List.reverse_cons, List.lookup_append, ih h.2, List.lookup_cons, hne]
    rfl

theorem last_isSome (h : k ∈ p.map Prod.fst) : ∃ value, last p k = some value := by
  induction p with
  | nil => cases h
  | cons w p ih =>
    obtain ⟨k', value⟩ := w
    rw [last_cons]
    by_cases hlater : k ∈ p.map Prod.fst
    · obtain ⟨value, hvalue⟩ := ih hlater
      exact ⟨value, by rw [hvalue]; rfl⟩
    · rw [last_eq_none hlater]
      rcases List.mem_cons.mp h with h | h
      · exact ⟨value, by rw [if_pos h]; rfl⟩
      · exact absurd h hlater

/-- What is left of fields that are named once each. -/
theorem last_ofFields {fields : List (K × Option (Option V))}
    (hnodup : (fields.map Prod.fst).Nodup) (k : K) :
    last (ofFields fields) k = (fields.lookup k).join := by
  induction fields with
  | nil => rfl
  | cons f fields ih =>
    obtain ⟨k', value⟩ := f
    rw [List.map_cons, List.nodup_cons] at hnodup
    rw [ofFields, List.flatMap_cons, last_append, last_sent, ← ofFields, ih hnodup.2, List.lookup_cons]
    by_cases h : k = k'
    · have hlater : fields.lookup k = none := by
        refine List.lookup_eq_none_iff.mpr fun f hf => bne_iff_ne.mpr fun heq => ?_
        exact hnodup.1 (List.mem_map.mpr ⟨f, hf, heq.symm.trans h⟩)
      rw [hlater, if_pos h, beq_iff_eq.mpr h]
      rfl
    · rw [if_neg h, beq_eq_false_iff_ne.mpr h, Option.or_none]

/-- Two tables hold the same under a key after a patch if it names the key, or they did before. -/
theorem lookup_apply_eq_iff : (apply p t).lookup k = (apply p u).lookup k ↔
    k ∈ p.map Prod.fst ∨ t.lookup k = u.lookup k := by
  rw [lookup_apply, lookup_apply]
  by_cases h : k ∈ p.map Prod.fst
  · obtain ⟨value, hvalue⟩ := last_isSome h
    rw [hvalue]
    exact ⟨fun _ => .inl h, fun _ => rfl⟩
  · rw [last_eq_none h]
    exact ⟨.inr, fun hor => hor.resolve_left h⟩

end Patch

end NmDaemon
