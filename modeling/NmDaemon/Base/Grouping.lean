import NmDaemon.Base.Table

/-!
# Grouping by a key

The elements of a list collected under their keys, and the groups in the order of the keys: an
ordered map from keys to lists, filled in one pass.

* `Grouping.lookup_groups` — the group of a key is the sublist of its elements;
* `Grouping.mem_sortedGroups`, `Grouping.nodup_sortedGroups` — the sorted groups are those of
  the keys that occur, one for each.
-/

namespace NmDaemon

namespace Grouping

universe u v

variable {α : Type u} {κ : Type v} [DecidableEq κ] (key : α → κ)

/-- Add an element to the group of its key. -/
def push (groups : Table κ (List α)) (a : α) : Table κ (List α) :=
  groups.insert (key a) ((groups.lookup (key a)).getD [] ++ [a])

def groups (l : List α) : Table κ (List α) := l.foldl (push key) ∅

/-- The group of a key in a list, if it occurs. -/
def groupOf (k : κ) (l : List α) : Option (List α) :=
  if l.filter (fun a => key a = k) = [] then none else some (l.filter fun a => key a = k)

theorem lookup_push {table : Table κ (List α)} {l : List α} {a : α}
    (h : ∀ k, table.lookup k = groupOf key k l) (k : κ) :
    (push key table a).lookup k = groupOf key k (l ++ [a]) := by
  rw [push, Table.lookup_insert_ite, h, h]
  unfold groupOf
  rw [List.filter_append]
  by_cases hk : k = key a
  · subst hk
    have hself : [a].filter (fun b => decide (key b = key a)) = [a] := by simp
    have hne : l.filter (fun b => decide (key b = key a)) ++ [a] ≠ [] := by simp
    rw [if_pos rfl, hself, if_neg hne]
    split_ifs with hempty
    · rw [hempty]
      rfl
    · rfl
  · have hother : [a].filter (fun b => decide (key b = k)) = [] := by simp [Ne.symm hk]
    rw [if_neg hk, hother, List.append_nil]

theorem lookup_groups (l : List α) (k : κ) : (groups key l).lookup k = groupOf key k l := by
  suffices hfold : ∀ (rest done : List α) (table : Table κ (List α)),
      (∀ k, table.lookup k = groupOf key k done) →
      ∀ k, (rest.foldl (push key) table).lookup k = groupOf key k (done ++ rest) from
    hfold l [] ∅ (fun _ => rfl) k
  intro rest
  induction rest with
  | nil =>
    intro done table h k
    rw [List.append_nil]
    exact h k
  | cons a rest ih =>
    intro done table h k
    rw [List.foldl_cons, ih (done ++ [a]) _ (lookup_push key h), List.append_assoc]
    rfl

theorem groupOf_eq_some {k : κ} {l group : List α} :
    groupOf key k l = some group ↔ group = l.filter (fun a => key a = k) ∧ group ≠ [] := by
  unfold groupOf
  split_ifs with h
  · constructor
    · exact nofun
    · rintro ⟨rfl, hne⟩
      exact absurd h hne
  · constructor
    · intro heq
      obtain rfl := Option.some.inj heq
      exact ⟨rfl, h⟩
    · rintro ⟨rfl, -⟩
      rfl

/-! ## In order -/

variable (le : κ → κ → Bool)

/-- The groups with their keys, in the order of the keys. -/
def sortedGroups (l : List α) : List (κ × List α) :=
  (groups key l).pairs.mergeSort fun a b => le a.1 b.1

theorem mem_sortedGroups {l group : List α} {k : κ} :
    (k, group) ∈ sortedGroups key le l ↔ group = l.filter (fun a => key a = k) ∧ group ≠ [] := by
  unfold sortedGroups
  rw [(List.mergeSort_perm _ _).mem_iff, Table.mem_pairs, lookup_groups, groupOf_eq_some]

theorem nodup_sortedGroups (l : List α) : ((sortedGroups key le l).map Prod.fst).Nodup :=
  ((List.mergeSort_perm _ _).map _).nodup_iff.mpr (groups key l).nodup_pairs

/-- Each element is in the group of its key. -/
theorem exists_group {l : List α} {a : α} (h : a ∈ l) :
    (key a, l.filter fun b => key b = key a) ∈ sortedGroups key le l := by
  refine (mem_sortedGroups key le).mpr ⟨rfl, List.ne_nil_of_mem (a := a) ?_⟩
  exact List.mem_filter.mpr ⟨h, decide_eq_true rfl⟩

end Grouping

end NmDaemon
