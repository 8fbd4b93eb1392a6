import Mathlib.Data.List.Basic

/-!
# First occurrences

A list without the elements whose key occurred before, and the same with a set of keys that
count as seen: what a consumer that keeps such a set gets to see.

* `Distinct.firsts` and `Distinct.eraseDupsBy_eq_firsts` — it is the list without duplicates;
* `Distinct.firsts_sublist` — in the order it had.
-/

namespace NmDaemon

namespace Distinct

universe u v

variable {α : Type u} {κ : Type v} [DecidableEq κ] (key : α → κ)

/-- The elements whose key is new, given the keys that are not. -/
def firsts : List κ → List α → List α
  | _, [] => []
  | seen, a :: l => if key a ∈ seen then firsts seen l else a :: firsts (key a :: seen) l

theorem firsts_cons_of_mem {seen : List κ} {a : α} (h : key a ∈ seen) (l : List α) :
    firsts key seen (a :: l) = firsts key seen l :=
  if_pos h

theorem firsts_cons_of_notMem {seen : List κ} {a : α} (h : key a ∉ seen) (l : List α) :
    firsts key seen (a :: l) = a :: firsts key (key a :: seen) l :=
  if_neg h

theorem firsts_sublist (seen : List κ) (l : List α) : List.Sublist (firsts key seen l) l := by
  induction l generalizing seen with
  | nil => exact .slnil
  | cons a l ih =>
    by_cases h : key a ∈ seen
    · rw [firsts_cons_of_mem key h]
      exact (ih seen).cons a
    · rw [firsts_cons_of_notMem key h]
      exact (ih _).cons_cons a

theorem eraseDupsBy_loop_eq (l acc : List α) :
    List.eraseDupsBy.loop (fun a b => decide (key a = key b)) l acc =
      acc.reverse ++ firsts key (acc.map key) l := by
  induction l generalizing acc with
  | nil => exact (List.append_nil _).symm
  | cons a l ih =>
    unfold List.eraseDupsBy.loop
    by_cases h : key a ∈ acc.map key
    · have hany : (acc.any fun b => decide (key a = key b)) = true := by
        obtain ⟨b, hb, heq⟩ := List.mem_map.mp h
        exact List.any_eq_true.mpr ⟨b, hb, decide_eq_true heq.symm⟩
      rw [hany, firsts_cons_of_mem key h]
      exact ih acc
    · have hany : (acc.any fun b => decide (key a = key b)) = false := by
        rw [List.any_eq_false]
        intro b hb heq
        exact h (List.mem_map.mpr ⟨b, hb, (of_decide_eq_true heq).symm⟩)
      rw [hany, firsts_cons_of_notMem key h]
      refine (ih (a :: acc)).trans ?_
      rw [List.reverse_cons, List.append_assoc, List.singleton_append, List.map_cons]

theorem eraseDupsBy_eq_firsts (l : List α) :
    l.eraseDupsBy (fun a b => decide (key a = key b)) = firsts key [] l :=
  eraseDupsBy_loop_eq key l []

end Distinct

end NmDaemon
