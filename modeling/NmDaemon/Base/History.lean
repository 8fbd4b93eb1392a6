import Mathlib.Data.List.Induction

/-!
# Histories: what happened last

Specifications over a whole history are stated with one past operator:
`Since P Q log` — an entry with `P` is in the log, and no entry with `Q` came
after it. Logs have their newest entry last, so `since_snoc` is the recursion the
proofs use: it says how one more entry changes the answer. `mem_order` puts two
entries of one log in order.
-/

namespace NmDaemon

universe u

variable {E : Type u}

/-- `P` happened, and `Q` has not happened since. -/
def Since (P Q : E → Prop) (log : List E) : Prop :=
  ∃ pre e post, log = pre ++ e :: post ∧ P e ∧ ∀ x ∈ post, ¬ Q x

theorem not_since_nil (P Q : E → Prop) : ¬ Since P Q [] := by
  rintro ⟨pre, e, post, h, -, -⟩
  cases pre <;> cases h

theorem since_snoc {P Q : E → Prop} {log : List E} {e : E} :
    Since P Q (log ++ [e]) ↔ P e ∨ (¬ Q e ∧ Since P Q log) := by
  constructor
  · rintro ⟨pre, x, post, h, hP, hQ⟩
    rcases List.eq_nil_or_concat post with rfl | ⟨post', y, rfl⟩
    · obtain ⟨-, hx⟩ := List.append_inj' h rfl
      cases hx
      exact .inl hP
    · rw [List.concat_eq_append] at h hQ
      rw [← List.cons_append, ← List.append_assoc] at h
      obtain ⟨rfl, hy⟩ := List.append_inj' h rfl
      cases hy
      refine .inr ⟨hQ e (by simp), pre, x, post', rfl, hP, fun z hz => hQ z ?_⟩
      exact List.mem_append_left _ hz
  · rintro (hP | ⟨hQe, pre, x, post, rfl, hP, hQ⟩)
    · exact ⟨log, e, [], rfl, hP, by simp⟩
    · refine ⟨pre, x, post ++ [e], by simp, hP, fun z hz => ?_⟩
      rcases List.mem_append.mp hz with hz | hz
      · exact hQ z hz
      · rw [List.mem_singleton.mp hz]
        exact hQe

/-- Of two entries of a log one comes first, unless they are one. -/
theorem mem_order {log : List E} {x y : E} (hx : x ∈ log) (hy : y ∈ log) :
    x = y ∨ (∃ pre mid post, log = pre ++ x :: (mid ++ y :: post)) ∨
      ∃ pre mid post, log = pre ++ y :: (mid ++ x :: post) := by
  obtain ⟨pre, post, rfl⟩ := List.append_of_mem hx
  rcases List.mem_append.mp hy with hy | hy
  · obtain ⟨pre', mid, rfl⟩ := List.append_of_mem hy
    exact .inr (Or.inr ⟨pre', mid, post, by simp⟩)
  · rcases List.mem_cons.mp hy with rfl | hy
    · exact .inl rfl
    · obtain ⟨mid, post', rfl⟩ := List.append_of_mem hy
      exact .inr (Or.inl ⟨pre, mid, post', rfl⟩)

/-- Only the entries that `P` or `Q` speak of matter. -/
theorem since_filter {P Q : E → Prop} (p : E → Bool) (hP : ∀ e, P e → p e = true)
    (hQ : ∀ e, Q e → p e = true) (log : List E) :
    Since P Q (log.filter p) ↔ Since P Q log := by
  induction log using List.reverseRecOn with
  | nil => rfl
  | append_singleton log e ih =>
    rw [List.filter_append, since_snoc]
    by_cases he : p e = true
    · rw [List.filter_cons_of_pos he, List.filter_nil, since_snoc, ih]
    · have hnP : ¬ P e := fun h => he (hP e h)
      have hnQ : ¬ Q e := fun h => he (hQ e h)
      rw [List.filter_cons_of_neg he, List.filter_nil, List.append_nil, ih]
      simp [hnP, hnQ]

end NmDaemon
