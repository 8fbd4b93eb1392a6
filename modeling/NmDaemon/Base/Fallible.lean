import Mathlib.Data.List.Basic

/-!
# Computations that may fail

Taking apart computations in `Except` that did not fail: what a sequence, a map or a loop
says of its parts when it has a result.
-/

namespace NmDaemon

namespace Fallible

variable {ε α β : Type}

variable {b : β} {f : α → Except ε β} {x : Except ε α}

theorem bind_eq_ok : (x >>= f) = .ok b ↔ ∃ a, x = .ok a ∧ f a = .ok b := by
  rcases x with e | a
  · constructor
    · intro h
      cases h
    · rintro ⟨a, ha, -⟩
      cases ha
  · refine ⟨fun h => ⟨a, rfl, h⟩, ?_⟩
    rintro ⟨a', ha, h⟩
    cases ha
    exact h

theorem map_eq_ok {f : α → β} : x.map f = .ok b ↔ ∃ a, x = .ok a ∧ f a = b := by
  rcases x with e | a
  · constructor
    · intro h
      cases h
    · rintro ⟨a, ha, -⟩
      cases ha
  · refine ⟨fun h => ⟨a, rfl, Except.ok.inj h⟩, ?_⟩
    rintro ⟨a', ha, rfl⟩
    cases ha
    rfl

theorem mapError_eq_ok {ε' : Type} {f : ε → ε'} {a : α} (h : x.mapError f = .ok a) : x = .ok a := by
  rcases x with e | b
  · cases h
  · cases h
    rfl

variable {l : List α}

theorem foldlM_cons_eq_ok {f : β → α → Except ε β} {a : α} {b' : β} :
    (a :: l).foldlM f b = .ok b' ↔ ∃ c, f b a = .ok c ∧ l.foldlM f c = .ok b' := by
  rw [List.foldlM_cons, bind_eq_ok]

/-- The invariant of a loop. -/
theorem foldlM_invariant {f : β → α → Except ε β} {P : β → Prop}
    (hstep : ∀ b a b', a ∈ l → P b → f b a = .ok b' → P b') :
    ∀ {b b' : β}, P b → l.foldlM f b = .ok b' → P b' := by
  induction l with
  | nil =>
    intro b b' hb h
    cases h
    exact hb
  | cons a l ih =>
    intro b b' hb h
    obtain ⟨c, hfirst, hrest⟩ := foldlM_cons_eq_ok.mp h
    have hc := hstep b a c List.mem_cons_self hb hfirst
    exact ih (fun b a b' ha => hstep b a b' (List.mem_cons_of_mem _ ha)) hc hrest

/-- A loop none of whose steps fails does not fail. -/
theorem foldlM_ok {f : β → α → Except ε β} (h : ∀ b, ∀ a ∈ l, ∃ b', f b a = .ok b') (b : β) :
    ∃ b', l.foldlM f b = .ok b' := by
  induction l generalizing b with
  | nil => exact ⟨b, rfl⟩
  | cons a l ih =>
    obtain ⟨c, hc⟩ := h b a List.mem_cons_self
    obtain ⟨d, hd⟩ := ih (fun b x hx => h b x (List.mem_cons_of_mem _ hx)) c
    exact ⟨d, foldlM_cons_eq_ok.mpr ⟨c, hc, hd⟩⟩

/-- A loop that collects what a function gives. -/
theorem mapM_ok {g : α → β} (h : ∀ a ∈ l, f a = .ok (g a)) : l.mapM f = .ok (l.map g) := by
  induction l with
  | nil => rfl
  | cons a l ih =>
    rw [List.mapM_cons, h a List.mem_cons_self, ih fun x hx => h x (List.mem_cons_of_mem _ hx)]
    rfl

/-- The results of a loop that collects them are those of its elements. -/
theorem mapM_eq_ok :
    ∀ {l' : List β}, l.mapM f = .ok l' →
      (∀ b ∈ l', ∃ a ∈ l, f a = .ok b) ∧ ∀ a ∈ l, ∃ b ∈ l', f a = .ok b := by
  induction l with
  | nil =>
    intro l' h
    cases h
    exact ⟨fun b hb => absurd hb List.not_mem_nil, fun a ha => absurd ha List.not_mem_nil⟩
  | cons a l ih =>
    intro l' h
    rw [List.mapM_cons] at h
    obtain ⟨b, hb, h⟩ := bind_eq_ok.mp h
    obtain ⟨rest, hrest, h⟩ := bind_eq_ok.mp h
    cases h
    obtain ⟨hback, hforth⟩ := ih hrest
    refine ⟨fun b' hb' => ?_, fun a' ha' => ?_⟩
    · rcases List.mem_cons.mp hb' with rfl | hb'
      · exact ⟨a, List.mem_cons_self, hb⟩
      · obtain ⟨a', ha', heq⟩ := hback b' hb'
        exact ⟨a', List.mem_cons_of_mem _ ha', heq⟩
    · rcases List.mem_cons.mp ha' with rfl | ha'
      · exact ⟨b, List.mem_cons_self, hb⟩
      · obtain ⟨b', hb', heq⟩ := hforth a' ha'
        exact ⟨b', List.mem_cons_of_mem _ hb', heq⟩

end Fallible

end NmDaemon
