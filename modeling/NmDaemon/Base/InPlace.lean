import NmDaemon.Base.Fallible

/-!
# Changes in place

Functions that change a value through a reference and may fail: what they changed before they
failed stays. They are computations with failures over a state (`InPlace`), seen as what they
return together with the state after them (`after`).

* `check` — a fallible computation that changes nothing;
* `update` — a change that takes place as a whole or not at all;
* `forM_eq_ok` — a loop of changes that succeeds is the loop over values;
* `forM_invariant` — what every step of a loop keeps holds after it, however it ends.
-/

namespace NmDaemon

/-- A change of a value in place, which may fail. -/
abbrev InPlace (ε σ α : Type) : Type := ExceptT ε (StateM σ) α

namespace InPlace

variable {ε σ α β : Type} {s : σ}

/-- The result of a change, and the value after it. -/
def after (change : InPlace ε σ α) (s : σ) : Except ε α × σ := change.run.run s

/-- A computation that changes nothing. -/
def check (result : Except ε α) : InPlace ε σ α := ExceptT.mk (pure result)

/-- A change that takes place as a whole or not at all. -/
def update (f : σ → Except ε σ) : InPlace ε σ Unit := do
  let changed ← check (f (← get))
  set changed

theorem after_bind (x : InPlace ε σ α) (f : α → InPlace ε σ β) :
    (x >>= f).after s =
      match x.after s with
      | (.ok a, changed) => (f a).after changed
      | (.error e, changed) => (.error e, changed) := by
  change (ExceptT.run (x >>= f)).run s = _
  rw [ExceptT.run_bind, StateT.run_bind, after]
  rcases (ExceptT.run x).run s with ⟨_ | a, changed⟩ <;> rfl

@[simp] theorem after_check (result : Except ε α) :
    (check result : InPlace ε σ α).after s = (result, s) := rfl

theorem after_update (f : σ → Except ε σ) : (update f).after s =
    match f s with
    | .ok changed => (.ok (), changed)
    | .error e => (.error e, s) := by
  rw [update, after_bind]
  change (check (f s) >>= set : InPlace ε σ Unit).after s = _
  rw [after_bind, after_check]
  cases f s <;> rfl

theorem after_update_eq_ok {f : σ → Except ε σ} {t : σ} :
    (update f).after s = (.ok (), t) ↔ f s = .ok t := by
  rw [after_update]
  cases f s <;> simp

/-- A loop that succeeds, where it is known what a step does that succeeds. -/
theorem forM_eq_ok {step : α → InPlace ε σ Unit} {f : σ → α → Except ε σ}
    (hstep : ∀ a s t, (step a).after s = (.ok (), t) ↔ f s a = .ok t) {l : List α} {t : σ} :
    (forM l step).after s = (.ok (), t) ↔ l.foldlM f s = .ok t := by
  induction l generalizing s with
  | nil =>
    change (Except.ok (), s) = (Except.ok (), t) ↔ Except.ok s = Except.ok t
    simp
  | cons a l ih =>
    rw [List.forM_cons, after_bind, Fallible.foldlM_cons_eq_ok]
    rcases hfirst : (step a).after s with ⟨e | u, changed⟩
    · refine ⟨fun h => (by cases h), ?_⟩
      rintro ⟨c, hc, -⟩
      rw [(hstep a s c).mpr hc] at hfirst
      cases hfirst
    · have hf := (hstep a s changed).mp hfirst
      refine ⟨fun h => ⟨changed, hf, ih.mp h⟩, ?_⟩
      rintro ⟨c, hc, hrest⟩
      rw [hf] at hc
      cases hc
      exact ih.mpr hrest

/-- What every step of a loop keeps holds after the loop, whether it fails or not. -/
theorem forM_invariant {P : σ → Prop} {step : α → InPlace ε σ Unit} {l : List α}
    (hstep : ∀ a s, P s → P ((step a).after s).2) (h : P s) : P ((forM l step).after s).2 := by
  induction l generalizing s with
  | nil => exact h
  | cons a l ih =>
    have hfirst := hstep a s h
    rw [List.forM_cons, after_bind]
    generalize (step a).after s = first at hfirst ⊢
    rcases first with ⟨_ | u, changed⟩
    · exact hfirst
    · exact ih hfirst

end InPlace

end NmDaemon
