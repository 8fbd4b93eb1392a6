import NmDaemon.Base.Client

/-!
# Following a program call by call

What a program does next depends on the replies it was given and on nothing else. `Along` says
something of each call a program makes, and of its result if it does not fail, in terms of the
calls and replies before; it is proved by following the program. No service occurs in it, so what
it says holds against any service and whatever the others do.

* `calls` — the program's own calls in a history, with their replies;
* `Prog.Along` — the property, with a rule for each way programs that may fail are put together;
* `Exec.along`, `Exec.along_call` — it holds all along every execution.
-/

namespace NmDaemon

namespace Client

variable {S C A : Type} {R : C → Type} {ε α β : Type} {svc : Service S C R A}

/-- The program's own calls in a history, with their replies. -/
def calls (tr : List (Event S C R A)) : List (Sigma R) :=
  tr.filterMap fun
    | .rival _ => none
    | .own _ c r => some ⟨c, r⟩

@[simp] theorem calls_rival (tr : List (Event S C R A)) (a : A) :
    calls (tr ++ [.rival a]) = calls tr := by
  simp [calls]

@[simp] theorem calls_own (tr : List (Event S C R A)) (s : S) (c : C) (r : R c) :
    calls (tr ++ [.own s c r]) = calls tr ++ [⟨c, r⟩] := by
  simp [calls]

variable {tr : List (Event S C R A)}

/-- A call of the program is an event of the history. -/
theorem exists_own_of_calls {l l' : List (Sigma R)} {c : C} {r : R c}
    (h : calls tr = l ++ ⟨c, r⟩ :: l') :
    ∃ l₁ l₂ t, tr = l₁ ++ .own t c r :: l₂ ∧ calls l₁ = l ∧ calls l₂ = l' := by
  obtain ⟨l₁, rest, rfl, hl, hrest⟩ := List.filterMap_eq_append_iff.mp h
  obtain ⟨skipped, e, l₂, rfl, hskipped, he, hl'⟩ := List.filterMap_eq_cons_iff.mp hrest
  rcases e with a | ⟨t, c', r'⟩
  · cases he
  · cases he
    refine ⟨l₁ ++ skipped, l₂, t, by rw [List.append_assoc], ?_, hl'⟩
    rw [calls, List.filterMap_append, hl, List.filterMap_eq_nil_iff.mpr hskipped, List.append_nil]

/-- After the calls `l`, every call the program makes has `P`, and if it does not fail its result
has `Q`. -/
def Prog.Along (P : List (Sigma R) → C → Prop) (Q : List (Sigma R) → α → Prop) :
    List (Sigma R) → Prog C R (Except ε α) → Prop
  | l, .done (.ok a) => Q l a
  | _, .done (.error _) => True
  | l, .call c k => P l c ∧ ∀ r, (k r).Along P Q (l ++ [⟨c, r⟩])

variable {P : List (Sigma R) → C → Prop} {Q : List (Sigma R) → β → Prop} {l : List (Sigma R)}

namespace Prog.Along

variable {g : α → ExceptT ε (Prog C R) β}

theorem ask_bind {c : C} {f : R c → Except ε α} (hc : P l c)
    (hok : ∀ r a, f r = .ok a → Prog.Along P Q (l ++ [⟨c, r⟩]) (g a)) :
    Prog.Along P Q l (Client.ask c f >>= g : ExceptT ε (Prog C R) β) := by
  refine ⟨hc, fun r => ?_⟩
  change Prog.Along P Q _ (ExceptT.bindCont g (f r))
  rcases hr : f r with e | a
  · trivial
  · exact hok r a hr

theorem lift_bind {r : Except ε α} (hok : ∀ a, r = .ok a → Prog.Along P Q l (g a)) :
    Prog.Along P Q l (Client.lift r >>= g : ExceptT ε (Prog C R) β) := by
  rcases r with e | a
  · trivial
  · exact hok a rfl

theorem ensure_bind {b : Prop} [Decidable b] {e : ε} {g : Unit → ExceptT ε (Prog C R) β}
    (hok : b → Prog.Along P Q l (g ())) :
    Prog.Along P Q l (Client.ensure b e >>= g : ExceptT ε (Prog C R) β) := by
  by_cases hb : b
  · rw [Client.ensure, if_pos hb]
    exact hok hb
  · rw [Client.ensure, if_neg hb]
    trivial

/-- A check at the end of a program. -/
theorem ensure {b : Prop} [Decidable b] {e : ε} {Q : List (Sigma R) → Unit → Prop}
    (hok : b → Q l ()) :
    Prog.Along P Q l (Client.ensure b e : ExceptT ε (Prog C R) Unit) := by
  by_cases hb : b
  · rw [Client.ensure, if_pos hb]
    exact hok hb
  · rw [Client.ensure, if_neg hb]
    trivial

/-- A part of a program, and what comes after it. -/
theorem bind {p : ExceptT ε (Prog C R) α}
    (hp : Prog.Along P (fun l a => Prog.Along P Q l (g a)) l p) :
    Prog.Along P Q l (p >>= g : ExceptT ε (Prog C R) β) := by
  change Prog.Along P Q l (Prog.bind p (ExceptT.bindCont g))
  induction p using Prog.rec generalizing l with
  | done r => cases r <;> exact hp
  | call c k ih => exact ⟨hp.1, fun r => ih r (hp.2 r)⟩

end Prog.Along

/-- The calls of an execution have what was proved of them, and so does what is left of the
program. -/
theorem Exec.along {s₀ s : S} {p₀ p : Prog C R (Except ε β)} (h : Exec svc s₀ p₀ tr s p)
    (hp₀ : p₀.Along P Q []) :
    p.Along P Q (calls tr) ∧ Recorded (fun l _ c _ => P (calls l) c) tr := by
  induction h with
  | start => exact ⟨hp₀, .nil⟩
  | rival _ _ ih =>
    rw [calls_rival]
    exact ⟨ih.1, ih.2.rival _⟩
  | own _ _ ih =>
    rw [calls_own]
    exact ⟨ih.1.2 _, ih.2.own ih.1.1⟩

theorem Exec.along_call {s₀ s : S} {p₀ p : Prog C R (Except ε β)} (h : Exec svc s₀ p₀ tr s p)
    (hp₀ : p₀.Along P Q []) {l' : List (Sigma R)} {c : C} {r : R c}
    (hcalls : calls tr = l ++ ⟨c, r⟩ :: l') : P l c := by
  obtain ⟨l₁, l₂, t, htr, rfl, -⟩ := exists_own_of_calls hcalls
  exact (h.along hp₀).2 l₁ l₂ t c r htr

end Client

end NmDaemon
