import Mathlib.Data.List.Induction

/-!
# Machines and their runs

A component that is shared by threads is modelled as a `Machine`: one action is
one critical section (or one call that another party sees happen at once), and a
run is any sequence of actions the step function allows. All nondeterminism —
which thread goes next, what the outside world answers — sits in the action, so
the step function itself computes.

* `Machine.Run` — the runs, with their log of actions and answers, newest last;
* `Machine.Run.invariant`, `Machine.Run.preserves`, `Machine.Run.relates` — the induction
  rules;
* `Machine.Run.split`, `Machine.Run.step_at` — cutting a run at a point of its log;
* `Machine.Moment` — a step of a run, with the run before it and the run after it;
* `Machine.exec` — the executable counterpart, for concrete runs (and `unary`, a supply
  of fresh ids for them).
-/

namespace NmDaemon

universe u v w

/-- A machine over states `S`, actions `A` and answers `O`. An action that is not
possible in a state has no successor. -/
structure Machine (S : Type u) (A : Type v) (O : Type w) where
  /-- the state a run begins in -/
  start : S
  /-- one atomic action -/
  step : S → A → Option (S × O)

namespace Machine

variable {S : Type u} {A : Type v} {O : Type w} (M : Machine S A O)

/-- `M.Run s log t`: the actions of `log`, taken one after another from `s`, give
the answers of `log` and end in `t`. -/
inductive Run : S → List (A × O) → S → Prop where
  /-- nothing happened -/
  | nil (s : S) : Run s [] s
  /-- one more action at the end -/
  | snoc {s t t' : S} {log : List (A × O)} {a : A} {o : O} :
      Run s log t → M.step t a = some (t', o) → Run s (log ++ [(a, o)]) t'

/-- The actions of `log` lead from the start to `t`. -/
abbrev Reaches (log : List (A × O)) (t : S) : Prop := M.Run M.start log t

variable {M}

namespace Run

theorem single {s t : S} {a : A} {o : O} (h : M.step s a = some (t, o)) :
    M.Run s [(a, o)] t := by
  have := Run.snoc (Run.nil s) h
  rwa [List.nil_append] at this

theorem append {s t r : S} {l₁ l₂ : List (A × O)} (h₁ : M.Run s l₁ t) (h₂ : M.Run t l₂ r) :
    M.Run s (l₁ ++ l₂) r := by
  induction h₂ with
  | nil => rwa [List.append_nil]
  | snoc _ hstep ih =>
    rw [← List.append_assoc]
    exact Run.snoc ih hstep

/-- Inversion for a run whose log has a last entry. -/
theorem snoc_inv {s r : S} {log : List (A × O)} {e : A × O} (h : M.Run s (log ++ [e]) r) :
    ∃ t, M.Run s log t ∧ M.step t e.1 = some (r, e.2) := by
  generalize hl : log ++ [e] = l at h
  cases h with
  | nil =>
    cases log <;> cases hl
  | snoc hrun hstep =>
    obtain ⟨rfl, he⟩ := List.append_inj' hl rfl
    cases he
    exact ⟨_, hrun, hstep⟩

/-- Inversion for a run in which nothing happened. -/
theorem nil_inv {s r : S} (h : M.Run s [] r) : r = s := by
  generalize hl : ([] : List (A × O)) = l at h
  cases h with
  | nil => rfl
  | snoc _ _ =>
    rename_i log _ _ _ _
    cases log <;> cases hl

/-- A run can be cut anywhere in its log. -/
theorem split {s r : S} {l₁ l₂ : List (A × O)} (h : M.Run s (l₁ ++ l₂) r) :
    ∃ t, M.Run s l₁ t ∧ M.Run t l₂ r := by
  induction l₂ using List.reverseRecOn generalizing r with
  | nil =>
    rw [List.append_nil] at h
    exact ⟨r, h, Run.nil r⟩
  | append_singleton l₂ e ih =>
    rw [← List.append_assoc] at h
    obtain ⟨t', hrun, hstep⟩ := h.snoc_inv
    obtain ⟨t, h₁, h₂⟩ := ih hrun
    exact ⟨t, h₁, Run.snoc h₂ hstep⟩

/-- The step that made a given entry of the log, with the states around it. -/
theorem step_at {s r : S} {l₁ l₂ : List (A × O)} {a : A} {o : O}
    (h : M.Run s (l₁ ++ (a, o) :: l₂) r) :
    ∃ t t', M.Run s l₁ t ∧ M.step t a = some (t', o) ∧ M.Run t' l₂ r := by
  rw [show l₁ ++ (a, o) :: l₂ = (l₁ ++ [(a, o)]) ++ l₂ by simp] at h
  obtain ⟨t', h₁, h₂⟩ := h.split
  obtain ⟨t, hrun, hstep⟩ := h₁.snoc_inv
  exact ⟨t, t', hrun, hstep, h₂⟩

/-- **Induction over a run**, for invariants that speak of the log as well as of
the state. -/
theorem invariant {s t : S} {log : List (A × O)} (I : List (A × O) → S → Prop)
    (h : M.Run s log t) (base : I [] s)
    (next : ∀ (log : List (A × O)) (t t' : S) (a : A) (o : O),
      M.Run s log t → I log t → M.step t a = some (t', o) → I (log ++ [(a, o)]) t') :
    I log t := by
  induction h with
  | nil => exact base
  | snoc hrun hstep ih => exact next _ _ _ _ _ hrun ih hstep

/-- A property of states that every step keeps holds at the end of a run that
begins with it. -/
theorem preserves {s t : S} {log : List (A × O)} (I : S → Prop)
    (next : ∀ (t t' : S) (a : A) (o : O), I t → M.step t a = some (t', o) → I t')
    (h : M.Run s log t) (base : I s) : I t :=
  h.invariant (fun _ t => I t) base fun _ _ _ _ _ _ hI hstep => next _ _ _ _ hI hstep

/-- If every step from a state with `I` keeps `I` and stays within a preorder `R`, so
does a whole run that begins with `I`. -/
theorem relates {s t : S} {log : List (A × O)} (I : S → Prop) (R : S → S → Prop)
    (refl : ∀ s, R s s) (trans : ∀ s t r, R s t → R t r → R s r)
    (next : ∀ (t t' : S) (a : A) (o : O), I t → M.step t a = some (t', o) → I t' ∧ R t t')
    (h : M.Run s log t) (base : I s) : I t ∧ R s t := by
  refine h.preserves (fun t => I t ∧ R s t) ?_ ⟨base, refl s⟩
  intro t t' a o hI hstep
  obtain ⟨hI', hR⟩ := next t t' a o hI.1 hstep
  exact ⟨hI', trans _ _ _ hI.2 hR⟩

end Run

/-- A step of a run: it goes from `u` to `t`, after `pre` and before `post`. -/
structure Moment (M : Machine S A O) (log : List (A × O)) (s : S) (pre : List (A × O)) (u : S)
    (a : A) (o : O) (t : S) (post : List (A × O)) : Prop where
  split : log = pre ++ (a, o) :: post
  before : M.Run M.start pre u
  step : M.step u a = some (t, o)
  after : M.Run t post s

namespace Moment

variable {log pre post : List (A × O)} {s u t : S} {a : A} {o : O}

/-- The run up to and with the step. -/
theorem through (h : M.Moment log s pre u a o t post) : M.Run M.start (pre ++ [(a, o)]) t :=
  h.before.snoc h.step

theorem run (h : M.Moment log s pre u a o t post) : M.Run M.start log s := by
  rw [h.split]
  have hrun := h.through.append h.after
  rwa [List.append_assoc, List.singleton_append] at hrun

end Moment

/-- Run the actions of a list, if all of them are possible. -/
def exec (M : Machine S A O) : S → List A → Option (List (A × O) × S)
  | s, [] => some ([], s)
  | s, a :: as =>
    match M.step s a with
    | none => none
    | some (t, o) => (M.exec t as).map fun r => ((a, o) :: r.1, r.2)

theorem exec_run (M : Machine S A O) (s : S) (as : List A) {t : S} {log : List (A × O)}
    (h : M.exec s as = some (log, t)) : M.Run s log t := by
  induction as generalizing s t log with
  | nil =>
    cases h
    exact Run.nil s
  | cons a as ih =>
    rw [exec] at h
    rcases hstep : M.step s a with _ | ⟨t₁, o⟩
    · rw [hstep] at h
      cases h
    · rw [hstep] at h
      rcases hrest : M.exec t₁ as with _ | ⟨log', t'⟩
      · simp [hrest] at h
      · simp only [hrest, Option.map_some, Option.some.injEq, Prod.mk.injEq] at h
        obtain ⟨rfl, rfl⟩ := h
        exact (Run.single hstep).append (ih t₁ hrest)

/-- The log has the actions that were run. -/
theorem exec_actions (M : Machine S A O) (s : S) (as : List A) {t : S} {log : List (A × O)}
    (h : M.exec s as = some (log, t)) : log.map Prod.fst = as := by
  induction as generalizing s t log with
  | nil =>
    cases h
    rfl
  | cons a as ih =>
    rw [exec] at h
    split at h
    · cases h
    · obtain ⟨⟨log', t'⟩, hrest, heq⟩ := Option.map_eq_some_iff.mp h
      cases heq
      rw [List.map_cons, ih _ hrest]

end Machine

/-- A supply of ids that never repeats, for concrete runs of machines that draw
fresh ones. -/
def unary (n : ℕ) : String := String.ofList (List.replicate n 'i')

theorem unary_injective : Function.Injective unary := by
  intro m n h
  have hlist := String.ofList_injective h
  simpa using congrArg List.length hlist

end NmDaemon
