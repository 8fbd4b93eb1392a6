import Mathlib.Data.List.Induction

/-!
# Programs that call a shared service

A client program makes calls, one at a time, to a service that others use as well.
Between two of its calls anything the others can do may happen, any number of times.
`Exec` are the executions of a program against such a service, with the history of what
was done by whom; every own call is remembered with the state it was served in.

* `Prog`, `ask`, `lift`, `ensure`, `attempt` — programs, as a monad with failure on top;
* `Service`, `Exec` — the service and the interleavings;
* `wp`, `Triple` — assertions about histories and states that hold from call to call.
  What is assumed between two calls has to be `Stable`: whatever the others do keeps it;
* `Recorded` — what the calls of a history have in common;
* `Exec.sound`, `Exec.result`, `Exec.invariant` — what is proved by the rules holds in
  every execution;
* `Ends` — the rules for programs whose failures are of interest as well;
* `play`, `drive` — executable counterparts of `Exec`, for concrete executions.
-/

namespace NmDaemon

namespace Client

variable {S C A : Type} {R : C → Type} {ε α β : Type}

/-- A program that makes calls `c`, each with a reply in `R c`. -/
inductive Prog (C : Type) (R : C → Type) (α : Type) : Type where
  | done (a : α) : Prog C R α
  | call (c : C) (k : R c → Prog C R α) : Prog C R α

namespace Prog

def bind : Prog C R α → (α → Prog C R β) → Prog C R β
  | done a, f => f a
  | call c k, f => call c fun r => (k r).bind f

instance : Monad (Prog C R) where
  pure := done
  bind := bind

end Prog

/-- Make a call and turn its reply into a result or a failure. -/
def ask (c : C) (f : R c → Except ε α) : ExceptT ε (Prog C R) α := Prog.call c fun r => .done (f r)

/-- Fail unless a condition holds. -/
def ensure (b : Prop) [Decidable b] (e : ε) : ExceptT ε (Prog C R) Unit :=
  if b then pure () else throw e

/-- The outcome of something that makes no calls. -/
def lift (e : Except ε α) : ExceptT ε (Prog C R) α := Prog.done e

/-- Run a program that may fail, and go on with its outcome. -/
def attempt (p : ExceptT ε (Prog C R) α) : ExceptT ε (Prog C R) (Except ε α) :=
  Prog.bind p fun r => .done (.ok r)

/-- What a list of checks that all passed says. -/
theorem forM_eq_ok {l : List α} {f : α → Except ε Unit} (h : l.forM f = .ok ()) :
    ∀ a ∈ l, f a = .ok () := by
  induction l with
  | nil => exact fun a ha => absurd ha List.not_mem_nil
  | cons b l ih =>
    change (f b >>= fun _ => l.forM f) = .ok () at h
    rcases hb : f b with e | ⟨⟩
    · rw [hb] at h
      cases h
    · rw [hb] at h
      intro a ha
      rcases List.mem_cons.mp ha with rfl | ha
      · exact hb
      · exact ih h a ha

/-- A service for calls `C`, which others use by acting on it with `A`. -/
structure Service (S C : Type) (R : C → Type) (A : Type) where
  /-- the state after the call was answered that way, if it can be -/
  serve : S → (c : C) → R c → Option S
  /-- the state after the others did something, if they can -/
  rival : S → A → Option S

/-- What happened: the others did something, or a call was served in a state. -/
inductive Event (S C : Type) (R : C → Type) (A : Type) : Type where
  | rival (a : A) : Event S C R A
  | own (s : S) (c : C) (r : R c) : Event S C R A

variable (svc : Service S C R A)

/-- The executions of a program, with their history. -/
inductive Exec (s₀ : S) (p₀ : Prog C R α) : List (Event S C R A) → S → Prog C R α → Prop where
  | start : Exec s₀ p₀ [] s₀ p₀
  | rival {tr : List (Event S C R A)} {s s' : S} {p : Prog C R α} {a : A} :
      Exec s₀ p₀ tr s p → svc.rival s a = some s' → Exec s₀ p₀ (tr ++ [.rival a]) s' p
  | own {tr : List (Event S C R A)} {s s' : S} {c : C} {k : R c → Prog C R α} {r : R c} :
      Exec s₀ p₀ tr s (.call c k) → svc.serve s c r = some s' →
      Exec s₀ p₀ (tr ++ [.own s c r]) s' (k r)

/-- What the others do between two calls. -/
inductive Rivals (tr₀ : List (Event S C R A)) (s₀ : S) : List (Event S C R A) → S → Prop where
  | refl : Rivals tr₀ s₀ tr₀ s₀
  | step {tr : List (Event S C R A)} {s s' : S} {a : A} :
      Rivals tr₀ s₀ tr s → svc.rival s a = some s' → Rivals tr₀ s₀ (tr ++ [.rival a]) s'

/-- A property of histories and states. -/
abbrev Assertion (S C : Type) (R : C → Type) (A : Type) : Type :=
  List (Event S C R A) → S → Prop

/-- A property of the calls that are made: of the history before one, the state it is
served in, and its reply. -/
abbrev Guarantee (S C : Type) (R : C → Type) (A : Type) : Type :=
  List (Event S C R A) → S → (c : C) → R c → Prop

/-- Nothing the others do makes the assertion false. -/
def Stable (P : Assertion S C R A) : Prop :=
  ∀ tr s a s', P tr s → svc.rival s a = some s' → P (tr ++ [.rival a]) s'

variable {svc}

variable {s s' : S} {tr : List (Event S C R A)}

theorem Stable.rivals {P : Assertion S C R A} (hP : Stable svc P) {tr' : List (Event S C R A)}
    (h : Rivals svc tr s tr' s') (hs : P tr s) : P tr' s' := by
  induction h with
  | refl => exact hs
  | step _ hstep ih => exact hP _ _ _ _ ih hstep

variable (svc)

/-- The weakest condition under which the calls of a program have `G` and its result
has `Q`, whatever the others do in between. -/
def wp (G : Guarantee S C R A) (Q : α → Assertion S C R A) : Prog C R α → Assertion S C R A
  | .done a => Q a
  | .call c k => fun tr s => ∀ tr' s', Rivals svc tr s tr' s' → ∀ r s'',
      svc.serve s' c r = some s'' →
      G tr' s' c r ∧ wp G Q (k r) (tr' ++ [.own s' c r]) s''

variable {svc} {G : Guarantee S C R A}

theorem wp_mono {Q Q' : α → Assertion S C R A} (h : ∀ a tr s, Q a tr s → Q' a tr s)
    (p : Prog C R α) : ∀ tr s, wp svc G Q p tr s → wp svc G Q' p tr s := by
  induction p with
  | done a => exact fun tr s => h a tr s
  | call c k ih =>
    intro tr s hp tr' s' hrivals r s'' hserve
    obtain ⟨hG, hrest⟩ := hp tr' s' hrivals r s'' hserve
    exact ⟨hG, ih r _ _ hrest⟩

theorem wp_bind {Q : β → Assertion S C R A} (p : Prog C R α) (f : α → Prog C R β) :
    ∀ tr s, wp svc G (fun a => wp svc G Q (f a)) p tr s → wp svc G Q (p.bind f) tr s := by
  induction p with
  | done a => exact fun tr s h => h
  | call c k ih =>
    intro tr s hp tr' s' hrivals r s'' hserve
    obtain ⟨hG, hrest⟩ := hp tr' s' hrivals r s'' hserve
    exact ⟨hG, ih r _ _ hrest⟩

/-- What two proofs say of a program holds together. -/
theorem wp_and {G' : Guarantee S C R A} {Q Q' : α → Assertion S C R A} (p : Prog C R α) :
    ∀ tr s, wp svc G Q p tr s → wp svc G' Q' p tr s →
      wp svc (fun tr s c r => G tr s c r ∧ G' tr s c r)
        (fun a tr s => Q a tr s ∧ Q' a tr s) p tr s := by
  induction p with
  | done a => exact fun tr s h h' => ⟨h, h'⟩
  | call c k ih =>
    intro tr s h h' tr' s' hrivals r s'' hserve
    obtain ⟨hG, hrest⟩ := h tr' s' hrivals r s'' hserve
    obtain ⟨hG', hrest'⟩ := h' tr' s' hrivals r s'' hserve
    exact ⟨⟨hG, hG'⟩, ih r _ _ hrest hrest'⟩

/-- A weaker promise about the calls. -/
theorem wp_promise {G' : Guarantee S C R A} {Q : α → Assertion S C R A}
    (h : ∀ tr s c r, G tr s c r → G' tr s c r) (p : Prog C R α) :
    ∀ tr s, wp svc G Q p tr s → wp svc G' Q p tr s := by
  induction p with
  | done a => exact fun tr s hp => hp
  | call c k ih =>
    intro tr s hp tr' s' hrivals r s'' hserve
    obtain ⟨hG, hrest⟩ := hp tr' s' hrivals r s'' hserve
    exact ⟨h _ _ _ _ hG, ih r _ _ hrest⟩

/-- The calls of a history have `G`. -/
def Recorded (G : Guarantee S C R A) (tr : List (Event S C R A)) : Prop :=
  ∀ l₁ l₂ t c r, tr = l₁ ++ .own t c r :: l₂ → G l₁ t c r

theorem Recorded.nil : Recorded G [] := by
  intro l₁ l₂ t c r h
  simp at h

theorem Recorded.rival (h : Recorded G tr) (a : A) : Recorded G (tr ++ [.rival a]) := by
  intro l₁ l₂ t c r heq
  -- the last event is not a call
  rcases List.eq_nil_or_concat l₂ with rfl | ⟨l₂, e, rfl⟩
  · cases (List.append_inj' heq rfl).2
  · rw [List.concat_eq_append, ← List.cons_append, ← List.append_assoc] at heq
    exact h l₁ l₂ t c r (List.append_inj' heq rfl).1

variable {c : C} {r : R c}

theorem Recorded.own (h : Recorded G tr) (hcall : G tr s c r) :
    Recorded G (tr ++ [.own s c r]) := by
  intro l₁ l₂ t c' r' heq
  rcases List.eq_nil_or_concat l₂ with rfl | ⟨l₂, e, rfl⟩
  · obtain ⟨rfl, he⟩ := List.append_inj' heq rfl
    cases he
    exact hcall
  · rw [List.concat_eq_append, ← List.cons_append, ← List.append_assoc] at heq
    exact h l₁ l₂ t c' r' (List.append_inj' heq rfl).1

theorem Recorded.init {e : Event S C R A} (h : Recorded G (tr ++ [e])) : Recorded G tr := by
  intro l₁ l₂ t c r htr
  refine h l₁ (l₂ ++ [e]) t c r ?_
  rw [htr, List.append_assoc, List.cons_append]

/-- What the others cannot change and every call keeps, by what is promised of it, holds all
along. -/
theorem wp_invariant {J : Assertion S C R A} {Q : α → Assertion S C R A} (hstable : Stable svc J)
    (hown : ∀ tr s c r s', J tr s → G tr s c r → svc.serve s c r = some s' →
      J (tr ++ [.own s c r]) s') (p : Prog C R α) :
    ∀ tr s, J tr s → wp svc G Q p tr s →
      wp svc (fun tr s c r => G tr s c r ∧ J tr s) (fun a tr s => Q a tr s ∧ J tr s) p tr s := by
  induction p with
  | done a => exact fun tr s hJ h => ⟨h, hJ⟩
  | call c k ih =>
    intro tr s hJ h tr' s' hrivals r s'' hserve
    obtain ⟨hG, hrest⟩ := h tr' s' hrivals r s'' hserve
    have hbefore := hstable.rivals hrivals hJ
    exact ⟨⟨hG, hbefore⟩, ih r _ _ (hown _ _ _ _ _ hbefore hG hserve) hrest⟩

/-- What the calls promise is known when the program has ended. -/
theorem wp_recorded {Q : α → Assertion S C R A} (p : Prog C R α) (tr : List (Event S C R A)) (s : S)
    (hcalls : Recorded G tr) (h : wp svc G Q p tr s) :
    wp svc G (fun a tr s => Q a tr s ∧ Recorded G tr) p tr s :=
  wp_promise (fun _ _ _ _ hG => hG.1) p tr s
    (wp_invariant (J := fun tr _ => Recorded G tr) (fun _ _ a _ hJ _ => hJ.rival a)
      (fun _ _ _ _ _ hJ hG _ => hJ.own hG) p tr s hcalls h)

/-! ## Executions -/

variable {p p₀ : Prog C R α} {s₀ : S}

/-- **Soundness.** The calls of an execution have what was proved of them, and the rest of
the program still has its condition, up to what the others did since the last call. -/
theorem Exec.sound {Q : α → Assertion S C R A} (h : Exec svc s₀ p₀ tr s p)
    (hwp : wp svc G Q p₀ [] s₀) :
    (∃ tr₁ s₁, wp svc G Q p tr₁ s₁ ∧ Rivals svc tr₁ s₁ tr s) ∧
      ∀ l₁ l₂ t c r, tr = l₁ ++ .own t c r :: l₂ → G l₁ t c r := by
  induction h with
  | start => exact ⟨⟨[], s₀, hwp, .refl⟩, Recorded.nil⟩
  | rival _ hstep ih =>
    obtain ⟨⟨tr₁, s₁, hrest, hrivals⟩, hcalls⟩ := ih
    exact ⟨⟨tr₁, s₁, hrest, hrivals.step hstep⟩, Recorded.rival hcalls _⟩
  | own _ hserve ih =>
    obtain ⟨⟨tr₁, s₁, hrest, hrivals⟩, hcalls⟩ := ih
    obtain ⟨hG, hnext⟩ := hrest _ _ hrivals _ _ hserve
    exact ⟨⟨_, _, hnext, .refl⟩, Recorded.own hcalls hG⟩

/-- The result of an execution that has ended. -/
theorem Exec.result {Q : α → Assertion S C R A} {a : α} (h : Exec svc s₀ p₀ tr s (.done a))
    (hwp : wp svc G Q p₀ [] s₀) (hstable : Stable svc (Q a)) : Q a tr s := by
  obtain ⟨⟨tr₁, s₁, hrest, hrivals⟩, -⟩ := h.sound hwp
  exact hstable.rivals hrivals hrest

/-! ## Playing an execution -/

variable (svc)

/-- Play a schedule: the others act, or the next call is made and answered as the schedule
says. -/
def play : List (A ⊕ (S → (c : C) → R c)) → List (Event S C R A) → S → Prog C R α →
    Option (List (Event S C R A) × S × Prog C R α)
  | [], tr, s, p => some (tr, s, p)
  | .inl a :: rest, tr, s, p =>
    (svc.rival s a).bind fun s' => play rest (tr ++ [.rival a]) s' p
  | .inr answer :: rest, tr, s, .call c k =>
    (svc.serve s c (answer s c)).bind fun s' =>
      play rest (tr ++ [.own s c (answer s c)]) s' (k (answer s c))
  | .inr _ :: _, _, _, .done _ => none

variable {svc}

theorem Exec.play (schedule : List (A ⊕ (S → (c : C) → R c))) {tr' : List (Event S C R A)}
    {p' : Prog C R α} (h : Exec svc s₀ p₀ tr s p)
    (hplay : play svc schedule tr s p = some (tr', s', p')) : Exec svc s₀ p₀ tr' s' p' := by
  induction schedule generalizing tr s p with
  | nil =>
    cases hplay
    exact h
  | cons move rest ih =>
    cases move with
    | inl a =>
      obtain ⟨t, ht, hrest⟩ := Option.bind_eq_some_iff.mp hplay
      exact ih (h.rival ht) hrest
    | inr answer =>
      cases p with
      | done a => cases hplay
      | call c k =>
        obtain ⟨t, ht, hrest⟩ := Option.bind_eq_some_iff.mp hplay
        exact ih (h.own ht) hrest

/-! ## Rules for programs that may fail -/

variable (svc) (G)

/-- From `P`, the program's calls have `G`, and if it does not fail its result has `Q`. -/
def Triple (P : Assertion S C R A) (p : ExceptT ε (Prog C R) α) (Q : α → Assertion S C R A) :
    Prop :=
  ∀ tr s, P tr s → wp svc G (fun r tr s => ∀ a, r = Except.ok a → Q a tr s) p tr s

variable {svc} {G} {P P' : Assertion S C R A} {Q Q' : α → Assertion S C R A}

namespace Triple

theorem pure {a : α} (h : ∀ tr s, P tr s → Q a tr s) :
    Triple svc G P (Pure.pure a : ExceptT ε (Prog C R) α) Q := by
  intro tr s hP a' ha'
  cases ha'
  exact h tr s hP

theorem throw (e : ε) : Triple svc G P (MonadExcept.throw e : ExceptT ε (Prog C R) α) Q := by
  intro tr s hP a' ha'
  cases ha'

theorem bind {p : ExceptT ε (Prog C R) α} {f : α → ExceptT ε (Prog C R) β}
    {Q' : β → Assertion S C R A} (hp : Triple svc G P p Q)
    (hf : ∀ a, Triple svc G (Q a) (f a) Q') : Triple svc G P (p >>= f) Q' := by
  intro tr s hP
  refine wp_bind p (ExceptT.bindCont f) tr s (wp_mono ?_ p tr s (hp tr s hP))
  intro r tr s hr
  rcases r with e | a
  · intro b hb
    cases hb
  · exact hf a tr s (hr a rfl)

theorem conseq {p : ExceptT ε (Prog C R) α} (hp : Triple svc G P p Q)
    (hP : ∀ tr s, P' tr s → P tr s) (hQ : ∀ a tr s, Q a tr s → Q' a tr s) :
    Triple svc G P' p Q' := by
  intro tr s hP'
  refine wp_mono ?_ p tr s (hp tr s (hP tr s hP'))
  intro r tr s hr a ha
  exact hQ a tr s (hr a ha)

/-- The rule for a call: what is known before it has to be stable. -/
theorem ask {c : C} {f : R c → Except ε α} (hstable : Stable svc P)
    (h : ∀ tr s r s', P tr s → svc.serve s c r = some s' →
      G tr s c r ∧ ∀ a, f r = .ok a → Q a (tr ++ [.own s c r]) s') :
    Triple svc G P (Client.ask c f) Q := by
  intro tr s hP tr' s' hrivals r s'' hserve
  exact h tr' s' r s'' (hstable.rivals hrivals hP) hserve

/-- The rule for the outcome of something that makes no calls. -/
theorem lift_bind {e : Except ε α} {f : α → ExceptT ε (Prog C R) β} {Q' : β → Assertion S C R A}
    (h : ∀ a, e = .ok a → Triple svc G P (f a) Q') : Triple svc G P (Client.lift e >>= f) Q' := by
  rcases e with e | a
  · exact throw e
  · exact h a rfl

/-- The rule for a check: what was checked is known from there on. -/
theorem ensure_bind {b : Prop} [Decidable b] {e : ε} {f : Unit → ExceptT ε (Prog C R) β}
    {Q' : β → Assertion S C R A} (h : b → Triple svc G P (f ()) Q') :
    Triple svc G P (Client.ensure b e >>= f) Q' := by
  by_cases hb : b
  · rw [Client.ensure, if_pos hb]
    exact h hb
  · rw [Client.ensure, if_neg hb]
    exact throw e

/-- A check at the end of a program. -/
theorem ensure {b : Prop} [Decidable b] {e : ε} {Q' : Unit → Assertion S C R A}
    (h : ∀ tr s, P tr s → Q' () tr s) : Triple svc G P (Client.ensure b e) Q' := by
  by_cases hb : b
  · rw [Client.ensure, if_pos hb]
    exact pure h
  · rw [Client.ensure, if_neg hb]
    exact throw e

end Triple

/-! ## Rules for programs whose failures matter -/

/-- What holds of an outcome: `Q` of a result, `F` of a failure. -/
def outcome (Q : α → Assertion S C R A) (F : ε → Assertion S C R A) :
    Except ε α → Assertion S C R A
  | .ok a => Q a
  | .error e => F e

variable (svc) (G)

/-- From `P`, the program's calls have `G`, its result has `Q` and its failure `F`. -/
def Ends (P : Assertion S C R A) (p : ExceptT ε (Prog C R) α) (Q : α → Assertion S C R A)
    (F : ε → Assertion S C R A) : Prop :=
  ∀ tr s, P tr s → wp svc G (outcome Q F) p tr s

variable {svc} {G} {F F' : ε → Assertion S C R A}

namespace Ends

theorem pure {a : α} (h : ∀ tr s, P tr s → Q a tr s) :
    Ends svc G P (Pure.pure a : ExceptT ε (Prog C R) α) Q F := h

variable {e : ε}

theorem throw (h : ∀ tr s, P tr s → F e tr s) :
    Ends svc G P (MonadExcept.throw e : ExceptT ε (Prog C R) α) Q F := h

/-- The rule for the outcome of something that makes no calls. -/
theorem lift {r : Except ε α} (h : ∀ tr s, P tr s → outcome Q F r tr s) :
    Ends svc G P (Client.lift r) Q F := h

/-- The rule for it at the start of a program. -/
theorem lift_bind {r : Except ε α} {f : α → ExceptT ε (Prog C R) β} {Q' : β → Assertion S C R A}
    (hok : ∀ a, r = .ok a → Ends svc G P (f a) Q' F)
    (herror : ∀ e, r = .error e → ∀ tr s, P tr s → F e tr s) :
    Ends svc G P (Client.lift r >>= f) Q' F := by
  cases r with
  | ok a => exact hok a rfl
  | error e => exact herror e rfl

variable {b : Prop}

/-- The rule for a check at the start of a program. -/
theorem ensure_bind [Decidable b] {f : Unit → ExceptT ε (Prog C R) β} {Q' : β → Assertion S C R A}
    (hok : b → Ends svc G P (f ()) Q' F) (herror : ¬ b → ∀ tr s, P tr s → F e tr s) :
    Ends svc G P (Client.ensure b e >>= f) Q' F := by
  by_cases hb : b
  · rw [Client.ensure, if_pos hb]
    exact hok hb
  · rw [Client.ensure, if_neg hb]
    exact throw (herror hb)

/-- The rule for a check at its end. -/
theorem ensure [Decidable b] {Q' : Unit → Assertion S C R A} (hok : b → ∀ tr s, P tr s → Q' () tr s)
    (herror : ¬ b → ∀ tr s, P tr s → F e tr s) : Ends svc G P (Client.ensure b e) Q' F := by
  by_cases hb : b
  · rw [Client.ensure, if_pos hb]
    exact pure (hok hb)
  · rw [Client.ensure, if_neg hb]
    exact throw (herror hb)

variable {p : ExceptT ε (Prog C R) α}

theorem bind {f : α → ExceptT ε (Prog C R) β} {Q' : β → Assertion S C R A} (hp : Ends svc G P p Q F)
    (hf : ∀ a, Ends svc G (Q a) (f a) Q' F) : Ends svc G P (p >>= f) Q' F := by
  intro tr s hP
  refine wp_bind p (ExceptT.bindCont f) tr s (wp_mono ?_ p tr s (hp tr s hP))
  rintro (e | a) tr s hr
  · exact hr
  · exact hf a tr s hr

/-- The rule for a program with a handler for its failures. -/
theorem handle {f : ε → ExceptT ε (Prog C R) α} (hp : Ends svc G P p Q F')
    (hf : ∀ e, Ends svc G (F' e) (f e) Q F) : Ends svc G P (tryCatch p f) Q F := by
  intro tr s hP
  refine wp_bind p _ tr s (wp_mono ?_ p tr s (hp tr s hP))
  rintro (e | a) tr s hr
  · exact hf e tr s hr
  · exact hr

/-- The rule for a program that is run for its outcome. -/
theorem attempt (hp : Ends svc G P p Q F') : Ends svc G P (Client.attempt p) (outcome Q F') F :=
  fun tr s hP => wp_bind p _ tr s (wp_mono (fun _ _ _ hr => hr) p tr s (hp tr s hP))

theorem conseq (hp : Ends svc G P p Q F) (hP : ∀ tr s, P' tr s → P tr s)
    (hQ : ∀ a tr s, Q a tr s → Q' a tr s) (hF : ∀ e tr s, F e tr s → F' e tr s) :
    Ends svc G P' p Q' F' := by
  intro tr s hP'
  refine wp_mono ?_ p tr s (hp tr s (hP tr s hP'))
  rintro (e | a) tr s hr
  · exact hF e tr s hr
  · exact hQ a tr s hr

/-- Less may be known of a failure. -/
theorem imp_error (hp : Ends svc G P p Q F) (hF : ∀ e tr s, F e tr s → F' e tr s) :
    Ends svc G P p Q F' :=
  hp.conseq (fun _ _ h => h) (fun _ _ _ h => h) hF

/-- The rule for a call: what is known before it has to be stable. -/
theorem ask {c : C} {f : R c → Except ε α} (hstable : Stable svc P)
    (h : ∀ tr s r s', P tr s → svc.serve s c r = some s' →
      G tr s c r ∧ outcome Q F (f r) (tr ++ [.own s c r]) s') :
    Ends svc G P (Client.ask c f) Q F := by
  intro tr s hP tr' s' hrivals r s'' hserve
  exact h tr' s' r s'' (hstable.rivals hrivals hP) hserve

/-- What is known at the start and not about the history can be assumed. -/
theorem assume (h : b → Ends svc G P p Q F) : Ends svc G (fun tr s => b ∧ P tr s) p Q F :=
  fun tr s hP => h hP.1 tr s hP.2

theorem choose {ι : Type} {I : ι → Assertion S C R A} (h : ∀ i, Ends svc G (I i) p Q F) :
    Ends svc G (fun tr s => ∃ i, I i tr s) p Q F :=
  fun tr s ⟨i, hI⟩ => h i tr s hI

/-- Together with what is known of its successes. -/
theorem and_triple {G' : Guarantee S C R A} {P' : Assertion S C R A} {Q' : α → Assertion S C R A}
    (hp : Ends svc G P p Q F) (hp' : Triple svc G' P' p Q') :
    Ends svc (fun tr s c r => G tr s c r ∧ G' tr s c r) (fun tr s => P tr s ∧ P' tr s) p
      (fun a tr s => Q a tr s ∧ Q' a tr s) F := by
  intro tr s hP
  refine wp_mono ?_ p tr s (wp_and p tr s (hp tr s hP.1) (hp' tr s hP.2))
  rintro (e | a) tr s ⟨h, h'⟩
  · exact h
  · exact ⟨h, h' a rfl⟩

/-- A weaker promise about the calls. -/
theorem promise {G' : Guarantee S C R A} (hp : Ends svc G P p Q F)
    (h : ∀ tr s c r, G tr s c r → G' tr s c r) : Ends svc G' P p Q F :=
  fun tr s hP => wp_promise h p tr s (hp tr s hP)

/-- What the calls promise is known at the end, if it was at the start. -/
theorem recorded (hp : Ends svc G P p Q F) :
    Ends svc G (fun tr s => P tr s ∧ Recorded G tr) p (fun a tr s => Q a tr s ∧ Recorded G tr)
      fun e tr s => F e tr s ∧ Recorded G tr := by
  intro tr s hP
  refine wp_mono ?_ p tr s (wp_recorded p tr s hP.2 (hp tr s hP.1))
  rintro (e | a) tr s h
  · exact h
  · exact h

/-- What the others cannot change and every call keeps holds all along. -/
theorem invariant {J : Assertion S C R A} (hp : Ends svc G P p Q F) (hstable : Stable svc J)
    (hown : ∀ tr s c r s', J tr s → G tr s c r →
      svc.serve s c r = some s' → J (tr ++ [.own s c r]) s') :
    Ends svc (fun tr s c r => G tr s c r ∧ J tr s) (fun tr s => P tr s ∧ J tr s) p
      (fun a tr s => Q a tr s ∧ J tr s) fun e tr s => F e tr s ∧ J tr s := by
  intro tr s hP
  refine wp_mono ?_ p tr s (wp_invariant hstable hown p tr s hP.2 (hp tr s hP.1))
  rintro (e | a) tr s h
  · exact h
  · exact h

/-- Without a promise there is nothing to keep. -/
theorem any : Ends svc (fun _ _ _ _ => True) P p (fun _ _ _ => True) fun _ _ _ => True := by
  have hwp : ∀ (q : Prog C R (Except ε α)) tr s, wp svc (fun _ _ _ _ => True)
      (outcome (fun _ _ _ => True) fun _ _ _ => True) q tr s := by
    intro q
    induction q with
    | done r => cases r <;> exact fun _ _ => trivial
    | call c k ih => exact fun tr s tr' s' _ r s'' _ => ⟨trivial, ih r _ _⟩
  exact fun tr s _ => hwp p tr s

end Ends

/-! ## Programs that keep an invariant -/

variable (svc) in
/-- What holds of the state at the start holds at every call and at the end. -/
def Keeps (I : S → Prop) (p : ExceptT ε (Prog C R) α) : Prop :=
  Ends svc (fun _ s _ _ => I s) (fun _ s => I s) p (fun _ _ s => I s) fun _ _ s => I s

namespace Keeps

variable {I : S → Prop}

theorem pure (a : α) : Keeps svc I (Pure.pure a : ExceptT ε (Prog C R) α) :=
  Ends.pure fun _ _ h => h

theorem throw (e : ε) : Keeps svc I (MonadExcept.throw e : ExceptT ε (Prog C R) α) :=
  Ends.throw fun _ _ h => h

theorem lift (r : Except ε α) : Keeps svc I (Client.lift r) := by
  refine Ends.lift fun _ _ h => ?_
  cases r with
  | error e => exact h
  | ok a => exact h

theorem ensure (b : Prop) [Decidable b] (e : ε) : Keeps svc I (Client.ensure b e) :=
  Ends.ensure (fun _ _ _ h => h) fun _ _ _ h => h

variable {p : ExceptT ε (Prog C R) α}

theorem bind {f : α → ExceptT ε (Prog C R) β} (hp : Keeps svc I p) (hf : ∀ a, Keeps svc I (f a)) :
    Keeps svc I (p >>= f) :=
  Ends.bind hp hf

theorem handle {f : ε → ExceptT ε (Prog C R) α} (hp : Keeps svc I p) (hf : ∀ e, Keeps svc I (f e)) :
    Keeps svc I (tryCatch p f) :=
  Ends.handle hp hf

theorem attempt (hp : Keeps svc I p) :
    Keeps svc I (Client.attempt p : ExceptT ε (Prog C R) (Except ε α)) := by
  refine (Ends.attempt hp).conseq (fun _ _ h => h) (fun r _ _ h => ?_) fun _ _ _ h => h
  cases r with
  | error e => exact h
  | ok a => exact h

theorem ask {c : C} {f : R c → Except ε α} (hstable : Stable svc fun _ s => I s)
    (h : ∀ s r s', I s → svc.serve s c r = some s' → I s') : Keeps svc I (Client.ask c f) := by
  refine Ends.ask hstable fun _ s r s' hI hserve => ⟨hI, ?_⟩
  cases f r with
  | error e => exact h s r s' hI hserve
  | ok a => exact h s r s' hI hserve

end Keeps

/-- What the calls keep and the others cannot change holds all along. -/
theorem Exec.invariant {Q : α → Assertion S C R A} {I : List (Event S C R A) → Prop}
    (h : Exec svc s₀ p₀ tr s p) (hwp : wp svc G Q p₀ [] s₀) (hstart : I [])
    (hrival : ∀ l a, I l → I (l ++ [.rival a]))
    (hown : ∀ l t c r, I l → G l t c r → I (l ++ [.own t c r])) : I tr := by
  obtain ⟨-, hcalls⟩ := h.sound hwp
  clear h hwp
  induction tr using List.reverseRecOn with
  | nil => exact hstart
  | append_singleton l e ih =>
    have hbefore : I l := ih (Recorded.init hcalls)
    cases e with
    | rival a => exact hrival l a hbefore
    | own t c r => exact hown l t c r hbefore (hcalls l [] t c r rfl)

/-- The same for the state. -/
theorem Exec.keeps {I : S → Prop} (h : Exec svc s₀ p₀ tr s p) (hcalls : Recorded G tr)
    (hstart : I s₀) (hrival : ∀ s a s', I s → svc.rival s a = some s' → I s')
    (hown : ∀ tr s c r s', I s → G tr s c r → svc.serve s c r = some s' → I s') : I s := by
  induction h with
  | start => exact hstart
  | rival _ hstep ih => exact hrival _ _ _ (ih hcalls.init) hstep
  | own _ hserve ih =>
    exact hown _ _ _ _ _ (ih hcalls.init) (hcalls _ [] _ _ _ rfl) hserve

/-- The execution up to a call. -/
theorem Exec.before {t : S} {l₁ l₂ : List (Event S C R A)} (h : Exec svc s₀ p₀ tr s p)
    (htr : tr = l₁ ++ .own t c r :: l₂) : ∃ q, Exec svc s₀ p₀ l₁ t q := by
  induction h generalizing l₂ with
  | start => simp at htr
  | rival _ hstep ih =>
    rcases List.eq_nil_or_concat l₂ with rfl | ⟨l₂, e, rfl⟩
    · cases (List.append_inj' htr rfl).2
    · rw [List.concat_eq_append, ← List.cons_append, ← List.append_assoc] at htr
      exact ih (List.append_inj' htr rfl).1
  | own hexec hserve ih =>
    rcases List.eq_nil_or_concat l₂ with rfl | ⟨l₂, e, rfl⟩
    · obtain ⟨rfl, he⟩ := List.append_inj' htr rfl
      cases he
      exact ⟨_, hexec⟩
    · rw [List.concat_eq_append, ← List.cons_append, ← List.append_assoc] at htr
      exact ih (List.append_inj' htr rfl).1

/-! ## Following a script -/

theorem Exec.head {t : S} {k : R c → Prog C R α} {q : Prog C R α}
    (hserve : svc.serve s c r = some s') (h : Exec svc s' (k r) tr t q) :
    Exec svc s (.call c k) (.own s c r :: tr) t q := by
  induction h with
  | start => exact (Exec.start.own hserve : Exec svc s (.call c k) ([] ++ [_]) s' (k r))
  | rival _ hstep ih => exact ih.rival hstep
  | own _ hstep ih => exact ih.own hstep

variable (svc)

/-- Run a program by a script, as long as the script has answers. -/
def drive (script : (c : C) → Option (R c)) : S → Prog C R α →
    List (Event S C R A) × S × Prog C R α
  | s, .done a => ([], s, .done a)
  | s, .call c k =>
    match script c with
    | none => ([], s, .call c k)
    | some r =>
      match svc.serve s c r with
      | none => ([], s, .call c k)
      | some s' =>
        let rest := drive script s' (k r)
        (.own s c r :: rest.1, rest.2)

variable {svc}

theorem Exec.drive (script : (c : C) → Option (R c)) (s : S) (p : Prog C R α) :
    Exec svc s p (drive svc script s p).1 (drive svc script s p).2.1
      (drive svc script s p).2.2 := by
  induction p generalizing s with
  | done a => exact .start
  | call c k ih =>
    unfold Client.drive
    split
    · exact .start
    · split
      · exact .start
      · rename_i r _ _ s' hserve
        exact (ih r s').head hserve

end Client

end NmDaemon
