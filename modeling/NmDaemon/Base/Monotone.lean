import NmDaemon.Base.Client

/-!
# Services on which something lasts

Often what is known of a service between two calls is known because nobody can take it back:
everything that happens goes up in some relation `le` between states (`Monotone`), and an
assertion that is kept going up is `Lasting`.

`Secures K p K'` says that the program `p`, where `K` holds, makes its calls as promised and
ends in `K'`, or fails; and that everything that lasts still holds then. So what one part of
a program has found out needs not be mentioned in the rules for the parts in between
(`Secures.frame`), and it is known to the handlers of failures (`Secures.handle`).
-/

namespace NmDaemon

namespace Client

variable {S C A : Type} {R : C → Type} {ε α β : Type}

/-- Everything that happens goes up. -/
structure Monotone (svc : Service S C R A) (le : S → S → Prop) : Prop where
  rival : ∀ {s a s'}, svc.rival s a = some s' → le s s'
  serve : ∀ {s c r s'}, svc.serve s c r = some s' → le s s'

/-- An assertion that is kept going up. -/
def Lasting (le : S → S → Prop) (P : Assertion S C R A) : Prop :=
  ∀ ⦃tr s e s'⦄, P tr s → le s s' → P (tr ++ [e]) s'

variable {svc : Service S C R A} {le : S → S → Prop} {G : Guarantee S C R A}
  {P K L : Assertion S C R A} {K' L' : α → Assertion S C R A} {K'' : β → Assertion S C R A}

theorem Lasting.and (hP : Lasting le P) (hK : Lasting le K) :
    Lasting le fun tr s => P tr s ∧ K tr s :=
  fun _ _ _ _ h hle => ⟨hP h.1 hle, hK h.2 hle⟩

theorem Lasting.stable (hP : Lasting le P) (hsvc : Monotone svc le) : Stable svc P :=
  fun _ _ _ _ h hstep => hP h (hsvc.rival hstep)

theorem Stable.and (hP : Stable svc P) (hK : Stable svc K) :
    Stable svc fun tr s => P tr s ∧ K tr s :=
  fun tr s a s' h hstep => ⟨hP tr s a s' h.1 hstep, hK tr s a s' h.2 hstep⟩

variable (svc le G)

/-- From `K`, the program's calls have `G` and its result has `K'`, and whether it fails or
not, what lasts is kept. -/
def Secures (K : Assertion S C R A) (p : ExceptT ε (Prog C R) α) (K' : α → Assertion S C R A) :
    Prop :=
  ∀ P : Assertion S C R A, Lasting le P → Ends svc G (fun tr s => P tr s ∧ K tr s) p
    (fun a tr s => P tr s ∧ K' a tr s) fun _ => P

variable {svc le G}

namespace Secures

theorem pure {a : α} (h : ∀ tr s, K tr s → K' a tr s) :
    Secures svc le G K (Pure.pure a : ExceptT ε (Prog C R) α) K' :=
  fun _ _ => .pure fun tr s hs => ⟨hs.1, h tr s hs.2⟩

theorem throw (e : ε) : Secures svc le G K (MonadExcept.throw e : ExceptT ε (Prog C R) α) K' :=
  fun _ _ => .throw fun _ _ hs => hs.1

theorem lift {r : Except ε α} (h : ∀ a tr s, r = .ok a → K tr s → K' a tr s) :
    Secures svc le G K (Client.lift r) K' := by
  intro P _
  refine .lift fun tr s hs => ?_
  cases r with
  | error e => exact hs.1
  | ok a => exact ⟨hs.1, h a tr s rfl hs.2⟩

variable {p : ExceptT ε (Prog C R) α}

theorem bind {f : α → ExceptT ε (Prog C R) β} (hp : Secures svc le G K p K')
    (hf : ∀ a, Secures svc le G (K' a) (f a) K'') : Secures svc le G K (p >>= f) K'' :=
  fun P hP => (hp P hP).bind fun a => hf a P hP

/-- What lasts is also known to a handler. -/
theorem handle {f : ε → ExceptT ε (Prog C R) α} (hK : Lasting le K) (hp : Secures svc le G K p K')
    (hf : ∀ e, Secures svc le G K (f e) K') : Secures svc le G K (tryCatch p f) K' := by
  intro P hP
  refine Ends.handle ((hp _ (hP.and hK)).conseq (fun _ _ h => ⟨h, h.2⟩)
    (fun _ _ _ h => ⟨h.1.1, h.2⟩) fun _ _ _ h => h) fun e => hf e P hP

theorem conseq (hp : Secures svc le G K p K') (hL : ∀ tr s, L tr s → K tr s)
    (hL' : ∀ a tr s, K' a tr s → L' a tr s) : Secures svc le G L p L' :=
  fun P hP => (hp P hP).conseq (fun tr s h => ⟨h.1, hL tr s h.2⟩)
    (fun a tr s h => ⟨h.1, hL' a tr s h.2⟩) fun _ _ _ h => h

/-- More may be known before. -/
theorem imp_pre (hp : Secures svc le G K p K') (hL : ∀ tr s, L tr s → K tr s) :
    Secures svc le G L p K' := hp.conseq hL fun _ _ _ h => h

/-- What is known and lasts is also known afterwards. -/
theorem frame (hp : Secures svc le G K p K') (hL : Lasting le L) :
    Secures svc le G (fun tr s => L tr s ∧ K tr s) p fun a tr s => L tr s ∧ K' a tr s := by
  intro P hP
  exact (hp _ (hP.and hL)).conseq (fun _ _ h => ⟨⟨h.1, h.2.1⟩, h.2.2⟩)
    (fun _ _ _ h => ⟨h.1.1, h.1.2, h.2⟩) fun _ _ _ h => h.1

/-- A part that needs nothing keeps what lasts. -/
theorem keeps (hp : Secures svc le G (fun _ _ => True) p fun _ _ _ => True) (hL : Lasting le L) :
    Secures svc le G L p fun _ => L :=
  (hp.frame hL).conseq (fun _ _ h => ⟨h, trivial⟩) fun _ _ _ h => h.1

/-- The rule for a call. -/
theorem ask {c : C} {f : R c → Except ε α} (hsvc : Monotone svc le) (hK : Stable svc K)
    (h : ∀ tr s r s', K tr s → svc.serve s c r = some s' →
      G tr s c r ∧ ∀ a, f r = .ok a → K' a (tr ++ [.own s c r]) s') :
    Secures svc le G K (Client.ask c f) K' := by
  intro P hP
  refine .ask ((hP.stable hsvc).and hK) fun tr s r s' hs hserve => ?_
  obtain ⟨hG, hresult⟩ := h tr s r s' hs.2 hserve
  have hafter : P (tr ++ [.own s c r]) s' := hP hs.1 (hsvc.serve hserve)
  refine ⟨hG, ?_⟩
  cases hr : f r with
  | error e => exact hafter
  | ok a => exact ⟨hafter, hresult a hr⟩

end Secures

end Client

end NmDaemon
