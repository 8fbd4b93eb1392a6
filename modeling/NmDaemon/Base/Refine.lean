import NmDaemon.Base.Client

/-!
# Calls that are programs

The calls of a program can stand for programs of their own, which use another service
(`Prog.refine`). What is proved of the program for any answers at all (`anything`) holds of it
when its calls are carried out, as long as every program does what its call promises: `wp_refine`
relates the history of the calls to what really happened.

Which calls a program can make at all, whatever the answers, is read off its text (`Prog.Only`).
-/

namespace NmDaemon

namespace Client

variable {S' C C' A' : Type} {R : C → Type} {R' : C' → Type} {α : Type}

/-- A program, with its calls carried out. -/
def Prog.refine (carry : (c : C) → Prog C' R' (R c)) : Prog C R α → Prog C' R' α
  | .done a => .done a
  | .call c k => (carry c).bind fun r => (k r).refine carry

/-- A service that may answer anything. -/
def anything (C : Type) (R : C → Type) : Service Unit C R Empty where
  serve _ _ _ := some ()
  rival _ a := nomatch a

/-- What holds of a program for any answers holds of it when its calls are carried out. `K` says
what the history of the calls has to do with what happened; every program that carries out a call
keeps it, given what is promised of the call. -/
theorem wp_refine {svc : Service S' C' R' A'} {G : Guarantee Unit C R Empty}
    {G' : Guarantee S' C' R' A'} {Q : α → Assertion Unit C R Empty}
    {K : List (Event Unit C R Empty) → Assertion S' C' R' A'} {carry : (c : C) → Prog C' R' (R c)}
    (hcall : ∀ l c tr s, (∀ r, G l () c r) → K l tr s →
      wp svc G' (fun r tr s => K (l ++ [.own () c r]) tr s) (carry c) tr s)
    (p : Prog C R α) : ∀ l tr s, wp (anything C R) G Q p l () → K l tr s →
      wp svc G' (fun a tr s => ∃ l, K l tr s ∧ Q a l ()) (p.refine carry) tr s := by
  induction p with
  | done a => exact fun l tr s h hK => ⟨l, hK, h⟩
  | call c k ih =>
    intro l tr s h hK
    have hnext : ∀ r, G l () c r ∧ wp (anything C R) G Q (k r) (l ++ [.own () c r]) () :=
      fun r => h l () .refl r () rfl
    refine wp_bind _ _ tr s (wp_mono ?_ _ tr s (hcall l c tr s (fun r => (hnext r).1) hK))
    exact fun r tr s hK => ih r _ tr s (hnext r).2 hK

/-! ## The calls of a program -/

section Only

variable {S A β ε : Type} {P : C → Prop}

/-- Every call the program can make has `P`. -/
def Prog.Only (P : C → Prop) : Prog C R α → Prop
  | .done _ => True
  | .call c k => P c ∧ ∀ r, (k r).Only P

namespace Prog.Only

theorem bind {p : Prog C R α} {f : α → Prog C R β} (hp : p.Only P) (hf : ∀ a, (f a).Only P) :
    (p.bind f).Only P := by
  induction p with
  | done a => exact hf a
  | call c k ih => exact ⟨hp.1, fun r => ih r (hp.2 r)⟩

/-- The same where the first part may fail. -/
theorem andThen {p : ExceptT ε (Prog C R) α} {f : α → ExceptT ε (Prog C R) β}
    (hp : Prog.Only P p) (hf : ∀ a, Prog.Only P (f a)) :
    Prog.Only P (p >>= f : ExceptT ε (Prog C R) β) := by
  refine bind hp fun r => ?_
  cases r with
  | error e => exact trivial
  | ok a => exact hf a

theorem ask {c : C} {f : R c → Except ε α} (hc : P c) : Prog.Only P (Client.ask c f) :=
  ⟨hc, fun _ => trivial⟩

/-- It can be taken for granted where the calls are made. -/
theorem wp {svc : Service S C R A} {G : Guarantee S C R A} {Q : α → Assertion S C R A}
    {p : Prog C R α} (hp : p.Only P) : ∀ tr s, Client.wp svc G Q p tr s →
      Client.wp svc (fun tr s c r => G tr s c r ∧ P c) Q p tr s := by
  induction p with
  | done a => exact fun tr s h => h
  | call c k ih =>
    intro tr s h tr' s' hrivals r s'' hserve
    obtain ⟨hG, hrest⟩ := h tr' s' hrivals r s'' hserve
    exact ⟨⟨hG, hp.1⟩, ih r (hp.2 r) _ _ hrest⟩

end Prog.Only

end Only

end Client

end NmDaemon
