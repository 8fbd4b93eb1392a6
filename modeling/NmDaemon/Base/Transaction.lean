import Mathlib.Order.Basic

/-!
# Transactions that may fail on the way

A sequence of writes to some state, any of which may fail and end the sequence. What was
written before stays. A write that fails may still have been made.

* `Transaction.Txn` and the rules for its postconditions, `wp_bind`, `wp_look`, `wp_write`.
-/

namespace NmDaemon

namespace Transaction

universe u

variable {S : Type u} {ε : Type} {α β : Type}

/-- A computation that changes a state, and has a result or fails. -/
def Txn (S : Type u) (ε α : Type) : Type u := S → Except ε α × S

namespace Txn

protected def bind (x : Txn S ε α) (f : α → Txn S ε β) : Txn S ε β := fun s =>
  match x s with
  | (.ok a, s') => f a s'
  | (.error e, s') => (.error e, s')

instance : Monad (Txn S ε) where
  pure a := fun s => (.ok a, s)
  bind := Txn.bind

end Txn

/-- How a write goes. -/
inductive Outcome (ε : Type) : Type where
  | done
  /-- nothing was changed -/
  | refused (e : ε)
  /-- it failed after the change was made -/
  | late (e : ε)

/-- Look at the state. -/
def look (f : S → Except ε α) : Txn S ε α := fun s => (f s, s)

def write (outcome : Outcome ε) (change : S → S) : Txn S ε Unit := fun s =>
  match outcome with
  | .done => (.ok (), change s)
  | .refused e => (.error e, s)
  | .late e => (.error e, change s)

/-- The postcondition holds of the result and the state after it. -/
def wp (x : Txn S ε α) (s : S) (post : Except ε α → S → Prop) : Prop := post (x s).1 (x s).2

variable {s : S} {post : Except ε β → S → Prop}

theorem wp_bind {x : Txn S ε α} {f : α → Txn S ε β}
    (h : wp x s fun result s' =>
      (∀ a, result = .ok a → wp (f a) s' post) ∧ ∀ e, result = .error e → post (.error e) s') :
    wp (x >>= f) s post := by
  change wp (Txn.bind x f) s post
  unfold wp Txn.bind at *
  rcases hx : x s with ⟨result, s'⟩
  rw [hx] at h
  cases result with
  | ok a => exact h.1 a rfl
  | error e => exact h.2 e rfl

theorem wp_look {f : S → Except ε α} {g : α → Txn S ε β}
    (hok : ∀ a, f s = .ok a → wp (g a) s post) (herror : ∀ e, f s = .error e → post (.error e) s) :
    wp (look f >>= g) s post :=
  wp_bind ⟨hok, herror⟩

/-- A write, and then the rest. -/
theorem wp_write {outcome : Outcome ε} {change : S → S} {f : Unit → Txn S ε β}
    (hdone : wp (f ()) (change s) post)
    (herror : ∀ e, outcome ≠ .done → post (.error e) s ∧ post (.error e) (change s)) :
    wp (write outcome change >>= f) s post := by
  apply wp_bind
  cases outcome with
  | done => exact ⟨fun _ _ => hdone, nofun⟩
  | refused e => exact ⟨nofun, fun e' he => (herror e' nofun).1⟩
  | late e => exact ⟨nofun, fun e' he => (herror e' nofun).2⟩

/-- A last write. -/
theorem wp_write_last {outcome : Outcome ε} {change : S → S} {post : Except ε Unit → S → Prop}
    (hdone : post (.ok ()) (change s))
    (herror : ∀ e, outcome ≠ .done → post (.error e) s ∧ post (.error e) (change s)) :
    wp (write outcome change) s post := by
  cases outcome with
  | done => exact hdone
  | refused e => exact (herror e nofun).1
  | late e => exact (herror e nofun).2

end Transaction

end NmDaemon
