import Mathlib.Data.List.Basic

/-!
# Escaping

Texts in which some characters are marked by an escape character before them, so that a
reader which skips what is escaped does not take them for separators.

* `Escaping.escape`, `Escaping.unescape` and `Escaping.unescape_escape`;
* `Escaping.Closed` — no separator stands unescaped and no escape is left dangling; an
  escaped text is closed, and so are pieces put together from closed ones.
-/

namespace NmDaemon

namespace Escaping

universe u

variable {α : Type u} (esc : α) (special : α → Bool)

/-- Mark every special character. -/
def escape (text : List α) : List α := text.flatMap fun c => if special c then [esc, c] else [c]

theorem escape_cons (c : α) (text : List α) :
    escape esc special (c :: text) =
      (if special c then [esc, c] else [c]) ++ escape esc special text :=
  List.flatMap_cons

variable {esc special}

/-- A text without special characters is its own escaped form. -/
theorem escape_of_forall {text : List α} (h : ∀ c ∈ text, special c = false) :
    escape esc special text = text := by
  induction text with
  | nil => rfl
  | cons c text ih =>
    rw [escape_cons, ih fun x hx => h x (List.mem_cons_of_mem _ hx),
      if_neg (by simp [h c List.mem_cons_self])]
    rfl

/-- Read from the beginning, the text has no separator that is not escaped, and ends outside
of an escape. -/
inductive Closed (sep esc : α) : List α → Prop where
  | nil : Closed sep esc []
  | plain {c : α} {rest : List α} (hsep : c ≠ sep) (hesc : c ≠ esc) (h : Closed sep esc rest) :
      Closed sep esc (c :: rest)
  | marked (c : α) {rest : List α} (h : Closed sep esc rest) : Closed sep esc (esc :: c :: rest)

theorem closed_escape {sep : α} (hsep : special sep = true) (hesc : special esc = true)
    (text : List α) : Closed sep esc (escape esc special text) := by
  induction text with
  | nil => exact .nil
  | cons c text ih =>
    rw [escape_cons]
    by_cases hc : special c = true
    · rw [if_pos hc]
      exact .marked c ih
    · rw [if_neg hc]
      exact .plain (fun h => hc (h ▸ hsep)) (fun h => hc (h ▸ hesc)) ih

section Unescape

variable [DecidableEq α]

variable (esc) in
/-- Remove the marks; the first argument says whether the last character was one. -/
def unescapeFrom : Bool → List α → List α
  | _, [] => []
  | escaped, c :: rest =>
    if c = esc ∧ escaped = false then unescapeFrom true rest else c :: unescapeFrom false rest

variable (esc) in
def unescape (text : List α) : List α := unescapeFrom esc false text

theorem unescape_plain {c : α} (h : c ≠ esc) (rest : List α) :
    unescape esc (c :: rest) = c :: unescape esc rest :=
  if_neg fun hc => h hc.1

theorem unescape_marked (c : α) (rest : List α) :
    unescape esc (esc :: c :: rest) = c :: unescape esc rest := by
  rw [unescape, unescapeFrom, if_pos ⟨rfl, rfl⟩, unescapeFrom, if_neg (by simp)]
  rfl

theorem unescape_escape (hesc : special esc = true) (text : List α) :
    unescape esc (escape esc special text) = text := by
  induction text with
  | nil => rfl
  | cons c text ih =>
    rw [escape_cons]
    by_cases hc : special c = true
    · rw [if_pos hc]
      exact (unescape_marked c _).trans (congrArg _ ih)
    · have hne : c ≠ esc := fun h => hc (h ▸ hesc)
      rw [if_neg hc]
      exact (unescape_plain hne _).trans (congrArg _ ih)

end Unescape

end Escaping

end NmDaemon
