import Mathlib.Data.List.Basic

/-!
# Reading back what is spelled without separators

Headings with entries under them, a name and a value each, are written letter by letter with
nothing between them. Such a text can be read back (`spelled_eq`) if

* the values announce themselves: each opens with the same letters and a mark no name has;
* a value can be read off the front of a text;
* names do not run together: what headings, or headings and the name of an entry, spell is
  spelled by no others (`Legible`).
-/

namespace NmDaemon

namespace Spelling

universe u v w

variable {α : Type u} {N : Type v} {V : Type w}

/-- What is written: a heading, or an entry under the heading before it. -/
inductive Item (N : Type v) (V : Type w) : Type (max v w) where
  | heading : N → Item N V
  | entry : N → V → Item N V

section Texts

variable (name : N → List α) (text : V → List α)

def spell : Item N V → List α
  | .heading n => name n
  | .entry n v => name n ++ text v

/-- Headings with their entries, one after the other. -/
def items (sections : List (N × List (N × V))) : List (Item N V) :=
  sections.flatMap fun s => .heading s.1 :: s.2.map fun e => .entry e.1 e.2

/-- The names and values that occur can be told apart in a text. -/
structure Legible (opening : List α) (mark : α) (Heading Key : N → Prop) (Held : V → Prop) :
    Prop where
  opens : ∀ v, Held v → ∃ rest, text v = opening ++ mark :: rest
  opening_unmarked : mark ∉ opening
  heading_unmarked : ∀ n, Heading n → mark ∉ name n
  key_unmarked : ∀ n, Key n → mark ∉ name n
  /-- a value can be read off the front -/
  reads : ∀ v w, Held v → Held w → ∀ r s, text v ++ r = text w ++ s → v = w ∧ r = s
  /-- headings do not run together -/
  headings : ∀ hs hs' : List N, (∀ n ∈ hs, Heading n) → (∀ n ∈ hs', Heading n) →
    hs.flatMap name = hs'.flatMap name → hs = hs'
  /-- nor do headings and the name of an entry -/
  keys : ∀ (hs hs' : List N) (k k' : N), (∀ n ∈ hs, Heading n) → (∀ n ∈ hs', Heading n) →
    Key k → Key k' → hs.flatMap name ++ name k = hs'.flatMap name ++ name k' → hs = hs' ∧ k = k'

/-- An item made of names and values that occur. -/
def Item.Occurs (Heading Key : N → Prop) (Held : V → Prop) : Item N V → Prop
  | .heading n => Heading n
  | .entry n v => Key n ∧ Held v

end Texts

variable {name : N → List α} {text : V → List α} {opening : List α} {mark : α}
variable {Heading Key : N → Prop} {Held : V → Prop}

namespace Legible

variable (h : Legible name text opening mark Heading Key Held)

include h

theorem flatMap_unmarked {hs : List N} (hhs : ∀ n ∈ hs, Heading n) : mark ∉ hs.flatMap name := by
  intro hmem
  obtain ⟨n, hn, hmark⟩ := List.mem_flatMap.mp hmem
  exact h.heading_unmarked n (hhs n hn) hmark

/-- Two texts that come to a value come to the same one, by the same names. -/
theorem entry_eq {hs hs' : List N} {k k' : N} {v v' : V} {r r' : List α}
    (hhs : ∀ n ∈ hs, Heading n) (hhs' : ∀ n ∈ hs', Heading n) (hk : Key k) (hk' : Key k')
    (hv : Held v) (hv' : Held v')
    (heq : hs.flatMap name ++ (name k ++ text v ++ r) =
      hs'.flatMap name ++ (name k' ++ text v' ++ r')) :
    hs = hs' ∧ k = k' ∧ v = v' ∧ r = r' := by
  obtain ⟨rest, hrest⟩ := h.opens v hv
  obtain ⟨rest', hrest'⟩ := h.opens v' hv'
  have hbefore : mark ∉ (hs.flatMap name ++ name k) ++ opening := by
    simp only [List.mem_append, not_or]
    exact ⟨⟨h.flatMap_unmarked hhs, h.key_unmarked k hk⟩, h.opening_unmarked⟩
  have hbefore' : mark ∉ (hs'.flatMap name ++ name k') ++ opening := by
    simp only [List.mem_append, not_or]
    exact ⟨⟨h.flatMap_unmarked hhs', h.key_unmarked k' hk'⟩, h.opening_unmarked⟩
  -- both names end where the first mark stands
  have hsplit : (hs.flatMap name ++ name k) ++ opening ++ mark :: (rest ++ r) =
      (hs'.flatMap name ++ name k') ++ opening ++ mark :: (rest' ++ r') := by
    simpa [hrest, hrest', List.append_assoc] using heq
  have hnames : (hs.flatMap name ++ name k) ++ opening = (hs'.flatMap name ++ name k') ++ opening := by
    rcases List.append_eq_append_iff.mp hsplit with ⟨c, hc, hmore⟩ | ⟨c, hc, hmore⟩
    · cases c with
      | nil => rw [hc, List.append_nil]
      | cons x c =>
        obtain ⟨rfl, -⟩ := List.cons.inj hmore
        exact absurd (hc ▸ List.mem_append_right _ List.mem_cons_self) hbefore'
    · cases c with
      | nil => rw [hc, List.append_nil]
      | cons x c =>
        obtain ⟨rfl, -⟩ := List.cons.inj hmore
        exact absurd (hc ▸ List.mem_append_right _ List.mem_cons_self) hbefore
  obtain ⟨rfl, rfl⟩ := h.keys hs hs' k k' hhs hhs' hk hk' (List.append_cancel_right hnames)
  have htexts : text v ++ r = text v' ++ r' := by
    simpa [List.append_assoc] using heq
  obtain ⟨rfl, rfl⟩ := h.reads v v' hv hv' r r' htexts
  exact ⟨rfl, rfl, rfl, rfl⟩

/-- A text that comes to a value is not one of headings alone. -/
theorem entry_ne {hs' : List N} {v : V} (hhs' : ∀ n ∈ hs', Heading n) (hv : Held v) (hs : List N)
    (k : N) (r : List α) : hs.flatMap name ++ (name k ++ text v ++ r) ≠ hs'.flatMap name := by
  intro heq
  obtain ⟨rest, hrest⟩ := h.opens v hv
  refine h.flatMap_unmarked hhs' (heq ▸ ?_)
  simp [hrest]

/-- With the headings of a run put aside until its first entry, a text has one reading. -/
theorem items_eq_aux (xs : List (Item N V)) : ∀ (hs hs' : List N) (ys : List (Item N V)),
    (∀ n ∈ hs, Heading n) → (∀ n ∈ hs', Heading n) →
    (∀ x ∈ xs, x.Occurs Heading Key Held) → (∀ y ∈ ys, y.Occurs Heading Key Held) →
    hs.flatMap name ++ xs.flatMap (spell name text) =
      hs'.flatMap name ++ ys.flatMap (spell name text) →
    hs.map Item.heading ++ xs = hs'.map Item.heading ++ ys := by
  have hpush : ∀ {hs : List N} {n : N}, (∀ m ∈ hs, Heading m) → Heading n →
      ∀ m ∈ hs ++ [n], Heading m := by
    intro hs n hhs hn m hm
    rcases List.mem_append.mp hm with hm | hm
    · exact hhs m hm
    · exact List.mem_singleton.mp hm ▸ hn
  induction xs with
  | nil =>
    intro hs hs' ys hhs hhs' _ hys heq
    induction ys generalizing hs' with
    | nil =>
      simp only [List.flatMap_nil, List.append_nil] at heq ⊢
      rw [h.headings hs hs' hhs hhs' heq]
    | cons y ys ih =>
      obtain ⟨hy, hrest⟩ := List.forall_mem_cons.mp hys
      cases y with
      | heading n =>
        have hnext := ih (hs' ++ [n]) (hpush hhs' hy) hrest (by simpa [spell] using heq)
        simpa using hnext
      | entry k v =>
        refine absurd ?_ (h.entry_ne hhs hy.2 hs' k (ys.flatMap (spell name text)))
        simpa [spell] using heq.symm
  | cons x xs ihxs =>
    intro hs hs' ys hhs hhs' hxs hys heq
    obtain ⟨hx, hmore⟩ := List.forall_mem_cons.mp hxs
    cases x with
    | heading n =>
      have hnext := ihxs (hs ++ [n]) hs' ys (hpush hhs hx) hhs' hmore hys
        (by simpa [spell] using heq)
      simpa using hnext
    | entry k v =>
      induction ys generalizing hs' with
      | nil =>
        refine absurd ?_ (h.entry_ne hhs' hx.2 hs k (xs.flatMap (spell name text)))
        simpa [spell] using heq
      | cons y ys ihys =>
        obtain ⟨hy, hmore'⟩ := List.forall_mem_cons.mp hys
        cases y with
        | heading n =>
          have hnext := ihys (hs' ++ [n]) (hpush hhs' hy) hmore' (by simpa [spell] using heq)
          simpa using hnext
        | entry k' v' =>
          simp only [List.flatMap_cons, spell] at heq
          obtain ⟨rfl, rfl, rfl, hrest⟩ := h.entry_eq hhs hhs' hx.1 hy.1 hx.2 hy.2 heq
          have hnext := ihxs [] [] ys (fun _ hn => absurd hn List.not_mem_nil)
            (fun _ hn => absurd hn List.not_mem_nil) hmore hmore' (by simpa using hrest)
          rw [List.map_nil, List.nil_append, List.nil_append] at hnext
          rw [hnext]

theorem items_eq {xs ys : List (Item N V)} (hxs : ∀ x ∈ xs, x.Occurs Heading Key Held)
    (hys : ∀ y ∈ ys, y.Occurs Heading Key Held)
    (heq : xs.flatMap (spell name text) = ys.flatMap (spell name text)) : xs = ys := by
  have hnone : ∀ n ∈ ([] : List N), Heading n := fun n hn => absurd hn List.not_mem_nil
  simpa using h.items_eq_aux xs [] [] ys hnone hnone hxs hys heq

end Legible

/-! ## Sections -/

theorem map_entry_append_eq {es es' : List (N × V)} {xs ys : List (N × List (N × V))}
    (heq : es.map (fun e => Item.entry e.1 e.2) ++ items xs =
      es'.map (fun e => Item.entry e.1 e.2) ++ items ys) : es = es' ∧ items xs = items ys := by
  have hstart : ∀ (zs : List (N × List (N × V))) (k : N) (v : V) (l : List (Item N V)),
      items zs ≠ .entry k v :: l := by
    intro zs k v l
    cases zs with
    | nil => exact fun hcons => (by cases hcons)
    | cons z zs => exact fun hcons => (by cases hcons)
  induction es generalizing es' with
  | nil =>
    cases es' with
    | nil => exact ⟨rfl, heq⟩
    | cons e es' => exact absurd heq (hstart xs _ _ _)
  | cons e es ih =>
    cases es' with
    | nil => exact absurd heq.symm (hstart ys _ _ _)
    | cons e' es' =>
      obtain ⟨hentry, hmore⟩ := List.cons.inj heq
      obtain ⟨hname, hvalue⟩ := Item.entry.inj hentry
      obtain ⟨rfl, hitems⟩ := ih hmore
      exact ⟨by rw [Prod.ext hname hvalue], hitems⟩

theorem items_injective : ∀ {xs ys : List (N × List (N × V))}, items xs = items ys → xs = ys := by
  intro xs
  induction xs with
  | nil =>
    intro ys heq
    cases ys with
    | nil => rfl
    | cons y ys => cases heq
  | cons x xs ih =>
    intro ys heq
    cases ys with
    | nil => cases heq
    | cons y ys =>
      obtain ⟨hheading, hmore⟩ := List.cons.inj heq
      obtain ⟨hentries, hitems⟩ := map_entry_append_eq hmore
      rw [Prod.ext (Item.heading.inj hheading) hentries, ih hitems]

/-- What is legible is read back from its text. -/
theorem spelled_eq (h : Legible name text opening mark Heading Key Held)
    {xs ys : List (N × List (N × V))}
    (hxs : ∀ s ∈ xs, Heading s.1 ∧ ∀ e ∈ s.2, Key e.1 ∧ Held e.2)
    (hys : ∀ s ∈ ys, Heading s.1 ∧ ∀ e ∈ s.2, Key e.1 ∧ Held e.2)
    (heq : (items xs).flatMap (spell name text) = (items ys).flatMap (spell name text)) :
    xs = ys := by
  have hoccurs : ∀ {zs : List (N × List (N × V))},
      (∀ s ∈ zs, Heading s.1 ∧ ∀ e ∈ s.2, Key e.1 ∧ Held e.2) →
      ∀ x ∈ items zs, x.Occurs Heading Key Held := by
    intro zs hzs x hx
    obtain ⟨s, hs, hx⟩ := List.mem_flatMap.mp hx
    rcases List.mem_cons.mp hx with rfl | hx
    · exact (hzs s hs).1
    · obtain ⟨e, he, rfl⟩ := List.mem_map.mp hx
      exact (hzs s hs).2 e he
  exact items_injective (h.items_eq (hoccurs hxs) (hoccurs hys) heq)

end Spelling

end NmDaemon
