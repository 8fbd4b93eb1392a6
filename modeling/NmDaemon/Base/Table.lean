import Mathlib.Algebra.Order.Ring.Nat
import Mathlib.Data.List.AList

/-!
# Tables

The hash maps of the program are Mathlib's association lists with one entry per
key, `AList`, at a constant family. What is added here is what programs do with a
map besides looking up, inserting and erasing: going over all entries while
keeping, changing or dropping each (`Table.filterMap`, a map's `retain`), and listing
them (`Table.pairs`).
-/

namespace NmDaemon

universe u v w

/-- A finite map from `K` to `V`. -/
abbrev Table (K : Type u) (V : Type v) : Type (max u v) := AList fun _ : K => V

namespace Table

variable {K : Type u} {V : Type v} {W : Type w} [DecidableEq K]

/-- Equality of tables as lists of entries, by computation. -/
instance (priority := 2000) decEq [DecidableEq V] : DecidableEq (Table K V) := fun t u =>
  decidable_of_iff (t.entries = u.entries) AList.ext_iff.symm

theorem lookup_insert_ite (t : Table K V) (k k' : K) (v : V) :
    (t.insert k' v).lookup k = if k = k' then some v else t.lookup k := by
  by_cases h : k = k'
  · subst h
    rw [if_pos rfl, AList.lookup_insert]
  · rw [if_neg h, AList.lookup_insert_ne h]

theorem lookup_erase_ite (t : Table K V) (k k' : K) :
    (t.erase k').lookup k = if k = k' then none else t.lookup k := by
  by_cases h : k = k'
  · subst h
    rw [if_pos rfl, AList.lookup_erase]
  · rw [if_neg h, AList.lookup_erase_ne h]

theorem lookup_union (t u : Table K V) (k : K) :
    (t ∪ u).lookup k = (t.lookup k).or (u.lookup k) := by
  by_cases h : k ∈ t
  · rw [AList.lookup_union_left h]
    obtain ⟨v, hv⟩ := Option.isSome_iff_exists.mp (AList.lookup_isSome.mpr h)
    rw [hv, Option.some_or]
  · rw [AList.lookup_union_right h, AList.lookup_eq_none.mpr h, Option.none_or]

/-- The entries, in some order. -/
def pairs (t : Table K V) : List (K × V) := t.entries.map fun e => (e.1, e.2)

theorem mem_pairs {t : Table K V} {k : K} {v : V} :
    (k, v) ∈ t.pairs ↔ t.lookup k = some v := by
  have h : t.lookup k = some v ↔ (⟨k, v⟩ : Sigma fun _ : K => V) ∈ t.entries :=
    AList.mem_lookup_iff
  rw [h, pairs, List.mem_map]
  constructor
  · rintro ⟨⟨k', v'⟩, he, heq⟩
    cases heq
    exact he
  · intro he
    exact ⟨_, he, rfl⟩

/-- Go over the entries, keeping those for which `f` gives a (new) value. -/
def filterMap (f : K → V → Option W) (t : Table K V) : Table K W where
  entries := t.entries.filterMap fun e => (f e.1 e.2).map (Sigma.mk e.1)
  nodupKeys := by
    have hkeys : ∀ l : List (Sigma fun _ : K => V),
        (l.filterMap fun e => (f e.1 e.2).map (Sigma.mk (β := fun _ : K => W) e.1)).keys.Sublist
          l.keys := by
      intro l
      induction l with
      | nil => exact List.Sublist.refl _
      | cons e l ih =>
        rcases hf : f e.1 e.2 with _ | w
        · simpa [List.filterMap_cons, hf] using ih.cons e.1
        · simpa [List.filterMap_cons, hf] using ih.cons_cons e.1
    exact (hkeys t.entries).nodup t.nodupKeys

theorem lookup_filterMap (f : K → V → Option W) (t : Table K V) (k : K) :
    (t.filterMap f).lookup k = (t.lookup k).bind (f k) := by
  have hmem : ∀ w, (t.filterMap f).lookup k = some w ↔
      (t.lookup k).bind (f k) = some w := by
    intro w
    have h₁ : (t.filterMap f).lookup k = some w ↔
        (⟨k, w⟩ : Sigma fun _ : K => W) ∈ (t.filterMap f).entries := AList.mem_lookup_iff
    rw [h₁, filterMap, List.mem_filterMap, Option.bind_eq_some_iff]
    constructor
    · rintro ⟨⟨k', v⟩, he, hf⟩
      obtain ⟨w', hw', heq⟩ := Option.map_eq_some_iff.mp hf
      cases heq
      exact ⟨v, AList.mem_lookup_iff.mpr he, hw'⟩
    · rintro ⟨v, hv, hf⟩
      exact ⟨⟨k, v⟩, AList.mem_lookup_iff.mp hv, by simp [hf]⟩
  rcases h : (t.filterMap f).lookup k with _ | w
  · rcases h' : (t.lookup k).bind (f k) with _ | w
    · rfl
    · rw [(hmem w).mpr h'] at h
      cases h
  · exact ((hmem w).mp h).symm

/-! ### The number of entries -/

section Length

variable (t : Table K V) (k : K) (v : V)

omit [DecidableEq K] in
theorem length_pairs : t.pairs.length = t.keys.length := by
  simp [pairs, AList.keys, List.keys]

omit [DecidableEq K] in
theorem length_filterMap_le (f : K → V → Option W) : (t.filterMap f).pairs.length ≤ t.pairs.length := by
  simpa [pairs, filterMap] using
    List.length_filterMap_le (fun e : Sigma fun _ : K => V =>
      (f e.1 e.2).map (Sigma.mk (β := fun _ : K => W) e.1)) t.entries

theorem length_erase_le : (pairs (t.erase k)).length ≤ t.pairs.length := by
  rw [length_pairs, length_pairs, AList.keys_erase]
  exact List.length_erase_le

theorem length_insert_le : (pairs (t.insert k v)).length ≤ t.pairs.length + 1 := by
  rw [length_pairs, length_pairs, AList.keys_insert, List.length_cons]
  exact Nat.succ_le_succ List.length_erase_le

variable {t k}

theorem length_erase (h : k ∈ t) : (pairs (t.erase k)).length + 1 = t.pairs.length := by
  have hmem : k ∈ t.keys := AList.mem_keys.mp h
  rw [length_pairs, length_pairs, AList.keys_erase, List.length_erase_of_mem hmem]
  exact Nat.succ_pred_eq_of_pos (List.length_pos_of_mem hmem)

theorem length_insert (h : k ∈ t) : (pairs (t.insert k v)).length = t.pairs.length := by
  rw [← length_erase h, length_pairs, length_pairs, AList.keys_insert, AList.keys_erase,
    List.length_cons]

end Length

/-! ### Going over all entries -/

omit [DecidableEq K] in
theorem nodup_pairs (t : Table K V) : (t.pairs.map Prod.fst).Nodup := by
  have h : t.pairs.map Prod.fst = t.keys := by simp [pairs, AList.keys, List.keys, Function.comp_def]
  rw [h]
  exact t.keys_nodup

/-- A fallible pass over the entries of `t` whose steps each change only what the other table
has under the key of the entry: `P` holds of what is there before and after under every key. -/
theorem foldlM_pairs {ε : Type*} {f : Table K W → K × V → Except ε (Table K W)}
    {P : K → V → Option W → Option W → Prop}
    (hf : ∀ d k v d', f d (k, v) = .ok d' →
      (∀ l, l ≠ k → d'.lookup l = d.lookup l) ∧
        P k v (d.lookup k) (d'.lookup k))
    {t : Table K V} {d d' : Table K W} (h : t.pairs.foldlM f d = .ok d') (k : K) :
    (t.lookup k = none → d'.lookup k = d.lookup k) ∧
      ∀ v, t.lookup k = some v → P k v (d.lookup k) (d'.lookup k) := by
  have hlist : ∀ (l : List (K × V)) (d : Table K W), (l.map Prod.fst).Nodup →
      l.foldlM f d = .ok d' →
      (k ∉ l.map Prod.fst → d'.lookup k = d.lookup k) ∧
        ∀ v, (k, v) ∈ l → P k v (d.lookup k) (d'.lookup k) := by
    intro l
    induction l with
    | nil =>
      intro d _ h
      cases h
      exact ⟨fun _ => rfl, fun v hv => absurd hv List.not_mem_nil⟩
    | cons e l ih =>
      obtain ⟨k₁, v₁⟩ := e
      intro d hnodup h
      rw [List.map_cons, List.nodup_cons] at hnodup
      rw [List.foldlM_cons] at h
      rcases hfirst : f d (k₁, v₁) with e | d₁
      · rw [hfirst] at h
        cases h
      rw [hfirst] at h
      obtain ⟨hother, hown⟩ := hf d k₁ v₁ d₁ hfirst
      obtain ⟨hskip, hmem⟩ := ih d₁ hnodup.2 h
      refine ⟨fun hk => ?_, fun v hv => ?_⟩
      · rw [List.map_cons, List.mem_cons, not_or] at hk
        rw [hskip hk.2, hother k hk.1]
      · rcases List.mem_cons.mp hv with heq | hlater
        · -- the entry of this key; no later one has it
          cases heq
          rw [hskip hnodup.1]
          exact hown
        · have hne : k ≠ k₁ := by
            rintro rfl
            exact hnodup.1 (List.mem_map.mpr ⟨_, hlater, rfl⟩)
          rw [← hother k hne]
          exact hmem v hlater
  obtain ⟨hskip, hmem⟩ := hlist t.pairs d t.nodup_pairs h
  refine ⟨fun hk => hskip fun hin => ?_, fun v hv => hmem v (mem_pairs.mpr hv)⟩
  obtain ⟨⟨k', v⟩, hv, rfl⟩ := List.mem_map.mp hin
  rw [mem_pairs.mp hv] at hk
  cases hk

/-- A pass that cannot fail. -/
theorem lookup_foldl_pairs {f : Table K W → K × V → Table K W} {g : V → Option W → Option W}
    (hf : ∀ d k v l, (f d (k, v)).lookup l =
      if l = k then g v (d.lookup k) else d.lookup l)
    (t : Table K V) (d : Table K W) (k : K) : (t.pairs.foldl f d).lookup k =
      match t.lookup k with
      | some v => g v (d.lookup k)
      | none => d.lookup k := by
  have hpass : t.pairs.foldlM (fun d e => (pure (f d e) : Except Empty (Table K W))) d =
      .ok (t.pairs.foldl f d) := List.foldlM_pure
  obtain ⟨hskip, hwrite⟩ := foldlM_pairs (P := fun _ v old new => new = g v old) (fun d k v d' h => by
    cases h
    refine ⟨fun l hl => (hf d k v l).trans (if_neg hl), (hf d k v k).trans (if_pos rfl)⟩) hpass k
  rcases h : t.lookup k with _ | v
  · exact hskip h
  · exact hwrite v h

/-- The values under some keys are rewritten, those under a key that comes twice just as once. -/
theorem lookup_foldl_rewrite {g : Option V → V} (hg : ∀ v, g (some (g v)) = g v) (keys : List K)
    (t : Table K V) (k : K) :
    (keys.foldl (fun t k => t.insert k (g (t.lookup k))) t).lookup k =
      if k ∈ keys then some (g (t.lookup k)) else t.lookup k := by
  induction keys generalizing t with
  | nil => rw [if_neg List.not_mem_nil]; rfl
  | cons key keys ih =>
    rw [List.foldl_cons, ih, lookup_insert_ite]
    by_cases hk : k = key
    · subst hk
      rw [if_pos rfl, hg, ite_self, if_pos List.mem_cons_self]
    · rw [if_neg hk]
      simp only [List.mem_cons, hk, false_or]

end Table

end NmDaemon
