import NmDaemon.Base.History
import NmDaemon.Observation

/-!
# The lineage of status observations

What a client may conclude from the identities of the observations it receives,
over every run of `observations`: equal identities are equal observations, the
revision counts the changes of the value, an invalidated capture leaves no trace,
and the predecessor links order everything that was ever published.

A publication shows the state right after it (`step_cases`), so everything is
derived from two facts about states: `Sound`, which ties the epoch to the number of
epoch ids drawn, and `Later`, the order in which states can follow each other.
-/

namespace NmDaemon

namespace Observation

variable {uuid : ℕ → String}

/-! ## One step -/

/-- What a published observation can show of a state. -/
def mark (s : Observations) : String × Option String × ℕ × Option Json × ℕ :=
  (s.state.epoch, s.state.previousEpoch, s.state.revision, s.state.value, s.issued)

/-- A capture of `value` from `s` published `observation` and left `s'`. -/
structure Publishes (uuid : ℕ → String) (s s' : Observations) (value observation : Json) :
    Prop where
  current : s.capture = some s.state.generation
  state : s'.state = s.state.advance value (uuid s.issued)
  issued : s'.issued = if s.state.exhausted value then s.issued + 1 else s.issued
  attached : s'.state.attach value = some observation

variable {o : Answer} {s s' : Observations}

/-- A step either publishes what its read captured or shows nothing and changes
nothing that could be shown. -/
theorem step_cases {a : Action} (h : step uuid s a = some (s', o)) :
    (mark s' = mark s ∧ ∀ observation, o ≠ .published observation) ∨
    ∃ read value observation, a = .endCapture read ∧ o = .published observation ∧
      captured read = some value ∧ Publishes uuid s s' value observation := by
  cases a with
  | beginCapture | abortCapture =>
    simp only [step] at h
    split at h <;> cases h
    exact .inl ⟨rfl, by simp⟩
  | invalidate =>
    simp only [step, State.invalidate] at h
    split_ifs at h
    all_goals
      cases h
      exact .inl ⟨rfl, by simp⟩
  | endCapture read =>
    rcases hcapture : s.capture with _ | generation
    · simp [step, hcapture] at h
    rcases hvalue : captured read with _ | value
    · -- the read has no field to say that it is available
      simp only [step, hcapture, hvalue, Option.some.injEq, Prod.mk.injEq] at h
      obtain ⟨rfl, rfl⟩ := h
      exact .inl ⟨rfl, by simp⟩
    by_cases hgen : generation = s.state.generation
    · obtain ⟨fields, rfl⟩ := captured_isObject hvalue
      simp only [step, hcapture, hvalue, hgen, ne_eq, not_true, if_false, attach_obj,
        Option.some.injEq, Prod.mk.injEq] at h
      obtain ⟨rfl, rfl⟩ := h
      exact .inr ⟨read, _, _, rfl, rfl, hvalue, by rw [hcapture, hgen], rfl, rfl, attach_obj _ _⟩
    · simp only [step, hcapture, hvalue, hgen, ne_eq, not_false_eq_true, if_true,
        Option.some.injEq, Prod.mk.injEq] at h
      obtain ⟨rfl, rfl⟩ := h
      exact .inl ⟨rfl, by simp⟩

variable {observation : Json}

/-- The three ways a value is published: again, as the next revision, or as the
first revision of a new epoch. -/
theorem Publishes.cases {value : Json} (h : Publishes uuid s s' value observation) :
    (s.state.value = some value ∧ mark s' = mark s) ∨
    (s.state.value ≠ some value ∧ s.state.revision ≠ maxRevision ∧
      mark s' = (s.state.epoch, s.state.previousEpoch, s.state.revision + 1, some value, s.issued)) ∨
    (s.state.value ≠ some value ∧ s.state.revision = maxRevision ∧
      mark s' = (uuid s.issued, some s.state.epoch, 1, some value, s.issued + 1)) := by
  obtain ⟨-, hstate, hissued, -⟩ := h
  by_cases hv : s.state.value = some value
  · refine .inl ⟨hv, ?_⟩
    simp [mark, hstate, hissued, State.advance, State.exhausted, hv]
  · by_cases hmax : s.state.revision = maxRevision
    · refine .inr (Or.inr ⟨hv, hmax, ?_⟩)
      simp [mark, hstate, hissued, State.advance, State.exhausted, hv, hmax]
    · refine .inr (Or.inl ⟨hv, hmax, ?_⟩)
      simp [mark, hstate, hissued, State.advance, State.exhausted, hv, hmax]

theorem Publishes.value {value : Json} (h : Publishes uuid s s' value observation) :
    s'.state.value = some value := by
  rcases h.cases with ⟨hv, hmark⟩ | ⟨-, -, hmark⟩ | ⟨-, -, hmark⟩
  all_goals
    simp only [mark, Prod.mk.injEq] at hmark
    simp [*]

/-! ## Every reachable state -/

/-- The epoch is the last id drawn, its predecessor the one before, and the
revision is in range. -/
structure Sound (uuid : ℕ → String) (s : Observations) : Prop where
  issued : 0 < s.issued
  epoch : s.state.epoch = uuid (s.issued - 1)
  previous : s.state.previousEpoch = if s.issued = 1 then none else some (uuid (s.issued - 2))
  bound : s.state.revision ≤ maxRevision
  counted : s.state.value ≠ none → 0 < s.state.revision

theorem Sound.of_mark (h : Sound uuid s) (hmark : mark s' = mark s) : Sound uuid s' := by
  simp only [mark, Prod.mk.injEq] at hmark
  obtain ⟨he, hp, hr, hv, hi⟩ := hmark
  exact ⟨by rw [hi]; exact h.issued, by rw [he, hi]; exact h.epoch,
    by rw [hp, hi]; exact h.previous, by rw [hr]; exact h.bound, by rw [hr, hv]; exact h.counted⟩

/-- `t` is `s` or shows a later identity. -/
def Later (s t : Observations) : Prop :=
  s.issued < t.issued ∨ (s.issued = t.issued ∧ s.state.revision < t.state.revision) ∨
    mark t = mark s

variable {t : Observations}

theorem Later.trans {r : Observations} (h₁ : Later s t) (h₂ : Later t r) : Later s r := by
  simp only [Later, mark, Prod.mk.injEq] at *
  rcases h₁ with h₁ | ⟨h₁, h₁'⟩ | ⟨he, hp, hr, hv, hi⟩
  · rcases h₂ with h₂ | ⟨h₂, -⟩ | ⟨-, -, -, -, hi⟩ <;> exact .inl (by omega)
  · rcases h₂ with h₂ | ⟨h₂, h₂'⟩ | ⟨-, -, hr, -, hi⟩
    · exact .inl (by omega)
    · exact .inr (Or.inl ⟨by omega, by omega⟩)
    · exact .inr (Or.inl ⟨by omega, by omega⟩)
  · rw [hr, hi] at h₂
    rwa [he, hp, hv] at h₂

theorem Later.issued_le (h : Later s t) : s.issued ≤ t.issued := by
  simp only [Later, mark, Prod.mk.injEq] at h
  omega

theorem sound_start : Sound uuid (observations uuid).start :=
  ⟨Nat.one_pos, rfl, rfl, Nat.zero_le _, fun h => absurd rfl h⟩

/-- One step keeps a state sound and moves forward. -/
theorem step_sound {a : Action} (hs : Sound uuid s) (h : step uuid s a = some (s', o)) :
    Sound uuid s' ∧ Later s s' := by
  rcases step_cases h with ⟨hmark, -⟩ | ⟨read, value, observation, -, -, -, hpub⟩
  · exact ⟨hs.of_mark hmark, Or.inr (Or.inr hmark)⟩
  rcases hpub.cases with ⟨-, hmark⟩ | ⟨-, hmax, hmark⟩ | ⟨-, hmax, hmark⟩
  · exact ⟨hs.of_mark hmark, Or.inr (Or.inr hmark)⟩
  all_goals
    simp only [mark, Prod.mk.injEq] at hmark
    obtain ⟨he, hp, hr, hv, hi⟩ := hmark
  · -- the next revision of the same epoch
    have hbound := hs.bound
    refine ⟨⟨by rw [hi]; exact hs.issued, by rw [he, hi]; exact hs.epoch,
      by rw [hp, hi]; exact hs.previous, by omega, fun _ => by omega⟩, Or.inr (Or.inl ?_)⟩
    exact ⟨hi.symm, by omega⟩
  · -- a fresh epoch
    have hpos := hs.issued
    refine ⟨⟨by omega, by rw [he, hi]; rfl, ?_, by rw [hr]; decide, fun _ => by omega⟩,
      Or.inl (by omega)⟩
    rw [hp, hi, if_neg (by omega), hs.epoch]
    rfl

variable {log : List Entry}

theorem run_sound (h : (observations uuid).Run s log t) (hs : Sound uuid s) :
    Sound uuid t ∧ Later s t :=
  h.relates (Sound uuid) Later (fun _ => .inr (Or.inr rfl)) (fun _ _ _ => Later.trans)
    (fun _ _ _ _ hs hstep => step_sound hs hstep) hs

/-! ## Two publications -/

/-- What a state right after the publication of `observation` looks like. -/
structure Shows (uuid : ℕ → String) (t : Observations) (value observation : Json) : Prop where
  sound : Sound uuid t
  object : ∃ fields, value = .obj fields
  attached : t.state.attach value = some observation
  value : t.state.value = some value

theorem Shows.spec {value : Json} (h : Shows uuid t value observation) :
    epochOf observation = some (uuid (t.issued - 1)) ∧
      revisionOf observation = some (t.state.revision : ℤ) ∧
      previousOf observation = if t.issued = 1 then none else some (uuid (t.issued - 2)) := by
  obtain ⟨he, hr, hp⟩ := attach_spec h.object h.attached
  exact ⟨by rw [he, h.sound.epoch], hr, by rw [hp, h.sound.previous]⟩

variable {a b : Json}

/-- States that look alike publish the same. -/
theorem Shows.eq_of_mark {t' : Observations} {value value' : Json} (h : Shows uuid t value a)
    (h' : Shows uuid t' value' b) (hmark : mark t' = mark t) : b = a := by
  simp only [mark, Prod.mk.injEq] at hmark
  obtain ⟨he, hp, hr, hv, -⟩ := hmark
  have hvalue : value' = value := by
    have := h'.value
    rw [hv, h.value] at this
    exact (Option.some.inj this).symm
  have hattach : t'.state.attach value' = t.state.attach value := by
    rw [hvalue, State.attach, State.attach, he, hp, hr]
  rw [h.attached, h'.attached] at hattach
  exact Option.some.inj hattach

variable {read : Except String Json}

/-- A publication, with the states around it. -/
theorem shows_of_step (hs : Sound uuid s)
    (h : (observations uuid).step s (.endCapture read) = some (s', .published observation)) :
    ∃ value, captured read = some value ∧ Publishes uuid s s' value observation ∧
      Shows uuid s' value observation := by
  have hstep : step uuid s (.endCapture read) = some (s', .published observation) := h
  rcases step_cases hstep with ⟨-, hne⟩ | ⟨read', value, observation', ha, ho, hcap, hpub⟩
  · exact absurd rfl (hne observation)
  · cases ha
    cases ho
    exact ⟨value, hcap, hpub, (step_sound hs hstep).1, captured_isObject hcap,
      hpub.attached, hpub.value⟩

variable {mid post pre : List Entry}

/-- Two publications of one run, with the state after each and before the second. -/
theorem two_publications (h : (observations uuid).Reaches log s)
    {r₁ r₂ : Except String Json} (hlog : log =
      pre ++ (.endCapture r₁, .published a) :: (mid ++ (.endCapture r₂, .published b) :: post)) :
    ∃ t u t' v w, captured r₁ = some v ∧ captured r₂ = some w ∧ Shows uuid t v a ∧
      (observations uuid).Reaches
        (pre ++ [(.endCapture r₁, .published a)]) t ∧
      (observations uuid).Run t mid u ∧ Publishes uuid u t' w b ∧ Shows uuid t' w b ∧
      Later t t' ∧ Later t' s := by
  subst hlog
  obtain ⟨t₀, t, h₀, hstep₁, hrest⟩ := h.step_at
  obtain ⟨u, t', hmid, hstep₂, hpost⟩ := hrest.step_at
  have hsound₀ := (run_sound h₀ sound_start).1
  obtain ⟨v, hv, -, hshow₁⟩ := shows_of_step hsound₀ hstep₁
  obtain ⟨hsound₁, hlater₁⟩ := run_sound hmid hshow₁.sound
  obtain ⟨w, hw, hpub, hshow₂⟩ := shows_of_step hsound₁ hstep₂
  have hstep₂' : step uuid u (.endCapture r₂) = some (t', .published b) := hstep₂
  exact ⟨t, u, t', v, w, hv, hw, hshow₁, h₀.snoc hstep₁, hmid, hpub, hshow₂,
    hlater₁.trans (step_sound hsound₁ hstep₂').2, (run_sound hpost hshow₂.sound).2⟩

/-- Nothing that could be shown changes between publications. -/
theorem mark_of_silent (h : (observations uuid).Run s log t)
    (hsilent : ∀ e ∈ log, ∀ observation, e.2 ≠ .published observation) : mark t = mark s := by
  induction h with
  | nil => rfl
  | snoc hrun hstep ih =>
    have hne := hsilent _ (List.mem_append_right _ (List.mem_singleton_self _))
    rcases step_cases hstep with ⟨hmark, -⟩ | ⟨_, _, observation, -, ho, -, -⟩
    · exact hmark.trans (ih fun e he => hsilent e (List.mem_append_left _ he))
    · exact absurd ho (hne observation)

/-! ## A capture that is invalidated -/

/-- Nobody ended the running capture. -/
def Running (log : List Entry) : Prop :=
  ∀ e ∈ log, (∀ read, e.1 ≠ .endCapture read) ∧ e.1 ≠ .abortCapture

/-- While a capture runs, its generation is kept and the current one only grows. -/
theorem capture_kept {generation : ℕ} (h : (observations uuid).Run s log t)
    (hcap : s.capture = some generation) (hrun : Running log) :
    t.capture = some generation ∧ s.state.generation ≤ t.state.generation ∧
      ((Action.invalidate, Answer.invalidated) ∈ log → s.state.generation < t.state.generation) := by
  induction h with
  | nil => exact ⟨hcap, le_refl _, by simp⟩
  | @snoc u t' log a o _ hstep ih =>
    obtain ⟨hkeep, hle, hlt⟩ := ih fun e he => hrun e (List.mem_append_left _ he)
    obtain ⟨hend, habort⟩ := hrun (a, o) (List.mem_append_right _ (List.mem_singleton_self _))
    have hstep : step uuid u a = some (t', o) := hstep
    cases a with
    | endCapture read => exact absurd rfl (hend read)
    | abortCapture => exact absurd rfl habort
    | beginCapture => simp [step, hkeep] at hstep
    | invalidate =>
      simp only [step, State.invalidate] at hstep
      split_ifs at hstep
      · cases hstep
        exact ⟨hkeep, Nat.le_succ_of_le hle, fun _ => Nat.lt_succ_of_le hle⟩
      · -- the generation is exhausted: the invalidation panicked
        cases hstep
        exact ⟨hkeep, hle, fun hmem => hlt (by simpa using hmem)⟩

/-- A capture whose generation has passed ends in a conflict and leaves no trace. -/
theorem stale_capture {generation : ℕ} (hcap : s.capture = some generation)
    (hlt : generation < s.state.generation) (h : step uuid s (.endCapture read) = some (s', o)) :
    o = (if (captured read).isNone then .panicked else .conflict) ∧
      s'.state = s.state ∧ s'.issued = s.issued := by
  rcases hvalue : captured read with _ | value
  · simp only [step, hcap, hvalue, Option.some.injEq, Prod.mk.injEq] at h
    obtain ⟨rfl, rfl⟩ := h
    exact ⟨rfl, rfl, rfl⟩
  · simp only [step, hcap, hvalue, hlt.ne, ne_eq, not_false_eq_true, if_true, Option.some.injEq,
      Prod.mk.injEq] at h
    obtain ⟨rfl, rfl⟩ := h
    exact ⟨rfl, rfl, rfl⟩

/-- An invalidation during a capture makes it publish nothing and use up nothing. -/
theorem invalidated_capture (h : (observations uuid).Reaches log s)
    (hlog : log = pre ++ (.beginCapture, .began) :: (mid ++ (.endCapture read, o) :: post))
    (hrun : Running mid) (hinv : (Action.invalidate, Answer.invalidated) ∈ mid) :
    o = (if (captured read).isNone then .panicked else .conflict) ∧
      ∃ t t', (observations uuid).Reaches
          (pre ++ (.beginCapture, .began) :: mid) t ∧
        (observations uuid).step t (.endCapture read) = some (t', o) ∧
        t'.state = t.state ∧ t'.issued = t.issued := by
  subst hlog
  obtain ⟨t₀, t, h₀, hbegin, hrest⟩ := h.step_at
  obtain ⟨u, u', hmid, hend, -⟩ := hrest.step_at
  have hcap : t.capture = some t.state.generation := by
    have hbegin : step uuid t₀ .beginCapture = some (t, .began) := hbegin
    simp only [step] at hbegin
    split at hbegin <;> cases hbegin
    rfl
  obtain ⟨hkept, -, hlt⟩ := capture_kept hmid hcap hrun
  obtain ⟨ho, hstate, hissued⟩ := stale_capture hkept (hlt hinv) hend
  refine ⟨ho, u, u', ?_, hend, hstate, hissued⟩
  have hwhole := (h₀.append (Machine.Run.single hbegin)).append hmid
  simpa using hwhole

/-! ## The links order all publications -/

variable {q : Option String}

theorem Link.snoc {e : Entry} {p : Option String} (h : Link log p q) : Link (log ++ [e]) p q := by
  obtain ⟨a, ⟨read, hmem⟩, hrest⟩ := h
  exact ⟨a, ⟨read, List.mem_append_left _ hmem⟩, hrest⟩

section

variable (h : (observations uuid).Reaches log s)

include h

/-- What was published was once the state. -/
theorem published_shows (ha : Published log a) : ∃ t value, Shows uuid t value a ∧ Later t s := by
  obtain ⟨read, hmem⟩ := ha
  obtain ⟨pre, post, rfl⟩ := List.append_of_mem hmem
  obtain ⟨t₀, t, h₀, hstep, hrest⟩ := h.step_at
  obtain ⟨value, -, -, hshow⟩ := shows_of_step (run_sound h₀ sound_start).1 hstep
  exact ⟨t, value, hshow, (run_sound hrest hshow.sound).2⟩

/-- A link leads from an epoch to the one drawn right before it. -/
theorem link_index {p : Option String} (hl : Link log p q) :
    ∃ k, p = some (uuid k) ∧ q = some (uuid (k + 1)) := by
  obtain ⟨a, ha, hepoch, hprev, hne⟩ := hl
  obtain ⟨t, value, hshow, -⟩ := published_shows h ha
  obtain ⟨he, -, hp⟩ := hshow.spec
  have hpos := hshow.sound.issued
  by_cases hone : t.issued = 1
  · rw [if_pos hone] at hp
    exact absurd (hprev.symm.trans hp) hne
  · rw [if_neg hone] at hp
    refine ⟨t.issued - 2, hprev.symm.trans hp, ?_⟩
    rw [← hepoch, he, show t.issued - 2 + 1 = t.issued - 1 by omega]

/-- Every epoch but the first is linked to the one before it: the publication that
began it says so. -/
theorem link_of_lt : ∀ k, k + 1 < s.issued → Link log (some (uuid k)) (some (uuid (k + 1))) := by
  refine h.invariant
    (fun log s => ∀ k, k + 1 < s.issued → Link log (some (uuid k)) (some (uuid (k + 1))))
    (fun k hk => absurd hk (by simp [observations])) ?_
  intro log t t' a o hrun ih hstep k hk
  rcases Nat.lt_or_ge (k + 1) t.issued with hlt | hge
  · exact (ih k hlt).snoc
  -- the epoch was drawn by this very step
  have hsound := (run_sound hrun sound_start).1
  have hpos := hsound.issued
  rcases step_cases hstep with ⟨hmark, -⟩ | ⟨read, value, b, rfl, rfl, -, hpub⟩
  · simp only [mark, Prod.mk.injEq] at hmark
    omega
  · obtain ⟨w, -, -, hshow⟩ := shows_of_step hsound hstep
    obtain ⟨he, -, hp⟩ := hshow.spec
    have hissued : t'.issued = k + 2 := by
      have := hpub.issued
      split at this <;> omega
    rw [hissued] at he hp
    rw [if_neg (by omega)] at hp
    exact ⟨b, ⟨read, by simp⟩, he, hp, by simp⟩

theorem transGen_link_lt (huuid : Function.Injective uuid) {i : ℕ}
    (hl : Relation.TransGen (Link log) (some (uuid i)) q) : ∃ j, q = some (uuid j) ∧ i < j := by
  induction hl with
  | single hlink =>
    obtain ⟨k, hi, hq⟩ := link_index h hlink
    have hik : i = k := huuid (Option.some.inj hi)
    exact ⟨k + 1, hq, by omega⟩
  | tail _ hlink ih =>
    obtain ⟨j, hj, hlt⟩ := ih
    obtain ⟨k, hk, hq⟩ := link_index h hlink
    have hjk : j = k := huuid (Option.some.inj (hj.symm.trans hk))
    exact ⟨k + 1, hq, by omega⟩

theorem transGen_link_of_lt {i j : ℕ} (hij : i < j) (hj : j < s.issued) :
    Relation.TransGen (Link log) (some (uuid i)) (some (uuid j)) := by
  induction j with
  | zero => omega
  | succ j ih =>
    have hlast := link_of_lt h j hj
    rcases Nat.lt_or_ge i j with hlt | hge
    · exact (ih hlt (by omega)).tail hlast
    · rw [show i = j by omega]
      exact Relation.TransGen.single hlast

/-- The order of the links is the order of the states that were shown. -/
theorem precedes_iff (huuid : Function.Injective uuid) {u : Observations} {v w : Json}
    (ha : Shows uuid t v a) (hb : Shows uuid u w b) (hlater : Later u s) :
    Precedes log a b ↔
      t.issued < u.issued ∨ (t.issued = u.issued ∧ t.state.revision < u.state.revision) := by
  obtain ⟨hea, hra, -⟩ := ha.spec
  obtain ⟨heb, hrb, -⟩ := hb.spec
  have hta := ha.sound.issued
  have htb := hb.sound.issued
  have hus := hlater.issued_le
  unfold Precedes
  rw [hea, heb, hra, hrb]
  constructor
  · rintro (⟨heq, r, r', hr, hr', hlt⟩ | hlink)
    · have := huuid (Option.some.inj heq)
      cases hr
      cases hr'
      exact .inr ⟨by omega, by omega⟩
    · obtain ⟨j, hj, hlt⟩ := transGen_link_lt h huuid hlink
      have := huuid (Option.some.inj hj)
      exact .inl (by omega)
  · rintro (hlt | ⟨heq, hlt⟩)
    · exact .inr (transGen_link_of_lt h (by omega) (by omega))
    · exact .inl ⟨by rw [heq], _, _, rfl, rfl, by omega⟩

/-! ## What clients can rely on -/

/-- Two publications of one run were shown by states one of which is later. -/
theorem published_order (ha : Published log a) (hb : Published log b) :
    ∃ t u v w, Shows uuid t v a ∧ Shows uuid u w b ∧ (Later t u ∨ Later u t) := by
  obtain ⟨r₁, hmem₁⟩ := ha
  obtain ⟨r₂, hmem₂⟩ := hb
  rcases mem_order hmem₁ hmem₂ with heq | ⟨pre, mid, post, hlog⟩ | ⟨pre, mid, post, hlog⟩
  · cases heq
    obtain ⟨t, v, hshow, -⟩ := published_shows h ⟨r₁, hmem₁⟩
    exact ⟨t, t, v, v, hshow, hshow, Or.inl (Or.inr (Or.inr rfl))⟩
  · obtain ⟨t, -, u, v, w, -, -, ha, -, -, -, hb, hlater, -⟩ := two_publications h hlog
    exact ⟨t, u, v, w, ha, hb, Or.inl hlater⟩
  · obtain ⟨u, -, t, w, v, -, -, hb, -, -, -, ha, hlater, -⟩ := two_publications h hlog
    exact ⟨t, u, v, w, ha, hb, Or.inr hlater⟩

/-- Equal identities, equal observations. -/
theorem eq_of_identity (huuid : Function.Injective uuid) (ha : Published log a)
    (hb : Published log b) (hepoch : epochOf a = epochOf b) (hrev : revisionOf a = revisionOf b) :
    a = b := by
  obtain ⟨t, u, v, w, hat, hbu, hlater⟩ := published_order h ha hb
  obtain ⟨hea, hra, -⟩ := hat.spec
  obtain ⟨heb, hrb, -⟩ := hbu.spec
  have hpos := hat.sound.issued
  have hpos' := hbu.sound.issued
  have hissued : t.issued = u.issued := by
    have := huuid (Option.some.inj (hea.symm.trans (hepoch.trans heb)))
    omega
  have hrevision : t.state.revision = u.state.revision := by
    exact_mod_cast Option.some.inj (hra.symm.trans (hrev.trans hrb))
  -- neither state is strictly later than the other
  rcases hlater with (hlt | ⟨-, hlt⟩ | hmark) | (hlt | ⟨-, hlt⟩ | hmark)
  · omega
  · omega
  · exact (hat.eq_of_mark hbu hmark).symm
  · omega
  · omega
  · exact hbu.eq_of_mark hat hmark

/-- What two publications with none between them have to do with each other. -/
def Follows (before : List Entry) (r₁ r₂ : Except String Json) (a b : Json) : Prop :=
  (captured r₁ = captured r₂ → b = a) ∧
  (captured r₁ ≠ captured r₂ → revisionOf a ≠ some (maxRevision : ℤ) →
    epochOf b = epochOf a ∧ ∃ r, revisionOf a = some r ∧ revisionOf b = some (r + 1)) ∧
  (captured r₁ ≠ captured r₂ → revisionOf a = some (maxRevision : ℤ) →
    revisionOf b = some 1 ∧ previousOf b = epochOf a ∧
      ∀ c, Published (before ++ [(.endCapture r₁, .published a)]) c → epochOf c ≠ epochOf b)

theorem follows_of_silent (huuid : Function.Injective uuid) {r₁ r₂ : Except String Json}
    (hlog : log =
      pre ++ (.endCapture r₁, .published a) :: (mid ++ (.endCapture r₂, .published b) :: post))
    (hsilent : ∀ e ∈ mid, ∀ observation, e.2 ≠ .published observation) : Follows pre r₁ r₂ a b := by
  obtain ⟨t, u, t', v, w, hv, hw, ha, hpre, hmid, hpub, hb, -⟩ := two_publications h hlog
  have hmark := mark_of_silent hmid hsilent
  simp only [mark, Prod.mk.injEq] at hmark
  obtain ⟨hmepoch, hmprev, hmrev, hmvalue, hmissued⟩ := hmark
  obtain ⟨hea, hra, -⟩ := ha.spec
  obtain ⟨heb, hrb, hpb⟩ := hb.spec
  have hpos := ha.sound.issued
  have huvalue : u.state.value = some v := hmvalue.trans ha.value
  have hcaptured : captured r₁ = captured r₂ ↔ u.state.value = some w := by
    rw [hv, hw, huvalue]
  rw [Follows, hcaptured, ne_eq, hcaptured, hea, hra, heb, hrb, hpb]
  rcases hpub.cases with ⟨hsame, hstay⟩ | ⟨hdiff, hmax, hnext⟩ | ⟨hdiff, hmax, hfresh⟩
  · -- the value published again
    refine ⟨fun _ => ha.eq_of_mark hb (hstay.trans ?_), fun hne => absurd hsame hne,
      fun hne => absurd hsame hne⟩
    simp [mark, *]
  · -- the next revision
    simp only [mark, Prod.mk.injEq] at hnext
    obtain ⟨-, -, hr, -, hi⟩ := hnext
    refine ⟨fun hsame => absurd hsame hdiff, fun _ _ => ⟨by rw [hi, hmissued], _, rfl, ?_⟩,
      fun _ hrev => absurd ?_ hmax⟩
    · rw [hr, hmrev]
      rfl
    · rw [hmrev]
      exact_mod_cast Option.some.inj hrev
  · -- the first revision of a fresh epoch
    simp only [mark, Prod.mk.injEq] at hfresh
    obtain ⟨-, -, hr, -, hi⟩ := hfresh
    refine ⟨fun hsame => absurd hsame hdiff, fun _ hrev => absurd ?_ hrev, fun _ _ =>
      ⟨by rw [hr]; rfl, ?_, ?_⟩⟩
    · rw [← hmrev, hmax]
    · rw [if_neg (by omega), show t'.issued - 2 = t.issued - 1 by omega]
    · intro c hc hepoch
      -- whatever was published so far carries an id drawn earlier
      obtain ⟨t₀, v₀, hc₀, hlater⟩ := published_shows hpre hc
      have hpos₀ := hc₀.sound.issued
      have hle := hlater.issued_le
      have := huuid (Option.some.inj (hc₀.spec.1.symm.trans hepoch))
      omega

/-- A publication carries what was captured, under its identity. -/
theorem published_captured (hmem : (Action.endCapture read, Answer.published a) ∈ log) :
    ∃ value, captured read = some value ∧ ∀ k, k ≠ "_publication" → a.get k = value.get k := by
  obtain ⟨pre, post, rfl⟩ := List.append_of_mem hmem
  obtain ⟨t₀, t, h₀, hstep, -⟩ := h.step_at
  obtain ⟨value, hvalue, -, hshow⟩ := shows_of_step (run_sound h₀ sound_start).1 hstep
  refine ⟨value, hvalue, fun k hk => ?_⟩
  obtain ⟨fields, rfl⟩ := hshow.object
  have hattached := hshow.attached
  rw [attach_obj] at hattached
  cases hattached
  exact (Json.field_insertField _ _ _ _).trans (if_neg hk)

end

/-- **The lineage of status observations.** Over every interleaving of captures and
invalidations, with epoch ids that never repeat:

* a publication carries what its read captured, and observations with one identity
  are one observation;
* of two publications with none between, the second repeats the first exactly if
  the captured value is the same; otherwise it has the next revision or, when that
  would pass `maxRevision`, revision 1 of an epoch never used before that names the
  one before it;
* revisions stay between 1 and `maxRevision`;
* a capture that was invalidated while it ran publishes nothing and leaves the state
  as it was;
* the order that the predecessor links give is a strict order on what was published
  and agrees with the order of publication, so it is total. -/
theorem status_observation_lineage (huuid : Function.Injective uuid) {log : List Entry}
    {s : Observations} (h : (observations uuid).Run (observations uuid).start log s) :
    (∀ read a, (Action.endCapture read, Answer.published a) ∈ log →
      ∃ value, captured read = some value ∧ ∀ k, k ≠ "_publication" → a.get k = value.get k) ∧
    (∀ a b, Published log a → Published log b → epochOf a = epochOf b →
      revisionOf a = revisionOf b → a = b) ∧
    (∀ (pre mid post : List Entry) r₁ r₂ a b,
      log = pre ++ (Action.endCapture r₁, Answer.published a) ::
        (mid ++ (Action.endCapture r₂, Answer.published b) :: post) →
      (∀ e ∈ mid, ∀ observation, e.2 ≠ .published observation) → Follows pre r₁ r₂ a b) ∧
    (∀ a, Published log a →
      ∃ r, revisionOf a = some r ∧ 1 ≤ r ∧ r ≤ (maxRevision : ℤ)) ∧
    (∀ (pre mid post : List Entry) read o,
      log = pre ++ (Action.beginCapture, Answer.began) ::
        (mid ++ (Action.endCapture read, o) :: post) →
      Running mid → (Action.invalidate, Answer.invalidated) ∈ mid →
      o = (if (captured read).isNone then .panicked else .conflict) ∧
        ∃ t t', (observations uuid).Run (observations uuid).start
            (pre ++ (.beginCapture, .began) :: mid) t ∧
          (observations uuid).step t (.endCapture read) = some (t', o) ∧
          t'.state = t.state ∧ t'.issued = t.issued) ∧
    (∀ a, Published log a → ¬ Precedes log a a) ∧
    (∀ a b c, Published log a → Published log b → Published log c →
      Precedes log a b → Precedes log b c → Precedes log a c) ∧
    (∀ (pre mid post : List Entry) r₁ r₂ a b,
      log = pre ++ (Action.endCapture r₁, Answer.published a) ::
        (mid ++ (Action.endCapture r₂, Answer.published b) :: post) →
      a = b ∨ Precedes log a b) := by
  refine ⟨fun read a hmem => published_captured h hmem, fun a b => eq_of_identity h huuid,
    fun pre mid post r₁ r₂ a b hlog hsilent => follows_of_silent h huuid hlog hsilent, ?_,
    fun pre mid post read o hlog => invalidated_capture h hlog, ?_, ?_, ?_⟩
  · intro a ha
    obtain ⟨t, v, hshow, -⟩ := published_shows h ha
    have hbound := hshow.sound.bound
    have hcounted := hshow.sound.counted (by simp [hshow.value])
    exact ⟨_, hshow.spec.2.1, by omega, by omega⟩
  · intro a ha
    obtain ⟨t, v, hshow, hlater⟩ := published_shows h ha
    rw [precedes_iff h huuid hshow hshow hlater]
    omega
  · intro a b c ha hb hc
    obtain ⟨t, v, hat, -⟩ := published_shows h ha
    obtain ⟨u, w, hbu, hub⟩ := published_shows h hb
    obtain ⟨r, x, hcr, hrc⟩ := published_shows h hc
    rw [precedes_iff h huuid hat hbu hub, precedes_iff h huuid hbu hcr hrc,
      precedes_iff h huuid hat hcr hrc]
    omega
  · intro pre mid post r₁ r₂ a b hlog
    obtain ⟨t, -, u, v, w, -, -, hat, -, -, -, hbu, hlater, hus⟩ := two_publications h hlog
    rcases hlater with hlt | hlt | hmark
    · exact .inr ((precedes_iff h huuid hat hbu hus).mpr (Or.inl hlt))
    · exact .inr ((precedes_iff h huuid hat hbu hus).mpr (Or.inr hlt))
    · exact .inl (hat.eq_of_mark hbu hmark).symm

/-- A read, an invalidated capture and a failed read: the two publications are
ordered, one revision apart. -/
theorem status_observation_lineage_unavailable :
    ∃ log s a b, (observations unary).Run (observations unary).start log s ∧
      Published log a ∧ Published log b ∧ revisionOf a = some 1 ∧ revisionOf b = some 2 ∧
      Precedes log a b := by
  let active : Json := .obj [("active", .bool true)]
  have h := Machine.exec_run (observations unary) (observations unary).start
    [.beginCapture, .endCapture (.ok active), .beginCapture, .invalidate,
      .endCapture (.ok active), .beginCapture, .endCapture (.error "unavailable")] rfl
  have horder := (status_observation_lineage unary_injective h).2.2.2.2.2.2.2 [_] [_, _, _, _] []
    (.ok active) (.error "unavailable") _ _ rfl
  refine ⟨_, _, _, _, h, ⟨.ok active, by simp⟩, ⟨.error "unavailable", by simp⟩, rfl, rfl,
    horder.resolve_left ?_⟩
  intro heq
  exact absurd (congrArg revisionOf heq) (by decide)

end Observation

end NmDaemon
