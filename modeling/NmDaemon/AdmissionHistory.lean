import NmDaemon.Base.History
import NmDaemon.Admission

/-!
# Admission as a function of the history

What the policy answers is stated over histories: the answer to an attempt is
determined by what was admitted, completed and dropped before it (`Decides`), with
no mention of the tables. `GuardInv` and `PolicyInv` are the abstraction between
the two, and `connect_admission_history` is the result.
-/

namespace NmDaemon

namespace Admission

/-! ## The specification over histories -/

/-- The guard `g` was created for `identity`. -/
def Admitted (g : ℕ) (identity : String) : Entry → Prop
  | (.begin g' attempt _, .decided (.ok ())) => g' = g ∧ attempt.identity = identity
  | _ => False

/-- The guard `g` gave `identity` back. -/
def Released (g : ℕ) (identity : String) : Entry → Prop
  | (.finish g' _ _ _, .completed attempt) => g' = g ∧ attempt.identity = identity
  | (.drop g', .abandoned attempt) => g' = g ∧ attempt.identity = identity
  | _ => False

/-- An attempt for `identity` completed successfully. -/
def Succeeded (identity : String) : Entry → Prop
  | (.finish _ _ true _, .completed attempt) => attempt.identity = identity
  | _ => False

/-- An attempt for `identity` completed with a credential failure. -/
def CredentialFailure (identity : String) : Entry → Prop
  | (.finish _ (some .wrongPassword) false _, .completed attempt)
  | (.finish _ (some .passwordUnavailable) false _, .completed attempt)
  | (.finish _ (some .secretRequired) false _, .completed attempt) => attempt.identity = identity
  | _ => False

/-- An attempt with this identity and fingerprint completed with a wrong password
at time `t`. -/
def WrongPassword (identity : String) (fingerprint : UInt64) (t : Instant) : Entry → Prop
  | (.finish _ (some .wrongPassword) false t', .completed attempt) =>
    attempt.identity = identity ∧ attempt.credentialFingerprint = fingerprint ∧ t' = t
  | _ => False

/-- An admitted guard of the identity is still live. -/
def Live (log : List Entry) (identity : String) : Prop :=
  ∃ g, Since (Admitted g identity) (Released g identity) log

/-- Credentials of the identity failed since its last success. -/
def Stale (log : List Entry) (identity : String) : Prop :=
  Since (CredentialFailure identity) (Succeeded identity) log

/-- A wrong password with this fingerprint was tried less than the retry delay
before `now`, and after the identity's last success. -/
def Blocked (log : List Entry) (identity : String) (fingerprint : UInt64) (now : Instant) : Prop :=
  ∃ t, Since (WrongPassword identity fingerprint t) (Succeeded identity) log ∧
    now < t + wrongPasswordRetryDelay

/-- `d` is exactly the time left until the attempt is not blocked any more. -/
def TimeLeft (log : List Entry) (attempt : ConnectAttemptKey) (now : Instant) (d : Duration) :
    Prop :=
  0 < d ∧
  (∀ d' < d, Blocked log attempt.identity attempt.credentialFingerprint (now + d')) ∧
  ¬ Blocked log attempt.identity attempt.credentialFingerprint (now + d)

/-- The answer to an attempt, by what happened before it: the three rules, in the
order in which their refusals take precedence. -/
def Decides (log : List Entry) (attempt : ConnectAttemptKey) (now : Instant) :
    Except ConnectAdmission Unit → Prop
  | .error .active => Live log attempt.identity
  | .error .credentialsRequired =>
    ¬ Live log attempt.identity ∧
    Stale log attempt.identity ∧ attempt.suppliedCredentials = false
  | .error (.retryAfter d) =>
    ¬ Live log attempt.identity ∧
    (attempt.suppliedCredentials = true ∨ ¬ Stale log attempt.identity) ∧
    TimeLeft log attempt now d
  | .ok () =>
    ¬ Live log attempt.identity ∧
    (attempt.suppliedCredentials = true ∨ ¬ Stale log attempt.identity) ∧
    ¬ Blocked log attempt.identity attempt.credentialFingerprint now

/-- The entries that are about `identity`. -/
def concerns (identity : String) : Entry → Bool
  | (.begin _ attempt _, _) => attempt.identity = identity
  | (_, .completed attempt) | (_, .abandoned attempt) => attempt.identity = identity
  | _ => false

/-- The entries in which the guard `g` gives its identity back. -/
def isRelease (g : ℕ) : Entry → Bool
  | (.finish g' _ _ _, .completed _) | (.drop g', .abandoned _) => g' = g
  | _ => false

/-! ### One more entry -/

variable {e : Entry} {identity : String} {log : List Entry} {now : Instant}

theorem blocked_snoc {fingerprint : UInt64} :
    Blocked (log ++ [e]) identity fingerprint now ↔
      (∃ t, WrongPassword identity fingerprint t e ∧ now < t + wrongPasswordRetryDelay) ∨
      (¬ Succeeded identity e ∧ Blocked log identity fingerprint now) := by
  simp only [Blocked, since_snoc]
  constructor
  · rintro ⟨t, h | ⟨hs, h⟩, hlt⟩
    · exact .inl ⟨t, h, hlt⟩
    · exact .inr ⟨hs, t, h, hlt⟩
  · rintro (⟨t, h, hlt⟩ | ⟨hs, t, h, hlt⟩)
    · exact ⟨t, Or.inl h, hlt⟩
    · exact ⟨t, Or.inr ⟨hs, h⟩, hlt⟩

variable {attempt : ConnectAttemptKey}

theorem TimeLeft.blocked {d : Duration} (h : TimeLeft log attempt now d) :
    Blocked log attempt.identity attempt.credentialFingerprint now :=
  h.2.1 0 h.1

theorem TimeLeft.le {d d' : Duration} (h : TimeLeft log attempt now d)
    (h' : TimeLeft log attempt now d') : d ≤ d' := by
  by_contra hlt
  exact h'.2.2 (h.2.1 d' (not_le.mp hlt))

/-- No two answers fit the same history. -/
theorem Decides.unique {r r' : Except ConnectAdmission Unit} (h : Decides log attempt now r)
    (h' : Decides log attempt now r') : r = r' := by
  have hsupp : attempt.suppliedCredentials = true → attempt.suppliedCredentials ≠ false := by
    intro ht
    rw [ht]
    exact Bool.noConfusion
  rcases r with (_ | d | _) | ⟨⟩ <;> rcases r' with (_ | d' | _) | ⟨⟩ <;>
    simp only [Decides] at h h'
  -- the answers differ: their conditions exclude each other
  case error.retryAfter.error.retryAfter =>
    rw [le_antisymm (h.2.2.le h'.2.2) (h'.2.2.le h.2.2)]
  case error.retryAfter.ok => exact absurd h.2.2.blocked h'.2.2
  case ok.error.retryAfter => exact absurd h'.2.2.blocked h.2.2
  all_goals first | rfl | (exfalso; tauto)

/-! ## The abstraction invariant -/

/-- The guard `g` exists and holds `identity`. -/
def Holds (s : Attempts) (g : ℕ) (identity : String) : Prop :=
  ∃ attempt, s.guards.lookup g = some ⟨attempt, false⟩ ∧ attempt.identity = identity

/-- The guard `g` has given its identity back. -/
def HasReleased (s : Attempts) (g : ℕ) : Prop :=
  g ∈ s.gone ∨ ∃ attempt, s.guards.lookup g = some ⟨attempt, true⟩

/-- The guards, seen from the history. -/
structure GuardInv (log : List Entry) (s : Attempts) : Prop where
  live : ∀ g identity, Since (Admitted g identity) (Released g identity) log ↔ Holds s g identity
  active : ∀ identity, identity ∈ s.policy.activeIdentities ↔ ∃ g, Holds s g identity
  unique : ∀ g g' identity, Holds s g identity → Holds s g' identity → g = g'
  fresh : ∀ g ∈ s.gone, s.guards.lookup g = none
  once : ∀ g, HasReleased s g → log.countP (isRelease g) = 1
  never : ∀ g, ¬ HasReleased s g → log.countP (isRelease g) = 0
  dropped : ∀ g ans, (Action.drop g, ans) ∈ log → g ∈ s.gone

/-- The other two tables, seen from the history. -/
structure PolicyInv (log : List Entry) (s : Attempts) : Prop where
  stale : ∀ identity, identity ∈ s.policy.staleCredentials ↔ Stale log identity
  blocked : ∀ identity fingerprint now, s.clock ≤ now →
    (Blocked log identity fingerprint now ↔
      ∃ deadline, s.policy.deadline identity fingerprint = some deadline ∧ now < deadline)
  times : ∀ identity fingerprint t,
    Since (WrongPassword identity fingerprint t) (Succeeded identity) log → t ≤ s.clock

theorem guardInv_start : GuardInv [] attempts.start where
  live g identity := by
    simp [attempts, Holds, not_since_nil]
  active identity := by simp [attempts, ConnectAttemptPolicy.empty, Holds]
  unique g g' identity h := by
    obtain ⟨attempt, h, -⟩ := h
    cases h
  fresh g hg := by cases hg
  once g h := by
    rcases h with h | ⟨attempt, h⟩ <;> cases h
  never g h := rfl
  dropped g ans h := by cases h

theorem policyInv_start : PolicyInv [] attempts.start where
  stale identity := by simp [attempts, ConnectAttemptPolicy.empty, Stale, not_since_nil]
  blocked identity fingerprint now hnow := by
    simp [Blocked, not_since_nil, attempts, ConnectAttemptPolicy.empty,
      ConnectAttemptPolicy.deadline]
  times identity fingerprint t h := absurd h (not_since_nil _ _)

variable {s : Attempts}

theorem guardInv_refused (h : GuardInv log s) (g : ℕ) (attempt : ConnectAttemptKey) (now : Instant)
    (why : ConnectAdmission) (policy : ConnectAttemptPolicy)
    (hpolicy : policy.activeIdentities = s.policy.activeIdentities) :
    GuardInv (log ++ [(.begin g attempt now, .decided (.error why))])
      { s with policy, clock := now } where
  live g' identity := by
    rw [since_snoc, h.live]
    simp [Admitted, Released, Holds]
  active identity := by
    rw [hpolicy, h.active]
    rfl
  unique := h.unique
  fresh := h.fresh
  once g' hg' := by
    rw [List.countP_append, h.once g' hg']
    rfl
  never g' hg' := by
    rw [List.countP_append, h.never g' hg']
    rfl
  dropped g' ans hmem := h.dropped g' ans (by simpa using hmem)

theorem guardInv_admitted (h : GuardInv log s) (g : ℕ) (attempt : ConnectAttemptKey) (now : Instant)
    (policy : ConnectAttemptPolicy) (hg : g ∉ s.guards) (hgone : g ∉ s.gone)
    (hidle : attempt.identity ∉ s.policy.activeIdentities)
    (hpolicy : policy.activeIdentities = insert attempt.identity s.policy.activeIdentities) :
    GuardInv (log ++ [(.begin g attempt now, .decided (.ok ()))])
      { s with policy, guards := s.guards.insert g ⟨attempt, false⟩, clock := now } := by
  have hnone : s.guards.lookup g = none := AList.lookup_eq_none.mpr hg
  have holds_iff : ∀ g' identity,
      Holds { s with policy, guards := s.guards.insert g ⟨attempt, false⟩, clock := now }
        g' identity ↔ (g' = g ∧ attempt.identity = identity) ∨ Holds s g' identity := by
    intro g' identity
    unfold Holds
    dsimp only
    rw [Table.lookup_insert_ite]
    by_cases hgg : g' = g
    · subst hgg
      simp [hnone]
    · simp [hgg]
  have released_iff : ∀ g',
      HasReleased { s with policy, guards := s.guards.insert g ⟨attempt, false⟩, clock := now } g'
        ↔ HasReleased s g' := by
    intro g'
    unfold HasReleased
    dsimp only
    rw [Table.lookup_insert_ite]
    by_cases hgg : g' = g
    · subst hgg
      simp [hnone]
    · simp [hgg]
  refine ⟨?_, ?_, ?_, ?_, ?_, ?_, ?_⟩
  · intro g' identity
    rw [since_snoc, h.live, holds_iff]
    simp [Admitted, Released, eq_comm]
  · intro identity
    rw [hpolicy, Finset.mem_insert, h.active]
    constructor
    · rintro (rfl | ⟨g', hg'⟩)
      · exact ⟨g, (holds_iff _ _).mpr (Or.inl ⟨rfl, rfl⟩)⟩
      · exact ⟨g', (holds_iff _ _).mpr (Or.inr hg')⟩
    · rintro ⟨g', hg'⟩
      rcases (holds_iff _ _).mp hg' with ⟨-, rfl⟩ | hg'
      · exact .inl rfl
      · exact .inr ⟨g', hg'⟩
  · -- a second guard of the identity would have kept the attempt out
    intro g₁ g₂ identity h₁ h₂
    rcases (holds_iff _ _).mp h₁ with ⟨rfl, rfl⟩ | h₁' <;>
      rcases (holds_iff _ _).mp h₂ with ⟨rfl, hid⟩ | h₂'
    · rfl
    · exact absurd ((h.active _).mpr ⟨_, h₂'⟩) hidle
    · subst hid
      exact absurd ((h.active _).mpr ⟨_, h₁'⟩) hidle
    · exact h.unique _ _ _ h₁' h₂'
  · intro g' hg'
    have hne : g' ≠ g := fun heq => hgone (heq ▸ hg')
    rw [Table.lookup_insert_ite, if_neg hne]
    exact h.fresh g' hg'
  · intro g' hg'
    rw [List.countP_append, h.once g' ((released_iff g').mp hg')]
    rfl
  · intro g' hg'
    rw [List.countP_append, h.never g' fun hr => hg' ((released_iff g').mpr hr)]
    rfl
  · intro g' ans hmem
    exact h.dropped g' ans (by simpa using hmem)

variable {g : ℕ} {s' : Attempts}

/-- A guard gives its identity back, whatever becomes of it then. -/
theorem guardInv_released (h : GuardInv log s) (hg : s.guards.lookup g = some ⟨attempt, false⟩)
    (hadm : ∀ g' identity, ¬ Admitted g' identity e)
    (hrel : ∀ g' identity, Released g' identity e ↔ g = g' ∧ attempt.identity = identity)
    (hcount : ∀ g', isRelease g' e = decide (g = g'))
    (hactive : s'.policy.activeIdentities = s.policy.activeIdentities.erase attempt.identity)
    (hholds : ∀ g' identity, Holds s' g' identity ↔ g' ≠ g ∧ Holds s g' identity)
    (hreleased : ∀ g', HasReleased s' g' ↔ g' = g ∨ HasReleased s g')
    (hfresh : ∀ g' ∈ s'.gone, s'.guards.lookup g' = none)
    (hdropped : ∀ g' ans, (Action.drop g', ans) = e → g' ∈ s'.gone) (hgone : s.gone ⊆ s'.gone) :
    GuardInv (log ++ [e]) s' := by
  have hheld : Holds s g attempt.identity := ⟨attempt, hg, rfl⟩
  have hnot : ¬ HasReleased s g := by
    rintro (hgone | ⟨a, ha⟩)
    · rw [h.fresh g hgone] at hg
      cases hg
    · rw [ha] at hg
      cases hg
  refine ⟨?_, ?_, ?_, hfresh, ?_, ?_, ?_⟩
  · intro g' identity
    rw [since_snoc, h.live, hholds, hrel]
    constructor
    · rintro (hbad | ⟨hn, hh⟩)
      · exact absurd hbad (hadm _ _)
      · refine ⟨?_, hh⟩
        rintro rfl
        obtain ⟨a, ha, hid⟩ := hh
        rw [hg] at ha
        cases ha
        exact hn ⟨rfl, hid⟩
    · rintro ⟨hne, hh⟩
      exact .inr ⟨fun hc => hne hc.1.symm, hh⟩
  · intro identity
    rw [hactive, Finset.mem_erase, h.active]
    constructor
    · rintro ⟨hne, g', hh⟩
      refine ⟨g', (hholds _ _).mpr ⟨?_, hh⟩⟩
      rintro rfl
      obtain ⟨a, ha, hid⟩ := hh
      rw [hg] at ha
      cases ha
      exact hne hid.symm
    · rintro ⟨g', hh⟩
      obtain ⟨hne, hh⟩ := (hholds _ _).mp hh
      refine ⟨?_, g', hh⟩
      rintro rfl
      exact hne (h.unique _ _ _ hh hheld)
  · intro g₁ g₂ identity h₁ h₂
    exact h.unique _ _ _ ((hholds _ _).mp h₁).2 ((hholds _ _).mp h₂).2
  · intro g' hg'
    rw [List.countP_append, List.countP_singleton, hcount]
    rcases (hreleased g').mp hg' with rfl | hg'
    · rw [h.never _ hnot]
      simp
    · have hne : g ≠ g' := by
        rintro rfl
        exact hnot hg'
      rw [h.once _ hg']
      simp [hne]
  · intro g' hg'
    have hne : g ≠ g' := fun heq => hg' ((hreleased g').mpr (Or.inl heq.symm))
    rw [List.countP_append, List.countP_singleton, hcount,
      h.never _ fun hr => hg' ((hreleased g').mpr (Or.inr hr))]
    simp [hne]
  · intro g' ans hmem
    rcases List.mem_append.mp hmem with hmem | hmem
    · exact hgone (h.dropped g' ans hmem)
    · exact hdropped g' ans (List.mem_singleton.mp hmem)

/-- The destructor of a finished guard releases nothing. -/
theorem guardInv_dropped (h : GuardInv log s) (hg : s.guards.lookup g = some ⟨attempt, true⟩) :
    GuardInv (log ++ [(.drop g, .dropped)])
      { s with guards := s.guards.erase g, gone := insert g s.gone } := by
  have holds_iff : ∀ g' identity,
      Holds { s with guards := s.guards.erase g, gone := insert g s.gone } g' identity ↔
        Holds s g' identity := by
    intro g' identity
    unfold Holds
    dsimp only
    rw [Table.lookup_erase_ite]
    by_cases hgg : g' = g
    · subst hgg
      simp [hg]
    · simp [hgg]
  have released_iff : ∀ g',
      HasReleased { s with guards := s.guards.erase g, gone := insert g s.gone } g' ↔
        HasReleased s g' := by
    intro g'
    unfold HasReleased
    dsimp only
    rw [Table.lookup_erase_ite]
    by_cases hgg : g' = g
    · subst hgg
      simp [hg]
    · simp [hgg]
  refine ⟨?_, ?_, ?_, ?_, ?_, ?_, ?_⟩
  · intro g' identity
    rw [since_snoc, h.live, holds_iff]
    simp [Admitted, Released]
  · intro identity
    rw [h.active]
    exact exists_congr fun g' => (holds_iff g' identity).symm
  · intro g₁ g₂ identity h₁ h₂
    exact h.unique _ _ _ ((holds_iff _ _).mp h₁) ((holds_iff _ _).mp h₂)
  · intro g' hg'
    rw [Table.lookup_erase_ite]
    rcases Finset.mem_insert.mp hg' with rfl | hg'
    · rw [if_pos rfl]
    · rw [h.fresh g' hg', ite_self]
  · intro g' hg'
    rw [List.countP_append, h.once g' ((released_iff g').mp hg')]
    rfl
  · intro g' hg'
    rw [List.countP_append, h.never g' fun hr => hg' ((released_iff g').mpr hr)]
    rfl
  · intro g' ans hmem
    rcases List.mem_append.mp hmem with hmem | hmem
    · exact Finset.mem_insert_of_mem (h.dropped g' ans hmem)
    · cases List.mem_singleton.mp hmem
      exact Finset.mem_insert_self g s.gone

theorem guardInv_step {act : Action} {ans : Answer} (h : GuardInv log s)
    (hstep : step s act = some (s', ans)) : GuardInv (log ++ [(act, ans)]) s' := by
  rcases step_cases hstep with ⟨g, attempt, now, r, rfl, rfl, -, hg, hgone, hr, rfl⟩ |
    ⟨g, reason, succeeded, now, attempt, rfl, rfl, -, hg, rfl⟩ | ⟨g, attempt, rfl, rfl, hg, rfl⟩ |
    ⟨g, attempt, rfl, rfl, hg, rfl⟩
  · obtain ⟨-, -, hactive⟩ := s.policy.admitAttempt_policy attempt now
    rw [hr] at hactive
    rcases r with why | ⟨⟩
    · exact guardInv_refused h g attempt now why _ hactive
    · have hidle : attempt.identity ∉ s.policy.activeIdentities := by
        intro hmem
        unfold ConnectAttemptPolicy.admitAttempt at hr
        dsimp only at hr
        rw [if_pos (show attempt.identity ∈ (s.policy.prune now).activeIdentities from hmem)] at hr
        cases hr
      exact guardInv_admitted h g attempt now _ hg hgone hidle hactive
  · -- finish: the guard stays, marked
    refine guardInv_released h hg (by simp [Admitted]) (by simp [Released]) (by simp [isRelease])
      (s.policy.complete_activeIdentities attempt reason succeeded now) ?_ ?_ ?_ (by simp)
      (Finset.Subset.refl _)
    · intro g' identity
      unfold Holds
      dsimp only
      rw [Table.lookup_insert_ite]
      by_cases hgg : g' = g <;> simp [hgg]
    · intro g'
      unfold HasReleased
      dsimp only
      rw [Table.lookup_insert_ite]
      by_cases hgg : g' = g <;> simp [hgg]
    · intro g' hg'
      have hne : g' ≠ g := by
        rintro rfl
        rw [h.fresh g' hg'] at hg
        cases hg
      rw [Table.lookup_insert_ite, if_neg hne]
      exact h.fresh g' hg'
  · -- drop of an unfinished guard, as on unwinding
    refine guardInv_released h hg (by simp [Admitted]) (by simp [Released]) (by simp [isRelease])
      rfl ?_ ?_ ?_ (by simp) (Finset.subset_insert g s.gone)
    · intro g' identity
      unfold Holds
      dsimp only
      rw [Table.lookup_erase_ite]
      by_cases hgg : g' = g <;> simp [hgg]
    · intro g'
      unfold HasReleased
      dsimp only
      rw [Table.lookup_erase_ite]
      by_cases hgg : g' = g <;> simp [hgg]
    · intro g' hg'
      rw [Table.lookup_erase_ite]
      rcases Finset.mem_insert.mp hg' with rfl | hg'
      · rw [if_pos rfl]
      · rw [h.fresh g' hg', ite_self]
  · exact guardInv_dropped h hg

/-- A step that completes no attempt changes the two tables only by pruning. -/
theorem policyInv_other (h : PolicyInv log s) (hsucc : ∀ identity, ¬ Succeeded identity e)
    (hfail : ∀ identity, ¬ CredentialFailure identity e)
    (hwrong : ∀ identity fingerprint t, ¬ WrongPassword identity fingerprint t e)
    (hclock : s.clock ≤ s'.clock) (hstale : s'.policy.staleCredentials = s.policy.staleCredentials)
    (hdeadline : ∀ identity fingerprint now, s'.clock ≤ now →
      ((∃ d, s'.policy.deadline identity fingerprint = some d ∧ now < d) ↔
        ∃ d, s.policy.deadline identity fingerprint = some d ∧ now < d)) :
    PolicyInv (log ++ [e]) s' where
  stale identity := by
    rw [hstale, h.stale, Stale, Stale, since_snoc]
    simp [hsucc, hfail]
  blocked identity fingerprint now hnow := by
    rw [blocked_snoc, hdeadline _ _ _ hnow, ← h.blocked _ _ _ (le_trans hclock hnow)]
    simp [hsucc, hwrong]
  times identity fingerprint t ht := by
    rw [since_snoc] at ht
    rcases ht with ht | ⟨-, ht⟩
    · exact absurd ht (hwrong _ _ _)
    · exact le_trans (h.times _ _ _ ht) hclock

theorem policyInv_completed (h : PolicyInv log s) (g : ℕ) (reason : Option ConnectFailureReason)
    (succeeded : Bool) (now : Instant) (attempt : ConnectAttemptKey) (hnow : s.clock ≤ now) :
    PolicyInv (log ++ [(.finish g reason succeeded now, .completed attempt)])
      { s with
        policy := s.policy.complete attempt reason succeeded now
        guards := s.guards.insert g ⟨attempt, true⟩
        clock := now } := by
  refine ⟨?_, ?_, ?_⟩
  · intro identity
    dsimp only
    rw [Stale, since_snoc, s.policy.complete_staleCredentials, ← Stale, ← h.stale]
    cases succeeded with
    | true =>
      rw [if_pos rfl, Finset.mem_erase]
      simp [CredentialFailure, Succeeded, eq_comm]
    | false =>
      rw [if_neg Bool.false_ne_true]
      rcases reason with _ | _ | _ | _ | _ | _ | _ | _ | _ | _ | _ | _ <;>
        simp [CredentialFailure, Succeeded, ConnectAttemptPolicy.isCredentialFailure, eq_comm]
  · intro identity fingerprint t ht
    dsimp only at ht ⊢
    rw [blocked_snoc, s.policy.complete_deadline, h.blocked _ _ _ (le_trans hnow ht)]
    cases succeeded with
    | true =>
      rw [if_pos rfl]
      by_cases hid : identity = attempt.identity
      · simp [WrongPassword, Succeeded, hid]
      · simp [WrongPassword, Succeeded, hid, Ne.symm hid]
    | false =>
      rw [if_neg Bool.false_ne_true]
      by_cases hnew : reason = some .wrongPassword ∧ identity = attempt.identity ∧
          fingerprint = attempt.credentialFingerprint
      · -- the new deadline is the latest: earlier ones were recorded at earlier times
        obtain ⟨rfl, rfl, rfl⟩ := hnew
        rw [if_pos ⟨rfl, rfl, rfl⟩, ← h.blocked _ _ _ (le_trans hnow ht)]
        constructor
        · rintro (⟨t', ⟨-, -, rfl⟩, hlt⟩ | ⟨-, t', ht', hlt⟩)
          · exact ⟨_, rfl, hlt⟩
          · have := h.times _ _ _ ht'
            exact ⟨_, rfl, lt_of_lt_of_le hlt (Nat.add_le_add_right (le_trans this hnow) _)⟩
        · rintro ⟨d, hd, hlt⟩
          cases hd
          exact .inl ⟨now, ⟨rfl, rfl, rfl⟩, hlt⟩
      · rw [if_neg hnew]
        have hno : ∀ t', ¬ WrongPassword identity fingerprint t'
            (.finish g reason false now, .completed attempt) := by
          intro t' hw
          rcases reason with _ | _ | _ | _ | _ | _ | _ | _ | _ | _ | _ | _ <;>
            simp only [WrongPassword] at hw
          exact hnew ⟨rfl, hw.1.symm, hw.2.1.symm⟩
        simp [hno, Succeeded]
  · intro identity fingerprint t ht
    rw [since_snoc] at ht
    rcases ht with ht | ⟨-, ht⟩
    · rcases reason with _ | _ | _ | _ | _ | _ | _ | _ | _ | _ | _ | _ <;> cases succeeded <;>
        simp only [WrongPassword] at ht
      exact le_of_eq ht.2.2.symm
    · exact le_trans (h.times _ _ _ ht) hnow

theorem policyInv_step {act : Action} {ans : Answer} (h : PolicyInv log s)
    (hstep : step s act = some (s', ans)) : PolicyInv (log ++ [(act, ans)]) s' := by
  rcases step_cases hstep with ⟨g, attempt, now, r, rfl, rfl, hnow, -, -, -, rfl⟩ |
    ⟨g, reason, succeeded, now, attempt, rfl, rfl, hnow, -, rfl⟩ | ⟨g, attempt, rfl, rfl, -, rfl⟩ |
    ⟨g, attempt, rfl, rfl, -, rfl⟩
  · obtain ⟨hstale, hdeadline, -⟩ := s.policy.admitAttempt_policy attempt now
    refine policyInv_other h (by simp [Succeeded]) (by simp [CredentialFailure])
      (by simp [WrongPassword]) hnow hstale ?_
    intro identity fingerprint t ht
    dsimp only at ht ⊢
    rw [hdeadline, ConnectAttemptPolicy.deadline_prune]
    rcases s.policy.deadline identity fingerprint with _ | d
    · simp
    · -- a pruned deadline had passed already
      by_cases hd : now < d
      · simp [Option.filter, hd]
      · simp only [Option.filter, hd, decide_false, Bool.false_eq_true, if_false, reduceCtorEq,
          false_and, exists_false, Option.some.injEq, exists_eq_left', false_iff, not_lt]
        exact le_trans (not_lt.mp hd) ht
  · exact policyInv_completed h g reason succeeded now attempt hnow
  · exact policyInv_other h (by simp [Succeeded]) (by simp [CredentialFailure])
      (by simp [WrongPassword]) (le_refl _) rfl fun _ _ _ _ => Iff.rfl
  · exact policyInv_other h (by simp [Succeeded]) (by simp [CredentialFailure])
      (by simp [WrongPassword]) (le_refl _) rfl fun _ _ _ _ => Iff.rfl

theorem guardInv_run (h : attempts.Reaches log s) : GuardInv log s :=
  h.invariant GuardInv guardInv_start fun _ _ _ _ _ _ hI hstep => guardInv_step hI hstep

theorem policyInv_run (h : attempts.Reaches log s) : PolicyInv log s :=
  h.invariant PolicyInv policyInv_start fun _ _ _ _ _ _ hI hstep => policyInv_step hI hstep

/-! ## The answers are those of the history -/

theorem live_iff_active (h : GuardInv log s) (identity : String) :
    Live log identity ↔ identity ∈ s.policy.activeIdentities := by
  rw [h.active]
  exact exists_congr fun g => h.live g identity

/-- A deadline that has not passed is the time left. -/
theorem timeLeft_of_deadline (h : PolicyInv log s) {d : Instant} (hnow : s.clock ≤ now)
    (hd : s.policy.deadline attempt.identity attempt.credentialFingerprint = some d) (hlt : now < d) :
    TimeLeft log attempt now (d - now) := by
  have key : ∀ t, now ≤ t →
      (Blocked log attempt.identity attempt.credentialFingerprint t ↔ t < d) := by
    intro t ht
    rw [h.blocked _ _ _ (le_trans hnow ht), hd]
    simp
  refine ⟨Nat.sub_pos_of_lt hlt, fun d' hd' => (key _ (Nat.le_add_right _ _)).mpr ?_, fun hb => ?_⟩
  · exact Nat.add_lt_of_lt_sub' hd'
  · have := (key _ (Nat.le_add_right _ _)).mp hb
    rw [Nat.add_sub_cancel' (le_of_lt hlt)] at this
    exact lt_irrefl d this

theorem admitAttempt_decides (hg : GuardInv log s) (hp : PolicyInv log s)
    (attempt : ConnectAttemptKey) (hnow : s.clock ≤ now) :
    Decides log attempt now (s.policy.admitAttempt attempt now).2 := by
  unfold ConnectAttemptPolicy.admitAttempt
  dsimp only
  split
  · rename_i hmem
    exact (live_iff_active hg _).mpr hmem
  · rename_i hmem
    have hidle : ¬ Live log attempt.identity := fun hl => hmem ((live_iff_active hg _).mp hl)
    split
    · rename_i hstale
      exact ⟨hidle, (hp.stale _).mp hstale.1, hstale.2⟩
    · rename_i hstale
      have hcred : attempt.suppliedCredentials = true ∨ ¬ Stale log attempt.identity := by
        rcases hsupp : attempt.suppliedCredentials with _ | _
        · exact .inr fun hst => hstale ⟨(hp.stale _).mpr hst, hsupp⟩
        · exact .inl rfl
      rw [ConnectAttemptPolicy.deadline_prune]
      rcases hd : s.policy.deadline attempt.identity attempt.credentialFingerprint with _ | d
      · refine ⟨hidle, hcred, fun hb => ?_⟩
        obtain ⟨d, hd', -⟩ := (hp.blocked _ _ _ hnow).mp hb
        rw [hd] at hd'
        cases hd'
      · by_cases hlt : now < d
        · simp only [Option.filter, hlt, decide_true, if_true]
          exact ⟨hidle, hcred, timeLeft_of_deadline hp hnow hd hlt⟩
        · simp only [Option.filter, hlt, decide_false, Bool.false_eq_true, if_false]
          refine ⟨hidle, hcred, fun hb => ?_⟩
          obtain ⟨d', hd', hlt'⟩ := (hp.blocked _ _ _ hnow).mp hb
          rw [hd] at hd'
          cases hd'
          exact hlt hlt'

theorem Admitted.concerns (h : Admitted g identity e) : concerns identity e = true := by
  unfold Admitted at h
  split at h
  · exact decide_eq_true h.2
  · exact h.elim

theorem Released.concerns (h : Released g identity e) : concerns identity e = true := by
  unfold Released at h
  split at h
  · exact decide_eq_true h.2
  · exact decide_eq_true h.2
  · exact h.elim

theorem Succeeded.concerns (h : Succeeded identity e) : concerns identity e = true := by
  unfold Succeeded at h
  split at h
  · exact decide_eq_true h
  · exact h.elim

theorem CredentialFailure.concerns (h : CredentialFailure identity e) :
    concerns identity e = true := by
  unfold CredentialFailure at h
  split at h
  all_goals first | exact decide_eq_true h | exact h.elim

theorem WrongPassword.concerns {fingerprint : UInt64} {t : Instant}
    (h : WrongPassword identity fingerprint t e) : concerns identity e = true := by
  unfold WrongPassword at h
  split at h
  · exact decide_eq_true h.1
  · exact h.elim

/-- The rules only look at the entries of their own identity. -/
theorem decides_concerns {log' : List Entry}
    (h : log.filter (concerns attempt.identity) = log'.filter (concerns attempt.identity))
    (r : Except ConnectAdmission Unit) :
    Decides log attempt now r ↔ Decides log' attempt now r := by
  have hsince : ∀ P Q : Entry → Prop, (∀ e, P e → concerns attempt.identity e = true) →
      (∀ e, Q e → concerns attempt.identity e = true) → (Since P Q log ↔ Since P Q log') := by
    intro P Q hP hQ
    rw [← since_filter _ hP hQ log, h, since_filter _ hP hQ log']
  have hlive : Live log attempt.identity ↔ Live log' attempt.identity :=
    exists_congr fun g => hsince _ _ (fun _ => Admitted.concerns) fun _ => Released.concerns
  have hstale : Stale log attempt.identity ↔ Stale log' attempt.identity :=
    hsince _ _ (fun _ => CredentialFailure.concerns) fun _ => Succeeded.concerns
  have hblocked : ∀ t, Blocked log attempt.identity attempt.credentialFingerprint t ↔
      Blocked log' attempt.identity attempt.credentialFingerprint t := fun t =>
    exists_congr fun t' => and_congr_left fun _ =>
      hsince _ _ (fun _ => WrongPassword.concerns) fun _ => Succeeded.concerns
  rcases r with (_ | d | _) | ⟨⟩ <;> simp only [Decides, TimeLeft, hlive, hstale, hblocked]

/-- **Admission is a function of the history.** In every run, over any number of
identities: an attempt is answered by the three rules over what happened before
it; a guard gives its identity back at most once, and exactly once by the time it
is dropped; and two histories that agree on the entries of an identity answer its
attempts alike. -/
theorem connect_admission_history {log : List Entry} {s : Attempts}
    (h : attempts.Run attempts.start log s) :
    (∀ pre post g attempt now answer,
      log = pre ++ (.begin g attempt now, .decided answer) :: post →
      ∀ r, answer = r ↔ Decides pre attempt now r) ∧
    (∀ g, log.countP (isRelease g) ≤ 1 ∧
      ((∃ ans, (Action.drop g, ans) ∈ log) → log.countP (isRelease g) = 1)) ∧
    (∀ (log' : List Entry) (s' : Attempts) (attempt : ConnectAttemptKey) (now : Instant),
      attempts.Run attempts.start log' s' →
      log.filter (concerns attempt.identity) = log'.filter (concerns attempt.identity) →
      s.clock ≤ now → s'.clock ≤ now →
      (s.policy.admitAttempt attempt now).2 = (s'.policy.admitAttempt attempt now).2) := by
  refine ⟨?_, ?_, ?_⟩
  · rintro pre post g attempt now answer rfl r
    obtain ⟨t, t', hpre, hstep, -⟩ := h.step_at
    have hstep : step t (.begin g attempt now) = some (t', .decided answer) := hstep
    have hdec : Decides pre attempt now answer := by
      rcases step_cases hstep with ⟨g', attempt', now', r', hact, hans, hnow, -, -, hr, -⟩ |
        ⟨_, _, _, _, _, hact, -⟩ | ⟨_, _, hact, -⟩ | ⟨_, _, hact, -⟩ <;> cases hact
      cases hans
      rw [← hr]
      exact admitAttempt_decides (guardInv_run hpre) (policyInv_run hpre) attempt hnow
    constructor
    · rintro rfl
      exact hdec
    · intro hr
      exact hdec.unique hr
  · intro g
    have hI := guardInv_run h
    by_cases hr : HasReleased s g
    · rw [hI.once g hr]
      exact ⟨le_refl 1, fun _ => rfl⟩
    · rw [hI.never g hr]
      exact ⟨Nat.zero_le 1, fun ⟨ans, hmem⟩ => absurd (Or.inl (hI.dropped g ans hmem)) hr⟩
  · intro log' s' attempt now h' hsame hnow hnow'
    have hd := admitAttempt_decides (guardInv_run h) (policyInv_run h) attempt hnow
    have hd' := admitAttempt_decides (guardInv_run h') (policyInv_run h') attempt hnow'
    exact hd.unique ((decides_concerns hsame _).mpr hd')

/-- A wrong password two nanoseconds ago leaves all but two of the delay. -/
theorem connect_admission_history_wrong_password :
    let cafe : ConnectAttemptKey := ⟨"cafe", 7, true⟩
    Decides
      [(.begin 0 cafe 0, .decided (.ok ())),
        (.finish 0 (some .wrongPassword) false 5, .completed cafe)]
      cafe 7 (.error (.retryAfter 9999999998)) := by
  intro cafe
  have h := Machine.exec_run attempts attempts.start
    [.begin 0 cafe 0, .finish 0 (some .wrongPassword) false 5, .begin 1 cafe 7] rfl
  exact ((connect_admission_history h).1 [_, _] [] 1 cafe 7 _ rfl _).mp rfl

end Admission

end NmDaemon
