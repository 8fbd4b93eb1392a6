import Mathlib.Data.Finset.Basic
import NmDaemon.Base.Machine
import NmDaemon.Base.Table

/-!
# Connection admission

`daemon_runtime/admission.rs`: one policy, behind one mutex, decides whether a
connect attempt may start. It keeps three tables that are pruned as it goes —
the identities with a live attempt, the deadlines before which a wrong password
may not be tried again, and the identities whose saved credentials failed — and
hands out guards that give an identity back when they finish or are dropped.

The policy is translated first, then the shared object with its callers
(`attempts`, a machine with one action per critical section), and then come the
lemmas that say what each operation does to each table.

Instants and durations are numbers of nanoseconds of the monotonic clock.
-/

namespace NmDaemon

namespace Admission

/-- A reading of the monotonic clock. -/
abbrev Instant : Type := ℕ

/-- A span of time. -/
abbrev Duration : Type := ℕ

/-- Ten seconds. -/
def wrongPasswordRetryDelay : Duration := 10 * 1000000000

/-- Why a connection failed (`model.rs`). -/
inductive ConnectFailureReason : Type where
  | secretRequired
  | wrongPassword
  | passwordUnavailable
  | authorizationRequired
  | unsupportedAuth
  | validationError
  | notFound
  | timeout
  | dhcpFailed
  | activationFailed
  | unknown
  deriving DecidableEq

/-- What admission knows of an attempt: whom it is for, a hash of everything it
was asked with, and whether credentials were among it. -/
structure ConnectAttemptKey : Type where
  identity : String
  credentialFingerprint : UInt64
  suppliedCredentials : Bool

/-- The policy's three tables. -/
structure ConnectAttemptPolicy : Type where
  /-- identities with a live attempt -/
  activeIdentities : Finset String
  /-- per identity and fingerprint, when a rejected password may be tried again -/
  blockedUntil : Table String (Table UInt64 Instant)
  /-- identities whose credentials failed since their last success -/
  staleCredentials : Finset String

/-- Why an attempt is refused. -/
inductive ConnectAdmission : Type where
  | active
  | retryAfter (delay : Duration)
  | credentialsRequired
  deriving DecidableEq

namespace ConnectAttemptPolicy

/-- The empty policy. -/
def empty : ConnectAttemptPolicy := ⟨∅, ∅, ∅⟩

/-- The deadlines of one identity that have not passed, if there are any. -/
def retainFingerprints (now : Instant) (fingerprints : Table UInt64 Instant) :
    Option (Table UInt64 Instant) :=
  let kept := fingerprints.filterMap fun _ deadline =>
    if deadline > now then some deadline else none
  if kept.entries.isEmpty then none else some kept

section

variable (policy : ConnectAttemptPolicy)

/-- The pruning that `admitAttempt` begins with. -/
def prune (now : Instant) : ConnectAttemptPolicy :=
  { policy with
    blockedUntil := policy.blockedUntil.filterMap fun _ => retainFingerprints now }

/-- The deadline recorded for an identity and a fingerprint. -/
def deadline (identity : String) (fingerprint : UInt64) : Option Instant :=
  (policy.blockedUntil.lookup identity).bind fun fingerprints => fingerprints.lookup fingerprint

/-- Decide about an attempt; the pruned policy is kept in either case. -/
def admitAttempt (attempt : ConnectAttemptKey) (now : Instant) :
    ConnectAttemptPolicy × Except ConnectAdmission Unit :=
  let policy := policy.prune now
  if attempt.identity ∈ policy.activeIdentities then
    (policy, .error .active)
  else if attempt.identity ∈ policy.staleCredentials ∧ attempt.suppliedCredentials = false then
    (policy, .error .credentialsRequired)
  else
    match policy.deadline attempt.identity attempt.credentialFingerprint with
    | some deadline => (policy, .error (.retryAfter (deadline - now)))
    | none =>
      ({ policy with activeIdentities := insert attempt.identity policy.activeIdentities }, .ok ())

/-- Give the identity back. -/
def abandon (attempt : ConnectAttemptKey) : ConnectAttemptPolicy :=
  { policy with activeIdentities := policy.activeIdentities.erase attempt.identity }

/-- The failures after which saved credentials are not tried again. -/
def isCredentialFailure : Option ConnectFailureReason → Bool
  | some .wrongPassword | some .passwordUnavailable | some .secretRequired => true
  | _ => false

/-- Give the identity back and learn from the outcome. -/
def complete (attempt : ConnectAttemptKey)
    (reason : Option ConnectFailureReason) (succeeded : Bool) (now : Instant) :
    ConnectAttemptPolicy :=
  let policy := policy.abandon attempt
  if succeeded then
    { policy with
      staleCredentials := policy.staleCredentials.erase attempt.identity
      blockedUntil := policy.blockedUntil.erase attempt.identity }
  else
    let policy :=
      if isCredentialFailure reason then
        { policy with staleCredentials := insert attempt.identity policy.staleCredentials }
      else policy
    if reason = some .wrongPassword then
      let fingerprints := (policy.blockedUntil.lookup attempt.identity).getD ∅
      { policy with
        blockedUntil := policy.blockedUntil.insert attempt.identity
          (fingerprints.insert attempt.credentialFingerprint (now + wrongPasswordRetryDelay)) }
    else policy

end

end ConnectAttemptPolicy

/-- A guard holds its identity until it is finished or dropped. -/
structure ConnectAttemptGuard : Type where
  attempt : ConnectAttemptKey
  finished : Bool

/-! ## The shared object and its callers

Guards are named by whoever creates them, so that a history of one identity does
not depend on how many guards others hold. `drop` is also what unwinding does. -/

/-- The mutex's content, the guards that exist, and the last clock reading. -/
structure Attempts : Type where
  policy : ConnectAttemptPolicy
  guards : Table ℕ ConnectAttemptGuard
  /-- names of guards that no longer exist -/
  gone : Finset ℕ
  clock : Instant

/-- One critical section of a caller. -/
inductive Action : Type where
  /-- `ConnectAttempts::begin`, to create the guard `g` -/
  | begin (g : ℕ) (attempt : ConnectAttemptKey) (now : Instant)
  /-- `ConnectAttemptGuard::finish` -/
  | finish (g : ℕ) (reason : Option ConnectFailureReason) (succeeded : Bool) (now : Instant)
  /-- the guard's destructor -/
  | drop (g : ℕ)

/-- What the action did. -/
inductive Answer : Type where
  | decided (result : Except ConnectAdmission Unit)
  | completed (attempt : ConnectAttemptKey)
  | abandoned (attempt : ConnectAttemptKey)
  | dropped

/-- One entry of a history. -/
abbrev Entry : Type := Action × Answer

/-- The step function. Clock readings are taken under the lock, so they do not
decrease; `finish` consumes a guard, so it happens once and before the drop. -/
def step (s : Attempts) : Action → Option (Attempts × Answer)
  | .begin g attempt now =>
    if now < s.clock ∨ g ∈ s.guards ∨ g ∈ s.gone then none
    else
      match s.policy.admitAttempt attempt now with
      | (policy, .ok ()) =>
        some ({ s with policy, guards := s.guards.insert g ⟨attempt, false⟩, clock := now },
          .decided (.ok ()))
      | (policy, .error why) => some ({ s with policy, clock := now }, .decided (.error why))
  | .finish g reason succeeded now =>
    if now < s.clock then none
    else
      match s.guards.lookup g with
      | some ⟨attempt, false⟩ =>
        some ({ s with
          policy := s.policy.complete attempt reason succeeded now
          guards := s.guards.insert g ⟨attempt, true⟩
          clock := now }, .completed attempt)
      | _ => none
  | .drop g =>
    match s.guards.lookup g with
    | some ⟨attempt, false⟩ =>
      some ({ s with
        policy := s.policy.abandon attempt
        guards := s.guards.erase g
        gone := insert g s.gone }, .abandoned attempt)
    | some ⟨_, true⟩ =>
      some ({ s with guards := s.guards.erase g, gone := insert g s.gone }, .dropped)
    | none => none

/-- `ConnectAttempts` from its default on. -/
def attempts : Machine Attempts Action Answer where
  start := ⟨.empty, ∅, ∅, 0⟩
  step := step

/-! ## The tables, one operation at a time -/

namespace ConnectAttemptPolicy

theorem lookup_retainFingerprints (now : Instant) (fingerprints : Table UInt64 Instant)
    (fingerprint : UInt64) :
    ((retainFingerprints now fingerprints).bind fun kept => kept.lookup fingerprint) =
      (fingerprints.lookup fingerprint).filter fun deadline => now < deadline := by
  have hkept : (fingerprints.filterMap fun _ deadline =>
        if deadline > now then some deadline else none).lookup fingerprint =
      (fingerprints.lookup fingerprint).filter fun deadline => now < deadline := by
    rw [Table.lookup_filterMap]
    rcases fingerprints.lookup fingerprint with _ | deadline
    · rfl
    · by_cases h : now < deadline <;> simp [Option.filter, h]
  unfold retainFingerprints
  dsimp only
  split
  · -- nothing was kept, so nothing is found either
    rename_i hempty
    rw [← hkept, Option.bind_none, AList.lookup, List.isEmpty_iff.mp hempty]
    rfl
  · exact hkept

section

variable (policy : ConnectAttemptPolicy)

theorem deadline_prune (now : Instant) (identity : String) (fingerprint : UInt64) :
    (policy.prune now).deadline identity fingerprint =
      (policy.deadline identity fingerprint).filter fun deadline => now < deadline := by
  unfold deadline prune
  dsimp only
  rw [Table.lookup_filterMap]
  rcases policy.blockedUntil.lookup identity with _ | fingerprints
  · rfl
  · exact lookup_retainFingerprints now fingerprints fingerprint

/-- What an admission leaves behind: the pruned tables, and the identity if the
attempt may start. -/
theorem admitAttempt_policy (attempt : ConnectAttemptKey) (now : Instant) :
    (policy.admitAttempt attempt now).1.staleCredentials = policy.staleCredentials ∧
    (∀ identity fingerprint, (policy.admitAttempt attempt now).1.deadline identity fingerprint =
      (policy.prune now).deadline identity fingerprint) ∧
    (policy.admitAttempt attempt now).1.activeIdentities =
      match (policy.admitAttempt attempt now).2 with
      | .ok () => insert attempt.identity policy.activeIdentities
      | .error _ => policy.activeIdentities := by
  unfold admitAttempt
  dsimp only
  split
  · exact ⟨rfl, fun _ _ => rfl, rfl⟩
  · split
    · exact ⟨rfl, fun _ _ => rfl, rfl⟩
    · split
      · exact ⟨rfl, fun _ _ => rfl, rfl⟩
      · exact ⟨rfl, fun _ _ => rfl, rfl⟩

theorem complete_activeIdentities (attempt : ConnectAttemptKey)
    (reason : Option ConnectFailureReason) (succeeded : Bool) (now : Instant) :
    (policy.complete attempt reason succeeded now).activeIdentities =
      policy.activeIdentities.erase attempt.identity := by
  unfold complete abandon
  dsimp only
  split_ifs <;> rfl

theorem complete_staleCredentials (attempt : ConnectAttemptKey)
    (reason : Option ConnectFailureReason) (succeeded : Bool) (now : Instant) :
    (policy.complete attempt reason succeeded now).staleCredentials =
      if succeeded then policy.staleCredentials.erase attempt.identity
      else if isCredentialFailure reason then insert attempt.identity policy.staleCredentials
      else policy.staleCredentials := by
  unfold complete abandon
  dsimp only
  split_ifs <;> rfl

theorem complete_deadline (attempt : ConnectAttemptKey)
    (reason : Option ConnectFailureReason) (succeeded : Bool) (now : Instant)
    (identity : String) (fingerprint : UInt64) :
    (policy.complete attempt reason succeeded now).deadline identity fingerprint =
      if succeeded then
        if identity = attempt.identity then none else policy.deadline identity fingerprint
      else if reason = some .wrongPassword ∧ identity = attempt.identity ∧
          fingerprint = attempt.credentialFingerprint then
        some (now + wrongPasswordRetryDelay)
      else policy.deadline identity fingerprint := by
  cases succeeded with
  | true =>
    have : (policy.complete attempt reason true now).blockedUntil =
        policy.blockedUntil.erase attempt.identity := rfl
    rw [if_pos rfl, deadline, this, Table.lookup_erase_ite]
    by_cases hid : identity = attempt.identity
    · rw [if_pos hid, if_pos hid, Option.bind_none]
    · rw [if_neg hid, if_neg hid, deadline]
  | false =>
    rw [if_neg Bool.false_ne_true]
    by_cases hr : reason = some .wrongPassword
    · -- the only outcome that records a deadline
      have : (policy.complete attempt reason false now).blockedUntil =
          policy.blockedUntil.insert attempt.identity
            (((policy.blockedUntil.lookup attempt.identity).getD ∅).insert
              attempt.credentialFingerprint (now + wrongPasswordRetryDelay)) := by
        subst hr
        rfl
      rw [deadline, this, Table.lookup_insert_ite]
      by_cases hid : identity = attempt.identity
      · subst hid
        rw [if_pos rfl, Option.bind_some, Table.lookup_insert_ite]
        by_cases hfp : fingerprint = attempt.credentialFingerprint
        · rw [if_pos hfp, if_pos ⟨hr, rfl, hfp⟩]
        · rw [if_neg hfp, if_neg fun h => hfp h.2.2, deadline]
          rcases policy.blockedUntil.lookup attempt.identity with _ | fingerprints <;> rfl
      · rw [if_neg hid, if_neg fun h => hid h.2.1, deadline]
    · have : (policy.complete attempt reason false now).blockedUntil = policy.blockedUntil := by
        unfold complete abandon
        dsimp only
        rw [if_neg Bool.false_ne_true, if_neg hr]
        split_ifs <;> rfl
      rw [deadline, this, if_neg fun h => hr h.1, deadline]

end

end ConnectAttemptPolicy

/-- Everything a step can do. -/
theorem step_cases {s s' : Attempts} {act : Action} {ans : Answer}
    (h : step s act = some (s', ans)) :
    (∃ g attempt now r, act = .begin g attempt now ∧ ans = .decided r ∧ s.clock ≤ now ∧
      g ∉ s.guards ∧ g ∉ s.gone ∧ (s.policy.admitAttempt attempt now).2 = r ∧
      s' = { s with
        policy := (s.policy.admitAttempt attempt now).1
        guards := if r = .ok () then s.guards.insert g ⟨attempt, false⟩ else s.guards
        clock := now }) ∨
    (∃ g reason succeeded now attempt, act = .finish g reason succeeded now ∧
      ans = .completed attempt ∧ s.clock ≤ now ∧ s.guards.lookup g = some ⟨attempt, false⟩ ∧
      s' = { s with
        policy := s.policy.complete attempt reason succeeded now
        guards := s.guards.insert g ⟨attempt, true⟩
        clock := now }) ∨
    (∃ g attempt, act = .drop g ∧ ans = .abandoned attempt ∧
      s.guards.lookup g = some ⟨attempt, false⟩ ∧
      s' = { s with
        policy := s.policy.abandon attempt
        guards := s.guards.erase g
        gone := insert g s.gone }) ∨
    (∃ g attempt, act = .drop g ∧ ans = .dropped ∧ s.guards.lookup g = some ⟨attempt, true⟩ ∧
      s' = { s with guards := s.guards.erase g, gone := insert g s.gone }) := by
  cases act with
  | begin g attempt now =>
    left
    unfold step at h
    dsimp only at h
    split at h
    · cases h
    · rename_i hg
      simp only [not_or, not_lt] at hg
      rcases hadm : s.policy.admitAttempt attempt now with ⟨policy, why | ⟨⟩⟩ <;>
        rw [hadm] at h <;> cases h
      · exact ⟨g, attempt, now, .error why, rfl, rfl, hg.1, hg.2.1, hg.2.2, by rw [hadm],
          by rw [if_neg (by simp), hadm]⟩
      · exact ⟨g, attempt, now, .ok (), rfl, rfl, hg.1, hg.2.1, hg.2.2, by rw [hadm],
          by rw [if_pos rfl, hadm]⟩
  | finish g reason succeeded now =>
    right; left
    unfold step at h
    dsimp only at h
    split at h
    · cases h
    · rename_i hnow
      split at h
      · rename_i attempt hg
        cases h
        exact ⟨g, reason, succeeded, now, attempt, rfl, rfl, not_lt.mp hnow, hg, rfl⟩
      · cases h
  | drop g =>
    right; right
    unfold step at h
    dsimp only at h
    split at h
    · rename_i attempt hg
      cases h
      exact .inl ⟨g, attempt, rfl, rfl, hg, rfl⟩
    · rename_i attempt hg
      cases h
      exact .inr ⟨g, attempt, rfl, rfl, hg, rfl⟩
    · cases h

end Admission

end NmDaemon
