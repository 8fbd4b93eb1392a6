import NmDaemon.ConnectionMachine

/-!
# What a failed connection leaves behind

The machine owns the profile it created until the connection is verified. Here it is shown
that an attempt that fails asks for the deletion of that profile, and that no attempt asks
for the deletion of anything else, whatever NetworkManager answers and whenever the attempt
is cancelled.

* `Record`, `record` — what an attempt did to profiles, read off its history;
* `pending`, `Settled` — what it is while the machine is under way, and once it is connected;
* `failed_connect_rolled_back` — every attempt.

Two things are no failure of the rollback. Once the connection is verified the profile is
kept, also if the attempt is cancelled right after. And no deletion is requested of a
NetworkManager that is not the one the profile was created with.
-/

namespace NmDaemon

namespace Connection

open Client (Prog Service Exec Event Ends Assertion Guarantee Stable ask lift outcome)

variable {S A : Type}

/-! ## Records -/

structure Record : Type where
  /-- profiles whose creation was confirmed -/
  created : List String
  /-- profiles whose deletion was requested -/
  deleted : List String
  /-- profiles there was no proxy for when they were to be deleted -/
  unreachable : List String
  /-- the connection was seen to be up -/
  verified : Bool

/-- What an answer adds to the record. -/
def note (v : Record) : (c : Ask) → Reply c → Record
  | .addAndActivate _ _ _, .ok (some activation) =>
    { v with created := v.created ++ [activation.profilePath] }
  | .delete path, _ => { v with deleted := v.deleted ++ [path] }
  | .profileProxy path, .error _ => { v with unreachable := v.unreachable ++ [path] }
  | .waitActive _ _ _, .ok _ => { v with verified := true }
  | _, _ => v

def observe (v : Record) : Event S Ask Reply A → Record
  | .own _ c r => note v c r
  | .rival _ => v

/-- What happened in an attempt. -/
def record (history : List (Event S Ask Reply A)) : Record :=
  history.foldl observe ⟨[], [], [], false⟩

theorem record_snoc (history : List (Event S Ask Reply A)) (e : Event S Ask Reply A) :
    record (history ++ [e]) = observe (record history) e := by
  simp [record, List.foldl_append]

/-- This is what happened so far. -/
def At (v : Record) : Assertion S Ask Reply A := fun history _ => record history = v

/-- A deletion that is requested is of a profile that was created. -/
def OwnDeletions : Guarantee S Ask Reply A := fun history _ c _ =>
  ∀ path, c = .delete path → path ∈ (record history).created

variable {svc : Service S Ask Reply A} {v : Record} {α : Type}

theorem stable_at : Stable svc (At v) := by
  intro history s a s' hv _
  rw [At, record_snoc, hv]
  rfl

/-! ## Questions -/

theorem ends_ask {ε : Type} {c : Ask} {f : Reply c → Except ε α}
    {Q : α → Assertion S Ask Reply A} {F : ε → Assertion S Ask Reply A}
    (hdelete : ∀ path, c = .delete path → path ∈ v.created)
    (h : ∀ r history s, At (note v c r) history s → outcome Q F (f r) history s) :
    Ends svc OwnDeletions (At v) (ask c f) Q F := by
  refine .ask stable_at ?_
  rintro history s r s' rfl _
  exact ⟨hdelete, h r _ s' (record_snoc history _)⟩

/-- A question that has nothing to do with profiles. -/
theorem ends_quiet {ε : Type} {c : Ask} {f : Reply c → Except ε α}
    (hdelete : ∀ path, c ≠ .delete path) (hnote : ∀ r, note v c r = v) :
    Ends svc OwnDeletions (At v) (ask c f) (fun _ => At v) fun _ => At v := by
  refine ends_ask (fun path hc => absurd hc (hdelete path)) fun r history s hv => ?_
  rw [hnote r] at hv
  cases f r <;> exact hv

theorem ends_checkCancelled :
    Ends svc OwnDeletions (At v) checkCancelled (fun _ => At v) fun _ => At v :=
  ends_quiet nofun fun _ => rfl

theorem ends_within {m : Machine} {p : Process α} {P : Assertion S Ask Reply A}
    {Q : α → Assertion S Ask Reply A} {F : ErrorReport → Assertion S Ask Reply A}
    {F' : ErrorReport × Machine → Assertion S Ask Reply A}
    (hp : Ends svc OwnDeletions P p Q F) (hF : ∀ e history s, F e history s → F' (e, m) history s) :
    Ends svc OwnDeletions P (within m p) Q F' := by
  intro history s hP
  refine Client.wp_bind p _ history s (Client.wp_mono ?_ p history s (hp history s hP))
  rintro (e | a) history s hr
  · exact hF e history s hr
  · exact hr

theorem ends_attempt {p : Stateful α} {P : Assertion S Ask Reply A}
    {Q : α → Assertion S Ask Reply A} {F : ErrorReport × Machine → Assertion S Ask Reply A}
    {F' : ErrorReport → Assertion S Ask Reply A} (hp : Ends svc OwnDeletions P p Q F) :
    Ends svc OwnDeletions P (attempt p) (outcome Q F) F' := by
  intro history s hP
  exact Client.wp_bind p _ history s (Client.wp_mono (fun _ _ _ hr => hr) p history s (hp history s hP))

/-! ## Steps -/

/-- The record while the machine is under way: the profile it created, if any, and no
deletion. -/
def pending (m : Machine) : Record := ⟨m.createdConnection.toList, [], [], false⟩

/-- Before the last state there is no profile yet. -/
def Ready (state : ConnectionState) (m : Machine) : Prop :=
  state = .verify .created ∨ m.createdConnection = none

/-- Connected: what was created is verified, and nothing is deleted. -/
def Settled (v : Record) : Prop := v.deleted = [] ∧ (v.verified = true ∨ v.created = [])

/-- What holds after a step. -/
def After (state : ConnectionState) (m : Machine) :
    StateTransition × Machine → Assertion S Ask Reply A
  | (.next next, m') => fun history s =>
    (Ready next m' ∧ rank next m' < rank state m) ∧ At (pending m') history s
  | (.connected _, _) => fun history s => ∃ v, Settled v ∧ At v history s

variable {target : WifiConnectTarget} {password : Option String} {wepKeyType : Option WepKeyType}
variable {m : Machine}

theorem settled_pending (hm : m.createdConnection = none) : Settled (pending m) :=
  ⟨rfl, .inr (by rw [pending, hm]; rfl)⟩

theorem ends_checkAlreadyActive (hm : m.createdConnection = none) :
    Ends svc OwnDeletions (At (pending m)) (checkAlreadyActive target password)
      (fun transition => After .alreadyActive m (transition, m)) fun _ => At (pending m) := by
  have hnext : ∀ history s, At (S := S) (A := A) (pending m) history s →
      After .alreadyActive m (.next .savedProfile, m) history s := by
    intro history s hv
    refine ⟨⟨.inr hm, ?_⟩, hv⟩
    cases hr : m.rescanned <;> simp [rank, hr]
  refine .bind (ends_quiet nofun fun _ => rfl) fun active => ?_
  rcases active with e | _ | _
  · exact .pure hnext
  · exact .pure hnext
  · by_cases hsecrets : (password.isNone && target.enterprise.isNone) = true
    · rw [if_pos hsecrets]
      exact .pure fun history s hv => ⟨pending m, settled_pending hm, hv⟩
    · rw [if_neg hsecrets]
      exact .pure hnext

theorem ends_activateSavedProfile (hm : m.createdConnection = none) :
    Ends svc OwnDeletions (At (pending m)) (activateSavedProfile target password wepKeyType m)
      (After .savedProfile m) fun _ => At (pending m) := by
  refine .bind (ends_quiet nofun fun _ => rfl) fun activation => ?_
  cases activation with
  | some activation =>
    refine .pure fun history s hv => ⟨⟨.inr hm, ?_⟩, hv⟩
    cases hr : m.rescanned <;> simp [rank, hr]
  | none =>
    refine .pure fun history s hv => ⟨⟨.inr hm, ?_⟩, hv⟩
    cases hr : m.rescanned <;> simp [rank, hr]

theorem ends_targetVisibility :
    Ends svc OwnDeletions (At v) (targetVisibility target) (fun _ => At v) fun _ => At v := by
  rw [targetVisibility]
  split
  · exact .pure fun _ _ hv => hv
  · exact ends_quiet nofun fun _ => rfl

/-- A profile that was created is remembered. -/
theorem ends_createProfile (hm : m.createdConnection = none) :
    Ends svc OwnDeletions (At (pending m)) (createProfile target password wepKeyType m)
      (After .createProfile m) fun _ => At (pending m) := by
  refine .bind (Q := fun activation => At (pending (activation.elim m fun activation =>
    { m with createdConnection := some activation.profilePath })))
    (ends_ask nofun fun r history s hv => ?_) fun activation => ?_
  · rcases r with e | _ | activation
    · exact hv
    · exact hv
    · have hrecord : record history = { pending m with
          created := (pending m).created ++ [activation.profilePath] } := hv
      change record history = pending { m with createdConnection := some activation.profilePath }
      rw [hrecord, pending, pending, hm]
      rfl
  · cases activation with
    | some activation =>
      refine .pure fun history s hv => ⟨⟨.inl rfl, ?_⟩, hv⟩
      cases hr : m.rescanned <;> simp [rank, hr]
    | none =>
      refine .bind ends_targetVisibility fun visible => ?_
      by_cases hrescan : shouldRescan target m visible = true
      · rw [if_pos hrescan]
        refine .pure fun history s hv => ⟨⟨.inr hm, ?_⟩, hv⟩
        -- a second scan is never asked for
        have hr : m.rescanned = false := by
          simp only [shouldRescan, Bool.and_eq_true, Bool.not_eq_true'] at hrescan
          exact hrescan.1.1
        simp [rank, hr]
      · rw [if_neg hrescan]
        exact .throw fun _ _ hv => hv

theorem ends_takeScope {F : ErrorReport → Assertion S Ask Reply A} :
    Ends svc OwnDeletions (At v) (takeScope m)
      (fun m' history s => m'.createdConnection = m.createdConnection ∧ At v history s) F := by
  rw [takeScope]
  split
  · exact ends_ask nofun fun r history s hv => ⟨rfl, hv⟩
  · exact .pure fun _ _ hv => ⟨rfl, hv⟩

theorem ends_verify (kind : ProfileKind) :
    Ends svc OwnDeletions (At (pending m)) (verify target kind m)
      (After (.verify kind) m) fun _ => At (pending m) := by
  refine .bind (Q := fun _ => At { pending m with verified := true })
    (ends_ask nofun fun r history s hv => ?_) fun _ => ?_
  · cases r <;> exact hv
  · refine .bind ends_takeScope fun m' => ?_
    cases kind with
    | saved | created => exact .pure fun history s hv => ⟨_, ⟨rfl, .inl rfl⟩, hv.2⟩

theorem ends_step {state : ConnectionState} (hready : Ready state m) :
    Ends svc OwnDeletions (At (pending m)) (step target password wepKeyType state m)
      (After state m) fun failure => At (pending failure.2) := by
  cases state with
  | alreadyActive =>
    have hm := hready.resolve_left nofun
    refine ends_within (.bind (ends_checkAlreadyActive hm) fun transition => ?_) fun _ _ _ hv => hv
    exact .pure fun _ _ hv => hv
  | savedProfile =>
    exact ends_within (ends_activateSavedProfile (hready.resolve_left nofun)) fun _ _ _ hv => hv
  | createProfile =>
    exact ends_within (ends_createProfile (hready.resolve_left nofun)) fun _ _ _ hv => hv
  | rescan =>
    have hm := hready.resolve_left nofun
    refine ends_within (F := fun _ => At (pending m))
      (.bind (ends_quiet nofun fun _ => rfl) fun _ => ?_) fun _ _ _ hv => hv
    exact .pure fun history s hv => ⟨⟨.inr hm, by simp [rank]⟩, hv⟩
  | verify kind => exact ends_within (ends_verify kind) fun _ _ _ hv => hv

/-- State after state, by induction on the fuel, which is more than the states to come. -/
theorem ends_runStates {fuel : ℕ} {state : ConnectionState} (hready : Ready state m)
    (hfuel : rank state m < fuel) :
    Ends svc OwnDeletions (At (pending m)) (runStates target password wepKeyType fuel state m)
      (fun _ history s => ∃ v, Settled v ∧ At v history s)
      fun failure => At (pending failure.2) := by
  induction fuel generalizing state m with
  | zero => exact absurd hfuel (Nat.not_lt_zero _)
  | succ fuel ih =>
    refine .bind (ends_within ends_checkCancelled fun _ _ _ hv => hv) fun _ => ?_
    refine .bind (ends_within (ends_quiet nofun fun _ => rfl) fun _ _ _ hv => hv) fun _ => ?_
    refine .bind (ends_step hready) fun reached => ?_
    rcases reached with ⟨next | result, m'⟩
    · refine .assume fun hnext => ih hnext.1 ?_
      omega
    · exact .pure fun _ _ hv => hv

/-! ## The whole attempt -/

/-- What was created and not verified is deleted, if there is a proxy for it. -/
def RolledBack (v : Record) : Prop :=
  v.verified = false → ∀ path ∈ v.created, path ∈ v.deleted ∨ path ∈ v.unreachable

def AtRolledBack : Assertion S Ask Reply A := fun history _ => RolledBack (record history)

theorem Settled.rolledBack (h : Settled v) : RolledBack v := by
  intro hverified path hpath
  rcases h.2 with h | h
  · rw [hverified] at h
    cases h
  · rw [h] at hpath
    cases hpath

/-- Nothing that follows a connection touches profiles. -/
theorem ends_finishSuccess (hv : Settled v) (result : ActivationOutcome) :
    Ends svc OwnDeletions (At v) (finishSuccess target result) (fun _ _ _ => True)
      fun _ => AtRolledBack := by
  refine .conseq (Q := fun _ => At v) (F := fun _ => At v) ?_ (fun _ _ h => h)
    (fun _ _ _ _ => trivial) (fun _ history s h => ?_)
  · refine .bind ends_checkCancelled fun _ => ?_
    refine .bind (ends_quiet nofun fun _ => rfl) fun status => ?_
    cases status.join with
    | some connectivity => exact .pure fun _ _ h => h
    | none => exact .bind (ends_quiet nofun fun _ => rfl) fun _ => .pure fun _ _ h => h
  · have hrecord : record history = v := h
    rw [AtRolledBack, hrecord]
    exact hv.rolledBack

theorem ends_cleanupCreatedConnection :
    Ends svc OwnDeletions (At (pending m)) (cleanupCreatedConnection m) (fun _ => AtRolledBack)
      fun _ => AtRolledBack := by
  rw [cleanupCreatedConnection]
  cases hm : m.createdConnection with
  | none =>
    refine .pure fun history s hv => ?_
    have hrecord : record history = pending m := hv
    rw [AtRolledBack, hrecord]
    exact (settled_pending hm).rolledBack
  | some path =>
    have hcreated : (pending m).created = [path] := by rw [pending, hm]; rfl
    refine .bind (Q := fun proxy => At (note (pending m) (.profileProxy path) proxy))
      (ends_ask nofun fun r history s hv => hv) fun proxy => ?_
    cases proxy with
    | error e =>
      refine .pure fun history s hv => ?_
      have hrecord : record history = { pending m with unreachable := [path] } := hv
      rw [AtRolledBack, hrecord]
      intro _ p hp
      exact .inr (hcreated ▸ hp)
    | ok u =>
      refine ends_ask ?_ fun r history s hv => ?_
      · rintro p ⟨⟩
        exact hcreated ▸ List.mem_singleton_self path
      · have hrecord : record history = { pending m with deleted := [path] } := hv
        change RolledBack (record history)
        rw [hrecord]
        intro _ p hp
        exact .inl (hcreated ▸ hp)

theorem ends_finish
    (result : Except (ErrorReport × Machine) (ActivationOutcome × Machine)) :
    Ends svc OwnDeletions
      (outcome (fun _ history s => ∃ v, Settled v ∧ At v history s)
        (fun failure => At (pending failure.2)) result)
      (finish target result) (fun _ _ _ => True) fun _ => AtRolledBack := by
  rcases result with ⟨e, m⟩ | ⟨result, m⟩
  · refine .bind ends_takeScope fun m' => ?_
    refine .assume fun hm => ?_
    have hpending : pending m = pending m' := by rw [pending, pending, hm]
    rw [hpending]
    exact .bind ends_cleanupCreatedConnection fun _ => .throw fun _ _ h => h
  · exact .choose fun v => .assume fun hv => ends_finishSuccess hv result

theorem ends_connectTarget :
    Ends svc OwnDeletions (At (pending .new)) (connectTarget target password wepKeyType)
      (fun _ _ _ => True) fun _ => AtRolledBack := by
  have hnothing : ∀ e history s, At (S := S) (A := A) (pending .new) history s →
      (fun _ : ErrorReport => AtRolledBack) e history s := by
    intro e history s hv
    have hrecord : record history = pending .new := hv
    change RolledBack (record history)
    rw [hrecord]
    exact (settled_pending rfl).rolledBack
  refine .bind (ends_checkCancelled.conseq (fun _ _ h => h) (fun _ _ _ h => h) hnothing) fun _ => ?_
  refine .lift_bind (fun _ _ => ?_) fun e _ => hnothing e
  exact .bind (ends_attempt (ends_runStates (.inr rfl) (by decide))) fun result => ends_finish result

/-- Whatever is asked next, what is deleted was created. -/
theorem note_deleted (h : ∀ path ∈ v.deleted, path ∈ v.created) (c : Ask) (r : Reply c)
    (hc : ∀ path, c = .delete path → path ∈ v.created) :
    ∀ path ∈ (note v c r).deleted, path ∈ (note v c r).created := by
  intro path hpath
  unfold note at hpath ⊢
  split at hpath
  · exact List.mem_append_left _ (h path hpath)
  · rename_i deleted _
    rcases List.mem_append.mp hpath with hpath | hpath
    · exact h path hpath
    · exact hc path (by rw [List.mem_singleton.mp hpath])
  · exact h path hpath
  · exact h path hpath
  · exact h path hpath

/-- **No left-over profile.** A deletion that an attempt requests is of a profile whose
creation was confirmed to it. If the attempt ends with an error and the connection was not
verified, the deletion of every profile it created was requested, unless there was no proxy
for the profile. -/
theorem failed_connect_rolled_back {s t : S} {history : List (Event S Ask Reply A)}
    {p : Prog Ask Reply (Except ErrorReport Connect.ConnectResult)}
    (hexec : Exec svc s (connectTarget target password wepKeyType) history t p) :
    (∀ path ∈ (record history).deleted, path ∈ (record history).created) ∧
      ∀ e, p = .done (.error e) → (record history).verified = false →
        ∀ path ∈ (record history).created,
          path ∈ (record history).deleted ∨ path ∈ (record history).unreachable := by
  have hwp : Client.wp svc OwnDeletions (outcome (fun _ _ _ => True) fun _ => AtRolledBack)
      (connectTarget target password wepKeyType) [] s := ends_connectTarget [] s rfl
  refine ⟨?_, ?_⟩
  · refine hexec.invariant (I := fun history => ∀ path ∈ (record history).deleted,
      path ∈ (record history).created) hwp (fun _ h => nomatch h) ?_ ?_
    · intro history a h
      rwa [record_snoc]
    · intro history t c r h hc
      rw [record_snoc]
      exact note_deleted h c r hc
  · rintro e rfl
    refine hexec.result hwp fun history t a t' h _ => ?_
    change RolledBack (record _)
    rwa [record_snoc]

/-! ## Two attempts -/

/-- A cancellation flag that somebody may set, and a NetworkManager that answers anything. -/
def surroundings : Service Bool Ask Reply Unit where
  serve
    | flag, .cancelled, (answer : Bool) => if answer = flag then some flag else none
    | flag, _, _ => some flag
  rival _ _ := some true

/-- A network without a saved profile. The connection comes up or it does not. -/
def answers (up : Bool) (flag : Bool) : (c : Ask) → Reply c
  | .cancelled => flag
  | .progress _ | .scan _ _ | .profileProxy _ | .delete _ => .ok ()
  | .waitActive _ _ _ =>
    if up then .ok () else .error (connectFailure .timeout "timed out waiting for the network")
  | .activeTargetMatches _ => .ok false
  | .targetVisible _ => .ok true
  | .activateSaved _ _ _ => .ok none
  | .addAndActivate _ _ _ => .ok (some ⟨"/profile/7", "/active/9", 0⟩)
  | .dropScope _ => ()
  | .activeStatus => none
  | .connectivitySnapshot => .error (connectFailure .unknown "no connectivity")

/-- An attempt that times out, to its end. -/
def timedOut : List (Event Bool Ask Reply Unit) × Bool ×
    Prog Ask Reply (Except ErrorReport Connect.ConnectResult) :=
  Client.drive surroundings (fun c => some (answers false false c)) false
    (connectTarget .home none none)

theorem failed_connect_rolled_back_timeout :
    (record timedOut.1).created = ["/profile/7"] ∧ (record timedOut.1).unreachable = [] ∧
      "/profile/7" ∈ (record timedOut.1).deleted := by
  have hexec : Exec surroundings _ _ _ _ _ :=
    Exec.drive (fun c => some (answers false false c)) false (connectTarget .home none none)
  have hrolled := (failed_connect_rolled_back hexec).2
    (connectFailure .timeout "timed out waiting for the network") rfl rfl "/profile/7"
    (List.mem_singleton_self _)
  exact ⟨rfl, rfl, hrolled.resolve_right List.not_mem_nil⟩

/-- The flag is set right after the connection was verified. -/
def lateCancellation : List (Unit ⊕ (Bool → (c : Ask) → Reply c)) :=
  List.replicate 14 (.inr (answers true)) ++ [.inl (), .inr (answers true)]

/-- Then the attempt fails and the profile it created stays. -/
theorem late_cancellation_keeps_profile :
    ¬ ∀ (history : List (Event Bool Ask Reply Unit)) (flag : Bool) (e : ErrorReport),
      Exec surroundings false (connectTarget .home none none) history flag (.done (.error e)) →
      ∀ path ∈ (record history).created, path ∈ (record history).deleted := by
  intro hall
  have hdeleted := hall _ _ _ (Exec.start.play lateCancellation rfl) "/profile/7"
    (List.mem_singleton_self _)
  exact List.not_mem_nil hdeleted

end Connection

end NmDaemon
