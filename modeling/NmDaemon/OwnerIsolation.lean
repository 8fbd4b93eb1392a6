import NmDaemon.Ownership
import NmDaemon.RuntimeHistory

/-!
# Owners see and touch only what is theirs

The task registry with its retained results and the subscription actor, as one daemon. A call
to cancel goes to both: it looks for a task first, and then asks the actor, if the actor can
be asked. Asking for a status reads the registry.

* `daemon` — the two machines side by side, with the calls to cancel between them;
* `Attributed` — every task, flag, result and subscription goes back to the owner it was
  registered for, in every run (`run_attributed`);
* `owner_isolation` — what belongs to another owner is, for status and cancel, as if it had
  never existed, and neither these calls nor the loss of an owner touch it.

The store of retained results hands out a record only for the owner it was recorded with: it is
a table by request and owner.
-/

namespace NmDaemon

namespace Daemon

open NmDaemon.Runtime (DaemonRuntime unknownStatus)
open Subscriptions (CancelOutcome)

/-! ## The daemon -/

/-- A call to cancel between its two parts. -/
structure CancelCall : Type where
  requestId : String
  owner : Option String
  taskFound : Bool

structure State : Type where
  runtime : DaemonRuntime
  actor : Subscriptions.State
  /-- the calls to cancel that have no answer yet -/
  cancels : Table ℕ CancelCall

inductive Action : Type where
  | runtime (action : Runtime.Action)
  | actor (action : Subscriptions.Action)
  /-- the first part of a call to cancel -/
  | cancel (call : ℕ) (requestId : String) (owner : Option String)
  /-- the second one: the actor receives it (whether the runtime exists and the lane takes a
  job), or it cannot be asked -/
  | cancelSubscription (call : ℕ) (received : Option (Bool × Bool))

inductive Answer : Type where
  | runtime (answer : Runtime.Answer)
  | actor (output : Subscriptions.Output)
  | pending
  | cancelled (outcome : CancelOutcome)

abbrev Entry : Type := Action × Answer

/-- What is only a part of a call to cancel. -/
def isPart : Action → Bool
  | .runtime (.cancel _ _) => true
  | .actor (.receive (.cancelSubscription _ _ _) _ _) => true
  | _ => false

/-- `cancel_subscription`: an actor that does not answer has found no subscription. -/
def cancelSubscription (actor : Subscriptions.State) (call : CancelCall)
    (received : Option (Bool × Bool)) : Option (Subscriptions.State × CancelOutcome) :=
  match received with
  | none => some (actor, ⟨call.taskFound, false⟩)
  | some (alive, admits) =>
    (Subscriptions.step actor (.receive
      (.cancelSubscription call.requestId call.owner call.taskFound) alive admits)).map
      fun r => (r.1, r.2.cancelled.getD ⟨call.taskFound, false⟩)

/-- A step of the runtime or of the actor, or a request of a client that needs both. -/
def step (s : State) (a : Action) : Option (State × Answer) :=
  match a with
  | .runtime action =>
    if isPart a then none
    else (Runtime.step s.runtime action).map fun r => ({ s with runtime := r.1 }, .runtime r.2)
  | .actor action =>
    if isPart a then none
    else (Subscriptions.step s.actor action).map fun r => ({ s with actor := r.1 }, .actor r.2)
  | .cancel n requestId owner =>
    match s.cancels.lookup n with
    | some _ => none
    | none =>
      (Runtime.step s.runtime (.cancel requestId owner)).map fun r =>
        ({ s with
            runtime := r.1
            cancels := AList.insert n
              ⟨requestId, owner, (s.runtime.cancelTask requestId owner).2.isSome⟩ s.cancels },
          .pending)
  | .cancelSubscription n received =>
    (s.cancels.lookup n).bind fun call =>
      (cancelSubscription s.actor call received).map fun r =>
        ({ s with actor := r.1, cancels := s.cancels.erase n }, .cancelled r.2)

/-- The daemon, from its start. -/
def daemon : Machine State Action Answer where
  start := ⟨Runtime.runtime.start, .start, ∅⟩
  step := step

/-! ## Whose ids are whose -/

/-- A task was registered for this owner under this id. -/
def Registered (log : List Entry) (id : String) (owner : Option String) : Prop :=
  ∃ e ∈ log, ∃ action, e.1 = .runtime action ∧ action.RegistersFor id owner

/-- This owner subscribed, and got this id. -/
def Subscribed (log : List Entry) (id : String) (owner : Option String) : Prop :=
  ∃ e ∈ log, ∃ action, e.1 = .actor action ∧ action.SubscribesFor id owner

/-- The id was given to nobody else. -/
def Belongs (log : List Entry) (id : String) (owner : Option String) : Prop :=
  ∀ other, Registered log id other ∨ Subscribed log id other → other = owner

/-- The id was given to nobody. -/
def Never (log : List Entry) (id : String) : Prop :=
  ∀ owner, ¬ Registered log id owner ∧ ¬ Subscribed log id owner

/-- Everything goes back to an owner it was made for. -/
structure Attributed (log : List Entry) (s : State) : Prop where
  runtime : Runtime.Attributed (Registered log) s.runtime
  subscription : ∀ id subscription, s.actor.subscriptions.lookup id = some subscription →
    Subscribed log id subscription.owner
  cancel : ∀ n call, s.cancels.lookup n = some call → call.taskFound = true →
    Registered log call.requestId call.owner

variable {id : String} {log : List Entry} {owner : Option String}

theorem Registered.append (h : Registered log id owner) (more : List Entry) :
    Registered (log ++ more) id owner := by
  obtain ⟨e, he, h⟩ := h
  exact ⟨e, List.mem_append_left _ he, h⟩

theorem Subscribed.append (h : Subscribed log id owner) (more : List Entry) :
    Subscribed (log ++ more) id owner := by
  obtain ⟨e, he, h⟩ := h
  exact ⟨e, List.mem_append_left _ he, h⟩

variable {s : State}

/-- Nothing becomes known of what stays. -/
theorem Attributed.append (h : Attributed log s) (more : List Entry) :
    Attributed (log ++ more) s where
  runtime := h.runtime.mono fun _ _ hregistered => hregistered.append more
  subscription id subscription hlookup := (h.subscription id subscription hlookup).append more
  cancel n call hcall hfound := (h.cancel n call hcall hfound).append more

/-- A step of the actor. -/
theorem Attributed.subscription_step (h : Attributed log s) {actor : Subscriptions.State}
    {action : Subscriptions.Action} {out : Subscriptions.Output}
    (hstep : Subscriptions.step s.actor action = some (actor, out)) {more : List Entry}
    (hnew : ∀ id owner, action.SubscribesFor id owner → Subscribed (log ++ more) id owner) :
    ∀ id subscription, actor.subscriptions.lookup id = some subscription →
      Subscribed (log ++ more) id subscription.owner := by
  intro id subscription hlookup
  rcases Subscriptions.step_subscription hstep hlookup with ⟨before, hbefore, howner⟩ | hsubscribes
  · exact howner ▸ (h.subscription id before hbefore).append more
  · exact hnew id _ hsubscribes

variable {a : Action} {o : Answer} {t : State}

/-- **The step lemma.** -/
theorem Attributed.step (h : Attributed log s) (hstep : step s a = some (t, o)) :
    Attributed (log ++ [(a, o)]) t := by
  have hlater := h.append [(a, o)]
  have hregistered : ∀ id owner, Registered log id owner → Registered (log ++ [(a, o)]) id owner :=
    fun _ _ h => h.append _
  cases a with
  | runtime action =>
    rw [Daemon.step] at hstep
    split at hstep
    · cases hstep
    · obtain ⟨⟨runtime, answer⟩, hrun, heq⟩ := Option.map_eq_some_iff.mp hstep
      cases heq
      refine ⟨h.runtime.step hrun hregistered fun id owner hnew => ?_, hlater.subscription,
        hlater.cancel⟩
      exact ⟨_, List.mem_append_right _ (List.mem_singleton_self _), action, rfl, hnew⟩
  | actor action =>
    rw [Daemon.step] at hstep
    split at hstep
    · cases hstep
    · obtain ⟨⟨actor, out⟩, hrun, heq⟩ := Option.map_eq_some_iff.mp hstep
      cases heq
      refine ⟨hlater.runtime, h.subscription_step hrun fun id owner hnew => ?_, hlater.cancel⟩
      exact ⟨_, List.mem_append_right _ (List.mem_singleton_self _), action, rfl, hnew⟩
  | cancel n requestId owner =>
    rw [Daemon.step] at hstep
    split at hstep
    · cases hstep
    · obtain ⟨⟨runtime, answer⟩, hrun, heq⟩ := Option.map_eq_some_iff.mp hstep
      cases heq
      refine ⟨h.runtime.step hrun hregistered ?_, hlater.subscription, fun m call hcall hfound => ?_⟩
      · rintro id owner ⟨kind, ssid, destination, now, hregisters⟩
        cases hregisters
      · rw [Table.lookup_insert_ite] at hcall
        split_ifs at hcall
        · cases hcall
          by_contra hno
          rw [h.runtime.cancelTask fun hold => hno (hold.append _)] at hfound
          cases hfound
        · exact hlater.cancel m call hcall hfound
  | cancelSubscription n received =>
    obtain ⟨call, hcall, hstep⟩ := Option.bind_eq_some_iff.mp hstep
    obtain ⟨⟨actor, outcome⟩, hcancel, heq⟩ := Option.map_eq_some_iff.mp hstep
    cases heq
    refine ⟨hlater.runtime, ?_, fun m call hcall hfound => ?_⟩
    · cases received with
      | none =>
        cases hcancel
        exact hlater.subscription
      | some r =>
        obtain ⟨⟨actor', out⟩, hrun, heq⟩ := Option.map_eq_some_iff.mp hcancel
        cases heq
        refine h.subscription_step hrun ?_
        rintro id owner ⟨streams, admits, hsubscribes⟩
        cases hsubscribes
    · rw [Table.lookup_erase_ite] at hcall
      split_ifs at hcall
      exact hlater.cancel m call hcall hfound

/-- **The run lemma.** -/
theorem run_attributed (run : daemon.Reaches log s) : Attributed log s := by
  refine run.invariant Attributed ?_ fun log s t a o _ h hstep => h.step hstep
  refine ⟨⟨Runtime.run_backed (.nil _), fun id task registration h => ?_,
    fun cell registration h => ?_, fun id owner h => ?_⟩, fun id subscription h => ?_,
    fun n call h => ?_⟩ <;> cases h

/-! ## Isolation -/

/-- The action is a call of this owner's that names this id. -/
inductive Calls (s : State) (id : String) (owner : Option String) : Action → Prop where
  | status (now : ℕ) : Calls s id owner (.runtime (.status id owner now))
  | cancel (n : ℕ) : Calls s id owner (.cancel n id owner)
  | cancelSubscription (n : ℕ) (received : Option (Bool × Bool)) (found : Bool)
      (call : s.cancels.lookup n = some ⟨id, owner, found⟩) :
      Calls s id owner (.cancelSubscription n received)

/-- The action drops what belongs to an owner that is gone. -/
inductive Drops (name : String) : Action → Prop where
  | tasks : Drops name (.runtime (.dropOwner name))
  | subscriptions (alive admits : Bool) :
      Drops name (.actor (.receive (.dropOwner name) alive admits))

/-- What an owner has is as it was. -/
structure Spares (owner : Option String) (s t : State) : Prop where
  tasks : ∀ id task, task.owner = owner →
    (t.runtime.tasks.lookup id = some task ↔ s.runtime.tasks.lookup id = some task)
  /-- the flags of the tasks, also of those whose worker has not ended -/
  flags : ∀ cell registration, s.runtime.workers.lookup cell = some registration →
    registration.owner = owner → (cell ∈ t.runtime.raised ↔ cell ∈ s.runtime.raised)
  results : ∀ id, t.runtime.evidence id owner = s.runtime.evidence id owner
  subscriptions : ∀ id subscription, subscription.owner = owner →
    (t.actor.subscriptions.lookup id = some subscription ↔
      s.actor.subscriptions.lookup id = some subscription)

/-- Nobody's tasks, flags, results or subscriptions changed. -/
theorem Spares.of_eq (htasks : t.runtime.tasks = s.runtime.tasks)
    (hraised : t.runtime.raised = s.runtime.raised)
    (hresults : t.runtime.results = s.runtime.results)
    (hsubscriptions : t.actor.subscriptions = s.actor.subscriptions) (owner : Option String) :
    Spares owner s t where
  tasks id task _ := by rw [htasks]
  flags cell registration _ _ := by rw [hraised]
  results id := by rw [DaemonRuntime.evidence, hresults, DaemonRuntime.evidence]
  subscriptions id subscription _ := by rw [hsubscriptions]

/-- What is answered to a call that names an unknown id. -/
def unknownAnswer (id : String) : Action → Answer
  | .runtime _ => .runtime (.status (unknownStatus id))
  | .cancelSubscription _ _ => .cancelled ⟨false, false⟩
  | _ => .pending

/-- The second part of a call that found no task, where there is no subscription either. -/
theorem cancelSubscription_other {actor actor' : Subscriptions.State}
    {received : Option (Bool × Bool)} {outcome : CancelOutcome}
    (hnone : ∀ subscription, actor.subscriptions.lookup id = some subscription →
      subscription.owner ≠ owner)
    (h : cancelSubscription actor ⟨id, owner, false⟩ received = some (actor', outcome)) :
    actor'.subscriptions = actor.subscriptions ∧ outcome = ⟨false, false⟩ := by
  cases received with
  | none =>
    cases h
    exact ⟨rfl, rfl⟩
  | some r =>
    obtain ⟨alive, admits⟩ := r
    obtain ⟨⟨actor₁, out⟩, hstep, heq⟩ := Option.map_eq_some_iff.mp h
    cases heq
    rw [Subscriptions.step] at hstep
    split at hstep
    · cases alive with
      | false =>
        cases hstep
        exact ⟨rfl, rfl⟩
      | true =>
        cases hstep
        have hremoved := Subscriptions.removeSubscription_other false hnone
        simp only [hremoved, Option.getD_some, and_self]
    · cases hstep

/-- A call that names an id of another owner, or of nobody. -/
theorem Calls.unknown (h : Attributed log s) (hcalls : Calls s id owner a)
    (hregistered : ¬ Registered log id owner) (hsubscribed : ¬ Subscribed log id owner)
    (hstep : step s a = some (t, o)) (other : Option String) :
    o = unknownAnswer id a ∧ Spares other s t := by
  cases hcalls with
  | status now =>
    cases hstep
    rw [h.runtime.status hregistered]
    exact ⟨rfl, .of_eq rfl rfl rfl rfl other⟩
  | cancel n =>
    rw [step] at hstep
    split at hstep
    · cases hstep
    · obtain ⟨⟨runtime, answer⟩, hrun, heq⟩ := Option.map_eq_some_iff.mp hstep
      cases heq
      rw [Runtime.step, h.runtime.cancelTask hregistered] at hrun
      cases hrun
      refine ⟨rfl, ?_⟩
      apply Spares.of_eq <;> rfl
  | cancelSubscription n received found hcall =>
    obtain ⟨call, hlookup, hstep⟩ := Option.bind_eq_some_iff.mp hstep
    cases hcall.symm.trans hlookup
    have hfound : found = false := by
      by_contra htrue
      exact hregistered (h.cancel n _ hcall (Bool.of_not_eq_false htrue))
    subst hfound
    obtain ⟨⟨actor, outcome⟩, hcancel, heq⟩ := Option.map_eq_some_iff.mp hstep
    cases heq
    have hnone : ∀ subscription, s.actor.subscriptions.lookup id = some subscription →
        subscription.owner ≠ owner := by
      intro subscription hlookup howner
      exact hsubscribed (howner ▸ h.subscription id subscription hlookup)
    obtain ⟨hsame, rfl⟩ := cancelSubscription_other hnone hcancel
    refine ⟨rfl, ?_⟩
    apply Spares.of_eq
    all_goals first | rfl | exact hsame

/-- The loss of an owner leaves the others alone. -/
theorem Drops.spares {name : String} (h : Attributed log s) (hdrops : Drops name a)
    (hstep : step s a = some (t, o)) {other : Option String} (hne : some name ≠ other) :
    Spares other s t := by
  cases hdrops with
  | tasks =>
    cases hstep
    refine ⟨fun _ _ _ => .rfl, fun cell registration hworker howner => ?_, fun _ => rfl,
      fun _ _ _ => .rfl⟩
    exact h.runtime.cancelTasksForOwner hworker (howner ▸ hne.symm)
  | subscriptions alive admits =>
    obtain ⟨⟨actor, out⟩, hrun, heq⟩ := Option.map_eq_some_iff.mp hstep
    cases heq
    refine ⟨fun _ _ _ => .rfl, fun _ _ _ _ => .rfl, fun _ => rfl, fun id subscription howner => ?_⟩
    rw [Subscriptions.step] at hrun
    split at hrun
    · cases alive with
      | false =>
        cases hrun
        rfl
      | true =>
        cases hrun
        change (Subscriptions.dropSubscriptionsForOwner _ name).lookup id = _ ↔ _
        rw [Subscriptions.lookup_dropSubscriptions, Option.filter_eq_some_iff]
        refine and_iff_left (decide_eq_true ?_)
        rw [howner]
        exact hne.symm
    · cases hrun

/-- **Owner isolation.** At every step of every run: a call of an owner's to read a status or to
cancel that names an id of another owner leaves what that owner, or any other, has as it is, and its
answer is the one it gets in any run in which the id never existed; and dropping an owner leaves
what the others have as it is. -/
theorem owner_isolation {log pre post : List Entry} {s u t : State} {a : Action} {out : Answer}
    (h : daemon.Moment log s pre u a out t post) {owner other : Option String}
    (hne : owner ≠ other) :
    (∀ id, Calls u id owner a → Belongs pre id other →
      Spares other u t ∧
      ∀ (log' pre' post' : List Entry) (s' u' t' : State) (out' : Answer),
        daemon.Moment log' s' pre' u' a out' t' post' → Calls u' id owner a → Never pre' id →
        out' = out) ∧
    ∀ name, owner = some name → Drops name a → Spares other u t := by
  have hattributed := run_attributed h.before
  refine ⟨fun id hcalls hbelongs => ?_, ?_⟩
  · have hregistered : ¬ Registered pre id owner := fun hr => hne (hbelongs owner (.inl hr))
    have hsubscribed : ¬ Subscribed pre id owner := fun hr => hne (hbelongs owner (.inr hr))
    obtain ⟨rfl, hspares⟩ := hcalls.unknown hattributed hregistered hsubscribed h.step other
    refine ⟨hspares, ?_⟩
    intro log' pre' post' s' u' t' out' h' hcalls' hnever
    exact (hcalls'.unknown (run_attributed h'.before) (hnever owner).1 (hnever owner).2 h'.step
      other).1
  · rintro name rfl hdrops
    exact hdrops.spares hattributed h.step hne

/-- A task of the owner `:2`. -/
def registration : Action := .runtime (.register "r" .connect (some ":2") none ":nm" 0)

/-- The owner `:1` asks for its status. -/
def question : Action := .runtime (.status "r" (some ":1") 5)

theorem never_nil (id : String) : Never [] id := by
  intro owner
  constructor <;> rintro ⟨e, he, -⟩ <;> cases he

theorem registration_belongs (o : Answer) : Belongs [(registration, o)] "r" (some ":2") := by
  rintro owner (⟨e, he, action, haction, hregisters⟩ | ⟨e, he, action, haction, -⟩)
  · rw [List.mem_singleton.mp he] at haction
    obtain ⟨kind, ssid, destination, now, rfl⟩ := hregisters
    injection haction with haction
    injection haction with _ _ howner
    exact howner.symm
  · rw [List.mem_singleton.mp he] at haction
    cases haction

theorem owner_isolation_status :
    ∃ log pre u t out, daemon.Moment log t pre u question out t [] ∧
      (u.runtime.tasks.lookup "r").isSome ∧ Belongs pre "r" (some ":2") ∧
      Spares (some ":2") u t ∧ out = .runtime (.status (unknownStatus "r")) := by
  obtain ⟨u, o, hu, htask⟩ : ∃ u o, daemon.step daemon.start registration = some (u, o) ∧
      (u.runtime.tasks.lookup "r").isSome := ⟨_, _, rfl, rfl⟩
  obtain ⟨t, out, ht⟩ : ∃ t out, daemon.step u question = some (t, out) := ⟨_, _, rfl⟩
  have hmoment : daemon.Moment ([(registration, o)] ++ [(question, out)]) t [(registration, o)] u
      question out t [] := ⟨rfl, .single hu, ht, .nil t⟩
  have hbelongs := registration_belongs o
  obtain ⟨hcalls, -⟩ := owner_isolation hmoment (show some ":1" ≠ some ":2" by decide)
  obtain ⟨hspares, hsame⟩ := hcalls "r" (.status 5) hbelongs
  -- the answer in the run in which nothing was registered
  obtain ⟨t', ht'⟩ : ∃ t', daemon.step daemon.start question =
      some (t', .runtime (.status (unknownStatus "r"))) := ⟨_, rfl⟩
  have hanswer := hsame _ [] [] t' daemon.start t' _ ⟨rfl, .nil _, ht', .nil t'⟩ (.status 5)
    (never_nil "r")
  exact ⟨_, _, u, t, out, hmoment, htask, hbelongs, hspares, hanswer.symm⟩

end Daemon

end NmDaemon
