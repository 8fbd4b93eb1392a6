import NmDaemon.RefreshHistory
import NmDaemon.RuntimeRequests

/-!
# Whose tasks, results and subscriptions

The two parts of the daemon that keep something for their callers, each on its own.

* `Runtime.Attributed` — tasks, flags and retained results go back to the owner of a
  registration, kept by every step;
* `Runtime.Attributed.status`, `Runtime.Attributed.cancelTask`,
  `Runtime.Attributed.cancelTasksForOwner` — what is not an owner's is not there for it;
* `Subscriptions.step_subscription` — a subscription keeps the owner that subscribed;
* `Subscriptions.removeSubscription_other`, `Subscriptions.lookup_dropSubscriptions` — and is
  removed for that owner only.
-/

namespace NmDaemon

namespace Runtime

/-! ## Owners in the registry -/

/-- A task and its registration have the same owner. -/
def Matched (s : DaemonRuntime) : Prop :=
  ∀ id task registration, s.tasks.lookup id = some task →
    s.workers.lookup task.cancellation = some registration → registration.owner = task.owner

variable {id : String}

/-- Changing a task but not its flag or its owner. -/
theorem Matched.insert {s s' : DaemonRuntime} (h : Matched s) {task task' : TaskHandle}
    (htask : s.tasks.lookup id = some task)
    (htasks : s'.tasks = s.tasks.insert id task')
    (hcell : task'.cancellation = task.cancellation) (howner : task'.owner = task.owner)
    (hworkers : s'.workers = s.workers) : Matched s' := by
  intro id' other registration hother hregistration
  rw [htasks, Table.lookup_insert_ite] at hother
  rw [hworkers] at hregistration
  split_ifs at hother with heq
  · cases hother
    rw [howner]
    exact h id task registration htask (hcell ▸ hregistration)
  · exact h id' other registration hother hregistration

theorem Matched.step {s s' : DaemonRuntime} {a : Action} {o : Answer} (h : Matched s)
    (hbacked : Backed s) (heffect : Effect s a o s') : Matched s' := by
  cases heffect with
  | none same =>
    intro id task registration htask hregistration
    exact h id task registration (same.tasks ▸ htask) (same.workers ▸ hregistration)
  | register newId kind owner ssid destination now =>
    intro id task registration htask hregistration
    simp only [DaemonRuntime.register, Table.lookup_insert_ite] at htask hregistration
    split_ifs at htask
    · cases htask
      rw [if_pos rfl] at hregistration
      cases hregistration
      rfl
    · -- the flags of the other tasks are older
      obtain ⟨older, holder, -⟩ := hbacked.task id task htask
      rw [if_neg (hbacked.worker _ _ holder).ne] at hregistration
      exact h id task registration htask hregistration
  | drop =>
    rename_i cell dropped
    intro id task registration htask hregistration
    have htask' : s.tasks.lookup id = some task := by
      simp only [DaemonRuntime.dropRegistration] at htask
      split_ifs at htask
      · rw [Table.lookup_erase_ite] at htask
        split_ifs at htask
        exact htask
      · exact htask
    simp only [DaemonRuntime.dropRegistration, Table.lookup_erase_ite] at hregistration
    split_ifs at hregistration
    exact h id task registration htask' hregistration
  | record _ htasks _ hworkers =>
    rcases htasks with htasks | ⟨task, revision, htask, htasks⟩
    · intro id task registration htask hregistration
      exact h id task registration (htasks ▸ htask) (hworkers ▸ hregistration)
    · exact h.insert htask htasks rfl rfl hworkers
  | accept _ htask => exact h.insert htask rfl rfl rfl rfl
  | expire htask _ htasks hworkers => exact h.insert htask htasks rfl rfl hworkers
  | evict => exact h

/-- The action registers a task of this owner under this id. -/
def Action.RegistersFor (id : String) (owner : Option String) (a : Action) : Prop :=
  ∃ kind ssid destination now, a = .register id kind owner ssid destination now

theorem Effect.registered {s s' : DaemonRuntime} {a : Action} {o : Answer}
    (heffect : Effect s a o s') {c : ℕ} {registration : Registration}
    (hc : s'.workers.lookup c = some registration) :
    s.workers.lookup c = some registration ∨
      a.RegistersFor registration.requestId registration.owner := by
  cases heffect with
  | register id kind owner ssid destination now =>
    simp only [DaemonRuntime.register, Table.lookup_insert_ite] at hc
    split_ifs at hc
    · cases hc
      exact .inr ⟨kind, ssid, destination, now, rfl⟩
    · exact .inl hc
  | none same => exact .inl (same.workers ▸ hc)
  | drop =>
    simp only [DaemonRuntime.dropRegistration, Table.lookup_erase_ite] at hc
    split_ifs at hc
    exact .inl hc
  | record _ _ _ hworkers => exact .inl (hworkers ▸ hc)
  | expire _ _ _ hworkers => exact .inl (hworkers ▸ hc)
  | accept => exact .inl hc
  | evict => exact .inl hc

variable {owner : Option String}

/-- A result is recorded for the owner of the worker that has it. -/
theorem Effect.evidence {s s' : DaemonRuntime} {a : Action} {o : Answer} (heffect : Effect s a o s')
    (hevidence : (s'.evidence id owner).isSome) :
    (s.evidence id owner).isSome ∨ ∃ cell registration,
      s.workers.lookup cell = some registration ∧ registration.requestId = id ∧
        registration.owner = owner := by
  cases heffect with
  | none same =>
    rw [DaemonRuntime.evidence, same.results] at hevidence
    exact .inl hevidence
  | record hworker _ hresults =>
    rw [DaemonRuntime.evidence, hresults, Table.lookup_insert_ite] at hevidence
    split_ifs at hevidence with heq
    · cases heq
      exact .inr ⟨_, _, hworker, rfl, rfl⟩
    · exact .inl hevidence
  | expire _ _ _ _ hresults =>
    rw [DaemonRuntime.evidence, hresults] at hevidence
    exact .inl hevidence
  | evict id' owner' =>
    rw [DaemonRuntime.evidence, Table.lookup_erase_ite] at hevidence
    split_ifs at hevidence
    · cases hevidence
    · exact .inl hevidence
  | register => exact .inl hevidence
  | drop => exact .inl hevidence
  | accept => exact .inl hevidence

/-- Where tasks, flags and results come from. -/
structure Attributed (Of : String → Option String → Prop) (s : DaemonRuntime) : Prop where
  backed : Backed s
  matched : Matched s
  worker : ∀ cell registration, s.workers.lookup cell = some registration →
    Of registration.requestId registration.owner
  evidence : ∀ id owner, (s.evidence id owner).isSome → Of id owner

namespace Attributed

variable {Of Of' : String → Option String → Prop} {s s' : DaemonRuntime} {a : Action} {o : Answer}

theorem step (h : Attributed Of s) (hstep : Runtime.step s a = some (s', o))
    (hmono : ∀ id owner, Of id owner → Of' id owner)
    (hnew : ∀ id owner, a.RegistersFor id owner → Of' id owner) : Attributed Of' s' := by
  have heffect := step_effect hstep
  refine ⟨h.backed.step heffect, h.matched.step h.backed heffect, fun cell registration hc => ?_,
    fun id owner hevidence => ?_⟩
  · rcases heffect.registered hc with hold | hregisters
    · exact hmono _ _ (h.worker cell registration hold)
    · exact hnew _ _ hregisters
  · rcases heffect.evidence hevidence with hold | ⟨cell, registration, hworker, rfl, rfl⟩
    · exact hmono _ _ (h.evidence id owner hold)
    · exact hmono _ _ (h.worker cell registration hworker)

theorem mono (h : Attributed Of s) (hmono : ∀ id owner, Of id owner → Of' id owner) :
    Attributed Of' s :=
  ⟨h.backed, h.matched, fun cell registration hc => hmono _ _ (h.worker cell registration hc),
    fun id owner hevidence => hmono _ _ (h.evidence id owner hevidence)⟩

/-- A task has the owner of its registration. -/
theorem task (h : Attributed Of s) {id : String} {task : TaskHandle}
    (htask : s.tasks.lookup id = some task) : Of id task.owner := by
  obtain ⟨registration, hworker, rfl⟩ := h.backed.task id task htask
  rw [← h.matched _ task registration htask hworker]
  exact h.worker _ registration hworker

end Attributed

/-! ## What is not there for an owner -/

/-- The status of a request nobody knows. -/
def unknownStatus (requestId : String) : Json :=
  .obj [("request_id", .str requestId), ("status", .str "unknown")]

/-- For an owner a request of another is unknown. -/
theorem Attributed.status {Of : String → Option String → Prop} {s : DaemonRuntime}
    (h : Attributed Of s) (hno : ¬ Of id owner) (now : ℕ) :
    s.requestStatus id owner now = unknownStatus id := by
  have hevidence : s.evidence id owner = none := by
    rw [← Option.not_isSome_iff_eq_none]
    exact fun hsome => hno (h.evidence id owner hsome)
  have htask : ((s.tasks.lookup id).filter fun task =>
      task.owner = owner ∧ task.terminal = false) = none := by
    rw [Option.filter_eq_none_iff]
    intro task htask howner
    exact hno ((of_decide_eq_true howner).1 ▸ h.task htask)
  rw [DaemonRuntime.requestStatus, hevidence, htask]
  rfl

/-- An owner does not cancel a task of another. -/
theorem Attributed.cancelTask {Of : String → Option String → Prop} {s : DaemonRuntime}
    (h : Attributed Of s) (hno : ¬ Of id owner) : s.cancelTask id owner = (s, none) := by
  have htask : ((s.tasks.lookup id).filter fun task => task.owner = owner ∧
      task.terminal = false ∧ (s.evidence id task.owner).isNone) = none := by
    rw [Option.filter_eq_none_iff]
    intro task htask howner
    exact hno ((of_decide_eq_true howner).1 ▸ h.task htask)
  rw [DaemonRuntime.cancelTask, htask]

/-- The loss of an owner raises the flags of that owner only. -/
theorem Attributed.cancelTasksForOwner {Of : String → Option String → Prop} {s : DaemonRuntime}
    (h : Attributed Of s) {name : String} {cell : ℕ} {registration : Registration}
    (hworker : s.workers.lookup cell = some registration)
    (hother : registration.owner ≠ some name) :
    cell ∈ (s.cancelTasksForOwner name).1.raised ↔ cell ∈ s.raised := by
  rw [DaemonRuntime.cancelTasksForOwner, mem_raise]
  refine ⟨fun hraised => hraised.resolve_right ?_, .inl⟩
  rintro ⟨task, htask, rfl⟩
  obtain ⟨⟨id, task⟩, hmem, rfl⟩ := List.mem_map.mp htask
  obtain ⟨hpair, howner⟩ := List.mem_filter.mp hmem
  have hmatched := h.matched id task registration (Table.mem_pairs.mp hpair) hworker
  exact hother (hmatched.trans (of_decide_eq_true howner).1)

end Runtime

namespace Subscriptions

/-! ## Owners of subscriptions -/

theorem Asked.subscriptions {s t : State} {request : Request} (h : Asked s t request) :
    t.subscriptions = s.subscriptions := by
  cases h <;> rfl

theorem requestSharedRefresh_subscriptions (s : State) (admits : Bool) :
    (s.requestSharedRefresh admits).1.subscriptions = s.subscriptions :=
  (requestSharedRefresh_asked s admits).subscriptions

theorem completeSharedRefresh_subscriptions (s : State) (admits : Bool) :
    (s.completeSharedRefresh admits).1.subscriptions = s.subscriptions := by
  rw [State.completeSharedRefresh]
  dsimp only
  split
  · exact requestSharedRefresh_subscriptions _ admits
  · rfl

variable {id : String} {subscription : SubscriptionState}

theorem removeSubscription_lookup {subscriptions : Registry} {other : String}
    {owner : Option String} (taskFound : Bool)
    (h : (removeSubscription subscriptions id owner taskFound).1.lookup other =
      some subscription) : subscriptions.lookup other = some subscription := by
  rw [removeSubscription] at h
  dsimp only at h
  split_ifs at h
  · rw [Table.lookup_erase_ite] at h
    split_ifs at h
    exact h
  · exact h

/-- An owner does not cancel a subscription of another. -/
theorem removeSubscription_other {subscriptions : Registry} {owner : Option String}
    (taskFound : Bool) (h : ∀ subscription, subscriptions.lookup id = some subscription →
      subscription.owner ≠ owner) :
    removeSubscription subscriptions id owner taskFound = (subscriptions, ⟨taskFound, false⟩) := by
  have hnone : ((subscriptions.lookup id).filter fun subscription =>
      subscription.owner = owner) = none := by
    rw [Option.filter_eq_none_iff]
    intro subscription hlookup howner
    exact h subscription hlookup (of_decide_eq_true howner)
  rw [removeSubscription, hnone]
  rfl

theorem lookup_dropSubscriptions (subscriptions : Registry) (name id : String) :
    (dropSubscriptionsForOwner subscriptions name).lookup id =
      (subscriptions.lookup id).filter fun subscription =>
        subscription.owner ≠ some name := by
  rw [dropSubscriptionsForOwner, Table.lookup_filterMap]
  cases subscriptions.lookup id with
  | none => rfl
  | some subscription =>
    rw [Option.bind_some, Option.filter_some]
    split_ifs with h h' h' <;> simp_all

/-- The action subscribes this owner under this id. -/
def Action.SubscribesFor (id : String) (owner : Option String) (a : Action) : Prop :=
  ∃ streams admits, a = .receive (.subscribe id owner streams) true admits

theorem handleControl_subscription {s : State} {admits : Bool} {control : Control}
    (h : (handleControl s admits control).1.subscriptions.lookup id = some subscription) :
    s.subscriptions.lookup id = some subscription ∨
      (Action.receive control true admits).SubscribesFor id subscription.owner := by
  cases control with
  | subscribe newId owner streams =>
    simp only [handleControl, requestSharedRefresh_subscriptions, Table.lookup_insert_ite] at h
    split_ifs at h with heq
    · cases h
      exact .inr ⟨streams, admits, by rw [heq]; rfl⟩
    · exact .inl h
  | cancelSubscription other owner taskFound => exact .inl (removeSubscription_lookup taskFound h)
  | dropOwner name =>
    change (dropSubscriptionsForOwner s.subscriptions name).lookup id = _ at h
    rw [lookup_dropSubscriptions] at h
    exact .inl (Option.filter_eq_some_iff.mp h).1
  | refreshed job =>
    simp only [handleControl, completeSharedRefresh_subscriptions] at h
    exact .inl h
  | _ => exact .inl h

/-- Subscriptions keep their owner. -/
theorem step_subscription {s t : State} {a : Action} {out : Output} (h : step s a = some (t, out))
    (hlookup : t.subscriptions.lookup id = some subscription) :
    (∃ before, s.subscriptions.lookup id = some before ∧
      before.owner = subscription.owner) ∨ a.SubscribesFor id subscription.owner := by
  have hsame : s.subscriptions.lookup id = some subscription →
      (∃ before, s.subscriptions.lookup id = some before ∧
        before.owner = subscription.owner) ∨ a.SubscribesFor id subscription.owner :=
    fun h => .inl ⟨subscription, h, rfl⟩
  cases a with
  | tick ms =>
    cases h
    exact hsame hlookup
  | close other =>
    cases h
    dsimp only at hlookup
    split at hlookup
    · rename_i closed hclosed
      rw [Table.lookup_insert_ite] at hlookup
      split_ifs at hlookup with heq
      · cases hlookup
        exact .inl ⟨closed, heq ▸ hclosed, rfl⟩
      · exact hsame hlookup
    · exact hsame hlookup
  | finish job | crash job =>
    rw [step] at h
    split at h
    · cases h
      exact hsame hlookup
    · cases h
  | receive control alive admits =>
    rw [step] at h
    split at h
    · obtain ⟨rfl, rfl⟩ := Prod.mk.inj (Option.some.inj h).symm
      cases alive with
      | false =>
        cases control <;> first | exact hsame hlookup | cases hlookup
      | true =>
        have hhandled : (handleControl s admits control).1.subscriptions.lookup id =
            some subscription := by
          cases control <;> first | exact hlookup | cases hlookup
        rcases handleControl_subscription hhandled with hold | hnew
        · exact hsame hold
        · exact .inr hnew
    · cases h
  | due alive admits =>
    rw [step] at h
    split at h
    · cases alive with
      | true =>
        cases h
        rw [requestSharedRefresh_subscriptions] at hlookup
        exact hsame hlookup
      | false =>
        cases h
        exact hsame hlookup
    · cases h

end Subscriptions

end NmDaemon
