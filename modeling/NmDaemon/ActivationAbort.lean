import NmDaemon.NetworkWorld

/-!
# Activation aborts

A connect request that is cancelled, or whose time is up, or whose owner is gone, has an
abort queued. The abort runs later, when the request may be over and others may have been
made. It looks at what the Wi-Fi devices carry and disconnects what is for the SSID of the
request it was queued for. Here is what follows from that: the connections of other
networks are safe from it, those of the same network are not.

* `Registered`, `Sourced` — a queued abort has the SSID its request was registered with;
* `Inspected` — what the abort has seen of a connection before it disconnects it;
* `abort_spares_other_networks` — every abort, at whatever time and interleaved with
  whatever;
* `late_abort_disconnects_successor` — an abort that comes after the next request for the
  network has connected.
-/

namespace NmDaemon

namespace Network

open Client (Prog Service Exec Event Ends Assertion Guarantee Stable ask)
open NmDaemon.Runtime (DaemonRuntime SsidBytes Abort CancelledTask abortCancelledConnect)
open Wifi (settingsMatchWifiSsid wifiSettingsSection settingBytes)

/-! ## What is queued -/

variable {s s' : DaemonRuntime} {a : Runtime.Action} {o : Runtime.Answer}

/-- What an action can do to the cancelled tasks and the queued aborts. -/
inductive Queueing (s s' : DaemonRuntime) : Prop
  | same (hunsent : s'.unsent = s.unsent) (haborts : s'.aborts = s.aborts)
  | keep (cancelled : List (String × CancelledTask)) (hunsent : s'.unsent = s.unsent ++ cancelled)
      (haborts : s'.aborts = s.aborts)
      (htasks : ∀ e ∈ cancelled, ∃ task, s.tasks.lookup e.1 = some task ∧
        e.2 = task.cancelled)
  | submit (id : String) (task : CancelledTask) (hunsent : s.unsent = (id, task) :: s'.unsent)
      (haborts : ∀ abort ∈ s'.aborts, abort ∈ s.aborts ∨
        abortCancelledConnect id task = some abort)

theorem step_queueing (hstep : Runtime.step s a = some (s', o)) : Queueing s s' := by
  cases a with
  | drop cell | disown cell | beginStore cell event =>
    simp only [Runtime.step] at hstep
    split at hstep <;> cases hstep
    exact .same rfl rfl
  | commitStore cell lost =>
    simp only [Runtime.step] at hstep
    split at hstep
    · simp only [DaemonRuntime.storeTerminalResult] at hstep
      split at hstep
      · cases hstep
        exact .same rfl rfl
      split at hstep <;> cases hstep <;> exact .same rfl rfl
    · cases hstep
  | progress cell event =>
    simp only [Runtime.step] at hstep
    split at hstep
    · simp only [DaemonRuntime.storeConnectProgress] at hstep
      split at hstep
      · cases hstep
        exact .same rfl rfl
      split at hstep
      · cases hstep
        exact .same rfl rfl
      split at hstep <;> cases hstep <;> exact .same rfl rfl
    · cases hstep
  | cancel id owner =>
    simp only [Runtime.step, Runtime.keepUnsent, DaemonRuntime.cancelTask] at hstep
    split at hstep
    · cases hstep
      exact .same (List.append_nil _) rfl
    · rename_i task htask
      cases hstep
      refine .keep [(id, task.cancelled)] rfl rfl fun e he => ?_
      obtain rfl := List.mem_singleton.mp he
      exact ⟨task, (Option.filter_eq_some_iff.mp htask).1, rfl⟩
  | expire id =>
    simp only [Runtime.step, Runtime.keepUnsent, DaemonRuntime.expireConnect] at hstep
    split at hstep
    · cases hstep
      exact .same (List.append_nil _) rfl
    rename_i task htask
    split at hstep
    · cases hstep
      exact .same (List.append_nil _) rfl
    · cases hstep
      refine .keep [(id, task.cancelled)] rfl rfl fun e he => ?_
      obtain rfl := List.mem_singleton.mp he
      exact ⟨task, (Option.filter_eq_some_iff.mp htask).1, rfl⟩
  | dropOwner owner =>
    cases hstep
    refine .keep _ rfl rfl fun e he => ?_
    obtain ⟨⟨id, task⟩, hmem, rfl⟩ := List.mem_map.mp he
    exact ⟨task, Table.mem_pairs.mp (List.mem_filter.mp hmem).1, rfl⟩
  | submitAbort accepted =>
    simp only [Runtime.step] at hstep
    split at hstep
    · cases hstep
    rename_i id task rest hunsent
    cases hstep
    refine .submit id task hunsent fun abort habort => ?_
    cases accepted with
    | false => exact .inl habort
    | true => exact (List.mem_append.mp habort).imp_right Option.mem_toList.mp
  | _ =>
    cases hstep
    exact .same rfl rfl

/-- A connect request for the SSID was registered under the id. -/
def Registered (log : List (Action × Unit)) (id : String) (ssid : SsidBytes) : Prop :=
  ∃ owner destination now,
    (Action.runtime (.register id .connect owner (some ssid) destination now), ()) ∈ log

/-- Tasks and aborts have the SSIDs of registered requests. -/
structure Sourced (log : List (Action × Unit)) (runtime : DaemonRuntime) : Prop where
  task : ∀ id task ssid, runtime.tasks.lookup id = some task → task.kind = .connect →
    task.targetSsid = some ssid → Registered log id ssid
  unsent : ∀ e ∈ runtime.unsent, ∀ ssid, e.2.kind = .connect → e.2.targetSsid = some ssid →
    Registered log e.1 ssid
  abort : ∀ abort ∈ runtime.aborts, Registered log abort.requestId abort.targetSsid

variable {log : List (Action × Unit)} {id : String} {ssid : SsidBytes}

theorem Registered.snoc (h : Registered log id ssid) (e : Action × Unit) :
    Registered (log ++ [e]) id ssid := by
  obtain ⟨owner, destination, now, hmem⟩ := h
  exact ⟨owner, destination, now, List.mem_append_left _ hmem⟩

theorem abortCancelledConnect_some {task : CancelledTask} {abort : Abort}
    (h : abortCancelledConnect id task = some abort) :
    task.kind = .connect ∧ task.targetSsid = some abort.targetSsid ∧ abort.requestId = id := by
  rw [abortCancelledConnect] at h
  split at h
  · rename_i hkind
    obtain ⟨ssid, hssid, rfl⟩ := Option.map_eq_some_iff.mp h
    exact ⟨hkind, hssid, rfl⟩
  · cases h

theorem Sourced.step (h : Sourced log s) (hstep : Runtime.step s a = some (s', o)) :
    Sourced (log ++ [(.runtime a, ())]) s' := by
  refine ⟨fun id task ssid htask hkind hssid => ?_, fun e he ssid hkind hssid => ?_,
    fun abort habort => ?_⟩
  · rcases (Runtime.step_effect hstep).task_origin htask with
      ⟨old, hold, hkind', hssid', -⟩ | ⟨-, owner, destination, now, rfl⟩
    · exact (h.task id old ssid hold (hkind'.trans hkind) (hssid'.trans hssid)).snoc _
    · rw [hkind, hssid]
      exact ⟨owner, destination, now, List.mem_append_right _ (List.mem_singleton_self _)⟩
  · cases step_queueing hstep with
    | same hunsent _ => exact (h.unsent e (hunsent ▸ he) ssid hkind hssid).snoc _
    | keep cancelled hunsent _ htasks =>
      rcases List.mem_append.mp (hunsent ▸ he) with he | he
      · exact (h.unsent e he ssid hkind hssid).snoc _
      · obtain ⟨task, htask, hcancelled⟩ := htasks e he
        rw [hcancelled] at hkind hssid
        exact (h.task e.1 task ssid htask hkind hssid).snoc _
    | submit id task hunsent _ =>
      refine (h.unsent e ?_ ssid hkind hssid).snoc _
      rw [hunsent]
      exact List.mem_cons_of_mem _ he
  · cases step_queueing hstep with
    | same _ haborts | keep _ _ haborts _ => exact (h.abort abort (haborts ▸ habort)).snoc _
    | submit id task hunsent haborts =>
      rcases haborts abort habort with habort | hsome
      · exact (h.abort abort habort).snoc _
      · obtain ⟨hkind, hssid, hid⟩ := abortCancelledConnect_some hsome
        rw [hid]
        refine (h.unsent (id, task) ?_ _ hkind hssid).snoc _
        rw [hunsent]
        exact List.mem_cons_self

theorem Sourced.snoc (h : Sourced log s) (e : Action × Unit) : Sourced (log ++ [e]) s :=
  ⟨fun id task ssid htask hkind hssid => (h.task id task ssid htask hkind hssid).snoc e,
    fun e' he ssid hkind hssid => (h.unsent e' he ssid hkind hssid).snoc e,
    fun abort habort => (h.abort abort habort).snoc e⟩

/-- Only the runtime's own actions change the runtime. -/
theorem step_runtime {w w' : World} {action : Action} (hstep : step w action = some (w', ())) :
    w'.runtime = w.runtime ∨
      ∃ a o, action = .runtime a ∧ Runtime.step w.runtime a = some (w'.runtime, o) := by
  cases action with
  | runtime a =>
    obtain ⟨⟨runtime, o⟩, hr, heq⟩ := Option.map_eq_some_iff.mp hstep
    cases heq
    exact .inr ⟨a, o, rfl, hr⟩
  | activate cell device path profile =>
    simp only [step] at hstep
    split at hstep
    · split at hstep <;> cases hstep
      exact .inl rfl
    · cases hstep
  | link device path profile =>
    simp only [step] at hstep
    split at hstep <;> cases hstep
    exact .inl rfl
  | _ =>
    cases hstep
    exact .inl rfl

theorem run_sourced {w : World} (hrun : world.Reaches log w) : Sourced log w.runtime := by
  refine hrun.invariant (fun log w => Sourced log w.runtime)
    ⟨fun id task ssid htask => ?_, fun e he => ?_, fun abort habort => ?_⟩ ?_
  · rw [show world.start.runtime.tasks = ∅ from rfl, AList.lookup_empty] at htask
    cases htask
  · cases he
  · cases habort
  · intro log w w' action _ _ h hstep
    rcases step_runtime hstep with hsame | ⟨a, o, rfl, hr⟩
    · rw [hsame]
      exact h.snoc _
    · exact h.step hr

/-! ## What an abort disconnects -/

/-- An active connection of this profile. -/
def Linked (path profile : String) (w : World) : Prop :=
  ∃ link, w.links.lookup path = some link ∧ link.profile = profile

/-- Active connections keep their profiles and the requests they are of. -/
theorem step_link {w w' : World} {action : Action} (hstep : step w action = some (w', ()))
    {path : String} {link : Link} (hlink : w.links.lookup path = some link) :
    w'.links.lookup path = some link := by
  -- a new connection has a new path
  have hbring : ∀ device new added, w.links.lookup new = none →
      (w.bring device new added).links.lookup path = some link := by
    intro device new added hnew
    rw [World.bring, Table.lookup_insert_ite, if_neg, hlink]
    rintro rfl
    rw [hnew] at hlink
    cases hlink
  cases action with
  | runtime a =>
    obtain ⟨r, -, heq⟩ := Option.map_eq_some_iff.mp hstep
    cases heq
    exact hlink
  | activate cell device new profile =>
    simp only [step] at hstep
    split at hstep
    · split at hstep
      · rename_i hnew
        cases hstep
        exact hbring device new _ hnew.2
      · cases hstep
    · cases hstep
  | link device new profile =>
    simp only [step] at hstep
    split at hstep
    · rename_i hnew
      cases hstep
      exact hbring device new _ hnew
    · cases hstep
  | _ =>
    cases hstep
    exact hlink

/-- The settings of the profile were read, and they were for the SSID. -/
def Inspected (ssid : SsidBytes) (profile : String)
    (history : List (Event World Ask Reply Action)) : Prop :=
  ∃ l₁ l₂ w settings, history = l₁ ++ .own w (.getSettings profile) (.ok settings) :: l₂ ∧
    w.profiles.lookup profile = some settings ∧ settingsMatchWifiSsid settings ssid = true

/-- What is disconnected is an active connection whose profile was seen to be for the
SSID. -/
def Targeted (ssid : SsidBytes) : Guarantee World Ask Reply Action := fun history w c _ =>
  ∀ path, c = .deactivate path → ∃ profile, Linked path profile w ∧ Inspected ssid profile history

theorem Inspected.snoc {profile : String} {history : List (Event World Ask Reply Action)}
    (h : Inspected ssid profile history) (e : Event World Ask Reply Action) :
    Inspected ssid profile (history ++ [e]) := by
  obtain ⟨l₁, l₂, w, settings, rfl, hsettings⟩ := h
  exact ⟨l₁, l₂ ++ [e], w, settings, by simp, hsettings⟩

theorem stable_linked {path profile : String} : Stable daemon fun _ => Linked path profile := by
  rintro history w action w' ⟨link, hlink, rfl⟩ hstep
  obtain ⟨⟨v, u⟩, hv, rfl⟩ := Option.map_eq_some_iff.mp hstep
  exact ⟨link, step_link hv hlink, rfl⟩

theorem stable_inspected {path profile : String} :
    Stable daemon fun history w => Linked path profile w ∧ Inspected ssid profile history :=
  fun history w action w' h hstep =>
    ⟨stable_linked history w action w' h.1 hstep, h.2.snoc _⟩

/-- Nothing known, nothing to be kept. -/
theorem stable_true : Stable daemon fun _ _ => True := fun _ _ _ _ _ _ => trivial

/-- A question that disconnects nothing. -/
theorem ends_look {α : Type} {c : Ask} {f : Reply c → Except ErrorReport α}
    (hc : ∀ path, c ≠ .deactivate path) :
    Ends daemon (Targeted ssid) (fun _ _ => True) (ask c f) (fun _ _ _ => True)
      fun _ _ _ => True := by
  refine .ask stable_true fun history w r w' _ _ => ⟨fun path h => absurd h (hc path), ?_⟩
  cases f r <;> trivial

/-- If the connection is for the SSID, its profile was seen to be. -/
theorem ends_activeConnectionMatchesSsid (path : String) :
    Ends daemon (Targeted ssid) (fun _ _ => True) (activeConnectionMatchesSsid path ssid)
      (fun matched history w => matched = true →
        ∃ profile, Linked path profile w ∧ Inspected ssid profile history)
      fun _ _ _ => True := by
  refine .bind (Q := fun profile _ w => ∀ found, profile = some found → Linked path found w)
    (.ask stable_true fun history w r w' _ hserve => ⟨nofun, fun found hfound => ?_⟩)
    fun profile => ?_
  · subst hfound
    simp only [daemon, serve] at hserve
    split at hserve
    · rename_i hprofile
      cases hserve
      obtain ⟨link, hlink, hprofile⟩ := Option.map_eq_some_iff.mp hprofile
      exact ⟨link, hlink, hprofile⟩
    · cases hserve
  · cases profile with
    | none => exact .pure fun _ _ _ hfalse => nomatch hfalse
    | some profile =>
      refine .conseq (P := fun _ => Linked path profile) (.ask stable_linked
        (F := fun _ _ _ => True)
        (Q := fun matched history w => matched = true →
          ∃ profile, Linked path profile w ∧ Inspected ssid profile history)
        fun history w r w' hlinked hserve => ⟨nofun, ?_⟩)
        (fun _ _ h => h profile rfl) (fun _ _ _ h => h) fun _ _ _ h => h
      cases r with
      | error e => trivial
      | ok settings =>
        intro hmatched
        simp only [daemon, serve] at hserve
        split at hserve
        · rename_i hsettings
          cases hserve
          exact ⟨profile, hlinked, history, [], w, settings, rfl, hsettings, hmatched⟩
        · cases hserve

/-- Device after device. -/
theorem ends_disconnectDevices (devices : List String) (disconnected : Bool) :
    Ends daemon (Targeted ssid) (fun _ _ => True) (disconnectDevices ssid devices disconnected)
      (fun _ _ _ => True) fun _ _ _ => True := by
  induction devices generalizing disconnected with
  | nil => exact .pure fun _ _ _ => trivial
  | cons device devices ih =>
    refine .bind (ends_look nofun) fun active => ?_
    cases active with
    | none => exact ih disconnected
    | some path =>
      refine .bind (ends_activeConnectionMatchesSsid path) fun matched => ?_
      cases matched with
      | false =>
        exact (ih disconnected).conseq (fun _ _ _ => trivial) (fun _ _ _ h => h) (fun _ _ _ h => h)
      | true =>
        refine .conseq (P := fun history w =>
          ∃ profile, Linked path profile w ∧ Inspected ssid profile history)
          ?_ (fun _ _ h => h rfl) (fun _ _ _ h => h) fun _ _ _ h => h
        refine .choose fun profile => .bind (Q := fun _ _ _ => True)
          (.ask stable_inspected fun history w r w' h _ => ⟨?_, ?_⟩) fun _ => ih true
        · rintro path' ⟨⟩
          exact ⟨profile, h⟩
        · cases r <;> trivial

theorem ends_disconnectWifiForSsid :
    Ends daemon (Targeted ssid) (fun _ _ => True) (disconnectWifiForSsid ssid)
      (fun _ _ _ => True) fun _ _ _ => True :=
  .bind (ends_look nofun) fun devices => ends_disconnectDevices devices false

theorem ends_runAbort (abort : Abort) :
    Ends daemon (Targeted abort.targetSsid) (fun _ _ => True) (runAbort abort)
      (fun _ _ _ => True) fun _ _ _ => True := by
  refine .bind (Q := fun _ _ _ => True) ?_ fun _ => ends_disconnectWifiForSsid
  unfold ensureOwner ensureCurrentOwner
  split
  · refine .bind (Q := fun _ _ _ => True) (ends_look nofun) fun owner => ?_
    exact .ensure (fun _ _ _ h => h) fun _ _ _ _ => trivial
  · exact .pure fun _ _ h => h

/-- A profile is for one SSID only. -/
theorem settingsMatchWifiSsid_unique {settings : ConnectionSettings} {ssid' : SsidBytes}
    (h : settingsMatchWifiSsid settings ssid = true)
    (h' : settingsMatchWifiSsid settings ssid' = true) : ssid = ssid' := by
  rw [settingsMatchWifiSsid] at h h'
  cases hsection : wifiSettingsSection settings with
  | none =>
    rw [hsection] at h
    cases h
  | some wireless =>
    rw [hsection, Option.any_some] at h h'
    cases hsaved : setting settingBytes wireless "ssid" with
    | none =>
      rw [hsaved] at h
      cases h
    | some saved =>
      rw [hsaved, Option.any_some, decide_eq_true_eq] at h h'
      exact h.symm.trans h'

/-- **An abort spares other networks.** A queued abort is for the SSID its request was
registered with. Whenever it disconnects an active connection, it has read the settings of
that connection's profile, and they were for this SSID; so a connection another request
activated is only disconnected if it is for the same SSID, or its profile is no longer for
the SSID it was activated for. -/
theorem abort_spares_other_networks {w t : World} {abort : Abort}
    {history : List (Event World Ask Reply Action)} {p : Prog Ask Reply (Except ErrorReport Bool)}
    (hrun : world.Run world.start log w) (habort : abort ∈ w.runtime.aborts)
    (hexec : Exec daemon w (runAbort abort) history t p) :
    Registered log abort.requestId abort.targetSsid ∧
      ∀ (l₁ l₂ : List (Event World Ask Reply Action)) (u : World) (path : String)
        (r : Except ErrorReport Unit), history = l₁ ++ .own u (.deactivate path) r :: l₂ →
        ∃ link l₃ l₄ v settings, u.links.lookup path = some link ∧
          l₁ = l₃ ++ .own v (.getSettings link.profile) (.ok settings) :: l₄ ∧
          v.profiles.lookup link.profile = some settings ∧
          settingsMatchWifiSsid settings abort.targetSsid = true ∧
          ∀ cell ssid, link.request = some (cell, ssid) →
            settingsMatchWifiSsid settings ssid = true → ssid = abort.targetSsid := by
  refine ⟨(run_sourced hrun).abort abort habort, fun l₁ l₂ u path r hhistory => ?_⟩
  have hcalls := (hexec.sound (ends_runAbort abort [] w trivial)).2
  obtain ⟨profile, ⟨link, hlink, rfl⟩, l₃, l₄, v, settings, hl₁, hsettings, hmatch⟩ :=
    hcalls l₁ l₂ u (.deactivate path) r hhistory path rfl
  refine ⟨link, l₃, l₄, v, settings, hlink, hl₁, hsettings, hmatch, fun cell ssid _ hssid => ?_⟩
  exact settingsMatchWifiSsid_unique hssid hmatch

/-! ## Two aborts -/

def homeSsid : SsidBytes := [104, 111, 109, 101]

def homeSettings : ConnectionSettings :=
  tableOf [("802-11-wireless", tableOf [("ssid", .array "y" (homeSsid.map .byte))])]

/-- A connect request for the network. -/
def connectHome (id : String) : Action :=
  .runtime (.register id .connect none (some homeSsid) ":1.5" 0)

/-- NetworkManager with a device, and a profile for the network. -/
def homeWorld : List Action :=
  [.restart ":1.5", .devices ["/device"], .save "/profile" homeSettings]

/-- The answers of a NetworkManager whose device carries a connection. -/
def homeAnswers : (c : Ask) → Option (Reply c)
  | .currentOwner => some (.ok ":1.5")
  | .wifiDevices => some (.ok ["/device"])
  | .activeConnection _ => some (.ok (some "/active"))
  | .activeProfile _ => some (some "/profile")
  | .getSettings _ => some (.ok homeSettings)
  | .deactivate _ => some (.ok ())
  | _ => none

def homeAbort : Abort := ⟨"connect-1", homeSsid, ":1.5"⟩

/-- A request connects and is cancelled. -/
def cancelledConnect : List Action :=
  homeWorld ++ [connectHome "connect-1", .activate 0 "/device" "/active" "/profile",
    .runtime (.cancel "connect-1" none), .runtime (.submitAbort true)]

/-- A request is cancelled and over. The next one for the network connects before the abort
of the first has its turn. -/
def successorConnect : List Action :=
  homeWorld ++ [connectHome "connect-1", .runtime (.cancel "connect-1" none),
    .runtime (.submitAbort true), .runtime (.drop 0), connectHome "connect-2",
    .activate 1 "/device" "/active" "/profile"]

/-- The log of some actions, and the world after them. -/
def after (actions : List Action) : List (Action × Unit) × World :=
  (world.exec world.start actions).getD ([], world.start)

/-- The abort runs after some actions. -/
def aborted (actions : List Action) : List (Event World Ask Reply Action) × World ×
    Prog Ask Reply (Except ErrorReport Bool) :=
  Client.drive daemon homeAnswers (after actions).2 (runAbort homeAbort)

theorem abort_spares_other_networks_cancelled :
    Registered (after cancelledConnect).1 "connect-1" homeSsid ∧
      ∃ link, (after cancelledConnect).2.links.lookup "/active" = some link ∧
        ∃ (v : World) (settings : ConnectionSettings),
          v.profiles.lookup link.profile = some settings ∧
          settingsMatchWifiSsid settings homeSsid = true := by
  have hrun : world.Run world.start (after cancelledConnect).1 (after cancelledConnect).2 :=
    Machine.exec_run world world.start cancelledConnect rfl
  have hpending : homeAbort ∈ (after cancelledConnect).2.runtime.aborts := List.mem_singleton_self _
  obtain ⟨hregistered, hspares⟩ := abort_spares_other_networks hrun hpending
    (Exec.drive homeAnswers _ (runAbort homeAbort))
  obtain ⟨link, -, -, v, settings, hlink, -, hsettings, hmatch, -⟩ :=
    hspares ((aborted cancelledConnect).1.take 5) [] (after cancelledConnect).2 "/active" (.ok ())
      rfl
  exact ⟨hregistered, link, hlink, v, settings, hsettings, hmatch⟩

/-- The abort disconnects the connection of the next request, which nobody has cancelled. -/
theorem late_abort_disconnects_successor :
    ¬ ∀ (log : List (Action × Unit)) (w t : World) (abort : Abort)
        (history : List (Event World Ask Reply Action))
        (p : Prog Ask Reply (Except ErrorReport Bool)),
        world.Run world.start log w → abort ∈ w.runtime.aborts →
        Exec daemon w (runAbort abort) history t p →
        ∀ (u : World) (path : String) (link : Link) (cell : ℕ) (ssid : SsidBytes)
          (registration : Runtime.Registration),
          .own u (.deactivate path) (.ok ()) ∈ history → u.links.lookup path = some link →
          link.request = some (cell, ssid) →
          u.runtime.workers.lookup cell = some registration →
          registration.requestId ≠ abort.requestId → cell ∈ u.runtime.raised := by
  intro hall
  have hrun : world.Run world.start (after successorConnect).1 (after successorConnect).2 :=
    Machine.exec_run world world.start successorConnect rfl
  have hmem : .own (after successorConnect).2 (.deactivate "/active") (.ok ()) ∈
      (aborted successorConnect).1 :=
    List.mem_append_right ((aborted successorConnect).1.take 5) (List.mem_singleton_self _)
  have hraised := hall _ _ _ homeAbort _ _ hrun (List.mem_singleton_self _)
    (Exec.drive homeAnswers _ (runAbort homeAbort)) _ _ ⟨"/profile", some (1, homeSsid)⟩ 1 homeSsid
    ⟨"connect-2", .connect, none⟩ hmem rfl rfl rfl (by decide)
  exact absurd hraised (by decide)

end Network

end NmDaemon
