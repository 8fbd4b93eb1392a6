import NmDaemon.ForgetNetwork

/-!
# What is true when a network is forgotten

* `Fenced` — every connect task for the SSID is newer than the cancellation, or still waited
  for; kept by everything that can happen;
* `Known` — a profile that was read and is of the SSID;
* `forget_deletes_after_cancellation` — every deletion of every execution;
* `forget_races_new_connect` — an execution in which a request is registered in between.

Tasks are told apart by their flags, which are numbered in the order of registration: a
task is newer than the cancellation if its flag was not allocated yet then.
-/

namespace NmDaemon

namespace Network

open Client (Prog Service Exec Event Ends Assertion Guarantee Stable ask lift outcome)
open NmDaemon.Runtime (DaemonRuntime SsidBytes TaskHandle)
open Wifi (SavedWifiConnection savedWifiConnectionFromSettings)

abbrev History : Type := List (Event World Ask Reply Action)

variable {ssid : SsidBytes} {n : ℕ} {ids : List String} {history : History} {w w' : World}

/-! ## Tasks -/

/-- The connect tasks for the SSID were cancelled when `n` flags were allocated. -/
def CancelledAt (ssid : SsidBytes) (n : ℕ) (history : History) : Prop :=
  ∃ l₁ l₂ w ids, history = l₁ ++ .own w (.cancelConnects ssid) ids :: l₂ ∧ w.runtime.cells = n

/-- Connect tasks for the SSID have a flag from `n` on, or one of the ids. -/
def Newer (ssid : SsidBytes) (n : ℕ) (ids : List String) (runtime : DaemonRuntime) : Prop :=
  n ≤ runtime.cells ∧ ∀ id task, runtime.tasks.lookup id = some task →
    task.kind = .connect → task.targetSsid = some ssid → n ≤ task.cancellation ∨ id ∈ ids

theorem Newer.step {s s' : DaemonRuntime} {a : Runtime.Action} {o : Runtime.Answer}
    (h : Newer ssid n ids s) (hstep : Runtime.step s a = some (s', o)) : Newer ssid n ids s' := by
  have heffect := Runtime.step_effect hstep
  refine ⟨h.1.trans heffect.cells, fun id task htask hkind hssid => ?_⟩
  rcases heffect.task_origin htask with ⟨old, hold, hkind', hssid', hcell⟩ | ⟨hcell, -⟩
  · rw [← hcell]
    exact h.2 id old hold (hkind'.trans hkind) (hssid'.trans hssid)
  · rw [hcell]
    exact .inl h.1

/-- The tasks that are cancelled are all there are. -/
theorem newer_cancelConnects (s : DaemonRuntime) (ssid : SsidBytes) :
    Newer ssid s.cells (s.cancelConnectsForSsid ssid).2 (s.cancelConnectsForSsid ssid).1 := by
  refine ⟨le_rfl, fun id task htask hkind hssid => .inr ?_⟩
  rw [DaemonRuntime.cancelConnectsForSsid, List.mem_mergeSort, List.mem_map]
  refine ⟨(id, task), List.mem_filter.mpr ⟨Table.mem_pairs.mpr htask, ?_⟩, rfl⟩
  rw [decide_eq_true_eq]
  exact ⟨hkind, hssid⟩

/-- When nothing is pending the tasks that were waited for are gone. -/
theorem Newer.waited {s : DaemonRuntime} (h : Newer ssid n ids s)
    (hpending : pendingTaskIds s ids = []) : Newer ssid n [] s := by
  refine ⟨h.1, fun id task htask hkind hssid => .inl ?_⟩
  rcases h.2 id task htask hkind hssid with hnew | hid
  · exact hnew
  · have hmem : id ∈ pendingTaskIds s ids := by
      rw [pendingTaskIds, List.mem_insertionSort, List.mem_filter]
      exact ⟨hid, by rw [htask]; rfl⟩
    rw [hpending] at hmem
    cases hmem

def Fenced (ssid : SsidBytes) (n : ℕ) (ids : List String) : Assertion World Ask Reply Action :=
  fun history w => CancelledAt ssid n history ∧ Newer ssid n ids w.runtime

/-! ## Profiles -/

/-- The profile is what its settings, as they were read, say. -/
def Read (profile : SavedWifiConnection) (history : History) : Prop :=
  ∃ l₁ l₂ w settings,
    history = l₁ ++ .own w (.getSettings profile.path) (.ok settings) :: l₂ ∧
    w.profiles.lookup profile.path = some settings ∧
    savedWifiConnectionFromSettings profile.path settings = some profile

/-- A profile that was read and is of the SSID. -/
def Known (ssid : SsidBytes) (path : String) (history : History) : Prop :=
  ∃ profile, profile.path = path ∧ profile.ssidBytes = ssid ∧ Read profile history

/-- A fact about the past. -/
def Past (K : History → Prop) : Prop := ∀ history e, K history → K (history ++ [e])

theorem past_cancelledAt : Past (CancelledAt ssid n) := by
  rintro history e ⟨l₁, l₂, w, ids, rfl, hcells⟩
  exact ⟨l₁, l₂ ++ [e], w, ids, by simp, hcells⟩

theorem past_read {profile : SavedWifiConnection} : Past (Read profile) := by
  rintro history e ⟨l₁, l₂, w, settings, rfl, hread⟩
  exact ⟨l₁, l₂ ++ [e], w, settings, by simp, hread⟩

/-- All of them were read. -/
def AllRead (profiles : List SavedWifiConnection) (history : History) : Prop :=
  ∀ profile ∈ profiles, Read profile history

theorem past_allRead {profiles : List SavedWifiConnection} : Past (AllRead profiles) :=
  fun history e h profile hprofile => past_read history e (h profile hprofile)

theorem past_and {K K' : History → Prop} (h : Past K) (h' : Past K') :
    Past fun history => K history ∧ K' history :=
  fun history e hK => ⟨h history e hK.1, h' history e hK.2⟩

theorem past_true : Past fun _ => True := fun _ _ _ => trivial

/-- What is deleted is known, and connect tasks are newer than the cancellation. -/
def DeletesKnown (ssid : SsidBytes) : Guarantee World Ask Reply Action := fun history w c _ =>
  ∀ profile, c = .delete profile →
    Known ssid profile history ∧ ∃ n, Fenced ssid n [] history w

/-! ## Questions -/

/-- What is known while the operation is under way: the fence, and something about the
past. -/
def Under (ssid : SsidBytes) (n : ℕ) (ids : List String) (K : History → Prop) :
    Assertion World Ask Reply Action := fun history w => Fenced ssid n ids history w ∧ K history

variable {K : History → Prop} {α : Type}

theorem stable_under (hK : Past K) : Stable daemon (Under ssid n ids K) := by
  rintro history w action w' ⟨⟨hcancelled, hnewer⟩, hpast⟩ hstep
  obtain ⟨⟨v, u⟩, hv, rfl⟩ := Option.map_eq_some_iff.mp hstep
  refine ⟨⟨past_cancelledAt _ _ hcancelled, ?_⟩, hK _ _ hpast⟩
  rcases step_runtime hv with hsame | ⟨a, o, -, hr⟩
  · rw [hsame]
    exact hnewer
  · exact hnewer.step hr

/-- Only the cancellation of connect tasks is a question to the runtime. -/
theorem serve_runtime {c : Ask} {r : Reply c} (hserve : serve w c r = some w')
    (hc : ∀ ssid, c ≠ .cancelConnects ssid) : w'.runtime = w.runtime := by
  have hanswered : ∀ {β : Type} [DecidableEq β] (value : β) (reply : Except ErrorReport β),
      answered w value reply = some w' → w'.runtime = w.runtime := by
    intro β _ value reply h
    cases reply with
    | error e =>
      cases h
      rfl
    | ok b =>
      rw [answered] at h
      split at h <;> cases h
      rfl
  have hchanged : ∀ (v : World) (reply : Except ErrorReport Unit), changed w v reply = some w' →
      v.runtime = w.runtime → w'.runtime = w.runtime := by
    intro v reply h hv
    cases reply <;> cases h
    · rfl
    · exact hv
  cases c with
  | currentOwner | wifiDevices | activeConnection device | listConnections =>
    exact hanswered _ _ hserve
  | deactivate path | disableAutoconnect profile | delete profile =>
    exact hchanged _ _ hserve rfl
  | activeProfile path | getSettings profile =>
    simp only [serve] at hserve
    split at hserve
    · split at hserve <;> cases hserve
      rfl
    · cases hserve
      rfl
  | cancelConnects ssid => exact absurd rfl (hc ssid)
  | waitForTasks ids =>
    simp only [serve] at hserve
    split at hserve <;> cases hserve
    rfl
  | submitWork | expired =>
    cases hserve
    rfl

/-- A question while the operation is under way. -/
theorem ends_under {c : Ask} {f : Reply c → Except ErrorReport α} {K' : α → History → Prop}
    (hK : Past K) (hc : ∀ ssid, c ≠ .cancelConnects ssid)
    (hdelete : ∀ profile history, c = .delete profile → K history →
      Known ssid profile history ∧ ids = [])
    (h : ∀ history w r w', K history → serve w c r = some w' → ∀ a, f r = .ok a →
      K' a (history ++ [.own w c r])) :
    Ends daemon (DeletesKnown ssid) (Under ssid n ids K) (ask c f)
      (fun a => Under ssid n ids (K' a)) fun _ _ _ => True := by
  refine .ask (stable_under hK) ?_
  rintro history w r w' ⟨⟨hcancelled, hnewer⟩, hpast⟩ hserve
  refine ⟨fun profile hprofile => ?_, ?_⟩
  · obtain ⟨hknown, rfl⟩ := hdelete profile history hprofile hpast
    exact ⟨hknown, n, hcancelled, hnewer⟩
  · cases hf : f r with
    | error e => trivial
    | ok a =>
      refine ⟨⟨past_cancelledAt _ _ hcancelled, ?_⟩, h history w r w' hpast hserve a hf⟩
      rw [serve_runtime hserve hc]
      exact hnewer

/-- A part that deletes nothing and keeps what is known. -/
def Passing (ssid : SsidBytes) (n : ℕ) (ids : List String) (p : Process α) : Prop :=
  ∀ K, Past K → Ends daemon (DeletesKnown ssid) (Under ssid n ids K) p
    (fun _ => Under ssid n ids K) fun _ _ _ => True

namespace Passing

variable {β : Type}

theorem pure (a : α) : Passing ssid n ids (Pure.pure a : Process α) :=
  fun _ _ => .pure fun _ _ h => h

theorem bind {p : Process α} {f : α → Process β} (hp : Passing ssid n ids p)
    (hf : ∀ a, Passing ssid n ids (f a)) : Passing ssid n ids (p >>= f) :=
  fun K hK => .bind (hp K hK) fun a => hf a K hK

theorem ask {c : Ask} {f : Reply c → Except ErrorReport α} (hc : ∀ ssid, c ≠ .cancelConnects ssid)
    (hdelete : ∀ profile, c ≠ .delete profile) : Passing ssid n ids (Client.ask c f) :=
  fun _ hK => ends_under hK hc (fun profile _ h => absurd h (hdelete profile))
    fun history _ _ _ hpast _ _ _ => hK history _ hpast

end Passing

/-! ## The parts that only look -/

variable {other : SsidBytes}

theorem passing_matches (path : String) :
    Passing ssid n ids (activeConnectionMatchesSsid path other) := by
  refine .bind (.ask nofun nofun) fun profile => ?_
  cases profile with
  | none => exact .pure false
  | some profile => exact .ask nofun nofun

theorem passing_disconnectDevices (devices : List String) (disconnected : Bool) :
    Passing ssid n ids (disconnectDevices other devices disconnected) := by
  induction devices generalizing disconnected with
  | nil => exact .pure disconnected
  | cons device devices ih =>
    refine .bind (.ask nofun nofun) fun active => ?_
    cases active with
    | none => exact ih disconnected
    | some path =>
      refine .bind (passing_matches path) fun matched => ?_
      cases matched with
      | false => exact ih disconnected
      | true => exact .bind (.ask nofun nofun) fun _ => ih true

theorem passing_anyActive (devices : List String) : Passing ssid n ids (anyActive other devices) := by
  induction devices with
  | nil => exact .pure false
  | cons device devices ih =>
    refine .bind (.ask nofun nofun) fun active => ?_
    cases active with
    | none => exact ih
    | some path =>
      refine .bind (passing_matches path) fun matched => ?_
      cases matched with
      | false => exact ih
      | true => exact .pure true

theorem passing_wifiConnectionActiveForSsid :
    Passing ssid n ids (wifiConnectionActiveForSsid other) :=
  .bind (.ask nofun nofun) passing_anyActive

theorem passing_confirm (rounds : ℕ) : Passing ssid n ids (confirm other rounds) := by
  induction rounds with
  | zero => exact .pure false
  | succ rounds ih =>
    refine .bind (.ask nofun nofun) fun expired => ?_
    cases expired with
    | true => exact .pure false
    | false =>
      refine .bind passing_wifiConnectionActiveForSsid fun active => ?_
      cases active with
      | true => exact ih
      | false => exact .pure true

theorem passing_disconnectAndConfirm (rounds : ℕ) :
    Passing ssid n ids (disconnectAndConfirm other rounds) := by
  refine .bind (.bind (.ask nofun nofun) fun devices => passing_disconnectDevices devices false)
    fun _ => ?_
  exact .bind (passing_confirm rounds) fun _ => .pure _

theorem passing_disconnectIfActive (rounds : ℕ) (wasActive : Bool) :
    Passing ssid n ids (disconnectIfActive other rounds wasActive) := by
  cases wasActive with
  | true => exact passing_disconnectAndConfirm rounds
  | false => exact .pure _

theorem passing_disableAutoconnect (profiles : List SavedWifiConnection) :
    Passing ssid n ids (disableAutoconnect profiles) := by
  induction profiles with
  | nil => exact .pure []
  | cons profile profiles ih =>
    rw [disableAutoconnect]
    split
    · refine .bind (.ask nofun nofun) fun changed => .bind ih fun warnings => ?_
      cases changed <;> exact .pure _
    · exact ih

theorem passing_ensureOwner (destination : String) :
    Passing ssid n ids (ensureOwner destination) := by
  unfold ensureOwner ensureCurrentOwner
  split
  · refine .bind (.ask (by simp) (by simp)) fun owner K _ => ?_
    exact .ensure (fun _ _ _ h => h) fun _ _ _ _ => trivial
  · exact .pure ()

/-! ## The profiles -/

theorem savedWifiConnectionFromSettings_path {path : String} {settings : ConnectionSettings}
    {saved : SavedWifiConnection} (h : savedWifiConnectionFromSettings path settings = some saved) :
    saved.path = path := by
  rw [savedWifiConnectionFromSettings] at h
  obtain ⟨connection, -, h⟩ := Option.bind_eq_some_iff.mp h
  obtain ⟨wireless, -, h⟩ := Option.bind_eq_some_iff.mp h
  split at h <;> cases h
  rfl

/-- What is said of a profile was read. -/
theorem ends_connectionSettingsIfPresent (hK : Past K) (path : String) :
    Ends daemon (DeletesKnown ssid) (Under ssid n ids K) (connectionSettingsIfPresent path)
      (fun settings => Under ssid n ids fun history => K history ∧
        AllRead (settings.bind (savedWifiConnectionFromSettings path)).toList history)
      fun _ _ _ => True := by
  refine .bind (Q := fun reply => Under ssid n ids fun history => K history ∧
    AllRead (reply.toOption.bind (savedWifiConnectionFromSettings path)).toList history)
    (ends_under hK (by simp) (by simp) ?_) fun reply => ?_
  · rintro history w r w' hpast hserve _ ⟨⟩
    refine ⟨hK _ _ hpast, fun profile hprofile => ?_⟩
    cases r with
    | error e => cases hprofile
    | ok settings =>
      have hsaved : savedWifiConnectionFromSettings path settings = some profile :=
        Option.mem_toList.mp hprofile
      have hpath := savedWifiConnectionFromSettings_path hsaved
      simp only [serve] at hserve
      split at hserve
      · rename_i hsettings
        rw [← hpath] at hsettings hsaved ⊢
        exact ⟨history, [], w, settings, rfl, hsettings, hsaved⟩
      · cases hserve
  · cases reply with
    | ok settings => exact .pure fun _ _ h => h
    | error e =>
      refine .bind (Passing.ask (c := .listConnections) (by simp) (by simp) _
        (past_and hK past_allRead)) fun listed => ?_
      by_cases hlisted : path ∈ listed
      · rw [if_pos hlisted]
        exact .throw fun _ _ _ => trivial
      · rw [if_neg hlisted]
        exact .pure fun _ _ h => h

theorem ends_readConnections (hK : Past K) (paths : List String) :
    Ends daemon (DeletesKnown ssid) (Under ssid n ids K) (readConnections paths)
      (fun profiles => Under ssid n ids fun history => K history ∧ AllRead profiles history)
      fun _ _ _ => True := by
  induction paths generalizing K with
  | nil => exact .pure fun _ _ h => ⟨h.1, h.2, fun _ hprofile => nomatch hprofile⟩
  | cons path paths ih =>
    refine .bind (ends_connectionSettingsIfPresent hK path) fun settings => ?_
    refine .bind (ih (past_and hK past_allRead)) fun rest => .pure ?_
    rintro history w ⟨hfenced, ⟨hpast, hfirst⟩, hrest⟩
    refine ⟨hfenced, hpast, fun profile hprofile => ?_⟩
    rcases List.mem_append.mp hprofile with hprofile | hprofile
    · exact hfirst profile hprofile
    · exact hrest profile hprofile

/-- The profiles to be deleted were read and are of the SSID. -/
theorem ends_profilesFor (lowercase : String → String) :
    Ends daemon (DeletesKnown ssid) (Under ssid n ids fun _ => True) (profilesFor lowercase ssid)
      (fun profiles => Under ssid n ids fun history =>
        ∀ profile ∈ profiles, Known ssid profile.path history) fun _ _ _ => True := by
  refine .bind (Q := fun profiles => Under ssid n ids (AllRead profiles)) ?_ fun profiles => .pure ?_
  · refine .bind (Passing.ask (c := .listConnections) nofun nofun _ past_true) fun paths => ?_
    refine .bind (ends_readConnections past_true paths) fun profiles => .pure ?_
    rintro history w ⟨hfenced, -, hread⟩
    exact ⟨hfenced, fun profile hprofile => hread profile ((List.mem_insertionSort _).mp hprofile)⟩
  · rintro history w ⟨hfenced, hread⟩
    refine ⟨hfenced, fun profile hprofile => ?_⟩
    obtain ⟨hmem, hssid⟩ := List.mem_filter.mp hprofile
    exact ⟨profile, rfl, of_decide_eq_true hssid, hread profile hmem⟩

theorem past_known {path : String} : Past (Known ssid path) := by
  rintro history e ⟨profile, hpath, hssid, hread⟩
  exact ⟨profile, hpath, hssid, past_read history e hread⟩

theorem past_allKnown {profiles : List SavedWifiConnection} :
    Past fun history => ∀ profile ∈ profiles, Known ssid profile.path history :=
  fun history e h profile hprofile => past_known history e (h profile hprofile)

/-- Profile after profile. -/
theorem ends_deleteProfiles (profiles : List SavedWifiConnection) :
    Ends daemon (DeletesKnown ssid)
      (Under ssid n [] fun history => ∀ profile ∈ profiles, Known ssid profile.path history)
      (deleteProfiles profiles) (fun _ => Under ssid n [] fun _ => True) fun _ _ _ => True := by
  induction profiles with
  | nil => exact .pure fun _ _ h => ⟨h.1, trivial⟩
  | cons profile profiles ih =>
    refine .bind (Q := fun _ => Under ssid n [] fun history =>
      ∀ profile ∈ profiles, Known ssid profile.path history)
      (ends_under past_allKnown nofun ?_ ?_) fun reply => .bind ih fun rest => ?_
    · rintro path history ⟨⟩ hknown
      exact ⟨hknown profile List.mem_cons_self, rfl⟩
    · intro history w r w' hknown _ _ _ p hp
      exact past_known _ _ (hknown p (List.mem_cons_of_mem _ hp))
    · cases reply <;> exact .pure fun _ _ h => h

/-! ## The operation -/

variable {lowercase : String → String} {rounds : ℕ} {target : WifiConnectTarget}

theorem ends_run (cancelled : List String) :
    Ends daemon (DeletesKnown target.ssid.bytes) (Under target.ssid.bytes n [] fun _ => True)
      (ForgetService.run lowercase rounds target cancelled)
      (fun _ => Under target.ssid.bytes n [] fun _ => True) fun _ _ _ => True := by
  refine .bind (ends_profilesFor lowercase) fun profiles => ?_
  refine .bind (passing_wifiConnectionActiveForSsid _ past_allKnown) fun wasActive => ?_
  refine .bind (passing_disableAutoconnect profiles _ past_allKnown) fun warnings => ?_
  refine .bind (passing_disconnectIfActive rounds wasActive _ past_allKnown) fun confirmed => ?_
  obtain ⟨disconnected, unconfirmed⟩ := confirmed
  dsimp only
  by_cases hpending : (wasActive && !disconnected) = true
  · rw [if_pos hpending]
    exact .pure fun _ _ h => ⟨h.1, trivial⟩
  · rw [if_neg hpending]
    exact .bind (ends_deleteProfiles profiles) fun _ => .pure fun _ _ h => h

theorem ends_execute :
    Ends daemon (DeletesKnown target.ssid.bytes) (fun _ _ => True)
      (execute lowercase rounds target) (fun _ _ _ => True) fun _ _ _ => True := by
  refine .lift_bind (fun _ _ => ?_) fun _ _ _ _ _ => trivial
  refine .bind (Q := fun cancelled history w => ∃ n,
    Under target.ssid.bytes n cancelled (fun _ => True) history w)
    (.ask stable_true fun history w r w' _ hserve => ⟨by simp [DeletesKnown], ?_⟩) fun cancelled =>
      .choose fun n => ?_
  · simp only [daemon, serve] at hserve
    split at hserve
    · rename_i hids
      cases hserve
      refine ⟨w.runtime.cells, ⟨⟨history, [], w, r, rfl, rfl⟩, ?_⟩, trivial⟩
      rw [hids]
      exact newer_cancelConnects w.runtime target.ssid.bytes
    · cases hserve
  refine .bind (Q := fun pending history w => pending = [] →
    Under target.ssid.bytes n [] (fun _ => True) history w)
    (.ask (stable_under past_true) ?_) fun pending => ?_
  · rintro history w r w' ⟨⟨hcancelled, hnewer⟩, -⟩ hserve
    refine ⟨by simp [DeletesKnown], fun hpending => ?_⟩
    simp only [daemon, serve] at hserve
    split at hserve
    · rename_i hr
      cases hserve
      exact ⟨⟨past_cancelledAt _ _ hcancelled, hnewer.waited (hr.symm.trans hpending)⟩, trivial⟩
    · cases hserve
  by_cases hpending : pending = []
  · rw [if_neg (not_not.mpr hpending)]
    refine .conseq (P := Under target.ssid.bytes n [] fun _ => True) ?_ (fun _ _ h => h hpending)
      (fun _ _ _ h => h) fun _ _ _ h => h
    refine .bind (Passing.ask (c := .currentOwner) (by simp) (by simp) _ past_true) fun owner => ?_
    refine .bind (Passing.ask (c := .submitWork) (by simp) (by simp) _ past_true) fun _ => ?_
    refine .bind (ends_run cancelled) fun result => ?_
    exact .bind (passing_ensureOwner owner _ past_true) fun _ => .pure fun _ _ _ => trivial
  · rw [if_pos hpending]
    exact .pure fun _ _ _ => trivial

/-- **A network is forgotten after its connect tasks were cancelled.** Whenever the
operation deletes a profile, it has read the profile's settings and found exactly the SSID
bytes of its target in them; and a connect task for these bytes that is registered at that
moment was registered after the operation had cancelled all there were. -/
theorem forget_deletes_after_cancellation {t : World}
    {p : Prog Ask Reply (Except ErrorReport ForgetResult)}
    (hexec : Exec daemon w (execute lowercase rounds target) history t p) :
    ∀ (l₁ l₂ : History) (u : World) (path : String) (r : Except ErrorReport Unit),
      history = l₁ ++ .own u (.delete path) r :: l₂ →
      (∃ l₃ l₄ v settings saved, l₁ = l₃ ++ .own v (.getSettings path) (.ok settings) :: l₄ ∧
        v.profiles.lookup path = some settings ∧
        savedWifiConnectionFromSettings path settings = some saved ∧
        saved.ssidBytes = target.ssid.bytes) ∧
      ∃ l₃ l₄ v requestIds, l₁ = l₃ ++ .own v (.cancelConnects target.ssid.bytes) requestIds :: l₄ ∧
        ∀ id task, u.runtime.tasks.lookup id = some task → task.kind = .connect →
          task.targetSsid = some target.ssid.bytes → v.runtime.cells ≤ task.cancellation := by
  intro l₁ l₂ u path r hhistory
  have hcalls := (hexec.sound (ends_execute [] w trivial)).2
  obtain ⟨⟨saved, rfl, hssid, l₃, l₄, v, settings, hl₁, hsettings, hsaved⟩, n, hcancelled, hnewer⟩ :=
    hcalls l₁ l₂ u (.delete path) r hhistory path rfl
  refine ⟨⟨l₃, l₄, v, settings, saved, hl₁, hsettings, hsaved, hssid⟩, ?_⟩
  obtain ⟨l₃, l₄, v, ids, hl₁, rfl⟩ := hcancelled
  refine ⟨l₃, l₄, v, ids, hl₁, fun id task htask hkind htarget => ?_⟩
  exact (hnewer.2 id task htask hkind htarget).resolve_right List.not_mem_nil

/-! ## Forgetting a network -/

def savedHome : ConnectionSettings :=
  tableOf [("connection", tableOf [("autoconnect", .bool false)]),
    ("802-11-wireless", tableOf [("ssid", .array "y" (homeSsid.map .byte))])]

/-- A saved profile that is not active, and a request that is about to connect. -/
def savedWorld : World :=
  (after [.restart ":1.5", .save "/profile" savedHome, connectHome "connect-1"]).2

/-- The answers of this world. -/
def savedAnswers : (c : Ask) → Reply c
  | .currentOwner => .ok ":1.5"
  | .wifiDevices => .ok []
  | .listConnections => .ok ["/profile"]
  | .activeConnection _ => .ok none
  | .activeProfile _ => none
  | .getSettings _ => .ok savedHome
  | .deactivate _ | .disableAutoconnect _ | .delete _ | .submitWork => .ok ()
  | .cancelConnects _ | .waitForTasks _ => []
  | .expired => true

def forgetHome : Process ForgetResult := execute id 1 .home

/-- The world after the cancellation of the request. -/
def cancelledWorld : World :=
  { savedWorld with runtime := (savedWorld.runtime.cancelConnectsForSsid homeSsid).1 }

/-- The rest of the operation, up to the deletion: the worker of the request leaves, and the
others do something after the tasks were waited for. -/
def forgetting (others : List Action) : List (Action ⊕ (World → (c : Ask) → Reply c)) :=
  .inl (.runtime (.drop 0)) :: .inr (fun _ => savedAnswers) :: others.map .inl ++
    List.replicate 6 (.inr fun _ => savedAnswers)

/-- The request is found and cancelled. -/
theorem cancelled_connect :
    Exec daemon savedWorld forgetHome
      [.own savedWorld (.cancelConnects homeSsid) ["connect-1"]] cancelledWorld
      (do
        let pending ← ask (.waitForTasks ["connect-1"]) .ok
        if pending ≠ [] then pure (.cancellationPending "home" ["connect-1"] pending)
        else callWork (ForgetService.run id 1 .home ["connect-1"]) : Process ForgetResult) := by
  have hone : (savedWorld.runtime.cancelConnectsForSsid homeSsid).2 = ["connect-1"] := by
    rw [DaemonRuntime.cancelConnectsForSsid]
    exact List.mergeSort_singleton "connect-1"
  have hserve : daemon.serve savedWorld (.cancelConnects homeSsid) ["connect-1"] =
      some cancelledWorld := if_pos hone.symm
  exact (Exec.start.own hserve : Exec daemon savedWorld forgetHome ([] ++ [_]) cancelledWorld _)

/-- The request is cancelled and leaves, and the profile is deleted. -/
theorem forget_deletes_after_cancellation_home :
    ∃ l u r t p, Exec daemon savedWorld forgetHome (l ++ [.own u (.delete "/profile") r]) t p ∧
      .own savedWorld (.cancelConnects homeSsid) ["connect-1"] ∈ l ∧
      (∃ l₃ l₄ v settings saved, l = l₃ ++ .own v (.getSettings "/profile") (.ok settings) :: l₄ ∧
        savedWifiConnectionFromSettings "/profile" settings = some saved ∧
        saved.ssidBytes = homeSsid) ∧
      ∃ l₃ l₄ v ids, l = l₃ ++ .own v (.cancelConnects homeSsid) ids :: l₄ ∧
        ∀ id task, u.runtime.tasks.lookup id = some task → task.kind = .connect →
          task.targetSsid = some homeSsid → v.runtime.cells ≤ task.cancellation := by
  have hexec := cancelled_connect.play (forgetting []) rfl
  obtain ⟨⟨l₃, l₄, v, settings, saved, hl, -, hsaved, hssid⟩, hcancelled⟩ :=
    forget_deletes_after_cancellation hexec _ [] _ "/profile" (.ok ())
      (List.dropLast_append_getLast (List.cons_ne_nil _ _)).symm
  exact ⟨_, _, _, _, _, hexec, List.mem_cons_self,
    ⟨l₃, l₄, v, settings, saved, hl, hsaved, hssid⟩, hcancelled⟩

/-- A request for the network that is registered after the wait is there when the profile
is deleted. -/
theorem forget_races_new_connect :
    ¬ ∀ (w t : World) (history : History) (p : Prog Ask Reply (Except ErrorReport ForgetResult)),
      Exec daemon w forgetHome history t p →
      ∀ (u : World) (path : String) (r : Except ErrorReport Unit) (id : String) (task : TaskHandle),
        .own u (.delete path) r ∈ history → u.runtime.tasks.lookup id = some task →
        task.kind = .connect → task.targetSsid ≠ some WifiConnectTarget.home.ssid.bytes := by
  intro hall
  have hexec := cancelled_connect.play (forgetting [connectHome "connect-2"]) rfl
  exact hall _ _ _ _ hexec _ "/profile" (.ok ()) "connect-2" _
    (List.mem_append_right _ (List.mem_singleton_self _)) rfl rfl rfl

end Network

end NmDaemon
