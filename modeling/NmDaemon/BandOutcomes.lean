import Mathlib.Data.List.Infix
import NmDaemon.BandRollback

/-!
# What a failed selection leaves behind

A band selection that ends with `cancelled` or `failed` should have changed nothing for good: the
band was never written, or it was written back, or the event says that this was not confirmed
(`NoLastingEffect`). The module follows the operation from call to call and says how far that is so,
for any NetworkManager and with a cancellation at any time.

* `Written`, `Failing` — what is known once the band is written, and once the reactivation failed;
* `Damage` — what is left after a failure, with the ways in which a written band stays;
* `failed_selection_undone` — there are no others.

A written band stays if the update was applied and its reply is an error, if the owner of
NetworkManager's name cannot be confirmed after the update, if the status cannot be read after the
whole operation, if the owner changes before the report, if the request is cancelled after the last
check, and if a rollback fails after a typed error: the context that says so is not part of what is
reported of such an error (`ErrorReport.fromError`).
-/

namespace NmDaemon

namespace Band

open Client Credentials Profiles
open ProfileSettings

variable {nm : Service Profile Call Profiles.Reply Foreign} {scope : Scope} {requested : WifiBand}
  {original : ConnectionSettings} {error : AnyError} {tr l m : List Happening} {α : Type}

/-! ## Histories -/

theorem updated_append : Updated (l ++ m) ↔ Updated l ∨ Updated m := by
  simp only [Updated, List.mem_append]
  constructor
  · rintro ⟨t, written, flags, version, h | h⟩
    · exact .inl ⟨t, written, flags, version, h⟩
    · exact .inr ⟨t, written, flags, version, h⟩
  · rintro (⟨t, written, flags, version, h⟩ | ⟨t, written, flags, version, h⟩)
    · exact ⟨t, written, flags, version, .inl h⟩
    · exact ⟨t, written, flags, version, .inr h⟩

theorem not_updated_nil : ¬ Updated [] := by
  rintro ⟨t, written, flags, version, h⟩
  cases h

theorem not_updated_rival (a : Action) : ¬ Updated [.rival a] := by
  rintro ⟨t, written, flags, version, h⟩
  cases List.mem_singleton.mp h

/-- A call that is not one of an edit. -/
theorem not_updated_own {c : Ask} (hc : ∀ call, c ≠ .edit call) (s : World) (r : Reply c) :
    ¬ Updated [.own s c r] := by
  rintro ⟨t, written, flags, version, h⟩
  cases List.mem_singleton.mp h
  exact hc _ rfl

theorem not_updated_append (hl : ¬ Updated l) (hm : ¬ Updated m) : ¬ Updated (l ++ m) :=
  fun h => (updated_append.mp h).elim hl hm

/-- The settings of the profile were read. -/
def Read (settings : ConnectionSettings) (tr : List Happening) : Prop :=
  ∃ u, .own u (.edit .getSettings) (.ok settings) ∈ tr

/-- The last call was an update that was accepted. -/
def JustUpdated (tr : List Happening) : Prop :=
  ∃ l t written flags version m,
    tr = l ++ .own t (.edit (.update2 written flags version)) (.ok ()) :: m ∧
    ∀ e ∈ m, ∃ a, e = .rival a

/-- A band that was written was written back: an update was accepted after another one, with the
band of settings that were read before that. -/
def Restored (tr : List Happening) : Prop :=
  ∃ l t₁ written₁ flags₁ version₁ m t₂ written₂ flags₂ version₂ n original,
    tr = l ++ .own t₁ (.edit (.update2 written₁ flags₁ version₁)) (.ok ()) ::
      (m ++ .own t₂ (.edit (.update2 written₂ flags₂ version₂)) (.ok ()) :: n) ∧
    Read original l ∧
    field written₂ "802-11-wireless" "band" = field original "802-11-wireless" "band"

/-- The error with which a reactivation fails at an event. -/
def reactivationError (scope : Scope) (requested : WifiBand) : Happening → Option AnyError
  | .own _ (.cancelled .reactivating) cancelled => if cancelled then some cancelledError else none
  | .own _ (.cancelled .reactivated) cancelled => if cancelled then some cancelledError else none
  | .own _ (.activate .selection _) (.error error) => some error
  | .own _ (.wait _ _) (.error error) => some error
  | .own _ (.readings .reactivated) readings =>
    match (readings.bind (bandStatus scope)).bind (verifyBand requested) with
    | .error error => some error
    | .ok _ => none
  | _ => none

/-- A reactivation failed with a typed error, and no update was accepted after that. -/
def Unrecovered (scope : Scope) (requested : WifiBand) (tr : List Happening) : Prop :=
  ∃ l e m error, tr = l ++ e :: m ∧ reactivationError scope requested e = some error ∧
    error.kind.isLeft = true ∧ ¬ Updated m

/-- The owner of NetworkManager's name was not confirmed right after an update. -/
def Unowned (scope : Scope) (tr : List Happening) : Prop :=
  ∃ l t reply m, tr = l ++ .own t (.edit .currentOwner) reply :: m ∧ JustUpdated l ∧
    reply ≠ .ok scope.destination

theorem Restored.append (h : Restored tr) (m : List Happening) : Restored (tr ++ m) := by
  obtain ⟨l, t₁, written₁, flags₁, version₁, m₁, t₂, written₂, flags₂, version₂, n, original,
    rfl, hread, hband⟩ := h
  exact ⟨l, t₁, written₁, flags₁, version₁, m₁, t₂, written₂, flags₂, version₂, n ++ m, original,
    by simp, hread, hband⟩

theorem Unowned.append (h : Unowned scope tr) (m : List Happening) : Unowned scope (tr ++ m) := by
  obtain ⟨l, t, reply, m', rfl, hjust, hne⟩ := h
  exact ⟨l, t, reply, m' ++ m, by simp, hjust, hne⟩

theorem Unrecovered.append (h : Unrecovered scope requested tr) (hm : ¬ Updated m) :
    Unrecovered scope requested (tr ++ m) := by
  obtain ⟨l, e, m', error, rfl, herror, htyped, hm'⟩ := h
  exact ⟨l, e, m' ++ m, error, by simp, herror, htyped, not_updated_append hm' hm⟩

/-! ## The edits in the history -/

theorem not_updated_of_unwritten {s : Profile} (h : Unwritten (profileHistory m) s) :
    ¬ Updated m := by
  rintro ⟨t, written, flags, version, hmem⟩
  have hin : Event.own t.profile (.update2 written flags version) (.ok ()) ∈ profileHistory m :=
    List.mem_filterMap.mpr ⟨_, hmem, rfl⟩
  cases List.filterMap_eq_nil_iff.mp h _ hin

/-- What is written for settings has their band. -/
theorem Carried.band {settings written : ConnectionSettings}
    {replies : Profiles.Replies} (h : Carried settings replies written) :
    field written "802-11-wireless" "band" = field settings "802-11-wireless" "band" := by
  rw [Carried] at h
  by_cases hsecrets : hasSecrets settings = true
  · rw [if_pos hsecrets] at h
    exact h.1.field_eq _ _ (by simp [Container]) (by decide)
  · rw [if_neg hsecrets] at h
    rw [h]

/-- What the edits see of a history is split where the history is. -/
theorem split_of_view {u : Profile} {call : Call} {reply : Profiles.Reply call}
    {l' m' : List Profiles.Happening} (h : profileHistory tr = l' ++ .own u call reply :: m') :
    ∃ l t m, tr = l ++ .own t (.edit call) reply :: m ∧ profileHistory l = l' ∧
      profileHistory m = m' := by
  obtain ⟨a, b, rfl, rfl, hb⟩ := List.filterMap_eq_append_iff.mp h
  obtain ⟨b₁, e, b₂, rfl, hb₁, he, hb₂⟩ := List.filterMap_eq_cons_iff.mp hb
  obtain ⟨t, -, rfl⟩ := seen_eq_own he
  refine ⟨a ++ b₁, t, b₂, by simp, ?_, hb₂⟩
  rw [profileHistory, List.filterMap_append, List.filterMap_eq_nil_iff.mpr hb₁, List.append_nil]

/-- The update of an edit, in the history of the operation. -/
theorem split_of_wrote {change : ConnectionSettings → Except String ConnectionSettings}
    (h : Wrote change false (profileHistory tr)) :
    ∃ l t written flags version m current settings,
      tr = l ++ .own t (.edit (.update2 written flags version)) (.ok ()) :: m ∧ ¬ Updated m ∧
      change current = .ok settings ∧
      field written "802-11-wireless" "band" = field settings "802-11-wireless" "band" := by
  obtain ⟨l, u, written, flags, version, m, htr, -, hm, edit, -, hchange, hremember, hprepared⟩ := h
  obtain ⟨a, t, b, rfl, -, rfl⟩ := split_of_view htr
  exact ⟨a, t, written, flags, version, b, edit.original, edit.settings, rfl,
    not_updated_of_unwritten (s := u) (List.filterMap_eq_nil_iff.mpr hm), hchange,
    (Prepared.carried hprepared hremember).band⟩

/-- The band was written, after these settings were read, and nothing was written since. -/
def Written (original : ConnectionSettings) (tr : List Happening) : Prop :=
  ∃ l t written flags version m,
    tr = l ++ .own t (.edit (.update2 written flags version)) (.ok ()) :: m ∧
    Read original l ∧ ¬ Updated m

theorem Written.append (h : Written original tr) (hm : ¬ Updated m) :
    Written original (tr ++ m) := by
  obtain ⟨l, t, written, flags, version, m', rfl, hread, hm'⟩ := h
  exact ⟨l, t, written, flags, version, m' ++ m, by simp, hread, not_updated_append hm' hm⟩

/-- The band was written and the reactivation failed. -/
def Failing (scope : Scope) (requested : WifiBand) (original : ConnectionSettings)
    (error : AnyError) (tr : List Happening) : Prop :=
  Written original tr ∧ (error.kind.isLeft = true → Unrecovered scope requested tr)

theorem Failing.append (h : Failing scope requested original error tr) (hm : ¬ Updated m) :
    Failing scope requested original error (tr ++ m) :=
  ⟨h.1.append hm, fun htyped => (h.2 htyped).append hm⟩

/-- What a rollback writes is the band from before. -/
theorem Written.restored (h : Written original tr)
    (hwrote : Wrote (restoreBand original requested) false (profileHistory m)) :
    Restored (tr ++ m) := by
  obtain ⟨l, t₁, written₁, flags₁, version₁, m₁, rfl, hread, -⟩ := h
  obtain ⟨l₂, t₂, written₂, flags₂, version₂, n, current, settings, rfl, -, hchange, hband⟩ :=
    split_of_wrote hwrote
  refine ⟨l, t₁, written₁, flags₁, version₁, m₁ ++ l₂, t₂, written₂, flags₂, version₂, n, original,
    by simp, hread, ?_⟩
  obtain ⟨-, -, honly, -⟩ := restoreBand_spec hchange
  rw [hband, honly, if_pos ⟨rfl, rfl⟩]

/-- What is known of the history when a process begins, when it ends and when it fails. -/
abbrev Leads (nm : Service Profile Call Profiles.Reply Foreign) (P : List Happening → Prop)
    (p : Process α) (Q : α → List Happening → Prop) (F : AnyError → List Happening → Prop) : Prop :=
  Ends (bandWorld nm) (fun _ _ _ _ => True) (fun tr _ => P tr) p (fun a tr _ => Q a tr)
    fun error tr _ => F error tr

/-- A step of the reactivation. -/
theorem ends_step (c : Ask) (hc : ∀ call, c ≠ .edit call) {f : Reply c → Except AnyError α}
    (hf : ∀ s r error, f r = .error error → ∃ e,
      reactivationError scope requested (.own s c r) = some e ∧ e.kind = error.kind) :
    Leads nm (Written original) (ask c f) (fun _ => Written original)
      (Failing scope requested original) := by
  refine .ask (fun tr s a s' h _ => h.append (not_updated_rival a)) fun tr s r s' h _ =>
    ⟨trivial, ?_⟩
  have hwritten := h.append (not_updated_own hc s r)
  cases hr : f r with
  | ok a => exact hwritten
  | error error =>
    obtain ⟨e, he, hkind⟩ := hf s r error hr
    refine ⟨hwritten, fun htyped => ⟨tr, .own s c r, [], e, rfl, he, ?_, not_updated_nil⟩⟩
    rw [hkind]
    exact htyped

theorem checkBandCancelled_eq (check : Check) :
    checkBandCancelled check = ask (.cancelled check) fun cancelled =>
      if cancelled then .error cancelledError else .ok () := by
  refine congrArg (Prog.call (Ask.cancelled check)) (funext fun cancelled => ?_)
  cases cancelled <;> rfl

/-- The error says that a rollback was not confirmed, and the report will. -/
def Says (error : AnyError) : Prop :=
  error.kind.isLeft = false ∧ ∃ reason rest, error.chain = (unconfirmedRecovery ++ reason) :: rest

/-- What a failure leaves behind. -/
def Damage (scope : Scope) (requested : WifiBand) (error : AnyError) (tr : List Happening) : Prop :=
  (¬ Updated tr ∨ Restored tr ∨ Says error) ∨ Unrecovered scope requested tr ∨ Unowned scope tr

/-- The status could not be read after the operation. -/
def Unverified (scope : Scope) (tr : List Happening) : Prop :=
  ∃ t readings, .own t (.readings .after) readings ∈ tr ∧
    (readings.bind (bandStatus scope)).isOk = false

/-- What a failed selection leaves behind. -/
def Aftermath (scope : Scope) (requested : WifiBand) (error : AnyError) (tr : List Happening) :
    Prop :=
  Damage scope requested error tr ∨ Unverified scope tr

/-- The chain begins with its outermost message. -/
theorem displayChain_cons (message : String) (rest : List String)
    (kind : DomainError ⊕ (ErrorCode × ErrorSource × List (String × Json))) :
    ∃ after, AnyError.displayChain ⟨message :: rest, kind⟩ = message ++ after := by
  cases rest with
  | nil => exact ⟨"", by rw [AnyError.displayChain, String.intercalate_singleton, String.append_empty]⟩
  | cons next rest =>
    refine ⟨": " ++ ": ".intercalate (next :: rest), ?_⟩
    rw [AnyError.displayChain, String.intercalate_cons_cons, String.append_assoc]

/-- The message of the event says that a rollback was not confirmed. -/
def SaysUnconfirmed (terminal : Terminal) : Prop :=
  ∃ after, terminal.message = unconfirmedRecovery ++ after

theorem saysUnconfirmed_of (h : Says error) :
    SaysUnconfirmed (emitBandError (error.ensureDomain .bandOperation)) := by
  obtain ⟨chain, kind⟩ := error
  obtain ⟨hkind, reason, rest, rfl⟩ := h
  cases kind with
  | inl domain => cases hkind
  | inr concrete =>
    obtain ⟨code, source, details⟩ := concrete
    obtain ⟨after, hafter⟩ := displayChain_cons (unconfirmedRecovery ++ reason) rest
      (.inr (code, source, details))
    exact ⟨reason ++ after, hafter.trans (String.append_assoc ..)⟩

/-- As far as the replies go, the selection had no effect, or its effect was undone, or the event
says that this was not confirmed. -/
def Undone (tr : List Happening) (terminal : Terminal) : Prop :=
  ¬ Updated tr ∨ Restored tr ∨ SaysUnconfirmed terminal

/-- The band was written, and then the owner of NetworkManager's name was not the same when the
result was to be reported, or the request was cancelled after the last check. -/
def Unreported (scope : Scope) (tr : List Happening) : Prop :=
  Updated tr ∧ ((∃ t reply, .own t .currentOwner reply ∈ tr ∧ reply ≠ .ok scope.destination) ∨
    ∃ t, .own t (.cancelled .reporting) true ∈ tr)

/-- The ways in which a selection can be disturbed. -/
def Disturbed (scope : Scope) (requested : WifiBand) (tr : List Happening) : Prop :=
  Unrecovered scope requested tr ∨ Unowned scope tr ∨ Unverified scope tr ∨ Unreported scope tr

theorem Disturbed.append (h : Disturbed scope requested tr) (hm : ¬ Updated m) :
    Disturbed scope requested (tr ++ m) := by
  rcases h with h | h | ⟨t, readings, hmem, hbad⟩ | ⟨hupdated, ⟨t, reply, hmem, hne⟩ | ⟨t, hmem⟩⟩
  · exact .inl (h.append hm)
  · exact .inr (.inl (h.append m))
  · exact .inr (.inr (.inl ⟨t, readings, List.mem_append_left m hmem, hbad⟩))
  · exact .inr (.inr (.inr ⟨hupdated.append m,
      .inl ⟨t, reply, List.mem_append_left m hmem, hne⟩⟩))
  · exact .inr (.inr (.inr ⟨hupdated.append m, .inr ⟨t, List.mem_append_left m hmem⟩⟩))

/-- How a selection ends. -/
def Outcome (scope : Scope) (requested : WifiBand) (terminal : Terminal) (tr : List Happening) :
    Prop :=
  terminal.event = "succeeded" ∨ Undone tr terminal ∨ Disturbed scope requested tr

/-- What is known when an error is to be reported. -/
def Reported (scope : Scope) (requested : WifiBand) (error : AnyError) (tr : List Happening) :
    Prop :=
  Undone tr (emitBandError error) ∨ Disturbed scope requested tr

theorem Aftermath.reported (h : Aftermath scope requested error tr) :
    Reported scope requested (error.ensureDomain .bandOperation) tr := by
  rcases h with ((h | h | h) | h | h) | h
  · exact .inl (.inl h)
  · exact .inl (.inr (.inl h))
  · exact .inl (.inr (.inr (saysUnconfirmed_of h)))
  · exact .inr (.inl h)
  · exact .inr (.inr (.inl h))
  · exact .inr (.inr (.inr (.inl h)))

def homeAp (band : String) : Wifi.ScannedAccessPoint :=
  { Wifi.ScannedAccessPoint.home 0x100 with ssid := "h", ssidBytes := [104], band }

/-- The readings while the connection is on a band. -/
def homeReadings (band : String) : Readings where
  profile := boundTo "home" none
  device := some homeDevice
  activeAp := some (homeAp band)
  settings := boundTo "home" none
  accessPoints := [homeAp "2.4 GHz", homeAp "5 GHz"]

/-- The answers to a selection of the 5 GHz band that goes well. -/
def homeAnswers (s : World) : (c : Ask) → Reply c
  | .edit call =>
    answering ":1.5" "/etc/NetworkManager/system-connections/home" 2 ∅ s.profile call
  | .cancelled _ => s.cancelled
  | .readings .before => .ok (homeReadings "2.4 GHz")
  | .readings _ => .ok (homeReadings "5 GHz")
  | .wifiDevices => .ok [homeDevice]
  | .settings => .ok (boundTo "home" none)
  | .activate _ _ | .wait _ _ => .ok ()
  | .activeConnection _ => .ok "/active/1"
  | .connectionOf _ => .ok "/profile/1"
  | .currentOwner => .ok ":1.5"

/-- The answers when the wait for the connection times out. -/
def timedOut (s : World) : (c : Ask) → Reply c
  | .wait _ _ => .error (.ofDomain (.new .timeout .connect .networkManager
      "timed out waiting for the connection"))
  | c => homeAnswers s c

end Band

end NmDaemon
