import NmDaemon.ConnectionRollback
import NmDaemon.WifiActivations

/-!
# A temporary join leaves no trace

A join that is not to be remembered must not touch the profiles there are, although its settings
may be cloned from one of them. Here that is shown of the whole attempt, for any credentials,
answers and interleavings: no profile is edited, none but its own is deleted, and what is submitted
is a temporary version of the settings that were built (`temporary_join_traceless`).

* `only_connectTarget` — the connection machine asks for its own target only;
* `Temporarily` — how the submitted settings differ from those that were built;
* `ends_addAndActivate` — the one call that creates something.
-/

namespace NmDaemon

namespace Connection

open Client

/-! ## The questions of the machine -/

variable (target : WifiConnectTarget) (password : Option String) (wepKeyType : Option WepKeyType)

/-- A request for an activation is one for the target. -/
def AsksFor : Ask → Prop
  | .activateSaved t p k | .addAndActivate t p k => t = target ∧ p = password ∧ k = wepKeyType
  | _ => True

variable {target password wepKeyType} {α : Type}

theorem only_within {m : Machine} {p : Process α}
    (hp : Prog.Only (AsksFor target password wepKeyType) p) :
    Prog.Only (AsksFor target password wepKeyType) (within m p) :=
  hp.bind fun _ => trivial

theorem only_checkCancelled : Prog.Only (AsksFor target password wepKeyType) checkCancelled :=
  .ask trivial

theorem only_takeScope (m : Machine) :
    Prog.Only (AsksFor target password wepKeyType) (takeScope m) := by
  unfold takeScope
  split
  · exact .ask trivial
  · trivial

theorem only_createProfile (m : Machine) : Prog.Only (AsksFor target password wepKeyType)
    (createProfile target password wepKeyType m) := by
  refine .andThen (.ask ⟨rfl, rfl, rfl⟩) fun activation => ?_
  cases activation with
  | some activation => trivial
  | none =>
    refine .andThen ?_ fun visible => ?_
    · unfold targetVisibility
      split
      · trivial
      · exact .ask trivial
    · split_ifs <;> trivial

theorem only_step (state : ConnectionState) (m : Machine) :
    Prog.Only (AsksFor target password wepKeyType) (step target password wepKeyType state m) := by
  cases state with
  | alreadyActive =>
    refine only_within (.andThen (.andThen (.ask trivial) fun active => ?_) fun _ => trivial)
    rcases active with e | _ | _
    · trivial
    · trivial
    · dsimp only
      split_ifs <;> trivial
  | savedProfile =>
    refine only_within (.andThen (.ask ⟨rfl, rfl, rfl⟩) fun activation => ?_)
    cases activation <;> trivial
  | createProfile => exact only_within (only_createProfile m)
  | rescan => exact only_within (.andThen (.ask trivial) fun _ => trivial)
  | verify kind =>
    refine only_within (.andThen (.ask trivial) fun _ => .andThen (only_takeScope m) fun _ => ?_)
    cases kind <;> trivial

theorem only_runStates (fuel : ℕ) : ∀ (state : ConnectionState) (m : Machine),
    Prog.Only (AsksFor target password wepKeyType)
      (runStates target password wepKeyType fuel state m) := by
  induction fuel with
  | zero => exact fun _ _ => trivial
  | succ fuel ih =>
    intro state m
    refine .andThen (only_within only_checkCancelled) fun _ => ?_
    refine .andThen (only_within (.ask trivial)) fun _ => ?_
    refine .andThen (only_step state m) fun reached => ?_
    rcases reached with ⟨next | outcome, m'⟩
    · exact ih next m'
    · trivial

theorem only_finish (result : Except (ErrorReport × Machine) (ActivationOutcome × Machine)) :
    Prog.Only (AsksFor target password wepKeyType) (finish target result) := by
  rcases result with ⟨error, m⟩ | ⟨outcome, m⟩
  · refine .andThen (only_takeScope m) fun m' => .andThen ?_ fun _ => trivial
    unfold cleanupCreatedConnection
    split
    · trivial
    · refine .andThen (.ask trivial) fun proxy => ?_
      cases proxy with
      | error e => trivial
      | ok u => exact .ask trivial
  · refine .andThen only_checkCancelled fun _ => .andThen (.ask trivial) fun status => ?_
    cases status.join with
    | some connectivity => trivial
    | none => exact .andThen (.ask trivial) fun _ => trivial

/-- The machine asks for its own target only. -/
theorem only_connectTarget : Prog.Only (AsksFor target password wepKeyType)
    (connectTarget target password wepKeyType) := by
  refine .andThen only_checkCancelled fun _ => ?_
  refine .andThen trivial fun _ => ?_
  exact .andThen ((only_runStates 7 _ _).bind fun _ => trivial) fun result => only_finish result

/-- Every question can be answered. -/
theorem nonempty_reply (c : Ask) : Nonempty (Reply c) := by
  cases c with
  | cancelled => exact ⟨false⟩
  | dropScope scope => exact ⟨()⟩
  | activeStatus => exact ⟨none⟩
  | _ => exact ⟨.error (connectFailure .unknown "")⟩

end Connection

namespace Activate

open Client
open Connection (WifiActivation AsksFor OwnDeletions)
open Credentials (field knownKeys flagsKey agentOwned notSaved)
open ProfileSettings
open Profiles (Profile Foreign)
open Wifi (ScannedAccessPoint)
open WifiSettings (applyTargetConnectionMetadata hiddenWifiConnectionSettings insertMissing)

/-! ## What is submitted -/

variable (session : Session) (target : WifiConnectTarget) (password : Option String)
  (wepKeyType : Option WepKeyType)

/-- The settings that are built for the target, before anything is made temporary. -/
def Built (before : ConnectionSettings) : Prop :=
  (target.hidden = true ∧ ∃ hidden,
    hiddenWifiConnectionSettings (session.typed target) password wepKeyType = .ok hidden ∧
      applyTargetConnectionMetadata (session.typed target) session.user hidden = .ok before) ∨
  (target.hidden = false ∧ ∃ saved ap visible,
    settingsForAccessPoint session target password wepKeyType saved ap = .ok (some visible) ∧
      applyTargetConnectionMetadata (session.typed target) session.user visible = .ok before)

/-- The settings have a uuid that no saved profile has. -/
def FreshUuid (w : World) (settings : ConnectionSettings) : Prop :=
  ∃ uuid, uuidOf settings = some (.str uuid) ∧
    ∀ path ∈ w.saved, uuidOf (w.profiles path).settings ≠ some (.str uuid)

/-- The key of the flags of a Wi-Fi or 802.1X secret. -/
def IsSecretFlag (section' key : String) : Prop :=
  (section' ∈ ["802-11-wireless-security", "802-1x"]) ∧ key ∈ (knownKeys section').map flagsKey

/-- How the submitted settings come from those that were built. -/
structure Temporarily (w : World) (before settings : ConnectionSettings) : Prop where
  uuid : FreshUuid w settings
  autoconnect : field settings "connection" "autoconnect" = some (.bool false)
  /-- the flags of every secret of a section that is there -/
  secrets : ∀ section' ∈ ["802-11-wireless-security", "802-1x"],
    (settings.lookup section').isSome = true → ∀ key ∈ knownKeys section', ∃ flags,
      field settings section' (flagsKey key) = some (.u32 flags) ∧ flags &&& agentOwned = 0 ∧
        flags &&& notSaved = notSaved ∧ flags &&& notRequired =
          ((field before section' (flagsKey key)).bind Value.asU32).getD 0 &&& notRequired
  rest : ∀ s k, ¬(s = "connection" ∧ (k = "uuid" ∨ k = "autoconnect")) → ¬IsSecretFlag s k →
    field settings s k = field before s k

variable {session target password wepKeyType}

theorem field_withUuid (settings : ConnectionSettings) (uuid s k : String) :
    field (withUuid settings uuid) s k =
      if s = "connection" ∧ k = "uuid" then some ((uuidOf settings).getD (.str uuid))
      else field settings s k := by
  rw [withUuid, field_editSection]
  by_cases hs : s = "connection"
  · subst hs
    rw [if_pos rfl, insertMissing, lookup_getD, ← uuidOf]
    rcases huuid : uuidOf settings with _ | value
    · rw [if_neg (by simp), Table.lookup_insert_ite, lookup_getD]
      simp only [true_and, Option.getD_none]
    · rw [Option.isSome_some, if_pos rfl, lookup_getD]
      by_cases hk : k = "uuid"
      · subst hk
        rw [if_pos ⟨rfl, rfl⟩, Option.getD_some]
        exact huuid
      · rw [if_neg fun h => hk h.2]
  · rw [if_neg hs, if_neg fun h => hs h.1]

/-- A section that is not the connection's is there as before. -/
theorem lookup_submitted (settings : ConnectionSettings) (uuid : String) {s : String}
    (hs : s ≠ "connection") : ((submitted true settings uuid).lookup s).isSome =
      (settings.lookup s).isSome := by
  rw [submitted, if_pos rfl, withUuid, lookup_editSection, if_neg hs, isSome_makeTemporary,
    decide_eq_false hs, Bool.or_false]

/-- What is submitted, field by field. -/
theorem field_submitted (settings : ConnectionSettings) (uuid s k : String) :
    field (submitted true settings uuid) s k =
      if s = "connection" ∧ k = "uuid" then some (.str uuid)
      else field (makeTemporary settings) s k := by
  have hnone : uuidOf (makeTemporary settings) = none := by
    rw [uuidOf, field_makeTemporary, if_neg (by decide), if_pos ⟨rfl, rfl⟩]
  rw [submitted, if_pos rfl, field_withUuid, hnone, Option.getD_none]

variable {w : World}

theorem temporarily_submitted {uuid : String} (settings : ConnectionSettings)
    (hfresh : ∀ path ∈ w.saved, uuidOf (w.profiles path).settings ≠ some (.str uuid)) :
    Temporarily w settings (submitted true settings uuid) where
  uuid := ⟨uuid, (field_submitted settings uuid "connection" "uuid").trans (if_pos ⟨rfl, rfl⟩),
    hfresh⟩
  autoconnect := by
    rw [field_submitted, if_neg (by decide), field_makeTemporary, if_pos ⟨rfl, rfl⟩]
  secrets := by
    intro section' hsection hsome key hkey
    have hconnection : section' ≠ "connection" := by
      rintro rfl
      exact absurd hsection (by decide)
    rw [lookup_submitted settings uuid hconnection] at hsome
    have hflag : IsTemporaryFlag settings section' (flagsKey key) :=
      ⟨hsection, hsome, List.mem_map_of_mem hkey⟩
    obtain ⟨flags, hflags, hbits⟩ := temporaryFlag_bits (field settings section' (flagsKey key))
    refine ⟨flags, ?_, hbits⟩
    rw [field_submitted, if_neg fun h => hconnection h.1, field_makeTemporary,
      if_neg fun h => hconnection h.1, if_neg fun h => hconnection h.1, if_pos hflag, hflags]
  rest := by
    intro s k hconnection hflag
    rw [field_submitted, if_neg fun h => hconnection ⟨h.1, .inl h.2⟩, field_makeTemporary,
      if_neg fun h => hconnection ⟨h.1, .inr h.2⟩, if_neg fun h => hconnection ⟨h.1, .inl h.2⟩,
      if_neg fun h => hflag ⟨h.1, h.2.2⟩]

/-! ## Calls -/

variable (session target password wepKeyType) in
/-- What is promised of the calls of a temporary join, with these saved profiles. -/
def Traceless (existing : List String) : Guarantee World Ask Reply Action := fun _ w c _ =>
  match c with
  | .edit _ _ | .band _ _ | .activate _ _ _ => False
  | .delete path => path ∉ existing
  | .addAndActivate settings _ _ temporary => temporary = true ∧
      ∃ before, Built session target password wepKeyType before ∧ Temporarily w before settings
  | _ => True

variable {keep : ConnectionSettings → ConnectionSettings}
  {nm : Service Profile Profiles.Call Profiles.Reply Foreign} {existing : List String}

theorem saved_stable : Stable (activationWorld keep nm) fun _ w => w.saved = existing :=
  fun _ _ _ _ h hstep => (rival_spec hstep).1.trans h

/-- A fresh uuid stays fresh: the others change neither uuids nor the saved profiles. -/
theorem fresh_stable {uuid : String} : Stable (activationWorld keep nm) fun _ w =>
    w.saved = existing ∧
      ∀ path ∈ w.saved, uuidOf (w.profiles path).settings ≠ some (.str uuid) := by
  rintro tr w a w' ⟨hsaved, hfresh⟩ hstep
  obtain ⟨hlist, huuid⟩ := rival_spec hstep
  refine ⟨hlist.trans hsaved, fun path hpath => ?_⟩
  rw [huuid path]
  exact hfresh path (hlist ▸ hpath)

/-- The one call that creates something. -/
theorem ends_addAndActivate (htemporary : isTemporary session target = true)
    {before : ConnectionSettings} (hbuilt : Built session target password wepKeyType before)
    (device specificObject : String) :
    Ends (activationWorld keep nm) (Traceless session target password wepKeyType existing)
      (fun _ w => w.saved = existing) (addAndActivate session target before device specificObject)
      (fun activation _ w => w.saved = existing ∧ activation.profilePath ∉ existing)
      fun _ _ w => w.saved = existing := by
  have huuid : Ends (activationWorld keep nm)
      (Traceless session target password wepKeyType existing) (fun _ w => w.saved = existing)
      (ask .freshUuid Except.ok) (fun uuid _ w => w.saved = existing ∧
        ∀ path ∈ w.saved, uuidOf (w.profiles path).settings ≠ some (.str uuid))
      fun (_ : AnyError) _ w => w.saved = existing := by
    refine .ask saved_stable fun tr w uuid w' h hserve => ⟨trivial, ?_⟩
    have hsame : w' = w := serve_quiet (c := .freshUuid) trivial hserve
    rw [hsame]
    exact ⟨h, serve_freshUuid hserve⟩
  unfold addAndActivate
  rw [htemporary]
  refine huuid.bind fun uuid => ?_
  refine ((ends_quiet fresh_stable (.openScope _ "/") trivial fun _ _ _ _ => trivial).imp_error
    fun _ _ _ h => h.1).bind fun scope => ?_
  refine (ends_activating (Q := fun added _ w => w.saved = existing ∧
    added.profilePath ∉ existing) scope _ fresh_stable saved_stable ?_
    (fun _ _ _ _ => trivial) fun _ _ _ => trivial).bind fun added => .pure fun _ _ h => h
  rintro tr w r w' ⟨hsaved, hfresh⟩ hserve
  refine ⟨⟨rfl, before, hbuilt, temporarily_submitted before hfresh⟩, ?_⟩
  rcases r with e | added
  · cases hserve
    exact hsaved
  · obtain ⟨hnew, hserve⟩ := Option.ite_none_left_eq_some.mp hserve
    cases hserve
    exact ⟨hsaved, hsaved ▸ hnew⟩

/-- What is added is none of the saved profiles. -/
def AddedNew (existing : List String) (activation : Option WifiActivation) :
    Assertion World Ask Reply Action := fun _ w =>
  w.saved = existing ∧ ∀ a ∈ activation, a.profilePath ∉ existing

/-- A call that does not concern the saved profiles. -/
theorem ends_aside {α : Type} (c : Ask) (hc : c.IsQuiet) {f : Reply c → Except AnyError α}
    (hG : ∀ tr w r, Traceless session target password wepKeyType existing tr w c r) :
    Ends (activationWorld keep nm) (Traceless session target password wepKeyType existing)
      (fun _ w => w.saved = existing) (ask c f) (fun _ _ w => w.saved = existing)
      fun _ _ w => w.saved = existing :=
  ends_quiet saved_stable c hc fun tr w r _ => hG tr w r

/-- Once the settings are built, they are submitted. -/
theorem ends_submit (htemporary : isTemporary session target = true)
    {settings : ConnectionSettings}
    (hbuilt : ∀ before, applyTargetConnectionMetadata (session.typed target) session.user settings =
      .ok before → Built session target password wepKeyType before) (device specificObject : String) :
    Ends (activationWorld keep nm) (Traceless session target password wepKeyType existing)
      (fun _ w => w.saved = existing) (do
        let before ← lift
          (applyTargetConnectionMetadata (session.typed target) session.user settings)
        let activation ← addAndActivate session target before device specificObject
        pure (some activation) : Process (Option WifiActivation))
      (AddedNew existing) fun _ _ w => w.saved = existing := by
  refine .lift_bind (fun before hbefore => ?_) fun _ _ _ _ h => h
  refine (ends_addAndActivate htemporary (hbuilt before hbefore) device specificObject).bind
    fun activation => .pure fun _ _ h => ⟨h.1, fun a ha => ?_⟩
  cases ha
  exact h.2

theorem ends_addAndActivateWifiConnectionFor (htemporary : isTemporary session target = true) :
    Ends (activationWorld keep nm) (Traceless session target password wepKeyType existing)
      (fun _ w => w.saved = existing)
      (addAndActivateWifiConnectionFor session target password wepKeyType)
      (AddedNew existing) fun _ _ w => w.saved = existing := by
  have hnothing : Ends (activationWorld keep nm)
      (Traceless session target password wepKeyType existing) (fun _ w => w.saved = existing)
      (pure none : Process (Option WifiActivation)) (AddedNew existing)
      fun _ _ w => w.saved = existing :=
    Ends.pure fun _ _ h => ⟨h, fun a ha => absurd ha (Option.not_mem_none a)⟩
  unfold addAndActivateWifiConnectionFor
  by_cases hhidden : target.hidden = true
  · rw [if_pos hhidden]
    refine (ends_aside (.wifiDevices target) trivial fun _ _ _ => trivial).bind fun devices => ?_
    rcases devices with _ | ⟨device, others⟩
    · exact hnothing
    · refine (ends_aside (.hiddenScan device.path target.ssid.bytes) trivial
        fun _ _ _ => trivial).bind fun _ => ?_
      refine .lift_bind (fun hidden hbuilt => ?_) fun _ _ _ _ h => h
      exact ends_submit htemporary
        (fun before hbefore => .inl ⟨hhidden, hidden, hbuilt, hbefore⟩) device.path "/"
  · rw [if_neg hhidden]
    have hvisible : target.hidden = false := Bool.eq_false_iff.mpr hhidden
    refine (ends_aside (.visibleAccessPoint target) trivial fun _ _ _ => trivial).bind fun found => ?_
    rcases found with _ | ⟨device, apPath, ap⟩
    · exact hnothing
    · have hsettings : Ends (activationWorld keep nm)
          (Traceless session target password wepKeyType existing) (fun _ w => w.saved = existing)
          (visibleActivationSettings session target password wepKeyType device ap)
          (fun settings _ w => (∃ saved,
            settingsForAccessPoint session target password wepKeyType saved ap = .ok settings) ∧
              w.saved = existing) fun _ _ w => w.saved = existing := by
        unfold visibleActivationSettings
        rw [htemporary, Bool.true_or, if_pos rfl]
        refine (ends_aside (.savedSettings ap device) trivial fun _ _ _ => trivial).bind
          fun saved => .lift fun tr w h => ?_
        cases hbuilt : settingsForAccessPoint session target password wepKeyType saved ap with
        | error e => exact h
        | ok settings => exact ⟨⟨saved, hbuilt⟩, h⟩
      refine hsettings.bind fun settings => .assume fun ⟨saved, hbuilt⟩ => ?_
      rcases settings with _ | visible
      · exact hnothing
      · exact ends_submit htemporary
          (fun before hbefore => .inr ⟨hvisible, saved, ap, visible, hbuilt, hbefore⟩) device.path
          apPath

/-! ## The whole attempt -/

/-- What the questions of the machine have to do with the profiles: those it was told it created
are none of the saved ones, which are what they were. -/
def Apart (existing : List String) (l : List (Event Unit Connection.Ask Connection.Reply Empty))
    (w : World) : Prop :=
  w.saved = existing ∧ ∀ path ∈ (Connection.record l).created, path ∉ existing

variable {c : Connection.Ask} {l : List (Event Unit Connection.Ask Connection.Reply Empty)}

theorem Apart.quiet {r : Connection.Reply c} (h : Apart existing l w)
    (hc : ∀ v, (Connection.note v c r).created = v.created) :
    Apart existing (l ++ [.own () c r]) w := by
  refine ⟨h.1, ?_⟩
  rw [Connection.record_snoc]
  change ∀ path ∈ (Connection.note (Connection.record l) c r).created, _
  rw [hc]
  exact h.2

theorem apart_stable : Stable (activationWorld keep nm) fun _ w => Apart existing l w :=
  fun _ _ _ _ h hstep => ⟨(rival_spec hstep).1.trans h.1, h.2⟩

variable {tr : List Happening}

/-- A question that is passed on. -/
theorem wp_pass {ask : Ask} {reply : Reply ask → Connection.Reply c} (hask : ask.IsQuiet)
    (hG : ∀ tr w r, Traceless session target password wepKeyType existing tr w ask r)
    (hc : ∀ v r, (Connection.note v c r).created = v.created) (h : Apart existing l w) :
    wp (activationWorld keep nm) (Traceless session target password wepKeyType existing)
      (fun r _ w => Apart existing (l ++ [.own () c r]) w) (.call ask fun r => .done (reply r))
      tr w := by
  intro tr' w' hrivals r w'' hserve
  refine ⟨hG tr' w' r, ?_⟩
  rw [serve_quiet hask hserve]
  exact (apart_stable.rivals hrivals h).quiet fun v => hc v (reply r)

theorem wp_carry (htemporary : isTemporary session target = true)
    (hown : ∀ path, c = .delete path → path ∈ (Connection.record l).created)
    (hasks : AsksFor target password wepKeyType c) (h : Apart existing l w) :
    wp (activationWorld keep nm) (Traceless session target password wepKeyType existing)
      (fun r _ w => Apart existing (l ++ [.own () c r]) w) (carry session c) tr w := by
  cases c with
  | activateSaved t p k =>
    obtain ⟨rfl, rfl, rfl⟩ := hasks
    have hnone : activateSavedWifiConnectionFor session t p k = pure none := if_pos htemporary
    change wp _ _ _ (reported (activateSavedWifiConnectionFor session t p k)) tr w
    rw [hnone]
    exact h.quiet fun _ => rfl
  | addAndActivate t p k =>
    obtain ⟨rfl, rfl, rfl⟩ := hasks
    refine wp_reported (ends_addAndActivateWifiConnectionFor htemporary)
      (fun activation tr w hadded => ?_)
      (fun _ _ tr w hsaved => Apart.quiet ⟨hsaved, h.2⟩ fun _ => rfl) tr w h.1
    refine ⟨hadded.1, ?_⟩
    rw [Connection.record_snoc]
    cases activation with
    | none => exact h.2
    | some activation =>
      intro path hpath
      rcases List.mem_append.mp hpath with hpath | hpath
      · exact h.2 path hpath
      · rw [List.mem_singleton.mp hpath]
        exact hadded.2 activation rfl
  | delete path =>
    intro tr' w' hrivals r w'' hserve
    have hnew : path ∉ existing := h.2 path (hown path rfl)
    have hw' := apart_stable.rivals hrivals h
    refine ⟨hnew, ?_⟩
    refine Apart.quiet (l := l) ⟨?_, hw'.2⟩ fun _ => rfl
    rcases r with e | u
    · cases hserve
      exact hw'.1
    · cases hserve
      exact (List.erase_of_not_mem (hw'.1 ▸ hnew)).trans hw'.1
  | dropScope scope => exact wp_pass trivial (fun _ _ _ => trivial) (fun _ _ => rfl) h
  | profileProxy path | waitActive t active scope =>
    exact wp_pass trivial (fun _ _ _ => trivial) (fun _ r => by cases r <;> rfl) h
  | _ => exact wp_pass trivial (fun _ _ _ => trivial) (fun _ _ => rfl) h

/-- Calls of which that is promised leave the list of the saved profiles alone. -/
theorem saved_of_traceless {w' : World} {c : Ask} {r : Reply c}
    (hG : Traceless session target password wepKeyType existing tr w c r)
    (hserve : (activationWorld keep nm).serve w c r = some w') (h : w.saved = existing) :
    w'.saved = existing := by
  cases c with
  | edit | band => exact hG.elim
  | delete path =>
    rcases r with e | u
    · cases hserve
      exact h
    · cases hserve
      exact (List.erase_of_not_mem (h ▸ hG)).trans h
  | addAndActivate settings device specificObject temporary =>
    obtain ⟨rfl, -⟩ := hG
    rcases r with e | added
    · cases hserve
      exact h
    · obtain ⟨-, hserve⟩ := Option.ite_none_left_eq_some.mp hserve
      cases hserve
      exact h
  | _ =>
    rw [serve_quiet (by trivial) hserve]
    exact h

/-- **A temporary join leaves no trace.** In every attempt for a target that is not to be
remembered, whatever NetworkManager answers and others do in between: no profile is edited and no
saved one is deleted; what is submitted is volatile and comes from the settings built for the
target, under a uuid that no saved profile has, without autoconnect, with the flags of every known
secret set to not saved and not agent-owned, and with nothing else changed. Making settings
temporary again changes nothing. -/
theorem temporary_join_traceless
    (htemporary : (session.typed target).profile.remember = some false) {s t : World}
    {history : List Happening} {p : Prog Ask Reply (Except ErrorReport Connect.ConnectResult)}
    (hexec : Exec (activationWorld keep nm) s (connect session target password wepKeyType)
      history t p) :
    t.saved = s.saved ∧
      (∀ l₁ l₂ w c r, history = l₁ ++ .own w c r :: l₂ →
        Traceless session target password wepKeyType s.saved l₁ w c r) ∧
      ∀ settings,
        sameSettings (makeTemporary (makeTemporary settings)) (makeTemporary settings) = true := by
  have htarget : isTemporary session target = true := decide_eq_true htemporary
  have hmachine : wp (anything Connection.Ask Connection.Reply)
      (fun l u c r => OwnDeletions l u c r ∧ AsksFor target password wepKeyType c)
      (outcome (fun _ _ _ => True) fun _ => Connection.AtRolledBack)
      (Connection.connectTarget target password wepKeyType) [] () :=
    Connection.only_connectTarget.wp [] () (Connection.ends_connectTarget [] () rfl)
  have hwp : wp (activationWorld keep nm) (Traceless session target password wepKeyType s.saved)
      (fun r _ w => ∃ l, Apart s.saved l w ∧
        outcome (fun _ _ _ => True) (fun _ => Connection.AtRolledBack) r l ())
      (Prog.refine (carry session) (Connection.connectTarget target password wepKeyType)) [] s := by
    refine wp_refine (K := fun l _ w => Apart s.saved l w) (fun l c tr w hG h => ?_) _ [] [] s
      hmachine ⟨rfl, fun path hpath => nomatch hpath⟩
    -- what is promised of a question does not depend on its answer
    obtain ⟨hown, hasks⟩ := hG (Classical.choice (Connection.nonempty_reply c))
    exact wp_carry htarget hown hasks h
  have hcalls := (hexec.sound hwp).2
  refine ⟨?_, hcalls, makeTemporary_idem⟩
  exact hexec.keeps (I := fun w => w.saved = s.saved) hcalls rfl
    (fun _ _ _ h hstep => (rival_spec hstep).1.trans h)
    fun _ _ _ _ _ h hG hserve => saved_of_traceless hG hserve h

/-! ## An attempt -/

/-- A daemon that reads every target as one that is not to be remembered. -/
def forgetful : Session where
  destination := ":1.5"
  user := none
  raise message := ⟨[message], .inr (.internalError, .internal, [])⟩
  typed target :=
    { ssid := target.ssid
      connectionName := none
      isPrivate := false
      hidden := false
      keyMgmt := none
      enterprise := none
      profile := ⟨some false, none, none, none, none, none, none, none⟩ }

/-- A saved profile for the network, whose password is with an agent. -/
def savedHome : ConnectionSettings := Profiles.homeWith [("psk-flags", .u32 1)]

def oneProfile : World := ⟨fun _ => ⟨1, savedHome⟩, ["/profile/1"], false⟩

def homeAccessPoint : ScannedAccessPoint := .home 0x100

/-- The network is visible, and its saved profile suits it. -/
def homeAnswers : (c : Ask) → Option (Reply c)
  | .visibleAccessPoint _ => some (.ok (some (⟨"/device/1", "wlan0"⟩, "/ap/1", homeAccessPoint)))
  | .savedSettings _ _ => some (.ok (some savedHome))
  | .freshUuid => some "fresh"
  | .openScope _ _ => some (.ok 0)
  | .addAndActivate _ _ _ _ => some (.ok ⟨"/profile/9", "/active/9"⟩)
  | .dropScope _ => some ()
  | .machine .cancelled => some false
  | .machine (.progress _) => some (.ok ())
  | .machine (.activeTargetMatches _) => some (.ok false)
  | .machine (.waitActive _ _ _) => some (.ok ())
  | .machine .activeStatus => some none
  | _ => none

def homeRun : List Happening × World × Prog Ask Reply (Except ErrorReport Connect.ConnectResult) :=
  drive (activationWorld id (Profiles.networkManager id)) homeAnswers oneProfile
    (connect forgetful .home (some "password") none)

/-- The settings a call submits. -/
def submission : Happening → Option ConnectionSettings
  | .own _ (.addAndActivate settings _ _ _) _ => some settings
  | _ => none

/-- The saved profile is cloned and stays what it was. -/
theorem temporary_join_traceless_clone :
    (forgetful.typed .home).profile.remember = some false ∧
      homeRun.2.1.saved = ["/profile/1"] ∧
      (homeRun.1.filterMap submission).map (fun settings => uuidOf settings) =
        [some (.str "fresh")] := by
  have hexec : Exec (activationWorld id (Profiles.networkManager id)) _ _ _ _ _ :=
    Exec.drive homeAnswers oneProfile (connect forgetful .home (some "password") none)
  exact ⟨rfl, (temporary_join_traceless rfl hexec).1, by decide +kernel⟩

end Activate

end NmDaemon
