import NmDaemon.CredentialPreservation

/-!
# The updates of an edit

What an edit of a profile asks for and how it ends, whatever NetworkManager answers: the
settings are read once, at most one update is accepted, and its settings are those that whoever
asked for the edit made of the settings that were read, with the secrets NetworkManager returned.

* `record` — the settings that were read and the updates that were accepted, read off a history;
* `Edited` — where the settings of an update come from;
* `ends_profileEdit` — an edit that succeeds has made its update; one that fails has made none,
  or NetworkManager's owner could not be confirmed right after it (`Unconfirmed`).
-/

namespace NmDaemon

namespace Profiles

open Client Credentials

/-! ## The record of a history -/

/-- The settings that were read. -/
def settingsRead : Happening → Option ConnectionSettings
  | .own _ .getSettings (.ok settings) => some settings
  | _ => none

/-- The settings of an update that was accepted. -/
def accepted : Happening → Option ConnectionSettings
  | .own _ (.update2 settings _ _) (.ok _) => some settings
  | _ => none

structure Record : Type where
  reads : List ConnectionSettings
  updates : List ConnectionSettings

def record (tr : List Happening) : Record :=
  ⟨tr.filterMap settingsRead, tr.filterMap accepted⟩

def At (v : Record) : Assertion Profile Call Reply Foreign := fun tr _ => record tr = v

/-- No update was accepted. -/
def Unwritten : Assertion Profile Call Reply Foreign := fun tr _ => (record tr).updates = []

variable {nm : Service Profile Call Reply Foreign} {v : Record} {tr : List Happening} {s : Profile}
  {G : Guarantee Profile Call Reply Foreign} {α : Type}

theorem record_snoc (tr : List Happening) (e : Happening) :
    record (tr ++ [e]) = ⟨(record tr).reads ++ (settingsRead e).toList,
      (record tr).updates ++ (accepted e).toList⟩ := by
  have hone : ∀ f : Happening → Option ConnectionSettings,
      (tr ++ [e]).filterMap f = tr.filterMap f ++ (f e).toList := by
    intro f
    rw [List.filterMap_append]
    cases h : f e with
    | none => rw [List.filterMap_cons_none h]; rfl
    | some settings => rw [List.filterMap_cons_some h]; rfl
  rw [record, hone, hone]
  rfl

variable {e : Happening}

/-- An event that is not recorded. -/
theorem record_quiet (hread : settingsRead e = none) (hupdate : accepted e = none) :
    record (tr ++ [e]) = record tr := by
  rw [record_snoc, hread, hupdate, Option.toList_none, List.append_nil, List.append_nil]

theorem at_stable : Stable nm (At v) := by
  intro tr s a s' h _
  exact (record_quiet rfl rfl).trans h

variable {reads : List ConnectionSettings}

theorem At.unwritten (h : At ⟨reads, []⟩ tr s) : Unwritten tr s := by
  rw [Unwritten, show record tr = _ from h]

/-- The calls that the record does not note. -/
def Call.IsQuiet : Call → Prop
  | .getSettings => False
  | .update2 _ _ _ => False
  | _ => True

/-- A promise about updates only. -/
def OnUpdates (G : Guarantee Profile Call Reply Foreign) : Prop :=
  ∀ tr s c r, (∀ written flags version, c ≠ .update2 written flags version) → G tr s c r

theorem Call.IsQuiet.not_update {c : Call} (hc : c.IsQuiet) (written : ConnectionSettings)
    (flags : UInt32) (version : ℕ) : c ≠ .update2 written flags version := by
  rintro rfl
  exact hc

theorem ends_quiet (hG : OnUpdates G) (c : Call) (hc : c.IsQuiet)
    {f : Reply c → Except String α} :
    Ends nm G (At v) (ask c f) (fun _ => At v) fun _ => At v := by
  refine .ask at_stable fun tr s r s' h _ => ⟨hG tr s c r hc.not_update, ?_⟩
  have hquiet : record (tr ++ [.own s c r]) = v := by
    refine (record_quiet ?_ ?_).trans h
    · cases c with
      | getSettings => exact hc.elim
      | _ => rfl
    · cases c with
      | update2 => exact hc.elim
      | _ => rfl
  cases f r with
  | error e => exact hquiet
  | ok a => exact hquiet

theorem ends_proxyPath (hG : OnUpdates G) (destination : String) :
    Ends nm G (At v) (proxyPath destination) (fun _ => At v) fun _ => At v := by
  unfold proxyPath ensureCurrentOwner
  split_ifs
  · exact (ends_quiet hG .currentOwner trivial).bind fun owner =>
      Ends.ensure (fun _ _ _ h => h) fun _ _ _ h => h
  · exact .pure fun _ _ h => h

/-! ## The snapshot -/

theorem ends_storageAllowed (hG : OnUpdates G) (explicitRemember : Bool) :
    Ends nm G (At v) (storageAllowed explicitRemember) (fun _ => At v) fun _ => At v := by
  refine (ends_quiet hG .unsaved trivial).bind fun unsaved => ?_
  refine (ends_quiet hG .filename trivial).bind fun filename => ?_
  split_ifs
  · exact .pure fun _ _ h => h
  · exact (ends_quiet hG .flags trivial).bind fun flags => .pure fun _ _ h => h
  · exact .pure fun _ _ h => h

theorem ends_getSettings (hG : OnUpdates G) :
    Ends nm G (At ⟨[], []⟩) getSettings (fun settings => At ⟨[settings], []⟩)
      fun _ => At ⟨[], []⟩ := by
  refine .ask at_stable fun tr s r s' h _ => ⟨hG _ _ _ _ (fun _ _ _ => nofun), ?_⟩
  have hrecord : record tr = _ := h
  cases r with
  | error e => exact (record_quiet rfl rfl).trans h
  | ok settings =>
    change record _ = _
    rw [record_snoc, hrecord]
    rfl

/-- A snapshot reads the settings once and writes nothing. -/
theorem ends_beginProfileEdit (hG : OnUpdates G) (destination : String) (explicitRemember : Bool) :
    Ends nm G (At ⟨[], []⟩) (beginProfileEdit destination explicitRemember)
      (fun edit tr s => edit.settings = edit.original ∧ edit.explicitRemember = explicitRemember ∧
        At ⟨[edit.original], []⟩ tr s) fun _ => Unwritten := by
  have hquiet : ∀ {reads : List ConnectionSettings} {β : Type} {p : NmProgram β},
      Ends nm G (At ⟨reads, []⟩) p (fun _ => At ⟨reads, []⟩) (fun _ => At ⟨reads, []⟩) →
      Ends nm G (At ⟨reads, []⟩) p (fun _ => At ⟨reads, []⟩) fun _ => Unwritten :=
    fun hp => hp.imp_error fun _ _ _ h => h.unwritten
  refine (hquiet (ends_quiet hG .currentOwner trivial)).bind fun owner =>
    Ends.ensure_bind (fun _ => ?_) fun _ _ _ h => h.unwritten
  refine (hquiet (ends_proxyPath hG destination)).bind fun _ => ?_
  refine (hquiet (ends_quiet hG .versionId trivial)).bind fun version =>
    Ends.ensure_bind (fun _ => ?_) fun _ _ _ h => h.unwritten
  refine ((ends_getSettings hG).imp_error fun _ _ _ h => h.unwritten).bind fun settings => ?_
  refine .lift_bind (fun uuid _ => ?_) fun _ _ _ _ h => h.unwritten
  refine (hquiet (ends_storageAllowed hG explicitRemember)).bind fun allowed =>
    Ends.ensure_bind (fun _ => ?_) fun _ _ _ h => h.unwritten
  refine (hquiet (ends_quiet hG .versionId trivial)).bind fun again =>
    Ends.ensure_bind (fun _ => ?_) fun _ _ _ h => h.unwritten
  refine (hquiet (ends_quiet hG .currentOwner trivial)).bind fun current =>
    Ends.ensure_bind (fun _ => ?_) fun _ _ _ h => h.unwritten
  exact .pure fun _ _ h => ⟨rfl, rfl, h⟩

/-! ## The commit -/

/-- An update was the last call. -/
def JustUpdated (tr : List Happening) : Prop :=
  ∃ l t written flags version m, tr = l ++ .own t (.update2 written flags version) (.ok ()) :: m ∧
    ∀ e ∈ m, ∃ a, e = .rival a

/-- The owner of NetworkManager's name was asked for right after an update, and it was not
confirmed. -/
def Unconfirmed (destination : String) (tr : List Happening) : Prop :=
  ∃ l t reply m, tr = l ++ .own t .currentOwner reply :: m ∧ JustUpdated l ∧
    reply ≠ .ok destination

/-- How an edit that has read these settings fails. -/
def FailedCommit (destination : String) (reads : List ConnectionSettings) :
    Assertion Profile Call Reply Foreign := fun tr s =>
  Unwritten tr s ∨ ∃ written, At ⟨reads, [written]⟩ tr s ∧ Unconfirmed destination tr

/-- When an update is made, the settings have been read and nothing is written. -/
def firstUpdate (reads : List ConnectionSettings) : Guarantee Profile Call Reply Foreign :=
  fun tr _ c _ => ∀ written flags version, c = .update2 written flags version →
    record tr = ⟨reads, []⟩

theorem onUpdates_firstUpdate (reads : List ConnectionSettings) : OnUpdates (firstUpdate reads) :=
  fun _ _ _ _ hc written flags version h => absurd h (hc written flags version)

theorem justUpdated_stable :
    Stable nm fun tr (_ : Profile) => JustUpdated tr := by
  rintro tr s a s' ⟨l, t, written, flags, version, m, rfl, hm⟩ _
  refine ⟨l, t, written, flags, version, m ++ [.rival a], by simp, fun e he => ?_⟩
  rcases List.mem_append.mp he with he | he
  · exact hm e he
  · exact ⟨a, List.mem_singleton.mp he⟩

theorem ends_preserveSections (hG : OnUpdates G) (sections : List String) :
    ∀ (settings : ConnectionSettings) (version : ℕ),
      Ends nm G (At v) (preserveSections sections settings version) (fun _ => At v)
        fun _ => At v := by
  induction sections with
  | nil => exact fun settings version => .pure fun _ _ h => h
  | cons section' rest ih =>
    intro settings version
    refine (ends_quiet hG (.getSecrets section') trivial).bind fun secrets => ?_
    refine .lift_bind (fun expected _ => ?_) fun _ _ _ _ h => h
    refine (ends_quiet hG .versionId trivial).bind fun current =>
      Ends.ensure_bind (fun _ => ?_) fun _ _ _ h => h
    refine .lift_bind (fun _ _ => ?_) fun _ _ _ _ h => h
    exact .lift_bind (fun merged _ => ih merged expected) fun _ _ _ _ h => h

theorem ends_preserveCredentials (hG : OnUpdates G) (edit : ProfileEdit) :
    Ends nm G (At v) (preserveCredentials edit) (fun _ => At v) fun _ => At v := by
  have hcollect : Ends nm G (At v) (collectSecrets edit) (fun _ => At v) fun _ => At v := by
    unfold collectSecrets
    split_ifs
    · refine (ends_quiet hG .version trivial).bind fun running =>
        Ends.ensure_bind (fun _ => ?_) fun _ _ _ h => h
      refine (ends_preserveSections hG _ edit.settings edit.version).bind fun r => ?_
      exact .lift_bind (fun merged _ => .pure fun _ _ h => h) fun _ _ _ _ h => h
    · exact .pure fun _ _ h => h
  refine hcollect.bind fun r => ?_
  exact .lift_bind (fun written _ => .pure fun _ _ h => h) fun _ _ _ _ h => h

theorem ends_ensureUnstaged (hG : OnUpdates G) (explicitRemember : Bool) :
    Ends nm G (At v) (ensureUnstaged explicitRemember) (fun _ => At v) fun _ => At v := by
  unfold ensureUnstaged
  split_ifs
  · exact .pure fun _ _ h => h
  · exact (ends_quiet hG .unsaved trivial).bind fun unsaved =>
      Ends.ensure (fun _ _ _ h => h) fun _ _ _ h => h

variable {written : ConnectionSettings}

/-- The last check of a commit, right after its update. -/
theorem ends_confirm {destination : String} (hG : OnUpdates G) :
    Ends nm G (fun tr s => At ⟨reads, [written]⟩ tr s ∧ JustUpdated tr) (do
      let owner ← currentOwner
      ensure (owner = destination) "NetworkManager changed after write; verification required")
      (fun _ => At ⟨reads, [written]⟩) fun _ => FailedCommit destination reads := by
  have hstable : Stable nm fun tr s => At ⟨reads, [written]⟩ tr s ∧ JustUpdated tr :=
    fun tr s a s' h hstep => ⟨at_stable _ _ _ _ h.1 hstep, justUpdated_stable _ _ _ _ h.2 hstep⟩
  have howner : Ends nm G (fun tr s => At ⟨reads, [written]⟩ tr s ∧ JustUpdated tr) currentOwner
      (fun owner tr s => At ⟨reads, [written]⟩ tr s ∧ (owner ≠ destination →
        Unconfirmed destination tr)) fun _ => FailedCommit destination reads := by
    refine .ask hstable fun tr s r s' h _ => ⟨hG _ _ _ _ (fun _ _ _ => nofun), ?_⟩
    have hat : At ⟨reads, [written]⟩ (tr ++ [.own s .currentOwner r]) s' :=
      (record_quiet rfl rfl).trans h.1
    cases r with
    | error e => exact .inr ⟨written, hat, tr, s, .error e, [], rfl, h.2, nofun⟩
    | ok owner =>
      refine ⟨hat, fun hne => ⟨tr, s, .ok owner, [], rfl, h.2, fun heq => ?_⟩⟩
      exact hne (Except.ok.inj heq)
  refine howner.bind fun owner => .ensure (fun _ _ _ h => h.1) fun hne tr s h => ?_
  exact .inr ⟨written, h.1, h.2 hne⟩

/-- A commit makes at most one update. -/
theorem ends_commitCredentialEdit (destination : String) (edit : ProfileEdit)
    (blockAutoconnect : Bool) :
    Ends nm (firstUpdate reads) (At ⟨reads, []⟩)
      (commitCredentialEdit destination edit blockAutoconnect)
      (fun _ tr s => ∃ written, At ⟨reads, [written]⟩ tr s)
      fun _ => FailedCommit destination reads := by
  have hG := onUpdates_firstUpdate reads
  have hfail : ∀ {tr s}, At ⟨reads, []⟩ tr s → FailedCommit destination reads tr s :=
    fun h => .inl h.unwritten
  have hquiet : ∀ {β : Type} {p : NmProgram β},
      Ends nm (firstUpdate reads) (At ⟨reads, []⟩) p (fun _ => At ⟨reads, []⟩)
        (fun _ => At ⟨reads, []⟩) →
      Ends nm (firstUpdate reads) (At ⟨reads, []⟩) p (fun _ => At ⟨reads, []⟩)
        fun _ => FailedCommit destination reads :=
    fun hp => hp.imp_error fun _ _ _ h => hfail h
  refine (hquiet (ends_proxyPath hG destination)).bind fun _ => ?_
  refine (hquiet (ends_quiet hG .currentOwner trivial)).bind fun owner =>
    Ends.ensure_bind (fun howner => ?_) fun _ _ _ h => hfail h
  refine (hquiet (ends_quiet hG .versionId trivial)).bind fun current =>
    Ends.ensure_bind (fun _ => ?_) fun _ _ _ h => hfail h
  refine .ensure_bind (fun _ => ?_) fun _ _ _ h => hfail h
  refine .lift_bind (fun _ _ => ?_) fun _ _ _ _ h => hfail h
  refine (hquiet (ends_preserveCredentials hG edit)).bind fun r => ?_
  refine (hquiet (ends_quiet hG .currentOwner trivial)).bind fun owner =>
    Ends.ensure_bind (fun _ => ?_) fun _ _ _ h => hfail h
  refine (hquiet (ends_quiet hG .versionId trivial)).bind fun current =>
    Ends.ensure_bind (fun _ => ?_) fun _ _ _ h => hfail h
  refine (hquiet (ends_ensureUnstaged hG edit.explicitRemember)).bind fun _ => ?_
  have hupdate : Ends nm (firstUpdate reads) (At ⟨reads, []⟩)
      (updateProfile r.1 blockAutoconnect r.2)
      (fun _ tr s => At ⟨reads, [r.1]⟩ tr s ∧ JustUpdated tr)
      fun _ => FailedCommit destination reads := by
    refine .ask at_stable fun tr s reply s' h _ => ⟨fun _ _ _ _ => h, ?_⟩
    have hrecord : record tr = _ := h
    cases reply with
    | error e => exact hfail ((record_quiet rfl rfl).trans h)
    | ok reply =>
      refine ⟨?_, tr, s, r.1, _, r.2, [], rfl, fun e he => absurd he List.not_mem_nil⟩
      change record _ = _
      rw [record_snoc, hrecord]
      exact congrArg (Record.mk · _) (List.append_nil reads)
  refine hupdate.bind fun _ => ?_
  -- the owner of the edit is the one the connection is pinned to
  rw [← howner.2]
  exact (ends_confirm hG).conseq (fun _ _ h => h) (fun _ _ _ h => ⟨r.1, h⟩) fun _ _ _ h => h

/-! ## The whole edit -/

/-- Where the settings of an update come from. -/
def Edited (change : ConnectionSettings → Except String ConnectionSettings)
    (explicitRemember : Bool) (tr : List Happening) (written : ConnectionSettings) : Prop :=
  ∃ edit : ProfileEdit, (record tr).reads = [edit.original] ∧
    change edit.original = .ok edit.settings ∧ edit.explicitRemember = explicitRemember ∧
    Prepared edit (secretReplies tr) written

/-- What an edit promises of its updates. -/
def editedGuarantee (change : ConnectionSettings → Except String ConnectionSettings)
    (explicitRemember : Bool) : Guarantee Profile Call Reply Foreign :=
  fun tr _ c _ => ∀ written flags version, c = .update2 written flags version →
    Edited change explicitRemember tr written

/-- The one update of an edit that was accepted. -/
def Wrote (change : ConnectionSettings → Except String ConnectionSettings)
    (explicitRemember : Bool) (tr : List Happening) : Prop :=
  ∃ l t written flags version m,
    tr = l ++ .own t (.update2 written flags version) (.ok ()) :: m ∧
    (∀ e ∈ l, accepted e = none) ∧ (∀ e ∈ m, accepted e = none) ∧
    Edited change explicitRemember l written

theorem settingsRead_eq_some {settings : ConnectionSettings} (h : settingsRead e = some settings) :
    ∃ t, e = .own t .getSettings (.ok settings) := by
  cases e with
  | rival a => cases h
  | own t c r =>
    cases c with
    | getSettings =>
      cases r with
      | error e => cases h
      | ok reply =>
        cases h
        exact ⟨t, rfl⟩
    | _ => cases h

theorem accepted_eq_some (h : accepted e = some written) :
    ∃ t flags version, e = .own t (.update2 written flags version) (.ok ()) := by
  cases e with
  | rival a => cases h
  | own t c r =>
    cases c with
    | update2 settings flags version =>
      cases r with
      | error e => cases h
      | ok reply =>
        cases h
        exact ⟨t, flags, version, rfl⟩
    | _ => cases h

variable {change : ConnectionSettings → Except String ConnectionSettings} {explicitRemember : Bool}

/-- One update in the record is one in the history, and what was promised of it is known. -/
theorem wrote_of_recorded (hcalls : Client.Recorded (editedGuarantee change explicitRemember) tr)
    (h : record tr = ⟨reads, [written]⟩) : Wrote change explicitRemember tr := by
  obtain ⟨l, e, m, rfl, hl, he, hm⟩ :=
    List.filterMap_eq_cons_iff.mp (congrArg Record.updates h)
  obtain ⟨t, flags, version, rfl⟩ := accepted_eq_some he
  exact ⟨l, t, written, flags, version, m, rfl, hl, List.filterMap_eq_nil_iff.mp hm,
    hcalls l m t _ _ rfl written flags version rfl⟩

/-- No secrets are asked for in a snapshot. -/
theorem triple_beginProfileEdit_replied (edit : ProfileEdit) (destination : String)
    (explicitRemember : Bool) :
    Triple nm (preparedGuarantee edit) (Replied (· = []))
      (beginProfileEdit destination explicitRemember) fun _ => Replied (· = []) := by
  have hstorage : Triple nm (preparedGuarantee edit) (Replied (· = []))
      (storageAllowed explicitRemember) fun _ => Replied (· = []) := by
    refine (replied_read .unsaved trivial).bind fun unsaved => ?_
    refine (replied_read .filename trivial).bind fun filename => ?_
    split_ifs
    · exact .pure fun _ _ h => h
    · exact (replied_read .flags trivial).bind fun flags => .pure fun _ _ h => h
    · exact .pure fun _ _ h => h
  refine (replied_read .currentOwner trivial).bind fun owner => .ensure_bind fun _ => ?_
  refine (triple_proxyPath (replied_read .currentOwner trivial) destination).bind fun _ => ?_
  refine (replied_read .versionId trivial).bind fun version => .ensure_bind fun _ => ?_
  refine (replied_read .getSettings trivial).bind fun settings => .lift_bind fun uuid _ => ?_
  refine hstorage.bind fun allowed => .ensure_bind fun _ => ?_
  refine (replied_read .versionId trivial).bind fun again => .ensure_bind fun _ => ?_
  refine (replied_read .currentOwner trivial).bind fun current => .ensure_bind fun _ => ?_
  exact .pure fun _ _ h => h

/-- **The updates of an edit.** Every update an edit asks for is of the settings it was to make of
those that were read. If it succeeds, one of them was accepted; if it fails, none was, or the owner
of NetworkManager's name was not confirmed after it. -/
theorem ends_profileEdit (destination : String) (explicitRemember : Bool)
    (change : ConnectionSettings → Except String ConnectionSettings) (blockAutoconnect : Bool) :
    Ends nm (editedGuarantee change explicitRemember) (fun tr _ => tr = [])
      (profileEdit destination explicitRemember change blockAutoconnect)
      (fun _ tr _ => Wrote change explicitRemember tr) fun _ tr s =>
        Unwritten tr s ∨ (Wrote change explicitRemember tr ∧ Unconfirmed destination tr) := by
  have hbegin : Ends nm (editedGuarantee change explicitRemember)
      (fun tr s => At ⟨[], []⟩ tr s ∧ Replied (· = []) tr s)
      (beginProfileEdit destination explicitRemember) (fun begun tr s =>
        (begun.settings = begun.original ∧ begun.explicitRemember = explicitRemember ∧
          At ⟨[begun.original], []⟩ tr s) ∧ Replied (· = []) tr s)
      fun _ tr s => ∃ reads, FailedCommit destination reads tr s := by
    have hG : OnUpdates fun _ _ c _ => ∀ written flags version,
        c ≠ Call.update2 written flags version := fun _ _ _ _ hc => hc
    refine (((ends_beginProfileEdit hG destination explicitRemember).and_triple
      (triple_beginProfileEdit_replied ⟨∅, ∅, 0, "", "", false⟩ destination
        explicitRemember)).promise ?_).imp_error fun _ _ _ h => ⟨[], .inl h⟩
    exact fun tr s c r h written flags version hc => absurd hc (h.1 written flags version)
  have hedit : Ends nm (editedGuarantee change explicitRemember)
      (fun tr s => At ⟨[], []⟩ tr s ∧ Replied (· = []) tr s)
      (profileEdit destination explicitRemember change blockAutoconnect)
      (fun _ tr s => ∃ reads written, At ⟨reads, [written]⟩ tr s)
      fun _ tr s => ∃ reads, FailedCommit destination reads tr s := by
    refine hbegin.bind fun begun => ?_
    refine .lift_bind (fun settings hsettings => ?_)
      fun _ _ _ _ h => ⟨[], .inl h.1.2.2.unwritten⟩
    intro tr s ⟨⟨hsame, hremember, hat⟩, hreplied⟩
    rw [hsame] at hsettings
    refine (((ends_commitCredentialEdit destination { begun with settings }
      blockAutoconnect).and_triple (triple_commit_prepared destination { begun with settings }
        blockAutoconnect)).promise ?_).conseq (fun _ _ h => h) (fun _ _ _ h => ⟨_, h.1⟩)
      (fun _ _ _ h => ⟨_, h⟩) tr s ⟨hat, hreplied⟩
    intro tr s c r h written flags version hc
    refine ⟨{ begun with settings }, ?_, hsettings, hremember, h.2 written flags version hc⟩
    rw [h.1 written flags version hc]
  intro tr s htr
  subst htr
  refine wp_mono ?_ _ [] s (hedit.recorded [] s ⟨⟨rfl, rfl⟩, Recorded.nil⟩)
  rintro (e | a) tr s ⟨h, hcalls⟩
  · obtain ⟨reads, hun | ⟨written, hat, hconf⟩⟩ := h
    · exact .inl hun
    · exact .inr ⟨wrote_of_recorded hcalls hat, hconf⟩
  · obtain ⟨reads, written, hat⟩ := h
    exact wrote_of_recorded hcalls hat

end Profiles

end NmDaemon
