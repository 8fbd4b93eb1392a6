import NmDaemon.Base.Client
import NmDaemon.NetworkCredentials

/-!
# A NetworkManager profile as its clients see it

What is assumed of NetworkManager where the daemon edits a profile or confirms a stored
credential. A profile has settings and a version. Every edit raises the version, a
successful `GetSecrets` raises it by exactly one and changes nothing else, and `Update2`
with a version is accepted only for the current one, which it raises by exactly one.
An update without settings commits the current ones; of any others NetworkManager keeps
what it keeps (`keep`).

Any call may fail. What is not said here of a reply can be anything: the name owner, the
secrets, where the profile is stored, what is being activated.
-/

namespace NmDaemon

namespace Profiles

open Client

/-- The calls of the daemon about one profile, at a pinned owner of NetworkManager's name. -/
inductive Call : Type where
  /-- who owns NetworkManager's name on the bus -/
  | currentOwner
  | versionId
  | getSettings
  | unsaved
  | filename
  | flags
  /-- the version of the running NetworkManager -/
  | version
  | getSecrets (section' : String)
  | update2 (settings : ConnectionSettings) (flags : UInt32) (versionId : ℕ)
  | activeConnections
  /-- the profile of an active connection -/
  | connectionOf (active : String)
  /-- the state of an active connection -/
  | stateOf (active : String)
  | getPermissions
  /-- whether the request this is done for is still wanted: no call to NetworkManager -/
  | requestLive

/-- The replies; an error is the text it is reported with. -/
abbrev Reply : Call → Type
  | .currentOwner => Except String String
  | .versionId => Except String ℕ
  | .getSettings => Except String ConnectionSettings
  | .unsaved => Except String Bool
  | .filename => Except String String
  | .flags => Except String UInt32
  | .version => Except String String
  | .getSecrets _ => Except String ConnectionSettings
  | .update2 _ _ _ => Except String Unit
  | .activeConnections => Except String (List String)
  | .connectionOf _ => Except String String
  | .stateOf _ => Except String UInt32
  | .getPermissions => Except String (Table String String)
  | .requestLive => Except String Unit

structure Profile : Type where
  version : ℕ
  /-- the settings `GetSettings` returns -/
  settings : ConnectionSettings

/-- What other clients do to the profile. -/
inductive Foreign : Type where
  /-- an edit, with by how much more than one it raises the version -/
  | edit (settings : ConnectionSettings) (more : ℕ)
  | readSecrets

/-- How NetworkManager serves a call. -/
def serve (keep : ConnectionSettings → ConnectionSettings) (s : Profile) :
    (c : Call) → Reply c → Option Profile
  | .versionId, .ok version => if version = s.version then some s else none
  | .getSettings, .ok settings => if settings = s.settings then some s else none
  | .getSecrets _, .ok _ => some { s with version := s.version + 1 }
  | .update2 settings _ version, .ok _ =>
    if version = s.version then
      some
        { version := s.version + 1
          settings := if settings.entries = [] then s.settings else keep settings }
    else none
  | _, _ => some s

def foreign (s : Profile) : Foreign → Option Profile
  | .edit settings more => some ⟨s.version + more + 1, settings⟩
  | .readSecrets => some { s with version := s.version + 1 }

/-- NetworkManager, as far as one profile goes. -/
def networkManager (keep : ConnectionSettings → ConnectionSettings) :
    Service Profile Call Reply Foreign where
  serve := serve keep
  rival := foreign

/-- A profile with a WPA password, and what else its security section has. -/
def homeWith (fields : List (String × Value)) : ConnectionSettings :=
  tableOf [("connection", tableOf [("uuid", .str "u")]),
    ("802-11-wireless-security", tableOf (("key-mgmt", .str "wpa-psk") :: fields))]

def homeProfile : ConnectionSettings := homeWith []

/-- The replies of a NetworkManager that always answers, for concrete executions. -/
def answering (owner filename : String) (active : UInt32) (secrets : ConnectionSettings)
    (s : Profile) : (c : Call) → Reply c
  | .currentOwner => .ok owner
  | .versionId => .ok s.version
  | .getSettings => .ok s.settings
  | .unsaved => .ok false
  | .filename => .ok filename
  | .flags => .ok 0
  | .version => .ok "1.56.0"
  | .getSecrets _ => .ok secrets
  | .update2 _ _ _ => .ok ()
  | .activeConnections => .ok ["/active/1"]
  | .connectionOf _ => .ok "/profile/1"
  | .stateOf _ => .ok active
  | .getPermissions =>
    .ok (tableOf [("org.freedesktop.NetworkManager.settings.modify.system", "yes")])
  | .requestLive => .ok ()

/-- An event of a history of calls to NetworkManager. -/
abbrev Happening : Type := Event Profile Call Reply Foreign

/-- Another client's edit took effect. -/
def ForeignEdit : Happening → Prop
  | .rival (.edit _ _) => True
  | _ => False

/-- A program that calls NetworkManager and may fail. -/
abbrev NmProgram : Type → Type := ExceptT String (Prog Call Reply)

def currentOwner : NmProgram String := ask .currentOwner id

def readVersionId : NmProgram ℕ := ask .versionId id

def getSettings : NmProgram ConnectionSettings := ask .getSettings id

/-- The path starts in this directory. -/
def isUnder (directory path : String) : Bool := directory.toList.isPrefixOf path.toList

/-- NetworkManager versions whose storage semantics were validated. -/
def validatedStorageVersion (version : String) : Bool :=
  version = "1.56.0" ∨ version = "1.58.1" ∨ version = "1.59.2-dev"

/-- The next version, if 64 bits hold it. -/
def nextVersion (version : ℕ) : Except String ℕ :=
  if version + 1 < 2 ^ 64 then .ok (version + 1) else .error "profile version exhausted"

theorem nextVersion_ok {version next : ℕ} (h : nextVersion version = .ok next) :
    next = version + 1 := by
  unfold nextVersion at h
  split_ifs at h
  exact (Except.ok.inj h).symm

/-- The calls that change nothing. -/
def Call.IsRead : Call → Prop
  | .getSecrets _ => False
  | .update2 _ _ _ => False
  | _ => True

theorem serve_read {keep : ConnectionSettings → ConnectionSettings} {s s' : Profile} {c : Call}
    {r : Reply c} (hc : c.IsRead) (h : (networkManager keep).serve s c r = some s') : s' = s := by
  cases c with
  | getSecrets => exact hc.elim
  | update2 => exact hc.elim
  | versionId | getSettings =>
    rcases r with e | v
    · cases h
      rfl
    · simp only [networkManager, serve] at h
      split_ifs at h
      exact (Option.some.inj h).symm
  | _ => exact (Option.some.inj h).symm

/-- What a successful version read says. -/
theorem serve_versionId {keep : ConnectionSettings → ConnectionSettings} {s s' : Profile} {v : ℕ}
    (h : (networkManager keep).serve s .versionId (.ok v) = some s') :
    s' = s ∧ v = s.version := by
  simp only [networkManager, serve] at h
  split_ifs at h with hv
  exact ⟨(Option.some.inj h).symm, hv⟩

/-- What a successful read of the settings says. -/
theorem serve_getSettings {keep : ConnectionSettings → ConnectionSettings} {s s' : Profile}
    {σ : ConnectionSettings} (h : (networkManager keep).serve s .getSettings (.ok σ) = some s') :
    s' = s ∧ σ = s.settings := by
  simp only [networkManager, serve] at h
  split_ifs at h with hσ
  exact ⟨(Option.some.inj h).symm, hσ⟩

/-- What an accepted update says. -/
theorem serve_update2 {keep : ConnectionSettings → ConnectionSettings} {s s' : Profile}
    {σ : ConnectionSettings} {fl : UInt32} {v : ℕ}
    (h : (networkManager keep).serve s (.update2 σ fl v) (.ok ()) = some s') :
    v = s.version ∧ s'.version = s.version + 1 ∧ (σ.entries = [] → s'.settings = s.settings) := by
  simp only [networkManager, serve] at h
  split_ifs at h with hv hempty
  · cases h
    exact ⟨hv, rfl, fun _ => rfl⟩
  · cases h
    exact ⟨hv, rfl, fun h => absurd h hempty⟩

/-! ## What a version says -/

/-- The profile had the version when the events of `m` began, and if it still has it then
none of them was an edit of another client. -/
structure Since (version : ℕ) (m : List Happening) (s : Profile) : Prop where
  le : version ≤ s.version
  quiet : s.version = version → ∀ e ∈ m, ¬ ForeignEdit e

/-- In addition, the profile had these settings at some time since. -/
structure Snapshot (version : ℕ) (settings : ConnectionSettings) (m : List Happening)
    (s : Profile) : Prop extends Since version m s where
  settings_eq : s.version = version → s.settings = settings

variable {version : ℕ} {settings : ConnectionSettings} {m : List Happening} {s s' : Profile}

/-- Whatever another client does raises the version, so a version that is still there says
that nothing was done. -/
theorem foreign_version {a : Foreign} (h : foreign s a = some s') : s.version < s'.version := by
  cases a with
  | edit settings more =>
    cases h
    change s.version < s.version + more + 1
    omega
  | readSecrets =>
    cases h
    exact Nat.lt_succ_self _

theorem Since.foreign {a : Foreign} (h : Since version m s) (ha : Profiles.foreign s a = some s') :
    Since version (m ++ [.rival a]) s' := by
  have hlt := foreign_version ha
  exact ⟨h.le.trans hlt.le, fun heq => absurd h.le (by omega)⟩

theorem Snapshot.foreign {a : Foreign} (h : Snapshot version settings m s)
    (ha : Profiles.foreign s a = some s') : Snapshot version settings (m ++ [.rival a]) s' := by
  have hlt := foreign_version ha
  exact ⟨h.toSince.foreign ha, fun heq => absurd h.le (by omega)⟩

/-- A call that leaves the profile alone. -/
theorem Since.own (h : Since version m s) (t : Profile) (c : Call) (r : Reply c) :
    Since version (m ++ [.own t c r]) s := by
  refine ⟨h.le, fun heq e he => ?_⟩
  rcases List.mem_append.mp he with he | he
  · exact h.quiet heq e he
  · rw [List.mem_singleton.mp he]
    exact id

theorem Snapshot.own (h : Snapshot version settings m s) (t : Profile) (c : Call) (r : Reply c) :
    Snapshot version settings (m ++ [.own t c r]) s :=
  ⟨h.toSince.own t c r, h.settings_eq⟩

/-- A successful read of secrets: the version is exactly one more. -/
theorem Snapshot.readSecrets (h : Snapshot version settings m s) (t : Profile) (c : Call)
    (r : Reply c) :
    Snapshot (version + 1) settings (m ++ [.own t c r]) { s with version := s.version + 1 } := by
  have hown := h.own t c r
  exact ⟨⟨Nat.succ_le_succ hown.le, fun heq => hown.quiet (Nat.succ.inj heq)⟩,
    fun heq => hown.settings_eq (Nat.succ.inj heq)⟩

/-! ## What a client knows from a version read on -/

/-- A property of a part of a history that what happens later does not undo. -/
def Lasting (M : List Happening → Prop) : Prop := ∀ m e, M m → M (m ++ [e])

/-- The history has a version read, `H` before it and `M` after it, and since then the profile
is known as `Snapshot` says. -/
def Tracked (H M : List Happening → Prop) (first version : ℕ) (settings : ConnectionSettings) :
    Assertion Profile Call Reply Foreign := fun tr s =>
  ∃ l t m, tr = l ++ Event.own t .versionId (.ok first) :: m ∧ H l ∧ M m ∧
    Snapshot version settings m s

variable {keep : ConnectionSettings → ConnectionSettings} {H M : List Happening → Prop}
  {first : ℕ} {tr : List Happening} {G : Guarantee Profile Call Reply Foreign}
  {P : Assertion Profile Call Reply Foreign} {α : Type}

/-- The history has a version read, `H` before it, and since then the profile is known as
`Since` says. -/
def Versioned (H : List Happening → Prop) (version : ℕ) :
    Assertion Profile Call Reply Foreign := fun tr s =>
  ∃ l t m, tr = l ++ Event.own t .versionId (.ok version) :: m ∧ H l ∧ Since version m s

/-- The settings were read. -/
def ReadSettings (settings : ConnectionSettings) (m : List Happening) : Prop :=
  ∃ t, Event.own t .getSettings (.ok settings) ∈ m

theorem lasting_readSettings : Lasting (ReadSettings settings) :=
  fun _ _ ⟨t, hmem⟩ => ⟨t, List.mem_append_left _ hmem⟩

theorem versioned_stable : Stable (networkManager keep) (Versioned H version) := by
  rintro tr s a s' ⟨l, t, m, rfl, hl, hsince⟩ hstep
  exact ⟨l, t, m ++ [.rival a], by simp, hl, hsince.foreign hstep⟩

/-- A property of the history alone. -/
theorem lasting_stable (hM : Lasting M) : Stable (networkManager keep) fun tr _ => M tr :=
  fun tr _ a _ h _ => hM tr (.rival a) h

theorem tracked_stable (hM : Lasting M) :
    Stable (networkManager keep) (Tracked H M first version settings) := by
  rintro tr s a s' ⟨l, t, m, rfl, hl, hm, hsnap⟩ hstep
  exact ⟨l, t, m ++ [.rival a], by simp, hl, hM m _ hm, hsnap.foreign hstep⟩

theorem Tracked.own (hM : Lasting M) (h : Tracked H M first version settings tr s) (t : Profile)
    (c : Call) (r : Reply c) : Tracked H M first version settings (tr ++ [.own t c r]) s := by
  obtain ⟨l, t₁, m, rfl, hl, hm, hsnap⟩ := h
  exact ⟨l, t₁, m ++ [.own t c r], by simp, hl, hM m _ hm, hsnap.own t c r⟩

/-- The rule for a call that changes nothing. -/
theorem triple_read (c : Call) {f : Reply c → Except String α} (hc : c.IsRead)
    (hG : ∀ tr s r, G tr s c r) (hstable : Stable (networkManager keep) P)
    (hown : ∀ tr s r, P tr s → P (tr ++ [.own s c r]) s) :
    Triple (networkManager keep) G P (ask c f) fun _ => P := by
  refine .ask hstable fun tr s r s' hP hserve => ⟨hG tr s r, fun a _ => ?_⟩
  rw [serve_read hc hserve]
  exact hown tr s r hP

/-- What is known stays known over such a call. -/
theorem tracked_read (hM : Lasting M) (c : Call) {f : Reply c → Except String α} (hc : c.IsRead)
    (hG : ∀ tr s r, G tr s c r) :
    Triple (networkManager keep) G (Tracked H M first version settings) (ask c f)
      fun _ => Tracked H M first version settings :=
  triple_read c hc hG (tracked_stable hM) fun _ s r h => h.own hM s c r

/-- The secrets are read: one version further, the same is known of the profile. -/
theorem tracked_getSecrets (hM : Lasting M) {section' : String}
    {f : Reply (.getSecrets section') → Except String ConnectionSettings}
    (hG : ∀ tr s r, G tr s (.getSecrets section') r) (hf : ∀ e secrets, f (.error e) ≠ .ok secrets) :
    Triple (networkManager keep) G (Tracked H M first version settings) (ask (.getSecrets section') f)
      fun secrets => Tracked H
        (fun m => M m ∧ ∃ t reply, Event.own t (.getSecrets section') (.ok reply) ∈ m ∧
          f (.ok reply) = .ok secrets) first (version + 1) settings := by
  refine .ask (tracked_stable hM) fun tr s r s' h hserve => ⟨hG tr s r, fun secrets hr => ?_⟩
  rcases r with e | reply
  · exact absurd hr (hf e secrets)
  obtain rfl := Option.some.inj hserve
  obtain ⟨l, t, m, rfl, hl, hm, hsnap⟩ := h
  exact ⟨l, t, m ++ [.own s (.getSecrets section') (.ok reply)], by simp, hl,
    ⟨hM m _ hm, s, reply, by simp, hr⟩, hsnap.readSecrets s _ _⟩

/-- A version read begins what is known of the profile. -/
theorem triple_readVersionId (hG : ∀ tr s r, G tr s .versionId r)
    (hstable : Stable (networkManager keep) fun tr _ => H tr) :
    Triple (networkManager keep) G (fun tr _ => H tr) readVersionId
      fun version => Versioned H version := by
  refine .ask hstable fun tr s r s' h hserve => ⟨hG tr s r, ?_⟩
  rintro version rfl
  obtain ⟨hsame, hversion⟩ := serve_versionId hserve
  rw [hsame]
  exact ⟨tr, s, [], rfl, h, hversion.le, fun _ e he => absurd he List.not_mem_nil⟩

/-- The settings that are read after it are a snapshot. -/
theorem triple_getSettings (hG : ∀ tr s r, G tr s .getSettings r) :
    Triple (networkManager keep) G (Versioned H version) getSettings
      fun settings => Tracked H (ReadSettings settings) version version settings := by
  refine .ask versioned_stable fun tr s r s' h hserve => ⟨hG tr s r, ?_⟩
  rintro settings rfl
  obtain ⟨hsame, hsettings⟩ := serve_getSettings hserve
  rw [hsame]
  obtain ⟨l, t, m, rfl, hl, hsince⟩ := h
  exact ⟨l, t, m ++ [.own s .getSettings (.ok settings)], by simp, hl, ⟨s, by simp⟩,
    hsince.own s _ _, fun _ => hsettings.symm⟩

theorem Tracked.mono {M' : List Happening → Prop} (h : Tracked H M first version settings tr s)
    (hM : ∀ m, M m → M' m) : Tracked H M' first version settings tr s := by
  obtain ⟨l, t, m, htr, hl, hm, hsnap⟩ := h
  exact ⟨l, t, m, htr, hl, hM m hm, hsnap⟩

/-- An update without settings commits what there is, one version further. -/
theorem tracked_commit (hM : Lasting M) {flags : UInt32}
    {f : Reply (.update2 ∅ flags version) → Except String Unit}
    (hG : ∀ tr s r, G tr s (.update2 ∅ flags version) r) (hf : ∀ e, f (.error e) ≠ .ok ()) :
    Triple (networkManager keep) G (Tracked H M first version settings)
      (ask (.update2 ∅ flags version) f)
      fun _ => Tracked H
        (fun m => M m ∧ ∃ t, Event.own t (.update2 ∅ flags version) (.ok ()) ∈ m ∧
          t.settings = settings) first (version + 1) settings := by
  refine .ask (tracked_stable hM) fun tr s r s' h hserve => ⟨hG tr s r, fun a hr => ?_⟩
  rcases r with e | ⟨⟩
  · exact absurd hr (hf e)
  obtain ⟨hversion, hnext, hsame⟩ := serve_update2 hserve
  obtain ⟨l, t, m, rfl, hl, hm, hsnap⟩ := h
  have hsettings := hsnap.settings_eq hversion.symm
  have hquiet := (hsnap.own s (.update2 ∅ flags version) (.ok ())).quiet hversion.symm
  refine ⟨l, t, m ++ [.own s (.update2 ∅ flags version) (.ok ())], by simp, hl,
    ⟨hM m _ hm, s, by simp, hsettings⟩, ⟨by omega, fun _ => hquiet⟩, fun _ => ?_⟩
  rw [hsame rfl, hsettings]

/-- The version reads a client began and ended with, `H` before them and `M` between them. -/
def Closed (H M : List Happening → Prop) (first version last : ℕ) (tr : List Happening) : Prop :=
  ∃ l t m t' rest, tr = l ++ Event.own t .versionId (.ok first) ::
      (m ++ Event.own t' .versionId (.ok last) :: rest) ∧ H l ∧ M m ∧
    (last = version → ∀ e ∈ m, ¬ ForeignEdit e)

theorem lasting_closed {last : ℕ} : Lasting (Closed H M first version last) := by
  rintro tr e ⟨l, t, m, t', rest, rfl, hl, hm, hquiet⟩
  exact ⟨l, t, m, t', rest ++ [e], by simp, hl, hm, hquiet⟩

/-- The last version read: if it is the version that is expected, nobody else edited. -/
theorem tracked_close (hM : Lasting M) (hG : ∀ tr s r, G tr s .versionId r) :
    Triple (networkManager keep) G (Tracked H M first version settings) readVersionId
      fun last tr _ => Closed H M first version last tr := by
  refine .ask (tracked_stable hM) fun tr s r s' h hserve => ⟨hG tr s r, ?_⟩
  rintro last rfl
  obtain ⟨-, hlast⟩ := serve_versionId hserve
  obtain ⟨l, t, m, rfl, hl, hm, hsnap⟩ := h
  exact ⟨l, t, m, s, [], by simp, hl, hm, fun heq => hsnap.quiet (hlast.symm.trans heq)⟩

/-- What is known of the history alone stays known over any call. -/
theorem lasting_ask (hM : Lasting M) (c : Call) {f : Reply c → Except String α}
    (hG : ∀ tr s r, G tr s c r) :
    Triple (networkManager keep) G (fun tr _ => M tr) (ask c f) fun _ tr _ => M tr :=
  Triple.ask (lasting_stable hM) fun tr s r _ h _ => ⟨hG tr s r, fun _ _ => hM tr _ h⟩

end Profiles

end NmDaemon
