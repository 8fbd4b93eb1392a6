import NmDaemon.Base.Machine
import NmDaemon.SecretHandoff

/-!
# The history of the transient handoff

Staging, taking, clearing and time passing, in any order: whatever is handed out comes from
one stage, and the history since then says that nothing replaced, cleared or took it
(`handoff_history`).

* `Supersedes` — the actions after which the values of a setting are not handed out any more;
* `Staged` — where the values of a setting that are kept come from;
* `Kept` — how many entries there are.
-/

namespace NmDaemon

namespace Secrets

open Credentials

namespace Handoff

/-! ## The machine -/

inductive Action : Type where
  /-- time passes -/
  | tick (ms : ℕ)
  | stage (owner path : String) (connection : ConnectionSettings)
  | take (request : PendingSecretRequest) (connection : ConnectionSettings)
  | clear (path : Option String)
  /-- what is left to itself is dropped when it has expired -/
  | expire

/-- The clock, and what is kept. -/
structure State : Type where
  now : ℕ
  entries : Handoff

def step (s : State) : Action → Option (State × List (String × String))
  | .tick ms => some ({ s with now := s.now + ms }, [])
  | .stage owner path connection =>
    some ({ s with entries := s.entries.stage s.now owner path connection }, [])
  | .take request connection =>
    let taken := s.entries.take s.now request connection
    some ({ s with entries := taken.1 }, taken.2)
  | .clear path => some ({ s with entries := s.entries.clear s.now path }, [])
  | .expire => some ({ s with entries := s.entries.unexpired s.now }, [])

/-- The handoff, from its start; an action answers with the values it hands out. -/
def handoff : Machine State Action (List (String × String)) where
  start := ⟨0, ∅⟩
  step := step

abbrev Entry : Type := Action × List (String × String)

/-- The time that passed in a part of the history. -/
def elapsed (log : List Entry) : ℕ :=
  (log.map fun e => match e.1 with
    | .tick ms => ms
    | _ => 0).sum

/-- Who asks for what: the owner, the path and the profile. A request without an owner has
the empty one. -/
def identity (request : PendingSecretRequest) (connection : ConnectionSettings) :
    Option (String × String × String) :=
  (uuid connection).map fun uuid => (request.nmOwner.getD "", request.connectionPath, uuid)

/-- After this action the values of a setting that were kept for `key` are not handed out:
others were staged for the path, the path was cleared, or they were taken. -/
def Supersedes (key : String × String × String) (setting : String) : Action → Prop
  | .stage _ path connection => path = key.2.1 ∧ (uuid connection).isSome
  | .take request connection =>
    identity request connection = some key ∧ request.settingName = setting
  | .clear path => path = none ∨ path = some key.2.1
  | .tick _ | .expire => False

/-- The secrets of a setting that may be kept, with their keys. -/
def secretsOf (connection : ConnectionSettings) (setting : String) : List (String × String) :=
  (connectionSecretValues connection).filterMap fun e => if e.1 = setting then some e.2 else none

/-! ## What each operation keeps -/

section Operations

variable {h : Handoff} {now : ℕ} {key : String × String × String} {entry : HandoffEntry}

theorem lookup_unexpired :
    (h.unexpired now).lookup key = some entry ↔
      h.lookup key = some entry ∧ now < entry.deadline := by
  rw [unexpired, Table.lookup_filterMap, Option.bind_eq_some_iff]
  constructor
  · rintro ⟨entry', hentry', hlive⟩
    split at hlive
    · cases hlive
      exact ⟨hentry', ‹_›⟩
    · cases hlive
  · rintro ⟨hentry, hlive⟩
    exact ⟨entry, hentry, if_pos hlive⟩

theorem lookup_evict (hkey : h.evict.lookup key = some entry) :
    h.lookup key = some entry := by
  rw [evict] at hkey
  split at hkey
  · exact hkey
  · split at hkey
    · rw [Table.lookup_erase_ite] at hkey
      split at hkey
      · cases hkey
      · exact hkey
    · exact hkey

theorem lookup_clear {path : Option String} (hkey : (h.clear now path).lookup key = some entry) :
    h.lookup key = some entry ∧ path ≠ none ∧ path ≠ some key.2.1 := by
  rw [clear, Table.lookup_filterMap, Option.bind_eq_some_iff] at hkey
  obtain ⟨entry', hentry', hkept⟩ := hkey
  cases path with
  | none => cases hkept
  | some path =>
    dsimp only at hkept
    split at hkept
    · rename_i hne
      cases hkept
      exact ⟨(lookup_unexpired.mp hentry').1, nofun, fun heq => hne (Option.some.inj heq)⟩
    · cases hkept

variable {connection : ConnectionSettings}

/-- An entry is kept if it is for another path, or it is the one that was just staged. -/
theorem lookup_stage {owner path : String}
    (hkey : (h.stage now owner path connection).lookup key = some entry) :
    (h.lookup key = some entry ∧ ¬ (path = key.2.1 ∧ (uuid connection).isSome)) ∨
    (∃ id, uuid connection = some id ∧ key = (owner, path, id) ∧
      entry = ⟨now + secretTimeout, bySetting (connectionSecretValues connection)⟩) := by
  rw [stage] at hkey
  split at hkey
  · rename_i hnone
    exact .inl ⟨hkey, by simp [hnone]⟩
  · rename_i id huuid
    have hothers : ∀ {entry' : HandoffEntry},
        AList.lookup key ((h.unexpired now).filterMap fun key entry =>
          if key.2.1 ≠ path then some entry else none) = some entry' →
        h.lookup key = some entry' ∧ ¬ (path = key.2.1 ∧ (uuid connection).isSome) := by
      intro entry' hkey
      rw [Table.lookup_filterMap, Option.bind_eq_some_iff] at hkey
      obtain ⟨entry'', hentry'', hne⟩ := hkey
      split at hne
      · rename_i hpath
        cases hne
        exact ⟨(lookup_unexpired.mp hentry'').1, fun hboth => hpath hboth.1.symm⟩
      · cases hne
    dsimp only at hkey
    split at hkey
    · exact .inl (hothers hkey)
    · rw [Table.lookup_insert_ite] at hkey
      split at hkey
      · rename_i hnew
        cases hkey
        exact .inr ⟨id, huuid, hnew, rfl⟩
      · exact .inl (hothers (lookup_evict hkey))

/-- What a request takes is gone, and nothing else is. -/
theorem lookup_take {request : PendingSecretRequest}
    (hkey : (h.take now request connection).1.lookup key = some entry) :
    ∃ entry', h.lookup key = some entry' ∧ entry'.deadline = entry.deadline ∧
      ∀ setting values, entry.values.lookup setting = some values →
        entry'.values.lookup setting = some values ∧
        ¬ (identity request connection = some key ∧ request.settingName = setting) := by
  rw [take] at hkey
  rw [identity]
  split at hkey
  · rename_i hnone
    exact ⟨entry, hkey, rfl, fun setting values hvalues => ⟨hvalues, by simp [hnone]⟩⟩
  · rename_i id huuid
    dsimp only at hkey
    split at hkey
    · rename_i habsent
      refine ⟨entry, (lookup_unexpired.mp hkey).1, rfl, fun setting values hvalues =>
        ⟨hvalues, ?_⟩⟩
      rintro ⟨hidentity, -⟩
      rw [huuid, Option.map_some, Option.some.injEq] at hidentity
      rw [hidentity, hkey] at habsent
      cases habsent
    · rename_i found hfound
      split at hkey
      · rw [Table.lookup_erase_ite] at hkey
        split at hkey
        · cases hkey
        · rename_i hother
          refine ⟨entry, (lookup_unexpired.mp hkey).1, rfl, fun setting values hvalues =>
            ⟨hvalues, fun hboth => hother ?_⟩⟩
          simpa [huuid, eq_comm] using hboth.1
      · rw [Table.lookup_insert_ite] at hkey
        split at hkey
        · rename_i hsame
          cases hkey
          rw [hsame]
          refine ⟨found, (lookup_unexpired.mp hfound).1, rfl, fun setting values hvalues => ?_⟩
          rw [Table.lookup_erase_ite] at hvalues
          split at hvalues
          · cases hvalues
          · rename_i hne
            exact ⟨hvalues, fun hboth => hne hboth.2.symm⟩
        · rename_i hother
          refine ⟨entry, (lookup_unexpired.mp hkey).1, rfl, fun setting values hvalues =>
            ⟨hvalues, fun hboth => hother ?_⟩⟩
          simpa [huuid, eq_comm] using hboth.1

/-- What is handed out. -/
theorem take_values {request : PendingSecretRequest} (hout : (h.take now request connection).2 ≠ []) :
    ∃ key entry values, identity request connection = some key ∧
      h.lookup key = some entry ∧ now < entry.deadline ∧
      entry.values.lookup request.settingName = some values ∧
      (h.take now request connection).2 = values.filter fun e => e.1 ∈ request.secretKeys := by
  rw [take] at hout ⊢
  rw [identity]
  split at hout
  · cases hout rfl
  · rename_i id huuid
    dsimp only at hout ⊢
    split at hout
    · cases hout rfl
    · rename_i entry hentry
      obtain ⟨hold, hlive⟩ := lookup_unexpired.mp hentry
      rcases hvalues : entry.values.lookup request.settingName with _ | values
      · simp [hvalues] at hout
      · exact ⟨_, entry, values, by simp [huuid], hold, hlive, hvalues, by simp⟩

end Operations

variable {setting : String}

/-- The values of a setting, out of the secrets by setting. -/
theorem lookup_bySetting {secrets : List (String × String × String)}
    {values : List (String × String)} (h : (bySetting secrets).lookup setting = some values) :
    values = secrets.filterMap fun e => if e.1 = setting then some e.2 else none := by
  have hfold : ∀ t : Table String (List (String × String)),
      (AList.lookup setting (secrets.foldl (fun t e =>
        t.insert e.1 ((t.lookup e.1).getD [] ++ [(e.2.1, e.2.2)])) t)).getD [] =
      (t.lookup setting).getD [] ++
        secrets.filterMap fun e => if e.1 = setting then some e.2 else none := by
    clear h
    induction secrets with
    | nil => simp
    | cons e secrets ih =>
      intro t
      rw [List.foldl_cons, ih, Table.lookup_insert_ite, List.filterMap_cons]
      by_cases he : e.1 = setting
      · subst he
        simp
      · simp [he, Ne.symm he]
  have hall := hfold ∅
  rw [← bySetting, h] at hall
  simpa using hall

/-! ## Where the values come from -/

/-- The values of a setting were staged for `key`, with that deadline, and nothing superseded
them since. -/
def Staged (log : List Entry) (now : ℕ) (key : String × String × String) (deadline : ℕ)
    (setting : String) (values : List (String × String)) : Prop :=
  ∃ pre connection out mid, log = pre ++ (.stage key.1 key.2.1 connection, out) :: mid ∧
    uuid connection = some key.2.2 ∧ values = secretsOf connection setting ∧
    deadline + elapsed mid = now + secretTimeout ∧ ∀ e ∈ mid, ¬ Supersedes key setting e.1

variable {log : List Entry}

/-- One more action that does not supersede the values. -/
theorem Staged.snoc {now : ℕ} {key : String × String × String} {deadline : ℕ}
    {values : List (String × String)} (h : Staged log now key deadline setting values) (e : Entry)
    (he : ¬ Supersedes key setting e.1) :
    Staged (log ++ [e]) (now + elapsed [e]) key deadline setting values := by
  obtain ⟨pre, connection, out, mid, rfl, huuid, hvalues, helapsed, hmid⟩ := h
  refine ⟨pre, connection, out, mid ++ [e], by simp, huuid, hvalues, ?_, fun x hx => ?_⟩
  · simp only [elapsed, List.map_append, List.sum_append] at helapsed ⊢
    omega
  · rcases List.mem_append.mp hx with hx | hx
    · exact hmid x hx
    · rw [List.mem_singleton.mp hx]
      exact he

/-- Everything that is kept was staged. -/
def Sourced (log : List Entry) (s : State) : Prop :=
  ∀ key entry, s.entries.lookup key = some entry →
    ∀ setting values, entry.values.lookup setting = some values →
      Staged log s.now key entry.deadline setting values

variable {s : State}

theorem Sourced.step {t : State} {a : Action} {out : List (String × String)} (h : Sourced log s)
    (hstep : step s a = some (t, out)) : Sourced (log ++ [(a, out)]) t := by
  intro key entry hentry setting values hvalues
  cases a with
  | tick ms =>
    cases hstep
    exact (h key entry hentry setting values hvalues).snoc (.tick ms, []) nofun
  | stage owner path connection =>
    cases hstep
    rcases lookup_stage hentry with ⟨hold, hother⟩ | ⟨id, huuid, rfl, rfl⟩
    · exact (h key entry hold setting values hvalues).snoc (.stage owner path connection, []) hother
    · exact ⟨log, connection, [], [], rfl, huuid, lookup_bySetting hvalues, by simp [elapsed], by simp⟩
  | take request connection =>
    cases hstep
    obtain ⟨entry', hold, hdeadline, hsettings⟩ := lookup_take hentry
    obtain ⟨hvalues', hother⟩ := hsettings setting values hvalues
    rw [← hdeadline]
    exact (h key entry' hold setting values hvalues').snoc (.take request connection, _) hother
  | clear path =>
    cases hstep
    obtain ⟨hold, hsome, hother⟩ := lookup_clear hentry
    exact (h key entry hold setting values hvalues).snoc (.clear path, [])
      fun hclears => hclears.elim hsome hother
  | expire =>
    cases hstep
    exact (h key entry (lookup_unexpired.mp hentry).1 setting values hvalues).snoc (.expire, [])
      nofun

theorem run_sourced (run : handoff.Reaches log s) : Sourced log s :=
  run.invariant Sourced (fun _ _ h => by cases h) fun _ _ _ _ _ _ h hstep => h.step hstep

/-! ## How many entries there are -/

/-- At most 32 entries, and one for each path. -/
structure Kept (h : Handoff) : Prop where
  few : h.pairs.length ≤ 32
  unique : ∀ key key' entry entry', h.lookup key = some entry →
    h.lookup key' = some entry' → key.2.1 = key'.2.1 → key = key'

/-- What is left of a handoff. -/
theorem Kept.filterMap {h : Handoff} (hk : Kept h)
    (f : String × String × String → HandoffEntry → Option HandoffEntry) : Kept (h.filterMap f) where
  few := Nat.le_trans (Table.length_filterMap_le h f) hk.few
  unique := by
    intro key key' entry entry' hkey hkey'
    rw [Table.lookup_filterMap] at hkey hkey'
    obtain ⟨old, hold, -⟩ := Option.bind_eq_some_iff.mp hkey
    obtain ⟨old', hold', -⟩ := Option.bind_eq_some_iff.mp hkey'
    exact hk.unique key key' old old' hold hold'

theorem Kept.unexpired {h : Handoff} (hk : Kept h) (now : ℕ) : Kept (h.unexpired now) :=
  hk.filterMap _

theorem Kept.clear {h : Handoff} (hk : Kept h) (now : ℕ) (path : Option String) :
    Kept (h.clear now path) :=
  (hk.unexpired now).filterMap _

theorem length_evict {h : Handoff} (hfew : h.pairs.length ≤ 32) : h.evict.pairs.length < 32 := by
  rw [evict]
  split
  · assumption
  · rename_i hfull
    split
    · rename_i e he
      obtain ⟨key, entry⟩ := e
      have hmem : h.lookup key = some entry := Table.mem_pairs.mp (List.minOn?_mem he)
      have hlength := Table.length_erase (AList.lookup_isSome.mp (Option.isSome_of_eq_some hmem))
      dsimp only
      omega
    · rename_i hnone
      have hne : h.pairs ≠ [] := by
        intro hnil
        rw [hnil] at hfull
        exact hfull (by decide)
      rw [List.minOn?_eq_some_minOn hne] at hnone
      cases hnone

theorem Kept.stage {h : Handoff} (hk : Kept h) (now : ℕ) (owner path : String)
    (connection : ConnectionSettings) : Kept (h.stage now owner path connection) := by
  rw [Handoff.stage]
  split
  · exact hk
  · rename_i id huuid
    have hothers := (hk.unexpired now).filterMap fun key entry =>
      if key.2.1 ≠ path then some entry else none
    dsimp only
    split
    · exact hothers
    · refine ⟨Nat.le_trans (Table.length_insert_le _ _ _) (length_evict hothers.few), ?_⟩
      -- all that is left besides the new entry is for other paths
      have hpath : ∀ {key : String × String × String} {entry : HandoffEntry},
          AList.lookup key (evict ((h.unexpired now).filterMap fun key entry =>
            if key.2.1 ≠ path then some entry else none)) = some entry → key.2.1 ≠ path := by
        intro key entry hkey
        have hkey := lookup_evict hkey
        rw [Table.lookup_filterMap] at hkey
        obtain ⟨old, -, hkept⟩ := Option.bind_eq_some_iff.mp hkey
        split at hkept
        · assumption
        · cases hkept
      intro key key' entry entry' hkey hkey' hsame
      rw [Table.lookup_insert_ite] at hkey hkey'
      split at hkey <;> split at hkey'
      · rename_i heq heq'
        rw [heq, heq']
      · rename_i heq _
        exact (hpath hkey' (by rw [← hsame, heq])).elim
      · rename_i _ heq'
        exact (hpath hkey (by rw [hsame, heq'])).elim
      · exact hothers.unique key key' entry entry' (lookup_evict hkey) (lookup_evict hkey') hsame

theorem Kept.take {h : Handoff} (hk : Kept h) (now : ℕ) (request : PendingSecretRequest)
    (connection : ConnectionSettings) : Kept (h.take now request connection).1 := by
  refine ⟨?_, ?_⟩
  · have hlive := (hk.unexpired now).few
    rw [Handoff.take]
    split
    · exact hk.few
    · dsimp only
      split
      · exact hlive
      · rename_i entry hentry
        split
        · exact Nat.le_trans (Table.length_erase_le _ _) hlive
        · rw [Table.length_insert _ (AList.lookup_isSome.mp (Option.isSome_of_eq_some hentry))]
          exact hlive
  · intro key key' entry entry' hkey hkey'
    obtain ⟨old, hold, -⟩ := lookup_take hkey
    obtain ⟨old', hold', -⟩ := lookup_take hkey'
    exact hk.unique key key' old old' hold hold'

theorem run_kept (run : handoff.Reaches log s) : Kept s.entries := by
  refine run.preserves (fun s => Kept s.entries) ?_ ⟨Nat.zero_le _, fun _ _ _ _ h => by cases h⟩
  intro s t a out hk hstep
  cases a with
  | tick ms =>
    cases hstep
    exact hk
  | stage owner path connection =>
    cases hstep
    exact hk.stage s.now owner path connection
  | take request connection =>
    cases hstep
    exact hk.take s.now request connection
  | clear path =>
    cases hstep
    exact hk.clear s.now path
  | expire =>
    cases hstep
    exact hk.unexpired s.now

/-- A secret that may be kept is one of the settings, and not flagged as one not to save. -/
theorem mem_secretsOf {connection : ConnectionSettings} {e : String × String}
    (he : e ∈ secretsOf connection setting) :
    (∃ all, values connection = .ok all ∧ (setting, e.1, e.2) ∈ all) ∧
      ∃ retention, flags connection setting e.1 = .ok retention ∧ retention &&& notSaved = 0 := by
  obtain ⟨e', he', heq⟩ := List.mem_filterMap.mp he
  split at heq
  · rename_i hsetting
    cases heq
    subst hsetting
    obtain ⟨hvalue, hflags⟩ := List.mem_filter.mp he'
    constructor
    · rcases hall : values connection with error | all
      · rw [hall] at hvalue
        cases hvalue
      · rw [hall] at hvalue
        exact ⟨all, rfl, hvalue⟩
    · rcases hretention : flags connection e'.1 e'.2.1 with error | retention
      · rw [hretention] at hflags
        cases hflags
      · rw [hretention] at hflags
        exact ⟨retention, rfl, of_decide_eq_true hflags⟩
  · cases heq

/-- **The history of the handoff.** In every history of staging, taking, clearing and time
passing there are at most 32 entries and one for each path. When values are handed out,
they are exactly the values with a requested key that one stage brought for the setting of
the request. That stage was for the owner, the path and the profile of the request, it is
less than the timeout ago, and since then nothing was staged for the path by a profile with
a uuid, neither the path nor everything was cleared, and no other request took them. None of
the values is flagged as one not to save. -/
theorem handoff_history {log : List Entry} {s : State} (run : handoff.Run handoff.start log s) :
    s.entries.pairs.length ≤ 32 ∧
    (∀ key key' entry entry', s.entries.lookup key = some entry →
      s.entries.lookup key' = some entry' → key.2.1 = key'.2.1 → key = key') ∧
    ∀ (pre post : List Entry) (request : PendingSecretRequest) (connection : ConnectionSettings)
      (out : List (String × String)), log = pre ++ (.take request connection, out) :: post →
      out ≠ [] →
      ∃ before owner path id staged stageOut mid,
        pre = before ++ (.stage owner path staged, stageOut) :: mid ∧
        uuid staged = some id ∧ identity request connection = some (owner, path, id) ∧
        elapsed mid < secretTimeout ∧
        (∀ e ∈ mid, ¬ Supersedes (owner, path, id) request.settingName e.1) ∧
        out = (secretsOf staged request.settingName).filter (fun e => e.1 ∈ request.secretKeys) ∧
        ∀ e ∈ out, (∃ all, values staged = .ok all ∧ (request.settingName, e.1, e.2) ∈ all) ∧
          ∃ retention, flags staged request.settingName e.1 = .ok retention ∧
            retention &&& notSaved = 0 := by
  have hk := run_kept run
  refine ⟨hk.few, hk.unique, ?_⟩
  rintro pre post request connection out rfl hout
  obtain ⟨u, t, hbefore, hstep, -⟩ := run.step_at
  cases hstep
  obtain ⟨key, entry, vals, hidentity, hentry, hlive, hvals, hgiven⟩ := take_values hout
  obtain ⟨before, staged, stageOut, mid, hpre, huuid, rfl, helapsed, hmid⟩ :=
    run_sourced hbefore key entry hentry request.settingName vals hvals
  refine ⟨before, key.1, key.2.1, key.2.2, staged, stageOut, mid, hpre, huuid, hidentity, ?_, hmid,
    hgiven, fun e he => ?_⟩
  · omega
  · rw [hgiven] at he
    exact mem_secretsOf (List.mem_of_mem_filter he)

/-- A Wi-Fi profile with its password. -/
def profile : ConnectionSettings :=
  AList.insert "connection" (AList.insert "uuid" (.str "3f2a") ∅)
    (AList.insert "802-11-wireless-security" (AList.insert "psk" (.str "secret") ∅) ∅)

/-- NetworkManager asks for the password. -/
def passwordRequest : PendingSecretRequest :=
  (PendingSecretRequest.new 0 "a" "/home" "802-11-wireless-security" [] 1).bound ":1" none

theorem password_run :
    ((handoff.exec handoff.start [.stage ":1" "/home" profile, .tick 5]).bind fun r =>
      (handoff.step r.2 (.take passwordRequest profile)).map Prod.snd) =
      some [("psk", "secret")] := by
  decide +kernel

theorem handoff_history_password :
    ∃ pre s, handoff.Run handoff.start
        (pre ++ [(.take passwordRequest profile, [("psk", "secret")])]) s ∧
      s.entries.pairs.length ≤ 32 ∧
      ∃ before owner path id staged stageOut mid,
        pre = before ++ (.stage owner path staged, stageOut) :: mid ∧ uuid staged = some id ∧
        identity passwordRequest profile = some (owner, path, id) ∧ elapsed mid < secretTimeout := by
  obtain ⟨⟨pre, u⟩, hpre, h⟩ := Option.bind_eq_some_iff.mp password_run
  obtain ⟨⟨s, out⟩, hstep, rfl⟩ := Option.map_eq_some_iff.mp h
  have run := (handoff.exec_run _ _ hpre).snoc hstep
  obtain ⟨hfew, -, htakes⟩ := handoff_history run
  obtain ⟨before, owner, path, id, staged, stageOut, mid, hsplit, huuid, hidentity, helapsed, -⟩ :=
    htakes pre [] passwordRequest profile _ rfl (by simp)
  exact ⟨pre, s, run, hfew, before, owner, path, id, staged, stageOut, mid, hsplit, huuid, hidentity,
    helapsed⟩

end Handoff

end Secrets

end NmDaemon
