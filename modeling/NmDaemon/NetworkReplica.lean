import NmDaemon.NetworkUpdates

/-!
# A client that replays network updates

The contract of the delta chain is what a client can do with it. A `Replica` starts
empty and applies every update it gets: a baseline replaces everything, any other
update is applied by key if it continues from the cursor the replica holds. Over
every sequence of payloads the replica then shows the keyed networks of the latest
payload, up to the ages.

Tables and lists of networks are compared by what they hold under a key: `entry` for
a list, `shown` up to the ages.
-/

namespace NmDaemon

namespace NetworkUpdates

/-! ## Entries by key -/

/-- The network with a key. -/
def entry (networks : List Json) (key : String) : Option Json :=
  networks.find? fun network => networkKey network = some key

/-- The network with a key, up to the ages. -/
def shown (networks : List Json) (key : String) : Option Json :=
  (entry networks key).map stripAge

/-- No two keyed networks have the same key. -/
def Distinct (networks : List Json) : Prop := (networks.filterMap networkKey).Nodup

variable {key : String} {network : Json}

theorem entry_eq_some {networks : List Json} (h : entry networks key = some network) :
    network ∈ networks ∧ networkKey network = some key :=
  ⟨List.mem_of_find?_eq_some h, by simpa using List.find?_some h⟩

theorem entry_eq_none {networks : List Json} (h : entry networks key = none)
    (hmem : network ∈ networks) : networkKey network ≠ some key := by
  have := List.find?_eq_none.mp h network hmem
  simpa using this

section

variable {networks : List Json}

theorem entry_of_mem (hd : Distinct networks) (hmem : network ∈ networks)
    (hkey : networkKey network = some key) : entry networks key = some network := by
  induction networks with
  | nil => cases hmem
  | cons n networks ih =>
    by_cases hn : networkKey n = some key
    · rw [entry, List.find?_cons_of_pos (by simpa using hn)]
      rcases List.mem_cons.mp hmem with rfl | hmem
      · rfl
      · -- the key would occur twice
        have hd : (key :: networks.filterMap networkKey).Nodup := by
          simpa [Distinct, List.filterMap_cons, hn] using hd
        exact absurd (List.mem_filterMap.mpr ⟨network, hmem, hkey⟩) (List.nodup_cons.mp hd).1
    · rw [entry, List.find?_cons_of_neg (by simpa using hn)]
      rcases List.mem_cons.mp hmem with rfl | hmem
      · exact absurd hkey hn
      · refine ih ?_ hmem
        exact List.Nodup.sublist ((List.sublist_cons_self n networks).filterMap _) hd

theorem Distinct.filter (hd : Distinct networks) (p : Json → Bool) :
    Distinct (networks.filter p) :=
  List.Nodup.sublist (List.filter_sublist.filterMap _) hd

/-- Filtering a list of distinct networks filters each entry. -/
theorem entry_filter (hd : Distinct networks) (p : Json → Bool)
    (key : String) : entry (networks.filter p) key = (entry networks key).filter p := by
  rcases h : entry networks key with _ | network
  · rw [Option.filter_none]
    refine List.find?_eq_none.mpr fun network hmem => ?_
    simpa using entry_eq_none h (List.mem_filter.mp hmem).1
  · obtain ⟨hmem, hkey⟩ := entry_eq_some h
    by_cases hp : p network = true
    · rw [Option.filter_some_pos hp]
      exact entry_of_mem (hd.filter p) (List.mem_filter.mpr ⟨hmem, hp⟩) hkey
    · rw [Option.filter_some_neg (by simpa using hp)]
      refine List.find?_eq_none.mpr fun other hother => ?_
      obtain ⟨hother, hpo⟩ := List.mem_filter.mp hother
      intro hk
      have := entry_of_mem hd hother (by simpa using hk)
      rw [h] at this
      cases this
      exact hp hpo

theorem lookup_putNetworks (hd : Distinct networks)
    (table : Table String Json) (key : String) :
    (putNetworks table networks).lookup key =
      (entry networks key).or (table.lookup key) := by
  induction networks generalizing table with
  | nil => rfl
  | cons n networks ih =>
    have hd' : Distinct networks :=
      List.Nodup.sublist ((List.sublist_cons_self n networks).filterMap _) hd
    rw [putNetworks, List.foldl_cons, ← putNetworks, ih hd', entry, entry, List.find?_cons]
    rcases hn : networkKey n with _ | k
    · simp
    · dsimp only
      rw [Table.lookup_insert_ite]
      by_cases hk : key = k
      · subst hk
        have hnone : networks.find? (fun network => networkKey network = some key) = none := by
          refine List.find?_eq_none.mpr fun network hmem => ?_
          have hnd : (key :: networks.filterMap networkKey).Nodup := by
            simpa [Distinct, List.filterMap_cons, hn] using hd
          intro hkey
          exact (List.nodup_cons.mp hnd).1
            (List.mem_filterMap.mpr ⟨network, hmem, by simpa using hkey⟩)
        simp [hnone]
      · have hk' : ¬ k = key := fun h => hk h.symm
        simp [hk, hk']

theorem lookup_networksByKey (hd : Distinct networks) (key : String) :
    (networksByKey networks).lookup key = entry networks key := by
  rw [networksByKey, lookup_putNetworks hd, AList.lookup_empty, Option.or_none]

/-! ## The three lists of a delta -/

theorem absentFrom_distinct (hd : Distinct networks)
    (other : Table String Json) : Distinct (absentFrom other networks) := hd.filter _

theorem changedSince_distinct (hd : Distinct networks)
    (previous : Table String Json) : Distinct (changedSince previous networks) := hd.filter _

theorem entry_absentFrom {other : List Json} (hd : Distinct networks)
    (ho : Distinct other) (key : String) :
    entry (absentFrom (networksByKey other) networks) key =
      if (entry other key).isNone then entry networks key else none := by
  rw [absentFrom, entry_filter hd]
  rcases h : entry networks key with _ | network
  · simp
  · have hkey := (entry_eq_some h).2
    by_cases hp : (entry other key).isNone = true
    · rw [if_pos hp]
      exact Option.filter_some_pos (by rw [hkey]; simpa [lookup_networksByKey ho] using hp)
    · rw [if_neg hp]
      refine Option.filter_some_neg ?_
      rw [hkey]
      simpa [lookup_networksByKey ho, Option.isSome_iff_ne_none] using hp

theorem entry_changedSince {previous : List Json} (hd : Distinct networks)
    (hp : Distinct previous) (key : String) :
    entry (changedSince (networksByKey previous) networks) key =
      (entry networks key).filter fun network =>
        (entry previous key).any fun old => networkEntryChanged old network := by
  rw [changedSince, entry_filter hd]
  rcases h : entry networks key with _ | network
  · rfl
  · have hkey := (entry_eq_some h).2
    simp only [Option.filter, hkey, Option.bind_some, lookup_networksByKey hp]
    rcases entry previous key with _ | old <;> rfl

end

/-- The keyed ones of a list of networks are distinct and well-formed. -/
structure Keyed (networks : List Json) : Prop where
  distinct : Distinct networks
  wellFormed : ∀ network ∈ networks, network.WellFormed

theorem Payload.keyed (p : Payload) : Keyed p.networks := by
  refine ⟨p.distinct, fun network hmem => ?_⟩
  have heq := p.networks_eq
  rw [networksOf, Option.bind_eq_some_iff] at heq
  obtain ⟨array, hget, harr⟩ := heq
  have hwf := p.wellFormed.get hget
  cases array with
  | arr items =>
    cases harr
    exact Json.wellFormed_arr.mp hwf network hmem
  | null => cases harr
  | bool b => cases harr
  | int i => cases harr
  | float q => cases harr
  | str s => cases harr
  | obj fields => cases harr

variable {p q : List Json}

/-- What the delta says about a key: nothing exactly if the networks agree on it. -/
theorem delta_entry (hp : Keyed p) (hq : Keyed q) (key : String) :
    (entry (absentFrom (networksByKey p) q) key = none ∧
      entry (absentFrom (networksByKey q) p) key = none ∧
      entry (changedSince (networksByKey p) q) key = none) ↔ shown p key = shown q key := by
  rw [entry_absentFrom hq.distinct hp.distinct, entry_absentFrom hp.distinct hq.distinct,
    entry_changedSince hq.distinct hp.distinct, shown, shown]
  rcases hold : entry p key with _ | old
  · rcases entry q key with _ | new <;> simp
  · rcases hnew : entry q key with _ | new
    · simp
    · have hchanged := networkEntryChanged_iff (hp.wellFormed old (entry_eq_some hold).1)
        (hq.wellFormed new (entry_eq_some hnew).1)
      have hsame : networkEntryChanged old new = false ↔ stripAge old = stripAge new := by
        rw [← Bool.not_eq_true, hchanged, not_not]
      simp [Option.filter_eq_none_iff, hsame]

theorem eq_nil_iff_entry {networks : List Json}
    (hkeys : ∀ network ∈ networks, (networkKey network).isSome = true) :
    networks = [] ↔ ∀ key, entry networks key = none := by
  constructor
  · rintro rfl key
    rfl
  · intro h
    refine List.eq_nil_iff_forall_not_mem.mpr fun network hmem => ?_
    obtain ⟨key, hkey⟩ := Option.isSome_iff_exists.mp (hkeys network hmem)
    exact entry_eq_none (h key) hmem hkey

/-- What a filter that asks for a key lets through has one. -/
theorem filter_keys {p : Json → Bool} {networks : List Json}
    (hp : ∀ network, networkKey network = none → p network = false)
    (hmem : network ∈ networks.filter p) : (networkKey network).isSome = true := by
  have h := (List.mem_filter.mp hmem).2
  rcases hkey : networkKey network with _ | key
  · rw [hp network hkey] at h
    cases h
  · rfl

/-- There is nothing to report exactly if the networks agree on every key. -/
theorem delta_empty_iff (hp : Keyed p) (hq : Keyed q) :
    (absentFrom (networksByKey p) q = [] ∧ absentFrom (networksByKey q) p = [] ∧
      changedSince (networksByKey p) q = []) ↔ ∀ key, shown p key = shown q key := by
  have habsent : ∀ other networks, ∀ network ∈ absentFrom other networks,
      (networkKey network).isSome = true :=
    fun _ _ _ => filter_keys fun _ hnone => by rw [hnone]
  have hchanged : ∀ network ∈ changedSince (networksByKey p) q, (networkKey network).isSome = true :=
    fun _ => filter_keys fun _ hnone => by
      rw [hnone]
      rfl
  rw [eq_nil_iff_entry (habsent _ _), eq_nil_iff_entry (habsent _ _), eq_nil_iff_entry hchanged,
    ← forall_and, ← forall_and]
  exact forall_congr' fun key => delta_entry hp hq key

/-! ## What an update says -/

/-- The networks an update lists under a name. -/
def listed (update : Json) (name : String) : List Json := (update.index name).asArray.getD []

/-- The epoch an update belongs to. -/
def epochOf (update : Json) : Option String := (update.index "epoch").asStr

/-- The revision an update leads to. -/
def revisionOf (update : Json) : Option ℤ := (update.index "revision").asInt

/-- The revision an update continues from. -/
def baseOf (update : Json) : Option ℤ := (update.index "base_revision").asInt

/-- An update that takes the networks `p`, at `revision` of `epoch`, to `q`. -/
structure Describes (update : Json) (initial : Bool) (epoch : String) (revision : ℕ)
    (p q : List Json) : Prop where
  initial : update.index "initial" = .bool initial
  epoch : epochOf update = some epoch
  base : baseOf update = some (revision : ℤ)
  revision : revisionOf update = some (revision + 1 : ℤ)
  added : listed update "added" = absentFrom (networksByKey p) q
  removed : listed update "removed" = absentFrom (networksByKey q) p
  changed : listed update "changed" = changedSince (networksByKey p) q

/-- The networks the chain compares the next payload with. -/
def Updates.networks (s : Updates) : List Json := (s.last.bind networksOf).getD []

/-- The lists of a delta. -/
theorem networkDelta_fields {previous : Option Json} {p : Payload} {delta : List (String × Json)}
    (h : networkDelta previous p.value = some delta) :
    let old := (previous.bind networksOf).getD []
    Json.field "added" delta = some (.arr (absentFrom (networksByKey old) p.networks)) ∧
    Json.field "removed" delta = some (.arr (absentFrom (networksByKey p.networks) old)) ∧
    Json.field "changed" delta = some (.arr (changedSince (networksByKey old) p.networks)) := by
  intro old
  simp only [networkDelta, p.networks_eq] at h
  split at h
  · cases h
  · -- the snapshot and the warning stand under other names
    split at h <;> cases h <;> split <;> simp [Json.field_insertField, old]

theorem networkDelta_eq_none {previous : Option Json} {p : Payload} :
    networkDelta previous p.value = none ↔
      let old := (previous.bind networksOf).getD []
      previous.isSome = true ∧ absentFrom (networksByKey old) p.networks = [] ∧
        absentFrom (networksByKey p.networks) old = [] ∧
        changedSince (networksByKey old) p.networks = [] := by
  simp only [networkDelta, p.networks_eq]
  split
  · rename_i h
    exact ⟨fun _ => h, fun _ => rfl⟩
  · rename_i h
    refine ⟨fun hnone => ?_, fun hall => absurd hall h⟩
    split at hnone <;> cases hnone

/-- What the chain does with a payload: nothing if it has a payload to compare with
and they agree; otherwise it emits the update between them. -/
theorem project_cases (s : Updates) (fresh : String) (p : Payload)
    (hs : Keyed (s.renewed fresh).networks) :
    ((s.renewed fresh).last.isSome = true ∧
      (∀ key, shown (s.renewed fresh).networks key = shown p.networks key) ∧
      s.project fresh p.value = (s.renewed fresh, none)) ∨
    (¬ ((s.renewed fresh).last.isSome = true ∧
        ∀ key, shown (s.renewed fresh).networks key = shown p.networks key) ∧
      ∃ update, s.project fresh p.value =
          (⟨(s.renewed fresh).epoch, (s.renewed fresh).revision + 1, some p.value⟩, some update) ∧
        Describes update (s.renewed fresh).last.isNone (s.renewed fresh).epoch
          (s.renewed fresh).revision (s.renewed fresh).networks p.networks) := by
  rw [← delta_empty_iff hs p.keyed]
  unfold Updates.project
  generalize s.renewed fresh = s at hs ⊢
  dsimp only
  rcases hdelta : networkDelta s.last p.value with _ | delta
  · obtain ⟨hsome, hempty⟩ := networkDelta_eq_none.mp hdelta
    exact .inl ⟨hsome, hempty, rfl⟩
  · refine .inr ⟨fun hall => ?_, _, rfl, ?_⟩
    · rw [networkDelta_eq_none.mpr hall] at hdelta
      cases hdelta
    · obtain ⟨hadded, hremoved, hchanged⟩ := networkDelta_fields hdelta
      constructor <;>
        simp [listed, epochOf, revisionOf, baseOf, Json.index, Json.get, Json.field_insertField,
          hadded, hremoved, hchanged, Json.asStr, Json.asInt, Json.asArray, Updates.networks]

/-! ## The replica -/

/-- What a client holds: the cursor of the last update it applied, and the networks. -/
structure Replica : Type where
  cursor : Option (String × ℤ)
  networks : Table String Json

/-- Remove the keyed ones of `networks` from a table. -/
def dropNetworks (table : Table String Json) (networks : List Json) : Table String Json :=
  networks.foldl (fun table network =>
    match networkKey network with
    | some key => table.erase key
    | none => table) table

/-- Apply an update: a baseline replaces everything, another one is applied by key if
it continues from the cursor. -/
def Replica.apply (r : Replica) (update : Json) : Replica :=
  match epochOf update, baseOf update, revisionOf update with
  | some epoch, some base, some revision =>
    if update.index "initial" = .bool true then
      ⟨some (epoch, revision), networksByKey (listed update "added")⟩
    else if r.cursor = some (epoch, base) then
      let networks := dropNetworks r.networks (listed update "removed")
      let networks := putNetworks networks (listed update "added")
      ⟨some (epoch, revision), putNetworks networks (listed update "changed")⟩
    else r
  | _, _, _ => r

/-- One entry of a history: a payload and the update it gave, if any. -/
abbrev Entry : Type := Payload × Option Json

/-- What a client that starts empty holds after a history. -/
def replay (log : List Entry) : Replica :=
  log.foldl (fun r e => e.2.elim r r.apply) ⟨none, ∅⟩

/-- The replica holds these networks, up to the ages. -/
def Replica.Shows (r : Replica) (networks : List Json) : Prop :=
  ∀ key, (r.networks.lookup key).map stripAge = shown networks key

theorem replay_snoc (log : List Entry) (e : Entry) :
    replay (log ++ [e]) = e.2.elim (replay log) (replay log).apply := by
  rw [replay, List.foldl_append]
  rfl

theorem lookup_dropNetworks (table : Table String Json) (networks : List Json) (key : String) :
    (dropNetworks table networks).lookup key =
      if (entry networks key).isSome then none else table.lookup key := by
  induction networks generalizing table with
  | nil => rfl
  | cons n networks ih =>
    rw [dropNetworks, List.foldl_cons, ← dropNetworks, ih, entry, entry, List.find?_cons]
    rcases hn : networkKey n with _ | k
    · simp
    · dsimp only
      rw [Table.lookup_erase_ite]
      by_cases hk : key = k
      · subst hk
        simp
      · have hk' : ¬ k = key := fun h => hk h.symm
        simp [hk, hk']

variable {epoch : String} {revision : ℕ} {update : Json}

/-- A baseline gives the replica the networks it describes. -/
theorem apply_baseline {r : Replica} (h : Describes update true epoch revision [] q) (hq : Keyed q) :
    (r.apply update).cursor = some (epoch, (revision + 1 : ℤ)) ∧ (r.apply update).Shows q := by
  have happly : r.apply update =
      ⟨some (epoch, (revision + 1 : ℤ)), networksByKey (absentFrom (networksByKey []) q)⟩ := by
    simp [Replica.apply, h.epoch, h.base, h.revision, h.initial, h.added]
  rw [happly]
  refine ⟨rfl, fun key => ?_⟩
  have hnil : Distinct [] := List.nodup_nil
  rw [lookup_networksByKey (absentFrom_distinct hq.distinct _),
    entry_absentFrom hq.distinct hnil]
  rfl

/-- Any other update takes a replica that is where the update continues from to the
networks it describes. -/
theorem apply_delta {r : Replica} (h : Describes update false epoch revision p q) (hp : Keyed p)
    (hq : Keyed q) (hcursor : r.cursor = some (epoch, (revision : ℤ))) (hshows : r.Shows p) :
    (r.apply update).cursor = some (epoch, (revision + 1 : ℤ)) ∧ (r.apply update).Shows q := by
  have happly : r.apply update =
      ⟨some (epoch, (revision + 1 : ℤ)),
        putNetworks
          (putNetworks (dropNetworks r.networks (absentFrom (networksByKey q) p))
            (absentFrom (networksByKey p) q))
          (changedSince (networksByKey p) q)⟩ := by
    simp [Replica.apply, h.epoch, h.base, h.revision, h.initial, h.added, h.removed, h.changed,
      hcursor]
  rw [happly]
  refine ⟨rfl, fun key => ?_⟩
  have hkey := hshows key
  rw [lookup_putNetworks (changedSince_distinct hq.distinct _),
    lookup_putNetworks (absentFrom_distinct hq.distinct _), lookup_dropNetworks,
    entry_absentFrom hq.distinct hp.distinct, entry_absentFrom hp.distinct hq.distinct,
    entry_changedSince hq.distinct hp.distinct]
  rw [shown] at hkey ⊢
  rcases hold : entry p key with _ | old
  · rcases hnew : entry q key with _ | new
    · rw [hold] at hkey
      simpa using hkey
    · simp
  · rcases hnew : entry q key with _ | new
    · simp
    · -- on both sides: replaced if it changed, and otherwise the same up to the ages
      have hchanged := networkEntryChanged_iff (hp.wellFormed old (entry_eq_some hold).1)
        (hq.wellFormed new (entry_eq_some hnew).1)
      by_cases hc : networkEntryChanged old new = true
      · simp [Option.filter, hc]
      · have hsame : stripAge old = stripAge new := not_not.mp fun hne => hc (hchanged.mpr hne)
        rw [hold] at hkey
        simpa [Option.filter, hc, ← hsame] using hkey

/-! ## Whole runs -/

/-- No key is both removed and added. -/
def Apart (update : Json) : Prop :=
  ∀ n ∈ listed update "removed", ∀ m ∈ listed update "added", ∀ key,
    networkKey n = some key → networkKey m ≠ some key

theorem Describes.apart {initial : Bool} (h : Describes update initial epoch revision p q)
    (hq : Keyed q) : Apart update := by
  intro n hn m hm key hkey hkey'
  rw [h.removed] at hn
  rw [h.added] at hm
  -- what is removed is not in the new networks, what is added is
  have habsent := (List.mem_filter.mp hn).2
  rw [hkey] at habsent
  dsimp only at habsent
  rw [lookup_networksByKey hq.distinct, Option.isNone_iff_eq_none] at habsent
  exact entry_eq_none habsent (List.mem_filter.mp hm).1 hkey'

/-- A full baseline of a payload. -/
structure Baseline (update : Json) (q : List Json) : Prop where
  initial : update.index "initial" = .bool true
  base : baseOf update = some 0
  revision : revisionOf update = some 1
  added : listed update "added" = q.filter fun network => (networkKey network).isSome
  removed : listed update "removed" = []
  changed : listed update "changed" = []

/-- What the answer to the payload `q` has to do with the last update `u`, which
stands for `p`: there is one exactly if they differ, and it continues from `u`. -/
structure Continues (u : Json) (p q : List Json) (o : Option Json) : Prop where
  emitted : o ≠ none ↔ ∃ key, shown p key ≠ shown q key
  initial : ∀ v, o = some v → v.index "initial" = .bool false
  epoch : ∀ v, o = some v → epochOf v = epochOf u
  base : ∀ v, o = some v → baseOf v = revisionOf u
  revision : ∀ v, o = some v → revisionOf v = (revisionOf u).map (· + 1)
  apart : ∀ v, o = some v → Apart v

/-- Where the chain and a replica of it are: `u` is the last update emitted, for the
payload `p`, and since then nothing has changed up to the ages. -/
structure Synced (log : List Entry) (s : Updates) (pre mid : List Entry) (p : Payload) (u : Json) :
    Prop where
  log_eq : log = pre ++ (p, some u) :: mid
  silent : ∀ e ∈ mid, e.2 = none
  latest : ∀ e, log.getLast? = some e → ∀ key, shown p.networks key = shown e.1.networks key
  last : s.last = some p.value
  epoch : epochOf u = some s.epoch
  revision : revisionOf u = some (s.revision : ℤ)
  cursor : (replay log).cursor = some (s.epoch, (s.revision : ℤ))
  shows : (replay log).Shows p.networks

variable {log : List Entry} {s : Updates}

theorem Synced.networks {pre mid : List Entry} {p : Payload} {u : Json}
    (h : Synced log s pre mid p u) : s.networks = p.networks := by
  rw [Updates.networks, h.last, Option.bind_some, p.networks_eq]
  rfl

theorem keyed_nil : Keyed [] := ⟨List.nodup_nil, by simp⟩

theorem Describes.baseline (h : Describes update true epoch 0 [] q) : Baseline update q where
  initial := h.initial
  base := h.base
  revision := h.revision
  added := by
    rw [h.added]
    refine List.filter_congr fun network _ => ?_
    rcases networkKey network with _ | key
    · rfl
    · simp [networksByKey, putNetworks]
  removed := h.removed
  changed := by
    rw [h.changed]
    refine List.filter_eq_nil_iff.mpr fun network _ => ?_
    rcases networkKey network with _ | key <;> simp [networksByKey, putNetworks]

/-- A chain without a payload to compare with emits a baseline. -/
theorem project_baseline {fresh : String} (log : List Entry) (q : Payload)
    (hs : s.renewed fresh = .default epoch) :
    ∃ v, (s.project fresh q.value).2 = some v ∧ Baseline v q.networks ∧
      Synced (log ++ [(q, some v)]) (s.project fresh q.value).1 log [] q v := by
  have hnil : (Updates.default epoch).networks = [] := rfl
  rcases project_cases s fresh q (by rw [hs, hnil]; exact keyed_nil) with ⟨hsome, -⟩ | ⟨-, v, hv, hd⟩
  · rw [hs] at hsome
    cases hsome
  · rw [hs] at hv hd
    have hd : Describes v true epoch 0 [] q.networks := hd
    rw [hv]
    obtain ⟨hcursor, hshows⟩ := apply_baseline (r := replay log) hd q.keyed
    refine ⟨v, rfl, hd.baseline, rfl, by simp, ?_, rfl, hd.epoch, hd.revision, ?_, ?_⟩
    · intro e he key
      rw [List.getLast?_concat, Option.some.injEq] at he
      rw [← he]
    · rw [replay_snoc]
      exact hcursor
    · rw [replay_snoc]
      exact hshows

/-- Any other payload is compared with the one of the last update. -/
theorem project_synced {pre mid : List Entry} {fresh : String} {p : Payload} {u : Json}
    (h : Synced log s pre mid p u) (hmax : s.revision ≠ maxRevision) (q : Payload) :
    Continues u p.networks q.networks (s.project fresh q.value).2 ∧
      ∃ pre' mid' p' u', Synced (log ++ [(q, (s.project fresh q.value).2)])
        (s.project fresh q.value).1 pre' mid' p' u' := by
  have hrenewed : s.renewed fresh = s := if_neg hmax
  have hlast : s.last.isNone = false := by rw [h.last]; rfl
  rcases project_cases s fresh q (by rw [hrenewed, h.networks]; exact p.keyed) with
    ⟨-, hsame, hproject⟩ | ⟨hdiff, v, hproject, hd⟩
  · -- nothing to report
    rw [hrenewed, h.networks] at hsame
    rw [hrenewed] at hproject
    rw [hproject]
    refine ⟨⟨⟨fun hne => absurd rfl hne, fun ⟨key, hne⟩ => absurd (hsame key) hne⟩, by simp, by simp,
      by simp, by simp, by simp⟩, pre, mid ++ [(q, none)], p, u, ?_, ?_, ?_, h.last, h.epoch,
      h.revision, ?_, ?_⟩
    · rw [h.log_eq]
      simp
    · intro e he
      rcases List.mem_append.mp he with he | he
      · exact h.silent e he
      · rw [List.mem_singleton.mp he]
    · intro e he key
      rw [List.getLast?_concat, Option.some.injEq] at he
      rw [← he]
      exact hsame key
    · rw [replay_snoc]
      exact h.cursor
    · rw [replay_snoc]
      exact h.shows
  · rw [hrenewed, h.networks] at hd hdiff
    rw [hrenewed] at hproject
    rw [hlast] at hd
    rw [hproject]
    obtain ⟨hcursor, hshows⟩ := apply_delta hd p.keyed q.keyed h.cursor h.shows
    refine ⟨⟨⟨fun _ => ?_, fun _ => by simp⟩, ?_, ?_, ?_, ?_, ?_⟩, log, [], q, v, rfl, by simp, ?_,
      rfl, hd.epoch, hd.revision, ?_, ?_⟩
    · by_contra hall
      exact hdiff ⟨by rw [h.last]; rfl, fun key => not_not.mp fun hne => hall ⟨key, hne⟩⟩
    · rintro _ ⟨⟩
      exact hd.initial
    · rintro _ ⟨⟩
      rw [hd.epoch, h.epoch]
    · rintro _ ⟨⟩
      rw [hd.base, h.revision]
    · rintro _ ⟨⟩
      rw [hd.revision, h.revision]
      rfl
    · rintro _ ⟨⟩
      exact hd.apart q.keyed
    · intro e he key
      rw [List.getLast?_concat, Option.some.injEq] at he
      rw [← he]
    · rw [replay_snoc]
      exact hcursor
    · rw [replay_snoc]
      exact hshows

variable {uuid : ℕ → String}

/-- The chain has been fed nothing, or it and its replica are in step. -/
def InStep (uuid : ℕ → String) (log : List Entry) (s : Chain) : Prop :=
  (log = [] ∧ s = (chain uuid).start) ∨ ∃ pre mid p u, Synced log s.updates pre mid p u

/-- What one payload does, from any state that is in step. -/
theorem step_inStep {s s' : Chain} {q : Payload} {o : Option Json} (hI : InStep uuid log s)
    (hstep : (chain uuid).step s q = some (s', o)) :
    InStep uuid (log ++ [(q, o)]) s' ∧
    (log = [] → ∃ v, o = some v ∧ Baseline v q.networks) ∧
    (log ≠ [] → ∃ pre p u mid, log = pre ++ (p, some u) :: mid ∧ (∀ e ∈ mid, e.2 = none) ∧
      (revisionOf u = some (maxRevision : ℤ) → ∃ v, o = some v ∧ Baseline v q.networks) ∧
      (revisionOf u ≠ some (maxRevision : ℤ) → Continues u p.networks q.networks o)) := by
  obtain ⟨hs', ho⟩ : s'.updates = (s.updates.project (uuid s.issued) q.value).1 ∧
      o = (s.updates.project (uuid s.issued) q.value).2 := by
    cases hstep
    exact ⟨rfl, rfl⟩
  rw [InStep, hs', ho]
  rcases hI with ⟨rfl, rfl⟩ | ⟨pre, mid, p, u, h⟩
  · -- the first payload
    have hfirst : (chain uuid).start.updates.renewed (uuid (chain uuid).start.issued) =
        .default (uuid 0) := if_neg (show ¬ 0 = maxRevision by decide)
    obtain ⟨v, hv, hbase, hsync⟩ := project_baseline [] q hfirst
    rw [hv]
    exact ⟨Or.inr ⟨_, _, _, _, hsync⟩, fun _ => ⟨v, rfl, hbase⟩, fun hne => absurd rfl hne⟩
  · have hne : log ≠ [] := by
      rw [h.log_eq]
      simp
    have hrev : revisionOf u = some (maxRevision : ℤ) ↔ s.updates.revision = maxRevision := by
      rw [h.revision, Option.some.injEq]
      omega
    by_cases hmax : s.updates.revision = maxRevision
    · -- the revisions are used up
      obtain ⟨v, hv, hbase, hsync⟩ := project_baseline log q (s := s.updates) (if_pos hmax)
      rw [hv]
      exact ⟨Or.inr ⟨_, _, _, _, hsync⟩, fun h => absurd h hne, fun _ => ⟨pre, p, u, mid, h.log_eq,
        h.silent, fun _ => ⟨v, rfl, hbase⟩, fun hr => absurd (hrev.mpr hmax) hr⟩⟩
    · obtain ⟨hcont, hsync⟩ := project_synced h hmax q
      exact ⟨Or.inr hsync, fun h => absurd h hne, fun _ => ⟨pre, p, u, mid, h.log_eq, h.silent,
        fun hr => absurd (hrev.mp hr) hmax, fun _ => hcont⟩⟩

theorem run_inStep {s : Chain} (h : (chain uuid).Reaches log s) :
    InStep uuid log s :=
  h.invariant (InStep uuid) (Or.inl ⟨rfl, rfl⟩) fun _ _ _ _ _ _ hI hstep => (step_inStep hI hstep).1

/-- **Network updates replay exactly.** Over every sequence of network payloads:

* a client that starts empty and applies each emitted update holds the keyed networks
  of the latest payload, up to the ages;
* the first payload gives a full baseline;
* every other payload is answered with regard to the last update before it. If that
  one has the last revision, the answer is a full baseline; otherwise there is an
  update exactly if some keyed network was added, removed or changed up to the ages,
  it is no baseline, and its base is the last update's epoch and revision;
* no update both removes and adds a key. -/
theorem network_updates_replay {log : List Entry} {s : Chain}
    (h : (chain uuid).Run (chain uuid).start log s) :
    (∀ pre q o, log = pre ++ [(q, o)] → (replay log).Shows q.networks) ∧
    (∀ q o post, log = (q, o) :: post → ∃ v, o = some v ∧ Baseline v q.networks) ∧
    (∀ pre q o post, log = pre ++ (q, o) :: post → pre ≠ [] →
      ∃ pre' p u mid, pre = pre' ++ (p, some u) :: mid ∧ (∀ e ∈ mid, e.2 = none) ∧
        (revisionOf u = some (maxRevision : ℤ) → ∃ v, o = some v ∧ Baseline v q.networks) ∧
        (revisionOf u ≠ some (maxRevision : ℤ) → Continues u p.networks q.networks o)) ∧
    (∀ q v, (q, some v) ∈ log → Apart v) := by
  have hanswer : ∀ pre q o post, log = pre ++ (q, o) :: post → ∃ t t', InStep uuid pre t ∧
      (chain uuid).step t q = some (t', o) := by
    rintro pre q o post rfl
    obtain ⟨t, t', hpre, hstep, -⟩ := h.step_at
    exact ⟨t, t', run_inStep hpre, hstep⟩
  refine ⟨?_, ?_, ?_, ?_⟩
  · rintro pre q o rfl
    rcases run_inStep h with ⟨hnil, -⟩ | ⟨_, _, p, u, hsync⟩
    · simp at hnil
    · intro key
      rw [hsync.shows key, hsync.latest (q, o) (by simp) key]
  · intro q o post hlog
    obtain ⟨t, t', hI, hstep⟩ := hanswer [] q o post hlog
    exact (step_inStep hI hstep).2.1 rfl
  · intro pre q o post hlog hne
    obtain ⟨t, t', hI, hstep⟩ := hanswer pre q o post hlog
    exact (step_inStep hI hstep).2.2 hne
  · intro q v hmem
    obtain ⟨pre, post, hlog⟩ := List.append_of_mem hmem
    obtain ⟨t, t', hI, hstep⟩ := hanswer pre q (some v) post hlog
    obtain ⟨-, hfirst, hlater⟩ := step_inStep hI hstep
    have hbaseline : ∀ w, some v = some w ∧ Baseline w q.networks → Apart v := by
      rintro _ ⟨⟨⟩, hb⟩ n hn
      rw [hb.removed] at hn
      cases hn
    by_cases hnil : pre = []
    · exact (hfirst hnil).elim hbaseline
    · obtain ⟨_, p, u, _, -, -, hmax, hcont⟩ := hlater hnil
      by_cases hr : revisionOf u = some (maxRevision : ℤ)
      · exact (hmax hr).elim hbaseline
      · exact (hcont hr).apart v rfl

/-- Two payloads with a network each: the client ends with the second one. -/
theorem network_updates_replay_replaced :
    ∃ (q : Payload) (log : List Entry) (s : Chain),
      (chain unary).Run (chain unary).start log s ∧ log.length = 2 ∧
      q.networks = [.obj [("key", .str "b")]] ∧ (replay log).Shows q.networks := by
  let p : Payload := ⟨.obj [("networks", .arr [.obj [("key", .str "a")]])],
    [.obj [("key", .str "a")]], by decide, rfl, by decide⟩
  let q : Payload := ⟨.obj [("networks", .arr [.obj [("key", .str "b")]])],
    [.obj [("key", .str "b")]], by decide, rfl, by decide⟩
  have h := Machine.exec_run (chain unary) (chain unary).start [p, q] rfl
  exact ⟨q, _, _, h, rfl, rfl, (network_updates_replay h).1 [_] q _ rfl⟩

end NetworkUpdates

end NmDaemon
