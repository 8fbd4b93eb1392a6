import NmDaemon.Base.Json
import NmDaemon.Base.Machine
import NmDaemon.Base.Table

/-!
# Network updates

`daemon_status/network_updates.rs`: a subscriber's delta chain. The cursor (epoch and
revision) and the collection it stands for advance together. A payload becomes an
update when some keyed network was added, removed or changed; the first payload and
the first one after the revisions are used up become a full baseline.

Two entries count as changed when they differ in more than the age of what was seen:
the field `last_seen_age_ms` is ignored at the network object and at each of its
access points, and nowhere else. `stripAge` removes exactly these fields, and
`networkEntryChanged_iff` says that the comparison, which copies nothing, decides
whether the stripped entries differ.
-/

namespace NmDaemon

namespace NetworkUpdates

/-- The largest revision, `2^53 - 1`. -/
def maxRevision : ℕ := 2 ^ 53 - 1

/-! ## Comparing entries -/

/-- The fields other than the age. -/
def stableFields (object : List (String × Json)) : List (String × Json) :=
  object.filter fun f => f.1 ≠ "last_seen_age_ms"

/-- Equality of two objects up to the age, with the values compared by `equal`. -/
def equalNetworkFields (equal : String → Json → Json → Bool) (previous current : Json) : Bool :=
  match previous, current with
  | .obj previous, .obj current =>
    (stableFields previous).length = (stableFields current).length &&
      (stableFields previous).all fun f =>
        match Json.field f.1 current with
        | some current => equal f.1 f.2 current
        | none => false
  | previous, current => previous = current

/-- How the values of two entries are compared. -/
def equalValues (key : String) (previous current : Json) : Bool :=
  match previous, current with
  | .arr previous, .arr current =>
    if key = "access_points" then
      previous.length = current.length &&
        (previous.zip current).all fun p => equalNetworkFields (fun _ a b => a = b) p.1 p.2
    else (Json.arr previous) = .arr current
  | previous, current => previous = current

def networkEntryChanged (previous current : Json) : Bool :=
  !equalNetworkFields equalValues previous current

/-! ## The delta -/

def networkKey (network : Json) : Option String := (network.get "key").bind Json.asStr

/-- Put the keyed ones of `networks` into a table. -/
def putNetworks (table : Table String Json) (networks : List Json) : Table String Json :=
  networks.foldl (fun table network =>
    match networkKey network with
    | some key => table.insert key network
    | none => table) table

def networksByKey (networks : List Json) : Table String Json := putNetworks ∅ networks

/-- The networks of a payload. -/
def networksOf (payload : Json) : Option (List Json) := (payload.get "networks").bind Json.asArray

/-- Those with a key that `other` does not have: what was added or removed. -/
def absentFrom (other : Table String Json) (networks : List Json) : List Json :=
  networks.filter fun network =>
    match networkKey network with
    | some key => (other.lookup key).isNone
    | none => false

/-- Those whose entry in `previous` has changed. -/
def changedSince (previous : Table String Json) (networks : List Json) : List Json :=
  networks.filter fun network =>
    match (networkKey network).bind fun key => previous.lookup key with
    | some previous => networkEntryChanged previous network
    | none => false

/-- What has changed between two lists of networks; nothing, if there is no list. -/
def networkDelta (previous : Option Json) (current : Json) : Option (List (String × Json)) :=
  match networksOf current with
  | none => none
  | some currentNetworks =>
    let previousNetworks := (previous.bind networksOf).getD []
    let previousByKey := networksByKey previousNetworks
    let currentByKey := networksByKey currentNetworks
    let added := absentFrom previousByKey currentNetworks
    let changed := changedSince previousByKey currentNetworks
    let removed := absentFrom currentByKey previousNetworks
    if previous.isSome ∧ added = [] ∧ removed = [] ∧ changed = [] then none
    else
      let delta := Json.insertField "added" (.arr added) []
      let delta := Json.insertField "removed" (.arr removed) delta
      let delta := Json.insertField "changed" (.arr changed) delta
      let delta :=
        match current.get "snapshot" with
        | some snapshot => Json.insertField "snapshot" snapshot delta
        | none => delta
      match current.get "warning" with
      | none | some .null => some delta
      | some warning => some (Json.insertField "warning" warning delta)

/-! ## The cursor -/

/-- A subscriber's cursor and the payload it stands for. -/
structure Updates : Type where
  epoch : String
  revision : ℕ
  last : Option Json

/-- A chain that has emitted nothing. -/
def Updates.default (epoch : String) : Updates := ⟨epoch, 0, none⟩

/-- Start over when the next revision could not be represented exactly. -/
def Updates.renewed (s : Updates) (fresh : String) : Updates :=
  if s.revision = maxRevision then .default fresh else s

def Updates.project (s : Updates) (fresh : String) (current : Json) : Updates × Option Json :=
  let s := s.renewed fresh
  match networkDelta s.last current with
  | none => (s, none)
  | some delta =>
    let delta := Json.insertField "initial" (.bool s.last.isNone) delta
    let delta := Json.insertField "epoch" (.str s.epoch) delta
    let delta := Json.insertField "base_revision" (.int s.revision) delta
    let revision := s.revision + 1
    let delta := Json.insertField "revision" (.int revision) delta
    (⟨s.epoch, revision, some current⟩, some (.obj delta))

/-! ## Payloads and runs -/

/-- A network payload: it has an array of networks, and no two of them that have a
key have the same one. -/
structure Payload : Type where
  value : Json
  networks : List Json
  wellFormed : value.WellFormed
  networks_eq : networksOf value = some networks
  distinct : (networks.filterMap networkKey).Nodup

/-- The chain, and how many epoch ids were drawn. -/
structure Chain : Type where
  updates : Updates
  issued : ℕ

/-- One subscriber's chain, fed with payloads; it answers with the emitted update. -/
def chain (uuid : ℕ → String) : Machine Chain Payload (Option Json) where
  start := ⟨.default (uuid 0), 1⟩
  step s payload :=
    let r := s.updates.project (uuid s.issued) payload.value
    some (⟨r.1, if s.updates.revision = maxRevision then s.issued + 1 else s.issued⟩, r.2)

/-! ## What the comparison ignores -/

/-- The stable fields with their values rewritten by `strip`. -/
def stripFields (strip : String → Json → Json) (object : List (String × Json)) :
    List (String × Json) :=
  (stableFields object).map fun f => (f.1, strip f.1 f.2)

/-- An object without its age, its values rewritten by `strip`. -/
def stripObject (strip : String → Json → Json) : Json → Json
  | .obj fields => .obj (stripFields strip fields)
  | j => j

/-- An access point without its age. -/
def stripPoint : Json → Json := stripObject fun _ v => v

/-- The access points without their ages; any other value as it is. -/
def stripValue (key : String) : Json → Json
  | .arr items => if key = "access_points" then .arr (items.map stripPoint) else .arr items
  | j => j

/-- A network entry without the ages the comparison ignores. -/
def stripAge : Json → Json := stripObject stripValue

variable {object : List (String × Json)} {strip : String → Json → Json}

theorem stripFields_sorted (h : Json.Sorted object) : Json.Sorted (stripFields strip object) := by
  have hstable : Json.Sorted (stableFields object) := h.filter _
  exact List.pairwise_map.mpr hstable

theorem mem_stableFields {f : String × Json} :
    f ∈ stableFields object ↔ f ∈ object ∧ f.1 ≠ "last_seen_age_ms" := by
  simp [stableFields]

theorem mem_stripFields {k : String} {v : Json} : (k, v) ∈ stripFields strip object ↔
      k ≠ "last_seen_age_ms" ∧ ∃ w, (k, w) ∈ object ∧ strip k w = v := by
  simp only [stripFields, List.mem_map, mem_stableFields, Prod.exists, Prod.mk.injEq]
  constructor
  · rintro ⟨k', w, ⟨hmem, hk⟩, rfl, rfl⟩
    exact ⟨hk, w, hmem, rfl⟩
  · rintro ⟨hk, w, hmem, rfl⟩
    exact ⟨k, w, ⟨hmem, hk⟩, rfl, rfl⟩

/-- The comparison of two field lists, value by value. -/
theorem stripFields_eq_iff {equal : String → Json → Json → Bool}
    (hequal : ∀ k a b, a.WellFormed → b.WellFormed → (equal k a b = true ↔ strip k a = strip k b))
    {p c : List (String × Json)} (hp : (Json.obj p).WellFormed) (hc : (Json.obj c).WellFormed) :
    stripFields strip p = stripFields strip c ↔
      (stableFields p).length = (stableFields c).length ∧
        ∀ k v, (k, v) ∈ stableFields p → ∃ w, Json.field k c = some w ∧ equal k v w = true := by
  obtain ⟨hps, hpv⟩ := Json.wellFormed_obj.mp hp
  obtain ⟨hcs, hcv⟩ := Json.wellFormed_obj.mp hc
  constructor
  · intro heq
    refine ⟨by simpa [stripFields] using congrArg List.length heq, fun k v hmem => ?_⟩
    obtain ⟨hmem, hk⟩ := mem_stableFields.mp hmem
    have hstrip : (k, strip k v) ∈ stripFields strip c := by
      rw [← heq]
      exact mem_stripFields.mpr ⟨hk, v, hmem, rfl⟩
    obtain ⟨-, w, hw, hvw⟩ := mem_stripFields.mp hstrip
    exact ⟨w, Json.field_of_mem hcs hw, (hequal k v w (hpv _ hmem) (hcv _ hw)).mpr hvw.symm⟩
  · rintro ⟨hlen, hall⟩
    -- equally many, and each one of the first list is in the second
    refine (stripFields_sorted hps).eq_of_subset (stripFields_sorted hcs)
      (by simpa [stripFields] using hlen) ?_
    rintro ⟨k, v⟩ hmem
    obtain ⟨hk, v', hv', rfl⟩ := mem_stripFields.mp hmem
    obtain ⟨w, hw, hvw⟩ := hall k v' (mem_stableFields.mpr ⟨hv', hk⟩)
    have hmemw := Json.mem_of_field hw
    have hstrip := (hequal k v' w (hpv _ hv') (hcv _ hmemw)).mp hvw
    exact mem_stripFields.mpr ⟨hk, w, hmemw, hstrip.symm⟩

/-- The comparison of two objects decides whether they agree without their ages, if
the comparison of values does. -/
theorem equalNetworkFields_iff {equal : String → Json → Json → Bool}
    (hequal : ∀ k a b, a.WellFormed → b.WellFormed → (equal k a b = true ↔ strip k a = strip k b))
    {previous current : Json} (hp : previous.WellFormed) (hc : current.WellFormed) :
    equalNetworkFields equal previous current = true ↔
      stripObject strip previous = stripObject strip current := by
  unfold equalNetworkFields
  split
  · rename_i p c
    rw [stripObject, stripObject, Json.obj.injEq, stripFields_eq_iff hequal hp hc,
      Bool.and_eq_true, decide_eq_true_iff, List.all_eq_true]
    refine and_congr_right fun _ => ⟨fun h k v hmem => ?_, fun h f hmem => ?_⟩
    · have := h (k, v) hmem
      dsimp only at this
      split at this
      · rename_i w hw
        exact ⟨w, hw, this⟩
      · cases this
    · obtain ⟨w, hw, hequal⟩ := h f.1 f.2 hmem
      rw [hw]
      exact hequal
  · -- not two objects: nothing is ignored
    rename_i hne
    rw [decide_eq_true_iff]
    cases previous <;> cases current <;>
      first
      | rfl
      | exact absurd rfl (hne _ _ rfl)
      | simp [stripObject]

theorem equalValues_iff (k : String) (a b : Json) (ha : a.WellFormed) (hb : b.WellFormed) :
    equalValues k a b = true ↔ stripValue k a = stripValue k b := by
  have hpoint : ∀ a b : Json, a.WellFormed → b.WellFormed →
      (equalNetworkFields (fun _ a b => a = b) a b = true ↔ stripPoint a = stripPoint b) :=
    fun a b ha hb => equalNetworkFields_iff (fun _ _ _ _ _ => by simp) ha hb
  unfold equalValues
  split
  · rename_i p c
    rw [Json.wellFormed_arr] at ha hb
    by_cases hk : k = "access_points"
    · rw [if_pos hk, stripValue, stripValue, if_pos hk, if_pos hk, Json.arr.injEq,
        Bool.and_eq_true, decide_eq_true_iff]
      -- both lists at once, point by point
      induction p generalizing c with
      | nil => cases c <;> simp
      | cons x p ih =>
        cases c with
        | nil => simp
        | cons y c =>
          have hhead := hpoint x y (ha x (by simp)) (hb y (by simp))
          have htail := ih c (fun j hj => ha j (by simp [hj])) (fun j hj => hb j (by simp [hj]))
          simp only [List.length_cons, Nat.add_right_cancel_iff, List.zip_cons_cons, List.all_cons,
            Bool.and_eq_true, List.map_cons, List.cons.injEq, hhead, ← htail]
          tauto
    · rw [if_neg hk, stripValue, stripValue, if_neg hk, if_neg hk, decide_eq_true_iff]
  · rename_i hne
    rw [decide_eq_true_iff]
    cases a <;> cases b <;>
      first
      | rfl
      | exact absurd rfl (hne _ _ rfl)
      | (simp only [stripValue]; split <;> simp)

/-- An entry has changed if it differs in more than the ages. -/
theorem networkEntryChanged_iff {previous current : Json} (hp : previous.WellFormed)
    (hc : current.WellFormed) :
    networkEntryChanged previous current = true ↔ stripAge previous ≠ stripAge current := by
  have h := equalNetworkFields_iff equalValues_iff hp hc
  rw [networkEntryChanged, Bool.not_eq_true', ← Bool.not_eq_true, h]
  rfl

end NetworkUpdates

end NmDaemon
