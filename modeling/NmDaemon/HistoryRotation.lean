import NmDaemon.Base.Fallible
import NmDaemon.Base.Segments
import NmDaemon.Base.Table

/-!
# Rotated history files

`cache/storage.rs`: the daemon appends its records as lines of JSON to a file. A record that
would make the file too large goes to a new one; the old file becomes generation 1, generation
1 becomes generation 2 and so on, and the last generation is removed.

The files of a directory are modelled by their names and bytes, the renaming loop as the
source runs it. `Stores` says that the generations of a path hold the segments of an abstract
log (`Segments`): `lookup_rotateFiles` is the loop for all generations at once, `append_stores`
the refinement of one append, and `appendAll_stores` of any number of them.

Preparing the directory, rejecting links, permissions and syncing are not modelled: they do
not touch the contents of the files.
-/

namespace NmDaemon

namespace HistoryFile

abbrev Bytes : Type := List UInt8

/-! ## Files -/

/-- The contents of a file, whose length is a 64-bit number. -/
structure File : Type where
  contents : Bytes
  size : contents.length < 2 ^ 64

abbrev Directory : Type := Table String File

/-- A record as one line. -/
structure LineFormat (T : Type) : Type where
  toVec : T → Bytes
  /-- compact JSON escapes the line breaks of its texts -/
  oneLine : ∀ value, 10 ∉ toVec value

def saturatingAdd (a b : ℕ) : ℕ := min (a + b) (2 ^ 64 - 1)

def fileLenOrZero (dir : Directory) (path : String) : ℕ :=
  ((dir.lookup path).map fun file => file.contents.length).getD 0

/-- Append to a file, or create it; a file that would get too long is not written. -/
def appendPrivateFile (dir : Directory) (path : String) (contents : Bytes) : Option Directory :=
  let written := ((dir.lookup path).map File.contents).getD [] ++ contents
  if h : written.length < 2 ^ 64 then some (dir.insert path ⟨written, h⟩) else none

def removeFileIfExists (dir : Directory) (path : String) : Directory := dir.erase path

def renameIfExists (dir : Directory) (source target : String) : Directory :=
  match dir.lookup source with
  | none => dir
  | some file => (dir.erase source).insert target file

def rotatedPath (path : String) (index : ℕ) : String := path ++ "." ++ toString index

/-- The renaming of the generations between the first and the last, from the oldest on. -/
def shiftGenerations (dir : Directory) (path : String) (indices : List ℕ) : Directory :=
  indices.foldl
    (fun dir index => renameIfExists dir (rotatedPath path index) (rotatedPath path (index + 1))) dir

def rotateFiles (dir : Directory) (path : String) (rotations : ℕ) : Directory :=
  if rotations = 0 then removeFileIfExists dir path
  else
    let dir := removeFileIfExists dir (rotatedPath path rotations)
    let dir := shiftGenerations dir path (List.range' 1 (rotations - 1)).reverse
    renameIfExists dir path (rotatedPath path 1)

section Append

variable {T : Type} (format : LineFormat T) (path : String) (maxBytes : UInt64) (rotations : ℕ)

/-- The lines of a record. -/
def LineFormat.line (value : T) : Bytes := format.toVec value ++ [10]

def appendJsonLineWithRotation (dir : Directory) (value : T) : Option Directory :=
  let line := format.line value
  let currentBytes := fileLenOrZero dir path
  let dir :=
    if currentBytes > 0 ∧ saturatingAdd currentBytes line.length > maxBytes.toNat then
      rotateFiles dir path rotations
    else dir
  appendPrivateFile dir path line

/-- Append records one after another; none if one of the appends fails. -/
def appendAll (dir : Directory) (values : List T) : Option Directory :=
  values.foldlM (appendJsonLineWithRotation format path maxBytes rotations) dir

end Append

/-! ## Generations -/

/-- The name of a generation; the newest one is the path itself. -/
def generation (path : String) : ℕ → String
  | 0 => path
  | index + 1 => rotatedPath path (index + 1)

theorem rotatedPath_injective (path : String) : Function.Injective (rotatedPath path) := by
  intro i j h
  have hrepr : Nat.repr i = Nat.repr j := (String.append_right_inj _).mp h
  rw [Nat.repr_eq_ofList_toDigits, Nat.repr_eq_ofList_toDigits] at hrepr
  have hdigits := congrArg (Nat.ofDigitChars 10 · 0) (String.ofList_injective hrepr)
  simpa only [Nat.ofDigitChars_ten_toDigits] using hdigits

theorem rotatedPath_ne (path : String) (i : ℕ) : rotatedPath path i ≠ path := by
  intro h
  have hlen := congrArg String.length h
  rw [rotatedPath, String.length_append, String.length_append] at hlen
  have hdot : ".".length = 1 := rfl
  omega

theorem generation_injective (path : String) : Function.Injective (generation path) := by
  intro i j h
  match i, j with
  | 0, 0 => rfl
  | 0, j + 1 => exact absurd h.symm (rotatedPath_ne path _)
  | i + 1, 0 => exact absurd h (rotatedPath_ne path _)
  | i + 1, j + 1 => exact rotatedPath_injective path h

theorem generation_inj {path : String} {i j : ℕ} : generation path i = generation path j ↔ i = j :=
  (generation_injective path).eq_iff

theorem generation_eq_path {path : String} {i : ℕ} : generation path i = path ↔ i = 0 :=
  generation_inj (j := 0)

/-- Renaming to a name that is not taken. -/
theorem lookup_renameIfExists {dir : Directory} (source : String) {target : String}
    (hfree : dir.lookup target = none) (name : String) :
    (renameIfExists dir source target).lookup name =
      if name = target then dir.lookup source
      else if name = source then none else dir.lookup name := by
  unfold renameIfExists
  rcases hsource : dir.lookup source with _ | file
  · by_cases ht : name = target
    · rw [if_pos ht, ht, hfree]
    · rw [if_neg ht]
      by_cases hs : name = source
      · rw [if_pos hs, hs, hsource]
      · rw [if_neg hs]
  · simp only [Table.lookup_insert_ite, Table.lookup_erase_ite]

/-- The loop moves every generation up by one, if there is room above. -/
theorem lookup_shiftGenerations (path : String) (n : ℕ) (dir : Directory)
    (hfree : dir.lookup (generation path (n + 1)) = none) (i : ℕ) :
    (shiftGenerations dir path (List.range' 1 n).reverse).lookup (generation path i) =
      if 1 < i ∧ i ≤ n + 1 then dir.lookup (generation path (i - 1))
      else if i = 1 ∧ 0 < n then none else dir.lookup (generation path i) := by
  induction n generalizing dir with
  | zero =>
    rw [if_neg (by omega), if_neg (by omega)]
    rfl
  | succ n ih =>
    have hrename : ∀ j, (renameIfExists dir (rotatedPath path (n + 1))
        (rotatedPath path (n + 2))).lookup (generation path j) =
          if j = n + 2 then dir.lookup (generation path (n + 1))
          else if j = n + 1 then none else dir.lookup (generation path j) := by
      intro j
      have h := lookup_renameIfExists (generation path (n + 1)) hfree (generation path j)
      simp only [generation_inj] at h
      exact h
    have hloop : shiftGenerations dir path (List.range' 1 (n + 1)).reverse =
        shiftGenerations (renameIfExists dir (rotatedPath path (n + 1)) (rotatedPath path (n + 2)))
          path (List.range' 1 n).reverse := by
      rw [List.range'_1_concat, List.reverse_append, Nat.add_comm 1 n]
      rfl
    rw [hloop, ih _ (by rw [hrename, if_neg (by omega), if_pos rfl])]
    simp only [hrename]
    rcases i with _ | _ | i
    · rfl
    · rcases n with _ | n <;> rfl
    · rcases lt_trichotomy i n with hlt | rfl | hgt
      · rw [if_pos (by omega), if_neg (by omega), if_neg (by omega), if_pos (by omega)]
      · rw [if_neg (by omega), if_neg (by omega), if_pos rfl, if_pos (by omega)]
        rfl
      · rw [if_neg (by omega), if_neg (by omega), if_neg (by omega), if_neg (by omega),
          if_neg (by omega), if_neg (by omega)]

theorem lookup_rotateFiles (dir : Directory) (path : String) (rotations i : ℕ) :
    (rotateFiles dir path rotations).lookup (generation path i) =
      if i = 0 then none
      else if i ≤ rotations then dir.lookup (generation path (i - 1))
      else dir.lookup (generation path i) := by
  unfold rotateFiles
  rcases rotations with _ | n
  · rw [if_pos rfl, removeFileIfExists, Table.lookup_erase_ite]
    simp only [generation_eq_path]
    by_cases hi : i = 0
    · rw [if_pos hi, if_pos hi]
    · rw [if_neg hi, if_neg hi, if_neg (by omega)]
  · have hremoved : ∀ j, (removeFileIfExists dir (rotatedPath path (n + 1))).lookup
        (generation path j) = if j = n + 1 then none else dir.lookup (generation path j) := by
      intro j
      have h := Table.lookup_erase_ite dir (generation path j) (generation path (n + 1))
      simp only [generation_inj] at h
      exact h
    have hshifted := lookup_shiftGenerations path n _ (by rw [hremoved, if_pos rfl])
    have hfree : (shiftGenerations (removeFileIfExists dir (rotatedPath path (n + 1))) path
        (List.range' 1 n).reverse).lookup (generation path 1) = none := by
      rw [hshifted, if_neg (by omega)]
      rcases n with _ | n
      · rw [if_neg (by omega), hremoved, if_pos rfl]
      · rw [if_pos (by omega)]
    have hfirst := lookup_renameIfExists (generation path 0) hfree (generation path i)
    simp only [generation_inj] at hfirst
    rw [if_neg (by omega)]
    refine hfirst.trans ?_
    rcases i with _ | _ | i
    · rfl
    · rw [if_pos rfl, if_neg (by omega), if_pos (by omega), hshifted, if_neg (by omega),
        if_neg (by omega), hremoved, if_neg (by omega)]
    · rw [if_neg (by omega), if_neg (by omega), if_neg (by omega), hshifted]
      by_cases hi : i + 2 ≤ n + 1
      · rw [if_pos (by omega), if_pos hi, hremoved, if_neg (by omega)]
      · rw [if_neg (by omega), if_neg (by omega), if_neg hi, hremoved, if_neg (by omega)]

/-! ## The segments of a history -/

/-- What a record weighs in a file. -/
def lineLength (record : Bytes) : ℕ := record.length + 1

/-- The bytes of a segment. -/
def encode (segment : List Bytes) : Bytes := segment.flatMap fun record => record ++ [10]

theorem length_encode (segment : List Bytes) :
    (encode segment).length = Segments.weight lineLength segment := by
  rw [encode, List.length_flatMap, Segments.weight]
  simp only [List.length_append, List.length_cons, List.length_nil]
  rfl

theorem encode_cons (record : Bytes) (segment : List Bytes) :
    encode (record :: segment) = record ++ 10 :: encode segment := by
  simp [encode]

theorem encode_concat (segment : List Bytes) (record : Bytes) :
    encode (segment ++ [record]) = encode segment ++ (record ++ [10]) := by
  simp [encode]

/-- The generations of a path hold the segments. -/
def Stores (dir : Directory) (path : String) (segments : List (List Bytes)) : Prop :=
  ∀ i, (dir.lookup (generation path i)).map File.contents = segments[i]?.map encode

/-- The bytes of a file, none if it does not exist. -/
def contentsOf (dir : Directory) (path : String) : Bytes :=
  ((dir.lookup path).map File.contents).getD []

theorem fileLenOrZero_eq (dir : Directory) (path : String) :
    fileLenOrZero dir path = (contentsOf dir path).length := by
  rw [fileLenOrZero, contentsOf]
  cases dir.lookup path <;> rfl

/-- Appending to the newest generation leaves the others. -/
theorem append_newest {dir dir' : Directory} {path : String} {contents : Bytes}
    (h : appendPrivateFile dir path contents = some dir') :
    (contentsOf dir path ++ contents).length < 2 ^ 64 ∧
      ∀ i, (dir'.lookup (generation path i)).map File.contents =
        if i = 0 then some (contentsOf dir path ++ contents)
        else (dir.lookup (generation path i)).map File.contents := by
  simp only [appendPrivateFile] at h
  split at h
  · rename_i hsize
    cases h
    refine ⟨hsize, fun i => ?_⟩
    rw [Table.lookup_insert_ite]
    simp only [generation_eq_path]
    by_cases hi : i = 0
    · rw [if_pos hi, if_pos hi]
      rfl
    · rw [if_neg hi, if_neg hi]
  · cases h

theorem Stores.contentsOf_path {dir : Directory} {path : String} {newest : List Bytes}
    {older : List (List Bytes)} (h : Stores dir path (newest :: older)) :
    contentsOf dir path = encode newest := by
  have hpath : (dir.lookup path).map File.contents = some (encode newest) := h 0
  rw [contentsOf, hpath]
  rfl

section Refinement

variable {T : Type} {format : LineFormat T} {path : String} {maxBytes : UInt64} {rotations : ℕ}

/-- The segments after a record of the history is written. -/
abbrev written (format : LineFormat T) (maxBytes : UInt64) (rotations : ℕ)
    (segments : List (List Bytes)) (value : T) : List (List Bytes) :=
  Segments.write lineLength maxBytes.toNat rotations segments (format.toVec value)

/-- One append, as the segments see it. -/
theorem append_stores {dir dir' : Directory} {segments : List (List Bytes)} {value : T}
    (hstores : Stores dir path segments)
    (hbounded : Segments.Bounded lineLength maxBytes.toNat rotations segments)
    (h : appendJsonLineWithRotation format path maxBytes rotations dir value = some dir') :
    Stores dir' path (written format maxBytes rotations segments value) := by
  simp only [appendJsonLineWithRotation, fileLenOrZero_eq] at h
  cases segments with
  | nil =>
    -- the first record: there is no file
    have hpath : (dir.lookup path).map File.contents = none := hstores 0
    have hempty : contentsOf dir path = [] := by rw [contentsOf, hpath]; rfl
    rw [if_neg (by rw [hempty]; simp)] at h
    obtain ⟨-, hwritten⟩ := append_newest h
    intro i
    rw [hwritten, hempty]
    cases i with
    | zero =>
      rw [if_pos rfl, List.nil_append, written, Segments.write, List.getElem?_cons_zero,
        Option.map_some, encode_cons]
      rfl
    | succ i => exact hstores (i + 1)
  | cons newest older =>
    have hcontents := hstores.contentsOf_path
    have hline : (format.line value).length = lineLength (format.toVec value) := by
      simp [LineFormat.line, lineLength]
    have hpos : 0 < (encode newest).length := by
      obtain ⟨record, rest, rfl⟩ :=
        List.exists_cons_of_ne_nil (hbounded.ne_nil newest List.mem_cons_self)
      rw [encode_cons, List.length_append, List.length_cons]
      omega
    rw [hcontents] at h
    by_cases hfull : saturatingAdd (encode newest).length (format.line value).length > maxBytes.toNat
    · rw [if_pos ⟨hpos, hfull⟩] at h
      obtain ⟨-, hwritten⟩ := append_newest h
      have hheavy : maxBytes.toNat <
          Segments.weight lineLength newest + lineLength (format.toVec value) := by
        rw [← length_encode, ← hline]
        exact lt_of_lt_of_le hfull (min_le_left _ _)
      rw [written, Segments.write, if_pos hheavy]
      have hrotated := lookup_rotateFiles dir path rotations
      have hnone : contentsOf (rotateFiles dir path rotations) path = [] := by
        have hpath : (rotateFiles dir path rotations).lookup path = none := hrotated 0
        rw [contentsOf, hpath]
        rfl
      intro i
      rw [hwritten, hnone]
      cases i with
      | zero =>
        rw [if_pos rfl, List.nil_append, List.take_succ_cons, List.getElem?_cons_zero,
          Option.map_some, encode_cons]
        rfl
      | succ i =>
        rw [if_neg (Nat.succ_ne_zero i), hrotated, if_neg (Nat.succ_ne_zero i), List.take_succ_cons,
          List.getElem?_cons_succ]
        by_cases hi : i + 1 ≤ rotations
        · rw [if_pos hi, List.getElem?_take_of_lt hi]
          exact hstores i
        · -- nothing is above the last generation
          rw [if_neg hi, hstores (i + 1), List.getElem?_eq_none (by have := hbounded.count; omega),
            List.getElem?_eq_none (by rw [List.length_take]; omega)]
    · rw [if_neg fun hc => hfull hc.2] at h
      obtain ⟨hsize, hwritten⟩ := append_newest h
      rw [hcontents, List.length_append] at hsize
      have hlight : ¬ maxBytes.toNat <
          Segments.weight lineLength newest + lineLength (format.toVec value) := by
        rw [← length_encode, ← hline]
        rwa [saturatingAdd, min_eq_left (by omega)] at hfull
      rw [written, Segments.write, if_neg hlight]
      intro i
      rw [hwritten, hcontents]
      cases i with
      | zero =>
        rw [if_pos rfl, List.getElem?_cons_zero, Option.map_some, encode_concat]
        rfl
      | succ i =>
        rw [if_neg (Nat.succ_ne_zero i)]
        exact hstores (i + 1)

/-- Any number of appends to a history that does not exist yet. -/
theorem appendAll_stores {dir dir' : Directory} {values : List T}
    (hfresh : ∀ i, dir.lookup (generation path i) = none)
    (h : appendAll format path maxBytes rotations dir values = some dir') :
    Stores dir' path
      (Segments.writeAll lineLength maxBytes.toNat rotations (values.map format.toVec)) := by
  induction values using List.reverseRecOn generalizing dir' with
  | nil =>
    cases h
    intro i
    rw [hfresh i]
    rfl
  | append_singleton values value ih =>
    rw [appendAll, List.foldlM_append] at h
    obtain ⟨before, hbefore, hlast⟩ := Option.bind_eq_some_iff.mp h
    simp only [List.foldlM_cons, List.foldlM_nil, bind_pure] at hlast
    rw [List.map_append, List.map_singleton, Segments.writeAll_concat]
    exact append_stores (ih hbefore) (Segments.Bounded.writeAll ..) hlast

end Refinement

/-! ## Reading the history -/

/-- The lines of a file, without their line breaks. -/
def readLines : Bytes → List Bytes
  | [] => []
  | b :: rest =>
    if b = 10 then [] :: readLines rest
    else
      match readLines rest with
      | [] => [[b]]
      | line :: lines => (b :: line) :: lines

theorem readLines_line {record : Bytes} (h : 10 ∉ record) (rest : Bytes) :
    readLines (record ++ 10 :: rest) = record :: readLines rest := by
  induction record with
  | nil => simp [readLines]
  | cons b record ih =>
    have hb : b ≠ 10 := fun hc => h (by simp [hc])
    rw [List.cons_append, readLines, if_neg hb, ih fun hc => h (List.mem_cons_of_mem _ hc)]

theorem readLines_encode {segment : List Bytes} (h : ∀ record ∈ segment, 10 ∉ record) :
    readLines (encode segment) = segment := by
  induction segment with
  | nil => rfl
  | cons record segment ih =>
    rw [encode_cons, readLines_line (h record List.mem_cons_self),
      ih fun r hr => h r (List.mem_cons_of_mem _ hr)]

/-- The records of the generations up to the last, oldest first. -/
def readGenerations (dir : Directory) (path : String) (rotations : ℕ) : List Bytes :=
  (List.range (rotations + 1)).reverse.flatMap fun i => readLines (contentsOf dir (generation path i))

theorem Stores.readGenerations {dir : Directory} {path : String} {rotations : ℕ}
    {segments : List (List Bytes)} (hstores : Stores dir path segments)
    (hcount : segments.length ≤ rotations + 1)
    (hlines : ∀ segment ∈ segments, ∀ record ∈ segment, 10 ∉ record) :
    readGenerations dir path rotations = Segments.read segments := by
  have hread : ∀ i, readLines (contentsOf dir (generation path i)) = segments[i]?.getD [] := by
    intro i
    rw [contentsOf, hstores i]
    rcases hsegment : segments[i]? with _ | segment
    · rfl
    · exact readLines_encode (hlines segment (List.mem_of_getElem? hsegment))
  rw [HistoryFile.readGenerations]
  simp only [hread]
  exact Segments.flatMap_range_eq_read hcount

/-- **Rotation.** After any appends to a new history, reading the generations from the oldest
to the newest gives the end of what was appended, with the latest record; there is no
generation beyond the last; and a file is within the limit or holds one record. -/
theorem rotation_keeps_latest {T : Type} (format : LineFormat T) (path : String)
    (maxBytes : UInt64) (rotations : ℕ) (values : List T) {dir dir' : Directory}
    (hfresh : ∀ i, dir.lookup (generation path i) = none)
    (h : appendAll format path maxBytes rotations dir values = some dir') :
    readGenerations dir' path rotations <:+ values.map format.toVec ∧
      (values ≠ [] → readGenerations dir' path rotations ≠ []) ∧
      (∀ i, rotations < i → dir'.lookup (generation path i) = none) ∧
      ∀ i file, dir'.lookup (generation path i) = some file →
        file.contents.length ≤ maxBytes.toNat ∨ ∃ value ∈ values, file.contents = format.line value := by
  have hstores := appendAll_stores hfresh h
  have hbounded := Segments.Bounded.writeAll lineLength maxBytes.toNat rotations
    (values.map format.toVec)
  have hsuffix := Segments.read_writeAll_suffix lineLength maxBytes.toNat rotations
    (values.map format.toVec)
  have hne := Segments.read_writeAll_ne_nil lineLength maxBytes.toNat rotations
    (values.map format.toVec)
  generalize Segments.writeAll lineLength maxBytes.toNat rotations (values.map format.toVec) =
    segments at hstores hbounded hsuffix hne
  -- every record of a segment is one of those appended
  have hmem : ∀ segment ∈ segments, ∀ record ∈ segment, ∃ value ∈ values, format.toVec value = record := by
    intro segment hsegment record hrecord
    have hread : record ∈ Segments.read segments :=
      List.mem_flatten.mpr ⟨segment, List.mem_reverse.mpr hsegment, hrecord⟩
    exact List.mem_map.mp (hsuffix.subset hread)
  have hreads := hstores.readGenerations hbounded.count fun segment hsegment record hrecord => by
    obtain ⟨value, -, rfl⟩ := hmem segment hsegment record hrecord
    exact format.oneLine value
  rw [hreads]
  refine ⟨hsuffix, fun hvalues => hne (by simpa using hvalues), fun i hi => ?_, fun i file hfile => ?_⟩
  · have hnone := hstores i
    rw [List.getElem?_eq_none (by have := hbounded.count; omega)] at hnone
    exact Option.map_eq_none_iff.mp hnone
  · obtain ⟨segment, hsegment, hcontents⟩ :=
      Option.map_eq_some_iff.mp ((hstores i).symm.trans (congrArg _ hfile))
    have hin := List.mem_of_getElem? hsegment
    rw [← hcontents, length_encode]
    rcases hbounded.weight_le segment hin with hle | ⟨record, rfl⟩
    · exact .inl hle
    · obtain ⟨value, hvalue, rfl⟩ := hmem _ hin record List.mem_cons_self
      exact .inr ⟨value, hvalue, by rw [encode_cons]; rfl⟩

/-- Truth values as lines. -/
def truthFormat : LineFormat Bool where
  toVec value := if value then [116] else [102]
  oneLine value := by cases value <;> decide

/-- Two records fill a file; with one rotation, the fifth leaves three. -/
theorem rotation_keeps_latest_three :
    ∃ dir, appendAll truthFormat "h" 4 1 ∅ [true, true, false, true, false] = some dir ∧
      readGenerations dir "h" 1 = [[102], [116], [102]] ∧
      readGenerations dir "h" 1 <:+ [[116], [116], [102], [116], [102]] := by
  have hfresh : ∀ i, (∅ : Directory).lookup (generation "h" i) = none := fun i => AList.lookup_empty _
  obtain ⟨dir, hdir, hthree⟩ : ∃ dir,
      appendAll truthFormat "h" 4 1 ∅ [true, true, false, true, false] = some dir ∧
        readGenerations dir "h" 1 = [[102], [116], [102]] :=
    ⟨_, rfl, rfl⟩
  have h := rotation_keeps_latest truthFormat "h" 4 1 _ hfresh hdir
  exact ⟨dir, hdir, hthree, h.1⟩

end HistoryFile

end NmDaemon
