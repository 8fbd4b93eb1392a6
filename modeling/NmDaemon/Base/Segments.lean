import Mathlib.Algebra.Order.Ring.Nat
import Mathlib.Data.List.Flatten
import Mathlib.Data.List.Induction

/-!
# Logs in segments

A log that is cut into segments of limited weight, of which only the newest are kept. A
record goes to the newest segment; if that would make it too heavy, a new segment is begun
and the oldest of more than `keep + 1` segments is dropped.

* `Segments.write`, `Segments.read` — the operations; segments are kept newest first;
* `Segments.read_writeAll_suffix` — what is read is the end of what was written;
* `Segments.Bounded.writeAll` — at most `keep + 1` segments, each within the limit or of one
  record.
-/

namespace NmDaemon

namespace Segments

universe u

variable {α : Type u} (size : α → ℕ) (limit keep : ℕ)

/-- What the records of a segment weigh. -/
def weight (segment : List α) : ℕ := (segment.map size).sum

theorem weight_concat (segment : List α) (a : α) :
    weight size (segment ++ [a]) = weight size segment + size a := by
  simp [weight]

/-- Write one record. -/
def write (segments : List (List α)) (a : α) : List (List α) :=
  match segments with
  | [] => [[a]]
  | newest :: older =>
    if limit < weight size newest + size a then ([a] :: newest :: older).take (keep + 1)
    else (newest ++ [a]) :: older

/-- The records, oldest first. -/
def read (segments : List (List α)) : List α := segments.reverse.flatten

theorem read_cons (newest : List α) (older : List (List α)) :
    read (newest :: older) = read older ++ newest := by
  simp [read]

/-- Reading by position, from a position on that no segment has. -/
theorem flatMap_range_eq_read {segments : List (List α)} {n : ℕ} (h : segments.length ≤ n) :
    (List.range n).reverse.flatMap (fun i => segments[i]?.getD []) = read segments := by
  induction segments generalizing n with
  | nil => simp [read]
  | cons newest older ih =>
    obtain ⟨m, rfl⟩ : ∃ m, n = m + 1 := Nat.exists_eq_add_one.mpr (Nat.lt_of_lt_of_le (by simp) h)
    have hm : older.length ≤ m := Nat.le_of_succ_le_succ h
    rw [List.range_succ_eq_map, List.reverse_cons, List.flatMap_append, ← List.map_reverse,
      List.flatMap_map, read_cons, ← ih hm]
    simp

/-- The newest segments hold the end of the log. -/
theorem read_take_suffix (segments : List (List α)) (n : ℕ) :
    read (segments.take n) <:+ read segments := by
  refine ⟨read (segments.drop n), ?_⟩
  rw [read, read, ← List.flatten_append, ← List.reverse_append, List.take_append_drop, read]

theorem read_write_suffix (segments : List (List α)) (a : α) :
    read (write size limit keep segments a) <:+ read segments ++ [a] := by
  cases segments with
  | nil => exact List.suffix_rfl
  | cons newest older =>
    rw [write]
    split
    · have h := read_take_suffix ([a] :: newest :: older) (keep + 1)
      rwa [read_cons [a]] at h
    · exact ⟨[], by simp [read_cons]⟩

theorem read_write_ne_nil (segments : List (List α)) (a : α) :
    read (write size limit keep segments a) ≠ [] := by
  cases segments with
  | nil => simp [write, read]
  | cons newest older =>
    rw [write]
    split
    · simp [List.take_succ_cons, read_cons]
    · simp [read_cons]

/-- Write records one after another, beginning with no segment. -/
def writeAll (records : List α) : List (List α) := records.foldl (write size limit keep) []

theorem writeAll_concat (records : List α) (a : α) :
    writeAll size limit keep (records ++ [a]) =
      write size limit keep (writeAll size limit keep records) a := by
  rw [writeAll, List.foldl_append]
  rfl

theorem read_writeAll_suffix (records : List α) :
    read (writeAll size limit keep records) <:+ records := by
  induction records using List.reverseRecOn with
  | nil => exact List.suffix_rfl
  | append_singleton records a ih =>
    obtain ⟨lost, hlost⟩ := ih
    rw [writeAll_concat]
    refine (read_write_suffix size limit keep _ a).trans ⟨lost, ?_⟩
    rw [← List.append_assoc, hlost]

theorem read_writeAll_ne_nil (records : List α) (h : records ≠ []) :
    read (writeAll size limit keep records) ≠ [] := by
  obtain ⟨records, a, rfl⟩ := List.eq_nil_or_concat records |>.resolve_left h
  rw [List.concat_eq_append, writeAll_concat]
  exact read_write_ne_nil size limit keep _ a

/-- What is kept of the segments: their number, and that each is not empty and within the
limit or of one record. -/
structure Bounded (segments : List (List α)) : Prop where
  count : segments.length ≤ keep + 1
  ne_nil : ∀ segment ∈ segments, segment ≠ []
  weight_le : ∀ segment ∈ segments, weight size segment ≤ limit ∨ ∃ a, segment = [a]

variable {size limit keep}

theorem Bounded.write {segments : List (List α)} (h : Bounded size limit keep segments) (a : α) :
    Bounded size limit keep (write size limit keep segments a) := by
  cases segments with
  | nil => exact ⟨by simp [Segments.write], by simp [Segments.write], by simp [Segments.write]⟩
  | cons newest older =>
    rw [Segments.write]
    split
    · -- the new segment has one record; the others are as they were
      refine ⟨List.length_take_le _ _, fun segment hmem => ?_, fun segment hmem => ?_⟩
      · rcases List.mem_cons.mp (List.mem_of_mem_take hmem) with rfl | hmem
        · simp
        · exact h.ne_nil segment hmem
      · rcases List.mem_cons.mp (List.mem_of_mem_take hmem) with rfl | hmem
        · exact .inr ⟨a, rfl⟩
        · exact h.weight_le segment hmem
    · rename_i hlimit
      refine ⟨h.count, fun segment hmem => ?_, fun segment hmem => ?_⟩
      · rcases List.mem_cons.mp hmem with rfl | hmem
        · simp
        · exact h.ne_nil segment (List.mem_cons_of_mem _ hmem)
      · rcases List.mem_cons.mp hmem with rfl | hmem
        · rw [weight_concat]
          exact .inl (Nat.le_of_not_lt hlimit)
        · exact h.weight_le segment (List.mem_cons_of_mem _ hmem)

variable (size limit keep) in
theorem Bounded.writeAll (records : List α) :
    Bounded size limit keep (writeAll size limit keep records) := by
  induction records using List.reverseRecOn with
  | nil => exact ⟨Nat.zero_le _, by simp [Segments.writeAll], by simp [Segments.writeAll]⟩
  | append_singleton records a ih =>
    rw [writeAll_concat]
    exact ih.write a

end Segments

end NmDaemon
