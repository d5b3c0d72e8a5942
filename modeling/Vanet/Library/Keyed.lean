/-
**Records that are told apart by a key.**

A list whose keys have no duplicates is split at a record into records of other keys; what a search,
an erasure or a replacement by the key does is read off the split.
-/

import Mathlib.Data.List.Nodup

namespace Vanet.Library

variable {α κ : Type} [DecidableEq κ] {key : α → κ} {records first rest : List α} {record other : α}

omit [DecidableEq κ] in
theorem keyed_split (nodup : (records.map key).Nodup) (member : record ∈ records) :
    ∃ first rest, records = first ++ record :: rest ∧
      ∀ other ∈ first ++ rest, key other ≠ key record := by
  obtain ⟨first, rest, split⟩ := List.append_of_mem member
  refine ⟨first, rest, split, ?_⟩
  intro other among same
  rw [split, List.map_append, List.map_cons, List.nodup_middle, List.nodup_cons,
    ← List.map_append] at nodup
  exact nodup.1 (same ▸ List.mem_map_of_mem among)

theorem filter_split (apart : ∀ other ∈ first ++ rest, key other ≠ key record) :
    (first ++ record :: rest).filter (fun other => key other ≠ key record) = first ++ rest := by
  have left : first.filter (fun other => key other ≠ key record) = first :=
    List.filter_eq_self.mpr fun other among =>
      decide_eq_true (apart other (List.mem_append_left rest among))
  have right : rest.filter (fun other => key other ≠ key record) = rest :=
    List.filter_eq_self.mpr fun other among =>
      decide_eq_true (apart other (List.mem_append_right first among))
  rw [List.filter_append, left, List.filter_cons_of_neg (by simp), right]

theorem find?_split (apart : ∀ other ∈ first ++ rest, key other ≠ key record) :
    (first ++ record :: rest).find? (fun other => key other = key record) = some record := by
  have left : first.find? (fun other => key other = key record) = none :=
    List.find?_eq_none.mpr fun other among same =>
      apart other (List.mem_append_left rest among) (of_decide_eq_true same)
  rw [List.find?_append, left, List.find?_cons_of_pos (by simp)]
  rfl

theorem takeWhile_split (apart : ∀ other ∈ first ++ rest, key other ≠ key record) :
    (first ++ record :: rest).takeWhile (fun other => key other ≠ key record) = first := by
  rw [List.takeWhile_append_of_pos fun other among =>
    decide_eq_true (apart other (List.mem_append_left rest among)),
    List.takeWhile_cons_of_neg (by simp), List.append_nil]

theorem dropWhile_split (apart : ∀ other ∈ first ++ rest, key other ≠ key record) :
    (first ++ record :: rest).dropWhile (fun other => key other ≠ key record) = record :: rest := by
  rw [List.dropWhile_append_of_pos fun other among =>
    decide_eq_true (apart other (List.mem_append_left rest among)),
    List.dropWhile_cons_of_neg (by simp)]

theorem map_split (apart : ∀ other ∈ first ++ rest, key other ≠ key record) (change : α → α) :
    (first ++ record :: rest).map
        (fun other => if key other = key record then change other else other) =
      first ++ change record :: rest := by
  have unchanged : ∀ part : List α, (∀ other ∈ part, key other ≠ key record) →
      part.map (fun other => if key other = key record then change other else other) = part := by
    intro part differs
    conv_rhs => rw [← List.map_id part]
    exact List.map_congr_left fun other among => if_neg (differs other among)
  rw [List.map_append, List.map_cons, if_pos rfl,
    unchanged first fun other among => apart other (List.mem_append_left rest among),
    unchanged rest fun other among => apart other (List.mem_append_right first among)]

end Vanet.Library
