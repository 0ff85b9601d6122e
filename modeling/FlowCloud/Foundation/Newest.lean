import Mathlib.Data.List.Basic

/-! # The newest entries of a list

`ORDER BY time DESC` puts entries of the same time in any order, so `LIMIT` may keep one or
the other of them.
-/

namespace FlowCloud.Foundation

variable {Entry : Type} {time : Entry → Int} {entries order : List Entry} {entry : Entry} {limit : Nat}

/-- An order of the entries in which the times descend. -/
structure NewestOrder (time : Entry → Int) (entries order : List Entry) : Prop where
  perm : order.Perm entries
  sorted : order.Pairwise fun first second => time second ≤ time first

theorem newestOrder_mergeSort (time : Entry → Int) (entries : List Entry) :
    NewestOrder time entries (entries.mergeSort fun first second => time second ≤ time first) := by
  refine ⟨List.mergeSort_perm _ _, ?_⟩
  have sorted := @List.pairwise_mergeSort Entry (fun first second => decide (time second ≤ time first)) ?_ ?_ entries
  · exact sorted.imp of_decide_eq_true
  · intro first second third le next
    simp only [decide_eq_true_eq] at *
    omega
  · intro first second
    simp only [Bool.or_eq_true, decide_eq_true_eq]
    omega

namespace NewestOrder

/-- What is kept is no older than what is left out. -/
theorem kept_newer (ordered : NewestOrder time entries order) {kept left : Entry} (first : kept ∈ order.take limit)
    (second : left ∈ order.drop limit) : time left ≤ time kept := by
  have sorted := ordered.sorted
  rw [← List.take_append_drop limit order, List.pairwise_append] at sorted
  exact sorted.2.2 kept first left second

theorem length_take (ordered : NewestOrder time entries order) :
    (order.take limit).length = min limit entries.length := by
  rw [List.length_take, ordered.perm.length_eq]

/-- One of the last entries is kept if no more than `limit` of them share its time. -/
theorem mem_take (ordered : NewestOrder time entries order) (member : entry ∈ entries)
    (last : ∀ other ∈ entries, time other ≤ time entry)
    (few : (entries.filter fun other => time other = time entry).length ≤ limit) : entry ∈ order.take limit := by
  by_contra left
  have behind : entry ∈ order.drop limit := by
    have somewhere := ordered.perm.symm.subset member
    rw [← List.take_append_drop limit order, List.mem_append] at somewhere
    exact somewhere.resolve_left left
  have kept : (order.take limit).filter (fun other => time other = time entry) = order.take limit := by
    apply List.filter_eq_self.mpr
    intro other first
    have newer := ordered.kept_newer first behind
    have older := last other (ordered.perm.subset (List.mem_of_mem_take first))
    exact decide_eq_true (Int.le_antisymm older newer)
  have another : 0 < ((order.drop limit).filter fun other => time other = time entry).length :=
    List.length_pos_of_mem (List.mem_filter.mpr ⟨behind, decide_eq_true rfl⟩)
  have full : (order.take limit).length = limit := by
    have long := List.length_pos_of_mem behind
    rw [List.length_drop] at long
    rw [List.length_take]
    omega
  have count := (ordered.perm.filter fun other => time other = time entry).length_eq
  rw [← List.take_append_drop limit order, List.filter_append, List.length_append, kept, full] at count
  omega

/-- Where `limit` other entries share the time of the last one, it may be left out. -/
theorem exists_not_mem_take (fresh : entry ∉ entries) (last : ∀ other ∈ entries, time other ≤ time entry)
    (many : limit ≤ (entries.filter fun other => time other = time entry).length) :
    ∃ order, NewestOrder time (entry :: entries) order ∧ entry ∉ order.take limit := by
  have rest := newestOrder_mergeSort time (entries.filter fun other => ¬ time other = time entry)
  let earlier := (entries.filter fun other => ¬ time other = time entry).mergeSort fun first second =>
    time second ≤ time first
  let same := entries.filter fun other => time other = time entry
  have all : (same ++ earlier).Perm entries := by
    apply (rest.perm.append_left same).trans
    simpa using List.filter_append_perm (fun other => decide (time other = time entry)) entries
  have tied : ∀ other ∈ same, time other = time entry := by
    intro other member
    simpa using (List.mem_filter.mp member).2
  have older : ∀ other ∈ earlier, time other ≤ time entry := fun other member =>
    last other (all.subset (List.mem_append_right same member))
  refine ⟨same ++ entry :: earlier, ⟨List.perm_middle.trans (all.cons entry), ?_⟩, ?_⟩
  · refine List.pairwise_append.mpr ⟨?_, List.pairwise_cons.mpr ⟨older, rest.sorted⟩, ?_⟩
    · apply List.pairwise_of_forall_mem_list
      intro first member second other
      exact Int.le_of_eq ((tied second other).trans (tied first member).symm)
    · intro first member second other
      rw [tied first member]
      cases other with
      | head => exact Int.le_refl _
      | tail _ other => exact older second other
  · intro kept
    rw [List.take_append_of_le_length many] at kept
    exact fresh (List.mem_of_mem_filter (List.mem_of_mem_take kept))

end NewestOrder

end FlowCloud.Foundation
