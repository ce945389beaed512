import Mathlib.Data.List.Nodup
import Mathlib.Data.List.Induction

/-!
# First occurrences

A list without the items that are the same as an earlier one. What is left of a list grows at its end as the
list does: a new item is kept unless one that was kept is the same. So no two items that are left are the
same, and every item of the list is the same as one of them.
-/

namespace Registrar

variable {α : Type} {same : α → α → Bool} {items : List α} {item : α}

/-- A new item is kept unless it is the same as one that was kept. -/
theorem eraseDupsBy_concat (same : α → α → Bool) (items : List α) (item : α) :
    (items ++ [item]).eraseDupsBy same =
      if ∃ kept ∈ items.eraseDupsBy same, same item kept = true then items.eraseDupsBy same
      else items.eraseDupsBy same ++ [item] := by
  induction size : items.length using Nat.strongRecOn generalizing items with
  | ind n ih =>
      cases items with
      | nil => simp [List.eraseDupsBy_cons]
      | cons head rest =>
          have fewer : (rest.filter fun other => same other head = false).length < n := by
            have shorter := List.length_filter_le (fun other => same other head = false) rest
            rw [List.length_cons] at size
            omega
          rw [List.cons_append, List.eraseDupsBy_cons, List.eraseDupsBy_cons, List.filter_append]
          by_cases here : same item head = true
          · simp [here]
          · have new : [item].filter (fun other => same other head = false) = [item] := by simpa using here
            rw [new, ih _ fewer _ rfl]
            rw [Bool.not_eq_true] at here
            simp only [List.mem_cons, exists_eq_or_imp, here, Bool.false_eq_true, false_or]
            split <;> rfl

theorem mem_of_mem_eraseDupsBy (member : item ∈ items.eraseDupsBy same) : item ∈ items := by
  induction items using List.reverseRecOn with
  | nil => simp at member
  | append_singleton rest last ih =>
      rw [eraseDupsBy_concat] at member
      split at member
      · exact List.mem_append_left _ (ih member)
      · rcases List.mem_append.mp member with before | new
        · exact List.mem_append_left _ (ih before)
        · exact List.mem_append_right _ new

/-- Every item is the same as one that is left. -/
theorem exists_mem_eraseDupsBy (reflexive : ∀ item ∈ items, same item item = true) (member : item ∈ items) :
    ∃ kept ∈ items.eraseDupsBy same, same item kept = true := by
  induction items using List.reverseRecOn with
  | nil => simp at member
  | append_singleton rest last ih =>
      obtain ⟨before, here⟩ := List.forall_mem_append.mp reflexive
      rw [eraseDupsBy_concat]
      rcases List.mem_append.mp member with inside | new
      · obtain ⟨kept, left, alike⟩ := ih before inside
        split
        · exact ⟨kept, left, alike⟩
        · exact ⟨kept, List.mem_append_left _ left, alike⟩
      · obtain rfl := List.mem_singleton.mp new
        split
        · assumption
        · exact ⟨item, List.mem_append_right _ new, here item new⟩

/-- No item that is left is the same as an earlier one. -/
theorem pairwise_eraseDupsBy (same : α → α → Bool) (items : List α) :
    (items.eraseDupsBy same).Pairwise fun earlier later => same later earlier = false := by
  induction items using List.reverseRecOn with
  | nil => exact .nil
  | append_singleton rest last ih =>
      rw [eraseDupsBy_concat]
      split
      · exact ih
      · rename_i new
        refine List.pairwise_append.mpr ⟨ih, List.pairwise_singleton _ _, ?_⟩
        intro kept left other member
        obtain rfl := List.mem_singleton.mp member
        exact Bool.eq_false_iff.mpr fun alike => new ⟨kept, left, alike⟩

variable [DecidableEq α]

theorem eraseDups_concat (items : List α) (item : α) : (items ++ [item]).eraseDups =
    if item ∈ items then items.eraseDups else items.eraseDups ++ [item] := by
  have kept : (∃ kept ∈ items.eraseDupsBy (· == ·), (item == kept) = true) ↔ item ∈ items := by
    simp only [beq_iff_eq, exists_eq_right']
    exact List.mem_eraseDups
  rw [List.eraseDups, eraseDupsBy_concat]
  simp only [kept]
  rfl

theorem nodup_eraseDups (items : List α) : items.eraseDups.Nodup := by
  have apart := pairwise_eraseDupsBy (· == ·) items
  exact apart.imp fun different => Ne.symm (by simpa using different)

end Registrar
