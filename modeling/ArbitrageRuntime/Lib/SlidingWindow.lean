import Mathlib.Algebra.Order.BigOperators.Group.List

namespace SlidingWindow

variable {α : Type}

/-- Where what is expired stands in front of what is not, dropping from the front drops all that is expired. -/
theorem dropWhile_eq_filter {expired : α → Bool} {entries : List α}
    (ordered : entries.Pairwise fun older newer => expired newer = true → expired older = true) :
    entries.dropWhile expired = entries.filter fun entry => !expired entry := by
  induction entries with
  | nil => rfl
  | cons entry entries ih =>
    obtain ⟨older, rest⟩ := List.pairwise_cons.mp ordered
    by_cases gone : expired entry = true
    · rw [List.dropWhile_cons_of_pos gone, ih rest, List.filter_cons_of_neg (by simp [gone])]
    · have kept : ∀ other ∈ entry :: entries, (!expired other) = true := by
        intro other member
        rcases List.mem_cons.mp member with rfl | inside
        · simpa using gone
        · have notGone : ¬ expired other = true := fun later => gone (older other inside later)
          simpa using notGone
      rw [List.dropWhile_cons_of_neg gone, List.filter_eq_self.mpr kept]

/-- What has expired early has expired late. -/
theorem dropWhile_dropWhile {early late : α → Bool} (implies : ∀ entry, early entry = true → late entry = true)
    (entries : List α) : (entries.dropWhile early).dropWhile late = entries.dropWhile late := by
  induction entries with
  | nil => rfl
  | cons entry entries ih =>
    by_cases expired : early entry = true
    · rw [List.dropWhile_cons_of_pos expired, List.dropWhile_cons_of_pos (implies entry expired)]
      exact ih
    · rw [List.dropWhile_cons_of_neg expired]

/-- Dropping what is expired does not change the part that is not. -/
theorem filter_dropWhile {expired live : α → Bool} (apart : ∀ entry, expired entry = true → live entry = false)
    (entries : List α) : (entries.dropWhile expired).filter live = entries.filter live := by
  induction entries with
  | nil => rfl
  | cons entry entries ih =>
    by_cases gone : expired entry = true
    · have dead : ¬ live entry = true := by simp [apart entry gone]
      rw [List.dropWhile_cons_of_pos gone, ih, List.filter_cons_of_neg dead]
    · rw [List.dropWhile_cons_of_neg gone]

section

variable {M : Type} [AddCommMonoid M]

/-- The weight of the entries that count. -/
def load (weight : α → M) (counts : α → Bool) (entries : List α) : M :=
  ((entries.filter counts).map weight).sum

theorem load_concat (weight : α → M) (counts : α → Bool) (entries : List α) (entry : α) :
    load weight counts (entries ++ [entry]) = load weight counts entries + if counts entry then weight entry else 0 := by
  unfold load
  rw [List.filter_append, List.map_append, List.sum_append]
  by_cases counted : counts entry = true
  · simp [counted]
  · simp [counted]

variable [PartialOrder M] [IsOrderedAddMonoid M]

/-- A window with fewer entries weighs no more. -/
theorem load_le_of_sublist {weight : α → M} {counts : α → Bool} {fewer entries : List α} (sub : fewer.Sublist entries)
    (nonneg : ∀ entry ∈ entries, 0 ≤ weight entry) : load weight counts fewer ≤ load weight counts entries := by
  refine ((sub.filter counts).map weight).sum_le_sum ?_
  intro amount member
  obtain ⟨entry, inside, rfl⟩ := List.mem_map.mp member
  exact nonneg entry (List.mem_of_mem_filter inside)

end

end SlidingWindow
