import Mathlib.Order.Lattice
import Mathlib.Data.List.Basic

namespace PickMax

variable {α β : Type} [LinearOrder β]

/-- One comparison of a maximum search that keeps the later of two equal elements. -/
def keep (score : α → β) (best : Option α) (next : α) : Option α :=
  match best with
  | none => some next
  | some current => if score next < score current then some current else some next

/-- The last element of greatest score, as an iterator's `max_by` finds it. -/
def pickMax (score : α → β) (items : List α) : Option α :=
  items.foldl (keep score) none

theorem foldl_keep_mem (score : α → β) (items : List α) {start : Option α} {x : α}
    (found : items.foldl (keep score) start = some x) : x ∈ items ∨ start = some x := by
  induction items generalizing start with
  | nil => exact Or.inr found
  | cons y ys ih =>
    rcases ih found with later | kept
    · exact Or.inl (List.mem_cons_of_mem y later)
    · cases start with
      | none => exact Or.inl (by simp [Option.some.inj kept])
      | some current =>
        simp only [keep] at kept
        split at kept
        · exact Or.inr kept
        · exact Or.inl (by simp [Option.some.inj kept])

theorem foldl_keep_some (score : α → β) (items : List α) (current : α) :
    ∃ x, items.foldl (keep score) (some current) = some x := by
  induction items generalizing current with
  | nil => exact ⟨current, rfl⟩
  | cons y ys ih =>
    simp only [List.foldl_cons, keep]
    split
    · exact ih current
    · exact ih y

theorem pickMax_mem {score : α → β} {items : List α} {x : α} (found : pickMax score items = some x) :
    x ∈ items := by
  rcases foldl_keep_mem score items found with member | absurdStart
  · exact member
  · exact absurd absurdStart (by simp)

@[simp]
theorem pickMax_exists (score : α → β) {items : List α} (nonempty : items ≠ []) :
    ∃ x, pickMax score items = some x := by
  cases items with
  | nil => exact absurd rfl nonempty
  | cons y ys => exact foldl_keep_some score ys y

theorem foldl_keep_greatest (score : α → β) (items : List α) {start : Option α} {x : α}
    (found : items.foldl (keep score) start = some x) :
    (∀ y ∈ items, score y ≤ score x) ∧ ∀ current, start = some current → score current ≤ score x := by
  induction items generalizing start with
  | nil =>
    refine ⟨by simp, ?_⟩
    intro current same
    rw [Option.some.inj (same.symm.trans found)]
  | cons y ys ih =>
    obtain ⟨later, kept⟩ := ih found
    -- What the comparison keeps scores at least as much as both of its sides.
    have both : score y ≤ score x ∧ ∀ current, start = some current → score current ≤ score x := by
      cases start with
      | none => exact ⟨kept y rfl, by simp⟩
      | some best =>
        by_cases worse : score y < score best
        · have bound := kept best (if_pos worse)
          refine ⟨worse.le.trans bound, ?_⟩
          intro current same
          cases same
          exact bound
        · have bound := kept y (if_neg worse)
          refine ⟨bound, ?_⟩
          intro current same
          cases same
          exact (not_lt.mp worse).trans bound
    refine ⟨?_, both.2⟩
    intro z member
    rcases List.mem_cons.mp member with rfl | inside
    · exact both.1
    · exact later z inside

theorem pickMax_greatest {score : α → β} {items : List α} {x : α} (found : pickMax score items = some x) :
    ∀ y ∈ items, score y ≤ score x :=
  (foldl_keep_greatest score items found).1

/-- An element whose score is at least every other score of the list is found when it stands last. -/
theorem pickMax_concat (score : α → β) (items : List α) {last : α}
    (greatest : ∀ x ∈ items, score x ≤ score last) : pickMax score (items ++ [last]) = some last := by
  unfold pickMax
  rw [List.foldl_append]
  simp only [List.foldl_cons, List.foldl_nil]
  cases found : items.foldl (keep score) none with
  | none => rfl
  | some x =>
    have bound := greatest x (pickMax_mem found)
    simp only [keep, if_neg (not_lt.mpr bound)]

/-- One comparison of a search that keeps the earlier of two equal elements. -/
def keepFirst (better : α → α → Bool) (best : Option α) (next : α) : Option α :=
  match best with
  | none => some next
  | some current => if better next current then some next else some current

/-- The first element that no other one is better than. -/
def pickFirst (better : α → α → Bool) (items : List α) : Option α :=
  items.foldl (keepFirst better) none

/-- A search whose comparison is a strict comparison of scores ends with a greatest score. -/
theorem foldl_keepFirst_spec {score : α → β} {better : α → α → Bool}
    (compares : ∀ a b, better a b = true ↔ score b < score a) (items : List α) (current : α) :
    ∃ x, items.foldl (keepFirst better) (some current) = some x ∧ (x = current ∨ x ∈ items) ∧
      score current ≤ score x ∧ ∀ y ∈ items, score y ≤ score x := by
  induction items generalizing current with
  | nil => exact ⟨current, rfl, Or.inl rfl, le_rfl, by simp⟩
  | cons y ys ih =>
    simp only [List.foldl_cons, keepFirst]
    split
    · rename_i improves
      obtain ⟨x, found, member, atLeast, greatest⟩ := ih y
      refine ⟨x, found, Or.inr ?_, ((compares y current).mp improves).le.trans atLeast, ?_⟩
      · exact member.elim (fun same => same ▸ List.mem_cons_self) (List.mem_cons_of_mem y)
      · exact List.forall_mem_cons.mpr ⟨atLeast, greatest⟩
    · rename_i worse
      have order : score y ≤ score current := not_lt.mp fun improves => worse ((compares y current).mpr improves)
      obtain ⟨x, found, member, atLeast, greatest⟩ := ih current
      exact ⟨x, found, member.imp_right (List.mem_cons_of_mem y), atLeast,
        List.forall_mem_cons.mpr ⟨order.trans atLeast, greatest⟩⟩

theorem pickFirst_spec {score : α → β} {better : α → α → Bool}
    (compares : ∀ a b, better a b = true ↔ score b < score a) {items : List α} (nonempty : items ≠ []) :
    ∃ x ∈ items, pickFirst better items = some x ∧ ∀ y ∈ items, score y ≤ score x := by
  cases items with
  | nil => exact absurd rfl nonempty
  | cons y ys =>
    obtain ⟨x, found, member, atLeast, greatest⟩ := foldl_keepFirst_spec compares ys y
    refine ⟨x, ?_, found, List.forall_mem_cons.mpr ⟨atLeast, greatest⟩⟩
    exact member.elim (fun same => same ▸ List.mem_cons_self) (List.mem_cons_of_mem y)

end PickMax
