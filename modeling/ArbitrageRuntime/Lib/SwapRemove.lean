import Mathlib.Data.List.Perm.Basic
import Mathlib.Data.List.DropRight

namespace SwapRemove

variable {α : Type}

/-- A vector without the element at a place: the last element takes the place. -/
def swapRemove (items : List α) (index : Nat) : List α :=
  match items.getLast? with
  | some last => (items.set index last).dropLast
  | none => []

theorem swapRemove_concat (items : List α) (last : α) (index : Nat) :
    swapRemove (items ++ [last]) index = ((items ++ [last]).set index last).dropLast := by
  rw [swapRemove, List.getLast?_concat]

/-- The removed element and the others are the vector again, in another order. -/
theorem swapRemove_perm {items : List α} {index : Nat} {x : α} (found : items[index]? = some x) :
    items.Perm (x :: swapRemove items index) := by
  induction items using List.reverseRecOn with
  | nil => simp at found
  | append_singleton items last _ =>
    rw [swapRemove_concat]
    by_cases inside : index < items.length
    · have same : items[index] = x := by
        rw [List.getElem?_append_left inside, List.getElem?_eq_getElem inside] at found
        exact Option.some.inj found
      rw [List.set_append_left _ _ inside, List.dropLast_concat, ← same]
      have others := (List.getElem_cons_eraseIdx_perm inside).symm
      have replaced := (List.set_perm_cons_eraseIdx inside last).symm
      calc (items ++ [last]).Perm (last :: items) := List.perm_append_singleton last items
        List.Perm _ (last :: items[index] :: items.eraseIdx index) := others.cons last
        List.Perm _ (items[index] :: last :: items.eraseIdx index) := List.Perm.swap ..
        List.Perm _ (items[index] :: items.set index last) := replaced.cons _
    · have atEnd : index = items.length := by
        have bound := (List.getElem?_eq_some_iff.mp found).1
        rw [List.length_append, List.length_singleton] at bound
        omega
      subst atEnd
      have same : last = x := by simpa using found
      rw [same]
      simp only [List.set_append_right _ _ (Nat.le_refl _), Nat.sub_self, List.set_cons_zero, List.dropLast_concat]
      exact List.perm_append_singleton x items

end SwapRemove
