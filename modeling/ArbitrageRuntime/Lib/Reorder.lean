import Mathlib.Data.List.Perm.Basic

namespace Reorder

variable {α κ : Type}

/-- Each key in turn takes the first remaining element that it names. The second part is what no key
took. -/
def pull (names : κ → α → Bool) : List κ → List α → List α × List α
  | [], xs => ([], xs)
  | key :: keys, xs =>
    match xs.find? (names key) with
    | none => pull names keys xs
    | some x =>
      let rest := pull names keys (xs.eraseP (names key))
      (x :: rest.1, rest.2)

theorem cons_eraseP_perm {p : α → Bool} {xs : List α} {x : α} (found : xs.find? p = some x) :
    (x :: xs.eraseP p).Perm xs := by
  induction xs with
  | nil => exact absurd found (by simp)
  | cons y ys ih =>
    by_cases here : p y
    · rw [List.find?_cons_of_pos here] at found
      cases Option.some.inj found
      rw [List.eraseP_cons_of_pos here]
    · rw [List.find?_cons_of_neg here] at found
      rw [List.eraseP_cons_of_neg here]
      exact (List.Perm.swap y x _).trans ((ih found).cons y)

/-- Whatever the keys are, nothing is lost and nothing is added. -/
theorem pull_perm (names : κ → α → Bool) (keys : List κ) (xs : List α) :
    ((pull names keys xs).1 ++ (pull names keys xs).2).Perm xs := by
  induction keys generalizing xs with
  | nil => exact List.Perm.refl xs
  | cons key keys ih =>
    simp only [pull]
    split
    · exact ih xs
    · rename_i x found
      exact ((ih (xs.eraseP (names key))).cons x).trans (cons_eraseP_perm found)

theorem rotateLeft_perm (xs : List α) (count : Nat) : (xs.rotateLeft count).Perm xs := by
  unfold List.rotateLeft
  dsimp only
  split
  · exact List.Perm.refl xs
  · have swapped := @List.perm_append_comm α (xs.drop (count % xs.length)) (xs.take (count % xs.length))
    rw [List.take_append_drop] at swapped
    exact swapped

/-- What is a reordering of the images is the image of a reordering. -/
theorem exists_perm_map {β : Type} {f : α → β} {xs : List α} {ys : List β} (perm : (xs.map f).Perm ys) :
    ∃ zs : List α, xs.Perm zs ∧ zs.map f = ys := by
  generalize images : xs.map f = us at perm
  induction perm generalizing xs with
  | nil => exact ⟨xs, .refl xs, images⟩
  | cons u perm ih =>
    obtain ⟨x, rest, rfl, rfl, tail⟩ := List.map_eq_cons_iff.mp images
    obtain ⟨zs, reordered, rfl⟩ := ih tail
    exact ⟨x :: zs, reordered.cons x, rfl⟩
  | swap u v us =>
    obtain ⟨x, tail, rfl, rfl, behind⟩ := List.map_eq_cons_iff.mp images
    obtain ⟨y, rest, rfl, rfl, last⟩ := List.map_eq_cons_iff.mp behind
    exact ⟨y :: x :: rest, .swap y x rest, by rw [← last]; rfl⟩
  | trans first second ih ih' =>
    obtain ⟨middle, reordered, between⟩ := ih images
    obtain ⟨zs, reordered', last⟩ := ih' between
    exact ⟨zs, reordered.trans reordered', last⟩

end Reorder
