import Mathlib.Data.List.Basic

namespace Collect

variable {α β ε : Type}

/-- A loop that may skip an element, push a result for it, or stop the whole loop with a failure. -/
def collect (visit : α → Except ε (Option β)) : List α → Except ε (List β)
  | [] => .ok []
  | x :: xs =>
    match visit x with
    | .error stop => .error stop
    | .ok none => collect visit xs
    | .ok (some y) =>
      match collect visit xs with
      | .error stop => .error stop
      | .ok ys => .ok (y :: ys)

theorem bind_eq_ok_iff {x : Except ε α} {f : α → Except ε β} {b : β} :
    x >>= f = .ok b ↔ ∃ a, x = .ok a ∧ f a = .ok b := by
  cases x with
  | error stop => simp [Bind.bind, Except.bind]
  | ok a => simp [Bind.bind, Except.bind]

/-- A test of the value of a computation that must not fail. -/
def holdsOf (x : Except ε α) (test : α → Bool) : Bool :=
  match x with
  | .ok a => test a
  | .error _ => false

theorem exists_of_holdsOf {x : Except ε α} {test : α → Bool} (holds : holdsOf x test = true) :
    ∃ a, x = .ok a ∧ test a = true := by
  cases x with
  | error stop => exact absurd holds (by simp [holdsOf])
  | ok a => exact ⟨a, rfl, holds⟩

theorem collect_mem {visit : α → Except ε (Option β)} {xs : List α} {ys : List β} {y : β}
    (run : collect visit xs = .ok ys) (member : y ∈ ys) : ∃ x ∈ xs, visit x = .ok (some y) := by
  induction xs generalizing ys with
  | nil =>
    cases Except.ok.inj run
    exact absurd member (by simp)
  | cons x xs ih =>
    simp only [collect] at run
    split at run
    · exact absurd run (by simp)
    · obtain ⟨z, inside, found⟩ := ih run member
      exact ⟨z, List.mem_cons_of_mem x inside, found⟩
    · rename_i first visited
      split at run
      · exact absurd run (by simp)
      · rename_i rest later
        cases Except.ok.inj run
        rcases List.mem_cons.mp member with same | inRest
        · exact ⟨x, List.mem_cons_self, by rw [same]; exact visited⟩
        · obtain ⟨z, inside, found⟩ := ih later inRest
          exact ⟨z, List.mem_cons_of_mem x inside, found⟩

/-- A loop completes if and only if none of its elements stops it. -/
theorem collect_completes_iff {visit : α → Except ε (Option β)} {xs : List α} :
    (∃ ys, collect visit xs = .ok ys) ↔ ∀ x ∈ xs, ∀ stop, visit x ≠ .error stop := by
  induction xs with
  | nil => exact ⟨fun _ x inside => absurd inside (by simp), fun _ => ⟨[], rfl⟩⟩
  | cons x xs ih =>
    rw [List.forall_mem_cons, ← ih]
    cases visited : visit x with
    | error stop => simp [collect, visited]
    | ok pushed =>
      cases rest : collect visit xs with
      | error stop => cases pushed <;> simp [collect, visited, rest]
      | ok ys => cases pushed <;> simp [collect, visited, rest]

theorem collect_pushes {visit : α → Except ε (Option β)} {xs : List α} {ys : List β} {x : α} {y : β}
    (run : collect visit xs = .ok ys) (inside : x ∈ xs) (visited : visit x = .ok (some y)) : y ∈ ys := by
  induction xs generalizing ys with
  | nil => exact absurd inside (by simp)
  | cons z xs ih =>
    simp only [collect] at run
    rcases List.mem_cons.mp inside with rfl | later
    · rw [visited] at run
      cases rest : collect visit xs with
      | error stop => simp [rest] at run
      | ok ys' =>
        simp only [rest, Except.ok.injEq] at run
        exact run ▸ List.mem_cons_self
    · cases first : visit z with
      | error stop => simp [first] at run
      | ok pushed =>
        cases pushed with
        | none =>
          simp only [first] at run
          exact ih run later
        | some head =>
          cases rest : collect visit xs with
          | error stop => simp [first, rest] at run
          | ok ys' =>
            simp only [first, rest, Except.ok.injEq] at run
            exact run ▸ List.mem_cons_of_mem head (ih rest later)

theorem collect_skip {visit : α → Except ε (Option β)} {xs : List α}
    (skips : ∀ x ∈ xs, visit x = .ok none) : collect visit xs = .ok [] := by
  induction xs with
  | nil => rfl
  | cons x xs ih =>
    simp only [collect, skips x List.mem_cons_self]
    exact ih fun z inside => skips z (List.mem_cons_of_mem x inside)

/-- A loop that never fails and pushes a result for its last element. -/
theorem collect_concat {visit : α → Except ε (Option β)} {xs : List α} {x : α} {y : β}
    (total : ∀ z ∈ xs, ∃ r, visit z = .ok r) (last : visit x = .ok (some y)) :
    ∃ ys, collect visit (xs ++ [x]) = .ok (ys ++ [y]) := by
  induction xs with
  | nil => exact ⟨[], by simp [collect, last]⟩
  | cons z xs ih =>
    obtain ⟨ys, rest⟩ := ih fun w inside => total w (List.mem_cons_of_mem z inside)
    obtain ⟨r, visited⟩ := total z List.mem_cons_self
    cases r with
    | none => exact ⟨ys, by simp only [List.cons_append, collect, visited, rest]⟩
    | some first => exact ⟨first :: ys, by simp only [List.cons_append, collect, visited, rest]⟩

end Collect
