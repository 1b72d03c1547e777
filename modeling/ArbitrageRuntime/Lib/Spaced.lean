import Mathlib.Data.List.Count
import Mathlib.Data.List.DropRight
import Mathlib.Data.List.Infix
import Mathlib.Data.List.Induction

namespace List

variable {α : Type} {n : Nat} {xs : List α}

/-- No element is among the last ones before it. -/
def Spaced (n : Nat) (xs : List α) : Prop := ∀ front x, front ++ [x] <+: xs → x ∉ front.rtake n

theorem spaced_nil : Spaced n ([] : List α) := by
  intro front x inside
  exact absurd (prefix_nil.mp inside) (by simp)

theorem Spaced.of_prefix {front : List α} (spaced : Spaced n xs) (inside : front <+: xs) : Spaced n front :=
  fun earlier x ends => spaced earlier x (ends.trans inside)

theorem Spaced.concat (spaced : Spaced n xs) {x : α} (fresh : x ∉ xs.rtake n) : Spaced n (xs ++ [x]) := by
  intro front y inside
  rcases prefix_concat_iff.mp inside with whole | earlier
  · obtain ⟨rfl, same⟩ := append_inj' whole rfl
    cases singleton_inj.mp same
    exact fresh
  · exact spaced front y earlier

/-- Of each element there is at most one in so many places and one more. -/
theorem Spaced.count_le [DecidableEq α] (spaced : Spaced n xs) (x : α) : xs.count x * (n + 1) ≤ xs.length + n := by
  induction length : xs.length using Nat.strong_induction_on generalizing xs with
  | _ size ih =>
    rcases eq_nil_or_concat xs with rfl | ⟨front, last, rfl⟩
    · simp
    rw [concat_eq_append] at *
    have size : size = front.length + 1 := by simp [← length]
    by_cases same : last = x
    · subst same
      -- The last places before it are free of it, and the induction is over what is in front of them.
      have fresh : last ∉ front.drop (front.length - n) := spaced front last prefix_rfl
      have inside : front.take (front.length - n) <+: front ++ [last] :=
        ( take_prefix _ _).trans (prefix_append _ _)
      have earlier := ih _ (by rw [length_take]; omega) (spaced.of_prefix inside) rfl
      have count : front.count last = (front.take (front.length - n)).count last := by
        conv_lhs => rw [← take_append_drop (front.length - n) front, count_append, count_eq_zero_of_not_mem fresh]
        rfl
      rw [length_take] at earlier
      rw [count_append, count_singleton_self, count, Nat.add_mul]
      by_cases short : front.length ≤ n
      · have none : (front.take (front.length - n)).count last = 0 := by simp [Nat.sub_eq_zero_of_le short]
        rw [none]
        omega
      · omega
    · have earlier := ih _ (by omega) (spaced.of_prefix (prefix_append front [last])) rfl
      rw [count_append, count_singleton, if_neg (by simpa using same), Nat.add_zero]
      omega

end List
