import Mathlib.Data.List.Chain
import Mathlib.Order.BooleanAlgebra.Basic
import Mathlib.Order.Monotone.Basic

namespace Cascade

variable {α β : Type}

/-- A chain of `else if`: the value of the first test that holds. -/
def firstMatch : List ((α → Bool) × β) → β → α → β
  | [], otherwise, _ => otherwise
  | (test, value) :: rungs, otherwise, x => if test x then value else firstMatch rungs otherwise x

theorem firstMatch_mem (rungs : List ((α → Bool) × β)) (otherwise : β) (x : α) :
    firstMatch rungs otherwise x ∈ rungs.map Prod.snd ++ [otherwise] := by
  induction rungs with
  | nil => exact List.mem_singleton.mpr rfl
  | cons rung rungs ih =>
    obtain ⟨test, value⟩ := rung
    simp only [firstMatch]
    split
    · exact List.mem_cons_self
    · exact List.mem_cons_of_mem value ih

/-- The last value says that no test holds, where no test has it for its own. -/
theorem firstMatch_eq_otherwise_iff {rungs : List ((α → Bool) × β)} {otherwise : β}
    (own : ∀ rung ∈ rungs, rung.2 ≠ otherwise) (x : α) :
    firstMatch rungs otherwise x = otherwise ↔ ∀ rung ∈ rungs, rung.1 x = false := by
  induction rungs with
  | nil => simp [firstMatch]
  | cons rung rungs ih =>
    obtain ⟨test, value⟩ := rung
    have rest := ih fun rung inside => own rung (List.mem_cons_of_mem _ inside)
    simp only [firstMatch, List.forall_mem_cons]
    by_cases holds : test x = true
    · rw [if_pos holds]
      have differs : value ≠ otherwise := own _ List.mem_cons_self
      simp [differs, holds]
    · rw [if_neg holds, rest]
      simp [Bool.eq_false_iff.mpr holds]

variable [Preorder α] [Preorder β]

/-- A test that goes on holding when its argument grows. -/
def Upward (test : α → Bool) : Prop := ∀ ⦃x y⦄, x ≤ y → test x = true → test y = true

/-- Where the tests only go on holding and the values only fall from one to the next, a greater argument has no
smaller value. -/
theorem firstMatch_monotone {rungs : List ((α → Bool) × β)} {otherwise : β}
    (upward : ∀ rung ∈ rungs, Upward rung.1)
    (falling : (rungs.map Prod.snd ++ [otherwise]).Pairwise (· ≥ ·)) : Monotone (firstMatch rungs otherwise) := by
  induction rungs with
  | nil => exact monotone_const
  | cons rung rungs ih =>
    obtain ⟨test, value⟩ := rung
    obtain ⟨below, rest⟩ := List.pairwise_cons.mp falling
    have tail : Monotone (firstMatch rungs otherwise) :=
      ih (fun rung inside => upward rung (List.mem_cons_of_mem _ inside)) rest
    intro x y le
    simp only [firstMatch]
    by_cases atX : test x = true
    · have atY : test y = true := upward _ List.mem_cons_self le atX
      rw [if_pos atX, if_pos atY]
    · rw [if_neg atX]
      split
      · exact below _ (firstMatch_mem rungs otherwise x)
      · exact tail le

end Cascade
