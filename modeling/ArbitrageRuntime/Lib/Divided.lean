import Mathlib.Data.List.Basic
import Mathlib.Data.String.Basic

namespace Divided

/-- The part before the first divider and the part behind it are told by the whole. -/
theorem append_cons_inj {α : Type} {divider : α} {front front' : List α} (undivided : divider ∉ front)
    (undivided' : divider ∉ front') {back back' : List α} :
    front ++ divider :: back = front' ++ divider :: back' ↔ front = front' ∧ back = back' := by
  induction front generalizing front' with
  | nil =>
    cases front' with
    | nil => simp
    | cons letter rest =>
      have other : divider ≠ letter := fun same => undivided' (same ▸ List.mem_cons_self)
      simp [other]
  | cons letter rest ih =>
    have other : letter ≠ divider := fun same => undivided (same ▸ List.mem_cons_self)
    cases front' with
    | nil => simp [other]
    | cons letter' rest' =>
      have shorter := ih (fun member => undivided (List.mem_cons_of_mem _ member))
        (fun member => undivided' (List.mem_cons_of_mem _ member))
      simp only [List.cons_append, List.cons.injEq, shorter, and_assoc]

/-- The same for texts, one divider being the only character of another text. -/
theorem text_inj {divider : Char} {bar front front' back back' : String} (single : bar.toList = [divider])
    (undivided : divider ∉ front.toList) (undivided' : divider ∉ front'.toList) :
    front ++ (bar ++ back) = front' ++ (bar ++ back') ↔ front = front' ∧ back = back' := by
  constructor
  · intro same
    have letters := congrArg String.toList same
    simp only [String.toList_append, single, List.singleton_append] at letters
    obtain ⟨fronts, backs⟩ := (append_cons_inj undivided undivided').mp letters
    exact ⟨String.toList_inj.mp fronts, String.toList_inj.mp backs⟩
  · rintro ⟨rfl, rfl⟩
    rfl

end Divided
