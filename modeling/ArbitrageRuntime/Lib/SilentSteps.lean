import Mathlib.Data.List.Basic
import Mathlib.Order.Basic

namespace SilentSteps

variable {State Label Time : Type} [Preorder Time]

/-- A property of every step of a run and of the state that the step starts in. -/
def Along (step : State → Label → State) (holds : State → Label → Prop) : State → List Label → Prop
  | _, [] => True
  | state, label :: labels => holds state label ∧ Along step holds (step state label) labels

theorem along_true (step : State → Label → State) (state : State) (labels : List Label) :
    Along step (fun _ _ => True) state labels := by
  induction labels generalizing state with
  | nil => trivial
  | cons label labels ih => exact ⟨trivial, ih (step state label)⟩

/-- The run without its silent steps. -/
def erase (silent : Label → Bool) (labels : List Label) : List Label :=
  labels.filter fun label => !silent label

/-- A relation from a time on that a silent step keeps on its own side, and every other step on both sides, is kept by
the whole run against the run without its silent steps. -/
theorem related_erase (step : State → Label → State) (time : Label → Time) (silent : Label → Bool)
    (holds : State → Label → Prop) (Related : Time → State → State → Prop) {last : Time}
    (later : ∀ {now next state erased}, now ≤ next → Related now state erased → Related next state erased)
    (skips : ∀ {state erased label}, silent label = true → time label ≤ last → holds state label →
      Related (time label) state erased → Related (time label) (step state label) erased)
    (steps : ∀ {state erased label}, silent label = false → time label ≤ last → holds state label →
      Related (time label) state erased → Related (time label) (step state label) (step erased label))
    {labels : List Label} {state erased : State} {start : Time}
    (ordered : labels.Pairwise fun first second => time first ≤ time second)
    (within : ∀ label ∈ labels, start ≤ time label ∧ time label ≤ last) (bound : start ≤ last)
    (along : Along step holds state labels) (related : Related start state erased) :
    Related last (labels.foldl step state) ((erase silent labels).foldl step erased) := by
  induction labels generalizing state erased start with
  | nil => exact later bound related
  | cons label labels ih =>
    obtain ⟨apart, rest⟩ := List.pairwise_cons.mp ordered
    obtain ⟨here, there⟩ := along
    obtain ⟨began, ends⟩ := within label List.mem_cons_self
    have now := later began related
    have remaining : ∀ next ∈ labels, time label ≤ time next ∧ time next ≤ last := fun next inside =>
      ⟨apart next inside, (within next (List.mem_cons_of_mem label inside)).2⟩
    cases kind : silent label with
    | true =>
      have erasure : erase silent (label :: labels) = erase silent labels :=
        List.filter_cons_of_neg (by simp [kind])
      rw [List.foldl_cons, erasure]
      exact ih rest remaining ends there (skips kind ends here now)
    | false =>
      have erasure : erase silent (label :: labels) = label :: erase silent labels :=
        List.filter_cons_of_pos (by simp [kind])
      rw [List.foldl_cons, erasure, List.foldl_cons]
      exact ih rest remaining ends there (steps kind ends here now)

end SilentSteps
