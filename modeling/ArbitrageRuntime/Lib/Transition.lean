import Mathlib.Data.List.Infix
import Mathlib.Data.List.Induction

namespace Transition

variable {State Label : Type}

/-- A system in steps: a step may not be possible in a state. -/
abbrev System (State Label : Type) := State → Label → Option State

namespace System

variable (system : System State Label)

/-- The state behind a sequence of steps, if all of them are possible. -/
def after (start : State) (labels : List Label) : Option State := labels.foldlM system start

variable {system}

@[simp] theorem after_nil (start : State) : system.after start [] = some start := rfl

theorem after_cons {start next : State} {label : Label} (step : system start label = some next) (labels : List Label) :
    system.after start (label :: labels) = system.after next labels := by
  unfold after
  rw [List.foldlM_cons, step]
  rfl

theorem after_concat (start : State) (labels : List Label) (label : Label) :
    system.after start (labels ++ [label]) = (system.after start labels).bind fun state => system state label := by
  unfold after
  rw [List.foldlM_append]
  simp only [List.foldlM_cons, List.foldlM_nil, bind_pure]
  rfl

theorem after_append {start middle : State} {labels : List Label} (reached : system.after start labels = some middle)
    (labels' : List Label) : system.after start (labels ++ labels') = system.after middle labels' := by
  unfold after at reached ⊢
  rw [List.foldlM_append, reached]
  rfl

theorem after_concat_eq_some {start last : State} {labels : List Label} {label : Label} :
    system.after start (labels ++ [label]) = some last ↔
      ∃ state, system.after start labels = some state ∧ system state label = some last := by
  rw [after_concat, Option.bind_eq_some_iff]

/-- Some steps lead from one state to another. -/
def Leads (system : System State Label) (start last : State) : Prop := ∃ labels, system.after start labels = some last

theorem Leads.refl (state : State) : Leads system state state := ⟨[], rfl⟩

theorem Leads.step {start next : State} (label : Label) (step : system start label = some next) :
    Leads system start next := ⟨[label], by rw [after_cons step, after_nil]⟩

theorem Leads.trans {start middle last : State} (first : Leads system start middle)
    (second : Leads system middle last) : Leads system start last := by
  obtain ⟨labels, reached⟩ := first
  obtain ⟨labels', reached'⟩ := second
  exact ⟨labels ++ labels', (after_append reached labels').trans reached'⟩

/-- What the steps keep holds in every state that is reached. -/
theorem invariant {holds : State → Prop} (keeps : ∀ state label next, holds state → system state label = some next →
    holds next) {start last : State} {labels : List Label} (first : holds start)
    (reached : system.after start labels = some last) : holds last := by
  induction labels using List.reverseRecOn generalizing last with
  | nil =>
    cases Option.some.inj reached
    exact first
  | append_singleton labels label ih =>
    obtain ⟨state, before, step⟩ := after_concat_eq_some.mp reached
    exact keeps state label last (ih before) step

/-- Something holds of every step of a sequence. -/
def EveryStep (system : System State Label) (property : State → Label → State → Prop) (start : State)
    (labels : List Label) : Prop :=
  ∀ before label state next, before ++ [label] <+: labels → system.after start before = some state →
    system state label = some next → property state label next

variable {property : State → Label → State → Prop} {start : State}

theorem everyStep_nil : EveryStep system property start [] := by
  intro before label state next front
  exact absurd (List.prefix_nil.mp front) (by simp)

theorem EveryStep.of_prefix {labels front : List Label} (every : EveryStep system property start labels)
    (inside : front <+: labels) : EveryStep system property start front := by
  intro before label state next ends
  exact every before label state next (ends.trans inside)

theorem everyStep_congr {property' : State → Label → State → Prop}
    (same : ∀ state label next, system state label = some next → (property state label next ↔ property' state label next))
    (labels : List Label) : EveryStep system property start labels ↔ EveryStep system property' start labels := by
  constructor
  · intro every before label state next front reaches steps
    exact (same state label next steps).mp (every before label state next front reaches steps)
  · intro every before label state next front reaches steps
    exact (same state label next steps).mpr (every before label state next front reaches steps)

/-- One step more is one step more to check. -/
theorem everyStep_concat {labels : List Label} {label : Label} {state next : State}
    (reached : system.after start labels = some state) (step : system state label = some next) :
    EveryStep system property start (labels ++ [label]) ↔
      EveryStep system property start labels ∧ property state label next := by
  constructor
  · intro every
    exact ⟨every.of_prefix (List.prefix_append _ _), every labels label state next (List.prefix_refl _) reached step⟩
  · rintro ⟨every, last⟩ before other earlier later front reaches steps
    rcases List.prefix_concat_iff.mp front with whole | inside
    · obtain ⟨rfl, same⟩ := List.append_inj' whole rfl
      cases List.singleton_inj.mp same
      cases Option.some.inj (reached.symm.trans reaches)
      cases Option.some.inj (step.symm.trans steps)
      exact last
    · exact every before other earlier later inside reaches steps

theorem EveryStep.append {middle : State} {labels labels' : List Label} (first : EveryStep system property start labels)
    (reached : system.after start labels = some middle) (second : EveryStep system property middle labels') :
    EveryStep system property start (labels ++ labels') := by
  intro before label state next front reaches
  rcases List.prefix_or_prefix_of_prefix front (List.prefix_append labels labels') with inside | ⟨rest, behind⟩
  · exact first before label state next inside reaches
  · rcases List.eq_nil_or_concat rest with rfl | ⟨rest, final, rfl⟩
    · rw [List.append_nil] at behind
      exact first before label state next (by rw [behind]) reaches
    · rw [List.concat_eq_append, ← List.append_assoc] at behind
      obtain ⟨rfl, same⟩ := List.append_inj' behind rfl
      cases List.singleton_inj.mp same
      rw [after_append reached] at reaches
      rw [List.append_assoc, List.prefix_append_right_inj] at front
      exact second rest label state next front reaches

/-- What the steps keep when each of them has the property holds in every state that is reached. -/
theorem EveryStep.invariant {holds : State → Prop} {last : State} {labels : List Label}
    (every : EveryStep system property start labels)
    (keeps : ∀ state label next, holds state → system state label = some next → property state label next → holds next)
    (first : holds start) (reached : system.after start labels = some last) : holds last := by
  induction labels using List.reverseRecOn generalizing last with
  | nil =>
    cases Option.some.inj reached
    exact first
  | append_singleton labels label ih =>
    obtain ⟨state, before, step⟩ := after_concat_eq_some.mp reached
    obtain ⟨earlier, current⟩ := (everyStep_concat before step).mp every
    exact keeps state label last (ih earlier before) step current

end System

end Transition
