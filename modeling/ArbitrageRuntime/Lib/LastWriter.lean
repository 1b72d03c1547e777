import Mathlib.Data.List.Induction

namespace LastWriter

variable {Writer Value : Type}

/-- The value behind a sequence of writers, some of which leave it alone. -/
def value (set : Writer → Option Value) (initial : Value) (writes : List Writer) : Value :=
  writes.foldl (fun held writer => (set writer).getD held) initial

/-- The last writer that sets the value has set it to what is held, or nobody has set it. -/
def Holds (set : Writer → Option Value) (initial : Value) (writes : List Writer) (held : Value) : Prop :=
  (∃ before writer after, writes = before ++ writer :: after ∧ set writer = some held ∧ ∀ later ∈ after, set later = none) ∨
    (∀ writer ∈ writes, set writer = none) ∧ held = initial

theorem value_concat (set : Writer → Option Value) (initial : Value) (writes : List Writer) (writer : Writer) :
    value set initial (writes ++ [writer]) = (set writer).getD (value set initial writes) := by
  unfold value
  rw [List.foldl_append]
  rfl

theorem value_append_of_none {set : Writer → Option Value} (initial : Value) (writes : List Writer) {after : List Writer}
    (silent : ∀ later ∈ after, set later = none) : value set initial (writes ++ after) = value set initial writes := by
  induction after using List.reverseRecOn with
  | nil => rw [List.append_nil]
  | append_singleton after last ih =>
    have earlier := ih fun later inside => silent later (List.mem_append_left _ inside)
    have none := silent last (List.mem_append_right _ List.mem_cons_self)
    rw [← List.append_assoc, value_concat, none, Option.getD_none, earlier]

theorem holds_iff {set : Writer → Option Value} {initial held : Value} {writes : List Writer} :
    Holds set initial writes held ↔ held = value set initial writes := by
  constructor
  · rintro (⟨before, writer, after, rfl, sets, silent⟩ | ⟨silent, rfl⟩)
    · rw [List.append_cons, value_append_of_none initial _ silent, value_concat, sets, Option.getD_some]
    · have unset := value_append_of_none held [] silent
      exact unset.symm
  · rintro rfl
    induction writes using List.reverseRecOn with
    | nil => exact Or.inr ⟨by simp, rfl⟩
    | append_singleton writes last ih =>
      rw [value_concat]
      cases sets : set last with
      | some value => exact Or.inl ⟨writes, last, [], rfl, sets, by simp⟩
      | none =>
        rcases ih with ⟨before, writer, after, split, sets', silent⟩ | ⟨silent, initially⟩
        · refine Or.inl ⟨before, writer, after ++ [last], by rw [split]; simp, sets', ?_⟩
          intro later inside
          rcases List.mem_append.mp inside with earlier | final
          · exact silent later earlier
          · rw [List.mem_singleton.mp final, sets]
        · refine Or.inr ⟨?_, initially⟩
          intro writer inside
          rcases List.mem_append.mp inside with earlier | final
          · exact silent writer earlier
          · rw [List.mem_singleton.mp final, sets]

end LastWriter
