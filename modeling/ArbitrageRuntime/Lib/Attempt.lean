import Mathlib.Data.List.Basic

/-- A computation that gives a value, declines with nothing, or fails for good. -/
inductive Attempt (ε α : Type)
  | gives (value : α)
  | declines
  | fails (error : ε)
  deriving DecidableEq

namespace Attempt

variable {ε α β : Type}

def bind : Attempt ε α → (α → Attempt ε β) → Attempt ε β
  | .gives value, f => f value
  | .declines, _ => .declines
  | .fails error, _ => .fails error

instance : Monad (Attempt ε) where
  pure := .gives
  bind := bind

instance : LawfulMonad (Attempt ε) := LawfulMonad.mk' _
  (by
    intro α x
    cases x with
    | gives a => rfl
    | declines => rfl
    | fails error => rfl)
  (fun a f => rfl)
  (by
    intro α β γ x f g
    cases x with
    | gives a => rfl
    | declines => rfl
    | fails error => rfl)

/-- The second attempt is made when the first declines. -/
def orElse : Attempt ε α → (Unit → Attempt ε α) → Attempt ε α
  | .declines, other => other ()
  | x, _ => x

instance : OrElse (Attempt ε α) := ⟨orElse⟩

/-- A value that may be missing. -/
def ofOption : Option α → Attempt ε α
  | some value => .gives value
  | none => .declines

/-- A step that may fail and does not decline. -/
def ofExcept : Except ε α → Attempt ε α
  | .ok value => .gives value
  | .error error => .fails error

def require (condition : Prop) [Decidable condition] : Attempt ε Unit :=
  if condition then .gives () else .declines

/-- The first candidate that gives a value. A failure on the way there is a failure of the whole. -/
def first (visit : α → Attempt ε β) : List α → Attempt ε β
  | [] => .declines
  | x :: xs => visit x <|> first visit xs

@[simp] theorem gives_bind (a : α) (f : α → Attempt ε β) : (.gives a >>= f) = f a := rfl

@[simp] theorem declines_bind (f : α → Attempt ε β) : (.declines >>= f) = .declines := rfl

@[simp] theorem ofOption_some (a : α) : (ofOption (some a) : Attempt ε α) = .gives a := rfl

@[simp] theorem ofOption_none : (ofOption none : Attempt ε α) = .declines := rfl

@[simp] theorem ofExcept_ok (a : α) : (ofExcept (.ok a) : Attempt ε α) = .gives a := rfl

theorem require_pos {p : Prop} [Decidable p] (holds : p) : (require p : Attempt ε Unit) = .gives () := if_pos holds

theorem require_neg {p : Prop} [Decidable p] (fails : ¬ p) : (require p : Attempt ε Unit) = .declines := if_neg fails

@[simp] theorem declines_orElse (y : Attempt ε α) : (.declines <|> y) = y := rfl

@[simp] theorem gives_orElse (a : α) (y : Attempt ε α) : (.gives a <|> y) = .gives a := rfl

@[simp] theorem orElse_declines (x : Attempt ε α) : (x <|> (.declines : Attempt ε α)) = x := by
  cases x with
  | gives a => rfl
  | declines => rfl
  | fails error => rfl

@[simp] theorem map_declines (f : α → β) : f <$> (.declines : Attempt ε α) = .declines := rfl

def Fails (x : Attempt ε α) : Prop := ∃ error, x = .fails error

@[simp] theorem not_fails_pure (a : α) : ¬ Fails (pure a : Attempt ε α) := by
  rintro ⟨error, run⟩
  exact absurd run (by simp [pure])

@[simp] theorem not_fails_gives (a : α) : ¬ Fails (.gives a : Attempt ε α) := by simp [Fails]

@[simp] theorem not_fails_declines : ¬ Fails (.declines : Attempt ε α) := by simp [Fails]

@[simp] theorem fails_fails (error : ε) : Fails (.fails error : Attempt ε α) := ⟨error, rfl⟩

@[simp] theorem not_fails_ofOption (x : Option α) : ¬ Fails (ofOption x : Attempt ε α) := by
  cases x with
  | none => simp [ofOption]
  | some a => simp [ofOption]

@[simp] theorem not_fails_require (p : Prop) [Decidable p] : ¬ Fails (require p : Attempt ε Unit) := by
  unfold require
  split
  · exact not_fails_gives ()
  · exact not_fails_declines

@[simp] theorem fails_ofExcept {x : Except ε α} : Fails (ofExcept x) ↔ ∃ error, x = .error error := by
  cases x with
  | error error => simp [ofExcept]
  | ok a => simp [ofExcept]

theorem fails_bind {x : Attempt ε α} {f : α → Attempt ε β} :
    Fails (x >>= f) ↔ Fails x ∨ ∃ a, x = .gives a ∧ Fails (f a) := by
  cases x with
  | gives a => simp [Bind.bind, bind]
  | declines => simp [Bind.bind, bind]
  | fails error => simp [Bind.bind, bind]

@[simp] theorem fails_ofOption_bind {x : Option α} {f : α → Attempt ε β} :
    Fails (ofOption x >>= f) ↔ ∃ a, x = some a ∧ Fails (f a) := by
  cases x with
  | none => simp [ofOption]
  | some a => simp [ofOption]

@[simp] theorem fails_ofExcept_bind {x : Except ε α} {f : α → Attempt ε β} :
    Fails (ofExcept x >>= f) ↔ (∃ error, x = .error error) ∨ ∃ a, x = .ok a ∧ Fails (f a) := by
  cases x with
  | error error => simp [ofExcept, fails_bind]
  | ok a => simp [ofExcept]

@[simp] theorem fails_require_bind {p : Prop} [Decidable p] {f : Unit → Attempt ε β} :
    Fails (require p >>= f) ↔ p ∧ Fails (f ()) := by
  by_cases holds : p
  · rw [require, if_pos holds]
    exact ⟨fun fails => ⟨holds, fails⟩, And.right⟩
  · rw [require, if_neg holds, fails_bind]
    simp [holds]

@[simp] theorem fails_map {x : Attempt ε α} {f : α → β} : Fails (f <$> x) ↔ Fails x := by
  rw [← bind_pure_comp, fails_bind]
  simp

theorem bind_eq_gives {x : Attempt ε α} {f : α → Attempt ε β} {b : β} :
    x >>= f = .gives b ↔ ∃ a, x = .gives a ∧ f a = .gives b := by
  cases x with
  | gives a => simp [Bind.bind, bind]
  | declines => simp [Bind.bind, bind]
  | fails error => simp [Bind.bind, bind]

@[simp] theorem map_eq_gives {x : Attempt ε α} {f : α → β} {b : β} :
    f <$> x = .gives b ↔ ∃ a, x = .gives a ∧ f a = b := by
  rw [← bind_pure_comp, bind_eq_gives]
  simp [pure]

@[simp] theorem map_eq_declines {x : Attempt ε α} {f : α → β} : f <$> x = .declines ↔ x = .declines := by
  cases x with
  | gives a => simp [Functor.map, bind]
  | declines => simp [Functor.map, bind]
  | fails error => simp [Functor.map, bind]

theorem ofOption_bind {x : Option α} {f : α → Option β} :
    (ofOption (x >>= f) : Attempt ε β) = ofOption x >>= fun a => ofOption (f a) := by
  cases x with
  | none => rfl
  | some a => rfl

@[simp] theorem ofOption_eq_gives {x : Option α} {a : α} : (ofOption x : Attempt ε α) = .gives a ↔ x = some a := by
  cases x with
  | none => simp [ofOption]
  | some b => simp [ofOption]

@[simp] theorem ofOption_eq_declines {x : Option α} : (ofOption x : Attempt ε α) = .declines ↔ x = none := by
  cases x with
  | none => simp [ofOption]
  | some b => simp [ofOption]

theorem fails_orElse {x y : Attempt ε α} : Fails (x <|> y) ↔ Fails x ∨ x = .declines ∧ Fails y := by
  cases x with
  | gives a =>
    change Fails (.gives a) ↔ _
    simp
  | declines =>
    change Fails y ↔ _
    simp
  | fails error =>
    change Fails (.fails error) ↔ _
    simp

theorem orElse_eq_gives {x y : Attempt ε α} {a : α} :
    (x <|> y) = .gives a ↔ x = .gives a ∨ x = .declines ∧ y = .gives a := by
  cases x with
  | gives b =>
    change Attempt.gives b = _ ↔ _
    simp
  | declines =>
    change y = _ ↔ _
    simp
  | fails error =>
    change Attempt.fails error = _ ↔ _
    simp

theorem orElse_eq_declines {x y : Attempt ε α} : (x <|> y) = .declines ↔ x = .declines ∧ y = .declines := by
  cases x with
  | gives b =>
    change Attempt.gives b = _ ↔ _
    simp
  | declines =>
    change y = _ ↔ _
    simp
  | fails error =>
    change Attempt.fails error = _ ↔ _
    simp

theorem first_eq_declines {visit : α → Attempt ε β} {xs : List α} :
    first visit xs = .declines ↔ ∀ x ∈ xs, visit x = .declines := by
  induction xs with
  | nil => simp [first]
  | cons x xs ih => rw [first, orElse_eq_declines, ih, List.forall_mem_cons]

/-- The value of a search comes from one candidate, after the ones before it have all declined. -/
theorem first_eq_gives {visit : α → Attempt ε β} {xs : List α} {b : β} :
    first visit xs = .gives b ↔ ∃ before x after, xs = before ++ x :: after ∧
      (∀ y ∈ before, visit y = .declines) ∧ visit x = .gives b := by
  induction xs with
  | nil => simp [first]
  | cons z zs ih =>
    rw [first, orElse_eq_gives, ih]
    constructor
    · rintro (here | ⟨declines, before, x, after, rfl, declined, gives⟩)
      · exact ⟨[], z, zs, rfl, by simp, here⟩
      · exact ⟨z :: before, x, after, rfl, List.forall_mem_cons.mpr ⟨declines, declined⟩, gives⟩
    · rintro ⟨before, x, after, split, declined, gives⟩
      cases before with
      | nil =>
        cases split
        exact .inl gives
      | cons w before =>
        cases split
        obtain ⟨declines, declined⟩ := List.forall_mem_cons.mp declined
        exact .inr ⟨declines, before, x, after, rfl, declined, gives⟩

/-- A search fails at one candidate, after the ones before it have all declined. -/
theorem fails_first {visit : α → Attempt ε β} {xs : List α} :
    Fails (first visit xs) ↔ ∃ before x after, xs = before ++ x :: after ∧ (∀ y ∈ before, visit y = .declines) ∧
      Fails (visit x) := by
  induction xs with
  | nil => simp [first]
  | cons z zs ih =>
    rw [first, fails_orElse, ih]
    constructor
    · rintro (here | ⟨declines, before, x, after, rfl, declined, fails⟩)
      · exact ⟨[], z, zs, rfl, by simp, here⟩
      · exact ⟨z :: before, x, after, rfl, List.forall_mem_cons.mpr ⟨declines, declined⟩, fails⟩
    · rintro ⟨before, x, after, split, declined, fails⟩
      cases before with
      | nil =>
        cases split
        exact .inl fails
      | cons w before =>
        cases split
        obtain ⟨declines, declined⟩ := List.forall_mem_cons.mp declined
        exact .inr ⟨declines, before, x, after, rfl, declined, fails⟩

/-- Candidates that are declined for their shape alone can be left out beforehand. -/
theorem first_filterMap {γ : Type} {visit : α → Attempt ε β} {select : α → Option γ} {inner : γ → Attempt ε β}
    {xs : List α} (step : ∀ x ∈ xs, visit x = ofOption (select x) >>= inner) :
    first visit xs = first inner (xs.filterMap select) := by
  induction xs with
  | nil => rfl
  | cons x xs ih =>
    obtain ⟨head, tail⟩ := List.forall_mem_cons.mp step
    rw [first, head, ih tail]
    cases chosen : select x with
    | none =>
      rw [List.filterMap_cons_none chosen]
      rfl
    | some y =>
      rw [List.filterMap_cons_some chosen]
      rfl

theorem first_map {γ : Type} {visit : α → Attempt ε β} {f : γ → α} {xs : List γ} :
    first visit (xs.map f) = first (fun x => visit (f x)) xs := by
  induction xs with
  | nil => rfl
  | cons x xs ih => rw [List.map_cons, first, first, ih]

theorem first_congr {visit visit' : α → Attempt ε β} {xs : List α} (same : ∀ x ∈ xs, visit x = visit' x) :
    first visit xs = first visit' xs := by
  induction xs with
  | nil => rfl
  | cons x xs ih =>
    rw [first, first, same x List.mem_cons_self, ih fun y inside => same y (List.mem_cons_of_mem x inside)]

end Attempt
