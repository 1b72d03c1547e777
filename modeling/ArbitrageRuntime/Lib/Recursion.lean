import Mathlib.Tactic.Common

namespace Recursion

variable {α β : Type}

/-- The body of a recursive function, where `again` stands for the function itself. -/
abbrev Body (α β : Type) := (α → β) → α → β

/-- The body at `x` calls the function on no other arguments than those in `called`. -/
def CallsOnly (body : Body α β) (x : α) (called : α → Prop) : Prop :=
  ∀ again again' : α → β, (∀ y, called y → again y = again' y) → body again x = body again' x

theorem CallsOnly.mono {body : Body α β} {x : α} {called called' : α → Prop} (only : CallsOnly body x called)
    (inside : ∀ y, called y → called' y) : CallsOnly body x called' :=
  fun again again' same => only again again' fun y call => same y (inside y call)

/-- A call returns when all the calls that it makes return. A call that leads back to itself never does. -/
inductive Returns (body : Body α β) : α → β → Prop
  | intro {x : α} (called : α → Prop) (again : α → β) (only : CallsOnly body x called)
      (inner : ∀ y, called y → Returns body y (again y)) : Returns body x (body again x)

/-- A call returns one value only. -/
theorem Returns.unique {body : Body α β} {x : α} {r r' : β} (first : Returns body x r) (second : Returns body x r') :
    r = r' := by
  induction first generalizing r' with
  | @intro x called again only inner ih =>
    cases second with
    | intro called' again' only' inner' =>
      -- The two runs need not name the same set of calls, and both sets carry the result.
      classical
      let both : α → β := fun y => if called y then again y else again' y
      have left : body again x = body both x := only again both fun y call => (if_pos call).symm
      have right : body both x = body again' x := by
        refine only' both again' fun y call => ?_
        by_cases known : called y
        · rw [show both y = again y from if_pos known]
          exact ih y known (inner' y call)
        · exact if_neg known
      exact left.trans right

/-- The function with its calls unrolled, and `stuck` in place of the calls below the last level. -/
def unroll (body : Body α β) (stuck : α → β) : Nat → α → β
  | 0 => stuck
  | fuel + 1 => body (unroll body stuck fuel)

section

variable {body : Body α β} {size : α → Nat} (shrinks : ∀ x, CallsOnly body x fun y => size y < size x)

include shrinks

/-- Where every call shrinks its argument, levels above the size give the result whatever stands for
running out. -/
theorem unroll_enough {stuck stuck' : α → β} {fuel fuel' : Nat} {x : α} (enough : size x < fuel)
    (enough' : size x < fuel') : unroll body stuck fuel x = unroll body stuck' fuel' x := by
  induction fuel generalizing fuel' x with
  | zero => omega
  | succ fuel ih =>
    cases fuel' with
    | zero => omega
    | succ fuel' =>
      refine shrinks x _ _ fun y smaller => ?_
      exact ih (by omega) (by omega)

theorem unroll_eq {f : α → β} (solves : ∀ x, f x = body f x) {stuck : α → β} {fuel : Nat} {x : α}
    (enough : size x < fuel) : unroll body stuck fuel x = f x := by
  induction fuel generalizing x with
  | zero => omega
  | succ fuel ih =>
    rw [solves x]
    exact shrinks x _ _ fun y smaller => ih (by omega)

theorem returns {f : α → β} (solves : ∀ x, f x = body f x) (x : α) : Returns body x (f x) := by
  induction bound : size x using Nat.strongRecOn generalizing x with
  | _ n ih =>
    rw [solves x]
    exact .intro _ f (shrinks x) fun y smaller => ih (size y) (by omega) y rfl

end

/-- The recursion of a body terminates with the values of `f`: its calls shrink the argument, every call
returns, and the size of the argument bounds the nesting of the calls. -/
structure Terminates (body : Body α β) (size : α → Nat) (f : α → β) : Prop where
  shrinks : ∀ x, CallsOnly body x fun y => size y < size x
  returns : ∀ x r, Returns body x r ↔ r = f x
  nesting : ∀ x stuck fuel, size x < fuel → unroll body stuck fuel x = f x

theorem terminates {body : Body α β} {size : α → Nat} {f : α → β}
    (shrinks : ∀ x, CallsOnly body x fun y => size y < size x) (solves : ∀ x, f x = body f x) :
    Terminates body size f where
  shrinks := shrinks
  returns := by
    intro x r
    have returned := returns shrinks solves x
    constructor
    · intro other
      exact other.unique returned
    · intro same
      rw [same]
      exact returned
  nesting := fun _ _ _ enough => unroll_eq shrinks solves enough

end Recursion
