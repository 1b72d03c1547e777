import ArbitrageRuntime.Lib.Interaction

namespace CallMachine

open Interaction

variable {σ Req : Type} {Rep : Req → Type} {ε Call : Type}

/-- A contract among others: the code of its entry points, which of its calls are static, and what
it sees when a call that it makes with a success flag fails. -/
structure Contract (σ : Type) {Req : Type} (Rep : Req → Type) (ε Call : Type) where
  body : Call → Prog σ Rep ε Unit
  static : Req → Bool
  refused : (r : Req) → Option (Rep r)

/-- One frame of the call stack: the contract waiting for a reply, with its storage when it was
entered and when it made the call, or foreign code with the storage before it. -/
inductive Frame (σ : Type) {Req : Type} (Rep : Req → Type) (ε Call : Type) : Type
  | own (call : Call) (entered : σ) (request : Req) (next : Rep request → Prog σ Rep ε Unit) (atCall : σ)
  | foreign (before : σ)

structure Machine (σ : Type) {Req : Type} (Rep : Req → Type) (ε Call : Type) where
  storage : σ
  stack : List (Frame σ Rep ε Call)

/-- Whether the code above the frame runs in a static call of the contract. -/
def Frame.isStatic (contract : Contract σ Rep ε Call) : Frame σ Rep ε Call → Bool
  | .own _ _ request _ _ => contract.static request
  | .foreign _ => false

/-- The machine after the code of a call has run up to where it gives control away. A revert takes
back all writes since the call was entered. -/
def afterRun (call : Call) (entered : σ) (below : List (Frame σ Rep ε Call)) :
    Outcome σ Rep ε Unit → Machine σ Rep ε Call
  | .returned _ s => ⟨s, below⟩
  | .reverted _ => ⟨entered, below⟩
  | .waits r next s => ⟨s, .own call entered r next s :: below⟩

/-- Everything that can happen next. Foreign code is in control: it calls the contract, answers the
call it is in, fails it, or calls and leaves other foreign code, whose failure takes back what
was written below it. Entry calls are restricted to the admissible ones. -/
inductive Step (contract : Contract σ Rep ε Call) (admissible : σ → Call → Prop) :
    Machine σ Rep ε Call → Machine σ Rep ε Call → Prop
  | enter {s stack call} : (∀ frame ∈ stack, frame.isStatic contract = false) → admissible s call →
      Step contract admissible ⟨s, stack⟩ (afterRun call s stack ((contract.body call).run s))
  | reply {s call entered request next atCall rest} (answer : Rep request) :
      Step contract admissible ⟨s, .own call entered request next atCall :: rest⟩
        (afterRun call entered rest ((next answer).run s))
  | refuse {s call entered request next atCall rest answer} : contract.refused request = some answer →
      Step contract admissible ⟨s, .own call entered request next atCall :: rest⟩
        (afterRun call entered rest ((next answer).run atCall))
  | revert {s call entered request next atCall rest} :
      Step contract admissible ⟨s, .own call entered request next atCall :: rest⟩ ⟨entered, rest⟩
  | foreignCall {s stack} : Step contract admissible ⟨s, stack⟩ ⟨s, .foreign s :: stack⟩
  | foreignReturn {s before rest} : Step contract admissible ⟨s, .foreign before :: rest⟩ ⟨s, rest⟩
  | foreignRevert {s before rest} : Step contract admissible ⟨s, .foreign before :: rest⟩ ⟨before, rest⟩

inductive Reach (contract : Contract σ Rep ε Call) (admissible : σ → Call → Prop) (initial : σ) :
    Machine σ Rep ε Call → Prop
  | start : Reach contract admissible initial ⟨initial, []⟩
  | next {m m'} : Reach contract admissible initial m → Step contract admissible m m' →
      Reach contract admissible initial m'

/-- A frame that has kept the invariant and will keep it when it goes on. -/
def Frame.Keeps (inv : σ → Prop) (asks : Call → σ → Req → Prop) : Frame σ Rep ε Call → Prop
  | .own call entered request next atCall => inv entered ∧ inv atCall ∧ asks call entered request ∧
      ∀ answer s, inv s → (next answer).Safe inv (asks call entered) (fun _ => inv) s
  | .foreign before => inv before

def Machine.Keeps (inv : σ → Prop) (asks : Call → σ → Req → Prop) (m : Machine σ Rep ε Call) : Prop :=
  inv m.storage ∧ ∀ frame ∈ m.stack, frame.Keeps inv asks

variable {contract : Contract σ Rep ε Call} {admissible : σ → Call → Prop} {inv : σ → Prop}
  {asks : Call → σ → Req → Prop}

theorem afterRun_keeps {call : Call} {entered s : σ} {below : List (Frame σ Rep ε Call)} {p : Prog σ Rep ε Unit}
    (enteredKept : inv entered) (belowKept : ∀ frame ∈ below, frame.Keeps inv asks)
    (safe : p.Safe inv (asks call entered) (fun _ => inv) s) :
    (afterRun call entered below (p.run s)).Keeps inv asks := by
  cases outcome : p.run s with
  | returned value s' => exact ⟨safe.returned outcome, belowKept⟩
  | reverted error => exact ⟨enteredKept, belowKept⟩
  | waits r next s' =>
    obtain ⟨asked, kept, goesOn⟩ := safe.waits outcome
    refine ⟨kept, fun frame member => ?_⟩
    rcases List.mem_cons.mp member with rfl | inside
    · exact ⟨enteredKept, kept, asked, goesOn⟩
    · exact belowKept frame inside

theorem Step.keeps (bodies : ∀ s call, inv s → admissible s call →
      (contract.body call).Safe inv (asks call s) (fun _ => inv) s)
    {m m' : Machine σ Rep ε Call} (step : Step contract admissible m m') (kept : m.Keeps inv asks) :
    m'.Keeps inv asks := by
  obtain ⟨storageKept, stackKept⟩ := kept
  cases step with
  | enter _ allowed => exact afterRun_keeps storageKept stackKept (bodies _ _ storageKept allowed)
  | reply answer =>
    obtain ⟨enteredKept, _, _, goesOn⟩ := stackKept _ List.mem_cons_self
    exact afterRun_keeps enteredKept (fun frame inside => stackKept frame (List.mem_cons_of_mem _ inside))
      (goesOn answer _ storageKept)
  | refuse _ =>
    obtain ⟨enteredKept, atCallKept, _, goesOn⟩ := stackKept _ List.mem_cons_self
    exact afterRun_keeps enteredKept (fun frame inside => stackKept frame (List.mem_cons_of_mem _ inside))
      (goesOn _ _ atCallKept)
  | revert =>
    obtain ⟨enteredKept, _⟩ := stackKept _ List.mem_cons_self
    exact ⟨enteredKept, fun frame inside => stackKept frame (List.mem_cons_of_mem _ inside)⟩
  | foreignCall =>
    refine ⟨storageKept, fun frame member => ?_⟩
    rcases List.mem_cons.mp member with rfl | inside
    · exact storageKept
    · exact stackKept frame inside
  | foreignReturn => exact ⟨storageKept, fun frame inside => stackKept frame (List.mem_cons_of_mem _ inside)⟩
  | foreignRevert =>
    exact ⟨stackKept _ List.mem_cons_self, fun frame inside => stackKept frame (List.mem_cons_of_mem _ inside)⟩

/-- The invariant rule: what every entry point keeps between its calls holds along every run, in
every frame of the stack. -/
theorem Reach.keeps {initial : σ} (bodies : ∀ s call, inv s → admissible s call →
      (contract.body call).Safe inv (asks call s) (fun _ => inv) s)
    (holds : inv initial) {m : Machine σ Rep ε Call} (reach : Reach contract admissible initial m) :
    m.Keeps inv asks := by
  induction reach with
  | start => exact ⟨holds, fun frame member => absurd member (by simp)⟩
  | next _ step ih => exact step.keeps bodies ih

end CallMachine
