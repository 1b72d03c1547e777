import ArbitrageRuntime.Lib.Lockstep

namespace Interaction

variable {σ κ Req : Type} {Rep : Req → Type} {ε α β : Type}

/-- Some requests are awaited: a mark of the storage must have moved when their answer comes back. -/
structure Awaiting (σ Req : Type) where
  mark : σ → Nat
  awaits : Req → Bool
  inv : (Nat → Prop) → σ → Prop
  /-- The invariant looks only at whether an awaited request is open at the present mark. -/
  ofOpen : ∀ {opens opens' : Nat → Prop} {s : σ}, (opens (mark s) → opens' (mark s)) → inv opens s → inv opens' s

/-- The marks that are open while the code waits for the request. -/
def Awaiting.whileAsked (rule : Awaiting σ Req) (opens : Nat → Prop) (r : Req) (s : σ) (n : Nat) : Prop :=
  opens n ∨ (rule.awaits r = true ∧ rule.mark s = n)

theorem Awaiting.inv_whileAsked {rule : Awaiting σ Req} {opens : Nat → Prop} {r : Req} {s : σ}
    (kept : rule.inv opens s) : rule.inv (rule.whileAsked opens r s) s :=
  rule.ofOpen Or.inl kept

namespace Prog

/-- The code with a register beside its storage that it does not touch. -/
def beside (κ : Type) : Prog σ Rep ε α → Prog (σ × κ) Rep ε α
  | .done value => .done value
  | .fail error => .fail error
  | .get next => .get fun t => (next t.1).beside κ
  | .set s next => .get fun t => .set (s, t.2) (next.beside κ)
  | .call r next => .call r fun reply => (next reply).beside κ

theorem beside_bind (p : Prog σ Rep ε α) (f : α → Prog σ Rep ε β) :
    (p >>= f).beside κ = p.beside κ >>= fun value => (f value).beside κ := by
  induction p with
  | done value => rfl
  | fail error => rfl
  | get next ih => exact congrArg Prog.get (funext fun t => ih t.1)
  | set s next ih => exact congrArg Prog.get (funext fun t => congrArg (Prog.set (s, t.2)) ih)
  | call r next ih => exact congrArg (Prog.call r) (funext ih)

theorem alike_beside (p : Prog σ Rep ε α) : p.Alike (fun s (t : σ × κ) => t.1 = s) (p.beside κ) := by
  induction p with
  | done value => exact alike_done
  | fail error => exact alike_fail
  | get next ih =>
    rintro s t rfl
    exact ih t.1 t.1 t rfl
  | set s' next ih =>
    rintro s t rfl
    exact ih s' (s', t.2) rfl
  | call r next ih => exact alike_call ih

section Awaiting

variable (rule : Awaiting σ Req)

/-- The code keeps the invariant between its calls, given that others do. -/
def Heeds (opens : Nat → Prop) (post : α → σ → Prop) : Prog σ Rep ε α → σ → Prop
  | .done value, s => post value s
  | .fail _, _ => True
  | .get next, s => (next s).Heeds opens post s
  | .set s next, _ => next.Heeds opens post s
  | .call r next, s => rule.inv (rule.whileAsked opens r s) s ∧
      ∀ reply s', rule.inv opens s' → (next reply).Heeds opens post s'

variable {rule} {opens : Nat → Prop} {post : α → σ → Prop} {after : β → σ → Prop} {s : σ}

theorem Heeds.bind {p : Prog σ Rep ε α} {f : α → Prog σ Rep ε β} (heeds : p.Heeds rule opens post s)
    (rest : ∀ value s', post value s' → (f value).Heeds rule opens after s') :
    (p >>= f).Heeds rule opens after s := by
  induction p generalizing s with
  | done value => exact rest value s heeds
  | fail error => trivial
  | get next ih => exact ih s heeds
  | set s' next ih => exact ih heeds
  | call r next ih => exact ⟨heeds.1, fun reply s' kept => ih reply (heeds.2 reply s' kept)⟩

end Awaiting

section Beside

variable {rule : Awaiting (σ × κ) Req} {opens : Nat → Prop} {post : α → σ × κ → Prop} {after : β → σ × κ → Prop}
  {t : σ × κ}

theorem Heeds.beside_bind {p : Prog σ Rep ε α} {f : α → Prog σ Rep ε β} (heeds : (p.beside κ).Heeds rule opens post t)
    (rest : ∀ value t', post value t' → ((f value).beside κ).Heeds rule opens after t') :
    ((p >>= f).beside κ).Heeds rule opens after t := by
  rw [Prog.beside_bind]
  exact heeds.bind rest

theorem Heeds.read_bind {f : σ → Prog σ Rep ε β} (rest : ((f t.1).beside κ).Heeds rule opens after t) :
    ((Prog.read >>= f).beside κ).Heeds rule opens after t := rest

theorem Heeds.refuse_bind {condition : Prop} [Decidable condition] {error : ε} {f : Unit → Prog σ Rep ε β}
    (rest : ¬ condition → ((f ()).beside κ).Heeds rule opens after t) :
    ((Prog.refuse condition error >>= f).beside κ).Heeds rule opens after t := by
  unfold Prog.refuse
  split
  · trivial
  · rename_i passes
    exact rest passes

/-- Code that writes nothing keeps the invariant. -/
theorem Quiet.heeds {p : Prog σ Rep ε α} {asks : Req → Prop} (quiet : p.Quiet asks) (kept : rule.inv opens t) :
    (p.beside κ).Heeds rule opens (fun _ => rule.inv opens) t := by
  induction p generalizing t with
  | done value => exact kept
  | fail error => trivial
  | get next ih => exact ih t.1 (quiet t.1) kept
  | set s next ih => exact quiet.elim
  | call r next ih =>
    exact ⟨rule.inv_whileAsked kept, fun reply t' kept' => ih reply (quiet.2 reply) kept'⟩

end Beside

end Prog

end Interaction

namespace CallMachine

open Interaction

variable {σ Req : Type} {Rep : Req → Type} {ε Call : Type}

section Counting

/-- The register counts the calls that have come to an end, and falls back with the storage when they
are taken back. -/
def Contract.counting (contract : Contract σ Rep ε Call) (counts : Call → Bool) :
    Contract (σ × Nat) Rep ε Call where
  body call := do
    (contract.body call).beside Nat
    let t ← Prog.read
    Prog.write (t.1, if counts call then t.2 + 1 else t.2)
  static := contract.static
  refused := contract.refused

/-- Counting changes nothing that the outside sees. -/
theorem alike_counting (contract : Contract σ Rep ε Call) (counts : Call → Bool) :
    contract.Alike (fun s (t : σ × Nat) => t.1 = s) id (contract.counting counts) where
  body call := by
    rw [← Prog.bind_unit (contract.body call)]
    refine (Prog.alike_beside _).bind fun _ => ?_
    rintro s t rfl
    exact .returned rfl
  static := rfl
  refused := rfl

/-- Every script can be counted along. -/
theorem play_counting {contract : Contract σ Rep ε Call} (counts : Call → Bool) {script : List (Move Rep Call)} {s : σ}
    {views : List (Seen Req ε)} {m : Machine σ Rep ε Call} (played : contract.play script ⟨s, []⟩ = some (views, m)) :
    ∃ n, (contract.counting counts).play script ⟨(s, 0), []⟩ = some (views, n) ∧ n.storage.1 = m.storage ∧
      n.stack.length = m.stack.length := by
  have runs := play_alike (alike_counting contract counts) script (m := ⟨s, []⟩) (n := ⟨(s, 0), []⟩) ⟨rfl, .nil⟩
  rw [played, map_map_id] at runs
  generalize (contract.counting counts).play script ⟨(s, 0), []⟩ = counted at runs ⊢
  cases runs with
  | @some _ run same =>
    obtain ⟨sameViews, storages, frames⟩ := same
    exact ⟨run.2, congrArg some (Prod.ext sameViews.symm rfl), storages, frames.length_eq.symm⟩

end Counting

section Runs

variable (rule : Awaiting σ Req)

def Frame.OpenAt (n : Nat) : Frame σ Rep ε Call → Prop
  | .own _ _ r _ atCall => rule.awaits r = true ∧ rule.mark atCall = n
  | .foreign _ => False

def opensIn (stack : List (Frame σ Rep ε Call)) (n : Nat) : Prop := ∃ frame ∈ stack, frame.OpenAt rule n

/-- What the storage held at each frame keeps the invariant for the frames below, and what waits will go
on keeping it. -/
def StackKept : List (Frame σ Rep ε Call) → Prop
  | [] => True
  | .own call entered r next atCall :: rest =>
    rule.inv (opensIn rule rest) entered ∧
      rule.inv (opensIn rule (.own call entered r next atCall :: rest)) atCall ∧
      (∀ reply s, rule.inv (opensIn rule rest) s →
        (next reply).Heeds rule (opensIn rule rest) (fun _ => rule.inv (opensIn rule rest)) s) ∧
      StackKept rest
  | .foreign before :: rest => rule.inv (opensIn rule rest) before ∧ StackKept rest

def Machine.Awaits (m : Machine σ Rep ε Call) : Prop :=
  rule.inv (opensIn rule m.stack) m.storage ∧ StackKept rule m.stack

/-- Awaited requests are answered only after the mark has moved. -/
def heard : Move Rep Call → Machine σ Rep ε Call → Bool
  | .reply _, ⟨s, .own _ _ r _ atCall :: _⟩ => !rule.awaits r || decide (rule.mark atCall < rule.mark s)
  | _, _ => true

variable {rule} {contract : Contract σ Rep ε Call}

theorem afterRun_awaits {call : Call} {entered s : σ} {below : List (Frame σ Rep ε Call)} {p : Prog σ Rep ε Unit}
    (enteredKept : rule.inv (opensIn rule below) entered) (belowKept : StackKept rule below)
    (heeds : p.Heeds rule (opensIn rule below) (fun _ => rule.inv (opensIn rule below)) s) :
    (afterRun call entered below (p.run s)).Awaits rule := by
  induction p generalizing s with
  | done value => exact ⟨heeds, belowKept⟩
  | fail error => exact ⟨enteredKept, belowKept⟩
  | get next ih => exact ih s heeds
  | set s' next ih => exact ih heeds
  | call r next ih =>
    obtain ⟨asked, goesOn⟩ := heeds
    have atCall : rule.inv (opensIn rule (.own call entered r next s :: below)) s := by
      refine rule.ofOpen ?_ asked
      rintro (⟨frame, inside, isOpen⟩ | self)
      · exact ⟨frame, List.mem_cons_of_mem _ inside, isOpen⟩
      · exact ⟨_, List.mem_cons_self, self⟩
    exact ⟨atCall, enteredKept, atCall, goesOn, belowKept⟩

/-- The frame that is answered was not the one that kept the invariant. -/
theorem inv_below {call : Call} {entered atCall s : σ} {r : Req} {next : Rep r → Prog σ Rep ε Unit}
    {rest : List (Frame σ Rep ε Call)} (kept : rule.inv (opensIn rule (.own call entered r next atCall :: rest)) s)
    (moved : rule.awaits r = true → rule.mark atCall ≠ rule.mark s) : rule.inv (opensIn rule rest) s := by
  refine rule.ofOpen ?_ kept
  rintro ⟨frame, member, isOpen⟩
  rcases List.mem_cons.mp member with rfl | inside
  · exact absurd isOpen.2 (moved isOpen.1)
  · exact ⟨frame, inside, isOpen⟩

theorem inv_foreign {before s : σ} {rest : List (Frame σ Rep ε Call)}
    (kept : rule.inv (opensIn rule (.foreign before :: rest)) s) : rule.inv (opensIn rule rest) s := by
  refine rule.ofOpen ?_ kept
  rintro ⟨frame, member, isOpen⟩
  rcases List.mem_cons.mp member with rfl | inside
  · exact isOpen.elim
  · exact ⟨frame, inside, isOpen⟩

theorem inv_push {frame : Frame σ Rep ε Call} {s : σ} {rest : List (Frame σ Rep ε Call)}
    (kept : rule.inv (opensIn rule rest) s) : rule.inv (opensIn rule (frame :: rest)) s :=
  rule.ofOpen (fun ⟨other, inside, isOpen⟩ => ⟨other, List.mem_cons_of_mem _ inside, isOpen⟩) kept

theorem move_awaits (bodies : ∀ opens call s, rule.inv opens s →
      (contract.body call).Heeds rule opens (fun _ => rule.inv opens) s)
    (refusable : ∀ r answer, contract.refused r = some answer → rule.awaits r = false)
    {move : Move Rep Call} {m : Machine σ Rep ε Call} {result : Seen Req ε × Machine σ Rep ε Call}
    (moved : Moved contract move m result) (hears : heard rule move m = true) (kept : m.Awaits rule) :
    result.2.Awaits rule := by
  obtain ⟨storageKept, stackKept⟩ := kept
  cases moved with
  | enter _ => exact afterRun_awaits storageKept stackKept (bodies _ _ _ storageKept)
  | @reply answer s call entered r next atCall rest =>
    obtain ⟨enteredKept, _, goesOn, restKept⟩ := stackKept
    have below : rule.inv (opensIn rule rest) s := by
      refine inv_below storageKept fun awaited => ?_
      simp only [heard, awaited, Bool.not_true, Bool.false_or, decide_eq_true_eq] at hears
      exact Nat.ne_of_lt hears
    exact afterRun_awaits enteredKept restKept (goesOn _ s below)
  | @refuse s call entered r next atCall rest answer refused =>
    obtain ⟨enteredKept, atCallKept, goesOn, restKept⟩ := stackKept
    have below : rule.inv (opensIn rule rest) atCall := by
      refine inv_below atCallKept fun awaited => ?_
      rw [refusable r answer refused] at awaited
      exact absurd awaited (by simp)
    exact afterRun_awaits enteredKept restKept (goesOn _ atCall below)
  | revert =>
    obtain ⟨enteredKept, _, _, restKept⟩ := stackKept
    exact ⟨enteredKept, restKept⟩
  | foreignCall => exact ⟨inv_push storageKept, storageKept, stackKept⟩
  | foreignReturn => exact ⟨inv_foreign storageKept, stackKept.2⟩
  | foreignRevert => exact ⟨stackKept.1, stackKept.2⟩

/-- Whether every move of a script is allowed where it is made. -/
def Contract.along (contract : Contract σ Rep ε Call) (allowed : Move Rep Call → Machine σ Rep ε Call → Bool) :
    List (Move Rep Call) → Machine σ Rep ε Call → Bool
  | [], _ => true
  | move :: script, m => allowed move m &&
      match contract.move move m with
      | some (_, m') => contract.along allowed script m'
      | none => true

/-- The awaiting rule: in a script that answers awaited requests only after the mark has moved, the
invariant holds in every state reached. -/
theorem play_awaits (bodies : ∀ opens call s, rule.inv opens s →
      (contract.body call).Heeds rule opens (fun _ => rule.inv opens) s)
    (refusable : ∀ r answer, contract.refused r = some answer → rule.awaits r = false)
    {script : List (Move Rep Call)} {m m' : Machine σ Rep ε Call} {views : List (Seen Req ε)}
    (played : contract.play script m = some (views, m')) (hears : contract.along (heard rule) script m = true)
    (kept : m.Awaits rule) : m'.Awaits rule := by
  induction script generalizing m views with
  | nil =>
    cases Option.some.inj played
    exact kept
  | cons move script ih =>
    obtain ⟨⟨view, middle⟩, moved, rest⟩ := Option.bind_eq_some_iff.mp played
    obtain ⟨⟨tail, last⟩, restPlayed, same⟩ := Option.bind_eq_some_iff.mp rest
    cases Option.some.inj same
    simp only [Contract.along, moved, Bool.and_eq_true] at hears
    exact ih restPlayed hears.2 (move_awaits bodies refusable (moved_of_move moved) hears.1 kept)

end Runs

end CallMachine
