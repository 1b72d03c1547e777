import Mathlib.Logic.Basic

namespace Interaction

variable {σ Req : Type} {Rep : Req → Type} {ε α β : Type}

/-- The code of one contract: it reads and writes its own storage, calls other contracts and waits
for their reply, and ends with a value or by reverting. -/
inductive Prog (σ : Type) {Req : Type} (Rep : Req → Type) (ε α : Type) : Type
  | done (value : α)
  | fail (error : ε)
  | get (next : σ → Prog σ Rep ε α)
  | set (storage : σ) (next : Prog σ Rep ε α)
  | call (request : Req) (next : Rep request → Prog σ Rep ε α)

namespace Prog

def bind : Prog σ Rep ε α → (α → Prog σ Rep ε β) → Prog σ Rep ε β
  | .done value, f => f value
  | .fail error, _ => .fail error
  | .get next, f => .get fun s => (next s).bind f
  | .set s next, f => .set s (next.bind f)
  | .call r next, f => .call r fun reply => (next reply).bind f

instance : Monad (Prog σ Rep ε) where
  pure := .done
  bind := Prog.bind

def read : Prog σ Rep ε σ := .get .done

def write (storage : σ) : Prog σ Rep ε Unit := .set storage (.done ())

/-- `if (condition) revert Error();` -/
def refuse (condition : Prop) [Decidable condition] (error : ε) : Prog σ Rep ε Unit :=
  if condition then .fail error else .done ()

theorem bind_assoc {γ : Type} (p : Prog σ Rep ε α) (f : α → Prog σ Rep ε β) (g : β → Prog σ Rep ε γ) :
    (p >>= f) >>= g = p >>= fun value => f value >>= g := by
  induction p with
  | done value => rfl
  | fail error => rfl
  | get next ih => exact congrArg Prog.get (funext ih)
  | set s next ih => exact congrArg (Prog.set s) ih
  | call r next ih => exact congrArg (Prog.call r) (funext ih)

theorem done_bind (value : α) (f : α → Prog σ Rep ε β) : (.done value : Prog σ Rep ε α) >>= f = f value := rfl

theorem bind_unit (p : Prog σ Rep ε Unit) : (p >>= fun _ => .done ()) = p := by
  induction p with
  | done value => rfl
  | fail error => rfl
  | get next ih => exact congrArg Prog.get (funext ih)
  | set s next ih => exact congrArg (Prog.set s) ih
  | call r next ih => exact congrArg (Prog.call r) (funext ih)

end Prog

/-- How the code gives control away: it returns, reverts, or waits for a reply. -/
inductive Outcome (σ : Type) {Req : Type} (Rep : Req → Type) (ε α : Type) : Type
  | returned (value : α) (storage : σ)
  | reverted (error : ε)
  | waits (request : Req) (next : Rep request → Prog σ Rep ε α) (storage : σ)

namespace Prog

/-- Run up to the next point where control is given away. -/
def run : Prog σ Rep ε α → σ → Outcome σ Rep ε α
  | .done value, s => .returned value s
  | .fail error, _ => .reverted error
  | .get next, s => (next s).run s
  | .set s next, _ => next.run s
  | .call r next, s => .waits r next s

/-- From storage `s` the code keeps `inv` whenever it gives control away, makes only the requests
`asks` allows, and ends as `post` says. While it waits, others may change the storage to
anything that keeps `inv`. -/
def Safe (inv : σ → Prop) (asks : Req → Prop) (post : α → σ → Prop) : Prog σ Rep ε α → σ → Prop
  | .done value, s => post value s
  | .fail _, _ => True
  | .get next, s => (next s).Safe inv asks post s
  | .set s next, _ => next.Safe inv asks post s
  | .call r next, s => asks r ∧ inv s ∧ ∀ reply s', inv s' → (next reply).Safe inv asks post s'

variable {inv : σ → Prop} {asks : Req → Prop} {post : α → σ → Prop} {after : β → σ → Prop}

theorem Safe.bind {p : Prog σ Rep ε α} {f : α → Prog σ Rep ε β} {s : σ} (safe : p.Safe inv asks post s)
    (rest : ∀ value s', post value s' → (f value).Safe inv asks after s') : (p >>= f).Safe inv asks after s := by
  induction p generalizing s with
  | done value => exact rest value s safe
  | fail error => exact safe
  | get next ih => exact ih s safe
  | set s' next ih => exact ih safe
  | call r next ih => exact ⟨safe.1, safe.2.1, fun reply s' kept => ih reply (safe.2.2 reply s' kept)⟩

theorem Safe.read_bind {f : σ → Prog σ Rep ε β} {s : σ} (rest : (f s).Safe inv asks after s) :
    (Prog.read >>= f).Safe inv asks after s := rest

theorem Safe.refuse_bind {condition : Prop} [Decidable condition] {error : ε} {f : Unit → Prog σ Rep ε β} {s : σ}
    (rest : ¬ condition → (f ()).Safe inv asks after s) :
    (Prog.refuse condition error >>= f).Safe inv asks after s := by
  unfold Prog.refuse
  split
  · trivial
  · rename_i passes
    exact rest passes

theorem Safe.mono {p : Prog σ Rep ε α} {s : σ} {asks' : Req → Prop} {post' : α → σ → Prop}
    (safe : p.Safe inv asks post s) (asked : ∀ r, asks r → asks' r)
    (ended : ∀ value s', post value s' → post' value s') : p.Safe inv asks' post' s := by
  induction p generalizing s with
  | done value => exact ended value s safe
  | fail error => trivial
  | get next ih => exact ih s safe
  | set s' next ih => exact ih safe
  | call r next ih => exact ⟨asked r safe.1, safe.2.1, fun reply s' kept => ih reply (safe.2.2 reply s' kept)⟩

theorem Safe.returned {p : Prog σ Rep ε α} {s s' : σ} {value : α} (safe : p.Safe inv asks post s)
    (ended : p.run s = .returned value s') : post value s' := by
  induction p generalizing s with
  | done v =>
    cases ended
    exact safe
  | fail error => exact absurd ended (by simp [run])
  | get next ih => exact ih s safe ended
  | set s'' next ih => exact ih safe ended
  | call r next ih => exact absurd ended (by simp [run])

theorem Safe.waits {p : Prog σ Rep ε α} {s s' : σ} {r : Req} {next : Rep r → Prog σ Rep ε α}
    (safe : p.Safe inv asks post s) (waiting : p.run s = .waits r next s') :
    asks r ∧ inv s' ∧ ∀ reply t, inv t → (next reply).Safe inv asks post t := by
  induction p generalizing s with
  | done v => exact absurd waiting (by simp [run])
  | fail error => exact absurd waiting (by simp [run])
  | get k ih => exact ih s safe waiting
  | set s'' k ih => exact ih safe waiting
  | call r' k ih =>
    cases waiting
    exact safe

/-- Code that makes only the requests `asks` allows and never writes keeps every invariant. -/
def Quiet (asks : Req → Prop) : Prog σ Rep ε α → Prop
  | .done _ => True
  | .fail _ => True
  | .get next => ∀ s, (next s).Quiet asks
  | .set _ _ => False
  | .call r next => asks r ∧ ∀ reply, (next reply).Quiet asks

theorem Quiet.bind {p : Prog σ Rep ε α} {f : α → Prog σ Rep ε β} (quiet : p.Quiet asks)
    (rest : ∀ value, (f value).Quiet asks) : (p >>= f).Quiet asks := by
  induction p with
  | done value => exact rest value
  | fail error => trivial
  | get next ih => exact fun s => ih s (quiet s)
  | set s next ih => exact quiet.elim
  | call r next ih => exact ⟨quiet.1, fun reply => ih reply (quiet.2 reply)⟩

theorem Quiet.refuse (asks : Req → Prop) (condition : Prop) [Decidable condition] (error : ε) :
    (Prog.refuse condition error : Prog σ Rep ε Unit).Quiet asks := by
  unfold Prog.refuse
  split
  · trivial
  · trivial

theorem Quiet.safe {p : Prog σ Rep ε α} (quiet : p.Quiet asks) {s : σ} (kept : inv s) :
    p.Safe inv asks (fun _ => inv) s := by
  induction p generalizing s with
  | done value => exact kept
  | fail error => trivial
  | get next ih => exact ih s (quiet s) kept
  | set s' next ih => exact quiet.elim
  | call r next ih => exact ⟨quiet.1, kept, fun reply s' kept' => ih reply (quiet.2 reply) kept'⟩

end Prog

end Interaction
