import ArbitrageRuntime.Lib.Interaction

namespace Interaction

variable {σ Req : Type} {Rep : Req → Type} {ε α β W : Type}

/-- What the outside may answer to a request, and how it may leave the storage and the world. -/
abbrev Environment (σ : Type) {Req : Type} (Rep : Req → Type) (W : Type) : Type :=
  (r : Req) → σ → W → Rep r → σ → W → Prop

namespace Prog

/-- Some run of the code in the environment ends with the value. -/
def Yields (env : Environment σ Rep W) : Prog σ Rep ε α → σ → W → α → σ → W → Prop
  | .done value, s, w, result, s', w' => result = value ∧ s' = s ∧ w' = w
  | .fail _, _, _, _, _, _ => False
  | .get next, s, w, result, s', w' => (next s).Yields env s w result s' w'
  | .set s next, _, w, result, s', w' => next.Yields env s w result s' w'
  | .call r next, s, w, result, s', w' => ∃ reply t v, env r s w reply t v ∧ (next reply).Yields env t v result s' w'

/-- Some run of the code in the environment gets to the request. -/
def Reaches (env : Environment σ Rep W) (request : Req) : Prog σ Rep ε α → σ → W → σ → W → Prop
  | .done _, _, _, _, _ => False
  | .fail _, _, _, _, _ => False
  | .get next, s, w, s', w' => (next s).Reaches env request s w s' w'
  | .set s next, _, w, s', w' => next.Reaches env request s w s' w'
  | .call r next, s, w, s', w' => (r = request ∧ s' = s ∧ w' = w) ∨
      ∃ reply t v, env r s w reply t v ∧ (next reply).Reaches env request t v s' w'

variable {env : Environment σ Rep W} {s s' : σ} {w w' : W}

theorem yields_bind {p : Prog σ Rep ε α} {f : α → Prog σ Rep ε β} {result : β} :
    (p >>= f).Yields env s w result s' w' ↔
      ∃ value t v, p.Yields env s w value t v ∧ (f value).Yields env t v result s' w' := by
  induction p generalizing s w with
  | done value =>
    constructor
    · exact fun rest => ⟨value, s, w, ⟨rfl, rfl, rfl⟩, rest⟩
    · rintro ⟨_, _, _, ⟨rfl, rfl, rfl⟩, rest⟩
      exact rest
  | fail error => exact ⟨False.elim, fun ⟨_, _, _, ended, _⟩ => ended⟩
  | get next ih => exact ih s
  | set s next ih => exact ih
  | call r next ih =>
    constructor
    · rintro ⟨reply, t, v, answered, rest⟩
      obtain ⟨value, t', v', ended, last⟩ := (ih reply).mp rest
      exact ⟨value, t', v', ⟨reply, t, v, answered, ended⟩, last⟩
    · rintro ⟨value, t', v', ⟨reply, t, v, answered, ended⟩, last⟩
      exact ⟨reply, t, v, answered, (ih reply).mpr ⟨value, t', v', ended, last⟩⟩

/-- What an environment allows, a freer one allows too. -/
theorem Yields.mono {env' : Environment σ Rep W} {p : Prog σ Rep ε α} {value : α}
    (freer : ∀ r t v (reply : Rep r) t' v', env r t v reply t' v' → env' r t v reply t' v')
    (yields : p.Yields env s w value s' w') : p.Yields env' s w value s' w' := by
  induction p generalizing s w with
  | done result => exact yields
  | fail error => exact yields
  | get next ih => exact ih s yields
  | set s next ih => exact ih yields
  | call r next ih =>
    obtain ⟨reply, t, v, answered, rest⟩ := yields
    exact ⟨reply, t, v, freer r s w reply t v answered, ih reply rest⟩

theorem yields_refuse {condition : Prop} [Decidable condition] {error : ε} {result : Unit} :
    (Prog.refuse condition error : Prog σ Rep ε Unit).Yields env s w result s' w' ↔
      ¬ condition ∧ s' = s ∧ w' = w := by
  unfold Prog.refuse
  split
  · rename_i holds
    exact ⟨False.elim, fun ⟨fails, _⟩ => fails holds⟩
  · rename_i fails
    exact ⟨fun ended => ⟨fails, ended.2⟩, fun ended => ⟨rfl, ended.2⟩⟩

/-- Code behind a passed check. -/
theorem reaches_refuse_bind {condition : Prop} [Decidable condition] {error : ε} {f : Unit → Prog σ Rep ε β}
    {request : Req} :
    (Prog.refuse condition error >>= f).Reaches env request s w s' w' ↔
      ¬ condition ∧ (f ()).Reaches env request s w s' w' := by
  unfold Prog.refuse
  split
  · rename_i holds
    exact ⟨False.elim, fun ⟨fails, _⟩ => fails holds⟩
  · rename_i fails
    exact ⟨fun rest => ⟨fails, rest⟩, And.right⟩

/-- What every request of quiet code keeps, the code keeps. -/
theorem Quiet.keeps {p : Prog σ Rep ε α} {asks : Req → Prop} {value : α} (kept : σ → W → Prop) (quiet : p.Quiet asks)
    (frame : ∀ r t v (reply : Rep r) t' v', asks r → env r t v reply t' v' → kept t v → kept t' v')
    (yields : p.Yields env s w value s' w') (start : kept s w) : kept s' w' := by
  induction p generalizing s w with
  | done result =>
    obtain ⟨_, rfl, rfl⟩ := yields
    exact start
  | fail error => exact yields.elim
  | get next ih => exact ih s (quiet s) yields start
  | set s next ih => exact quiet.elim
  | call r next ih =>
    obtain ⟨reply, t, v, answered, rest⟩ := yields
    exact ih reply (quiet.2 reply) rest (frame r s w reply t v quiet.1 answered start)

/-- Code whose requests change nothing ends where it began. -/
theorem Quiet.unchanged {p : Prog σ Rep ε α} {asks : Req → Prop} {value : α} (quiet : p.Quiet asks)
    (frame : ∀ r t v (reply : Rep r) t' v', asks r → env r t v reply t' v' → t' = t ∧ v' = v)
    (yields : p.Yields env s w value s' w') : s' = s ∧ w' = w := by
  refine quiet.keeps (fun t v => t = s ∧ v = w) ?_ yields ⟨rfl, rfl⟩
  rintro r t v reply t' v' asked answered ⟨rfl, rfl⟩
  exact frame r t v reply t' v' asked answered

/-- Code whose requests leave the world alone leaves it alone, whatever becomes of the storage. -/
theorem Quiet.world_unchanged {p : Prog σ Rep ε α} {asks : Req → Prop} {value : α} (quiet : p.Quiet asks)
    (frame : ∀ r t v (reply : Rep r) t' v', asks r → env r t v reply t' v' → v' = v)
    (yields : p.Yields env s w value s' w') : w' = w := by
  refine quiet.keeps (fun _ v => v = w) ?_ yields rfl
  rintro r t v reply t' v' asked answered rfl
  exact frame r t v reply t' v' asked answered

/-- The code run against an outside that answers by a function and leaves the storage as it is. -/
def against (answer : (r : Req) → Rep r) : Prog σ Rep ε α → σ → Except ε (α × σ)
  | .done value, s => .ok (value, s)
  | .fail error, _ => .error error
  | .get next, s => (next s).against answer s
  | .set s next, _ => next.against answer s
  | .call r next, s => (next (answer r)).against answer s

variable {answer : (r : Req) → Rep r}

theorem against_refuse_bind {condition : Prop} [Decidable condition] {error : ε} {f : Unit → Prog σ Rep ε β} :
    (Prog.refuse condition error >>= f).against answer s =
      if condition then .error error else (f ()).against answer s := by
  unfold Prog.refuse
  split
  · rfl
  · rfl

end Prog

end Interaction
