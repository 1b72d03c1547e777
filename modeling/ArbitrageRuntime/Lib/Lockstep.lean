import ArbitrageRuntime.Lib.CallMachine
import ArbitrageRuntime.Lib.Environment
import Mathlib.Data.List.Forall2
import Mathlib.Logic.Function.Basic

namespace Interaction

variable {σ τ Req : Type} {Rep : Req → Type} {ε α β : Type}

namespace Outcome

/-- What the code that follows makes of an outcome. -/
def andThen (f : α → Prog σ Rep ε β) : Outcome σ Rep ε α → Outcome σ Rep ε β
  | .returned value s => (f value).run s
  | .reverted error => .reverted error
  | .waits r next s => .waits r (fun reply => next reply >>= f) s

/-- Two contracts give control away alike: they return the same value, revert with the same error, or
wait for the same request, and go on alike whatever the reply is. Their storages stay related. -/
inductive Alike (related : σ → τ → Prop) : Outcome σ Rep ε α → Outcome τ Rep ε α → Prop
  | returned {value s t} : related s t → Alike related (.returned value s) (.returned value t)
  | reverted {error} : Alike related (.reverted error) (.reverted error)
  | waits {r next next' s t} : related s t →
      (∀ reply s' t', related s' t' → Alike related ((next reply).run s') ((next' reply).run t')) →
      Alike related (.waits r next s) (.waits r next' t)

end Outcome

namespace Prog

theorem run_bind {p : Prog σ Rep ε α} {f : α → Prog σ Rep ε β} {s : σ} :
    (p >>= f).run s = (p.run s).andThen f := by
  induction p generalizing s with
  | done value => rfl
  | fail error => rfl
  | get next ih => exact ih s
  | set s' next ih => exact ih
  | call r next ih => rfl

def Alike (related : σ → τ → Prop) (p : Prog σ Rep ε α) (q : Prog τ Rep ε α) : Prop :=
  ∀ s t, related s t → (p.run s).Alike related (q.run t)

variable {related : σ → τ → Prop}

theorem alike_done {value : α} :
    (.done value : Prog σ Rep ε α).Alike related (.done value : Prog τ Rep ε α) := by
  intro s t same
  exact .returned same

theorem alike_fail {error : ε} :
    (.fail error : Prog σ Rep ε α).Alike related (.fail error : Prog τ Rep ε α) := by
  intro s t _
  exact .reverted

theorem alike_call {r : Req} {next : Rep r → Prog σ Rep ε α} {next' : Rep r → Prog τ Rep ε α}
    (rest : ∀ reply, (next reply).Alike related (next' reply)) :
    (Prog.call r next).Alike related (Prog.call r next') := by
  intro s t same
  exact .waits same rest

theorem alike_andThen {o : Outcome σ Rep ε α} {o' : Outcome τ Rep ε α} {f : α → Prog σ Rep ε β}
    {g : α → Prog τ Rep ε β} (first : o.Alike related o') (rest : ∀ value, (f value).Alike related (g value)) :
    (o.andThen f).Alike related (o'.andThen g) := by
  induction first with
  | returned kept => exact rest _ _ _ kept
  | reverted => exact .reverted
  | waits kept _ ih =>
    refine .waits kept fun reply s t kept' => ?_
    rw [run_bind, run_bind]
    exact ih reply s t kept'

theorem Alike.bind {p : Prog σ Rep ε α} {q : Prog τ Rep ε α} {f : α → Prog σ Rep ε β} {g : α → Prog τ Rep ε β}
    (first : p.Alike related q) (rest : ∀ value, (f value).Alike related (g value)) :
    (p >>= f).Alike related (q >>= g) := by
  intro s t same
  rw [run_bind, run_bind]
  exact alike_andThen (first s t same) rest

theorem Alike.read_bind {f : σ → Prog σ Rep ε β} {g : τ → Prog τ Rep ε β}
    (rest : ∀ s t, related s t → (f s).Alike related (g t)) :
    (Prog.read >>= f).Alike related (Prog.read >>= g) := by
  intro s t same
  exact rest s t same s t same

theorem alike_write {s : σ} {t : τ} (kept : related s t) :
    (Prog.write s : Prog σ Rep ε Unit).Alike related (Prog.write t : Prog τ Rep ε Unit) := by
  intro _ _ _
  exact .returned kept

theorem alike_refuse {condition condition' : Prop} [Decidable condition] [Decidable condition'] {error : ε}
    (agree : condition ↔ condition') :
    (Prog.refuse condition error : Prog σ Rep ε Unit).Alike related (Prog.refuse condition' error) := by
  unfold Prog.refuse
  by_cases holds : condition
  · rw [if_pos holds, if_pos (agree.mp holds)]
    exact alike_fail
  · rw [if_neg holds, if_neg (mt agree.mpr holds)]
    exact alike_done

theorem alike_ite {condition : Prop} [Decidable condition] {p p' : Prog σ Rep ε α} {q q' : Prog τ Rep ε α}
    (met : p.Alike related q) (unmet : p'.Alike related q') :
    (if condition then p else p').Alike related (if condition then q else q') := by
  by_cases holds : condition
  · rw [if_pos holds, if_pos holds]
    exact met
  · rw [if_neg holds, if_neg holds]
    exact unmet

section Answers

variable {answer : (r : Req) → Rep r}

/-- What the outside's answers make of an outcome. -/
def answered (answer : (r : Req) → Rep r) : Outcome σ Rep ε α → Except ε (α × σ)
  | .returned value s => .ok (value, s)
  | .reverted error => .error error
  | .waits r next s => (next (answer r)).against answer s

theorem against_eq_answered (p : Prog σ Rep ε α) (s : σ) : p.against answer s = answered answer (p.run s) := by
  induction p generalizing s with
  | done value => rfl
  | fail error => rfl
  | get next ih => exact ih s s
  | set s' next ih => exact ih s'
  | call r next ih => rfl

/-- Code that runs alike ends alike against the same answers. -/
theorem Alike.against_eq {p : Prog σ Rep ε α} {q : Prog τ Rep ε α} (alike : p.Alike related q) {s : σ} {t : τ}
    (same : related s t) : (p.against answer s).map Prod.fst = (q.against answer t).map Prod.fst := by
  rw [against_eq_answered, against_eq_answered]
  have outcomes := alike s t same
  generalize p.run s = o at outcomes ⊢
  generalize q.run t = o' at outcomes ⊢
  induction outcomes with
  | returned _ => rfl
  | reverted => rfl
  | @waits r next next' s t kept _ ih =>
    have rest := ih (answer r) s t kept
    rw [← against_eq_answered, ← against_eq_answered] at rest
    exact rest

end Answers

section Environments

variable {W : Type} {env : Environment σ Rep W} {env' : Environment τ Rep W} {request : Req} {s s' : σ} {t : τ}
  {w w' : W}

/-- What an environment makes of an outcome. -/
def yielded (env : Environment σ Rep W) : Outcome σ Rep ε α → W → α → σ → W → Prop
  | .returned value s, w, result, s', w' => result = value ∧ s' = s ∧ w' = w
  | .reverted _, _, _, _, _ => False
  | .waits r next s, w, result, s', w' => ∃ reply t v, env r s w reply t v ∧ (next reply).Yields env t v result s' w'

def reached (env : Environment σ Rep W) (request : Req) : Outcome σ Rep ε α → W → σ → W → Prop
  | .returned _ _, _, _, _ => False
  | .reverted _, _, _, _ => False
  | .waits r next s, w, s', w' => (r = request ∧ s' = s ∧ w' = w) ∨
      ∃ reply t v, env r s w reply t v ∧ (next reply).Reaches env request t v s' w'

theorem yields_iff_yielded (p : Prog σ Rep ε α) (s : σ) {result : α} :
    p.Yields env s w result s' w' ↔ yielded env (p.run s) w result s' w' := by
  induction p generalizing s with
  | done value => rfl
  | fail error => rfl
  | get next ih => exact ih s s
  | set s' next ih => exact ih s'
  | call r next ih => rfl

theorem reaches_iff_reached (p : Prog σ Rep ε α) (s : σ) :
    p.Reaches env request s w s' w' ↔ reached env request (p.run s) w s' w' := by
  induction p generalizing s with
  | done value => rfl
  | fail error => rfl
  | get next ih => exact ih s s
  | set s' next ih => exact ih s'
  | call r next ih => rfl

/-- What the first outside does, the second one does too, with a related storage. -/
def Mirrors (related : σ → τ → Prop) (env : Environment σ Rep W) (env' : Environment τ Rep W) : Prop :=
  ∀ r s w (reply : Rep r) s' w' t, env r s w reply s' w' → related s t → ∃ t', related s' t' ∧ env' r t w reply t' w'

/-- Code that runs alike ends alike in outsides that mirror each other. -/
theorem Alike.yields {p : Prog σ Rep ε α} {q : Prog τ Rep ε α} (alike : p.Alike related q)
    (mirrors : Mirrors related env env') (same : related s t) {result : α}
    (yields : p.Yields env s w result s' w') : ∃ t', related s' t' ∧ q.Yields env' t w result t' w' := by
  rw [yields_iff_yielded] at yields
  simp only [yields_iff_yielded]
  have outcomes := alike s t same
  generalize p.run s = o at outcomes yields
  generalize q.run t = o' at outcomes ⊢
  induction outcomes generalizing w with
  | returned kept =>
    obtain ⟨rfl, rfl, rfl⟩ := yields
    exact ⟨_, kept, rfl, rfl, rfl⟩
  | reverted => exact yields.elim
  | waits kept _ ih =>
    obtain ⟨reply, u, v, answered, rest⟩ := yields
    obtain ⟨u', kept', answered'⟩ := mirrors _ _ _ _ _ _ _ answered kept
    obtain ⟨t', ended, rest'⟩ := ih reply u u' kept' ((yields_iff_yielded _ _).mp rest)
    exact ⟨t', ended, reply, u', v, answered', (yields_iff_yielded _ _).mpr rest'⟩

theorem Alike.reaches {p : Prog σ Rep ε α} {q : Prog τ Rep ε α} (alike : p.Alike related q)
    (mirrors : Mirrors related env env') (same : related s t) (reaches : p.Reaches env request s w s' w') :
    ∃ t', related s' t' ∧ q.Reaches env' request t w t' w' := by
  rw [reaches_iff_reached] at reaches
  simp only [reaches_iff_reached]
  have outcomes := alike s t same
  generalize p.run s = o at outcomes reaches
  generalize q.run t = o' at outcomes ⊢
  induction outcomes generalizing w with
  | returned _ => exact reaches.elim
  | reverted => exact reaches.elim
  | waits kept _ ih =>
    rcases reaches with ⟨rfl, rfl, rfl⟩ | ⟨reply, u, v, answered, rest⟩
    · exact ⟨_, kept, .inl ⟨rfl, rfl, rfl⟩⟩
    · obtain ⟨u', kept', answered'⟩ := mirrors _ _ _ _ _ _ _ answered kept
      obtain ⟨t', ended, rest'⟩ := ih reply u u' kept' ((reaches_iff_reached _ _).mp rest)
      exact ⟨t', ended, .inr ⟨reply, u', v, answered', (reaches_iff_reached _ _).mpr rest'⟩⟩

theorem Alike.symm {p : Prog σ Rep ε α} {q : Prog τ Rep ε α} (alike : p.Alike related q) :
    q.Alike (fun t s => related s t) p := by
  intro t s same
  have outcomes := alike s t same
  generalize p.run s = o at outcomes ⊢
  generalize q.run t = o' at outcomes ⊢
  induction outcomes with
  | returned kept => exact .returned kept
  | reverted => exact .reverted
  | waits kept _ ih => exact .waits kept fun reply u' u kept' => ih reply u u' kept'

end Environments

end Prog

end Interaction

namespace CallMachine

open Interaction

variable {σ τ Req : Type} {Rep : Req → Type} {ε Call Call' : Type}

/-- What the outside does next. It answers whatever it was asked. -/
inductive Move {Req : Type} (Rep : Req → Type) (Call : Type) : Type
  | enter (call : Call)
  | reply (answer : (r : Req) → Rep r)
  | refuse
  | revert
  | foreignCall
  | foreignReturn
  | foreignRevert

def Move.map (embed : Call → Call') : Move Rep Call → Move Rep Call'
  | .enter call => .enter (embed call)
  | .reply answer => .reply answer
  | .refuse => .refuse
  | .revert => .revert
  | .foreignCall => .foreignCall
  | .foreignReturn => .foreignReturn
  | .foreignRevert => .foreignRevert

theorem map_map_id (script : List (Move Rep Call)) : script.map (Move.map id) = script := by
  refine (List.map_congr_left fun move _ => ?_).trans (List.map_id script)
  cases move with
  | _ => rfl

/-- What the outside sees of the contract in a step: that it returned, its error, or its next call. -/
inductive Seen (Req ε : Type) : Type
  | returned
  | reverted (error : ε)
  | asked (request : Req)
  | nothing

def seen : Outcome σ Rep ε Unit → Seen Req ε
  | .returned _ _ => .returned
  | .reverted error => .reverted error
  | .waits request _ _ => .asked request

/-- The contract's code runs and gives control away. -/
def resume (call : Call) (entered : σ) (below : List (Frame σ Rep ε Call)) (outcome : Outcome σ Rep ε Unit) :
    Seen Req ε × Machine σ Rep ε Call :=
  (seen outcome, afterRun call entered below outcome)

def Contract.move (contract : Contract σ Rep ε Call) :
    Move Rep Call → Machine σ Rep ε Call → Option (Seen Req ε × Machine σ Rep ε Call)
  | .enter call, ⟨s, stack⟩ =>
    if stack.any (Frame.isStatic contract) then none
    else some (resume call s stack ((contract.body call).run s))
  | .reply answer, ⟨s, .own call entered request next _ :: rest⟩ =>
    some (resume call entered rest ((next (answer request)).run s))
  | .refuse, ⟨_, .own call entered request next atCall :: rest⟩ =>
    (contract.refused request).map fun answer => resume call entered rest ((next answer).run atCall)
  | .revert, ⟨_, .own _ entered _ _ _ :: rest⟩ => some (.nothing, ⟨entered, rest⟩)
  | .foreignCall, ⟨s, stack⟩ => some (.nothing, ⟨s, .foreign s :: stack⟩)
  | .foreignReturn, ⟨s, .foreign _ :: rest⟩ => some (.nothing, ⟨s, rest⟩)
  | .foreignRevert, ⟨_, .foreign before :: rest⟩ => some (.nothing, ⟨before, rest⟩)
  | _, _ => none

/-- A whole script of the outside: what it sees on the way, and where it ends. -/
def Contract.play (contract : Contract σ Rep ε Call) :
    List (Move Rep Call) → Machine σ Rep ε Call → Option (List (Seen Req ε) × Machine σ Rep ε Call)
  | [], m => some ([], m)
  | move :: script, m => do
    let (first, m') ← contract.move move m
    let (rest, last) ← contract.play script m'
    return (first :: rest, last)

section Steps

variable {contract : Contract σ Rep ε Call} {m m' : Machine σ Rep ε Call}

/-- Everything a move can do. -/
inductive Moved (contract : Contract σ Rep ε Call) :
    Move Rep Call → Machine σ Rep ε Call → Seen Req ε × Machine σ Rep ε Call → Prop
  | enter {call s stack} : stack.any (Frame.isStatic contract) = false →
      Moved contract (.enter call) ⟨s, stack⟩ (resume call s stack ((contract.body call).run s))
  | reply {answer s call entered request next atCall rest} :
      Moved contract (.reply answer) ⟨s, .own call entered request next atCall :: rest⟩
        (resume call entered rest ((next (answer request)).run s))
  | refuse {s call entered request next atCall rest answer} : contract.refused request = some answer →
      Moved contract .refuse ⟨s, .own call entered request next atCall :: rest⟩
        (resume call entered rest ((next answer).run atCall))
  | revert {s call entered request next atCall rest} :
      Moved contract .revert ⟨s, .own call entered request next atCall :: rest⟩ (.nothing, ⟨entered, rest⟩)
  | foreignCall {s stack} : Moved contract .foreignCall ⟨s, stack⟩ (.nothing, ⟨s, .foreign s :: stack⟩)
  | foreignReturn {s before rest} : Moved contract .foreignReturn ⟨s, .foreign before :: rest⟩ (.nothing, ⟨s, rest⟩)
  | foreignRevert {s before rest} :
      Moved contract .foreignRevert ⟨s, .foreign before :: rest⟩ (.nothing, ⟨before, rest⟩)

theorem moved_of_move {move : Move Rep Call} {result : Seen Req ε × Machine σ Rep ε Call}
    (moved : contract.move move m = some result) : Moved contract move m result := by
  unfold Contract.move at moved
  split at moved
  · split at moved
    · exact absurd moved (by simp)
    · rename_i notStatic
      cases Option.some.inj moved
      exact .enter (by simpa using notStatic)
  · cases Option.some.inj moved
    exact .reply
  · obtain ⟨answer, refused, rfl⟩ := Option.map_eq_some_iff.mp moved
    exact .refuse refused
  · cases Option.some.inj moved
    exact .revert
  · cases Option.some.inj moved
    exact .foreignCall
  · cases Option.some.inj moved
    exact .foreignReturn
  · cases Option.some.inj moved
    exact .foreignRevert
  · exact absurd moved (by simp)

theorem Moved.step {move : Move Rep Call} {result : Seen Req ε × Machine σ Rep ε Call}
    (moved : Moved contract move m result) : Step contract (fun _ _ => True) m result.2 := by
  cases moved with
  | enter notStatic =>
    refine .enter (fun frame member => ?_) trivial
    exact Bool.not_eq_true _ ▸ List.any_eq_false.mp notStatic frame member
  | reply => exact .reply _
  | refuse refused => exact .refuse refused
  | revert => exact .revert
  | foreignCall => exact .foreignCall
  | foreignReturn => exact .foreignReturn
  | foreignRevert => exact .foreignRevert

open Classical in
theorem Step.moves (default : (r : Req) → Rep r) (step : Step contract (fun _ _ => True) m m') :
    ∃ move shown, contract.move move m = some (shown, m') := by
  cases step with
  | @enter s stack call notStatic _ =>
    have passes : stack.any (Frame.isStatic contract) = false := by
      simpa only [List.any_eq_false, Bool.not_eq_true] using notStatic
    exact ⟨.enter call, _, by simp only [Contract.move, passes, Bool.false_eq_true, if_false]; rfl⟩
  | @reply _ _ _ request _ _ _ answer =>
    have answered : Function.update default request answer request = answer := Function.update_self ..
    exact ⟨.reply (Function.update default request answer), _, by simp only [Contract.move, answered]; rfl⟩
  | refuse refused => exact ⟨.refuse, _, by simp only [Contract.move, refused, Option.map_some]; rfl⟩
  | revert => exact ⟨.revert, _, rfl⟩
  | foreignCall => exact ⟨.foreignCall, _, rfl⟩
  | foreignReturn => exact ⟨.foreignReturn, _, rfl⟩
  | foreignRevert => exact ⟨.foreignRevert, _, rfl⟩

theorem play_concat {script : List (Move Rep Call)} {move : Move Rep Call} {views : List (Seen Req ε)}
    {shown : Seen Req ε} {start : Machine σ Rep ε Call} (played : contract.play script start = some (views, m))
    (moved : contract.move move m = some (shown, m')) :
    contract.play (script ++ [move]) start = some (views ++ [shown], m') := by
  induction script generalizing start views with
  | nil =>
    cases Option.some.inj played
    simp [Contract.play, moved]
  | cons first script ih =>
    obtain ⟨⟨view, middle⟩, firstMoved, rest⟩ := Option.bind_eq_some_iff.mp played
    obtain ⟨⟨tail, last⟩, restPlayed, same⟩ := Option.bind_eq_some_iff.mp rest
    cases Option.some.inj same
    simp [Contract.play, firstMoved, ih restPlayed]

theorem play_reach {initial : σ} {script : List (Move Rep Call)} {views : List (Seen Req ε)}
    (reach : Reach contract (fun _ _ => True) initial m) (played : contract.play script m = some (views, m')) :
    Reach contract (fun _ _ => True) initial m' := by
  induction script generalizing m views with
  | nil =>
    cases Option.some.inj played
    exact reach
  | cons first script ih =>
    obtain ⟨⟨view, middle⟩, firstMoved, rest⟩ := Option.bind_eq_some_iff.mp played
    obtain ⟨⟨tail, last⟩, restPlayed, same⟩ := Option.bind_eq_some_iff.mp rest
    cases Option.some.inj same
    exact ih (reach.next (moved_of_move firstMoved).step) restPlayed

/-- Scripts are the runs of the machine. -/
theorem reach_iff_play {initial : σ} (default : (r : Req) → Rep r) :
    Reach contract (fun _ _ => True) initial m ↔
      ∃ script views, contract.play script ⟨initial, []⟩ = some (views, m) := by
  constructor
  · intro reach
    induction reach with
    | start => exact ⟨[], [], rfl⟩
    | next _ step ih =>
      obtain ⟨script, views, played⟩ := ih
      obtain ⟨move, shown, moved⟩ := step.moves default
      exact ⟨script ++ [move], views ++ [shown], play_concat played moved⟩
  · rintro ⟨script, views, played⟩
    exact play_reach .start played

end Steps

section Lockstep

variable (related : σ → τ → Prop) (embed : Call → Call')

inductive Frame.Alike : Frame σ Rep ε Call → Frame τ Rep ε Call' → Prop
  | own {call entered entered' request next next' atCall atCall'} :
      related entered entered' → related atCall atCall' → (∀ reply, (next reply).Alike related (next' reply)) →
      Alike (.own call entered request next atCall) (.own (embed call) entered' request next' atCall')
  | foreign {before before'} : related before before' → Alike (.foreign before) (.foreign before')

/-- The same calls are open in both machines, and their storages are related. -/
def Machine.Alike (m : Machine σ Rep ε Call) (n : Machine τ Rep ε Call') : Prop :=
  related m.storage n.storage ∧ List.Forall₂ (Frame.Alike related embed) m.stack n.stack

variable {related embed} {contract : Contract σ Rep ε Call} {contract' : Contract τ Rep ε Call'}

theorem resume_alike {call : Call} {entered : σ} {entered' : τ} {below : List (Frame σ Rep ε Call)}
    {below' : List (Frame τ Rep ε Call')} {o : Outcome σ Rep ε Unit} {o' : Outcome τ Rep ε Unit}
    (enteredAlike : related entered entered') (belowAlike : List.Forall₂ (Frame.Alike related embed) below below')
    (outcomes : o.Alike related o') :
    (resume call entered below o).1 = (resume (embed call) entered' below' o').1 ∧
      (resume call entered below o).2.Alike related embed (resume (embed call) entered' below' o').2 := by
  cases outcomes with
  | returned kept => exact ⟨rfl, kept, belowAlike⟩
  | reverted => exact ⟨rfl, enteredAlike, belowAlike⟩
  | waits kept goesOn => exact ⟨rfl, kept, .cons (.own enteredAlike kept goesOn) belowAlike⟩

/-- Two contracts whose entry points run alike, and whose calls fail alike. -/
structure Contract.Alike (related : σ → τ → Prop) (embed : Call → Call') (contract : Contract σ Rep ε Call)
    (contract' : Contract τ Rep ε Call') : Prop where
  body : ∀ call, (contract.body call).Alike related (contract'.body (embed call))
  static : contract.static = contract'.static
  refused : contract.refused = contract'.refused

theorem Frame.Alike.isStatic_eq (alike : contract.Alike related embed contract') {frame : Frame σ Rep ε Call}
    {frame' : Frame τ Rep ε Call'} (frames : Frame.Alike related embed frame frame') :
    frame.isStatic contract = frame'.isStatic contract' := by
  cases frames with
  | own _ _ _ => exact congrFun alike.static _
  | foreign _ => rfl

theorem any_isStatic_eq (alike : contract.Alike related embed contract') {stack : List (Frame σ Rep ε Call)}
    {stack' : List (Frame τ Rep ε Call')} (frames : List.Forall₂ (Frame.Alike related embed) stack stack') :
    stack.any (Frame.isStatic contract) = stack'.any (Frame.isStatic contract') := by
  induction frames with
  | nil => rfl
  | cons first _ ih => rw [List.any_cons, List.any_cons, first.isStatic_eq alike, ih]

/-- What the outside sees is the same, and the machines it leaves are alike. -/
def SeenAlike (related : σ → τ → Prop) (embed : Call → Call') {View : Type}
    (shown : View × Machine σ Rep ε Call) (shown' : View × Machine τ Rep ε Call') : Prop :=
  shown.1 = shown'.1 ∧ shown.2.Alike related embed shown'.2

theorem move_alike (alike : contract.Alike related embed contract') (move : Move Rep Call)
    {m : Machine σ Rep ε Call} {n : Machine τ Rep ε Call'} (machines : m.Alike related embed n) :
    Option.Rel (SeenAlike related embed) (contract.move move m) (contract'.move (move.map embed) n) := by
  obtain ⟨s, stack⟩ := m
  obtain ⟨t, stack'⟩ := n
  obtain ⟨storages, frames⟩ := machines
  cases move with
  | enter call =>
    simp only [Contract.move, Move.map, any_isStatic_eq alike frames]
    split
    · exact .none
    · exact .some (resume_alike storages frames (alike.body call s t storages))
  | foreignCall => exact .some ⟨rfl, storages, .cons (.foreign storages) frames⟩
  | reply answer =>
    cases frames with
    | nil => exact .none
    | cons first below =>
      cases first with
      | own enteredAlike _ goesOn => exact .some (resume_alike enteredAlike below (goesOn _ s t storages))
      | foreign _ => exact .none
  | refuse =>
    cases frames with
    | nil => exact .none
    | cons first below =>
      cases first with
      | @own _ _ _ request _ _ _ _ enteredAlike atCallAlike goesOn =>
        simp only [Contract.move, Move.map, alike.refused]
        cases contract'.refused request with
        | none => exact .none
        | some answer => exact .some (resume_alike enteredAlike below (goesOn answer _ _ atCallAlike))
      | foreign _ => exact .none
  | revert =>
    cases frames with
    | nil => exact .none
    | cons first below =>
      cases first with
      | own enteredAlike _ _ => exact .some ⟨rfl, enteredAlike, below⟩
      | foreign _ => exact .none
  | foreignReturn =>
    cases frames with
    | nil => exact .none
    | cons first below =>
      cases first with
      | own _ _ _ => exact .none
      | foreign _ => exact .some ⟨rfl, storages, below⟩
  | foreignRevert =>
    cases frames with
    | nil => exact .none
    | cons first below =>
      cases first with
      | own _ _ _ => exact .none
      | foreign beforeAlike => exact .some ⟨rfl, beforeAlike, below⟩

theorem rel_bind {A A' B B' : Type} {first : A → A' → Prop} {second : B → B' → Prop} {a : Option A} {a' : Option A'}
    {f : A → Option B} {g : A' → Option B'} (same : Option.Rel first a a')
    (rest : ∀ value value', first value value' → Option.Rel second (f value) (g value')) :
    Option.Rel second (a.bind f) (a'.bind g) := by
  cases same with
  | none => exact .none
  | some related => exact rest _ _ related

theorem rel_some {A A' : Type} {rel : A → A' → Prop} {value : A} {found : Option A'}
    (same : Option.Rel rel (some value) found) : ∃ value', found = some value' ∧ rel value value' := by
  cases same with
  | some related => exact ⟨_, rfl, related⟩

/-- The lockstep rule: contracts that run alike are told apart by no script. -/
theorem play_alike (alike : contract.Alike related embed contract') (script : List (Move Rep Call))
    {m : Machine σ Rep ε Call} {n : Machine τ Rep ε Call'} (machines : m.Alike related embed n) :
    Option.Rel (SeenAlike related embed) (contract.play script m)
      (contract'.play (script.map (Move.map embed)) n) := by
  induction script generalizing m n with
  | nil => exact .some ⟨rfl, machines⟩
  | cons move script ih =>
    refine rel_bind (move_alike alike move machines) fun first first' same => ?_
    refine rel_bind (ih same.2) fun rest rest' same' => ?_
    exact .some ⟨congrArg₂ List.cons same.1 same'.1, same'.2⟩

/-- A contract that runs like another one on a part of its storage shows the same, and ends in that part. -/
theorem play_project {project : τ → σ} (alike : contract.Alike (fun s t => project t = s) embed contract')
    (script : List (Move Rep Call)) (t : τ) :
    (contract.play script ⟨project t, []⟩).map (fun run => (run.1, run.2.storage)) =
      (contract'.play (script.map (Move.map embed)) ⟨t, []⟩).map fun run => (run.1, project run.2.storage) := by
  have runs := play_alike alike script (m := ⟨project t, []⟩) (n := ⟨t, []⟩) ⟨rfl, .nil⟩
  generalize contract.play script ⟨project t, []⟩ = played at runs ⊢
  generalize contract'.play (script.map (Move.map embed)) ⟨t, []⟩ = played' at runs ⊢
  cases runs with
  | none => rfl
  | some same =>
    obtain ⟨shown, storages, _⟩ := same
    simp only [Option.map_some, shown, storages]

/-- Whatever a contract reaches, one that runs alike reaches a machine that is alike. -/
theorem Reach.alike (alike : contract.Alike related embed contract') (default : (r : Req) → Rep r) {initial : σ}
    {initial' : τ} (start : related initial initial') {m : Machine σ Rep ε Call}
    (reach : Reach contract (fun _ _ => True) initial m) :
    ∃ n, Reach contract' (fun _ _ => True) initial' n ∧ m.Alike related embed n := by
  obtain ⟨script, views, played⟩ := (reach_iff_play default).mp reach
  have runs := play_alike alike script (m := ⟨initial, []⟩) (n := ⟨initial', []⟩) ⟨start, .nil⟩
  rw [played] at runs
  obtain ⟨⟨views', n⟩, played', same⟩ := rel_some runs
  exact ⟨n, (reach_iff_play default).mpr ⟨_, views', played'⟩, same.2⟩

end Lockstep

end CallMachine
