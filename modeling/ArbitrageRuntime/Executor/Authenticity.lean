import ArbitrageRuntime.Executor.Footprint

namespace ArbitrageRuntime.Executor

open Interaction Interaction.Prog CallMachine

variable {Data : Type} (d : Deployment Data)

/-- The remembered start call built the context under the active id, handed out its encoding, and
found every router of its steps on the allowlist. -/
def Opening.Genuine (executionId : Nat) : Opening Data → Prop
  | .v2 ctx data allowed => ctx.executionId = executionId ∧ data = d.encodeV2 ctx ∧
      ∀ step ∈ ctx.steps, allowed step.router = true
  | .v3 ctx data allowed => ctx.executionId = executionId ∧ data = d.encodeV3 ctx ∧
      ∀ step ∈ ctx.steps, allowed step.router = true

/-- An execution in progress was opened by a start call. -/
def Opened (s : Storage Data) : Prop :=
  s.executionInProgress = true → ∃ opening, s.opening = some opening ∧ opening.Genuine d s.activeExecutionId

/-- An approval goes to a router that was on the allowlist when the execution was opened. -/
def ApprovesAllowed (entered : Storage Data) : Request Data → Prop
  | .approve _ spender _ => ∃ opening, entered.opening = some opening ∧ opening.allowedRouters spender = true
  | _ => True

/-- Nothing but an approval is restricted. -/
theorem approvesAllowed_of_other {entered : Storage Data} {request : Request Data}
    (other : request.isView = true ∨ request.isTrade = true) : ApprovesAllowed entered request := by
  cases request with
  | approve token spender amount => exact absurd other (by simp [Request.isView, Request.isTrade])
  | _ => trivial

section Entries

variable {d} {entered s : Storage Data}

theorem safe_ofExcept_bind {α β : Type} {value : Except Error α} {f : α → Exec Data β} {inv : Storage Data → Prop}
    {asks : Request Data → Prop} {post : β → Storage Data → Prop}
    (rest : ∀ a, value = .ok a → (f a).Safe inv asks post s) : (ofExcept value >>= f).Safe inv asks post s := by
  cases value with
  | error e => trivial
  | ok a => exact rest a rfl

/-- The end of an execution clears the slot, whatever happened before. -/
theorem safe_finalizeExecution {profitToken profitRecipient : Address} {grossProfit : Nat} (kept : Opened d s) :
    (finalizeExecution d profitToken profitRecipient grossProfit).Safe (Opened d) (ApprovesAllowed entered)
      (fun _ => Opened d) s := by
  have cleared : ∀ t : Storage Data,
      (do let t ← read
          write { t with executionInProgress := false, activeExecutionId := 0, opening := none }
          Prog.done grossProfit : Exec Data Nat).Safe (Opened d) (ApprovesAllowed entered) (fun _ => Opened d) t :=
    fun t inProgress => absurd inProgress (by simp)
  unfold finalizeExecution
  dsimp only
  split
  · exact Safe.bind (Quiet.safe (quiet_transferToken trivial) kept) fun _ t _ => cleared t
  · exact cleared s

theorem safe_closeExecution {profitToken profitRecipient : Address} {minProfit preProfitBalance : Nat}
    (kept : Opened d s) :
    (closeExecution d profitToken profitRecipient minProfit preProfitBalance).Safe (Opened d)
      (ApprovesAllowed entered) (fun _ => Opened d) s := by
  refine Safe.bind (Quiet.safe (quiet_ask trivial) kept) fun postProfitBalance s' kept' => ?_
  exact Safe.bind (safe_finalizeExecution kept') fun netProfit t opened => Safe.refuse_bind fun _ => opened

/-- A check that runs over a whole list and accepts it has accepted every element. -/
theorem forM_allowed {α : Type} {check : α → Except Error Unit} {allowed : α → Prop} {items : List α}
    (accepted : items.forM check = .ok ()) (sound : ∀ item, check item = .ok () → allowed item) :
    ∀ item ∈ items, allowed item := by
  induction items with
  | nil => exact fun item member => absurd member (by simp)
  | cons first rest ih =>
    change (check first >>= fun _ => rest.forM check) = .ok () at accepted
    cases checked : check first with
    | error e =>
      rw [checked] at accepted
      exact absurd accepted (by simp [Bind.bind, Except.bind])
    | ok u =>
      rw [checked] at accepted
      intro item member
      rcases List.mem_cons.mp member with rfl | inside
      · exact sound item checked
      · exact ih accepted item inside

/-- What a check refuses does not hold of what it accepts. -/
theorem not_of_accepted {refused : Prop} [Decidable refused] {error : Error} {rest : Except Error Unit}
    (accepted : (if refused then .error error else rest) = .ok ()) : ¬ refused := by
  intro holds
  rw [if_pos holds] at accepted
  exact absurd accepted (by simp)

theorem validateV2Steps_allowed {allowedRouters : Address → Bool} {steps : List V2SwapStep}
    (valid : validateV2Steps allowedRouters steps = .ok ()) : ∀ step ∈ steps, allowedRouters step.router = true := by
  unfold validateV2Steps at valid
  split at valid
  · exact absurd valid (by simp)
  · refine forM_allowed valid ?_
    intro step accepted
    simpa using not_of_accepted accepted

theorem validateV3Steps_allowed {allowedRouters : Address → Bool} {steps : List V3SwapStep}
    (valid : validateV3Steps allowedRouters steps = .ok ()) : ∀ step ∈ steps, allowedRouters step.router = true := by
  unfold validateV3Steps at valid
  split at valid
  · exact absurd valid (by simp)
  · refine forM_allowed valid ?_
    intro step accepted
    simpa using not_of_accepted accepted

theorem safe_beginExecution {executionId : Nat} {opening : Opening Data} (genuine : opening.Genuine d executionId) :
    (beginExecution executionId opening).Safe (Opened d) (ApprovesAllowed entered) (fun _ => Opened d) s :=
  Safe.read_bind (Safe.refuse_bind fun _ _ => ⟨opening, rfl, genuine⟩)

theorem safe_startV2FlashSwap {msg : Message} {pair borrowToken : Address} {borrowAmount minProfit : Nat}
    {profitToken profitRecipient : Address} {steps : List V2SwapStep} (kept : Opened d s) :
    (startV2FlashSwap d msg pair borrowToken borrowAmount minProfit profitToken profitRecipient steps).Safe
      (Opened d) (ApprovesAllowed entered) (fun _ => Opened d) s := by
  refine Safe.bind (Quiet.safe (quiet_onlyAuthorizedOperator msg) kept) fun _ s kept => ?_
  refine Safe.refuse_bind fun _ => Safe.refuse_bind fun _ => Safe.read_bind ?_
  refine Safe.refuse_bind fun _ => Safe.refuse_bind fun _ => safe_ofExcept_bind fun _ valid => ?_
  refine Safe.bind (Quiet.safe (quiet_ask trivial) kept) fun first s1 kept1 => ?_
  refine Safe.bind (Quiet.safe (quiet_ask trivial) kept1) fun second s2 kept2 => ?_
  refine Safe.refuse_bind fun _ => ?_
  refine Safe.bind (safe_beginExecution ⟨rfl, rfl, validateV2Steps_allowed valid⟩) fun _ s3 kept3 => ?_
  exact Quiet.safe (quiet_ask trivial) kept3

theorem safe_startV3FlashSwap {msg : Message} {pool borrowToken : Address} {borrowAmount feeTier minProfit : Nat}
    {profitToken profitRecipient : Address} {steps : List V3SwapStep} (kept : Opened d s) :
    (startV3FlashSwap d msg pool borrowToken borrowAmount feeTier minProfit profitToken profitRecipient steps).Safe
      (Opened d) (ApprovesAllowed entered) (fun _ => Opened d) s := by
  refine Safe.bind (Quiet.safe (quiet_onlyAuthorizedOperator msg) kept) fun _ s kept => ?_
  refine Safe.refuse_bind fun _ => Safe.refuse_bind fun _ => Safe.read_bind ?_
  refine Safe.refuse_bind fun _ => Safe.refuse_bind fun _ => Safe.refuse_bind fun _ => ?_
  refine safe_ofExcept_bind fun _ valid => ?_
  refine Safe.bind (Quiet.safe (quiet_ask trivial) kept) fun first s1 kept1 => ?_
  refine Safe.bind (Quiet.safe (quiet_ask trivial) kept1) fun second s2 kept2 => ?_
  refine Safe.refuse_bind fun _ => ?_
  refine Safe.bind (safe_beginExecution ⟨rfl, rfl, validateV3Steps_allowed valid⟩) fun _ s3 kept3 => ?_
  refine Safe.bind (Quiet.safe (quiet_negatedInt256 _) kept3) fun amountSpecified s4 kept4 => ?_
  exact Safe.bind (Quiet.safe (quiet_ask trivial) kept4) fun _ s5 kept5 => kept5

/-- Allowlist writes do not touch the execution slot. -/
theorem safe_setAllowedAddress {update : Storage Data → Address → Bool → Storage Data} {key : Address} {allowed : Bool}
    (untouched : ∀ t, Opened d t → Opened d (update t key allowed)) (kept : Opened d s) :
    (setAllowedAddress update key allowed).Safe (Opened d) (ApprovesAllowed entered) (fun _ => Opened d) s :=
  Safe.refuse_bind fun _ => Safe.read_bind (untouched s kept)

theorem safe_setAllowedAddresses {update : Storage Data → Address → Bool → Storage Data} {allowed : Bool}
    (untouched : ∀ t key, Opened d t → Opened d (update t key allowed)) (keys : List Address) (kept : Opened d s) :
    (setAllowedAddresses update allowed keys).Safe (Opened d) (ApprovesAllowed entered) (fun _ => Opened d) s := by
  induction keys generalizing s with
  | nil => exact kept
  | cons key rest ih =>
    exact Safe.bind (safe_setAllowedAddress (fun t => untouched t key) kept) fun _ t opened => ih opened

theorem opened_putFeeTiers (feeTiers : List Nat) (allowed : Bool) (kept : Opened d s) :
    Opened d (feeTiers.foldl (fun t feeTier => putFeeTier t feeTier allowed) s) := by
  induction feeTiers generalizing s with
  | nil => exact kept
  | cons feeTier rest ih => exact ih (s := putFeeTier s feeTier allowed) kept

end Entries

/-- A callback made while an execution is open, under its id and in the name of its caller, brings
the bytes that the start call of the same kind handed to the venue. -/
def Faithful (s : Storage Data) (call : Call Data) : Prop :=
  match call.entry with
  | .uniswapV2Call _ _ _ data => ∀ ctx, s.executionInProgress = true → d.decodeV2 data = some ctx →
      ctx.executionId = s.activeExecutionId → ctx.pair = call.msg.sender →
      ∃ opened allowed, s.opening = some (.v2 opened data allowed)
  | .uniswapV3SwapCallback _ _ data => ∀ ctx, s.executionInProgress = true → d.decodeV3 data = some ctx →
      ctx.executionId = s.activeExecutionId → ctx.pool = call.msg.sender →
      ∃ opened allowed, s.opening = some (.v3 opened data allowed)
  | _ => True

/-- What a callback that gets past its guards is promised: its caller is the venue of the start call
behind the execution in progress, and its context is the one that start call built. -/
def CallbackAuthentic (s : Storage Data) (call : Call Data) : Prop :=
  match call.entry with
  | .uniswapV2Call sender _ _ data => ∀ ctx, v2Guards d s call.msg sender data = .ok ctx →
      ∃ opened handed allowed, s.opening = some (.v2 opened handed allowed) ∧
        opened.executionId = s.activeExecutionId ∧ call.msg.sender = opened.pair ∧ ctx = opened
  | .uniswapV3SwapCallback _ _ data => ∀ ctx, v3Guards d s call.msg data = .ok ctx →
      ∃ opened handed allowed, s.opening = some (.v3 opened handed allowed) ∧
        opened.executionId = s.activeExecutionId ∧ call.msg.sender = opened.pool ∧ ctx = opened
  | _ => True

/-- The allowlist promise for a call the contract is waiting on. -/
def FrameApprovesAllowed : Frame (Storage Data) (@Reply Data) Error (Call Data) → Prop
  | .own _ entered request _ _ => ApprovesAllowed entered request
  | .foreign _ => True

/-- The promise to everybody who may call in a state: every callback behind its guards is authentic, and
whatever is called, it approves only routers that were allowed when the execution was opened. -/
structure Authentic (s : Storage Data) : Prop where
  callbacks : ∀ call, CallbackAuthentic d s call
  approvals : ∀ call, (body d call).Safe (Opened d) (ApprovesAllowed s) (fun _ => Opened d) s

section Guards

variable {d} {s : Storage Data}

/-- A faithful V2 callback behind its guards runs the context of the start call. -/
theorem v2Guards_authentic {msg : Message} {sender : Address} {amount0 amount1 : Nat} {data : Data}
    {ctx : V2CallbackContext} (kept : Opened d s)
    (faithful : Faithful d s ⟨msg, .uniswapV2Call sender amount0 amount1 data⟩)
    (passes : v2Guards d s msg sender data = .ok ctx) :
    msg.sender = ctx.pair ∧ ∃ allowed, s.opening = some (.v2 ctx data allowed) ∧
      ∀ step ∈ ctx.steps, allowed step.router = true := by
  obtain ⟨inProgress, _, decoded, sameId, source⟩ := v2Guards_eq_ok.mp passes
  obtain ⟨opened, allowed, remembered⟩ := faithful ctx inProgress decoded sameId source.symm
  obtain ⟨opening, found, genuine⟩ := kept inProgress
  cases Option.some.inj (found.symm.trans remembered)
  obtain ⟨_, encoded, routers⟩ := genuine
  have same : opened = ctx := by
    rw [encoded, d.decode_encodeV2] at decoded
    exact Option.some.inj decoded
  subst same
  exact ⟨source, allowed, remembered, routers⟩

theorem v3Guards_authentic {msg : Message} {amount0Delta amount1Delta : Int} {data : Data}
    {ctx : V3CallbackContext} (kept : Opened d s)
    (faithful : Faithful d s ⟨msg, .uniswapV3SwapCallback amount0Delta amount1Delta data⟩)
    (passes : v3Guards d s msg data = .ok ctx) :
    msg.sender = ctx.pool ∧ ∃ allowed, s.opening = some (.v3 ctx data allowed) ∧
      ∀ step ∈ ctx.steps, allowed step.router = true := by
  obtain ⟨inProgress, decoded, sameId, source⟩ := v3Guards_eq_ok.mp passes
  obtain ⟨opened, allowed, remembered⟩ := faithful ctx inProgress decoded sameId source.symm
  obtain ⟨opening, found, genuine⟩ := kept inProgress
  cases Option.some.inj (found.symm.trans remembered)
  obtain ⟨_, encoded, routers⟩ := genuine
  have same : opened = ctx := by
    rw [encoded, d.decode_encodeV3] at decoded
    exact Option.some.inj decoded
  subst same
  exact ⟨source, allowed, remembered, routers⟩

end Guards

section Runs

variable {d}

theorem safe_body {s : Storage Data} {call : Call Data} (kept : Opened d s) (faithful : Faithful d s call) :
    (body d call).Safe (Opened d) (ApprovesAllowed s) (fun _ => Opened d) s := by
  obtain ⟨msg, entry⟩ := call
  have owned : (onlyOwner msg : Exec Data Unit).Safe (Opened d) (ApprovesAllowed s) (fun _ => Opened d) s :=
    Quiet.safe (quiet_onlyOwner msg) kept
  cases entry with
  | transferOwnership newOwner =>
    exact Safe.bind owned fun _ t opened => Safe.refuse_bind fun _ => Safe.read_bind opened
  | setAuthorizedOperator operator allowed =>
    exact Safe.bind owned fun _ t opened => safe_setAllowedAddress (fun _ opened' => opened') opened
  | setAllowedV2Pair pair allowed =>
    exact Safe.bind owned fun _ t opened => safe_setAllowedAddress (fun _ opened' => opened') opened
  | setAllowedV2Pairs pairs allowed =>
    exact Safe.bind owned fun _ t opened => safe_setAllowedAddresses (fun _ _ opened' => opened') pairs opened
  | setAllowedV3Pool pool allowed =>
    exact Safe.bind owned fun _ t opened => safe_setAllowedAddress (fun _ opened' => opened') opened
  | setAllowedV3Pools pools allowed =>
    exact Safe.bind owned fun _ t opened => safe_setAllowedAddresses (fun _ _ opened' => opened') pools opened
  | setAllowedRouter router allowed =>
    exact Safe.bind owned fun _ t opened => safe_setAllowedAddress (fun _ opened' => opened') opened
  | setAllowedRouters routers allowed =>
    exact Safe.bind owned fun _ t opened => safe_setAllowedAddresses (fun _ _ opened' => opened') routers opened
  | setAllowedBorrowToken token allowed =>
    exact Safe.bind owned fun _ t opened => safe_setAllowedAddress (fun _ opened' => opened') opened
  | setAllowedBorrowTokens tokens allowed =>
    exact Safe.bind owned fun _ t opened => safe_setAllowedAddresses (fun _ _ opened' => opened') tokens opened
  | setAllowedFeeTier feeTier allowed => exact Safe.bind owned fun _ t opened => Safe.read_bind opened
  | setAllowedFeeTiers feeTiers allowed =>
    exact Safe.bind owned fun _ t opened => Safe.read_bind (opened_putFeeTiers feeTiers allowed opened)
  | rescueToken token recipient amount =>
    exact Safe.bind owned fun _ t opened => Safe.refuse_bind fun _ => Safe.refuse_bind fun _ =>
      Quiet.safe (quiet_transferToken trivial) opened
  | rescueNative recipient amount =>
    refine Safe.bind owned fun _ t opened => Safe.refuse_bind fun _ => Safe.refuse_bind fun _ => ?_
    refine Safe.bind (Quiet.safe (quiet_ask trivial) opened) fun balance t' opened' => Safe.refuse_bind fun _ => ?_
    have sends : (sendNative recipient amount >>= fun ok => refuse (ok = false) .repaymentFailed :
        Exec Data Unit).Quiet (ApprovesAllowed s) :=
      Quiet.bind (quiet_ask trivial) fun _ => Quiet.refuse _ _ _
    exact Quiet.safe sends opened'
  | startV2FlashSwap pair borrowToken borrowAmount minProfit profitToken profitRecipient steps =>
    exact safe_startV2FlashSwap kept
  | startV3FlashSwap pool borrowToken borrowAmount feeTier minProfit profitToken profitRecipient steps =>
    exact safe_startV3FlashSwap kept
  | uniswapV2Call sender amount0 amount1 data =>
    refine Safe.read_bind (safe_ofExcept_bind fun ctx passes => ?_)
    obtain ⟨_, allowed, remembered, routers⟩ := v2Guards_authentic kept faithful passes
    have approves : ∀ step ∈ ctx.steps, ∀ token n, ApprovesAllowed s (.approve token step.router n) :=
      fun step member _ _ => ⟨_, remembered, routers step member⟩
    have quiet : (tradeV2 d msg ctx amount0 amount1).Quiet (ApprovesAllowed s) :=
      quiet_tradeV2 (fun _ view => approvesAllowed_of_other (.inl view))
        (fun _ trade => approvesAllowed_of_other (.inr trade)) _ _ approves
    exact Safe.bind (Safe.bind (Quiet.safe quiet kept) fun preProfitBalance t opened => safe_closeExecution opened)
      fun _ t opened => opened
  | uniswapV3SwapCallback amount0Delta amount1Delta data =>
    refine Safe.read_bind (safe_ofExcept_bind fun ctx passes => ?_)
    obtain ⟨_, allowed, remembered, routers⟩ := v3Guards_authentic kept faithful passes
    have approves : ∀ step ∈ ctx.steps, ∀ token n, ApprovesAllowed s (.approve token step.router n) :=
      fun step member _ _ => ⟨_, remembered, routers step member⟩
    have quiet : (tradeV3 d msg ctx amount0Delta amount1Delta).Quiet (ApprovesAllowed s) :=
      quiet_tradeV3 (fun _ view => approvesAllowed_of_other (.inl view))
        (fun _ trade => approvesAllowed_of_other (.inr trade)) _ _ approves
    exact Safe.bind (Safe.bind (Quiet.safe quiet kept) fun preProfitBalance t opened => safe_closeExecution opened)
      fun _ t opened => opened

theorem callbackAuthentic_of_faithful {s : Storage Data} {call : Call Data} (kept : Opened d s)
    (faithful : Faithful d s call) : CallbackAuthentic d s call := by
  obtain ⟨msg, entry⟩ := call
  cases entry with
  | uniswapV2Call sender amount0 amount1 data =>
    intro ctx passes
    obtain ⟨source, allowed, remembered, _⟩ := v2Guards_authentic kept faithful passes
    obtain ⟨_, _, _, sameId, _⟩ := v2Guards_eq_ok.mp passes
    exact ⟨ctx, data, allowed, remembered, sameId, source, rfl⟩
  | uniswapV3SwapCallback amount0Delta amount1Delta data =>
    intro ctx passes
    obtain ⟨source, allowed, remembered, _⟩ := v3Guards_authentic kept faithful passes
    obtain ⟨_, _, sameId, _⟩ := v3Guards_eq_ok.mp passes
    exact ⟨ctx, data, allowed, remembered, sameId, source, rfl⟩
  | _ => trivial

/-- Without an execution in progress there is nothing to bring. -/
theorem faithful_of_idle {s : Storage Data} (idle : s.executionInProgress = false) (call : Call Data) :
    Faithful d s call := by
  obtain ⟨msg, entry⟩ := call
  cases entry with
  | uniswapV2Call sender amount0 amount1 data => exact fun _ inProgress => absurd inProgress (by simp [idle])
  | uniswapV3SwapCallback amount0Delta amount1Delta data =>
    exact fun _ inProgress => absurd inProgress (by simp [idle])
  | _ => trivial

theorem authentic_of_idle {s : Storage Data} (idle : s.executionInProgress = false) : Authentic d s := by
  have kept : Opened d s := fun inProgress => absurd inProgress (by simp [idle])
  exact ⟨fun call => callbackAuthentic_of_faithful kept (faithful_of_idle idle call),
    fun call => safe_body kept (faithful_of_idle idle call)⟩

/-- Somebody who is not the recipient of the remembered execution. -/
def stranger (s : Storage Data) : Address :=
  match s.opening with
  | some (.v2 ctx _ _) => ctx.profitRecipient + 1
  | _ => 1

/-- A context that carries the active id, sends the profit to the stranger and names it as the pair. -/
def forgedFor (s : Storage Data) : V2CallbackContext where
  executionId := s.activeExecutionId
  pair := stranger s
  borrowToken := 0
  borrowAmount := 0
  minProfit := 0
  profitToken := 0
  profitRecipient := stranger s
  steps := []

/-- While an execution is in progress, a stranger gets past the guards with a context of its own. -/
theorem not_authentic_of_inProgress {s : Storage Data} (inProgress : s.executionInProgress = true) :
    ¬ Authentic d s := by
  intro authentic
  have passes : v2Guards d s ⟨stranger s, 0, 0⟩ d.self (d.encodeV2 (forgedFor s)) = .ok (forgedFor s) :=
    v2Guards_eq_ok.mpr ⟨inProgress, rfl, d.decode_encodeV2 _, rfl, rfl⟩
  have promised : CallbackAuthentic d s ⟨⟨stranger s, 0, 0⟩, .uniswapV2Call d.self 0 0 (d.encodeV2 (forgedFor s))⟩ :=
    authentic.callbacks _
  obtain ⟨ctx, handed, allowed, remembered, _, _, same⟩ := promised _ passes
  have recipient : stranger s = ctx.profitRecipient + 1 := by rw [stranger, remembered]
  have named : stranger s = ctx.profitRecipient := congrArg V2CallbackContext.profitRecipient same
  rw [recipient] at named
  simp at named

/-- Forged or not, a callback leaves only executions that a start call has opened. -/
theorem opened_body {s : Storage Data} (kept : Opened d s) (call : Call Data) :
    (body d call).Safe (Opened d) (fun _ => True) (fun _ => Opened d) s := by
  have others (faithful : Faithful d s call) : (body d call).Safe (Opened d) (fun _ => True) (fun _ => Opened d) s :=
    (safe_body kept faithful).mono (fun _ _ => trivial) fun _ _ opened => opened
  have closes (profitToken profitRecipient : Address) (minProfit preProfitBalance : Nat) (t : Storage Data)
      (opened : Opened d t) : (closeExecution d profitToken profitRecipient minProfit preProfitBalance).Safe (Opened d)
        (fun _ => True) (fun _ => Opened d) t := by
    have safe : (closeExecution d profitToken profitRecipient minProfit preProfitBalance).Safe (Opened d)
        (ApprovesAllowed s) (fun _ => Opened d) t := safe_closeExecution opened
    exact safe.mono (fun _ _ => trivial) fun _ _ opened' => opened'
  obtain ⟨msg, entry⟩ := call
  cases entry with
  | uniswapV2Call sender amount0 amount1 data =>
    refine Safe.read_bind (safe_ofExcept_bind fun ctx _ => ?_)
    have quiet : (tradeV2 d msg ctx amount0 amount1).Quiet fun _ => True :=
      quiet_tradeV2 (fun _ _ => trivial) (fun _ _ => trivial) _ _ fun _ _ _ _ => trivial
    refine Safe.bind (Safe.bind (Quiet.safe quiet kept) fun preProfitBalance t opened => ?_) fun _ t opened => opened
    exact closes _ _ _ _ t opened
  | uniswapV3SwapCallback amount0Delta amount1Delta data =>
    refine Safe.read_bind (safe_ofExcept_bind fun ctx _ => ?_)
    have quiet : (tradeV3 d msg ctx amount0Delta amount1Delta).Quiet fun _ => True :=
      quiet_tradeV3 (fun _ _ => trivial) (fun _ _ => trivial) _ _ fun _ _ _ _ => trivial
    refine Safe.bind (Safe.bind (Quiet.safe quiet kept) fun preProfitBalance t opened => ?_) fun _ t opened => opened
    exact closes _ _ _ _ t opened
  | _ => exact others trivial

/-- In every state that a run of any calls reaches, an execution in progress was opened by a start call, and
the promise holds exactly when there is none. -/
theorem authentic_iff_idle {owner : Address} {m : Machine (Storage Data) (@Reply Data) Error (Call Data)}
    (reach : Reach (contract d) (fun _ _ => True) (deployed owner) m) :
    Opened d m.storage ∧ (Authentic d m.storage ↔ m.storage.executionInProgress = false) := by
  have initially : Opened d (deployed owner) := fun inProgress => absurd inProgress (by simp [deployed])
  have bodies : ∀ (s : Storage Data) call, Opened d s → True →
      ((contract d).body call).Safe (Opened d) (fun _ => True) (fun _ => Opened d) s :=
    fun _ call opened _ => opened_body opened call
  have kept : m.Keeps (Opened d) fun _ _ _ => True := Reach.keeps bodies initially reach
  refine ⟨kept.1, fun authentic => ?_, authentic_of_idle⟩
  by_contra running
  exact not_authentic_of_inProgress (by simpa using running) authentic

end Runs

section Forged

/-- The owner opens an execution on pair 2. -/
def openedContext : V2CallbackContext :=
  { executionId := 7
    pair := 2
    borrowToken := 3
    borrowAmount := 6
    minProfit := 1
    profitToken := 5
    profitRecipient := 1
    steps := [⟨4, [3, 5], 6, 1⟩] }

/-- Someone else names itself as the pair, with a router of its own. -/
def forgedContext : V2CallbackContext :=
  { openedContext with
    pair := 9
    profitRecipient := 9
    minProfit := 0
    steps := [⟨8, [3, 5], 6, 1⟩] }

def Entry.isCallback {Data : Type} : Entry Data → Bool
  | .uniswapV2Call .. | .uniswapV3SwapCallback .. => true
  | _ => false

def byOwner (entry : Entry PlainData) : Call PlainData := ⟨⟨1, 1, 0⟩, entry⟩

/-- The allowlists the owner sets up. -/
def listed : Storage PlainData :=
  putRouter (putBorrowToken (putV2Pair (deployed 1) 2 true) 3 true) 4 true

/-- The storage while the pair has control. -/
def opened : Storage PlainData :=
  { listed with
    executionInProgress := true
    activeExecutionId := 7
    opening := some (.v2 openedContext (.inl openedContext) listed.allowedRouters) }

theorem reach_listed (admissible : Storage PlainData → Call PlainData → Prop)
    (admitted : ∀ s entry, entry.isCallback = false → admissible s (byOwner entry)) :
    Reach (contract plain) admissible (deployed 1) ⟨listed, []⟩ := by
  have pair : Reach (contract plain) admissible (deployed 1) ⟨putV2Pair (deployed 1) 2 true, []⟩ :=
    Reach.next Reach.start (Step.enter (by simp) (admitted _ (.setAllowedV2Pair 2 true) rfl))
  have token : Reach (contract plain) admissible (deployed 1)
      ⟨putBorrowToken (putV2Pair (deployed 1) 2 true) 3 true, []⟩ :=
    Reach.next pair (Step.enter (by simp) (admitted _ (.setAllowedBorrowToken 3 true) rfl))
  exact Reach.next token (Step.enter (by simp) (admitted _ (.setAllowedRouter 4 true) rfl))

/-- The owner's start call, up to the moment the pair has control. -/
theorem reach_opened (admissible : Storage PlainData → Call PlainData → Prop)
    (admitted : ∀ s entry, entry.isCallback = false → admissible s (byOwner entry)) :
    ∃ stack, Reach (contract plain) admissible (deployed 1) ⟨opened, stack⟩ := by
  have entered := Reach.next (reach_listed admissible admitted) (Step.enter (by simp)
    (admitted _ (.startV2FlashSwap 2 3 6 1 5 1 openedContext.steps) rfl))
  have first := Reach.next entered (Step.reply (show @Reply PlainData (.token0 2) from (3 : Address)))
  have second := Reach.next first (Step.reply (show @Reply PlainData (.token1 2) from (5 : Address)))
  exact ⟨_, second⟩

/-- The pair of the start call calls back with the bytes it was given. -/
def genuineCallback : Call PlainData := ⟨⟨2, 1, 0⟩, .uniswapV2Call 100 6 0 (.inl openedContext)⟩

def forgedCallback : Call PlainData := ⟨⟨9, 1, 0⟩, .uniswapV2Call 100 6 0 (.inl forgedContext)⟩

/-- The promise holds while the allowlists are set up, and is gone once the pair has control. -/
theorem authentic_iff_idle_opened : Authentic plain listed ∧ ¬ Authentic plain opened := by
  have setUp := reach_listed (fun _ _ => True) fun _ _ _ => trivial
  obtain ⟨stack, reach⟩ := reach_opened (fun _ _ => True) fun _ _ _ => trivial
  refine ⟨(authentic_iff_idle setUp).2.mpr rfl, fun authentic => ?_⟩
  have idle : opened.executionInProgress = false := (authentic_iff_idle reach).2.mp authentic
  exact absurd idle (by decide)

/-- While the pair has control a stranger gets past the guards: the context it brings carries the active id and
names the stranger itself as the pair. -/
theorem forgedCallback_passes_guards :
    ¬ ∀ (owner : Address) (m : Machine (Storage PlainData) (@Reply PlainData) Error (Call PlainData)),
      Reach (contract plain) (fun _ _ => True) (deployed owner) m →
      (∀ call, CallbackAuthentic plain m.storage call) ∧ ∀ frame ∈ m.stack, FrameApprovesAllowed frame := by
  intro claimed
  obtain ⟨stack, reach⟩ := reach_opened (fun _ _ => True) fun _ _ _ => trivial
  have authentic : CallbackAuthentic plain opened forgedCallback := (claimed 1 _ reach).1 forgedCallback
  have passes : v2Guards plain opened ⟨9, 1, 0⟩ 100 (.inl forgedContext) = .ok forgedContext := rfl
  obtain ⟨ctx, handed, allowed, remembered, _, _, same⟩ := authentic forgedContext passes
  cases Option.some.inj remembered
  exact absurd same (by decide)

end Forged

end ArbitrageRuntime.Executor
