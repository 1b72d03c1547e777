import ArbitrageRuntime.Executor.Authenticity

namespace ArbitrageRuntime.Executor

open Interaction Interaction.Prog CallMachine

variable {Data : Type}

/-- The part of the storage that says who may do what. -/
structure Permissions where
  owner : Address
  authorizedOperators : Address → Bool
  allowedV2Pairs : Address → Bool
  allowedV3Pools : Address → Bool
  allowedRouters : Address → Bool
  allowedBorrowTokens : Address → Bool
  allowedFeeTiers : Nat → Bool

def Storage.permissions (s : Storage Data) : Permissions where
  owner := s.owner
  authorizedOperators := s.authorizedOperators
  allowedV2Pairs := s.allowedV2Pairs
  allowedV3Pools := s.allowedV3Pools
  allowedRouters := s.allowedRouters
  allowedBorrowTokens := s.allowedBorrowTokens
  allowedFeeTiers := s.allowedFeeTiers

section Guards

variable {β : Type} {inv : Storage Data → Prop} {asks : Request Data → Prop} {after : β → Storage Data → Prop}
  {s : Storage Data} {msg : Message} {f : Unit → Exec Data β}

theorem safe_onlyOwner_bind (rest : msg.sender = s.owner → (f ()).Safe inv asks after s) :
    (onlyOwner msg >>= f).Safe inv asks after s :=
  Safe.read_bind (Safe.refuse_bind fun same => rest (not_ne_iff.mp same))

theorem safe_onlyAuthorizedOperator_bind
    (rest : s.authorizedOperators msg.sender = true → (f ()).Safe inv asks after s) :
    (onlyAuthorizedOperator msg >>= f).Safe inv asks after s :=
  Safe.read_bind (Safe.refuse_bind fun authorized => rest (by simpa using authorized))

end Guards

section Entries

variable (d : Deployment Data)

/-- The entry points that only the owner may call. -/
def Entry.isAdministration : Entry Data → Bool
  | .startV2FlashSwap .. | .startV3FlashSwap .. | .uniswapV2Call .. | .uniswapV3SwapCallback .. => false
  | _ => true

variable {d} {inv : Storage Data → Prop} {asks : Request Data → Prop} {after : Unit → Storage Data → Prop}
  {s : Storage Data}

/-- Everything that administers the contract refuses whoever is not its owner. -/
theorem safe_administration {call : Call Data} (administers : call.entry.isAdministration = true)
    (other : call.msg.sender ≠ s.owner) : (body d call).Safe inv asks after s := by
  obtain ⟨msg, entry⟩ := call
  cases entry with
  | startV2FlashSwap | startV3FlashSwap | uniswapV2Call | uniswapV3SwapCallback =>
    exact absurd administers (by simp [Entry.isAdministration])
  | _ => exact safe_onlyOwner_bind fun same => absurd same other

end Entries

section Strangers

variable {d : Deployment Data} {initial : Storage Data}

/-- Neither the owner nor one of the operators. -/
def Stranger (s : Storage Data) (sender : Address) : Prop :=
  sender ≠ s.owner ∧ s.authorizedOperators sender = false

theorem safe_stranger {call : Call Data} (idle : initial.executionInProgress = false)
    (stranger : Stranger initial call.msg.sender) :
    (body d call).Safe (fun s => s = initial) (fun _ => False) (fun _ s => s = initial) initial := by
  obtain ⟨notOwner, notOperator⟩ := stranger
  obtain ⟨msg, entry⟩ := call
  cases entry with
  | startV2FlashSwap pair borrowToken borrowAmount minProfit profitToken profitRecipient steps =>
    exact safe_onlyAuthorizedOperator_bind fun authorized => absurd (authorized.symm.trans notOperator) (by simp)
  | startV3FlashSwap pool borrowToken borrowAmount feeTier minProfit profitToken profitRecipient steps =>
    exact safe_onlyAuthorizedOperator_bind fun authorized => absurd (authorized.symm.trans notOperator) (by simp)
  | uniswapV2Call sender amount0 amount1 data =>
    refine Safe.read_bind (safe_ofExcept_bind fun ctx passes => ?_)
    have inProgress := (v2Guards_eq_ok.mp passes).1
    exact absurd (inProgress.symm.trans idle) (by simp)
  | uniswapV3SwapCallback amount0Delta amount1Delta data =>
    refine Safe.read_bind (safe_ofExcept_bind fun ctx passes => ?_)
    have inProgress := (v3Guards_eq_ok.mp passes).1
    exact absurd (inProgress.symm.trans idle) (by simp)
  | _ => exact safe_administration rfl notOwner

/-- Among strangers a resting executor stays as it is and calls nobody, in whatever order and depth they call it. -/
theorem strangers_change_nothing {m : Machine (Storage Data) (@Reply Data) Error (Call Data)}
    (idle : initial.executionInProgress = false)
    (reach : Reach (contract d) (fun _ call => Stranger initial call.msg.sender) initial m) :
    m.storage = initial ∧ ∀ frame ∈ m.stack, ∃ before, frame = .foreign before := by
  have bodies : ∀ (s : Storage Data) call, s = initial → Stranger initial call.msg.sender →
      ((contract d).body call).Safe (fun s => s = initial) (fun _ => False) (fun _ s => s = initial) s := by
    rintro s call rfl stranger
    exact safe_stranger idle stranger
  have kept : m.Keeps (fun s => s = initial) fun _ _ _ => False := Reach.keeps bodies rfl reach
  refine ⟨kept.1, fun frame member => ?_⟩
  cases frame with
  | own call entered request next atCall => exact (kept.2 _ member).2.2.1.elim
  | foreign before => exact ⟨before, rfl⟩

/-- The callback that gets past the guards of an open execution meets a resting executor. -/
theorem strangers_change_nothing_forged :
    (afterRun forgedCallback listed [.foreign listed] ((body plain forgedCallback).run listed)).storage = listed ∧
      ∀ frame ∈ (afterRun forgedCallback listed [.foreign listed] ((body plain forgedCallback).run listed)).stack,
        ∃ before, frame = .foreign before := by
  have stranger : Stranger listed forgedCallback.msg.sender := ⟨by decide, by decide⟩
  have called : Reach (contract plain) (fun _ call => Stranger listed call.msg.sender) listed
      ⟨listed, [.foreign listed]⟩ := .next .start .foreignCall
  exact strangers_change_nothing rfl (.next called (.enter (by simp [Frame.isStatic]) stranger))

end Strangers

section Causes

variable (d : Deployment Data)

/-- What a V2 callback behind its guards may ask for. -/
def V2CallbackContext.Asks (ctx : V2CallbackContext) (msg : Message) : Request Data → Prop
  | .transfer token recipient _ => token = ctx.profitToken ∧ (recipient = ctx.pair ∨ recipient = ctx.profitRecipient)
  | .approve token spender _ => ∃ step ∈ ctx.steps, spender = step.router ∧ step.path.head? = some token
  | .swapExactTokensForTokens router _ amountOutMin path recipient deadline =>
    recipient = d.self ∧ deadline = msg.timestamp ∧
      ∃ step ∈ ctx.steps, router = step.router ∧ path = step.path ∧ amountOutMin = step.minOut
  | request => request.isView = true

def V3CallbackContext.Asks (ctx : V3CallbackContext) (msg : Message) : Request Data → Prop
  | .transfer token recipient _ => recipient = ctx.pool ∨ token = ctx.profitToken ∧ recipient = ctx.profitRecipient
  | .approve token spender _ => ∃ step ∈ ctx.steps, spender = step.router ∧ v3PathTokenIn step.path = .ok token
  | .exactInput router path recipient deadline _ amountOutMinimum =>
    recipient = d.self ∧ deadline = msg.timestamp ∧
      ∃ step ∈ ctx.steps, router = step.router ∧ path = step.path ∧ amountOutMinimum = step.minOut
  | request => request.isView = true

/-- Why the contract makes a request, in terms of the call that it serves and its storage when this call came in. -/
def Caused (call : Call Data) (entered : Storage Data) (request : Request Data) : Prop :=
  match call.entry with
  | .rescueToken token recipient amount =>
    call.msg.sender = entered.owner ∧ request = .transfer token recipient amount
  | .rescueNative recipient amount =>
    call.msg.sender = entered.owner ∧ (request = .nativeBalance ∨ request = .sendNative recipient amount)
  | .startV2FlashSwap pair borrowToken borrowAmount .. =>
    entered.authorizedOperators call.msg.sender = true ∧ entered.allowedV2Pairs pair = true ∧
      entered.allowedBorrowTokens borrowToken = true ∧
      (request.isView = true ∨ ∃ out0 out1 data, request = .swapV2 pair out0 out1 d.self data ∧
        out0 ≤ borrowAmount ∧ out1 ≤ borrowAmount)
  | .startV3FlashSwap pool borrowToken borrowAmount feeTier .. =>
    entered.authorizedOperators call.msg.sender = true ∧ entered.allowedV3Pools pool = true ∧
      entered.allowedBorrowTokens borrowToken = true ∧ entered.allowedFeeTiers feeTier = true ∧
      (request.isView = true ∨ ∃ zeroForOne limit data,
        request = .swapV3 pool d.self zeroForOne (-wordAsInt256 borrowAmount) limit data)
  | .uniswapV2Call sender _ _ data =>
    ∃ ctx, v2Guards d entered call.msg sender data = .ok ctx ∧ ctx.Asks d call.msg request
  | .uniswapV3SwapCallback _ _ data =>
    ∃ ctx, v3Guards d entered call.msg data = .ok ctx ∧ ctx.Asks d call.msg request
  | _ => False

variable {d} {msg : Message} {inv : Storage Data → Prop}

theorem V2CallbackContext.asks_view {ctx : V2CallbackContext} {request : Request Data} (view : request.isView = true) :
    ctx.Asks d msg request := by
  cases request with
  | transfer | approve | swapExactTokensForTokens => exact absurd view (by simp [Request.isView])
  | _ => exact view

theorem V3CallbackContext.asks_view {ctx : V3CallbackContext} {request : Request Data} (view : request.isView = true) :
    ctx.Asks d msg request := by
  cases request with
  | transfer | approve | exactInput => exact absurd view (by simp [Request.isView])
  | _ => exact view

theorem asks_runV2Steps {ctx : V2CallbackContext} {steps : List V2SwapStep} (stepIndex : Nat)
    (inside : ∀ step ∈ steps, step ∈ ctx.steps) : (runV2Steps d msg stepIndex steps).Quiet (ctx.Asks d msg) := by
  induction steps generalizing stepIndex with
  | nil => trivial
  | cons step rest ih =>
    have own := inside step List.mem_cons_self
    refine Quiet.bind ?_ fun _ => ih (stepIndex + 1) fun later member => inside later (List.mem_cons_of_mem step member)
    rcases executeV2Step_cases d msg step stepIndex with ⟨_, fails⟩ | ⟨tokenIn, tokenOut, first, _, routed⟩
    · rw [fails]
      trivial
    · rw [routed]
      refine quiet_routedStep (fun _ => V2CallbackContext.asks_view) (fun n => ⟨step, own, rfl, first⟩) fun amountIn => ?_
      exact Quiet.bind (quiet_ask ⟨rfl, rfl, step, own, rfl, rfl, rfl⟩) fun amounts => quiet_lastReported stepIndex amounts

theorem asks_runV3Steps {ctx : V3CallbackContext} {steps : List V3SwapStep} (stepIndex : Nat)
    (inside : ∀ step ∈ steps, step ∈ ctx.steps) : (runV3Steps d msg stepIndex steps).Quiet (ctx.Asks d msg) := by
  induction steps generalizing stepIndex with
  | nil => trivial
  | cons step rest ih =>
    have own := inside step List.mem_cons_self
    refine Quiet.bind ?_ fun _ => ih (stepIndex + 1) fun later member => inside later (List.mem_cons_of_mem step member)
    rcases executeV3Step_cases d msg step stepIndex with ⟨_, fails⟩ | ⟨tokenIn, tokenOut, first, _, routed⟩
    · rw [fails]
      trivial
    · rw [routed]
      refine quiet_routedStep (fun _ => V3CallbackContext.asks_view) (fun n => ⟨step, own, rfl, first⟩) fun amountIn => ?_
      exact quiet_ask ⟨rfl, rfl, step, own, rfl, rfl, rfl⟩

theorem asks_tradeV2 {ctx : V2CallbackContext} (amount0 amount1 : Nat) :
    (tradeV2 d msg ctx amount0 amount1).Quiet (ctx.Asks d msg) := by
  have views : ∀ request : Request Data, request.isView = true → ctx.Asks d msg request :=
    fun _ => V2CallbackContext.asks_view
  refine Quiet.bind (quiet_ask (views _ rfl)) fun preProfitBalance => ?_
  refine Quiet.bind (asks_runV2Steps 0 fun step member => member) fun _ => Quiet.bind ?_ fun _ => trivial
  refine Quiet.bind (quiet_v2RepaymentAmountIn views _ _ _ _) fun repaymentAmount => ?_
  have repays : ctx.Asks d msg (.transfer ctx.profitToken ctx.pair repaymentAmount) := ⟨rfl, .inl rfl⟩
  exact Quiet.bind (quiet_transferToken repays) fun _ => trivial

theorem asks_tradeV3 {ctx : V3CallbackContext} (amount0Delta amount1Delta : Int) :
    (tradeV3 d msg ctx amount0Delta amount1Delta).Quiet (ctx.Asks d msg) := by
  have views : ∀ request : Request Data, request.isView = true → ctx.Asks d msg request :=
    fun _ => V3CallbackContext.asks_view
  have repays : ∀ token amount, ctx.Asks d msg (.transfer token ctx.pool amount) := fun _ _ => .inl rfl
  refine Quiet.bind (quiet_ask (views _ rfl)) fun preProfitBalance => ?_
  refine Quiet.bind (asks_runV3Steps 0 fun step member => member) fun _ => Quiet.bind ?_ fun _ => trivial
  refine Quiet.bind (quiet_ask (views _ rfl)) fun first => Quiet.bind (quiet_ask (views _ rfl)) fun second => ?_
  refine Quiet.bind (quiet_payDelta (repays _ _)) fun owed0 => Quiet.bind (quiet_payDelta (repays _ _)) fun owed1 => ?_
  exact quiet_checkedAdd _ _

/-- What depends on the permissions alone survives the end of an execution. -/
theorem asks_finalizeExecution {asks : Request Data → Prop} {profitToken profitRecipient : Address} {grossProfit : Nat}
    {s : Storage Data} (untouched : ∀ t t' : Storage Data, t'.permissions = t.permissions → inv t → inv t')
    (pays : ∀ amount, asks (.transfer profitToken profitRecipient amount)) (kept : inv s) :
    (finalizeExecution d profitToken profitRecipient grossProfit).Safe inv asks (fun _ => inv) s := by
  have clears : ∀ t : Storage Data, inv t →
      (do let t ← read
          write { t with executionInProgress := false, activeExecutionId := 0, opening := none }
          Prog.done grossProfit : Exec Data Nat).Safe inv asks (fun _ => inv) t :=
    fun t held => untouched t _ rfl held
  unfold finalizeExecution
  dsimp only
  split
  · exact Safe.bind (Quiet.safe (quiet_transferToken (pays _)) kept) fun _ t held => clears t held
  · exact clears s kept

theorem asks_closeExecution {asks : Request Data → Prop} {profitToken profitRecipient : Address}
    {minProfit preProfitBalance : Nat} {s : Storage Data}
    (untouched : ∀ t t' : Storage Data, t'.permissions = t.permissions → inv t → inv t')
    (views : ∀ request, request.isView = true → asks request)
    (pays : ∀ amount, asks (.transfer profitToken profitRecipient amount)) (kept : inv s) :
    (closeExecution d profitToken profitRecipient minProfit preProfitBalance).Safe inv asks (fun _ => inv) s := by
  refine Safe.bind (Quiet.safe (quiet_ask (views _ rfl)) kept) fun postProfitBalance t kept' => ?_
  exact Safe.bind (asks_finalizeExecution untouched pays kept') fun netProfit t' held => Safe.refuse_bind fun _ => held

theorem asks_beginExecution {asks : Request Data → Prop} {executionId : Nat} {opening : Opening Data} {s : Storage Data}
    (untouched : ∀ t t' : Storage Data, t'.permissions = t.permissions → inv t → inv t') (kept : inv s) :
    (beginExecution executionId opening).Safe inv asks (fun _ => inv) s :=
  Safe.read_bind (Safe.refuse_bind fun _ => untouched s _ rfl kept)

/-- The entry points that trade ask for what they are meant to, and leave the permissions alone. -/
theorem safe_trading {call : Call Data} (trades : call.entry.isAdministration = false) {s : Storage Data}
    (untouched : ∀ t t' : Storage Data, t'.permissions = t.permissions → inv t → inv t') (kept : inv s) :
    (body d call).Safe inv (Caused d call s) (fun _ => inv) s := by
  obtain ⟨msg, entry⟩ := call
  cases entry with
  | startV2FlashSwap pair borrowToken borrowAmount minProfit profitToken profitRecipient steps =>
    refine safe_onlyAuthorizedOperator_bind fun authorized => ?_
    refine Safe.refuse_bind fun _ => Safe.refuse_bind fun _ => Safe.read_bind (Safe.refuse_bind fun listed => ?_)
    refine Safe.refuse_bind fun borrowable => safe_ofExcept_bind fun _ _ => ?_
    have supported : s.allowedV2Pairs pair = true := by simpa using listed
    have lendable : s.allowedBorrowTokens borrowToken = true := by simpa using borrowable
    refine Safe.bind (Quiet.safe (quiet_ask ⟨authorized, supported, lendable, .inl rfl⟩) kept) fun first s1 kept1 => ?_
    refine Safe.bind (Quiet.safe (quiet_ask ⟨authorized, supported, lendable, .inl rfl⟩) kept1) fun second s2 kept2 => ?_
    refine Safe.refuse_bind fun _ => Safe.bind (asks_beginExecution untouched kept2) fun _ s3 kept3 => ?_
    refine Quiet.safe (quiet_ask ⟨authorized, supported, lendable, .inr ⟨_, _, _, rfl, ?_, ?_⟩⟩) kept3
    · split <;> omega
    · split <;> omega
  | startV3FlashSwap pool borrowToken borrowAmount feeTier minProfit profitToken profitRecipient steps =>
    refine safe_onlyAuthorizedOperator_bind fun authorized => ?_
    refine Safe.refuse_bind fun _ => Safe.refuse_bind fun _ => Safe.read_bind (Safe.refuse_bind fun listed => ?_)
    refine Safe.refuse_bind fun borrowable => Safe.refuse_bind fun tier => safe_ofExcept_bind fun _ _ => ?_
    have supported : s.allowedV3Pools pool = true := by simpa using listed
    have lendable : s.allowedBorrowTokens borrowToken = true := by simpa using borrowable
    have tiered : s.allowedFeeTiers feeTier = true := by simpa using tier
    refine Safe.bind (Quiet.safe (quiet_ask ⟨authorized, supported, lendable, tiered, .inl rfl⟩) kept)
      fun first s1 kept1 => ?_
    refine Safe.bind (Quiet.safe (quiet_ask ⟨authorized, supported, lendable, tiered, .inl rfl⟩) kept1)
      fun second s2 kept2 => ?_
    refine Safe.refuse_bind fun _ => Safe.bind (asks_beginExecution untouched kept2) fun _ s3 kept3 => ?_
    unfold startV3PoolSwap negatedInt256
    split
    · trivial
    · exact Safe.bind (Quiet.safe (quiet_ask ⟨authorized, supported, lendable, tiered, .inr ⟨_, _, _, rfl⟩⟩) kept3)
        fun _ s4 kept4 => kept4
  | uniswapV2Call sender amount0 amount1 data =>
    refine Safe.read_bind (safe_ofExcept_bind fun ctx passes => ?_)
    have asked : ∀ request, ctx.Asks d msg request →
        Caused d ⟨msg, .uniswapV2Call sender amount0 amount1 data⟩ s request :=
      fun request asks => ⟨ctx, passes, asks⟩
    refine Safe.bind (Safe.bind (Safe.mono (Quiet.safe (asks_tradeV2 amount0 amount1) kept) asked fun _ _ held => held)
      fun preProfitBalance t held => ?_) fun _ t held => held
    exact asks_closeExecution untouched (fun request view => asked request (V2CallbackContext.asks_view view))
      (fun amount => asked _ ⟨rfl, .inr rfl⟩) held
  | uniswapV3SwapCallback amount0Delta amount1Delta data =>
    refine Safe.read_bind (safe_ofExcept_bind fun ctx passes => ?_)
    have asked : ∀ request, ctx.Asks d msg request →
        Caused d ⟨msg, .uniswapV3SwapCallback amount0Delta amount1Delta data⟩ s request :=
      fun request asks => ⟨ctx, passes, asks⟩
    refine Safe.bind (Safe.bind (Safe.mono (Quiet.safe (asks_tradeV3 amount0Delta amount1Delta) kept) asked
      fun _ _ held => held) fun preProfitBalance t held => ?_) fun _ t held => held
    exact asks_closeExecution untouched (fun request view => asked request (V3CallbackContext.asks_view view))
      (fun amount => asked _ (.inr ⟨rfl, rfl⟩)) held
  | _ => exact absurd trades (by simp [Entry.isAdministration])

/-- An allowlist is written without a request. -/
theorem asks_setAllowedAddresses {asks : Request Data → Prop}
    {update : Storage Data → Address → Bool → Storage Data} {allowed : Bool} (keys : List Address) (s : Storage Data) :
    (setAllowedAddresses update allowed keys).Safe (fun _ => True) asks (fun _ _ => True) s := by
  induction keys generalizing s with
  | nil => trivial
  | cons key rest ih =>
    have first : (setAllowedAddress update key allowed).Safe (fun _ => True) asks (fun _ _ => True) s :=
      Safe.refuse_bind fun _ => Safe.read_bind trivial
    exact Safe.bind first fun _ t _ => ih t

/-- The owner's entry points ask for nothing but the two rescues. -/
theorem safe_administers {call : Call Data} (administers : call.entry.isAdministration = true) (s : Storage Data) :
    (body d call).Safe (fun _ => True) (Caused d call s) (fun _ _ => True) s := by
  obtain ⟨msg, entry⟩ := call
  cases entry with
  | transferOwnership newOwner =>
    exact safe_onlyOwner_bind fun _ => Safe.refuse_bind fun _ => Safe.read_bind trivial
  | setAllowedFeeTier feeTier allowed => exact safe_onlyOwner_bind fun _ => Safe.read_bind trivial
  | setAllowedFeeTiers feeTiers allowed => exact safe_onlyOwner_bind fun _ => Safe.read_bind trivial
  | setAllowedV2Pairs keys allowed | setAllowedV3Pools keys allowed | setAllowedRouters keys allowed
  | setAllowedBorrowTokens keys allowed => exact safe_onlyOwner_bind fun _ => asks_setAllowedAddresses keys s
  | setAuthorizedOperator key allowed | setAllowedV2Pair key allowed | setAllowedV3Pool key allowed
  | setAllowedRouter key allowed | setAllowedBorrowToken key allowed =>
    exact safe_onlyOwner_bind fun _ => Safe.refuse_bind fun _ => Safe.read_bind trivial
  | rescueToken token recipient amount =>
    refine safe_onlyOwner_bind fun owner => Safe.refuse_bind fun _ => Safe.refuse_bind fun _ => ?_
    have caused : Caused d ⟨msg, .rescueToken token recipient amount⟩ s (.transfer token recipient amount) := ⟨owner, rfl⟩
    exact Quiet.safe (quiet_transferToken caused) trivial
  | rescueNative recipient amount =>
    refine safe_onlyOwner_bind fun owner => Safe.refuse_bind fun _ => Safe.refuse_bind fun _ => ?_
    have caused : Caused d ⟨msg, .rescueNative recipient amount⟩ s .nativeBalance := ⟨owner, .inl rfl⟩
    refine Safe.bind (Quiet.safe (quiet_ask caused) trivial) fun balance t _ => Safe.refuse_bind fun _ => ?_
    have sends : (sendNative recipient amount >>= fun ok => refuse (ok = false) .repaymentFailed :
        Exec Data Unit).Quiet (Caused d ⟨msg, .rescueNative recipient amount⟩ s) :=
      Quiet.bind (quiet_ask ⟨owner, .inr rfl⟩) fun _ => Quiet.refuse _ _ _
    exact Quiet.safe sends trivial
  | _ => exact absurd administers (by simp [Entry.isAdministration])

end Causes

section Runs

variable {d : Deployment Data} {initial : Storage Data} {m : Machine (Storage Data) (@Reply Data) Error (Call Data)}

/-- Whoever calls the contract and in whatever order, it makes a request only where the call that it serves, and the
storage that this call found, give it the reason to. -/
theorem requests_caused (reach : Reach (contract d) (fun _ _ => True) initial m) :
    ∀ call entered request next atCall, .own call entered request next atCall ∈ m.stack → Caused d call entered request := by
  have bodies : ∀ (s : Storage Data) call, True → True →
      ((contract d).body call).Safe (fun _ => True) (Caused d call s) (fun _ _ => True) s := by
    intro s call _ _
    cases kind : call.entry.isAdministration with
    | true => exact safe_administers kind s
    | false => exact safe_trading kind (fun _ _ _ _ => trivial) trivial
  have kept : m.Keeps (fun _ => True) (Caused d) := Reach.keeps bodies trivial reach
  exact fun call entered request next atCall member => (kept.2 _ member).2.2.1

theorem requests_caused_opened : ∃ stack, Reach (contract plain) (fun _ _ => True) (deployed 1) ⟨opened, stack⟩ ∧
    ∀ call entered request next atCall, .own call entered request next atCall ∈ stack →
      Caused plain call entered request := by
  obtain ⟨stack, reach⟩ := reach_opened (fun _ _ => True) fun _ _ _ => trivial
  exact ⟨stack, reach, requests_caused reach⟩

/-- As long as the owner makes no call, nobody else changes who may do what. -/
theorem permissions_stay (reach : Reach (contract d) (fun _ call => call.msg.sender ≠ initial.owner) initial m) :
    m.storage.permissions = initial.permissions := by
  have bodies : ∀ (s : Storage Data) call, s.permissions = initial.permissions → call.msg.sender ≠ initial.owner →
      ((contract d).body call).Safe (fun s => s.permissions = initial.permissions) (Caused d call s)
        (fun _ s => s.permissions = initial.permissions) s := by
    intro s call same other
    cases kind : call.entry.isAdministration with
    | true =>
      have owner : s.owner = initial.owner := congrArg Permissions.owner same
      exact safe_administration kind (owner ▸ other)
    | false => exact safe_trading kind (fun _ _ unchanged held => unchanged.trans held) same
  exact (Reach.keeps bodies rfl reach).1

theorem permissions_stay_forged :
    (afterRun forgedCallback opened [] ((body plain forgedCallback).run opened)).storage.permissions =
      opened.permissions := by
  have other : forgedCallback.msg.sender ≠ opened.owner := by decide
  exact permissions_stay (.next .start (.enter (by simp) other))

end Runs

end ArbitrageRuntime.Executor
