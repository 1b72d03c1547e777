import ArbitrageRuntime.Executor.Authenticity
import ArbitrageRuntime.Lib.Awaiting

namespace ArbitrageRuntime.Executor

open Interaction Interaction.Prog CallMachine

variable {Data : Type}

/-- The call in which a start function hands control to its venue. -/
def Request.isSwap : Request Data → Bool
  | .swapV2 .. | .swapV3 .. => true
  | _ => false

/-- The execution guard is released. -/
def Idle (s : Storage Data) : Prop := s.executionInProgress = false ∧ s.activeExecutionId = 0

/-- While the guard is set, a start call waits for its venue, and no callback has come to an end since it
asked. -/
def guardRule : Awaiting (Storage Data × Nat) (Request Data) where
  mark := Prod.snd
  awaits := Request.isSwap
  inv opens t := (t.1.executionInProgress = true ∧ opens t.2) ∨ Idle t.1
  ofOpen {_ _ _} still kept := kept.imp_left (And.imp_right still)

/-- The executor with a count of the callbacks that have come to an end. -/
def counted (d : Deployment Data) : Contract (Storage Data × Nat) (@Reply Data) Error (Call Data) :=
  (contract d).counting fun call => call.entry.isCallback

section Entries

variable {d : Deployment Data} {opens : Nat → Prop} {t : Storage Data × Nat}

/-- The two fields of the guard are as they were. -/
def SameGuard (s s' : Storage Data) : Prop :=
  s'.executionInProgress = s.executionInProgress ∧ s'.activeExecutionId = s.activeExecutionId

theorem inv_of_sameGuard {s' : Storage Data} (same : SameGuard t.1 s') (kept : guardRule.inv opens t) :
    guardRule.inv opens (s', t.2) := by
  rcases kept with ⟨inProgress, isOpen⟩ | ⟨idle, zero⟩
  · exact .inl ⟨same.1.trans inProgress, isOpen⟩
  · exact .inr ⟨same.1.trans idle, same.2.trans zero⟩

theorem heeds_quiet {α : Type} {p : Exec Data α} (quiet : p.Quiet fun _ => True) (kept : guardRule.inv opens t) :
    (p.beside Nat).Heeds guardRule opens (fun _ => guardRule.inv opens) t :=
  quiet.heeds kept

theorem heeds_ofExcept_bind {α β : Type} {value : Except Error α} {f : α → Exec Data β}
    {post : β → Storage Data × Nat → Prop}
    (rest : ∀ a, value = .ok a → ((f a).beside Nat).Heeds guardRule opens post t) :
    ((ofExcept value >>= f).beside Nat).Heeds guardRule opens post t := by
  cases value with
  | error e => trivial
  | ok a => exact rest a rfl

theorem heeds_setAllowedAddress {update : Storage Data → Address → Bool → Storage Data} {key : Address} {allowed : Bool}
    (untouched : ∀ s, SameGuard s (update s key allowed)) (kept : guardRule.inv opens t) :
    ((setAllowedAddress update key allowed).beside Nat).Heeds guardRule opens (fun _ => guardRule.inv opens) t :=
  Heeds.refuse_bind fun _ => Heeds.read_bind (inv_of_sameGuard (untouched t.1) kept)

theorem heeds_setAllowedAddresses {update : Storage Data → Address → Bool → Storage Data} {allowed : Bool}
    (untouched : ∀ s key, SameGuard s (update s key allowed)) (keys : List Address) (kept : guardRule.inv opens t) :
    ((setAllowedAddresses update allowed keys).beside Nat).Heeds guardRule opens (fun _ => guardRule.inv opens) t := by
  induction keys generalizing t with
  | nil => exact kept
  | cons key rest ih =>
    exact Heeds.beside_bind (heeds_setAllowedAddress (fun s => untouched s key) kept) fun _ _ kept' => ih kept'

theorem sameGuard_putFeeTiers (feeTiers : List Nat) (allowed : Bool) (s : Storage Data) :
    SameGuard s (feeTiers.foldl (fun s feeTier => putFeeTier s feeTier allowed) s) := by
  induction feeTiers generalizing s with
  | nil => exact ⟨rfl, rfl⟩
  | cons feeTier rest ih => exact ih (putFeeTier s feeTier allowed)

theorem heeds_beginExecution {executionId : Nat} {opening : Opening Data} :
    ((beginExecution executionId opening).beside Nat).Heeds guardRule opens
      (fun _ t => t.1.executionInProgress = true) t :=
  Heeds.read_bind (Heeds.refuse_bind fun _ => rfl)

/-- A start call hands control to its venue with the guard set, and is itself what waits then. -/
theorem heeds_swap {request : Request Data} (swaps : request.isSwap = true)
    (inProgress : t.1.executionInProgress = true) :
    ((ask request).beside Nat).Heeds guardRule opens (fun _ => guardRule.inv opens) t :=
  ⟨.inl ⟨inProgress, .inr ⟨swaps, rfl⟩⟩, fun _ _ kept => kept⟩

theorem heeds_startV2FlashSwap {msg : Message} {pair borrowToken : Address} {borrowAmount minProfit : Nat}
    {profitToken profitRecipient : Address} {steps : List V2SwapStep} (kept : guardRule.inv opens t) :
    ((startV2FlashSwap d msg pair borrowToken borrowAmount minProfit profitToken profitRecipient steps).beside
      Nat).Heeds guardRule opens (fun _ => guardRule.inv opens) t := by
  refine Heeds.beside_bind (heeds_quiet (quiet_onlyAuthorizedOperator msg) kept) fun _ t kept => ?_
  refine Heeds.refuse_bind fun _ => Heeds.refuse_bind fun _ => Heeds.read_bind ?_
  refine Heeds.refuse_bind fun _ => Heeds.refuse_bind fun _ => heeds_ofExcept_bind fun _ _ => ?_
  refine Heeds.beside_bind (heeds_quiet (quiet_ask trivial) kept) fun first t1 kept1 => ?_
  refine Heeds.beside_bind (heeds_quiet (quiet_ask trivial) kept1) fun second t2 kept2 => ?_
  refine Heeds.refuse_bind fun _ => Heeds.beside_bind heeds_beginExecution fun _ t3 inProgress => ?_
  exact heeds_swap rfl inProgress

theorem heeds_startV3FlashSwap {msg : Message} {pool borrowToken : Address} {borrowAmount feeTier minProfit : Nat}
    {profitToken profitRecipient : Address} {steps : List V3SwapStep} (kept : guardRule.inv opens t) :
    ((startV3FlashSwap d msg pool borrowToken borrowAmount feeTier minProfit profitToken profitRecipient steps).beside
      Nat).Heeds guardRule opens (fun _ => guardRule.inv opens) t := by
  refine Heeds.beside_bind (heeds_quiet (quiet_onlyAuthorizedOperator msg) kept) fun _ t kept => ?_
  refine Heeds.refuse_bind fun _ => Heeds.refuse_bind fun _ => Heeds.read_bind ?_
  refine Heeds.refuse_bind fun _ => Heeds.refuse_bind fun _ => Heeds.refuse_bind fun _ => ?_
  refine heeds_ofExcept_bind fun _ _ => ?_
  refine Heeds.beside_bind (heeds_quiet (quiet_ask trivial) kept) fun first t1 kept1 => ?_
  refine Heeds.beside_bind (heeds_quiet (quiet_ask trivial) kept1) fun second t2 kept2 => ?_
  refine Heeds.refuse_bind fun _ => Heeds.beside_bind heeds_beginExecution fun _ t3 inProgress => ?_
  unfold startV3PoolSwap negatedInt256
  split
  · trivial
  · exact Heeds.beside_bind (heeds_swap rfl inProgress) fun _ _ kept' => kept'

/-- A callback that comes to an end has released the guard. -/
theorem heeds_finalizeExecution {profitToken profitRecipient : Address} {grossProfit : Nat}
    (kept : guardRule.inv opens t) :
    ((finalizeExecution d profitToken profitRecipient grossProfit).beside Nat).Heeds guardRule opens
      (fun _ t => Idle t.1) t := by
  unfold finalizeExecution
  dsimp only
  split
  · exact Heeds.beside_bind (heeds_quiet (quiet_transferToken trivial) kept) fun _ _ _ => ⟨rfl, rfl⟩
  · exact ⟨rfl, rfl⟩

theorem heeds_closeExecution {profitToken profitRecipient : Address} {minProfit preProfitBalance : Nat}
    (kept : guardRule.inv opens t) :
    ((closeExecution d profitToken profitRecipient minProfit preProfitBalance).beside Nat).Heeds guardRule opens
      (fun _ t => Idle t.1) t := by
  refine Heeds.beside_bind (heeds_quiet (quiet_ask trivial) kept) fun postProfitBalance t1 kept1 => ?_
  refine Heeds.beside_bind (heeds_finalizeExecution kept1) fun netProfit t2 idle => ?_
  exact Heeds.refuse_bind fun _ => idle

theorem heeds_callback {call : Call Data} (callback : call.entry.isCallback = true) (kept : guardRule.inv opens t) :
    ((body d call).beside Nat).Heeds guardRule opens (fun _ t => Idle t.1) t := by
  obtain ⟨msg, entry⟩ := call
  cases entry with
  | uniswapV2Call sender amount0 amount1 data =>
    refine Heeds.read_bind (heeds_ofExcept_bind fun ctx _ => ?_)
    have quiet : (tradeV2 d msg ctx amount0 amount1).Quiet fun _ => True :=
      quiet_tradeV2 (fun _ _ => trivial) (fun _ _ => trivial) _ _ fun _ _ _ _ => trivial
    refine Heeds.beside_bind ?_ fun _ _ idle => idle
    exact Heeds.beside_bind (heeds_quiet quiet kept) fun preProfitBalance t1 kept1 => heeds_closeExecution kept1
  | uniswapV3SwapCallback amount0Delta amount1Delta data =>
    refine Heeds.read_bind (heeds_ofExcept_bind fun ctx _ => ?_)
    have quiet : (tradeV3 d msg ctx amount0Delta amount1Delta).Quiet fun _ => True :=
      quiet_tradeV3 (fun _ _ => trivial) (fun _ _ => trivial) _ _ fun _ _ _ _ => trivial
    refine Heeds.beside_bind ?_ fun _ _ idle => idle
    exact Heeds.beside_bind (heeds_quiet quiet kept) fun preProfitBalance t1 kept1 => heeds_closeExecution kept1
  | _ => exact absurd callback (by simp [Entry.isCallback])

theorem heeds_other {call : Call Data} (other : call.entry.isCallback = false) (kept : guardRule.inv opens t) :
    ((body d call).beside Nat).Heeds guardRule opens (fun _ => guardRule.inv opens) t := by
  obtain ⟨msg, entry⟩ := call
  have owned : ((onlyOwner msg : Exec Data Unit).beside Nat).Heeds guardRule opens (fun _ => guardRule.inv opens) t :=
    heeds_quiet (quiet_onlyOwner msg) kept
  cases entry with
  | transferOwnership newOwner =>
    refine Heeds.beside_bind owned fun _ t1 kept1 => Heeds.refuse_bind fun _ => Heeds.read_bind ?_
    exact inv_of_sameGuard ⟨rfl, rfl⟩ kept1
  | setAuthorizedOperator | setAllowedV2Pair | setAllowedV3Pool | setAllowedRouter | setAllowedBorrowToken =>
    exact Heeds.beside_bind owned fun _ _ kept1 => heeds_setAllowedAddress (fun _ => ⟨rfl, rfl⟩) kept1
  | setAllowedV2Pairs keys | setAllowedV3Pools keys | setAllowedRouters keys | setAllowedBorrowTokens keys =>
    exact Heeds.beside_bind owned fun _ _ kept1 => heeds_setAllowedAddresses (fun _ _ => ⟨rfl, rfl⟩) keys kept1
  | setAllowedFeeTier feeTier allowed =>
    exact Heeds.beside_bind owned fun _ _ kept1 => Heeds.read_bind (inv_of_sameGuard ⟨rfl, rfl⟩ kept1)
  | setAllowedFeeTiers feeTiers allowed =>
    exact Heeds.beside_bind owned fun _ t1 kept1 =>
      Heeds.read_bind (inv_of_sameGuard (sameGuard_putFeeTiers feeTiers allowed t1.1) kept1)
  | rescueToken token recipient amount =>
    exact Heeds.beside_bind owned fun _ _ kept1 => Heeds.refuse_bind fun _ => Heeds.refuse_bind fun _ =>
      heeds_quiet (quiet_transferToken trivial) kept1
  | rescueNative recipient amount =>
    refine Heeds.beside_bind owned fun _ t1 kept1 => Heeds.refuse_bind fun _ => Heeds.refuse_bind fun _ => ?_
    refine Heeds.beside_bind (heeds_quiet (quiet_ask trivial) kept1) fun balance t2 kept2 =>
      Heeds.refuse_bind fun _ => ?_
    have sends : (sendNative recipient amount >>= fun ok => refuse (ok = false) .repaymentFailed :
        Exec Data Unit).Quiet fun _ => True :=
      Quiet.bind (quiet_ask trivial) fun _ => Quiet.refuse _ _ _
    exact heeds_quiet sends kept2
  | startV2FlashSwap pair borrowToken borrowAmount minProfit profitToken profitRecipient steps =>
    exact heeds_startV2FlashSwap kept
  | startV3FlashSwap pool borrowToken borrowAmount feeTier minProfit profitToken profitRecipient steps =>
    exact heeds_startV3FlashSwap kept
  | uniswapV2Call => exact absurd other (by simp [Entry.isCallback])
  | uniswapV3SwapCallback => exact absurd other (by simp [Entry.isCallback])

theorem heeds_counted {call : Call Data} (kept : guardRule.inv opens t) :
    ((counted d).body call).Heeds guardRule opens (fun _ => guardRule.inv opens) t := by
  cases callback : call.entry.isCallback with
  | true =>
    refine Heeds.bind (heeds_callback callback kept) fun _ t1 idle => ?_
    exact .inr idle
  | false =>
    refine Heeds.bind (heeds_other callback kept) fun _ t1 kept1 => ?_
    change guardRule.inv opens (t1.1, if call.entry.isCallback then t1.2 + 1 else t1.2)
    rw [callback]
    exact kept1

end Entries

section Runs

/-- In the script, the venue of a start call comes back from its swap only after a callback of the executor
has come to an end since the swap was asked for, and has not been taken back. -/
def VenuesCallBack (d : Deployment Data) (owner : Address) (script : List (Move (@Reply Data) (Call Data))) : Prop :=
  (counted d).along (heard guardRule) script ⟨(deployed owner, 0), []⟩ = true

variable {d : Deployment Data}

/-- In every run in which the venues call back, the guard is released whenever no transaction is open. -/
theorem guard_released {owner : Address} {script : List (Move (@Reply Data) (Call Data))}
    {views : List (Seen (Request Data) Error)} {m : Machine (Storage Data) (@Reply Data) Error (Call Data)}
    (played : (contract d).play script ⟨deployed owner, []⟩ = some (views, m)) (idle : m.stack = [])
    (callsBack : VenuesCallBack d owner script) :
    m.storage.executionInProgress = false ∧ m.storage.activeExecutionId = 0 := by
  obtain ⟨n, countedPlay, storage, depth⟩ := play_counting (fun call => call.entry.isCallback) played
  have refusable : ∀ (r : Request Data) answer, (counted d).refused r = some answer → guardRule.awaits r = false := by
    intro r answer refused
    cases r with
    | swapV2 | swapV3 => exact absurd refused (by simp [counted, Contract.counting, contract])
    | _ => rfl
  have initially : Machine.Awaits guardRule (⟨(deployed owner, 0), []⟩ :
      Machine (Storage Data × Nat) (@Reply Data) Error (Call Data)) := ⟨.inr ⟨rfl, rfl⟩, trivial⟩
  have kept := play_awaits (fun _ _ _ kept => heeds_counted kept) refusable countedPlay callsBack initially
  have empty : n.stack = [] := List.eq_nil_of_length_eq_zero (depth.trans (by rw [idle]; rfl))
  rw [← storage]
  rcases kept.1 with ⟨_, frame, member, _⟩ | released
  · rw [empty] at member
    exact absurd member (by simp)
  · exact released

end Runs

section Venues

/-- The pair of tokens 3 and 5, tokens that report the balance, and a router that reports seven units. -/
def venueAnswers (balance : Nat) : (r : Request PlainData) → Reply r
  | .token0 _ => (3 : Address)
  | .token1 _ => (5 : Address)
  | .getReserves _ => ((1000, 2000) : Nat × Nat)
  | .swapV2 .. => ()
  | .swapV3 .. => ((0, 0) : Int × Int)
  | .balanceOf .. => balance
  | .allowance .. => u256Max
  | .exactInput .. | .nativeBalance => (0 : Nat)
  | .approve .. | .transfer .. | .sendNative .. => true
  | .swapExactTokensForTokens .. => ([7] : List Nat)

/-- The owner sets up its lists and starts, and the pair names its tokens and is asked to swap. -/
def startScript : List (Move (@Reply PlainData) (Call PlainData)) :=
  [.enter (byOwner (.setAllowedV2Pair 2 true)), .enter (byOwner (.setAllowedBorrowToken 3 true)),
    .enter (byOwner (.setAllowedRouter 4 true)),
    .enter (byOwner (.startV2FlashSwap 2 3 6 1 5 1 openedContext.steps)), .reply (venueAnswers 10),
    .reply (venueAnswers 10)]

/-- The pair calls back, the callback earns ten units, and the pair comes back from the swap. -/
def callingScript : List (Move (@Reply PlainData) (Call PlainData)) :=
  startScript ++ .enter genuineCallback :: List.replicate 4 (.reply (venueAnswers 10)) ++
    List.replicate 8 (.reply (venueAnswers 20))

theorem guard_released_after_callback : ∃ views, ∃ m : Machine (Storage PlainData) (@Reply PlainData) Error (Call PlainData),
    (contract plain).play callingScript ⟨deployed 1, []⟩ = some (views, m) ∧ m.stack = [] ∧
      VenuesCallBack plain 1 callingScript ∧ m.storage.executionInProgress = false ∧ m.storage.activeExecutionId = 0 := by
  have calls : VenuesCallBack plain 1 callingScript := rfl
  have played : (contract plain).play callingScript ⟨deployed 1, []⟩ = some (_, ⟨_, []⟩) := rfl
  exact ⟨_, _, played, rfl, calls, guard_released played rfl calls⟩

/-- The pair comes back from the swap at once. -/
def silentScript : List (Move (@Reply PlainData) (Call PlainData)) := startScript ++ [.reply (venueAnswers 10)]

/-- A venue that does not call back leaves the guard set when the start call has returned. -/
theorem silentVenue_keeps_guard :
    ¬ ∀ (owner : Address) (script : List (Move (@Reply PlainData) (Call PlainData)))
      (views : List (Seen (Request PlainData) Error))
      (m : Machine (Storage PlainData) (@Reply PlainData) Error (Call PlainData)),
      (contract plain).play script ⟨deployed owner, []⟩ = some (views, m) → m.stack = [] →
      m.storage.executionInProgress = false ∧ m.storage.activeExecutionId = 0 := by
  intro claimed
  have played : (contract plain).play silentScript ⟨deployed 1, []⟩ = some (_, ⟨opened, []⟩) := rfl
  exact absurd (claimed 1 silentScript _ _ played rfl).1 (by decide)

end Venues

end ArbitrageRuntime.Executor
