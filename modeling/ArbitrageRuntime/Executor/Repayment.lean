import ArbitrageRuntime.Builder.SizingV2
import ArbitrageRuntime.Executor.SplitV2

namespace ArbitrageRuntime.Executor

open Interaction Interaction.Prog

variable {Data : Type}

inductive PairSide
  | zero
  | one
  deriving DecidableEq

def PairSide.other : PairSide → PairSide
  | .zero => .one
  | .one => .zero

/-- A V2 pair with liquidity on both sides. Its reserves are `uint112`. -/
structure PairView where
  token0 : Address
  token1 : Address
  reserve0 : Nat
  reserve1 : Nat
  distinct : token0 ≠ token1
  reserve0_pos : 0 < reserve0
  reserve1_pos : 0 < reserve1
  reserve0_lt : reserve0 < 2 ^ 112
  reserve1_lt : reserve1 < 2 ^ 112

namespace PairView

variable (view : PairView)

def token : PairSide → Address
  | .zero => view.token0
  | .one => view.token1

def reserve : PairSide → Nat
  | .zero => view.reserve0
  | .one => view.reserve1

/-- The pair at the address answers as it stands. -/
structure Answers (pair : Address) (answer : (r : Request Data) → Reply r) : Prop where
  token0 : answer (.token0 pair) = view.token0
  token1 : answer (.token1 pair) = view.token1
  getReserves : answer (.getReserves pair) = (view.reserve0, view.reserve1)

variable {view}

theorem reserve_pos (side : PairSide) : 0 < view.reserve side := by
  cases side with
  | zero => exact view.reserve0_pos
  | one => exact view.reserve1_pos

theorem reserve_lt (side : PairSide) : view.reserve side < 2 ^ 112 := by
  cases side with
  | zero => exact view.reserve0_lt
  | one => exact view.reserve1_lt

theorem token_other_ne (side : PairSide) : view.token side.other ≠ view.token side := by
  cases side with
  | zero => exact view.distinct.symm
  | one => exact view.distinct

end PairView

section Formula

variable {answer : (r : Request Data) → Reply r} {view : PairView} {pair : Address} {borrowed : Nat} {s : Storage Data}

theorem checkedMul_against {a b : Nat} (fits : a * b ≤ u256Max) {β : Type} {f : Nat → Exec Data β} :
    (checkedMul a b >>= f).against answer s = (f (a * b)).against answer s := by
  unfold checkedMul
  rw [if_neg (by omega)]
  rfl

theorem checkedAdd_against {a b : Nat} (fits : a + b ≤ u256Max) :
    (checkedAdd a b : Exec Data Nat).against answer s = .ok (a + b, s) := by
  unfold checkedAdd
  rw [if_neg (by omega)]
  rfl

theorem v2RepaymentAmount_against (small : borrowed < 2 ^ 112) :
    (v2RepaymentAmount borrowed : Exec Data Nat).against answer s = .ok (borrowed * 1000 / 997 + 1, s) := by
  have top : u256Max = 2 ^ 256 - 1 := rfl
  rw [v2RepaymentAmount, checkedMul_against (by omega), checkedAdd_against (by omega)]

section Asking

variable (answers : view.Answers pair answer) {β : Type}

include answers

theorem token0_against {f : Address → Exec Data β} :
    (token0 pair >>= f).against answer s = (f view.token0).against answer s :=
  congrArg (fun token => (f token).against answer s) answers.token0

theorem token1_against {f : Address → Exec Data β} :
    (token1 pair >>= f).against answer s = (f view.token1).against answer s :=
  congrArg (fun token => (f token).against answer s) answers.token1

theorem getReserves_against {f : Nat × Nat → Exec Data β} :
    (getReserves pair >>= f).against answer s = (f (view.reserve0, view.reserve1)).against answer s :=
  congrArg (fun reserves => (f reserves).against answer s) answers.getReserves

end Asking

/-- The price of the loan in the other token. -/
theorem priceInOther_against {reserveIn reserveOut : Nat} (inSmall : reserveIn < 2 ^ 112)
    (outSmall : reserveOut < 2 ^ 112) :
    (do
      refuse (reserveOut ≤ borrowed) .repaymentFailed
      let product ← checkedMul reserveIn borrowed
      let numerator ← checkedMul product 1000
      let denominator ← checkedMul (reserveOut - borrowed) 997
      checkedAdd (numerator / denominator) 1 : Exec Data Nat).against answer s =
      if reserveOut ≤ borrowed then .error .repaymentFailed
      else .ok (reserveIn * borrowed * 1000 / ((reserveOut - borrowed) * 997) + 1, s) := by
  have top : u256Max = 2 ^ 256 - 1 := rfl
  rw [against_refuse_bind]
  by_cases tooMuch : reserveOut ≤ borrowed
  · rw [if_pos tooMuch, if_pos tooMuch]
  · rw [if_neg tooMuch, if_neg tooMuch]
    have product : reserveIn * borrowed ≤ 2 ^ 112 * 2 ^ 112 := Nat.mul_le_mul (by omega) (by omega)
    have quotient : reserveIn * borrowed * 1000 / ((reserveOut - borrowed) * 997) ≤ reserveIn * borrowed * 1000 :=
      Nat.div_le_self _ _
    rw [checkedMul_against (by omega), checkedMul_against (by omega), checkedMul_against (by omega),
      checkedAdd_against (by omega)]

theorem v2RepaymentAmountIn_against (answers : view.Answers pair answer) (lent : PairSide) :
    (v2RepaymentAmountIn pair (view.token lent) (view.token lent.other) borrowed : Exec Data Nat).against answer s =
      if view.reserve lent ≤ borrowed then .error .repaymentFailed
      else .ok (view.reserve lent.other * borrowed * 1000 / ((view.reserve lent - borrowed) * 997) + 1, s) := by
  rw [v2RepaymentAmountIn, if_neg (view.token_other_ne lent)]
  rw [token0_against answers, token1_against answers, against_refuse_bind]
  cases lent with
  | zero =>
    have reserveIn : (if view.token1 = view.token0 then view.reserve0 else view.reserve1) = view.reserve1 :=
      if_neg view.distinct.symm
    have reserveOut : (if view.token0 = view.token0 then view.reserve0 else view.reserve1) = view.reserve0 :=
      if_pos rfl
    rw [if_neg (not_not.mpr (.inl ⟨rfl, rfl⟩)), getReserves_against answers]
    refine (priceInOther_against (reserveIn.trans_lt view.reserve1_lt) (reserveOut.trans_lt view.reserve0_lt)).trans ?_
    rw [reserveIn, reserveOut]
    rfl
  | one =>
    have reserveIn : (if view.token0 = view.token0 then view.reserve0 else view.reserve1) = view.reserve0 :=
      if_pos rfl
    have reserveOut : (if view.token1 = view.token0 then view.reserve0 else view.reserve1) = view.reserve1 :=
      if_neg view.distinct.symm
    rw [if_neg (not_not.mpr (.inr ⟨rfl, rfl⟩)), getReserves_against answers]
    refine (priceInOther_against (reserveIn.trans_lt view.reserve0_lt) (reserveOut.trans_lt view.reserve1_lt)).trans ?_
    rw [reserveIn, reserveOut]
    rfl

end Formula

section Agreement

variable {answer : (r : Request Data) → Reply r} {view : PairView} {pair : Address} {borrowed : Nat}

/-- Below the width of the reserves nothing saturates in the builder. -/
theorem v2RepaymentAmountInProfitToken_of_reserves {borrowReserve profitReserve : Nat} (lent : 0 < borrowed)
    (borrowSmall : borrowReserve < 2 ^ 112) (profitPos : 0 < profitReserve) (profitSmall : profitReserve < 2 ^ 112) :
    v2RepaymentAmountInProfitToken borrowReserve profitReserve borrowed =
      if borrowReserve ≤ borrowed then none
      else some (profitReserve * borrowed * 1000 / ((borrowReserve - borrowed) * 997) + 1) := by
  have top : u256Max = 2 ^ 256 - 1 := rfl
  by_cases tooMuch : borrowReserve ≤ borrowed
  · rw [v2RepaymentAmountInProfitToken, if_pos (.inr (.inr (.inr tooMuch))), if_pos tooMuch]
  · have product : profitReserve * borrowed ≤ 2 ^ 112 * 2 ^ 112 := Nat.mul_le_mul (by omega) (by omega)
    have exact : min (profitReserve * borrowed * 1000) u256Max = profitReserve * borrowed * 1000 :=
      Nat.min_eq_left (by omega)
    rw [v2RepaymentAmountInProfitToken_eq lent (by omega) (by omega) profitPos, exact, if_neg tooMuch]

/-- The builder's repayment as the outcome of the contract's function. -/
def asRepayment : Option Nat → Except Error Nat
  | some repayment => .ok repayment
  | none => .error .repaymentFailed

theorem v2RepaymentAmountIn_eq_builder (answers : view.Answers pair answer) (lent : PairSide) (positive : 0 < borrowed)
    (s : Storage Data) :
    ((v2RepaymentAmountIn pair (view.token lent) (view.token lent.other) borrowed).against answer s).map Prod.fst =
      asRepayment (v2RepaymentAmountInProfitToken (view.reserve lent) (view.reserve lent.other) borrowed) := by
  rw [v2RepaymentAmountIn_against answers, v2RepaymentAmountInProfitToken_of_reserves positive (view.reserve_lt lent)
    (view.reserve_pos lent.other) (view.reserve_lt lent.other)]
  split
  · rfl
  · rfl

/-- The builder and both copies of the contract's function agree on every loan of a pair: the contract
refuses exactly the loans the builder has no repayment for, and its arithmetic never overflows. -/
theorem repaymentAmounts_agree (answers : view.Answers pair answer) (lent : PairSide) (positive : 0 < borrowed)
    (s : Storage Data) (t : SplitV2.Storage) :
    ((v2RepaymentAmountIn pair (view.token lent) (view.token lent.other) borrowed).against answer s).map Prod.fst =
        asRepayment (v2RepaymentAmountInProfitToken (view.reserve lent) (view.reserve lent.other) borrowed) ∧
      ((SplitV2.v2RepaymentAmountIn pair (view.token lent) (view.token lent.other) borrowed).against answer t).map
          Prod.fst =
        asRepayment (v2RepaymentAmountInProfitToken (view.reserve lent) (view.reserve lent.other) borrowed) := by
  have combined := v2RepaymentAmountIn_eq_builder answers lent positive s
  refine ⟨combined, ?_⟩
  have alike : (SplitV2.v2RepaymentAmountIn pair (view.token lent) (view.token lent.other) borrowed :
      SplitV2.Exec Data Nat).Alike (fun _ _ => True)
      (v2RepaymentAmountIn pair (view.token lent) (view.token lent.other) borrowed) :=
    SplitV2.v2RepaymentAmountIn_alike _ _ _ _
  exact (alike.against_eq trivial).trans combined

/-- Tokens 6 and 7, with the second worth half of the first. -/
def halfPricePair : PairView where
  token0 := 6
  token1 := 7
  reserve0 := 1000
  reserve1 := 2000
  distinct := by decide
  reserve0_pos := by decide
  reserve1_pos := by decide
  reserve0_lt := by decide
  reserve1_lt := by decide

/-- The pair above at every address, and tokens and routers that answer nothing of interest. -/
def halfPriceAnswers : (r : Request PlainData) → Reply r
  | .token0 _ => (6 : Address)
  | .token1 _ => (7 : Address)
  | .getReserves _ => ((1000, 2000) : Nat × Nat)
  | .swapV2 .. => ()
  | .swapV3 .. => ((0, 0) : Int × Int)
  | .balanceOf .. | .allowance .. | .exactInput .. | .nativeBalance => (0 : Nat)
  | .approve .. | .transfer .. | .sendNative .. => true
  | .swapExactTokensForTokens .. => ([] : List Nat)

theorem halfPriceAnswers_answer (pair : Address) : halfPricePair.Answers pair halfPriceAnswers := ⟨rfl, rfl, rfl⟩

/-- The last wei of the first reserve but one costs two million of the second token. -/
theorem repaymentAmounts_agree_at_boundary :
    ((v2RepaymentAmountIn 2 6 7 999).against halfPriceAnswers (deployed 1)).map Prod.fst = .ok 2004013 ∧
      v2RepaymentAmountInProfitToken 1000 2000 999 = some 2004013 := by
  have builder : v2RepaymentAmountInProfitToken 1000 2000 999 = some 2004013 := by decide
  have agreed := (repaymentAmounts_agree (halfPriceAnswers_answer 2) .zero (by decide : 0 < 999) (deployed 1)
    (SplitV2.shared (deployed 1 : Storage PlainData))).1
  refine ⟨?_, builder⟩
  rw [← show asRepayment (v2RepaymentAmountInProfitToken 1000 2000 999) = .ok 2004013 by rw [builder]; rfl]
  exact agreed

end Agreement

section PairCheck

/-- The pair's check after a flash swap: the product of the balances, less three thousandths of what came
in, has not fallen. -/
def pairCheck (reserve0 reserve1 balance0 balance1 amount0In amount1In : Nat) : Prop :=
  reserve0 * reserve1 * 10 ^ 6 ≤ (1000 * balance0 - 3 * amount0In) * (1000 * balance1 - 3 * amount1In)

namespace PairView

variable (view : PairView)

/-- The pair has lent on one side and got the repayment on the same or the other side. -/
def Accepts (lent : PairSide) (borrowed : Nat) (paid : PairSide) (repayment : Nat) : Prop :=
  let balance (side : PairSide) := view.reserve side - (if lent = side then borrowed else 0) +
    (if paid = side then repayment else 0)
  let amountIn (side : PairSide) := if paid = side then repayment else 0
  pairCheck view.reserve0 view.reserve1 (balance .zero) (balance .one) (amountIn .zero) (amountIn .one)

end PairView

theorem pairCheck_comm {reserve0 reserve1 balance0 balance1 amount0In amount1In : Nat} :
    pairCheck reserve0 reserve1 balance0 balance1 amount0In amount1In ↔
      pairCheck reserve1 reserve0 balance1 balance0 amount1In amount0In := by
  unfold pairCheck
  rw [Nat.mul_comm reserve0, Nat.mul_comm (1000 * balance0 - 3 * amount0In)]

/-- A loan paid back in its own token: what matters is the fee on the repayment. -/
theorem pairCheck_same_token {reserveOut reserveIn borrowed repayment : Nat} (enough : borrowed ≤ reserveOut)
    (positive : 0 < reserveIn) :
    pairCheck reserveOut reserveIn (reserveOut - borrowed + repayment) reserveIn repayment 0 ↔
      borrowed * 1000 ≤ repayment * 997 := by
  obtain ⟨left, rfl⟩ := Nat.exists_eq_add_of_le' enough
  have scaled : (left + borrowed) * reserveIn * 10 ^ 6 = (1000 * reserveIn) * (1000 * left + 1000 * borrowed) := by ring
  have balances : (1000 * (left + borrowed - borrowed + repayment) - 3 * repayment) * (1000 * reserveIn - 3 * 0) =
      (1000 * reserveIn) * (1000 * left + 997 * repayment) := by
    have own : 1000 * (left + borrowed - borrowed + repayment) - 3 * repayment = 1000 * left + 997 * repayment := by
      omega
    rw [own, Nat.mul_zero, Nat.sub_zero, Nat.mul_comm]
  rw [pairCheck, scaled, balances, Nat.mul_le_mul_left_iff (by omega)]
  omega

/-- A loan paid for in the other token: the constant product, with the fee on what came in. -/
theorem pairCheck_other_token {reserveOut reserveIn borrowed repayment : Nat} (enough : borrowed ≤ reserveOut) :
    pairCheck reserveOut reserveIn (reserveOut - borrowed) (reserveIn + repayment) 0 repayment ↔
      reserveIn * borrowed * 1000 ≤ repayment * ((reserveOut - borrowed) * 997) := by
  obtain ⟨left, rfl⟩ := Nat.exists_eq_add_of_le' enough
  have scaled : (left + borrowed) * reserveIn * 10 ^ 6 =
      1000000 * (left * reserveIn) + 1000 * (reserveIn * borrowed * 1000) := by ring
  have incoming : 1000 * (reserveIn + repayment) - 3 * repayment = 1000 * reserveIn + 997 * repayment := by omega
  have balances : (1000 * left - 3 * 0) * (1000 * reserveIn + 997 * repayment) =
      1000000 * (left * reserveIn) + 1000 * (repayment * (left * 997)) := by
    rw [Nat.mul_zero, Nat.sub_zero]
    ring
  rw [Nat.add_sub_cancel, pairCheck, scaled, incoming, balances]
  omega

variable {view : PairView}

theorem PairView.accepts_same_token {lent : PairSide} {borrowed repayment : Nat} (enough : borrowed < view.reserve lent) :
    view.Accepts lent borrowed lent repayment ↔ borrowed * 1000 ≤ repayment * 997 := by
  cases lent with
  | zero => exact pairCheck_same_token (le_of_lt enough) view.reserve1_pos
  | one => exact pairCheck_comm.trans (pairCheck_same_token (le_of_lt enough) view.reserve0_pos)

theorem PairView.accepts_other_token {lent : PairSide} {borrowed repayment : Nat}
    (enough : borrowed < view.reserve lent) :
    view.Accepts lent borrowed lent.other repayment ↔
      view.reserve lent.other * borrowed * 1000 ≤ repayment * ((view.reserve lent - borrowed) * 997) := by
  cases lent with
  | zero => exact pairCheck_other_token (le_of_lt enough)
  | one => exact pairCheck_comm.trans (pairCheck_other_token (le_of_lt enough))

variable {answer : (r : Request Data) → Reply r} {pair : Address} {borrowed : Nat}

/-- The repayment of every loan satisfies the pair, in the borrowed token and in the other one, and two
less in the same token never does. -/
theorem repayment_accepted_and_tight (answers : view.Answers pair answer) (lent paid : PairSide)
    (enough : borrowed < view.reserve lent) (s : Storage Data) :
    ∃ repayment, (v2RepaymentAmountIn pair (view.token lent) (view.token paid) borrowed).against answer s =
        .ok (repayment, s) ∧
      view.Accepts lent borrowed paid repayment ∧
      ∀ less, less + 2 ≤ repayment → ¬ view.Accepts lent borrowed paid less := by
  by_cases sameToken : paid = lent
  · subst sameToken
    have small := view.reserve_lt paid
    refine ⟨borrowed * 1000 / 997 + 1, ?_, ?_⟩
    · rw [v2RepaymentAmountIn, if_pos rfl]
      exact v2RepaymentAmount_against (by omega)
    · simp only [PairView.accepts_same_token enough]
      exact Rounding.floor_plus_one_tight (by decide)
  · obtain rfl : paid = lent.other := by
      cases lent with
      | zero =>
        cases paid with
        | zero => exact absurd rfl sameToken
        | one => rfl
      | one =>
        cases paid with
        | zero => rfl
        | one => exact absurd rfl sameToken
    refine ⟨view.reserve lent.other * borrowed * 1000 / ((view.reserve lent - borrowed) * 997) + 1, ?_, ?_⟩
    · rw [v2RepaymentAmountIn_against answers, if_neg (by omega)]
    · simp only [PairView.accepts_other_token enough]
      exact Rounding.floor_plus_one_tight (by omega)

theorem repayment_tight_at_boundary :
    ∃ repayment, (v2RepaymentAmountIn 2 6 7 999).against halfPriceAnswers (deployed 1) = .ok (repayment, deployed 1) ∧
      halfPricePair.Accepts .zero 999 .one repayment ∧
      ∀ less, less + 2 ≤ repayment → ¬ halfPricePair.Accepts .zero 999 .one less :=
  repayment_accepted_and_tight (halfPriceAnswers_answer 2) .zero .one (by decide) (deployed 1)

end PairCheck

end ArbitrageRuntime.Executor
