import ArbitrageRuntime.Executor.SplitV2
import ArbitrageRuntime.Executor.SplitV3

namespace ArbitrageRuntime.Executor

open CallMachine

variable {Data : Type}

/-- Nobody who calls the flash-swap path of a split executor, and answers its calls, can tell it from the
combined executor with the same lists: in every script both make the same calls, revert at the same
points with the same errors, and leave the same shared storage. -/
theorem splitExecutors_refine_combined (d : ChainDeployment Data) (s : Storage Data) :
    (∀ script : List (Move (@Reply Data) (SplitV2.Call Data)),
      ((SplitV2.contract d).play script ⟨SplitV2.shared s, []⟩).map (fun run => (run.1, run.2.storage)) =
        ((contract d.toDeployment).play (script.map (Move.map SplitV2.combined)) ⟨s, []⟩).map
          fun run => (run.1, SplitV2.shared run.2.storage)) ∧
    ∀ script : List (Move (@Reply Data) (SplitV3.Call Data)),
      ((SplitV3.contract d).play script ⟨SplitV3.shared s, []⟩).map (fun run => (run.1, run.2.storage)) =
        ((contract d.toDeployment).play (script.map (Move.map SplitV3.combined)) ⟨s, []⟩).map
          fun run => (run.1, SplitV3.shared run.2.storage) := by
  constructor
  · intro script
    exact play_project (SplitV2.contract_alike d) script s
  · intro script
    exact play_project (SplitV3.contract_alike d) script s

/-- The reply of a contract that answers nothing but zeros. -/
def zeroReply : (request : Request Data) → Reply request
  | .token0 _ | .token1 _ => (0 : Address)
  | .getReserves _ => ((0, 0) : Nat × Nat)
  | .swapV2 .. => ()
  | .swapV3 .. => ((0, 0) : Int × Int)
  | .balanceOf .. | .allowance .. | .exactInput .. | .nativeBalance => (0 : Nat)
  | .approve .. | .transfer .. | .sendNative .. => false
  | .swapExactTokensForTokens .. => ([] : List Nat)

/-- Every storage that a split executor reaches is the shared part of one that the combined executor reaches,
so that what holds of that part in all runs of the combined executor holds in all runs of the split ones. -/
theorem splitExecutors_reach_shared (d : ChainDeployment Data) (s : Storage Data) :
    (∀ m, Reach (SplitV2.contract d) (fun _ _ => True) (SplitV2.shared s) m →
      ∃ n, Reach (contract d.toDeployment) (fun _ _ => True) s n ∧ SplitV2.shared n.storage = m.storage) ∧
    ∀ m, Reach (SplitV3.contract d) (fun _ _ => True) (SplitV3.shared s) m →
      ∃ n, Reach (contract d.toDeployment) (fun _ _ => True) s n ∧ SplitV3.shared n.storage = m.storage := by
  constructor
  · intro m reach
    obtain ⟨n, reached, storages, _⟩ := reach.alike (SplitV2.contract_alike d) zeroReply rfl
    exact ⟨n, reached, storages⟩
  · intro m reach
    obtain ⟨n, reached, storages, _⟩ := reach.alike (SplitV3.contract_alike d) zeroReply rfl
    exact ⟨n, reached, storages⟩

end ArbitrageRuntime.Executor
