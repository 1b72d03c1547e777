import ArbitrageRuntime.Replay.Accounting
import ArbitrageRuntime.Runtime.LiveStages

namespace ArbitrageRuntime.Replay

namespace ReplaySettings

variable (settings : ReplaySettings)

def live (environment : LiveEnvironment) (ln : ℚ → ℚ) : LiveStages where
  config := settings.config
  abi := settings.abi
  curves := settings.curves
  ln := ln
  environment := environment
  minLargeSwapWei := settings.minLargeSwapWei
  minProfitWei := settings.minProfitWei

end ReplaySettings

namespace ReplaySettings

variable {settings : ReplaySettings} {readings : CaseReadings} {state after : ReplayState} {decoded : DecodedCase}
  {payload : ExecutionPayload}

/-- The gates of the replay only let swaps pass in Scavenger mode, since there is no payload for any other. -/
theorem scavenger_of_passesGates {index : Nat} {adaptive : Adaptive.SharedAdaptivePolicy} {case : ReplayInputCase}
    (passes : settings.passesGates index readings adaptive case = true) :
    settings.config.mev.opportunityMode = .scavenger := by
  unfold passesGates at passes
  split at passes
  · exact absurd passes (by simp)
  split at passes
  · simp only [Bool.and_eq_true] at passes
    have preflight := passes.2
    unfold passesPreflight at preflight
    split at preflight
    · exact absurd preflight (by simp)
    · simp only [Bool.and_eq_true] at preflight
      have last := preflight.2
      split at last
      · exact absurd last (by simp)
      · rename_i built
        exact (ChainView.buildPayload_ok built).1
  · exact absurd passes (by simp)

end ReplaySettings

end ArbitrageRuntime.Replay
