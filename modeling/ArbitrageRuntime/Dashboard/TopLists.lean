import ArbitrageRuntime.Dashboard.RejectReasons
import ArbitrageRuntime.Dashboard.UnsupportedSelectors

namespace ArbitrageRuntime

/-- One key occurred, and more often than every other. -/
def MostOften {κ : Type} (occurrences : κ → Nat) (k : κ) : Prop :=
  0 < occurrences k ∧ ∀ other, other ≠ k → occurrences other < occurrences k

/-- The list of reject reasons has the pair with all of its rejections. -/
def RejectBoard.Keeps (board : RejectBoard) (pair : String × String) (calls : List RejectCall) : Prop :=
  ∃ entry ∈ board.rejectReasons, entry.pair = pair ∧ entry.count = rejections pair calls

/-- The list of unsupported selectors has the pair with all of its samples. -/
def KeepsSelector (unsupportedSelectors : List UnsupportedSelectorSnapshot) (pair : String × String)
    (samples : List EdgeSampleSnapshot) : Prop :=
  ∃ entry ∈ unsupportedSelectors, entry.pair = pair ∧ entry.count = unsupportedSamples pair samples

/-- A full list of reject reasons takes in no pair, and a full list of unsupported selectors only takes in a pair
whose selector comes before that of an entry seen once. The pair of the most occurrences is kept in the first if
fewer than eight others came before it, and in the second if no sample puts it out. -/
theorem topLists_keep_iff (storageRollupsEnabled : Bool) (calls : List RejectCall) (rejected : String × String)
    (mostRejected : MostOften (rejections · calls) rejected) (samples : List EdgeSampleSnapshot)
    (sampled : String × String) (mostSampled : MostOften (unsupportedSamples · samples) sampled) :
    ((RejectBoard.after storageRollupsEnabled calls).Keeps rejected calls ↔
        pairsBefore rejected calls < 8 ∧ rejections rejected calls ≤ u64Max) ∧
      (KeepsSelector (unsupportedSelectorsAfter samples) sampled samples ↔
        TopList.Spared UnsupportedSelectorSnapshot.rankedBefore 20 sampled (unsupportedChanges samples) ∧
          unsupportedSamples sampled samples ≤ u64Max) := by
  constructor
  · rw [← rejectReasons_shown_iff storageRollupsEnabled calls mostRejected.1]
    exact (TopList.shown_eq_iff (rejectReasons_nodup storageRollupsEnabled calls) mostRejected.1).symm
  · rw [← unsupportedSelectors_shown_iff]
    exact (TopList.shown_eq_iff (unsupportedSelectors_nodup samples) mostSampled.1).symm

theorem mostOften_count {κ : Type} [BEq κ] [LawfulBEq κ] {keys : List κ} {k : κ} (occurs : k ∈ keys)
    (fewer : ∀ other ∈ keys, other ≠ k → keys.count other < keys.count k) :
    MostOften (fun key => keys.count key) k := by
  have positive := List.count_pos_iff.mpr occurs
  refine ⟨positive, fun other apart => ?_⟩
  by_cases member : other ∈ keys
  · exact fewer other member apart
  · have zero : keys.count other = 0 := List.count_eq_zero.mpr member
    exact zero.trans_lt positive

theorem rejections_eq_count (calls : List RejectCall) :
    (rejections · calls) = fun pair => (calls.map RejectCall.pair).count pair := by
  funext pair
  rw [List.count, List.countP_map]
  exact List.countP_congr fun call _ => by simp

theorem unsupportedSamples_eq_count {samples : List EdgeSampleSnapshot}
    (unsupported : ∀ sample ∈ samples, sample.isUnsupported = true) :
    (unsupportedSamples · samples) = fun pair => (samples.map EdgeSampleSnapshot.pair).count pair := by
  funext pair
  rw [List.count, List.countP_map]
  exact List.countP_congr fun sample member => by simp [unsupported sample member]

/-- A sample of a selector that the decoder does not know. -/
def unsupportedSample (selector : String) : EdgeSampleSnapshot where
  observedAt := "12:00"
  victimTx := "0x01"
  selector := selector
  status := "decode_reject"
  reason := "selector_unsupported"
  path := []
  routeComplexity := 0
  hopProfitabilityRank := []
  router := "0xaa"

theorem unsupportedSample_isUnsupported (selector : String) : (unsupportedSample selector).isUnsupported = true := by
  have same : (unsupportedSample selector).isUnsupported = (unsupportedSample "").isUnsupported := rfl
  rw [same]
  decide +kernel

theorem unsupportedSamples_of_selectors (selectors : List String) :
    (unsupportedSamples · (selectors.map unsupportedSample)) =
      fun pair => ((selectors.map unsupportedSample).map EdgeSampleSnapshot.pair).count pair := by
  refine unsupportedSamples_eq_count fun sample member => ?_
  obtain ⟨selector, _, rfl⟩ := List.mem_map.mp member
  exact unsupportedSample_isUnsupported selector

theorem topLists_keep_one :
    (RejectBoard.after false [⟨"12:00", "decode", "late"⟩]).Keeps ("decode", "late") [⟨"12:00", "decode", "late"⟩] ∧
      KeepsSelector (unsupportedSelectorsAfter (["0xff"].map unsupportedSample)) ("0xff", "0xaa")
        (["0xff"].map unsupportedSample) := by
  have rejected : MostOften (rejections · [⟨"12:00", "decode", "late"⟩]) ("decode", "late") := by
    rw [rejections_eq_count]
    exact mostOften_count (by decide) (by decide)
  have sampled : MostOften (unsupportedSamples · (["0xff"].map unsupportedSample)) ("0xff", "0xaa") := by
    rw [unsupportedSamples_of_selectors]
    exact mostOften_count (by decide +kernel) (by decide +kernel)
  have keep := topLists_keep_iff false _ _ rejected _ _ sampled
  refine ⟨keep.1.mpr (by decide), keep.2.mpr ⟨?_, by decide +kernel⟩⟩
  have changes : unsupportedChanges (["0xff"].map unsupportedSample) = [] ++ [(unsupportedSample "0xff").change] := by
    rw [unsupportedChanges, List.map_singleton, List.filter_cons_of_pos (unsupportedSample_isUnsupported _)]
    rfl
  rw [changes]
  refine TopList.spared_concat.mpr ⟨fun before change after split => absurd split.symm (by simp), ?_⟩
  exact fun out => absurd out (by simp [TopList.putOut, TopList.run])

/-- Eight reasons once each, and then a ninth twice. -/
def lateRejects : List RejectCall :=
  ["a", "b", "c", "d", "e", "f", "g", "h", "late", "late"].map fun reason => ⟨"12:00", "decode", reason⟩

def earlySelectors : List String :=
  ["0x01", "0x02", "0x03", "0x04", "0x05", "0x06", "0x07", "0x08", "0x09", "0x10",
   "0x11", "0x12", "0x13", "0x14", "0x15", "0x16", "0x17", "0x18", "0x19", "0x20"]

/-- Twenty selectors once each, and then one behind them twice. -/
def lateSamples : List EdgeSampleSnapshot := (earlySelectors ++ ["0xff", "0xff"]).map unsupportedSample

theorem lateNewcomers_not_kept :
    (MostOften (rejections · lateRejects) ("decode", "late") ∧
      ¬ (RejectBoard.after false lateRejects).Keeps ("decode", "late") lateRejects) ∧
    MostOften (unsupportedSamples · lateSamples) ("0xff", "0xaa") ∧
      ¬ KeepsSelector (unsupportedSelectorsAfter lateSamples) ("0xff", "0xaa") lateSamples := by
  have reasons : (RejectBoard.after false lateRejects).rejectReasons.map RejectReasonSnapshot.pair =
      ["a", "b", "c", "d", "e", "f", "g", "h"].map fun reason => ("decode", reason) := by decide
  have selectors : (unsupportedSelectorsAfter lateSamples).map UnsupportedSelectorSnapshot.pair =
      earlySelectors.map fun selector => (selector, "0xaa") := by decide +kernel
  have mostRejected : MostOften (rejections · lateRejects) ("decode", "late") := by
    rw [rejections_eq_count]
    exact mostOften_count (by decide) (by decide)
  have mostSampled : MostOften (unsupportedSamples · lateSamples) ("0xff", "0xaa") := by
    have pairs : lateSamples.map EdgeSampleSnapshot.pair =
        (earlySelectors ++ ["0xff", "0xff"]).map fun selector => (selector, "0xaa") := by decide +kernel
    rw [lateSamples, unsupportedSamples_of_selectors, ← lateSamples, pairs]
    exact mostOften_count (by decide) (by decide +kernel)
  refine ⟨⟨mostRejected, ?_⟩, mostSampled, ?_⟩
  · rintro ⟨entry, member, own, _⟩
    have listed := List.mem_map_of_mem (f := RejectReasonSnapshot.pair) member
    rw [reasons, own] at listed
    exact absurd listed (by decide)
  · rintro ⟨entry, member, own, _⟩
    have listed := List.mem_map_of_mem (f := UnsupportedSelectorSnapshot.pair) member
    rw [selectors, own] at listed
    exact absurd listed (by decide)

end ArbitrageRuntime
