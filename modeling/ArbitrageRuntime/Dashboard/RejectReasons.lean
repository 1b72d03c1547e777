import ArbitrageRuntime.Base
import ArbitrageRuntime.Lib.Cascade
import ArbitrageRuntime.Lib.TopList

namespace ArbitrageRuntime

structure RejectReasonSnapshot where
  stage : String
  reason : String
  count : Nat
  deriving DecidableEq

structure PendingRejectReasonRollup where
  bucket : String
  stage : String
  reason : String
  count : Nat

/-- `format!("{bucket}|{stage}|{reason}")` -/
def PendingRejectReasonRollup.key (rollup : PendingRejectReasonRollup) : String :=
  rollup.bucket ++ "|" ++ rollup.stage ++ "|" ++ rollup.reason

/-- One call of `record_reject_reason` and the minute it falls in. -/
structure RejectCall where
  bucket : String
  stage : String
  reason : String

namespace RejectReasonSnapshot

def pair (entry : RejectReasonSnapshot) : String × String := (entry.stage, entry.reason)

/-- `right.count.cmp(&left.count)` does not put `right` before `left`. -/
def countedMost (left right : RejectReasonSnapshot) : Prop := right.count ≤ left.count

instance : DecidableRel countedMost := fun left right => inferInstanceAs (Decidable (right.count ≤ left.count))

instance : IsTrans RejectReasonSnapshot countedMost := ⟨fun _ _ _ first second => Nat.le_trans second first⟩

instance : Std.Total countedMost := ⟨fun left right => Nat.le_total right.count left.count⟩

end RejectReasonSnapshot

namespace RejectCall

def pair (call : RejectCall) : String × String := (call.stage, call.reason)

def change (call : RejectCall) : Upsert.Change RejectReasonSnapshot.pair where
  target := call.pair
  update entry := { entry with count := u64Add entry.count 1 }
  fresh := { stage := call.stage, reason := call.reason, count := 1 }
  update_key _ := rfl
  fresh_key := rfl

def rollupChange (call : RejectCall) : Upsert.Change PendingRejectReasonRollup.key where
  target := call.bucket ++ "|" ++ call.stage ++ "|" ++ call.reason
  update rollup := { rollup with count := u64Add rollup.count 1 }
  fresh := { bucket := call.bucket, stage := call.stage, reason := call.reason, count := u64Add 0 1 }
  update_key _ := rfl
  fresh_key := rfl

end RejectCall

/-- The counts that wait for the storage and the list that is shown. -/
structure RejectBoard where
  rejectReasonRollups : List PendingRejectReasonRollup
  rejectReasons : List RejectReasonSnapshot

namespace RejectBoard

def empty : RejectBoard := ⟨[], []⟩

def recordRejectReason (storageRollupsEnabled : Bool) (board : RejectBoard) (call : RejectCall) : RejectBoard where
  rejectReasonRollups :=
    if storageRollupsEnabled then call.rollupChange.apply board.rejectReasonRollups else board.rejectReasonRollups
  rejectReasons := TopList.record RejectReasonSnapshot.countedMost 8 board.rejectReasons call.change

def after (storageRollupsEnabled : Bool) (calls : List RejectCall) : RejectBoard :=
  calls.foldl (recordRejectReason storageRollupsEnabled) empty

end RejectBoard

/-- How often a pair of stage and reason was recorded. -/
def rejections (pair : String × String) (calls : List RejectCall) : Nat := calls.countP fun call => call.pair = pair

/-- The number of other pairs that were recorded before a pair for the first time. -/
def pairsBefore (pair : String × String) (calls : List RejectCall) : Nat :=
  ((calls.map RejectCall.pair).takeWhile fun earlier => earlier ≠ pair).toFinset.card

theorem rejectReasons_after (storageRollupsEnabled : Bool) (calls : List RejectCall) :
    (RejectBoard.after storageRollupsEnabled calls).rejectReasons =
      TopList.run RejectReasonSnapshot.countedMost 8 (calls.map RejectCall.change) := by
  induction calls using List.reverseRecOn with
  | nil => rfl
  | append_singleton calls call ih =>
    rw [RejectBoard.after, List.foldl_append, List.map_append]
    exact (congrArg (TopList.record RejectReasonSnapshot.countedMost 8 · call.change) ih).trans
      (TopList.run_concat RejectReasonSnapshot.countedMost 8 _ _).symm

theorem RejectCall.counts (call : RejectCall) : TopList.Counts RejectReasonSnapshot.count u64Max call.change where
  update _ := rfl
  fresh := rfl

theorem occurrences_rejectChanges (pair : String × String) (calls : List RejectCall) :
    TopList.occurrences pair (calls.map RejectCall.change) = rejections pair calls := by
  rw [TopList.occurrences, List.countP_map]
  rfl

theorem distinctBefore_rejectChanges (pair : String × String) (calls : List RejectCall) :
    TopList.distinctBefore pair (calls.map RejectCall.change) = pairsBefore pair calls := by
  rw [TopList.distinctBefore, List.map_map]
  rfl

theorem rejectChanges_count (calls : List RejectCall) :
    ∀ change ∈ calls.map RejectCall.change, TopList.Counts RejectReasonSnapshot.count u64Max change := by
  intro change member
  obtain ⟨call, _, rfl⟩ := List.mem_map.mp member
  exact call.counts

/-- A newcomer has been counted once and goes to the end of the list. -/
theorem rejectChanges_newcomers (calls : List RejectCall) : ∀ change ∈ calls.map RejectCall.change,
    ∀ entry : RejectReasonSnapshot, 0 < entry.count → entry.countedMost change.fresh := by
  intro change member entry positive
  obtain ⟨call, _, rfl⟩ := List.mem_map.mp member
  exact positive

section

variable (storageRollupsEnabled : Bool) (calls : List RejectCall)

theorem rejectReasons_nodup :
    ((RejectBoard.after storageRollupsEnabled calls).rejectReasons.map RejectReasonSnapshot.pair).Nodup := by
  rw [rejectReasons_after]
  exact (TopList.run_wellFormed _).distinct

/-- A full list keeps its pairs: the first eight that were recorded are listed, and no other pair is. -/
theorem rejectReasons_listed_iff (pair : String × String) :
    pair ∈ (RejectBoard.after storageRollupsEnabled calls).rejectReasons.map RejectReasonSnapshot.pair ↔
      0 < rejections pair calls ∧ pairsBefore pair calls < 8 := by
  rw [rejectReasons_after, TopList.listed_iff_distinctBefore (by decide : 0 < u64Max) (rejectChanges_count calls)
    (rejectChanges_newcomers calls), occurrences_rejectChanges, distinctBefore_rejectChanges]

/-- A pair is shown with its count if it was among the first eight. -/
theorem rejectReasons_shown_iff {pair : String × String} (recorded : 0 < rejections pair calls) :
    TopList.shown RejectReasonSnapshot.pair RejectReasonSnapshot.count pair
        (RejectBoard.after storageRollupsEnabled calls).rejectReasons = rejections pair calls ↔
      pairsBefore pair calls < 8 ∧ rejections pair calls ≤ u64Max := by
  rw [rejectReasons_after, ← occurrences_rejectChanges, TopList.shown_exact_iff (by decide) (rejectChanges_count calls),
    TopList.spared_iff_distinctBefore (by decide : 0 < u64Max) (rejectChanges_count calls)
      (rejectChanges_newcomers calls), occurrences_rejectChanges, distinctBefore_rejectChanges]
  constructor
  · rintro ⟨spared, fits⟩
    exact ⟨spared.resolve_left recorded.ne', fits⟩
  · rintro ⟨early, fits⟩
    exact ⟨.inr early, fits⟩

/-- No entry shows less than what was recorded for it. -/
theorem rejectReasons_exact (fits : calls.length ≤ u64Max) {entry : RejectReasonSnapshot}
    (member : entry ∈ (RejectBoard.after storageRollupsEnabled calls).rejectReasons) :
    entry.count = rejections entry.pair calls := by
  obtain ⟨recorded, early⟩ := (rejectReasons_listed_iff storageRollupsEnabled calls entry.pair).mp
    (List.mem_map_of_mem member)
  have shown := (rejectReasons_shown_iff storageRollupsEnabled calls recorded).mpr
    ⟨early, List.countP_le_length.trans fits⟩
  rw [TopList.shown, Upsert.entryOf_of_mem (rejectReasons_nodup storageRollupsEnabled calls) member] at shown
  exact shown

end

/-- The texts of `reject_breakdown_category`, in the order in which they are looked for. -/
def rejectBreakdownRules : List (List String × String) :=
  [(["gas_price_cap", "adaptive_cap", "gas price", "gas_too_high", "gas_limit"], "gas_cap"),
   (["economic_no_positive_gross_edge", "no_positive", "no positive", "gross_edge", "edge_below", "profit_below"],
    "economic_no_edge"),
   (["price_impact", "impact too high", "impact_above"], "price_impact"),
   (["decode", "selector"], "decode_fail"),
   (["adaptive", "quote"], "adaptive_quote"),
   (["submit", "relay", "rpc_submit"], "submit"),
   (["preflight"], "preflight")]

def rejectBreakdownCategory (stage reason : String) : String :=
  Cascade.firstMatch (rejectBreakdownRules.map fun rule => (fun haystack => rule.1.any (hasText haystack), rule.2))
    "other" ((stage ++ " " ++ reason).toList.map Char.toLower)

structure RejectBreakdownSnapshot where
  category : String
  count : Nat
  pct : ℚ
  topReason : String

structure RejectBucket where
  category : String
  count : Nat
  topReason : String
  topCount : Nat

namespace RejectBucket

def add (bucket : RejectBucket) (reason : RejectReasonSnapshot) : RejectBucket :=
  { bucket with
    count := u64Add bucket.count reason.count
    topReason := if bucket.topCount ≤ reason.count then reason.stage ++ ":" ++ reason.reason else bucket.topReason
    topCount := if bucket.topCount ≤ reason.count then reason.count else bucket.topCount }

def change (reason : RejectReasonSnapshot) : Upsert.Change category where
  target := rejectBreakdownCategory reason.stage reason.reason
  update bucket := bucket.add reason
  fresh := add ⟨rejectBreakdownCategory reason.stage reason.reason, 0, "", 0⟩ reason
  update_key _ := rfl
  fresh_key := rfl

/-- The share of `total`, which wraps as a sum of `u64` in a release build. -/
def row (total : Nat) (bucket : RejectBucket) : RejectBreakdownSnapshot where
  category := bucket.category
  count := bucket.count
  pct := bucket.count / total * 100
  topReason := bucket.topReason

end RejectBucket

def rejectBuckets (reasons : List RejectReasonSnapshot) : List RejectBucket :=
  Upsert.run [] (reasons.map RejectBucket.change)

/-- `build_reject_breakdown`, from the order in which the map gives its buckets on. -/
def rejectRows (buckets : List RejectBucket) : List RejectBreakdownSnapshot :=
  let total := max ((buckets.map RejectBucket.count).sum % 2 ^ 64) 1
  ((buckets.map (RejectBucket.row total)).insertionSort fun left right => right.count ≤ left.count).take 8

/-- What `build_reject_breakdown` can give, whatever the order of its map. -/
def IsRejectBreakdown (reasons : List RejectReasonSnapshot) (rows : List RejectBreakdownSnapshot) : Prop :=
  ∃ buckets, buckets.Perm (rejectBuckets reasons) ∧ rows = rejectRows buckets

theorem sum_apply_bucket (reason : RejectReasonSnapshot) {buckets : List RejectBucket}
    (fits : (buckets.map RejectBucket.count).sum + reason.count ≤ u64Max) :
    (((RejectBucket.change reason).apply buckets).map RejectBucket.count).sum =
      (buckets.map RejectBucket.count).sum + reason.count := by
  induction buckets with
  | nil =>
    rw [List.map_nil, List.sum_nil, Nat.zero_add] at fits
    have first : u64Add 0 reason.count = 0 + reason.count := Saturating.add_eq (by omega)
    exact (Nat.add_zero _).trans first
  | cons bucket rest ih =>
    rw [List.map_cons, List.sum_cons] at fits
    rw [Upsert.Change.apply]
    split
    · have added : u64Add bucket.count reason.count = bucket.count + reason.count := Saturating.add_eq (by omega)
      have count : ((RejectBucket.change reason).update bucket).count = bucket.count + reason.count := added
      rw [List.map_cons, List.sum_cons, List.map_cons, List.sum_cons, count]
      omega
    · rw [List.map_cons, List.sum_cons, List.map_cons, List.sum_cons, ih (by omega)]
      omega

theorem sum_rejectBuckets {reasons : List RejectReasonSnapshot}
    (fits : (reasons.map RejectReasonSnapshot.count).sum ≤ u64Max) :
    ((rejectBuckets reasons).map RejectBucket.count).sum = (reasons.map RejectReasonSnapshot.count).sum := by
  induction reasons using List.reverseRecOn with
  | nil => rfl
  | append_singleton reasons reason ih =>
    rw [List.map_append, List.map_singleton, List.sum_append, List.sum_singleton] at fits ⊢
    have before := ih (by omega)
    have step : rejectBuckets (reasons ++ [reason]) = (RejectBucket.change reason).apply (rejectBuckets reasons) := by
      rw [rejectBuckets, List.map_append, Upsert.run, List.foldl_append]
      rfl
    rw [step, sum_apply_bucket reason (by omega), before]

/-- There are eight categories, so that the rows are never cut off. -/
theorem rejectBuckets_length (reasons : List RejectReasonSnapshot) : (rejectBuckets reasons).length ≤ 8 := by
  have distinct : ((rejectBuckets reasons).map RejectBucket.category).Nodup :=
    @Upsert.run_nodup _ _ _ _ [] List.nodup_nil _
  have known : (rejectBuckets reasons).map RejectBucket.category ⊆ rejectBreakdownRules.map Prod.snd ++ ["other"] := by
    intro category member
    rcases Upsert.mem_keys_run member with earlier | named
    · exact absurd earlier List.not_mem_nil
    · obtain ⟨change, found, rfl⟩ := List.mem_map.mp named
      obtain ⟨reason, _, rfl⟩ := List.mem_map.mp found
      exact Cascade.firstMatch_mem _ "other" _
  have few := (List.subperm_of_subset distinct known).length_le
  rw [List.length_map] at few
  exact few

/-- The breakdown spreads the counts of the list over the categories, and loses none of them. -/
theorem rejectBreakdown_sum {reasons : List RejectReasonSnapshot} {rows : List RejectBreakdownSnapshot}
    (breakdown : IsRejectBreakdown reasons rows) (fits : (reasons.map RejectReasonSnapshot.count).sum ≤ u64Max) :
    (rows.map RejectBreakdownSnapshot.count).sum = (reasons.map RejectReasonSnapshot.count).sum := by
  obtain ⟨buckets, order, rfl⟩ := breakdown
  rw [← sum_rejectBuckets fits, rejectRows]
  generalize max ((buckets.map RejectBucket.count).sum % 2 ^ 64) 1 = total
  have length : ((buckets.map (RejectBucket.row total)).insertionSort fun left right => right.count ≤ left.count).length
      ≤ 8 := by
    rw [List.length_insertionSort, List.length_map, order.length_eq]
    exact rejectBuckets_length reasons
  have sorted := (List.perm_insertionSort (fun left right : RejectBreakdownSnapshot => right.count ≤ left.count)
    (buckets.map (RejectBucket.row total))).map RejectBreakdownSnapshot.count
  rw [List.map_map] at sorted
  rw [List.take_of_length_le length, sorted.sum_eq]
  exact (order.map RejectBucket.count).sum_eq

/-- The breakdown counts the calls of the first eight pairs, and no other call ever. -/
theorem rejectBreakdown_counts (storageRollupsEnabled : Bool) {calls : List RejectCall}
    {rows : List RejectBreakdownSnapshot} (fits : calls.length ≤ u64Max)
    (breakdown : IsRejectBreakdown (RejectBoard.after storageRollupsEnabled calls).rejectReasons rows) :
    (rows.map RejectBreakdownSnapshot.count).sum = calls.countP fun call => pairsBefore call.pair calls < 8 := by
  let pairs := (RejectBoard.after storageRollupsEnabled calls).rejectReasons.map RejectReasonSnapshot.pair
  have shown : (RejectBoard.after storageRollupsEnabled calls).rejectReasons.map RejectReasonSnapshot.count =
      pairs.map fun pair => TopList.occurrences pair (calls.map RejectCall.change) := by
    rw [List.map_map]
    refine List.map_congr_left fun entry member => ?_
    rw [rejectReasons_exact storageRollupsEnabled calls fits member]
    exact (occurrences_rejectChanges entry.pair calls).symm
  have listed : (pairs.map fun pair => TopList.occurrences pair (calls.map RejectCall.change)).sum =
      calls.countP fun call => pairsBefore call.pair calls < 8 := by
    rw [TopList.sum_occurrences (rejectReasons_nodup storageRollupsEnabled calls), List.countP_map]
    refine List.countP_congr fun call member => ?_
    have recorded : 0 < rejections call.pair calls := List.countP_pos_iff.mpr ⟨call, member, by simp⟩
    have early := rejectReasons_listed_iff storageRollupsEnabled calls call.pair
    simp only [Function.comp_apply, decide_eq_true_eq]
    exact early.trans (and_iff_right recorded)
  have sum : ((RejectBoard.after storageRollupsEnabled calls).rejectReasons.map RejectReasonSnapshot.count).sum =
      calls.countP fun call => pairsBefore call.pair calls < 8 := by rw [shown, listed]
  have small := sum.trans_le (List.countP_le_length.trans fits)
  rw [rejectBreakdown_sum breakdown small, sum]

end ArbitrageRuntime
