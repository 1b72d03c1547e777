import ArbitrageRuntime.Base
import ArbitrageRuntime.Lib.TopList
import Mathlib.Data.String.Basic

namespace ArbitrageRuntime

/-- What `record_unsupported_selector` reads of a sample. -/
structure EdgeSampleSnapshot where
  observedAt : String
  victimTx : String
  selector : String
  status : String
  reason : String
  path : List String
  routeComplexity : Nat
  hopProfitabilityRank : List String
  router : String

structure UnsupportedSelectorSnapshot where
  selector : String
  target : String
  monitoredTokenHint : String
  inputBytes : Nat
  count : Nat
  firstSeen : String
  lastSeen : String
  sampleTx : String
  sampleReason : String
  deriving DecidableEq

structure UnsupportedSelectorRecord where
  target : String
  selector : String
  innerSelector : String
  tokenHints : String
  inputBytes : Nat
  sampleTx : String
  sampleCalldataPrefix : String
  routeHint : String

/-- `char::is_whitespace` -/
def isWhitespace (ch : Char) : Bool :=
  let code := ch.toNat
  (9 ≤ code && code ≤ 13) || (0x2000 ≤ code && code ≤ 0x200A) ||
    [0x20, 0x85, 0xA0, 0x1680, 0x2028, 0x2029, 0x202F, 0x205F, 0x3000].contains code

/-- `str::split_whitespace`, with the characters of the word so far in reverse. -/
def splitWhitespace : List Char → List Char → List (List Char)
  | [], [] => []
  | [], word => [word.reverse]
  | ch :: rest, word =>
    if isWhitespace ch then (if word = [] then splitWhitespace rest [] else word.reverse :: splitWhitespace rest [])
    else splitWhitespace rest (ch :: word)

/-- The marks that `reason_field` trims from both ends of a value. -/
def isMark (ch : Char) : Bool := ch == ',' || ch == ';' || ch == ')' || ch == '('

def trimMarks (value : List Char) : List Char := ((value.dropWhile isMark).reverse.dropWhile isMark).reverse

/-- The value of the first word `key=value`, if it is not empty. -/
def reasonField (reason key : String) : Option String :=
  let lead := (key ++ "=").toList
  (((splitWhitespace reason.toList []).find? fun part => lead.isPrefixOf part).map fun part =>
    String.ofList (trimMarks (part.drop lead.length))).filter fun value => value ≠ ""

/-- `value.parse::<u64>().ok()` -/
def parseU64 (value : String) : Option Nat :=
  let digits : List Char := match value.toList with
    | '+' :: rest => rest
    | chars => chars
  let number := digits.foldl (fun number digit => number * 10 + (digit.toNat - '0'.toNat)) 0
  if digits ≠ [] ∧ digits.all Char.isDigit = true ∧ number ≤ u64Max then some number else none

def compactDashboardText (value : String) (maxChars : Nat) : String :=
  String.ofList (value.toList.take maxChars) ++ if maxChars < value.length then "..." else ""

namespace UnsupportedSelectorSnapshot

def pair (entry : UnsupportedSelectorSnapshot) : String × String := (entry.selector, entry.target)

/-- The order of the list: the larger counts first, and the selectors in order where the counts are equal. -/
def rankedBefore (left right : UnsupportedSelectorSnapshot) : Prop :=
  right.count < left.count ∨ right.count = left.count ∧ left.selector ≤ right.selector

instance : DecidableRel rankedBefore := fun left right =>
  inferInstanceAs (Decidable (right.count < left.count ∨ right.count = left.count ∧ left.selector ≤ right.selector))

instance : IsTrans UnsupportedSelectorSnapshot rankedBefore where
  trans first second third := by
    rintro (more | ⟨same, order⟩) (more' | ⟨same', order'⟩)
    · exact .inl (more'.trans more)
    · exact .inl (same' ▸ more)
    · exact .inl (same ▸ more')
    · exact .inr ⟨same'.trans same, order.trans order'⟩

instance : Std.Total rankedBefore where
  total left right := by
    rcases Nat.lt_trichotomy right.count left.count with more | same | fewer
    · exact .inl (.inl more)
    · exact (le_total left.selector right.selector).imp (fun order => .inr ⟨same, order⟩)
        fun order => .inr ⟨same.symm, order⟩
    · exact .inr (.inl fewer)

end UnsupportedSelectorSnapshot

namespace EdgeSampleSnapshot

/-- The sample was rejected by the decoder for a selector it does not support. -/
def isUnsupported (sample : EdgeSampleSnapshot) : Bool :=
  let reason := sample.reason.toList.map Char.toLower
  sample.status == "decode_reject" && (hasText reason "selector_unsupported" || hasText reason "unsupported selector")

def selectorText (sample : EdgeSampleSnapshot) : String :=
  if sample.selector.toList.all isWhitespace then "unknown" else sample.selector

def targetText (sample : EdgeSampleSnapshot) : String :=
  ((reasonField sample.reason "target").or (reasonField sample.reason "to")).getD sample.router

def pair (sample : EdgeSampleSnapshot) : String × String := (sample.selectorText, sample.targetText)

def monitoredTokenHint (sample : EdgeSampleSnapshot) : String :=
  let hint := ",".intercalate (sample.path.take 6)
  if hint ≠ "" then hint else "unknown"

def inputBytes (sample : EdgeSampleSnapshot) : Nat :=
  ((reasonField sample.reason "input_bytes").bind parseU64).getD (u64Add (u64Mul sample.routeComplexity 128) 4)

def change (sample : EdgeSampleSnapshot) : Upsert.Change UnsupportedSelectorSnapshot.pair where
  target := sample.pair
  update entry :=
    { entry with
      count := u64Add entry.count 1
      lastSeen := sample.observedAt
      sampleTx := sample.victimTx
      sampleReason := compactDashboardText sample.reason 180
      monitoredTokenHint :=
        if entry.monitoredTokenHint = "unknown" ∧ sample.monitoredTokenHint ≠ "unknown" then sample.monitoredTokenHint
        else entry.monitoredTokenHint
      inputBytes := if entry.inputBytes = 0 then sample.inputBytes else entry.inputBytes }
  fresh :=
    { selector := sample.selectorText
      target := sample.targetText
      monitoredTokenHint := sample.monitoredTokenHint
      inputBytes := sample.inputBytes
      count := 1
      firstSeen := sample.observedAt
      lastSeen := sample.observedAt
      sampleTx := sample.victimTx
      sampleReason := compactDashboardText sample.reason 180 }
  update_key _ := rfl
  fresh_key := rfl

def unsupportedRecord (sample : EdgeSampleSnapshot) : UnsupportedSelectorRecord where
  target := sample.targetText
  selector := sample.selectorText
  innerSelector := ((reasonField sample.reason "inner_selector").or (reasonField sample.reason "inner")).getD ""
  tokenHints := sample.monitoredTokenHint
  inputBytes := sample.inputBytes
  sampleTx := sample.victimTx
  sampleCalldataPrefix := (reasonField sample.reason "calldata_prefix").getD "unknown"
  routeHint := " | ".intercalate (sample.hopProfitabilityRank.take 4)

end EdgeSampleSnapshot

/-- The list after a sample, and the record that goes to the storage. -/
def recordUnsupportedSelector (unsupportedSelectors : List UnsupportedSelectorSnapshot) (sample : EdgeSampleSnapshot) :
    List UnsupportedSelectorSnapshot × Option UnsupportedSelectorRecord :=
  if sample.isUnsupported then
    (TopList.record UnsupportedSelectorSnapshot.rankedBefore 20 unsupportedSelectors sample.change,
     some sample.unsupportedRecord)
  else (unsupportedSelectors, none)

def unsupportedSelectorsAfter (samples : List EdgeSampleSnapshot) : List UnsupportedSelectorSnapshot :=
  samples.foldl (fun unsupportedSelectors sample => (recordUnsupportedSelector unsupportedSelectors sample).1) []

/-- How often a pair of selector and target was sampled as unsupported. -/
def unsupportedSamples (pair : String × String) (samples : List EdgeSampleSnapshot) : Nat :=
  samples.countP fun sample => sample.isUnsupported && decide (sample.pair = pair)

/-- The changes that the samples make to the list. -/
def unsupportedChanges (samples : List EdgeSampleSnapshot) : List (Upsert.Change UnsupportedSelectorSnapshot.pair) :=
  (samples.filter EdgeSampleSnapshot.isUnsupported).map EdgeSampleSnapshot.change

theorem unsupportedSelectorsAfter_eq (samples : List EdgeSampleSnapshot) :
    unsupportedSelectorsAfter samples =
      TopList.run UnsupportedSelectorSnapshot.rankedBefore 20 (unsupportedChanges samples) := by
  induction samples using List.reverseRecOn with
  | nil => rfl
  | append_singleton samples sample ih =>
    have step : unsupportedSelectorsAfter (samples ++ [sample]) =
        (recordUnsupportedSelector (unsupportedSelectorsAfter samples) sample).1 := by
      rw [unsupportedSelectorsAfter, List.foldl_append]
      rfl
    rw [step, recordUnsupportedSelector, unsupportedChanges, List.filter_append, List.map_append]
    by_cases unsupported : sample.isUnsupported = true
    · rw [if_pos unsupported, List.filter_cons_of_pos unsupported, ih]
      exact (TopList.run_concat UnsupportedSelectorSnapshot.rankedBefore 20 _ _).symm
    · rw [if_neg unsupported, List.filter_cons_of_neg unsupported, List.filter_nil, List.map_nil, List.append_nil]
      exact ih

theorem unsupportedSelectors_nodup (samples : List EdgeSampleSnapshot) :
    ((unsupportedSelectorsAfter samples).map UnsupportedSelectorSnapshot.pair).Nodup := by
  rw [unsupportedSelectorsAfter_eq]
  exact (TopList.run_wellFormed _).distinct

theorem EdgeSampleSnapshot.counts (sample : EdgeSampleSnapshot) :
    TopList.Counts UnsupportedSelectorSnapshot.count u64Max sample.change where
  update _ := rfl
  fresh := rfl

theorem occurrences_unsupportedChanges (pair : String × String) (samples : List EdgeSampleSnapshot) :
    TopList.occurrences pair (unsupportedChanges samples) = unsupportedSamples pair samples := by
  rw [TopList.occurrences, unsupportedChanges, List.countP_map, List.countP_filter, unsupportedSamples]
  apply List.countP_congr
  intro sample _
  simp only [Function.comp_apply, Bool.and_eq_true, decide_eq_true_eq]
  exact and_comm

/-- A pair is shown with its count if and only if no sample ever puts it out of the list. -/
theorem unsupportedSelectors_shown_iff (samples : List EdgeSampleSnapshot) (pair : String × String) :
    TopList.shown UnsupportedSelectorSnapshot.pair UnsupportedSelectorSnapshot.count pair
        (unsupportedSelectorsAfter samples) = unsupportedSamples pair samples ↔
      TopList.Spared UnsupportedSelectorSnapshot.rankedBefore 20 pair (unsupportedChanges samples) ∧
        unsupportedSamples pair samples ≤ u64Max := by
  have counts : ∀ change ∈ unsupportedChanges samples,
      TopList.Counts UnsupportedSelectorSnapshot.count u64Max change := by
    intro change member
    obtain ⟨sample, _, rfl⟩ := List.mem_map.mp member
    exact sample.counts
  rw [unsupportedSelectorsAfter_eq, ← occurrences_unsupportedChanges]
  exact TopList.shown_exact_iff (by decide) counts pair

end ArbitrageRuntime
