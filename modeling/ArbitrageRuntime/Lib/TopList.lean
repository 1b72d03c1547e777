import ArbitrageRuntime.Lib.Relational
import ArbitrageRuntime.Lib.Saturating
import ArbitrageRuntime.Lib.Upsert
import Mathlib.Data.List.Sort
import Mathlib.Data.List.TakeWhile
import Mathlib.Data.Finset.Card

/-! A bounded list of counted keys: a call counts its key, a stable sort ranks the entries and the list is cut
to its capacity. -/

namespace TopList

open Upsert

variable {α κ : Type} {key : α → κ}

/-- A sort that keeps elements of one rank in their order leaves an element that is behind all others at the end. -/
theorem orderedInsert_concat {ahead : α → α → Prop} [DecidableRel ahead] {x last : α} (before : ahead x last)
    (entries : List α) : (entries ++ [last]).orderedInsert ahead x = entries.orderedInsert ahead x ++ [last] := by
  induction entries with
  | nil => exact List.orderedInsert_cons_of_le ahead [] before
  | cons entry rest ih =>
    rw [List.cons_append, List.orderedInsert_cons, List.orderedInsert_cons, ih]
    split <;> rfl

theorem insertionSort_push_overtakes {ahead : α → α → Prop} [DecidableRel ahead] {init : List α} {last fresh : α}
    (behind : ∀ entry ∈ init, ahead entry last) (overtakes : ¬ ahead last fresh) :
    (init ++ [last] ++ [fresh]).insertionSort ahead = (init ++ [fresh]).insertionSort ahead ++ [last] := by
  induction init with
  | nil => exact List.orderedInsert_of_not_le ahead [] overtakes
  | cons entry init ih =>
    obtain ⟨first, behind⟩ := List.forall_mem_cons.mp behind
    rw [List.cons_append, List.cons_append, List.insertionSort_cons, ih behind, List.cons_append,
      List.insertionSort_cons, orderedInsert_concat first]

section

variable [DecidableEq κ] (ahead : α → α → Prop) [DecidableRel ahead] (capacity : Nat)

def record (entries : List α) (change : Change key) : List α :=
  ((change.apply entries).insertionSort ahead).take capacity

def run (changes : List (Change key)) : List α := changes.foldl (record ahead capacity) []

/-- The key that a call puts out of a full list that does not have its own: that of the last entry if the
newcomer is ranked before it, and else its own. -/
def putOut (entries : List α) (change : Change key) : Option κ :=
  if change.target ∈ entries.map key ∨ entries.length < capacity then none
  else match entries.getLast? with
    | some last => if ahead last change.fresh then some change.target else some (key last)
    | none => some change.target

/-- What every call leaves behind. -/
structure WellFormed (key : α → κ) (entries : List α) : Prop where
  sorted : entries.Pairwise ahead
  distinct : (entries.map key).Nodup
  short : entries.length ≤ capacity

theorem run_concat (changes : List (Change key)) (change : Change key) :
    run ahead capacity (changes ++ [change]) = record ahead capacity (run ahead capacity changes) change := by
  rw [run, List.foldl_append]
  rfl

end

section

variable [DecidableEq κ] {ahead : α → α → Prop} [DecidableRel ahead] {capacity : Nat} {entries : List α}

/-- Where nothing is cut off, a call only reorders what it has changed. -/
theorem record_perm {change : Change key} (fits : (change.apply entries).length ≤ capacity) :
    (record ahead capacity entries change).Perm (change.apply entries) := by
  have length : ((change.apply entries).insertionSort ahead).length ≤ capacity := by
    rw [List.length_insertionSort]
    exact fits
  rw [record, List.take_of_length_le length]
  exact List.perm_insertionSort ahead _

theorem length_record (entries : List α) (change : Change key) :
    (record ahead capacity entries change).length = min capacity (change.apply entries).length := by
  rw [record, List.length_take, List.length_insertionSort]

theorem length_apply_of_listed {change : Change key} (listed : change.target ∈ entries.map key) :
    (change.apply entries).length = entries.length := by
  have keys := congrArg List.length (change.keys_apply_of_listed listed)
  rw [List.length_map, List.length_map] at keys
  exact keys

theorem length_apply_of_new {change : Change key} (new : change.target ∉ entries.map key) :
    (change.apply entries).length = entries.length + 1 := by
  rw [change.apply_of_new new, List.length_append, List.length_singleton]

/-- A newcomer that is ranked before the last entry of a full list takes its place. -/
theorem record_full_before (inv : WellFormed ahead capacity key entries) {change : Change key} {last : α}
    {init : List α} (new : change.target ∉ entries.map key) (full : entries.length = capacity)
    (ends : entries = init ++ [last]) (overtakes : ¬ ahead last change.fresh) :
    (record ahead capacity entries change).Perm (init ++ [change.fresh]) := by
  subst ends
  have behind : ∀ entry ∈ init, ahead entry last := fun entry earlier =>
    (List.pairwise_append.mp inv.sorted).2.2 entry earlier last (List.mem_singleton_self last)
  have length : ((init ++ [change.fresh]).insertionSort ahead).length = capacity := by
    rw [List.length_insertionSort, ← full, List.length_append, List.length_append]
    rfl
  rw [TopList.record, change.apply_of_new new, insertionSort_push_overtakes behind overtakes, ← length, List.take_left]
  exact List.perm_insertionSort ahead _

/-- The key of the last entry is the one that is put out then. -/
theorem entryOf_record_before (inv : WellFormed ahead capacity key entries) {change : Change key} {last : α}
    (new : change.target ∉ entries.map key) (full : entries.length = capacity) (atLast : entries.getLast? = some last)
    (overtakes : ¬ ahead last change.fresh) (k : κ) :
    entryOf key k (record ahead capacity entries change) =
      if key last = k then none else entryOf key k (change.apply entries) := by
  obtain ⟨init, ends⟩ := List.getLast?_eq_some_iff.mp atLast
  have same := record_full_before inv new full ends overtakes
  have swap : (init ++ [change.fresh] ++ [last]).Perm (change.apply entries) := by
    rw [change.apply_of_new new, ends, List.append_assoc, List.append_assoc]
    exact List.Perm.append_left init (List.Perm.swap _ _ _)
  have distinct := (swap.map key).nodup_iff.mpr (change.apply_nodup inv.distinct)
  have parts := distinct
  rw [List.map_append] at parts
  rw [entryOf_perm parts.of_append_left same.symm k, entryOf_perm distinct swap k]
  by_cases out : key last = k
  · rw [if_pos out]
    exact entryOf_eq_none.mpr fun member => (List.nodup_append.mp parts).2.2 k member k (by simp [out]) rfl
  · rw [if_neg out, entryOf_concat_other out]

variable [IsTrans α ahead]

/-- A newcomer that is ranked behind the last entry of a full list is cut off again. -/
theorem record_full_behind (inv : WellFormed ahead capacity key entries) {change : Change key} {last : α}
    (new : change.target ∉ entries.map key) (full : entries.length = capacity) (atLast : entries.getLast? = some last)
    (behind : ahead last change.fresh) : record ahead capacity entries change = entries := by
  obtain ⟨init, rfl⟩ := List.getLast?_eq_some_iff.mp atLast
  have order : (init ++ [last] ++ [change.fresh]).Pairwise ahead := by
    refine List.pairwise_append.mpr ⟨inv.sorted, List.pairwise_singleton _ _, ?_⟩
    intro entry member newcomer found
    rw [List.mem_singleton.mp found]
    rcases List.mem_append.mp member with earlier | found
    · have before := (List.pairwise_append.mp inv.sorted).2.2 entry earlier last (List.mem_singleton_self last)
      exact IsTrans.trans _ _ _ before behind
    · rw [List.mem_singleton.mp found]
      exact behind
  rw [TopList.record, change.apply_of_new new, order.insertionSort_eq, ← full, List.take_left]

/-- What one call does to the entry of every key. -/
theorem entryOf_record (inv : WellFormed ahead capacity key entries) (change : Change key) (k : κ) :
    entryOf key k (record ahead capacity entries change) =
      if putOut ahead capacity entries change = some k then none else entryOf key k (change.apply entries) := by
  unfold putOut
  by_cases stays : change.target ∈ entries.map key ∨ entries.length < capacity
  · have fits : (change.apply entries).length ≤ capacity := by
      by_cases listed : change.target ∈ entries.map key
      · rw [length_apply_of_listed listed]
        exact inv.short
      · rw [length_apply_of_new listed]
        exact stays.resolve_left listed
    rw [if_pos stays, if_neg (by simp)]
    exact entryOf_perm (change.apply_nodup inv.distinct) (record_perm fits).symm k
  · obtain ⟨new, least⟩ := not_or.mp stays
    have full : entries.length = capacity := Nat.le_antisymm inv.short (Nat.le_of_not_lt least)
    rw [if_neg stays]
    cases atLast : entries.getLast? with
    | none =>
      have empty : entries = [] := List.getLast?_eq_none_iff.mp atLast
      subst empty
      have nothing : record ahead capacity [] change = [] := by
        rw [TopList.record, ← full]
        rfl
      rw [nothing]
      by_cases own : change.target = k
      · rw [if_pos (congrArg some own)]
        rfl
      · rw [if_neg (fun same => own (Option.some.inj same)), change.entryOf_apply_other own]
    | some last =>
      by_cases behind : ahead last change.fresh
      · rw [record_full_behind inv new full atLast behind]
        simp only [if_pos behind, Option.some.injEq]
        by_cases own : change.target = k
        · rw [if_pos own]
          exact entryOf_eq_none.mpr (own ▸ new)
        · rw [if_neg own, change.entryOf_apply_other own]
      · simp only [if_neg behind, Option.some.injEq]
        exact entryOf_record_before inv new full atLast behind k

variable [Std.Total ahead]

theorem WellFormed.record (inv : WellFormed ahead capacity key entries) (change : Change key) :
    WellFormed ahead capacity key (record ahead capacity entries change) where
  sorted := (List.pairwise_insertionSort ahead _).sublist (List.take_sublist capacity _)
  distinct := by
    have same := (List.perm_insertionSort ahead (change.apply entries)).map key
    have distinct := same.nodup_iff.mpr (change.apply_nodup inv.distinct)
    exact distinct.sublist ((List.take_sublist capacity _).map key)
  short := List.length_take_le _ _

theorem run_wellFormed (changes : List (Change key)) : WellFormed ahead capacity key (run ahead capacity changes) := by
  induction changes using List.reverseRecOn with
  | nil => exact ⟨.nil, List.nodup_nil, Nat.zero_le _⟩
  | append_singleton changes change ih =>
    rw [run_concat]
    exact ih.record change

end

section

variable [DecidableEq κ]

/-- A call counts its key up to `top`, and its fresh entry is counted once. -/
structure Counts (count : α → Nat) (top : Nat) (change : Change key) : Prop where
  update : ∀ entry, count (change.update entry) = Saturating.add top (count entry) 1
  fresh : count change.fresh = 1

/-- The count that the list shows for a key, which is zero where the key is not listed. -/
def shown (key : α → κ) (count : α → Nat) (k : κ) (entries : List α) : Nat :=
  ((entryOf key k entries).map count).getD 0

def occurrences (k : κ) (changes : List (Change key)) : Nat := changes.countP fun change => change.target = k

/-- The number of other keys that were counted before a key for the first time. -/
def distinctBefore (k : κ) (changes : List (Change key)) : Nat :=
  ((changes.map Change.target).takeWhile fun target => target ≠ k).toFinset.card

/-- No call puts the key out. -/
def Spared (ahead : α → α → Prop) [DecidableRel ahead] (capacity : Nat) (k : κ) (changes : List (Change key)) :
    Prop :=
  ∀ before change after, changes = before ++ change :: after →
    putOut ahead capacity (run ahead capacity before) change ≠ some k

theorem occurrences_concat (k : κ) (changes : List (Change key)) (change : Change key) :
    occurrences k (changes ++ [change]) = occurrences k changes + if change.target = k then 1 else 0 := by
  rw [occurrences, List.countP_append, List.countP_singleton]
  simp [occurrences]

/-- The counts of different keys add up to the number of calls that count one of them. -/
theorem sum_occurrences {keys : List κ} (distinct : keys.Nodup) (changes : List (Change key)) :
    (keys.map fun k => occurrences k changes).sum = changes.countP fun change => change.target ∈ keys := by
  have sums := Relational.sum_keys Change.target (fun _ => 1) distinct changes
  simpa [occurrences, List.countP_eq_length_filter] using sums

theorem spared_concat {ahead : α → α → Prop} [DecidableRel ahead] {capacity : Nat} {k : κ}
    {changes : List (Change key)} {change : Change key} : Spared ahead capacity k (changes ++ [change]) ↔
      Spared ahead capacity k changes ∧ putOut ahead capacity (run ahead capacity changes) change ≠ some k := by
  constructor
  · intro spared
    refine ⟨fun before middle after split => ?_, spared changes change [] rfl⟩
    exact spared before middle (after ++ [change]) (by rw [split, List.append_assoc]; rfl)
  · rintro ⟨spared, last⟩ before middle after split
    rcases List.eq_nil_or_concat after with rfl | ⟨init, final, rfl⟩
    · obtain ⟨rfl, same⟩ := List.append_inj' split rfl
      cases same
      exact last
    · rw [List.concat_eq_append, ← List.cons_append, ← List.append_assoc] at split
      obtain ⟨rfl, -⟩ := List.append_inj' split rfl
      exact spared before middle init rfl

end

section

variable [DecidableEq κ] {ahead : α → α → Prop} [DecidableRel ahead] {capacity : Nat} {count : α → Nat} {top : Nat}
  {entries : List α} {change : Change key}

theorem putOut_eq_some {k : κ} (out : putOut ahead capacity entries change = some k) :
    change.target ∉ entries.map key ∧ capacity ≤ entries.length ∧ (change.target = k ∨ k ∈ entries.map key) := by
  unfold putOut at out
  split at out
  · cases out
  · rename_i stays
    obtain ⟨new, least⟩ := not_or.mp stays
    refine ⟨new, Nat.le_of_not_lt least, ?_⟩
    split at out
    · rename_i last atLast
      split at out
      · exact .inl (Option.some.inj out)
      · exact .inr (Option.some.inj out ▸ List.mem_map_of_mem (List.mem_of_getLast? atLast))
    · exact .inl (Option.some.inj out)

/-- A newcomer that is ranked behind all entries puts out nothing but itself. -/
theorem putOut_behind (behind : ∀ entry ∈ entries, ahead entry change.fresh) {k : κ} :
    putOut ahead capacity entries change = some k ↔
      change.target = k ∧ change.target ∉ entries.map key ∧ capacity ≤ entries.length := by
  unfold putOut
  by_cases stays : change.target ∈ entries.map key ∨ entries.length < capacity
  · rw [if_pos stays]
    constructor
    · intro out
      cases out
    · rintro ⟨_, new, full⟩
      exact absurd (stays.resolve_left new) (Nat.not_lt.mpr full)
  · obtain ⟨new, least⟩ := not_or.mp stays
    have full := Nat.le_of_not_lt least
    rw [if_neg stays]
    cases atLast : entries.getLast? with
    | none => exact ⟨fun out => ⟨Option.some.inj out, new, full⟩, fun out => congrArg some out.1⟩
    | some last =>
      simp only [if_pos (behind last (List.mem_of_getLast? atLast))]
      exact ⟨fun out => ⟨Option.some.inj out, new, full⟩, fun out => congrArg some out.1⟩

theorem shown_apply (counts : Counts count top change) (positive : 0 < top) (k : κ) (entries : List α) :
    shown key count k (change.apply entries) =
      if change.target = k then Saturating.add top (shown key count k entries) 1 else shown key count k entries := by
  by_cases own : change.target = k
  · subst own
    have once : Saturating.add top 0 1 = 0 + 1 := Saturating.add_eq positive
    rw [if_pos rfl, shown, change.entryOf_apply_self, shown]
    cases entryOf key change.target entries with
    | none => exact counts.fresh.trans once.symm
    | some entry => exact counts.update entry
  · rw [if_neg own, shown, shown, change.entryOf_apply_other own]

theorem count_pos_of_mem {changes : List (Change key)} (positive : 0 < top)
    (counts : ∀ change ∈ changes, Counts count top change) {entry : α}
    (member : entry ∈ run ahead capacity changes) : 0 < count entry := by
  induction changes using List.reverseRecOn generalizing entry with
  | nil => exact absurd member List.not_mem_nil
  | append_singleton changes change ih =>
    have earlier : ∀ change ∈ changes, Counts count top change := fun change member =>
      counts change (List.mem_append_left _ member)
    have own := counts change (List.mem_append_right _ (List.mem_singleton_self change))
    rw [run_concat] at member
    have applied := (List.perm_insertionSort ahead _).mem_iff.mp (List.mem_of_mem_take member)
    rcases change.mem_apply applied with kept | rfl | ⟨old, _, rfl⟩
    · exact ih earlier kept
    · rw [own.fresh]
      exact Nat.one_pos
    · rw [own.update, Saturating.add]
      omega

/-- Where every newcomer is ranked behind what has been counted, the next one is behind the whole list. -/
theorem newcomer_behind {changes : List (Change key)} (positive : 0 < top)
    (counts : ∀ made ∈ changes ++ [change], Counts count top made)
    (newcomers : ∀ made ∈ changes ++ [change], ∀ entry, 0 < count entry → ahead entry made.fresh) :
    ∀ entry ∈ run ahead capacity changes, ahead entry change.fresh := by
  intro entry member
  have earlier : ∀ made ∈ changes, Counts count top made := fun made inside =>
    counts made (List.mem_append_left _ inside)
  have last := newcomers change (List.mem_append_right _ (List.mem_singleton_self change))
  exact last entry (count_pos_of_mem positive earlier member)

/-- A key is shown with a count if one of the entries is its own and has this count. -/
theorem shown_eq_iff (distinct : (entries.map key).Nodup) {k : κ} {n : Nat} (positive : 0 < n) :
    shown key count k entries = n ↔ ∃ entry ∈ entries, key entry = k ∧ count entry = n := by
  unfold shown
  constructor
  · intro counted
    cases found : entryOf key k entries with
    | none =>
      rw [found] at counted
      exact absurd counted positive.ne
    | some entry =>
      rw [found] at counted
      obtain ⟨member, own⟩ := entryOf_eq_some found
      exact ⟨entry, member, own, counted⟩
  · rintro ⟨entry, member, rfl, counted⟩
    rw [entryOf_of_mem distinct member]
    exact counted

variable [IsTrans α ahead]

theorem shown_record (inv : WellFormed ahead capacity key entries) (count : α → Nat) (k : κ) :
    shown key count k (record ahead capacity entries change) =
      if putOut ahead capacity entries change = some k then 0 else shown key count k (change.apply entries) := by
  rw [shown, entryOf_record inv]
  split <;> rfl

/-- A call lists the keys that were listed and, where there is a place for it, its own. -/
theorem mem_keys_record_behind (inv : WellFormed ahead capacity key entries)
    (behind : ∀ entry ∈ entries, ahead entry change.fresh) {k : κ} :
    k ∈ (record ahead capacity entries change).map key ↔
      k ∈ entries.map key ∨ change.target = k ∧ entries.length < capacity := by
  have listed : ∀ entries : List α, k ∈ entries.map key ↔ entryOf key k entries ≠ none := fun entries => by
    rw [ne_eq, entryOf_eq_none, not_not]
  rw [listed (record _ _ _ _), entryOf_record inv]
  by_cases out : putOut ahead capacity entries change = some k
  · obtain ⟨own, new, full⟩ := (putOut_behind behind).mp out
    rw [if_pos out]
    constructor
    · exact fun kept => absurd rfl kept
    · rintro (kept | ⟨_, room⟩)
      · exact absurd (own ▸ kept) new
      · exact absurd room (Nat.not_lt.mpr full)
  · rw [if_neg out]
    by_cases own : change.target = k
    · subst own
      rw [change.entryOf_apply_self]
      refine ⟨fun _ => ?_, fun _ => Option.some_ne_none _⟩
      by_contra missing
      obtain ⟨new, least⟩ := not_or.mp missing
      exact out ((putOut_behind behind).mpr ⟨rfl, new, Nat.le_of_not_lt fun room => least ⟨rfl, room⟩⟩)
    · rw [change.entryOf_apply_other own, ← listed]
      exact ⟨.inl, fun kept => kept.resolve_right fun ⟨same, _⟩ => own same⟩

variable [Std.Total ahead] {changes : List (Change key)}

/-- Only keys that were counted are listed. -/
theorem occurs_of_listed {k : κ} (listed : k ∈ (run ahead capacity changes).map key) : 0 < occurrences k changes := by
  induction changes using List.reverseRecOn with
  | nil => exact absurd listed List.not_mem_nil
  | append_singleton changes change ih =>
    rw [run_concat] at listed
    rw [occurrences_concat]
    by_cases own : change.target = k
    · rw [if_pos own]
      omega
    · have before : k ∈ (run ahead capacity changes).map key := by
        by_contra missing
        refine entryOf_eq_none.mp ?_ listed
        rw [entryOf_record (run_wellFormed changes), change.entryOf_apply_other own, entryOf_eq_none.mpr missing,
          ite_self]
      have occurs := ih before
      omega

theorem shown_run_le (positive : 0 < top) (counts : ∀ change ∈ changes, Counts count top change) (k : κ) :
    shown key count k (run ahead capacity changes) ≤ min (occurrences k changes) top := by
  induction changes using List.reverseRecOn with
  | nil => exact Nat.zero_le _
  | append_singleton changes change ih =>
    have before := ih fun change member => counts change (List.mem_append_left _ member)
    have own := counts change (List.mem_append_right _ (List.mem_singleton_self change))
    rw [run_concat, shown_record (run_wellFormed changes), shown_apply own positive, occurrences_concat, Saturating.add]
    split
    · exact Nat.zero_le _
    · split <;> omega

/-- A key that is never put out is shown with all its occurrences. -/
theorem shown_of_spared (positive : 0 < top) (counts : ∀ change ∈ changes, Counts count top change) {k : κ}
    (spared : Spared ahead capacity k changes) :
    shown key count k (run ahead capacity changes) = min (occurrences k changes) top := by
  induction changes using List.reverseRecOn with
  | nil => exact (Nat.zero_min top).symm
  | append_singleton changes change ih =>
    obtain ⟨spared, stays⟩ := spared_concat.mp spared
    have before := ih (fun change member => counts change (List.mem_append_left _ member)) spared
    have own := counts change (List.mem_append_right _ (List.mem_singleton_self change))
    rw [run_concat, shown_record (run_wellFormed changes), if_neg stays, shown_apply own positive, before,
      occurrences_concat, Saturating.add]
    split <;> omega

/-- A key that was put out once has lost occurrences for good. -/
theorem shown_lt_of_not_spared (positive : 0 < top) (counts : ∀ change ∈ changes, Counts count top change) {k : κ}
    (out : ¬ Spared ahead capacity k changes) :
    shown key count k (run ahead capacity changes) < occurrences k changes := by
  induction changes using List.reverseRecOn with
  | nil => exact absurd (fun before change after split => absurd split.symm (by simp)) out
  | append_singleton changes change ih =>
    have earlier : ∀ change ∈ changes, Counts count top change := fun change member =>
      counts change (List.mem_append_left _ member)
    have own := counts change (List.mem_append_right _ (List.mem_singleton_self change))
    rw [run_concat, shown_record (run_wellFormed changes), occurrences_concat]
    by_cases now : putOut ahead capacity (run ahead capacity changes) change = some k
    · rw [if_pos now]
      rcases (putOut_eq_some now).2.2 with own | listed
      · rw [if_pos own]
        omega
      · have occurs := occurs_of_listed listed
        omega
    · have before := ih earlier fun spared => out (spared_concat.mpr ⟨spared, now⟩)
      rw [if_neg now, shown_apply own positive, Saturating.add]
      split <;> omega

/-- A key is shown with its exact count if and only if no call puts it out and the count does not stop. -/
theorem shown_exact_iff (positive : 0 < top) (counts : ∀ change ∈ changes, Counts count top change) (k : κ) :
    shown key count k (run ahead capacity changes) = occurrences k changes ↔
      Spared ahead capacity k changes ∧ occurrences k changes ≤ top := by
  constructor
  · intro exact
    have bound : shown key count k (run ahead capacity changes) ≤ min (occurrences k changes) top :=
      shown_run_le positive counts k
    refine ⟨?_, by omega⟩
    by_contra out
    exact absurd exact (shown_lt_of_not_spared positive counts out).ne
  · rintro ⟨spared, fits⟩
    rw [shown_of_spared positive counts spared]
    omega

theorem occurs_iff {k : κ} : 0 < occurrences k changes ↔ k ∈ changes.map Change.target := by
  rw [occurrences, List.countP_pos_iff, List.mem_map]
  simp only [decide_eq_true_eq]

theorem targets_concat (changes : List (Change key)) (change : Change key) :
    ((changes ++ [change]).map Change.target).toFinset =
      insert change.target (changes.map Change.target).toFinset := by
  rw [List.map_append, List.toFinset_append, Finset.union_comm]
  rfl

theorem length_run_le_distinct (changes : List (Change key)) :
    (run ahead capacity changes).length ≤ (changes.map Change.target).toFinset.card := by
  have keys : ((run ahead capacity changes).map key).toFinset.card = (run ahead capacity changes).length := by
    rw [List.toFinset_card_of_nodup (run_wellFormed changes).distinct, List.length_map]
  rw [← keys]
  refine Finset.card_le_card fun k member => ?_
  exact List.mem_toFinset.mpr (occurs_iff.mp (occurs_of_listed (List.mem_toFinset.mp member)))

/-- A list with a place for every key that was counted has them all. -/
theorem listed_of_room {k : κ} (room : (changes.map Change.target).toFinset.card ≤ capacity)
    (seen : k ∈ changes.map Change.target) : k ∈ (run ahead capacity changes).map key := by
  induction changes using List.reverseRecOn generalizing k with
  | nil => exact absurd seen List.not_mem_nil
  | append_singleton changes change ih =>
    rw [targets_concat] at room
    have fewer := Finset.card_le_card (Finset.subset_insert change.target (changes.map Change.target).toFinset)
    have before := fun {k : κ} => @ih k (fewer.trans room)
    have length : (run ahead capacity changes).length ≤ (changes.map Change.target).toFinset.card :=
      length_run_le_distinct changes
    have fits : (change.apply (run ahead capacity changes)).length ≤ capacity := by
      by_cases listed : change.target ∈ (run ahead capacity changes).map key
      · rw [length_apply_of_listed listed]
        omega
      · have new : change.target ∉ (changes.map Change.target).toFinset := fun member =>
          listed (before (List.mem_toFinset.mp member))
        rw [Finset.card_insert_of_notMem new] at room
        rw [length_apply_of_new listed]
        omega
    rw [run_concat, ((record_perm fits).map key).mem_iff, change.mem_keys_apply]
    rcases List.mem_append.mp (List.map_append ▸ seen) with earlier | own
    · exact .inl (before earlier)
    · exact .inr (List.mem_singleton.mp own).symm

/-- The list is full once as many different keys were counted as it has places. -/
theorem length_run (changes : List (Change key)) :
    (run ahead capacity changes).length = min capacity (changes.map Change.target).toFinset.card := by
  induction changes using List.reverseRecOn with
  | nil => exact (Nat.min_zero _).symm
  | append_singleton changes change ih =>
    by_cases room : ((changes ++ [change]).map Change.target).toFinset.card ≤ capacity
    · have keys : ((changes ++ [change]).map Change.target).toFinset ⊆
          ((run ahead capacity (changes ++ [change])).map key).toFinset := fun k member =>
        List.mem_toFinset.mpr (listed_of_room room (List.mem_toFinset.mp member))
      have most := (Finset.card_le_card keys).trans (List.toFinset_card_le _)
      rw [List.length_map] at most
      rw [Nat.min_eq_right room]
      exact Nat.le_antisymm (length_run_le_distinct _) most
    · have grows := Finset.card_insert_le change.target (changes.map Change.target).toFinset
      rw [targets_concat] at room ⊢
      rw [run_concat, length_record]
      by_cases listed : change.target ∈ (run ahead capacity changes).map key
      · rw [length_apply_of_listed listed]
        omega
      · rw [length_apply_of_new listed]
        omega

/-- As long as a place is left, all keys that were counted are listed. -/
theorem listed_of_short {k : κ} (short : (run ahead capacity changes).length < capacity)
    (seen : k ∈ changes.map Change.target) : k ∈ (run ahead capacity changes).map key := by
  rw [length_run] at short
  exact listed_of_room (by omega) seen

theorem distinctBefore_of_seen {k : κ} (seen : k ∈ changes.map Change.target) (change : Change key) :
    distinctBefore k (changes ++ [change]) = distinctBefore k changes := by
  have stops : ((changes.map Change.target).takeWhile fun target => target ≠ k).length ≠
      (changes.map Change.target).length := by
    intro same
    have whole := (List.takeWhile_prefix fun target => decide (target ≠ k)).eq_of_length same
    have others := List.takeWhile_eq_self_iff.mp whole k seen
    simp at others
  rw [distinctBefore, List.map_append, List.takeWhile_append, if_neg stops]
  rfl

theorem distinctBefore_of_new {k : κ} {change : Change key} (new : k ∉ changes.map Change.target)
    (own : change.target = k) :
    distinctBefore k (changes ++ [change]) = (changes.map Change.target).toFinset.card := by
  have others : ∀ target ∈ changes.map Change.target, decide (target ≠ k) = true := fun target member =>
    decide_eq_true fun same => new (same ▸ member)
  rw [distinctBefore, List.map_append, List.takeWhile_append_of_pos others]
  simp [own]

/-- Where every newcomer is ranked behind the entries that have been counted, the first keys that fill the list
stay in it and no others come in. -/
theorem listed_iff_distinctBefore (positive : 0 < top) (counts : ∀ change ∈ changes, Counts count top change)
    (newcomers : ∀ change ∈ changes, ∀ entry, 0 < count entry → ahead entry change.fresh) (k : κ) :
    k ∈ (run ahead capacity changes).map key ↔ 0 < occurrences k changes ∧ distinctBefore k changes < capacity := by
  induction changes using List.reverseRecOn with
  | nil => exact ⟨fun listed => absurd listed List.not_mem_nil, fun early => absurd early.1 (lt_irrefl 0)⟩
  | append_singleton changes change ih =>
    have earlier : ∀ change ∈ changes, Counts count top change := fun change member =>
      counts change (List.mem_append_left _ member)
    have before := ih earlier fun change member => newcomers change (List.mem_append_left _ member)
    have counted : ∀ entry ∈ run ahead capacity changes, ahead entry change.fresh :=
      newcomer_behind positive counts newcomers
    have length : (run ahead capacity changes).length = min capacity (changes.map Change.target).toFinset.card :=
      length_run changes
    rw [run_concat, mem_keys_record_behind (run_wellFormed changes) counted, before, occurrences_concat]
    by_cases seen : k ∈ changes.map Change.target
    · have occurs := occurs_iff.mpr seen
      have fewer : distinctBefore k changes ≤ (changes.map Change.target).toFinset.card :=
        Finset.card_le_card fun target member =>
          List.mem_toFinset.mpr ((List.takeWhile_sublist _).subset (List.mem_toFinset.mp member))
      rw [distinctBefore_of_seen seen]
      constructor
      · rintro (⟨_, early⟩ | ⟨_, room⟩)
        · exact ⟨by omega, early⟩
        · exact ⟨by omega, by omega⟩
      · rintro ⟨_, early⟩
        exact .inl ⟨occurs, early⟩
    · have never : occurrences k changes = 0 := Nat.eq_zero_of_not_pos fun occurs => seen (occurs_iff.mp occurs)
      by_cases own : change.target = k
      · rw [distinctBefore_of_new seen own, if_pos own, never]
        constructor
        · rintro (⟨occurs, _⟩ | ⟨_, room⟩)
          · exact absurd occurs (lt_irrefl 0)
          · exact ⟨Nat.one_pos, by omega⟩
        · rintro ⟨_, early⟩
          exact .inr ⟨own, by omega⟩
      · rw [if_neg own, never]
        constructor
        · rintro (⟨occurs, _⟩ | ⟨same, _⟩)
          · exact absurd occurs (lt_irrefl 0)
          · exact absurd same own
        · rintro ⟨occurs, _⟩
          exact absurd occurs (lt_irrefl 0)

/-- Such a list puts no entry out: a key is spared if and only if it is listed as soon as it was counted. -/
theorem spared_iff_listed (positive : 0 < top) (counts : ∀ change ∈ changes, Counts count top change)
    (newcomers : ∀ change ∈ changes, ∀ entry, 0 < count entry → ahead entry change.fresh) (k : κ) :
    Spared ahead capacity k changes ↔ occurrences k changes = 0 ∨ k ∈ (run ahead capacity changes).map key := by
  induction changes using List.reverseRecOn with
  | nil => exact ⟨fun _ => .inl rfl, fun _ before change after split => absurd split.symm (by simp)⟩
  | append_singleton changes change ih =>
    have earlier : ∀ change ∈ changes, Counts count top change := fun change member =>
      counts change (List.mem_append_left _ member)
    have before := ih earlier fun change member => newcomers change (List.mem_append_left _ member)
    have counted : ∀ entry ∈ run ahead capacity changes, ahead entry change.fresh :=
      newcomer_behind positive counts newcomers
    rw [spared_concat, before, ne_eq, putOut_behind counted, occurrences_concat, run_concat,
      mem_keys_record_behind (run_wellFormed changes) counted]
    by_cases own : change.target = k
    · subst own
      rw [if_pos rfl]
      constructor
      · rintro ⟨_, stays⟩
        refine .inr ?_
        by_contra missing
        obtain ⟨new, full⟩ := not_or.mp missing
        exact stays ⟨rfl, new, Nat.le_of_not_lt fun room => full ⟨rfl, room⟩⟩
      · rintro (never | listed | ⟨_, room⟩)
        · omega
        · exact ⟨.inr listed, fun ⟨_, new, _⟩ => new listed⟩
        · refine ⟨?_, fun ⟨_, _, full⟩ => absurd room (Nat.not_lt.mpr full)⟩
          rcases Nat.eq_zero_or_pos (occurrences change.target changes) with never | occurs
          · exact .inl never
          · exact .inr (listed_of_short room (occurs_iff.mp occurs))
    · rw [if_neg own, Nat.add_zero]
      constructor
      · rintro ⟨either, _⟩
        exact either.imp_right .inl
      · intro either
        refine ⟨either.imp_right fun listed => listed.resolve_right fun ⟨same, _⟩ => own same, ?_⟩
        exact fun ⟨same, _⟩ => own same

/-- In such a list a key that was counted is never put out if and only if it was one of the first. -/
theorem spared_iff_distinctBefore (positive : 0 < top) (counts : ∀ change ∈ changes, Counts count top change)
    (newcomers : ∀ change ∈ changes, ∀ entry, 0 < count entry → ahead entry change.fresh) (k : κ) :
    Spared ahead capacity k changes ↔ occurrences k changes = 0 ∨ distinctBefore k changes < capacity := by
  rw [spared_iff_listed positive counts newcomers, listed_iff_distinctBefore positive counts newcomers]
  omega

end

end TopList
