import ArbitrageRuntime.Engine.Budget
import Mathlib.Data.List.DropRight
import Mathlib.Data.Finset.Basic

namespace ArbitrageRuntime

/-- The transactions that the run loop has taken in, oldest first, and the same as a set. -/
structure SeenTxs where
  seenHashes : Finset Hash
  seenOrder : List Hash
  deriving DecidableEq

namespace SeenTxs

def empty : SeenTxs := ⟨∅, []⟩

def capacity : Nat := 8192

/-- The loop that pops the oldest hashes until the order fits. -/
def evict (seenHashes : Finset Hash) : List Hash → SeenTxs
  | [] => ⟨seenHashes, []⟩
  | old :: rest =>
    if capacity < (old :: rest).length then evict (seenHashes.erase old) rest
    else ⟨seenHashes, old :: rest⟩

/-- `mark_seen_tx`: the new state, and whether the hash was fresh. -/
def markSeenTx (seen : SeenTxs) (txHash : Hash) : SeenTxs × Bool :=
  if txHash ∈ seen.seenHashes then (seen, false)
  else (evict (insert txHash seen.seenHashes) (seen.seenOrder ++ [txHash]), true)

theorem evict_of_fits {seenHashes : Finset Hash} {seenOrder : List Hash} (fits : seenOrder.length ≤ capacity) :
    evict seenHashes seenOrder = ⟨seenHashes, seenOrder⟩ := by
  cases seenOrder with
  | nil => rfl
  | cons old rest =>
    have notOver : ¬ capacity < (old :: rest).length := by omega
    rw [evict, if_neg notOver]

/-- One hash over the capacity costs the oldest one. -/
theorem evict_of_full {seenHashes : Finset Hash} {old : Hash} {rest : List Hash} (full : rest.length = capacity) :
    evict seenHashes (old :: rest) = ⟨seenHashes.erase old, rest⟩ := by
  have long : capacity < (old :: rest).length := by
    rw [List.length_cons]
    omega
  rw [evict, if_pos long, evict_of_fits full.le]

/-- What a hash that is not seen yet leaves behind. -/
theorem markSeenTx_fresh {seen : SeenTxs} {txHash : Hash} (fresh : txHash ∉ seen.seenHashes) :
    markSeenTx seen txHash = (evict (insert txHash seen.seenHashes) (seen.seenOrder ++ [txHash]), true) :=
  if_neg fresh

theorem markSeenTx_known {seen : SeenTxs} {txHash : Hash} (known : txHash ∈ seen.seenHashes) :
    markSeenTx seen txHash = (seen, false) :=
  if_pos known

theorem markSeenTx_snd (seen : SeenTxs) (txHash : Hash) :
    (markSeenTx seen txHash).2 = true ↔ txHash ∉ seen.seenHashes := by
  by_cases known : txHash ∈ seen.seenHashes
  · simp [markSeenTx_known known, known]
  · simp [markSeenTx_fresh known, known]

/-- The state holds the last hashes of a list, each once. -/
structure Holds (seen : SeenTxs) (accepted : List Hash) : Prop where
  order : seen.seenOrder = accepted.rtake capacity
  nodup : seen.seenOrder.Nodup
  hashes : seen.seenHashes = seen.seenOrder.toFinset

theorem holds_empty : Holds empty [] where
  order := by simp [empty]
  nodup := by simp [empty]
  hashes := by simp [empty]

theorem Holds.mem_iff {seen : SeenTxs} {accepted : List Hash} (holds : Holds seen accepted) (txHash : Hash) :
    txHash ∈ seen.seenHashes ↔ txHash ∈ accepted.rtake capacity := by
  rw [holds.hashes, List.mem_toFinset, holds.order]

theorem Holds.length_le {seen : SeenTxs} {accepted : List Hash} (holds : Holds seen accepted) :
    seen.seenOrder.length ≤ capacity := by
  rw [holds.order, List.rtake, List.length_drop]
  omega

/-- A window that is full moves on by one. -/
theorem rtake_concat_of_full {accepted rest : List Hash} {old : Hash} {n : Nat} (full : n ≤ accepted.length)
    (window : accepted.rtake n = old :: rest) (txHash : Hash) : (accepted ++ [txHash]).rtake n = rest ++ [txHash] := by
  have next : (accepted ++ [txHash]).length - n = accepted.length - n + 1 := by
    rw [List.length_append, List.length_singleton]
    omega
  rw [List.rtake] at window ⊢
  rw [next, ← List.drop_drop, List.drop_append_of_le_length (by omega), window]
  rfl

/-- A fresh hash comes in at the back. The hash that leaves is the oldest one of the window, and it is
not the one that came in. -/
theorem Holds.mark {seen : SeenTxs} {accepted : List Hash} (holds : Holds seen accepted) {txHash : Hash}
    (fresh : txHash ∉ seen.seenHashes) : Holds (markSeenTx seen txHash).1 (accepted ++ [txHash]) := by
  have absent : txHash ∉ seen.seenOrder := by
    intro member
    rw [holds.hashes] at fresh
    exact fresh (List.mem_toFinset.mpr member)
  have distinct : (seen.seenOrder ++ [txHash]).Nodup := by
    rw [List.nodup_append_comm]
    exact List.nodup_cons.mpr ⟨absent, holds.nodup⟩
  have members : insert txHash seen.seenHashes = (seen.seenOrder ++ [txHash]).toFinset := by
    rw [holds.hashes]
    ext other
    simp
  rw [markSeenTx_fresh fresh, members]
  by_cases room : accepted.length < capacity
  · -- There is room, so that both windows are the whole list.
    have short : seen.seenOrder = accepted := by
      rw [holds.order, List.rtake, Nat.sub_eq_zero_of_le room.le, List.drop_zero]
    have fits : (seen.seenOrder ++ [txHash]).length ≤ capacity := by
      rw [short, List.length_append, List.length_singleton]
      omega
    rw [evict_of_fits fits]
    refine ⟨?_, distinct, rfl⟩
    rw [List.rtake, ← short, Nat.sub_eq_zero_of_le fits, List.drop_zero]
  · have long : seen.seenOrder.length = capacity := by
      rw [holds.order, List.rtake, List.length_drop]
      omega
    cases order : seen.seenOrder with
    | nil => rw [order] at long; exact absurd long (by simp [capacity])
    | cons old rest =>
      have full : (rest ++ [txHash]).length = capacity := by
        rw [order] at long
        simpa using long
      rw [order, List.cons_append] at distinct
      obtain ⟨gone, kept⟩ := List.nodup_cons.mp distinct
      rw [List.cons_append, evict_of_full full]
      refine ⟨?_, kept, ?_⟩
      · exact (rtake_concat_of_full (Nat.le_of_not_lt room) (holds.order ▸ order) txHash).symm
      · rw [List.toFinset_cons]
        exact Finset.erase_insert fun member => gone (List.mem_toFinset.mp member)

/-- A call, with the list of the hashes for which a call returned true so far. -/
def markStep (run : SeenTxs × List Hash) (txHash : Hash) : SeenTxs × List Hash :=
  ((markSeenTx run.1 txHash).1, if (markSeenTx run.1 txHash).2 then run.2 ++ [txHash] else run.2)

/-- The calls on a sequence of hashes, from the empty state. -/
def markAll (hashes : List Hash) : SeenTxs × List Hash := hashes.foldl markStep (empty, [])

theorem markAll_append (hashes : List Hash) (txHash : Hash) :
    markAll (hashes ++ [txHash]) = markStep (markAll hashes) txHash := by
  rw [markAll, List.foldl_append, List.foldl_cons, List.foldl_nil, markAll]

theorem markAll_holds (hashes : List Hash) : Holds (markAll hashes).1 (markAll hashes).2 := by
  induction hashes using List.reverseRecOn with
  | nil => exact holds_empty
  | append_singleton hashes txHash ih =>
    rw [markAll_append, markStep]
    by_cases known : txHash ∈ (markAll hashes).1.seenHashes
    · rw [markSeenTx_known known]
      exact ih
    · have fresh := (markSeenTx_snd (markAll hashes).1 txHash).mpr known
      rw [if_pos fresh]
      exact ih.mark known

/-- After every sequence of calls the order holds no hash twice and at most its capacity, the set is the set
of its elements, and a further call returns true exactly for a hash that is not among the last accepted ones. -/
theorem markSeenTx_window (hashes : List Hash) (txHash : Hash) :
    (markAll hashes).1.seenOrder.Nodup ∧
    (markAll hashes).1.seenHashes = (markAll hashes).1.seenOrder.toFinset ∧
    (markAll hashes).1.seenOrder.length ≤ 8192 ∧
    ((markSeenTx (markAll hashes).1 txHash).2 = true ↔ txHash ∉ (markAll hashes).2.rtake 8192) := by
  have holds := markAll_holds hashes
  refine ⟨holds.nodup, holds.hashes, holds.length_le, ?_⟩
  rw [markSeenTx_snd, holds.mem_iff]
  rfl

end SeenTxs

end ArbitrageRuntime
