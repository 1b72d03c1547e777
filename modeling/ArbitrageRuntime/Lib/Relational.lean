import Mathlib.Algebra.BigOperators.Group.List.Basic
import Mathlib.Algebra.GroupWithZero.Nat
import Mathlib.Data.List.Dedup
import Mathlib.Data.List.Induction
import Mathlib.Data.List.Sort

namespace Relational

section Upsert

variable {Row Key : Type} [DecidableEq Key]

/-- `INSERT .. ON CONFLICT .. DO UPDATE`: a row with the key of the new one is merged with it, a new key makes
a new row. -/
def upsert (key : Row → Key) (merge : Row → Row → Row) (row : Row) : List Row → List Row
  | [] => [row]
  | old :: rest => if key old = key row then merge old row :: rest else old :: upsert key merge row rest

variable {key : Row → Key} {merge : Row → Row → Row} {row : Row}

/-- A selection that does not tell a row from what it is merged with sees the new row, or does not see it. -/
theorem filter_upsert {selects : Row → Bool} {table : List Row}
    (same : ∀ old ∈ table, key old = key row → selects old = selects row ∧ selects (merge old row) = selects row) :
    (upsert key merge row table).filter selects =
      if selects row then upsert key merge row (table.filter selects) else table.filter selects := by
  induction table with
  | nil => by_cases seen : selects row = true <;> simp [upsert, seen]
  | cons old rest ih =>
    have later := ih fun other member => same other (List.mem_cons_of_mem _ member)
    by_cases conflict : key old = key row
    · obtain ⟨before, after⟩ := same old List.mem_cons_self conflict
      by_cases seen : selects row = true
      · simp [upsert, conflict, seen, before, after]
      · simp [upsert, conflict, seen, before, after]
    · by_cases kept : selects old = true
      · by_cases seen : selects row = true
        · rw [if_pos seen] at later
          simp [upsert, conflict, kept, seen, later]
        · rw [if_neg seen] at later
          simp [upsert, conflict, kept, seen, later]
      · by_cases seen : selects row = true
        · rw [if_pos seen] at later
          simp [upsert, conflict, kept, seen, later]
        · rw [if_neg seen] at later
          simp [upsert, conflict, kept, seen, later]

/-- The rows of a table are old ones, the new one, or an old one merged with it. -/
theorem mem_upsert {table : List Row} {other : Row} (member : other ∈ upsert key merge row table) :
    other ∈ table ∨ other = row ∨ ∃ old ∈ table, key old = key row ∧ other = merge old row := by
  induction table with
  | nil => exact .inr (.inl (List.mem_singleton.mp member))
  | cons old rest ih =>
    unfold upsert at member
    split at member
    · rename_i conflict
      rcases List.mem_cons.mp member with rfl | later
      · exact .inr (.inr ⟨old, List.mem_cons_self, conflict, rfl⟩)
      · exact .inl (List.mem_cons_of_mem _ later)
    · rcases List.mem_cons.mp member with rfl | later
      · exact .inl List.mem_cons_self
      · rcases ih later with kept | new | ⟨earlier, inside, conflict, merged⟩
        · exact .inl (List.mem_cons_of_mem _ kept)
        · exact .inr (.inl new)
        · exact .inr (.inr ⟨earlier, List.mem_cons_of_mem _ inside, conflict, merged⟩)

theorem length_upsert_le (table : List Row) : (upsert key merge row table).length ≤ table.length + 1 := by
  induction table with
  | nil => exact le_rfl
  | cons old rest ih =>
    unfold upsert
    split
    · simp
    · simpa using ih

/-- Merging keeps the key, so that a conflict adds no key. -/
theorem map_key_upsert (keeps : ∀ old, key old = key row → key (merge old row) = key row) (table : List Row) :
    (upsert key merge row table).map key =
      if key row ∈ table.map key then table.map key else table.map key ++ [key row] := by
  induction table with
  | nil => simp [upsert]
  | cons old rest ih =>
    by_cases conflict : key old = key row
    · simp [upsert, conflict, keeps old conflict]
    · have other : ¬ key row = key old := fun same => conflict same.symm
      by_cases present : key row ∈ rest.map key
      · rw [if_pos present] at ih
        have inside : key row ∈ (old :: rest).map key := List.mem_cons_of_mem _ present
        rw [if_pos inside]
        simp only [upsert, conflict, if_false, List.map_cons, ih]
      · rw [if_neg present] at ih
        have outside : key row ∉ (old :: rest).map key := by
          intro member
          rcases List.mem_cons.mp member with same | later
          · exact other same
          · exact present later
        rw [if_neg outside]
        simp only [upsert, conflict, if_false, List.map_cons, ih, List.cons_append]

theorem nodup_upsert (keeps : ∀ old, key old = key row → key (merge old row) = key row) {table : List Row}
    (nodup : (table.map key).Nodup) : ((upsert key merge row table).map key).Nodup := by
  rw [map_key_upsert keeps]
  split
  · exact nodup
  · rename_i new
    exact List.nodup_append.mpr ⟨nodup, List.nodup_singleton _, by
      intro k member k' single same
      rw [List.mem_singleton.mp single] at same
      exact new (same ▸ member)⟩

/-- What an upsert does to a measure that merging adds up, row by row. -/
theorem measure_upsert {measure : Row → Nat} (adds : ∀ old, measure (merge old row) = measure old + measure row)
    (keeps : ∀ old, key old = key row → key (merge old row) = key row) {table : List Row}
    (nodup : (table.map key).Nodup) {total : Key → Nat} (totals : ∀ old ∈ table, measure old = total (key old))
    (fresh : key row ∉ table.map key → total (key row) = 0) {other : Row} (member : other ∈ upsert key merge row table) :
    measure other = total (key other) + if key other = key row then measure row else 0 := by
  induction table with
  | nil =>
    cases List.mem_singleton.mp member
    rw [fresh (by simp), if_pos rfl, Nat.zero_add]
  | cons old rest ih =>
    obtain ⟨unique, nodup'⟩ := List.nodup_cons.mp nodup
    by_cases conflict : key old = key row
    · rw [upsert, if_pos conflict] at member
      rcases List.mem_cons.mp member with rfl | later
      · rw [adds, keeps old conflict, if_pos rfl, totals old List.mem_cons_self, conflict]
      · have distinct : key other ≠ key row := by
          intro same
          exact unique (List.mem_map.mpr ⟨other, later, same.trans conflict.symm⟩)
        rw [totals other (List.mem_cons_of_mem _ later), if_neg distinct, Nat.add_zero]
    · rw [upsert, if_neg conflict] at member
      rcases List.mem_cons.mp member with rfl | later
      · rw [totals other List.mem_cons_self, if_neg conflict, Nat.add_zero]
      · refine ih nodup' (fun row inside => totals row (List.mem_cons_of_mem _ inside)) ?_ later
        intro absent
        refine fresh fun present => ?_
        rcases List.mem_cons.mp present with same | inside
        · exact conflict same.symm
        · exact absent inside

/-- The table that a sequence of upserts leaves. -/
def upserts (key : Row → Key) (merge : Row → Row → Row) (rows : List Row) : List Row :=
  rows.foldl (fun table row => upsert key merge row table) []

/-- What the rows of one key measure together. -/
def totalOf (key : Row → Key) (measure : Row → Nat) (rows : List Row) (k : Key) : Nat :=
  ((rows.filter fun row => key row = k).map measure).sum

/-- A sequence of upserts adds up, in each row, all that was written under its key. -/
theorem measure_upserts {measure : Row → Nat} (adds : ∀ old new, measure (merge old new) = measure old + measure new)
    (keeps : ∀ old new, key old = key new → key (merge old new) = key new) (rows : List Row) :
    ((upserts key merge rows).map key).Nodup ∧ (∀ row ∈ rows, key row ∈ (upserts key merge rows).map key) ∧
      ∀ row ∈ upserts key merge rows, measure row = totalOf key measure rows (key row) := by
  induction rows using List.reverseRecOn with
  | nil => exact ⟨.nil, by simp, by simp [upserts]⟩
  | append_singleton rows row ih =>
    obtain ⟨nodup, covered, totals⟩ := ih
    have next : upserts key merge (rows ++ [row]) = upsert key merge row (upserts key merge rows) := by
      unfold upserts
      rw [List.foldl_append]
      rfl
    have more : ∀ k, totalOf key measure (rows ++ [row]) k =
        totalOf key measure rows k + if k = key row then measure row else 0 := by
      intro k
      by_cases same : key row = k
      · simp [totalOf, List.filter_append, same]
      · have other : ¬ k = key row := fun equal => same equal.symm
        simp [totalOf, List.filter_append, same, other]
    rw [next]
    refine ⟨nodup_upsert (fun old => keeps old row) nodup, ?_, ?_⟩
    · intro other member
      rw [map_key_upsert fun old => keeps old row]
      rcases List.mem_append.mp member with earlier | last
      · split
        · exact covered other earlier
        · exact List.mem_append_left _ (covered other earlier)
      · cases List.mem_singleton.mp last
        split
        · rename_i present
          exact present
        · exact List.mem_append_right _ List.mem_cons_self
    · intro other member
      rw [more]
      refine measure_upsert (fun old => adds old row) (fun old => keeps old row) nodup totals ?_ member
      intro absent
      have none : (rows.filter fun earlier => key earlier = key row) = [] := by
        refine List.filter_eq_nil_iff.mpr fun earlier inside same => ?_
        exact absent (of_decide_eq_true same ▸ covered earlier inside)
      simp [totalOf, none]

end Upsert

section Groups

variable {Row Key : Type} [DecidableEq Key]

/-- `GROUP BY`: the keys of a table, each with its rows. -/
def groups (key : Row → Key) (table : List Row) : List (Key × List Row) :=
  (table.map key).dedup.map fun k => (k, table.filter fun row => key row = k)

theorem nodup_groups (key : Row → Key) (table : List Row) : ((groups key table).map Prod.fst).Nodup := by
  have keys : (groups key table).map Prod.fst = (table.map key).dedup := by
    unfold groups
    rw [List.map_map]
    exact List.map_id _
  rw [keys]
  exact List.nodup_dedup _

theorem length_groups_le (key : Row → Key) (table : List Row) : (groups key table).length ≤ table.length := by
  unfold groups
  rw [List.length_map]
  exact (List.dedup_sublist _).length_le.trans (List.length_map _).le

/-- A group has the rows of its key, and at least one. -/
theorem mem_groups {key : Row → Key} {table : List Row} {group : Key × List Row} (member : group ∈ groups key table) :
    (∀ row, row ∈ group.2 ↔ row ∈ table ∧ key row = group.1) ∧ group.2 ≠ [] := by
  obtain ⟨k, known, rfl⟩ := List.mem_map.mp member
  have rows : ∀ row, row ∈ table.filter (fun row => key row = k) ↔ row ∈ table ∧ key row = k := by simp
  obtain ⟨row, inside, own⟩ := List.mem_map.mp (List.mem_dedup.mp known)
  exact ⟨rows, List.ne_nil_of_mem ((rows row).mpr ⟨inside, own⟩)⟩

/-- A row counts for its own key alone. -/
theorem sum_own_key {M : Type} [AddCommMonoid M] {keys : List Key} (distinct : keys.Nodup) (own : Key) (value : M) :
    (keys.map fun k => if own = k then value else 0).sum = if own ∈ keys then value else 0 := by
  induction keys with
  | nil => rfl
  | cons k keys ih =>
    obtain ⟨apart, distinct⟩ := List.nodup_cons.mp distinct
    rw [List.map_cons, List.sum_cons, ih distinct]
    by_cases same : own = k
    · subst same
      rw [if_pos rfl, if_neg apart, if_pos List.mem_cons_self, add_zero]
    · rw [if_neg same, zero_add]
      simp only [List.mem_cons, same, false_or]

/-- The rows of different keys share out the rows that have one of them. -/
theorem sum_keys {M : Type} [AddCommMonoid M] (key : Row → Key) (measure : Row → M) {keys : List Key}
    (distinct : keys.Nodup) (table : List Row) :
    (keys.map fun k => ((table.filter fun row => key row = k).map measure).sum).sum =
      ((table.filter fun row => key row ∈ keys).map measure).sum := by
  induction table with
  | nil => simp
  | cons row rest ih =>
    have parts : ∀ k, (((row :: rest).filter fun row => key row = k).map measure).sum =
        (if key row = k then measure row else 0) + ((rest.filter fun row => key row = k).map measure).sum := by
      intro k
      by_cases own : key row = k <;> simp [own]
    simp only [parts]
    rw [List.sum_map_add, sum_own_key distinct, ih]
    by_cases member : key row ∈ keys <;> simp [member]

/-- Groups that are selected by their keys measure together what the selected rows measure. -/
theorem sum_groups {M : Type} [AddCommMonoid M] (key : Row → Key) (measure : Row → M) (selects : Key → Bool)
    (table : List Row) :
    (((groups key table).filter fun group => selects group.1).map fun group => (group.2.map measure).sum).sum =
      ((table.filter fun row => selects (key row)).map measure).sum := by
  have distinct : ((table.map key).dedup.filter selects).Nodup := (List.nodup_dedup _).filter _
  have selected : table.filter (fun row => selects (key row)) =
      table.filter fun row => key row ∈ (table.map key).dedup.filter selects := by
    refine List.filter_congr fun row member => ?_
    have known : key row ∈ table.map key := List.mem_map_of_mem member
    simp [known]
  rw [selected, ← sum_keys key measure distinct, groups, List.filter_map, List.map_map]
  rfl

end Groups

section Order

variable {Row Rank : Type} [LinearOrder Rank]

/-- The first rows that a limit lets through; without a limit, all of them. -/
def cutAt (limit : Option Nat) (rows : List Row) : List Row := limit.elim rows fun most => rows.take most

/-- `ORDER BY .. LIMIT`: rows with equal sort keys may come in any order. -/
def Answers (sortKey : Row → Rank) (limit : Option Nat) (rows answer : List Row) : Prop :=
  ∃ sorted, sorted.Perm rows ∧ sorted.Pairwise (fun first second => sortKey first ≤ sortKey second) ∧
    answer = cutAt limit sorted

variable {Rank' : Type} [LinearOrder Rank'] {sortKey : Row → Rank} {sortKey' : Row → Rank'} {rows : List Row}

theorem cutAt_of_enough {limit : Option Nat} (enough : ∀ most ∈ limit, rows.length ≤ most) : cutAt limit rows = rows := by
  cases limit with
  | none => rfl
  | some most => exact List.take_of_length_le (enough most rfl)

theorem cutAt_subset (limit : Option Nat) (rows : List Row) : cutAt limit rows ⊆ rows := by
  cases limit with
  | none => exact List.Subset.refl rows
  | some most => exact List.take_subset most rows

theorem subset_of_answers {limit : Option Nat} {answer : List Row} (answers : Answers sortKey limit rows answer) :
    answer ⊆ rows := by
  obtain ⟨sorted, perm, _, rfl⟩ := answers
  exact fun row member => perm.subset (cutAt_subset limit sorted member)

theorem exists_answers (sortKey : Row → Rank) (limit : Option Nat) (rows : List Row) :
    ∃ answer, Answers sortKey limit rows answer := by
  have total : Std.Total fun left right : Row => sortKey left ≤ sortKey right := ⟨fun _ _ => le_total _ _⟩
  have trans : IsTrans Row fun left right => sortKey left ≤ sortKey right := ⟨fun _ _ _ => le_trans⟩
  exact ⟨_, rows.insertionSort fun left right => sortKey left ≤ sortKey right, List.perm_insertionSort _ _,
    List.pairwise_insertionSort _ _, rfl⟩

/-- Two sort keys that order the rows alike allow the same answers. -/
theorem answers_congr (same : ∀ first ∈ rows, ∀ second ∈ rows,
      sortKey first ≤ sortKey second ↔ sortKey' first ≤ sortKey' second) (limit : Option Nat) (answer : List Row) :
    Answers sortKey limit rows answer ↔ Answers sortKey' limit rows answer := by
  constructor
  · rintro ⟨sorted, perm, ordered, cut⟩
    refine ⟨sorted, perm, ordered.imp_of_mem fun {first second} inside inside' le => ?_, cut⟩
    exact (same first (perm.subset inside) second (perm.subset inside')).mp le
  · rintro ⟨sorted, perm, ordered, cut⟩
    refine ⟨sorted, perm, ordered.imp_of_mem fun {first second} inside inside' le => ?_, cut⟩
    exact (same first (perm.subset inside) second (perm.subset inside')).mpr le

/-- Any two rows in the right order can be put next to each other's order in a whole answer. -/
theorem exists_sorted_pair {first second : Row} (distinct : first ≠ second) (member : first ∈ rows)
    (member' : second ∈ rows) (le : sortKey first ≤ sortKey second) :
    ∃ sorted, sorted.Perm rows ∧ sorted.Pairwise (fun left right => sortKey left ≤ sortKey right) ∧
      [first, second].Sublist sorted := by
  classical
  have total : Std.Total fun left right : Row => sortKey left ≤ sortKey right := ⟨fun _ _ => le_total _ _⟩
  have trans : IsTrans Row fun left right => sortKey left ≤ sortKey right := ⟨fun _ _ _ => le_trans⟩
  have split : (first :: second :: (rows.erase first).erase second).Perm rows := by
    have rest := List.perm_cons_erase ((List.mem_erase_of_ne distinct.symm).mpr member')
    exact (rest.symm.cons first).trans (List.perm_cons_erase member).symm
  refine ⟨(first :: second :: (rows.erase first).erase second).insertionSort
    fun left right => sortKey left ≤ sortKey right, ?_, ?_, ?_⟩
  · exact (List.perm_insertionSort _ _).trans split
  · exact List.pairwise_insertionSort _ _
  · exact List.pair_sublist_insertionSort le (((List.nil_sublist _).cons_cons second).cons_cons first)

/-- If the answers by one key are answers by another, then so are their orders. -/
theorem le_of_answers {most : Nat} (enough : rows.length ≤ most)
    (answers : ∀ answer, Answers sortKey (some most) rows answer → Answers sortKey' (some most) rows answer)
    {first second : Row} (distinct : first ≠ second) (member : first ∈ rows) (member' : second ∈ rows)
    (le : sortKey first ≤ sortKey second) : sortKey' first ≤ sortKey' second := by
  obtain ⟨sorted, perm, ordered, pair⟩ := exists_sorted_pair distinct member member' le
  have whole : ∀ {list : List Row}, list.Perm rows → cutAt (some most) list = list := by
    intro list same
    refine cutAt_of_enough fun limit given => ?_
    cases given
    exact same.length_eq.trans_le enough
  obtain ⟨sorted', perm', ordered', cut⟩ := answers sorted ⟨sorted, perm, ordered, (whole perm).symm⟩
  rw [whole perm'] at cut
  have both := ordered'.sublist (cut ▸ pair)
  exact List.rel_of_pairwise_cons both List.mem_cons_self

end Order

end Relational
