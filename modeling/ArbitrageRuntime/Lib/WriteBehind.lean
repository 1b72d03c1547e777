import ArbitrageRuntime.Lib.Transition
import ArbitrageRuntime.Lib.Upsert
import Mathlib.Algebra.BigOperators.Group.List.Basic
import Mathlib.Algebra.GroupWithZero.Nat
import Mathlib.Data.Fintype.Defs

namespace WriteBehind

/-- Calls are gathered by a key in entries of memory. Later an entry makes a row, at some time, that is merged with
the stored row of the same row key. The rows that have expired at a cutoff are deleted with it. -/
structure Ledger where
  Call : Type
  Entry : Type
  Row : Type
  Key : Type
  RowKey : Type
  Stamp : Type
  Cutoff : Type
  [decideKey : DecidableEq Key]
  [decideRowKey : DecidableEq RowKey]
  key : Entry → Key
  rowKey : Row → RowKey
  gather : Call → Upsert.Change key
  row : Stamp → Entry → Row
  merge : Row → Row → Row
  expired : Cutoff → RowKey → Bool
  rowKey_merge : ∀ old new, rowKey (merge old new) = rowKey old

attribute [instance] Ledger.decideKey Ledger.decideRowKey

namespace Ledger

variable (ledger : Ledger)

def store (stamp : ledger.Stamp) (entry : ledger.Entry) : Upsert.Change ledger.rowKey where
  target := ledger.rowKey (ledger.row stamp entry)
  update old := ledger.merge old (ledger.row stamp entry)
  fresh := ledger.row stamp entry
  update_key old := ledger.rowKey_merge old _
  fresh_key := rfl

/-- A call that is stored at once. -/
def direct (stamp : ledger.Stamp) (call : ledger.Call) : Upsert.Change ledger.rowKey :=
  ledger.store stamp (ledger.gather call).fresh

/-- The calls that are gathered by a key. -/
def keyed (k : ledger.Key) (calls : List ledger.Call) : List ledger.Call :=
  calls.filter fun call => (ledger.gather call).target = k

/-- The entry that the calls of a key make. -/
def gathered (k : ledger.Key) (calls : List ledger.Call) : Option ledger.Entry :=
  (ledger.keyed k calls).foldl (fun entry call => some ((ledger.gather call).on entry)) none

def entry (first : ledger.Call) (rest : List ledger.Call) : ledger.Entry :=
  rest.foldl (fun entry call => (ledger.gather call).update entry) (ledger.gather first).fresh

/-- What calls make of a row when each of them is stored at once. -/
def through (stamp : ledger.Stamp) (calls : List ledger.Call) (row : Option ledger.Row) : Option ledger.Row :=
  calls.foldl (fun row call => some ((ledger.direct stamp call).on row)) row

/-- What a ledger promises: the key of a `proper` call tells its row, and as long as the numbers of the calls `fit`,
an entry makes the row that its calls would make one by one. The view of a row leaves out what depends on the time. -/
structure Law where
  View : Type
  view : ledger.Row → View
  mergeView : View → View → View
  rowOf : ledger.Call → ledger.RowKey
  proper : ledger.Call → Prop
  fits : Option ledger.Row → List ledger.Call → Prop
  rowKey_fresh : ∀ stamp call, ledger.rowKey (ledger.row stamp (ledger.gather call).fresh) = rowOf call
  rowKey_update : ∀ stamp call entry,
    ledger.rowKey (ledger.row stamp ((ledger.gather call).update entry)) = ledger.rowKey (ledger.row stamp entry)
  same_key_iff : ∀ call call', proper call → proper call' →
    ((ledger.gather call).target = (ledger.gather call').target ↔ rowOf call = rowOf call')
  fits_sublist : ∀ row calls calls', calls.Sublist calls' → fits row calls' → fits row calls
  fits_none : ∀ row calls, fits row calls → fits none calls
  view_row : ∀ stamp stamp' entry, view (ledger.row stamp entry) = view (ledger.row stamp' entry)
  view_merge : ∀ old new, view (ledger.merge old new) = mergeView (view old) (view new)
  mergeView_assoc : ∀ first second third,
    mergeView (mergeView first second) third = mergeView first (mergeView second third)
  view_update : ∀ stamp start first rest call, fits start (first :: rest ++ [call]) →
    view (ledger.row stamp ((ledger.gather call).update (ledger.entry first rest))) =
      mergeView (view (ledger.row stamp (ledger.entry first rest)))
        (view (ledger.row stamp (ledger.gather call).fresh))

variable {ledger}

theorem mem_keyed {k : ledger.Key} {calls : List ledger.Call} {call : ledger.Call} :
    call ∈ ledger.keyed k calls ↔ call ∈ calls ∧ (ledger.gather call).target = k := by
  simp [keyed]

theorem entry_concat (first : ledger.Call) (rest : List ledger.Call) (call : ledger.Call) :
    ledger.entry first (rest ++ [call]) = (ledger.gather call).update (ledger.entry first rest) := by
  rw [entry, List.foldl_append]
  rfl

theorem gathered_eq_none {k : ledger.Key} {calls : List ledger.Call} :
    ledger.gathered k calls = none ↔ ledger.keyed k calls = [] := by
  unfold gathered
  rcases List.eq_nil_or_concat (ledger.keyed k calls) with none | ⟨front, last, keyed⟩
  · simp [none]
  · simp [keyed]

/-- An entry is what the first call has made and the other calls have updated. -/
theorem gathered_eq_some {k : ledger.Key} {calls : List ledger.Call} {held : ledger.Entry}
    (found : ledger.gathered k calls = some held) :
    ∃ first rest, ledger.keyed k calls = first :: rest ∧ held = ledger.entry first rest := by
  unfold gathered at found
  cases split : ledger.keyed k calls with
  | nil =>
    rw [split] at found
    cases found
  | cons first rest =>
    refine ⟨first, rest, rfl, ?_⟩
    have updates := Upsert.foldl_on_some (ledger.gather first).fresh (rest.map ledger.gather)
    rw [List.foldl_map, List.foldl_map] at updates
    rw [split, List.foldl_cons] at found
    exact (Option.some.inj (updates.symm.trans found)).symm

theorem entryOf_gathered (k : ledger.Key) (calls : List ledger.Call) :
    Upsert.entryOf ledger.key k (Upsert.run [] (calls.map ledger.gather)) = ledger.gathered k calls := by
  rw [Upsert.entryOf_run, List.filter_map, List.foldl_map]
  rfl

/-- A call that is gathered has its entry. -/
theorem target_mem_keys {entries : List ledger.Entry} {calls : List ledger.Call}
    (tracks : ∀ k, Upsert.entryOf ledger.key k entries = ledger.gathered k calls) {call : ledger.Call}
    (member : call ∈ calls) : (ledger.gather call).target ∈ entries.map ledger.key := by
  by_contra missed
  have found := tracks (ledger.gather call).target
  rw [Upsert.entryOf_eq_none.mpr missed] at found
  have own : call ∈ ledger.keyed (ledger.gather call).target calls := mem_keyed.mpr ⟨member, rfl⟩
  rw [gathered_eq_none.mp found.symm] at own
  exact List.not_mem_nil own

theorem through_append (stamp : ledger.Stamp) (calls calls' : List ledger.Call) (row : Option ledger.Row) :
    ledger.through stamp (calls ++ calls') row = ledger.through stamp calls' (ledger.through stamp calls row) :=
  List.foldl_append

/-- A number that merging adds up is the sum of what the calls bring. -/
theorem measure_through {measure : ledger.Row → Nat}
    (adds : ∀ old new, measure (ledger.merge old new) = measure old + measure new) (stamp : ledger.Stamp)
    (calls : List ledger.Call) (row : Option ledger.Row) :
    ((ledger.through stamp calls row).map measure).getD 0 =
      (row.map measure).getD 0 + (calls.map fun call => measure (ledger.row stamp (ledger.gather call).fresh)).sum := by
  induction calls using List.reverseRecOn with
  | nil => rfl
  | append_singleton calls call ih =>
    rw [through_append, List.map_append, List.sum_append, ← Nat.add_assoc, ← ih, List.map_singleton,
      List.sum_singleton]
    cases ledger.through stamp calls row with
    | none => exact (Nat.zero_add _).symm
    | some old => exact adds old _

/-- The row of calls that are stored at once depends on the calls of this row alone. -/
theorem entryOf_direct (stamp : ledger.Stamp) (r : ledger.RowKey) (table : List ledger.Row)
    {calls : List ledger.Call} (own : ∀ call ∈ calls, (ledger.direct stamp call).target = r) :
    Upsert.entryOf ledger.rowKey r (Upsert.run table (calls.map (ledger.direct stamp))) =
      ledger.through stamp calls (Upsert.entryOf ledger.rowKey r table) := by
  have all : (calls.map (ledger.direct stamp)).filter (fun change => change.target = r) =
      calls.map (ledger.direct stamp) := by
    rw [List.filter_eq_self]
    intro change member
    obtain ⟨call, inside, rfl⟩ := List.mem_map.mp member
    exact decide_eq_true (own call inside)
  rw [Upsert.entryOf_run, all, List.foldl_map]
  rfl

namespace Law

variable (law : ledger.Law)

theorem target_entry (stamp : ledger.Stamp) (first : ledger.Call) (rest : List ledger.Call) :
    (ledger.store stamp (ledger.entry first rest)).target = law.rowOf first := by
  induction rest using List.reverseRecOn with
  | nil => exact law.rowKey_fresh stamp first
  | append_singleton rest call ih =>
    rw [entry_concat]
    exact (law.rowKey_update stamp call _).trans ih

/-- The view of a row tells the view of what is stored in it. -/
theorem view_on (stamp stamp' : ledger.Stamp) (entry : ledger.Entry) {old old' : Option ledger.Row}
    (same : old.map law.view = old'.map law.view) :
    law.view ((ledger.store stamp entry).on old) = law.view ((ledger.store stamp' entry).on old') := by
  cases old with
  | none =>
    have none' : old' = none := Option.map_eq_none_iff.mp same.symm
    rw [none']
    exact law.view_row stamp stamp' entry
  | some row =>
    obtain ⟨row', rfl, equal⟩ := Option.map_eq_some_iff.mp same.symm
    have merged : law.view (ledger.merge row (ledger.row stamp entry)) =
        law.view (ledger.merge row' (ledger.row stamp' entry)) := by
      rw [law.view_merge, law.view_merge, equal, law.view_row stamp stamp']
    exact merged

theorem view_through {stamp stamp' : ledger.Stamp} (calls : List ledger.Call) {old old' : Option ledger.Row}
    (same : old.map law.view = old'.map law.view) :
    (ledger.through stamp calls old).map law.view = (ledger.through stamp' calls old').map law.view := by
  induction calls using List.reverseRecOn with
  | nil => exact same
  | append_singleton calls call ih =>
    rw [through_append, through_append]
    exact congrArg some (law.view_on stamp stamp' _ ih)

/-- One call more in an entry is one call more behind it. -/
theorem view_update_on {start : Option ledger.Row} {first call : ledger.Call} {rest : List ledger.Call}
    (fit : law.fits start (first :: rest ++ [call])) (stamp : ledger.Stamp) (old : Option ledger.Row) :
    law.view ((ledger.store stamp ((ledger.gather call).update (ledger.entry first rest))).on old) =
      law.view ((ledger.direct stamp call).on (some ((ledger.store stamp (ledger.entry first rest)).on old))) := by
  have update := law.view_update stamp start first rest call fit
  cases old with
  | none => exact update.trans (law.view_merge _ _).symm
  | some row =>
    have merged : law.view
        (ledger.merge row (ledger.row stamp ((ledger.gather call).update (ledger.entry first rest)))) =
        law.view (ledger.merge (ledger.merge row (ledger.row stamp (ledger.entry first rest)))
          (ledger.row stamp (ledger.gather call).fresh)) := by
      rw [law.view_merge, law.view_merge, law.view_merge, update, law.mergeView_assoc]
    exact merged

/-- Storing an entry comes to the same as storing the calls that it was gathered from. -/
theorem view_entry {start : Option ledger.Row} {first : ledger.Call} {rest : List ledger.Call}
    (fit : law.fits start (first :: rest)) (stamp : ledger.Stamp) (old : Option ledger.Row) :
    some (law.view ((ledger.store stamp (ledger.entry first rest)).on old)) =
      (ledger.through stamp (first :: rest) old).map law.view := by
  induction rest using List.reverseRecOn with
  | nil => rfl
  | append_singleton rest call ih =>
    have shorter : law.fits start (first :: rest) := by
      refine law.fits_sublist start _ _ ?_ fit
      exact (List.sublist_append_left rest [call]).cons_cons first
    have before := ih shorter
    have step := law.view_update_on (by rwa [List.cons_append]) stamp old
    rw [entry_concat, step, ← List.cons_append, through_append]
    refine congrArg some (law.view_on stamp stamp _ ?_)
    exact before

/-- The calls of a key are the calls of its row. -/
theorem keyed_eq {k : ledger.Key} {calls : List ledger.Call} (propers : ∀ call ∈ calls, law.proper call)
    {first : ledger.Call} {rest : List ledger.Call} (split : ledger.keyed k calls = first :: rest) :
    ledger.keyed k calls = calls.filter fun call => law.rowOf call = law.rowOf first := by
  have member : first ∈ ledger.keyed k calls := by
    rw [split]
    exact List.mem_cons_self
  obtain ⟨inside, own⟩ := mem_keyed.mp member
  refine List.filter_congr fun call listed => ?_
  have same := law.same_key_iff call first (propers call listed) (propers first inside)
  rw [own] at same
  exact decide_eq_decide.mpr same

end Law

end Ledger

variable {ledger : Ledger}

/-- The entries that wait, the entries that are being stored, and the table. -/
structure Buffer (ledger : Ledger) where
  pending : List ledger.Entry
  hands : List ledger.Entry
  table : List ledger.Row

namespace Buffer

def start (table : List ledger.Row) : Buffer ledger := ⟨[], [], table⟩

def record (call : ledger.Call) (buffer : Buffer ledger) : Buffer ledger :=
  { buffer with pending := (ledger.gather call).apply buffer.pending }

def take (buffer : Buffer ledger) : Buffer ledger := { buffer with pending := [], hands := buffer.pending }

/-- One of the taken entries is stored, or is lost. -/
def write (stamp : ledger.Stamp) (place : Nat) (succeeds : Bool) (buffer : Buffer ledger) : Option (Buffer ledger) :=
  buffer.hands[place]?.map fun entry =>
    { buffer with
      hands := buffer.hands.eraseIdx place
      table := if succeeds then (ledger.store stamp entry).apply buffer.table else buffer.table }

def prune (cutoff : ledger.Cutoff) (buffer : Buffer ledger) : Buffer ledger :=
  { buffer with table := buffer.table.filter fun row => !ledger.expired cutoff (ledger.rowKey row) }

end Buffer

/-- The calls that a buffer has been given: those that were deleted with their rows, and those whose entries are stored,
lost, taken and waiting. -/
structure Held (ledger : Ledger) where
  deleted : List ledger.Call
  written : List ledger.Call
  lost : List ledger.Call
  taken : List ledger.Call
  waiting : List ledger.Call

/-- The calls of a row. -/
def ofRow (law : ledger.Law) (r : ledger.RowKey) (calls : List ledger.Call) : List ledger.Call :=
  calls.filter fun call => law.rowOf call = r

theorem ofRow_filter (law : ledger.Law) (keeps : ledger.RowKey → Bool) (r : ledger.RowKey) (calls : List ledger.Call) :
    ofRow law r (calls.filter fun call => keeps (law.rowOf call)) = if keeps r then ofRow law r calls else [] := by
  unfold ofRow
  rw [List.filter_filter]
  split
  · rename_i kept
    refine List.filter_congr fun call _ => ?_
    by_cases own : law.rowOf call = r
    · simp [own, kept]
    · simp [own]
  · rename_i dropped
    refine List.filter_eq_nil_iff.mpr fun call _ both => dropped ?_
    simp only [Bool.and_eq_true, decide_eq_true_eq] at both
    rw [← both.1]
    exact both.2

theorem ofRow_append (law : ledger.Law) (r : ledger.RowKey) (calls calls' : List ledger.Call) :
    ofRow law r (calls ++ calls') = ofRow law r calls ++ ofRow law r calls' := List.filter_append _ _

/-- No call is dropped or counted twice, and the calls of a row stay in their order. The table is what the written
calls would have made, when stored at once, of what is left of the first table. -/
structure Buffer.Holds (law : ledger.Law) (start : List ledger.Row) (recorded : List ledger.Call)
    (held : Held ledger) (buffer : Buffer ledger) : Prop where
  pending : buffer.pending = Upsert.run [] (held.waiting.map ledger.gather)
  distinct : (buffer.hands.map ledger.key).Nodup
  hands : ∀ k, Upsert.entryOf ledger.key k buffer.hands = ledger.gathered k held.taken
  table : ∀ stamp r, (Upsert.entryOf ledger.rowKey r buffer.table).map law.view =
    (ledger.through stamp (ofRow law r held.written) (Upsert.entryOf ledger.rowKey r start)).map law.view
  all : (held.deleted ++ (held.written ++ held.lost ++ held.taken ++ held.waiting)).Perm recorded
  order : ∀ r,
    (ofRow law r (held.deleted ++ (held.written ++ held.taken ++ held.waiting))).Sublist (ofRow law r recorded)

/-- The calls of the taken entry of a key leave the taken ones. -/
def others (k : ledger.Key) (calls : List ledger.Call) : List ledger.Call :=
  calls.filter fun call => (ledger.gather call).target ≠ k

theorem keyed_others_self (k : ledger.Key) (calls : List ledger.Call) : ledger.keyed k (others k calls) = [] := by
  simp [Ledger.keyed, others, List.filter_filter]

theorem keyed_others_of_ne {k k' : ledger.Key} (other : k' ≠ k) (calls : List ledger.Call) :
    ledger.keyed k (others k' calls) = ledger.keyed k calls := by
  unfold Ledger.keyed others
  rw [List.filter_filter]
  refine List.filter_congr fun call _ => ?_
  by_cases own : (ledger.gather call).target = k
  · simp [own, Ne.symm other]
  · simp [own]

theorem perm_keyed_others (k : ledger.Key) (calls : List ledger.Call) :
    (ledger.keyed k calls ++ others k calls).Perm calls := by
  have split := List.filter_append_perm (fun call => decide ((ledger.gather call).target = k)) calls
  have rest : (fun call => !decide ((ledger.gather call).target = k)) =
      fun call => decide ((ledger.gather call).target ≠ k) := by
    funext call
    exact (decide_not).symm
  rw [rest] at split
  exact split

/-- Taken calls move on to the written ones or the lost ones. -/
theorem perm_split {written lost taken waiting moved kept : List ledger.Call} (split : (moved ++ kept).Perm taken) :
    (written ++ moved ++ lost ++ kept ++ waiting).Perm (written ++ lost ++ taken ++ waiting) ∧
      (written ++ (lost ++ moved) ++ kept ++ waiting).Perm (written ++ lost ++ taken ++ waiting) := by
  have later : (lost ++ moved ++ kept).Perm (lost ++ taken) := by
    rw [List.append_assoc]
    exact split.append_left lost
  have sooner : (moved ++ lost ++ kept).Perm (lost ++ taken) := (List.perm_append_comm.append_right kept).trans later
  simp only [List.append_assoc] at later sooner ⊢
  constructor
  · have more := (sooner.append_right waiting).append_left written
    simpa only [List.append_assoc] using more
  · have more := (later.append_right waiting).append_left written
    simpa only [List.append_assoc] using more

theorem gathered_others (k k' : ledger.Key) (calls : List ledger.Call) :
    ledger.gathered k (others k' calls) = if k' = k then none else ledger.gathered k calls := by
  by_cases same : k' = k
  · subst same
    rw [if_pos rfl, Ledger.gathered_eq_none, keyed_others_self]
  · rw [if_neg same, Ledger.gathered, keyed_others_of_ne same]
    rfl

/-- An entry that leaves takes its key along. -/
theorem entryOf_eraseIdx {entries : List ledger.Entry} (distinct : (entries.map ledger.key).Nodup) {place : Nat}
    {held : ledger.Entry} (there : entries[place]? = some held) (k : ledger.Key) :
    Upsert.entryOf ledger.key k (entries.eraseIdx place) =
      if ledger.key held = k then none else Upsert.entryOf ledger.key k entries := by
  obtain ⟨inside, rfl⟩ := List.getElem?_eq_some_iff.mp there
  have perm := List.getElem_cons_eraseIdx_perm inside
  have apart : ((entries[place] :: entries.eraseIdx place).map ledger.key).Nodup :=
    (perm.map ledger.key).nodup_iff.mpr distinct
  rw [← Upsert.entryOf_perm distinct perm.symm k, Upsert.entryOf_cons]
  by_cases same : ledger.key entries[place] = k
  · rw [if_pos same, Upsert.entryOf_eq_none, ← same]
    exact (List.nodup_cons.mp apart).1
  · rw [if_neg same, if_neg same]

section Moves

variable {law : ledger.Law} {start : List ledger.Row} {recorded : List ledger.Call} {held : Held ledger}
  {buffer : Buffer ledger}

theorem Buffer.start_holds (law : ledger.Law) (start : List ledger.Row) :
    (Buffer.start start).Holds law start [] ⟨[], [], [], [], []⟩ where
  pending := rfl
  distinct := List.nodup_nil
  hands _ := rfl
  table _ _ := rfl
  all := List.Perm.refl []
  order _ := List.Sublist.refl _

namespace Buffer.Holds

theorem record (holds : buffer.Holds law start recorded held) (call : ledger.Call) :
    (buffer.record call).Holds law start (recorded ++ [call]) { held with waiting := held.waiting ++ [call] } where
  pending := by
    have step : (buffer.record call).pending = (ledger.gather call).apply buffer.pending := rfl
    rw [step, holds.pending, Upsert.run, Upsert.run, List.map_append, List.foldl_append]
    rfl
  distinct := holds.distinct
  hands := holds.hands
  table := holds.table
  all := by
    have more := holds.all.append_right [call]
    simpa only [List.append_assoc] using more
  order r := by
    have more := (holds.order r).append_right (ofRow law r [call])
    rw [← ofRow_append, ← ofRow_append] at more
    simpa only [List.append_assoc] using more

/-- Nothing is in hand when the next entries are taken. -/
theorem take (holds : buffer.Holds law start recorded held) (empty : buffer.hands = []) :
    buffer.take.Holds law start recorded { held with taken := held.waiting, waiting := [] } := by
  have none : held.taken = [] := by
    rw [List.eq_nil_iff_forall_not_mem]
    intro call member
    have held := Ledger.target_mem_keys holds.hands member
    rw [empty] at held
    exact List.not_mem_nil held
  have all := holds.all
  have order := holds.order
  rw [none] at all order
  refine ⟨rfl, ?_, fun k => ?_, holds.table, by simpa using all, fun r => by simpa using order r⟩
  · have distinct : ((Upsert.run [] (held.waiting.map ledger.gather)).map ledger.key).Nodup :=
      @Upsert.run_nodup _ _ _ _ [] List.nodup_nil _
    rw [← holds.pending] at distinct
    exact distinct
  · have gathered := Ledger.entryOf_gathered k held.waiting
    rw [← holds.pending] at gathered
    exact gathered

/-- What both ways out of the hands share. -/
theorem leave (holds : buffer.Holds law start recorded held) {place : Nat} {stored : ledger.Entry}
    (there : buffer.hands[place]? = some stored) :
    ((buffer.hands.eraseIdx place).map ledger.key).Nodup ∧
      ∀ k, Upsert.entryOf ledger.key k (buffer.hands.eraseIdx place) =
        ledger.gathered k (others (ledger.key stored) held.taken) := by
  refine ⟨holds.distinct.sublist ((List.eraseIdx_sublist buffer.hands place).map ledger.key), fun k => ?_⟩
  rw [entryOf_eraseIdx holds.distinct there, gathered_others, holds.hands]

end Buffer.Holds

/-- The calls of an entry are all the calls of its row, so that storing it keeps the calls of every row in order. -/
theorem ofRow_keyed_others {k : ledger.Key} {calls : List ledger.Call} (propers : ∀ call ∈ calls, law.proper call)
    {first : ledger.Call} {rest : List ledger.Call} (split : ledger.keyed k calls = first :: rest) (r : ledger.RowKey) :
    ofRow law r (ledger.keyed k calls) ++ ofRow law r (others k calls) = ofRow law r calls := by
  have own : ∀ call ∈ calls, (law.rowOf call = law.rowOf first ↔ (ledger.gather call).target = k) := by
    have member : first ∈ ledger.keyed k calls := by
      rw [split]
      exact List.mem_cons_self
    obtain ⟨inside, target⟩ := Ledger.mem_keyed.mp member
    intro call listed
    have same := law.same_key_iff call first (propers call listed) (propers first inside)
    rw [target] at same
    exact same.symm
  by_cases its : law.rowOf first = r
  · have all : ofRow law r (ledger.keyed k calls) = ofRow law r calls := by
      unfold ofRow Ledger.keyed
      rw [List.filter_filter]
      refine List.filter_congr fun call listed => ?_
      rw [← its]
      simp [own call listed]
    have none : ofRow law r (others k calls) = [] := by
      unfold ofRow others
      rw [List.filter_filter, List.filter_eq_nil_iff]
      intro call listed
      rw [← its]
      simp [own call listed]
    rw [all, none, List.append_nil]
  · have none : ofRow law r (ledger.keyed k calls) = [] := by
      unfold ofRow Ledger.keyed
      rw [List.filter_filter, List.filter_eq_nil_iff]
      intro call listed both
      simp only [Bool.and_eq_true, decide_eq_true_eq] at both
      exact its (((own call listed).mpr both.2).symm.trans both.1)
    have all : ofRow law r (others k calls) = ofRow law r calls := by
      unfold ofRow others
      rw [List.filter_filter]
      refine List.filter_congr fun call listed => ?_
      by_cases row : law.rowOf call = r
      · have apart : (ledger.gather call).target ≠ k := fun same =>
          its (((own call listed).mpr same).symm.trans row)
        simp [row, apart]
      · simp [row]
    rw [none, all, List.nil_append]

namespace Buffer.Holds

theorem sublist_recorded (holds : buffer.Holds law start recorded held)
    (propers : ∀ call ∈ held.taken, law.proper call)
    {k : ledger.Key} {first : ledger.Call} {rest : List ledger.Call}
    (split : ledger.keyed k held.taken = first :: rest) :
    (first :: rest).Sublist (ofRow law (law.rowOf first) recorded) := by
  have all := law.keyed_eq propers split
  have inside : (ofRow law (law.rowOf first) held.taken).Sublist
      (ofRow law (law.rowOf first) (held.deleted ++ (held.written ++ held.taken ++ held.waiting))) := by
    refine List.Sublist.filter _ ?_
    refine (List.sublist_append_right held.written held.taken).trans ?_
    exact (List.sublist_append_left _ held.waiting).trans (List.sublist_append_right held.deleted _)
  rw [← split, all]
  exact inside.trans (holds.order (law.rowOf first))

/-- A stored entry makes of its row what its calls would have made of it. -/
theorem stored (holds : buffer.Holds law start recorded held) (propers : ∀ call ∈ held.taken, law.proper call)
    (fit : ∀ r, law.fits (Upsert.entryOf ledger.rowKey r start) (ofRow law r recorded)) (stamp : ledger.Stamp)
    {k : ledger.Key} {first : ledger.Call} {rest : List ledger.Call}
    (split : ledger.keyed k held.taken = first :: rest) (stamp' : ledger.Stamp) (r : ledger.RowKey) :
    (Upsert.entryOf ledger.rowKey r ((ledger.store stamp (ledger.entry first rest)).apply buffer.table)).map
        law.view =
      (ledger.through stamp' (ofRow law r (held.written ++ ledger.keyed k held.taken))
        (Upsert.entryOf ledger.rowKey r start)).map law.view := by
  have target := law.target_entry stamp first rest
  have whole := law.keyed_eq propers split
  rw [ofRow_append, Ledger.through_append]
  by_cases its : law.rowOf first = r
  · subst its
    have own : ofRow law (law.rowOf first) (ledger.keyed k held.taken) = first :: rest := by
      have again : ofRow law (law.rowOf first) (ofRow law (law.rowOf first) held.taken) =
          ofRow law (law.rowOf first) held.taken := by
        unfold ofRow
        rw [List.filter_filter]
        simp only [Bool.and_self]
      rw [← split, whole]
      exact again
    have fitting := law.fits_sublist _ _ _ (holds.sublist_recorded propers split) (fit (law.rowOf first))
    have self := (ledger.store stamp (ledger.entry first rest)).entryOf_apply_self buffer.table
    rw [target] at self
    rw [own, self, Option.map_some, law.view_entry fitting]
    exact law.view_through _ (holds.table stamp' (law.rowOf first))
  · have none : ofRow law r (ledger.keyed k held.taken) = [] := by
      rw [whole]
      unfold ofRow
      rw [List.filter_filter, List.filter_eq_nil_iff]
      intro call _ both
      simp only [Bool.and_eq_true, decide_eq_true_eq] at both
      exact its (both.2.symm.trans both.1)
    have other : (ledger.store stamp (ledger.entry first rest)).target ≠ r := target.trans_ne its
    rw [none, (ledger.store stamp (ledger.entry first rest)).entryOf_apply_other other]
    exact holds.table stamp' r

/-- An entry that is stored or lost takes its calls along. -/
theorem write (holds : buffer.Holds law start recorded held) (propers : ∀ call ∈ held.taken, law.proper call)
    (fit : ∀ r, law.fits (Upsert.entryOf ledger.rowKey r start) (ofRow law r recorded)) {stamp : ledger.Stamp}
    {place : Nat} {succeeds : Bool} {next : Buffer ledger} (step : buffer.write stamp place succeeds = some next) :
    ∃ moved kept, next.Holds law start recorded
      { held with
        written := if succeeds then held.written ++ moved else held.written
        lost := if succeeds then held.lost else held.lost ++ moved
        taken := kept } := by
  obtain ⟨stored, there, rfl⟩ := Option.map_eq_some_iff.mp step
  have present := Upsert.entryOf_of_mem holds.distinct (List.mem_of_getElem? there)
  obtain ⟨distinct, hands⟩ := holds.leave there
  rw [holds.hands] at present
  obtain ⟨first, rest, split, rfl⟩ := Ledger.gathered_eq_some present
  generalize ledger.key (ledger.entry first rest) = k at split present hands
  have inOrder := ofRow_keyed_others propers split
  refine ⟨ledger.keyed k held.taken, others k held.taken, ?_⟩
  cases succeeds with
  | true =>
    refine ⟨holds.pending, distinct, hands, holds.stored propers fit stamp split, ?_, fun r => ?_⟩
    · exact ((perm_split (perm_keyed_others k held.taken)).1.append_left held.deleted).trans holds.all
    · have same : ofRow law r (held.deleted ++
            (held.written ++ ledger.keyed k held.taken ++ others k held.taken ++ held.waiting)) =
          ofRow law r (held.deleted ++ (held.written ++ held.taken ++ held.waiting)) := by
        simp only [ofRow_append, ← inOrder r, List.append_assoc]
      exact same ▸ holds.order r
  | false =>
    refine ⟨holds.pending, distinct, hands, holds.table, ?_, fun r => ?_⟩
    · exact ((perm_split (perm_keyed_others k held.taken)).2.append_left held.deleted).trans holds.all
    · refine List.Sublist.trans (List.Sublist.filter _ ?_) (holds.order r)
      have fewer : (others k held.taken).Sublist held.taken := List.filter_sublist
      exact (((List.Sublist.refl held.written).append fewer).append_right held.waiting).append_left held.deleted

/-- The calls of the rows that have expired leave the written ones. -/
theorem prune (holds : buffer.Holds law start recorded held) (cutoff : ledger.Cutoff) :
    (buffer.prune cutoff).Holds law (start.filter fun row => !ledger.expired cutoff (ledger.rowKey row)) recorded
      { held with
        deleted := held.deleted ++ held.written.filter fun call => ledger.expired cutoff (law.rowOf call)
        written := held.written.filter fun call => !ledger.expired cutoff (law.rowOf call) } where
  pending := holds.pending
  distinct := holds.distinct
  hands := holds.hands
  table stamp r := by
    have left (table : List ledger.Row) :
        Upsert.entryOf ledger.rowKey r (table.filter fun row => !ledger.expired cutoff (ledger.rowKey row)) =
          if ledger.expired cutoff r then none else Upsert.entryOf ledger.rowKey r table := by
      refine (Upsert.entryOf_filter (fun r => !ledger.expired cutoff r) r table).trans ?_
      cases ledger.expired cutoff r <;> rfl
    have calls := ofRow_filter law (fun r => !ledger.expired cutoff r) r held.written
    have table : (buffer.prune cutoff).table =
        buffer.table.filter fun row => !ledger.expired cutoff (ledger.rowKey row) := rfl
    rw [table, left, left, calls]
    cases ledger.expired cutoff r with
    | true => rfl
    | false => exact holds.table stamp r
  all := by
    have split := List.filter_append_perm (fun call => ledger.expired cutoff (law.rowOf call)) held.written
    have more := ((split.append_right (held.lost ++ held.taken ++ held.waiting)).append_left held.deleted).trans (by
      simpa only [List.append_assoc] using holds.all)
    simpa only [List.append_assoc] using more
  order r := by
    have same : ofRow law r (held.deleted ++ held.written.filter (fun call => ledger.expired cutoff (law.rowOf call)) ++
          (held.written.filter (fun call => !ledger.expired cutoff (law.rowOf call)) ++ held.taken ++ held.waiting)) =
        ofRow law r (held.deleted ++ (held.written ++ held.taken ++ held.waiting)) := by
      simp only [ofRow_append, ofRow_filter law (ledger.expired cutoff ·), ofRow_filter law (!ledger.expired cutoff ·)]
      by_cases gone : ledger.expired cutoff r = true
      · simp [gone]
      · simp [gone]
    exact same ▸ holds.order r

end Buffer.Holds

end Moves

section Run

variable {Kind : Type} [DecidableEq Kind] (ledgers : Kind → Ledger)

/-- The buffers of several ledgers, which one flush takes together. -/
abbrev State := ∀ kind, Buffer (ledgers kind)

inductive Step
  | record (kind : Kind) (call : (ledgers kind).Call)
  | take
  | write (kind : Kind) (stamp : (ledgers kind).Stamp) (place : Nat) (succeeds : Bool)
  | prune (kind : Kind) (cutoff : (ledgers kind).Cutoff)

/-- The recorders and the flush in any interleaving. The next flush begins when nothing is left in its hands. -/
def system [Fintype Kind] : Transition.System (State ledgers) (Step ledgers)
  | state, .record kind call => some (Function.update state kind ((state kind).record call))
  | state, .take => if ∀ kind, (state kind).hands.isEmpty then some fun kind => (state kind).take else none
  | state, .write kind stamp place succeeds =>
    ((state kind).write stamp place succeeds).map (Function.update state kind)
  | state, .prune kind cutoff => some (Function.update state kind ((state kind).prune cutoff))

variable {ledgers}

def Step.callOf (kind : Kind) : Step ledgers → Option (ledgers kind).Call
  | .record kind' call => if same : kind' = kind then some (same ▸ call) else none
  | _ => none

/-- The calls that a run records for a ledger. -/
def recorded (kind : Kind) (steps : List (Step ledgers)) : List (ledgers kind).Call :=
  steps.filterMap (Step.callOf kind)

/-- A write of a ledger that fails. -/
def Step.Loses (kind : Kind) : Step ledgers → Prop
  | .write kind' _ _ false => kind' = kind
  | _ => False

/-- A step that deletes a row, if it is there. -/
def Step.deletes (kind : Kind) (r : (ledgers kind).RowKey) : Step ledgers → Bool
  | .prune kind' cutoff => if same : kind' = kind then (ledgers kind).expired (same ▸ cutoff) r else false
  | _ => false

/-- The rows of a table that no step has deleted. -/
def surviving (kind : Kind) (steps : List (Step ledgers)) (table : List (ledgers kind).Row) : List (ledgers kind).Row :=
  table.filter fun row => !steps.any (Step.deletes kind ((ledgers kind).rowKey row))

def begin (tables : ∀ kind, List (ledgers kind).Row) : State ledgers := fun kind => Buffer.start (tables kind)

theorem recorded_concat (kind : Kind) (steps : List (Step ledgers)) (step : Step ledgers) :
    recorded kind (steps ++ [step]) = recorded kind steps ++ (step.callOf kind).toList := by
  unfold recorded
  rw [List.filterMap_append]
  cases found : step.callOf kind <;> simp [found]

theorem surviving_concat (kind : Kind) (steps : List (Step ledgers)) (step : Step ledgers)
    (table : List (ledgers kind).Row) :
    surviving kind (steps ++ [step]) table =
      (surviving kind steps table).filter fun row => !step.deletes kind ((ledgers kind).rowKey row) := by
  unfold surviving
  rw [List.filter_filter]
  refine List.filter_congr fun row _ => ?_
  rw [List.any_append, Bool.not_or, List.any_cons, List.any_nil, Bool.or_false, Bool.and_comm]

theorem surviving_concat_of_spares {kind : Kind} {step : Step ledgers} (spares : ∀ r, step.deletes kind r = false)
    (steps : List (Step ledgers)) (table : List (ledgers kind).Row) :
    surviving kind (steps ++ [step]) table = surviving kind steps table := by
  rw [surviving_concat]
  exact List.filter_eq_self.mpr fun row _ => by rw [spares, Bool.not_false]

/-- What the first table promises about a row, what is left of it promises as well. -/
theorem fits_surviving {kind : Kind} (law : (ledgers kind).Law) {table : List (ledgers kind).Row}
    {calls : List (ledgers kind).Call} {r : (ledgers kind).RowKey}
    (fit : law.fits (Upsert.entryOf (ledgers kind).rowKey r table) calls)
    (steps : List (Step ledgers)) :
    law.fits (Upsert.entryOf (ledgers kind).rowKey r (surviving kind steps table)) calls := by
  unfold surviving
  rw [Upsert.entryOf_filter fun r => !steps.any (Step.deletes kind r)]
  split
  · exact fit
  · exact law.fits_none _ _ fit

variable [Fintype Kind]

/-- What a step does to the buffer of one ledger. -/
theorem system_cases {state next : State ledgers} {step : Step ledgers} (moves : system ledgers state step = some next)
    (kind : Kind) :
    ((∀ r, step.deletes kind r = false) ∧
      ((∃ call, step.callOf kind = some call ∧ next kind = (state kind).record call) ∨
        step.callOf kind = none ∧
          (next kind = state kind ∨
            (state kind).hands = [] ∧ next kind = (state kind).take ∨
            ∃ stamp place succeeds, (state kind).write stamp place succeeds = some (next kind) ∧
              (succeeds = false → step.Loses kind)))) ∨
      step.callOf kind = none ∧ ∃ cutoff, (∀ r, step.deletes kind r = (ledgers kind).expired cutoff r) ∧
        next kind = (state kind).prune cutoff := by
  cases step with
  | record kind' call =>
    cases moves
    by_cases same : kind' = kind
    · subst same
      exact .inl ⟨fun _ => rfl, .inl ⟨call, by simp [Step.callOf], Function.update_self _ _ _⟩⟩
    · exact .inl ⟨fun _ => rfl,
        .inr ⟨by simp [Step.callOf, same], .inl (Function.update_of_ne (Ne.symm same) _ _)⟩⟩
  | take =>
    have taken := Option.ite_none_right_eq_some.mp moves
    obtain ⟨empty, same⟩ := taken
    cases same
    exact .inl ⟨fun _ => rfl, .inr ⟨rfl, .inr (.inl ⟨List.isEmpty_iff.mp (empty kind), rfl⟩)⟩⟩
  | write kind' stamp place succeeds =>
    obtain ⟨written, writes, rfl⟩ := Option.map_eq_some_iff.mp moves
    refine .inl ⟨fun _ => rfl, .inr ⟨rfl, ?_⟩⟩
    by_cases same : kind' = kind
    · subst same
      refine .inr (.inr ⟨stamp, place, succeeds, ?_, ?_⟩)
      · rw [writes, Function.update_self]
      · rintro rfl
        rfl
    · exact .inl (Function.update_of_ne (Ne.symm same) _ _)
  | prune kind' cutoff =>
    cases moves
    by_cases same : kind' = kind
    · subst same
      exact .inr ⟨rfl, cutoff, fun _ => by simp [Step.deletes], Function.update_self _ _ _⟩
    · exact .inl ⟨fun _ => by simp [Step.deletes, same],
        .inr ⟨rfl, .inl (Function.update_of_ne (Ne.symm same) _ _)⟩⟩

variable {kind : Kind}

/-- Every interleaving of the recorders with the flush keeps track of every call. -/
theorem holds_of_reached (law : (ledgers kind).Law) {tables : ∀ kind, List (ledgers kind).Row}
    {steps : List (Step ledgers)} {state : State ledgers}
    (reached : (system ledgers).after (begin tables) steps = some state)
    (propers : ∀ call ∈ recorded kind steps, law.proper call)
    (fit : ∀ r, law.fits (Upsert.entryOf (ledgers kind).rowKey r (tables kind)) (ofRow law r (recorded kind steps))) :
    ∃ held, (state kind).Holds law (surviving kind steps (tables kind)) (recorded kind steps) held ∧
      ((∀ step ∈ steps, ¬ step.Loses kind) → held.lost = []) ∧
      ∀ r, (∀ step ∈ steps, step.deletes kind r = false) → ofRow law r held.deleted = [] := by
  induction steps using List.reverseRecOn generalizing state with
  | nil =>
    cases reached
    have all : surviving kind [] (tables kind) = tables kind := List.filter_eq_self.mpr fun _ _ => rfl
    rw [all]
    exact ⟨_, Buffer.start_holds law (tables kind), fun _ => rfl, fun _ _ => rfl⟩
  | append_singleton steps step ih =>
    obtain ⟨before, earlier, moves⟩ := Transition.System.after_concat_eq_some.mp reached
    rw [recorded_concat] at propers fit ⊢
    have fit' : ∀ r, law.fits (Upsert.entryOf (ledgers kind).rowKey r (tables kind))
        (ofRow law r (recorded kind steps)) := by
      intro r
      refine law.fits_sublist _ _ _ ?_ (fit r)
      rw [ofRow_append]
      exact List.sublist_append_left _ _
    obtain ⟨held, holds, kept, spared⟩ :=
      ih earlier (fun call member => propers call (List.mem_append_left _ member)) fit'
    have earlierKept : (∀ step' ∈ steps ++ [step], ¬ step'.Loses kind) → held.lost = [] :=
      fun none => kept fun step' member => none step' (List.mem_append_left _ member)
    have earlierSpared : ∀ r, (∀ step' ∈ steps ++ [step], step'.deletes kind r = false) →
        ofRow law r held.deleted = [] := fun r none => spared r fun step' member => none step' (List.mem_append_left _ member)
    rcases system_cases moves kind with ⟨spares, moves⟩ | ⟨silent, cutoff, deletes, prunes⟩
    · rw [surviving_concat_of_spares spares]
      rcases moves with
        ⟨call, found, records⟩ | ⟨silent, same | ⟨empty, takes⟩ | ⟨stamp, place, succeeds, writes, loses⟩⟩
      · rw [found, records]
        exact ⟨_, holds.record call, earlierKept, earlierSpared⟩
      · rw [silent, Option.toList_none, List.append_nil, same]
        exact ⟨held, holds, earlierKept, earlierSpared⟩
      · rw [silent, Option.toList_none, List.append_nil, takes]
        exact ⟨_, holds.take empty, earlierKept, earlierSpared⟩
      · have taken : ∀ call ∈ held.taken, law.proper call := by
          intro call member
          refine propers call (List.mem_append_left _ (holds.all.mem_iff.mp ?_))
          simp [member]
        obtain ⟨moved, rest, after⟩ := holds.write taken (fun r => fits_surviving law (fit' r) steps) writes
        rw [silent, Option.toList_none, List.append_nil]
        refine ⟨_, after, fun none => ?_, earlierSpared⟩
        cases succeeds with
        | true => exact earlierKept none
        | false => exact absurd (loses rfl) (none step (List.mem_append_right _ List.mem_cons_self))
    · rw [silent, Option.toList_none, List.append_nil, prunes, surviving_concat]
      simp only [deletes]
      refine ⟨_, holds.prune cutoff, earlierKept, fun r none => ?_⟩
      have alive := none step (List.mem_append_right _ List.mem_cons_self)
      rw [deletes] at alive
      rw [ofRow_append, earlierSpared r none, ofRow_filter law ((ledgers kind).expired cutoff ·), alive]
      rfl

/-- The calls of a row are stored, lost, still on their way, or were deleted with the row. What is there of the row is
what the stored ones make, one by one, at once and in their order, of what is left of the first table. -/
theorem row_of_reached (law : (ledgers kind).Law) {tables : ∀ kind, List (ledgers kind).Row}
    {steps : List (Step ledgers)} {state : State ledgers}
    (reached : (system ledgers).after (begin tables) steps = some state)
    (propers : ∀ call ∈ recorded kind steps, law.proper call)
    (fit : ∀ r, law.fits (Upsert.entryOf (ledgers kind).rowKey r (tables kind)) (ofRow law r (recorded kind steps)))
    (r : (ledgers kind).RowKey) :
    ∃ deleted written lost later, (deleted ++ written ++ lost ++ later).Perm (ofRow law r (recorded kind steps)) ∧
      (deleted ++ written ++ later).Sublist (ofRow law r (recorded kind steps)) ∧
      (∀ stamp, (Upsert.entryOf (ledgers kind).rowKey r (state kind).table).map law.view =
        (Upsert.entryOf (ledgers kind).rowKey r
          (Upsert.run (surviving kind steps (tables kind)) (written.map ((ledgers kind).direct stamp)))).map law.view) ∧
      ((∀ step ∈ steps, ¬ step.Loses kind) → lost = []) ∧
      ((∀ step ∈ steps, step.deletes kind r = false) → deleted = []) ∧
      ((∀ call ∈ ofRow law r (recorded kind steps), ((ledgers kind).gather call).target ∉
        ((state kind).hands ++ (state kind).pending).map (ledgers kind).key) → later = []) := by
  obtain ⟨held, holds, kept, spared⟩ := holds_of_reached law reached propers fit
  refine ⟨ofRow law r held.deleted, ofRow law r held.written, ofRow law r held.lost,
    ofRow law r (held.taken ++ held.waiting), ?_, ?_, fun stamp => ?_, fun none => ?_, spared r, fun none => ?_⟩
  · have all : (ofRow law r _).Perm (ofRow law r _) := holds.all.filter fun call => law.rowOf call = r
    rw [← ofRow_append, ← ofRow_append, ← ofRow_append]
    simpa only [List.append_assoc] using all
  · rw [← ofRow_append, ← ofRow_append]
    simpa only [List.append_assoc] using holds.order r
  · rw [Ledger.entryOf_direct, holds.table stamp r]
    intro call member
    exact (law.rowKey_fresh stamp call).trans (of_decide_eq_true (List.mem_filter.mp member).2)
  · rw [kept none]
    rfl
  · rw [List.eq_nil_iff_forall_not_mem]
    intro call member
    obtain ⟨inside, own⟩ := List.mem_filter.mp member
    have recordedCall : call ∈ ofRow law r (recorded kind steps) := by
      refine List.mem_filter.mpr ⟨holds.all.mem_iff.mp ?_, own⟩
      simp only [List.append_assoc] at inside ⊢
      exact List.mem_append_right _ (List.mem_append_right _ (List.mem_append_right _ inside))
    refine none call recordedCall ?_
    rw [List.map_append, List.mem_append]
    rcases List.mem_append.mp inside with taken | waits
    · exact .inl (Ledger.target_mem_keys holds.hands taken)
    · refine .inr (Ledger.target_mem_keys (fun k => ?_) waits)
      rw [holds.pending]
      exact Ledger.entryOf_gathered k held.waiting

end Run

end WriteBehind
