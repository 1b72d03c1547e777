import Mathlib.Data.List.Nodup
import Mathlib.Data.List.Perm.Basic

namespace Upsert

variable {α κ : Type} {key : α → κ}

/-- A call that updates the entry of its key or, where there is none, adds a fresh one. -/
structure Change (key : α → κ) where
  target : κ
  update : α → α
  fresh : α
  update_key : ∀ entry, key (update entry) = key entry
  fresh_key : key fresh = target

/-- What a call makes of the entry of its key. -/
def Change.on (change : Change key) : Option α → α
  | some entry => change.update entry
  | none => change.fresh

/-- Calls that find an entry update it. -/
theorem foldl_on_some (entry : α) (changes : List (Change key)) :
    changes.foldl (fun entry change => some (change.on entry)) (some entry) =
      some (changes.foldl (fun entry change => change.update entry) entry) := by
  induction changes generalizing entry with
  | nil => rfl
  | cons change changes ih => exact ih (change.update entry)

variable [DecidableEq κ]

/-- The first entry of a key. -/
def entryOf (key : α → κ) (k : κ) (entries : List α) : Option α := entries.find? fun entry => key entry = k

/-- The entry of the key is changed where it stands, or the fresh one is pushed. -/
def Change.apply (change : Change key) : List α → List α
  | [] => [change.fresh]
  | entry :: rest => if key entry = change.target then change.update entry :: rest else entry :: change.apply rest

def run (entries : List α) (changes : List (Change key)) : List α :=
  changes.foldl (fun entries change => change.apply entries) entries

theorem entryOf_cons (k : κ) (entry : α) (rest : List α) :
    entryOf key k (entry :: rest) = if key entry = k then some entry else entryOf key k rest := by
  unfold entryOf
  by_cases same : key entry = k
  · rw [if_pos same, List.find?_cons_of_pos (by simpa using same)]
  · rw [if_neg same, List.find?_cons_of_neg (by simpa using same)]

theorem entryOf_eq_some {k : κ} {entry : α} {entries : List α} (found : entryOf key k entries = some entry) :
    entry ∈ entries ∧ key entry = k :=
  ⟨List.mem_of_find?_eq_some found, by simpa using List.find?_some found⟩

theorem entryOf_eq_none {k : κ} {entries : List α} : entryOf key k entries = none ↔ k ∉ entries.map key := by
  simp [entryOf]

theorem entryOf_concat_other {k : κ} {last : α} (other : key last ≠ k) (entries : List α) :
    entryOf key k (entries ++ [last]) = entryOf key k entries := by
  have missed : [last].find? (fun entry => key entry = k) = none := by simpa using other
  rw [entryOf, List.find?_append, missed, Option.or_none]
  rfl

theorem entryOf_of_mem {entries : List α} (distinct : (entries.map key).Nodup) {entry : α} (member : entry ∈ entries) :
    entryOf key (key entry) entries = some entry := by
  induction entries with
  | nil => exact absurd member List.not_mem_nil
  | cons first rest ih =>
    obtain ⟨fresh, distinct⟩ := List.nodup_cons.mp distinct
    rw [entryOf_cons]
    rcases List.mem_cons.mp member with rfl | later
    · exact if_pos rfl
    · have other : key first ≠ key entry := fun same => fresh (same ▸ List.mem_map_of_mem later)
      rw [if_neg other, ih distinct later]

/-- Entries that are dropped or kept by their keys. -/
theorem entryOf_filter (keeps : κ → Bool) (k : κ) (entries : List α) :
    entryOf key k (entries.filter fun entry => keeps (key entry)) =
      if keeps k then entryOf key k entries else none := by
  induction entries with
  | nil => simp [entryOf]
  | cons entry rest ih =>
    rw [List.filter_cons, entryOf_cons]
    by_cases same : key entry = k
    · subst same
      cases kept : keeps (key entry) with
      | true => simp [entryOf_cons]
      | false => simpa [kept] using ih
    · rw [if_neg same, ← ih]
      split
      · rw [entryOf_cons, if_neg same]
      · rfl

/-- Which entry has a key does not depend on the order of the entries. -/
theorem entryOf_perm {entries entries' : List α} (distinct : (entries.map key).Nodup) (same : entries.Perm entries')
    (k : κ) : entryOf key k entries' = entryOf key k entries := by
  cases found : entryOf key k entries with
  | none =>
    rw [entryOf_eq_none] at found ⊢
    exact fun member => found ((same.map key).mem_iff.mpr member)
  | some entry =>
    obtain ⟨member, rfl⟩ := entryOf_eq_some found
    exact entryOf_of_mem ((same.map key).nodup_iff.mp distinct) (same.mem_iff.mp member)

namespace Change

theorem entryOf_apply_self (change : Change key) (entries : List α) :
    entryOf key change.target (change.apply entries) = some (change.on (entryOf key change.target entries)) := by
  induction entries with
  | nil => rw [apply, entryOf_cons, if_pos change.fresh_key]; rfl
  | cons entry rest ih =>
    rw [apply, entryOf_cons]
    by_cases same : key entry = change.target
    · rw [if_pos same, if_pos same, entryOf_cons, if_pos ((change.update_key entry).trans same)]
      rfl
    · rw [if_neg same, if_neg same, entryOf_cons, if_neg same, ih]

theorem entryOf_apply_other (change : Change key) {k : κ} (other : change.target ≠ k) (entries : List α) :
    entryOf key k (change.apply entries) = entryOf key k entries := by
  induction entries with
  | nil => rw [apply, entryOf_cons, if_neg (change.fresh_key ▸ other)]
  | cons entry rest ih =>
    rw [apply]
    by_cases same : key entry = change.target
    · rw [if_pos same, entryOf_cons, entryOf_cons, change.update_key entry, same, if_neg other, if_neg other]
    · rw [if_neg same, entryOf_cons, entryOf_cons, ih]

theorem apply_of_new (change : Change key) {entries : List α} (new : change.target ∉ entries.map key) :
    change.apply entries = entries ++ [change.fresh] := by
  induction entries with
  | nil => rfl
  | cons entry rest ih =>
    obtain ⟨other, new⟩ := not_or.mp (mt List.mem_cons.mpr new)
    rw [apply, if_neg (Ne.symm other), ih new]
    rfl

theorem mem_apply (change : Change key) {entries : List α} {entry : α} (member : entry ∈ change.apply entries) :
    entry ∈ entries ∨ entry = change.fresh ∨ ∃ old ∈ entries, entry = change.update old := by
  induction entries with
  | nil => exact .inr (.inl (List.mem_singleton.mp member))
  | cons first rest ih =>
    rw [apply] at member
    split at member
    · rcases List.mem_cons.mp member with updated | later
      · exact .inr (.inr ⟨first, List.mem_cons_self, updated⟩)
      · exact .inl (List.mem_cons_of_mem _ later)
    · rcases List.mem_cons.mp member with same | later
      · exact .inl (List.mem_cons.mpr (.inl same))
      · rcases ih later with kept | fresh | ⟨old, found, updated⟩
        · exact .inl (List.mem_cons_of_mem _ kept)
        · exact .inr (.inl fresh)
        · exact .inr (.inr ⟨old, List.mem_cons_of_mem _ found, updated⟩)

theorem keys_apply_of_listed (change : Change key) {entries : List α} (listed : change.target ∈ entries.map key) :
    (change.apply entries).map key = entries.map key := by
  induction entries with
  | nil => exact absurd listed List.not_mem_nil
  | cons entry rest ih =>
    rw [apply]
    by_cases same : key entry = change.target
    · rw [if_pos same, List.map_cons, List.map_cons, change.update_key]
    · have later : change.target ∈ rest.map key := List.mem_of_ne_of_mem (Ne.symm same) listed
      rw [if_neg same, List.map_cons, List.map_cons, ih later]

theorem keys_apply_of_new (change : Change key) {entries : List α} (new : change.target ∉ entries.map key) :
    (change.apply entries).map key = entries.map key ++ [change.target] := by
  rw [change.apply_of_new new, List.map_append, List.map_singleton, change.fresh_key]

theorem mem_keys_apply (change : Change key) {entries : List α} {k : κ} :
    k ∈ (change.apply entries).map key ↔ k ∈ entries.map key ∨ change.target = k := by
  by_cases listed : change.target ∈ entries.map key
  · rw [change.keys_apply_of_listed listed]
    exact ⟨.inl, fun either => either.elim id fun own => own ▸ listed⟩
  · rw [change.keys_apply_of_new listed, List.mem_append, List.mem_singleton, eq_comm (a := k)]

/-- No key gets a second entry. -/
theorem apply_nodup (change : Change key) {entries : List α} (distinct : (entries.map key).Nodup) :
    ((change.apply entries).map key).Nodup := by
  by_cases listed : change.target ∈ entries.map key
  · rw [change.keys_apply_of_listed listed]
    exact distinct
  · rw [change.keys_apply_of_new listed]
    exact List.nodup_append_comm.mp (List.nodup_cons.mpr ⟨listed, distinct⟩)

end Change

theorem run_nodup {entries : List α} (distinct : (entries.map key).Nodup) (changes : List (Change key)) :
    ((run entries changes).map key).Nodup := by
  induction changes generalizing entries with
  | nil => exact distinct
  | cons change changes ih => exact ih (change.apply_nodup distinct)

theorem mem_keys_run {entries : List α} {changes : List (Change key)} {k : κ}
    (member : k ∈ (run entries changes).map key) : k ∈ entries.map key ∨ k ∈ changes.map Change.target := by
  induction changes generalizing entries with
  | nil => exact .inl member
  | cons change changes ih =>
    rw [List.map_cons, List.mem_cons]
    rcases ih member with listed | later
    · exact (change.mem_keys_apply.mp listed).imp_right fun own => .inl own.symm
    · exact .inr (.inr later)

/-- The entry of a key is what the calls for this key have made of it. -/
theorem entryOf_run (k : κ) (entries : List α) (changes : List (Change key)) :
    entryOf key k (run entries changes) =
      (changes.filter fun change => change.target = k).foldl (fun entry change => some (change.on entry))
        (entryOf key k entries) := by
  induction changes generalizing entries with
  | nil => rfl
  | cons change changes ih =>
    have step : run entries (change :: changes) = run (change.apply entries) changes := rfl
    rw [step, ih]
    by_cases same : change.target = k
    · subst same
      rw [List.filter_cons_of_pos (by simp), List.foldl_cons, change.entryOf_apply_self]
    · rw [List.filter_cons_of_neg (by simpa using same), change.entryOf_apply_other same]

end Upsert
