import Mathlib.Data.List.Perm.Basic
import Mathlib.Order.Lattice

/-!
# Ordered multimaps

`std::multimap` keeps its entries in non-decreasing key order and inserts a new
entry behind the entries that already have its key, so entries with equal keys
are iterated in insertion order.
-/

namespace AzerothCore
open List

/-- The entries of a `std::multimap`, in iteration order. -/
structure Multimap (K V : Type*) [LinearOrder K] where
  entries : List (K × V)
  sorted : entries.Pairwise fun first second => first.1 ≤ second.1

namespace Multimap

variable {K V W : Type*} [LinearOrder K]

theorem ext_entries {left right : Multimap K V}
    (hentries : left.entries = right.entries) : left = right := by
  cases left
  cases hentries
  rfl

def empty : Multimap K V := ⟨[], List.Pairwise.nil⟩

/-! ## Insertion at the upper bound of the key -/

def insertList (key : K) (value : V) : List (K × V) → List (K × V)
  | [] => [(key, value)]
  | entry :: rest =>
    if key < entry.1 then (key, value) :: entry :: rest
    else entry :: insertList key value rest

theorem insertList_perm (key : K) (value : V) (list : List (K × V)) :
    (insertList key value list).Perm ((key, value) :: list) := by
  induction list with
  | nil => exact List.Perm.refl _
  | cons entry rest ih =>
    by_cases hlt : key < entry.1
    · simp [insertList, hlt]
    · simp only [insertList, hlt, if_false]
      exact (ih.cons entry).trans (List.Perm.swap _ _ _)

theorem sublist_insertList (key : K) (value : V) (list : List (K × V)) :
    list.Sublist (insertList key value list) := by
  induction list with
  | nil => exact nil_sublist _
  | cons entry rest ih =>
    by_cases hlt : key < entry.1
    · rw [insertList, if_pos hlt]
      exact sublist_cons_self _ _
    · rw [insertList, if_neg hlt]
      exact ih.cons_cons entry

variable {entry : K × V} {key : K}

@[simp]
theorem mem_insertList {value : V} {list : List (K × V)} :
    entry ∈ insertList key value list ↔ entry = (key, value) ∨ entry ∈ list := by
  rw [(insertList_perm key value list).mem_iff, mem_cons]

theorem insertList_sorted (key : K) (value : V) {list : List (K × V)}
    (hsorted : list.Pairwise fun first second => first.1 ≤ second.1) :
    (insertList key value list).Pairwise fun first second => first.1 ≤ second.1 := by
  induction list with
  | nil => simp [insertList]
  | cons entry rest ih =>
    rw [pairwise_cons] at hsorted
    by_cases hlt : key < entry.1
    · simp only [insertList, hlt, if_true, pairwise_cons]
      refine ⟨?_, hsorted⟩
      intro other hother
      rcases mem_cons.mp hother with rfl | hrest
      · exact hlt.le
      · exact hlt.le.trans (hsorted.1 other hrest)
    · simp only [insertList, hlt, if_false, pairwise_cons]
      refine ⟨?_, ih hsorted.2⟩
      intro other hother
      rcases mem_insertList.mp hother with rfl | hrest
      · exact not_lt.mp hlt
      · exact hsorted.1 other hrest

theorem insertList_append_of_le {value : V} {front list : List (K × V)}
    (hle : ∀ entry ∈ front, entry.1 ≤ key) :
    insertList key value (front ++ list) = front ++ insertList key value list := by
  induction front with
  | nil => rfl
  | cons entry rest ih =>
    have hentry : ¬ key < entry.1 := not_lt.mpr (hle entry mem_cons_self)
    simp only [cons_append, insertList, hentry, if_false]
    rw [ih fun other hother => hle other (mem_cons_of_mem _ hother)]

theorem insertList_of_forall_le {value : V} {list : List (K × V)}
    (hle : ∀ entry ∈ list, entry.1 ≤ key) :
    insertList key value list = list ++ [(key, value)] := by
  have happend := @insertList_append_of_le K V _ key value list [] hle
  rwa [append_nil, insertList] at happend

variable (map : Multimap K V)

def insert (key : K) (value : V) : Multimap K V :=
  ⟨insertList key value map.entries, insertList_sorted key value map.sorted⟩

@[simp]
theorem entries_insert (key : K) (value : V) :
    (map.insert key value).entries = insertList key value map.entries := rfl

def insertAll (range : List (K × V)) : Multimap K V :=
  range.foldl (fun map entry => map.insert entry.1 entry.2) map

@[simp]
theorem insertAll_nil : map.insertAll [] = map := rfl

@[simp]
theorem insertAll_cons (entry : K × V) (range : List (K × V)) :
    map.insertAll (entry :: range) = (map.insert entry.1 entry.2).insertAll range := rfl

variable {range : List (K × V)}

theorem entries_insertAll_of_sorted {map : Multimap K V}
    (hrange : range.Pairwise fun first second => first.1 ≤ second.1)
    (hle : ∀ entry ∈ map.entries, ∀ other ∈ range, entry.1 ≤ other.1) :
    (map.insertAll range).entries = map.entries ++ range := by
  induction range generalizing map with
  | nil => simp
  | cons entry rest ih =>
    rw [pairwise_cons] at hrange
    have hinsert : insertList entry.1 entry.2 map.entries = map.entries ++ [entry] :=
      insertList_of_forall_le fun other hother => hle other hother entry mem_cons_self
    rw [insertAll_cons, ih hrange.2, entries_insert, hinsert, append_assoc, singleton_append]
    intro other hother next hnext
    rw [entries_insert, hinsert, mem_append, mem_singleton] at hother
    rcases hother with hold | rfl
    · exact hle other hold next (mem_cons_of_mem _ hnext)
    · exact hrange.1 next hnext

theorem eraseP_insertList {value : V} {list : List (K × V)} {drop : K × V → Bool}
    (hnew : drop (key, value) = false) (hdrop : ∀ entry ∈ list, drop entry = true → entry.1 ≤ key) :
    (insertList key value list).eraseP drop = insertList key value (list.eraseP drop) := by
  induction list with
  | nil => simp [insertList, hnew]
  | cons entry rest ih =>
    have hrest := ih fun other hother => hdrop other (mem_cons_of_mem _ hother)
    by_cases hlt : key < entry.1
    · have hentry : drop entry = false := by
        by_contra htrue
        exact (hdrop entry mem_cons_self (by simpa using htrue)).not_gt hlt
      simp [insertList, hlt, hnew, hentry]
    · cases hentry : drop entry with
      | true => simp [insertList, hlt, hentry]
      | false => simp [insertList, hlt, hentry, hrest]

def ofSublist (list : List (K × V))
    (hsub : list.Sublist map.entries) : Multimap K V :=
  ⟨list, map.sorted.sublist hsub⟩

/-- What a loop leaves that erases every entry outside `keep`. -/
def filter (keep : K × V → Bool) : Multimap K V :=
  map.ofSublist (map.entries.filter keep) filter_sublist

@[simp]
theorem entries_filter (keep : K × V → Bool) :
    (map.filter keep).entries = map.entries.filter keep := rfl

/-- Erases the first entry, in iteration order, that satisfies a predicate. -/
def eraseFirst (drop : K × V → Bool) : Multimap K V :=
  map.ofSublist (map.entries.eraseP drop) eraseP_sublist

@[simp]
theorem entries_eraseFirst (drop : K × V → Bool) :
    (map.eraseFirst drop).entries = map.entries.eraseP drop := rfl

def eraseAt (it : ℕ) : Multimap K V :=
  map.ofSublist (map.entries.eraseIdx it) (eraseIdx_sublist _ _)

@[simp]
theorem entries_eraseAt (it : ℕ) : (map.eraseAt it).entries = map.entries.eraseIdx it := rfl

/-- `map.erase(map.begin())`. -/
def popFront : Multimap K V :=
  map.ofSublist map.entries.tail (tail_sublist _)

@[simp]
theorem entries_popFront : map.popFront.entries = map.entries.tail := rfl

/-- `map.begin()->second = value`. -/
def setFront (value : V) : Multimap K V where
  entries := map.entries.head?.elim [] fun entry => (entry.1, value) :: map.entries.tail
  sorted := by
    have hsorted := map.sorted
    cases hentries : map.entries with
    | nil => exact List.Pairwise.nil
    | cons entry rest =>
      rw [hentries, pairwise_cons] at hsorted
      exact pairwise_cons.mpr hsorted

variable {rest : List (K × V)}

theorem entries_setFront {map : Multimap K V} (hentries : map.entries = entry :: rest) (value : V) :
    (map.setFront value).entries = (entry.1, value) :: rest := by
  unfold setFront
  dsimp only
  rw [hentries]
  rfl

theorem tail_insertList_of_le {value : V} (hle : entry.1 ≤ key) :
    (insertList key value (entry :: rest)).tail = insertList key value rest := by
  rw [insertList, if_neg (not_lt.mpr hle), tail_cons]

theorem tail_insertList_of_lt {value : V} (hlt : key < entry.1) :
    (insertList key value (entry :: rest)).tail = entry :: rest := by
  rw [insertList, if_pos hlt, tail_cons]

variable {keep : K × V → Bool}

theorem filter_insertList_of_neg {value : V} (hkeep : keep (key, value) = false)
    (list : List (K × V)) : (insertList key value list).filter keep = list.filter keep := by
  induction list with
  | nil => simp [insertList, hkeep]
  | cons entry rest ih =>
    by_cases hlt : key < entry.1
    · simp [insertList, hlt, filter_cons, hkeep]
    · simp [insertList, hlt, filter_cons, ih]

section

variable {value : V} (hkeep : keep (key, value) = true) {list : List (K × V)}
include hkeep

theorem filter_insertList_of_nil (hnil : list.filter keep = []) :
    (insertList key value list).filter keep = [(key, value)] := by
  have hperm := (insertList_perm key value list).filter keep
  rw [filter_cons, if_pos hkeep, hnil] at hperm
  exact perm_singleton.mp hperm

theorem filter_insertList_of_pos (hsorted : list.Pairwise fun first second => first.1 ≤ second.1) :
    (insertList key value list).filter keep = insertList key value (list.filter keep) := by
  induction list with
  | nil => simp [insertList, hkeep]
  | cons entry rest ih =>
    rw [pairwise_cons] at hsorted
    by_cases hlt : key < entry.1
    · have hfront : ∀ kept : List (K × V), (∀ other ∈ kept, key < other.1) →
          insertList key value kept = (key, value) :: kept := by
        intro kept hkept
        cases kept with
        | nil => rfl
        | cons other rest => rw [insertList, if_pos (hkept other mem_cons_self)]
      rw [insertList, if_pos hlt, filter_cons_of_pos hkeep]
      symm
      apply hfront
      intro other hother
      rcases mem_cons.mp (mem_of_mem_filter hother) with rfl | hrest
      · exact hlt
      · exact hlt.trans_le (hsorted.1 other hrest)
    · rw [insertList, if_neg hlt]
      cases hentry : keep entry with
      | true =>
        rw [filter_cons_of_pos hentry, filter_cons_of_pos hentry, insertList,
          if_neg hlt, ih hsorted.2]
      | false =>
        have hdrop : ¬ keep entry = true := by simp [hentry]
        rw [filter_cons_of_neg hdrop, filter_cons_of_neg hdrop, ih hsorted.2]

end

theorem insertAll_perm (range : List (K × V)) :
    (map.insertAll range).entries.Perm (map.entries ++ range) := by
  induction range generalizing map with
  | nil => rw [insertAll_nil, append_nil]
  | cons entry rest ih =>
    have hentry := (insertList_perm entry.1 entry.2 map.entries).append_right rest
    exact (ih _).trans (hentry.trans perm_middle.symm)

theorem sublist_insertAll (range : List (K × V)) :
    map.entries.Sublist (map.insertAll range).entries := by
  induction range generalizing map with
  | nil => exact List.Sublist.refl _
  | cons entry rest ih =>
    have hentry := sublist_insertList entry.1 entry.2 map.entries
    exact hentry.trans (ih (map.insert entry.1 entry.2))

theorem filter_insertAll_of_neg (hrange : ∀ entry ∈ range, keep entry = false) :
    (map.insertAll range).entries.filter keep = map.entries.filter keep := by
  induction range generalizing map with
  | nil => rfl
  | cons entry rest ih =>
    rw [insertAll_cons, ih _ fun other hother => hrange other (mem_cons_of_mem _ hother),
      entries_insert, filter_insertList_of_neg (hrange entry mem_cons_self)]

end Multimap

end AzerothCore
