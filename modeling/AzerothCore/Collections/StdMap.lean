import Mathlib.Algebra.BigOperators.Group.List.Basic
import Mathlib.Algebra.GroupWithZero.Nat
import Mathlib.Data.List.Nodup
import Mathlib.Order.Lattice

/-!
# Ordered maps

`std::map` iterates in increasing key order and several algorithms below depend
on that order, so the model is the list of the entries in iteration order. The
strict order of the keys is a field: a map with a repeated key cannot be built.
-/

namespace AzerothCore
open List

/-- The entries of a `std::map`, in iteration order. -/
structure StdMap (K V : Type*) [LinearOrder K] where
  entries : List (K × V)
  sorted : (entries.map Prod.fst).Pairwise (· < ·)

namespace StdMap

variable {K V W : Type*} [LinearOrder K]

theorem ext_entries {left right : StdMap K V}
    (hentries : left.entries = right.entries) : left = right := by
  cases left
  cases hentries
  rfl

instance [DecidableEq V] : DecidableEq (StdMap K V) := fun left right =>
  decidable_of_iff (left.entries = right.entries)
    ⟨ext_entries, fun heq => congrArg entries heq⟩

def empty : StdMap K V := ⟨[], List.Pairwise.nil⟩

instance : Inhabited (StdMap K V) := ⟨empty⟩

def size (map : StdMap K V) : ℕ := map.entries.length

def keys (map : StdMap K V) : List K := map.entries.map Prod.fst

theorem keys_nodup (map : StdMap K V) : map.keys.Nodup := map.sorted.imp fun hlt => ne_of_lt hlt

def findList (key : K) : List (K × V) → Option V
  | [] => none
  | entry :: rest =>
    if entry.1 = key then some entry.2 else findList key rest

/-- `map.find(key)->second`, or `none` for `map.end()`. -/
def find? (map : StdMap K V) (key : K) : Option V := findList key map.entries

instance : Membership K (StdMap K V) := ⟨fun map key => key ∈ map.keys⟩

variable {key other : K} {map : StdMap K V} {list : List (K × V)} {value : V}

theorem mem_def : key ∈ map ↔ key ∈ map.keys := Iff.rfl

instance (key : K) (map : StdMap K V) : Decidable (key ∈ map) :=
  inferInstanceAs (Decidable (key ∈ map.keys))

theorem findList_eq_none_iff : findList key list = none ↔ key ∉ list.map Prod.fst := by
  induction list with
  | nil => simp [findList]
  | cons entry rest ih =>
    by_cases hkey : entry.1 = key
    · simp [findList, hkey]
    · simp only [findList, hkey, if_false, ih, map_cons, mem_cons, not_or]
      exact ⟨fun hrest => ⟨fun heq => hkey heq.symm, hrest⟩, fun hboth => hboth.2⟩

theorem mem_of_findList (hfind : findList key list = some value) : (key, value) ∈ list := by
  induction list with
  | nil => simp [findList] at hfind
  | cons entry rest ih =>
    by_cases hkey : entry.1 = key
    · simp only [findList, hkey, if_true, Option.some.injEq] at hfind
      simp [← hkey, ← hfind]
    · simp only [findList, hkey, if_false] at hfind
      exact mem_cons_of_mem _ (ih hfind)

theorem findList_of_mem (hnodup : (list.map Prod.fst).Nodup) (hmem : (key, value) ∈ list) :
    findList key list = some value := by
  induction list with
  | nil => simp at hmem
  | cons entry rest ih =>
    rw [map_cons, nodup_cons] at hnodup
    rcases mem_cons.mp hmem with heq | hrest
    · simp [findList, ← heq]
    have hne : entry.1 ≠ key := by
      intro heq
      exact hnodup.1 (heq ▸ mem_map_of_mem hrest)
    simp [findList, hne, ih hnodup.2 hrest]

theorem find?_eq_none_iff : map.find? key = none ↔ key ∉ map := findList_eq_none_iff

theorem find?_eq_some_iff : map.find? key = some value ↔ (key, value) ∈ map.entries :=
  ⟨mem_of_findList, findList_of_mem map.keys_nodup⟩

theorem mem_iff_find? : key ∈ map ↔ ∃ value, map.find? key = some value := by
  rw [← not_iff_not, ← find?_eq_none_iff, Option.eq_none_iff_forall_ne_some]
  simp

theorem mem_of_find? (hfind : map.find? key = some value) : key ∈ map :=
  mem_iff_find?.mpr ⟨value, hfind⟩

@[simp]
theorem find?_empty (key : K) : (empty : StdMap K V).find? key = none := rfl

@[simp]
theorem not_mem_empty (key : K) : key ∉ (empty : StdMap K V) := by
  simp [mem_def, keys, empty]

theorem ext_find? {left right : StdMap K V}
    (hfind : ∀ key, left.find? key = right.find? key) : left = right := by
  have hmem : ∀ entry, entry ∈ left.entries ↔ entry ∈ right.entries := by
    rintro ⟨key, value⟩
    rw [← find?_eq_some_iff, ← find?_eq_some_iff, hfind]
  have horder : ∀ map : StdMap K V,
      map.entries.Pairwise fun first second => first.1 < second.1 := fun map =>
    pairwise_map.mp map.sorted
  have hnodup : ∀ map : StdMap K V, map.entries.Nodup := fun map =>
    List.Nodup.of_map _ map.keys_nodup
  have hperm : left.entries.Perm right.entries :=
    (perm_ext_iff_of_nodup (hnodup left) (hnodup right)).mpr hmem
  refine ext_entries (hperm.eq_of_pairwise ?_ (horder left) (horder right))
  intro first second _ _ hlt hgt
  exact absurd hlt hgt.asymm

/-! ## Assignment, `map[key] = value` -/

def insertList (key : K) (value : V) : List (K × V) → List (K × V)
  | [] => [(key, value)]
  | entry :: rest =>
    if key < entry.1 then (key, value) :: entry :: rest
    else if key = entry.1 then (key, value) :: rest
    else entry :: insertList key value rest

theorem mem_keys_insertList : other ∈ (insertList key value list).map Prod.fst ↔
      other = key ∨ other ∈ list.map Prod.fst := by
  induction list with
  | nil => simp [insertList]
  | cons entry rest ih =>
    by_cases hlt : key < entry.1
    · simp [insertList, hlt]
    by_cases heq : key = entry.1
    · simp [insertList, heq]
    · simp only [insertList, hlt, heq, if_false, map_cons, mem_cons, ih]
      tauto

theorem insertList_sorted (hsorted : (list.map Prod.fst).Pairwise (· < ·)) :
    ((insertList key value list).map Prod.fst).Pairwise (· < ·) := by
  induction list with
  | nil => simp [insertList]
  | cons entry rest ih =>
    rw [map_cons, pairwise_cons] at hsorted
    by_cases hlt : key < entry.1
    · simp only [insertList, hlt, if_true, map_cons, pairwise_cons]
      refine ⟨?_, hsorted⟩
      intro other hother
      rcases mem_cons.mp hother with rfl | hrest
      · exact hlt
      · exact hlt.trans (hsorted.1 other hrest)
    by_cases heq : key = entry.1
    · simp only [insertList, heq, if_true, if_false, lt_irrefl, map_cons, pairwise_cons]
      exact hsorted
    · have hgt : entry.1 < key := lt_of_le_of_ne (not_lt.mp hlt) (Ne.symm heq)
      simp only [insertList, hlt, heq, if_false, map_cons, pairwise_cons]
      refine ⟨?_, ih hsorted.2⟩
      intro other hother
      rcases mem_keys_insertList.mp hother with rfl | hrest
      · exact hgt
      · exact hsorted.1 other hrest

theorem findList_insertList : findList other (insertList key value list) =
      if key = other then some value else findList other list := by
  induction list with
  | nil => simp [insertList, findList]
  | cons entry rest ih =>
    by_cases hlt : key < entry.1
    · simp [insertList, findList, hlt]
    by_cases heq : key = entry.1
    · by_cases hother : entry.1 = other <;>
        simp [insertList, findList, heq, hother]
    simp only [insertList, hlt, heq, if_false, findList, ih]
    by_cases hentry : entry.1 = other
    · have hkey : key ≠ other := fun h => heq (h.trans hentry.symm)
      simp [hentry, hkey]
    · simp [hentry]

def insert (map : StdMap K V) (key : K) (value : V) : StdMap K V :=
  ⟨insertList key value map.entries, insertList_sorted map.sorted⟩

theorem find?_insert (map : StdMap K V) (key other : K) (value : V) :
    (map.insert key value).find? other =
      if key = other then some value else map.find? other :=
  findList_insertList

@[simp]
theorem find?_insert_self (map : StdMap K V) (key : K) (value : V) :
    (map.insert key value).find? key = some value := by
  simp [find?_insert]

@[simp]
theorem mem_insert : other ∈ map.insert key value ↔ other = key ∨ other ∈ map := mem_keys_insertList

theorem keys_insert_of_mem (value : V) (hmem : key ∈ map) :
    (map.insert key value).keys = map.keys := by
  have hperm : (map.insert key value).keys.Perm map.keys := by
    rw [perm_ext_iff_of_nodup (keys_nodup _) (keys_nodup _)]
    intro other
    rw [← mem_def, ← mem_def, mem_insert]
    constructor
    · rintro (rfl | hother)
      · exact hmem
      · exact hother
    · exact .inr
  apply hperm.eq_of_pairwise _ (map.insert key value).sorted map.sorted
  intro first second _ _ hlt hgt
  exact absurd hlt hgt.asymm

theorem size_insert_of_mem (value : V) (hmem : key ∈ map) :
    (map.insert key value).size = map.size := by
  have hlen := congrArg List.length (keys_insert_of_mem value hmem)
  unfold keys at hlen
  rw [length_map, length_map] at hlen
  exact hlen

/-! ## Erasure, `map.erase(key)` -/

def erase (map : StdMap K V) (key : K) : StdMap K V where
  entries := map.entries.filter fun entry => entry.1 ≠ key
  sorted := map.sorted.sublist (filter_sublist.map Prod.fst)

theorem find?_erase (map : StdMap K V) (key other : K) :
    (map.erase key).find? other = if key = other then none else map.find? other := by
  by_cases heq : key = other
  · rw [if_pos heq, find?_eq_none_iff]
    simp [mem_def, keys, erase, heq]
  rw [if_neg heq]
  refine Option.ext fun value => ?_
  rw [find?_eq_some_iff, find?_eq_some_iff]
  simp only [erase, mem_filter, decide_eq_true_eq, ne_eq, and_iff_left_iff_imp]
  exact fun _ => Ne.symm heq

@[simp]
theorem find?_erase_self (map : StdMap K V) (key : K) : (map.erase key).find? key = none := by
  simp [find?_erase]

@[simp]
theorem mem_erase : other ∈ map.erase key ↔ other ≠ key ∧ other ∈ map := by
  simp only [mem_iff_find?, find?_erase]
  by_cases heq : key = other
  · simp [heq]
  · simp [heq, Ne.symm heq]

theorem perm_of_find? (hfind : map.find? key = some value) :
    map.entries.Perm ((key, value) :: (map.erase key).entries) := by
  have hmem := find?_eq_some_iff.mp hfind
  have hnodup : map.entries.Nodup := List.Nodup.of_map _ map.keys_nodup
  refine (perm_ext_iff_of_nodup hnodup ?_).mpr ?_
  · refine nodup_cons.mpr ⟨?_, hnodup.filter _⟩
    simp [erase]
  · rintro ⟨other, found⟩
    simp only [mem_cons, erase, mem_filter, decide_eq_true_eq, ne_eq, Prod.mk.injEq]
    constructor
    · intro hother
      by_cases heq : other = key
      · subst other
        have hfound := find?_eq_some_iff.mpr hother
        rw [hfind, Option.some.injEq] at hfound
        exact .inl ⟨rfl, hfound.symm⟩
      · exact .inr ⟨hother, heq⟩
    · rintro (⟨rfl, rfl⟩ | ⟨hother, -⟩)
      · exact hmem
      · exact hother

theorem erase_of_not_mem (hmem : key ∉ map) : map.erase key = map := by
  refine ext_find? fun other => ?_
  rw [find?_erase]
  by_cases heq : key = other
  · rw [if_pos heq, ← heq, find?_eq_none_iff.mpr hmem]
  · rw [if_neg heq]

theorem insert_of_find? (hfind : map.find? key = some value) : map.insert key value = map := by
  refine ext_find? fun other => ?_
  rw [find?_insert]
  by_cases heq : key = other
  · rw [if_pos heq, ← heq, hfind]
  · rw [if_neg heq]

@[simp]
theorem insert_insert_self (map : StdMap K V) (key : K) (value value' : V) :
    (map.insert key value).insert key value' = map.insert key value' := by
  refine ext_find? fun other => ?_
  rw [find?_insert, find?_insert, find?_insert]
  by_cases heq : key = other <;> simp [heq]

@[simp]
theorem erase_insert_self (map : StdMap K V) (key : K) (value : V) :
    (map.insert key value).erase key = map.erase key := by
  refine ext_find? fun other => ?_
  rw [find?_erase, find?_erase, find?_insert]
  by_cases heq : key = other <;> simp [heq]

theorem insert_erase_self (map : StdMap K V) (key : K) (value : V) :
    (map.erase key).insert key value = map.insert key value := by
  apply ext_find?
  intro other
  rw [find?_insert, find?_insert, find?_erase]
  split <;> rfl

theorem insert_perm (map : StdMap K V) (key : K) (value : V) : (map.insert key value).entries.Perm
      ((key, value) :: (map.erase key).entries) := by
  have hperm := perm_of_find? (find?_insert_self map key value)
  rwa [erase_insert_self] at hperm

theorem size_insert_of_not_mem (value : V) (hmem : key ∉ map) :
    (map.insert key value).size = map.size + 1 := by
  rw [size, (map.insert_perm key value).length_eq, erase_of_not_mem hmem, length_cons, size]

theorem size_erase_of_mem (hmem : key ∈ map) : (map.erase key).size + 1 = map.size := by
  obtain ⟨value, hfind⟩ := mem_iff_find?.mp hmem
  rw [size, size, (perm_of_find? hfind).length_eq, length_cons]

def countValues (map : StdMap K V) (p : V → Bool) : ℕ :=
  map.entries.countP fun entry => p entry.2

theorem countValues_le_size (map : StdMap K V) (p : V → Bool) : map.countValues p ≤ map.size :=
  countP_le_length

theorem countValues_erase (p : V → Bool) (hfind : map.find? key = some value) :
    (map.erase key).countValues p + (if p value then 1 else 0) = map.countValues p := by
  rw [countValues, countValues, (perm_of_find? hfind).countP_eq, countP_cons]

theorem countValues_insert (map : StdMap K V) (key : K) (value : V) (p : V → Bool) :
    (map.insert key value).countValues p =
      (map.erase key).countValues p + (if p value then 1 else 0) := by
  rw [countValues, countValues, (map.insert_perm key value).countP_eq, countP_cons]

theorem countValues_eq_zero_iff {p : V → Bool} :
    map.countValues p = 0 ↔ ∀ entry ∈ map.entries, p entry.2 = false := by
  rw [countValues, countP_eq_zero]
  simp

theorem countValues_eq_countP (map : StdMap K V) (p : V → Bool) :
    map.countValues p = map.keys.countP fun key => (map.find? key).any p := by
  rw [countValues, keys, countP_map]
  apply countP_congr
  intro entry hentry
  rw [Function.comp, find?_eq_some_iff.mpr hentry]
  rfl

/-! ## Sums over the values -/

def sumValues (map : StdMap K V) (f : V → ℕ) : ℕ :=
  (map.entries.map fun entry => f entry.2).sum

theorem sumValues_insert (map : StdMap K V) (key : K) (value : V) (f : V → ℕ) :
    (map.insert key value).sumValues f = f value + (map.erase key).sumValues f := by
  rw [sumValues, ((map.insert_perm key value).map _).sum_eq, map_cons, sum_cons,
    sumValues]

theorem sumValues_erase (f : V → ℕ) (hfind : map.find? key = some value) :
    f value + (map.erase key).sumValues f = map.sumValues f := by
  rw [← sumValues_insert, insert_of_find? hfind]

theorem sumValues_insert_of_not_mem (value : V) (f : V → ℕ) (hfind : map.find? key = none) :
    (map.insert key value).sumValues f = f value + map.sumValues f := by
  rw [sumValues_insert, erase_of_not_mem (find?_eq_none_iff.mp hfind)]

theorem sumValues_congr {f g : V → ℕ}
    (hcongr : ∀ key value, map.find? key = some value → f value = g value) :
    map.sumValues f = map.sumValues g := by
  refine congrArg List.sum (map_congr_left fun entry hmem => ?_)
  exact hcongr entry.1 entry.2 (find?_eq_some_iff.mpr hmem)

theorem sumValues_add (map : StdMap K V) (f g : V → ℕ) :
    map.sumValues (fun value => f value + g value) = map.sumValues f + map.sumValues g := by
  exact sum_map_add

/-! ## Values that are lists -/

def members (map : StdMap K V) (f : V → List W) : List W :=
  map.entries.flatMap fun entry => f entry.2

theorem members_insert (map : StdMap K V) (key : K) (value : V) (f : V → List W) :
    ((map.insert key value).members f).Perm (f value ++ (map.erase key).members f) := by
  refine ((map.insert_perm key value).flatMap_right _).trans ?_
  rw [flatMap_cons, members]

theorem members_of_find? (f : V → List W) (hfind : map.find? key = some value) :
    (map.members f).Perm (f value ++ (map.erase key).members f) := by
  have hinsert := map.members_insert key value f
  rwa [insert_of_find? hfind] at hinsert

/-! ## Updating the values in place -/

def mapValues (map : StdMap K V) (f : K → V → W) : StdMap K W where
  entries := map.entries.map fun entry => (entry.1, f entry.1 entry.2)
  sorted := by
    rw [map_map]
    exact map.sorted

@[simp]
theorem keys_mapValues (map : StdMap K V) (f : K → V → W) : (map.mapValues f).keys = map.keys := by
  simp only [keys, mapValues, map_map]
  rfl

@[simp]
theorem mem_mapValues {f : K → V → W} : key ∈ map.mapValues f ↔ key ∈ map := by
  rw [mem_def, keys_mapValues, ← mem_def]

@[simp]
theorem find?_mapValues (map : StdMap K V) (f : K → V → W) (key : K) :
    (map.mapValues f).find? key = (map.find? key).map (f key) := by
  rcases hfind : map.find? key with _ | value
  · rw [Option.map_none, find?_eq_none_iff, mem_mapValues]
    exact find?_eq_none_iff.mp hfind
  rw [Option.map_some, find?_eq_some_iff]
  exact mem_map_of_mem (f := fun entry : K × V => (entry.1, f entry.1 entry.2))
    (find?_eq_some_iff.mp hfind)

end StdMap

end AzerothCore
