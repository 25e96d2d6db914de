import Mathlib.Algebra.BigOperators.Group.Finset.Basic
import Mathlib.Algebra.GroupWithZero.Nat

/-!
# Pouring a quantity into places

A quantity is put into places one after the other, as much into each as fits,
until nothing is left. A place that was used before is passed over, so a place
may be offered more than once.
-/

namespace AzerothCore.Pouring
open List

variable {K : Type*}

/-- What went into each place, and what is left. -/
structure Poured (K : Type*) where
  taken : List (K × ℕ)
  left : ℕ

def places (taken : List (K × ℕ)) : List K := taken.map Prod.fst

def amount (taken : List (K × ℕ)) : ℕ := (taken.map Prod.snd).sum

variable (first second : List (K × ℕ))

@[simp]
theorem places_append : places (first ++ second) = places first ++ places second := map_append

namespace Poured

variable (poured : Poured K)

def put (place : K) (room : ℕ) : Poured K where
  taken := poured.taken ++ [(place, min room poured.left)]
  left := poured.left - min room poured.left

def total : ℕ := amount poured.taken + poured.left

theorem places_put (place : K) (room : ℕ) :
    places (poured.put place room).taken = places poured.taken ++ [place] := by
  simp [put, places]

theorem amount_put (place : K) (room : ℕ) :
    amount (poured.put place room).taken = amount poured.taken + min room poured.left := by
  simp [put, amount]

end Poured

structure Pours (fits : K → ℕ → Prop) (before after : Poured K) : Prop where
  total : after.total = before.total
  nodup : (places before.taken).Nodup → (places after.taken).Nodup
  fits : ∀ entry ∈ after.taken, entry ∈ before.taken ∨ fits entry.1 entry.2

theorem Pours.refl (fits : K → ℕ → Prop) (poured : Poured K) : Pours fits poured poured :=
  ⟨rfl, id, fun _ hmem => .inl hmem⟩

theorem Pours.trans {fits : K → ℕ → Prop} {first second third : Poured K}
    (hfirst : Pours fits first second) (hsecond : Pours fits second third) :
    Pours fits first third where
  total := hsecond.total.trans hfirst.total
  nodup hnodup := hsecond.nodup (hfirst.nodup hnodup)
  fits entry hmem := by
    rcases hsecond.fits entry hmem with hbefore | hfits
    · exact hfirst.fits entry hbefore
    · exact .inr hfits

theorem Pours.amount_add_left {fits : K → ℕ → Prop} {after : Poured K} {quantity : ℕ}
    (hpours : Pours fits ⟨[], quantity⟩ after) : amount after.taken + after.left = quantity := by
  have htotal := hpours.total
  simpa [Poured.total, amount] using htotal

theorem Pours.put {fits : K → ℕ → Prop} {poured : Poured K} {place : K} {room : ℕ}
    (hplace : place ∉ places poured.taken) (hfits : fits place (min room poured.left)) :
    Pours fits poured (poured.put place room) where
  total := by
    rw [Poured.total, Poured.amount_put, Poured.total, Poured.put]
    dsimp only
    omega
  nodup hnodup := by
    rw [Poured.places_put]
    refine nodup_append'.mpr ⟨hnodup, nodup_singleton place, ?_⟩
    simpa using hplace
  fits entry hmem := by
    rcases mem_append.mp hmem with hbefore | hnew
    · exact .inl hbefore
    · rw [mem_singleton] at hnew
      exact .inr (hnew ▸ hfits)

variable [DecidableEq K]

def pour : List (K × ℕ) → Poured K → Poured K
  | [], poured => poured
  | (place, room) :: offers, poured =>
    if place ∈ places poured.taken then pour offers poured
    else if (poured.put place room).left = 0 then poured.put place room
    else pour offers (poured.put place room)

theorem pours_pour {fits : K → ℕ → Prop} {offers : List (K × ℕ)}
    (hfits : ∀ place room, (place, room) ∈ offers → ∀ count ≤ room, fits place count)
    (poured : Poured K) : Pours fits poured (pour offers poured) := by
  induction offers generalizing poured with
  | nil => exact Pours.refl fits poured
  | cons offer offers ih =>
    obtain ⟨place, room⟩ := offer
    have hrest := ih fun place room hmem => hfits place room (mem_cons_of_mem _ hmem)
    by_cases hplace : place ∈ places poured.taken
    · simpa [pour, hplace] using hrest poured
    have hput : Pours fits poured (poured.put place room) :=
      Pours.put hplace (hfits place room mem_cons_self _ (Nat.min_le_left _ _))
    by_cases hleft : (poured.put place room).left = 0
    · simpa [pour, hplace, hleft] using hput
    · simpa [pour, hplace, hleft] using hput.trans (hrest _)

/-! ## How much there is room for -/

def capacity : List (K × ℕ) → List K → ℕ
  | [], _ => 0
  | (place, room) :: offers, used =>
    if place ∈ used then capacity offers used
    else room + capacity offers (used ++ [place])

variable (offers : List (K × ℕ))

theorem amount_pour (poured : Poured K) : amount (pour offers poured).taken =
      amount poured.taken + min poured.left (capacity offers (places poured.taken)) := by
  induction offers generalizing poured with
  | nil => simp [pour, capacity]
  | cons offer offers ih =>
    obtain ⟨place, room⟩ := offer
    by_cases hplace : place ∈ places poured.taken
    · simpa [pour, capacity, hplace] using ih poured
    have hleft : (poured.put place room).left = poured.left - min room poured.left := rfl
    by_cases hzero : (poured.put place room).left = 0
    · simp only [pour, capacity, hplace, hzero, if_true, if_false, Poured.amount_put]
      omega
    simp only [pour, capacity, hplace, hzero, if_false, ih, Poured.amount_put, Poured.places_put]
    omega

theorem left_pour (poured : Poured K) :
    (pour offers poured).left = poured.left - capacity offers (places poured.taken) := by
  have htotal := (@pours_pour K _ (fun _ _ => True) offers (fun _ _ _ _ _ => trivial) poured).total
  have hamount := amount_pour offers poured
  rw [Poured.total, Poured.total] at htotal
  omega

theorem places_subset_pour (poured : Poured K) :
    places poured.taken ⊆ places (pour offers poured).taken := by
  induction offers generalizing poured with
  | nil => exact fun _ hplace => hplace
  | cons offer offers ih =>
    obtain ⟨place, room⟩ := offer
    have hput : places poured.taken ⊆ places (poured.put place room).taken := by
      rw [Poured.places_put]
      exact subset_append_left _ _
    rw [pour]
    split_ifs
    · exact ih poured
    · exact hput
    · exact fun other hother => ih _ (hput hother)

theorem mem_places_pour_cons (place : K) (room : ℕ) (offers : List (K × ℕ)) (poured : Poured K) :
    place ∈ places (pour ((place, room) :: offers) poured).taken := by
  have hput : place ∈ places (poured.put place room).taken := by
    rw [Poured.places_put]
    exact mem_append_right _ (mem_singleton_self place)
  rw [pour]
  split_ifs with hplace hzero
  · exact places_subset_pour offers poured hplace
  · exact hput
  · exact places_subset_pour offers _ hput

theorem capacity_eq_sum {offers : List (K × ℕ)} {room : K → ℕ}
    (hroom : ∀ offer ∈ offers, offer.2 = room offer.1) (used : List K) :
    capacity offers used = ∑ place ∈ (places offers).toFinset \ used.toFinset, room place := by
  induction offers generalizing used with
  | nil => simp [capacity, places]
  | cons offer offers ih =>
    obtain ⟨place, free⟩ := offer
    have hrest := ih fun other hother => hroom other (mem_cons_of_mem _ hother)
    have hplaces : (places ((place, free) :: offers)).toFinset =
        insert place (places offers).toFinset := toFinset_cons
    rw [capacity, hplaces]
    split_ifs with hused
    · rw [Finset.insert_sdiff_of_mem _ (mem_toFinset.mpr hused)]
      exact hrest used
    · have hfree : free = room place := hroom _ mem_cons_self
      have hsplit : insert place (places offers).toFinset \ used.toFinset =
          insert place ((places offers).toFinset \ (used ++ [place]).toFinset) := by
        ext other
        by_cases hother : other = place
        · simp [hother, hused]
        · simp [hother]
      rw [hsplit, Finset.sum_insert, hrest, hfree]
      simp

theorem pour_append {poured : Poured K}
    (hleft : poured.left ≠ 0) :
    pour (first ++ second) poured =
      if (pour first poured).left = 0 then pour first poured
      else pour second (pour first poured) := by
  induction first generalizing poured with
  | nil => simp [pour, hleft]
  | cons offer first ih =>
    obtain ⟨place, room⟩ := offer
    by_cases hplace : place ∈ places poured.taken
    · simpa [pour, hplace] using ih hleft
    by_cases hzero : (poured.put place room).left = 0
    · simp [pour, hplace, hzero]
    · simpa [pour, hplace, hzero] using ih hzero

end AzerothCore.Pouring
