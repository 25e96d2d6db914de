import Mathlib.Algebra.Order.Ring.Int
import Mathlib.Data.List.Nodup
import Mathlib.Data.List.Perm.Basic

/-!
# Ids that are handed out again

Ids that are given back wait in a queue, and a new id is the first of them. If the queue is
empty, the new id is one above the highest id so far. The highest id itself is given back by
going down with it, so that the queue never holds an id above it.
-/

namespace AzerothCore
open List

structure IdPool where
  /-- The ids that were given back. -/
  free : List ℤ
  /-- The highest id so far. -/
  max : ℤ

namespace IdPool

def take (pool : IdPool) : ℤ × IdPool :=
  match pool.free with
  | [] => (pool.max + 1, { pool with max := pool.max + 1 })
  | id :: free => (id, { pool with free := free })

def give (pool : IdPool) (id : ℤ) : IdPool :=
  if id = pool.max then { pool with max := pool.max - 1 }
  else { pool with free := pool.free ++ [id] }

structure Serves (pool : IdPool) (used : List ℤ) : Prop where
  used_nodup : used.Nodup
  used_le : ∀ id ∈ used, id ≤ pool.max
  free_nodup : pool.free.Nodup
  free_le : ∀ id ∈ pool.free, id ≤ pool.max
  free_unused : ∀ id ∈ pool.free, id ∉ used

/-- Only positive ids are handed out. -/
structure Positive (pool : IdPool) : Prop where
  max : 0 ≤ pool.max
  free : ∀ id ∈ pool.free, 0 < id

variable {pool : IdPool} {used : List ℤ} {id : ℤ}

theorem Serves.perm {other : List ℤ} (hserves : pool.Serves used) (hperm : used.Perm other) :
    pool.Serves other where
  used_nodup := hperm.nodup_iff.mp hserves.used_nodup
  used_le id hid := hserves.used_le id (hperm.mem_iff.mpr hid)
  free_nodup := hserves.free_nodup
  free_le := hserves.free_le
  free_unused id hid hused := hserves.free_unused id hid (hperm.mem_iff.mpr hused)

theorem Serves.sublist {other : List ℤ} (hserves : pool.Serves used)
    (hsub : other.Sublist used) : pool.Serves other where
  used_nodup := hserves.used_nodup.sublist hsub
  used_le id hid := hserves.used_le id (hsub.subset hid)
  free_nodup := hserves.free_nodup
  free_le := hserves.free_le
  free_unused id hid hused := hserves.free_unused id hid (hsub.subset hused)

theorem take_eq (pool : IdPool) :
    (pool.free = [] ∧ pool.take = (pool.max + 1, ⟨[], pool.max + 1⟩)) ∨
      ∃ id free, pool.free = id :: free ∧ pool.take = (id, ⟨free, pool.max⟩) := by
  obtain ⟨free, max⟩ := pool
  cases free with
  | nil => exact .inl ⟨rfl, rfl⟩
  | cons id free => exact .inr ⟨id, free, rfl, rfl⟩

theorem Serves.take_unused (hserves : pool.Serves used) : pool.take.1 ∉ used := by
  obtain ⟨-, htake⟩ | ⟨id, free, hfree, htake⟩ := pool.take_eq
  · intro hused
    have hle := hserves.used_le _ hused
    rw [htake] at hle
    omega
  · rw [htake]
    exact hserves.free_unused id (hfree ▸ mem_cons_self)

theorem Serves.take (hserves : pool.Serves used) : pool.take.2.Serves (pool.take.1 :: used) := by
  have hunused := hserves.take_unused
  have hnodup : (pool.take.1 :: used).Nodup := nodup_cons.mpr ⟨hunused, hserves.used_nodup⟩
  obtain ⟨-, htake⟩ | ⟨id, free, hfree, htake⟩ := pool.take_eq
  · rw [htake] at hnodup ⊢
    refine ⟨hnodup, ?_, nodup_nil, forall_mem_nil _, forall_mem_nil _⟩
    intro id hid
    rcases mem_cons.mp hid with rfl | hused
    · exact le_rfl
    have hle := hserves.used_le id hused
    show id ≤ pool.max + 1
    omega
  · have hfreeNodup := hserves.free_nodup
    rw [hfree, nodup_cons] at hfreeNodup
    have hrest : ∀ other ∈ free, other ∈ pool.free := fun other hother =>
      hfree ▸ mem_cons_of_mem _ hother
    rw [htake] at hnodup ⊢
    refine ⟨hnodup, ?_, hfreeNodup.2, fun other hother => hserves.free_le other (hrest _ hother),
      ?_⟩
    · intro other hother
      rcases mem_cons.mp hother with rfl | hused
      · exact hserves.free_le other (hfree ▸ mem_cons_self)
      · exact hserves.used_le other hused
    · intro other hother hused
      rcases mem_cons.mp hused with rfl | hused
      · exact hfreeNodup.1 hother
      · exact hserves.free_unused other (hrest _ hother) hused

theorem Serves.give (hserves : pool.Serves (id :: used)) : (pool.give id).Serves used := by
  obtain ⟨hnew, hnodup⟩ := nodup_cons.mp hserves.used_nodup
  have hused : ∀ other ∈ used, other ≤ pool.max ∧ other ≠ id := fun other hother =>
    ⟨hserves.used_le other (mem_cons_of_mem _ hother), fun heq => hnew (heq ▸ hother)⟩
  have hfree : ∀ other ∈ pool.free, other ≤ pool.max ∧ other ≠ id ∧ other ∉ used :=
    fun other hother => ⟨hserves.free_le other hother,
      fun heq => hserves.free_unused other hother (heq ▸ mem_cons_self),
      fun hin => hserves.free_unused other hother (mem_cons_of_mem _ hin)⟩
  unfold IdPool.give
  split
  case isTrue hmax =>
    refine ⟨hnodup, fun other hother => ?_, hserves.free_nodup, fun other hother => ?_,
      fun other hother => (hfree other hother).2.2⟩
    · have := hused other hother
      show other ≤ pool.max - 1
      omega
    · have := hfree other hother
      show other ≤ pool.max - 1
      omega
  case isFalse hmax =>
    refine ⟨hnodup, fun other hother => (hused other hother).1, ?_, ?_, ?_⟩
    · refine nodup_append.mpr ⟨hserves.free_nodup, nodup_singleton id, ?_⟩
      intro other hother last hlast heq
      rw [mem_singleton] at hlast
      exact (hfree other hother).2.1 (heq.trans hlast)
    · intro other hother
      rcases mem_append.mp hother with hold | hlast
      · exact (hfree other hold).1
      · rw [mem_singleton.mp hlast]
        exact hserves.used_le id mem_cons_self
    · intro other hother
      rcases mem_append.mp hother with hold | hlast
      · exact (hfree other hold).2.2
      · rw [mem_singleton.mp hlast]
        exact hnew

theorem Positive.take (hpos : pool.Positive) : 0 < pool.take.1 ∧ pool.take.2.Positive := by
  obtain ⟨-, htake⟩ | ⟨id, free, hfree, htake⟩ := pool.take_eq
  · have hmax := hpos.max
    rw [htake]
    refine ⟨?_, ?_, forall_mem_nil _⟩
    · omega
    · show 0 ≤ pool.max + 1
      omega
  · rw [htake]
    refine ⟨hpos.free id (hfree ▸ mem_cons_self), hpos.max, fun other hother => ?_⟩
    exact hpos.free other (hfree ▸ mem_cons_of_mem _ hother)

theorem Positive.give (hpos : pool.Positive) (hid : 0 < id) : (pool.give id).Positive := by
  unfold IdPool.give
  split
  case isTrue hmax =>
    refine ⟨?_, hpos.free⟩
    show 0 ≤ pool.max - 1
    omega
  case isFalse =>
    refine ⟨hpos.max, fun other hother => ?_⟩
    rcases mem_append.mp hother with hold | hlast
    · exact hpos.free other hold
    · rw [mem_singleton.mp hlast]
      exact hid

/-! ## Starting from ids in use -/

/-- The highest of some ids, and 0 if there is none. -/
def highest (ids : List ℤ) : ℤ := ids.foldl Max.max 0

theorem foldl_max_le (ids : List ℤ) (start : ℤ) :
    start ≤ ids.foldl Max.max start ∧ ∀ id ∈ ids, id ≤ ids.foldl Max.max start := by
  induction ids generalizing start with
  | nil => exact ⟨le_rfl, forall_mem_nil _⟩
  | cons head rest ih =>
    obtain ⟨hstart, hrest⟩ := ih (Max.max start head)
    refine ⟨(le_max_left _ _).trans hstart, fun id hid => ?_⟩
    rcases mem_cons.mp hid with rfl | hid
    · exact (le_max_right _ _).trans hstart
    · exact hrest id hid

variable (inUse : ℤ → Bool)

def gaps (max : ℤ) : List ℤ :=
  ((List.range' 1 (max.toNat - 1)).map Int.ofNat).filter fun id => !inUse id

theorem mem_gaps {inUse : ℤ → Bool} {max : ℤ} :
    id ∈ gaps inUse max ↔ (1 ≤ id ∧ id < max) ∧ inUse id = false := by
  have hrange : id ∈ (List.range' 1 (max.toNat - 1)).map Int.ofNat ↔ 1 ≤ id ∧ id < max := by
    simp only [mem_map, mem_range'_1]
    constructor
    · simp only [Int.ofNat_eq_natCast]
      omega
    · intro hbounds
      refine ⟨id.toNat, ?_, ?_⟩
      · omega
      · exact Int.toNat_of_nonneg (by omega)
  rw [gaps, mem_filter, hrange, Bool.not_eq_true']

theorem gaps_nodup (max : ℤ) : (gaps inUse max).Nodup :=
  (List.Nodup.map (fun _ _ heq => Int.ofNat.inj heq) (nodup_range' _ (by decide))).filter _

theorem serves_gaps {inUse : ℤ → Bool} (hnodup : used.Nodup)
    (hinUse : ∀ id ∈ used, inUse id = true) :
    (⟨gaps inUse (highest used), highest used⟩ : IdPool).Serves used where
  used_nodup := hnodup
  used_le := (foldl_max_le used 0).2
  free_nodup := gaps_nodup _ _
  free_le _ hid := (mem_gaps.mp hid).1.2.le
  free_unused id hid hused := by
    have hfree := (mem_gaps.mp hid).2
    rw [hinUse id hused] at hfree
    cases hfree

theorem positive_gaps (used : List ℤ) :
    (⟨gaps inUse (highest used), highest used⟩ : IdPool).Positive where
  max := (foldl_max_le used 0).1
  free id hid := by
    have hbounds := (mem_gaps.mp hid).1
    omega

end IdPool

end AzerothCore
