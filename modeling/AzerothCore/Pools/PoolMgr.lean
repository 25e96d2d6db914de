import AzerothCore.Collections.Reachability
import AzerothCore.Collections.StdMap
import AzerothCore.Common.Define
import Mathlib.Algebra.Order.Ring.Unbundled.Rat
import Mathlib.Data.Finset.Card
import Mathlib.Data.Nat.Pairing

/-!
# Pools of spawns

A pool has members, which are creatures, game objects or other pools, and it keeps
as many of them spawned as its limit says. When a member is to respawn, the pool
spawns another one and the member goes. Quest pools and what happens on the maps
are left out, and chances are exact numbers.
-/

namespace AzerothCore.Pools

/-- The template argument of the code. -/
inductive PoolType
  | Creature
  | GameObject
  | Pool
deriving DecidableEq

structure ActivePoolData where
  mSpawnedCreatures : Finset ℕ
  mSpawnedGameobjects : Finset ℕ
  mSpawnedPools : StdMap ℕ ℕ

namespace ActivePoolData

variable (spawns : ActivePoolData)

def empty : ActivePoolData := ⟨∅, ∅, StdMap.empty⟩

def GetActiveObjectCount (pool_id : ℕ) : ℕ := (spawns.mSpawnedPools.find? pool_id).getD 0

def IsActiveObject : PoolType → ℕ → Bool
  | .Creature, db_guid => db_guid ∈ spawns.mSpawnedCreatures
  | .GameObject, db_guid => db_guid ∈ spawns.mSpawnedGameobjects
  | .Pool, sub_pool_id => (spawns.mSpawnedPools.find? sub_pool_id).isSome

/-- `++mSpawnedPools[pool_id]` -/
def countUp (pool_id : ℕ) : ActivePoolData :=
  { spawns with
    mSpawnedPools := spawns.mSpawnedPools.insert pool_id (spawns.GetActiveObjectCount pool_id + 1) }

def countDown (pool_id : ℕ) : ActivePoolData :=
  { spawns with
    mSpawnedPools := spawns.mSpawnedPools.insert pool_id (spawns.GetActiveObjectCount pool_id - 1) }

def ActivateObject : PoolType → ℕ → ℕ → ActivePoolData
  | .Creature, db_guid, pool_id =>
    { spawns with mSpawnedCreatures := insert db_guid spawns.mSpawnedCreatures }.countUp pool_id
  | .GameObject, db_guid, pool_id =>
    { spawns with mSpawnedGameobjects := insert db_guid spawns.mSpawnedGameobjects }.countUp pool_id
  | .Pool, sub_pool_id, pool_id =>
    { spawns with mSpawnedPools := spawns.mSpawnedPools.insert sub_pool_id 0 }.countUp pool_id

def RemoveObject : PoolType → ℕ → ℕ → ActivePoolData
  | .Creature, db_guid, pool_id =>
    { spawns with mSpawnedCreatures := spawns.mSpawnedCreatures.erase db_guid }.countDown pool_id
  | .GameObject, db_guid, pool_id =>
    { spawns with
      mSpawnedGameobjects := spawns.mSpawnedGameobjects.erase db_guid }.countDown pool_id
  | .Pool, sub_pool_id, pool_id =>
    { spawns with mSpawnedPools := spawns.mSpawnedPools.erase sub_pool_id }.countDown pool_id

end ActivePoolData

/-- The draws of a part of the code, apart from those of the other parts. -/
def stream (rolls : ℕ → ℕ) (part : ℕ) : ℕ → ℕ := fun draw => rolls (Nat.pair part draw)

def urand (roll min max : ℕ) : ℕ := min + roll % (max - min + 1)

def rand_chance (roll : ℕ) : ℚ := ((roll % 2 ^ 32 : ℕ) : ℚ) * 100 / 2 ^ 32

/-- The loop of `RandomResize`. -/
def keepElements {α : Type*} (rolls : ℕ → ℕ) : ℕ → List α → List α
  | _, [] => []
  | elementsToKeep, element :: rest =>
    if urand (rolls rest.length) 1 (rest.length + 1) ≤ elementsToKeep then
      element :: keepElements rolls (elementsToKeep - 1) rest
    else keepElements rolls elementsToKeep rest

def RandomResize {α : Type*} (rolls : ℕ → ℕ) (container : List α) (requestedSize : ℕ) : List α :=
  if container.length ≤ requestedSize then container
  else keepElements rolls requestedSize container

/-! ## The members of a pool -/

structure PoolObject where
  guid : ℕ
  chance : ℚ

structure PoolGroup where
  poolId : ℕ
  ExplicitlyChanced : List PoolObject
  EqualChanced : List PoolObject

structure OneObject where
  Spawn1Object : (ℕ → ℕ) → ℕ → ActivePoolData → ActivePoolData
  Despawn1Object : ℕ → ActivePoolData → ActivePoolData

/-- Creatures and game objects only change the maps. -/
def OneObject.onMap : OneObject := ⟨fun _ _ spawns => spawns, fun _ spawns => spawns⟩

namespace PoolGroup

variable (group : PoolGroup)

def IsEmpty : Bool := group.ExplicitlyChanced.isEmpty && group.EqualChanced.isEmpty

def members : List PoolObject := group.EqualChanced ++ group.ExplicitlyChanced

/-- One round of the loops of `DespawnObject`. -/
def despawnMember (T : PoolType) (one : OneObject) (poolId guid : ℕ) (spawns : ActivePoolData)
    (obj : PoolObject) : ActivePoolData :=
  if spawns.IsActiveObject T obj.guid ∧ (guid = 0 ∨ obj.guid = guid) then
    (one.Despawn1Object obj.guid spawns).RemoveObject T obj.guid poolId
  else spawns

def DespawnObject (T : PoolType) (one : OneObject) (spawns : ActivePoolData) (guid : ℕ) :
    ActivePoolData :=
  group.members.foldl (despawnMember T one group.poolId guid) spawns

def rollExplicit (active : ℕ → Bool) : ℚ → List PoolObject → List PoolObject
  | _, [] => []
  | roll, obj :: rest =>
    if roll - obj.chance < 0 ∧ !active obj.guid then [obj]
    else rollExplicit active (roll - obj.chance) rest

def rolledObjects (active : ℕ → Bool) (rolls : ℕ → ℕ) (count : ℕ) : List PoolObject :=
  let chosen := rollExplicit active (rand_chance (rolls 0)) group.ExplicitlyChanced
  if chosen.isEmpty then
    RandomResize (stream rolls 1) (group.EqualChanced.filter fun obj => !active obj.guid) count
  else chosen

/-- The loop that spawns what was rolled, and the trigger if it was not among it. -/
def spawnRolled (T : PoolType) (one : OneObject) (poolId : ℕ) (rolls : ℕ → ℕ) :
    List PoolObject → ActivePoolData → ℕ → ActivePoolData × ℕ
  | [], spawns, triggerFrom => (spawns, triggerFrom)
  | obj :: rest, spawns, triggerFrom =>
    if obj.guid = triggerFrom then spawnRolled T one poolId rolls rest spawns 0
    else
      spawnRolled T one poolId rolls rest
        (one.Spawn1Object (stream rolls rest.length) obj.guid
          (spawns.ActivateObject T obj.guid poolId)) triggerFrom

def spawnCount (spawns : ActivePoolData) (limit triggerFrom : ℕ) : ℤ :=
  let count := int32 (limit - spawns.GetActiveObjectCount group.poolId)
  if triggerFrom ≠ 0 then count + 1 else count

def toSpawn (T : PoolType) (rolls : ℕ → ℕ) (spawns : ActivePoolData) (count : ℤ) :
    List PoolObject :=
  if 0 < count then group.rolledObjects (spawns.IsActiveObject T) rolls count.toNat else []

def SpawnObject (T : PoolType) (one : OneObject) (rolls : ℕ → ℕ) (spawns : ActivePoolData)
    (limit triggerFrom : ℕ) : ActivePoolData :=
  let rolled := group.toSpawn T (stream rolls 0) spawns (group.spawnCount spawns limit triggerFrom)
  let spawned := spawnRolled T one group.poolId (stream rolls 1) rolled spawns triggerFrom
  if spawned.2 ≠ 0 then group.DespawnObject T one spawned.1 spawned.2 else spawned.1

end PoolGroup

structure PoolMgr where
  /-- The limit of a pool. -/
  mPoolTemplate : StdMap ℕ ℕ
  mPoolCreatureGroups : StdMap ℕ PoolGroup
  mPoolGameobjectGroups : StdMap ℕ PoolGroup
  mPoolPoolGroups : StdMap ℕ PoolGroup
  /-- The mother pool of a pool. -/
  mPoolSearchMap : StdMap ℕ ℕ

namespace PoolMgr

variable (mgr : PoolMgr)

def MaxLimit (pool_id : ℕ) : ℕ := uint32 ((mgr.mPoolTemplate.find? pool_id).getD 0)

def groups : PoolType → StdMap ℕ PoolGroup
  | .Creature => mgr.mPoolCreatureGroups
  | .GameObject => mgr.mPoolGameobjectGroups
  | .Pool => mgr.mPoolPoolGroups

def groupOf (T : PoolType) (pool_id : ℕ) : Option PoolGroup :=
  ((mgr.groups T).find? pool_id).filter fun group => !group.IsEmpty

/-- `SpawnPool<T>` -/
def SpawnPoolOf (T : PoolType) (one : OneObject) (rolls : ℕ → ℕ) (pool_id db_guid : ℕ)
    (spawns : ActivePoolData) : ActivePoolData :=
  (mgr.groupOf T pool_id).elim spawns fun group =>
    group.SpawnObject T one rolls spawns (mgr.MaxLimit pool_id) db_guid

def despawnGroup (T : PoolType) (one : OneObject) (pool_id : ℕ) (spawns : ActivePoolData) :
    ActivePoolData :=
  (mgr.groupOf T pool_id).elim spawns fun group => group.DespawnObject T one spawns 0

/-- Pools are in pools without a cycle, and `depth` is how far down they go. -/
def DespawnPool : ℕ → ℕ → ActivePoolData → ActivePoolData
  | 0, _, spawns => spawns
  | depth + 1, pool_id, spawns =>
    mgr.despawnGroup .Pool ⟨fun _ _ spawns => spawns, DespawnPool depth⟩ pool_id
      (mgr.despawnGroup .GameObject .onMap pool_id
        (mgr.despawnGroup .Creature .onMap pool_id spawns))

def SpawnPool : ℕ → (ℕ → ℕ) → ℕ → ActivePoolData → ActivePoolData
  | 0, _, _, spawns => spawns
  | depth + 1, rolls, pool_id, spawns =>
    mgr.SpawnPoolOf .Creature .onMap (stream rolls 2) pool_id 0
      (mgr.SpawnPoolOf .GameObject .onMap (stream rolls 1) pool_id 0
        (mgr.SpawnPoolOf .Pool ⟨SpawnPool depth, mgr.DespawnPool depth⟩ (stream rolls 0)
          pool_id 0 spawns))

def oneObject (depth : ℕ) : PoolType → OneObject
  | .Creature => .onMap
  | .GameObject => .onMap
  | .Pool => ⟨mgr.SpawnPool depth, mgr.DespawnPool depth⟩

/-- `IsPartOfAPool<Pool>` -/
def IsPartOfAPool (pool_id : ℕ) : ℕ := (mgr.mPoolSearchMap.find? pool_id).getD 0

def UpdatePool (depth : ℕ) (rolls : ℕ → ℕ) (T : PoolType) (pool_id db_guid : ℕ)
    (spawns : ActivePoolData) : ActivePoolData :=
  if mgr.IsPartOfAPool pool_id ≠ 0 then
    mgr.SpawnPoolOf .Pool (mgr.oneObject depth .Pool) rolls (mgr.IsPartOfAPool pool_id) pool_id
      spawns
  else mgr.SpawnPoolOf T (mgr.oneObject depth T) rolls pool_id db_guid spawns

end PoolMgr

end AzerothCore.Pools

/-! ## How many members are spawned -/

namespace AzerothCore.Pools

open List Option Nat StdMap
open Reachability

variable {T K : PoolType} {spawns after : ActivePoolData} {guid poolId pool : ℕ}

theorem urand_bounds (roll n : ℕ) : 1 ≤ urand roll 1 (n + 1) ∧ urand roll 1 (n + 1) ≤ n + 1 := by
  have hlt : roll % (n + 1 - 1 + 1) < n + 1 - 1 + 1 := mod_lt _ (succ_pos _)
  unfold urand
  omega

section RandomResize

variable {α : Type*} (rolls : ℕ → ℕ)

theorem keepElements_sublist (elementsToKeep : ℕ) (container : List α) :
    (keepElements rolls elementsToKeep container).Sublist container := by
  induction container generalizing elementsToKeep with
  | nil => exact List.Sublist.refl _
  | cons element rest ih =>
    unfold keepElements
    split
    · exact (ih _).cons_cons _
    · exact (ih _).cons _

theorem keepElements_length {elementsToKeep : ℕ} {container : List α}
    (hle : elementsToKeep ≤ container.length) :
    (keepElements rolls elementsToKeep container).length = elementsToKeep := by
  induction container generalizing elementsToKeep with
  | nil => exact (le_zero.mp hle).symm
  | cons element rest ih =>
    obtain ⟨hpos, hmax⟩ := urand_bounds (rolls rest.length) rest.length
    rw [length_cons] at hle
    unfold keepElements
    split
    case isFalse hdropped => exact ih (by omega)
    rename_i hkept
    rw [length_cons, ih (by omega)]
    omega

theorem RandomResize_sublist (container : List α) (requestedSize : ℕ) :
    (RandomResize rolls container requestedSize).Sublist container := by
  unfold RandomResize
  split
  · exact List.Sublist.refl _
  · exact keepElements_sublist ..

theorem RandomResize_length (container : List α) (requestedSize : ℕ) :
    (RandomResize rolls container requestedSize).length = min requestedSize container.length := by
  unfold RandomResize
  split
  case isTrue hle => exact (Nat.min_eq_right hle).symm
  rename_i hlt
  have hle : requestedSize ≤ container.length := by omega
  exact (keepElements_length rolls hle).trans (Nat.min_eq_left hle).symm

end RandomResize

namespace ActivePoolData

theorem GetActiveObjectCount_countUp (spawns : ActivePoolData) (pool_id pool : ℕ) :
    (spawns.countUp pool_id).GetActiveObjectCount pool =
      spawns.GetActiveObjectCount pool + if pool_id = pool then 1 else 0 := by
  unfold countUp
  rw [GetActiveObjectCount]
  rw [find?_insert]
  by_cases heq : pool_id = pool
  · rw [if_pos heq, if_pos heq, heq, getD_some]
  · rw [if_neg heq, if_neg heq, Nat.add_zero]
    rfl

theorem GetActiveObjectCount_countDown (spawns : ActivePoolData) (pool_id pool : ℕ) :
    (spawns.countDown pool_id).GetActiveObjectCount pool =
      spawns.GetActiveObjectCount pool - if pool_id = pool then 1 else 0 := by
  unfold countDown
  rw [GetActiveObjectCount]
  rw [find?_insert]
  by_cases heq : pool_id = pool
  · rw [if_pos heq, if_pos heq, heq, getD_some]
  · rw [if_neg heq, if_neg heq, Nat.sub_zero]
    rfl

theorem IsActiveObject_ActivateObject (hkind : K ≠ .Pool) (other : ℕ) :
    (spawns.ActivateObject T guid poolId).IsActiveObject K other = true ↔
      spawns.IsActiveObject K other = true ∨ T = K ∧ other = guid := by
  by_cases hsame : T = K
  · subst hsame
    rw [and_iff_right rfl]
    cases T with
    | Pool => exact absurd rfl hkind
    | Creature | GameObject =>
      refine decide_eq_true_iff.trans (Finset.mem_insert.trans (or_comm.trans ?_))
      exact or_congr_left decide_eq_true_iff.symm
  · rw [or_iff_left fun hboth => hsame hboth.1]
    cases K with
    | Pool => exact absurd rfl hkind
    | Creature =>
      cases T with
      | Creature => exact absurd rfl hsame
      | GameObject => exact Iff.rfl
      | Pool => exact Iff.rfl
    | GameObject =>
      cases T with
      | Creature => exact Iff.rfl
      | GameObject => exact absurd rfl hsame
      | Pool => exact Iff.rfl

theorem IsActiveObject_RemoveObject (hkind : K ≠ .Pool) (other : ℕ) :
    (spawns.RemoveObject T guid poolId).IsActiveObject K other = true ↔
      spawns.IsActiveObject K other = true ∧ ¬(T = K ∧ other = guid) := by
  by_cases hsame : T = K
  · subst hsame
    rw [and_iff_right rfl]
    cases T with
    | Pool => exact absurd rfl hkind
    | Creature | GameObject =>
      refine decide_eq_true_iff.trans (Finset.mem_erase.trans (and_comm.trans ?_))
      exact and_congr_left fun _ => decide_eq_true_iff.symm
  · rw [and_iff_left fun hboth => hsame hboth.1]
    cases K with
    | Pool => exact absurd rfl hkind
    | Creature =>
      cases T with
      | Creature => exact absurd rfl hsame
      | GameObject => exact Iff.rfl
      | Pool => exact Iff.rfl
    | GameObject =>
      cases T with
      | Creature => exact Iff.rfl
      | GameObject => exact absurd rfl hsame
      | Pool => exact Iff.rfl

theorem GetActiveObjectCount_ActivateObject (hother : T = .Pool → guid ≠ pool) :
    (spawns.ActivateObject T guid poolId).GetActiveObjectCount pool =
      spawns.GetActiveObjectCount pool + if poolId = pool then 1 else 0 := by
  cases T with
  | Creature | GameObject => exact GetActiveObjectCount_countUp ..
  | Pool =>
    refine (GetActiveObjectCount_countUp ..).trans ?_
    unfold GetActiveObjectCount
    rw [find?_insert, if_neg (hother rfl)]

theorem GetActiveObjectCount_RemoveObject (hother : T = .Pool → guid ≠ pool) :
    (spawns.RemoveObject T guid poolId).GetActiveObjectCount pool =
      spawns.GetActiveObjectCount pool - if poolId = pool then 1 else 0 := by
  cases T with
  | Creature | GameObject => exact GetActiveObjectCount_countDown ..
  | Pool =>
    refine (GetActiveObjectCount_countDown ..).trans ?_
    unfold GetActiveObjectCount
    rw [find?_erase, if_neg (hother rfl)]

end ActivePoolData

structure Untouched (K : PoolType) (pool : ℕ) (members : List ℕ)
    (before after : ActivePoolData) : Prop where
  count : after.GetActiveObjectCount pool = before.GetActiveObjectCount pool
  active : ∀ guid ∈ members, after.IsActiveObject K guid = before.IsActiveObject K guid

namespace Untouched

variable {members : List ℕ} {before next : ActivePoolData}

theorem refl (spawns : ActivePoolData) : Untouched K pool members spawns spawns :=
  ⟨rfl, fun _ _ => rfl⟩

theorem trans (hfirst : Untouched K pool members before next)
    (hsecond : Untouched K pool members next after) : Untouched K pool members before after where
  count := hsecond.count.trans hfirst.count
  active guid hguid := (hsecond.active guid hguid).trans (hfirst.active guid hguid)

theorem foldl {β : Type*} {f : ActivePoolData → β → ActivePoolData} {list : List β}
    (hstep : ∀ spawns, ∀ element ∈ list, Untouched K pool members spawns (f spawns element))
    (spawns : ActivePoolData) : Untouched K pool members spawns (list.foldl f spawns) := by
  induction list generalizing spawns with
  | nil => exact refl spawns
  | cons element list ih =>
    refine (hstep spawns element mem_cons_self).trans (ih ?_ _)
    exact fun spawns other hother => hstep spawns other (mem_cons_of_mem _ hother)

end Untouched

def Elsewhere (K : PoolType) (pool : ℕ) (members : List ℕ) (T : PoolType) (guid : ℕ) : Prop :=
  (T = .Pool → guid ≠ pool) ∧ (T = K → guid ∉ members)

section Frame

variable {members : List ℕ} {group : PoolGroup} {one : OneObject}

section

variable (hkind : K ≠ .Pool) (hpool : poolId ≠ pool) (helse : Elsewhere K pool members T guid)
include hkind hpool helse

theorem untouched_ActivateObject :
    Untouched K pool members spawns (spawns.ActivateObject T guid poolId) where
  count := by
    rw [ActivePoolData.GetActiveObjectCount_ActivateObject helse.1, if_neg hpool, Nat.add_zero]
  active other hother := by
    rw [Bool.eq_iff_iff, ActivePoolData.IsActiveObject_ActivateObject hkind]
    refine or_iff_left ?_
    rintro ⟨hsame, rfl⟩
    exact helse.2 hsame hother

theorem untouched_RemoveObject :
    Untouched K pool members spawns (spawns.RemoveObject T guid poolId) where
  count := by
    rw [ActivePoolData.GetActiveObjectCount_RemoveObject helse.1, if_neg hpool, Nat.sub_zero]
  active other hother := by
    rw [Bool.eq_iff_iff, ActivePoolData.IsActiveObject_RemoveObject hkind]
    refine and_iff_left ?_
    rintro ⟨hsame, rfl⟩
    exact helse.2 hsame hother

end

structure Apart (K : PoolType) (pool : ℕ) (members : List ℕ) (T : PoolType)
    (one : OneObject) : Prop where
  spawn : ∀ rolls guid spawns, Elsewhere K pool members T guid →
    Untouched K pool members spawns (one.Spawn1Object rolls guid spawns)
  despawn : ∀ guid spawns, Elsewhere K pool members T guid →
    Untouched K pool members spawns (one.Despawn1Object guid spawns)

theorem apart_onMap : Apart K pool members T .onMap :=
  ⟨fun _ _ spawns _ => .refl spawns, fun _ spawns _ => .refl spawns⟩

theorem DespawnObject_untouched (hkind : K ≠ .Pool) (hpool : group.poolId ≠ pool)
    (helse : ∀ obj ∈ group.members, Elsewhere K pool members T obj.guid)
    (hone : Apart K pool members T one) (trigger : ℕ) :
    Untouched K pool members spawns (group.DespawnObject T one spawns trigger) := by
  refine Untouched.foldl ?_ spawns
  intro spawns obj hobj
  unfold PoolGroup.despawnMember
  split
  case isFalse => exact .refl spawns
  exact (hone.despawn _ _ (helse obj hobj)).trans
    (untouched_RemoveObject hkind hpool (helse obj hobj))

theorem spawnRolled_untouched (hkind : K ≠ .Pool) (hpool : poolId ≠ pool) (rolls : ℕ → ℕ)
    {rolled : List PoolObject}
    (helse : ∀ obj ∈ rolled, Elsewhere K pool members T obj.guid)
    (hone : Apart K pool members T one) (spawns : ActivePoolData) (triggerFrom : ℕ) :
    Untouched K pool members spawns
      (PoolGroup.spawnRolled T one poolId rolls rolled spawns triggerFrom).1 := by
  induction rolled generalizing spawns triggerFrom with
  | nil => exact .refl spawns
  | cons obj rest ih =>
    have hrest := ih fun other hother => helse other (mem_cons_of_mem _ hother)
    have hobj := helse obj mem_cons_self
    unfold PoolGroup.spawnRolled
    split
    · exact hrest spawns 0
    exact ((untouched_ActivateObject hkind hpool hobj).trans (hone.spawn _ _ _ hobj)).trans
      (hrest _ _)

variable {active : ℕ → Bool}

theorem mem_rollExplicit {roll : ℚ} {list : List PoolObject} {obj : PoolObject}
    (hmem : obj ∈ PoolGroup.rollExplicit active roll list) : obj ∈ list := by
  induction list generalizing roll with
  | nil => cases hmem
  | cons other list ih =>
    unfold PoolGroup.rollExplicit at hmem
    split at hmem
    · exact mem_singleton.mp hmem ▸ mem_cons_self
    · exact mem_cons_of_mem _ (ih hmem)

theorem mem_rolledObjects {rolls : ℕ → ℕ} {count : ℕ} {obj : PoolObject}
    (hmem : obj ∈ group.rolledObjects active rolls count) : obj ∈ group.members := by
  unfold PoolGroup.rolledObjects at hmem
  dsimp only at hmem
  split at hmem
  case isFalse => exact mem_append_right _ (mem_rollExplicit hmem)
  have hequal := (RandomResize_sublist _ _ _).subset hmem
  exact mem_append_left _ (mem_of_mem_filter hequal)

theorem SpawnObject_untouched (hkind : K ≠ .Pool) (hpool : group.poolId ≠ pool)
    (helse : ∀ obj ∈ group.members, Elsewhere K pool members T obj.guid)
    (hone : Apart K pool members T one) (rolls : ℕ → ℕ) (limit triggerFrom : ℕ) :
    Untouched K pool members spawns
      (group.SpawnObject T one rolls spawns limit triggerFrom) := by
  unfold PoolGroup.SpawnObject
  dsimp only
  have hmembers : ∀ count, ∀ obj ∈ group.toSpawn T (stream rolls 0) spawns count,
      Elsewhere K pool members T obj.guid := by
    intro count obj hmem
    unfold PoolGroup.toSpawn at hmem
    split at hmem
    · exact helse obj (mem_rolledObjects hmem)
    · cases hmem
  have hspawned := spawnRolled_untouched hkind hpool (stream rolls 1)
    (hmembers (group.spawnCount spawns limit triggerFrom)) hone spawns triggerFrom
  split
  · exact hspawned.trans (DespawnObject_untouched hkind hpool helse hone _)
  · exact hspawned

end Frame

end AzerothCore.Pools

/-!
## A pool that is full stays full

The pool has creatures only, or game objects only, and all of them are equally
likely. It is filled at startup. When a member is to respawn, the number of its
members that are spawned stays as it is if there is one that is not, and goes down
by one otherwise.
-/

namespace AzerothCore.Pools

open List
open Reachability

variable {mgr : PoolMgr} {T K : PoolType} {spawns : ActivePoolData} {pool depth : ℕ}
  {group : PoolGroup}

namespace PoolGroup

def guids (group : PoolGroup) : List ℕ := group.EqualChanced.map PoolObject.guid

def activeMembers (group : PoolGroup) (K : PoolType) (spawns : ActivePoolData) : ℕ :=
  (group.guids.filter (spawns.IsActiveObject K)).length

end PoolGroup

/-- A pool of equally likely creatures, or of equally likely game objects, that is in no
other pool. Each of its members is in this pool only. -/
structure StandAlone (mgr : PoolMgr) (K : PoolType) (pool : ℕ) (group : PoolGroup) : Prop where
  kind : K ≠ .Pool
  found : (mgr.groups K).find? pool = some group
  equal : group.ExplicitlyChanced = []
  nodup : group.guids.Nodup
  positive : 0 ∉ group.guids
  only : ∀ T, T ≠ K → mgr.groupOf T pool = none
  ids : ∀ T other found, (mgr.groups T).find? other = some found → found.poolId = other
  once : ∀ other found, (mgr.groups K).find? other = some found → other ≠ pool →
    ∀ obj ∈ found.members, obj.guid ∉ group.guids
  noChild : ∀ other found, (mgr.groups .Pool).find? other = some found →
    ∀ obj ∈ found.members, obj.guid ≠ pool
  noMother : mgr.IsPartOfAPool pool = 0

section Others

variable {other : ℕ} {one : OneObject}

theorem find?_of_groupOf {found : PoolGroup} (hfound : mgr.groupOf T other = some found) :
    (mgr.groups T).find? other = some found :=
  (Option.filter_eq_some_iff.mp hfound).1

section

variable (hpool : StandAlone mgr K pool group)
include hpool

theorem StandAlone.elsewhere {found : PoolGroup}
    (hfound : mgr.groupOf T other = some found) (hother : other ≠ pool) :
    found.poolId ≠ pool ∧ ∀ obj ∈ found.members, Elsewhere K pool group.guids T obj.guid := by
  have hfind := find?_of_groupOf hfound
  refine ⟨hpool.ids T other found hfind ▸ hother, fun obj hobj => ⟨?_, ?_⟩⟩
  · rintro rfl
    exact hpool.noChild other found hfind obj hobj
  · rintro rfl
    exact hpool.once other found hfind hother obj hobj

theorem SpawnPoolOf_untouched
    (hother : T = K → other ≠ pool) (hone : Apart K pool group.guids T one) (rolls : ℕ → ℕ)
    (trigger : ℕ) :
    Untouched K pool group.guids spawns (mgr.SpawnPoolOf T one rolls other trigger spawns) := by
  unfold PoolMgr.SpawnPoolOf
  rcases hfound : mgr.groupOf T other with _ | found
  · exact .refl spawns
  have hne : other ≠ pool := by
    rintro rfl
    by_cases hsame : T = K
    · exact hother hsame rfl
    · exact nomatch (hpool.only T hsame).symm.trans hfound
  obtain ⟨hid, hmembers⟩ := hpool.elsewhere hfound hne
  exact SpawnObject_untouched hpool.kind hid hmembers hone rolls _ trigger

theorem despawnGroup_untouched (hother : other ≠ pool)
    (hone : Apart K pool group.guids T one) :
    Untouched K pool group.guids spawns (mgr.despawnGroup T one other spawns) := by
  unfold PoolMgr.despawnGroup
  cases hfound : mgr.groupOf T other with
  | none => exact .refl spawns
  | some found =>
    obtain ⟨hid, hmembers⟩ := hpool.elsewhere hfound hother
    exact DespawnObject_untouched hpool.kind hid hmembers hone 0

theorem DespawnPool_untouched (depth : ℕ) {other : ℕ}
    (hother : other ≠ pool) (spawns : ActivePoolData) :
    Untouched K pool group.guids spawns (mgr.DespawnPool depth other spawns) := by
  induction depth generalizing other spawns with
  | zero => exact .refl spawns
  | succ depth ih =>
    have hone : Apart K pool group.guids .Pool
        ⟨fun _ _ spawns => spawns, mgr.DespawnPool depth⟩ :=
      ⟨fun _ _ spawns _ => .refl spawns, fun guid spawns helse => ih (helse.1 rfl) spawns⟩
    have hcreatures := @despawnGroup_untouched mgr .Creature K spawns pool group other _ hpool
      hother apart_onMap
    exact (hcreatures.trans (despawnGroup_untouched hpool hother apart_onMap)).trans
      (despawnGroup_untouched hpool hother hone)

theorem SpawnPool_untouched (depth : ℕ) {other : ℕ}
    (hother : other ≠ pool) (rolls : ℕ → ℕ) (spawns : ActivePoolData) :
    Untouched K pool group.guids spawns (mgr.SpawnPool depth rolls other spawns) := by
  induction depth generalizing other rolls spawns with
  | zero => exact .refl spawns
  | succ depth ih =>
    have hone : Apart K pool group.guids .Pool
        ⟨mgr.SpawnPool depth, mgr.DespawnPool depth⟩ :=
      ⟨fun rolls guid spawns helse => ih (helse.1 rfl) rolls spawns,
        fun guid spawns helse => DespawnPool_untouched hpool depth (helse.1 rfl) spawns⟩
    have hpools := @SpawnPoolOf_untouched mgr .Pool K spawns pool group other _ hpool
      (fun _ => hother) hone (stream rolls 0) 0
    exact (hpools.trans (SpawnPoolOf_untouched hpool (fun _ => hother) apart_onMap _ _)).trans
      (SpawnPoolOf_untouched hpool (fun _ => hother) apart_onMap _ _)

theorem apart_oneObject (depth : ℕ) (T : PoolType) :
    Apart K pool group.guids T (mgr.oneObject depth T) := by
  cases T with
  | Creature | GameObject => exact apart_onMap
  | Pool =>
    exact ⟨fun rolls guid spawns helse => SpawnPool_untouched hpool depth (helse.1 rfl) rolls
      spawns, fun guid spawns helse => DespawnPool_untouched hpool depth (helse.1 rfl) spawns⟩

theorem UpdatePool_untouched (hother : T = K → other ≠ pool) (rolls : ℕ → ℕ) (trigger : ℕ) :
    Untouched K pool group.guids spawns
      (mgr.UpdatePool depth rolls T other trigger spawns) := by
  unfold PoolMgr.UpdatePool
  split
  case isFalse =>
    exact SpawnPoolOf_untouched hpool hother (apart_oneObject hpool depth T) rolls trigger
  refine SpawnPoolOf_untouched hpool ?_ (apart_oneObject hpool depth .Pool) rolls other
  exact fun hkind => absurd hkind.symm hpool.kind

end

theorem Untouched.activeMembers {after : ActivePoolData}
    (huntouched : Untouched K pool group.guids spawns after) :
    group.activeMembers K after = group.activeMembers K spawns :=
  congrArg List.length (filter_congr huntouched.active)

end Others

section Own

variable {rolled : List PoolObject} {trigger : ℕ}

theorem spawnRolled_onMap (hkind : K ≠ .Pool) (hrolled : ∀ obj ∈ rolled, obj.guid ≠ trigger)
    (rolls : ℕ → ℕ) (spawns : ActivePoolData) :
    ∃ after, PoolGroup.spawnRolled K .onMap pool rolls rolled spawns trigger = (after, trigger) ∧
      after.GetActiveObjectCount pool = spawns.GetActiveObjectCount pool + rolled.length ∧
      ∀ guid, after.IsActiveObject K guid = true ↔
        spawns.IsActiveObject K guid = true ∨ guid ∈ rolled.map PoolObject.guid := by
  induction rolled generalizing spawns with
  | nil => exact ⟨spawns, rfl, rfl, fun guid => (or_iff_left not_mem_nil).symm⟩
  | cons obj rest ih =>
    obtain ⟨after, hafter, hcount, hactive⟩ := ih
      (fun other hother => hrolled other (mem_cons_of_mem _ hother))
      (spawns.ActivateObject K obj.guid pool)
    refine ⟨after, ?_, ?_, fun guid => ?_⟩
    · rw [PoolGroup.spawnRolled, if_neg (hrolled obj mem_cons_self)]
      exact hafter
    · rw [hcount, ActivePoolData.GetActiveObjectCount_ActivateObject fun heq => absurd heq hkind,
        if_pos rfl, length_cons]
      omega
    · rw [hactive, ActivePoolData.IsActiveObject_ActivateObject hkind, map_cons,
        mem_cons, and_iff_right rfl, or_assoc]

theorem despawnMember_other {obj : PoolObject} (htrigger : trigger ≠ 0)
    (hne : obj.guid ≠ trigger) :
    PoolGroup.despawnMember K .onMap pool trigger spawns obj = spawns :=
  if_neg fun hboth => hboth.2.elim htrigger hne

variable {list : List PoolObject}

theorem foldl_despawnMember_other (htrigger : trigger ≠ 0)
    (hother : trigger ∉ list.map PoolObject.guid) :
    list.foldl (PoolGroup.despawnMember K .onMap pool trigger) spawns = spawns := by
  induction list with
  | nil => rfl
  | cons obj rest ih =>
    rw [map_cons, mem_cons, not_or] at hother
    rw [foldl_cons, despawnMember_other htrigger (Ne.symm hother.1), ih hother.2]

theorem foldl_despawnMember (htrigger : trigger ≠ 0) (hnodup : (list.map PoolObject.guid).Nodup)
    (hmem : trigger ∈ list.map PoolObject.guid) (hactive : spawns.IsActiveObject K trigger = true) :
    list.foldl (PoolGroup.despawnMember K .onMap pool trigger) spawns =
      spawns.RemoveObject K trigger pool := by
  induction list with
  | nil => cases hmem
  | cons obj rest ih =>
    rw [map_cons, nodup_cons] at hnodup
    rw [foldl_cons]
    by_cases heq : obj.guid = trigger
    · have hremoved : PoolGroup.despawnMember K .onMap pool trigger spawns obj =
          spawns.RemoveObject K trigger pool := by
        unfold PoolGroup.despawnMember
        rw [heq, if_pos ⟨hactive, .inr rfl⟩]
        rfl
      rw [hremoved]
      exact foldl_despawnMember_other htrigger (heq ▸ hnodup.1)
    · rw [despawnMember_other htrigger heq]
      rw [map_cons, mem_cons] at hmem
      exact ih hnodup.2 (hmem.resolve_left (Ne.symm heq))

theorem activeMembers_eq_card (hnodup : group.guids.Nodup) : group.activeMembers K spawns =
      (group.guids.filter (spawns.IsActiveObject K)).toFinset.card :=
  (toFinset_card_of_nodup (hnodup.filter _)).symm

theorem activeMembers_spawned {after : ActivePoolData} {guids : List ℕ}
    (hnodup : group.guids.Nodup) (hguids : guids.Nodup) (hmembers : guids ⊆ group.guids)
    (hinactive : ∀ guid ∈ guids, spawns.IsActiveObject K guid = false)
    (hafter : ∀ guid, after.IsActiveObject K guid = true ↔
      spawns.IsActiveObject K guid = true ∨ guid ∈ guids) :
    group.activeMembers K after = group.activeMembers K spawns + guids.length := by
  rw [activeMembers_eq_card hnodup, activeMembers_eq_card hnodup,
    ← toFinset_card_of_nodup hguids, ← Finset.card_union_of_disjoint]
  · congr 1
    ext guid
    rw [Finset.mem_union, mem_toFinset, mem_toFinset, mem_toFinset, mem_filter, mem_filter, hafter]
    constructor
    · rintro ⟨hmem, hactive | hnew⟩
      · exact .inl ⟨hmem, hactive⟩
      · exact .inr hnew
    · rintro (⟨hmem, hactive⟩ | hnew)
      · exact ⟨hmem, .inl hactive⟩
      · exact ⟨hmembers hnew, .inr hnew⟩
  · rw [Finset.disjoint_left]
    intro guid hold hnew
    rw [mem_toFinset, mem_filter] at hold
    rw [mem_toFinset] at hnew
    exact Bool.false_ne_true ((hinactive guid hnew).symm.trans hold.2)

theorem activeMembers_removed (hkind : K ≠ .Pool) (hnodup : group.guids.Nodup)
    (hmem : trigger ∈ group.guids) (hactive : spawns.IsActiveObject K trigger = true) :
    group.activeMembers K (spawns.RemoveObject K trigger pool) =
      group.activeMembers K spawns - 1 := by
  rw [activeMembers_eq_card hnodup, activeMembers_eq_card hnodup]
  have hold : trigger ∈ (group.guids.filter (spawns.IsActiveObject K)).toFinset :=
    mem_toFinset.mpr (mem_filter.mpr ⟨hmem, hactive⟩)
  rw [← Finset.card_erase_of_mem hold]
  congr 1
  ext guid
  rw [Finset.mem_erase, mem_toFinset, mem_toFinset, mem_filter, mem_filter,
    ActivePoolData.IsActiveObject_RemoveObject hkind, and_iff_right rfl]
  exact ⟨fun ⟨hguid, hwas, hne⟩ => ⟨hne, hguid, hwas⟩, fun ⟨hne, hguid, hwas⟩ => ⟨hguid, hwas, hne⟩⟩

theorem length_inactive (group : PoolGroup) (K : PoolType) (spawns : ActivePoolData) :
    (group.EqualChanced.filter fun obj => !spawns.IsActiveObject K obj.guid).length =
      group.EqualChanced.length - group.activeMembers K spawns := by
  have hsplit := group.EqualChanced.length_eq_length_filter_add
    fun obj => spawns.IsActiveObject K obj.guid
  have hactive : group.activeMembers K spawns =
      (group.EqualChanced.filter fun obj => spawns.IsActiveObject K obj.guid).length := by
    rw [PoolGroup.activeMembers, PoolGroup.guids, filter_map, length_map]
    rfl
  omega

theorem toSpawn_spec (hequal : group.ExplicitlyChanced = []) (K : PoolType) (rolls : ℕ → ℕ)
    (spawns : ActivePoolData) (count : ℤ) :
    ((group.toSpawn K rolls spawns count).map PoolObject.guid).Sublist group.guids ∧
      (∀ obj ∈ group.toSpawn K rolls spawns count, spawns.IsActiveObject K obj.guid = false) ∧
      (group.toSpawn K rolls spawns count).length =
        min count.toNat (group.EqualChanced.length - group.activeMembers K spawns) := by
  have hrolled : group.toSpawn K rolls spawns count =
      if 0 < count then
        RandomResize (stream rolls 1)
          (group.EqualChanced.filter fun obj => !spawns.IsActiveObject K obj.guid) count.toNat
      else [] := by
    unfold PoolGroup.toSpawn PoolGroup.rolledObjects
    rw [hequal]
    rfl
  rw [hrolled]
  split
  · have hsub := RandomResize_sublist (stream rolls 1)
      (group.EqualChanced.filter fun obj => !spawns.IsActiveObject K obj.guid) count.toNat
    refine ⟨(hsub.trans filter_sublist).map _, fun obj hobj => ?_, ?_⟩
    · have hinactive := (mem_filter.mp (hsub.subset hobj)).2
      rwa [Bool.not_eq_true'] at hinactive
    · rw [RandomResize_length, length_inactive]
  case isFalse hnone =>
    refine ⟨nil_sublist _, nofun, ?_⟩
    rw [Int.toNat_of_nonpos (not_lt.mp hnone), Nat.zero_min, length_nil]

def Counted (group : PoolGroup) (K : PoolType) (pool : ℕ) (spawns : ActivePoolData) : Prop :=
  group.activeMembers K spawns = spawns.GetActiveObjectCount pool

theorem SpawnObject_own (hpool : StandAlone mgr K pool group) (rolls : ℕ → ℕ) (limit : ℕ)
    (hcounted : Counted group K pool spawns)
    (htrigger : trigger ≠ 0 → trigger ∈ group.guids ∧ spawns.IsActiveObject K trigger = true) :
    Counted group K pool (group.SpawnObject K .onMap rolls spawns limit trigger) ∧
      (group.SpawnObject K .onMap rolls spawns limit trigger).GetActiveObjectCount pool =
        spawns.GetActiveObjectCount pool + min (group.spawnCount spawns limit trigger).toNat
            (group.EqualChanced.length - spawns.GetActiveObjectCount pool) -
          if trigger ≠ 0 then 1 else 0 := by
  have hid : group.poolId = pool := hpool.ids K pool group hpool.found
  obtain ⟨hsub, hinactive, hlen⟩ := toSpawn_spec hpool.equal K (stream rolls 0) spawns
    (group.spawnCount spawns limit trigger)
  have hrolled : ∀ obj ∈ group.toSpawn K (stream rolls 0) spawns
      (group.spawnCount spawns limit trigger), obj.guid ≠ trigger := by
    rintro obj hobj rfl
    by_cases hzero : obj.guid = 0
    · exact hpool.positive (hzero ▸ hsub.subset (mem_map_of_mem hobj))
    · exact Bool.false_ne_true ((hinactive obj hobj).symm.trans (htrigger hzero).2)
  obtain ⟨after, hspawned, hcount, hactive⟩ := @spawnRolled_onMap K pool _ trigger hpool.kind
    hrolled (stream rolls 1) spawns
  have hmembers := activeMembers_spawned hpool.nodup (hpool.nodup.sublist hsub) hsub.subset
    (fun guid hguid => by
      obtain ⟨obj, hobj, rfl⟩ := mem_map.mp hguid
      exact hinactive obj hobj) hactive
  rw [length_map, hcounted] at hmembers
  rw [hlen, hcounted] at hcount hmembers
  unfold PoolGroup.SpawnObject
  dsimp only
  rw [hid, hspawned]
  by_cases hzero : trigger = 0
  · rw [if_neg (not_not.mpr hzero), if_neg (not_not.mpr hzero), Nat.sub_zero]
    exact ⟨hmembers.trans hcount.symm, hcount⟩
  obtain ⟨hmem, hwas⟩ := htrigger hzero
  have hstill : after.IsActiveObject K trigger = true := (hactive trigger).mpr (.inl hwas)
  have hall : group.members = group.EqualChanced := by
    rw [PoolGroup.members, hpool.equal, append_nil]
  have hgone : group.DespawnObject K .onMap after trigger = after.RemoveObject K trigger pool := by
    unfold PoolGroup.DespawnObject
    rw [hid, hall]
    exact foldl_despawnMember hzero hpool.nodup hmem hstill
  rw [if_pos hzero, if_pos hzero, hgone]
  have hless : (after.RemoveObject K trigger pool).GetActiveObjectCount pool =
      after.GetActiveObjectCount pool - 1 := by
    rw [ActivePoolData.GetActiveObjectCount_RemoveObject fun heq => absurd heq hpool.kind,
      if_pos rfl]
  refine ⟨?_, hless.trans (by rw [hcount])⟩
  rw [Counted, activeMembers_removed hpool.kind hpool.nodup hmem hstill, hless, hmembers, hcount]

end Own

/-- An update of a pool because a member of it is to respawn. -/
structure PoolOp where
  T : PoolType
  pool_id : ℕ
  db_guid : ℕ
  rolls : ℕ → ℕ

def IsActiveMember (mgr : PoolMgr) (spawns : ActivePoolData) (op : PoolOp) : Prop :=
  ∃ group, (mgr.groups op.T).find? op.pool_id = some group ∧
    op.db_guid ∈ group.members.map PoolObject.guid ∧
    spawns.IsActiveObject op.T op.db_guid = true

def PoolStart (mgr : PoolMgr) (depth pool : ℕ) (spawns : ActivePoolData) : Prop :=
  ∃ order : List (ℕ × (ℕ → ℕ)), (order.map Prod.fst).Nodup ∧ pool ∈ order.map Prod.fst ∧
    spawns = order.foldl (fun spawns entry => mgr.SpawnPool (depth + 1) entry.2 entry.1 spawns)
      ActivePoolData.empty

def updates (mgr : PoolMgr) (depth : ℕ) : ActivePoolData → PoolOp → ActivePoolData → Prop :=
  guarded (IsActiveMember mgr) fun before op after =>
    after = mgr.UpdatePool depth op.rolls op.T op.pool_id op.db_guid before

def PoolFull (mgr : PoolMgr) (K : PoolType) (pool : ℕ) (group : PoolGroup)
    (spawns : ActivePoolData) : Prop :=
  group.activeMembers K spawns = spawns.GetActiveObjectCount pool ∧
    group.activeMembers K spawns = min (mgr.MaxLimit pool) group.EqualChanced.length

section Runs

variable {after : ActivePoolData} {rolls : ℕ → ℕ}

theorem SpawnPoolOf_none {one : OneObject} {trigger other : ℕ}
    (hnone : mgr.groupOf T other = none) :
    mgr.SpawnPoolOf T one rolls other trigger spawns = spawns := by
  rw [PoolMgr.SpawnPoolOf, hnone, Option.elim_none]

section

variable (hpool : StandAlone mgr K pool group) (hsome : group.EqualChanced ≠ [])
include hpool hsome

theorem SpawnPoolOf_own (trigger : ℕ) : mgr.SpawnPoolOf K .onMap rolls pool trigger spawns =
      group.SpawnObject K .onMap rolls spawns (mgr.MaxLimit pool) trigger := by
  have hnonempty : (!group.IsEmpty) = true := by
    rw [PoolGroup.IsEmpty, hpool.equal, isEmpty_nil, Bool.true_and, Bool.not_eq_true',
      isEmpty_eq_false_iff]
    exact hsome
  rw [PoolMgr.SpawnPoolOf, PoolMgr.groupOf, hpool.found, Option.filter_some, if_pos hnonempty,
    Option.elim_some]

theorem SpawnPool_own (depth : ℕ) (rolls : ℕ → ℕ) (spawns : ActivePoolData) :
    ∃ rolls', mgr.SpawnPool (depth + 1) rolls pool spawns =
      group.SpawnObject K .onMap rolls' spawns (mgr.MaxLimit pool) 0 := by
  unfold PoolMgr.SpawnPool
  cases K with
  | Pool => exact absurd rfl hpool.kind
  | Creature =>
    rw [SpawnPoolOf_none (hpool.only .Pool nofun), SpawnPoolOf_none (hpool.only .GameObject nofun)]
    exact ⟨_, SpawnPoolOf_own hpool hsome 0⟩
  | GameObject =>
    rw [SpawnPoolOf_none (hpool.only .Pool nofun), SpawnPoolOf_none (hpool.only .Creature nofun)]
    exact ⟨_, SpawnPoolOf_own hpool hsome 0⟩

theorem UpdatePool_own (depth trigger : ℕ) : mgr.UpdatePool depth rolls K pool trigger spawns =
      group.SpawnObject K .onMap rolls spawns (mgr.MaxLimit pool) trigger := by
  have hone : mgr.oneObject depth K = .onMap := by
    cases K with
    | Pool => exact absurd rfl hpool.kind
    | Creature | GameObject => rfl
  rw [PoolMgr.UpdatePool, if_neg (not_not.mpr hpool.noMother), hone]
  exact SpawnPoolOf_own hpool hsome trigger

end

theorem empty_counted (group : PoolGroup) (hkind : K ≠ .Pool) :
    group.activeMembers K .empty = 0 := by
  have hnone : ∀ guid, ActivePoolData.empty.IsActiveObject K guid = false := by
    intro guid
    cases K with
    | Pool => exact absurd rfl hkind
    | Creature | GameObject => rfl
  rw [PoolGroup.activeMembers, filter_eq_nil_iff.mpr fun guid _ => by rw [hnone]; exact
    Bool.false_ne_true, length_nil]

section

variable (hpool : StandAlone mgr K pool group)
include hpool

theorem startup_untouched (depth : ℕ)
    {order : List (ℕ × (ℕ → ℕ))} (hother : pool ∉ order.map Prod.fst) (spawns : ActivePoolData) :
    Untouched K pool group.guids spawns
      (order.foldl (fun spawns entry => mgr.SpawnPool (depth + 1) entry.2 entry.1 spawns)
        spawns) := by
  refine Untouched.foldl (fun before entry hentry => ?_) spawns
  refine SpawnPool_untouched hpool _ ?_ _ _
  rintro rfl
  exact hother (mem_map_of_mem hentry)

/-- At startup the pool is filled as far as its limit is a number of the code. -/
theorem PoolStart.counted
    (hsome : group.EqualChanced ≠ []) (hstart : PoolStart mgr depth pool spawns) :
    Counted group K pool spawns ∧ spawns.GetActiveObjectCount pool =
      min (int32 (mgr.MaxLimit pool)).toNat group.EqualChanced.length := by
  obtain ⟨order, hnodup, hmem, rfl⟩ := hstart
  obtain ⟨entry, hentry, hfst⟩ := mem_map.mp hmem
  obtain ⟨first, last, rfl⟩ := append_of_mem hentry
  subst hfst
  rw [map_append, map_cons] at hnodup
  have hparts := nodup_middle.mp hnodup
  rw [nodup_cons, mem_append, not_or] at hparts
  rw [foldl_append, foldl_cons]
  have hbefore := startup_untouched hpool depth hparts.1.1 ActivePoolData.empty
  generalize first.foldl _ ActivePoolData.empty = before at hbefore ⊢
  obtain ⟨rolls', hown⟩ := SpawnPool_own hpool hsome depth entry.2 before
  rw [hown]
  have hcount : before.GetActiveObjectCount entry.1 = 0 := hbefore.count
  have hcounted : Counted group K entry.1 before := by
    rw [Counted, hcount, hbefore.activeMembers]
    exact empty_counted group hpool.kind
  obtain ⟨hfull, hnumber⟩ := @SpawnObject_own mgr K before entry.1 group 0 hpool rolls'
    (mgr.MaxLimit entry.1) hcounted (absurd rfl)
  have hafter := startup_untouched hpool depth hparts.1.2
    (group.SpawnObject K .onMap rolls' before (mgr.MaxLimit entry.1) 0)
  have hid : group.poolId = entry.1 := hpool.ids K _ group hpool.found
  have hfree : group.spawnCount before (mgr.MaxLimit entry.1) 0 = int32 (mgr.MaxLimit entry.1) := by
    rw [PoolGroup.spawnCount, hid, hcount, Nat.cast_zero, Int.sub_zero]
    exact if_neg (not_not.mpr rfl)
  refine ⟨?_, ?_⟩
  · rw [Counted, hafter.activeMembers, hafter.count]
    exact hfull
  · rw [hafter.count, hnumber, hcount, hfree, Nat.zero_add, Nat.sub_zero,
      if_neg (not_not.mpr rfl), Nat.sub_zero]

theorem update_own (hcounted : Counted group K pool spawns)
    {op : PoolOp} (hown : op.T = K ∧ op.pool_id = pool) (hactive : IsActiveMember mgr spawns op)
    (hlimit : mgr.MaxLimit pool < 2 ^ 31)
    (hle : spawns.GetActiveObjectCount pool ≤ mgr.MaxLimit pool) :
    Counted group K pool
        (mgr.UpdatePool depth op.rolls op.T op.pool_id op.db_guid spawns) ∧
      (mgr.UpdatePool depth op.rolls op.T op.pool_id op.db_guid spawns).GetActiveObjectCount
          pool =
        spawns.GetActiveObjectCount pool +
          min (mgr.MaxLimit pool - spawns.GetActiveObjectCount pool + 1)
            (group.EqualChanced.length - spawns.GetActiveObjectCount pool) - 1 := by
  obtain ⟨T, pool_id, guid, rolls⟩ := op
  obtain ⟨(rfl : T = K), (rfl : pool_id = pool)⟩ := hown
  obtain ⟨found, hfound, hmem, hspawned⟩ := hactive
  obtain rfl := Option.some.inj (hpool.found.symm.trans hfound)
  have hguid : guid ∈ group.guids := by
    rw [PoolGroup.members, hpool.equal, append_nil] at hmem
    exact hmem
  have hsome : group.EqualChanced ≠ [] := by
    intro hnil
    rw [PoolGroup.guids, hnil] at hguid
    cases hguid
  have hpos : guid ≠ 0 := fun hzero => hpool.positive (hzero ▸ hguid)
  have hid := hpool.ids _ _ group hpool.found
  have hfree : (group.spawnCount spawns (mgr.MaxLimit pool_id) guid).toNat =
      mgr.MaxLimit pool_id - spawns.GetActiveObjectCount pool_id + 1 := by
    have hint : int32 (mgr.MaxLimit pool_id - spawns.GetActiveObjectCount pool_id) =
        mgr.MaxLimit pool_id - spawns.GetActiveObjectCount pool_id :=
      Int.bmod_eq_of_le (by omega) (by omega)
    rw [PoolGroup.spawnCount, hid, hint, if_pos hpos]
    omega
  obtain ⟨hfull, hnumber⟩ := SpawnObject_own hpool rolls (mgr.MaxLimit pool_id) hcounted
    fun _ => ⟨hguid, hspawned⟩
  rw [UpdatePool_own hpool hsome]
  refine ⟨hfull, ?_⟩
  rw [hnumber, hfree, if_pos hpos]

theorem full_pool_shrinks (hsome : group.EqualChanced ≠ []) (hcounted : Counted group K pool spawns)
    (hall : spawns.GetActiveObjectCount pool = group.EqualChanced.length)
    (hle : group.EqualChanced.length ≤ mgr.MaxLimit pool) (hlimit : mgr.MaxLimit pool < 2 ^ 31)
    (depth : ℕ) : ∃ after, updates mgr depth spawns ⟨K, pool, (group.guids.head?).getD 0,
      fun _ => 0⟩ after ∧ Counted group K pool after ∧
      after.GetActiveObjectCount pool + 1 = group.EqualChanced.length := by
  have hpos : 0 < group.EqualChanced.length := length_pos_of_ne_nil hsome
  obtain ⟨guid, hhead⟩ : ∃ guid, group.guids.head? = some guid := by
    cases hguids : group.guids with
    | nil =>
      have hlen : group.guids.length = group.EqualChanced.length := length_map ..
      rw [hguids, length_nil] at hlen
      omega
    | cons guid rest => exact ⟨guid, rfl⟩
  have hmem : guid ∈ group.guids := mem_of_mem_head? hhead
  have hspawned : spawns.IsActiveObject K guid = true := by
    have hfilter : (group.guids.filter (spawns.IsActiveObject K)).length = group.guids.length := by
      rw [PoolGroup.guids, length_map, ← PoolGroup.guids, ← hall]
      exact hcounted
    exact length_filter_eq_length_iff.mp hfilter guid hmem
  have hactive : IsActiveMember mgr spawns ⟨K, pool, guid, fun _ => 0⟩ := by
    refine ⟨group, hpool.found, ?_, hspawned⟩
    rw [PoolGroup.members, hpool.equal, append_nil]
    exact hmem
  rw [hhead, Option.getD_some]
  obtain ⟨hfull, hnumber⟩ := @update_own mgr K spawns pool depth group hpool hcounted
    ⟨K, pool, guid, fun _ => 0⟩ ⟨rfl, rfl⟩ hactive hlimit (hall.trans_le hle)
  refine ⟨_, ⟨hactive, rfl⟩, hfull, ?_⟩
  omega

end

end Runs

theorem int32_toNat_small {value : ℕ} (hlt : value < 2 ^ 31) : (int32 value).toNat = value := by
  have hint : int32 value = value := Int.bmod_eq_of_le (by omega) (by omega)
  rw [hint, Int.toNat_natCast]

theorem int32_toNat_large {value : ℕ} (hle : 2 ^ 31 ≤ value) (hlt : value < 2 ^ 32) :
    (int32 value).toNat = 0 := by
  rw [int32, Int.bmod]
  split
  · omega
  · omega

theorem updates_cases (hpool : StandAlone mgr K pool group) {before after : ActivePoolData}
    {op : PoolOp} (hstep : updates mgr depth before op after) :
    Untouched K pool group.guids before after ∨ op.T = K ∧ op.pool_id = pool := by
  obtain ⟨-, rfl⟩ := hstep
  by_cases hown : op.T = K ∧ op.pool_id = pool
  · exact .inr hown
  · exact .inl (UpdatePool_untouched hpool (fun hkind hid => hown ⟨hkind, hid⟩) _ _)

theorem empty_pool_untouched (hpool : StandAlone mgr K pool group)
    (hnil : group.EqualChanced = []) (hstart : PoolStart mgr depth pool spawns) :
    Untouched K pool group.guids .empty spawns := by
  have hnone : ∀ T, mgr.groupOf T pool = none := by
    intro T
    by_cases hsame : T = K
    · subst hsame
      have hempty : (!group.IsEmpty) = false := by
        rw [PoolGroup.IsEmpty, hpool.equal, hnil]
        rfl
      rw [PoolMgr.groupOf, hpool.found, Option.filter_some, if_neg (by rw [hempty]; exact
        Bool.false_ne_true)]
    · exact hpool.only T hsame
  obtain ⟨order, -, -, rfl⟩ := hstart
  refine Untouched.foldl (fun before entry _ => ?_) _
  by_cases hsame : entry.1 = pool
  · rw [hsame, PoolMgr.SpawnPool, SpawnPoolOf_none (hnone .Pool),
      SpawnPoolOf_none (hnone .GameObject), SpawnPoolOf_none (hnone .Creature)]
    exact .refl before
  · exact SpawnPool_untouched hpool _ hsame _ _

/-- A pool stays full in all runs if and only if it is empty, or it has more members than
its limit and the limit is less than 2 ^ 31. -/
theorem pool_stays_full_iff (hpool : StandAlone mgr K pool group) (depth : ℕ) :
    (∀ spawns, Reachable (PoolStart mgr depth pool) (updates mgr depth) spawns →
      PoolFull mgr K pool group spawns) ↔
    group.EqualChanced = [] ∨
      mgr.MaxLimit pool < group.EqualChanced.length ∧ mgr.MaxLimit pool < 2 ^ 31 := by
  have hlimit : mgr.MaxLimit pool < 2 ^ 32 := uint32_lt _
  constructor
  · intro hfull
    by_contra hneither
    rw [not_or] at hneither
    obtain ⟨hsome, hless⟩ := hneither
    have hpos : 0 < group.EqualChanced.length := length_pos_of_ne_nil hsome
    have hstart : PoolStart mgr depth pool
        (mgr.SpawnPool (depth + 1) (fun _ => 0) pool ActivePoolData.empty) :=
      ⟨[(pool, fun _ => 0)], nodup_singleton pool, mem_singleton.mpr rfl, rfl⟩
    generalize mgr.SpawnPool (depth + 1) (fun _ => 0) pool ActivePoolData.empty = spawns at hstart
    obtain ⟨hcounted, hcount⟩ := hstart.counted hpool hsome
    have hreach : Reachable (PoolStart mgr depth pool) (updates mgr depth) spawns := .start hstart
    obtain ⟨-, hnumber⟩ := hfull spawns hreach
    rw [hcounted, hcount] at hnumber
    by_cases hlarge : 2 ^ 31 ≤ mgr.MaxLimit pool
    · rw [int32_toNat_large hlarge hlimit] at hnumber
      omega
    rw [int32_toNat_small (not_le.mp hlarge)] at hcount
    have hle : group.EqualChanced.length ≤ mgr.MaxLimit pool := by omega
    obtain ⟨after, hstep, hafter, hone⟩ := full_pool_shrinks hpool hsome hcounted
      (hcount.trans (Nat.min_eq_right hle)) hle (not_le.mp hlarge) depth
    obtain ⟨-, hafterFull⟩ := hfull after (hreach.step hstep)
    rw [hafter] at hafterFull
    omega
  · rintro (hnil | ⟨hmore, hsmall⟩) spawns hreach
    · have hkept : Counted group K pool spawns ∧ spawns.GetActiveObjectCount pool = 0 := by
        apply hreach.invariant
        · intro initial hstart
          have huntouched := empty_pool_untouched hpool hnil hstart
          refine ⟨?_, huntouched.count⟩
          rw [Counted, huntouched.activeMembers, huntouched.count]
          exact empty_counted group hpool.kind
        · rintro before op after ⟨hcounted, hcount⟩ hstep
          rcases updates_cases hpool hstep with huntouched | ⟨hkind, hid⟩
          · refine ⟨?_, huntouched.count.trans hcount⟩
            rw [Counted, huntouched.activeMembers, huntouched.count]
            exact hcounted
          · obtain ⟨found, hfound, hmem, -⟩ := hstep.1
            rw [hkind, hid, hpool.found] at hfound
            cases hfound
            rw [PoolGroup.members, hpool.equal, hnil] at hmem
            cases hmem
      refine ⟨hkept.1, ?_⟩
      rw [hkept.1, hkept.2, hnil, length_nil, Nat.min_zero]
    · have hsome : group.EqualChanced ≠ [] := ne_nil_of_length_pos (by omega)
      have hkept : Counted group K pool spawns ∧
          spawns.GetActiveObjectCount pool = mgr.MaxLimit pool := by
        apply hreach.invariant
        · intro initial hstart
          obtain ⟨hcounted, hcount⟩ := hstart.counted hpool hsome
          rw [int32_toNat_small hsmall, Nat.min_eq_left hmore.le] at hcount
          exact ⟨hcounted, hcount⟩
        · rintro before op after ⟨hcounted, hcount⟩ hstep
          rcases updates_cases hpool hstep with huntouched | hown
          · refine ⟨?_, huntouched.count.trans hcount⟩
            rw [Counted, huntouched.activeMembers, huntouched.count]
            exact hcounted
          · obtain ⟨hactive, rfl⟩ := hstep
            obtain ⟨hafter, hnumber⟩ := @update_own mgr K before pool depth group hpool hcounted
              op hown hactive hsmall hcount.le
            refine ⟨hafter, ?_⟩
            omega
      refine ⟨hkept.1, ?_⟩
      rw [hkept.1, hkept.2, Nat.min_eq_left hmore.le]

/-! ## Pools of two creatures -/

def pairOfCreatures : PoolGroup := ⟨7, [], [⟨1, 0⟩, ⟨2, 0⟩]⟩

def pairMgr (limit : ℕ) : PoolMgr where
  mPoolTemplate := StdMap.empty.insert 7 limit
  mPoolCreatureGroups := StdMap.empty.insert 7 pairOfCreatures
  mPoolGameobjectGroups := StdMap.empty
  mPoolPoolGroups := StdMap.empty
  mPoolSearchMap := StdMap.empty

theorem pairMgr_standAlone (limit : ℕ) :
    StandAlone (pairMgr limit) .Creature 7 pairOfCreatures where
  kind := nofun
  found := rfl
  equal := rfl
  nodup := by decide
  positive := by decide
  only T hother := by
    cases T with
    | Creature => exact absurd rfl hother
    | GameObject | Pool => rfl
  ids T other found hfound := by
    cases T with
    | Creature =>
      have hall : ∀ entry ∈ (pairMgr limit).mPoolCreatureGroups.entries,
          entry.2.poolId = entry.1 := by
        intro entry hmem
        obtain rfl := mem_singleton.mp hmem
        rfl
      exact hall (other, found) (StdMap.find?_eq_some_iff.mp hfound)
    | GameObject | Pool => cases hfound
  once other found hfound hother := by
    have hall : ∀ entry ∈ (pairMgr limit).mPoolCreatureGroups.entries, entry.1 = 7 := by
      intro entry hmem
      obtain rfl := mem_singleton.mp hmem
      rfl
    exact absurd (hall (other, found) (StdMap.find?_eq_some_iff.mp hfound)) hother
  noChild other found hfound := nomatch hfound
  noMother := rfl

/-- One of two creatures is spawned at any time. -/
theorem pair_with_limit_one :
    (∃ spawns, Reachable (PoolStart (pairMgr 1) 0 7) (updates (pairMgr 1) 0) spawns) ∧
      ∀ spawns, Reachable (PoolStart (pairMgr 1) 0 7) (updates (pairMgr 1) 0) spawns →
        PoolFull (pairMgr 1) .Creature 7 pairOfCreatures spawns := by
  constructor
  · exact ⟨_, .start ⟨[(7, fun _ => 0)], nodup_singleton 7, mem_singleton.mpr rfl, rfl⟩⟩
  · exact (pool_stays_full_iff (pairMgr_standAlone 1) 0).mpr (.inr ⟨by decide, by decide⟩)

/-- Both creatures are spawned, one of them is to respawn, and one is left. -/
theorem pair_with_limit_two : ∃ spawns,
    Reachable (PoolStart (pairMgr 2) 0 7) (updates (pairMgr 2) 0) spawns ∧
      ¬PoolFull (pairMgr 2) .Creature 7 pairOfCreatures spawns := by
  have hstart : PoolStart (pairMgr 2) 0 7
      ((pairMgr 2).SpawnPool 1 (fun _ => 0) 7 ActivePoolData.empty) :=
    ⟨[(7, fun _ => 0)], nodup_singleton 7, mem_singleton.mpr rfl, rfl⟩
  have hreach : Reachable (PoolStart (pairMgr 2) 0 7) (updates (pairMgr 2) 0)
      ((pairMgr 2).SpawnPool 1 (fun _ => 0) 7 ActivePoolData.empty) := .start hstart
  have hactive : IsActiveMember (pairMgr 2)
      ((pairMgr 2).SpawnPool 1 (fun _ => 0) 7 ActivePoolData.empty)
      ⟨.Creature, 7, 1, fun _ => 0⟩ :=
    ⟨pairOfCreatures, rfl, by decide, by decide +kernel⟩
  refine ⟨_, hreach.step ⟨hactive, rfl⟩, fun hfull => ?_⟩
  exact absurd hfull.2 (by decide +kernel)

end AzerothCore.Pools
