import AzerothCore.Common.Define
import Mathlib.Data.Finset.Card

/-!
# Quest pools

`ChangeDailyQuests` and `ChangeWeeklyQuests` draw the quests of a pool anew: members that
are not active come first, and quests that are active fill the rest. The active quests
of all pools are one set, and the rest is drawn from all of it.
-/

namespace AzerothCore.QuestPools
open Finset

/-- `PoolGroup<Quest>`; its quests have no chances of their own. -/
structure PoolGroup where
  poolId : ℕ
  EqualChanced : List ℕ

structure Quest where
  IsDaily : Bool
  IsWeekly : Bool

structure PoolMgr where
  /-- In the order of the hash map. -/
  mPoolQuestGroups : List PoolGroup
  /-- `mPoolTemplate[pool_id].MaxLimit` -/
  MaxLimit : ℕ → ℕ
  /-- The mother pool of a pool, zero if it has none. -/
  IsPartOfAPool : ℕ → ℕ
  GetQuestTemplate : ℕ → Option Quest

def PoolGroup.members (group : PoolGroup) : Finset ℕ := group.EqualChanced.toFinset

def PoolGroup.GetFirstEqualChancedObjectId (group : PoolGroup) : ℕ := group.EqualChanced.headD 0

/-- The loop that recycles active quests: `newQuests`, `currentQuests` and what the new
quests are at its end. -/
inductive Recycles (limit : ℕ) : Finset ℕ → Finset ℕ → Finset ℕ → Prop
  | last {newQuests currentQuests : Finset ℕ} {questId : ℕ} (hquest : questId ∈ currentQuests)
      (hend : limit ≤ (insert questId newQuests).card ∨ currentQuests.erase questId = ∅) :
      Recycles limit newQuests currentQuests (insert questId newQuests)
  | next {newQuests currentQuests recycled : Finset ℕ} {questId : ℕ}
      (hquest : questId ∈ currentQuests) (hlimit : (insert questId newQuests).card < limit)
      (hleft : currentQuests.erase questId ≠ ∅)
      (hrest : Recycles limit (insert questId newQuests) (currentQuests.erase questId) recycled) :
      Recycles limit newQuests currentQuests recycled

/-- `--limit` -/
def decrement (limit : ℕ) : ℕ := uint32 (limit + (2 ^ 32 - 1))

/-- The loop that activates random quests. -/
inductive Activates : ℕ → Finset ℕ → Finset ℕ → Prop
  | last {limit : ℕ} {newQuests : Finset ℕ} {questId : ℕ} (hquest : questId ∈ newQuests)
      (hend : decrement limit = 0 ∨ newQuests.erase questId = ∅) :
      Activates limit newQuests {questId}
  | next {limit : ℕ} {newQuests activated : Finset ℕ} {questId : ℕ} (hquest : questId ∈ newQuests)
      (hlimit : decrement limit ≠ 0) (hleft : newQuests.erase questId ≠ ∅)
      (hrest : Activates (decrement limit) (newQuests.erase questId) activated) :
      Activates limit newQuests (insert questId activated)

/-- The rows that are activated before `--limit` ends their loop. -/
def loadedQuests (limit : ℕ) (saved : List ℕ) : Finset ℕ :=
  (saved.take (if limit = 0 then 2 ^ 32 else limit)).toFinset

/-- `SpawnObject` with the state that is saved, if it is to be loaded: the active quests
before and after, and the ones it activates. -/
inductive SpawnObject (group : PoolGroup) (limit : ℕ) (spawns : Finset ℕ) :
    List ℕ → Finset ℕ → Finset ℕ → Prop
  | loaded {saved : List ℕ} (hsaved : saved ≠ []) :
      SpawnObject group limit spawns saved (spawns ∪ loadedQuests limit saved)
        (loadedQuests limit saved)
  | spawned {newQuests activated : Finset ℕ}
      (hrecycle : if (group.members \ spawns).card < limit ∧ spawns ≠ ∅ then
          Recycles limit (group.members \ spawns) spawns newQuests
        else newQuests = group.members \ spawns)
      (hactivate : if newQuests = ∅ then activated = ∅ else Activates limit newQuests activated) :
      -- `DespawnObject` has taken the members out
      SpawnObject group limit spawns [] (spawns \ group.members ∪ activated) activated

/-- A call of `SpawnObject` in a run. -/
structure Call where
  group : PoolGroup
  limit : ℕ
  spawns : Finset ℕ
  saved : List ℕ
  after : Finset ℕ
  activated : Finset ℕ

inductive SpawnMotherPool (mgr : PoolMgr) : Finset ℕ → List Call → Finset ℕ → Prop
  | done {spawns : Finset ℕ} : SpawnMotherPool mgr spawns [] spawns
  | despawned {group : PoolGroup} {spawns after : Finset ℕ} {calls : List Call}
      (hrest : SpawnMotherPool mgr (spawns \ group.members) calls after) :
      SpawnMotherPool mgr spawns calls after
  | spawned {group : PoolGroup} {spawns middle activated after : Finset ℕ} {saved : List ℕ}
      {calls : List Call}
      (hspawned : SpawnObject group (uint32 (mgr.MaxLimit group.poolId)) spawns saved middle
        activated)
      (hrest : SpawnMotherPool mgr middle calls after) :
      SpawnMotherPool mgr spawns
        (⟨group, uint32 (mgr.MaxLimit group.poolId), spawns, saved, middle, activated⟩ :: calls)
        after

inductive Op
  | ChangeDailyQuests
  | ChangeWeeklyQuests

def Op.skips : Op → Quest → Bool
  | .ChangeDailyQuests, quest => quest.IsWeekly
  | .ChangeWeeklyQuests, quest => quest.IsDaily

/-- The loop over the groups, with the pools that are spawned. -/
inductive Changes (mgr : PoolMgr) (op : Op) :
    List PoolGroup → Finset ℕ → List Call → Finset ℕ → Prop
  | done {spawns : Finset ℕ} : Changes mgr op [] spawns [] spawns
  | skipped {group : PoolGroup} {groups : List PoolGroup} {spawns after : Finset ℕ}
      {calls : List Call}
      (hskipped : (mgr.GetQuestTemplate group.GetFirstEqualChancedObjectId).all op.skips = true)
      (hrest : Changes mgr op groups spawns calls after) :
      Changes mgr op (group :: groups) spawns calls after
  | mother {group : PoolGroup} {groups : List PoolGroup} {spawns middle after : Finset ℕ}
      {inner calls : List Call}
      (hchanged : (mgr.GetQuestTemplate group.GetFirstEqualChancedObjectId).all op.skips = false)
      (hmother : mgr.IsPartOfAPool group.poolId ≠ 0)
      (hspawned : SpawnMotherPool mgr spawns inner middle)
      (hrest : Changes mgr op groups middle calls after) :
      Changes mgr op (group :: groups) spawns (inner ++ calls) after
  | spawned {group : PoolGroup} {groups : List PoolGroup}
      {spawns middle activated after : Finset ℕ} {calls : List Call}
      (hchanged : (mgr.GetQuestTemplate group.GetFirstEqualChancedObjectId).all op.skips = false)
      (hown : mgr.IsPartOfAPool group.poolId = 0)
      (hspawned : SpawnObject group (uint32 (mgr.MaxLimit group.poolId)) spawns [] middle activated)
      (hrest : Changes mgr op groups middle calls after) :
      Changes mgr op (group :: groups) spawns
        (⟨group, uint32 (mgr.MaxLimit group.poolId), spawns, [], middle, activated⟩ :: calls) after

inductive Runs (mgr : PoolMgr) : List Op → Finset ℕ → List Call → Finset ℕ → Prop
  | done {spawns : Finset ℕ} : Runs mgr [] spawns [] spawns
  | step {op : Op} {ops : List Op} {spawns middle after : Finset ℕ} {first rest : List Call}
      (hchange : Changes mgr op mgr.mPoolQuestGroups spawns first middle)
      (hrest : Runs mgr ops middle rest after) :
      Runs mgr (op :: ops) spawns (first ++ rest) after

/-- As many members are active as the limit allows, and only members were activated. -/
def Call.Proper (call : Call) : Prop :=
  (call.after ∩ call.group.members).card = min call.limit call.group.members.card ∧
    call.activated ⊆ call.group.members

/-- Enough members are not active, or nothing but members is; a limit of zero is kept if
there is nothing to activate. A saved state has to be right itself. -/
def Call.Enough (call : Call) : Prop :=
  if call.saved = [] then
    0 < call.limit ∧ (call.limit ≤ (call.group.members \ call.spawns).card ∨
        call.spawns ⊆ call.group.members) ∨
      call.limit = 0 ∧ call.group.members ⊆ call.spawns
  else
    loadedQuests call.limit call.saved ⊆ call.group.members ∧
      (call.spawns ∩ call.group.members ∪ loadedQuests call.limit call.saved).card =
        min call.limit call.group.members.card

variable {group : PoolGroup} {limit : ℕ} {spawns newQuests currentQuests recycled activated : Finset ℕ}
  {mgr : PoolMgr} {op : Op} {ops : List Op} {after : Finset ℕ} {calls : List Call}

theorem Recycles.spec (hrecycles : Recycles limit newQuests currentQuests recycled)
    (hlt : newQuests.card < limit) :
    recycled ⊆ newQuests ∪ currentQuests ∧ recycled.card ≤ limit ∧
      (recycled.card = limit ∨ recycled = newQuests ∪ currentQuests) := by
  induction hrecycles with
  | @last newQuests currentQuests questId hquest hend =>
    have hcard := card_insert_le questId newQuests
    refine ⟨?_, by omega, ?_⟩
    · exact insert_subset (mem_union_right _ hquest) subset_union_left
    · obtain hfull | hempty := hend
      · exact .inl (by omega)
      · right
        have hall := Finset.insert_erase hquest
        rw [hempty] at hall
        rw [← hall, union_insert, union_empty]
  | @next newQuests currentQuests recycled questId hquest hlimit hleft hrest ih =>
    have hunion : insert questId newQuests ∪ currentQuests.erase questId =
        newQuests ∪ currentQuests := by
      rw [insert_union, ← union_insert, Finset.insert_erase hquest]
    rw [hunion] at ih
    exact ih hlimit

theorem Activates.subset (hactivates : Activates limit newQuests activated) :
    activated ⊆ newQuests := by
  induction hactivates with
  | last hquest hend => exact singleton_subset_iff.mpr hquest
  | next hquest hlimit hleft hrest ih =>
    exact insert_subset hquest (ih.trans (erase_subset _ _))

theorem decrement_of_pos (hpos : 0 < limit) (hlimit : limit < 2 ^ 32) :
    decrement limit = limit - 1 := by
  rw [decrement, uint32]
  omega

theorem Activates.card (hactivates : Activates limit newQuests activated) (hpos : 0 < limit)
    (hbound : limit < 2 ^ 32) : activated.card = min limit newQuests.card := by
  induction hactivates with
  | @last limit newQuests questId hquest hend =>
    have herase := card_erase_add_one hquest
    rw [decrement_of_pos hpos hbound] at hend
    rw [card_singleton]
    obtain hlast | hempty := hend
    · omega
    · rw [hempty, card_empty] at herase
      omega
  | @next limit newQuests activated questId hquest hlimit hleft hrest ih =>
    have herase := card_erase_add_one hquest
    rw [decrement_of_pos hpos hbound] at hlimit hrest ih
    have hfresh : questId ∉ activated := fun hmem =>
      notMem_erase questId newQuests (hrest.subset hmem)
    rw [card_insert_of_notMem hfresh, ih (by omega) (by omega)]
    omega

theorem newQuests_spec (hrecycle : if (group.members \ spawns).card < limit ∧ spawns ≠ ∅ then
        Recycles limit (group.members \ spawns) spawns newQuests
      else newQuests = group.members \ spawns)
    (henough : limit ≤ (group.members \ spawns).card ∨ spawns ⊆ group.members) :
    newQuests ⊆ group.members ∧ min limit newQuests.card = min limit group.members.card := by
  have hfresh := card_le_card (sdiff_subset (s := group.members) (t := spawns))
  split at hrecycle
  · rename_i hfew
    obtain ⟨hsubset, hle, hcard⟩ := hrecycle.spec hfew.1
    have hown := henough.resolve_left hfew.1.not_ge
    rw [sdiff_union_of_subset hown] at hsubset hcard
    have hmembers := card_le_card hsubset
    refine ⟨hsubset, ?_⟩
    cases hcard with
    | inl hfull => omega
    | inr hall => rw [hall]
  · rename_i hnot
    subst hrecycle
    refine ⟨sdiff_subset, ?_⟩
    by_cases hlt : (group.members \ spawns).card < limit
    · rw [not_not.mp (not_and.mp hnot hlt), sdiff_empty]
    · omega

theorem proper_of_spawnObject {saved : List ℕ}
    (hspawned : SpawnObject group limit spawns saved after activated) (hbound : limit < 2 ^ 32)
    (henough : Call.Enough ⟨group, limit, spawns, saved, after, activated⟩) :
    Call.Proper ⟨group, limit, spawns, saved, after, activated⟩ := by
  cases hspawned with
  | loaded hsaved =>
    obtain ⟨hmembers, hcard⟩ := (if_neg hsaved).mp henough
    refine ⟨?_, hmembers⟩
    rw [union_inter_distrib_right, inter_eq_left.mpr hmembers]
    exact hcard
  | @spawned newQuests _ hrecycle hactivate =>
    have hactivated : activated ⊆ group.members ∧
        activated.card = min limit group.members.card := by
      obtain ⟨hpos, henough⟩ | ⟨hzero, hall⟩ := (if_pos rfl).mp henough
      · obtain ⟨hsubset, hcard⟩ := newQuests_spec hrecycle henough
        rw [← hcard]
        split at hactivate
        · rename_i hempty
          rw [hactivate, hempty]
          exact ⟨empty_subset _, (Nat.min_zero _).symm⟩
        · exact ⟨hactivate.subset.trans hsubset, hactivate.card hpos hbound⟩
      · dsimp only at hzero hall
        subst hzero
        rw [if_neg fun hfew => Nat.not_lt_zero _ hfew.1,
          sdiff_eq_empty_iff_subset.mpr hall] at hrecycle
        rw [if_pos hrecycle] at hactivate
        rw [hactivate, Nat.zero_min]
        exact ⟨empty_subset _, rfl⟩
    refine ⟨?_, hactivated.1⟩
    rw [union_inter_distrib_right, sdiff_inter_self, empty_union, inter_eq_left.mpr hactivated.1]
    exact hactivated.2

/-- A call is one of `SpawnObject`. -/
def Call.Spawned (call : Call) : Prop :=
  SpawnObject call.group call.limit call.spawns call.saved call.after call.activated ∧
    call.limit < 2 ^ 32

theorem SpawnMotherPool.spawned_of_mem {call : Call}
    (hmother : SpawnMotherPool mgr spawns calls after) (hmem : call ∈ calls) : call.Spawned := by
  induction hmother with
  | done => cases hmem
  | despawned _ ih => exact ih hmem
  | spawned hspawned _ ih =>
    cases hmem with
    | head => exact ⟨hspawned, uint32_lt _⟩
    | tail _ hmem => exact ih hmem

theorem Changes.spawned_of_mem {groups : List PoolGroup} {call : Call}
    (hchanges : Changes mgr op groups spawns calls after) (hmem : call ∈ calls) :
    call.Spawned := by
  induction hchanges with
  | done => cases hmem
  | skipped _ _ ih => exact ih hmem
  | mother _ _ hmother _ ih =>
    exact (List.mem_append.mp hmem).elim hmother.spawned_of_mem ih
  | spawned _ _ hspawned _ ih =>
    cases hmem with
    | head => exact ⟨hspawned, uint32_lt _⟩
    | tail _ hmem => exact ih hmem

/-- In every run, the pools that are spawned where enough of their members are left have
the right number of active quests, and only members were activated. -/
theorem runs_proper (hruns : Runs mgr ops spawns calls after)
    (henough : ∀ call ∈ calls, call.Enough) : ∀ call ∈ calls, call.Proper := by
  induction hruns with
  | done => nofun
  | step hchange _ ih =>
    rw [List.forall_mem_append] at henough ⊢
    refine ⟨fun call hmem => ?_, ih henough.2⟩
    obtain ⟨hspawned, hbound⟩ := hchange.spawned_of_mem hmem
    exact proper_of_spawnObject hspawned hbound (henough.1 call hmem)

def dailyAndWeekly : PoolMgr where
  mPoolQuestGroups := [⟨1, [1]⟩, ⟨2, [2]⟩]
  MaxLimit _ := 1
  IsPartOfAPool _ := 0
  GetQuestTemplate quest := some ⟨quest = 1, quest = 2⟩

/-- With no quest active before, a daily change activates the daily quest. -/
theorem runs_proper_daily :
    ∃ calls after, Runs dailyAndWeekly [.ChangeDailyQuests] ∅ calls after ∧ calls.length = 1 ∧
      ∀ call ∈ calls, call.Proper := by
  have hspawned : SpawnObject ⟨1, [1]⟩ 1 ∅ [] {1} {1} :=
    @SpawnObject.spawned ⟨1, [1]⟩ 1 ∅ {1} {1} rfl
      (.last (mem_singleton_self 1) (.inl rfl))
  have hruns : Runs dailyAndWeekly [.ChangeDailyQuests] ∅
      ([⟨⟨1, [1]⟩, 1, ∅, [], {1}, {1}⟩] ++ []) {1} :=
    .step (.spawned rfl rfl hspawned (.skipped rfl .done)) .done
  refine ⟨_, _, hruns, rfl, runs_proper hruns fun call hmem => ?_⟩
  obtain rfl := List.mem_singleton.mp hmem
  exact .inl ⟨Nat.one_pos, .inr (empty_subset _)⟩

/-- With both quests active, the daily pool activates the weekly quest and none of its own. -/
theorem activates_weekly :
    ¬ ∀ calls after, Runs dailyAndWeekly [.ChangeDailyQuests] {1, 2} calls after →
      ∀ call ∈ calls, call.Proper := by
  intro hproper
  have hrecycles : Recycles 1 ∅ {1, 2} {2} := .last (by decide) (.inl (by decide))
  have hspawned : SpawnObject ⟨1, [1]⟩ 1 {1, 2} [] {2} {2} :=
    @SpawnObject.spawned ⟨1, [1]⟩ 1 {1, 2} {2} {2} hrecycles
      (.last (mem_singleton_self 2) (.inl rfl))
  have hruns : Runs dailyAndWeekly [.ChangeDailyQuests] {1, 2}
      ([⟨⟨1, [1]⟩, 1, {1, 2}, [], {2}, {2}⟩] ++ []) {2} :=
    .step (.spawned rfl rfl hspawned (.skipped rfl .done)) .done
  have hmember := (hproper _ _ hruns _ (List.mem_singleton_self _)).2
  exact absurd hmember (by decide)

end AzerothCore.QuestPools
