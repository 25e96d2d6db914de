import AzerothCore.Collections.Reachability
import AzerothCore.Groups.LootRoll
import Mathlib.Algebra.Order.BigOperators.Group.Finset
import Mathlib.Data.Fintype.BigOperators

/-!
# `Group`

A group, the players that are connected, and the rolls of the group with their
loots. A player holds two references to groups; the list `m_memberMgr` consists of
the references to this group, so it is read off the players. Every function takes
the world and gives back the new one; a world without a group is one whose group
was disbanded.
-/

namespace AzerothCore

open LootRoll

def MAXGROUPSIZE : ℕ := 5

def MAXRAIDSIZE : ℕ := 40

def MAX_RAID_SUBGROUPS : ℕ := 8

def MEMBER_FLAG_ASSISTANT : ℕ := 0x01

def MEMBER_FLAG_MAINTANK : ℕ := 0x02

def MEMBER_FLAG_MAINASSIST : ℕ := 0x04

def GROUPTYPE_NORMAL : ℕ := 0x00

def GROUPTYPE_RAID : ℕ := 0x02

def GROUPTYPE_BGRAID : ℕ := 0x03

def GROUPTYPE_LFG_RESTRICTED : ℕ := 0x04

def GROUPTYPE_LFG : ℕ := 0x08

def ITEM_QUALITY_UNCOMMON : ℕ := 2

inductive GroupLink where
  | null
  | this
  | other
  deriving DecidableEq

structure Player where
  m_group : GroupLink
  m_originalGroup : GroupLink
  deriving DecidableEq

structure MemberSlot where
  guid : ℕ
  group : Fin MAX_RAID_SUBGROUPS
  flags : ℕ
  deriving DecidableEq

structure Group where
  m_memberSlots : List MemberSlot
  m_leaderGuid : ℕ
  m_groupType : ℕ
  m_bgGroup : Bool
  m_bfGroup : Bool
  m_lootThreshold : ℕ
  m_subGroupsCounts : Option (Fin MAX_RAID_SUBGROUPS → ℕ)

/-- `players` are the players `FindConnectedPlayer` finds. -/
structure World where
  players : StdMap ℕ Player
  group : Option Group
  rolls : LootRolls

inductive RemoveMethod where
  | GROUP_REMOVEMETHOD_DEFAULT
  | GROUP_REMOVEMETHOD_KICK
  | GROUP_REMOVEMETHOD_LEAVE
  | GROUP_REMOVEMETHOD_KICK_LFG
  deriving DecidableEq

/-- What `RemoveMember` asks of the dungeon finder about the last member of a group:
no dungeon map, the leader alive on another map, or no dungeon finder state. -/
structure RemoveEnv where
  roll : RollEnv
  outOfDungeon : Bool
  deriving Inhabited

/-! ## References of players -/

namespace Player

variable (player : Player)

def links : ℕ :=
  (if player.m_group = .this then 1 else 0) + (if player.m_originalGroup = .this then 1 else 0)

/-- How `AddMember` sets the references: `SetGroup`, `SetBattlegroundOrBattlefieldRaid`
or `SetOriginalGroup`. -/
def join (battle : Bool) : Player :=
  if player.m_group = .null then { player with m_group := .this }
  else if battle then { m_group := .this, m_originalGroup := player.m_group }
  else { player with m_originalGroup := .this }

/-- How `RemoveMember` and `Disband` take the references away:
`RemoveFromBattlegroundOrBattlefieldRaid`, `SetOriginalGroup` or `SetGroup`. -/
def leave (battle : Bool) : Player :=
  if battle then { m_group := player.m_originalGroup, m_originalGroup := .null }
  else if player.m_originalGroup = .this then { player with m_originalGroup := .null }
  else { player with m_group := .null }

def invalidate : Player where
  m_group := if player.m_group = .this then .null else player.m_group
  m_originalGroup := if player.m_originalGroup = .this then .null else player.m_originalGroup

end Player

/-- The sources of the references to this group. -/
def m_memberMgr (players : StdMap ℕ Player) : List ℕ :=
  players.entries.flatMap fun entry => List.replicate entry.2.links entry.1

namespace Group

variable (group : Group)

def isLFGGroup (restricted : Bool) : Bool :=
  group.m_groupType &&& GROUPTYPE_LFG ≠ 0 ∧
    (!restricted ∨ group.m_groupType &&& GROUPTYPE_LFG_RESTRICTED ≠ 0)

def isRaidGroup : Bool := group.m_groupType &&& GROUPTYPE_RAID ≠ 0

/-- `isBGGroup() || isBFGroup()` -/
def isBattleGroup : Bool := group.m_bgGroup || group.m_bfGroup

def IsFull : Bool :=
  if group.isRaidGroup then MAXRAIDSIZE ≤ group.m_memberSlots.length
  else MAXGROUPSIZE ≤ group.m_memberSlots.length

/-- `isBGGroup() || isLFGGroup() || isBFGroup() ? 1u : 2u` -/
def minimumSize : ℕ :=
  if group.isBattleGroup || group.isLFGGroup false then 1 else 2

def memberGuids : List ℕ := group.m_memberSlots.map (·.guid)

def subGroups : List (Fin MAX_RAID_SUBGROUPS) := group.m_memberSlots.map (·.group)

/-- `_getMemberCSlot` and `_getMemberWSlot` -/
def getMemberSlot (guid : ℕ) : Option MemberSlot :=
  group.m_memberSlots.find? fun slot => slot.guid = guid

/-- An update of the first slot of a player. -/
def modifySlot (guid : ℕ) (f : MemberSlot → MemberSlot) : List MemberSlot → List MemberSlot
  | [] => []
  | slot :: rest => if slot.guid = guid then f slot :: rest else slot :: modifySlot guid f rest

def IsMember (guid : ℕ) : Bool := (group.getMemberSlot guid).isSome

def IsLeader (guid : ℕ) : Bool := group.m_leaderGuid = guid

def IsAssistant (guid : ℕ) : Bool :=
  match group.getMemberSlot guid with
  | none => false
  | some slot => slot.flags &&& MEMBER_FLAG_ASSISTANT ≠ 0

/-- `flags |= flag` or `flags &= ~flag` on eight bits. -/
def toggleFlag (flags flag : ℕ) (apply : Bool) : ℕ :=
  if apply then flags ||| flag else flags &&& (255 ^^^ flag)

/-! ## Subgroup counters -/

def _initRaidSubGroupsCounter : Group :=
  { group with
    m_subGroupsCounts := some (group.m_memberSlots.foldl
      (fun counts slot => Function.update counts slot.group (uint8 (counts slot.group + 1)))
      fun _ => 0) }

def SubGroupCounterIncrease (subgroup : Fin MAX_RAID_SUBGROUPS) : Group :=
  { group with
    m_subGroupsCounts := group.m_subGroupsCounts.map fun counts =>
      Function.update counts subgroup (uint8 (counts subgroup + 1)) }

def SubGroupCounterDecrease (subgroup : Fin MAX_RAID_SUBGROUPS) : Group :=
  { group with
    m_subGroupsCounts := group.m_subGroupsCounts.map fun counts =>
      Function.update counts subgroup (uint8 (counts subgroup + 255)) }

def HasFreeSlotSubGroup (subgroup : Fin MAX_RAID_SUBGROUPS) : Bool :=
  match group.m_subGroupsCounts with
  | none => false
  | some counts => counts subgroup < MAXGROUPSIZE

/-- "Get first not-full group" -/
def firstFreeSubGroup : Option (Fin MAX_RAID_SUBGROUPS) :=
  match group.m_subGroupsCounts with
  | none => some ⟨0, by decide⟩
  | some counts => (List.finRange MAX_RAID_SUBGROUPS).find? fun subGroup =>
    counts subGroup < MAXGROUPSIZE

/-! ## The group's own part of the operations -/

def addSlot (guid : ℕ) (subGroup : Fin MAX_RAID_SUBGROUPS) : Group :=
  let slot : MemberSlot := ⟨guid, subGroup, 0⟩
  { group with m_memberSlots := group.m_memberSlots ++ [slot] }.SubGroupCounterIncrease subGroup

/-- "Update subgroups" in `RemoveMember`. -/
def eraseSlot (guid : ℕ) : Group :=
  match group.getMemberSlot guid with
  | none => group
  | some slot =>
    { group.SubGroupCounterDecrease slot.group with
      m_memberSlots := group.m_memberSlots.eraseP fun slot => slot.guid = guid }

/-- `connected` are the players `FindConnectedPlayer` finds. -/
def ChangeLeader (connected : ℕ → Bool) (newLeaderGuid : ℕ) : Group :=
  if group.IsMember newLeaderGuid then
    if connected newLeaderGuid then
      { group with
        m_leaderGuid := newLeaderGuid
        m_memberSlots := modifySlot newLeaderGuid
          (fun slot => { slot with flags := toggleFlag slot.flags MEMBER_FLAG_ASSISTANT false })
          group.m_memberSlots }
    else group
  else group

def pickLeader (connected : ℕ → Bool) (guid : ℕ) : Group :=
  if group.m_leaderGuid = guid then
    match group.m_memberSlots.find? fun slot => connected slot.guid with
    | none => group
    | some slot => group.ChangeLeader connected slot.guid
  else group

def ConvertToLFG (restricted : Bool) : Group :=
  { group with
    m_groupType :=
      if restricted then (group.m_groupType ||| GROUPTYPE_LFG) ||| GROUPTYPE_LFG_RESTRICTED
      else group.m_groupType ||| GROUPTYPE_LFG }

def ConvertToRaid : Group :=
  { group with m_groupType := group.m_groupType ||| GROUPTYPE_RAID }._initRaidSubGroupsCounter

def ChangeMembersGroup (guid : ℕ) (subgroup : Fin MAX_RAID_SUBGROUPS) : Group :=
  if !group.isRaidGroup then group
  else match group.getMemberSlot guid with
    | none => group
    | some slot =>
      if slot.group = subgroup then group
      else ({ group with
        m_memberSlots := modifySlot guid (fun slot => { slot with group := subgroup })
          group.m_memberSlots }.SubGroupCounterIncrease subgroup).SubGroupCounterDecrease
            slot.group

def HandleGroupChangeSubGroupOpcode (senderGuid guid groupNr : ℕ) : Group :=
  if hgroupNr : groupNr < MAX_RAID_SUBGROUPS then
    if !group.IsLeader senderGuid && !group.IsAssistant senderGuid then group
    else if !group.HasFreeSlotSubGroup ⟨groupNr, hgroupNr⟩ then group
    else group.ChangeMembersGroup guid ⟨groupNr, hgroupNr⟩
  else group

def SetGroupMemberFlag (guid : ℕ) (apply : Bool) (flag : ℕ) : Group :=
  if !group.isRaidGroup then group
  else if !group.IsMember guid then group
  else if flag = MEMBER_FLAG_MAINASSIST ∨ flag = MEMBER_FLAG_MAINTANK then
    { group with
      m_memberSlots := modifySlot guid
        (fun slot => { slot with flags := toggleFlag slot.flags flag apply })
        (group.m_memberSlots.map fun slot =>
          { slot with flags := toggleFlag slot.flags flag false }) }
  else if flag = MEMBER_FLAG_ASSISTANT then
    { group with
      m_memberSlots := modifySlot guid
        (fun slot => { slot with flags := toggleFlag slot.flags flag apply })
        group.m_memberSlots }
  else group

end Group

namespace World

variable (world : World)

/-- `FindConnectedPlayer(guid) != nullptr` -/
def connected (guid : ℕ) : Bool := (world.players.find? guid).isSome

def setGroup (group : Group) : World := { world with group := some group }

def updatePlayer (players : StdMap ℕ Player) (guid : ℕ) (f : Player → Player) : StdMap ℕ Player :=
  match players.find? guid with
  | none => players
  | some player => players.insert guid (f player)

def AddMember (group : Group) (guid : ℕ) : World × Bool :=
  match world.players.find? guid with
  | none => (world, false)
  | some player =>
    match group.firstFreeSubGroup with
    | none => (world, false)
    | some subGroup =>
      ({ world with
        players := world.players.insert guid (player.join group.isBattleGroup)
        group := some (group.addSlot guid subGroup) }, true)

def Disband (group : Group) : World :=
  { players := (group.m_memberSlots.foldl (fun players slot =>
      updatePlayer players slot.guid (·.leave group.isBattleGroup)) world.players).mapValues
        fun _ player => player.invalidate
    group := none
    rolls := { world.rolls with RollId := [] } }

/-- The end of `RemoveMember`: does the group that is left have to be disbanded? -/
def tooFewLeft (group : Group) (env : RemoveEnv) : Bool :=
  (group.isLFGGroup false && group.m_memberSlots.length = 1 &&
    (env.outOfDungeon || !world.connected group.m_leaderGuid)) ||
  (m_memberMgr world.players).length < group.minimumSize

/-- `RemoveMember` for a group that is large enough, before the question who is left. -/
def takeOut (group : Group) (guid : ℕ) (env : RemoveEnv) : World × Group :=
  let players := updatePlayer world.players guid (·.leave group.isBattleGroup)
  let rolls := withdrawPlayer env.roll world.rolls guid
  let group := (group.eraseSlot guid).pickLeader (fun other => (players.find? other).isSome) guid
  (⟨players, some group, rolls⟩, group)

/-- Together with the result of the function, `true` while there is a group. -/
def RemoveMember (group : Group) (guid : ℕ) (method : RemoveMethod)
    (env : RemoveEnv) : World × Bool :=
  if group.isLFGGroup true && method = .GROUP_REMOVEMETHOD_KICK then
    (world, 0 < group.m_memberSlots.length)
  else if group.minimumSize < group.m_memberSlots.length then
    let (left, group) := world.takeOut group guid env
    if left.tooFewLeft group env then (left.Disband group, false) else (left, true)
  else (world.Disband group, false)

/-- The group is created and its first member added. -/
def Create (players : StdMap ℕ Player) (leader : ℕ) (m_bgGroup m_bfGroup : Bool)
    (nextItemGUID : ℕ) : World × Bool :=
  let group : Group :=
    { m_memberSlots := []
      m_leaderGuid := leader
      m_groupType := if m_bgGroup || m_bfGroup then GROUPTYPE_BGRAID else GROUPTYPE_NORMAL
      m_bgGroup := m_bgGroup
      m_bfGroup := m_bfGroup
      m_lootThreshold := ITEM_QUALITY_UNCOMMON
      m_subGroupsCounts := none }
  let group := if group.isRaidGroup then group._initRaidSubGroupsCounter else group
  AddMember ⟨players, some group, ⟨[], fun _ => none, nextItemGUID⟩⟩ group leader

def freshLoot (id : ℕ) (loot : Loot) : Bool :=
  (world.rolls.loots id).isNone && world.rolls.RollId.all (fun roll => roll.loot ≠ id) &&
    (loot.items ++ loot.quest_items).all fun item => !item.is_blocked

/-- The operations. `relink` is what other code does to the references of a player:
a login, which links a member (`_LoadGroup`), and joining or leaving other groups and
battlegrounds. -/
inductive Op where
  | AddMember (guid : ℕ)
  | RemoveMember (guid : ℕ) (method : RemoveMethod) (env : RemoveEnv)
  | ConvertToRaid
  | ConvertToLFG (restricted : Bool)
  | ChangeSubGroup (senderGuid guid groupNr : ℕ)
  | SetGroupMemberFlag (guid : ℕ) (apply : Bool) (flag : ℕ)
  | ChangeLeader (guid : ℕ)
  | SetLootThreshold (threshold : ℕ)
  | relink (guid : ℕ) (player : Player)
  | disconnect (guid : ℕ)
  | GroupLoot (env : LootEnv) (id : ℕ) (loot : Loot)
  | NeedBeforeGreed (env : LootEnv) (id : ℕ) (loot : Loot)
  | CountRollVote (env : RollEnv) (playerGUID Guid Choice : ℕ)
  | EndRoll (env : RollEnv) (id : ℕ) (allowedMap : Option ℕ)
  | deleteLoot (id : ℕ)

def mayLink (group : Group) (guid : ℕ) (player : Player) : Bool :=
  player.links ≤ group.memberGuids.count guid ∧
    (group.isBattleGroup → player.m_originalGroup = .this → player.m_group = .this)

def step (op : Op) : Option World :=
  match world.group with
  | none => none
  | some group =>
    match op with
    | .AddMember guid =>
      if group.IsFull then none else some (world.AddMember group guid).1
    | .RemoveMember guid method env => some (world.RemoveMember group guid method env).1
    | .ConvertToRaid => some (world.setGroup group.ConvertToRaid)
    | .ConvertToLFG restricted => some (world.setGroup (group.ConvertToLFG restricted))
    | .ChangeSubGroup senderGuid guid groupNr =>
      some (world.setGroup (group.HandleGroupChangeSubGroupOpcode senderGuid guid groupNr))
    | .SetGroupMemberFlag guid apply flag =>
      some (world.setGroup (group.SetGroupMemberFlag guid apply flag))
    | .ChangeLeader guid => some (world.setGroup (group.ChangeLeader world.connected guid))
    | .SetLootThreshold threshold =>
      some (world.setGroup { group with m_lootThreshold := threshold })
    | .relink guid player =>
      if mayLink group guid player then
        some { world with players := world.players.insert guid player }
      else none
    | .disconnect guid => some { world with players := world.players.erase guid }
    | .GroupLoot env id loot =>
      if world.freshLoot id loot then
        some { world with
          rolls := LootRoll.GroupLoot env group.m_lootThreshold (m_memberMgr world.players)
            (world.rolls.setLoot id loot) id }
      else none
    | .NeedBeforeGreed env id loot =>
      if world.freshLoot id loot then
        (LootRoll.NeedBeforeGreed env group.m_lootThreshold (m_memberMgr world.players)
          (world.rolls.setLoot id loot) id).map fun rolls => { world with rolls := rolls }
      else none
    | .CountRollVote env playerGUID Guid Choice =>
      some { world with
        rolls := (LootRoll.CountRollVote env world.rolls playerGUID Guid Choice).1 }
    | .EndRoll env id allowedMap =>
      some { world with rolls := LootRoll.EndRoll env world.rolls id allowedMap }
    | .deleteLoot id =>
      some { world with
        rolls := { world.rolls with loots := Function.update world.rolls.loots id none } }

def Created : Prop :=
  ∃ players leader m_bgGroup m_bfGroup nextItemGUID,
    (∀ guid player, players.find? guid = some player → player.links = 0) ∧
    Create players leader m_bgGroup m_bfGroup nextItemGUID = (world, true)

end World

end AzerothCore

/-! ## The members of a group -/

namespace AzerothCore
open List Option Function Bool Nat StdMap

variable {after : Group} {guid : ℕ} {subGroup : Fin MAX_RAID_SUBGROUPS} {player : Player}

namespace Group

variable {group : Group}

theorem modifySlot_map {B : Type*} (key : MemberSlot → B) (guid : ℕ) {f : MemberSlot → MemberSlot}
    (hkey : ∀ slot, key (f slot) = key slot) (slots : List MemberSlot) :
    (modifySlot guid f slots).map key = slots.map key := by
  induction slots with
  | nil => rfl
  | cons head tail ih =>
    rw [modifySlot]
    split
    · rw [map_cons, map_cons, hkey]
    · rw [map_cons, map_cons, ih]

variable {slot : MemberSlot} {slots : List MemberSlot}

theorem find?_perm (hfind : slots.find? (fun slot => slot.guid = guid) = some slot) :
    slots.Perm (slot :: slots.eraseP fun slot => slot.guid = guid) := by
  induction slots with
  | nil => simp at hfind
  | cons head tail ih =>
    by_cases hhead : head.guid = guid
    · simp only [List.find?_cons, hhead, decide_true, Option.some.injEq] at hfind
      subst hfind
      simp [hhead]
    · simp only [List.find?_cons, hhead, decide_false] at hfind
      rw [eraseP_cons_of_neg (by simpa using hhead)]
      exact ((ih hfind).cons head).trans (List.Perm.swap _ _ _)

theorem modifySlot_perm (f : MemberSlot → MemberSlot)
    (hfind : slots.find? (fun slot => slot.guid = guid) = some slot) :
    (modifySlot guid f slots).Perm (f slot :: slots.eraseP fun slot => slot.guid = guid) := by
  induction slots with
  | nil => simp at hfind
  | cons head tail ih =>
    by_cases hhead : head.guid = guid
    · simp only [List.find?_cons, hhead, decide_true, Option.some.injEq] at hfind
      subst hfind
      simp [modifySlot, hhead]
    · simp only [List.find?_cons, hhead, decide_false] at hfind
      rw [eraseP_cons_of_neg (by simpa using hhead), modifySlot, if_neg hhead]
      exact ((ih hfind).cons head).trans (List.Perm.swap _ _ _)

theorem map_guid_eraseP (guid : ℕ) (slots : List MemberSlot) :
    (slots.eraseP fun slot => slot.guid = guid).map (·.guid) = (slots.map (·.guid)).erase guid := by
  induction slots with
  | nil => rfl
  | cons head tail ih =>
    by_cases hhead : head.guid = guid
    · simp [hhead]
    · rw [eraseP_cons_of_neg (by simpa using hhead), map_cons, map_cons, ih,
        erase_cons_tail (by simpa using hhead)]

theorem mem_memberGuids_iff : guid ∈ group.memberGuids ↔ group.IsMember guid = true := by
  rw [IsMember, getMemberSlot, List.find?_isSome, memberGuids, List.mem_map]
  simp

structure Counted (group : Group) : Prop where
  raid : group.isRaidGroup = true → group.m_subGroupsCounts ≠ none
  counts : ∀ counts, group.m_subGroupsCounts = some counts → ∀ subgroup,
    counts subgroup = group.subGroups.count subgroup ∧ counts subgroup ≤ MAXGROUPSIZE
  small : group.m_subGroupsCounts = none → group.m_memberSlots.length ≤ MAXGROUPSIZE

theorem Counted.of_same (hcounted : Counted group) (hraid : after.isRaidGroup = group.isRaidGroup)
    (hcounts : after.m_subGroupsCounts = group.m_subGroupsCounts)
    (hslots : after.subGroups = group.subGroups) : Counted after := by
  have hlen : after.m_memberSlots.length = group.m_memberSlots.length := by
    simpa [subGroups] using congrArg List.length hslots
  refine ⟨?_, ?_, ?_⟩
  · rw [hraid, hcounts]
    exact hcounted.raid
  · rw [hcounts, hslots]
    exact hcounted.counts
  · rw [hcounts, hlen]
    exact hcounted.small

theorem sum_count_subGroups (list : List (Fin MAX_RAID_SUBGROUPS)) :
    ∑ subgroup, list.count subgroup = list.length := by
  induction list with
  | nil => simp
  | cons head tail ih =>
    simp only [count_cons, Finset.sum_add_distrib, ih, length_cons]
    simp

theorem firstFreeSubGroup_isSome (hcounted : Counted group)
    (hlen : group.m_memberSlots.length < MAXRAIDSIZE) :
    group.firstFreeSubGroup.isSome = true := by
  rw [firstFreeSubGroup]
  split
  · rfl
  rename_i counts hcounts
  rw [List.find?_isSome]
  by_contra hfull
  have hge : ∀ subgroup, MAXGROUPSIZE ≤ group.subGroups.count subgroup := by
    intro subgroup
    rw [← (hcounted.counts counts hcounts subgroup).1]
    by_contra hlt
    exact hfull ⟨subgroup, mem_finRange subgroup, by simpa using hlt⟩
  have hsum : ∑ _subgroup : Fin MAX_RAID_SUBGROUPS, MAXGROUPSIZE ≤
      ∑ subgroup, group.subGroups.count subgroup :=
    Finset.sum_le_sum fun subgroup _ => hge subgroup
  rw [sum_count_subGroups, Finset.sum_const, Finset.card_univ, Fintype.card_fin, subGroups,
    length_map] at hsum
  exact absurd hlen (not_lt.mpr hsum)

theorem firstFreeSubGroup_lt {counts : Fin MAX_RAID_SUBGROUPS → ℕ}
    (hcounts : group.m_subGroupsCounts = some counts)
    (hfree : group.firstFreeSubGroup = some subGroup) : counts subGroup < MAXGROUPSIZE := by
  rw [firstFreeSubGroup, hcounts] at hfree
  simpa using List.find?_some hfree

theorem subGroups_addSlot (guid : ℕ) (subGroup : Fin MAX_RAID_SUBGROUPS) :
    (group.addSlot guid subGroup).subGroups = group.subGroups ++ [subGroup] := by
  simp [addSlot, SubGroupCounterIncrease, subGroups]

theorem memberGuids_addSlot (guid : ℕ) (subGroup : Fin MAX_RAID_SUBGROUPS) :
    (group.addSlot guid subGroup).memberGuids = group.memberGuids ++ [guid] := by
  simp [addSlot, SubGroupCounterIncrease, memberGuids]

theorem counted_addSlot (hcounted : Counted group) (hfull : group.IsFull = false)
    (hfree : group.firstFreeSubGroup = some subGroup) : Counted (group.addSlot guid subGroup) := by
  refine ⟨fun hraid => ?_, fun counts hcounts subgroup => ?_, fun hnone => ?_⟩
  · have hsome := hcounted.raid hraid
    simpa [addSlot, SubGroupCounterIncrease] using hsome
  · obtain ⟨old, hold, hnew⟩ : ∃ old, group.m_subGroupsCounts = some old ∧
        Function.update old subGroup (uint8 (old subGroup + 1)) = counts := by
      simpa [addSlot, SubGroupCounterIncrease] using hcounts
    have hlt := firstFreeSubGroup_lt hold hfree
    obtain ⟨heq, hle⟩ := hcounted.counts old hold subgroup
    rw [subGroups_addSlot, count_append, ← heq, ← hnew]
    by_cases hsame : subgroup = subGroup
    · subst hsame
      have hsmall : old subgroup + 1 < 2 ^ 8 := by
        rw [MAXGROUPSIZE] at hlt
        omega
      rw [update_self, uint8_of_lt hsmall, count_singleton_self]
      exact ⟨rfl, hlt⟩
    · rw [update_of_ne hsame, count_singleton]
      simp [Ne.symm hsame, hle]
  · have hold : group.m_subGroupsCounts = none := by
      simpa [addSlot, SubGroupCounterIncrease] using hnone
    have hraid : group.isRaidGroup = false := by
      by_contra hraid
      exact hcounted.raid (by simpa using hraid) hold
    have hlt : group.m_memberSlots.length < MAXGROUPSIZE := by
      simpa [IsFull, hraid] using hfull
    simpa [addSlot, SubGroupCounterIncrease] using succ_le_of_lt hlt

theorem eraseSlot_of_none (hslot : group.getMemberSlot guid = none) :
    group.eraseSlot guid = group := by
  rw [eraseSlot, hslot]

theorem memberGuids_eraseSlot (guid : ℕ) :
    (group.eraseSlot guid).memberGuids = group.memberGuids.erase guid := by
  cases hslot : group.getMemberSlot guid with
  | none =>
    have hmem : guid ∉ group.memberGuids := by
      rw [mem_memberGuids_iff, IsMember, hslot]
      simp
    rw [eraseSlot_of_none hslot, List.erase_of_not_mem hmem]
  | some slot =>
    rw [eraseSlot, hslot]
    exact map_guid_eraseP guid group.m_memberSlots

theorem subGroups_eraseSlot (hslot : group.getMemberSlot guid = some slot) :
    group.subGroups.Perm (slot.group :: (group.eraseSlot guid).subGroups) := by
  rw [eraseSlot, hslot]
  exact (find?_perm hslot).map (·.group)

theorem uint8_pred {value : ℕ} (hpos : 0 < value) (hlt : value < 2 ^ 8) :
    uint8 (value + 255) = value - 1 := by
  rw [uint8]
  omega

theorem counted_eraseSlot (hcounted : Counted group) : Counted (group.eraseSlot guid) := by
  rcases hslot : group.getMemberSlot guid with _ | slot
  · rw [eraseSlot_of_none hslot]
    exact hcounted
  have hperm := subGroups_eraseSlot hslot
  refine ⟨fun hraid => ?_, fun counts hcounts subgroup => ?_, fun hnone => ?_⟩
  · have hsome := hcounted.raid (by simpa [eraseSlot, hslot, isRaidGroup,
      SubGroupCounterDecrease] using hraid)
    simpa [eraseSlot, hslot, SubGroupCounterDecrease] using hsome
  · obtain ⟨old, hold, hnew⟩ : ∃ old, group.m_subGroupsCounts = some old ∧
        Function.update old slot.group (uint8 (old slot.group + 255)) = counts := by
      simpa [eraseSlot, hslot, SubGroupCounterDecrease] using hcounts
    obtain ⟨heq, hle⟩ := hcounted.counts old hold subgroup
    rw [hperm.count_eq, count_cons] at heq
    rw [← hnew]
    rw [MAXGROUPSIZE] at hle ⊢
    by_cases hsame : subgroup = slot.group
    · rw [hsame, beq_self_eq_true, if_pos rfl] at heq
      rw [hsame] at hle ⊢
      rw [update_self, uint8_pred (by omega) (by omega)]
      omega
    · rw [update_of_ne hsame, heq]
      rw [heq] at hle
      have hbeq : (slot.group == subgroup) = false := by simpa using Ne.symm hsame
      rw [hbeq] at hle ⊢
      simpa using hle
  · have hold : group.m_subGroupsCounts = none := by
      simpa [eraseSlot, hslot, SubGroupCounterDecrease] using hnone
    have hlen := hperm.length_eq
    simp only [subGroups, length_map, length_cons] at hlen
    have hsmall := hcounted.small hold
    omega

theorem counted_initRaidSubGroupsCounter
    (hle : ∀ subgroup, group.subGroups.count subgroup ≤ MAXGROUPSIZE) :
    Counted group._initRaidSubGroupsCounter := by
  have hfold : ∀ (slots : List MemberSlot) (counts : Fin MAX_RAID_SUBGROUPS → ℕ) subgroup,
      uint8 (slots.foldl (fun counts slot =>
        Function.update counts slot.group (uint8 (counts slot.group + 1))) counts subgroup) =
      uint8 (counts subgroup + (slots.map (·.group)).count subgroup) := by
    intro slots
    induction slots with
    | nil => intro counts subgroup; rfl
    | cons head tail ih =>
      intro counts subgroup
      rw [foldl_cons, ih, map_cons, count_cons]
      by_cases hsame : subgroup = head.group
      · rw [hsame, update_self, beq_self_eq_true, if_pos rfl]
        simp only [uint8]
        omega
      · have hbeq : (head.group == subgroup) = false := by simpa using Ne.symm hsame
        rw [update_of_ne hsame, hbeq]
        simp
  have hlt : ∀ (slots : List MemberSlot) (counts : Fin MAX_RAID_SUBGROUPS → ℕ),
      (∀ subgroup, counts subgroup < 2 ^ 8) → ∀ subgroup, slots.foldl (fun counts slot =>
        Function.update counts slot.group (uint8 (counts slot.group + 1))) counts subgroup < 2 ^ 8 := by
    intro slots
    induction slots with
    | nil => intro counts hcounts subgroup; exact hcounts subgroup
    | cons head tail ih =>
      intro counts hcounts subgroup
      rw [foldl_cons]
      refine ih _ (fun other => ?_) subgroup
      by_cases hsame : other = head.group
      · rw [hsame, update_self]
        exact uint8_lt _
      · rw [update_of_ne hsame]
        exact hcounts other
  refine ⟨fun _ => by simp [_initRaidSubGroupsCounter], fun counts hcounts subgroup => ?_,
    fun hnone => by simp [_initRaidSubGroupsCounter] at hnone⟩
  have hcounts' : group.m_memberSlots.foldl (fun counts slot =>
      Function.update counts slot.group (uint8 (counts slot.group + 1))) (fun _ => 0) = counts := by
    simpa [_initRaidSubGroupsCounter] using hcounts
  have hvalue := hfold group.m_memberSlots (fun _ => 0) subgroup
  have hbound := hlt group.m_memberSlots (fun _ => 0) (fun _ => by decide) subgroup
  have hsub := hle subgroup
  rw [hcounts'] at hvalue hbound
  rw [uint8_of_lt hbound, Nat.zero_add] at hvalue
  have hcount : uint8 (group.subGroups.count subgroup) = group.subGroups.count subgroup := by
    apply uint8_of_lt
    rw [MAXGROUPSIZE] at hsub
    omega
  have heq : counts subgroup = group.subGroups.count subgroup := hvalue.trans hcount
  exact ⟨heq, heq.trans_le hsub⟩

theorem count_le (hcounted : Counted group) (subgroup : Fin MAX_RAID_SUBGROUPS) :
    group.subGroups.count subgroup ≤ MAXGROUPSIZE := by
  cases hcounts : group.m_subGroupsCounts with
  | none =>
    have hsmall := hcounted.small hcounts
    have hle : group.subGroups.count subgroup ≤ group.subGroups.length := count_le_length
    rw [subGroups, length_map] at hle
    exact hle.trans hsmall
  | some counts =>
    obtain ⟨heq, hle⟩ := hcounted.counts counts hcounts subgroup
    exact heq.symm.trans_le hle

theorem counted_changeMembersGroup {subgroup : Fin MAX_RAID_SUBGROUPS} (hcounted : Counted group)
    (hfree : group.HasFreeSlotSubGroup subgroup = true) :
    Counted (group.ChangeMembersGroup guid subgroup) := by
  rw [ChangeMembersGroup]
  split
  · exact hcounted
  rename_i hraid
  split
  · exact hcounted
  rename_i slot hslot
  split
  · exact hcounted
  rename_i hne
  have hold := find?_perm hslot
  have hnew := modifySlot_perm (fun slot => { slot with group := subgroup }) hslot
  have hold' := hold.map (·.group)
  have hnew' := hnew.map (·.group)
  rw [map_cons] at hold' hnew'
  refine ⟨fun hraid' => ?_, fun counts hcounts other => ?_, fun hnone => ?_⟩
  · have hsome := hcounted.raid hraid'
    simpa [SubGroupCounterDecrease, SubGroupCounterIncrease] using hsome
  · obtain ⟨old, hold, hupdate⟩ : ∃ old, group.m_subGroupsCounts = some old ∧
        Function.update (Function.update old subgroup (uint8 (old subgroup + 1))) slot.group
          (uint8 (Function.update old subgroup (uint8 (old subgroup + 1)) slot.group + 255)) =
        counts := by
      simpa [SubGroupCounterDecrease, SubGroupCounterIncrease, comp_def] using hcounts
    have hlt : old subgroup < MAXGROUPSIZE := by
      simpa [HasFreeSlotSubGroup, hold] using hfree
    have hbefore := hcounted.counts old hold other
    rw [subGroups, hold'.count_eq, count_cons] at hbefore
    rw [subGroups]
    simp only [SubGroupCounterDecrease, SubGroupCounterIncrease]
    rw [hnew'.count_eq, count_cons, ← hupdate, update_of_ne hne]
    rw [MAXGROUPSIZE] at hlt hbefore ⊢
    by_cases hprev : other = slot.group
    · have hbeq : (subgroup == other) = false := by
        rw [hprev]
        simpa using Ne.symm hne
      rw [hprev, beq_self_eq_true, if_pos rfl] at hbefore
      rw [hbeq, hprev, update_self, uint8_pred (by omega) (by omega)]
      simp only [false_eq_true, if_false]
      omega
    · have hbeq : (slot.group == other) = false := by simpa using Ne.symm hprev
      rw [hbeq] at hbefore
      simp only [false_eq_true, if_false] at hbefore
      rw [update_of_ne hprev]
      by_cases hnext : other = subgroup
      · rw [hnext] at hbefore ⊢
        rw [update_self, uint8_of_lt (by omega), beq_self_eq_true, if_pos rfl]
        omega
      · have hbeq' : (subgroup == other) = false := by simpa using Ne.symm hnext
        rw [update_of_ne hnext, hbeq']
        simpa using hbefore
  · have hold : group.m_subGroupsCounts = none := by
      simpa [SubGroupCounterDecrease, SubGroupCounterIncrease] using hnone
    exact absurd hold (hcounted.raid (by simpa using hraid))

/-! ## Operations that leave the members alone -/

structure SameMembers (before after : Group) : Prop where
  guids : after.memberGuids = before.memberGuids
  subGroups : after.subGroups = before.subGroups
  counts : after.m_subGroupsCounts = before.m_subGroupsCounts
  raid : after.isRaidGroup = before.isRaidGroup
  battle : after.isBattleGroup = before.isBattleGroup

theorem SameMembers.refl (group : Group) : SameMembers group group := ⟨rfl, rfl, rfl, rfl, rfl⟩

theorem SameMembers.counted (hsame : SameMembers group after) (hcounted : Counted group) :
    Counted after :=
  hcounted.of_same hsame.raid hsame.counts hsame.subGroups

theorem sameMembers_of_flags {leader : ℕ} (hguids : slots.map (·.guid) = group.memberGuids)
    (hsubGroups : slots.map (·.group) = group.subGroups) :
    SameMembers group { group with m_memberSlots := slots, m_leaderGuid := leader } :=
  ⟨hguids, hsubGroups, rfl, rfl, rfl⟩

variable (connected : ℕ → Bool)

theorem sameMembers_changeLeader (guid : ℕ) :
    SameMembers group (group.ChangeLeader connected guid) := by
  rw [ChangeLeader]
  split
  · split
    · exact sameMembers_of_flags (modifySlot_map _ guid (by simp) _)
        (modifySlot_map _ guid (by simp) _)
    · exact .refl group
  · exact .refl group

theorem sameMembers_pickLeader (guid : ℕ) :
    SameMembers group (group.pickLeader connected guid) := by
  rw [pickLeader]
  split
  · split
    · exact .refl group
    · exact sameMembers_changeLeader connected _
  · exact .refl group

theorem sameMembers_setGroupMemberFlag (guid : ℕ) (apply : Bool) (flag : ℕ) :
    SameMembers group (group.SetGroupMemberFlag guid apply flag) := by
  rw [SetGroupMemberFlag]
  split
  · exact .refl group
  split
  · exact .refl group
  split
  · refine sameMembers_of_flags ?_ ?_
    · rw [modifySlot_map _ guid (by simp), List.map_map]
      rfl
    · rw [modifySlot_map _ guid (by simp), List.map_map]
      rfl
  · split
    · exact sameMembers_of_flags (modifySlot_map _ guid (by simp) _)
        (modifySlot_map _ guid (by simp) _)
    · exact .refl group

theorem sameMembers_convertToLFG (restricted : Bool) :
    SameMembers group (group.ConvertToLFG restricted) := by
  refine ⟨rfl, rfl, rfl, ?_, rfl⟩
  have hbits : ∀ flags : ℕ, (flags ||| GROUPTYPE_LFG) &&& GROUPTYPE_RAID =
      flags &&& GROUPTYPE_RAID := by
    intro flags
    rw [Nat.and_or_distrib_right]
    exact or_zero _
  have hbits' : ∀ flags : ℕ, (flags ||| GROUPTYPE_LFG_RESTRICTED) &&& GROUPTYPE_RAID =
      flags &&& GROUPTYPE_RAID := by
    intro flags
    rw [Nat.and_or_distrib_right]
    exact or_zero _
  cases restricted with
  | false => simp only [isRaidGroup, ConvertToLFG, false_eq_true, if_false, hbits]
  | true => simp only [isRaidGroup, ConvertToLFG, if_true, hbits, hbits']

theorem memberGuids_changeMembersGroup (guid : ℕ) (subgroup : Fin MAX_RAID_SUBGROUPS) :
    (group.ChangeMembersGroup guid subgroup).memberGuids = group.memberGuids ∧
      (group.ChangeMembersGroup guid subgroup).isBattleGroup = group.isBattleGroup ∧
      (group.ChangeMembersGroup guid subgroup).m_leaderGuid = group.m_leaderGuid := by
  rw [ChangeMembersGroup]
  split
  · exact ⟨rfl, rfl, rfl⟩
  split
  · exact ⟨rfl, rfl, rfl⟩
  split
  · exact ⟨rfl, rfl, rfl⟩
  · exact ⟨modifySlot_map _ guid (by simp) _, rfl, rfl⟩

theorem leader_changeLeader (guid : ℕ) :
    (group.ChangeLeader connected guid).m_leaderGuid = group.m_leaderGuid ∨
      (group.ChangeLeader connected guid).m_leaderGuid ∈ group.memberGuids := by
  rw [ChangeLeader]
  split
  · rename_i hmember
    split
    · exact .inr (mem_memberGuids_iff.mpr hmember)
    · exact .inl rfl
  · exact .inl rfl

theorem leader_pickLeader {connected : ℕ → Bool}
    (hleader : group.m_leaderGuid ≠ guid → group.m_leaderGuid ∈ group.memberGuids)
    (hconnected : ∃ other ∈ group.memberGuids, connected other = true) :
    (group.pickLeader connected guid).m_leaderGuid ∈ group.memberGuids := by
  rw [pickLeader]
  split
  · split
    · rename_i hnone
      obtain ⟨other, hother, hon⟩ := hconnected
      obtain ⟨slot, hslot, rfl⟩ := List.mem_map.mp hother
      have hoff := List.find?_eq_none.mp hnone slot hslot
      exact absurd hon hoff
    · rename_i slot hslot
      have hon : connected slot.guid = true := by simpa using List.find?_some hslot
      have hmem : slot.guid ∈ group.memberGuids :=
        List.mem_map.mpr ⟨slot, mem_of_find?_eq_some hslot, rfl⟩
      rw [ChangeLeader, if_pos (mem_memberGuids_iff.mp hmem), if_pos hon]
      exact hmem
  · rename_i hother
    exact hleader hother

end Group

/-! ## References of players -/

namespace Player

theorem links_join (player : Player) (battle : Bool) :
    (player.join battle).links ≤ player.links + 1 := by
  rcases player with ⟨_ | _ | _, _ | _ | _⟩ <;> cases battle <;> decide

theorem links_leave {battle : Bool}
    (hbattle : battle = true → player.m_originalGroup = .this → player.m_group = .this) :
    (player.leave battle).links ≤ player.links - 1 := by
  rcases player with ⟨_ | _ | _, _ | _ | _⟩ <;> cases battle <;> revert hbattle <;> decide

theorem join_battle (horiginal : (player.join true).m_originalGroup = .this) :
    (player.join true).m_group = .this := by
  rcases player with ⟨_ | _ | _, _ | _ | _⟩ <;> decide

end Player

namespace World

open AzerothCore.Group Reachability

structure Sound (players : StdMap ℕ Player) (group : Group) : Prop where
  counted : Counted group
  linked : ∀ guid player, players.find? guid = some player → mayLink group guid player = true
  leader : group.m_leaderGuid ∈ group.memberGuids

theorem mayLink_iff {group : Group} : mayLink group guid player = true ↔
      player.links ≤ group.memberGuids.count guid ∧
      (group.isBattleGroup = true → player.m_originalGroup = .this → player.m_group = .this) :=
  decide_eq_true_iff

variable {world : World} {group : Group}

theorem mayLink_of_guids {before : Group} (hguids : after.memberGuids = before.memberGuids)
    (hbattle : after.isBattleGroup = before.isBattleGroup)
    (hlink : mayLink before guid player = true) : mayLink after guid player = true := by
  rw [mayLink_iff] at hlink ⊢
  rwa [hguids, hbattle]

variable {players : StdMap ℕ Player}

theorem Sound.of_sameMembers (hsound : Sound players group) (hsame : SameMembers group after)
    (hleader : after.m_leaderGuid ∈ group.memberGuids) : Sound players after := by
  refine ⟨hsame.counted hsound.counted, fun guid player hplayer => ?_, ?_⟩
  · exact mayLink_of_guids hsame.guids hsame.battle (hsound.linked guid player hplayer)
  · rw [hsame.guids]
    exact hleader

theorem sound_addSlot   
     (hcounted : Counted (group.addSlot guid subGroup))
    (hlinked : ∀ guid player, players.find? guid = some player → mayLink group guid player = true)
    (hplayer : players.find? guid = some player)
    (hleader : group.m_leaderGuid = guid ∨ group.m_leaderGuid ∈ group.memberGuids) :
    Sound (players.insert guid (player.join group.isBattleGroup)) (group.addSlot guid subGroup) := by
  refine ⟨hcounted, fun other found hfound => ?_, ?_⟩
  · rw [find?_insert] at hfound
    rw [mayLink_iff, memberGuids_addSlot, count_append]
    by_cases hsame : guid = other
    · rw [if_pos hsame, Option.some.injEq] at hfound
      obtain ⟨hlinks, -⟩ := mayLink_iff.mp (hlinked guid player hplayer)
      rw [← hsame, ← hfound, count_singleton_self]
      refine ⟨(player.links_join _).trans (Nat.add_le_add_right hlinks 1), fun hbattle => ?_⟩
      have hbattle' : group.isBattleGroup = true := hbattle
      rw [hbattle']
      exact Player.join_battle
    · rw [if_neg hsame] at hfound
      obtain ⟨hlinks, horiginal⟩ := mayLink_iff.mp (hlinked other found hfound)
      exact ⟨hlinks.trans (Nat.le_add_right _ _), horiginal⟩
  · have hkept : (group.addSlot guid subGroup).m_leaderGuid = group.m_leaderGuid := rfl
    rw [hkept, memberGuids_addSlot, mem_append, mem_singleton]
    exact hleader.symm

theorem sound_addMember (hworld : world.group = some group) (hsound : Sound world.players group)
    (hfull : group.IsFull = false) :
    ∀ after, (world.AddMember group guid).1.group = some after →
      Sound (world.AddMember group guid).1.players after := by
  intro after hafter
  rw [AddMember] at hafter ⊢
  split at hafter
  · rw [hworld, Option.some.injEq] at hafter
    rw [← hafter]
    exact hsound
  rename_i player hplayer
  split at hafter
  · rw [hworld, Option.some.injEq] at hafter
    rw [← hafter]
    exact hsound
  · rename_i subGroup hfree
    rw [Option.some.injEq] at hafter
    rw [← hafter]
    exact sound_addSlot (counted_addSlot hsound.counted hfull hfree) hsound.linked hplayer
      (.inr hsound.leader)

theorem addMember_succeeds (hcounted : Counted group)
    (hlen : group.m_memberSlots.length < MAXRAIDSIZE) (hguid : world.connected guid = true) :
    (world.AddMember group guid).2 = true := by
  obtain ⟨player, hplayer⟩ := isSome_iff_exists.mp hguid
  obtain ⟨subGroup, hfree⟩ :=
    isSome_iff_exists.mp (firstFreeSubGroup_isSome hcounted hlen)
  rw [AddMember, hplayer, hfree]

theorem find?_updatePlayer (players : StdMap ℕ Player) (guid other : ℕ) (f : Player → Player) :
    (updatePlayer players guid f).find? other =
      if guid = other then (players.find? other).map f else players.find? other := by
  rw [updatePlayer]
  split
  · rename_i hnone
    split
    · rename_i hsame
      rw [← hsame, hnone, map_none]
    · rfl
  · rename_i player hplayer
    rw [find?_insert]
    split
    · rename_i hsame
      rw [← hsame, hplayer, map_some]
    · rfl

/-- Without the slot and the reference that went with it, a player still refers to the
group at most as often as it is a member. -/
theorem mayLink_eraseSlot (guid : ℕ)
    (hlinked : ∀ guid player, players.find? guid = some player → mayLink group guid player = true)
    {other : ℕ} {found : Player}
    (hfound : (updatePlayer players guid (·.leave group.isBattleGroup)).find? other = some found) :
    mayLink (group.eraseSlot guid) other found = true := by
  have hbattle : (group.eraseSlot guid).isBattleGroup = group.isBattleGroup := by
    rw [eraseSlot]
    split <;> rfl
  rw [mayLink_iff, memberGuids_eraseSlot, hbattle]
  rw [find?_updatePlayer] at hfound
  by_cases hsame : guid = other
  · rw [if_pos hsame, map_eq_some_iff] at hfound
    obtain ⟨player, hplayer, rfl⟩ := hfound
    obtain ⟨hlinks, horiginal⟩ := mayLink_iff.mp (hlinked other player hplayer)
    rw [hsame, count_erase_self]
    refine ⟨(Player.links_leave horiginal).trans (Nat.sub_le_sub_right hlinks 1), ?_⟩
    intro htrue hthis
    rw [htrue, Player.leave, if_pos rfl] at hthis
    exact absurd hthis GroupLink.noConfusion
  · rw [if_neg hsame] at hfound
    obtain ⟨hlinks, horiginal⟩ := mayLink_iff.mp (hlinked other found hfound)
    rw [count_erase_of_ne (Ne.symm hsame)]
    exact ⟨hlinks, horiginal⟩

theorem memberMgr_eq_nil
    (hlinked : ∀ guid player, players.find? guid = some player → mayLink group guid player = true)
    (hoffline : ∀ guid ∈ group.memberGuids, players.find? guid = none) :
    m_memberMgr players = [] := by
  refine flatMap_eq_nil_iff.mpr fun entry hentry => ?_
  have hplayer : players.find? entry.1 = some entry.2 := find?_eq_some_iff.mpr hentry
  obtain ⟨hlinks, -⟩ := mayLink_iff.mp (hlinked entry.1 entry.2 hplayer)
  have hmem : entry.1 ∉ group.memberGuids := by
    intro hmem
    rw [hoffline entry.1 hmem] at hplayer
    exact absurd hplayer (by simp)
  rw [count_eq_zero_of_not_mem hmem] at hlinks
  rw [le_zero.mp hlinks]
  rfl

theorem minimumSize_pos (group : Group) : 0 < group.minimumSize := by
  rw [minimumSize]
  split <;> decide

theorem sound_takeOut {env : RemoveEnv} (hsound : Sound world.players group)
    (hleft : (world.takeOut group guid env).1.tooFewLeft (world.takeOut group guid env).2 env =
      false) :
    Sound (world.takeOut group guid env).1.players (world.takeOut group guid env).2 := by
  have hlinked : ∀ other found, (world.takeOut group guid env).1.players.find? other = some found →
      mayLink (group.eraseSlot guid) other found = true :=
    fun _ _ hfound => mayLink_eraseSlot guid hsound.linked hfound
  have hsame : SameMembers (group.eraseSlot guid) (world.takeOut group guid env).2 := by
    simp only [takeOut]
    exact sameMembers_pickLeader _ guid
  refine ⟨hsame.counted (counted_eraseSlot hsound.counted), fun other found hfound => ?_, ?_⟩
  · exact mayLink_of_guids hsame.guids hsame.battle (hlinked other found hfound)
  · rw [hsame.guids]
    refine leader_pickLeader (fun hne => ?_) ?_
    · have hkept : (group.eraseSlot guid).m_leaderGuid = group.m_leaderGuid := by
        rw [eraseSlot]
        split <;> rfl
      rw [hkept] at hne ⊢
      rw [memberGuids_eraseSlot]
      exact (mem_erase_of_ne hne).mpr hsound.leader
    · by_contra hoffline
      have hnil : m_memberMgr (world.takeOut group guid env).1.players = [] := by
        refine memberMgr_eq_nil hlinked fun other hother => ?_
        by_contra hon
        exact hoffline ⟨other, hother, isSome_iff_ne_none.mpr hon⟩
      rw [tooFewLeft, hnil, or_eq_false_iff, decide_eq_false_iff_not] at hleft
      exact hleft.2 (minimumSize_pos _)

theorem sound_removeMember {method : RemoveMethod} {env : RemoveEnv}
    (hworld : world.group = some group) (hsound : Sound world.players group) :
    ∀ after, (world.RemoveMember group guid method env).1.group = some after →
      Sound (world.RemoveMember group guid method env).1.players after := by
  intro after hafter
  rw [RemoveMember] at hafter ⊢
  split
  · rename_i hkick
    rw [if_pos hkick, hworld, Option.some.injEq] at hafter
    rw [← hafter]
    exact hsound
  rename_i hkick
  rw [if_neg hkick] at hafter
  split
  · rename_i hsize
    rw [if_pos hsize] at hafter
    simp only at hafter ⊢
    split
    · rename_i hfew
      rw [if_pos hfew] at hafter
      exact absurd hafter (by simp [Disband])
    · rename_i hfew
      rw [if_neg hfew] at hafter
      have hleft : (world.takeOut group guid env).2 = after := some.inj hafter
      rw [← hleft]
      exact sound_takeOut hsound (by simpa using hfew)
  · rename_i hsize
    rw [if_neg hsize] at hafter
    exact absurd hafter (by simp [Disband])

def SoundWorld (world : World) : Prop :=
  ∀ group, world.group = some group → Sound world.players group

theorem soundWorld_setGroup (hsound : Sound world.players group) :
    SoundWorld (world.setGroup group) := by
  intro after hafter
  rw [← some.inj hafter]
  exact hsound

theorem sound_convertToRaid (hsound : Sound players group) : Sound players group.ConvertToRaid :=
  ⟨counted_initRaidSubGroupsCounter fun subgroup => count_le hsound.counted subgroup,
    hsound.linked, hsound.leader⟩

theorem sound_changeSubGroup (senderGuid guid groupNr : ℕ) (hsound : Sound players group) :
    Sound players (group.HandleGroupChangeSubGroupOpcode senderGuid guid groupNr) := by
  rw [HandleGroupChangeSubGroupOpcode]
  split
  · rename_i hgroupNr
    split
    · exact hsound
    split
    · exact hsound
    rename_i hfree
    have hchanged := @memberGuids_changeMembersGroup group guid ⟨groupNr, hgroupNr⟩
    obtain ⟨hguids, hbattle, hleader⟩ := hchanged
    refine ⟨counted_changeMembersGroup hsound.counted (by simpa using hfree),
      fun other player hplayer => ?_, ?_⟩
    · exact mayLink_of_guids hguids hbattle (hsound.linked other player hplayer)
    · rw [hguids, hleader]
      exact hsound.leader
  · exact hsound

theorem sound_changeLeader (connected : ℕ → Bool) (guid : ℕ) (hsound : Sound players group) :
    Sound players (group.ChangeLeader connected guid) := by
  refine hsound.of_sameMembers (sameMembers_changeLeader connected guid) ?_
  rcases leader_changeLeader connected guid with hkept | hnew
  · rw [hkept]
    exact hsound.leader
  · exact hnew

theorem sound_setGroupMemberFlag (guid : ℕ) (apply : Bool) (flag : ℕ)
    (hsound : Sound players group) : Sound players (group.SetGroupMemberFlag guid apply flag) := by
  refine hsound.of_sameMembers (sameMembers_setGroupMemberFlag guid apply flag) ?_
  have hleader : (group.SetGroupMemberFlag guid apply flag).m_leaderGuid = group.m_leaderGuid := by
    rw [SetGroupMemberFlag]
    repeat' split
    all_goals rfl
  rw [hleader]
  exact hsound.leader

theorem soundWorld_relink (hworld : world.group = some group) (hsound : Sound world.players group)
    (hlink : mayLink group guid player = true) :
    SoundWorld { world with players := world.players.insert guid player } := by
  intro after hafter
  obtain rfl : group = after := some.inj (hworld.symm.trans hafter)
  refine ⟨hsound.counted, fun other found hfound => ?_, hsound.leader⟩
  rw [find?_insert] at hfound
  split at hfound
  · rename_i hsame
    rw [← hsame, ← some.inj hfound]
    exact hlink
  · exact hsound.linked other found hfound

theorem soundWorld_disconnect (guid : ℕ) (hsound : SoundWorld world) :
    SoundWorld { world with players := world.players.erase guid } := by
  intro after hafter
  obtain ⟨hcounted, hlinked, hleader⟩ := hsound after hafter
  refine ⟨hcounted, fun other found hfound => ?_, hleader⟩
  rw [find?_erase] at hfound
  split at hfound
  · exact absurd hfound (by simp)
  · exact hlinked other found hfound

theorem soundWorld_step {op : Op} {after : World} (hsound : SoundWorld world)
    (hstep : step world op = some after) : SoundWorld after := by
  rw [step] at hstep
  split at hstep
  · exact absurd hstep (by simp)
  rename_i group hworld
  have hgroup := hsound group hworld
  cases op with
  | AddMember guid =>
    simp only at hstep
    split at hstep
    · exact absurd hstep (by simp)
    rename_i hfull
    rw [← some.inj hstep]
    exact sound_addMember hworld hgroup (by simpa using hfull)
  | RemoveMember guid method env =>
    rw [← some.inj hstep]
    exact sound_removeMember hworld hgroup
  | ConvertToRaid =>
    rw [← some.inj hstep]
    exact soundWorld_setGroup (sound_convertToRaid hgroup)
  | ConvertToLFG restricted =>
    rw [← some.inj hstep]
    exact soundWorld_setGroup
      (hgroup.of_sameMembers (sameMembers_convertToLFG restricted) hgroup.leader)
  | ChangeSubGroup senderGuid guid groupNr =>
    rw [← some.inj hstep]
    exact soundWorld_setGroup (sound_changeSubGroup senderGuid guid groupNr hgroup)
  | SetGroupMemberFlag guid apply flag =>
    rw [← some.inj hstep]
    exact soundWorld_setGroup (sound_setGroupMemberFlag guid apply flag hgroup)
  | ChangeLeader guid =>
    rw [← some.inj hstep]
    exact soundWorld_setGroup (sound_changeLeader world.connected guid hgroup)
  | SetLootThreshold threshold =>
    rw [← some.inj hstep]
    exact soundWorld_setGroup (hgroup.of_sameMembers ⟨rfl, rfl, rfl, rfl, rfl⟩ hgroup.leader)
  | relink guid player =>
    simp only at hstep
    split at hstep
    · rename_i hlink
      rw [← some.inj hstep]
      exact soundWorld_relink hworld hgroup hlink
    · exact absurd hstep (by simp)
  | disconnect guid =>
    rw [← some.inj hstep]
    exact soundWorld_disconnect guid hsound
  | GroupLoot env id loot =>
    simp only at hstep
    split at hstep
    · rw [← some.inj hstep]
      exact hsound
    · exact absurd hstep (by simp)
  | NeedBeforeGreed env id loot =>
    simp only at hstep
    split at hstep
    · obtain ⟨rolls, -, rfl⟩ := map_eq_some_iff.mp hstep
      exact hsound
    · exact absurd hstep (by simp)
  | CountRollVote | EndRoll | deleteLoot =>
    rw [← some.inj hstep]
    exact hsound

theorem counted_empty (hslots : group.m_memberSlots = [])
    (hcounts : group.m_subGroupsCounts = none) :
    Counted (if group.isRaidGroup then group._initRaidSubGroupsCounter else group) := by
  split
  · refine counted_initRaidSubGroupsCounter fun subgroup => ?_
    rw [subGroups, hslots]
    exact Nat.zero_le _
  · rename_i hraid
    refine ⟨fun htrue => absurd htrue hraid, fun counts hsome => ?_, fun _ => ?_⟩
    · rw [hcounts] at hsome
      exact absurd hsome (by simp)
    · rw [hslots]
      exact Nat.zero_le _

theorem mayLink_of_links_eq_zero (hlinks : player.links = 0) :
    mayLink group guid player = true := by
  rw [mayLink_iff]
  refine ⟨hlinks.trans_le (Nat.zero_le _), fun _ horiginal => ?_⟩
  simp [Player.links, horiginal] at hlinks

theorem created_cases (hcreated : Created world) :
    ∃ (players : StdMap ℕ Player) (empty : Group) (subGroup : Fin MAX_RAID_SUBGROUPS)
      (player : Player), Counted empty ∧ empty.m_memberSlots = [] ∧
      empty.firstFreeSubGroup = some subGroup ∧
      (∀ guid player, players.find? guid = some player → player.links = 0) ∧
      players.find? empty.m_leaderGuid = some player ∧
      world.players = players.insert empty.m_leaderGuid (player.join empty.isBattleGroup) ∧
      world.group = some (empty.addSlot empty.m_leaderGuid subGroup) ∧
      world.rolls.RollId = [] ∧ world.rolls.loots = fun _ => none := by
  obtain ⟨players, leader, m_bgGroup, m_bfGroup, nextItemGUID, hlinks, hcreate⟩ := hcreated
  rw [Create] at hcreate
  set group : Group := ⟨[], leader, if m_bgGroup || m_bfGroup then GROUPTYPE_BGRAID
    else GROUPTYPE_NORMAL, m_bgGroup, m_bfGroup, ITEM_QUALITY_UNCOMMON, none⟩ with hgroup
  set empty : Group := if group.isRaidGroup then group._initRaidSubGroupsCounter else group
    with hempty
  have hcounted : Counted empty := counted_empty rfl rfl
  have hslots : empty.m_memberSlots = [] := by
    rw [hempty]
    split <;> rfl
  have hleader : empty.m_leaderGuid = leader := by
    rw [hempty]
    split <;> rfl
  simp only [AddMember] at hcreate
  split at hcreate
  · exact absurd hcreate (by simp)
  rename_i player hplayer
  split at hcreate
  · exact absurd hcreate (by simp)
  rename_i subGroup hfree
  obtain ⟨hworld, -⟩ := Prod.mk.inj hcreate
  subst hworld
  rw [← hleader] at hplayer
  refine ⟨players, empty, subGroup, player, hcounted, hslots, hfree, hlinks, hplayer,
    ?_, ?_, rfl, rfl⟩
  · rw [hleader]
  · rw [hleader]

theorem soundWorld_created (hcreated : Created world) : SoundWorld world := by
  obtain ⟨players, empty, subGroup, player, hcounted, hslots, hfree, hlinks, hplayer, hplayers,
    hgroup, -, -⟩ := created_cases hcreated
  intro group hworld
  rw [hgroup, Option.some.injEq] at hworld
  rw [← hworld, hplayers]
  have hfull : empty.IsFull = false := by
    rw [IsFull, hslots]
    split <;> rfl
  exact sound_addSlot (counted_addSlot hcounted hfull hfree)
    (fun guid player hfound => mayLink_of_links_eq_zero (hlinks guid player hfound)) hplayer
    (.inl rfl)

theorem soundWorld_reachable (hreach : Reachable Created (computed step) world) :
    SoundWorld world :=
  hreach.invariant SoundWorld (fun _ hcreated => soundWorld_created hcreated)
    fun _ _ _ hsound hstep => soundWorld_step hsound hstep

/-! ## One slot for each member -/

/-- `AddMember` is called for players that are not members. -/
def newMembers (world : World) (op : Op) : Prop :=
  ∀ guid, op = .AddMember guid → ∀ group, world.group = some group → guid ∉ group.memberGuids

theorem step_memberGuids {op : Op} {next : World} (hworld : world.group = some group)
    (hstep : step world op = some next) (hafter : next.group = some after) :
    after.memberGuids = group.memberGuids ∨
      (∃ guid, op = .AddMember guid ∧ after.memberGuids = group.memberGuids ++ [guid]) ∨
      ∃ guid, after.memberGuids = group.memberGuids.erase guid := by
  have hset : ∀ changed : Group, some (world.setGroup changed) = some next →
      changed.memberGuids = group.memberGuids → after.memberGuids = group.memberGuids := by
    intro changed hchanged hguids
    rw [← some.inj hchanged] at hafter
    rw [← some.inj hafter, hguids]
  have hkept : next.group = some group → after.memberGuids = group.memberGuids := by
    intro hsame
    rw [hsame] at hafter
    rw [some.inj hafter]
  rw [step, hworld] at hstep
  cases op with
  | AddMember guid =>
    simp only at hstep
    split at hstep
    · exact absurd hstep (by simp)
    rw [← some.inj hstep, AddMember] at hafter
    split at hafter
    · rw [hworld] at hafter
      exact .inl (by rw [some.inj hafter])
    split at hafter
    · rw [hworld] at hafter
      exact .inl (by rw [some.inj hafter])
    rename_i subGroup hfree
    rw [← some.inj hafter]
    exact .inr (.inl ⟨guid, rfl, memberGuids_addSlot guid subGroup⟩)
  | RemoveMember guid method env =>
    simp only [RemoveMember] at hstep
    split at hstep
    · exact .inl (hkept (by rw [← some.inj hstep, hworld]))
    split at hstep
    · split at hstep
      · rw [← some.inj hstep] at hafter
        exact absurd hafter (by simp [Disband])
      · rw [← some.inj hstep] at hafter
        have hleft : (world.takeOut group guid env).2 = after := some.inj hafter
        have hsame : SameMembers (group.eraseSlot guid) (world.takeOut group guid env).2 := by
          simp only [takeOut]
          exact sameMembers_pickLeader _ guid
        rw [← hleft, hsame.guids]
        exact .inr (.inr ⟨guid, memberGuids_eraseSlot guid⟩)
    · rw [← some.inj hstep] at hafter
      exact absurd hafter (by simp [Disband])
  | ConvertToRaid | ConvertToLFG | SetLootThreshold => exact .inl (hset _ hstep rfl)
  | ChangeSubGroup senderGuid guid groupNr =>
    refine .inl (hset _ hstep ?_)
    rw [HandleGroupChangeSubGroupOpcode]
    repeat' split
    all_goals first | rfl | exact (memberGuids_changeMembersGroup guid _).1
  | SetGroupMemberFlag guid apply flag =>
    exact .inl (hset _ hstep (sameMembers_setGroupMemberFlag guid apply flag).guids)
  | ChangeLeader guid =>
    exact .inl (hset _ hstep (sameMembers_changeLeader world.connected guid).guids)
  | relink | GroupLoot =>
    simp only at hstep
    split at hstep
    · exact .inl (hkept (by rw [← some.inj hstep]))
    · exact absurd hstep (by simp)
  | disconnect | EndRoll | deleteLoot => exact .inl (hkept (by rw [← some.inj hstep]))
  | NeedBeforeGreed env id loot =>
    simp only at hstep
    split at hstep
    · obtain ⟨rolls, -, hnext⟩ := map_eq_some_iff.mp hstep
      exact .inl (hkept (by rw [← hnext]))
    · exact absurd hstep (by simp)
  | CountRollVote env playerGUID Guid Choice =>
    exact .inl (hkept (by rw [← some.inj hstep]))

theorem memberGuids_nodup_reachable
    (hreach : Reachable Created (guarded newMembers (computed step)) world) :
    ∀ group, world.group = some group → group.memberGuids.Nodup := by
  refine hreach.invariant (fun world => ∀ group, world.group = some group →
    group.memberGuids.Nodup) (fun created hcreated group hgroup => ?_) ?_
  · obtain ⟨players, empty, subGroup, player, -, hslots, -, -, -, -, hworld, -, -⟩ :=
      created_cases hcreated
    rw [hworld, Option.some.injEq] at hgroup
    rw [← hgroup, memberGuids_addSlot, memberGuids, hslots]
    exact nodup_singleton _
  · intro before op after hnodup hop next hnext
    obtain ⟨hnew, hstep⟩ := hop
    have hsome : before.group ≠ none := by
      intro hnone
      rw [computed, step, hnone] at hstep
      exact absurd hstep (by simp)
    obtain ⟨group, hgroup⟩ := ne_none_iff_exists'.mp hsome
    have hold := hnodup group hgroup
    rcases step_memberGuids hgroup hstep hnext with hsame | ⟨guid, hadd, hguids⟩ | ⟨guid, hguids⟩
    · rw [hsame]
      exact hold
    · rw [hguids, ← concat_eq_append]
      exact hold.concat (hnew guid hadd group hgroup)
    · rw [hguids]
      exact hold.erase guid

/-- In every reachable state of a group the subgroup counters are exact and at most
five, a member can be added while there are fewer than forty, and the leader is a
member; no player has two slots if only new members are added. -/
theorem reachable_membership (hreach : Reachable Created (computed step) world)
    (hgroup : world.group = some group) :
    (∀ counts, group.m_subGroupsCounts = some counts → ∀ subgroup,
      counts subgroup = group.m_memberSlots.countP (fun slot => slot.group = subgroup) ∧
        counts subgroup ≤ MAXGROUPSIZE) ∧
    (group.m_memberSlots.length < MAXRAIDSIZE → ∀ guid, world.connected guid = true →
      (world.AddMember group guid).2 = true) ∧
    (Reachable Created (guarded newMembers (computed step)) world →
      (group.m_memberSlots.map (·.guid)).Nodup) ∧
    ∃ slot ∈ group.m_memberSlots, slot.guid = group.m_leaderGuid := by
  have hsound := soundWorld_reachable hreach group hgroup
  refine ⟨fun counts hcounts subgroup => ?_, fun hlength guid hguid => ?_, fun hnew => ?_, ?_⟩
  · have hcount := hsound.counted.counts counts hcounts subgroup
    rw [subGroups, count_eq_countP, countP_map] at hcount
    exact hcount
  · exact addMember_succeeds hsound.counted hlength hguid
  · exact memberGuids_nodup_reachable hnew group hgroup
  · exact List.mem_map.mp hsound.leader

/-- The leader of a raid leaves while the next member in the list is offline. -/
theorem reachable_membership_raid :
    ∃ (world : World) (group : Group), world.group = some group ∧ group.memberGuids = [2, 3, 4] ∧
      (∃ slot ∈ group.m_memberSlots, slot.guid = group.m_leaderGuid) ∧
      group.m_leaderGuid = 3 := by
  let newPlayer : Player := ⟨.null, .null⟩
  let players : StdMap ℕ Player := (((StdMap.empty.insert 1 newPlayer).insert 2 newPlayer).insert 3
    newPlayer).insert 4 newPlayer
  let ops : List Op := [.AddMember 2, .AddMember 3, .AddMember 4, .ConvertToRaid,
    .ChangeSubGroup 1 3 2, .disconnect 2,
    .RemoveMember 1 .GROUP_REMOVEMETHOD_LEAVE default]
  have hcreated : Created (Create players 1 false false 0).1 := by
    refine ⟨players, 1, false, false, 0, fun guid player hplayer => ?_, rfl⟩
    have hall : ∀ entry ∈ players.entries, entry.2.links = 0 := by decide
    exact hall _ (find?_eq_some_iff.mp hplayer)
  have hrun : ((ops.foldlM step (Create players 1 false false 0).1).bind World.group).map
      (fun group => (group.memberGuids, group.m_leaderGuid)) = some ([2, 3, 4], 3) := by
    decide +kernel
  obtain ⟨group, hgroup, hvalues⟩ := map_eq_some_iff.mp hrun
  obtain ⟨world, hworld, hsome⟩ := bind_eq_some_iff.mp hgroup
  obtain ⟨hguids, hleader⟩ := Prod.mk.inj hvalues
  exact ⟨world, group, hsome, hguids,
    (reachable_membership (Reachable.foldlM (.start hcreated) hworld) hsome).2.2.2, hleader⟩

end World

end AzerothCore

/-! ## Rolls in the runs of a group -/

namespace AzerothCore
open List Option Finset

namespace World

open AzerothCore.Group Reachability LootRoll

variable {world after : World} {group : Group}

theorem length_memberGuids_le (hcounted : Counted group) :
    group.memberGuids.length ≤ MAXRAIDSIZE := by
  have hsum : ∑ subgroup, group.subGroups.count subgroup ≤
      ∑ _subgroup : Fin MAX_RAID_SUBGROUPS, MAXGROUPSIZE :=
    Finset.sum_le_sum fun subgroup _ => count_le hcounted subgroup
  rw [sum_count_subGroups, sum_const, card_univ, Fintype.card_fin] at hsum
  simp only [subGroups, memberGuids, length_map] at hsum ⊢
  exact hsum

variable {players : StdMap ℕ Player}

theorem mem_memberGuids_of_mem_memberMgr (hsound : Sound players group) {guid : ℕ}
    (hmem : guid ∈ m_memberMgr players) : guid ∈ group.memberGuids := by
  obtain ⟨⟨other, player⟩, hentry, hlink⟩ := mem_flatMap.mp hmem
  obtain ⟨hlinks, rfl⟩ := mem_replicate.mp hlink
  have hle := (mayLink_iff.mp
    (hsound.linked guid player (StdMap.find?_eq_some_iff.mpr hentry))).1
  exact count_pos_iff.mp (lt_of_lt_of_le (Nat.pos_of_ne_zero hlinks) hle)

theorem memberMgr_nodup (hsound : Sound players group) (hnodup : group.memberGuids.Nodup) :
    (m_memberMgr players).Nodup := by
  rw [m_memberMgr, nodup_flatMap]
  constructor
  · rintro ⟨guid, player⟩ hentry
    have hle := (mayLink_iff.mp
      (hsound.linked guid player (StdMap.find?_eq_some_iff.mpr hentry))).1
    exact nodup_replicate.mpr (hle.trans (nodup_iff_count_le_one.mp hnodup guid))
  · refine (pairwise_map.mp players.sorted).imp fun {first second} hlt => ?_
    intro guid hfirst hsecond
    rw [mem_replicate] at hfirst hsecond
    exact absurd (hfirst.2.symm.trans hsecond.2) (ne_of_lt hlt)

theorem length_memberMgr_le (hsound : Sound players group) (hnodup : group.memberGuids.Nodup) :
    (m_memberMgr players).length ≤ MAXRAIDSIZE :=
  (subperm_of_subset (memberMgr_nodup hsound hnodup)
    fun _ hmem => mem_memberGuids_of_mem_memberMgr hsound hmem).length_le.trans
      (length_memberGuids_le hsound.counted)

/-! ## The rolls after a call -/

/-- Does `RemoveMember` disband the group before it looks at the rolls? -/
def tooSmall (group : Group) (method : RemoveMethod) : Bool :=
  !(group.isLFGGroup true && method = .GROUP_REMOVEMETHOD_KICK) &&
    group.m_memberSlots.length ≤ group.minimumSize

def fallsApart (world : World) (group : Group) (guid : ℕ) (method : RemoveMethod)
    (env : RemoveEnv) : Bool :=
  !(group.isLFGGroup true && method = .GROUP_REMOVEMETHOD_KICK) &&
    (group.minimumSize < group.m_memberSlots.length &&
      (world.takeOut group guid env).1.tooFewLeft (world.takeOut group guid env).2 env)

def rollsAfter (world : World) (group : Group) (op : Op) : Option LootRolls :=
  match op with
  | .RemoveMember guid method env =>
    if tooSmall group method then some { world.rolls with RollId := [] }
    else if world.fallsApart group guid method env then
      some { withdrawPlayer env.roll world.rolls guid with RollId := [] }
    else if group.isLFGGroup true && method = .GROUP_REMOVEMETHOD_KICK then some world.rolls
    else some (withdrawPlayer env.roll world.rolls guid)
  | .GroupLoot env id loot =>
    if world.freshLoot id loot then
      some (LootRoll.GroupLoot env group.m_lootThreshold (m_memberMgr world.players)
        (world.rolls.setLoot id loot) id)
    else none
  | .NeedBeforeGreed env id loot =>
    if world.freshLoot id loot then
      LootRoll.NeedBeforeGreed env group.m_lootThreshold (m_memberMgr world.players)
        (world.rolls.setLoot id loot) id
    else none
  | .CountRollVote env playerGUID Guid Choice =>
    some (LootRoll.CountRollVote env world.rolls playerGUID Guid Choice).1
  | .EndRoll env id allowedMap => some (LootRoll.EndRoll env world.rolls id allowedMap)
  | .deleteLoot id =>
    some { world.rolls with loots := Function.update world.rolls.loots id none }
  | _ => some world.rolls

theorem takeOut_rolls (world : World) (group : Group) (guid : ℕ) (env : RemoveEnv) :
    (world.takeOut group guid env).1.rolls = withdrawPlayer env.roll world.rolls guid := rfl

theorem step_rolls {op : Op} (hworld : world.group = some group)
    (hstep : step world op = some after) : rollsAfter world group op = some after.rolls := by
  rw [step] at hstep
  rw [hworld] at hstep
  cases op with
  | AddMember guid =>
    simp only at hstep
    split at hstep
    · exact absurd hstep (by simp)
    rw [← some.inj hstep, AddMember]
    split
    · rfl
    · split <;> rfl
  | RemoveMember guid method env =>
    rw [← some.inj hstep, RemoveMember, rollsAfter, tooSmall, fallsApart]
    by_cases hkick : (group.isLFGGroup true && method = .GROUP_REMOVEMETHOD_KICK) = true
    · simp [hkick]
    by_cases hsize : group.minimumSize < group.m_memberSlots.length
    · cases hfew : (world.takeOut group guid env).1.tooFewLeft
          (world.takeOut group guid env).2 env with
      | true =>
        simp [hkick, hsize, hfew, Disband, takeOut_rolls]
      | false =>
        simp [hkick, hsize, hfew, takeOut_rolls]
    · simp [hkick, hsize, Nat.not_lt.mp hsize, Disband]
  | ConvertToRaid | ConvertToLFG | ChangeSubGroup | SetGroupMemberFlag | ChangeLeader
  | SetLootThreshold | disconnect | CountRollVote | EndRoll | deleteLoot =>
    rw [← some.inj hstep]; rfl
  | relink guid player =>
    simp only at hstep
    split at hstep
    · rw [← some.inj hstep]; rfl
    · exact absurd hstep (by simp)
  | GroupLoot env id loot =>
    simp only at hstep
    split at hstep
    · rename_i hfresh
      rw [← some.inj hstep, rollsAfter, if_pos hfresh]
    · exact absurd hstep (by simp)
  | NeedBeforeGreed env id loot =>
    simp only at hstep
    split at hstep
    · rename_i hfresh
      obtain ⟨rolls, hrolls, rfl⟩ := map_eq_some_iff.mp hstep
      rw [rollsAfter, if_pos hfresh, hrolls]
    · exact absurd hstep (by simp)

end World

end AzerothCore
