import AzerothCore.Collections.Folding
import AzerothCore.Collections.StdMap
import AzerothCore.Common.Define

/-!
# Conditions

A condition asks something of a world object: of the object itself, of the unit that it is, or
of the player who controls that unit. What the conditions read of other parts of the server
is given by the object and by `ConditionEnv`. Values of floats are only compared, so the
comparisons are given.
-/

namespace AzerothCore.Conditions

inductive ConditionTypes
  | CONDITION_NONE
  | CONDITION_AURA
  | CONDITION_ITEM
  | CONDITION_ITEM_EQUIPPED
  | CONDITION_ZONEID
  | CONDITION_REPUTATION_RANK
  | CONDITION_TEAM
  | CONDITION_SKILL
  | CONDITION_QUESTREWARDED
  | CONDITION_QUESTTAKEN
  | CONDITION_DRUNKENSTATE
  | CONDITION_WORLD_STATE
  | CONDITION_ACTIVE_EVENT
  | CONDITION_INSTANCE_INFO
  | CONDITION_QUEST_NONE
  | CONDITION_CLASS
  | CONDITION_RACE
  | CONDITION_ACHIEVEMENT
  | CONDITION_TITLE
  | CONDITION_SPAWNMASK
  | CONDITION_GENDER
  | CONDITION_UNIT_STATE
  | CONDITION_MAPID
  | CONDITION_AREAID
  | CONDITION_CREATURE_TYPE
  | CONDITION_SPELL
  | CONDITION_PHASEMASK
  | CONDITION_LEVEL
  | CONDITION_QUEST_COMPLETE
  | CONDITION_NEAR_CREATURE
  | CONDITION_NEAR_GAMEOBJECT
  | CONDITION_OBJECT_ENTRY_GUID
  | CONDITION_TYPE_MASK
  | CONDITION_RELATION_TO
  | CONDITION_REACTION_TO
  | CONDITION_DISTANCE_TO
  | CONDITION_ALIVE
  | CONDITION_HP_VAL
  | CONDITION_HP_PCT
  | CONDITION_REALM_ACHIEVEMENT
  | CONDITION_IN_WATER
  | CONDITION_TERRAIN_SWAP
  | CONDITION_STAND_STATE
  | CONDITION_DAILY_QUEST_DONE
  | CONDITION_CHARMED
  | CONDITION_PET_TYPE
  | CONDITION_TAXI
  | CONDITION_QUESTSTATE
  | CONDITION_QUEST_OBJECTIVE_PROGRESS
  | CONDITION_DIFFICULTY_ID
  | CONDITION_TC_END
  | CONDITION_AC_START
  | CONDITION_QUEST_SATISFY_EXCLUSIVE
  | CONDITION_HAS_AURA_TYPE
  | CONDITION_AC_END
deriving DecidableEq

structure Condition where
  ElseGroup : ℕ
  ConditionType : ConditionTypes
  ConditionValue1 : ℕ
  ConditionValue2 : ℕ
  ConditionValue3 : ℕ
  ReferenceId : ℕ
  ConditionTarget : ℕ
  NegativeCondition : Bool

def MAX_CONDITION_TARGETS : ℕ := 3

def GRID_MAP_TYPE_MASK_CORPSE : BitVec 32 := 0x01
def GRID_MAP_TYPE_MASK_CREATURE : BitVec 32 := 0x02
def GRID_MAP_TYPE_MASK_DYNAMICOBJECT : BitVec 32 := 0x04
def GRID_MAP_TYPE_MASK_GAMEOBJECT : BitVec 32 := 0x08
def GRID_MAP_TYPE_MASK_PLAYER : BitVec 32 := 0x10
def GRID_MAP_TYPE_MASK_ALL : BitVec 32 := 0x1F

def TYPEID_UNIT : ℕ := 3
def TYPEID_PLAYER : ℕ := 4
def TYPEID_GAMEOBJECT : ℕ := 5
def TYPEID_DYNAMICOBJECT : ℕ := 6
def TYPEID_CORPSE : ℕ := 7

def TYPEMASK_OBJECT : BitVec 16 := 0x0001
def TYPEMASK_UNIT : BitVec 16 := 0x0008
def TYPEMASK_PLAYER : BitVec 16 := 0x0010
def TYPEMASK_GAMEOBJECT : BitVec 16 := 0x0020
def TYPEMASK_DYNAMICOBJECT : BitVec 16 := 0x0040
def TYPEMASK_CORPSE : BitVec 16 := 0x0080

def QUEST_STATUS_NONE : ℕ := 0
def QUEST_STATUS_COMPLETE : ℕ := 1
def QUEST_STATUS_INCOMPLETE : ℕ := 3
def QUEST_STATUS_FAILED : ℕ := 5
def QUEST_STATUS_REWARDED : ℕ := 6

def MAX_QUEST_LOG_SIZE : ℕ := 25
def ALLIANCE : ℕ := 469
def HORDE : ℕ := 67
def GO_STATE_READY : ℕ := 1

structure Player where
  HasItemCount : ℕ → ℕ → Bool → Bool
  HasItemOrGemWithIdEquipped : ℕ → Bool
  GetRank : ℕ → ℕ
  HasAchieved : ℕ → Bool
  isAlliance : Bool
  getGender : ℕ
  HasSkill : ℕ → Bool
  GetBaseSkillValue : ℕ → ℕ
  GetQuestRewardStatus : ℕ → Bool
  GetQuestStatus : ℕ → ℕ
  IsQuestRewarded : ℕ → Bool
  SatisfyQuestExclusiveGroup : ℕ → Bool
  HasSpell : ℕ → Bool
  drunkenState : ℕ
  HasTitle : ℕ → Bool
  IsDailyQuestDone : ℕ → Bool
  FindQuestSlot : ℕ → ℕ
  GetQuestSlotCounter : ℕ → ℕ → ℕ
  petType : Option ℕ
  IsInFlight : Bool
deriving Inhabited

structure Unit where
  guid : ℕ
  HasAuraEffect : ℕ → ℕ → Bool
  getClassMask : ℕ
  getRaceMask : ℕ
  GetLevel : ℕ
  /-- `UNIT_FLAG_NON_ATTACKABLE` or `UNIT_FLAG_NOT_SELECTABLE` -/
  notSelectable : Bool
  IsInPartyWith : ℕ → Bool
  IsInRaidWith : ℕ → Bool
  GetOwnerGUID : ℕ
  IsOnVehicle : ℕ → Bool
  GetCreatorGUID : ℕ
  GetReactionTo : ℕ → ℕ
  IsAlive : Bool
  GetHealth : ℕ
  /-- The health percentage against a value. -/
  compareHealthPct : ℕ → ℕ → Bool
  HasUnitState : ℕ → Bool
  IsInWater : Bool
  HasAuraType : ℕ → Bool
  getStandState : ℕ
  IsStandState : Bool
  IsSitState : Bool
  IsCharmed : Bool
  /-- If `GetCharmerOrOwnerGUID` is of a player, that player, where he is found. -/
  charmerOrOwner : Option (Option Player)
deriving Inhabited

inductive ObjectKind
  | creature (unit : Unit) (spawnId creatureType : ℕ)
  | player (unit : Unit) (player : Player)
  | gameObject (spawnId : ℕ)
  | dynamicObject
  | corpse
deriving Inhabited

structure InstanceScript where
  GetData : ℕ → ℕ
  GetGuidData : ℕ → ℕ
  GetBossState : ℕ → ℕ
  GetData64 : ℕ → ℕ

structure WorldObject where
  kind : ObjectKind
  GetEntry : ℕ
  GetZoneId : ℕ
  GetMapId : ℕ
  GetAreaId : ℕ
  GetPhaseMask : ℕ
  GetSpawnMode : ℕ
  GetDifficulty : ℕ
  /-- The script of the map, if it is a dungeon with one. -/
  instanceScript : Option InstanceScript
  /-- There is a creature of an entry within a distance, alive or dead. -/
  hasClosestCreature : ℕ → ℕ → Bool → Bool
  /-- The state of the closest game object of an entry within a distance. -/
  closestGameObject : ℕ → ℕ → Option ℕ
deriving Inhabited

namespace WorldObject

variable (object : WorldObject)

def ToUnit : Option Unit :=
  match object.kind with
  | .creature unit .. => some unit
  | .player unit _ => some unit
  | _ => none

def ToPlayer : Option Player :=
  match object.kind with
  | .player _ player => some player
  | _ => none

def GetTypeId : ℕ :=
  match object.kind with
  | .creature .. => TYPEID_UNIT
  | .player .. => TYPEID_PLAYER
  | .gameObject _ => TYPEID_GAMEOBJECT
  | .dynamicObject => TYPEID_DYNAMICOBJECT
  | .corpse => TYPEID_CORPSE

def m_objectType : BitVec 16 :=
  match object.kind with
  | .creature .. => TYPEMASK_OBJECT ||| TYPEMASK_UNIT
  | .player .. => TYPEMASK_OBJECT ||| TYPEMASK_UNIT ||| TYPEMASK_PLAYER
  | .gameObject _ => TYPEMASK_OBJECT ||| TYPEMASK_GAMEOBJECT
  | .dynamicObject => TYPEMASK_OBJECT ||| TYPEMASK_DYNAMICOBJECT
  | .corpse => TYPEMASK_OBJECT ||| TYPEMASK_CORPSE

def isType (mask : BitVec 16) : Bool := mask &&& object.m_objectType ≠ 0

def gridTypeMask : BitVec 32 :=
  match object.kind with
  | .creature .. => GRID_MAP_TYPE_MASK_CREATURE
  | .player .. => GRID_MAP_TYPE_MASK_PLAYER
  | .gameObject _ => GRID_MAP_TYPE_MASK_GAMEOBJECT
  | .dynamicObject => GRID_MAP_TYPE_MASK_DYNAMICOBJECT
  | .corpse => GRID_MAP_TYPE_MASK_CORPSE

/-- Of a unit; other objects have none. -/
def GetCharmerOrOwnerPlayerOrPlayerItself : Option Player :=
  match object.ToUnit.bind (·.charmerOrOwner) with
  | some found => found
  | none => object.ToPlayer

end WorldObject

structure ConditionEnv where
  /-- `sFactionStore` has the faction. -/
  hasFaction : ℕ → Bool
  IsActiveEvent : ℕ → Bool
  getWorldState : ℕ → ℕ
  /-- The achievement exists and is completed on the realm. -/
  IsRealmCompleted : ℕ → Bool
  /-- The distance of two objects against a value. -/
  compareDistance : ℕ → WorldObject → WorldObject → ℕ → Bool
deriving Inhabited

/-- `mConditionTargets`; there is nothing behind its end. -/
abbrev ConditionSourceInfo := ℕ → Option WorldObject

/-- `CompareValues` of two numbers. -/
def CompareValues (type val1 val2 : ℕ) : Bool :=
  match type with
  | 0 => val1 = val2
  | 1 => val1 > val2
  | 2 => val1 < val2
  | 3 => val1 ≥ val2
  | 4 => val1 ≤ val2
  | _ => false

namespace Condition

variable (cond : Condition) (env : ConditionEnv) (sourceInfo : ConditionSourceInfo)

def isLoaded : Bool := cond.ConditionType ≠ .CONDITION_NONE || cond.ReferenceId ≠ 0

/-- `if (Unit* unit = object->ToUnit())` -/
def onUnit (object : WorldObject) (test : Unit → Bool) : Bool := object.ToUnit.any test

/-- `if (Player* player = unit->GetCharmerOrOwnerPlayerOrPlayerItself())` -/
def onPlayer (object : WorldObject) (test : Player → Bool) : Bool :=
  object.ToUnit.any fun _ => object.GetCharmerOrOwnerPlayerOrPlayerItself.any test

/-- `1 << shift & mask` -/
def hasBit (mask shift : ℕ) : Bool := (1 <<< shift) &&& mask ≠ 0

def objectEntryGuid (object : WorldObject) : Bool :=
  if cond.ConditionValue3 = 1 ∧ onUnit object (·.notSelectable) = true then false
  else if object.GetTypeId = cond.ConditionValue1 then
    (cond.ConditionValue2 = 0 || object.GetEntry = cond.ConditionValue2) &&
      (if cond.ConditionValue3 > 1 then
        match object.kind with
        | .creature _ spawnId _ => spawnId = cond.ConditionValue3
        | .gameObject spawnId => spawnId = cond.ConditionValue3
        | _ => true
      else true)
  else false

def relationTo (unit toUnit : Unit) : Bool :=
  match cond.ConditionValue2 with
  | 0 => unit.guid = toUnit.guid
  | 1 => unit.IsInPartyWith toUnit.guid
  | 2 => unit.IsInRaidWith toUnit.guid
  | 3 => unit.GetOwnerGUID = toUnit.guid
  | 4 => unit.IsOnVehicle toUnit.guid
  | 5 => unit.GetCreatorGUID = toUnit.guid
  | _ => false

def instanceInfo (script : InstanceScript) : Bool :=
  match cond.ConditionValue3 with
  | 0 => script.GetData cond.ConditionValue1 = cond.ConditionValue2
  | 1 => script.GetGuidData cond.ConditionValue1 = cond.ConditionValue2
  | 2 => script.GetBossState cond.ConditionValue1 = cond.ConditionValue2
  | 3 => script.GetData64 cond.ConditionValue1 = cond.ConditionValue2
  | _ => false

def nearGameObject (object : WorldObject) : Bool :=
  match object.closestGameObject cond.ConditionValue1 cond.ConditionValue2 with
  | none => false
  | some state =>
    cond.ConditionValue3 = 0 || (state = GO_STATE_READY && cond.ConditionValue3 = 1) ||
      (state ≠ GO_STATE_READY && cond.ConditionValue3 = 2)

def questState (player : Player) : Bool :=
  (hasBit cond.ConditionValue2 QUEST_STATUS_NONE &&
      player.GetQuestStatus cond.ConditionValue1 = QUEST_STATUS_NONE) ||
    (hasBit cond.ConditionValue2 QUEST_STATUS_COMPLETE &&
      player.GetQuestStatus cond.ConditionValue1 = QUEST_STATUS_COMPLETE) ||
    (hasBit cond.ConditionValue2 QUEST_STATUS_INCOMPLETE &&
      player.GetQuestStatus cond.ConditionValue1 = QUEST_STATUS_INCOMPLETE) ||
    (hasBit cond.ConditionValue2 QUEST_STATUS_FAILED &&
      player.GetQuestStatus cond.ConditionValue1 = QUEST_STATUS_FAILED) ||
    (hasBit cond.ConditionValue2 QUEST_STATUS_REWARDED &&
      player.GetQuestRewardStatus cond.ConditionValue1)

def questObjectiveProgress (player : Player) : Bool :=
  if MAX_QUEST_LOG_SIZE ≤ player.FindQuestSlot cond.ConditionValue1 then false
  else player.GetQuestSlotCounter (player.FindQuestSlot cond.ConditionValue1)
    cond.ConditionValue2 = cond.ConditionValue3

def standState (unit : Unit) : Bool :=
  if cond.ConditionValue1 = 0 then unit.getStandState = cond.ConditionValue2
  else if cond.ConditionValue2 = 0 then unit.IsStandState
  else if cond.ConditionValue2 = 1 then unit.IsSitState
  else false

def condMeets (object : WorldObject) : Bool :=
  match cond.ConditionType with
  | .CONDITION_NONE => true
  | .CONDITION_AURA =>
    onUnit object fun unit => unit.HasAuraEffect cond.ConditionValue1 cond.ConditionValue2
  | .CONDITION_ITEM =>
    onPlayer object fun player =>
      player.HasItemCount cond.ConditionValue1 cond.ConditionValue2 (cond.ConditionValue3 ≠ 0)
  | .CONDITION_ITEM_EQUIPPED =>
    onPlayer object fun player => player.HasItemOrGemWithIdEquipped cond.ConditionValue1
  | .CONDITION_ZONEID => object.GetZoneId = cond.ConditionValue1
  | .CONDITION_REPUTATION_RANK =>
    onPlayer object fun player => env.hasFaction cond.ConditionValue1 &&
      hasBit cond.ConditionValue2 (player.GetRank cond.ConditionValue1)
  | .CONDITION_ACHIEVEMENT =>
    onPlayer object fun player => player.HasAchieved cond.ConditionValue1
  | .CONDITION_TEAM =>
    onPlayer object fun player =>
      (if player.isAlliance then ALLIANCE else HORDE) = cond.ConditionValue1
  | .CONDITION_CLASS =>
    onUnit object fun unit => unit.getClassMask &&& cond.ConditionValue1 ≠ 0
  | .CONDITION_RACE =>
    onUnit object fun unit => unit.getRaceMask &&& cond.ConditionValue1 ≠ 0
  | .CONDITION_GENDER => onPlayer object fun player => player.getGender = cond.ConditionValue1
  | .CONDITION_SKILL =>
    onPlayer object fun player => player.HasSkill cond.ConditionValue1 &&
      cond.ConditionValue2 ≤ player.GetBaseSkillValue cond.ConditionValue1
  | .CONDITION_QUESTREWARDED =>
    onPlayer object fun player => player.GetQuestRewardStatus cond.ConditionValue1
  | .CONDITION_QUESTTAKEN =>
    onPlayer object fun player =>
      player.GetQuestStatus cond.ConditionValue1 = QUEST_STATUS_INCOMPLETE
  | .CONDITION_QUEST_COMPLETE =>
    onPlayer object fun player =>
      player.GetQuestStatus cond.ConditionValue1 = QUEST_STATUS_COMPLETE &&
        !player.GetQuestRewardStatus cond.ConditionValue1
  | .CONDITION_QUEST_NONE =>
    onPlayer object fun player =>
      player.GetQuestStatus cond.ConditionValue1 = QUEST_STATUS_NONE
  | .CONDITION_QUEST_SATISFY_EXCLUSIVE =>
    onPlayer object fun player => !player.IsQuestRewarded cond.ConditionValue1 &&
      player.SatisfyQuestExclusiveGroup cond.ConditionValue1
  | .CONDITION_ACTIVE_EVENT => env.IsActiveEvent cond.ConditionValue1
  | .CONDITION_INSTANCE_INFO => object.instanceScript.any cond.instanceInfo
  | .CONDITION_MAPID => object.GetMapId = cond.ConditionValue1
  | .CONDITION_AREAID => object.GetAreaId = cond.ConditionValue1
  | .CONDITION_SPELL => onPlayer object fun player => player.HasSpell cond.ConditionValue1
  | .CONDITION_LEVEL =>
    onUnit object fun unit =>
      CompareValues cond.ConditionValue2 unit.GetLevel cond.ConditionValue1
  | .CONDITION_DRUNKENSTATE =>
    onPlayer object fun player => cond.ConditionValue1 ≤ player.drunkenState
  | .CONDITION_NEAR_CREATURE =>
    object.hasClosestCreature cond.ConditionValue1 cond.ConditionValue2
      (cond.ConditionValue3 = 0)
  | .CONDITION_NEAR_GAMEOBJECT => cond.nearGameObject object
  | .CONDITION_OBJECT_ENTRY_GUID => cond.objectEntryGuid object
  | .CONDITION_TYPE_MASK => object.isType (BitVec.ofNat 16 cond.ConditionValue1)
  | .CONDITION_RELATION_TO =>
    onUnit object fun unit => ((sourceInfo cond.ConditionValue1).bind (·.ToUnit)).any
      (cond.relationTo unit)
  | .CONDITION_REACTION_TO =>
    onUnit object fun unit => ((sourceInfo cond.ConditionValue1).bind (·.ToUnit)).any
      fun toUnit => hasBit cond.ConditionValue2 (unit.GetReactionTo toUnit.guid)
  | .CONDITION_DISTANCE_TO =>
    (sourceInfo cond.ConditionValue1).any fun toObject =>
      env.compareDistance cond.ConditionValue3 object toObject cond.ConditionValue2
  | .CONDITION_ALIVE => onUnit object (·.IsAlive)
  | .CONDITION_HP_VAL =>
    onUnit object fun unit =>
      CompareValues cond.ConditionValue2 unit.GetHealth cond.ConditionValue1
  | .CONDITION_HP_PCT =>
    onUnit object fun unit => unit.compareHealthPct cond.ConditionValue2 cond.ConditionValue1
  | .CONDITION_WORLD_STATE => cond.ConditionValue2 = env.getWorldState cond.ConditionValue1
  | .CONDITION_PHASEMASK => object.GetPhaseMask &&& cond.ConditionValue1 ≠ 0
  | .CONDITION_TITLE => onPlayer object fun player => player.HasTitle cond.ConditionValue1
  | .CONDITION_SPAWNMASK => hasBit cond.ConditionValue1 object.GetSpawnMode
  | .CONDITION_UNIT_STATE => onUnit object fun unit => unit.HasUnitState cond.ConditionValue1
  | .CONDITION_CREATURE_TYPE =>
    match object.kind with
    | .creature _ _ creatureType => creatureType = cond.ConditionValue1
    | _ => false
  | .CONDITION_REALM_ACHIEVEMENT => env.IsRealmCompleted cond.ConditionValue1
  | .CONDITION_IN_WATER => onUnit object (·.IsInWater)
  | .CONDITION_QUESTSTATE => onPlayer object cond.questState
  | .CONDITION_DAILY_QUEST_DONE =>
    onPlayer object fun player => player.IsDailyQuestDone cond.ConditionValue1
  | .CONDITION_QUEST_OBJECTIVE_PROGRESS => onPlayer object cond.questObjectiveProgress
  | .CONDITION_HAS_AURA_TYPE => onUnit object fun unit => unit.HasAuraType cond.ConditionValue1
  | .CONDITION_STAND_STATE => onUnit object cond.standState
  | .CONDITION_DIFFICULTY_ID => object.GetDifficulty = cond.ConditionValue1
  | .CONDITION_PET_TYPE =>
    onPlayer object fun player => player.petType.any (hasBit cond.ConditionValue1)
  | .CONDITION_TAXI => onPlayer object (·.IsInFlight)
  | .CONDITION_CHARMED => onUnit object (·.IsCharmed)
  | .CONDITION_TERRAIN_SWAP | .CONDITION_TC_END | .CONDITION_AC_START | .CONDITION_AC_END => false

def Meets : Bool :=
  if MAX_CONDITION_TARGETS ≤ cond.ConditionTarget then false
  else
    match sourceInfo cond.ConditionTarget with
    | none => false
    | some object => cond.condMeets env sourceInfo object != cond.NegativeCondition

/-- The types for which a condition that is not negated can be met, or `none` where the
assertion fails. -/
def typeMask : Option (BitVec 32) :=
  match cond.ConditionType with
  | .CONDITION_NONE | .CONDITION_ZONEID | .CONDITION_ACTIVE_EVENT | .CONDITION_INSTANCE_INFO
  | .CONDITION_MAPID | .CONDITION_AREAID | .CONDITION_NEAR_CREATURE | .CONDITION_NEAR_GAMEOBJECT
  | .CONDITION_DISTANCE_TO | .CONDITION_WORLD_STATE | .CONDITION_PHASEMASK
  | .CONDITION_SPAWNMASK | .CONDITION_REALM_ACHIEVEMENT | .CONDITION_DIFFICULTY_ID =>
    some GRID_MAP_TYPE_MASK_ALL
  | .CONDITION_AURA | .CONDITION_CLASS | .CONDITION_RACE | .CONDITION_LEVEL
  | .CONDITION_RELATION_TO | .CONDITION_REACTION_TO | .CONDITION_ALIVE | .CONDITION_HP_VAL
  | .CONDITION_HP_PCT | .CONDITION_UNIT_STATE | .CONDITION_IN_WATER | .CONDITION_HAS_AURA_TYPE
  | .CONDITION_STAND_STATE | .CONDITION_CHARMED =>
    some (GRID_MAP_TYPE_MASK_CREATURE ||| GRID_MAP_TYPE_MASK_PLAYER)
  | .CONDITION_ITEM | .CONDITION_ITEM_EQUIPPED | .CONDITION_REPUTATION_RANK
  | .CONDITION_ACHIEVEMENT | .CONDITION_TEAM | .CONDITION_SKILL | .CONDITION_QUESTREWARDED
  | .CONDITION_QUESTTAKEN | .CONDITION_QUEST_COMPLETE | .CONDITION_QUEST_NONE
  | .CONDITION_QUEST_SATISFY_EXCLUSIVE | .CONDITION_SPELL | .CONDITION_DRUNKENSTATE
  | .CONDITION_TITLE | .CONDITION_GENDER | .CONDITION_QUESTSTATE | .CONDITION_DAILY_QUEST_DONE
  | .CONDITION_QUEST_OBJECTIVE_PROGRESS | .CONDITION_PET_TYPE | .CONDITION_TAXI =>
    some GRID_MAP_TYPE_MASK_PLAYER
  | .CONDITION_CREATURE_TYPE => some GRID_MAP_TYPE_MASK_CREATURE
  | .CONDITION_OBJECT_ENTRY_GUID =>
    if cond.ConditionValue1 = TYPEID_UNIT then some GRID_MAP_TYPE_MASK_CREATURE
    else if cond.ConditionValue1 = TYPEID_PLAYER then some GRID_MAP_TYPE_MASK_PLAYER
    else if cond.ConditionValue1 = TYPEID_GAMEOBJECT then some GRID_MAP_TYPE_MASK_GAMEOBJECT
    else if cond.ConditionValue1 = TYPEID_CORPSE then some GRID_MAP_TYPE_MASK_CORPSE
    else some 0
  | .CONDITION_TYPE_MASK =>
    let has (mask : BitVec 16) : Bool := cond.ConditionValue1 &&& mask.toNat ≠ 0
    some ((if has TYPEMASK_UNIT then GRID_MAP_TYPE_MASK_CREATURE ||| GRID_MAP_TYPE_MASK_PLAYER
        else 0) |||
      (if has TYPEMASK_PLAYER then GRID_MAP_TYPE_MASK_PLAYER else 0) |||
      (if has TYPEMASK_GAMEOBJECT then GRID_MAP_TYPE_MASK_GAMEOBJECT else 0) |||
      (if has TYPEMASK_CORPSE then GRID_MAP_TYPE_MASK_CORPSE else 0))
  | .CONDITION_TERRAIN_SWAP | .CONDITION_TC_END | .CONDITION_AC_START | .CONDITION_AC_END => none

def GetSearcherTypeMaskForCondition : Option (BitVec 32) :=
  if cond.NegativeCondition then some GRID_MAP_TYPE_MASK_ALL else cond.typeMask

/-- What `isConditionTypeValid` demands of the type and of the values that name types of
objects. -/
def isTypeValueValid : Bool :=
  match cond.ConditionType with
  | .CONDITION_NONE | .CONDITION_TERRAIN_SWAP | .CONDITION_TC_END | .CONDITION_AC_START
  | .CONDITION_AC_END => false
  | .CONDITION_OBJECT_ENTRY_GUID =>
    cond.ConditionValue1 = TYPEID_UNIT || cond.ConditionValue1 = TYPEID_GAMEOBJECT ||
      cond.ConditionValue1 = TYPEID_PLAYER || cond.ConditionValue1 = TYPEID_CORPSE
  | .CONDITION_TYPE_MASK =>
    cond.ConditionValue1 ≠ 0 && BitVec.ofNat 32 cond.ConditionValue1 &&&
        ~~~((TYPEMASK_UNIT ||| TYPEMASK_PLAYER ||| TYPEMASK_GAMEOBJECT |||
          TYPEMASK_CORPSE).zeroExtend 32) = 0
  | _ => true

end Condition

end AzerothCore.Conditions

/-! ## Lists of conditions -/

namespace AzerothCore.Conditions

abbrev ConditionList := List Condition

/-- `ConditionReferenceStore` -/
abbrev ConditionReferenceStore := StdMap ℕ ConditionList

inductive Abort
  /-- An `ASSERT` fails. -/
  | assertion
  /-- The references are nested deeper than the bound. -/
  | recursion

/-! ## The searched types of a list -/

/-- One round of the loop of `GetSearcherTypeMaskForConditionList`. -/
def searchRound (reference : ℕ → Except Abort (BitVec 32)) (groups : StdMap ℕ (BitVec 32))
    (cond : Condition) : Except Abort (StdMap ℕ (BitVec 32)) :=
  if !cond.isLoaded then .error .assertion
  else
    match groups.find? cond.ElseGroup with
    | some 0 => .ok groups
    | found =>
      let mask :=
        if cond.ReferenceId ≠ 0 then reference cond.ReferenceId
        else cond.GetSearcherTypeMaskForCondition.elim (.error .assertion) .ok
      mask.map fun mask =>
        groups.insert cond.ElseGroup (found.getD GRID_MAP_TYPE_MASK_ALL &&& mask)

def searchList (reference : ℕ → Except Abort (BitVec 32)) (conditions : ConditionList) :
    Except Abort (BitVec 32) :=
  if conditions = [] then .ok GRID_MAP_TYPE_MASK_ALL
  else (conditions.foldlM (searchRound reference) StdMap.empty).map fun groups =>
    groups.entries.foldl (fun mask group => mask ||| group.2) 0

def GetSearcherTypeMaskForConditionList (store : ConditionReferenceStore) :
    ℕ → ConditionList → Except Abort (BitVec 32)
  | 0, _ => .error .recursion
  | depth + 1, conditions =>
    searchList (fun refId =>
      match store.find? refId with
      | none => .error .assertion
      | some template => GetSearcherTypeMaskForConditionList store depth template) conditions

/-- One round of the loop of `IsObjectMeetToConditionList`. -/
def meetRound (reference : ℕ → Except Abort Bool) (meets : Condition → Bool)
    (groups : StdMap ℕ Bool) (cond : Condition) : Except Abort (StdMap ℕ Bool) :=
  if !cond.isLoaded then .ok groups
  else
    match groups.find? cond.ElseGroup with
    | some false => .ok groups
    | _ =>
      let met := if cond.ReferenceId ≠ 0 then reference cond.ReferenceId else .ok (meets cond)
      met.map fun met => groups.insert cond.ElseGroup met

def meetList (reference : ℕ → Except Abort Bool) (meets : Condition → Bool)
    (conditions : ConditionList) : Except Abort Bool :=
  (conditions.foldlM (meetRound reference meets) StdMap.empty).map fun groups =>
    groups.entries.any fun group => group.2

def IsObjectMeetToConditionList (store : ConditionReferenceStore) (meets : Condition → Bool) :
    ℕ → ConditionList → Except Abort Bool
  | 0, _ => .error .recursion
  | depth + 1, conditions =>
    meetList (fun refId =>
      match store.find? refId with
      | none => .ok true
      | some template => IsObjectMeetToConditionList store meets depth template) meets conditions

def IsObjectMeetToConditions (store : ConditionReferenceStore) (env : ConditionEnv)
    (sourceInfo : ConditionSourceInfo) (depth : ℕ) (conditions : ConditionList) :
    Except Abort Bool :=
  if conditions = [] then .ok true
  else IsObjectMeetToConditionList store (fun cond => cond.Meets env sourceInfo) depth conditions

inductive Nested (store : ConditionReferenceStore) : ℕ → ConditionList → Prop
  | list {depth : ℕ} {conditions : ConditionList} :
      (∀ cond ∈ conditions, cond.ReferenceId ≠ 0 → ∀ template,
        store.find? cond.ReferenceId = some template → Nested store depth template) →
      Nested store (depth + 1) conditions

inductive Uses (store : ConditionReferenceStore) (cond : Condition) : ConditionList → Prop
  | here {conditions : ConditionList} : cond ∈ conditions → Uses store cond conditions
  | reference {conditions template : ConditionList} {referring : Condition} :
      referring ∈ conditions → referring.ReferenceId ≠ 0 →
      store.find? referring.ReferenceId = some template → Uses store cond template →
      Uses store cond conditions

end AzerothCore.Conditions

/-! ## Searched types -/

namespace AzerothCore.Conditions
open List

/-! ## Types of objects -/

def WorldObject.gridBit (object : WorldObject) : ℕ :=
  match object.kind with
  | .corpse => 0
  | .creature .. => 1
  | .dynamicObject => 2
  | .gameObject _ => 3
  | .player .. => 4

def WorldObject.ControlledCreature (object : WorldObject) : Prop :=
  ∃ unit spawnId creatureType player, object.kind = .creature unit spawnId creatureType ∧
    unit.charmerOrOwner = some (some player)

def ConditionTypes.ofPlayer : ConditionTypes → Bool
  | .CONDITION_ITEM | .CONDITION_ITEM_EQUIPPED | .CONDITION_REPUTATION_RANK
  | .CONDITION_ACHIEVEMENT | .CONDITION_TEAM | .CONDITION_SKILL | .CONDITION_QUESTREWARDED
  | .CONDITION_QUESTTAKEN | .CONDITION_QUEST_COMPLETE | .CONDITION_QUEST_NONE
  | .CONDITION_QUEST_SATISFY_EXCLUSIVE | .CONDITION_SPELL | .CONDITION_DRUNKENSTATE
  | .CONDITION_TITLE | .CONDITION_GENDER | .CONDITION_QUESTSTATE | .CONDITION_DAILY_QUEST_DONE
  | .CONDITION_QUEST_OBJECTIVE_PROGRESS | .CONDITION_PET_TYPE | .CONDITION_TAXI => true
  | _ => false

def Condition.OpenToCreatures (cond : Condition) : Prop :=
  cond.NegativeCondition = true ∨ cond.ConditionType.ofPlayer = false ∧
      (cond.ConditionType = .CONDITION_OBJECT_ENTRY_GUID → cond.ConditionValue1 = TYPEID_UNIT) ∧
      (cond.ConditionType = .CONDITION_TYPE_MASK → cond.ConditionValue1 &&& TYPEMASK_UNIT.toNat ≠ 0)

/-- All conditions of an else-group, or of none, are open to creatures. -/
inductive OpenToCreatures (store : ConditionReferenceStore) : ConditionList → Prop
  | nothing : OpenToCreatures store []
  | group {conditions : ConditionList} {group : ℕ} : (∃ cond ∈ conditions, cond.ElseGroup = group) →
      (∀ cond ∈ conditions, cond.ElseGroup = group → cond.ReferenceId = 0 → cond.OpenToCreatures) →
      (∀ cond ∈ conditions, cond.ElseGroup = group → cond.ReferenceId ≠ 0 →
        ∀ template, store.find? cond.ReferenceId = some template → OpenToCreatures store template) →
      OpenToCreatures store conditions

namespace WorldObject

variable {object : WorldObject}

theorem gridBit_lt (object : WorldObject) : object.gridBit < 5 := by
  unfold gridBit
  split <;> decide

theorem gridTypeMask_eq (object : WorldObject) :
    object.gridTypeMask = BitVec.twoPow 32 object.gridBit := by
  unfold gridTypeMask gridBit
  cases object.kind <;> rfl

theorem land_gridTypeMask (mask : BitVec 32) (object : WorldObject) :
    mask &&& object.gridTypeMask ≠ 0 ↔ mask.getLsbD object.gridBit = true := by
  rw [gridTypeMask_eq, BitVec.and_twoPow]
  have hlt := object.gridBit_lt
  split
  case isFalse hbit => exact iff_of_false (fun hne => hne rfl) hbit
  rename_i hbit
  refine iff_of_true ?_ hbit
  intro hzero
  have hself := congrArg (·.getLsbD object.gridBit) hzero
  simp [BitVec.getLsbD_twoPow] at hself
  omega

theorem all_getLsbD {bit : ℕ} (hlt : bit < 5) : GRID_MAP_TYPE_MASK_ALL.getLsbD bit = true := by
  have hall : ∀ bit < 5, GRID_MAP_TYPE_MASK_ALL.getLsbD bit = true := by decide
  exact hall bit hlt

theorem gridBit_of_onUnit {test : Unit → Bool} (htest : Condition.onUnit object test = true) :
    object.gridBit = 1 ∨ object.gridBit = 4 := by
  unfold Condition.onUnit ToUnit at htest
  unfold gridBit
  split at htest
  case h_1 hkind => exact .inl (by rw [hkind])
  case h_2 hkind => exact .inr (by rw [hkind])
  case h_3 => cases htest

theorem gridBit_of_onPlayer {test : Player → Bool}
    (htest : Condition.onPlayer object test = true) :
    object.gridBit = 4 ∨ object.ControlledCreature := by
  unfold Condition.onPlayer GetCharmerOrOwnerPlayerOrPlayerItself ToUnit ToPlayer at htest
  cases hkind : object.kind with
  | player unit player => exact .inl (by rw [gridBit, hkind])
  | creature unit spawnId creatureType =>
    simp only [hkind, Option.any_some, Option.bind_some] at htest
    rcases hcharmer : unit.charmerOrOwner with _ | found
    · simp [hcharmer] at htest
    cases found with
    | none => simp [hcharmer] at htest
    | some player => exact .inr ⟨unit, spawnId, creatureType, player, hkind, hcharmer⟩
  | gameObject | dynamicObject | corpse => simp [hkind] at htest

theorem gridBit_of_type {bit : ℕ} (hbits : bit = 3 ∨ bit = 4 ∨ bit = 5 ∨ bit = 7)
    (hobject : object.m_objectType.getLsbD bit = true) :
    (bit = 3 ∧ (object.gridBit = 1 ∨ object.gridBit = 4)) ∨ (bit = 4 ∧ object.gridBit = 4) ∨
      (bit = 5 ∧ object.gridBit = 3) ∨ (bit = 7 ∧ object.gridBit = 0) := by
  unfold m_objectType at hobject
  unfold gridBit
  cases hkind : object.kind <;> rw [hkind] at hobject <;> dsimp only at hobject ⊢ <;>
    rcases hbits with rfl | rfl | rfl | rfl <;>
    first | exact absurd hobject (by decide) | decide

end WorldObject

/-! ## Single conditions -/

namespace Condition

variable {cond : Condition} {env : ConditionEnv} {sourceInfo : ConditionSourceInfo}
  {object : WorldObject} {mask : BitVec 32}

def unitMask : BitVec 32 := GRID_MAP_TYPE_MASK_CREATURE ||| GRID_MAP_TYPE_MASK_PLAYER

def ByValue (cond : Condition) : Prop :=
  cond.ConditionType = .CONDITION_OBJECT_ENTRY_GUID ∨ cond.ConditionType = .CONDITION_TYPE_MASK

inductive TypeCase (cond : Condition) (met : Bool) (object : WorldObject) : Prop
  | anything (hmask : cond.typeMask = some GRID_MAP_TYPE_MASK_ALL)
      (hplayer : cond.ConditionType.ofPlayer = false) (hvalue : ¬cond.ByValue)
  | unit (hmask : cond.typeMask = some unitMask) (hplayer : cond.ConditionType.ofPlayer = false)
      (hvalue : ¬cond.ByValue) (hmet : met = true → ∃ test, onUnit object test = true)
  | player (hmask : cond.typeMask = some GRID_MAP_TYPE_MASK_PLAYER)
      (hplayer : cond.ConditionType.ofPlayer = true)
      (hmet : met = true → ∃ test, onPlayer object test = true)
  | creatureType (htype : cond.ConditionType = .CONDITION_CREATURE_TYPE)
  | objectEntryGuid (htype : cond.ConditionType = .CONDITION_OBJECT_ENTRY_GUID)
  | typeMask (htype : cond.ConditionType = .CONDITION_TYPE_MASK)
  | assertion (hmask : cond.typeMask = none)

theorem typeCase (cond : Condition) (env : ConditionEnv) (sourceInfo : ConditionSourceInfo)
    (object : WorldObject) : cond.TypeCase (cond.condMeets env sourceInfo object) object := by
  obtain ⟨group, type, value1, value2, value3, reference, target, negative⟩ := cond
  cases type
  all_goals first
    | exact .anything rfl rfl (not_or.mpr ⟨nofun, nofun⟩)
    | exact .unit rfl rfl (not_or.mpr ⟨nofun, nofun⟩) fun hmet => ⟨_, hmet⟩
    | exact .player rfl rfl fun hmet => ⟨_, hmet⟩
    | exact .creatureType rfl
    | exact .objectEntryGuid rfl
    | exact .typeMask rfl
    | exact .assertion rfl

theorem land_typeMask {value bit : ℕ} (mask : BitVec 16) (hmask : mask.toNat = 1 <<< bit) :
    value &&& mask.toNat ≠ 0 ↔ value.testBit bit = true := by
  rw [hmask]
  exact land_one_shiftLeft_ne_zero_iff

def maskOfTypes (unit player gameObject corpse : Bool) : BitVec 32 :=
  (if unit then GRID_MAP_TYPE_MASK_CREATURE ||| GRID_MAP_TYPE_MASK_PLAYER else 0) |||
    (if player then GRID_MAP_TYPE_MASK_PLAYER else 0) |||
    (if gameObject then GRID_MAP_TYPE_MASK_GAMEOBJECT else 0) |||
    (if corpse then GRID_MAP_TYPE_MASK_CORPSE else 0)

theorem maskOfTypes_getLsbD (unit player gameObject corpse : Bool) :
    (maskOfTypes unit player gameObject corpse).getLsbD 0 = corpse ∧
      (maskOfTypes unit player gameObject corpse).getLsbD 1 = unit ∧
      (maskOfTypes unit player gameObject corpse).getLsbD 3 = gameObject ∧
      (maskOfTypes unit player gameObject corpse).getLsbD 4 = (unit || player) := by
  cases unit <;> cases player <;> cases gameObject <;> cases corpse <;> decide

theorem typeMask_of_types (htype : cond.ConditionType = .CONDITION_TYPE_MASK) :
    cond.typeMask = some (maskOfTypes (cond.ConditionValue1.testBit 3)
      (cond.ConditionValue1.testBit 4) (cond.ConditionValue1.testBit 5)
      (cond.ConditionValue1.testBit 7)) := by
  have hbit : ∀ (mask : BitVec 16) (bit : ℕ), mask.toNat = 1 <<< bit →
      decide (cond.ConditionValue1 &&& mask.toNat ≠ 0) = cond.ConditionValue1.testBit bit := by
    intro mask bit hmask
    rw [Bool.eq_iff_iff, decide_eq_true_eq]
    exact land_typeMask mask hmask
  rw [← hbit TYPEMASK_UNIT 3 rfl, ← hbit TYPEMASK_PLAYER 4 rfl,
    ← hbit TYPEMASK_GAMEOBJECT 5 rfl, ← hbit TYPEMASK_CORPSE 7 rfl]
  unfold typeMask
  rw [htype]
  rfl

theorem typeMask_of_entry (htype : cond.ConditionType = .CONDITION_OBJECT_ENTRY_GUID) :
    cond.typeMask =
      if cond.ConditionValue1 = TYPEID_UNIT then some GRID_MAP_TYPE_MASK_CREATURE
      else if cond.ConditionValue1 = TYPEID_PLAYER then some GRID_MAP_TYPE_MASK_PLAYER
      else if cond.ConditionValue1 = TYPEID_GAMEOBJECT then some GRID_MAP_TYPE_MASK_GAMEOBJECT
      else if cond.ConditionValue1 = TYPEID_CORPSE then some GRID_MAP_TYPE_MASK_CORPSE
      else some 0 := by
  unfold typeMask
  rw [htype]

theorem objectEntryGuid_typeId (hmet : cond.objectEntryGuid object = true) :
    object.GetTypeId = cond.ConditionValue1 := by
  unfold objectEntryGuid at hmet
  split at hmet
  · cases hmet
  split at hmet
  case isTrue hid => exact hid
  case isFalse => cases hmet

theorem objectEntryGuid_covers (htype : cond.ConditionType = .CONDITION_OBJECT_ENTRY_GUID)
    (hvalid : cond.isTypeValueValid = true) (hmask : cond.typeMask = some mask)
    (hmet : cond.objectEntryGuid object = true) : mask.getLsbD object.gridBit = true := by
  have hid := objectEntryGuid_typeId hmet
  rw [typeMask_of_entry htype, ← hid] at hmask
  cases hkind : object.kind with
  | creature unit spawnId creatureType =>
    rw [WorldObject.GetTypeId, hkind] at hmask
    rw [WorldObject.gridBit, hkind]
    cases hmask
    show GRID_MAP_TYPE_MASK_CREATURE.getLsbD 1 = true
    decide
  | player unit player =>
    rw [WorldObject.GetTypeId, hkind] at hmask
    rw [WorldObject.gridBit, hkind]
    cases hmask
    show GRID_MAP_TYPE_MASK_PLAYER.getLsbD 4 = true
    decide
  | gameObject spawnId =>
    rw [WorldObject.GetTypeId, hkind] at hmask
    rw [WorldObject.gridBit, hkind]
    cases hmask
    show GRID_MAP_TYPE_MASK_GAMEOBJECT.getLsbD 3 = true
    decide
  | dynamicObject =>
    rw [WorldObject.GetTypeId, hkind] at hid
    unfold isTypeValueValid at hvalid
    rw [htype, ← hid] at hvalid
    cases hvalid
  | corpse =>
    rw [WorldObject.GetTypeId, hkind] at hmask
    rw [WorldObject.gridBit, hkind]
    cases hmask
    decide

section

variable (htype : cond.ConditionType = .CONDITION_TYPE_MASK) (hvalid : cond.isTypeValueValid = true)
include htype hvalid

theorem testBit_of_valid {bit : ℕ} (hlt : bit < 16)
    (hbit : cond.ConditionValue1.testBit bit = true) :
    bit = 3 ∨ bit = 4 ∨ bit = 5 ∨ bit = 7 := by
  unfold isTypeValueValid at hvalid
  rw [htype] at hvalid
  rw [Bool.and_eq_true, decide_eq_true_eq, decide_eq_true_eq] at hvalid
  have hzero := congrArg (·.getLsbD bit) hvalid.2
  simp only [BitVec.getLsbD_and, BitVec.getLsbD_ofNat, hbit] at hzero
  have htable : ∀ bit < 16, (decide (bit < 32) && true &&
      (~~~((TYPEMASK_UNIT ||| TYPEMASK_PLAYER ||| TYPEMASK_GAMEOBJECT |||
        TYPEMASK_CORPSE).zeroExtend 32)).getLsbD bit) = false →
      bit = 3 ∨ bit = 4 ∨ bit = 5 ∨ bit = 7 := by decide
  exact htable bit hlt (hzero.trans BitVec.getLsbD_zero)

theorem isType_covers (hmask : cond.typeMask = some mask)
    (hmet : object.isType (BitVec.ofNat 16 cond.ConditionValue1) = true) :
    mask.getLsbD object.gridBit = true := by
  obtain ⟨bit, hlt, hvalue, hobject⟩ : ∃ bit < 16, cond.ConditionValue1.testBit bit = true ∧
      object.m_objectType.getLsbD bit = true := by
    by_contra hnone
    push Not at hnone
    refine absurd hmet (Bool.eq_false_iff.mp (decide_eq_false (not_not.mpr ?_)))
    refine BitVec.eq_of_getLsbD_eq fun bit hlt => ?_
    rw [BitVec.getLsbD_and, BitVec.getLsbD_ofNat, decide_eq_true hlt, Bool.true_and]
    cases hvalue : cond.ConditionValue1.testBit bit with
    | false => exact BitVec.getLsbD_zero.symm
    | true =>
      rw [Bool.true_and, Bool.eq_false_iff.mpr (hnone bit hlt hvalue)]
      exact BitVec.getLsbD_zero.symm
  have hbits := testBit_of_valid htype hvalid hlt hvalue
  rw [typeMask_of_types htype, Option.some.injEq] at hmask
  obtain ⟨hcorpse, hunit, hgameObject, hplayer⟩ := maskOfTypes_getLsbD
    (cond.ConditionValue1.testBit 3) (cond.ConditionValue1.testBit 4)
    (cond.ConditionValue1.testBit 5) (cond.ConditionValue1.testBit 7)
  rw [hmask] at hcorpse hunit hgameObject hplayer
  rcases WorldObject.gridBit_of_type hbits hobject with
    ⟨rfl, hgrid | hgrid⟩ | ⟨rfl, hgrid⟩ | ⟨rfl, hgrid⟩ | ⟨rfl, hgrid⟩
  · rw [hgrid, hunit, hvalue]
  · rw [hgrid, hplayer, hvalue, Bool.true_or]
  · rw [hgrid, hplayer, hvalue, Bool.or_true]
  · rw [hgrid, hgameObject, hvalue]
  · rw [hgrid, hcorpse, hvalue]

end

theorem typeMask_creature (hmask : cond.typeMask = some mask) :
    mask.getLsbD 1 = true ↔ cond.ConditionType.ofPlayer = false ∧
      (cond.ConditionType = .CONDITION_OBJECT_ENTRY_GUID → cond.ConditionValue1 = TYPEID_UNIT) ∧
      (cond.ConditionType = .CONDITION_TYPE_MASK →
        cond.ConditionValue1 &&& TYPEMASK_UNIT.toNat ≠ 0) := by
  cases cond.typeCase default (fun _ => none) default with
  | anything htypeMask hplayer hvalue =>
    cases htypeMask.symm.trans hmask
    exact iff_of_true (by decide) ⟨hplayer, fun htype => absurd (.inl htype) hvalue,
      fun htype => absurd (.inr htype) hvalue⟩
  | unit htypeMask hplayer hvalue =>
    cases htypeMask.symm.trans hmask
    exact iff_of_true (by decide) ⟨hplayer, fun htype => absurd (.inl htype) hvalue,
      fun htype => absurd (.inr htype) hvalue⟩
  | player htypeMask hplayer =>
    cases htypeMask.symm.trans hmask
    refine iff_of_false (by decide) fun hopen => ?_
    exact absurd (hplayer.symm.trans hopen.1) (by decide)
  | creatureType htype =>
    unfold typeMask at hmask
    rw [htype] at hmask
    cases hmask
    rw [htype]
    exact iff_of_true (by decide) ⟨rfl, nofun, nofun⟩
  | objectEntryGuid htype =>
    rw [typeMask_of_entry htype] at hmask
    rw [htype]
    split at hmask
    case isTrue hunit =>
      cases hmask
      exact iff_of_true (by decide) ⟨rfl, fun _ => hunit, nofun⟩
    rename_i hunit
    refine iff_of_false ?_ fun hopen => hunit (hopen.2.1 rfl)
    split at hmask
    · cases hmask
      decide
    split at hmask
    · cases hmask
      decide
    split at hmask
    · cases hmask
      decide
    · cases hmask
      decide
  | typeMask htype =>
    rw [typeMask_of_types htype, Option.some.injEq] at hmask
    rw [← hmask, (maskOfTypes_getLsbD ..).2.1, ← land_typeMask TYPEMASK_UNIT rfl, htype]
    exact ⟨fun hunit => ⟨rfl, nofun, fun _ => hunit⟩, fun hopen => hopen.2.2 rfl⟩
  | assertion hnone => exact nomatch hnone.symm.trans hmask

theorem typeMask_covers (hvalid : cond.isTypeValueValid = true)
    (hmask : cond.typeMask = some mask) (hmet : cond.condMeets env sourceInfo object = true) :
    mask.getLsbD object.gridBit = true ∨ object.ControlledCreature := by
  cases cond.typeCase env sourceInfo object with
  | anything htypeMask =>
    cases htypeMask.symm.trans hmask
    exact .inl (WorldObject.all_getLsbD object.gridBit_lt)
  | unit htypeMask _ _ hunit =>
    cases htypeMask.symm.trans hmask
    obtain ⟨test, htest⟩ := hunit hmet
    rcases WorldObject.gridBit_of_onUnit htest with hbit | hbit
    · exact .inl (by rw [hbit]; decide)
    · exact .inl (by rw [hbit]; decide)
  | player htypeMask _ hplayer =>
    cases htypeMask.symm.trans hmask
    obtain ⟨test, htest⟩ := hplayer hmet
    refine (WorldObject.gridBit_of_onPlayer htest).imp_left fun hbit => ?_
    rw [hbit]
    decide
  | creatureType htype =>
    unfold typeMask at hmask
    rw [htype] at hmask
    cases hmask
    unfold condMeets at hmet
    rw [htype] at hmet
    cases hkind : object.kind with
    | creature unit spawnId creatureType =>
      have hbit : object.gridBit = 1 := by rw [WorldObject.gridBit, hkind]
      rw [hbit]
      exact .inl (by decide)
    | _ => simp [hkind] at hmet
  | objectEntryGuid htype =>
    unfold condMeets at hmet
    rw [htype] at hmet
    exact .inl (objectEntryGuid_covers htype hvalid hmask hmet)
  | typeMask htype =>
    unfold condMeets at hmet
    rw [htype] at hmet
    exact .inl (isType_covers htype hvalid hmask hmet)
  | assertion hnone => exact nomatch hnone.symm.trans hmask

end Condition

open Folding

variable {store : ConditionReferenceStore} {bit : ℕ} {mask : BitVec 32}
  {conditions visited : ConditionList}

def searchValue (reference : ℕ → Except Abort (BitVec 32)) (cond : Condition) :
    Except Abort (BitVec 32) :=
  if cond.ReferenceId ≠ 0 then reference cond.ReferenceId
  else cond.GetSearcherTypeMaskForCondition.elim (.error .assertion) .ok

/-- A bit is in the mask of a group if it is in the mask of each of its conditions. The
conditions behind an empty mask are not visited. -/
structure SearchedGroup (reference : ℕ → Except Abort (BitVec 32)) (bit : ℕ)
    (visited : ConditionList) (group : ℕ) (mask : BitVec 32) : Prop where
  named : ∃ cond ∈ visited, cond.ElseGroup = group
  each : mask.getLsbD bit = true → ∀ cond ∈ visited, cond.ElseGroup = group →
    ∃ value, searchValue reference cond = .ok value ∧ value.getLsbD bit = true
  all : (∀ cond ∈ visited, cond.ElseGroup = group → ∀ value,
    searchValue reference cond = .ok value → value.getLsbD bit = true) → mask.getLsbD bit = true

structure Searched (reference : ℕ → Except Abort (BitVec 32)) (bit : ℕ)
    (visited : ConditionList) (groups : StdMap ℕ (BitVec 32)) : Prop where
  loaded : ∀ cond ∈ visited, cond.isLoaded = true
  found : ∀ group mask, groups.find? group = some mask →
    SearchedGroup reference bit visited group mask
  absent : ∀ group, groups.find? group = none → ∀ cond ∈ visited, cond.ElseGroup ≠ group

variable {reference : ℕ → Except Abort (BitVec 32)} {groups after : StdMap ℕ (BitVec 32)}
  {cond : Condition} {group : ℕ}

theorem SearchedGroup.append_other (hgroup : SearchedGroup reference bit visited group mask)
    (hother : cond.ElseGroup ≠ group) :
    SearchedGroup reference bit (visited ++ [cond]) group mask where
  named := by
    obtain ⟨named, hmem, heq⟩ := hgroup.named
    exact ⟨named, mem_append_left _ hmem, heq⟩
  each hbit other hmem heq := by
    rcases mem_append.mp hmem with hold | hnew
    · exact hgroup.each hbit other hold heq
    · rw [mem_singleton.mp hnew] at heq
      exact absurd heq hother
  all hall := hgroup.all fun other hmem => hall other (mem_append_left _ hmem)

theorem SearchedGroup.append_skipped (hgroup : SearchedGroup reference bit visited group mask)
    (hmask : mask.getLsbD bit = false) :
    SearchedGroup reference bit (visited ++ [cond]) group mask where
  named := by
    obtain ⟨named, hmem, heq⟩ := hgroup.named
    exact ⟨named, mem_append_left _ hmem, heq⟩
  each hbit := absurd hbit (Bool.eq_false_iff.mp hmask)
  all hall := hgroup.all fun other hmem => hall other (mem_append_left _ hmem)

variable {value : BitVec 32} {before : StdMap ℕ Bool}

theorem SearchedGroup.append (hgroup : SearchedGroup reference bit visited cond.ElseGroup mask)
    (hvalue : searchValue reference cond = .ok value) :
    SearchedGroup reference bit (visited ++ [cond]) cond.ElseGroup (mask &&& value) where
  named := ⟨cond, mem_append_right _ mem_cons_self, rfl⟩
  each hbit other hmem heq := by
    rw [BitVec.getLsbD_and, Bool.and_eq_true] at hbit
    rcases mem_append.mp hmem with hold | hnew
    · exact hgroup.each hbit.1 other hold heq
    · rw [mem_singleton.mp hnew]
      exact ⟨value, hvalue, hbit.2⟩
  all hall := by
    rw [BitVec.getLsbD_and, Bool.and_eq_true]
    refine ⟨hgroup.all fun other hmem => hall other (mem_append_left _ hmem), ?_⟩
    exact hall cond (mem_append_right _ mem_cons_self) rfl value hvalue

theorem SearchedGroup.first (hbit : bit < 5)
    (habsent : ∀ other ∈ visited, other.ElseGroup ≠ cond.ElseGroup)
    (hvalue : searchValue reference cond = .ok value) :
    SearchedGroup reference bit (visited ++ [cond]) cond.ElseGroup
      (GRID_MAP_TYPE_MASK_ALL &&& value) where
  named := ⟨cond, mem_append_right _ mem_cons_self, rfl⟩
  each hmask other hmem heq := by
    rw [BitVec.getLsbD_and, Bool.and_eq_true] at hmask
    rcases mem_append.mp hmem with hold | hnew
    · exact absurd heq (habsent other hold)
    · rw [mem_singleton.mp hnew]
      exact ⟨value, hvalue, hmask.2⟩
  all hall := by
    rw [BitVec.getLsbD_and, WorldObject.all_getLsbD hbit, Bool.true_and]
    exact hall cond (mem_append_right _ mem_cons_self) rfl value hvalue

theorem searchRound_cases (hround : searchRound reference groups cond = .ok after) :
    cond.isLoaded = true ∧ ((groups.find? cond.ElseGroup = some 0 ∧ after = groups) ∨
        ∃ value, searchValue reference cond = .ok value ∧ after = groups.insert cond.ElseGroup
          ((groups.find? cond.ElseGroup).getD GRID_MAP_TYPE_MASK_ALL &&& value)) := by
  unfold searchRound at hround
  split at hround
  · cases hround
  rename_i hloaded
  refine ⟨by simpa using hloaded, ?_⟩
  split at hround
  case h_1 hzero =>
    cases hround
    exact .inl ⟨hzero, rfl⟩
  change (searchValue reference cond).map _ = _ at hround
  rcases hvalue : searchValue reference cond with err | value
  · rw [hvalue] at hround
    cases hround
  rw [hvalue] at hround
  cases hround
  exact .inr ⟨value, rfl, rfl⟩

theorem Searched.round (hbit : bit < 5) (hsearched : Searched reference bit visited groups)
    (hround : searchRound reference groups cond = .ok after) :
    Searched reference bit (visited ++ [cond]) after := by
  obtain ⟨hloaded, hcases⟩ := searchRound_cases hround
  have hall : ∀ other ∈ visited ++ [cond], other.isLoaded = true := by
    intro other hmem
    rcases mem_append.mp hmem with hold | hnew
    · exact hsearched.loaded other hold
    · rwa [mem_singleton.mp hnew]
  rcases hcases with ⟨hzero, rfl⟩ | ⟨value, hvalue, rfl⟩
  · refine ⟨hall, fun group mask hfind => ?_, fun group hnone other hmem => ?_⟩
    · by_cases heq : cond.ElseGroup = group
      · subst heq
        cases hzero.symm.trans hfind
        exact (hsearched.found _ _ hfind).append_skipped BitVec.getLsbD_zero
      · exact (hsearched.found _ _ hfind).append_other heq
    · rcases mem_append.mp hmem with hold | hnew
      · exact hsearched.absent group hnone other hold
      · rw [mem_singleton.mp hnew]
        rintro rfl
        exact nomatch hzero.symm.trans hnone
  · refine ⟨hall, fun group mask hfind => ?_, fun group hnone other hmem => ?_⟩
    · rw [StdMap.find?_insert] at hfind
      split at hfind
      case isFalse heq => exact (hsearched.found _ _ hfind).append_other heq
      rename_i heq
      cases hfind
      rw [← heq]
      cases hbefore : groups.find? cond.ElseGroup with
      | none => exact .first hbit (hsearched.absent _ hbefore) hvalue
      | some mask => exact (hsearched.found _ _ hbefore).append hvalue
    · rw [StdMap.find?_insert] at hnone
      split at hnone
      · cases hnone
      rename_i heq
      rcases mem_append.mp hmem with hold | hnew
      · exact hsearched.absent group hnone other hold
      · rw [mem_singleton.mp hnew]
        exact heq

theorem getLsbD_foldl_or (entries : List (ℕ × BitVec 32)) (start : BitVec 32) (bit : ℕ) :
    (entries.foldl (fun mask group => mask ||| group.2) start).getLsbD bit = true ↔
      start.getLsbD bit = true ∨ ∃ entry ∈ entries, entry.2.getLsbD bit = true := by
  induction entries generalizing start with
  | nil => simp
  | cons entry entries ih =>
    rw [foldl_cons, ih, BitVec.getLsbD_or, Bool.or_eq_true, exists_mem_cons_iff, or_assoc]

theorem searchList_searched (hbit : bit < 5) (hne : conditions ≠ [])
    (hsearch : searchList reference conditions = .ok mask) :
    ∃ groups, Searched reference bit conditions groups ∧ (mask.getLsbD bit = true ↔
      ∃ group found, groups.find? group = some found ∧ found.getLsbD bit = true) := by
  unfold searchList at hsearch
  rw [if_neg hne] at hsearch
  rcases hfold : conditions.foldlM (searchRound reference) StdMap.empty with err | groups
  · rw [hfold] at hsearch
    cases hsearch
  rw [hfold] at hsearch
  cases hsearch
  have hempty : Searched reference bit [] StdMap.empty :=
    ⟨forall_mem_nil _, fun _ _ hfind => (nomatch hfind), fun _ _ => forall_mem_nil _⟩
  refine ⟨groups, foldlM_invariant (Searched reference bit)
    (fun _ _ _ _ hbefore hround => hbefore.round hbit hround) hempty hfold, ?_⟩
  have hzero : (0 : BitVec 32).getLsbD bit = false := BitVec.getLsbD_zero
  rw [getLsbD_foldl_or, hzero, or_iff_right Bool.false_ne_true]
  constructor
  · rintro ⟨entry, hentry, hmask⟩
    exact ⟨entry.1, entry.2, StdMap.find?_eq_some_iff.mpr hentry, hmask⟩
  · rintro ⟨group, found, hfind, hmask⟩
    exact ⟨(group, found), StdMap.find?_eq_some_iff.mp hfind, hmask⟩

def MetGroup (met : ℕ → Except Abort Bool) (meets : Condition → Bool)
    (visited : ConditionList) (group : ℕ) : Prop :=
  ∀ cond ∈ visited, cond.isLoaded = true → cond.ElseGroup = group →
    (if cond.ReferenceId ≠ 0 then met cond.ReferenceId else .ok (meets cond)) = .ok true

structure MetGroups (met : ℕ → Except Abort Bool) (meets : Condition → Bool)
    (visited : ConditionList) (groups : StdMap ℕ Bool) : Prop where
  found : ∀ group, groups.find? group = some true →
    (∃ cond ∈ visited, cond.ElseGroup = group) ∧ MetGroup met meets visited group
  failed : ∀ group, groups.find? group = some false → ¬MetGroup met meets visited group
  absent : ∀ group, groups.find? group = none →
    ∀ cond ∈ visited, cond.isLoaded = true → cond.ElseGroup ≠ group

variable {met : ℕ → Except Abort Bool} {meets : Condition → Bool}

theorem MetGroup.of_append {group : ℕ} (hmet : MetGroup met meets (visited ++ [cond]) group) :
    MetGroup met meets visited group :=
  fun other hmem => hmet other (mem_append_left _ hmem)

theorem MetGroups.skip (hmet : MetGroups met meets visited before)
    (hskip : cond.isLoaded = true → before.find? cond.ElseGroup = some false) :
    MetGroups met meets (visited ++ [cond]) before where
  found group hfind := by
    obtain ⟨⟨named, hnamed, hgroup⟩, hall⟩ := hmet.found group hfind
    refine ⟨⟨named, mem_append_left _ hnamed, hgroup⟩, fun other hmem hloaded heq => ?_⟩
    rcases mem_append.mp hmem with hold | hnew
    · exact hall other hold hloaded heq
    rw [mem_singleton.mp hnew] at hloaded heq
    rw [← heq, hskip hloaded] at hfind
    cases hfind
  failed group hfind hall := hmet.failed group hfind hall.of_append
  absent group hnone other hmem hloaded := by
    rcases mem_append.mp hmem with hold | hnew
    · exact hmet.absent group hnone other hold hloaded
    rw [mem_singleton.mp hnew] at hloaded ⊢
    rintro rfl
    exact nomatch hnone.symm.trans (hskip hloaded)

theorem MetGroups.insert (hmet : MetGroups met meets visited before)
    (hfalse : before.find? cond.ElseGroup ≠ some false) (hloaded : cond.isLoaded = true)
    {value : Bool}
    (hvalue : (if cond.ReferenceId ≠ 0 then met cond.ReferenceId else .ok (meets cond)) =
      .ok value) : MetGroups met meets (visited ++ [cond]) (before.insert cond.ElseGroup value) where
  found group hfind := by
    rw [StdMap.find?_insert] at hfind
    split at hfind
    case isTrue heq =>
      cases hfind
      subst heq
      refine ⟨⟨cond, mem_append_right _ mem_cons_self, rfl⟩, fun other hmem hloaded hgroup => ?_⟩
      rcases mem_append.mp hmem with hold | hnew
      · rcases hbefore : before.find? cond.ElseGroup with _ | flag
        · exact absurd hgroup (hmet.absent _ hbefore other hold hloaded)
        cases flag with
        | false => exact absurd hbefore hfalse
        | true => exact (hmet.found _ hbefore).2 other hold hloaded hgroup
      · rw [mem_singleton.mp hnew]
        exact hvalue
    case isFalse hne =>
      obtain ⟨⟨named, hnamed, hgroup⟩, hall⟩ := hmet.found group hfind
      refine ⟨⟨named, mem_append_left _ hnamed, hgroup⟩, fun other hmem hloaded heq => ?_⟩
      rcases mem_append.mp hmem with hold | hnew
      · exact hall other hold hloaded heq
      · rw [mem_singleton.mp hnew] at heq
        exact absurd heq hne
  failed group hfind hall := by
    rw [StdMap.find?_insert] at hfind
    split at hfind
    case isTrue heq =>
      cases hfind
      cases hvalue.symm.trans (hall cond (mem_append_right _ mem_cons_self) hloaded heq)
    case isFalse => exact hmet.failed group hfind hall.of_append
  absent group hnone other hmem hloaded := by
    rw [StdMap.find?_insert] at hnone
    split at hnone
    · cases hnone
    rename_i hne
    rcases mem_append.mp hmem with hold | hnew
    · exact hmet.absent group hnone other hold hloaded
    · rw [mem_singleton.mp hnew]
      exact hne

theorem MetGroups.round {after : StdMap ℕ Bool} (hmet : MetGroups met meets visited before)
    (hround : meetRound met meets before cond = .ok after) :
    MetGroups met meets (visited ++ [cond]) after := by
  unfold meetRound at hround
  split at hround
  case isTrue hunloaded =>
    cases hround
    refine hmet.skip fun hloaded => ?_
    rw [hloaded] at hunloaded
    cases hunloaded
  rename_i hloaded
  rw [Bool.not_eq_true', Bool.not_eq_false] at hloaded
  split at hround
  case h_1 hfalse =>
    cases hround
    exact hmet.skip fun _ => hfalse
  rename_i hfalse
  rcases hvalue : if cond.ReferenceId ≠ 0 then met cond.ReferenceId else .ok (meets cond) with err | value
  · rw [hvalue] at hround
    cases hround
  rw [hvalue] at hround
  cases hround
  exact hmet.insert hfalse hloaded hvalue

theorem metGroups_of_foldlM {groups : StdMap ℕ Bool}
    (hfold : conditions.foldlM (meetRound met meets) StdMap.empty = .ok groups) :
    MetGroups met meets conditions groups := by
  have hempty : MetGroups met meets [] StdMap.empty := ⟨nofun, nofun, fun _ _ => forall_mem_nil _⟩
  exact foldlM_invariant (MetGroups met meets) (fun _ _ _ _ hbefore hround => hbefore.round hround)
    hempty hfold

theorem exists_metGroup (hmeet : meetList met meets conditions = .ok true) :
    ∃ group, (∃ cond ∈ conditions, cond.ElseGroup = group) ∧
      MetGroup met meets conditions group := by
  unfold meetList at hmeet
  rcases hfold : conditions.foldlM (meetRound met meets) StdMap.empty with err | groups
  · rw [hfold] at hmeet
    cases hmeet
  rw [hfold] at hmeet
  obtain ⟨entry, hentry, htrue⟩ := any_eq_true.mp (Except.ok.inj hmeet)
  refine ⟨entry.1, (metGroups_of_foldlM hfold).found entry.1 (StdMap.find?_eq_some_iff.mpr ?_)⟩
  rw [← htrue]
  exact hentry

/-- What loading a condition checks; the condition asks for the first target. -/
structure Condition.Loaded (cond : Condition) : Prop where
  target : cond.ConditionTarget = 0
  valid : cond.ReferenceId = 0 → cond.isTypeValueValid = true

variable {env : ConditionEnv} {sourceInfo : ConditionSourceInfo} {object : WorldObject}
  {depth : ℕ}

def templateMask (store : ConditionReferenceStore) (depth refId : ℕ) : Except Abort (BitVec 32) :=
  match store.find? refId with
  | none => .error .assertion
  | some template => GetSearcherTypeMaskForConditionList store depth template

def templateMet (store : ConditionReferenceStore) (meets : Condition → Bool)
    (depth refId : ℕ) : Except Abort Bool :=
  match store.find? refId with
  | none => .ok true
  | some template => IsObjectMeetToConditionList store meets depth template

theorem search_succ (store : ConditionReferenceStore) (depth : ℕ)
    (conditions : ConditionList) :
    GetSearcherTypeMaskForConditionList store (depth + 1) conditions =
      searchList (templateMask store depth) conditions := rfl

theorem meet_succ (store : ConditionReferenceStore) (meets : Condition → Bool) (depth : ℕ)
    (conditions : ConditionList) :
    IsObjectMeetToConditionList store meets (depth + 1) conditions =
      meetList (templateMet store meets depth) meets conditions := rfl

theorem searchValue_ok (hvalue : searchValue (templateMask store depth) cond = .ok value) :
    (cond.ReferenceId ≠ 0 ∧ ∃ template, store.find? cond.ReferenceId = some template ∧
        GetSearcherTypeMaskForConditionList store depth template = .ok value) ∨
      cond.ReferenceId = 0 ∧ cond.GetSearcherTypeMaskForCondition = some value := by
  unfold searchValue at hvalue
  split at hvalue
  case isTrue href =>
    unfold templateMask at hvalue
    split at hvalue
    · cases hvalue
    case h_2 template htemplate => exact .inl ⟨href, template, htemplate, hvalue⟩
  rename_i href
  rw [not_not] at href
  rcases htype : cond.GetSearcherTypeMaskForCondition with _ | typeMask
  · rw [htype] at hvalue
    cases hvalue
  rw [htype] at hvalue
  cases hvalue
  exact .inr ⟨href, rfl⟩

theorem Condition.Loaded.covers (hloaded : cond.Loaded) (href : cond.ReferenceId = 0)
    (hobject : sourceInfo 0 = some object) (hfree : ¬object.ControlledCreature)
    (hmeets : cond.Meets env sourceInfo = true)
    (hmask : cond.GetSearcherTypeMaskForCondition = some value) :
    value.getLsbD object.gridBit = true := by
  unfold Condition.GetSearcherTypeMaskForCondition at hmask
  unfold Condition.Meets at hmeets
  rw [hloaded.target, if_neg (by decide), hobject] at hmeets
  dsimp only at hmeets
  split at hmask
  · cases hmask
    exact WorldObject.all_getLsbD object.gridBit_lt
  case isFalse hnegative =>
    rw [Bool.eq_false_iff.mpr hnegative, Bool.bne_false] at hmeets
    exact (Condition.typeMask_covers (hloaded.valid href) hmask hmeets).resolve_right hfree

theorem mask_covers (hobject : sourceInfo 0 = some object) (hfree : ¬object.ControlledCreature)
    {other : ℕ} (hloaded : ∀ cond, Uses store cond conditions → cond.Loaded)
    (hsearch : GetSearcherTypeMaskForConditionList store depth conditions = .ok mask)
    (hmeet : IsObjectMeetToConditionList store (fun cond => cond.Meets env sourceInfo) other
      conditions = .ok true) : mask.getLsbD object.gridBit = true := by
  induction depth generalizing other conditions mask with
  | zero => cases hsearch
  | succ depth ih =>
    rcases other with _ | other
    · cases hmeet
    rw [meet_succ] at hmeet
    obtain ⟨group, ⟨named, hnamed, hgroup⟩, hall⟩ := exists_metGroup hmeet
    obtain ⟨groups, hsearched, hmask⟩ := searchList_searched object.gridBit_lt
      (ne_nil_of_mem hnamed) hsearch
    rcases hfind : groups.find? group with _ | found
    · exact absurd hgroup (hsearched.absent group hfind named hnamed)
    refine hmask.mpr ⟨group, found, hfind, (hsearched.found _ _ hfind).all ?_⟩
    intro cond hmem heq value hvalue
    have hmet := hall cond hmem (hsearched.loaded cond hmem) heq
    rcases searchValue_ok hvalue with
      ⟨href, template, htemplate, hvalue⟩ | ⟨href, htype⟩
    · rw [if_pos href, templateMet, htemplate] at hmet
      refine ih (fun used huse => hloaded used ?_) hvalue hmet
      exact .reference hmem href htemplate huse
    · rw [if_neg (not_not.mpr href)] at hmet
      exact (hloaded cond (.here hmem)).covers href hobject hfree
        (Except.ok.inj hmet) htype

theorem Condition.creature_iff (hmask : cond.GetSearcherTypeMaskForCondition = some value) :
    value.getLsbD 1 = true ↔ cond.OpenToCreatures := by
  unfold Condition.GetSearcherTypeMaskForCondition at hmask
  split at hmask
  case isFalse hnegative =>
    exact (Condition.typeMask_creature hmask).trans (or_iff_right hnegative).symm
  rename_i hnegative
  cases hmask
  exact iff_of_true (by decide) (.inl hnegative)

theorem openToCreatures_of_mask (hbit : mask.getLsbD 1 = true)
    (hsearch : GetSearcherTypeMaskForConditionList store depth conditions = .ok mask) :
    OpenToCreatures store conditions := by
  induction depth generalizing conditions mask with
  | zero => cases hsearch
  | succ depth ih =>
    by_cases hnil : conditions = []
    · rw [hnil]
      exact .nothing
    obtain ⟨groups, hsearched, hmask⟩ := searchList_searched (show 1 < 5 by decide) hnil hsearch
    obtain ⟨group, found, hfind, hfound⟩ := hmask.mp hbit
    have hgroup := hsearched.found group found hfind
    refine .group hgroup.named (fun cond hmem heq href => ?_)
      fun cond hmem heq href template htemplate => ?_
    · obtain ⟨value, hvalue, hvalueBit⟩ := hgroup.each hfound cond hmem heq
      rcases searchValue_ok hvalue with ⟨hne, -⟩ | ⟨-, htype⟩
      · exact absurd href hne
      · exact (Condition.creature_iff htype).mp hvalueBit
    · obtain ⟨value, hvalue, hvalueBit⟩ := hgroup.each hfound cond hmem heq
      rcases searchValue_ok hvalue with ⟨-, other, hother, hsearch⟩ | ⟨heq, -⟩
      · cases htemplate.symm.trans hother
        exact ih hvalueBit hsearch
      · exact absurd heq href

theorem mask_of_openToCreatures (hopen : OpenToCreatures store conditions)
    (hsearch : GetSearcherTypeMaskForConditionList store depth conditions = .ok mask) :
    mask.getLsbD 1 = true := by
  induction hopen generalizing depth mask with
  | nothing =>
    cases depth with
    | zero => cases hsearch
    | succ depth =>
      cases hsearch
      decide
  | @group conditions group hnamed hopen _ ih =>
    rcases depth with _ | depth
    · cases hsearch
    obtain ⟨named, hmem, heq⟩ := hnamed
    obtain ⟨groups, hsearched, hmask⟩ := searchList_searched (show 1 < 5 by decide)
      (ne_nil_of_mem hmem) hsearch
    rcases hfind : groups.find? group with _ | found
    · exact absurd heq (hsearched.absent group hfind named hmem)
    refine hmask.mpr ⟨group, found, hfind, (hsearched.found _ _ hfind).all ?_⟩
    intro cond hmem heq value hvalue
    rcases searchValue_ok hvalue with
      ⟨href, template, htemplate, hvalue⟩ | ⟨href, htype⟩
    · exact ih cond hmem heq href template htemplate hvalue
    · exact (Condition.creature_iff htype).mpr (hopen cond hmem heq href)

theorem searchRound_ne_recursion (href : cond.ReferenceId ≠ 0 →
      reference cond.ReferenceId ≠ .error .recursion) (groups : StdMap ℕ (BitVec 32)) :
    searchRound reference groups cond ≠ .error .recursion := by
  unfold searchRound
  split
  · exact nofun
  split
  · exact nofun
  split
  case isFalse =>
    cases cond.GetSearcherTypeMaskForCondition with
    | none | some => exact nofun
  case isTrue hne =>
    have hvalue := href hne
    cases hresult : reference cond.ReferenceId with
    | error err =>
      cases err with
      | assertion => exact nofun
      | recursion => exact absurd hresult hvalue
    | ok value => exact nofun

theorem search_ne_recursion (hnested : Nested store depth conditions) :
    GetSearcherTypeMaskForConditionList store depth conditions ≠ .error .recursion := by
  induction hnested with
  | @list depth conditions _ ih =>
    rw [search_succ]
    unfold searchList
    split
    · exact nofun
    have hfold := @foldlM_ne_error _ _ _ (searchRound (templateMask store depth)) .recursion
      conditions (fun cond hmem groups => searchRound_ne_recursion (fun hne => by
        unfold templateMask
        split
        · exact nofun
        case h_2 template htemplate => exact ih cond hmem hne template htemplate) groups)
      StdMap.empty
    cases hresult : conditions.foldlM (searchRound (templateMask store depth)) StdMap.empty with
    | error err =>
      cases err with
      | assertion => exact nofun
      | recursion => exact absurd hresult hfold
    | ok groups => exact nofun

theorem exists_meetRound (href : cond.ReferenceId ≠ 0 →
      ∃ flag, met cond.ReferenceId = .ok flag) (groups : StdMap ℕ Bool) :
    ∃ after, meetRound met meets groups cond = .ok after := by
  unfold meetRound
  split
  · exact ⟨_, rfl⟩
  split
  · exact ⟨_, rfl⟩
  split
  case isFalse => exact ⟨_, rfl⟩
  rename_i hne
  obtain ⟨flag, hflag⟩ := href hne
  rw [hflag]
  exact ⟨_, rfl⟩

theorem exists_meet (meets : Condition → Bool) (hnested : Nested store depth conditions) :
    ∃ flag, IsObjectMeetToConditionList store meets depth conditions = .ok flag := by
  induction hnested with
  | @list depth conditions _ ih =>
    have hrounds : ∀ cond ∈ conditions, ∀ groups, ∃ after,
        meetRound (templateMet store meets depth) meets groups cond = .ok after := by
      intro cond hmem groups
      refine exists_meetRound (fun hne => ?_) groups
      unfold templateMet
      split
      · exact ⟨_, rfl⟩
      case h_2 template htemplate => exact ih cond hmem hne template htemplate
    obtain ⟨groups, hfold⟩ := exists_foldlM hrounds StdMap.empty
    rw [meet_succ]
    unfold meetList
    rw [hfold]
    exact ⟨_, rfl⟩

/-- For a list without cycles of references both walks end; and an object that meets the list
is among the searched types, unless it is a controlled creature and the list is not open to
creatures. -/
theorem targets_are_searched (hnested : Nested store depth conditions)
    (hloaded : ∀ cond, Uses store cond conditions → cond.Loaded)
    (hobject : sourceInfo 0 = some object) :
    (∃ flag, IsObjectMeetToConditions store env sourceInfo depth conditions = .ok flag) ∧
      GetSearcherTypeMaskForConditionList store depth conditions ≠ .error .recursion ∧
      ∀ mask, GetSearcherTypeMaskForConditionList store depth conditions = .ok mask →
        IsObjectMeetToConditions store env sourceInfo depth conditions = .ok true →
        (mask &&& object.gridTypeMask ≠ 0 ↔
          (object.ControlledCreature → OpenToCreatures store conditions)) := by
  refine ⟨?_, search_ne_recursion hnested, fun mask hsearch hmeet => ?_⟩
  · unfold IsObjectMeetToConditions
    split
    · exact ⟨_, rfl⟩
    · exact exists_meet _ hnested
  · rw [WorldObject.land_gridTypeMask]
    by_cases hcreature : object.ControlledCreature
    · obtain ⟨unit, spawnId, creatureType, player, hkind, -⟩ := id hcreature
      have hbit : object.gridBit = 1 := by rw [WorldObject.gridBit, hkind]
      rw [hbit]
      exact ⟨fun hmask _ => openToCreatures_of_mask hmask hsearch,
        fun hopen => mask_of_openToCreatures (hopen hcreature) hsearch⟩
    refine iff_of_true ?_ fun hcontrolled => absurd hcontrolled hcreature
    unfold IsObjectMeetToConditions at hmeet
    split at hmeet
    case isFalse => exact mask_covers hobject hcreature hloaded hsearch hmeet
    rename_i hnil
    rw [hnil] at hsearch hnested
    cases hnested
    cases hsearch
    exact WorldObject.all_getLsbD object.gridBit_lt

/-! ## The creature of a player -/

def ofAlliance : Condition := ⟨0, .CONDITION_TEAM, ALLIANCE, 0, 0, 0, 0, false⟩

def ownedCreature : WorldObject :=
  { (default : WorldObject) with
    kind := .creature { (default : Unit) with
      charmerOrOwner := some (some { (default : Player) with isAlliance := true }) } 0 0 }

def alliancePlayer : WorldObject :=
  { (default : WorldObject) with
    kind := .player default { (default : Player) with isAlliance := true } }

def targetOf (object : WorldObject) : ConditionSourceInfo :=
  fun target => if target = 0 then some object else none

theorem ofAlliance_loaded : ∀ cond, Uses StdMap.empty cond [ofAlliance] → cond.Loaded := by
  intro cond huses
  cases huses with
  | here hmem =>
    rw [mem_singleton.mp hmem]
    exact ⟨rfl, fun _ => rfl⟩
  | reference hmem hne =>
    exact absurd (congrArg Condition.ReferenceId (mem_singleton.mp hmem)) hne

theorem ofAlliance_nested : Nested StdMap.empty 1 [ofAlliance] := by
  refine .list fun cond hmem hne => ?_
  exact absurd (congrArg Condition.ReferenceId (mem_singleton.mp hmem)) hne

/-- The creature meets the condition through its owner, but only players are searched. -/
theorem ownedCreature_is_not_searched :
    ¬∀ (store : ConditionReferenceStore) (depth : ℕ) (conditions : ConditionList)
        (env : ConditionEnv) (sourceInfo : ConditionSourceInfo) (object : WorldObject)
        (mask : BitVec 32), Nested store depth conditions →
      (∀ cond, Uses store cond conditions → cond.Loaded) → sourceInfo 0 = some object →
      GetSearcherTypeMaskForConditionList store depth conditions = .ok mask →
      IsObjectMeetToConditions store env sourceInfo depth conditions = .ok true →
      mask &&& object.gridTypeMask ≠ 0 := by
  intro hclaim
  refine hclaim StdMap.empty 1 [ofAlliance] default (targetOf ownedCreature) ownedCreature
    GRID_MAP_TYPE_MASK_PLAYER ofAlliance_nested ofAlliance_loaded rfl ?_ ?_ ?_
  · rfl
  · rfl
  · rfl

/-- A player of the Alliance is searched for. -/
theorem player_is_searched : GRID_MAP_TYPE_MASK_PLAYER &&& alliancePlayer.gridTypeMask ≠ 0 := by
  have hsearched := @targets_are_searched StdMap.empty [ofAlliance] default
    (targetOf alliancePlayer) alliancePlayer 1 ofAlliance_nested ofAlliance_loaded rfl
  refine (hsearched.2.2 GRID_MAP_TYPE_MASK_PLAYER rfl rfl).mpr fun hcreature => ?_
  obtain ⟨_, _, _, _, hkind, -⟩ := hcreature
  cases hkind

end AzerothCore.Conditions

/-! ## Else-groups -/

namespace AzerothCore.Conditions
open List

variable {store : ConditionReferenceStore} {meets : Condition → Bool} {depth : ℕ}
  {conditions other : ConditionList}

inductive Satisfied (store : ConditionReferenceStore) (meets : Condition → Bool) :
    ConditionList → Prop
  | group {conditions : ConditionList} {named : Condition} (hnamed : named ∈ conditions)
      (hmeets : ∀ cond ∈ conditions, cond.ElseGroup = named.ElseGroup → cond.ReferenceId = 0 →
        meets cond = true)
      (hrefs : ∀ cond ∈ conditions, cond.ElseGroup = named.ElseGroup → cond.ReferenceId ≠ 0 →
        ∀ template, store.find? cond.ReferenceId = some template → Satisfied store meets template) :
      Satisfied store meets conditions

theorem meetList_eq_true_iff {met : ℕ → Except Abort Bool} {flag : Bool}
    (hloaded : ∀ cond ∈ conditions, cond.isLoaded = true)
    (hmeet : meetList met meets conditions = .ok flag) :
    flag = true ↔ ∃ named ∈ conditions, MetGroup met meets conditions named.ElseGroup := by
  constructor
  · rintro rfl
    obtain ⟨_, ⟨named, hnamed, rfl⟩, hall⟩ := exists_metGroup hmeet
    exact ⟨named, hnamed, hall⟩
  · rintro ⟨named, hnamed, hall⟩
    unfold meetList at hmeet
    rcases hfold : conditions.foldlM (meetRound met meets) StdMap.empty with err | groups
    · rw [hfold] at hmeet
      cases hmeet
    have hmet := metGroups_of_foldlM hfold
    rw [hfold] at hmeet
    cases hmeet
    cases hfind : groups.find? named.ElseGroup with
    | none => exact absurd rfl (hmet.absent _ hfind named hnamed (hloaded named hnamed))
    | some value =>
      cases value with
      | false => exact absurd hall (hmet.failed _ hfind)
      | true => exact any_eq_true.mpr ⟨_, StdMap.find?_eq_some_iff.mp hfind, rfl⟩

theorem templateMet_eq_true_iff {refId : ℕ}
    (hwalk : ∀ template, store.find? refId = some template → ∃ flag,
      IsObjectMeetToConditionList store meets depth template = .ok flag ∧
        (flag = true ↔ Satisfied store meets template)) :
    templateMet store meets depth refId = .ok true ↔
      ∀ template, store.find? refId = some template → Satisfied store meets template := by
  unfold templateMet
  split
  case h_1 hnone =>
    refine iff_of_true rfl fun template hfind => ?_
    exact nomatch hnone.symm.trans hfind
  case h_2 template htemplate =>
    obtain ⟨flag, hflag, hiff⟩ := hwalk template htemplate
    rw [hflag, Except.ok.injEq, hiff]
    refine ⟨fun hsat other hother => ?_, fun hall => hall template htemplate⟩
    rwa [Option.some.inj (hother.symm.trans htemplate)]

theorem exists_meet_iff (hnested : Nested store depth conditions)
    (hloaded : ∀ cond, Uses store cond conditions → cond.isLoaded = true) :
    ∃ flag, IsObjectMeetToConditionList store meets depth conditions = .ok flag ∧
      (flag = true ↔ Satisfied store meets conditions) := by
  obtain ⟨flag, hflag⟩ := exists_meet meets hnested
  refine ⟨flag, hflag, ?_⟩
  induction hnested generalizing flag with
  | @list depth conditions hrefs ih =>
    have htemplate : ∀ cond ∈ conditions, cond.ReferenceId ≠ 0 →
        (templateMet store meets depth cond.ReferenceId = .ok true ↔
          ∀ template, store.find? cond.ReferenceId = some template →
            Satisfied store meets template) := by
      intro cond hmem hne
      refine templateMet_eq_true_iff fun template hfind => ?_
      obtain ⟨inner, hinner⟩ := exists_meet meets (hrefs cond hmem hne template hfind)
      refine ⟨inner, hinner, ih cond hmem hne template hfind (fun used huses => ?_) inner hinner⟩
      exact hloaded used (.reference hmem hne hfind huses)
    rw [meetList_eq_true_iff (fun cond hmem => hloaded cond (.here hmem)) hflag]
    constructor
    · rintro ⟨named, hnamed, hall⟩
      refine .group hnamed (fun cond hmem hgroup hzero => ?_) fun cond hmem hgroup hne => ?_
      · have hmet := hall cond hmem (hloaded cond (.here hmem)) hgroup
        rw [if_neg (not_not.mpr hzero)] at hmet
        exact Except.ok.inj hmet
      · have hmet := hall cond hmem (hloaded cond (.here hmem)) hgroup
        rw [if_pos hne] at hmet
        exact (htemplate cond hmem hne).mp hmet
    · rintro ⟨hnamed, hmeets, hlists⟩
      refine ⟨_, hnamed, fun cond hmem _ hgroup => ?_⟩
      split
      case isTrue hne => exact (htemplate cond hmem hne).mpr (hlists cond hmem hgroup hne)
      case isFalse hzero => rw [hmeets cond hmem hgroup (not_not.mp hzero)]

theorem Nested.perm (hnested : Nested store depth conditions) (hperm : conditions.Perm other) :
    Nested store depth other := by
  cases hnested with
  | list hrefs => exact .list fun cond hmem => hrefs cond (hperm.mem_iff.mpr hmem)

theorem Uses.perm {cond : Condition} (huses : Uses store cond other)
    (hperm : conditions.Perm other) : Uses store cond conditions := by
  cases huses with
  | here hmem => exact .here (hperm.mem_iff.mpr hmem)
  | reference hmem hne hfind hrest => exact .reference (hperm.mem_iff.mpr hmem) hne hfind hrest

theorem Satisfied.perm (hsat : Satisfied store meets conditions) (hperm : conditions.Perm other) :
    Satisfied store meets other := by
  cases hsat with
  | group hnamed hmeets hrefs =>
    exact .group (hperm.mem_iff.mp hnamed) (fun cond hmem => hmeets cond (hperm.mem_iff.mpr hmem))
      fun cond hmem => hrefs cond (hperm.mem_iff.mpr hmem)

variable {env : ConditionEnv} {sourceInfo : ConditionSourceInfo}

/-- The result says whether a group is satisfied, and is the same for every order. -/
theorem meets_group (hnested : Nested store depth conditions) (hne : conditions ≠ [])
    (hloaded : ∀ cond, Uses store cond conditions → cond.isLoaded = true) :
    ∃ flag, (flag = true ↔ Satisfied store (fun cond => cond.Meets env sourceInfo) conditions) ∧
      ∀ other : ConditionList, conditions.Perm other →
        IsObjectMeetToConditions store env sourceInfo depth other = .ok flag := by
  obtain ⟨flag, -, hiff⟩ := @exists_meet_iff store (fun cond => cond.Meets env sourceInfo) _ _
    hnested hloaded
  refine ⟨flag, hiff, fun other hperm => ?_⟩
  obtain ⟨result, hresult, hsame⟩ := @exists_meet_iff store (fun cond => cond.Meets env sourceInfo)
    _ _ (hnested.perm hperm) fun cond huses => hloaded cond (huses.perm hperm)
  have hsat : Satisfied store (fun cond => cond.Meets env sourceInfo) conditions ↔
      Satisfied store (fun cond => cond.Meets env sourceInfo) other :=
    ⟨fun hsat => hsat.perm hperm, fun hsat => hsat.perm hperm.symm⟩
  obtain rfl : result = flag := Bool.eq_iff_iff.mpr (hsame.trans (hsat.symm.trans hiff.symm))
  have hother : other ≠ [] := fun hempty => hne (hempty ▸ hperm).eq_nil
  exact (if_neg hother).trans hresult

/-- A player of the Alliance meets the condition of that team. -/
theorem meets_group_alliance :
    Satisfied StdMap.empty (fun cond => cond.Meets default (targetOf alliancePlayer))
      [ofAlliance] := by
  have hloaded : ∀ cond, Uses StdMap.empty cond [ofAlliance] → cond.isLoaded = true := by
    intro cond huses
    cases huses with
    | here hmem => rw [mem_singleton.mp hmem]; rfl
    | reference hmem hne => exact absurd (congrArg Condition.ReferenceId (mem_singleton.mp hmem)) hne
  obtain ⟨flag, hiff, hall⟩ := @meets_group _ _ _ default (targetOf alliancePlayer)
    ofAlliance_nested (cons_ne_nil _ _) hloaded
  exact hiff.mp (Except.ok.inj (hall _ (Perm.refl _)).symm)

end AzerothCore.Conditions
