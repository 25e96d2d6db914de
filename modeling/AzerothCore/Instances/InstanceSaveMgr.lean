import AzerothCore.Collections.Folding
import AzerothCore.Collections.Multimap
import AzerothCore.Collections.Reachability
import AzerothCore.Collections.StdMap
import AzerothCore.Common.Define

/-!
# Instance saves and binds

`InstanceSaveMgr` owns the saves of the instances. A save lists the players who are bound to it
and each player has a map of binds, which hold pointers to saves. A pointer is an address here:
`saves` has the objects that are alive, so that a pointer to a destroyed save finds nothing and
the call that follows it fails. Failed assertions and null pointers are failures too. What is
written to the database, sent to players or passed to scripts has no part in the model.
-/

namespace AzerothCore.Instances

def MINUTE : ℤ := 60
def HOUR : ℤ := 60 * MINUTE
def DAY : ℤ := 24 * HOUR

def DUNGEON_DIFFICULTY_NORMAL : ℕ := 0
def RAID_DIFFICULTY_25MAN_NORMAL : ℕ := 1

def MAX_DUNGEON_DIFFICULTY : ℕ := 3
def MAX_RAID_DIFFICULTY : ℕ := 4
def MAX_DIFFICULTY : ℕ := 4

/-- `MAKE_PAIR32`, whose parameters are `uint16`. -/
def MAKE_PAIR32 (l h : ℕ) : ℕ := l % 2 ^ 16 + h % 2 ^ 16 * 2 ^ 16

def PAIR32_LOPART (x : ℕ) : ℕ := x % 2 ^ 16

def PAIR32_HIPART (x : ℕ) : ℕ := x / 2 ^ 16 % 2 ^ 16

/-! ## Maps and difficulties -/

inductive MapTypes
  | MAP_COMMON
  | MAP_INSTANCE
  | MAP_RAID
  | MAP_BATTLEGROUND
  | MAP_ARENA
deriving DecidableEq

structure MapEntry where
  map_type : MapTypes

namespace MapEntry

variable (entry : MapEntry)

def IsRaid : Bool := entry.map_type = .MAP_RAID

def Instanceable : Bool :=
  entry.map_type = .MAP_INSTANCE || entry.map_type = .MAP_RAID ||
    entry.map_type = .MAP_BATTLEGROUND || entry.map_type = .MAP_ARENA

end MapEntry

structure MapDifficulty where
  resetTime : ℕ

structure InstancePlayerBind where
  save : ℕ
  perm : Bool
  extended : Bool

abbrev BoundInstancesMap := StdMap ℕ InstancePlayerBind

/-- The game data and the configuration. `scaledResetTime` is the number of seconds that
`uint32(((resetTime * rate) / DAY) * DAY)` has in `float` arithmetic, and the orders are those
in which the unordered maps are visited. The keys of `sMapDifficultyMap` are pairs of a
`uint16` and a `Difficulty`, which is `uint8`. -/
structure InstanceWorld where
  sMapStore : ℕ → Option MapEntry
  sMapDifficultyMap : StdMap ℕ MapDifficulty
  keys_lt : ∀ key ∈ sMapDifficultyMap, key < 2 ^ 24
  CONFIG_INSTANCE_SHARED_ID : Bool
  CONFIG_INSTANCE_RESET_TIME_HOUR : ℕ
  scaledResetTime : ℕ → ℕ
  difficultyOrder : List (ℕ × MapDifficulty)
  difficultyOrder_perm : difficultyOrder.Perm sMapDifficultyMap.entries
  saveOrder : StdMap ℕ ℕ → List (ℕ × ℕ)
  saveOrder_perm : ∀ saves, (saveOrder saves).Perm saves.entries
  bindOrder : BoundInstancesMap → List (ℕ × InstancePlayerBind)
  bindOrder_perm : ∀ binds, (bindOrder binds).Perm binds.entries

namespace InstanceWorld

variable (world : InstanceWorld)

def IsSharedDifficultyMap (mapid : ℕ) : Bool :=
  world.CONFIG_INSTANCE_SHARED_ID && (mapid = 631 || mapid = 724)

def fixedDifficulty (mapid difficulty : ℕ) : ℕ :=
  if world.IsSharedDifficultyMap mapid then difficulty % 2 else difficulty

def GetMapDifficultyData (mapId difficulty : ℕ) : Option MapDifficulty :=
  world.sMapDifficultyMap.find? (MAKE_PAIR32 mapId difficulty)

def GetDownscaledMapDifficultyData (mapId difficulty : ℕ) : Option ℕ :=
  if (world.GetMapDifficultyData mapId difficulty).isSome then some difficulty
  else
    let tmpDiff := toUint8 (if difficulty > RAID_DIFFICULTY_25MAN_NORMAL then
      (difficulty : ℤ) - 2 else (difficulty : ℤ) - 1)
    if (world.GetMapDifficultyData mapId tmpDiff).isSome then some tmpDiff
    else
      let tmpDiff := toUint8 ((tmpDiff : ℤ) - 1)
      if (world.GetMapDifficultyData mapId tmpDiff).isSome then some tmpDiff else none

/-- `CONFIG_INSTANCE_RESET_TIME_HOUR * HOUR`, in `uint32`. -/
def diff : ℕ := uint32 (world.CONFIG_INSTANCE_RESET_TIME_HOUR * HOUR.toNat)

def period (mapDiff : MapDifficulty) : ℕ :=
  if (world.scaledResetTime mapDiff.resetTime : ℤ) < DAY then DAY.toNat
  else world.scaledResetTime mapDiff.resetTime

end InstanceWorld

/-! ## The data of the manager -/

/-- The maps `m[difficulty]` of a player. -/
structure BoundInstancesMapWrapper where
  m : ℕ → BoundInstancesMap

namespace BoundInstancesMapWrapper

def empty : BoundInstancesMapWrapper := ⟨fun _ => StdMap.empty⟩

variable (w : BoundInstancesMapWrapper)

def find? (difficulty mapid : ℕ) : Option InstancePlayerBind := (w.m difficulty).find? mapid

def insert (difficulty mapid : ℕ) (bind : InstancePlayerBind) : BoundInstancesMapWrapper :=
  ⟨Function.update w.m difficulty ((w.m difficulty).insert mapid bind)⟩

def erase (difficulty mapid : ℕ) : BoundInstancesMapWrapper :=
  ⟨Function.update w.m difficulty ((w.m difficulty).erase mapid)⟩

end BoundInstancesMapWrapper

structure InstanceSave where
  m_playerList : List ℕ
  m_resetTime : ℤ
  m_extendedResetTime : ℤ
  m_instanceid : ℕ
  m_mapid : ℕ
  m_difficulty : ℕ
  m_canReset : Bool

/-- `InstanceSave::InstanceSave`. -/
def InstanceSave.new (world : InstanceWorld) (MapId InstanceId difficulty : ℕ)
    (resetTime extendedResetTime : ℤ) : InstanceSave where
  m_playerList := []
  m_resetTime := resetTime
  m_extendedResetTime := extendedResetTime
  m_instanceid := InstanceId
  m_mapid := MapId % 2 ^ 16
  m_difficulty := world.fixedDifficulty (MapId % 2 ^ 16) difficulty
  m_canReset := true

structure InstResetEvent where
  type : ℕ
  mapid : ℕ
  difficulty : ℕ

inductive Failure
  /-- `playerBindStorage[guid]` of a player without maps is used. -/
  | noBoundInstancesMaps
  /-- A pointer to a save that was destroyed is used. -/
  | destroyedSave
  /-- `ASSERT(m_playerList.empty())` in the destructor of a save. -/
  | boundPlayers
  /-- `ASSERT(itr != m_instanceSaveById.end() && itr->second == save)`. -/
  | unregisteredSave
  /-- `ASSERT(!GetInstanceSave(instanceId))`. -/
  | usedInstanceId
  /-- `ASSERT(!bind.perm || permanent)`. -/
  | permanentBind
  /-- The entry of a map that does not exist is used. -/
  | noMapEntry

structure InstanceSaveMgr where
  m_instanceSaveById : StdMap ℕ ℕ
  playerBindStorage : StdMap ℕ BoundInstancesMapWrapper
  lock_instLists : Bool
  m_resetTimeByMapDifficulty : StdMap ℕ ℤ
  m_resetExtendedTimeByMapDifficulty : StdMap ℕ ℤ
  m_resetTimeQueue : Multimap ℤ InstResetEvent
  saves : StdMap ℕ InstanceSave
  nextSave : ℕ
  maps : List (ℕ × ℕ)

namespace InstanceSaveMgr

def new : InstanceSaveMgr :=
  ⟨.empty, .empty, false, .empty, .empty, .empty, .empty, 0, []⟩

variable (mgr : InstanceSaveMgr)

/-! ## Access to saves and binds -/

def deref (save : ℕ) : Except Failure InstanceSave :=
  match mgr.saves.find? save with
  | some object => .ok object
  | none => .error .destroyedSave

def setSave (save : ℕ) (object : InstanceSave) : InstanceSaveMgr :=
  { mgr with saves := mgr.saves.insert save object }

def boundMaps (guid : ℕ) : Except Failure BoundInstancesMapWrapper :=
  match mgr.playerBindStorage.find? guid with
  | some w => .ok w
  | none => .error .noBoundInstancesMaps

def setBoundMaps (guid : ℕ) (w : BoundInstancesMapWrapper) : InstanceSaveMgr :=
  { mgr with playerBindStorage := mgr.playerBindStorage.insert guid w }

def FindMap (mapid instanceId : ℕ) : Bool := mgr.maps.contains (mapid, instanceId)

def GetInstanceSave (InstanceId : ℕ) : Option ℕ := mgr.m_instanceSaveById.find? InstanceId

def GetResetTimeFor (mapid d : ℕ) : ℤ :=
  (mgr.m_resetTimeByMapDifficulty.find? (MAKE_PAIR32 mapid d)).getD 0

def GetExtendedResetTimeFor (mapid d : ℕ) : ℤ :=
  (mgr.m_resetExtendedTimeByMapDifficulty.find? (MAKE_PAIR32 mapid d)).getD 0

def SetResetTimeFor (mapid d : ℕ) (t : ℤ) : InstanceSaveMgr :=
  { mgr with
    m_resetTimeByMapDifficulty := mgr.m_resetTimeByMapDifficulty.insert (MAKE_PAIR32 mapid d) t }

def SetExtendedResetTimeFor (mapid d : ℕ) (t : ℤ) : InstanceSaveMgr :=
  { mgr with
    m_resetExtendedTimeByMapDifficulty :=
      mgr.m_resetExtendedTimeByMapDifficulty.insert (MAKE_PAIR32 mapid d) t }

def ScheduleReset (time : ℤ) (event : InstResetEvent) : InstanceSaveMgr :=
  { mgr with m_resetTimeQueue := mgr.m_resetTimeQueue.insert time event }

/-! ## Adding and destroying saves -/

def hasResetTime (entry : MapEntry) (difficulty : ℕ) : Bool :=
  entry.map_type = .MAP_RAID || difficulty > DUNGEON_DIFFICULTY_NORMAL

/-- The pointer to the new save, or `none` for `nullptr`. -/
def AddInstanceSave (world : InstanceWorld) (now : ℤ) (mapId instanceId difficulty : ℕ) :
    Except Failure (Option ℕ × InstanceSaveMgr) :=
  if (mgr.GetInstanceSave instanceId).isSome then .error .usedInstanceId
  else
    match world.sMapStore mapId with
    | none => .ok (none, mgr)
    | some entry =>
      if instanceId = 0 then .ok (none, mgr)
      else if difficulty ≥
          (if entry.IsRaid then MAX_RAID_DIFFICULTY else MAX_DUNGEON_DIFFICULTY) then
        .ok (none, mgr)
      else
        let object :=
          if hasResetTime entry difficulty then
            InstanceSave.new world mapId instanceId difficulty
              (mgr.GetResetTimeFor mapId difficulty)
              (mgr.GetExtendedResetTimeFor mapId difficulty)
          else InstanceSave.new world mapId instanceId difficulty (now + 3 * DAY) 0
        .ok (some mgr.nextSave, { mgr with
            m_instanceSaveById := mgr.m_instanceSaveById.insert instanceId mgr.nextSave
            saves := mgr.saves.insert mgr.nextSave object
            nextSave := mgr.nextSave + 1 })

/-- `delete save`, with the assertion of the destructor. -/
def destroy (save : ℕ) : Except Failure InstanceSaveMgr := do
  let object ← mgr.deref save
  if object.m_playerList = [] then .ok { mgr with saves := mgr.saves.erase save }
  else .error .boundPlayers

/-- Whether the save was taken from the storage. The caller destroys it where `deleteSave` is
false. -/
def DeleteInstanceSaveIfNeeded (save : Option ℕ) (skipMapCheck deleteSave : Bool) :
    Except Failure (Bool × InstanceSaveMgr) :=
  match save with
  | none => .ok (false, mgr)
  | some save => do
      let object ← mgr.deref save
      if !mgr.lock_instLists && object.m_playerList.isEmpty &&
          (skipMapCheck || !mgr.FindMap object.m_mapid object.m_instanceid) then
        if mgr.m_instanceSaveById.find? object.m_instanceid = some save then
          let mgr := { mgr with
            m_instanceSaveById := mgr.m_instanceSaveById.erase object.m_instanceid }
          if deleteSave then
            let mgr ← mgr.destroy save
            .ok (true, mgr)
          else .ok (true, mgr)
        else .error .unregisteredSave
      else .ok (false, mgr)

/-- `save->AddPlayer(guid)`. -/
def AddPlayer (save guid : ℕ) : Except Failure InstanceSaveMgr := do
  let object ← mgr.deref save
  .ok (mgr.setSave save { object with m_playerList := object.m_playerList ++ [guid] })

/-- `save->RemovePlayer(guid, this)`. -/
def RemovePlayer (save guid : ℕ) : Except Failure InstanceSaveMgr := do
  let object ← mgr.deref save
  let mgr := mgr.setSave save
    { object with m_playerList := object.m_playerList.filter (· ≠ guid) }
  let (deleteSave, mgr) ← mgr.DeleteInstanceSaveIfNeeded (some save) false false
  if deleteSave then mgr.destroy save else .ok mgr

/-- `save->SetCanReset(canReset)`. -/
def SetCanReset (save : ℕ) (canReset : Bool) : Except Failure InstanceSaveMgr := do
  let object ← mgr.deref save
  .ok (mgr.setSave save { object with m_canReset := canReset })

def PlayerCreateBoundInstancesMaps (guid : ℕ) : InstanceSaveMgr :=
  if (mgr.playerBindStorage.find? guid).isSome then mgr
  else mgr.setBoundMaps guid .empty

def PlayerGetBoundInstance (world : InstanceWorld) (guid mapid difficulty : ℕ) :
    Option InstancePlayerBind := do
  let difficulty_fixed ← world.GetDownscaledMapDifficultyData mapid
    (world.fixedDifficulty mapid difficulty)
  let w ← mgr.playerBindStorage.find? guid
  w.find? difficulty_fixed mapid

def PlayerGetBoundInstances (guid difficulty : ℕ) : BoundInstancesMap :=
  match mgr.playerBindStorage.find? guid with
  | some w => w.m difficulty
  | none => .empty

/-- `if (permanent) save->SetCanReset(false)`. -/
def setPermanent (save : ℕ) (permanent : Bool) : Except Failure InstanceSaveMgr :=
  if permanent then mgr.SetCanReset save false else .ok mgr

/-- The player leaves the list of the save of the bind, if there is one, and enters that of
`save`. -/
def changeSave (guid : ℕ) (bind : Option InstancePlayerBind) (save : ℕ) :
    Except Failure InstanceSaveMgr :=
  match bind with
  | none => mgr.AddPlayer save guid
  | some bind =>
    if bind.save = save then .ok mgr
    else do
      let mgr ← mgr.RemovePlayer bind.save guid
      mgr.AddPlayer save guid

/-- A bind that is not in the map yet is the one with the null pointer that `operator[]`
creates. -/
def PlayerBindToInstance (guid save : ℕ) (permanent : Bool) : Except Failure InstanceSaveMgr := do
  let object ← mgr.deref save
  let w ← mgr.boundMaps guid
  let bind := w.find? object.m_difficulty object.m_mapid
  if bind.any (·.perm) && !permanent then .error .permanentBind
  else
    let extended := bind.any fun bind => bind.save = save && bind.perm = permanent && bind.extended
    let mgr ← mgr.changeSave guid bind save
    let mgr ← mgr.setPermanent save permanent
    .ok (mgr.setBoundMaps guid
      (w.insert object.m_difficulty object.m_mapid ⟨save, permanent, extended⟩))

def PlayerUnbindInstance (guid mapid difficulty : ℕ) : Except Failure InstanceSaveMgr := do
  let w ← mgr.boundMaps guid
  match w.find? difficulty mapid with
  | none => .ok mgr
  | some bind => (mgr.setBoundMaps guid (w.erase difficulty mapid)).RemovePlayer bind.save guid

def PlayerUnbindInstanceNotExtended (guid mapid difficulty : ℕ) :
    Except Failure InstanceSaveMgr := do
  let w ← mgr.boundMaps guid
  match w.find? difficulty mapid with
  | none => .ok mgr
  | some bind =>
    if bind.extended then
      .ok (mgr.setBoundMaps guid
        (w.insert difficulty mapid { bind with extended := false }))
    else (mgr.setBoundMaps guid (w.erase difficulty mapid)).RemovePlayer bind.save guid

def UnbindAllFor (save : ℕ) : Except Failure InstanceSaveMgr := do
  let object ← mgr.deref save
  object.m_playerList.foldlM (fun mgr guid =>
    mgr.PlayerUnbindInstance guid object.m_mapid object.m_difficulty) mgr

/-- A round of `CopyBinds`. -/
def copyBind (world : InstanceWorld) (target d : ℕ) (mgr : InstanceSaveMgr)
    (entry : ℕ × InstancePlayerBind) : Except Failure InstanceSaveMgr :=
  if (mgr.PlayerGetBoundInstance world target entry.1 d).isSome then .ok mgr
  else mgr.PlayerBindToInstance target entry.2.save false

def CopyBinds (world : InstanceWorld) (source target : ℕ) : Except Failure InstanceSaveMgr :=
  if source = target then .ok mgr
  else (List.range MAX_DIFFICULTY).foldlM (fun mgr d =>
    (world.bindOrder (mgr.PlayerGetBoundInstances source d)).foldlM
      (copyBind world target d) mgr) mgr

/-- `WorldSession::HandleSetSavedInstanceExtend`. -/
def HandleSetSavedInstanceExtend (world : InstanceWorld) (guid mapId difficulty : ℕ)
    (toggleExtendOn : Bool) : InstanceSaveMgr :=
  match world.sMapStore mapId with
  | none => mgr
  | some entry =>
    if !entry.IsRaid then mgr
    else
      match world.GetDownscaledMapDifficultyData mapId (world.fixedDifficulty mapId difficulty),
        mgr.playerBindStorage.find? guid with
      | some difficulty_fixed, some w =>
        match w.find? difficulty_fixed mapId with
        | some instanceBind =>
          if !instanceBind.perm || toggleExtendOn = instanceBind.extended then mgr
          else mgr.setBoundMaps guid (w.insert difficulty_fixed mapId
            { instanceBind with extended := toggleExtendOn })
        | none => mgr
      | _, _ => mgr

/-- A row of `instance`. -/
structure InstanceRow where
  id : ℕ
  map : ℕ
  resettime : ℕ
  difficulty : ℕ

/-- A round of `LoadInstanceSaves`. -/
def loadInstanceSave (world : InstanceWorld) (now : ℤ) (mgr : InstanceSaveMgr)
    (row : InstanceRow) : Except Failure InstanceSaveMgr := do
  let (save, mgr) ← mgr.AddInstanceSave world now row.map row.id row.difficulty
  match save with
  | none => .ok mgr
  | some save => do
      let object ← mgr.deref save
      .ok (if row.resettime > 0 then
        mgr.setSave save { object with m_resetTime := row.resettime } else mgr)

def LoadInstanceSaves (world : InstanceWorld) (now : ℤ) (rows : List InstanceRow) :
    Except Failure InstanceSaveMgr :=
  rows.foldlM (loadInstanceSave world now) mgr

/-- A row of `character_instance`. -/
structure CharacterInstanceRow where
  guid : ℕ
  instanceId : ℕ
  permanent : Bool
  extended : Bool

/-- The end of a round of `LoadCharacterBinds`: the bind in the maps `w` points to `save`. -/
def storeBind (row : CharacterInstanceRow) (save : ℕ) (object : InstanceSave)
    (w : BoundInstancesMapWrapper) : Except Failure InstanceSaveMgr := do
  let mgr := mgr.setBoundMaps row.guid
    (w.insert object.m_difficulty object.m_mapid ⟨save, row.permanent, row.extended⟩)
  let mgr ← mgr.AddPlayer save row.guid
  mgr.setPermanent save row.permanent

/-- A round of `LoadCharacterBinds`. -/
def loadCharacterBind (mgr : InstanceSaveMgr) (row : CharacterInstanceRow) :
    Except Failure InstanceSaveMgr :=
  match mgr.GetInstanceSave row.instanceId with
  | none => .ok mgr
  | some save => do
      let mgr := mgr.PlayerCreateBoundInstancesMaps row.guid
      let object ← mgr.deref save
      let w ← mgr.boundMaps row.guid
      match w.find? object.m_difficulty object.m_mapid with
      | none => mgr.storeBind row save object w
      | some bind =>
        if bind.perm then .ok mgr
        else
          let mgr ← mgr.RemovePlayer bind.save row.guid
          mgr.storeBind row save object w

def LoadCharacterBinds (rows : List CharacterInstanceRow) : Except Failure InstanceSaveMgr := do
  let mgr ← rows.foldlM loadCharacterBind { mgr with lock_instLists := true }
  .ok { mgr with lock_instLists := false }

/-- `_ResetSave` of an entry of `m_instanceSaveById`. The players are those that were listed
before the loop: each is listed once, so the iterator to the next one stays valid. -/
def _ResetSave (InstanceId save : ℕ) : Except Failure InstanceSaveMgr := do
  let object ← mgr.deref save
  let mgr ← object.m_playerList.foldlM (fun mgr guid =>
    mgr.PlayerUnbindInstanceNotExtended guid object.m_mapid object.m_difficulty)
    { mgr with lock_instLists := true }
  let object ← mgr.deref save
  if object.m_playerList = [] then
    let mgr ← mgr.destroy save
    .ok { mgr with
      m_instanceSaveById := mgr.m_instanceSaveById.erase InstanceId
      lock_instLists := false }
  else
    .ok { mgr.setSave save { object with
        m_resetTime := mgr.GetResetTimeFor object.m_mapid object.m_difficulty
        m_extendedResetTime := mgr.GetExtendedResetTimeFor object.m_mapid object.m_difficulty } with
      lock_instLists := false }

/-- A round of the loop of `_ResetOrWarnAll` over the saves. -/
def resetSave (mapid difficulty : ℕ) (mgr : InstanceSaveMgr) (entry : ℕ × ℕ) :
    Except Failure InstanceSaveMgr := do
  let object ← mgr.deref entry.2
  if object.m_mapid = mapid ∧ object.m_difficulty = difficulty then
    mgr._ResetSave entry.1 entry.2
  else .ok mgr

/-- `next_reset`, which is `uint32`. -/
def nextReset (world : InstanceWorld) (mapDiff : MapDifficulty) (resetTime : ℤ) : ℕ :=
  toUint32 (((resetTime + MINUTE).tdiv DAY * DAY) + world.period mapDiff + world.diff)

/-- The times that `_ResetOrWarnAll` sets before it resets the saves. -/
def setNextReset (world : InstanceWorld) (mapid difficulty : ℕ) (mapDiff : MapDifficulty)
    (resetTime : ℤ) : InstanceSaveMgr :=
  let next_reset := nextReset world mapDiff resetTime
  ((mgr.SetResetTimeFor mapid difficulty next_reset).SetExtendedResetTimeFor mapid difficulty
      (uint32 (next_reset + world.period mapDiff))).ScheduleReset
    (toUint32 ((next_reset : ℤ) - 3600)) ⟨1, mapid, difficulty⟩

def _ResetOrWarnAll (world : InstanceWorld) (mapid difficulty : ℕ) (warn : Bool)
    (resetTime : ℤ) : Except Failure InstanceSaveMgr :=
  match world.sMapStore mapid with
  | none => .error .noMapEntry
  | some mapEntry =>
    if !mapEntry.Instanceable then .ok mgr
    else if warn then .ok mgr
    else
      match world.GetMapDifficultyData mapid difficulty with
      | none => .ok mgr
      | some mapDiff =>
        if mapDiff.resetTime = 0 then .ok mgr
        else
          let mgr := mgr.setNextReset world mapid difficulty mapDiff resetTime
          (world.saveOrder mgr.m_instanceSaveById).foldlM (resetSave mapid difficulty) mgr

/-- An instance map enters `m_InstancedMaps`. -/
def loadMap (mapid instanceId : ℕ) : InstanceSaveMgr :=
  { mgr with maps := (mapid, instanceId) :: mgr.maps }

/-- `InstanceMap::~InstanceMap`, then the map leaves `m_InstancedMaps`. -/
def unloadMap (mapid instanceId : ℕ) : Except Failure InstanceSaveMgr := do
  let (_, mgr) ← mgr.DeleteInstanceSaveIfNeeded (mgr.GetInstanceSave instanceId) true true
  .ok { mgr with maps := mgr.maps.filter (· ≠ (mapid, instanceId)) }

end InstanceSaveMgr

end AzerothCore.Instances

/-! ## Binds and player lists -/

namespace AzerothCore.Instances
open List Option Function Bool

namespace BoundInstancesMapWrapper

variable {w : BoundInstancesMapWrapper} {difficulty mapid other mapid' : ℕ}

theorem find?_insert (bind : InstancePlayerBind) :
    (w.insert difficulty mapid bind).find? other mapid' =
      if difficulty = other ∧ mapid = mapid' then some bind else w.find? other mapid' := by
  unfold find? insert
  dsimp only
  by_cases hdiff : difficulty = other
  · subst hdiff
    rw [update_self, StdMap.find?_insert]
    simp
  · rw [update_of_ne (Ne.symm hdiff), if_neg fun h => hdiff h.1]

theorem find?_erase : (w.erase difficulty mapid).find? other mapid' =
      if difficulty = other ∧ mapid = mapid' then none else w.find? other mapid' := by
  unfold find? erase
  dsimp only
  by_cases hdiff : difficulty = other
  · subst hdiff
    rw [update_self, StdMap.find?_erase]
    simp
  · rw [update_of_ne (Ne.symm hdiff), if_neg fun h => hdiff h.1]

theorem insert_erase (bind : InstancePlayerBind) :
    (w.erase difficulty mapid).insert difficulty mapid bind = w.insert difficulty mapid bind := by
  unfold insert erase
  dsimp only
  rw [update_self, update_idem]
  congr 2
  refine StdMap.ext_find? fun key => ?_
  rw [StdMap.find?_insert, StdMap.find?_insert, StdMap.find?_erase]
  split <;> rfl

end BoundInstancesMapWrapper

/-- The save after `m_playerList.remove(guid)`. -/
def InstanceSave.without (object : InstanceSave) (guid : ℕ) : InstanceSave :=
  { object with m_playerList := object.m_playerList.filter (· ≠ guid) }

/-- The save after `m_playerList.push_back(guid)`. -/
def InstanceSave.withPlayer (object : InstanceSave) (guid : ℕ) : InstanceSave :=
  { object with m_playerList := object.m_playerList ++ [guid] }

namespace InstanceSaveMgr

variable {world : InstanceWorld} {mgr after : InstanceSaveMgr} {guid save : ℕ}
  {object : InstanceSave} {w : BoundInstancesMapWrapper} {bind : InstancePlayerBind}

/-- The save that `playerBindStorage[guid]->m[difficulty][mapid]` points to. -/
def boundSave (mgr : InstanceSaveMgr) (guid difficulty mapid : ℕ) : Option ℕ :=
  (mgr.playerBindStorage.find? guid).bind fun w => (w.find? difficulty mapid).map (·.save)

structure Consistent (mgr : InstanceSaveMgr) : Prop where
  registered : ∀ id save, mgr.m_instanceSaveById.find? id = some save →
    ∃ object, mgr.saves.find? save = some object ∧ object.m_instanceid = id
  alive : ∀ save object, mgr.saves.find? save = some object →
    mgr.m_instanceSaveById.find? object.m_instanceid = some save ∧ save < mgr.nextSave
  distinct : ∀ save object, mgr.saves.find? save = some object → object.m_playerList.Nodup
  listed : ∀ save object, mgr.saves.find? save = some object → ∀ guid, guid ∈ object.m_playerList ↔
      mgr.boundSave guid object.m_difficulty object.m_mapid = some save
  bound : ∀ guid difficulty mapid save, mgr.boundSave guid difficulty mapid = some save →
    ∃ object, mgr.saves.find? save = some object ∧
      object.m_difficulty = difficulty ∧ object.m_mapid = mapid

section

variable {difficulty mapid : ℕ} (hw : mgr.playerBindStorage.find? guid = some w)
include hw

theorem boundSave_of_find? (hbind : w.find? difficulty mapid = some bind) :
    mgr.boundSave guid difficulty mapid = some bind.save := by
  rw [boundSave, hw, bind_some, hbind, map_some]

theorem boundSave_eq_none (hbind : w.find? difficulty mapid = none) :
    mgr.boundSave guid difficulty mapid = none := by
  rw [boundSave, hw, bind_some, hbind, map_none]

end

theorem exists_of_boundSave {difficulty mapid : ℕ}
    (hbound : mgr.boundSave guid difficulty mapid = some save) :
    ∃ w bind, mgr.playerBindStorage.find? guid = some w ∧
      w.find? difficulty mapid = some bind ∧ bind.save = save := by
  obtain ⟨w, hw, hmap⟩ := bind_eq_some_iff.mp hbound
  obtain ⟨bind, hbind, hsave⟩ := map_eq_some_iff.mp hmap
  exact ⟨w, bind, hw, hbind, hsave⟩

section

variable {difficulty mapid : ℕ} (hw : mgr.playerBindStorage.find? guid = some w)
include hw

theorem boundSave_insert (bind : InstancePlayerBind)
    (other difficulty' mapid' : ℕ) :
    (mgr.setBoundMaps guid (w.insert difficulty mapid bind)).boundSave other difficulty' mapid' =
      if guid = other ∧ difficulty = difficulty' ∧ mapid = mapid' then some bind.save
      else mgr.boundSave other difficulty' mapid' := by
  unfold boundSave setBoundMaps
  rw [StdMap.find?_insert]
  by_cases hguid : guid = other
  · subst hguid
    rw [if_pos rfl, hw, bind_some, bind_some, BoundInstancesMapWrapper.find?_insert]
    by_cases hplace : difficulty = difficulty' ∧ mapid = mapid'
    · rw [if_pos hplace, if_pos ⟨rfl, hplace⟩, map_some]
    · rw [if_neg hplace, if_neg fun h => hplace h.2]
  · rw [if_neg hguid, if_neg fun h => hguid h.1]

theorem boundSave_erase (other difficulty' mapid' : ℕ) :
    (mgr.setBoundMaps guid (w.erase difficulty mapid)).boundSave other difficulty' mapid' =
      if guid = other ∧ difficulty = difficulty' ∧ mapid = mapid' then none
      else mgr.boundSave other difficulty' mapid' := by
  unfold boundSave setBoundMaps
  rw [StdMap.find?_insert]
  by_cases hguid : guid = other
  · subst hguid
    rw [if_pos rfl, hw, bind_some, bind_some, BoundInstancesMapWrapper.find?_erase]
    by_cases hplace : difficulty = difficulty' ∧ mapid = mapid'
    · rw [if_pos hplace, if_pos ⟨rfl, hplace⟩, map_none]
    · rw [if_neg hplace, if_neg fun h => hplace h.2]
  · rw [if_neg hguid, if_neg fun h => hguid h.1]

end

theorem Consistent.new : Consistent InstanceSaveMgr.new := ⟨nofun, nofun, nofun, nofun, nofun⟩

theorem deref_of_find? (hsave : mgr.saves.find? save = some object) :
    mgr.deref save = .ok object := by
  rw [deref, hsave]

theorem find?_of_deref (hderef : mgr.deref save = .ok object) :
    mgr.saves.find? save = some object := by
  unfold deref at hderef
  split at hderef
  case h_2 => cases hderef
  rename_i found hfound
  cases hderef
  exact hfound

theorem boundMaps_of_find? (hw : mgr.playerBindStorage.find? guid = some w) :
    mgr.boundMaps guid = .ok w := by
  rw [boundMaps, hw]

theorem find?_of_boundMaps (hmaps : mgr.boundMaps guid = .ok w) :
    mgr.playerBindStorage.find? guid = some w := by
  unfold boundMaps at hmaps
  split at hmaps
  case h_2 => cases hmaps
  rename_i found hfound
  cases hmaps
  exact hfound

section Change

variable {changed : InstanceSave}

theorem Consistent.change (hcons : Consistent mgr)
    (hsave : mgr.saves.find? save = some object)
    (hafter : after.m_instanceSaveById = mgr.m_instanceSaveById ∧
      after.saves = mgr.saves.insert save changed ∧ after.nextSave = mgr.nextSave)
    (hid : changed.m_instanceid = object.m_instanceid)
    (hdiff : changed.m_difficulty = object.m_difficulty)
    (hmapid : changed.m_mapid = object.m_mapid)
    (hdist : changed.m_playerList.Nodup)
    (hlisted : ∀ guid, guid ∈ changed.m_playerList ↔
      after.boundSave guid object.m_difficulty object.m_mapid = some save)
    (hother : ∀ guid difficulty mapid, after.boundSave guid difficulty mapid =
        mgr.boundSave guid difficulty mapid ∨
      difficulty = object.m_difficulty ∧ mapid = object.m_mapid ∧
        (after.boundSave guid difficulty mapid = none ∨
          after.boundSave guid difficulty mapid = some save) ∧
        (mgr.boundSave guid difficulty mapid = none ∨
          mgr.boundSave guid difficulty mapid = some save)) :
    Consistent after := by
  obtain ⟨hregistry, hsaves, hnext⟩ := hafter
  have hfind : ∀ other, after.saves.find? other =
      if save = other then some changed else mgr.saves.find? other := by
    intro other
    rw [hsaves, StdMap.find?_insert]
  refine ⟨?registered, ?alive, ?distinct, ?listed, ?bound⟩
  case registered =>
    intro id other hother'
    rw [hregistry] at hother'
    obtain ⟨found, hfound, hfoundid⟩ := hcons.registered id other hother'
    rw [hfind]
    by_cases heq : save = other
    · subst heq
      rw [hsave, Option.some.injEq] at hfound
      subst hfound
      exact ⟨changed, if_pos rfl, hid.trans hfoundid⟩
    · exact ⟨found, (if_neg heq).trans hfound, hfoundid⟩
  case alive =>
    intro other found hfound
    rw [hfind] at hfound
    rw [hregistry, hnext]
    by_cases heq : save = other
    · subst heq
      rw [if_pos rfl, Option.some.injEq] at hfound
      rw [← hfound, hid]
      exact hcons.alive save object hsave
    · rw [if_neg heq] at hfound
      exact hcons.alive other found hfound
  case distinct =>
    intro other found hfound
    rw [hfind] at hfound
    by_cases heq : save = other
    · rw [if_pos heq, Option.some.injEq] at hfound
      exact hfound ▸ hdist
    · rw [if_neg heq] at hfound
      exact hcons.distinct other found hfound
  case listed =>
    intro other found hfound guid
    rw [hfind] at hfound
    by_cases heq : save = other
    · subst heq
      rw [if_pos rfl, Option.some.injEq] at hfound
      rw [← hfound, hdiff, hmapid]
      exact hlisted guid
    rw [if_neg heq] at hfound
    rw [hcons.listed other found hfound guid]
    rcases hother guid found.m_difficulty found.m_mapid with hsame | ⟨-, -, hnew, hold⟩
    · rw [hsame]
    have hne : some save ≠ some other := fun h => heq (some.inj h)
    refine iff_of_false ?_ ?_
    · rcases hold with hnone | hsome
      · rw [hnone]
        exact nofun
      · rw [hsome]
        exact hne
    · rcases hnew with hnone | hsome
      · rw [hnone]
        exact nofun
      · rw [hsome]
        exact hne
  case bound =>
    intro guid difficulty mapid other hbound
    rw [hfind]
    have hplace : save ≠ other → mgr.boundSave guid difficulty mapid = some other := by
      intro hne
      rcases hother guid difficulty mapid with hsame | ⟨-, -, hnone | hsome, -⟩
      · exact hsame ▸ hbound
      · exact nomatch hnone.symm.trans hbound
      · exact absurd (some.inj (hsome.symm.trans hbound)) hne
    by_cases heq : save = other
    · subst heq
      refine ⟨changed, if_pos rfl, ?_⟩
      rw [hdiff, hmapid]
      rcases hother guid difficulty mapid with hsame | ⟨hd, hm, -⟩
      · obtain ⟨found, hfound, hd, hm⟩ := hcons.bound guid difficulty mapid save
          (hsame ▸ hbound)
        rw [hsave, Option.some.injEq] at hfound
        exact hfound ▸ ⟨hd, hm⟩
      · exact ⟨hd.symm, hm.symm⟩
    · obtain ⟨found, hfound, hd, hm⟩ := hcons.bound guid difficulty mapid other
        (hplace heq)
      exact ⟨found, (if_neg heq).trans hfound, hd, hm⟩

theorem Consistent.destroyed (hcons : Consistent mgr)
    (hsave : mgr.saves.find? save = some object) (hempty : object.m_playerList = [])
    (hafter : after.m_instanceSaveById = mgr.m_instanceSaveById.erase object.m_instanceid ∧
      after.saves = mgr.saves.erase save ∧ after.nextSave = mgr.nextSave ∧
      after.playerBindStorage = mgr.playerBindStorage) :
    Consistent after := by
  obtain ⟨hregistry, hsaves, hnext, hstorage⟩ := hafter
  have hbinds : ∀ guid difficulty mapid, after.boundSave guid difficulty mapid =
      mgr.boundSave guid difficulty mapid := by
    intro guid difficulty mapid
    rw [boundSave, boundSave, hstorage]
  have hfind : ∀ other, after.saves.find? other =
      if save = other then none else mgr.saves.find? other := by
    intro other
    rw [hsaves, StdMap.find?_erase]
  have hkept : ∀ other found, after.saves.find? other = some found →
      save ≠ other ∧ mgr.saves.find? other = some found := by
    intro other found hfound
    rw [hfind] at hfound
    by_cases heq : save = other
    · rw [if_pos heq] at hfound
      cases hfound
    · exact ⟨heq, (if_neg heq).symm.trans hfound⟩
  have hreg := (hcons.alive save object hsave).1
  refine ⟨?registered, ?alive, ?distinct, ?listed, ?bound⟩
  case registered =>
    intro id other hother
    rw [hregistry, StdMap.find?_erase] at hother
    split at hother
    · cases hother
    rename_i hne
    obtain ⟨found, hfound, hid⟩ := hcons.registered id other hother
    refine ⟨found, ?_, hid⟩
    rw [hfind, if_neg, hfound]
    intro heq
    rw [← heq, hsave, Option.some.injEq] at hfound
    exact hne (hfound ▸ hid)
  case alive =>
    intro other found hfound
    obtain ⟨hne, hfound⟩ := hkept other found hfound
    obtain ⟨hid, hlt⟩ := hcons.alive other found hfound
    rw [hregistry, hnext, StdMap.find?_erase, if_neg]
    · exact ⟨hid, hlt⟩
    · intro heq
      rw [← heq, hreg, Option.some.injEq] at hid
      exact hne hid
  case distinct =>
    intro other found hfound
    exact hcons.distinct other found (hkept other found hfound).2
  case listed =>
    intro other found hfound guid
    rw [hbinds]
    exact hcons.listed other found (hkept other found hfound).2 guid
  case bound =>
    intro guid difficulty mapid other hbound
    rw [hbinds] at hbound
    obtain ⟨found, hfound, hd, hm⟩ := hcons.bound guid difficulty mapid other hbound
    refine ⟨found, ?_, hd, hm⟩
    rw [hfind, if_neg, hfound]
    intro heq
    rw [← heq, hsave, Option.some.injEq] at hfound
    have hlisted := (hcons.listed save object hsave guid).mpr
      (by rw [hfound, hd, hm, heq, hbound])
    rw [hempty] at hlisted
    cases hlisted

end Change

/-! ## Destroying a save that is not needed -/

def unneeded (mgr : InstanceSaveMgr) (skipMapCheck : Bool) (object : InstanceSave) : Bool :=
  !mgr.lock_instLists && object.m_playerList.isEmpty &&
    (skipMapCheck || !mgr.FindMap object.m_mapid object.m_instanceid)

/-- The save leaves the storage and is destroyed. -/
def dropSave (mgr : InstanceSaveMgr) (save : ℕ) (object : InstanceSave) : InstanceSaveMgr :=
  { mgr with
    m_instanceSaveById := mgr.m_instanceSaveById.erase object.m_instanceid
    saves := mgr.saves.erase save }

variable {skipMapCheck : Bool}

theorem playerList_of_unneeded (hunneeded : mgr.unneeded skipMapCheck object = true) :
    object.m_playerList = [] := by
  unfold unneeded at hunneeded
  rw [and_eq_true, and_eq_true, List.isEmpty_iff] at hunneeded
  exact hunneeded.1.2

theorem destroy_eq (hsave : mgr.saves.find? save = some object)
    (hempty : object.m_playerList = []) :
    mgr.destroy save = .ok { mgr with saves := mgr.saves.erase save } := by
  unfold destroy
  rw [deref_of_find? hsave]
  exact if_pos hempty

theorem DeleteInstanceSaveIfNeeded_of_needed {deleteSave : Bool}
    (hsave : mgr.saves.find? save = some object)
    (hneeded : mgr.unneeded skipMapCheck object = false) :
    mgr.DeleteInstanceSaveIfNeeded (some save) skipMapCheck deleteSave = .ok (false, mgr) := by
  unfold DeleteInstanceSaveIfNeeded
  dsimp only
  rw [deref_of_find? hsave]
  refine if_neg ?_
  rw [not_eq_true]
  exact hneeded

section

variable (hsave : mgr.saves.find? save = some object) (hreg : mgr.m_instanceSaveById.find? object.m_instanceid = some save) (hunneeded : mgr.unneeded skipMapCheck object = true)
include hsave hreg hunneeded

theorem DeleteInstanceSaveIfNeeded_of_unneeded :
    mgr.DeleteInstanceSaveIfNeeded (some save) skipMapCheck false = .ok (true, { mgr with
      m_instanceSaveById := mgr.m_instanceSaveById.erase object.m_instanceid }) := by
  unfold DeleteInstanceSaveIfNeeded
  dsimp only
  rw [deref_of_find? hsave]
  exact (if_pos hunneeded).trans (if_pos hreg)

theorem DeleteInstanceSaveIfNeeded_destroys :
    mgr.DeleteInstanceSaveIfNeeded (some save) skipMapCheck true =
      .ok (true, mgr.dropSave save object) := by
  unfold DeleteInstanceSaveIfNeeded
  dsimp only
  rw [deref_of_find? hsave]
  refine ((if_pos hunneeded).trans (if_pos hreg)).trans ?_
  have hdestroy := @destroy_eq { mgr with
    m_instanceSaveById := mgr.m_instanceSaveById.erase object.m_instanceid } save object hsave
    (playerList_of_unneeded hunneeded)
  rw [if_pos rfl, hdestroy]
  rfl

end

theorem Consistent.dropSave (hcons : Consistent mgr)
    (hsave : mgr.saves.find? save = some object) (hempty : object.m_playerList = []) :
    Consistent (mgr.dropSave save object) :=
  hcons.destroyed hsave hempty ⟨rfl, rfl, rfl, rfl⟩

/-! ## A player leaves a save -/

/-- What `RemovePlayer` does to a registered save. -/
def unlisted (mgr : InstanceSaveMgr) (save guid : ℕ) (object : InstanceSave) : InstanceSaveMgr :=
  let kept := mgr.setSave save (object.without guid)
  if kept.unneeded false (object.without guid) then kept.dropSave save (object.without guid)
  else kept

theorem RemovePlayer_eq (hsave : mgr.saves.find? save = some object)
    (hreg : mgr.m_instanceSaveById.find? object.m_instanceid = some save) (guid : ℕ) :
    mgr.RemovePlayer save guid = .ok (mgr.unlisted save guid object) := by
  have hkept : (mgr.setSave save (object.without guid)).saves.find? save =
      some (object.without guid) := StdMap.find?_insert_self _ _ _
  unfold RemovePlayer unlisted
  rw [deref_of_find? hsave]
  dsimp only
  cases hunneeded : (mgr.setSave save (object.without guid)).unneeded false
      (object.without guid) with
  | false =>
    have hdelete := @DeleteInstanceSaveIfNeeded_of_needed _ _ _ false false hkept hunneeded
    change ((mgr.setSave save (object.without guid)).DeleteInstanceSaveIfNeeded (some save)
      false false >>= _) = _
    rw [hdelete]
    rfl
  | true =>
    have hdelete := DeleteInstanceSaveIfNeeded_of_unneeded hkept hreg hunneeded
    change ((mgr.setSave save (object.without guid)).DeleteInstanceSaveIfNeeded (some save)
      false false >>= _) = _
    rw [hdelete]
    exact destroy_eq hkept (playerList_of_unneeded hunneeded)

@[simp]
theorem unlisted_playerBindStorage (mgr : InstanceSaveMgr) (save guid : ℕ)
    (object : InstanceSave) :
    (mgr.unlisted save guid object).playerBindStorage = mgr.playerBindStorage := by
  unfold unlisted
  dsimp only
  split <;> rfl

@[simp]
theorem unlisted_lock_instLists (mgr : InstanceSaveMgr) (save guid : ℕ)
    (object : InstanceSave) :
    (mgr.unlisted save guid object).lock_instLists = mgr.lock_instLists := by
  unfold unlisted
  dsimp only
  split <;> rfl

theorem unlisted_of_lock (hlock : mgr.lock_instLists = true) (save guid : ℕ)
    (object : InstanceSave) :
    mgr.unlisted save guid object = mgr.setSave save (object.without guid) := by
  unfold unlisted unneeded
  dsimp only
  rw [show (mgr.setSave save (object.without guid)).lock_instLists = true from hlock]
  rfl

theorem unlisted_find?_of_ne {other : ℕ} (hne : save ≠ other) (guid : ℕ)
    (object : InstanceSave) :
    (mgr.unlisted save guid object).saves.find? other = mgr.saves.find? other := by
  have hkept : (mgr.setSave save (object.without guid)).saves.find? other =
      mgr.saves.find? other := by
    rw [setSave, StdMap.find?_insert, if_neg hne]
  unfold unlisted
  dsimp only
  split
  · rw [dropSave, StdMap.find?_erase, if_neg hne, hkept]
  · exact hkept

theorem unlisted_setBoundMaps (mgr : InstanceSaveMgr) (save guid other : ℕ)
    (object : InstanceSave) (w : BoundInstancesMapWrapper) :
    (mgr.setBoundMaps other w).unlisted save guid object =
      (mgr.unlisted save guid object).setBoundMaps other w := by
  unfold unlisted unneeded FindMap
  dsimp only [setBoundMaps, setSave]
  split <;> rfl

theorem Consistent.unbind {difficulty mapid : ℕ} (hcons : Consistent mgr)
    (hw : mgr.playerBindStorage.find? guid = some w)
    (hbind : w.find? difficulty mapid = some bind)
    (hsave : mgr.saves.find? bind.save = some object) :
    Consistent ((mgr.setBoundMaps guid (w.erase difficulty mapid)).unlisted bind.save guid
      object) := by
  have hbound := boundSave_of_find? hw hbind
  obtain ⟨found, hfound, rfl, rfl⟩ := hcons.bound guid difficulty mapid bind.save hbound
  rw [hsave, Option.some.injEq] at hfound
  subst hfound
  have herase := @boundSave_erase mgr guid w object.m_difficulty object.m_mapid hw
  have hkept : Consistent ((mgr.setBoundMaps guid
      (w.erase object.m_difficulty object.m_mapid)).setSave bind.save (object.without guid)) := by
    refine hcons.change hsave ⟨rfl, rfl, rfl⟩ rfl rfl rfl
      ((hcons.distinct bind.save object hsave).filter _) ?_ ?_
    · intro other
      have hother := herase other object.m_difficulty object.m_mapid
      change _ ↔ (mgr.setBoundMaps guid _).boundSave other _ _ = _
      rw [hother, InstanceSave.without, mem_filter, decide_eq_true_eq,
        hcons.listed bind.save object hsave other]
      by_cases heq : guid = other
      · rw [if_pos ⟨heq, rfl, rfl⟩]
        exact iff_of_false (fun h => h.2 heq.symm) nofun
      · rw [if_neg fun h => heq h.1]
        exact ⟨fun h => h.1, fun h => ⟨h, fun h => heq h.symm⟩⟩
    · intro other difficulty mapid
      have hother := herase other difficulty mapid
      by_cases hplace : guid = other ∧ object.m_difficulty = difficulty ∧ object.m_mapid = mapid
      · rw [if_pos hplace] at hother
        obtain ⟨rfl, rfl, rfl⟩ := hplace
        exact .inr ⟨rfl, rfl, .inl hother, .inr hbound⟩
      · exact .inl (hother.trans (if_neg hplace))
  unfold unlisted
  dsimp only
  split
  case isTrue hunneeded =>
    exact hkept.dropSave (StdMap.find?_insert_self _ _ _) (playerList_of_unneeded hunneeded)
  case isFalse => exact hkept

theorem Consistent.enter (hcons : Consistent mgr)
    (hw : mgr.playerBindStorage.find? guid = some w)
    (hsave : mgr.saves.find? save = some object)
    (hnone : w.find? object.m_difficulty object.m_mapid = none) (permanent extended : Bool) :
    Consistent ((mgr.setSave save (object.withPlayer guid)).setBoundMaps guid
      (w.insert object.m_difficulty object.m_mapid ⟨save, permanent, extended⟩)) := by
  have hunbound := boundSave_eq_none hw hnone
  have hnew : guid ∉ object.m_playerList := by
    rw [hcons.listed save object hsave guid, hunbound]
    exact nofun
  have hinsert := @boundSave_insert mgr guid w object.m_difficulty object.m_mapid hw
    ⟨save, permanent, extended⟩
  refine hcons.change hsave ⟨rfl, rfl, rfl⟩ rfl rfl rfl ?_ ?_ ?_
  · refine (hcons.distinct save object hsave).append (nodup_singleton guid) ?_
    intro other hother hguid
    rw [mem_singleton] at hguid
    exact hnew (hguid ▸ hother)
  · intro other
    have hother := hinsert other object.m_difficulty object.m_mapid
    change _ ↔ (mgr.setBoundMaps guid _).boundSave other _ _ = _
    rw [hother, InstanceSave.withPlayer, mem_append, mem_singleton,
      hcons.listed save object hsave other]
    by_cases heq : guid = other
    · rw [if_pos ⟨heq, rfl, rfl⟩]
      exact iff_of_true (.inr heq.symm) rfl
    · rw [if_neg fun h => heq h.1]
      exact or_iff_left fun h => heq h.symm
  · intro other difficulty mapid
    have hother := hinsert other difficulty mapid
    by_cases hplace : guid = other ∧ object.m_difficulty = difficulty ∧ object.m_mapid = mapid
    · rw [if_pos hplace] at hother
      obtain ⟨rfl, rfl, rfl⟩ := hplace
      exact .inr ⟨rfl, rfl, .inr hother, .inl hunbound⟩
    · exact .inl (hother.trans (if_neg hplace))

theorem Consistent.congr (hcons : Consistent mgr)
    (hafter : after.m_instanceSaveById = mgr.m_instanceSaveById ∧ after.saves = mgr.saves ∧
      after.nextSave = mgr.nextSave)
    (hbinds : ∀ guid difficulty mapid, after.boundSave guid difficulty mapid =
      mgr.boundSave guid difficulty mapid) : Consistent after := by
  obtain ⟨hregistry, hsaves, hnext⟩ := hafter
  refine ⟨?_, ?_, ?_, ?_, ?_⟩
  · rw [hregistry, hsaves]
    exact hcons.registered
  · rw [hregistry, hsaves, hnext]
    exact hcons.alive
  · rw [hsaves]
    exact hcons.distinct
  · intro save object hsave guid
    rw [hsaves] at hsave
    rw [hbinds]
    exact hcons.listed save object hsave guid
  · intro guid difficulty mapid save hbound
    rw [hbinds] at hbound
    rw [hsaves]
    exact hcons.bound guid difficulty mapid save hbound

theorem Consistent.setFlags {difficulty mapid : ℕ} {flagged : InstancePlayerBind}
    (hcons : Consistent mgr) (hw : mgr.playerBindStorage.find? guid = some w)
    (hbind : w.find? difficulty mapid = some bind) (hsame : flagged.save = bind.save) :
    Consistent (mgr.setBoundMaps guid (w.insert difficulty mapid flagged)) := by
  refine hcons.congr ⟨rfl, rfl, rfl⟩ fun other difficulty' mapid' => ?_
  rw [boundSave_insert hw]
  split
  case isFalse => rfl
  rename_i hplace
  obtain ⟨rfl, rfl, rfl⟩ := hplace
  rw [boundSave_of_find? hw hbind, hsame]

theorem Consistent.setSave {changed : InstanceSave} (hcons : Consistent mgr)
    (hsave : mgr.saves.find? save = some object)
    (hid : changed.m_instanceid = object.m_instanceid)
    (hdiff : changed.m_difficulty = object.m_difficulty)
    (hmapid : changed.m_mapid = object.m_mapid)
    (hlist : changed.m_playerList = object.m_playerList) :
    Consistent (mgr.setSave save changed) := by
  refine hcons.change hsave ⟨rfl, rfl, rfl⟩ hid hdiff hmapid ?_ ?_ ?_
  · rw [hlist]
    exact hcons.distinct save object hsave
  · intro guid
    rw [hlist]
    exact hcons.listed save object hsave guid
  · exact fun _ _ _ => .inl rfl

end InstanceSaveMgr

end AzerothCore.Instances
