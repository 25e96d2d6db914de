import AzerothCore.Collections.Reachability
import AzerothCore.Common.Define
import Mathlib.Data.Finset.Max

/-!
# Groups of a battleground queue and the pools they are selected into

`GroupQueueInfo` is the record of a group, or of a player alone, that waits in a
battleground queue. A `GroupQueueInfo*` is a number; the functions of a pool that
read the groups take the records as a function of the pointers.
-/

namespace AzerothCore.Battlegrounds
open List

def MAX_BATTLEGROUND_BRACKETS : ℕ := 16

abbrev BattlegroundBracketId := Fin MAX_BATTLEGROUND_BRACKETS

instance : NeZero MAX_BATTLEGROUND_BRACKETS := ⟨by decide⟩

inductive TeamId where
  | TEAM_ALLIANCE
  | TEAM_HORDE
  | TEAM_NEUTRAL
  deriving DecidableEq, Inhabited

namespace TeamId

def index : TeamId → ℕ
  | TEAM_ALLIANCE => 0
  | TEAM_HORDE => 1
  | TEAM_NEUTRAL => 2

end TeamId

structure GroupQueueInfo where
  Players : Finset ℕ
  teamId : TeamId
  RealTeamID : TeamId
  BgTypeId : ℕ
  IsRated : Bool
  ArenaType : ℕ
  ArenaTeamId : ℕ
  JoinTime : ℕ
  RemoveInviteTime : ℕ
  IsInvitedToBGInstanceGUID : ℕ
  ArenaTeamRating : ℕ
  ArenaMatchmakerRating : ℕ
  OpponentsTeamRating : ℕ
  OpponentsMatchmakerRating : ℕ
  PreviousOpponentsTeamId : ℕ
  BracketId : BattlegroundBracketId
  GroupType : ℕ
  deriving DecidableEq, Inhabited

structure SelectionPool where
  SelectedGroups : List ℕ
  PlayerCount : ℕ
  deriving DecidableEq

namespace SelectionPool

variable (info : ℕ → GroupQueueInfo)

/-- The pool after `Init`. -/
def Init : SelectionPool where
  SelectedGroups := []
  PlayerCount := 0

def AddGroup (pool : SelectionPool) (ginfo desiredCount : ℕ) : SelectionPool × Bool :=
  if (info ginfo).IsInvitedToBGInstanceGUID = 0 ∧
      pool.PlayerCount + (info ginfo).Players.card ≤ desiredCount then
    ({ SelectedGroups := pool.SelectedGroups ++ [ginfo]
       PlayerCount := uint32 (pool.PlayerCount + (info ginfo).Players.card) }, true)
  else (pool, pool.PlayerCount < desiredCount)

/-- The scan of `KickGroup`: the last group of a proper size, or else the last of
the largest. -/
def groupToKick (size : ℕ) : List ℕ → ℕ → Bool → ℕ × Bool
  | [], groupToKick, foundProper => (groupToKick, foundProper)
  | gInfo :: rest, kick, foundProper =>
    if (int32 (info gInfo).Players.card - int32 size).natAbs ≤ 1 then
      groupToKick size rest gInfo true
    else if !foundProper ∧ (info kick).Players.card ≤ (info gInfo).Players.card then
      groupToKick size rest gInfo foundProper
    else groupToKick size rest kick foundProper

def KickGroup (pool : SelectionPool) (size : ℕ) : SelectionPool × Bool :=
  match pool.SelectedGroups with
  | [] => (pool, false)
  | front :: _ =>
    let (kick, foundProper) := groupToKick info size pool.SelectedGroups front false
    let playersCountInGroup := (info kick).Players.card
    ({ SelectedGroups := pool.SelectedGroups.filter (· ≠ kick)
       PlayerCount := toUint32 (pool.PlayerCount - playersCountInGroup) },
      !foundProper && decide (size < playersCountInGroup))

/-! ## The loops that fill a pool from a list of groups -/

/-- Adds the groups that are not invited, up to the first one the pool refuses. -/
def addNotInvited (desiredCount : ℕ) : List ℕ → SelectionPool → SelectionPool
  | [], pool => pool
  | ginfo :: rest, pool =>
    if (info ginfo).IsInvitedToBGInstanceGUID ≠ 0 then addNotInvited desiredCount rest pool
    else
      let (pool, added) := pool.AddGroup info ginfo desiredCount
      if added then addNotInvited desiredCount rest pool else pool

def addUntilEnough (minPlayers maxPlayers : ℕ) : List ℕ → SelectionPool → SelectionPool × List ℕ
  | [], pool => (pool, [])
  | ginfo :: rest, pool =>
    if (info ginfo).IsInvitedToBGInstanceGUID ≠ 0 then
      addUntilEnough minPlayers maxPlayers rest pool
    else
      let pool := (pool.AddGroup info ginfo maxPlayers).1
      if minPlayers ≤ pool.PlayerCount then (pool, ginfo :: rest)
      else addUntilEnough minPlayers maxPlayers rest pool

/-- Adds groups up to the first one the pool refuses, with the groups from the
iterator on. -/
def addUntilRefused (desiredCount : ℕ) : List ℕ → SelectionPool → SelectionPool × List ℕ
  | [], pool => (pool, [])
  | ginfo :: rest, pool =>
    let (pool, added) := pool.AddGroup info ginfo desiredCount
    if added then addUntilRefused desiredCount rest pool else (pool, ginfo :: rest)

theorem selected_AddGroup (pool : SelectionPool) (ginfo desiredCount : ℕ) :
    (pool.AddGroup info ginfo desiredCount).1.SelectedGroups = pool.SelectedGroups ∨
      (pool.AddGroup info ginfo desiredCount).1.SelectedGroups =
        pool.SelectedGroups ++ [ginfo] := by
  unfold AddGroup
  split
  · exact .inr rfl
  · exact .inl rfl

theorem selected_addNotInvited (desiredCount : ℕ) (groups : List ℕ) (pool : SelectionPool) :
    ∃ added, added.Sublist groups ∧ (addNotInvited info desiredCount groups pool).SelectedGroups =
        pool.SelectedGroups ++ added := by
  induction groups generalizing pool with
  | nil => exact ⟨[], List.Sublist.refl [], (append_nil _).symm⟩
  | cons ginfo rest ih =>
    rw [addNotInvited]
    split
    · obtain ⟨added, hsub, hsel⟩ := ih pool
      exact ⟨added, hsub.cons ginfo, hsel⟩
    rcases hadd : pool.AddGroup info ginfo desiredCount with ⟨next, accepted⟩
    have hnext := selected_AddGroup info pool ginfo desiredCount
    rw [hadd] at hnext
    rcases accepted with _ | _
    · rcases hnext with hsel | hsel
      · exact ⟨[], nil_sublist _, by rw [append_nil]; exact hsel⟩
      · exact ⟨[ginfo], by simp, hsel⟩
    obtain ⟨added, hsub, hsel⟩ := ih next
    rcases hnext with hsame | hgrown
    · exact ⟨added, hsub.cons ginfo, by rw [← hsame]; exact hsel⟩
    refine ⟨ginfo :: added, hsub.cons_cons ginfo, ?_⟩
    have happend : pool.SelectedGroups ++ ginfo :: added =
        next.SelectedGroups ++ added := by
      rw [hgrown, append_assoc, singleton_append]
    rw [happend]
    exact hsel

end SelectionPool

end AzerothCore.Battlegrounds

/-! ## `BattlegroundQueue` -/

namespace AzerothCore.Battlegrounds

open Reachability

def BG_QUEUE_PREMADE_ALLIANCE : ℕ := 0

def BG_QUEUE_PREMADE_HORDE : ℕ := 1

def BG_QUEUE_NORMAL_ALLIANCE : ℕ := 2

def BG_QUEUE_NORMAL_HORDE : ℕ := 3

def BG_QUEUE_CFBG : ℕ := 4

def BG_QUEUE_MAX : ℕ := 10

def PVP_TEAMS_COUNT : ℕ := 2

def INVITE_ACCEPT_WAIT_TIME : ℕ := 60000

def STATUS_WAIT_QUEUE : ℕ := 1

def STATUS_WAIT_LEAVE : ℕ := 4

def BATTLEGROUND_RB : ℕ := 32

def BG_QUEUE_INVITATION_TYPE_NO_BALANCE : ℕ := 0

def BG_QUEUE_INVITATION_TYPE_BALANCED : ℕ := 1

def BG_QUEUE_INVITATION_TYPE_EVEN : ℕ := 2

/-- `groups` are the records that are allocated, by pointer. -/
structure BattlegroundQueue where
  groups : ℕ → Option GroupQueueInfo
  m_QueuedPlayers : ℕ → Option ℕ
  m_QueuedGroups : BattlegroundBracketId → ℕ → List ℕ
  m_SelectionPools : TeamId → SelectionPool

structure Battleground where
  GetInstanceID : ℕ
  isRated : Bool
  GetBgTypeID : ℕ
  GetBracketId : BattlegroundBracketId
  GetStatus : ℕ
  GetFreeSlotsForTeam : TeamId → ℕ

structure BattlegroundTemplate where
  isArena : Bool
  GetMinPlayersPerTeam : ℕ
  GetMaxPlayersPerTeam : ℕ

/-- The time, the settings and the managers that the queue asks. A battleground that
is created is given by its instance, and `fillRounds` bounds the rounds in which
`FillPlayersToBG` balances the pools. -/
structure QueueEnv where
  now : ℕ
  premadeGroupWait : ℕ
  invitationType : ℕ
  prevOpponentsDiscardTimer : ℕ
  isTesting : Bool
  isArenaTesting : Bool
  GetMaxRatingDifference : ℕ
  GetRatingDiscardTimer : ℕ
  bgQueues : List Battleground
  bg_template : Option BattlegroundTemplate
  bracketEntry : Bool
  premadeBattleground : Option ℕ
  normalBattleground : Option ℕ
  ratedArena : Option ℕ
  fillRounds : ℕ

namespace BattlegroundQueue

def empty : BattlegroundQueue where
  groups _ := none
  m_QueuedPlayers _ := none
  m_QueuedGroups _ _ := []
  m_SelectionPools _ := .Init

variable (queue : BattlegroundQueue)

def info (ginfo : ℕ) : GroupQueueInfo :=
  (queue.groups ginfo).getD default

def modify (ginfo : ℕ) (f : GroupQueueInfo → GroupQueueInfo) : BattlegroundQueue :=
  { queue with
    groups := Function.update queue.groups ginfo ((queue.groups ginfo).map f) }

def setGroups (bracket : BattlegroundBracketId) (type : ℕ)
    (list : List ℕ) : BattlegroundQueue :=
  { queue with
    m_QueuedGroups := fun b t =>
      if b = bracket ∧ t = type then list else queue.m_QueuedGroups b t }

def push_front (bracket : BattlegroundBracketId) (type ginfo : ℕ) : BattlegroundQueue :=
  queue.setGroups bracket type (ginfo :: queue.m_QueuedGroups bracket type)

def setPool (team : TeamId) (pool : SelectionPool) : BattlegroundQueue :=
  { queue with m_SelectionPools := Function.update queue.m_SelectionPools team pool }

/-- `Init` of both pools. -/
def initPools : BattlegroundQueue :=
  (queue.setPool .TEAM_ALLIANCE .Init).setPool .TEAM_HORDE .Init

structure AddGroupArgs where
  leader : ℕ
  teamId : TeamId
  RealTeamID : TeamId
  group : Option (List ℕ)
  bgTypeId : ℕ
  bracketId : BattlegroundBracketId
  arenaType : ℕ
  isRated : Bool
  isPremade : Bool
  arenaRating : ℕ
  matchmakerRating : ℕ
  arenaTeamId : ℕ
  opponentsArenaTeamId : ℕ

namespace AddGroupArgs

variable (args : AddGroupArgs)

def index : ℕ :=
  (if !args.isRated && !args.isPremade then PVP_TEAMS_COUNT else 0) +
    (if args.teamId = .TEAM_HORDE then 1 else 0)

def ginfo (now : ℕ) (players : Finset ℕ) : GroupQueueInfo where
  Players := players
  teamId := args.teamId
  RealTeamID := args.RealTeamID
  BgTypeId := args.bgTypeId
  IsRated := args.isRated
  ArenaType := args.arenaType
  ArenaTeamId := args.arenaTeamId
  JoinTime := uint32 now
  RemoveInviteTime := 0
  IsInvitedToBGInstanceGUID := 0
  ArenaTeamRating := args.arenaRating
  ArenaMatchmakerRating := args.matchmakerRating
  OpponentsTeamRating := 0
  OpponentsMatchmakerRating := 0
  PreviousOpponentsTeamId := args.opponentsArenaTeamId
  BracketId := args.bracketId
  GroupType := args.index

def members : List ℕ :=
  args.group.getD [args.leader]

def Promised : Prop :=
  args.teamId ≠ .TEAM_NEUTRAL ∧ args.leader ∈ args.members

instance (args : AddGroupArgs) : Decidable args.Promised :=
  inferInstanceAs (Decidable (_ ∧ _))

end AddGroupArgs

/-- The players enter the map one by one; a player that is in it already is an
assertion that fails. -/
def addPlayers (ginfo : ℕ) : List ℕ → (ℕ → Option ℕ) × Finset ℕ → Option ((ℕ → Option ℕ) × Finset ℕ)
  | [], joined => some joined
  | guid :: rest, (m_QueuedPlayers, players) =>
    if m_QueuedPlayers guid = none then
      addPlayers ginfo rest
        (Function.update m_QueuedPlayers guid (some ginfo), insert guid players)
    else none

/-- `ginfo` is the pointer that `new` gives back. -/
def AddGroup (ginfo now : ℕ) (args : AddGroupArgs) : Option BattlegroundQueue :=
  match addPlayers ginfo args.members (queue.m_QueuedPlayers, ∅) with
  | none => none
  | some (m_QueuedPlayers, players) =>
    some
      { queue with
        groups := Function.update queue.groups ginfo (some (args.ginfo now players))
        m_QueuedPlayers := m_QueuedPlayers
        m_QueuedGroups := fun b t =>
          if b = args.bracketId ∧ t = args.index then
            queue.m_QueuedGroups b t ++ [ginfo]
          else queue.m_QueuedGroups b t }

/-- How a call of `RemovePlayer`, or the last call it makes of itself, ends. -/
inductive RemoveExit where
  | couldNotFindPlayer
  | cannotFindGroupinfo
  | removed
  deriving DecidableEq

def dropPlayer (groupInfo guid : ℕ) : BattlegroundQueue :=
  { queue.modify groupInfo fun info => { info with Players := info.Players.erase guid } with
    m_QueuedPlayers := Function.update queue.m_QueuedPlayers guid none }

def deleteGroup (bracketId : BattlegroundBracketId)
    (groupType groupInfo : ℕ) : BattlegroundQueue :=
  { queue.setGroups bracketId groupType
      ((queue.m_QueuedGroups bracketId groupType).erase groupInfo) with
    groups := Function.update queue.groups groupInfo none }

/-- `RemovePlayer`, with a bound on the calls it makes of itself. -/
def removePlayer : ℕ → BattlegroundQueue → ℕ → Option (BattlegroundQueue × RemoveExit)
  | 0, _, _ => none
  | calls + 1, queue, guid =>
    match queue.m_QueuedPlayers guid with
    | none => some (queue, .couldNotFindPlayer)
    | some groupInfo =>
      let bracketId := (queue.info groupInfo).BracketId
      let groupType := (queue.info groupInfo).GroupType
      if groupInfo ∈ queue.m_QueuedGroups bracketId groupType then
        if guid ∈ (queue.info groupInfo).Players then
          let left := (queue.info groupInfo).Players.erase guid
          let dropped := queue.dropPlayer groupInfo guid
          if hleft : left.Nonempty then
            -- everyone of a rated group that is not invited leaves too
            if (queue.info groupInfo).IsRated ∧
                (queue.info groupInfo).IsInvitedToBGInstanceGUID = 0 then
              removePlayer calls dropped (left.min' hleft)
            else some (dropped, .removed)
          else some (dropped.deleteGroup bracketId groupType groupInfo, .removed)
        else none
      else some (queue, .cannotFindGroupinfo)

def RemovePlayer (guid : ℕ) : Option (BattlegroundQueue × RemoveExit) :=
  match queue.m_QueuedPlayers guid with
  | none => removePlayer 1 queue guid
  | some groupInfo => removePlayer ((queue.info groupInfo).Players.card + 1) queue guid

/-! ## `FillPlayersToBG` -/

structure FillState where
  alliance : SelectionPool
  horde : SelectionPool
  aliRest : List ℕ
  hordeRest : List ℕ

/-- The free slots that `FillPlayersToBG` counts on, alliance first. -/
def freeSlots (aliFree hordeFree : ℤ) (aliCount hordeCount invitationType : ℕ) : ℤ × ℤ :=
  if invitationType = BG_QUEUE_INVITATION_TYPE_EVEN ∧ hordeFree = 1 ∧ aliFree = 1 ∧
      aliCount ≠ hordeCount then
    let hordeExtra := max (int32 ((hordeCount : ℤ) - aliCount)) 0
    let aliExtra := max (int32 ((aliCount : ℤ) - hordeCount)) 0
    (max (aliFree - aliExtra) 0, max (hordeFree - hordeExtra) 0)
  else (aliFree, hordeFree)

/-- A kick from a pool; if more players left than were to, the pool is filled again. -/
def kickAndRefill (info : ℕ → GroupQueueInfo) (size desiredCount : ℤ) (rest : List ℕ)
    (pool : SelectionPool) : SelectionPool × List ℕ :=
  let (pool, kickedMore) := pool.KickGroup info (toUint32 size)
  if kickedMore then SelectionPool.addUntilRefused info (toUint32 desiredCount) rest pool
  else (pool, rest)

/-- The loop of `FillPlayersToBG` that balances the pools. -/
def balancePools (info : ℕ → GroupQueueInfo) (aliFree hordeFree : ℤ) :
    ℕ → FillState → Option FillState
  | 0, _ => none
  | rounds + 1, fill =>
    let diffAli := aliFree - int32 fill.alliance.PlayerCount
    let diffHorde := hordeFree - int32 fill.horde.PlayerCount
    if 1 < (diffAli - diffHorde).natAbs ∧
        (0 < fill.horde.PlayerCount ∨ 0 < fill.alliance.PlayerCount) then
      if diffAli < diffHorde then
        let (alliance, aliRest) := kickAndRefill info (diffHorde - diffAli)
          (if diffHorde ≤ aliFree then aliFree - diffHorde else 0) fill.aliRest fill.alliance
        let fill := { fill with alliance := alliance, aliRest := aliRest }
        if alliance.PlayerCount = 0 then
          if aliFree ≤ diffHorde + 1 then some fill
          else
            balancePools info aliFree hordeFree rounds
              { fill with
                horde := (fill.horde.KickGroup info (toUint32 (diffHorde - diffAli))).1 }
        else balancePools info aliFree hordeFree rounds fill
      else
        let (horde, hordeRest) := kickAndRefill info (diffAli - diffHorde)
          (if diffAli ≤ hordeFree then hordeFree - diffAli else 0) fill.hordeRest fill.horde
        let fill := { fill with horde := horde, hordeRest := hordeRest }
        if horde.PlayerCount = 0 then
          if hordeFree ≤ diffAli + 1 then some fill
          else
            balancePools info aliFree hordeFree rounds
              { fill with
                alliance := (fill.alliance.KickGroup info (toUint32 (diffAli - diffHorde))).1 }
        else balancePools info aliFree hordeFree rounds fill
    else some fill

/-- The pools after `FillPlayersToBG`. -/
def fillPools (env : QueueEnv) (bg : Battleground)
    (bracket_id : BattlegroundBracketId) : Option FillState :=
  let aliGroups := queue.m_QueuedGroups bracket_id BG_QUEUE_NORMAL_ALLIANCE
  let hordeGroups := queue.m_QueuedGroups bracket_id BG_QUEUE_NORMAL_HORDE
  let (aliFree, hordeFree) := freeSlots (int32 (bg.GetFreeSlotsForTeam .TEAM_ALLIANCE))
    (int32 (bg.GetFreeSlotsForTeam .TEAM_HORDE)) aliGroups.length hordeGroups.length
    env.invitationType
  let (alliance, aliRest) := SelectionPool.addUntilRefused queue.info (toUint32 aliFree)
    aliGroups (queue.m_SelectionPools .TEAM_ALLIANCE)
  let (horde, hordeRest) := SelectionPool.addUntilRefused queue.info (toUint32 hordeFree)
    hordeGroups (queue.m_SelectionPools .TEAM_HORDE)
  let fill : FillState := ⟨alliance, horde, aliRest, hordeRest⟩
  if env.invitationType = BG_QUEUE_INVITATION_TYPE_NO_BALANCE then some fill
  else balancePools queue.info aliFree hordeFree env.fillRounds fill

def FillPlayersToBG (env : QueueEnv) (bg : Battleground)
    (bracket_id : BattlegroundBracketId) : Option BattlegroundQueue :=
  match queue.fillPools env bg bracket_id with
  | none => none
  | some fill => some ((queue.setPool .TEAM_ALLIANCE fill.alliance).setPool .TEAM_HORDE fill.horde)

/-! ## `CheckPremadeMatch` -/

def notInvited (ginfo : ℕ) : Bool :=
  (queue.info ginfo).IsInvitedToBGInstanceGUID == 0

def premadePools (bracket_id : BattlegroundBracketId)
    (MaxPlayersPerTeam ali_group horde_group : ℕ) : BattlegroundQueue :=
  let alliance := ((queue.m_SelectionPools .TEAM_ALLIANCE).AddGroup queue.info ali_group
    MaxPlayersPerTeam).1
  let horde := ((queue.m_SelectionPools .TEAM_HORDE).AddGroup queue.info horde_group
    MaxPlayersPerTeam).1
  let maxPlayers := min alliance.PlayerCount horde.PlayerCount
  (queue.setPool .TEAM_ALLIANCE (SelectionPool.addNotInvited queue.info maxPlayers
    (queue.m_QueuedGroups bracket_id BG_QUEUE_NORMAL_ALLIANCE) alliance)).setPool .TEAM_HORDE
    (SelectionPool.addNotInvited queue.info maxPlayers
      (queue.m_QueuedGroups bracket_id BG_QUEUE_NORMAL_HORDE) horde)

/-- The first group of a premade list moves to the normal list of its side when its
time has expired or it is too small. -/
def premadeToNormal (bracket_id : BattlegroundBracketId) (MinPlayersPerTeam time_before : ℕ)
    (queue : BattlegroundQueue) (team : TeamId) : BattlegroundQueue :=
  match queue.m_QueuedGroups bracket_id (BG_QUEUE_PREMADE_ALLIANCE + team.index) with
  | [] => queue
  | ginfo :: rest =>
    if queue.notInvited ginfo ∧ ((queue.info ginfo).JoinTime < time_before ∨
        (queue.info ginfo).Players.card < MinPlayersPerTeam) then
      let type := BG_QUEUE_NORMAL_ALLIANCE + team.index
      ((queue.modify ginfo fun info => { info with GroupType := type }).push_front
        bracket_id type ginfo).setGroups bracket_id (BG_QUEUE_PREMADE_ALLIANCE + team.index) rest
    else queue

def CheckPremadeMatch (env : QueueEnv)
    (bracket_id : BattlegroundBracketId) (MinPlayersPerTeam MaxPlayersPerTeam : ℕ) :
    BattlegroundQueue × Bool :=
  match (queue.m_QueuedGroups bracket_id BG_QUEUE_PREMADE_ALLIANCE).find? queue.notInvited,
    (queue.m_QueuedGroups bracket_id BG_QUEUE_PREMADE_HORDE).find? queue.notInvited with
  | some ali_group, some horde_group =>
    (queue.premadePools bracket_id MaxPlayersPerTeam ali_group horde_group, true)
  | _, _ =>
    let time_before := toUint32 ((env.now : ℤ) - env.premadeGroupWait)
    ([TeamId.TEAM_ALLIANCE, TeamId.TEAM_HORDE].foldl
      (premadeToNormal bracket_id MinPlayersPerTeam time_before) queue, false)

/-! ## `CheckNormalMatch` -/

variable (env : QueueEnv)

/-- `CanStartMatch`: with the testing mode on, one player on one side is enough. -/
def CanStartMatch (bgTemplate : BattlegroundTemplate) (minPlayers : ℕ)
    (alliance horde : SelectionPool) : Bool :=
  (env.isTesting && !bgTemplate.isArena &&
      (decide (alliance.PlayerCount ≠ 0) || decide (horde.PlayerCount ≠ 0))) ||
    (decide (minPlayers ≤ alliance.PlayerCount) && decide (minPlayers ≤ horde.PlayerCount))

def evenPools (alliance horde : SelectionPool)
    (aliFrom hordeFrom : List ℕ) : Option (SelectionPool × SelectionPool) :=
  if horde.PlayerCount < alliance.PlayerCount then
    match hordeFrom with
    | [] => none
    | _ :: rest =>
      some (alliance, SelectionPool.addNotInvited queue.info alliance.PlayerCount rest horde)
  else
    match aliFrom with
    | [] => none
    | _ :: rest =>
      some (SelectionPool.addNotInvited queue.info horde.PlayerCount rest alliance, horde)

/-- The pools that `CheckNormalMatch` leaves, and what it returns. -/
def normalPools (env : QueueEnv) (bgTemplate : BattlegroundTemplate)
    (bracket_id : BattlegroundBracketId) (minPlayers maxPlayers : ℕ) :
    Option ((SelectionPool × SelectionPool) × Bool) :=
  let (alliance, aliFrom) := SelectionPool.addUntilEnough queue.info minPlayers maxPlayers
    (queue.m_QueuedGroups bracket_id BG_QUEUE_NORMAL_ALLIANCE)
    (queue.m_SelectionPools .TEAM_ALLIANCE)
  let (horde, hordeFrom) := SelectionPool.addUntilEnough queue.info minPlayers maxPlayers
    (queue.m_QueuedGroups bracket_id BG_QUEUE_NORMAL_HORDE) (queue.m_SelectionPools .TEAM_HORDE)
  if env.invitationType ≠ BG_QUEUE_INVITATION_TYPE_NO_BALANCE ∧
      minPlayers ≤ horde.PlayerCount ∧ minPlayers ≤ alliance.PlayerCount then
    match queue.evenPools alliance horde aliFrom hordeFrom with
    | none => none
    | some (alliance, horde) =>
      if 2 < (int32 ((horde.PlayerCount : ℤ) - alliance.PlayerCount)).natAbs then
        some ((alliance, horde), false)
      else some ((alliance, horde), CanStartMatch env bgTemplate minPlayers alliance horde)
  else some ((alliance, horde), CanStartMatch env bgTemplate minPlayers alliance horde)

def CheckNormalMatch (env : QueueEnv)
    (bgTemplate : BattlegroundTemplate) (bracket_id : BattlegroundBracketId)
    (minPlayers maxPlayers : ℕ) : Option (BattlegroundQueue × Bool) :=
  match queue.normalPools env bgTemplate bracket_id minPlayers maxPlayers with
  | none => none
  | some ((alliance, horde), canStart) =>
    some ((queue.setPool .TEAM_ALLIANCE alliance).setPool .TEAM_HORDE horde, canStart)

/-! ## `CheckSkirmishForSameFaction` -/

/-- The groups behind the first node that holds `ginfo`. -/
def groupsAfter (ginfo : ℕ) : List ℕ → List ℕ
  | [] => []
  | other :: rest => if other = ginfo then rest else groupsAfter ginfo rest

/-- Erases the first node that holds `moved` behind the first node that holds `ginfo`. -/
def eraseAfter (ginfo moved : ℕ) : List ℕ → List ℕ
  | [] => []
  | other :: rest =>
    if other = ginfo then other :: rest.erase moved else other :: eraseAfter ginfo moved rest

def changeTeam (bracket_id : BattlegroundBracketId) (teamIndex otherTeam : TeamId) (ginfo : ℕ)
    (queue : BattlegroundQueue) (moved : ℕ) : BattlegroundQueue :=
  let pushed := (queue.modify moved fun info =>
    { info with
      teamId := otherTeam
      GroupType := BG_QUEUE_NORMAL_ALLIANCE + otherTeam.index }).push_front bracket_id
        (BG_QUEUE_NORMAL_ALLIANCE + otherTeam.index) moved
  pushed.setGroups bracket_id (BG_QUEUE_NORMAL_ALLIANCE + teamIndex.index)
    (eraseAfter ginfo moved
      (pushed.m_QueuedGroups bracket_id (BG_QUEUE_NORMAL_ALLIANCE + teamIndex.index)))

/-- The part of `CheckSkirmishForSameFaction` behind the choice of the team. -/
def skirmish (bracket_id : BattlegroundBracketId)
    (minPlayersPerTeam : ℕ) (teamIndex otherTeam : TeamId) : Option (BattlegroundQueue × Bool) :=
  let queue := queue.setPool otherTeam .Init
  match (queue.m_SelectionPools teamIndex).SelectedGroups.getLast? with
  | none => none
  | some ginfo =>
    let groups := queue.m_QueuedGroups bracket_id (BG_QUEUE_NORMAL_ALLIANCE + teamIndex.index)
    if ginfo ∈ groups then
      let pool := SelectionPool.addNotInvited queue.info minPlayersPerTeam
        (groupsAfter ginfo groups) (queue.m_SelectionPools otherTeam)
      let queue := queue.setPool otherTeam pool
      if pool.PlayerCount ≠ minPlayersPerTeam then some (queue, false)
      else
        some (pool.SelectedGroups.foldl (changeTeam bracket_id teamIndex otherTeam ginfo) queue,
          true)
    else some (queue, false)

def CheckSkirmishForSameFaction (bracket_id : BattlegroundBracketId)
    (minPlayersPerTeam : ℕ) : Option (BattlegroundQueue × Bool) :=
  if (queue.m_SelectionPools .TEAM_ALLIANCE).PlayerCount < minPlayersPerTeam ∧
      (queue.m_SelectionPools .TEAM_HORDE).PlayerCount < minPlayersPerTeam then
    some (queue, false)
  else if (queue.m_SelectionPools .TEAM_HORDE).PlayerCount = minPlayersPerTeam then
    queue.skirmish bracket_id minPlayersPerTeam .TEAM_HORDE .TEAM_ALLIANCE
  else queue.skirmish bracket_id minPlayersPerTeam .TEAM_ALLIANCE .TEAM_HORDE

/-! ## `BattlegroundQueueUpdate` -/

def invited (instanceID : ℕ) (teamId : TeamId) (info : GroupQueueInfo) : GroupQueueInfo :=
  let info := if teamId ≠ .TEAM_NEUTRAL then { info with teamId := teamId } else info
  if info.IsInvitedToBGInstanceGUID ≠ 0 then info
  else
    { info with
      IsInvitedToBGInstanceGUID := instanceID
      RemoveInviteTime := uint32 (env.now + INVITE_ACCEPT_WAIT_TIME) }

def InviteGroupToBG (env : QueueEnv) (ginfo instanceID : ℕ)
    (teamId : TeamId) : BattlegroundQueue :=
  queue.modify ginfo (invited env instanceID teamId)

def InviteAllGroupsToBg (env : QueueEnv) (instanceID : ℕ) : BattlegroundQueue :=
  ((queue.m_SelectionPools .TEAM_ALLIANCE).SelectedGroups ++
    (queue.m_SelectionPools .TEAM_HORDE).SelectedGroups).foldl
      (fun queue citr => queue.InviteGroupToBG env citr instanceID (queue.info citr).teamId) queue

def IsAllQueuesEmpty (bracket_id : BattlegroundBracketId) : Bool :=
  (List.range BG_QUEUE_MAX).all fun type => (queue.m_QueuedGroups bracket_id type).isEmpty

structure UpdateArgs where
  bgTypeId : ℕ
  bracket_id : BattlegroundBracketId
  arenaType : ℕ
  isRated : Bool
  arenaRating : ℕ

def fillFreeSlots (args : UpdateArgs) (queue : BattlegroundQueue)
    (bg : Battleground) : Option BattlegroundQueue :=
  if !bg.isRated ∧ bg.GetBgTypeID = args.bgTypeId ∧ bg.GetBracketId = args.bracket_id ∧
      STATUS_WAIT_QUEUE < bg.GetStatus ∧ bg.GetStatus < STATUS_WAIT_LEAVE then
    match queue.initPools.FillPlayersToBG env bg args.bracket_id with
    | none => none
    | some queue => some (queue.InviteAllGroupsToBg env bg.GetInstanceID)
  else some queue

def startPremade (env : QueueEnv) (args : UpdateArgs)
    (bg_template : BattlegroundTemplate) (MinPlayersPerTeam MaxPlayersPerTeam : ℕ) :
    BattlegroundQueue × Bool :=
  if !bg_template.isArena ∧ args.bgTypeId ≠ BATTLEGROUND_RB then
    match queue.CheckPremadeMatch env args.bracket_id MinPlayersPerTeam MaxPlayersPerTeam with
    | (queue, false) => (queue, true)
    | (queue, true) =>
      match env.premadeBattleground with
      | none => (queue, false)
      | some bg => ((queue.InviteAllGroupsToBg env bg).initPools, true)
  else (queue, true)

def startNormal (env : QueueEnv) (args : UpdateArgs)
    (bg_template : BattlegroundTemplate) (MinPlayersPerTeam MaxPlayersPerTeam : ℕ) :
    Option BattlegroundQueue :=
  let start (queue : BattlegroundQueue) : BattlegroundQueue :=
    match env.normalBattleground with
    | none => queue
    | some bg => queue.InviteAllGroupsToBg env bg
  match queue.CheckNormalMatch env bg_template args.bracket_id MinPlayersPerTeam
      MaxPlayersPerTeam with
  | none => none
  | some (queue, true) => some (start queue)
  | some (queue, false) =>
    if bg_template.isArena then
      match queue.CheckSkirmishForSameFaction args.bracket_id MinPlayersPerTeam with
      | none => none
      | some (queue, true) => some (start queue)
      | some (queue, false) => some queue
    else some queue

def searchRating (args : UpdateArgs) : Option ℕ :=
  if args.arenaRating ≠ 0 then some args.arenaRating
  else
    match (queue.m_QueuedGroups args.bracket_id BG_QUEUE_PREMADE_ALLIANCE).head?,
      (queue.m_QueuedGroups args.bracket_id BG_QUEUE_PREMADE_HORDE).head? with
    | none, none => none
    | some front1, none => some (queue.info front1).ArenaMatchmakerRating
    | none, some front2 => some (queue.info front2).ArenaMatchmakerRating
    | some front1, some front2 =>
      if (queue.info front1).JoinTime < (queue.info front2).JoinTime then
        some (queue.info front1).ArenaMatchmakerRating
      else some (queue.info front2).ArenaMatchmakerRating

def matchesRating (env : QueueEnv) (arenaRating ginfo : ℕ) : Bool :=
  let arenaMinRating :=
    if arenaRating ≤ env.GetMaxRatingDifference then 0
    else arenaRating - env.GetMaxRatingDifference
  let arenaMaxRating := uint32 (arenaRating + env.GetMaxRatingDifference)
  let discardTime := int32 ((env.now : ℤ) - env.GetRatingDiscardTimer)
  let team := queue.info ginfo
  team.IsInvitedToBGInstanceGUID == 0 && ((decide (arenaMinRating ≤ team.ArenaMatchmakerRating) &&
        decide (team.ArenaMatchmakerRating ≤ arenaMaxRating)) ||
      decide (int32 team.JoinTime < discardTime))

/-- Whether a team of the same list can be the opponent of the one found first. -/
def canOppose (env : QueueEnv) (arenaRating first ginfo : ℕ) : Bool :=
  let discardOpponentsTime := int32 ((env.now : ℤ) - env.prevOpponentsDiscardTimer)
  queue.matchesRating env arenaRating ginfo &&
    (decide ((queue.info first).ArenaTeamId ≠ (queue.info ginfo).PreviousOpponentsTeamId) ||
      decide (int32 (queue.info ginfo).JoinTime < discardOpponentsTime)) &&
    decide ((queue.info first).ArenaTeamId ≠ (queue.info ginfo).ArenaTeamId)

/-- The iterator `itr3` starts at the node of the first team. -/
def opponentInList (env : QueueEnv) (args : UpdateArgs)
    (arenaRating type first : ℕ) : Option ((ℕ × ℕ) × (ℕ × ℕ)) :=
  (((queue.m_QueuedGroups args.bracket_id type).dropWhile (· ≠ first)).find?
    (queue.canOppose env arenaRating first)).map fun second => ((type, first), (type, second))

/-- `itr_teams`: the two teams that will play, each with the list its iterator runs in.
A list holds a group at most once, so the group tells the node. -/
def findTeams (env : QueueEnv) (args : UpdateArgs)
    (arenaRating : ℕ) : Option ((ℕ × ℕ) × (ℕ × ℕ)) :=
  match (queue.m_QueuedGroups args.bracket_id BG_QUEUE_PREMADE_ALLIANCE).find?
      (queue.matchesRating env arenaRating),
    (queue.m_QueuedGroups args.bracket_id BG_QUEUE_PREMADE_HORDE).find?
      (queue.matchesRating env arenaRating) with
  | none, none => none
  | some first, some second =>
    some ((BG_QUEUE_PREMADE_ALLIANCE, first), (BG_QUEUE_PREMADE_HORDE, second))
  | some first, none => queue.opponentInList env args arenaRating BG_QUEUE_PREMADE_ALLIANCE first
  | none, some first => queue.opponentInList env args arenaRating BG_QUEUE_PREMADE_HORDE first

def setOpponents (aTeam hTeam : ℕ) : BattlegroundQueue :=
  let opposed := (queue.modify aTeam fun info =>
    { info with OpponentsTeamRating := (queue.info hTeam).ArenaTeamRating }).modify hTeam
      fun info => { info with OpponentsTeamRating := (queue.info aTeam).ArenaTeamRating }
  (opposed.modify aTeam fun info =>
    { info with OpponentsMatchmakerRating := (queue.info hTeam).ArenaMatchmakerRating }).modify
      hTeam fun info =>
        { info with OpponentsMatchmakerRating := (queue.info aTeam).ArenaMatchmakerRating }

def changeSide (bracket_id : BattlegroundBracketId)
    (team : TeamId) (type erasedFrom : ℕ) (itr : ℕ × ℕ) : Option BattlegroundQueue :=
  if (queue.info itr.2).teamId ≠ team then
    if itr.1 = erasedFrom then
      let pushed := (queue.modify itr.2 fun info => { info with GroupType := type }).push_front
        bracket_id type itr.2
      some (pushed.setGroups bracket_id erasedFrom
        ((pushed.m_QueuedGroups bracket_id erasedFrom).erase itr.2))
    else none
  else some queue

def startRated (env : QueueEnv) (args : UpdateArgs) : Option BattlegroundQueue :=
  match queue.searchRating args with
  | none => some queue
  | some arenaRating =>
    match queue.findTeams env args arenaRating with
    | none => some queue
    | some (aTeam, hTeam) =>
      match env.ratedArena with
      | none => some queue
      | some arena =>
        match (queue.setOpponents aTeam.2 hTeam.2).changeSide args.bracket_id
            .TEAM_ALLIANCE BG_QUEUE_PREMADE_ALLIANCE BG_QUEUE_PREMADE_HORDE aTeam with
        | none => none
        | some queue =>
          match queue.changeSide args.bracket_id .TEAM_HORDE BG_QUEUE_PREMADE_HORDE
              BG_QUEUE_PREMADE_ALLIANCE hTeam with
          | none => none
          | some queue =>
            some ((queue.InviteGroupToBG env aTeam.2 arena .TEAM_ALLIANCE).InviteGroupToBG
              env hTeam.2 arena .TEAM_HORDE)

def playersPerTeam (bg_template : BattlegroundTemplate) (arenaType : ℕ) : ℕ × ℕ :=
  if bg_template.isArena then (if env.isArenaTesting then 1 else arenaType, arenaType)
  else (if env.isTesting then 1 else bg_template.GetMinPlayersPerTeam,
    bg_template.GetMaxPlayersPerTeam)

def startMatches (env : QueueEnv) (args : UpdateArgs)
    (bg_template : BattlegroundTemplate) : Option BattlegroundQueue :=
  let (MinPlayersPerTeam, MaxPlayersPerTeam) := playersPerTeam env bg_template args.arenaType
  match queue.initPools.startPremade env args bg_template MinPlayersPerTeam MaxPlayersPerTeam with
  | (queue, false) => some queue
  | (queue, true) =>
    if !args.isRated then
      queue.startNormal env args bg_template MinPlayersPerTeam MaxPlayersPerTeam
    else if bg_template.isArena then queue.startRated env args
    else some queue

def BattlegroundQueueUpdate (env : QueueEnv) (args : UpdateArgs) : Option BattlegroundQueue :=
  if queue.IsAllQueuesEmpty args.bracket_id then some queue
  else
    match env.bgQueues.foldlM (fillFreeSlots env args) queue with
    | none => none
    | some queue =>
      match env.bg_template with
      | none => some queue
      | some bg_template =>
        if env.bracketEntry then queue.startMatches env args bg_template else some queue

inductive Op where
  | AddGroup (ginfo now : ℕ) (args : AddGroupArgs)
  | RemovePlayer (guid : ℕ)
  | CheckPremadeMatch (env : QueueEnv) (bracket_id : BattlegroundBracketId)
      (MinPlayersPerTeam MaxPlayersPerTeam : ℕ)
  | CheckNormalMatch (env : QueueEnv) (bgTemplate : BattlegroundTemplate)
      (bracket_id : BattlegroundBracketId) (minPlayers maxPlayers : ℕ)
  | CheckSkirmishForSameFaction (bracket_id : BattlegroundBracketId) (minPlayersPerTeam : ℕ)
  | BattlegroundQueueUpdate (env : QueueEnv) (args : UpdateArgs)

def step : Op → Option BattlegroundQueue
  | .AddGroup ginfo now args =>
    if queue.groups ginfo = none ∧ args.Promised then queue.AddGroup ginfo now args else none
  | .RemovePlayer guid => (queue.RemovePlayer guid).map Prod.fst
  | .CheckPremadeMatch env bracket_id MinPlayersPerTeam MaxPlayersPerTeam =>
    some (queue.CheckPremadeMatch env bracket_id MinPlayersPerTeam MaxPlayersPerTeam).1
  | .CheckNormalMatch env bgTemplate bracket_id minPlayers maxPlayers =>
    (queue.CheckNormalMatch env bgTemplate bracket_id minPlayers maxPlayers).map Prod.fst
  | .CheckSkirmishForSameFaction bracket_id minPlayersPerTeam =>
    (queue.CheckSkirmishForSameFaction bracket_id minPlayersPerTeam).map Prod.fst
  | .BattlegroundQueueUpdate env args => queue.BattlegroundQueueUpdate env args

def ReachableQueue : BattlegroundQueue → Prop :=
  Reachable (· = empty) (computed step)

end BattlegroundQueue

end AzerothCore.Battlegrounds
