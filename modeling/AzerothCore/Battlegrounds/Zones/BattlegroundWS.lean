import AzerothCore.Battlegrounds.Battleground
import AzerothCore.Collections.Reachability
import AzerothCore.Utilities.EventMapPending

/-!
# `BattlegroundWS`

Warsong Gulch: each team has a flag on its base, which players of the other team
carry away, drop and capture. A flag that is dropped returns by an event of the
battleground, and a flag that returns may let the other carrier capture at once,
when he already waits in his own flag room.
-/

namespace AzerothCore.Battlegrounds.Zones

def BG_WS_EVENT_UPDATE_GAME_TIME : ℕ := 1

def BG_WS_EVENT_NO_TIME_LEFT : ℕ := 2

def BG_WS_EVENT_RESPAWN_BOTH_FLAGS : ℕ := 3

def BG_WS_EVENT_ALLIANCE_DROP_FLAG : ℕ := 4

def BG_WS_EVENT_HORDE_DROP_FLAG : ℕ := 5

def BG_WS_EVENT_BOTH_FLAGS_KEPT10 : ℕ := 6

def BG_WS_EVENT_BOTH_FLAGS_KEPT15 : ℕ := 7

def BG_WS_EVENT_DESPAWN_DOORS : ℕ := 8

def BG_WS_MAX_TEAM_SCORE : ℕ := 3

def BG_WS_TOTAL_GAME_TIME : ℕ := 27 * MINUTE * IN_MILLISECONDS

def BG_WS_FLAG_RESPAWN_TIME : ℕ := 23 * IN_MILLISECONDS

def BG_WS_FLAG_DROP_TIME : ℕ := 10 * IN_MILLISECONDS

def BG_WS_SPELL_FORCE_TIME : ℕ := 10 * MINUTE * IN_MILLISECONDS

def BG_WS_SPELL_BRUTAL_TIME : ℕ := 15 * MINUTE * IN_MILLISECONDS

def BG_WS_DOOR_DESPAWN_TIME : ℕ := 5 * IN_MILLISECONDS

def BG_WS_TRIGGER_ALLIANCE_FLAG_SPAWN : ℕ := 3646

def BG_WS_TRIGGER_HORDE_FLAG_SPAWN : ℕ := 3647

def BG_OBJECT_A_FLAG_GROUND_WS_ENTRY : ℕ := 179785

def BG_OBJECT_H_FLAG_GROUND_WS_ENTRY : ℕ := 179786

def dropFlagEvent : Team → ℕ
  | .alliance => BG_WS_EVENT_ALLIANCE_DROP_FLAG
  | .horde => BG_WS_EVENT_HORDE_DROP_FLAG

def flagSpawnTrigger : Team → ℕ
  | .alliance => BG_WS_TRIGGER_ALLIANCE_FLAG_SPAWN
  | .horde => BG_WS_TRIGGER_HORDE_FLAG_SPAWN

def groundFlagEntry : Team → ℕ
  | .alliance => BG_OBJECT_A_FLAG_GROUND_WS_ENTRY
  | .horde => BG_OBJECT_H_FLAG_GROUND_WS_ENTRY

inductive FlagState where
  | onBase
  | onPlayer
  | onGround
  deriving DecidableEq

/-- `flagObject` is the guid of a team's flag stand in `BgObjects`; `captures` lists
the calls of `EventPlayerCapturedFlag`: the capturer's team and the state of its
own flag at the call. -/
structure BattlegroundWS extends Battleground where
  bgEvents : EventMap
  flagKeepers : Team → Option ℕ
  droppedFlagGUID : Team → Option ℕ
  flagState : Team → FlagState
  lastFlagCaptureTeam : Option Team
  honorWinKills : ℕ
  honorEndKills : ℕ
  flagObject : Team → ℕ
  captures : List (Team × FlagState)

/-- What a call reads outside the battleground. `flagAuraInterrupted` says that
`RemoveAurasWithInterruptFlags` takes the flag's aura from the player, which drops
the flag; `droppedFlag` is the object that the spell of a dropped flag summons. -/
structure WSEnv extends UpdateEnv where
  isOnMap : ℕ → Bool
  isAlive : ℕ → Bool
  inAreaTrigger : ℕ → ℕ → Bool
  isWithinDist : Bool
  flagAuraInterrupted : Bool
  droppedFlag : ℕ
  setup : Bool
  flagObjects : Team → ℕ

structure GameObject where
  guid : ℕ
  entry : ℕ

namespace BattlegroundWS

def SetFlagPicker (picker : Option ℕ) (flag : Team) (bg : BattlegroundWS) : BattlegroundWS :=
  { bg with flagKeepers := Function.update bg.flagKeepers flag picker }

def SetDroppedFlagGUID (guid : Option ℕ) (flag : Team) (bg : BattlegroundWS) : BattlegroundWS :=
  { bg with droppedFlagGUID := Function.update bg.droppedFlagGUID flag guid }

def UpdateFlagState (flag : Team) (state : FlagState) (bg : BattlegroundWS) : BattlegroundWS :=
  { bg with flagState := Function.update bg.flagState flag state }

def setEvents (f : EventMap → EventMap) (bg : BattlegroundWS) : BattlegroundWS :=
  { bg with bgEvents := f bg.bgEvents }

def modify (f : Battleground → Battleground) (bg : BattlegroundWS) : BattlegroundWS :=
  { bg with toBattleground := f bg.toBattleground }

def scheduleEvent (eventId time : ℕ) : BattlegroundWS → BattlegroundWS :=
  setEvents fun events => events.scheduleEvent eventId time 0 0

def rescheduleEvent (eventId time : ℕ) : BattlegroundWS → BattlegroundWS :=
  setEvents fun events => events.rescheduleEvent eventId time 0 0

def cancelBothFlagsKept : BattlegroundWS → BattlegroundWS :=
  setEvents fun events =>
    (events.cancelEvent BG_WS_EVENT_BOTH_FLAGS_KEPT10).cancelEvent BG_WS_EVENT_BOTH_FLAGS_KEPT15

def rescheduleBothFlagsKept (bg : BattlegroundWS) : BattlegroundWS :=
  (bg.rescheduleEvent BG_WS_EVENT_BOTH_FLAGS_KEPT10 BG_WS_SPELL_FORCE_TIME).rescheduleEvent
    BG_WS_EVENT_BOTH_FLAGS_KEPT15 BG_WS_SPELL_BRUTAL_TIME

def EndBattleground (winner : Option Team) (bg : BattlegroundWS) : BattlegroundWS :=
  (bg.modify (Battleground.reward
    (.matchEnd winner bg.honorWinKills bg.honorEndKills))).modify
      (Battleground.EndBattleground winner)

def GetPrematureWinner (minPlayersPerTeam : ℕ) (bg : BattlegroundWS) : Option Team :=
  if bg.teamScores .alliance > bg.teamScores .horde then some .alliance
  else if bg.teamScores .horde > bg.teamScores .alliance then some .horde
  else bg.toBattleground.GetPrematureWinner minPlayersPerTeam

section

variable (teamId : ℕ → Team) (env : WSEnv)

/-- The aura that is removed from the player calls this function once more, which
returns at once: he carries no flag any longer. -/
def EventPlayerDroppedFlag (player : ℕ) (bg : BattlegroundWS) : BattlegroundWS :=
  if bg.flagKeepers .horde ≠ some player ∧ bg.flagKeepers .alliance ≠ some player then bg
  else
    let flag := (teamId player).other
    let bg := bg.SetFlagPicker none flag
    if bg.status ≠ .inProgress then bg
    else
      let bg := bg.UpdateFlagState flag .onGround
      let bg := bg.SetDroppedFlagGUID (some env.droppedFlag) flag
      bg.rescheduleEvent (dropFlagEvent flag) BG_WS_FLAG_DROP_TIME

/-- `player->RemoveAurasWithInterruptFlags(AURA_INTERRUPT_FLAG_ENTER_PVP_COMBAT)`. -/
def removeInterruptedAuras (player : ℕ) (bg : BattlegroundWS) : BattlegroundWS :=
  if env.flagAuraInterrupted then bg.EventPlayerDroppedFlag teamId env player else bg

/-- The middle of `EventPlayerCapturedFlag`: the point, the flag and the honour. -/
def scoreFlag (team : Team) (own : FlagState) (bg : BattlegroundWS) : BattlegroundWS :=
  let bg := { bg with
    captures := bg.captures ++ [(team, own)]
    lastFlagCaptureTeam := some team }
  let bg := bg.modify (Battleground.addPoints team 1)
  let bg := bg.SetFlagPicker none team.other
  let bg := bg.UpdateFlagState team.other .onBase
  bg.modify (Battleground.reward (.objective team 2))

/-- The end of `EventPlayerCapturedFlag`: the third point ends the match. -/
def endOrRespawn (bg : BattlegroundWS) : BattlegroundWS :=
  if bg.teamScores .alliance = BG_WS_MAX_TEAM_SCORE ∨
      bg.teamScores .horde = BG_WS_MAX_TEAM_SCORE then
    bg.EndBattleground
      (some (if bg.teamScores .horde = BG_WS_MAX_TEAM_SCORE then .horde else .alliance))
  else bg.scheduleEvent BG_WS_EVENT_RESPAWN_BOTH_FLAGS BG_WS_FLAG_RESPAWN_TIME

def EventPlayerCapturedFlag (player : ℕ) (bg : BattlegroundWS) : BattlegroundWS :=
  if bg.status ≠ .inProgress then bg
  else
    let team := teamId player
    let own := bg.flagState team
    let bg := bg.removeInterruptedAuras teamId env player
    (bg.scoreFlag team own).endOrRespawn.cancelBothFlagsKept

/-- A branch of `HandleAreaTrigger`: the flag room of a team. -/
def enterFlagRoom (own : Team) (player : ℕ) (bg : BattlegroundWS) : BattlegroundWS :=
  if bg.flagState own = .onBase ∧ bg.flagKeepers own.other = some player then
    bg.EventPlayerCapturedFlag teamId env player
  else bg

def HandleAreaTrigger (player trigger : ℕ) (bg : BattlegroundWS) : BattlegroundWS :=
  if bg.status ≠ .inProgress ∨ ¬ env.isAlive player then bg
  else if trigger = BG_WS_TRIGGER_ALLIANCE_FLAG_SPAWN then
    bg.enterFlagRoom teamId env .alliance player
  else if trigger = BG_WS_TRIGGER_HORDE_FLAG_SPAWN then
    bg.enterFlagRoom teamId env .horde player
  else bg

def CheckFlagKeeperInArea (flag : Team) (bg : BattlegroundWS) : BattlegroundWS :=
  if bg.status ≠ .inProgress ∨ bg.flagState flag ≠ .onPlayer then bg
  else
    match bg.flagKeepers flag with
    | some player =>
      if env.isOnMap player ∧ env.inAreaTrigger player (flagSpawnTrigger flag.other) then
        bg.HandleAreaTrigger teamId env player (flagSpawnTrigger flag.other)
      else bg
    | none => bg

def returnFlag (flag : Team) (bg : BattlegroundWS) : BattlegroundWS :=
  let bg := bg.SetDroppedFlagGUID none flag
  let bg := bg.UpdateFlagState flag .onBase
  let bg := bg.cancelBothFlagsKept
  bg.CheckFlagKeeperInArea teamId env flag.other

def RespawnFlagAfterDrop (flag : Team) (bg : BattlegroundWS) : BattlegroundWS :=
  if bg.status ≠ .inProgress ∨ bg.flagState flag ≠ .onGround then bg
  else bg.returnFlag teamId env flag

def picksUpFromBase (flag : Team) (player : ℕ) (object : GameObject) (bg : BattlegroundWS) : Prop :=
  teamId player = flag.other ∧ bg.flagState flag = .onBase ∧ bg.flagObject flag = object.guid

instance (flag : Team) (player : ℕ) (object : GameObject) (bg : BattlegroundWS) :
    Decidable (bg.picksUpFromBase teamId flag player object) :=
  inferInstanceAs (Decidable (_ ∧ _ ∧ _))

def onDroppedFlag (flag : Team) (object : GameObject) (bg : BattlegroundWS) : Prop :=
  bg.flagState flag = .onGround ∧ env.isWithinDist = true ∧ object.entry = groundFlagEntry flag

instance (flag : Team) (object : GameObject) (bg : BattlegroundWS) :
    Decidable (bg.onDroppedFlag env flag object) :=
  inferInstanceAs (Decidable (_ ∧ _ ∧ _))

def takeFlag (flag : Team) (player : ℕ) (bg : BattlegroundWS) : BattlegroundWS :=
  (bg.SetFlagPicker (some player) flag).UpdateFlagState flag .onPlayer

def pickUpFromBase (flag : Team) (player : ℕ) (bg : BattlegroundWS) : BattlegroundWS :=
  let bg := bg.takeFlag flag player
  if bg.flagState flag.other ≠ .onBase then bg.rescheduleBothFlagsKept else bg

def clickedOnGround (flag : Team) (player : ℕ) (bg : BattlegroundWS) : BattlegroundWS :=
  if teamId player = flag then bg.returnFlag teamId env flag
  else (bg.SetDroppedFlagGUID none flag).takeFlag flag player

def EventPlayerClickedOnFlag (player : ℕ) (object : GameObject) (bg : BattlegroundWS) :
    BattlegroundWS :=
  if bg.status ≠ .inProgress then bg
  else
    let bg := bg.removeInterruptedAuras teamId env player
    if bg.picksUpFromBase teamId .alliance player object then bg.pickUpFromBase .alliance player
    else if bg.picksUpFromBase teamId .horde player object then bg.pickUpFromBase .horde player
    else if bg.onDroppedFlag env .alliance object then
      bg.clickedOnGround teamId env .alliance player
    else if bg.onDroppedFlag env .horde object then bg.clickedOnGround teamId env .horde player
    else bg

def RemovePlayer (player : ℕ) (bg : BattlegroundWS) : BattlegroundWS :=
  if bg.flagKeepers .alliance = some player ∨ bg.flagKeepers .horde = some player then
    bg.EventPlayerDroppedFlag teamId env player
  else bg

/-- What `HandleKillPlayer` does to the flags; the scores of the players follow. -/
def HandleKillPlayer (player : ℕ) (bg : BattlegroundWS) : BattlegroundWS :=
  if bg.status ≠ .inProgress then bg else bg.EventPlayerDroppedFlag teamId env player

def StartingEventOpenDoors (bg : BattlegroundWS) : BattlegroundWS :=
  ((bg.scheduleEvent BG_WS_EVENT_UPDATE_GAME_TIME 0).scheduleEvent BG_WS_EVENT_NO_TIME_LEFT
    (BG_WS_TOTAL_GAME_TIME - 2 * MINUTE * IN_MILLISECONDS)).scheduleEvent
      BG_WS_EVENT_DESPAWN_DOORS BG_WS_DOOR_DESPAWN_TIME

/-- The time until the displayed game time changes, as `uint32`. -/
def nextGameTime (bg : BattlegroundWS) : ℕ :=
  toUint32 (BG_WS_TOTAL_GAME_TIME - bg.clock.startTime) % (MINUTE * IN_MILLISECONDS) + 1

def noTimeLeft (bg : BattlegroundWS) : BattlegroundWS :=
  if bg.teamScores .alliance = bg.teamScores .horde then
    bg.EndBattleground bg.lastFlagCaptureTeam
  else
    bg.EndBattleground
      (some (if bg.teamScores .horde > bg.teamScores .alliance then .horde else .alliance))

/-- The `switch` of `PostUpdateImpl`. The events without a case here spawn objects
or cast spells on the carriers. -/
def handleEvent (eventId : ℕ) (bg : BattlegroundWS) : BattlegroundWS :=
  if eventId = BG_WS_EVENT_UPDATE_GAME_TIME then
    bg.scheduleEvent BG_WS_EVENT_UPDATE_GAME_TIME bg.nextGameTime
  else if eventId = BG_WS_EVENT_NO_TIME_LEFT then bg.noTimeLeft
  else if eventId = BG_WS_EVENT_ALLIANCE_DROP_FLAG then
    bg.RespawnFlagAfterDrop teamId env .alliance
  else if eventId = BG_WS_EVENT_HORDE_DROP_FLAG then bg.RespawnFlagAfterDrop teamId env .horde
  else bg

def PostUpdateImpl (diff : ℕ) (bg : BattlegroundWS) : BattlegroundWS :=
  if bg.status = .inProgress then
    let executed := (bg.bgEvents.update diff).executeEvent
    (bg.setEvents fun _ => executed.2).handleEvent teamId env executed.1
  else bg

def warsongGulch : BattlegroundClass BattlegroundWS where
  base := toBattleground
  modify := modify
  base_modify _ _ := rfl
  SetupBattleground bg := ({ bg with flagObject := env.flagObjects }, env.setup)
  StartingEventOpenDoors := StartingEventOpenDoors
  EndBattleground := EndBattleground
  GetPrematureWinner := GetPrematureWinner env.minPlayersPerTeam
  RemovePlayer := RemovePlayer teamId env
  reviveEvent _ bg := bg
  PostUpdateImpl := PostUpdateImpl teamId env

inductive Call where
  | addPlayer (player : ℕ) (team : Team)
  | addVisitor (player : ℕ)
  | removePlayerAtLeave (player : ℕ)
  | clickedOnFlag (player : ℕ) (object : GameObject)
  | droppedFlag (player : ℕ)
  | killPlayer (player : ℕ)
  | areaTrigger (player trigger : ℕ)
  | update (diff : ℕ)

/-- The player whose `GetBattleground()` the call is made on. -/
def Call.caller? : Call → Option ℕ
  | clickedOnFlag player _ | droppedFlag player | killPlayer player | areaTrigger player _ =>
    some player
  | addPlayer .. | addVisitor _ | removePlayerAtLeave _ | update _ => none

def call (bg : BattlegroundWS) : Call → BattlegroundWS
  | .addPlayer player team => bg.modify (Battleground.AddPlayer player team)
  | .addVisitor player => bg.modify (Battleground.AddVisitor player)
  | .removePlayerAtLeave player => (warsongGulch teamId env).RemovePlayerAtLeave player bg
  | .clickedOnFlag player object => bg.EventPlayerClickedOnFlag teamId env player object
  | .droppedFlag player => bg.EventPlayerDroppedFlag teamId env player
  | .killPlayer player => bg.HandleKillPlayer teamId env player
  | .areaTrigger player trigger => bg.HandleAreaTrigger teamId env player trigger
  | .update diff => (warsongGulch teamId env).Update env.toUpdateEnv diff bg

end

def Step (teamId : ℕ → Team) (before : BattlegroundWS) (op : WSEnv × Call)
    (after : BattlegroundWS) : Prop :=
  (∀ player ∈ op.2.caller?, before.Inside player) ∧ after = before.call teamId op.1 op.2

/-- A battleground that `CreateNewBattleground` has just made. -/
structure Created (bg : BattlegroundWS) : Prop where
  status : bg.status = .waitJoin
  players : bg.players = StdMap.empty
  visitors : bg.visitors = []
  teamScores : ∀ team, bg.teamScores team = 0
  honor : bg.honor = []
  bgEvents : ∃ map : EventMap, bg.bgEvents = map.Reset
  flagKeepers : ∀ flag, bg.flagKeepers flag = none
  flagState : ∀ flag, bg.flagState flag = .onBase
  captures : bg.captures = []

def ReachableWS (teamId : ℕ → Team) : BattlegroundWS → Prop :=
  Reachability.Reachable Created (Step teamId)

end BattlegroundWS

end AzerothCore.Battlegrounds.Zones
