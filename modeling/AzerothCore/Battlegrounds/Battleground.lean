import AzerothCore.Collections.Multimap
import AzerothCore.Collections.StdMap
import AzerothCore.Common.Define
import Mathlib.Data.List.Induction

/-!
# `Battleground`

The class every battleground is derived from: the players, the way from the
first player to the opened doors, the end of the match, and `Update`, which
calls the virtual functions of the derived class. A derived class is given by
the record of its virtual functions, and an invariant of its matches by what
each of these functions preserves.
-/

namespace AzerothCore.Battlegrounds.Zones

/-- `TeamId` as the arrays of `PVP_TEAMS_COUNT` entries are indexed by it; where
`TEAM_NEUTRAL` is possible the type is `Option Team` and `none` stands for it. -/
inductive Team where
  | alliance
  | horde
  deriving DecidableEq, Inhabited

namespace Team

/-- `Battleground::GetOtherTeamId`. -/
def other : Team → Team
  | alliance => horde
  | horde => alliance

@[simp]
theorem other_other (team : Team) : team.other.other = team := by
  cases team <;> rfl

@[simp]
theorem other_ne (team : Team) : team.other ≠ team := by
  cases team <;> decide

@[simp]
theorem ne_other (team : Team) : team ≠ team.other := team.other_ne.symm

theorem eq_or_eq_other (team side : Team) : team = side ∨ team = side.other := by
  cases team <;> cases side <;> decide

theorem other_of_ne {team side : Team} (hne : team ≠ side) : team = side.other := by
  cases team <;> cases side <;> first | rfl | exact absurd rfl hne

end Team

inductive BattlegroundStatus where
  | none
  | waitQueue
  | waitJoin
  | inProgress
  | waitLeave
  deriving DecidableEq

def MINUTE : ℕ := 60

def IN_MILLISECONDS : ℕ := 1000

/-- `BATTLEGROUND_UPDATE_INTERVAL`, the time between two updates. -/
def UPDATE_INTERVAL : ℕ := 1000

def TIME_TO_AUTOREMOVE : ℕ := 120000

/-- Honour that is given to teams: by the `EndBattleground` of a derived class,
or for what a team does during the match. -/
inductive HonorReward where
  | matchEnd (winner : Option Team) (winKills endKills : ℕ)
  | objective (team : Team) (kills : ℕ)
  deriving DecidableEq

structure Clock where
  updateTimer : ℕ
  startTime : ℕ
  endTime : ℤ
  startDelayTime : ℤ
  startingEvent1 : Bool
  startingEvent2 : Bool
  startingEvent3 : Bool
  startingEvent4 : Bool
  prematureCountDown : Bool
  prematureCountDownTimer : ℕ

/-- `m_Players` holds the team a participant plays for; `visitors` are the players
whose `m_bgData` names the battleground because a game master command brought
them in: they are not invited, so they are not added to the participants. -/
structure Battleground where
  status : BattlegroundStatus
  winner : Option Team
  players : StdMap ℕ Team
  playersCount : Team → ℕ
  invitedPlayers : Team → ℕ
  visitors : List ℕ
  teamScores : Team → ℕ
  reviveTime : ℕ
  reviveEvents : Multimap ℕ ℕ
  clock : Clock
  setDeleteThis : Bool
  honor : List HonorReward

def Clock.created : Clock where
  updateTimer := 0
  startTime := 0
  endTime := 0
  startDelayTime := 0
  startingEvent1 := false
  startingEvent2 := false
  startingEvent3 := false
  startingEvent4 := false
  prematureCountDown := false
  prematureCountDownTimer := 0

namespace Battleground

def created : Battleground where
  status := .waitJoin
  winner := none
  players := StdMap.empty
  playersCount _ := 0
  invitedPlayers _ := 0
  visitors := []
  teamScores _ := 0
  reviveTime := 0
  reviveEvents := Multimap.empty
  clock := Clock.created
  setDeleteThis := false
  honor := []

/-- Whether `GetBattleground()` of a player on the map is this battleground. -/
def Inside (bg : Battleground) (player : ℕ) : Prop :=
  player ∈ bg.players ∨ player ∈ bg.visitors

def AddPlayer (player : ℕ) (team : Team) (bg : Battleground) : Battleground :=
  { bg with
    players := bg.players.insert player team
    playersCount := Function.update bg.playersCount team (bg.playersCount team + 1) }

def AddVisitor (player : ℕ) (bg : Battleground) : Battleground :=
  { bg with visitors := player :: bg.visitors }

/-- The first part of `RemovePlayerAtLeave`, for a participant of a team. -/
def removeParticipant (player : ℕ) (team : Team) (bg : Battleground) : Battleground :=
  { bg with
    playersCount := Function.update bg.playersCount team (bg.playersCount team - 1)
    players := bg.players.erase player }

def DecreaseInvitedCount (team : Team) (bg : Battleground) : Battleground :=
  { bg with
    invitedPlayers := Function.update bg.invitedPlayers team (bg.invitedPlayers team - 1) }

/-- `SetBattlegroundId(0, …)` of a player. -/
def forgetVisitor (player : ℕ) (bg : Battleground) : Battleground :=
  { bg with visitors := bg.visitors.filter (· ≠ player) }

def SetStatus (status : BattlegroundStatus) (bg : Battleground) : Battleground :=
  { bg with status := status }

/-- `EndBattleground(PvPTeamId)`. -/
def EndBattleground (winner : Option Team) (bg : Battleground) : Battleground :=
  if bg.status = .waitLeave then bg
  else
    { bg with
      status := .waitLeave
      winner := winner
      clock := { bg.clock with endTime := TIME_TO_AUTOREMOVE } }

def EndNow (bg : Battleground) : Battleground :=
  { bg with status := .waitLeave, clock := { bg.clock with endTime := 0 } }

/-- `RewardHonorToTeam` with the honour of some kills. -/
def reward (honor : HonorReward) (bg : Battleground) : Battleground :=
  { bg with honor := bg.honor ++ [honor] }

/-- `m_SetDeleteThis = true`. -/
def SetDeleteThis (bg : Battleground) : Battleground := { bg with setDeleteThis := true }

def addPoints (team : Team) (points : ℕ) (bg : Battleground) : Battleground :=
  { bg with teamScores := Function.update bg.teamScores team (bg.teamScores team + points) }

def setClock (f : Clock → Clock) (bg : Battleground) : Battleground :=
  { bg with clock := f bg.clock }

/-- The events that `_reviveEvents.Update(diff)` executes. -/
def dueReviveEvents (diff : ℕ) (bg : Battleground) : List (ℕ × ℕ) :=
  bg.reviveEvents.entries.filter fun event => event.1 ≤ bg.reviveTime + diff

/-- The time and the queue after `_reviveEvents.Update(diff)`; the functions of the
events do not add any. -/
def updateReviveEvents (diff : ℕ) (bg : Battleground) : Battleground :=
  { bg with
    reviveTime := bg.reviveTime + diff
    reviveEvents := bg.reviveEvents.filter fun event => ¬ event.1 ≤ bg.reviveTime + diff }

/-- `Battleground::GetPrematureWinner`. -/
def GetPrematureWinner (minPlayersPerTeam : ℕ) (bg : Battleground) : Option Team :=
  if bg.playersCount .alliance ≥ minPlayersPerTeam then some .alliance
  else if bg.playersCount .horde ≥ minPlayersPerTeam then some .horde
  else none

end Battleground

structure UpdateEnv where
  prematureFinishTime : ℕ
  isTesting : Bool
  minPlayersPerTeam : ℕ
  mapCreated : Bool

/-- A class derived from `Battleground`: its base part and its virtual functions.
`SetupBattleground` also returns whether it succeeded, `reviveEvent` is the
function the class adds to `_reviveEvents`. -/
structure BattlegroundClass (Bg : Type*) where
  base : Bg → Battleground
  modify : (Battleground → Battleground) → Bg → Bg
  base_modify : ∀ f bg, base (modify f bg) = f (base bg)
  SetupBattleground : Bg → Bg × Bool
  StartingEventOpenDoors : Bg → Bg
  EndBattleground : Option Team → Bg → Bg
  GetPrematureWinner : Bg → Option Team
  RemovePlayer : ℕ → Bg → Bg
  reviveEvent : ℕ → Bg → Bg
  PostUpdateImpl : ℕ → Bg → Bg

namespace BattlegroundClass

variable {Bg : Type*} (cls : BattlegroundClass Bg)

def status (bg : Bg) : BattlegroundStatus := (cls.base bg).status

def setClock (f : Clock → Clock) (bg : Bg) : Bg :=
  cls.modify (Battleground.setClock f) bg

def RemovePlayerAtLeave (player : ℕ) (bg : Bg) : Bg :=
  match (cls.base bg).players.find? player with
  | some team =>
    let bg := cls.modify (Battleground.removeParticipant player team) bg
    let bg := cls.RemovePlayer player bg
    let bg := cls.modify (Battleground.DecreaseInvitedCount team) bg
    cls.modify (Battleground.forgetVisitor player) bg
  | none => cls.modify (Battleground.forgetVisitor player) (cls.RemovePlayer player bg)

/-- The loop of `_ProcessLeave`: every participant leaves. -/
def removeAllPlayers (players : List ℕ) (bg : Bg) : Bg :=
  players.foldl (fun bg player => cls.RemovePlayerAtLeave player bg) bg

def ProcessLeave (diff : ℕ) (bg : Bg) : Bg :=
  let bg := cls.setClock (fun clock => { clock with endTime := clock.endTime - diff }) bg
  if (cls.base bg).clock.endTime ≤ 0 then
    let bg := cls.setClock (fun clock => { clock with endTime := TIME_TO_AUTOREMOVE }) bg
    cls.removeAllPlayers (cls.base bg).players.keys bg
  else bg

/-- The doors open: the last starting event. -/
def openDoors (bg : Bg) : Bg :=
  let bg := cls.setClock (fun clock => { clock with startingEvent4 := true }) bg
  let bg := cls.StartingEventOpenDoors bg
  let bg := cls.modify (Battleground.SetStatus .inProgress) bg
  cls.setClock (fun clock => { clock with startDelayTime := 0 }) bg

/-- The first starting event sets the battleground up. -/
def setup (env : UpdateEnv) (bg : Bg) : Bg :=
  let bg := cls.setClock (fun clock => { clock with startingEvent1 := true }) bg
  if env.mapCreated then
    match cls.SetupBattleground bg with
    | (bg, true) => cls.setClock (fun clock => { clock with startDelayTime := 120000 }) bg
    | (bg, false) => cls.modify Battleground.EndNow bg
  else cls.modify Battleground.EndNow bg

def ProcessJoin (env : UpdateEnv) (diff : ℕ) (bg : Bg) : Bg :=
  let bg := cls.setClock
    (fun clock => { clock with startDelayTime := clock.startDelayTime - diff }) bg
  let clock := (cls.base bg).clock
  if ¬ clock.startingEvent1 then cls.setup env bg
  else if clock.startDelayTime ≤ 60000 ∧ ¬ clock.startingEvent2 then
    cls.setClock (fun clock => { clock with startingEvent2 := true }) bg
  else if clock.startDelayTime ≤ 30000 ∧ ¬ clock.startingEvent3 then
    cls.setClock (fun clock => { clock with startingEvent3 := true }) bg
  else if clock.startDelayTime ≤ 0 ∧ ¬ clock.startingEvent4 then cls.openDoors bg
  else bg

def ProcessProgress (env : UpdateEnv) (diff : ℕ) (bg : Bg) : Bg :=
  let clock := (cls.base bg).clock
  if ¬ clock.prematureCountDown then
    cls.setClock (fun clock =>
      { clock with
        prematureCountDown := true
        prematureCountDownTimer := env.prematureFinishTime }) bg
  else if clock.prematureCountDownTimer < diff then
    cls.setClock (fun clock => { clock with prematureCountDown := false })
      (cls.EndBattleground (cls.GetPrematureWinner bg) bg)
  else if ¬ env.isTesting then
    cls.setClock (fun clock =>
      { clock with prematureCountDownTimer := clock.prematureCountDownTimer - diff }) bg
  else bg

/-- The part of `_ProcessResurrect` that runs `_reviveEvents`. -/
def ProcessResurrect (diff : ℕ) (bg : Bg) : Bg :=
  let due := (cls.base bg).dueReviveEvents diff
  let bg := cls.modify (Battleground.updateReviveEvents diff) bg
  due.foldl (fun bg event => cls.reviveEvent event.2 bg) bg

/-- The branch of `Update` for a match in progress. -/
def progress (env : UpdateEnv) (diff : ℕ) (bg : Bg) : Bg :=
  let bg := cls.ProcessResurrect diff bg
  let base := cls.base bg
  if env.prematureFinishTime ≠ 0 ∧ (base.playersCount .alliance < env.minPlayersPerTeam ∨
        base.playersCount .horde < env.minPlayersPerTeam) then
    cls.ProcessProgress env diff bg
  else if base.clock.prematureCountDown then
    cls.setClock (fun clock => { clock with prematureCountDown := false }) bg
  else bg

/-- The `switch` of `Update` over the status. -/
def process (env : UpdateEnv) (diff : ℕ) (bg : Bg) : Bg :=
  match cls.status bg with
  | .waitJoin => cls.ProcessJoin env diff bg
  | .inProgress => cls.progress env diff bg
  | .waitLeave => cls.ProcessLeave diff bg
  | .none | .waitQueue => bg

/-- The start time and the derived class, behind the `switch`. -/
def postUpdate (diff : ℕ) (bg : Bg) : Bg :=
  cls.PostUpdateImpl diff
    (cls.setClock (fun clock => { clock with startTime := uint32 (clock.startTime + diff) }) bg)

def emptyUpdate (bg : Bg) : Bg :=
  if (cls.base bg).invitedPlayers .horde = 0 ∧ (cls.base bg).invitedPlayers .alliance = 0 then
    cls.modify Battleground.SetDeleteThis bg
  else bg

def Update (env : UpdateEnv) (diff : ℕ) (bg : Bg) : Bg :=
  let bg := cls.setClock
    (fun clock => { clock with updateTimer := uint32 (clock.updateTimer + diff) }) bg
  if (cls.base bg).clock.updateTimer < UPDATE_INTERVAL then bg
  else
    let bg := cls.setClock
      (fun clock => { clock with updateTimer := clock.updateTimer - UPDATE_INTERVAL }) bg
    if (cls.base bg).players.size = 0 then cls.emptyUpdate bg
    else cls.postUpdate UPDATE_INTERVAL (cls.process env UPDATE_INTERVAL bg)

def RunsUpdate (diff : ℕ) (bg : Bg) : Prop :=
  UPDATE_INTERVAL ≤ uint32 ((cls.base bg).clock.updateTimer + diff) ∧ (cls.base bg).players.size ≠ 0

@[simp]
theorem base_setClock (f : Clock → Clock) (bg : Bg) :
    cls.base (cls.setClock f bg) = (cls.base bg).setClock f :=
  cls.base_modify _ _

theorem Update_of_runs (env : UpdateEnv) {diff : ℕ} {bg : Bg} (hruns : cls.RunsUpdate diff bg) :
    ∃ f g, cls.Update env diff bg = cls.postUpdate UPDATE_INTERVAL
        (cls.process env UPDATE_INTERVAL (cls.setClock g (cls.setClock f bg))) := by
  refine ⟨fun clock => { clock with updateTimer := uint32 (clock.updateTimer + diff) },
    fun clock => { clock with updateTimer := clock.updateTimer - UPDATE_INTERVAL }, ?_⟩
  obtain ⟨htimer, hplayers⟩ := hruns
  unfold Update
  generalize UPDATE_INTERVAL = interval at htimer ⊢
  dsimp only
  rw [base_setClock, base_setClock, base_setClock]
  exact (if_neg (not_lt.mpr htimer)).trans (if_neg hplayers)

theorem Update_of_not_runs (env : UpdateEnv) {diff : ℕ} {bg : Bg}
    (hidle : ¬ cls.RunsUpdate diff bg) :
    (∃ f, cls.Update env diff bg = cls.setClock f bg) ∨
      ∃ f g, cls.Update env diff bg = cls.emptyUpdate (cls.setClock g (cls.setClock f bg)) := by
  unfold RunsUpdate at hidle
  unfold Update
  generalize UPDATE_INTERVAL = interval at hidle ⊢
  dsimp only
  rw [base_setClock, base_setClock, base_setClock]
  split
  · exact .inl ⟨_, rfl⟩
  rename_i htimer
  split
  · exact .inr ⟨_, _, rfl⟩
  case isFalse hplayers => exact absurd ⟨not_lt.mp htimer, hplayers⟩ hidle

/-! ## Invariants of an update -/

/-- What the parts of an update have to preserve. The end of the match and the
events of `_reviveEvents` come only while it is in progress. -/
structure Preserves (env : UpdateEnv) (inv : Bg → Prop) : Prop where
  clock : ∀ f bg, inv bg → inv (cls.setClock f bg)
  deleted : ∀ bg, inv bg → inv (cls.modify Battleground.SetDeleteThis bg)
  setup : ∀ bg, inv bg → cls.status bg = .waitJoin → inv (cls.setup env bg)
  openDoors : ∀ bg, inv bg → cls.status bg = .waitJoin → inv (cls.openDoors bg)
  resurrect : ∀ bg, inv bg → cls.status bg = .inProgress →
    inv (cls.ProcessResurrect UPDATE_INTERVAL bg) ∧
      cls.status (cls.ProcessResurrect UPDATE_INTERVAL bg) = .inProgress
  premature : ∀ bg, inv bg → cls.status bg = .inProgress →
    inv (cls.EndBattleground (cls.GetPrematureWinner bg) bg)
  leave : ∀ player bg, inv bg → inv (cls.RemovePlayerAtLeave player bg)
  postUpdateImpl : ∀ bg, inv bg → inv (cls.PostUpdateImpl UPDATE_INTERVAL bg)

@[simp]
theorem status_setClock (f : Clock → Clock) (bg : Bg) :
    cls.status (cls.setClock f bg) = cls.status bg := by
  rw [status, base_setClock]
  rfl

namespace Preserves

variable {cls} {env : UpdateEnv} {inv : Bg → Prop} (hpreserves : cls.Preserves env inv)
  {bg : Bg}

include hpreserves

theorem processLeave (hinv : inv bg) : inv (cls.ProcessLeave UPDATE_INTERVAL bg) := by
  unfold ProcessLeave
  dsimp only
  have hfirst := hpreserves.clock
    (fun clock => { clock with endTime := clock.endTime - (UPDATE_INTERVAL : ℤ) }) bg hinv
  split
  · have hsecond := hpreserves.clock
      (fun clock => { clock with endTime := (TIME_TO_AUTOREMOVE : ℤ) }) _ hfirst
    generalize (cls.base _).players.keys = players
    generalize cls.setClock _ _ = bg at hsecond
    induction players generalizing bg with
    | nil => exact hsecond
    | cons player players ih => exact ih _ (hpreserves.leave player bg hsecond)
  · exact hfirst

theorem processJoin (hinv : inv bg) (hstatus : cls.status bg = .waitJoin) :
    inv (cls.ProcessJoin env UPDATE_INTERVAL bg) := by
  unfold ProcessJoin
  dsimp only
  have hclock := hpreserves.clock (fun clock =>
    { clock with startDelayTime := clock.startDelayTime - (UPDATE_INTERVAL : ℤ) }) bg hinv
  have hnext := (cls.status_setClock (fun clock =>
    { clock with startDelayTime := clock.startDelayTime - (UPDATE_INTERVAL : ℤ) }) bg).trans
      hstatus
  split
  · exact hpreserves.setup _ hclock hnext
  split
  · exact hpreserves.clock _ _ hclock
  split
  · exact hpreserves.clock _ _ hclock
  split
  · exact hpreserves.openDoors _ hclock hnext
  · exact hclock

theorem progress (hinv : inv bg) (hstatus : cls.status bg = .inProgress) :
    inv (cls.progress env UPDATE_INTERVAL bg) := by
  unfold BattlegroundClass.progress
  dsimp only
  obtain ⟨hnext, hstatus⟩ := hpreserves.resurrect bg hinv hstatus
  split
  · unfold ProcessProgress
    dsimp only
    split
    · exact hpreserves.clock _ _ hnext
    split
    · exact hpreserves.clock _ _ (hpreserves.premature _ hnext hstatus)
    split
    · exact hpreserves.clock _ _ hnext
    · exact hnext
  · split
    · exact hpreserves.clock _ _ hnext
    · exact hnext

theorem update (hinv : inv bg) (diff : ℕ) : inv (cls.Update env diff bg) := by
  unfold Update
  dsimp only
  have htimer := hpreserves.clock
    (fun clock => { clock with updateTimer := uint32 (clock.updateTimer + diff) }) bg hinv
  split
  · exact htimer
  have hnext := hpreserves.clock
    (fun clock => { clock with updateTimer := clock.updateTimer - UPDATE_INTERVAL }) _ htimer
  split
  · unfold emptyUpdate
    split
    · exact hpreserves.deleted _ hnext
    · exact hnext
  refine hpreserves.postUpdateImpl _ (hpreserves.clock _ _ ?_)
  unfold process
  split
  case h_1 hstatus => exact hpreserves.processJoin hnext hstatus
  case h_2 hstatus => exact hpreserves.progress hnext hstatus
  case h_3 => exact hpreserves.processLeave hnext
  case h_4 => exact hnext
  case h_5 => exact hnext

end Preserves

end BattlegroundClass

end AzerothCore.Battlegrounds.Zones

/-! ## Strand of the Ancients -/

namespace AzerothCore.Battlegrounds.Zones

inductive BG_SA_Status
  | BG_SA_WARMUP | BG_SA_ROUND_ONE | BG_SA_SECOND_WARMUP | BG_SA_ROUND_TWO
deriving DecidableEq

structure BG_SA_RoundScore where
  winner : Team
  time : ℕ

/-- `winner` is set when the match has ended. -/
structure BattlegroundSA where
  Attackers : Team
  Status : BG_SA_Status := .BG_SA_WARMUP
  GetStatus : BattlegroundStatus := .waitJoin
  TotalTime : ℕ := 0
  EndRoundTimer : ℕ := 0
  UpdateWaitTimer : ℕ := 0
  InitSecondRound : Bool := false
  SignaledRoundTwo : Bool := false
  _relicClicked : Bool := false
  RoundScores0 : BG_SA_RoundScore := ⟨.alliance, 0⟩
  RoundScores1 : BG_SA_RoundScore := ⟨.alliance, 0⟩
  winner : Option (Option Team) := none

namespace BattlegroundSA

def BG_SA_WARMUPLENGTH : ℕ := 2 * MINUTE * IN_MILLISECONDS

def BG_SA_ROUNDLENGTH : ℕ := 10 * MINUTE * IN_MILLISECONDS

def EndBattleground (bg : BattlegroundSA) (winnerTeamId : Option Team) : BattlegroundSA :=
  if bg.GetStatus = .waitLeave then bg
  else { bg with GetStatus := .waitLeave, winner := some winnerTeamId }

def byScores (bg : BattlegroundSA) : Option Team :=
  if bg.RoundScores0.time = bg.RoundScores1.time then none
  else if bg.RoundScores0.time < bg.RoundScores1.time then some bg.RoundScores0.winner
  else some bg.RoundScores1.winner

def endByScores (bg : BattlegroundSA) (score : BG_SA_RoundScore) : BattlegroundSA :=
  let bg := { bg with RoundScores1 := score }
  bg.EndBattleground bg.byScores

/-- The end of the first round, with what `ResetObjs` does to the clock and the status. -/
def endRoundOne (bg : BattlegroundSA) : BattlegroundSA :=
  { bg with
    RoundScores0 := ⟨bg.Attackers, if bg._relicClicked then bg.TotalTime else BG_SA_ROUNDLENGTH⟩
    _relicClicked := false
    Attackers := bg.Attackers.other
    Status := .BG_SA_SECOND_WARMUP
    TotalTime := 0
    UpdateWaitTimer := 5000
    SignaledRoundTwo := false
    InitSecondRound := true
    GetStatus := .waitJoin }

/-- `PostUpdateImpl` behind its first `if`. -/
def advance (bg : BattlegroundSA) (diff : ℕ) : BattlegroundSA :=
  let bg := { bg with TotalTime := bg.TotalTime + diff }
  match bg.Status with
  | .BG_SA_WARMUP =>
    let bg := { bg with EndRoundTimer := BG_SA_ROUNDLENGTH }
    if BG_SA_WARMUPLENGTH ≤ bg.TotalTime then
      { bg with TotalTime := 0, Status := .BG_SA_ROUND_ONE }
    else bg
  | .BG_SA_SECOND_WARMUP =>
    let bg := { bg with
      EndRoundTimer :=
        if bg.RoundScores0.time < BG_SA_ROUNDLENGTH then bg.RoundScores0.time
        else BG_SA_ROUNDLENGTH }
    if MINUTE * IN_MILLISECONDS ≤ bg.TotalTime then
      { bg with TotalTime := 0, Status := .BG_SA_ROUND_TWO, GetStatus := .inProgress }
    else bg
  | .BG_SA_ROUND_ONE =>
    if bg.GetStatus = .inProgress ∧ (BG_SA_ROUNDLENGTH ≤ bg.TotalTime ∨ bg._relicClicked) then
      bg.endRoundOne
    else bg
  | .BG_SA_ROUND_TWO =>
    if bg.GetStatus = .inProgress ∧ bg.EndRoundTimer ≤ bg.TotalTime then
      bg.endByScores ⟨bg.Attackers.other, BG_SA_ROUNDLENGTH⟩
    else bg

def PostUpdateImpl (bg : BattlegroundSA) (diff : ℕ) : BattlegroundSA :=
  if bg.InitSecondRound then
    if bg.UpdateWaitTimer < diff then
      if bg.SignaledRoundTwo then bg.advance diff
      else advance { bg with SignaledRoundTwo := true, InitSecondRound := false } diff
    else { bg with UpdateWaitTimer := bg.UpdateWaitTimer - diff }
  else bg.advance diff

/-- The titan relic is used by a player of the team `source`. -/
def EventPlayerUsedGO (bg : BattlegroundSA) (source : Team) (canInteract : Bool) : BattlegroundSA :=
  if canInteract ∧ source = bg.Attackers then
    match bg.Status with
    | .BG_SA_ROUND_ONE => { bg with _relicClicked := true }
    | .BG_SA_ROUND_TWO => bg.endByScores ⟨bg.Attackers, bg.TotalTime⟩
    | _ => bg
  else bg

end BattlegroundSA

open BattlegroundSA

inductive SAEvent
  | update (diff : ℕ)
  | doors
  | relic (source : Team) (canInteract : Bool)

/-- A match with the times at which the relic was taken in each round, and the time of the last
update of the first round. -/
structure SAMatch where
  bg : BattlegroundSA
  takenOne : Option ℕ := none
  noticed : ℕ := 0
  takenTwo : Option ℕ := none

namespace SAMatch

def takes (m : SAMatch) (status : BG_SA_Status) (source : Team) (canInteract : Bool) : Option ℕ :=
  if (canInteract ∧ source = m.bg.Attackers) ∧ m.bg.Status = status ∧ m.bg.winner = none then
    some m.bg.TotalTime
  else none

def step (m : SAMatch) : SAEvent → SAMatch
  | .update diff =>
    { m with
      bg := m.bg.PostUpdateImpl diff
      noticed := if m.bg.Status = .BG_SA_ROUND_ONE then m.bg.TotalTime + diff else m.noticed }
  | .doors =>
    if m.bg.GetStatus = .waitJoin then { m with bg := { m.bg with GetStatus := .inProgress } }
    else m
  | .relic source canInteract =>
    { m with
      bg := m.bg.EventPlayerUsedGO source canInteract
      takenOne := m.takenOne.or (m.takes .BG_SA_ROUND_ONE source canInteract)
      takenTwo := m.takenTwo.or (m.takes .BG_SA_ROUND_TWO source canInteract) }

/-- `first` attacks in the first round. -/
def run (first : Team) (events : List SAEvent) : SAMatch :=
  events.foldl step { bg := { Attackers := first } }

def deserved (first : Team) (m : SAMatch) : Option Team :=
  match m.takenOne, m.takenTwo with
  | none, none => none
  | some _, none => some first
  | none, some _ => some first.other
  | some one, some two =>
    if one < two then some first else if two < one then some first.other else none

/-- Taking the relic in the first round is not noticed at its very end; and when it is taken in
both rounds it is so earlier in the second one, or at once. -/
def Fair (m : SAMatch) : Prop :=
  match m.takenOne, m.takenTwo with
  | some _, none => m.noticed ≠ BG_SA_ROUNDLENGTH
  | some one, some two => two < one ∨ m.noticed = 0
  | _, _ => True

/-- What the first round leaves behind. -/
structure Halftime (first : Team) (m : SAMatch) : Prop where
  attackers : m.bg.Attackers = first.other
  winner : m.bg.RoundScores0.winner = first
  missed : m.takenOne = none → m.bg.RoundScores0.time = BG_SA_ROUNDLENGTH
  taken {one} : m.takenOne = some one → m.bg.RoundScores0.time = m.noticed ∧ one ≤ m.noticed

structure Playing (m : SAMatch) : Prop where
  winner : m.bg.winner = none
  takenTwo : m.takenTwo = none
  status : m.bg.GetStatus = .inProgress
  timer : m.bg.EndRoundTimer = min m.bg.RoundScores0.time BG_SA_ROUNDLENGTH
  time : m.bg.TotalTime = 0 ∨ m.bg.TotalTime < m.bg.EndRoundTimer

structure Ended (first : Team) (m : SAMatch) : Prop where
  status : m.bg.GetStatus = .waitLeave
  result : ∃ winner, m.bg.winner = some winner ∧ (winner = m.deserved first ↔ m.Fair)

def Stage (first : Team) (m : SAMatch) : Prop :=
  match m.bg.Status with
  | .BG_SA_WARMUP => m.bg.Attackers = first ∧ m.bg.InitSecondRound = false ∧
      m.bg._relicClicked = false ∧ m.bg.winner = none ∧ m.takenOne = none ∧ m.takenTwo = none
  | .BG_SA_ROUND_ONE => m.bg.Attackers = first ∧ m.bg.InitSecondRound = false ∧
      m.bg._relicClicked = m.takenOne.isSome ∧ m.bg.winner = none ∧
      (∀ one, m.takenOne = some one → one ≤ m.bg.TotalTime) ∧ m.takenTwo = none
  | .BG_SA_SECOND_WARMUP => Halftime first m ∧ m.bg.winner = none ∧ m.takenTwo = none
  | .BG_SA_ROUND_TWO => Halftime first m ∧ (Playing m ∨ Ended first m)

variable {first : Team} {m : SAMatch}

theorem halftime_congr {other : SAMatch} (hhalf : Halftime first m)
    (hattackers : other.bg.Attackers = m.bg.Attackers)
    (hscore : other.bg.RoundScores0 = m.bg.RoundScores0) (hone : other.takenOne = m.takenOne)
    (hnoticed : other.noticed = m.noticed) : Halftime first other :=
  ⟨hattackers ▸ hhalf.attackers, hscore ▸ hhalf.winner, hone ▸ hscore ▸ hhalf.missed,
    fun h => hscore ▸ hnoticed ▸ hhalf.taken (hone ▸ h)⟩

theorem endByScores_of_inProgress {bg : BattlegroundSA} {score : BG_SA_RoundScore}
    (hstatus : bg.GetStatus = .inProgress) : bg.endByScores score =
      { bg with
        RoundScores1 := score
        GetStatus := .waitLeave
        winner := some ({ bg with RoundScores1 := score } : BattlegroundSA).byScores } := by
  rw [endByScores, EndBattleground, if_neg (by simp [hstatus])]

theorem endByScores_of_waitLeave {bg : BattlegroundSA} {score : BG_SA_RoundScore}
    (hstatus : bg.GetStatus = .waitLeave) :
    bg.endByScores score = { bg with RoundScores1 := score } := by
  rw [endByScores, EndBattleground, if_pos hstatus]

theorem byScores_of_timer (hhalf : Halftime first m) (htwo : m.takenTwo = none) :
    ({ m.bg with RoundScores1 := ⟨first, BG_SA_ROUNDLENGTH⟩ } : BattlegroundSA).byScores =
      m.deserved first ↔ m.Fair := by
  simp only [byScores, deserved, Fair, htwo, hhalf.winner]
  cases hone : m.takenOne with
  | none => simp [hhalf.missed hone]
  | some one =>
    rw [(hhalf.taken hone).1]
    by_cases heq : m.noticed = BG_SA_ROUNDLENGTH <;> simp [heq]

theorem byScores_of_relic (hhalf : Halftime first m) (hplay : Playing m) {two : ℕ}
    (htwo : m.bg.TotalTime = two) :
    ({ m.bg with RoundScores1 := ⟨first.other, two⟩ } : BattlegroundSA).byScores =
      deserved first { m with takenTwo := some two } ↔ Fair { m with takenTwo := some two } := by
  have htime : two = 0 ∨ two < min m.bg.RoundScores0.time BG_SA_ROUNDLENGTH := by
    rw [← hplay.timer, ← htwo]
    exact hplay.time
  simp only [byScores, deserved, Fair, hhalf.winner]
  cases hone : m.takenOne with
  | none =>
    rw [hhalf.missed hone] at htime ⊢
    have hlt : two < BG_SA_ROUNDLENGTH := by
      rw [min_self] at htime
      exact htime.elim (fun hzero => hzero ▸ by decide) id
    simp [hlt.ne', hlt.not_gt]
  | some one =>
    obtain ⟨hscore, hle⟩ := hhalf.taken hone
    rw [hscore] at htime ⊢
    simp only
    by_cases hzero : m.noticed = 0
    · obtain rfl : two = 0 := by omega
      obtain rfl : one = 0 := by omega
      simp [hzero]
    · rw [if_neg (by omega), if_neg (by omega), or_iff_left hzero]
      split
      · exact iff_of_false (by simp) (by omega)
      · split
        · exact iff_of_true rfl ‹_›
        · exact iff_of_false (by simp) ‹_›

/-- The wait before the second round leaves all but its own variables alone. -/
theorem PostUpdateImpl_cases (bg : BattlegroundSA) (diff : ℕ) :
    (∃ wait, bg.PostUpdateImpl diff = { bg with UpdateWaitTimer := wait }) ∨
      ∃ signaled init, bg.PostUpdateImpl diff =
        advance { bg with SignaledRoundTwo := signaled, InitSecondRound := init } diff := by
  rw [PostUpdateImpl]
  split
  · split
    · split
      · exact .inr ⟨_, _, rfl⟩
      · exact .inr ⟨_, _, rfl⟩
    · exact .inl ⟨_, rfl⟩
  · exact .inr ⟨_, _, rfl⟩

theorem stage_update (hstage : Stage first m) (diff : ℕ) : Stage first (m.step (.update diff)) := by
  cases hstatus : m.bg.Status with
  | BG_SA_WARMUP =>
    simp only [Stage, hstatus] at hstage
    obtain ⟨hattackers, hinit, hrelic, hwinner, hone, htwo⟩ := hstage
    simp only [step, PostUpdateImpl, hinit, advance, hstatus, Bool.false_eq_true, if_false]
    split <;> simp [Stage, hattackers, hrelic, hwinner, hone, htwo]
  | BG_SA_ROUND_ONE =>
    simp only [Stage, hstatus] at hstage
    obtain ⟨hattackers, hinit, hrelic, hwinner, hone, htwo⟩ := hstage
    simp only [step, PostUpdateImpl, hinit, advance, hstatus, Bool.false_eq_true, if_false,
      if_true]
    split
    · refine ⟨⟨congrArg Team.other hattackers, hattackers, fun hnone => ?_, fun hsome => ?_⟩,
        hwinner, htwo⟩
      · simp only at hnone
        simp [endRoundOne, hrelic, hnone]
      · simp only at hsome
        simpa [endRoundOne, hrelic, hsome] using (hone _ hsome).trans (Nat.le_add_right _ diff)
    · exact ⟨hattackers, rfl, hrelic, hwinner,
        fun one hsome => (hone one hsome).trans (Nat.le_add_right _ diff), htwo⟩
  | BG_SA_SECOND_WARMUP =>
    simp only [Stage, hstatus] at hstage
    obtain ⟨hhalf, hwinner, htwo⟩ := hstage
    obtain ⟨wait, heq⟩ | ⟨signaled, init, heq⟩ := PostUpdateImpl_cases m.bg diff
    · simp only [step, Stage, heq, hstatus, reduceCtorEq, if_false]
      exact ⟨halftime_congr hhalf rfl rfl rfl rfl, hwinner, htwo⟩
    · simp only [step, heq, advance, hstatus, reduceCtorEq, if_false]
      split
      · refine ⟨halftime_congr hhalf rfl rfl rfl rfl, .inl ⟨hwinner, htwo, rfl, ?_, .inl rfl⟩⟩
        exact (min_def_lt ..).symm
      · exact ⟨halftime_congr hhalf rfl rfl rfl rfl, hwinner, htwo⟩
  | BG_SA_ROUND_TWO =>
    simp only [Stage, hstatus] at hstage
    obtain ⟨hhalf, hstage⟩ := hstage
    obtain ⟨wait, heq⟩ | ⟨signaled, init, heq⟩ := PostUpdateImpl_cases m.bg diff
    · simp only [step, Stage, heq, hstatus, reduceCtorEq, if_false]
      refine ⟨halftime_congr hhalf rfl rfl rfl rfl, hstage.imp (fun hplay => ?_) fun hend => ?_⟩
      · exact ⟨hplay.winner, hplay.takenTwo, hplay.status, hplay.timer, hplay.time⟩
      · exact ⟨hend.status, hend.result⟩
    · simp only [step, heq, advance, hstatus, reduceCtorEq, if_false]
      split
      · rename_i hend
        have hplay : Playing m := hstage.resolve_right fun hended => by
          rw [hended.status] at hend
          cases hend.1
        rw [endByScores_of_inProgress (by exact hplay.status), hhalf.attackers, Team.other_other]
        exact ⟨halftime_congr hhalf hhalf.attackers.symm rfl rfl rfl,
          .inr ⟨rfl, _, rfl, byScores_of_timer hhalf hplay.takenTwo⟩⟩
      · rename_i hgoes
        refine ⟨halftime_congr hhalf rfl rfl rfl rfl, hstage.imp (fun hplay => ?_) fun hended => ?_⟩
        · exact ⟨hplay.winner, hplay.takenTwo, hplay.status, hplay.timer,
            .inr (not_le.mp fun hle => hgoes ⟨hplay.status, hle⟩)⟩
        · exact ⟨hended.status, hended.result⟩

theorem stage_relic (hstage : Stage first m) (source : Team) (canInteract : Bool) :
    Stage first (m.step (.relic source canInteract)) := by
  by_cases huse : canInteract = true ∧ source = m.bg.Attackers
  · simp only [step, EventPlayerUsedGO, takes, huse, true_and]
    cases hstatus : m.bg.Status with
    | BG_SA_WARMUP => simpa [Stage, hstatus] using hstage
    | BG_SA_ROUND_ONE =>
      simp only [Stage, hstatus] at hstage
      obtain ⟨hattackers, hinit, hrelic, hwinner, hone, htwo⟩ := hstage
      refine ⟨hattackers, hinit, ?_, hwinner, fun one hsome => ?_, ?_⟩
      · simp [hwinner]
      · cases htaken : m.takenOne with
        | none => exact (by simpa [hwinner, htaken] using hsome : m.bg.TotalTime = one).ge
        | some other => exact hone one (by simpa [hwinner, htaken] using hsome)
      · simp [htwo]
    | BG_SA_SECOND_WARMUP => simpa [Stage, hstatus] using hstage
    | BG_SA_ROUND_TWO =>
      simp only [Stage, hstatus] at hstage
      obtain ⟨hhalf, hplay | hended⟩ := hstage
      · simp only [hplay.winner, hplay.takenTwo, reduceCtorEq, false_and, if_false, and_self,
          if_true, Option.or_none, Option.none_or]
        rw [endByScores_of_inProgress hplay.status, hhalf.attackers]
        simp only [Stage, hstatus]
        exact ⟨halftime_congr hhalf hhalf.attackers.symm rfl rfl rfl,
          .inr ⟨rfl, _, rfl, byScores_of_relic hhalf hplay rfl⟩⟩
      · obtain ⟨winner, hwinner, hresult⟩ := hended.result
        simp only [hwinner, reduceCtorEq, and_false, if_false, Option.or_none]
        rw [endByScores_of_waitLeave hended.status]
        simp only [Stage, hstatus, if_true]
        exact ⟨halftime_congr hhalf rfl rfl rfl rfl, .inr ⟨hended.status, winner, hwinner, hresult⟩⟩
  · simpa [step, EventPlayerUsedGO, takes, huse] using hstage

theorem stage_doors (hstage : Stage first m) : Stage first (m.step .doors) := by
  rw [step]
  split
  · rename_i hjoin
    cases hstatus : m.bg.Status with
    | BG_SA_WARMUP | BG_SA_ROUND_ONE => simpa [Stage, hstatus] using hstage
    | BG_SA_SECOND_WARMUP =>
      simp only [Stage, hstatus] at hstage ⊢
      exact ⟨halftime_congr hstage.1 rfl rfl rfl rfl, hstage.2⟩
    | BG_SA_ROUND_TWO =>
      simp only [Stage, hstatus] at hstage
      obtain ⟨-, hplay | hended⟩ := hstage
      · cases hjoin.symm.trans hplay.status
      · cases hjoin.symm.trans hended.status
  · exact hstage

theorem stage_run (first : Team) (events : List SAEvent) : Stage first (run first events) := by
  induction events using List.reverseRecOn with
  | nil => exact ⟨rfl, rfl, rfl, rfl, rfl, rfl⟩
  | append_singleton events event ih =>
    rw [run, List.foldl_append]
    cases event with
    | update diff => exact stage_update ih diff
    | doors => exact stage_doors ih
    | relic source canInteract => exact stage_relic ih source canInteract

/-- The winner of a match that was played to its end is the side that deserves to win, just when
the times at which the relic was taken were fair. -/
theorem winner_deserved_iff (first : Team) (events : List SAEvent) {winner : Option Team}
    (hwinner : (run first events).bg.winner = some winner) :
    winner = (run first events).deserved first ↔ (run first events).Fair := by
  have hstage := stage_run first events
  cases hstatus : (run first events).bg.Status with
  | BG_SA_WARMUP | BG_SA_ROUND_ONE | BG_SA_SECOND_WARMUP =>
    simp only [Stage, hstatus] at hstage
    simp_all
  | BG_SA_ROUND_TWO =>
    simp only [Stage, hstatus] at hstage
    obtain ⟨-, hplay | hended⟩ := hstage
    · exact absurd (hplay.winner.symm.trans hwinner) (Option.some_ne_none _).symm
    · obtain ⟨other, hother, hresult⟩ := hended.result
      rwa [Option.some_inj.mp (hwinner.symm.trans hother)]

theorem faster_side_deserved : deserved .alliance (run .alliance [.update 120000, .doors,
    .update 50, .relic .alliance true, .update 50, .update 6000, .update 60000,
    .relic .horde true]) = some .horde := by
  refine ((winner_deserved_iff .alliance _ (by decide)).mpr ?_).symm
  change 0 < 50 ∨ 100 = 0
  decide

/-- The first side takes it at once, and the second one before the time that was noticed. -/
theorem slower_side_wins : ∃ m : SAMatch, m = run .alliance [.update 120000, .doors,
    .relic .alliance true, .update 100, .update 6000, .update 60000, .update 50,
    .relic .horde true] ∧ m.bg.winner = some (some .horde) ∧
      m.deserved .alliance = some .alliance :=
  ⟨_, rfl, by decide, by decide⟩

theorem step_of_waitLeave (hround : m.bg.Status = .BG_SA_ROUND_TWO)
    (hleave : m.bg.GetStatus = .waitLeave) (event : SAEvent) :
    (m.step event).bg.Status = .BG_SA_ROUND_TWO ∧ (m.step event).bg.GetStatus = .waitLeave ∧
      (m.step event).bg.winner = m.bg.winner := by
  cases event with
  | update diff =>
    obtain ⟨wait, heq⟩ | ⟨signaled, init, heq⟩ := PostUpdateImpl_cases m.bg diff <;>
      simp [step, heq, advance, hround, hleave]
  | doors => simp [step, hround, hleave]
  | relic source canInteract =>
    simp only [step, EventPlayerUsedGO, hround]
    split <;> simp [endByScores_of_waitLeave hleave, hround, hleave]

/-- The result of a match comes in its second round and stands whatever happens afterwards. -/
theorem result_is_final (events later : List SAEvent) {winner : Option Team}
    (hwinner : (run first events).bg.winner = some winner) :
    (run first (events ++ later)).bg.Status = .BG_SA_ROUND_TWO ∧
      (run first (events ++ later)).bg.GetStatus = .waitLeave ∧
      (run first (events ++ later)).bg.winner = some winner := by
  induction later using List.reverseRecOn with
  | nil =>
    have hstage := stage_run first events
    rw [List.append_nil]
    cases hround : (run first events).bg.Status with
    | BG_SA_WARMUP | BG_SA_ROUND_ONE | BG_SA_SECOND_WARMUP =>
      simp only [Stage, hround] at hstage
      simp_all
    | BG_SA_ROUND_TWO =>
      simp only [Stage, hround] at hstage
      obtain ⟨-, hplay | hended⟩ := hstage
      · exact absurd (hplay.winner.symm.trans hwinner) (Option.some_ne_none _).symm
      · exact ⟨rfl, hended.status, hwinner⟩
  | append_singleton later event ih =>
    obtain ⟨hround, hleave, hkept⟩ := ih
    rw [← List.append_assoc, run, List.foldl_append]
    obtain ⟨hround', hleave', hkept'⟩ := step_of_waitLeave hround hleave event
    exact ⟨hround', hleave', hkept'.trans hkept⟩

theorem result_is_final_late : (run .alliance ([.update 120000, .doors, .update 600000,
    .update 6000, .update 60000, .relic .horde true] ++ [.relic .horde true])).bg.winner =
      some (some .horde) :=
  (result_is_final _ _ (by decide)).2.2

end SAMatch

end AzerothCore.Battlegrounds.Zones
