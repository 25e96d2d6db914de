import AzerothCore.Battlegrounds.Zones.BattlegroundWS

/-!
# The flags of Warsong Gulch

What holds of the flags, their carriers and the pending events in every state of
a match. Between the execution of a drop event and the return of its flag no
event is pending for it, so the invariant names the event that is being served.
-/

namespace AzerothCore.Battlegrounds.Zones.BattlegroundWS
open List Function

variable (flag : Team)

theorem dropFlagEvent_lt : dropFlagEvent flag < 2 ^ 16 := by
  cases flag <;> decide

theorem dropFlagEvent_pos : 0 < dropFlagEvent flag := by
  cases flag <;> decide

theorem dropFlagEvent_injective : Function.Injective dropFlagEvent := by
  intro flag flag'
  cases flag <;> cases flag' <;> decide

@[simp]
theorem kept10_ne_dropFlagEvent : BG_WS_EVENT_BOTH_FLAGS_KEPT10 ≠ dropFlagEvent flag := by
  cases flag <;> decide

@[simp]
theorem kept15_ne_dropFlagEvent : BG_WS_EVENT_BOTH_FLAGS_KEPT15 ≠ dropFlagEvent flag := by
  cases flag <;> decide

/-- An event that `PostUpdateImpl` only serves by scheduling or spawning. -/
def IsNeutral (eventId : ℕ) : Prop :=
  eventId < 2 ^ 16 ∧ (∀ flag, eventId ≠ dropFlagEvent flag) ∧
    eventId ≠ BG_WS_EVENT_BOTH_FLAGS_KEPT10 ∧ eventId ≠ BG_WS_EVENT_BOTH_FLAGS_KEPT15

theorem isNeutral_updateGameTime : IsNeutral BG_WS_EVENT_UPDATE_GAME_TIME :=
  ⟨by decide, fun flag => by cases flag <;> decide, by decide, by decide⟩

theorem isNeutral_noTimeLeft : IsNeutral BG_WS_EVENT_NO_TIME_LEFT :=
  ⟨by decide, fun flag => by cases flag <;> decide, by decide, by decide⟩

theorem isNeutral_respawnBothFlags : IsNeutral BG_WS_EVENT_RESPAWN_BOTH_FLAGS :=
  ⟨by decide, fun flag => by cases flag <;> decide, by decide, by decide⟩

theorem isNeutral_despawnDoors : IsNeutral BG_WS_EVENT_DESPAWN_DOORS :=
  ⟨by decide, fun flag => by cases flag <;> decide, by decide, by decide⟩

structure Settled (teamId : ℕ → Team) (bg : BattlegroundWS) : Prop where
  plain : bg.bgEvents.Plain
  carrier : ∀ flag player, bg.flagKeepers flag = some player →
    teamId player = flag.other ∧ bg.Inside player
  captured : ∀ capture ∈ bg.captures, capture.2 = .onBase
  points : ∀ team, bg.teamScores team = bg.captures.countP fun capture => capture.1 = team
  limit : ∀ team, bg.teamScores team ≤ BG_WS_MAX_TEAM_SCORE

structure Consistent (teamId : ℕ → Team) (due : ℕ) (bg : BattlegroundWS) : Prop
    extends Settled teamId bg where
  waiting : bg.status = .waitJoin → bg.captures = [] ∧
    ∀ flag, bg.flagKeepers flag = none ∧ bg.flagState flag = .onBase
  onPlayer : bg.status = .inProgress → ∀ flag,
    bg.flagState flag = .onPlayer ↔ bg.flagKeepers flag ≠ none
  onGround : bg.status = .inProgress → ∀ flag, bg.flagState flag = .onGround →
    dropFlagEvent flag ≠ due → 0 < bg.bgEvents.pending (dropFlagEvent flag)
  kept : (bg.status = .inProgress ∨ bg.status = .waitJoin) → ∀ flag, bg.flagState flag = .onBase →
      bg.bgEvents.pending BG_WS_EVENT_BOTH_FLAGS_KEPT10 = 0 ∧
        bg.bgEvents.pending BG_WS_EVENT_BOTH_FLAGS_KEPT15 = 0
  undecided : bg.status = .inProgress → ∀ team, bg.teamScores team < BG_WS_MAX_TEAM_SCORE

variable {teamId : ℕ → Team} {env : WSEnv} {due : ℕ} {bg : BattlegroundWS} {player : ℕ}
  {flag : Team}

theorem Created.consistent (hcreated : Created bg) : Consistent teamId 0 bg where
  plain := by
    obtain ⟨map, hmap⟩ := hcreated.bgEvents
    rw [hmap]
    exact .reset map
  carrier flag player hkeeper := nomatch (hcreated.flagKeepers flag).symm.trans hkeeper
  waiting _ := ⟨hcreated.captures, fun flag =>
    ⟨hcreated.flagKeepers flag, hcreated.flagState flag⟩⟩
  onPlayer hstatus := nomatch hcreated.status.symm.trans hstatus
  onGround hstatus := nomatch hcreated.status.symm.trans hstatus
  kept _ flag _ := by
    obtain ⟨map, hmap⟩ := hcreated.bgEvents
    rw [hmap]
    exact ⟨rfl, rfl⟩
  captured capture hcapture := by
    rw [hcreated.captures] at hcapture
    cases hcapture
  points team := by rw [hcreated.teamScores, hcreated.captures, countP_nil]
  limit team := by
    rw [hcreated.teamScores]
    exact Nat.zero_le _
  undecided hstatus := nomatch hcreated.status.symm.trans hstatus

theorem toBattleground_EndBattleground (hstatus : bg.status = .inProgress)
    (winner : Option Team) :
    (bg.EndBattleground winner).toBattleground =
      { bg.toBattleground.reward (.matchEnd winner bg.honorWinKills bg.honorEndKills) with
        status := .waitLeave
        winner := winner
        clock := { bg.clock with endTime := TIME_TO_AUTOREMOVE } } := by
  refine if_neg ?_
  change ¬ bg.status = .waitLeave
  rw [hstatus]
  decide

theorem status_EndBattleground (hstatus : bg.status = .inProgress) (winner : Option Team) :
    (bg.EndBattleground winner).status = .waitLeave := by
  rw [toBattleground_EndBattleground hstatus winner]

variable {f : Battleground → Battleground}

namespace Settled

theorem modify (hbg : Settled teamId bg)
    (hscores : (f bg.toBattleground).teamScores = bg.teamScores)
    (hinside : ∀ flag player, bg.flagKeepers flag = some player → bg.Inside player →
      (f bg.toBattleground).Inside player) : Settled teamId (bg.modify f) where
  plain := hbg.plain
  carrier flag player hkeeper := ⟨(hbg.carrier flag player hkeeper).1,
      hinside flag player hkeeper (hbg.carrier flag player hkeeper).2⟩
  captured := hbg.captured
  points team := (congrFun hscores team).trans (hbg.points team)
  limit team := (congrFun hscores team).trans_le (hbg.limit team)

theorem consistent (hbg : Settled teamId bg) (hstatus : bg.status = .waitLeave) :
    Consistent teamId due bg where
  toSettled := hbg
  waiting hwaiting := nomatch hstatus.symm.trans hwaiting
  onPlayer hprog := nomatch hstatus.symm.trans hprog
  onGround hprog := nomatch hstatus.symm.trans hprog
  kept hopen := hopen.elim (fun hprog => nomatch hstatus.symm.trans hprog)
    fun hwaiting => nomatch hstatus.symm.trans hwaiting
  undecided hprog := nomatch hstatus.symm.trans hprog

theorem endBattleground (hbg : Settled teamId bg) (hstatus : bg.status = .inProgress)
    (winner : Option Team) : Consistent teamId due (bg.EndBattleground winner) := by
  have hbase := toBattleground_EndBattleground hstatus winner
  have hsettled : Settled teamId (bg.EndBattleground winner) :=
    hbg.modify (f := fun _ => (bg.EndBattleground winner).toBattleground)
      (by rw [hbase]; rfl) fun _ _ _ hinside => by rw [hbase]; exact hinside
  exact hsettled.consistent (status_EndBattleground hstatus winner)

end Settled

namespace Consistent

theorem modify (hbg : Consistent teamId due bg)
    (hstatus : (f bg.toBattleground).status = bg.status)
    (hscores : (f bg.toBattleground).teamScores = bg.teamScores)
    (hinside : ∀ flag player, bg.flagKeepers flag = some player → bg.Inside player →
      (f bg.toBattleground).Inside player) : Consistent teamId due (bg.modify f) where
  toSettled := hbg.toSettled.modify hscores hinside
  waiting hwaiting := hbg.waiting (hstatus ▸ hwaiting)
  onPlayer hprog := hbg.onPlayer (hstatus ▸ hprog)
  onGround hprog := hbg.onGround (hstatus ▸ hprog)
  kept hopen := hbg.kept (hstatus ▸ hopen)
  undecided hprog team := by
    have hlt := hbg.undecided (hstatus ▸ hprog) team
    rw [← hscores] at hlt
    exact hlt

theorem scheduleEvent (hbg : Consistent teamId due bg) {eventId : ℕ}
    (hneutral : IsNeutral eventId) (time : ℕ) :
    Consistent teamId due (bg.scheduleEvent eventId time) := by
  obtain ⟨hid, hdrop, hkept10, hkept15⟩ := hneutral
  refine { hbg with plain := hbg.plain.scheduleEvent hid time, onGround := ?_, kept := ?_ }
  · intro hstatus flag hground hdue
    have hpending := hbg.onGround hstatus flag hground hdue
    simp only [BattlegroundWS.scheduleEvent, setEvents, EventMap.pending_scheduleEvent]
    omega
  · intro hopen flag hbase
    simp only [BattlegroundWS.scheduleEvent, setEvents, EventMap.pending_scheduleEvent,
      if_neg hkept10, if_neg hkept15, Nat.add_zero]
    exact hbg.kept hopen flag hbase

end Consistent

theorem StartingEventOpenDoors_modify (f : Battleground → Battleground) (bg : BattlegroundWS) :
    (bg.modify f).StartingEventOpenDoors = bg.StartingEventOpenDoors.modify f := by
  have hschedule : ∀ (eventId time : ℕ) (bg : BattlegroundWS),
      (bg.modify f).scheduleEvent eventId time = (bg.scheduleEvent eventId time).modify f :=
    fun _ _ _ => rfl
  unfold StartingEventOpenDoors
  rw [hschedule, hschedule, hschedule]

theorem ProcessResurrect_eq (diff : ℕ) (bg : BattlegroundWS) :
    (warsongGulch teamId env).ProcessResurrect diff bg =
      bg.modify (Battleground.updateReviveEvents diff) := by
  have hfold : ∀ (due : List (ℕ × ℕ)) (bg : BattlegroundWS),
      due.foldl (fun bg event => (warsongGulch teamId env).reviveEvent event.2 bg) bg = bg := by
    intro due bg
    induction due with
    | nil => rfl
    | cons event due ih => exact ih
  unfold BattlegroundClass.ProcessResurrect
  rw [hfold]
  rfl

theorem openDoors_eq (bg : BattlegroundWS) : (warsongGulch teamId env).openDoors bg =
      bg.StartingEventOpenDoors.modify fun base =>
        { base with
          status := .inProgress
          clock := { base.clock with startingEvent4 := true, startDelayTime := 0 } } := by
  change ((((bg.modify (Battleground.setClock _)).StartingEventOpenDoors).modify _).modify
    (Battleground.setClock _)) = _
  rw [StartingEventOpenDoors_modify]
  generalize bg.StartingEventOpenDoors = opened
  rfl

@[simp]
theorem toBattleground_EventPlayerDroppedFlag (player : ℕ) (bg : BattlegroundWS) :
    (bg.EventPlayerDroppedFlag teamId env player).toBattleground = bg.toBattleground := by
  unfold EventPlayerDroppedFlag
  dsimp only
  split
  · rfl
  · split <;> rfl

theorem EventPlayerDroppedFlag_of_forall_ne (hne : ∀ flag, bg.flagKeepers flag ≠ some player) :
    bg.EventPlayerDroppedFlag teamId env player = bg := by
  unfold EventPlayerDroppedFlag
  rw [if_pos ⟨hne .horde, hne .alliance⟩]

theorem RemovePlayer_eq (player : ℕ) (bg : BattlegroundWS) :
    bg.RemovePlayer teamId env player = bg.EventPlayerDroppedFlag teamId env player := by
  unfold RemovePlayer
  split
  · rfl
  rename_i hnone
  rw [not_or] at hnone
  rw [EventPlayerDroppedFlag, if_pos ⟨hnone.2, hnone.1⟩]

theorem EventPlayerDroppedFlag_modify (player : ℕ) (bg : BattlegroundWS)
    (hstatus : (f bg.toBattleground).status = bg.status) :
    (bg.modify f).EventPlayerDroppedFlag teamId env player =
      (bg.EventPlayerDroppedFlag teamId env player).modify f := by
  have hkeepers : (bg.modify f).flagKeepers = bg.flagKeepers := rfl
  by_cases hnone : bg.flagKeepers .horde ≠ some player ∧ bg.flagKeepers .alliance ≠ some player
  · have hnone' := hnone
    rw [← hkeepers] at hnone'
    rw [EventPlayerDroppedFlag, if_pos hnone', EventPlayerDroppedFlag, if_pos hnone]
  · have hnone' := hnone
    rw [← hkeepers] at hnone'
    rw [EventPlayerDroppedFlag, if_neg hnone', EventPlayerDroppedFlag, if_neg hnone]
    dsimp only [SetFlagPicker, BattlegroundWS.modify]
    rw [hstatus]
    split <;> rfl

namespace Consistent

section

variable (hbg : Consistent teamId due bg)
include hbg

theorem flag_eq (hkeeper : bg.flagKeepers flag = some player) : flag = (teamId player).other := by
  rw [(hbg.carrier flag player hkeeper).1, Team.other_other]

theorem keeper_ne (player : ℕ) : bg.flagKeepers (teamId player) ≠ some player :=
  fun hkeeper => Team.ne_other _ (hbg.flag_eq hkeeper)

theorem keeper_eq_none (hstatus : bg.status = .inProgress)
    (hstate : bg.flagState flag ≠ .onPlayer) : bg.flagKeepers flag = none := by
  by_contra hkeeper
  exact hstate ((hbg.onPlayer hstatus flag).mpr hkeeper)

theorem droppedFlag (player : ℕ) :
    Consistent teamId due (bg.EventPlayerDroppedFlag teamId env player) := by
  have hown := hbg.keeper_ne player
  by_cases hkeeper : bg.flagKeepers (teamId player).other = some player
  case neg =>
    rw [EventPlayerDroppedFlag_of_forall_ne]
    · exact hbg
    · intro flag
      rcases flag.eq_or_eq_other (teamId player) with rfl | rfl
      · exact hown
      · exact hkeeper
  have hcarries : ¬ (bg.flagKeepers .horde ≠ some player ∧
      bg.flagKeepers .alliance ≠ some player) := by
    rintro ⟨hhorde, halliance⟩
    cases hteam : (teamId player).other with
    | alliance => exact halliance (hteam ▸ hkeeper)
    | horde => exact hhorde (hteam ▸ hkeeper)
  have hcarrier : ∀ flag other, Function.update bg.flagKeepers (teamId player).other none flag =
      some other → teamId other = flag.other ∧ bg.Inside other := by
    intro flag other hother
    rw [update_apply] at hother
    split at hother
    · cases hother
    · exact hbg.carrier flag other hother
  unfold EventPlayerDroppedFlag
  dsimp only
  rw [if_neg hcarries]
  split
  case isTrue hstatus =>
    refine { hbg with carrier := hcarrier, waiting := ?_, onPlayer := ?_ }
    · intro hwaiting
      have hnone := ((hbg.waiting hwaiting).2 (teamId player).other).1
      exact nomatch hkeeper.symm.trans hnone
    · exact fun hprog => absurd hprog hstatus
  rename_i hstatus
  have hprog : bg.status = .inProgress := not_not.mp hstatus
  refine { hbg with
    plain := hbg.plain.rescheduleEvent (dropFlagEvent_lt _) _
    carrier := hcarrier
    waiting := ?_
    onPlayer := ?_
    onGround := ?_
    kept := ?_ }
  · exact fun hwaiting => nomatch hprog.symm.trans hwaiting
  · intro _ flag
    have hbefore := hbg.onPlayer hprog flag
    simp only [UpdateFlagState, SetFlagPicker, SetDroppedFlagGUID,
      BattlegroundWS.rescheduleEvent, setEvents, update_apply]
    split <;> simp [hbefore]
  · intro _ flag hground hdue
    simp only [UpdateFlagState, SetFlagPicker, SetDroppedFlagGUID,
      BattlegroundWS.rescheduleEvent, setEvents, update_apply] at hground ⊢
    rw [EventMap.pending_rescheduleEvent hbg.plain]
    by_cases hflag : flag = (teamId player).other
    · rw [if_pos (congrArg dropFlagEvent hflag.symm)]
      exact Nat.one_pos
    rw [if_neg fun heq => hflag (dropFlagEvent_injective heq).symm]
    rw [if_neg hflag] at hground
    exact hbg.onGround hprog flag hground hdue
  · intro _ flag hbase
    simp only [UpdateFlagState, SetFlagPicker, SetDroppedFlagGUID,
      BattlegroundWS.rescheduleEvent, setEvents, update_apply] at hbase ⊢
    rw [EventMap.pending_rescheduleEvent hbg.plain, EventMap.pending_rescheduleEvent hbg.plain,
      if_neg (kept10_ne_dropFlagEvent _).symm, if_neg (kept15_ne_dropFlagEvent _).symm]
    split at hbase
    · cases hbase
    · exact hbg.kept (.inl hprog) flag hbase

theorem droppedFlag_keeper (player : ℕ) (flag : Team) :
    (bg.EventPlayerDroppedFlag teamId env player).flagKeepers flag ≠ some player := by
  intro hkeeper
  have hflag := (hbg.droppedFlag player).flag_eq hkeeper
  subst hflag
  unfold EventPlayerDroppedFlag at hkeeper
  dsimp only at hkeeper
  split at hkeeper
  case isTrue hne =>
    cases hteam : (teamId player).other with
    | alliance => exact hne.2 (hteam ▸ hkeeper)
    | horde => exact hne.1 (hteam ▸ hkeeper)
  case isFalse =>
    split at hkeeper
    · simp [SetFlagPicker] at hkeeper
    · simp [SetFlagPicker, UpdateFlagState, SetDroppedFlagGUID,
        BattlegroundWS.rescheduleEvent, setEvents] at hkeeper

theorem interrupted (player : ℕ) :
    Consistent teamId due (bg.removeInterruptedAuras teamId env player) := by
  unfold removeInterruptedAuras
  split
  · exact hbg.droppedFlag player
  · exact hbg

end

end Consistent

@[simp]
theorem toBattleground_removeInterruptedAuras (player : ℕ) (bg : BattlegroundWS) :
    (bg.removeInterruptedAuras teamId env player).toBattleground = bg.toBattleground := by
  unfold removeInterruptedAuras
  split
  · exact toBattleground_EventPlayerDroppedFlag player bg
  · rfl

theorem status_removeInterruptedAuras (hstatus : ¬ bg.status ≠ .inProgress) (player : ℕ) :
    (bg.removeInterruptedAuras teamId env player).status = .inProgress := by
  rw [toBattleground_removeInterruptedAuras]
  exact not_not.mp hstatus

theorem plain_cancelBothFlagsKept (hplain : bg.bgEvents.Plain) :
    bg.cancelBothFlagsKept.bgEvents.Plain :=
  (hplain.cancelEvent _).cancelEvent _

theorem pending_cancelBothFlagsKept (hplain : bg.bgEvents.Plain) (eventId : ℕ) :
    bg.cancelBothFlagsKept.bgEvents.pending eventId =
      if BG_WS_EVENT_BOTH_FLAGS_KEPT15 = eventId ∨ BG_WS_EVENT_BOTH_FLAGS_KEPT10 = eventId then 0
      else bg.bgEvents.pending eventId := by
  change (((bg.bgEvents.cancelEvent _).cancelEvent _).pending eventId) = _
  rw [EventMap.pending_cancelEvent (hplain.cancelEvent _), EventMap.pending_cancelEvent hplain]
  split_ifs <;> simp_all

namespace Consistent

section

variable (hbg : Consistent teamId due bg)
include hbg

theorem takeFlag (hstatus : bg.status = .inProgress)
    (hteam : teamId player = flag.other) (hinside : bg.Inside player) :
    Consistent teamId due (bg.takeFlag flag player) := by
  refine { hbg with carrier := ?_, waiting := ?_, onPlayer := ?_, onGround := ?_, kept := ?_ }
  · intro flag' player' hkeeper
    simp only [BattlegroundWS.takeFlag, UpdateFlagState, SetFlagPicker, update_apply]
      at hkeeper
    split at hkeeper
    case isFalse => exact hbg.carrier flag' player' hkeeper
    rename_i hflag
    cases hkeeper
    exact ⟨hflag ▸ hteam, hinside⟩
  · exact fun hwaiting => nomatch hstatus.symm.trans hwaiting
  · intro _ flag'
    have hbefore := hbg.onPlayer hstatus flag'
    simp only [BattlegroundWS.takeFlag, UpdateFlagState, SetFlagPicker, update_apply]
    split <;> simp [hbefore]
  · intro _ flag' hground
    simp only [BattlegroundWS.takeFlag, UpdateFlagState, SetFlagPicker, update_apply]
      at hground
    split at hground
    · cases hground
    · exact hbg.onGround hstatus flag' hground
  · intro _ flag' hbase
    simp only [BattlegroundWS.takeFlag, UpdateFlagState, SetFlagPicker, update_apply]
      at hbase
    split at hbase
    · cases hbase
    · exact hbg.kept (.inl hstatus) flag' hbase

theorem rescheduleBothFlagsKept (haway : ∀ flag, bg.flagState flag ≠ .onBase) :
    Consistent teamId due bg.rescheduleBothFlagsKept := by
  have hfirst : (bg.bgEvents.rescheduleEvent BG_WS_EVENT_BOTH_FLAGS_KEPT10
      BG_WS_SPELL_FORCE_TIME 0 0).Plain := hbg.plain.rescheduleEvent (by decide) _
  refine { hbg with
    plain := hfirst.rescheduleEvent (by decide) _
    onGround := ?_
    kept := fun _ flag hbase => absurd hbase (haway flag) }
  intro hstatus flag hground hdue
  simp only [BattlegroundWS.rescheduleBothFlagsKept, BattlegroundWS.rescheduleEvent, setEvents]
  rw [EventMap.pending_rescheduleEvent hfirst, if_neg (kept15_ne_dropFlagEvent flag),
    EventMap.pending_rescheduleEvent hbg.plain, if_neg (kept10_ne_dropFlagEvent flag)]
  exact hbg.onGround hstatus flag hground hdue

theorem pickUpFromBase (hstatus : bg.status = .inProgress)
    (hteam : teamId player = flag.other) (hinside : bg.Inside player) :
    Consistent teamId due (bg.pickUpFromBase flag player) := by
  have htaken := hbg.takeFlag hstatus hteam hinside
  unfold BattlegroundWS.pickUpFromBase
  dsimp only
  split
  case isFalse => exact htaken
  rename_i hother
  refine htaken.rescheduleBothFlagsKept fun flag' hbase => ?_
  rcases flag'.eq_or_eq_other flag with rfl | rfl
  · simp [BattlegroundWS.takeFlag, UpdateFlagState] at hbase
  · exact hother hbase

theorem toBase (hstatus : bg.status = .inProgress)
    (hdue : due = 0 ∨ due = dropFlagEvent flag) :
    Consistent teamId 0
      ((bg.SetFlagPicker none flag).UpdateFlagState flag .onBase).cancelBothFlagsKept := by
  have hplain : ((bg.SetFlagPicker none flag).UpdateFlagState flag .onBase).bgEvents.Plain :=
    hbg.plain
  refine { hbg with
    plain := plain_cancelBothFlagsKept hplain
    carrier := ?_
    waiting := fun hwaiting => nomatch hstatus.symm.trans hwaiting
    onPlayer := ?_
    onGround := ?_
    kept := ?_ }
  · intro flag' player hkeeper
    change Function.update bg.flagKeepers flag none flag' = some player at hkeeper
    rw [update_apply] at hkeeper
    split at hkeeper
    · cases hkeeper
    · exact hbg.carrier flag' player hkeeper
  · intro _ flag'
    have hbefore := hbg.onPlayer hstatus flag'
    change Function.update bg.flagState flag .onBase flag' = .onPlayer ↔
      Function.update bg.flagKeepers flag none flag' ≠ none
    rw [update_apply, update_apply]
    split
    · exact iff_of_false (by decide) fun hne => hne rfl
    · exact hbefore
  · intro _ flag' hground _
    change Function.update bg.flagState flag .onBase flag' = .onGround at hground
    rw [update_apply] at hground
    split at hground
    · cases hground
    rename_i hne
    rw [pending_cancelBothFlagsKept hplain, if_neg (by simp)]
    refine hbg.onGround hstatus flag' hground fun heq => ?_
    rcases hdue with rfl | rfl
    · exact (dropFlagEvent_pos flag').ne' heq
    · exact hne (dropFlagEvent_injective heq)
  · intro _ _ _
    rw [pending_cancelBothFlagsKept hplain, pending_cancelBothFlagsKept hplain,
      if_pos (.inr rfl), if_pos (.inl rfl)]
    exact ⟨rfl, rfl⟩

end

end Consistent

/-! ## Capturing a flag -/

def addCapture (team : Team) (bg : BattlegroundWS) : BattlegroundWS :=
  { bg with
    captures := bg.captures ++ [(team, .onBase)]
    lastFlagCaptureTeam := some team
    toBattleground := Battleground.addPoints team 1 bg.toBattleground }

theorem teamScores_addCapture (team side : Team) (bg : BattlegroundWS) :
    (bg.addCapture team).teamScores side = bg.teamScores side + if team = side then 1 else 0 := by
  change Function.update bg.teamScores team (bg.teamScores team + 1) side = _
  rw [update_apply]
  by_cases hside : side = team
  · rw [if_pos hside, if_pos hside.symm, hside]
  · rw [if_neg hside, if_neg (Ne.symm hside), Nat.add_zero]

theorem Settled.addCapture (hbg : Settled teamId bg)
    (hopen : ∀ side, bg.teamScores side < BG_WS_MAX_TEAM_SCORE) (team : Team) :
    Settled teamId (bg.addCapture team) := by
  refine { hbg with captured := ?_, points := ?_, limit := ?_ }
  · intro capture hcapture
    rcases mem_append.mp hcapture with hold | hnew
    · exact hbg.captured capture hold
    · rw [mem_singleton.mp hnew]
  · intro side
    change _ = (bg.captures ++ [(team, FlagState.onBase)]).countP _
    rw [teamScores_addCapture, hbg.points, countP_append, countP_singleton]
    simp only [decide_eq_true_eq]
  · intro side
    have hlt := hopen side
    rw [teamScores_addCapture]
    split <;> omega

theorem Settled.dropPicker (hbg : Settled teamId bg) (flag : Team) :
    Settled teamId ((bg.SetFlagPicker none flag).UpdateFlagState flag .onBase) := by
  refine { hbg with carrier := ?_ }
  intro flag' player hkeeper
  change Function.update bg.flagKeepers flag none flag' = some player at hkeeper
  rw [update_apply] at hkeeper
  split at hkeeper
  · cases hkeeper
  · exact hbg.carrier flag' player hkeeper

namespace Consistent

section

variable (hbg : Consistent teamId 0 bg)
include hbg

theorem score (hstatus : bg.status = .inProgress) (team : Team) :
    Consistent teamId 0 (bg.scoreFlag team .onBase).endOrRespawn.cancelBothFlagsKept := by
  have hopen := hbg.undecided hstatus
  have hsettled : Settled teamId (bg.scoreFlag team .onBase) :=
    ((hbg.toSettled.dropPicker team.other).addCapture hopen team).modify rfl
      fun _ _ _ hinside => hinside
  unfold endOrRespawn
  split
  · have hended : ∀ winner, Consistent teamId 0
        ((bg.scoreFlag team .onBase).EndBattleground winner) :=
      fun winner => hsettled.endBattleground hstatus winner
    have hleave : ∀ winner,
        ((bg.scoreFlag team .onBase).EndBattleground winner).status = .waitLeave :=
      fun winner => status_EndBattleground (by exact hstatus) winner
    exact Settled.consistent
      { (hended _).toSettled with plain := plain_cancelBothFlagsKept (hended _).plain } (hleave _)
  case isFalse hfewer =>
    have hbase : Consistent teamId 0 (((bg.scheduleEvent BG_WS_EVENT_RESPAWN_BOTH_FLAGS
        BG_WS_FLAG_RESPAWN_TIME).SetFlagPicker none team.other).UpdateFlagState team.other
          .onBase).cancelBothFlagsKept :=
      (hbg.scheduleEvent isNeutral_respawnBothFlags _).toBase hstatus (.inl rfl)
    have hadded := (hbase.toSettled.addCapture hopen team).modify
      (f := Battleground.reward (.objective team 2)) rfl fun _ _ _ hinside => hinside
    refine { hbase with
      toSettled := hadded
      waiting := fun hwaiting => nomatch hstatus.symm.trans hwaiting
      undecided := ?_ }
    intro _ side
    have hle := hsettled.limit side
    have hne : (bg.scoreFlag team .onBase).teamScores side ≠ BG_WS_MAX_TEAM_SCORE := by
      cases side with
      | alliance => exact fun heq => hfewer (.inl heq)
      | horde => exact fun heq => hfewer (.inr heq)
    exact lt_of_le_of_ne hle hne

theorem capturedFlag (hown : bg.flagState (teamId player) = .onBase) :
    Consistent teamId 0 (bg.EventPlayerCapturedFlag teamId env player) := by
  unfold EventPlayerCapturedFlag
  dsimp only
  split
  · exact hbg
  rename_i hstatus
  rw [hown]
  have hnext : Consistent teamId 0 (bg.removeInterruptedAuras teamId env player) :=
    hbg.interrupted player
  exact hnext.score (status_removeInterruptedAuras hstatus player) (teamId player)

theorem enterFlagRoom (own : Team) :
    Consistent teamId 0 (bg.enterFlagRoom teamId env own player) := by
  unfold BattlegroundWS.enterFlagRoom
  split
  case isFalse => exact hbg
  rename_i hcarries
  have hteam := (hbg.carrier own.other player hcarries.2).1
  rw [Team.other_other] at hteam
  exact hbg.capturedFlag (hteam ▸ hcarries.1)

theorem areaTrigger (player trigger : ℕ) :
    Consistent teamId 0 (bg.HandleAreaTrigger teamId env player trigger) := by
  unfold HandleAreaTrigger
  split
  · exact hbg
  split
  · exact hbg.enterFlagRoom .alliance
  split
  · exact hbg.enterFlagRoom .horde
  · exact hbg

theorem checkFlagKeeper (flag : Team) :
    Consistent teamId 0 (bg.CheckFlagKeeperInArea teamId env flag) := by
  unfold CheckFlagKeeperInArea
  split
  · exact hbg
  split
  case h_2 => exact hbg
  split
  · exact hbg.areaTrigger _ _
  · exact hbg

end

section

variable (hbg : Consistent teamId due bg) (hstatus : bg.status = .inProgress) (hground : bg.flagState flag = .onGround) (hdue : due = 0 ∨ due = dropFlagEvent flag)
include hbg hstatus hground hdue

theorem returned : Consistent teamId 0
      ((bg.SetDroppedFlagGUID none flag).UpdateFlagState flag .onBase).cancelBothFlagsKept := by
  have hnone : bg.flagKeepers flag = none := by
    refine hbg.keeper_eq_none hstatus ?_
    rw [hground]
    decide
  have hpicker : bg.SetFlagPicker none flag = bg := by
    unfold SetFlagPicker
    rw [update_eq_self_iff.mpr hnone.symm]
  have hbase := hbg.toBase hstatus hdue
  rw [hpicker] at hbase
  exact { hbase with }

theorem returnFlag : Consistent teamId 0 (bg.returnFlag teamId env flag) :=
  (hbg.returned hstatus hground hdue).checkFlagKeeper flag.other

end

theorem respawnFlagAfterDrop (hbg : Consistent teamId (dropFlagEvent flag) bg) :
    Consistent teamId 0 (bg.RespawnFlagAfterDrop teamId env flag) := by
  unfold RespawnFlagAfterDrop
  split
  case isFalse hkeep =>
    rw [not_or, not_not, not_not] at hkeep
    exact hbg.returnFlag hkeep.1 hkeep.2 (.inr rfl)
  rename_i hkeep
  refine { hbg with onGround := ?_ }
  intro hstatus flag' hground _
  refine hbg.onGround hstatus flag' hground fun heq => ?_
  have hflag := dropFlagEvent_injective heq
  subst hflag
  rcases hkeep with hstopped | hother
  · exact hstopped hstatus
  · exact hother hground

theorem clickedOnGround (hbg : Consistent teamId 0 bg) (hstatus : bg.status = .inProgress)
    (hground : bg.flagState flag = .onGround) (hinside : bg.Inside player) :
    Consistent teamId 0 (bg.clickedOnGround teamId env flag player) := by
  unfold BattlegroundWS.clickedOnGround
  split
  · exact hbg.returnFlag hstatus hground (.inl rfl)
  rename_i hteam
  have hnext : Consistent teamId 0 (bg.SetDroppedFlagGUID none flag) := { hbg with }
  exact hnext.takeFlag hstatus (Team.other_of_ne hteam) hinside

theorem clickedOnFlag (hbg : Consistent teamId 0 bg) (hinside : bg.Inside player)
    (object : GameObject) :
    Consistent teamId 0 (bg.EventPlayerClickedOnFlag teamId env player object) := by
  unfold EventPlayerClickedOnFlag
  dsimp only
  split
  · exact hbg
  rename_i hstatus
  have hnext : Consistent teamId 0 (bg.removeInterruptedAuras teamId env player) :=
    hbg.interrupted player
  have hprog := @status_removeInterruptedAuras teamId env bg hstatus player
  have hclicker : (bg.removeInterruptedAuras teamId env player).Inside player := by
    rw [toBattleground_removeInterruptedAuras]
    exact hinside
  split
  case isTrue hpick => exact hnext.pickUpFromBase hprog hpick.1 hclicker
  split
  case isTrue hpick => exact hnext.pickUpFromBase hprog hpick.1 hclicker
  split
  case isTrue hdropped => exact hnext.clickedOnGround hprog hdropped.1 hclicker
  split
  case isTrue hdropped => exact hnext.clickedOnGround hprog hdropped.1 hclicker
  case isFalse => exact hnext

theorem executeEvent (hbg : Consistent teamId 0 bg) (diff : ℕ) :
    Consistent teamId (bg.bgEvents.update diff).executeEvent.1
      (bg.setEvents fun _ => (bg.bgEvents.update diff).executeEvent.2) := by
  have hplain := hbg.plain.update diff
  refine { hbg with plain := hplain.executeEvent, onGround := ?_, kept := ?_ }
  · intro hstatus flag hground hdue
    have hpending := hbg.onGround hstatus flag hground (dropFlagEvent_pos flag).ne'
    have hsplit := EventMap.pending_executeEvent hplain (dropFlagEvent_pos flag)
    rw [if_neg (Ne.symm hdue), Nat.add_zero] at hsplit
    exact hsplit ▸ hpending
  · intro hopen flag hbase
    obtain ⟨hkept10, hkept15⟩ := hbg.kept hopen flag hbase
    have hsplit10 := @EventMap.pending_executeEvent _ BG_WS_EVENT_BOTH_FLAGS_KEPT10 hplain
      (by decide)
    have hsplit15 := @EventMap.pending_executeEvent _ BG_WS_EVENT_BOTH_FLAGS_KEPT15 hplain
      (by decide)
    rw [EventMap.pending_update, hkept10] at hsplit10
    rw [EventMap.pending_update, hkept15] at hsplit15
    exact ⟨(Nat.add_eq_zero_iff.mp hsplit10.symm).1, (Nat.add_eq_zero_iff.mp hsplit15.symm).1⟩

theorem of_due_ne (hbg : Consistent teamId due bg) (hdue : ∀ flag, dropFlagEvent flag ≠ due) :
    Consistent teamId 0 bg :=
  { hbg with onGround := fun hstatus flag hground _ =>
      hbg.onGround hstatus flag hground (hdue flag) }

theorem handleEvent (hbg : Consistent teamId due bg) (hstatus : bg.status = .inProgress) :
    Consistent teamId 0 (bg.handleEvent teamId env due) := by
  unfold BattlegroundWS.handleEvent
  split
  case isTrue hdue =>
    subst hdue
    exact (hbg.of_due_ne fun flag => (isNeutral_updateGameTime.2.1 flag).symm).scheduleEvent
      isNeutral_updateGameTime _
  split
  case isTrue hdue =>
    unfold noTimeLeft
    split
    · exact hbg.toSettled.endBattleground hstatus _
    · exact hbg.toSettled.endBattleground hstatus _
  split
  case isTrue hdue =>
    subst hdue
    exact respawnFlagAfterDrop hbg
  rename_i halliance
  split
  case isTrue hdue =>
    subst hdue
    exact respawnFlagAfterDrop hbg
  case isFalse hhorde =>
    refine hbg.of_due_ne fun flag heq => ?_
    cases flag with
    | alliance => exact halliance heq.symm
    | horde => exact hhorde heq.symm

theorem postUpdateImpl (hbg : Consistent teamId 0 bg) (diff : ℕ) :
    Consistent teamId 0 (bg.PostUpdateImpl teamId env diff) := by
  unfold PostUpdateImpl
  split
  case isTrue hstatus => exact (hbg.executeEvent diff).handleEvent hstatus
  case isFalse => exact hbg

theorem removePlayerAtLeave (hbg : Consistent teamId 0 bg) (player : ℕ) :
    Consistent teamId 0 ((warsongGulch teamId env).RemovePlayerAtLeave player bg) := by
  have hdrop : Consistent teamId 0 (bg.EventPlayerDroppedFlag teamId env player) :=
    hbg.droppedFlag player
  have hkeeper : ∀ flag,
      (bg.EventPlayerDroppedFlag teamId env player).flagKeepers flag ≠ some player :=
    hbg.droppedFlag_keeper player
  have hothers : ∀ flag other,
      (bg.EventPlayerDroppedFlag teamId env player).flagKeepers flag = some other →
        other ≠ player := fun flag other hother heq => hkeeper flag (heq ▸ hother)
  unfold BattlegroundClass.RemovePlayerAtLeave
  split
  case h_1 team hteam =>
    change Consistent teamId 0 (((((bg.modify (Battleground.removeParticipant player
      team)).RemovePlayer teamId env player).modify
        (Battleground.DecreaseInvitedCount team)).modify (Battleground.forgetVisitor player)))
    rw [RemovePlayer_eq, EventPlayerDroppedFlag_modify _ _ rfl]
    refine ((hdrop.modify rfl rfl ?_).modify rfl rfl fun _ _ _ hinside => hinside).modify
      rfl rfl ?_
    · intro flag other hother hinside
      exact hinside.imp (fun hmem => StdMap.mem_erase.mpr ⟨hothers flag other hother, hmem⟩)
        fun hvisitor => hvisitor
    · intro flag other hother hinside
      refine hinside.imp (fun hmem => hmem) fun hvisitor => ?_
      exact mem_filter.mpr ⟨hvisitor, decide_eq_true (hothers flag other hother)⟩
  case h_2 hteam =>
    change Consistent teamId 0 ((bg.RemovePlayer teamId env player).modify
      (Battleground.forgetVisitor player))
    rw [RemovePlayer_eq]
    refine hdrop.modify rfl rfl fun flag other hother hinside => ?_
    refine hinside.imp (fun hmem => hmem) fun hvisitor => ?_
    exact mem_filter.mpr ⟨hvisitor, decide_eq_true (hothers flag other hother)⟩

theorem openDoors (hbg : Consistent teamId 0 bg) (hstatus : bg.status = .waitJoin) :
    Consistent teamId 0 ((warsongGulch teamId env).openDoors bg) := by
  obtain ⟨hcaptures, hflags⟩ := hbg.waiting hstatus
  have hevents : Consistent teamId 0 bg.StartingEventOpenDoors :=
    ((hbg.scheduleEvent isNeutral_updateGameTime 0).scheduleEvent isNeutral_noTimeLeft
      (BG_WS_TOTAL_GAME_TIME - 2 * MINUTE * IN_MILLISECONDS)).scheduleEvent
        isNeutral_despawnDoors BG_WS_DOOR_DESPAWN_TIME
  have hstate : bg.StartingEventOpenDoors.flagState = bg.flagState := rfl
  have hkeepers : bg.StartingEventOpenDoors.flagKeepers = bg.flagKeepers := rfl
  have hbase : bg.StartingEventOpenDoors.toBattleground = bg.toBattleground := rfl
  have hscores : ∀ team, bg.teamScores team < BG_WS_MAX_TEAM_SCORE := by
    intro team
    rw [hbg.points, hcaptures, countP_nil]
    decide
  rw [openDoors_eq]
  generalize bg.StartingEventOpenDoors = opened at hevents hstate hkeepers hbase
  rw [← hbase] at hstatus hscores
  rw [← hstate, ← hkeepers] at hflags
  refine {
    toSettled := hevents.toSettled.modify rfl fun _ _ _ hinside => hinside
    waiting := nofun
    onPlayer := ?_
    onGround := ?_
    kept := fun _ => hevents.kept (.inr hstatus)
    undecided := fun _ => hscores }
  · intro _ flag
    refine iff_of_false ?_ fun hne => hne (hflags flag).1
    change ¬ opened.flagState flag = .onPlayer
    rw [(hflags flag).2]
    decide
  · intro _ flag hground
    exact nomatch (hflags flag).2.symm.trans hground

theorem preserves (teamId : ℕ → Team) (env : WSEnv) :
    (warsongGulch teamId env).Preserves env.toUpdateEnv (Consistent teamId 0) := by
  constructor
  case clock => exact fun f bg hbg => hbg.modify rfl rfl fun _ _ _ hinside => hinside
  case deleted => exact fun bg hbg => hbg.modify rfl rfl fun _ _ _ hinside => hinside
  case setup =>
    intro bg hbg _
    unfold BattlegroundClass.setup
    have hended : ∀ bg, Consistent teamId 0 bg →
        Consistent teamId 0 ((warsongGulch teamId env).modify Battleground.EndNow bg) :=
      fun bg hbg => (hbg.toSettled.modify (f := Battleground.EndNow) rfl
        fun _ _ _ hinside => hinside).consistent rfl
    have hclock : ∀ f bg, Consistent teamId 0 bg →
        Consistent teamId 0 ((warsongGulch teamId env).setClock f bg) :=
      fun f bg hbg => hbg.modify rfl rfl fun _ _ _ hinside => hinside
    dsimp only
    split
    · split
      case h_1 bg' hsetup =>
        obtain rfl := (Prod.ext_iff.mp hsetup).1
        exact hclock _ _ { hclock _ _ hbg with }
      case h_2 bg' hsetup =>
        obtain rfl := (Prod.ext_iff.mp hsetup).1
        exact hended _ { hclock _ _ hbg with }
    · exact hended _ (hclock _ _ hbg)
  case openDoors => exact fun bg hbg hstatus => hbg.openDoors hstatus
  case resurrect =>
    intro bg hbg hstatus
    rw [ProcessResurrect_eq]
    exact ⟨hbg.modify rfl rfl fun _ _ _ hinside => hinside, hstatus⟩
  case premature => exact fun bg hbg hstatus => hbg.toSettled.endBattleground hstatus _
  case leave => exact fun player bg hbg => hbg.removePlayerAtLeave player
  case postUpdateImpl => exact fun bg hbg => hbg.postUpdateImpl _

theorem call (hbg : Consistent teamId 0 bg) (op : Call)
    (hcaller : ∀ player ∈ op.caller?, bg.Inside player) :
    Consistent teamId 0 (bg.call teamId env op) := by
  cases op with
  | addPlayer player team =>
    refine hbg.modify rfl rfl fun _ other _ hinside => ?_
    exact hinside.imp (fun hmem => StdMap.mem_insert.mpr (.inr hmem)) fun hvisitor => hvisitor
  | addVisitor player =>
    refine hbg.modify rfl rfl fun _ other _ hinside => ?_
    exact hinside.imp (fun hmem => hmem) fun hvisitor => mem_cons_of_mem _ hvisitor
  | removePlayerAtLeave player => exact hbg.removePlayerAtLeave player
  | clickedOnFlag player object => exact hbg.clickedOnFlag (hcaller player rfl) object
  | droppedFlag player => exact hbg.droppedFlag player
  | killPlayer player =>
    change Consistent teamId 0 (bg.HandleKillPlayer teamId env player)
    unfold HandleKillPlayer
    split
    · exact hbg
    · exact hbg.droppedFlag player
  | areaTrigger player trigger => exact hbg.areaTrigger player trigger
  | update diff => exact (preserves teamId env).update hbg diff

end Consistent

theorem ReachableWS.consistent (hreach : ReachableWS teamId bg) : Consistent teamId 0 bg := by
  refine hreach.invariant (Consistent teamId 0) (fun bg hcreated => hcreated.consistent) ?_
  rintro before ⟨env, op⟩ after hbefore ⟨hcaller, rfl⟩
  exact hbefore.call op hcaller

end AzerothCore.Battlegrounds.Zones.BattlegroundWS
