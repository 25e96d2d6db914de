import AzerothCore.Battlegrounds.Zones.WarsongFlags

/-!
# The events of Warsong Gulch

The events of a match are few, and the match ends by the clock, so the time of
the event map stays small and no delay reaches beyond 32 bits.
-/

namespace AzerothCore.Battlegrounds.Zones.BattlegroundWS
open List Nat Multimap

/-! ## The events of a match -/

def eventIds : List ℕ :=
  [BG_WS_EVENT_UPDATE_GAME_TIME, BG_WS_EVENT_NO_TIME_LEFT, BG_WS_EVENT_RESPAWN_BOTH_FLAGS,
    BG_WS_EVENT_ALLIANCE_DROP_FLAG, BG_WS_EVENT_HORDE_DROP_FLAG, BG_WS_EVENT_BOTH_FLAGS_KEPT10,
    BG_WS_EVENT_BOTH_FLAGS_KEPT15, BG_WS_EVENT_DESPAWN_DOORS]

theorem dropFlagEvent_mem (flag : Team) : dropFlagEvent flag ∈ eventIds := by
  cases flag <;> decide

theorem lt_of_mem_eventIds {eventId : ℕ} (hid : eventId ∈ eventIds) :
    0 < eventId ∧ eventId < 2 ^ 16 := by
  revert eventId
  decide

def NO_TIME_LEFT_TIME : ℕ := BG_WS_TOTAL_GAME_TIME - 2 * MINUTE * IN_MILLISECONDS

structure Counted (events : EventMap) (captures : ℕ) : Prop where
  plain : events.Plain
  known : ∀ entry ∈ events.eventMap.entries, entry.2 ∈ eventIds
  single : ∀ eventId ∈ eventIds, eventId ≠ BG_WS_EVENT_RESPAWN_BOTH_FLAGS →
    events.pending eventId ≤ 1
  respawns : events.pending BG_WS_EVENT_RESPAWN_BOTH_FLAGS ≤ captures

structure Agenda (events : EventMap) (captures : ℕ) : Prop extends Counted events captures where
  near : ∀ entry ∈ events.eventMap.entries, ∀ flag, entry.2 = dropFlagEvent flag →
    entry.1 ≤ events.time + BG_WS_FLAG_DROP_TIME
  ending : ∃ ahead, events.Behind BG_WS_EVENT_NO_TIME_LEFT NO_TIME_LEFT_TIME ahead ∧
    events.time + 1000 * ahead ≤ 1515000

variable {events : EventMap} {captures eventId delay : ℕ}

theorem Counted.length_le (hevents : Counted events captures) :
    events.eventMap.entries.length ≤ 7 + captures := by
  have hsum := EventMap.length_entries_le hevents.known
  have hrespawns := hevents.respawns
  have hupdate := hevents.single BG_WS_EVENT_UPDATE_GAME_TIME (by decide) (by decide)
  have hend := hevents.single BG_WS_EVENT_NO_TIME_LEFT (by decide) (by decide)
  have halliance := hevents.single BG_WS_EVENT_ALLIANCE_DROP_FLAG (by decide) (by decide)
  have hhorde := hevents.single BG_WS_EVENT_HORDE_DROP_FLAG (by decide) (by decide)
  have hkept10 := hevents.single BG_WS_EVENT_BOTH_FLAGS_KEPT10 (by decide) (by decide)
  have hkept15 := hevents.single BG_WS_EVENT_BOTH_FLAGS_KEPT15 (by decide) (by decide)
  have hdoors := hevents.single BG_WS_EVENT_DESPAWN_DOORS (by decide) (by decide)
  simp only [eventIds, map_cons, map_nil, sum_cons, sum_nil] at hsum
  omega

theorem Counted.ending (hevents : Counted events captures) (hfew : captures ≤ 6) {ahead : ℕ}
    (hbehind : events.Behind BG_WS_EVENT_NO_TIME_LEFT NO_TIME_LEFT_TIME ahead)
    (hearly : events.time < NO_TIME_LEFT_TIME) :
    ∃ ahead, events.Behind BG_WS_EVENT_NO_TIME_LEFT NO_TIME_LEFT_TIME ahead ∧
      events.time + 1000 * ahead ≤ 1515000 := by
  obtain ⟨front, back, hsplit, -⟩ := hbehind
  have hlen := hevents.length_le
  rw [hsplit, length_append, length_cons] at hlen
  refine ⟨front.length, ⟨front, back, hsplit, le_rfl⟩, ?_⟩
  have hbound : NO_TIME_LEFT_TIME = 1500000 := by decide
  omega

namespace Counted

section

variable (hevents : Counted events captures)
include hevents

theorem cancelEvent (eventId : ℕ) : Counted (events.cancelEvent eventId) captures where
  plain := hevents.plain.cancelEvent eventId
  known entry hentry := hevents.known entry (mem_of_mem_filter hentry)
  single other hother hne := by
    rw [EventMap.pending_cancelEvent hevents.plain]
    split
    · exact Nat.zero_le _
    · exact hevents.single other hother hne
  respawns := by
    rw [EventMap.pending_cancelEvent hevents.plain]
    split
    · exact Nat.zero_le _
    · exact hevents.respawns

theorem scheduleEvent (hid : eventId ∈ eventIds)
    (hne : eventId ≠ BG_WS_EVENT_RESPAWN_BOTH_FLAGS) (hnone : events.pending eventId = 0)
    (delay : ℕ) : Counted (events.scheduleEvent eventId delay 0 0) captures where
  plain := hevents.plain.scheduleEvent (lt_of_mem_eventIds hid).2 delay
  known entry hentry := by
    simp only [EventMap.scheduleEvent, entries_insert, EventMap.packData_zero,
      mem_insertList] at hentry
    rcases hentry with rfl | hold
    · exact hid
    · exact hevents.known entry hold
  single other hother hrespawn := by
    rw [EventMap.pending_scheduleEvent]
    split
    case isFalse => exact hevents.single other hother hrespawn
    rename_i heq
    subst heq
    omega
  respawns := by
    rw [EventMap.pending_scheduleEvent, if_neg hne]
    exact hevents.respawns

theorem scheduleRespawn (delay : ℕ) :
    Counted (events.scheduleEvent BG_WS_EVENT_RESPAWN_BOTH_FLAGS delay 0 0) (captures + 1) where
  plain := hevents.plain.scheduleEvent (by decide) delay
  known entry hentry := by
    simp only [EventMap.scheduleEvent, entries_insert, EventMap.packData_zero,
      mem_insertList] at hentry
    rcases hentry with rfl | hold
    · exact (by decide : BG_WS_EVENT_RESPAWN_BOTH_FLAGS ∈ eventIds)
    · exact hevents.known entry hold
  single other hother hne := by
    rw [EventMap.pending_scheduleEvent, if_neg hne.symm]
    exact hevents.single other hother hne
  respawns := by
    rw [EventMap.pending_scheduleEvent, if_pos rfl]
    exact succ_le_succ hevents.respawns

theorem executeEvent (diff : ℕ) : Counted (events.update diff).executeEvent.2 captures := by
  have hplain := hevents.plain.update diff
  have hle : ∀ eventId ∈ eventIds, (events.update diff).executeEvent.2.pending eventId ≤
      events.pending eventId := by
    intro eventId hid
    have hsplit := EventMap.pending_executeEvent hplain (lt_of_mem_eventIds hid).1
    rw [EventMap.pending_update] at hsplit
    omega
  refine ⟨hplain.executeEvent, ?_, ?_, ?_⟩
  · intro entry hentry
    rcases EventMap.executeEvent_cases hplain with
      ⟨heq, -⟩ | ⟨first, rest, hentries, -, -, hrest, -⟩
    · rw [heq] at hentry
      exact hevents.known entry hentry
    rw [hrest] at hentry
    refine hevents.known entry ?_
    change entry ∈ (events.update diff).eventMap.entries
    rw [hentries]
    exact mem_cons_of_mem _ hentry
  · exact fun eventId hid hne => (hle eventId hid).trans (hevents.single eventId hid hne)
  · exact (hle _ (by decide)).trans hevents.respawns

end

end Counted

namespace Agenda

theorem time_le (hevents : Agenda events captures) : events.time ≤ 1515000 := by
  obtain ⟨ahead, -, hle⟩ := hevents.ending
  omega

theorem uint32_time_add (hevents : Agenda events captures) (hdelay : delay ≤ 900000) :
    uint32 (events.time + delay) = events.time + delay := by
  have hle := hevents.time_le
  exact uint32_of_lt (by omega)

theorem cancelEvent (hevents : Agenda events captures)
    (hne : eventId ≠ BG_WS_EVENT_NO_TIME_LEFT) : Agenda (events.cancelEvent eventId) captures where
  toCounted := hevents.toCounted.cancelEvent eventId
  near entry hentry := hevents.near entry (mem_of_mem_filter hentry)
  ending := by
    obtain ⟨ahead, hbehind, hle⟩ := hevents.ending
    exact ⟨ahead, hbehind.cancelEvent hevents.plain hne, hle⟩

theorem of_scheduled {more : ℕ} (hevents : Agenda events captures) (hfew : more ≤ 6)
    (hcounted : Counted (events.scheduleEvent eventId delay 0 0) more)
    (hdelay : delay ≤ 900000)
    (hdrop : ∀ flag, eventId = dropFlagEvent flag → delay ≤ BG_WS_FLAG_DROP_TIME) :
    Agenda (events.scheduleEvent eventId delay 0 0) more where
  toCounted := hcounted
  near := by
    intro entry hentry flag hflag
    simp only [EventMap.scheduleEvent, entries_insert, EventMap.packData_zero,
      mem_insertList] at hentry
    rcases hentry with rfl | hold
    · rw [hevents.uint32_time_add hdelay]
      exact Nat.add_le_add_left (hdrop flag hflag) _
    · exact hevents.near entry hold flag hflag
  ending := by
    obtain ⟨ahead, hbehind, hle⟩ := hevents.ending
    by_cases hlate : NO_TIME_LEFT_TIME ≤ uint32 (events.time + delay)
    · exact ⟨ahead, hbehind.scheduleEvent_of_le hlate, hle⟩
    rw [hevents.uint32_time_add hdelay] at hlate
    exact hcounted.ending hfew (hbehind.scheduleEvent eventId delay)
      (lt_of_le_of_lt (Nat.le_add_right _ _) (not_le.mp hlate))

theorem rescheduleEvent (hevents : Agenda events captures) (hfew : captures ≤ 6)
    (hid : eventId ∈ eventIds) (hrespawn : eventId ≠ BG_WS_EVENT_RESPAWN_BOTH_FLAGS)
    (hend : eventId ≠ BG_WS_EVENT_NO_TIME_LEFT) (hdelay : delay ≤ 900000)
    (hdrop : ∀ flag, eventId = dropFlagEvent flag → delay ≤ BG_WS_FLAG_DROP_TIME) :
    Agenda (events.rescheduleEvent eventId delay 0 0) captures := by
  have hcancelled := hevents.cancelEvent hend
  refine hcancelled.of_scheduled hfew ?_ hdelay hdrop
  refine hcancelled.toCounted.scheduleEvent hid hrespawn ?_ delay
  rw [EventMap.pending_cancelEvent hevents.plain, if_pos rfl]

theorem executeEvent (hevents : Agenda events captures) (hfew : captures ≤ 6)
    (hopen : (events.update UPDATE_INTERVAL).executeEvent.1 ≠ BG_WS_EVENT_NO_TIME_LEFT) :
    Agenda (events.update UPDATE_INTERVAL).executeEvent.2 captures := by
  have hplain := hevents.plain.update UPDATE_INTERVAL
  have hcounted := hevents.toCounted.executeEvent UPDATE_INTERVAL
  have hupdated : (events.update UPDATE_INTERVAL).time = events.time + 1000 :=
    hevents.uint32_time_add (by decide)
  have htime : (events.update UPDATE_INTERVAL).executeEvent.2.time = events.time + 1000 := by
    rcases EventMap.executeEvent_cases hplain with ⟨heq, -⟩ | ⟨_, _, -, -, -, -, htime, -⟩
    · rw [heq]
      exact hupdated
    · exact htime.trans hupdated
  refine { hcounted with near := ?_, ending := ?_ }
  · intro entry hentry flag hflag
    have hold : entry ∈ events.eventMap.entries := by
      rcases EventMap.executeEvent_cases hplain with
        ⟨heq, -⟩ | ⟨first, rest, hentries, -, -, hrest, -⟩
      · rw [heq] at hentry
        exact hentry
      rw [hrest] at hentry
      change entry ∈ (events.update UPDATE_INTERVAL).eventMap.entries
      rw [hentries]
      exact mem_cons_of_mem _ hentry
    have hle := hevents.near entry hold flag hflag
    omega
  · obtain ⟨ahead, hbehind, hle⟩ := hevents.ending
    rcases (hbehind.update UPDATE_INTERVAL).executeEvent hplain with
      ⟨heq, hlater⟩ | hserved | ⟨fewer, hahead, hnext⟩
    · rw [hupdated] at hlater
      have hsame : (events.update UPDATE_INTERVAL).executeEvent.2.Behind
          BG_WS_EVENT_NO_TIME_LEFT NO_TIME_LEFT_TIME ahead := by
        rw [heq]
        exact hbehind.update UPDATE_INTERVAL
      exact hcounted.ending hfew hsame (htime.trans_lt hlater)
    · exact absurd hserved hopen
    · exact ⟨fewer, hnext, by omega⟩

end Agenda

/-! ## The events of a battleground -/

structure Running (bg : BattlegroundWS) : Prop where
  waiting : bg.status = .waitJoin → bg.bgEvents.eventMap.entries = [] ∧ bg.bgEvents.time = 0
  agenda : bg.status = .inProgress → Agenda bg.bgEvents bg.captures.length

variable {teamId : ℕ → Team} {env : WSEnv} {due : ℕ} {bg : BattlegroundWS} {player : ℕ}
  {flag : Team}

theorem Consistent.captures_le (hbg : Consistent teamId due bg)
    (hstatus : bg.status = .inProgress) : bg.captures.length ≤ 4 := by
  have halliance := hbg.undecided hstatus .alliance
  have hhorde := hbg.undecided hstatus .horde
  rw [hbg.points] at halliance hhorde
  have hsplit := length_eq_countP_add_countP
    (fun capture : Team × FlagState => decide (capture.1 = .alliance)) (l := bg.captures)
  have hothers : bg.captures.countP (fun capture => ¬ decide (capture.1 = .alliance) = true) =
      bg.captures.countP fun capture => decide (capture.1 = .horde) := by
    refine countP_congr fun capture _ => ?_
    cases capture.1 <;> simp
  unfold BG_WS_MAX_TEAM_SCORE at halliance hhorde
  omega

theorem Created.running (hcreated : Created bg) : Running bg where
  waiting _ := by
    obtain ⟨map, hmap⟩ := hcreated.bgEvents
    rw [hmap]
    exact ⟨rfl, rfl⟩
  agenda hstatus := nomatch hcreated.status.symm.trans hstatus

namespace Running

theorem of_waitLeave (hstatus : bg.status = .waitLeave) : Running bg where
  waiting hwaiting := nomatch hstatus.symm.trans hwaiting
  agenda hprog := nomatch hstatus.symm.trans hprog

theorem of_agenda (hstatus : bg.status = .inProgress)
    (hagenda : Agenda bg.bgEvents bg.captures.length) : Running bg where
  waiting hwaiting := nomatch hstatus.symm.trans hwaiting
  agenda _ := hagenda

theorem droppedFlag (hrun : Running bg) (hbg : Consistent teamId due bg) (player : ℕ) :
    Running (bg.EventPlayerDroppedFlag teamId env player) := by
  unfold EventPlayerDroppedFlag
  dsimp only
  split
  · exact hrun
  split
  · exact ⟨hrun.waiting, hrun.agenda⟩
  rename_i hstatus
  have hprog : bg.status = .inProgress := not_not.mp hstatus
  refine of_agenda hprog ?_
  refine (hrun.agenda hprog).rescheduleEvent
    ((hbg.captures_le hprog).trans (by decide)) (dropFlagEvent_mem _) ?_ ?_ (by decide)
      fun _ _ => le_rfl
  · exact (isNeutral_respawnBothFlags.2.1 _).symm
  · exact (isNeutral_noTimeLeft.2.1 _).symm

theorem interrupted (hrun : Running bg) (hbg : Consistent teamId due bg) (player : ℕ) :
    Running (bg.removeInterruptedAuras teamId env player) := by
  unfold removeInterruptedAuras
  split
  · exact hrun.droppedFlag hbg player
  · exact hrun

theorem agenda_rescheduleBothFlagsKept (hagenda : Agenda bg.bgEvents bg.captures.length)
    (hfew : bg.captures.length ≤ 6) :
    Agenda bg.rescheduleBothFlagsKept.bgEvents bg.captures.length := by
  have hfirst : Agenda (bg.rescheduleEvent BG_WS_EVENT_BOTH_FLAGS_KEPT10
      BG_WS_SPELL_FORCE_TIME).bgEvents bg.captures.length :=
    hagenda.rescheduleEvent hfew (by decide) (by decide) (by decide) (by decide)
      fun flag hflag => absurd hflag (kept10_ne_dropFlagEvent flag)
  exact hfirst.rescheduleEvent hfew (by decide) (by decide) (by decide) (by decide)
    fun flag hflag => absurd hflag (kept15_ne_dropFlagEvent flag)

theorem agenda_cancelBothFlagsKept (hagenda : Agenda bg.bgEvents captures) :
    Agenda bg.cancelBothFlagsKept.bgEvents captures := by
  have hfirst : Agenda (bg.bgEvents.cancelEvent BG_WS_EVENT_BOTH_FLAGS_KEPT10) captures :=
    hagenda.cancelEvent (by decide)
  exact hfirst.cancelEvent (by decide)

section

variable (hrun : Running bg) (hbg : Consistent teamId due bg)
include hrun hbg

theorem pickUpFromBase
    (hstatus : bg.status = .inProgress) : Running (bg.pickUpFromBase flag player) := by
  unfold BattlegroundWS.pickUpFromBase
  dsimp only
  split
  · refine of_agenda hstatus ?_
    exact @agenda_rescheduleBothFlagsKept (bg.takeFlag flag player) (hrun.agenda hstatus)
      ((hbg.captures_le hstatus).trans (by decide))
  · exact of_agenda hstatus (hrun.agenda hstatus)

theorem capturedFlag : Running (bg.EventPlayerCapturedFlag teamId env player) := by
  unfold EventPlayerCapturedFlag
  dsimp only
  split
  · exact hrun
  rename_i hstatus
  have hprog := @status_removeInterruptedAuras teamId env bg hstatus player
  have hnext : Running (bg.removeInterruptedAuras teamId env player) := hrun.interrupted hbg player
  have hfew : (bg.removeInterruptedAuras teamId env player).captures.length ≤ 4 :=
    (hbg.interrupted player).captures_le hprog
  generalize bg.removeInterruptedAuras teamId env player = dropped at hprog hnext hfew
  unfold endOrRespawn
  split
  · refine of_waitLeave ?_
    exact @status_EndBattleground (dropped.scoreFlag (teamId player) _) hprog _
  refine of_agenda hprog ?_
  refine agenda_cancelBothFlagsKept ?_
  have hagenda := hnext.agenda hprog
  have hlen : (dropped.captures ++ [(teamId player, bg.flagState (teamId player))]).length =
      dropped.captures.length + 1 := by
    rw [length_append, length_singleton]
  change Agenda (dropped.bgEvents.scheduleEvent _ _ 0 0) (_ ++ _ : List _).length
  rw [hlen]
  exact hagenda.of_scheduled (by omega) (hagenda.toCounted.scheduleRespawn _) (by decide)
    fun flag hflag => absurd hflag (isNeutral_respawnBothFlags.2.1 flag)

theorem areaTrigger (player trigger : ℕ) :
    Running (bg.HandleAreaTrigger teamId env player trigger) := by
  have hroom : ∀ own, Running (bg.enterFlagRoom teamId env own player) := by
    intro own
    unfold BattlegroundWS.enterFlagRoom
    split
    · exact hrun.capturedFlag hbg
    · exact hrun
  unfold HandleAreaTrigger
  split
  · exact hrun
  split
  · exact hroom .alliance
  split
  · exact hroom .horde
  · exact hrun

theorem checkFlagKeeper (flag : Team) : Running (bg.CheckFlagKeeperInArea teamId env flag) := by
  unfold CheckFlagKeeperInArea
  split
  · exact hrun
  split
  · split
    · exact hrun.areaTrigger hbg _ _
    · exact hrun
  · exact hrun

theorem returnFlag (hstatus : bg.status = .inProgress) (hground : bg.flagState flag = .onGround)
    (hdue : due = 0 ∨ due = dropFlagEvent flag) :
    Running (bg.returnFlag teamId env flag) := by
  have hagenda : Agenda ((bg.SetDroppedFlagGUID none flag).UpdateFlagState flag
      .onBase).cancelBothFlagsKept.bgEvents bg.captures.length :=
    agenda_cancelBothFlagsKept (hrun.agenda hstatus)
  have hrunning : Running ((bg.SetDroppedFlagGUID none flag).UpdateFlagState flag
      .onBase).cancelBothFlagsKept := of_agenda hstatus hagenda
  exact hrunning.checkFlagKeeper (hbg.returned hstatus hground hdue) flag.other

end

theorem clickedOnFlag (hrun : Running bg) (hbg : Consistent teamId 0 bg)
    (object : GameObject) :
    Running (bg.EventPlayerClickedOnFlag teamId env player object) := by
  unfold EventPlayerClickedOnFlag
  dsimp only
  split
  · exact hrun
  rename_i hstatus
  have hnext : Running (bg.removeInterruptedAuras teamId env player) := hrun.interrupted hbg player
  have hcons : Consistent teamId 0 (bg.removeInterruptedAuras teamId env player) :=
    hbg.interrupted player
  have hprog := @status_removeInterruptedAuras teamId env bg hstatus player
  generalize bg.removeInterruptedAuras teamId env player = dropped at *
  have hclicked : ∀ flag, dropped.flagState flag = .onGround →
      Running (dropped.clickedOnGround teamId env flag player) := by
    intro flag hground
    unfold BattlegroundWS.clickedOnGround
    split
    · exact hnext.returnFlag hcons hprog hground (.inl rfl)
    · exact of_agenda hprog (hnext.agenda hprog)
  split
  · exact hnext.pickUpFromBase hcons hprog
  split
  · exact hnext.pickUpFromBase hcons hprog
  split
  case isTrue hdropped => exact hclicked .alliance hdropped.1
  split
  case isTrue hdropped => exact hclicked .horde hdropped.1
  case isFalse => exact hnext

theorem modify (hrun : Running bg) {f : Battleground → Battleground}
    (hstatus : (f bg.toBattleground).status = bg.status) : Running (bg.modify f) where
  waiting hwaiting := hrun.waiting (hstatus ▸ hwaiting)
  agenda hprog := hrun.agenda (hstatus ▸ hprog)

theorem respawnFlagAfterDrop (hrun : Running bg)
    (hbg : Consistent teamId (dropFlagEvent flag) bg) :
    Running (bg.RespawnFlagAfterDrop teamId env flag) := by
  unfold RespawnFlagAfterDrop
  split
  · exact hrun
  rename_i hkeep
  rw [not_or, not_not, not_not] at hkeep
  exact hrun.returnFlag hbg hkeep.1 hkeep.2 (.inr rfl)

theorem nextGameTime_le (bg : BattlegroundWS) : bg.nextGameTime ≤ 60000 := by
  have hlt : toUint32 (BG_WS_TOTAL_GAME_TIME - bg.clock.startTime) %
      (MINUTE * IN_MILLISECONDS) < 60000 := mod_lt _ (by decide)
  unfold nextGameTime
  omega

theorem postUpdateImpl (hrun : Running bg) (hbg : Consistent teamId 0 bg) :
    Running (bg.PostUpdateImpl teamId env UPDATE_INTERVAL) := by
  unfold PostUpdateImpl
  dsimp only
  split
  case isFalse => exact hrun
  rename_i hstatus
  have hfew : bg.captures.length ≤ 6 := (hbg.captures_le hstatus).trans (by decide)
  have hagenda := hrun.agenda hstatus
  have hserved := hbg.executeEvent UPDATE_INTERVAL
  by_cases hend : (bg.bgEvents.update UPDATE_INTERVAL).executeEvent.1 = BG_WS_EVENT_NO_TIME_LEFT
  · refine of_waitLeave ?_
    unfold handleEvent
    rw [if_neg (by rw [hend]; decide), if_pos hend]
    unfold noTimeLeft
    split
    · exact @status_EndBattleground (bg.setEvents _) hstatus _
    · exact @status_EndBattleground (bg.setEvents _) hstatus _
  · have hnext : Running
        (bg.setEvents fun _ => (bg.bgEvents.update UPDATE_INTERVAL).executeEvent.2) :=
      of_agenda hstatus (hagenda.executeEvent hfew hend)
    unfold handleEvent
    split
    case isTrue htime =>
      have hnone : (bg.bgEvents.update UPDATE_INTERVAL).executeEvent.2.pending
          BG_WS_EVENT_UPDATE_GAME_TIME = 0 := by
        have hsplit := @EventMap.pending_executeEvent _ BG_WS_EVENT_UPDATE_GAME_TIME
          (hagenda.plain.update UPDATE_INTERVAL) (by decide)
        have hsingle := hagenda.single BG_WS_EVENT_UPDATE_GAME_TIME (by decide) (by decide)
        rw [if_pos htime, EventMap.pending_update] at hsplit
        omega
      refine of_agenda hstatus ?_
      exact (hnext.agenda hstatus).of_scheduled hfew
        ((hnext.agenda hstatus).toCounted.scheduleEvent (by decide) (by decide) hnone _)
        ((nextGameTime_le _).trans (by decide))
        fun flag hflag => absurd hflag (isNeutral_updateGameTime.2.1 flag)
    case isFalse =>
      split
      case isTrue halliance =>
        rw [halliance] at hserved
        exact hnext.respawnFlagAfterDrop hserved
      case isFalse =>
        split
        case isFalse => exact hnext
        rename_i hhorde
        rw [hhorde] at hserved
        exact hnext.respawnFlagAfterDrop hserved

theorem removePlayerAtLeave (hrun : Running bg) (hbg : Consistent teamId due bg) (player : ℕ) :
    Running ((warsongGulch teamId env).RemovePlayerAtLeave player bg) := by
  have hdrop : Running (bg.EventPlayerDroppedFlag teamId env player) := hrun.droppedFlag hbg player
  unfold BattlegroundClass.RemovePlayerAtLeave
  split
  case h_1 team hteam =>
    change Running (((((bg.modify (Battleground.removeParticipant player
      team)).RemovePlayer teamId env player).modify
        (Battleground.DecreaseInvitedCount team)).modify (Battleground.forgetVisitor player)))
    rw [RemovePlayer_eq, EventPlayerDroppedFlag_modify _ _ rfl]
    exact ((hdrop.modify rfl).modify rfl).modify rfl
  case h_2 hteam =>
    change Running ((bg.RemovePlayer teamId env player).modify
      (Battleground.forgetVisitor player))
    rw [RemovePlayer_eq]
    exact hdrop.modify rfl

theorem openDoors (hrun : Running bg) (hbg : Consistent teamId 0 bg)
    (hstatus : bg.status = .waitJoin) : Running ((warsongGulch teamId env).openDoors bg) := by
  obtain ⟨hentries, htime⟩ := hrun.waiting hstatus
  have hstart : bg.StartingEventOpenDoors.captures = [] := (hbg.waiting hstatus).1
  have hphase : bg.StartingEventOpenDoors.bgEvents.phase = 0 := hbg.plain.phase
  have hopened : bg.StartingEventOpenDoors.bgEvents.eventMap.entries =
      [(0, BG_WS_EVENT_UPDATE_GAME_TIME), (BG_WS_DOOR_DESPAWN_TIME, BG_WS_EVENT_DESPAWN_DOORS),
        (NO_TIME_LEFT_TIME, BG_WS_EVENT_NO_TIME_LEFT)] := by
    simp only [StartingEventOpenDoors, BattlegroundWS.scheduleEvent, setEvents,
      EventMap.scheduleEvent, entries_insert, EventMap.packData_zero, hentries, htime]
    decide
  have hzero : bg.StartingEventOpenDoors.bgEvents.time = 0 := htime
  have hstate : (warsongGulch teamId env).openDoors bg =
      bg.StartingEventOpenDoors.modify fun base =>
        { base with
          status := .inProgress
          clock := { base.clock with startingEvent4 := true, startDelayTime := 0 } } :=
    openDoors_eq bg
  rw [hstate]
  generalize bg.StartingEventOpenDoors = opened at hstart hphase hopened hzero
  refine of_agenda rfl ?_
  change Agenda opened.bgEvents opened.captures.length
  have hpending : ∀ eventId, opened.bgEvents.pending eventId = List.countP
      (fun entry : ℕ × ℕ => entry.2 = eventId)
      [(0, BG_WS_EVENT_UPDATE_GAME_TIME), (BG_WS_DOOR_DESPAWN_TIME, BG_WS_EVENT_DESPAWN_DOORS),
        (NO_TIME_LEFT_TIME, BG_WS_EVENT_NO_TIME_LEFT)] := by
    intro eventId
    rw [EventMap.pending, hopened]
  refine ⟨⟨⟨hphase, ?_⟩, ?_, ?_, ?_⟩, ?_, ?_⟩
  · rw [hopened]
    decide
  · rw [hopened]
    decide
  · intro eventId hid _
    rw [hpending]
    revert eventId
    decide
  · rw [hpending]
    exact Nat.zero_le _
  · intro entry hentry flag hflag
    rw [hopened] at hentry
    rw [hzero]
    revert entry
    cases flag <;> decide
  · refine ⟨2, ⟨[_, _], [], hopened, le_rfl⟩, ?_⟩
    rw [hzero]
    decide

theorem preserves (teamId : ℕ → Team) (env : WSEnv) :
    (warsongGulch teamId env).Preserves env.toUpdateEnv
      fun bg => Consistent teamId 0 bg ∧ Running bg := by
  have hflags := Consistent.preserves teamId env
  constructor
  case clock => exact fun f bg hbg => ⟨hflags.clock f bg hbg.1, hbg.2.modify rfl⟩
  case deleted => exact fun bg hbg => ⟨hflags.deleted bg hbg.1, hbg.2.modify rfl⟩
  case setup =>
    intro bg hbg hstatus
    refine ⟨hflags.setup bg hbg.1 hstatus, ?_⟩
    unfold BattlegroundClass.setup
    dsimp only
    split
    · split
      case h_1 bg' hsetup =>
        obtain rfl := (Prod.ext_iff.mp hsetup).1
        exact ⟨hbg.2.waiting, hbg.2.agenda⟩
      case h_2 bg' hsetup => exact of_waitLeave rfl
    · exact of_waitLeave rfl
  case openDoors =>
    exact fun bg hbg hstatus => ⟨hflags.openDoors bg hbg.1 hstatus, hbg.2.openDoors hbg.1 hstatus⟩
  case resurrect =>
    intro bg hbg hstatus
    refine ⟨⟨(hflags.resurrect bg hbg.1 hstatus).1, ?_⟩, (hflags.resurrect bg hbg.1 hstatus).2⟩
    rw [ProcessResurrect_eq]
    exact hbg.2.modify rfl
  case premature =>
    exact fun bg hbg hstatus => ⟨hflags.premature bg hbg.1 hstatus,
      of_waitLeave (status_EndBattleground hstatus _)⟩
  case leave =>
    exact fun player bg hbg => ⟨hflags.leave player bg hbg.1,
      hbg.2.removePlayerAtLeave hbg.1 player⟩
  case postUpdateImpl =>
    exact fun bg hbg => ⟨hflags.postUpdateImpl bg hbg.1, hbg.2.postUpdateImpl hbg.1⟩

theorem call (hrun : Running bg) (hbg : Consistent teamId 0 bg) (op : Call) :
    Running (bg.call teamId env op) := by
  cases op with
  | addPlayer | addVisitor => exact hrun.modify rfl
  | removePlayerAtLeave player => exact hrun.removePlayerAtLeave hbg player
  | clickedOnFlag player object => exact hrun.clickedOnFlag hbg object
  | droppedFlag player => exact hrun.droppedFlag hbg player
  | killPlayer player =>
    change Running (bg.HandleKillPlayer teamId env player)
    unfold HandleKillPlayer
    split
    · exact hrun
    · exact hrun.droppedFlag hbg player
  | areaTrigger player trigger => exact hrun.areaTrigger hbg player trigger
  | update diff => exact ((preserves teamId env).update ⟨hbg, hrun⟩ diff).2

end Running

theorem ReachableWS.running (hreach : ReachableWS teamId bg) : Running bg := by
  refine hreach.invariant_of_reachable Running (fun bg hcreated => hcreated.running) ?_
  rintro before ⟨env, op⟩ after hbefore hrun ⟨-, rfl⟩
  exact hrun.call (ReachableWS.consistent hbefore) op

end AzerothCore.Battlegrounds.Zones.BattlegroundWS

/-!
## A dropped flag always returns

The event of a flag on the ground is due after the drop time, and each update that
serves events from then on serves it or one ahead of it. So a flag is on
the ground for a bounded number of them.
-/

namespace AzerothCore.Battlegrounds.Zones.BattlegroundWS
open Function

/-! ## Waiting for an event -/

def Waits (events : EventMap) (flag : Team) (updates spare : ℕ) : Prop :=
  ∃ key ahead, events.Behind (dropFlagEvent flag) key ahead ∧
    key ≤ events.time + BG_WS_FLAG_DROP_TIME ∧ ahead ≤ updates ∧
    key + 1000 * (ahead + spare) ≤ events.time + 1000 * updates

variable {teamId : ℕ → Team} {env : WSEnv} {due : ℕ} {bg : BattlegroundWS} {player : ℕ}
  {flag : Team} {events : EventMap} {captures eventId delay updates spare : ℕ}

def RETURN_UPDATES : ℕ := 21

theorem Agenda.waits (hevents : Agenda events captures) (hfew : captures ≤ 4)
    (hpending : 0 < events.pending (dropFlagEvent flag)) :
    Waits events flag RETURN_UPDATES 0 := by
  obtain ⟨key, hbehind⟩ := EventMap.exists_behind hpending
  have hlen := hevents.length_le
  have hnear : key ≤ events.time + BG_WS_FLAG_DROP_TIME := by
    obtain ⟨front, back, hsplit, -⟩ := hbehind
    exact hevents.near (key, dropFlagEvent flag) (by rw [hsplit]; simp) flag rfl
  have hdrop : BG_WS_FLAG_DROP_TIME = 10000 := rfl
  refine ⟨key, _, hbehind, hnear, ?_, ?_⟩
  · unfold RETURN_UPDATES
    omega
  · unfold RETURN_UPDATES
    omega

namespace Waits

section

variable (hwaits : Waits events flag updates spare)
include hwaits

theorem relax : Waits events flag updates 0 := by
  obtain ⟨key, ahead, hbehind, hnear, hahead, hle⟩ := hwaits
  exact ⟨key, ahead, hbehind, hnear, hahead, by omega⟩

theorem cancelEvent (hplain : events.Plain)
    (hne : eventId ≠ dropFlagEvent flag) :
    Waits (events.cancelEvent eventId) flag updates spare := by
  obtain ⟨key, ahead, hbehind, hrest⟩ := hwaits
  exact ⟨key, ahead, hbehind.cancelEvent hplain hne, hrest⟩

theorem scheduleEvent_of_le
    (hevents : Agenda events captures) (hlate : BG_WS_FLAG_DROP_TIME ≤ delay)
    (hdelay : delay ≤ 900000) :
    Waits (events.scheduleEvent eventId delay 0 0) flag updates spare := by
  obtain ⟨key, ahead, hbehind, hnear, hrest⟩ := hwaits
  refine ⟨key, ahead, hbehind.scheduleEvent_of_le ?_, hnear, hrest⟩
  rw [hevents.uint32_time_add hdelay]
  omega

theorem rescheduleEvent (hevents : Agenda events captures) (hne : eventId ≠ dropFlagEvent flag)
    (hend : eventId ≠ BG_WS_EVENT_NO_TIME_LEFT) (hlate : BG_WS_FLAG_DROP_TIME ≤ delay)
    (hdelay : delay ≤ 900000) :
    Waits (events.rescheduleEvent eventId delay 0 0) flag updates spare :=
  (hwaits.cancelEvent hevents.plain hne).scheduleEvent_of_le (hevents.cancelEvent hend) hlate
    hdelay

end

theorem scheduleEvent (hwaits : Waits events flag updates 1)
    (hevents : Agenda events captures) (hdelay : delay ≤ 900000) :
    Waits (events.scheduleEvent eventId delay 0 0) flag updates 0 := by
  obtain ⟨key, ahead, hbehind, hnear, hahead, hle⟩ := hwaits
  have hkey := hevents.uint32_time_add hdelay
  by_cases hlate : key ≤ uint32 (events.time + delay)
  · exact ⟨key, ahead, hbehind.scheduleEvent_of_le hlate, hnear, hahead, by
      change _ ≤ events.time + _
      omega⟩
  · refine ⟨key, ahead + 1, hbehind.scheduleEvent eventId delay, hnear, ?_, ?_⟩
    · omega
    · change _ ≤ events.time + _
      omega

theorem executeEvent (hwaits : Waits events flag updates 0) (hevents : Agenda events captures) :
    (events.update UPDATE_INTERVAL).executeEvent.1 = dropFlagEvent flag ∨
      ∃ fewer spare, updates = fewer + 1 ∧
        ((events.update UPDATE_INTERVAL).executeEvent.1 ≠ 0 → spare = 1) ∧
        Waits (events.update UPDATE_INTERVAL).executeEvent.2 flag fewer spare := by
  obtain ⟨key, ahead, hbehind, hnear, hahead, hle⟩ := hwaits
  have hplain := hevents.plain.update UPDATE_INTERVAL
  have hupdated : (events.update UPDATE_INTERVAL).time = events.time + 1000 :=
    hevents.uint32_time_add (by decide)
  rcases (hbehind.update UPDATE_INTERVAL).executeEvent hplain with
    ⟨heq, hlater⟩ | hserved | ⟨fewer, hfewer, hnext⟩
  · refine .inr ⟨updates - 1, 0, by omega, fun hne => absurd (by rw [heq]) hne, key, ahead, ?_⟩
    rw [heq]
    refine ⟨hbehind.update UPDATE_INTERVAL, ?_, by omega, ?_⟩
    · rw [hupdated]
      omega
    · rw [hupdated]
      omega
  · exact .inl hserved
  · have htime : (events.update UPDATE_INTERVAL).executeEvent.2.time = events.time + 1000 := by
      rcases EventMap.executeEvent_cases hplain with ⟨heq, -⟩ | ⟨_, _, -, -, -, -, htime, -⟩
      · rw [heq]
        exact hupdated
      · exact htime.trans hupdated
    refine .inr ⟨updates - 1, 1, by omega, fun _ => rfl, key, fewer, hnext, ?_, by omega, ?_⟩
    · omega
    · omega

end Waits

theorem flagState_EventPlayerDroppedFlag (player : ℕ) (bg : BattlegroundWS) :
    (bg.EventPlayerDroppedFlag teamId env player).flagState (teamId player) =
      bg.flagState (teamId player) := by
  unfold EventPlayerDroppedFlag
  dsimp only
  split
  · rfl
  split
  · rfl
  · exact update_of_ne (Team.ne_other _) _ _

theorem flagState_EventPlayerCapturedFlag (player : ℕ) (bg : BattlegroundWS) :
    (bg.EventPlayerCapturedFlag teamId env player).flagState (teamId player) =
      bg.flagState (teamId player) := by
  have hdropped : (bg.removeInterruptedAuras teamId env player).flagState (teamId player) =
      bg.flagState (teamId player) := by
    unfold removeInterruptedAuras
    split
    · exact flagState_EventPlayerDroppedFlag player bg
    · rfl
  have hscored : ∀ (own : FlagState) (bg : BattlegroundWS),
      (bg.scoreFlag (teamId player) own).flagState (teamId player) = bg.flagState (teamId player) :=
    fun own bg => update_of_ne (Team.ne_other _) _ _
  have hended : ∀ bg : BattlegroundWS,
      bg.endOrRespawn.cancelBothFlagsKept.flagState = bg.flagState := by
    intro bg
    unfold endOrRespawn
    split <;> rfl
  unfold EventPlayerCapturedFlag
  split
  · rfl
  · rw [hended, hscored, hdropped]

theorem flagState_HandleAreaTrigger (player trigger : ℕ) (bg : BattlegroundWS) :
    (bg.HandleAreaTrigger teamId env player trigger).flagState (teamId player) =
      bg.flagState (teamId player) := by
  have hroom : ∀ own, (bg.enterFlagRoom teamId env own player).flagState (teamId player) =
      bg.flagState (teamId player) := by
    intro own
    unfold enterFlagRoom
    split
    · exact flagState_EventPlayerCapturedFlag player bg
    · rfl
  unfold HandleAreaTrigger
  split
  · rfl
  split
  · exact hroom .alliance
  split
  · exact hroom .horde
  · rfl

theorem Consistent.flagState_returnFlag (hbg : Consistent teamId due bg)
    (hstatus : bg.status = .inProgress) (hground : bg.flagState flag = .onGround)
    (hdue : due = 0 ∨ due = dropFlagEvent flag) :
    (bg.returnFlag teamId env flag).flagState flag = .onBase := by
  have hreturned := hbg.returned hstatus hground hdue
  have hbase : ((bg.SetDroppedFlagGUID none flag).UpdateFlagState flag
      .onBase).cancelBothFlagsKept.flagState flag = .onBase := update_self _ _ _
  change (CheckFlagKeeperInArea teamId env flag.other ((bg.SetDroppedFlagGUID none
    flag).UpdateFlagState flag .onBase).cancelBothFlagsKept).flagState flag = .onBase
  unfold CheckFlagKeeperInArea
  split
  · exact hbase
  split
  case h_2 => exact hbase
  rename_i player hkeeper
  have hteam := (hreturned.carrier flag.other player hkeeper).1
  rw [Team.other_other] at hteam
  split
  · rw [← hteam, flagState_HandleAreaTrigger, hteam]
    exact hbase
  · exact hbase

structure Lies (teamId : ℕ → Team) (due : ℕ) (flag : Team) (updates spare : ℕ)
    (bg : BattlegroundWS) : Prop where
  consistent : Consistent teamId due bg
  agenda : Agenda bg.bgEvents bg.captures.length
  status : bg.status = .inProgress
  onGround : bg.flagState flag = .onGround
  waits : Waits bg.bgEvents flag updates spare

namespace Lies

variable (hlies : Lies teamId due flag updates spare bg)

include hlies

theorem captures_le : bg.captures.length ≤ 4 := hlies.consistent.captures_le hlies.status

theorem running : Running bg := .of_agenda hlies.status hlies.agenda

theorem keeper_eq_none : bg.flagKeepers flag = none := by
  refine hlies.consistent.keeper_eq_none hlies.status ?_
  rw [hlies.onGround]
  decide

theorem droppedFlag (player : ℕ) :
    Lies teamId due flag updates spare (bg.EventPlayerDroppedFlag teamId env player) := by
  have hbg := hlies.consistent
  have hstatus : (bg.EventPlayerDroppedFlag teamId env player).status = .inProgress := by
    rw [toBattleground_EventPlayerDroppedFlag]
    exact hlies.status
  refine ⟨hbg.droppedFlag player, (hlies.running.droppedFlag hbg player).agenda hstatus,
    hstatus, ?_, ?_⟩
  · unfold EventPlayerDroppedFlag
    dsimp only
    split
    · exact hlies.onGround
    split
    · exact hlies.onGround
    · change Function.update bg.flagState (teamId player).other .onGround flag = _
      rw [update_apply, hlies.onGround, ite_self]
  · unfold EventPlayerDroppedFlag
    dsimp only
    split
    · exact hlies.waits
    rename_i hcarries
    split
    · exact hlies.waits
    refine hlies.waits.rescheduleEvent hlies.agenda (fun heq => hcarries ?_)
      (isNeutral_noTimeLeft.2.1 _).symm le_rfl (by decide)
    have hnone := hlies.keeper_eq_none
    rw [← dropFlagEvent_injective heq] at hnone
    have hneither : ∀ side, bg.flagKeepers side ≠ some player := by
      intro side
      rcases side.eq_or_eq_other (teamId player) with rfl | rfl
      · exact hbg.keeper_ne player
      · rw [hnone]
        exact nofun
    exact ⟨hneither .horde, hneither .alliance⟩

theorem interrupted (player : ℕ) :
    Lies teamId due flag updates spare (bg.removeInterruptedAuras teamId env player) := by
  unfold removeInterruptedAuras
  split
  · exact hlies.droppedFlag player
  · exact hlies

theorem HandleAreaTrigger_eq (player trigger : ℕ) :
    bg.HandleAreaTrigger teamId env player trigger = bg := by
  have hroom : ∀ own, bg.enterFlagRoom teamId env own player = bg := by
    intro own
    refine if_neg ?_
    rintro ⟨hbase, hkeeper⟩
    rcases own.eq_or_eq_other flag with rfl | rfl
    · exact nomatch hlies.onGround.symm.trans hbase
    · rw [Team.other_other, hlies.keeper_eq_none] at hkeeper
      cases hkeeper
  unfold HandleAreaTrigger
  rw [hroom, hroom, ite_self, ite_self, ite_self]

theorem returnFlag_other :
    Waits (bg.returnFlag teamId env flag.other).bgEvents flag updates spare := by
  have hstate : Function.update bg.flagState flag.other .onBase flag ≠ .onPlayer := by
    rw [update_of_ne (Team.ne_other _), hlies.onGround]
    decide
  unfold returnFlag CheckFlagKeeperInArea
  rw [Team.other_other, if_pos (.inr hstate)]
  exact (hlies.waits.cancelEvent hlies.agenda.plain (kept10_ne_dropFlagEvent flag)).cancelEvent
    (hlies.agenda.plain.cancelEvent _) (kept15_ne_dropFlagEvent flag)

theorem pickUpFromBase (other : Team) (player : ℕ) :
    Waits (bg.pickUpFromBase other player).bgEvents flag updates spare := by
  unfold BattlegroundWS.pickUpFromBase
  dsimp only
  split
  · have hfirst := hlies.waits.rescheduleEvent hlies.agenda (kept10_ne_dropFlagEvent flag)
      (by decide) (by decide : BG_WS_FLAG_DROP_TIME ≤ BG_WS_SPELL_FORCE_TIME) (by decide)
    have hagenda := hlies.agenda.rescheduleEvent (hlies.captures_le.trans (by decide))
      (by decide : BG_WS_EVENT_BOTH_FLAGS_KEPT10 ∈ eventIds) (by decide) (by decide)
      (by decide : BG_WS_SPELL_FORCE_TIME ≤ 900000)
      fun side hside => absurd hside (kept10_ne_dropFlagEvent side)
    exact hfirst.rescheduleEvent hagenda (kept15_ne_dropFlagEvent flag) (by decide) (by decide)
      (by decide)
  · exact hlies.waits

end Lies

variable (hlies : Lies teamId 0 flag updates 0 bg)

include hlies

theorem Lies.clickedOnFlag (player : ℕ) (object : GameObject)
    (hafter : (bg.EventPlayerClickedOnFlag teamId env player object).flagState flag = .onGround) :
    Waits (bg.EventPlayerClickedOnFlag teamId env player object).bgEvents flag updates 0 := by
  have hdropped : Lies teamId 0 flag updates 0 (bg.removeInterruptedAuras teamId env player) :=
    hlies.interrupted player
  have hclicked : ∀ side,
      (bg.removeInterruptedAuras teamId env player).onDroppedFlag env side object →
      ((bg.removeInterruptedAuras teamId env player).clickedOnGround teamId env side
        player).flagState flag = .onGround →
      Waits ((bg.removeInterruptedAuras teamId env player).clickedOnGround teamId env side
        player).bgEvents flag updates 0 := by
    generalize bg.removeInterruptedAuras teamId env player = dropped at hdropped
    intro side hside hground
    unfold clickedOnGround at hground ⊢
    rcases side.eq_or_eq_other flag with rfl | rfl
    · split at hground
      · rw [hdropped.consistent.flagState_returnFlag hdropped.status hside.1 (.inl rfl)] at hground
        cases hground
      · have htaken : ((dropped.SetDroppedFlagGUID none side).takeFlag side player).flagState
            side = .onPlayer := update_self _ _ _
        exact nomatch htaken.symm.trans hground
    · split
      · exact hdropped.returnFlag_other
      · exact hdropped.waits
  revert hafter
  unfold EventPlayerClickedOnFlag
  dsimp only
  rw [if_neg (not_not.mpr hlies.status)]
  split
  · exact fun _ => hdropped.pickUpFromBase .alliance player
  split
  · exact fun _ => hdropped.pickUpFromBase .horde player
  split
  case isTrue hside => exact hclicked .alliance hside
  split
  case isTrue hside => exact hclicked .horde hside
  case isFalse => exact fun _ => hdropped.waits

theorem Lies.postUpdateImpl
    (hstatus : (bg.PostUpdateImpl teamId env UPDATE_INTERVAL).status = .inProgress)
    (hground : (bg.PostUpdateImpl teamId env UPDATE_INTERVAL).flagState flag = .onGround) :
    ∃ fewer, updates = fewer + 1 ∧
      Waits (bg.PostUpdateImpl teamId env UPDATE_INTERVAL).bgEvents flag fewer 0 := by
  have hcons := hlies.consistent.executeEvent UPDATE_INTERVAL
  have hexec := hlies.waits.executeEvent hlies.agenda
  have hfew : bg.captures.length ≤ 6 := hlies.captures_le.trans (by decide)
  have hagenda := hlies.agenda.executeEvent hfew
  revert hstatus hground
  unfold PostUpdateImpl
  dsimp only
  rw [if_pos hlies.status]
  generalize (bg.bgEvents.update UPDATE_INTERVAL).executeEvent = executed at *
  have hserved : ∀ side, executed.1 = dropFlagEvent side →
      ((bg.setEvents fun _ => executed.2).RespawnFlagAfterDrop teamId env side).flagState flag =
        .onGround →
      ∃ fewer, updates = fewer + 1 ∧ Waits ((bg.setEvents fun _ =>
        executed.2).RespawnFlagAfterDrop teamId env side).bgEvents flag fewer 0 := by
    intro side hside
    have hnext := hagenda fun heq => isNeutral_noTimeLeft.2.1 side (heq.symm.trans hside)
    rw [hside] at hcons hexec
    unfold RespawnFlagAfterDrop
    rcases side.eq_or_eq_other flag with rfl | rfl
    · intro hground
      have hkeep : ¬ (bg.status ≠ .inProgress ∨ bg.flagState side ≠ .onGround) :=
        fun hkeep => hkeep.elim (fun hne => hne hlies.status) fun hne => hne hlies.onGround
      have hbase : ((bg.setEvents fun _ => executed.2).returnFlag teamId env side).flagState
          side = .onBase :=
        hcons.flagState_returnFlag hlies.status hlies.onGround (.inr rfl)
      rw [if_neg (show ¬ ((bg.setEvents fun _ => executed.2).status ≠ .inProgress ∨
        (bg.setEvents fun _ => executed.2).flagState side ≠ .onGround) from hkeep), hbase] at hground
      cases hground
    · intro _
      rcases hexec with hflag | ⟨fewer, spare, hupdates, -, hwaits⟩
      · exact absurd (dropFlagEvent_injective hflag) (Team.other_ne flag)
      refine ⟨fewer, hupdates, ?_⟩
      have hother : Lies teamId (dropFlagEvent flag.other) flag fewer 0
          (bg.setEvents fun _ => executed.2) :=
        ⟨hcons, hnext, hlies.status, hlies.onGround, hwaits.relax⟩
      split
      · exact hwaits.relax
      · exact hother.returnFlag_other
  unfold handleEvent
  split
  case isTrue htime =>
    intro _ _
    rcases hexec with hflag | ⟨fewer, spare, hupdates, hspare, hwaits⟩
    · exact absurd (htime.symm.trans hflag) (isNeutral_updateGameTime.2.1 flag)
    rw [hspare (by rw [htime]; decide)] at hwaits
    have hnext := hagenda (by rw [htime]; decide)
    exact ⟨fewer, hupdates, hwaits.scheduleEvent hnext
      ((Running.nextGameTime_le _).trans (by decide))⟩
  case isFalse =>
    split
    · intro hstatus
      unfold noTimeLeft at hstatus
      split at hstatus
      · rw [@status_EndBattleground (bg.setEvents _) hlies.status] at hstatus
        cases hstatus
      · rw [@status_EndBattleground (bg.setEvents _) hlies.status] at hstatus
        cases hstatus
    · split
      case isTrue hside => exact fun _ => hserved .alliance hside
      rename_i halliance
      split
      case isTrue hside => exact fun _ => hserved .horde hside
      rename_i hhorde
      intro _ _
      rcases hexec with hflag | ⟨fewer, spare, hupdates, -, hwaits⟩
      · cases flag with
        | alliance => exact absurd hflag halliance
        | horde => exact absurd hflag hhorde
      · exact ⟨fewer, hupdates, hwaits.relax⟩

omit hlies in
theorem progress_frame (updateEnv : UpdateEnv) (bg : BattlegroundWS) :
    ((warsongGulch teamId env).progress updateEnv UPDATE_INTERVAL bg).bgEvents = bg.bgEvents ∧
      ((warsongGulch teamId env).progress updateEnv UPDATE_INTERVAL bg).flagState =
        bg.flagState := by
  unfold BattlegroundClass.progress
  rw [ProcessResurrect_eq]
  dsimp only
  split
  · unfold BattlegroundClass.ProcessProgress
    dsimp only
    split
    · exact ⟨rfl, rfl⟩
    split
    · exact ⟨rfl, rfl⟩
    · split <;> exact ⟨rfl, rfl⟩
  · split <;> exact ⟨rfl, rfl⟩

omit hlies in
def ServesEvents (teamId : ℕ → Team) (bg : BattlegroundWS) (op : WSEnv × Call) : Prop :=
  ∃ diff, op.2 = .update diff ∧ (warsongGulch teamId op.1).RunsUpdate diff bg

theorem Lies.update_of_not_runs {diff : ℕ}
    (hidle : ¬ (warsongGulch teamId env).RunsUpdate diff bg) :
    Waits ((warsongGulch teamId env).Update env.toUpdateEnv diff bg).bgEvents flag updates 0 := by
  rcases (warsongGulch teamId env).Update_of_not_runs env.toUpdateEnv hidle with
    ⟨f, heq⟩ | ⟨f, g, heq⟩
  · rw [heq]
    exact hlies.waits
  rw [heq]
  unfold BattlegroundClass.emptyUpdate
  split
  · exact hlies.waits
  · exact hlies.waits

theorem Lies.update_of_runs {diff : ℕ} (hruns : (warsongGulch teamId env).RunsUpdate diff bg)
    (hstatus : ((warsongGulch teamId env).Update env.toUpdateEnv diff bg).status = .inProgress)
    (hground : ((warsongGulch teamId env).Update env.toUpdateEnv diff bg).flagState flag =
      .onGround) :
    ∃ fewer, updates = fewer + 1 ∧
      Waits ((warsongGulch teamId env).Update env.toUpdateEnv diff bg).bgEvents flag fewer 0 := by
  have hpres := Running.preserves teamId env
  obtain ⟨f, g, heq⟩ := (warsongGulch teamId env).Update_of_runs env.toUpdateEnv hruns
  rw [heq] at hstatus hground ⊢
  have hticked := hpres.clock g _ (hpres.clock f bg ⟨hlies.consistent, hlies.running⟩)
  have hnext : ((warsongGulch teamId env).setClock g
      ((warsongGulch teamId env).setClock f bg)).status = .inProgress := hlies.status
  have hevents : ((warsongGulch teamId env).setClock g
      ((warsongGulch teamId env).setClock f bg)).bgEvents = bg.bgEvents := rfl
  have hflags : ((warsongGulch teamId env).setClock g
      ((warsongGulch teamId env).setClock f bg)).flagState = bg.flagState := rfl
  generalize (warsongGulch teamId env).setClock g ((warsongGulch teamId env).setClock f bg) =
    ticked at hticked hnext hevents hflags hstatus hground ⊢
  have hprocess : (warsongGulch teamId env).process env.toUpdateEnv UPDATE_INTERVAL ticked =
      (warsongGulch teamId env).progress env.toUpdateEnv UPDATE_INTERVAL ticked := by
    unfold BattlegroundClass.process
    rw [show (warsongGulch teamId env).status ticked = .inProgress from hnext]
  obtain ⟨hsameEvents, hsameFlags⟩ := @progress_frame teamId env env.toUpdateEnv ticked
  have hplayed := hpres.progress hticked hnext
  rw [hprocess] at hstatus hground ⊢
  rw [hevents] at hsameEvents
  rw [hflags] at hsameFlags
  generalize (warsongGulch teamId env).progress env.toUpdateEnv UPDATE_INTERVAL ticked = played
    at hsameEvents hsameFlags hplayed hstatus hground ⊢
  obtain ⟨h, hpost⟩ : ∃ h, (warsongGulch teamId env).postUpdate UPDATE_INTERVAL played =
      ((warsongGulch teamId env).setClock h played).PostUpdateImpl teamId env UPDATE_INTERVAL :=
    ⟨_, rfl⟩
  rw [hpost] at hstatus hground ⊢
  have hlast := hpres.clock h _ hplayed
  have hlastEvents : ((warsongGulch teamId env).setClock h played).bgEvents = bg.bgEvents :=
    hsameEvents
  have hlastFlags : ((warsongGulch teamId env).setClock h played).flagState = bg.flagState :=
    hsameFlags
  generalize (warsongGulch teamId env).setClock h played = last at *
  have hopen : last.status = .inProgress := by
    by_contra hover
    unfold PostUpdateImpl at hstatus
    rw [if_neg hover] at hstatus
    exact hover hstatus
  have hlast' : Lies teamId 0 flag updates 0 last :=
    ⟨hlast.1, hlast.2.agenda hopen, hopen, by rw [hlastFlags]; exact hlies.onGround,
      by rw [hlastEvents]; exact hlies.waits⟩
  exact hlast'.postUpdateImpl hstatus hground

theorem Lies.call {op : Call} (hnot : ¬ ServesEvents teamId bg (env, op))
    (hground : (bg.call teamId env op).flagState flag = .onGround) :
    Waits (bg.call teamId env op).bgEvents flag updates 0 := by
  cases op with
  | addPlayer | addVisitor => exact hlies.waits
  | removePlayerAtLeave player =>
    have hdropped : Waits (bg.EventPlayerDroppedFlag teamId env player).bgEvents flag
        updates 0 := (hlies.droppedFlag player).waits
    change Waits ((warsongGulch teamId env).RemovePlayerAtLeave player bg).bgEvents flag updates 0
    unfold BattlegroundClass.RemovePlayerAtLeave
    split
    case h_1 team hteam =>
      change Waits ((bg.modify (Battleground.removeParticipant player team)).RemovePlayer
        teamId env player).bgEvents flag updates 0
      rw [RemovePlayer_eq, EventPlayerDroppedFlag_modify _ _ rfl]
      exact hdropped
    case h_2 =>
      change Waits (bg.RemovePlayer teamId env player).bgEvents flag updates 0
      rw [RemovePlayer_eq]
      exact hdropped
  | clickedOnFlag player object => exact hlies.clickedOnFlag player object hground
  | droppedFlag player => exact (hlies.droppedFlag player).waits
  | killPlayer player =>
    change Waits (bg.HandleKillPlayer teamId env player).bgEvents flag updates 0
    unfold HandleKillPlayer
    split
    · exact hlies.waits
    · exact (hlies.droppedFlag player).waits
  | areaTrigger player trigger =>
    change Waits (bg.HandleAreaTrigger teamId env player trigger).bgEvents flag updates 0
    rw [hlies.HandleAreaTrigger_eq]
    exact hlies.waits
  | update diff => exact hlies.update_of_not_runs fun hruns => hnot ⟨diff, rfl, hruns⟩

omit hlies in
/-- A run in which a match is in progress and a flag stays on the ground, with the
number of updates in it that serve events. -/
inductive Lying (teamId : ℕ → Team) (flag : Team) (bg : BattlegroundWS) :
    ℕ → BattlegroundWS → Prop
  | start : bg.status = .inProgress → bg.flagState flag = .onGround → Lying teamId flag bg 0 bg
  | quiet {served : ℕ} {before after : BattlegroundWS} {op : WSEnv × Call} :
      Lying teamId flag bg served before → Step teamId before op after →
        ¬ ServesEvents teamId before op → after.status = .inProgress →
          after.flagState flag = .onGround → Lying teamId flag bg served after
  | serve {served : ℕ} {before after : BattlegroundWS} {op : WSEnv × Call} :
      Lying teamId flag bg served before → Step teamId before op after →
        ServesEvents teamId before op → after.status = .inProgress →
          after.flagState flag = .onGround → Lying teamId flag bg (served + 1) after

omit hlies in
theorem ReachableWS.step {before after : BattlegroundWS} {op : WSEnv × Call}
    (hbefore : ReachableWS teamId before) (hstep : Step teamId before op after) :
    ReachableWS teamId after :=
  Reachability.Reachable.step hbefore hstep

omit hlies in
theorem ReachableWS.lies (hreach : ReachableWS teamId bg) (hstatus : bg.status = .inProgress)
    (hground : bg.flagState flag = .onGround) (hwaits : Waits bg.bgEvents flag updates 0) :
    Lies teamId 0 flag updates 0 bg :=
  ⟨hreach.consistent, hreach.running.agenda hstatus, hstatus, hground, hwaits⟩

omit hlies in
theorem Lying.waits (hreach : ReachableWS teamId bg) {served : ℕ} {after : BattlegroundWS}
    (hlying : Lying teamId flag bg served after) :
    ReachableWS teamId after ∧
      ∃ left, served + left = RETURN_UPDATES ∧ Lies teamId 0 flag left 0 after := by
  induction hlying with
  | start hstatus hground =>
    have hcons := hreach.consistent
    have hwaits := (hreach.running.agenda hstatus).waits (hcons.captures_le hstatus)
      (hcons.onGround hstatus flag hground (dropFlagEvent_pos flag).ne')
    exact ⟨hreach, RETURN_UPDATES, Nat.zero_add _, hreach.lies hstatus hground hwaits⟩
  | quiet _ hstep hnot hstatus hground ih =>
    obtain ⟨hbefore, left, hleft, hlies⟩ := ih
    have hafter := hbefore.step hstep
    obtain ⟨-, rfl⟩ := hstep
    exact ⟨hafter, left, hleft, hafter.lies hstatus hground (hlies.call hnot hground)⟩
  | serve _ hstep hserves hstatus hground ih =>
    obtain ⟨hbefore, left, hleft, hlies⟩ := ih
    have hafter := hbefore.step hstep
    obtain ⟨-, rfl⟩ := hstep
    rename_i op _
    obtain ⟨env, op⟩ := op
    obtain ⟨diff, rfl, hruns⟩ := hserves
    obtain ⟨fewer, rfl, hwaits⟩ := hlies.update_of_runs hruns hstatus hground
    exact ⟨hafter, fewer, by omega, hafter.lies hstatus hground hwaits⟩

end AzerothCore.Battlegrounds.Zones.BattlegroundWS

/-! ## Matches of Warsong Gulch -/

namespace AzerothCore.Battlegrounds.Zones.BattlegroundWS

variable {teamId : ℕ → Team} {bg : BattlegroundWS}

theorem Consistent.keeper_other_ne {due player : ℕ} {flag : Team}
    (hbg : Consistent teamId due bg) (hkeeper : bg.flagKeepers flag = some player) :
    bg.flagKeepers flag.other ≠ some player := by
  intro hother
  have hflag := (hbg.carrier flag player hkeeper).1
  have hboth := (hbg.carrier flag.other player hother).1
  rw [hflag, Team.other_other] at hboth
  exact Team.other_ne flag hboth

/-- While the match is in progress a flag is carried exactly when it has a carrier, a
player of the other team inside the battleground who carries no other flag; a flag
on the ground returns within a bounded number of updates that serve events; and both
flags are kept only while neither is on its base. Each capture is made with the
capturer's flag on its base and adds a point, up to three. -/
theorem flags_of_reachable (hreach : ReachableWS teamId bg) : (bg.status = .inProgress →
      (∀ flag, bg.flagState flag = .onPlayer ↔ bg.flagKeepers flag ≠ none) ∧
      (∀ flag player, bg.flagKeepers flag = some player → teamId player = flag.other ∧
        bg.Inside player ∧ bg.flagKeepers flag.other ≠ some player) ∧
      (∀ flag, bg.flagState flag = .onGround → 0 < bg.bgEvents.pending (dropFlagEvent flag) ∧
        ∀ served after, Lying teamId flag bg served after → served ≤ RETURN_UPDATES) ∧
      (0 < bg.bgEvents.pending BG_WS_EVENT_BOTH_FLAGS_KEPT10 ∨
        0 < bg.bgEvents.pending BG_WS_EVENT_BOTH_FLAGS_KEPT15 →
          ∀ flag, bg.flagState flag ≠ .onBase)) ∧
      (∀ capture ∈ bg.captures, capture.2 = .onBase) ∧
      ∀ team, bg.teamScores team = bg.captures.countP (fun capture => capture.1 = team) ∧
        bg.teamScores team ≤ BG_WS_MAX_TEAM_SCORE := by
  have hbg := hreach.consistent
  refine ⟨fun hstatus => ⟨hbg.onPlayer hstatus, ?carrier, ?ground, ?kept⟩, hbg.captured,
    fun team => ⟨hbg.points team, hbg.limit team⟩⟩
  case carrier =>
    intro flag player hkeeper
    obtain ⟨hteam, hinside⟩ := hbg.carrier flag player hkeeper
    exact ⟨hteam, hinside, hbg.keeper_other_ne hkeeper⟩
  case ground =>
    intro flag hground
    refine ⟨hbg.onGround hstatus flag hground (dropFlagEvent_pos flag).ne', ?_⟩
    intro served after hlying
    obtain ⟨-, left, hleft, -⟩ := hlying.waits hreach
    exact Nat.le.intro hleft
  case kept =>
    intro hkept flag hbase
    obtain ⟨hkept10, hkept15⟩ := hbg.kept (.inl hstatus) flag hbase
    rcases hkept with hpending | hpending
    · exact hpending.ne' hkept10
    · exact hpending.ne' hkept15

theorem ReachableWS.call (hreach : ReachableWS teamId bg) (env : WSEnv) {op : Call}
    (hcaller : ∀ player ∈ op.caller?, bg.Inside player) :
    ReachableWS teamId (bg.call teamId env op) :=
  hreach.step (show Step teamId bg (env, op) _ from ⟨hcaller, rfl⟩)

theorem ReachableWS.updates (hreach : ReachableWS teamId bg) (env : WSEnv) (diff count : ℕ) :
    ReachableWS teamId ((fun bg => bg.call teamId env (.update diff))^[count] bg) := by
  induction count with
  | zero => exact hreach
  | succ count ih =>
    rw [Function.iterate_succ_apply']
    exact ih.call env nofun

namespace Visited

def teams (player : ℕ) : Team := if player = 1 then .alliance else .horde

def env : WSEnv where
  prematureFinishTime := 0
  isTesting := false
  minPlayersPerTeam := 5
  mapCreated := true
  isOnMap _ := true
  isAlive _ := true
  inAreaTrigger _ _ := false
  isWithinDist := true
  flagAuraInterrupted := false
  droppedFlag := 900
  setup := true
  flagObjects
    | .alliance => 101
    | .horde => 102

def created : BattlegroundWS where
  toBattleground := Battleground.created
  bgEvents := { time := 0, phase := 0, eventMap := Multimap.empty, lastEvent := 0 }
  flagKeepers _ := none
  droppedFlagGUID _ := none
  flagState _ := .onBase
  lastFlagCaptureTeam := none
  honorWinKills := 1
  honorEndKills := 4
  flagObject _ := 0
  captures := []

def opened : BattlegroundWS :=
  (fun bg => bg.call teams env (.update 1000))^[121]
    (created.call teams env (.addPlayer 1 .alliance))

def clicked : BattlegroundWS :=
  (opened.call teams env (.addVisitor 2)).call teams env (.clickedOnFlag 2 ⟨101, 179830⟩)

theorem created_created : Created created where
  status := rfl
  players := rfl
  visitors := rfl
  teamScores _ := rfl
  honor := rfl
  bgEvents := ⟨created.bgEvents, rfl⟩
  flagKeepers _ := rfl
  flagState _ := rfl
  captures := rfl

theorem reachable_clicked : ReachableWS teams clicked := by
  have hcreated : ReachableWS teams created := .start created_created
  have hjoined : ReachableWS teams (created.call teams env (.addPlayer 1 .alliance)) :=
    hcreated.call env nofun
  have hopened : ReachableWS teams opened := hjoined.updates env 1000 121
  have hvisited : ReachableWS teams (opened.call teams env (.addVisitor 2)) :=
    hopened.call env nofun
  refine hvisited.call env fun player hplayer => ?_
  cases hplayer
  exact .inr List.mem_cons_self

theorem clicked_keeper : clicked.status = .inProgress ∧
    clicked.flagKeepers .alliance = some 2 ∧ 2 ∉ clicked.players := by
  decide +kernel

/-- The game master carries the flag inside the battleground. -/
theorem flags_clicked : clicked.flagKeepers .alliance = some 2 ∧ clicked.Inside 2 :=
  ⟨clicked_keeper.2.1, ((flags_of_reachable reachable_clicked).1 clicked_keeper.1).2.1
    .alliance 2 clicked_keeper.2.1 |>.2.1⟩

end Visited

/-- A match in progress ends by the clock: the event that ends it is pending once and for its
time, and as few events are served before it, the clock is at most 15 seconds past it. -/
theorem end_is_pending (hreach : ReachableWS teamId bg) (hstatus : bg.status = .inProgress) :
    (NO_TIME_LEFT_TIME, BG_WS_EVENT_NO_TIME_LEFT) ∈ bg.bgEvents.eventMap.entries ∧
    bg.bgEvents.pending BG_WS_EVENT_NO_TIME_LEFT = 1 ∧
    bg.bgEvents.eventMap.entries.length ≤ 11 ∧
    bg.bgEvents.time ≤ NO_TIME_LEFT_TIME + 15000 := by
  have hagenda := hreach.running.agenda hstatus
  have hlength := hagenda.length_le.trans
    (Nat.add_le_add_left (hreach.consistent.captures_le hstatus) 7)
  obtain ⟨_, ⟨front, back, hsplit, -⟩, -⟩ := hagenda.ending
  have hmem : (NO_TIME_LEFT_TIME, BG_WS_EVENT_NO_TIME_LEFT) ∈ bg.bgEvents.eventMap.entries := by
    rw [hsplit]
    exact List.mem_append_right _ List.mem_cons_self
  refine ⟨hmem, Nat.le_antisymm (hagenda.single _ (by decide) (by decide)) ?_, hlength,
    hagenda.time_le⟩
  exact List.countP_pos_iff.mpr ⟨_, hmem, decide_eq_true rfl⟩

theorem end_is_pending_clicked : Visited.clicked.bgEvents.pending BG_WS_EVENT_NO_TIME_LEFT = 1 :=
  (end_is_pending Visited.reachable_clicked Visited.clicked_keeper.1).2.1

/-- A game master who came in by command carries a flag without taking part. -/
theorem carrier_not_participant :
    ∃ teamId bg flag player, ReachableWS teamId bg ∧ bg.status = .inProgress ∧
      bg.flagKeepers flag = some player ∧ player ∉ bg.players :=
  ⟨Visited.teams, Visited.clicked, .alliance, 2, Visited.reachable_clicked,
    Visited.clicked_keeper.1, Visited.clicked_keeper.2.1, Visited.clicked_keeper.2.2⟩

end AzerothCore.Battlegrounds.Zones.BattlegroundWS
