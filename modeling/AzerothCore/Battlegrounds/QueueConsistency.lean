import AzerothCore.Battlegrounds.BattlegroundQueue

/-!
# The lists and the map of a battleground queue agree with its groups

`Consistent` ties the three parts of a queue together: the records, the lists they
stand in and the map from the players. A write that keeps the place of a group, and
the move of a group to another list, keep it; the calls are then made of these.
-/

namespace AzerothCore.Battlegrounds
open List Option Function Nat

def GroupQueueInfo.place (info : GroupQueueInfo) : BattlegroundBracketId × ℕ :=
  (info.BracketId, info.GroupType)

structure GroupQueueInfo.Sided (info : GroupQueueInfo) : Prop where
  type : info.GroupType < BG_QUEUE_CFBG
  neutral : info.teamId ≠ .TEAM_NEUTRAL
  side : info.GroupType % 2 = 1 ↔ info.teamId = .TEAM_HORDE

variable {info : GroupQueueInfo}

theorem GroupQueueInfo.Sided.of_fields {info' : GroupQueueInfo} (hsided : info.Sided)
    (htype : info'.GroupType = info.GroupType) (hteam : info'.teamId = info.teamId) :
    info'.Sided where
  type := htype ▸ hsided.type
  neutral := hteam ▸ hsided.neutral
  side := by rw [htype, hteam]; exact hsided.side

theorem GroupQueueInfo.sided_of_index {base : ℕ}
    (hbase : base = BG_QUEUE_PREMADE_ALLIANCE ∨ base = BG_QUEUE_NORMAL_ALLIANCE)
    (hneutral : info.teamId ≠ .TEAM_NEUTRAL) (htype : info.GroupType = base + info.teamId.index) :
    info.Sided := by
  constructor
  · cases hteam : info.teamId <;> rcases hbase with rfl | rfl <;>
      simp_all [TeamId.index, BG_QUEUE_PREMADE_ALLIANCE, BG_QUEUE_NORMAL_ALLIANCE, BG_QUEUE_CFBG]
  · exact hneutral
  · cases hteam : info.teamId <;> rcases hbase with rfl | rfl <;>
      simp_all [TeamId.index, BG_QUEUE_PREMADE_ALLIANCE, BG_QUEUE_NORMAL_ALLIANCE]

theorem GroupQueueInfo.Sided.teamId_eq (hsided : info.Sided) {base : ℕ} {team : TeamId}
    (hbase : base = BG_QUEUE_PREMADE_ALLIANCE ∨ base = BG_QUEUE_NORMAL_ALLIANCE)
    (hteam : team ≠ .TEAM_NEUTRAL) (htype : info.GroupType = base + team.index) :
    info.teamId = team := by
  have hside := hsided.side
  have hneutral := hsided.neutral
  rcases hbase with rfl | rfl <;> cases team <;> cases hinfo : info.teamId <;>
    simp_all [TeamId.index, BG_QUEUE_PREMADE_ALLIANCE, BG_QUEUE_NORMAL_ALLIANCE]

namespace BattlegroundQueue

/-- Every group that is allocated stands in its own list, once, and in no other; no other
pointer stands in a list; the players of the groups are the players that are queued. -/
structure Consistent (queue : BattlegroundQueue) : Prop where
  lists : ∀ ginfo bracket type, (queue.m_QueuedGroups bracket type).count ginfo =
    if (queue.groups ginfo).map GroupQueueInfo.place = some (bracket, type) then 1 else 0
  sided : ∀ ginfo info, queue.groups ginfo = some info → info.Sided
  players : ∀ ginfo info, queue.groups ginfo = some info → info.Players.Nonempty
  queued : ∀ guid ginfo, queue.m_QueuedPlayers guid = some ginfo ↔
    ∃ info, queue.groups ginfo = some info ∧ guid ∈ info.Players

variable {queue : BattlegroundQueue}

variable {ginfo groupInfo guid : ℕ} {after : BattlegroundQueue}

theorem info_eq (hinfo : queue.groups ginfo = some info) : queue.info ginfo = info := by
  rw [BattlegroundQueue.info, hinfo, getD_some]

namespace Consistent

variable {bracket : BattlegroundBracketId}

section

variable (hcons : queue.Consistent)
include hcons

theorem mem_iff {type : ℕ} : ginfo ∈ queue.m_QueuedGroups bracket type ↔
      ∃ info, queue.groups ginfo = some info ∧ info.place = (bracket, type) := by
  rw [← count_pos_iff, hcons.lists, ← map_eq_some_iff]
  split <;> simp_all

theorem nodup (bracket : BattlegroundBracketId) (type : ℕ) :
    (queue.m_QueuedGroups bracket type).Nodup := by
  rw [nodup_iff_count_le_one]
  intro ginfo
  rw [hcons.lists]
  split <;> omega

theorem of_fields {queue' : BattlegroundQueue}
    (hgroups : queue'.groups = queue.groups)
    (hplayers : queue'.m_QueuedPlayers = queue.m_QueuedPlayers)
    (hlists : queue'.m_QueuedGroups = queue.m_QueuedGroups) : queue'.Consistent where
  lists := by rw [hgroups, hlists]; exact hcons.lists
  sided := by rw [hgroups]; exact hcons.sided
  players := by rw [hgroups]; exact hcons.players
  queued := by rw [hgroups, hplayers]; exact hcons.queued

theorem setPool (team : TeamId) (pool : SelectionPool) : (queue.setPool team pool).Consistent :=
  hcons.of_fields rfl rfl rfl

theorem initPools : queue.initPools.Consistent := (hcons.setPool _ _).setPool _ _

theorem modify (ginfo : ℕ) (f : GroupQueueInfo → GroupQueueInfo)
    (hplace : ∀ info, queue.groups ginfo = some info → (f info).place = info.place)
    (hplayers : ∀ info, queue.groups ginfo = some info → (f info).Players = info.Players)
    (hsided : ∀ info, queue.groups ginfo = some info → (f info).Sided) :
    (queue.modify ginfo f).Consistent := by
  have hlookup : ∀ other info, (queue.modify ginfo f).groups other = some info ↔
      ∃ old, queue.groups other = some old ∧ info = if other = ginfo then f old else old := by
    intro other info
    simp only [BattlegroundQueue.modify, update_apply]
    split
    case isTrue heq => subst heq; simp [eq_comm]
    case isFalse => simp
  refine ⟨?_, ?_, ?_, ?_⟩
  · intro other bracket type
    have hmap : ((queue.modify ginfo f).groups other).map GroupQueueInfo.place =
        (queue.groups other).map GroupQueueInfo.place := by
      simp only [BattlegroundQueue.modify, update_apply]
      split
      case isFalse => rfl
      rename_i heq
      subst heq
      cases hother : queue.groups other with
      | none => rfl
      | some info => simp [hplace info hother]
    rw [hmap]
    exact hcons.lists other bracket type
  · intro other info hinfo
    obtain ⟨old, hold, rfl⟩ := (hlookup other info).mp hinfo
    split
    case isTrue heq => subst heq; exact hsided old hold
    case isFalse => exact hcons.sided other old hold
  · intro other info hinfo
    obtain ⟨old, hold, rfl⟩ := (hlookup other info).mp hinfo
    split
    case isTrue heq => subst heq; rw [hplayers old hold]; exact hcons.players other old hold
    case isFalse => exact hcons.players other old hold
  · intro guid other
    have hqueued := hcons.queued guid other
    have hmem : (∃ info, (queue.modify ginfo f).groups other = some info ∧
        guid ∈ info.Players) ↔ ∃ info, queue.groups other = some info ∧ guid ∈ info.Players := by
      constructor
      · rintro ⟨info, hinfo, hguid⟩
        obtain ⟨old, hold, rfl⟩ := (hlookup other info).mp hinfo
        refine ⟨old, hold, ?_⟩
        split at hguid
        case isTrue heq => subst heq; rwa [hplayers old hold] at hguid
        case isFalse => exact hguid
      · rintro ⟨old, hold, hguid⟩
        refine ⟨_, (hlookup other _).mpr ⟨old, hold, rfl⟩, ?_⟩
        split
        case isTrue heq => subst heq; rwa [hplayers old hold]
        case isFalse => exact hguid
    rw [hmem]
    exact hqueued

theorem move {type type' : ℕ} {rest : List ℕ}
    {f : GroupQueueInfo → GroupQueueInfo} (hinfo : queue.groups ginfo = some info)
    (hplace : info.place = (bracket, type)) (hne : type' ≠ type)
    (hrest : rest.Perm ((queue.m_QueuedGroups bracket type).erase ginfo))
    (hplace' : (f info).place = (bracket, type')) (hplayers : (f info).Players = info.Players)
    (hsided : (f info).Sided) :
    (((queue.modify ginfo f).push_front bracket type' ginfo).setGroups bracket type
      rest).Consistent := by
  have hgroups : (((queue.modify ginfo f).push_front bracket type' ginfo).setGroups bracket type
      rest).groups = Function.update queue.groups ginfo (some (f info)) := by
    simp [BattlegroundQueue.push_front, BattlegroundQueue.setGroups, BattlegroundQueue.modify,
      hinfo]
  refine ⟨?_, ?_, ?_, ?_⟩
  · intro other b t
    rw [hgroups]
    simp only [BattlegroundQueue.push_front, BattlegroundQueue.setGroups,
      BattlegroundQueue.modify, update_apply]
    have hother := hcons.lists other b t
    by_cases heq : other = ginfo
    · subst heq
      rw [hinfo, map_some, hplace] at hother
      rw [if_pos rfl, map_some, hplace']
      by_cases hold : b = bracket ∧ t = type
      · rw [if_pos hold, hrest.count_eq, count_erase_self, ← hold.1, ← hold.2, hother,
          if_pos (by rw [hold.1, hold.2]), if_neg (by simp [hold.2, hne])]
      rw [if_neg hold]
      by_cases hnew : b = bracket ∧ t = type'
      · rw [if_pos hnew, ← hnew.1, ← hnew.2, count_cons_self, hother,
          if_neg (by simpa [eq_comm] using hold), if_pos (by rw [hnew.1, hnew.2])]
      · rw [if_neg hnew, hother, if_neg (by simpa [eq_comm] using hold),
          if_neg (by simpa [eq_comm] using hnew)]
    · rw [if_neg heq, ← hother]
      split
      case isTrue hold =>
        rw [hrest.count_eq, count_erase_of_ne heq, hold.1, hold.2]
      rename_i hold
      split
      case isTrue hnew =>
        rw [count_cons_of_ne (Ne.symm heq), hnew.1, hnew.2]
      case isFalse => rfl
  · intro other info' hother
    rw [hgroups, update_apply] at hother
    split at hother
    · cases hother; exact hsided
    · exact hcons.sided other info' hother
  · intro other info' hother
    rw [hgroups, update_apply] at hother
    split at hother
    · cases hother; rw [hplayers]; exact hcons.players ginfo info hinfo
    · exact hcons.players other info' hother
  · intro guid other
    rw [hgroups, update_apply]
    have hqueued := hcons.queued guid other
    split
    case isFalse => exact hqueued
    rename_i heq
    subst heq
    rw [hinfo] at hqueued
    have hsame : (((queue.modify other f).push_front bracket type' other).setGroups bracket
      type rest).m_QueuedPlayers = queue.m_QueuedPlayers := rfl
    simpa [hplayers, hsame] using hqueued

end

end Consistent

theorem consistent_empty : empty.Consistent where
  lists _ _ _ := rfl
  sided _ _ hinfo := by cases hinfo
  players _ _ hinfo := by cases hinfo
  queued guid ginfo := by simp [empty]

theorem addPlayers_spec {guids : List ℕ} {m_QueuedPlayers joined : ℕ → Option ℕ}
    {players after : Finset ℕ}
    (hadd : addPlayers ginfo guids (m_QueuedPlayers, players) = some (joined, after)) :
    (∀ guid ∈ guids, m_QueuedPlayers guid = none) ∧
      (∀ guid, joined guid = if guid ∈ guids then some ginfo else m_QueuedPlayers guid) ∧
      ∀ guid, guid ∈ after ↔ guid ∈ guids ∨ guid ∈ players := by
  induction guids generalizing m_QueuedPlayers players with
  | nil =>
    cases hadd
    simp
  | cons guid rest ih =>
    rw [addPlayers] at hadd
    split at hadd
    case isFalse => cases hadd
    rename_i hnone
    obtain ⟨hfree, hjoined, hafter⟩ := ih hadd
    refine ⟨?_, ?_, ?_⟩
    · intro other hother
      rcases mem_cons.mp hother with rfl | hrest
      · exact hnone
      have hupdated := hfree other hrest
      by_cases heq : other = guid
      · rw [heq]; exact hnone
      · rwa [update_of_ne heq] at hupdated
    · intro other
      rw [hjoined other, update_apply]
      by_cases heq : other = guid
      · simp [heq]
      · simp [heq]
    · intro other
      rw [hafter other, Finset.mem_insert, mem_cons]
      tauto

theorem AddGroupArgs.sided_ginfo (args : AddGroupArgs) (hpromised : args.Promised) (now : ℕ)
    (players : Finset ℕ) : (args.ginfo now players).Sided := by
  have hindex : args.index = (if !args.isRated && !args.isPremade then BG_QUEUE_NORMAL_ALLIANCE
      else BG_QUEUE_PREMADE_ALLIANCE) + args.teamId.index := by
    have hneutral := hpromised.1
    cases hteam : args.teamId <;> simp_all [AddGroupArgs.index, TeamId.index, PVP_TEAMS_COUNT,
      BG_QUEUE_NORMAL_ALLIANCE, BG_QUEUE_PREMADE_ALLIANCE]
  refine GroupQueueInfo.sided_of_index ?_ hpromised.1 hindex
  split
  · exact .inr rfl
  · exact .inl rfl

theorem consistent_AddGroup {now : ℕ} {args : AddGroupArgs} (hcons : queue.Consistent)
    (hnew : queue.groups ginfo = none) (hpromised : args.Promised)
    (hadd : queue.AddGroup ginfo now args = some after) : after.Consistent := by
  unfold AddGroup at hadd
  split at hadd
  · cases hadd
  rename_i joined players hjoin
  cases hadd
  obtain ⟨hfree, hjoined, hplayers⟩ := addPlayers_spec hjoin
  refine ⟨?_, ?_, ?_, ?_⟩
  · intro other bracket type
    have hother := hcons.lists other bracket type
    simp only [update_apply]
    by_cases heq : other = ginfo
    · subst heq
      rw [hnew, map_none, if_neg (by simp)] at hother
      rw [if_pos rfl, map_some]
      by_cases hplace : bracket = args.bracketId ∧ type = args.index
      · rw [if_pos hplace, count_append, hother, if_pos]
        · simp
        · rw [hplace.1, hplace.2]; rfl
      · rw [if_neg hplace, hother, if_neg]
        simpa [GroupQueueInfo.place, AddGroupArgs.ginfo, eq_comm] using hplace
    · rw [if_neg heq, ← hother]
      split
      · rw [count_append, count_singleton, if_neg (by simpa using Ne.symm heq), Nat.add_zero]
      · rfl
  · intro other info hinfo
    simp only [update_apply] at hinfo
    split at hinfo
    · cases hinfo; exact args.sided_ginfo hpromised now players
    · exact hcons.sided other info hinfo
  · intro other info hinfo
    simp only [update_apply] at hinfo
    split at hinfo
    case isFalse => exact hcons.players other info hinfo
    cases hinfo
    exact ⟨args.leader, (hplayers args.leader).mpr (.inl hpromised.2)⟩
  · intro guid other
    simp only [hjoined guid, update_apply]
    have hqueued := hcons.queued guid other
    by_cases hmem : guid ∈ args.members
    · rw [if_pos hmem]
      by_cases heq : other = ginfo
      · subst heq
        simp [AddGroupArgs.ginfo, hplayers guid, hmem]
      rw [hfree guid hmem] at hqueued
      rw [if_neg heq, ← hqueued]
      simp [Ne.symm heq]
    · rw [if_neg hmem]
      by_cases heq : other = ginfo
      · subst heq
        rw [hqueued, hnew]
        simp [AddGroupArgs.ginfo, hplayers guid, hmem]
      · rw [if_neg heq]
        exact hqueued

theorem groups_dropPlayer (hinfo : queue.groups groupInfo = some info) (other : ℕ) :
    (queue.dropPlayer groupInfo guid).groups other =
      if other = groupInfo then some { info with Players := info.Players.erase guid }
      else queue.groups other := by
  simp only [dropPlayer, modify, update_apply, hinfo, map_some]

section

variable (hcons : queue.Consistent) (hinfo : queue.groups groupInfo = some info) (hguid : guid ∈ info.Players)
include hcons hinfo hguid

theorem queued_dropPlayer (other ginfo : ℕ) :
    (queue.dropPlayer groupInfo guid).m_QueuedPlayers other = some ginfo ↔
      ∃ info', (queue.dropPlayer groupInfo guid).groups ginfo = some info' ∧
        other ∈ info'.Players := by
  have hqueued := hcons.queued other ginfo
  have hown := (hcons.queued guid groupInfo).mpr ⟨info, hinfo, hguid⟩
  simp only [groups_dropPlayer hinfo]
  simp only [dropPlayer, update_apply]
  by_cases hsame : ginfo = groupInfo
  · subst hsame
    rw [hinfo] at hqueued
    by_cases heq : other = guid
    · simp [heq]
    · simpa [heq] using hqueued
  · rw [if_neg hsame]
    by_cases heq : other = guid
    · subst heq
      rw [if_pos rfl, ← hqueued, hown]
      simp [Ne.symm hsame]
    · rw [if_neg heq]
      exact hqueued

theorem consistent_dropPlayer (hleft : (info.Players.erase guid).Nonempty) :
    (queue.dropPlayer groupInfo guid).Consistent := by
  refine ⟨?_, ?_, ?_, queued_dropPlayer hcons hinfo hguid⟩
  · intro other bracket type
    have hother := hcons.lists other bracket type
    rw [groups_dropPlayer hinfo]
    split
    case isFalse => exact hother
    rename_i heq
    subst heq
    rw [hinfo] at hother
    exact hother
  · intro other info' hinfo'
    rw [groups_dropPlayer hinfo] at hinfo'
    split at hinfo'
    · cases hinfo'; exact (hcons.sided groupInfo info hinfo).of_fields rfl rfl
    · exact hcons.sided other info' hinfo'
  · intro other info' hinfo'
    rw [groups_dropPlayer hinfo] at hinfo'
    split at hinfo'
    · cases hinfo'; exact hleft
    · exact hcons.players other info' hinfo'

theorem consistent_deleteGroup (hleft : ¬ (info.Players.erase guid).Nonempty) :
    ((queue.dropPlayer groupInfo guid).deleteGroup info.BracketId info.GroupType
      groupInfo).Consistent := by
  have hgroups : ∀ other, ((queue.dropPlayer groupInfo guid).deleteGroup info.BracketId
      info.GroupType groupInfo).groups other =
        if other = groupInfo then none else queue.groups other := by
    intro other
    simp only [deleteGroup, update_apply, groups_dropPlayer hinfo]
    split <;> rfl
  refine ⟨?_, ?_, ?_, ?_⟩
  · intro other bracket type
    have hother := hcons.lists other bracket type
    rw [hgroups]
    simp only [deleteGroup, setGroups]
    have hlist : ∀ b t, (queue.dropPlayer groupInfo guid).m_QueuedGroups b t =
        queue.m_QueuedGroups b t := fun _ _ => rfl
    simp only [hlist]
    by_cases heq : other = groupInfo
    · subst heq
      rw [hinfo] at hother
      by_cases hplace : bracket = info.BracketId ∧ type = info.GroupType
      · rw [if_pos hplace, count_erase_self, ← hplace.1, ← hplace.2, hother,
          if_pos (by rw [hplace.1, hplace.2]; rfl)]
        simp
      · rw [if_neg hplace, hother, if_neg]
        · simp
        · simpa [GroupQueueInfo.place, eq_comm] using hplace
    · rw [if_neg heq, ← hother]
      split
      case isTrue hplace => rw [count_erase_of_ne heq, hplace.1, hplace.2]
      case isFalse => rfl
  · intro other info' hinfo'
    rw [hgroups] at hinfo'
    split at hinfo'
    · cases hinfo'
    · exact hcons.sided other info' hinfo'
  · intro other info' hinfo'
    rw [hgroups] at hinfo'
    split at hinfo'
    · cases hinfo'
    · exact hcons.players other info' hinfo'
  · intro other ginfo
    have hqueued := queued_dropPlayer hcons hinfo hguid other ginfo
    have hmap : ((queue.dropPlayer groupInfo guid).deleteGroup info.BracketId info.GroupType
        groupInfo).m_QueuedPlayers = (queue.dropPlayer groupInfo guid).m_QueuedPlayers := rfl
    rw [hgroups, hmap, hqueued, groups_dropPlayer hinfo]
    split
    · rw [Finset.not_nonempty_iff_eq_empty] at hleft
      simp [hleft]
    · rfl

end

theorem removePlayer_queued {calls : ℕ} (hcons : queue.Consistent)
    (hinfo : queue.groups groupInfo = some info) (hguid : guid ∈ info.Players)
    (hcalls : info.Players.card < calls) :
    ∃ after, removePlayer calls queue guid = some (after, .removed) ∧ after.Consistent := by
  induction calls generalizing queue guid info with
  | zero => omega
  | succ calls ih =>
    have hqueued := (hcons.queued guid groupInfo).mpr ⟨info, hinfo, hguid⟩
    have hlisted : groupInfo ∈ queue.m_QueuedGroups info.BracketId info.GroupType :=
      hcons.mem_iff.mpr ⟨info, hinfo, rfl⟩
    rw [removePlayer]
    simp only [hqueued, info_eq hinfo]
    rw [if_pos hlisted, if_pos hguid]
    by_cases hleft : (info.Players.erase guid).Nonempty
    · rw [dif_pos hleft]
      have hdropped := consistent_dropPlayer hcons hinfo hguid hleft
      split
      · refine ih hdropped ((groups_dropPlayer hinfo groupInfo).trans (if_pos rfl))
          (Finset.min'_mem _ hleft) ?_
        have hcard := Finset.card_erase_lt_of_mem hguid
        exact Nat.lt_of_lt_of_le hcard (le_of_lt_succ hcalls)
      · exact ⟨_, rfl, hdropped⟩
    · rw [dif_neg hleft]
      exact ⟨_, rfl, consistent_deleteGroup hcons hinfo hguid hleft⟩

theorem RemovePlayer_queued (hcons : queue.Consistent)
    (hqueued : queue.m_QueuedPlayers guid = some groupInfo) :
    ∃ after, queue.RemovePlayer guid = some (after, .removed) ∧ after.Consistent := by
  obtain ⟨info, hinfo, hguid⟩ := (hcons.queued guid groupInfo).mp hqueued
  rw [RemovePlayer, hqueued]
  exact removePlayer_queued hcons hinfo hguid
    (by rw [info_eq hinfo]; exact lt_succ_self _)

theorem consistent_RemovePlayer {exit : RemoveExit} (hcons : queue.Consistent)
    (hremove : queue.RemovePlayer guid = some (after, exit)) : after.Consistent := by
  cases hqueued : queue.m_QueuedPlayers guid with
  | none =>
    simp only [RemovePlayer, removePlayer, hqueued] at hremove
    cases hremove
    exact hcons
  | some groupInfo =>
    obtain ⟨after', hremove', hafter⟩ := RemovePlayer_queued hcons hqueued
    rw [hremove] at hremove'
    cases hremove'
    exact hafter

end BattlegroundQueue

end AzerothCore.Battlegrounds

/-! ## Every run keeps a battleground queue consistent -/

namespace AzerothCore.Battlegrounds

open Option Function List
open Reachability

namespace BattlegroundQueue

variable {queue after : BattlegroundQueue}

/-! ## `CheckPremadeMatch` -/

theorem consistent_premadeToNormal (hcons : queue.Consistent) (bracket_id : BattlegroundBracketId)
    (MinPlayersPerTeam time_before : ℕ) {team : TeamId} (hteam : team ≠ .TEAM_NEUTRAL) :
    (premadeToNormal bracket_id MinPlayersPerTeam time_before queue team).Consistent := by
  unfold premadeToNormal
  split
  · exact hcons
  rename_i ginfo rest hlist
  split
  case isFalse => exact hcons
  obtain ⟨info, hinfo, hplace⟩ := hcons.mem_iff.mp
    (hlist ▸ mem_cons_self : ginfo ∈ queue.m_QueuedGroups bracket_id
      (BG_QUEUE_PREMADE_ALLIANCE + team.index))
  obtain ⟨hbracket, htype⟩ := Prod.mk.inj hplace
  have hown := (hcons.sided ginfo info hinfo).teamId_eq (.inl rfl) hteam htype
  refine hcons.move hinfo hplace ?_ ?_ ?_ rfl ?_
  · simp only [BG_QUEUE_PREMADE_ALLIANCE, BG_QUEUE_NORMAL_ALLIANCE]
    omega
  · rw [hlist, erase_cons_head]
  · rw [GroupQueueInfo.place, hbracket]
  · exact GroupQueueInfo.sided_of_index (.inr rfl) (hown ▸ hteam) (by rw [hown])

theorem consistent_CheckPremadeMatch (hcons : queue.Consistent) (env : QueueEnv)
    (bracket_id : BattlegroundBracketId) (MinPlayersPerTeam MaxPlayersPerTeam : ℕ) :
    (queue.CheckPremadeMatch env bracket_id MinPlayersPerTeam MaxPlayersPerTeam).1.Consistent := by
  unfold CheckPremadeMatch
  split
  · exact (hcons.setPool _ _).setPool _ _
  · exact consistent_premadeToNormal
      (consistent_premadeToNormal hcons bracket_id _ _ (by decide)) bracket_id _ _ (by decide)

/-! ## `CheckNormalMatch` -/

theorem consistent_CheckNormalMatch {env : QueueEnv} {bgTemplate : BattlegroundTemplate}
    {bracket_id : BattlegroundBracketId} {minPlayers maxPlayers : ℕ} {canStart : Bool}
    (hcons : queue.Consistent)
    (hcheck : queue.CheckNormalMatch env bgTemplate bracket_id minPlayers maxPlayers =
      some (after, canStart)) : after.Consistent := by
  unfold CheckNormalMatch at hcheck
  split at hcheck
  · cases hcheck
  · cases hcheck
    exact (hcons.setPool _ _).setPool _ _

/-! ## `CheckSkirmishForSameFaction` -/

theorem groupsAfter_sublist (ginfo : ℕ) (groups : List ℕ) :
    (groupsAfter ginfo groups).Sublist groups := by
  induction groups with
  | nil => exact List.Sublist.refl _
  | cons other rest ih =>
    rw [groupsAfter]
    split
    · exact sublist_cons_self other rest
    · exact ih.cons other

theorem groupsAfter_eraseAfter (ginfo moved : ℕ) (groups : List ℕ) :
    groupsAfter ginfo (eraseAfter ginfo moved groups) = (groupsAfter ginfo groups).erase moved := by
  induction groups with
  | nil => rfl
  | cons other rest ih =>
    by_cases heq : other = ginfo
    · simp only [eraseAfter, groupsAfter, if_pos heq]
    · simp only [eraseAfter, groupsAfter, if_neg heq]
      exact ih

theorem eraseAfter_eq_erase {ginfo moved : ℕ} {groups : List ℕ} (hnodup : groups.Nodup)
    (hmoved : moved ∈ groupsAfter ginfo groups) :
    eraseAfter ginfo moved groups = groups.erase moved := by
  induction groups with
  | nil => rfl
  | cons other rest ih =>
    obtain ⟨hnot, hrest⟩ := nodup_cons.mp hnodup
    have hmem : moved ∈ rest := by
      rw [groupsAfter] at hmoved
      split at hmoved
      · exact hmoved
      · exact (groupsAfter_sublist ginfo rest).mem hmoved
    have hne : other ≠ moved := fun heq => hnot (heq ▸ hmem)
    rw [erase_cons_tail (by simpa using hne), eraseAfter]
    split
    · rfl
    rename_i hother
    rw [groupsAfter, if_neg hother] at hmoved
    rw [ih hrest hmoved]

variable {minPlayersPerTeam : ℕ} {bg_template : BattlegroundTemplate}

section Skirmish

variable {bracket_id : BattlegroundBracketId} {teamIndex otherTeam : TeamId} {ginfo : ℕ}

abbrev sideGroups (queue : BattlegroundQueue) (bracket_id : BattlegroundBracketId)
    (team : TeamId) : List ℕ :=
  queue.m_QueuedGroups bracket_id (BG_QUEUE_NORMAL_ALLIANCE + team.index)

theorem sideGroups_changeTeam (hne : teamIndex.index ≠ otherTeam.index) (moved : ℕ) :
    sideGroups (changeTeam bracket_id teamIndex otherTeam ginfo queue moved) bracket_id
      teamIndex = eraseAfter ginfo moved (sideGroups queue bracket_id teamIndex) := by
  simp [sideGroups, changeTeam, push_front, setGroups, modify, hne]

theorem consistent_changeTeam (hcons : queue.Consistent) {moved : ℕ}
    (hne : teamIndex.index ≠ otherTeam.index) (hother : otherTeam ≠ .TEAM_NEUTRAL)
    (hmoved : moved ∈ groupsAfter ginfo (sideGroups queue bracket_id teamIndex)) :
    (changeTeam bracket_id teamIndex otherTeam ginfo queue moved).Consistent := by
  have hmem := (groupsAfter_sublist ginfo _).mem hmoved
  obtain ⟨info, hinfo, hplace⟩ := hcons.mem_iff.mp hmem
  have herase := eraseAfter_eq_erase (hcons.nodup bracket_id _) hmoved
  refine hcons.move hinfo hplace (by omega) ?_ ?_ rfl ?_
  · have hlist : ∀ f : GroupQueueInfo → GroupQueueInfo, ((queue.modify moved f).push_front
        bracket_id (BG_QUEUE_NORMAL_ALLIANCE + otherTeam.index) moved).m_QueuedGroups bracket_id
          (BG_QUEUE_NORMAL_ALLIANCE + teamIndex.index) =
            sideGroups queue bracket_id teamIndex := by
      simp [sideGroups, push_front, setGroups, modify, hne]
    rw [hlist, herase]
  · rw [GroupQueueInfo.place, (Prod.mk.inj hplace).1]
  · exact GroupQueueInfo.sided_of_index (.inr rfl) hother rfl

theorem consistent_foldl_changeTeam {groups : List ℕ} (hcons : queue.Consistent)
    (hne : teamIndex.index ≠ otherTeam.index) (hother : otherTeam ≠ .TEAM_NEUTRAL)
    (hnodup : groups.Nodup)
    (hgroups : ∀ moved ∈ groups, moved ∈ groupsAfter ginfo
      (sideGroups queue bracket_id teamIndex)) :
    (groups.foldl (changeTeam bracket_id teamIndex otherTeam ginfo) queue).Consistent := by
  induction groups generalizing queue with
  | nil => exact hcons
  | cons moved rest ih =>
    obtain ⟨hnot, hrest⟩ := nodup_cons.mp hnodup
    refine ih (consistent_changeTeam hcons hne hother (hgroups moved mem_cons_self))
      hrest ?_
    intro other hmem
    rw [sideGroups_changeTeam hne, groupsAfter_eraseAfter]
    have hdiff : other ≠ moved := fun heq => hnot (heq ▸ hmem)
    exact (mem_erase_of_ne hdiff).mpr (hgroups other (mem_cons_of_mem _ hmem))

theorem consistent_skirmish {found : Bool} (hcons : queue.Consistent)
    (hne : teamIndex.index ≠ otherTeam.index) (hother : otherTeam ≠ .TEAM_NEUTRAL)
    (hcheck : queue.skirmish bracket_id minPlayersPerTeam teamIndex otherTeam =
      some (after, found)) : after.Consistent := by
  have hinit := hcons.setPool otherTeam .Init
  simp only [skirmish] at hcheck
  split at hcheck
  · cases hcheck
  rename_i ginfo _
  split at hcheck
  case isFalse => cases hcheck; exact hinit
  split at hcheck
  · cases hcheck; exact hinit.setPool _ _
  cases hcheck
  obtain ⟨added, hsub, hsel⟩ := SelectionPool.selected_addNotInvited
    (queue.setPool otherTeam .Init).info minPlayersPerTeam
    (groupsAfter ginfo (sideGroups queue bracket_id teamIndex)) .Init
  have hpool : (queue.setPool otherTeam .Init).m_SelectionPools otherTeam = .Init := by
    simp only [setPool, update_self]
  rw [hpool]
  have hadded : added.Nodup := hsub.nodup
    ((groupsAfter_sublist ginfo _).nodup (hcons.nodup bracket_id _))
  refine consistent_foldl_changeTeam (hinit.setPool _ _) hne hother ?_ ?_
  · exact hsel ▸ hadded
  · intro moved hmoved
    have hmem : moved ∈ SelectionPool.Init.SelectedGroups ++ added := by
      rw [← hsel]
      exact hmoved
    exact hsub.mem hmem

end Skirmish

theorem consistent_CheckSkirmishForSameFaction {bracket_id : BattlegroundBracketId} {found : Bool}
    (hcons : queue.Consistent)
    (hcheck : queue.CheckSkirmishForSameFaction bracket_id minPlayersPerTeam =
      some (after, found)) : after.Consistent := by
  unfold CheckSkirmishForSameFaction at hcheck
  split at hcheck
  · cases hcheck
    exact hcons
  split at hcheck
  · exact consistent_skirmish hcons (by decide) (by decide) hcheck
  · exact consistent_skirmish hcons (by decide) (by decide) hcheck

theorem invited_fields (env : QueueEnv) (instanceID : ℕ) {teamId : TeamId}
    (hteam : teamId ≠ .TEAM_NEUTRAL) (info : GroupQueueInfo) :
    (invited env instanceID teamId info).Players = info.Players ∧
      (invited env instanceID teamId info).BracketId = info.BracketId ∧
      (invited env instanceID teamId info).GroupType = info.GroupType ∧
      (invited env instanceID teamId info).teamId = teamId := by
  simp only [invited, if_pos hteam]
  split
  · exact ⟨rfl, rfl, rfl, rfl⟩
  · exact ⟨rfl, rfl, rfl, rfl⟩

theorem consistent_InviteGroupToBG (hcons : queue.Consistent) (env : QueueEnv)
    {ginfo : ℕ} (instanceID : ℕ) {teamId : TeamId}
    (hteam : ∀ info, queue.groups ginfo = some info → info.teamId = teamId) :
    (queue.InviteGroupToBG env ginfo instanceID teamId).Consistent := by
  have hfields : ∀ info, queue.groups ginfo = some info →
      (invited env instanceID teamId info).Players = info.Players ∧
        (invited env instanceID teamId info).BracketId = info.BracketId ∧
        (invited env instanceID teamId info).GroupType = info.GroupType ∧
        (invited env instanceID teamId info).teamId = teamId := fun info hinfo =>
    invited_fields env instanceID (hteam info hinfo ▸ (hcons.sided ginfo info hinfo).neutral) info
  refine hcons.modify ginfo _ ?_ ?_ ?_
  · intro info hinfo
    obtain ⟨_, hbracket, htype, _⟩ := hfields info hinfo
    rw [GroupQueueInfo.place, hbracket, htype, GroupQueueInfo.place]
  · intro info hinfo
    exact (hfields info hinfo).1
  · intro info hinfo
    obtain ⟨_, _, htype, hown⟩ := hfields info hinfo
    exact (hcons.sided ginfo info hinfo).of_fields htype (hown.trans (hteam info hinfo).symm)

theorem consistent_InviteAllGroupsToBg (hcons : queue.Consistent) (env : QueueEnv)
    (instanceID : ℕ) : (queue.InviteAllGroupsToBg env instanceID).Consistent := by
  unfold InviteAllGroupsToBg
  generalize (queue.m_SelectionPools .TEAM_ALLIANCE).SelectedGroups ++
    (queue.m_SelectionPools .TEAM_HORDE).SelectedGroups = selected
  induction selected generalizing queue with
  | nil => exact hcons
  | cons citr rest ih =>
    refine ih (consistent_InviteGroupToBG hcons env instanceID ?_)
    intro info hinfo
    rw [info_eq hinfo]

theorem consistent_fillFreeSlots {env : QueueEnv} {args : UpdateArgs} {bg : Battleground}
    (hcons : queue.Consistent) (hfill : fillFreeSlots env args queue bg = some after) :
    after.Consistent := by
  unfold fillFreeSlots at hfill
  split at hfill
  case isFalse => cases hfill; exact hcons
  split at hfill
  · cases hfill
  rename_i filled hpools
  cases hfill
  refine consistent_InviteAllGroupsToBg ?_ env _
  unfold FillPlayersToBG at hpools
  split at hpools
  · cases hpools
  · cases hpools
    exact (hcons.initPools.setPool _ _).setPool _ _

theorem consistent_foldlM_fillFreeSlots {env : QueueEnv} {args : UpdateArgs}
    {bgQueues : List Battleground} (hcons : queue.Consistent)
    (hfill : bgQueues.foldlM (fillFreeSlots env args) queue = some after) :
    after.Consistent := by
  induction bgQueues generalizing queue with
  | nil => cases hfill; exact hcons
  | cons bg rest ih =>
    obtain ⟨next, hnext, hrest⟩ := bind_eq_some_iff.mp hfill
    exact ih (consistent_fillFreeSlots hcons hnext) hrest

theorem consistent_startPremade (hcons : queue.Consistent) (env : QueueEnv) (args : UpdateArgs)
    (bg_template : BattlegroundTemplate) (MinPlayersPerTeam MaxPlayersPerTeam : ℕ) :
    (queue.startPremade env args bg_template MinPlayersPerTeam
      MaxPlayersPerTeam).1.Consistent := by
  unfold startPremade
  split
  case isFalse => exact hcons
  have hcheck := consistent_CheckPremadeMatch hcons env args.bracket_id MinPlayersPerTeam
    MaxPlayersPerTeam
  split
  case h_1 checked heq => rw [heq] at hcheck; exact hcheck
  rename_i checked heq
  rw [heq] at hcheck
  split
  · exact hcheck
  · exact (consistent_InviteAllGroupsToBg hcheck env _).initPools

theorem consistent_startNormal {env : QueueEnv} {args : UpdateArgs}
    {MinPlayersPerTeam MaxPlayersPerTeam : ℕ} (hcons : queue.Consistent)
    (hstart : queue.startNormal env args bg_template MinPlayersPerTeam MaxPlayersPerTeam =
      some after) : after.Consistent := by
  simp only [startNormal] at hstart
  split at hstart
  · cases hstart
  case h_2 checked heq =>
    cases hstart
    have hchecked := consistent_CheckNormalMatch hcons heq
    split
    · exact hchecked
    · exact consistent_InviteAllGroupsToBg hchecked env _
  rename_i checked heq
  have hchecked := consistent_CheckNormalMatch hcons heq
  split at hstart
  case isFalse => cases hstart; exact hchecked
  split at hstart
  · cases hstart
  case h_2 heq' =>
    cases hstart
    have hsame := consistent_CheckSkirmishForSameFaction hchecked heq'
    split
    · exact hsame
    · exact consistent_InviteAllGroupsToBg hsame env _
  case h_3 heq' =>
    cases hstart
    exact consistent_CheckSkirmishForSameFaction hchecked heq'

section Rated

variable {env : QueueEnv} {args : UpdateArgs}

theorem consistent_setOpponents (hcons : queue.Consistent) (aTeam hTeam : ℕ) :
    (queue.setOpponents aTeam hTeam).Consistent := by
  have hmodify : ∀ {before : BattlegroundQueue} (_ : before.Consistent) (ginfo : ℕ)
      (f : GroupQueueInfo → GroupQueueInfo), (∀ info, (f info).place = info.place ∧
        (f info).Players = info.Players ∧ (f info).teamId = info.teamId) →
      (before.modify ginfo f).Consistent := by
    intro before hbefore ginfo f hf
    refine hbefore.modify ginfo f (fun info _ => (hf info).1) (fun info _ => (hf info).2.1) ?_
    intro info hinfo
    exact (hbefore.sided ginfo info hinfo).of_fields (Prod.mk.inj (hf info).1).2 (hf info).2.2
  refine hmodify (hmodify (hmodify (hmodify hcons _ _ ?_) _ _ ?_) _ _ ?_) _ _ ?_
  all_goals exact fun _ => ⟨rfl, rfl, rfl⟩

theorem findTeams_spec {arenaRating : ℕ} {aTeam hTeam : ℕ × ℕ}
    (hcons : queue.Consistent)
    (hfind : queue.findTeams env args arenaRating = some (aTeam, hTeam)) :
    aTeam.2 ≠ hTeam.2 ∧ aTeam.2 ∈ queue.m_QueuedGroups args.bracket_id aTeam.1 ∧
      hTeam.2 ∈ queue.m_QueuedGroups args.bracket_id hTeam.1 ∧
      (aTeam.1 = BG_QUEUE_PREMADE_ALLIANCE ∧ hTeam.1 = BG_QUEUE_PREMADE_HORDE ∨
        aTeam.1 = hTeam.1 ∧ (aTeam.1 = BG_QUEUE_PREMADE_ALLIANCE ∨
          aTeam.1 = BG_QUEUE_PREMADE_HORDE)) := by
  have hlist : ∀ {type first : ℕ} {teams : (ℕ × ℕ) × (ℕ × ℕ)},
      (type = BG_QUEUE_PREMADE_ALLIANCE ∨ type = BG_QUEUE_PREMADE_HORDE) →
      first ∈ queue.m_QueuedGroups args.bracket_id type →
      queue.opponentInList env args arenaRating type first = some teams →
      teams.1.2 ≠ teams.2.2 ∧ teams.1.2 ∈ queue.m_QueuedGroups args.bracket_id teams.1.1 ∧
        teams.2.2 ∈ queue.m_QueuedGroups args.bracket_id teams.2.1 ∧
        teams.1.1 = teams.2.1 ∧ (teams.1.1 = BG_QUEUE_PREMADE_ALLIANCE ∨
          teams.1.1 = BG_QUEUE_PREMADE_HORDE) := by
    intro type first teams htype hfirst hsearch
    obtain ⟨second, hsecond, rfl⟩ := map_eq_some_iff.mp hsearch
    have hopposes := find?_some hsecond
    have hmem := (dropWhile_sublist _).mem (mem_of_find?_eq_some hsecond)
    refine ⟨?_, hfirst, hmem, rfl, htype⟩
    intro heq
    simp only at heq
    simp [canOppose, heq] at hopposes
  unfold findTeams at hfind
  split at hfind
  · cases hfind
  case h_3 first hfirst _ =>
    obtain ⟨hne, hmem₁, hmem₂, hsame⟩ :=
      hlist (.inl rfl) (mem_of_find?_eq_some hfirst) hfind
    exact ⟨hne, hmem₁, hmem₂, .inr hsame⟩
  case h_4 first _ hfirst =>
    obtain ⟨hne, hmem₁, hmem₂, hsame⟩ :=
      hlist (.inr rfl) (mem_of_find?_eq_some hfirst) hfind
    exact ⟨hne, hmem₁, hmem₂, .inr hsame⟩
  rename_i first second hfirst hsecond
  cases hfind
  have hmem₁ := mem_of_find?_eq_some hfirst
  have hmem₂ := mem_of_find?_eq_some hsecond
  refine ⟨?_, hmem₁, hmem₂, .inl ⟨rfl, rfl⟩⟩
  intro heq
  obtain ⟨info₁, hinfo₁, hplace₁⟩ := hcons.mem_iff.mp hmem₁
  obtain ⟨info₂, hinfo₂, hplace₂⟩ := hcons.mem_iff.mp hmem₂
  simp only at heq
  rw [heq, hinfo₂] at hinfo₁
  cases hinfo₁
  rw [hplace₁] at hplace₂
  exact absurd (Prod.mk.inj hplace₂).2 (by decide)

theorem modify_modify (ginfo : ℕ) (f g : GroupQueueInfo → GroupQueueInfo) :
    (queue.modify ginfo f).modify ginfo g = queue.modify ginfo (g ∘ f) := by
  simp [modify]

theorem modify_comm (queue : BattlegroundQueue) {ginfo other : ℕ} (hne : ginfo ≠ other)
    (f g : GroupQueueInfo → GroupQueueInfo) :
    (queue.modify ginfo f).modify other g = (queue.modify other g).modify ginfo f := by
  simp only [modify, update_of_ne hne, update_of_ne hne.symm,
    update_comm hne]

/-- The queue after a team of the side `other` has moved to the list of `team`. -/
abbrev sideChanged (queue : BattlegroundQueue) (bracket : BattlegroundBracketId) (ginfo : ℕ)
    (team other : TeamId) : BattlegroundQueue :=
  ((queue.modify ginfo fun info =>
      { info with GroupType := BG_QUEUE_PREMADE_ALLIANCE + team.index }).push_front bracket
    (BG_QUEUE_PREMADE_ALLIANCE + team.index) ginfo).setGroups bracket
    (BG_QUEUE_PREMADE_ALLIANCE + other.index)
    ((queue.m_QueuedGroups bracket (BG_QUEUE_PREMADE_ALLIANCE + other.index)).erase ginfo)

section ChangeSide

variable {bracket : BattlegroundBracketId} {ginfo : ℕ} {team other : TeamId}

theorem changeSide_own (hcons : queue.Consistent) (hteam : team ≠ .TEAM_NEUTRAL)
    (hmem : ginfo ∈ queue.m_QueuedGroups bracket (BG_QUEUE_PREMADE_ALLIANCE + team.index))
    (type type' itrType : ℕ) :
    queue.changeSide bracket team type type' (itrType, ginfo) = some queue := by
  obtain ⟨info, hinfo, hplace⟩ := hcons.mem_iff.mp hmem
  have hown := (hcons.sided ginfo info hinfo).teamId_eq (.inl rfl) hteam (Prod.mk.inj hplace).2
  rw [changeSide, if_neg (by rw [info_eq hinfo]; exact not_not_intro hown)]

theorem changeSide_other (team other : TeamId) (hcons : queue.Consistent)
    (hne : team.index ≠ other.index)
    (hother : other ≠ .TEAM_NEUTRAL)
    (hmem : ginfo ∈ queue.m_QueuedGroups bracket (BG_QUEUE_PREMADE_ALLIANCE + other.index)) :
    queue.changeSide bracket team (BG_QUEUE_PREMADE_ALLIANCE + team.index)
        (BG_QUEUE_PREMADE_ALLIANCE + other.index) (BG_QUEUE_PREMADE_ALLIANCE + other.index, ginfo) =
      some (queue.sideChanged bracket ginfo team other) := by
  obtain ⟨info, hinfo, hplace⟩ := hcons.mem_iff.mp hmem
  have hown := (hcons.sided ginfo info hinfo).teamId_eq (.inl rfl) hother (Prod.mk.inj hplace).2
  have hwrong : (queue.info ginfo).teamId ≠ team := by
    rw [info_eq hinfo, hown]
    exact fun heq => hne (by rw [heq])
  rw [changeSide, if_pos hwrong, if_pos rfl]
  simp [sideChanged, push_front, setGroups, modify, hne.symm]

/-- The move leaves the team of the record as it was; the invitation sets it, so the two
together keep the queue consistent. -/
theorem consistent_sideChanged_invited (team other : TeamId) (hcons : queue.Consistent)
    (env : QueueEnv)
    (instanceID : ℕ) (hne : team.index ≠ other.index) (hteam : team ≠ .TEAM_NEUTRAL)
    (hmem : ginfo ∈ queue.m_QueuedGroups bracket (BG_QUEUE_PREMADE_ALLIANCE + other.index)) :
    ((queue.sideChanged bracket ginfo team other).InviteGroupToBG env ginfo instanceID
      team).Consistent := by
  obtain ⟨info, hinfo, hplace⟩ := hcons.mem_iff.mp hmem
  obtain ⟨hplayers, hbracket, htype, hown⟩ := invited_fields env instanceID hteam
    { info with GroupType := BG_QUEUE_PREMADE_ALLIANCE + team.index }
  have hmoved : (((queue.modify ginfo (invited env instanceID team ∘ fun info =>
        { info with GroupType := BG_QUEUE_PREMADE_ALLIANCE + team.index })).push_front bracket
      (BG_QUEUE_PREMADE_ALLIANCE + team.index) ginfo).setGroups bracket
      (BG_QUEUE_PREMADE_ALLIANCE + other.index)
      ((queue.m_QueuedGroups bracket (BG_QUEUE_PREMADE_ALLIANCE + other.index)).erase
        ginfo)).Consistent := by
    refine hcons.move hinfo hplace (by omega) (List.Perm.refl _) ?_ hplayers ?_
    · rw [comp_apply, GroupQueueInfo.place, hbracket, htype, (Prod.mk.inj hplace).1]
    · exact GroupQueueInfo.sided_of_index (.inl rfl)
        (by rw [comp_apply, hown]; exact hteam)
        (by rw [comp_apply, hown, htype])
  rw [← modify_modify] at hmoved
  exact hmoved

end ChangeSide

theorem teamId_of_mem (hcons : queue.Consistent) {bracket : BattlegroundBracketId} {ginfo : ℕ}
    (team : TeamId) (hteam : team ≠ .TEAM_NEUTRAL)
    (hmem : ginfo ∈ queue.m_QueuedGroups bracket (BG_QUEUE_PREMADE_ALLIANCE + team.index))
    (info : GroupQueueInfo) (hinfo : queue.groups ginfo = some info) : info.teamId = team := by
  obtain ⟨info', hinfo', hplace⟩ := hcons.mem_iff.mp hmem
  cases hinfo.symm.trans hinfo'
  exact (hcons.sided ginfo info hinfo).teamId_eq (.inl rfl) hteam (Prod.mk.inj hplace).2

theorem consistent_ratedMatch {bracket : BattlegroundBracketId} {aTeam hTeam : ℕ × ℕ}
    {first second : BattlegroundQueue} {arena : ℕ} (hcons : queue.Consistent)
    (hne : aTeam.2 ≠ hTeam.2)
    (haMem : aTeam.2 ∈ queue.m_QueuedGroups bracket aTeam.1)
    (hhMem : hTeam.2 ∈ queue.m_QueuedGroups bracket hTeam.1)
    (htypes : aTeam.1 = BG_QUEUE_PREMADE_ALLIANCE ∧ hTeam.1 = BG_QUEUE_PREMADE_HORDE ∨
      aTeam.1 = hTeam.1 ∧ (aTeam.1 = BG_QUEUE_PREMADE_ALLIANCE ∨
        aTeam.1 = BG_QUEUE_PREMADE_HORDE))
    (hfirst : queue.changeSide bracket .TEAM_ALLIANCE BG_QUEUE_PREMADE_ALLIANCE
      BG_QUEUE_PREMADE_HORDE aTeam = some first)
    (hsecond : first.changeSide bracket .TEAM_HORDE BG_QUEUE_PREMADE_HORDE
      BG_QUEUE_PREMADE_ALLIANCE hTeam = some second) :
    ((second.InviteGroupToBG env aTeam.2 arena .TEAM_ALLIANCE).InviteGroupToBG env hTeam.2 arena
      .TEAM_HORDE).Consistent := by
  obtain ⟨aType, a⟩ := aTeam
  obtain ⟨hType, h⟩ := hTeam
  rcases htypes with ⟨rfl, rfl⟩ | ⟨rfl, rfl | rfl⟩
  · -- each team has a list of its own
    rw [changeSide_own hcons (by decide) haMem] at hfirst
    cases hfirst
    rw [changeSide_own hcons (by decide) hhMem] at hsecond
    cases hsecond
    have hinvited := consistent_InviteGroupToBG hcons env arena
      (teamId_of_mem hcons .TEAM_ALLIANCE (by decide) haMem)
    exact consistent_InviteGroupToBG hinvited env arena
      (teamId_of_mem hinvited .TEAM_HORDE (by decide) hhMem)
  · -- both teams wait as alliance, and the second one moves
    rw [changeSide_own hcons (by decide) haMem] at hfirst
    cases hfirst
    have hmoved := changeSide_other .TEAM_HORDE .TEAM_ALLIANCE hcons
      (by decide) (by decide) hhMem
    cases hsecond.symm.trans hmoved
    have hinvited := consistent_InviteGroupToBG hcons env arena
      (teamId_of_mem hcons .TEAM_ALLIANCE (by decide) haMem)
    have hcomm : (queue.sideChanged bracket h .TEAM_HORDE .TEAM_ALLIANCE).InviteGroupToBG env a
        arena .TEAM_ALLIANCE = (queue.InviteGroupToBG env a arena .TEAM_ALLIANCE).sideChanged
          bracket h .TEAM_HORDE .TEAM_ALLIANCE := by
      have hmodify := modify_comm queue hne.symm
        (fun info => { info with GroupType := BG_QUEUE_PREMADE_HORDE })
        (invited env arena .TEAM_ALLIANCE)
      exact congrArg (fun written => (written.push_front bracket BG_QUEUE_PREMADE_HORDE
        h).setGroups bracket BG_QUEUE_PREMADE_ALLIANCE
          ((queue.m_QueuedGroups bracket BG_QUEUE_PREMADE_ALLIANCE).erase h)) hmodify
    rw [hcomm]
    exact consistent_sideChanged_invited .TEAM_HORDE .TEAM_ALLIANCE hinvited env arena
      (by decide) (by decide) hhMem
  · -- both teams wait as horde, and the first one moves
    have hmoved := changeSide_other .TEAM_ALLIANCE .TEAM_HORDE hcons
      (by decide) (by decide) haMem
    cases hfirst.symm.trans hmoved
    have hinvited := consistent_sideChanged_invited .TEAM_ALLIANCE .TEAM_HORDE hcons env arena
      (by decide) (by decide) haMem
    have hstays : h ∈ ((queue.sideChanged bracket a .TEAM_ALLIANCE .TEAM_HORDE).InviteGroupToBG
        env a arena .TEAM_ALLIANCE).m_QueuedGroups bracket
          (BG_QUEUE_PREMADE_ALLIANCE + TeamId.TEAM_HORDE.index) := by
      have hlist : ((queue.sideChanged bracket a .TEAM_ALLIANCE .TEAM_HORDE).InviteGroupToBG
          env a arena .TEAM_ALLIANCE).m_QueuedGroups bracket
            (BG_QUEUE_PREMADE_ALLIANCE + TeamId.TEAM_HORDE.index) =
          (queue.m_QueuedGroups bracket BG_QUEUE_PREMADE_HORDE).erase a :=
        if_pos ⟨rfl, rfl⟩
      rw [hlist]
      exact (mem_erase_of_ne hne.symm).mpr hhMem
    have hown : ((queue.sideChanged bracket a .TEAM_ALLIANCE .TEAM_HORDE).info h).teamId =
        .TEAM_HORDE := by
      obtain ⟨info, hinfo, _⟩ := hcons.mem_iff.mp hhMem
      have hsame : (queue.sideChanged bracket a .TEAM_ALLIANCE .TEAM_HORDE).groups h =
          some info := (update_of_ne hne.symm _ _).trans hinfo
      rw [info_eq hsame]
      exact teamId_of_mem hcons .TEAM_HORDE (by decide) hhMem info hinfo
    rw [changeSide, if_neg (not_not_intro hown)] at hsecond
    cases hsecond
    exact consistent_InviteGroupToBG hinvited env arena
      (teamId_of_mem hinvited .TEAM_HORDE (by decide) hstays)

theorem consistent_startRated (hcons : queue.Consistent)
    (hstart : queue.startRated env args = some after) : after.Consistent := by
  unfold startRated at hstart
  split at hstart
  · cases hstart; exact hcons
  rename_i arenaRating _
  split at hstart
  · cases hstart; exact hcons
  rename_i aTeam hTeam hfind
  split at hstart
  · cases hstart; exact hcons
  rename_i arena _
  obtain ⟨hne, haMem, hhMem, htypes⟩ := findTeams_spec hcons hfind
  split at hstart
  · cases hstart
  rename_i first hfirst
  split at hstart
  · cases hstart
  rename_i second hsecond
  cases hstart
  exact consistent_ratedMatch (consistent_setOpponents hcons aTeam.2 hTeam.2)
    hne haMem hhMem htypes hfirst hsecond

end Rated

theorem consistent_startMatches {env : QueueEnv} {args : UpdateArgs} (hcons : queue.Consistent)
    (hstart : queue.startMatches env args bg_template = some after) : after.Consistent := by
  unfold startMatches at hstart
  have hpremade := consistent_startPremade hcons.initPools env args bg_template
    (playersPerTeam env bg_template args.arenaType).1
    (playersPerTeam env bg_template args.arenaType).2
  dsimp only at hstart
  split at hstart
  case h_1 next heq =>
    cases hstart
    rw [heq] at hpremade
    exact hpremade
  case h_2 next heq =>
    rw [heq] at hpremade
    split at hstart
    · exact consistent_startNormal hpremade hstart
    split at hstart
    · exact consistent_startRated hpremade hstart
    · cases hstart
      exact hpremade

theorem consistent_BattlegroundQueueUpdate {env : QueueEnv} {args : UpdateArgs}
    (hcons : queue.Consistent) (hupdate : queue.BattlegroundQueueUpdate env args = some after) :
    after.Consistent := by
  unfold BattlegroundQueueUpdate at hupdate
  split at hupdate
  · cases hupdate; exact hcons
  split at hupdate
  · cases hupdate
  rename_i filled hfill
  have hfilled := consistent_foldlM_fillFreeSlots hcons hfill
  split at hupdate
  · cases hupdate; exact hfilled
  rename_i bg_template _
  split at hupdate
  · exact consistent_startMatches hfilled hupdate
  · cases hupdate
    exact hfilled

theorem consistent_step {op : Op} (hcons : queue.Consistent)
    (hstep : queue.step op = some after) : after.Consistent := by
  cases op with
  | AddGroup ginfo now args =>
    simp only [step] at hstep
    split at hstep
    case isTrue hnew => exact consistent_AddGroup hcons hnew.1 hnew.2 hstep
    case isFalse => cases hstep
  | RemovePlayer guid =>
    obtain ⟨⟨_, exit⟩, hremove, rfl⟩ := map_eq_some_iff.mp hstep
    exact consistent_RemovePlayer hcons hremove
  | CheckPremadeMatch env bracket_id MinPlayersPerTeam MaxPlayersPerTeam =>
    cases hstep
    exact consistent_CheckPremadeMatch hcons env bracket_id _ _
  | CheckNormalMatch env bgTemplate bracket_id minPlayers maxPlayers =>
    obtain ⟨⟨_, canStart⟩, hcheck, rfl⟩ := map_eq_some_iff.mp hstep
    exact consistent_CheckNormalMatch hcons hcheck
  | CheckSkirmishForSameFaction bracket_id minPlayersPerTeam =>
    obtain ⟨⟨_, found⟩, hcheck, rfl⟩ := map_eq_some_iff.mp hstep
    exact consistent_CheckSkirmishForSameFaction hcons hcheck
  | BattlegroundQueueUpdate env args => exact consistent_BattlegroundQueueUpdate hcons hstep

theorem reachable_consistent (hreach : ReachableQueue queue) : queue.Consistent :=
  hreach.invariant Consistent (fun _ hinit => hinit ▸ consistent_empty)
    fun _ _ _ hcons hstep => consistent_step hcons hstep

/-- In every reachable state a group stands once in the list of its bracket and type and
in no other list, on the side of its team, with at least one player; the map of the
queued players is the converse of the players of the groups; and a queued player can be
removed. -/
theorem reachable_queue_agrees (hreach : ReachableQueue queue) :
    (∀ ginfo info, queue.groups ginfo = some info →
      (∀ bracket type, (queue.m_QueuedGroups bracket type).count ginfo =
        if bracket = info.BracketId ∧ type = info.GroupType then 1 else 0) ∧
      info.GroupType < BG_QUEUE_MAX ∧
      (info.GroupType % 2 = 1 ↔ info.teamId = .TEAM_HORDE) ∧ info.Players.Nonempty) ∧
    (∀ ginfo bracket type, ginfo ∈ queue.m_QueuedGroups bracket type →
      (queue.groups ginfo).isSome) ∧
    (∀ guid ginfo, queue.m_QueuedPlayers guid = some ginfo ↔
      ∃ info, queue.groups ginfo = some info ∧ guid ∈ info.Players) ∧
    ∀ guid ginfo, queue.m_QueuedPlayers guid = some ginfo →
      ∃ after, queue.RemovePlayer guid = some (after, .removed) := by
  have hcons := reachable_consistent hreach
  refine ⟨fun ginfo info hinfo => ⟨fun bracket type => ?_, ?_, ?_, ?_⟩, ?_, hcons.queued, ?_⟩
  · rw [hcons.lists, hinfo, map_some, GroupQueueInfo.place]
    simp only [Option.some.injEq, Prod.mk.injEq, eq_comm]
  · exact (hcons.sided ginfo info hinfo).type.trans (by decide)
  · exact (hcons.sided ginfo info hinfo).side
  · exact hcons.players ginfo info hinfo
  · intro ginfo bracket type hmem
    obtain ⟨info, hinfo, _⟩ := hcons.mem_iff.mp hmem
    rw [hinfo]
    rfl
  · intro guid ginfo hqueued
    obtain ⟨after, hremove, _⟩ := RemovePlayer_queued hcons hqueued
    exact ⟨after, hremove⟩

/-- Two rated horde teams are paired, which moves the first one to the other side, and a
premade group waits for too long. -/
theorem reachable_queue_agrees_rated :
    ∃ (queue : BattlegroundQueue) (info : GroupQueueInfo), queue.groups 100 = some info ∧
      info.teamId = .TEAM_ALLIANCE ∧ info.IsInvitedToBGInstanceGUID = 7 ∧
      (queue.m_QueuedGroups info.BracketId info.GroupType).count 100 = 1 ∧
      queue.m_QueuedGroups 4 BG_QUEUE_NORMAL_HORDE = [102] ∧
      ∃ after, queue.RemovePlayer 12 = some (after, .removed) := by
  let env : QueueEnv :=
    { now := 5000000, premadeGroupWait := 1800000, invitationType := 1,
      prevOpponentsDiscardTimer := 120000, isTesting := false, isArenaTesting := false,
      GetMaxRatingDifference := 150, GetRatingDiscardTimer := 600000, bgQueues := [],
      bg_template := some ⟨true, 0, 2⟩, bracketEntry := true, premadeBattleground := none,
      normalBattleground := none, ratedArena := some 7, fillRounds := 0 }
  let team (leader mate arenaTeam : ℕ) : AddGroupArgs :=
    { leader := leader, teamId := .TEAM_HORDE, RealTeamID := .TEAM_HORDE,
      group := some [leader, mate], bgTypeId := 6, bracketId := 3, arenaType := 2,
      isRated := true, isPremade := false, arenaRating := 1500, matchmakerRating := 1500,
      arenaTeamId := arenaTeam, opponentsArenaTeamId := 0 }
  let premade : AddGroupArgs :=
    { leader := 30, teamId := .TEAM_HORDE, RealTeamID := .TEAM_HORDE, group := some [31, 30],
      bgTypeId := 2, bracketId := 4, arenaType := 0, isRated := false, isPremade := true,
      arenaRating := 0, matchmakerRating := 0, arenaTeamId := 0, opponentsArenaTeamId := 0 }
  let ops : List Op := [.AddGroup 100 4900000 (team 10 11 1), .AddGroup 101 4900000 (team 12 13 2),
    .BattlegroundQueueUpdate env ⟨6, 3, 2, true, 0⟩, .RemovePlayer 13, .RemovePlayer 10,
    .AddGroup 102 1000000 premade, .CheckPremadeMatch env 4 2 15]
  have hrun : (ops.foldlM step empty).map (fun queue =>
      ((queue.info 100).teamId, (queue.info 100).IsInvitedToBGInstanceGUID,
        queue.m_QueuedPlayers 12, queue.m_QueuedPlayers 11, queue.m_QueuedGroups 4 3)) =
      some (.TEAM_ALLIANCE, 7, some 101, some 100, [102]) := by
    decide +kernel
  obtain ⟨queue, hqueue, hvalues⟩ := map_eq_some_iff.mp hrun
  simp only [Prod.mk.injEq] at hvalues
  obtain ⟨hteam, hinvited, htwelve, heleven, hnormal⟩ := hvalues
  have hreach : ReachableQueue queue := Reachable.foldlM (.start rfl) hqueue
  obtain ⟨info, hinfo, _⟩ := ((reachable_queue_agrees hreach).2.2.1 11 100).mp heleven
  rw [info_eq hinfo] at hteam hinvited
  refine ⟨queue, info, hinfo, hteam, hinvited, ?_, hnormal,
    (reachable_queue_agrees hreach).2.2.2 12 101 htwelve⟩
  have hplace := ((reachable_queue_agrees hreach).1 100 info hinfo).1 info.BracketId info.GroupType
  rw [if_pos ⟨rfl, rfl⟩] at hplace
  exact hplace

end BattlegroundQueue

end AzerothCore.Battlegrounds
