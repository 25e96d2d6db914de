import AzerothCore.Battlegrounds.PremadeTopUp

/-!
# The pools of a skirmish

An arena that is not rated starts with the pools that `CheckNormalMatch` fills from both
sides or, if they do not do, with two teams of one side, which
`CheckSkirmishForSameFaction` makes. It goes on with the pools that are left and takes it
that one with enough players has exactly enough. In the testing mode it may have more.
-/

namespace AzerothCore.Battlegrounds
open List Option Function

variable {outcome : SelectionPool × List ℕ}

namespace SelectionPool

variable {info : ℕ → GroupQueueInfo} {limit desiredCount : ℕ} {groups rest : List ℕ}
  {pool : SelectionPool} {ginfo : ℕ}

/-! ## Pools that are drawn from a list -/

/-- A pool holds groups of a list in their order, none of them invited, and counts their
players, of which there are not more than the limit. -/
structure Drawn (info : ℕ → GroupQueueInfo) (limit : ℕ) (groups : List ℕ)
    (pool : SelectionPool) : Prop where
  sublist : pool.SelectedGroups.Sublist groups
  notInvited : ∀ ginfo ∈ pool.SelectedGroups, (info ginfo).IsInvitedToBGInstanceGUID = 0
  count : pool.PlayerCount = players info pool.SelectedGroups
  le : pool.PlayerCount ≤ limit

theorem Drawn.init (info : ℕ → GroupQueueInfo) (limit : ℕ) : Drawn info limit [] .Init where
  sublist := List.Sublist.refl []
  notInvited _ hginfo := nomatch hginfo
  count := rfl
  le := Nat.zero_le _

section

variable (hdrawn : Drawn info limit groups pool)
include hdrawn

theorem Drawn.mono {all : List ℕ}
    (hsub : groups.Sublist all) : Drawn info limit all pool :=
  { hdrawn with sublist := hdrawn.sublist.trans hsub }

theorem Drawn.addGroup (hdesired : desiredCount ≤ limit)
    (hlimit : limit < 2 ^ 32) :
    Drawn info limit (groups ++ [ginfo]) (pool.AddGroup info ginfo desiredCount).1 := by
  rw [AddGroup]
  split
  case isFalse => exact hdrawn.mono (sublist_append_left _ _)
  rename_i hfits
  obtain ⟨hinvited, hroom⟩ := hfits
  have hcount : uint32 (pool.PlayerCount + (info ginfo).Players.card) =
      pool.PlayerCount + (info ginfo).Players.card := uint32_of_lt (by omega)
  constructor
  · exact hdrawn.sublist.append (List.Sublist.refl _)
  · rw [forall_mem_append, forall_mem_singleton]
    exact ⟨hdrawn.notInvited, hinvited⟩
  · rw [hcount, hdrawn.count, players_append]
    rfl
  · rw [hcount]
    exact hroom.trans hdesired

theorem Drawn.addNotInvited (hdesired : desiredCount ≤ limit) (hlimit : limit < 2 ^ 32) :
    Drawn info limit (groups ++ rest) (addNotInvited info desiredCount rest pool) := by
  induction rest generalizing groups pool with
  | nil => exact (append_nil groups).symm ▸ hdrawn
  | cons ginfo rest ih =>
    have hsplit : groups ++ ginfo :: rest = (groups ++ [ginfo]) ++ rest := by
      rw [append_assoc, singleton_append]
    rw [SelectionPool.addNotInvited, hsplit]
    split
    · exact ih (hdrawn.mono (sublist_append_left _ _))
    have hadded : Drawn info limit (groups ++ [ginfo])
        (pool.AddGroup info ginfo desiredCount).1 := hdrawn.addGroup hdesired hlimit
    rcases hadd : pool.AddGroup info ginfo desiredCount with ⟨next, added⟩
    rw [hadd] at hadded
    cases added with
    | true => exact ih hadded
    | false => exact hadded.mono (sublist_append_left _ _)

end

/-- How `addUntilEnough` ends: the groups that were tried are those before the iterator and
the one at it, and it is at a group if the pool has enough players. -/
def StopsAt (info : ℕ → GroupQueueInfo) (limit minPlayers : ℕ) (groups rest : List ℕ)
    (outcome : SelectionPool × List ℕ) : Prop :=
  ∃ before, rest = before ++ outcome.2 ∧
    Drawn info limit (groups ++ (before ++ outcome.2.take 1)) outcome.1 ∧
    (minPlayers ≤ outcome.1.PlayerCount → outcome.2 ≠ [])

theorem StopsAt.cons {minPlayers : ℕ}
    (hstops : StopsAt info limit minPlayers (groups ++ [ginfo]) rest outcome) :
    StopsAt info limit minPlayers groups (ginfo :: rest) outcome := by
  obtain ⟨before, hrest, hdrawn, hstop⟩ := hstops
  rw [append_assoc, singleton_append] at hdrawn
  exact ⟨ginfo :: before, congrArg (ginfo :: ·) hrest, hdrawn, hstop⟩

theorem Drawn.addUntilEnough (hdrawn : Drawn info limit groups pool) {minPlayers : ℕ}
    (hdesired : desiredCount ≤ limit) (hlimit : limit < 2 ^ 32)
    (hfew : pool.PlayerCount < minPlayers) :
    StopsAt info limit minPlayers groups rest
      (addUntilEnough info minPlayers desiredCount rest pool) := by
  induction rest generalizing groups pool with
  | nil =>
    refine ⟨[], rfl, ?_, fun henough => absurd henough (not_le.mpr hfew)⟩
    rw [SelectionPool.addUntilEnough, take_nil, append_nil, append_nil]
    exact hdrawn
  | cons ginfo rest ih =>
    rw [SelectionPool.addUntilEnough]
    split
    · exact (ih (hdrawn.mono (sublist_append_left _ _)) hfew).cons
    have hadded : Drawn info limit (groups ++ [ginfo])
        (pool.AddGroup info ginfo desiredCount).1 := hdrawn.addGroup hdesired hlimit
    dsimp only
    split
    · exact ⟨[], rfl, hadded, fun _ => cons_ne_nil _ _⟩
    case isFalse hless => exact (ih hadded (not_le.mp hless)).cons

end SelectionPool

namespace BattlegroundQueue

open SelectionPool

variable {queue normal after : BattlegroundQueue} {env : QueueEnv}
  {bgTemplate : BattlegroundTemplate} {bracket_id : BattlegroundBracketId}
  {minPlayers maxPlayers limit : ℕ} {teamIndex otherTeam : TeamId} {ginfo : ℕ}

/-! ## `CheckNormalMatch` on pools that were initialized -/

/-- The pool of a side after the first loop of `CheckNormalMatch`, with the groups from
the iterator on. -/
def firstPool (queue : BattlegroundQueue) (bracket_id : BattlegroundBracketId)
    (minPlayers maxPlayers : ℕ) (team : TeamId) : SelectionPool × List ℕ :=
  addUntilEnough queue.info minPlayers maxPlayers (queue.normalGroups bracket_id team) .Init

theorem firstPool_stopsAt (hmin : 1 ≤ minPlayers) (hmax : maxPlayers < 2 ^ 32) (team : TeamId) :
    StopsAt queue.info maxPlayers minPlayers [] (queue.normalGroups bracket_id team)
      (queue.firstPool bracket_id minPlayers maxPlayers team) :=
  (Drawn.init queue.info maxPlayers).addUntilEnough le_rfl hmax hmin

/-- What `CheckNormalMatch` makes of pools that were evened. -/
def judged (env : QueueEnv) (bgTemplate : BattlegroundTemplate) (minPlayers : ℕ)
    (pools : SelectionPool × SelectionPool) : (SelectionPool × SelectionPool) × Bool :=
  if 2 < (int32 ((pools.2.PlayerCount : ℤ) - pools.1.PlayerCount)).natAbs then (pools, false)
  else (pools, CanStartMatch env bgTemplate minPlayers pools.1 pools.2)

variable {alliance horde : SelectionPool} {hordeFrom : List ℕ}

theorem normalPools_initPools {aliFrom : List ℕ}
    (hali : queue.firstPool bracket_id minPlayers maxPlayers .TEAM_ALLIANCE = (alliance, aliFrom))
    (hhorde : queue.firstPool bracket_id minPlayers maxPlayers .TEAM_HORDE = (horde, hordeFrom)) :
    queue.initPools.normalPools env bgTemplate bracket_id minPlayers maxPlayers =
      if env.invitationType ≠ BG_QUEUE_INVITATION_TYPE_NO_BALANCE ∧
          minPlayers ≤ horde.PlayerCount ∧ minPlayers ≤ alliance.PlayerCount then
        (queue.evenPools alliance horde aliFrom hordeFrom).map
          (judged env bgTemplate minPlayers)
      else some ((alliance, horde), CanStartMatch env bgTemplate minPlayers alliance horde) := by
  change addUntilEnough queue.initPools.info minPlayers maxPlayers
    (queue.initPools.m_QueuedGroups bracket_id BG_QUEUE_NORMAL_ALLIANCE)
    (queue.initPools.m_SelectionPools .TEAM_ALLIANCE) = _ at hali
  change addUntilEnough queue.initPools.info minPlayers maxPlayers
    (queue.initPools.m_QueuedGroups bracket_id BG_QUEUE_NORMAL_HORDE)
    (queue.initPools.m_SelectionPools .TEAM_HORDE) = _ at hhorde
  rw [normalPools, hali, hhorde]
  dsimp only
  split
  · rw [show queue.initPools.evenPools alliance horde aliFrom hordeFrom =
      queue.evenPools alliance horde aliFrom hordeFrom from rfl]
    rcases queue.evenPools alliance horde aliFrom hordeFrom with _ | pools
    · rfl
    rw [map_some, judged]
    dsimp only
    split <;> rfl
  · rfl

theorem drawn_behind {info : ℕ → GroupQueueInfo} {groups behind : List ℕ} {front : ℕ}
    {pool : SelectionPool} {desiredCount : ℕ} (hmax : maxPlayers < 2 ^ 32)
    (hstops : StopsAt info maxPlayers minPlayers [] groups (pool, front :: behind))
    (hdesired : desiredCount ≤ maxPlayers) :
    Drawn info maxPlayers groups (addNotInvited info desiredCount behind pool) := by
  obtain ⟨before, hgroups, hdrawn, -⟩ := hstops
  have hall : Drawn info maxPlayers (([] ++ (before ++ [front])) ++ behind)
      (addNotInvited info desiredCount behind pool) := hdrawn.addNotInvited hdesired hmax
  rw [nil_append, append_assoc, singleton_append] at hall
  exact hgroups ▸ hall

theorem drawn_stopped {info : ℕ → GroupQueueInfo} {groups : List ℕ}
    (hstops : StopsAt info maxPlayers minPlayers [] groups outcome) :
    Drawn info maxPlayers groups outcome.1 := by
  obtain ⟨before, hgroups, hdrawn, -⟩ := hstops
  rw [hgroups]
  exact hdrawn.mono ((take_sublist 1 _).append_left before)

theorem evenPools_drawn {aliFrom : List ℕ} (hmax : maxPlayers < 2 ^ 32)
    (hali : StopsAt queue.info maxPlayers minPlayers []
      (queue.normalGroups bracket_id .TEAM_ALLIANCE) (alliance, aliFrom))
    (hhorde : StopsAt queue.info maxPlayers minPlayers []
      (queue.normalGroups bracket_id .TEAM_HORDE) (horde, hordeFrom))
    (haliEnough : minPlayers ≤ alliance.PlayerCount)
    (hhordeEnough : minPlayers ≤ horde.PlayerCount) :
    ∃ pools, queue.evenPools alliance horde aliFrom hordeFrom = some pools ∧
      Drawn queue.info maxPlayers (queue.normalGroups bracket_id .TEAM_ALLIANCE) pools.1 ∧
      Drawn queue.info maxPlayers (queue.normalGroups bracket_id .TEAM_HORDE) pools.2 := by
  have haliDrawn := drawn_stopped hali
  have hhordeDrawn := drawn_stopped hhorde
  unfold evenPools
  split
  · cases hordeFrom with
    | nil => exact absurd rfl (hhorde.choose_spec.2.2 hhordeEnough)
    | cons front rest => exact ⟨_, rfl, haliDrawn, drawn_behind hmax hhorde haliDrawn.le⟩
  · cases aliFrom with
    | nil => exact absurd rfl (hali.choose_spec.2.2 haliEnough)
    | cons front rest => exact ⟨_, rfl, drawn_behind hmax hali hhordeDrawn.le, hhordeDrawn⟩

theorem normalPools_drawn (hmin : 1 ≤ minPlayers) (hmax : maxPlayers < 2 ^ 32) :
    ∃ pools, queue.initPools.normalPools env bgTemplate bracket_id minPlayers maxPlayers =
        some pools ∧
      Drawn queue.info maxPlayers (queue.normalGroups bracket_id .TEAM_ALLIANCE) pools.1.1 ∧
      Drawn queue.info maxPlayers (queue.normalGroups bracket_id .TEAM_HORDE) pools.1.2 := by
  have hali := @firstPool_stopsAt queue bracket_id minPlayers maxPlayers hmin hmax .TEAM_ALLIANCE
  have hhorde := @firstPool_stopsAt queue bracket_id minPlayers maxPlayers hmin hmax .TEAM_HORDE
  rcases haliPool : queue.firstPool bracket_id minPlayers maxPlayers .TEAM_ALLIANCE with
    ⟨alliance, aliFrom⟩
  rcases hhordePool : queue.firstPool bracket_id minPlayers maxPlayers .TEAM_HORDE with
    ⟨horde, hordeFrom⟩
  rw [haliPool] at hali
  rw [hhordePool] at hhorde
  rw [normalPools_initPools haliPool hhordePool]
  split
  case isFalse => exact ⟨_, rfl, drawn_stopped hali, drawn_stopped hhorde⟩
  rename_i henough
  obtain ⟨pools, heven, haliDrawn, hhordeDrawn⟩ :=
    evenPools_drawn hmax hali hhorde henough.2.2 henough.2.1
  have hjudged : (judged env bgTemplate minPlayers pools).1 = pools := by
    rw [judged]
    split <;> rfl
  refine ⟨judged env bgTemplate minPlayers pools, by rw [heven, map_some], ?_⟩
  rw [hjudged]
  exact ⟨haliDrawn, hhordeDrawn⟩

/-! ## `CheckSkirmishForSameFaction` on pools that were drawn -/

theorem not_selected_behind {selected groups : List ℕ} (hsub : selected.Sublist groups)
    (hnodup : groups.Nodup) (hlast : selected.getLast? = some ginfo) :
    ∀ other ∈ groupsAfter ginfo groups, other ∉ selected := by
  induction hsub with
  | slnil => cases hlast
  | @cons selected rest front hsub ih =>
    obtain ⟨hfront, hrest⟩ := nodup_cons.mp hnodup
    have hne : front ≠ ginfo := fun heq =>
      hfront (heq ▸ hsub.mem (mem_of_getLast? hlast))
    rw [groupsAfter, if_neg hne]
    exact ih hrest hlast
  | @cons_cons selected rest front hsub ih =>
    obtain ⟨hfront, hrest⟩ := nodup_cons.mp hnodup
    intro other hother
    rcases selected with _ | ⟨second, selected⟩
    · have heq : front = ginfo := some.inj hlast
      rw [groupsAfter, if_pos heq] at hother
      rw [mem_singleton]
      exact fun heq => hfront (heq ▸ hother)
    rw [List.getLast?_cons_cons] at hlast
    have hne : front ≠ ginfo := fun heq =>
      hfront (heq ▸ hsub.mem (mem_of_getLast? hlast))
    rw [groupsAfter, if_neg hne] at hother
    rw [mem_cons, not_or]
    exact ⟨fun heq => hfront (heq ▸ (groupsAfter_sublist ginfo rest).mem hother),
      ih hrest hlast other hother⟩

/-- The pool of the other side, filled with the groups behind the last selected one. -/
def otherPool (normal : BattlegroundQueue) (bracket_id : BattlegroundBracketId)
    (minPlayersPerTeam : ℕ) (teamIndex : TeamId) (ginfo : ℕ) : SelectionPool :=
  addNotInvited normal.info minPlayersPerTeam
    (groupsAfter ginfo (normal.normalGroups bracket_id teamIndex)) .Init

theorem otherPool_drawn (hmin : minPlayers < 2 ^ 32) :
    Drawn normal.info minPlayers (groupsAfter ginfo (normal.normalGroups bracket_id teamIndex))
      (normal.otherPool bracket_id minPlayers teamIndex ginfo) :=
  (Drawn.init normal.info minPlayers).addNotInvited le_rfl hmin

theorem skirmish_eq (hne : teamIndex ≠ otherTeam)
    (hlast : (normal.m_SelectionPools teamIndex).SelectedGroups.getLast? = some ginfo)
    (hmem : ginfo ∈ normal.normalGroups bracket_id teamIndex) :
    normal.skirmish bracket_id minPlayers teamIndex otherTeam =
      if (normal.otherPool bracket_id minPlayers teamIndex ginfo).PlayerCount ≠ minPlayers then
        some (normal.setPool otherTeam
          (normal.otherPool bracket_id minPlayers teamIndex ginfo), false)
      else
        some ((normal.otherPool bracket_id minPlayers teamIndex ginfo).SelectedGroups.foldl
          (changeTeam bracket_id teamIndex otherTeam ginfo)
          (normal.setPool otherTeam (normal.otherPool bracket_id minPlayers teamIndex ginfo)),
          true) := by
  have hown : (normal.setPool otherTeam .Init).m_SelectionPools teamIndex =
      normal.m_SelectionPools teamIndex := update_of_ne hne _ _
  have hinit : (normal.setPool otherTeam .Init).m_SelectionPools otherTeam = .Init :=
    update_self _ _ _
  have hset : ∀ pool, (normal.setPool otherTeam .Init).setPool otherTeam pool =
      normal.setPool otherTeam pool := by
    intro pool
    simp only [setPool, update_idem]
  unfold skirmish
  simp only [hown, hlast]
  rw [if_pos (show ginfo ∈ (normal.setPool otherTeam .Init).m_QueuedGroups bracket_id
    (BG_QUEUE_NORMAL_ALLIANCE + teamIndex.index) from hmem), hinit, hset]
  rfl

theorem pools_foldl_changeTeam (groups : List ℕ) (queue : BattlegroundQueue) :
    (groups.foldl (changeTeam bracket_id teamIndex otherTeam ginfo) queue).m_SelectionPools =
      queue.m_SelectionPools := by
  induction groups generalizing queue with
  | nil => rfl
  | cons moved rest ih => exact ih _

def teamChanged (otherTeam : TeamId) (info : GroupQueueInfo) : GroupQueueInfo :=
  { info with
    teamId := otherTeam
    GroupType := BG_QUEUE_NORMAL_ALLIANCE + otherTeam.index }

theorem groups_foldl_changeTeam (groups : List ℕ) (queue : BattlegroundQueue) (other : ℕ) :
    (groups.foldl (changeTeam bracket_id teamIndex otherTeam ginfo) queue).groups other =
      if other ∈ groups then (queue.groups other).map (teamChanged otherTeam)
      else queue.groups other := by
  induction groups generalizing queue with
  | nil => rfl
  | cons moved rest ih =>
    have hchanged : (changeTeam bracket_id teamIndex otherTeam ginfo queue moved).groups other =
        if other = moved then (queue.groups other).map (teamChanged otherTeam)
        else queue.groups other := by
      change Function.update queue.groups moved _ other = _
      rw [update_apply]
      split
      case isTrue heq => rw [heq]; rfl
      case isFalse => rfl
    rw [foldl_cons, ih, hchanged]
    by_cases hmoved : other = moved
    · rw [if_pos hmoved, if_pos (mem_cons.mpr (.inl hmoved)), Option.map_map]
      split <;> rfl
    rw [if_neg hmoved]
    by_cases hrest : other ∈ rest
    · rw [if_pos hrest, if_pos (mem_cons_of_mem _ hrest)]
    · rw [if_neg hrest, if_neg (by simp [hmoved, hrest])]

theorem size_foldl_changeTeam (groups : List ℕ) (queue : BattlegroundQueue) (other : ℕ) :
    (groups.foldl (changeTeam bracket_id teamIndex otherTeam ginfo) queue).size other =
      queue.size other := by
  rw [size, size, info, info, groups_foldl_changeTeam]
  split
  · cases queue.groups other <;> rfl
  · rfl

/-- Both pools hold exactly the players they need; the groups of one of the pools, all of
which waited on the other side, stand in the list of their new side; and no group is in both
pools. -/
structure SameFaction (before after : BattlegroundQueue) (bracket_id : BattlegroundBracketId)
    (minPlayersPerTeam : ℕ) : Prop where
  counts : ∀ team ∈ sides, (after.m_SelectionPools team).PlayerCount = minPlayersPerTeam ∧
      players after.info (after.m_SelectionPools team).SelectedGroups = minPlayersPerTeam
  moved : ∃ team ∈ sides, ∀ other ∈ sides, other ≠ team →
    ∀ ginfo ∈ (after.m_SelectionPools other).SelectedGroups,
      ginfo ∈ before.normalGroups bracket_id team ∧ ginfo ∈ after.normalGroups bracket_id other ∧
        ginfo ∉ after.normalGroups bracket_id team ∧ (after.info ginfo).teamId = other
  disjoint : ∀ ginfo ∈ (after.m_SelectionPools .TEAM_ALLIANCE).SelectedGroups,
    ginfo ∉ (after.m_SelectionPools .TEAM_HORDE).SelectedGroups

/-- A group that changes its side stands in the list of its new side only. -/
theorem moved_foldl_changeTeam {groups : List ℕ} (hcons : normal.Consistent)
    (hteam : teamIndex ∈ sides) (hother : otherTeam ∈ sides) (hne : teamIndex ≠ otherTeam)
    (hnodup : groups.Nodup)
    (hgroups : ∀ moved ∈ groups, moved ∈ groupsAfter ginfo
      (normal.normalGroups bracket_id teamIndex)) :
    ∀ moved ∈ groups, moved ∈ (groups.foldl (changeTeam bracket_id teamIndex otherTeam ginfo)
          normal).normalGroups bracket_id otherTeam ∧
        moved ∉ (groups.foldl (changeTeam bracket_id teamIndex otherTeam ginfo)
          normal).normalGroups bracket_id teamIndex ∧
        ((groups.foldl (changeTeam bracket_id teamIndex otherTeam ginfo) normal).info
          moved).teamId = otherTeam := by
  have hindex : teamIndex.index ≠ otherTeam.index := index_ne hteam hother hne
  have hneutral : otherTeam ≠ .TEAM_NEUTRAL := by
    rintro rfl
    exact absurd hother (by decide)
  have hafter := consistent_foldl_changeTeam hcons hindex hneutral hnodup hgroups
  intro moved hmoved
  have hwaited := (groupsAfter_sublist ginfo _).mem (hgroups moved hmoved)
  obtain ⟨info, hinfo, hplace⟩ := hcons.mem_iff.mp hwaited
  have hrecord : (groups.foldl (changeTeam bracket_id teamIndex otherTeam ginfo)
      normal).groups moved = some (teamChanged otherTeam info) := by
    rw [groups_foldl_changeTeam, if_pos hmoved, hinfo, map_some]
  have hmem : moved ∈ (groups.foldl (changeTeam bracket_id teamIndex otherTeam ginfo)
      normal).normalGroups bracket_id otherTeam := by
    refine hafter.mem_iff.mpr ⟨_, hrecord, ?_⟩
    rw [GroupQueueInfo.place, ← (Prod.mk.inj hplace).1]
    rfl
  refine ⟨hmem, fun hold => ?_, ?_⟩
  · have htype := type_unique hafter hold hmem
    exact hindex (Nat.add_left_cancel htype)
  · rw [info_eq hrecord]
    rfl

theorem side_cases {team other third : TeamId} (hteam : team ∈ sides) (hother : other ∈ sides)
    (hne : team ≠ other) (hthird : third ∈ sides) : third = team ∨ third = other := by
  revert hteam hother hne hthird
  cases team <;> cases other <;> cases third <;> decide

theorem sameFaction_iff (hcons : normal.Consistent) (hteam : teamIndex ∈ sides)
    (hother : otherTeam ∈ sides) (hne : teamIndex ≠ otherTeam) (hmin : minPlayers < 2 ^ 32)
    (hdrawn : Drawn normal.info limit (normal.normalGroups bracket_id teamIndex)
      (normal.m_SelectionPools teamIndex))
    (hlast : (normal.m_SelectionPools teamIndex).SelectedGroups.getLast? = some ginfo)
    (henough : (normal.otherPool bracket_id minPlayers teamIndex ginfo).PlayerCount = minPlayers) :
    SameFaction normal
        ((normal.otherPool bracket_id minPlayers teamIndex ginfo).SelectedGroups.foldl
          (changeTeam bracket_id teamIndex otherTeam ginfo)
          (normal.setPool otherTeam (normal.otherPool bracket_id minPlayers teamIndex ginfo)))
        bracket_id minPlayers ↔
      (normal.m_SelectionPools teamIndex).PlayerCount = minPlayers := by
  set pool := normal.otherPool bracket_id minPlayers teamIndex ginfo with hpool
  set filled := normal.setPool otherTeam pool with hfilled
  set after := pool.SelectedGroups.foldl (changeTeam bracket_id teamIndex otherTeam ginfo) filled
    with hafter
  have hpoolDrawn : Drawn normal.info minPlayers
      (groupsAfter ginfo (normal.normalGroups bracket_id teamIndex)) pool := otherPool_drawn hmin
  have hpools : after.m_SelectionPools = filled.m_SelectionPools := pools_foldl_changeTeam _ _
  have hown : after.m_SelectionPools teamIndex = normal.m_SelectionPools teamIndex := by
    rw [hpools]
    exact update_of_ne hne _ _
  have hnew : after.m_SelectionPools otherTeam = pool := by
    rw [hpools]
    exact update_self _ _ _
  have hplayers : ∀ groups, players after.info groups = players normal.info groups := by
    intro groups
    exact congrArg List.sum
      (map_congr_left fun other _ => size_foldl_changeTeam pool.SelectedGroups filled other)
  have hbehind := not_selected_behind hdrawn.sublist (hcons.nodup bracket_id _) hlast
  constructor
  · intro hsame
    rw [← (hsame.counts teamIndex hteam).1, hown]
  · intro hcount
    refine ⟨fun team hside => ?_, ⟨teamIndex, hteam, fun other hside hdiff moved hmoved => ?_⟩, ?_⟩
    · rcases side_cases hteam hother hne hside with rfl | rfl
      · rw [hown, hplayers, ← hdrawn.count]
        exact ⟨hcount, hcount⟩
      · rw [hnew, hplayers, ← hpoolDrawn.count]
        exact ⟨henough, henough⟩
    · obtain rfl : other = otherTeam := 
        (side_cases hteam hother hne hside).resolve_left hdiff
      rw [hnew] at hmoved
      have hmem := hpoolDrawn.sublist.mem hmoved
      have hmovedSpec := moved_foldl_changeTeam (hcons.setPool other pool) hteam hother hne
        (hpoolDrawn.sublist.nodup ((groupsAfter_sublist ginfo _).nodup (hcons.nodup bracket_id _)))
        (fun moved hmoved => hpoolDrawn.sublist.mem hmoved) moved hmoved
      exact ⟨(groupsAfter_sublist ginfo _).mem hmem, hmovedSpec⟩
    · intro selected hali hhorde
      have hnot : selected ∈ pool.SelectedGroups →
          selected ∉ (normal.m_SelectionPools teamIndex).SelectedGroups := fun hmem =>
        hbehind selected (hpoolDrawn.sublist.mem hmem)
      rcases side_cases hteam hother hne (show .TEAM_ALLIANCE ∈ sides by decide) with rfl | rfl
      · obtain rfl : .TEAM_HORDE = otherTeam :=
          (side_cases hteam hother hne (by decide)).resolve_left (by decide)
        rw [hown] at hali
        rw [hnew] at hhorde
        exact hnot hhorde hali
      · obtain rfl : .TEAM_HORDE = teamIndex :=
          (side_cases hteam hother hne (by decide)).resolve_right (by decide)
        rw [hnew] at hali
        rw [hown] at hhorde
        exact hnot hali hhorde

/-- What is asked of `CheckSkirmishForSameFaction` on the pools that it finds. -/
def SkirmishHolds (normal : BattlegroundQueue) (bracket_id : BattlegroundBracketId)
    (minPlayersPerTeam : ℕ) : Prop :=
  ∃ after same, normal.CheckSkirmishForSameFaction bracket_id minPlayersPerTeam =
      some (after, same) ∧ (same = true → SameFaction normal after bracket_id minPlayersPerTeam)

/-- The teams of one side are made of the groups of a pool with the players that a team
needs, or of a pool with groups in it if nobody follows who would be the other team. -/
def OneSideHolds (normal : BattlegroundQueue) (bracket_id : BattlegroundBracketId)
    (minPlayersPerTeam : ℕ) (teamIndex : TeamId) : Prop :=
  ∃ ginfo, (normal.m_SelectionPools teamIndex).SelectedGroups.getLast? = some ginfo ∧
    ((normal.otherPool bracket_id minPlayersPerTeam teamIndex ginfo).PlayerCount =
        minPlayersPerTeam →
      (normal.m_SelectionPools teamIndex).PlayerCount = minPlayersPerTeam)

theorem skirmish_holds_iff (hcons : normal.Consistent) (hteam : teamIndex ∈ sides)
    (hother : otherTeam ∈ sides) (hne : teamIndex ≠ otherTeam) (hmin : minPlayers < 2 ^ 32)
    (hdrawn : Drawn normal.info limit (normal.normalGroups bracket_id teamIndex)
      (normal.m_SelectionPools teamIndex)) :
    (∃ after same, normal.skirmish bracket_id minPlayers teamIndex otherTeam =
        some (after, same) ∧ (same = true → SameFaction normal after bracket_id minPlayers)) ↔
      normal.OneSideHolds bracket_id minPlayers teamIndex := by
  cases hlast : (normal.m_SelectionPools teamIndex).SelectedGroups.getLast? with
  | none =>
    have hown : (normal.setPool otherTeam .Init).m_SelectionPools teamIndex =
        normal.m_SelectionPools teamIndex := update_of_ne hne _ _
    have hundefined : normal.skirmish bracket_id minPlayers teamIndex otherTeam = none := by
      unfold skirmish
      simp only [hown, hlast]
    constructor
    · rintro ⟨after, same, hsome, -⟩
      rw [hundefined] at hsome
      cases hsome
    · rintro ⟨ginfo, hsome, -⟩
      rw [hlast] at hsome
      cases hsome
  | some ginfo =>
    have hmem := hdrawn.sublist.mem (mem_of_getLast? hlast)
    have hside : normal.OneSideHolds bracket_id minPlayers teamIndex ↔
        ((normal.otherPool bracket_id minPlayers teamIndex ginfo).PlayerCount = minPlayers →
          (normal.m_SelectionPools teamIndex).PlayerCount = minPlayers) := by
      rw [OneSideHolds, hlast]
      simp only [Option.some.injEq, exists_eq_left']
    rw [hside, skirmish_eq hne hlast hmem]
    by_cases henough : (normal.otherPool bracket_id minPlayers teamIndex ginfo).PlayerCount =
        minPlayers
    · rw [if_neg (not_not_intro henough), ← sameFaction_iff hcons hteam hother hne hmin hdrawn
        hlast henough]
      constructor
      · rintro ⟨after, same, hsome, hsame⟩ -
        cases hsome
        exact hsame rfl
      · exact fun hsame => ⟨_, _, rfl, fun _ => hsame henough⟩
    · rw [if_pos henough]
      exact iff_of_true ⟨_, _, rfl, nofun⟩
        fun hcount => absurd hcount henough

theorem exists_last {info : ℕ → GroupQueueInfo} {groups : List ℕ} {pool : SelectionPool}
    (hdrawn : Drawn info limit groups pool) (hpos : 0 < pool.PlayerCount) :
    ∃ ginfo, pool.SelectedGroups.getLast? = some ginfo := by
  refine ne_none_iff_exists'.mp fun hnone => ?_
  have hempty := List.getLast?_eq_none_iff.mp hnone
  rw [hdrawn.count, hempty] at hpos
  exact absurd hpos (lt_irrefl 0)

/-- The function goes on with the pool of the Horde only if that pool has exactly the
players of a team. -/
theorem skirmishHolds_iff (hcons : normal.Consistent) (hmin : 1 ≤ minPlayers)
    (hmax : maxPlayers < 2 ^ 32) (hle : minPlayers ≤ maxPlayers)
    (hdrawn : ∀ team ∈ sides, Drawn normal.info maxPlayers (normal.normalGroups bracket_id team)
      (normal.m_SelectionPools team)) :
    normal.SkirmishHolds bracket_id minPlayers ↔
      ((normal.m_SelectionPools .TEAM_ALLIANCE).PlayerCount < minPlayers ∧
          (normal.m_SelectionPools .TEAM_HORDE).PlayerCount < minPlayers) ∨
        (normal.m_SelectionPools .TEAM_HORDE).PlayerCount = minPlayers ∨
        normal.OneSideHolds bracket_id minPlayers .TEAM_ALLIANCE := by
  rw [SkirmishHolds, CheckSkirmishForSameFaction]
  by_cases hfew : (normal.m_SelectionPools .TEAM_ALLIANCE).PlayerCount < minPlayers ∧
      (normal.m_SelectionPools .TEAM_HORDE).PlayerCount < minPlayers
  · rw [if_pos hfew]
    exact iff_of_true ⟨_, _, rfl, nofun⟩ (.inl hfew)
  rw [if_neg hfew, or_iff_right hfew]
  by_cases hhorde : (normal.m_SelectionPools .TEAM_HORDE).PlayerCount = minPlayers
  · rw [if_pos hhorde, skirmish_holds_iff hcons (by decide) (by decide) (by decide)
      (hle.trans_lt hmax) (hdrawn .TEAM_HORDE (by decide))]
    obtain ⟨ginfo, hlast⟩ := exists_last (hdrawn .TEAM_HORDE (by decide))
      (hhorde ▸ hmin : 1 ≤ (normal.m_SelectionPools .TEAM_HORDE).PlayerCount)
    exact iff_of_true ⟨ginfo, hlast, fun _ => hhorde⟩ (.inl hhorde)
  · rw [if_neg hhorde, or_iff_right hhorde, skirmish_holds_iff hcons (by decide) (by decide)
      (by decide) (hle.trans_lt hmax) (hdrawn .TEAM_ALLIANCE (by decide))]

/-- `CheckNormalMatch` and, for an arena in which it fails, `CheckSkirmishForSameFaction`,
on pools that were initialized: neither moves an iterator behind the end of its list nor
takes the last element of an empty list, and a skirmish that is found stands. -/
def ChecksHold (queue : BattlegroundQueue) (env : QueueEnv) (bgTemplate : BattlegroundTemplate)
    (bracket_id : BattlegroundBracketId) (minPlayers maxPlayers : ℕ) : Prop :=
  ∃ normal found, queue.initPools.CheckNormalMatch env bgTemplate bracket_id minPlayers
      maxPlayers = some (normal, found) ∧
    (found = false → bgTemplate.isArena = true → normal.SkirmishHolds bracket_id minPlayers)

theorem checksHold_iff_pools (hcons : queue.Consistent) (hmin : 1 ≤ minPlayers)
    (hmax : maxPlayers < 2 ^ 32) (hle : minPlayers ≤ maxPlayers) {found : Bool}
    (hpools : queue.initPools.normalPools env bgTemplate bracket_id minPlayers maxPlayers =
      some ((alliance, horde), found)) :
    queue.ChecksHold env bgTemplate bracket_id minPlayers maxPlayers ↔
      (found = false → bgTemplate.isArena = true →
        (alliance.PlayerCount < minPlayers ∧ horde.PlayerCount < minPlayers) ∨
          horde.PlayerCount = minPlayers ∨
          ∃ ginfo, alliance.SelectedGroups.getLast? = some ginfo ∧
            ((queue.otherPool bracket_id minPlayers .TEAM_ALLIANCE ginfo).PlayerCount =
              minPlayers → alliance.PlayerCount = minPlayers)) := by
  obtain ⟨pools, hsome, hali, hhorde⟩ :=
    @normalPools_drawn queue env bgTemplate bracket_id minPlayers maxPlayers hmin hmax
  rw [hpools] at hsome
  cases hsome
  set normal := (queue.initPools.setPool .TEAM_ALLIANCE alliance).setPool .TEAM_HORDE horde
    with hnormal
  have hcheck : queue.initPools.CheckNormalMatch env bgTemplate bracket_id minPlayers
      maxPlayers = some (normal, found) := by
    rw [CheckNormalMatch, hpools]
  have hdrawn : ∀ team ∈ sides, Drawn normal.info maxPlayers
      (normal.normalGroups bracket_id team) (normal.m_SelectionPools team) := by
    intro team hteam
    simp only [sides, mem_cons, not_mem_nil, or_false] at hteam
    rcases hteam with rfl | rfl
    · exact hali
    · exact hhorde
  have hskirmish := skirmishHolds_iff ((hcons.initPools.setPool _ _).setPool _ _) hmin hmax hle
    hdrawn
  constructor
  · rintro ⟨normal', found', hsome, hholds⟩ hfound harena
    rw [hcheck] at hsome
    cases hsome
    exact hskirmish.mp (hholds hfound harena)
  · intro hholds
    exact ⟨normal, found, hcheck, fun hfound harena => hskirmish.mpr (hholds hfound harena)⟩

theorem checksHold_of_eq (hcons : queue.Consistent) (hmin : 1 ≤ minPlayers)
    (hmax : minPlayers < 2 ^ 32) :
    queue.ChecksHold env bgTemplate bracket_id minPlayers minPlayers := by
  obtain ⟨⟨⟨alliance, horde⟩, found⟩, hpools, hali, hhorde⟩ :=
    @normalPools_drawn queue env bgTemplate bracket_id minPlayers minPlayers hmin hmax
  rw [checksHold_iff_pools hcons hmin hmax le_rfl hpools]
  intro _ _
  have haliLe : alliance.PlayerCount ≤ minPlayers := hali.le
  have hhordeLe : horde.PlayerCount ≤ minPlayers := hhorde.le
  by_cases hhordeFull : horde.PlayerCount = minPlayers
  · exact .inr (.inl hhordeFull)
  by_cases haliFull : alliance.PlayerCount = minPlayers
  · obtain ⟨ginfo, hlast⟩ := exists_last hali
      (haliFull ▸ hmin : 1 ≤ alliance.PlayerCount)
    exact .inr (.inr ⟨ginfo, hlast, fun _ => haliFull⟩)
  · exact .inl ⟨lt_of_le_of_ne haliLe haliFull, lt_of_le_of_ne hhordeLe hhordeFull⟩

end BattlegroundQueue

end AzerothCore.Battlegrounds

/-! ## Skirmishes in the testing mode -/

namespace AzerothCore.Battlegrounds
open List

namespace SelectionPool

variable {info : ℕ → GroupQueueInfo} {limit desiredCount : ℕ} {groups rest : List ℕ}
  {pool : SelectionPool} {ginfo : ℕ}

def fits (info : ℕ → GroupQueueInfo) (maxPlayers ginfo : ℕ) : Bool :=
  (info ginfo).IsInvitedToBGInstanceGUID == 0 && decide ((info ginfo).Players.card ≤ maxPlayers)

def single (info : ℕ → GroupQueueInfo) (ginfo : ℕ) : SelectionPool where
  SelectedGroups := [ginfo]
  PlayerCount := (info ginfo).Players.card

theorem AddGroup_init (hmax : desiredCount < 2 ^ 32)
    (hinvited : (info ginfo).IsInvitedToBGInstanceGUID = 0) :
    Init.AddGroup info ginfo desiredCount =
      if (info ginfo).Players.card ≤ desiredCount then (single info ginfo, true)
      else (Init, decide (0 < desiredCount)) := by
  have hcount : Init.PlayerCount + (info ginfo).Players.card = (info ginfo).Players.card :=
    Nat.zero_add _
  rw [AddGroup, hcount]
  by_cases hfits : (info ginfo).Players.card ≤ desiredCount
  · rw [if_pos ⟨hinvited, hfits⟩, if_pos hfits, uint32_of_lt (hfits.trans_lt hmax)]
    rfl
  · rw [if_neg fun hadded => hfits hadded.2, if_neg hfits]
    rfl

theorem addUntilEnough_one (hplayers : ∀ ginfo ∈ groups, (info ginfo).Players.Nonempty)
    (hmax : desiredCount < 2 ^ 32) :
    addUntilEnough info 1 desiredCount groups .Init =
      match groups.find? (fits info desiredCount) with
      | none => (.Init, [])
      | some ginfo => (single info ginfo, ginfo :: BattlegroundQueue.groupsAfter ginfo groups) := by
  induction groups with
  | nil => rfl
  | cons front rest ih =>
    have hrest := ih fun other hother => hplayers other (mem_cons_of_mem _ hother)
    have hskip : fits info desiredCount front = false →
        (match (front :: rest).find? (fits info desiredCount) with
          | none => (SelectionPool.Init, [])
          | some ginfo => (single info ginfo,
              ginfo :: BattlegroundQueue.groupsAfter ginfo (front :: rest))) =
        addUntilEnough info 1 desiredCount rest .Init := by
      intro hnot
      rw [hrest, List.find?_cons_of_neg (by simp [hnot])]
      rcases hfind : rest.find? (fits info desiredCount) with _ | found
      · rfl
      have hne : front ≠ found := by
        rintro rfl
        have hfits := List.find?_some hfind
        rw [hnot] at hfits
        cases hfits
      dsimp only
      rw [BattlegroundQueue.groupsAfter, if_neg hne]
    rw [addUntilEnough]
    by_cases hinvited : (info front).IsInvitedToBGInstanceGUID = 0
    · rw [if_neg (not_not_intro hinvited), AddGroup_init hmax hinvited]
      have hcard := Finset.card_pos.mpr (hplayers front mem_cons_self)
      by_cases hle : (info front).Players.card ≤ desiredCount
      · have hfits : fits info desiredCount front = true := by
          rw [fits, hinvited, decide_eq_true hle]
          rfl
        rw [if_pos hle, List.find?_cons_of_pos hfits]
        dsimp only
        rw [if_pos (show 1 ≤ (single info front).PlayerCount from hcard),
          BattlegroundQueue.groupsAfter, if_pos rfl]
      · have hfits : fits info desiredCount front = false := by
          rw [fits, decide_eq_false hle, Bool.and_false]
        rw [if_neg hle, hskip hfits]
        rfl
    · have hfits : fits info desiredCount front = false := by
        rw [fits, beq_eq_false_iff_ne.mpr hinvited, Bool.false_and]
      rw [if_pos hinvited, hskip hfits]

def isSingle (info : ℕ → GroupQueueInfo) (ginfo : ℕ) : Prop :=
  (info ginfo).IsInvitedToBGInstanceGUID = 0 ∧ (info ginfo).Players.card = 1

theorem addNotInvited_one (hplayers : ∀ ginfo ∈ groups, (info ginfo).Players.Nonempty) :
    (addNotInvited info 1 groups .Init).PlayerCount = 1 ↔ ∃ ginfo ∈ groups, isSingle info ginfo := by
  induction groups with
  | nil => exact iff_of_false Nat.zero_ne_one (fun ⟨_, hmem, _⟩ => nomatch hmem)
  | cons front rest ih =>
    have hplayersRest : ∀ ginfo ∈ rest, (info ginfo).Players.Nonempty :=
      fun other hother => hplayers other (mem_cons_of_mem _ hother)
    have hcard := Finset.card_pos.mpr (hplayers front mem_cons_self)
    have hsplit : (∃ ginfo ∈ front :: rest, isSingle info ginfo) ↔
        isSingle info front ∨ ∃ ginfo ∈ rest, isSingle info ginfo := by
      simp only [mem_cons, exists_eq_or_imp]
    rw [hsplit, addNotInvited]
    by_cases hinvited : (info front).IsInvitedToBGInstanceGUID = 0
    · rw [if_neg (not_not_intro hinvited), AddGroup_init (by decide) hinvited]
      by_cases hle : (info front).Players.card ≤ 1
      · have hfront : isSingle info front := ⟨hinvited, by omega⟩
        rw [if_pos hle]
        dsimp only
        rw [if_pos rfl, BattlegroundQueue.addNotInvited_of_full hcard hplayersRest]
        exact iff_of_true hfront.2 (.inl hfront)
      · have hfront : ¬ isSingle info front := fun hsingle => hle hsingle.2.le
        rw [if_neg hle, or_iff_right hfront, ← ih hplayersRest]
        rfl
    · rw [if_pos hinvited, ih hplayersRest,
        or_iff_right fun hsingle : isSingle info front => hinvited hsingle.1]

section

variable (hdrawn : Drawn info limit groups pool) (hdesired : desiredCount ≤ limit) (hlimit : limit < 2 ^ 32)
include hdrawn hdesired hlimit

theorem Drawn.addNotInvited_grows :
    pool.PlayerCount ≤ (SelectionPool.addNotInvited info desiredCount rest pool).PlayerCount ∧
      pool.SelectedGroups ⊆
        (SelectionPool.addNotInvited info desiredCount rest pool).SelectedGroups := by
  obtain ⟨added, -, hsel⟩ := selected_addNotInvited info desiredCount rest pool
  have hafter : Drawn info limit (groups ++ rest)
      (SelectionPool.addNotInvited info desiredCount rest pool) :=
    hdrawn.addNotInvited hdesired hlimit
  rw [hafter.count, hsel, players_append, hdrawn.count]
  exact ⟨Nat.le_add_right _ _, subset_append_left _ _⟩

theorem Drawn.selected_of_room (hmem : ginfo ∈ rest)
    (hinvited : (info ginfo).IsInvitedToBGInstanceGUID = 0)
    (hplayers : (info ginfo).Players.Nonempty)
    (hroom : (SelectionPool.addNotInvited info desiredCount rest pool).PlayerCount +
      (info ginfo).Players.card ≤ desiredCount) :
    ginfo ∈ (SelectionPool.addNotInvited info desiredCount rest pool).SelectedGroups := by
  have hcard := Finset.card_pos.mpr hplayers
  induction rest generalizing groups pool with
  | nil => cases hmem
  | cons front rest ih =>
    have hgrows : pool.PlayerCount ≤
        (SelectionPool.addNotInvited info desiredCount (front :: rest) pool).PlayerCount :=
      (hdrawn.addNotInvited_grows hdesired hlimit).1
    rw [SelectionPool.addNotInvited] at hroom hgrows ⊢
    by_cases hfront : (info front).IsInvitedToBGInstanceGUID = 0
    swap
    · rw [if_pos hfront] at hroom ⊢
      have hne : ginfo ≠ front := by
        rintro rfl
        exact hfront hinvited
      exact ih hdrawn ((mem_cons.mp hmem).resolve_left hne) hroom
    rw [if_neg (not_not_intro hfront)] at hroom hgrows ⊢
    have hadded : Drawn info limit (groups ++ [front])
        (pool.AddGroup info front desiredCount).1 := hdrawn.addGroup hdesired hlimit
    by_cases hfits : pool.PlayerCount + (info front).Players.card ≤ desiredCount
    · have hadd : pool.AddGroup info front desiredCount =
          ((pool.AddGroup info front desiredCount).1, true) := by
        rw [AddGroup, if_pos ⟨hfront, hfits⟩]
      have hfrontMem : front ∈ (pool.AddGroup info front desiredCount).1.SelectedGroups := by
        rw [AddGroup, if_pos ⟨hfront, hfits⟩]
        exact mem_append_right _ (mem_singleton.mpr rfl)
      rw [hadd] at hroom ⊢
      rcases mem_cons.mp hmem with rfl | hrest
      · exact (hadded.addNotInvited_grows hdesired hlimit).2 hfrontMem
      · exact ih hadded hrest hroom
    · have hadd : pool.AddGroup info front desiredCount =
          (pool, decide (pool.PlayerCount < desiredCount)) := by
        rw [AddGroup, if_neg fun hadded => hfits hadded.2]
      rw [hadd] at hroom hgrows ⊢
      dsimp only at hroom hgrows ⊢
      have hmore : pool.PlayerCount < desiredCount := by omega
      rw [if_pos (decide_eq_true hmore)] at hroom hgrows ⊢
      have hne : ginfo ≠ front := by
        rintro rfl
        omega
      exact ih hdrawn ((mem_cons.mp hmem).resolve_left hne) hroom

end

end SelectionPool

namespace BattlegroundQueue

open SelectionPool

variable {queue : BattlegroundQueue} {env : QueueEnv} {bgTemplate : BattlegroundTemplate}
  {bracket_id : BattlegroundBracketId} {maxPlayers ali horde : ℕ}

/-- The group of a side that `CheckNormalMatch` selects first. -/
def firstFit (queue : BattlegroundQueue) (bracket_id : BattlegroundBracketId) (maxPlayers : ℕ)
    (team : TeamId) : Option ℕ :=
  (queue.normalGroups bracket_id team).find? (fits queue.info maxPlayers)

def SingleBehind (queue : BattlegroundQueue) (bracket_id : BattlegroundBracketId)
    (ali : ℕ) : Prop :=
  ∃ other ∈ groupsAfter ali (queue.normalGroups bracket_id .TEAM_ALLIANCE),
    isSingle queue.info other

/-- The players of the Horde when its first group is joined by those behind it that fit into
the size of a group of the Alliance. -/
def hordeFilled (queue : BattlegroundQueue) (bracket_id : BattlegroundBracketId)
    (ali horde : ℕ) : ℕ :=
  (addNotInvited queue.info (queue.size ali)
    (groupsAfter horde (queue.normalGroups bracket_id .TEAM_HORDE))
    (single queue.info horde)).PlayerCount

/-- When the checks hold with the testing mode on: a group of the Horde that waits without
the Alliance is a single player; a group of the Alliance is a single player or is not
followed by one, unless the Horde has a single player or brings the match about. -/
def TestingHolds (queue : BattlegroundQueue) (env : QueueEnv)
    (bracket_id : BattlegroundBracketId) (maxPlayers : ℕ) : Prop :=
  match queue.firstFit bracket_id maxPlayers .TEAM_ALLIANCE,
    queue.firstFit bracket_id maxPlayers .TEAM_HORDE with
  | none, none => True
  | none, some horde => queue.size horde = 1
  | some ali, none => queue.size ali = 1 ∨ ¬ queue.SingleBehind bracket_id ali
  | some ali, some horde =>
    env.invitationType = BG_QUEUE_INVITATION_TYPE_NO_BALANCE ∨ queue.size ali = 1 ∨
      ¬ queue.SingleBehind bracket_id ali ∨ queue.hordeFilled bracket_id ali horde = 1 ∨
      queue.size ali ≤ queue.hordeFilled bracket_id ali horde + 2

theorem players_normalGroups (hcons : queue.Consistent) (team : TeamId) :
    ∀ ginfo ∈ queue.normalGroups bracket_id team, (queue.info ginfo).Players.Nonempty :=
  fun _ hmem => players_nonempty hcons hmem

theorem firstPool_one (hcons : queue.Consistent) (hmax : maxPlayers < 2 ^ 32) (team : TeamId) :
    queue.firstPool bracket_id 1 maxPlayers team =
      match queue.firstFit bracket_id maxPlayers team with
      | none => (.Init, [])
      | some ginfo =>
        (single queue.info ginfo,
          ginfo :: groupsAfter ginfo (queue.normalGroups bracket_id team)) :=
  addUntilEnough_one (players_normalGroups hcons team) hmax

theorem otherPool_one (hcons : queue.Consistent) :
    (queue.otherPool bracket_id 1 .TEAM_ALLIANCE ali).PlayerCount = 1 ↔
      queue.SingleBehind bracket_id ali :=
  addNotInvited_one fun ginfo hmem =>
    players_normalGroups hcons _ ginfo ((groupsAfter_sublist _ _).mem hmem)

theorem firstFit_spec {team : TeamId} {ginfo : ℕ} (hcons : queue.Consistent)
    (hfind : queue.firstFit bracket_id maxPlayers team = some ginfo) :
    1 ≤ queue.size ginfo ∧ queue.size ginfo ≤ maxPlayers := by
  have hfits := List.find?_some hfind
  have hmem := mem_of_find?_eq_some hfind
  rw [fits, Bool.and_eq_true, decide_eq_true_eq] at hfits
  exact ⟨Finset.card_pos.mpr (players_normalGroups hcons team ginfo hmem), hfits.2⟩

theorem CanStartMatch_arena (harena : bgTemplate.isArena = true)
    (alliance horde : SelectionPool) :
    CanStartMatch env bgTemplate 1 alliance horde =
      (decide (1 ≤ alliance.PlayerCount) && decide (1 ≤ horde.PlayerCount)) := by
  rw [CanStartMatch, harena, Bool.not_true, Bool.and_false, Bool.false_and, Bool.false_or]

theorem checksHold_one_side (hcons : queue.Consistent) (hmax : maxPlayers < 2 ^ 32)
    (hpos : 1 ≤ maxPlayers) (harena : bgTemplate.isArena = true)
    {alliance horde : SelectionPool} {aliFrom hordeFrom : List ℕ}
    (hali : queue.firstPool bracket_id 1 maxPlayers .TEAM_ALLIANCE = (alliance, aliFrom))
    (hhorde : queue.firstPool bracket_id 1 maxPlayers .TEAM_HORDE = (horde, hordeFrom))
    (hempty : ¬ (1 ≤ horde.PlayerCount ∧ 1 ≤ alliance.PlayerCount)) :
    queue.ChecksHold env bgTemplate bracket_id 1 maxPlayers ↔
      (alliance.PlayerCount < 1 ∧ horde.PlayerCount < 1) ∨ horde.PlayerCount = 1 ∨
        ∃ ginfo, alliance.SelectedGroups.getLast? = some ginfo ∧
          (queue.SingleBehind bracket_id ginfo → alliance.PlayerCount = 1) := by
  have hpools : queue.initPools.normalPools env bgTemplate bracket_id 1 maxPlayers =
      some ((alliance, horde), false) := by
    rw [normalPools_initPools hali hhorde, if_neg fun henough => hempty henough.2,
      CanStartMatch_arena harena, ← Bool.decide_and, decide_eq_false fun h => hempty h.symm]
  rw [checksHold_iff_pools hcons le_rfl hmax hpos hpools]
  simp only [harena, forall_const, otherPool_one hcons]

theorem natAbs_int32_sub {first second : ℕ} (hfirst : first < 2 ^ 31) (hsecond : second < 2 ^ 31) :
    (int32 ((first : ℤ) - second)).natAbs = ((first : ℤ) - second).natAbs := by
  unfold int32
  rw [Int.bmod_eq_of_le (by omega) (by omega)]

theorem groupsAfter_append {ginfo : ℕ} {before behind : List ℕ} (hnot : ginfo ∉ before) :
    groupsAfter ginfo (before ++ ginfo :: behind) = behind := by
  induction before with
  | nil => rw [nil_append, groupsAfter, if_pos rfl]
  | cons front rest ih =>
    rw [mem_cons, not_or] at hnot
    rw [cons_append, groupsAfter, if_neg (Ne.symm hnot.1), ih hnot.2]

theorem drawn_single {team : TeamId} {ginfo : ℕ}
    (hfind : queue.firstFit bracket_id maxPlayers team = some ginfo) {limit : ℕ}
    (hle : queue.size ginfo ≤ limit) :
    Drawn queue.info limit [ginfo] (single queue.info ginfo) where
  sublist := List.Sublist.refl _
  notInvited other hother := by
    have hfits := List.find?_some hfind
    rw [fits, Bool.and_eq_true, beq_iff_eq] at hfits
    rw [mem_singleton.mp hother]
    exact hfits.1
  count := rfl
  le := hle

/-- The side of the Alliance, filled up toward a bigger group of the Horde with room to
spare, leaves no single player behind. -/
theorem not_singleBehind_of_room (hcons : queue.Consistent) (hmax : maxPlayers < 2 ^ 32)
    {limit last : ℕ}
    (hfind : queue.firstFit bracket_id maxPlayers .TEAM_ALLIANCE = some ali)
    (hle : queue.size ali ≤ limit) (hlimit : limit ≤ maxPlayers)
    (hroom : (addNotInvited queue.info limit
      (groupsAfter ali (queue.normalGroups bracket_id .TEAM_ALLIANCE))
      (single queue.info ali)).PlayerCount < limit)
    (hlast : (addNotInvited queue.info limit
      (groupsAfter ali (queue.normalGroups bracket_id .TEAM_ALLIANCE))
      (single queue.info ali)).SelectedGroups.getLast? = some last) :
    ¬ queue.SingleBehind bracket_id last := by
  rintro ⟨other, hother, hinvited, hcard⟩
  obtain ⟨hfits, before, behind, hlist, hnot⟩ := List.find?_eq_some_iff_append.mp hfind
  have hali : ali ∉ before := fun hmem => by simpa [hfits] using hnot ali hmem
  have hbehind : groupsAfter ali (queue.normalGroups bracket_id .TEAM_ALLIANCE) = behind := by
    rw [hlist, groupsAfter_append hali]
  rw [hbehind] at hroom hlast
  have hsingle := drawn_single hfind hle
  have hfilled : Drawn queue.info limit ([ali] ++ behind)
      (addNotInvited queue.info limit behind (single queue.info ali)) :=
    hsingle.addNotInvited le_rfl (hlimit.trans_lt hmax)
  have hsub : (addNotInvited queue.info limit behind
      (single queue.info ali)).SelectedGroups.Sublist
        (queue.normalGroups bracket_id .TEAM_ALLIANCE) := by
    rw [hlist]
    exact hfilled.sublist.trans (sublist_append_right _ _)
  refine not_selected_behind hsub (hcons.nodup bracket_id _) hlast other hother ?_
  have hmem := (groupsAfter_sublist last _).mem hother
  rw [hlist, mem_append, mem_cons] at hmem
  rcases hmem with hbefore | rfl | hafter
  · have hfitsOther : fits queue.info maxPlayers other = true := by
      rw [fits, hinvited, hcard, decide_eq_true (by omega)]
      rfl
    simpa [hfitsOther] using hnot other hbefore
  · exact (hsingle.addNotInvited_grows le_rfl (hlimit.trans_lt hmax)).2
      (mem_singleton.mpr rfl)
  · refine hsingle.selected_of_room le_rfl (hlimit.trans_lt hmax) hafter hinvited
      (Finset.card_pos.mp (by omega)) ?_
    omega

variable {pools : SelectionPool × SelectionPool}

theorem judged_arena (harena : bgTemplate.isArena = true) (hali : 1 ≤ pools.1.PlayerCount)
    (haliLt : pools.1.PlayerCount < 2 ^ 31) (hhorde : 1 ≤ pools.2.PlayerCount)
    (hhordeLt : pools.2.PlayerCount < 2 ^ 31) :
    judged env bgTemplate 1 pools =
      (pools, !decide (2 < ((pools.2.PlayerCount : ℤ) - pools.1.PlayerCount).natAbs)) := by
  rw [judged, natAbs_int32_sub hhordeLt haliLt, CanStartMatch_arena harena, decide_eq_true hali,
    decide_eq_true hhorde]
  by_cases hfar : 2 < ((pools.2.PlayerCount : ℤ) - pools.1.PlayerCount).natAbs
  · rw [if_pos hfar, decide_eq_true hfar]
    rfl
  · rw [if_neg hfar, decide_eq_false hfar]
    rfl

section

variable (hcons : queue.Consistent) (hmax : maxPlayers < 2 ^ 31) (hpos : 1 ≤ maxPlayers) (harena : bgTemplate.isArena = true)
include hcons hmax hpos harena

theorem checksHold_judged
    (hpools : queue.initPools.normalPools env bgTemplate bracket_id 1 maxPlayers =
      some (judged env bgTemplate 1 pools)) (hali : 1 ≤ pools.1.PlayerCount)
    (haliLe : pools.1.PlayerCount ≤ maxPlayers) (hhorde : 1 ≤ pools.2.PlayerCount)
    (hhordeLe : pools.2.PlayerCount ≤ maxPlayers) :
    queue.ChecksHold env bgTemplate bracket_id 1 maxPlayers ↔
      (2 < ((pools.2.PlayerCount : ℤ) - pools.1.PlayerCount).natAbs → pools.2.PlayerCount = 1 ∨
          ∃ ginfo, pools.1.SelectedGroups.getLast? = some ginfo ∧
            (queue.SingleBehind bracket_id ginfo → pools.1.PlayerCount = 1)) := by
  rw [judged_arena harena hali (by omega) hhorde (by omega)] at hpools
  rw [checksHold_iff_pools hcons le_rfl (by omega) hpos hpools]
  have hfew : ¬ (pools.1.PlayerCount < 1 ∧ pools.2.PlayerCount < 1) := by omega
  simp only [harena, forall_const, otherPool_one hcons, hfew, false_or, Bool.not_eq_false',
    decide_eq_true_eq]

/-- With a group on each side the check takes the Alliance's group as a team, unless the
sides have enough players for a match. -/
theorem checksHold_both_sides
    (hali : queue.firstFit bracket_id maxPlayers .TEAM_ALLIANCE = some ali)
    (hhorde : queue.firstFit bracket_id maxPlayers .TEAM_HORDE = some horde) :
    queue.ChecksHold env bgTemplate bracket_id 1 maxPlayers ↔
      env.invitationType = BG_QUEUE_INVITATION_TYPE_NO_BALANCE ∨ queue.size ali = 1 ∨
        ¬ queue.SingleBehind bracket_id ali ∨ queue.hordeFilled bracket_id ali horde = 1 ∨
        queue.size ali ≤ queue.hordeFilled bracket_id ali horde + 2 := by
  have hmax' : maxPlayers < 2 ^ 32 := hmax.trans (by decide)
  obtain ⟨haliPos, haliLe⟩ := firstFit_spec hcons hali
  obtain ⟨hhordePos, hhordeLe⟩ := firstFit_spec hcons hhorde
  have haliPool : queue.firstPool bracket_id 1 maxPlayers .TEAM_ALLIANCE = (single queue.info ali,
        ali :: groupsAfter ali (queue.normalGroups bracket_id .TEAM_ALLIANCE)) := by
    rw [firstPool_one hcons hmax', hali]
  have hhordePool : queue.firstPool bracket_id 1 maxPlayers .TEAM_HORDE = (single queue.info horde,
        horde :: groupsAfter horde (queue.normalGroups bracket_id .TEAM_HORDE)) := by
    rw [firstPool_one hcons hmax', hhorde]
  have hpools : queue.initPools.normalPools env bgTemplate bracket_id 1 maxPlayers = _ :=
    normalPools_initPools haliPool hhordePool
  have haliCount : (single queue.info ali).PlayerCount = queue.size ali := rfl
  have hhordeCount : (single queue.info horde).PlayerCount = queue.size horde := rfl
  by_cases hbalance : env.invitationType = BG_QUEUE_INVITATION_TYPE_NO_BALANCE
  · rw [if_neg fun henough => henough.1 hbalance, CanStartMatch_arena harena,
      decide_eq_true (haliCount ▸ haliPos), decide_eq_true (hhordeCount ▸ hhordePos)] at hpools
    rw [checksHold_iff_pools hcons le_rfl hmax' hpos hpools]
    exact iff_of_true nofun (.inl hbalance)
  rw [or_iff_right hbalance]
  rw [if_pos ⟨hbalance, hhordeCount ▸ hhordePos, haliCount ▸ haliPos⟩] at hpools
  unfold evenPools at hpools
  rw [haliCount, hhordeCount] at hpools
  by_cases hless : queue.size horde < queue.size ali
  · rw [if_pos hless] at hpools
    have hsingle := drawn_single hhorde hless.le
    have hgrows : queue.size horde ≤ queue.hordeFilled bracket_id ali horde :=
      (hsingle.addNotInvited_grows le_rfl (haliLe.trans_lt hmax')).1
    have hfilled : Drawn queue.info (queue.size ali)
        ([horde] ++ groupsAfter horde (queue.normalGroups bracket_id .TEAM_HORDE))
        (addNotInvited queue.info (queue.size ali)
          (groupsAfter horde (queue.normalGroups bracket_id .TEAM_HORDE))
          (single queue.info horde)) := hsingle.addNotInvited le_rfl (haliLe.trans_lt hmax')
    have hle : queue.hordeFilled bracket_id ali horde ≤ queue.size ali := hfilled.le
    rw [checksHold_judged hcons hmax hpos harena hpools haliPos haliLe
      (hhordePos.trans hgrows) (hle.trans haliLe)]
    change (2 < ((queue.hordeFilled bracket_id ali horde : ℤ) - queue.size ali).natAbs →
      queue.hordeFilled bracket_id ali horde = 1 ∨ ∃ ginfo, some ali = some ginfo ∧
        (queue.SingleBehind bracket_id ginfo → queue.size ali = 1)) ↔ _
    simp only [Option.some.injEq, exists_eq_left']
    have hfar : 2 < ((queue.hordeFilled bracket_id ali horde : ℤ) - queue.size ali).natAbs ↔
        ¬ queue.size ali ≤ queue.hordeFilled bracket_id ali horde + 2 := by omega
    tauto
  · rw [if_neg hless] at hpools
    rw [not_lt] at hless
    have hsingle := drawn_single hali hless
    set filled := addNotInvited queue.info (queue.size horde)
      (groupsAfter ali (queue.normalGroups bracket_id .TEAM_ALLIANCE)) (single queue.info ali)
      with hfilled
    have hgrows : queue.size ali ≤ filled.PlayerCount :=
      (hsingle.addNotInvited_grows le_rfl (hhordeLe.trans_lt hmax')).1
    have hdrawn : Drawn queue.info (queue.size horde)
        ([ali] ++ groupsAfter ali (queue.normalGroups bracket_id .TEAM_ALLIANCE)) filled :=
      hsingle.addNotInvited le_rfl (hhordeLe.trans_lt hmax')
    have hle : filled.PlayerCount ≤ queue.size horde := hdrawn.le
    have hfull : addNotInvited queue.info (queue.size ali)
        (groupsAfter horde (queue.normalGroups bracket_id .TEAM_HORDE)) (single queue.info horde) =
          single queue.info horde :=
      addNotInvited_of_full hless fun ginfo hmem =>
        players_normalGroups hcons _ ginfo ((groupsAfter_sublist _ _).mem hmem)
    have hhordeFilled : queue.hordeFilled bracket_id ali horde = queue.size horde :=
      congrArg SelectionPool.PlayerCount hfull
    rw [checksHold_judged hcons hmax hpos harena hpools (haliPos.trans hgrows)
      (hle.trans hhordeLe) hhordePos hhordeLe]
    refine iff_of_true (fun hfar => .inr ?_) (.inr (.inr (.inr (by omega))))
    obtain ⟨last, hlast⟩ := exists_last hdrawn (haliPos.trans hgrows)
    refine ⟨last, hlast, fun hsingleBehind => absurd hsingleBehind ?_⟩
    have hroom : filled.PlayerCount < queue.size horde := by
      change 2 < ((queue.size horde : ℤ) - filled.PlayerCount).natAbs at hfar
      omega
    exact not_singleBehind_of_room hcons hmax' hali hless hhordeLe hroom hlast

theorem checksHold_testing_iff : queue.ChecksHold env bgTemplate bracket_id 1 maxPlayers ↔
      queue.TestingHolds env bracket_id maxPlayers := by
  have hmax' : maxPlayers < 2 ^ 32 := hmax.trans (by decide)
  have haliPool := @firstPool_one queue bracket_id maxPlayers hcons hmax' .TEAM_ALLIANCE
  have hhordePool := @firstPool_one queue bracket_id maxPlayers hcons hmax' .TEAM_HORDE
  unfold TestingHolds
  cases hali : queue.firstFit bracket_id maxPlayers .TEAM_ALLIANCE with
  | none =>
    rw [hali] at haliPool
    rcases hhorde : queue.firstFit bracket_id maxPlayers .TEAM_HORDE with _ | horde
    · rw [hhorde] at hhordePool
      rw [checksHold_one_side hcons hmax' hpos harena haliPool hhordePool
        fun h => absurd h.1 (by decide)]
      exact iff_of_true (.inl ⟨Nat.one_pos, Nat.one_pos⟩) trivial
    rw [hhorde] at hhordePool
    rw [checksHold_one_side hcons hmax' hpos harena haliPool hhordePool
      fun h => absurd h.2 (by decide)]
    have hsize := (firstFit_spec hcons hhorde).1
    have hfew : ¬ (SelectionPool.Init.PlayerCount < 1 ∧
        (single queue.info horde).PlayerCount < 1) := fun h => absurd h.2 (not_lt.mpr hsize)
    have hnone : ¬ ∃ ginfo, SelectionPool.Init.SelectedGroups.getLast? = some ginfo ∧
        (queue.SingleBehind bracket_id ginfo → SelectionPool.Init.PlayerCount = 1) :=
      fun ⟨_, hlast, _⟩ => nomatch hlast
    rw [or_iff_right hfew, or_iff_left hnone]
    rfl
  | some ali =>
    rw [hali] at haliPool
    cases hhorde : queue.firstFit bracket_id maxPlayers .TEAM_HORDE with
    | none =>
      rw [hhorde] at hhordePool
      rw [checksHold_one_side hcons hmax' hpos harena haliPool hhordePool
        fun h => absurd h.1 (by decide)]
      have hsize := (firstFit_spec hcons hali).1
      change (queue.size ali < 1 ∧ 0 < 1) ∨ 0 = 1 ∨ (∃ ginfo, some ali = some ginfo ∧
        (queue.SingleBehind bracket_id ginfo → queue.size ali = 1)) ↔ _
      simp only [Option.some.injEq, exists_eq_left']
      have hfew : ¬ (queue.size ali < 1 ∧ 0 < 1) := fun h => absurd h.1 (not_lt.mpr hsize)
      rw [or_iff_right hfew, or_iff_right Nat.zero_ne_one]
      tauto
    | some horde => exact checksHold_both_sides hcons hmax hpos harena hali hhorde

end

/-- With the players of a team that `BattlegroundQueueUpdate` passes, the checks hold but for
an arena in the testing mode, where it depends on the groups. -/
theorem checksHold_iff (hcons : queue.Consistent) {arenaType : ℕ} (harenaType : arenaType < 2 ^ 8)
    (htemplate : bgTemplate.GetMaxPlayersPerTeam < 2 ^ 32)
    (hmin : 1 ≤ (playersPerTeam env bgTemplate arenaType).1)
    (hle : (playersPerTeam env bgTemplate arenaType).1 ≤
      (playersPerTeam env bgTemplate arenaType).2) :
    queue.ChecksHold env bgTemplate bracket_id (playersPerTeam env bgTemplate arenaType).1
        (playersPerTeam env bgTemplate arenaType).2 ↔
      (bgTemplate.isArena = true → env.isArenaTesting = true →
        queue.TestingHolds env bracket_id arenaType) := by
  cases harena : bgTemplate.isArena with
  | false =>
    have hmax : (playersPerTeam env bgTemplate arenaType).2 < 2 ^ 32 := by
      rw [playersPerTeam, harena]
      exact htemplate
    obtain ⟨⟨⟨alliance, horde⟩, found⟩, hpools, -⟩ :=
      @normalPools_drawn queue env bgTemplate bracket_id _ _ hmin hmax
    rw [checksHold_iff_pools hcons hmin hmax hle hpools, harena]
    exact iff_of_true nofun nofun
  | true =>
    cases htesting : env.isArenaTesting with
    | false =>
      have hplayers : playersPerTeam env bgTemplate arenaType = (arenaType, arenaType) := by
        rw [playersPerTeam, harena, htesting]
        rfl
      rw [hplayers] at hmin ⊢
      exact iff_of_true (checksHold_of_eq hcons hmin (by omega))
        nofun
    | true =>
      have hplayers : playersPerTeam env bgTemplate arenaType = (1, arenaType) := by
        rw [playersPerTeam, harena, htesting]
        rfl
      rw [hplayers] at hle ⊢
      rw [checksHold_testing_iff hcons (by omega) hle harena]
      exact ⟨fun hholds _ _ => hholds, fun hholds => hholds rfl rfl⟩

/-! ## A skirmish of two in the testing mode -/

def skirmishArgs (side : TeamId) (players : List ℕ) : AddGroupArgs :=
  { joinArgs side players false with bgTypeId := 6, arenaType := 2 }

def testingEnv : QueueEnv := { checkAt 4000 with isArenaTesting := true, invitationType := 1 }

def arenaTemplate : BattlegroundTemplate where
  isArena := true
  GetMinPlayersPerTeam := 0
  GetMaxPlayersPerTeam := 2

def hordePair : List Op := [.AddGroup 100 1000 (skirmishArgs .TEAM_HORDE [11, 12])]

def twoSingles : List Op :=
  [.AddGroup 100 1000 (skirmishArgs .TEAM_ALLIANCE [1]),
    .AddGroup 101 2000 (skirmishArgs .TEAM_HORDE [11])]

/-- With nobody of the Alliance in the queue, the last group of an empty pool is taken. -/
theorem hordePair_fails : ∃ queue, ReachableQueue queue ∧
    playersPerTeam testingEnv arenaTemplate 2 = (1, 2) ∧
    ¬ queue.ChecksHold testingEnv arenaTemplate 0 1 2 := by
  have hreach : ReachableQueue (queueAfter hordePair) := reachable_queueAfter (by decide +kernel)
  refine ⟨queueAfter hordePair, hreach, rfl, fun hholds => ?_⟩
  rw [checksHold_testing_iff (reachable_consistent hreach) (by decide) (by decide) rfl,
    TestingHolds] at hholds
  have hali : (queueAfter hordePair).firstFit 0 2 .TEAM_ALLIANCE = none := by decide +kernel
  have hhorde : (queueAfter hordePair).firstFit 0 2 .TEAM_HORDE = some 100 := by decide +kernel
  rw [hali, hhorde] at hholds
  revert hholds
  decide +kernel

/-- A single player of each side makes a match. -/
theorem twoSingles_hold : (queueAfter twoSingles).ChecksHold testingEnv arenaTemplate 0 1 2 := by
  refine (checksHold_iff (reachable_consistent (reachable_queueAfter (by decide +kernel)))
    (show 2 < 2 ^ 8 by decide) (by decide) (by decide) (by decide)).mpr fun _ _ => ?_
  exact .inr (.inl (by decide +kernel))

end BattlegroundQueue

end AzerothCore.Battlegrounds
