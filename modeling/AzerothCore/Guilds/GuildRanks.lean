import AzerothCore.Guilds.Guild

/-!
# The ranks of members

Members refer to a rank by its number, and the ranks of a guild are truncated,
appended and replaced on their own. The invariant is that every number is below
the number of ranks; the leader in it keeps a guild from having no rank at all.
-/

namespace AzerothCore.Guilds

open List Option Nat
open Reachability

variable {guild after : Guild}

namespace Guild

def RanksExist (guild : Guild) : Prop :=
  ∀ guid member, guild.GetMember guid = some member → member.m_rankId < guild.m_ranks.length

structure RanksHold (guild : Guild) : Prop where
  leader : guild.m_leaderGuid ∈ guild.m_members
  size : guild.m_ranks.length ≤ GUILD_RANKS_MAX_COUNT
  exist : guild.RanksExist

theorem GetRanksSize_eq (hsize : guild.m_ranks.length ≤ GUILD_RANKS_MAX_COUNT) :
    guild._GetRanksSize = guild.m_ranks.length :=
  uint8_of_lt (Nat.lt_of_le_of_lt hsize (by decide))

variable {guid : ℕ} {member : Member}

namespace RanksHold

section

variable (hranks : RanksHold guild)
include hranks

theorem nonempty : 0 < guild.m_ranks.length := by
  obtain ⟨member, hfind⟩ := StdMap.mem_iff_find?.mp hranks.leader
  exact zero_lt_of_lt (hranks.exist _ member hfind)

theorem GetLowestRankId_eq : guild._GetLowestRankId + 1 = guild.m_ranks.length := by
  have hpos := hranks.nonempty
  have hsize := hranks.size
  have hmax : GUILD_RANKS_MAX_COUNT = 10 := rfl
  rw [_GetLowestRankId, toUint8]
  omega

theorem GetRankInfo_eq (hmember : guild.GetMember guid = some member) :
    ∃ rank ∈ guild.m_ranks, guild.GetRankInfo member.m_rankId = some rank ∧
      guild._GetRankRights member.m_rankId = rank.m_rights := by
  have hlt := hranks.exist guid member hmember
  have hinfo : guild.GetRankInfo member.m_rankId = some guild.m_ranks[member.m_rankId] := by
    rw [GetRankInfo, GetRanksSize_eq hranks.size, if_pos hlt, List.getElem?_eq_getElem hlt]
  refine ⟨_, getElem_mem hlt, hinfo, ?_⟩
  rw [_GetRankRights, hinfo]
  rfl

theorem setMember (hrank : member.m_rankId < guild.m_ranks.length) :
    RanksHold (guild.setMember guid member) where
  leader := StdMap.mem_insert.mpr (.inr hranks.leader)
  size := hranks.size
  exist := by
    intro other found hfind
    rw [GetMember, Guild.setMember, StdMap.find?_insert] at hfind
    split at hfind
    · exact some.inj hfind ▸ hrank
    · exact hranks.exist other found hfind

theorem AddMember {rankId : ℕ} {allowed : Bool}
    (hrank : rankId = GUILD_RANK_NONE ∨ rankId < guild._GetRanksSize) :
    RanksHold (guild.AddMember guid rankId allowed) := by
  unfold Guild.AddMember
  split
  · exact hranks
  apply hranks.setMember
  rw [GetRanksSize_eq hranks.size] at hrank
  split
  · exact lt_of_succ_le hranks.GetLowestRankId_eq.le
  case isFalse hgiven => exact hrank.resolve_left hgiven

theorem HandleUpdateMemberRank (player target : ℕ) (demote : Bool) :
    RanksHold (guild.HandleUpdateMemberRank player target demote) := by
  unfold Guild.HandleUpdateMemberRank
  by_cases hright :
      (!guild._HasRankRight player (if demote then GR_RIGHT_DEMOTE else GR_RIGHT_PROMOTE)) = true
  · rw [if_pos hright]
    exact hranks
  rw [if_neg hright]
  split
  case h_2 => exact hranks
  rename_i member memberMe hmember _
  have hrank := hranks.exist target member hmember
  have hmax : GUILD_RANKS_MAX_COUNT = 10 := rfl
  have hsize := hranks.size
  split
  · exact hranks
  split
  · split
    · exact hranks
    rename_i hchecks
    rw [Bool.or_eq_true, not_or, decide_eq_true_eq] at hchecks
    have hlowest := hranks.GetLowestRankId_eq
    have hnext : member.m_rankId + 1 < guild.m_ranks.length := by omega
    apply hranks.setMember
    rwa [uint8_of_lt (hnext.trans (by omega))]
  · split
    · exact hranks
    rename_i hchecks
    rw [Member.IsRankNotLower, decide_eq_true_eq, not_le] at hchecks
    apply hranks.setMember
    change toUint8 ((member.m_rankId : ℤ) - 1) < _
    rw [toUint8]
    omega

theorem HandleAddNewRank_ranks (player : ℕ) : RanksHold (guild.HandleAddNewRank player) ∧
      (guild.HandleAddNewRank player).m_members = guild.m_members := by
  unfold Guild.HandleAddNewRank
  split
  · exact ⟨hranks, rfl⟩
  rename_i hsize
  split
  case isFalse => exact ⟨hranks, rfl⟩
  rw [_CreateRank, if_neg hsize]
  rw [GetRanksSize_eq hranks.size, not_le] at hsize
  refine ⟨⟨hranks.leader, ?_, ?_⟩, rfl⟩
  · rw [length_append]
    exact hsize
  · intro guid member hmember
    rw [length_append]
    exact lt_succ_of_lt (hranks.exist guid member hmember)

theorem HandleRemoveRank {player rankId : ℕ}
    (hnone : guild.mayRemoveRank player rankId → ∀ guid member,
      guild.GetMember guid = some member → member.m_rankId < rankId) :
    RanksHold (guild.HandleRemoveRank player rankId) := by
  unfold Guild.HandleRemoveRank
  split
  case isFalse => exact hranks
  rename_i hmay
  refine ⟨hranks.leader, (length_take_le' ..).trans hranks.size, ?_⟩
  intro guid member hmember
  rw [length_take]
  exact Nat.lt_min.mpr ⟨hnone hmay guid member hmember, hranks.exist guid member hmember⟩

end

end RanksHold

theorem newLeader_mem {leaving : ℕ} {entries : List (ℕ × Member)}
    {found : Option (ℕ × Member)} {leader : ℕ × Member}
    (hleader : newLeader leaving entries found = some leader) :
    (leader ∈ entries ∧ leader.1 ≠ leaving) ∨ found = some leader := by
  induction entries generalizing found with
  | nil => exact .inr hleader
  | cons entry entries ih =>
    unfold newLeader at hleader
    split at hleader
    · exact (ih hleader).imp_left (.imp_left (mem_cons_of_mem _))
    rename_i hstays
    split at hleader
    · rcases ih hleader with hrest | hfirst
      · exact .inl ⟨mem_cons_of_mem _ hrest.1, hrest.2⟩
      · exact .inl ⟨some.inj hfirst ▸ mem_cons_self, some.inj hfirst ▸ hstays⟩
    case h_2 best =>
      rcases ih hleader with hrest | hfirst
      · exact .inl ⟨mem_cons_of_mem _ hrest.1, hrest.2⟩
      rw [Option.some.injEq] at hfirst
      split at hfirst
      · exact .inl ⟨hfirst ▸ mem_cons_self, hfirst ▸ hstays⟩
      · exact .inr (congrArg some hfirst)

theorem DeleteMember_ranks (hsize : guild.m_ranks.length ≤ GUILD_RANKS_MAX_COUNT)
    (hpos : 0 < guild.m_ranks.length) (hexist : guild.RanksExist)
    (hleader : guild.m_leaderGuid ∈ guild.m_members ∨ guild.m_leaderGuid = guid)
    (hdelete : guild.DeleteMember guid = some after) : RanksHold after := by
  unfold DeleteMember at hdelete
  split at hdelete
  · obtain ⟨leader, hnew, rfl⟩ := map_eq_some_iff.mp hdelete
    have hstays := ((newLeader_mem hnew).resolve_right nofun).2
    refine ⟨StdMap.mem_erase.mpr ⟨hstays, StdMap.mem_insert.mpr (.inl rfl)⟩, hsize, ?_⟩
    intro other member hmember
    rw [GetMember, StdMap.find?_erase] at hmember
    split at hmember
    · cases hmember
    rw [_SetLeaderGUID, Guild.setMember, StdMap.find?_insert] at hmember
    split at hmember
    · exact some.inj hmember ▸ hpos
    · exact hexist other member hmember
  case isFalse hother =>
    cases hdelete
    refine ⟨StdMap.mem_erase.mpr ⟨hother, hleader.resolve_right hother⟩, hsize, ?_⟩
    intro other member hmember
    rw [GetMember, StdMap.find?_erase] at hmember
    split at hmember
    · cases hmember
    · exact hexist other member hmember

theorem CreateRank_length (hsize : guild.m_ranks.length < GUILD_RANKS_MAX_COUNT) (rights : ℕ) :
    (guild._CreateRank rights).m_ranks.length = guild.m_ranks.length + 1 := by
  rw [_CreateRank, GetRanksSize_eq hsize.le, if_neg (not_le.mpr hsize)]
  exact length_append

theorem CreateRank_members (rights : ℕ) :
    (guild._CreateRank rights).m_leaderGuid = guild.m_leaderGuid ∧
      (guild._CreateRank rights).m_members = guild.m_members := by
  unfold _CreateRank
  split
  · exact ⟨rfl, rfl⟩
  · exact ⟨rfl, rfl⟩

theorem CreateDefaultGuildRanks_members :
    guild._CreateDefaultGuildRanks.m_leaderGuid = guild.m_leaderGuid ∧
      guild._CreateDefaultGuildRanks.m_members = guild.m_members := by
  unfold _CreateDefaultGuildRanks
  simp only [CreateRank_members, and_self]

theorem CreateDefaultGuildRanks_length (hnone : guild.m_ranks = []) :
    guild._CreateDefaultGuildRanks.m_ranks.length = 5 := by
  have hmax : GUILD_RANKS_MAX_COUNT = 10 := rfl
  have hfirst := @CreateRank_length guild (by rw [hnone]; decide) GR_RIGHT_ALL
  rw [hnone, length_nil] at hfirst
  have hsecond := CreateRank_length (by omega) GR_RIGHT_ALL |>.trans (congrArg (· + 1) hfirst)
  have hthird := CreateRank_length (by omega) chatRights |>.trans (congrArg (· + 1) hsecond)
  have hfourth := CreateRank_length (by omega) chatRights |>.trans (congrArg (· + 1) hthird)
  exact CreateRank_length (by omega) chatRights |>.trans (congrArg (· + 1) hfourth)

theorem Create_ranks (leader initialTabs : ℕ) : RanksHold (Create leader initialTabs) := by
  have hlen := @CreateDefaultGuildRanks_length (bare leader 0) rfl
  obtain ⟨hleader, hmembers⟩ := @CreateDefaultGuildRanks_members (bare leader 0)
  unfold Create
  generalize (bare leader 0)._CreateDefaultGuildRanks = guild at hlen hleader hmembers ⊢
  have hjoins : guild.AddMember leader GR_GUILDMASTER true =
      guild.setMember leader (Member.new GR_GUILDMASTER) := by
    rw [Guild.AddMember, hmembers, if_neg]
    · rfl
    · exact nofun
  rw [hjoins]
  refine ⟨?_, ?_, ?_⟩
  · exact StdMap.mem_insert.mpr (.inl hleader)
  · exact ((length_map _).trans hlen).trans_le (by decide)
  · intro guid member hmember
    refine Nat.lt_of_lt_of_eq ?_ ((length_map _).trans hlen).symm
    rw [GetMember, Guild.setMember, StdMap.find?_insert, hmembers] at hmember
    split at hmember
    · exact some.inj hmember ▸ zero_lt_succ 4
    · cases hmember

theorem validateRanks_members : guild.validateRanks.m_leaderGuid = guild.m_leaderGuid ∧
      guild.validateRanks.m_members = guild.m_members := by
  unfold validateRanks
  split
  · exact CreateDefaultGuildRanks_members
  · exact ⟨rfl, rfl⟩

theorem validateRanks_length (hloaded : guild.m_ranks.length ≤ 2 ^ 8) :
    GUILD_RANKS_MIN_COUNT ≤ guild.validateRanks.m_ranks.length ∧
      guild.validateRanks.m_ranks.length ≤ GUILD_RANKS_MAX_COUNT := by
  have hmin : GUILD_RANKS_MIN_COUNT = 5 := rfl
  have hmax : GUILD_RANKS_MAX_COUNT = 10 := rfl
  unfold validateRanks
  split
  · rw [CreateDefaultGuildRanks_length rfl]
    exact ⟨hmin.le, by omega⟩
  case isFalse hsound =>
    simp only [ranksAreBroken, Bool.not_eq_true, Bool.or_eq_false_iff, decide_eq_false_iff_not,
      not_lt] at hsound
    have hbounds := hsound.1
    rw [_GetRanksSize, uint8] at hbounds
    rw [length_map]
    omega

def NoRankAtSize (guild : Guild) : Prop :=
  ∀ guid member, guild.GetMember guid = some member → guid ≠ guild.m_leaderGuid →
    member.m_rankId ≠ guild.validateRanks.m_ranks.length

theorem validateMembers_ranks (hsize : guild.m_ranks.length ≤ GUILD_RANKS_MAX_COUNT)
    (hmember : guild.validateMembers.GetMember guid = some member) :
    ∃ loaded, guild.GetMember guid = some loaded ∧
      (guild.m_ranks ≠ [] → loaded.m_rankId ≠ guild.m_ranks.length →
        member.m_rankId < guild.m_ranks.length) := by
  rw [GetMember, validateMembers, StdMap.find?_mapValues] at hmember
  obtain ⟨loaded, hloaded, rfl⟩ := map_eq_some_iff.mp hmember
  refine ⟨loaded, hloaded, fun hranks hrank => ?_⟩
  have hpos := length_pos_of_ne_nil hranks
  rw [GetRanksSize_eq hsize]
  split
  case isFalse hle => exact lt_of_le_of_ne (not_lt.mp hle) hrank
  change guild._GetLowestRankId < _
  rw [_GetLowestRankId, toUint8]
  omega

theorem validateGuildMasters_ranks (hranks : RanksHold guild) (hsize : 1 < guild.m_ranks.length)
    (allowMultipleGuildMaster : Bool) :
    RanksHold (guild.validateGuildMasters allowMultipleGuildMaster) := by
  unfold validateGuildMasters
  split
  · exact hranks
  refine ⟨StdMap.mem_mapValues.mpr hranks.leader, hranks.size, ?_⟩
  intro guid member hmember
  rw [GetMember, StdMap.find?_mapValues] at hmember
  obtain ⟨found, hfound, rfl⟩ := map_eq_some_iff.mp hmember
  split
  · exact hsize
  · exact hranks.exist guid found hfound

theorem Validate_ranks {allowMultipleGuildMaster : Bool}
    (hloaded : guild.m_ranks.length ≤ 2 ^ 8) (hnone : guild.NoRankAtSize)
    (hvalid : guild.Validate allowMultipleGuildMaster = some after) : RanksHold after := by
  obtain ⟨led, hled, rfl⟩ := map_eq_some_iff.mp hvalid
  obtain ⟨hmin, hmax⟩ := validateRanks_length hloaded
  obtain ⟨hleader, hmembers⟩ := @validateRanks_members guild
  have hsame : ∀ guid, guild.validateRanks.GetMember guid = guild.GetMember guid := fun guid =>
    congrArg (StdMap.find? · guid) hmembers
  unfold NoRankAtSize at hnone
  simp only [← hsame, ← hleader] at hnone
  generalize guild.validateRanks = ranked at hmin hmax hnone hled
  have hfull : ranked.m_ranks ≠ [] := by
    intro hempty
    rw [hempty] at hmin
    exact absurd hmin (by decide)
  -- All but the leader have a rank below the number of ranks now.
  have hothers : ∀ guid member, ranked.validateMembers.GetMember guid = some member →
      guid ≠ ranked.m_leaderGuid → member.m_rankId < ranked.m_ranks.length := by
    intro guid member hmember hother
    obtain ⟨loaded, hfind, hrank⟩ := validateMembers_ranks hmax hmember
    exact hrank hfull (hnone guid loaded hfind hother)
  have hpos := length_pos_of_ne_nil hfull
  suffices hvalidated : RanksHold led ∧ led.m_ranks = ranked.m_ranks by
    apply validateGuildMasters_ranks hvalidated.1
    rw [hvalidated.2]
    exact Nat.lt_of_lt_of_le (by decide) hmin
  unfold validateLeader at hled
  split at hled
  case h_1 hnoleader =>
    have hexist : ranked.validateMembers.RanksExist := by
      intro guid member hmember
      apply hothers guid member hmember
      rintro rfl
      exact nomatch hnoleader.symm.trans hmember
    refine ⟨@DeleteMember_ranks ranked.validateMembers _ _ hmax hpos hexist (.inr rfl) hled, ?_⟩
    rw [DeleteMember, if_pos rfl] at hled
    obtain ⟨leader, -, rfl⟩ := map_eq_some_iff.mp hled
    rfl
  case h_2 pLeader hpleader =>
    have hmem := StdMap.mem_of_find? hpleader
    split at hled
    case isTrue hmaster =>
      cases hled
      refine ⟨⟨hmem, hmax, ?_⟩, rfl⟩
      intro guid member hmember
      by_cases hguid : guid = ranked.m_leaderGuid
      · subst hguid
        obtain rfl := some.inj (hpleader.symm.trans hmember)
        exact (of_decide_eq_true hmaster : pLeader.m_rankId = GR_GUILDMASTER) ▸ hpos
      · exact hothers guid member hmember hguid
    case isFalse =>
      cases hled
      refine ⟨⟨StdMap.mem_insert.mpr (.inr hmem), hmax, ?_⟩, rfl⟩
      intro guid member hmember
      rw [GetMember, _SetLeaderGUID, Guild.setMember, StdMap.find?_insert] at hmember
      split at hmember
      · exact some.inj hmember ▸ hpos
      case isFalse hguid => exact hothers guid member hmember (Ne.symm hguid)

inductive RankStart (condition : Guild → Prop) : Guild → Prop
  | created (leader initialTabs : ℕ) : RankStart condition (Create leader initialTabs)
  | loaded {loaded after : Guild} {allowMultipleGuildMaster : Bool} :
      loaded.m_ranks.length ≤ 2 ^ 8 → condition loaded →
      loaded.Validate allowMultipleGuildMaster = some after → RankStart condition after

inductive RankOp where
  | addMember (guid rankId : ℕ) (allowed : Bool)
  | deleteMember (guid : ℕ)
  | updateMemberRank (player target : ℕ) (demote : Bool)
  | addNewRank (player : ℕ)
  | removeRank (player rankId : ℕ)

def performRank (guild : Guild) : RankOp → Option Guild
  | .addMember guid rankId allowed =>
    if rankId = GUILD_RANK_NONE ∨ rankId < guild._GetRanksSize then
      some (guild.AddMember guid rankId allowed)
    else none
  | .deleteMember guid => guild.DeleteMember guid
  | .updateMemberRank player target demote =>
    some (guild.HandleUpdateMemberRank player target demote)
  | .addNewRank player => some (guild.HandleAddNewRank player)
  | .removeRank player rankId => some (guild.HandleRemoveRank player rankId)

/-- Ranks are only removed when no member has them. -/
def KeepsRanks (guild : Guild) : RankOp → Prop
  | .removeRank player rankId => guild.mayRemoveRank player rankId → ∀ guid member,
      guild.GetMember guid = some member → member.m_rankId < rankId
  | _ => True

theorem performRank_ranks (hranks : RanksHold guild) {op : RankOp}
    (hkeeps : guild.KeepsRanks op) (hperform : guild.performRank op = some after) :
    RanksHold after := by
  cases op with
  | addMember guid rankId allowed =>
    rw [performRank] at hperform
    split at hperform
    case isTrue hrank => exact some.inj hperform ▸ hranks.AddMember hrank
    case isFalse => cases hperform
  | deleteMember guid =>
    exact DeleteMember_ranks hranks.size hranks.nonempty hranks.exist (.inl hranks.leader)
      hperform
  | updateMemberRank player target demote =>
    exact some.inj hperform ▸ hranks.HandleUpdateMemberRank player target demote
  | addNewRank player =>
    exact some.inj hperform ▸ (hranks.HandleAddNewRank_ranks player).1
  | removeRank player rankId =>
    exact some.inj hperform ▸ hranks.HandleRemoveRank hkeeps

/-- In every run in which no rank is removed that a member has, and no guild is loaded
with a member whose rank is the number of ranks, the ranks of all members exist, their
rights are the members' rights, and a new rank has no members. -/
theorem reachable_ranks_exist
    (hreach : Reachable (RankStart NoRankAtSize) (guarded KeepsRanks (computed performRank))
      guild) :
    guild.RanksExist ∧ (∀ guid member, guild.GetMember guid = some member →
        ∃ rank ∈ guild.m_ranks, guild.GetRankInfo member.m_rankId = some rank ∧
          guild._GetRankRights member.m_rankId = rank.m_rights) ∧
      ∀ player guid member, (guild.HandleAddNewRank player).GetMember guid = some member →
        member.m_rankId < guild.m_ranks.length := by
  have hranks : RanksHold guild := by
    refine hreach.invariant RanksHold ?_ ?_
    · intro start hstart
      cases hstart with
      | created leader initialTabs => exact Create_ranks leader initialTabs
      | loaded hloaded hnone hvalid => exact Validate_ranks hloaded hnone hvalid
    · rintro before op next hbefore ⟨hkeeps, hperform⟩
      exact performRank_ranks hbefore hkeeps hperform
  refine ⟨hranks.exist, fun guid member => hranks.GetRankInfo_eq, ?_⟩
  intro player guid member hmember
  rw [GetMember, (hranks.HandleAddNewRank_ranks player).2] at hmember
  exact hranks.exist guid member hmember

/-- The lowest of six ranks is removed while nobody has it. -/
theorem sixth_rank_is_removed :
    (((Create 1 0).HandleAddNewRank 1).HandleRemoveRank 1 5).RanksExist := by
  have hadded : guarded KeepsRanks (computed performRank) (Create 1 0) (.addNewRank 1)
      ((Create 1 0).HandleAddNewRank 1) := ⟨trivial, rfl⟩
  have hremoved : guarded KeepsRanks (computed performRank)
      ((Create 1 0).HandleAddNewRank 1) (.removeRank 1 5)
      (((Create 1 0).HandleAddNewRank 1).HandleRemoveRank 1 5) := by
    refine ⟨fun _ guid member hmember => ?_, rfl⟩
    have hall : ∀ entry ∈ ((Create 1 0).HandleAddNewRank 1).m_members.entries,
        entry.2.m_rankId < 5 := by decide +kernel
    exact hall (guid, member) (StdMap.find?_eq_some_iff.mp hmember)
  exact (reachable_ranks_exist (((Reachable.start (.created 1 0)).step hadded).step
    hremoved)).1

/-! ## Ranks that members lose -/

def sixRanks : Guild := ((Create 1 0).HandleAddNewRank 1).AddMember 2 GUILD_RANK_NONE true

def loadedGuild : Guild := (Create 1 0).setMember 2 (Member.new 5)

/-- A member keeps the number of a rank that is removed, and a number that is one too
large is not repaired. -/
theorem ranks_are_lost : (∃ guild, Reachable (RankStart NoRankAtSize) (computed performRank) guild ∧
      ¬ guild.RanksExist) ∧
    ∃ guild, RankStart (fun _ => True) guild ∧ ¬ guild.RanksExist := by
  have hadded : (Create 1 0).performRank (.addNewRank 1) =
      some ((Create 1 0).HandleAddNewRank 1) := rfl
  have hjoins : ((Create 1 0).HandleAddNewRank 1).performRank
      (.addMember 2 GUILD_RANK_NONE true) = some sixRanks := by
    rfl
  have hremoved : sixRanks.performRank (.removeRank 1 5) =
      some (sixRanks.HandleRemoveRank 1 5) := rfl
  constructor
  · refine ⟨sixRanks.HandleRemoveRank 1 5, (((Reachable.start (.created 1 0)).step
      hadded).step hjoins).step hremoved, fun hexist => ?_⟩
    exact absurd (hexist 2 (Member.new 5) (by decide +kernel)) (by decide +kernel)
  · have hvalidated : (loadedGuild.Validate false).any fun guild =>
        guild.GetMember 2 = some (Member.new 5) ∧ guild.m_ranks.length ≤ 5 := by
      decide +kernel
    obtain ⟨guild, hvalid, hrank⟩ := (Option.any_eq_true ..).mp hvalidated
    rw [decide_eq_true_eq] at hrank
    refine ⟨guild, .loaded (by decide +kernel) trivial hvalid, fun hexist => ?_⟩
    exact absurd (hexist 2 (Member.new 5) hrank.1) (not_lt.mpr hrank.2)

end Guild

end AzerothCore.Guilds
