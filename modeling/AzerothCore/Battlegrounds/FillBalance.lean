import AzerothCore.Battlegrounds.PremadeWait
import Mathlib.Algebra.Order.BigOperators.Group.List
import Mathlib.Algebra.Order.Group.Nat

/-!
# The balance of `FillPlayersToBG`

The pools of both sides are filled up to the free slots, and then groups are kicked
until the sides differ by at most one slot or the side that leads has nobody left to
kick. No kicked group is tried again, so the groups of both queues bound the rounds.
-/

namespace AzerothCore.Battlegrounds
open Nat

/-! ## The free slots of a battleground -/

/-- What `Battleground::GetFreeSlotsForTeam` reads. The most players of a team come
from a `uint16` of the template, so they fit an `int32`. -/
structure Slots where
  takesPlayers : Bool
  invitedCount : TeamId → ℕ
  playersCount : TeamId → ℕ
  minPlayersPerTeam : ℕ
  maxPlayersPerTeam : ℕ
  maxPlayersPerTeam_lt : maxPlayersPerTeam < 2 ^ 31

namespace TeamId

def opponent : TeamId → TeamId
  | TEAM_ALLIANCE => TEAM_HORDE
  | TEAM_HORDE | TEAM_NEUTRAL => TEAM_ALLIANCE

end TeamId

namespace Slots

variable (slots : Slots)

/-- What is left of the most players of a team. -/
def room (team : TeamId) : ℕ :=
  if slots.invitedCount team < slots.maxPlayersPerTeam then
    slots.maxPlayersPerTeam - slots.invitedCount team
  else 0

def invitedDifference (team : TeamId) : ℕ :=
  if slots.invitedCount team.opponent = slots.invitedCount team then 1
  else if slots.invitedCount team.opponent > slots.invitedCount team then
    slots.invitedCount team.opponent - slots.invitedCount team
  else 0

def enteredDifference (team : TeamId) : ℕ :=
  if slots.playersCount team.opponent = slots.playersCount team then 1
  else if slots.playersCount team.opponent > slots.playersCount team then
    slots.playersCount team.opponent - slots.playersCount team
  else if slots.invitedCount team ≤ slots.minPlayersPerTeam then
    slots.minPlayersPerTeam - slots.invitedCount team + 1
  else 0

def GetFreeSlotsForTeam (invitationType : ℕ) (team : TeamId) : ℕ :=
  if ¬ slots.takesPlayers then 0
  else if invitationType = BG_QUEUE_INVITATION_TYPE_NO_BALANCE then slots.room team
  else min (min (slots.invitedDifference team) (slots.room team)) (slots.enteredDifference team)

theorem room_le (team : TeamId) : slots.room team ≤ slots.maxPlayersPerTeam := by
  unfold room
  split
  · exact sub_le _ _
  · exact Nat.zero_le _

theorem GetFreeSlotsForTeam_le (invitationType : ℕ) (team : TeamId) :
    slots.GetFreeSlotsForTeam invitationType team ≤ slots.maxPlayersPerTeam := by
  unfold GetFreeSlotsForTeam
  split
  · exact Nat.zero_le _
  split
  · exact slots.room_le team
  calc
    min (min (slots.invitedDifference team) (slots.room team)) (slots.enteredDifference team)
        ≤ min (slots.invitedDifference team) (slots.room team) := min_le_left _ _
    _ ≤ slots.room team := min_le_right _ _
    _ ≤ slots.maxPlayersPerTeam := slots.room_le team

end Slots

namespace SelectionPool

def players (info : ℕ → GroupQueueInfo) (groups : List ℕ) : ℕ :=
  (groups.map fun ginfo => (info ginfo).Players.card).sum

/-- A pool holds different groups of a queue that are not invited, none of them among
those that are still to be tried, and no more players than there are free slots. -/
structure Fits (info : ℕ → GroupQueueInfo) (free : ℕ) (groups : List ℕ) (pool : SelectionPool)
    (rest : List ℕ) : Prop where
  nodup : (pool.SelectedGroups ++ rest).Nodup
  selected : ∀ ginfo ∈ pool.SelectedGroups, ginfo ∈ groups
  untried : ∀ ginfo ∈ rest, ginfo ∈ groups
  notInvited : ∀ ginfo ∈ pool.SelectedGroups, (info ginfo).IsInvitedToBGInstanceGUID = 0
  count : pool.PlayerCount = players info pool.SelectedGroups
  le : pool.PlayerCount ≤ free

variable {info : ℕ → GroupQueueInfo} {free desiredCount : ℕ} {groups rest : List ℕ}
  {pool : SelectionPool} {ginfo : ℕ}

theorem players_append (first second : List ℕ) :
    players info (first ++ second) = players info first + players info second := by
  unfold players
  rw [List.map_append, List.sum_append]

theorem Fits.init (hnodup : groups.Nodup) (free : ℕ) : Fits info free groups .Init groups where
  nodup := hnodup
  selected _ hginfo := nomatch hginfo
  untried _ hginfo := hginfo
  notInvited _ hginfo := nomatch hginfo
  count := rfl
  le := Nat.zero_le _

/-- What is selected and what is still to be tried, weighted so that a group that is
tried counts for more than one that is selected. -/
def potential (pool : SelectionPool) (rest : List ℕ) : ℕ :=
  2 * rest.length + pool.SelectedGroups.length

theorem Fits.addGroup (hfits : Fits info free groups pool (ginfo :: rest))
    (hdesired : desiredCount ≤ free) (hfree : free < 2 ^ 32) :
    Fits info free groups (pool.AddGroup info ginfo desiredCount).1 rest ∧
      (pool.AddGroup info ginfo desiredCount).1.SelectedGroups.length ≤
        pool.SelectedGroups.length + 1 := by
  unfold AddGroup
  split
  case isFalse =>
    refine ⟨{ hfits with nodup := ?_, untried := ?_ }, le_succ _⟩
    · exact hfits.nodup.sublist ((List.sublist_cons_self ginfo rest).append_left _)
    · exact fun other hother => hfits.untried other (List.mem_cons_of_mem _ hother)
  rename_i hfit
  obtain ⟨hinvited, hroom⟩ := hfit
  have hcount : uint32 (pool.PlayerCount + (info ginfo).Players.card) =
      pool.PlayerCount + (info ginfo).Players.card := uint32_of_lt (by omega)
  refine ⟨⟨?_, ?_, ?_, ?_, ?_, ?_⟩, ?_⟩
  · rw [List.append_assoc]
    exact hfits.nodup
  · intro other hother
    rcases List.mem_append.mp hother with hold | hnew
    · exact hfits.selected other hold
    · rw [List.mem_singleton.mp hnew]
      exact hfits.untried ginfo List.mem_cons_self
  · exact fun other hother => hfits.untried other (List.mem_cons_of_mem _ hother)
  · intro other hother
    rcases List.mem_append.mp hother with hold | hnew
    · exact hfits.notInvited other hold
    · rw [List.mem_singleton.mp hnew]
      exact hinvited
  · rw [hcount, hfits.count, players_append]
    rfl
  · rw [hcount]
    exact hroom.trans hdesired
  · rw [List.length_append, List.length_singleton]

theorem Fits.addUntilRefused (hfits : Fits info free groups pool rest)
    (hdesired : desiredCount ≤ free) (hfree : free < 2 ^ 32) :
    Fits info free groups (addUntilRefused info desiredCount rest pool).1
        (addUntilRefused info desiredCount rest pool).2 ∧
      potential (addUntilRefused info desiredCount rest pool).1
        (addUntilRefused info desiredCount rest pool).2 ≤ potential pool rest := by
  induction rest generalizing pool with
  | nil => exact ⟨hfits, le_rfl⟩
  | cons ginfo rest ih =>
    obtain ⟨hadded, hlen⟩ := hfits.addGroup hdesired hfree
    rw [SelectionPool.addUntilRefused]
    cases hadd : pool.AddGroup info ginfo desiredCount with
    | mk next accepted =>
      rw [hadd] at hadded hlen
      cases accepted with
      | true =>
        obtain ⟨hnext, hpotential⟩ := ih hadded
        refine ⟨hnext, hpotential.trans ?_⟩
        unfold potential
        rw [List.length_cons]
        omega
      | false =>
        have hsame : next = pool := by
          unfold AddGroup at hadd
          split at hadd
          · exact nomatch congrArg Prod.snd hadd
          · exact (congrArg Prod.fst hadd).symm
        subst hsame
        exact ⟨hfits, le_rfl⟩

theorem groupToKick_mem (size : ℕ) (list : List ℕ) (kick : ℕ) (foundProper : Bool) :
    (groupToKick info size list kick foundProper).1 ∈ kick :: list := by
  induction list generalizing kick foundProper with
  | nil => exact List.mem_cons_self
  | cons gInfo rest ih =>
    rw [groupToKick]
    split
    · exact List.mem_cons_of_mem _ (ih gInfo true)
    split
    · exact List.mem_cons_of_mem _ (ih gInfo foundProper)
    rcases List.mem_cons.mp (ih kick foundProper) with hkick | hrest
    · rw [hkick]
      exact List.mem_cons_self
    · exact List.mem_cons_of_mem _ (List.mem_cons_of_mem _ hrest)

theorem toUint32_add_sub {kicked left : ℕ} (hlt : left < 2 ^ 32) :
    toUint32 (((kicked + left : ℕ) : ℤ) - kicked) = left := by
  have hsub : ((kicked + left : ℕ) : ℤ) - kicked = left := by omega
  unfold toUint32
  rw [hsub, Int.emod_eq_of_lt (Int.natCast_nonneg left) (by exact_mod_cast hlt), Int.toNat_natCast]

theorem KickGroup_eq (size : ℕ) (hne : pool.SelectedGroups ≠ []) :
    ∃ kick ∈ pool.SelectedGroups, (pool.KickGroup info size).1 =
      { SelectedGroups := pool.SelectedGroups.filter (· ≠ kick)
        PlayerCount := toUint32 (pool.PlayerCount - (info kick).Players.card) } := by
  obtain ⟨front, others, hsel⟩ := List.exists_cons_of_ne_nil hne
  have hmem := @groupToKick_mem info size pool.SelectedGroups front false
  unfold KickGroup
  split
  case h_1 hempty => exact absurd hempty hne
  rename_i other rest hcons
  obtain ⟨rfl, rfl⟩ := List.cons.inj (hsel.symm.trans hcons)
  generalize groupToKick info size pool.SelectedGroups front false = found at hmem ⊢
  obtain ⟨kick, foundProper⟩ := found
  refine ⟨kick, ?_, rfl⟩
  rcases List.mem_cons.mp hmem with hfront | hin
  · change kick = front at hfront
    rw [hfront, hsel]
    exact List.mem_cons_self
  · exact hin

theorem Fits.kickGroup (hfits : Fits info free groups pool rest) (hfree : free < 2 ^ 32)
    (size : ℕ) (hne : pool.SelectedGroups ≠ []) :
    Fits info free groups (pool.KickGroup info size).1 rest ∧
      (pool.KickGroup info size).1.SelectedGroups.length < pool.SelectedGroups.length := by
  obtain ⟨kick, hkick, hpool⟩ := @KickGroup_eq info pool size hne
  have hselectedNodup := (List.nodup_append.mp hfits.nodup).1
  have herase : pool.SelectedGroups.filter (· ≠ kick) = pool.SelectedGroups.erase kick := by
    rw [hselectedNodup.erase_eq_filter]
    apply List.filter_congr
    intro ginfo _
    simp only [ne_eq, decide_not, bne, beq_eq_decide]
  have hsum : players info pool.SelectedGroups =
      (info kick).Players.card + players info (pool.SelectedGroups.erase kick) := by
    unfold players
    rw [((List.perm_cons_erase hkick).map _).sum_eq, List.map_cons, List.sum_cons]
  have hle := hfits.le
  rw [hfits.count, hsum] at hle
  have hleft : players info (pool.SelectedGroups.erase kick) ≤ free :=
    (Nat.le_add_left _ _).trans hle
  rw [hpool, hfits.count, hsum, herase, toUint32_add_sub (hleft.trans_lt hfree)]
  refine ⟨⟨?_, ?_, hfits.untried, ?_, rfl, hleft⟩, ?_⟩
  · exact hfits.nodup.sublist (List.erase_sublist.append_right _)
  · exact fun ginfo hginfo => hfits.selected ginfo (List.mem_of_mem_erase hginfo)
  · exact fun ginfo hginfo => hfits.notInvited ginfo (List.mem_of_mem_erase hginfo)
  · have hlen := List.length_erase_of_mem hkick
    have hpos := List.length_pos_of_mem hkick
    change (pool.SelectedGroups.erase kick).length < _
    omega

theorem KickGroup_of_empty (size : ℕ) (hempty : pool.SelectedGroups = []) :
    pool.KickGroup info size = (pool, false) := by
  unfold KickGroup
  rw [hempty]

section

variable (hfits : Fits info free groups pool rest)
include hfits

theorem Fits.kicked (hfree : free < 2 ^ 32)
    (size : ℕ) :
    Fits info free groups (pool.KickGroup info size).1 rest ∧
      potential (pool.KickGroup info size).1 rest ≤ potential pool rest ∧
      (pool.SelectedGroups ≠ [] →
        potential (pool.KickGroup info size).1 rest < potential pool rest) := by
  by_cases hempty : pool.SelectedGroups = []
  · rw [KickGroup_of_empty size hempty]
    exact ⟨hfits, le_rfl, fun hne => absurd hempty hne⟩
  obtain ⟨hkicked, hless⟩ := hfits.kickGroup hfree size hempty
  have hlower : potential (pool.KickGroup info size).1 rest < potential pool rest :=
    Nat.add_lt_add_left hless _
  exact ⟨hkicked, hlower.le, fun _ => hlower⟩

theorem Fits.playerCount_eq_zero_iff (hplayers : ∀ ginfo ∈ groups, (info ginfo).Players.Nonempty) :
    pool.PlayerCount = 0 ↔ pool.SelectedGroups = [] := by
  rw [hfits.count]
  constructor
  · intro hzero
    rw [List.eq_nil_iff_forall_not_mem]
    intro ginfo hginfo
    have hcard : (info ginfo).Players.card ∈
        pool.SelectedGroups.map fun ginfo => (info ginfo).Players.card :=
      List.mem_map_of_mem hginfo
    have hpos := Finset.card_pos.mpr (hplayers ginfo (hfits.selected ginfo hginfo))
    have hle := List.single_le_sum (fun _ _ => Nat.zero_le _) _ hcard
    unfold players at hzero
    omega
  · intro hempty
    rw [hempty]
    rfl

/-- A kick that is filled up again keeps the pool fitting. It lowers the potential of a
pool with groups and leaves a pool without groups alone. -/
theorem Fits.kickAndRefill (hfree : free < 2 ^ 32)
    (size : ℤ) {desired : ℤ} (hdesired : 0 ≤ desired ∧ desired ≤ free) :
    ∃ next left, BattlegroundQueue.kickAndRefill info size desired rest pool = (next, left) ∧
      Fits info free groups next left ∧
      (pool.SelectedGroups ≠ [] → potential next left < potential pool rest) ∧
      (pool.SelectedGroups = [] → next = pool ∧ left = rest) := by
  have hcast : toUint32 desired ≤ free := by
    unfold toUint32
    omega
  unfold BattlegroundQueue.kickAndRefill
  by_cases hempty : pool.SelectedGroups = []
  · rw [KickGroup_of_empty _ hempty]
    exact ⟨pool, rest, rfl, hfits, fun hne => absurd hempty hne, fun _ => ⟨rfl, rfl⟩⟩
  obtain ⟨hkicked, hless⟩ := hfits.kickGroup hfree (toUint32 size) hempty
  have hlower : potential (pool.KickGroup info (toUint32 size)).1 rest < potential pool rest :=
    Nat.add_lt_add_left hless _
  revert hkicked hlower
  cases pool.KickGroup info (toUint32 size) with
  | mk next kickedMore =>
    intro hkicked hlower
    cases kickedMore with
    | false =>
      exact ⟨next, rest, rfl, hkicked, fun _ => hlower, fun h => absurd h hempty⟩
    | true =>
      obtain ⟨hfilled, hle⟩ := hkicked.addUntilRefused hcast hfree
      exact ⟨_, _, rfl, hfilled, fun _ => hle.trans_lt hlower, fun h => absurd h hempty⟩

end

end SelectionPool

namespace BattlegroundQueue

open SelectionPool

namespace FillState

structure Filled (info : ℕ → GroupQueueInfo) (aliFree hordeFree : ℕ)
    (aliGroups hordeGroups : List ℕ) (fill : FillState) : Prop where
  alliance : Fits info aliFree aliGroups fill.alliance fill.aliRest
  horde : Fits info hordeFree hordeGroups fill.horde fill.hordeRest

/-- What bounds the rounds that are left. -/
def potential (fill : FillState) : ℕ :=
  SelectionPool.potential fill.alliance fill.aliRest +
    SelectionPool.potential fill.horde fill.hordeRest

end FillState

def Balanced (aliFree hordeFree : ℤ) (alliance horde : SelectionPool) : Prop :=
  (aliFree - alliance.PlayerCount < hordeFree - horde.PlayerCount - 1 →
      alliance.SelectedGroups = []) ∧
    (hordeFree - horde.PlayerCount < aliFree - alliance.PlayerCount - 1 → horde.SelectedGroups = [])

variable {info : ℕ → GroupQueueInfo} {aliFree hordeFree : ℕ} {aliGroups hordeGroups : List ℕ}

theorem int32_count {count free : ℕ} (hle : count ≤ free) (hfree : free < 2 ^ 31) :
    int32 (count : ℤ) = count := by
  apply Int.bmod_eq_of_le <;> omega

theorem refill_target {free : ℕ} {other : ℤ} (hother : 0 ≤ other) :
    0 ≤ (if other ≤ free then (free : ℤ) - other else 0) ∧
      (if other ≤ free then (free : ℤ) - other else 0) ≤ free := by
  split <;> omega

theorem kick_lower {pool next other otherNext : SelectionPool}
    {rest left otherRest : List ℕ}
    (hgo : pool.SelectedGroups ≠ [] ∨ other.SelectedGroups ≠ [])
    (hlower : pool.SelectedGroups ≠ [] →
      SelectionPool.potential next left < SelectionPool.potential pool rest)
    (hsame : pool.SelectedGroups = [] → next = pool ∧ left = rest)
    (hotherLe : SelectionPool.potential otherNext otherRest ≤
      SelectionPool.potential other otherRest)
    (hotherLower : other.SelectedGroups ≠ [] →
      SelectionPool.potential otherNext otherRest < SelectionPool.potential other otherRest) :
    SelectionPool.potential next left + SelectionPool.potential otherNext otherRest <
      SelectionPool.potential pool rest + SelectionPool.potential other otherRest := by
  by_cases hempty : pool.SelectedGroups = []
  · obtain ⟨rfl, rfl⟩ := hsame hempty
    have hother := hgo.resolve_left fun hne => hne hempty
    exact Nat.add_lt_add_left (hotherLower hother) _
  · exact Nat.add_lt_add_of_lt_of_le (hlower hempty) hotherLe

theorem balancePools_spec (hali : ∀ ginfo ∈ aliGroups, (info ginfo).Players.Nonempty)
    (hhorde : ∀ ginfo ∈ hordeGroups, (info ginfo).Players.Nonempty)
    (haliFree : aliFree < 2 ^ 31) (hhordeFree : hordeFree < 2 ^ 31) (rounds : ℕ)
    (fill : FillState) (hfilled : fill.Filled info aliFree hordeFree aliGroups hordeGroups)
    (hrounds : fill.potential < rounds) :
    ∃ result, balancePools info aliFree hordeFree rounds fill = some result ∧
      result.Filled info aliFree hordeFree aliGroups hordeGroups ∧
      Balanced aliFree hordeFree result.alliance result.horde := by
  induction rounds generalizing fill with
  | zero => exact absurd hrounds (Nat.not_lt_zero _)
  | succ rounds ih =>
    have haliCount := int32_count hfilled.alliance.le haliFree
    have hhordeCount := int32_count hfilled.horde.le hhordeFree
    have haliLeft : 0 ≤ (aliFree : ℤ) - fill.alliance.PlayerCount :=
      Int.sub_nonneg_of_le (by exact_mod_cast hfilled.alliance.le)
    have hhordeLeft : 0 ≤ (hordeFree : ℤ) - fill.horde.PlayerCount :=
      Int.sub_nonneg_of_le (by exact_mod_cast hfilled.horde.le)
    have haliZero := hfilled.alliance.playerCount_eq_zero_iff hali
    have hhordeZero := hfilled.horde.playerCount_eq_zero_iff hhorde
    rw [balancePools]
    dsimp only
    rw [haliCount, hhordeCount]
    split
    case isFalse hstop =>
      refine ⟨fill, rfl, hfilled, ?_⟩
      unfold Balanced
      rw [← haliZero, ← hhordeZero]
      omega
    rename_i hgo
    have hsel : fill.alliance.SelectedGroups ≠ [] ∨ fill.horde.SelectedGroups ≠ [] := by
      rw [ne_eq, ne_eq, ← haliZero, ← hhordeZero]
      omega
    split
    case isTrue hless =>
      obtain ⟨alliance, aliRest, hround, hkicked, hlower, hsame⟩ :=
        hfilled.alliance.kickAndRefill (by omega)
          ((hordeFree : ℤ) - fill.horde.PlayerCount -
            (aliFree - fill.alliance.PlayerCount)) (refill_target hhordeLeft)
      obtain ⟨hother, hotherLe, hotherLower⟩ := hfilled.horde.kicked (by omega)
        (toUint32 ((hordeFree : ℤ) - fill.horde.PlayerCount -
          (aliFree - fill.alliance.PlayerCount)))
      have hkickedZero := hkicked.playerCount_eq_zero_iff hali
      rw [hround]
      split
      case isTrue hnone =>
        split
        case isTrue hbreak =>
          refine ⟨_, rfl, ⟨hkicked, hfilled.horde⟩, fun _ => hkickedZero.mp hnone, ?_⟩
          dsimp only
          omega
        case isFalse hnoBreak =>
          apply ih
          · exact ⟨hkicked, hother⟩
          · apply lt_of_lt_of_le _ (le_of_lt_succ hrounds)
            exact kick_lower hsel hlower hsame hotherLe hotherLower
      case isFalse hsome =>
        apply ih
        · exact ⟨hkicked, hfilled.horde⟩
        · apply lt_of_lt_of_le _ (le_of_lt_succ hrounds)
          apply Nat.add_lt_add_right
          apply hlower
          intro hempty
          rw [(hsame hempty).1] at hsome
          exact hsome (haliZero.mpr hempty)
    case isFalse hnotLess =>
      obtain ⟨horde, hordeRest, hround, hkicked, hlower, hsame⟩ :=
        hfilled.horde.kickAndRefill (by omega)
          ((aliFree : ℤ) - fill.alliance.PlayerCount -
            (hordeFree - fill.horde.PlayerCount)) (refill_target haliLeft)
      obtain ⟨hother, hotherLe, hotherLower⟩ := hfilled.alliance.kicked (by omega)
        (toUint32 ((aliFree : ℤ) - fill.alliance.PlayerCount -
          (hordeFree - fill.horde.PlayerCount)))
      have hkickedZero := hkicked.playerCount_eq_zero_iff hhorde
      rw [hround]
      split
      case isTrue hnone =>
        split
        case isTrue hbreak =>
          refine ⟨_, rfl, ⟨hfilled.alliance, hkicked⟩, ?_, fun _ => hkickedZero.mp hnone⟩
          dsimp only
          omega
        case isFalse hnoBreak =>
          apply ih
          · exact ⟨hother, hkicked⟩
          · apply lt_of_lt_of_le _ (le_of_lt_succ hrounds)
            rw [FillState.potential, FillState.potential, Nat.add_comm,
              Nat.add_comm (SelectionPool.potential fill.alliance _)]
            exact kick_lower hsel.symm hlower hsame hotherLe hotherLower
      case isFalse hsome =>
        apply ih
        · exact ⟨hfilled.alliance, hkicked⟩
        · apply lt_of_lt_of_le _ (le_of_lt_succ hrounds)
          apply Nat.add_lt_add_left
          apply hlower
          intro hempty
          rw [(hsame hempty).1] at hsome
          exact hsome (hhordeZero.mpr hempty)

theorem freeSlots_le (aliFree hordeFree : ℕ) (aliCount hordeCount invitationType : ℕ) :
    ∃ ali horde : ℕ, freeSlots aliFree hordeFree aliCount hordeCount invitationType =
      ((ali : ℤ), (horde : ℤ)) ∧ ali ≤ aliFree ∧ horde ≤ hordeFree := by
  unfold freeSlots
  split
  case isFalse => exact ⟨aliFree, hordeFree, rfl, le_rfl, le_rfl⟩
  generalize int32 ((hordeCount : ℤ) - aliCount) = hordeMore
  generalize int32 ((aliCount : ℤ) - hordeCount) = aliMore
  refine ⟨(max (aliFree - max aliMore 0) 0).toNat, (max (hordeFree - max hordeMore 0) 0).toNat,
    ?_, ?_, ?_⟩
  · apply Prod.ext <;> exact (Int.toNat_of_nonneg (le_max_right _ _)).symm
  · omega
  · omega

/-- The free slots that `FillPlayersToBG` counts on in a queue. -/
def evenedSlots (queue : BattlegroundQueue) (env : QueueEnv) (bg : Battleground)
    (bracket_id : BattlegroundBracketId) : ℤ × ℤ :=
  freeSlots (int32 (bg.GetFreeSlotsForTeam .TEAM_ALLIANCE))
    (int32 (bg.GetFreeSlotsForTeam .TEAM_HORDE))
    (queue.normalGroups bracket_id .TEAM_ALLIANCE).length
    (queue.normalGroups bracket_id .TEAM_HORDE).length env.invitationType

/-- A pool holds different groups of the normal list of its side that are not invited,
and counts their players, who are no more than the free slots. -/
structure SelectedFrom (queue : BattlegroundQueue) (bracket_id : BattlegroundBracketId)
    (team : TeamId) (free : ℤ) (pool : SelectionPool) : Prop where
  nodup : pool.SelectedGroups.Nodup
  selected : ∀ ginfo ∈ pool.SelectedGroups, ginfo ∈ queue.normalGroups bracket_id team
  notInvited : ∀ ginfo ∈ pool.SelectedGroups, queue.notInvited ginfo = true
  count : pool.PlayerCount =
    (pool.SelectedGroups.map fun ginfo => (queue.info ginfo).Players.card).sum
  le : (pool.PlayerCount : ℤ) ≤ free

variable {queue : BattlegroundQueue} {env : QueueEnv} {bg : Battleground}
  {bracket_id : BattlegroundBracketId} {team : TeamId}

theorem selectedFrom_of_fits {free : ℕ} {pool : SelectionPool} {rest : List ℕ}
    (hfits : Fits queue.info free (queue.normalGroups bracket_id team) pool rest) :
    queue.SelectedFrom bracket_id team free pool where
  nodup := (List.nodup_append.mp hfits.nodup).1
  selected := hfits.selected
  notInvited ginfo hginfo := beq_iff_eq.mpr (hfits.notInvited ginfo hginfo)
  count := hfits.count
  le := by exact_mod_cast hfits.le

theorem Balanced.before_evening {aliFree hordeFree : ℕ} {aliCount hordeCount invitationType : ℕ}
    {alliance horde : SelectionPool} (hali : alliance.PlayerCount ≤ aliFree)
    (hhorde : horde.PlayerCount ≤ hordeFree)
    (hbal : Balanced (freeSlots aliFree hordeFree aliCount hordeCount invitationType).1
      (freeSlots aliFree hordeFree aliCount hordeCount invitationType).2 alliance horde) :
    Balanced aliFree hordeFree alliance horde := by
  by_cases heven : invitationType = BG_QUEUE_INVITATION_TYPE_EVEN ∧ (hordeFree : ℤ) = 1 ∧
      (aliFree : ℤ) = 1 ∧ aliCount ≠ hordeCount
  · constructor
    · omega
    · omega
  · unfold freeSlots at hbal
    rw [if_neg heven] at hbal
    exact hbal

/-- The pools after the first pass over both lists. -/
def firstPass (queue : BattlegroundQueue) (bracket_id : BattlegroundBracketId)
    (aliFree hordeFree : ℤ) : FillState where
  alliance := (addUntilRefused queue.info (toUint32 aliFree)
    (queue.normalGroups bracket_id .TEAM_ALLIANCE) (queue.m_SelectionPools .TEAM_ALLIANCE)).1
  horde := (addUntilRefused queue.info (toUint32 hordeFree)
    (queue.normalGroups bracket_id .TEAM_HORDE) (queue.m_SelectionPools .TEAM_HORDE)).1
  aliRest := (addUntilRefused queue.info (toUint32 aliFree)
    (queue.normalGroups bracket_id .TEAM_ALLIANCE) (queue.m_SelectionPools .TEAM_ALLIANCE)).2
  hordeRest := (addUntilRefused queue.info (toUint32 hordeFree)
    (queue.normalGroups bracket_id .TEAM_HORDE) (queue.m_SelectionPools .TEAM_HORDE)).2

theorem fillPools_eq {aliFree hordeFree : ℤ}
    (hslots : queue.evenedSlots env bg bracket_id = (aliFree, hordeFree)) :
    queue.fillPools env bg bracket_id =
      if env.invitationType = BG_QUEUE_INVITATION_TYPE_NO_BALANCE then
        some (queue.firstPass bracket_id aliFree hordeFree)
      else balancePools queue.info aliFree hordeFree env.fillRounds
        (queue.firstPass bracket_id aliFree hordeFree) := by
  unfold fillPools
  change freeSlots _ _ (queue.m_QueuedGroups bracket_id BG_QUEUE_NORMAL_ALLIANCE).length
    (queue.m_QueuedGroups bracket_id BG_QUEUE_NORMAL_HORDE).length _ = _ at hslots
  dsimp only
  rw [hslots]
  rfl

theorem firstPass_filled {aliFree hordeFree : ℕ} (haliFree : aliFree < 2 ^ 31)
    (hhordeFree : hordeFree < 2 ^ 31)
    (hpools : ∀ team ∈ sides, queue.m_SelectionPools team = .Init)
    (hnodup : ∀ team ∈ sides, (queue.normalGroups bracket_id team).Nodup) :
    (queue.firstPass bracket_id aliFree hordeFree).Filled queue.info aliFree hordeFree
        (queue.normalGroups bracket_id .TEAM_ALLIANCE)
        (queue.normalGroups bracket_id .TEAM_HORDE) ∧
      (queue.firstPass bracket_id aliFree hordeFree).potential ≤
        2 * ((queue.normalGroups bracket_id .TEAM_ALLIANCE).length +
          (queue.normalGroups bracket_id .TEAM_HORDE).length) := by
  have hcast {free : ℕ} (hfree : free < 2 ^ 31) : toUint32 (free : ℤ) ≤ free := by
    unfold toUint32
    omega
  unfold firstPass
  rw [hpools .TEAM_ALLIANCE (by decide), hpools .TEAM_HORDE (by decide)]
  obtain ⟨hali, haliLe⟩ := (@Fits.init queue.info _ (hnodup .TEAM_ALLIANCE (by decide))
    aliFree).addUntilRefused (hcast haliFree) (by omega)
  obtain ⟨hhorde, hhordeLe⟩ := (@Fits.init queue.info _ (hnodup .TEAM_HORDE (by decide))
    hordeFree).addUntilRefused (hcast hhordeFree) (by omega)
  refine ⟨⟨hali, hhorde⟩, ?_⟩
  rw [Nat.mul_add]
  exact Nat.add_le_add haliLe hhordeLe

/-- With enough rounds the function returns. Each pool then holds groups of its side that
fit the free slots, and no side that leads by more than one has anybody selected, by the
evened slots and by those of the battleground. -/
theorem FillPlayersToBG_balances (slots : Slots)
    (hslots : bg.GetFreeSlotsForTeam = slots.GetFreeSlotsForTeam env.invitationType)
    (hpools : ∀ team ∈ sides, queue.m_SelectionPools team = .Init)
    (hnodup : ∀ team ∈ sides, (queue.normalGroups bracket_id team).Nodup)
    (hplayers : ∀ team ∈ sides, ∀ ginfo ∈ queue.normalGroups bracket_id team,
      (queue.info ginfo).Players.Nonempty)
    (hrounds : 2 * ((queue.normalGroups bracket_id .TEAM_ALLIANCE).length +
      (queue.normalGroups bracket_id .TEAM_HORDE).length) < env.fillRounds) :
    ∃ after, queue.FillPlayersToBG env bg bracket_id = some after ∧
      queue.SelectedFrom bracket_id .TEAM_ALLIANCE (queue.evenedSlots env bg bracket_id).1
        (after.m_SelectionPools .TEAM_ALLIANCE) ∧
      queue.SelectedFrom bracket_id .TEAM_HORDE (queue.evenedSlots env bg bracket_id).2
        (after.m_SelectionPools .TEAM_HORDE) ∧
      (env.invitationType ≠ BG_QUEUE_INVITATION_TYPE_NO_BALANCE →
        Balanced (queue.evenedSlots env bg bracket_id).1 (queue.evenedSlots env bg bracket_id).2
            (after.m_SelectionPools .TEAM_ALLIANCE) (after.m_SelectionPools .TEAM_HORDE) ∧
          Balanced (bg.GetFreeSlotsForTeam .TEAM_ALLIANCE) (bg.GetFreeSlotsForTeam .TEAM_HORDE)
            (after.m_SelectionPools .TEAM_ALLIANCE) (after.m_SelectionPools .TEAM_HORDE)) := by
  have hfree : ∀ team, bg.GetFreeSlotsForTeam team < 2 ^ 31 := by
    intro team
    rw [hslots]
    exact (slots.GetFreeSlotsForTeam_le _ team).trans_lt slots.maxPlayersPerTeam_lt
  have hevened : queue.evenedSlots env bg bracket_id =
      freeSlots (bg.GetFreeSlotsForTeam .TEAM_ALLIANCE) (bg.GetFreeSlotsForTeam .TEAM_HORDE)
        (queue.normalGroups bracket_id .TEAM_ALLIANCE).length
        (queue.normalGroups bracket_id .TEAM_HORDE).length env.invitationType := by
    rw [evenedSlots, int32_count le_rfl (hfree .TEAM_ALLIANCE),
      int32_count le_rfl (hfree .TEAM_HORDE)]
  obtain ⟨ali, horde, hcounts, haliLe, hhordeLe⟩ := freeSlots_le
    (bg.GetFreeSlotsForTeam .TEAM_ALLIANCE) (bg.GetFreeSlotsForTeam .TEAM_HORDE)
    (queue.normalGroups bracket_id .TEAM_ALLIANCE).length
    (queue.normalGroups bracket_id .TEAM_HORDE).length env.invitationType
  have hali := haliLe.trans_lt (hfree .TEAM_ALLIANCE)
  have hhorde := hhordeLe.trans_lt (hfree .TEAM_HORDE)
  obtain ⟨hfirst, hpotential⟩ := firstPass_filled hali hhorde hpools hnodup
  have hfill : ∃ fill, queue.fillPools env bg bracket_id = some fill ∧
      fill.Filled queue.info ali horde (queue.normalGroups bracket_id .TEAM_ALLIANCE)
        (queue.normalGroups bracket_id .TEAM_HORDE) ∧
      (env.invitationType ≠ BG_QUEUE_INVITATION_TYPE_NO_BALANCE →
        Balanced ali horde fill.alliance fill.horde) := by
    rw [fillPools_eq (hevened.trans hcounts)]
    split
    case isTrue hnoBalance => exact ⟨_, rfl, hfirst, fun hne => absurd hnoBalance hne⟩
    obtain ⟨result, hresult, hfilled, hbalanced⟩ := balancePools_spec
      (hplayers .TEAM_ALLIANCE (by decide)) (hplayers .TEAM_HORDE (by decide)) hali hhorde
      env.fillRounds _ hfirst (hpotential.trans_lt hrounds)
    exact ⟨result, hresult, hfilled, fun _ => hbalanced⟩
  obtain ⟨fill, hsome, hfilled, hbalanced⟩ := hfill
  refine ⟨(queue.setPool .TEAM_ALLIANCE fill.alliance).setPool .TEAM_HORDE fill.horde, ?_, ?_⟩
  · rw [FillPlayersToBG, hsome]
  · rw [hevened, hcounts]
    refine ⟨selectedFrom_of_fits hfilled.alliance, selectedFrom_of_fits hfilled.horde, ?_⟩
    intro hne
    refine ⟨hbalanced hne, ?_⟩
    apply Balanced.before_evening (hfilled.alliance.le.trans haliLe)
      (hfilled.horde.le.trans hhordeLe)
    rw [hcounts]
    exact hbalanced hne

/-! ## A fill with a kick -/

def waitingGroup (side : TeamId) (size : ℕ) : GroupQueueInfo :=
  { (default : GroupQueueInfo) with Players := Finset.range size, teamId := side }

def fillQueue : BattlegroundQueue where
  groups
    | 1 => some (waitingGroup .TEAM_ALLIANCE 3)
    | 2 => some (waitingGroup .TEAM_ALLIANCE 1)
    | 3 => some (waitingGroup .TEAM_HORDE 2)
    | _ => none
  m_QueuedPlayers _ := none
  m_QueuedGroups _ type :=
    if type = BG_QUEUE_NORMAL_ALLIANCE then [1, 2]
    else if type = BG_QUEUE_NORMAL_HORDE then [3] else []
  m_SelectionPools _ := .Init

def fillSlots : Slots where
  takesPlayers := true
  invitedCount team := if team = .TEAM_ALLIANCE then 5 else 10
  playersCount team := if team = .TEAM_ALLIANCE then 5 else 10
  minPlayersPerTeam := 5
  maxPlayersPerTeam := 10
  maxPlayersPerTeam_lt := by decide

def fillGround : Battleground where
  GetInstanceID := 1
  isRated := false
  GetBgTypeID := 3
  GetBracketId := 0
  GetStatus := 3
  GetFreeSlotsForTeam := fillSlots.GetFreeSlotsForTeam BG_QUEUE_INVITATION_TYPE_BALANCED

def fillEnv : QueueEnv :=
  { checkAt 0 with invitationType := BG_QUEUE_INVITATION_TYPE_BALANCED, fillRounds := 7 }

theorem fillQueue_balances : ∃ after, fillQueue.FillPlayersToBG fillEnv fillGround 0 = some after ∧
      fillQueue.SelectedFrom 0 .TEAM_ALLIANCE (fillQueue.evenedSlots fillEnv fillGround 0).1
        (after.m_SelectionPools .TEAM_ALLIANCE) := by
  obtain ⟨after, hafter, hselected, -⟩ :=
    @FillPlayersToBG_balances fillQueue fillEnv fillGround 0 fillSlots rfl
      (fun _ _ => rfl) (by decide) (by decide) (by decide)
  exact ⟨after, hafter, hselected⟩

end BattlegroundQueue

end AzerothCore.Battlegrounds
