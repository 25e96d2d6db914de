import AzerothCore.Battlegrounds.FillBalance
import AzerothCore.Battlegrounds.QueueConsistency

/-!
# How a premade match is topped up

`CheckPremadeMatch` puts the first premade group of each side that is not invited into
its pool and adds groups of the normal lists "to size of bigger group". The size it
fills up to is that of the smaller premade group, which both pools have reached by then,
so that no group is ever added.
-/

namespace AzerothCore.Battlegrounds.BattlegroundQueue
open List Option

/-- The premade group of a side that would play: the first one that is not invited. -/
def premadeGroup (queue : BattlegroundQueue) (bracket_id : BattlegroundBracketId)
    (team : TeamId) : Option ℕ :=
  (queue.premadeGroups bracket_id team).find? queue.notInvited

def size (queue : BattlegroundQueue) (ginfo : ℕ) : ℕ := (queue.info ginfo).Players.card

def premadeSize (queue : BattlegroundQueue) (bracket_id : BattlegroundBracketId)
    (team : TeamId) : ℕ :=
  (queue.premadeGroup bracket_id team).elim 0 queue.size

def biggerPremade (queue : BattlegroundQueue) (bracket_id : BattlegroundBracketId) : ℕ :=
  max (queue.premadeSize bracket_id .TEAM_ALLIANCE) (queue.premadeSize bracket_id .TEAM_HORDE)

/-- The premade groups are in their pools, and a group of a normal list that is neither
invited nor selected did not fit when its turn came: with the groups that were selected
before it the side would have had more players than the bigger premade group. -/
structure ToppedUp (queue after : BattlegroundQueue) (bracket_id : BattlegroundBracketId) :
    Prop where
  premade : ∀ team ∈ sides, ∀ ginfo, queue.premadeGroup bracket_id team = some ginfo →
    ginfo ∈ (after.m_SelectionPools team).SelectedGroups
  filled : ∀ team ∈ sides, ∀ before ginfo rest,
    queue.normalGroups bracket_id team = before ++ ginfo :: rest → queue.notInvited ginfo = true →
        ginfo ∉ (after.m_SelectionPools team).SelectedGroups → queue.biggerPremade bracket_id <
            queue.premadeSize bracket_id team + SelectionPool.players queue.info
                (before.filter (· ∈ (after.m_SelectionPools team).SelectedGroups)) +
              queue.size ginfo

/-- Whenever `CheckPremadeMatch` returns true, on pools that were initialized, both sides
are topped up. -/
def TopsUpPremade (queue : BattlegroundQueue) (env : QueueEnv)
    (bracket_id : BattlegroundBracketId) (MinPlayersPerTeam MaxPlayersPerTeam : ℕ) : Prop :=
  ∀ after, queue.initPools.CheckPremadeMatch env bracket_id MinPlayersPerTeam
      MaxPlayersPerTeam = (after, true) → ToppedUp queue after bracket_id

variable {queue : BattlegroundQueue} {env : QueueEnv} {bracket_id : BattlegroundBracketId}
  {MinPlayersPerTeam MaxPlayersPerTeam : ℕ} {team : TeamId} {ginfo : ℕ}

theorem players_nonempty (hcons : queue.Consistent) {type : ℕ}
    (hmem : ginfo ∈ queue.m_QueuedGroups bracket_id type) : (queue.info ginfo).Players.Nonempty := by
  obtain ⟨info, hinfo, -⟩ := hcons.mem_iff.mp hmem
  rw [info_eq hinfo]
  exact hcons.players ginfo info hinfo

theorem type_unique (hcons : queue.Consistent) {type other : ℕ}
    (hmem : ginfo ∈ queue.m_QueuedGroups bracket_id type)
    (hother : ginfo ∈ queue.m_QueuedGroups bracket_id other) : type = other := by
  obtain ⟨info, hinfo, hplace⟩ := hcons.mem_iff.mp hmem
  obtain ⟨info', hinfo', hplace'⟩ := hcons.mem_iff.mp hother
  rw [hinfo] at hinfo'
  cases hinfo'
  rw [hplace] at hplace'
  exact (Prod.mk.inj hplace').2

theorem mem_premadeGroups (hfind : queue.premadeGroup bracket_id team = some ginfo) :
    ginfo ∈ queue.premadeGroups bracket_id team :=
  mem_of_find?_eq_some hfind

theorem premadeGroup_not_normal (hcons : queue.Consistent) (hteam : team ∈ sides)
    (hfind : queue.premadeGroup bracket_id team = some ginfo) :
    ginfo ∉ queue.normalGroups bracket_id team := by
  intro hnormal
  have htype := type_unique hcons (mem_premadeGroups hfind) hnormal
  simp only [sides, mem_cons, not_mem_nil, or_false] at hteam
  rcases hteam with rfl | rfl <;> exact absurd htype (by decide)

theorem addNotInvited_of_full {info : ℕ → GroupQueueInfo} {desiredCount : ℕ}
    {groups : List ℕ} {pool : SelectionPool} (hfull : desiredCount ≤ pool.PlayerCount)
    (hplayers : ∀ ginfo ∈ groups, (info ginfo).Players.Nonempty) :
    SelectionPool.addNotInvited info desiredCount groups pool = pool := by
  induction groups with
  | nil => rfl
  | cons ginfo rest ih =>
    have hrest := ih fun other hother => hplayers other (mem_cons_of_mem _ hother)
    have hcard := Finset.card_pos.mpr (hplayers ginfo mem_cons_self)
    have hadd : pool.AddGroup info ginfo desiredCount = (pool, false) := by
      rw [SelectionPool.AddGroup, if_neg (by omega), decide_eq_false (by omega)]
    rw [SelectionPool.addNotInvited, hadd, hrest]
    split <;> rfl

def premadePool (queue : BattlegroundQueue) (bracket_id : BattlegroundBracketId)
    (MaxPlayersPerTeam : ℕ) (team : TeamId) : SelectionPool :=
  match queue.premadeGroup bracket_id team with
  | none => .Init
  | some ginfo => (SelectionPool.Init.AddGroup queue.info ginfo MaxPlayersPerTeam).1

theorem selected_premadePool (hfind : queue.premadeGroup bracket_id team = some ginfo) :
    (queue.premadePool bracket_id MaxPlayersPerTeam team).SelectedGroups =
      if queue.size ginfo ≤ MaxPlayersPerTeam then [ginfo] else [] := by
  have hinvited : (queue.info ginfo).IsInvitedToBGInstanceGUID = 0 := by
    simpa [notInvited] using List.find?_some hfind
  have hcount : SelectionPool.Init.PlayerCount + (queue.info ginfo).Players.card =
      queue.size ginfo := Nat.zero_add _
  simp only [premadePool, hfind]
  by_cases hfits : queue.size ginfo ≤ MaxPlayersPerTeam
  · rw [if_pos hfits, SelectionPool.AddGroup, if_pos ⟨hinvited, hcount ▸ hfits⟩]
    rfl
  · rw [if_neg hfits, SelectionPool.AddGroup, if_neg fun hadded => hfits (hcount ▸ hadded.2)]
    rfl

theorem CheckPremadeMatch_true_iff :
    (queue.initPools.CheckPremadeMatch env bracket_id MinPlayersPerTeam
        MaxPlayersPerTeam).2 = true ↔ queue.HasPremadeMatch bracket_id := by
  have hsome := @hasPremadeMatch_iff queue.initPools bracket_id
  change queue.HasPremadeMatch bracket_id ↔ _ at hsome
  rw [hsome, CheckPremadeMatch]
  split
  case h_1 hali hhorde => rw [hali, hhorde]; exact iff_of_true rfl ⟨rfl, rfl⟩
  rename_i hnone
  refine iff_of_false (by simp) ?_
  rintro ⟨hali, hhorde⟩
  obtain ⟨ali_group, hali⟩ := isSome_iff_exists.mp hali
  obtain ⟨horde_group, hhorde⟩ := isSome_iff_exists.mp hhorde
  exact hnone _ _ hali hhorde

theorem pools_CheckPremadeMatch (hcons : queue.Consistent)
    (hmatch : queue.HasPremadeMatch bracket_id) (hteam : team ∈ sides) :
    (queue.initPools.CheckPremadeMatch env bracket_id MinPlayersPerTeam
        MaxPlayersPerTeam).1.m_SelectionPools team =
      queue.premadePool bracket_id MaxPlayersPerTeam team := by
  obtain ⟨hali, hhorde⟩ := (@hasPremadeMatch_iff queue.initPools bracket_id).mp hmatch
  obtain ⟨ali_group, hali⟩ := isSome_iff_exists.mp hali
  obtain ⟨horde_group, hhorde⟩ := isSome_iff_exists.mp hhorde
  have halliance : queue.premadePool bracket_id MaxPlayersPerTeam .TEAM_ALLIANCE =
      (SelectionPool.Init.AddGroup queue.info ali_group MaxPlayersPerTeam).1 := by
    rw [premadePool, show queue.premadeGroup bracket_id .TEAM_ALLIANCE = some ali_group from hali]
  have hother : queue.premadePool bracket_id MaxPlayersPerTeam .TEAM_HORDE =
      (SelectionPool.Init.AddGroup queue.info horde_group MaxPlayersPerTeam).1 := by
    rw [premadePool, show queue.premadeGroup bracket_id .TEAM_HORDE = some horde_group from hhorde]
  have hcheck : (queue.initPools.CheckPremadeMatch env bracket_id MinPlayersPerTeam
      MaxPlayersPerTeam).1 =
        queue.initPools.premadePools bracket_id MaxPlayersPerTeam ali_group horde_group := by
    rw [CheckPremadeMatch, hali, hhorde]
  have hplayers : ∀ type, ∀ ginfo ∈ queue.m_QueuedGroups bracket_id type,
      (queue.info ginfo).Players.Nonempty := fun _ _ hmem => players_nonempty hcons hmem
  rw [hcheck]
  simp only [sides, mem_cons, not_mem_nil, or_false] at hteam
  rcases hteam with rfl | rfl
  · rw [halliance]
    exact addNotInvited_of_full (Nat.min_le_left _ _) (hplayers BG_QUEUE_NORMAL_ALLIANCE)
  · rw [hother]
    exact addNotInvited_of_full (Nat.min_le_right _ _) (hplayers BG_QUEUE_NORMAL_HORDE)

/-! ## When the sides are topped up -/

/-- There is nothing to top up: the premade groups fit into a team, and no group of a
normal list that is not invited fits beside the premade group of its side. -/
def NothingToTopUp (queue : BattlegroundQueue) (bracket_id : BattlegroundBracketId)
    (MaxPlayersPerTeam : ℕ) : Prop :=
  ∀ team ∈ sides, queue.premadeSize bracket_id team ≤ MaxPlayersPerTeam ∧
    ∀ ginfo ∈ queue.normalGroups bracket_id team, queue.notInvited ginfo = true →
      queue.biggerPremade bracket_id < queue.premadeSize bracket_id team + queue.size ginfo

theorem premadeSize_eq (hfind : queue.premadeGroup bracket_id team = some ginfo) :
    queue.premadeSize bracket_id team = queue.size ginfo := by
  rw [premadeSize, hfind, elim_some]

theorem exists_premadeGroup (hmatch : queue.HasPremadeMatch bracket_id) (hteam : team ∈ sides) :
    ∃ ginfo, queue.premadeGroup bracket_id team = some ginfo := by
  obtain ⟨ginfo, hmem, hinvited⟩ := hmatch team hteam
  exact isSome_iff_exists.mp (List.find?_isSome.mpr ⟨ginfo, hmem, hinvited⟩)

theorem not_selected_of_normal (hcons : queue.Consistent)
    (hmatch : queue.HasPremadeMatch bracket_id) (hteam : team ∈ sides)
    (hnormal : ginfo ∈ queue.normalGroups bracket_id team) :
    ginfo ∉ (queue.premadePool bracket_id MaxPlayersPerTeam team).SelectedGroups := by
  obtain ⟨premade, hfind⟩ := exists_premadeGroup hmatch hteam
  rw [selected_premadePool hfind]
  split
  · intro hmem
    rw [mem_singleton.mp hmem] at hnormal
    exact premadeGroup_not_normal hcons hteam hfind hnormal
  · exact not_mem_nil

/-- A premade match is topped up exactly when it cannot start or there is nothing to top
up. -/
theorem topsUpPremade_iff (hcons : queue.Consistent) :
    queue.TopsUpPremade env bracket_id MinPlayersPerTeam MaxPlayersPerTeam ↔
      ¬ queue.HasPremadeMatch bracket_id ∨ queue.NothingToTopUp bracket_id MaxPlayersPerTeam := by
  by_cases hmatch : queue.HasPremadeMatch bracket_id
  swap
  · refine iff_of_true (fun after hafter => absurd ?_ hmatch) (.inl hmatch)
    exact CheckPremadeMatch_true_iff.mp (congrArg Prod.snd hafter)
  rw [or_iff_right (not_not_intro hmatch)]
  have htrue := (@CheckPremadeMatch_true_iff queue env bracket_id MinPlayersPerTeam
    MaxPlayersPerTeam).mpr hmatch
  have hnone : ∀ team ∈ sides, ∀ before ginfo rest,
      queue.normalGroups bracket_id team = before ++ ginfo :: rest →
        before.filter (· ∈ (queue.premadePool bracket_id MaxPlayersPerTeam
          team).SelectedGroups) = [] := by
    intro team hteam before ginfo rest hlist
    rw [filter_eq_nil_iff]
    intro other hother
    have hnormal : other ∈ queue.normalGroups bracket_id team := by
      rw [hlist]
      exact mem_append_left _ hother
    simpa using not_selected_of_normal hcons hmatch hteam hnormal
  constructor
  · intro htops team hteam
    obtain ⟨hpremade, hfilled⟩ := htops _ (Prod.ext rfl htrue)
    obtain ⟨premade, hfind⟩ := exists_premadeGroup hmatch hteam
    refine ⟨?_, fun ginfo hnormal hinvited => ?_⟩
    · have hselected := hpremade team hteam premade hfind
      rw [pools_CheckPremadeMatch hcons hmatch hteam, selected_premadePool hfind] at hselected
      rw [premadeSize_eq hfind]
      by_contra hbig
      rw [if_neg hbig] at hselected
      exact not_mem_nil hselected
    · obtain ⟨before, rest, hlist⟩ := append_of_mem hnormal
      have hlarge := hfilled team hteam before ginfo rest hlist hinvited
      rw [pools_CheckPremadeMatch hcons hmatch hteam] at hlarge
      have hlt := hlarge (not_selected_of_normal hcons hmatch hteam hnormal)
      rw [hnone team hteam before ginfo rest hlist] at hlt
      exact hlt
  · intro hnothing after hafter
    have hpools : ∀ team ∈ sides, after.m_SelectionPools team =
        queue.premadePool bracket_id MaxPlayersPerTeam team := by
      intro team hteam
      rw [← pools_CheckPremadeMatch hcons hmatch hteam, hafter]
    constructor
    · intro team hteam ginfo hfind
      rw [hpools team hteam, selected_premadePool hfind,
        if_pos (premadeSize_eq hfind ▸ (hnothing team hteam).1)]
      exact mem_singleton.mpr rfl
    · intro team hteam before ginfo rest hlist hinvited _
      rw [hpools team hteam, hnone team hteam before ginfo rest hlist]
      have hnormal : ginfo ∈ queue.normalGroups bracket_id team := by
        rw [hlist]
        exact mem_append_right _ mem_cons_self
      exact (hnothing team hteam).2 ginfo hnormal hinvited

/-! ## A player who is left out -/

def joinArgs (side : TeamId) (players : List ℕ) (premade : Bool) : AddGroupArgs where
  leader := players.headD 0
  teamId := side
  RealTeamID := side
  group := some players
  bgTypeId := 2
  bracketId := 0
  arenaType := 0
  isRated := false
  isPremade := premade
  arenaRating := 0
  matchmakerRating := 0
  arenaTeamId := 0
  opponentsArenaTeamId := 0

def premadePair : List Op :=
  [.AddGroup 100 1000 (joinArgs .TEAM_ALLIANCE [1, 2] true),
    .AddGroup 101 2000 (joinArgs .TEAM_HORDE [11, 12, 13] true)]

def premadeAndSingle : List Op :=
  premadePair ++ [.AddGroup 102 3000 (joinArgs .TEAM_ALLIANCE [3] false)]

def queueAfter (ops : List Op) : BattlegroundQueue := (ops.foldlM step empty).getD empty

theorem reachable_queueAfter {ops : List Op} (hops : (ops.foldlM step empty).isSome = true) :
    ReachableQueue (queueAfter ops) := by
  obtain ⟨queue, hqueue⟩ := isSome_iff_exists.mp hops
  rw [queueAfter, hqueue]
  exact Reachability.Reachable.foldlM (.start rfl) hqueue

/-- The player who would make the sides even is not selected. -/
theorem single_left_out : ∃ queue env, ReachableQueue queue ∧ ¬ queue.TopsUpPremade env 0 2 10 := by
  have hreach : ReachableQueue (queueAfter premadeAndSingle) :=
    reachable_queueAfter (by decide +kernel)
  refine ⟨queueAfter premadeAndSingle, checkAt 4000, hreach, fun htops => ?_⟩
  have htrue : ((queueAfter premadeAndSingle).initPools.CheckPremadeMatch (checkAt 4000) 0 2 10).2 =
      true := by
    decide +kernel
  have hfilled := (htops _ (Prod.ext rfl htrue)).filled .TEAM_ALLIANCE (by decide) [] 102 []
    (by decide +kernel) (by decide +kernel) (by decide +kernel)
  revert hfilled
  decide +kernel

/-- The two premade groups alone have nobody to be topped up with. -/
theorem premadePair_toppedUp : (queueAfter premadePair).TopsUpPremade (checkAt 4000) 0 2 10 :=
  (topsUpPremade_iff (reachable_consistent (reachable_queueAfter (by decide +kernel)))).mpr
    (.inr (by unfold NothingToTopUp; decide +kernel))

end AzerothCore.Battlegrounds.BattlegroundQueue
