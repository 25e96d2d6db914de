import AzerothCore.Battlegrounds.BattlegroundQueue

/-!
# The wait of premade groups

`CheckPremadeMatch` compares the time a premade group joined with a deadline that is
the difference of the game time and the configured wait. The difference is unsigned,
so the deadline lies in the future until the server has been up for the wait.
-/

namespace AzerothCore.Battlegrounds.BattlegroundQueue

open List Option Function
open Reachability

def sides : List TeamId := [.TEAM_ALLIANCE, .TEAM_HORDE]

def premadeGroups (queue : BattlegroundQueue) (bracket_id : BattlegroundBracketId)
    (team : TeamId) : List ℕ :=
  queue.m_QueuedGroups bracket_id (BG_QUEUE_PREMADE_ALLIANCE + team.index)

def normalGroups (queue : BattlegroundQueue) (bracket_id : BattlegroundBracketId)
    (team : TeamId) : List ℕ :=
  queue.m_QueuedGroups bracket_id (BG_QUEUE_NORMAL_ALLIANCE + team.index)

def HasPremadeMatch (queue : BattlegroundQueue) (bracket_id : BattlegroundBracketId) : Prop :=
  ∀ team ∈ sides, ∃ ginfo ∈ queue.premadeGroups bracket_id team, queue.notInvited ginfo = true

/-- A group leaves the premade list of its side for the normal one. -/
def Moved (bracket_id : BattlegroundBracketId) (team : TeamId) (ginfo : ℕ)
    (before after : BattlegroundQueue) : Prop :=
  (after.premadeGroups bracket_id team).count ginfo <
      (before.premadeGroups bracket_id team).count ginfo ∧
    (before.normalGroups bracket_id team).count ginfo <
      (after.normalGroups bracket_id team).count ginfo

/-- A group of at least `MinPlayersPerTeam` that is not invited moves only when it has
waited for longer than the configured time. -/
def MovesWhenExpired (queue : BattlegroundQueue) (env : QueueEnv)
    (bracket_id : BattlegroundBracketId) (MinPlayersPerTeam MaxPlayersPerTeam : ℕ) : Prop :=
  ∀ team ∈ sides, ∀ ginfo, Moved bracket_id team ginfo queue
        (queue.CheckPremadeMatch env bracket_id MinPlayersPerTeam MaxPlayersPerTeam).1 →
      queue.notInvited ginfo = true → MinPlayersPerTeam ≤ (queue.info ginfo).Players.card →
        (queue.info ginfo).JoinTime + env.premadeGroupWait < env.now

variable {queue : BattlegroundQueue} {env : QueueEnv} {bracket_id : BattlegroundBracketId}
  {MinPlayersPerTeam MaxPlayersPerTeam : ℕ} {team : TeamId} {ginfo : ℕ}

theorem hasPremadeMatch_iff : queue.HasPremadeMatch bracket_id ↔
      ((queue.m_QueuedGroups bracket_id BG_QUEUE_PREMADE_ALLIANCE).find?
          queue.notInvited).isSome = true ∧
        ((queue.m_QueuedGroups bracket_id BG_QUEUE_PREMADE_HORDE).find?
          queue.notInvited).isSome = true := by
  simp [HasPremadeMatch, sides, premadeGroups, TeamId.index, BG_QUEUE_PREMADE_ALLIANCE,
    BG_QUEUE_PREMADE_HORDE]

/-- Whether the check lets the first group of a side go. -/
def Expires (queue : BattlegroundQueue) (MinPlayersPerTeam time_before ginfo : ℕ) : Prop :=
  queue.notInvited ginfo = true ∧ ((queue.info ginfo).JoinTime < time_before ∨
    (queue.info ginfo).Players.card < MinPlayersPerTeam)

theorem type_ne {other : TeamId} (hteam : team ∈ sides) (hother : other ∈ sides) :
    BG_QUEUE_PREMADE_ALLIANCE + team.index ≠ BG_QUEUE_NORMAL_ALLIANCE + other.index := by
  cases team <;> cases other <;>
    first | decide | exact absurd hteam (by decide)

theorem index_ne {other : TeamId} (hteam : team ∈ sides) (hother : other ∈ sides)
    (hne : team ≠ other) : team.index ≠ other.index := by
  cases team <;> cases other <;>
    first | decide | exact absurd rfl hne

/-- The record of every group after one side was looked at; only the list a group is in
may have changed. -/
theorem info_premadeToNormal (time_before : ℕ) (ginfo : ℕ) :
    (premadeToNormal bracket_id MinPlayersPerTeam time_before queue team).info ginfo =
        queue.info ginfo ∨
      ∃ type, (premadeToNormal bracket_id MinPlayersPerTeam time_before queue team).info ginfo =
        { queue.info ginfo with GroupType := type } := by
  unfold premadeToNormal
  split
  · exact .inl rfl
  rename_i first rest hgroups
  split
  case isFalse => exact .inl rfl
  change ((Function.update queue.groups first ((queue.groups first).map _)) ginfo).getD default
      = (queue.groups ginfo).getD default ∨
    ∃ type, ((Function.update queue.groups first ((queue.groups first).map _)) ginfo).getD
      default = { (queue.groups ginfo).getD default with GroupType := type }
  by_cases hsame : ginfo = first
  · subst hsame
    rw [update_self]
    cases queue.groups ginfo with
    | none => exact .inl rfl
    | some info => exact .inr ⟨_, rfl⟩
  · rw [update_of_ne hsame]
    exact .inl rfl

theorem expires_premadeToNormal (time_before deadline : ℕ) (ginfo : ℕ) :
    (premadeToNormal bracket_id MinPlayersPerTeam time_before queue team).Expires
        MinPlayersPerTeam deadline ginfo ↔ queue.Expires MinPlayersPerTeam deadline ginfo := by
  unfold Expires notInvited
  rcases @info_premadeToNormal queue bracket_id MinPlayersPerTeam team time_before ginfo with
    hsame | ⟨type, htype⟩
  · rw [hsame]
  · rw [htype]

theorem groups_premadeToNormal (time_before : ℕ) (hteam : team ∈ sides) {other : TeamId}
    (hother : other ∈ sides) :
    ((premadeToNormal bracket_id MinPlayersPerTeam time_before queue team).premadeGroups
          bracket_id other = queue.premadeGroups bracket_id other ∧
        (premadeToNormal bracket_id MinPlayersPerTeam time_before queue team).normalGroups
          bracket_id other = queue.normalGroups bracket_id other ∧
        (team = other → ∀ ginfo rest, queue.premadeGroups bracket_id team = ginfo :: rest →
          ¬ queue.Expires MinPlayersPerTeam time_before ginfo)) ∨
      ∃ ginfo rest, team = other ∧ queue.premadeGroups bracket_id team = ginfo :: rest ∧
        queue.Expires MinPlayersPerTeam time_before ginfo ∧
        (premadeToNormal bracket_id MinPlayersPerTeam time_before queue team).premadeGroups
          bracket_id other = rest ∧
        (premadeToNormal bracket_id MinPlayersPerTeam time_before queue team).normalGroups
          bracket_id other = ginfo :: queue.normalGroups bracket_id other := by
  unfold premadeToNormal
  split
  case h_1 hgroups =>
    refine .inl ⟨rfl, rfl, fun _ ginfo rest hcons => ?_⟩
    exact nomatch hgroups.symm.trans hcons
  rename_i first rest hgroups
  split
  case isFalse hkeep =>
    refine .inl ⟨rfl, rfl, fun _ ginfo rest' hcons hexpires => hkeep ?_⟩
    obtain ⟨rfl, -⟩ := List.cons.inj (hgroups.symm.trans hcons)
    exact hexpires
  rename_i hexpires
  have hpremade := type_ne hteam hother
  have hnormal := type_ne hother hteam
  by_cases hsame : team = other
  · subst hsame
    refine .inr ⟨first, rest, rfl, hgroups, hexpires, ?_, ?_⟩
    · exact if_pos ⟨rfl, rfl⟩
    · change (if _ then rest else if _ then _ else _) = _
      rw [if_neg fun heq => hpremade heq.2.symm, if_pos ⟨rfl, rfl⟩]
      rfl
  have hindex := index_ne hteam hother hsame
  refine .inl ⟨?_, ?_, fun heq => absurd heq hsame⟩
  · change (if _ then rest else if _ then _ else _) = _
    rw [if_neg fun heq => hindex (Nat.add_left_cancel heq.2).symm, if_neg fun heq => hnormal heq.2]
    rfl
  · change (if _ then rest else if _ then _ else _) = _
    rw [if_neg fun heq => hpremade heq.2.symm,
      if_neg fun heq => hindex (Nat.add_left_cancel heq.2).symm]
    rfl

section

variable (hnone : ¬ queue.HasPremadeMatch bracket_id)
include hnone

theorem CheckPremadeMatch_eq :
    (queue.CheckPremadeMatch env bracket_id MinPlayersPerTeam MaxPlayersPerTeam).1 =
      premadeToNormal bracket_id MinPlayersPerTeam
        (toUint32 ((env.now : ℤ) - env.premadeGroupWait))
        (premadeToNormal bracket_id MinPlayersPerTeam
          (toUint32 ((env.now : ℤ) - env.premadeGroupWait)) queue .TEAM_ALLIANCE) .TEAM_HORDE := by
  rw [hasPremadeMatch_iff] at hnone
  unfold CheckPremadeMatch
  split
  case h_1 ali_group horde_group hali hhorde =>
    exact absurd ⟨by rw [hali]; rfl, by rw [hhorde]; rfl⟩ hnone
  case h_2 => rfl

theorem groups_CheckPremadeMatch (hteam : team ∈ sides) :
    let after := (queue.CheckPremadeMatch env bracket_id MinPlayersPerTeam MaxPlayersPerTeam).1
    let time_before := toUint32 ((env.now : ℤ) - env.premadeGroupWait)
    (after.premadeGroups bracket_id team = queue.premadeGroups bracket_id team ∧
        after.normalGroups bracket_id team = queue.normalGroups bracket_id team ∧
        ∀ ginfo rest, queue.premadeGroups bracket_id team = ginfo :: rest →
          ¬ queue.Expires MinPlayersPerTeam time_before ginfo) ∨
      ∃ ginfo rest, queue.premadeGroups bracket_id team = ginfo :: rest ∧
        queue.Expires MinPlayersPerTeam time_before ginfo ∧
        after.premadeGroups bracket_id team = rest ∧
        after.normalGroups bracket_id team = ginfo :: queue.normalGroups bracket_id team := by
  intro after time_before
  have hafter : after = premadeToNormal bracket_id MinPlayersPerTeam time_before
      (premadeToNormal bracket_id MinPlayersPerTeam time_before queue .TEAM_ALLIANCE)
        .TEAM_HORDE := CheckPremadeMatch_eq hnone
  have halliance : TeamId.TEAM_ALLIANCE ∈ sides := by decide
  have hhorde : TeamId.TEAM_HORDE ∈ sides := by decide
  have hfirst := @groups_premadeToNormal queue bracket_id MinPlayersPerTeam _ time_before
    halliance _ hteam
  have hexpires : ∀ ginfo,
      (premadeToNormal bracket_id MinPlayersPerTeam time_before queue .TEAM_ALLIANCE).Expires
        MinPlayersPerTeam time_before ginfo ↔ queue.Expires MinPlayersPerTeam time_before ginfo :=
    fun ginfo => expires_premadeToNormal time_before time_before ginfo
  generalize premadeToNormal bracket_id MinPlayersPerTeam time_before queue .TEAM_ALLIANCE =
    first at hafter hfirst hexpires
  have hsecond := @groups_premadeToNormal first bracket_id MinPlayersPerTeam _ time_before
    hhorde _ hteam
  rw [← hafter] at hsecond
  cases team with
  | TEAM_NEUTRAL => exact absurd hteam (by decide)
  | TEAM_ALLIANCE =>
    rcases hsecond with ⟨hpremade, hnormal, -⟩ | ⟨_, _, habsurd, -⟩
    · rw [hpremade, hnormal]
      rcases hfirst with ⟨hsame, hsame', hkeep⟩ | ⟨ginfo, rest, -, hmoved⟩
      · exact .inl ⟨hsame, hsame', hkeep rfl⟩
      · exact .inr ⟨ginfo, rest, hmoved⟩
    · cases habsurd
  | TEAM_HORDE =>
    rcases hfirst with ⟨hpremade, hnormal, -⟩ | ⟨_, _, habsurd, -⟩
    · rw [← hpremade, ← hnormal]
      rcases hsecond with ⟨hsame, hsame', hkeep⟩ | ⟨ginfo, rest, -, hcons, hexp, hmoved⟩
      · exact .inl ⟨hsame, hsame', fun ginfo rest hcons hexp =>
          hkeep rfl ginfo rest hcons ((hexpires ginfo).mpr hexp)⟩
      · exact .inr ⟨ginfo, rest, hcons, (hexpires ginfo).mp hexp, hmoved⟩
    · cases habsurd

theorem moved_iff (hteam : team ∈ sides) : Moved bracket_id team ginfo queue
        (queue.CheckPremadeMatch env bracket_id MinPlayersPerTeam MaxPlayersPerTeam).1 ↔
      (queue.premadeGroups bracket_id team).head? = some ginfo ∧
        queue.Expires MinPlayersPerTeam (toUint32 ((env.now : ℤ) - env.premadeGroupWait))
          ginfo := by
  unfold Moved
  rcases @groups_CheckPremadeMatch queue env bracket_id MinPlayersPerTeam MaxPlayersPerTeam
    team hnone hteam with
      ⟨hpremade, -, hkeep⟩ | ⟨first, rest, hcons, hexpires, hpremade, hnormal⟩
  · rw [hpremade]
    refine iff_of_false (fun hmoved => lt_irrefl _ hmoved.1) ?_
    rintro ⟨hhead, hexpires⟩
    obtain ⟨rest, hcons⟩ := List.head?_eq_some_iff.mp hhead
    exact hkeep ginfo rest hcons hexpires
  · rw [hpremade, hnormal, hcons, List.head?_cons, Option.some.injEq, count_cons, count_cons]
    by_cases hsame : first = ginfo
    · subst hsame
      simp [hexpires]
    · simp [hsame]

end

theorem not_moved (hmatch : queue.HasPremadeMatch bracket_id) : ¬ Moved bracket_id team ginfo queue
        (queue.CheckPremadeMatch env bracket_id MinPlayersPerTeam MaxPlayersPerTeam).1 := by
  rw [hasPremadeMatch_iff, isSome_iff_exists, isSome_iff_exists] at hmatch
  obtain ⟨⟨ali_group, hali⟩, horde_group, hhorde⟩ := hmatch
  have hsame : (queue.CheckPremadeMatch env bracket_id MinPlayersPerTeam
      MaxPlayersPerTeam).1.m_QueuedGroups = queue.m_QueuedGroups := by
    unfold CheckPremadeMatch
    rw [hali, hhorde]
    rfl
  rintro ⟨hless, -⟩
  unfold premadeGroups at hless
  rw [hsame] at hless
  exact lt_irrefl _ hless

/-- The deadline lies in the past once the server is up for the wait; before, it is so
far in the future that only its distance to 2^32 counts. -/
theorem lt_deadline_iff {now wait joinTime : ℕ} (hnow : now < 2 ^ 32) (hwait : wait < 2 ^ 32) :
    joinTime < toUint32 ((now : ℤ) - wait) ↔
      joinTime + wait < now ∨ now < wait ∧ joinTime + wait < now + 2 ^ 32 := by
  unfold toUint32
  by_cases hlate : wait ≤ now
  · omega
  · omega

/-- A premade group of enough players moves only after the wait, if and only if a premade
match can start, or each first group that would move early finds the server up for the
wait, or was entered so late that even the wrapped deadline is not reached. -/
theorem movesWhenExpired_iff (hnow : env.now < 2 ^ 32) (hwait : env.premadeGroupWait < 2 ^ 32) :
    queue.MovesWhenExpired env bracket_id MinPlayersPerTeam MaxPlayersPerTeam ↔
      queue.HasPremadeMatch bracket_id ∨ ∀ team ∈ sides, ∀ ginfo,
          (queue.premadeGroups bracket_id team).head? = some ginfo →
            queue.notInvited ginfo = true → MinPlayersPerTeam ≤ (queue.info ginfo).Players.card →
              env.premadeGroupWait ≤ env.now ∨
                env.now + 2 ^ 32 ≤ (queue.info ginfo).JoinTime + env.premadeGroupWait := by
  by_cases hmatch : queue.HasPremadeMatch bracket_id
  · exact iff_of_true (fun _ _ _ hmoved => absurd hmoved (not_moved hmatch)) (.inl hmatch)
  rw [or_iff_right hmatch]
  refine forall₂_congr fun team hteam => forall_congr' fun ginfo => ?_
  rw [moved_iff hmatch hteam]
  have hdeadline := @lt_deadline_iff _ _ (queue.info ginfo).JoinTime hnow hwait
  constructor
  · intro hexpired hhead hinvited hplayers
    by_contra hearly
    rw [not_or, not_le, not_le] at hearly
    have hwaited := hexpired
      ⟨hhead, hinvited, .inl (hdeadline.mpr (.inr hearly))⟩ hinvited hplayers
    omega
  · rintro hcondition ⟨hhead, -, hearly⟩ hinvited hplayers
    have hjoined := hdeadline.mp (hearly.resolve_right (not_lt.mpr hplayers))
    rcases hcondition hhead hinvited hplayers with hup | hlate
    · omega
    · omega

/-! ## A group that moves early -/

def premadeArgs : AddGroupArgs where
  leader := 1
  teamId := .TEAM_ALLIANCE
  RealTeamID := .TEAM_ALLIANCE
  group := some [1, 2, 3, 4, 5]
  bgTypeId := 2
  bracketId := 0
  arenaType := 0
  isRated := false
  isPremade := true
  arenaRating := 0
  matchmakerRating := 0
  arenaTeamId := 0
  opponentsArenaTeamId := 0

def premadeQueue : BattlegroundQueue := (empty.AddGroup 100 10000 premadeArgs).getD empty

def checkAt (now : ℕ) : QueueEnv where
  now := now
  premadeGroupWait := 1800000
  invitationType := 0
  prevOpponentsDiscardTimer := 0
  isTesting := false
  isArenaTesting := false
  GetMaxRatingDifference := 0
  GetRatingDiscardTimer := 0
  bgQueues := []
  bg_template := none
  bracketEntry := true
  premadeBattleground := none
  normalBattleground := none
  ratedArena := none
  fillRounds := 0

theorem reachable_premadeQueue : ReachableQueue premadeQueue := by
  have hstep : computed step empty (.AddGroup 100 10000 premadeArgs) premadeQueue := by
    rfl
  exact .step (.start rfl) hstep

/-- One minute after the start the group moves, having waited for fifty seconds. -/
theorem moves_early : ∃ queue env, ReachableQueue queue ∧ env.now < 2 ^ 32 ∧
    env.premadeGroupWait < 2 ^ 32 ∧ ¬ queue.MovesWhenExpired env 0 5 10 := by
  refine ⟨premadeQueue, checkAt 60000, reachable_premadeQueue, by decide, by decide, ?_⟩
  intro hexpired
  have hmoved : Moved 0 .TEAM_ALLIANCE 100 premadeQueue
      (premadeQueue.CheckPremadeMatch (checkAt 60000) 0 5 10).1 := by
    constructor <;> decide +kernel
  have hwaited := hexpired .TEAM_ALLIANCE (by decide) 100 hmoved (by decide) (by decide)
  revert hwaited
  decide

/-- An hour after the start the group may move. -/
theorem moves_late : premadeQueue.MovesWhenExpired (checkAt 3600000) 0 5 10 :=
  (movesWhenExpired_iff (by decide) (by decide)).mpr
    (.inr fun _ _ _ _ _ _ => .inl (by decide))

end AzerothCore.Battlegrounds.BattlegroundQueue
