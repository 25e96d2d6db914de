import AzerothCore.DungeonFinding.GroupRoles
import Mathlib.Data.Finset.Insert

/-!
# The leader of a proposal

The check of the roles takes the leader flag from every player before the leader is
chosen, so the choice only depends on the coins: any of the players can come out.
-/

namespace AzerothCore.DungeonFinding.LFGQueue
open List Option

section Choice

variable {random : RandomChoices} {roles : List (ℕ × BitVec 8)} {chosen : Option ℕ}

def NoFlags (roles : List (ℕ × BitVec 8)) : Prop :=
  ∀ entry ∈ roles, entry.2 &&& PLAYER_ROLE_LEADER = 0

theorem leader_mem (hflags : NoFlags roles) :
    (roles.foldl (leaderStep random) (chosen, false)).1 = chosen ∨
      ∃ entry ∈ roles, (roles.foldl (leaderStep random) (chosen, false)).1 = some entry.1 := by
  induction roles generalizing chosen with
  | nil => exact .inl rfl
  | cons entry rest ih =>
    have hrest : NoFlags rest := fun other hother => hflags other (mem_cons_of_mem _ hother)
    have hstep : leaderStep random (chosen, false) entry = (chosen, false) ∨
        leaderStep random (chosen, false) entry = (some entry.1, false) := by
      unfold leaderStep
      rw [if_neg (not_not.mpr (hflags entry mem_cons_self))]
      split
      · exact .inr rfl
      · exact .inl rfl
    rw [foldl_cons]
    rcases hstep with hstep | hstep
    · rw [hstep]
      refine (ih hrest).imp_right ?_
      rintro ⟨other, hother, hleader⟩
      exact ⟨other, mem_cons_of_mem _ hother, hleader⟩
    · rw [hstep]
      refine .inr ?_
      rcases @ih (some entry.1) hrest with hkept | ⟨other, hother, hleader⟩
      · exact ⟨entry, mem_cons_self, hkept⟩
      · exact ⟨other, mem_cons_of_mem _ hother, hleader⟩

theorem chooseLeader_mem {groles : LfgRolesMap} (hflags : NoFlags groles.entries)
    (hsome : groles.entries ≠ []) : ∃ player ∈ groles.keys,
      chooseLeader random groles = some player := by
  unfold chooseLeader StdMap.keys
  obtain ⟨first, rest, hentries⟩ := exists_cons_of_ne_nil hsome
  rw [hentries] at hflags ⊢
  have hstep : leaderStep random (none, false) first = (some first.1, false) := by
    unfold leaderStep
    rw [if_neg (not_not.mpr (hflags first mem_cons_self)), if_pos ⟨rfl, .inl rfl⟩]
  have hrest : NoFlags rest := fun other hother => hflags other (mem_cons_of_mem _ hother)
  rw [foldl_cons, hstep, map_cons]
  rcases @leader_mem random rest (some first.1) hrest with hkept | ⟨other, hother, hleader⟩
  · exact ⟨first.1, mem_cons_self, hkept⟩
  · exact ⟨other.1, mem_cons_of_mem _ (List.mem_map_of_mem hother), hleader⟩

def coinsFor (player : ℕ) (dungeon : Finset ℕ → ℕ) : RandomChoices where
  SelectRandomContainerElement := dungeon
  urand other := other == player

section

variable {player : ℕ} {dungeon : Finset ℕ → ℕ} (hflags : NoFlags roles)
include hflags

theorem leader_stays (hothers : ∀ entry ∈ roles, entry.1 ≠ player) :
    roles.foldl (leaderStep (coinsFor player dungeon)) (some player, false) =
      (some player, false) := by
  induction roles with
  | nil => rfl
  | cons entry rest ih =>
    have hstep : leaderStep (coinsFor player dungeon) (some player, false) entry =
        (some player, false) := by
      unfold leaderStep
      rw [if_neg (not_not.mpr (hflags entry mem_cons_self)), if_neg]
      rintro ⟨-, hnone | hcoin⟩
      · cases hnone
      · exact hothers entry mem_cons_self (beq_iff_eq.mp hcoin)
    rw [foldl_cons, hstep]
    apply ih
    · exact fun other hother => hflags other (mem_cons_of_mem _ hother)
    · exact fun other hother => hothers other (mem_cons_of_mem _ hother)

theorem leader_of_coins
    (hnodup : (roles.map Prod.fst).Nodup) (hplayer : player ∈ roles.map Prod.fst) :
    (roles.foldl (leaderStep (coinsFor player dungeon)) (chosen, false)).1 = some player := by
  induction roles generalizing chosen with
  | nil => cases hplayer
  | cons entry rest ih =>
    have hentry := hflags entry mem_cons_self
    have hrest : NoFlags rest := fun other hother => hflags other (mem_cons_of_mem _ hother)
    obtain ⟨hnot, hnodupRest⟩ := nodup_cons.mp hnodup
    rw [foldl_cons]
    by_cases hsame : entry.1 = player
    · have hstep : leaderStep (coinsFor player dungeon) (chosen, false) entry =
          (some player, false) := by
        unfold leaderStep
        rw [if_neg (not_not.mpr hentry), if_pos, hsame]
        exact ⟨rfl, .inr (beq_iff_eq.mpr hsame)⟩
      rw [hstep, leader_stays hrest]
      intro other hother heq
      apply hnot
      rw [hsame, ← heq]
      exact List.mem_map_of_mem hother
    · have hin : player ∈ rest.map Prod.fst := (mem_cons.mp hplayer).resolve_left (Ne.symm hsame)
      have hstep : (leaderStep (coinsFor player dungeon) (chosen, false) entry).2 = false := by
        unfold leaderStep
        rw [if_neg (not_not.mpr hentry)]
        split <;> rfl
      rw [← Prod.mk.eta (p := leaderStep (coinsFor player dungeon) (chosen, false) entry), hstep]
      exact ih hrest hnodupRest hin

end

end Choice

theorem noFlags_of_check {groles after : LfgRolesMap} {value : ℕ} (hsize : groles.size < 256)
    (hcheck : CheckGroupRoles groles = some (after, value)) :
    NoFlags after.entries ∧ after.keys = groles.keys := by
  obtain ⟨other, result, hresult, -, hassigned, hfailed⟩ := CheckGroupRoles_spec groles hsize
  rw [hresult] at hcheck
  obtain ⟨rfl, rfl⟩ := Prod.mk.inj (some.inj hcheck)
  by_cases hzero : result = 0
  · rw [hfailed hzero]
    refine ⟨?_, StdMap.keys_mapValues _ _⟩
    intro entry hentry
    obtain ⟨before, -, rfl⟩ := List.mem_map.mp hentry
    rw [BitVec.and_assoc, BitVec.and_comm (~~~PLAYER_ROLE_LEADER), BitVec.and_not_self]
    exact BitVec.and_zero
  have hassigns := (hassigned hzero).1
  refine ⟨?_, hassigns.keys⟩
  intro entry hentry
  have hfind := StdMap.find?_eq_some_iff.mpr hentry
  have hmem := StdMap.mem_of_find? hfind
  rw [StdMap.mem_def, hassigns.keys, ← StdMap.mem_def] at hmem
  obtain ⟨byte, hbyte⟩ := StdMap.mem_iff_find?.mp hmem
  obtain ⟨role, hrole, -⟩ := hassigns.requested entry.1 byte hbyte
  rw [← some.inj (hrole.symm.trans hfind)]
  cases role <;> rfl

/-! ## The players of a combination -/

def Combines (queue : LFGQueue) (check : Lfg5Guids) (player : ℕ) (byte : BitVec 8) : Prop :=
  ∃ guid ∈ check.guids, (queue.rolesOf guid).find? player = some byte

section Combining

variable {env : LfgEnv} {queue : LFGQueue}

theorem size_rolesOf_le (guid : ℕ) : (queue.rolesOf guid).size ≤ MAXGROUPSIZE := by
  unfold rolesOf
  cases queue.QueueDataStore.find? guid with
  | none => exact Nat.zero_le _
  | some data => exact data.size_le

theorem addRoles_all (entries : List (ℕ × BitVec 8)) (roles : LfgRolesMap) :
    (addRoles env entries roles).size ≤ roles.size + entries.length ∧
      ((addRoles env entries roles).size = roles.size + entries.length →
        ∀ player byte, (addRoles env entries roles).find? player = some byte ↔
          roles.find? player = some byte ∨ (player, byte) ∈ entries) := by
  induction entries generalizing roles with
  | nil =>
    refine ⟨le_rfl, fun _ player byte => ?_⟩
    exact (or_iff_left (not_mem_nil)).symm
  | cons entry rest ih =>
    obtain ⟨player, byte⟩ := entry
    rw [addRoles, length_cons]
    split
    · omega
    rename_i hfree
    have hnew : player ∉ roles := by
      intro hmem
      apply hfree
      rw [List.any_eq_true]
      exact ⟨player, hmem, Bool.or_eq_true_iff.mpr (.inl (beq_self_eq_true player))⟩
    have hsize : StdMap.size (roles.insert player byte) = roles.size + 1 :=
      StdMap.size_insert_of_not_mem byte hnew
    obtain ⟨hle, hall⟩ := ih (roles.insert player byte)
    refine ⟨by omega, fun hgrown other requested => ?_⟩
    rw [hall (by omega), StdMap.find?_insert, mem_cons, Prod.mk.injEq]
    have hnone := StdMap.find?_eq_none_iff.mpr hnew
    by_cases hsame : player = other
    · subst hsame
      rw [if_pos rfl, hnone, Option.some.injEq]
      constructor
      · rintro (rfl | hin)
        · exact .inr (.inl ⟨rfl, rfl⟩)
        · exact .inr (.inr hin)
      · rintro (hno | ⟨-, rfl⟩ | hin)
        · cases hno
        · exact .inl rfl
        · exact .inr hin
    · rw [if_neg hsame]
      constructor
      · rintro (hold | hin)
        · exact .inl hold
        · exact .inr (.inr hin)
      · rintro (hold | ⟨heq, -⟩ | hin)
        · exact .inl hold
        · exact absurd heq.symm hsame
        · exact .inr hin

theorem combine_all (guids : List ℕ) (roles : LfgRolesMap) :
    (guids.foldl (fun roles guid => addRoles env (queue.rolesOf guid).entries roles) roles).size ≤
        roles.size + (guids.map fun guid => (queue.rolesOf guid).size).sum ∧
      ((guids.foldl (fun roles guid => addRoles env (queue.rolesOf guid).entries roles)
            roles).size =
          roles.size + (guids.map fun guid => (queue.rolesOf guid).size).sum →
        ∀ player byte,
          (guids.foldl (fun roles guid => addRoles env (queue.rolesOf guid).entries roles)
              roles).find? player = some byte ↔
            roles.find? player = some byte ∨
              ∃ guid ∈ guids, (queue.rolesOf guid).find? player = some byte) := by
  induction guids generalizing roles with
  | nil =>
    refine ⟨le_rfl, fun _ player byte => ?_⟩
    refine (or_iff_left ?_).symm
    rintro ⟨guid, hguid, -⟩
    cases hguid
  | cons guid rest ih =>
    obtain ⟨hfirst, hfirstAll⟩ := @addRoles_all env (queue.rolesOf guid).entries roles
    obtain ⟨hrest, hrestAll⟩ := ih (addRoles env (queue.rolesOf guid).entries roles)
    rw [foldl_cons, map_cons, sum_cons]
    change _ ≤ roles.size + (queue.rolesOf guid).size at hfirst
    change _ = roles.size + (queue.rolesOf guid).size → _ at hfirstAll
    refine ⟨by omega, fun hgrown player byte => ?_⟩
    rw [hrestAll (by omega), hfirstAll (by omega), ← StdMap.find?_eq_some_iff]
    constructor
    · rintro ((hold | hhere) | ⟨other, hother, hthere⟩)
      · exact .inl hold
      · exact .inr ⟨guid, mem_cons_self, hhere⟩
      · exact .inr ⟨other, mem_cons_of_mem _ hother, hthere⟩
    · rintro (hold | ⟨other, hother, hthere⟩)
      · exact .inl (.inl hold)
      · rcases mem_cons.mp hother with rfl | hin
        · exact .inl (.inr hthere)
        · exact .inr ⟨other, hin, hthere⟩

theorem gather_all {guids : List ℕ} {start gathered : Gathered}
    (hgather : gather env queue guids start = .ok gathered)
    (hgroups : gathered.numLfgGroups ≤ 1) (hplayers : gathered.numPlayers ≤ MAXGROUPSIZE) :
    gathered.numPlayers =
      start.numPlayers + (guids.map fun guid => (queue.rolesOf guid).size).sum := by
  induction guids generalizing start with
  | nil =>
    cases hgather
    rfl
  | cons guid rest ih =>
    rw [gather] at hgather
    split at hgather
    case isFalse hstop =>
      cases hgather
      exact absurd ⟨Nat.lt_succ_of_le hgroups, hplayers⟩ hstop
    rename_i hgo
    split at hgather
    · cases hgather
    rename_i data hfind
    have hroles : queue.rolesOf guid = data.roles := by
      rw [rolesOf, hfind]
      rfl
    have hcount : (gatherOne env guid data start).numPlayers =
        start.numPlayers + data.roles.size := by
      apply uint8_of_lt
      have hfew := data.size_le
      have hstart := hgo.2
      unfold MAXGROUPSIZE at hfew hstart
      omega
    rw [ih hgather, hcount, map_cons, sum_cons, hroles, Nat.add_assoc]

/-- The roles that are left of a combination belong to the players who queued, each of
whom queued with one byte, and have no leader flag. -/
theorem combine_players {check : Lfg5Guids} {numPlayers : ℕ} {found : Found}
    {combined : Combined} (hcombine : combine env queue check numPlayers found =
      some (.ok combined)) (hcheck : check.guids ≠ [])
    (hcount : numPlayers = (check.guids.map fun guid => (queue.rolesOf guid).size).sum)
    (hplayers : numPlayers ≤ MAXGROUPSIZE) :
    NoFlags combined.proposalRoles.entries ∧ ∃ queued : LfgRolesMap,
      combined.proposalRoles.keys = queued.keys ∧
        ∀ player byte, queued.find? player = some byte ↔ Combines queue check player byte := by
  unfold combine at hcombine
  split at hcombine
  · unfold combineMany at hcombine
    dsimp only at hcombine
    split at hcombine
    · cases hcombine
    rename_i hsize
    have hsame := not_not.mp hsize
    have hall := (@combine_all env queue check.guids .empty).2
      (by rw [← hcount]; exact hsame.symm.trans (Nat.zero_add _).symm)
    have hlt : (combineRoles env queue check.guids).size < 256 := by
      unfold MAXGROUPSIZE at hplayers
      omega
    split at hcombine
    · cases hcombine
    rename_i after value hroles
    obtain ⟨hflags, hkeys⟩ := noFlags_of_check hlt hroles
    split at hcombine
    · cases hcombine
    split at hcombine
    · cases hcombine
    split at hcombine
    · cases hcombine
    obtain rfl := Except.ok.inj (some.inj hcombine)
    refine ⟨hflags, combineRoles env queue check.guids, hkeys, fun player byte => ?_⟩
    rw [combineRoles, hall player byte]
    refine or_iff_right ?_
    exact nofun
  case isFalse hone =>
    obtain ⟨guid, others, hguids⟩ := exists_cons_of_ne_nil hcheck
    have halone : others = [] := by
      unfold Lfg5Guids.size at hone
      rw [hguids, length_cons] at hone
      apply length_eq_zero_iff.mp
      omega
    subst halone
    rw [hguids] at hcombine
    unfold combineOne at hcombine
    split at hcombine
    · cases hcombine
    rename_i after value hroles
    obtain rfl := Except.ok.inj (some.inj hcombine)
    have hlt : (queue.rolesOf guid).size < 256 := (size_rolesOf_le guid).trans_lt (by decide)
    obtain ⟨hflags, hkeys⟩ := noFlags_of_check hlt hroles
    refine ⟨hflags, queue.rolesOf guid, hkeys, fun player byte => ?_⟩
    unfold Combines
    rw [hguids]
    constructor
    · intro hfind
      exact ⟨guid, mem_singleton_self guid, hfind⟩
    · rintro ⟨other, hother, hfind⟩
      rw [← mem_singleton.mp hother]
      exact hfind

end Combining

def LeaderFlagged (queue : LFGQueue) (check : Lfg5Guids) (proposal : LfgProposal) : Prop :=
  (∃ player byte, Combines queue check player byte ∧ byte &&& PLAYER_ROLE_LEADER ≠ 0) →
    ∃ player byte, proposal.leader = some player ∧ Combines queue check player byte ∧
      byte &&& PLAYER_ROLE_LEADER ≠ 0

section Proposing

variable {env : LfgEnv} {queue : LFGQueue} {checkWith : Lfg5Guids} {newGuid : ℕ} {found : Found}
  {currentCompatibles : List (List ℕ)}

theorem CheckCompatibility_eq_finish {gathered : Gathered} {combined : Combined}
    (hnew : (checkWith.withoutRoles.insert newGuid).guids ∉ currentCompatibles)
    (hgather : gather env queue (checked checkWith newGuid).guids ⟨0, 0, .empty, none⟩ =
      .ok gathered)
    (hgroups : ¬ 1 < gathered.numLfgGroups)
    (hmany : ¬ ((!env.IsTesting) = true ∧ (checked checkWith newGuid).size = 1 ∧
      gathered.numPlayers < MAXGROUPSIZE))
    (hfew : ¬ MAXGROUPSIZE < gathered.numPlayers)
    (hcombine : combine env queue (checked checkWith newGuid) gathered.numPlayers found =
      some (.ok combined)) (random : RandomChoices) :
    CheckCompatibility env random queue checkWith newGuid found currentCompatibles =
      some (finish env random queue (checked checkWith newGuid)
        (checkWith.withoutRoles.insert newGuid) gathered found combined) := by
  unfold CheckCompatibility
  rw [if_neg hnew, hgather]
  dsimp only
  rw [if_neg hgroups, if_neg hmany, if_neg hfew, hcombine]

section

variable {random : RandomChoices} {result : Checked} {proposal : LfgProposal} (hcheck : CheckCompatibility env random queue checkWith newGuid found currentCompatibles = some result) (hproposal : result.proposal = some proposal)
include hcheck hproposal

theorem finish_of_created :
    ∃ gathered combined, combine env queue (checked checkWith newGuid) gathered.numPlayers found =
        some (.ok combined) ∧
      gathered.numPlayers =
        ((checked checkWith newGuid).guids.map fun guid => (queue.rolesOf guid).size).sum ∧
      gathered.numPlayers ≤ MAXGROUPSIZE ∧
      ∀ other, CheckCompatibility env other queue checkWith newGuid found currentCompatibles =
        some (finish env other queue (checked checkWith newGuid)
          (checkWith.withoutRoles.insert newGuid) gathered found combined) := by
  have hdef := hcheck
  unfold CheckCompatibility at hdef
  dsimp only at hdef
  split at hdef
  · cases hdef
    cases hproposal
  rename_i hnew
  split at hdef
  · cases hdef
    cases hproposal
  rename_i gathered hgather
  split at hdef
  · cases hdef
    cases hproposal
  rename_i hgroups
  split at hdef
  · unfold keepAlone at hdef
    split at hdef
    · cases hdef
    · cases hdef
      cases hproposal
  rename_i hmany
  split at hdef
  · cases hdef
    cases hproposal
  rename_i hfew
  split at hdef
  · cases hdef
  · cases hdef
    cases hproposal
  rename_i combined hcombine
  have hplayers := Nat.not_lt.mp hfew
  have hcount := gather_all hgather (Nat.not_lt.mp hgroups) hplayers
  rw [Nat.zero_add] at hcount
  exact ⟨gathered, combined, hcombine, hcount, hplayers,
    CheckCompatibility_eq_finish hnew hgather hgroups hmany hfew hcombine⟩

theorem proposal_of_created : ∃ roles : LfgRolesMap, NoFlags roles.entries ∧
      (∃ queued : LfgRolesMap, roles.keys = queued.keys ∧ ∀ player byte,
        queued.find? player = some byte ↔ Combines queue (checked checkWith newGuid) player byte) ∧
      proposal.leader = chooseLeader random roles ∧
      ∀ other : RandomChoices, ∃ result' proposal',
        CheckCompatibility env other queue checkWith newGuid found currentCompatibles =
            some result' ∧ result'.proposal = some proposal' ∧
          proposal'.leader = chooseLeader other roles := by
  obtain ⟨gathered, combined, hcombine, hcount, hplayers, hfinish⟩ :=
    finish_of_created hcheck hproposal
  obtain ⟨hflags, hqueued⟩ := combine_players hcombine (cons_ne_nil _ _) hcount hplayers
  obtain rfl := some.inj (hcheck.symm.trans (hfinish random))
  unfold finish at hproposal
  split at hproposal
  · cases hproposal
  rename_i hfull
  split at hproposal
  · cases hproposal
  rename_i hqueuedAll
  cases hproposal
  refine ⟨combined.proposalRoles, hflags, hqueued, rfl, fun other => ?_⟩
  refine ⟨_, propose env other gathered (checkWith.withoutRoles.insert newGuid) combined,
    hfinish other, ?_, rfl⟩
  rw [finish, if_neg hfull, if_neg hqueuedAll]

end

/-- When a proposal is created, the leader is one who queued with the flag, for every
random choice, exactly when either nobody or everybody who is combined queued with it. -/
theorem leader_flagged_iff (hcreated : ∃ random result proposal,
      CheckCompatibility env random queue checkWith newGuid found currentCompatibles =
        some result ∧ result.proposal = some proposal) :
    (∀ random result proposal,
        CheckCompatibility env random queue checkWith newGuid found currentCompatibles =
            some result → result.proposal = some proposal →
          LeaderFlagged queue (checked checkWith newGuid) proposal) ↔
      (¬ ∃ player byte, Combines queue (checked checkWith newGuid) player byte ∧
          byte &&& PLAYER_ROLE_LEADER ≠ 0) ∨
        ∀ player byte, Combines queue (checked checkWith newGuid) player byte →
          byte &&& PLAYER_ROLE_LEADER ≠ 0 := by
  obtain ⟨random, result, proposal, hcheck, hproposal⟩ := hcreated
  constructor
  · intro hflagged
    by_cases hsome : ∃ player byte, Combines queue (checked checkWith newGuid) player byte ∧
        byte &&& PLAYER_ROLE_LEADER ≠ 0
    · refine .inr fun player byte hcombines => ?_
      obtain ⟨roles, hflags, ⟨queued, hkeys, hqueued⟩, -, hothers⟩ :=
        proposal_of_created hcheck hproposal
      obtain ⟨other, created, hother, hcreated, hleader⟩ :=
        hothers (coinsFor player random.SelectRandomContainerElement)
      have hplayer : player ∈ roles.keys := by
        rw [hkeys]
        exact StdMap.mem_of_find? ((hqueued player byte).mpr hcombines)
      obtain ⟨leader, given, hgiven, hqueuedLeader, hflag⟩ :=
        hflagged _ other created hother hcreated hsome
      rw [hleader, chooseLeader, leader_of_coins hflags (StdMap.keys_nodup _) hplayer] at hgiven
      cases hgiven
      have hbyte := ((hqueued player given).mpr hqueuedLeader).symm.trans
        ((hqueued player byte).mpr hcombines)
      rw [← some.inj hbyte]
      exact hflag
    · exact .inl hsome
  · rintro (hnone | hall) random' result' proposal' hcheck' hproposal' hsome
    · exact absurd hsome hnone
    · obtain ⟨player, byte, hcombines, -⟩ := hsome
      obtain ⟨roles, hflags, ⟨queued, hkeys, hqueued⟩, hleader, -⟩ :=
        proposal_of_created hcheck' hproposal'
      have hplayer : player ∈ roles.keys := by
        rw [hkeys]
        exact StdMap.mem_of_find? ((hqueued player byte).mpr hcombines)
      have hentries : roles.entries ≠ [] := by
        intro hnil
        unfold StdMap.keys at hplayer
        rw [hnil] at hplayer
        cases hplayer
      obtain ⟨leader, hmem, hchosen⟩ := @chooseLeader_mem random' roles hflags hentries
      rw [hkeys] at hmem
      obtain ⟨given, hgiven⟩ := StdMap.mem_iff_find?.mp hmem
      have hqueuedLeader := (hqueued leader given).mp hgiven
      exact ⟨leader, given, hleader.trans hchosen, hqueuedLeader, hall leader given hqueuedLeader⟩

end Proposing

def queuedAlone (player : ℕ) (byte : BitVec 8) : LfgQueueData where
  tanks := 1
  healers := 1
  dps := 3
  dungeons := {261}
  roles := StdMap.empty.insert player byte
  bestCompatible := ⟨[], none⟩
  size_le := by
    change 1 ≤ 5
    decide

def fivePlayers : LFGQueue where
  QueueDataStore := [(1, 3), (2, 4), (3, 8), (4, 8), (5, 8)].foldl
    (fun store entry => store.insert entry.1 (queuedAlone entry.1 entry.2)) .empty
  CompatibleList := []
  CompatibleTempList := []
  newToQueueStore := []
  restoredAfterProposal := []

def plainEnv : LfgEnv where
  now := 1000
  IsTesting := false
  IsGroup _ := false
  IsLfgGroup _ := false
  HasIgnore _ _ := false
  isQueued _ := true
  inThisQueue _ := true
  GetCompletedEncounterMask _ _ := 0

def lastJoins (random : RandomChoices) : Option Checked :=
  CheckCompatibility plainEnv random fivePlayers ⟨[1, 2, 3, 4], none⟩ 5 ⟨0, 0⟩ []

theorem lastJoins_created : ∃ result proposal,
    lastJoins (coinsFor 2 fun _ => 261) = some result ∧ result.proposal = some proposal ∧
      proposal.leader = some 2 := by
  have hleader : ((lastJoins (coinsFor 2 fun _ => 261)).bind fun result =>
      result.proposal.map (·.leader)) = some (some 2) := by
    decide +kernel
  obtain ⟨result, hresult, hmap⟩ := bind_eq_some_iff.mp hleader
  obtain ⟨proposal, hproposal, hchosen⟩ := map_eq_some_iff.mp hmap
  exact ⟨result, proposal, hresult, hproposal, hchosen⟩

/-- The healer, who did not queue as a leader, can become the leader. -/
theorem healer_leads : ∃ env random queue checkWith newGuid found currentCompatibles result
    proposal, CheckCompatibility env random queue checkWith newGuid found currentCompatibles =
        some result ∧ result.proposal = some proposal ∧
      ¬ LeaderFlagged queue (checked checkWith newGuid) proposal := by
  obtain ⟨result, proposal, hresult, hproposal, hleader⟩ := lastJoins_created
  refine ⟨_, _, _, _, _, _, _, result, proposal, hresult, hproposal, fun hflagged => ?_⟩
  have htank : ∃ player byte, Combines fivePlayers (checked ⟨[1, 2, 3, 4], none⟩ 5) player byte ∧
      byte &&& PLAYER_ROLE_LEADER ≠ 0 :=
    ⟨1, 3, ⟨1, by decide, by decide +kernel⟩, by decide⟩
  obtain ⟨player, byte, hchosen, ⟨guid, hguid, hbyte⟩, hflag⟩ := hflagged htank
  obtain rfl := some.inj (hleader.symm.trans hchosen)
  have hhealer : ∀ guid ∈ (checked ⟨[1, 2, 3, 4], none⟩ 5).guids,
      (((fivePlayers.rolesOf guid).find? 2).all fun byte => byte &&& PLAYER_ROLE_LEADER == 0) =
        true := by
    decide +kernel
  have hnone := hhealer guid hguid
  rw [hbyte] at hnone
  exact hflag (beq_iff_eq.mp hnone)

/-- The choice can go wrong for the five players, by the equivalence. -/
theorem fivePlayers_iff : (∀ random result proposal,
        CheckCompatibility plainEnv random fivePlayers ⟨[1, 2, 3, 4], none⟩ 5 ⟨0, 0⟩ [] =
            some result → result.proposal = some proposal →
          LeaderFlagged fivePlayers (checked ⟨[1, 2, 3, 4], none⟩ 5) proposal) ↔
      (¬ ∃ player byte, Combines fivePlayers (checked ⟨[1, 2, 3, 4], none⟩ 5) player byte ∧
          byte &&& PLAYER_ROLE_LEADER ≠ 0) ∨
        ∀ player byte, Combines fivePlayers (checked ⟨[1, 2, 3, 4], none⟩ 5) player byte →
          byte &&& PLAYER_ROLE_LEADER ≠ 0 := by
  obtain ⟨result, proposal, hresult, hproposal, -⟩ := lastJoins_created
  exact leader_flagged_iff ⟨_, result, proposal, hresult, hproposal⟩

end AzerothCore.DungeonFinding.LFGQueue
