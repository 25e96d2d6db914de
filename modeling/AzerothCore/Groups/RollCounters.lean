import AzerothCore.Groups.Group

/-!
# The counters of a roll

The counters of a roll are exact as long as nobody votes twice and nobody who could
roll passes on loot from the start. A roll is then complete exactly when nobody has
yet to vote.
-/

namespace AzerothCore.LootRoll

open RestartScan

variable {rolls : LootRolls} {roll : Roll}

def isPass (vote : RollVote) : Bool := vote = .PASS

def isValidVote (vote : RollVote) : Bool := vote ≠ .NOT_VALID

def isPending (vote : RollVote) : Bool := vote = .NOT_EMITED_YET

structure Exact (roll : Roll) : Prop where
  need : roll.totalNeed = roll.playerVote.countValues isNeed
  greed : roll.totalGreed = roll.playerVote.countValues isGreed
  pass : roll.totalPass = roll.playerVote.countValues isPass
  rolling : roll.totalPlayersRolling = roll.playerVote.countValues isValidVote
  size : roll.playerVote.size ≤ MAXRAIDSIZE

theorem countValues_isValidVote (votes : StdMap ℕ RollVote) :
    votes.countValues isValidVote = votes.countValues isPass + votes.countValues isNeed +
      votes.countValues isGreed + votes.countValues isPending := by
  simp only [StdMap.countValues]
  induction votes.entries with
  | nil => rfl
  | cons entry rest ih =>
    simp only [List.countP_cons, ih]
    cases entry.2 <;>
      simp [isValidVote, isPass, isNeed, isGreed, isPending] <;> omega

variable {guid : ℕ}

namespace Exact

theorem countValues_lt (hexact : Exact roll) (p : RollVote → Bool) :
    roll.playerVote.countValues p + 1 < 2 ^ 8 := by
  have hle := (roll.playerVote.countValues_le_size p).trans hexact.size
  rw [MAXRAIDSIZE] at hle
  omega

theorem complete_iff (hexact : Exact roll) :
    roll.complete = true ↔ ∀ entry ∈ roll.playerVote.entries, entry.2 ≠ .NOT_EMITED_YET := by
  have hsum := countValues_isValidVote roll.playerVote
  rw [Roll.complete, decide_eq_true_iff, hexact.need, hexact.greed, hexact.pass, hexact.rolling,
    hsum]
  have hzero : roll.playerVote.countValues isPending = 0 ↔
      ∀ entry ∈ roll.playerVote.entries, entry.2 ≠ .NOT_EMITED_YET := by
    rw [StdMap.countValues_eq_zero_iff]
    simp [isPending]
  rw [← hzero]
  omega

theorem first_vote {vote : RollVote} {need greed pass : ℕ} (hexact : Exact roll)
    (hpending : roll.playerVote.find? guid = some .NOT_EMITED_YET) (hvalid : vote ≠ .NOT_VALID)
    (hneed : need = roll.totalNeed + if isNeed vote then 1 else 0)
    (hgreed : greed = roll.totalGreed + if isGreed vote then 1 else 0)
    (hpass : pass = roll.totalPass + if isPass vote then 1 else 0) :
    Exact { roll with
      totalNeed := need
      totalGreed := greed
      totalPass := pass
      playerVote := roll.playerVote.insert guid vote } := by
  have hcount : ∀ p : RollVote → Bool, p .NOT_EMITED_YET = false →
      (roll.playerVote.insert guid vote).countValues p =
        roll.playerVote.countValues p + if p vote then 1 else 0 := by
    intro p hp
    have herase := StdMap.countValues_erase p hpending
    rw [hp] at herase
    rw [StdMap.countValues_insert, ← herase]
    rfl
  refine ⟨?_, ?_, ?_, ?_, ?_⟩
  · rw [hcount isNeed rfl, hneed, hexact.need]
  · rw [hcount isGreed rfl, hgreed, hexact.greed]
  · rw [hcount isPass rfl, hpass, hexact.pass]
  · have herase := StdMap.countValues_erase isValidVote hpending
    have htrue : isValidVote vote = true := by simpa [isValidVote] using hvalid
    simp only [StdMap.countValues_insert, htrue, hexact.rolling, ← herase]
    rfl
  · have hlen := StdMap.size_erase_of_mem (StdMap.mem_of_find? hpending)
    have hperm := (roll.playerVote.insert_perm guid vote).length_eq
    have hsize := hexact.size
    simp only [StdMap.size, List.length_cons] at hlen hperm hsize ⊢
    omega

theorem vote (hexact : Exact roll) (Choice : ℕ)
    (hpending : roll.playerVote.find? guid = some .NOT_EMITED_YET) :
    Exact (roll.vote guid Choice) := by
  have hneed := hexact.countValues_lt isNeed
  have hgreed := hexact.countValues_lt isGreed
  have hpass := hexact.countValues_lt isPass
  rw [← hexact.need] at hneed
  rw [← hexact.greed] at hgreed
  rw [← hexact.pass] at hpass
  unfold Roll.vote
  split
  · exact hexact.first_vote hpending (by decide) rfl rfl (uint8_of_lt hpass)
  · exact hexact.first_vote hpending (by decide) (uint8_of_lt hneed) rfl rfl
  · exact hexact.first_vote hpending (by decide) rfl (uint8_of_lt hgreed) rfl
  · exact hexact.first_vote hpending (by decide) rfl (uint8_of_lt hgreed) rfl
  · exact hexact

theorem complete_vote (hexact : Exact roll) (hcompl : roll.complete = true)
    (guid Choice : ℕ) : (roll.vote guid Choice).complete = true := by
  have hneed := hexact.countValues_lt isNeed
  have hgreed := hexact.countValues_lt isGreed
  have hpass := hexact.countValues_lt isPass
  rw [← hexact.need] at hneed
  rw [← hexact.greed] at hgreed
  rw [← hexact.pass] at hpass
  rw [Roll.complete, decide_eq_true_iff] at hcompl ⊢
  unfold Roll.vote
  split
  · simp only [uint8_of_lt hpass]
    omega
  · simp only [uint8_of_lt hneed]
    omega
  · simp only [uint8_of_lt hgreed]
    omega
  · simp only [uint8_of_lt hgreed]
    omega
  · exact hcompl

theorem withdraw_counter {total : ℕ} {votes : StdMap ℕ RollVote} {vote : RollVote}
    (p : RollVote → Bool) (htotal : total = votes.countValues p) (hlt : total < 2 ^ 8)
    (hvote : votes.find? guid = some vote) :
    (if p vote then uint8 (total + 255) else total) = (votes.erase guid).countValues p := by
  have herase := StdMap.countValues_erase p hvote
  split
  · rename_i hp
    rw [hp, if_pos rfl, ← htotal] at herase
    rw [uint8]
    omega
  · rename_i hp
    rw [if_neg hp, Nat.add_zero] at herase
    rw [htotal, herase]

theorem withdraw {vote : RollVote} (hexact : Exact roll)
    (hvote : roll.playerVote.find? guid = some vote) : Exact (roll.withdraw guid vote) := by
  have hlt : ∀ p total, total = roll.playerVote.countValues p → total < 2 ^ 8 := by
    intro p total htotal
    rw [htotal]
    exact (Nat.lt_succ_self _).trans (hexact.countValues_lt p)
  refine ⟨?_, ?_, ?_, ?_, ?_⟩
  · exact withdraw_counter isNeed hexact.need (hlt _ _ hexact.need) hvote
  · exact withdraw_counter isGreed hexact.greed (hlt _ _ hexact.greed) hvote
  · simp only [Roll.withdraw]
    rw [← withdraw_counter isPass hexact.pass (hlt _ _ hexact.pass) hvote]
    simp [isPass]
  · simp only [Roll.withdraw]
    rw [← withdraw_counter isValidVote hexact.rolling (hlt _ _ hexact.rolling) hvote]
    simp [isValidVote]
  · have hsize := StdMap.size_erase_of_mem (StdMap.mem_of_find? hvote)
    exact (Nat.le_of_lt (Nat.lt_of_succ_le hsize.le)).trans hexact.size

end Exact

def noAutoPass (env : LootEnv) (members : List ℕ) (item : LootItem) : Prop :=
  ∀ member ∈ members.filter env.InRange, env.CanRollOnItem item member = true →
    env.GetPassOnGroupLoot member = false

theorem Enrolled.exact {env : LootEnv} {item : LootItem} {members : List ℕ}
    (henrolled : Enrolled env item (members.filter env.InRange) roll)
    (hauto : noAutoPass env members item) (hlen : members.length ≤ MAXRAIDSIZE) :
    Exact roll := by
  have hcount : ∀ p : RollVote → Bool, roll.playerVote.countValues p =
      (members.filter env.InRange).countP fun member => p (voteOf env item member) := by
    intro p
    rw [StdMap.countValues, henrolled.votes.countP_eq, List.countP_map]
    rfl
  refine ⟨?_, ?_, ?_, ?_, ?_⟩
  · rw [henrolled.need, hcount]
    refine (List.countP_eq_zero.mpr fun member _ => ?_).symm
    rw [voteOf]
    split
    · split <;> decide
    · decide
  · rw [henrolled.greed, hcount]
    refine (List.countP_eq_zero.mpr fun member _ => ?_).symm
    rw [voteOf]
    split
    · split <;> decide
    · decide
  · rw [henrolled.pass, hcount]
    refine List.countP_congr fun member hmember => ?_
    rw [voteOf]
    cases hcan : env.CanRollOnItem item member with
    | false => simp [isPass]
    | true => simp [isPass, hauto member hmember hcan]
  · rw [henrolled.rolling, hcount]
    refine (List.countP_eq_length.mpr fun member _ => ?_).symm
    rw [voteOf]
    split
    · split <;> decide
    · decide
  · have hsize := henrolled.votes.length_eq
    rw [List.length_map] at hsize
    exact (hsize.trans_le (List.length_filter_le _ _)).trans hlen

/-! ## All rolls of a group -/

def AllExact (rolls : LootRolls) : Prop := ∀ roll ∈ rolls.RollId, Exact roll

/-- A vote that is counted is the first one of the player, unless nobody is left to vote. -/
def firstVote (rolls : LootRolls) (playerGUID Guid Choice : ℕ) : Prop :=
  Choice < MAX_ROLL_TYPE → ∀ rollI roll, GetRoll rolls Guid = some rollI →
    rolls.RollId[rollI]? = some roll → lootItemsEmpty rolls roll = false →
    ∀ vote, roll.playerVote.find? playerGUID = some vote →
      vote = .NOT_EMITED_YET ∨ ∀ entry ∈ roll.playerVote.entries, entry.2 ≠ .NOT_EMITED_YET

variable {Choice : ℕ}

theorem Roll.vote_of_le (hle : MAX_ROLL_TYPE ≤ Choice) : roll.vote guid Choice = roll := by
  rw [MAX_ROLL_TYPE] at hle
  unfold Roll.vote
  split
  · omega
  · omega
  · omega
  · omega
  · rfl

theorem exact_of_counted {playerGUID Guid rollI : ℕ} (hall : AllExact rolls)
    (hfirst : firstVote rolls playerGUID Guid Choice) (hget : GetRoll rolls Guid = some rollI)
    (hroll : rolls.RollId[rollI]? = some roll) (hempty : lootItemsEmpty rolls roll = false)
    (hmember : Choice < MAX_ROLL_TYPE → playerGUID ∈ roll.playerVote) :
    Exact (roll.vote playerGUID Choice) ∨
      ∀ entry ∈ roll.playerVote.entries, entry.2 ≠ .NOT_EMITED_YET := by
  have hexact := hall roll (List.mem_of_getElem? hroll)
  rcases Nat.lt_or_ge Choice MAX_ROLL_TYPE with hlt | hge
  · obtain ⟨vote, hvote⟩ := StdMap.mem_iff_find?.mp (hmember hlt)
    rcases hfirst hlt rollI roll hget hroll hempty vote hvote with hpending | hdone
    · rw [hpending] at hvote
      exact .inl (hexact.vote Choice hvote)
    · exact .inr hdone
  · rw [Roll.vote_of_le hge]
    exact .inl hexact

theorem allExact_countRollVote (env : RollEnv) {playerGUID Guid : ℕ} (hall : AllExact rolls)
    (hfirst : firstVote rolls playerGUID Guid Choice) :
    AllExact (CountRollVote env rolls playerGUID Guid Choice).1 := by
  intro other hother
  rcases mem_countRollVote hother with hold |
    ⟨rollI, roll, hget, hroll, hmember, hempty, hopen, rfl⟩
  · exact hall other hold
  rcases exact_of_counted hall hfirst hget hroll hempty hmember with hexact | hdone
  · exact hexact
  have hexact := hall roll (List.mem_of_getElem? hroll)
  have hcompl := hexact.complete_vote (hexact.complete_iff.mpr hdone) playerGUID Choice
  rw [hopen] at hcompl
  exact absurd hcompl Bool.false_ne_true

theorem Roll.vote_entries {entry : ℕ × RollVote}
    (hentry : entry ∈ (roll.vote guid Choice).playerVote.entries) :
    entry ∈ roll.playerVote.entries ∨ entry.2 ≠ .NOT_EMITED_YET := by
  have hinsert : ∀ vote, vote ≠ .NOT_EMITED_YET →
      entry ∈ (roll.playerVote.insert guid vote).entries →
      entry ∈ roll.playerVote.entries ∨ entry.2 ≠ .NOT_EMITED_YET := by
    intro vote hvote hmem
    rcases List.mem_cons.mp ((roll.playerVote.insert_perm guid vote).mem_iff.mp hmem) with
      rfl | hold
    · exact .inr hvote
    · exact .inl (List.mem_of_mem_filter hold)
  unfold Roll.vote at hentry
  split at hentry
  · exact hinsert _ (by decide) hentry
  · exact hinsert _ (by decide) hentry
  · exact hinsert _ (by decide) hentry
  · exact hinsert _ (by decide) hentry
  · exact .inl hentry

variable {env : RollEnv}

theorem resolved_by_vote {playerGUID Guid : ℕ} (hall : AllExact rolls)
    (hfirst : firstVote rolls playerGUID Guid Choice)
    (hover : (CountRollVote env rolls playerGUID Guid Choice).2 = true) :
    ∃ rollI roll, GetRoll rolls Guid = some rollI ∧ rolls.RollId[rollI]? = some roll ∧
      ∀ entry ∈ (roll.vote playerGUID Choice).playerVote.entries, entry.2 ≠ .NOT_EMITED_YET := by
  rcases countRollVote_cases env rolls playerGUID Guid Choice with
    ⟨hsame, -⟩ | ⟨rollI, roll, hget, hroll, hmember, hempty, hvote⟩
  · rw [hsame] at hover
    exact absurd hover Bool.false_ne_true
  refine ⟨rollI, roll, hget, hroll, ?_⟩
  rcases hcompl : (roll.vote playerGUID Choice).complete with _ | _
  · rw [hvote, hcompl] at hover
    exact absurd hover Bool.false_ne_true
  rcases exact_of_counted hall hfirst hget hroll hempty hmember with hexact | hdone
  · exact hexact.complete_iff.mp hcompl
  · intro entry hentry
    exact (Roll.vote_entries hentry).elim (hdone entry) id

theorem allExact_withdrawPlayer (hall : AllExact rolls) :
    AllExact (withdrawPlayer env rolls guid) := by
  refine scan_invariant AllExact (fun before it next again hbefore hvisit => ?_) _ _ hall
  obtain ⟨roll, vote, hroll, hvote, hcount⟩ := withdrawVisit_spec hvisit
  have hset : AllExact (before.setRoll it (roll.withdraw guid vote)) := by
    intro other hother
    rcases mem_setRoll hother with rfl | hold
    · exact (hbefore roll (List.mem_of_getElem? hroll)).withdraw hvote
    · exact hbefore other hold
  have hfirst : firstVote (before.setRoll it (roll.withdraw guid vote)) guid roll.itemGUID
      MAX_ROLL_TYPE := fun hlt => absurd hlt (Nat.lt_irrefl MAX_ROLL_TYPE)
  have hnext := allExact_countRollVote env hset hfirst
  rwa [hcount] at hnext

theorem allExact_endRoll {id : ℕ} {allowedMap : Option ℕ} (hall : AllExact rolls) :
    AllExact (EndRoll env rolls id allowedMap) := by
  refine scan_invariant AllExact (fun before itr next again hbefore hvisit => ?_) _ _ hall
  obtain ⟨-, -, -, -, rfl, -⟩ := endRollVisit_spec hvisit
  exact fun other hother => hbefore other (countTheRoll_RollId_subset _ _ _ _ hother)

theorem allExact_itemStep {env : LootEnv} {members : List ℕ} {rolled : LootItem → Prop}
    {drops : Prop} {id slot : ℕ} {before next : LootRolls}
    (hlen : members.length ≤ MAXRAIDSIZE)
    (hauto : ∀ item, rolled item → noAutoPass env members item) (hall : AllExact before)
    (hstep : ItemStep env members rolled drops id slot before next) : AllExact next := by
  cases hstep with
  | idle _ hRollId _ _ =>
    intro roll hroll
    rw [hRollId] at hroll
    exact hall roll hroll
  | marked | dropped => exact hall
  | started item roll _ hrolled _ _ _ henrolled =>
    intro other hother
    rcases List.mem_append.mp hother with hold | hnew
    · exact hall other hold
    · rw [List.mem_singleton.mp hnew]
      exact henrolled.exact (hauto item hrolled) hlen

end AzerothCore.LootRoll

namespace AzerothCore.World

open LootRoll Reachability

variable {world after : World} {group : Group}

/-- Nobody passes on loot that could roll for it, nobody votes twice, and only new
members are added. -/
def votesOnce (world : World) (op : Op) : Prop :=
  newMembers world op ∧
  match op with
  | .GroupLoot env _ loot => ∀ group, world.group = some group →
      ∀ item, groupRolled env group.m_lootThreshold loot item →
        noAutoPass env (m_memberMgr world.players) item
  | .NeedBeforeGreed env _ loot => ∀ group, world.group = some group →
      ∀ item, needRolled env group.m_lootThreshold loot item →
        noAutoPass env (m_memberMgr world.players) item
  | .CountRollVote _ playerGUID Guid Choice => firstVote world.rolls playerGUID Guid Choice
  | _ => True

theorem loots_setLoot (rolls : LootRolls) (id : ℕ) (loot : Loot) :
    (rolls.setLoot id loot).loots id = some loot :=
  Function.update_self ..

theorem freshLoot_unreferenced {id : ℕ} {loot : Loot} (hfresh : world.freshLoot id loot = true) :
    ∀ roll ∈ (world.rolls.setLoot id loot).RollId, roll.loot ≠ id := by
  simp only [freshLoot, Bool.and_eq_true, List.all_eq_true, decide_eq_true_iff] at hfresh
  exact hfresh.1.2

theorem allExact_step {op : Op} (hworld : world.group = some group)
    (hsound : Sound world.players group) (hnodup : group.memberGuids.Nodup)
    (hall : AllExact world.rolls) (honce : votesOnce world op)
    (hstep : step world op = some after) : AllExact after.rolls := by
  have hrolls := step_rolls hworld hstep
  have hmembers := memberMgr_nodup hsound hnodup
  have hforty := length_memberMgr_le hsound hnodup
  have hlen : (m_memberMgr world.players).length < 2 ^ 8 := hforty.trans_lt (by decide)
  have hkept : some world.rolls = some after.rolls → AllExact after.rolls := by
    intro hsame
    rw [← Option.some.inj hsame]
    exact hall
  cases op with
  | RemoveMember guid method env =>
    simp only [rollsAfter] at hrolls
    split at hrolls
    · rw [← Option.some.inj hrolls]
      exact fun roll hroll => absurd hroll (by simp)
    split at hrolls
    · rw [← Option.some.inj hrolls]
      exact fun roll hroll => absurd hroll (by simp)
    split at hrolls
    · exact hkept hrolls
    · rw [← Option.some.inj hrolls]
      exact allExact_withdrawPlayer hall
  | GroupLoot env id loot =>
    simp only [rollsAfter] at hrolls
    split at hrolls
    · rename_i hfresh
      rw [← Option.some.inj hrolls]
      exact groupLoot_invariant AllExact hmembers hlen (loots_setLoot _ id loot)
        (freshLoot_unreferenced hfresh)
        (fun _ _ _ hmiddle _ hone =>
          allExact_itemStep hforty (honce.2 group hworld) hmiddle hone) hall
    · exact absurd hrolls (by simp)
  | NeedBeforeGreed env id loot =>
    simp only [rollsAfter] at hrolls
    split at hrolls
    · rename_i hfresh
      exact needBeforeGreed_invariant AllExact hmembers hlen (loots_setLoot _ id loot)
        (freshLoot_unreferenced hfresh)
        (fun _ _ _ hmiddle _ hone =>
          allExact_itemStep hforty (honce.2 group hworld) hmiddle hone) hall hrolls
    · exact absurd hrolls (by simp)
  | CountRollVote env playerGUID Guid Choice =>
    rw [← Option.some.inj hrolls]
    exact allExact_countRollVote env hall honce.2
  | EndRoll env id allowedMap =>
    rw [← Option.some.inj hrolls]
    exact allExact_endRoll hall
  | deleteLoot id =>
    rw [← Option.some.inj hrolls]
    exact hall
  | _ => exact hkept hrolls

theorem allExact_reachable (hreach : Reachable Created (guarded votesOnce (computed step)) world) :
    AllExact world.rolls := by
  refine hreach.invariant_of_reachable (fun world => AllExact world.rolls)
    (fun created hcreated => ?_) fun before op after hbefore hall hop => ?_
  · obtain ⟨-, -, -, -, -, -, -, -, -, -, -, hRollId, -⟩ := created_cases hcreated
    intro roll hroll
    rw [hRollId] at hroll
    exact absurd hroll (by simp)
  · obtain ⟨honce, hstep⟩ := hop
    have hmembers : Reachable Created (guarded newMembers (computed step)) before :=
      hbefore.mono (fun _ hcreated => hcreated) fun _ _ _ hop => ⟨hop.1.1, hop.2⟩
    cases hgroup : before.group with
    | none =>
      rw [computed, step, hgroup] at hstep
      exact absurd hstep (by simp)
    | some group =>
      exact allExact_step hgroup (soundWorld_reachable hbefore.of_guarded group hgroup)
        (memberGuids_nodup_reachable hmembers group hgroup) hall honce hstep

/-- In every run in which no eligible member passes on loot and nobody votes twice, the
counters of every roll are those of its votes, and no more than forty, and a vote ends
a roll only when nobody has yet to vote. -/
theorem reachable_roll_counters
    (hreach : Reachable Created (guarded votesOnce (computed step)) world) :
    (∀ roll ∈ world.rolls.RollId, roll.totalNeed = roll.playerVote.countValues (· = .NEED) ∧
      roll.totalGreed = roll.playerVote.countValues (fun vote => vote = .GREED ∨ vote = .DISENCHANT) ∧
      roll.totalPass = roll.playerVote.countValues (· = .PASS) ∧
      roll.totalPlayersRolling = roll.playerVote.countValues (· ≠ .NOT_VALID) ∧
      roll.playerVote.size ≤ MAXRAIDSIZE) ∧
    ∀ env playerGUID Guid Choice, firstVote world.rolls playerGUID Guid Choice →
      (LootRoll.CountRollVote env world.rolls playerGUID Guid Choice).2 = true →
      ∃ rollI roll, GetRoll world.rolls Guid = some rollI ∧ world.rolls.RollId[rollI]? = some roll ∧
        ∀ entry ∈ (roll.vote playerGUID Choice).playerVote.entries, entry.2 ≠ .NOT_EMITED_YET := by
  have hall := allExact_reachable hreach
  refine ⟨fun roll hroll => ?_, fun env playerGUID Guid Choice hfirst hover => ?_⟩
  · obtain ⟨hneed, hgreed, hpass, hrolling, hsize⟩ := hall roll hroll
    exact ⟨hneed, hgreed, hpass, hrolling, hsize⟩
  · exact resolved_by_vote hall hfirst hover

/-! ## Runs on fixed inputs -/

def pairPlayers : StdMap ℕ Player := (StdMap.empty.insert 1 ⟨.null, .null⟩).insert 2 ⟨.null, .null⟩

def oneItem : Loot := ⟨[⟨7, false, false, false, false, false, 0⟩], [], by decide, by decide⟩

def everybody : LootEnv := ⟨fun _ => some 3, fun _ => true, fun _ => false, fun _ _ => true⟩

theorem created_pair : Created (Create pairPlayers 1 false false 0).1 := by
  refine ⟨pairPlayers, 1, false, false, 0, fun guid player hplayer => ?_, rfl⟩
  have hall : ∀ entry ∈ pairPlayers.entries, entry.2.links = 0 := by decide
  exact hall _ (StdMap.find?_eq_some_iff.mp hplayer)

/-- The leader of a group of two votes need, once. -/
theorem reachable_roll_counters_once :
    ∃ (world : World) (roll : Roll), world.rolls.RollId = [roll] ∧ roll.totalNeed = 1 ∧
      roll.totalNeed = roll.playerVote.countValues (· = .NEED) := by
  let start : World := (Create pairPlayers 1 false false 0).1
  let started : Roll := ⟨0, 7, 0, 0,
    (StdMap.empty.insert 1 .NOT_EMITED_YET).insert 2 .NOT_EMITED_YET, 2, 0, 0, 0⟩
  let voted : Roll := ⟨0, 7, 0, 0,
    (StdMap.empty.insert 1 .NEED).insert 2 .NOT_EMITED_YET, 2, 1, 0, 0⟩
  have hleader : start.group.map (·.memberGuids) = some [1] := by decide +kernel
  have hadd : (step start (.AddMember 2)).isSome = true := by decide +kernel
  have hloot : ((step start (.AddMember 2)).bind fun joined =>
      step joined (.GroupLoot everybody 0 oneItem)).map (·.rolls.RollId) = some [started] := by
    decide +kernel
  have hvote : (((step start (.AddMember 2)).bind fun joined =>
      step joined (.GroupLoot everybody 0 oneItem)).bind fun looted =>
      step looted (.CountRollVote default 1 0 1)).map (·.rolls.RollId) = some [voted] := by
    decide +kernel
  obtain ⟨joined, hjoined⟩ := Option.isSome_iff_exists.mp hadd
  rw [hjoined, Option.bind_some] at hloot hvote
  obtain ⟨looted, hlooted, hstarted⟩ := Option.map_eq_some_iff.mp hloot
  rw [hlooted, Option.bind_some] at hvote
  obtain ⟨world, hworld, hvoted⟩ := Option.map_eq_some_iff.mp hvote
  have hreach : Reachable Created (guarded votesOnce (computed step)) joined := by
    refine .step (.start created_pair) ⟨⟨fun guid hguid group hgroup => ?_, trivial⟩, hjoined⟩
    cases hguid
    rw [hgroup, Option.map_some, Option.some.injEq] at hleader
    rw [hleader]
    decide
  have hreach' : Reachable Created (guarded votesOnce (computed step)) looted :=
    .step hreach ⟨⟨fun _ hguid => Op.noConfusion hguid, fun _ _ _ _ _ _ _ => rfl⟩, hlooted⟩
  have hreach'' : Reachable Created (guarded votesOnce (computed step)) world := by
    refine .step hreach' ⟨⟨fun _ hguid => Op.noConfusion hguid, ?_⟩, hworld⟩
    intro _ rollI roll _ hroll _ vote hfind
    have hmem := List.mem_of_getElem? hroll
    rw [hstarted, List.mem_singleton] at hmem
    rw [hmem] at hfind
    exact .inl (Option.some.inj hfind).symm
  refine ⟨world, voted, hvoted, rfl, ?_⟩
  exact ((reachable_roll_counters hreach'').1 voted (by rw [hvoted]; exact List.mem_singleton_self _)).1

/-- A member that sends need twice is counted twice; a third vote would end the roll
although the two other members have yet to vote. -/
theorem roll_counts_a_member_twice :
    ∃ world roll, Reachable Created (computed step) world ∧ world.rolls.RollId = [roll] ∧
      roll.playerVote.entries = [(1, .NEED), (2, .NOT_EMITED_YET), (3, .NOT_EMITED_YET)] ∧
      roll.totalNeed ≠ roll.playerVote.countValues (· = .NEED) ∧
      (LootRoll.CountRollVote default world.rolls 1 roll.itemGUID 1).2 = true := by
  let start : World := (Create (pairPlayers.insert 3 ⟨.null, .null⟩) 1 false false 0).1
  let ops : List Op := [.AddMember 2, .AddMember 3, .GroupLoot everybody 0 oneItem,
    .CountRollVote default 1 0 1, .CountRollVote default 1 0 1]
  let twice : Roll := ⟨0, 7, 0, 0,
    ((StdMap.empty.insert 1 .NEED).insert 2 .NOT_EMITED_YET).insert 3 .NOT_EMITED_YET, 3, 2, 0, 0⟩
  have hcreated : Created start := by
    refine ⟨pairPlayers.insert 3 ⟨.null, .null⟩, 1, false, false, 0,
      fun guid player hplayer => ?_, rfl⟩
    have hall : ∀ entry ∈ (pairPlayers.insert 3 ⟨.null, .null⟩).entries, entry.2.links = 0 := by
      decide
    exact hall _ (StdMap.find?_eq_some_iff.mp hplayer)
  have hrun : (ops.foldlM step start).map (fun world =>
      (world.rolls.RollId, (LootRoll.CountRollVote default world.rolls 1 0 1).2)) =
      some ([twice], true) := by
    decide +kernel
  obtain ⟨world, hworld, hvalues⟩ := Option.map_eq_some_iff.mp hrun
  obtain ⟨hRollId, hover⟩ := Prod.mk.inj hvalues
  exact ⟨world, twice, Reachable.foldlM (.start hcreated) hworld, hRollId, by decide, by decide,
    hover⟩

end AzerothCore.World
