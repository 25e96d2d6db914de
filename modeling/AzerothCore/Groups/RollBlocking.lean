import AzerothCore.Groups.RollCounters

/-!
# Blocked items and pending rolls

An item that is blocked and not looted has a roll. A roll that is counted settles its
item: somebody wins it, or it is unblocked. The one thing a count relies on is that a
roll without voters has no votes either, and that is what the inequalities between
the counters are for.
-/

namespace AzerothCore.LootRoll

open List Option Bool Nat StdMap
open RestartScan

variable {rolls : LootRolls} {roll : Roll}

/-! ## Counting settles the item -/

def Done (item : LootItem) : Prop := item.is_looted = true ∨ item.is_blocked = false

theorem rewardItem_done (env : RollEnv) (winner itemid : ℕ) (item : LootItem) :
    Done (rewardItem env winner itemid item) := by
  rw [rewardItem]
  split
  · exact .inl rfl
  · exact .inr rfl

variable {env : RollEnv}

theorem winItem_done {itemid : ℕ} {tally : Tally} (item : LootItem)
    (hfound : (env.FindPlayer tally.maxguid).isSome = true) :
    Done (winItem env itemid tally item) := by
  obtain ⟨map, hmap⟩ := isSome_iff_exists.mp hfound
  rw [winItem, hmap]
  simp only
  split
  · exact .inl rfl
  · exact rewardItem_done ..

variable {item : LootItem}

theorem winItem_keeps_done (env : RollEnv) (itemid : ℕ) (tally : Tally) (hdone : Done item) :
    Done (winItem env itemid tally item) := by
  cases hfound : env.FindPlayer tally.maxguid with
  | none =>
    rw [winItem, hfound]
    exact hdone
  | some map => exact winItem_done item (by rw [hfound]; rfl)

theorem tally_winner_found (env : RollEnv) (allowedMap : Option ℕ) (counts : RollVote → Bool)
    (entries : List (ℕ × RollVote)) {tally : Tally}
    (hfound : tally.maxguid ≠ 0 → (env.FindPlayer tally.maxguid).isSome = true) :
    (entries.foldl (tallyVote env allowedMap counts) tally).maxguid ≠ 0 →
      (env.FindPlayer (entries.foldl (tallyVote env allowedMap counts) tally).maxguid).isSome =
        true := by
  induction entries generalizing tally with
  | nil => exact hfound
  | cons entry rest ih =>
    apply ih
    rw [tallyVote]
    split
    · split
      · exact hfound
      · rename_i hpresent
        split
        · intro _
          rw [absent] at hpresent
          split at hpresent
          · exact absurd rfl hpresent
          rename_i map hmap
          rw [hmap]
          rfl
        · exact hfound
    · exact hfound

theorem countStage_spec (env : RollEnv) (allowedMap : Option ℕ) (counts : RollVote → Bool)
    (total : ℕ) (item : LootItem) (hvoters : roll.playerVote.entries ≠ []) :
    (countStage env allowedMap counts roll total item).1 = 0 ∨
      Done (countStage env allowedMap counts roll total item).2 := by
  rw [countStage, if_neg hvoters]
  simp only
  split
  · rename_i hwinner
    exact .inr (winItem_done item
      (tally_winner_found env allowedMap counts _ (fun hne => absurd rfl hne) hwinner))
  · exact .inl rfl

theorem countStage_keeps_done (env : RollEnv) (allowedMap : Option ℕ) (counts : RollVote → Bool)
    (roll : Roll) (total : ℕ) (hdone : Done item) :
    Done (countStage env allowedMap counts roll total item).2 := by
  rw [countStage]
  split
  · exact hdone
  simp only
  split
  · exact winItem_keeps_done _ _ _ hdone
  · exact hdone

theorem countItem_done (env : RollEnv) (allowedMap : Option ℕ) (item : LootItem)
    (hvotes : roll.playerVote.entries = [] → roll.totalNeed = 0 ∧ roll.totalGreed = 0) :
    Done (countItem env allowedMap roll item) := by
  rw [countItem]
  set need : ℕ × LootItem := if 0 < roll.totalNeed then
    countStage env allowedMap isNeed roll roll.totalNeed item else (roll.totalNeed, item)
    with hneed
  set greed : ℕ × LootItem := if need.1 = 0 ∧ 0 < roll.totalGreed then
    countStage env allowedMap isGreed roll roll.totalGreed need.2 else (roll.totalGreed, need.2)
    with hgreed
  have hfirst : need.1 = 0 ∨ Done need.2 := by
    rw [hneed]
    split
    · rename_i hpos
      exact countStage_spec env allowedMap isNeed _ item
        fun hnil => absurd (hvotes hnil).1 (Nat.ne_of_gt hpos)
    · rename_i hzero
      exact .inl (Nat.eq_zero_of_not_pos hzero)
  have hkept : Done need.2 → Done greed.2 := by
    intro hdone
    rw [hgreed]
    split
    · exact countStage_keeps_done _ _ _ _ _ hdone
    · exact hdone
  have hsecond : need.1 = 0 → greed.1 = 0 ∨ Done greed.2 := by
    intro hzero
    rw [hgreed]
    split
    · rename_i hpos
      exact countStage_spec env allowedMap isGreed _ need.2
        fun hnil => absurd (hvotes hnil).2 (Nat.ne_of_gt hpos.2)
    · rename_i hnot
      exact .inl (Nat.eq_zero_of_not_pos fun hpos => hnot ⟨hzero, hpos⟩)
  split
  · exact .inr rfl
  rename_i hopen
  rcases hfirst with hzero | hdone
  · rcases hsecond hzero with hzero' | hdone
    · exact absurd ⟨hzero, hzero'⟩ hopen
    · exact hdone
  · exact hkept hdone

/-! ## Counters of a pending roll -/

structure Bounded (roll : Roll) : Prop where
  need : roll.playerVote.countValues isNeed ≤ roll.totalNeed
  greed : roll.playerVote.countValues isGreed ≤ roll.totalGreed
  need_lt : roll.totalNeed < 2 ^ 8
  greed_lt : roll.totalGreed < 2 ^ 8
  rolling : roll.totalPlayersRolling = roll.playerVote.size
  size : roll.playerVote.size ≤ MAXRAIDSIZE
  valid : roll.playerVote.countValues isValidVote = roll.playerVote.size

def Waiting (roll : Roll) : Prop :=
  (roll.totalNeed = 0 ∧ roll.totalGreed = 0) ∨
    roll.totalPass + roll.totalNeed + roll.totalGreed < roll.totalPlayersRolling

theorem Waiting.votes (hwaiting : Waiting roll) :
    roll.totalNeed + roll.totalGreed ≤ roll.totalPlayersRolling := by
  rcases hwaiting with ⟨hneed, hgreed⟩ | hlt
  · omega
  · omega

theorem Bounded.votes_of_nil (hbounded : Bounded roll)
    (hvotes : roll.totalNeed + roll.totalGreed ≤ roll.totalPlayersRolling)
    (hnil : roll.playerVote.entries = []) : roll.totalNeed = 0 ∧ roll.totalGreed = 0 := by
  rw [hbounded.rolling, StdMap.size, hnil, length_nil] at hvotes
  omega

variable {votes : StdMap ℕ RollVote}

theorem countValues_erase_le (guid : ℕ) (p : RollVote → Bool) :
    (votes.erase guid).countValues p ≤ votes.countValues p :=
  filter_sublist.countP_le

theorem countValues_insert_le (votes : StdMap ℕ RollVote) (guid : ℕ) (vote : RollVote)
    (p : RollVote → Bool) : (votes.insert guid vote).countValues p ≤
      votes.countValues p + if p vote then 1 else 0 := by
  rw [countValues_insert]
  exact Nat.add_le_add_right (countValues_erase_le guid p) _

variable {guid : ℕ}

namespace Bounded

theorem lt_of_votes (hbounded : Bounded roll) : roll.totalPlayersRolling ≤ MAXRAIDSIZE :=
  hbounded.rolling.trans_le hbounded.size

theorem revote {vote : RollVote} {need greed pass : ℕ} (hbounded : Bounded roll)
    (hmember : guid ∈ roll.playerVote) (hvalid : isValidVote vote = true)
    (hneed : need = roll.totalNeed + if isNeed vote then 1 else 0) (hneed_lt : need < 2 ^ 8)
    (hgreed : greed = roll.totalGreed + if isGreed vote then 1 else 0) (hgreed_lt : greed < 2 ^ 8) :
    Bounded { roll with
      totalNeed := need
      totalGreed := greed
      totalPass := pass
      playerVote := roll.playerVote.insert guid vote } := by
  obtain ⟨old, hold⟩ := mem_iff_find?.mp hmember
  have hsize : (roll.playerVote.insert guid vote).size = roll.playerVote.size := by
    have hperm := (roll.playerVote.insert_perm guid vote).length_eq
    have herase := size_erase_of_mem hmember
    simp only [StdMap.size, length_cons] at hperm herase ⊢
    omega
  refine ⟨?_, ?_, hneed_lt, hgreed_lt, ?_, ?_, ?_⟩
  · rw [hneed]
    exact (countValues_insert_le _ _ _ _).trans (Nat.add_le_add_right hbounded.need _)
  · rw [hgreed]
    exact (countValues_insert_le _ _ _ _).trans (Nat.add_le_add_right hbounded.greed _)
  · rw [hsize]
    exact hbounded.rolling
  · rw [hsize]
    exact hbounded.size
  · have herase := countValues_erase isValidVote hold
    have hle := (roll.playerVote.erase guid).countValues_le_size isValidVote
    have hsize' := size_erase_of_mem hmember
    have hall := hbounded.valid
    rw [hsize, countValues_insert, hvalid, if_pos rfl]
    split at herase <;> omega

theorem vote {Choice : ℕ} (hbounded : Bounded roll)
    (hmember : Choice < MAX_ROLL_TYPE → guid ∈ roll.playerVote) (hwaiting : Waiting roll) :
    Bounded (roll.vote guid Choice) ∧
      (roll.vote guid Choice).totalNeed + (roll.vote guid Choice).totalGreed ≤
        (roll.vote guid Choice).totalPlayersRolling := by
  have hrolling := hbounded.lt_of_votes
  have hvotes := hwaiting.votes
  rw [MAXRAIDSIZE] at hrolling
  have hmore : guid ∈ roll.playerVote →
      roll.totalNeed + roll.totalGreed + 1 ≤ roll.totalPlayersRolling := by
    intro hmem
    rcases hwaiting with ⟨hneed, hgreed⟩ | hlt
    · have hsize := size_erase_of_mem hmem
      rw [hbounded.rolling]
      omega
    · omega
  have hneed : uint8 (roll.totalNeed + 1) = roll.totalNeed + 1 := uint8_of_lt (by omega)
  have hgreed : uint8 (roll.totalGreed + 1) = roll.totalGreed + 1 := uint8_of_lt (by omega)
  unfold Roll.vote
  split
  · exact ⟨hbounded.revote (hmember (by decide)) rfl rfl hbounded.need_lt rfl hbounded.greed_lt,
      hvotes⟩
  · have hmem := hmore (hmember (by decide))
    refine ⟨hbounded.revote (hmember (by decide)) rfl hneed (uint8_lt _) rfl hbounded.greed_lt, ?_⟩
    simp only [hneed]
    omega
  · have hmem := hmore (hmember (by decide))
    refine ⟨hbounded.revote (hmember (by decide)) rfl rfl hbounded.need_lt hgreed (uint8_lt _), ?_⟩
    simp only [hgreed]
    omega
  · have hmem := hmore (hmember (by decide))
    refine ⟨hbounded.revote (hmember (by decide)) rfl rfl hbounded.need_lt hgreed (uint8_lt _), ?_⟩
    simp only [hgreed]
    omega
  · exact ⟨hbounded, hvotes⟩

theorem withdraw_le {total : ℕ} {vote : RollVote} (p : RollVote → Bool)
    (hle : votes.countValues p ≤ total) (hlt : total < 2 ^ 8)
    (hvote : votes.find? guid = some vote) :
    (votes.erase guid).countValues p ≤ (if p vote then uint8 (total + 255) else total) ∧
      (if p vote then uint8 (total + 255) else total) + (if p vote then 1 else 0) = total := by
  have herase := countValues_erase p hvote
  split
  · rename_i hp
    rw [hp, if_pos rfl] at herase
    rw [uint8]
    omega
  · omega

section

variable {vote : RollVote} (hbounded : Bounded roll)
include hbounded

theorem withdraw
    (hvote : roll.playerVote.find? guid = some vote) : Bounded (roll.withdraw guid vote) := by
  have hsize := size_erase_of_mem (mem_of_find? hvote)
  have hvalid := countValues_erase isValidVote hvote
  have hle := (roll.playerVote.erase guid).countValues_le_size isValidVote
  have hall := hbounded.valid
  have hmore := hbounded.size
  obtain ⟨hneed, hneed'⟩ := withdraw_le isNeed hbounded.need hbounded.need_lt hvote
  obtain ⟨hgreed, hgreed'⟩ := withdraw_le isGreed hbounded.greed hbounded.greed_lt hvote
  have hneed_lt := hbounded.need_lt
  have hgreed_lt := hbounded.greed_lt
  have htrue : isValidVote vote = true := by
    by_contra hfalse
    rw [if_neg hfalse] at hvalid
    omega
  rw [htrue, if_pos rfl] at hvalid
  refine ⟨hneed, hgreed, ?_, ?_, ?_, ?_, ?_⟩
  · exact lt_of_le_of_lt (le_of_add_right_le hneed'.le) hneed_lt
  · exact lt_of_le_of_lt (le_of_add_right_le hgreed'.le) hgreed_lt
  · have hne : vote ≠ .NOT_VALID := by simpa [isValidVote] using htrue
    simp only [Roll.withdraw, if_pos hne, hbounded.rolling]
    rw [MAXRAIDSIZE] at hmore
    rw [uint8]
    omega
  · simp only [Roll.withdraw]
    omega
  · simp only [Roll.withdraw]
    omega

end

end Bounded

theorem Enrolled.bounded {env : LootEnv} {members : List ℕ}
    (henrolled : Enrolled env item (members.filter env.InRange) roll)
    (hlen : members.length ≤ MAXRAIDSIZE) : Bounded roll := by
  have hcount : ∀ p : RollVote → Bool, roll.playerVote.countValues p =
      (members.filter env.InRange).countP fun member => p (voteOf env item member) := by
    intro p
    rw [StdMap.countValues, henrolled.votes.countP_eq, countP_map]
    rfl
  have hsize : roll.playerVote.size = (members.filter env.InRange).length := by
    rw [StdMap.size, henrolled.votes.length_eq, length_map]
  have hnone : ∀ p : RollVote → Bool, p .PASS = false → p .NOT_EMITED_YET = false →
      roll.playerVote.countValues p = 0 := by
    intro p hpass hpending
    rw [hcount]
    refine countP_eq_zero.mpr fun member _ => ?_
    rw [voteOf]
    split
    · split
      · simp [hpass]
      · simp [hpending]
    · simp [hpass]
  refine ⟨(hnone isNeed rfl rfl).trans_le (Nat.zero_le _),
    (hnone isGreed rfl rfl).trans_le (Nat.zero_le _), ?_, ?_, ?_, ?_, ?_⟩
  · rw [henrolled.need]
    decide
  · rw [henrolled.greed]
    decide
  · rw [henrolled.rolling, hsize]
  · rw [hsize]
    exact (length_filter_le _ _).trans hlen
  · rw [hcount, hsize]
    refine countP_eq_length.mpr fun member _ => ?_
    rw [voteOf]
    split
    · split <;> decide
    · decide

/-! ## The rolls and the items of a group -/

/-- A roll is open: without votes, or with fewer votes than players on a loot on
which votes are counted. -/
def Open (contents : Loot) (roll : Roll) : Prop :=
  (roll.totalNeed = 0 ∧ roll.totalGreed = 0) ∨ (contents.items ≠ [] ∧
      roll.totalPass + roll.totalNeed + roll.totalGreed < roll.totalPlayersRolling)

theorem Open.waiting {contents : Loot} (hopen : Open contents roll) : Waiting roll :=
  hopen.imp_right And.right

/-- Every roll is open but the one at the position `busy`, rolls are told apart by their
guids and by their slots, and an item that is blocked and not looted has a roll. -/
structure Kept (busy : Option ℕ) (rolls : LootRolls) : Prop where
  bounded : ∀ roll ∈ rolls.RollId, Bounded roll
  opened : ∀ index roll, rolls.RollId[index]? = some roll → busy ≠ some index →
    ∀ contents, rolls.loots roll.loot = some contents → Open contents roll
  guids : (rolls.RollId.map (·.itemGUID)).Nodup
  fresh : ∀ roll ∈ rolls.RollId, roll.itemGUID < rolls.nextItemGUID
  slots : (rolls.RollId.map fun roll => (roll.loot, roll.itemSlot)).Nodup
  blocked : ∀ id slot item, rolls.item id slot = some item → ¬ Done item →
    ∃ roll ∈ rolls.RollId, roll.loot = id ∧ roll.itemSlot = slot

variable {index : ℕ}

theorem map_set_of_same {B : Type*} {f : Roll → B} {list : List Roll} {new : Roll}
    (hindex : list[index]? = some roll) (hsame : f new = f roll) :
    (list.set index new).map f = list.map f := by
  obtain ⟨hlt, rfl⟩ := List.getElem?_eq_some_iff.mp hindex
  rw [map_set, hsame, ← getElem_map f (h := by simpa using hlt)]
  exact set_getElem_self _

theorem Kept.setRoll {new : Roll} (hkept : Kept none rolls)
    (hroll : rolls.RollId[index]? = some roll) (hbounded : Bounded new)
    (hguid : new.itemGUID = roll.itemGUID) (hloot : new.loot = roll.loot)
    (hslot : new.itemSlot = roll.itemSlot) : Kept (some index) (rolls.setRoll index new) := by
  have hlt : index < rolls.RollId.length := (List.getElem?_eq_some_iff.mp hroll).1
  have hmem := mem_of_getElem? hroll
  have hslots : (rolls.RollId.set index new).map (fun roll => (roll.loot, roll.itemSlot)) =
      rolls.RollId.map fun roll => (roll.loot, roll.itemSlot) :=
    map_set_of_same hroll (by simp only [hloot, hslot])
  refine ⟨fun other hother => ?_, fun other found hfound hbusy => ?_, ?_,
    fun other hother => ?_, ?_, fun id slot item hitem hwait => ?_⟩
  · rcases mem_setRoll hother with rfl | hold
    · exact hbounded
    · exact hkept.bounded other hold
  · have hne : index ≠ other := fun hsame => hbusy (congrArg some hsame)
    rw [LootRolls.setRoll, List.getElem?_set_ne hne] at hfound
    exact hkept.opened other found hfound (by simp)
  · exact (map_set_of_same hroll hguid).symm ▸ hkept.guids
  · rcases mem_setRoll hother with rfl | hold
    · rw [hguid]
      exact hkept.fresh roll hmem
    · exact hkept.fresh other hold
  · exact hslots.symm ▸ hkept.slots
  · obtain ⟨found, hfound, hid, hitemSlot⟩ := hkept.blocked id slot item hitem hwait
    obtain ⟨other, hother⟩ := List.getElem?_of_mem hfound
    by_cases hsame : index = other
    · rw [← hsame, hroll, Option.some.injEq] at hother
      refine ⟨new, mem_of_getElem? (List.getElem?_set_self hlt), ?_, ?_⟩
      · rw [hloot, hother, hid]
      · rw [hslot, hother, hitemSlot]
    · refine ⟨found, mem_of_getElem? (i := other) ?_, hid, hitemSlot⟩
      rw [LootRolls.setRoll, List.getElem?_set_ne hsame]
      exact hother

theorem Kept.close (hkept : Kept (some index) rolls)
    (hopen : ∀ roll, rolls.RollId[index]? = some roll → ∀ contents,
      rolls.loots roll.loot = some contents → Open contents roll) : Kept none rolls := by
  refine ⟨hkept.bounded, fun other found hfound _ => ?_, hkept.guids, hkept.fresh, hkept.slots,
    hkept.blocked⟩
  by_cases hsame : index = other
  · rw [← hsame] at hfound
    exact hopen found hfound
  · exact hkept.opened other found hfound fun hbusy => hsame (some.inj hbusy)

theorem modifySlot_items_eq_nil (contents : Loot) (slot : ℕ) (f : LootItem → LootItem) :
    (contents.modifySlot slot f).items = [] ↔ contents.items = [] := by
  rw [Loot.modifySlot]
  split
  · rfl
  · rw [← length_eq_zero_iff, List.length_modify, length_eq_zero_iff]

theorem open_modifySlot {id slot : ℕ} {f : LootItem → LootItem}
    (hopen : ∀ contents, rolls.loots roll.loot = some contents → Open contents roll) :
    ∀ contents, (rolls.modifySlot id slot f).loots roll.loot = some contents →
      Open contents roll := by
  intro contents hcontents
  rw [loots_modifySlot] at hcontents
  split at hcontents
  · obtain ⟨old, hold, rfl⟩ := map_eq_some_iff.mp hcontents
    refine (hopen old hold).imp_right fun hright => ⟨?_, hright.2⟩
    rw [Ne, modifySlot_items_eq_nil]
    exact hright.1
  · exact hopen contents hcontents

theorem Kept.count {allowedMap : Option ℕ} (hkept : Kept (some index) rolls)
    (hroll : rolls.RollId[index]? = some roll)
    (hvotes : ∀ contents, rolls.loots roll.loot = some contents →
      roll.totalNeed + roll.totalGreed ≤ roll.totalPlayersRolling) :
    Kept none (CountTheRoll env rolls index allowedMap) := by
  have hsub : (rolls.RollId.eraseIdx index).Sublist rolls.RollId := eraseIdx_sublist ..
  have hcount : CountTheRoll env rolls index allowedMap =
      { rolls.modifySlot roll.loot roll.itemSlot (countItem env allowedMap roll) with
        RollId := rolls.RollId.eraseIdx index } := by
    simp only [CountTheRoll, hroll]
    rfl
  rw [hcount]
  refine ⟨fun other hother => hkept.bounded other (hsub.subset hother), ?_,
    hkept.guids.sublist (hsub.map _), fun other hother => hkept.fresh other (hsub.subset hother),
    hkept.slots.sublist (hsub.map _), ?_⟩
  · intro other found hfound _
    obtain ⟨old, hne, hold⟩ := mem_eraseIdx_iff_getElem?.mp (mem_of_getElem? hfound)
    exact open_modifySlot (hkept.opened old found hold fun hbusy => hne (some.inj hbusy).symm)
  · intro id slot item hitem hwait
    have hitem' : (rolls.modifySlot roll.loot roll.itemSlot
        (countItem env allowedMap roll)).item id slot = some item := hitem
    rw [item_modifySlot] at hitem'
    split at hitem'
    · rename_i hhere
      obtain ⟨old, hold, rfl⟩ := map_eq_some_iff.mp hitem'
      have hloot : rolls.loots roll.loot ≠ none := by
        intro hnone
        rw [← hhere.1, LootRolls.item, hnone] at hold
        exact absurd hold (by simp)
      obtain ⟨contents, hcontents⟩ := ne_none_iff_exists'.mp hloot
      have hbounded := hkept.bounded roll (mem_of_getElem? hroll)
      exact absurd (countItem_done env allowedMap old
        (hbounded.votes_of_nil (hvotes contents hcontents))) hwait
    · rename_i hother
      obtain ⟨found, hfound, hid, hslot⟩ := hkept.blocked id slot item hitem' hwait
      refine ⟨found, ?_, hid, hslot⟩
      obtain ⟨old, hold⟩ := List.getElem?_of_mem hfound
      refine mem_eraseIdx_iff_getElem?.mpr ⟨old, fun hsame => ?_, hold⟩
      rw [hsame, hroll, Option.some.injEq] at hold
      exact hother ⟨by rw [hold, hid], by rw [hold, hslot]⟩

theorem Kept.finish (hkept : Kept (some index) rolls) (hroll : rolls.RollId[index]? = some roll)
    (hitems : ∀ contents, rolls.loots roll.loot = some contents → contents.items ≠ [])
    (hvotes : ∀ contents, rolls.loots roll.loot = some contents →
      roll.totalNeed + roll.totalGreed ≤ roll.totalPlayersRolling) :
    Kept none (if roll.complete then CountTheRoll env rolls index none else rolls) := by
  split
  · exact hkept.count hroll hvotes
  rename_i hopen
  refine hkept.close fun found hfound contents hcontents => ?_
  rw [hroll, Option.some.injEq] at hfound
  rw [← hfound] at hcontents ⊢
  rw [Roll.complete, decide_eq_true_iff, not_le] at hopen
  exact .inr ⟨hitems contents hcontents, hopen⟩

variable {again : Bool} {next : LootRolls}

section

variable {it : ℕ} (hkept : Kept none rolls) (hvisit : withdrawVisit env guid rolls it = some (next, again))
include hkept hvisit

end

end AzerothCore.LootRoll

/-! ## Runs that keep rolls and items together -/

namespace AzerothCore.LootRoll

variable {rolls : LootRolls} {roll : Roll}

/-! ## Starting the rolls -/

theorem Kept.opened_of_mem (hkept : Kept none rolls) (hroll : roll ∈ rolls.RollId) :
    ∀ contents, rolls.loots roll.loot = some contents → Open contents roll := by
  obtain ⟨index, hindex⟩ := List.getElem?_of_mem hroll
  exact hkept.opened index roll hindex (by simp)

theorem Kept.started {id slot : ℕ} {contents : Loot} (hkept : Kept none rolls)
    (huntouched : Untouched contents id slot rolls) (hbounded : Bounded roll)
    (hneed : roll.totalNeed = 0) (hgreed : roll.totalGreed = 0)
    (hguid : roll.itemGUID = rolls.nextItemGUID) (hloot : roll.loot = id)
    (hslot : roll.itemSlot = slot) :
    Kept none ((rolls.generate.blockSlot id slot).pushRoll roll) := by
  refine ⟨fun other hother => ?_, fun index other hindex _ => ?_, ?_, fun other hother => ?_, ?_,
    fun id' slot' item hitem hwait => ?_⟩
  · rcases List.mem_append.mp hother with hold | hnew
    · exact hkept.bounded other hold
    · rw [List.mem_singleton.mp hnew]
      exact hbounded
  · rcases List.mem_append.mp (List.mem_of_getElem? hindex) with hold | hnew
    · exact open_modifySlot (hkept.opened_of_mem hold)
    · rw [List.mem_singleton.mp hnew]
      exact fun _ _ => .inl ⟨hneed, hgreed⟩
  · rw [LootRolls.pushRoll, List.map_append]
    refine hkept.guids.append (List.nodup_singleton _) fun guid hold hnew => ?_
    obtain ⟨other, hother, rfl⟩ := List.mem_map.mp hold
    have hlt := hkept.fresh other hother
    rw [List.map_singleton, List.mem_singleton, hguid] at hnew
    exact absurd hnew (Nat.ne_of_lt hlt)
  · rcases List.mem_append.mp hother with hold | hnew
    · exact Nat.lt_succ_of_lt (hkept.fresh other hold)
    · rw [List.mem_singleton.mp hnew, hguid]
      exact Nat.lt_succ_self _
  · rw [LootRolls.pushRoll, List.map_append]
    refine hkept.slots.append (List.nodup_singleton _) fun pair hold hnew => ?_
    obtain ⟨other, hother, rfl⟩ := List.mem_map.mp hold
    rw [List.map_singleton, List.mem_singleton, Prod.mk.injEq, hloot, hslot] at hnew
    exact huntouched.unrolled other hother hnew.1 hnew.2
  · have hitem' : (rolls.modifySlot id slot fun item => { item with is_blocked := true }).item
        id' slot' = some item := hitem
    rw [item_modifySlot] at hitem'
    split at hitem'
    · rename_i hhere
      refine ⟨roll, List.mem_append_right _ (List.mem_singleton_self _), ?_, ?_⟩
      · rw [hloot, hhere.1]
      · rw [hslot, hhere.2]
    · obtain ⟨found, hfound, hid, hitemSlot⟩ := hkept.blocked id' slot' item hitem' hwait
      exact ⟨found, List.mem_append_left _ hfound, hid, hitemSlot⟩

theorem Kept.marked (id slot : ℕ) (hkept : Kept none rolls) :
    Kept none (rolls.markUnderThreshold id slot) := by
  refine ⟨hkept.bounded, fun index other hindex _ => ?_, hkept.guids, hkept.fresh, hkept.slots,
    fun id' slot' item hitem hwait => ?_⟩
  · exact open_modifySlot (hkept.opened_of_mem (List.mem_of_getElem? hindex))
  · rw [LootRolls.markUnderThreshold, item_modifySlot] at hitem
    split at hitem
    · obtain ⟨old, hold, rfl⟩ := Option.map_eq_some_iff.mp hitem
      exact hkept.blocked id' slot' old hold hwait
    · exact hkept.blocked id' slot' item hitem hwait

end AzerothCore.LootRoll

namespace AzerothCore.World

open LootRoll Reachability

variable {world after : World} {group : Group}

end AzerothCore.World
