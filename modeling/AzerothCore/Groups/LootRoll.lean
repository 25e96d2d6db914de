import AzerothCore.Collections.RestartScan
import AzerothCore.Collections.StdMap
import AzerothCore.Common.Define

/-!
# Loot rolls of a group

The rolls of a group (`RollId`) and the loots they refer to. A loot is named by a
pointer that is never used again; a roll whose loot was deleted is no longer valid.
What the code asks of players and items is given by an environment that may be
different at every call.
-/

namespace AzerothCore.LootRoll

open RestartScan

inductive RollVote where
  | PASS
  | NEED
  | GREED
  | DISENCHANT
  | NOT_EMITED_YET
  | NOT_VALID
  deriving DecidableEq

def MAX_ROLL_TYPE : ℕ := 4

structure LootItem where
  itemid : ℕ
  freeforall : Bool
  follow_loot_rules : Bool
  is_looted : Bool
  is_blocked : Bool
  is_underthreshold : Bool
  rollWinnerGUID : ℕ
  deriving DecidableEq

def MAX_NR_LOOT_ITEMS : ℕ := 18

def MAX_NR_QUEST_ITEMS : ℕ := 32

/-- `Loot::AddItem` keeps the two vectors within their limits. -/
structure Loot where
  items : List LootItem
  quest_items : List LootItem
  items_le : items.length ≤ MAX_NR_LOOT_ITEMS
  quest_items_le : quest_items.length ≤ MAX_NR_QUEST_ITEMS
  deriving DecidableEq

structure Roll where
  itemGUID : ℕ
  itemid : ℕ
  loot : ℕ
  itemSlot : ℕ
  playerVote : StdMap ℕ RollVote
  totalPlayersRolling : ℕ
  totalNeed : ℕ
  totalGreed : ℕ
  totalPass : ℕ
  deriving DecidableEq

/-- `RollId`, the loots, and the generator of item guids. -/
structure LootRolls where
  RollId : List Roll
  loots : ℕ → Option Loot
  nextItemGUID : ℕ

namespace Loot

def itemInSlot (loot : Loot) (slot : ℕ) : Option LootItem :=
  if loot.items.length ≤ slot then loot.quest_items[slot - loot.items.length]?
  else loot.items[slot]?

def modifySlot (loot : Loot) (slot : ℕ) (f : LootItem → LootItem) : Loot :=
  if loot.items.length ≤ slot then
    { loot with
      quest_items := loot.quest_items.modify (slot - loot.items.length) f
      quest_items_le := by rw [List.length_modify]; exact loot.quest_items_le }
  else
    { loot with
      items := loot.items.modify slot f
      items_le := by rw [List.length_modify]; exact loot.items_le }

end Loot

namespace LootRolls

def setLoot (rolls : LootRolls) (id : ℕ) (loot : Loot) : LootRolls :=
  { rolls with loots := Function.update rolls.loots id (some loot) }

def modifySlot (rolls : LootRolls) (id slot : ℕ) (f : LootItem → LootItem) : LootRolls :=
  { rolls with loots := Function.update rolls.loots id ((rolls.loots id).map (·.modifySlot slot f)) }

def setRoll (rolls : LootRolls) (rollI : ℕ) (roll : Roll) : LootRolls :=
  { rolls with RollId := rolls.RollId.set rollI roll }

end LootRolls

/-! ## Counting the roll -/

/-- What `CountTheRoll` asks of the players: the map of a player that is found in the
world, the dice, and whether an item fits into the bags. -/
structure RollEnv where
  FindPlayer : ℕ → Option ℕ
  urand : ℕ → ℕ
  one_le_urand : ∀ guid, 1 ≤ urand guid
  urand_le : ∀ guid, urand guid ≤ 100
  CanStoreNewItem : ℕ → ℕ → Bool

/-- Nobody is found in the world. -/
instance : Inhabited RollEnv :=
  ⟨⟨fun _ => none, fun _ => 1, fun _ => le_rfl, fun _ => by decide, fun _ _ => false⟩⟩

structure Tally where
  total : ℕ
  maxresul : ℕ
  maxguid : ℕ
  rollvote : RollVote

variable (env : RollEnv)

/-- `!player || (allowedMap != nullptr && player->FindMap() != allowedMap)` -/
def absent (allowedMap : Option ℕ) (guid : ℕ) : Bool :=
  match env.FindPlayer guid with
  | none => true
  | some map => allowedMap ≠ none ∧ allowedMap ≠ some map

/-- The body of the loop of a stage over the votes. -/
def tallyVote (allowedMap : Option ℕ) (counts : RollVote → Bool)
    (tally : Tally) (entry : ℕ × RollVote) : Tally :=
  if counts entry.2 then
    if absent env allowedMap entry.1 then { tally with total := uint8 (tally.total + 255) }
    else if tally.maxresul < env.urand entry.1 then
      { tally with maxguid := entry.1, maxresul := env.urand entry.1, rollvote := entry.2 }
    else tally
  else tally

def isNeed (vote : RollVote) : Bool := vote = .NEED

def isGreed (vote : RollVote) : Bool := vote = .GREED ∨ vote = .DISENCHANT

def rewardItem (winner : ℕ) (itemid : ℕ) (item : LootItem) : LootItem :=
  if env.CanStoreNewItem winner itemid then { item with is_looted := true }
  else { item with is_blocked := false, rollWinnerGUID := winner }

def winItem (itemid : ℕ) (tally : Tally) (item : LootItem) : LootItem :=
  match env.FindPlayer tally.maxguid with
  | none => item
  | some _ =>
    if tally.rollvote = .DISENCHANT then { item with is_looted := true }
    else rewardItem env tally.maxguid itemid item

/-- One stage of `CountTheRoll`: the corrected counter, and the item afterwards. -/
def countStage (allowedMap : Option ℕ) (counts : RollVote → Bool)
    (roll : Roll) (total : ℕ) (item : LootItem) : ℕ × LootItem :=
  if roll.playerVote.entries = [] then (total, item)
  else
    let tally := roll.playerVote.entries.foldl (tallyVote env allowedMap counts)
      ⟨total, 0, 0, .NOT_VALID⟩
    if tally.maxguid ≠ 0 then (tally.total, winItem env roll.itemid tally item)
    else (0, item)

def countItem (allowedMap : Option ℕ) (roll : Roll) (item : LootItem) : LootItem :=
  let need :=
    if 0 < roll.totalNeed then countStage env allowedMap isNeed roll roll.totalNeed item
    else (roll.totalNeed, item)
  let greed :=
    if need.1 = 0 ∧ 0 < roll.totalGreed then
      countStage env allowedMap isGreed roll roll.totalGreed need.2
    else (roll.totalGreed, need.2)
  if need.1 = 0 ∧ greed.1 = 0 then { greed.2 with is_blocked := false } else greed.2

/-- The roll at `rollI` is over, and destroyed. -/
def CountTheRoll (rolls : LootRolls) (rollI : ℕ) (allowedMap : Option ℕ) :
    LootRolls :=
  match rolls.RollId[rollI]? with
  | none => rolls
  | some roll =>
    let rolls := rolls.modifySlot roll.loot roll.itemSlot (countItem env allowedMap roll)
    { rolls with RollId := rolls.RollId.eraseIdx rollI }

variable (rolls : LootRolls)

/-- `isValid()`: the loot of the roll still exists. -/
def isValid (roll : Roll) : Bool := (rolls.loots roll.loot).isSome

def GetRoll (Guid : ℕ) : Option ℕ :=
  rolls.RollId.findIdx? fun roll => roll.itemGUID = Guid ∧ isValid rolls roll

/-- The `switch` over the choice. -/
def Roll.vote (roll : Roll) (playerGUID Choice : ℕ) : Roll :=
  match Choice with
  | 0 => { roll with
      totalPass := uint8 (roll.totalPass + 1)
      playerVote := roll.playerVote.insert playerGUID .PASS }
  | 1 => { roll with
      totalNeed := uint8 (roll.totalNeed + 1)
      playerVote := roll.playerVote.insert playerGUID .NEED }
  | 2 => { roll with
      totalGreed := uint8 (roll.totalGreed + 1)
      playerVote := roll.playerVote.insert playerGUID .GREED }
  | 3 => { roll with
      totalGreed := uint8 (roll.totalGreed + 1)
      playerVote := roll.playerVote.insert playerGUID .DISENCHANT }
  | _ => roll

/-- `roll->getLoot() && roll->getLoot()->items.empty()` -/
def lootItemsEmpty (roll : Roll) : Bool :=
  match rolls.loots roll.loot with
  | none => false
  | some loot => loot.items = []

def Roll.complete (roll : Roll) : Bool :=
  roll.totalPlayersRolling ≤ roll.totalPass + roll.totalNeed + roll.totalGreed

def CountRollVote (rolls : LootRolls) (playerGUID Guid Choice : ℕ) :
    LootRolls × Bool :=
  match GetRoll rolls Guid with
  | none => (rolls, false)
  | some rollI =>
    match rolls.RollId[rollI]? with
    | none => (rolls, false)
    | some roll =>
      if Choice < MAX_ROLL_TYPE ∧ playerGUID ∉ roll.playerVote then (rolls, false)
      else if lootItemsEmpty rolls roll then (rolls, false)
      else
        let rolls := rolls.setRoll rollI (roll.vote playerGUID Choice)
        if (roll.vote playerGUID Choice).complete then
          (CountTheRoll env rolls rollI none, true)
        else (rolls, false)

/-! ## Loops over the rolls -/

/-- The fuel of a loop over the rolls that begins again after every roll it counts. -/
def loopFuel : ℕ := (rolls.RollId.length + 1) * (rolls.RollId.length + 1)

/-- The body of the loop of `EndRoll`. -/
def endRollVisit (pLoot : ℕ) (allowedMap : Option ℕ) (rolls : LootRolls)
    (itr : ℕ) : Option (LootRolls × Bool) :=
  match rolls.RollId[itr]? with
  | none => none
  | some roll =>
    if isValid rolls roll ∧ roll.loot = pLoot then
      some (CountTheRoll env rolls itr allowedMap, true)
    else none

def EndRoll (rolls : LootRolls) (pLoot : ℕ) (allowedMap : Option ℕ) : LootRolls :=
  scan (·.RollId.length) (endRollVisit env pLoot allowedMap) (loopFuel rolls) 0 rolls

def Roll.withdraw (roll : Roll) (guid : ℕ) (vote : RollVote) : Roll :=
  { roll with
    totalGreed := if isGreed vote then uint8 (roll.totalGreed + 255) else roll.totalGreed
    totalNeed := if isNeed vote then uint8 (roll.totalNeed + 255) else roll.totalNeed
    totalPass := if vote = .PASS then uint8 (roll.totalPass + 255) else roll.totalPass
    totalPlayersRolling :=
      if vote ≠ .NOT_VALID then uint8 (roll.totalPlayersRolling + 255)
      else roll.totalPlayersRolling
    playerVote := roll.playerVote.erase guid }

/-- The body of the loop of `RemoveMember` over the rolls. -/
def withdrawVisit (guid : ℕ) (rolls : LootRolls) (it : ℕ) :
    Option (LootRolls × Bool) :=
  match rolls.RollId[it]? with
  | none => none
  | some roll =>
    match roll.playerVote.find? guid with
    | none => none
    | some vote =>
      some (CountRollVote env (rolls.setRoll it (roll.withdraw guid vote)) guid roll.itemGUID
        MAX_ROLL_TYPE)

def withdrawPlayer (rolls : LootRolls) (guid : ℕ) : LootRolls :=
  scan (·.RollId.length) (withdrawVisit env guid) (loopFuel rolls) 0 rolls

/-! ## Starting the rolls -/

/-- What the distribution of loot asks of items and of the members near the corpse.
`InRange` is `IsAtLootRewardDistance` in `GroupLoot` and `IsAtGroupRewardDistance` in
`NeedBeforeGreed`. -/
structure LootEnv where
  GetItemQuality : ℕ → Option ℕ
  InRange : ℕ → Bool
  GetPassOnGroupLoot : ℕ → Bool
  CanRollOnItem : LootItem → ℕ → Bool

def newRoll (itemGUID : ℕ) (item : LootItem) (loot itemSlot : ℕ) : Roll :=
  ⟨itemGUID, item.itemid, loot, itemSlot, .empty, 0, 0, 0, 0⟩

def addRoller (env : LootEnv) (item : LootItem) (roll : Roll) (member : ℕ) : Roll :=
  if env.InRange member then
    { roll with
      totalPlayersRolling := uint8 (roll.totalPlayersRolling + 1)
      totalPass :=
        if env.CanRollOnItem item member then roll.totalPass else uint8 (roll.totalPass + 1)
      playerVote := roll.playerVote.insert member
        (if env.CanRollOnItem item member then
          (if env.GetPassOnGroupLoot member then .PASS else .NOT_EMITED_YET)
        else .PASS) }
  else roll

/-- The loop of `GroupLoot` over the members for a quest item counts no player. -/
def addQuestRoller (env : LootEnv) (item : LootItem) (roll : Roll) (member : ℕ) : Roll :=
  if env.InRange member then
    { roll with
      totalPass :=
        if env.CanRollOnItem item member then roll.totalPass else uint8 (roll.totalPass + 1)
      playerVote := roll.playerVote.insert member
        (if env.CanRollOnItem item member then .NOT_EMITED_YET else .PASS) }
  else roll

/-- `is_blocked = true` for the item of a slot. -/
def LootRolls.blockSlot (loot slot : ℕ) : LootRolls :=
  rolls.modifySlot loot slot fun item => { item with is_blocked := true }

def LootRolls.pushRoll (roll : Roll) : LootRolls :=
  { rolls with RollId := rolls.RollId ++ [roll] }

def LootRolls.generate : LootRolls :=
  { rolls with nextItemGUID := rolls.nextItemGUID + 1 }

/-- The end of `GroupLoot` for one item: a roll in which everybody has to pass is not kept. -/
def startGroupRoll (roll : Roll) : LootRolls :=
  if 0 < roll.totalPlayersRolling then
    if roll.totalPass = roll.totalPlayersRolling then rolls.blockSlot roll.loot roll.itemSlot
    else (rolls.blockSlot roll.loot roll.itemSlot).pushRoll roll
  else rolls

/-- The end of the other three loops for one item. -/
def startRoll (roll : Roll) : LootRolls :=
  if 0 < roll.totalPlayersRolling then
    (rolls.blockSlot roll.loot roll.itemSlot).pushRoll roll
  else rolls

def LootRolls.item (loot slot : ℕ) : Option LootItem :=
  (rolls.loots loot).bind fun contents => contents.itemInSlot slot

def LootRolls.markUnderThreshold (loot slot : ℕ) : LootRolls :=
  rolls.modifySlot loot slot fun item => { item with is_underthreshold := true }

/-- The body of the first loop of `GroupLoot`. -/
def groupLootItem (env : LootEnv) (threshold : ℕ) (members : List ℕ) (loot : ℕ)
    (rolls : LootRolls) (itemSlot : ℕ) : LootRolls :=
  match rolls.item loot itemSlot with
  | none => rolls
  | some item =>
    if item.freeforall then rolls
    else match env.GetItemQuality item.itemid with
      | none => rolls
      | some quality =>
        if threshold ≤ quality then
          startGroupRoll rolls.generate
            (members.foldl (addRoller env item)
              (newRoll rolls.nextItemGUID item loot (uint8 itemSlot)))
        else rolls.markUnderThreshold loot itemSlot

/-- The body of the second loop of `GroupLoot`. -/
def groupLootQuestItem (env : LootEnv) (members : List ℕ) (loot : ℕ) (rolls : LootRolls)
    (itemSlot : ℕ) : LootRolls :=
  match rolls.item loot itemSlot with
  | none => rolls
  | some item =>
    if !item.follow_loot_rules then rolls
    else match env.GetItemQuality item.itemid with
      | none => rolls
      | some _ =>
        startRoll rolls.generate
          (members.foldl (addQuestRoller env item)
            (newRoll rolls.nextItemGUID item loot (uint8 itemSlot)))

/-- The body of the first loop of `NeedBeforeGreed`, which reads the template of the
item without a check. -/
def needBeforeGreedItem (env : LootEnv) (threshold : ℕ) (members : List ℕ) (loot : ℕ)
    (rolls : LootRolls) (itemSlot : ℕ) : Option LootRolls :=
  match rolls.item loot itemSlot with
  | none => some rolls
  | some item =>
    if item.freeforall then some rolls
    else match env.GetItemQuality item.itemid with
      | none => none
      | some quality =>
        if threshold ≤ quality then
          some (startRoll rolls.generate
            (members.foldl (addRoller env item)
              (newRoll rolls.nextItemGUID item loot (uint8 itemSlot))))
        else some (rolls.markUnderThreshold loot itemSlot)

/-- The body of the second loop of `NeedBeforeGreed`. -/
def needBeforeGreedQuestItem (env : LootEnv) (members : List ℕ) (loot : ℕ) (rolls : LootRolls)
    (itemSlot : ℕ) : LootRolls :=
  match rolls.item loot itemSlot with
  | none => rolls
  | some item =>
    if !item.follow_loot_rules then rolls
    else
      startRoll rolls.generate
        (members.foldl (addRoller env item)
          (newRoll rolls.nextItemGUID item loot (uint8 itemSlot)))

def itemSlots (loot : ℕ) : List ℕ :=
  match rolls.loots loot with
  | none => []
  | some contents => List.range contents.items.length

def questSlots (loot : ℕ) : List ℕ :=
  match rolls.loots loot with
  | none => []
  | some contents => (List.range contents.quest_items.length).map (contents.items.length + ·)

def GroupLoot (env : LootEnv) (threshold : ℕ) (members : List ℕ) (rolls : LootRolls) (loot : ℕ) :
    LootRolls :=
  (questSlots rolls loot).foldl (groupLootQuestItem env members loot)
    ((itemSlots rolls loot).foldl (groupLootItem env threshold members loot) rolls)

def NeedBeforeGreed (env : LootEnv) (threshold : ℕ) (members : List ℕ) (rolls : LootRolls)
    (loot : ℕ) : Option LootRolls :=
  ((itemSlots rolls loot).foldlM (needBeforeGreedItem env threshold members loot) rolls).map
    fun between => (questSlots rolls loot).foldl (needBeforeGreedQuestItem env members loot) between

end AzerothCore.LootRoll

/-! ## What one step does to the rolls -/

namespace AzerothCore.LootRoll

open List Option Nat
open RestartScan

variable {rolls : LootRolls} {roll : Roll}

variable {Guid rollI : ℕ} {joined : List ℕ}

theorem GetRoll_spec (hget : GetRoll rolls Guid = some rollI) :
    ∃ roll, rolls.RollId[rollI]? = some roll ∧ roll.itemGUID = Guid ∧
      isValid rolls roll = true := by
  obtain ⟨hlt, hroll, -⟩ := List.findIdx?_eq_some_iff_getElem.mp hget
  rw [decide_eq_true_eq] at hroll
  exact ⟨_, List.getElem?_eq_getElem hlt, hroll⟩

/-- A vote that is not counted changes nothing; one that is counted is recorded in the
roll, and the roll is over when it is complete. -/
theorem countRollVote_cases (env : RollEnv) (rolls : LootRolls) (playerGUID Guid Choice : ℕ) :
    (CountRollVote env rolls playerGUID Guid Choice = (rolls, false) ∧
      ∀ rollI roll, GetRoll rolls Guid = some rollI → rolls.RollId[rollI]? = some roll →
        (Choice < MAX_ROLL_TYPE ∧ playerGUID ∉ roll.playerVote) ∨
          lootItemsEmpty rolls roll = true) ∨
    ∃ rollI roll, GetRoll rolls Guid = some rollI ∧ rolls.RollId[rollI]? = some roll ∧
      (Choice < MAX_ROLL_TYPE → playerGUID ∈ roll.playerVote) ∧
      lootItemsEmpty rolls roll = false ∧
      CountRollVote env rolls playerGUID Guid Choice =
        if (roll.vote playerGUID Choice).complete then
          (CountTheRoll env (rolls.setRoll rollI (roll.vote playerGUID Choice)) rollI none, true)
        else (rolls.setRoll rollI (roll.vote playerGUID Choice), false) := by
  rw [CountRollVote]
  rcases hget : GetRoll rolls Guid with _ | rollI
  · exact .inl ⟨rfl, fun rollI roll hsome => absurd hsome (by simp)⟩
  obtain ⟨roll, hroll, -, -⟩ := GetRoll_spec hget
  have hsame : ∀ rollI' roll', some rollI = some rollI' → rolls.RollId[rollI']? = some roll' →
      roll' = roll := by
    intro rollI' roll' hindex hroll'
    rw [← some.inj hindex, hroll] at hroll'
    exact (some.inj hroll').symm
  simp only [hroll]
  by_cases hmember : Choice < MAX_ROLL_TYPE ∧ playerGUID ∉ roll.playerVote
  · rw [if_pos hmember]
    refine .inl ⟨rfl, fun rollI' roll' hindex hroll' => ?_⟩
    rw [hsame rollI' roll' hindex hroll']
    exact .inl hmember
  rw [if_neg hmember]
  cases hempty : lootItemsEmpty rolls roll with
  | true =>
    refine .inl ⟨rfl, fun rollI' roll' hindex hroll' => ?_⟩
    rw [hsame rollI' roll' hindex hroll']
    exact .inr hempty
  | false =>
    refine .inr ⟨rollI, roll, rfl, hroll, fun hchoice => ?_, hempty, by simp⟩
    by_contra hnot
    exact hmember ⟨hchoice, hnot⟩

theorem countTheRoll_RollId (env : RollEnv) (allowedMap : Option ℕ)
    (hroll : rolls.RollId[rollI]? = some roll) :
    (CountTheRoll env rolls rollI allowedMap).RollId = rolls.RollId.eraseIdx rollI := by
  simp only [CountTheRoll, hroll]
  rfl

theorem countTheRoll_RollId_subset (env : RollEnv) (rolls : LootRolls) (rollI : ℕ)
    (allowedMap : Option ℕ) :
    (CountTheRoll env rolls rollI allowedMap).RollId ⊆ rolls.RollId := by
  cases hroll : rolls.RollId[rollI]? with
  | none =>
    simp only [CountTheRoll, hroll]
    exact fun _ hmem => hmem
  | some roll =>
    rw [countTheRoll_RollId env allowedMap hroll]
    exact eraseIdx_subset

theorem mem_setRoll {new other : Roll} (hmem : other ∈ (rolls.setRoll rollI new).RollId) :
    other = new ∨ other ∈ rolls.RollId :=
  (mem_or_eq_of_mem_set hmem).symm

theorem mem_countRollVote {env : RollEnv} {playerGUID Choice : ℕ} {other : Roll}
    (hmem : other ∈ (CountRollVote env rolls playerGUID Guid Choice).1.RollId) :
    other ∈ rolls.RollId ∨
    ∃ rollI roll, GetRoll rolls Guid = some rollI ∧ rolls.RollId[rollI]? = some roll ∧
      (Choice < MAX_ROLL_TYPE → playerGUID ∈ roll.playerVote) ∧
      lootItemsEmpty rolls roll = false ∧ (roll.vote playerGUID Choice).complete = false ∧
      other = roll.vote playerGUID Choice := by
  rcases countRollVote_cases env rolls playerGUID Guid Choice with
    ⟨hsame, -⟩ | ⟨rollI, roll, hget, hroll, hmember, hempty, hvote⟩
  · rw [hsame] at hmem
    exact .inl hmem
  rw [hvote] at hmem
  rcases hcompl : (roll.vote playerGUID Choice).complete with _ | _
  · rw [hcompl] at hmem
    rcases mem_setRoll hmem with hnew | hold
    · exact .inr ⟨rollI, roll, hget, hroll, hmember, hempty, hcompl, hnew⟩
    · exact .inl hold
  rw [hcompl, if_pos rfl] at hmem
  have hlt : rollI < rolls.RollId.length := (List.getElem?_eq_some_iff.mp hroll).1
  have hset : (rolls.setRoll rollI (roll.vote playerGUID Choice)).RollId[rollI]? =
      some (roll.vote playerGUID Choice) := List.getElem?_set_self hlt
  rw [countTheRoll_RollId env none hset, LootRolls.setRoll] at hmem
  rw [eraseIdx_set_eq] at hmem
  exact .inl (eraseIdx_subset hmem)

theorem endRollVisit_spec {env : RollEnv} {pLoot itr : ℕ} {allowedMap : Option ℕ}
    {next : LootRolls} {again : Bool}
    (hvisit : endRollVisit env pLoot allowedMap rolls itr = some (next, again)) :
    ∃ roll, rolls.RollId[itr]? = some roll ∧ isValid rolls roll = true ∧ roll.loot = pLoot ∧
      next = CountTheRoll env rolls itr allowedMap ∧ again = true := by
  rw [endRollVisit] at hvisit
  split at hvisit
  · exact absurd hvisit (by simp)
  rename_i roll hroll
  split at hvisit
  · rename_i hloot
    obtain ⟨hnext, hagain⟩ := Prod.mk.inj (some.inj hvisit)
    exact ⟨roll, hroll, hloot.1, hloot.2, hnext.symm, hagain.symm⟩
  · exact absurd hvisit (by simp)

theorem withdrawVisit_spec {env : RollEnv} {guid it : ℕ} {next : LootRolls} {again : Bool}
    (hvisit : withdrawVisit env guid rolls it = some (next, again)) :
    ∃ roll vote, rolls.RollId[it]? = some roll ∧ roll.playerVote.find? guid = some vote ∧
      CountRollVote env (rolls.setRoll it (roll.withdraw guid vote)) guid roll.itemGUID
        MAX_ROLL_TYPE = (next, again) := by
  rw [withdrawVisit] at hvisit
  split at hvisit
  · exact absurd hvisit (by simp)
  rename_i roll hroll
  split at hvisit
  · exact absurd hvisit (by simp)
  · rename_i vote hvote
    exact ⟨roll, vote, hroll, hvote, some.inj hvisit⟩

variable (env : LootEnv)

def voteOf (item : LootItem) (member : ℕ) : RollVote :=
  if env.CanRollOnItem item member then
    (if env.GetPassOnGroupLoot member then .PASS else .NOT_EMITED_YET)
  else .PASS

/-- A roll whose voters so far are `joined`. -/
structure Enrolled (env : LootEnv) (item : LootItem) (joined : List ℕ) (roll : Roll) : Prop where
  votes : roll.playerVote.entries.Perm (joined.map fun member => (member, voteOf env item member))
  rolling : roll.totalPlayersRolling = joined.length
  pass : roll.totalPass = joined.countP fun member => !env.CanRollOnItem item member
  need : roll.totalNeed = 0
  greed : roll.totalGreed = 0

theorem enrolled_newRoll (item : LootItem) (itemGUID loot itemSlot : ℕ) :
    Enrolled env item [] (newRoll itemGUID item loot itemSlot) :=
  ⟨List.Perm.refl _, rfl, rfl, rfl, rfl⟩

theorem Enrolled.mem_iff {env : LootEnv} {item : LootItem}
    (henrolled : Enrolled env item joined roll) {guid : ℕ} :
    guid ∈ roll.playerVote ↔ guid ∈ joined := by
  rw [StdMap.mem_def, StdMap.keys, (henrolled.votes.map Prod.fst).mem_iff, List.map_map]
  simp

theorem enrolled_addRoller {env : LootEnv} {item : LootItem} {member : ℕ}
    (henrolled : Enrolled env item joined roll) (hnew : member ∉ joined)
    (hlen : joined.length + 1 < 2 ^ 8) (hrange : env.InRange member = true) :
    Enrolled env item (joined ++ [member]) (addRoller env item roll member) := by
  have hpass : joined.countP (fun member => !env.CanRollOnItem item member) + 1 < 2 ^ 8 :=
    (Nat.add_le_add_right countP_le_length 1).trans_lt hlen
  have habsent : member ∉ roll.playerVote := fun hmem => hnew (henrolled.mem_iff.mp hmem)
  rw [addRoller, if_pos hrange]
  refine ⟨?_, ?_, ?_, henrolled.need, henrolled.greed⟩
  · have hperm := roll.playerVote.insert_perm member (voteOf env item member)
    rw [StdMap.erase_of_not_mem habsent] at hperm
    rw [map_append]
    exact (hperm.trans (henrolled.votes.cons _)).trans (perm_append_singleton _ _).symm
  · rw [length_append, length_singleton]
    simp only [henrolled.rolling]
    exact uint8_of_lt hlen
  · rw [countP_append, countP_singleton]
    simp only [henrolled.pass]
    cases env.CanRollOnItem item member with
    | true => rfl
    | false => exact uint8_of_lt hpass

theorem enrolled_foldl {env : LootEnv} {item : LootItem} {members : List ℕ}
    (henrolled : Enrolled env item joined roll) (hnodup : (joined ++ members).Nodup)
    (hlen : (joined ++ members).length < 2 ^ 8) :
    Enrolled env item (joined ++ members.filter env.InRange)
      (members.foldl (addRoller env item) roll) := by
  induction members generalizing joined roll with
  | nil => simpa using henrolled
  | cons member rest ih =>
    have hsplit : joined ++ member :: rest = (joined ++ [member]) ++ rest := by simp
    rw [foldl_cons]
    rcases hrange : env.InRange member with _ | _
    · rw [filter_cons_of_neg (by simp [hrange]), addRoller, if_neg (by simp [hrange])]
      refine ih henrolled (hnodup.sublist ?_) (lt_of_le_of_lt ?_ hlen)
      · exact (List.Sublist.refl joined).append (sublist_cons_self member rest)
      · simp
    have hnew : member ∉ joined := fun hmem =>
      disjoint_of_nodup_append hnodup hmem mem_cons_self
    have hshort : joined.length + 1 < 2 ^ 8 := by
      rw [length_append, length_cons] at hlen
      omega
    rw [filter_cons_of_pos hrange]
    rw [hsplit] at hnodup hlen
    have hrest := ih (enrolled_addRoller henrolled hnew hshort hrange) hnodup hlen
    rw [append_assoc] at hrest
    exact hrest

theorem foldl_addRoller_frame (item : LootItem) (members : List ℕ) (roll : Roll) :
    (members.foldl (addRoller env item) roll).itemGUID = roll.itemGUID ∧
      (members.foldl (addRoller env item) roll).loot = roll.loot ∧
      (members.foldl (addRoller env item) roll).itemSlot = roll.itemSlot := by
  induction members generalizing roll with
  | nil => exact ⟨rfl, rfl, rfl⟩
  | cons member rest ih =>
    obtain ⟨hguid, hloot, hslot⟩ := ih (addRoller env item roll member)
    have hone : (addRoller env item roll member).itemGUID = roll.itemGUID ∧
        (addRoller env item roll member).loot = roll.loot ∧
        (addRoller env item roll member).itemSlot = roll.itemSlot := by
      rw [addRoller]
      split <;> exact ⟨rfl, rfl, rfl⟩
    exact ⟨hguid.trans hone.1, hloot.trans hone.2.1, hslot.trans hone.2.2⟩

theorem foldl_addQuestRoller_rolling (item : LootItem) (members : List ℕ)
    (roll : Roll) : (members.foldl (addQuestRoller env item) roll).totalPlayersRolling =
      roll.totalPlayersRolling := by
  induction members generalizing roll with
  | nil => rfl
  | cons member rest ih =>
    rw [foldl_cons, ih, addQuestRoller]
    split <;> rfl

/-! ## Starting a roll for one item -/

/-- What a pass of a loop over the items of a loot does. `rolled` are the items the
loop wants to roll for, and `drops` says that it drops a roll in which all pass. -/
inductive ItemStep (env : LootEnv) (members : List ℕ) (rolled : LootItem → Prop) (drops : Prop)
    (id slot : ℕ) (before : LootRolls) : LootRolls → Prop
  | idle (after : LootRolls) : after.RollId = before.RollId → after.loots = before.loots →
      before.nextItemGUID ≤ after.nextItemGUID →
      ItemStep env members rolled drops id slot before after
  | marked : ItemStep env members rolled drops id slot before (before.markUnderThreshold id slot)
  | dropped (item : LootItem) : drops → before.item id slot = some item → rolled item →
      members.filter env.InRange ≠ [] →
      (∀ member ∈ members.filter env.InRange, env.CanRollOnItem item member = false) →
      ItemStep env members rolled drops id slot before (before.generate.blockSlot id slot)
  | started (item : LootItem) (roll : Roll) : before.item id slot = some item → rolled item →
      roll.itemGUID = before.nextItemGUID → roll.loot = id → roll.itemSlot = slot →
      Enrolled env item (members.filter env.InRange) roll →
      ItemStep env members rolled drops id slot before
        ((before.generate.blockSlot id slot).pushRoll roll)

/-- The items the first loops of both functions roll for. -/
def overThreshold (threshold : ℕ) (item : LootItem) : Prop :=
  item.freeforall = false ∧ ∃ quality, env.GetItemQuality item.itemid = some quality ∧
    threshold ≤ quality

section

variable {env : LootEnv} {threshold slot id : ℕ} {members : List ℕ} {item : LootItem}

theorem enrolled_roll (env : LootEnv) (item : LootItem) (itemGUID id : ℕ)
    (hnodup : members.Nodup) (hlen : members.length < 2 ^ 8) (hslot : slot < 2 ^ 8) :
    ∃ roll, members.foldl (addRoller env item) (newRoll itemGUID item id (uint8 slot)) = roll ∧
      roll.itemGUID = itemGUID ∧ roll.loot = id ∧ roll.itemSlot = slot ∧
      Enrolled env item (members.filter env.InRange) roll := by
  obtain ⟨hguid, hloot, hitemSlot⟩ :=
    foldl_addRoller_frame env item members (newRoll itemGUID item id (uint8 slot))
  refine ⟨_, rfl, hguid, hloot, hitemSlot.trans (uint8_of_lt hslot), ?_⟩
  exact enrolled_foldl (enrolled_newRoll env item itemGUID id (uint8 slot)) hnodup hlen

theorem itemStep_startRoll {rolled : LootItem → Prop} {drops : Prop}
    (hitem : rolls.item id slot = some item)
    (hrolled : rolled item) (hnodup : members.Nodup) (hlen : members.length < 2 ^ 8)
    (hslot : slot < 2 ^ 8) :
    ItemStep env members rolled drops id slot rolls (startRoll rolls.generate
      (members.foldl (addRoller env item)
        (newRoll rolls.nextItemGUID item id (uint8 slot)))) := by
  obtain ⟨roll, hroll, hguid, hloot, hitemSlot, henrolled⟩ :=
    enrolled_roll env item rolls.nextItemGUID id hnodup hlen hslot
  rw [hroll, startRoll]
  split
  · rw [hloot, hitemSlot]
    exact .started item roll hitem hrolled hguid hloot hitemSlot henrolled
  · exact .idle _ rfl rfl (le_succ _)

theorem itemStep_startGroupRoll {rolled : LootItem → Prop}
    (hitem : rolls.item id slot = some item) (hrolled : rolled item) (hnodup : members.Nodup)
    (hlen : members.length < 2 ^ 8) (hslot : slot < 2 ^ 8) :
    ItemStep env members rolled True id slot rolls (startGroupRoll rolls.generate
      (members.foldl (addRoller env item)
        (newRoll rolls.nextItemGUID item id (uint8 slot)))) := by
  obtain ⟨roll, hroll, hguid, hloot, hitemSlot, henrolled⟩ :=
    enrolled_roll env item rolls.nextItemGUID id hnodup hlen hslot
  rw [hroll, startGroupRoll]
  split
  · rename_i hpos
    rw [hloot, hitemSlot]
    split
    · rename_i hall
      rw [henrolled.pass, henrolled.rolling] at hall
      refine .dropped item trivial hitem hrolled (fun hnil => ?_) fun member hmember => ?_
      · rw [henrolled.rolling, hnil] at hpos
        exact absurd hpos (by decide)
      · simpa using countP_eq_length.mp hall member hmember
    · exact .started item roll hitem hrolled hguid hloot hitemSlot henrolled
  · exact .idle _ rfl rfl (le_succ _)

theorem itemStep_groupLootItem (hnodup : members.Nodup) (hlen : members.length < 2 ^ 8)
    (hslot : slot < 2 ^ 8) :
    ItemStep env members (overThreshold env threshold) True id slot rolls
      (groupLootItem env threshold members id rolls slot) := by
  rw [groupLootItem]
  split
  · exact .idle _ rfl rfl le_rfl
  rename_i item hitem
  split
  · exact .idle _ rfl rfl le_rfl
  rename_i hffa
  split
  · exact .idle _ rfl rfl le_rfl
  rename_i quality hquality
  split
  · rename_i hle
    exact itemStep_startGroupRoll hitem ⟨by simpa using hffa, quality, hquality, hle⟩ hnodup
      hlen hslot
  · exact .marked

theorem itemStep_groupLootQuestItem (rolled : LootItem → Prop) (drops : Prop) :
    ItemStep env members rolled drops id slot rolls
      (groupLootQuestItem env members id rolls slot) := by
  rw [groupLootQuestItem]
  split
  · exact .idle _ rfl rfl le_rfl
  split
  · exact .idle _ rfl rfl le_rfl
  split
  · exact .idle _ rfl rfl le_rfl
  · rw [startRoll, foldl_addQuestRoller_rolling, if_neg (by simp [newRoll])]
    exact .idle _ rfl rfl (le_succ _)

theorem itemStep_needBeforeGreedItem {after : LootRolls} (hnodup : members.Nodup)
    (hlen : members.length < 2 ^ 8) (hslot : slot < 2 ^ 8)
    (hrun : needBeforeGreedItem env threshold members id rolls slot = some after) :
    ItemStep env members (overThreshold env threshold) False id slot rolls after := by
  rw [needBeforeGreedItem] at hrun
  split at hrun
  · rw [← some.inj hrun]
    exact .idle _ rfl rfl le_rfl
  rename_i item hitem
  split at hrun
  · rw [← some.inj hrun]
    exact .idle _ rfl rfl le_rfl
  rename_i hffa
  split at hrun
  · exact absurd hrun (by simp)
  rename_i quality hquality
  split at hrun
  · rename_i hle
    rw [← some.inj hrun]
    exact itemStep_startRoll hitem ⟨by simpa using hffa, quality, hquality, hle⟩ hnodup
      hlen hslot
  · rw [← some.inj hrun]
    exact .marked

theorem itemStep_needBeforeGreedQuestItem (hnodup : members.Nodup)
    (hlen : members.length < 2 ^ 8) (hslot : slot < 2 ^ 8) :
    ItemStep env members (fun item => item.follow_loot_rules = true) False id slot rolls
      (needBeforeGreedQuestItem env members id rolls slot) := by
  rw [needBeforeGreedQuestItem]
  split
  · exact .idle _ rfl rfl le_rfl
  rename_i item hitem
  split
  · exact .idle _ rfl rfl le_rfl
  · rename_i hrules
    exact itemStep_startRoll hitem (by simpa using hrules) hnodup hlen hslot

end

theorem itemInSlot_modifySlot (loot : Loot) (slot other : ℕ) (f : LootItem → LootItem) :
    (loot.modifySlot slot f).itemInSlot other =
      if slot = other then (loot.itemInSlot other).map f else loot.itemInSlot other := by
  rw [Loot.modifySlot]
  by_cases hquest : loot.items.length ≤ slot
  · rw [if_pos hquest]
    by_cases hother : loot.items.length ≤ other
    · have hindex : slot - loot.items.length = other - loot.items.length ↔ slot = other := by
        omega
      simp only [Loot.itemInSlot, if_pos hother, List.getElem?_modify, hindex]
      split <;> simp
    · have hne : slot ≠ other := by omega
      simp only [Loot.itemInSlot, if_neg hother, if_neg hne]
  · rw [if_neg hquest]
    by_cases hother : loot.items.length ≤ other
    · have hne : slot ≠ other := by omega
      simp only [Loot.itemInSlot, List.length_modify, if_pos hother, if_neg hne]
    · simp only [Loot.itemInSlot, List.length_modify, if_neg hother, List.getElem?_modify]
      split <;> simp

theorem loots_modifySlot (rolls : LootRolls) (id slot id' : ℕ) (f : LootItem → LootItem) :
    (rolls.modifySlot id slot f).loots id' =
      if id = id' then (rolls.loots id').map (·.modifySlot slot f) else rolls.loots id' := by
  simp only [LootRolls.modifySlot, Function.update_apply]
  by_cases hid : id = id'
  · rw [if_pos hid.symm, if_pos hid, hid]
  · rw [if_neg (Ne.symm hid), if_neg hid]

theorem item_modifySlot (rolls : LootRolls) (id slot id' slot' : ℕ) (f : LootItem → LootItem) :
    (rolls.modifySlot id slot f).item id' slot' =
      if id = id' ∧ slot = slot' then (rolls.item id' slot').map f else rolls.item id' slot' := by
  rw [LootRolls.item, LootRolls.item, loots_modifySlot]
  by_cases hid : id = id'
  · rw [if_pos hid]
    cases rolls.loots id' with
    | none => simp
    | some loot => simp only [map_some, bind_some, itemInSlot_modifySlot, hid,
        true_and]
  · rw [if_neg hid, if_neg fun hboth => hid hboth.1]

theorem itemInSlot_mem {loot : Loot} {slot : ℕ} {item : LootItem}
    (hitem : loot.itemInSlot slot = some item) :
    (slot < loot.items.length ∧ item ∈ loot.items) ∨
      (loot.items.length ≤ slot ∧ item ∈ loot.quest_items) := by
  rw [Loot.itemInSlot] at hitem
  split at hitem
  · rename_i hquest
    exact .inr ⟨hquest, mem_of_getElem? hitem⟩
  · rename_i hquest
    exact .inl ⟨Nat.lt_of_not_le hquest, mem_of_getElem? hitem⟩

/-! ## The loops over the items -/

/-- A slot that the loops have not come to yet. -/
structure Untouched (contents : Loot) (id slot : ℕ) (rolls : LootRolls) : Prop where
  item : rolls.item id slot = contents.itemInSlot slot
  unrolled : ∀ roll ∈ rolls.RollId, roll.loot = id → roll.itemSlot ≠ slot

section

variable {env : LootEnv} {members : List ℕ} {rolled rolled' : LootItem → Prop} {drops : Prop}
  {id slot other threshold : ℕ} {contents : Loot} {before after : LootRolls}
  {body : LootRolls → ℕ → Option LootRolls}

theorem ItemStep.untouched (hstep : ItemStep env members rolled drops id slot before after)
    (hne : slot ≠ other) (huntouched : Untouched contents id other before) :
    Untouched contents id other after := by
  have hitem : ∀ f, (before.modifySlot id slot f).item id other = contents.itemInSlot other := by
    intro f
    rw [item_modifySlot, if_neg fun hboth => hne hboth.2]
    exact huntouched.item
  cases hstep with
  | idle _ hRollId hloots _ =>
    refine ⟨?_, ?_⟩
    · rw [LootRolls.item, hloots]
      exact huntouched.item
    · rw [hRollId]
      exact huntouched.unrolled
  | marked => exact ⟨hitem _, huntouched.unrolled⟩
  | dropped item _ _ _ _ _ => exact ⟨hitem _, huntouched.unrolled⟩
  | started item roll _ _ _ _ hslot _ =>
    refine ⟨hitem _, fun roll' hroll' hid => ?_⟩
    rcases mem_append.mp hroll' with hold | hnew
    · exact huntouched.unrolled roll' hold hid
    · rw [mem_singleton.mp hnew, hslot]
      exact hne

theorem ItemStep.mono (hstep : ItemStep env members rolled drops id slot before after)
    (hrolled : ∀ item, before.item id slot = some item → rolled item → rolled' item) :
    ItemStep env members rolled' drops id slot before after := by
  cases hstep with
  | idle _ hRollId hloots hnext => exact .idle _ hRollId hloots hnext
  | marked => exact .marked
  | dropped item hdrops hitem hroll hrange hall =>
    exact .dropped item hdrops hitem (hrolled item hitem hroll) hrange hall
  | started item roll hitem hroll hguid hid hslot henrolled =>
    exact .started item roll hitem (hrolled item hitem hroll) hguid hid hslot henrolled

theorem slots_invariant {slots : List ℕ} (inv : LootRolls → Prop) (hnodup : slots.Nodup)
    (hbody : ∀ middle slot next, slot ∈ slots → body middle slot = some next →
      ItemStep env members rolled drops id slot middle next)
    (hstep : ∀ middle slot next, slot ∈ slots → inv middle → Untouched contents id slot middle →
      ItemStep env members rolled drops id slot middle next → inv next)
    (hinv : inv before) (huntouched : ∀ slot ∈ slots, Untouched contents id slot before)
    (hrun : slots.foldlM body before = some after) :
    inv after ∧ ∀ other ∉ slots, Untouched contents id other before →
      Untouched contents id other after := by
  induction slots generalizing before with
  | nil =>
    cases hrun
    exact ⟨hinv, fun _ _ hother => hother⟩
  | cons slot rest ih =>
    obtain ⟨middle, hmiddle, hrest⟩ := bind_eq_some_iff.mp hrun
    obtain ⟨hnew, hnodup'⟩ := nodup_cons.mp hnodup
    have hone := hbody before slot middle mem_cons_self hmiddle
    have hinv' := hstep before slot middle mem_cons_self hinv
      (huntouched slot mem_cons_self) hone
    obtain ⟨hlast, hkept⟩ := ih hnodup'
      (fun middle slot next hslot => hbody middle slot next (mem_cons_of_mem _ hslot))
      (fun middle slot next hslot => hstep middle slot next (mem_cons_of_mem _ hslot))
      hinv'
      (fun other hother => hone.untouched (ne_of_mem_of_not_mem hother hnew).symm
        (huntouched other (mem_cons_of_mem _ hother)))
      hrest
    refine ⟨hlast, fun other hother hbefore => hkept other ?_ (hone.untouched ?_ hbefore)⟩
    · exact fun hmem => hother (mem_cons_of_mem _ hmem)
    · exact fun hsame => hother (hsame ▸ mem_cons_self)

/-- The items `GroupLoot` rolls for, and those `NeedBeforeGreed` rolls for. -/
def groupRolled (env : LootEnv) (threshold : ℕ) (contents : Loot) (item : LootItem) : Prop :=
  item ∈ contents.items ∧ overThreshold env threshold item

def needRolled (env : LootEnv) (threshold : ℕ) (contents : Loot) (item : LootItem) : Prop :=
  groupRolled env threshold contents item ∨
    (item ∈ contents.quest_items ∧ item.follow_loot_rules = true)

theorem mem_itemSlots (hloot : before.loots id = some contents) :
    slot ∈ itemSlots before id ↔ slot < contents.items.length := by
  rw [itemSlots, hloot]
  exact mem_range

theorem mem_questSlots (hloot : before.loots id = some contents) :
    slot ∈ questSlots before id ↔ contents.items.length ≤ slot ∧
      slot < contents.items.length + contents.quest_items.length := by
  rw [questSlots, hloot]
  simp only [List.mem_map, mem_range]
  constructor
  · omega
  · rintro ⟨hle, hlt⟩
    exact ⟨slot - contents.items.length, by omega, by omega⟩

theorem itemSlots_nodup (rolls : LootRolls) (id : ℕ) : (itemSlots rolls id).Nodup := by
  rw [itemSlots]
  split
  · exact nodup_nil
  · exact nodup_range

theorem questSlots_nodup (rolls : LootRolls) (id : ℕ) : (questSlots rolls id).Nodup := by
  rw [questSlots]
  split
  · exact nodup_nil
  · exact nodup_range.map fun _ _ hsame => Nat.add_left_cancel hsame

theorem slot_lt (contents : Loot)
    (hslot : slot < contents.items.length + contents.quest_items.length) : slot < 2 ^ 8 := by
  have hitems := contents.items_le
  have hquest := contents.quest_items_le
  rw [MAX_NR_LOOT_ITEMS] at hitems
  rw [MAX_NR_QUEST_ITEMS] at hquest
  omega

theorem untouched_of_fresh (hloot : before.loots id = some contents)
    (hfresh : ∀ roll ∈ before.RollId, roll.loot ≠ id) (slot : ℕ) :
    Untouched contents id slot before := by
  refine ⟨?_, fun roll hroll hid => absurd hid (hfresh roll hroll)⟩
  rw [LootRolls.item, hloot, bind_some]

theorem not_mem_itemSlots (hloot : before.loots id = some contents)
    (hslot : slot ∈ questSlots before id) : slot ∉ itemSlots before id := by
  have hle := ((mem_questSlots hloot).mp hslot).1
  intro hmem
  exact absurd ((mem_itemSlots hloot).mp hmem) (Nat.not_lt.mpr hle)

variable (inv : LootRolls → Prop)

theorem items_invariant (hloot : before.loots id = some contents)
    (hfresh : ∀ roll ∈ before.RollId, roll.loot ≠ id)
    (hbody : ∀ middle slot next, slot < 2 ^ 8 → body middle slot = some next →
      ItemStep env members (overThreshold env threshold) drops id slot middle next)
    (hstep : ∀ middle slot next, inv middle → Untouched contents id slot middle →
      ItemStep env members (groupRolled env threshold contents) drops id slot middle next →
      inv next)
    (hinv : inv before) (hrun : (itemSlots before id).foldlM body before = some after) :
    inv after ∧ ∀ slot ∈ questSlots before id, Untouched contents id slot after := by
  have hall := untouched_of_fresh hloot hfresh
  have hslots : ∀ middle slot next, slot ∈ itemSlots before id → body middle slot = some next →
      ItemStep env members (overThreshold env threshold) drops id slot middle next := by
    intro middle slot next hslot hnext
    have hlt := (mem_itemSlots hloot).mp hslot
    exact hbody middle slot next (slot_lt contents (Nat.lt_add_right _ hlt)) hnext
  have hpass : ∀ middle slot next, slot ∈ itemSlots before id → inv middle →
      Untouched contents id slot middle →
      ItemStep env members (overThreshold env threshold) drops id slot middle next →
      inv next := by
    intro middle slot next hslot hmiddle huntouched hone
    refine hstep middle slot next hmiddle huntouched (hone.mono fun item hitem hover => ?_)
    rw [huntouched.item] at hitem
    have hlt := (mem_itemSlots hloot).mp hslot
    rcases itemInSlot_mem hitem with ⟨-, hmem⟩ | ⟨hle, -⟩
    · exact ⟨hmem, hover⟩
    · exact absurd hlt (Nat.not_lt.mpr hle)
  obtain ⟨hlast, hkept⟩ := slots_invariant inv (itemSlots_nodup before id) hslots hpass hinv
    (fun slot _ => hall slot) hrun
  exact ⟨hlast, fun slot hslot => hkept slot (not_mem_itemSlots hloot hslot) (hall slot)⟩

/-- What holds of a fresh loot and is preserved by every pass holds after `GroupLoot`. -/
theorem groupLoot_invariant (hnodup : members.Nodup)
    (hlen : members.length < 2 ^ 8) (hloot : before.loots id = some contents)
    (hfresh : ∀ roll ∈ before.RollId, roll.loot ≠ id)
    (hstep : ∀ middle slot next, inv middle → Untouched contents id slot middle →
      ItemStep env members (groupRolled env threshold contents) True id slot middle next →
      inv next)
    (hinv : inv before) : inv (GroupLoot env threshold members before id) := by
  have hfirst : ∀ middle slot next, slot < 2 ^ 8 →
      some (groupLootItem env threshold members id middle slot) = some next →
      ItemStep env members (overThreshold env threshold) True id slot middle next := by
    intro middle slot next hslot hnext
    rw [← some.inj hnext]
    exact itemStep_groupLootItem hnodup hlen hslot
  obtain ⟨hitems, hquest⟩ := items_invariant inv hloot hfresh hfirst hstep hinv
    (foldlM_pure ..)
  have hsecond : ∀ middle slot next, slot ∈ questSlots before id →
      some (groupLootQuestItem env members id middle slot) = some next →
      ItemStep env members (groupRolled env threshold contents) True id slot middle next := by
    intro middle slot next _ hnext
    rw [← some.inj hnext]
    exact itemStep_groupLootQuestItem _ _
  exact (slots_invariant inv (questSlots_nodup before id) hsecond
    (fun middle slot next _ hmiddle huntouched hone => hstep middle slot next hmiddle huntouched hone)
    hitems hquest (foldlM_pure ..)).1

theorem needBeforeGreed_invariant (hnodup : members.Nodup)
    (hlen : members.length < 2 ^ 8) (hloot : before.loots id = some contents)
    (hfresh : ∀ roll ∈ before.RollId, roll.loot ≠ id)
    (hstep : ∀ middle slot next, inv middle → Untouched contents id slot middle →
      ItemStep env members (needRolled env threshold contents) False id slot middle next →
      inv next)
    (hinv : inv before) (hrun : NeedBeforeGreed env threshold members before id = some after) :
    inv after := by
  obtain ⟨middle, hmiddle, rfl⟩ := map_eq_some_iff.mp hrun
  have hfirst : ∀ middle slot next, slot < 2 ^ 8 →
      needBeforeGreedItem env threshold members id middle slot = some next →
      ItemStep env members (overThreshold env threshold) False id slot middle next :=
    fun _ _ _ hslot hnext => itemStep_needBeforeGreedItem hnodup hlen hslot hnext
  obtain ⟨hitems, hquest⟩ := items_invariant inv hloot hfresh hfirst
    (fun middle slot next hmiddle huntouched hone => hstep middle slot next hmiddle huntouched
      (hone.mono fun _ _ hrolled => .inl hrolled)) hinv hmiddle
  have hsecond : ∀ middle slot next, slot ∈ questSlots before id →
      some (needBeforeGreedQuestItem env members id middle slot) = some next →
      ItemStep env members (fun item => item.follow_loot_rules = true) False id slot middle
        next := by
    intro middle slot next hslot hnext
    rw [← some.inj hnext]
    exact itemStep_needBeforeGreedQuestItem hnodup hlen
      (slot_lt contents ((mem_questSlots hloot).mp hslot).2)
  have hpass : ∀ middle slot next, slot ∈ questSlots before id → inv middle →
      Untouched contents id slot middle →
      ItemStep env members (fun item => item.follow_loot_rules = true) False id slot middle
        next → inv next := by
    intro middle slot next hslot hmiddle huntouched hone
    refine hstep middle slot next hmiddle huntouched (hone.mono fun item hitem hrules => ?_)
    rw [huntouched.item] at hitem
    have hle := ((mem_questSlots hloot).mp hslot).1
    rcases itemInSlot_mem hitem with ⟨hlt, -⟩ | ⟨-, hmem⟩
    · exact absurd hlt (Nat.not_lt.mpr hle)
    · exact .inr ⟨hmem, hrules⟩
  exact (slots_invariant inv (questSlots_nodup before id) hsecond hpass hitems hquest
    (foldlM_pure ..)).1

end

end AzerothCore.LootRoll

/-! ## Rolls for quest items -/

namespace AzerothCore.LootRoll
open List Option

variable {env : LootEnv} {members : List ℕ} {threshold loot slot : ℕ} {contents : Loot}
  {before middle after : LootRolls} {here there : Roll → Prop}

/-! ## Rolls that are added -/

def Adds (here : Roll → Prop) (before after : LootRolls) : Prop :=
  ∃ new, after.RollId = before.RollId ++ new ∧ ∀ roll ∈ new, here roll

theorem Adds.of_eq (hsame : after.RollId = before.RollId) : Adds here before after :=
  ⟨[], by rw [hsame, append_nil], forall_mem_nil _⟩

theorem Adds.trans (hfirst : Adds here before middle) (hsecond : Adds here middle after) :
    Adds here before after := by
  obtain ⟨first, hmiddle, hfirst⟩ := hfirst
  obtain ⟨second, hafter, hsecond⟩ := hsecond
  refine ⟨first ++ second, by rw [hafter, hmiddle, append_assoc], fun roll hroll => ?_⟩
  rcases mem_append.mp hroll with hnew | hnew
  · exact hfirst roll hnew
  · exact hsecond roll hnew

theorem Adds.mono (hadds : Adds here before after) (hmono : ∀ roll, here roll → there roll) :
    Adds there before after := by
  obtain ⟨new, hafter, hnew⟩ := hadds
  exact ⟨new, hafter, fun roll hroll => hmono roll (hnew roll hroll)⟩

theorem Adds.foldlM {body : LootRolls → ℕ → Option LootRolls} {slots : List ℕ}
    (hbody : ∀ rolls slot next, slot ∈ slots → body rolls slot = some next → Adds here rolls next)
    (hrun : slots.foldlM body before = some after) : Adds here before after := by
  induction slots generalizing before with
  | nil =>
    rw [← some.inj hrun]
    exact Adds.of_eq rfl
  | cons slot rest ih =>
    obtain ⟨next, hnext, hrest⟩ := bind_eq_some_iff.mp hrun
    apply (hbody before slot next mem_cons_self hnext).trans
    exact ih (fun rolls slot next hslot => hbody rolls slot next (mem_cons_of_mem _ hslot))
      hrest

variable {rolled : LootItem → Prop}

theorem ItemStep.adds {drops : Prop}
    (hstep : ItemStep env members rolled drops loot slot before after) :
    Adds (fun roll => roll.itemSlot = slot) before after := by
  cases hstep with
  | idle _ hsame _ _ => exact Adds.of_eq hsame
  | marked | dropped => exact Adds.of_eq rfl
  | started item roll _ _ _ _ hslot _ =>
    refine ⟨[roll], rfl, fun other hother => ?_⟩
    rwa [mem_singleton.mp hother]

/-! ## What of an item the loops leave alone -/

/-- The fields of an item that no loop writes. -/
def fixedFields (item : LootItem) : ℕ × Bool × Bool :=
  (item.itemid, item.freeforall, item.follow_loot_rules)

def Contains (contents : Loot) (loot : ℕ) (rolls : LootRolls) : Prop :=
  ∀ slot, (rolls.item loot slot).map fixedFields = (contents.itemInSlot slot).map fixedFields

theorem contains_of_loots (hloot : before.loots loot = some contents) :
    Contains contents loot before := by
  intro slot
  rw [LootRolls.item, hloot, bind_some]

theorem Contains.modifySlot (hcontains : Contains contents loot before) (id slot : ℕ)
    {f : LootItem → LootItem} (hf : ∀ item, fixedFields (f item) = fixedFields item) :
    Contains contents loot (before.modifySlot id slot f) := by
  intro other
  rw [← hcontains other, item_modifySlot]
  split
  · rw [Option.map_map]
    exact congrArg (Option.map · (before.item loot other)) (funext hf)
  · rfl

theorem ItemStep.contains {drops : Prop}
    (hstep : ItemStep env members rolled drops loot slot before after)
    (hcontains : Contains contents loot before) : Contains contents loot after := by
  cases hstep with
  | idle _ _ hsame _ =>
    intro other
    rw [← hcontains other, LootRolls.item, LootRolls.item, hsame]
  | marked => exact hcontains.modifySlot loot slot fun _ => rfl
  | dropped item _ _ _ _ _ => exact hcontains.modifySlot loot slot fun _ => rfl
  | started item roll _ _ _ _ _ _ => exact hcontains.modifySlot loot slot fun _ => rfl

theorem Contains.item (hcontains : Contains contents loot before) {item : LootItem}
    (hitem : before.item loot slot = some item) :
    ∃ old, contents.itemInSlot slot = some old ∧ fixedFields old = fixedFields item := by
  have hsame := hcontains slot
  rw [hitem, map_some] at hsame
  obtain ⟨old, hold, hfields⟩ := map_eq_some_iff.mp hsame.symm
  exact ⟨old, hold, hfields⟩

theorem itemSlot_lt (hloot : before.loots loot = some contents)
    (hslot : slot ∈ itemSlots before loot) : slot < contents.items.length ∧ slot < 2 ^ 8 := by
  have hlt := (mem_itemSlots hloot).mp hslot
  exact ⟨hlt, slot_lt contents (Nat.lt_add_right _ hlt)⟩

theorem groupLoot_items (env : LootEnv) (threshold : ℕ) (hnodup : members.Nodup)
    (hlen : members.length < 2 ^ 8) (hloot : before.loots loot = some contents) :
    Adds (fun roll => roll.itemSlot < contents.items.length) before
      ((itemSlots before loot).foldl (groupLootItem env threshold members loot) before) := by
  apply @Adds.foldlM _ _ _ fun rolls slot =>
    some (groupLootItem env threshold members loot rolls slot)
  · intro rolls slot next hslot hnext
    obtain ⟨hlt, hbyte⟩ := itemSlot_lt hloot hslot
    rw [← some.inj hnext]
    apply (itemStep_groupLootItem hnodup hlen hbyte).adds.mono
    intro roll hroll
    rwa [hroll]
  · exact foldlM_pure ..

/-- With a template for every item that is not for all, the first loop of
`NeedBeforeGreed` reads no missing template. -/
theorem needBeforeGreed_items (hnodup : members.Nodup) (hlen : members.length < 2 ^ 8)
    (htemplates : ∀ item ∈ contents.items, item.freeforall = false →
      (env.GetItemQuality item.itemid).isSome)
    {slots : List ℕ} (hslots : ∀ slot ∈ slots, slot < contents.items.length ∧ slot < 2 ^ 8)
    (hcontains : Contains contents loot before) :
    ∃ middle, slots.foldlM (needBeforeGreedItem env threshold members loot) before = some middle ∧
      Contains contents loot middle ∧
      Adds (fun roll => roll.itemSlot < contents.items.length) before middle := by
  induction slots generalizing before with
  | nil => exact ⟨before, rfl, hcontains, Adds.of_eq rfl⟩
  | cons slot rest ih =>
    obtain ⟨hlt, hbyte⟩ := hslots slot mem_cons_self
    obtain ⟨next, hnext⟩ :
        ∃ next, needBeforeGreedItem env threshold members loot before slot = some next := by
      rw [needBeforeGreedItem]
      rcases hitem : before.item loot slot with _ | item
      · exact ⟨before, rfl⟩
      dsimp only
      cases hffa : item.freeforall with
      | true => exact ⟨before, rfl⟩
      | false =>
        obtain ⟨old, hold, hfields⟩ := hcontains.item hitem
        obtain ⟨hid, hrest⟩ := Prod.mk.inj hfields
        have hmem : old ∈ contents.items := by
          rcases itemInSlot_mem hold with ⟨-, hmem⟩ | ⟨hle, -⟩
          · exact hmem
          · exact absurd hlt (Nat.not_lt.mpr hle)
        have hold_ffa : old.freeforall = false := (Prod.mk.inj hrest).1.trans hffa
        obtain ⟨quality, hquality⟩ := isSome_iff_exists.mp (htemplates old hmem hold_ffa)
        rw [hid] at hquality
        rw [hquality, if_neg Bool.false_ne_true]
        dsimp only
        split
        · exact ⟨_, rfl⟩
        · exact ⟨_, rfl⟩
    have hstep := itemStep_needBeforeGreedItem hnodup hlen hbyte hnext
    obtain ⟨middle, hmiddle, hlast, hadds⟩ :=
      ih (fun other hother => hslots other (mem_cons_of_mem _ hother))
        (hstep.contains hcontains)
    refine ⟨middle, ?_, hlast, Adds.trans (hstep.adds.mono ?_) hadds⟩
    · rw [foldlM_cons, hnext]
      exact hmiddle
    · intro roll hroll
      rwa [hroll]

/-! ## The loops over the quest items -/

/-- The slot holds an item for which `NeedBeforeGreed` has somebody to roll. -/
def RolledSlot (env : LootEnv) (members : List ℕ) (contents : Loot) (slot : ℕ) : Prop :=
  ∃ item, contents.itemInSlot slot = some item ∧ item.follow_loot_rules = true ∧
    ∃ member ∈ members, env.InRange member = true

structure RollOf (env : LootEnv) (members : List ℕ) (roll : Roll) : Prop where
  counted : roll.totalPlayersRolling = roll.playerVote.entries.length
  voters : ∀ guid, guid ∈ roll.playerVote ↔ guid ∈ members ∧ env.InRange guid = true

theorem Enrolled.rollOf {item : LootItem} {roll : Roll}
    (henrolled : Enrolled env item (members.filter env.InRange) roll) :
    RollOf env members roll := by
  constructor
  · rw [henrolled.votes.length_eq, length_map, henrolled.rolling]
  · intro guid
    rw [henrolled.mem_iff, mem_filter]

theorem needBeforeGreedQuestItem_spec (hnodup : members.Nodup) (hlen : members.length < 2 ^ 8)
    (hslot : slot < 2 ^ 8) (hcontains : Contains contents loot before) :
    ∃ new, (needBeforeGreedQuestItem env members loot before slot).RollId = before.RollId ++ new ∧
      (∀ roll ∈ new, roll.itemSlot = slot ∧ RollOf env members roll) ∧
      (new ≠ [] ↔ RolledSlot env members contents slot) := by
  have hnone : ∀ after : LootRolls, after.RollId = before.RollId →
      ¬ RolledSlot env members contents slot →
      ∃ new, after.RollId = before.RollId ++ new ∧
        (∀ roll ∈ new, roll.itemSlot = slot ∧ RollOf env members roll) ∧
        (new ≠ [] ↔ RolledSlot env members contents slot) := by
    intro after hsame hnot
    refine ⟨[], by rw [hsame, append_nil], forall_mem_nil _, ?_⟩
    exact ⟨fun hne => absurd rfl hne, fun hrolled => absurd hrolled hnot⟩
  rw [needBeforeGreedQuestItem]
  rcases hitem : before.item loot slot with _ | item
  · apply hnone before rfl
    rintro ⟨item, hold, -⟩
    have hsame := hcontains slot
    rw [hitem, hold] at hsame
    exact absurd hsame (by simp)
  obtain ⟨old, hold, hfields⟩ := hcontains.item hitem
  have hrules : old.follow_loot_rules = item.follow_loot_rules :=
    (Prod.mk.inj (Prod.mk.inj hfields).2).2
  dsimp only
  rcases hfollow : item.follow_loot_rules with _ | _
  · apply hnone before rfl
    rintro ⟨other, hother, htrue, -⟩
    rw [hold] at hother
    rw [← some.inj hother, hrules, hfollow] at htrue
    exact Bool.false_ne_true htrue
  obtain ⟨roll, hroll, hguid, hid, hitemSlot, henrolled⟩ :=
    enrolled_roll env item before.nextItemGUID loot hnodup hlen hslot
  rw [Bool.not_true, if_neg Bool.false_ne_true, hroll, startRoll, henrolled.rolling]
  by_cases hrange : ∃ member ∈ members, env.InRange member = true
  · obtain ⟨member, hmember, hin⟩ := hrange
    rw [if_pos (length_pos_of_mem (mem_filter.mpr ⟨hmember, hin⟩))]
    refine ⟨[roll], rfl, fun other hother => ?_, fun _ => ?_, fun _ => cons_ne_nil _ _⟩
    · rw [mem_singleton.mp hother]
      exact ⟨hitemSlot, henrolled.rollOf⟩
    · exact ⟨old, hold, hrules.trans hfollow, member, hmember, hin⟩
  · have hempty : members.filter env.InRange = [] := by
      rw [filter_eq_nil_iff]
      exact fun member hmember hin => hrange ⟨member, hmember, hin⟩
    rw [hempty, length_nil, if_neg (Nat.lt_irrefl 0)]
    apply hnone before.generate rfl
    rintro ⟨-, -, -, hsome⟩
    exact hrange hsome

theorem needBeforeGreed_quest (hnodup : members.Nodup) (hlen : members.length < 2 ^ 8)
    {slots : List ℕ} (hslots : ∀ slot ∈ slots, slot < 2 ^ 8)
    (hcontains : Contains contents loot before) :
    ∃ new, (slots.foldl (needBeforeGreedQuestItem env members loot) before).RollId =
        before.RollId ++ new ∧
      (∀ roll ∈ new, roll.itemSlot ∈ slots ∧ RollOf env members roll) ∧
      ∀ slot ∈ slots, (∃ roll ∈ new, roll.itemSlot = slot) ↔
        RolledSlot env members contents slot := by
  induction slots generalizing before with
  | nil =>
    exact ⟨[], (append_nil _).symm, forall_mem_nil _, forall_mem_nil _⟩
  | cons slot rest ih =>
    have hslot := hslots slot mem_cons_self
    obtain ⟨first, hfirst, hfirstRolls, hsome⟩ :=
      @needBeforeGreedQuestItem_spec env _ _ _ _ _ hnodup hlen hslot hcontains
    have hstep := (@itemStep_needBeforeGreedQuestItem before env slot loot members hnodup
      hlen hslot).contains hcontains
    obtain ⟨second, hsecond, hsecondRolls, hrest⟩ :=
      ih (fun other hother => hslots other (mem_cons_of_mem _ hother)) hstep
    refine ⟨first ++ second, ?_, fun roll hroll => ?_, fun other hother => ?_⟩
    · rw [foldl_cons, hsecond, hfirst, append_assoc]
    · rcases mem_append.mp hroll with hnew | hnew
      · obtain ⟨hhere, hrollOf⟩ := hfirstRolls roll hnew
        exact ⟨hhere ▸ mem_cons_self, hrollOf⟩
      · obtain ⟨hthere, hrollOf⟩ := hsecondRolls roll hnew
        exact ⟨mem_cons_of_mem _ hthere, hrollOf⟩
    · constructor
      · rintro ⟨roll, hroll, rfl⟩
        rcases mem_append.mp hroll with hnew | hnew
        · rw [(hfirstRolls roll hnew).1]
          exact hsome.mp (ne_nil_of_mem hnew)
        · exact (hrest roll.itemSlot (hsecondRolls roll hnew).1).mp ⟨roll, hnew, rfl⟩
      · intro hrolled
        rcases mem_cons.mp hother with rfl | hbehind
        · obtain ⟨roll, hroll⟩ := exists_mem_of_ne_nil _ (hsome.mpr hrolled)
          exact ⟨roll, mem_append_left _ hroll, (hfirstRolls roll hroll).1⟩
        · obtain ⟨roll, hroll, hthere⟩ := (hrest other hbehind).mpr hrolled
          exact ⟨roll, mem_append_right _ hroll, hthere⟩

/-! ## The rolls both functions start -/

def questRolls (contents : Loot) (before after : LootRolls) : List Roll :=
  (after.RollId.drop before.RollId.length).filter fun roll =>
    contents.items.length ≤ roll.itemSlot

theorem questRolls_eq {first quest : List Roll}
    (hafter : after.RollId = before.RollId ++ first ++ quest)
    (hfirst : ∀ roll ∈ first, roll.itemSlot < contents.items.length)
    (hquest : ∀ roll ∈ quest, contents.items.length ≤ roll.itemSlot) :
    questRolls contents before after = quest := by
  have hnone : (first.filter fun roll => contents.items.length ≤ roll.itemSlot) = [] := by
    rw [filter_eq_nil_iff]
    intro roll hroll
    rw [decide_eq_true_eq]
    exact Nat.not_le.mpr (hfirst roll hroll)
  have hall : (quest.filter fun roll => contents.items.length ≤ roll.itemSlot) = quest := by
    rw [filter_eq_self]
    intro roll hroll
    rw [decide_eq_true_eq]
    exact hquest roll hroll
  rw [questRolls, hafter, append_assoc, drop_left, filter_append, hnone, hall, nil_append]

theorem groupLoot_questRolls (env : LootEnv) (threshold : ℕ) (hnodup : members.Nodup)
    (hlen : members.length < 2 ^ 8) (hloot : before.loots loot = some contents) :
    questRolls contents before (GroupLoot env threshold members before loot) = [] := by
  obtain ⟨first, hfirst, hslots⟩ := groupLoot_items env threshold hnodup hlen hloot
  have hquest : ∀ (slots : List ℕ) (rolls : LootRolls),
      (slots.foldl (groupLootQuestItem env members loot) rolls).RollId = rolls.RollId := by
    intro slots
    induction slots with
    | nil => exact fun _ => rfl
    | cons slot rest ih =>
      intro rolls
      rw [foldl_cons, ih, groupLootQuestItem]
      split
      · rfl
      split
      · rfl
      split
      · rfl
      · rw [startRoll, foldl_addQuestRoller_rolling, if_neg (by simp [newRoll])]
        rfl
  apply @questRolls_eq contents before _ first [] _ hslots
    (forall_mem_nil _)
  rw [GroupLoot, hquest, hfirst, append_nil]

/-- `NeedBeforeGreed` starts one roll for every quest item that follows the loot rules, if
a member is near the corpse, and everybody near the corpse is counted. -/
theorem needBeforeGreed_questRolls (hnodup : members.Nodup) (hlen : members.length < 2 ^ 8)
    (htemplates : ∀ item ∈ contents.items, item.freeforall = false →
      (env.GetItemQuality item.itemid).isSome)
    (hloot : before.loots loot = some contents) :
    ∃ after, NeedBeforeGreed env threshold members before loot = some after ∧
      (∀ roll ∈ questRolls contents before after, RollOf env members roll) ∧
      ∀ slot, (∃ roll ∈ questRolls contents before after, roll.itemSlot = slot) ↔
        contents.items.length ≤ slot ∧ RolledSlot env members contents slot := by
  obtain ⟨middle, hmiddle, hcontains, first, hfirst, hfirstSlots⟩ :=
    @needBeforeGreed_items env members threshold loot contents before hnodup hlen htemplates
      (itemSlots before loot) (fun slot hslot => itemSlot_lt hloot hslot)
      (contains_of_loots hloot)
  obtain ⟨quest, hquest, hrolls, hslots⟩ := @needBeforeGreed_quest env members loot contents
    middle hnodup hlen (questSlots before loot)
    (fun slot hslot => slot_lt contents ((mem_questSlots hloot).mp hslot).2) hcontains
  have hbehind : ∀ roll ∈ quest, contents.items.length ≤ roll.itemSlot := fun roll hroll =>
    ((mem_questSlots hloot).mp (hrolls roll hroll).1).1
  refine ⟨_, by rw [NeedBeforeGreed, hmiddle]; rfl, ?_⟩
  rw [questRolls_eq (by rw [hquest, hfirst]) hfirstSlots hbehind]
  refine ⟨fun roll hroll => (hrolls roll hroll).2, fun slot => ⟨?_, ?_⟩⟩
  · rintro ⟨roll, hroll, rfl⟩
    exact ⟨hbehind roll hroll, (hslots roll.itemSlot (hrolls roll hroll).1).mp ⟨roll, hroll, rfl⟩⟩
  · rintro ⟨hle, hrolled⟩
    obtain ⟨item, hitem, hfollow⟩ := hrolled
    have hlt : slot < contents.items.length + contents.quest_items.length := by
      rw [Loot.itemInSlot, if_pos hle] at hitem
      have hindex := (List.getElem?_eq_some_iff.mp hitem).1
      omega
    exact (hslots slot ((mem_questSlots hloot).mpr ⟨hle, hlt⟩)).mpr ⟨item, hitem, hfollow⟩

/-- `IsAtLootRewardDistance`: near enough for the group's reward, without a pending bind,
and allowed to loot; `allowed` stands for the last two. -/
def LootEnv.atLootDistance (env : LootEnv) (allowed : ℕ → Bool) : LootEnv :=
  { env with InRange := fun member => env.InRange member && allowed member }

def ToRoll (env : LootEnv) (members : List ℕ) (contents : Loot) (slot : ℕ) : Prop :=
  contents.items.length ≤ slot ∧ ∃ item, contents.itemInSlot slot = some item ∧
    item.follow_loot_rules = true ∧
    ∃ member ∈ members, env.InRange member = true ∧ env.CanRollOnItem item member = true

def QuestRollsAgree (env : LootEnv) (allowed : ℕ → Bool) (threshold : ℕ) (members : List ℕ)
    (contents : Loot) (before : LootRolls) (loot : ℕ) : Prop :=
  ∃ need, NeedBeforeGreed env threshold members before loot = some need ∧
    let group := GroupLoot (env.atLootDistance allowed) threshold members before loot
    (∀ slot, (∃ roll ∈ questRolls contents before group, roll.itemSlot = slot) ↔
      ToRoll env members contents slot) ∧
    (∀ slot, (∃ roll ∈ questRolls contents before need, roll.itemSlot = slot) ↔
      ToRoll env members contents slot) ∧
    (∀ roll ∈ questRolls contents before group, ∀ other ∈ questRolls contents before need,
      roll.itemSlot = other.itemSlot → ∀ guid, guid ∈ roll.playerVote ↔ guid ∈ other.playerVote) ∧
    ∀ roll ∈ questRolls contents before group ++ questRolls contents before need,
      roll.totalPlayersRolling = roll.playerVote.entries.length

/-- `GroupLoot` never starts a roll for a quest item, so the two agree only where there is
nothing to start. -/
theorem questRollsAgree_iff (env : LootEnv) (allowed : ℕ → Bool) (threshold : ℕ)
    (members : List ℕ) (contents : Loot) (before : LootRolls) (loot : ℕ)
    (hnodup : members.Nodup) (hlength : members.length < 2 ^ 8)
    (hloot : before.loots loot = some contents)
    (htemplates : ∀ item ∈ contents.items, item.freeforall = false →
      (env.GetItemQuality item.itemid).isSome) :
    QuestRollsAgree env allowed threshold members contents before loot ↔
      ∀ item ∈ contents.quest_items, item.follow_loot_rules = true →
        ∀ member ∈ members, env.InRange member = false := by
  have hgroup := groupLoot_questRolls (env.atLootDistance allowed) threshold hnodup hlength hloot
  obtain ⟨need, hneed, hcounted, hslots⟩ := @needBeforeGreed_questRolls env members threshold loot
    contents before hnodup hlength htemplates hloot
  constructor
  · rintro ⟨need', hneed', hgroupSlots, hneedSlots, -, -⟩ item hitem hfollow member hmember
    rw [hneed] at hneed'
    obtain ⟨index, hindex, rfl⟩ := mem_iff_getElem.mp hitem
    have hslot : contents.itemInSlot (contents.items.length + index) =
        some contents.quest_items[index] := by
      rw [Loot.itemInSlot, if_pos (Nat.le_add_right _ _), Nat.add_sub_cancel_left,
        List.getElem?_eq_getElem hindex]
    rcases hin : env.InRange member with _ | _
    · rfl
    have hrolled := (hslots (contents.items.length + index)).mpr
      ⟨Nat.le_add_right _ _, contents.quest_items[index], hslot, hfollow, member, hmember, hin⟩
    rw [some.inj hneed'] at hrolled
    have hnone := (hgroupSlots _).mpr ((hneedSlots _).mp hrolled)
    rw [hgroup] at hnone
    obtain ⟨roll, hroll, -⟩ := hnone
    cases hroll
  · intro hnobody
    have hnot : ∀ slot, contents.items.length ≤ slot → ¬ RolledSlot env members contents slot := by
      rintro slot hle ⟨item, hitem, hfollow, member, hmember, hin⟩
      rcases itemInSlot_mem hitem with ⟨hlt, -⟩ | ⟨-, hmem⟩
      · exact absurd hlt (Nat.not_lt.mpr hle)
      · rw [hnobody item hmem hfollow member hmember] at hin
        exact Bool.false_ne_true hin
    have htoRoll : ∀ slot, ¬ ToRoll env members contents slot := by
      rintro slot ⟨hle, item, hitem, hfollow, member, hmember, hin, -⟩
      exact hnot slot hle ⟨item, hitem, hfollow, member, hmember, hin⟩
    have hneedNil : questRolls contents before need = [] := by
      rw [eq_nil_iff_forall_not_mem]
      intro roll hroll
      obtain ⟨hle, hrolled⟩ := (hslots roll.itemSlot).mp ⟨roll, hroll, rfl⟩
      exact hnot roll.itemSlot hle hrolled
    refine ⟨need, hneed, ?_⟩
    dsimp only
    rw [hgroup, hneedNil]
    simp [htoRoll]

def openEnv : LootEnv := ⟨fun _ => some 2, fun _ => true, fun _ => false, fun _ _ => true⟩

def questLoot (follow_loot_rules : Bool) : Loot :=
  ⟨[], [⟨100, false, follow_loot_rules, false, false, false, 0⟩], Nat.zero_le _,
    Nat.succ_le_of_lt (by decide)⟩

def questLootRolls (follow_loot_rules : Bool) : LootRolls :=
  ⟨[], fun _ => some (questLoot follow_loot_rules), 1⟩

theorem questRollsAgree_ownRules :
    QuestRollsAgree openEnv (fun _ => true) 2 [1, 2] (questLoot false) (questLootRolls false) 0 :=
  (questRollsAgree_iff openEnv (fun _ => true) 2 [1, 2] (questLoot false) (questLootRolls false) 0
    (by decide) (by decide) rfl (by decide)).mpr (by decide)

/-- Two members near the corpse can roll for a quest item, and `GroupLoot` starts no roll. -/
theorem groupLoot_misses_questItem : ToRoll openEnv [1, 2] (questLoot true) 0 ∧
      ¬ QuestRollsAgree openEnv (fun _ => true) 2 [1, 2] (questLoot true) (questLootRolls true)
        0 := by
  have htoRoll : ToRoll openEnv [1, 2] (questLoot true) 0 :=
    ⟨le_refl _, ⟨100, false, true, false, false, false, 0⟩, rfl, rfl, 1, by decide, rfl, rfl⟩
  constructor
  · exact htoRoll
  · rintro ⟨need, -, hgroupSlots, -⟩
    obtain ⟨roll, hroll, -⟩ := (hgroupSlots 0).mpr htoRoll
    cases hroll

end AzerothCore.LootRoll
