import AzerothCore.Collections.Reachability
import AzerothCore.Loot.Loot
import Mathlib.Data.List.Induction

/-!
# Filling and emptying a loot

`FillLoot` adds items, makes the lists of every player and counts what can be
looted. Looting, the master looter's gift and the end of a roll take items out
again. Each of them counts for itself.
-/

namespace AzerothCore.Looting

structure LootStoreItem where
  itemid : ℕ
  needs_quest : Bool
  conditions : List ℕ

namespace LootStoreItem

/-- The constructor of a `LootItem`. -/
def toLootItem (proto : ItemTemplate) (item : LootStoreItem) (count : ℕ) : LootItem where
  itemid := item.itemid
  conditions := item.conditions
  allowedGUIDs := []
  rollWinnerGUID := 0
  count := uint8 count
  is_looted := false
  is_blocked := false
  freeforall := proto.Flags &&& ITEM_FLAG_MULTI_DROP ≠ 0
  is_underthreshold := false
  is_counted := false
  needs_quest := item.needs_quest
  follow_loot_rules := proto.FlagsCu &&& ITEM_FLAGS_CU_FOLLOW_LOOT_RULES ≠ 0

end LootStoreItem

namespace Loot

variable (env : LootEnv)

def visibleFor (loot : Loot) (item : LootItem) (lookers : List ℕ) : Bool :=
  lookers.any fun looker => loot.allowed env item looker

/-- One turn of the loop of `AddItem`: one stack of the item is added and, if it
is for anybody and somebody can see it, counted. -/
def AddStack (loot : Loot) (proto : ItemTemplate) (item : LootStoreItem) (count : ℕ)
    (lookers : List ℕ) : Loot × Bool :=
  let generatedLoot := item.toLootItem proto count
  let counted := visibleFor env loot generatedLoot lookers &&
    (!item.needs_quest && item.conditions = [] && !generatedLoot.freeforall)
  let loot :=
    if item.needs_quest then
      { loot with quest_items := loot.quest_items ++ [generatedLoot] }
    else
      { loot with items := loot.items ++ [generatedLoot] }
  (if counted then { loot with unlootedCount := uint8 (loot.unlootedCount + 1) } else loot, counted)

def hasRoom (loot : Loot) (item : LootStoreItem) : Bool :=
  if item.needs_quest then loot.quest_items.length < MAX_NR_QUEST_ITEMS
  else loot.items.length < MAX_NR_LOOT_ITEMS

def FillFFALoot (loot : Loot) (player : ℕ) : Loot :=
  let ql := loot.items.zipIdx.filterMap fun (item, i) =>
    if !item.is_looted && item.freeforall &&
        env.AllowedForPlayer item player loot.containerGUID then
      some (QuestItem.mk (uint8 i) false)
    else
      none
  if ql = [] then
    loot
  else
    { loot with
      PlayerFFAItems := loot.PlayerFFAItems.insert player ql
      unlootedCount := uint8 (loot.unlootedCount + ql.length) }

/-- The loop of `FillQuestLoot`: the quest items afterwards and the list. `room`
more entries may be listed. -/
def questFill (player lootOwner source : ℕ) : ℕ → ℕ → List LootItem → List LootItem × List QuestItem
  | _, _, [] => ([], [])
  | room, i, item :: quest_items =>
    if item.is_blocked || !env.AllowedForPlayer item player source then
      let (quest_items, ql) := questFill player lootOwner source room (i + 1) quest_items
      (item :: quest_items, ql)
    else if !item.freeforall && lootOwner ≠ player &&
        env.AllowedForPlayer item lootOwner source then
      let (quest_items, ql) := questFill player lootOwner source room (i + 1) quest_items
      (item :: quest_items, ql)
    else
      let blocked := if item.freeforall then item else { item with is_blocked := true }
      if room ≤ 1 then
        (blocked :: quest_items, [⟨uint8 i, false⟩])
      else
        let (quest_items, ql) := questFill player lootOwner source (room - 1) (i + 1) quest_items
        (blocked :: quest_items, ⟨uint8 i, false⟩ :: ql)

def FillQuestLoot (loot : Loot) (player : ℕ) : Loot :=
  if loot.items.length = MAX_NR_LOOT_ITEMS then
    loot
  else
    let lootOwner := if loot.roundRobinPlayer ≠ 0 then loot.roundRobinPlayer else player
    let (quest_items, ql) := questFill env player lootOwner loot.sourceWorldObjectGUID
      (MAX_NR_LOOT_ITEMS - loot.items.length) 0 loot.quest_items
    if ql = [] then
      loot
    else
      { loot with
        quest_items := quest_items
        PlayerQuestItems := loot.PlayerQuestItems.insert player ql
        unlootedCount := uint8 (loot.unlootedCount + ql.length) }

/-- An item the conditional walk of `player` stops at. -/
def conditionalFor (loot : Loot) (player : ℕ) (item : LootItem) : Bool :=
  !item.is_looted && !item.freeforall && loot.allowed env item player

def FillNonQuestNonFFAConditionalLoot (loot : Loot) (player : ℕ) : Loot :=
  let listed := fun (item : LootItem) => conditionalFor env loot player item && item.conditions ≠ []
  let ql := loot.items.zipIdx.filterMap fun (item, i) =>
    if listed item then some (QuestItem.mk (uint8 i) false) else none
  let counted := loot.items.countP fun item => listed item && !item.is_counted
  let loot := { loot with
    items := loot.items.map fun item =>
      if conditionalFor env loot player item then
        { item with
          allowedGUIDs := item.allowedGUIDs.insert player
          is_counted := item.is_counted || item.conditions ≠ [] }
      else
        item
    unlootedCount := uint8 (loot.unlootedCount + counted) }
  if ql = [] then
    loot
  else
    { loot with
      PlayerNonQuestNonFFAConditionalItems :=
        loot.PlayerNonQuestNonFFAConditionalItems.insert player ql }

/-- The checks of `StoreLootItem`: what the player takes from a slot, if
anything. -/
def storeTarget (loot : Loot) (lootSlot player : ℕ) : Option SlotItem :=
  match loot.LootItemInSlot env lootSlot player with
  | none => none
  | some found =>
    match loot.get found.ref with
    | none => none
    | some item =>
      if item.is_looted then
        none
      else if !item.is_underthreshold && loot.roundRobinPlayer ≠ 0 &&
          !env.LootGUIDIsItem player && env.HasMasterLoot player &&
          !env.isMasterLooter player &&
          (found.qitem = none && found.ffaitem = none && found.conditem = none) then
        none
      else if !loot.allowed env item player then
        none
      else if found.qitem = none && item.is_blocked then
        none
      else if item.rollWinnerGUID ≠ 0 && item.rollWinnerGUID ≠ player then
        none
      else if env.CanStoreNewItem player item.itemid item.count then
        some found
      else
        none

def markEntry (map : StdMap ℕ (List QuestItem)) (player : ℕ) (position : Option ℕ) :
    StdMap ℕ (List QuestItem) :=
  match position, map.find? player with
  | some position, some list =>
    map.insert player (list.modify position fun entry => { entry with is_looted := true })
  | _, _ => map

/-- What `StoreLootItem` changes when the item is stored. -/
def storeFound (loot : Loot) (found : SlotItem) (player : ℕ) : Loot :=
  let loot := { loot with
    PlayerQuestItems := markEntry loot.PlayerQuestItems player found.qitem
    PlayerFFAItems := markEntry loot.PlayerFFAItems player found.ffaitem
    PlayerNonQuestNonFFAConditionalItems :=
      markEntry loot.PlayerNonQuestNonFFAConditionalItems player found.conditem }
  let loot := loot.modify
    (fun item => if item.freeforall then item else { item with is_looted := true }) found.ref
  { loot with unlootedCount := uint8 (loot.unlootedCount + 255) }

def StoreLootItem (loot : Loot) (lootSlot player : ℕ) : Loot :=
  match storeTarget env loot lootSlot player with
  | none => loot
  | some found => loot.storeFound found player

def rollItem (loot : Loot) (itemSlot : ℕ) : ItemRef :=
  if itemSlot ≥ loot.items.length then .quest (itemSlot - loot.items.length) else .item itemSlot

def rollStored (loot : Loot) (itemSlot : ℕ) : Loot :=
  let loot := loot.modify (fun item => { item with is_looted := true }) (loot.rollItem itemSlot)
  { loot with unlootedCount := uint8 (loot.unlootedCount + 255) }

def rollKept (loot : Loot) (itemSlot winner : ℕ) : Loot :=
  loot.modify (fun item => { item with is_blocked := false, rollWinnerGUID := winner })
    (loot.rollItem itemSlot)

def rollPassed (loot : Loot) (itemSlot : ℕ) : Loot :=
  loot.modify (fun item => { item with is_blocked := false }) (loot.rollItem itemSlot)

def rollStarted (loot : Loot) (itemSlot : ℕ) : Loot :=
  loot.modify (fun item => { item with is_blocked := true }) (loot.rollItem itemSlot)

def markUnderthreshold (loot : Loot) (threshold : ℕ) : Loot :=
  { loot with
    items := loot.items.map fun item =>
      match env.GetItemTemplate item.itemid with
      | none => item
      | some proto =>
        if proto.Quality < threshold then { item with is_underthreshold := true } else item }

end Loot

/-- A loot with the indices of the items `AddItem` has counted. -/
structure CountedLoot where
  loot : Loot
  counted : List ℕ

namespace CountedLoot

variable (env : LootEnv)

/-- One stack of the loop of `AddItem`. -/
def AddStack (state : CountedLoot) (proto : ItemTemplate) (item : LootStoreItem) (count : ℕ)
    (lookers : List ℕ) : CountedLoot :=
  if state.loot.hasRoom item then
    let (loot, counted) := state.loot.AddStack env proto item count lookers
    ⟨loot, if counted then state.loot.items.length :: state.counted else state.counted⟩
  else
    state

/-- The stacks of `count` pieces: full ones and the rest. -/
def stackSizes (maxStackSize count : ℕ) : List ℕ :=
  (List.range (count / maxStackSize + if count % maxStackSize ≠ 0 then 1 else 0)).map fun i =>
    min (count - i * maxStackSize) maxStackSize

def AddItem (lookers : List ℕ) (state : CountedLoot) (item : LootStoreItem × ℕ) : CountedLoot :=
  match env.GetItemTemplate item.1.itemid with
  | none => state
  | some proto =>
    (stackSizes proto.MaxStackSize item.2).foldl
      (fun state size => state.AddStack env proto item.1 size lookers) state

def lift (f : Loot → Loot) (state : CountedLoot) : CountedLoot := { state with loot := f state.loot }

end CountedLoot

def clearedLoot (gold containerGUID sourceWorldObjectGUID : ℕ) : Loot where
  items := []
  quest_items := []
  gold := gold
  unlootedCount := 0
  roundRobinPlayer := 0
  lootOwnerGUID := 0
  containerGUID := containerGUID
  sourceWorldObjectGUID := sourceWorldObjectGUID
  PlayerQuestItems := .empty
  PlayerFFAItems := .empty
  PlayerNonQuestNonFFAConditionalItems := .empty

end AzerothCore.Looting

/-!
## What is outstanding in a loot

An item that was counted for everybody is outstanding until it is looted, an
entry of a player until it or its item is. The counter of a loot is to be the
number of both.
-/

namespace AzerothCore.Looting
open List Option StdMap

section Counting

variable {α : Type*}

theorem countP_modify (f : α → α) (p : α → Bool) {list : List α} {index : ℕ} {a : α}
    (hget : list[index]? = some a) :
    (list.modify index f).countP p + (if p a then 1 else 0) =
      list.countP p + (if p (f a) then 1 else 0) := by
  induction list generalizing index with
  | nil => cases hget
  | cons head list ih =>
    cases index with
    | zero =>
      cases hget
      rw [modify_zero_cons, countP_cons, countP_cons]
      omega
    | succ index =>
      have hrest := ih hget
      rw [modify_succ_cons, countP_cons, countP_cons]
      omega

theorem countP_update {p q : α → Bool} {list : List α} {a : α} (hnodup : list.Nodup)
    (hmem : a ∈ list) (hsame : ∀ b ∈ list, b ≠ a → p b = q b) :
    list.countP q + (if p a then 1 else 0) = list.countP p + (if q a then 1 else 0) := by
  induction list with
  | nil => exact absurd hmem not_mem_nil
  | cons head list ih =>
    rw [nodup_cons] at hnodup
    obtain ⟨hfresh, hnodup⟩ := hnodup
    rw [countP_cons, countP_cons]
    by_cases hhead : a = head
    · subst hhead
      have hrest : list.countP p = list.countP q := by
        apply countP_congr
        intro b hb
        rw [hsame b (mem_cons_of_mem _ hb) fun heq => hfresh (heq ▸ hb)]
      omega
    · have htail := mem_of_ne_of_mem hhead hmem
      have hrest := ih hnodup htail fun b hb hne => hsame b (mem_cons_of_mem _ hb) hne
      have hfirst := hsame head mem_cons_self fun heq => hhead heq.symm
      rw [hfirst]
      omega

theorem countP_range_getElem? (p : α → Bool) (list : List α) :
    (List.range list.length).countP (fun index => list[index]?.any p) = list.countP p := by
  induction list using List.reverseRecOn with
  | nil => rfl
  | append_singleton list a ih =>
    rw [length_append, length_singleton, range_succ, countP_append, countP_append, ← ih]
    congr 1
    · apply countP_congr
      intro index hmem
      rw [List.getElem?_append_left (mem_range.mp hmem)]
    · rw [countP_singleton, countP_singleton, List.getElem?_concat_length]
      rfl

theorem countP_split (p q : α → Bool) (list : List α) :
    list.countP p = list.countP (fun a => p a && q a) + list.countP (fun a => p a && !q a) := by
  induction list with
  | nil => rfl
  | cons head list ih =>
    rw [countP_cons, countP_cons, countP_cons, ih]
    cases p head <;> cases q head <;> simp <;> omega

end Counting

/-! ## Entries of the players -/

def entryCount (p : QuestItem → Bool) (map : StdMap ℕ (List QuestItem)) : ℕ :=
  map.sumValues (List.countP p)

section Entries

variable {map : StdMap ℕ (List QuestItem)} {player : ℕ} {list : List QuestItem}
  {p q : QuestItem → Bool}

theorem entryCount_insert (p : QuestItem → Bool) (list : List QuestItem)
    (hfind : map.find? player = none) :
    entryCount p (map.insert player list) = list.countP p + entryCount p map :=
  sumValues_insert_of_not_mem list _ hfind

theorem entryCount_congr
    (hcongr : ∀ player list, map.find? player = some list → ∀ entry ∈ list, p entry = q entry) :
    entryCount p map = entryCount q map := by
  refine sumValues_congr fun player list hfind => countP_congr fun entry hmem => ?_
  rw [hcongr player list hfind entry hmem]

theorem entryCount_split (p q : QuestItem → Bool) (map : StdMap ℕ (List QuestItem)) :
    entryCount p map = entryCount (fun entry => p entry && q entry) map +
        entryCount (fun entry => p entry && !q entry) map := by
  rw [entryCount, entryCount, entryCount, ← sumValues_add]
  exact sumValues_congr fun _ list _ => countP_split p q list

theorem countP_le_entryCount (hfind : map.find? player = some list) :
    list.countP p ≤ entryCount p map := by
  rw [entryCount, ← sumValues_erase (List.countP p) hfind]
  exact Nat.le_add_right _ _

theorem entryCount_markEntry {position : ℕ} {entry : QuestItem} (p : QuestItem → Bool)
    (hfind : map.find? player = some list) (hentry : list[position]? = some entry) :
    entryCount p (Loot.markEntry map player (some position)) + (if p entry then 1 else 0) =
      entryCount p map + (if p { entry with is_looted := true } then 1 else 0) := by
  have hmodify := countP_modify (fun entry : QuestItem => { entry with is_looted := true }) p
    hentry
  unfold Loot.markEntry
  rw [hfind]
  rw [entryCount, sumValues_insert, entryCount, ← sumValues_erase _ hfind]
  omega

theorem find?_markEntry {position : Option ℕ} {other : ℕ} {marked : List QuestItem}
    (hmarked : (Loot.markEntry map player position).find? other = some marked) :
    ∃ list, map.find? other = some list ∧ marked.map QuestItem.index = list.map QuestItem.index ∧
      ∀ entry ∈ marked, entry ∈ list ∨
        (other = player ∧ ∃ position' unmarked, position = some position' ∧
          list[position']? = some unmarked ∧ entry = { unmarked with is_looted := true }) := by
  unfold Loot.markEntry at hmarked
  split at hmarked
  case h_2 => exact ⟨marked, hmarked, rfl, fun _ hmem => .inl hmem⟩
  rename_i position list hfind
  rw [find?_insert] at hmarked
  split at hmarked
  case isFalse => exact ⟨marked, hmarked, rfl, fun _ hmem => .inl hmem⟩
  rename_i heq
  subst heq
  cases hmarked
  refine ⟨list, hfind, ?_, ?_⟩
  · apply ext_getElem?
    intro index
    rw [List.getElem?_map, List.getElem?_map, List.getElem?_modify]
    rcases list[index]? with _ | entry
    · rfl
    split
    · rfl
    · rfl
  · intro entry hmem
    obtain ⟨index, hentry⟩ := mem_iff_getElem?.mp hmem
    rw [List.getElem?_modify] at hentry
    obtain ⟨unmarked, hunmarked, hentry⟩ := map_eq_some_iff.mp hentry
    by_cases hpos : position = index
    · subst hpos
      rw [if_pos rfl] at hentry
      exact .inr ⟨rfl, _, unmarked, rfl, hunmarked, hentry.symm⟩
    · rw [if_neg hpos] at hentry
      obtain rfl := hentry
      exact .inl (mem_of_getElem? hunmarked)

end Entries

/-! ## The number of outstanding entries -/

def isOut (items : List LootItem) (entry : QuestItem) : Bool :=
  items[entry.index]?.any (outstanding entry)

def countedAt (items : List LootItem) (counted : List ℕ) (index : ℕ) : Bool :=
  items[index]?.any fun item =>
    (index ∈ counted || item.is_counted) && !item.freeforall && !item.is_looted

def countedItems (items : List LootItem) (counted : List ℕ) : ℕ :=
  (List.range items.length).countP (countedAt items counted)

def outstandingCount (state : CountedLoot) : ℕ :=
  countedItems state.loot.items state.counted +
    entryCount (isOut state.loot.items) state.loot.PlayerFFAItems +
    entryCount (isOut state.loot.quest_items) state.loot.PlayerQuestItems

def outstandingOf (state : CountedLoot) : ItemRef → ℕ
  | .item index =>
    (if countedAt state.loot.items state.counted index then 1 else 0) +
      entryCount (fun entry => isOut state.loot.items entry && entry.index = index)
        state.loot.PlayerFFAItems
  | .quest index =>
    entryCount (fun entry => isOut state.loot.quest_items entry && entry.index = index)
      state.loot.PlayerQuestItems

section Marking

variable {items : List LootItem} {counted : List ℕ} {index : ℕ} {f : LootItem → LootItem}

section

variable (hlooted : ∀ item, (f item).is_looted = true)
include hlooted

theorem isOut_modify (entry : QuestItem) :
    isOut (items.modify index f) entry = (isOut items entry && !decide (entry.index = index)) := by
  rw [isOut, isOut, List.getElem?_modify]
  rcases items[entry.index]? with _ | item
  · rfl
  by_cases heq : index = entry.index
  · simp [heq, outstanding, hlooted]
  · simp [heq, Ne.symm heq]

theorem entryCount_modify (map : StdMap ℕ (List QuestItem)) :
    entryCount (isOut (items.modify index f)) map +
        entryCount (fun entry => isOut items entry && entry.index = index) map =
      entryCount (isOut items) map := by
  have hsplit := entryCount_split (isOut items) (fun entry => entry.index = index) map
  have hmodify : entryCount (isOut (items.modify index f)) map =
      entryCount (fun entry => isOut items entry && !decide (entry.index = index)) map :=
    entryCount_congr fun _ _ _ entry _ => isOut_modify hlooted entry
  omega

theorem countedItems_modify (hlt : index < items.length) :
    countedItems (items.modify index f) counted + (if countedAt items counted index then 1 else 0) =
      countedItems items counted := by
  have hgone : countedAt (items.modify index f) counted index = false := by
    rw [countedAt, List.getElem?_modify_eq, List.getElem?_eq_getElem hlt]
    simp [hlooted]
  have hupdate := @countP_update _ (countedAt items counted)
    (countedAt (items.modify index f) counted) (List.range items.length) index nodup_range
    (mem_range.mpr hlt) (fun other _ hne => by
      rw [countedAt, countedAt, List.getElem?_modify_ne _ _ (Ne.symm hne)])
  rw [hgone, if_neg Bool.false_ne_true, Nat.add_zero] at hupdate
  rw [countedItems, countedItems, List.length_modify]
  exact hupdate

end

/-- Other changes leave what is outstanding alone. -/
theorem isOut_congr {items' : List LootItem}
    (hsame : ∀ index : ℕ,
      items'[index]?.map LootItem.is_looted = items[index]?.map LootItem.is_looted) :
    isOut items' = isOut items := by
  funext entry
  have hitem := hsame entry.index
  rw [isOut, isOut]
  cases hleft : items'[entry.index]? with
  | none =>
    rw [hleft] at hitem
    cases hright : items[entry.index]? with
    | none => rfl
    | some item =>
      rw [hright] at hitem
      cases hitem
  | some item' =>
    rw [hleft] at hitem
    rcases hright : items[entry.index]? with _ | item
    · rw [hright] at hitem
      cases hitem
    rw [hright] at hitem
    have hlooted : item'.is_looted = item.is_looted := some.inj hitem
    rw [any_some, any_some, outstanding, outstanding, hlooted]

end Marking

end AzerothCore.Looting

/-!
## The counter of a loot over its runs

As long as each operation takes out one outstanding entry where it counts one, and
none where it counts none, the counter is the number of outstanding entries.
-/

namespace AzerothCore.Looting

open Option Bool List
open AzerothCore.Reachability

/-- The operations on a loot: the steps of `FillLoot`, and what follows it. -/
inductive LootOp where
  | setOwner (player : ℕ)
  | setRoundRobin (player : ℕ)
  | addStack (env : LootEnv) (proto : ItemTemplate) (item : LootStoreItem) (count : ℕ)
      (lookers : List ℕ)
  | fillQuest (env : LootEnv) (player : ℕ)
  | fillFFA (env : LootEnv) (player : ℕ)
  | fillConditional (env : LootEnv) (player : ℕ)
  | underthreshold (env : LootEnv) (threshold : ℕ)
  /-- `FillLoot` returns. -/
  | filled
  | store (env : LootEnv) (lootSlot player : ℕ)
  | give (env : LootEnv) (slotid target : ℕ)
  | rollStarted (itemSlot : ℕ)
  | rollStored (itemSlot : ℕ)
  | rollKept (itemSlot winner : ℕ)
  | rollPassed (itemSlot : ℕ)
  | view (env : LootEnv) (viewer : ℕ) (permission : PermissionTypes)
  | lootMoney

structure LootRun where
  state : CountedLoot
  filled : Bool

/-- A list is made for a player who has none. -/
def unlessListed (map : StdMap ℕ (List QuestItem)) (player : ℕ) (fill : Loot → Loot)
    (loot : Loot) : Loot :=
  if map.find? player = none then fill loot else loot

variable (env : LootEnv)

/-- `HandleLootMasterGiveOpcode`, which changes nothing where it refuses. -/
def Loot.give (slotid target : ℕ) (loot : Loot) : Loot :=
  match loot.HandleLootMasterGive env slotid target with
  | none => loot
  | some (_, loot) => loot

def CountedLoot.apply (state : CountedLoot) : LootOp → CountedLoot
  | .setOwner player => state.lift fun loot => { loot with lootOwnerGUID := player }
  | .setRoundRobin player => state.lift fun loot => { loot with roundRobinPlayer := player }
  | .addStack env proto item count lookers => state.AddStack env proto item count lookers
  | .fillQuest env player =>
    state.lift (unlessListed state.loot.PlayerQuestItems player (Loot.FillQuestLoot env · player))
  | .fillFFA env player =>
    state.lift (unlessListed state.loot.PlayerFFAItems player (Loot.FillFFALoot env · player))
  | .fillConditional env player =>
    state.lift (unlessListed state.loot.PlayerNonQuestNonFFAConditionalItems player
      (Loot.FillNonQuestNonFFAConditionalLoot env · player))
  | .underthreshold env threshold => state.lift (Loot.markUnderthreshold env · threshold)
  | .filled => state
  | .store env lootSlot player => state.lift (Loot.StoreLootItem env · lootSlot player)
  | .give env slotid target => state.lift (Loot.give env slotid target)
  | .rollStarted itemSlot => state.lift (Loot.rollStarted · itemSlot)
  | .rollStored itemSlot => state.lift (Loot.rollStored · itemSlot)
  | .rollKept itemSlot winner => state.lift (Loot.rollKept · itemSlot winner)
  | .rollPassed itemSlot => state.lift (Loot.rollPassed · itemSlot)
  | .view env viewer permission => state.lift fun loot => (Loot.view env viewer permission loot).2
  | .lootMoney => state.lift fun loot => { loot with gold := 0 }

/-- The operations `FillLoot` consists of. -/
def LootOp.isFill : LootOp → Bool
  | .setOwner _ => true
  | .setRoundRobin _ => true
  | .addStack .. => true
  | .fillQuest .. => true
  | .fillFFA .. => true
  | .fillConditional .. => true
  | .underthreshold .. => true
  | .store .. => true
  | .filled => true
  | _ => false

def LootOp.isUse : LootOp → Bool
  | .setRoundRobin _ => true
  | .store .. => true
  | .give .. => true
  | .rollStarted _ => true
  | .rollStored _ => true
  | .rollKept .. => true
  | .rollPassed _ => true
  | .view .. => true
  | .lootMoney => true
  | _ => false

def LootRun.step (run : LootRun) (op : LootOp) : Option LootRun :=
  if run.filled then
    if op.isUse then some ⟨run.state.apply op, true⟩ else none
  else if op.isFill then
    some ⟨run.state.apply op, match op with
      | .filled => true
      | _ => false⟩
  else
    none

/-! ## The steps that keep the count -/

def Claimed (state : CountedLoot) (found : Loot.SlotItem) : Prop :=
  match found.ref with
  | .quest _ => True
  | .item index => ∀ item, state.loot.items[index]? = some item →
      if item.freeforall then found.ffaitem ≠ none
      else (index ∈ state.counted || item.is_counted) = true

/-- `AddItem` counts a stack that anybody may have and somebody can see. -/
def countsStack (loot : Loot) (proto : ItemTemplate) (item : LootStoreItem)
    (count : ℕ) (lookers : List ℕ) : Bool :=
  Loot.visibleFor env loot (item.toLootItem proto count) lookers &&
    (!item.needs_quest && item.conditions = [] && !(item.toLootItem proto count).freeforall)

def ffaListed (loot : Loot) (player : ℕ) (item : LootItem) : Bool :=
  !item.is_looted && item.freeforall && env.AllowedForPlayer item player loot.containerGUID

def questListed (player lootOwner source : ℕ) (item : LootItem) : Bool :=
  !(item.is_blocked || !env.AllowedForPlayer item player source) &&
    !(!item.freeforall && lootOwner ≠ player && env.AllowedForPlayer item lootOwner source)

def conditionalListed (loot : Loot) (player : ℕ) (item : LootItem) : Bool :=
  Loot.conditionalFor env loot player item && item.conditions ≠ []

def newEntries (loot : Loot) : LootOp → ℕ
  | .addStack env proto item count lookers =>
    if loot.hasRoom item && countsStack env loot proto item count lookers then 1 else 0
  | .fillQuest env player =>
    if loot.PlayerQuestItems.find? player = none then
      min (MAX_NR_LOOT_ITEMS - loot.items.length) (loot.quest_items.countP
        (questListed env player
          (if loot.roundRobinPlayer ≠ 0 then loot.roundRobinPlayer else player)
          loot.sourceWorldObjectGUID))
    else 0
  | .fillFFA env player =>
    if loot.PlayerFFAItems.find? player = none then
      loot.items.countP (ffaListed env loot player)
    else 0
  | .fillConditional env player =>
    if loot.PlayerNonQuestNonFFAConditionalItems.find? player = none then
      loot.items.countP fun item => conditionalListed env loot player item && !item.is_counted
    else 0
  | _ => 0

/-- An operation that fills leaves no more entries than the counter can hold.
One that counts an item out takes one outstanding entry with it. A window hides
no quest item. -/
def Clean (run : LootRun) : LootOp → Prop
  | .store env lootSlot player => ∀ found,
      run.state.loot.storeTarget env lootSlot player = some found → Claimed run.state found
  | .give env slotid target => ∀ ref item,
      run.state.loot.masterGiveItem slotid = some ref → run.state.loot.get ref = some item →
      (env.CanStoreNewItem target item.itemid item.count &&
        run.state.loot.allowed env item target) = true →
      outstandingOf run.state ref = 1
  | .rollStored itemSlot => outstandingOf run.state (run.state.loot.rollItem itemSlot) = 1
  | .view env viewer permission => permission ≠ .NONE_PERMISSION →
      ∀ entry ∈ listOf run.state.loot.PlayerQuestItems viewer,
        hides env viewer run.state.loot.quest_items entry = false
  | op => outstandingCount run.state + newEntries run.state.loot op ≤ 255

theorem forall_eq_some_iff {α : Type*} {value : Option α} {p : α → Prop} [DecidablePred p] :
    (value.all fun a => decide (p a)) = true ↔ ∀ a, value = some a → p a := by
  cases value with
  | none => exact ⟨nofun, fun _ => rfl⟩
  | some a =>
    rw [all_some, decide_eq_true_eq]
    exact ⟨fun hp b h => some.inj h ▸ hp, fun hall => hall a rfl⟩

instance (state : CountedLoot) (found : Loot.SlotItem) : Decidable (Claimed state found) :=
  match href : found.ref with
  | .quest _ => .isTrue (by rw [Claimed, href]; trivial)
  | .item index =>
    decidable_of_iff ((state.loot.items[index]?.all fun item => decide
        (if item.freeforall then found.ffaitem ≠ none
          else (index ∈ state.counted || item.is_counted) = true)) = true) (by
      rw [Claimed, href]
      exact forall_eq_some_iff)

instance (run : LootRun) : DecidablePred (Clean run)
  | .store env lootSlot player => decidable_of_iff _ forall_eq_some_iff
  | .give env slotid target =>
    decidable_of_iff (((run.state.loot.masterGiveItem slotid).all fun ref =>
        (run.state.loot.get ref).all fun item => decide
          ((env.CanStoreNewItem target item.itemid item.count &&
            run.state.loot.allowed env item target) = true →
            outstandingOf run.state ref = 1)) = true) (by
      unfold Clean
      constructor
      · intro hall ref item hslot hitem
        rw [hslot, all_some] at hall
        exact forall_eq_some_iff.mp hall item hitem
      · intro hclean
        cases hslot : run.state.loot.masterGiveItem slotid with
        | none => rfl
        | some ref => exact forall_eq_some_iff.mpr fun item hitem => hclean ref item hslot hitem)
  | .rollStored itemSlot =>
    inferInstanceAs (Decidable (outstandingOf run.state (run.state.loot.rollItem itemSlot) = 1))
  | .view env viewer permission =>
    inferInstanceAs (Decidable (permission ≠ .NONE_PERMISSION →
      ∀ entry ∈ listOf run.state.loot.PlayerQuestItems viewer,
        hides env viewer run.state.loot.quest_items entry = false))
  | .setOwner _ => inferInstanceAs (Decidable (_ ≤ _))
  | .setRoundRobin _ => inferInstanceAs (Decidable (_ ≤ _))
  | .addStack .. => inferInstanceAs (Decidable (_ ≤ _))
  | .fillQuest .. => inferInstanceAs (Decidable (_ ≤ _))
  | .fillFFA .. => inferInstanceAs (Decidable (_ ≤ _))
  | .fillConditional .. => inferInstanceAs (Decidable (_ ≤ _))
  | .underthreshold .. => inferInstanceAs (Decidable (_ ≤ _))
  | .filled => inferInstanceAs (Decidable (_ ≤ _))
  | .rollStarted _ => inferInstanceAs (Decidable (_ ≤ _))
  | .rollKept .. => inferInstanceAs (Decidable (_ ≤ _))
  | .rollPassed _ => inferInstanceAs (Decidable (_ ≤ _))
  | .lootMoney => inferInstanceAs (Decidable (_ ≤ _))

structure Consistent (state : CountedLoot) : Prop where
  wf : WellFormed state.loot
  counted : ∀ index ∈ state.counted, ∃ item, state.loot.items[index]? = some item ∧
    item.conditions = []
  single : ∀ index item, state.loot.quest_items[index]? = some item → item.freeforall = false →
    entryCount (fun entry => entry.index = index) state.loot.PlayerQuestItems ≤ 1
  count : state.loot.unlootedCount = outstandingCount state
  bound : outstandingCount state ≤ 255

def Fresh (loot : Loot) : Prop :=
  ∀ index item, loot.quest_items[index]? = some item → item.is_blocked = false →
    item.is_looted = false ∧ (item.freeforall = false →
      entryCount (fun entry => entry.index = index) loot.PlayerQuestItems = 0)

section Looting

variable {env : LootEnv} {loot : Loot} {lootSlot player : ℕ} {found : Loot.SlotItem}

theorem entryLooted_spec {map : StdMap ℕ (List QuestItem)} {index position : ℕ} {item : LootItem}
    (hfound : (Loot.entryLooted (map.find? player) index item).1 = some position)
    (hlooted : (Loot.entryLooted (map.find? player) index item).2 = false) :
    ∃ list entry, map.find? player = some list ∧ list[position]? = some entry ∧
      entry.index = index ∧ entry.is_looted = false := by
  unfold Loot.entryLooted at hfound hlooted
  rcases hlist : map.find? player with _ | list
  · rw [hlist] at hfound
    cases hfound
  rw [hlist] at hfound hlooted
  dsimp only at hfound hlooted
  unfold Loot.findIndex at hfound hlooted
  rcases hpos : list.findIdx? fun entry => entry.index = index with _ | position'
  · rw [hpos] at hfound
    cases hfound
  rw [hpos] at hfound hlooted
  obtain rfl := some.inj hfound
  obtain ⟨hlt, hindex, -⟩ := findIdx?_eq_some_iff_getElem.mp hpos
  refine ⟨list, list[position'], rfl, getElem?_eq_getElem hlt, of_decide_eq_true hindex, ?_⟩
  dsimp only at hlooted
  rw [getElem?_eq_getElem hlt] at hlooted
  exact hlooted

theorem LootItemInSlot_cases (hfound : loot.LootItemInSlot env lootSlot player = some found) :
    (∃ list position entry item, loot.PlayerQuestItems.find? player = some list ∧
      list[position]? = some entry ∧ entry.is_looted = false ∧
      loot.quest_items[entry.index]? = some item ∧
      found = ⟨.quest entry.index, some position, none, none⟩) ∨
    (∃ item ffaitem, loot.items[lootSlot]? = some item ∧ item.freeforall = true ∧
      (∀ position, ffaitem = some position → ∃ list entry,
        loot.PlayerFFAItems.find? player = some list ∧ list[position]? = some entry ∧
        entry.index = lootSlot ∧ entry.is_looted = false) ∧
      found = ⟨.item lootSlot, none, ffaitem, none⟩) ∨
    (∃ item conditem, loot.items[lootSlot]? = some item ∧ item.freeforall = false ∧
      (∀ position, conditem = some position → ∃ list entry,
        loot.PlayerNonQuestNonFFAConditionalItems.find? player = some list ∧
        list[position]? = some entry ∧ entry.index = lootSlot ∧ entry.is_looted = false) ∧
      found = ⟨.item lootSlot, none, none, conditem⟩) := by
  unfold Loot.LootItemInSlot at hfound
  split at hfound
  · dsimp only at hfound
    split at hfound
    · cases hfound
    rename_i list hlist
    split at hfound
    · cases hfound
    rename_i entry hentry
    split at hfound
    · cases hfound
    rename_i item hitem
    split at hfound
    · cases hfound
    split at hfound
    · cases hfound
    rename_i hlooted
    exact .inl ⟨list, _, entry, item, hlist, hentry, eq_false_iff.mpr hlooted,
      hitem, (some.inj hfound).symm⟩
  · split at hfound
    · cases hfound
    rename_i item hitem
    split at hfound
    case isTrue hffa =>
      dsimp only at hfound
      split at hfound
      · cases hfound
      rename_i hlooted
      refine .inr (.inl ⟨item, _, hitem, hffa, fun position hpos => ?_, (some.inj hfound).symm⟩)
      exact entryLooted_spec hpos (eq_false_iff.mpr hlooted)
    case isFalse hffa =>
      have hffa := eq_false_iff.mpr hffa
      split at hfound
      · dsimp only at hfound
        split at hfound
        · cases hfound
        rename_i hlooted
        refine .inr (.inr ⟨item, _, hitem, hffa, fun position hpos => ?_, (some.inj hfound).symm⟩)
        exact entryLooted_spec hpos (eq_false_iff.mpr hlooted)
      · split at hfound
        · cases hfound
        exact .inr (.inr ⟨item, none, hitem, hffa, nofun, (some.inj hfound).symm⟩)

theorem storeTarget_spec (htarget : loot.storeTarget env lootSlot player = some found) :
    loot.LootItemInSlot env lootSlot player = some found ∧
      ∃ item, loot.get found.ref = some item ∧ item.is_looted = false := by
  unfold Loot.storeTarget at htarget
  split at htarget
  · cases htarget
  rename_i found' hfound
  split at htarget
  · cases htarget
  rename_i item hitem
  split at htarget
  · cases htarget
  rename_i hlooted
  have hsame : found' = found := by
    split at htarget
    · cases htarget
    split at htarget
    · cases htarget
    split at htarget
    · cases htarget
    split at htarget
    · cases htarget
    split at htarget
    · exact some.inj htarget
    · cases htarget
  subst hsame
  exact ⟨hfound, item, hitem, eq_false_iff.mpr hlooted⟩

theorem StoreLootItem_of_looted {item : LootItem}
    (hfound : loot.LootItemInSlot env lootSlot player = some found)
    (hitem : loot.get found.ref = some item) (hlooted : item.is_looted = true) :
    loot.StoreLootItem env lootSlot player = loot := by
  unfold Loot.StoreLootItem
  rcases htarget : loot.storeTarget env lootSlot player with _ | target
  · rfl
  obtain ⟨htarget, item', hitem', hnot⟩ := storeTarget_spec htarget
  rw [hfound] at htarget
  cases htarget
  rw [hitem] at hitem'
  cases hitem'
  rw [hlooted] at hnot
  cases hnot

end Looting

end AzerothCore.Looting

/-!
## Filling keeps the count

Every step of `FillLoot` adds to the counter what it adds to the outstanding
entries: a counted stack, the list of a player, or the conditional items nobody
has been counted for.
-/

namespace AzerothCore.Looting
open List Option

/-! ## Items that stay what they are -/

def core (item : LootItem) : Bool × Bool × List ℕ × Bool :=
  (item.is_looted, item.freeforall, item.conditions, item.is_counted)

def Kept (items items' : List LootItem) : Prop :=
  ∀ (index : ℕ) (item : LootItem), items[index]? = some item →
    ∃ item' : LootItem, items'[index]? = some item' ∧
    item'.freeforall = item.freeforall ∧ item'.conditions = item.conditions ∧
    (item.is_looted = true → item'.is_looted = true)

variable {kind : QuestItem → LootItem → Prop} {loot : Loot}

section Keeping

variable {items items' : List LootItem}

theorem Kept.refl (items : List LootItem) : Kept items items :=
  fun _ item hitem => ⟨item, hitem, rfl, rfl, id⟩

theorem Kept.append (items added : List LootItem) : Kept items (items ++ added) := by
  intro index item hitem
  have hlt := (List.getElem?_eq_some_iff.mp hitem).1
  exact ⟨item, (List.getElem?_append_left hlt).trans hitem, rfl, rfl, id⟩

variable {f : LootItem → LootItem}

theorem Kept.modify (items : List LootItem) (index : ℕ)
    (hffa : ∀ item, (f item).freeforall = item.freeforall)
    (hconds : ∀ item, (f item).conditions = item.conditions)
    (hlooted : ∀ item, item.is_looted = true → (f item).is_looted = true) :
    Kept items (items.modify index f) := by
  intro other item hitem
  rw [List.getElem?_modify, hitem]
  change ∃ item', some (if index = other then f item else item) = some item' ∧ _
  by_cases heq : index = other
  · rw [if_pos heq]
    exact ⟨f item, rfl, hffa item, hconds item, hlooted item⟩
  · rw [if_neg heq]
    exact ⟨item, rfl, rfl, rfl, id⟩

section

variable (hcore : items'.map core = items.map core)
include hcore

theorem getElem?_of_core {index : ℕ}
    {item : LootItem} (hitem : items[index]? = some item) :
    ∃ item', items'[index]? = some item' ∧ core item' = core item := by
  have hat : (items'.map core)[index]? = (items.map core)[index]? := by rw [hcore]
  rw [List.getElem?_map, List.getElem?_map, hitem, map_some] at hat
  exact map_eq_some_iff.mp hat

theorem Kept.of_core : Kept items items' := by
  intro index item hitem
  obtain ⟨item', hitem', heq⟩ := getElem?_of_core hcore hitem
  obtain ⟨hlooted, hffa, hconds, -⟩ : item'.is_looted = item.is_looted ∧
      item'.freeforall = item.freeforall ∧ item'.conditions = item.conditions ∧
      item'.is_counted = item.is_counted := by
    simpa only [core, Prod.mk.injEq] using heq
  exact ⟨item', hitem', hffa, hconds, fun h => hlooted.trans h⟩

theorem length_of_core : items'.length = items.length := by
  have hlen := congrArg List.length hcore
  rwa [length_map, length_map] at hlen

end

theorem map_core_modify (items : List LootItem) (index : ℕ)
    (hcore : ∀ item, core (f item) = core item) :
    (items.modify index f).map core = items.map core := by
  apply ext_getElem?
  intro other
  rw [List.getElem?_map, List.getElem?_map, List.getElem?_modify]
  rcases items[other]? with _ | item
  · rfl
  change some (core (if index = other then f item else item)) = some (core item)
  split
  · rw [hcore item]
  · rfl

theorem isOut_of_core (hcore : items'.map core = items.map core) : isOut items' = isOut items := by
  apply isOut_congr
  intro index
  have hlooted : ∀ list : List LootItem,
      list[index]?.map LootItem.is_looted = (list.map core)[index]?.map Prod.fst := by
    intro list
    rw [List.getElem?_map, Option.map_map]
    rfl
  rw [hlooted, hlooted, hcore]

theorem countedItems_of_core (counted : List ℕ) (hcore : items'.map core = items.map core) :
    countedItems items' counted = countedItems items counted := by
  have hat : ∀ (list : List LootItem) (index : ℕ), countedAt list counted index =
      (list.map core)[index]?.any fun item =>
        (index ∈ counted || item.2.2.2) && !item.2.1 && !item.1 := by
    intro list index
    rw [List.getElem?_map, Option.any_map]
    rfl
  rw [countedItems, countedItems, length_of_core hcore]
  apply countP_congr
  intro index _
  rw [hat, hat, hcore]

theorem PointsTo.kept {list : List QuestItem} (hpoints : PointsTo items list kind)
    (hkept : Kept items items')
    (hkind : ∀ entry item item', item'.freeforall = item.freeforall →
      item'.conditions = item.conditions → (item.is_looted = true → item'.is_looted = true) →
      kind entry item → kind entry item') : PointsTo items' list kind := by
  refine ⟨hpoints.nodup, fun entry hmem => ?_⟩
  obtain ⟨item, hitem, hold⟩ := hpoints.mem entry hmem
  obtain ⟨item', hitem', hffa, hconds, hlooted⟩ := hkept entry.index item hitem
  exact ⟨item', hitem', hkind entry item item' hffa hconds hlooted hold⟩

theorem WellFormed.kept {loot' : Loot} (hwf : WellFormed loot)
    (hitems : Kept loot.items loot'.items) (hquest : Kept loot.quest_items loot'.quest_items)
    (hitems_le : loot'.items.length ≤ MAX_NR_LOOT_ITEMS)
    (hquest_le : loot'.quest_items.length ≤ MAX_NR_QUEST_ITEMS)
    (hquestLists : loot'.PlayerQuestItems = loot.PlayerQuestItems)
    (hffaLists : loot'.PlayerFFAItems = loot.PlayerFFAItems)
    (hconditionalLists : loot'.PlayerNonQuestNonFFAConditionalItems =
      loot.PlayerNonQuestNonFFAConditionalItems) : WellFormed loot' where
  items_le := hitems_le
  quest_items_le := hquest_le
  quest := by
    intro player list hfind
    rw [hquestLists] at hfind
    exact (hwf.quest player list hfind).kept hquest fun _ _ _ _ _ _ _ => trivial
  ffa := by
    intro player list hfind
    rw [hffaLists] at hfind
    apply (hwf.ffa player list hfind).kept hitems
    intro _ item item' hffa _ _ hold
    exact hffa.trans hold
  conditional := by
    intro player list hfind
    rw [hconditionalLists] at hfind
    apply (hwf.conditional player list hfind).kept hitems
    rintro entry item item' hffa hconds hlooted ⟨hnotFfa, hnonempty, hmarked⟩
    exact ⟨hffa.trans hnotFfa, hconds ▸ hnonempty, fun h => hlooted (hmarked h)⟩

end Keeping

section Quiet

variable {state state' : CountedLoot}

structure Quiet (state state' : CountedLoot) : Prop where
  items : state'.loot.items.map core = state.loot.items.map core
  quest_items : state'.loot.quest_items.map core = state.loot.quest_items.map core
  quest : state'.loot.PlayerQuestItems = state.loot.PlayerQuestItems
  ffa : state'.loot.PlayerFFAItems = state.loot.PlayerFFAItems
  conditional : state'.loot.PlayerNonQuestNonFFAConditionalItems =
    state.loot.PlayerNonQuestNonFFAConditionalItems
  counter : state'.loot.unlootedCount = state.loot.unlootedCount
  counted : state'.counted = state.counted

theorem Quiet.outstandingCount (hquiet : Quiet state state') :
    outstandingCount state' = outstandingCount state := by
  rw [Looting.outstandingCount, Looting.outstandingCount, hquiet.counted, hquiet.ffa,
    hquiet.quest, isOut_of_core hquiet.items, isOut_of_core hquiet.quest_items,
    countedItems_of_core state.counted hquiet.items]

theorem Consistent.quiet (hold : Consistent state) (hquiet : Quiet state state') :
    Consistent state' where
  wf := by
    apply hold.wf.kept (Kept.of_core hquiet.items) (Kept.of_core hquiet.quest_items) _ _
      hquiet.quest hquiet.ffa hquiet.conditional
    · rw [length_of_core hquiet.items]
      exact hold.wf.items_le
    · rw [length_of_core hquiet.quest_items]
      exact hold.wf.quest_items_le
  counted := by
    intro index hmem
    rw [hquiet.counted] at hmem
    obtain ⟨item, hitem, hconds⟩ := hold.counted index hmem
    obtain ⟨item', hitem', -, hsame, -⟩ := Kept.of_core hquiet.items index item hitem
    exact ⟨item', hitem', hsame.trans hconds⟩
  single := by
    intro index item hitem hffa
    rw [hquiet.quest]
    obtain ⟨item', hitem', hffa', -⟩ := Kept.of_core hquiet.quest_items.symm index item hitem
    exact hold.single index item' hitem' (hffa'.trans hffa)
  count := by rw [hquiet.counter, hquiet.outstandingCount, hold.count]
  bound := by rw [hquiet.outstandingCount]; exact hold.bound

end Quiet

variable {map : StdMap ℕ (List QuestItem)}

section Stacks

variable {env : LootEnv} {state : CountedLoot} {proto : ItemTemplate} {item : LootStoreItem}
  {count : ℕ} {lookers : List ℕ}

theorem AddStack_cases (env : LootEnv) (state : CountedLoot) (proto : ItemTemplate)
    (item : LootStoreItem) (count : ℕ) (lookers : List ℕ) :
    state.AddStack env proto item count lookers = state ∨
    (state.loot.quest_items.length < MAX_NR_QUEST_ITEMS ∧
      state.AddStack env proto item count lookers = state.lift fun loot =>
          { loot with quest_items := loot.quest_items ++ [item.toLootItem proto count] }) ∨
    (state.loot.items.length < MAX_NR_LOOT_ITEMS ∧ state.AddStack env proto item count lookers =
        state.lift fun loot =>
          { loot with items := loot.items ++ [item.toLootItem proto count] }) ∨
    (state.loot.items.length < MAX_NR_LOOT_ITEMS ∧ item.conditions = [] ∧
      (item.toLootItem proto count).freeforall = false ∧
      newEntries state.loot (.addStack env proto item count lookers) = 1 ∧
      state.AddStack env proto item count lookers = ⟨{ state.loot with
            items := state.loot.items ++ [item.toLootItem proto count]
            unlootedCount := uint8 (state.loot.unlootedCount + 1) },
          state.loot.items.length :: state.counted⟩) := by
  unfold CountedLoot.AddStack
  split
  case isFalse => exact .inl rfl
  rename_i hhasRoom
  have hroom := hhasRoom
  unfold Loot.hasRoom at hroom
  cases hquest : item.needs_quest with
  | true =>
    rw [hquest, if_pos rfl] at hroom
    refine .inr (.inl ⟨of_decide_eq_true hroom, ?_⟩)
    simp only [Loot.AddStack, hquest, Bool.not_true, Bool.false_and, Bool.and_false]
    rfl
  | false =>
    rw [hquest, if_neg Bool.false_ne_true] at hroom
    have hroom := of_decide_eq_true hroom
    simp only [Loot.AddStack, hquest, Bool.not_false, Bool.true_and]
    by_cases hcounted : (Loot.visibleFor env state.loot (item.toLootItem proto count) lookers &&
        (item.conditions = [] && !(item.toLootItem proto count).freeforall)) = true
    · have hnew : newEntries state.loot (.addStack env proto item count lookers) = 1 := by
        rw [newEntries, countsStack, hquest, Bool.not_false, Bool.true_and, hcounted, hhasRoom,
          Bool.and_self, if_pos rfl]
      rw [hcounted]
      rw [Bool.and_eq_true, Bool.and_eq_true] at hcounted
      obtain ⟨-, hconds, hffa⟩ := hcounted
      exact .inr (.inr (.inr ⟨hroom, of_decide_eq_true hconds, by simpa using hffa, hnew, rfl⟩))
    · rw [Bool.eq_false_iff.mpr hcounted]
      exact .inr (.inr (.inl ⟨hroom, rfl⟩))

theorem isOut_append (items added : List LootItem) {entry : QuestItem}
    (hlt : entry.index < items.length) : isOut (items ++ added) entry = isOut items entry := by
  rw [isOut, isOut, List.getElem?_append_left hlt]

theorem entryCount_isOut_append {items : List LootItem} (added : List LootItem)
    (hlists : ∀ player list, map.find? player = some list → PointsTo items list kind) :
    entryCount (isOut (items ++ added)) map = entryCount (isOut items) map := by
  apply entryCount_congr
  intro player list hfind entry hmem
  obtain ⟨item, hitem, -⟩ := (hlists player list hfind).mem entry hmem
  exact isOut_append items added (List.getElem?_eq_some_iff.mp hitem).1

theorem entryCount_false : entryCount (fun _ => false) map = 0 := by
  rw [entryCount, countP_false, StdMap.sumValues]
  apply sum_eq_zero
  intro value hmem
  obtain ⟨pair, -, rfl⟩ := List.mem_map.mp hmem
  rfl

theorem entryCount_of_length_le {items : List LootItem} {index : ℕ}
    (hlists : ∀ player list, map.find? player = some list → PointsTo items list kind)
    (hle : items.length ≤ index) : entryCount (fun entry => entry.index = index) map = 0 := by
  have hnone : entryCount (fun entry => entry.index = index) map =
      entryCount (fun _ => false) map := by
    apply entryCount_congr
    intro player list hfind entry hmem
    obtain ⟨item, hitem, -⟩ := (hlists player list hfind).mem entry hmem
    have hlt := (List.getElem?_eq_some_iff.mp hitem).1
    exact decide_eq_false (by omega)
  exact hnone.trans entryCount_false

theorem countedItems_append (items : List LootItem) (added : LootItem) {counted counted' : List ℕ}
    (hsame : ∀ index < items.length, index ∈ counted' ↔ index ∈ counted) :
    countedItems (items ++ [added]) counted' = countedItems items counted +
      (if countedAt (items ++ [added]) counted' items.length then 1 else 0) := by
  have hbefore : (List.range items.length).countP (countedAt (items ++ [added]) counted') =
      countedItems items counted := by
    apply countP_congr
    intro index hmem
    have hlt := mem_range.mp hmem
    rw [countedAt, countedAt, List.getElem?_append_left hlt, decide_eq_decide.mpr (hsame index hlt)]
  rw [countedItems, length_append, length_singleton, range_succ,
    countP_append, hbefore, countP_singleton]

theorem countedAt_at_end (items : List LootItem) (added : LootItem) (counted : List ℕ) :
    countedAt (items ++ [added]) counted items.length =
      ((items.length ∈ counted || added.is_counted) && !added.freeforall && !added.is_looted) := by
  rw [countedAt, List.getElem?_concat_length]
  rfl

section

variable (hold : Consistent state)
include hold

theorem Consistent.addQuest (hfresh : Fresh state.loot)
    (hroom : state.loot.quest_items.length < MAX_NR_QUEST_ITEMS) (added : LootItem)
    (hlooted : added.is_looted = false) :
    Consistent (state.lift fun loot =>
        { loot with quest_items := loot.quest_items ++ [added] }) ∧
      Fresh { state.loot with quest_items := state.loot.quest_items ++ [added] } := by
  have hcount : outstandingCount (state.lift fun loot =>
      { loot with quest_items := loot.quest_items ++ [added] }) = outstandingCount state := by
    simp only [outstandingCount, CountedLoot.lift, entryCount_isOut_append _ hold.wf.quest]
  -- The item is the last one, or it was there before.
  have hsplit : ∀ (index : ℕ) (item : LootItem),
      (state.loot.quest_items ++ [added])[index]? = some item →
      state.loot.quest_items[index]? = some item ∨
        (state.loot.quest_items.length ≤ index ∧ item = added) := by
    intro index item hitem
    by_cases hlt : index < state.loot.quest_items.length
    · rw [List.getElem?_append_left hlt] at hitem
      exact .inl hitem
    have hle := Nat.le_of_not_lt hlt
    rw [List.getElem?_append_right hle] at hitem
    have hmem := mem_of_getElem? hitem
    exact .inr ⟨hle, mem_singleton.mp hmem⟩
  refine ⟨⟨?_, hold.counted, ?_, ?_, ?_⟩, ?_⟩
  · apply hold.wf.kept
    · exact Kept.refl _
    · exact Kept.append _ _
    · exact hold.wf.items_le
    · rw [CountedLoot.lift, length_append, length_singleton]
      exact hroom
    · rfl
    · rfl
    · rfl
  · intro index item hitem hffa
    rcases hsplit index item hitem with hbefore | ⟨hle, -⟩
    · exact hold.single index item hbefore hffa
    · have hnone := entryCount_of_length_le hold.wf.quest hle
      exact hnone.le.trans (Nat.zero_le 1)
  · rw [hcount]
    exact hold.count
  · rw [hcount]
    exact hold.bound
  · intro index item hitem hblocked
    rcases hsplit index item hitem with hbefore | ⟨hle, rfl⟩
    · exact hfresh index item hbefore hblocked
    · exact ⟨hlooted, fun _ => entryCount_of_length_le hold.wf.quest hle⟩

theorem Consistent.addItem (hroom : state.loot.items.length < MAX_NR_LOOT_ITEMS) (added : LootItem)
    (hnotCounted : added.is_counted = false) :
    Consistent (state.lift fun loot => { loot with items := loot.items ++ [added] }) := by
  have hlast : state.loot.items.length ∉ state.counted := by
    intro hmem
    obtain ⟨item, hitem, -⟩ := hold.counted _ hmem
    exact absurd (List.getElem?_eq_some_iff.mp hitem).1 (Nat.lt_irrefl _)
  have hcount : outstandingCount (state.lift fun loot =>
      { loot with items := loot.items ++ [added] }) = outstandingCount state := by
    have hitems := countedItems_append state.loot.items added
      (fun index _ => Iff.refl (index ∈ state.counted))
    rw [countedAt_at_end, decide_eq_false hlast, hnotCounted, Bool.or_self, Bool.false_and,
      Bool.false_and, if_neg Bool.false_ne_true] at hitems
    simp only [outstandingCount, CountedLoot.lift, entryCount_isOut_append _ hold.wf.ffa, hitems,
      Nat.add_zero]
  refine ⟨?_, ?_, hold.single, ?_, ?_⟩
  · apply hold.wf.kept
    · exact Kept.append _ _
    · exact Kept.refl _
    · rw [CountedLoot.lift, length_append, length_singleton]
      exact hroom
    · exact hold.wf.quest_items_le
    · rfl
    · rfl
    · rfl
  · intro index hmem
    obtain ⟨item, hitem, hconds⟩ := hold.counted index hmem
    have hlt := (List.getElem?_eq_some_iff.mp hitem).1
    exact ⟨item, (List.getElem?_append_left hlt).trans hitem, hconds⟩
  · rw [hcount]
    exact hold.count
  · rw [hcount]
    exact hold.bound

theorem Consistent.addCounted
    (hroom : state.loot.items.length < MAX_NR_LOOT_ITEMS) (added : LootItem)
    (hconds : added.conditions = []) (hffa : added.freeforall = false)
    (hlooted : added.is_looted = false)
    (hbound : outstandingCount state + 1 ≤ 255) :
    Consistent ⟨{ state.loot with
        items := state.loot.items ++ [added]
        unlootedCount := uint8 (state.loot.unlootedCount + 1) },
      state.loot.items.length :: state.counted⟩ := by
  have hcount : outstandingCount ⟨{ state.loot with
        items := state.loot.items ++ [added]
        unlootedCount := uint8 (state.loot.unlootedCount + 1) },
      state.loot.items.length :: state.counted⟩ = outstandingCount state + 1 := by
    have hitems := @countedItems_append state.loot.items added state.counted
      (state.loot.items.length :: state.counted) (fun index hlt => by
        rw [mem_cons]
        exact or_iff_right (Nat.ne_of_lt hlt))
    rw [countedAt_at_end, decide_eq_true mem_cons_self, hffa, hlooted, Bool.true_or,
      Bool.not_false, Bool.and_self, Bool.and_self, if_pos rfl] at hitems
    simp only [outstandingCount, entryCount_isOut_append _ hold.wf.ffa, hitems]
    omega
  refine ⟨?_, ?_, hold.single, ?_, hcount ▸ hbound⟩
  · apply hold.wf.kept
    · exact Kept.append _ _
    · exact Kept.refl _
    · rw [length_append, length_singleton]
      exact hroom
    · exact hold.wf.quest_items_le
    · rfl
    · rfl
    · rfl
  · intro index hmem
    rcases mem_cons.mp hmem with rfl | hmem
    · exact ⟨added, List.getElem?_concat_length, hconds⟩
    obtain ⟨item, hitem, hconds⟩ := hold.counted index hmem
    have hlt := (List.getElem?_eq_some_iff.mp hitem).1
    exact ⟨item, (List.getElem?_append_left hlt).trans hitem, hconds⟩
  · rw [hcount]
    rw [hold.count, uint8_of_lt (by omega)]

theorem Consistent.addStack (hfresh : Fresh state.loot)
    (hbound : outstandingCount state +
      newEntries state.loot (.addStack env proto item count lookers) ≤ 255) :
    Consistent (state.AddStack env proto item count lookers) ∧
      Fresh (state.AddStack env proto item count lookers).loot := by
  rcases AddStack_cases env state proto item count lookers with
    hsame | ⟨hroom, hquest⟩ | ⟨hroom, hitem⟩ | ⟨hroom, hconds, hffa, hnew, hcounted⟩
  · rw [hsame]
    exact ⟨hold, hfresh⟩
  · rw [hquest]
    exact hold.addQuest hfresh hroom _ rfl
  · rw [hitem]
    exact ⟨hold.addItem hroom _ rfl, hfresh⟩
  rw [hnew] at hbound
  rw [hcounted]
  exact ⟨hold.addCounted hroom _ hconds hffa rfl hbound, hfresh⟩

end

end Stacks

section Lists

variable {env : LootEnv} {state : CountedLoot} {player : ℕ}

theorem lists_insert {good : List QuestItem → Prop} {list : List QuestItem} (player : ℕ)
    (hlists : ∀ player list, map.find? player = some list → good list) (hlist : good list) :
    ∀ other listed, (map.insert player list).find? other = some listed → good listed := by
  intro other listed hfind
  rw [StdMap.find?_insert] at hfind
  split at hfind
  · cases hfind
    exact hlist
  · exact hlists other listed hfind

theorem pointsTo_filterMap {items : List LootItem} (p : LootItem → Bool)
    (hle : items.length ≤ MAX_NR_LOOT_ITEMS) :
    PointsTo items (items.zipIdx.filterMap fun (item, i) =>
        if p item then some (QuestItem.mk (uint8 i) false) else none)
      fun entry item => entry.is_looted = false ∧ p item = true := by
  rw [MAX_NR_LOOT_ITEMS] at hle
  have hbyte : ∀ (item : LootItem) (index : ℕ), (item, index) ∈ items.zipIdx →
      uint8 index = index := by
    intro item index hmem
    have hlt := (List.getElem?_eq_some_iff.mp (mem_zipIdx_iff_getElem?.mp hmem)).1
    exact uint8_of_lt (by omega)
  constructor
  · have hsublist := @sublist_map_filterMap (LootItem × ℕ) QuestItem ℕ
      (fun (item, i) => if p item then some (QuestItem.mk (uint8 i) false) else none)
      QuestItem.index Prod.snd items.zipIdx (by
        rintro ⟨item, index⟩ hmem entry hentry
        dsimp only at hentry ⊢
        split at hentry
        · cases hentry
          exact hbyte item index hmem
        · cases hentry)
    apply hsublist.nodup
    rw [zipIdx_map_snd]
    exact nodup_range'
  · intro entry hmem
    obtain ⟨⟨item, index⟩, hzip, hentry⟩ := mem_filterMap.mp hmem
    dsimp only at hentry
    split at hentry
    case isFalse => cases hentry
    rename_i hp
    cases hentry
    refine ⟨item, ?_, rfl, hp⟩
    rw [hbyte item index hzip]
    exact mem_zipIdx_iff_getElem?.mp hzip

theorem countP_isOut_eq_length {items : List LootItem} {list : List QuestItem}
    (hpoints : PointsTo items list kind)
    (hnew : ∀ entry item, kind entry item → entry.is_looted = false ∧ item.is_looted = false) :
    list.countP (isOut items) = list.length := by
  rw [countP_eq_length]
  intro entry hmem
  obtain ⟨item, hitem, hkind⟩ := hpoints.mem entry hmem
  obtain ⟨hentry, hlooted⟩ := hnew entry item hkind
  rw [isOut, hitem, any_some, outstanding, hentry, hlooted]
  rfl

theorem length_filterMap_entries (items : List LootItem) (p : LootItem → Bool) :
    (items.zipIdx.filterMap fun (item, i) =>
      if p item then some (QuestItem.mk (uint8 i) false) else none).length = items.countP p := by
  rw [length_filterMap_eq_countP]
  calc items.zipIdx.countP _
      = (items.zipIdx.map Prod.fst).countP p := by
        rw [countP_map]
        apply countP_congr
        rintro ⟨item, index⟩ -
        rw [Function.comp_apply]
        dsimp only
        cases p item <;> simp
    _ = items.countP p := by rw [zipIdx_map_fst]

theorem FillFFALoot_cases (env : LootEnv) (player : ℕ)
    (hle : loot.items.length ≤ MAX_NR_LOOT_ITEMS) :
    loot.FillFFALoot env player = loot ∨
    ∃ ql, PointsTo loot.items ql (fun entry item => entry.is_looted = false ∧
        item.is_looted = false ∧ item.freeforall = true) ∧
      ql.length = loot.items.countP (ffaListed env loot player) ∧
      loot.FillFFALoot env player = { loot with
        PlayerFFAItems := loot.PlayerFFAItems.insert player ql
        unlootedCount := uint8 (loot.unlootedCount + ql.length) } := by
  unfold Loot.FillFFALoot
  dsimp only
  split
  · exact .inl rfl
  have hpoints := pointsTo_filterMap (ffaListed env loot player) hle
  refine .inr ⟨_, ⟨hpoints.nodup, fun entry hmem => ?_⟩, length_filterMap_entries _ _, rfl⟩
  obtain ⟨item, hitem, hentry, hp⟩ := hpoints.mem entry hmem
  rw [ffaListed, Bool.and_eq_true, Bool.and_eq_true, Bool.not_eq_true'] at hp
  exact ⟨item, hitem, hentry, hp.1.1, hp.1.2⟩

theorem Consistent.fillFFA (hold : Consistent state) (hfresh : Fresh state.loot)
    (hbound : outstandingCount state + newEntries state.loot (.fillFFA env player) ≤ 255) :
    Consistent (state.apply (.fillFFA env player)) ∧
      Fresh (state.apply (.fillFFA env player)).loot := by
  unfold CountedLoot.apply CountedLoot.lift unlessListed
  dsimp only
  split
  case isFalse => exact ⟨hold, hfresh⟩
  rename_i hfind
  rw [newEntries, if_pos hfind] at hbound
  rcases FillFFALoot_cases env player hold.wf.items_le with hsame | ⟨ql, hpoints, hnew, hfilled⟩
  · rw [hsame]
    exact ⟨hold, hfresh⟩
  rw [← hnew] at hbound
  rw [hfilled]
  have hlen := countP_isOut_eq_length hpoints fun _ _ hkind => ⟨hkind.1, hkind.2.1⟩
  have hcount : outstandingCount ⟨{ state.loot with
        PlayerFFAItems := state.loot.PlayerFFAItems.insert player ql
        unlootedCount := uint8 (state.loot.unlootedCount + ql.length) }, state.counted⟩ =
      outstandingCount state + ql.length := by
    simp only [outstandingCount, entryCount_insert _ _ hfind, hlen]
    omega
  refine ⟨⟨⟨hold.wf.items_le, hold.wf.quest_items_le, hold.wf.quest, ?_,
    hold.wf.conditional⟩, hold.counted, hold.single, ?_, hcount ▸ hbound⟩, hfresh⟩
  · apply lists_insert player hold.wf.ffa
    refine ⟨hpoints.nodup, fun entry hmem => ?_⟩
    obtain ⟨item, hitem, -, -, hffa⟩ := hpoints.mem entry hmem
    exact ⟨item, hitem, hffa⟩
  · rw [hcount]
    rw [hold.count, uint8_of_lt (by omega)]

/-- What the loop of `FillQuestLoot` makes of the quest items from `i` on. -/
structure Filled (i : ℕ) (quest_items after : List LootItem) (ql : List QuestItem) : Prop where
  core : after.map core = quest_items.map core
  nodup : (ql.map QuestItem.index).Nodup
  mem : ∀ entry ∈ ql, entry.is_looted = false ∧ ∃ (offset : ℕ) (item : LootItem),
    entry.index = i + offset ∧ quest_items[offset]? = some item ∧ item.is_blocked = false
  open_ : ∀ (offset : ℕ) (item' : LootItem), after[offset]? = some item' →
    item'.is_blocked = false → ∃ item : LootItem, quest_items[offset]? = some item ∧
      item.is_blocked = false ∧
      (item.freeforall = false → ∀ entry ∈ ql, entry.index ≠ i + offset)

theorem Filled.nil (i : ℕ) (quest_items : List LootItem) : Filled i quest_items quest_items [] where
  core := rfl
  nodup := nodup_nil
  mem := nofun
  open_ := fun _ item' hitem hblocked =>
    ⟨item', hitem, hblocked, nofun⟩

section

variable {i : ℕ} {quest_items after : List LootItem} {ql : List QuestItem} (hrest : Filled (i + 1) quest_items after ql)
include hrest

theorem Filled.skip (item : LootItem) : Filled i (item :: quest_items) (item :: after) ql where
  core := by rw [map_cons, map_cons, hrest.core]
  nodup := hrest.nodup
  mem := by
    intro entry hmem
    obtain ⟨hlooted, offset, listed, hindex, hitem, hblocked⟩ := hrest.mem entry hmem
    exact ⟨hlooted, offset + 1, listed, by omega, hitem, hblocked⟩
  open_ := by
    intro offset item' hitem' hblocked
    cases offset with
    | zero =>
      refine ⟨item', hitem', hblocked, fun _ entry hmem => ?_⟩
      obtain ⟨-, offset, -, hindex, -⟩ := hrest.mem entry hmem
      omega
    | succ offset =>
      obtain ⟨before, hbefore, hopen, hfresh⟩ := hrest.open_ offset item' hitem' hblocked
      refine ⟨before, hbefore, hopen, fun hffa entry hmem => ?_⟩
      have hne := hfresh hffa entry hmem
      omega

theorem Filled.take {item : LootItem}
    (hblocked : item.is_blocked = false) :
    Filled i (item :: quest_items)
      ((if item.freeforall then item else { item with is_blocked := true }) :: after)
      (⟨i, false⟩ :: ql) where
  core := by
    rw [map_cons, map_cons, hrest.core]
    split
    · rfl
    · rfl
  nodup := by
    rw [map_cons, nodup_cons]
    refine ⟨fun hmem => ?_, hrest.nodup⟩
    obtain ⟨entry, hentry, hindex⟩ := List.mem_map.mp hmem
    obtain ⟨-, offset, -, hoffset, -⟩ := hrest.mem entry hentry
    dsimp only at hindex
    omega
  mem := by
    intro entry hmem
    rcases mem_cons.mp hmem with rfl | hmem
    · exact ⟨rfl, 0, item, rfl, rfl, hblocked⟩
    · obtain ⟨hlooted, offset, listed, hindex, hitem, hopen⟩ := hrest.mem entry hmem
      exact ⟨hlooted, offset + 1, listed, by omega, hitem, hopen⟩
  open_ := by
    intro offset item' hitem' hopen
    rcases offset with _ | offset
    · cases hitem'
      refine ⟨item, rfl, hblocked, fun hffa => ?_⟩
      rw [if_neg (Bool.eq_false_iff.mp hffa)] at hopen
      cases hopen
    obtain ⟨before, hbefore, hbeforeOpen, hfresh⟩ := hrest.open_ offset item' hitem' hopen
    refine ⟨before, hbefore, hbeforeOpen, fun hffa entry hmem => ?_⟩
    rcases mem_cons.mp hmem with rfl | hmem
    · dsimp only
      omega
    · have hne := hfresh hffa entry hmem
      omega

end

theorem questFill_spec (env : LootEnv) (player lootOwner source room i : ℕ)
    {quest_items : List LootItem} (hle : i + quest_items.length ≤ 2 ^ 8) :
    Filled i quest_items (Loot.questFill env player lootOwner source room i quest_items).1
      (Loot.questFill env player lootOwner source room i quest_items).2 := by
  induction quest_items generalizing room i with
  | nil => exact Filled.nil i []
  | cons item quest_items ih =>
    rw [length_cons] at hle
    rw [Loot.questFill]
    split
    · exact (ih room (i + 1) (by omega)).skip item
    rename_i hopen
    split
    · exact (ih room (i + 1) (by omega)).skip item
    rw [Bool.or_eq_true, not_or] at hopen
    have hblocked := Bool.eq_false_iff.mpr hopen.1
    dsimp only
    rw [uint8_of_lt (by omega)]
    split
    · exact (Filled.nil (i + 1) quest_items).take hblocked
    · exact (ih (room - 1) (i + 1) (by omega)).take hblocked

theorem length_questFill (env : LootEnv) (player lootOwner source room i : ℕ)
    (quest_items : List LootItem) (hroom : 1 ≤ room) :
    (Loot.questFill env player lootOwner source room i quest_items).2.length =
      min room (quest_items.countP (questListed env player lootOwner source)) := by
  induction quest_items generalizing room i with
  | nil => rw [Loot.questFill, length_nil, countP_nil, Nat.min_zero]
  | cons item quest_items ih =>
    rw [Loot.questFill, countP_cons]
    split
    case isTrue hblocked =>
      have hnot : questListed env player lootOwner source item = false := by
        rw [questListed, hblocked]
        rfl
      rw [hnot, if_neg Bool.false_ne_true]
      exact ih room (i + 1) hroom
    rename_i hopen
    split
    case isTrue howned =>
      have hnot : questListed env player lootOwner source item = false := by
        rw [questListed, howned, Bool.not_true, Bool.and_false]
      rw [hnot, if_neg Bool.false_ne_true]
      exact ih room (i + 1) hroom
    rename_i hfree
    have hlisted : questListed env player lootOwner source item = true := by
      rw [questListed, Bool.eq_false_iff.mpr hopen, Bool.eq_false_iff.mpr hfree]
      rfl
    dsimp only
    split
    case isTrue hle =>
      rw [length_singleton]
      omega
    case isFalse hlt =>
      rw [length_cons, ih (room - 1) (i + 1) (by omega)]
      omega

theorem FillQuestLoot_cases (env : LootEnv) (player : ℕ)
    (hitems : loot.items.length ≤ MAX_NR_LOOT_ITEMS)
    (hle : loot.quest_items.length ≤ MAX_NR_QUEST_ITEMS) :
    loot.FillQuestLoot env player = loot ∨
    ∃ quest_items ql, Filled 0 loot.quest_items quest_items ql ∧
      ql.length = min (MAX_NR_LOOT_ITEMS - loot.items.length) (loot.quest_items.countP
        (questListed env player
          (if loot.roundRobinPlayer ≠ 0 then loot.roundRobinPlayer else player)
          loot.sourceWorldObjectGUID)) ∧
      loot.FillQuestLoot env player = { loot with
        quest_items := quest_items
        PlayerQuestItems := loot.PlayerQuestItems.insert player ql
        unlootedCount := uint8 (loot.unlootedCount + ql.length) } := by
  unfold Loot.FillQuestLoot
  split
  · exact .inl rfl
  rename_i hnotFull
  dsimp only
  generalize (if loot.roundRobinPlayer ≠ 0 then loot.roundRobinPlayer else player) = lootOwner
  split
  · exact .inl rfl
  rw [MAX_NR_QUEST_ITEMS] at hle
  exact .inr ⟨_, _, questFill_spec env player _ _ _ 0 (by omega),
    length_questFill env player _ _ _ 0 _ (by omega), rfl⟩

theorem countP_index_le_one {list : List QuestItem} (hnodup : (list.map QuestItem.index).Nodup)
    (index : ℕ) : list.countP (fun entry => entry.index = index) ≤ 1 := by
  have hcount := nodup_iff_count_le_one.mp hnodup index
  rw [List.count, countP_map] at hcount
  exact hcount

theorem countP_index_eq_zero {list : List QuestItem} {index : ℕ}
    (hnone : ∀ entry ∈ list, entry.index ≠ index) :
    list.countP (fun entry => entry.index = index) = 0 := by
  rw [countP_eq_zero]
  intro entry hmem hindex
  exact hnone entry hmem (of_decide_eq_true hindex)

theorem Consistent.fillQuest (hold : Consistent state) (hfresh : Fresh state.loot)
    (hbound : outstandingCount state + newEntries state.loot (.fillQuest env player) ≤ 255) :
    Consistent (state.apply (.fillQuest env player)) ∧
      Fresh (state.apply (.fillQuest env player)).loot := by
  unfold CountedLoot.apply CountedLoot.lift unlessListed
  dsimp only
  split
  case isFalse => exact ⟨hold, hfresh⟩
  rename_i hfind
  rw [newEntries, if_pos hfind] at hbound
  rcases FillQuestLoot_cases env player hold.wf.items_le hold.wf.quest_items_le with
    hsame | ⟨quest_items, ql, hfill, hnew, hfilled⟩
  · rw [hsame]
    exact ⟨hold, hfresh⟩
  rw [← hnew] at hbound
  rw [hfilled]
  have hpoints : PointsTo state.loot.quest_items ql fun entry item =>
      entry.is_looted = false ∧ item.is_blocked = false := by
    refine ⟨hfill.nodup, fun entry hmem => ?_⟩
    obtain ⟨hlooted, offset, item, hindex, hitem, hblocked⟩ := hfill.mem entry hmem
    rw [Nat.zero_add] at hindex
    exact ⟨item, hindex ▸ hitem, hlooted, hblocked⟩
  have hlen : ql.countP (isOut state.loot.quest_items) = ql.length := by
    rw [countP_eq_length]
    intro entry hmem
    obtain ⟨item, hitem, hentry, hblocked⟩ := hpoints.mem entry hmem
    have hlooted := (hfresh entry.index item hitem hblocked).1
    rw [isOut, hitem, any_some, outstanding, hentry, hlooted]
    rfl
  have hcount : outstandingCount ⟨{ state.loot with
        quest_items := quest_items
        PlayerQuestItems := state.loot.PlayerQuestItems.insert player ql
        unlootedCount := uint8 (state.loot.unlootedCount + ql.length) }, state.counted⟩ =
      outstandingCount state + ql.length := by
    simp only [outstandingCount, entryCount_insert _ _ hfind, isOut_of_core hfill.core, hlen]
    omega
  -- An item that is open afterwards was open before and is in no new entry.
  have hindexCount : ∀ index, entryCount (fun entry => entry.index = index)
      (state.loot.PlayerQuestItems.insert player ql) =
      ql.countP (fun entry => entry.index = index) +
        entryCount (fun entry => entry.index = index) state.loot.PlayerQuestItems :=
    fun index => entryCount_insert _ ql hfind
  refine ⟨⟨⟨hold.wf.items_le, ?_, ?_, hold.wf.ffa, hold.wf.conditional⟩, hold.counted, ?_, ?_,
    hcount ▸ hbound⟩, ?_⟩
  · rw [length_of_core hfill.core]
    exact hold.wf.quest_items_le
  · have hlists : ∀ player list, state.loot.PlayerQuestItems.find? player = some list →
        PointsTo quest_items list fun _ _ => True :=
      fun other list hlist => (hold.wf.quest other list hlist).kept (Kept.of_core hfill.core)
        fun _ _ _ _ _ _ _ => trivial
    have hnew : PointsTo quest_items ql fun _ _ => True := by
      refine ⟨hfill.nodup, fun entry hmem => ?_⟩
      obtain ⟨item, hitem, -⟩ := hpoints.mem entry hmem
      obtain ⟨item', hitem', -⟩ := getElem?_of_core hfill.core hitem
      exact ⟨item', hitem', trivial⟩
    exact @lists_insert _ (fun list => PointsTo quest_items list fun _ _ => True) _ player
      hlists hnew
  · intro index item' hitem' hffa'
    rw [hindexCount index]
    obtain ⟨item, hitem, hffa, -⟩ := Kept.of_core hfill.core.symm index item' hitem'
    rw [hffa'] at hffa
    by_cases hlisted : ∃ entry ∈ ql, entry.index = index
    · obtain ⟨entry, hmem, rfl⟩ := hlisted
      obtain ⟨other, hother, -, hblocked⟩ := hpoints.mem entry hmem
      rw [hitem] at hother
      cases hother
      have hnone := (hfresh entry.index item hitem hblocked).2 hffa
      have hone := countP_index_le_one hfill.nodup entry.index
      omega
    · have hnone := @countP_index_eq_zero ql index
        fun entry hmem heq => hlisted ⟨entry, hmem, heq⟩
      have hone := hold.single index item hitem hffa
      omega
  · rw [hcount]
    rw [hold.count, uint8_of_lt (by omega)]
  · intro index item' hitem' hblocked'
    obtain ⟨item, hitem, hblocked, hnot⟩ := hfill.open_ index item' hitem' hblocked'
    obtain ⟨hlooted, hnone⟩ := hfresh index item hitem hblocked
    obtain ⟨same, hsame, hcore⟩ := getElem?_of_core hfill.core hitem
    rw [hitem'] at hsame
    cases hsame
    rw [core, core, Prod.mk.injEq, Prod.mk.injEq] at hcore
    obtain ⟨hlooted', hffa', -⟩ := hcore
    refine ⟨hlooted'.trans hlooted, fun hffa => ?_⟩
    have hffa := hffa'.symm.trans hffa
    rw [hindexCount index, hnone hffa, countP_index_eq_zero fun entry hmem => ?_]
    have hne := hnot hffa entry hmem
    omega

/-! ## Conditional items -/

/-- An item after the conditional walk of `player`. -/
def conditionalWalked (env : LootEnv) (loot : Loot) (player : ℕ) (item : LootItem) : LootItem :=
  if Loot.conditionalFor env loot player item then
    { item with
      allowedGUIDs := item.allowedGUIDs.insert player
      is_counted := item.is_counted || item.conditions ≠ [] }
  else
    item

theorem conditionalWalked_spec (env : LootEnv) (loot : Loot) (player : ℕ) (item : LootItem) :
    (conditionalWalked env loot player item).is_looted = item.is_looted ∧
      (conditionalWalked env loot player item).freeforall = item.freeforall ∧
      (conditionalWalked env loot player item).conditions = item.conditions ∧
      (conditionalWalked env loot player item).is_counted =
        (item.is_counted || conditionalListed env loot player item) := by
  unfold conditionalWalked conditionalListed
  cases Loot.conditionalFor env loot player item with
  | true => exact ⟨rfl, rfl, rfl, by rw [if_pos rfl, Bool.true_and]⟩
  | false => exact ⟨rfl, rfl, rfl, by rw [if_neg Bool.false_ne_true, Bool.false_and, Bool.or_false]⟩

theorem FillNonQuestNonFFAConditionalLoot_cases (env : LootEnv) (player : ℕ) (loot : Loot) :
    ∃ lists, (lists = loot.PlayerNonQuestNonFFAConditionalItems ∨
        lists = loot.PlayerNonQuestNonFFAConditionalItems.insert player
          (loot.items.zipIdx.filterMap fun (item, i) =>
            if conditionalListed env loot player item then some (QuestItem.mk (uint8 i) false)
            else none)) ∧
      loot.FillNonQuestNonFFAConditionalLoot env player = { loot with
        items := loot.items.map (conditionalWalked env loot player)
        unlootedCount := uint8 (loot.unlootedCount + loot.items.countP fun item =>
          conditionalListed env loot player item && !item.is_counted)
        PlayerNonQuestNonFFAConditionalItems := lists } := by
  unfold Loot.FillNonQuestNonFFAConditionalLoot
  dsimp only
  split
  · exact ⟨_, .inl rfl, rfl⟩
  · exact ⟨_, .inr rfl, rfl⟩

theorem countP_add {α : Type*} {p q r : α → Bool} {list : List α}
    (hsplit : ∀ a ∈ list, r a = (p a || q a) ∧ (p a && q a) = false) :
    list.countP r = list.countP p + list.countP q := by
  rw [countP_split r p list]
  congr 1
  · apply countP_congr
    intro a hmem
    rw [(hsplit a hmem).1]
    cases p a <;> cases q a <;> simp
  · apply countP_congr
    intro a hmem
    obtain ⟨hr, hdisj⟩ := hsplit a hmem
    rw [hr]
    revert hdisj
    cases p a <;> cases q a <;> simp

theorem countedItems_conditionalWalked (env : LootEnv) (player : ℕ) (hold : Consistent state) :
    countedItems (state.loot.items.map (conditionalWalked env state.loot player)) state.counted =
      countedItems state.loot.items state.counted + state.loot.items.countP fun item =>
        conditionalListed env state.loot player item && !item.is_counted := by
  rw [← countP_range_getElem?, countedItems, countedItems, length_map]
  apply countP_add
  intro index hmem
  obtain ⟨item, hitem⟩ : ∃ item, state.loot.items[index]? = some item :=
    ⟨_, List.getElem?_eq_getElem (mem_range.mp hmem)⟩
  rw [countedAt, countedAt, List.getElem?_map, hitem, map_some, any_some, any_some, any_some]
  obtain ⟨hlooted, hffa, -, hcounted⟩ := conditionalWalked_spec env state.loot player item
  rw [hlooted, hffa, hcounted]
  rcases hlisted : conditionalListed env state.loot player item with _ | _
  · simp
  rw [conditionalListed, Loot.conditionalFor, Bool.and_eq_true, Bool.and_eq_true,
    Bool.and_eq_true] at hlisted
  obtain ⟨⟨⟨hlooted, hffa⟩, -⟩, hconds⟩ := hlisted
  have hnot : index ∉ state.counted := by
    intro hcounted
    obtain ⟨other, hother, hempty⟩ := hold.counted index hcounted
    rw [hitem] at hother
    cases hother
    exact of_decide_eq_true hconds hempty
  rw [hlooted, hffa, decide_eq_false hnot]
  cases item.is_counted <;> simp

theorem Consistent.fillConditional (hold : Consistent state) (hfresh : Fresh state.loot)
    (hbound : outstandingCount state + newEntries state.loot (.fillConditional env player) ≤ 255) :
    Consistent (state.apply (.fillConditional env player)) ∧
      Fresh (state.apply (.fillConditional env player)).loot := by
  unfold CountedLoot.apply CountedLoot.lift unlessListed
  dsimp only
  split
  case isFalse => exact ⟨hold, hfresh⟩
  rename_i hfind
  rw [newEntries, if_pos hfind] at hbound
  obtain ⟨lists, hlists, hfilled⟩ := FillNonQuestNonFFAConditionalLoot_cases env player state.loot
  rw [hfilled]
  have hkept : Kept state.loot.items
      (state.loot.items.map (conditionalWalked env state.loot player)) := by
    intro index item hitem
    obtain ⟨hlooted, hffa, hconds, -⟩ := conditionalWalked_spec env state.loot player item
    rw [List.getElem?_map, hitem]
    exact ⟨_, rfl, hffa, hconds, fun h => hlooted.trans h⟩
  have hout : isOut (state.loot.items.map (conditionalWalked env state.loot player)) =
      isOut state.loot.items := by
    apply isOut_congr
    intro index
    rw [List.getElem?_map, Option.map_map]
    apply congrArg (Option.map · state.loot.items[index]?)
    funext item
    exact (conditionalWalked_spec env state.loot player item).1
  have hcount : outstandingCount ⟨{ state.loot with
        items := state.loot.items.map (conditionalWalked env state.loot player)
        unlootedCount := uint8 (state.loot.unlootedCount + state.loot.items.countP fun item =>
          conditionalListed env state.loot player item && !item.is_counted)
        PlayerNonQuestNonFFAConditionalItems := lists }, state.counted⟩ =
      outstandingCount state + state.loot.items.countP fun item =>
        conditionalListed env state.loot player item && !item.is_counted := by
    simp only [outstandingCount, hout, countedItems_conditionalWalked env player hold]
    omega
  have hlistsOk : ∀ player list, lists.find? player = some list →
      PointsTo state.loot.items list fun entry item => item.freeforall = false ∧
        item.conditions ≠ [] ∧ (entry.is_looted = true → item.is_looted = true) := by
    rcases hlists with rfl | rfl
    · exact hold.wf.conditional
    have hpoints := pointsTo_filterMap (conditionalListed env state.loot player)
      hold.wf.items_le
    refine lists_insert player hold.wf.conditional ⟨hpoints.nodup, fun entry hmem => ?_⟩
    obtain ⟨item, hitem, hentry, hlisted⟩ := hpoints.mem entry hmem
    rw [conditionalListed, Loot.conditionalFor, Bool.and_eq_true, Bool.and_eq_true,
      Bool.and_eq_true] at hlisted
    obtain ⟨⟨⟨-, hffa⟩, -⟩, hconds⟩ := hlisted
    refine ⟨item, hitem, by simpa using hffa, of_decide_eq_true hconds, fun h => ?_⟩
    rw [hentry] at h
    cases h
  refine ⟨⟨⟨?_, hold.wf.quest_items_le, hold.wf.quest, ?_, ?_⟩, ?_, hold.single, ?_,
    hcount ▸ hbound⟩, hfresh⟩
  · rw [length_map]
    exact hold.wf.items_le
  · intro other list hlist
    apply (hold.wf.ffa other list hlist).kept hkept
    intro _ item item' hffa _ _ hkind
    exact hffa.trans hkind
  · intro other list hlist
    apply (hlistsOk other list hlist).kept hkept
    rintro entry item item' hffa hconds hlooted ⟨hnotFfa, hnonempty, hmarked⟩
    exact ⟨hffa.trans hnotFfa, hconds ▸ hnonempty, fun h => hlooted (hmarked h)⟩
  · intro index hmem
    obtain ⟨item, hitem, hempty⟩ := hold.counted index hmem
    obtain ⟨item', hitem', -, hconds, -⟩ := hkept index item hitem
    exact ⟨item', hitem', hconds.trans hempty⟩
  · rw [hcount]
    rw [hold.count, uint8_of_lt (by omega)]

end Lists

end AzerothCore.Looting
