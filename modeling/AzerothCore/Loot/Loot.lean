import AzerothCore.Collections.StdMap
import AzerothCore.Common.Define
import Mathlib.Data.List.Perm.Subperm

/-!
# Loot

A loot has items and quest items, and for every player up to three lists of
entries that point into them: quest items, items that are free for all, and
items with conditions. What the code asks of players and item templates is
given by an environment.
-/

namespace AzerothCore.Looting

def MAX_NR_LOOT_ITEMS : ℕ := 18
def MAX_NR_QUEST_ITEMS : ℕ := 32

def ITEM_FLAG_MULTI_DROP : ℕ := 0x00000800
def ITEM_FLAG_HIDE_UNUSABLE_RECIPE : ℕ := 0x02000000
def ITEM_FLAGS_EXTRA_HORDE_ONLY : ℕ := 0x00000001
def ITEM_FLAGS_EXTRA_ALLIANCE_ONLY : ℕ := 0x00000002
def ITEM_FLAGS_CU_IGNORE_QUEST_STATUS : ℕ := 0x0002
def ITEM_FLAGS_CU_FOLLOW_LOOT_RULES : ℕ := 0x0004
def ITEM_CLASS_RECIPE : ℕ := 9
def BIND_WHEN_PICKED_UP : ℕ := 1

structure ItemTemplate where
  Class : ℕ
  Quality : ℕ
  Flags : ℕ
  Flags2 : ℕ
  FlagsCu : ℕ
  Bonding : ℕ
  /-- `Spells[1].SpellId`. -/
  SpellId : ℕ
  RequiredSkill : ℕ
  StartQuest : ℕ
  MaxCount : ℕ
  MaxStackSize : ℕ
  IsCurrencyToken : Bool

inductive TeamId where
  | TEAM_ALLIANCE
  | TEAM_HORDE
deriving DecidableEq

/-- The answers of players, templates, conditions and scripts. Players are named
by their guids, quests and items by their ids. -/
structure LootEnv where
  GetItemTemplate : ℕ → Option ItemTemplate
  IsDisabledFor : ℕ → Bool
  /-- Whether a player meets all of some conditions. -/
  IsObjectMeetToConditions : ℕ → List ℕ → Bool
  /-- The master looter of the group of a player, if he is in a group. -/
  GetMasterLooterGuid : ℕ → Option ℕ
  /-- Whether the loot method of the group of a player is `MASTER_LOOT`. -/
  HasMasterLoot : ℕ → Bool
  /-- Whether a player loots an item of his own. -/
  LootGUIDIsItem : ℕ → Bool
  GetTeamId : ℕ → TeamId
  HasSkill : ℕ → ℕ → Bool
  HasSpell : ℕ → ℕ → Bool
  HasQuestForItem : ℕ → ℕ → Bool
  /-- The same question with `showInLoot`, and what it leaves in it. -/
  HasQuestForItemInLoot : ℕ → ℕ → Bool × Bool
  /-- Whether the status of a quest is `QUEST_STATUS_NONE`. -/
  QuestStatusNone : ℕ → ℕ → Bool
  GetQuestRewardStatus : ℕ → ℕ → Bool
  GetPrevQuestId : ℕ → ℕ
  HasItemCount : ℕ → ℕ → ℕ → Bool
  OnAllowedForPlayerLootCheck : ℕ → ℕ → Bool
  /-- Whether so many of an item fit into the bags of a player. -/
  CanStoreNewItem : ℕ → ℕ → ℕ → Bool

structure LootItem where
  itemid : ℕ
  conditions : List ℕ
  allowedGUIDs : List ℕ
  /-- Zero while nobody has won the item. -/
  rollWinnerGUID : ℕ
  count : ℕ
  is_looted : Bool
  is_blocked : Bool
  freeforall : Bool
  is_underthreshold : Bool
  is_counted : Bool
  needs_quest : Bool
  follow_loot_rules : Bool
deriving DecidableEq

structure QuestItem where
  index : ℕ
  is_looted : Bool
deriving DecidableEq

structure Loot where
  items : List LootItem
  quest_items : List LootItem
  gold : ℕ
  /-- A `uint8`. -/
  unlootedCount : ℕ
  roundRobinPlayer : ℕ
  lootOwnerGUID : ℕ
  containerGUID : ℕ
  sourceWorldObjectGUID : ℕ
  PlayerQuestItems : StdMap ℕ (List QuestItem)
  PlayerFFAItems : StdMap ℕ (List QuestItem)
  PlayerNonQuestNonFFAConditionalItems : StdMap ℕ (List QuestItem)
deriving DecidableEq

inductive ItemRef where
  | item (index : ℕ)
  | quest (index : ℕ)
deriving DecidableEq

namespace LootEnv

variable (env : LootEnv)

def isMasterLooter (player : ℕ) : Bool := env.GetMasterLooterGuid player = some player

/-- The checks of `AllowedForPlayer` on the quests of a player. -/
def questAllows (proto : ItemTemplate) (item : LootItem) (player : ℕ) : Bool :=
  if proto.FlagsCu &&& ITEM_FLAGS_CU_IGNORE_QUEST_STATUS = 0 then
    if item.needs_quest && !env.HasQuestForItem player item.itemid then
      false
    else if proto.StartQuest ≠ 0 then
      let prevQuestId := env.GetPrevQuestId proto.StartQuest
      !(!env.QuestStatusNone player proto.StartQuest ||
        (env.HasItemCount player item.itemid proto.MaxCount && proto.MaxCount ≠ 0) ||
        (prevQuestId ≠ 0 && !env.GetQuestRewardStatus player prevQuestId))
    else
      true
  else
    true

def isBoundRecipe (proto : ItemTemplate) : Bool :=
  proto.Class = ITEM_CLASS_RECIPE && proto.Bonding = BIND_WHEN_PICKED_UP && proto.SpellId ≠ 0

def AllowedForPlayer (item : LootItem) (player source : ℕ) : Bool :=
  match env.GetItemTemplate item.itemid with
  | none => false
  | some proto =>
    let itemVisibleForMasterLooter :=
      !item.needs_quest && (!item.follow_loot_rules || !item.is_underthreshold)
    let isRecipe := proto.Flags &&& ITEM_FLAG_HIDE_UNUSABLE_RECIPE ≠ 0
    if env.IsDisabledFor item.itemid then
      false
    else if !env.IsObjectMeetToConditions player item.conditions then
      env.isMasterLooter player && itemVisibleForMasterLooter && (isRecipe || isBoundRecipe proto)
    else if proto.Flags2 &&& ITEM_FLAGS_EXTRA_HORDE_ONLY ≠ 0 &&
        env.GetTeamId player ≠ .TEAM_HORDE then
      false
    else if proto.Flags2 &&& ITEM_FLAGS_EXTRA_ALLIANCE_ONLY ≠ 0 &&
        env.GetTeamId player ≠ .TEAM_ALLIANCE then
      false
    else if env.isMasterLooter player && itemVisibleForMasterLooter then
      true
    else if isRecipe &&
        (!env.HasSkill player proto.RequiredSkill || env.HasSpell player proto.SpellId) then
      false
    else if isBoundRecipe proto && env.HasSpell player proto.SpellId then
      false
    else if !env.questAllows proto item player then
      false
    else
      env.OnAllowedForPlayerLootCheck player source

end LootEnv

namespace Loot

variable (env : LootEnv)

def get (loot : Loot) : ItemRef → Option LootItem
  | .item index => loot.items[index]?
  | .quest index => loot.quest_items[index]?

def modify (loot : Loot) (f : LootItem → LootItem) : ItemRef → Loot
  | .item index => { loot with items := loot.items.modify index f }
  | .quest index => { loot with quest_items := loot.quest_items.modify index f }

def isLooted (loot : Loot) : Bool := loot.gold = 0 && loot.unlootedCount = 0

def allowed (loot : Loot) (item : LootItem) (player : ℕ) : Bool :=
  env.AllowedForPlayer item player loot.sourceWorldObjectGUID

/-- The position in a list of the first entry for an item. -/
def findIndex (list : List QuestItem) (index : ℕ) : Option ℕ :=
  list.findIdx? fun entry => entry.index = index

/-- What `LootItemInSlot` finds: the item, and the positions of the entries of
the player it comes from. -/
structure SlotItem where
  ref : ItemRef
  qitem : Option ℕ
  ffaitem : Option ℕ
  conditem : Option ℕ

def entryLooted (list : Option (List QuestItem)) (index : ℕ) (item : LootItem) : Option ℕ × Bool :=
  match list with
  | none => (none, item.is_looted)
  | some list =>
    match findIndex list index with
    | none => (none, item.is_looted)
    | some position =>
      (some position, (list[position]?.map QuestItem.is_looted).getD item.is_looted)

def LootItemInSlot (loot : Loot) (lootSlot player : ℕ) : Option SlotItem :=
  if lootSlot ≥ loot.items.length then
    let questSlot := lootSlot - loot.items.length
    match loot.PlayerQuestItems.find? player with
    | none => none
    | some list =>
      match list[questSlot]? with
      | none => none
      | some qitem =>
        match loot.quest_items[qitem.index]? with
        | none => none
        | some item =>
          if item.follow_loot_rules && !loot.allowed env item player then
            none
          else if qitem.is_looted then
            none
          else
            some ⟨.quest qitem.index, some questSlot, none, none⟩
  else
    match loot.items[lootSlot]? with
    | none => none
    | some item =>
      if item.freeforall then
        let (ffaitem, looted) := entryLooted (loot.PlayerFFAItems.find? player) lootSlot item
        if looted then none else some ⟨.item lootSlot, none, ffaitem, none⟩
      else if item.conditions ≠ [] then
        let (conditem, looted) :=
          entryLooted (loot.PlayerNonQuestNonFFAConditionalItems.find? player) lootSlot item
        if looted then none else some ⟨.item lootSlot, none, none, conditem⟩
      else if item.is_looted then
        none
      else
        some ⟨.item lootSlot, none, none, none⟩

/-- The item `HandleLootMasterGiveOpcode` takes from a slot. -/
def masterGiveItem (loot : Loot) (slotid : ℕ) : Option ItemRef :=
  if slotid ≥ loot.items.length + loot.quest_items.length then
    none
  else if slotid ≥ loot.items.length then
    some (.quest (slotid - loot.items.length))
  else
    some (.item slotid)

/-- `HandleLootMasterGiveOpcode` after the checks of the looter and the target:
the item is handed to the target if he may have it and has the room. -/
def HandleLootMasterGive (loot : Loot) (slotid target : ℕ) : Option (ItemRef × Loot) :=
  match loot.masterGiveItem slotid with
  | none => none
  | some ref =>
    match loot.get ref with
    | none => none
    | some item =>
      if env.CanStoreNewItem target item.itemid item.count && loot.allowed env item target then
        let given := loot.modify (fun item => { item with count := 0, is_looted := true }) ref
        some (ref, { given with unlootedCount := uint8 (given.unlootedCount + 255) })
      else
        none

end Loot

end AzerothCore.Looting

/-!
## The loot window

`operator<<` writes the items a viewer may see with their slot numbers: first
the items of the loot, then his quest items, free-for-all items and conditional
items. Quest items he can no longer use are marked as looted on the way.
-/

namespace AzerothCore.Looting

inductive PermissionTypes where
  | ALL_PERMISSION
  | GROUP_PERMISSION
  | MASTER_PERMISSION
  | RESTRICTED_PERMISSION
  | ROUND_ROBIN_PERMISSION
  | OWNER_PERMISSION
  | NONE_PERMISSION
deriving DecidableEq

inductive LootSlotType where
  | ALLOW_LOOT
  | ROLL_ONGOING
  | MASTER
  | LOCKED
  | OWNER

structure ViewEntry where
  slot : ℕ
  ref : ItemRef
  slotType : LootSlotType

structure LootWindow where
  gold : ℕ
  itemsShown : ℕ
  entries : List ViewEntry

namespace Loot

variable (env : LootEnv) (viewer : ℕ) (permission : PermissionTypes)

def blockedSlotType : Option LootSlotType :=
  match permission with
  | .GROUP_PERMISSION => some .ROLL_ONGOING
  | .MASTER_PERMISSION =>
    match env.GetMasterLooterGuid viewer with
    | none => some .ALLOW_LOOT
    | some masterLooter => if masterLooter = viewer then some .MASTER else some .LOCKED
  | .RESTRICTED_PERMISSION => some .LOCKED
  | _ => none

def groupSlotType (loot : Loot) (item : LootItem) : Option LootSlotType :=
  if !item.is_looted && !item.freeforall && (item.conditions = [] || env.isMasterLooter viewer) &&
      loot.allowed env item viewer then
    if item.is_blocked then
      blockedSlotType env viewer permission
    else if item.rollWinnerGUID ≠ 0 then
      if item.rollWinnerGUID = viewer then some .OWNER else none
    else if loot.roundRobinPlayer = 0 || viewer = loot.roundRobinPlayer ||
        !item.is_underthreshold then
      some .ALLOW_LOOT
    else
      none
  else
    none

def plainVisible (loot : Loot) (item : LootItem) : Bool :=
  !item.is_looted && !item.freeforall && item.conditions = [] && loot.allowed env item viewer

def ownSlotType : LootSlotType :=
  if permission = .OWNER_PERMISSION then .OWNER else .ALLOW_LOOT

/-- The first walk: the items of the loot. -/
def itemSlotType (loot : Loot) (item : LootItem) : Option LootSlotType :=
  match permission with
  | .GROUP_PERMISSION => groupSlotType env viewer permission loot item
  | .MASTER_PERMISSION => groupSlotType env viewer permission loot item
  | .RESTRICTED_PERMISSION => groupSlotType env viewer permission loot item
  | .ROUND_ROBIN_PERMISSION =>
    if plainVisible env viewer loot item then
      if loot.roundRobinPlayer ≠ 0 && viewer ≠ loot.roundRobinPlayer then none
      else some .ALLOW_LOOT
    else
      none
  | .ALL_PERMISSION =>
    if plainVisible env viewer loot item then some (ownSlotType permission) else none
  | .OWNER_PERMISSION =>
    if plainVisible env viewer loot item then some (ownSlotType permission) else none
  | .NONE_PERMISSION => none

def itemEntries (loot : Loot) : List ViewEntry :=
  loot.items.zipIdx.filterMap fun (item, i) =>
    (itemSlotType env viewer permission loot item).map fun slotType =>
      ⟨uint8 i, .item i, slotType⟩

def partySlotType (item : LootItem) : LootSlotType :=
  if item.follow_loot_rules then
    match permission with
    | .MASTER_PERMISSION => .MASTER
    | .RESTRICTED_PERMISSION => if item.is_blocked then .LOCKED else ownSlotType permission
    | .GROUP_PERMISSION => if item.is_blocked then .ROLL_ONGOING else .ALLOW_LOOT
    | .ROUND_ROBIN_PERMISSION => if item.is_blocked then .ROLL_ONGOING else .ALLOW_LOOT
    | _ => ownSlotType permission
  else if !item.freeforall then
    if permission = .MASTER_PERMISSION then .MASTER else ownSlotType permission
  else
    ownSlotType permission

def questWalk (size position : ℕ) (quest_items : List LootItem) :
    List QuestItem → List ViewEntry × List QuestItem × List LootItem
  | [] => ([], [], quest_items)
  | qi :: list =>
    match quest_items[qi.index]? with
    | none =>
      let (entries, list, quest_items) := questWalk size (position + 1) quest_items list
      (entries, qi :: list, quest_items)
    | some item =>
      if !qi.is_looted && !item.is_looted then
        let (hasQuestForItem, showInLoot) := env.HasQuestForItemInLoot viewer item.itemid
        if !hasQuestForItem && !showInLoot then
          let hidden :=
            if item.freeforall then quest_items
            else quest_items.set qi.index { item with is_looted := true }
          let (entries, list, quest_items) := questWalk size (position + 1) hidden list
          (entries, { qi with is_looted := true } :: list, quest_items)
        else
          let slotType :=
            if hasQuestForItem then partySlotType permission item
            else if permission = .MASTER_PERMISSION then .MASTER
            else .LOCKED
          let (entries, list, quest_items) := questWalk size (position + 1) quest_items list
          (⟨uint8 (size + position), .quest qi.index, slotType⟩ :: entries, qi :: list, quest_items)
      else
        let (entries, list, quest_items) := questWalk size (position + 1) quest_items list
        (entries, qi :: list, quest_items)

def listEntries (items : List LootItem) (slotType : LootItem → LootSlotType)
    (list : List QuestItem) : List ViewEntry :=
  list.filterMap fun entry =>
    match items[entry.index]? with
    | none => none
    | some item =>
      if !entry.is_looted && !item.is_looted then
        some ⟨uint8 entry.index, .item entry.index, slotType item⟩
      else
        none

def ffaEntries (loot : Loot) : List ViewEntry :=
  listEntries loot.items (fun _ => .ALLOW_LOOT) ((loot.PlayerFFAItems.find? viewer).getD [])

def conditionalEntries (loot : Loot) : List ViewEntry :=
  listEntries loot.items (partySlotType permission)
    ((loot.PlayerNonQuestNonFFAConditionalItems.find? viewer).getD [])

/-- The quest walk on a loot: the marks it leaves stay. -/
def questEntries (loot : Loot) : List ViewEntry × Loot :=
  match loot.PlayerQuestItems.find? viewer with
  | none => ([], loot)
  | some list =>
    let (entries, list, quest_items) :=
      questWalk env viewer permission loot.items.length 0 loot.quest_items list
    (entries, { loot with
      quest_items := quest_items
      PlayerQuestItems := loot.PlayerQuestItems.insert viewer list })

/-- `operator<<(ByteBuffer&, LootView const&)` -/
def view (loot : Loot) : LootWindow × Loot :=
  if permission = .NONE_PERMISSION then
    (⟨0, 0, []⟩, loot)
  else
    let items := itemEntries env viewer permission loot
    let (quests, after) := questEntries env viewer permission loot
    let entries := items ++ quests ++ ffaEntries viewer after ++
      conditionalEntries viewer permission after
    (⟨loot.gold, uint8 entries.length, entries⟩, after)

end Loot

end AzerothCore.Looting

/-!
## Slots of the loot window

Every list of a player points to different items of its kind. In such a loot
the slots of a window are the positions the other functions look items up at,
except where the code numbers them in two ways: conditional items a master
looter sees in two walks, and quest items, whose slot is a position in the list
of the viewer.
-/

namespace AzerothCore.Looting
open List Option Bool

structure PointsTo (items : List LootItem) (list : List QuestItem)
    (kind : QuestItem → LootItem → Prop) : Prop where
  nodup : (list.map QuestItem.index).Nodup
  mem : ∀ entry ∈ list, ∃ item, items[entry.index]? = some item ∧ kind entry item

structure WellFormed (loot : Loot) : Prop where
  items_le : loot.items.length ≤ MAX_NR_LOOT_ITEMS
  quest_items_le : loot.quest_items.length ≤ MAX_NR_QUEST_ITEMS
  quest : ∀ player list, loot.PlayerQuestItems.find? player = some list →
    PointsTo loot.quest_items list fun _ _ => True
  ffa : ∀ player list, loot.PlayerFFAItems.find? player = some list →
    PointsTo loot.items list fun _ item => item.freeforall = true
  conditional : ∀ player list, loot.PlayerNonQuestNonFFAConditionalItems.find? player = some list →
    PointsTo loot.items list fun entry item => item.freeforall = false ∧
      item.conditions ≠ [] ∧ (entry.is_looted = true → item.is_looted = true)

/-- The list of a player, empty if he has none. -/
def listOf (map : StdMap ℕ (List QuestItem)) (player : ℕ) : List QuestItem :=
  (map.find? player).getD []

variable {items : List LootItem} {kind : QuestItem → LootItem → Prop} {list : List QuestItem}

theorem PointsTo.nil : PointsTo items [] kind := ⟨nodup_nil, nofun⟩

theorem pointsTo_listOf {map : StdMap ℕ (List QuestItem)} (player : ℕ)
    (hlists : ∀ player list, map.find? player = some list → PointsTo items list kind) :
    PointsTo items (listOf map player) kind := by
  unfold listOf
  cases hfind : map.find? player with
  | none => exact PointsTo.nil
  | some list => exact hlists player list hfind

theorem PointsTo.length_le (hpoints : PointsTo items list kind) : list.length ≤ items.length := by
  have hsubset : list.map QuestItem.index ⊆ List.range items.length := by
    intro index hmem
    obtain ⟨entry, hentry, rfl⟩ := List.mem_map.mp hmem
    obtain ⟨item, hitem, -⟩ := hpoints.mem entry hentry
    exact mem_range.mpr (List.getElem?_eq_some_iff.mp hitem).1
  have hlen := (subperm_of_subset hpoints.nodup hsubset).length_le
  rwa [length_map, length_range] at hlen

theorem PointsTo.eq_of_index (hpoints : PointsTo items list kind) {left right : QuestItem}
    (hleft : left ∈ list) (hright : right ∈ list) (hindex : left.index = right.index) :
    left = right :=
  inj_on_of_nodup_map hpoints.nodup hleft hright hindex

section Walks

variable (env : LootEnv) (viewer : ℕ) (permission : PermissionTypes)

def outstanding (entry : QuestItem) (item : LootItem) : Bool :=
  !entry.is_looted && !item.is_looted

def questVisible (item : LootItem) : Bool :=
  (env.HasQuestForItemInLoot viewer item.itemid).1 ||
    (env.HasQuestForItemInLoot viewer item.itemid).2

def hides (quest_items : List LootItem) (entry : QuestItem) : Bool :=
  match quest_items[entry.index]? with
  | none => false
  | some item => outstanding entry item && !questVisible env viewer item

def questEntry (size : ℕ) (quest_items : List LootItem) (entry : QuestItem) (position : ℕ) :
    Option ViewEntry :=
  match quest_items[entry.index]? with
  | none => none
  | some item =>
    if outstanding entry item && questVisible env viewer item then
      some ⟨uint8 (size + position), .quest entry.index,
        if (env.HasQuestForItemInLoot viewer item.itemid).1 then Loot.partySlotType permission item
        else if permission = .MASTER_PERMISSION then .MASTER
        else .LOCKED⟩
    else
      none

/-- The quest walk writes the entries one by one and marks those it hides. By
induction on the list: a mark touches no other entry. -/
theorem questWalk_spec (size position : ℕ) (quest_items : List LootItem)
    (hnodup : (list.map QuestItem.index).Nodup) :
    (Loot.questWalk env viewer permission size position quest_items list).1 =
        (list.zipIdx position).filterMap
          (fun entry => questEntry env viewer permission size quest_items entry.1 entry.2) ∧
      (Loot.questWalk env viewer permission size position quest_items list).2.1 =
        list.map (fun entry =>
          if hides env viewer quest_items entry then { entry with is_looted := true }
          else entry) ∧
      (Loot.questWalk env viewer permission size position quest_items list).2.2.length =
        quest_items.length ∧
      ∀ index, (∀ entry ∈ list, entry.index = index → hides env viewer quest_items entry = false) →
        (Loot.questWalk env viewer permission size position quest_items list).2.2[index]? =
          quest_items[index]? := by
  induction list generalizing position quest_items with
  | nil => exact ⟨rfl, rfl, rfl, fun _ _ => rfl⟩
  | cons entry list ih =>
    rw [map_cons, nodup_cons] at hnodup
    obtain ⟨hfresh, hnodup⟩ := hnodup
    rw [zipIdx_cons, filterMap_cons, map_cons, Loot.questWalk]
    cases hitem : quest_items[entry.index]? with
    | none =>
      obtain ⟨hentries, hlist, hlen, hitems⟩ := ih (position + 1) quest_items hnodup
      have hwritten : questEntry env viewer permission size quest_items entry position = none := by
        rw [questEntry, hitem]
      have hshown : hides env viewer quest_items entry = false := by
        rw [hides, hitem]
      rw [hwritten, hshown]
      refine ⟨hentries, congrArg _ hlist, hlen, fun index hindex => ?_⟩
      exact hitems index fun other hother => hindex other (mem_cons_of_mem _ hother)
    | some item =>
      by_cases hout : outstanding entry item = true
      · have hguard : (!entry.is_looted && !item.is_looted) = true := hout
        by_cases hvisible : questVisible env viewer item = true
        · obtain ⟨hentries, hlist, hlen, hitems⟩ := ih (position + 1) quest_items hnodup
          have hnothidden : (!(env.HasQuestForItemInLoot viewer item.itemid).1 &&
              !(env.HasQuestForItemInLoot viewer item.itemid).2) = false := by
            rw [← Bool.not_or]
            exact congrArg Bool.not hvisible
          have hwritten : questEntry env viewer permission size quest_items entry position =
              some ⟨uint8 (size + position), .quest entry.index,
                if (env.HasQuestForItemInLoot viewer item.itemid).1 then
                  Loot.partySlotType permission item
                else if permission = .MASTER_PERMISSION then .MASTER
                else .LOCKED⟩ := by
            rw [questEntry, hitem]
            dsimp only
            rw [hout, hvisible, Bool.and_self, if_pos rfl]
          have hshown : hides env viewer quest_items entry = false := by
            rw [hides, hitem]
            dsimp only
            rw [hvisible, Bool.not_true, Bool.and_false]
          rw [hwritten, hshown]
          dsimp only
          rw [if_pos hguard, hnothidden]
          refine ⟨congrArg _ hentries, congrArg _ hlist, hlen, fun index hindex => ?_⟩
          exact hitems index fun other hother => hindex other (mem_cons_of_mem _ hother)
        · have hinvisible : questVisible env viewer item = false := eq_false_iff.mpr hvisible
          have hhidden : (!(env.HasQuestForItemInLoot viewer item.itemid).1 &&
              !(env.HasQuestForItemInLoot viewer item.itemid).2) = true := by
            rw [← Bool.not_or]
            exact congrArg Bool.not hinvisible
          have hwritten : questEntry env viewer permission size quest_items entry position
              = none := by
            rw [questEntry, hitem]
            dsimp only
            rw [hinvisible, Bool.and_false, if_neg Bool.false_ne_true]
          have hshown : hides env viewer quest_items entry = true := by
            rw [hides, hitem]
            dsimp only
            rw [hout, hinvisible, Bool.not_false, Bool.and_self]
          rw [hwritten, hshown]
          dsimp only
          rw [if_pos hguard, hhidden, if_pos rfl, if_pos rfl]
          let marked := if item.freeforall = true then quest_items
            else quest_items.set entry.index { item with is_looted := true }
          have hkept : ∀ index, index ≠ entry.index → marked[index]? = quest_items[index]? := by
            intro index hne
            change (if item.freeforall = true then quest_items
              else quest_items.set entry.index { item with is_looted := true })[index]? = _
            split
            · rfl
            · exact List.getElem?_set_ne (Ne.symm hne)
          have hother : ∀ other ∈ list, marked[other.index]? = quest_items[other.index]? := by
            intro other hmem
            apply hkept
            intro heq
            exact hfresh (heq ▸ List.mem_map_of_mem hmem)
          have hhides : ∀ other ∈ list,
              hides env viewer marked other = hides env viewer quest_items other := by
            intro other hmem
            rw [hides, hides, hother other hmem]
          obtain ⟨hentries, hlist, hlen, hitems⟩ := ih (position + 1) marked hnodup
          have hmarked : marked.length = quest_items.length := by
            change (if item.freeforall = true then quest_items
              else quest_items.set entry.index { item with is_looted := true }).length = _
            split
            · rfl
            · exact length_set
          refine ⟨?_, ?_, hlen.trans hmarked, fun index hindex => ?_⟩
          · refine hentries.trans (filterMap_congr fun other hmem => ?_)
            have hlater := fst_mem_of_mem_zipIdx hmem
            rw [questEntry, questEntry, hother other.1 hlater]
          · refine congrArg _ (hlist.trans (map_congr_left fun other hmem => ?_))
            rw [hhides other hmem]
          · have hne : index ≠ entry.index := by
              intro heq
              have hnot := hindex entry mem_cons_self heq.symm
              rw [hshown] at hnot
              cases hnot
            refine (hitems index fun other hmem heq => ?_).trans (hkept index hne)
            rw [hhides other hmem]
            exact hindex other (mem_cons_of_mem _ hmem) heq
      · obtain ⟨hentries, hlist, hlen, hitems⟩ := ih (position + 1) quest_items hnodup
        have hgone : outstanding entry item = false := eq_false_iff.mpr hout
        have hguard : ¬ (!entry.is_looted && !item.is_looted) = true := hout
        have hwritten : questEntry env viewer permission size quest_items entry position
            = none := by
          rw [questEntry, hitem]
          dsimp only
          rw [hgone, Bool.false_and, if_neg Bool.false_ne_true]
        have hshown : hides env viewer quest_items entry = false := by
          rw [hides, hitem]
          dsimp only
          rw [hgone, Bool.false_and]
        rw [hwritten, hshown]
        dsimp only
        rw [if_neg hguard]
        refine ⟨hentries, congrArg _ hlist, hlen, fun index hindex => ?_⟩
        exact hitems index fun other hother => hindex other (mem_cons_of_mem _ hother)

end Walks

theorem sublist_map_filterMap {α β γ : Type*} {f : α → Option β} {key : β → γ} {keyOf : α → γ}
    {list : List α} (hkey : ∀ a ∈ list, ∀ b, f a = some b → key b = keyOf a) :
    ((list.filterMap f).map key).Sublist (list.map keyOf) := by
  induction list with
  | nil => exact List.Sublist.refl _
  | cons a list ih =>
    have hrest := ih fun other hmem => hkey other (mem_cons_of_mem _ hmem)
    rw [filterMap_cons]
    rcases hvalue : f a with _ | b
    · exact hrest.cons _
    have hhead := hkey a mem_cons_self b hvalue
    rw [map_cons, map_cons, hhead]
    exact hrest.cons_cons _

section Parts

variable {env : LootEnv} {loot : Loot} {viewer : ℕ} {permission : PermissionTypes}
  {entry : ViewEntry}

theorem mem_itemEntries (hitems : loot.items.length ≤ MAX_NR_LOOT_ITEMS) :
    entry ∈ Loot.itemEntries env viewer permission loot ↔
      ∃ index item slotType, loot.items[index]? = some item ∧
        Loot.itemSlotType env viewer permission loot item = some slotType ∧
        entry = ⟨index, .item index, slotType⟩ := by
  unfold Loot.itemEntries
  rw [mem_filterMap]
  constructor
  · rintro ⟨⟨item, index⟩, hmem, hentry⟩
    have hitem : loot.items[index]? = some item := mem_zipIdx_iff_getElem?.mp hmem
    have hlt := (List.getElem?_eq_some_iff.mp hitem).1
    obtain ⟨slotType, hslot, rfl⟩ := map_eq_some_iff.mp hentry
    rw [MAX_NR_LOOT_ITEMS] at hitems
    rw [uint8_of_lt (by omega)]
    exact ⟨index, item, slotType, hitem, hslot, rfl⟩
  · rintro ⟨index, item, slotType, hitem, hslot, rfl⟩
    have hlt := (List.getElem?_eq_some_iff.mp hitem).1
    rw [MAX_NR_LOOT_ITEMS] at hitems
    refine ⟨(item, index), mem_zipIdx_iff_getElem?.mpr hitem, ?_⟩
    dsimp only
    rw [hslot, uint8_of_lt (by omega)]
    rfl

theorem nodup_itemEntries (hitems : loot.items.length ≤ MAX_NR_LOOT_ITEMS) :
    ((Loot.itemEntries env viewer permission loot).map ViewEntry.slot).Nodup := by
  have hsublist : ((Loot.itemEntries env viewer permission loot).map ViewEntry.slot).Sublist
      (loot.items.zipIdx.map Prod.snd) := by
    apply sublist_map_filterMap
    rintro ⟨item, index⟩ hmem written hwritten
    have hlt := (List.getElem?_eq_some_iff.mp (mem_zipIdx_iff_getElem?.mp hmem)).1
    obtain ⟨slotType, -, rfl⟩ := map_eq_some_iff.mp hwritten
    rw [MAX_NR_LOOT_ITEMS] at hitems
    exact uint8_of_lt (by omega)
  apply hsublist.nodup
  rw [zipIdx_map_snd]
  exact nodup_range'

variable {slotType : LootItem → LootSlotType}

section

variable (hpoints : PointsTo items list kind) (hitems : items.length ≤ MAX_NR_LOOT_ITEMS)
include hpoints hitems

theorem mem_listEntries : entry ∈ Loot.listEntries items slotType list ↔
      ∃ listed item, listed ∈ list ∧ items[listed.index]? = some item ∧ kind listed item ∧
        outstanding listed item = true ∧
        entry = ⟨listed.index, .item listed.index, slotType item⟩ := by
  unfold Loot.listEntries
  rw [mem_filterMap]
  rw [MAX_NR_LOOT_ITEMS] at hitems
  constructor
  · rintro ⟨listed, hmem, hentry⟩
    obtain ⟨item, hitem, hkind⟩ := hpoints.mem listed hmem
    have hlt := (List.getElem?_eq_some_iff.mp hitem).1
    rw [hitem] at hentry
    dsimp only at hentry
    split at hentry
    case isFalse => cases hentry
    rename_i hout
    cases hentry
    rw [uint8_of_lt (by omega)]
    exact ⟨listed, item, hmem, hitem, hkind, hout, rfl⟩
  · rintro ⟨listed, item, hmem, hitem, -, hout, rfl⟩
    have hlt := (List.getElem?_eq_some_iff.mp hitem).1
    refine ⟨listed, hmem, ?_⟩
    have hguard : (!listed.is_looted && !item.is_looted) = true := hout
    rw [hitem]
    dsimp only
    rw [if_pos hguard, uint8_of_lt (by omega)]

theorem nodup_listEntries : ((Loot.listEntries items slotType list).map ViewEntry.slot).Nodup := by
  refine (sublist_map_filterMap (fun listed hmem written hwritten => ?_)).nodup hpoints.nodup
  obtain ⟨item, hitem, -⟩ := hpoints.mem listed hmem
  have hlt := (List.getElem?_eq_some_iff.mp hitem).1
  rw [MAX_NR_LOOT_ITEMS] at hitems
  rw [hitem] at hwritten
  dsimp only at hwritten
  split at hwritten
  case isFalse => cases hwritten
  cases hwritten
  exact uint8_of_lt (by omega)

end

/-- What the quest walk leaves behind. -/
structure Walked (env : LootEnv) (viewer : ℕ) (loot after : Loot) : Prop where
  items : after.items = loot.items
  ffa : after.PlayerFFAItems = loot.PlayerFFAItems
  conditional : after.PlayerNonQuestNonFFAConditionalItems =
    loot.PlayerNonQuestNonFFAConditionalItems
  source : after.sourceWorldObjectGUID = loot.sourceWorldObjectGUID
  length : after.quest_items.length = loot.quest_items.length
  list : listOf after.PlayerQuestItems viewer =
    (listOf loot.PlayerQuestItems viewer).map fun entry =>
      if hides env viewer loot.quest_items entry then { entry with is_looted := true } else entry
  quest_items : ∀ index, (∀ entry ∈ listOf loot.PlayerQuestItems viewer, entry.index = index →
    hides env viewer loot.quest_items entry = false) →
    after.quest_items[index]? = loot.quest_items[index]?

theorem questEntries_spec (hwf : WellFormed loot) :
    (Loot.questEntries env viewer permission loot).1 =
        ((listOf loot.PlayerQuestItems viewer).zipIdx).filterMap (fun entry =>
          questEntry env viewer permission loot.items.length loot.quest_items entry.1 entry.2) ∧
      Walked env viewer loot (Loot.questEntries env viewer permission loot).2 := by
  unfold Loot.questEntries
  rcases hfind : loot.PlayerQuestItems.find? viewer with _ | list
  · have hlist : listOf loot.PlayerQuestItems viewer = [] := by
      rw [listOf, hfind, getD_none]
    rw [hlist]
    exact ⟨rfl, rfl, rfl, rfl, rfl, rfl, hlist ▸ rfl, fun _ _ => rfl⟩
  have hlist : listOf loot.PlayerQuestItems viewer = list := by
    rw [listOf, hfind, getD_some]
  obtain ⟨hentries, hafter, hlen, hitems⟩ := questWalk_spec env viewer permission
    loot.items.length 0 loot.quest_items (hwf.quest viewer list hfind).nodup
  refine ⟨?_, rfl, rfl, rfl, rfl, hlen, ?_, ?_⟩
  · rw [hlist]
    exact hentries
  · rw [hlist, ← hafter, listOf]
    rw [StdMap.find?_insert_self, getD_some]
  · rw [hlist]
    exact hitems

end Parts

end AzerothCore.Looting

/-!
## Where the loot window agrees with the slots behind it

The slots of a window are different, are counted, and name the items that
`LootItemInSlot` and the master looter's gift take from them exactly when no
conditional item is written twice for a master looter, the quest items shown
may be had, and for a master looter stand in his list where they stand in the
loot.
-/

namespace AzerothCore.Looting
open List Option

variable {env : LootEnv} {loot : Loot} {viewer : ℕ} {permission : PermissionTypes}

def hasGroupRules : PermissionTypes → Bool
  | .GROUP_PERMISSION => true
  | .MASTER_PERMISSION => true
  | .RESTRICTED_PERMISSION => true
  | _ => false

def groupVisible (loot : Loot) (viewer : ℕ) (item : LootItem) : Bool :=
  item.is_blocked ||
    if item.rollWinnerGUID ≠ 0 then
      item.rollWinnerGUID = viewer
    else
      loot.roundRobinPlayer = 0 || viewer = loot.roundRobinPlayer || !item.is_underthreshold

def questShown (env : LootEnv) (viewer : ℕ) (listed : QuestItem) (item : LootItem) : Bool :=
  outstanding listed item && questVisible env viewer item

structure WindowAgrees (env : LootEnv) (loot : Loot) (viewer : ℕ)
    (permission : PermissionTypes) : Prop where
  nodup : (((Loot.view env viewer permission loot).1.entries).map ViewEntry.slot).Nodup
  count : (Loot.view env viewer permission loot).1.itemsShown =
    (Loot.view env viewer permission loot).1.entries.length
  lookup : ∀ entry ∈ (Loot.view env viewer permission loot).1.entries,
    ((Loot.view env viewer permission loot).2.LootItemInSlot env entry.slot viewer).map
      Loot.SlotItem.ref = some entry.ref
  master : env.isMasterLooter viewer = true →
    ∀ entry ∈ (Loot.view env viewer permission loot).1.entries,
      (Loot.view env viewer permission loot).2.masterGiveItem entry.slot = some entry.ref

/-- The loot has nothing for the viewer that the code treats in two ways. -/
structure Unambiguous (env : LootEnv) (loot : Loot) (viewer : ℕ)
    (permission : PermissionTypes) : Prop where
  conditional : hasGroupRules permission = true → env.isMasterLooter viewer = true →
    ∀ listed ∈ listOf loot.PlayerNonQuestNonFFAConditionalItems viewer, ∀ item,
      loot.items[listed.index]? = some item → outstanding listed item = true →
      loot.allowed env item viewer = true → groupVisible loot viewer item = false
  allowed : permission ≠ .NONE_PERMISSION → ∀ listed ∈ listOf loot.PlayerQuestItems viewer, ∀ item,
      loot.quest_items[listed.index]? = some item → questShown env viewer listed item = true →
      item.follow_loot_rules = true → loot.allowed env item viewer = true
  position : permission ≠ .NONE_PERMISSION → env.isMasterLooter viewer = true →
    ∀ position listed, (listOf loot.PlayerQuestItems viewer)[position]? = some listed → ∀ item,
      loot.quest_items[listed.index]? = some item → questShown env viewer listed item = true →
      listed.index = position

theorem isSome_blockedSlotType (hrules : hasGroupRules permission = true) :
    (Loot.blockedSlotType env viewer permission).isSome = true := by
  cases permission with
  | MASTER_PERMISSION =>
    unfold Loot.blockedSlotType
    rcases env.GetMasterLooterGuid viewer with _ | masterLooter
    · rfl
    dsimp only
    split
    · rfl
    · rfl
  | GROUP_PERMISSION | RESTRICTED_PERMISSION => rfl
  | ALL_PERMISSION | ROUND_ROBIN_PERMISSION | OWNER_PERMISSION | NONE_PERMISSION => cases hrules

theorem isSome_groupSlotType (hrules : hasGroupRules permission = true) (item : LootItem) :
    (Loot.groupSlotType env viewer permission loot item).isSome =
      (!item.is_looted && !item.freeforall &&
        (item.conditions = [] || env.isMasterLooter viewer) && loot.allowed env item viewer &&
        groupVisible loot viewer item) := by
  unfold Loot.groupSlotType groupVisible
  by_cases hguard : (!item.is_looted && !item.freeforall &&
      (item.conditions = [] || env.isMasterLooter viewer) && loot.allowed env item viewer) = true
  · rw [if_pos hguard, hguard, Bool.true_and]
    by_cases hblocked : item.is_blocked = true
    · rw [if_pos hblocked, hblocked, Bool.true_or]
      exact isSome_blockedSlotType hrules
    rw [if_neg hblocked, Bool.eq_false_iff.mpr hblocked, Bool.false_or]
    split
    case isTrue hwon =>
      by_cases hown : item.rollWinnerGUID = viewer
      · rw [if_pos hown, decide_eq_true hown]
        rfl
      · rw [if_neg hown, decide_eq_false hown]
        rfl
    case isFalse =>
      split
      case isTrue hturn => exact hturn.symm
      case isFalse hturn => exact (Bool.eq_false_iff.mpr hturn).symm
  · rw [if_neg hguard, Bool.eq_false_iff.mpr hguard, Bool.false_and]
    rfl

variable {item : LootItem} {items : List LootItem} {kind : QuestItem → LootItem → Prop}
  {listed : QuestItem} {map : StdMap ℕ (List QuestItem)} {index : ℕ}

/-- Every item of the first walk can be looted by someone else too. -/
theorem itemSlotType_some {slotType : LootSlotType}
    (hslot : Loot.itemSlotType env viewer permission loot item = some slotType) :
    item.is_looted = false ∧ item.freeforall = false := by
  have hgroup : hasGroupRules permission = true →
      Loot.groupSlotType env viewer permission loot item = some slotType →
      item.is_looted = false ∧ item.freeforall = false := by
    intro hrules hsome
    have hguard := (@isSome_groupSlotType env loot viewer _ hrules item).symm
    rw [hsome, isSome_some] at hguard
    simp only [Bool.and_eq_true, Bool.not_eq_true'] at hguard
    exact hguard.1.1.1
  have hplain : Loot.plainVisible env viewer loot item = true →
      item.is_looted = false ∧ item.freeforall = false := by
    intro hvisible
    unfold Loot.plainVisible at hvisible
    simp only [Bool.and_eq_true, Bool.not_eq_true'] at hvisible
    exact ⟨hvisible.1.1.1, hvisible.1.1.2⟩
  unfold Loot.itemSlotType at hslot
  cases permission with
  | GROUP_PERMISSION | MASTER_PERMISSION | RESTRICTED_PERMISSION => exact hgroup rfl hslot
  | NONE_PERMISSION => cases hslot
  | ROUND_ROBIN_PERMISSION | ALL_PERMISSION | OWNER_PERMISSION =>
    dsimp only at hslot
    split at hslot
    case isTrue hvisible => exact hplain hvisible
    case isFalse => cases hslot

theorem isSome_itemSlotType_conditional (hconds : item.conditions ≠ []) :
    (Loot.itemSlotType env viewer permission loot item).isSome = true ↔
      hasGroupRules permission = true ∧ env.isMasterLooter viewer = true ∧
        item.is_looted = false ∧ item.freeforall = false ∧
        loot.allowed env item viewer = true ∧ groupVisible loot viewer item = true := by
  have hgroup : hasGroupRules permission = true →
      ((Loot.groupSlotType env viewer permission loot item).isSome = true ↔
        hasGroupRules permission = true ∧ env.isMasterLooter viewer = true ∧
        item.is_looted = false ∧ item.freeforall = false ∧
        loot.allowed env item viewer = true ∧ groupVisible loot viewer item = true) := by
    intro hrules
    rw [isSome_groupSlotType hrules, decide_eq_false hconds, Bool.false_or]
    simp only [Bool.and_eq_true, Bool.not_eq_true', hrules, true_and]
    tauto
  have hplain : Loot.plainVisible env viewer loot item = false := by
    rw [Loot.plainVisible, decide_eq_false hconds, Bool.and_false, Bool.false_and]
  unfold Loot.itemSlotType
  cases permission with
  | GROUP_PERMISSION | MASTER_PERMISSION | RESTRICTED_PERMISSION => exact hgroup rfl
  | NONE_PERMISSION => exact ⟨nofun, (fun h => nomatch h.1)⟩
  | ROUND_ROBIN_PERMISSION | ALL_PERMISSION | OWNER_PERMISSION =>
    rw [hplain, if_neg Bool.false_ne_true]
    exact ⟨nofun, (fun h => nomatch h.1)⟩

theorem entryLooted_listOf (item : LootItem) (hpoints : PointsTo items (listOf map viewer) kind)
    (hmem : listed ∈ listOf map viewer) :
    (Loot.entryLooted (map.find? viewer) listed.index item).2 = listed.is_looted := by
  unfold listOf at hpoints hmem
  rcases hfind : map.find? viewer with _ | list
  · rw [hfind, getD_none] at hmem
    cases hmem
  rw [hfind, getD_some] at hpoints hmem
  unfold Loot.entryLooted Loot.findIndex
  dsimp only
  rcases hpos : list.findIdx? fun entry => entry.index = listed.index with _ | position
  · have hnot := List.findIdx?_eq_none_iff.mp hpos listed hmem
    exact absurd rfl (of_decide_eq_false hnot)
  obtain ⟨hlt, hindex, -⟩ := List.findIdx?_eq_some_iff_getElem.mp hpos
  have hsame := hpoints.eq_of_index (getElem_mem hlt) hmem (of_decide_eq_true hindex)
  rw [hpos]
  dsimp only
  rw [List.getElem?_eq_getElem hlt, hsame]
  rfl

theorem entryLooted_of_kind (hpoints : PointsTo items (listOf map viewer) kind)
    (hitem : items[index]? = some item)
    (hkind : ∀ listed, kind listed item → listed.is_looted = true → item.is_looted = true)
    (hlooted : item.is_looted = false) :
    (Loot.entryLooted (map.find? viewer) index item).2 = false := by
  by_cases hlisted : ∃ listed ∈ listOf map viewer, listed.index = index
  · obtain ⟨listed, hmem, rfl⟩ := hlisted
    obtain ⟨item', hitem', hkind'⟩ := hpoints.mem listed hmem
    rw [hitem] at hitem'
    cases hitem'
    rw [entryLooted_listOf item hpoints hmem]
    by_contra hne
    rw [hkind listed hkind' (Bool.eq_true_of_not_eq_false hne)] at hlooted
    cases hlooted
  · unfold Loot.entryLooted Loot.findIndex
    unfold listOf at hlisted
    rcases hfind : map.find? viewer with _ | list
    · exact hlooted
    rw [hfind, getD_some] at hlisted
    have hnone : (list.findIdx? fun entry => entry.index = index) = none := by
      rw [List.findIdx?_eq_none_iff]
      intro listed hmem
      exact decide_eq_false fun heq => hlisted ⟨listed, hmem, heq⟩
    dsimp only
    rw [hnone]
    exact hlooted

section Slots

variable {after : Loot}

section

variable (hwf : WellFormed loot) (hwalked : Walked env viewer loot after)
include hwf hwalked

theorem LootItemInSlot_item
    (hitem : loot.items[index]? = some item) (hlooted : item.is_looted = false)
    (hffa : item.freeforall = false) :
    (after.LootItemInSlot env index viewer).map Loot.SlotItem.ref = some (.item index) := by
  have hlt := (List.getElem?_eq_some_iff.mp hitem).1
  unfold Loot.LootItemInSlot
  rw [hwalked.items, hwalked.conditional, if_neg (Nat.not_le_of_lt hlt), hitem]
  dsimp only
  rw [if_neg (Bool.eq_false_iff.mp hffa)]
  by_cases hconds : item.conditions ≠ []
  · have hflag := entryLooted_of_kind
      (pointsTo_listOf viewer hwf.conditional) hitem (fun listed hkind => hkind.2.2) hlooted
    rw [if_pos hconds, hflag, if_neg Bool.false_ne_true]
    rfl
  · rw [if_neg hconds, if_neg (Bool.eq_false_iff.mp hlooted)]
    rfl

theorem LootItemInSlot_ffa (hmem : listed ∈ listOf loot.PlayerFFAItems viewer)
    (hitem : loot.items[listed.index]? = some item) (hffa : item.freeforall = true)
    (hlooted : listed.is_looted = false) :
    (after.LootItemInSlot env listed.index viewer).map Loot.SlotItem.ref
      = some (.item listed.index) := by
  have hlt := (List.getElem?_eq_some_iff.mp hitem).1
  have hflag := entryLooted_listOf item (pointsTo_listOf viewer hwf.ffa) hmem
  unfold Loot.LootItemInSlot
  rw [hwalked.items, hwalked.ffa, if_neg (Nat.not_le_of_lt hlt), hitem]
  dsimp only
  rw [if_pos hffa, hflag, hlooted, if_neg Bool.false_ne_true]
  rfl

theorem LootItemInSlot_quest
    {position : ℕ} (hlisted : (listOf loot.PlayerQuestItems viewer)[position]? = some listed)
    (hitem : loot.quest_items[listed.index]? = some item)
    (hshown : questShown env viewer listed item = true) :
    (after.LootItemInSlot env (loot.items.length + position) viewer).map Loot.SlotItem.ref
        = some (.quest listed.index) ↔
      (item.follow_loot_rules = true → loot.allowed env item viewer = true) := by
  have hmem : listed ∈ listOf loot.PlayerQuestItems viewer := mem_of_getElem? hlisted
  have hpoints := pointsTo_listOf viewer hwf.quest
  rw [questShown, Bool.and_eq_true] at hshown
  obtain ⟨hout, hvisible⟩ := hshown
  have hhides : hides env viewer loot.quest_items listed = false := by
    rw [hides, hitem]
    dsimp only
    rw [hvisible, Bool.not_true, Bool.and_false]
  have hlooted : listed.is_looted = false := by
    rw [outstanding, Bool.and_eq_true, Bool.not_eq_true'] at hout
    exact hout.1
  have hkept : after.quest_items[listed.index]? = some item := by
    rw [hwalked.quest_items listed.index, hitem]
    intro other hother heq
    rw [hpoints.eq_of_index hother hmem heq]
    exact hhides
  have hentry : (listOf after.PlayerQuestItems viewer)[position]? = some listed := by
    rw [hwalked.list, List.getElem?_map, hlisted, map_some, hhides, if_neg Bool.false_ne_true]
  have hallowed : after.allowed env item viewer = loot.allowed env item viewer := by
    rw [Loot.allowed, Loot.allowed, hwalked.source]
  unfold Loot.LootItemInSlot
  rw [hwalked.items, if_pos (Nat.le_add_right _ _), Nat.add_sub_cancel_left]
  rcases hfind : after.PlayerQuestItems.find? viewer with _ | list
  · rw [listOf, hfind, getD_none] at hentry
    cases hentry
  rw [listOf, hfind, getD_some] at hentry
  dsimp only
  rw [hentry]
  dsimp only
  rw [hkept]
  dsimp only
  rw [hallowed, if_neg (Bool.eq_false_iff.mp hlooted)]
  by_cases hrefused : (item.follow_loot_rules && !loot.allowed env item viewer) = true
  · rw [if_pos hrefused]
    rw [Bool.and_eq_true, Bool.not_eq_true'] at hrefused
    constructor
    · rintro ⟨⟩
    · intro hfollows
      rw [hfollows hrefused.1] at hrefused
      cases hrefused.2
  · rw [if_neg hrefused]
    constructor
    · intro _ hfollows
      rw [hfollows, Bool.true_and, Bool.not_eq_true, Bool.not_eq_false'] at hrefused
      exact hrefused
    · exact fun _ => rfl

end

theorem masterGiveItem_item (hwalked : Walked env viewer loot after)
    (hlt : index < loot.items.length) : after.masterGiveItem index = some (.item index) := by
  unfold Loot.masterGiveItem
  rw [hwalked.items, if_neg (by omega), if_neg (by omega)]

theorem masterGiveItem_quest (hwalked : Walked env viewer loot after) {position : ℕ}
    (hlt : position < loot.quest_items.length) :
    after.masterGiveItem (loot.items.length + position) = some (.quest index) ↔
      index = position := by
  unfold Loot.masterGiveItem
  rw [hwalked.items, hwalked.length, if_neg (by omega), if_pos (Nat.le_add_right _ _),
    Nat.add_sub_cancel_left, Option.some.injEq, ItemRef.quest.injEq, eq_comm]

end Slots

theorem view_none : Loot.view env viewer .NONE_PERMISSION loot = (⟨0, 0, []⟩, loot) := if_pos rfl

theorem view_entries (hperm : permission ≠ .NONE_PERMISSION) :
    (Loot.view env viewer permission loot).1.entries =
      Loot.itemEntries env viewer permission loot ++
        (Loot.questEntries env viewer permission loot).1 ++
        Loot.ffaEntries viewer (Loot.questEntries env viewer permission loot).2 ++
        Loot.conditionalEntries viewer permission
          (Loot.questEntries env viewer permission loot).2 := by
  rw [Loot.view, if_neg hperm]

theorem view_loot (hperm : permission ≠ .NONE_PERMISSION) :
    (Loot.view env viewer permission loot).2 =
      (Loot.questEntries env viewer permission loot).2 := by
  rw [Loot.view, if_neg hperm]

theorem nodup_map_append {α β : Type*} {key : α → β} {left right : List α}
    (hleft : (left.map key).Nodup) (hright : (right.map key).Nodup)
    (hdisj : ∀ a ∈ left, ∀ b ∈ right, key a ≠ key b) : ((left ++ right).map key).Nodup := by
  rw [map_append, nodup_append]
  refine ⟨hleft, hright, ?_⟩
  intro x hx y hy
  obtain ⟨a, ha, rfl⟩ := List.mem_map.mp hx
  obtain ⟨b, hb, rfl⟩ := List.mem_map.mp hy
  exact hdisj a ha b hb

section Window

variable (hwf : WellFormed loot)

include hwf

variable {entry : ViewEntry}

theorem mem_questEntries : entry ∈ (Loot.questEntries env viewer permission loot).1 ↔
      ∃ position listed item slotType,
        (listOf loot.PlayerQuestItems viewer)[position]? = some listed ∧
        loot.quest_items[listed.index]? = some item ∧
        questShown env viewer listed item = true ∧
        slotType = (if (env.HasQuestForItemInLoot viewer item.itemid).1 then
          Loot.partySlotType permission item
          else if permission = .MASTER_PERMISSION then .MASTER else .LOCKED) ∧
        entry = ⟨loot.items.length + position, .quest listed.index, slotType⟩ := by
  have hpoints := pointsTo_listOf viewer hwf.quest
  have hlen := hpoints.length_le
  have hquest := hwf.quest_items_le
  have hitems := hwf.items_le
  rw [MAX_NR_QUEST_ITEMS] at hquest
  rw [MAX_NR_LOOT_ITEMS] at hitems
  rw [(questEntries_spec hwf).1, mem_filterMap]
  constructor
  · rintro ⟨⟨listed, position⟩, hmem, hentry⟩
    have hlisted := mem_zipIdx_iff_getElem?.mp hmem
    have hlt := (List.getElem?_eq_some_iff.mp hlisted).1
    obtain ⟨item, hitem, -⟩ := hpoints.mem listed (fst_mem_of_mem_zipIdx hmem)
    rw [questEntry, hitem] at hentry
    dsimp only at hentry hlisted hlt
    split at hentry
    case isFalse => cases hentry
    rename_i hshown
    cases hentry
    rw [uint8_of_lt (by omega)]
    exact ⟨position, listed, item, _, hlisted, hitem, hshown, rfl, rfl⟩
  · rintro ⟨position, listed, item, slotType, hlisted, hitem, hshown, rfl, rfl⟩
    have hlt := (List.getElem?_eq_some_iff.mp hlisted).1
    refine ⟨(listed, position), mem_zipIdx_iff_getElem?.mpr hlisted, ?_⟩
    have hguard : (outstanding listed item && questVisible env viewer item) = true := hshown
    rw [questEntry, hitem]
    dsimp only
    rw [if_pos hguard, uint8_of_lt (by omega)]

theorem nodup_questEntries :
    (((Loot.questEntries env viewer permission loot).1).map ViewEntry.slot).Nodup := by
  have hpoints := pointsTo_listOf viewer hwf.quest
  have hlen := hpoints.length_le
  have hquest := hwf.quest_items_le
  have hitems := hwf.items_le
  rw [MAX_NR_QUEST_ITEMS] at hquest
  rw [MAX_NR_LOOT_ITEMS] at hitems
  rw [(questEntries_spec hwf).1]
  have hsublist : ((((listOf loot.PlayerQuestItems viewer).zipIdx).filterMap fun entry =>
      questEntry env viewer permission loot.items.length loot.quest_items entry.1
        entry.2).map ViewEntry.slot).Sublist
      ((((listOf loot.PlayerQuestItems viewer).zipIdx).map Prod.snd).map
        (loot.items.length + ·)) := by
    rw [List.map_map]
    apply sublist_map_filterMap
    rintro ⟨listed, position⟩ hmem written hwritten
    have hlisted := mem_zipIdx_iff_getElem?.mp hmem
    have hlt := (List.getElem?_eq_some_iff.mp hlisted).1
    obtain ⟨item, hitem, -⟩ := hpoints.mem listed (fst_mem_of_mem_zipIdx hmem)
    rw [questEntry, hitem] at hwritten
    dsimp only at hwritten hlt
    split at hwritten
    case isFalse => cases hwritten
    cases hwritten
    exact uint8_of_lt (by omega)
  apply hsublist.nodup
  rw [zipIdx_map_snd]
  exact List.Nodup.map (fun left right heq => Nat.add_left_cancel heq) nodup_range'

theorem mem_ffaEntries :
    entry ∈ Loot.ffaEntries viewer (Loot.questEntries env viewer permission loot).2 ↔
      ∃ listed item, listed ∈ listOf loot.PlayerFFAItems viewer ∧
        loot.items[listed.index]? = some item ∧ item.freeforall = true ∧
        outstanding listed item = true ∧
        entry = ⟨listed.index, .item listed.index, .ALLOW_LOOT⟩ := by
  have hwalked := (@questEntries_spec env _ viewer permission hwf).2
  rw [Loot.ffaEntries, hwalked.items, hwalked.ffa]
  exact mem_listEntries (pointsTo_listOf viewer hwf.ffa) hwf.items_le

theorem mem_conditionalEntries : entry ∈ Loot.conditionalEntries viewer permission
        (Loot.questEntries env viewer permission loot).2 ↔
      ∃ listed item, listed ∈ listOf loot.PlayerNonQuestNonFFAConditionalItems viewer ∧
        loot.items[listed.index]? = some item ∧
        (item.freeforall = false ∧ item.conditions ≠ [] ∧
          (listed.is_looted = true → item.is_looted = true)) ∧
        outstanding listed item = true ∧
        entry = ⟨listed.index, .item listed.index, Loot.partySlotType permission item⟩ := by
  have hwalked := (@questEntries_spec env _ viewer permission hwf).2
  rw [Loot.conditionalEntries, hwalked.items, hwalked.conditional]
  exact mem_listEntries (pointsTo_listOf viewer hwf.conditional) hwf.items_le

def ItemSlot (loot : Loot) (freeforall : Bool) (entry : ViewEntry) : Prop :=
  ∃ item, loot.items[entry.slot]? = some item ∧ item.freeforall = freeforall ∧
    entry.ref = .item entry.slot

theorem itemSlot_items (hmem : entry ∈ Loot.itemEntries env viewer permission loot) :
    ItemSlot loot false entry := by
  obtain ⟨index, item, slotType, hitem, hslot, rfl⟩ := (mem_itemEntries hwf.items_le).mp hmem
  exact ⟨item, hitem, (itemSlotType_some hslot).2, rfl⟩

theorem itemSlot_ffa
    (hmem : entry ∈ Loot.ffaEntries viewer (Loot.questEntries env viewer permission loot).2) :
    ItemSlot loot true entry := by
  obtain ⟨listed, item, -, hitem, hffa, -, rfl⟩ := (mem_ffaEntries hwf).mp hmem
  exact ⟨item, hitem, hffa, rfl⟩

theorem itemSlot_conditional (hmem : entry ∈ Loot.conditionalEntries viewer permission
      (Loot.questEntries env viewer permission loot).2) : ItemSlot loot false entry := by
  obtain ⟨listed, item, -, hitem, ⟨hffa, -⟩, -, rfl⟩ := (mem_conditionalEntries hwf).mp hmem
  exact ⟨item, hitem, hffa, rfl⟩

theorem length_le_questSlot (hmem : entry ∈ (Loot.questEntries env viewer permission loot).1) :
    loot.items.length ≤ entry.slot := by
  obtain ⟨position, listed, item, slotType, -, -, -, -, rfl⟩ := (mem_questEntries hwf).mp hmem
  exact Nat.le_add_right _ _

/-- The first walk and the conditional walk meet where a master looter sees a
conditional item. -/
theorem disjoint_conditional_iff : (∀ left ∈ Loot.itemEntries env viewer permission loot,
      ∀ right ∈ Loot.conditionalEntries viewer permission
          (Loot.questEntries env viewer permission loot).2, left.slot ≠ right.slot) ↔
      (hasGroupRules permission = true → env.isMasterLooter viewer = true →
        ∀ listed ∈ listOf loot.PlayerNonQuestNonFFAConditionalItems viewer, ∀ item,
          loot.items[listed.index]? = some item → outstanding listed item = true →
          loot.allowed env item viewer = true → groupVisible loot viewer item = false) := by
  constructor
  · intro hdisj hrules hmaster listed hmem item hitem hout hallowed
    obtain ⟨item', hitem', hffa, hconds, hkind⟩ :=
      (pointsTo_listOf viewer hwf.conditional).mem listed hmem
    rw [hitem] at hitem'
    cases hitem'
    by_contra hvisible
    have hlooted : item.is_looted = false := by
      rw [outstanding, Bool.and_eq_true, Bool.not_eq_true', Bool.not_eq_true'] at hout
      exact hout.2
    have hshown := (@isSome_itemSlotType_conditional env loot viewer permission _ hconds).mpr
      ⟨hrules, hmaster, hlooted, hffa, hallowed, Bool.eq_true_of_not_eq_false hvisible⟩
    obtain ⟨slotType, hslot⟩ := isSome_iff_exists.mp hshown
    exact hdisj _ ((mem_itemEntries hwf.items_le).mpr ⟨_, item, slotType, hitem, hslot, rfl⟩)
      _ ((mem_conditionalEntries hwf).mpr ⟨listed, item, hmem, hitem, ⟨hffa, hconds, hkind⟩,
        hout, rfl⟩) rfl
  · intro hclean left hleft right hright hslot
    obtain ⟨index, item, slotType, hitem, hshown, rfl⟩ := (mem_itemEntries hwf.items_le).mp hleft
    obtain ⟨listed, item', hmem, hitem', ⟨-, hconds, -⟩, hout, rfl⟩ :=
      (mem_conditionalEntries hwf).mp hright
    subst hslot
    rw [hitem] at hitem'
    cases hitem'
    have hsome : (Loot.itemSlotType env viewer permission loot item).isSome = true := by
      rw [hshown, isSome_some]
    obtain ⟨hrules, hmaster, -, -, hallowed, hvisible⟩ :=
      (isSome_itemSlotType_conditional hconds).mp hsome
    rw [hclean hrules hmaster listed hmem item hitem hout hallowed] at hvisible
    cases hvisible

theorem nodup_view_iff (hperm : permission ≠ .NONE_PERMISSION) :
    (((Loot.view env viewer permission loot).1.entries).map ViewEntry.slot).Nodup ↔
      ∀ left ∈ Loot.itemEntries env viewer permission loot,
        ∀ right ∈ Loot.conditionalEntries viewer permission
          (Loot.questEntries env viewer permission loot).2, left.slot ≠ right.slot := by
  have hwalked := (@questEntries_spec env _ viewer permission hwf).2
  rw [view_entries hperm]
  constructor
  · intro hnodup left hleft right hright
    rw [map_append, nodup_append] at hnodup
    exact hnodup.2.2 _ (List.mem_map_of_mem (mem_append_left _ (mem_append_left _ hleft)))
      _ (List.mem_map_of_mem hright)
  · intro hdisj
    have hquest : ∀ {freeforall left right}, ItemSlot loot freeforall left →
        right ∈ (Loot.questEntries env viewer permission loot).1 → left.slot ≠ right.slot := by
      rintro freeforall left right ⟨item, hitem, -, -⟩ hright heq
      have hlt := (List.getElem?_eq_some_iff.mp hitem).1
      have hle := length_le_questSlot hwf hright
      omega
    have hffa : ∀ {left right}, ItemSlot loot false left → ItemSlot loot true right →
        left.slot ≠ right.slot := by
      rintro left right ⟨item, hitem, hfalse, -⟩ ⟨item', hitem', htrue, -⟩ heq
      rw [heq, hitem'] at hitem
      cases hitem
      rw [hfalse] at htrue
      cases htrue
    have hconditional : ((Loot.conditionalEntries viewer permission
        (Loot.questEntries env viewer permission loot).2).map ViewEntry.slot).Nodup := by
      rw [Loot.conditionalEntries, hwalked.items, hwalked.conditional]
      exact nodup_listEntries (pointsTo_listOf viewer hwf.conditional) hwf.items_le
    have hffas : ((Loot.ffaEntries viewer
        (Loot.questEntries env viewer permission loot).2).map ViewEntry.slot).Nodup := by
      rw [Loot.ffaEntries, hwalked.items, hwalked.ffa]
      exact nodup_listEntries (pointsTo_listOf viewer hwf.ffa) hwf.items_le
    apply nodup_map_append _ hconditional
    · intro left hleft right hright
      have hslot := itemSlot_conditional hwf hright
      obtain hleft | hleft := mem_append.mp hleft
      · obtain hleft | hleft := mem_append.mp hleft
        · exact hdisj left hleft right hright
        · exact (hquest hslot hleft).symm
      · exact (hffa hslot (itemSlot_ffa hwf hleft)).symm
    · apply nodup_map_append _ hffas
      · intro left hleft right hright
        obtain hleft | hleft := mem_append.mp hleft
        · exact hffa (itemSlot_items hwf hleft) (itemSlot_ffa hwf hright)
        · exact (hquest (itemSlot_ffa hwf hright) hleft).symm
      · apply nodup_map_append (nodup_itemEntries hwf.items_le) (nodup_questEntries hwf)
        intro left hleft right hright
        exact hquest (itemSlot_items hwf hleft) hright

/-- There are at most three entries for every item and one for every quest item
of the viewer, so the count byte holds their number. -/
theorem count_view : (Loot.view env viewer permission loot).1.itemsShown =
    (Loot.view env viewer permission loot).1.entries.length := by
  by_cases hperm : permission = .NONE_PERMISSION
  · rw [hperm, view_none]
    rfl
  have hshown : (Loot.view env viewer permission loot).1.itemsShown =
      uint8 (Loot.view env viewer permission loot).1.entries.length := by
    rw [view_entries hperm, Loot.view, if_neg hperm]
  have hwalked := (@questEntries_spec env _ viewer permission hwf).2
  have hitems := hwf.items_le
  have hquests := hwf.quest_items_le
  have hquest := (pointsTo_listOf viewer hwf.quest).length_le
  have hffa := (pointsTo_listOf viewer hwf.ffa).length_le
  have hconditional := (pointsTo_listOf viewer hwf.conditional).length_le
  have hitemEntries : (Loot.itemEntries env viewer permission loot).length
      ≤ loot.items.length := by
    refine Nat.le_trans (length_filterMap_le _ _) ?_
    rw [length_zipIdx]
  have hquestEntries : (Loot.questEntries env viewer permission loot).1.length
      ≤ (listOf loot.PlayerQuestItems viewer).length := by
    rw [(questEntries_spec hwf).1]
    refine Nat.le_trans (length_filterMap_le _ _) ?_
    rw [length_zipIdx]
  have hffaEntries : (Loot.ffaEntries viewer
      (Loot.questEntries env viewer permission loot).2).length
      ≤ (listOf loot.PlayerFFAItems viewer).length := by
    rw [Loot.ffaEntries, hwalked.ffa]
    exact length_filterMap_le _ _
  have hconditionalEntries : (Loot.conditionalEntries viewer permission
      (Loot.questEntries env viewer permission loot).2).length
      ≤ (listOf loot.PlayerNonQuestNonFFAConditionalItems viewer).length := by
    rw [Loot.conditionalEntries, hwalked.conditional]
    exact length_filterMap_le _ _
  rw [hshown, view_entries hperm]
  apply uint8_of_lt
  rw [MAX_NR_LOOT_ITEMS] at hitems
  rw [MAX_NR_QUEST_ITEMS] at hquests
  rw [length_append, length_append, length_append]
  omega

end Window

/-- In a loot whose lists were filled, the slots of a window are different and
counted, and every slot leads `LootItemInSlot` and a master looter's gift to the
item listed there, exactly when nothing in the loot is ambiguous for the
viewer. -/
theorem windowAgrees_iff (env : LootEnv) (loot : Loot) (viewer : ℕ)
    (permission : PermissionTypes) (hwf : WellFormed loot) :
    WindowAgrees env loot viewer permission ↔ Unambiguous env loot viewer permission := by
  by_cases hpermission : permission = .NONE_PERMISSION
  · subst hpermission
    refine ⟨fun _ => ⟨nofun, fun hne => absurd rfl hne,
      fun hne => absurd rfl hne⟩, fun _ => ⟨?_, ?_, ?_, ?_⟩⟩
    · exact nodup_nil
    · rfl
    · exact nofun
    · exact nofun
  have hwalked := (@questEntries_spec env _ viewer permission hwf).2
  have hquestMem : ∀ {position listed item},
      (listOf loot.PlayerQuestItems viewer)[position]? = some listed →
      loot.quest_items[listed.index]? = some item → questShown env viewer listed item = true →
      ∃ entry ∈ (Loot.view env viewer permission loot).1.entries,
        entry.slot = loot.items.length + position ∧ entry.ref = .quest listed.index := by
    intro position listed item hlisted hitem hshown
    have hentry := (@mem_questEntries env loot viewer permission hwf _).mpr
      ⟨position, listed, item, _, hlisted, hitem, hshown, rfl, rfl⟩
    rw [view_entries hpermission]
    exact ⟨_, mem_append_left _ (mem_append_left _ (mem_append_right _ hentry)), rfl, rfl⟩
  constructor
  · intro hagrees
    refine ⟨?_, ?_, ?_⟩
    · have hnodup := hagrees.nodup
      rw [nodup_view_iff hwf hpermission, disjoint_conditional_iff hwf] at hnodup
      exact hnodup
    · intro _ listed hmem item hitem hshown
      obtain ⟨position, hlisted⟩ := mem_iff_getElem?.mp hmem
      obtain ⟨entry, hentry, hslot, href⟩ := hquestMem hlisted hitem hshown
      have hlookup := hagrees.lookup entry hentry
      rw [view_loot hpermission, hslot, href] at hlookup
      exact (LootItemInSlot_quest hwf hwalked hlisted hitem hshown).mp hlookup
    · intro _ hmaster position listed hlisted item hitem hshown
      obtain ⟨entry, hentry, hslot, href⟩ := hquestMem hlisted hitem hshown
      have hgift := hagrees.master hmaster entry hentry
      have hlt := (List.getElem?_eq_some_iff.mp hlisted).1
      have hlength := (pointsTo_listOf viewer hwf.quest).length_le
      rw [view_loot hpermission, hslot, href, masterGiveItem_quest hwalked (by omega)] at hgift
      exact hgift
  · intro hclean
    refine ⟨?_, count_view hwf, ?_, ?_⟩
    · rw [nodup_view_iff hwf hpermission, disjoint_conditional_iff hwf]
      exact hclean.conditional
    · intro entry hentry
      rw [view_entries hpermission] at hentry
      rw [view_loot hpermission]
      obtain hentry | hentry := mem_append.mp hentry
      · obtain hentry | hentry := mem_append.mp hentry
        · obtain hentry | hentry := mem_append.mp hentry
          · obtain ⟨index, item, slotType, hitem, hslot, rfl⟩ :=
              (mem_itemEntries hwf.items_le).mp hentry
            obtain ⟨hlooted, hffa⟩ := itemSlotType_some hslot
            exact LootItemInSlot_item hwf hwalked hitem hlooted hffa
          · obtain ⟨position, listed, item, slotType, hlisted, hitem, hshown, -, rfl⟩ :=
              (mem_questEntries hwf).mp hentry
            exact (LootItemInSlot_quest hwf hwalked hlisted hitem hshown).mpr
              (hclean.allowed hpermission listed (mem_of_getElem? hlisted) item hitem hshown)
        · obtain ⟨listed, item, hmem, hitem, hffa, hout, rfl⟩ := (mem_ffaEntries hwf).mp hentry
          rw [outstanding, Bool.and_eq_true, Bool.not_eq_true', Bool.not_eq_true'] at hout
          exact LootItemInSlot_ffa hwf hwalked hmem hitem hffa hout.1
      · obtain ⟨listed, item, hmem, hitem, ⟨hffa, -⟩, hout, rfl⟩ :=
          (mem_conditionalEntries hwf).mp hentry
        rw [outstanding, Bool.and_eq_true, Bool.not_eq_true', Bool.not_eq_true'] at hout
        exact LootItemInSlot_item hwf hwalked hitem hout.2 hffa
    · intro hmaster entry hentry
      rw [view_entries hpermission] at hentry
      rw [view_loot hpermission]
      have hitemSlot : ∀ {freeforall}, ItemSlot loot freeforall entry →
          (Loot.questEntries env viewer permission loot).2.masterGiveItem entry.slot
            = some entry.ref := by
        rintro freeforall ⟨item, hitem, -, href⟩
        rw [href]
        exact masterGiveItem_item hwalked (List.getElem?_eq_some_iff.mp hitem).1
      obtain hentry | hentry := mem_append.mp hentry
      · obtain hentry | hentry := mem_append.mp hentry
        · obtain hentry | hentry := mem_append.mp hentry
          · exact hitemSlot (itemSlot_items hwf hentry)
          · obtain ⟨position, listed, item, slotType, hlisted, hitem, hshown, -, rfl⟩ :=
              (mem_questEntries hwf).mp hentry
            have hlt := (List.getElem?_eq_some_iff.mp hlisted).1
            have hlength := (pointsTo_listOf viewer hwf.quest).length_le
            exact (masterGiveItem_quest hwalked (by omega)).mpr
              (hclean.position hpermission hmaster position listed hlisted item hitem hshown)
        · exact hitemSlot (itemSlot_ffa hwf hentry)
      · exact hitemSlot (itemSlot_conditional hwf hentry)

/-! ## A window that does not agree -/

def permissiveEnv : LootEnv where
  GetItemTemplate := fun _ => some ⟨0, 1, 0, 0, 0, 0, 0, 0, 0, 0, 1, false⟩
  IsDisabledFor := fun _ => false
  IsObjectMeetToConditions := fun _ _ => true
  GetMasterLooterGuid := fun _ => some 1
  HasMasterLoot := fun _ => true
  LootGUIDIsItem := fun _ => false
  GetTeamId := fun _ => .TEAM_ALLIANCE
  HasSkill := fun _ _ => true
  HasSpell := fun _ _ => false
  HasQuestForItem := fun _ _ => true
  HasQuestForItemInLoot := fun _ _ => (true, true)
  QuestStatusNone := fun _ _ => true
  GetQuestRewardStatus := fun _ _ => true
  GetPrevQuestId := fun _ => 0
  HasItemCount := fun _ _ _ => false
  OnAllowedForPlayerLootCheck := fun _ _ => true
  CanStoreNewItem := fun _ _ _ => true

def plainItem (itemid : ℕ) : LootItem :=
  ⟨itemid, [], [], 0, 1, false, false, false, false, false, false, false⟩

def masterLoot : Loot where
  items := [{ plainItem 100 with conditions := [7] }]
  quest_items := [{ plainItem 200 with needs_quest := true },
    { plainItem 201 with needs_quest := true }]
  gold := 0
  unlootedCount := 3
  roundRobinPlayer := 0
  lootOwnerGUID := 1
  containerGUID := 0
  sourceWorldObjectGUID := 0
  PlayerQuestItems := StdMap.empty.insert 1 [⟨1, false⟩]
  PlayerFFAItems := .empty
  PlayerNonQuestNonFFAConditionalItems := StdMap.empty.insert 1 [⟨0, false⟩]

theorem eq_of_find?_insert_empty {key player : ℕ} {value list : List QuestItem}
    (hfind : (StdMap.empty.insert key value).find? player = some list) : list = value := by
  rw [StdMap.find?_insert] at hfind
  split at hfind
  · exact (some.inj hfind).symm
  · cases hfind

theorem wellFormed_masterLoot : WellFormed masterLoot where
  items_le := by decide
  quest_items_le := by decide
  quest := fun player list hfind => by
    obtain rfl := eq_of_find?_insert_empty hfind
    refine ⟨by decide, fun entry hmem => ?_⟩
    obtain rfl := mem_singleton.mp hmem
    exact ⟨_, rfl, trivial⟩
  ffa := fun player list hfind => nomatch (StdMap.find?_empty player).symm.trans hfind
  conditional := fun player list hfind => by
    obtain rfl := eq_of_find?_insert_empty hfind
    refine ⟨by decide, fun entry hmem => ?_⟩
    obtain rfl := mem_singleton.mp hmem
    exact ⟨_, rfl, rfl, by decide, nofun⟩

/-- The conditional item is written twice, and the gift of the slot of the quest
item takes the other one. -/
theorem window_ambiguous : ∃ (env : LootEnv) (loot : Loot), WellFormed loot ∧
    ((Loot.view env 1 .MASTER_PERMISSION loot).1.entries.map ViewEntry.slot) = [0, 1, 0] ∧
    (Loot.view env 1 .MASTER_PERMISSION loot).1.entries[1]?.map ViewEntry.ref
      = some (.quest 1) ∧
    (Loot.view env 1 .MASTER_PERMISSION loot).2.masterGiveItem 1 = some (.quest 0) ∧
    ¬ WindowAgrees env loot 1 .MASTER_PERMISSION := by
  have hslots : ((Loot.view permissiveEnv 1 .MASTER_PERMISSION masterLoot).1.entries.map
      ViewEntry.slot) = [0, 1, 0] := by
    decide +kernel
  refine ⟨permissiveEnv, masterLoot, wellFormed_masterLoot, hslots, by decide +kernel,
    by decide +kernel, fun hagrees => ?_⟩
  have hnodup := hagrees.nodup
  exact absurd hnodup (by decide)

/-- The equivalence for a viewer without lists. -/
theorem windowAgrees_iff_group : WellFormed masterLoot ∧
      (WindowAgrees permissiveEnv masterLoot 2 .GROUP_PERMISSION ↔
        Unambiguous permissiveEnv masterLoot 2 .GROUP_PERMISSION) :=
  ⟨wellFormed_masterLoot,
    windowAgrees_iff permissiveEnv masterLoot 2 .GROUP_PERMISSION wellFormed_masterLoot⟩

end AzerothCore.Looting
