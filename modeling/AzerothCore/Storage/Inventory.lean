import AzerothCore.Collections.Pouring
import AzerothCore.Collections.StdMap
import AzerothCore.Common.Define
import Mathlib.Algebra.Order.Monoid.Unbundled.WithTop
import Mathlib.Data.Prod.Lex

/-!
# Items and the slots of a player

A player has slots of his own (equipment, bags, backpack, bank, keyring and
currency) and the slots of the bags he wears. An item is kept under the object
that contains it and the slot in that object, so a bag keeps its content
wherever it is put.
-/

namespace AzerothCore.Storage

def NULL_BAG : ℕ := 0
def NULL_SLOT : ℕ := 255
def INVENTORY_SLOT_BAG_0 : ℕ := 255
def PLAYER_SLOT_END : ℕ := 150
def EQUIPMENT_SLOT_START : ℕ := 0
def EQUIPMENT_SLOT_END : ℕ := 19
def INVENTORY_SLOT_BAG_START : ℕ := 19
def INVENTORY_SLOT_BAG_END : ℕ := 23
def INVENTORY_SLOT_ITEM_START : ℕ := 23
def INVENTORY_SLOT_ITEM_END : ℕ := 39
def BANK_SLOT_ITEM_START : ℕ := 39
def BANK_SLOT_ITEM_END : ℕ := 67
def BANK_SLOT_BAG_START : ℕ := 67
def BANK_SLOT_BAG_END : ℕ := 74
def BUYBACK_SLOT_START : ℕ := 74
def BUYBACK_SLOT_END : ℕ := 86
def KEYRING_SLOT_START : ℕ := 86
def KEYRING_SLOT_END : ℕ := 118
def CURRENCYTOKEN_SLOT_START : ℕ := 118
def CURRENCYTOKEN_SLOT_END : ℕ := 150
def MAX_BAG_SIZE : ℕ := 36

def GetMaxKeyringSize : ℕ := KEYRING_SLOT_END - KEYRING_SLOT_START

def ITEM_CLASS_CONTAINER : ℕ := 1
def ITEM_CLASS_QUIVER : ℕ := 11
def ITEM_SUBCLASS_CONTAINER : ℕ := 0
def ITEM_SUBCLASS_SOUL_CONTAINER : ℕ := 1
def ITEM_SUBCLASS_HERB_CONTAINER : ℕ := 2
def ITEM_SUBCLASS_ENCHANTING_CONTAINER : ℕ := 3
def ITEM_SUBCLASS_ENGINEERING_CONTAINER : ℕ := 4
def ITEM_SUBCLASS_GEM_CONTAINER : ℕ := 5
def ITEM_SUBCLASS_MINING_CONTAINER : ℕ := 6
def ITEM_SUBCLASS_LEATHERWORKING_CONTAINER : ℕ := 7
def ITEM_SUBCLASS_INSCRIPTION_CONTAINER : ℕ := 8
def ITEM_SUBCLASS_QUIVER : ℕ := 2
def ITEM_SUBCLASS_AMMO_POUCH : ℕ := 3

def BAG_FAMILY_MASK_ARROWS : ℕ := 0x00000001
def BAG_FAMILY_MASK_BULLETS : ℕ := 0x00000002
def BAG_FAMILY_MASK_SOUL_SHARDS : ℕ := 0x00000004
def BAG_FAMILY_MASK_LEATHERWORKING_SUPP : ℕ := 0x00000008
def BAG_FAMILY_MASK_INSCRIPTION_SUPP : ℕ := 0x00000010
def BAG_FAMILY_MASK_HERBS : ℕ := 0x00000020
def BAG_FAMILY_MASK_ENCHANTING_SUPP : ℕ := 0x00000040
def BAG_FAMILY_MASK_ENGINEERING_SUPP : ℕ := 0x00000080
def BAG_FAMILY_MASK_KEYS : ℕ := 0x00000100
def BAG_FAMILY_MASK_GEMS : ℕ := 0x00000200
def BAG_FAMILY_MASK_MINING_SUPP : ℕ := 0x00000400
def BAG_FAMILY_MASK_CURRENCY_TOKENS : ℕ := 0x00002000

def INVTYPE_BAG : ℕ := 18
def ITEM_FLAG_IS_BOUND_TO_ACCOUNT : ℕ := 0x08000000
def BIND_WHEN_PICKED_UP : ℕ := 1
def BIND_WHEN_EQUIPED : ℕ := 2
def BIND_QUEST_ITEM : ℕ := 4
def ITEM_LIMIT_CATEGORY_MODE_HAVE : ℕ := 0

inductive InventoryResult where
  | EQUIP_ERR_OK
  | EQUIP_ERR_ITEM_DOESNT_GO_TO_SLOT
  | EQUIP_ERR_NONEMPTY_BAG_OVER_OTHER_BAG
  | EQUIP_ERR_ITEM_DOESNT_GO_INTO_BAG
  | EQUIP_ERR_CANT_CARRY_MORE_OF_THIS
  | EQUIP_ERR_ITEM_CANT_STACK
  | EQUIP_ERR_ITEM_CANT_BE_EQUIPPED
  | EQUIP_ERR_ITEMS_CANT_BE_SWAPPED
  | EQUIP_ERR_ITEM_NOT_FOUND
  | EQUIP_ERR_TRIED_TO_SPLIT_MORE_THAN_COUNT
  | EQUIP_ERR_COULDNT_SPLIT_ITEMS
  | EQUIP_ERR_CAN_ONLY_DO_WITH_EMPTY_BAGS
  | EQUIP_ERR_DONT_OWN_THAT_ITEM
  | EQUIP_ERR_MUST_PURCHASE_THAT_BAG_SLOT
  | EQUIP_ERR_YOU_ARE_DEAD
  | EQUIP_ERR_CANT_DO_RIGHT_NOW
  | EQUIP_ERR_ALREADY_LOOTED
  | EQUIP_ERR_INVENTORY_FULL
  | EQUIP_ERR_BANK_FULL
  | EQUIP_ERR_ITEM_MAX_LIMIT_CATEGORY_COUNT_EXCEEDED
  | EQUIP_ERR_TOO_MUCH_GOLD
  | EQUIP_ERR_MAIL_BOUND_ITEM
  | EQUIP_ERR_ARTEFACTS_ONLY_FOR_OWN_CHARACTERS
  | EQUIP_ERR_CANT_DROP_SOULBOUND
deriving DecidableEq

structure ItemTemplate where
  ItemId : ℕ
  Class : ℕ
  SubClass : ℕ
  Flags : ℕ
  InventoryType : ℕ
  MaxCount : ℤ
  Stackable : ℤ
  ContainerSlots : ℕ
  Bonding : ℕ
  BagFamily : ℕ
  GemProperties : ℕ
  /-- `Socket[0].Color` -/
  SocketColor : ℕ
  ItemLimitCategory : ℕ

structure ItemLimitCategoryEntry where
  maxCount : ℕ
  mode : ℕ

/-- The item templates and the limit categories. `LoadItemTemplates` keeps a
template under its id and cuts its number of slots to the size of a bag; the size
of a stack is an `int32`. -/
structure GameData where
  GetItemTemplate : ℕ → Option ItemTemplate
  LookupLimitCategory : ℕ → Option ItemLimitCategoryEntry
  itemId : ∀ entry proto, GetItemTemplate entry = some proto → proto.ItemId = entry
  containerSlots : ∀ entry proto, GetItemTemplate entry = some proto →
    proto.ContainerSlots ≤ MAX_BAG_SIZE
  stackable : ∀ entry proto, GetItemTemplate entry = some proto → proto.Stackable ≤ 2147483647

structure Item where
  guid : ℕ
  entry : ℕ
  count : ℕ
  owner : ℕ
  soulBound : Bool
  /-- `ITEM_FIELD_FLAG_BOP_TRADEABLE` -/
  bopTradeable : Bool
  allowedGUIDs : List ℕ
  /-- The gems that the enchantments in the sockets come from. -/
  gems : List ℕ
  m_lootGenerated : Bool
deriving DecidableEq

structure ItemPos where
  bag : ℕ
  slot : ℕ
deriving DecidableEq

abbrev Place := WithBot ℕ ×ₗ ℕ

def Place.main (slot : ℕ) : Place := toLex (⊥, slot)

def Place.inBag (guid slot : ℕ) : Place := toLex ((guid : WithBot ℕ), slot)

structure Player where
  guid : ℕ
  /-- `GetLootGUID()` -/
  lootGuid : ℕ
  items : StdMap Place Item

structure ItemChecks where
  /-- The owner can take the item off and is not looting it. -/
  ownerAllows : Item → Bool
  IsBoundByTempEnchant : Item → Bool
  IsBoundByEnchant : Item → Bool

namespace ItemTemplate

def IsCurrencyToken (proto : ItemTemplate) : Bool :=
  proto.BagFamily &&& BAG_FAMILY_MASK_CURRENCY_TOKENS ≠ 0

def GetMaxStackSize (proto : ItemTemplate) : ℕ :=
  if proto.Stackable = 2147483647 ∨ proto.Stackable ≤ 0 then 0x7FFFFFFF - 1
  else proto.Stackable.toNat

def bagFamilyMask (bagProto : ItemTemplate) : Option ℕ :=
  if bagProto.Class = ITEM_CLASS_CONTAINER then
    if bagProto.SubClass = ITEM_SUBCLASS_SOUL_CONTAINER then some BAG_FAMILY_MASK_SOUL_SHARDS
    else if bagProto.SubClass = ITEM_SUBCLASS_HERB_CONTAINER then some BAG_FAMILY_MASK_HERBS
    else if bagProto.SubClass = ITEM_SUBCLASS_ENCHANTING_CONTAINER then
      some BAG_FAMILY_MASK_ENCHANTING_SUPP
    else if bagProto.SubClass = ITEM_SUBCLASS_MINING_CONTAINER then
      some BAG_FAMILY_MASK_MINING_SUPP
    else if bagProto.SubClass = ITEM_SUBCLASS_ENGINEERING_CONTAINER then
      some BAG_FAMILY_MASK_ENGINEERING_SUPP
    else if bagProto.SubClass = ITEM_SUBCLASS_GEM_CONTAINER then some BAG_FAMILY_MASK_GEMS
    else if bagProto.SubClass = ITEM_SUBCLASS_LEATHERWORKING_CONTAINER then
      some BAG_FAMILY_MASK_LEATHERWORKING_SUPP
    else if bagProto.SubClass = ITEM_SUBCLASS_INSCRIPTION_CONTAINER then
      some BAG_FAMILY_MASK_INSCRIPTION_SUPP
    else none
  else if bagProto.Class = ITEM_CLASS_QUIVER then
    if bagProto.SubClass = ITEM_SUBCLASS_QUIVER then some BAG_FAMILY_MASK_ARROWS
    else if bagProto.SubClass = ITEM_SUBCLASS_AMMO_POUCH then some BAG_FAMILY_MASK_BULLETS
    else none
  else none

def isPlainBag (bagProto : ItemTemplate) : Bool :=
  bagProto.Class = ITEM_CLASS_CONTAINER ∧ bagProto.SubClass = ITEM_SUBCLASS_CONTAINER

end ItemTemplate

def ItemCanGoIntoBag (proto bagProto : ItemTemplate) : Bool :=
  if bagProto.isPlainBag then true
  else if bagProto.Class = proto.Class then false
  else bagProto.bagFamilyMask.any fun mask => proto.BagFamily &&& mask ≠ 0

def Item.CanBeMergedPartlyWith (item : Item) (proto : ItemTemplate) : InventoryResult :=
  if item.m_lootGenerated then .EQUIP_ERR_ALREADY_LOOTED
  else if item.entry ≠ proto.ItemId then .EQUIP_ERR_ITEM_CANT_STACK
  else if proto.GetMaxStackSize ≤ item.count then .EQUIP_ERR_ITEM_CANT_STACK
  else .EQUIP_ERR_OK

namespace GameData

variable (data : GameData)

def GetTemplate (item : Item) : Option ItemTemplate := data.GetItemTemplate item.entry

def IsBag (item : Item) : Bool :=
  (data.GetTemplate item).any fun proto => proto.InventoryType = INVTYPE_BAG

/-- `Bag::Create` and `Bag::LoadFromDB` take the number of slots from the
template. -/
def GetBagSize (pBag : Item) : ℕ :=
  (data.GetTemplate pBag).elim 0 ItemTemplate.ContainerSlots

def IsBoundAccountWide (item : Item) : Bool :=
  (data.GetTemplate item).any fun proto => proto.Flags &&& ITEM_FLAG_IS_BOUND_TO_ACCOUNT ≠ 0

def IsBindedNotWith (item : Item) (player : Player) : Bool :=
  item.soulBound && item.owner ≠ player.guid &&
    !(item.bopTradeable && item.allowedGUIDs.contains player.guid) &&
    !data.IsBoundAccountWide item

end GameData

def IsInventoryPos (bag slot : ℕ) : Bool :=
  bag = INVENTORY_SLOT_BAG_0 && slot = NULL_SLOT ||
  bag = INVENTORY_SLOT_BAG_0 && INVENTORY_SLOT_ITEM_START ≤ slot &&
    slot < INVENTORY_SLOT_ITEM_END ||
  INVENTORY_SLOT_BAG_START ≤ bag && bag < INVENTORY_SLOT_BAG_END ||
  bag = INVENTORY_SLOT_BAG_0 && KEYRING_SLOT_START ≤ slot && slot < CURRENCYTOKEN_SLOT_END

def IsEquipmentPos (bag slot : ℕ) : Bool :=
  bag = INVENTORY_SLOT_BAG_0 && slot < EQUIPMENT_SLOT_END ||
  bag = INVENTORY_SLOT_BAG_0 && INVENTORY_SLOT_BAG_START ≤ slot && slot < INVENTORY_SLOT_BAG_END

def isBagSlot (slot : ℕ) : Bool :=
  INVENTORY_SLOT_BAG_START ≤ slot && slot < INVENTORY_SLOT_BAG_END ||
  BANK_SLOT_BAG_START ≤ slot && slot < BANK_SLOT_BAG_END

def IsBagPos (bag slot : ℕ) : Bool := bag = INVENTORY_SLOT_BAG_0 && isBagSlot slot

namespace Player

variable (data : GameData) (player : Player)

def GetBagByPos (bag : ℕ) : Option Item :=
  if isBagSlot bag then (player.items.find? (.main bag)).filter fun item => data.IsBag item
  else none

def place (pos : ItemPos) : Option Place :=
  if pos.bag = INVENTORY_SLOT_BAG_0 ∧ (pos.slot < BANK_SLOT_BAG_END ∨
        KEYRING_SLOT_START ≤ pos.slot ∧ pos.slot < CURRENCYTOKEN_SLOT_END) then
    some (.main pos.slot)
  else
    match player.GetBagByPos data pos.bag with
    | some pBag =>
      if pos.slot < data.GetBagSize pBag then some (.inBag pBag.guid pos.slot) else none
    | none => none

def GetItemByPos (pos : ItemPos) : Option Item :=
  (player.place data pos).bind player.items.find?

/-- `Item::IsNotEmptyBag` -/
def IsNotEmptyBag (item : Item) : Bool :=
  data.IsBag item && (List.range (data.GetBagSize item)).any fun slot =>
    (player.items.find? (.inBag item.guid slot)).isSome

/-! ## Giving items away -/

def CanBeTraded (checks : ItemChecks) (pos : ItemPos) (item : Item) (mail trade : Bool) : Bool :=
  let accountWide := mail && data.IsBoundAccountWide item
  !(!accountWide && item.soulBound && (!item.bopTradeable || !trade)) &&
    !(data.IsBag item && (IsBagPos pos.bag pos.slot || player.IsNotEmptyBag data item)) &&
    checks.ownerAllows item && !checks.IsBoundByTempEnchant item &&
    !(!accountWide && checks.IsBoundByEnchant item)

/-- The slots of the player from the first to the one before the last. -/
def ownSlots (first last : ℕ) : List ItemPos :=
  (List.range' first (last - first)).map fun slot => ⟨INVENTORY_SLOT_BAG_0, slot⟩

def bagSlots (bag : ℕ) : List ItemPos :=
  match player.GetBagByPos data bag with
  | none => []
  | some pBag => (List.range (data.GetBagSize pBag)).map fun slot => ⟨bag, slot⟩

/-- The slots of all bags worn in the slots from the first to the one before the
last. -/
def allBagSlots (first last : ℕ) : List ItemPos :=
  (List.range' first (last - first)).flatMap (player.bagSlots data)

def sumItems (skipItem : Option Item) (weight : Item → ℕ) (slots : List ItemPos) : ℕ :=
  ((slots.filterMap (player.GetItemByPos data)).map fun item =>
    if skipItem.any fun skipped => skipped.guid = item.guid then 0 else weight item).sum

def GetItemCount (entry : ℕ) (skipItem : Option Item) : ℕ :=
  let count := fun item : Item => if item.entry = entry then item.count else 0
  let gems := fun item : Item =>
    if (data.GetTemplate item).any fun proto => proto.SocketColor ≠ 0 then
      item.gems.count entry
    else 0
  let inBags := player.allBagSlots data INVENTORY_SLOT_BAG_START INVENTORY_SLOT_BAG_END ++
    player.allBagSlots data BANK_SLOT_BAG_START BANK_SLOT_BAG_END
  let counted := player.sumItems data skipItem count
    (ownSlots EQUIPMENT_SLOT_START INVENTORY_SLOT_ITEM_END ++
      ownSlots KEYRING_SLOT_START CURRENCYTOKEN_SLOT_END ++
      ownSlots BANK_SLOT_ITEM_START BANK_SLOT_BAG_END ++ inBags)
  let socketed :=
    if skipItem.any fun item => (data.GetTemplate item).any fun proto =>
        proto.GemProperties ≠ 0 then
      player.sumItems data skipItem gems
        (ownSlots EQUIPMENT_SLOT_START INVENTORY_SLOT_ITEM_END ++
          ownSlots BANK_SLOT_ITEM_START BANK_SLOT_ITEM_END ++ inBags)
    else 0
  uint32 (counted + socketed)

def GetItemCountWithLimitCategory (limitCategory : ℕ) (skipItem : Option Item) : ℕ :=
  let count := fun item : Item =>
    if (data.GetTemplate item).any fun proto => proto.ItemLimitCategory = limitCategory then
      item.count
    else 0
  uint32 (player.sumItems data skipItem count
    (ownSlots EQUIPMENT_SLOT_START INVENTORY_SLOT_ITEM_END ++
      ownSlots KEYRING_SLOT_START CURRENCYTOKEN_SLOT_END ++
      player.allBagSlots data INVENTORY_SLOT_BAG_START INVENTORY_SLOT_BAG_END ++
      ownSlots BANK_SLOT_ITEM_START BANK_SLOT_BAG_END ++
      player.allBagSlots data BANK_SLOT_BAG_START BANK_SLOT_BAG_END))

/-- The result, and how many cannot be stored, which is zero if the code does
not set it. -/
def CanTakeMoreSimilarItems (entry count : ℕ) (pItem : Option Item) : InventoryResult × ℕ :=
  match data.GetItemTemplate entry with
  | none => (.EQUIP_ERR_CANT_CARRY_MORE_OF_THIS, count)
  | some pProto =>
    let curcount := player.GetItemCount data pProto.ItemId pItem
    if pProto.MaxCount ≤ 0 ∧ pProto.ItemLimitCategory = 0 ∨ pProto.MaxCount = 2147483647 then
      (.EQUIP_ERR_OK, 0)
    else if 0 < pProto.MaxCount ∧ pProto.MaxCount.toNat < uint32 (curcount + count) then
      (.EQUIP_ERR_CANT_CARRY_MORE_OF_THIS, toUint32 (count + curcount - pProto.MaxCount))
    else if pProto.ItemLimitCategory = 0 then (.EQUIP_ERR_OK, 0)
    else
      match data.LookupLimitCategory pProto.ItemLimitCategory with
      | none => (.EQUIP_ERR_ITEM_CANT_BE_EQUIPPED, count)
      | some limitEntry =>
        let curcount := player.GetItemCountWithLimitCategory data pProto.ItemLimitCategory pItem
        if limitEntry.mode = ITEM_LIMIT_CATEGORY_MODE_HAVE ∧
            limitEntry.maxCount < uint32 (curcount + count) then
          (.EQUIP_ERR_ITEM_MAX_LIMIT_CATEGORY_COUNT_EXCEEDED,
            toUint32 (count + curcount - limitEntry.maxCount))
        else
          (.EQUIP_ERR_OK, 0)

end Player

end AzerothCore.Storage

/-!
## Where an item can be stored

`CanStoreItem` and `CanBankItem` go through a number of searches. Each looks at
some slots, fills the vector of positions from those with room and lowers the
count, and the code returns as soon as the count is zero or a search that it
requires fails. The searches are given here as a list in the order of the code,
and a search as the slots that its loop comes to with the room in each.
-/

namespace AzerothCore.Storage

open Pouring

/-- `ItemPosCountVec` -/
abbrev ItemPosCountVec := List (ItemPos × ℕ)

abbrev Offers := List (ItemPos × ℕ)

structure StoreCheck where
  result : InventoryResult
  dest : ItemPosCountVec
  /-- `*no_space_count`, or `none` if it is not set. -/
  no_space_count : Option ℕ
deriving DecidableEq

structure StoreRequest where
  bag : ℕ
  slot : ℕ
  pProto : ItemTemplate
  pItem : Option Item
  swap : Bool

inductive Search where
  | specificSlot
  | inventorySlots (first last : ℕ) (merge : Bool)
  | specificBag (merge : Bool)
  | bag (bag : ℕ) (merge non_specialized : Bool)
  | notEmptyBag

/-- A search is refused with a result (and the count that has no space is set or
not), is passed over, or comes to some slots. -/
inductive Found where
  | refused (result : InventoryResult) (reported : Bool)
  | passedOver
  | offers (offers : Offers)

namespace Player

variable (data : GameData) (player : Player)

section Searches

variable (request : StoreRequest)

def itemAt (pos : ItemPos) : Option Item :=
  (player.GetItemByPos data pos).filter fun item =>
    !request.pItem.any fun moved => moved.guid = item.guid

def acceptsItem (pos : ItemPos) : Bool :=
  if pos.bag = INVENTORY_SLOT_BAG_0 then
    !(KEYRING_SLOT_START ≤ pos.slot && pos.slot < KEYRING_SLOT_START + GetMaxKeyringSize &&
        request.pProto.BagFamily &&& BAG_FAMILY_MASK_KEYS = 0) &&
      !(CURRENCYTOKEN_SLOT_START ≤ pos.slot && pos.slot < CURRENCYTOKEN_SLOT_END &&
        !request.pProto.IsCurrencyToken) &&
      !(BUYBACK_SLOT_START ≤ pos.slot && pos.slot < BUYBACK_SLOT_END || PLAYER_SLOT_END ≤ pos.slot)
  else
    (player.GetBagByPos data pos.bag).any fun pBag =>
      (data.GetTemplate pBag).any fun pBagProto =>
        pos.slot < pBagProto.ContainerSlots && ItemCanGoIntoBag request.pProto pBagProto

def CanStoreItem_InSpecificSlot (pos : ItemPos) : Except InventoryResult Offers :=
  match (player.itemAt data request pos).filter fun _ => !request.swap with
  | none =>
    if player.acceptsItem data request pos then .ok [(pos, request.pProto.GetMaxStackSize)]
    else .error .EQUIP_ERR_ITEM_DOESNT_GO_INTO_BAG
  | some pItem2 =>
    if pItem2.CanBeMergedPartlyWith request.pProto ≠ .EQUIP_ERR_OK then
      .error (pItem2.CanBeMergedPartlyWith request.pProto)
    else
      .ok [(pos, request.pProto.GetMaxStackSize - pItem2.count)]

def slotRoom (merge : Bool) (pos : ItemPos) : Option ℕ :=
  match player.itemAt data request pos with
  | none => if merge then none else some request.pProto.GetMaxStackSize
  | some pItem2 =>
    if merge ∧ pItem2.CanBeMergedPartlyWith request.pProto = .EQUIP_ERR_OK then
      some (request.pProto.GetMaxStackSize - pItem2.count)
    else
      none

def slotOffers (merge : Bool) (slots : List ItemPos) : Offers :=
  slots.filterMap fun pos => (player.slotRoom data request merge pos).map (pos, ·)

def movesFullBag : Bool := request.pItem.any (player.IsNotEmptyBag data)

def CanStoreItem_InBag (bag : ℕ) (merge non_specialized : Bool) (skip_bag : ℕ) :
    Except InventoryResult Offers :=
  if bag = skip_bag then .error .EQUIP_ERR_ITEM_DOESNT_GO_INTO_BAG
  else
    match player.GetBagByPos data bag with
    | none => .error .EQUIP_ERR_ITEM_DOESNT_GO_INTO_BAG
    | some pBag =>
      if request.pItem.any fun moved => moved.guid = pBag.guid then
        .error .EQUIP_ERR_ITEM_DOESNT_GO_INTO_BAG
      else if player.movesFullBag data request then .error .EQUIP_ERR_CAN_ONLY_DO_WITH_EMPTY_BAGS
      else
        match data.GetTemplate pBag with
        | none => .error .EQUIP_ERR_ITEM_DOESNT_GO_INTO_BAG
        | some pBagProto =>
          if non_specialized ≠ pBagProto.isPlainBag then
            .error .EQUIP_ERR_ITEM_DOESNT_GO_INTO_BAG
          else if !ItemCanGoIntoBag request.pProto pBagProto then
            .error .EQUIP_ERR_ITEM_DOESNT_GO_INTO_BAG
          else
            .ok (player.slotOffers data request merge
              ((player.bagSlots data bag).filter fun pos => pos.slot ≠ request.slot))

def CanStoreItem_InInventorySlots (slot_begin slot_end : ℕ) (merge : Bool) :
    Except InventoryResult Offers :=
  if player.movesFullBag data request then .error .EQUIP_ERR_CAN_ONLY_DO_WITH_EMPTY_BAGS
  else
    .ok (player.slotOffers data request merge ((ownSlots slot_begin slot_end).filter
      fun pos => ¬(request.bag = INVENTORY_SLOT_BAG_0 ∧ pos.slot = request.slot)))

/-- A search whose result is returned if it fails. -/
def required : Except InventoryResult Offers → Found
  | .error result => .refused result true
  | .ok offers => .offers offers

def find : Search → Found
  | .specificSlot =>
    required (player.CanStoreItem_InSpecificSlot data request ⟨request.bag, request.slot⟩)
  | .inventorySlots first last merge =>
    required (player.CanStoreItem_InInventorySlots data request first last merge)
  | .specificBag merge =>
    -- specialized bags first, then the others, and the bag itself is not skipped
    match player.CanStoreItem_InBag data request request.bag merge false NULL_BAG with
    | .ok offers => .offers offers
    | .error _ =>
      required (player.CanStoreItem_InBag data request request.bag merge true NULL_BAG)
  | .bag bag merge non_specialized =>
    match player.CanStoreItem_InBag data request bag merge non_specialized request.bag with
    | .ok offers => .offers offers
    | .error _ => .passedOver
  | .notEmptyBag =>
    if player.movesFullBag data request then
      .refused .EQUIP_ERR_NONEMPTY_BAG_OVER_OTHER_BAG false
    else
      .passedOver

/-- The searches one after the other. What could not be stored because of a
limit was taken off the count before. -/
def runSearches (full : InventoryResult) (no_similar_count : ℕ) :
    List Search → Poured ItemPos → StoreCheck
  | [], poured => ⟨full, poured.taken, some (uint32 (poured.left + no_similar_count))⟩
  | search :: searches, poured =>
    match player.find data request search with
    | .refused result reported =>
      ⟨result, poured.taken,
        if reported then some (uint32 (poured.left + no_similar_count)) else none⟩
    | .passedOver => runSearches full no_similar_count searches poured
    | .offers offers =>
      if (pour offers poured).left = 0 then
        if no_similar_count = 0 then ⟨.EQUIP_ERR_OK, (pour offers poured).taken, none⟩
        else
          ⟨.EQUIP_ERR_CANT_CARRY_MORE_OF_THIS, (pour offers poured).taken,
            some (uint32 no_similar_count)⟩
      else
        runSearches full no_similar_count searches (pour offers poured)

end Searches

/-- All bags worn in the slots from the first to the one before the last. -/
def bagSearches (first last : ℕ) (merge non_specialized : Bool) : List Search :=
  (List.range' first (last - first)).map fun bag => .bag bag merge non_specialized

def storeInBagSearches (bag : ℕ) (pProto : ItemTemplate) : List Search :=
  if bag = INVENTORY_SLOT_BAG_0 then
    (if pProto.Stackable ≠ 1 then
      [.inventorySlots KEYRING_SLOT_START CURRENCYTOKEN_SLOT_END true,
        .inventorySlots INVENTORY_SLOT_ITEM_START INVENTORY_SLOT_ITEM_END true]
    else []) ++
    (if pProto.BagFamily &&& BAG_FAMILY_MASK_KEYS ≠ 0 then
      [.inventorySlots KEYRING_SLOT_START (KEYRING_SLOT_START + GetMaxKeyringSize) false,
        .inventorySlots CURRENCYTOKEN_SLOT_START CURRENCYTOKEN_SLOT_END false]
    else if pProto.IsCurrencyToken then
      [.inventorySlots CURRENCYTOKEN_SLOT_START CURRENCYTOKEN_SLOT_END false]
    else []) ++
    [.inventorySlots INVENTORY_SLOT_ITEM_START INVENTORY_SLOT_ITEM_END false]
  else
    (if pProto.Stackable ≠ 1 then [.specificBag true] else []) ++ [.specificBag false]

def storeSearches (bag slot : ℕ) (pProto : ItemTemplate) : List Search :=
  (if bag ≠ NULL_BAG ∧ slot ≠ NULL_SLOT then [.specificSlot] else []) ++
  (if bag ≠ NULL_BAG then storeInBagSearches bag pProto else []) ++
  (if pProto.Stackable ≠ 1 then
    [.inventorySlots KEYRING_SLOT_START CURRENCYTOKEN_SLOT_END true,
      .inventorySlots INVENTORY_SLOT_ITEM_START INVENTORY_SLOT_ITEM_END true] ++
    (if pProto.BagFamily ≠ 0 then
      bagSearches INVENTORY_SLOT_BAG_START INVENTORY_SLOT_BAG_END true false
    else []) ++
    bagSearches INVENTORY_SLOT_BAG_START INVENTORY_SLOT_BAG_END true true
  else []) ++
  (if pProto.BagFamily ≠ 0 then
    (if pProto.BagFamily &&& BAG_FAMILY_MASK_KEYS ≠ 0 then
      [.inventorySlots KEYRING_SLOT_START (KEYRING_SLOT_START + GetMaxKeyringSize) false]
    else if pProto.IsCurrencyToken then
      [.inventorySlots CURRENCYTOKEN_SLOT_START CURRENCYTOKEN_SLOT_END false]
    else []) ++
    bagSearches INVENTORY_SLOT_BAG_START INVENTORY_SLOT_BAG_END false false
  else []) ++
  [.notEmptyBag, .inventorySlots INVENTORY_SLOT_ITEM_START INVENTORY_SLOT_ITEM_END false] ++
  bagSearches INVENTORY_SLOT_BAG_START INVENTORY_SLOT_BAG_END false true

def cannotStore (bag slot count : ℕ) (pItem : Item) : Option (InventoryResult × Option ℕ) :=
  if bag = NULL_BAG ∧ slot = NULL_SLOT ∧ player.IsNotEmptyBag data pItem then
    some (.EQUIP_ERR_CAN_ONLY_DO_WITH_EMPTY_BAGS, none)
  else if pItem.guid = player.lootGuid then some (.EQUIP_ERR_ALREADY_LOOTED, some count)
  else if data.IsBindedNotWith pItem player then
    some (.EQUIP_ERR_DONT_OWN_THAT_ITEM, some count)
  else none

def CanStoreItem (bag slot : ℕ) (dest : ItemPosCountVec) (entry count : ℕ)
    (pItem : Option Item) (swap : Bool) : StoreCheck :=
  match data.GetItemTemplate entry with
  | none =>
    ⟨if swap then .EQUIP_ERR_ITEMS_CANT_BE_SWAPPED else .EQUIP_ERR_ITEM_NOT_FOUND, dest, some count⟩
  | some pProto =>
    match pItem.bind (player.cannotStore data bag slot count) with
    | some (result, no_space_count) => ⟨result, dest, no_space_count⟩
    | none =>
      let similar := player.CanTakeMoreSimilarItems data entry count pItem
      if similar.1 ≠ .EQUIP_ERR_OK ∧ count = similar.2 then ⟨similar.1, dest, some similar.2⟩
      else
        player.runSearches data ⟨bag, slot, pProto, pItem, swap⟩ .EQUIP_ERR_INVENTORY_FULL
          similar.2 (storeSearches bag slot pProto) ⟨dest, toUint32 ((count : ℤ) - similar.2)⟩

end Player

end AzerothCore.Storage

/-!
## Putting items into slots

`StoreItem` puts an item into the positions that a check has found: into the
last of them the item itself, and into those before it clones of the item. A
position with an item in it takes the count, and the stored item ends there.
New items take their guids from a counter.
-/

namespace AzerothCore.Storage

namespace GameData

variable (data : GameData)

def CreateItem (entry count : ℕ) (player : Player) (guid : ℕ) : Option Item :=
  if count < 1 then none
  else
    match data.GetItemTemplate entry with
    | none => none
    | some pProto =>
      -- `Bag::Create`
      if pProto.InventoryType = INVTYPE_BAG ∧ MAX_BAG_SIZE < pProto.ContainerSlots then none
      else
        some
          { guid := guid
            entry := entry
            count := min count pProto.GetMaxStackSize
            owner := player.guid
            soulBound := false
            bopTradeable := false
            allowedGUIDs := []
            gems := []
            m_lootGenerated := false }

def CloneItem (item : Item) (count : ℕ) (player : Player) (guid : ℕ) : Option Item :=
  (data.CreateItem item.entry count player guid).map fun newItem =>
    { newItem with soulBound := item.soulBound }

def bindStored (pos : ItemPos) (item : Item) : Item :=
  if (data.GetTemplate item).any fun proto =>
      proto.Bonding = BIND_WHEN_PICKED_UP || proto.Bonding = BIND_QUEST_ITEM ||
        proto.Bonding = BIND_WHEN_EQUIPED && IsBagPos pos.bag pos.slot then
    { item with soulBound := true }
  else item

end GameData

namespace Player

variable (data : GameData)

def set (player : Player) (place : Place) (item : Item) : Player :=
  { player with items := player.items.insert place item }

def setItem (player : Player) (pos : ItemPos) (item : Item) : Player :=
  match player.place data pos with
  | none => player
  | some place => player.set place item

def putItem (player : Player) (pos : ItemPos) (item : Item) : Player :=
  match if pos.bag = INVENTORY_SLOT_BAG_0 then none else player.GetBagByPos data pos.bag with
  | none => player.set (.main pos.slot) { item with owner := player.guid }
  | some pBag =>
    if item.guid = pBag.guid then player
    else player.set (.inBag pBag.guid pos.slot) { item with owner := pBag.owner }

def _StoreItem (pos : ItemPos) (pItem : Item) (count : ℕ) (clone : Bool) (player : Player)
    (nextItemGuid : ℕ) : Player × ℕ :=
  match player.GetItemByPos data pos with
  | none =>
    if clone then
      match data.CloneItem pItem count player nextItemGuid with
      | none => (player, nextItemGuid)
      | some newItem => (player.putItem data pos (data.bindStored pos newItem), nextItemGuid + 1)
    else
      (player.putItem data pos (data.bindStored pos { pItem with count := count }), nextItemGuid)
  | some pItem2 =>
    (player.setItem data pos
      { data.bindStored pos pItem2 with count := uint32 (pItem2.count + count) }, nextItemGuid)

def StoreItem (pItem : Item) : ItemPosCountVec → Player → ℕ → Player × ℕ
  | [], player, nextItemGuid => (player, nextItemGuid)
  | [(pos, count)], player, nextItemGuid =>
    player._StoreItem data pos pItem count false nextItemGuid
  | (pos, count) :: next :: dest, player, nextItemGuid =>
    let stored := player._StoreItem data pos pItem count true nextItemGuid
    StoreItem pItem (next :: dest) stored.1 stored.2

def RemoveItem (player : Player) (pos : ItemPos) : Player :=
  match player.place data pos with
  | none => player
  | some place => { player with items := player.items.erase place }

def GetItemByGuid (player : Player) (guid : ℕ) : Option (ItemPos × Item) :=
  (ownSlots EQUIPMENT_SLOT_START INVENTORY_SLOT_ITEM_END ++
    ownSlots KEYRING_SLOT_START CURRENCYTOKEN_SLOT_END ++
    ownSlots BANK_SLOT_ITEM_START BANK_SLOT_BAG_END ++
    player.allBagSlots data INVENTORY_SLOT_BAG_START INVENTORY_SLOT_BAG_END ++
    player.allBagSlots data BANK_SLOT_BAG_START BANK_SLOT_BAG_END).findSome? fun pos =>
      ((player.GetItemByPos data pos).filter fun item => item.guid = guid).map (pos, ·)

def MoveItemFromInventory (player : Player) (pos : ItemPos) : Player :=
  match player.GetItemByPos data pos with
  | none => player
  | some _ => player.RemoveItem data pos

def MoveItemToInventory (dest : ItemPosCountVec) (pItem : Item) (player : Player)
    (nextItemGuid : ℕ) : Player × ℕ :=
  let stored := player.StoreItem data pItem dest nextItemGuid
  match dest.getLast?.bind fun last =>
      (stored.1.GetItemByPos data last.1).map (last.1, ·) with
  | none => stored
  | some (pos, pLastItem) =>
    if pLastItem.guid = pItem.guid then
      (stored.1.setItem data pos { pLastItem with owner := player.guid }, stored.2)
    else
      stored

end Player

end AzerothCore.Storage

/-! ## What the searches find -/

namespace AzerothCore.Storage

open List Option Bool
open Pouring

variable {data : GameData} {player : Player} {request : StoreRequest}

/-! ## Slots and places -/

def OwnSlot (slot : ℕ) : Prop :=
  (slot < BANK_SLOT_BAG_END ∨ KEYRING_SLOT_START ≤ slot ∧ slot < CURRENCYTOKEN_SLOT_END) ∧
    isBagSlot slot = false

variable {slot bag count room skip_bag : ℕ} {pBag item : Item} {pos : ItemPos}
  {merge non_specialized : Bool} {offers : Offers} {found : Except InventoryResult Offers}
  {result : InventoryResult}

theorem isBagSlot_iff : isBagSlot slot = true ↔ 19 ≤ slot ∧ slot < 23 ∨ 67 ≤ slot ∧ slot < 74 := by
  simp only [isBagSlot, or_eq_true, and_eq_true, decide_eq_true_eq]
  rfl

theorem ownSlot_iff :
    OwnSlot slot ↔ slot < 19 ∨ 23 ≤ slot ∧ slot < 67 ∨ 86 ≤ slot ∧ slot < 150 := by
  rw [OwnSlot, ← not_eq_true, isBagSlot_iff]
  unfold BANK_SLOT_BAG_END KEYRING_SLOT_START CURRENCYTOKEN_SLOT_END
  omega

theorem isBagSlot_lt (hslot : isBagSlot slot = true) : slot < BANK_SLOT_BAG_END := by
  rw [isBagSlot_iff] at hslot
  unfold BANK_SLOT_BAG_END
  omega

theorem GetBagByPos_spec (hbag : player.GetBagByPos data bag = some pBag) :
    isBagSlot bag = true ∧ player.items.find? (.main bag) = some pBag ∧ data.IsBag pBag = true := by
  unfold Player.GetBagByPos at hbag
  split at hbag
  case isFalse => cases hbag
  rename_i hslot
  rw [filter_eq_some_iff] at hbag
  exact ⟨hslot, hbag⟩

theorem ne_inventory_of_bag (hbag : player.GetBagByPos data bag = some pBag) :
    bag ≠ INVENTORY_SLOT_BAG_0 := by
  have hlt := isBagSlot_lt (GetBagByPos_spec hbag).1
  unfold BANK_SLOT_BAG_END at hlt
  unfold INVENTORY_SLOT_BAG_0
  omega

theorem place_inBag (hbag : player.GetBagByPos data pos.bag = some pBag)
    (hslot : pos.slot < data.GetBagSize pBag) :
    player.place data pos = some (.inBag pBag.guid pos.slot) := by
  unfold Player.place
  rw [if_neg fun hown => ne_inventory_of_bag hbag hown.1, hbag]
  exact if_pos hslot

theorem isSome_place_of_item (hitem : player.GetItemByPos data pos = some item) :
    (player.place data pos).isSome = true := by
  obtain ⟨place, hplace, -⟩ := bind_eq_some_iff.mp hitem
  rw [hplace, isSome_some]

theorem mem_ownSlots {first last : ℕ} (hmem : pos ∈ Player.ownSlots first last) :
    pos.bag = INVENTORY_SLOT_BAG_0 ∧ first ≤ pos.slot ∧ pos.slot < last := by
  obtain ⟨slot, hslot, rfl⟩ := List.mem_map.mp hmem
  rw [mem_range'_1] at hslot
  exact ⟨rfl, hslot.1, by dsimp only; omega⟩

theorem mem_bagSlots (hmem : pos ∈ player.bagSlots data bag) :
    ∃ pBag, player.GetBagByPos data pos.bag = some pBag ∧ pos.slot < data.GetBagSize pBag := by
  unfold Player.bagSlots at hmem
  split at hmem
  · cases hmem
  rename_i pBag hbag
  obtain ⟨slot, hslot, rfl⟩ := List.mem_map.mp hmem
  exact ⟨pBag, hbag, mem_range.mp hslot⟩

theorem canBeMerged_iff {proto : ItemTemplate} : item.CanBeMergedPartlyWith proto = .EQUIP_ERR_OK ↔
      item.m_lootGenerated = false ∧ item.entry = proto.ItemId ∧
        item.count < proto.GetMaxStackSize := by
  unfold Item.CanBeMergedPartlyWith
  by_cases hloot : item.m_lootGenerated
  · simp [hloot]
  by_cases hentry : item.entry = proto.ItemId
  · by_cases hcount : proto.GetMaxStackSize ≤ item.count
    · simp [hloot, hentry, hcount]
    · simp [hloot, hentry, hcount, lt_of_not_ge hcount]
  · simp [hloot, hentry]

/-- A number of items of a template can go into a slot: at most a stack into an
empty one, and at most the rest of a stack that can be merged. -/
structure Fits (data : GameData) (player : Player) (pProto : ItemTemplate) (pos : ItemPos)
    (count : ℕ) : Prop where
  place : (player.place data pos).isSome = true
  notBagPos : IsBagPos pos.bag pos.slot = false
  mergeable : ∀ item, player.GetItemByPos data pos = some item →
    item.CanBeMergedPartlyWith pProto = .EQUIP_ERR_OK
  room : (player.GetItemByPos data pos).elim 0 Item.count + count ≤ pProto.GetMaxStackSize

def Foreign (player : Player) (pItem : Option Item) : Prop :=
  ∀ moved ∈ pItem, ∀ place item, player.items.find? place = some item → moved.guid ≠ item.guid

theorem itemAt_of_foreign (hforeign : Foreign player request.pItem) (pos : ItemPos) :
    player.itemAt data request pos = player.GetItemByPos data pos := by
  unfold Player.itemAt
  rcases hitem : player.GetItemByPos data pos with _ | item
  · rfl
  obtain ⟨place, -, hfind⟩ := bind_eq_some_iff.mp hitem
  cases hmoved : request.pItem with
  | none => rfl
  | some moved => simpa using hforeign moved hmoved place item hfind

theorem fits_empty (hplace : (player.place data pos).isSome = true)
    (hbag : IsBagPos pos.bag pos.slot = false) (hitem : player.GetItemByPos data pos = none)
    (hcount : count ≤ request.pProto.GetMaxStackSize) :
    Fits data player request.pProto pos count where
  place := hplace
  notBagPos := hbag
  mergeable item hfound := by
    rw [hitem] at hfound
    cases hfound
  room := by
    rw [hitem]
    simpa using hcount

theorem fits_stack (hbag : IsBagPos pos.bag pos.slot = false)
    (hitem : player.GetItemByPos data pos = some item)
    (hmerge : item.CanBeMergedPartlyWith request.pProto = .EQUIP_ERR_OK)
    (hcount : count ≤ request.pProto.GetMaxStackSize - item.count) :
    Fits data player request.pProto pos count where
  place := isSome_place_of_item hitem
  notBagPos := hbag
  mergeable other hfound := by
    rw [hitem, Option.some.injEq] at hfound
    exact hfound ▸ hmerge
  room := by
    have hlt := (canBeMerged_iff.mp hmerge).2.2
    rw [hitem, elim_some]
    omega

theorem slotOffers_fits (hforeign : Foreign player request.pItem) {slots : List ItemPos}
    (hslots : ∀ pos ∈ slots, (player.place data pos).isSome = true ∧
      IsBagPos pos.bag pos.slot = false)
    (hmem : (pos, room) ∈ player.slotOffers data request merge slots) (hcount : count ≤ room) :
    Fits data player request.pProto pos count := by
  obtain ⟨slot, hslot, hroom⟩ := mem_filterMap.mp hmem
  obtain ⟨found, hfound, heq⟩ := map_eq_some_iff.mp hroom
  cases heq
  obtain ⟨hplace, hbag⟩ := hslots pos hslot
  unfold Player.slotRoom at hfound
  rw [itemAt_of_foreign hforeign] at hfound
  split at hfound
  case h_1 hitem =>
    split at hfound
    · cases hfound
    cases hfound
    exact fits_empty hplace hbag hitem hcount
  case h_2 item hitem =>
    split at hfound
    case isFalse => cases hfound
    rename_i hmerge
    cases hfound
    exact fits_stack hbag hitem hmerge.2 hcount

def Search.Valid (bag slot : ℕ) : Search → Prop
  | .specificSlot => bag = INVENTORY_SLOT_BAG_0 → OwnSlot slot
  | .inventorySlots first last _ => ∀ slot, first ≤ slot → slot < last → OwnSlot slot
  | _ => True

theorem isBagPos_of_ownSlot (hown : pos.bag = INVENTORY_SLOT_BAG_0 → OwnSlot pos.slot) :
    IsBagPos pos.bag pos.slot = false := by
  unfold IsBagPos
  by_cases hbag : pos.bag = INVENTORY_SLOT_BAG_0
  · simp [hbag, (hown hbag).2]
  · simp [hbag]

theorem isSome_place_of_accepts (hown : pos.bag = INVENTORY_SLOT_BAG_0 → OwnSlot pos.slot)
    (hacc : player.acceptsItem data request pos = true) :
    (player.place data pos).isSome = true := by
  by_cases hbag : pos.bag = INVENTORY_SLOT_BAG_0
  · have hmain : player.place data pos = some (.main pos.slot) := if_pos ⟨hbag, (hown hbag).1⟩
    rw [hmain, isSome_some]
  unfold Player.acceptsItem at hacc
  rw [if_neg hbag] at hacc
  obtain ⟨pBag, hfound, hacc⟩ := (Option.any_eq_true _ _).mp hacc
  obtain ⟨pBagProto, hproto, hacc⟩ := (Option.any_eq_true _ _).mp hacc
  have hslot : pos.slot < data.GetBagSize pBag := by
    unfold GameData.GetBagSize
    rw [hproto]
    exact of_decide_eq_true (and_eq_true_iff.mp hacc).1
  rw [place_inBag hfound hslot, isSome_some]

theorem specificSlot_fits (hforeign : Foreign player request.pItem) (hswap : request.swap = false)
    (hown : pos.bag = INVENTORY_SLOT_BAG_0 → OwnSlot pos.slot)
    (hoffers : player.CanStoreItem_InSpecificSlot data request pos = .ok offers) {other : ItemPos}
    (hmem : (other, room) ∈ offers) (hcount : count ≤ room) :
    Fits data player request.pProto other count := by
  have hseen : ((player.itemAt data request pos).filter fun _ => !request.swap) =
      player.GetItemByPos data pos := by
    rw [itemAt_of_foreign hforeign, hswap]
    cases player.GetItemByPos data pos <;> rfl
  unfold Player.CanStoreItem_InSpecificSlot at hoffers
  rw [hseen] at hoffers
  split at hoffers
  case h_1 hitem =>
    split at hoffers
    case isFalse => cases hoffers
    rename_i hacc
    cases hoffers
    cases mem_singleton.mp hmem
    exact fits_empty (isSome_place_of_accepts hown hacc) (isBagPos_of_ownSlot hown) hitem
      hcount
  case h_2 item hitem =>
    split at hoffers
    · cases hoffers
    rename_i hmerge
    cases hoffers
    cases mem_singleton.mp hmem
    exact fits_stack (isBagPos_of_ownSlot hown) hitem (not_not.mp hmerge) hcount

theorem inBag_eq_ok
    (hoffers : player.CanStoreItem_InBag data request bag merge non_specialized skip_bag =
      .ok offers) :
    offers = player.slotOffers data request merge
      ((player.bagSlots data bag).filter fun pos => pos.slot ≠ request.slot) := by
  unfold Player.CanStoreItem_InBag at hoffers
  split at hoffers
  · cases hoffers
  split at hoffers
  · cases hoffers
  split at hoffers
  · cases hoffers
  split at hoffers
  · cases hoffers
  split at hoffers
  · cases hoffers
  split at hoffers
  · cases hoffers
  split at hoffers
  · cases hoffers
  exact (Except.ok.inj hoffers).symm

theorem inBag_fits (hforeign : Foreign player request.pItem)
    (hoffers : player.CanStoreItem_InBag data request bag merge non_specialized skip_bag =
      .ok offers) (hmem : (pos, room) ∈ offers) (hcount : count ≤ room) :
    Fits data player request.pProto pos count := by
  rw [inBag_eq_ok hoffers] at hmem
  refine slotOffers_fits hforeign ?_ hmem hcount
  intro slot hslot
  obtain ⟨found, hfound, hlt⟩ := mem_bagSlots (mem_filter.mp hslot).1
  refine ⟨?_, isBagPos_of_ownSlot fun hown => absurd hown (ne_inventory_of_bag hfound)⟩
  rw [place_inBag hfound hlt, isSome_some]

theorem inventorySlots_fits (hforeign : Foreign player request.pItem) {first last : ℕ}
    (hown : ∀ slot, first ≤ slot → slot < last → OwnSlot slot)
    (hoffers : player.CanStoreItem_InInventorySlots data request first last merge = .ok offers)
    (hmem : (pos, room) ∈ offers) (hcount : count ≤ room) :
    Fits data player request.pProto pos count := by
  unfold Player.CanStoreItem_InInventorySlots at hoffers
  split_ifs at hoffers
  cases hoffers
  refine slotOffers_fits hforeign ?_ hmem hcount
  intro slot hslot
  obtain ⟨hbag, hfirst, hlast⟩ := mem_ownSlots (mem_filter.mp hslot).1
  have hslot := hown slot.slot hfirst hlast
  refine ⟨?_, isBagPos_of_ownSlot fun _ => hslot⟩
  have hmain : player.place data slot = some (.main slot.slot) := if_pos ⟨hbag, hslot.1⟩
  rw [hmain, isSome_some]

theorem required_eq_offers (hoffers : Player.required found = .offers offers) :
    found = .ok offers := by
  cases found with
  | error result => cases hoffers
  | ok list =>
    cases hoffers
    rfl

theorem find_fits (hforeign : Foreign player request.pItem) (hswap : request.swap = false)
    {search : Search} (hvalid : search.Valid request.bag request.slot)
    (hoffers : player.find data request search = .offers offers) (hmem : (pos, room) ∈ offers)
    (hcount : count ≤ room) : Fits data player request.pProto pos count := by
  cases search with
  | specificSlot =>
    have hown : ∀ pos : ItemPos, pos = ⟨request.bag, request.slot⟩ →
        pos.bag = INVENTORY_SLOT_BAG_0 → OwnSlot pos.slot := by
      rintro pos rfl
      exact hvalid
    exact specificSlot_fits hforeign hswap (hown _ rfl) (required_eq_offers hoffers) hmem hcount
  | inventorySlots first last merge =>
    exact inventorySlots_fits hforeign hvalid (required_eq_offers hoffers) hmem hcount
  | specificBag merge =>
    simp only [Player.find] at hoffers
    split at hoffers
    case h_2 => exact inBag_fits hforeign (required_eq_offers hoffers) hmem hcount
    rename_i list hlist
    cases hoffers
    exact inBag_fits hforeign hlist hmem hcount
  | bag bag merge non_specialized =>
    simp only [Player.find] at hoffers
    split at hoffers
    case h_2 => cases hoffers
    rename_i list hlist
    cases hoffers
    exact inBag_fits hforeign hlist hmem hcount
  | notEmptyBag =>
    simp only [Player.find] at hoffers
    split_ifs at hoffers

theorem inBag_ne_ok
    (hresult : player.CanStoreItem_InBag data request bag merge non_specialized skip_bag =
      .error result) : result ≠ .EQUIP_ERR_OK := by
  rintro rfl
  unfold Player.CanStoreItem_InBag at hresult
  repeat' split at hresult
  all_goals exact nomatch hresult

theorem required_ne_ok {reported : Bool} (hfound : found ≠ .error .EQUIP_ERR_OK)
    (hrefused : Player.required found = .refused result reported) :
    result ≠ .EQUIP_ERR_OK ∧ reported = true := by
  cases found with
  | error other =>
    cases hrefused
    exact ⟨fun heq => hfound (heq ▸ rfl), rfl⟩
  | ok list => cases hrefused

theorem specificSlot_ne_ok :
    player.CanStoreItem_InSpecificSlot data request pos ≠ .error .EQUIP_ERR_OK := by
  intro hresult
  unfold Player.CanStoreItem_InSpecificSlot at hresult
  split at hresult
  · split at hresult
    all_goals exact nomatch hresult
  · split at hresult
    case isTrue hmerge => exact hmerge (Except.error.inj hresult)
    case isFalse => cases hresult

/-- A search that fails does so with an error, and leaves the count that has no
space as it is only for a bag with something in it. -/
theorem find_refused {search : Search} {reported : Bool}
    (hrefused : player.find data request search = .refused result reported) :
    result ≠ .EQUIP_ERR_OK ∧ (reported = true ∨ player.movesFullBag data request = true) := by
  cases search with
  | specificSlot =>
    have hne := required_ne_ok specificSlot_ne_ok hrefused
    exact ⟨hne.1, .inl hne.2⟩
  | inventorySlots first last merge =>
    have hfound : player.CanStoreItem_InInventorySlots data request first last merge ≠
        .error .EQUIP_ERR_OK := by
      intro hresult
      unfold Player.CanStoreItem_InInventorySlots at hresult
      split at hresult
      all_goals exact nomatch hresult
    have hne := required_ne_ok hfound hrefused
    exact ⟨hne.1, .inl hne.2⟩
  | specificBag merge =>
    simp only [Player.find] at hrefused
    split at hrefused
    · cases hrefused
    have hne := required_ne_ok (fun hresult => inBag_ne_ok hresult rfl) hrefused
    exact ⟨hne.1, .inl hne.2⟩
  | bag bag merge non_specialized =>
    simp only [Player.find] at hrefused
    split at hrefused
    all_goals exact nomatch hrefused
  | notEmptyBag =>
    simp only [Player.find] at hrefused
    split_ifs at hrefused with hfull
    cases hrefused
    exact ⟨by decide, .inr hfull⟩

theorem count_sub_zero (hcount : count < 2 ^ 32) : toUint32 ((count : ℤ) - (0 : ℕ)) = count := by
  unfold toUint32
  omega

structure Ended (moves_full : Prop) (no_similar_count : ℕ) (after : Poured ItemPos)
    (check : StoreCheck) : Prop where
  dest : check.dest = after.taken
  ok : check.result = .EQUIP_ERR_OK → after.left = 0 ∧ no_similar_count = 0
  failed : ∀ count, check.no_space_count = some count →
    count = uint32 (after.left + no_similar_count)
  reported : check.result ≠ .EQUIP_ERR_OK → ¬moves_full → check.no_space_count.isSome = true

theorem runSearches_ended {searches : List Search} {full : InventoryResult}
    (hfull : full ≠ .EQUIP_ERR_OK) (hforeign : Foreign player request.pItem)
    (hswap : request.swap = false)
    (hvalid : ∀ search ∈ searches, search.Valid request.bag request.slot)
    (no_similar_count : ℕ) (poured : Poured ItemPos) :
    ∃ after, Pours (Fits data player request.pProto) poured after ∧
      Ended (player.movesFullBag data request = true) no_similar_count after
        (player.runSearches data request full no_similar_count searches poured) := by
  induction searches generalizing poured with
  | nil =>
    refine ⟨poured, Pours.refl _ _, rfl, fun hok => absurd hok hfull, ?_, fun _ _ => rfl⟩
    intro count hcount
    exact (some.inj hcount).symm
  | cons search searches ih =>
    have hrest := ih fun other hother => hvalid other (mem_cons_of_mem _ hother)
    unfold Player.runSearches
    split
    case h_1 result reported hfind =>
      obtain ⟨hne, hreported⟩ := find_refused hfind
      refine ⟨poured, Pours.refl _ _, rfl, fun hok => absurd hok hne, ?_, ?_⟩
      · intro count hcount
        cases reported with
        | true => exact (some.inj hcount).symm
        | false => cases hcount
      · intro _ hmoves
        rw [hreported.resolve_right hmoves]
        rfl
    case h_2 => exact hrest poured
    case h_3 offers hfind =>
      have hpour : Pours (Fits data player request.pProto) poured (pour offers poured) :=
        pours_pour (fun pos room hmem count hcount =>
          find_fits hforeign hswap (hvalid search mem_cons_self) hfind hmem hcount) poured
      split
      case isFalse =>
        obtain ⟨after, hafter, hended⟩ := hrest (pour offers poured)
        exact ⟨after, hpour.trans hafter, hended⟩
      rename_i hleft
      refine ⟨pour offers poured, hpour, ?_⟩
      split
      case isTrue hsimilar =>
        exact ⟨rfl, fun _ => ⟨hleft, hsimilar⟩, nofun, fun hne => absurd rfl hne⟩
      case isFalse =>
        refine ⟨rfl, nofun, ?_, fun _ _ => rfl⟩
        intro count hcount
        rw [hleft, Nat.zero_add]
        exact (some.inj hcount).symm

/-- The slots that the searches come to, as long as none fails. -/
def Player.offeredSlots (data : GameData) (player : Player) (request : StoreRequest) :
    List Search → Offers
  | [] => []
  | search :: searches =>
    match player.find data request search with
    | .refused _ _ => []
    | .passedOver => player.offeredSlots data request searches
    | .offers offers => offers ++ player.offeredSlots data request searches

theorem dest_runSearches (full : InventoryResult) (no_similar_count : ℕ)
    (searches : List Search) {poured : Poured ItemPos} (hleft : poured.left ≠ 0) :
    (player.runSearches data request full no_similar_count searches poured).dest =
      (pour (player.offeredSlots data request searches) poured).taken := by
  induction searches generalizing poured with
  | nil => rfl
  | cons search searches ih =>
    cases hfind : player.find data request search with
    | refused result reported => simp [Player.runSearches, Player.offeredSlots, hfind, pour]
    | passedOver =>
      simpa only [Player.runSearches, Player.offeredSlots, hfind] using ih hleft
    | offers offers =>
      simp only [Player.runSearches, Player.offeredSlots, hfind, pour_append _ _ hleft]
      by_cases hzero : (pour offers poured).left = 0
      · rw [if_pos hzero, if_pos hzero]
        split <;> rfl
      · rw [if_neg hzero, if_neg hzero]
        exact ih hzero

end AzerothCore.Storage

/-!
## The slots that a new item may go to

`CanStoreItem_InSpecificSlot` says of one position whether an item may go there. The
searches of `CanStoreItem` come to positions by rules of their own: each comes to some
slots of the player or of one bag, and passes over the number of the slot that was asked
for.
-/

namespace AzerothCore.Storage

open List
open Pouring

abbrev newRequest (bag slot : ℕ) (pProto : ItemTemplate) : StoreRequest :=
  ⟨bag, slot, pProto, none, false⟩

namespace Player

variable (data : GameData) (player : Player) (pProto : ItemTemplate)

/-- `CanStoreItem_InSpecificSlot` accepts the item at the position. -/
def admissible (pos : ItemPos) : Bool :=
  match player.CanStoreItem_InSpecificSlot data (newRequest pos.bag pos.slot pProto) pos with
  | .ok _ => true
  | .error _ => false

def room (pos : ItemPos) : ℕ :=
  match player.GetItemByPos data pos with
  | none => pProto.GetMaxStackSize
  | some pItem2 => pProto.GetMaxStackSize - pItem2.count

def offersRoom (merge : Bool) (pos : ItemPos) : Bool :=
  match player.GetItemByPos data pos with
  | none => !merge
  | some pItem2 => merge && pItem2.CanBeMergedPartlyWith pProto = .EQUIP_ERR_OK

def bagTakes (bag : ℕ) : Bool :=
  (player.GetBagByPos data bag).any fun pBag =>
    (data.GetTemplate pBag).any (ItemCanGoIntoBag pProto)

def wearsPlainBag (bag : ℕ) : Bool :=
  (player.GetBagByPos data bag).any fun pBag =>
    (data.GetTemplate pBag).any ItemTemplate.isPlainBag

end Player

def Search.ComesTo (data : GameData) (player : Player) (bag slot : ℕ) (pProto : ItemTemplate)
    (pos : ItemPos) : Search → Prop
  | .specificSlot => pos = ⟨bag, slot⟩ ∧ player.admissible data pProto pos = true
  | .inventorySlots first last merge =>
    pos ∈ Player.ownSlots first last ∧ ¬(bag = INVENTORY_SLOT_BAG_0 ∧ pos.slot = slot) ∧
      player.offersRoom data pProto merge pos = true
  | .specificBag merge =>
    player.bagTakes data pProto bag = true ∧ pos ∈ player.bagSlots data bag ∧
      pos.slot ≠ slot ∧ player.offersRoom data pProto merge pos = true
  | .bag other merge non_specialized =>
    (other ≠ bag ∧ player.bagTakes data pProto other = true ∧
      player.wearsPlainBag data other = non_specialized) ∧
        pos ∈ player.bagSlots data other ∧ pos.slot ≠ slot ∧
          player.offersRoom data pProto merge pos = true
  | .notEmptyBag => False

def Search.Accepted (data : GameData) (player : Player) (bag slot : ℕ) (pProto : ItemTemplate) :
    Search → Prop
  | .specificSlot => player.admissible data pProto ⟨bag, slot⟩ = true
  | .specificBag _ => player.bagTakes data pProto bag = true
  | _ => True

variable {data : GameData} {player : Player} {bag slot : ℕ} {pProto : ItemTemplate}

theorem itemAt_newRequest (pos : ItemPos) :
    player.itemAt data (newRequest bag slot pProto) pos = player.GetItemByPos data pos :=
  itemAt_of_foreign (fun _ hmoved => absurd hmoved (Option.not_mem_none _)) pos

theorem slotRoom_newRequest (merge : Bool) (pos : ItemPos) :
    player.slotRoom data (newRequest bag slot pProto) merge pos =
      if player.offersRoom data pProto merge pos then some (player.room data pProto pos)
      else none := by
  rw [Player.slotRoom, itemAt_newRequest, Player.offersRoom, Player.room]
  cases player.GetItemByPos data pos with
  | none => cases merge <;> rfl
  | some pItem2 => cases merge <;> simp

theorem mem_slotOffers {merge : Bool} {slots : List ItemPos} {pos : ItemPos} {free : ℕ} :
    (pos, free) ∈ player.slotOffers data (newRequest bag slot pProto) merge slots ↔
      (pos ∈ slots ∧ player.offersRoom data pProto merge pos = true) ∧
        free = player.room data pProto pos := by
  rw [Player.slotOffers, mem_filterMap]
  constructor
  · rintro ⟨other, hother, hoffer⟩
    rw [slotRoom_newRequest] at hoffer
    split_ifs at hoffer with hroom
    · cases hoffer
      exact ⟨⟨hother, hroom⟩, rfl⟩
    · cases hoffer
  · rintro ⟨⟨hpos, hroom⟩, rfl⟩
    refine ⟨pos, hpos, ?_⟩
    rw [slotRoom_newRequest, if_pos hroom]
    rfl

theorem inSpecificSlot_newRequest (pos : ItemPos) :
    player.CanStoreItem_InSpecificSlot data (newRequest bag slot pProto) pos =
      match player.GetItemByPos data pos with
      | none =>
        if player.acceptsItem data (newRequest pos.bag pos.slot pProto) pos then
          .ok [(pos, pProto.GetMaxStackSize)]
        else .error .EQUIP_ERR_ITEM_DOESNT_GO_INTO_BAG
      | some pItem2 =>
        if pItem2.CanBeMergedPartlyWith pProto = .EQUIP_ERR_OK then
          .ok [(pos, pProto.GetMaxStackSize - pItem2.count)]
        else .error (pItem2.CanBeMergedPartlyWith pProto) := by
  rw [Player.CanStoreItem_InSpecificSlot, itemAt_newRequest]
  cases player.GetItemByPos data pos with
  | none => rfl
  | some pItem2 => exact ite_not _ _ _

theorem admissible_empty {pos : ItemPos} (hempty : player.GetItemByPos data pos = none) :
    player.admissible data pProto pos =
      player.acceptsItem data (newRequest pos.bag pos.slot pProto) pos := by
  rw [Player.admissible, inSpecificSlot_newRequest, hempty]
  cases player.acceptsItem data (newRequest pos.bag pos.slot pProto) pos <;> rfl

theorem admissible_stack {pos : ItemPos} {pItem2 : Item}
    (hitem : player.GetItemByPos data pos = some pItem2) :
    player.admissible data pProto pos =
      decide (pItem2.CanBeMergedPartlyWith pProto = .EQUIP_ERR_OK) := by
  rw [Player.admissible, inSpecificSlot_newRequest, hitem]
  by_cases hmerge : pItem2.CanBeMergedPartlyWith pProto = .EQUIP_ERR_OK <;> simp [hmerge]

theorem inSpecificSlot_cases (pos : ItemPos) : (player.admissible data pProto pos = true ∧
      player.CanStoreItem_InSpecificSlot data (newRequest bag slot pProto) pos =
        .ok [(pos, player.room data pProto pos)]) ∨
    (player.admissible data pProto pos = false ∧ ∃ result, result ≠ .EQUIP_ERR_INVENTORY_FULL ∧
        player.CanStoreItem_InSpecificSlot data (newRequest bag slot pProto) pos =
          .error result) := by
  rw [inSpecificSlot_newRequest, Player.room]
  cases hitem : player.GetItemByPos data pos with
  | none =>
    rw [admissible_empty hitem]
    cases player.acceptsItem data (newRequest pos.bag pos.slot pProto) pos with
    | true => exact .inl ⟨rfl, rfl⟩
    | false => exact .inr ⟨rfl, .EQUIP_ERR_ITEM_DOESNT_GO_INTO_BAG, by decide, rfl⟩
  | some pItem2 =>
    rw [admissible_stack hitem]
    by_cases hmerge : pItem2.CanBeMergedPartlyWith pProto = .EQUIP_ERR_OK
    · exact .inl ⟨decide_eq_true hmerge, if_pos hmerge⟩
    refine .inr ⟨decide_eq_false hmerge, _, ?_, if_neg hmerge⟩
    rw [Item.CanBeMergedPartlyWith]
    split_ifs <;> decide

theorem inBag_newRequest (other : ℕ) (merge non_specialized : Bool) (skip_bag : ℕ) :
    player.CanStoreItem_InBag data (newRequest bag slot pProto) other merge non_specialized
        skip_bag =
      if other ≠ skip_bag ∧ player.bagTakes data pProto other = true ∧
          player.wearsPlainBag data other = non_specialized then
        .ok (player.slotOffers data (newRequest bag slot pProto) merge
          ((player.bagSlots data other).filter fun pos => pos.slot ≠ slot))
      else .error .EQUIP_ERR_ITEM_DOESNT_GO_INTO_BAG := by
  have hmoves : player.movesFullBag data (newRequest bag slot pProto) = false := rfl
  rw [Player.CanStoreItem_InBag, Player.bagTakes, Player.wearsPlainBag, hmoves]
  by_cases hskip : other = skip_bag
  · simp [hskip]
  rcases hbag : player.GetBagByPos data other with _ | pBag
  · simp [hskip]
  rcases hproto : data.GetTemplate pBag with _ | pBagProto
  · simp [hskip, hproto]
  by_cases hplain : non_specialized = pBagProto.isPlainBag
  · cases htakes : ItemCanGoIntoBag pProto pBagProto with
    | true | false => simp [hskip, hproto, hplain, htakes]
  · simp [hskip, hproto, hplain, Ne.symm hplain]

/-- A search that is accepted comes to its positions with the room in them, or it is passed
over and comes to none; the others are refused. -/
theorem find_cases (search : Search) : (search.Accepted data player bag slot pProto ∧
      ((player.find data (newRequest bag slot pProto) search = .passedOver ∧
          ∀ pos, ¬search.ComesTo data player bag slot pProto pos) ∨
        ∃ offers, player.find data (newRequest bag slot pProto) search = .offers offers ∧
          ∀ pos free, (pos, free) ∈ offers ↔ search.ComesTo data player bag slot pProto pos ∧
              free = player.room data pProto pos)) ∨
    (¬search.Accepted data player bag slot pProto ∧
      ∃ result reported, result ≠ .EQUIP_ERR_INVENTORY_FULL ∧
        player.find data (newRequest bag slot pProto) search = .refused result reported) := by
  cases search with
  | specificSlot =>
    rcases @inSpecificSlot_cases data player bag slot pProto ⟨bag, slot⟩ with
      ⟨hgood, hfound⟩ | ⟨hbad, result, hfull, hfound⟩
    · refine .inl ⟨hgood, .inr ⟨_, congrArg Player.required hfound, fun pos free => ?_⟩⟩
      rw [mem_singleton, Prod.mk.injEq]
      constructor
      · rintro ⟨rfl, rfl⟩
        exact ⟨⟨rfl, hgood⟩, rfl⟩
      · rintro ⟨⟨rfl, -⟩, rfl⟩
        exact ⟨rfl, rfl⟩
    · refine .inr ⟨fun hgood => ?_, result, true, hfull, congrArg Player.required hfound⟩
      exact Bool.false_ne_true (hbad.symm.trans hgood)
  | inventorySlots first last merge =>
    refine .inl ⟨trivial, .inr ⟨_, rfl, fun pos free => ?_⟩⟩
    rw [mem_slotOffers, mem_filter, decide_eq_true_eq, Search.ComesTo]
    tauto
  | specificBag merge =>
    by_cases htakes : player.bagTakes data pProto bag = true
    · have hnull : bag ≠ NULL_BAG := by
        rintro rfl
        cases htakes
      refine .inl ⟨htakes, .inr ⟨player.slotOffers data (newRequest bag slot pProto) merge
        ((player.bagSlots data bag).filter fun pos => pos.slot ≠ slot), ?_, fun pos free => ?_⟩⟩
      · rw [Player.find, inBag_newRequest, inBag_newRequest]
        cases hplain : player.wearsPlainBag data bag <;> simp [hnull, htakes, Player.required]
      · rw [mem_slotOffers, mem_filter, decide_eq_true_eq, Search.ComesTo]
        tauto
    · refine .inr ⟨htakes, .EQUIP_ERR_ITEM_DOESNT_GO_INTO_BAG, true, by decide, ?_⟩
      rw [Player.find, inBag_newRequest, inBag_newRequest]
      simp [htakes, Player.required]
  | bag other merge non_specialized =>
    by_cases htakes : other ≠ bag ∧ player.bagTakes data pProto other = true ∧
        player.wearsPlainBag data other = non_specialized
    · refine .inl ⟨trivial, .inr ⟨player.slotOffers data (newRequest bag slot pProto) merge
        ((player.bagSlots data other).filter fun pos => pos.slot ≠ slot), ?_, fun pos free => ?_⟩⟩
      · rw [Player.find, inBag_newRequest, if_pos htakes]
      · rw [mem_slotOffers, mem_filter, decide_eq_true_eq, Search.ComesTo]
        tauto
    · refine .inl ⟨trivial, .inl ⟨?_, fun pos hcomes => htakes hcomes.1⟩⟩
      rw [Player.find, inBag_newRequest, if_neg htakes]
  | notEmptyBag => exact .inl ⟨trivial, .inl ⟨rfl, fun _ hcomes => hcomes⟩⟩

theorem find_inventorySlots_ne (first last : ℕ) (merge : Bool) :
    player.find data (newRequest bag slot pProto) (.inventorySlots first last merge) ≠
      .passedOver := by
  intro hfound
  cases hfound

variable {searches : List Search} {poured : Poured ItemPos} {pos : ItemPos} {free : ℕ}

theorem exists_comesTo
    (hoffer : (pos, free) ∈ player.offeredSlots data (newRequest bag slot pProto) searches) :
    free = player.room data pProto pos ∧
      ∃ search ∈ searches, search.ComesTo data player bag slot pProto pos := by
  induction searches with
  | nil => exact absurd hoffer not_mem_nil
  | cons search searches ih =>
    rw [Player.offeredSlots] at hoffer
    rcases @find_cases data player bag slot pProto search with
      ⟨-, ⟨hfound, -⟩ | ⟨offers, hfound, hoffers⟩⟩ | ⟨-, result, reported, -, hfound⟩
    · rw [hfound] at hoffer
      obtain ⟨hfree, other, hother, hcomes⟩ := ih hoffer
      exact ⟨hfree, other, mem_cons_of_mem _ hother, hcomes⟩
    · rw [hfound, mem_append] at hoffer
      rcases hoffer with hhere | hbehind
      · obtain ⟨hcomes, hfree⟩ := (hoffers pos free).mp hhere
        exact ⟨hfree, search, mem_cons_self, hcomes⟩
      · obtain ⟨hfree, other, hother, hcomes⟩ := ih hbehind
        exact ⟨hfree, other, mem_cons_of_mem _ hother, hcomes⟩
    · rw [hfound] at hoffer
      cases hoffer

theorem offeredSlots_append {first second : List Search}
    (hacc : ∀ search ∈ first, search.Accepted data player bag slot pProto) :
    player.offeredSlots data (newRequest bag slot pProto) (first ++ second) =
      player.offeredSlots data (newRequest bag slot pProto) first ++
        player.offeredSlots data (newRequest bag slot pProto) second := by
  induction first with
  | nil => rfl
  | cons search first ih =>
    have hrest := ih fun other hother => hacc other (mem_cons_of_mem _ hother)
    rw [cons_append, Player.offeredSlots, Player.offeredSlots]
    rcases @find_cases data player bag slot pProto search with
      ⟨-, ⟨hfound, -⟩ | ⟨offers, hfound, -⟩⟩ | ⟨hrefused, -⟩
    · rw [hfound]
      exact hrest
    · rw [hfound]
      rw [hrest, append_assoc]
    · exact absurd (hacc search mem_cons_self) hrefused

theorem mem_places_offeredSlots
    (hacc : ∀ search ∈ searches, search.Accepted data player bag slot pProto) :
    pos ∈ places (player.offeredSlots data (newRequest bag slot pProto) searches) ↔
      ∃ search ∈ searches, search.ComesTo data player bag slot pProto pos := by
  constructor
  · intro hplace
    obtain ⟨⟨_, free⟩, hoffer, rfl⟩ := mem_map.mp hplace
    exact (exists_comesTo hoffer).2
  · rintro ⟨search, hsearch, hcomes⟩
    obtain ⟨before, behind, rfl⟩ := append_of_mem hsearch
    rw [offeredSlots_append fun other hother =>
      hacc other (mem_append_left _ hother), places_append, mem_append]
    right
    rw [Player.offeredSlots]
    rcases @find_cases data player bag slot pProto search with
      ⟨-, ⟨-, hnone⟩ | ⟨offers, hfound, hoffers⟩⟩ | ⟨hrefused, -⟩
    · exact absurd hcomes (hnone pos)
    · rw [hfound, places_append]
      apply mem_append_left
      exact mem_map_of_mem ((hoffers pos _).mpr ⟨hcomes, rfl⟩)
    · exact absurd (hacc search hsearch) hrefused

theorem capacity_offeredSlots {slots : Finset ItemPos}
    (hacc : ∀ search ∈ searches, search.Accepted data player bag slot pProto)
    (hslots : ∀ pos, pos ∈ slots ↔
      ∃ search ∈ searches, search.ComesTo data player bag slot pProto pos) :
    capacity (player.offeredSlots data (newRequest bag slot pProto) searches) [] =
      ∑ pos ∈ slots, player.room data pProto pos := by
  have hroom : ∀ offer ∈ player.offeredSlots data (newRequest bag slot pProto) searches,
      offer.2 = player.room data pProto offer.1 :=
    fun offer hoffer => (exists_comesTo hoffer).1
  have hplaces : (places (player.offeredSlots data (newRequest bag slot pProto)
      searches)).toFinset = slots := by
    ext pos
    rw [mem_toFinset, mem_places_offeredSlots hacc, hslots]
  rw [capacity_eq_sum hroom, hplaces, toFinset_nil, Finset.sdiff_empty]

theorem comesTo_of_mem_dest
    (hplace : pos ∈ places (player.runSearches data (newRequest bag slot pProto)
      .EQUIP_ERR_INVENTORY_FULL 0 searches poured).dest) :
    pos ∈ places poured.taken ∨
      ∃ search ∈ searches, search.ComesTo data player bag slot pProto pos := by
  induction searches generalizing poured with
  | nil => exact .inl hplace
  | cons search searches ih =>
    have hbehind : ∀ {middle : Poured ItemPos},
        pos ∈ places (player.runSearches data (newRequest bag slot pProto)
          .EQUIP_ERR_INVENTORY_FULL 0 searches middle).dest →
        pos ∈ places middle.taken ∨
          ∃ other ∈ search :: searches, other.ComesTo data player bag slot pProto pos := by
      intro middle hmiddle
      apply (ih hmiddle).imp_right
      rintro ⟨other, hother, hcomes⟩
      exact ⟨other, mem_cons_of_mem _ hother, hcomes⟩
    rw [Player.runSearches] at hplace
    rcases @find_cases data player bag slot pProto search with
      ⟨-, ⟨hfound, -⟩ | ⟨offers, hfound, hoffers⟩⟩ | ⟨-, result, reported, -, hfound⟩
    · rw [hfound] at hplace
      exact hbehind hplace
    · have hpour : ∀ entry ∈ (pour offers poured).taken, entry ∈ poured.taken ∨
          search.ComesTo data player bag slot pProto entry.1 :=
        (@pours_pour ItemPos _ (fun other _ => search.ComesTo data player bag slot pProto other)
          offers (fun other free hoffer _ _ => ((hoffers other free).mp hoffer).1) poured).fits
      have hhere : pos ∈ places (pour offers poured).taken → pos ∈ places poured.taken ∨
          ∃ other ∈ search :: searches, other.ComesTo data player bag slot pProto pos := by
        intro htaken
        obtain ⟨entry, hentry, rfl⟩ := mem_map.mp htaken
        rcases hpour entry hentry with hbefore | hcomes
        · exact .inl (mem_map_of_mem hbefore)
        · exact .inr ⟨search, mem_cons_self, hcomes⟩
      rw [hfound] at hplace
      dsimp only at hplace
      by_cases hzero : (pour offers poured).left = 0
      · rw [if_pos hzero, if_pos rfl] at hplace
        exact hhere hplace
      · rw [if_neg hzero] at hplace
        exact (hbehind hplace).elim hhere .inr
    · rw [hfound] at hplace
      exact .inl hplace

theorem runSearches_append_of_zero {first second : List Search}
    (hzero : (pour (player.offeredSlots data (newRequest bag slot pProto) first) poured).left = 0)
    (hsearch : poured.left = 0 → ∃ search ∈ first,
      player.find data (newRequest bag slot pProto) search ≠ .passedOver) :
    player.runSearches data (newRequest bag slot pProto) .EQUIP_ERR_INVENTORY_FULL 0
        (first ++ second) poured =
      player.runSearches data (newRequest bag slot pProto) .EQUIP_ERR_INVENTORY_FULL 0 first
        poured := by
  induction first generalizing poured with
  | nil =>
    obtain ⟨search, hmem, -⟩ := hsearch hzero
    cases hmem
  | cons search first ih =>
    rw [cons_append, Player.runSearches, Player.runSearches]
    rw [Player.offeredSlots] at hzero
    rcases @find_cases data player bag slot pProto search with
      ⟨-, ⟨hfound, -⟩ | ⟨offers, hfound, -⟩⟩ | ⟨-, result, reported, -, hfound⟩
    · rw [hfound] at hzero ⊢
      apply ih hzero
      intro hleft
      obtain ⟨other, hother, hne⟩ := hsearch hleft
      rcases mem_cons.mp hother with rfl | hbehind
      · exact absurd hfound hne
      · exact ⟨other, hbehind, hne⟩
    · rw [hfound] at hzero ⊢
      dsimp only at hzero ⊢
      by_cases hhere : (pour offers poured).left = 0
      · rw [if_pos hhere, if_pos hhere]
      have hleft : poured.left ≠ 0 := by
        intro hnone
        rw [left_pour, hnone, Nat.zero_sub] at hhere
        exact hhere rfl
      rw [pour_append _ _ hleft, if_neg hhere] at hzero
      rw [if_neg hhere, if_neg hhere]
      exact ih hzero fun hnone => absurd hnone hhere
    · rw [hfound]

theorem result_runSearches (hleft : poured.left ≠ 0) :
    (player.runSearches data (newRequest bag slot pProto) .EQUIP_ERR_INVENTORY_FULL 0 searches
        poured).result = .EQUIP_ERR_INVENTORY_FULL ↔
      (∀ search ∈ searches, search.Accepted data player bag slot pProto) ∧
        (pour (player.offeredSlots data (newRequest bag slot pProto) searches) poured).left ≠
          0 := by
  induction searches generalizing poured with
  | nil => simp [Player.runSearches, Player.offeredSlots, pour, hleft]
  | cons search searches ih =>
    rw [Player.runSearches, Player.offeredSlots, forall_mem_cons]
    rcases @find_cases data player bag slot pProto search with
      ⟨hacc, ⟨hfound, -⟩ | ⟨offers, hfound, -⟩⟩ | ⟨hrefused, result, reported, hfull, hfound⟩
    · rw [hfound]
      rw [ih hleft, and_iff_right hacc]
    · rw [hfound]
      dsimp only
      rw [and_iff_right hacc, pour_append _ _ hleft]
      by_cases hzero : (pour offers poured).left = 0
      · rw [if_pos hzero, if_pos hzero, if_pos rfl]
        exact iff_of_false (by rintro ⟨⟩) fun hboth => hboth.2 hzero
      · rw [if_neg hzero, if_neg hzero]
        exact ih hzero
    · rw [hfound]
      exact iff_of_false hfull fun hboth => hrefused hboth.1.1

theorem result_runSearches_of_zero (hleft : poured.left = 0)
    (hsearch : ∃ search ∈ searches,
      player.find data (newRequest bag slot pProto) search ≠ .passedOver) :
    (player.runSearches data (newRequest bag slot pProto) .EQUIP_ERR_INVENTORY_FULL 0 searches
      poured).result ≠ .EQUIP_ERR_INVENTORY_FULL := by
  induction searches with
  | nil =>
    obtain ⟨search, hmem, -⟩ := hsearch
    cases hmem
  | cons search searches ih =>
    rw [Player.runSearches]
    rcases @find_cases data player bag slot pProto search with
      ⟨-, ⟨hfound, -⟩ | ⟨offers, hfound, -⟩⟩ | ⟨-, result, reported, hfull, hfound⟩
    · rw [hfound]
      apply ih
      obtain ⟨other, hother, hne⟩ := hsearch
      rcases mem_cons.mp hother with rfl | hbehind
      · exact absurd hfound hne
      · exact ⟨other, hbehind, hne⟩
    · have hzero : (pour offers poured).left = 0 := by
        rw [left_pour, hleft, Nat.zero_sub]
      rw [hfound]
      dsimp only
      rw [if_pos hzero, if_pos rfl]
      rintro ⟨⟩
    · rw [hfound]
      exact hfull

end AzerothCore.Storage
