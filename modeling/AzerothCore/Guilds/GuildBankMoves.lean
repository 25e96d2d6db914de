import AzerothCore.Guilds.Guild

/-!
# A move conserves the items

A move takes the item, or a part of its stack, out of one location and stores all of it; a
swap does so twice. Both sides are asked before, and what they answer still holds when the
items are out of their locations.
-/

namespace AzerothCore.Guilds

open List Option Nat
open Pouring Storage

variable {env : BankEnv} {state removed after : MoveState} {side other : MoveItemData}
  {pItem item : Item} {location : MoveLocation} {loose : List Item} {splitedAmount : ℕ}

theorem UpdateMemberWithdrawSlots_frame (guild : Guild) (guid tabId : ℕ) :
    (guild._UpdateMemberWithdrawSlots guid tabId).m_items = guild.m_items ∧
      (guild._UpdateMemberWithdrawSlots guid tabId).m_bankTabs = guild.m_bankTabs := by
  unfold Guild._UpdateMemberWithdrawSlots
  split
  · exact ⟨rfl, rfl⟩
  split
  · exact ⟨rfl, rfl⟩
  · exact ⟨rfl, rfl⟩

namespace MoveItemData

def locate (env : BankEnv) (side : MoveItemData) (state : MoveState) : Option MoveLocation :=
  if side.IsBank then
    if state.guild.hasSlot side.m_container side.m_slotId then
      some (.bank (toLex (side.m_container, side.m_slotId)))
    else none
  else (state.player.place env.data side.pos).map .own

def Valid (side : MoveItemData) : Prop :=
  if side.IsBank then side.m_slotId < GUILD_BANK_MAX_SLOTS ∨ side.m_slotId = NULL_SLOT
  else StoreTarget side.m_container side.m_slotId

theorem location_of_slotItem (hitem : side.slotItem env state = some item) :
    ∃ location, side.locate env state = some location ∧
      moveStore.itemAt state location = some item := by
  unfold slotItem at hitem
  unfold MoveItemData.locate
  split at hitem
  case isTrue hbank =>
    have hslot := Guild.hasSlot_of_item hitem
    rw [if_pos hbank, if_pos hslot]
    exact ⟨_, rfl, (Guild.GetItem_eq hslot).symm.trans hitem⟩
  case isFalse hbank =>
    obtain ⟨place, hplace, hfind⟩ := find?_of_GetItemByPos hitem
    rw [if_neg hbank, hplace]
    exact ⟨_, rfl, hfind⟩

theorem slotItem_of_InitItem (hitem : side.InitItem env state = some item) :
    side.slotItem env state = some item :=
  (filter_eq_some_iff.mp hitem).1

theorem RemoveItem_bank (hbank : side.IsBank = true)
    (hitem : side.slotItem env state = some item) :
    (side.RemoveItem env other state splitedAmount).player = state.player ∧
      (side.RemoveItem env other state splitedAmount).nextItemGuid = state.nextItemGuid ∧
      (side.RemoveItem env other state splitedAmount).guild.m_bankTabs = state.guild.m_bankTabs ∧
      (side.RemoveItem env other state splitedAmount).guild.m_items =
        if splitedAmount ≠ 0 then
          state.guild.m_items.insert (toLex (side.m_container, side.m_slotId))
            { item with count := item.count - splitedAmount }
        else state.guild.m_items.erase (toLex (side.m_container, side.m_slotId)) := by
  have hslot : state.guild.hasSlot side.m_container side.m_slotId = true := by
    unfold slotItem at hitem
    rw [if_pos hbank] at hitem
    exact Guild.hasSlot_of_item hitem
  have hremoved : (side.removeFromSlot env state splitedAmount).player = state.player ∧
      (side.removeFromSlot env state splitedAmount).nextItemGuid = state.nextItemGuid ∧
      (side.removeFromSlot env state splitedAmount).guild.m_bankTabs = state.guild.m_bankTabs ∧
      (side.removeFromSlot env state splitedAmount).guild.m_items =
        if splitedAmount ≠ 0 then
          state.guild.m_items.insert (toLex (side.m_container, side.m_slotId))
            { item with count := item.count - splitedAmount }
        else state.guild.m_items.erase (toLex (side.m_container, side.m_slotId)) := by
    unfold removeFromSlot
    rw [hitem]
    dsimp only
    rw [if_pos hbank, Guild.setSlot_eq hslot, Guild._RemoveItem, if_pos hslot]
    split
    · exact ⟨rfl, rfl, rfl, rfl⟩
    · exact ⟨rfl, rfl, rfl, rfl⟩
  unfold RemoveItem
  split
  case isFalse => exact hremoved
  have hframe := UpdateMemberWithdrawSlots_frame
    (side.removeFromSlot env state splitedAmount).guild state.player.guid side.m_container
  exact ⟨hremoved.1, hremoved.2.1, hframe.2.trans hremoved.2.2.1, hframe.1.trans hremoved.2.2.2⟩

theorem RemoveItem_player (hbank : side.IsBank = false)
    (hitem : side.slotItem env state = some item) :
    ∃ place, state.player.place env.data side.pos = some place ∧
      state.player.items.find? place = some item ∧
      side.RemoveItem env other state splitedAmount = { state with
          player :=
            if splitedAmount ≠ 0 then
              state.player.set place { item with count := item.count - splitedAmount }
            else state.player.without place } := by
  have hfound := hitem
  unfold slotItem at hfound
  rw [hbank, if_neg Bool.false_ne_true] at hfound
  obtain ⟨place, hplace, hfind⟩ := find?_of_GetItemByPos hfound
  refine ⟨place, hplace, hfind, ?_⟩
  unfold RemoveItem removeFromSlot
  rw [hitem, hbank]
  simp only [Bool.false_and, Bool.false_eq_true, if_false]
  rw [setItem_eq hplace, MoveItemFromInventory_eq hfound hplace]

/-- What is left in the location of the item. -/
def rest (item : Item) (splitedAmount : ℕ) : Option Item :=
  if splitedAmount ≠ 0 then some { item with count := item.count - splitedAmount } else none

theorem RemoveItem_updated (hitem : side.slotItem env state = some item)
    (hloc : side.locate env state = some location) :
    moveStore.Updated state location (rest item splitedAmount)
      (side.RemoveItem env other state splitedAmount) := by
  unfold MoveItemData.locate at hloc
  unfold rest
  cases hbank : side.IsBank with
  | true =>
    obtain ⟨hplayer, hnext, -, hitems⟩ := @RemoveItem_bank env state side other item
      splitedAmount hbank hitem
    rw [hbank, if_pos rfl] at hloc
    split at hloc
    case isFalse => cases hloc
    rename_i hslot
    cases hloc
    have hfind : state.guild.m_items.find? (toLex (side.m_container, side.m_slotId)) =
        some item := by
      unfold slotItem at hitem
      rw [if_pos hbank] at hitem
      exact (Guild.GetItem_eq hslot).symm.trans hitem
    refine updated_bank hplayer ?_ ?_ hnext.ge
    · intro otherSlot
      rw [hitems]
      split
      · exact StdMap.find?_insert ..
      · exact StdMap.find?_erase ..
    · intro entry
      rw [hitems]
      split
      · exact sumValues_insert_add ..
      rw [hfind]
      exact sumValues_erase_add hfind entry
  | false =>
    obtain ⟨place, hplace, hfind, hremoved⟩ := @RemoveItem_player env state side other item
      splitedAmount hbank hitem
    rw [hbank, if_neg Bool.false_ne_true, hplace] at hloc
    cases hloc
    rw [hremoved]
    split
    case isFalse => exact (moveStore_embeds state).updated_without hfind
    exact (moveStore_embeds state).updated_set place
      { item with count := item.count - splitedAmount } le_rfl

theorem StoreItem_bank (hbank : side.IsBank = true)
    (htab : side.m_container < state.guild.m_bankTabs) (dest : ItemPosCountVec) :
    side.StoreItem env state dest pItem = { state with
        guild := (state.guild.StoreItem env.data side.m_container pItem dest
          state.nextItemGuid).1
        nextItemGuid := (state.guild.StoreItem env.data side.m_container pItem dest
          state.nextItemGuid).2 } := by
  unfold StoreItem
  rw [if_pos hbank, if_neg (not_le.mpr htab)]

theorem StoreItem_player (hbank : side.IsBank = false) (dest : ItemPosCountVec) :
    side.StoreItem env state dest pItem = { state with
        player := (state.player.MoveItemToInventory env.data dest pItem state.nextItemGuid).1
        nextItemGuid :=
          (state.player.MoveItemToInventory env.data dest pItem state.nextItemGuid).2 } := by
  unfold StoreItem
  rw [hbank, if_neg Bool.false_ne_true]

structure Leaves (side : MoveItemData) (pItem : Item) (state removed : MoveState) : Prop where
  player : side.IsBank = false → removed.player = state.player
  tabs : removed.guild.m_bankTabs = state.guild.m_bankTabs
  slots : ∀ slot item, removed.guild.m_items.find? slot = some item →
    ∃ old, state.guild.m_items.find? slot = some old ∧ old.guid ≠ pItem.guid ∧
      item.entry = old.entry ∧ item.count ≤ old.count

theorem count_lt (hholds : moveStore.Holds env.data state (pItem :: loose)) :
    pItem.count < 2 ^ 32 := by
  obtain ⟨pProto, hproto, hstack⟩ := hholds.looseWithin pItem mem_cons_self
  exact hstack.trans_lt (maxStackSize_lt hproto)

theorem receives (hvalid : side.Valid)
    (hok : (side.CanStore env state pItem false).1 = .EQUIP_ERR_OK)
    (hholds : moveStore.Holds env.data removed (pItem :: loose))
    (hleaves : side.Leaves pItem state removed) :
    moveStore.Receives env.data pItem pItem.count removed
      (side.StoreItem env removed (side.CanStore env state pItem false).2 pItem) := by
  unfold Valid at hvalid
  unfold CanStore at hok ⊢
  cases hbank : side.IsBank with
  | true =>
    rw [hbank, if_pos rfl] at hvalid hok
    obtain ⟨htab, hnodup, hamount, hfits⟩ := Guild.CanStore_fits hvalid hok
    rw [if_pos rfl, StoreItem_bank hbank (hleaves.tabs.symm ▸ htab), ← hamount]
    refine Guild.receives_StoreItem hholds hnodup fun entry hmem => ?_
    obtain ⟨hinTab, hslot, hseen⟩ := hfits entry hmem
    have hhas : removed.guild.hasSlot side.m_container entry.1.slot = true := by
      rw [Guild.hasSlot, hleaves.tabs, Bool.and_eq_true, decide_eq_true_eq, decide_eq_true_eq]
      exact ⟨htab, hslot⟩
    have hhasBefore : state.guild.hasSlot side.m_container entry.1.slot = true := by
      rw [Guild.hasSlot, Bool.and_eq_true, decide_eq_true_eq, decide_eq_true_eq]
      exact ⟨htab, hslot⟩
    refine ⟨hinTab, hhas, ?_⟩
    rw [Guild.GetItem_eq hhas]
    rcases hfind : removed.guild.m_items.find? (toLex (side.m_container, entry.1.slot)) with _ | item
    · exact ⟨nofun, by have hroom := hseen.room; rw [elim_none]; omega⟩
    obtain ⟨old, hold, hne, hentry, hcount⟩ := hleaves.slots _ item hfind
    have hsees : state.guild.seen side.m_container pItem entry.1.slot = some old := by
      rw [Guild.seen, Guild.GetItem_eq hhasBefore, hold, filter_some, if_pos (decide_eq_true hne)]
    refine ⟨?_, ?_⟩
    · rintro _ heq
      exact some.inj heq ▸ hentry.trans (hseen.mergeable old hsees)
    · have hroom := hseen.room
      rw [hsees, elim_some] at hroom
      rw [elim_some]
      omega
  | false =>
    rw [hbank, if_neg Bool.false_ne_true] at hvalid hok
    rw [if_neg Bool.false_ne_true, StoreItem_player hbank]
    rw [← hleaves.player hbank] at hok ⊢
    have hembeds := moveStore_embeds removed
    have hforeign : Foreign removed.player (some pItem) := by
      rintro moved hmoved place item hfind
      cases hmoved
      exact (hholds.away pItem mem_cons_self (.own place) item hfind).symm
    obtain ⟨pProto, hproto, hnodup, hamount, hfits⟩ :=
      CanStoreItem_fits (count_lt hholds) hforeign hvalid hok
    have hreceives := hembeds.receives_MoveItemToInventory (hembeds.sound hholds)
      (hembeds.absent hholds mem_cons_self) hproto hnodup hfits
    rw [hamount] at hreceives
    exact hreceives

structure Swapped (env : BankEnv) (side : MoveItemData) (pItem : Item) (location : MoveLocation)
    (removed after : MoveState) : Prop where
  receives : moveStore.Receives env.data pItem pItem.count removed after
  found : ∃ found, moveStore.itemAt after location = some found ∧ found.guid = pItem.guid ∧
    found.entry = pItem.entry ∧ found.count = pItem.count
  others : ∀ other, other ≠ location → moveStore.itemAt after other = moveStore.itemAt removed other
  tabs : after.guild.m_bankTabs = removed.guild.m_bankTabs
  player : side.IsBank = true → after.player = removed.player

theorem receives_swapped (hvalid : side.Valid)
    (hok : (side.CanStore env state pItem true).1 = .EQUIP_ERR_OK)
    (hloc : side.locate env state = some location)
    (hholds : moveStore.Holds env.data removed (pItem :: loose))
    (hnone : moveStore.itemAt removed location = none)
    (htabs : removed.guild.m_bankTabs = state.guild.m_bankTabs)
    (hplayer : side.IsBank = false → ∃ place, state.player.place env.data side.pos = some place ∧
        removed.player = state.player.without place) :
    side.Swapped env pItem location removed
      (side.StoreItem env removed (side.CanStore env state pItem true).2 pItem) := by
  obtain ⟨pProto, hproto, hstack⟩ := hholds.looseWithin pItem mem_cons_self
  unfold MoveItemData.locate at hloc
  unfold Valid at hvalid
  unfold CanStore at hok ⊢
  cases hbank : side.IsBank with
  | true =>
    rw [hbank, if_pos rfl] at hloc hok
    rw [if_pos rfl]
    split at hloc
    case isFalse => cases hloc
    rename_i hslot
    cases hloc
    have hslotId : side.m_slotId ≠ NULL_SLOT := by
      rw [Guild.hasSlot, Bool.and_eq_true, decide_eq_true_eq, decide_eq_true_eq] at hslot
      exact (hslot.2.trans (by decide)).ne
    have hmax : pItem.count ≤ GetMaxStackCount env.data pItem := by
      rw [GetMaxStackCount, hproto, elim_some]
      exact hstack
    obtain ⟨htab, hdest⟩ := Guild.CanStore_swap hslotId hmax hok
    have hhas : removed.guild.hasSlot side.m_container side.m_slotId = true := by
      rw [Guild.hasSlot, htabs]
      exact hslot
    have hempty : removed.guild._GetItem side.m_container side.m_slotId = none :=
      (Guild.GetItem_eq hhas).trans hnone
    rw [hdest, StoreItem_bank hbank (htabs.symm ▸ htab)]
    have hfits : ∀ entry ∈ [(Guild.tabPos side.m_slotId, pItem.count)],
        Guild.TabFits env.data removed.guild side.m_container pItem entry.1 entry.2 := by
      intro entry hmem
      obtain rfl := mem_singleton.mp hmem
      refine ⟨rfl, hhas, ?_⟩
      change Guild.SlotFits env.data pItem
        (removed.guild._GetItem side.m_container side.m_slotId) pItem.count
      rw [hempty]
      exact ⟨by rintro _ ⟨⟩, (Nat.zero_add _).trans_le hmax⟩
    have hnodup : (places [(Guild.tabPos side.m_slotId, pItem.count)]).Nodup := nodup_singleton _
    have hreceives := Guild.receives_StoreItem hholds hnodup hfits
    rw [Guild.StoreItem_single hhas hempty] at hreceives ⊢
    refine ⟨hreceives, ⟨_, StdMap.find?_insert_self .., rfl, rfl, rfl⟩, ?_, rfl, fun _ => rfl⟩
    rintro (slot | place) hne
    · refine (StdMap.find?_insert ..).trans (if_neg ?_)
      rintro rfl
      exact hne rfl
    · rfl
  | false =>
    rw [hbank, if_neg Bool.false_ne_true] at hloc hok hvalid
    obtain ⟨place, hplace, hremoved⟩ := hplayer hbank
    rw [hplace] at hloc
    cases hloc
    have hdest := CanStoreItem_swap (count_lt hholds) hproto hstack hplace hok
    have hfits := @fits_without env.data state.player side.pos place pProto pItem.count hvalid
      hplace hstack
    rw [← hremoved] at hfits
    have hsame := (@place_without_self env.data state.player side.pos place hvalid hplace).2
    rw [← hremoved] at hsame
    have hembeds := moveStore_embeds removed
    obtain ⟨found, hfound, hfields⟩ := @find?_MoveItemToInventory env.data removed.player pItem side.pos place
      removed.nextItemGuid (hembeds.absent hholds mem_cons_self) hsame hnone hfits.notBagPos
    have hnodup : (places [(side.pos, pItem.count)]).Nodup := nodup_singleton _
    have hreceives := hembeds.receives_MoveItemToInventory (hembeds.sound hholds)
      (hembeds.absent hholds mem_cons_self) hproto hnodup fun entry hmem => by
        obtain rfl := mem_singleton.mp hmem
        exact hfits
    rw [if_neg Bool.false_ne_true, StoreItem_player hbank]
    dsimp only
    rw [show (state.player.CanStoreItem env.data side.m_container side.m_slotId [] pItem.entry
      pItem.count (some pItem) true).dest = [(side.pos, pItem.count)] from hdest]
    refine ⟨hreceives, ⟨found, (hfound place).trans (if_pos rfl), hfields⟩, ?_, rfl,
      fun hother => absurd (hbank.symm.trans hother) Bool.false_ne_true⟩
    rintro (slot | other) hne
    · rfl
    · refine (hfound other).trans (if_neg ?_)
      rintro rfl
      exact hne rfl

theorem slotItem_eq (side : MoveItemData) (state : MoveState) :
    side.slotItem env state = (side.locate env state).bind (moveStore.itemAt state) := by
  unfold slotItem MoveItemData.locate
  split
  · unfold Guild._GetItem
    split <;> rfl
  · unfold Storage.Player.GetItemByPos
    cases state.player.place env.data side.pos <;> rfl

theorem locate_congr (hplayer : side.IsBank = false → removed.player = state.player)
    (htabs : removed.guild.m_bankTabs = state.guild.m_bankTabs) :
    side.locate env removed = side.locate env state := by
  unfold MoveItemData.locate Guild.hasSlot
  cases hbank : side.IsBank with
  | true => rw [htabs, if_pos rfl, if_pos rfl]
  | false => rw [hplayer hbank, if_neg Bool.false_ne_true, if_neg Bool.false_ne_true]

theorem RemoveItem_tabs (hitem : side.slotItem env state = some item) :
    (side.RemoveItem env other state splitedAmount).guild.m_bankTabs = state.guild.m_bankTabs := by
  cases hbank : side.IsBank with
  | true => exact (RemoveItem_bank hbank hitem).2.2.1
  | false =>
    obtain ⟨place, -, -, hremoved⟩ := @RemoveItem_player env state side other item
      splitedAmount hbank hitem
    rw [hremoved]

/-- The other side is left alone, apart from the slots of the bank that a stack was taken
from. -/
theorem leaves_of_RemoveItem (hitem : side.slotItem env state = some item)
    (hkinds : side.IsBank = true ∨ other.IsBank = true)
    (haway : ∀ location found, moveStore.itemAt
      (side.RemoveItem env other state splitedAmount) location = some found →
      found.guid ≠ pItem.guid) :
    other.Leaves pItem state (side.RemoveItem env other state splitedAmount) where
  player hbank := (RemoveItem_bank (hkinds.resolve_right (Bool.eq_false_iff.mp hbank)) hitem).1
  tabs := RemoveItem_tabs hitem
  slots slot found hfound := by
    obtain ⟨location, hloc, hat⟩ := location_of_slotItem hitem
    have hupdated := @RemoveItem_updated env state side other item location splitedAmount hitem
      hloc
    have hguid := haway (.bank slot) found hfound
    rcases @ItemStore.Updated.cases _ _ _ _ _ _ _ hupdated (.bank slot) found hfound with ⟨rfl, hrest⟩ | ⟨-, hbefore⟩
    · refine ⟨item, hat, ?_⟩
      unfold rest at hrest
      split at hrest
      case isFalse => cases hrest
      cases hrest
      exact ⟨hguid, rfl, sub_le ..⟩
    · exact ⟨found, hbefore, hguid, rfl, le_rfl⟩

end MoveItemData

/-- The items are sound after a move, there are as many of each entry as before, and every
item but the one that moves is still somewhere, with no smaller stack. -/
structure Conserves (env : BankEnv) (pItem : Item) (before after : MoveState) : Prop where
  holds : moveStore.Holds env.data after []
  total : ∀ entry, moveStore.total after entry = moveStore.total before entry
  kept : ∀ location item, moveStore.itemAt before location = some item →
    item.guid ≠ pItem.guid → ∃ other found, moveStore.itemAt after other = some found ∧
      found.guid = item.guid ∧ found.entry = item.entry ∧ item.count ≤ found.count

namespace MoveState

variable {pSrc pDest : MoveItemData} {pDestItem : Item}

section

variable (hholds : moveStore.Holds env.data state []) (hsrc : pSrc.slotItem env state = some pItem)
include hholds hsrc

theorem conserves_merge (hvalid : pDest.Valid)
    (hkinds : pSrc.IsBank = true ∨ pDest.IsBank = true)
    (hmove : state._DoItemsMove env pSrc pDest pItem none 0 = some after) :
    Conserves env pItem state after := by
  unfold _DoItemsMove at hmove
  dsimp only [isSome_none] at hmove
  split at hmove
  · cases hmove
  rename_i hok
  cases hmove
  obtain ⟨location, hloc, hat⟩ := MoveItemData.location_of_slotItem hsrc
  have hupdated := @MoveItemData.RemoveItem_updated env state pSrc pDest pItem location 0 hsrc
    hloc
  have hloose := hholds.removed hat hupdated
  have hreceives := MoveItemData.receives hvalid (not_not.mp hok) hloose
    (MoveItemData.leaves_of_RemoveItem hsrc hkinds (hloose.away pItem mem_cons_self))
  refine ⟨hreceives.holds hloose, fun entry => ?_, ?_⟩
  · have hremoved := hupdated.total entry
    rw [hat] at hremoved
    rw [hreceives.total_whole]
    exact hremoved
  · intro other item hitem hguid
    have hne : other ≠ location := by
      rintro rfl
      exact hguid (congrArg Item.guid (some.inj (hitem.symm.trans hat)))
    exact ⟨other, hreceives.grows other item ((hupdated.elsewhere hne).trans hitem)⟩

theorem conserves_swap (hdest : pDest.slotItem env state = some pDestItem)
    (hvalid : pDest.Valid) (hvalidSrc : pSrc.Valid)
    (hkinds : pSrc.IsBank = true ∨ pDest.IsBank = true)
    (hne : pSrc.locate env state ≠ pDest.locate env state)
    (hmove : state._DoItemsMove env pSrc pDest pItem (some pDestItem) 0 = some after) :
    Conserves env pItem state after := by
  unfold _DoItemsMove at hmove
  dsimp only [isSome_some] at hmove
  split at hmove
  · cases hmove
  rename_i hok
  split at hmove
  · cases hmove
  rename_i hokBack
  cases hmove
  obtain ⟨location, hloc, hat⟩ := MoveItemData.location_of_slotItem hsrc
  obtain ⟨other, hother, hatOther⟩ := MoveItemData.location_of_slotItem hdest
  have hapart : other ≠ location := by
    rintro rfl
    exact hne (hloc.trans hother.symm)
  -- the item leaves the source
  have hfirst := @MoveItemData.RemoveItem_updated env state pSrc pDest pItem location 0 hsrc
    hloc
  have hloose := hholds.removed hat hfirst
  have htabs := @MoveItemData.RemoveItem_tabs env state pSrc pDest pItem 0 hsrc
  have hplayer : pDest.IsBank = false →
      (pSrc.RemoveItem env pDest state 0).player = state.player := fun hbank =>
    (MoveItemData.RemoveItem_bank (hkinds.resolve_right (Bool.eq_false_iff.mp hbank)) hsrc).1
  have hplayerSrc : pSrc.IsBank = false → ∃ place,
      state.player.place env.data pSrc.pos = some place ∧
        (pSrc.RemoveItem env pDest state 0).player = state.player.without place := by
    intro hbank
    obtain ⟨place, hplace, -, hremoved⟩ := @MoveItemData.RemoveItem_player env state pSrc
      pDest pItem 0 hbank hsrc
    exact ⟨place, hplace, congrArg MoveState.player hremoved⟩
  generalize pSrc.RemoveItem env pDest state 0 = first at *
  -- the other item leaves the destination
  have hotherFirst := (MoveItemData.locate_congr hplayer htabs).trans hother
  have hdestFirst : pDest.slotItem env first = some pDestItem := by
    rw [MoveItemData.slotItem_eq, hotherFirst, bind_some, hfirst.elsewhere hapart]
    exact hatOther
  have hsecond := @MoveItemData.RemoveItem_updated env first pDest pSrc pDestItem other 0
    hdestFirst hotherFirst
  have hlooseBoth := hloose.removed ((hfirst.elsewhere hapart).trans hatOther) hsecond
  have htabsSecond := (@MoveItemData.RemoveItem_tabs env first pDest pSrc pDestItem 0
    hdestFirst).trans htabs
  have hplayerDest : pDest.IsBank = false → ∃ place,
      state.player.place env.data pDest.pos = some place ∧
        (pDest.RemoveItem env pSrc first 0).player = state.player.without place := by
    intro hbank
    obtain ⟨place, hplace, -, hremoved⟩ := @MoveItemData.RemoveItem_player env first pDest
      pSrc pDestItem 0 hbank hdestFirst
    rw [hplayer hbank] at hplace hremoved
    exact ⟨place, hplace, congrArg MoveState.player hremoved⟩
  have hplayerSecond : pDest.IsBank = true →
      (pDest.RemoveItem env pSrc first 0).player = first.player := fun hbank =>
    (MoveItemData.RemoveItem_bank hbank hdestFirst).1
  generalize pDest.RemoveItem env pSrc first 0 = second at *
  -- both are stored
  have hstored := MoveItemData.receives_swapped hvalid (not_not.mp hok) hother
    hlooseBoth.swap_loose hsecond.at_location htabsSecond hplayerDest
  have hlooseDest := hstored.receives.holds hlooseBoth.swap_loose
  generalize pDest.StoreItem env second (pDest.CanStore env state pItem true).2 pItem = third
    at *
  have hempty : moveStore.itemAt third location = none := by
    rw [hstored.others location hapart.symm, hsecond.elsewhere hapart.symm]
    exact hfirst.at_location
  have hback := MoveItemData.receives_swapped hvalidSrc (not_not.mp hokBack) hloc
    hlooseDest hempty (hstored.tabs.trans htabsSecond) fun hbank => by
      obtain ⟨place, hplace, hremoved⟩ := hplayerSrc hbank
      have hdestBank := hkinds.resolve_left (Bool.eq_false_iff.mp hbank)
      exact ⟨place, hplace,
        (hstored.player hdestBank).trans ((hplayerSecond hdestBank).trans hremoved)⟩
  refine ⟨hback.receives.holds hlooseDest, fun entry => ?_, ?_⟩
  · have hremoved := hfirst.total entry
    have hremovedOther := hsecond.total entry
    rw [hat] at hremoved
    rw [hfirst.elsewhere hapart, hatOther] at hremovedOther
    have hboth := hback.receives.total_whole entry
    rw [hstored.receives.total_whole] at hboth
    change _ + pItem.weight entry = _ + 0 at hremoved
    change _ + pDestItem.weight entry = _ + 0 at hremovedOther
    omega
  · intro otherLocation item hitem hguid
    by_cases hsame : otherLocation = other
    · subst hsame
      obtain rfl := some.inj (hitem.symm.trans hatOther)
      obtain ⟨found, hfound, hfoundGuid, hentry, hcount⟩ := hback.found
      exact ⟨location, found, hfound, hfoundGuid, hentry, hcount.ge⟩
    · have hneSrc : otherLocation ≠ location := by
        rintro rfl
        exact hguid (congrArg Item.guid (some.inj (hitem.symm.trans hat)))
      refine ⟨otherLocation, (hstored.receives.grows.trans hback.receives.grows)
        otherLocation item ?_⟩
      rw [hsecond.elsewhere hsame, hfirst.elsewhere hneSrc]
      exact hitem

end

theorem conserves_split {pClonedItem : Item} (hholds : moveStore.Holds env.data state [])
    (hsrc : pSrc.slotItem env state = some pItem) (hvalid : pDest.Valid)
    (hkinds : pSrc.IsBank = true ∨ pDest.IsBank = true) (hpos : splitedAmount ≠ 0)
    (hle : splitedAmount ≤ pItem.count)
    (hclone : env.data.CloneItem pItem splitedAmount nobody state.nextItemGuid = some pClonedItem)
    (hmove : ({ state with nextItemGuid := state.nextItemGuid + 1 } : MoveState)._DoItemsMove env
      pSrc pDest pClonedItem none splitedAmount = some after) :
    Conserves env pItem state after := by
  obtain ⟨location, hloc, hat⟩ := MoveItemData.location_of_slotItem hsrc
  obtain ⟨pProto, hproto, hstack⟩ := hholds.within location pItem hat
  obtain ⟨newItem, hnew, hguid, hentry, hcount⟩ := @CloneItem_eq env.data nobody pProto pItem
    splitedAmount hproto (Nat.pos_of_ne_zero hpos) (hle.trans hstack) state.nextItemGuid
  obtain rfl := some.inj (hclone.symm.trans hnew)
  have hstackClone : env.data.StackHolds pClonedItem := by
    refine ⟨pProto, ?_, hcount.trans_le (hle.trans hstack)⟩
    rw [GameData.GetTemplate, hentry]
    exact hproto
  have hcloned : moveStore.Holds env.data
      { state with nextItemGuid := state.nextItemGuid + 1 } [pClonedItem] :=
    hholds.created (fun other => by cases other <;> rfl) hguid (lt_succ_self _) hstackClone
  have hsrcCloned : pSrc.slotItem env
      { state with nextItemGuid := state.nextItemGuid + 1 } = some pItem := hsrc
  have hatCloned : moveStore.itemAt
      { state with nextItemGuid := state.nextItemGuid + 1 } location = some pItem := by
    cases location <;> exact hat
  have hsame : ∀ other item, moveStore.itemAt state other = some item → moveStore.itemAt
      { state with nextItemGuid := state.nextItemGuid + 1 } other = some item := by
    intro other item hitem
    cases other <;> exact hitem
  have htotal : ∀ entry, moveStore.total
      { state with nextItemGuid := state.nextItemGuid + 1 } entry = moveStore.total state entry :=
    fun _ => rfl
  have hlocationCloned : pSrc.locate env
      { state with nextItemGuid := state.nextItemGuid + 1 } = some location := hloc
  generalize ({ state with nextItemGuid := state.nextItemGuid + 1 } : MoveState) = cloned at *
  unfold _DoItemsMove at hmove
  dsimp only [isSome_none] at hmove
  split at hmove
  · cases hmove
  rename_i hok
  cases hmove
  have hupdated := @MoveItemData.RemoveItem_updated env cloned pSrc pDest pItem location
    splitedAmount hsrcCloned hlocationCloned
  rw [MoveItemData.rest, if_pos hpos] at hupdated
  have hloose := hcloned.changed hatCloned hupdated rfl
    (StackHolds_of_le (hcloned.within location pItem hatCloned) rfl (sub_le ..))
  have hreceives := MoveItemData.receives hvalid (not_not.mp hok) hloose
    (MoveItemData.leaves_of_RemoveItem hsrcCloned hkinds
      (hloose.away pClonedItem mem_cons_self))
  refine ⟨hreceives.holds hloose, fun entry => ?_, ?_⟩
  · have hremoved := hupdated.total entry
    have hrest : ({ pItem with count := pItem.count - splitedAmount } : Item).weight entry =
        if entry = pItem.entry then pItem.count - splitedAmount else 0 :=
      ItemStore.weight_of_entry rfl
    have hwhole : pItem.weight entry = if entry = pItem.entry then pItem.count else 0 :=
      ItemStore.weight_of_entry rfl
    rw [hatCloned, elim_some, elim_some, htotal, hrest, hwhole] at hremoved
    rw [hreceives.total_whole, ItemStore.weight_of_entry hentry, hcount]
    by_cases hsameEntry : entry = pItem.entry
    · rw [if_pos hsameEntry, if_pos hsameEntry] at hremoved
      rw [if_pos hsameEntry]
      omega
    · rw [if_neg hsameEntry, if_neg hsameEntry] at hremoved
      rw [if_neg hsameEntry]
      exact hremoved
  · intro other item hitem hother
    have hne : other ≠ location := by
      rintro rfl
      exact hother (congrArg Item.guid (some.inj (hitem.symm.trans hat)))
    exact ⟨other, hreceives.grows other item
      ((hupdated.elsewhere hne).trans (hsame other item hitem))⟩

structure MoveOutcome (env : BankEnv) (pSrc : MoveItemData) (state : MoveState)
    (result : MoveState × Bool) : Prop where
  holds : moveStore.Holds env.data result.1 []
  total : ∀ entry, moveStore.total result.1 entry = moveStore.total state entry
  kept : ∀ location item, moveStore.itemAt state location = some item →
    (∀ pItem, pSrc.slotItem env state = some pItem → item.guid ≠ pItem.guid) →
    ∃ other found, moveStore.itemAt result.1 other = some found ∧
      found.guid = item.guid ∧ found.entry = item.entry ∧ item.count ≤ found.count
  refused : result.2 = false → result.1.guild = state.guild ∧ result.1.player = state.player

theorem outcome_refused (hholds : moveStore.Holds env.data state []) {nextItemGuid : ℕ}
    (hnext : state.nextItemGuid ≤ nextItemGuid) :
    MoveOutcome env pSrc state ({ state with nextItemGuid := nextItemGuid }, false) where
  holds := { hholds with
      given := fun location item hitem =>
        (hholds.given location item (by cases location <;> exact hitem)).trans_le hnext
      looseGiven := nofun
      once := fun first second left right hleft hright =>
        hholds.once first second left right (by cases first <;> exact hleft)
          (by cases second <;> exact hright)
      within := fun location item hitem =>
        hholds.within location item (by cases location <;> exact hitem)
      away := nofun }
  total _ := rfl
  kept location item hitem _ :=
    ⟨location, item, by cases location <;> exact hitem, rfl, rfl, le_rfl⟩
  refused _ := ⟨rfl, rfl⟩

theorem outcome_moved (hsrc : pSrc.slotItem env state = some pItem)
    (hcons : Conserves env pItem state after) :
    MoveOutcome env pSrc state (after, true) where
  holds := hcons.holds
  total := hcons.total
  kept location item hitem hother := hcons.kept location item hitem (hother pItem hsrc)
  refused := nofun

theorem MoveItems_outcome (hholds : moveStore.Holds env.data state []) (hvalid : pDest.Valid)
    (hvalidSrc : pSrc.Valid) (hkinds : pSrc.IsBank = true ∨ pDest.IsBank = true)
    (hne : ∀ location, pSrc.locate env state = some location →
      pDest.locate env state ≠ some location) (splitedAmount : ℕ) :
    MoveOutcome env pSrc state (state._MoveItems env pSrc pDest splitedAmount) := by
  have hrefused : MoveOutcome env pSrc state (state, false) := outcome_refused hholds le_rfl
  unfold _MoveItems
  split
  · exact hrefused
  rename_i pItem amount hinit
  obtain ⟨found, hfound, hcheck⟩ := bind_eq_some_iff.mp hinit
  obtain ⟨checked, hchecked, heq⟩ := map_eq_some_iff.mp hcheck
  obtain ⟨rfl, rfl⟩ := Prod.mk.inj heq
  have hsrc := MoveItemData.slotItem_of_InitItem hfound
  split
  · exact hrefused
  split
  case isTrue hpos =>
    split
    · exact hrefused
    rename_i pClonedItem hclone
    have hle : checked ≤ found.count := by
      unfold MoveItemData.CheckItem at hchecked
      split at hchecked
      · cases hchecked
      rename_i hcount
      cases hchecked
      split
      · exact Nat.zero_le _
      · exact not_lt.mp hcount
    dsimp only
    cases hmove : ({ state with nextItemGuid := state.nextItemGuid + 1 } :
        MoveState)._DoItemsMove env pSrc pDest pClonedItem none checked with
    | none => exact outcome_refused hholds (le_succ _)
    | some after =>
      exact outcome_moved hsrc
        (conserves_split hholds hsrc hvalid hkinds hpos hle hclone hmove)
  case isFalse =>
    rcases hmove : state.moveOrSwap env pSrc pDest found with _ | after
    · exact hrefused
    refine outcome_moved hsrc ?_
    unfold moveOrSwap at hmove
    split at hmove
    case h_1 moved hmerge =>
      cases hmove
      exact conserves_merge hholds hsrc hvalid hkinds hmerge
    obtain ⟨pDestItem, hdest, hswap⟩ := bind_eq_some_iff.mp hmove
    have hitem := MoveItemData.slotItem_of_InitItem hdest
    split at hswap
    case isFalse => cases hswap
    refine conserves_swap hholds hsrc hitem hvalid hvalidSrc hkinds ?_ hswap
    intro hsame
    obtain ⟨location, hloc, -⟩ := MoveItemData.location_of_slotItem hsrc
    exact hne location hloc (hsame.symm.trans hloc)

/-- Whatever a member asks the bank to move, for every entry the bank and he have as many
items as before, no stack is too large, no item but the one that moves is lost, and a
request that is refused changes nothing. -/
theorem swaps_conserve_items (hholds : moveStore.Holds env.data state []) :
    (∀ tabId slotId destTabId destSlotId splitedAmount, MoveOutcome env ⟨true, tabId, slotId⟩ state
        (state.SwapItems env tabId slotId destTabId destSlotId splitedAmount)) ∧
    ∀ toChar tabId slotId playerBag playerSlotId splitedAmount, StoreTarget playerBag playerSlotId →
      MoveOutcome env
        (if toChar then ⟨true, tabId, slotId⟩ else ⟨false, playerBag, playerSlotId⟩) state
        (state.SwapItemsWithInventory env toChar tabId slotId playerBag playerSlotId
          splitedAmount) := by
  constructor
  · intro tabId slotId destTabId destSlotId splitedAmount
    unfold SwapItems
    split
    · exact outcome_refused hholds le_rfl
    rename_i hchecks
    simp only [Bool.or_eq_true, Bool.not_eq_true', Bool.and_eq_true, decide_eq_true_eq, not_or,
      Bool.not_eq_false] at hchecks
    obtain ⟨⟨hslot, hdestSlot⟩, hapart⟩ := hchecks
    have hvalid : ∀ tab slot, state.guild.hasSlot tab slot = true →
        MoveItemData.Valid ⟨true, tab, slot⟩ := by
      intro tab slot hhas
      rw [Guild.hasSlot, Bool.and_eq_true, decide_eq_true_eq, decide_eq_true_eq] at hhas
      exact .inl hhas.2
    refine MoveItems_outcome hholds (hvalid _ _ hdestSlot) (hvalid _ _ hslot) (.inl rfl) ?_ _
    intro location hlocation hsame
    rw [MoveItemData.locate, if_pos rfl, if_pos hslot] at hlocation
    rw [MoveItemData.locate, if_pos rfl, if_pos hdestSlot, ← hlocation, Option.some.injEq,
      MoveLocation.bank.injEq] at hsame
    obtain ⟨htab, hslotId⟩ := Prod.mk.inj (toLex.injective hsame)
    exact hapart ⟨htab.symm, hslotId.symm⟩
  · intro toChar tabId slotId playerBag playerSlotId splitedAmount htarget
    unfold SwapItemsWithInventory
    by_cases hchecks :
        GUILD_BANK_MAX_SLOTS ≤ slotId ∧ slotId ≠ NULL_SLOT ∨ state.guild.m_bankTabs ≤ tabId
    · rw [if_pos hchecks]
      exact outcome_refused hholds le_rfl
    rw [if_neg hchecks]
    have hbank : MoveItemData.Valid ⟨true, tabId, slotId⟩ := by
      rw [MoveItemData.Valid, if_pos rfl]
      by_contra hneither
      rw [not_or, not_lt] at hneither
      exact hchecks (.inl hneither)
    have hown : MoveItemData.Valid ⟨false, playerBag, playerSlotId⟩ := by
      exact htarget
    -- a slot of the bank is no slot of the player
    have hkinds : ∀ location, MoveItemData.locate env ⟨true, tabId, slotId⟩ state = some location →
        MoveItemData.locate env ⟨false, playerBag, playerSlotId⟩ state ≠ some location := by
      intro location hlocation hsame
      rw [MoveItemData.locate, if_pos rfl] at hlocation
      split at hlocation
      case isFalse => cases hlocation
      cases hlocation
      obtain ⟨place, -, heq⟩ := map_eq_some_iff.mp hsame
      cases heq
    cases toChar with
    | true =>
      exact MoveItems_outcome hholds hown hbank (.inl rfl) hkinds _
    | false =>
      exact MoveItems_outcome hholds hbank hown (.inr rfl)
        (fun location hlocation hsame => hkinds location hsame hlocation) _

/-! ## An item in the bank -/

def bankEnv : BankEnv where
  data := limitedData
  checks := ⟨fun _ => true, fun _ => false, fun _ => false⟩
  Duration _ := 0

def bankItem : Item := { limitedItem with count := 1 }

def bankState : MoveState where
  guild := (Guild.Create 100 1).setSlot 0 0 bankItem
  player := barePlayer
  nextItemGuid := 2

theorem bankState_holds : moveStore.Holds bankEnv.data bankState [] := by
  have hempty : ∀ location, moveStore.itemAt ⟨Guild.Create 100 1, barePlayer, 2⟩ location =
      none := by
    rintro (slot | place)
    · rfl
    · rfl
  have hslot : (Guild.Create 100 1).hasSlot 0 0 = true := by decide +kernel
  have hbare : moveStore.Holds bankEnv.data ⟨Guild.Create 100 1, barePlayer, 2⟩ [] := by
    refine ⟨?_, ?_, ?_, nofun, nodup_nil, nofun, nofun⟩
    · exact fun location _ _ _ hfound => nomatch (hempty location).symm.trans hfound
    · exact fun location _ hfound => nomatch (hempty location).symm.trans hfound
    · exact fun location _ hfound => nomatch (hempty location).symm.trans hfound
  refine hbare.placed (hempty _) (@updated_setSlot 0 0 ⟨Guild.Create 100 1, barePlayer, 2⟩ hslot
    bankItem 2 le_rfl) ?_ nofun (by decide) ⟨limitedProto, rfl, by decide⟩
  exact fun other _ hfound => nomatch (hempty other).symm.trans hfound

/-- The guild master takes the item out. -/
theorem bankItem_is_taken :
    (bankState.SwapItemsWithInventory bankEnv true 0 0 NULL_BAG NULL_SLOT 0).2 = true ∧
      moveStore.total
        (bankState.SwapItemsWithInventory bankEnv true 0 0 NULL_BAG NULL_SLOT 0).1 1 = 1 := by
  rw [((swaps_conserve_items bankState_holds).2 true 0 0 NULL_BAG NULL_SLOT 0
    (.inl ⟨rfl, rfl⟩)).total]
  decide +kernel

end MoveState

end AzerothCore.Guilds
