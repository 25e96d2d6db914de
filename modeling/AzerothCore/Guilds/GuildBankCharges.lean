import AzerothCore.Guilds.GuildBankMoves

/-!
# What a move charges

A move changes the items of the bank, and it charges the member for each tab that
an item leaves for another tab or for the player. The rights are asked for before,
so each of these tabs is one that the member may still withdraw from.
-/

namespace AzerothCore.Guilds

open List Option
open Storage

variable {env : BankEnv} {state after : MoveState} {guild : Guild} {side other : MoveItemData}
  {pItem : Item} {splitedAmount : ℕ}

/-! ## Other fields than the items -/

def OnlyItems (before after : Guild) : Prop := ∃ items, after = { before with m_items := items }

theorem OnlyItems.refl (guild : Guild) : OnlyItems guild guild := ⟨guild.m_items, rfl⟩

theorem OnlyItems.trans {first second third : Guild} (hfirst : OnlyItems first second)
    (hsecond : OnlyItems second third) : OnlyItems first third := by
  obtain ⟨items, rfl⟩ := hfirst
  obtain ⟨items', rfl⟩ := hsecond
  exact ⟨items', rfl⟩

namespace Guild

theorem setSlot_only (guild : Guild) (tabId slotId : ℕ) (item : Item) :
    OnlyItems guild (guild.setSlot tabId slotId item) := by
  unfold setSlot
  split
  · exact ⟨_, rfl⟩
  · exact OnlyItems.refl guild

theorem RemoveItem_only (guild : Guild) (tabId slotId : ℕ) :
    OnlyItems guild (guild._RemoveItem tabId slotId) := by
  unfold _RemoveItem
  split
  · exact ⟨_, rfl⟩
  · exact OnlyItems.refl guild

theorem StoreItem_step_only (data : GameData) (tabId : ℕ) (pItem : Item) (slotId count : ℕ)
    (clone : Bool) (guild : Guild) (nextItemGuid : ℕ) :
    OnlyItems guild (guild._StoreItem data tabId pItem slotId count clone nextItemGuid).1 := by
  unfold _StoreItem
  split
  · exact setSlot_only ..
  split
  case isFalse => exact setSlot_only ..
  split
  · exact OnlyItems.refl guild
  · exact setSlot_only ..

theorem StoreItem_only (data : GameData) (tabId : ℕ) (pItem : Item) (dest : ItemPosCountVec)
    (guild : Guild) (nextItemGuid : ℕ) :
    OnlyItems guild (guild.StoreItem data tabId pItem dest nextItemGuid).1 := by
  induction dest generalizing guild nextItemGuid with
  | nil => exact OnlyItems.refl guild
  | cons entry dest ih =>
    cases dest with
    | nil => exact StoreItem_step_only ..
    | cons next dest => exact (StoreItem_step_only ..).trans (ih ..)

def charge (guid : ℕ) (tabs : List ℕ) (guild : Guild) : Guild :=
  tabs.foldl (fun guild tabId => guild._UpdateMemberWithdrawSlots guid tabId) guild

theorem Update_only {before after : Guild} (honly : OnlyItems before after) (guid tabId : ℕ) :
    OnlyItems (before._UpdateMemberWithdrawSlots guid tabId)
      (after._UpdateMemberWithdrawSlots guid tabId) := by
  obtain ⟨items, rfl⟩ := honly
  have hmember : ({ before with m_items := items } : Guild).GetMember guid =
      before.GetMember guid := rfl
  have hslots : ∀ rankId, ({ before with m_items := items } : Guild)._GetRankBankTabSlotsPerDay
      rankId tabId = before._GetRankBankTabSlotsPerDay rankId tabId := fun _ => rfl
  unfold _UpdateMemberWithdrawSlots
  rw [hmember]
  rcases before.GetMember guid with _ | member
  · exact ⟨items, rfl⟩
  dsimp only
  rw [hslots]
  split
  · exact ⟨items, rfl⟩
  · exact ⟨items, rfl⟩

theorem charge_only {before after : Guild} (honly : OnlyItems before after) (guid : ℕ)
    (tabs : List ℕ) : OnlyItems (charge guid tabs before) (charge guid tabs after) := by
  induction tabs generalizing before after with
  | nil => exact honly
  | cons tabId tabs ih => exact ih (Update_only honly guid tabId)

end Guild

namespace MoveItemData

/-- The tab that the item of a side leaves. -/
def leaves (side other : MoveItemData) : List ℕ :=
  if side.IsBank && !side.sameTab other then [side.m_container] else []

theorem removeFromSlot_only (side : MoveItemData) (state : MoveState) (splitedAmount : ℕ) :
    OnlyItems state.guild (side.removeFromSlot env state splitedAmount).guild ∧
      (side.removeFromSlot env state splitedAmount).player.guid = state.player.guid := by
  unfold removeFromSlot
  split
  · exact ⟨OnlyItems.refl _, rfl⟩
  rename_i item _
  split
  · refine ⟨?_, rfl⟩
    split
    · exact Guild.setSlot_only ..
    · exact Guild.RemoveItem_only ..
  refine ⟨OnlyItems.refl _, ?_⟩
  split
  · unfold Storage.Player.setItem
    split <;> rfl
  · unfold Storage.Player.MoveItemFromInventory Storage.Player.RemoveItem
    split
    · rfl
    · split <;> rfl

theorem RemoveItem_charges (side other : MoveItemData) (state : MoveState)
    (splitedAmount : ℕ) :
    OnlyItems (Guild.charge state.player.guid (side.leaves other) state.guild)
        (side.RemoveItem env other state splitedAmount).guild ∧
      (side.RemoveItem env other state splitedAmount).player.guid = state.player.guid := by
  obtain ⟨honly, hguid⟩ := @removeFromSlot_only env side state splitedAmount
  unfold RemoveItem leaves
  split
  · exact ⟨Guild.Update_only honly .., hguid⟩
  · exact ⟨honly, hguid⟩

theorem StoreItem_guild (side : MoveItemData) (state : MoveState) (dest : ItemPosCountVec)
    (pItem : Item) : OnlyItems state.guild (side.StoreItem env state dest pItem).guild := by
  unfold StoreItem
  split
  case isFalse => exact OnlyItems.refl _
  split
  · exact OnlyItems.refl _
  · exact Guild.StoreItem_only ..

theorem mem_leaves {tabId : ℕ} (hmem : tabId ∈ side.leaves other) :
    side.IsBank = true ∧ side.sameTab other = false ∧ tabId = side.m_container := by
  unfold leaves at hmem
  split at hmem
  case isFalse => cases hmem
  rename_i hleaves
  rw [Bool.and_eq_true, Bool.not_eq_true'] at hleaves
  exact ⟨hleaves.1, hleaves.2, mem_singleton.mp hmem⟩

theorem leaves_nodup (side other : MoveItemData) :
    (side.leaves other ++ other.leaves side).Nodup := by
  have hone : ∀ first second : MoveItemData, (first.leaves second).Nodup := by
    intro first second
    unfold leaves
    split
    · exact nodup_singleton _
    · exact nodup_nil
  refine nodup_append'.mpr ⟨hone side other, hone other side, ?_⟩
  intro tabId hside hother
  obtain ⟨-, hsame, htab⟩ := mem_leaves hside
  obtain ⟨hbank, -, htab'⟩ := mem_leaves hother
  rw [sameTab, hbank, Bool.true_and, decide_eq_false_iff_not] at hsame
  exact hsame (htab'.symm.trans htab)

end MoveItemData

def MayWithdraw (guild : Guild) (guid tabId : ℕ) : Prop :=
  ∃ member, guild.GetMember guid = some member ∧ guild._GetMemberRemainingSlots member tabId ≠ 0

theorem mayWithdraw_of_leaves (hrights : side.HasWithdrawRights other state = true) {tabId : ℕ}
    (hmem : tabId ∈ side.leaves other) : MayWithdraw state.guild state.player.guid tabId := by
  obtain ⟨hbank, hsame, rfl⟩ := MoveItemData.mem_leaves hmem
  unfold MoveItemData.HasWithdrawRights at hrights
  rw [hbank, hsame, Bool.not_true, Bool.false_or, Bool.false_or] at hrights
  obtain ⟨member, hmember, hslots⟩ := (Option.any_eq_true ..).mp hrights
  exact ⟨member, hmember, of_decide_eq_true hslots⟩

namespace MoveState

variable {pSrc pDest : MoveItemData}

theorem DoItemsMove_charges {pDestItem : Option Item}
    (hmove : state._DoItemsMove env pSrc pDest pItem pDestItem splitedAmount = some after) :
    OnlyItems (Guild.charge state.player.guid
      (pSrc.leaves pDest ++ if pDestItem.isSome then pDest.leaves pSrc else []) state.guild)
      after.guild := by
  obtain ⟨hfirst, hguid⟩ := @MoveItemData.RemoveItem_charges env pSrc pDest state splitedAmount
  unfold _DoItemsMove at hmove
  dsimp only at hmove
  split at hmove
  · cases hmove
  rcases pDestItem with _ | pDestItem
  · cases hmove
    rw [isSome_none, if_neg Bool.false_ne_true, append_nil]
    exact hfirst.trans (MoveItemData.StoreItem_guild ..)
  dsimp only at hmove
  split at hmove
  · cases hmove
  cases hmove
  obtain ⟨hsecond, -⟩ := @MoveItemData.RemoveItem_charges env pDest pSrc
    (pSrc.RemoveItem env pDest state splitedAmount) 0
  rw [hguid] at hsecond
  rw [isSome_some, if_pos rfl, Guild.charge, foldl_append]
  exact (Guild.charge_only hfirst _ _).trans (hsecond.trans
    ((MoveItemData.StoreItem_guild ..).trans (MoveItemData.StoreItem_guild ..)))

def swaps (env : BankEnv) (pSrc pDest : MoveItemData) (splitedAmount : ℕ) (state : MoveState) :
    Bool :=
  match (pSrc.InitItem env state).bind fun pItem =>
      (MoveItemData.CheckItem pItem splitedAmount).map (pItem, ·) with
  | none => false
  | some (pItem, splitedAmount) =>
    splitedAmount = 0 && (state._DoItemsMove env pSrc pDest pItem none 0).isNone

/-- The tabs that an item leaves for another tab or for the player. -/
def leftTabs (env : BankEnv) (pSrc pDest : MoveItemData) (splitedAmount : ℕ)
    (state : MoveState) : List ℕ :=
  if (state._MoveItems env pSrc pDest splitedAmount).2 then
    pSrc.leaves pDest ++
      if state.swaps env pSrc pDest splitedAmount then pDest.leaves pSrc else []
  else []

/-- A move charges the member for the tabs that items leave, and he may take items from
them. -/
structure Charges (state after : MoveState) (tabs : List ℕ) : Prop where
  guild : OnlyItems (Guild.charge state.player.guid tabs state.guild) after.guild
  may : ∀ tabId ∈ tabs, MayWithdraw state.guild state.player.guid tabId
  nodup : tabs.Nodup

theorem charges_nil (honly : OnlyItems state.guild after.guild) : Charges state after [] :=
  ⟨honly, nofun, nodup_nil⟩

theorem moveOrSwap_charges (hrights : pSrc.HasWithdrawRights pDest state = true)
    (hmove : state.moveOrSwap env pSrc pDest pItem = some after) :
    Charges state after (pSrc.leaves pDest ++
      if (state._DoItemsMove env pSrc pDest pItem none 0).isNone then pDest.leaves pSrc
      else []) := by
  have hnodup := MoveItemData.leaves_nodup pSrc pDest
  unfold moveOrSwap at hmove
  cases hmerge : state._DoItemsMove env pSrc pDest pItem none 0 with
  | some moved =>
    rw [hmerge] at hmove
    cases hmove
    refine ⟨DoItemsMove_charges hmerge, ?_, ?_⟩
    · intro tabId hmem
      rw [isNone_some, if_neg Bool.false_ne_true, append_nil] at hmem
      exact mayWithdraw_of_leaves hrights hmem
    · exact hnodup.sublist ((append_sublist_append_left _).mpr (nil_sublist _))
  | none =>
    rw [hmerge] at hmove
    obtain ⟨pDestItem, -, hswap⟩ := bind_eq_some_iff.mp hmove
    split at hswap
    case isFalse => cases hswap
    rename_i hback
    rw [Bool.and_eq_true] at hback
    refine ⟨DoItemsMove_charges hswap, ?_, hnodup⟩
    intro tabId hmem
    rcases mem_append.mp hmem with hsrc | hdest
    · exact mayWithdraw_of_leaves hrights hsrc
    · exact mayWithdraw_of_leaves hback.2 hdest

theorem MoveItems_charges (env : BankEnv) (pSrc pDest : MoveItemData) (splitedAmount : ℕ)
    (state : MoveState) :
    Charges state (state._MoveItems env pSrc pDest splitedAmount).1
      (state.leftTabs env pSrc pDest splitedAmount) := by
  suffices hresult : ∃ after moved, state._MoveItems env pSrc pDest splitedAmount = (after, moved) ∧
        Charges state after (if moved then
          pSrc.leaves pDest ++
            if state.swaps env pSrc pDest splitedAmount then pDest.leaves pSrc else []
          else []) by
    obtain ⟨after, moved, hresult, hcharges⟩ := hresult
    unfold leftTabs
    rw [hresult]
    exact hcharges
  have hsame : Charges state state [] := charges_nil (OnlyItems.refl _)
  generalize hswaps : state.swaps env pSrc pDest splitedAmount = swapped
  unfold swaps at hswaps
  unfold _MoveItems
  cases hinit : (pSrc.InitItem env state).bind fun pItem =>
      (MoveItemData.CheckItem pItem splitedAmount).map (pItem, ·) with
  | none => exact ⟨state, false, rfl, hsame⟩
  | some checked =>
    obtain ⟨pItem, amount⟩ := checked
    rw [hinit] at hswaps
    dsimp only at hswaps ⊢
    by_cases hrefused :
        (!pDest.HasStoreRights pSrc state || !pSrc.HasWithdrawRights pDest state) = true
    · rw [if_pos hrefused]
      exact ⟨state, false, rfl, hsame⟩
    rw [if_neg hrefused]
    have hrights : pSrc.HasWithdrawRights pDest state = true := by
      rw [Bool.or_eq_true, not_or] at hrefused
      simpa using hrefused.2
    by_cases hpos : amount ≠ 0
    · rw [if_pos hpos]
      rcases env.data.CloneItem pItem amount nobody state.nextItemGuid with _ | pClonedItem
      · exact ⟨state, false, rfl, hsame⟩
      dsimp only
      cases hmove : ({ state with nextItemGuid := state.nextItemGuid + 1 } :
          MoveState)._DoItemsMove env pSrc pDest pClonedItem none amount with
      | none => exact ⟨_, false, rfl, charges_nil (OnlyItems.refl _)⟩
      | some after =>
        refine ⟨after, true, rfl, ?_⟩
        have hguild := DoItemsMove_charges hmove
        rw [decide_eq_false hpos, Bool.false_and] at hswaps
        subst hswaps
        rw [if_pos rfl, if_neg Bool.false_ne_true]
        refine ⟨hguild, fun tabId hmem => ?_, (MoveItemData.leaves_nodup pSrc pDest).sublist
          ((append_sublist_append_left _).mpr (nil_sublist _))⟩
        rw [append_nil] at hmem
        exact mayWithdraw_of_leaves hrights hmem
    · rw [decide_eq_true (not_not.mp hpos), Bool.true_and] at hswaps
      subst hswaps
      rw [if_neg hpos]
      cases hmove : state.moveOrSwap env pSrc pDest pItem with
      | none => exact ⟨state, false, rfl, hsame⟩
      | some after => exact ⟨after, true, rfl, moveOrSwap_charges hrights hmove⟩

end MoveState

end AzerothCore.Guilds

/-!
## A ledger of the bank

The code compares numbers of what each member has taken with the limits of his rank. The
ledger counts what happened since these were reset, and an account is right if the two
agree and stay within the limits.
-/

namespace AzerothCore.Guilds

open List Option Nat
open Storage

structure BankLedger where
  /-- Money that a member took out, for himself or for repairs. -/
  taken : ℕ → ℕ
  /-- Money that a member got. -/
  received : ℕ → ℕ
  /-- How often a member took an item out of a tab. -/
  withdrawals : ℕ → ℕ → ℕ
  repaired : ℕ

namespace BankLedger

variable (ledger : BankLedger) (guid amount : ℕ)

def empty : BankLedger := ⟨fun _ => 0, fun _ => 0, fun _ _ => 0, 0⟩

def withdrawItem (tabId : ℕ) : BankLedger :=
  { ledger with
    withdrawals := fun other tab =>
      ledger.withdrawals other tab + if other = guid ∧ tab = tabId then 1 else 0 }

def withdrawItems (tabs : List ℕ) : BankLedger :=
  tabs.foldl (fun ledger tabId => ledger.withdrawItem guid tabId) ledger

def takeMoney : BankLedger :=
  { ledger with
    taken := fun other => ledger.taken other + if other = guid then amount else 0
    received := fun other => ledger.received other + if other = guid then amount else 0 }

def payRepair : BankLedger :=
  { ledger with
    taken := fun other => ledger.taken other + if other = guid then amount else 0
    repaired := ledger.repaired + amount }

end BankLedger

variable {guild : Guild} {ledger : BankLedger} {guid tabId amount : ℕ} {member : Member}

theorem int32_eq {value : ℤ} (hlow : -2 ^ 31 ≤ value) (hhigh : value < 2 ^ 31) :
    int32 value = value :=
  Int.bmod_eq_of_le (by omega) (by omega)

theorem int32_bounds (value : ℤ) : -2 ^ 31 ≤ int32 value ∧ int32 value < 2 ^ 31 := by
  have hlow := @Int.le_bmod value (2 ^ 32) (by decide)
  have hhigh := @Int.bmod_lt value (2 ^ 32) (by decide)
  unfold int32
  omega

theorem zero_bounds : -2 ^ 31 ≤ (0 : ℤ) ∧ (0 : ℤ) < 2 ^ 31 := by
  omega

theorem int32_rest {limit used : ℤ} (hlow : -2 ^ 31 ≤ limit) (hhigh : limit < 2 ^ 31)
    (hused : 0 ≤ used) (hle : used ≤ max 0 limit) : int32 (limit - used) = limit - used := by
  apply int32_eq
  · omega
  · omega

namespace Guild

theorem GetRankBankMoneyPerDay_bounds (guild : Guild) (rankId : ℕ) :
    -2 ^ 31 ≤ guild._GetRankBankMoneyPerDay rankId ∧
      guild._GetRankBankMoneyPerDay rankId < 2 ^ 31 := by
  unfold _GetRankBankMoneyPerDay
  cases guild.GetRankInfo rankId with
  | none => exact zero_bounds
  | some rank =>
    rw [elim_some, RankInfo.GetBankMoneyPerDay]
    exact int32_bounds rank.m_bankMoneyPerDay

theorem GetRankBankTabSlotsPerDay_bounds (guild : Guild) (rankId tabId : ℕ) :
    -2 ^ 31 ≤ guild._GetRankBankTabSlotsPerDay rankId tabId ∧
      guild._GetRankBankTabSlotsPerDay rankId tabId < 2 ^ 31 := by
  unfold _GetRankBankTabSlotsPerDay
  split
  case isFalse => exact zero_bounds
  rcases guild.GetRankInfo rankId with _ | rank
  · exact zero_bounds
  rw [elim_some, RankInfo.GetBankTabSlotsPerDay]
  cases rank.m_bankTabRightsAndSlots[tabId]? with
  | none => exact zero_bounds
  | some rightsAndSlots =>
    rw [elim_some]
    exact int32_bounds rightsAndSlots.slots

end Guild

theorem getD_modify {values : List ℤ} {index : ℕ} (hindex : index < values.length) (other : ℕ)
    (f : ℤ → ℤ) : (values.modify index f).getD other 0 =
      if other = index then f (values.getD index 0) else values.getD other 0 := by
  rw [getD_eq_getElem?_getD, List.getElem?_modify]
  by_cases heq : other = index
  · subst heq
    rw [if_pos rfl, getD_eq_getElem?_getD, List.getElem?_eq_getElem hindex]
    simp only [if_true]
    rfl
  · rw [if_neg heq, getD_eq_getElem?_getD]
    simp only [Ne.symm heq, if_false]
    cases values[other]? <;> rfl

structure Accounted (guild : Guild) (ledger : BankLedger) (guid : ℕ) (member : Member) : Prop where
  length : member.m_bankWithdraw.length = GUILD_BANK_MAX_TABS + 1
  money : member.m_bankWithdraw.getD GUILD_BANK_MAX_TABS 0 = ledger.taken guid
  slots : ∀ tabId < GUILD_BANK_MAX_TABS,
    member.m_bankWithdraw.getD tabId 0 = ledger.withdrawals guid tabId
  moneyLimit : (ledger.taken guid : ℤ) ≤ max 0 (guild._GetRankBankMoneyPerDay member.m_rankId)
  slotLimit : ∀ tabId, (ledger.withdrawals guid tabId : ℤ) ≤
    max 0 (guild._GetRankBankTabSlotsPerDay member.m_rankId tabId)
  view : ∀ tabId, 0 < ledger.withdrawals guid tabId →
    guild._GetRankBankTabRights member.m_rankId tabId &&& GUILD_BANK_RIGHT_VIEW_TAB ≠ 0
  gold : 0 < ledger.received guid →
    guild._GetRankRights member.m_rankId &&& GR_RIGHT_WITHDRAW_GOLD ≠ 0

def AllAccounted (guild : Guild) (ledger : BankLedger) : Prop :=
  ∀ guid member, guild.GetMember guid = some member → member.m_rankId ≠ GR_GUILDMASTER →
    Accounted guild ledger guid member

structure SameRules (before after : Guild) : Prop where
  ranks : after.m_ranks = before.m_ranks
  tabs : after.m_bankTabs = before.m_bankTabs

namespace SameRules

variable {before after : Guild}

section

variable (hrules : SameRules before after)
include hrules

theorem GetRankInfo (rankId : ℕ) : after.GetRankInfo rankId = before.GetRankInfo rankId := by
  unfold Guild.GetRankInfo Guild._GetRanksSize
  rw [hrules.ranks]

theorem rights (rankId : ℕ) : after._GetRankRights rankId = before._GetRankRights rankId := by
  unfold Guild._GetRankRights
  rw [hrules.GetRankInfo]

theorem tabRights (rankId tabId : ℕ) :
    after._GetRankBankTabRights rankId tabId = before._GetRankBankTabRights rankId tabId := by
  unfold Guild._GetRankBankTabRights
  rw [hrules.GetRankInfo]

theorem moneyPerDay (rankId : ℕ) :
    after._GetRankBankMoneyPerDay rankId = before._GetRankBankMoneyPerDay rankId := by
  unfold Guild._GetRankBankMoneyPerDay
  rw [hrules.GetRankInfo]

theorem slotsPerDay (rankId tabId : ℕ) : after._GetRankBankTabSlotsPerDay rankId tabId =
      before._GetRankBankTabSlotsPerDay rankId tabId := by
  unfold Guild._GetRankBankTabSlotsPerDay
  rw [hrules.GetRankInfo, hrules.tabs]

theorem accounted
    (hacct : Accounted before ledger guid member) : Accounted after ledger guid member where
  length := hacct.length
  money := hacct.money
  slots := hacct.slots
  moneyLimit := by
    rw [hrules.moneyPerDay]
    exact hacct.moneyLimit
  slotLimit tabId := by
    rw [hrules.slotsPerDay]
    exact hacct.slotLimit tabId
  view tabId := by
    rw [hrules.tabRights]
    exact hacct.view tabId
  gold := by
    rw [hrules.rights]
    exact hacct.gold

end

end SameRules

theorem sameRules_of_only {before after : Guild} (honly : OnlyItems before after) :
    SameRules before after ∧ after.m_members = before.m_members ∧
      after.m_bankMoney = before.m_bankMoney := by
  obtain ⟨items, rfl⟩ := honly
  exact ⟨⟨rfl, rfl⟩, rfl, rfl⟩

theorem AllAccounted.congr {before after : Guild} (hall : AllAccounted before ledger)
    (hrules : SameRules before after) (hmembers : after.m_members = before.m_members) :
    AllAccounted after ledger := by
  intro guid member hmember hrank
  rw [Guild.GetMember, hmembers] at hmember
  exact hrules.accounted (hall guid member hmember hrank)

theorem GetMember_setMember (guild : Guild) (guid other : ℕ) (member : Member) :
    (guild.setMember guid member).GetMember other =
      if guid = other then some member else guild.GetMember other :=
  StdMap.find?_insert ..

theorem used_lt_of_mayWithdraw (hacct : Accounted guild ledger guid member)
    (hrank : member.m_rankId ≠ GR_GUILDMASTER) (htab : tabId < GUILD_BANK_MAX_TABS)
    (hmay : guild._GetMemberRemainingSlots member tabId ≠ 0) :
    guild._GetRankBankTabRights member.m_rankId tabId &&& GUILD_BANK_RIGHT_VIEW_TAB ≠ 0 ∧
      member.GetBankWithdrawValue tabId = ledger.withdrawals guid tabId ∧
      (ledger.withdrawals guid tabId : ℤ) <
        guild._GetRankBankTabSlotsPerDay member.m_rankId tabId := by
  have hvalue : member.GetBankWithdrawValue tabId = ledger.withdrawals guid tabId := by
    rw [Member.GetBankWithdrawValue, Member.IsRank, decide_eq_false hrank,
      if_neg Bool.false_ne_true]
    exact hacct.slots tabId htab
  rw [Guild._GetMemberRemainingSlots, if_neg hrank] at hmay
  split at hmay
  case isFalse => exact absurd rfl hmay
  rename_i hview
  obtain ⟨hlow, hhigh⟩ := guild.GetRankBankTabSlotsPerDay_bounds member.m_rankId tabId
  rw [hvalue, int32_rest hlow hhigh (Int.natCast_nonneg _) (hacct.slotLimit tabId)] at hmay
  exact ⟨hview, hvalue, by omega⟩

theorem Update_cases (guild : Guild) (guid tabId : ℕ) :
    SameRules guild (guild._UpdateMemberWithdrawSlots guid tabId) ∧
      (guild._UpdateMemberWithdrawSlots guid tabId).m_bankMoney = guild.m_bankMoney ∧
      ∀ other, (guild._UpdateMemberWithdrawSlots guid tabId).GetMember other =
        if guid = other then
          (guild.GetMember guid).map fun member =>
            if member.m_rankId ≠ GR_GUILDMASTER ∧ member.GetBankWithdrawValue tabId <
                guild._GetRankBankTabSlotsPerDay member.m_rankId tabId then
              member.UpdateBankWithdrawValue tabId 1
            else member
        else guild.GetMember other := by
  unfold Guild._UpdateMemberWithdrawSlots
  rcases hmember : guild.GetMember guid with _ | member
  · refine ⟨⟨rfl, rfl⟩, rfl, fun other => ?_⟩
    by_cases heq : guid = other
    · rw [if_pos heq, ← heq]
      exact hmember
    · rw [if_neg heq]
  dsimp only
  split
  case isTrue hcharged =>
    refine ⟨⟨rfl, rfl⟩, rfl, fun other => ?_⟩
    rw [GetMember_setMember, map_some, if_pos hcharged]
  case isFalse hcharged =>
    refine ⟨⟨rfl, rfl⟩, rfl, fun other => ?_⟩
    rw [map_some, if_neg hcharged]
    by_cases heq : guid = other
    · rw [if_pos heq, ← heq]
      exact hmember
    · rw [if_neg heq]

theorem withdrawals_withdrawItem (ledger : BankLedger) (guid tabId other tab : ℕ) :
    (ledger.withdrawItem guid tabId).withdrawals other tab =
      ledger.withdrawals other tab + if other = guid ∧ tab = tabId then 1 else 0 := rfl

theorem AllAccounted.withdrawItem (hall : AllAccounted guild ledger)
    (htab : tabId < GUILD_BANK_MAX_TABS) (hmay : MayWithdraw guild guid tabId) :
    AllAccounted (guild._UpdateMemberWithdrawSlots guid tabId)
      (ledger.withdrawItem guid tabId) := by
  obtain ⟨hrules, -, hmembers⟩ := Update_cases guild guid tabId
  intro other member hmember hrank
  apply hrules.accounted
  rw [hmembers] at hmember
  by_cases heq : guid = other
  · subst heq
    rw [if_pos rfl] at hmember
    obtain ⟨before, hbefore, rfl⟩ := map_eq_some_iff.mp hmember
    obtain ⟨found, hfound, hslots⟩ := hmay
    obtain rfl := some.inj (hbefore.symm.trans hfound)
    have hrankBefore : before.m_rankId ≠ GR_GUILDMASTER := by
      split at hrank
      · exact hrank
      · exact hrank
    have hacct := hall guid before hbefore hrankBefore
    obtain ⟨hview, hvalue, hlt⟩ := used_lt_of_mayWithdraw hacct hrankBefore htab hslots
    rw [if_pos ⟨hrankBefore, hvalue ▸ hlt⟩]
    obtain ⟨-, hhigh⟩ := guild.GetRankBankTabSlotsPerDay_bounds before.m_rankId tabId
    have hindex : ∀ tab < GUILD_BANK_MAX_TABS + 1, tab < before.m_bankWithdraw.length := by
      intro tab hlt
      rw [hacct.length]
      exact hlt
    have hcount : ∀ tab, (ledger.withdrawItem guid tabId).withdrawals guid tab =
        ledger.withdrawals guid tab + if tab = tabId then 1 else 0 := by
      intro tab
      rw [withdrawals_withdrawItem]
      simp only [true_and]
    refine ⟨?_, ?_, ?_, hacct.moneyLimit, ?_, ?_, hacct.gold⟩
    · exact (List.length_modify ..).trans hacct.length
    · refine (getD_modify (hindex tabId (htab.trans (lt_succ_self _))) _ _).trans ?_
      rw [if_neg htab.ne']
      exact hacct.money
    · intro tab htabLt
      refine (getD_modify (hindex tabId (htab.trans (lt_succ_self _))) tab _).trans ?_
      rw [hcount]
      by_cases hsame : tab = tabId
      · rw [if_pos hsame, if_pos hsame, hacct.slots tabId htab, hsame, int32_eq]
        · rfl
        · omega
        · omega
      · rw [if_neg hsame, if_neg hsame]
        exact hacct.slots tab htabLt
    · intro tab
      have hold := hacct.slotLimit tab
      rw [hcount]
      change _ ≤ max 0 (guild._GetRankBankTabSlotsPerDay before.m_rankId tab)
      by_cases hsame : tab = tabId
      · subst hsame
        rw [if_pos rfl]
        omega
      · rw [if_neg hsame]
        exact hold
    · intro tab hpos
      by_cases hsame : tab = tabId
      · exact hsame ▸ hview
      · rw [hcount, if_neg hsame] at hpos
        exact hacct.view tab hpos
  · rw [if_neg heq] at hmember
    have hacct := hall other member hmember hrank
    have hcount : ∀ tab, (ledger.withdrawItem guid tabId).withdrawals other tab =
        ledger.withdrawals other tab := by
      intro tab
      rw [withdrawals_withdrawItem, if_neg fun hboth => heq hboth.1.symm]
      rfl
    refine ⟨hacct.length, hacct.money, fun tab htabLt => ?_, hacct.moneyLimit,
      fun tab => ?_, fun tab hpos => ?_, hacct.gold⟩
    · rw [hcount]
      exact hacct.slots tab htabLt
    · rw [hcount]
      exact hacct.slotLimit tab
    · rw [hcount] at hpos
      exact hacct.view tab hpos

theorem MayWithdraw.other {tab : ℕ} (hmay : MayWithdraw guild guid tab) (hne : tab ≠ tabId) :
    MayWithdraw (guild._UpdateMemberWithdrawSlots guid tabId) guid tab := by
  obtain ⟨member, hmember, hslots⟩ := hmay
  obtain ⟨hrules, -, hmembers⟩ := Update_cases guild guid tabId
  have hfound := hmembers guid
  rw [if_pos rfl, hmember, map_some] at hfound
  refine ⟨_, hfound, ?_⟩
  rw [Guild._GetMemberRemainingSlots] at hslots ⊢
  split
  case isFalse =>
    rw [hrules.tabRights, hrules.slotsPerDay]
    exact hslots
  have hvalue : (member.UpdateBankWithdrawValue tabId 1).GetBankWithdrawValue tab =
      member.GetBankWithdrawValue tab := by
    unfold Member.GetBankWithdrawValue Member.UpdateBankWithdrawValue Member.IsRank
    rw [getD_eq_getElem?_getD, getD_eq_getElem?_getD, List.getElem?_modify]
    simp only [Ne.symm hne, if_false]
    cases member.m_bankWithdraw[tab]? <;> rfl
  rw [hrules.tabRights, hrules.slotsPerDay, hvalue]
  exact hslots

theorem AllAccounted.withdrawItems {tabs : List ℕ} (hall : AllAccounted guild ledger)
    (htabs : ∀ tab ∈ tabs, tab < GUILD_BANK_MAX_TABS)
    (hmay : ∀ tab ∈ tabs, MayWithdraw guild guid tab) (hnodup : tabs.Nodup) :
    AllAccounted (guild.charge guid tabs) (ledger.withdrawItems guid tabs) := by
  induction tabs generalizing guild ledger with
  | nil => exact hall
  | cons tabId tabs ih =>
    rw [nodup_cons] at hnodup
    have hstep := hall.withdrawItem (htabs tabId mem_cons_self)
      (hmay tabId mem_cons_self)
    refine ih hstep (fun tab hmem => htabs tab (mem_cons_of_mem _ hmem)) ?_ hnodup.2
    intro tab hmem
    refine (hmay tab (mem_cons_of_mem _ hmem)).other ?_
    rintro rfl
    exact hnodup.1 hmem

theorem charge_rules (guild : Guild) (guid : ℕ) (tabs : List ℕ) :
    SameRules guild (guild.charge guid tabs) ∧
      (guild.charge guid tabs).m_bankMoney = guild.m_bankMoney := by
  induction tabs generalizing guild with
  | nil => exact ⟨⟨rfl, rfl⟩, rfl⟩
  | cons tabId tabs ih =>
    obtain ⟨hrules, hmoney, -⟩ := Update_cases guild guid tabId
    obtain ⟨hrest, hrestMoney⟩ := ih (guild._UpdateMemberWithdrawSlots guid tabId)
    exact ⟨⟨hrest.ranks.trans hrules.ranks, hrest.tabs.trans hrules.tabs⟩, hrestMoney.trans hmoney⟩

theorem rights_of_either {rights : ℕ}
    (hrights : rights &&& (GR_RIGHT_WITHDRAW_REPAIR ||| GR_RIGHT_WITHDRAW_GOLD) ≠ 0) :
    rights &&& GR_RIGHT_WITHDRAW_REPAIR ≠ 0 ∨ rights &&& GR_RIGHT_WITHDRAW_GOLD ≠ 0 := by
  rw [and_or_distrib_left] at hrights
  by_contra hneither
  rw [not_or, not_not, not_not] at hneither
  rw [hneither.1, hneither.2] at hrights
  exact hrights rfl

theorem taken_le_of_remaining (hacct : Accounted guild ledger guid member)
    (hrank : member.m_rankId ≠ GR_GUILDMASTER)
    (hle : amount ≤ toUint32 (guild._GetMemberRemainingMoney member)) :
    ((ledger.taken guid + amount : ℕ) : ℤ) ≤ max 0 (guild._GetRankBankMoneyPerDay member.m_rankId) ∧
      (0 < amount → guild._GetRankRights member.m_rankId &&& GR_RIGHT_WITHDRAW_REPAIR ≠ 0 ∨
        guild._GetRankRights member.m_rankId &&& GR_RIGHT_WITHDRAW_GOLD ≠ 0) := by
  have hvalue : member.GetBankWithdrawValue GUILD_BANK_MAX_TABS = ledger.taken guid := by
    rw [Member.GetBankWithdrawValue, Member.IsRank, decide_eq_false hrank,
      if_neg Bool.false_ne_true]
    exact hacct.money
  have hlimit := hacct.moneyLimit
  rw [Guild._GetMemberRemainingMoney, if_neg hrank] at hle
  split at hle
  case isFalse =>
    have hzero : amount = 0 := le_zero.mp hle
    subst hzero
    exact ⟨hlimit, fun hpos => absurd hpos (lt_irrefl 0)⟩
  case isTrue hrights =>
    obtain ⟨hlow, hhigh⟩ := guild.GetRankBankMoneyPerDay_bounds member.m_rankId
    rw [hvalue, int32_rest hlow hhigh (Int.natCast_nonneg _) hlimit, toUint32] at hle
    refine ⟨?_, fun _ => rights_of_either hrights⟩
    omega

theorem AllAccounted.withdrawMoney {ledger' : BankLedger} (hall : AllAccounted guild ledger)
    (hmember : guild.GetMember guid = some member)
    (hle : amount ≤ toUint32 (guild._GetMemberRemainingMoney member))
    (htaken : ∀ other, ledger'.taken other =
      ledger.taken other + if other = guid then amount else 0)
    (hwithdrawals : ledger'.withdrawals = ledger.withdrawals)
    (hother : ∀ other, other ≠ guid → ledger'.received other = ledger.received other)
    (hgold : member.m_rankId ≠ GR_GUILDMASTER → 0 < ledger'.received guid →
      0 < ledger.received guid ∨
        guild._GetRankRights member.m_rankId &&& GR_RIGHT_WITHDRAW_GOLD ≠ 0) :
    AllAccounted (guild.setMember guid
      (member.UpdateBankWithdrawValue GUILD_BANK_MAX_TABS amount)) ledger' := by
  intro other found hfound hrank
  rw [GetMember_setMember] at hfound
  by_cases heq : guid = other
  · subst heq
    rw [if_pos rfl] at hfound
    cases hfound
    have hacct := hall guid member hmember hrank
    obtain ⟨hlimit, -⟩ := taken_le_of_remaining hacct hrank hle
    obtain ⟨-, hhigh⟩ := guild.GetRankBankMoneyPerDay_bounds member.m_rankId
    have hindex : GUILD_BANK_MAX_TABS < member.m_bankWithdraw.length := by
      rw [hacct.length]
      exact lt_succ_self _
    have hnew : ledger'.taken guid = ledger.taken guid + amount := by
      rw [htaken, if_pos rfl]
    refine ⟨(List.length_modify ..).trans hacct.length, ?_, ?_, ?_, ?_, ?_, ?_⟩
    · refine (getD_modify hindex _ _).trans ?_
      rw [if_pos rfl, hacct.money, hnew, int32_eq]
      · rfl
      · omega
      · omega
    · intro tab htab
      refine (getD_modify hindex tab _).trans ?_
      rw [if_neg htab.ne, hwithdrawals]
      exact hacct.slots tab htab
    · rw [hnew]
      exact hlimit
    · rw [hwithdrawals]
      exact hacct.slotLimit
    · rw [hwithdrawals]
      exact hacct.view
    · intro hpos
      rcases hgold hrank hpos with hbefore | hright
      · exact hacct.gold hbefore
      · exact hright
  · rw [if_neg heq] at hfound
    have hacct := hall other found hfound hrank
    have hsame : ledger'.taken other = ledger.taken other := by
      rw [htaken, if_neg (Ne.symm heq)]
      rfl
    refine ⟨hacct.length, hsame ▸ hacct.money, ?_, hsame ▸ hacct.moneyLimit, ?_, ?_, ?_⟩
    · rw [hwithdrawals]
      exact hacct.slots
    · rw [hwithdrawals]
      exact hacct.slotLimit
    · rw [hwithdrawals]
      exact hacct.view
    · rw [hother other (Ne.symm heq)]
      exact hacct.gold

end AzerothCore.Guilds

/-! ## Runs of the guild bank -/

namespace AzerothCore.Guilds

open List Option Nat
open Reachability Storage

structure BankPlayer where
  inventory : Storage.Player
  money : ℕ

structure BankWorld where
  guild : Guild
  players : StdMap ℕ BankPlayer
  nextItemGuid : ℕ
  ledger : BankLedger

inductive BankOp
  | depositMoney (player amount : ℕ)
  | withdrawMoney (player amount : ℕ)
  | repair (player costs : ℕ)
  | swapItems (player tabId slotId destTabId destSlotId splitedAmount : ℕ)
  | swapItemsWithInventory (player : ℕ) (toChar : Bool)
      (tabId slotId playerBag playerSlotId splitedAmount : ℕ)

namespace BankWorld

variable (env : BankEnv) (world : BankWorld)

def withPlayer (key : ℕ) (f : BankPlayer → BankWorld) : BankWorld :=
  (world.players.find? key).elim world f

/-- `WorldSession::HandleGuildBankDepositMoney` -/
def HandleGuildBankDepositMoney (key amount : ℕ) : BankWorld :=
  world.withPlayer key fun player =>
    if amount ≠ 0 ∧ amount ≤ player.money then
      let done := world.guild.HandleMemberDepositMoney player.money amount
      { world with
        guild := done.1
        players := world.players.insert key { player with money := done.2 } }
    else world

/-- What is left after `HandleMemberWithdrawMoney`. -/
def withdrawn (key : ℕ) (player : BankPlayer) (done : Guild × ℕ × Option ℕ)
    (ledger : ℕ → BankLedger) : BankWorld :=
  { world with
    guild := done.1
    players := world.players.insert key { player with money := done.2.1 }
    ledger := done.2.2.elim world.ledger ledger }

/-- `WorldSession::HandleGuildBankWithdrawMoney` -/
def HandleGuildBankWithdrawMoney (key amount : ℕ) : BankWorld :=
  world.withPlayer key fun player =>
    if amount ≠ 0 then
      world.withdrawn key player
        (world.guild.HandleMemberWithdrawMoney player.inventory.guid player.money amount false)
        (world.ledger.takeMoney player.inventory.guid)
    else world

/-- `Player::DurabilityRepair` of an item that the bank pays for. -/
def DurabilityRepair (key costs : ℕ) : BankWorld :=
  world.withPlayer key fun player =>
    world.withdrawn key player
      (world.guild.HandleMemberWithdrawMoney player.inventory.guid player.money costs true)
      (world.ledger.payRepair player.inventory.guid)

def moveState (player : BankPlayer) : MoveState :=
  ⟨world.guild, player.inventory, world.nextItemGuid⟩

/-- What is left after items were moved, and the tabs that they left. -/
def moved (key : ℕ) (player : BankPlayer) (result : MoveState × Bool) (tabs : List ℕ) : BankWorld :=
  { guild := result.1.guild
    players := world.players.insert key { player with inventory := result.1.player }
    nextItemGuid := result.1.nextItemGuid
    ledger := world.ledger.withdrawItems player.inventory.guid (if result.2 then tabs else []) }

def SwapItems (key tabId slotId destTabId destSlotId splitedAmount : ℕ) : BankWorld :=
  world.withPlayer key fun player =>
    let state := world.moveState player
    world.moved key player (state.SwapItems env tabId slotId destTabId destSlotId splitedAmount)
      (state.leftTabs env ⟨true, tabId, slotId⟩ ⟨true, destTabId, destSlotId⟩ splitedAmount)

def SwapItemsWithInventory (key : ℕ) (toChar : Bool)
    (tabId slotId playerBag playerSlotId splitedAmount : ℕ) : BankWorld :=
  world.withPlayer key fun player =>
    let state := world.moveState player
    world.moved key player
      (state.SwapItemsWithInventory env toChar tabId slotId playerBag playerSlotId splitedAmount)
      (if toChar then
        state.leftTabs env ⟨true, tabId, slotId⟩ ⟨false, playerBag, playerSlotId⟩ splitedAmount
      else
        state.leftTabs env ⟨false, playerBag, playerSlotId⟩ ⟨true, tabId, slotId⟩ splitedAmount)

def perform : BankOp → BankWorld
  | .depositMoney key amount => world.HandleGuildBankDepositMoney key amount
  | .withdrawMoney key amount => world.HandleGuildBankWithdrawMoney key amount
  | .repair key costs => world.DurabilityRepair key costs
  | .swapItems key tabId slotId destTabId destSlotId splitedAmount =>
    world.SwapItems env key tabId slotId destTabId destSlotId splitedAmount
  | .swapItemsWithInventory key toChar tabId slotId playerBag playerSlotId splitedAmount =>
    world.SwapItemsWithInventory env key toChar tabId slotId playerBag playerSlotId splitedAmount

def totalMoney : ℕ :=
  world.guild.m_bankMoney + world.players.sumValues BankPlayer.money + world.ledger.repaired

structure BankStart : Prop where
  reset : ∀ guid member, world.guild.GetMember guid = some member →
    member.m_bankWithdraw = List.replicate (GUILD_BANK_MAX_TABS + 1) 0
  ledger : world.ledger = BankLedger.empty
  tabs : world.guild.m_bankTabs ≤ GUILD_BANK_MAX_TABS
  bank : world.guild.m_bankMoney < 2 ^ 64
  money : ∀ key player, world.players.find? key = some player → player.money ≤ MAX_MONEY_AMOUNT

structure WithinLimits (guild : Guild) (ledger : BankLedger) (guid : ℕ) (member : Member) :
    Prop where
  money : ledger.taken guid ≤ (guild.GetRankInfo member.m_rankId).elim 0 RankInfo.m_bankMoneyPerDay
  gold : 0 < ledger.received guid →
    guild._GetRankRights member.m_rankId &&& GR_RIGHT_WITHDRAW_GOLD ≠ 0
  slots : ∀ tabId, ledger.withdrawals guid tabId ≤
    (guild.GetRankInfo member.m_rankId).elim 0 fun rank =>
      (rank.m_bankTabRightsAndSlots[tabId]?).elim 0 GuildBankRightsAndSlots.slots
  view : ∀ tabId, 0 < ledger.withdrawals guid tabId →
    guild._GetRankBankTabRights member.m_rankId tabId &&& GUILD_BANK_RIGHT_VIEW_TAB ≠ 0

/-- The bank gives no money to a member whose rank may take it for repairs only. -/
def KeepsRights (world : BankWorld) : BankOp → Prop
  | .withdrawMoney key amount =>
    ∀ player member, world.players.find? key = some player →
      world.guild.GetMember player.inventory.guid = some member →
      member.m_rankId ≠ GR_GUILDMASTER →
      world.guild._GetRankRights member.m_rankId &&& GR_RIGHT_WITHDRAW_REPAIR ≠ 0 →
      world.guild._GetRankRights member.m_rankId &&& GR_RIGHT_WITHDRAW_GOLD ≠ 0 ∨
        world.guild.m_bankMoney < min amount MAX_MONEY_AMOUNT ∨
        toUint32 (world.guild._GetMemberRemainingMoney member) < min amount MAX_MONEY_AMOUNT ∨
        tooMuchMoney player.money (int32 (min amount MAX_MONEY_AMOUNT : ℕ)) = true
  | _ => True

variable {env world}

theorem int32_le (value : ℕ) : max 0 (int32 value) ≤ value := by
  rw [int32, Int.bmod]
  split
  · omega
  · omega

theorem withinLimits_of_accounted {guild : Guild} {ledger : BankLedger} {guid : ℕ}
    {member : Member}
    (hacct : Accounted guild ledger guid member) : WithinLimits guild ledger guid member where
  money := by
    have hlimit := hacct.moneyLimit
    unfold Guild._GetRankBankMoneyPerDay at hlimit
    cases hrank : guild.GetRankInfo member.m_rankId with
    | none =>
      rw [hrank, elim_none, max_self] at hlimit
      exact Int.ofNat_le.mp hlimit
    | some rank =>
      rw [hrank, elim_some] at hlimit
      exact Int.ofNat_le.mp (hlimit.trans (int32_le _))
  gold := hacct.gold
  slots tabId := by
    have hlimit := hacct.slotLimit tabId
    unfold Guild._GetRankBankTabSlotsPerDay at hlimit
    split at hlimit
    case isFalse =>
      exact (Int.ofNat_le.mp hlimit).trans (Nat.zero_le _)
    rcases hrank : guild.GetRankInfo member.m_rankId with _ | rank
    · rw [hrank, elim_none, max_self] at hlimit
      exact Int.ofNat_le.mp hlimit
    rw [hrank, elim_some, RankInfo.GetBankTabSlotsPerDay] at hlimit
    rw [elim_some]
    cases hslots : rank.m_bankTabRightsAndSlots[tabId]? with
    | none =>
      rw [hslots, elim_none, max_self] at hlimit
      exact Int.ofNat_le.mp hlimit
    | some rightsAndSlots =>
      rw [hslots, elim_some] at hlimit
      exact Int.ofNat_le.mp (hlimit.trans (int32_le _))
  view := hacct.view

structure Kept (total : ℕ) (world : BankWorld) : Prop where
  accounts : AllAccounted world.guild world.ledger
  tabs : world.guild.m_bankTabs ≤ GUILD_BANK_MAX_TABS
  bank : world.guild.m_bankMoney < 2 ^ 64
  money : ∀ key player, world.players.find? key = some player → player.money ≤ MAX_MONEY_AMOUNT
  total : world.totalMoney = total

theorem BankStart.kept (hstart : BankStart world) : Kept world.totalMoney world where
  accounts := by
    intro guid member hmember _
    have hzero : ∀ tabId, member.m_bankWithdraw.getD tabId 0 = 0 := by
      intro tabId
      rw [hstart.reset guid member hmember, getD_eq_getElem?_getD]
      rcases lt_or_ge tabId (GUILD_BANK_MAX_TABS + 1) with hlt | hge
      · rw [List.getElem?_replicate_of_lt hlt]
        rfl
      · rw [List.getElem?_eq_none (by exact hge)]
        rfl
    have htaken : world.ledger.taken guid = 0 := by
      rw [hstart.ledger]
      rfl
    have hwithdrawals : ∀ tabId, world.ledger.withdrawals guid tabId = 0 := by
      intro tabId
      rw [hstart.ledger]
      rfl
    have hreceived : world.ledger.received guid = 0 := by
      rw [hstart.ledger]
      rfl
    refine ⟨?_, ?_, fun tabId _ => ?_, ?_, fun tabId => ?_, fun tabId hpos => ?_, fun hpos => ?_⟩
    · rw [hstart.reset guid member hmember, length_replicate]
    · rw [hzero, htaken]
      rfl
    · rw [hzero, hwithdrawals]
      rfl
    · rw [htaken]
      exact le_max_left _ _
    · rw [hwithdrawals]
      exact le_max_left _ _
    · exact absurd (hwithdrawals tabId) hpos.ne'
    · exact absurd hreceived hpos.ne'
  tabs := hstart.tabs
  bank := hstart.bank
  money := hstart.money
  total := rfl

section Money

variable {total key amount : ℕ} {player : BankPlayer}

variable {player' : BankPlayer}

theorem money_insert (hkept : Kept total world) (hmoney : player'.money ≤ MAX_MONEY_AMOUNT)
    (other : ℕ) (found : BankPlayer)
    (hfound : (world.players.insert key player').find? other = some found) :
    found.money ≤ MAX_MONEY_AMOUNT := by
  rw [StdMap.find?_insert] at hfound
  split at hfound
  · exact some.inj hfound ▸ hmoney
  · exact hkept.money other found hfound

theorem totalMoney_replace (hplayer : world.players.find? key = some player) {guild : Guild}
    {nextItemGuid : ℕ} {ledger : BankLedger}
    (hbalance : guild.m_bankMoney + player'.money + ledger.repaired =
      world.guild.m_bankMoney + player.money + world.ledger.repaired) :
    totalMoney ⟨guild, world.players.insert key player', nextItemGuid, ledger⟩ =
      world.totalMoney := by
  have hothers := StdMap.sumValues_erase BankPlayer.money hplayer
  unfold totalMoney
  dsimp only
  rw [StdMap.sumValues_insert, ← hothers]
  omega

theorem HandleGuildBankDepositMoney_kept (hkept : Kept total world) :
    Kept total (world.HandleGuildBankDepositMoney key amount) := by
  unfold HandleGuildBankDepositMoney withPlayer
  rcases hplayer : world.players.find? key with _ | player
  · exact hkept
  rw [elim_some]
  split
  case isFalse => exact hkept
  rename_i hasked
  have hmoney := hkept.money key player hplayer
  have hle := hasked.2
  unfold Guild.HandleMemberDepositMoney
  split
  · exact ⟨hkept.accounts, hkept.tabs, hkept.bank, money_insert hkept hmoney,
      (totalMoney_replace hplayer rfl).trans hkept.total⟩
  rename_i hroom
  have hafter := ModifyMoney_neg hle hmoney
  refine ⟨hkept.accounts.congr ⟨rfl, rfl⟩ rfl, hkept.tabs, ?_, ?_, ?_⟩
  · have hlimit : GUILD_BANK_MONEY_LIMIT = 0x7FFFFFFFFFFFF := rfl
    have hmax : MAX_MONEY_AMOUNT = 0x7FFFFFFF - 1 := rfl
    change world.guild.m_bankMoney + amount < 2 ^ 64
    omega
  · refine money_insert hkept ?_
    rw [hafter]
    exact (sub_le _ _).trans hmoney
  · refine (totalMoney_replace hplayer ?_).trans hkept.total
    rw [hafter, Guild._ModifyBankMoney, if_pos rfl]
    dsimp only
    omega

theorem HandleMemberWithdrawMoney_cases (guild : Guild) (guid money amount : ℕ)
    (repair : Bool) :
    guild.HandleMemberWithdrawMoney guid money amount repair = (guild, money, none) ∨
      ∃ member, guild.GetMember guid = some member ∧
        min amount MAX_MONEY_AMOUNT ≤ guild.m_bankMoney ∧
        min amount MAX_MONEY_AMOUNT ≤ toUint32 (guild._GetMemberRemainingMoney member) ∧
        (repair = false → tooMuchMoney money (int32 (min amount MAX_MONEY_AMOUNT : ℕ)) = false) ∧
        guild.HandleMemberWithdrawMoney guid money amount repair =
          ({ guild.setMember guid (member.UpdateBankWithdrawValue GUILD_BANK_MAX_TABS
              (min amount MAX_MONEY_AMOUNT)) with
              m_bankMoney := guild.m_bankMoney - min amount MAX_MONEY_AMOUNT },
            if repair then money
            else ModifyMoney money (int32 (min amount MAX_MONEY_AMOUNT : ℕ)),
            some (min amount MAX_MONEY_AMOUNT)) := by
  unfold Guild.HandleMemberWithdrawMoney
  generalize min amount MAX_MONEY_AMOUNT = amount
  by_cases hbank : guild.m_bankMoney < amount
  · exact .inl (if_pos hbank)
  rw [if_neg hbank]
  rcases hmember : guild.GetMember guid with _ | member
  · exact .inl rfl
  dsimp only
  by_cases hleft : toUint32 (guild._GetMemberRemainingMoney member) < amount
  · exact .inl (if_pos hleft)
  rw [if_neg hleft]
  by_cases hmuch : (!repair && tooMuchMoney money (int32 amount)) = true
  · exact .inl (if_pos hmuch)
  rw [if_neg hmuch]
  refine .inr ⟨member, rfl, not_lt.mp hbank, not_lt.mp hleft, ?_, ?_⟩
  · rintro rfl
    rw [Bool.not_false, Bool.true_and] at hmuch
    exact Bool.eq_false_of_not_eq_true hmuch
  · exact congrArg (·, _) (if_neg hbank)

theorem ModifyMoney_of_room {money : ℕ} (hmoney : money ≤ MAX_MONEY_AMOUNT)
    (hamount : amount ≤ MAX_MONEY_AMOUNT) (hroom : tooMuchMoney money (int32 amount) = false) :
    ModifyMoney money (int32 amount) = money + amount ∧ money + amount ≤ MAX_MONEY_AMOUNT := by
  rcases Nat.eq_zero_or_pos amount with rfl | hpos
  · exact ⟨rfl, hmoney⟩
  have hint : int32 amount = amount := int32_of_le hamount
  rw [tooMuchMoney, hint, decide_eq_true (Int.natCast_pos.mpr hpos), Bool.true_and,
    decide_eq_false_iff_not, not_le, toUint32] at hroom
  have hlt : money + amount < MAX_MONEY_AMOUNT := by omega
  exact ⟨ModifyMoney_pos hlt, hlt.le⟩

/-- Whoever takes money, the ledger and the bank go along. Only a member with the right
may get some. -/
theorem withdrawn_kept (hkept : Kept total world)
    (hplayer : world.players.find? key = some player) {repair : Bool} {ledger : ℕ → BankLedger}
    (htaken : ∀ taken other, (ledger taken).taken other =
      world.ledger.taken other + if other = player.inventory.guid then taken else 0)
    (hwithdrawals : ∀ taken, (ledger taken).withdrawals = world.ledger.withdrawals)
    (hother : ∀ taken other, other ≠ player.inventory.guid →
      (ledger taken).received other = world.ledger.received other)
    (hrepaired : ∀ taken,
      (ledger taken).repaired = world.ledger.repaired + if repair then taken else 0)
    (hgold : ∀ taken member, taken = min amount MAX_MONEY_AMOUNT →
      world.guild.GetMember player.inventory.guid = some member →
      member.m_rankId ≠ GR_GUILDMASTER → taken ≤ world.guild.m_bankMoney →
      taken ≤ toUint32 (world.guild._GetMemberRemainingMoney member) →
      (repair = false → tooMuchMoney player.money (int32 taken) = false) →
      0 < (ledger taken).received player.inventory.guid →
      0 < world.ledger.received player.inventory.guid ∨
        world.guild._GetRankRights member.m_rankId &&& GR_RIGHT_WITHDRAW_GOLD ≠ 0) :
    Kept total (world.withdrawn key player
      (world.guild.HandleMemberWithdrawMoney player.inventory.guid player.money amount repair)
      ledger) := by
  have hmoney := hkept.money key player hplayer
  rcases HandleMemberWithdrawMoney_cases world.guild player.inventory.guid player.money amount
    repair with hrefused | ⟨member, hmember, hbank, hleft, hroom, hgiven⟩
  · rw [hrefused]
    exact ⟨hkept.accounts, hkept.tabs, hkept.bank, money_insert hkept hmoney,
      (totalMoney_replace hplayer rfl).trans hkept.total⟩
  rw [hgiven]
  have hsmall : min amount MAX_MONEY_AMOUNT ≤ MAX_MONEY_AMOUNT := Nat.min_le_right _ _
  have hgold' := fun hrank => hgold _ member rfl hmember hrank hbank hleft hroom
  generalize min amount MAX_MONEY_AMOUNT = taken at *
  have haccounts := hkept.accounts.withdrawMoney hmember hleft (htaken taken)
    (hwithdrawals taken) (hother taken) hgold'
  refine ⟨haccounts.congr ⟨rfl, rfl⟩ rfl, hkept.tabs,
    Nat.lt_of_le_of_lt (sub_le _ _) hkept.bank, ?_, ?_⟩
  · refine money_insert hkept ?_
    cases repair with
    | true => exact hmoney
    | false =>
      obtain ⟨hafter, hlimit⟩ := ModifyMoney_of_room hmoney hsmall (hroom rfl)
      rw [if_neg Bool.false_ne_true, hafter]
      exact hlimit
  · refine (totalMoney_replace hplayer ?_).trans hkept.total
    dsimp only
    rw [elim_some, hrepaired]
    cases repair with
    | true =>
      rw [if_pos rfl, if_pos rfl]
      omega
    | false =>
      rw [if_neg Bool.false_ne_true, if_neg Bool.false_ne_true,
        (ModifyMoney_of_room hmoney hsmall (hroom rfl)).1]
      omega

theorem HandleGuildBankWithdrawMoney_kept (hkept : Kept total world)
    (hrights : KeepsRights world (.withdrawMoney key amount)) :
    Kept total (world.HandleGuildBankWithdrawMoney key amount) := by
  unfold HandleGuildBankWithdrawMoney withPlayer
  rcases hplayer : world.players.find? key with _ | player
  · exact hkept
  split
  case isFalse => exact hkept
  refine withdrawn_kept hkept hplayer (fun _ _ => rfl) (fun _ => rfl) ?_ (fun _ => rfl) ?_
  · intro taken other hne
    change _ + (if other = player.inventory.guid then taken else 0) = _
    rw [if_neg hne, Nat.add_zero]
  · rintro taken member rfl hmember hrank hbank hleft hroom hreceived
    change 0 < _ + (if player.inventory.guid = player.inventory.guid then _ else 0)
      at hreceived
    rw [if_pos rfl] at hreceived
    rcases Nat.eq_zero_or_pos (world.ledger.received player.inventory.guid) with hzero | hpos
    · right
      have hacct := hkept.accounts _ member hmember hrank
      obtain ⟨-, heither⟩ := taken_le_of_remaining hacct hrank hleft
      rcases heither (by omega) with hrepair | hgold
      · rcases hrights player member hplayer hmember hrank hrepair with hgold | hrefused
        · exact hgold
        · rcases hrefused with hlt | hlt | hmuch
          · exact absurd hbank (not_le.mpr hlt)
          · exact absurd hleft (not_le.mpr hlt)
          · exact nomatch (hroom rfl).symm.trans hmuch
      · exact hgold
    · exact .inl hpos

theorem DurabilityRepair_kept (hkept : Kept total world) :
    Kept total (world.DurabilityRepair key amount) := by
  unfold DurabilityRepair withPlayer
  cases hplayer : world.players.find? key with
  | none => exact hkept
  | some player =>
    exact withdrawn_kept hkept hplayer (fun _ _ => rfl) (fun _ => rfl) (fun _ _ _ => rfl)
      (fun _ => rfl) fun _ _ _ _ _ _ _ _ hreceived => .inl hreceived

end Money

section Items

variable {total key : ℕ} {player : BankPlayer}

theorem repaired_withdrawItems (ledger : BankLedger) (guid : ℕ) (tabs : List ℕ) :
    (ledger.withdrawItems guid tabs).repaired = ledger.repaired := by
  induction tabs generalizing ledger with
  | nil => rfl
  | cons tabId tabs ih => exact ih (ledger.withdrawItem guid tabId)

section

variable (hkept : Kept total world) (hplayer : world.players.find? key = some player)
include hkept hplayer

theorem moved_kept {result : MoveState × Bool}
    {tabs : List ℕ}
    (hcharges : MoveState.Charges (world.moveState player) result.1
      (if result.2 then tabs else []))
    (htabs : ∀ tab ∈ if result.2 then tabs else [], tab < world.guild.m_bankTabs) :
    Kept total (world.moved key player result tabs) := by
  obtain ⟨hcharged, hmay, hnodup⟩ := hcharges
  unfold moved
  generalize (if result.2 then tabs else []) = tabs at *
  obtain ⟨hrules, hbank⟩ := charge_rules world.guild player.inventory.guid tabs
  obtain ⟨hsame, hmembers, hmoney⟩ := sameRules_of_only hcharged
  have hsameBank : result.1.guild.m_bankMoney = world.guild.m_bankMoney := hmoney.trans hbank
  have haccounts := hkept.accounts.withdrawItems
    (fun tab hmem => (htabs tab hmem).trans_le hkept.tabs) hmay hnodup
  refine ⟨haccounts.congr hsame hmembers, ?_, ?_, ?_, ?_⟩
  · exact (hsame.tabs.trans hrules.tabs).trans_le hkept.tabs
  · exact hsameBank.trans_lt hkept.bank
  · exact money_insert hkept (hkept.money key player hplayer)
  · refine (totalMoney_replace hplayer ?_).trans hkept.total
    rw [hsameBank, repaired_withdrawItems]

theorem MoveItems_kept {pSrc pDest : MoveItemData}
    {splitedAmount : ℕ}
    (hsrc : pSrc.IsBank = true → pSrc.m_container < world.guild.m_bankTabs)
    (hdest : pDest.IsBank = true → pDest.m_container < world.guild.m_bankTabs) :
    Kept total (world.moved key player
      ((world.moveState player)._MoveItems env pSrc pDest splitedAmount)
      ((world.moveState player).leftTabs env pSrc pDest splitedAmount)) := by
  have hleft : (if ((world.moveState player)._MoveItems env pSrc pDest splitedAmount).2 then
      (world.moveState player).leftTabs env pSrc pDest splitedAmount else []) =
      (world.moveState player).leftTabs env pSrc pDest splitedAmount := by
    unfold MoveState.leftTabs
    split
    · rfl
    · rfl
  have hleaves : ∀ {side other : MoveItemData} {tab : ℕ},
      (side.IsBank = true → side.m_container < world.guild.m_bankTabs) →
      tab ∈ side.leaves other → tab < world.guild.m_bankTabs := by
    intro side other tab hside hmem
    obtain ⟨hbank, -, rfl⟩ := MoveItemData.mem_leaves hmem
    exact hside hbank
  refine moved_kept hkept hplayer ?_ ?_
  · rw [hleft]
    exact MoveState.MoveItems_charges env pSrc pDest splitedAmount _
  · intro tab hmem
    rw [hleft, MoveState.leftTabs] at hmem
    split at hmem
    case isFalse => cases hmem
    rcases mem_append.mp hmem with hfirst | hsecond
    · exact hleaves hsrc hfirst
    split at hsecond
    case isFalse => cases hsecond
    · exact hleaves hdest hsecond

theorem refused_kept (tabs : List ℕ) :
    Kept total (world.moved key player (world.moveState player, false) tabs) := by
  refine moved_kept hkept hplayer ?_ ?_
  · exact MoveState.charges_nil (OnlyItems.refl _)
  · exact nofun

end

theorem SwapItems_kept (hkept : Kept total world)
    (tabId slotId destTabId destSlotId splitedAmount : ℕ) :
    Kept total
      (world.SwapItems env key tabId slotId destTabId destSlotId splitedAmount) := by
  unfold SwapItems withPlayer
  rcases hplayer : world.players.find? key with _ | player
  · exact hkept
  rw [elim_some]
  dsimp only
  unfold MoveState.SwapItems
  split
  · exact refused_kept hkept hplayer _
  rename_i hchecks
  simp only [Guild.hasSlot, Bool.or_eq_true, Bool.not_eq_true', Bool.and_eq_true,
    decide_eq_true_eq, not_or, Bool.not_eq_false] at hchecks
  exact MoveItems_kept hkept hplayer (fun _ => hchecks.1.1.1) fun _ => hchecks.1.2.1

theorem SwapItemsWithInventory_kept (hkept : Kept total world) (toChar : Bool)
    (tabId slotId playerBag playerSlotId splitedAmount : ℕ) :
    Kept total (world.SwapItemsWithInventory env key toChar tabId slotId playerBag playerSlotId
      splitedAmount) := by
  unfold SwapItemsWithInventory withPlayer
  rcases hplayer : world.players.find? key with _ | player
  · exact hkept
  rw [elim_some]
  dsimp only
  unfold MoveState.SwapItemsWithInventory
  by_cases hchecks : GUILD_BANK_MAX_SLOTS ≤ slotId ∧ slotId ≠ NULL_SLOT ∨
      (world.moveState player).guild.m_bankTabs ≤ tabId
  · rw [if_pos hchecks]
    exact refused_kept hkept hplayer _
  rw [if_neg hchecks]
  have htab : tabId < world.guild.m_bankTabs := not_le.mp fun hle => hchecks (.inr hle)
  cases toChar with
  | true => exact MoveItems_kept hkept hplayer (fun _ => htab) nofun
  | false => exact MoveItems_kept hkept hplayer nofun fun _ => htab

end Items

theorem perform_kept {total : ℕ} (hkept : Kept total world) {op : BankOp}
    (hrights : KeepsRights world op) : Kept total (world.perform env op) := by
  cases op with
  | depositMoney key amount => exact HandleGuildBankDepositMoney_kept hkept
  | withdrawMoney key amount => exact HandleGuildBankWithdrawMoney_kept hkept hrights
  | repair key costs => exact DurabilityRepair_kept hkept
  | swapItems => exact SwapItems_kept hkept ..
  | swapItemsWithInventory => exact SwapItemsWithInventory_kept hkept ..

/-- Since they were reset, the members have stayed within the limits of their ranks, unless
the bank gave money to a member who may only repair. No money came up or was lost. -/
theorem members_stay_within_limits {start : BankWorld} (hstart : BankStart start)
    (hreach : Reachable (· = start)
      (guarded KeepsRights fun world op after => after = world.perform env op) world) :
    (∀ guid member, world.guild.GetMember guid = some member →
      member.m_rankId ≠ GR_GUILDMASTER → WithinLimits world.guild world.ledger guid member) ∧
    world.totalMoney = start.totalMoney ∧ world.guild.m_bankMoney < 2 ^ 64 ∧
    ∀ key player, world.players.find? key = some player → player.money ≤ MAX_MONEY_AMOUNT := by
  have hkept : Kept start.totalMoney world := by
    apply hreach.invariant
    · rintro initial rfl
      exact hstart.kept
    · rintro before op after hbefore ⟨hrights, rfl⟩
      exact perform_kept hbefore hrights
  refine ⟨fun guid member hmember hrank => ?_, hkept.total, hkept.bank, hkept.money⟩
  exact withinLimits_of_accounted (hkept.accounts guid member hmember hrank)

def limitedRank (rights : ℕ) : RankInfo := RankInfo.new 1 rights 10 1

def limitedGuild (rights : ℕ) : Guild where
  m_leaderGuid := 1
  m_ranks := [RankInfo.new 0 GR_RIGHT_ALL 0 1, limitedRank rights]
  m_members := (StdMap.empty.insert 1 (Member.new 0)).insert 2 (Member.new 1)
  m_bankMoney := 100
  m_bankTabs := 1
  m_items := StdMap.empty

def limitedWorld (rights : ℕ) : BankWorld where
  guild := limitedGuild rights
  players := StdMap.empty.insert 2 ⟨⟨2, 0, StdMap.empty⟩, 0⟩
  nextItemGuid := 1
  ledger := BankLedger.empty

theorem limitedWorld_start (rights : ℕ) : BankStart (limitedWorld rights) where
  reset := by
    intro guid member hmember
    have hall : ∀ entry ∈ ((StdMap.empty.insert 1 (Member.new 0)).insert 2 (Member.new 1) :
        StdMap ℕ Member).entries,
        entry.2.m_bankWithdraw = List.replicate (GUILD_BANK_MAX_TABS + 1) 0 := by
      decide
    exact hall (guid, member) (StdMap.find?_eq_some_iff.mp hmember)
  ledger := rfl
  tabs := by
    change 1 ≤ 6
    decide
  bank := by
    change 100 < 2 ^ 64
    decide
  money := by
    intro key player hplayer
    have hall : ∀ entry ∈ (limitedWorld rights).players.entries,
        entry.2.money ≤ MAX_MONEY_AMOUNT := by
      intro entry hmem
      obtain rfl := mem_singleton.mp hmem
      exact Nat.zero_le _
    exact hall (key, player) (StdMap.find?_eq_some_iff.mp hplayer)

/-- A member with the right takes as much as he may. -/
theorem gold_is_withdrawn :
    ∃ world, world = (limitedWorld GR_RIGHT_WITHDRAW_GOLD).perform MoveState.bankEnv
        (.withdrawMoney 2 10) ∧
      world.ledger.received 2 = 10 ∧ WithinLimits world.guild world.ledger 2
        ((Member.new 1).UpdateBankWithdrawValue GUILD_BANK_MAX_TABS 10) := by
  have hrights : KeepsRights (limitedWorld GR_RIGHT_WITHDRAW_GOLD) (.withdrawMoney 2 10) := by
    intro player member _ hmember hrank _
    have hall : ∀ entry ∈ (limitedGuild GR_RIGHT_WITHDRAW_GOLD).m_members.entries,
        entry.2.m_rankId ≠ GR_GUILDMASTER →
        (limitedGuild GR_RIGHT_WITHDRAW_GOLD)._GetRankRights entry.2.m_rankId &&&
          GR_RIGHT_WITHDRAW_GOLD ≠ 0 := by
      decide +kernel
    exact .inl (hall (_, member) (StdMap.find?_eq_some_iff.mp hmember) hrank)
  have hfirst : Reachable (· = limitedWorld GR_RIGHT_WITHDRAW_GOLD)
      (guarded KeepsRights fun world op after => after = world.perform MoveState.bankEnv op)
      (limitedWorld GR_RIGHT_WITHDRAW_GOLD) := .start rfl
  have hwithin := members_stay_within_limits (limitedWorld_start GR_RIGHT_WITHDRAW_GOLD)
    (hfirst.step ⟨hrights, rfl⟩)
  refine ⟨_, rfl, by decide +kernel, hwithin.1 2 _ (by decide +kernel) (by decide)⟩

/-- A member who may only repair gets the money all the same. -/
theorem repair_right_gives_gold : ∃ start world, BankStart start ∧
      Reachable (· = start) (fun world op after => after = world.perform MoveState.bankEnv op)
        world ∧
      ¬ ∀ guid member, world.guild.GetMember guid = some member →
        member.m_rankId ≠ GR_GUILDMASTER → WithinLimits world.guild world.ledger guid member := by
  have hfirst : Reachable (· = limitedWorld GR_RIGHT_WITHDRAW_REPAIR)
      (fun world op after => after = world.perform MoveState.bankEnv op)
      (limitedWorld GR_RIGHT_WITHDRAW_REPAIR) := .start rfl
  have hreach := @Reachable.step _ _ _ _ _ _ (.withdrawMoney 2 10) hfirst rfl
  refine ⟨_, _, limitedWorld_start GR_RIGHT_WITHDRAW_REPAIR, hreach, fun hwithin => ?_⟩
  have hgold := (hwithin 2 ((Member.new 1).UpdateBankWithdrawValue GUILD_BANK_MAX_TABS 10)
    (by decide +kernel) (by decide)).gold
  exact absurd rfl (hgold (by decide +kernel))

end BankWorld

end AzerothCore.Guilds
