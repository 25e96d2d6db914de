import AzerothCore.Collections.Reachability
import AzerothCore.Common.Money
import AzerothCore.Storage.ItemStore

/-!
# Guilds

A guild has ranks, which are numbered from the guild master downwards, members
that refer to a rank by its number, and a bank of money and of tabs with items.
Names, notes, logs and what is sent to the clients are left out.
-/

namespace AzerothCore.Guilds

open Storage

def GUILD_BANK_MAX_TABS : ℕ := 6
def GUILD_BANK_MAX_SLOTS : ℕ := 98
def GUILD_RANKS_MIN_COUNT : ℕ := 5
def GUILD_RANKS_MAX_COUNT : ℕ := 10
def GUILD_RANK_NONE : ℕ := 0xFF
def GUILD_WITHDRAW_MONEY_UNLIMITED : ℕ := 0xFFFFFFFF
def GUILD_WITHDRAW_SLOT_UNLIMITED : ℕ := 0xFFFFFFFF
def TAB_UNDEFINED : ℕ := 0xFF
def GUILD_BANK_MONEY_LIMIT : ℕ := 0x7FFFFFFFFFFFF

def GR_GUILDMASTER : ℕ := 0
def GR_OFFICER : ℕ := 1

def GR_RIGHT_EMPTY : ℕ := 0x00000040
def GR_RIGHT_GCHATLISTEN : ℕ := 0x00000041
def GR_RIGHT_GCHATSPEAK : ℕ := 0x00000042
def GR_RIGHT_REMOVE : ℕ := 0x00000060
def GR_RIGHT_PROMOTE : ℕ := 0x000000C0
def GR_RIGHT_DEMOTE : ℕ := 0x00000140
def GR_RIGHT_WITHDRAW_REPAIR : ℕ := 0x00040000
def GR_RIGHT_WITHDRAW_GOLD : ℕ := 0x00080000
def GR_RIGHT_ALL : ℕ := 0x001DF1FF

def GUILD_BANK_RIGHT_VIEW_TAB : ℕ := 0x01
def GUILD_BANK_RIGHT_DEPOSIT_ITEM : ℕ := 0x03
def GUILD_BANK_RIGHT_FULL : ℕ := 0xFF

structure GuildBankRightsAndSlots where
  tabId : ℕ
  rights : ℕ
  slots : ℕ

structure RankInfo where
  m_rankId : ℕ
  m_rights : ℕ
  m_bankMoneyPerDay : ℕ
  m_bankTabRightsAndSlots : List GuildBankRightsAndSlots

structure Member where
  m_rankId : ℕ
  /-- What was taken out of each tab since the last reset, and then the money. -/
  m_bankWithdraw : List ℤ
deriving DecidableEq

abbrev BankSlot := ℕ ×ₗ ℕ

structure Guild where
  m_leaderGuid : ℕ
  m_ranks : List RankInfo
  m_members : StdMap ℕ Member
  m_bankMoney : ℕ
  /-- The number of tabs that were bought. -/
  m_bankTabs : ℕ
  m_items : StdMap BankSlot Item

namespace RankInfo

/-- `CreateMissingTabsIfNeeded` -/
def createMissingTabs (rank : RankInfo) (tabs : ℕ) : RankInfo :=
  { rank with
    m_bankTabRightsAndSlots := rank.m_bankTabRightsAndSlots.mapIdx fun i rightsAndSlots =>
      if tabs ≤ i ∨ rightsAndSlots.tabId = i then rightsAndSlots
      else if rank.m_rankId = GR_GUILDMASTER then
        ⟨i, GUILD_BANK_RIGHT_FULL, GUILD_WITHDRAW_SLOT_UNLIMITED⟩
      else { rightsAndSlots with tabId := i } }

def new (rankId rights money tabs : ℕ) : RankInfo :=
  createMissingTabs
    { m_rankId := rankId
      m_rights := rights
      m_bankMoneyPerDay :=
        if rankId ≠ GR_GUILDMASTER then money else GUILD_WITHDRAW_MONEY_UNLIMITED
      m_bankTabRightsAndSlots := List.replicate GUILD_BANK_MAX_TABS ⟨TAB_UNDEFINED, 0, 0⟩ } tabs

def GetBankTabRights (rank : RankInfo) (tabId : ℕ) : ℕ :=
  (rank.m_bankTabRightsAndSlots[tabId]?).elim 0 GuildBankRightsAndSlots.rights

def GetBankTabSlotsPerDay (rank : RankInfo) (tabId : ℕ) : ℤ :=
  (rank.m_bankTabRightsAndSlots[tabId]?).elim 0 fun rightsAndSlots => int32 rightsAndSlots.slots

def GetBankMoneyPerDay (rank : RankInfo) : ℤ := int32 rank.m_bankMoneyPerDay

end RankInfo

namespace Member

def new (rankId : ℕ) : Member := ⟨rankId, List.replicate (GUILD_BANK_MAX_TABS + 1) 0⟩

def IsRank (member : Member) (rankId : ℕ) : Bool := member.m_rankId = rankId

def IsRankNotLower (member : Member) (rankId : ℕ) : Bool := member.m_rankId ≤ rankId

def ChangeRank (member : Member) (newRank : ℕ) : Member := { member with m_rankId := newRank }

def GetBankWithdrawValue (member : Member) (tabId : ℕ) : ℤ :=
  if member.IsRank GR_GUILDMASTER then
    int32 (if tabId = GUILD_BANK_MAX_TABS then GUILD_WITHDRAW_MONEY_UNLIMITED
      else GUILD_WITHDRAW_SLOT_UNLIMITED)
  else member.m_bankWithdraw.getD tabId 0

def UpdateBankWithdrawValue (member : Member) (tabId amount : ℕ) : Member :=
  { member with
    m_bankWithdraw := member.m_bankWithdraw.modify tabId fun value => int32 (value + amount) }

end Member

namespace Guild

variable (guild : Guild)

def _GetRanksSize : ℕ := uint8 guild.m_ranks.length

def _GetLowestRankId : ℕ := toUint8 ((guild.m_ranks.length : ℤ) - 1)

def GetRankInfo (rankId : ℕ) : Option RankInfo :=
  if rankId < guild._GetRanksSize then guild.m_ranks[rankId]? else none

def GetMember (guid : ℕ) : Option Member := guild.m_members.find? guid

def _GetRankRights (rankId : ℕ) : ℕ := (guild.GetRankInfo rankId).elim 0 RankInfo.m_rights

def _GetRankBankMoneyPerDay (rankId : ℕ) : ℤ :=
  (guild.GetRankInfo rankId).elim 0 RankInfo.GetBankMoneyPerDay

def _GetRankBankTabSlotsPerDay (rankId tabId : ℕ) : ℤ :=
  if tabId < guild.m_bankTabs then
    (guild.GetRankInfo rankId).elim 0 fun rank => rank.GetBankTabSlotsPerDay tabId
  else 0

def _GetRankBankTabRights (rankId tabId : ℕ) : ℕ :=
  (guild.GetRankInfo rankId).elim 0 fun rank => rank.GetBankTabRights tabId

def _HasRankRight (player right : ℕ) : Bool :=
  (guild.GetMember player).any fun member =>
    guild._GetRankRights member.m_rankId &&& right ≠ GR_RIGHT_EMPTY

def _IsLeader (player : ℕ) : Bool :=
  player = guild.m_leaderGuid ||
    (guild.GetMember player).any fun member => member.IsRank GR_GUILDMASTER

def setMember (guid : ℕ) (member : Member) : Guild :=
  { guild with m_members := guild.m_members.insert guid member }

def _SetLeaderGUID (guid : ℕ) (pLeader : Member) : Guild :=
  { guild with m_leaderGuid := guid }.setMember guid (pLeader.ChangeRank GR_GUILDMASTER)

def _CreateRank (rights : ℕ) : Guild :=
  if GUILD_RANKS_MAX_COUNT ≤ guild._GetRanksSize then guild
  else
    { guild with
      m_ranks := guild.m_ranks ++ [RankInfo.new guild._GetRanksSize rights 0 guild.m_bankTabs] }

def chatRights : ℕ := GR_RIGHT_GCHATLISTEN ||| GR_RIGHT_GCHATSPEAK

def _CreateDefaultGuildRanks : Guild :=
  ((((guild._CreateRank GR_RIGHT_ALL)._CreateRank GR_RIGHT_ALL)._CreateRank
    chatRights)._CreateRank chatRights)._CreateRank chatRights

def HandleAddNewRank (player : ℕ) : Guild :=
  if GUILD_RANKS_MAX_COUNT ≤ guild._GetRanksSize then guild
  else if guild._IsLeader player then guild._CreateRank chatRights
  else guild

/-- The checks of `HandleRemoveRank`. -/
def mayRemoveRank (player rankId : ℕ) : Bool :=
  GUILD_RANKS_MIN_COUNT < guild._GetRanksSize && rankId < guild._GetRanksSize &&
    guild._IsLeader player

def HandleRemoveRank (player rankId : ℕ) : Guild :=
  if guild.mayRemoveRank player rankId then
    { guild with m_ranks := guild.m_ranks.take rankId }
  else guild

def HandleUpdateMemberRank (player target : ℕ) (demote : Bool) : Guild :=
  if !guild._HasRankRight player (if demote then GR_RIGHT_DEMOTE else GR_RIGHT_PROMOTE) then guild
  else
    match guild.GetMember target, guild.GetMember player with
    | some member, some memberMe =>
      if target = player then guild
      else if demote then
        if member.IsRankNotLower memberMe.m_rankId ||
            guild._GetLowestRankId ≤ member.m_rankId then guild
        else guild.setMember target (member.ChangeRank (uint8 (member.m_rankId + 1)))
      else if member.IsRankNotLower (uint8 (memberMe.m_rankId + 1)) then guild
      else guild.setMember target (member.ChangeRank (toUint8 ((member.m_rankId : ℤ) - 1)))
    | _, _ => guild

/-! ## Members come and go -/

/-- `allowed` says that the character is in no guild and, if he is not online, that
his data was found. -/
def AddMember (guid rankId : ℕ) (allowed : Bool) : Guild :=
  if !allowed || guid ∈ guild.m_members then guild
  else
    guild.setMember guid
      (Member.new (if rankId = GUILD_RANK_NONE then guild._GetLowestRankId else rankId))

/-- The first member of the highest rank, without the one that leaves. -/
def newLeader (leaving : ℕ) : List (ℕ × Member) → Option (ℕ × Member) → Option (ℕ × Member)
  | [], found => found
  | entry :: entries, found =>
    if entry.1 = leaving then newLeader leaving entries found
    else
      match found with
      | none => newLeader leaving entries (some entry)
      | some best =>
        newLeader leaving entries
          (some (if entry.2.m_rankId < best.2.m_rankId then entry else best))

def DeleteMember (guid : ℕ) : Option Guild :=
  if guild.m_leaderGuid = guid then
    (newLeader guid guild.m_members.entries none).map fun leader =>
      let guild := guild._SetLeaderGUID leader.1 leader.2
      { guild with m_members := guild.m_members.erase guid }
  else
    some { guild with m_members := guild.m_members.erase guid }

/-! ## Requests of members -/

def HandleSetLeader (player target : ℕ) : Guild :=
  if !guild._IsLeader player then guild
  else
    match guild.GetMember player, guild.GetMember target with
    | some _, some pNewLeader =>
      let guild := guild._SetLeaderGUID target pNewLeader
      match guild.GetMember player with
      | none => guild
      | some pOldLeader => guild.setMember player (pOldLeader.ChangeRank GR_OFFICER)
    | _, _ => guild

/-- `allowed` says that the character may join the guild of this leader. -/
def HandleAcceptMember (player : ℕ) (allowed : Bool) : Guild :=
  guild.AddMember player GUILD_RANK_NONE allowed

def HandleLeaveMember (player : ℕ) : Option Guild :=
  if guild._IsLeader player then
    if 1 < guild.m_members.size then some guild else none
  else guild.DeleteMember player

def HandleRemoveMember (player target : ℕ) : Option Guild :=
  if !guild._HasRankRight player GR_RIGHT_REMOVE then some guild
  else
    match guild.GetMember target with
    | none => some guild
    | some member =>
      if member.IsRank GR_GUILDMASTER then some guild
      else
        match guild.GetMember player with
        | none => some guild
        | some memberMe =>
          if member.IsRankNotLower memberMe.m_rankId then some guild
          else guild.DeleteMember target

/-! ## The guild at the start -/

def bare (leader tabs : ℕ) : Guild :=
  { m_leaderGuid := leader
    m_ranks := []
    m_members := StdMap.empty
    m_bankMoney := 0
    m_bankTabs := tabs
    m_items := StdMap.empty }

/-- `Create`, for a leader that can join. -/
def Create (leader initialTabs : ℕ) : Guild :=
  let guild := (bare leader 0)._CreateDefaultGuildRanks.AddMember leader GR_GUILDMASTER true
  { guild with
    m_bankTabs := initialTabs
    m_ranks := guild.m_ranks.map (RankInfo.createMissingTabs · initialTabs) }

def ranksAreBroken : Bool :=
  guild._GetRanksSize < GUILD_RANKS_MIN_COUNT || GUILD_RANKS_MAX_COUNT < guild._GetRanksSize ||
    (List.range guild._GetRanksSize).any fun rankId =>
      (guild.GetRankInfo rankId).any fun rank => rank.m_rankId ≠ rankId

def validateRanks : Guild :=
  if guild.ranksAreBroken then { guild with m_ranks := [] }._CreateDefaultGuildRanks
  else
    { guild with
      m_ranks := guild.m_ranks.map (RankInfo.createMissingTabs · guild.m_bankTabs) }

def validateMembers : Guild :=
  { guild with
    m_members := guild.m_members.mapValues fun _ member =>
      if guild._GetRanksSize < member.m_rankId then member.ChangeRank guild._GetLowestRankId
      else member }

def validateLeader : Option Guild :=
  match guild.GetMember guild.m_leaderGuid with
  | none => guild.DeleteMember guild.m_leaderGuid
  | some pLeader =>
    if pLeader.IsRank GR_GUILDMASTER then some guild
    else some (guild._SetLeaderGUID guild.m_leaderGuid pLeader)

def validateGuildMasters (allowMultipleGuildMaster : Bool) : Guild :=
  if allowMultipleGuildMaster then guild
  else
    { guild with
      m_members := guild.m_members.mapValues fun guid member =>
        if member.m_rankId = GR_GUILDMASTER ∧ guid ≠ guild.m_leaderGuid then
          member.ChangeRank GR_OFFICER
        else member }

def Validate (allowMultipleGuildMaster : Bool) : Option Guild :=
  guild.validateRanks.validateMembers.validateLeader.map
    (validateGuildMasters · allowMultipleGuildMaster)

end Guild

end AzerothCore.Guilds

/-!
## The guild bank

An item is moved between two sides, each a slot of a bank tab or a position of
the player. Each side checks what it can store before anything is removed. The
money of the bank is a number next to what each member has taken.
-/

namespace AzerothCore.Guilds

open Pouring Storage

structure BankEnv where
  data : GameData
  checks : ItemChecks
  /-- The duration in the template of an entry. -/
  Duration : ℕ → ℕ

structure MoveState where
  guild : Guild
  player : Storage.Player
  nextItemGuid : ℕ

def GetMaxStackCount (data : GameData) (item : Item) : ℕ :=
  (data.GetTemplate item).elim 0 ItemTemplate.GetMaxStackSize

def nobody : Storage.Player := ⟨0, 0, StdMap.empty⟩

namespace Guild

variable (guild : Guild)

/-! ## Rights and limits -/

def _MemberHasTabRights (guid tabId rights : ℕ) : Bool :=
  (guild.GetMember guid).any fun member =>
    member.IsRank GR_GUILDMASTER || guild.m_leaderGuid = guid ||
      guild._GetRankBankTabRights member.m_rankId tabId &&& rights = rights

def _GetMemberRemainingSlots (member : Member) (tabId : ℕ) : ℤ :=
  if member.m_rankId = GR_GUILDMASTER then int32 GUILD_WITHDRAW_SLOT_UNLIMITED
  else if guild._GetRankBankTabRights member.m_rankId tabId &&& GUILD_BANK_RIGHT_VIEW_TAB ≠ 0 then
    max 0 (int32 (guild._GetRankBankTabSlotsPerDay member.m_rankId tabId -
      member.GetBankWithdrawValue tabId))
  else 0

def _GetMemberRemainingMoney (member : Member) : ℤ :=
  if member.m_rankId = GR_GUILDMASTER then int32 GUILD_WITHDRAW_MONEY_UNLIMITED
  else if guild._GetRankRights member.m_rankId &&&
      (GR_RIGHT_WITHDRAW_REPAIR ||| GR_RIGHT_WITHDRAW_GOLD) ≠ 0 then
    max 0 (int32 (guild._GetRankBankMoneyPerDay member.m_rankId -
      member.GetBankWithdrawValue GUILD_BANK_MAX_TABS))
  else 0

def _UpdateMemberWithdrawSlots (guid tabId : ℕ) : Guild :=
  match guild.GetMember guid with
  | none => guild
  | some member =>
    if member.m_rankId ≠ GR_GUILDMASTER ∧ member.GetBankWithdrawValue tabId <
          guild._GetRankBankTabSlotsPerDay member.m_rankId tabId then
      guild.setMember guid (member.UpdateBankWithdrawValue tabId 1)
    else guild

/-! ## The slots of the bank -/

def hasSlot (tabId slotId : ℕ) : Bool := tabId < guild.m_bankTabs && slotId < GUILD_BANK_MAX_SLOTS

def _GetItem (tabId slotId : ℕ) : Option Item :=
  if guild.hasSlot tabId slotId then guild.m_items.find? (toLex (tabId, slotId)) else none

def setSlot (tabId slotId : ℕ) (item : Item) : Guild :=
  if guild.hasSlot tabId slotId then
    { guild with m_items := guild.m_items.insert (toLex (tabId, slotId)) item }
  else guild

def _RemoveItem (tabId slotId : ℕ) : Guild :=
  if guild.hasSlot tabId slotId then
    { guild with m_items := guild.m_items.erase (toLex (tabId, slotId)) }
  else guild

/-- `BankTab::SetItem` -/
def SetItem (tabId slotId : ℕ) (item : Item) : Guild :=
  guild.setSlot tabId slotId { item with owner := 0 }

/-- `BankMoveItemData::_StoreItem` -/
def _StoreItem (data : GameData) (tabId : ℕ) (pItem : Item) (slotId count : ℕ) (clone : Bool)
    (guild : Guild) (nextItemGuid : ℕ) : Guild × ℕ :=
  match guild._GetItem tabId slotId with
  | some pItemDest =>
    (guild.setSlot tabId slotId { pItemDest with count := uint32 (pItemDest.count + count) },
      nextItemGuid)
  | none =>
    if clone then
      match data.CloneItem pItem count nobody nextItemGuid with
      | none => (guild, nextItemGuid)
      | some newItem => (guild.SetItem tabId slotId newItem, nextItemGuid + 1)
    else
      (guild.SetItem tabId slotId { pItem with count := count }, nextItemGuid)

/-- `BankMoveItemData::StoreItem` -/
def StoreItem (data : GameData) (tabId : ℕ) (pItem : Item) : ItemPosCountVec → Guild → ℕ → Guild × ℕ
  | [], guild, nextItemGuid => (guild, nextItemGuid)
  | [(pos, count)], guild, nextItemGuid =>
    guild._StoreItem data tabId pItem pos.slot count false nextItemGuid
  | (pos, count) :: next :: dest, guild, nextItemGuid =>
    let stored := guild._StoreItem data tabId pItem pos.slot count true nextItemGuid
    StoreItem data tabId pItem (next :: dest) stored.1 stored.2

def tabPos (slotId : ℕ) : ItemPos := ⟨0, slotId⟩

/-- The space that `_ReserveSpace` finds in a slot. -/
def slotSpace (data : GameData) (pItem : Item) : Option Item → Option ℕ
  | none => some (GetMaxStackCount data pItem)
  | some pItemDest =>
    if pItemDest.entry ≠ pItem.entry ∨ GetMaxStackCount data pItem ≤ pItemDest.count then none
    else some (GetMaxStackCount data pItem - pItemDest.count)

/-- The slots that `CanStoreItemInTab` comes to, with the space in each. The item that
moves is not seen. -/
def tabOffers (data : GameData) (tabId : ℕ) (pItem : Item) (skipSlotId : ℕ) (merge : Bool) :
    Offers :=
  (List.range GUILD_BANK_MAX_SLOTS).filterMap fun slotId =>
    let pItemDest := (guild._GetItem tabId slotId).filter fun item => item.guid ≠ pItem.guid
    if slotId = skipSlotId ∨ pItemDest.isSome ≠ merge then none
    else (slotSpace data pItem pItemDest).map (tabPos slotId, ·)

def CanStoreItemInTab (data : GameData) (tabId : ℕ) (pItem : Item) (skipSlotId : ℕ)
    (merge : Bool) (poured : Poured ItemPos) : Poured ItemPos :=
  if poured.left = 0 then poured
  else pour (guild.tabOffers data tabId pItem skipSlotId merge) poured

/-- `CanStore`, after the slot that was asked for. -/
def storeInTab (data : GameData) (tabId slotId : ℕ) (pItem : Item) (poured : Poured ItemPos) :
    InventoryResult × ItemPosCountVec :=
  let merged :=
    if 1 < GetMaxStackCount data pItem then
      guild.CanStoreItemInTab data tabId pItem slotId true poured
    else poured
  let stored := guild.CanStoreItemInTab data tabId pItem slotId false merged
  (if stored.left = 0 then .EQUIP_ERR_OK else .EQUIP_ERR_BANK_FULL, stored.taken)

/-- `BankMoveItemData::CanStore` -/
def CanStore (env : BankEnv) (tabId slotId : ℕ) (pItem : Item) (swap : Bool) :
    InventoryResult × ItemPosCountVec :=
  if pItem.soulBound then (.EQUIP_ERR_CANT_DROP_SOULBOUND, [])
  else if 0 < env.Duration pItem.entry then (.EQUIP_ERR_ITEMS_CANT_BE_SWAPPED, [])
  else if guild.m_bankTabs ≤ tabId then (.EQUIP_ERR_ITEM_DOESNT_GO_INTO_BAG, [])
  else if slotId = NULL_SLOT then guild.storeInTab env.data tabId slotId pItem ⟨[], pItem.count⟩
  else
    match slotSpace env.data pItem ((guild._GetItem tabId slotId).filter fun item =>
        item.guid ≠ pItem.guid && !swap) with
    | none => (.EQUIP_ERR_ITEM_CANT_STACK, [])
    | some space =>
      let poured := (⟨[], pItem.count⟩ : Poured ItemPos).put (tabPos slotId) space
      if poured.left = 0 then (.EQUIP_ERR_OK, poured.taken)
      else guild.storeInTab env.data tabId slotId pItem poured

def _ModifyBankMoney (amount : ℕ) (add : Bool) : Guild :=
  if add then { guild with m_bankMoney := guild.m_bankMoney + amount }
  else if guild.m_bankMoney < amount then guild
  else { guild with m_bankMoney := guild.m_bankMoney - amount }

def HandleMemberDepositMoney (money amount : ℕ) : Guild × ℕ :=
  if GUILD_BANK_MONEY_LIMIT - amount < guild.m_bankMoney then (guild, money)
  else (guild._ModifyBankMoney amount true, ModifyMoney money (-int32 amount))

def HandleMemberWithdrawMoney (guid money amount : ℕ) (repair : Bool) : Guild × ℕ × Option ℕ :=
  let amount := min amount MAX_MONEY_AMOUNT
  if guild.m_bankMoney < amount then (guild, money, none)
  else
    match guild.GetMember guid with
    | none => (guild, money, none)
    | some member =>
      if toUint32 (guild._GetMemberRemainingMoney member) < amount then (guild, money, none)
      else if !repair && tooMuchMoney money (int32 amount) then (guild, money, none)
      else
        let charged := guild.setMember guid
          (member.UpdateBankWithdrawValue GUILD_BANK_MAX_TABS amount)
        (charged._ModifyBankMoney amount false,
          if repair then money else ModifyMoney money (int32 amount), some amount)

end Guild

structure MoveItemData where
  IsBank : Bool
  m_container : ℕ
  m_slotId : ℕ

namespace MoveItemData

variable (env : BankEnv) (side other : MoveItemData) (state : MoveState)

def pos : ItemPos := ⟨side.m_container, side.m_slotId⟩

def slotItem : Option Item :=
  if side.IsBank then state.guild._GetItem side.m_container side.m_slotId
  else state.player.GetItemByPos env.data side.pos

def InitItem : Option Item :=
  (side.slotItem env state).filter fun item => side.IsBank ||
    !state.player.IsNotEmptyBag env.data item &&
      state.player.CanBeTraded env.data env.checks side.pos item false false

def CheckItem (pItem : Item) (splitedAmount : ℕ) : Option ℕ :=
  if pItem.count < splitedAmount then none
  else some (if splitedAmount = pItem.count then 0 else splitedAmount)

def sameTab : Bool := other.IsBank && other.m_container = side.m_container

def HasStoreRights : Bool :=
  !side.IsBank || side.sameTab other ||
    state.guild._MemberHasTabRights state.player.guid side.m_container
      GUILD_BANK_RIGHT_DEPOSIT_ITEM

def HasWithdrawRights : Bool :=
  !side.IsBank || side.sameTab other || (state.guild.GetMember state.player.guid).any fun member =>
      state.guild._GetMemberRemainingSlots member side.m_container ≠ 0

def CanStore (pItem : Item) (swap : Bool) : InventoryResult × ItemPosCountVec :=
  if side.IsBank then state.guild.CanStore env side.m_container side.m_slotId pItem swap
  else
    let check := state.player.CanStoreItem env.data side.m_container side.m_slotId [] pItem.entry
      pItem.count (some pItem) swap
    (check.result, check.dest)

def removeFromSlot (splitedAmount : ℕ) : MoveState :=
  match side.slotItem env state with
  | none => state
  | some item =>
    if side.IsBank then
      { state with
        guild :=
          if splitedAmount ≠ 0 then
            state.guild.setSlot side.m_container side.m_slotId
              { item with count := item.count - splitedAmount }
          else state.guild._RemoveItem side.m_container side.m_slotId }
    else
      { state with
        player :=
          if splitedAmount ≠ 0 then
            state.player.setItem env.data side.pos
              { item with count := item.count - splitedAmount }
          else state.player.MoveItemFromInventory env.data side.pos }

/-- An item that leaves a tab counts for the member. -/
def RemoveItem (splitedAmount : ℕ) : MoveState :=
  let removed := side.removeFromSlot env state splitedAmount
  if side.IsBank && !side.sameTab other then
    { removed with
      guild := removed.guild._UpdateMemberWithdrawSlots state.player.guid side.m_container }
  else removed

def StoreItem (dest : ItemPosCountVec) (pItem : Item) : MoveState :=
  if side.IsBank then
    if state.guild.m_bankTabs ≤ side.m_container then state
    else
      let stored := state.guild.StoreItem env.data side.m_container pItem dest state.nextItemGuid
      { state with guild := stored.1, nextItemGuid := stored.2 }
  else
    let stored := state.player.MoveItemToInventory env.data dest pItem state.nextItemGuid
    { state with player := stored.1, nextItemGuid := stored.2 }

end MoveItemData

namespace MoveState

variable (env : BankEnv) (state : MoveState)

/-- Both sides are asked for room first. The item of the destination is given when the
two are swapped. -/
def _DoItemsMove (pSrc pDest : MoveItemData) (pSrcItem : Item) (pDestItem : Option Item)
    (splitedAmount : ℕ) : Option MoveState :=
  let room := pDest.CanStore env state pSrcItem pDestItem.isSome
  if room.1 ≠ .EQUIP_ERR_OK then none
  else
    match pDestItem with
    | none =>
      some (pDest.StoreItem env (pSrc.RemoveItem env pDest state splitedAmount) room.2 pSrcItem)
    | some pDestItem =>
      let roomBack := pSrc.CanStore env state pDestItem true
      if roomBack.1 ≠ .EQUIP_ERR_OK then none
      else
        let removed := pDest.RemoveItem env pSrc (pSrc.RemoveItem env pDest state splitedAmount) 0
        some (pSrc.StoreItem env (pDest.StoreItem env removed room.2 pSrcItem) roomBack.2
          pDestItem)

/-- `_MoveItems` without a split. -/
def moveOrSwap (pSrc pDest : MoveItemData) (pItem : Item) : Option MoveState :=
  match state._DoItemsMove env pSrc pDest pItem none 0 with
  | some moved => some moved
  | none =>
    (pDest.InitItem env state).bind fun pDestItem =>
      if pSrc.HasStoreRights pDest state && pDest.HasWithdrawRights pSrc state then
        state._DoItemsMove env pSrc pDest pItem (some pDestItem) 0
      else none

def _MoveItems (pSrc pDest : MoveItemData) (splitedAmount : ℕ) : MoveState × Bool :=
  match (pSrc.InitItem env state).bind fun pItem =>
      (MoveItemData.CheckItem pItem splitedAmount).map (pItem, ·) with
  | none => (state, false)
  | some (pItem, splitedAmount) =>
    if !pDest.HasStoreRights pSrc state || !pSrc.HasWithdrawRights pDest state then (state, false)
    else if splitedAmount ≠ 0 then
      match env.data.CloneItem pItem splitedAmount nobody state.nextItemGuid with
      | none => (state, false)
      | some pClonedItem =>
        let cloned := { state with nextItemGuid := state.nextItemGuid + 1 }
        ((cloned._DoItemsMove env pSrc pDest pClonedItem none splitedAmount).getD cloned,
          (cloned._DoItemsMove env pSrc pDest pClonedItem none splitedAmount).isSome)
    else
      ((state.moveOrSwap env pSrc pDest pItem).getD state,
        (state.moveOrSwap env pSrc pDest pItem).isSome)

def SwapItems (tabId slotId destTabId destSlotId splitedAmount : ℕ) : MoveState × Bool :=
  if !state.guild.hasSlot tabId slotId || !state.guild.hasSlot destTabId destSlotId ||
      tabId = destTabId && slotId = destSlotId then
    (state, false)
  else
    state._MoveItems env ⟨true, tabId, slotId⟩ ⟨true, destTabId, destSlotId⟩ splitedAmount

def SwapItemsWithInventory (toChar : Bool)
    (tabId slotId playerBag playerSlotId splitedAmount : ℕ) : MoveState × Bool :=
  if GUILD_BANK_MAX_SLOTS ≤ slotId ∧ slotId ≠ NULL_SLOT ∨ state.guild.m_bankTabs ≤ tabId then
    (state, false)
  else if toChar then
    state._MoveItems env ⟨true, tabId, slotId⟩ ⟨false, playerBag, playerSlotId⟩ splitedAmount
  else
    state._MoveItems env ⟨false, playerBag, playerSlotId⟩ ⟨true, tabId, slotId⟩ splitedAmount

end MoveState

end AzerothCore.Guilds

/-! ## What the bank stores -/

namespace AzerothCore.Guilds

open List Option Nat
open Pouring Storage

variable {data : GameData} {env : BankEnv} {guild : Guild} {pItem item : Item}
  {tabId slotId count : ℕ} {pos : ItemPos}

inductive MoveLocation where
  | bank (slot : BankSlot)
  | own (place : Place)

def moveStore : ItemStore MoveState MoveLocation where
  itemAt state
    | .bank slot => state.guild.m_items.find? slot
    | .own place => state.player.items.find? place
  total state entry := state.guild.m_items.sumValues (Item.weight entry) + state.player.total entry
  nextItemGuid := MoveState.nextItemGuid

theorem moveStore_embeds (state : MoveState) : Embeds moveStore
      (fun player nextItemGuid => { state with player := player, nextItemGuid := nextItemGuid })
      .own where
  itemAt _ _ _ := rfl
  others player player' _ _ location hother := by
    cases location with
    | bank slot => rfl
    | own place => exact absurd rfl (hother place)
  total player player' _ _ entry := by
    simp only [moveStore]
    omega
  next _ _ := rfl
  injective _ _ heq := MoveLocation.own.inj heq

theorem updated_bank {before after : MoveState} {slot : BankSlot} {new : Option Item}
    (hplayer : after.player = before.player)
    (hfind : ∀ other, after.guild.m_items.find? other =
      if slot = other then new else before.guild.m_items.find? other)
    (htotal : ∀ entry, after.guild.m_items.sumValues (Item.weight entry) +
        (before.guild.m_items.find? slot).elim 0 (Item.weight entry) =
      before.guild.m_items.sumValues (Item.weight entry) + new.elim 0 (Item.weight entry))
    (hnext : before.nextItemGuid ≤ after.nextItemGuid) :
    moveStore.Updated before (.bank slot) new after where
  itemAt other := by
    cases other with
    | own place =>
      rw [if_neg nofun]
      exact congrArg (fun player : Storage.Player => player.items.find? place) hplayer
    | bank other =>
      refine (hfind other).trans ?_
      by_cases heq : slot = other
      · rw [if_pos heq, if_pos (congrArg MoveLocation.bank heq.symm)]
      · rw [if_neg heq, if_neg fun hsame => heq (MoveLocation.bank.inj hsame).symm]
        rfl
  total entry := by
    have hbank := htotal entry
    simp only [moveStore, hplayer]
    omega
  next := hnext

theorem sumValues_insert_add (items : StdMap BankSlot Item) (slot : BankSlot) (item : Item)
    (entry : ℕ) :
    (items.insert slot item).sumValues (Item.weight entry) +
        (items.find? slot).elim 0 (Item.weight entry) =
      items.sumValues (Item.weight entry) + item.weight entry := by
  rw [StdMap.sumValues_insert]
  cases hfind : items.find? slot with
  | none =>
    rw [StdMap.erase_of_not_mem (StdMap.find?_eq_none_iff.mp hfind), elim_none]
    omega
  | some old =>
    rw [← StdMap.sumValues_erase (Item.weight entry) hfind, elim_some]
    omega

theorem sumValues_erase_add {items : StdMap BankSlot Item} {slot : BankSlot}
    (hitem : items.find? slot = some item) (entry : ℕ) :
    (items.erase slot).sumValues (Item.weight entry) + item.weight entry =
      items.sumValues (Item.weight entry) := by
  rw [← StdMap.sumValues_erase (Item.weight entry) hitem]
  omega

namespace Guild

theorem GetItem_eq (hslot : guild.hasSlot tabId slotId = true) :
    guild._GetItem tabId slotId = guild.m_items.find? (toLex (tabId, slotId)) :=
  if_pos hslot

theorem setSlot_eq (hslot : guild.hasSlot tabId slotId = true) (item : Item) :
    guild.setSlot tabId slotId item =
      { guild with m_items := guild.m_items.insert (toLex (tabId, slotId)) item } :=
  if_pos hslot

theorem hasSlot_of_item (hitem : guild._GetItem tabId slotId = some item) :
    guild.hasSlot tabId slotId = true := by
  unfold _GetItem at hitem
  split at hitem
  case isTrue hslot => exact hslot
  case isFalse => cases hitem

end Guild

theorem updated_setSlot {state : MoveState} (hslot : state.guild.hasSlot tabId slotId = true)
    (item : Item) {nextItemGuid : ℕ} (hnext : state.nextItemGuid ≤ nextItemGuid) :
    moveStore.Updated state (.bank (toLex (tabId, slotId))) (some item)
      { state with
        guild := state.guild.setSlot tabId slotId item, nextItemGuid := nextItemGuid } := by
  rw [Guild.setSlot_eq hslot]
  exact updated_bank rfl (fun other => state.guild.m_items.find?_insert ..)
    (sumValues_insert_add state.guild.m_items _ item) hnext

namespace Guild

/-- A number of items of the kind of `pItem` can go into a slot with this item. -/
structure SlotFits (data : GameData) (pItem : Item) (found : Option Item) (count : ℕ) : Prop where
  mergeable : ∀ item, found = some item → item.entry = pItem.entry
  room : found.elim 0 Item.count + count ≤ GetMaxStackCount data pItem

theorem slotSpace_fits {found : Option Item} {space : ℕ}
    (hspace : slotSpace data pItem found = some space) (hcount : count ≤ space) :
    SlotFits data pItem found count := by
  unfold slotSpace at hspace
  split at hspace
  · cases hspace
    exact ⟨nofun, (Nat.zero_add count).trans_le hcount⟩
  rename_i pItemDest
  split at hspace
  · cases hspace
  rename_i hmatch
  cases hspace
  obtain ⟨hentry, hlt⟩ := not_or.mp hmatch
  refine ⟨?_, ?_⟩
  · rintro item heq
    exact some.inj heq ▸ not_not.mp hentry
  · rw [elim_some]
    omega

/-- What `CanStore` sees in a slot when nothing is swapped. -/
def seen (guild : Guild) (tabId : ℕ) (pItem : Item) (slotId : ℕ) : Option Item :=
  (guild._GetItem tabId slotId).filter fun item => item.guid ≠ pItem.guid

structure SeenFits (data : GameData) (guild : Guild) (tabId : ℕ) (pItem : Item) (pos : ItemPos)
    (count : ℕ) : Prop where
  inTab : pos = tabPos pos.slot
  slot : pos.slot < GUILD_BANK_MAX_SLOTS
  fits : SlotFits data pItem (guild.seen tabId pItem pos.slot) count

theorem CanStoreItemInTab_pours (skipSlotId : ℕ) (merge : Bool) (poured : Poured ItemPos) :
    Pours (SeenFits data guild tabId pItem) poured
      (guild.CanStoreItemInTab data tabId pItem skipSlotId merge poured) := by
  unfold CanStoreItemInTab
  split
  · exact Pours.refl _ poured
  refine pours_pour (fun pos room hmem count hcount => ?_) poured
  obtain ⟨slotId, hslot, hoffer⟩ := mem_filterMap.mp hmem
  dsimp only at hoffer
  split at hoffer
  · cases hoffer
  obtain ⟨space, hspace, heq⟩ := map_eq_some_iff.mp hoffer
  obtain ⟨rfl, rfl⟩ := Prod.mk.inj heq
  exact ⟨rfl, mem_range.mp hslot, slotSpace_fits hspace hcount⟩

theorem storeInTab_pours (poured : Poured ItemPos)
    (hok : (guild.storeInTab data tabId slotId pItem poured).1 = .EQUIP_ERR_OK) :
    ∃ after, Pours (SeenFits data guild tabId pItem) poured after ∧ after.left = 0 ∧
      (guild.storeInTab data tabId slotId pItem poured).2 = after.taken := by
  have hmerged : Pours (SeenFits data guild tabId pItem) poured
      (if 1 < GetMaxStackCount data pItem then
        guild.CanStoreItemInTab data tabId pItem slotId true poured
      else poured) := by
    split
    · exact CanStoreItemInTab_pours slotId true poured
    · exact Pours.refl _ poured
  unfold storeInTab at hok ⊢
  dsimp only at hok ⊢
  generalize (if 1 < GetMaxStackCount data pItem then
    guild.CanStoreItemInTab data tabId pItem slotId true poured else poured) = merged
    at hmerged hok ⊢
  split at hok
  case isTrue hleft => exact ⟨_, hmerged.trans (CanStoreItemInTab_pours ..), hleft, rfl⟩
  case isFalse => cases hok

theorem CanStore_fits (hslot : slotId < GUILD_BANK_MAX_SLOTS ∨ slotId = NULL_SLOT)
    (hok : (guild.CanStore env tabId slotId pItem false).1 = .EQUIP_ERR_OK) :
    tabId < guild.m_bankTabs ∧ (places (guild.CanStore env tabId slotId pItem false).2).Nodup ∧
      amount (guild.CanStore env tabId slotId pItem false).2 = pItem.count ∧
      ∀ entry ∈ (guild.CanStore env tabId slotId pItem false).2,
        SeenFits env.data guild tabId pItem entry.1 entry.2 := by
  have hpoured : ∀ {after : Poured ItemPos}, after.left = 0 →
      Pours (SeenFits env.data guild tabId pItem) ⟨[], pItem.count⟩ after →
      (places after.taken).Nodup ∧ amount after.taken = pItem.count ∧
        ∀ entry ∈ after.taken, SeenFits env.data guild tabId pItem entry.1 entry.2 := by
    intro after hleft hpours
    have hamount := hpours.amount_add_left
    rw [hleft, Nat.add_zero] at hamount
    exact ⟨hpours.nodup nodup_nil, hamount,
      fun entry hmem => (hpours.fits entry hmem).resolve_left not_mem_nil⟩
  unfold CanStore at hok ⊢
  split_ifs at hok ⊢ with _ _ htab hnull
  · obtain ⟨after, hpours, hleft, htaken⟩ := storeInTab_pours _ hok
    rw [htaken]
    exact ⟨not_le.mp htab, hpoured hleft hpours⟩
  · refine ⟨not_le.mp htab, ?_⟩
    have hseen : ((guild._GetItem tabId slotId).filter fun item =>
        item.guid ≠ pItem.guid && !false) = guild.seen tabId pItem slotId := by
      simp only [Bool.not_false, Bool.and_true, seen]
    rw [hseen] at hok ⊢
    split at hok
    · cases hok
    rename_i space hspace
    have hput : Pours (SeenFits env.data guild tabId pItem) ⟨[], pItem.count⟩
        ((⟨[], pItem.count⟩ : Poured ItemPos).put (tabPos slotId) space) :=
      Pours.put not_mem_nil ⟨rfl, hslot.resolve_right hnull,
        slotSpace_fits hspace (Nat.min_le_left _ _)⟩
    dsimp only at hok ⊢
    split at hok
    case isTrue hleft =>
      rw [if_pos hleft]
      exact hpoured hleft hput
    case isFalse hleft =>
      rw [if_neg hleft]
      obtain ⟨after, hpours, hzero, htaken⟩ := storeInTab_pours _ hok
      rw [htaken]
      exact hpoured hzero (hput.trans hpours)

theorem CanStore_swap (hslot : slotId ≠ NULL_SLOT)
    (hstack : pItem.count ≤ GetMaxStackCount env.data pItem)
    (hok : (guild.CanStore env tabId slotId pItem true).1 = .EQUIP_ERR_OK) :
    tabId < guild.m_bankTabs ∧
      (guild.CanStore env tabId slotId pItem true).2 = [(tabPos slotId, pItem.count)] := by
  have hnone : ((guild._GetItem tabId slotId).filter fun item =>
      item.guid ≠ pItem.guid && !true) = none := by
    cases guild._GetItem tabId slotId with
    | none => rfl
    | some item =>
      simp
  unfold CanStore at hok ⊢
  split_ifs at hok ⊢ with _ _ htab
  refine ⟨not_le.mp htab, ?_⟩
  rw [hnone, slotSpace]
  dsimp only
  have hleft : ((⟨[], pItem.count⟩ : Poured ItemPos).put (tabPos slotId)
      (GetMaxStackCount env.data pItem)).left = 0 := by
    rw [Poured.put, Nat.min_eq_right hstack]
    exact Nat.sub_self _
  rw [if_pos hleft, Poured.put, Nat.min_eq_right hstack]
  rfl

/-! ## Storing in a tab -/

structure TabFits (data : GameData) (guild : Guild) (tabId : ℕ) (pItem : Item) (pos : ItemPos)
    (count : ℕ) : Prop where
  inTab : pos = tabPos pos.slot
  hasSlot : guild.hasSlot tabId pos.slot = true
  fits : SlotFits data pItem (guild._GetItem tabId pos.slot) count

theorem GetItem_setSlot (hslot : guild.hasSlot tabId slotId = true) (item : Item) {other : ℕ}
    (hne : other ≠ slotId) :
    (guild.setSlot tabId slotId item)._GetItem tabId other = guild._GetItem tabId other := by
  rw [setSlot_eq hslot]
  unfold _GetItem
  have hsame : ({ guild with
      m_items := guild.m_items.insert (toLex (tabId, slotId)) item } : Guild).hasSlot tabId
        other = guild.hasSlot tabId other := rfl
  rw [hsame]
  split
  case isFalse => rfl
  rw [StdMap.find?_insert, if_neg]
  intro heq
  exact hne (Prod.mk.inj (toLex.injective heq)).2.symm

theorem hasSlot_setSlot (item : Item) (other : ℕ) :
    (guild.setSlot tabId slotId item).hasSlot tabId other = guild.hasSlot tabId other := by
  unfold setSlot
  split <;> rfl

theorem TabFits.setSlot (hfits : TabFits data guild tabId pItem pos count)
    (hslot : guild.hasSlot tabId slotId = true) (item : Item) (hne : pos.slot ≠ slotId) :
    TabFits data (guild.setSlot tabId slotId item) tabId pItem pos count where
  inTab := hfits.inTab
  hasSlot := (hasSlot_setSlot item pos.slot).trans hfits.hasSlot
  fits := by
    rw [GetItem_setSlot hslot item hne]
    exact hfits.fits

section

variable {state : MoveState} {loose : List Item} (hholds : moveStore.Holds data state (pItem :: loose))
include hholds

theorem StoreItem_adds (hfits : TabFits data state.guild tabId pItem pos count) (clone : Bool) :
    count = 0 ∧ state.guild._StoreItem data tabId pItem pos.slot count clone state.nextItemGuid =
        (state.guild, state.nextItemGuid) ∨
      ∃ item nextItemGuid, state.guild._StoreItem data tabId pItem pos.slot count clone
          state.nextItemGuid = (state.guild.setSlot tabId pos.slot item, nextItemGuid) ∧
        moveStore.Adds data pItem count clone state
          { state with
            guild := state.guild.setSlot tabId pos.slot item, nextItemGuid := nextItemGuid } := by
  obtain ⟨pProto, hproto, -⟩ := hholds.looseWithin pItem mem_cons_self
  have hmax : GetMaxStackCount data pItem = pProto.GetMaxStackSize := by
    rw [GetMaxStackCount, hproto, elim_some]
  have hroom := hfits.fits.room
  rw [hmax] at hroom
  have hfind : moveStore.itemAt state (.bank (toLex (tabId, pos.slot))) =
      state.guild._GetItem tabId pos.slot := (GetItem_eq hfits.hasSlot).symm
  have hholdsCount : ∀ item : Item, item.entry = pItem.entry →
      item.count ≤ pProto.GetMaxStackSize → data.StackHolds item := by
    intro item hentry hle
    refine ⟨pProto, ?_, hle⟩
    rw [GameData.GetTemplate, hentry]
    exact hproto
  unfold _StoreItem
  cases hitem : state.guild._GetItem tabId pos.slot with
  | some pItemDest =>
    rw [hitem, elim_some] at hroom
    have hentry := hfits.fits.mergeable pItemDest hitem
    have hcount : uint32 (pItemDest.count + count) = pItemDest.count + count :=
      uint32_of_lt (hroom.trans_lt (maxStackSize_lt hproto))
    refine .inr ⟨_, _, rfl, .merged (hfind.trans hitem)
      (updated_setSlot hfits.hasSlot _ le_rfl) rfl rfl hentry hcount ?_⟩
    exact hholdsCount _ hentry (hcount.trans_le hroom)
  | none =>
    rw [hitem, elim_none, Nat.zero_add] at hroom
    have hnone := hfind.trans hitem
    rcases clone with _ | _
    · refine .inr ⟨_, _, rfl, .placed hnone (updated_setSlot hfits.hasSlot _ le_rfl) rfl rfl
        (hholdsCount _ rfl hroom) (hholds.looseGiven pItem mem_cons_self) rfl⟩
    rcases Nat.eq_zero_or_pos count with rfl | hpos
    · exact .inl ⟨rfl, by rfl⟩
    obtain ⟨newItem, hclone, hguid, hentry, hcount⟩ :=
      @CloneItem_eq data nobody _ _ _ hproto hpos hroom state.nextItemGuid
    rw [hclone]
    refine .inr ⟨_, _, rfl, .placed hnone
      (updated_setSlot hfits.hasSlot _ (le_succ _)) hentry hcount
      (hholdsCount _ hentry (hcount.trans_le hroom)) ?_ hguid⟩
    exact hguid.trans_lt (lt_succ_self _)

theorem receives_StoreItem {dest : ItemPosCountVec}
    (hnodup : (places dest).Nodup)
    (hfits : ∀ entry ∈ dest, TabFits data state.guild tabId pItem entry.1 entry.2) :
    moveStore.Receives data pItem (amount dest) state
      { state with
        guild := (state.guild.StoreItem data tabId pItem dest state.nextItemGuid).1
        nextItemGuid := (state.guild.StoreItem data tabId pItem dest state.nextItemGuid).2 } := by
  induction dest generalizing state with
  | nil => exact .nil state
  | cons entry dest ih =>
    obtain ⟨pos, count⟩ := entry
    have hhere := hfits (pos, count) mem_cons_self
    cases dest with
    | nil =>
      have hamount : amount [(pos, count)] = count := Nat.add_zero count
      rw [hamount, StoreItem]
      rcases StoreItem_adds hholds hhere false with
        ⟨rfl, hstored⟩ | ⟨item, nextItemGuid, hstored, hadds⟩
      · rw [hstored]
        exact .nil state
      · rw [hstored]
        exact .last hadds
    | cons next dest =>
      have hnext := (nodup_cons.mp hnodup).2
      have hamount : amount ((pos, count) :: next :: dest) = count + amount (next :: dest) :=
        rfl
      rw [hamount, StoreItem]
      rcases StoreItem_adds hholds hhere true with
        ⟨rfl, hstored⟩ | ⟨item, nextItemGuid, hstored, hadds⟩
      · rw [hstored, Nat.zero_add]
        exact ih hholds hnext fun entry hmem => hfits entry (mem_cons_of_mem _ hmem)
      rw [hstored]
      refine .cons hadds (ih (hadds.holds hholds) hnext fun entry hmem => ?_)
      have hother := hfits entry (mem_cons_of_mem _ hmem)
      refine hother.setSlot hhere.hasSlot item fun heq => ?_
      have hsame : entry.1 = pos := by
        rw [hother.inTab, heq]
        exact hhere.inTab.symm
      exact (nodup_cons.mp hnodup).1 (List.mem_map.mpr ⟨entry, hmem, hsame⟩)

end

theorem StoreItem_single (hslot : guild.hasSlot tabId slotId = true)
    (hnone : guild._GetItem tabId slotId = none) (nextItemGuid : ℕ) :
    guild.StoreItem data tabId pItem [(tabPos slotId, pItem.count)] nextItemGuid = ({ guild with
        m_items := guild.m_items.insert (toLex (tabId, slotId)) { pItem with owner := 0 } },
        nextItemGuid) := by
  have hstored : guild._StoreItem data tabId pItem slotId pItem.count false nextItemGuid =
      (guild.setSlot tabId slotId { pItem with owner := 0 }, nextItemGuid) := by
    rw [_StoreItem, hnone]
    rfl
  rw [setSlot_eq hslot] at hstored
  exact hstored

end Guild

end AzerothCore.Guilds

/-!
## The leader of a guild

The leader is recorded by his guid and by the first rank. What a request does to
the ranks of the members is one of a few changes, and each of them keeps the two
in step, but for a leader who names himself.
-/

namespace AzerothCore.Guilds

open List Option
open Reachability

inductive GuildRequest where
  | setLeader (target : ℕ)
  | updateMemberRank (target : ℕ) (demote : Bool)
  | removeMember (target : ℕ)
  | leave
  | accept (allowed : Bool)
  | addNewRank
  | removeRank (rankId : ℕ)

namespace Guild

variable {guild after : Guild} {player : ℕ} {request : GuildRequest}

def handle (guild : Guild) (player : ℕ) : GuildRequest → Option Guild
  | .setLeader target => some (guild.HandleSetLeader player target)
  | .updateMemberRank target demote => some (guild.HandleUpdateMemberRank player target demote)
  | .removeMember target => guild.HandleRemoveMember player target
  | .leave => guild.HandleLeaveMember player
  | .accept allowed => some (guild.HandleAcceptMember player allowed)
  | .addNewRank => some (guild.HandleAddNewRank player)
  | .removeRank rankId => some (guild.HandleRemoveRank player rankId)

def performRequest (guild : Guild) (op : ℕ × GuildRequest) : Option Guild :=
  guild.handle op.1 op.2

def rankOf (guild : Guild) (guid : ℕ) : Option ℕ := (guild.GetMember guid).map Member.m_rankId

/-- The leader is the only member of the first rank. Ranks are bytes. -/
structure Led (guild : Guild) : Prop where
  leader : guild.rankOf guild.m_leaderGuid = some GR_GUILDMASTER
  only : ∀ guid, guild.rankOf guid = some GR_GUILDMASTER → guid = guild.m_leaderGuid
  bytes : ∀ guid rank, guild.rankOf guid = some rank → rank < 2 ^ 8

def Ranked (guild after : Guild) (target : ℕ) (rank : Option ℕ) : Prop :=
  after.m_leaderGuid = guild.m_leaderGuid ∧
    ∀ guid, after.rankOf guid = if target = guid then rank else guild.rankOf guid

inductive RankChange (guild after : Guild) (player : ℕ) (request : GuildRequest) : Prop
  | same : after.m_leaderGuid = guild.m_leaderGuid →
      (∀ guid, after.rankOf guid = guild.rankOf guid) → RankChange guild after player request
  /-- Another member of a lower rank gets a rank that is lower, too, or leaves. -/
  | other {target mine old : ℕ} {new : Option ℕ} : target ≠ player →
      guild.rankOf player = some mine → guild.rankOf target = some old → mine < old →
      (∀ rank ∈ new, mine < rank ∧ rank < 2 ^ 8) → Ranked guild after target new →
      RankChange guild after player request
  | left : player ≠ guild.m_leaderGuid → Ranked guild after player none →
      RankChange guild after player request
  | joined {rank : ℕ} : rank ≠ GR_GUILDMASTER → rank < 2 ^ 8 → guild.rankOf player = none →
      Ranked guild after player (some rank) → RankChange guild after player request
  | newLeader {target : ℕ} : request = .setLeader target → target ≠ player →
      player = guild.m_leaderGuid →
      after.m_leaderGuid = target →
      (∀ guid, after.rankOf guid = if player = guid then some GR_OFFICER
        else if target = guid then some GR_GUILDMASTER else guild.rankOf guid) →
      RankChange guild after player request

variable {target : ℕ}

theorem Led.of_ranked (hled : guild.Led) {new : Option ℕ}
    (hranked : Ranked guild after target new) (hleader : target ≠ guild.m_leaderGuid)
    (hnew : ∀ rank ∈ new, rank ≠ GR_GUILDMASTER ∧ rank < 2 ^ 8) : after.Led := by
  obtain ⟨hsame, hranks⟩ := hranked
  refine ⟨?_, fun guid hrank => ?_, fun guid rank hrank => ?_⟩
  · rw [hsame, hranks, if_neg hleader]
    exact hled.leader
  · rw [hranks] at hrank
    split at hrank
    · exact absurd rfl (hnew GR_GUILDMASTER hrank).1
    · exact (hled.only guid hrank).trans hsame.symm
  · rw [hranks] at hrank
    split at hrank
    · exact (hnew rank hrank).2
    · exact hled.bytes guid rank hrank

theorem Led.of_change (hled : guild.Led) (hchange : RankChange guild after player request) :
    after.Led := by
  cases hchange with
  | same hleader hranks =>
    refine ⟨?_, fun guid hrank => ?_, fun guid rank hrank => ?_⟩
    · rw [hleader, hranks]
      exact hled.leader
    · rw [hranks] at hrank
      exact (hled.only guid hrank).trans hleader.symm
    · exact hled.bytes guid rank ((hranks guid).symm.trans hrank)
  | other _ _ hold hlower hnew hranked =>
    refine hled.of_ranked hranked ?_ fun rank hrank => ?_
    · rintro rfl
      obtain rfl := some.inj (hold.symm.trans hled.leader)
      exact absurd hlower (Nat.not_lt_zero _)
    · exact ⟨Nat.ne_zero_of_lt (hnew rank hrank).1, (hnew rank hrank).2⟩
  | left hother hranked => exact hled.of_ranked hranked hother nofun
  | joined hrank hbyte hnone hranked =>
    refine hled.of_ranked hranked ?_ fun rank hjoined => ?_
    · rintro rfl
      exact nomatch hnone.symm.trans hled.leader
    · exact some.inj hjoined ▸ ⟨hrank, hbyte⟩
  | newLeader _ hother hplayer hleader hranks =>
    refine ⟨?_, fun guid hrank => ?_, fun guid rank hrank => ?_⟩
    · rw [hranks, hleader, if_neg hother.symm, if_pos rfl]
    · rw [hranks] at hrank
      split at hrank
      · exact absurd (some.inj hrank) (by decide)
      rename_i hguid
      split at hrank
      case isTrue heq => exact heq.symm.trans hleader.symm
      case isFalse => exact absurd (hplayer.trans (hled.only guid hrank).symm) hguid
    · rw [hranks] at hrank
      split at hrank
      · exact some.inj hrank ▸ by decide
      split at hrank
      · exact some.inj hrank ▸ by decide
      · exact hled.bytes guid rank hrank

/-- A request does nothing to a member whose rank is not lower, and raises nobody to the
rank of whoever makes it, unless the leader gives his rank away. -/
def Respects (guild : Guild) (after : Option Guild) (player : ℕ) (request : GuildRequest) : Prop :=
  ∀ other mine rank, other ≠ player → guild.rankOf player = some mine →
    guild.rankOf other = some rank →
    (rank ≤ mine → after.bind (rankOf · other) = some rank) ∧
    ((∀ target, request ≠ .setLeader target) ∨ player ≠ guild.m_leaderGuid →
      ∀ new, after.bind (rankOf · other) = some new → new < rank → mine < new)

theorem RankChange.respects (hled : guild.Led)
    (hchange : RankChange guild after player request) :
    Respects guild (some after) player request := by
  intro other mine rank hother hmine hrank
  rw [bind_some]
  have hkept : after.rankOf other = guild.rankOf other →
      (rank ≤ mine → after.rankOf other = some rank) ∧
        ((∀ target, request ≠ .setLeader target) ∨ player ≠ guild.m_leaderGuid →
          ∀ new, after.rankOf other = some new → new < rank → mine < new) := by
    intro hsame
    rw [hsame, hrank]
    refine ⟨fun _ => rfl, fun _ new hnew hless => ?_⟩
    exact absurd hless (some.inj hnew ▸ lt_irrefl _)
  cases hchange with
  | same hleader hranks => exact hkept (hranks other)
  | @other target mine' old new _ hmine' hold hlower hnew hranked =>
    obtain rfl := some.inj (hmine.symm.trans hmine')
    by_cases heq : target = other
    · subst heq
      obtain rfl := some.inj (hold.symm.trans hrank)
      refine ⟨fun hle => absurd hlower (Nat.not_lt.mpr hle), fun _ found hfound _ => ?_⟩
      rw [hranked.2, if_pos rfl] at hfound
      exact (hnew found hfound).1
    · exact hkept ((hranked.2 other).trans (if_neg heq))
  | left _ hranked => exact hkept ((hranked.2 other).trans (if_neg hother.symm))
  | joined _ _ _ hranked => exact hkept ((hranked.2 other).trans (if_neg hother.symm))
  | newLeader hrequest hne hplayer hleader hranks =>
    subst hplayer
    obtain rfl := some.inj (hmine.symm.trans hled.leader)
    refine ⟨fun hle => ?_, fun hor => ?_⟩
    · obtain rfl : rank = GR_GUILDMASTER := Nat.le_zero.mp hle
      exact absurd (hled.only other hrank) hother
    · exact absurd rfl (hor.resolve_left fun hnone => hnone _ hrequest)

theorem rankOf_eq {guid : ℕ} {member : Member} (hmember : guild.GetMember guid = some member) :
    guild.rankOf guid = some member.m_rankId := congrArg (Option.map Member.m_rankId) hmember

theorem GetMember_setMember (guid other : ℕ) (member : Member) :
    (guild.setMember guid member).GetMember other =
      if guid = other then some member else guild.GetMember other :=
  guild.m_members.find?_insert guid other member

theorem ranked_setMember (guid : ℕ) (member : Member) :
    Ranked guild (guild.setMember guid member) guid (some member.m_rankId) := by
  refine ⟨rfl, fun other => ?_⟩
  rw [rankOf, GetMember_setMember]
  split
  · rfl
  · rfl

theorem ranked_DeleteMember {guid : ℕ} (hother : guid ≠ guild.m_leaderGuid) :
    ∃ after, guild.DeleteMember guid = some after ∧ Ranked guild after guid none := by
  refine ⟨{ guild with m_members := guild.m_members.erase guid }, if_neg hother.symm, rfl, ?_⟩
  intro other
  rw [rankOf, GetMember, StdMap.find?_erase]
  split
  · rfl
  · rfl

section

variable (hled : guild.Led)
include hled

theorem isLeader_iff : guild._IsLeader player = true ↔ player = guild.m_leaderGuid := by
  unfold _IsLeader
  rw [Bool.or_eq_true, decide_eq_true_eq, or_iff_left_iff_imp]
  intro hmaster
  obtain ⟨member, hmember, hrank⟩ := (Option.any_eq_true ..).mp hmaster
  exact hled.only player ((rankOf_eq hmember).trans (congrArg some (of_decide_eq_true hrank)))

theorem HandleSetLeader_change (hother : player = guild.m_leaderGuid → target ≠ player) :
    RankChange guild (guild.HandleSetLeader player target) player (.setLeader target) := by
  unfold HandleSetLeader
  by_cases hleader : guild._IsLeader player = true
  · rw [hleader, Bool.not_true, if_neg Bool.false_ne_true]
    rw [isLeader_iff hled] at hleader
    split
    case h_2 => exact .same rfl fun _ => rfl
    rename_i _ pNewLeader hme hnew
    have hold : (guild._SetLeaderGUID target pNewLeader).GetMember player =
        guild.GetMember player := (GetMember_setMember ..).trans (if_neg (hother hleader))
    dsimp only
    rw [hold, hme]
    refine .newLeader rfl (hother hleader) hleader rfl fun guid => ?_
    rw [(ranked_setMember player _).2]
    refine if_congr Iff.rfl rfl ?_
    exact (@ranked_setMember { guild with m_leaderGuid := target } target
      (pNewLeader.ChangeRank GR_GUILDMASTER)).2 guid
  · rw [Bool.not_eq_true] at hleader
    rw [hleader, Bool.not_false, if_pos rfl]
    exact .same rfl fun _ => rfl

theorem HandleUpdateMemberRank_change {demote : Bool}
    (hmine : demote = false → guild.rankOf player ≠ some 255) :
    RankChange guild (guild.HandleUpdateMemberRank player target demote) player request := by
  unfold HandleUpdateMemberRank
  by_cases hright :
      (!guild._HasRankRight player (if demote then GR_RIGHT_DEMOTE else GR_RIGHT_PROMOTE)) = true
  · rw [if_pos hright]
    exact .same rfl fun _ => rfl
  rw [if_neg hright]
  split
  case h_2 => exact .same rfl fun _ => rfl
  rename_i member memberMe hmember hme
  have hrank := hled.bytes target _ (rankOf_eq hmember)
  have hmyRank := hled.bytes player _ (rankOf_eq hme)
  split
  · exact .same rfl fun _ => rfl
  rename_i hother
  split
  · split
    · exact .same rfl fun _ => rfl
    rename_i hchecks
    rw [Bool.or_eq_true, not_or, decide_eq_true_eq, Member.IsRankNotLower,
      decide_eq_true_eq, not_le, not_le] at hchecks
    have hlowest : guild._GetLowestRankId < 2 ^ 8 := by
      unfold _GetLowestRankId toUint8
      omega
    have hnext : uint8 (member.m_rankId + 1) = member.m_rankId + 1 := uint8_of_lt (by omega)
    refine .other hother (rankOf_eq hme) (rankOf_eq hmember) hchecks.1 ?_
      (ranked_setMember target _)
    intro new hnew
    cases hnew
    change _ < uint8 (member.m_rankId + 1) ∧ uint8 (member.m_rankId + 1) < _
    omega
  case isFalse hpromote =>
    rw [Bool.not_eq_true] at hpromote
    split
    · exact .same rfl fun _ => rfl
    rename_i hchecks
    have hne : memberMe.m_rankId ≠ 255 := fun heq =>
      hmine hpromote ((rankOf_eq hme).trans (congrArg some heq))
    rw [Member.IsRankNotLower, decide_eq_true_eq, not_le, uint8_of_lt (by omega)] at hchecks
    refine .other hother (rankOf_eq hme) (rankOf_eq hmember) (by omega) ?_
      (ranked_setMember target _)
    intro new hnew
    cases hnew
    change _ < toUint8 ((member.m_rankId : ℤ) - 1) ∧ toUint8 ((member.m_rankId : ℤ) - 1) < _
    unfold toUint8
    omega

theorem HandleRemoveMember_change :
    ∃ after, guild.HandleRemoveMember player target = some after ∧
      RankChange guild after player request := by
  unfold HandleRemoveMember
  split
  · exact ⟨guild, rfl, .same rfl fun _ => rfl⟩
  split
  · exact ⟨guild, rfl, .same rfl fun _ => rfl⟩
  rename_i member hmember
  split
  · exact ⟨guild, rfl, .same rfl fun _ => rfl⟩
  rename_i hmaster
  split
  · exact ⟨guild, rfl, .same rfl fun _ => rfl⟩
  rename_i memberMe hme
  split
  · exact ⟨guild, rfl, .same rfl fun _ => rfl⟩
  rename_i hlower
  rw [Member.IsRankNotLower, decide_eq_true_eq, not_le] at hlower
  have hleader : target ≠ guild.m_leaderGuid := by
    rintro rfl
    have hrank := some.inj ((rankOf_eq hmember).symm.trans hled.leader)
    exact hmaster (decide_eq_true hrank)
  have hother : target ≠ player := by
    rintro rfl
    obtain rfl := some.inj (hmember.symm.trans hme)
    exact lt_irrefl _ hlower
  obtain ⟨after, hafter, hranked⟩ := ranked_DeleteMember hleader
  refine ⟨after, hafter, .other hother (rankOf_eq hme) (rankOf_eq hmember) hlower ?_
    hranked⟩
  exact nofun

theorem HandleLeaveMember_change :
    (∃ after, guild.HandleLeaveMember player = some after ∧ RankChange guild after player request) ∨
      guild.HandleLeaveMember player = none ∧
        ∀ other, other ≠ player → guild.rankOf other = none := by
  unfold HandleLeaveMember
  by_cases hleader : guild._IsLeader player = true
  · rw [if_pos hleader]
    rw [isLeader_iff hled] at hleader
    split
    · exact .inl ⟨guild, rfl, .same rfl fun _ => rfl⟩
    rename_i hsize
    refine .inr ⟨rfl, fun other hother => ?_⟩
    by_contra hsome
    obtain ⟨rank, hrank⟩ := ne_none_iff_exists'.mp hsome
    obtain ⟨member, hmember, -⟩ := map_eq_some_iff.mp hrank
    obtain ⟨me, hme, -⟩ := map_eq_some_iff.mp hled.leader
    have hthere := StdMap.find?_eq_some_iff.mp hmember
    have hhere := StdMap.find?_eq_some_iff.mp hme
    have hlen : guild.m_members.size = 1 :=
      le_antisymm (Nat.not_lt.mp hsize) (length_pos_of_mem hhere)
    obtain ⟨entry, hentries⟩ := length_eq_one_iff.mp hlen
    rw [hentries, mem_singleton] at hthere hhere
    exact hother ((Prod.mk.inj (hthere.trans hhere.symm)).1.trans hleader.symm)
  · rw [if_neg hleader]
    rw [isLeader_iff hled] at hleader
    obtain ⟨after, hafter, hranked⟩ := ranked_DeleteMember hleader
    exact .inl ⟨after, hafter, .left hleader hranked⟩

end

theorem HandleAcceptMember_change {allowed : Bool}
    (hlowest : guild._GetLowestRankId ≠ GR_GUILDMASTER) :
    RankChange guild (guild.HandleAcceptMember player allowed) player request := by
  unfold HandleAcceptMember AddMember
  split
  · exact .same rfl fun _ => rfl
  rename_i hchecks
  rw [Bool.or_eq_true, not_or, decide_eq_true_eq] at hchecks
  have hnone : guild.rankOf player = none := by
    rw [rankOf, GetMember, StdMap.find?_eq_none_iff.mpr hchecks.2, map_none]
  have hbyte : guild._GetLowestRankId < 2 ^ 8 := by
    unfold _GetLowestRankId toUint8
    omega
  exact .joined hlowest hbyte hnone (ranked_setMember player _)

/-- The leader does not name himself, nobody joins a guild with one rank only, and nobody
of rank 255 promotes members. -/
def KeepsLeader (guild : Guild) : ℕ × GuildRequest → Prop
  | (player, .setLeader target) => player = guild.m_leaderGuid → target ≠ player
  | (player, .updateMemberRank _ demote) => demote = false → guild.rankOf player ≠ some 255
  | (_, .accept _) => guild._GetLowestRankId ≠ GR_GUILDMASTER
  | _ => True

theorem handle_change (hled : guild.Led)
    (hkeeps : guild.KeepsLeader (player, request)) :
    (∃ after, guild.handle player request = some after ∧ RankChange guild after player request) ∨
      guild.handle player request = none ∧ ∀ other, other ≠ player → guild.rankOf other = none := by
  cases request with
  | setLeader target => exact .inl ⟨_, rfl, HandleSetLeader_change hled hkeeps⟩
  | updateMemberRank target demote =>
    exact .inl ⟨_, rfl, HandleUpdateMemberRank_change hled hkeeps⟩
  | removeMember target => exact .inl (HandleRemoveMember_change hled)
  | leave => exact HandleLeaveMember_change hled
  | accept allowed => exact .inl ⟨_, rfl, HandleAcceptMember_change hkeeps⟩
  | addNewRank =>
    refine .inl ⟨_, rfl, ?_⟩
    unfold HandleAddNewRank _CreateRank
    split_ifs <;> exact .same rfl fun _ => rfl
  | removeRank rankId =>
    refine .inl ⟨_, rfl, ?_⟩
    unfold HandleRemoveRank
    split
    · exact .same rfl fun _ => rfl
    · exact .same rfl fun _ => rfl

theorem handle_respects (hled : guild.Led) (hkeeps : guild.KeepsLeader (player, request)) :
    Respects guild (guild.handle player request) player request := by
  rcases handle_change hled hkeeps with ⟨after, hafter, hchange⟩ | ⟨-, halone⟩
  · rw [hafter]
    exact hchange.respects hled
  · intro other mine rank hother _ hrank
    exact nomatch (halone other hother).symm.trans hrank

/-- In every run in which no leader names himself, nobody joins a guild with one rank only
and nobody of rank 255 promotes members, the leader is the only member of the first rank,
and requests respect the ranks. -/
theorem leader_is_guild_master {start : Guild} (hled : start.Led)
    (hreach : Reachable (· = start)
      (guarded KeepsLeader (computed performRequest)) guild) :
    guild.Led ∧ ∀ player request, guild.KeepsLeader (player, request) →
      Respects guild (guild.handle player request) player request := by
  have hkept : guild.Led := by
    apply hreach.invariant
    · rintro initial rfl
      exact hled
    · rintro before ⟨player, request⟩ after hbefore ⟨hkeeps, hafter⟩
      rcases handle_change hbefore hkeeps with ⟨found, hfound, hchange⟩ | ⟨hnone, -⟩
      · obtain rfl := some.inj (hfound.symm.trans hafter)
        exact hbefore.of_change hchange
      · exact nomatch hnone.symm.trans hafter
  exact ⟨hkept, fun player request hkeeps => handle_respects hkept hkeeps⟩

theorem Create_led : (Create 1 0).Led := by
  have hall : ∀ entry ∈ (Create 1 0).m_members.entries, entry = (1, Member.new 0) := by
    decide +kernel
  have hmember : ∀ guid rank, (Create 1 0).rankOf guid = some rank → guid = 1 ∧ rank = 0 := by
    intro guid rank hrank
    obtain ⟨member, hfind, rfl⟩ := map_eq_some_iff.mp hrank
    obtain ⟨rfl, rfl⟩ := Prod.mk.inj (hall _ (StdMap.find?_eq_some_iff.mp hfind))
    exact ⟨rfl, rfl⟩
  refine ⟨by decide +kernel, fun guid hrank => (hmember guid _ hrank).1, fun guid rank hrank => ?_⟩
  exact (hmember guid rank hrank).2 ▸ by decide

/-- The rank of the leader is that of an officer then. -/
theorem leader_names_himself : ∃ start guild : Guild, start.Led ∧
      Reachable (· = start) (computed performRequest) guild ∧
      ¬ guild.Led := by
  refine ⟨Create 1 0, (Create 1 0).HandleSetLeader 1 1, Create_led, ?_, fun hled => ?_⟩
  · exact @Reachable.step _ _ _ _ _ _ (1, .setLeader 1) (.start rfl) rfl
  · have hleader := hled.leader
    have hrank : ((Create 1 0).HandleSetLeader 1 1).rankOf 1 = some GR_OFFICER := by
      decide +kernel
    exact absurd (hrank.symm.trans hleader) (by decide)

/-- A second member becomes the leader. -/
theorem second_member_leads :
    ((((Create 1 0).HandleAcceptMember 2 true).HandleSetLeader 1 2)).Led := by
  have hlowest : (Create 1 0)._GetLowestRankId ≠ GR_GUILDMASTER := by decide +kernel
  have hjoined : Reachable (· = Create 1 0) (guarded KeepsLeader (computed performRequest))
      ((Create 1 0).HandleAcceptMember 2 true) :=
    @Reachable.step _ _ _ _ _ _ (2, .accept true) (.start rfl) ⟨hlowest, rfl⟩
  have hnamed : Reachable (· = Create 1 0) (guarded KeepsLeader (computed performRequest))
      (((Create 1 0).HandleAcceptMember 2 true).HandleSetLeader 1 2) :=
    @Reachable.step _ _ _ _ _ _ (1, .setLeader 2) hjoined ⟨fun _ => by decide, rfl⟩
  exact (leader_is_guild_master Create_led hnamed).1

end Guild

end AzerothCore.Guilds
