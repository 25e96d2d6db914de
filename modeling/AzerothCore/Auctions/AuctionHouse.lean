import AzerothCore.Collections.Reachability
import AzerothCore.Collections.StdMap
import AzerothCore.Common.Money

/-!
# The auction house

Auctions of three houses, the items in them, and the players who sell, bid, buy
and cancel. A bid is held by the auction until the auction is sold, cancelled
or outbid. What the code computes with floating point numbers, and what it asks
of creatures and of the world, is given by an environment.
-/

namespace AzerothCore.Auctions

def MAX_AUCTION_ITEMS : ℕ := 160
def MINUTE : ℕ := 60
def HOUR : ℕ := 60 * MINUTE
def MIN_AUCTION_TIME : ℕ := 12 * HOUR
def ITEM_FLAG_CONJURED : ℕ := 0x00000002

/-- The three `AuctionHouseObject`s of the auction manager. -/
inductive AuctionHouseFaction where
  | alliance
  | horde
  | neutral
deriving DecidableEq

inductive AuctionHouses where
  | AUCTIONHOUSE_ALLIANCE
  | AUCTIONHOUSE_HORDE
  | AUCTIONHOUSE_NEUTRAL

inductive MailAuctionAnswers where
  | AUCTION_OUTBIDDED
  | AUCTION_WON
  | AUCTION_SUCCESSFUL
  | AUCTION_EXPIRED
  | AUCTION_CANCELLED_TO_BIDDER
  | AUCTION_CANCELED
  | AUCTION_SALE_PENDING

structure AuctionHouseEntry where
  houseId : AuctionHouses
  depositPercent : ℕ
  cutPercent : ℕ

structure ItemTemplate where
  Flags : ℕ
  SellPrice : ℕ
  /-- `GetMaxStackSize()`, which is never zero. -/
  MaxStackSize : ℕ

structure Item where
  entry : ℕ
  count : ℕ
  /-- `CanBeTraded()`. -/
  tradable : Bool
  /-- `IsNotEmptyBag()`. -/
  notEmptyBag : Bool
  /-- `ITEM_FIELD_DURATION`. -/
  duration : ℕ

structure AuctionEntry where
  Id : ℕ
  houseId : AuctionHouses
  item_guid : ℕ
  item_template : ℕ
  itemCount : ℕ
  owner : ℕ
  startbid : ℕ
  bid : ℕ
  buyout : ℕ
  expire_time : ℕ
  /-- Zero while there is no bid. -/
  bidder : ℕ
  deposit : ℕ
  auctionHouseEntry : AuctionHouseEntry

structure Mail where
  receiver : ℕ
  response : MailAuctionAnswers
  money : ℕ
  item : Option (ℕ × Item)

structure Player where
  money : ℕ
  /-- The items in the inventory by their guids. -/
  items : StdMap ℕ Item

/-- The auctioneer a player talks to: the house of its faction, what
`GetAuctionHouseEntry` finds for it, and the entry in its spawn data, which a
summoned creature does not have. -/
structure Auctioneer where
  house : AuctionHouseFaction
  auctionHouseEntry : Option AuctionHouseEntry
  creatureData : Option ℕ

structure AuctionEnv where
  /-- `FindConnectedPlayer`. -/
  connected : ℕ → Bool
  GetItemTemplate : ℕ → ItemTemplate
  /-- The house of the faction in a creature template, if there is a template. -/
  GetCreatureTemplate : ℕ → Option AuctionHouses
  /-- `CONFIG_ALLOW_TWO_SIDE_INTERACTION_AUCTION`. -/
  allowTwoSideInteraction : Bool
  GetAuctionDeposit : AuctionHouseEntry → ℕ → ItemTemplate → ℕ → ℕ
  GetAuctionCut : AuctionHouseEntry → ℕ → ℕ
  GetAuctionOutBid : ℕ → ℕ
  /-- The time of an auction with the rate of the world. -/
  auctionTime : ℕ → ℕ
  GetGameTime : ℕ

structure AuctionWorld where
  players : StdMap ℕ Player
  /-- The accounts of all characters, online or not; zero for none. -/
  accounts : ℕ → ℕ
  auctions : AuctionHouseFaction → StdMap ℕ AuctionEntry
  /-- The items in auctions by their guids. -/
  aItems : StdMap ℕ Item
  mails : List Mail
  nextAuctionId : ℕ
  nextItemGuid : ℕ

inductive AuctionEvent where
  | created (deposit : ℕ)
  | sold (deposit cut : ℕ)
  | cancelled (cut : ℕ)
deriving DecidableEq

structure AuctionResult where
  world : AuctionWorld
  events : List AuctionEvent
  succeeded : Bool

def AuctionWorld.failed (world : AuctionWorld) : AuctionResult := ⟨world, [], false⟩

namespace AuctionWorld

variable (env : AuctionEnv)

def characterExists (world : AuctionWorld) (guid : ℕ) : Bool :=
  env.connected guid || world.accounts guid ≠ 0

/-- `player->ModifyMoney(-int32(amount))` -/
def pay (world : AuctionWorld) (guid amount : ℕ) : AuctionWorld :=
  match world.players.find? guid with
  | none => world
  | some player =>
    { world with
      players := world.players.insert guid
        { player with money := ModifyMoney player.money (-int32 amount) } }

def sendMail (world : AuctionWorld) (mail : Mail) : AuctionWorld :=
  { world with mails := mail :: world.mails }

/-! ## Mails about auctions -/

def SendAuctionWonMail (world : AuctionWorld) (auction : AuctionEntry) : AuctionWorld :=
  match world.aItems.find? auction.item_guid with
  | none => world
  | some pItem =>
    if world.characterExists env auction.bidder then
      world.sendMail ⟨auction.bidder, .AUCTION_WON, 0, some (auction.item_guid, pItem)⟩
    else
      { world with aItems := world.aItems.erase auction.item_guid }

def SendAuctionSalePendingMail (world : AuctionWorld) (auction : AuctionEntry) : AuctionWorld :=
  if world.characterExists env auction.owner then
    world.sendMail ⟨auction.owner, .AUCTION_SALE_PENDING, 0, none⟩
  else
    world

def GetAuctionCut (auction : AuctionEntry) : ℕ :=
  env.GetAuctionCut auction.auctionHouseEntry auction.bid

/-- `auction->bid + auction->deposit - auction->GetAuctionCut()` -/
def profit (auction : AuctionEntry) : ℕ :=
  toUint32 ((auction.bid : ℤ) + auction.deposit - GetAuctionCut env auction)

def SendAuctionSuccessfulMail (world : AuctionWorld) (auction : AuctionEntry) : AuctionWorld :=
  if world.characterExists env auction.owner then
    world.sendMail ⟨auction.owner, .AUCTION_SUCCESSFUL, profit env auction, none⟩
  else
    world

def SendAuctionExpiredMail (world : AuctionWorld) (auction : AuctionEntry) : AuctionWorld :=
  match world.aItems.find? auction.item_guid with
  | none => world
  | some pItem =>
    if world.characterExists env auction.owner then
      world.sendMail ⟨auction.owner, .AUCTION_EXPIRED, 0, some (auction.item_guid, pItem)⟩
    else
      { world with aItems := world.aItems.erase auction.item_guid }

def SendAuctionOutbiddedMail (world : AuctionWorld) (auction : AuctionEntry) : AuctionWorld :=
  if world.characterExists env auction.bidder then
    world.sendMail ⟨auction.bidder, .AUCTION_OUTBIDDED, auction.bid, none⟩
  else
    world

def SendAuctionCancelledToBidderMail (world : AuctionWorld) (auction : AuctionEntry) :
    AuctionWorld :=
  if world.characterExists env auction.bidder then
    world.sendMail ⟨auction.bidder, .AUCTION_CANCELLED_TO_BIDDER, auction.bid, none⟩
  else
    world

def RemoveAItem (world : AuctionWorld) (guid : ℕ) : AuctionWorld :=
  { world with aItems := world.aItems.erase guid }

def AddAItem (world : AuctionWorld) (guid : ℕ) (item : Item) : AuctionWorld :=
  { world with aItems := world.aItems.insert guid item }

def setAuctions (world : AuctionWorld) (house : AuctionHouseFaction)
    (auctions : StdMap ℕ AuctionEntry) : AuctionWorld :=
  { world with auctions := Function.update world.auctions house auctions }

def AddAuction (world : AuctionWorld) (house : AuctionHouseFaction) (auction : AuctionEntry) :
    AuctionWorld :=
  world.setAuctions house ((world.auctions house).insert auction.Id auction)

def RemoveAuction (world : AuctionWorld) (house : AuctionHouseFaction) (id : ℕ) : AuctionWorld :=
  world.setAuctions house ((world.auctions house).erase id)

end AuctionWorld

end AzerothCore.Auctions

/-! ## Auction operations -/

namespace AzerothCore.Auctions

/-- The packet of `HandleAuctionSellItem`: guids with counts, the prices, and the
time in minutes. -/
structure SellRequest where
  items : List (ℕ × ℕ)
  bid : ℕ
  buyout : ℕ
  etime : ℕ

structure SoldItem where
  guid : ℕ
  item : Item
  count : ℕ

namespace AuctionWorld

variable (env : AuctionEnv)

def requestAllowed (request : SellRequest) : Bool :=
  request.items.length ≤ MAX_AUCTION_ITEMS &&
    request.items.all (fun entry => entry.1 ≠ 0 && entry.2 ≠ 0 && entry.2 ≤ 1000) &&
    request.bid ≠ 0 && request.etime ≠ 0 &&
    request.bid ≤ MAX_MONEY_AMOUNT && request.buyout ≤ MAX_MONEY_AMOUNT

def timeAllowed (etime : ℕ) : Bool :=
  etime = 1 * MIN_AUCTION_TIME || etime = 2 * MIN_AUCTION_TIME || etime = 4 * MIN_AUCTION_TIME

def sellable (world : AuctionWorld) (guid : ℕ) (item : Item) (count itemEntry : ℕ) : Bool :=
  world.aItems.find? guid = none && item.tradable && !item.notEmptyBag &&
    (env.GetItemTemplate item.entry).Flags &&& ITEM_FLAG_CONJURED = 0 && item.duration = 0 &&
    count ≤ item.count && itemEntry = item.entry

/-- The loop over the guids of the packet. -/
def findItems (world : AuctionWorld) (items : StdMap ℕ Item) :
    ℕ → List (ℕ × ℕ) → Option (List SoldItem)
  | _, [] => some []
  | itemEntry, (guid, count) :: rest =>
    match items.find? guid with
    | none => none
    | some item =>
      let itemEntry := if itemEntry = 0 then item.entry else itemEntry
      if world.sellable env guid item count itemEntry then
        (findItems world items itemEntry rest).map fun sold => ⟨guid, item, count⟩ :: sold
      else
        none

def finalCount (sold : List SoldItem) : ℕ := (sold.map SoldItem.count).sum

/-- All checks before something is charged: the items, their total, the template
of the first one, and the entry of the house. -/
def sellChecks (world : AuctionWorld) (player : Player) (auctioneer : Option Auctioneer)
    (request : SellRequest) : Option (Auctioneer × AuctionHouseEntry × List SoldItem) :=
  if !requestAllowed request then
    none
  else
    match auctioneer with
    | none => none
    | some auctioneer =>
      match auctioneer.auctionHouseEntry with
      | none => none
      | some entry =>
        if !timeAllowed (uint32 (request.etime * MINUTE)) then
          none
        else
          match world.findItems env player.items 0 request.items with
          | none => none
          | some sold =>
            if finalCount sold = 0 then
              none
            else if ¬ (request.items.map Prod.fst).Nodup then
              none
            else if sold.any fun entry =>
                (env.GetItemTemplate entry.item.entry).MaxStackSize < finalCount sold then
              none
            else
              some (auctioneer, entry, sold)

def findHouseId (auctioneer : Auctioneer) : Option AuctionHouses :=
  if env.allowTwoSideInteraction then
    some .AUCTIONHOUSE_NEUTRAL
  else
    match auctioneer.creatureData with
    | none => none
    | some creatureEntry => env.GetCreatureTemplate creatureEntry

/-- `CloneItem`: a new item of the same kind, unless its count is zero. -/
def CloneItem (item : Item) (count : ℕ) : Option Item :=
  if count < 1 then
    none
  else
    some { item with
      count := min count (env.GetItemTemplate item.entry).MaxStackSize
      notEmptyBag := false }

/-- Sold items leave the inventory, or some of a stack does. -/
def takeSold (items : StdMap ℕ Item) (sold : SoldItem) : StdMap ℕ Item :=
  if sold.item.count = sold.count then
    items.erase sold.guid
  else
    items.insert sold.guid { sold.item with count := sold.item.count - sold.count }

def setItems (world : AuctionWorld) (guid : ℕ) (items : StdMap ℕ Item) : AuctionWorld :=
  match world.players.find? guid with
  | none => world
  | some player => { world with players := world.players.insert guid { player with items := items } }

def newAuction (world : AuctionWorld) (owner : ℕ) (request : SellRequest)
    (entry : AuctionHouseEntry) (houseId : AuctionHouses) (deposit itemGuid : ℕ) (item : Item) :
    AuctionEntry where
  Id := world.nextAuctionId
  houseId := houseId
  item_guid := itemGuid
  item_template := item.entry
  itemCount := item.count
  owner := owner
  startbid := request.bid
  bid := 0
  buyout := request.buyout
  expire_time := env.GetGameTime + env.auctionTime (uint32 (request.etime * MINUTE))
  bidder := 0
  deposit := deposit
  auctionHouseEntry := entry

def HandleAuctionSellItem (world : AuctionWorld) (guid : ℕ) (auctioneer : Option Auctioneer)
    (request : SellRequest) : AuctionResult :=
  match world.players.find? guid with
  | none => world.failed
  | some player =>
    match world.sellChecks env player auctioneer request with
    | none => world.failed
    | some (_, _, []) => world.failed
    | some (auctioneer, entry, first :: others) =>
      let sold := first :: others
      let etime := uint32 (request.etime * MINUTE)
      let deposit := env.GetAuctionDeposit entry etime (env.GetItemTemplate first.item.entry)
        (finalCount sold)
      if player.money < deposit then
        world.failed
      else
        let id := world.nextAuctionId
        let paid := { world.pay guid deposit with nextAuctionId := id + 1 }
        match findHouseId env auctioneer with
        | none => paid.failed
        | some houseId =>
          if others = [] && first.item.count = first.count then
            let auction := world.newAuction env guid request entry houseId deposit first.guid
              first.item
            let paid := (paid.AddAItem first.guid first.item).AddAuction auctioneer.house auction
            ⟨paid.setItems guid (player.items.erase first.guid), [.created deposit], true⟩
          else
            match CloneItem env first.item (finalCount sold) with
            | none => paid.failed
            | some newItem =>
              let auction := world.newAuction env guid request entry houseId deposit
                world.nextItemGuid newItem
              let paid := { paid with nextItemGuid := world.nextItemGuid + 1 }
              let paid := (paid.AddAItem world.nextItemGuid newItem).AddAuction auctioneer.house
                auction
              ⟨paid.setItems guid (sold.foldl takeSold player.items), [.created deposit], true⟩

/-- The checks of `HandleAuctionPlaceBid`. -/
def bidChecks (world : AuctionWorld) (guid money : ℕ) (auction : AuctionEntry) (price : ℕ) : Bool :=
  !(auction.owner = guid) &&
    !(!env.connected auction.owner && world.accounts auction.owner = world.accounts guid) &&
    !(price ≤ auction.bid || price < auction.startbid) &&
    !((price < auction.buyout || auction.buyout = 0) &&
      price < uint32 (auction.bid + env.GetAuctionOutBid auction.bid)) &&
    price ≤ money

/-- The money of a bid: the difference if the player has bid before, and else the
whole, with the last bidder's money on its way back. -/
def payBid (world : AuctionWorld) (guid : ℕ) (auction : AuctionEntry) (price : ℕ) : AuctionWorld :=
  if auction.bidder ≠ 0 then
    if auction.bidder = guid then
      world.pay guid (price - auction.bid)
    else
      (world.SendAuctionOutbiddedMail env auction).pay guid price
  else
    world.pay guid price

def payBuyout (world : AuctionWorld) (guid : ℕ) (auction : AuctionEntry) : AuctionWorld :=
  if guid = auction.bidder then
    world.pay guid (auction.buyout - auction.bid)
  else
    let world := world.pay guid auction.buyout
    if auction.bidder ≠ 0 then world.SendAuctionOutbiddedMail env auction else world

def HandleAuctionPlaceBid (world : AuctionWorld) (guid : ℕ) (house : Option AuctionHouseFaction)
    (auctionId price : ℕ) : AuctionResult :=
  match world.players.find? guid, house with
  | some player, some house =>
    if auctionId = 0 || price = 0 then
      world.failed
    else
      match (world.auctions house).find? auctionId with
      | none => world.failed
      | some auction =>
        if !world.bidChecks env guid player.money auction price then
          world.failed
        else if price < auction.buyout || auction.buyout = 0 then
          let auction' := { auction with bidder := guid, bid := price }
          ⟨(world.payBid env guid auction price).AddAuction house auction', [], true⟩
        else
          let auction' := { auction with bidder := guid, bid := auction.buyout }
          let world := world.payBuyout env guid auction
          let world := world.SendAuctionSalePendingMail env auction'
          let world := world.SendAuctionSuccessfulMail env auction'
          let world := world.SendAuctionWonMail env auction'
          ⟨(world.RemoveAItem auction'.item_guid).RemoveAuction house auction'.Id,
            [.sold auction'.deposit (GetAuctionCut env auction')], true⟩
  | _, _ => world.failed

def HandleAuctionRemoveItem (world : AuctionWorld) (guid : ℕ)
    (house : Option AuctionHouseFaction) (auctionId : ℕ) : AuctionResult :=
  match world.players.find? guid, house with
  | some player, some house =>
    match (world.auctions house).find? auctionId with
    | none => world.failed
    | some auction =>
      if auction.owner ≠ guid then
        world.failed
      else
        match world.aItems.find? auction.item_guid with
        | none => world.failed
        | some pItem =>
          let auctionCut := GetAuctionCut env auction
          if auction.bidder ≠ 0 && player.money < auctionCut then
            world.failed
          else
            let paid := if auction.bidder ≠ 0 then
                (world.SendAuctionCancelledToBidderMail env auction).pay guid auctionCut
              else world
            let returned := paid.sendMail
              ⟨guid, .AUCTION_CANCELED, 0, some (auction.item_guid, pItem)⟩
            ⟨(returned.RemoveAItem auction.item_guid).RemoveAuction house auction.Id,
              if auction.bidder ≠ 0 then [.cancelled auctionCut] else [], true⟩
  | _, _ => world.failed

/-! ## Auctions whose time is over -/

/-- One turn of the loop of `Update`. -/
def expire (house : AuctionHouseFaction) (checkTime : ℕ)
    (result : AuctionResult) (id : ℕ) : AuctionResult :=
  match (result.world.auctions house).find? id with
  | none => result
  | some auction =>
    if auction.expire_time > checkTime then
      result
    else if auction.bidder = 0 then
      let world := result.world.SendAuctionExpiredMail env auction
      ⟨(world.RemoveAItem auction.item_guid).RemoveAuction house auction.Id, result.events, true⟩
    else
      let world := result.world.SendAuctionSuccessfulMail env auction
      let world := world.SendAuctionWonMail env auction
      ⟨(world.RemoveAItem auction.item_guid).RemoveAuction house auction.Id,
        result.events ++ [.sold auction.deposit (GetAuctionCut env auction)], true⟩

/-- `AuctionHouseObject::Update` -/
def Update (world : AuctionWorld) (house : AuctionHouseFaction) : AuctionResult :=
  (world.auctions house).keys.foldl (expire env house (env.GetGameTime + 60)) ⟨world, [], true⟩

end AuctionWorld

end AzerothCore.Auctions

/-! ## The money in auctions -/

namespace AzerothCore.Auctions
open List Function StdMap

def held (auction : AuctionEntry) : ℕ := if auction.bidder ≠ 0 then auction.bid else 0

def escrow (auctions : StdMap ℕ AuctionEntry) : ℕ := auctions.sumValues held

def mailed (mails : List Mail) : ℕ := (mails.map Mail.money).sum

def wealth (world : AuctionWorld) : ℕ :=
  world.players.sumValues Player.money + mailed world.mails +
    (escrow (world.auctions .alliance) + escrow (world.auctions .horde) +
      escrow (world.auctions .neutral))

section Moves

variable {world : AuctionWorld} {env : AuctionEnv}

theorem wealth_setAuctions (house : AuctionHouseFaction) (auctions : StdMap ℕ AuctionEntry) :
    wealth (world.setAuctions house auctions) + escrow (world.auctions house) =
      wealth world + escrow auctions := by
  have hother : ∀ {other}, other ≠ house →
      Function.update world.auctions house auctions other = world.auctions other :=
    fun hne => update_of_ne hne auctions world.auctions
  have hsame := update_self house auctions world.auctions
  cases house with
  | alliance =>
    rw [wealth, wealth, AuctionWorld.setAuctions]
    dsimp only
    rw [hsame, @hother .horde (by decide), @hother .neutral (by decide)]
    omega
  | horde =>
    rw [wealth, wealth, AuctionWorld.setAuctions]
    dsimp only
    rw [hsame, @hother .alliance (by decide), @hother .neutral (by decide)]
    omega
  | neutral =>
    rw [wealth, wealth, AuctionWorld.setAuctions]
    dsimp only
    rw [hsame, @hother .alliance (by decide), @hother .horde (by decide)]
    omega

variable {house : AuctionHouseFaction} {auction : AuctionEntry} {guid : ℕ}

theorem wealth_AddAuction_new (hfind : (world.auctions house).find? auction.Id = none) :
    wealth (world.AddAuction house auction) = wealth world + held auction := by
  have hset := @wealth_setAuctions world house ((world.auctions house).insert auction.Id auction)
  have hinsert : escrow ((world.auctions house).insert auction.Id auction) =
      held auction + escrow (world.auctions house) :=
    sumValues_insert_of_not_mem auction held hfind
  rw [AuctionWorld.AddAuction]
  omega

theorem wealth_AddAuction {old : AuctionEntry}
    (hfind : (world.auctions house).find? auction.Id = some old) :
    wealth (world.AddAuction house auction) + held old = wealth world + held auction := by
  have hset := @wealth_setAuctions world house ((world.auctions house).insert auction.Id auction)
  have hinsert : escrow ((world.auctions house).insert auction.Id auction) =
      held auction + ((world.auctions house).erase auction.Id).sumValues held :=
    sumValues_insert _ auction.Id auction held
  have herase : held old + ((world.auctions house).erase auction.Id).sumValues held =
      escrow (world.auctions house) := sumValues_erase held hfind
  rw [AuctionWorld.AddAuction]
  omega

theorem wealth_RemoveAuction {id : ℕ} (hfind : (world.auctions house).find? id = some auction) :
    wealth (world.RemoveAuction house id) + held auction = wealth world := by
  have hset := @wealth_setAuctions world house ((world.auctions house).erase id)
  have herase : held auction + escrow ((world.auctions house).erase id) =
      escrow (world.auctions house) := sumValues_erase held hfind
  rw [AuctionWorld.RemoveAuction]
  omega

theorem wealth_sendMail (mail : Mail) :
    wealth (world.sendMail mail) = wealth world + mail.money := by
  rw [wealth, wealth, AuctionWorld.sendMail, mailed, mailed]
  dsimp only
  rw [map_cons, sum_cons]
  omega

section

variable {amount : ℕ} {player : Player} (hfind : world.players.find? guid = some player) (hle : amount ≤ player.money) (hmoney : player.money ≤ MAX_MONEY_AMOUNT)
include hfind hle hmoney

theorem pay_eq : world.pay guid amount = { world with
      players := world.players.insert guid { player with money := player.money - amount } } := by
  rw [AuctionWorld.pay, hfind]
  dsimp only
  rw [ModifyMoney_neg hle hmoney]

theorem wealth_pay : wealth (world.pay guid amount) + amount = wealth world := by
  rw [pay_eq hfind hle hmoney]
  have herase := sumValues_erase Player.money hfind
  rw [wealth, wealth]
  rw [sumValues_insert]
  dsimp only
  omega

end

theorem wealth_setItems (guid : ℕ) (items : StdMap ℕ Item) :
    wealth (world.setItems guid items) = wealth world := by
  unfold AuctionWorld.setItems
  split
  · rfl
  rename_i player hfind
  have herase := sumValues_erase Player.money hfind
  rw [wealth, wealth]
  rw [sumValues_insert]
  dsimp only
  omega

theorem characterExists_of_accounts (haccount : world.accounts guid ≠ 0) :
    world.characterExists env guid = true := by
  rw [AuctionWorld.characterExists, decide_eq_true haccount, Bool.or_true]

theorem wealth_SendAuctionWonMail (auction : AuctionEntry) :
    wealth (world.SendAuctionWonMail env auction) = wealth world := by
  unfold AuctionWorld.SendAuctionWonMail
  split
  · rfl
  split
  · exact wealth_sendMail _
  · rfl

theorem wealth_SendAuctionExpiredMail (auction : AuctionEntry) :
    wealth (world.SendAuctionExpiredMail env auction) = wealth world := by
  unfold AuctionWorld.SendAuctionExpiredMail
  split
  · rfl
  split
  · exact wealth_sendMail _
  · rfl

theorem wealth_SendAuctionSalePendingMail (auction : AuctionEntry) :
    wealth (world.SendAuctionSalePendingMail env auction) = wealth world := by
  unfold AuctionWorld.SendAuctionSalePendingMail
  split
  · exact wealth_sendMail _
  · rfl

theorem profit_eq (hbid : auction.bid ≤ MAX_MONEY_AMOUNT)
    (hdeposit : auction.deposit ≤ MAX_MONEY_AMOUNT)
    (hcut : AuctionWorld.GetAuctionCut env auction ≤ auction.bid + auction.deposit) :
    (AuctionWorld.profit env auction : ℤ) =
      auction.bid + auction.deposit - AuctionWorld.GetAuctionCut env auction := by
  rw [MAX_MONEY_AMOUNT] at hbid hdeposit
  rw [AuctionWorld.profit, toUint32]
  omega

theorem wealth_SendAuctionSuccessfulMail (howner : world.accounts auction.owner ≠ 0) :
    wealth (world.SendAuctionSuccessfulMail env auction) =
      wealth world + AuctionWorld.profit env auction := by
  rw [AuctionWorld.SendAuctionSuccessfulMail, if_pos (characterExists_of_accounts howner)]
  exact wealth_sendMail _

theorem wealth_SendAuctionOutbiddedMail (hbidder : world.accounts auction.bidder ≠ 0) :
    wealth (world.SendAuctionOutbiddedMail env auction) = wealth world + auction.bid := by
  rw [AuctionWorld.SendAuctionOutbiddedMail, if_pos (characterExists_of_accounts hbidder)]
  exact wealth_sendMail _

theorem wealth_SendAuctionCancelledToBidderMail (hbidder : world.accounts auction.bidder ≠ 0) :
    wealth (world.SendAuctionCancelledToBidderMail env auction) = wealth world + auction.bid := by
  rw [AuctionWorld.SendAuctionCancelledToBidderMail, if_pos (characterExists_of_accounts hbidder)]
  exact wealth_sendMail _

end Moves

end AzerothCore.Auctions

/-! ## Runs of the auction house -/

namespace AzerothCore.Auctions

open AzerothCore.Reachability StdMap

inductive AuctionOp where
  | sellItem (env : AuctionEnv) (guid : ℕ) (auctioneer : Option Auctioneer)
      (request : SellRequest)
  | placeBid (env : AuctionEnv) (guid : ℕ) (house : Option AuctionHouseFaction)
      (auctionId price : ℕ)
  | removeItem (env : AuctionEnv) (guid : ℕ) (house : Option AuctionHouseFaction)
      (auctionId : ℕ)
  | update (env : AuctionEnv) (house : AuctionHouseFaction)

variable (world : AuctionWorld)

def AuctionWorld.run : AuctionOp → AuctionResult
  | .sellItem env guid auctioneer request =>
    world.HandleAuctionSellItem env guid auctioneer request
  | .placeBid env guid house auctionId price =>
    world.HandleAuctionPlaceBid env guid house auctionId price
  | .removeItem env guid house auctionId => world.HandleAuctionRemoveItem env guid house auctionId
  | .update env house => world.Update env house

def AuctionEvent.change : AuctionEvent → ℤ
  | .created deposit => -deposit
  | .sold deposit cut => deposit - cut
  | .cancelled cut => -cut

def AuctionWorld.moneyOf (guid : ℕ) : ℤ :=
  ((world.players.find? guid).map Player.money).getD 0

/-- A run: the world, what happened to the money so far, and for every auction
what its bidder has paid since he became the bidder. -/
structure AuctionRun where
  world : AuctionWorld
  events : List AuctionEvent
  paid : ℕ → ℤ

def paidAfter (paid : ℕ → ℤ) (op : AuctionOp) : ℕ → ℤ :=
  if (world.run op).succeeded then
    match op with
    | .sellItem .. => Function.update paid world.nextAuctionId 0
    | .placeBid _ guid house auctionId _ =>
      match house.bind fun house => (world.auctions house).find? auctionId with
      | none => paid
      | some auction =>
        Function.update paid auctionId ((if auction.bidder = guid then paid auctionId else 0) +
          (world.moneyOf guid - (world.run op).world.moneyOf guid))
    | _ => paid
  else
    paid

def AuctionRun.step (run : AuctionRun) (op : AuctionOp) : Option AuctionRun :=
  some ⟨(run.world.run op).world, run.events ++ (run.world.run op).events,
    paidAfter run.world run.paid op⟩

/-- When a deposit is charged the auctioneer's data is found. When an auction is
sold its bid and its deposit cover the cut. -/
def Clean (run : AuctionRun) : AuctionOp → Prop
  | .sellItem env guid auctioneer request => ∀ player found entry first others,
      run.world.players.find? guid = some player →
      run.world.sellChecks env player auctioneer request = some (found, entry, first :: others) →
      env.GetAuctionDeposit entry (uint32 (request.etime * MINUTE))
        (env.GetItemTemplate first.item.entry) (AuctionWorld.finalCount (first :: others)) ≤
        player.money →
      (AuctionWorld.findHouseId env found).isSome = true
  | .placeBid env _ house auctionId price => ∀ auction,
      (house.bind fun house => (run.world.auctions house).find? auctionId) = some auction →
      auction.buyout ≠ 0 → auction.buyout ≤ price →
      env.GetAuctionCut auction.auctionHouseEntry auction.buyout ≤ auction.buyout + auction.deposit
  | .removeItem .. => True
  | .update env house => ∀ id auction, (run.world.auctions house).find? id = some auction →
      auction.expire_time ≤ env.GetGameTime + 60 → auction.bidder ≠ 0 →
      AuctionWorld.GetAuctionCut env auction ≤ auction.bid + auction.deposit

/-! ## Consistent worlds -/

structure Sound (world : AuctionWorld) (id : ℕ) (auction : AuctionEntry) : Prop where
  key : auction.Id = id
  old : id < world.nextAuctionId
  owner : world.accounts auction.owner ≠ 0
  bidder : auction.bidder ≠ 0 → world.accounts auction.bidder ≠ 0
  no_bid : auction.bidder = 0 → auction.bid = 0
  below_buyout : auction.buyout = 0 ∨ auction.bid < auction.buyout
  bid_le : auction.bid ≤ MAX_MONEY_AMOUNT
  deposit_le : auction.deposit ≤ MAX_MONEY_AMOUNT

structure Consistent (world : AuctionWorld) (paid : ℕ → ℤ) : Prop where
  money : ∀ guid player, world.players.find? guid = some player → player.money ≤ MAX_MONEY_AMOUNT
  accounts : ∀ guid player, world.players.find? guid = some player →
    guid ≠ 0 ∧ world.accounts guid ≠ 0
  auction : ∀ house id auction, (world.auctions house).find? id = some auction →
    Sound world id auction
  paid : ∀ house id auction, (world.auctions house).find? id = some auction →
    (auction.bid : ℤ) ≤ paid id
  once : ∀ id house house' auction auction', (world.auctions house).find? id = some auction →
    (world.auctions house').find? id = some auction' → house = house'

structure MailsOnly (world after : AuctionWorld) : Prop where
  players : after.players = world.players
  accounts : after.accounts = world.accounts
  auctions : after.auctions = world.auctions
  nextAuctionId : after.nextAuctionId = world.nextAuctionId

section Frames

variable {world after : AuctionWorld} {env : AuctionEnv} {paid paid' : ℕ → ℤ}

theorem MailsOnly.refl (world : AuctionWorld) : MailsOnly world world := ⟨rfl, rfl, rfl, rfl⟩

theorem MailsOnly.trans {last : AuctionWorld} (hfirst : MailsOnly world after)
    (hsecond : MailsOnly after last) : MailsOnly world last where
  players := hsecond.players.trans hfirst.players
  accounts := hsecond.accounts.trans hfirst.accounts
  auctions := hsecond.auctions.trans hfirst.auctions
  nextAuctionId := hsecond.nextAuctionId.trans hfirst.nextAuctionId

variable (auction : AuctionEntry)

theorem mailsOnly_wonMail : MailsOnly world (world.SendAuctionWonMail env auction) := by
  unfold AuctionWorld.SendAuctionWonMail
  split
  · exact MailsOnly.refl world
  split
  · exact ⟨rfl, rfl, rfl, rfl⟩
  · exact ⟨rfl, rfl, rfl, rfl⟩

theorem mailsOnly_expiredMail : MailsOnly world (world.SendAuctionExpiredMail env auction) := by
  unfold AuctionWorld.SendAuctionExpiredMail
  split
  · exact MailsOnly.refl world
  split
  · exact ⟨rfl, rfl, rfl, rfl⟩
  · exact ⟨rfl, rfl, rfl, rfl⟩

theorem mailsOnly_sendMail_if (sent : Bool) (mail : Mail) :
    MailsOnly world (if sent then world.sendMail mail else world) := by
  cases sent with
  | true => exact ⟨rfl, rfl, rfl, rfl⟩
  | false => exact MailsOnly.refl world

theorem mailsOnly_outbiddedMail : MailsOnly world (world.SendAuctionOutbiddedMail env auction) :=
  mailsOnly_sendMail_if _ _

theorem mailsOnly_successfulMail : MailsOnly world (world.SendAuctionSuccessfulMail env auction) :=
  mailsOnly_sendMail_if _ _

theorem mailsOnly_salePendingMail :
    MailsOnly world (world.SendAuctionSalePendingMail env auction) :=
  mailsOnly_sendMail_if _ _

theorem mailsOnly_cancelledMail :
    MailsOnly world (world.SendAuctionCancelledToBidderMail env auction) :=
  mailsOnly_sendMail_if _ _

theorem Sound.congr {id : ℕ} {auction : AuctionEntry} (hsound : Sound world id auction)
    (haccounts : after.accounts = world.accounts)
    (hnext : world.nextAuctionId ≤ after.nextAuctionId) : Sound after id auction where
  key := hsound.key
  old := hsound.old.trans_le hnext
  owner := haccounts ▸ hsound.owner
  bidder := haccounts ▸ hsound.bidder
  no_bid := hsound.no_bid
  below_buyout := hsound.below_buyout
  bid_le := hsound.bid_le
  deposit_le := hsound.deposit_le

theorem Consistent.mailsOnly (hold : Consistent world paid) (hframe : MailsOnly world after) :
    Consistent after paid where
  money := by rw [hframe.players]; exact hold.money
  accounts := by rw [hframe.players, hframe.accounts]; exact hold.accounts
  auction := by
    intro house id auction hfind
    rw [hframe.auctions] at hfind
    exact (hold.auction house id auction hfind).congr hframe.accounts hframe.nextAuctionId.ge
  paid := by rw [hframe.auctions]; exact hold.paid
  once := by rw [hframe.auctions]; exact hold.once

theorem Consistent.setPlayer (hold : Consistent world paid) {guid : ℕ} {player player' : Player}
    (hfind : world.players.find? guid = some player) (hle : player'.money ≤ player.money)
    {nextAuctionId nextItemGuid : ℕ} (hnext : world.nextAuctionId ≤ nextAuctionId) :
    Consistent { world with
      players := world.players.insert guid player'
      nextAuctionId := nextAuctionId
      nextItemGuid := nextItemGuid } paid where
  money := by
    intro other found hother
    rw [find?_insert] at hother
    split at hother
    · cases hother
      exact hle.trans (hold.money guid player hfind)
    · exact hold.money other found hother
  accounts := by
    intro other found hother
    rw [find?_insert] at hother
    split at hother
    case isFalse => exact hold.accounts other found hother
    rename_i heq
    subst heq
    exact hold.accounts _ player hfind
  auction := by
    intro house id auction hauction
    exact (hold.auction house id auction hauction).congr rfl hnext
  paid := hold.paid
  once := hold.once

theorem find?_setAuctions {house other : AuctionHouseFaction} {auctions : StdMap ℕ AuctionEntry} :
    (world.setAuctions house auctions).auctions other =
      if other = house then auctions else world.auctions other := by
  rw [AuctionWorld.setAuctions]
  dsimp only
  by_cases heq : other = house
  · subst heq
    rw [Function.update_self, if_pos rfl]
  · rw [Function.update_of_ne heq, if_neg heq]

theorem Consistent.removeAuction (hold : Consistent world paid) (house : AuctionHouseFaction)
    (id : ℕ) : Consistent (world.RemoveAuction house id) paid := by
  have hfind : ∀ {other id' auction},
      ((world.RemoveAuction house id).auctions other).find? id' = some auction →
      (world.auctions other).find? id' = some auction := by
    intro other id' auction hauction
    rw [AuctionWorld.RemoveAuction, find?_setAuctions] at hauction
    split at hauction
    case isFalse => exact hauction
    rename_i heq
    subst heq
    rw [find?_erase] at hauction
    split at hauction
    · cases hauction
    · exact hauction
  refine ⟨hold.money, hold.accounts, ?_, ?_, ?_⟩
  · intro other id' auction hauction
    exact (hold.auction other id' auction (hfind hauction)).congr rfl le_rfl
  · exact fun other id' auction hauction => hold.paid other id' auction (hfind hauction)
  · exact fun id' left right a b hleft hright =>
      hold.once id' left right a b (hfind hleft) (hfind hright)

theorem Consistent.addAuction (hold : Consistent world paid) (house : AuctionHouseFaction)
    {auction : AuctionEntry} (hsound : Sound world auction.Id auction)
    (hsame : ∀ id, id ≠ auction.Id → paid' id = paid id)
    (hpaid : (auction.bid : ℤ) ≤ paid' auction.Id)
    (honce : ∀ other found, (world.auctions other).find? auction.Id = some found → other = house) :
    Consistent (world.AddAuction house auction) paid' := by
  have hfind : ∀ {other id found},
      ((world.AddAuction house auction).auctions other).find? id = some found →
      (id = auction.Id ∧ other = house ∧ found = auction) ∨
        (id ≠ auction.Id ∧ (world.auctions other).find? id = some found) := by
    intro other id found hfound
    rw [AuctionWorld.AddAuction, find?_setAuctions] at hfound
    by_cases hid : id = auction.Id
    · subst hid
      split at hfound
      case isFalse hne => exact absurd (honce other found hfound) hne
      rename_i heq
      rw [find?_insert_self] at hfound
      exact .inl ⟨rfl, heq, (Option.some.inj hfound).symm⟩
    · split at hfound
      case isTrue heq =>
        subst heq
        rw [find?_insert, if_neg fun heq => hid heq.symm] at hfound
        exact .inr ⟨hid, hfound⟩
      case isFalse => exact .inr ⟨hid, hfound⟩
  refine ⟨hold.money, hold.accounts, ?_, ?_, ?_⟩
  · intro other id found hfound
    rcases hfind hfound with ⟨rfl, -, rfl⟩ | ⟨-, hbefore⟩
    · exact hsound.congr rfl le_rfl
    · exact (hold.auction other id found hbefore).congr rfl le_rfl
  · intro other id found hfound
    rcases hfind hfound with ⟨rfl, -, rfl⟩ | ⟨hne, hbefore⟩
    · exact hpaid
    · rw [hsame id hne]
      exact hold.paid other id found hbefore
  · intro id left right a b hleft hright
    rcases hfind hleft with ⟨rfl, rfl, -⟩ | ⟨hne, hleft⟩
    · rcases hfind hright with ⟨-, rfl, -⟩ | ⟨hne, -⟩
      · rfl
      · exact absurd rfl hne
    · rcases hfind hright with ⟨rfl, -, -⟩ | ⟨-, hright⟩
      · exact absurd rfl hne
      · exact hold.once id left right a b hleft hright

end Frames

end AzerothCore.Auctions

/-! ## Auctions conserve money -/

namespace AzerothCore.Auctions

open List Function Nat
open AzerothCore.Reachability

def Balanced (world : AuctionWorld) (result : AuctionResult) : Prop :=
  (wealth result.world : ℤ) = wealth world + (result.events.map AuctionEvent.change).sum

/-- What an operation leaves behind. -/
structure Conserves (world : AuctionWorld) (paid : ℕ → ℤ) (result : AuctionResult) : Prop where
  consistent : Consistent result.world paid
  balanced : Balanced world result
  failed : result.succeeded = false → result.world = world ∧ result.events = []

section Operations

variable {world : AuctionWorld} {env : AuctionEnv} {paid : ℕ → ℤ} {guid : ℕ}

theorem Conserves.refused (hold : Consistent world paid) : Conserves world paid world.failed where
  consistent := hold
  balanced := by
    rw [Balanced, AuctionWorld.failed, map_nil, sum_nil, add_zero]
  failed := fun _ => ⟨rfl, rfl⟩

variable {auctioneer : Option Auctioneer} {request : SellRequest}

theorem sellChecks_finalCount {player : Player} {found : Auctioneer} {entry : AuctionHouseEntry}
    {sold : List SoldItem}
    (hchecks : world.sellChecks env player auctioneer request = some (found, entry, sold)) :
    AuctionWorld.finalCount sold ≠ 0 := by
  unfold AuctionWorld.sellChecks at hchecks
  split at hchecks
  · cases hchecks
  split at hchecks
  · cases hchecks
  split at hchecks
  · cases hchecks
  split at hchecks
  · cases hchecks
  split at hchecks
  · cases hchecks
  split at hchecks
  · cases hchecks
  rename_i hcount
  split at hchecks
  · cases hchecks
  split at hchecks
  · cases hchecks
  obtain ⟨-, -, rfl⟩ : _ ∧ _ ∧ _ = sold := by
    simpa only [Option.some.injEq, Prod.mk.injEq] using hchecks
  exact hcount

theorem Consistent.setItems (hold : Consistent world paid) (guid : ℕ) (items : StdMap ℕ Item) :
    Consistent (world.setItems guid items) paid := by
  unfold AuctionWorld.setItems
  split
  · exact hold
  rename_i player hfind
  have hle : ({ player with items := items } : Player).money ≤ player.money := le_rfl
  exact hold.setPlayer hfind hle le_rfl

theorem Consistent.fresh (hold : Consistent world paid) (house : AuctionHouseFaction) :
    (world.auctions house).find? world.nextAuctionId = none := by
  cases hfind : (world.auctions house).find? world.nextAuctionId with
  | none => rfl
  | some auction => exact absurd (hold.auction house _ auction hfind).old (Nat.lt_irrefl _)

theorem Conserves.created (hold : Consistent world paid) {player : Player}
    (hfind : world.players.find? guid = some player) {deposit : ℕ}
    (hdeposit : deposit ≤ player.money) (house : AuctionHouseFaction) {auction : AuctionEntry}
    (hid : auction.Id = world.nextAuctionId) (howner : auction.owner = guid)
    (hbidder : auction.bidder = 0) (hbid : auction.bid = 0)
    (hauctionDeposit : auction.deposit = deposit) (nextItemGuid itemGuid : ℕ) (item : Item)
    (items : StdMap ℕ Item) :
    Conserves world (Function.update paid world.nextAuctionId 0)
      ⟨(({ world.pay guid deposit with
          nextAuctionId := world.nextAuctionId + 1
          nextItemGuid := nextItemGuid }.AddAItem itemGuid item).AddAuction house auction).setItems
            guid items, [.created deposit], true⟩ := by
  have hmoney := hold.money guid player hfind
  have hpay := pay_eq hfind hdeposit hmoney
  refine ⟨?_, ?_, nofun⟩
  · rw [hpay]
    have hpaid : Consistent { world with
        players := world.players.insert guid { player with money := player.money - deposit }
        nextAuctionId := world.nextAuctionId + 1
        nextItemGuid := nextItemGuid } paid :=
      hold.setPlayer hfind (sub_le _ _) (le_succ _)
    have hitem : Consistent { world with
        players := world.players.insert guid { player with money := player.money - deposit }
        nextAuctionId := world.nextAuctionId + 1
        nextItemGuid := nextItemGuid
        aItems := world.aItems.insert itemGuid item } paid :=
      hpaid.mailsOnly ⟨rfl, rfl, rfl, rfl⟩
    apply Consistent.setItems
    apply hitem.addAuction
    · refine ⟨rfl, ?_, ?_, fun h => absurd hbidder h, fun _ => hbid, ?_, ?_, ?_⟩
      · exact hid.trans_lt (lt_succ_self _)
      · rw [howner]
        exact (hold.accounts guid player hfind).2
      · omega
      · rw [hbid]
        exact Nat.zero_le _
      · rw [hauctionDeposit]
        exact hdeposit.trans hmoney
    · intro id hne
      rw [hid] at hne
      exact update_of_ne hne _ _
    · rw [hid, update_self, hbid]
      exact Int.le_refl 0
    · intro other found hfound
      rw [hid] at hfound
      exact nomatch (hold.fresh other).symm.trans hfound
  · have hnone : ((({ world.pay guid deposit with
        nextAuctionId := world.nextAuctionId + 1
        nextItemGuid := nextItemGuid } : AuctionWorld).AddAItem itemGuid item).auctions
          house).find? auction.Id = none := by
      rw [hpay, hid]
      exact hold.fresh house
    have hadded := wealth_AddAuction_new hnone
    have hheld : held auction = 0 := by
      rw [held, hbidder]
      rfl
    have hpaid := wealth_pay hfind hdeposit hmoney
    have hsame : wealth (({ world.pay guid deposit with
        nextAuctionId := world.nextAuctionId + 1
        nextItemGuid := nextItemGuid } : AuctionWorld).AddAItem itemGuid item) =
        wealth (world.pay guid deposit) := rfl
    rw [Balanced, wealth_setItems, hadded, hheld, hsame, map_singleton, sum_singleton,
      AuctionEvent.change]
    omega

variable {events : List AuctionEvent}

theorem HandleAuctionSellItem_cases
    (hclean : Clean ⟨world, events, paid⟩ (.sellItem env guid auctioneer request)) :
    world.HandleAuctionSellItem env guid auctioneer request = world.failed ∨
    ∃ player deposit house auction nextItemGuid itemGuid item items,
      world.players.find? guid = some player ∧ deposit ≤ player.money ∧
      auction.Id = world.nextAuctionId ∧ auction.owner = guid ∧ auction.bidder = 0 ∧
      auction.bid = 0 ∧ auction.deposit = deposit ∧
      world.HandleAuctionSellItem env guid auctioneer request = ⟨(({ world.pay guid deposit with
            nextAuctionId := world.nextAuctionId + 1
            nextItemGuid := nextItemGuid }.AddAItem itemGuid item).AddAuction house
              auction).setItems guid items, [.created deposit], true⟩ := by
  unfold AuctionWorld.HandleAuctionSellItem
  split
  · exact .inl rfl
  rename_i player hfind
  split
  · exact .inl rfl
  · exact .inl rfl
  rename_i found entry first others hchecks
  have hcount := sellChecks_finalCount hchecks
  have hfound := hclean player found entry first others hfind hchecks
  dsimp only
  generalize env.GetAuctionDeposit entry (uint32 (request.etime * MINUTE))
    (env.GetItemTemplate first.item.entry) (AuctionWorld.finalCount (first :: others)) =
    deposit at hfound ⊢
  split
  · exact .inl rfl
  rename_i hpoor
  have hdeposit := Nat.le_of_not_lt hpoor
  have hhouse := hfound hdeposit
  split
  case h_1 hnone =>
    rw [hnone] at hhouse
    cases hhouse
  rename_i houseId _
  right
  split
  · exact ⟨player, deposit, found.house, world.newAuction env guid request entry houseId
      deposit first.guid first.item, (world.pay guid deposit).nextItemGuid, first.guid,
      first.item, player.items.erase first.guid, hfind, hdeposit, rfl, rfl, rfl, rfl, rfl,
      rfl⟩
  split
  case h_1 hclone =>
    -- A clone is refused for a count of zero only.
    rw [AuctionWorld.CloneItem, if_neg (by omega)] at hclone
    cases hclone
  case h_2 newItem _ =>
    exact ⟨player, deposit, found.house, world.newAuction env guid request entry houseId
      deposit world.nextItemGuid newItem, world.nextItemGuid + 1, world.nextItemGuid,
      newItem, (first :: others).foldl AuctionWorld.takeSold player.items, hfind,
      hdeposit, rfl, rfl, rfl, rfl, rfl, rfl⟩

theorem Conserves.sellItem (hold : Consistent world paid)
    (hclean : Clean ⟨world, events, paid⟩ (.sellItem env guid auctioneer request)) :
    Conserves world (paidAfter world paid (.sellItem env guid auctioneer request))
      (world.run (.sellItem env guid auctioneer request)) := by
  rcases HandleAuctionSellItem_cases hclean with hrefused |
    ⟨player, deposit, house, auction, nextItemGuid, itemGuid, item, items, hfind, hdeposit, hid,
      howner, hbidder, hbid, hauctionDeposit, hcreated⟩
  · rw [paidAfter, AuctionWorld.run, hrefused]
    exact Conserves.refused hold
  · rw [paidAfter, AuctionWorld.run, hcreated]
    exact Conserves.created hold hfind hdeposit house hid howner hbidder hbid hauctionDeposit _ _ _ _

theorem bidChecks_spec {money price : ℕ} {auction : AuctionEntry}
    (hchecks : world.bidChecks env guid money auction price = true) :
    auction.bid < price ∧ price ≤ money := by
  simp only [AuctionWorld.bidChecks, Bool.and_eq_true, Bool.not_eq_true', Bool.or_eq_false_iff,
    decide_eq_true_eq, decide_eq_false_iff_not] at hchecks
  obtain ⟨⟨⟨-, hprice⟩, -⟩, hmoney⟩ := hchecks
  exact ⟨Nat.lt_of_not_le hprice.1, hmoney⟩

structure Paid (world after : AuctionWorld) (guid amount : ℕ) : Prop where
  consistent : ∀ paid, Consistent world paid → Consistent after paid
  auctions : after.auctions = world.auctions
  accounts : after.accounts = world.accounts
  nextAuctionId : after.nextAuctionId = world.nextAuctionId
  moneyOf : after.moneyOf guid = world.moneyOf guid - amount

theorem moneyOf_eq {player : Player} (hfind : world.players.find? guid = some player) :
    world.moneyOf guid = player.money := by
  rw [AuctionWorld.moneyOf, hfind]
  rfl

variable {amount : ℕ}

theorem Paid.pay {player : Player} (hfind : world.players.find? guid = some player)
    (hle : amount ≤ player.money) (hmoney : player.money ≤ MAX_MONEY_AMOUNT) :
    Paid world (world.pay guid amount) guid amount := by
  have hpay := pay_eq hfind hle hmoney
  refine ⟨fun paid hold => ?_, ?_, ?_, ?_, ?_⟩
  · rw [hpay]
    exact hold.setPlayer hfind (sub_le _ _) le_rfl
  · rw [hpay]
  · rw [hpay]
  · rw [hpay]
  · have hafter : (world.pay guid amount).players.find? guid =
        some { player with money := player.money - amount } := by
      rw [hpay]
      exact StdMap.find?_insert_self ..
    rw [moneyOf_eq hafter, moneyOf_eq hfind]
    dsimp only
    omega

theorem Paid.mails_before {middle after : AuctionWorld} (hmails : MailsOnly world middle)
    (hpaid : Paid middle after guid amount) : Paid world after guid amount where
  consistent := fun paid hold => hpaid.consistent paid (hold.mailsOnly hmails)
  auctions := hpaid.auctions.trans hmails.auctions
  accounts := hpaid.accounts.trans hmails.accounts
  nextAuctionId := hpaid.nextAuctionId.trans hmails.nextAuctionId
  moneyOf := by
    rw [hpaid.moneyOf, AuctionWorld.moneyOf, AuctionWorld.moneyOf, hmails.players]

theorem Paid.mails_after {middle after : AuctionWorld} (hpaid : Paid world middle guid amount)
    (hmails : MailsOnly middle after) : Paid world after guid amount where
  consistent := fun paid hold => (hpaid.consistent paid hold).mailsOnly hmails
  auctions := hmails.auctions.trans hpaid.auctions
  accounts := hmails.accounts.trans hpaid.accounts
  nextAuctionId := hmails.nextAuctionId.trans hpaid.nextAuctionId
  moneyOf := by
    rw [← hpaid.moneyOf, AuctionWorld.moneyOf, AuctionWorld.moneyOf, hmails.players]

theorem held_of_bidder {auction : AuctionEntry} (hbidder : auction.bidder ≠ 0) :
    held auction = auction.bid := by rw [held, if_pos hbidder]

section

variable (hold : Consistent world paid) {player : Player} {auction : AuctionEntry}
include hold

theorem payBid_spec {price : ℕ} (hfind : world.players.find? guid = some player)
    (hbidder : auction.bidder ≠ 0 → world.accounts auction.bidder ≠ 0)
    (hbid : auction.bid < price) (hprice : price ≤ player.money) :
    (wealth (world.payBid env guid auction price) : ℤ) = wealth world - price + held auction ∧
      Paid world (world.payBid env guid auction price) guid
        (if auction.bidder = guid then price - auction.bid else price) := by
  have hmoney := hold.money guid player hfind
  have hguid := (hold.accounts guid player hfind).1
  unfold AuctionWorld.payBid
  split
  case isTrue hnonzero =>
    rw [held_of_bidder hnonzero]
    split
    · have hle : price - auction.bid ≤ player.money := (sub_le _ _).trans hprice
      have hwealth := wealth_pay hfind hle hmoney
      exact ⟨by omega, Paid.pay hfind hle hmoney⟩
    · have hmails := @mailsOnly_outbiddedMail world env auction
      have hfind' : (world.SendAuctionOutbiddedMail env auction).players.find? guid =
          some player := by rw [hmails.players, hfind]
      have hmail := @wealth_SendAuctionOutbiddedMail world env auction (hbidder hnonzero)
      have hwealth := wealth_pay hfind' hprice hmoney
      exact ⟨by omega, Paid.mails_before hmails (Paid.pay hfind' hprice hmoney)⟩
  case isFalse hzero =>
    have hne : auction.bidder ≠ guid := by
      rintro rfl
      exact hzero hguid
    have hheld : held auction = 0 := by rw [held, if_neg hzero]
    have hwealth := wealth_pay hfind hprice hmoney
    rw [hheld, if_neg hne]
    exact ⟨by omega, Paid.pay hfind hprice hmoney⟩

theorem payBuyout_spec (hfind : world.players.find? guid = some player)
    (hbidder : auction.bidder ≠ 0 → world.accounts auction.bidder ≠ 0)
    (hbid : auction.bid ≤ auction.buyout) (hbuyout : auction.buyout ≤ player.money) :
    (wealth (world.payBuyout env guid auction) : ℤ) = wealth world - auction.buyout + held auction ∧
      Paid world (world.payBuyout env guid auction) guid
        (if guid = auction.bidder then auction.buyout - auction.bid else auction.buyout) := by
  have hmoney := hold.money guid player hfind
  have hguid := (hold.accounts guid player hfind).1
  unfold AuctionWorld.payBuyout
  split
  case isTrue hsame =>
    have hle : auction.buyout - auction.bid ≤ player.money := (sub_le _ _).trans hbuyout
    have hwealth := wealth_pay hfind hle hmoney
    rw [held_of_bidder (hsame ▸ hguid)]
    exact ⟨by omega, Paid.pay hfind hle hmoney⟩
  have hpaid := Paid.pay hfind hbuyout hmoney
  have hwealth := wealth_pay hfind hbuyout hmoney
  dsimp only
  split
  case isFalse hzero =>
    have hheld : held auction = 0 := by rw [held, if_neg hzero]
    exact ⟨by omega, hpaid⟩
  case isTrue hnonzero =>
    have haccount : (world.pay guid auction.buyout).accounts auction.bidder ≠ 0 := by
      rw [hpaid.accounts]
      exact hbidder hnonzero
    have hmail := @wealth_SendAuctionOutbiddedMail _ env auction haccount
    rw [held_of_bidder hnonzero]
    exact ⟨by omega, hpaid.mails_after (mailsOnly_outbiddedMail auction)⟩

end

def sale (env : AuctionEnv) (world : AuctionWorld) (house : AuctionHouseFaction)
    (auction : AuctionEntry) : AuctionWorld :=
  (((world.SendAuctionSuccessfulMail env auction).SendAuctionWonMail env auction).RemoveAItem
    auction.item_guid).RemoveAuction house auction.Id

theorem mailsOnly_sale (auction : AuctionEntry) :
    MailsOnly world (((world.SendAuctionSuccessfulMail env auction).SendAuctionWonMail env
      auction).RemoveAItem auction.item_guid) := by
  have hwon := (mailsOnly_successfulMail auction).trans
    (@mailsOnly_wonMail (world.SendAuctionSuccessfulMail env auction) env auction)
  exact hwon.trans ⟨rfl, rfl, rfl, rfl⟩

variable {house : AuctionHouseFaction}

theorem wealth_sale {auction old : AuctionEntry} (howner : world.accounts auction.owner ≠ 0)
    (hfind : (world.auctions house).find? auction.Id = some old) :
    wealth (sale env world house auction) + held old =
      wealth world + AuctionWorld.profit env auction := by
  have hmails := @mailsOnly_sale world env auction
  have hremoved := @wealth_RemoveAuction (((world.SendAuctionSuccessfulMail env
    auction).SendAuctionWonMail env auction).RemoveAItem auction.item_guid) house old auction.Id
    (by rw [hmails.auctions, hfind])
  have hsame : wealth (((world.SendAuctionSuccessfulMail env auction).SendAuctionWonMail env
      auction).RemoveAItem auction.item_guid) =
      wealth ((world.SendAuctionSuccessfulMail env auction).SendAuctionWonMail env auction) := rfl
  rw [hsame, wealth_SendAuctionWonMail, wealth_SendAuctionSuccessfulMail howner] at hremoved
  exact hremoved

section

variable (hold : Consistent world paid)
include hold

theorem Consistent.sale (house : AuctionHouseFaction)
    (auction : AuctionEntry) : Consistent (sale env world house auction) paid :=
  (hold.mailsOnly (mailsOnly_sale auction)).removeAuction house auction.Id

theorem Consistent.forget {id : ℕ} (value : ℤ)
    (hgone : ∀ house, (world.auctions house).find? id = none) :
    Consistent world (Function.update paid id value) where
  money := hold.money
  accounts := hold.accounts
  auction := hold.auction
  paid := by
    intro house other auction hfind
    have hne : other ≠ id := by
      rintro rfl
      exact nomatch (hgone house).symm.trans hfind
    rw [update_of_ne hne]
    exact hold.paid house other auction hfind
  once := hold.once

theorem find?_sale_self {auction old : AuctionEntry}
    (hfind : (world.auctions house).find? auction.Id = some old) (other : AuctionHouseFaction) :
    ((sale env world house auction).auctions other).find? auction.Id = none := by
  rw [sale, AuctionWorld.RemoveAuction, find?_setAuctions, (mailsOnly_sale auction).auctions]
  split
  case isTrue heq =>
    exact StdMap.find?_erase_self ..
  rename_i hne
  cases hother : (world.auctions other).find? auction.Id with
  | none => rfl
  | some found => exact absurd (hold.once _ other house found old hother hfind) hne

theorem Conserves.bid {player : Player} {auction : AuctionEntry}
    {id price : ℕ} (hplayer : world.players.find? guid = some player)
    (hauction : (world.auctions house).find? id = some auction) (hbid : auction.bid < price)
    (hprice : price ≤ player.money) (hbuyout : price < auction.buyout ∨ auction.buyout = 0)
    {after : AuctionWorld}
    (hafter : after = (world.payBid env guid auction price).AddAuction house
      { auction with bidder := guid, bid := price }) :
    Conserves world (Function.update paid id ((if auction.bidder = guid then paid id else 0) +
      (world.moneyOf guid - after.moneyOf guid))) ⟨after, [], true⟩ := by
  have hsound := hold.auction house id auction hauction
  obtain rfl := hsound.key
  obtain ⟨hwealth, hpaid⟩ := @payBid_spec _ env _ _ hold _ _ _ hplayer hsound.bidder hbid hprice
  obtain ⟨hguid, haccount⟩ := hold.accounts guid player hplayer
  have hmoney := hold.money guid player hplayer
  have hpaidSum := hold.paid house _ auction hauction
  have hmoneyOf : after.moneyOf guid = world.moneyOf guid -
      ((if auction.bidder = guid then price - auction.bid else price : ℕ) : ℤ) := by
    rw [hafter]
    exact hpaid.moneyOf
  have hfindAfter : ((world.payBid env guid auction price).auctions house).find? auction.Id =
      some auction := by rw [hpaid.auctions, hauction]
  refine ⟨?_, ?_, nofun⟩
  · rw [hafter]
    apply (hpaid.consistent paid hold).addAuction
    · refine ⟨rfl, ?_, ?_, fun _ => ?_, fun h => absurd h hguid, ?_, ?_, hsound.deposit_le⟩
      · rw [hpaid.nextAuctionId]
        exact hsound.old
      · rw [hpaid.accounts]
        exact hsound.owner
      · rw [hpaid.accounts]
        exact haccount
      · exact hbuyout.symm
      · exact hprice.trans hmoney
    · intro other hne
      exact update_of_ne hne _ _
    · dsimp only
      rw [update_self, ← hafter, hmoneyOf]
      split
      · omega
      · omega
    · intro other found hfound
      rw [hpaid.auctions] at hfound
      exact hold.once _ other house found auction hfound hauction
  · have hadded := @wealth_AddAuction (world.payBid env guid auction price) house
      { auction with bidder := guid, bid := price } auction hfindAfter
    have hnew : held { auction with bidder := guid, bid := price } = price := held_of_bidder hguid
    rw [Balanced, map_nil, sum_nil]
    dsimp only
    rw [hafter]
    omega

theorem Conserves.buyout {player : Player} {auction : AuctionEntry}
    {id : ℕ} (value : ℤ) (hplayer : world.players.find? guid = some player)
    (hauction : (world.auctions house).find? id = some auction) (hbuyout : auction.buyout ≠ 0)
    (hmoney : auction.buyout ≤ player.money)
    (hcut : env.GetAuctionCut auction.auctionHouseEntry auction.buyout ≤
      auction.buyout + auction.deposit) {bought : AuctionEntry}
    (hbought : bought = { auction with bidder := guid, bid := auction.buyout }) :
    Conserves world (Function.update paid id value)
      ⟨sale env ((world.payBuyout env guid auction).SendAuctionSalePendingMail env bought) house
        bought, [.sold bought.deposit (AuctionWorld.GetAuctionCut env bought)], true⟩ := by
  have hsound := hold.auction house id auction hauction
  obtain rfl := hsound.key
  have hbid : auction.bid ≤ auction.buyout := by
    rcases hsound.below_buyout with hzero | hlt
    · exact absurd hzero hbuyout
    · exact hlt.le
  obtain ⟨hwealth, hpaid⟩ := @payBuyout_spec _ env _ _ hold _ _ hplayer hsound.bidder hbid hmoney
  have hpending := hpaid.mails_after
    (@mailsOnly_salePendingMail (world.payBuyout env guid auction) env bought)
  have hcons := hpending.consistent paid hold
  have hkey : bought.Id = auction.Id := by rw [hbought]
  have hfind : (((world.payBuyout env guid auction).SendAuctionSalePendingMail env
      bought).auctions house).find? bought.Id = some auction := by
    rw [hpending.auctions, hkey, hauction]
  have howner : ((world.payBuyout env guid auction).SendAuctionSalePendingMail env
      bought).accounts bought.owner ≠ 0 := by
    rw [hpending.accounts, hbought]
    exact hsound.owner
  refine ⟨?_, ?_, nofun⟩
  · rw [← hkey]
    exact (hcons.sale house bought).forget value
      (find?_sale_self hcons hfind)
  · have hsale := @wealth_sale _ env _ _ _ howner hfind
    have hprofit := @profit_eq env bought (by
        rw [hbought]
        exact hmoney.trans (hold.money guid player hplayer)) (by
        rw [hbought]
        exact hsound.deposit_le) (by
        rw [hbought]
        exact hcut)
    have hprice : bought.bid = auction.buyout := by rw [hbought]
    rw [wealth_SendAuctionSalePendingMail] at hsale
    rw [Balanced, map_singleton, sum_singleton, AuctionEvent.change]
    dsimp only
    omega

end

theorem HandleAuctionPlaceBid_cases (env : AuctionEnv) (world : AuctionWorld) (guid : ℕ)
    (house : Option AuctionHouseFaction) (id price : ℕ) :
    world.HandleAuctionPlaceBid env guid house id price = world.failed ∨
    ∃ player house' auction, house = some house' ∧ world.players.find? guid = some player ∧
      (world.auctions house').find? id = some auction ∧
      auction.bid < price ∧ price ≤ player.money ∧
      (((price < auction.buyout ∨ auction.buyout = 0) ∧
        world.HandleAuctionPlaceBid env guid house id price =
          ⟨(world.payBid env guid auction price).AddAuction house'
            { auction with bidder := guid, bid := price }, [], true⟩) ∨
      (auction.buyout ≤ price ∧ auction.buyout ≠ 0 ∧
        world.HandleAuctionPlaceBid env guid house id price =
          ⟨sale env ((world.payBuyout env guid auction).SendAuctionSalePendingMail env
            { auction with bidder := guid, bid := auction.buyout }) house'
            { auction with bidder := guid, bid := auction.buyout },
            [.sold auction.deposit (AuctionWorld.GetAuctionCut env
              { auction with bidder := guid, bid := auction.buyout })], true⟩)) := by
  unfold AuctionWorld.HandleAuctionPlaceBid
  split
  case h_2 => exact .inl rfl
  rename_i player house' hplayer
  split
  · exact .inl rfl
  split
  · exact .inl rfl
  rename_i auction hauction
  split
  · exact .inl rfl
  rename_i hrefused
  have hchecks : world.bidChecks env guid player.money auction price = true := by
    simpa using hrefused
  obtain ⟨hbid, hprice⟩ := bidChecks_spec hchecks
  refine .inr ⟨player, house', auction, rfl, hplayer, hauction, hbid, hprice, ?_⟩
  split
  case isTrue hlow => exact .inl ⟨by simpa using hlow, rfl⟩
  rename_i hhigh
  rw [Bool.or_eq_true, decide_eq_true_eq, decide_eq_true_eq, not_or, Nat.not_lt] at hhigh
  exact .inr ⟨hhigh.1, hhigh.2, rfl⟩

theorem Conserves.placeBid (hold : Consistent world paid) {house : Option AuctionHouseFaction}
    {id price : ℕ} (hclean : Clean ⟨world, events, paid⟩ (.placeBid env guid house id price)) :
    Conserves world (paidAfter world paid (.placeBid env guid house id price))
      (world.run (.placeBid env guid house id price)) := by
  rcases HandleAuctionPlaceBid_cases env world guid house id price with hrefused |
    ⟨player, house', auction, rfl, hplayer, hauction, hbid, hprice, ⟨hlow, hresult⟩ |
      ⟨hhigh, hbuyout, hresult⟩⟩
  · rw [paidAfter, AuctionWorld.run, hrefused]
    exact Conserves.refused hold
  · have hfound : (some house').bind (fun house => (world.auctions house).find? id) =
        some auction := hauction
    rw [paidAfter, AuctionWorld.run, hresult, if_pos rfl]
    rw [hfound]
    exact Conserves.bid hold hplayer hauction hbid hprice hlow rfl
  · have hfound : (some house').bind (fun house => (world.auctions house).find? id) =
        some auction := hauction
    rw [paidAfter, AuctionWorld.run, hresult, if_pos rfl]
    rw [hfound]
    exact Conserves.buyout hold _ hplayer hauction hbuyout (hhigh.trans hprice)
      (hclean auction hfound hbuyout hhigh) rfl

def cancelled (world : AuctionWorld) (guid : ℕ) (house : AuctionHouseFaction)
    (auction : AuctionEntry) (pItem : Item) : AuctionWorld :=
  ((world.sendMail ⟨guid, .AUCTION_CANCELED, 0, some (auction.item_guid, pItem)⟩).RemoveAItem
    auction.item_guid).RemoveAuction house auction.Id

theorem Consistent.cancelled (hold : Consistent world paid) (house : AuctionHouseFaction)
    (auction : AuctionEntry) (pItem : Item) :
    Consistent (cancelled world guid house auction pItem) paid := by
  have hmails : MailsOnly world ((world.sendMail ⟨guid, .AUCTION_CANCELED, 0,
      some (auction.item_guid, pItem)⟩).RemoveAItem auction.item_guid) := ⟨rfl, rfl, rfl, rfl⟩
  exact (hold.mailsOnly hmails).removeAuction house auction.Id

theorem wealth_cancelled {auction : AuctionEntry} (pItem : Item)
    (hfind : (world.auctions house).find? auction.Id = some auction) :
    wealth (cancelled world guid house auction pItem) + held auction = wealth world := by
  have hremoved := @wealth_RemoveAuction ((world.sendMail ⟨guid, .AUCTION_CANCELED, 0,
    some (auction.item_guid, pItem)⟩).RemoveAItem auction.item_guid) house auction auction.Id hfind
  have hmail := @wealth_sendMail world ⟨guid, .AUCTION_CANCELED, 0, some (auction.item_guid, pItem)⟩
  calc wealth (Auctions.cancelled world guid house auction pItem) + held auction
      = wealth ((world.sendMail ⟨guid, .AUCTION_CANCELED, 0,
          some (auction.item_guid, pItem)⟩).RemoveAItem auction.item_guid) := hremoved
    _ = wealth (world.sendMail ⟨guid, .AUCTION_CANCELED, 0, some (auction.item_guid, pItem)⟩) := rfl
    _ = wealth world := hmail

theorem HandleAuctionRemoveItem_cases (env : AuctionEnv) (world : AuctionWorld) (guid : ℕ)
    (house : Option AuctionHouseFaction) (id : ℕ) :
    world.HandleAuctionRemoveItem env guid house id = world.failed ∨
    ∃ player house' auction pItem, world.players.find? guid = some player ∧
      (world.auctions house').find? id = some auction ∧
      ((auction.bidder = 0 ∧ world.HandleAuctionRemoveItem env guid house id =
          ⟨cancelled world guid house' auction pItem, [], true⟩) ∨
      (auction.bidder ≠ 0 ∧ AuctionWorld.GetAuctionCut env auction ≤ player.money ∧
        world.HandleAuctionRemoveItem env guid house id =
          ⟨cancelled ((world.SendAuctionCancelledToBidderMail env auction).pay guid
              (AuctionWorld.GetAuctionCut env auction)) guid house' auction pItem,
            [.cancelled (AuctionWorld.GetAuctionCut env auction)], true⟩)) := by
  unfold AuctionWorld.HandleAuctionRemoveItem
  split
  case h_2 => exact .inl rfl
  rename_i player house' hplayer
  split
  · exact .inl rfl
  rename_i auction hauction
  split
  · exact .inl rfl
  split
  · exact .inl rfl
  rename_i pItem _
  dsimp only
  split
  · exact .inl rfl
  rename_i hmoney
  refine .inr ⟨player, house', auction, pItem, hplayer, hauction, ?_⟩
  by_cases hzero : auction.bidder = 0
  · rw [if_neg (not_not.mpr hzero), if_neg (not_not.mpr hzero)]
    exact .inl ⟨hzero, rfl⟩
  rw [if_pos hzero, if_pos hzero]
  have hcut : AuctionWorld.GetAuctionCut env auction ≤ player.money := by
    rw [decide_eq_true hzero, Bool.true_and, decide_eq_true_eq] at hmoney
    exact Nat.le_of_not_lt hmoney
  exact .inr ⟨hzero, hcut, rfl⟩

theorem Conserves.removeItem (hold : Consistent world paid) (house : Option AuctionHouseFaction)
    (id : ℕ) :
    Conserves world paid (world.run (.removeItem env guid house id)) := by
  rw [AuctionWorld.run]
  rcases HandleAuctionRemoveItem_cases env world guid house id with hrefused |
    ⟨player, house', auction, pItem, hplayer, hauction, ⟨hzero, hresult⟩ |
      ⟨hbidder, hcut, hresult⟩⟩
  · rw [hrefused]
    exact Conserves.refused hold
  · obtain rfl := (hold.auction house' id auction hauction).key
    have hwealth := @wealth_cancelled world guid house' auction pItem hauction
    have hheld : held auction = 0 := by rw [held, if_neg (not_not.mpr hzero)]
    rw [hresult]
    refine ⟨hold.cancelled house' auction pItem, ?_, nofun⟩
    rw [Balanced, map_nil, sum_nil]
    dsimp only
    omega
  · have hsound := hold.auction house' id auction hauction
    obtain rfl := hsound.key
    have hmax := hold.money guid player hplayer
    have hmails := @mailsOnly_cancelledMail world env auction
    have hplayer' : (world.SendAuctionCancelledToBidderMail env auction).players.find? guid =
        some player := by rw [hmails.players, hplayer]
    have hpaid := Paid.mails_before hmails (Paid.pay hplayer' hcut hmax)
    have hmail := @wealth_SendAuctionCancelledToBidderMail world env auction
      (hsound.bidder hbidder)
    have hpay := wealth_pay hplayer' hcut hmax
    have hwealth := @wealth_cancelled _ guid house' auction pItem (by
      rw [hpaid.auctions]
      exact hauction)
    have hheld := held_of_bidder hbidder
    rw [hresult]
    refine ⟨(hpaid.consistent paid hold).cancelled house' auction pItem, ?_, nofun⟩
    rw [Balanced, map_singleton, sum_singleton, AuctionEvent.change]
    dsimp only
    omega

/-- What the loop of `Update` keeps: the wealth is accounted for, and the auctions
of the house are some of those there were. -/
structure Expiring (world : AuctionWorld) (paid : ℕ → ℤ) (house : AuctionHouseFaction)
    (result : AuctionResult) : Prop where
  consistent : Consistent result.world paid
  balanced : Balanced world result
  succeeded : result.succeeded = true
  before : ∀ id auction, (result.world.auctions house).find? id = some auction →
    (world.auctions house).find? id = some auction

theorem find?_of_removeAuction {id other : ℕ} {auction : AuctionEntry}
    (hfind : ((world.RemoveAuction house id).auctions house).find? other = some auction) :
    (world.auctions house).find? other = some auction := by
  rw [AuctionWorld.RemoveAuction, find?_setAuctions, if_pos rfl, StdMap.find?_erase] at hfind
  split at hfind
  · cases hfind
  · exact hfind

theorem wealth_expired {auction : AuctionEntry}
    (hfind : (world.auctions house).find? auction.Id = some auction) (hzero : auction.bidder = 0) :
    wealth (((world.SendAuctionExpiredMail env auction).RemoveAItem
      auction.item_guid).RemoveAuction house auction.Id) = wealth world := by
  have hmails := @mailsOnly_expiredMail world env auction
  have hremoved := @wealth_RemoveAuction ((world.SendAuctionExpiredMail env auction).RemoveAItem
    auction.item_guid) house auction auction.Id (by
      change ((world.SendAuctionExpiredMail env auction).auctions house).find? auction.Id =
        some auction
      rw [hmails.auctions, hfind])
  have hheld : held auction = 0 := by rw [held, if_neg (not_not.mpr hzero)]
  have hsame : wealth ((world.SendAuctionExpiredMail env auction).RemoveAItem auction.item_guid) =
      wealth (world.SendAuctionExpiredMail env auction) := rfl
  rw [hheld, hsame, wealth_SendAuctionExpiredMail] at hremoved
  exact hremoved

variable {result : AuctionResult}

theorem Expiring.step {checkTime : ℕ} (hold : Expiring world paid house result)
    (hcovered : ∀ id auction, (world.auctions house).find? id = some auction →
      auction.expire_time ≤ checkTime → auction.bidder ≠ 0 →
      AuctionWorld.GetAuctionCut env auction ≤ auction.bid + auction.deposit) (id : ℕ) :
    Expiring world paid house (AuctionWorld.expire env house checkTime result id) := by
  unfold AuctionWorld.expire
  split
  · exact hold
  rename_i auction hauction
  have hsound := hold.consistent.auction house id auction hauction
  obtain rfl := hsound.key
  have hbal := hold.balanced
  rw [Balanced] at hbal
  split
  · exact hold
  rename_i htime
  split
  case isTrue hzero =>
    have hmails : MailsOnly result.world ((result.world.SendAuctionExpiredMail env
        auction).RemoveAItem auction.item_guid) :=
      (mailsOnly_expiredMail auction).trans ⟨rfl, rfl, rfl, rfl⟩
    refine ⟨(hold.consistent.mailsOnly hmails).removeAuction house auction.Id, ?_, rfl, ?_⟩
    · rw [Balanced]
      rw [wealth_expired hauction hzero]
      exact hbal
    · intro other found hfound
      have hkept := find?_of_removeAuction hfound
      rw [hmails.auctions] at hkept
      exact hold.before other found hkept
  case isFalse hbidder =>
    have hcut := hcovered auction.Id auction (hold.before _ _ hauction)
      (Nat.le_of_not_lt htime) hbidder
    have hsale := @wealth_sale _ env _ _ _ hsound.owner hauction
    have hprofit := profit_eq hsound.bid_le hsound.deposit_le hcut
    have hheld := held_of_bidder hbidder
    refine ⟨hold.consistent.sale house auction, ?_, rfl, ?_⟩
    · rw [Balanced, map_append, List.sum_append, map_singleton, sum_singleton, AuctionEvent.change]
      change (wealth (sale env result.world house auction) : ℤ) = _
      omega
    · intro other found hfound
      have hkept := find?_of_removeAuction hfound
      rw [(mailsOnly_sale auction).auctions] at hkept
      exact hold.before other found hkept

theorem Expiring.foldl {checkTime : ℕ}
    (hcovered : ∀ id auction, (world.auctions house).find? id = some auction →
      auction.expire_time ≤ checkTime → auction.bidder ≠ 0 →
      AuctionWorld.GetAuctionCut env auction ≤ auction.bid + auction.deposit) (ids : List ℕ)
    (hold : Expiring world paid house result) :
    Expiring world paid house (ids.foldl (AuctionWorld.expire env house checkTime) result) := by
  induction ids generalizing result with
  | nil => exact hold
  | cons id ids ih => exact ih (hold.step hcovered id)

theorem Conserves.update (hold : Consistent world paid)
    (hclean : Clean ⟨world, events, paid⟩ (.update env house)) :
    Conserves world paid (world.run (.update env house)) := by
  have hstart : Expiring world paid house ⟨world, [], true⟩ := by
    refine ⟨hold, ?_, rfl, fun _ _ hfind => hfind⟩
    rw [Balanced, map_nil, sum_nil, add_zero]
  have hended := hstart.foldl hclean (world.auctions house).keys
  refine ⟨hended.consistent, hended.balanced, fun hfailed => ?_⟩
  exact nomatch hfailed.symm.trans hended.succeeded

end Operations

theorem Conserves.run {run : AuctionRun} {op : AuctionOp} (hold : Consistent run.world run.paid)
    (hclean : Clean run op) :
    Conserves run.world (paidAfter run.world run.paid op) (run.world.run op) := by
  have hpaid : (∀ env guid auctioneer request, op ≠ .sellItem env guid auctioneer request) →
      (∀ env guid house id price, op ≠ .placeBid env guid house id price) →
      paidAfter run.world run.paid op = run.paid := by
    intro hsell hbid
    unfold paidAfter
    split
    · cases op with
      | sellItem env guid auctioneer request => exact absurd rfl (hsell env guid auctioneer request)
      | placeBid env guid house id price => exact absurd rfl (hbid env guid house id price)
      | removeItem | update => rfl
    · rfl
  cases op with
  | sellItem env guid auctioneer request => exact Conserves.sellItem hold hclean
  | placeBid env guid house id price => exact Conserves.placeBid hold hclean
  | removeItem env guid house id =>
    rw [hpaid (fun _ _ _ _ => AuctionOp.noConfusion) fun _ _ _ _ _ => AuctionOp.noConfusion]
    exact Conserves.removeItem hold house id
  | update env house =>
    rw [hpaid (fun _ _ _ _ => AuctionOp.noConfusion) fun _ _ _ _ _ => AuctionOp.noConfusion]
    exact Conserves.update hold hclean

structure Opens (run : AuctionRun) : Prop where
  events : run.events = []
  auctions : ∀ house, run.world.auctions house = .empty
  money : ∀ guid player, run.world.players.find? guid = some player →
    player.money ≤ MAX_MONEY_AMOUNT
  accounts : ∀ guid player, run.world.players.find? guid = some player →
    guid ≠ 0 ∧ run.world.accounts guid ≠ 0

theorem Opens.consistent {run : AuctionRun} (hopens : Opens run) :
    Consistent run.world run.paid := by
  have hnone : ∀ house id auction, (run.world.auctions house).find? id ≠ some auction := by
    intro house id auction hfind
    rw [hopens.auctions house] at hfind
    exact nomatch (StdMap.find?_empty id).symm.trans hfind
  exact ⟨hopens.money, hopens.accounts, fun house id auction h => absurd h (hnone house id auction),
    fun house id auction h => absurd h (hnone house id auction),
    fun id house _ auction _ h => absurd h (hnone house id auction)⟩

/-- What holds of a run that opened with `start`. -/
def Accounted (start run : AuctionRun) : Prop :=
  Consistent run.world run.paid ∧
    (wealth run.world : ℤ) = wealth start.world + (run.events.map AuctionEvent.change).sum

theorem Accounted.step {start run run' : AuctionRun} {op : AuctionOp}
    (hold : Accounted start run) (hclean : Clean run op) (hstep : run.step op = some run') :
    Accounted start run' := by
  obtain ⟨hcons, hwealth⟩ := hold
  have hconserves := Conserves.run hcons hclean
  cases hstep
  refine ⟨hconserves.consistent, ?_⟩
  have hbal := hconserves.balanced
  rw [Balanced] at hbal
  dsimp only
  rw [map_append, List.sum_append]
  omega

/-- The wealth changes by deposits and cuts only, no bid is higher than what its
bidder has paid, and what fails changes nothing. -/
theorem auctions_conserve {start run : AuctionRun} (hopens : Opens start)
    (hreach : Reachable (fun first => first = start)
      (guarded Clean (computed AuctionRun.step)) run) :
    (wealth run.world : ℤ) = wealth start.world + (run.events.map AuctionEvent.change).sum ∧
      (∀ house id auction, (run.world.auctions house).find? id = some auction →
        (auction.bid : ℤ) ≤ run.paid id) ∧
      ∀ op, Clean run op → (run.world.run op).succeeded = false →
        (run.world.run op).world = run.world ∧ (run.world.run op).events = [] := by
  have haccounted : Accounted start run := by
    apply hreach.invariant (Accounted start)
    · rintro first rfl
      refine ⟨hopens.consistent, ?_⟩
      rw [hopens.events, map_nil, sum_nil, add_zero]
    · rintro before op after hold ⟨hclean, hstep⟩
      exact hold.step hclean hstep
  obtain ⟨hconsistent, hwealth⟩ := haccounted
  exact ⟨hwealth, hconsistent.paid, fun op hclean => (Conserves.run hconsistent hclean).failed⟩

def marketWorld : AuctionWorld where
  players := (StdMap.empty.insert 1 ⟨1000, StdMap.empty.insert 7 ⟨25, 1, true, false, 0⟩⟩).insert 2
    ⟨1000, .empty⟩
  accounts := id
  auctions := fun _ => .empty
  aItems := .empty
  mails := []
  nextAuctionId := 1
  nextItemGuid := 100

def marketEnv (allowTwoSideInteraction : Bool) : AuctionEnv where
  connected := fun _ => true
  GetItemTemplate := fun _ => ⟨0, 10, 1⟩
  GetCreatureTemplate := fun _ => none
  allowTwoSideInteraction := allowTwoSideInteraction
  GetAuctionDeposit := fun _ _ _ _ => 100
  GetAuctionCut := fun _ _ => 0
  GetAuctionOutBid := fun _ => 1
  auctionTime := fun time => time
  GetGameTime := 0

def sellSeven (allowTwoSideInteraction : Bool) : AuctionOp :=
  .sellItem (marketEnv allowTwoSideInteraction) 1
    (some ⟨.neutral, some ⟨.AUCTIONHOUSE_NEUTRAL, 5, 5⟩, none⟩) ⟨[(7, 1)], 50, 500, 720⟩

theorem opens_marketWorld : Opens ⟨marketWorld, [], fun _ => 0⟩ := by
  have hplayers : ∀ guid player, marketWorld.players.find? guid = some player →
      (guid = 1 ∨ guid = 2) ∧ player.money = 1000 := by
    intro guid player hfind
    rw [marketWorld, StdMap.find?_insert] at hfind
    split at hfind
    case isTrue heq =>
      cases hfind
      exact ⟨.inr heq.symm, rfl⟩
    case isFalse =>
      rw [StdMap.find?_insert] at hfind
      split at hfind
      case isFalse => exact nomatch (StdMap.find?_empty guid).symm.trans hfind
      rename_i heq
      cases hfind
      exact ⟨.inl heq.symm, rfl⟩
  refine ⟨rfl, fun _ => rfl, fun guid player hfind => ?_, fun guid player hfind => ?_⟩
  · rw [(hplayers guid player hfind).2]
    decide
  · rcases (hplayers guid player hfind).1 with rfl | rfl
    · exact ⟨by decide, by decide⟩
    · exact ⟨by decide, by decide⟩

/-- The deposit is charged although no auction is made. -/
theorem deposit_lost : ∃ (start : AuctionRun) (op : AuctionOp),
    Opens start ∧ (start.world.run op).succeeded = false ∧ (start.world.run op).events = [] ∧
      wealth start.world = 2000 ∧ wealth (start.world.run op).world = 1900 :=
  ⟨⟨marketWorld, [], fun _ => 0⟩, sellSeven false, opens_marketWorld, by decide +kernel,
    by decide +kernel, by decide +kernel, by decide +kernel⟩

/-- An auction that is made, bid for and cancelled. -/
theorem auctions_conserve_cancelled : ∃ start run, Opens start ∧
      Reachable (fun first => first = start) (guarded Clean (computed AuctionRun.step)) run ∧
      run.events = [.created 100, .cancelled 0] ∧
      (wealth run.world : ℤ) = wealth start.world + (run.events.map AuctionEvent.change).sum := by
  have hrun : ([sellSeven true, .placeBid (marketEnv true) 2 (some .neutral) 1 60,
      .removeItem (marketEnv true) 1 (some .neutral) 1].foldlM AuctionRun.step
      ⟨marketWorld, [], fun _ => 0⟩).map AuctionRun.events = some [.created 100, .cancelled 0] := by
    decide +kernel
  obtain ⟨run, hrun, hevents⟩ := Option.map_eq_some_iff.mp hrun
  have hreach : Reachable (fun first => first = ⟨marketWorld, [], fun _ => 0⟩)
      (guarded Clean (computed AuctionRun.step)) run := by
    refine Reachable.guarded_foldlM (.start rfl) (fun op hop state => ?_) hrun
    simp only [mem_cons, not_mem_nil, or_false] at hop
    rcases hop with rfl | rfl | rfl
    · exact fun _ _ _ _ _ _ _ _ => rfl
    · exact fun _ _ _ _ => Nat.zero_le _
    · trivial
  exact ⟨_, run, opens_marketWorld, hreach, hevents, (auctions_conserve opens_marketWorld hreach).1⟩

end AzerothCore.Auctions
