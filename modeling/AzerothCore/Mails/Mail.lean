import AzerothCore.Cache.CharacterCache
import AzerothCore.Common.Money
import AzerothCore.Storage.Inventory

/-!
# Mails

A draft is filled with items and money and becomes a mail of the receiver. The
mails of a character and the items in them are kept in the same way whether he
is online or not, as they are in the database. Texts that only the client
shows, the stationery and the time of expiry are left out.
-/

namespace AzerothCore.Mails

open Caching Storage

def MAX_MAIL_ITEMS : ℕ := 12

inductive MailMessageType where
  | MAIL_NORMAL
  | MAIL_AUCTION
  | MAIL_CREATURE
  | MAIL_GAMEOBJECT
  | MAIL_CALENDAR
deriving DecidableEq

inductive MailState where
  | MAIL_STATE_UNCHANGED
  | MAIL_STATE_CHANGED
  | MAIL_STATE_DELETED
deriving DecidableEq

structure MailItemInfo where
  item_guid : ℕ
  item_template : ℕ
deriving DecidableEq

structure Mail where
  messageID : ℕ
  messageType : MailMessageType
  sender : ℕ
  receiver : ℕ
  items : List MailItemInfo
  removedItems : List ℕ
  deliver_time : ℕ
  money : ℕ
  COD : ℕ
  state : MailState
deriving DecidableEq

structure MailDraft where
  m_items : StdMap ℕ Item
  m_money : ℕ
  m_COD : ℕ

structure MailSender where
  m_messageType : MailMessageType
  m_senderId : ℕ

structure MailPlayer where
  inventory : Storage.Player
  money : ℕ
  m_mail : List Mail
  mMitems : StdMap ℕ Item
  m_mailsUpdated : Bool
  connected : Bool

structure MailWorld where
  players : StdMap ℕ MailPlayer
  cache : CharacterCache
  nextItemGuid : ℕ
  nextMailId : ℕ
  gameTime : ℕ

namespace Mail

def HasItem (mail : Mail) (guid : ℕ) : Bool := mail.items.any fun info => info.item_guid = guid

/-- The first of the items with the guid goes. -/
def RemoveItem (mail : Mail) (guid : ℕ) : Mail :=
  { mail with items := mail.items.eraseP fun info => info.item_guid = guid }

end Mail

namespace MailDraft

def empty : MailDraft := ⟨StdMap.empty, 0, 0⟩

def AddItem (draft : MailDraft) (item : Item) : MailDraft :=
  { draft with m_items := draft.m_items.insert item.guid item }

def AddMoney (draft : MailDraft) (money : ℕ) : MailDraft := { draft with m_money := money }

def AddCOD (draft : MailDraft) (COD : ℕ) : MailDraft := { draft with m_COD := COD }

end MailDraft

/-! ## The mails of a character -/

namespace MailPlayer

variable (player : MailPlayer)

def GetMail (mailId : ℕ) : Option Mail := player.m_mail.find? fun mail => mail.messageID = mailId

/-- The first mail with an id is changed. -/
def setMail (mailId : ℕ) (mail : Mail) : MailPlayer :=
  { player with
    m_mail := player.m_mail.set (player.m_mail.findIdx fun other => other.messageID = mailId)
      mail }

def RemoveMail (mailId : ℕ) : MailPlayer :=
  { player with m_mail := player.m_mail.eraseP fun mail => mail.messageID = mailId }

def AddMail (mail : Mail) : MailPlayer := { player with m_mail := mail :: player.m_mail }

def GetMItem (guid : ℕ) : Option Item := player.mMitems.find? guid

def AddMItem (item : Item) : MailPlayer :=
  { player with mMitems := player.mMitems.insert item.guid item }

def RemoveMItem (guid : ℕ) : MailPlayer := { player with mMitems := player.mMitems.erase guid }

def _SaveMail : MailPlayer :=
  if player.m_mail = [] ∨ player.m_mailsUpdated = false then player
  else
    { player with
      m_mail := (player.m_mail.filter fun m => m.state ≠ .MAIL_STATE_DELETED).map fun m =>
        if m.state = .MAIL_STATE_CHANGED then
          { m with removedItems := [], state := .MAIL_STATE_UNCHANGED }
        else m
      m_mailsUpdated := false }

end MailPlayer

namespace MailWorld

variable (world : MailWorld)

def setPlayer (guid : ℕ) (player : MailPlayer) : MailWorld :=
  { world with players := world.players.insert guid player }

def UpdateCharacterMailCount (guid : ℕ) (count : ℤ) : MailWorld :=
  { world with cache := world.cache.UpdateCharacterMailCount guid count false }

def SendMailTo (draft : MailDraft) (receiver : ℕ) (sender : MailSender) (deliver_delay : ℕ) :
    MailWorld :=
  let mail : Mail :=
    { messageID := world.nextMailId
      messageType := sender.m_messageType
      sender := sender.m_senderId
      receiver := receiver
      items := draft.m_items.entries.map fun entry => ⟨entry.2.guid, entry.2.entry⟩
      removedItems := []
      deliver_time := world.gameTime + deliver_delay
      money := draft.m_money
      COD := draft.m_COD
      state := .MAIL_STATE_UNCHANGED }
  let world := { world with nextMailId := world.nextMailId + 1 }.UpdateCharacterMailCount receiver 1
  match world.players.find? receiver with
  | none => world
  | some pReceiver =>
    world.setPlayer receiver
      (draft.m_items.entries.foldl (fun player entry => player.AddMItem entry.2)
        (pReceiver.AddMail mail))

def GetCharacterAccountIdByGuid (guid : ℕ) : ℕ :=
  (world.cache.find guid).elim 0 fun node => node.2.AccountId

def FindPlayer (guid : ℕ) : Option MailPlayer :=
  (world.players.find? guid).filter MailPlayer.connected

def SendReturnToSender (draft : MailDraft) (sender_guid receiver_guid : ℕ) : MailWorld :=
  if world.FindPlayer receiver_guid = none ∧
      world.GetCharacterAccountIdByGuid receiver_guid = 0 then
    -- the items in the draft are deleted
    world
  else
    world.SendMailTo draft receiver_guid ⟨.MAIL_NORMAL, sender_guid⟩ 0

end MailWorld

end AzerothCore.Mails

/-! ## The requests of a mailbox -/

namespace AzerothCore.Mails

open Caching Storage

inductive MailResponseResult where
  | MAIL_OK
  | MAIL_ERR_EQUIP_ERROR (equipError : InventoryResult)
  | MAIL_ERR_CANNOT_SEND_TO_SELF
  | MAIL_ERR_NOT_ENOUGH_MONEY
  | MAIL_ERR_RECIPIENT_NOT_FOUND
  | MAIL_ERR_NOT_YOUR_TEAM
  | MAIL_ERR_INTERNAL_ERROR
  | MAIL_ERR_RECIPIENT_CAP_REACHED
  | MAIL_ERR_CANT_SEND_WRAPPED_COD
  | MAIL_ERR_TOO_MANY_ATTACHMENTS
  | MAIL_ERR_MAIL_ATTACHMENT_INVALID
deriving DecidableEq

def ITEM_FLAG_CONJURED : ℕ := 0x00000002

structure MailEnv where
  data : GameData
  checks : ItemChecks
  normalizePlayerName : String → Option String
  /-- The level of the sender is high enough. -/
  maySend : ℕ → Bool
  /-- The team of the receiver is allowed, for characters of two accounts. -/
  mayReceive : ℕ → ℕ → Bool
  /-- `ITEM_FIELD_DURATION` is set. -/
  hasDuration : Item → Bool
  /-- `ITEM_FIELD_FLAG_WRAPPED` -/
  isWrapped : Item → Bool
  /-- `CONFIG_MAIL_DELIVERY_DELAY` -/
  deliveryDelay : ℕ

structure SendMailRequest where
  /-- The subject has no text that crashes the client. -/
  subjectAllowed : Bool
  canOpenMailBox : Bool
  receiver : String
  itemGUIDs : List ℕ
  money : ℕ
  COD : ℕ

namespace SendMailRequest

def cost (request : SendMailRequest) : ℕ :=
  if request.itemGUIDs = [] then 30 else 30 * request.itemGUIDs.length

def reqmoney (request : SendMailRequest) : ℕ := uint32 (request.cost + request.money)

end SendMailRequest

namespace MailWorld

variable (env : MailEnv) (world : MailWorld) (guid : ℕ)

/-! ## `HandleSendMail` -/

def checkAttachment (player : MailPlayer) (receiverGuid COD : ℕ) (itemGUID : ℕ) :
    Except (Option MailResponseResult) (ItemPos × Item) :=
  if itemGUID = 0 then .error (some .MAIL_ERR_MAIL_ATTACHMENT_INVALID)
  else
    match player.inventory.GetItemByGuid env.data itemGUID with
    | none => .error (some .MAIL_ERR_MAIL_ATTACHMENT_INVALID)
    | some (pos, item) =>
      if player.inventory.IsNotEmptyBag env.data item then
        .error (some (.MAIL_ERR_EQUIP_ERROR .EQUIP_ERR_CAN_ONLY_DO_WITH_EMPTY_BAGS))
      else if !player.inventory.CanBeTraded env.data env.checks pos item true false then
        .error (some (.MAIL_ERR_EQUIP_ERROR .EQUIP_ERR_MAIL_BOUND_ITEM))
      else if env.data.IsBoundAccountWide item && item.soulBound &&
          world.GetCharacterAccountIdByGuid guid ≠
            world.GetCharacterAccountIdByGuid receiverGuid then
        .error (some (.MAIL_ERR_EQUIP_ERROR .EQUIP_ERR_ARTEFACTS_ONLY_FOR_OWN_CHARACTERS))
      else if ((env.data.GetTemplate item).any fun proto =>
          proto.Flags &&& ITEM_FLAG_CONJURED ≠ 0) || env.hasDuration item then
        .error (some (.MAIL_ERR_EQUIP_ERROR .EQUIP_ERR_MAIL_BOUND_ITEM))
      else if COD ≠ 0 ∧ env.isWrapped item then .error (some .MAIL_ERR_CANT_SEND_WRAPPED_COD)
      else .ok (pos, item)

def mails_count (receiverGuid : ℕ) : ℕ :=
  match world.FindPlayer receiverGuid with
  | some receive => receive.m_mail.length % 2 ^ 16
  | none => (world.cache.find receiverGuid).elim 0 fun node => node.2.MailCount

def checkSendMail (player : MailPlayer) (request : SendMailRequest) :
    Except (Option MailResponseResult) (ℕ × List (ItemPos × Item)) :=
  if !request.subjectAllowed then .error none
  else if MAX_MAIL_ITEMS < request.itemGUIDs.length then
    .error (some .MAIL_ERR_TOO_MANY_ATTACHMENTS)
  else if !request.canOpenMailBox || request.receiver = "" || !env.maySend guid then .error none
  else
    match (env.normalizePlayerName request.receiver).bind
        world.cache.GetCharacterGuidByName with
    | none => .error (some .MAIL_ERR_RECIPIENT_NOT_FOUND)
    | some receiverGuid =>
      if receiverGuid = 0 then .error (some .MAIL_ERR_RECIPIENT_NOT_FOUND)
      else if guid = receiverGuid then .error (some .MAIL_ERR_CANNOT_SEND_TO_SELF)
      else if request.money ≠ 0 ∧ request.COD ≠ 0 then .error (some .MAIL_ERR_INTERNAL_ERROR)
      else if request.reqmoney < request.money ∨ player.money < request.reqmoney then
        .error (some .MAIL_ERR_NOT_ENOUGH_MONEY)
      else if 100 < world.mails_count receiverGuid then
        .error (some .MAIL_ERR_RECIPIENT_CAP_REACHED)
      else if !env.mayReceive guid receiverGuid then .error (some .MAIL_ERR_NOT_YOUR_TEAM)
      else
        match request.itemGUIDs.mapM
            (world.checkAttachment env guid player receiverGuid request.COD) with
        | .error answer => .error answer
        | .ok items => .ok (receiverGuid, items)

def sendChecked (player : MailPlayer) (request : SendMailRequest) (receiverGuid : ℕ)
    (items : List (ItemPos × Item)) : MailWorld :=
  let inventory := items.foldl
    (fun inventory found => inventory.MoveItemFromInventory env.data found.1) player.inventory
  let draft := items.foldl
    (fun draft found => draft.AddItem { found.2 with owner := receiverGuid }) MailDraft.empty
  let needItemDelay := items ≠ [] ∧
    world.GetCharacterAccountIdByGuid guid ≠ world.GetCharacterAccountIdByGuid receiverGuid
  (world.setPlayer guid
    { player with
      inventory := inventory
      money := ModifyMoney player.money (-int32 request.reqmoney) }).SendMailTo
    ((draft.AddMoney request.money).AddCOD (if items = [] then 0 else request.COD)) receiverGuid
    ⟨.MAIL_NORMAL, guid⟩ (if needItemDelay then env.deliveryDelay else 0)

def HandleSendMail (request : SendMailRequest) : MailWorld × Option MailResponseResult :=
  match world.FindPlayer guid with
  | none => (world, none)
  | some player =>
    match world.checkSendMail env guid player request with
    | .error answer => (world, answer)
    | .ok (receiverGuid, items) =>
      (world.sendChecked env guid player request receiverGuid items, some .MAIL_OK)

/-! ## The other handlers -/

def readyMail (player : MailPlayer) (mailId : ℕ) : Option Mail :=
  (player.GetMail mailId).filter fun m =>
    m.state ≠ .MAIL_STATE_DELETED && m.deliver_time ≤ world.gameTime

def HandleMailDelete (canOpenMailBox : Bool) (mailId : ℕ) : MailWorld × Option MailResponseResult :=
  match (world.FindPlayer guid).filter fun _ => canOpenMailBox with
  | none => (world, none)
  | some player =>
    let player := { player with m_mailsUpdated := true }
    match player.GetMail mailId with
    | none => (world.setPlayer guid player, some .MAIL_OK)
    | some m =>
      if m.COD ≠ 0 then (world.setPlayer guid player, some .MAIL_ERR_INTERNAL_ERROR)
      else
        ((world.setPlayer guid (player.setMail mailId
            { m with state := .MAIL_STATE_DELETED })).UpdateCharacterMailCount guid (-1),
          some .MAIL_OK)

def draftOf (player : MailPlayer) (m : Mail) : MailDraft :=
  (m.items.filterMap fun info => player.GetMItem info.item_guid).foldl MailDraft.AddItem
    MailDraft.empty

def HandleMailReturnToSender (canOpenMailBox : Bool) (mailId : ℕ) :
    MailWorld × Option MailResponseResult :=
  match (world.FindPlayer guid).filter fun _ => canOpenMailBox with
  | none => (world, none)
  | some player =>
    match world.readyMail player mailId with
    | none => (world, some .MAIL_ERR_INTERNAL_ERROR)
    | some m =>
      let returned :=
        if m.messageType = .MAIL_NORMAL ∧ m.sender ≠ 0 then
          (world.setPlayer guid (m.items.foldl
              (fun player info => player.RemoveMItem info.item_guid)
              (player.RemoveMail mailId))).SendReturnToSender
            ((draftOf player m).AddMoney m.money) m.receiver m.sender
        else
          world.setPlayer guid (player.RemoveMail mailId)
      (returned.UpdateCharacterMailCount guid (-1), some .MAIL_OK)

def payCOD (player : MailPlayer) (m : Mail) : MailWorld :=
  if m.COD = 0 then world
  else
    let world := world.setPlayer guid
      { player with money := ModifyMoney player.money (-int32 m.COD) }
    if world.FindPlayer m.sender ≠ none ∨ world.GetCharacterAccountIdByGuid m.sender ≠ 0 then
      world.SendMailTo (MailDraft.empty.AddMoney m.COD) m.sender ⟨.MAIL_NORMAL, m.receiver⟩ 0
    else
      world

def HandleMailTakeItem (canOpenMailBox : Bool) (mailId itemLowGuid : ℕ) :
    MailWorld × Option MailResponseResult :=
  match (world.FindPlayer guid).filter fun _ => canOpenMailBox with
  | none => (world, none)
  | some player =>
    match (world.readyMail player mailId).filter fun m => m.HasItem itemLowGuid with
    | none => (world, some .MAIL_ERR_INTERNAL_ERROR)
    | some m =>
      if player.money < m.COD then (world, some .MAIL_ERR_NOT_ENOUGH_MONEY)
      else
        match player.GetMItem itemLowGuid with
        | none => (world, some (.MAIL_ERR_EQUIP_ERROR .EQUIP_ERR_ITEM_NOT_FOUND))
        | some it =>
          let check := player.inventory.CanStoreItem env.data NULL_BAG NULL_SLOT [] it.entry
            it.count (some it) false
          if check.result ≠ .EQUIP_ERR_OK then (world, some (.MAIL_ERR_EQUIP_ERROR check.result))
          else
            let taken : Mail := { m.RemoveItem itemLowGuid with
                removedItems := m.removedItems ++ [itemLowGuid]
                COD := 0
                state := .MAIL_STATE_CHANGED }
            let paid := world.payCOD guid player m
            match paid.players.find? guid with
            | none => (paid, none)
            | some player =>
              let stored := player.inventory.MoveItemToInventory env.data check.dest it
                paid.nextItemGuid
              let player := { ((player.setMail mailId taken).RemoveMItem it.guid) with
                  inventory := stored.1
                  m_mailsUpdated := true }
              ({ paid.setPlayer guid player._SaveMail with nextItemGuid := stored.2 },
                some .MAIL_OK)

def HandleMailTakeMoney (canOpenMailBox : Bool) (mailId : ℕ) :
    MailWorld × Option MailResponseResult :=
  match (world.FindPlayer guid).filter fun _ => canOpenMailBox with
  | none => (world, none)
  | some player =>
    match world.readyMail player mailId with
    | none => (world, some .MAIL_ERR_INTERNAL_ERROR)
    | some m =>
      if tooMuchMoney player.money (int32 m.money) then
        (world, some (.MAIL_ERR_EQUIP_ERROR .EQUIP_ERR_TOO_MUCH_GOLD))
      else
        let player :=
          { player.setMail mailId { m with money := 0, state := .MAIL_STATE_CHANGED } with
            money := ModifyMoney player.money (int32 m.money)
            m_mailsUpdated := true }
        (world.setPlayer guid player._SaveMail, some .MAIL_OK)

end MailWorld

end AzerothCore.Mails

/-! ## The number of mails in the character cache -/

namespace AzerothCore.Mails

open List Option
open Caching Reachability Storage

namespace MailWorld

variable {world : MailWorld} {character guid : ℕ}

/-! ## The mails of a character -/

def isLive (m : Mail) : Bool := m.state ≠ .MAIL_STATE_DELETED

def liveMails (world : MailWorld) (guid : ℕ) : ℕ :=
  (world.players.find? guid).elim 0 fun player => player.m_mail.countP isLive

def mailCount (world : MailWorld) (guid : ℕ) : ℕ :=
  (world.cache.find guid).elim 0 fun node => node.2.MailCount

structure Counted (world : MailWorld) (character pending : ℕ) : Prop where
  agree : world.cache.StoresAgree
  cached : world.cache.find character ≠ none
  known : world.players.find? character ≠ none
  count : world.mailCount character = world.liveMails character + pending
  bound : world.liveMails character + pending < 256

variable {mailId : ℕ}

theorem GetMail_split {player : MailPlayer} {m : Mail} (hmail : player.GetMail mailId = some m) :
    ∃ front back, player.m_mail = front ++ m :: back ∧
      (∀ changed, (player.setMail mailId changed).m_mail = front ++ changed :: back) ∧
      (player.RemoveMail mailId).m_mail = front ++ back := by
  obtain ⟨hid, front, back, heq, hfront⟩ := List.find?_eq_some_iff_append.mp hmail
  refine ⟨front, back, heq, fun changed => ?_, ?_⟩
  · have hindex : player.m_mail.findIdx (fun other => decide (other.messageID = mailId)) =
        front.length := by
      rw [heq, findIdx_append, findIdx_eq_length_of_false fun mail hmem => by
        simpa using hfront mail hmem]
      simp [findIdx_cons, hid]
    show player.m_mail.set _ changed = _
    rw [hindex, heq, set_append_right _ _ le_rfl, Nat.sub_self]
    rfl
  · show player.m_mail.eraseP _ = _
    rw [heq, eraseP_append_right _ fun mail hmem => by simpa using hfront mail hmem,
      eraseP_cons_of_pos (p := fun mail : Mail => decide (mail.messageID = mailId)) hid]

variable (player : MailPlayer)

theorem addItems_m_mail (entries : List (ℕ × Item)) :
    (entries.foldl (fun player entry => player.AddMItem entry.2) player).m_mail =
      player.m_mail := by
  induction entries generalizing player with
  | nil => rfl
  | cons entry entries ih => exact ih (player.AddMItem entry.2)

theorem removeItems_m_mail (items : List MailItemInfo) :
    (items.foldl (fun player info => player.RemoveMItem info.item_guid) player).m_mail =
      player.m_mail := by
  induction items generalizing player with
  | nil => rfl
  | cons info items ih => exact ih (player.RemoveMItem info.item_guid)

theorem liveMails_setPlayer : (world.setPlayer guid player).liveMails character =
      if guid = character then player.m_mail.countP isLive else world.liveMails character := by
  unfold liveMails setPlayer
  rw [StdMap.find?_insert]
  split <;> rfl

variable {pending : ℕ}

theorem Counted.setPlayer {pending' : ℕ} (hcounted : Counted world character pending)
    {player : MailPlayer}
    (hlive : guid = character →
      player.m_mail.countP isLive + pending' = world.liveMails character + pending)
    (hother : guid ≠ character → pending' = pending) :
    Counted (world.setPlayer guid player) character pending' := by
  refine ⟨hcounted.agree, hcounted.cached, ?_, ?_, ?_⟩
  · show (world.players.insert guid player).find? character ≠ none
    rw [StdMap.find?_insert]
    split
    · exact nofun
    · exact hcounted.known
  · rw [liveMails_setPlayer]
    show world.mailCount character = _
    rw [hcounted.count]
    split
    case isTrue heq => exact (hlive heq).symm
    case isFalse hne => rw [hother hne]
  · rw [liveMails_setPlayer]
    have hbound := hcounted.bound
    split
    case isTrue heq => rwa [hlive heq]
    case isFalse hne => rwa [hother hne]

theorem mailCount_update (hagree : world.cache.StoresAgree)
    (hcached : world.cache.find character ≠ none) (count : ℤ) :
    (world.UpdateCharacterMailCount guid count).mailCount character =
      if character = guid then CharacterCache.newMailCount (world.mailCount character) count false
      else world.mailCount character := by
  have hfind := (CharacterCache.UpdateCharacterMailCount_agrees hagree guid count false).2
    character
  unfold mailCount
  show Option.elim ((world.cache.UpdateCharacterMailCount guid count false).find character) _ _ = _
  rw [hfind]
  split
  case isFalse => rfl
  rename_i heq
  subst heq
  cases hnode : world.cache.find character with
  | none => exact absurd hnode hcached
  | some node => rfl

theorem newMailCount_lt {mailCount : ℕ} (hlt : mailCount < 256) (count : ℤ) :
    CharacterCache.newMailCount mailCount count false < 256 := by
  unfold CharacterCache.newMailCount
  rw [if_neg Bool.false_ne_true]
  split
  · exact hlt
  unfold toUint8
  omega

theorem Counted.update {pending' : ℕ} (hcounted : Counted world character pending) {count : ℤ}
    (hcount : guid = character →
      CharacterCache.newMailCount (world.liveMails character + pending) count false =
        world.liveMails character + pending') (hother : guid ≠ character → pending' = pending) :
    Counted (world.UpdateCharacterMailCount guid count) character pending' where
  agree := (CharacterCache.UpdateCharacterMailCount_agrees hcounted.agree guid count false).1
  cached := by
    have hfind := (CharacterCache.UpdateCharacterMailCount_agrees hcounted.agree guid count
      false).2 character
    show (world.cache.UpdateCharacterMailCount guid count false).find character ≠ none
    rw [hfind]
    split
    case isFalse => exact hcounted.cached
    rename_i heq
    intro hnone
    exact hcounted.cached (heq ▸ map_eq_none_iff.mp hnone)
  known := hcounted.known
  count := by
    have hlive : (world.UpdateCharacterMailCount guid count).liveMails character =
        world.liveMails character := rfl
    rw [mailCount_update hcounted.agree hcounted.cached, hlive, hcounted.count]
    split
    case isTrue heq => exact hcount heq.symm
    case isFalse hne => rw [hother (Ne.symm hne)]
  bound := by
    show world.liveMails character + pending' < 256
    by_cases heq : guid = character
    · rw [← hcount heq]
      exact newMailCount_lt hcounted.bound count
    · rw [hother heq]
      exact hcounted.bound

theorem newMailCount_increase {count : ℕ} (hlt : count < 255) :
    CharacterCache.newMailCount count 1 false = count + 1 := by
  have hwrap : toUint8 ((count : ℤ) + 1) = count + 1 := by
    unfold toUint8
    omega
  simp [CharacterCache.newMailCount, hwrap]

theorem newMailCount_decrease {count : ℕ} (hlt : count < 256) :
    CharacterCache.newMailCount count (-1) false = count - 1 := by
  by_cases hzero : count = 0
  · simp [CharacterCache.newMailCount, hzero]
  have hwrap : toUint8 ((count : ℤ) + -1) = count - 1 := by
    unfold toUint8
    omega
  simp [CharacterCache.newMailCount, hzero, hwrap]

theorem Counted.sendMailTo (hcounted : Counted world character pending) (draft : MailDraft)
    (receiver : ℕ) (sender : MailSender) (delay : ℕ)
    (hroom : receiver = character → world.liveMails character + pending < 255) :
    Counted (world.SendMailTo draft receiver sender delay) character pending := by
  -- after the counter went up, the mail is still missing
  have hstart : Counted { world with nextMailId := world.nextMailId + 1 } character pending :=
    ⟨hcounted.agree, hcounted.cached, hcounted.known, hcounted.count, hcounted.bound⟩
  have hup := @Counted.update _ character receiver _
    (if receiver = character then pending + 1 else pending) hstart 1
    (fun heq => by
      rw [if_pos heq]
      exact newMailCount_increase (hroom heq))
    (fun hne => if_neg hne)
  unfold SendMailTo
  dsimp only
  split
  case h_1 hnone =>
    have hne : receiver ≠ character := by
      rintro rfl
      exact hcounted.known hnone
    rw [if_neg hne] at hup
    exact hup
  rename_i pReceiver hfind
  refine hup.setPlayer (fun heq => ?_) fun hne => (if_neg hne).symm
  subst heq
  have hlive : world.liveMails receiver = pReceiver.m_mail.countP isLive := by
    unfold liveMails
    rw [show world.players.find? receiver = some pReceiver from hfind]
    rfl
  rw [addItems_m_mail, if_pos rfl]
  show List.countP isLive (_ :: pReceiver.m_mail) + pending = world.liveMails receiver + _
  rw [countP_cons_of_pos rfl, hlive]
  omega

theorem liveMails_of_find {player : MailPlayer}
    (hfind : world.players.find? character = some player) :
    world.liveMails character = player.m_mail.countP isLive := by
  unfold liveMails
  rw [hfind]
  rfl

theorem find_of_online {canOpenMailBox : Bool} {player : MailPlayer}
    (honline : (world.FindPlayer guid).filter (fun _ => canOpenMailBox) = some player) :
    world.players.find? guid = some player := by
  exact (filter_eq_some_iff.mp (filter_eq_some_iff.mp honline).1).1

theorem GetMail_live {player : MailPlayer} {m : Mail} (hmail : player.GetMail mailId = some m)
    (hlive : isLive m = true) :
    (player.RemoveMail mailId).m_mail.countP isLive + 1 = player.m_mail.countP isLive ∧
      ∀ changed, isLive changed = false → (player.setMail mailId changed).m_mail.countP isLive + 1 =
          player.m_mail.countP isLive := by
  obtain ⟨front, back, heq, hset, hremove⟩ := GetMail_split hmail
  rw [hremove, heq, countP_append, countP_append, countP_cons_of_pos hlive]
  refine ⟨by omega, fun changed hchanged => ?_⟩
  rw [hset, countP_append, countP_cons_of_neg (by rw [hchanged]; exact nofun)]
  omega

theorem Counted.delete (hcounted : Counted world character 0) (canOpenMailBox : Bool)
    (mailId : ℕ)
    (hfresh : guid = character → ∀ player m, world.players.find? guid = some player →
      player.GetMail mailId = some m → isLive m = true) :
    Counted (world.HandleMailDelete guid canOpenMailBox mailId).1 character 0 := by
  unfold HandleMailDelete
  split
  · exact hcounted
  rename_i player honline
  have hfind := find_of_online honline
  have hsame : ∀ player' : MailPlayer, player'.m_mail = player.m_mail →
      Counted (world.setPlayer guid player') character 0 := by
    intro player' heq
    refine hcounted.setPlayer (fun hguid => ?_) fun _ => rfl
    rw [heq, liveMails_of_find (hguid ▸ hfind)]
  dsimp only
  split
  · exact hsame _ rfl
  rename_i m hmail
  split
  · exact hsame _ rfl
  have hmail' : player.GetMail mailId = some m := hmail
  -- the mail is gone from the list before it is taken off the count
  have hdeleted := @Counted.setPlayer world character guid 0
    (if guid = character then 1 else 0) hcounted
    (MailPlayer.setMail { player with m_mailsUpdated := true } mailId
      { m with state := .MAIL_STATE_DELETED })
    (fun hguid => by
      rw [if_pos hguid, liveMails_of_find (hguid ▸ hfind)]
      exact (GetMail_live hmail' (hfresh hguid player m hfind hmail')).2 _ rfl)
    (fun hne => if_neg hne)
  refine hdeleted.update (fun hguid => ?_) fun hne => (if_neg hne).symm
  have hbound := hdeleted.bound
  rw [if_pos hguid] at hbound ⊢
  rw [newMailCount_decrease hbound]
  exact Nat.add_sub_cancel ..

theorem isLive_of_ready {player : MailPlayer} {m : Mail}
    (hready : world.readyMail player mailId = some m) :
    player.GetMail mailId = some m ∧ isLive m = true := by
  obtain ⟨hmail, hcheck⟩ := filter_eq_some_iff.mp hready
  exact ⟨hmail, (Bool.and_eq_true_iff.mp hcheck).1⟩

/-- A character returns a mail: it leaves the list, a mail to its sender is sent, and
the count goes down. -/
theorem Counted.returnToSender (hcounted : Counted world character 0) (canOpenMailBox : Bool)
    (mailId : ℕ)
    (hroom : ∀ player m, world.players.find? guid = some player →
      player.GetMail mailId = some m → m.sender = character → world.liveMails character < 255) :
    Counted (world.HandleMailReturnToSender guid canOpenMailBox mailId).1 character 0 := by
  unfold HandleMailReturnToSender
  split
  · exact hcounted
  rename_i player honline
  have hfind := find_of_online honline
  split
  · exact hcounted
  rename_i m hready
  obtain ⟨hmail, hlive⟩ := isLive_of_ready hready
  have hgone : ∀ player' : MailPlayer, player'.m_mail = (player.RemoveMail mailId).m_mail →
      Counted (world.setPlayer guid player') character
        (if guid = character then 1 else 0) := by
    intro player' heq
    refine hcounted.setPlayer (fun hguid => ?_) fun hne => if_neg hne
    rw [if_pos hguid, heq, liveMails_of_find (hguid ▸ hfind)]
    exact (GetMail_live hmail hlive).1
  have hnumber : ∀ player' : MailPlayer, player'.m_mail = (player.RemoveMail mailId).m_mail →
      (world.setPlayer guid player').liveMails character +
        (if guid = character then 1 else 0) = world.liveMails character := by
    intro player' heq
    rw [liveMails_setPlayer]
    split
    case isFalse => rfl
    rename_i hguid
    rw [heq, liveMails_of_find (hguid ▸ hfind)]
    exact (GetMail_live hmail hlive).1
  have hreturned : Counted
      (if m.messageType = .MAIL_NORMAL ∧ m.sender ≠ 0 then
        (world.setPlayer guid (m.items.foldl
            (fun player info => player.RemoveMItem info.item_guid)
            (player.RemoveMail mailId))).SendReturnToSender
          ((draftOf player m).AddMoney m.money) m.receiver m.sender
      else
        world.setPlayer guid (player.RemoveMail mailId)) character
      (if guid = character then 1 else 0) := by
    split
    case isFalse => exact hgone _ rfl
    have hremoved := removeItems_m_mail (player.RemoveMail mailId) m.items
    unfold SendReturnToSender
    split
    · exact hgone _ hremoved
    refine (hgone _ hremoved).sendMailTo _ _ _ _ fun hsender => ?_
    rw [hnumber _ hremoved]
    exact hroom player m hfind hmail hsender
  refine hreturned.update (fun hguid => ?_) fun hne => (if_neg hne).symm
  have hbound := hreturned.bound
  rw [if_pos hguid] at hbound ⊢
  rw [newMailCount_decrease hbound]
  exact Nat.add_sub_cancel ..

inductive CountOp where
  | sendMailTo (draft : MailDraft) (receiver : ℕ) (sender : MailSender) (deliver_delay : ℕ)
  | deleteMail (guid : ℕ) (canOpenMailBox : Bool) (mailId : ℕ)
  | returnToSender (guid : ℕ) (canOpenMailBox : Bool) (mailId : ℕ)
  | wait (gameTime : ℕ)

def performCount (world : MailWorld) : CountOp → MailWorld
  | .sendMailTo draft receiver sender delay => world.SendMailTo draft receiver sender delay
  | .deleteMail guid canOpenMailBox mailId =>
    (world.HandleMailDelete guid canOpenMailBox mailId).1
  | .returnToSender guid canOpenMailBox mailId =>
    (world.HandleMailReturnToSender guid canOpenMailBox mailId).1
  | .wait gameTime => { world with gameTime := gameTime }

/-- The condition under which a request keeps the count of a character: he has not
deleted the mail before, and he has fewer than 255 mails when one is sent to him. -/
def KeepsCount (character : ℕ) (world : MailWorld) : CountOp → Prop
  | .sendMailTo _ receiver _ _ => receiver = character → world.liveMails character < 255
  | .deleteMail guid _ mailId => guid = character → ∀ player m,
      world.players.find? guid = some player → player.GetMail mailId = some m →
      m.state ≠ .MAIL_STATE_DELETED
  | .returnToSender guid _ mailId => ∀ player m, world.players.find? guid = some player →
      player.GetMail mailId = some m → m.sender = character → world.liveMails character < 255
  | .wait _ => True

structure CountStart (character : ℕ) (world : MailWorld) : Prop where
  agree : world.cache.StoresAgree
  cached : world.cache.find character ≠ none
  known : world.players.find? character ≠ none
  count : world.mailCount character = world.liveMails character
  bound : world.liveMails character ≤ 200

theorem performCount_counted (hcounted : Counted world character 0) {op : CountOp}
    (hkeeps : KeepsCount character world op) : Counted (world.performCount op) character 0 := by
  cases op with
  | sendMailTo draft receiver sender delay =>
    exact hcounted.sendMailTo draft receiver sender delay hkeeps
  | deleteMail guid canOpenMailBox mailId =>
    exact hcounted.delete canOpenMailBox mailId fun hguid player m hfind hmail =>
      decide_eq_true (hkeeps hguid player m hfind hmail)
  | returnToSender guid canOpenMailBox mailId =>
    exact hcounted.returnToSender canOpenMailBox mailId hkeeps
  | wait gameTime =>
    exact ⟨hcounted.agree, hcounted.cached, hcounted.known, hcounted.count, hcounted.bound⟩

/-- In every run in which no mail of a character is deleted twice, and none is sent to
him when he has 255, his cached count is the number of his mails. -/
theorem reachable_mail_count (hreach : Reachable (CountStart character)
      (guarded (KeepsCount character) fun world op after => after = world.performCount op)
      world) : world.mailCount character = world.liveMails character := by
  have hcounted : Counted world character 0 := by
    refine hreach.invariant (Counted · character 0) ?_ ?_
    · intro start hstart
      exact ⟨hstart.agree, hstart.cached, hstart.known, hstart.count,
        Nat.lt_of_le_of_lt hstart.bound (by decide)⟩
    · rintro before op _ hbefore ⟨hkeeps, rfl⟩
      exact performCount_counted hbefore hkeeps
  exact hcounted.count

/-! ## A mail that is deleted twice -/

def plainMail (messageID : ℕ) : Mail :=
  ⟨messageID, .MAIL_NORMAL, 2, 1, [], [], 0, 0, 0, .MAIL_STATE_UNCHANGED⟩

def twoMails : MailPlayer where
  inventory := ⟨1, 0, StdMap.empty⟩
  money := 0
  m_mail := [plainMail 1, plainMail 2]
  mMitems := StdMap.empty
  m_mailsUpdated := false
  connected := true

def twoMailsWorld : MailWorld where
  players := StdMap.empty.insert 1 twoMails
  cache := (CharacterCache.empty.AddCharacterCacheEntry CharacterCache.nextAddress
    CharacterCache.oldRow).UpdateCharacterMailCount 1 2 true
  nextItemGuid := 1
  nextMailId := 3
  gameTime := 0

theorem twoMailsWorld_start : CountStart 1 twoMailsWorld := by
  have hadded := (@CharacterCache.AddCharacterCacheEntry_agrees CharacterCache.nextAddress _
    CharacterCache.empty_agrees CharacterCache.oldRow rfl fun _ => nofun).1
  refine ⟨(CharacterCache.UpdateCharacterMailCount_agrees hadded 1 2 true).1,
    by decide +kernel, ?_, by decide +kernel, by decide +kernel⟩
  intro hnone
  exact absurd ((StdMap.empty.find?_insert_self 1 twoMails).symm.trans hnone) nofun

/-- The first mail is deleted twice, and the second one is not counted any more. -/
theorem deleted_twice : ∃ world, Reachable (CountStart 1)
        (fun world op after => after = performCount world op) world ∧
      world.mailCount 1 = 0 ∧ world.liveMails 1 = 1 := by
  refine ⟨(twoMailsWorld.performCount (.deleteMail 1 true 1)).performCount
    (.deleteMail 1 true 1), ((Reachable.start twoMailsWorld_start).step rfl).step rfl, ?_, ?_⟩
  · decide +kernel
  · decide +kernel

/-- The first mail is deleted once. -/
theorem deleted_once : (twoMailsWorld.performCount (.deleteMail 1 true 1)).mailCount 1 = 1 := by
  have hkeeps : KeepsCount 1 twoMailsWorld (.deleteMail 1 true 1) := by
    intro _ player m hfind hmail
    obtain rfl := some.inj ((StdMap.empty.find?_insert_self 1 twoMails).symm.trans hfind)
    obtain rfl : plainMail 1 = m := some.inj hmail
    nofun
  exact (reachable_mail_count ((Reachable.start twoMailsWorld_start).step ⟨hkeeps, rfl⟩)).trans
    (by decide +kernel)

end MailWorld

end AzerothCore.Mails
