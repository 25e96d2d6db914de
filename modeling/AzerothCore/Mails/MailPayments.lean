import AzerothCore.Mails.MailStore

/-!
# Taking an item from a mail

An item goes from a mail into the slots of the owner of the mailbox. With the
first item of a mail that asks for money the whole amount is paid and sent to the
sender, and the mail asks for nothing from then on.
-/

namespace AzerothCore.Mails

open List Option
open Caching Pouring Storage

variable {env : MailEnv} {data : GameData} {before after world paid : MailWorld}
  {guid mailId itemLowGuid : ℕ} {player player' payer : MailPlayer} {m : Mail}

structure PaidFor (data : GameData) (world paid : MailWorld) (guid : ℕ) (player : MailPlayer)
    (m : Mail) : Prop where
  books : paid.Books
  moves : mailStore.Moves data world [] paid []
  slots : SlotsFrom world paid
  mails : MailsFrom world paid none
  money : paid.totalMoney = world.totalMoney
  owner : ∃ payer, paid.players.find? guid = some payer ∧ payer.inventory = player.inventory ∧
    payer.mMitems = player.mMitems ∧ payer.money + m.COD = player.money ∧
    payer.GetMail m.messageID = some m
  payment : m.COD ≠ 0 → ∃ sender, paid.players.find? m.sender = some sender ∧
    ∃ payment ∈ sender.m_mail, payment.messageID = world.nextMailId ∧
      payment.money = m.COD ∧ payment.sender = guid

theorem payCOD_spec (hbooks : world.Books) (hholds : mailStore.Holds data world [])
    (hfind : world.players.find? guid = some player) (hmail : player.GetMail mailId = some m)
    (hid : m.messageID = mailId) (hafford : m.COD ≤ player.money) :
    PaidFor data world (world.payCOD guid player m) guid player m := by
  have hbox := hbooks.mailboxes guid player hfind
  have hholdsMail := hbox.mails m (mem_of_find?_eq_some hmail)
  unfold MailWorld.payCOD
  by_cases hzero : m.COD = 0
  · rw [if_pos hzero]
    refine ⟨hbooks, .refl hholds, fun _ _ _ hitem => hitem, .refl world none, rfl, ?_, ?_⟩
    · exact ⟨player, hfind, rfl, rfl, by rw [hzero, Nat.add_zero], hid ▸ hmail⟩
    · exact fun hne => absurd hzero hne
  rw [if_neg hzero, ModifyMoney_neg hafford hbox.money]
  generalize hpaid : ({ player with money := player.money - m.COD } : MailPlayer) = payer
  have hpayer : payer.inventory = player.inventory ∧ payer.money = player.money - m.COD ∧
      payer.m_mail = player.m_mail ∧ payer.mMitems = player.mMitems := by
    rw [← hpaid]
    exact ⟨rfl, rfl, rfl, rfl⟩
  obtain ⟨hinv, hmoney, hmails, hmitems⟩ := hpayer
  have hbooksPaid : (world.setPlayer guid payer).Books := hbooks.setPlayer ⟨player, hfind⟩
      (hbox.congr (hmoney ▸ (Nat.sub_le _ _).trans hbox.money) hmails hmitems)
  have hmoves := MailWorld.moves_setPlayer hholds hfind hinv hmitems
  have hknown := MailWorld.known_setPlayer ⟨player, hfind⟩ payer
  have hsender : (world.setPlayer guid payer).Known m.sender := hknown ▸ hholdsMail.sender
  obtain ⟨target, htarget⟩ := hsender
  rw [if_pos (.inr (hbooksPaid.accounts m.sender ⟨target, htarget⟩))]
  generalize hdraft : MailDraft.empty.AddMoney m.COD = draft
  have hvalues : draft.values = [] := hdraft ▸ rfl
  have hdraftMoney : draft.m_money = m.COD := hdraft ▸ rfl
  have hentries : draft.m_items.entries = [] := hdraft ▸ rfl
  have hreceiver : (world.setPlayer guid payer).Known m.receiver :=
    hknown ▸ hholdsMail.receiver.symm ▸ ⟨player, hfind⟩
  have hdraftHolds : mailStore.Holds data (world.setPlayer guid payer) draft.values :=
    hvalues ▸ hmoves.holds
  have hsend := @moves_SendMailTo data _ m.sender target draft ⟨.MAIL_NORMAL, m.receiver⟩ 0
    hbooksPaid hdraftHolds htarget
  have hslots : SlotsFrom world (world.setPlayer guid payer) :=
    .setPlayer hfind fun place item hitem => hinv ▸ hitem
  have hfirst : MailsFrom world (world.setPlayer guid payer) none :=
    .of_sublist hfind fun m' hm' => hmails ▸ hm'
  refine ⟨?_, hmoves.trans (hvalues ▸ hsend), hslots.trans (slotsFrom_SendMailTo htarget),
    hfirst.trans (mailsFrom_SendMailTo htarget), ?_, ?_, fun _ => ?_⟩
  · refine books_SendMailTo hbooksPaid hdraftHolds htarget rfl hreceiver ?_
    rw [hdraftMoney]
    exact hafford.trans hbox.money
  · have hreplace := @MailWorld.sumValues_replace world guid payer MailPlayer.wealth player hfind
    have hwealth : payer.wealth + m.COD = player.wealth := by
      rw [MailPlayer.wealth, MailPlayer.wealth, MailPlayer.mailMoney, MailPlayer.mailMoney,
        hmails, hmoney]
      omega
    rw [totalMoney_SendMailTo htarget, hdraftMoney]
    unfold MailWorld.totalMoney
    omega
  · rw [SendMailTo_eq htarget, MailWorld.find?_setPlayer]
    by_cases heq : m.sender = guid
    · rw [if_pos heq]
      have htargetPayer : target = payer := by
        rw [heq, MailWorld.find?_setPlayer_self] at htarget
        exact (some.inj htarget).symm
      refine ⟨_, rfl, ?_, ?_, ?_, ?_⟩
      · rw [MailPlayer.deliver, hentries, htargetPayer]
        exact hinv
      · rw [MailPlayer.deliver, hentries, htargetPayer]
        exact hmitems
      · rw [MailPlayer.deliver, hentries, htargetPayer]
        change payer.money + _ = _
        omega
      · rw [MailPlayer.deliver, hentries, htargetPayer]
        have hold : m.messageID ≠ world.nextMailId := hholdsMail.id.ne
        change List.find? _ (_ :: payer.m_mail) = some m
        rw [List.find?_cons_of_neg, hmails, hid]
        · exact hmail
        · exact fun hsame => hold (of_decide_eq_true hsame).symm
    · rw [if_neg heq]
      refine ⟨payer, MailWorld.find?_setPlayer_self guid payer, hinv, hmitems, ?_, ?_⟩
      · omega
      · rw [MailPlayer.GetMail, hmails, hid]
        exact hmail
  · rw [SendMailTo_eq htarget, MailWorld.find?_setPlayer_self]
    refine ⟨_, rfl, (world.setPlayer guid payer).mailOf draft m.sender
      ⟨.MAIL_NORMAL, m.receiver⟩ 0, ?_, rfl, hdraftMoney, hholdsMail.receiver⟩
    rw [MailPlayer.deliver, hentries]
    exact mem_cons_self

def Mail.taken (m : Mail) (itemLowGuid : ℕ) : Mail :=
  { m.RemoveItem itemLowGuid with
    removedItems := m.removedItems ++ [itemLowGuid]
    COD := 0
    state := .MAIL_STATE_CHANGED }

theorem itemGuids_taken {itemLowGuid : ℕ} (hhas : m.HasItem itemLowGuid = true) :
    m.itemGuids.Perm ([itemLowGuid] ++ (m.taken itemLowGuid).itemGuids) := by
  obtain ⟨info, hinfo, hguid⟩ := List.any_eq_true.mp hhas
  obtain ⟨found, left, right, -, hfound, hitems, herase⟩ :=
    exists_of_eraseP (p := fun info : MailItemInfo => decide (info.item_guid = itemLowGuid))
      hinfo hguid
  have htaken : (m.taken itemLowGuid).itemGuids =
      (left ++ right).map MailItemInfo.item_guid := congrArg (List.map _) herase
  have hsame : found.item_guid = itemLowGuid := of_decide_eq_true hfound
  rw [htaken, Mail.itemGuids, hitems, ← hsame]
  exact (perm_middle.map MailItemInfo.item_guid)

theorem MailsFrom.of_none {code : Option (ℕ × ℕ)} (hmails : MailsFrom before after none) :
    MailsFrom before after code where
  next := hmails.next
  kept guid player' m' hfind hmem hold := by
    obtain ⟨player, m, hplayer, hm, hid, hCOD⟩ := hmails.kept guid player' m' hfind hmem hold
    exact ⟨player, m, hplayer, hm, hid, .inl (hCOD.resolve_right fun hpaid => nomatch hpaid.2)⟩

theorem MailWorld.Books.withNextItemGuid (hbooks : world.Books) (nextItemGuid : ℕ) :
    ({ world with nextItemGuid := nextItemGuid } : MailWorld).Books :=
  ⟨hbooks.mailboxes, hbooks.agree, hbooks.cached, hbooks.accounts, hbooks.guids⟩

def stored (data : GameData) (world : MailWorld) (guid : ℕ) (player : MailPlayer)
    (dest : ItemPosCountVec) (it : Item) : MailWorld :=
  let stored := player.inventory.MoveItemToInventory data dest it world.nextItemGuid
  { world.setPlayer guid { player.RemoveMItem it.guid with inventory := stored.1 } with
    nextItemGuid := stored.2 }

theorem stored_spec {it : Item} (hholds : mailStore.Holds data world [])
    (hfind : world.players.find? guid = some player)
    (hitem : player.mMitems.find? it.guid = some it)
    (hok : (player.inventory.CanStoreItem data NULL_BAG NULL_SLOT [] it.entry it.count (some it)
      false).result = .EQUIP_ERR_OK)
    (hafter : after = stored data world guid player (player.inventory.CanStoreItem data NULL_BAG
      NULL_SLOT [] it.entry it.count (some it) false).dest it) :
    mailStore.Holds data after [] ∧
      (∀ entry, mailStore.total after entry = mailStore.total world entry) ∧
      ∀ location item, mailStore.itemAt world location = some item → item.guid ≠ it.guid →
        ∃ other found, mailStore.itemAt after other = some found ∧ found.guid = item.guid ∧
          found.entry = item.entry ∧ item.count ≤ found.count := by
  subst hafter
  have hself : world.setPlayer guid player = world := MailWorld.setPlayer_self hfind
  have hremoved := @moves_RemoveMItem data world guid player [] it.guid it (hself.symm ▸ hholds)
    hitem
  rw [hself] at hremoved
  have hembeds := MailWorld.mailStore_embeds world guid (player.RemoveMItem it.guid)
  have hloose : mailStore.Holds data ((fun inventory nextItemGuid =>
      ({ world.setPlayer guid { player.RemoveMItem it.guid with inventory := inventory } with
        nextItemGuid := nextItemGuid } : MailWorld)) player.inventory world.nextItemGuid) [it] :=
    hremoved.holds
  have habsent := hembeds.absent hloose mem_cons_self
  have hforeign : Foreign player.inventory (some it) := by
    rintro moved hmoved place item hplace
    cases hmoved
    exact (habsent.absent place item hplace).symm
  have hcount : it.count < 2 ^ 32 := by
    obtain ⟨proto, hproto, hstack⟩ := hloose.looseWithin it mem_cons_self
    exact hstack.trans_lt (maxStackSize_lt hproto)
  obtain ⟨proto, hproto, hnodup, hamount, hfits⟩ :=
    CanStoreItem_fits hcount hforeign (.inl ⟨rfl, rfl⟩) hok
  have hreceives := hembeds.receives_MoveItemToInventory (hembeds.sound hloose) habsent hproto
    hnodup hfits
  rw [hamount] at hreceives
  refine ⟨hreceives.holds hloose, fun entry => ?_, fun location item hat hne => ?_⟩
  · have htotal := hremoved.total entry
    rw [ItemStore.weights_cons] at htotal
    have hafter := hreceives.total_whole entry
    change mailStore.total (stored data world guid player _ it) entry =
      mailStore.total (world.setPlayer guid (player.RemoveMItem it.guid)) entry + _ at hafter
    omega
  · obtain ⟨moved, hpresent, hsame⟩ := hremoved.present item (.inl ⟨location, hat⟩)
    rcases hpresent with ⟨other, hother⟩ | hmem
    · obtain ⟨found, hfound, hguid, hentry, hle⟩ := hreceives.grows other moved hother
      exact ⟨other, found, hfound, hguid.trans hsame.guid, hentry.trans hsame.entry,
        hsame.count ▸ hle⟩
    · obtain rfl := mem_singleton.mp hmem
      exact absurd hsame.guid.symm hne

/-- The amount that a mail asks for has left the money of its owner and is in a new mail
to its sender. The mail asks for nothing any more. -/
structure PaidInFull (before after : MailWorld) (guid : ℕ) (m : Mail) : Prop where
  owner : ∃ player payer, before.players.find? guid = some player ∧
    after.players.find? guid = some payer ∧ payer.money + m.COD = player.money ∧
    ∃ m' ∈ payer.m_mail, m'.messageID = m.messageID ∧ m'.COD = 0
  sender : ∃ sender, after.players.find? m.sender = some sender ∧
    ∃ payment ∈ sender.m_mail, payment.messageID = before.nextMailId ∧
      payment.money = m.COD ∧ payment.sender = guid

def Mail.code (guid : ℕ) (m : Mail) : Option (ℕ × ℕ) :=
  if m.COD = 0 then none else some (guid, m.messageID)

theorem taken_spec {it : Item} (hbooks : world.Books) (hholds : mailStore.Holds data world [])
    (hmail : player.GetMail m.messageID = some m) (hhas : m.HasItem it.guid = true)
    (hfind : world.players.find? guid = some player)
    (hpaid : PaidFor data world paid guid player m) (hpayer : paid.players.find? guid = some payer)
    (hitem : player.mMitems.find? it.guid = some it)
    (hok : (player.inventory.CanStoreItem data NULL_BAG NULL_SLOT [] it.entry it.count (some it)
      false).result = .EQUIP_ERR_OK)
    {inventory : Storage.Player} {nextItemGuid : ℕ}
    (hstored : (inventory, nextItemGuid) = payer.inventory.MoveItemToInventory data
      (player.inventory.CanStoreItem data NULL_BAG NULL_SLOT [] it.entry it.count (some it)
        false).dest it paid.nextItemGuid)
    (hplayer' : player' = { (payer.setMail m.messageID (m.taken it.guid)).RemoveMItem it.guid with
      inventory := inventory, m_mailsUpdated := true })
    (hafter : after = { paid.setPlayer guid player'._SaveMail with nextItemGuid := nextItemGuid }) :
    Conserves data world after 0 (some it.guid) (m.code guid) ∧
      (m.COD ≠ 0 → PaidInFull world after guid m) := by
  obtain ⟨owner, howner, hinv, hmitems, hmoney, hmailPaid⟩ := hpaid.owner
  obtain rfl := some.inj (hpayer.symm.trans howner)
  have hbox := hpaid.books.mailboxes guid payer hpayer
  obtain ⟨front, back, hmails, hset, -⟩ := MailWorld.GetMail_split hmailPaid
  have hholdsMail := hbox.mails m (mem_of_find?_eq_some hmailPaid)
  -- what becomes of the owner
  have hmails' : player'.m_mail = front ++ m.taken it.guid :: back := hplayer' ▸ hset _
  have hmoney' : player'.money = payer.money := hplayer' ▸ rfl
  have hinventory' : player'.inventory = inventory := hplayer' ▸ rfl
  have hmitems' : player'.mMitems = (payer.RemoveMItem it.guid).mMitems := hplayer' ▸ rfl
  have htakenHolds : MailHolds paid.Known paid.nextMailId guid (m.taken it.guid) :=
    ⟨nofun, hholdsMail.normal, hholdsMail.sender_ne, hholdsMail.sender, hholdsMail.receiver,
      hholdsMail.money, hholdsMail.id⟩
  have hbox' : MailboxHolds paid.Known paid.nextMailId guid player' := by
    refine hbox.replace (hmoney' ▸ hbox.money) hmails hmails' rfl htakenHolds
      (itemGuids_taken hhas) fun item_guid => ?_
    rw [hmitems', MailPlayer.find?_RemoveMItem]
    exact if_congr (eq_comm.trans mem_singleton.symm) rfl rfl
  obtain ⟨hsaved, hsavedMoney⟩ := hbox'.save
  obtain ⟨hsameMoney, hsameInventory, hsameItems⟩ := @_SaveMail_fields player'
  have hbooks' : after.Books :=
    hafter ▸ (hpaid.books.setPlayer ⟨payer, hpayer⟩ hsaved).withNextItemGuid nextItemGuid
  have hplayerFind : after.players.find? guid = some player'._SaveMail := by
    rw [hafter]
    exact MailWorld.find?_setPlayer_self guid _
  -- the item is in the slots
  generalize hworld : stored data paid guid payer (player.inventory.CanStoreItem data NULL_BAG
    NULL_SLOT [] it.entry it.count (some it) false).dest it = middle
  obtain ⟨hholdsMiddle, htotal, hkept⟩ := stored_spec hpaid.moves.holds hpayer (hmitems ▸ hitem)
    (hinv.symm ▸ hok) (hinv.symm ▸ hworld.symm)
  have hmiddle : middle = { paid.setPlayer guid { payer.RemoveMItem it.guid with
      inventory := inventory } with nextItemGuid := nextItemGuid } := by
    rw [← hworld, stored, ← hstored]
  have hmoves : mailStore.Moves data middle [] after [] := by
    have hset : middle.setPlayer guid player'._SaveMail = after := by
      rw [hmiddle, hafter]
      exact congrArg (fun world => ({ world with nextItemGuid := nextItemGuid } : MailWorld))
        MailWorld.setPlayer_setPlayer
    rw [← hset]
    refine @MailWorld.moves_setPlayer data middle guid
      { payer.RemoveMItem it.guid with inventory := inventory } _ [] hholdsMiddle ?_
      (hsameInventory.trans hinventory') (hsameItems.trans hmitems')
    rw [hmiddle]
    exact MailWorld.find?_setPlayer_self guid _
  refine ⟨?_, fun hCOD => ?_⟩
  · constructor
    · exact hbooks'
    · exact hmoves.holds
    · intro entry
      exact ((hmoves.total entry).trans (htotal entry)).trans (hpaid.moves.total entry)
    · intro location item hat hne
      obtain ⟨moved, hpresent, hsame⟩ := hpaid.moves.present item (.inl ⟨location, hat⟩)
      obtain ⟨place, hplace⟩ := hpresent.resolve_right not_mem_nil
      obtain ⟨other, found, hfound, hguid, hentry, hle⟩ := hkept place moved hplace fun heq =>
        hne (congrArg some (heq.symm.trans hsame.guid))
      obtain ⟨last, hlast, hsame'⟩ := hmoves.present found (.inl ⟨other, hfound⟩)
      obtain ⟨final, hfinal⟩ := hlast.resolve_right not_mem_nil
      refine ⟨final, last, hfinal, ?_, ?_, ?_⟩
      · rw [hsame'.guid, hguid, hsame.guid]
      · rw [hsame'.entry, hentry, hsame.entry]
      · rw [hsame'.count, ← hsame.count]
        exact hle
    · have hreplace := @MailWorld.sumValues_replace paid guid player'._SaveMail
        MailPlayer.wealth payer hpayer
      have hwealth : player'._SaveMail.wealth = payer.wealth := by
        rw [MailPlayer.wealth, hsameMoney, hsavedMoney, mailMoney_eq hmails', hmoney',
          MailPlayer.wealth, mailMoney_eq hmails]
        rfl
      have hsum : after.totalMoney = (paid.setPlayer guid player'._SaveMail).totalMoney :=
        hafter ▸ rfl
      have hpaidMoney := hpaid.money
      rw [hsum]
      unfold MailWorld.totalMoney at hpaidMoney ⊢
      omega
    · have hcode : (m.taken it.guid).COD = m.COD ∨
          (m.taken it.guid).COD = 0 ∧ m.code guid = some (guid, m.messageID) := by
        by_cases hzero : m.COD = 0
        · exact .inl hzero.symm
        · exact .inr ⟨rfl, if_neg hzero⟩
      have hlast : MailsFrom paid (paid.setPlayer guid player'._SaveMail) (m.code guid) :=
        .setPlayer hpayer (codes_save hbox' hmails hmails' rfl hcode)
      have hboth := hpaid.mails.of_none.trans hlast
      rw [hafter]
      exact ⟨hboth.next, hboth.kept⟩
    · intro item_guid hmailed hne
      obtain ⟨owner, item, hat⟩ :=
        mailed_of_moves hbooks hpaid.books hholds hpaid.moves hpaid.slots hmailed
      refine ⟨owner, item, ?_⟩
      rw [hafter]
      change mailStore.itemAt (paid.setPlayer guid player'._SaveMail)
        (.mailed owner item_guid) = some item
      rw [MailWorld.itemAt_mailed]
      split
      case isFalse => exact hat
      rename_i heq
      subst heq
      have hnot : it.guid ≠ item_guid := fun heq => hne (congrArg some heq)
      rw [hsameItems, hmitems', MailPlayer.find?_RemoveMItem, if_neg hnot]
      unfold mailStore at hat
      dsimp only at hat
      rw [hpayer] at hat
      exact hat
  · obtain ⟨saved, hsavedMails, hsavedFields⟩ := _SaveMail_spec hbox'
    obtain ⟨sender, hsender, payment, hpayment, hid, hamount, hfrom⟩ := hpaid.payment hCOD
    have hkeep : ∀ other ∈ player'.m_mail, ∃ found ∈ player'._SaveMail.m_mail,
        found.messageID = other.messageID ∧ found.COD = other.COD ∧
          found.money = other.money ∧ found.sender = other.sender := by
      intro other hmem
      obtain ⟨-, hsavedId, -, hsavedSender, -, -, hsavedMoney, hsavedCOD⟩ :=
        hsavedFields other (hbox'.mails other hmem).live
      exact ⟨saved other, hsavedMails ▸ List.mem_map_of_mem hmem, hsavedId, hsavedCOD,
        hsavedMoney, hsavedSender⟩
    refine ⟨⟨player, player'._SaveMail, hfind, hplayerFind, ?_, ?_⟩, ?_⟩
    · rw [hsameMoney, hmoney']
      exact hmoney
    · obtain ⟨found, hfound, hfoundId, hfoundCOD, -⟩ := hkeep (m.taken it.guid)
        (hmails' ▸ mem_append_right _ mem_cons_self)
      exact ⟨found, hfound, hfoundId, hfoundCOD⟩
    · by_cases heq : guid = m.sender
      · -- the payment is another mail than the one that was taken from
        rw [← heq, hpayer] at hsender
        cases hsender
        have hne : payment ≠ m := by
          rintro rfl
          exact absurd hid ((hbooks.mailboxes guid player hfind).mails payment
            (mem_of_find?_eq_some hmail)).id.ne
        have hmem : payment ∈ player'.m_mail := by
          rw [hmails, mem_append, mem_cons] at hpayment
          rw [hmails', mem_append, mem_cons]
          exact hpayment.imp_right fun hrest => .inr (hrest.resolve_left hne)
        obtain ⟨found, hfound, hfoundId, -, hfoundMoney, hfoundSender⟩ := hkeep payment hmem
        exact ⟨player'._SaveMail, heq ▸ hplayerFind, found, hfound, hfoundId.trans hid,
          hfoundMoney.trans hamount, hfoundSender.trans hfrom⟩
      · refine ⟨sender, ?_, payment, hpayment, hid, hamount, hfrom⟩
        rw [hafter]
        rw [MailWorld.find?_setPlayer, if_neg heq]
        exact hsender

theorem takeItem_cases (hbooks : world.Books) (hholds : mailStore.Holds env.data world [])
    (canOpenMailBox : Bool) {result : MailWorld × Option MailResponseResult}
    (hresult : result = world.HandleMailTakeItem env guid canOpenMailBox mailId itemLowGuid) :
    result.1 = world ∧ result.2 ≠ some .MAIL_OK ∨
      ∃ player m, result.2 = some .MAIL_OK ∧ world.players.find? guid = some player ∧
        player.GetMail mailId = some m ∧ m.messageID = mailId ∧ m.HasItem itemLowGuid = true ∧
        Conserves env.data world result.1 0 (some itemLowGuid) (m.code guid) ∧
        (m.COD ≠ 0 → PaidInFull world result.1 guid m) := by
  subst hresult
  unfold MailWorld.HandleMailTakeItem
  split
  · exact .inl ⟨rfl, nofun⟩
  rename_i player honline
  have hfind := MailWorld.find_of_online honline
  split
  · exact .inl ⟨rfl, nofun⟩
  rename_i m hready
  obtain ⟨hready, hhas⟩ := filter_eq_some_iff.mp hready
  obtain ⟨hmail, rfl, -⟩ := readyMail_spec hready
  by_cases hafford : player.money < m.COD
  · rw [if_pos hafford]
    exact .inl ⟨rfl, nofun⟩
  rw [if_neg hafford]
  split
  · exact .inl ⟨rfl, nofun⟩
  rename_i it hitem
  dsimp only
  by_cases hok : (player.inventory.CanStoreItem env.data NULL_BAG NULL_SLOT [] it.entry
      it.count (some it) false).result = .EQUIP_ERR_OK
  · rw [if_neg (not_not_intro hok)]
    have hpaid := payCOD_spec hbooks hholds hfind hmail rfl (Nat.not_lt.mp hafford)
    obtain ⟨payer, hpayer, -⟩ := hpaid.owner
    rw [hpayer]
    have hguid : it.guid = itemLowGuid :=
      (hbooks.mailboxes guid player hfind).keyed itemLowGuid it hitem
    subst hguid
    obtain ⟨hcons, hfull⟩ := taken_spec hbooks hholds hmail hhas hfind hpaid hpayer
      hitem hok rfl rfl rfl
    exact .inr ⟨player, m, rfl, hfind, hmail, rfl, hhas, hcons, hfull⟩
  · rw [if_pos hok]
    exact .inl ⟨rfl, nofun⟩

end AzerothCore.Mails

/-! ## Runs of the mailbox -/

namespace AzerothCore.Mails

open List Option Function StdMap Nat
open Caching Reachability Storage

inductive MailRequest where
  | sendMail (request : SendMailRequest)
  | takeItem (canOpenMailBox : Bool) (mailId itemLowGuid : ℕ)
  | takeMoney (canOpenMailBox : Bool) (mailId : ℕ)
  | returnToSender (canOpenMailBox : Bool) (mailId : ℕ)

inductive Holder where
  | inventory (guid : ℕ)
  | mail (guid mailId : ℕ)

namespace MailWorld

variable (env : MailEnv) (world : MailWorld) (guid : ℕ)

def handle : MailRequest → MailWorld × Option MailResponseResult
  | .sendMail request => world.HandleSendMail env guid request
  | .takeItem canOpenMailBox mailId itemLowGuid =>
    world.HandleMailTakeItem env guid canOpenMailBox mailId itemLowGuid
  | .takeMoney canOpenMailBox mailId => world.HandleMailTakeMoney guid canOpenMailBox mailId
  | .returnToSender canOpenMailBox mailId =>
    world.HandleMailReturnToSender guid canOpenMailBox mailId

def postage (request : MailRequest) : ℕ :=
  match request with
  | .sendMail sent =>
    if (world.HandleSendMail env guid sent).1.nextMailId = world.nextMailId then 0 else sent.cost
  | _ => 0

def takenItem (request : MailRequest) : Option ℕ :=
  match request with
  | .takeItem _ _ itemLowGuid =>
    if (world.handle env guid request).2 = some .MAIL_OK then some itemLowGuid else none
  | _ => none

def paidMail (request : MailRequest) : Option (ℕ × ℕ) :=
  match request with
  | .takeItem _ mailId _ =>
    if (world.handle env guid request).2 = some .MAIL_OK then
      ((world.players.find? guid).bind fun player => player.GetMail mailId).bind (Mail.code guid)
    else none
  | _ => none

def connect (connected : Bool) : MailWorld :=
  match world.players.find? guid with
  | none => world
  | some player => world.setPlayer guid { player with connected := connected }

def Has (item_guid : ℕ) : Holder → Prop
  | .inventory guid => ∃ place item,
    mailStore.itemAt world (.slot guid place) = some item ∧ item.guid = item_guid
  | .mail guid mailId => ∃ player, world.players.find? guid = some player ∧
    ∃ m ∈ player.m_mail, m.messageID = mailId ∧ item_guid ∈ m.itemGuids

end MailWorld

structure MailLedger where
  world : MailWorld
  postage : ℕ
  paid : List (ℕ × ℕ)

inductive MailOp where
  | request (env : MailEnv) (guid : ℕ) (request : MailRequest)
  | connect (guid : ℕ) (connected : Bool)
  | wait (gameTime : ℕ)

def MailLedger.perform (ledger : MailLedger) : MailOp → MailLedger
  | .request env guid request =>
    { world := (ledger.world.handle env guid request).1
      postage := ledger.postage + ledger.world.postage env guid request
      paid := (ledger.world.paidMail env guid request).toList ++ ledger.paid }
  | .connect guid connected => { ledger with world := ledger.world.connect guid connected }
  | .wait gameTime => { ledger with world := { ledger.world with gameTime := gameTime } }

def UsesData (data : GameData) (_ : MailLedger) : MailOp → Prop
  | .request env _ _ => env.data = data
  | _ => True

variable {env : MailEnv} {data : GameData} {world : MailWorld} {guid : ℕ} {player : MailPlayer}
  {ledger : MailLedger} {op : MailOp}

theorem sent_nextMailId {request : SendMailRequest} {receiverGuid : ℕ}
    {items : List (ItemPos × Item)} :
    (world.sendChecked env guid player request receiverGuid items).nextMailId ≠
      world.nextMailId := by
  have hnext : ∀ (world : MailWorld) draft receiver sender delay,
      (world.SendMailTo draft receiver sender delay).nextMailId = world.nextMailId + 1 := by
    intro world draft receiver sender delay
    unfold MailWorld.SendMailTo
    dsimp only
    split
    · rfl
    · rfl
  unfold MailWorld.sendChecked
  rw [hnext]
  exact succ_ne_self world.nextMailId

theorem sendMail_cases (hbooks : world.Books) (request : SendMailRequest) :
    (world.HandleSendMail env guid request).1 = world ∨
      ∃ player receiver items, world.players.find? guid = some player ∧
        Checked env world player request receiver items ∧
        (world.HandleSendMail env guid request).1 =
          world.sendChecked env guid player request receiver items := by
  unfold MailWorld.HandleSendMail
  rcases honline : world.FindPlayer guid with _ | player
  · exact .inl rfl
  have hfind := (filter_eq_some_iff.mp honline).1
  dsimp only
  cases hcheck : world.checkSendMail env guid player request with
  | error answer => exact .inl rfl
  | ok checked =>
    obtain ⟨receiver, items⟩ := checked
    exact .inr ⟨player, receiver, items, hfind, checkSendMail_ok hbooks.agree hcheck, rfl⟩

theorem sendMail_conserves (hbooks : world.Books) (hholds : mailStore.Holds env.data world [])
    (request : SendMailRequest) :
    Conserves env.data world (world.HandleSendMail env guid request).1
      (world.postage env guid (.sendMail request)) none none := by
  unfold MailWorld.postage
  dsimp only
  rcases sendMail_cases hbooks request with hsame | ⟨player, receiver, items, hfind, hchecked, hsent⟩
  · rw [hsame, if_pos rfl]
    exact .refl hbooks hholds
  · rw [hsent, if_neg sent_nextMailId]
    exact sendChecked_conserves hbooks hholds hfind hchecked

structure Takes (before after : MailWorld) (guid : ℕ) (m : Mail) (item_guid : ℕ) : Prop where
  mail : ∃ player, before.players.find? guid = some player ∧ player.GetMail m.messageID = some m
  has : m.HasItem item_guid = true
  paid : m.COD ≠ 0 → PaidInFull before after guid m

theorem handle_conserves (hbooks : world.Books) (hholds : mailStore.Holds env.data world [])
    (request : MailRequest) :
    Conserves env.data world (world.handle env guid request).1 (world.postage env guid request)
        (world.takenItem env guid request) (world.paidMail env guid request) ∧
      (world.takenItem env guid request = none ∧ world.paidMail env guid request = none ∨
        ∃ canOpenMailBox m item_guid, request = .takeItem canOpenMailBox m.messageID item_guid ∧
          world.takenItem env guid request = some item_guid ∧
          world.paidMail env guid request = m.code guid ∧
          Takes world (world.handle env guid request).1 guid m item_guid) := by
  cases request with
  | sendMail request => exact ⟨sendMail_conserves hbooks hholds request, .inl ⟨rfl, rfl⟩⟩
  | takeMoney canOpenMailBox mailId =>
    exact ⟨takeMoney_conserves hbooks hholds canOpenMailBox, .inl ⟨rfl, rfl⟩⟩
  | returnToSender canOpenMailBox mailId =>
    exact ⟨returnToSender_conserves hbooks hholds canOpenMailBox, .inl ⟨rfl, rfl⟩⟩
  | takeItem canOpenMailBox mailId itemLowGuid =>
    unfold MailWorld.takenItem MailWorld.paidMail
    dsimp only
    rcases @takeItem_cases env world guid mailId itemLowGuid hbooks hholds canOpenMailBox _ rfl with
      ⟨hsame, hrefused⟩ | ⟨player, m, hok, hfind, hmail, rfl, hhas, hcons, hfull⟩
    · change (world.handle env guid (.takeItem canOpenMailBox mailId itemLowGuid)).1 = world
        at hsame
      change (world.handle env guid (.takeItem canOpenMailBox mailId itemLowGuid)).2 ≠ _
        at hrefused
      rw [if_neg hrefused, if_neg hrefused, hsame]
      exact ⟨.refl hbooks hholds, .inl ⟨rfl, rfl⟩⟩
    · change (world.handle env guid (.takeItem canOpenMailBox m.messageID itemLowGuid)).2 = _
        at hok
      rw [if_pos hok, if_pos hok, hfind, bind_some, hmail, bind_some]
      exact ⟨hcons, .inr ⟨canOpenMailBox, m, itemLowGuid, rfl, rfl, rfl,
        ⟨player, hfind, hmail⟩, hhas, hfull⟩⟩

theorem connect_conserves (hbooks : world.Books) (hholds : mailStore.Holds data world [])
    (guid : ℕ) (connected : Bool) :
    Conserves data world (world.connect guid connected) 0 none none := by
  unfold MailWorld.connect
  split
  · exact .refl hbooks hholds
  rename_i player hfind
  have hbox := hbooks.mailboxes guid player hfind
  have hreplace := @MailWorld.sumValues_replace world guid
    { player with connected := connected } MailPlayer.wealth player hfind
  refine .of_moves hbooks (hbooks.setPlayer ⟨player, hfind⟩ (hbox.congr hbox.money rfl rfl)) hholds
    (MailWorld.moves_setPlayer hholds hfind rfl rfl)
    (.setPlayer hfind fun _ _ hitem => hitem) ?_ (.of_sublist hfind fun _ hmem => hmem)
  change _ = world.players.sumValues MailPlayer.wealth + player.wealth at hreplace
  unfold MailWorld.totalMoney
  omega

theorem wait_conserves (hbooks : world.Books) (hholds : mailStore.Holds data world [])
    (gameTime : ℕ) :
    Conserves data world { world with gameTime := gameTime } 0 none none := by
  refine .of_moves hbooks ?_ hholds ?_ (fun _ _ _ hitem => hitem) rfl
    ⟨le_rfl, (MailsFrom.refl world none).kept⟩
  · exact ⟨hbooks.mailboxes, hbooks.agree, hbooks.cached, hbooks.accounts, hbooks.guids⟩
  · exact .of_same hholds (fun location => by cases location <;> rfl) (fun _ => rfl) le_rfl

theorem perform_conserves (hbooks : ledger.world.Books)
    (hholds : mailStore.Holds data ledger.world []) (hdata : UsesData data ledger op) :
    ∃ postage taken paid, Conserves data ledger.world (ledger.perform op).world postage taken paid ∧
      (ledger.perform op).postage = ledger.postage + postage ∧
      (ledger.perform op).paid = paid.toList ++ ledger.paid ∧
      (taken = none ∧ paid = none ∨ ∃ env guid canOpenMailBox m item_guid,
          op = .request env guid (.takeItem canOpenMailBox m.messageID item_guid) ∧
          taken = some item_guid ∧ paid = m.code guid ∧
          Takes ledger.world (ledger.perform op).world guid m item_guid) := by
  cases op with
  | request env guid request =>
    obtain rfl : env.data = data := hdata
    obtain ⟨hcons, hcases⟩ := handle_conserves hbooks hholds request
    refine ⟨_, _, _, hcons, rfl, rfl, hcases.imp_right ?_⟩
    rintro ⟨canOpenMailBox, m, item_guid, rfl, htaken, hpaid, htakes⟩
    exact ⟨env, guid, canOpenMailBox, m, item_guid, rfl, htaken, hpaid, htakes⟩
  | connect guid connected =>
    exact ⟨0, none, none, connect_conserves hbooks hholds guid connected, rfl, rfl, .inl ⟨rfl, rfl⟩⟩
  | wait gameTime =>
    exact ⟨0, none, none, wait_conserves hbooks hholds gameTime, rfl, rfl, .inl ⟨rfl, rfl⟩⟩

structure LedgerHolds (data : GameData) (start : MailWorld) (ledger : MailLedger) : Prop where
  books : ledger.world.Books
  holds : mailStore.Holds data ledger.world []
  money : ledger.world.totalMoney + ledger.postage = start.totalMoney
  items : ∀ entry, mailStore.total ledger.world entry = mailStore.total start entry
  once : ledger.paid.Nodup
  settled : ∀ paid ∈ ledger.paid, paid.2 < ledger.world.nextMailId ∧
    ∀ player m, ledger.world.players.find? paid.1 = some player → m ∈ player.m_mail →
      m.messageID = paid.2 → m.COD = 0

variable {known : ℕ → Prop} {m : Mail} {location : MailLocation} {item_guid : ℕ}

theorem MailboxHolds.mail_eq {nextMailId : ℕ} {m' : Mail}
    (hbox : MailboxHolds known nextMailId guid player) (hm : m ∈ player.m_mail)
    (hm' : m' ∈ player.m_mail) (hid : m.messageID = m'.messageID) : m = m' :=
  inj_on_of_nodup_map hbox.ids hm hm' hid

theorem perform_holds {start : MailWorld} (hledger : LedgerHolds data start ledger)
    (hdata : UsesData data ledger op) : LedgerHolds data start (ledger.perform op) := by
  obtain ⟨postage, taken, paid, hcons, hpostage, hpaid, hcases⟩ :=
    perform_conserves hledger.books hledger.holds hdata
  have hsettled : ∀ paid ∈ ledger.paid, paid.2 < (ledger.perform op).world.nextMailId ∧
      ∀ player m, (ledger.perform op).world.players.find? paid.1 = some player →
        m ∈ player.m_mail → m.messageID = paid.2 → m.COD = 0 := by
    intro pair hpair
    obtain ⟨hid, hCOD⟩ := hledger.settled pair hpair
    refine ⟨hid.trans_le hcons.mails.next, fun player' m' hfind hmem hsame => ?_⟩
    obtain ⟨player, m, hplayer, hm, hmid, hor⟩ :=
      hcons.mails.kept pair.1 player' m' hfind hmem (hsame ▸ hid)
    rcases hor with heq | ⟨hzero, -⟩
    · exact heq.trans (hCOD player m hplayer hm (hmid.trans hsame))
    · exact hzero
  refine ⟨hcons.books, hcons.holds, ?_, ?_, ?_, ?_⟩
  · have hmoney := hcons.money
    have htotal := hledger.money
    omega
  · intro entry
    exact (hcons.total entry).trans (hledger.items entry)
  · rw [hpaid]
    rcases hcases with ⟨-, rfl⟩ | ⟨env, guid, canOpenMailBox, m, item_guid, -, -, rfl, htakes⟩
    · exact hledger.once
    unfold Mail.code
    split
    · exact hledger.once
    rename_i hCOD
    refine nodup_cons.mpr ⟨fun hmem => hCOD ?_, hledger.once⟩
    obtain ⟨player, hfind, hmail⟩ := htakes.mail
    exact (hledger.settled _ hmem).2 player m hfind (mem_of_find?_eq_some hmail) rfl
  · rw [hpaid]
    rcases hcases with ⟨-, rfl⟩ | ⟨env, guid, canOpenMailBox, m, item_guid, -, -, rfl, htakes⟩
    · exact hsettled
    unfold Mail.code
    split
    · exact hsettled
    rename_i hCOD
    intro pair hpair
    rcases mem_cons.mp hpair with rfl | hpair
    · obtain ⟨owner, payer, howner, hpayer, -, free, hfree, hid, hzero⟩ := (htakes.paid hCOD).owner
      obtain ⟨player, hfind, hmail⟩ := htakes.mail
      have hbox := hledger.books.mailboxes guid player hfind
      refine ⟨(hbox.mails m (mem_of_find?_eq_some hmail)).id.trans_le
        hcons.mails.next, fun player' m' hfind' hmem' hid' => ?_⟩
      obtain rfl := some.inj (hpayer.symm.trans hfind')
      have hbox' := hcons.books.mailboxes guid payer hpayer
      rw [hbox'.mail_eq hmem' hfree (hid'.trans hid.symm)]
      exact hzero
    · exact hsettled pair hpair

theorem has_of_itemAt (hbooks : world.Books) {item : Item}
    (hitem : mailStore.itemAt world location = some item) :
    ∃ holder, world.Has item.guid holder := by
  cases location with
  | slot guid place => exact ⟨.inventory guid, place, item, hitem, rfl⟩
  | mailed guid item_guid =>
    have hguid := guid_of_mailed hbooks hitem
    obtain ⟨player, hfind, hfound⟩ := bind_eq_some_iff.mp hitem
    have hlisted := ((hbooks.mailboxes guid player hfind).kept item_guid).mpr ⟨item, hfound⟩
    obtain ⟨m, hm, hmem⟩ := mem_flatMap.mp hlisted
    exact ⟨.mail guid m.messageID, player, hfind, m, hm, rfl, hguid ▸ hmem⟩

theorem itemAt_of_listed (hbooks : world.Books) (hfind : world.players.find? guid = some player)
    (hm : m ∈ player.m_mail) (hmem : item_guid ∈ m.itemGuids) :
    ∃ item, mailStore.itemAt world (.mailed guid item_guid) = some item ∧
      item.guid = item_guid := by
  have hbox := hbooks.mailboxes guid player hfind
  obtain ⟨item, hitem⟩ := (hbox.kept item_guid).mp (mem_flatMap.mpr ⟨m, hm, hmem⟩)
  exact ⟨item, itemAt_mailed_of_find hfind hitem, hbox.keyed item_guid item hitem⟩

theorem MailboxHolds.lister_eq {nextMailId : ℕ} {m' : Mail}
    (hbox : MailboxHolds known nextMailId guid player) (hm : m ∈ player.m_mail)
    (hm' : m' ∈ player.m_mail) (hmem : item_guid ∈ m.itemGuids) (hmem' : item_guid ∈ m'.itemGuids) :
    m = m' := by
  by_contra hne
  have hpairwise := (nodup_flatMap.mp hbox.once).2
  have : Std.Symm (Function.onFun List.Disjoint Mail.itemGuids) := 
    ⟨fun _ _ hdisj _ hleft hright => hdisj hright hleft⟩
  exact (hpairwise.forall hm hm' hne) hmem hmem'

theorem has_unique (hbooks : world.Books) (hholds : mailStore.Holds data world [])
    {holder holder' : Holder} (hhas : world.Has item_guid holder)
    (hhas' : world.Has item_guid holder') : holder = holder' := by
  cases holder with
  | inventory guid =>
    obtain ⟨place, item, hitem, hguid⟩ := hhas
    cases holder' with
    | inventory guid' =>
      obtain ⟨place', item', hitem', hguid'⟩ := hhas'
      have hsame := hholds.once _ _ item item' hitem hitem' (hguid.trans hguid'.symm)
      exact congrArg Holder.inventory (MailLocation.slot.inj hsame).1
    | mail guid' mailId' =>
      obtain ⟨player', hfind', m', hm', -, hmem'⟩ := hhas'
      obtain ⟨item', hitem', hguid'⟩ := itemAt_of_listed hbooks hfind' hm' hmem'
      exact nomatch hholds.once _ _ item item' hitem hitem' (hguid.trans hguid'.symm)
  | mail guid mailId =>
    obtain ⟨player, hfind, m, hm, hid, hmem⟩ := hhas
    obtain ⟨item, hitem, hguid⟩ := itemAt_of_listed hbooks hfind hm hmem
    cases holder' with
    | inventory guid' =>
      obtain ⟨place', item', hitem', hguid'⟩ := hhas'
      exact nomatch hholds.once _ _ item item' hitem hitem' (hguid.trans hguid'.symm)
    | mail guid' mailId' =>
      obtain ⟨player', hfind', m', hm', hid', hmem'⟩ := hhas'
      obtain ⟨item', hitem', hguid'⟩ := itemAt_of_listed hbooks hfind' hm' hmem'
      have hsame := hholds.once _ _ item item' hitem hitem' (hguid.trans hguid'.symm)
      obtain rfl := (MailLocation.mailed.inj hsame).1
      obtain rfl := some.inj (hfind.symm.trans hfind')
      have hmail := (hbooks.mailboxes guid player hfind).lister_eq hm hm' hmem hmem'
      rw [← hid, ← hid', hmail]

/-- An item of a mail that asks for money leaves the mails only when it is taken by the
owner of the mailbox, who has paid all of it. -/
theorem paid_of_left {after : MailWorld} (hbooks : ledger.world.Books)
    (hholds : mailStore.Holds data ledger.world []) (hdata : UsesData data ledger op)
    (hafter : after = (ledger.perform op).world)
    (hfind : ledger.world.players.find? guid = some player) (hm : m ∈ player.m_mail)
    (hCOD : m.COD ≠ 0) (hmem : item_guid ∈ m.itemGuids) (hleft : ¬Mailed after item_guid) :
    (∃ env canOpenMailBox,
        op = .request env guid (.takeItem canOpenMailBox m.messageID item_guid)) ∧
      PaidInFull ledger.world after guid m ∧
      (ledger.perform op).paid = (guid, m.messageID) :: ledger.paid := by
  subst hafter
  obtain ⟨postage, taken, paid, hcons, -, hpaid, hcases⟩ := perform_conserves hbooks hholds hdata
  obtain ⟨item, hitem, hguid⟩ := itemAt_of_listed hbooks hfind hm hmem
  have htaken : taken = some item_guid := by
    by_contra hne
    exact hleft (hcons.mailed item_guid ⟨guid, item, hitem⟩ hne)
  rcases hcases with ⟨hnone, -⟩ | ⟨env, other, canOpenMailBox, m', other_guid, hop, hother, hcode,
    htakes⟩
  · exact nomatch hnone.symm.trans htaken
  obtain rfl := some.inj (hother.symm.trans htaken)
  obtain ⟨owner, howner, hmail⟩ := htakes.mail
  have hmem' : other_guid ∈ m'.itemGuids := by
    obtain ⟨info, hinfo, hsame⟩ := List.any_eq_true.mp htakes.has
    exact List.mem_map.mpr ⟨info, hinfo, of_decide_eq_true hsame⟩
  have hm' := mem_of_find?_eq_some hmail
  have hhere : ledger.world.Has other_guid (.mail guid m.messageID) :=
    ⟨player, hfind, m, hm, rfl, hmem⟩
  have hthere : ledger.world.Has other_guid (.mail other m'.messageID) :=
    ⟨owner, howner, m', hm', rfl, hmem'⟩
  have hsame := has_unique hbooks hholds hhere hthere
  obtain ⟨rfl, -⟩ := Holder.mail.inj hsame
  obtain rfl := some.inj (hfind.symm.trans howner)
  obtain rfl := (hbooks.mailboxes guid player hfind).lister_eq hm hm' hmem hmem'
  refine ⟨⟨env, canOpenMailBox, hop⟩, htakes.paid hCOD, ?_⟩
  rw [hpaid, hcode, Mail.code, if_neg hCOD]
  rfl

/-- Money only leaves as postage, item objects stay with exactly one holder, and what a
mail asks for is paid before an item of it is taken, and once. -/
theorem mailboxes_keep_money_and_items {start : MailWorld} (hbooks : start.Books)
    (hholds : mailStore.Holds data start [])
    (hreach : Reachable (· = ⟨start, 0, []⟩)
      (guarded (UsesData data) fun ledger op after => after = ledger.perform op) ledger) :
    ledger.world.totalMoney + ledger.postage = start.totalMoney ∧
    (∀ entry, mailStore.total ledger.world entry = mailStore.total start entry) ∧
    (∀ location item, mailStore.itemAt ledger.world location = some item →
      ∃! holder, ledger.world.Has item.guid holder) ∧
    ledger.paid.Nodup ∧
    ∀ op after, UsesData data ledger op → after = ledger.perform op →
      (∀ location item, mailStore.itemAt ledger.world location = some item →
        (∃ other found, mailStore.itemAt after.world other = some found ∧
          found.guid = item.guid ∧ found.entry = item.entry ∧ item.count ≤ found.count) ∨
        ∃ env guid canOpenMailBox mailId,
          op = .request env guid (.takeItem canOpenMailBox mailId item.guid)) ∧
      ∀ guid player m item_guid, ledger.world.players.find? guid = some player →
        m ∈ player.m_mail → m.COD ≠ 0 → item_guid ∈ m.itemGuids →
        ¬Mailed after.world item_guid →
        (∃ env canOpenMailBox,
          op = .request env guid (.takeItem canOpenMailBox m.messageID item_guid)) ∧
        PaidInFull ledger.world after.world guid m ∧
        after.paid = (guid, m.messageID) :: ledger.paid := by
  have hledger : LedgerHolds data start ledger := by
    apply hreach.invariant
    · rintro initial rfl
      exact ⟨hbooks, hholds, rfl, fun _ => rfl, nodup_nil, nofun⟩
    · rintro before op after hbefore ⟨hdata, rfl⟩
      exact perform_holds hbefore hdata
  refine ⟨hledger.money, hledger.items, fun location item hitem => ?_, hledger.once, ?_⟩
  · obtain ⟨holder, hhas⟩ := has_of_itemAt hledger.books hitem
    exact ⟨holder, hhas, fun other hother => has_unique hledger.books hledger.holds hother hhas⟩
  · rintro op after hdata rfl
    refine ⟨fun location item hitem => ?_, fun guid player m item_guid hfind hm hCOD hmem hleft =>
      paid_of_left hledger.books hledger.holds hdata rfl hfind hm hCOD hmem hleft⟩
    obtain ⟨postage, taken, paid, hconserves, -, -, hcases⟩ :=
      perform_conserves hledger.books hledger.holds hdata
    by_cases htaken : taken = some item.guid
    · rcases hcases with ⟨hnone, -⟩ | ⟨env, guid, canOpenMailBox, m, item_guid, hop, hsome, -, -⟩
      · exact nomatch hnone.symm.trans htaken
      · obtain heq := some.inj (hsome.symm.trans htaken)
        exact .inr ⟨env, guid, canOpenMailBox, m.messageID, heq ▸ hop⟩
    · exact .inl (hconserves.kept location item hitem htaken)

def paidItem : Item := { limitedItem with count := 1 }

def paidMail : Mail :=
  ⟨1, .MAIL_NORMAL, 2, 1, [⟨1, 1⟩], [], 0, 0, 5, .MAIL_STATE_UNCHANGED⟩

def emptyMailPlayer (guid money : ℕ) : MailPlayer :=
  ⟨⟨guid, 0, StdMap.empty⟩, money, [], StdMap.empty, false, true⟩

def receiverOfPaidMail : MailPlayer :=
  { emptyMailPlayer 1 10 with
    m_mail := [paidMail]
    mMitems := StdMap.empty.insert 1 paidItem }

def paidMailWorld : MailWorld where
  players := (StdMap.empty.insert 2 (emptyMailPlayer 2 0)).insert 1 receiverOfPaidMail
  cache := CharacterCache.empty.LoadCharacterCacheStorage CharacterCache.nextAddress
    [CharacterCache.oldRow, ⟨2, "Berta", 2, 1, 0, 1, 80⟩] []
  nextItemGuid := 2
  nextMailId := 2
  gameTime := 0

def paidMailEnv : MailEnv :=
  ⟨limitedData, ⟨fun _ => true, fun _ => false, fun _ => false⟩, some, fun _ => true,
    fun _ _ => true, fun _ => false, fun _ => false, 0⟩

theorem paidMailWorld_cases {guid : ℕ} {player : MailPlayer}
    (hfind : paidMailWorld.players.find? guid = some player) :
    guid = 1 ∧ player = receiverOfPaidMail ∨ guid = 2 ∧ player = emptyMailPlayer 2 0 := by
  unfold paidMailWorld at hfind
  rw [find?_insert, find?_insert] at hfind
  split at hfind
  case isTrue heq => exact .inl ⟨heq.symm, (some.inj hfind).symm⟩
  split at hfind
  case isTrue heq => exact .inr ⟨heq.symm, (some.inj hfind).symm⟩
  case isFalse => cases hfind

theorem find?_receiver : paidMailWorld.players.find? 1 = some receiverOfPaidMail :=
  find?_insert_self ..

theorem find?_sender : paidMailWorld.players.find? 2 = some (emptyMailPlayer 2 0) :=
  (find?_insert ..).trans (find?_insert_self ..)

theorem paidMailWorld_known {guid : ℕ} : paidMailWorld.Known guid ↔ guid = 1 ∨ guid = 2 := by
  constructor
  · rintro ⟨player, hfind⟩
    exact (paidMailWorld_cases hfind).imp And.left And.left
  · rintro (rfl | rfl)
    · exact ⟨_, find?_receiver⟩
    · exact ⟨_, find?_sender⟩

theorem paidMailWorld_books : paidMailWorld.Books where
  mailboxes guid player hfind := by
    rcases paidMailWorld_cases hfind with ⟨rfl, rfl⟩ | ⟨rfl, rfl⟩
    · refine ⟨by decide, ?_, nodup_singleton 1, nodup_singleton 1, ?_, ?_⟩
      · intro m hm
        obtain rfl := mem_singleton.mp hm
        exact ⟨nofun, rfl, nofun, paidMailWorld_known.mpr (.inr rfl), rfl, by decide, by decide⟩
      · intro item_guid
        constructor
        · intro hmem
          obtain rfl := mem_singleton.mp hmem
          exact ⟨paidItem, find?_insert_self ..⟩
        · rintro ⟨item, hitem⟩
          unfold receiverOfPaidMail at hitem
          rw [find?_insert] at hitem
          split at hitem
          case isTrue heq => exact mem_singleton.mpr heq.symm
          case isFalse => cases hitem
      · intro item_guid item hitem
        unfold receiverOfPaidMail at hitem
        rw [find?_insert] at hitem
        split at hitem
        case isFalse => cases hitem
        rename_i heq
        cases hitem
        exact heq
    · refine ⟨zero_le _, nofun, nodup_nil, nodup_nil, fun item_guid => ⟨nofun, ?_⟩, ?_⟩
      · rintro ⟨item, hitem⟩
        cases hitem
      · intro item_guid item hitem
        cases hitem
  agree := @CharacterCache.LoadCharacterCacheStorage_agrees CharacterCache.nextAddress
    [CharacterCache.oldRow, ⟨2, "Berta", 2, 1, 0, 1, 80⟩] ⟨by decide, by decide⟩ []
  cached guid hne := by
    rw [paidMailWorld_known]
    by_contra hother
    rw [not_or] at hother
    refine hne (CharacterCache.find_eq_none ?_)
    change Function.update (Function.update (fun _ => none) 1 (some _)) 2 (some _) guid = none
    rw [update_of_ne hother.2, update_of_ne hother.1]
  accounts guid hknown := by
    rcases paidMailWorld_known.mp hknown with rfl | rfl
    · decide +kernel
    · decide +kernel
  guids guid hknown := by
    rcases paidMailWorld_known.mp hknown with rfl | rfl
    · decide
    · decide

theorem paidMailWorld_item {item : Item}
    (hitem : mailStore.itemAt paidMailWorld location = some item) :
    location = .mailed 1 1 ∧ item = paidItem := by
  cases location with
  | slot guid place =>
    obtain ⟨player, hfind, hfound⟩ := bind_eq_some_iff.mp hitem
    rcases paidMailWorld_cases hfind with ⟨rfl, rfl⟩ | ⟨rfl, rfl⟩
    · cases hfound
    · cases hfound
  | mailed guid item_guid =>
    obtain ⟨player, hfind, hfound⟩ := bind_eq_some_iff.mp hitem
    rcases paidMailWorld_cases hfind with ⟨rfl, rfl⟩ | ⟨rfl, rfl⟩
    · unfold receiverOfPaidMail at hfound
      rw [find?_insert] at hfound
      split at hfound
      case isTrue heq => exact ⟨heq ▸ rfl, (some.inj hfound).symm⟩
      case isFalse => cases hfound
    · cases hfound

theorem paidMailWorld_holds : mailStore.Holds limitedData paidMailWorld [] where
  once location other item found hitem hfound _ :=
    (paidMailWorld_item hitem).1.trans (paidMailWorld_item hfound).1.symm
  given location item hitem := (paidMailWorld_item hitem).2 ▸ one_lt_two
  within location item hitem := by
    rw [(paidMailWorld_item hitem).2]
    exact ⟨limitedProto, rfl, by decide⟩
  away pItem hmem := absurd hmem not_mem_nil
  looseOnce := nodup_nil
  looseGiven pItem hmem := absurd hmem not_mem_nil
  looseWithin pItem hmem := absurd hmem not_mem_nil

/-- The item is taken, and the five copper are in a mail to the sender. -/
theorem mail_is_paid_for : ∃ ledger op, op = MailOp.request paidMailEnv 1 (.takeItem true 1 1) ∧
      ledger = (⟨paidMailWorld, 0, []⟩ : MailLedger).perform op ∧
      ledger.paid = [(1, 1)] ∧ ledger.world.totalMoney + ledger.postage = 10 ∧
      (ledger.world.players.find? 1).map MailPlayer.money = some 5 ∧ ledger.paid.Nodup := by
  have hreach : Reachable (· = (⟨paidMailWorld, 0, []⟩ : MailLedger))
      (guarded (UsesData limitedData) fun ledger op after => after = ledger.perform op)
      ((⟨paidMailWorld, 0, []⟩ : MailLedger).perform
        (.request paidMailEnv 1 (.takeItem true 1 1))) :=
    @Reachable.step _ _ _ _ _ _ (.request paidMailEnv 1 (.takeItem true 1 1)) (.start rfl)
      ⟨rfl, rfl⟩
  have hkept := mailboxes_keep_money_and_items paidMailWorld_books paidMailWorld_holds hreach
  refine ⟨_, _, rfl, rfl, by decide +kernel, hkept.1.trans (by decide +kernel),
    by decide +kernel, hkept.2.2.2.1⟩

end AzerothCore.Mails
