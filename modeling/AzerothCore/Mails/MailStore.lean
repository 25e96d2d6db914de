import AzerothCore.Mails.Mail
import AzerothCore.Storage.ItemMoves

/-!
# The items of all characters

The slots of the characters and the items in their mails are one store. A
request takes items out of slots or of mails, keeps them in a draft, and puts
them among the items that a character has in mails.
-/

namespace AzerothCore.Mails

open List Option
open Caching Storage

inductive MailLocation where
  | slot (guid : ℕ) (place : Place)
  | mailed (guid item_guid : ℕ)

def MailPlayer.holdings (entry : ℕ) (player : MailPlayer) : ℕ :=
  player.inventory.total entry + player.mMitems.sumValues (Item.weight entry)

def mailStore : ItemStore MailWorld MailLocation where
  itemAt world
    | .slot guid place => (world.players.find? guid).bind fun player =>
      player.inventory.items.find? place
    | .mailed guid item_guid => (world.players.find? guid).bind fun player =>
      player.mMitems.find? item_guid
  total world entry := world.players.sumValues (MailPlayer.holdings entry)
  nextItemGuid := MailWorld.nextItemGuid

def MailDraft.values (draft : MailDraft) : List Item := draft.m_items.entries.map Prod.snd

variable {data : GameData} {world : MailWorld} {guid receiver : ℕ} {player player' : MailPlayer}
  {loose : List Item}

namespace MailWorld

theorem find?_setPlayer (guid other : ℕ) (player : MailPlayer) :
    (world.setPlayer guid player).players.find? other =
      if guid = other then some player else world.players.find? other :=
  world.players.find?_insert guid other player

theorem find?_setPlayer_self (guid : ℕ) (player : MailPlayer) :
    (world.setPlayer guid player).players.find? guid = some player := by
  rw [find?_setPlayer, if_pos rfl]

theorem sumValues_setPlayer (f : MailPlayer → ℕ) (guid : ℕ) (player : MailPlayer) :
    (world.setPlayer guid player).players.sumValues f =
      f player + (world.players.erase guid).sumValues f :=
  StdMap.sumValues_insert ..

theorem sumValues_replace (f : MailPlayer → ℕ) {old : MailPlayer}
    (hfind : world.players.find? guid = some old) :
    (world.setPlayer guid player).players.sumValues f + f old =
      world.players.sumValues f + f player := by
  have hold := StdMap.sumValues_erase f hfind
  rw [sumValues_setPlayer]
  omega

theorem setPlayer_setPlayer :
    (world.setPlayer guid player).setPlayer guid player' = world.setPlayer guid player' := by
  have hplayers : (world.players.insert guid player).insert guid player' =
      world.players.insert guid player' := by
    refine StdMap.ext_find? fun other => ?_
    rw [StdMap.find?_insert, StdMap.find?_insert, StdMap.find?_insert]
    split
    · rfl
    · rfl
  exact congrArg (fun players => ({ world with players := players } : MailWorld)) hplayers

theorem setPlayer_self (hfind : world.players.find? guid = some player) :
    world.setPlayer guid player = world :=
  congrArg (fun players => ({ world with players := players } : MailWorld))
    (StdMap.insert_of_find? hfind)

theorem itemAt_slot (guid other : ℕ) (place : Place) :
    mailStore.itemAt (world.setPlayer guid player) (.slot other place) =
      if guid = other then player.inventory.items.find? place
      else mailStore.itemAt world (.slot other place) := by
  unfold mailStore
  dsimp only
  rw [find?_setPlayer]
  split
  · rfl
  · rfl

theorem itemAt_mailed (guid other item_guid : ℕ) :
    mailStore.itemAt (world.setPlayer guid player) (.mailed other item_guid) =
      if guid = other then player.mMitems.find? item_guid
      else mailStore.itemAt world (.mailed other item_guid) := by
  unfold mailStore
  dsimp only
  rw [find?_setPlayer]
  split
  · rfl
  · rfl

theorem mailStore_embeds (world : MailWorld) (guid : ℕ) (player : MailPlayer) : Embeds mailStore
      (fun inventory nextItemGuid =>
        { world.setPlayer guid { player with inventory := inventory } with
          nextItemGuid := nextItemGuid })
      (.slot guid) where
  itemAt inventory _ place := by
    have hslot : mailStore.itemAt (world.setPlayer guid { player with inventory := inventory })
        (.slot guid place) = inventory.items.find? place :=
      (itemAt_slot guid guid place).trans (if_pos rfl)
    exact hslot
  others inventory inventory' _ _ location hother := by
    cases location with
    | slot other place =>
      have hne : guid ≠ other := fun heq => hother place (heq ▸ rfl)
      have hslot : ∀ inventory, mailStore.itemAt
          (world.setPlayer guid { player with inventory := inventory }) (.slot other place) =
            mailStore.itemAt world (.slot other place) := fun inventory =>
        (itemAt_slot guid other place).trans (if_neg hne)
      exact (hslot inventory').trans (hslot inventory).symm
    | mailed other item_guid =>
      have hmailed : ∀ inventory, mailStore.itemAt
          (world.setPlayer guid { player with inventory := inventory })
            (.mailed other item_guid) =
          if guid = other then player.mMitems.find? item_guid
            else mailStore.itemAt world (.mailed other item_guid) :=
        fun inventory => itemAt_mailed guid other item_guid
      exact (hmailed inventory').trans (hmailed inventory).symm
  total inventory inventory' _ _ entry := by
    have hsum : ∀ inventory : Storage.Player,
        (world.setPlayer guid { player with inventory := inventory }).players.sumValues
            (MailPlayer.holdings entry) =
          inventory.total entry + player.mMitems.sumValues (Item.weight entry) +
            (world.players.erase guid).sumValues (MailPlayer.holdings entry) :=
      fun inventory => sumValues_setPlayer ..
    have hleft := hsum inventory
    have hright := hsum inventory'
    simp only [mailStore]
    omega
  next _ _ := rfl
  injective _ _ heq := (MailLocation.slot.inj heq).2

theorem updated_mailed {item_guid : ℕ} {new : Option Item}
    (hinv : player'.inventory = player.inventory)
    (hfind : ∀ other, player'.mMitems.find? other =
      if item_guid = other then new else player.mMitems.find? other)
    (htotal : ∀ entry, player'.mMitems.sumValues (Item.weight entry) +
        (player.mMitems.find? item_guid).elim 0 (Item.weight entry) =
      player.mMitems.sumValues (Item.weight entry) + new.elim 0 (Item.weight entry)) :
    mailStore.Updated (world.setPlayer guid player) (.mailed guid item_guid) new
      (world.setPlayer guid player') where
  itemAt location := by
    cases location with
    | slot other place =>
      rw [if_neg nofun, itemAt_slot, itemAt_slot, hinv]
    | mailed other other_guid =>
      rw [itemAt_mailed, itemAt_mailed]
      by_cases hguid : guid = other
      · rw [if_pos hguid, if_pos hguid, hfind]
        by_cases hitem : item_guid = other_guid
        · rw [if_pos hitem, if_pos (by rw [hguid, hitem])]
        · rw [if_neg hitem, if_neg fun heq => hitem (MailLocation.mailed.inj heq).2.symm]
      · rw [if_neg hguid, if_neg hguid,
          if_neg fun heq => hguid (MailLocation.mailed.inj heq).1.symm]
  total entry := by
    have hmails := htotal entry
    have hitem : mailStore.itemAt (world.setPlayer guid player) (.mailed guid item_guid) =
        player.mMitems.find? item_guid := (itemAt_mailed ..).trans (if_pos rfl)
    rw [hitem]
    simp only [mailStore]
    rw [sumValues_setPlayer, sumValues_setPlayer, MailPlayer.holdings, MailPlayer.holdings, hinv]
    omega
  next := le_rfl

theorem moves_setPlayer (hholds : mailStore.Holds data world loose)
    (hfind : world.players.find? guid = some player)
    (hinv : player'.inventory = player.inventory)
    (hmitems : player'.mMitems = player.mMitems) :
    mailStore.Moves data world loose (world.setPlayer guid player') loose := by
  refine .of_same hholds (fun location => ?_) (fun entry => ?_) le_rfl
  · cases location with
    | slot other place =>
      rw [itemAt_slot, hinv]
      split
      case isFalse => rfl
      rename_i heq
      subst heq
      unfold mailStore
      dsimp only
      rw [hfind, bind_some]
    | mailed other item_guid =>
      rw [itemAt_mailed, hmitems]
      split
      case isFalse => rfl
      rename_i heq
      subst heq
      unfold mailStore
      dsimp only
      rw [hfind, bind_some]
  · have htotal := @sumValues_replace world guid player' (MailPlayer.holdings entry) _ hfind
    have hsame : player'.holdings entry = player.holdings entry := by
      rw [MailPlayer.holdings, MailPlayer.holdings, hinv, hmitems]
    simp only [mailStore]
    omega

end MailWorld

namespace MailPlayer

def Keyed (player : MailPlayer) : Prop :=
  ∀ item_guid item, player.mMitems.find? item_guid = some item → item.guid = item_guid

theorem find?_AddMItem (item : Item) (other : ℕ) : (player.AddMItem item).mMitems.find? other =
      if item.guid = other then some item else player.mMitems.find? other :=
  player.mMitems.find?_insert item.guid other item

theorem find?_RemoveMItem (item_guid other : ℕ) :
    (player.RemoveMItem item_guid).mMitems.find? other =
      if item_guid = other then none else player.mMitems.find? other :=
  player.mMitems.find?_erase item_guid other

theorem Keyed.AddMItem (hkeyed : player.Keyed) (item : Item) : (player.AddMItem item).Keyed := by
  intro item_guid found hfound
  rw [find?_AddMItem] at hfound
  split at hfound
  case isTrue heq => exact some.inj hfound ▸ heq
  case isFalse => exact hkeyed item_guid found hfound

end MailPlayer

theorem moves_addItems {entries : List (ℕ × Item)} (hkeyed : player.Keyed)
    (hholds : mailStore.Holds data (world.setPlayer receiver player) (entries.map Prod.snd)) :
    mailStore.Moves data (world.setPlayer receiver player) (entries.map Prod.snd)
      (world.setPlayer receiver
        (entries.foldl (fun player entry => player.AddMItem entry.2) player)) [] := by
  induction entries generalizing player with
  | nil => exact .refl hholds
  | cons entry entries ih =>
    have hitem : mailStore.itemAt (world.setPlayer receiver player)
        (.mailed receiver entry.2.guid) = player.mMitems.find? entry.2.guid :=
      (MailWorld.itemAt_mailed ..).trans (if_pos rfl)
    have hnone : player.mMitems.find? entry.2.guid = none := by
      refine eq_none_iff_forall_ne_some.mpr fun found hfound => ?_
      exact hholds.away entry.2 mem_cons_self _ found (hitem.trans hfound)
        (hkeyed _ found hfound)
    have hupdated : mailStore.Updated (world.setPlayer receiver player)
        (.mailed receiver entry.2.guid) (some entry.2)
        (world.setPlayer receiver (player.AddMItem entry.2)) := by
      refine MailWorld.updated_mailed rfl (fun other => MailPlayer.find?_AddMItem ..) ?_
      intro sum
      rw [hnone, elim_none, Nat.add_zero, elim_some, Nat.add_comm _ (Item.weight ..)]
      exact StdMap.sumValues_insert_of_not_mem _ _ hnone
    have hfirst := ItemStore.Moves.placed hholds (hitem.trans hnone) hupdated
    exact hfirst.trans (ih (hkeyed.AddMItem entry.2) hfirst.holds)

namespace MailDraft

variable {draft : MailDraft} {item : Item}

def Keyed (draft : MailDraft) : Prop :=
  ∀ item_guid item, draft.m_items.find? item_guid = some item → item.guid = item_guid

theorem mem_values {item_guid : ℕ} (hfind : draft.m_items.find? item_guid = some item) :
    item ∈ draft.values :=
  List.mem_map.mpr ⟨(item_guid, item), StdMap.find?_eq_some_iff.mp hfind, rfl⟩

theorem Keyed.AddItem (hkeyed : draft.Keyed) (item : Item) : (draft.AddItem item).Keyed := by
  intro item_guid found hfound
  have hinsert : (draft.AddItem item).m_items.find? item_guid =
      if item.guid = item_guid then some item else draft.m_items.find? item_guid :=
    draft.m_items.find?_insert item.guid item_guid item
  rw [hinsert] at hfound
  split at hfound
  case isTrue heq => exact some.inj hfound ▸ heq
  case isFalse => exact hkeyed item_guid found hfound

theorem find?_of_loose (hkeyed : draft.Keyed)
    (hholds : mailStore.Holds data world (item :: draft.values)) :
    draft.m_items.find? item.guid = none := by
  refine eq_none_iff_forall_ne_some.mpr fun found hfound => ?_
  have hnodup := hholds.looseOnce
  rw [map_cons, nodup_cons] at hnodup
  exact hnodup.1 (List.mem_map.mpr ⟨found, mem_values hfound, hkeyed _ found hfound⟩)

theorem moves_AddItem {new : Item} (hkeyed : draft.Keyed)
    (hholds : mailStore.Holds data world (item :: draft.values))
    (hsame : ItemStore.SameItem item new) :
    mailStore.Moves data world (item :: draft.values) world (draft.AddItem new).values := by
  have hnone : draft.m_items.find? new.guid = none := hsame.guid ▸ find?_of_loose hkeyed hholds
  have hperm : (new :: draft.values).Perm (draft.AddItem new).values := by
    have hinsert := (draft.m_items.insert_perm new.guid new).map Prod.snd
    rw [StdMap.erase_of_not_mem (StdMap.find?_eq_none_iff.mp hnone)] at hinsert
    exact hinsert.symm
  have hrelabelled := ItemStore.Moves.relabelled hholds hsame
  exact hrelabelled.trans (.of_perm hrelabelled.holds hperm)

theorem AddItem_of_find? (hfind : draft.m_items.find? item.guid = some item) :
    draft.AddItem item = draft := by
  rw [AddItem, StdMap.insert_of_find? hfind]

end MailDraft

end AzerothCore.Mails

/-! ## The mailboxes of all characters -/

namespace AzerothCore.Mails

open List
open Caching Storage

def Mail.itemGuids (m : Mail) : List ℕ := m.items.map MailItemInfo.item_guid

namespace MailPlayer

variable (player : MailPlayer)

def listed : List ℕ := player.m_mail.flatMap Mail.itemGuids

def mailMoney : ℕ := (player.m_mail.map Mail.money).sum

def wealth : ℕ := player.money + player.mailMoney

end MailPlayer

structure MailHolds (known : ℕ → Prop) (nextMailId guid : ℕ) (m : Mail) : Prop where
  live : m.state ≠ .MAIL_STATE_DELETED
  normal : m.messageType = .MAIL_NORMAL
  sender_ne : m.sender ≠ 0
  sender : known m.sender
  receiver : m.receiver = guid
  money : m.money ≤ MAX_MONEY_AMOUNT
  id : m.messageID < nextMailId

structure MailboxHolds (known : ℕ → Prop) (nextMailId guid : ℕ) (player : MailPlayer) : Prop where
  money : player.money ≤ MAX_MONEY_AMOUNT
  mails : ∀ m ∈ player.m_mail, MailHolds known nextMailId guid m
  ids : (player.m_mail.map Mail.messageID).Nodup
  once : player.listed.Nodup
  kept : ∀ item_guid, item_guid ∈ player.listed ↔ ∃ item, player.mMitems.find? item_guid = some item
  keyed : player.Keyed

section Mailbox

variable {known : ℕ → Prop} {nextMailId next guid : ℕ} {player player' : MailPlayer}
  {m m' : Mail} {front back : List Mail}

theorem MailHolds.mono (hmail : MailHolds known nextMailId guid m) (hle : nextMailId ≤ next) :
    MailHolds known next guid m :=
  { hmail with id := hmail.id.trans_le hle }

theorem MailboxHolds.mono (hbox : MailboxHolds known nextMailId guid player)
    (hle : nextMailId ≤ next) : MailboxHolds known next guid player :=
  { hbox with mails := fun m hmem => (hbox.mails m hmem).mono hle }

theorem listed_perm (hmails : player.m_mail = front ++ m :: back) :
    player.listed.Perm (m.itemGuids ++ (front ++ back).flatMap Mail.itemGuids) := by
  rw [MailPlayer.listed, hmails]
  exact perm_middle.flatMap_right Mail.itemGuids

theorem mailMoney_eq (hmails : player.m_mail = front ++ m :: back) :
    player.mailMoney = m.money + ((front ++ back).map Mail.money).sum := by
  rw [MailPlayer.mailMoney, hmails]
  exact (perm_middle.map Mail.money).sum_eq

section

variable (hbox : MailboxHolds known nextMailId guid player)
include hbox

section

variable (hmoney : player'.money ≤ MAX_MONEY_AMOUNT)
include hmoney

theorem MailboxHolds.congr (hmails : player'.m_mail = player.m_mail)
    (hmitems : player'.mMitems = player.mMitems) :
    MailboxHolds known nextMailId guid player' := by
  have hlisted : player'.listed = player.listed := congrArg (List.flatMap Mail.itemGuids) hmails
  constructor
  · exact hmoney
  · rw [hmails]
    exact hbox.mails
  · rw [hmails]
    exact hbox.ids
  · rw [hlisted]
    exact hbox.once
  · rw [hlisted, hmitems]
    exact hbox.kept
  · rw [MailPlayer.Keyed, hmitems]
    exact hbox.keyed

theorem MailboxHolds.replace (hmails : player.m_mail = front ++ m :: back)
    (hmails' : player'.m_mail = front ++ m' :: back) (hid : m'.messageID = m.messageID)
    (hmail : MailHolds known nextMailId guid m') {gone : List ℕ}
    (hitems : m.itemGuids.Perm (gone ++ m'.itemGuids))
    (hfind : ∀ item_guid, player'.mMitems.find? item_guid =
      if item_guid ∈ gone then none else player.mMitems.find? item_guid) :
    MailboxHolds known nextMailId guid player' := by
  have hbefore := listed_perm hmails
  have hafter := listed_perm hmails'
  have hsplit : player.listed.Perm (gone ++ player'.listed) := by
    refine hbefore.trans ((hitems.append_right _).trans ?_)
    rw [append_assoc]
    exact hafter.symm.append_left gone
  obtain ⟨-, honce, hdisj⟩ := nodup_append.mp (hsplit.nodup_iff.mp hbox.once)
  constructor
  · exact hmoney
  · intro other hmem
    rw [hmails', mem_append, mem_cons] at hmem
    rcases hmem with hmem | rfl | hmem
    · exact hbox.mails other (hmails ▸ mem_append_left _ hmem)
    · exact hmail
    · exact hbox.mails other (hmails ▸ mem_append_right _ (mem_cons_of_mem _ hmem))
  · have hids := hbox.ids
    rw [hmails, map_append, map_cons] at hids
    rw [hmails', map_append, map_cons, hid]
    exact hids
  · exact honce
  · intro item_guid
    have hkept := hbox.kept item_guid
    rw [hsplit.mem_iff, mem_append] at hkept
    rw [hfind]
    by_cases hgone : item_guid ∈ gone
    · rw [if_pos hgone]
      constructor
      · intro hmem
        exact absurd rfl (hdisj item_guid hgone item_guid hmem)
      · rintro ⟨item, hitem⟩
        cases hitem
    · rw [if_neg hgone, ← hkept]
      exact (or_iff_right hgone).symm
  · intro item_guid item hitem
    rw [hfind] at hitem
    by_cases hgone : item_guid ∈ gone
    · rw [if_pos hgone] at hitem
      cases hitem
    · rw [if_neg hgone] at hitem
      exact hbox.keyed item_guid item hitem

theorem MailboxHolds.remove (hmails : player.m_mail = front ++ m :: back)
    (hmails' : player'.m_mail = front ++ back)
    (hfind : ∀ item_guid, player'.mMitems.find? item_guid =
      if item_guid ∈ m.itemGuids then none else player.mMitems.find? item_guid) :
    MailboxHolds known nextMailId guid player' := by
  have hlisted : player'.listed = (front ++ back).flatMap Mail.itemGuids :=
    congrArg (List.flatMap Mail.itemGuids) hmails'
  have hsplit : player.listed.Perm (m.itemGuids ++ player'.listed) := hlisted ▸ listed_perm hmails
  obtain ⟨-, honce, hdisj⟩ := nodup_append.mp (hsplit.nodup_iff.mp hbox.once)
  constructor
  · exact hmoney
  · intro other hmem
    rw [hmails', mem_append] at hmem
    refine hbox.mails other (hmails ▸ ?_)
    exact hmem.elim (mem_append_left _) fun hmem =>
      mem_append_right _ (mem_cons_of_mem _ hmem)
  · have hids := hbox.ids
    rw [hmails] at hids
    rw [hmails']
    exact hids.sublist (((sublist_cons_self m back).append_left front).map _)
  · exact honce
  · intro item_guid
    have hkept := hbox.kept item_guid
    rw [hsplit.mem_iff, mem_append] at hkept
    rw [hfind]
    by_cases hgone : item_guid ∈ m.itemGuids
    · rw [if_pos hgone]
      constructor
      · intro hmem
        exact absurd rfl (hdisj item_guid hgone item_guid hmem)
      · rintro ⟨item, hitem⟩
        cases hitem
    · rw [if_neg hgone, ← hkept]
      exact (or_iff_right hgone).symm
  · intro item_guid item hitem
    rw [hfind] at hitem
    by_cases hgone : item_guid ∈ m.itemGuids
    · rw [if_pos hgone] at hitem
      cases hitem
    · rw [if_neg hgone] at hitem
      exact hbox.keyed item_guid item hitem

end

theorem MailboxHolds.deliver
    (hmoney : player'.money = player.money) (hmails : player'.m_mail = m :: player.m_mail)
    (hmail : MailHolds known (nextMailId + 1) guid m) (hid : m.messageID = nextMailId)
    (hnodup : m.itemGuids.Nodup)
    (hfresh : ∀ item_guid ∈ m.itemGuids, player.mMitems.find? item_guid = none)
    (hfind : ∀ item_guid, (∃ item, player'.mMitems.find? item_guid = some item) ↔
      item_guid ∈ m.itemGuids ∨ ∃ item, player.mMitems.find? item_guid = some item)
    (hkeyed : player'.Keyed) : MailboxHolds known (nextMailId + 1) guid player' := by
  have hlisted : player'.listed = m.itemGuids ++ player.listed := by
    rw [MailPlayer.listed, hmails]
    exact flatMap_cons
  constructor
  · exact hmoney ▸ hbox.money
  · intro other hmem
    rw [hmails] at hmem
    rcases mem_cons.mp hmem with rfl | hmem
    · exact hmail
    · exact (hbox.mails other hmem).mono (Nat.le_succ nextMailId)
  · rw [hmails, map_cons, nodup_cons]
    refine ⟨fun hmem => ?_, hbox.ids⟩
    obtain ⟨other, hother, hsame⟩ := mem_map.mp hmem
    exact absurd (hsame.trans hid) (hbox.mails other hother).id.ne
  · rw [hlisted]
    refine nodup_append.mpr ⟨hnodup, hbox.once, ?_⟩
    rintro item_guid hnew other hmem rfl
    obtain ⟨item, hitem⟩ := (hbox.kept item_guid).mp hmem
    exact nomatch (hfresh item_guid hnew).symm.trans hitem
  · intro item_guid
    rw [hlisted, mem_append, hbox.kept, hfind]
  · exact hkeyed

theorem _SaveMail_spec : ∃ saved : Mail → Mail, player._SaveMail.m_mail = player.m_mail.map saved ∧
      ∀ m, m.state ≠ .MAIL_STATE_DELETED → (saved m).state ≠ .MAIL_STATE_DELETED ∧
        (saved m).messageID = m.messageID ∧ (saved m).messageType = m.messageType ∧
        (saved m).sender = m.sender ∧ (saved m).receiver = m.receiver ∧
        (saved m).items = m.items ∧ (saved m).money = m.money ∧ (saved m).COD = m.COD := by
  unfold MailPlayer._SaveMail
  split
  · refine ⟨id, (map_id _).symm, fun m hlive => ⟨hlive, rfl, rfl, rfl, rfl, rfl, rfl, rfl⟩⟩
  refine ⟨fun m => if m.state = .MAIL_STATE_CHANGED then
    { m with removedItems := [], state := .MAIL_STATE_UNCHANGED } else m, ?_, ?_⟩
  · rw [filter_eq_self.mpr]
    intro m hmem
    exact decide_eq_true (hbox.mails m hmem).live
  · intro m hlive
    dsimp only
    split
    · exact ⟨nofun, rfl, rfl, rfl, rfl, rfl, rfl, rfl⟩
    · exact ⟨hlive, rfl, rfl, rfl, rfl, rfl, rfl, rfl⟩

end

theorem _SaveMail_fields :
    player._SaveMail.money = player.money ∧ player._SaveMail.inventory = player.inventory ∧
      player._SaveMail.mMitems = player.mMitems := by
  unfold MailPlayer._SaveMail
  split
  · exact ⟨rfl, rfl, rfl⟩
  · exact ⟨rfl, rfl, rfl⟩

theorem MailboxHolds.save (hbox : MailboxHolds known nextMailId guid player) :
    MailboxHolds known nextMailId guid player._SaveMail ∧
      player._SaveMail.mailMoney = player.mailMoney := by
  obtain ⟨saved, hmails, hsaved⟩ := _SaveMail_spec hbox
  obtain ⟨hmoney, -, hmitems⟩ := @_SaveMail_fields player
  have hmap : ∀ {α : Type} (field : Mail → α),
      (∀ m, m.state ≠ .MAIL_STATE_DELETED → field (saved m) = field m) →
      player._SaveMail.m_mail.map field = player.m_mail.map field := by
    intro α field hfield
    rw [hmails, map_map]
    exact map_congr_left fun m hmem => hfield m (hbox.mails m hmem).live
  have hlisted : player._SaveMail.listed = player.listed := by
    rw [MailPlayer.listed, MailPlayer.listed, flatMap_def, flatMap_def]
    rw [hmap Mail.itemGuids fun m hlive => congrArg (List.map _) (hsaved m hlive).2.2.2.2.2.1]
  refine ⟨?_, ?_⟩
  · constructor
    · exact hmoney ▸ hbox.money
    · intro m hmem
      rw [hmails] at hmem
      obtain ⟨old, hold, rfl⟩ := mem_map.mp hmem
      have hmail := hbox.mails old hold
      obtain ⟨hlive, hid, htype, hsender, hreceiver, -, hmailMoney, -⟩ := hsaved old hmail.live
      exact ⟨hlive, htype.trans hmail.normal, hsender ▸ hmail.sender_ne, hsender ▸ hmail.sender,
        hreceiver.trans hmail.receiver, hmailMoney ▸ hmail.money, hid ▸ hmail.id⟩
    · rw [hmap Mail.messageID fun m hlive => (hsaved m hlive).2.1]
      exact hbox.ids
    · rw [hlisted]
      exact hbox.once
    · rw [hlisted, hmitems]
      exact hbox.kept
    · rw [MailPlayer.Keyed, hmitems]
      exact hbox.keyed
  · rw [MailPlayer.mailMoney, MailPlayer.mailMoney,
      hmap Mail.money fun m hlive => (hsaved m hlive).2.2.2.2.2.2.1]

end Mailbox

namespace MailWorld

def Known (world : MailWorld) (guid : ℕ) : Prop := ∃ player, world.players.find? guid = some player

structure Books (world : MailWorld) : Prop where
  mailboxes : ∀ guid player, world.players.find? guid = some player →
    MailboxHolds world.Known world.nextMailId guid player
  agree : world.cache.StoresAgree
  cached : ∀ guid, world.cache.find guid ≠ none → world.Known guid
  accounts : ∀ guid, world.Known guid → world.GetCharacterAccountIdByGuid guid ≠ 0
  guids : ∀ guid, world.Known guid → guid ≠ 0

def totalMoney (world : MailWorld) : ℕ := world.players.sumValues MailPlayer.wealth

variable {world : MailWorld} {guid receiver : ℕ} {player player' old : MailPlayer}

theorem known_setPlayer (hknown : world.Known guid) (player : MailPlayer) :
    (world.setPlayer guid player).Known = world.Known := by
  refine funext fun other => propext ?_
  rw [Known, find?_setPlayer]
  split
  case isTrue heq => exact ⟨fun _ => heq ▸ hknown, fun _ => ⟨player, rfl⟩⟩
  case isFalse => exact Iff.rfl

namespace Books

theorem setPlayer (hbooks : world.Books) (hknown : world.Known guid)
    (hbox : MailboxHolds world.Known world.nextMailId guid player) :
    (world.setPlayer guid player).Books := by
  have hsame := known_setPlayer hknown player
  constructor
  · intro other found hfound
    rw [hsame]
    rw [find?_setPlayer] at hfound
    split at hfound
    case isFalse => exact hbooks.mailboxes other found hfound
    rename_i heq
    cases hfound
    exact heq ▸ hbox
  · exact hbooks.agree
  · rw [hsame]
    exact hbooks.cached
  · rw [hsame]
    exact hbooks.accounts
  · rw [hsame]
    exact hbooks.guids

theorem updateMailCount (hbooks : world.Books) (guid : ℕ) (count : ℤ) :
    (world.UpdateCharacterMailCount guid count).Books := by
  obtain ⟨hagree, hfind⟩ :=
    CharacterCache.UpdateCharacterMailCount_agrees hbooks.agree guid count false
  constructor
  · exact hbooks.mailboxes
  · exact hagree
  · intro other hother
    refine hbooks.cached other fun hnone => hother ?_
    change (world.cache.UpdateCharacterMailCount guid count false).find other = none
    rw [hfind]
    split
    case isTrue heq => rw [← heq, hnone, Option.map_none]
    case isFalse => exact hnone
  · intro other hknown
    have haccount := hbooks.accounts other hknown
    unfold GetCharacterAccountIdByGuid at haccount ⊢
    change Option.elim ((world.cache.UpdateCharacterMailCount guid count false).find other) _ _ ≠ 0
    rw [hfind]
    split
    case isFalse => exact haccount
    rename_i heq
    subst heq
    cases hnode : world.cache.find other with
    | none | some =>
      rw [hnode] at haccount
      exact haccount
  · exact hbooks.guids

end Books

end MailWorld

end AzerothCore.Mails

/-! ## Items and money on their way through the mail -/

namespace AzerothCore.Mails

open List Nat
open Caching Storage

variable {data : GameData} {world : MailWorld} {guid receiver : ℕ} {player : MailPlayer}
  {draft : MailDraft}

variable {inventory : Storage.Player}

theorem GetItemByGuid_spec {item_guid : ℕ} {pos : ItemPos} {item : Item}
    (hfound : inventory.GetItemByGuid data item_guid = some (pos, item)) :
    inventory.GetItemByPos data pos = some item ∧ item.guid = item_guid := by
  obtain ⟨slot, -, hslot⟩ := exists_of_findSome?_eq_some hfound
  obtain ⟨found, hfilter, heq⟩ := Option.map_eq_some_iff.mp hslot
  obtain ⟨rfl, rfl⟩ := Prod.mk.inj heq
  obtain ⟨hitem, hguid⟩ := Option.filter_eq_some_iff.mp hfilter
  exact ⟨hitem, of_decide_eq_true hguid⟩

def Attached (data : GameData) (receiver : ℕ) (inventory : Storage.Player) (draft : MailDraft)
    (found : ItemPos × Item) : Prop :=
  (∃ place, inventory.place data found.1 = some place ∧ inventory.items.find? place = some found.2 ∧
    ∀ bag, isBagSlot bag = true → place = .main bag → data.IsBag found.2 = false) ∨
  inventory.GetItemByPos data found.1 = none ∧
    draft.m_items.find? found.2.guid = some { found.2 with owner := receiver }

def MailWorld.withInventory (world : MailWorld) (guid : ℕ) (player : MailPlayer)
    (inventory : Storage.Player) : MailWorld :=
  world.setPlayer guid { player with inventory := inventory }

theorem Attached.without {found other : ItemPos × Item} {place : Place}
    (hitem : inventory.items.find? place = some found.2)
    (hbag : ∀ bag, isBagSlot bag = true → place = .main bag → data.IsBag found.2 = false)
    (hfresh : draft.m_items.find? found.2.guid = none)
    (hother : Attached data receiver inventory draft other) :
    Attached data receiver (inventory.without place)
      (draft.AddItem { found.2 with owner := receiver }) other := by
  have hsame := place_without_item hitem hbag other.1
  have hdraft : ∀ item_guid,
      (draft.AddItem { found.2 with owner := receiver }).m_items.find? item_guid =
        if found.2.guid = item_guid then some { found.2 with owner := receiver }
        else draft.m_items.find? item_guid :=
    fun item_guid => draft.m_items.find?_insert found.2.guid item_guid _
  rcases hother with ⟨otherPlace, hotherPlace, hotherItem, hotherBag⟩ | ⟨hnone, hin⟩
  · by_cases heq : place = otherPlace
    · subst heq
      obtain heqItem := Option.some.inj (hitem.symm.trans hotherItem)
      refine .inr ⟨?_, ?_⟩
      · rw [Player.GetItemByPos, hsame, hotherPlace, Option.bind_some, find?_without, if_pos rfl]
      · rw [hdraft, heqItem, if_pos rfl]
    · refine .inl ⟨otherPlace, hsame.trans hotherPlace, ?_, hotherBag⟩
      rw [find?_without, if_neg heq]
      exact hotherItem
  · refine .inr ⟨?_, ?_⟩
    · rw [Player.GetItemByPos, hsame]
      cases hpos : inventory.place data other.1 with
      | none => rfl
      | some otherPlace =>
        rw [Player.GetItemByPos, hpos, Option.bind_some] at hnone
        rw [Option.bind_some, find?_without, hnone, ite_self]
    · have hne : found.2.guid ≠ other.2.guid := by
        intro heq
        exact nomatch (heq ▸ hfresh).symm.trans hin
      rw [hdraft, if_neg hne]
      exact hin

theorem moves_takeItems {items : List (ItemPos × Item)} (hkeyed : draft.Keyed)
    (hholds : mailStore.Holds data (world.withInventory guid player inventory) draft.values)
    (hattached : ∀ found ∈ items, Attached data receiver inventory draft found) :
    mailStore.Moves data (world.withInventory guid player inventory) draft.values
      (world.withInventory guid player
        (items.foldl (fun inventory found => inventory.MoveItemFromInventory data found.1)
          inventory))
      (items.foldl (fun draft found => draft.AddItem { found.2 with owner := receiver })
        draft).values ∧
    (items.foldl (fun draft found => draft.AddItem { found.2 with owner := receiver })
      draft).Keyed := by
  induction items generalizing inventory draft with
  | nil => exact ⟨.refl hholds, hkeyed⟩
  | cons found items ih =>
    rw [foldl_cons, foldl_cons]
    have hrest := fun other hmem => hattached other (mem_cons_of_mem found hmem)
    rcases hattached found mem_cons_self with
      ⟨place, hplace, hitem, hbag⟩ | ⟨hnone, hin⟩
    · have hpos : inventory.GetItemByPos data found.1 = some found.2 :=
        (GetItemByPos_eq hplace).trans hitem
      have hat : mailStore.itemAt (world.withInventory guid player inventory)
          (.slot guid place) = some found.2 :=
        ((MailWorld.itemAt_slot ..).trans (if_pos rfl)).trans hitem
      have hupdated : mailStore.Updated (world.withInventory guid player inventory)
          (.slot guid place) none
          (world.withInventory guid player (inventory.without place)) :=
        @Embeds.updated_without _ _ _ _ _ _ world.nextItemGuid _ _
          (MailWorld.mailStore_embeds world guid player) hitem
      have hremoved := ItemStore.Moves.removed hholds hat hupdated
      have hfresh := MailDraft.find?_of_loose hkeyed hremoved.holds
      have hadded := MailDraft.moves_AddItem hkeyed hremoved.holds
        (⟨rfl, rfl, rfl⟩ : ItemStore.SameItem found.2 { found.2 with owner := receiver })
      have hstep := hremoved.trans hadded
      rw [MoveItemFromInventory_eq hpos hplace]
      obtain ⟨hmoves, hkeys⟩ := ih (hkeyed.AddItem _) hstep.holds fun other hmem =>
        (hrest other hmem).without hitem hbag hfresh
      exact ⟨hstep.trans hmoves, hkeys⟩
    · have hsame : inventory.MoveItemFromInventory data found.1 = inventory := by
        unfold Player.MoveItemFromInventory
        rw [hnone]
      rw [hsame, MailDraft.AddItem_of_find? hin]
      exact ih hkeyed hholds hrest

theorem find?_removeItems (infos : List MailItemInfo) (player : MailPlayer) (item_guid : ℕ) :
    (infos.foldl (fun player info => player.RemoveMItem info.item_guid) player).mMitems.find?
        item_guid =
      if item_guid ∈ infos.map MailItemInfo.item_guid then none
      else player.mMitems.find? item_guid := by
  induction infos generalizing player with
  | nil => exact (if_neg not_mem_nil).symm
  | cons info infos ih =>
    rw [foldl_cons, ih, MailPlayer.find?_RemoveMItem, map_cons]
    by_cases hrest : item_guid ∈ infos.map MailItemInfo.item_guid
    · rw [if_pos hrest, if_pos (mem_cons_of_mem _ hrest)]
    rw [if_neg hrest]
    by_cases hhere : info.item_guid = item_guid
    · rw [if_pos hhere, if_pos (hhere ▸ mem_cons_self)]
    rw [if_neg hhere, if_neg]
    intro hmem
    exact (mem_cons.mp hmem).elim (fun heq => hhere heq.symm) hrest

theorem removeItems_fields (infos : List MailItemInfo) (player : MailPlayer) :
    (infos.foldl (fun player info => player.RemoveMItem info.item_guid) player).inventory =
        player.inventory ∧
      (infos.foldl (fun player info => player.RemoveMItem info.item_guid) player).money =
        player.money := by
  induction infos generalizing player with
  | nil => exact ⟨rfl, rfl⟩
  | cons info infos ih => exact ih (player.RemoveMItem info.item_guid)

theorem moves_RemoveMItem {loose : List Item} {item_guid : ℕ} {item : Item}
    (hholds : mailStore.Holds data (world.setPlayer guid player) loose)
    (hitem : player.mMitems.find? item_guid = some item) :
    mailStore.Moves data (world.setPlayer guid player) loose
      (world.setPlayer guid (player.RemoveMItem item_guid)) (item :: loose) := by
  have hat : mailStore.itemAt (world.setPlayer guid player) (.mailed guid item_guid) = some item :=
    ((MailWorld.itemAt_mailed ..).trans (if_pos rfl)).trans hitem
  refine .removed hholds hat (MailWorld.updated_mailed rfl
    (fun other => MailPlayer.find?_RemoveMItem item_guid other) fun entry => ?_)
  rw [hitem, Option.elim_some, Option.elim_none, Nat.add_zero, Nat.add_comm]
  exact StdMap.sumValues_erase (Item.weight entry) hitem

theorem moves_takeMailed {infos : List MailItemInfo} {owner : MailPlayer} (hkeyed : draft.Keyed)
    (hholds : mailStore.Holds data (world.setPlayer guid player) draft.values)
    (hnodup : (infos.map MailItemInfo.item_guid).Nodup)
    (hhere : ∀ info ∈ infos, ∃ item, owner.mMitems.find? info.item_guid = some item ∧
      player.mMitems.find? info.item_guid = some item) :
    mailStore.Moves data (world.setPlayer guid player) draft.values
      (world.setPlayer guid
        (infos.foldl (fun player info => player.RemoveMItem info.item_guid) player))
      ((infos.filterMap fun info => owner.GetMItem info.item_guid).foldl MailDraft.AddItem
        draft).values ∧
    ((infos.filterMap fun info => owner.GetMItem info.item_guid).foldl MailDraft.AddItem
      draft).Keyed := by
  induction infos generalizing player draft with
  | nil => exact ⟨.refl hholds, hkeyed⟩
  | cons info infos ih =>
    obtain ⟨item, howner, hitem⟩ := hhere info mem_cons_self
    rw [map_cons, nodup_cons] at hnodup
    have hcons : (info :: infos).filterMap (fun info => owner.GetMItem info.item_guid) =
        item :: infos.filterMap fun info => owner.GetMItem info.item_guid :=
      filterMap_cons_some howner
    rw [hcons, foldl_cons, foldl_cons]
    have hremoved := moves_RemoveMItem hholds hitem
    have hadded := MailDraft.moves_AddItem hkeyed hremoved.holds (.refl item)
    have hstep := hremoved.trans hadded
    obtain ⟨hmoves, hkeys⟩ := ih (hkeyed.AddItem item) hstep.holds hnodup.2
      fun other hmem => by
        obtain ⟨found, hownerFound, hfound⟩ := hhere other (mem_cons_of_mem _ hmem)
        refine ⟨found, hownerFound, ?_⟩
        rw [MailPlayer.find?_RemoveMItem, if_neg]
        · exact hfound
        · intro heq
          exact hnodup.1 (mem_map.mpr ⟨other, hmem, heq.symm⟩)
    exact ⟨hstep.trans hmoves, hkeys⟩

/-- The mail that `SendMailTo` makes of a draft. -/
def MailWorld.mailOf (world : MailWorld) (draft : MailDraft) (receiver : ℕ) (sender : MailSender)
    (deliver_delay : ℕ) : Mail where
  messageID := world.nextMailId
  messageType := sender.m_messageType
  sender := sender.m_senderId
  receiver := receiver
  items := draft.m_items.entries.map fun entry => ⟨entry.2.guid, entry.2.entry⟩
  removedItems := []
  deliver_time := world.gameTime + deliver_delay
  money := draft.m_money
  COD := draft.m_COD
  state := .MAIL_STATE_UNCHANGED

def MailPlayer.deliver (player : MailPlayer) (draft : MailDraft) (mail : Mail) : MailPlayer :=
  draft.m_items.entries.foldl (fun player entry => player.AddMItem entry.2) (player.AddMail mail)

theorem SendMailTo_eq (hfind : world.players.find? receiver = some player) (draft : MailDraft)
    (sender : MailSender) (deliver_delay : ℕ) :
    world.SendMailTo draft receiver sender deliver_delay =
      ({ world with nextMailId := world.nextMailId + 1 }.UpdateCharacterMailCount receiver
        1).setPlayer receiver
          (player.deliver draft (world.mailOf draft receiver sender deliver_delay)) := by
  have hknown : ({ world with nextMailId := world.nextMailId + 1 }.UpdateCharacterMailCount
      receiver 1).players.find? receiver = some player := hfind
  unfold MailWorld.SendMailTo
  dsimp only
  rw [hknown]
  rfl

variable (entries : List (ℕ × Item))

theorem addItems_fields (player : MailPlayer) :
    (entries.foldl (fun player entry => player.AddMItem entry.2) player).inventory =
        player.inventory ∧
      (entries.foldl (fun player entry => player.AddMItem entry.2) player).money =
        player.money := by
  induction entries generalizing player with
  | nil => exact ⟨rfl, rfl⟩
  | cons entry entries ih => exact ih (player.AddMItem entry.2)

theorem addItems_keyed (hkeyed : player.Keyed) :
    (entries.foldl (fun player entry => player.AddMItem entry.2) player).Keyed := by
  induction entries generalizing player with
  | nil => exact hkeyed
  | cons entry entries ih => exact ih (hkeyed.AddMItem entry.2)

theorem find?_addItems (player : MailPlayer) (item_guid : ℕ) :
    (∃ item, (entries.foldl (fun player entry => player.AddMItem entry.2)
        player).mMitems.find? item_guid = some item) ↔
      item_guid ∈ entries.map (fun entry => entry.2.guid) ∨
        ∃ item, player.mMitems.find? item_guid = some item := by
  induction entries generalizing player with
  | nil => exact (or_iff_right not_mem_nil).symm
  | cons entry entries ih =>
    rw [foldl_cons, ih, map_cons, mem_cons, MailPlayer.find?_AddMItem]
    by_cases heq : entry.2.guid = item_guid
    · rw [if_pos heq]
      exact ⟨fun _ => .inl (.inl heq.symm), fun _ => .inr ⟨_, rfl⟩⟩
    · rw [if_neg heq, or_assoc]
      exact (or_iff_right fun hsame => heq hsame.symm).symm

theorem itemGuids_mailOf (draft : MailDraft) (sender : MailSender) (deliver_delay : ℕ) :
    (world.mailOf draft receiver sender deliver_delay).itemGuids =
      draft.m_items.entries.map fun entry => entry.2.guid :=
  map_map

section Delivery

variable {sender : MailSender} {deliver_delay : ℕ}

section

variable (hbooks : world.Books) (hholds : mailStore.Holds data world draft.values) (hfind : world.players.find? receiver = some player)
include hbooks hholds hfind

theorem moves_SendMailTo : mailStore.Moves data world draft.values
      (world.SendMailTo draft receiver sender deliver_delay) [] := by
  rw [SendMailTo_eq hfind]
  have hsent : mailStore.Moves data world draft.values
      ({ world with nextMailId := world.nextMailId + 1 }.UpdateCharacterMailCount receiver 1)
      draft.values :=
    .of_same hholds (fun location => by cases location <;> rfl) (fun _ => rfl) le_rfl
  have hmail := @MailWorld.moves_setPlayer data _ receiver player
    (player.AddMail (world.mailOf draft receiver sender deliver_delay)) _ hsent.holds hfind rfl rfl
  exact (hsent.trans hmail).trans
    (moves_addItems (hbooks.mailboxes receiver player hfind).keyed hmail.holds)

theorem books_SendMailTo
    (hnormal : sender.m_messageType = .MAIL_NORMAL) (hsender : world.Known sender.m_senderId)
    (hmoney : draft.m_money ≤ MAX_MONEY_AMOUNT) :
    (world.SendMailTo draft receiver sender deliver_delay).Books := by
  have hbox := hbooks.mailboxes receiver player hfind
  have hguids := @itemGuids_mailOf world receiver draft sender deliver_delay
  rw [SendMailTo_eq hfind]
  have hnext : ({ world with nextMailId := world.nextMailId + 1 } : MailWorld).Books :=
    { mailboxes := fun guid player hfound =>
        (hbooks.mailboxes guid player hfound).mono (le_succ _)
      agree := hbooks.agree
      cached := hbooks.cached
      accounts := hbooks.accounts
      guids := hbooks.guids }
  refine (hnext.updateMailCount receiver 1).setPlayer ⟨player, hfind⟩ ?_
  refine hbox.deliver (addItems_fields _ _).2 (MailWorld.addItems_m_mail _ _) ?_ rfl ?_ ?_ ?_ ?_
  · exact ⟨nofun, hnormal, hbooks.guids _ hsender, hsender, rfl, hmoney, lt_succ_self _⟩
  · rw [hguids, ← Function.comp_def Item.guid Prod.snd, ← map_map]
    exact hholds.looseOnce
  · intro item_guid hmem
    rw [hguids] at hmem
    obtain ⟨entry, hentry, rfl⟩ := mem_map.mp hmem
    refine Option.eq_none_iff_forall_ne_some.mpr fun found hfound => ?_
    have hat : mailStore.itemAt world (.mailed receiver entry.2.guid) = some found := by
      unfold mailStore
      dsimp only
      rw [hfind, Option.bind_some]
      exact hfound
    exact hholds.away entry.2 (mem_map.mpr ⟨entry, hentry, rfl⟩) _ found hat
      (hbox.keyed _ found hfound)
  · intro item_guid
    rw [hguids]
    exact find?_addItems draft.m_items.entries _ item_guid
  · exact addItems_keyed _ hbox.keyed

end

theorem totalMoney_SendMailTo (hfind : world.players.find? receiver = some player) :
    (world.SendMailTo draft receiver sender deliver_delay).totalMoney =
      world.totalMoney + draft.m_money := by
  rw [SendMailTo_eq hfind]
  have hreplace := @MailWorld.sumValues_replace
    ({ world with nextMailId := world.nextMailId + 1 }.UpdateCharacterMailCount receiver 1)
    receiver (player.deliver draft (world.mailOf draft receiver sender deliver_delay))
    MailPlayer.wealth player hfind
  have hwealth : (player.deliver draft
      (world.mailOf draft receiver sender deliver_delay)).wealth =
        player.wealth + draft.m_money := by
    rw [MailPlayer.wealth, MailPlayer.mailMoney, MailPlayer.deliver, MailWorld.addItems_m_mail,
      (addItems_fields _ _).2]
    change player.money + (draft.m_money + player.mailMoney) =
      player.money + player.mailMoney + draft.m_money
    omega
  change _ = world.players.sumValues MailPlayer.wealth + _ at hreplace
  unfold MailWorld.totalMoney
  omega

end Delivery

end AzerothCore.Mails

/-! ## What a request does to items and money -/

namespace AzerothCore.Mails

open List Option Nat
open Caching Storage

variable {env : MailEnv} {data : GameData} {before middle after world : MailWorld}
  {guid receiver mailId : ℕ} {player player' : MailPlayer} {m : Mail} {paid : Option (ℕ × ℕ)}

def SlotsFrom (before after : MailWorld) : Prop :=
  ∀ guid place item, mailStore.itemAt after (.slot guid place) = some item →
    mailStore.itemAt before (.slot guid place) = some item

structure MailsFrom (before after : MailWorld) (paid : Option (ℕ × ℕ)) : Prop where
  next : before.nextMailId ≤ after.nextMailId
  kept : ∀ guid player' m', after.players.find? guid = some player' → m' ∈ player'.m_mail →
    m'.messageID < before.nextMailId →
    ∃ player m, before.players.find? guid = some player ∧ m ∈ player.m_mail ∧
      m.messageID = m'.messageID ∧
      (m'.COD = m.COD ∨ m'.COD = 0 ∧ paid = some (guid, m.messageID))

def Mailed (world : MailWorld) (item_guid : ℕ) : Prop :=
  ∃ guid item, mailStore.itemAt world (.mailed guid item_guid) = some item

theorem SlotsFrom.trans (hfirst : SlotsFrom before middle) (hsecond : SlotsFrom middle after) :
    SlotsFrom before after :=
  fun guid place item hitem => hfirst guid place item (hsecond guid place item hitem)

theorem SlotsFrom.setPlayer (hfind : world.players.find? guid = some player)
    (hless : ∀ place item, player'.inventory.items.find? place = some item →
      player.inventory.items.find? place = some item) :
    SlotsFrom world (world.setPlayer guid player') := by
  intro other place item hitem
  rw [MailWorld.itemAt_slot] at hitem
  split at hitem
  case isFalse => exact hitem
  rename_i heq
  subst heq
  unfold mailStore
  dsimp only
  rw [hfind, bind_some]
  exact hless place item hitem

theorem MailsFrom.refl (world : MailWorld) (paid : Option (ℕ × ℕ)) : MailsFrom world world paid :=
  ⟨le_rfl, fun _ player m hfind hmem _ => ⟨player, m, hfind, hmem, rfl, .inl rfl⟩⟩

theorem MailsFrom.trans (hfirst : MailsFrom before middle paid)
    (hsecond : MailsFrom middle after paid) : MailsFrom before after paid where
  next := hfirst.next.trans hsecond.next
  kept guid player' m' hfind hmem hold := by
    obtain ⟨player, m, hplayer, hm, hid, hCOD⟩ :=
      hsecond.kept guid player' m' hfind hmem (hold.trans_le hfirst.next)
    obtain ⟨start, m₀, hstart, hm₀, hid₀, hCOD₀⟩ :=
      hfirst.kept guid player m hplayer hm (hid ▸ hold)
    refine ⟨start, m₀, hstart, hm₀, hid₀.trans hid, ?_⟩
    rcases hCOD with hsame | ⟨hzero, hpaid⟩
    · rw [hsame]
      exact hCOD₀
    · exact .inr ⟨hzero, hid₀ ▸ hpaid⟩

theorem MailsFrom.setPlayer (hfind : world.players.find? guid = some player)
    (hmails : ∀ m' ∈ player'.m_mail, ∃ m ∈ player.m_mail, m.messageID = m'.messageID ∧
      (m'.COD = m.COD ∨ m'.COD = 0 ∧ paid = some (guid, m.messageID))) :
    MailsFrom world (world.setPlayer guid player') paid where
  next := le_rfl
  kept other found m' hfound hmem _ := by
    rw [MailWorld.find?_setPlayer] at hfound
    split at hfound
    case isFalse => exact ⟨found, m', hfound, hmem, rfl, .inl rfl⟩
    rename_i heq
    subst heq
    cases hfound
    obtain ⟨m, hm, hid, hCOD⟩ := hmails m' hmem
    exact ⟨player, m, hfind, hm, hid, hCOD⟩

theorem MailsFrom.of_sublist (hfind : world.players.find? guid = some player)
    (hmails : ∀ m' ∈ player'.m_mail, m' ∈ player.m_mail) :
    MailsFrom world (world.setPlayer guid player') paid :=
  .setPlayer hfind fun m' hmem => ⟨m', hmails m' hmem, rfl, .inl rfl⟩

section Sending

variable {draft : MailDraft} {sender : MailSender} {deliver_delay : ℕ}

theorem slotsFrom_SendMailTo (hfind : world.players.find? receiver = some player) :
    SlotsFrom world (world.SendMailTo draft receiver sender deliver_delay) := by
  rw [SendMailTo_eq hfind]
  have hsame : SlotsFrom world
      ({ world with nextMailId := world.nextMailId + 1 }.UpdateCharacterMailCount receiver 1) :=
    fun _ _ _ hitem => hitem
  refine hsame.trans (.setPlayer hfind fun place item hitem => ?_)
  rw [MailPlayer.deliver, (addItems_fields _ _).1] at hitem
  exact hitem

theorem mailsFrom_SendMailTo (hfind : world.players.find? receiver = some player) :
    MailsFrom world (world.SendMailTo draft receiver sender deliver_delay) paid := by
  rw [SendMailTo_eq hfind]
  refine ⟨le_succ _, fun guid found m' hfound hmem hold => ?_⟩
  rw [MailWorld.find?_setPlayer] at hfound
  split at hfound
  case isFalse => exact ⟨found, m', hfound, hmem, rfl, .inl rfl⟩
  rename_i heq
  subst heq
  cases hfound
  rw [MailPlayer.deliver, MailWorld.addItems_m_mail] at hmem
  rcases mem_cons.mp hmem with rfl | hmem
  · exact absurd hold (Nat.lt_irrefl _)
  · exact ⟨player, m', hfind, hmem, rfl, .inl rfl⟩

end Sending

variable {item_guid : ℕ} {items : List (ItemPos × Item)} {request : SendMailRequest}

theorem itemAt_mailed_of_find {item : Item} (hfind : world.players.find? guid = some player)
    (hitem : player.mMitems.find? item_guid = some item) :
    mailStore.itemAt world (.mailed guid item_guid) = some item := by
  unfold mailStore
  dsimp only
  rw [hfind, bind_some]
  exact hitem

theorem guid_of_mailed (hbooks : world.Books) {item : Item}
    (hitem : mailStore.itemAt world (.mailed guid item_guid) = some item) :
    item.guid = item_guid := by
  obtain ⟨player, hfind, hfound⟩ := bind_eq_some_iff.mp hitem
  exact (hbooks.mailboxes guid player hfind).keyed item_guid item hfound

theorem mailed_of_moves (hbooks : before.Books) (hbooks' : after.Books)
    (hholds : mailStore.Holds data before []) (hmoves : mailStore.Moves data before [] after [])
    (hslots : SlotsFrom before after) (hmailed : Mailed before item_guid) :
    Mailed after item_guid := by
  obtain ⟨guid, item, hitem⟩ := hmailed
  obtain ⟨found, hpresent, hsame⟩ := hmoves.present item (.inl ⟨_, hitem⟩)
  rcases hpresent with ⟨location, hfound⟩ | hmem
  · cases location with
    | slot other place =>
      have hslot := hslots other place found hfound
      exact nomatch hholds.once _ _ item found hitem hslot hsame.guid.symm
    | mailed other other_guid =>
      have hother := guid_of_mailed hbooks' hfound
      have hkey := guid_of_mailed hbooks hitem
      refine ⟨other, found, ?_⟩
      rw [← hkey, ← hsame.guid, hother]
      exact hfound
  · cases hmem

/-! ## What a request keeps -/

structure Conserves (data : GameData) (before after : MailWorld) (postage : ℕ)
    (taken : Option ℕ) (paid : Option (ℕ × ℕ)) : Prop where
  books : after.Books
  holds : mailStore.Holds data after []
  total : ∀ entry, mailStore.total after entry = mailStore.total before entry
  kept : ∀ location item, mailStore.itemAt before location = some item →
    taken ≠ some item.guid → ∃ other found, mailStore.itemAt after other = some found ∧
      found.guid = item.guid ∧ found.entry = item.entry ∧ item.count ≤ found.count
  money : after.totalMoney + postage = before.totalMoney
  mails : MailsFrom before after paid
  mailed : ∀ item_guid, Mailed before item_guid → taken ≠ some item_guid → Mailed after item_guid

theorem Conserves.of_moves {postage : ℕ} (hbooks : before.Books) (hbooks' : after.Books)
    (hholds : mailStore.Holds data before []) (hmoves : mailStore.Moves data before [] after [])
    (hslots : SlotsFrom before after) (hmoney : after.totalMoney + postage = before.totalMoney)
    (hmails : MailsFrom before after none) : Conserves data before after postage none none where
  books := hbooks'
  holds := hmoves.holds
  total entry := hmoves.total entry
  kept location item hitem _ := by
    obtain ⟨found, hpresent, hsame⟩ := hmoves.present item (.inl ⟨location, hitem⟩)
    rcases hpresent with ⟨other, hfound⟩ | hmem
    · exact ⟨other, found, hfound, hsame.guid, hsame.entry, hsame.count.ge⟩
    · cases hmem
  money := hmoney
  mails := hmails
  mailed _ hmailed _ := mailed_of_moves hbooks hbooks' hholds hmoves hslots hmailed

theorem Conserves.refl (hbooks : world.Books) (hholds : mailStore.Holds data world []) :
    Conserves data world world 0 none none :=
  .of_moves hbooks hbooks hholds (.refl hholds) (fun _ _ _ hitem => hitem) rfl (.refl world none)

theorem mapM_ok {α β ε : Type} {f : α → Except ε β} {list : List α} {results : List β}
    (hmap : list.mapM f = .ok results) : ∀ result ∈ results, ∃ x ∈ list, f x = .ok result := by
  induction list generalizing results with
  | nil =>
    obtain rfl : [] = results := Except.ok.inj hmap
    exact nofun
  | cons x list ih =>
    rw [mapM_cons] at hmap
    rcases hhead : f x with answer | head
    · rw [hhead] at hmap
      cases hmap
    rw [hhead] at hmap
    rcases htail : list.mapM f with answer | tail
    · rw [htail] at hmap
      cases hmap
    rw [htail] at hmap
    obtain rfl : head :: tail = results := Except.ok.inj hmap
    intro result hmem
    rcases mem_cons.mp hmem with rfl | hmem
    · exact ⟨x, mem_cons_self, hhead⟩
    · obtain ⟨y, hy, hresult⟩ := ih htail result hmem
      exact ⟨y, mem_cons_of_mem _ hy, hresult⟩

theorem checkAttachment_attached {COD itemGUID : ℕ} {found : ItemPos × Item}
    (hcheck : world.checkAttachment env guid player receiver COD itemGUID = .ok found) :
    Attached env.data receiver player.inventory MailDraft.empty found := by
  unfold MailWorld.checkAttachment at hcheck
  split at hcheck
  · cases hcheck
  split at hcheck
  · cases hcheck
  rename_i pos item hitem
  obtain ⟨hat, -⟩ := GetItemByGuid_spec hitem
  by_cases hempty : player.inventory.IsNotEmptyBag env.data item = true
  · rw [if_pos hempty] at hcheck
    cases hcheck
  rw [if_neg hempty] at hcheck
  by_cases htraded : player.inventory.CanBeTraded env.data env.checks pos item true false = true
  · have hfound : found = (pos, item) := by
      split_ifs at hcheck
      exact (Except.ok.inj hcheck).symm
    subst hfound
    obtain ⟨place, hplace, hfind⟩ := find?_of_GetItemByPos hat
    refine .inl ⟨place, hplace, hfind, fun bag hslot heq => ?_⟩
    by_contra hbag
    rw [Bool.not_eq_false] at hbag
    unfold Player.CanBeTraded at htraded
    simp only [Bool.and_eq_true, Bool.not_eq_true', Bool.and_eq_false_iff,
      Bool.or_eq_false_iff] at htraded
    have hpos := (htraded.1.1.1.2.resolve_left fun hnot =>
      Bool.false_ne_true (hnot.symm.trans hbag)).1
    exact ne_main_of_not_isBagPos hplace hpos bag hslot heq
  · rw [Bool.not_eq_true] at htraded
    rw [htraded, Bool.not_false, if_pos rfl] at hcheck
    cases hcheck

structure Checked (env : MailEnv) (world : MailWorld) (player : MailPlayer)
    (request : SendMailRequest) (receiver : ℕ) (items : List (ItemPos × Item)) : Prop where
  known : world.cache.find receiver ≠ none
  reqmoney : request.reqmoney = request.cost + request.money
  afford : request.reqmoney ≤ player.money
  attached : ∀ found ∈ items, Attached env.data receiver player.inventory MailDraft.empty found

theorem find_of_name (hagree : world.cache.StoresAgree) {name : String}
    (hname : world.cache.GetCharacterGuidByName name = some receiver) (hne : receiver ≠ 0) :
    world.cache.find receiver ≠ none := by
  unfold CharacterCache.GetCharacterGuidByName CharacterCache.GetCharacterCacheByName at hname
  rcases haddress : world.cache._characterCacheByNameStore name with _ | address
  · rw [haddress] at hname
    exact absurd (some.inj hname).symm hne
  rw [haddress] at hname
  obtain ⟨owner, node, hfind, -⟩ := (hagree.names name address).mp haddress
  have hnode := (CharacterCache.find_iff.mp hfind).2
  dsimp only at hname
  rw [hnode] at hname
  have hguid : node.Guid = receiver := some.inj hname
  rw [← hguid, hagree.guid_eq hfind, hfind]
  exact nofun

theorem checkSendMail_ok (hagree : world.cache.StoresAgree)
    (hcheck : world.checkSendMail env guid player request = .ok (receiver, items)) :
    Checked env world player request receiver items := by
  unfold MailWorld.checkSendMail at hcheck
  by_cases hsubject : (!request.subjectAllowed) = true
  · rw [if_pos hsubject] at hcheck
    cases hcheck
  rw [if_neg hsubject] at hcheck
  by_cases hlen : MAX_MAIL_ITEMS < request.itemGUIDs.length
  · rw [if_pos hlen] at hcheck
    cases hcheck
  rw [if_neg hlen] at hcheck
  by_cases hopen : (!request.canOpenMailBox || decide (request.receiver = "") ||
      !env.maySend guid) = true
  · rw [if_pos hopen] at hcheck
    cases hcheck
  rw [if_neg hopen] at hcheck
  split at hcheck
  · cases hcheck
  rename_i receiverGuid hname
  obtain ⟨name, -, hname⟩ := bind_eq_some_iff.mp hname
  by_cases hzero : receiverGuid = 0
  · rw [if_pos hzero] at hcheck
    cases hcheck
  rw [if_neg hzero] at hcheck
  by_cases hself : guid = receiverGuid
  · rw [if_pos hself] at hcheck
    cases hcheck
  rw [if_neg hself] at hcheck
  by_cases hboth : request.money ≠ 0 ∧ request.COD ≠ 0
  · rw [if_pos hboth] at hcheck
    cases hcheck
  rw [if_neg hboth] at hcheck
  by_cases hmoney : request.reqmoney < request.money ∨ player.money < request.reqmoney
  · rw [if_pos hmoney] at hcheck
    cases hcheck
  rw [if_neg hmoney] at hcheck
  by_cases hcap : 100 < world.mails_count receiverGuid
  · rw [if_pos hcap] at hcheck
    cases hcheck
  rw [if_neg hcap] at hcheck
  by_cases hteam : (!env.mayReceive guid receiverGuid) = true
  · rw [if_pos hteam] at hcheck
    cases hcheck
  rw [if_neg hteam] at hcheck
  split at hcheck
  · cases hcheck
  rename_i found hfound
  obtain ⟨rfl, rfl⟩ := Prod.mk.inj (Except.ok.inj hcheck)
  rw [not_or, Nat.not_lt, Nat.not_lt] at hmoney
  refine ⟨find_of_name hagree hname hzero, ?_, hmoney.2, fun attachment hmem => ?_⟩
  · have hcost : request.cost ≤ 360 := by
      unfold MAX_MAIL_ITEMS at hlen
      unfold SendMailRequest.cost
      split
      · omega
      · omega
    have hwrap := hmoney.1
    unfold SendMailRequest.reqmoney uint32 at hwrap ⊢
    omega
  · obtain ⟨itemGUID, -, hattachment⟩ := mapM_ok hfound attachment hmem
    exact checkAttachment_attached hattachment

theorem takeItems_less (items : List (ItemPos × Item)) (inventory : Storage.Player) (place : Place)
    (item : Item)
    (hitem : (items.foldl (fun inventory found => inventory.MoveItemFromInventory data found.1)
      inventory).items.find? place = some item) : inventory.items.find? place = some item := by
  induction items generalizing inventory with
  | nil => exact hitem
  | cons found items ih =>
    have hrest : (inventory.MoveItemFromInventory data found.1).items.find? place = some item :=
      ih _ hitem
    unfold Player.MoveItemFromInventory Player.RemoveItem at hrest
    split at hrest
    · exact hrest
    split at hrest
    · exact hrest
    rename_i other _
    rw [StdMap.find?_erase] at hrest
    split at hrest
    · cases hrest
    · exact hrest

theorem sendChecked_conserves (hbooks : world.Books) (hholds : mailStore.Holds env.data world [])
    (hfind : world.players.find? guid = some player)
    (hchecked : Checked env world player request receiver items) :
    Conserves env.data world (world.sendChecked env guid player request receiver items)
      request.cost none none := by
  have hbox := hbooks.mailboxes guid player hfind
  have hself : world.withInventory guid player player.inventory = world :=
    MailWorld.setPlayer_self hfind
  obtain ⟨htake, -⟩ := @moves_takeItems env.data world guid receiver player MailDraft.empty
    player.inventory items nofun (hself.symm ▸ hholds) hchecked.attached
  rw [hself] at htake
  have hmoney : ModifyMoney player.money (-int32 request.reqmoney) =
      player.money - request.reqmoney := ModifyMoney_neg hchecked.afford hbox.money
  unfold MailWorld.sendChecked
  dsimp only
  rw [hmoney]
  have hless := @takeItems_less env.data items player.inventory
  generalize items.foldl (fun inventory found => inventory.MoveItemFromInventory env.data found.1)
    player.inventory = inventory at htake hless ⊢
  generalize items.foldl (fun draft found => draft.AddItem { found.2 with owner := receiver })
    MailDraft.empty = filled at htake ⊢
  generalize hpaid : ({ player with
    inventory := inventory, money := player.money - request.reqmoney } : MailPlayer) = payer
  have hpayer : payer.inventory = inventory ∧ payer.money = player.money - request.reqmoney ∧
      payer.m_mail = player.m_mail ∧ payer.mMitems = player.mMitems := by
    rw [← hpaid]
    exact ⟨rfl, rfl, rfl, rfl⟩
  obtain ⟨hinv, hpayerMoney, hmails, hmitems⟩ := hpayer
  -- the sender has paid, and the items are in the draft
  have hpay := MailWorld.moves_setPlayer htake.holds (MailWorld.find?_setPlayer_self guid _)
    hinv hmitems
  have hcharged : mailStore.Moves env.data world [] (world.setPlayer guid payer) filled.values := by
    have htrans := htake.trans hpay
    rw [MailWorld.withInventory, MailWorld.setPlayer_setPlayer] at htrans
    exact htrans
  have hbooksCharged : (world.setPlayer guid payer).Books := hbooks.setPlayer ⟨player, hfind⟩
      (hbox.congr (hpayerMoney ▸ (sub_le _ _).trans hbox.money) hmails hmitems)
  have hknown := MailWorld.known_setPlayer ⟨player, hfind⟩ payer
  obtain ⟨target, htarget⟩ : (world.setPlayer guid payer).Known receiver :=
    hknown ▸ hbooks.cached receiver hchecked.known
  -- the mail is delivered
  generalize hdraft : (filled.AddMoney request.money).AddCOD
    (if items = [] then 0 else request.COD) = draft
  have hvalues : draft.values = filled.values := hdraft ▸ rfl
  have hdraftMoney : draft.m_money = request.money := hdraft ▸ rfl
  have hdraftHolds : mailStore.Holds env.data (world.setPlayer guid payer) draft.values :=
    hvalues ▸ hcharged.holds
  have hsend := @moves_SendMailTo _ _ _ _ _ ⟨.MAIL_NORMAL, guid⟩
    (if items ≠ [] ∧ world.GetCharacterAccountIdByGuid guid ≠
      world.GetCharacterAccountIdByGuid receiver then env.deliveryDelay else 0)
    hbooksCharged hdraftHolds htarget
  refine .of_moves hbooks ?_ hholds (hcharged.trans (hvalues ▸ hsend)) ?_ ?_ ?_
  · refine books_SendMailTo hbooksCharged hdraftHolds htarget rfl (hknown ▸ ⟨player, hfind⟩) ?_
    have hafford := hchecked.afford
    have hreqmoney := hchecked.reqmoney
    have hlimit := hbox.money
    omega
  · refine SlotsFrom.trans (.setPlayer hfind fun place item hitem => ?_)
      (slotsFrom_SendMailTo htarget)
    rw [hinv] at hitem
    exact hless place item hitem
  · have hreplace := @MailWorld.sumValues_replace world guid payer MailPlayer.wealth player hfind
    have hwealth : payer.wealth + request.reqmoney = player.wealth := by
      have hafford := hchecked.afford
      rw [MailPlayer.wealth, MailPlayer.wealth, MailPlayer.mailMoney, MailPlayer.mailMoney, hmails,
        hpayerMoney]
      omega
    have hreqmoney := hchecked.reqmoney
    rw [totalMoney_SendMailTo htarget, hdraftMoney]
    unfold MailWorld.totalMoney
    omega
  · exact MailsFrom.trans (.of_sublist hfind fun m' hmem => hmails ▸ hmem)
      (mailsFrom_SendMailTo htarget)

end AzerothCore.Mails

/-! ## Taking the money of a mail, and returning a mail -/

namespace AzerothCore.Mails

open List Bool
open Caching Pouring Storage

variable {env : MailEnv} {data : GameData} {before after world : MailWorld}
  {guid mailId : ℕ} {player player' : MailPlayer} {m : Mail}

theorem readyMail_spec (hready : world.readyMail player mailId = some m) :
    player.GetMail mailId = some m ∧ m.messageID = mailId ∧ m ∈ player.m_mail := by
  have hmail := (Option.filter_eq_some_iff.mp hready).1
  obtain ⟨hid, -⟩ := List.find?_eq_some_iff_append.mp hmail
  exact ⟨hmail, of_decide_eq_true hid, mem_of_find?_eq_some hmail⟩

/-- After one mail has changed and the mails are saved, they ask for what they asked
for, unless that mail has been paid for. -/
theorem codes_save {known : ℕ → Prop} {nextMailId : ℕ} {taken : Mail} {front back : List Mail}
    {paid : Option (ℕ × ℕ)} (hbox : MailboxHolds known nextMailId guid player')
    (hmails : player.m_mail = front ++ m :: back)
    (hmails' : player'.m_mail = front ++ taken :: back) (hid : taken.messageID = m.messageID)
    (hCOD : taken.COD = m.COD ∨ taken.COD = 0 ∧ paid = some (guid, m.messageID)) :
    ∀ m' ∈ player'._SaveMail.m_mail, ∃ m ∈ player.m_mail, m.messageID = m'.messageID ∧
      (m'.COD = m.COD ∨ m'.COD = 0 ∧ paid = some (guid, m.messageID)) := by
  intro m' hm'
  obtain ⟨saved, hsavedMails, hsavedFields⟩ := _SaveMail_spec hbox
  rw [hsavedMails] at hm'
  obtain ⟨old, hold, rfl⟩ := mem_map.mp hm'
  obtain ⟨-, hsavedId, -, -, -, -, -, hsavedCOD⟩ := hsavedFields old (hbox.mails old hold).live
  rw [hsavedId, hsavedCOD]
  rw [hmails', mem_append, mem_cons] at hold
  rcases hold with hold | rfl | hold
  · exact ⟨old, hmails ▸ mem_append_left _ hold, rfl, .inl rfl⟩
  · exact ⟨m, hmails ▸ mem_append_right _ mem_cons_self, hid.symm, hCOD⟩
  · exact ⟨old, hmails ▸ mem_append_right _ (mem_cons_of_mem _ hold), rfl, .inl rfl⟩

theorem ModifyMoney_of_room {money amount : ℕ} (hmoney : money ≤ MAX_MONEY_AMOUNT)
    (hamount : amount ≤ MAX_MONEY_AMOUNT) (hroom : tooMuchMoney money (int32 amount) = false) :
    ModifyMoney money (int32 amount) = money + amount ∧ money + amount ≤ MAX_MONEY_AMOUNT := by
  by_cases hzero : amount = 0
  · subst hzero
    exact ⟨rfl, hmoney⟩
  rw [int32_of_le hamount, tooMuchMoney, and_eq_false_iff, decide_eq_false_iff_not,
    decide_eq_false_iff_not] at hroom
  have hless : money + amount < MAX_MONEY_AMOUNT := by
    rcases hroom with hneg | hroom
    · exact absurd (by exact_mod_cast Nat.pos_of_ne_zero hzero) hneg
    have hrest : ((MAX_MONEY_AMOUNT : ℕ) : ℤ) - (amount : ℤ) =
        ((MAX_MONEY_AMOUNT - amount : ℕ) : ℤ) := by omega
    have hbound : MAX_MONEY_AMOUNT - amount < 2 ^ 32 := by
      unfold MAX_MONEY_AMOUNT
      omega
    rw [hrest, toUint32_of_lt hbound] at hroom
    omega
  exact ⟨ModifyMoney_pos hless, hless.le⟩

theorem takeMoney_conserves (hbooks : world.Books) (hholds : mailStore.Holds data world [])
    (canOpenMailBox : Bool) :
    Conserves data world (world.HandleMailTakeMoney guid canOpenMailBox mailId).1 0 none none := by
  unfold MailWorld.HandleMailTakeMoney
  split
  · exact .refl hbooks hholds
  rename_i player honline
  have hfind := MailWorld.find_of_online honline
  have hbox := hbooks.mailboxes guid player hfind
  split
  · exact .refl hbooks hholds
  rename_i m hready
  obtain ⟨hmail, -, hmem⟩ := readyMail_spec hready
  have hholdsMail := hbox.mails m hmem
  split
  · exact .refl hbooks hholds
  rename_i hroom
  rw [not_eq_true] at hroom
  obtain ⟨hmoney, hlimit⟩ := ModifyMoney_of_room hbox.money hholdsMail.money hroom
  obtain ⟨front, back, hmails, hset, -⟩ := MailWorld.GetMail_split hmail
  dsimp only
  rw [hmoney]
  generalize htaken : ({ m with money := 0, state := .MAIL_STATE_CHANGED } : Mail) = taken
  have htakenFields : taken.money = 0 ∧ taken.messageID = m.messageID ∧
      taken.COD = m.COD ∧ taken.itemGuids = m.itemGuids := by
    rw [← htaken]
    exact ⟨rfl, rfl, rfl, rfl⟩
  obtain ⟨htakenMoney, htakenId, htakenCOD, htakenItems⟩ := htakenFields
  have htakenHolds : MailHolds world.Known world.nextMailId guid taken := by
    rw [← htaken]
    exact ⟨nofun, hholdsMail.normal, hholdsMail.sender_ne, hholdsMail.sender,
      hholdsMail.receiver, Nat.zero_le _, hholdsMail.id⟩
  generalize hpaid : ({ player.setMail mailId taken with
    money := player.money + m.money, m_mailsUpdated := true } : MailPlayer) = payee
  have hpayee : payee.m_mail = front ++ taken :: back ∧
      payee.money = player.money + m.money ∧ payee.inventory = player.inventory ∧
      payee.mMitems = player.mMitems := by
    rw [← hpaid]
    exact ⟨hset taken, rfl, rfl, rfl⟩
  obtain ⟨hpayeeMails, hpayeeMoney, hinv, hmitems⟩ := hpayee
  have hpayeeBox : MailboxHolds world.Known world.nextMailId guid payee := by
    have hnone : m.itemGuids.Perm ([] ++ taken.itemGuids) := htakenItems ▸ List.Perm.refl _
    refine hbox.replace (hpayeeMoney ▸ hlimit) hmails hpayeeMails htakenId htakenHolds hnone ?_
    intro item_guid
    rw [if_neg not_mem_nil, hmitems]
  obtain ⟨hsaved, hsavedMoney⟩ := hpayeeBox.save
  obtain ⟨hsameMoney, hsameInventory, hsameItems⟩ := @_SaveMail_fields payee
  refine .of_moves hbooks (hbooks.setPlayer ⟨player, hfind⟩ hsaved) hholds
    (MailWorld.moves_setPlayer hholds hfind (hsameInventory.trans hinv)
      (hsameItems.trans hmitems)) (.setPlayer hfind fun place item hitem => ?_) ?_
    (.setPlayer hfind (codes_save hpayeeBox hmails hpayeeMails htakenId (.inl htakenCOD)))
  · rw [hsameInventory, hinv] at hitem
    exact hitem
  · have hreplace := @MailWorld.sumValues_replace world guid payee._SaveMail
      MailPlayer.wealth player hfind
    have hwealth : payee._SaveMail.wealth = player.wealth := by
      rw [MailPlayer.wealth, hsameMoney, hsavedMoney, mailMoney_eq hpayeeMails,
        MailPlayer.wealth, mailMoney_eq hmails, htakenMoney, hpayeeMoney]
      omega
    unfold MailWorld.totalMoney
    omega

theorem returnToSender_conserves (hbooks : world.Books) (hholds : mailStore.Holds data world [])
    (canOpenMailBox : Bool) :
    Conserves data world (world.HandleMailReturnToSender guid canOpenMailBox mailId).1 0 none
      none := by
  unfold MailWorld.HandleMailReturnToSender
  split
  · exact .refl hbooks hholds
  rename_i player honline
  have hfind := MailWorld.find_of_online honline
  have hbox := hbooks.mailboxes guid player hfind
  split
  · exact .refl hbooks hholds
  rename_i m hready
  obtain ⟨hmail, -, hmem⟩ := readyMail_spec hready
  have hholdsMail := hbox.mails m hmem
  obtain ⟨front, back, hmails, -, hremove⟩ := MailWorld.GetMail_split hmail
  rw [if_pos ⟨hholdsMail.normal, hholdsMail.sender_ne⟩]
  -- the mail and its items are gone
  have hitems : m.itemGuids.Nodup := by
    have hsplit := (listed_perm hmails).nodup_iff.mp hbox.once
    exact (nodup_append.mp hsplit).1
  have hgone := @MailWorld.moves_setPlayer data world guid player (player.RemoveMail mailId) []
    hholds hfind rfl rfl
  have hhere : ∀ info ∈ m.items, ∃ item, player.mMitems.find? info.item_guid = some item ∧
        (player.RemoveMail mailId).mMitems.find? info.item_guid = some item := by
    intro info hinfo
    have hlisted : info.item_guid ∈ player.listed :=
      mem_flatMap.mpr ⟨m, hmem, mem_map.mpr ⟨info, hinfo, rfl⟩⟩
    obtain ⟨item, hitem⟩ := (hbox.kept _).mp hlisted
    exact ⟨item, hitem, hitem⟩
  obtain ⟨htake, -⟩ := @moves_takeMailed data world guid (player.RemoveMail mailId)
    MailDraft.empty m.items player nofun hgone.holds hitems hhere
  have hfound := find?_removeItems m.items (player.RemoveMail mailId)
  obtain ⟨hinv, hmoney⟩ := removeItems_fields m.items (player.RemoveMail mailId)
  have hleftMails := (MailWorld.removeItems_m_mail (player.RemoveMail mailId) m.items).trans
    hremove
  generalize m.items.foldl (fun player info => player.RemoveMItem info.item_guid)
    (player.RemoveMail mailId) = left at htake hfound hinv hmoney hleftMails ⊢
  have hleft := hgone.trans htake
  have hleftBooks : (world.setPlayer guid left).Books := by
    refine hbooks.setPlayer ⟨player, hfind⟩ (hbox.remove ?_ hmails hleftMails hfound)
    exact hmoney ▸ hbox.money
  have hknown := MailWorld.known_setPlayer ⟨player, hfind⟩ left
  have hsender : (world.setPlayer guid left).Known m.sender := hknown ▸ hholdsMail.sender
  obtain ⟨target, htarget⟩ := hsender
  generalize hdraft : (MailWorld.draftOf player m).AddMoney m.money = draft
  have hvalues : draft.values = (MailWorld.draftOf player m).values := hdraft ▸ rfl
  have hdraftMoney : draft.m_money = m.money := hdraft ▸ rfl
  have hdraftHolds : mailStore.Holds data (world.setPlayer guid left) draft.values :=
    hvalues ▸ hleft.holds
  -- the sender is a character, so the mail is sent back to him
  have hsent : (world.setPlayer guid left).SendReturnToSender draft m.receiver m.sender =
      (world.setPlayer guid left).SendMailTo draft m.sender ⟨.MAIL_NORMAL, m.receiver⟩ 0 := by
    exact if_neg fun hnobody =>
      hleftBooks.accounts m.sender ⟨target, htarget⟩ hnobody.2
  rw [hsent]
  have hsend := @moves_SendMailTo data (world.setPlayer guid left) m.sender target draft
    ⟨.MAIL_NORMAL, m.receiver⟩ 0 hleftBooks hdraftHolds htarget
  have hreceiver : (world.setPlayer guid left).Known m.receiver :=
    hknown ▸ hholdsMail.receiver.symm ▸ ⟨player, hfind⟩
  have hbooksSent := @books_SendMailTo data (world.setPlayer guid left) m.sender target draft
    ⟨.MAIL_NORMAL, m.receiver⟩ 0 hleftBooks hdraftHolds htarget rfl hreceiver
    (hdraftMoney ▸ hholdsMail.money)
  have hmoves := hleft.trans (hvalues ▸ hsend)
  have hcounted : mailStore.Moves data _ [] (((world.setPlayer guid left).SendMailTo draft
      m.sender ⟨.MAIL_NORMAL, m.receiver⟩ 0).UpdateCharacterMailCount guid (-1)) [] :=
    .of_same hmoves.holds (fun location => by cases location <;> rfl) (fun _ => rfl) le_rfl
  refine .of_moves hbooks (hbooksSent.updateMailCount guid (-1)) hholds (hmoves.trans hcounted)
    ?_ ?_ ?_
  · have hslots : SlotsFrom world (world.setPlayer guid left) := by
      refine .setPlayer hfind fun place item hitem => ?_
      rw [hinv] at hitem
      exact hitem
    exact hslots.trans (slotsFrom_SendMailTo htarget)
  · have hreplace := @MailWorld.sumValues_replace world guid left MailPlayer.wealth player hfind
    have hwealth : left.wealth + m.money = player.wealth := by
      rw [MailPlayer.wealth, hmoney, MailPlayer.wealth, mailMoney_eq hmails,
        MailPlayer.mailMoney, hleftMails]
      change player.money + _ + _ = _
      omega
    have hsentMoney := @totalMoney_SendMailTo (world.setPlayer guid left) m.sender target draft
      ⟨.MAIL_NORMAL, m.receiver⟩ 0 htarget
    change ((world.setPlayer guid left).SendMailTo draft m.sender ⟨.MAIL_NORMAL, m.receiver⟩
      0).totalMoney + 0 = _
    unfold MailWorld.totalMoney at hsentMoney ⊢
    omega
  · have hfirst : MailsFrom world (world.setPlayer guid left) none := by
      refine .of_sublist hfind fun m' hm' => ?_
      rw [hleftMails, mem_append] at hm'
      rw [hmails, mem_append, mem_cons]
      exact hm'.imp_right .inr
    have hboth := hfirst.trans (@mailsFrom_SendMailTo (world.setPlayer guid left) m.sender target
      none draft ⟨.MAIL_NORMAL, m.receiver⟩ 0 htarget)
    exact ⟨hboth.next, hboth.kept⟩

end AzerothCore.Mails
