import AzerothCore.Storage.Inventory

/-!
# What storing an item does

An item object is in one slot, and new items get guids that no item has. An
item that is stored in positions that it fits into adds the counts of these
positions to the items of its entry, changes no other slot, and makes no stack
larger than its template allows.
-/

namespace AzerothCore.Storage

open List Option Nat
open Pouring

variable {data : GameData} {player : Player}

def Item.weight (entry : ℕ) (item : Item) : ℕ := if item.entry = entry then item.count else 0

def Player.total (player : Player) (entry : ℕ) : ℕ := player.items.sumValues (Item.weight entry)

def GameData.WithinStack (data : GameData) (item : Item) : Prop :=
  ∀ proto, data.GetTemplate item = some proto → item.count ≤ proto.GetMaxStackSize

structure Sound (player : Player) (nextItemGuid : ℕ) : Prop where
  once : ∀ place other item found, player.items.find? place = some item →
    player.items.find? other = some found → item.guid = found.guid → place = other
  given : ∀ place item, player.items.find? place = some item → item.guid < nextItemGuid

structure Absent (player : Player) (nextItemGuid : ℕ) (pItem : Item) : Prop where
  given : pItem.guid < nextItemGuid
  absent : ∀ place item, player.items.find? place = some item → item.guid ≠ pItem.guid

theorem find?_set (place other : Place) (item : Item) : (player.set place item).items.find? other =
      if place = other then some item else player.items.find? other :=
  player.items.find?_insert place other item

theorem total_set (place : Place) (item : Item) (entry : ℕ) : (player.set place item).total entry +
        (player.items.find? place).elim 0 (Item.weight entry) =
      player.total entry + item.weight entry := by
  unfold Player.total Player.set
  rw [StdMap.sumValues_insert]
  cases hfind : player.items.find? place with
  | none =>
    rw [StdMap.erase_of_not_mem (StdMap.find?_eq_none_iff.mp hfind), elim_none]
    omega
  | some old =>
    rw [← StdMap.sumValues_erase (Item.weight entry) hfind, elim_some]
    omega

theorem Sound.set {nextItemGuid : ℕ} (hsound : Sound player nextItemGuid) {place : Place}
    {item : Item} (hgiven : item.guid < nextItemGuid)
    (honly : ∀ other found, player.items.find? other = some found → found.guid = item.guid →
      other = place) :
    Sound (player.set place item) nextItemGuid where
  once := by
    intro first second left right hleft hright hguid
    rw [find?_set] at hleft hright
    split at hleft
    case isTrue hfirst =>
      split at hright
      case isTrue hsecond => exact hfirst.symm.trans hsecond
      cases hleft
      exact hfirst.symm.trans (honly second right hright hguid.symm).symm
    case isFalse =>
      split at hright
      case isFalse => exact hsound.once first second left right hleft hright hguid
      rename_i hsecond
      cases hright
      exact (honly first left hleft hguid).trans hsecond
  given := by
    intro other found hfind
    rw [find?_set] at hfind
    split at hfind
    case isFalse => exact hsound.given other found hfind
    cases hfind
    exact hgiven

variable {guid first second : ℕ}

theorem Sound.mono {guid' : ℕ} (hsound : Sound player guid) (hle : guid ≤ guid') :
    Sound player guid' :=
  ⟨hsound.once, fun place item hfind => (hsound.given place item hfind).trans_le hle⟩

theorem Place.main_inj (heq : Place.main first = Place.main second) : first = second :=
  congrArg (fun place : Place => (ofLex place).2) heq

theorem Place.inBag_inj {guid' : ℕ} (heq : Place.inBag guid first = Place.inBag guid' second) :
    guid = guid' ∧ first = second :=
  ⟨WithBot.coe_injective (congrArg (fun place : Place => (ofLex place).1) heq),
    congrArg (fun place : Place => (ofLex place).2) heq⟩

theorem Place.main_ne_inBag : Place.main first ≠ Place.inBag guid second :=
  fun heq => WithBot.bot_ne_coe (congrArg (fun place : Place => (ofLex place).1) heq)

theorem place_cases {pos : ItemPos} {place : Place} (hplace : player.place data pos = some place) :
    pos.bag = INVENTORY_SLOT_BAG_0 ∧ place = .main pos.slot ∨
      ∃ pBag, player.GetBagByPos data pos.bag = some pBag ∧ place = .inBag pBag.guid pos.slot := by
  unfold Player.place at hplace
  split at hplace
  case isTrue hown => exact .inl ⟨hown.1, (some.inj hplace).symm⟩
  split at hplace
  case h_2 => cases hplace
  rename_i pBag hbag
  split at hplace
  · exact .inr ⟨pBag, hbag, (some.inj hplace).symm⟩
  · cases hplace

theorem place_injective {nextItemGuid : ℕ} (hsound : Sound player nextItemGuid)
    {pos other : ItemPos} {place : Place} (hpos : player.place data pos = some place)
    (hother : player.place data other = some place) : pos = other := by
  obtain ⟨bag, slot⟩ := pos
  obtain ⟨bag', slot'⟩ := other
  rcases place_cases hpos with ⟨hbag, rfl⟩ | ⟨pBag, hbag, rfl⟩
  · rcases place_cases hother with ⟨hbag', heq⟩ | ⟨pBag', -, heq⟩
    · dsimp only at hbag hbag' heq
      rw [hbag, hbag', Place.main_inj heq]
    · exact absurd heq Place.main_ne_inBag
  · rcases place_cases hother with ⟨-, heq⟩ | ⟨pBag', hbag', heq⟩
    · exact absurd heq.symm Place.main_ne_inBag
    · dsimp only at hbag hbag' heq
      obtain ⟨hguid, hslot⟩ := Place.inBag_inj heq
      have hplaces := hsound.once _ _ _ _ (GetBagByPos_spec hbag).2.1 (GetBagByPos_spec hbag').2.1
        hguid
      rw [Place.main_inj hplaces, hslot]

section

variable {place : Place} {item : Item} (hplace : ∀ bag, isBagSlot bag = true → place ≠ .main bag)
include hplace

theorem GetBagByPos_set (bag : ℕ) :
    (player.set place item).GetBagByPos data bag = player.GetBagByPos data bag := by
  unfold Player.GetBagByPos
  by_cases hslot : isBagSlot bag = true
  · rw [if_pos hslot, if_pos hslot, find?_set, if_neg (hplace bag hslot)]
  · rw [if_neg hslot, if_neg hslot]

theorem place_set (pos : ItemPos) :
    (player.set place item).place data pos = player.place data pos := by
  unfold Player.place
  rw [GetBagByPos_set hplace]

end

section

variable {pos : ItemPos} {place : Place} (hplace : player.place data pos = some place)
include hplace

theorem ne_main_of_not_isBagPos (hbag : IsBagPos pos.bag pos.slot = false)
    (bag : ℕ) (hslot : isBagSlot bag = true) : place ≠ .main bag := by
  rintro rfl
  rcases place_cases hplace with ⟨hpos, heq⟩ | ⟨pBag, -, heq⟩
  · unfold IsBagPos at hbag
    rw [hpos, ← Place.main_inj heq, hslot] at hbag
    exact absurd hbag (by decide)
  · exact Place.main_ne_inBag heq

theorem GetItemByPos_eq : player.GetItemByPos data pos = player.items.find? place := by
  unfold Player.GetItemByPos
  rw [hplace, bind_some]

end

variable {pProto : ItemTemplate} {pItem : Item} {pos : ItemPos} {place : Place} {count : ℕ}
  {nextItemGuid : ℕ}

theorem putItem_eq (hplace : player.place data pos = some place)
    (hitem : ∀ other found, player.items.find? other = some found → found.guid ≠ pItem.guid) :
    ∃ owner, player.putItem data pos pItem = player.set place { pItem with owner := owner } := by
  unfold Player.putItem
  rcases place_cases hplace with ⟨hbag, rfl⟩ | ⟨pBag, hbag, rfl⟩
  · rw [if_pos hbag]
    exact ⟨player.guid, rfl⟩
  have hguid := hitem _ pBag (GetBagByPos_spec hbag).2.1
  rw [if_neg (ne_inventory_of_bag hbag), hbag]
  exact ⟨pBag.owner, if_neg (Ne.symm hguid)⟩

theorem bindStored_fields (pos : ItemPos) (item : Item) :
    (data.bindStored pos item).guid = item.guid ∧ (data.bindStored pos item).entry = item.entry ∧
      (data.bindStored pos item).count = item.count := by
  unfold GameData.bindStored
  split <;> exact ⟨rfl, rfl, rfl⟩

theorem CloneItem_eq (hproto : data.GetItemTemplate pItem.entry = some pProto)
    (hpos : 0 < count) (hcount : count ≤ pProto.GetMaxStackSize) (guid : ℕ) :
    ∃ newItem, data.CloneItem pItem count player guid = some newItem ∧ newItem.guid = guid ∧
      newItem.entry = pItem.entry ∧ newItem.count = count := by
  have hslots := data.containerSlots _ _ hproto
  unfold GameData.CloneItem GameData.CreateItem
  rw [if_neg (by omega), hproto]
  dsimp only
  rw [if_neg fun hbag => absurd hbag.2 (not_lt.mpr hslots)]
  exact ⟨_, rfl, rfl, rfl, Nat.min_eq_left hcount⟩

theorem maxStackSize_lt (hproto : data.GetItemTemplate pItem.entry = some pProto) :
    pProto.GetMaxStackSize < 2 ^ 32 := by
  have hstackable := data.stackable _ _ hproto
  unfold ItemTemplate.GetMaxStackSize
  split
  · decide
  · omega

structure Laid (place : Place) (pItem : Item) (count : ℕ) (clone : Bool) (before after : Player)
    (guid guid' : ℕ) (item : Item) : Prop where
  after : after = before.set place item
  entry : item.entry = pItem.entry
  count : item.count = (before.items.find? place).elim 0 Item.count + count
  only : ∀ other found, before.items.find? other = some found → found.guid = item.guid →
    other = place
  given : item.guid < guid'
  le : guid ≤ guid'
  differs : clone = true → item.guid ≠ pItem.guid
  source : (∃ old, before.items.find? place = some old ∧ old.guid = item.guid) ∨
    before.items.find? place = none ∧ item.guid = if clone then guid else pItem.guid

theorem laid_empty {clone : Bool} {guid' : ℕ} {newItem : Item}
    (hplace : player.place data pos = some place) (hfind : player.items.find? place = none)
    (habsent : ∀ other found, player.items.find? other = some found → found.guid ≠ newItem.guid)
    (hentry : newItem.entry = pItem.entry) (hcount : newItem.count = count)
    (hgiven : newItem.guid < guid') (hle : nextItemGuid ≤ guid')
    (hdiffers : clone = true → newItem.guid ≠ pItem.guid)
    (hsource : newItem.guid = if clone then nextItemGuid else pItem.guid) :
    ∃ item, Laid place pItem count clone player
      (player.putItem data pos (data.bindStored pos newItem)) nextItemGuid guid' item := by
  obtain ⟨hbound, hboundEntry, hboundCount⟩ := @bindStored_fields data pos newItem
  have hguid : ∀ other found, player.items.find? other = some found →
      found.guid ≠ (data.bindStored pos newItem).guid := by
    intro other found hfound
    rw [hbound]
    exact habsent other found hfound
  obtain ⟨owner, hput⟩ := putItem_eq hplace hguid
  refine ⟨_, hput, hboundEntry.trans hentry, ?_, ?_, hbound.trans_lt hgiven, hle, ?_,
    .inr ⟨hfind, hbound.trans hsource⟩⟩
  · rw [hfind, elim_none, Nat.zero_add]
    exact hboundCount.trans hcount
  · intro other found hfound heq
    exact absurd heq (hguid other found hfound)
  · intro hclone
    exact hbound.trans_ne (hdiffers hclone)

theorem _StoreItem_cases (hsound : Sound player nextItemGuid)
    (habsent : Absent player nextItemGuid pItem)
    (hproto : data.GetItemTemplate pItem.entry = some pProto)
    (hplace : player.place data pos = some place)
    (hfits : Fits data player pProto pos count) (clone : Bool) :
    count = 0 ∧ player._StoreItem data pos pItem count clone nextItemGuid = (player, nextItemGuid) ∨
      ∃ item, Laid place pItem count clone player
        (player._StoreItem data pos pItem count clone nextItemGuid).1 nextItemGuid
        (player._StoreItem data pos pItem count clone nextItemGuid).2 item := by
  have hitem := GetItemByPos_eq hplace
  have hroom := hfits.room
  unfold Player._StoreItem
  cases hfind : player.items.find? place with
  | none =>
    rw [hitem, hfind]
    rw [hitem, hfind, elim_none, Nat.zero_add] at hroom
    rcases clone with _ | _
    · exact .inr (laid_empty hplace hfind habsent.absent rfl rfl habsent.given le_rfl nofun
        rfl)
    rcases Nat.eq_zero_or_pos count with rfl | hcount
    · exact .inl ⟨rfl, by rfl⟩
    obtain ⟨newItem, hclone, hguid, hentry, hnew⟩ :=
      @CloneItem_eq data player _ _ _ hproto hcount hroom nextItemGuid
    rw [hclone]
    refine .inr (laid_empty hplace hfind ?_ hentry hnew
      (hguid.trans_lt (lt_succ_self _)) (le_succ _) (fun _ => ?_) hguid)
    · intro other found hfound
      exact (hguid ▸ hsound.given other found hfound).ne
    · exact (hguid ▸ habsent.given).ne'
  | some old =>
    have hmerge := canBeMerged_iff.mp (hfits.mergeable old (hitem.trans hfind))
    rw [hitem, hfind]
    rw [hitem, hfind, elim_some] at hroom
    obtain ⟨hguid, hentry, -⟩ := @bindStored_fields data pos old
    have hset : ∀ item, player.setItem data pos item = player.set place item := by
      intro item
      unfold Player.setItem
      rw [hplace]
    refine .inr ⟨_, hset _, ?_, ?_, ?_, ?_, le_rfl, ?_, .inl ⟨old, hfind, hguid.symm⟩⟩
    · exact hentry.trans (hmerge.2.1.trans (data.itemId _ _ hproto))
    · rw [hfind, elim_some]
      exact uint32_of_lt (hroom.trans_lt (maxStackSize_lt hproto))
    · intro other found hfound heq
      exact hsound.once _ _ _ _ hfound hfind (heq.trans hguid)
    · exact hguid.trans_lt (hsound.given _ _ hfind)
    · exact fun _ => hguid.trans_ne (habsent.absent _ _ hfind)

/-! ## Storing into all positions -/

structure Stored (data : GameData) (entry added : ℕ) (before after : Player)
    (nextItemGuid : ℕ) : Prop where
  guid : after.guid = before.guid
  lootGuid : after.lootGuid = before.lootGuid
  sound : Sound after nextItemGuid
  total : ∀ other, after.total other = before.total other + if other = entry then added else 0
  within : ∀ place item, after.items.find? place = some item →
    before.items.find? place = some item ∨ data.WithinStack item

theorem Stored.refl (data : GameData) (entry : ℕ) (hsound : Sound player nextItemGuid) :
    Stored data entry 0 player player nextItemGuid where
  guid := rfl
  lootGuid := rfl
  sound := hsound
  total other := by split <;> rfl
  within _ _ hfind := .inl hfind

theorem Stored.trans {entry added added' guid' : ℕ} {first second third : Player}
    (hfirst : Stored data entry added first second guid)
    (hsecond : Stored data entry added' second third guid') :
    Stored data entry (added + added') first third guid' where
  guid := hsecond.guid.trans hfirst.guid
  lootGuid := hsecond.lootGuid.trans hfirst.lootGuid
  sound := hsecond.sound
  total other := by
    rw [hsecond.total, hfirst.total]
    split <;> omega
  within place item hfind := by
    rcases hsecond.within place item hfind with hbefore | hwithin
    · exact hfirst.within place item hbefore
    · exact .inr hwithin

namespace Laid

variable {clone : Bool} {after : Player} {guid' : ℕ} {item : Item}

section

variable (hlaid : Laid place pItem count clone player after nextItemGuid guid' item)
include hlaid

theorem stored (hsound : Sound player nextItemGuid)
    (hproto : data.GetItemTemplate pItem.entry = some pProto)
    (hplace : player.place data pos = some place) (hfits : Fits data player pProto pos count) :
    Stored data pItem.entry count player after guid' := by
  have hitem := GetItemByPos_eq hplace
  have hroom := hfits.room
  obtain ⟨rfl, hentry, hcount, honly, hgiven, hle, -, -⟩ := hlaid
  refine ⟨rfl, rfl, (hsound.mono hle).set hgiven honly, ?_, ?_⟩
  · intro other
    have htotal := @total_set player place item other
    have hweight : item.weight other = if other = pItem.entry then item.count else 0 := by
      rw [Item.weight, hentry]
      exact if_congr eq_comm rfl rfl
    have hold : (player.items.find? place).elim 0 (Item.weight other) =
        if other = pItem.entry then (player.items.find? place).elim 0 Item.count else 0 := by
      rcases hfind : player.items.find? place with _ | old
      · exact (ite_self 0).symm
      have hmerge := canBeMerged_iff.mp (hfits.mergeable old (hitem.trans hfind))
      rw [elim_some, elim_some, Item.weight, hmerge.2.1.trans (data.itemId _ _ hproto)]
      exact if_congr eq_comm rfl rfl
    rw [hweight, hold] at htotal
    by_cases hother : other = pItem.entry
    · rw [if_pos hother, if_pos hother] at htotal
      rw [if_pos hother]
      omega
    · rw [if_neg hother, if_neg hother] at htotal
      rw [if_neg hother]
      omega
  · intro other found hfound
    rw [find?_set] at hfound
    split at hfound
    case isFalse => exact .inl hfound
    cases hfound
    refine .inr fun proto hfoundProto => ?_
    rw [GameData.GetTemplate, hentry, hproto] at hfoundProto
    cases hfoundProto
    rw [hcount, ← hitem]
    exact hroom

theorem absent (habsent : Absent player nextItemGuid pItem) (hclone : clone = true) :
    Absent after guid' pItem := by
  obtain ⟨rfl, -, -, -, -, hle, hdiffers, -⟩ := hlaid
  refine ⟨habsent.given.trans_le hle, ?_⟩
  intro other found hfound
  rw [find?_set] at hfound
  split at hfound
  case isFalse => exact habsent.absent other found hfound
  cases hfound
  exact hdiffers hclone

theorem fits (hsound : Sound player nextItemGuid) (hplace : player.place data pos = some place)
    (hbag : IsBagPos pos.bag pos.slot = false) {other : ItemPos} (hne : other ≠ pos)
    {amount : ℕ} (hfits : Fits data player pProto other amount) :
    Fits data after pProto other amount := by
  obtain ⟨rfl, -⟩ := hlaid
  have hplaces : (player.set place item).place data other = player.place data other :=
    place_set (ne_main_of_not_isBagPos hplace hbag) other
  have hitem : (player.set place item).GetItemByPos data other =
      player.GetItemByPos data other := by
    obtain ⟨otherPlace, hother⟩ := isSome_iff_exists.mp hfits.place
    rw [GetItemByPos_eq hother, GetItemByPos_eq (hplaces.trans hother), find?_set, if_neg]
    rintro rfl
    exact hne (place_injective hsound hother hplace)
  refine ⟨?_, hfits.notBagPos, ?_, ?_⟩
  · rw [hplaces]
    exact hfits.place
  · rw [hitem]
    exact hfits.mergeable
  · rw [hitem]
    exact hfits.room

end

end Laid

/-- The induction over the positions of `StoreItem`: what an item that is laid last does, and
what one does that is laid before others. -/
theorem StoreItem_induction {motive : ℕ → Player → ℕ → Player → ℕ → Prop}
    (hproto : data.GetItemTemplate pItem.entry = some pProto)
    (nil : ∀ {player nextItemGuid}, Sound player nextItemGuid →
      motive 0 player nextItemGuid player nextItemGuid)
    (last : ∀ {player after nextItemGuid guid' pos place count item},
      Sound player nextItemGuid → player.place data pos = some place →
      Fits data player pProto pos count →
      Laid place pItem count false player after nextItemGuid guid' item →
      motive count player nextItemGuid after guid')
    (cons : ∀ {player middle after nextItemGuid guid' guid'' pos place count rest item},
      Sound player nextItemGuid → player.place data pos = some place →
      Fits data player pProto pos count →
      Laid place pItem count true player middle nextItemGuid guid' item →
      motive rest middle guid' after guid'' → motive (count + rest) player nextItemGuid after guid'')
    {dest : ItemPosCountVec} (hsound : Sound player nextItemGuid)
    (habsent : Absent player nextItemGuid pItem) (hnodup : (places dest).Nodup)
    (hfits : ∀ entry ∈ dest, Fits data player pProto entry.1 entry.2) :
    motive (amount dest) player nextItemGuid
      (player.StoreItem data pItem dest nextItemGuid).1
      (player.StoreItem data pItem dest nextItemGuid).2 := by
  induction dest generalizing player nextItemGuid with
  | nil => exact nil hsound
  | cons entry dest ih =>
    obtain ⟨pos, count⟩ := entry
    have hhere := hfits (pos, count) mem_cons_self
    obtain ⟨place, hplace⟩ := isSome_iff_exists.mp hhere.place
    have hcases := _StoreItem_cases hsound habsent hproto hplace hhere
    cases dest with
    | nil =>
      show motive count player nextItemGuid
        (player._StoreItem data pos pItem count false nextItemGuid).1
        (player._StoreItem data pos pItem count false nextItemGuid).2
      rcases hcases false with ⟨rfl, hstored⟩ | ⟨item, hlaid⟩
      · rw [hstored]
        exact nil hsound
      · exact last hsound hplace hhere hlaid
    | cons next dest =>
      have hnext := (nodup_cons.mp hnodup).2
      have hrest : ∀ entry ∈ next :: dest, Fits data player pProto entry.1 entry.2 :=
        fun entry hmem => hfits entry (mem_cons_of_mem _ hmem)
      have hamount : amount ((pos, count) :: next :: dest) = count + amount (next :: dest) :=
        rfl
      rw [hamount, Player.StoreItem]
      rcases hcases true with ⟨rfl, hstored⟩ | ⟨item, hlaid⟩
      · rw [hstored, Nat.zero_add]
        exact ih hsound habsent hnext hrest
      have hstored := hlaid.stored hsound hproto hplace hhere
      refine cons hsound hplace hhere hlaid
        (ih hstored.sound (hlaid.absent habsent rfl) hnext fun entry hmem => ?_)
      refine hlaid.fits hsound hplace hhere.notBagPos ?_ (hrest entry hmem)
      rintro rfl
      exact (nodup_cons.mp hnodup).1 (List.mem_map.mpr ⟨entry, hmem, rfl⟩)

theorem StoreItem_stored (hsound : Sound player nextItemGuid)
    (habsent : Absent player nextItemGuid pItem)
    (hproto : data.GetItemTemplate pItem.entry = some pProto) {dest : ItemPosCountVec}
    (hnodup : (places dest).Nodup)
    (hfits : ∀ entry ∈ dest, Fits data player pProto entry.1 entry.2) :
    Stored data pItem.entry (amount dest) player
      (player.StoreItem data pItem dest nextItemGuid).1
      (player.StoreItem data pItem dest nextItemGuid).2 := by
  refine StoreItem_induction hproto (Stored.refl data pItem.entry)
    (fun hsound hplace hhere hlaid => hlaid.stored hsound hproto hplace hhere)
    (fun hsound hplace hhere hlaid hrest => ?_) hsound habsent hnodup hfits
  exact (hlaid.stored hsound hproto hplace hhere).trans hrest

end AzerothCore.Storage

/-! ## `CanStoreItem` places the whole count -/

namespace AzerothCore.Storage

open List Option
open Pouring

variable {data : GameData} {player : Player} {bag slot entry count : ℕ} {pProto : ItemTemplate}

/-! ## The searches of `CanStoreItem` are for slots that are not for bags -/

theorem forall_mem_ite {p : Search → Prop} {c : Prop} [Decidable c] {yes no : List Search} :
    (∀ search ∈ if c then yes else no, p search) ↔
      (c → ∀ search ∈ yes, p search) ∧ (¬c → ∀ search ∈ no, p search) := by
  split <;> simp [*]

theorem inventorySlots_valid {first last : ℕ} (merge : Bool)
    (hrange : 23 ≤ first ∧ last ≤ 67 ∨ 86 ≤ first ∧ last ≤ 150) :
    (Search.inventorySlots first last merge).Valid bag slot := by
  intro slot hfirst hlast
  rw [ownSlot_iff]
  omega

theorem bagSearches_valid (first last : ℕ) (merge non_specialized : Bool) :
    ∀ search ∈ Player.bagSearches first last merge non_specialized, search.Valid bag slot := by
  intro search hmem
  obtain ⟨other, -, rfl⟩ := List.mem_map.mp hmem
  trivial

theorem storeSearches_valid
    (htarget : slot ≠ NULL_SLOT → bag = INVENTORY_SLOT_BAG_0 → OwnSlot slot) :
    ∀ search ∈ Player.storeSearches bag slot pProto, search.Valid bag slot := by
  have hkeys : ∀ merge, (Search.inventorySlots KEYRING_SLOT_START CURRENCYTOKEN_SLOT_END
      merge).Valid bag slot := fun merge => inventorySlots_valid merge (by decide)
  have hkeyring : ∀ merge, (Search.inventorySlots KEYRING_SLOT_START
      (KEYRING_SLOT_START + GetMaxKeyringSize) merge).Valid bag slot :=
    fun merge => inventorySlots_valid merge (by decide)
  have htokens : ∀ merge, (Search.inventorySlots CURRENCYTOKEN_SLOT_START
      CURRENCYTOKEN_SLOT_END merge).Valid bag slot :=
    fun merge => inventorySlots_valid merge (by decide)
  have hitems : ∀ merge, (Search.inventorySlots INVENTORY_SLOT_ITEM_START
      INVENTORY_SLOT_ITEM_END merge).Valid bag slot :=
    fun merge => inventorySlots_valid merge (by decide)
  have hspecific : slot ≠ NULL_SLOT → Search.specificSlot.Valid bag slot := htarget
  have hfull : Search.notEmptyBag.Valid bag slot := trivial
  have hbag : ∀ merge, (Search.specificBag merge).Valid bag slot := fun _ => trivial
  simp only [Player.storeSearches, Player.storeInBagSearches, forall_mem_append,
    forall_mem_ite, forall_mem_cons, hkeys, hkeyring, htokens, hitems, hfull, hbag,
    true_and]
  simp only [not_mem_nil, false_imp_iff, implies_true, and_self, and_true, true_and]
  have hbags := @bagSearches_valid bag slot INVENTORY_SLOT_BAG_START INVENTORY_SLOT_BAG_END
  exact ⟨⟨⟨fun hboth => hspecific hboth.2, fun _ => ⟨fun _ => hbags true false, hbags true true⟩⟩,
    fun _ => hbags false false⟩, hbags false true⟩

def StoreTarget (bag slot : ℕ) : Prop :=
  bag = NULL_BAG ∧ slot = NULL_SLOT ∨ IsInventoryPos bag slot = true

theorem ownSlot_of_target (htarget : StoreTarget bag slot) (hslot : slot ≠ NULL_SLOT)
    (hbag : bag = INVENTORY_SLOT_BAG_0) : OwnSlot slot := by
  subst hbag
  unfold StoreTarget IsInventoryPos at htarget
  simp only [Bool.or_eq_true, Bool.and_eq_true, decide_eq_true_eq, hslot, and_false, false_or,
    true_and] at htarget
  unfold INVENTORY_SLOT_ITEM_START INVENTORY_SLOT_ITEM_END INVENTORY_SLOT_BAG_START
    INVENTORY_SLOT_BAG_END INVENTORY_SLOT_BAG_0 KEYRING_SLOT_START CURRENCYTOKEN_SLOT_END
    at htarget
  rw [ownSlot_iff]
  omega

/-! ## What `CanTakeMoreSimilarItems` takes off the count -/

theorem toUint32_lt (value : ℤ) : toUint32 value < 2 ^ 32 := by
  unfold toUint32
  omega

theorem similar_cases (pItem : Option Item) :
    player.CanTakeMoreSimilarItems data entry count pItem = (.EQUIP_ERR_OK, 0) ∨
      (player.CanTakeMoreSimilarItems data entry count pItem).1 ≠ .EQUIP_ERR_OK ∧
        ((player.CanTakeMoreSimilarItems data entry count pItem).2 = count ∨
          ∃ surplus, (player.CanTakeMoreSimilarItems data entry count pItem).2 =
            toUint32 surplus) := by
  unfold Player.CanTakeMoreSimilarItems
  rcases data.GetItemTemplate entry with _ | pProto
  · exact .inr ⟨nofun, .inl rfl⟩
  dsimp only
  split
  · exact .inl rfl
  split
  · exact .inr ⟨nofun, .inr ⟨_, rfl⟩⟩
  split
  · exact .inl rfl
  split
  · exact .inr ⟨nofun, .inl rfl⟩
  split
  · exact .inr ⟨nofun, .inr ⟨_, rfl⟩⟩
  · exact .inl rfl

theorem similar_lt (hcount : count < 2 ^ 32) (pItem : Option Item) :
    (player.CanTakeMoreSimilarItems data entry count pItem).2 < 2 ^ 32 := by
  rcases @similar_cases data player entry count pItem with heq | ⟨-, heq | ⟨surplus, heq⟩⟩
  · rw [heq]
    exact Nat.two_pow_pos 32
  · rwa [heq]
  · rw [heq]
    exact toUint32_lt surplus

def Player.freeRoom (data : GameData) (player : Player) (bag slot entry : ℕ) : ℕ :=
  match data.GetItemTemplate entry with
  | none => 0
  | some pProto =>
    capacity (player.offeredSlots data ⟨bag, slot, pProto, none, false⟩
      (Player.storeSearches bag slot pProto)) []

/-- The positions are different and hold the count, or the count less what has
no space; each of them has room; and storing a new item of the entry in them
adds just what they hold, with no stack too large. -/
structure PlacesExactly (data : GameData) (player : Player) (entry count : ℕ)
    (check : StoreCheck) : Prop where
  distinct : (places check.dest).Nodup
  ok : check.result = .EQUIP_ERR_OK → amount check.dest = count
  failed : check.result ≠ .EQUIP_ERR_OK → ∀ rest, check.no_space_count = some rest →
    amount check.dest + rest = count
  fits : ∀ pos placed, (pos, placed) ∈ check.dest →
    ∃ pProto, data.GetItemTemplate entry = some pProto ∧ Fits data player pProto pos placed
  stored : ∀ pItem nextItemGuid, pItem.entry = entry → Sound player nextItemGuid →
    Absent player nextItemGuid pItem →
    Stored data entry (amount check.dest) player
      (player.StoreItem data pItem check.dest nextItemGuid).1
      (player.StoreItem data pItem check.dest nextItemGuid).2

variable {after : Poured ItemPos} {check : StoreCheck}

theorem places_of_pours {quantity : ℕ} (hproto : data.GetItemTemplate entry = some pProto)
    (hpours : Pours (Fits data player pProto) ⟨[], quantity⟩ after)
    (hdest : check.dest = after.taken)
    (hok : check.result = .EQUIP_ERR_OK → amount check.dest = count)
    (hfailed : check.result ≠ .EQUIP_ERR_OK → ∀ rest, check.no_space_count = some rest →
      amount check.dest + rest = count) : PlacesExactly data player entry count check := by
  have hnodup : (places check.dest).Nodup := hdest ▸ hpours.nodup nodup_nil
  have hfits : ∀ found ∈ check.dest, Fits data player pProto found.1 found.2 := by
    intro found hmem
    exact (hpours.fits found (hdest ▸ hmem)).resolve_left (not_mem_nil)
  refine ⟨hnodup, hok, hfailed, fun pos placed hmem => ⟨pProto, hproto, hfits _ hmem⟩, ?_⟩
  rintro pItem nextItemGuid rfl hsound habsent
  exact StoreItem_stored hsound habsent hproto hnodup hfits

theorem placesExactly_nil (hdest : check.dest = []) (hne : check.result ≠ .EQUIP_ERR_OK)
    (hrest : check.no_space_count = some count) : PlacesExactly data player entry count check := by
  refine ⟨?_, fun hok => absurd hok hne, ?_, ?_, ?_⟩
  · rw [hdest]
    exact nodup_nil
  · intro _ rest hcount
    rw [hrest, Option.some.injEq] at hcount
    rw [hdest, ← hcount]
    exact Nat.zero_add count
  · intro pos placed hmem
    rw [hdest] at hmem
    cases hmem
  · rintro pItem nextItemGuid rfl hsound -
    rw [hdest]
    exact Stored.refl data pItem.entry hsound

theorem places_of_le {similar : ℕ} {full : Prop} (hcount : count < 2 ^ 32)
    (hproto : data.GetItemTemplate entry = some pProto) (hle : similar ≤ count)
    (hpours : Pours (Fits data player pProto) ⟨[], toUint32 ((count : ℤ) - similar)⟩ after)
    (hended : Ended full similar after check) : PlacesExactly data player entry count check := by
  have hleft : toUint32 ((count : ℤ) - similar) = count - similar := by
    unfold toUint32
    omega
  have htotal := hpours.amount_add_left
  rw [hleft, ← hended.dest] at htotal
  refine places_of_pours hproto hpours hended.dest ?_ ?_
  · intro hok
    have hzero := hended.ok hok
    omega
  · intro _ rest hrest
    have hvalue := hended.failed rest hrest
    rw [uint32_of_lt (by omega)] at hvalue
    omega

theorem places_of_lt {request : StoreRequest} {searches : List Search} {full : InventoryResult}
    {similar : ℕ} (hcount : count < 2 ^ 32)
    (hproto : data.GetItemTemplate entry = some request.pProto) (hlt : count < similar)
    (hsimilar : similar < 2 ^ 32) (hitem : request.pItem = none) (hswap : request.swap = false)
    (hfull : full ≠ .EQUIP_ERR_OK)
    (hvalid : ∀ search ∈ searches, search.Valid request.bag request.slot) :
    PlacesExactly data player entry count
        (player.runSearches data request full similar searches
          ⟨[], toUint32 ((count : ℤ) - similar)⟩) ↔
      capacity (player.offeredSlots data request searches) [] ≤ count := by
  have hforeign : Foreign player request.pItem := by
    intro moved hmoved
    rw [hitem] at hmoved
    cases hmoved
  have hnone : ¬player.movesFullBag data request = true := by
    unfold Player.movesFullBag
    rw [hitem]
    exact Bool.false_ne_true
  obtain ⟨after, hpours, hended⟩ := runSearches_ended hfull hforeign hswap hvalid similar
    ⟨[], toUint32 ((count : ℤ) - similar)⟩
  have hleft : toUint32 ((count : ℤ) - similar) = 2 ^ 32 + count - similar := by
    unfold toUint32
    omega
  have hne_zero : toUint32 ((count : ℤ) - similar) ≠ 0 := by omega
  have hdest := @dest_runSearches data player request full similar searches
    ⟨[], toUint32 ((count : ℤ) - similar)⟩ hne_zero
  have hamount : amount (player.runSearches data request full similar searches
      ⟨[], toUint32 ((count : ℤ) - similar)⟩).dest =
      min (2 ^ 32 + count - similar)
        (capacity (player.offeredSlots data request searches) []) := by
    rw [hdest, amount_pour, hleft]
    exact Nat.zero_add _
  have htotal := hpours.amount_add_left
  rw [hleft, ← hended.dest] at htotal
  have hne : (player.runSearches data request full similar searches
      ⟨[], toUint32 ((count : ℤ) - similar)⟩).result ≠ .EQUIP_ERR_OK := by
    intro hok
    have hzero := (hended.ok hok).2
    omega
  constructor
  · intro hplaces
    obtain ⟨rest, hrest⟩ := isSome_iff_exists.mp (hended.reported hne hnone)
    have hsum := hplaces.failed hne rest hrest
    omega
  · intro hroom
    refine places_of_pours hproto hpours hended.dest (fun hok => absurd hok hne) ?_
    intro _ rest hrest
    have hvalue := hended.failed rest hrest
    unfold uint32 at hvalue
    omega

/-- `CanStoreItem`, asked for a new item and without a swap, places exactly the
count if and only if the player can still carry some of the count, or there is no
more room than the count. -/
theorem CanStoreItem_places_exactly (hcount : count < 2 ^ 32) (htarget : StoreTarget bag slot) :
    PlacesExactly data player entry count
        (player.CanStoreItem data bag slot [] entry count none false) ↔
      (player.CanTakeMoreSimilarItems data entry count none).2 ≤ count ∨
        player.freeRoom data bag slot entry ≤ count := by
  unfold Player.CanStoreItem Player.freeRoom
  rcases hproto : data.GetItemTemplate entry with _ | pProto
  · have hsimilar : (player.CanTakeMoreSimilarItems data entry count none).2 = count := by
      unfold Player.CanTakeMoreSimilarItems
      rw [hproto]
    exact iff_of_true (placesExactly_nil rfl (by rintro ⟨⟩) rfl) (.inl hsimilar.le)
  dsimp only [bind_none]
  have hvalid := @storeSearches_valid bag slot pProto (ownSlot_of_target htarget)
  split
  case isTrue hlimit =>
    refine iff_of_true (placesExactly_nil rfl hlimit.1 ?_) (.inl hlimit.2.ge)
    rw [← hlimit.2]
  by_cases hle : (player.CanTakeMoreSimilarItems data entry count none).2 ≤ count
  · obtain ⟨after, hpours, hended⟩ := @runSearches_ended data player
      ⟨bag, slot, pProto, none, false⟩ _ .EQUIP_ERR_INVENTORY_FULL (by rintro ⟨⟩)
      (by rintro _ ⟨⟩) rfl hvalid (player.CanTakeMoreSimilarItems data entry count none).2 _
    exact iff_of_true (places_of_le hcount hproto hle hpours hended) (.inl hle)
  · have hplaces := @places_of_lt data player entry count
      ⟨bag, slot, pProto, none, false⟩ _ .EQUIP_ERR_INVENTORY_FULL _ hcount hproto
      (not_le.mp hle) (similar_lt hcount none) rfl rfl (by rintro ⟨⟩) hvalid
    rw [hplaces]
    exact ⟨.inr, fun heither => heither.resolve_left hle⟩

/-! ## A player over the limit -/

def limitedProto : ItemTemplate where
  ItemId := 1
  Class := 0
  SubClass := 0
  Flags := 0
  InventoryType := 0
  MaxCount := 1
  Stackable := 20
  ContainerSlots := 0
  Bonding := 0
  BagFamily := 0
  GemProperties := 0
  SocketColor := 0
  ItemLimitCategory := 0

def limitedData : GameData where
  GetItemTemplate entry := if entry = 1 then some limitedProto else none
  LookupLimitCategory _ := none
  itemId entry proto hproto := by
    split at hproto
    case isFalse => cases hproto
    rename_i hentry
    cases hproto
    exact hentry.symm
  containerSlots entry proto hproto := by
    split at hproto
    case isFalse => cases hproto
    cases hproto
    decide
  stackable entry proto hproto := by
    split at hproto
    case isFalse => cases hproto
    cases hproto
    decide

def limitedItem : Item where
  guid := 1
  entry := 1
  count := 2
  owner := 100
  soulBound := false
  bopTradeable := false
  allowedGUIDs := []
  gems := []
  m_lootGenerated := false

def barePlayer : Player := ⟨100, 0, StdMap.empty⟩

/-- A player who carries two of the items: one more is asked for, and the backpack is
filled with 318 of them. -/
theorem CanStoreItem_places_more :
    ∃ (data : GameData) (player : Player), Sound player 2 ∧ StoreTarget NULL_BAG NULL_SLOT ∧
      player.total 1 = 2 ∧
      (player.CanStoreItem data NULL_BAG NULL_SLOT [] 1 1 none false).result =
        .EQUIP_ERR_INVENTORY_FULL ∧
      amount (player.CanStoreItem data NULL_BAG NULL_SLOT [] 1 1 none false).dest = 318 ∧
      ¬PlacesExactly data player 1 1
        (player.CanStoreItem data NULL_BAG NULL_SLOT [] 1 1 none false) := by
  have hbare : Sound barePlayer 2 := ⟨nofun, nofun⟩
  have hsound : Sound (barePlayer.set (.main 23) limitedItem) 2 := hbare.set (by decide) nofun
  have hresult : ((barePlayer.set (.main 23) limitedItem).CanStoreItem limitedData NULL_BAG
      NULL_SLOT [] 1 1 none false).result = .EQUIP_ERR_INVENTORY_FULL := by decide +kernel
  have hrest : ((barePlayer.set (.main 23) limitedItem).CanStoreItem limitedData NULL_BAG
      NULL_SLOT [] 1 1 none false).no_space_count = some (2 ^ 32 - 317) := by decide +kernel
  have hamount : amount ((barePlayer.set (.main 23) limitedItem).CanStoreItem limitedData
      NULL_BAG NULL_SLOT [] 1 1 none false).dest = 318 := by decide +kernel
  refine ⟨limitedData, barePlayer.set (.main 23) limitedItem, hsound, .inl ⟨rfl, rfl⟩,
    by decide +kernel, hresult, hamount, fun hplaces => ?_⟩
  have hsum := hplaces.failed (hresult.trans_ne nofun) _ hrest
  omega

/-- A player without such items can carry one of three. -/
theorem CanStoreItem_places_one :
    barePlayer.CanStoreItem limitedData NULL_BAG NULL_SLOT [] 1 3 none false =
        ⟨.EQUIP_ERR_CANT_CARRY_MORE_OF_THIS, [(⟨INVENTORY_SLOT_BAG_0, 23⟩, 1)], some 2⟩ ∧
      PlacesExactly limitedData barePlayer 1 3
        (barePlayer.CanStoreItem limitedData NULL_BAG NULL_SLOT [] 1 3 none false) :=
  ⟨by decide +kernel, (CanStoreItem_places_exactly (by decide) (.inl ⟨rfl, rfl⟩)).mpr
    (.inl (by decide +kernel))⟩

end AzerothCore.Storage
