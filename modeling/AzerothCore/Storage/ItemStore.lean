import AzerothCore.Storage.SearchedSlots

/-!
# Stores of items

A store holds items in locations: the slots of a player, of several players, or of
a player and a bank. Items that were taken out and are not stored again yet are
loose. An operation changes one location at a time; this is what becomes of the item
objects, the stacks and the totals.
-/

namespace AzerothCore.Storage
open List Option

variable {World Location : Type*}

def GameData.StackHolds (data : GameData) (item : Item) : Prop :=
  ∃ proto, data.GetTemplate item = some proto ∧ item.count ≤ proto.GetMaxStackSize

theorem StackHolds_of_le {data : GameData} {item other : Item} (hstack : data.StackHolds item)
    (hentry : other.entry = item.entry) (hcount : other.count ≤ item.count) :
    data.StackHolds other := by
  obtain ⟨proto, hproto, hle⟩ := hstack
  refine ⟨proto, ?_, hcount.trans hle⟩
  rw [GameData.GetTemplate, hentry]
  exact hproto

structure ItemStore (World Location : Type*) where
  itemAt : World → Location → Option Item
  total : World → ℕ → ℕ
  nextItemGuid : World → ℕ

namespace ItemStore

variable {store : ItemStore World Location} {data : GameData} {before middle after : World}
  {location : Location} {loose : List Item} {item pItem : Item}

structure Holds (store : ItemStore World Location) (data : GameData) (world : World)
    (loose : List Item) : Prop where
  once : ∀ location other item found, store.itemAt world location = some item →
    store.itemAt world other = some found → item.guid = found.guid → location = other
  given : ∀ location item, store.itemAt world location = some item →
    item.guid < store.nextItemGuid world
  within : ∀ location item, store.itemAt world location = some item → data.StackHolds item
  away : ∀ pItem ∈ loose, ∀ location item, store.itemAt world location = some item →
    item.guid ≠ pItem.guid
  looseOnce : (loose.map Item.guid).Nodup
  looseGiven : ∀ pItem ∈ loose, pItem.guid < store.nextItemGuid world
  looseWithin : ∀ pItem ∈ loose, data.StackHolds pItem

open Classical in
structure Updated (store : ItemStore World Location) (before : World) (location : Location)
    (new : Option Item) (after : World) : Prop where
  itemAt : ∀ other, store.itemAt after other =
    if other = location then new else store.itemAt before other
  total : ∀ entry, store.total after entry +
      (store.itemAt before location).elim 0 (Item.weight entry) =
    store.total before entry + new.elim 0 (Item.weight entry)
  next : store.nextItemGuid before ≤ store.nextItemGuid after

def Grows (store : ItemStore World Location) (before after : World) : Prop :=
  ∀ location item, store.itemAt before location = some item →
    ∃ found, store.itemAt after location = some found ∧ found.guid = item.guid ∧
      found.entry = item.entry ∧ item.count ≤ found.count

theorem Grows.refl (world : World) : store.Grows world world :=
  fun _ item hitem => ⟨item, hitem, rfl, rfl, le_rfl⟩

theorem Grows.trans (hfirst : store.Grows before middle) (hsecond : store.Grows middle after) :
    store.Grows before after := by
  intro location item hitem
  obtain ⟨found, hfound, hguid, hentry, hcount⟩ := hfirst location item hitem
  obtain ⟨last, hlast, hguid', hentry', hcount'⟩ := hsecond location found hfound
  exact ⟨last, hlast, hguid'.trans hguid, hentry'.trans hentry, hcount.trans hcount'⟩

namespace Updated

section

variable {new : Option Item} (hupdated : store.Updated before location new after)
include hupdated

theorem at_location : store.itemAt after location = new :=
  (hupdated.itemAt location).trans (if_pos rfl)

theorem elsewhere {other : Location} (hne : other ≠ location) :
    store.itemAt after other = store.itemAt before other :=
  (hupdated.itemAt other).trans (if_neg hne)

theorem cases {other : Location} {found : Item} (hfound : store.itemAt after other = some found) :
    other = location ∧ new = some found ∨
      other ≠ location ∧ store.itemAt before other = some found := by
  by_cases heq : other = location
  · subst heq
    exact .inl ⟨rfl, hupdated.at_location.symm.trans hfound⟩
  · exact .inr ⟨heq, (hupdated.elsewhere heq).symm.trans hfound⟩

end

theorem grows_of_none {new : Item} (hupdated : store.Updated before location (some new) after)
    (hnone : store.itemAt before location = none) : store.Grows before after := by
  intro other found hfound
  have hne : other ≠ location := by
    rintro rfl
    exact nomatch hnone.symm.trans hfound
  exact ⟨found, (hupdated.elsewhere hne).trans hfound, rfl, rfl, le_rfl⟩

theorem grows_of_some {old new : Item}
    (hupdated : store.Updated before location (some new) after)
    (hold : store.itemAt before location = some old) (hguid : new.guid = old.guid)
    (hentry : new.entry = old.entry) (hcount : old.count ≤ new.count) :
    store.Grows before after := by
  intro other found hfound
  by_cases heq : other = location
  · subst heq
    rw [hold, Option.some.injEq] at hfound
    exact ⟨new, hupdated.at_location, hfound ▸ hguid, hfound ▸ hentry, hfound ▸ hcount⟩
  · exact ⟨found, (hupdated.elsewhere heq).trans hfound, rfl, rfl, le_rfl⟩

end Updated

namespace Holds

theorem mono {loose' : List Item} (hholds : store.Holds data before loose)
    (hsub : loose'.Sublist loose) : store.Holds data before loose' where
  once := hholds.once
  given := hholds.given
  within := hholds.within
  away pItem hmem := hholds.away pItem (hsub.subset hmem)
  looseOnce := hholds.looseOnce.sublist (hsub.map _)
  looseGiven pItem hmem := hholds.looseGiven pItem (hsub.subset hmem)
  looseWithin pItem hmem := hholds.looseWithin pItem (hsub.subset hmem)

theorem swap_loose {first second : Item}
    (hholds : store.Holds data before (first :: second :: loose)) :
    store.Holds data before (second :: first :: loose) where
  once := hholds.once
  given := hholds.given
  within := hholds.within
  away pItem hmem := hholds.away pItem ((List.Perm.swap ..).subset hmem)
  looseOnce := ((List.Perm.swap ..).map Item.guid).nodup_iff.mp hholds.looseOnce
  looseGiven pItem hmem := hholds.looseGiven pItem ((List.Perm.swap ..).subset hmem)
  looseWithin pItem hmem := hholds.looseWithin pItem ((List.Perm.swap ..).subset hmem)

theorem removed (hholds : store.Holds data before loose)
    (hitem : store.itemAt before location = some item)
    (hupdated : store.Updated before location none after) :
    store.Holds data after (item :: loose) where
  once first second left right hleft hright hguid := by
    obtain ⟨-, hleft⟩ := (hupdated.cases hleft).resolve_left fun hnone => nomatch hnone.2
    obtain ⟨-, hright⟩ := (hupdated.cases hright).resolve_left fun hnone => nomatch hnone.2
    exact hholds.once first second left right hleft hright hguid
  given other found hfound := by
    obtain ⟨-, hfound⟩ := (hupdated.cases hfound).resolve_left fun hnone => nomatch hnone.2
    exact (hholds.given other found hfound).trans_le hupdated.next
  within other found hfound := by
    obtain ⟨-, hfound⟩ := (hupdated.cases hfound).resolve_left fun hnone => nomatch hnone.2
    exact hholds.within other found hfound
  away pItem hmem other found hfound := by
    obtain ⟨hne, hfound⟩ := (hupdated.cases hfound).resolve_left fun hnone => nomatch hnone.2
    rcases mem_cons.mp hmem with rfl | hmem
    · intro hguid
      exact hne (hholds.once other location found pItem hfound hitem hguid)
    · exact hholds.away pItem hmem other found hfound
  looseOnce := by
    rw [map_cons, nodup_cons]
    refine ⟨fun hmem => ?_, hholds.looseOnce⟩
    obtain ⟨pItem, hpItem, hguid⟩ := List.mem_map.mp hmem
    exact hholds.away pItem hpItem location item hitem hguid.symm
  looseGiven pItem hmem := by
    refine Nat.lt_of_lt_of_le ?_ hupdated.next
    rcases mem_cons.mp hmem with rfl | hmem
    · exact hholds.given location pItem hitem
    · exact hholds.looseGiven pItem hmem
  looseWithin pItem hmem := by
    rcases mem_cons.mp hmem with rfl | hmem
    · exact hholds.within location pItem hitem
    · exact hholds.looseWithin pItem hmem

theorem changed {old new : Item} (hholds : store.Holds data before loose)
    (hold : store.itemAt before location = some old)
    (hupdated : store.Updated before location (some new) after)
    (hguid : new.guid = old.guid) (hstack : data.StackHolds new) :
    store.Holds data after loose where
  once first second left right hleft hright hsame := by
    rcases hupdated.cases hleft with ⟨rfl, hnew⟩ | ⟨-, hfirst⟩
    · cases hnew
      rcases hupdated.cases hright with ⟨rfl, -⟩ | ⟨-, hsecond⟩
      · rfl
      · exact hholds.once first second old right hold hsecond (hguid.symm.trans hsame)
    · rcases hupdated.cases hright with ⟨rfl, hnew⟩ | ⟨-, hsecond⟩
      · cases hnew
        exact hholds.once first second left old hfirst hold (hsame.trans hguid)
      · exact hholds.once first second left right hfirst hsecond hsame
  given other found hfound := by
    refine Nat.lt_of_lt_of_le ?_ hupdated.next
    rcases hupdated.cases hfound with ⟨-, hnew⟩ | ⟨-, hfound⟩
    · cases hnew
      exact hguid.trans_lt (hholds.given location old hold)
    · exact hholds.given other found hfound
  within other found hfound := by
    rcases hupdated.cases hfound with ⟨-, hnew⟩ | ⟨-, hfound⟩
    · exact some.inj hnew ▸ hstack
    · exact hholds.within other found hfound
  away pItem hmem other found hfound := by
    rcases hupdated.cases hfound with ⟨-, hnew⟩ | ⟨-, hfound⟩
    · cases hnew
      exact hguid.trans_ne (hholds.away pItem hmem location old hold)
    · exact hholds.away pItem hmem other found hfound
  looseOnce := hholds.looseOnce
  looseGiven pItem hmem := (hholds.looseGiven pItem hmem).trans_le hupdated.next
  looseWithin := hholds.looseWithin

theorem placed {new : Item} (hholds : store.Holds data before loose)
    (hnone : store.itemAt before location = none)
    (hupdated : store.Updated before location (some new) after)
    (haway : ∀ other found, store.itemAt before other = some found → found.guid ≠ new.guid)
    (hloose : ∀ pItem ∈ loose, new.guid ≠ pItem.guid)
    (hgiven : new.guid < store.nextItemGuid after) (hstack : data.StackHolds new) :
    store.Holds data after loose where
  once first second left right hleft hright hsame := by
    rcases hupdated.cases hleft with ⟨rfl, hnew⟩ | ⟨-, hfirst⟩
    · cases hnew
      rcases hupdated.cases hright with ⟨rfl, -⟩ | ⟨-, hsecond⟩
      · rfl
      · exact absurd hsame.symm (haway second right hsecond)
    · rcases hupdated.cases hright with ⟨rfl, hnew⟩ | ⟨-, hsecond⟩
      · cases hnew
        exact absurd hsame (haway first left hfirst)
      · exact hholds.once first second left right hfirst hsecond hsame
  given other found hfound := by
    rcases hupdated.cases hfound with ⟨-, hnew⟩ | ⟨-, hfound⟩
    · exact some.inj hnew ▸ hgiven
    · exact (hholds.given other found hfound).trans_le hupdated.next
  within other found hfound := by
    rcases hupdated.cases hfound with ⟨-, hnew⟩ | ⟨-, hfound⟩
    · exact some.inj hnew ▸ hstack
    · exact hholds.within other found hfound
  away pItem hmem other found hfound := by
    rcases hupdated.cases hfound with ⟨-, hnew⟩ | ⟨-, hfound⟩
    · exact some.inj hnew ▸ hloose pItem hmem
    · exact hholds.away pItem hmem other found hfound
  looseOnce := hholds.looseOnce
  looseGiven pItem hmem := (hholds.looseGiven pItem hmem).trans_le hupdated.next
  looseWithin := hholds.looseWithin

theorem created (hholds : store.Holds data before loose)
    (hitemAt : ∀ location, store.itemAt after location = store.itemAt before location)
    (hguid : item.guid = store.nextItemGuid before)
    (hnext : store.nextItemGuid before < store.nextItemGuid after)
    (hstack : data.StackHolds item) : store.Holds data after (item :: loose) where
  once first second left right hleft hright := by
    rw [hitemAt] at hleft hright
    exact hholds.once first second left right hleft hright
  given other found hfound := by
    rw [hitemAt] at hfound
    exact (hholds.given other found hfound).trans hnext
  within other found hfound := by
    rw [hitemAt] at hfound
    exact hholds.within other found hfound
  away pItem hmem other found hfound := by
    rw [hitemAt] at hfound
    rcases mem_cons.mp hmem with rfl | hmem
    · exact (hguid ▸ hholds.given other found hfound).ne
    · exact hholds.away pItem hmem other found hfound
  looseOnce := by
    rw [map_cons, nodup_cons]
    refine ⟨fun hmem => ?_, hholds.looseOnce⟩
    obtain ⟨pItem, hpItem, heq⟩ := List.mem_map.mp hmem
    exact (hholds.looseGiven pItem hpItem).ne (heq.trans hguid)
  looseGiven pItem hmem := by
    rcases mem_cons.mp hmem with rfl | hmem
    · exact hguid.trans_lt hnext
    · exact (hholds.looseGiven pItem hmem).trans hnext
  looseWithin pItem hmem := by
    rcases mem_cons.mp hmem with rfl | hmem
    · exact hstack
    · exact hholds.looseWithin pItem hmem

end Holds

/-! ## Storing a loose item -/

/-- A part of an item goes to a location: to the stack that is there, as a clone into an
empty one, or into it as the item object itself. -/
inductive Adds (store : ItemStore World Location) (data : GameData) (pItem : Item) (count : ℕ)
    (clone : Bool) (before after : World) : Prop
  | merged {location : Location} {old new : Item} : store.itemAt before location = some old →
      store.Updated before location (some new) after →
      new.guid = old.guid → new.entry = old.entry → old.entry = pItem.entry →
      new.count = old.count + count → data.StackHolds new →
      Adds store data pItem count clone before after
  | placed {location : Location} {new : Item} : store.itemAt before location = none →
      store.Updated before location (some new) after →
      new.entry = pItem.entry → new.count = count → data.StackHolds new →
      new.guid < store.nextItemGuid after →
      new.guid = (if clone then store.nextItemGuid before else pItem.guid) →
      Adds store data pItem count clone before after

/-- The parts of an item are stored, all but the last as clones. -/
inductive Receives (store : ItemStore World Location) (data : GameData) (pItem : Item) :
    ℕ → World → World → Prop
  | nil (world : World) : Receives store data pItem 0 world world
  | last {count : ℕ} {before after : World} : store.Adds data pItem count false before after →
      Receives store data pItem count before after
  | cons {count rest : ℕ} {before middle after : World} :
      store.Adds data pItem count true before middle →
      Receives store data pItem rest middle after →
      Receives store data pItem (count + rest) before after
  | touched {count : ℕ} {before middle after : World} {location : Location} {old new : Item} :
      Receives store data pItem count before middle →
      store.itemAt middle location = some old →
      store.Updated middle location (some new) after →
      new.guid = old.guid → new.entry = old.entry → new.count = old.count →
      Receives store data pItem count before after

theorem weight_of_entry {entry : ℕ} {first second : Item} (hentry : first.entry = second.entry) :
    first.weight entry = if entry = second.entry then first.count else 0 := by
  rw [Item.weight, hentry]
  exact if_congr eq_comm rfl rfl

namespace Adds

variable {count : ℕ} {clone : Bool}

section

variable (hadds : store.Adds data pItem count clone before after)
include hadds

theorem holds (hholds : store.Holds data before (pItem :: loose)) :
    store.Holds data after (if clone then pItem :: loose else loose) := by
  have hloose : store.Holds data before (if clone then pItem :: loose else loose) := by
    split
    · exact hholds
    · exact hholds.mono (sublist_cons_self ..)
  cases hadds with
  | merged hold hupdated hguid _ _ _ hstack =>
    exact hloose.changed hold hupdated hguid hstack
  | @placed location new hnone hupdated _ _ hstack hgiven hguid =>
    refine hloose.placed hnone hupdated ?_ ?_ hgiven hstack
    · intro other found hfound
      rw [hguid]
      cases clone with
      | true => exact (hholds.given other found hfound).ne
      | false => exact hholds.away pItem mem_cons_self other found hfound
    · intro other hmem
      rw [hguid]
      cases clone with
      | true => exact (hholds.looseGiven other hmem).ne'
      | false =>
        have hnodup := hholds.looseOnce
        rw [map_cons, nodup_cons] at hnodup
        exact fun heq => hnodup.1 (List.mem_map.mpr ⟨other, hmem, heq.symm⟩)

theorem total (entry : ℕ) : store.total after entry =
      store.total before entry + if entry = pItem.entry then count else 0 := by
  cases hadds with
  | merged hold hupdated _ hentry hsame hcount _ =>
    have htotal := hupdated.total entry
    rw [hold, elim_some, elim_some, weight_of_entry hsame,
      weight_of_entry (hentry.trans hsame), hcount] at htotal
    by_cases heq : entry = pItem.entry
    · rw [if_pos heq, if_pos heq] at htotal
      rw [if_pos heq]
      omega
    · rw [if_neg heq, if_neg heq] at htotal
      rw [if_neg heq]
      exact htotal
  | placed hnone hupdated hentry hcount _ _ _ =>
    have htotal := hupdated.total entry
    rw [hnone, elim_none, elim_some, weight_of_entry hentry, hcount] at htotal
    exact htotal

theorem grows : store.Grows before after := by
  cases hadds with
  | merged hold hupdated hguid hentry _ hcount _ =>
    exact hupdated.grows_of_some hold hguid hentry (hcount ▸ Nat.le_add_right _ _)
  | placed hnone hupdated _ _ _ _ _ => exact hupdated.grows_of_none hnone

end

end Adds

namespace Receives

variable {count : ℕ}

theorem holds (hreceives : store.Receives data pItem count before after)
    (hholds : store.Holds data before (pItem :: loose)) : store.Holds data after loose := by
  induction hreceives with
  | nil => exact hholds.mono (sublist_cons_self ..)
  | last hadds => exact hadds.holds hholds
  | cons hadds _ ih => exact ih (hadds.holds hholds)
  | touched _ hold hupdated hguid hentry hcount ih =>
    have hmiddle := ih hholds
    exact hmiddle.changed hold hupdated hguid
      (StackHolds_of_le (hmiddle.within _ _ hold) hentry hcount.le)

theorem total (hreceives : store.Receives data pItem count before after) (entry : ℕ) :
    store.total after entry =
      store.total before entry + if entry = pItem.entry then count else 0 := by
  induction hreceives with
  | nil => exact (ite_self 0).symm ▸ rfl
  | last hadds => exact hadds.total entry
  | cons hadds _ ih =>
    rw [ih, hadds.total]
    split
    · omega
    · rfl
  | touched _ hold hupdated _ hentry hcount ih =>
    have htotal := hupdated.total entry
    rw [hold, elim_some, elim_some, weight_of_entry hentry, hcount, weight_of_entry rfl] at htotal
    omega

theorem total_whole (hreceives : store.Receives data pItem pItem.count before after)
    (entry : ℕ) : store.total after entry = store.total before entry + pItem.weight entry := by
  rw [hreceives.total, weight_of_entry rfl]

theorem grows (hreceives : store.Receives data pItem count before after) :
    store.Grows before after := by
  induction hreceives with
  | nil world => exact Grows.refl world
  | last hadds => exact hadds.grows
  | cons hadds _ ih => exact hadds.grows.trans ih
  | touched _ hold hupdated hguid hentry hcount ih =>
    exact ih.trans (hupdated.grows_of_some hold hguid hentry hcount.ge)

end Receives

end ItemStore

end AzerothCore.Storage

/-! ## The slots of a player in a store -/

namespace AzerothCore.Storage

open List Option Nat
open Pouring

variable {World Location : Type*} {store : ItemStore World Location} {data : GameData}
  {player after : Player} {pItem item : Item} {pos : ItemPos} {place : Place} {loose : List Item}
  {nextItemGuid nextItemGuid' : ℕ}

/-! ## Taking an item out -/

def Player.without (player : Player) (place : Place) : Player :=
  { player with items := player.items.erase place }

theorem find?_without (place other : Place) : (player.without place).items.find? other =
      if place = other then none else player.items.find? other :=
  player.items.find?_erase place other

theorem total_without (hitem : player.items.find? place = some item) (entry : ℕ) :
    (player.without place).total entry + item.weight entry = player.total entry := by
  have htotal := StdMap.sumValues_erase (Item.weight entry) hitem
  rw [add_comm]
  exact htotal

theorem place_without (hplace : ∀ bag, isBagSlot bag = true → place ≠ .main bag)
    (pos : ItemPos) : (player.without place).place data pos = player.place data pos := by
  have hbag : (player.without place).GetBagByPos data pos.bag =
      player.GetBagByPos data pos.bag := by
    unfold Player.GetBagByPos
    by_cases hslot : isBagSlot pos.bag = true
    · rw [if_pos hslot, if_pos hslot, find?_without, if_neg (hplace pos.bag hslot)]
    · rw [if_neg hslot, if_neg hslot]
  unfold Player.place
  rw [hbag]

theorem place_without_item (hitem : player.items.find? place = some item)
    (hbag : ∀ bag, isBagSlot bag = true → place = .main bag → data.IsBag item = false)
    (pos : ItemPos) : (player.without place).place data pos = player.place data pos := by
  have hsame : (player.without place).GetBagByPos data pos.bag =
      player.GetBagByPos data pos.bag := by
    unfold Player.GetBagByPos
    by_cases hslot : isBagSlot pos.bag = true
    · rw [if_pos hslot, if_pos hslot, find?_without]
      by_cases heq : place = .main pos.bag
      · rw [if_pos heq, ← heq, hitem, filter_none, filter_some_neg (by rw [hbag pos.bag hslot heq])]
      · rw [if_neg heq]
    · rw [if_neg hslot, if_neg hslot]
  unfold Player.place
  rw [hsame]

theorem find?_of_GetItemByPos (hitem : player.GetItemByPos data pos = some item) :
    ∃ place, player.place data pos = some place ∧ player.items.find? place = some item :=
  bind_eq_some_iff.mp hitem

theorem MoveItemFromInventory_eq (hitem : player.GetItemByPos data pos = some item)
    (hplace : player.place data pos = some place) :
    player.MoveItemFromInventory data pos = player.without place := by
  unfold Player.MoveItemFromInventory Player.RemoveItem
  rw [hitem, hplace]
  rfl

theorem setItem_eq (hplace : player.place data pos = some place) (item : Item) :
    player.setItem data pos item = player.set place item := by
  unfold Player.setItem
  rw [hplace]

/-! ## The player in the store -/

structure Embeds (store : ItemStore World Location) (world : Player → ℕ → World)
    (own : Place → Location) : Prop where
  itemAt : ∀ player nextItemGuid place,
    store.itemAt (world player nextItemGuid) (own place) = player.items.find? place
  others : ∀ player player' nextItemGuid nextItemGuid' location, (∀ place, own place ≠ location) →
    store.itemAt (world player' nextItemGuid') location =
      store.itemAt (world player nextItemGuid) location
  total : ∀ player player' nextItemGuid nextItemGuid' entry,
    store.total (world player' nextItemGuid') entry + player.total entry =
      store.total (world player nextItemGuid) entry + player'.total entry
  next : ∀ player nextItemGuid, store.nextItemGuid (world player nextItemGuid) = nextItemGuid
  injective : Function.Injective own

namespace Embeds

variable {world : Player → ℕ → World} {own : Place → Location}

section

variable (hembeds : Embeds store world own)
include hembeds

theorem updated {new : Option Item}
    (hfind : ∀ other, after.items.find? other =
      if place = other then new else player.items.find? other)
    (htotal : ∀ entry, after.total entry + (player.items.find? place).elim 0 (Item.weight entry) =
      player.total entry + new.elim 0 (Item.weight entry))
    (hle : nextItemGuid ≤ nextItemGuid') :
    store.Updated (world player nextItemGuid) (own place) new (world after nextItemGuid') where
  itemAt other := by
    by_cases hown : ∃ otherPlace, own otherPlace = other
    · obtain ⟨otherPlace, rfl⟩ := hown
      rw [hembeds.itemAt, hembeds.itemAt, hfind]
      by_cases heq : otherPlace = place
      · rw [if_pos heq.symm, if_pos (congrArg own heq)]
      · rw [if_neg (Ne.symm heq), if_neg fun hown => heq (hembeds.injective hown)]
    · rw [hembeds.others player after nextItemGuid nextItemGuid' other
        fun otherPlace heq => hown ⟨otherPlace, heq⟩, if_neg fun heq => hown ⟨place, heq.symm⟩]
  total entry := by
    have hworld := hembeds.total player after nextItemGuid nextItemGuid' entry
    have hplayer := htotal entry
    rw [hembeds.itemAt]
    omega
  next := by
    rw [hembeds.next, hembeds.next]
    exact hle

theorem updated_set (place : Place) (item : Item)
    (hle : nextItemGuid ≤ nextItemGuid') :
    store.Updated (world player nextItemGuid) (own place) (some item)
      (world (player.set place item) nextItemGuid') :=
  hembeds.updated (fun other => find?_set place other item) (total_set place item) hle

theorem updated_without (hitem : player.items.find? place = some item) :
    store.Updated (world player nextItemGuid) (own place) none
      (world (player.without place) nextItemGuid) := by
  refine hembeds.updated (fun other => find?_without place other) (fun entry => ?_) le_rfl
  rw [hitem, elim_some]
  exact total_without hitem entry

theorem sound (hholds : store.Holds data (world player nextItemGuid) loose) :
    Sound player nextItemGuid where
  once first second left right hleft hright hguid := by
    rw [← hembeds.itemAt player nextItemGuid] at hleft hright
    exact hembeds.injective (hholds.once _ _ left right hleft hright hguid)
  given place found hfound := by
    rw [← hembeds.itemAt player nextItemGuid] at hfound
    exact (hholds.given _ found hfound).trans_eq (hembeds.next player nextItemGuid)

theorem absent
    (hholds : store.Holds data (world player nextItemGuid) loose) (hmem : pItem ∈ loose) :
    Absent player nextItemGuid pItem where
  given := (hholds.looseGiven pItem hmem).trans_eq (hembeds.next player nextItemGuid)
  absent place found hfound := by
    rw [← hembeds.itemAt player nextItemGuid] at hfound
    exact hholds.away pItem hmem _ found hfound

end

variable {pProto : ItemTemplate}

theorem adds (hembeds : Embeds store world own) {count : ℕ} {clone : Bool}
    (hlaid : Laid place pItem count clone player after nextItemGuid nextItemGuid' item)
    (hproto : data.GetItemTemplate pItem.entry = some pProto)
    (hplace : player.place data pos = some place) (hfits : Fits data player pProto pos count) :
    store.Adds data pItem count clone (world player nextItemGuid)
      (world after nextItemGuid') := by
  have hitem := GetItemByPos_eq hplace
  have hroom := hfits.room
  obtain ⟨rfl, hentry, hcount, -, hgiven, hle, -, hsource⟩ := hlaid
  have hupdated := @updated_set _ _ _ player nextItemGuid nextItemGuid' _ _ hembeds place item hle
  have hstack : data.StackHolds item := by
    refine ⟨pProto, ?_, ?_⟩
    · rw [GameData.GetTemplate, hentry]
      exact hproto
    · rw [hcount, ← hitem]
      exact hroom
  rcases hsource with ⟨old, hold, hguid⟩ | ⟨hnone, hguid⟩
  · have hmerge := canBeMerged_iff.mp (hfits.mergeable old (hitem.trans hold))
    have hsame : old.entry = pItem.entry := hmerge.2.1.trans (data.itemId _ _ hproto)
    rw [hold, elim_some] at hcount
    exact .merged ((hembeds.itemAt ..).trans hold) hupdated hguid.symm
      (hentry.trans hsame.symm) hsame hcount hstack
  · rw [hnone, elim_none, zero_add] at hcount
    refine .placed ((hembeds.itemAt ..).trans hnone) hupdated hentry hcount hstack ?_ ?_
    · rw [hembeds.next]
      exact hgiven
    · rw [hembeds.next]
      exact hguid

variable {dest : ItemPosCountVec}

section

variable (hembeds : Embeds store world own) (hsound : Sound player nextItemGuid) (habsent : Absent player nextItemGuid pItem) (hproto : data.GetItemTemplate pItem.entry = some pProto) (hnodup : (places dest).Nodup) (hfits : ∀ entry ∈ dest, Fits data player pProto entry.1 entry.2)
include hembeds hsound habsent hproto hnodup hfits

theorem receives : store.Receives data pItem (amount dest) (world player nextItemGuid)
      (world (player.StoreItem data pItem dest nextItemGuid).1
        (player.StoreItem data pItem dest nextItemGuid).2) :=
  StoreItem_induction
    (motive := fun count before guid after guid' =>
      store.Receives data pItem count (world before guid) (world after guid'))
    hproto (fun _ => .nil _)
    (fun _ hplace hhere hlaid => .last (hembeds.adds hlaid hproto hplace hhere))
    (fun _ hplace hhere hlaid hrest => .cons (hembeds.adds hlaid hproto hplace hhere) hrest)
    hsound habsent hnodup hfits

theorem receives_MoveItemToInventory :
    store.Receives data pItem (amount dest) (world player nextItemGuid)
      (world (player.MoveItemToInventory data dest pItem nextItemGuid).1
        (player.MoveItemToInventory data dest pItem nextItemGuid).2) := by
  have hreceives := hembeds.receives hsound habsent hproto hnodup hfits
  unfold Player.MoveItemToInventory
  dsimp only
  split
  · exact hreceives
  rename_i pos pLastItem hlast
  split
  case isFalse => exact hreceives
  obtain ⟨last, -, hfound⟩ := bind_eq_some_iff.mp hlast
  obtain ⟨found, hitem, heq⟩ := map_eq_some_iff.mp hfound
  obtain ⟨hpos, rfl⟩ := Prod.mk.inj heq
  rw [hpos] at hitem
  obtain ⟨place, hplace, hfind⟩ := find?_of_GetItemByPos hitem
  rw [setItem_eq hplace]
  exact .touched hreceives ((hembeds.itemAt ..).trans hfind)
    (hembeds.updated_set place _ le_rfl) rfl rfl rfl

end

end Embeds

theorem find?_MoveItemToInventory (habsent : Absent player nextItemGuid pItem)
    (hplace : player.place data pos = some place) (hnone : player.items.find? place = none)
    (hbag : IsBagPos pos.bag pos.slot = false) :
    ∃ found, (∀ other, (player.MoveItemToInventory data [(pos, pItem.count)] pItem
          nextItemGuid).1.items.find? other =
            if place = other then some found else player.items.find? other) ∧
      found.guid = pItem.guid ∧ found.entry = pItem.entry ∧ found.count = pItem.count := by
  obtain ⟨item, hlaid⟩ := @laid_empty data player pItem pos place pItem.count nextItemGuid false
    nextItemGuid { pItem with count := pItem.count } hplace hnone habsent.absent rfl rfl
    habsent.given le_rfl (by rintro ⟨⟩) rfl
  have hstored : player.StoreItem data pItem [(pos, pItem.count)] nextItemGuid =
      (player.putItem data pos (data.bindStored pos { pItem with count := pItem.count }),
        nextItemGuid) := by
    rw [Player.StoreItem, Player._StoreItem, GetItemByPos_eq hplace, hnone]
    rfl
  have hcount := hlaid.count
  rw [hnone, elim_none, zero_add] at hcount
  have hguid : item.guid = pItem.guid := by
    rcases hlaid.source with ⟨old, hold, -⟩ | ⟨-, hguid⟩
    · cases hnone.symm.trans hold
    · exact hguid
  have hput := hlaid.after
  have hafterPlace : (player.set place item).place data pos = some place :=
    (place_set (ne_main_of_not_isBagPos hplace hbag) pos).trans hplace
  have hfound : (player.set place item).items.find? place = some item := by
    rw [find?_set, if_pos rfl]
  unfold Player.MoveItemToInventory
  rw [hstored, hput]
  simp only [List.getLast?_singleton, bind_some, GetItemByPos_eq hafterPlace, hfound,
    map_some, hguid, if_true]
  rw [setItem_eq hafterPlace]
  refine ⟨{ item with owner := (player.set place item).guid }, fun other => ?_, hguid,
    hlaid.entry, hcount⟩
  rw [find?_set, find?_set]
  by_cases heq : place = other
  · rw [if_pos heq, if_pos heq]
    simp only [hguid]
    rfl
  · rw [if_neg heq, if_neg heq, if_neg heq]

/-! ## What `CanStoreItem` finds for an item -/

variable {bag slot : ℕ}

theorem CanStoreItem_fits (hcount : pItem.count < 2 ^ 32) (hforeign : Foreign player (some pItem))
    (htarget : StoreTarget bag slot)
    (hok : (player.CanStoreItem data bag slot [] pItem.entry pItem.count (some pItem)
      false).result = .EQUIP_ERR_OK) :
    ∃ pProto, data.GetItemTemplate pItem.entry = some pProto ∧
      (places (player.CanStoreItem data bag slot [] pItem.entry pItem.count (some pItem)
        false).dest).Nodup ∧
      amount (player.CanStoreItem data bag slot [] pItem.entry pItem.count (some pItem)
        false).dest = pItem.count ∧
      ∀ entry ∈ (player.CanStoreItem data bag slot [] pItem.entry pItem.count (some pItem)
        false).dest, Fits data player pProto entry.1 entry.2 := by
  unfold Player.CanStoreItem at hok ⊢
  rcases hproto : data.GetItemTemplate pItem.entry with _ | pProto
  · rw [hproto] at hok
    cases hok
  rw [hproto] at hok
  dsimp only at hok ⊢
  split at hok
  case h_1 result no_space_count hcannot =>
    dsimp only at hok
    rw [bind_some] at hcannot
    unfold Player.cannotStore at hcannot
    split_ifs at hcannot <;> exact nomatch hok ▸ hcannot
  rename_i hcan
  split at hok
  case isTrue hlimit => exact absurd hok hlimit.1
  rename_i hlimit
  obtain ⟨after, hpours, hended⟩ := @runSearches_ended data player
    ⟨bag, slot, pProto, some pItem, false⟩ _ .EQUIP_ERR_INVENTORY_FULL nofun hforeign rfl
    (@storeSearches_valid bag slot pProto (ownSlot_of_target htarget))
    (player.CanTakeMoreSimilarItems data pItem.entry pItem.count (some pItem)).2
    ⟨[], toUint32 ((pItem.count : ℤ) -
      (player.CanTakeMoreSimilarItems data pItem.entry pItem.count (some pItem)).2)⟩
  obtain ⟨hleft, hsimilar⟩ := hended.ok hok
  have hamount := hpours.amount_add_left
  rw [hsimilar, count_sub_zero hcount, hleft, add_zero] at hamount
  refine ⟨pProto, rfl, ?_, ?_, ?_⟩
  · rw [if_neg hlimit, hended.dest]
    exact hpours.nodup nodup_nil
  · rw [if_neg hlimit, hended.dest]
    exact hamount
  · rw [if_neg hlimit, hended.dest]
    exact fun entry hmem => (hpours.fits entry hmem).resolve_left not_mem_nil

theorem pos_of_place (hplace : player.place data pos = some place) :
    pos.bag ≠ NULL_BAG ∧ pos.slot ≠ NULL_SLOT := by
  have hbagSize : ∀ pBag, data.GetBagSize pBag ≤ MAX_BAG_SIZE := by
    intro pBag
    unfold GameData.GetBagSize
    cases hproto : data.GetTemplate pBag with
    | none => exact zero_le _
    | some proto => exact data.containerSlots _ _ hproto
  unfold Player.place at hplace
  unfold NULL_BAG NULL_SLOT
  split at hplace
  case isTrue hown =>
    unfold INVENTORY_SLOT_BAG_0 BANK_SLOT_BAG_END CURRENCYTOKEN_SLOT_END at hown
    omega
  split at hplace
  case h_2 => cases hplace
  rename_i pBag hbag
  split at hplace
  case isFalse => cases hplace
  rename_i hslot
  have hisBag := isBagSlot_iff.mp (GetBagByPos_spec hbag).1
  have hsize := hslot.trans_le (hbagSize pBag)
  unfold MAX_BAG_SIZE at hsize
  omega

variable {request : StoreRequest}

theorem find_swap (hswap : request.swap = true) : player.find data request .specificSlot =
        .offers [(⟨request.bag, request.slot⟩, request.pProto.GetMaxStackSize)] ∨
      player.find data request .specificSlot =
        .refused .EQUIP_ERR_ITEM_DOESNT_GO_INTO_BAG true := by
  have hnone : ((player.itemAt data request ⟨request.bag, request.slot⟩).filter
      fun _ => !request.swap) = none := by
    rw [hswap]
    cases player.itemAt data request ⟨request.bag, request.slot⟩ <;> rfl
  unfold Player.find Player.CanStoreItem_InSpecificSlot
  rw [hnone]
  dsimp only
  split
  · exact .inl rfl
  · exact .inr rfl

theorem runSearches_ok {full : InventoryResult} (hfull : full ≠ .EQUIP_ERR_OK)
    {no_similar_count : ℕ} {searches : List Search} {poured : Poured ItemPos}
    (hok : (player.runSearches data request full no_similar_count searches poured).result =
      .EQUIP_ERR_OK) : no_similar_count = 0 := by
  induction searches generalizing poured with
  | nil => exact absurd hok hfull
  | cons search searches ih =>
    unfold Player.runSearches at hok
    split at hok
    case h_1 hfind => exact absurd hok (find_refused hfind).1
    case h_2 => exact ih hok
    split at hok
    case isFalse => exact ih hok
    split at hok
    case isTrue hzero => exact hzero
    case isFalse => cases hok

theorem CanStoreItem_swap {pProto : ItemTemplate} (hcount : pItem.count < 2 ^ 32)
    (hproto : data.GetItemTemplate pItem.entry = some pProto)
    (hstack : pItem.count ≤ pProto.GetMaxStackSize)
    (hplace : player.place data pos = some place)
    (hok : (player.CanStoreItem data pos.bag pos.slot [] pItem.entry pItem.count (some pItem)
      true).result = .EQUIP_ERR_OK) :
    (player.CanStoreItem data pos.bag pos.slot [] pItem.entry pItem.count (some pItem)
      true).dest = [(pos, pItem.count)] := by
  obtain ⟨hbag, hslot⟩ := pos_of_place hplace
  unfold Player.CanStoreItem at hok ⊢
  rw [hproto] at hok ⊢
  dsimp only at hok ⊢
  split at hok
  case h_1 result no_space_count hcannot =>
    dsimp only at hok
    rw [bind_some] at hcannot
    unfold Player.cannotStore at hcannot
    split_ifs at hcannot <;> exact nomatch hok ▸ hcannot
  rename_i hcan
  split at hok
  case isTrue hlimit => exact absurd hok hlimit.1
  rename_i hlimit
  rw [if_neg hlimit]
  have hsearches : ∃ rest, Player.storeSearches pos.bag pos.slot pProto =
      .specificSlot :: rest := by
    unfold Player.storeSearches
    rw [if_pos ⟨hbag, hslot⟩]
    exact ⟨_, rfl⟩
  obtain ⟨rest, hrest⟩ := hsearches
  rw [hrest] at hok ⊢
  have hfull : InventoryResult.EQUIP_ERR_INVENTORY_FULL ≠ .EQUIP_ERR_OK := nofun
  have hsimilar := runSearches_ok hfull hok
  rw [hsimilar, count_sub_zero hcount] at hok ⊢
  unfold Player.runSearches at hok ⊢
  rcases @find_swap data player ⟨pos.bag, pos.slot, pProto, some pItem, true⟩ rfl with
    hfind | hfind
  · have hmin : min pProto.GetMaxStackSize pItem.count = pItem.count := min_eq_right hstack
    have hpour : pour [(pos, pProto.GetMaxStackSize)] ⟨[], pItem.count⟩ =
        ⟨[(pos, pItem.count)], 0⟩ := by
      simp [pour, Poured.put, places, hmin]
    rw [hfind]
    dsimp only
    rw [hpour]
    rfl
  · rw [hfind] at hok
    cases hok

theorem place_without_self (htarget : StoreTarget pos.bag pos.slot)
    (hplace : player.place data pos = some place) :
    IsBagPos pos.bag pos.slot = false ∧ (player.without place).place data pos = some place := by
  have hbag : IsBagPos pos.bag pos.slot = false :=
    isBagPos_of_ownSlot (ownSlot_of_target htarget (pos_of_place hplace).2)
  exact ⟨hbag, (place_without (ne_main_of_not_isBagPos hplace hbag) pos).trans hplace⟩

theorem fits_without {pProto : ItemTemplate} {count : ℕ}
    (htarget : StoreTarget pos.bag pos.slot) (hplace : player.place data pos = some place)
    (hstack : count ≤ pProto.GetMaxStackSize) :
    Fits data (player.without place) pProto pos count := by
  obtain ⟨hbag, hsame⟩ := place_without_self htarget hplace
  have hnone : (player.without place).GetItemByPos data pos = none := by
    rw [GetItemByPos_eq hsame, find?_without, if_pos rfl]
  refine ⟨?_, hbag, ?_, ?_⟩
  · rw [hsame, isSome_some]
  · intro found hfound
    exact nomatch hnone.symm.trans hfound
  · rw [hnone, elim_none, zero_add]
    exact hstack

end AzerothCore.Storage

/-!
## Destroying a number of items

`HasItemCount` and `DestroyItemCount` go through the same slots in different orders. One
adds up the stacks of an entry, the other takes them out until it has the number it is
asked for, and the last stack only in part.
-/

namespace AzerothCore.Storage
open List Option

namespace Player

variable (data : GameData) (player : Player) (inTrade : List ℕ) (entry count : ℕ)

def stackAt (pos : ItemPos) : Option Item :=
  (player.GetItemByPos data pos).filter fun item => item.entry = entry && !inTrade.contains item.guid

/-- The loops of `HasItemCount` over some slots. -/
def countFrom : ℕ → List ItemPos → Bool
  | _, [] => false
  | tempcount, pos :: slots =>
    match player.stackAt data inTrade entry pos with
    | none => countFrom tempcount slots
    | some pItem =>
      if count ≤ uint32 (tempcount + pItem.count) then true
      else countFrom (uint32 (tempcount + pItem.count)) slots

/-- The slots of the loops of `HasItemCount`. -/
def countSlots (inBankAlso : Bool) : List ItemPos :=
  ownSlots EQUIPMENT_SLOT_START INVENTORY_SLOT_ITEM_END ++
    ownSlots KEYRING_SLOT_START CURRENCYTOKEN_SLOT_END ++
    player.allBagSlots data INVENTORY_SLOT_BAG_START INVENTORY_SLOT_BAG_END ++
    if inBankAlso then
      ownSlots BANK_SLOT_ITEM_START BANK_SLOT_ITEM_END ++
        player.allBagSlots data BANK_SLOT_BAG_START BANK_SLOT_BAG_END
    else []

def HasItemCount (inBankAlso : Bool) : Bool :=
  player.countFrom data inTrade entry count 0 (player.countSlots data inBankAlso)

def removeAt (pos : ItemPos) : Player := (player.place data pos).elim player player.without

def DestroyItem (pos : ItemPos) : Player :=
  match player.GetItemByPos data pos with
  | none => player
  | some pItem =>
    let emptied := if player.IsNotEmptyBag data pItem then
        (List.range MAX_BAG_SIZE).foldl
          (fun player i => player.removeAt data ⟨pos.slot, i⟩) player
      else player
    emptied.removeAt data pos

/-- The loops of `DestroyItemCount` over some slots; `refused` are the ones that
`unequip_check` refuses. -/
def destroyFrom (refused : ItemPos → Bool) (player : Player) (remcount : ℕ) : List ItemPos → Player
  | [] => player
  | pos :: slots =>
    match player.stackAt data inTrade entry pos with
    | none => destroyFrom refused player remcount slots
    | some item =>
      if uint32 (item.count + remcount) ≤ count then
        if refused pos then destroyFrom refused player remcount slots
        else
          if count ≤ uint32 (remcount + item.count) then player.DestroyItem data pos
          else
            destroyFrom refused (player.DestroyItem data pos) (uint32 (remcount + item.count))
              slots
      else
        player.setItem data pos { item with count := toUint32 (item.count - count + remcount) }

/-- The slots of the loops of `DestroyItemCount`. No bag is destroyed before its loop. -/
def destroySlots : List ItemPos :=
  ownSlots INVENTORY_SLOT_ITEM_START INVENTORY_SLOT_ITEM_END ++
    ownSlots KEYRING_SLOT_START CURRENCYTOKEN_SLOT_END ++
    player.allBagSlots data INVENTORY_SLOT_BAG_START INVENTORY_SLOT_BAG_END ++
    ownSlots EQUIPMENT_SLOT_START INVENTORY_SLOT_BAG_END ++
    ownSlots BANK_SLOT_ITEM_START BANK_SLOT_ITEM_END ++
    player.allBagSlots data BANK_SLOT_BAG_START BANK_SLOT_BAG_END

def DestroyItemCount (unequip_check : Bool) (CanUnequipItem : ItemPos → Bool) : Player :=
  player.destroyFrom data inTrade entry count
    (fun pos => unequip_check && IsEquipmentPos pos.bag pos.slot && !CanUnequipItem pos) 0
    (player.destroySlots data)

def counts (slots : List ItemPos) : List ℕ :=
  slots.filterMap fun pos => (player.stackAt data inTrade entry pos).map Item.count

end Player

/-- How many items the loops of `DestroyItemCount` destroy of some stacks. -/
def destroyed (count remcount : ℕ) : List ℕ → ℕ
  | [] => 0
  | stack :: counts =>
    if uint32 (stack + remcount) ≤ count then
      stack + if count ≤ uint32 (remcount + stack) then 0
        else destroyed count (uint32 (remcount + stack)) counts
    else count - remcount

/-- The stack with which the number is passed does not take the sum out of a `uint32`. -/
def PassesBelow (count remcount : ℕ) : List ℕ → Prop
  | [] => True
  | stack :: counts =>
    (count < remcount + stack → remcount + stack < 2 ^ 32) ∧
      (remcount + stack < count → PassesBelow count (remcount + stack) counts)

structure DestroysExactly (data : GameData) (player after : Player) (inTrade : List ℕ)
    (entry count : ℕ) : Prop where
  exact : after.total entry +
    min count (player.counts data inTrade entry (player.countSlots data true)).sum =
      player.total entry
  all : player.HasItemCount data inTrade entry count true = true →
    after.total entry + count = player.total entry
  others : ∀ place, after.items.find? place ≠ player.items.find? place →
    ∃ item, player.items.find? place = some item ∧ item.entry = entry ∧ item.guid ∉ inTrade

variable {data : GameData} {player : Player} {inTrade counts : List ℕ}
  {entry count remcount nextItemGuid : ℕ} {pos : ItemPos} {item : Item} {slots : List ItemPos}
  {refused : ItemPos → Bool}

theorem destroyed_eq_iff (hcount : count < 2 ^ 32) (hlt : remcount < count)
    (hcounts : ∀ stack ∈ counts, stack < 2 ^ 32) :
    destroyed count remcount counts = min (count - remcount) counts.sum ↔
      PassesBelow count remcount counts := by
  induction counts generalizing remcount with
  | nil => simp [destroyed, PassesBelow]
  | cons stack counts ih =>
    rw [forall_mem_cons] at hcounts
    have hstack := hcounts.1
    rw [destroyed, PassesBelow, sum_cons, Nat.add_comm stack remcount]
    rcases Nat.lt_or_ge (remcount + stack) (2 ^ 32) with hbelow | hover
    · rw [uint32_of_lt hbelow, and_iff_right fun _ => hbelow]
      rcases Nat.lt_trichotomy (remcount + stack) count with hless | heq | hgreater
      · rw [if_pos hless.le, if_neg hless.not_ge, imp_iff_right hless, ← ih hless hcounts.2]
        omega
      · rw [if_pos heq.le, if_pos heq.ge]
        exact iff_of_true (by omega) fun hless => absurd heq hless.ne
      · rw [if_neg hgreater.not_ge]
        exact iff_of_true (by omega) fun hless => absurd hless hgreater.not_gt
    · have hwrapped : uint32 (remcount + stack) ≤ count := by
        rw [uint32]
        omega
      rw [if_pos hwrapped]
      apply iff_of_false
      · omega
      · exact fun hpasses => absurd (hpasses.1 (by omega)) hover.not_gt

theorem le_sum_of_countFrom {tempcount : ℕ}
    (hfound : player.countFrom data inTrade entry count tempcount slots = true) :
    count ≤ tempcount + (player.counts data inTrade entry slots).sum := by
  induction slots generalizing tempcount with
  | nil => cases hfound
  | cons pos slots ih =>
    rw [Player.countFrom] at hfound
    rw [Player.counts, filterMap_cons]
    cases hstack : player.stackAt data inTrade entry pos with
    | none =>
      rw [hstack] at hfound
      exact ih hfound
    | some item =>
      have hmod : uint32 (tempcount + item.count) ≤ tempcount + item.count := Nat.mod_le _ _
      rw [hstack] at hfound
      dsimp only at hfound
      simp only [map_some, sum_cons]
      split at hfound
      · omega
      · have hrest := ih hfound
        rw [Player.counts] at hrest
        omega

theorem counts_append (first second : List ItemPos) :
    player.counts data inTrade entry (first ++ second) =
      player.counts data inTrade entry first ++ player.counts data inTrade entry second :=
  filterMap_append

theorem sum_countSlots : (player.counts data inTrade entry (player.countSlots data true)).sum =
      (player.counts data inTrade entry (player.destroySlots data)).sum := by
  have hown : Player.ownSlots EQUIPMENT_SLOT_START INVENTORY_SLOT_ITEM_END =
      Player.ownSlots EQUIPMENT_SLOT_START INVENTORY_SLOT_BAG_END ++
        Player.ownSlots INVENTORY_SLOT_ITEM_START INVENTORY_SLOT_ITEM_END := rfl
  rw [Player.countSlots, Player.destroySlots, hown, if_pos rfl]
  simp only [counts_append, sum_append]
  omega

theorem nodup_ownSlots (first last : ℕ) : (Player.ownSlots first last).Nodup :=
  List.Nodup.map (fun _ _ heq => congrArg ItemPos.slot heq) nodup_range'

theorem mem_allBagSlots {first last : ℕ} (hmem : pos ∈ player.allBagSlots data first last) :
    first ≤ pos.bag ∧ pos.bag < last := by
  obtain ⟨bag, hbag, hmem⟩ := mem_flatMap.mp hmem
  rw [mem_range'_1] at hbag
  unfold Player.bagSlots at hmem
  split at hmem
  · cases hmem
  · obtain ⟨slot, -, rfl⟩ := List.mem_map.mp hmem
    dsimp only
    omega

theorem nodup_allBagSlots (first last : ℕ) : (player.allBagSlots data first last).Nodup := by
  have hbag (bag : ℕ) : ∀ pos ∈ player.bagSlots data bag, pos.bag = bag := by
    intro pos hmem
    unfold Player.bagSlots at hmem
    split at hmem
    · cases hmem
    · obtain ⟨slot, -, rfl⟩ := List.mem_map.mp hmem
      rfl
  rw [Player.allBagSlots, nodup_flatMap]
  constructor
  · intro bag _
    unfold Player.bagSlots
    split
    · exact nodup_nil
    · exact List.Nodup.map (fun _ _ heq => congrArg ItemPos.slot heq) nodup_range
  · apply List.Pairwise.imp _ (nodup_range' (s := first) (n := last - first))
    intro bag other hne pos hpos hother
    exact hne ((hbag bag pos hpos).symm.trans (hbag other pos hother))

theorem nodup_destroySlots : (player.destroySlots data).Nodup := by
  have hown (first last : ℕ) : ∀ pos ∈ Player.ownSlots first last, pos.bag = 255 ∧
      first ≤ pos.slot ∧ pos.slot < last := fun pos hmem => mem_ownSlots hmem
  have hbags (first last : ℕ) : ∀ pos ∈ player.allBagSlots data first last,
      first ≤ pos.bag ∧ pos.bag < last := fun pos hmem => mem_allBagSlots hmem
  simp only [Player.destroySlots, INVENTORY_SLOT_ITEM_START, INVENTORY_SLOT_ITEM_END,
    KEYRING_SLOT_START, CURRENCYTOKEN_SLOT_END, INVENTORY_SLOT_BAG_START, INVENTORY_SLOT_BAG_END,
    EQUIPMENT_SLOT_START, BANK_SLOT_ITEM_START, BANK_SLOT_ITEM_END, BANK_SLOT_BAG_START,
    BANK_SLOT_BAG_END, nodup_append, nodup_ownSlots, nodup_allBagSlots, mem_append,
    true_and]
  grind

/-! ## Taking stacks out -/

def NoContainer (data : GameData) (entry : ℕ) : Prop :=
  ∀ proto, data.GetItemTemplate entry = some proto → proto.InventoryType ≠ INVTYPE_BAG

theorem NoContainer.IsBag (hnone : NoContainer data item.entry) : data.IsBag item = false := by
  unfold GameData.IsBag GameData.GetTemplate
  cases hproto : data.GetItemTemplate item.entry with
  | none => rfl
  | some proto => exact decide_eq_false (hnone proto hproto)

theorem stackAt_spec (hstack : player.stackAt data inTrade entry pos = some item) :
    ∃ place, player.place data pos = some place ∧ player.items.find? place = some item ∧
      item.entry = entry ∧ item.guid ∉ inTrade := by
  rw [Player.stackAt, filter_eq_some_iff] at hstack
  obtain ⟨hitem, hkind⟩ := hstack
  obtain ⟨place, hplace, hfind⟩ := bind_eq_some_iff.mp hitem
  simp only [Bool.and_eq_true, decide_eq_true_eq, Bool.not_eq_true', contains_eq_mem,
    decide_eq_false_iff_not] at hkind
  exact ⟨place, hplace, hfind, hkind⟩

theorem DestroyItem_eq {place : Place} (hplace : player.place data pos = some place)
    (hfind : player.items.find? place = some item) (hnone : NoContainer data item.entry) :
    player.DestroyItem data pos = player.without place := by
  unfold Player.DestroyItem Player.IsNotEmptyBag
  rw [GetItemByPos_eq hplace, hfind]
  dsimp only
  rw [hnone.IsBag, Bool.false_and, if_neg Bool.false_ne_true, Player.removeAt, hplace]
  rfl

theorem Sound.without (hsound : Sound player nextItemGuid) (place : Place) :
    Sound (player.without place) nextItemGuid := by
  have hbefore (other : Place) (item : Item)
      (hfind : (player.without place).items.find? other = some item) :
      player.items.find? other = some item := by
    rw [find?_without] at hfind
    split at hfind
    · cases hfind
    · exact hfind
  exact ⟨fun first second item found hitem hfound =>
    hsound.once first second item found (hbefore first item hitem) (hbefore second found hfound),
    fun other item hfind => hsound.given other item (hbefore other item hfind)⟩

theorem stackAt_without {place : Place} (hsound : Sound player nextItemGuid)
    (hplace : player.place data pos = some place) (hfind : player.items.find? place = some item)
    (hnone : NoContainer data item.entry) {other : ItemPos} (hne : other ≠ pos) :
    (player.without place).stackAt data inTrade entry other =
      player.stackAt data inTrade entry other := by
  have hsame := place_without_item hfind (fun _ _ _ => hnone.IsBag) other
  unfold Player.stackAt Player.GetItemByPos
  rw [hsame]
  cases hother : player.place data other with
  | none => rfl
  | some place' =>
    have hdiffers : place ≠ place' := by
      rintro rfl
      exact hne (place_injective hsound hother hplace)
    rw [bind_some, bind_some, find?_without, if_neg hdiffers]

/-- The loops take out what the numbers say, and nothing else changes. -/
theorem destroyFrom_spec (hsound : Sound player nextItemGuid) (hnone : NoContainer data entry)
    (hcount : count < 2 ^ 32) (hrefused : ∀ pos, refused pos = false) (hnodup : slots.Nodup)
    (hcounts : ∀ stack ∈ player.counts data inTrade entry slots, stack < 2 ^ 32)
    (hlt : remcount < count) :
    (Player.destroyFrom data inTrade entry count refused player remcount slots).total entry +
        destroyed count remcount (player.counts data inTrade entry slots) =
      player.total entry ∧
    ∀ place, (Player.destroyFrom data inTrade entry count refused player remcount
        slots).items.find? place ≠ player.items.find? place →
      ∃ item, player.items.find? place = some item ∧ item.entry = entry ∧ item.guid ∉ inTrade := by
  induction slots generalizing player remcount with
  | nil => exact ⟨rfl, fun _ hne => absurd rfl hne⟩
  | cons pos slots ih =>
    obtain ⟨hpos, hnodup⟩ := nodup_cons.mp hnodup
    rw [Player.destroyFrom]
    rw [Player.counts, filterMap_cons] at hcounts ⊢
    cases hstack : player.stackAt data inTrade entry pos with
    | none =>
      rw [hstack] at hcounts
      exact ih hsound hnodup hcounts hlt
    | some item =>
      obtain ⟨place, hplace, hfind, rfl, htrade⟩ := stackAt_spec hstack
      rw [hstack] at hcounts
      simp only [map_some, forall_mem_cons] at hcounts ⊢
      have hweight : item.weight item.entry = item.count := if_pos rfl
      rw [destroyed]
      split
      · have htotal := total_without hfind item.entry
        have hothers (other : Place) (hne : (player.without place).items.find? other ≠
            player.items.find? other) : other = place := by
          rw [find?_without] at hne
          by_contra hdiffers
          exact hne (if_neg (Ne.symm hdiffers))
        rw [hrefused, if_neg Bool.false_ne_true, DestroyItem_eq hplace hfind hnone]
        split
        · refine ⟨by omega, fun other hne => ?_⟩
          obtain rfl := hothers other hne
          exact ⟨item, hfind, rfl, htrade⟩
        · rename_i hmore
          have hkept : (player.without place).counts data inTrade item.entry slots =
              player.counts data inTrade item.entry slots := by
            apply filterMap_congr
            intro other hmem
            rw [stackAt_without hsound hplace hfind hnone fun heq => hpos (heq ▸ hmem)]
          obtain ⟨hrest, hsame⟩ := ih (hsound.without place) hnodup (hkept.symm ▸ hcounts.2)
            (Nat.not_le.mp hmore)
          rw [hkept, Player.counts] at hrest
          refine ⟨by omega, fun other hne => ?_⟩
          by_cases hchanged : (player.without place).items.find? other = player.items.find? other
          · rw [← hchanged] at hne ⊢
            exact hsame other hne
          · obtain rfl := hothers other hchanged
            exact ⟨item, hfind, rfl, htrade⟩
      · rename_i hpart
        have hbelow : item.count + remcount < 2 ^ 32 := by
          by_contra hover
          apply hpart
          rw [uint32]
          omega
        rw [uint32_of_lt hbelow] at hpart
        have hleft : toUint32 (item.count - count + remcount) = item.count + remcount - count := by
          rw [toUint32]
          omega
        rw [setItem_eq hplace, hleft]
        have htotal := @total_set player place
          { item with count := item.count + remcount - count } item.entry
        have hnew : Item.weight item.entry { item with count :=
          item.count + remcount - count } = item.count + remcount - count := if_pos rfl
        rw [hfind, elim_some, hweight, hnew] at htotal
        refine ⟨by omega, fun other hne => ?_⟩
        rw [find?_set] at hne
        by_cases heq : place = other
        · subst heq
          exact ⟨item, hfind, rfl, htrade⟩
        · exact absurd (if_neg heq) hne

theorem destroysExactly_iff (hsound : Sound player nextItemGuid) (hnone : NoContainer data entry)
    (hpos : 1 ≤ count) (hcount : count < 2 ^ 32)
    (hitems : ∀ place item, player.items.find? place = some item → item.count < 2 ^ 32)
    (CanUnequipItem : ItemPos → Bool) :
    DestroysExactly data player
        (player.DestroyItemCount data inTrade entry count false CanUnequipItem) inTrade entry count ↔
      PassesBelow count 0 (player.counts data inTrade entry (player.destroySlots data)) := by
  have hcounts : ∀ stack ∈ player.counts data inTrade entry (player.destroySlots data),
      stack < 2 ^ 32 := by
    intro stack hmem
    obtain ⟨pos, -, hstack⟩ := mem_filterMap.mp hmem
    obtain ⟨item, hitem, rfl⟩ := map_eq_some_iff.mp hstack
    obtain ⟨place, -, hfind, -⟩ := stackAt_spec hitem
    exact hitems place item hfind
  have hrefused (pos : ItemPos) :
      (false && IsEquipmentPos pos.bag pos.slot && !CanUnequipItem pos) = false := rfl
  obtain ⟨htotal, hothers⟩ := destroyFrom_spec hsound hnone hcount hrefused nodup_destroySlots
    hcounts hpos
  rw [← destroyed_eq_iff hcount hpos hcounts, Nat.sub_zero]
  change Player.total (player.DestroyItemCount data inTrade entry count false CanUnequipItem) entry
    + _ = _ at htotal
  constructor
  · intro hdestroys
    have hexact := hdestroys.exact
    rw [sum_countSlots] at hexact
    omega
  · intro heq
    rw [heq, ← sum_countSlots] at htotal
    refine ⟨htotal, fun hhas => ?_, hothers⟩
    have hle := le_sum_of_countFrom hhas
    omega

def coinData : GameData :=
  .ofTemplates [{ limitedProto with MaxCount := 0, Stackable := 2147483647 }] (by decide)

def coinPlayer (counts : List ℕ) : Player :=
  counts.zipIdx.foldl (fun player stack => player.set (.main (CURRENCYTOKEN_SLOT_START + stack.2))
    { limitedItem with guid := stack.2, count := stack.1 }) barePlayer

/-- Of three stacks too many are destroyed: the sum starts anew at 2^32. -/
theorem destroys_too_many :
    ¬ DestroysExactly coinData (coinPlayer [2147483646, 2147483646, 2147483646])
      ((coinPlayer [2147483646, 2147483646, 2147483646]).DestroyItemCount coinData [] 1 4294967295
        false fun _ => true) [] 1 4294967295 := by
  intro hdestroys
  have hafter : ((coinPlayer [2147483646, 2147483646, 2147483646]).DestroyItemCount coinData [] 1
      4294967295 false fun _ => true).total 1 = 0 := by decide +kernel
  have hbefore : (coinPlayer [2147483646, 2147483646, 2147483646]).total 1 = 6442450938 := by
    decide +kernel
  have hexact := hdestroys.exact
  rw [hafter, hbefore] at hexact
  omega

/-- Seven of a stack of eight. -/
theorem destroysExactly_seven : DestroysExactly coinData (coinPlayer [8])
      ((coinPlayer [8]).DestroyItemCount coinData [] 1 7 false fun _ => true) [] 1 7 := by
  have hbare : Sound barePlayer 2 := ⟨nofun, nofun⟩
  have hsound : Sound (coinPlayer [8]) 2 := hbare.set (by decide) nofun
  have hcounts : (coinPlayer [8]).counts coinData [] 1 ((coinPlayer [8]).destroySlots coinData) =
      [8] := by decide +kernel
  apply (destroysExactly_iff hsound _ (by decide) (by decide) _ _).mpr
  · rw [hcounts]
    exact ⟨fun _ => by decide, fun _ => trivial⟩
  · intro proto hproto
    cases hproto
    decide
  · intro place item hfind
    change (barePlayer.set _ _).items.find? place = some item at hfind
    rw [find?_set] at hfind
    split at hfind
    · cases hfind
      decide
    · cases hfind

end AzerothCore.Storage
