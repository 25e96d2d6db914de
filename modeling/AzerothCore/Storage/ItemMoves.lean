import AzerothCore.Storage.ItemStore

/-!
# Items on their way

An operation takes items out of a store, keeps them loose for a while and puts
them back elsewhere. Each part of it keeps the item objects and, with the loose
items counted in, the totals; so does the whole.
-/

namespace AzerothCore.Storage.ItemStore
open List

variable {World Location : Type*} {store : ItemStore World Location} {data : GameData}
  {before middle after : World} {location : Location} {loose loose' loose'' : List Item}
  {item new : Item}

def Present (store : ItemStore World Location) (world : World) (loose : List Item)
    (item : Item) : Prop :=
  (∃ location, store.itemAt world location = some item) ∨ item ∈ loose

def weights (loose : List Item) (entry : ℕ) : ℕ := (loose.map (Item.weight entry)).sum

theorem weights_cons (item : Item) (loose : List Item) (entry : ℕ) :
    weights (item :: loose) entry = item.weight entry + weights loose entry := sum_cons

structure SameItem (item found : Item) : Prop where
  guid : found.guid = item.guid
  entry : found.entry = item.entry
  count : found.count = item.count

theorem SameItem.refl (item : Item) : SameItem item item := ⟨rfl, rfl, rfl⟩

theorem SameItem.trans {first second third : Item} (hfirst : SameItem first second)
    (hsecond : SameItem second third) : SameItem first third :=
  ⟨hsecond.guid.trans hfirst.guid, hsecond.entry.trans hfirst.entry,
    hsecond.count.trans hfirst.count⟩

theorem SameItem.weight (hsame : SameItem item new) (entry : ℕ) :
    new.weight entry = item.weight entry := by
  rw [weight_of_entry hsame.entry, weight_of_entry rfl, hsame.count]

structure Moves (store : ItemStore World Location) (data : GameData) (before : World)
    (loose : List Item) (after : World) (loose' : List Item) : Prop where
  holds : store.Holds data after loose'
  present : ∀ item, store.Present before loose item →
    ∃ found, store.Present after loose' found ∧ SameItem item found
  total : ∀ entry, store.total after entry + weights loose' entry =
    store.total before entry + weights loose entry

namespace Moves

theorem refl (hholds : store.Holds data before loose) :
    store.Moves data before loose before loose :=
  ⟨hholds, fun item hpresent => ⟨item, hpresent, .refl item⟩, fun _ => rfl⟩

theorem trans (hfirst : store.Moves data before loose middle loose')
    (hsecond : store.Moves data middle loose' after loose'') :
    store.Moves data before loose after loose'' where
  holds := hsecond.holds
  present item hpresent := by
    obtain ⟨found, hfound, hsame⟩ := hfirst.present item hpresent
    obtain ⟨last, hlast, hsame'⟩ := hsecond.present found hfound
    exact ⟨last, hlast, hsame.trans hsame'⟩
  total entry := (hsecond.total entry).trans (hfirst.total entry)

theorem of_same (hholds : store.Holds data before loose)
    (hitemAt : ∀ location, store.itemAt after location = store.itemAt before location)
    (htotal : ∀ entry, store.total after entry = store.total before entry)
    (hnext : store.nextItemGuid before ≤ store.nextItemGuid after) :
    store.Moves data before loose after loose where
  holds :=
    { once := fun first second left right hleft hright =>
        hholds.once first second left right ((hitemAt first).symm.trans hleft)
          ((hitemAt second).symm.trans hright)
      given := fun location item hitem =>
        (hholds.given location item ((hitemAt location).symm.trans hitem)).trans_le hnext
      within := fun location item hitem =>
        hholds.within location item ((hitemAt location).symm.trans hitem)
      away := fun pItem hmem location item hitem =>
        hholds.away pItem hmem location item ((hitemAt location).symm.trans hitem)
      looseOnce := hholds.looseOnce
      looseGiven := fun pItem hmem => (hholds.looseGiven pItem hmem).trans_le hnext
      looseWithin := hholds.looseWithin }
  present item hpresent := by
    rcases hpresent with ⟨location, hitem⟩ | hmem
    · exact ⟨item, .inl ⟨location, (hitemAt location).trans hitem⟩, .refl item⟩
    · exact ⟨item, .inr hmem, .refl item⟩
  total entry := congrArg (· + weights loose entry) (htotal entry)

theorem removed (hholds : store.Holds data before loose)
    (hitem : store.itemAt before location = some item)
    (hupdated : store.Updated before location none after) :
    store.Moves data before loose after (item :: loose) where
  holds := hholds.removed hitem hupdated
  present other hpresent := by
    rcases hpresent with ⟨otherLocation, hother⟩ | hmem
    · by_cases heq : otherLocation = location
      · obtain rfl := Option.some.inj (hitem.symm.trans (heq ▸ hother))
        exact ⟨item, .inr mem_cons_self, .refl item⟩
      · exact ⟨other, .inl ⟨otherLocation, (hupdated.elsewhere heq).trans hother⟩, .refl other⟩
    · exact ⟨other, .inr (mem_cons_of_mem _ hmem), .refl other⟩
  total entry := by
    have htotal := hupdated.total entry
    rw [hitem] at htotal
    rw [weights_cons, ← Nat.add_assoc]
    exact congrArg (· + weights loose entry) htotal

theorem of_perm (hholds : store.Holds data before loose) (hperm : loose.Perm loose') :
    store.Moves data before loose before loose' where
  holds :=
    { once := hholds.once
      given := hholds.given
      within := hholds.within
      away := fun pItem hmem => hholds.away pItem (hperm.mem_iff.mpr hmem)
      looseOnce := (hperm.map Item.guid).nodup_iff.mp hholds.looseOnce
      looseGiven := fun pItem hmem => hholds.looseGiven pItem (hperm.mem_iff.mpr hmem)
      looseWithin := fun pItem hmem => hholds.looseWithin pItem (hperm.mem_iff.mpr hmem) }
  present item hpresent := ⟨item, hpresent.imp_right hperm.mem_iff.mp, .refl item⟩
  total entry := congrArg (store.total before entry + ·) ((hperm.map _).sum_eq).symm

theorem relabelled (hholds : store.Holds data before (item :: loose)) (hsame : SameItem item new) :
    store.Moves data before (item :: loose) before (new :: loose) where
  holds :=
    { once := hholds.once
      given := hholds.given
      within := hholds.within
      away := by
        intro pItem hmem location found hfound
        rcases mem_cons.mp hmem with rfl | hmem
        · exact hsame.guid ▸ hholds.away item mem_cons_self location found hfound
        · exact hholds.away pItem (mem_cons_of_mem _ hmem) location found hfound
      looseOnce := by
        rw [map_cons, hsame.guid, ← map_cons]
        exact hholds.looseOnce
      looseGiven := by
        intro pItem hmem
        rcases mem_cons.mp hmem with rfl | hmem
        · exact hsame.guid ▸ hholds.looseGiven item mem_cons_self
        · exact hholds.looseGiven pItem (mem_cons_of_mem _ hmem)
      looseWithin := by
        intro pItem hmem
        rcases mem_cons.mp hmem with rfl | hmem
        · exact StackHolds_of_le (hholds.looseWithin item mem_cons_self) hsame.entry
            hsame.count.le
        · exact hholds.looseWithin pItem (mem_cons_of_mem _ hmem) }
  present other hpresent := by
    rcases hpresent with hloc | hmem
    · exact ⟨other, .inl hloc, .refl other⟩
    rcases mem_cons.mp hmem with rfl | hmem
    · exact ⟨new, .inr mem_cons_self, hsame⟩
    · exact ⟨other, .inr (mem_cons_of_mem _ hmem), .refl other⟩
  total entry := by
    rw [weights_cons, weights_cons, hsame.weight]

theorem placed (hholds : store.Holds data before (item :: loose))
    (hnone : store.itemAt before location = none)
    (hupdated : store.Updated before location (some item) after) :
    store.Moves data before (item :: loose) after loose where
  holds := by
    have hrest := hholds.mono (sublist_cons_self item loose)
    have hnodup := hholds.looseOnce
    rw [map_cons, nodup_cons] at hnodup
    refine hrest.placed hnone hupdated (hholds.away item mem_cons_self) ?_ ?_ ?_
    · intro pItem hmem heq
      exact hnodup.1 (mem_map.mpr ⟨pItem, hmem, heq.symm⟩)
    · exact (hholds.looseGiven item mem_cons_self).trans_le hupdated.next
    · exact hholds.looseWithin item mem_cons_self
  present other hpresent := by
    rcases hpresent with ⟨otherLocation, hother⟩ | hmem
    · have hne : otherLocation ≠ location := by
        rintro rfl
        exact nomatch hnone.symm.trans hother
      exact ⟨other, .inl ⟨otherLocation, (hupdated.elsewhere hne).trans hother⟩, .refl other⟩
    · rcases mem_cons.mp hmem with rfl | hmem
      · exact ⟨other, .inl ⟨location, hupdated.at_location⟩, .refl other⟩
      · exact ⟨other, .inr hmem, .refl other⟩
  total entry := by
    have htotal := hupdated.total entry
    rw [hnone] at htotal
    rw [weights_cons, ← Nat.add_assoc]
    exact congrArg (· + weights loose entry) htotal

end Moves

end AzerothCore.Storage.ItemStore
