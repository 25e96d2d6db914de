import AzerothCore.Storage.StoredItems

/-!
# What the searches of `CanStoreItem` come to

The searches of `CanStoreItem` pass over the number of the slot that was asked for in every
bag, although only the slot itself was tried before. They also look for room for keys in
slots for currency, where `CanStoreItem_InSpecificSlot` takes none.
-/

namespace AzerothCore.Storage

open List Option
open Pouring

namespace Player

variable (data : GameData) (player : Player) (bag slot : ℕ) (pProto : ItemTemplate)

def inventorySlots : List ItemPos :=
  ownSlots INVENTORY_SLOT_ITEM_START INVENTORY_SLOT_ITEM_END ++
    ownSlots KEYRING_SLOT_START CURRENCYTOKEN_SLOT_END ++
    player.allBagSlots data INVENTORY_SLOT_BAG_START INVENTORY_SLOT_BAG_END

def totalRoom : ℕ :=
  ∑ pos ∈ (player.inventorySlots data).toFinset.filter fun pos => player.admissible data pProto pos,
    player.room data pProto pos

def asked (pos : ItemPos) : Bool :=
  bag ≠ NULL_BAG && slot ≠ NULL_SLOT && pos = ⟨bag, slot⟩

def isKey : Bool := pProto.BagFamily &&& BAG_FAMILY_MASK_KEYS ≠ 0

/-- No search comes to the position, although it was not asked for: it has the number of
the slot that was, in some bag; or it has a stack of an item that does not stack, or one in
a bag that does not take the item; or it is a free slot for currency, the item is a key as
well, and no slot of the player himself was asked for. -/
def overlooked (pos : ItemPos) : Bool :=
  !asked bag slot pos && (pos.bag ≠ INVENTORY_SLOT_BAG_0 && pos.slot = slot ||
      match player.GetItemByPos data pos with
      | some _ =>
        pProto.Stackable = 1 ||
          pos.bag ≠ INVENTORY_SLOT_BAG_0 && !player.bagTakes data pProto pos.bag
      | none =>
        isKey pProto && bag ≠ INVENTORY_SLOT_BAG_0 && pos.bag = INVENTORY_SLOT_BAG_0 &&
          CURRENCYTOKEN_SLOT_START ≤ pos.slot)

def misplaced (pos : ItemPos) : Bool :=
  isKey pProto && !pProto.IsCurrencyToken && bag = INVENTORY_SLOT_BAG_0 &&
    pos.bag = INVENTORY_SLOT_BAG_0 && CURRENCYTOKEN_SLOT_START ≤ pos.slot &&
    pos.slot < CURRENCYTOKEN_SLOT_END && (player.GetItemByPos data pos).isNone

def acceptsRequest : Bool :=
  (bag = NULL_BAG || slot = NULL_SLOT || player.admissible data pProto ⟨bag, slot⟩) &&
    (bag = NULL_BAG || bag = INVENTORY_SLOT_BAG_0 || player.bagTakes data pProto bag)

def searchableSlots : List ItemPos :=
  player.inventorySlots data ++ player.bagSlots data bag ++ [⟨bag, slot⟩]

def searchedRoom : ℕ :=
  ∑ pos ∈ (player.searchableSlots data bag slot).toFinset.filter fun pos =>
      (player.admissible data pProto pos && !player.overlooked data bag slot pProto pos ||
        player.misplaced data bag pProto pos),
    player.room data pProto pos

end Player

variable {data : GameData} {player : Player} {bag slot count entry : ℕ} {pProto : ItemTemplate}
  {pos : ItemPos}

variable {first last other : ℕ} {merge : Bool} {search : Search}

theorem mem_ownSlots_iff : pos ∈ Player.ownSlots first last ↔
      pos.bag = INVENTORY_SLOT_BAG_0 ∧ first ≤ pos.slot ∧ pos.slot < last := by
  refine ⟨mem_ownSlots, fun ⟨hbag, hfirst, hlast⟩ => ?_⟩
  refine List.mem_map.mpr ⟨pos.slot, mem_range'_1.mpr ⟨hfirst, by omega⟩, ?_⟩
  rw [← hbag]

theorem mem_bagSlots_iff : pos ∈ player.bagSlots data other ↔
      pos.bag = other ∧ ∃ pBag, player.GetBagByPos data other = some pBag ∧
        pos.slot < data.GetBagSize pBag := by
  rw [Player.bagSlots]
  rcases player.GetBagByPos data other with _ | pBag
  · simp
  simp only [List.mem_map, mem_range, Option.some.injEq, exists_eq_left']
  constructor
  · rintro ⟨inside, hinside, rfl⟩
    exact ⟨rfl, hinside⟩
  · rintro ⟨rfl, hinside⟩
    exact ⟨pos.slot, hinside, rfl⟩

theorem bag_ne_of_mem_bagSlots (hmem : pos ∈ player.bagSlots data other) :
    pos.bag ≠ INVENTORY_SLOT_BAG_0 := by
  obtain ⟨rfl, pBag, hbag, -⟩ := mem_bagSlots_iff.mp hmem
  exact ne_inventory_of_bag hbag

theorem acceptsItem_own (hbag : pos.bag = INVENTORY_SLOT_BAG_0) :
    player.acceptsItem data (newRequest pos.bag pos.slot pProto) pos = true ↔
      (KEYRING_SLOT_START ≤ pos.slot → pos.slot < KEYRING_SLOT_END → Player.isKey pProto = true) ∧
      (CURRENCYTOKEN_SLOT_START ≤ pos.slot → pos.slot < CURRENCYTOKEN_SLOT_END →
        pProto.IsCurrencyToken = true) ∧
      ¬(BUYBACK_SLOT_START ≤ pos.slot ∧ pos.slot < BUYBACK_SLOT_END) ∧
      pos.slot < PLAYER_SLOT_END := by
  have hsize : KEYRING_SLOT_START + GetMaxKeyringSize = KEYRING_SLOT_END := by decide
  rw [Player.acceptsItem, if_pos hbag, hsize, Player.isKey]
  simp only [Bool.and_eq_true, Bool.not_eq_true', Bool.and_eq_false_iff, Bool.or_eq_false_iff,
    decide_eq_false_iff_not, decide_eq_true_eq, Bool.not_eq_false', ← not_lt, not_not, ne_eq]
  tauto

theorem acceptsItem_bag (hbag : pos.bag ≠ INVENTORY_SLOT_BAG_0) :
    player.acceptsItem data (newRequest pos.bag pos.slot pProto) pos = true ↔
      player.bagTakes data pProto pos.bag = true ∧ pos ∈ player.bagSlots data pos.bag := by
  rw [Player.acceptsItem, if_neg hbag, Player.bagTakes, mem_bagSlots_iff]
  rcases hfound : player.GetBagByPos data pos.bag with _ | pBag
  · simp
  cases hproto : data.GetTemplate pBag with
  | none => simp [hproto]
  | some pBagProto =>
    simp [hproto, GameData.GetBagSize, and_comm]

theorem bagFamily_ne_zero (htakes : player.bagTakes data pProto other = true)
    (hplain : player.wearsPlainBag data other = false) : pProto.BagFamily ≠ 0 := by
  intro hfamily
  rw [Player.wearsPlainBag] at hplain
  obtain ⟨pBag, hfound, htakes⟩ := (Option.any_eq_true _ _).mp htakes
  obtain ⟨pBagProto, hproto, htakes⟩ := (Option.any_eq_true _ _).mp htakes
  rw [hfound, any_some, hproto, any_some] at hplain
  rw [ItemCanGoIntoBag, hplain, hfamily] at htakes
  simp at htakes

/-! ## The searches that there are -/

/-- The search is one of those that `CanStoreItem` makes. -/
def Search.Made (bag slot : ℕ) (pProto : ItemTemplate) : Search → Prop
  | .specificSlot => bag ≠ NULL_BAG ∧ slot ≠ NULL_SLOT
  | .inventorySlots first last true =>
    pProto.Stackable ≠ 1 ∧ (first = KEYRING_SLOT_START ∧ last = CURRENCYTOKEN_SLOT_END ∨
        first = INVENTORY_SLOT_ITEM_START ∧ last = INVENTORY_SLOT_ITEM_END)
  | .inventorySlots first last false =>
    first = INVENTORY_SLOT_ITEM_START ∧ last = INVENTORY_SLOT_ITEM_END ∨
      first = KEYRING_SLOT_START ∧ last = KEYRING_SLOT_END ∧ Player.isKey pProto = true ∨
      first = CURRENCYTOKEN_SLOT_START ∧ last = CURRENCYTOKEN_SLOT_END ∧
        (Player.isKey pProto = true ∧ bag = INVENTORY_SLOT_BAG_0 ∨
          Player.isKey pProto = false ∧ pProto.IsCurrencyToken = true)
  | .specificBag merge =>
    bag ≠ NULL_BAG ∧ bag ≠ INVENTORY_SLOT_BAG_0 ∧ (merge = true → pProto.Stackable ≠ 1)
  | .bag other merge non_specialized =>
    (INVENTORY_SLOT_BAG_START ≤ other ∧ other < INVENTORY_SLOT_BAG_END) ∧
      (merge = true → pProto.Stackable ≠ 1) ∧ (non_specialized = false → pProto.BagFamily ≠ 0)
  | .notEmptyBag => True

theorem mem_bagSearches {merge' kind kind' : Bool} :
    Search.bag other merge kind ∈ Player.bagSearches first last merge' kind' ↔
      (first ≤ other ∧ other < last) ∧ merge = merge' ∧ kind = kind' := by
  rw [Player.bagSearches, List.mem_map]
  constructor
  · rintro ⟨found, hfound, heq⟩
    cases heq
    rw [mem_range'_1] at hfound
    exact ⟨by omega, rfl, rfl⟩
  · rintro ⟨hrange, rfl, rfl⟩
    exact ⟨other, mem_range'_1.mpr (by omega), rfl⟩

theorem not_mem_bagSearches {kind : Bool} (hsearch : ∀ other, search ≠ .bag other merge kind) :
    search ∉ Player.bagSearches first last merge kind := by
  rw [Player.bagSearches, List.mem_map]
  rintro ⟨other, -, heq⟩
  exact hsearch other heq.symm

theorem mem_ite_list {α : Type*} {value : α} {c : Prop} [Decidable c] {yes no : List α} :
    (value ∈ if c then yes else no) ↔ c ∧ value ∈ yes ∨ ¬c ∧ value ∈ no := by
  split <;> simp [*]

theorem mem_storeSearches :
    search ∈ Player.storeSearches bag slot pProto ↔ search.Made bag slot pProto := by
  have htoken : pProto.IsCurrencyToken = true → pProto.BagFamily ≠ 0 := by
    intro htoken hfamily
    rw [ItemTemplate.IsCurrencyToken, hfamily] at htoken
    exact absurd htoken (by decide)
  have hsize : KEYRING_SLOT_START + GetMaxKeyringSize = KEYRING_SLOT_END := by decide
  have hiff : pProto.BagFamily &&& BAG_FAMILY_MASK_KEYS ≠ 0 ↔ Player.isKey pProto = true := by
    rw [Player.isKey, decide_eq_true_eq]
  rw [Player.storeSearches, Player.storeInBagSearches, hsize]
  have hown : bag = INVENTORY_SLOT_BAG_0 → bag ≠ NULL_BAG := by
    rintro rfl
    decide
  cases search with
  | specificSlot =>
    simp only [mem_append, mem_ite_list, mem_cons, not_mem_nil, Search.Made,
      not_mem_bagSearches, reduceCtorEq, ne_eq, not_false_iff, implies_true, and_false,
      or_false, and_true]
  | notEmptyBag =>
    simp only [mem_append, mem_ite_list, mem_cons, not_mem_nil, Search.Made,
      not_mem_bagSearches, reduceCtorEq, ne_eq, not_false_iff, implies_true, and_false,
      or_false, or_true]
  | specificBag merge =>
    simp only [mem_append, mem_ite_list, mem_cons, not_mem_nil, Search.Made,
      not_mem_bagSearches, reduceCtorEq, ne_eq, not_false_iff, implies_true, and_false,
      or_false, false_or, Search.specificBag.injEq]
    cases merge <;> simp
  | inventorySlots first last merge =>
    simp only [mem_append, mem_ite_list, mem_cons, not_mem_nil,
      not_mem_bagSearches, reduceCtorEq, ne_eq, not_false_iff, implies_true, and_false,
      or_false, false_or, Search.inventorySlots.injEq]
    cases merge with
    | true =>
      simp only [Search.Made, reduceCtorEq, and_true, and_false, or_false]
      grind
    | false =>
      simp only [Search.Made, reduceCtorEq, and_true, and_false, or_false, false_or]
      cases hfamily : Player.isKey pProto with
      | true =>
        grind
      | false =>
        grind
  | bag other merge kind =>
    simp only [mem_append, mem_ite_list, mem_cons, not_mem_nil, Search.Made,
      mem_bagSearches, reduceCtorEq, ne_eq, and_false, or_false, false_or]
    cases merge <;> cases kind <;> simp [and_comm, and_left_comm]

theorem acceptsRequest_iff : player.acceptsRequest data bag slot pProto = true ↔
      ∀ search ∈ Player.storeSearches bag slot pProto,
        search.Accepted data player bag slot pProto := by
  rw [Player.acceptsRequest]
  simp only [Bool.and_eq_true, Bool.or_eq_true, decide_eq_true_eq]
  constructor
  · rintro ⟨hslot, hbag⟩ search hsearch
    rw [mem_storeSearches] at hsearch
    cases search with
    | specificSlot => exact hslot.resolve_left (not_or.mpr hsearch)
    | specificBag merge => exact hbag.resolve_left (not_or.mpr ⟨hsearch.1, hsearch.2.1⟩)
    | _ => trivial
  · intro hacc
    constructor
    · by_contra hslot
      simp only [not_or] at hslot
      exact hslot.2 (hacc .specificSlot (mem_storeSearches.mpr hslot.1))
    · by_contra hbag
      simp only [not_or] at hbag
      have hmade : (Search.specificBag false).Made bag slot pProto := ⟨hbag.1.1, hbag.1.2, nofun⟩
      exact hbag.2 (hacc _ (mem_storeSearches.mpr hmade))

theorem asked_iff : Player.asked bag slot pos = true ↔
      (bag ≠ NULL_BAG ∧ slot ≠ NULL_SLOT) ∧ pos = ⟨bag, slot⟩ := by
  simp [Player.asked]

theorem overlooked_stack {pItem2 : Item} (hitem : player.GetItemByPos data pos = some pItem2) :
    player.overlooked data bag slot pProto pos = true ↔ ¬Player.asked bag slot pos = true ∧
        (pos.bag ≠ INVENTORY_SLOT_BAG_0 ∧ pos.slot = slot ∨ pProto.Stackable = 1 ∨
          pos.bag ≠ INVENTORY_SLOT_BAG_0 ∧ ¬player.bagTakes data pProto pos.bag = true) := by
  simp [Player.overlooked, hitem]

theorem overlooked_empty (hitem : player.GetItemByPos data pos = none) :
    player.overlooked data bag slot pProto pos = true ↔ ¬Player.asked bag slot pos = true ∧
        (pos.bag ≠ INVENTORY_SLOT_BAG_0 ∧ pos.slot = slot ∨
          ((Player.isKey pProto = true ∧ bag ≠ INVENTORY_SLOT_BAG_0) ∧
            pos.bag = INVENTORY_SLOT_BAG_0) ∧ CURRENCYTOKEN_SLOT_START ≤ pos.slot) := by
  simp [Player.overlooked, hitem]

theorem misplaced_iff : player.misplaced data bag pProto pos = true ↔
      (Player.isKey pProto = true ∧ pProto.IsCurrencyToken = false) ∧
        bag = INVENTORY_SLOT_BAG_0 ∧ player.GetItemByPos data pos = none ∧
          pos ∈ Player.ownSlots CURRENCYTOKEN_SLOT_START CURRENCYTOKEN_SLOT_END := by
  rw [mem_ownSlots_iff]
  simp only [Player.misplaced, Bool.and_eq_true, Bool.not_eq_true', decide_eq_true_eq,
    isNone_iff_eq_none]
  tauto

theorem not_admissible_of_misplaced (hmisplaced : player.misplaced data bag pProto pos = true) :
    player.admissible data pProto pos = false := by
  obtain ⟨⟨-, htoken⟩, -, hempty, hpos⟩ := misplaced_iff.mp hmisplaced
  obtain ⟨hbag, hfirst, hlast⟩ := mem_ownSlots_iff.mp hpos
  rw [admissible_empty hempty, ← Bool.not_eq_true, acceptsItem_own hbag]
  intro hacc
  exact Bool.false_ne_true (htoken.symm.trans (hacc.2.1 hfirst hlast))

def Searched (data : GameData) (player : Player) (bag slot : ℕ) (pProto : ItemTemplate)
    (pos : ItemPos) : Prop :=
  pos ∈ player.searchableSlots data bag slot ∧
    (player.admissible data pProto pos && !player.overlooked data bag slot pProto pos ||
      player.misplaced data bag pProto pos) = true

theorem Searched.of_admissible (hpos : pos ∈ player.searchableSlots data bag slot)
    (hgood : player.admissible data pProto pos = true)
    (hseen : ¬player.overlooked data bag slot pProto pos = true) :
    Searched data player bag slot pProto pos := by
  refine ⟨hpos, ?_⟩
  rw [hgood, Bool.eq_false_of_not_eq_true hseen]
  rfl

theorem mem_searchableSlots_own (hpos : pos ∈ Player.ownSlots first last)
    (hrange : 23 ≤ first ∧ last ≤ 39 ∨ 86 ≤ first ∧ last ≤ 150) :
    pos ∈ player.searchableSlots data bag slot := by
  obtain ⟨hbag, hfirst, hlast⟩ := mem_ownSlots_iff.mp hpos
  rw [Player.searchableSlots, Player.inventorySlots]
  simp only [mem_append, mem_ownSlots_iff]
  unfold INVENTORY_SLOT_ITEM_START INVENTORY_SLOT_ITEM_END KEYRING_SLOT_START
    CURRENCYTOKEN_SLOT_END
  omega

theorem mem_searchableSlots_bag (hpos : pos ∈ player.bagSlots data other)
    (hother : INVENTORY_SLOT_BAG_START ≤ other ∧ other < INVENTORY_SLOT_BAG_END) :
    pos ∈ player.searchableSlots data bag slot := by
  apply mem_append_left
  apply mem_append_left
  apply mem_append_right
  refine mem_flatMap.mpr ⟨other, ?_, hpos⟩
  rw [mem_range'_1]
  omega

theorem Searched.of_stack (hpos : pos ∈ player.searchableSlots data bag slot)
    (hroom : player.offersRoom data pProto true pos = true) (hstack : pProto.Stackable ≠ 1)
    (hbag : pos.bag ≠ INVENTORY_SLOT_BAG_0 →
      pos.slot ≠ slot ∧ player.bagTakes data pProto pos.bag = true) :
    Searched data player bag slot pProto pos := by
  rw [Player.offersRoom] at hroom
  rcases hitem : player.GetItemByPos data pos with _ | pItem2
  · rw [hitem] at hroom
    cases hroom
  rw [hitem] at hroom
  apply Searched.of_admissible hpos
  · rwa [admissible_stack hitem]
  · rw [overlooked_stack hitem]
    rintro ⟨-, ⟨hother, hsame⟩ | hone | ⟨hother, htakes⟩⟩
    · exact (hbag hother).1 hsame
    · exact hstack hone
    · exact htakes (hbag hother).2

theorem item_of_offersRoom (hroom : player.offersRoom data pProto false pos = true) :
    player.GetItemByPos data pos = none := by
  rw [Player.offersRoom] at hroom
  cases hitem : player.GetItemByPos data pos with
  | none => rfl
  | some pItem2 =>
    rw [hitem] at hroom
    cases hroom

theorem Searched.of_bag (hpos : pos ∈ player.searchableSlots data bag slot)
    (hbag : pos ∈ player.bagSlots data other) (htakes : player.bagTakes data pProto other = true)
    (hslot : pos.slot ≠ slot) (hstack : merge = true → pProto.Stackable ≠ 1)
    (hroom : player.offersRoom data pProto merge pos = true) :
    Searched data player bag slot pProto pos := by
  have hother := (mem_bagSlots_iff.mp hbag).1
  have hown := bag_ne_of_mem_bagSlots hbag
  rw [← hother] at htakes hbag
  cases merge with
  | true => exact .of_stack hpos hroom (hstack rfl) fun _ => ⟨hslot, htakes⟩
  | false =>
    have hitem := item_of_offersRoom hroom
    apply Searched.of_admissible hpos
    · rw [admissible_empty hitem, acceptsItem_bag hown]
      exact ⟨htakes, hbag⟩
    · rw [overlooked_empty hitem]
      rintro ⟨-, ⟨-, hsame⟩ | ⟨⟨-, hnot⟩, -⟩⟩
      · exact hslot hsame
      · exact hown hnot

theorem admissible_own (hpos : pos ∈ Player.ownSlots first last)
    (hempty : player.GetItemByPos data pos = none) :
    (first = INVENTORY_SLOT_ITEM_START → last = INVENTORY_SLOT_ITEM_END →
      player.admissible data pProto pos = true) ∧
    (first = KEYRING_SLOT_START → last = KEYRING_SLOT_END →
      (player.admissible data pProto pos = true ↔ Player.isKey pProto = true)) ∧
    (first = CURRENCYTOKEN_SLOT_START → last = CURRENCYTOKEN_SLOT_END →
      (player.admissible data pProto pos = true ↔ pProto.IsCurrencyToken = true)) := by
  obtain ⟨hbag, hfirst, hlast⟩ := mem_ownSlots_iff.mp hpos
  rw [admissible_empty hempty, acceptsItem_own hbag]
  unfold INVENTORY_SLOT_ITEM_START INVENTORY_SLOT_ITEM_END KEYRING_SLOT_START KEYRING_SLOT_END
    CURRENCYTOKEN_SLOT_START CURRENCYTOKEN_SLOT_END BUYBACK_SLOT_START BUYBACK_SLOT_END
    PLAYER_SLOT_END
  refine ⟨?_, ?_, ?_⟩
  · rintro rfl rfl
    exact ⟨fun _ => by omega, fun _ => by omega, by omega, by omega⟩
  · rintro rfl rfl
    exact ⟨fun hacc => hacc.1 hfirst hlast,
      fun hkey => ⟨fun _ _ => hkey, fun _ => by omega, by omega, by omega⟩⟩
  · rintro rfl rfl
    exact ⟨fun hacc => hacc.2.1 hfirst hlast,
      fun htoken => ⟨fun _ => by omega, fun _ _ => htoken, by omega, by omega⟩⟩

theorem Searched.of_own (hmade : (Search.inventorySlots first last false).Made bag slot pProto)
    (hpos : pos ∈ Player.ownSlots first last)
    (hroom : player.offersRoom data pProto false pos = true) :
    Searched data player bag slot pProto pos := by
  have hempty := item_of_offersRoom hroom
  obtain ⟨hbackpack, hkeyring, hcurrency⟩ := @admissible_own data player pProto pos _ _ hpos hempty
  obtain ⟨hbag, hfirst, hlast⟩ := mem_ownSlots_iff.mp hpos
  -- such a slot is overlooked only if it is one for currency
  have hseen : (Player.isKey pProto = true → bag ≠ INVENTORY_SLOT_BAG_0 →
      last ≤ CURRENCYTOKEN_SLOT_START) →
      ¬player.overlooked data bag slot pProto pos = true := by
    intro hearly
    rw [overlooked_empty hempty]
    rintro ⟨-, ⟨hother, -⟩ | ⟨⟨⟨hkey, hasked⟩, -⟩, hlate⟩⟩
    · exact hother hbag
    · exact absurd (hlast.trans_le (hearly hkey hasked)) (not_lt.mpr hlate)
  rcases hmade with ⟨rfl, rfl⟩ | ⟨rfl, rfl, hkey⟩ | ⟨rfl, rfl, ⟨hkey, rfl⟩ | ⟨hkey, htoken⟩⟩
  · apply Searched.of_admissible (mem_searchableSlots_own hpos (by decide)) (hbackpack rfl rfl)
    exact hseen fun _ _ => by decide
  · apply Searched.of_admissible (mem_searchableSlots_own hpos (by decide))
    · exact (hkeyring rfl rfl).mpr hkey
    · exact hseen fun _ _ => by decide
  · cases htoken : pProto.IsCurrencyToken with
    | true =>
      apply Searched.of_admissible (mem_searchableSlots_own hpos (by decide))
      · exact (hcurrency rfl rfl).mpr htoken
      · exact hseen fun _ hasked => absurd rfl hasked
    | false =>
      refine ⟨mem_searchableSlots_own hpos (by decide), Bool.or_eq_true_iff.mpr (.inr ?_)⟩
      exact misplaced_iff.mpr ⟨⟨hkey, htoken⟩, rfl, hempty, hpos⟩
  · apply Searched.of_admissible (mem_searchableSlots_own hpos (by decide))
    · exact (hcurrency rfl rfl).mpr htoken
    · exact hseen fun hother => absurd (hkey.symm.trans hother) Bool.false_ne_true

theorem Searched.of_comesTo (hmade : search.Made bag slot pProto)
    (hcomes : search.ComesTo data player bag slot pProto pos) :
    Searched data player bag slot pProto pos := by
  cases search with
  | specificSlot =>
    obtain ⟨rfl, hgood⟩ := hcomes
    apply Searched.of_admissible (mem_append_right _ (mem_singleton_self _)) hgood
    have hasked : Player.asked bag slot ⟨bag, slot⟩ = true := asked_iff.mpr ⟨hmade, rfl⟩
    rw [Player.overlooked, hasked]
    exact Bool.false_ne_true
  | inventorySlots first last merge =>
    obtain ⟨hpos, -, hroom⟩ := hcomes
    cases merge with
    | true =>
      have hrange : 23 ≤ first ∧ last ≤ 39 ∨ 86 ≤ first ∧ last ≤ 150 := by
        rcases hmade.2 with ⟨rfl, rfl⟩ | ⟨rfl, rfl⟩
        · decide
        · decide
      apply Searched.of_stack (mem_searchableSlots_own hpos hrange) hroom hmade.1
      exact fun hother => absurd (mem_ownSlots hpos).1 hother
    | false => exact Searched.of_own hmade hpos hroom
  | specificBag merge =>
    obtain ⟨htakes, hbag, hslot, hroom⟩ := hcomes
    apply Searched.of_bag _ hbag htakes hslot hmade.2.2 hroom
    exact mem_append_left _ (mem_append_right _ hbag)
  | bag other merge non_specialized =>
    obtain ⟨⟨-, htakes, -⟩, hbag, hslot, hroom⟩ := hcomes
    exact Searched.of_bag (mem_searchableSlots_bag hbag hmade.1) hbag htakes hslot hmade.2.1
      hroom
  | notEmptyBag => exact absurd hcomes not_false

theorem getBagSize_le (pBag : Item) : data.GetBagSize pBag ≤ MAX_BAG_SIZE := by
  rw [GameData.GetBagSize]
  cases hproto : data.GetTemplate pBag with
  | none => exact Nat.zero_le _
  | some pBagProto => exact data.containerSlots _ _ hproto

theorem ne_null_of_bag {pBag : Item} (hbag : player.GetBagByPos data bag = some pBag) :
    bag ≠ NULL_BAG := by
  rintro rfl
  exact absurd (GetBagByPos_spec hbag).1 (by decide)

theorem slot_lt_of_mem_bagSlots (hmem : pos ∈ player.bagSlots data other) :
    pos.slot < NULL_SLOT := by
  obtain ⟨-, pBag, -, hslot⟩ := mem_bagSlots_iff.mp hmem
  exact (hslot.trans_le (getBagSize_le pBag)).trans (by decide)

theorem asked_of_admissible (hgood : player.admissible data pProto ⟨bag, slot⟩ = true) :
    bag ≠ NULL_BAG ∧ slot ≠ NULL_SLOT := by
  cases hitem : player.GetItemByPos data ⟨bag, slot⟩ with
  | none =>
    rw [admissible_empty hitem] at hgood
    by_cases hown : bag = INVENTORY_SLOT_BAG_0
    · have hslot := ((acceptsItem_own hown).mp hgood).2.2.2
      constructor
      · rw [hown]
        decide
      · exact (hslot.trans (by decide : PLAYER_SLOT_END < NULL_SLOT)).ne
    · obtain ⟨-, hmem⟩ := (acceptsItem_bag hown).mp hgood
      obtain ⟨-, pBag, hbag, -⟩ := mem_bagSlots_iff.mp hmem
      exact ⟨ne_null_of_bag hbag, (slot_lt_of_mem_bagSlots hmem).ne⟩
  | some pItem2 =>
    obtain ⟨place, hplace⟩ := isSome_iff_exists.mp (isSome_place_of_item hitem)
    rw [Player.place] at hplace
    split at hplace
    case isFalse =>
      split at hplace
      case h_2 => cases hplace
      rename_i pBag hbag
      obtain ⟨hslot, -⟩ := ite_none_right_eq_some.mp hplace
      exact ⟨ne_null_of_bag hbag, ((hslot.trans_le (getBagSize_le pBag)).trans (by decide)).ne⟩
    case isTrue hown =>
      obtain ⟨rfl, hslot⟩ : bag = INVENTORY_SLOT_BAG_0 ∧ _ := hown
      constructor
      · decide
      · rintro rfl
        exact absurd hslot (by decide : ¬(NULL_SLOT < BANK_SLOT_BAG_END ∨
          KEYRING_SLOT_START ≤ NULL_SLOT ∧ NULL_SLOT < CURRENCYTOKEN_SLOT_END))

theorem searchableSlots_cases (hpos : pos ∈ player.searchableSlots data bag slot)
    (hgood : player.admissible data pProto pos = true)
    (hasked : ¬Player.asked bag slot pos = true) :
    (pos ∈ Player.ownSlots INVENTORY_SLOT_ITEM_START INVENTORY_SLOT_ITEM_END ∨
      pos ∈ Player.ownSlots KEYRING_SLOT_START CURRENCYTOKEN_SLOT_END) ∨
    (pos ∈ player.bagSlots data pos.bag ∧ (pos.bag = bag ∨
        INVENTORY_SLOT_BAG_START ≤ pos.bag ∧ pos.bag < INVENTORY_SLOT_BAG_END)) := by
  rw [Player.searchableSlots, mem_append, mem_append, Player.inventorySlots,
    mem_append, mem_append] at hpos
  rcases hpos with ((hown | hworn) | hbag) | hsame
  · exact .inl hown
  · obtain ⟨other, hother, hmem⟩ := mem_flatMap.mp hworn
    obtain ⟨rfl, -⟩ := mem_bagSlots_iff.mp hmem
    rw [mem_range'_1] at hother
    exact .inr ⟨hmem, .inr (by omega)⟩
  · obtain ⟨rfl, -⟩ := mem_bagSlots_iff.mp hbag
    exact .inr ⟨hbag, .inl rfl⟩
  · rw [mem_singleton] at hsame
    rw [hsame] at hgood
    exact absurd (asked_iff.mpr ⟨asked_of_admissible hgood, hsame⟩) hasked

variable (data player) in
theorem exists_offersRoom (hgood : player.admissible data pProto pos = true) :
    ∃ merge, player.offersRoom data pProto merge pos = true ∧
      (merge = true ↔ player.GetItemByPos data pos ≠ none) := by
  cases hitem : player.GetItemByPos data pos with
  | none =>
    refine ⟨false, ?_, by simp⟩
    rw [Player.offersRoom, hitem]
    rfl
  | some pItem2 =>
    rw [admissible_stack hitem] at hgood
    refine ⟨true, ?_, by simp⟩
    rw [Player.offersRoom, hitem]
    exact hgood

theorem exists_ownSearch (hown : pos ∈ Player.ownSlots INVENTORY_SLOT_ITEM_START
      INVENTORY_SLOT_ITEM_END ∨ pos ∈ Player.ownSlots KEYRING_SLOT_START CURRENCYTOKEN_SLOT_END)
    (hgood : player.admissible data pProto pos = true)
    (hseen : ¬player.overlooked data bag slot pProto pos = true)
    (hasked : ¬Player.asked bag slot pos = true) :
    ∃ search : Search, search.Made bag slot pProto ∧
      search.ComesTo data player bag slot pProto pos := by
  have hbag : pos.bag = INVENTORY_SLOT_BAG_0 := hown.elim (fun h => (mem_ownSlots h).1)
    fun h => (mem_ownSlots h).1
  have hskip : ¬(bag = INVENTORY_SLOT_BAG_0 ∧ pos.slot = slot) := by
    rintro ⟨rfl, rfl⟩
    have hsame : pos = ⟨INVENTORY_SLOT_BAG_0, pos.slot⟩ := by rw [← hbag]
    rw [hsame] at hgood
    exact hasked (asked_iff.mpr ⟨asked_of_admissible hgood, hsame⟩)
  have hcomes : ∀ {first last : ℕ} {merge : Bool}, pos ∈ Player.ownSlots first last →
      player.offersRoom data pProto merge pos = true →
      (Search.inventorySlots first last merge).Made bag slot pProto →
      ∃ search : Search, search.Made bag slot pProto ∧
        search.ComesTo data player bag slot pProto pos :=
    fun hpos hroom hmade => ⟨_, hmade, hpos, hskip, hroom⟩
  obtain ⟨merge, hroom, hmerge⟩ := exists_offersRoom data player hgood
  cases merge with
  | true =>
    obtain ⟨pItem2, hitem⟩ := ne_none_iff_exists'.mp (hmerge.mp rfl)
    rw [overlooked_stack hitem] at hseen
    have hstack : pProto.Stackable ≠ 1 := fun hone => hseen ⟨hasked, .inr (.inl hone)⟩
    rcases hown with hpos | hpos
    · exact hcomes hpos hroom ⟨hstack, .inr ⟨rfl, rfl⟩⟩
    · exact hcomes hpos hroom ⟨hstack, .inl ⟨rfl, rfl⟩⟩
  | false =>
    have hempty := item_of_offersRoom hroom
    rcases hown with hpos | hpos
    · exact hcomes hpos hroom (Or.inl ⟨rfl, rfl⟩)
    obtain ⟨-, hfirst, hlast⟩ := mem_ownSlots_iff.mp hpos
    rcases Nat.lt_or_ge pos.slot CURRENCYTOKEN_SLOT_START with hkeyring | hcurrency
    · have hkeys : pos ∈ Player.ownSlots KEYRING_SLOT_START KEYRING_SLOT_END :=
        mem_ownSlots_iff.mpr ⟨hbag, hfirst, hkeyring⟩
      have hkey := ((admissible_own hkeys hempty).2.1 rfl rfl).mp hgood
      exact hcomes hkeys hroom (Or.inr (Or.inl ⟨rfl, rfl, hkey⟩))
    have htokens : pos ∈ Player.ownSlots CURRENCYTOKEN_SLOT_START CURRENCYTOKEN_SLOT_END :=
      mem_ownSlots_iff.mpr ⟨hbag, hcurrency, hlast⟩
    have htoken := ((admissible_own htokens hempty).2.2 rfl rfl).mp hgood
    refine hcomes htokens hroom (Or.inr (Or.inr ⟨rfl, rfl, ?_⟩))
    rcases hkey : Player.isKey pProto with _ | _
    · exact .inr ⟨rfl, htoken⟩
    refine .inl ⟨rfl, ?_⟩
    by_contra hother
    rw [overlooked_empty hempty] at hseen
    exact hseen ⟨hasked, .inr ⟨⟨⟨hkey, hother⟩, hbag⟩, hcurrency⟩⟩

theorem exists_bagSearch (hmem : pos ∈ player.bagSlots data pos.bag)
    (hbag : pos.bag = bag ∨ INVENTORY_SLOT_BAG_START ≤ pos.bag ∧ pos.bag < INVENTORY_SLOT_BAG_END)
    (hgood : player.admissible data pProto pos = true)
    (hseen : ¬player.overlooked data bag slot pProto pos = true)
    (hasked : ¬Player.asked bag slot pos = true) :
    ∃ search : Search, search.Made bag slot pProto ∧
      search.ComesTo data player bag slot pProto pos := by
  have hown := bag_ne_of_mem_bagSlots hmem
  obtain ⟨merge, hroom, hmerge⟩ := exists_offersRoom data player hgood
  have hfacts : pos.slot ≠ slot ∧ player.bagTakes data pProto pos.bag = true ∧
      (merge = true → pProto.Stackable ≠ 1) := by
    cases hitem : player.GetItemByPos data pos with
    | none =>
      rw [overlooked_empty hitem] at hseen
      rw [admissible_empty hitem, acceptsItem_bag hown] at hgood
      exact ⟨fun hsame => hseen ⟨hasked, .inl ⟨hown, hsame⟩⟩, hgood.1,
        fun hstack => absurd hitem (hmerge.mp hstack)⟩
    | some pItem2 =>
      rw [overlooked_stack hitem] at hseen
      refine ⟨fun hsame => hseen ⟨hasked, .inl ⟨hown, hsame⟩⟩, ?_,
        fun _ hone => hseen ⟨hasked, .inr (.inl hone)⟩⟩
      by_contra htakes
      exact hseen ⟨hasked, .inr (.inr ⟨hown, htakes⟩)⟩
  obtain ⟨hslot, htakes, hstack⟩ := hfacts
  by_cases hsame : pos.bag = bag
  · obtain ⟨-, pBag, hfound, -⟩ := mem_bagSlots_iff.mp hmem
    rw [hsame] at hown htakes hmem hfound
    exact ⟨.specificBag merge, ⟨ne_null_of_bag hfound, hown, hstack⟩, htakes, hmem, hslot, hroom⟩
  · exact ⟨.bag pos.bag merge (player.wearsPlainBag data pos.bag),
      ⟨hbag.resolve_left hsame, hstack, bagFamily_ne_zero htakes⟩, ⟨hsame, htakes, rfl⟩, hmem,
      hslot, hroom⟩

section

variable (hacc : player.acceptsRequest data bag slot pProto = true)
include hacc

theorem comesTo_of_misplaced (hmisplaced : player.misplaced data bag pProto pos = true) :
    (Search.inventorySlots CURRENCYTOKEN_SLOT_START CURRENCYTOKEN_SLOT_END false).ComesTo data
      player bag slot pProto pos := by
  obtain ⟨-, rfl, hempty, hown⟩ := misplaced_iff.mp hmisplaced
  have hroom : player.offersRoom data pProto false pos = true := by
    rw [Player.offersRoom, hempty]
    rfl
  refine ⟨hown, ?_, hroom⟩
  rintro ⟨-, rfl⟩
  obtain ⟨hbag, -, hlast⟩ := mem_ownSlots_iff.mp hown
  have hsame : pos = ⟨INVENTORY_SLOT_BAG_0, pos.slot⟩ := by rw [← hbag]
  have hslot : pos.slot ≠ NULL_SLOT := (hlast.trans (by decide)).ne
  have haccepted := acceptsRequest_iff.mp hacc .specificSlot
    (mem_storeSearches.mpr ⟨by decide, hslot⟩)
  rw [Search.Accepted, ← hsame, not_admissible_of_misplaced hmisplaced] at haccepted
  exact Bool.false_ne_true haccepted

theorem Searched.exists_search (hsearched : Searched data player bag slot pProto pos) :
    ∃ search : Search, search.Made bag slot pProto ∧
      search.ComesTo data player bag slot pProto pos := by
  obtain ⟨hpos, hkind⟩ := hsearched
  rw [Bool.or_eq_true_iff, Bool.and_eq_true_iff, Bool.not_eq_true'] at hkind
  rcases hkind with ⟨hgood, hseen⟩ | hmisplaced
  · by_cases hasked : Player.asked bag slot pos = true
    · obtain ⟨hrequest, rfl⟩ := asked_iff.mp hasked
      exact ⟨.specificSlot, hrequest, rfl, hgood⟩
    · rcases searchableSlots_cases hpos hgood hasked with hown | ⟨hmem, hbag⟩
      · exact exists_ownSearch hown hgood (ne_true_of_eq_false hseen) hasked
      · exact exists_bagSearch hmem hbag hgood (ne_true_of_eq_false hseen) hasked
  · have hkey := (misplaced_iff.mp hmisplaced).1.1
    have hbag := (misplaced_iff.mp hmisplaced).2.1
    exact ⟨.inventorySlots CURRENCYTOKEN_SLOT_START CURRENCYTOKEN_SLOT_END false,
      Or.inr (Or.inr ⟨rfl, rfl, .inl ⟨hkey, hbag⟩⟩), comesTo_of_misplaced hacc hmisplaced⟩

theorem capacity_storeSearches : capacity (player.offeredSlots data (newRequest bag slot pProto)
      (Player.storeSearches bag slot pProto)) [] = player.searchedRoom data bag slot pProto := by
  apply capacity_offeredSlots (acceptsRequest_iff.mp hacc)
  intro pos
  rw [Finset.mem_filter, List.mem_toFinset]
  constructor
  · intro hsearched
    obtain ⟨search, hmade, hcomes⟩ := Searched.exists_search hacc hsearched
    exact ⟨search, mem_storeSearches.mpr hmade, hcomes⟩
  · rintro ⟨search, hsearch, hcomes⟩
    exact Searched.of_comesTo (mem_storeSearches.mp hsearch) hcomes

end

end AzerothCore.Storage

/-! ## Is the inventory really full? -/

namespace AzerothCore.Storage

open List
open Pouring

def ItemTemplate.Unlimited (pProto : ItemTemplate) : Prop :=
  pProto.MaxCount ≤ 0 ∧ pProto.ItemLimitCategory = 0 ∨ pProto.MaxCount = 2147483647

namespace Player

variable (data : GameData) (player : Player) (slot : ℕ) (pProto : ItemTemplate)

def beforeCurrency (pos : ItemPos) : Bool :=
  asked INVENTORY_SLOT_BAG_0 slot pos ||
    match player.GetItemByPos data pos with
    | some _ => pProto.Stackable ≠ 1 && player.admissible data pProto pos
    | none => KEYRING_SLOT_START ≤ pos.slot && pos.slot < KEYRING_SLOT_END

def roomBeforeCurrency : ℕ :=
  ∑ pos ∈ (ownSlots INVENTORY_SLOT_ITEM_START INVENTORY_SLOT_ITEM_END ++
      ownSlots KEYRING_SLOT_START CURRENCYTOKEN_SLOT_END ++
      [(⟨INVENTORY_SLOT_BAG_0, slot⟩ : ItemPos)]).toFinset.filter fun pos =>
        player.beforeCurrency data slot pProto pos,
    player.room data pProto pos

end Player

/-- `CanStoreItem` is exact about room: each of its positions is accepted on its own, and if
the inventory is full, there is less room in it than the count. -/
def ExactAboutRoom (data : GameData) (player : Player) (bag slot entry count : ℕ) : Prop :=
  (∀ pProto, data.GetItemTemplate entry = some pProto →
    ∀ pos ∈ places (player.CanStoreItem data bag slot [] entry count none false).dest,
      player.admissible data pProto pos = true) ∧
  ∀ pProto, data.GetItemTemplate entry = some pProto →
    (player.CanStoreItem data bag slot [] entry count none false).result =
      .EQUIP_ERR_INVENTORY_FULL → player.totalRoom data pProto < count

/-- A key goes into a slot for currency: a slot of the player himself is asked for, and there
is not enough room before the free slots for currency. -/
def SpillsKeys (data : GameData) (player : Player) (bag slot count : ℕ) (pProto : ItemTemplate) :
    Prop :=
  player.acceptsRequest data bag slot pProto = true ∧
    (∃ pos ∈ Player.ownSlots CURRENCYTOKEN_SLOT_START CURRENCYTOKEN_SLOT_END,
      player.misplaced data bag pProto pos = true) ∧
    player.roomBeforeCurrency data slot pProto < count

def OverlooksRoom (data : GameData) (player : Player) (bag slot count : ℕ)
    (pProto : ItemTemplate) : Prop :=
  player.acceptsRequest data bag slot pProto = true ∧
    player.searchedRoom data bag slot pProto < count ∧ count ≤ player.totalRoom data pProto

variable {data : GameData} {player : Player} {bag slot count entry : ℕ} {pProto : ItemTemplate}
  {pos : ItemPos}

section

variable (hproto : data.GetItemTemplate entry = some pProto) (hunlimited : pProto.Unlimited) (hcount : count < 2 ^ 32)
include hproto hunlimited hcount

theorem CanStoreItem_eq : player.CanStoreItem data bag slot [] entry count none false =
      player.runSearches data (newRequest bag slot pProto) .EQUIP_ERR_INVENTORY_FULL 0
        (Player.storeSearches bag slot pProto) ⟨[], count⟩ := by
  have hsimilar : player.CanTakeMoreSimilarItems data entry count none = (.EQUIP_ERR_OK, 0) := by
    rw [Player.CanTakeMoreSimilarItems, hproto]
    exact if_pos hunlimited
  have hleft : toUint32 ((count : ℤ) - (0 : ℕ)) = count := count_sub_zero hcount
  rw [Player.CanStoreItem, hproto]
  dsimp only [Option.bind_none]
  rw [hsimilar, if_neg fun hlimit => hlimit.1 rfl, hleft]

theorem CanStoreItem_full_iff :
    (player.CanStoreItem data bag slot [] entry count none false).result =
        .EQUIP_ERR_INVENTORY_FULL ↔
      player.acceptsRequest data bag slot pProto = true ∧
        player.searchedRoom data bag slot pProto < count := by
  rw [CanStoreItem_eq hproto hunlimited hcount]
  by_cases hzero : count = 0
  · have hmade : (Search.inventorySlots INVENTORY_SLOT_ITEM_START INVENTORY_SLOT_ITEM_END
        false).Made bag slot pProto := Or.inl ⟨rfl, rfl⟩
    refine iff_of_false ?_ fun hboth => ?_
    · exact result_runSearches_of_zero hzero
        ⟨_, mem_storeSearches.mpr hmade, find_inventorySlots_ne _ _ _⟩
    · exact absurd (hzero ▸ hboth.2) (Nat.not_lt_zero _)
  · rw [result_runSearches hzero, ← acceptsRequest_iff]
    apply and_congr_right
    intro hacc
    have hplaces : places (⟨[], count⟩ : Poured ItemPos).taken = [] := rfl
    rw [left_pour, hplaces, capacity_storeSearches hacc]
    dsimp only
    omega

end

def beforeSearches (slot : ℕ) (pProto : ItemTemplate) : List Search :=
  (if slot ≠ NULL_SLOT then [.specificSlot] else []) ++
  (if pProto.Stackable ≠ 1 then
    [.inventorySlots KEYRING_SLOT_START CURRENCYTOKEN_SLOT_END true,
      .inventorySlots INVENTORY_SLOT_ITEM_START INVENTORY_SLOT_ITEM_END true]
  else []) ++
  [.inventorySlots KEYRING_SLOT_START KEYRING_SLOT_END false]

theorem storeSearches_key (hkey : Player.isKey pProto = true) :
    ∃ rest, Player.storeSearches INVENTORY_SLOT_BAG_0 slot pProto = beforeSearches slot pProto ++
        .inventorySlots CURRENCYTOKEN_SLOT_START CURRENCYTOKEN_SLOT_END false :: rest := by
  have hnull : INVENTORY_SLOT_BAG_0 ≠ NULL_BAG := by decide
  have hsize : KEYRING_SLOT_START + GetMaxKeyringSize = KEYRING_SLOT_END := by decide
  have hmask : pProto.BagFamily &&& BAG_FAMILY_MASK_KEYS ≠ 0 := of_decide_eq_true hkey
  rw [Player.storeSearches, Player.storeInBagSearches, beforeSearches, if_pos hnull, if_pos rfl,
    hsize, if_pos hmask]
  simp only [hnull, ne_eq, not_false_iff, true_and, append_assoc, cons_append, nil_append]
  exact ⟨_, rfl⟩

theorem mem_beforeSearches {search : Search} : search ∈ beforeSearches slot pProto ↔
      slot ≠ NULL_SLOT ∧ search = .specificSlot ∨ (pProto.Stackable ≠ 1 ∧
          (search = .inventorySlots KEYRING_SLOT_START CURRENCYTOKEN_SLOT_END true ∨
            search = .inventorySlots INVENTORY_SLOT_ITEM_START INVENTORY_SLOT_ITEM_END true)) ∨
        search = .inventorySlots KEYRING_SLOT_START KEYRING_SLOT_END false := by
  rw [beforeSearches]
  simp only [mem_append, mem_ite_list, mem_cons, not_mem_nil, or_false, and_false, or_assoc]

theorem accepted_beforeSearches (hkey : Player.isKey pProto = true)
    (hacc : player.acceptsRequest data INVENTORY_SLOT_BAG_0 slot pProto = true) :
    ∀ search ∈ beforeSearches slot pProto,
      search.Accepted data player INVENTORY_SLOT_BAG_0 slot pProto := by
  intro search hsearch
  obtain ⟨rest, heq⟩ := @storeSearches_key slot pProto hkey
  apply acceptsRequest_iff.mp hacc
  rw [heq]
  exact mem_append_left _ hsearch

theorem mem_beforeSlots : pos ∈ Player.ownSlots INVENTORY_SLOT_ITEM_START INVENTORY_SLOT_ITEM_END ++
        Player.ownSlots KEYRING_SLOT_START CURRENCYTOKEN_SLOT_END ++
        [⟨INVENTORY_SLOT_BAG_0, slot⟩] ↔
      (pos ∈ Player.ownSlots INVENTORY_SLOT_ITEM_START INVENTORY_SLOT_ITEM_END ∨
        pos ∈ Player.ownSlots KEYRING_SLOT_START CURRENCYTOKEN_SLOT_END) ∨
          pos = ⟨INVENTORY_SLOT_BAG_0, slot⟩ := by
  rw [mem_append, mem_append, mem_singleton]

section

variable (hacc : ∀ search ∈ beforeSearches slot pProto, search.Accepted data player INVENTORY_SLOT_BAG_0 slot pProto)
include hacc

theorem beforeCurrency_iff :
    (pos ∈ Player.ownSlots INVENTORY_SLOT_ITEM_START INVENTORY_SLOT_ITEM_END ++
        Player.ownSlots KEYRING_SLOT_START CURRENCYTOKEN_SLOT_END ++
        [⟨INVENTORY_SLOT_BAG_0, slot⟩] ∧
      player.beforeCurrency data slot pProto pos = true) ↔
    ∃ search ∈ beforeSearches slot pProto,
      search.ComesTo data player INVENTORY_SLOT_BAG_0 slot pProto pos := by
  rw [mem_beforeSlots]
  constructor
  · rintro ⟨hpos, hbefore⟩
    by_cases hasked : Player.asked INVENTORY_SLOT_BAG_0 slot pos = true
    · obtain ⟨⟨-, hslot⟩, hsame⟩ := asked_iff.mp hasked
      have hmem : Search.specificSlot ∈ beforeSearches slot pProto :=
        mem_beforeSearches.mpr (.inl ⟨hslot, rfl⟩)
      have hgood := hacc _ hmem
      rw [Search.Accepted, ← hsame] at hgood
      exact ⟨.specificSlot, hmem, hsame, hgood⟩
    rw [Player.beforeCurrency, Bool.eq_false_of_not_eq_true hasked, Bool.false_or] at hbefore
    have hbag : pos.bag = INVENTORY_SLOT_BAG_0 := by
      rcases hpos with (hown | hown) | hsame
      · exact (mem_ownSlots hown).1
      · exact (mem_ownSlots hown).1
      · rw [hsame]
    -- the position that was asked for is tried before
    have hskip : pos.slot < NULL_SLOT →
        ¬(INVENTORY_SLOT_BAG_0 = INVENTORY_SLOT_BAG_0 ∧ pos.slot = slot) := by
      rintro hlt ⟨-, rfl⟩
      have hsame : pos = ⟨INVENTORY_SLOT_BAG_0, pos.slot⟩ := by rw [← hbag]
      exact hasked (asked_iff.mpr ⟨⟨by decide, hlt.ne⟩, hsame⟩)
    cases hitem : player.GetItemByPos data pos with
    | none =>
      rw [hitem] at hbefore
      obtain ⟨hfirst, hlast⟩ := Bool.and_eq_true_iff.mp hbefore
      rw [decide_eq_true_eq] at hfirst hlast
      refine ⟨_, mem_beforeSearches.mpr (.inr (.inr rfl)),
        mem_ownSlots_iff.mpr ⟨hbag, hfirst, hlast⟩, hskip (hlast.trans (by decide)), ?_⟩
      rw [Player.offersRoom, hitem]
      rfl
    | some pItem2 =>
      rw [hitem] at hbefore
      obtain ⟨hstack, hgood⟩ := Bool.and_eq_true_iff.mp hbefore
      rw [decide_eq_true_eq] at hstack
      have hroom : player.offersRoom data pProto true pos = true := by
        rw [admissible_stack hitem] at hgood
        rw [Player.offersRoom, hitem]
        exact hgood
      rcases hpos with (hown | hown) | hsame
      · have hlt := (mem_ownSlots hown).2.2.trans (by decide : _ < NULL_SLOT)
        exact ⟨_, mem_beforeSearches.mpr (.inr (.inl ⟨hstack, .inr rfl⟩)), hown, hskip hlt, hroom⟩
      · have hlt := (mem_ownSlots hown).2.2.trans (by decide : _ < NULL_SLOT)
        exact ⟨_, mem_beforeSearches.mpr (.inr (.inl ⟨hstack, .inl rfl⟩)), hown, hskip hlt, hroom⟩
      · rw [hsame] at hgood
        exact absurd (asked_iff.mpr ⟨asked_of_admissible hgood, hsame⟩) hasked
  · rintro ⟨search, hsearch, hcomes⟩
    have hstack : ∀ {first last : ℕ}, (Search.inventorySlots first last true).ComesTo data player
        INVENTORY_SLOT_BAG_0 slot pProto pos → pProto.Stackable ≠ 1 →
        player.beforeCurrency data slot pProto pos = true := by
      rintro first last ⟨-, -, hroom⟩ hstack
      rw [Player.offersRoom] at hroom
      rw [Player.beforeCurrency]
      rcases hitem : player.GetItemByPos data pos with _ | pItem2
      · rw [hitem] at hroom
        cases hroom
      rw [hitem] at hroom
      rw [admissible_stack hitem]
      exact Bool.or_eq_true_iff.mpr
        (.inr (Bool.and_eq_true_iff.mpr ⟨decide_eq_true hstack, hroom⟩))
    rcases mem_beforeSearches.mp hsearch with ⟨hslot, rfl⟩ | ⟨hone, rfl | rfl⟩ | rfl
    · obtain ⟨rfl, -⟩ := hcomes
      exact ⟨.inr rfl, Bool.or_eq_true_iff.mpr (.inl (asked_iff.mpr ⟨⟨by decide, hslot⟩, rfl⟩))⟩
    · exact ⟨.inl (.inr hcomes.1), hstack hcomes hone⟩
    · exact ⟨.inl (.inl hcomes.1), hstack hcomes hone⟩
    obtain ⟨hown, -, hroom⟩ := hcomes
    obtain ⟨hbag, hfirst, hlast⟩ := mem_ownSlots_iff.mp hown
    refine ⟨.inl (.inr (mem_ownSlots_iff.mpr ⟨hbag, hfirst, hlast.trans (by decide)⟩)), ?_⟩
    rw [Player.beforeCurrency, item_of_offersRoom hroom]
    exact Bool.or_eq_true_iff.mpr
      (.inr (Bool.and_eq_true_iff.mpr ⟨decide_eq_true hfirst, decide_eq_true hlast⟩))

theorem capacity_beforeSearches :
    capacity (player.offeredSlots data (newRequest INVENTORY_SLOT_BAG_0 slot pProto)
      (beforeSearches slot pProto)) [] = player.roomBeforeCurrency data slot pProto := by
  apply capacity_offeredSlots hacc
  intro pos
  rw [Finset.mem_filter, mem_toFinset]
  exact beforeCurrency_iff hacc

end

theorem not_misplaced_of_before {search : Search} (hsearch : search ∈ beforeSearches slot pProto)
    (hcomes : search.ComesTo data player INVENTORY_SLOT_BAG_0 slot pProto pos) :
    ¬player.misplaced data INVENTORY_SLOT_BAG_0 pProto pos = true := by
  intro hmisplaced
  have hbad := not_admissible_of_misplaced hmisplaced
  obtain ⟨-, -, hempty, hpos⟩ := misplaced_iff.mp hmisplaced
  have hstack : ∀ {first last : ℕ}, ¬(Search.inventorySlots first last true).ComesTo data player
      INVENTORY_SLOT_BAG_0 slot pProto pos := by
    rintro first last ⟨-, -, hroom⟩
    rw [Player.offersRoom, hempty] at hroom
    cases hroom
  rcases mem_beforeSearches.mp hsearch with ⟨-, rfl⟩ | ⟨-, rfl | rfl⟩ | rfl
  · obtain ⟨rfl, hgood⟩ := hcomes
    exact Bool.false_ne_true (hbad.symm.trans hgood)
  · exact hstack hcomes
  · exact hstack hcomes
  have hlast := (mem_ownSlots hcomes.1).2.2
  have hfirst := (mem_ownSlots hpos).2.1
  exact absurd (hfirst.trans_lt hlast) (by decide)

theorem dest_of_not_accepts {poured : Poured ItemPos}
    (hrefused : ¬player.acceptsRequest data INVENTORY_SLOT_BAG_0 slot pProto = true) :
    (player.runSearches data (newRequest INVENTORY_SLOT_BAG_0 slot pProto)
      .EQUIP_ERR_INVENTORY_FULL 0 (Player.storeSearches INVENTORY_SLOT_BAG_0 slot pProto)
        poured).dest = poured.taken := by
  have hslot : slot ≠ NULL_SLOT ∧
      ¬player.admissible data pProto ⟨INVENTORY_SLOT_BAG_0, slot⟩ = true := by
    rw [Player.acceptsRequest] at hrefused
    simpa [INVENTORY_SLOT_BAG_0, NULL_BAG] using hrefused
  have hspecific : INVENTORY_SLOT_BAG_0 ≠ NULL_BAG ∧ slot ≠ NULL_SLOT := ⟨by decide, hslot.1⟩
  rw [Player.storeSearches, if_pos hspecific]
  simp only [cons_append]
  rw [Player.runSearches]
  rcases @find_cases data player INVENTORY_SLOT_BAG_0 slot pProto .specificSlot with
    ⟨hgood, -⟩ | ⟨-, result, reported, -, hfound⟩
  · exact absurd hgood hslot.2
  · rw [hfound]

theorem misplaced_of_comesTo (hkey : Player.isKey pProto = true)
    (htoken : pProto.IsCurrencyToken = false)
    (hcomes : (Search.inventorySlots CURRENCYTOKEN_SLOT_START CURRENCYTOKEN_SLOT_END
      false).ComesTo data player INVENTORY_SLOT_BAG_0 slot pProto pos) :
    player.misplaced data INVENTORY_SLOT_BAG_0 pProto pos = true :=
  misplaced_iff.mpr ⟨⟨hkey, htoken⟩, rfl, item_of_offersRoom hcomes.2.2, hcomes.1⟩

theorem dest_admissible (hspills : ¬SpillsKeys data player bag slot count pProto) :
    ∀ pos ∈ places (player.runSearches data (newRequest bag slot pProto)
        .EQUIP_ERR_INVENTORY_FULL 0 (Player.storeSearches bag slot pProto) ⟨[], count⟩).dest,
      player.admissible data pProto pos = true := by
  intro pos hpos
  rcases comesTo_of_mem_dest hpos with hnone | ⟨search, hsearch, hcomes⟩
  · cases hnone
  have hsearched := (Searched.of_comesTo (mem_storeSearches.mp hsearch) hcomes).2
  rw [Bool.or_eq_true_iff, Bool.and_eq_true_iff] at hsearched
  rcases hsearched with ⟨hgood, -⟩ | hmisplaced
  · exact hgood
  exfalso
  obtain ⟨⟨hkey, -⟩, rfl, -, hown⟩ := misplaced_iff.mp hmisplaced
  by_cases hacc : player.acceptsRequest data INVENTORY_SLOT_BAG_0 slot pProto = true
  · apply hspills
    refine ⟨hacc, ⟨pos, hown, hmisplaced⟩, ?_⟩
    by_contra hroom
    obtain ⟨rest, heq⟩ := @storeSearches_key slot pProto hkey
    have hcapacity := capacity_beforeSearches (accepted_beforeSearches hkey hacc)
    have hplaces : places (⟨[], count⟩ : Poured ItemPos).taken = [] := rfl
    have hzero : (pour (player.offeredSlots data (newRequest INVENTORY_SLOT_BAG_0 slot pProto)
        (beforeSearches slot pProto)) ⟨[], count⟩).left = 0 := by
      rw [left_pour, hplaces, hcapacity]
      exact Nat.sub_eq_zero_of_le (Nat.not_lt.mp hroom)
    have hfree : Search.inventorySlots KEYRING_SLOT_START KEYRING_SLOT_END false ∈
        beforeSearches slot pProto := mem_beforeSearches.mpr (.inr (.inr rfl))
    rw [heq, runSearches_append_of_zero hzero
      fun _ => ⟨_, hfree, find_inventorySlots_ne _ _ _⟩] at hpos
    rcases comesTo_of_mem_dest hpos with hnone | ⟨other, hother, hcomes⟩
    · cases hnone
    · exact not_misplaced_of_before hother hcomes hmisplaced
  · rw [dest_of_not_accepts hacc] at hpos
    cases hpos

theorem exists_not_admissible (hspills : SpillsKeys data player bag slot count pProto) :
    ∃ pos ∈ places (player.runSearches data (newRequest bag slot pProto)
        .EQUIP_ERR_INVENTORY_FULL 0 (Player.storeSearches bag slot pProto) ⟨[], count⟩).dest,
      player.admissible data pProto pos = false := by
  obtain ⟨hacc, ⟨free, -, hmisplaced⟩, hroom⟩ := hspills
  obtain ⟨⟨hkey, htoken⟩, rfl, -, -⟩ := misplaced_iff.mp hmisplaced
  obtain ⟨rest, heq⟩ := @storeSearches_key slot pProto hkey
  have haccepted := accepted_beforeSearches hkey hacc
  have hcount : (⟨[], count⟩ : Poured ItemPos).left ≠ 0 := (Nat.zero_lt_of_lt hroom).ne'
  have hplaces : places (⟨[], count⟩ : Poured ItemPos).taken = [] := rfl
  have hleft : (pour (player.offeredSlots data (newRequest INVENTORY_SLOT_BAG_0 slot pProto)
      (beforeSearches slot pProto)) ⟨[], count⟩).left ≠ 0 := by
    rw [left_pour, hplaces, capacity_beforeSearches haccepted]
    exact (Nat.sub_pos_of_lt hroom).ne'
  rw [heq, dest_runSearches _ _ _ hcount, offeredSlots_append haccepted, pour_append _ _ hcount,
    if_neg hleft, Player.offeredSlots]
  -- the free slot for currency is the first of several, or one behind the first
  have hcomes := comesTo_of_misplaced hacc hmisplaced
  rcases @find_cases data player INVENTORY_SLOT_BAG_0 slot pProto
      (.inventorySlots CURRENCYTOKEN_SLOT_START CURRENCYTOKEN_SLOT_END false) with
    ⟨-, ⟨-, hnone⟩ | ⟨offers, hfound, hoffers⟩⟩ | ⟨hrefused, -⟩
  · exact absurd hcomes (hnone free)
  · rw [hfound]
    have hoffer := (hoffers free _).mpr ⟨hcomes, rfl⟩
    rcases offers with _ | ⟨first, offers⟩
    · cases hoffer
    obtain ⟨pos, room⟩ := first
    refine ⟨pos, mem_places_pour_cons pos room _ _, ?_⟩
    apply not_admissible_of_misplaced
    exact misplaced_of_comesTo hkey htoken ((hoffers pos room).mp mem_cons_self).1
  · exact absurd trivial hrefused

/-- `CanStoreItem` is exact about room for an item without a limit, if and only if it spills
no key and the count does not need room that is overlooked. -/
theorem exactAboutRoom_iff (data : GameData) (player : Player) (bag slot entry count : ℕ)
    (hunlimited : ∀ pProto, data.GetItemTemplate entry = some pProto → pProto.Unlimited)
    (hcount : count < 2 ^ 32) :
    ExactAboutRoom data player bag slot entry count ↔
      ∀ pProto, data.GetItemTemplate entry = some pProto →
        ¬SpillsKeys data player bag slot count pProto ∧
          ¬OverlooksRoom data player bag slot count pProto := by
  rw [ExactAboutRoom, ← forall_and]
  apply forall_congr'
  intro pProto
  rw [← imp_and]
  apply imp_congr_right
  intro hproto
  rw [CanStoreItem_full_iff hproto (hunlimited pProto hproto) hcount,
    CanStoreItem_eq hproto (hunlimited pProto hproto) hcount]
  apply and_congr
  · constructor
    · intro hgood hspills
      obtain ⟨pos, hpos, hbad⟩ := exists_not_admissible hspills
      exact Bool.false_ne_true (hbad.symm.trans (hgood pos hpos))
    · exact dest_admissible
  · constructor
    · rintro hfull ⟨haccepts, hsearched, htotal⟩
      exact absurd (hfull ⟨haccepts, hsearched⟩) (Nat.not_lt.mpr htotal)
    · rintro hroom ⟨haccepts, hsearched⟩
      by_contra htotal
      exact hroom ⟨haccepts, hsearched, Nat.not_lt.mp htotal⟩

/-! ## Keys without room, and room without a search -/

def GameData.ofTemplates (protos : List ItemTemplate)
    (hprotos : ∀ proto ∈ protos, proto.ContainerSlots ≤ MAX_BAG_SIZE ∧
      proto.Stackable ≤ 2147483647) : GameData where
  GetItemTemplate entry := protos.find? fun proto => proto.ItemId = entry
  LookupLimitCategory _ := none
  itemId entry proto hproto := by
    have hsame := List.find?_some hproto
    exact of_decide_eq_true hsame
  containerSlots _ _ hproto := (hprotos _ (mem_of_find?_eq_some hproto)).1
  stackable _ _ hproto := (hprotos _ (mem_of_find?_eq_some hproto)).2

def singleProto : ItemTemplate := { limitedProto with ItemId := 1, MaxCount := 0, Stackable := 1 }

def pouchProto : ItemTemplate :=
  { singleProto with
    ItemId := 2
    Class := ITEM_CLASS_CONTAINER
    InventoryType := INVTYPE_BAG
    ContainerSlots := 1 }

def keyProto : ItemTemplate := { singleProto with ItemId := 3, BagFamily := BAG_FAMILY_MASK_KEYS }

def roomData : GameData := .ofTemplates [singleProto, pouchProto, keyProto] (by decide)

def crammedPlayer : Player :=
  ((List.range 16).foldl
    (fun player slot => player.set (.main (INVENTORY_SLOT_ITEM_START + slot))
      { limitedItem with guid := slot, count := 1 }) barePlayer)
    |>.set (.main 19) { limitedItem with guid := 100, entry := 2, count := 1 }
    |>.set (.main 20) { limitedItem with guid := 101, entry := 2, count := 1 }

/-- The thirty-third key goes into a slot for currency. Two items are asked for, the first
in the first slot of one bag: the first slot of the other bag is not found for the second. -/
theorem notExactAboutRoom : ((⟨INVENTORY_SLOT_BAG_0, CURRENCYTOKEN_SLOT_START⟩ : ItemPos) ∈ places
        (barePlayer.CanStoreItem roomData INVENTORY_SLOT_BAG_0 NULL_SLOT [] 3 33 none false).dest ∧
      ¬ExactAboutRoom roomData barePlayer INVENTORY_SLOT_BAG_0 NULL_SLOT 3 33) ∧
    ((crammedPlayer.CanStoreItem roomData 19 0 [] 1 2 none false).result =
        .EQUIP_ERR_INVENTORY_FULL ∧
      crammedPlayer.totalRoom roomData singleProto = 2 ∧
      ¬ExactAboutRoom roomData crammedPlayer 19 0 1 2) := by
  have hspilled : (⟨INVENTORY_SLOT_BAG_0, CURRENCYTOKEN_SLOT_START⟩ : ItemPos) ∈
      places (barePlayer.CanStoreItem roomData INVENTORY_SLOT_BAG_0 NULL_SLOT [] 3 33 none
        false).dest := by
    decide +kernel
  have hfull : (crammedPlayer.CanStoreItem roomData 19 0 [] 1 2 none false).result =
      .EQUIP_ERR_INVENTORY_FULL := by
    decide +kernel
  have htotal : crammedPlayer.totalRoom roomData singleProto = 2 := by
    decide +kernel
  refine ⟨⟨hspilled, fun hexact => ?_⟩, hfull, htotal, fun hexact => ?_⟩
  · have hgood := hexact.1 keyProto rfl _ hspilled
    exact absurd hgood (by decide)
  · have hless := hexact.2 singleProto rfl hfull
    rw [htotal] at hless
    exact Nat.lt_irrefl 2 hless

/-- There is room for thirty-two keys. -/
theorem exactAboutRoom_keys :
    ExactAboutRoom roomData barePlayer INVENTORY_SLOT_BAG_0 NULL_SLOT 3 32 := by
  have hproto : ∀ pProto, roomData.GetItemTemplate 3 = some pProto → keyProto = pProto :=
    fun pProto hfound => Option.some.inj hfound
  refine (exactAboutRoom_iff roomData barePlayer INVENTORY_SLOT_BAG_0 NULL_SLOT 3 32 ?_
    (by decide)).mpr ?_
  · intro pProto hfound
    rw [← hproto pProto hfound]
    exact .inl ⟨le_rfl, rfl⟩
  · intro pProto hfound
    rw [← hproto pProto hfound]
    constructor
    · rintro ⟨-, -, hroom⟩
      exact absurd hroom (by decide +kernel)
    · rintro ⟨-, hroom, -⟩
      exact absurd hroom (by decide +kernel)

end AzerothCore.Storage
