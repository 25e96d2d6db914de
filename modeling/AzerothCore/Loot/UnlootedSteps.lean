import AzerothCore.Loot.LootFill

/-!
# Looting keeps the count

What is stored, given or won takes one outstanding entry out of the loot. The
other steps take out none.
-/

namespace AzerothCore.Looting
open List Option Bool

variable {env : LootEnv} {state state' : CountedLoot} {player : ℕ}

theorem Consistent.takeOne (hold : Consistent state) (hwf : WellFormed state'.loot)
    (hcounted : ∀ index ∈ state'.counted, ∃ item, state'.loot.items[index]? = some item ∧
      item.conditions = [])
    (hsingle : ∀ index item, state'.loot.quest_items[index]? = some item → item.freeforall = false →
      entryCount (fun entry => entry.index = index) state'.loot.PlayerQuestItems ≤ 1)
    (hcounter : state'.loot.unlootedCount = uint8 (state.loot.unlootedCount + 255))
    (hone : outstandingCount state' + 1 = outstandingCount state) : Consistent state' where
  wf := hwf
  counted := hcounted
  single := hsingle
  count := by
    have hbound := hold.bound
    have hcount := hold.count
    rw [hcounter, uint8]
    omega
  bound := by
    have hbound := hold.bound
    omega

variable {f : LootItem → LootItem}

theorem outstandingCount_modify (ref : ItemRef) (counter : ℕ)
    (hlooted : ∀ item, (f item).is_looted = true)
    (hlt : ∀ index, ref = .item index → index < state.loot.items.length) :
    outstandingCount ⟨{ state.loot.modify f ref with unlootedCount := counter }, state.counted⟩ +
      outstandingOf state ref = outstandingCount state := by
  cases ref with
  | item index =>
    have hitems := @countedItems_modify _ state.counted _ _ hlooted (hlt index rfl)
    have hentries := @entryCount_modify state.loot.items index f hlooted state.loot.PlayerFFAItems
    simp only [outstandingCount, outstandingOf, Loot.modify]
    omega
  | quest index =>
    have hentries := @entryCount_modify state.loot.quest_items index f hlooted
      state.loot.PlayerQuestItems
    simp only [outstandingCount, outstandingOf, Loot.modify]
    omega

theorem Kept.modify_items (loot : Loot) (ref : ItemRef)
    (hffa : ∀ item, (f item).freeforall = item.freeforall)
    (hconds : ∀ item, (f item).conditions = item.conditions)
    (hlooted : ∀ item, item.is_looted = true → (f item).is_looted = true) :
    Kept loot.items (loot.modify f ref).items ∧
      Kept loot.quest_items (loot.modify f ref).quest_items := by
  cases ref with
  | item index => exact ⟨Kept.modify _ index hffa hconds hlooted, Kept.refl _⟩
  | quest index => exact ⟨Kept.refl _, Kept.modify _ index hffa hconds hlooted⟩

theorem length_modify (f : LootItem → LootItem) (loot : Loot) (ref : ItemRef) :
    (loot.modify f ref).items.length = loot.items.length ∧
      (loot.modify f ref).quest_items.length = loot.quest_items.length := by
  cases ref with
  | item index => exact ⟨List.length_modify .., rfl⟩
  | quest index => exact ⟨rfl, List.length_modify ..⟩

theorem lists_modify (f : LootItem → LootItem) (loot : Loot) (ref : ItemRef) :
    (loot.modify f ref).PlayerQuestItems = loot.PlayerQuestItems ∧
      (loot.modify f ref).PlayerFFAItems = loot.PlayerFFAItems ∧
      (loot.modify f ref).PlayerNonQuestNonFFAConditionalItems =
        loot.PlayerNonQuestNonFFAConditionalItems := by
  cases ref with
  | item | quest => exact ⟨rfl, rfl, rfl⟩

variable {index : ℕ} {items : List LootItem}

theorem freeforall_of_kept {items' : List LootItem} (hkept : Kept items items')
    (hlen : items'.length = items.length) {item' : LootItem}
    (hitem' : items'[index]? = some item') :
    ∃ item, items[index]? = some item ∧ item'.freeforall = item.freeforall := by
  have hlt := (List.getElem?_eq_some_iff.mp hitem').1
  rw [hlen] at hlt
  obtain ⟨same, hsame, hffa, -⟩ := hkept index _ (List.getElem?_eq_getElem hlt)
  rw [hitem'] at hsame
  cases hsame
  exact ⟨_, List.getElem?_eq_getElem hlt, hffa⟩

theorem Consistent.takeItem (hold : Consistent state) (ref : ItemRef)
    (hffa : ∀ item, (f item).freeforall = item.freeforall)
    (hconds : ∀ item, (f item).conditions = item.conditions)
    (hlooted : ∀ item, (f item).is_looted = true)
    (hlt : ∀ index, ref = .item index → index < state.loot.items.length)
    (hone : outstandingOf state ref = 1) :
    Consistent ⟨{ state.loot.modify f ref with
      unlootedCount := uint8 ((state.loot.modify f ref).unlootedCount + 255) }, state.counted⟩ := by
  obtain ⟨hitems, hquest⟩ := Kept.modify_items state.loot ref hffa hconds fun item _ => hlooted item
  obtain ⟨hitemsLength, hquestLength⟩ := length_modify f state.loot ref
  obtain ⟨hquestLists, hffaLists, hconditionalLists⟩ := lists_modify f state.loot ref
  have hcount := outstandingCount_modify ref
    (uint8 ((state.loot.modify f ref).unlootedCount + 255)) hlooted hlt
  apply hold.takeOne
  · apply hold.wf.kept
    · exact hitems
    · exact hquest
    · exact hitemsLength ▸ hold.wf.items_le
    · exact hquestLength ▸ hold.wf.quest_items_le
    · exact hquestLists
    · exact hffaLists
    · exact hconditionalLists
  · intro index hmem
    obtain ⟨item, hitem, hempty⟩ := hold.counted index hmem
    obtain ⟨item', hitem', -, hsame, -⟩ := hitems index item hitem
    exact ⟨item', hitem', hsame.trans hempty⟩
  · intro index item' hitem' hffa'
    obtain ⟨item, hitem, hsame⟩ := freeforall_of_kept hquest hquestLength hitem'
    rw [hquestLists]
    exact hold.single index item hitem (hsame.symm.trans hffa')
  · cases ref with
    | item | quest => rfl
  · omega

theorem Consistent.give (hold : Consistent state) {slotid target : ℕ}
    (hclean : ∀ ref item, state.loot.masterGiveItem slotid = some ref →
      state.loot.get ref = some item →
      (env.CanStoreNewItem target item.itemid item.count &&
        state.loot.allowed env item target) = true → outstandingOf state ref = 1) :
    Consistent (state.apply (.give env slotid target)) := by
  unfold CountedLoot.apply CountedLoot.lift Loot.give Loot.HandleLootMasterGive
  dsimp only
  rcases hslot : state.loot.masterGiveItem slotid with _ | ref
  · exact hold
  rcases hitem : state.loot.get ref with _ | item
  · dsimp only
    rw [hitem]
    exact hold
  dsimp only
  rw [hitem]
  dsimp only
  cases hmay : env.CanStoreNewItem target item.itemid item.count &&
      state.loot.allowed env item target with
  | false => exact hold
  | true =>
    have hone := hclean ref item hslot hitem hmay
    refine hold.takeItem ref (fun _ => rfl) (fun _ => rfl) (fun _ => rfl) ?_ hone
    rintro index rfl
    exact (List.getElem?_eq_some_iff.mp hitem).1

theorem Consistent.rollStored (hold : Consistent state) {itemSlot : ℕ}
    (hone : outstandingOf state (state.loot.rollItem itemSlot) = 1) :
    Consistent (state.apply (.rollStored itemSlot)) := by
  refine hold.takeItem _ (fun _ => rfl) (fun _ => rfl) (fun _ => rfl) ?_ hone
  intro index hindex
  unfold Loot.rollItem at hindex
  split at hindex
  · cases hindex
  rename_i hlt
  cases hindex
  exact Nat.lt_of_not_ge hlt

variable {entry : QuestItem} {list : List QuestItem} {map : StdMap ℕ (List QuestItem)}
  {position : ℕ}

section

variable (hfind : map.find? player = some list) (hentry : list[position]? = some entry)
include hfind hentry

theorem entryCount_isOut_markEntry :
    entryCount (isOut items) (Loot.markEntry map player (some position)) +
      (if isOut items entry then 1 else 0) = entryCount (isOut items) map := by
  have hmarked : isOut items { entry with is_looted := true } = false := by
    rw [isOut]
    cases items[entry.index]? with
    | none | some => rfl
  have hmark := entryCount_markEntry (isOut items) hfind hentry
  rw [hmarked, if_neg Bool.false_ne_true, Nat.add_zero] at hmark
  exact hmark

theorem entryCount_index_markEntry (index : ℕ) :
    entryCount (fun entry => entry.index = index) (Loot.markEntry map player (some position)) =
      entryCount (fun entry => entry.index = index) map := by
  have hmark := entryCount_markEntry (fun entry => entry.index = index) hfind hentry
  dsimp only at hmark
  omega

end

theorem PointsTo.markEntry {position : Option ℕ} {kind : QuestItem → LootItem → Prop}
    (hlists : ∀ player list, map.find? player = some list → PointsTo items list kind)
    (hmarked : ∀ list entry item position', position = some position' →
      map.find? player = some list → list[position']? = some entry →
      items[entry.index]? = some item → kind entry item →
      kind { entry with is_looted := true } item) :
    ∀ other list, (Loot.markEntry map player position).find? other = some list →
      PointsTo items list kind := by
  intro other marked hfind
  obtain ⟨list, hlist, hindex, hentries⟩ := find?_markEntry hfind
  have hpoints := hlists other list hlist
  refine ⟨hindex ▸ hpoints.nodup, fun entry hmem => ?_⟩
  rcases hentries entry hmem with hbefore | ⟨rfl, position', unmarked, rfl, hunmarked, rfl⟩
  · exact hpoints.mem entry hbefore
  · obtain ⟨item, hitem, hkind⟩ := hpoints.mem unmarked (mem_of_getElem? hunmarked)
    exact ⟨item, hitem, hmarked list unmarked item position' rfl hlist hunmarked hitem hkind⟩

def storedItem (item : LootItem) : LootItem :=
  if item.freeforall then item else { item with is_looted := true }

theorem storedItem_spec (item : LootItem) : (storedItem item).freeforall = item.freeforall ∧
      (storedItem item).conditions = item.conditions ∧
      (storedItem item).is_blocked = item.is_blocked ∧
      (item.is_looted = true → (storedItem item).is_looted = true) := by
  unfold storedItem
  split
  · exact ⟨rfl, rfl, rfl, id⟩
  · exact ⟨rfl, rfl, rfl, fun _ => rfl⟩

variable {item : LootItem}

theorem modify_storedItem_of_freeforall (hitem : items[index]? = some item)
    (hffa : item.freeforall = true) : items.modify index storedItem = items := by
  apply ext_getElem?
  intro other
  rw [List.getElem?_modify]
  by_cases heq : index = other
  · subst heq
    rw [hitem]
    change some (if index = index then storedItem item else item) = some item
    rw [if_pos rfl, storedItem, if_pos hffa]
  · cases items[other]? with
    | none => rfl
    | some item =>
      change some (if index = other then storedItem item else item) = some item
      rw [if_neg heq]

theorem modify_storedItem (hitem : items[index]? = some item) (hffa : item.freeforall = false) :
    items.modify index storedItem =
      items.modify index fun item => { item with is_looted := true } := by
  apply ext_getElem?
  intro other
  rw [List.getElem?_modify, List.getElem?_modify]
  by_cases heq : index = other
  · subst heq
    rw [hitem]
    change some (if index = index then storedItem item else item) =
      some (if index = index then { item with is_looted := true } else item)
    rw [if_pos rfl, if_pos rfl, storedItem, if_neg (eq_false_iff.mp hffa)]
  · rcases items[other]? with _ | item
    · rfl
    change some (if index = other then storedItem item else item) =
      some (if index = other then { item with is_looted := true } else item)
    rw [if_neg heq, if_neg heq]

section

variable (hold : Consistent state)
include hold

section

variable (hfind : state.loot.PlayerQuestItems.find? player = some list) (hentry : list[position]? = some entry)
include hfind hentry

theorem outstandingOf_quest
    (hitem : state.loot.quest_items[entry.index]? = some item) (hffa : item.freeforall = false)
    (hout : isOut state.loot.quest_items entry = true) :
    outstandingOf state (.quest entry.index) = 1 := by
  have hle : entryCount (fun other => isOut state.loot.quest_items other &&
      other.index = entry.index) state.loot.PlayerQuestItems ≤
      entryCount (fun other => other.index = entry.index) state.loot.PlayerQuestItems := by
    have hsplit := entryCount_split (fun other => other.index = entry.index)
      (isOut state.loot.quest_items) state.loot.PlayerQuestItems
    have hcomm : entryCount (fun other => isOut state.loot.quest_items other &&
        other.index = entry.index) state.loot.PlayerQuestItems =
        entryCount (fun other => decide (other.index = entry.index) &&
          isOut state.loot.quest_items other) state.loot.PlayerQuestItems :=
      entryCount_congr fun _ _ _ _ _ => Bool.and_comm ..
    omega
  have hsingle := hold.single entry.index item hitem hffa
  have hlist := @countP_le_entryCount _ player list (fun other =>
    isOut state.loot.quest_items other && other.index = entry.index) hfind
  have hmem : 0 < list.countP fun other =>
      isOut state.loot.quest_items other && other.index = entry.index := by
    rw [countP_pos_iff]
    exact ⟨entry, mem_of_getElem? hentry, by rw [hout, decide_eq_true rfl]; rfl⟩
  rw [outstandingOf]
  omega

theorem Consistent.storeQuest (hnotLooted : entry.is_looted = false)
    (hitem : state.loot.quest_items[entry.index]? = some item) (hlooted : item.is_looted = false) :
    Consistent (state.lift fun loot =>
      loot.storeFound ⟨.quest entry.index, some position, none, none⟩ player) := by
  have hout : isOut state.loot.quest_items entry = true := by
    rw [isOut, hitem, any_some, outstanding, hnotLooted, hlooted]
    rfl
  have hkept : Kept state.loot.quest_items
      (state.loot.quest_items.modify entry.index storedItem) := by
    apply Kept.modify
    · exact fun item => (storedItem_spec item).1
    · exact fun item => (storedItem_spec item).2.1
    · exact fun item => (storedItem_spec item).2.2.2
  have hcount : entryCount (isOut (state.loot.quest_items.modify entry.index storedItem))
      (Loot.markEntry state.loot.PlayerQuestItems player (some position)) + 1 =
      entryCount (isOut state.loot.quest_items) state.loot.PlayerQuestItems := by
    cases hffa : item.freeforall with
    | true =>
      have hmark := @entryCount_isOut_markEntry player state.loot.quest_items _ _ _ _ hfind hentry
      rw [hout, if_pos rfl] at hmark
      rw [modify_storedItem_of_freeforall hitem hffa]
      exact hmark
    | false =>
      have hone := outstandingOf_quest hold hfind hentry hitem hffa hout
      rw [modify_storedItem hitem hffa]
      have hmark := @entryCount_isOut_markEntry player (state.loot.quest_items.modify entry.index
        fun item => { item with is_looted := true }) _ _ _ _ hfind hentry
      rw [isOut_modify (fun _ => rfl), decide_eq_true rfl, Bool.not_true, Bool.and_false,
        if_neg Bool.false_ne_true] at hmark
      have hentries := @entryCount_modify state.loot.quest_items entry.index
        (fun item => { item with is_looted := true }) (fun _ => rfl) state.loot.PlayerQuestItems
      rw [outstandingOf] at hone
      omega
  apply hold.takeOne
  · constructor
    · exact hold.wf.items_le
    · exact (List.length_modify ..).trans_le hold.wf.quest_items_le
    · have hlists : ∀ player list, state.loot.PlayerQuestItems.find? player = some list →
          PointsTo (state.loot.quest_items.modify entry.index storedItem) list fun _ _ => True :=
        fun other list hlist => (hold.wf.quest other list hlist).kept hkept
          fun _ _ _ _ _ _ _ => trivial
      exact PointsTo.markEntry hlists fun _ _ _ _ _ _ _ _ _ => trivial
    · exact hold.wf.ffa
    · exact hold.wf.conditional
  · exact hold.counted
  · intro index item' hitem' hffa'
    obtain ⟨item, hitem, hsame⟩ := freeforall_of_kept hkept (List.length_modify ..) hitem'
    have hsingle := hold.single index item hitem (hsame.symm.trans hffa')
    have hindex := entryCount_index_markEntry hfind hentry index
    exact hindex.le.trans hsingle
  · rfl
  · have hrest : outstandingCount (state.lift fun loot =>
        loot.storeFound ⟨.quest entry.index, some position, none, none⟩ player) =
        countedItems state.loot.items state.counted +
          entryCount (isOut state.loot.items) state.loot.PlayerFFAItems +
          entryCount (isOut (state.loot.quest_items.modify entry.index storedItem))
            (Loot.markEntry state.loot.PlayerQuestItems player (some position)) := rfl
    rw [hrest, outstandingCount]
    omega

end

theorem Consistent.storeFFA
    (hitem : state.loot.items[index]? = some item) (hffa : item.freeforall = true)
    (hlooted : item.is_looted = false)
    (hfind : state.loot.PlayerFFAItems.find? player = some list)
    (hentry : list[position]? = some entry) (hindex : entry.index = index)
    (hnotLooted : entry.is_looted = false) :
    Consistent (state.lift fun loot =>
      loot.storeFound ⟨.item index, none, some position, none⟩ player) := by
  subst hindex
  have hout : isOut state.loot.items entry = true := by
    rw [isOut, hitem, any_some, outstanding, hnotLooted, hlooted]
    rfl
  have hitems := modify_storedItem_of_freeforall hitem hffa
  have hmark := @entryCount_isOut_markEntry player state.loot.items _ _ _ _ hfind hentry
  rw [hout, if_pos rfl] at hmark
  have hstored : (state.lift fun loot =>
      loot.storeFound ⟨.item entry.index, none, some position, none⟩ player) =
      state.lift fun loot => { loot with
        items := state.loot.items.modify entry.index storedItem
        PlayerFFAItems := Loot.markEntry loot.PlayerFFAItems player (some position)
        unlootedCount := uint8 (loot.unlootedCount + 255) } := rfl
  rw [hstored, hitems]
  apply hold.takeOne
  · constructor
    · exact hold.wf.items_le
    · exact hold.wf.quest_items_le
    · exact hold.wf.quest
    · exact PointsTo.markEntry hold.wf.ffa fun _ _ _ _ _ _ _ _ hkind => hkind
    · exact hold.wf.conditional
  · exact hold.counted
  · exact hold.single
  · rfl
  · simp only [outstandingCount, CountedLoot.lift]
    omega

theorem Consistent.storeItem {conditem : Option ℕ}
    (hitem : state.loot.items[index]? = some item) (hffa : item.freeforall = false)
    (hlooted : item.is_looted = false)
    (hmarked : ∀ position, conditem = some position → ∃ list entry,
      state.loot.PlayerNonQuestNonFFAConditionalItems.find? player = some list ∧
      list[position]? = some entry ∧ entry.index = index ∧ entry.is_looted = false)
    (hcounted : (index ∈ state.counted || item.is_counted) = true) :
    Consistent (state.lift fun loot =>
      loot.storeFound ⟨.item index, none, none, conditem⟩ player) := by
  have hat : countedAt state.loot.items state.counted index = true := by
    rw [countedAt, hitem, any_some, hcounted, hffa, hlooted]
    rfl
  -- No list of items that are free for all points to this one.
  have hnone : entryCount (fun entry => isOut state.loot.items entry && entry.index = index)
      state.loot.PlayerFFAItems = 0 := by
    have hfalse : entryCount (fun entry => isOut state.loot.items entry && entry.index = index)
        state.loot.PlayerFFAItems = entryCount (fun _ => false) state.loot.PlayerFFAItems := by
      apply entryCount_congr
      intro player list hlist entry hmem
      obtain ⟨other, hother, hkind⟩ := (hold.wf.ffa player list hlist).mem entry hmem
      have hne : entry.index ≠ index := by
        rintro rfl
        rw [hitem] at hother
        cases hother
        rw [hffa] at hkind
        cases hkind
      rw [decide_eq_false hne, Bool.and_false]
    exact hfalse.trans entryCount_false
  have hone : outstandingOf state (.item index) = 1 := by
    rw [outstandingOf, hat, hnone, if_pos rfl]
  have hcount := @outstandingCount_modify state (fun item => { item with is_looted := true })
    (.item index) (uint8 (state.loot.unlootedCount + 255)) (fun _ => rfl) (by
      rintro other heq
      cases heq
      exact (List.getElem?_eq_some_iff.mp hitem).1)
  have hkept : Kept state.loot.items (state.loot.items.modify index storedItem) := by
    apply Kept.modify
    · exact fun item => (storedItem_spec item).1
    · exact fun item => (storedItem_spec item).2.1
    · exact fun item => (storedItem_spec item).2.2.2
  apply hold.takeOne
  · have hwf : WellFormed { state.loot with
        items := state.loot.items.modify index storedItem
        unlootedCount := uint8 (state.loot.unlootedCount + 255) } := by
      apply hold.wf.kept
      · exact hkept
      · exact Kept.refl _
      · exact (List.length_modify ..).trans_le hold.wf.items_le
      · exact hold.wf.quest_items_le
      · rfl
      · rfl
      · rfl
    constructor
    · exact hwf.items_le
    · exact hwf.quest_items_le
    · exact hwf.quest
    · exact hwf.ffa
    · apply PointsTo.markEntry hwf.conditional
      rintro list entry stored position rfl hlist hentry hstored ⟨hkind, hconds, -⟩
      obtain ⟨list', entry', hlist', hentry', rfl, -⟩ := hmarked position rfl
      have hsameList : state.loot.PlayerNonQuestNonFFAConditionalItems.find? player = some list :=
        hlist
      rw [hsameList] at hlist'
      cases hlist'
      rw [hentry] at hentry'
      cases hentry'
      refine ⟨hkind, hconds, fun _ => ?_⟩
      rw [modify_storedItem hitem hffa, List.getElem?_modify_eq, hitem] at hstored
      cases hstored
      rfl
  · intro other hmem
    obtain ⟨item, hitem, hempty⟩ := hold.counted other hmem
    obtain ⟨item', hitem', -, hsame, -⟩ := hkept other item hitem
    exact ⟨item', hitem', hsame.trans hempty⟩
  · exact hold.single
  · rfl
  · have hstored : outstandingCount (state.lift fun loot =>
        loot.storeFound ⟨.item index, none, none, conditem⟩ player) =
        outstandingCount ⟨{ state.loot.modify storedItem (.item index) with
          unlootedCount := uint8 (state.loot.unlootedCount + 255) }, state.counted⟩ := rfl
    rw [hstored, Loot.modify, modify_storedItem hitem hffa]
    rw [hone] at hcount
    exact hcount

theorem Consistent.store {lootSlot : ℕ}
    (hclean : ∀ found, state.loot.storeTarget env lootSlot player = some found →
      Claimed state found) :
    Consistent (state.apply (.store env lootSlot player)) := by
  unfold CountedLoot.apply CountedLoot.lift Loot.StoreLootItem
  dsimp only
  split
  · exact hold
  rename_i found htarget
  have hclaimed := hclean found htarget
  obtain ⟨hfound, stored, hstored, hlooted⟩ := storeTarget_spec htarget
  rcases LootItemInSlot_cases hfound with
    ⟨list, position, entry, item, hfind, hentry, hnotLooted, hitem, rfl⟩ |
    ⟨item, ffaitem, hitem, hffa, hmarked, rfl⟩ | ⟨item, conditem, hitem, hffa, hmarked, rfl⟩
  · have hsame : some stored = some item := hstored.symm.trans hitem
    cases hsame
    exact hold.storeQuest hfind hentry hnotLooted hitem hlooted
  · have hsame : some stored = some item := hstored.symm.trans hitem
    cases hsame
    have hlisted := hclaimed stored hitem
    rw [if_pos hffa] at hlisted
    cases ffaitem with
    | none => exact absurd rfl hlisted
    | some position =>
      obtain ⟨list, entry, hfind, hentry, hindex, hnotLooted⟩ := hmarked position rfl
      exact hold.storeFFA hitem hffa hlooted hfind hentry hindex hnotLooted
  · have hsame : some stored = some item := hstored.symm.trans hitem
    cases hsame
    have hcounted := hclaimed stored hitem
    rw [if_neg (eq_false_iff.mp hffa)] at hcounted
    exact hold.storeItem hitem hffa hlooted hmarked hcounted

end

theorem Fresh.store {loot : Loot} (hfresh : Fresh loot) (lootSlot : ℕ) :
    Fresh (loot.StoreLootItem env lootSlot player) := by
  unfold Loot.StoreLootItem
  split
  · exact hfresh
  rename_i found htarget
  rcases LootItemInSlot_cases (storeTarget_spec htarget).1 with
    ⟨list, position, entry, item, hfind, hentry, -, hitem, rfl⟩ |
    ⟨item, ffaitem, -, -, -, rfl⟩ | ⟨item, conditem, -, -, -, rfl⟩
  · intro index item' hitem' hblocked'
    have hbefore : ∃ before, loot.quest_items[index]? = some before ∧
        item' = if entry.index = index then storedItem before else before := by
      change (loot.quest_items.modify entry.index storedItem)[index]? = some item' at hitem'
      rw [List.getElem?_modify] at hitem'
      obtain ⟨before, hbefore, heq⟩ := map_eq_some_iff.mp hitem'
      exact ⟨before, hbefore, heq.symm⟩
    obtain ⟨before, hbefore, rfl⟩ := hbefore
    have hkeeps : before.is_blocked = false ∧
        (if entry.index = index then storedItem before else before).freeforall =
          before.freeforall := by
      by_cases heq : entry.index = index
      · rw [if_pos heq] at hblocked' ⊢
        rw [(storedItem_spec before).2.2.1] at hblocked'
        exact ⟨hblocked', (storedItem_spec before).1⟩
      · rw [if_neg heq] at hblocked' ⊢
        exact ⟨hblocked', rfl⟩
    obtain ⟨hlooted, hnone⟩ := hfresh index before hbefore hkeeps.1
    refine ⟨?_, fun hffa => ?_⟩
    · split
      case isTrue heq =>
        subst heq
        cases hffa : before.freeforall with
        | true => rwa [storedItem, if_pos hffa]
        | false =>
          -- The player has an entry for the item.
          have hlist := @countP_le_entryCount _ player list
            (fun other => other.index = entry.index) hfind
          have hpos : 0 < list.countP fun other => other.index = entry.index := by
            rw [countP_pos_iff]
            exact ⟨entry, mem_of_getElem? hentry, decide_eq_true rfl⟩
          have hzero := hnone hffa
          omega
      case isFalse => exact hlooted
    · rw [hkeeps.2] at hffa
      exact (entryCount_index_markEntry hfind hentry index).trans (hnone hffa)
  · exact hfresh
  · exact hfresh

theorem view_of_not_hides {loot : Loot} {viewer : ℕ} {permission : PermissionTypes}
    (hwf : WellFormed loot)
    (hshown : permission ≠ .NONE_PERMISSION → ∀ entry ∈ listOf loot.PlayerQuestItems viewer,
      hides env viewer loot.quest_items entry = false) :
    (Loot.view env viewer permission loot).2 = loot := by
  unfold Loot.view
  split
  · rfl
  rename_i hperm
  have hshown := hshown hperm
  unfold Loot.questEntries
  rcases hfind : loot.PlayerQuestItems.find? viewer with _ | list
  · rfl
  obtain ⟨-, hafter, -, hitems⟩ := questWalk_spec env viewer permission loot.items.length 0
    loot.quest_items (hwf.quest viewer list hfind).nodup
  have hlist : listOf loot.PlayerQuestItems viewer = list := by
    rw [listOf, hfind, getD_some]
  rw [hlist] at hshown
  have hsame : (Loot.questWalk env viewer permission loot.items.length 0 loot.quest_items
      list).2.1 = list := by
    rw [hafter]
    calc list.map (fun entry => if hides env viewer loot.quest_items entry then
            { entry with is_looted := true } else entry)
        = list.map id := by
          apply map_congr_left
          intro entry hmem
          rw [hshown entry hmem, if_neg Bool.false_ne_true, id]
      _ = list := List.map_id list
  have hquest : (Loot.questWalk env viewer permission loot.items.length 0 loot.quest_items
      list).2.2 = loot.quest_items := by
    apply ext_getElem?
    intro index
    exact hitems index fun entry hmem _ => hshown entry hmem
  dsimp only
  rw [hsame, hquest, StdMap.insert_of_find? hfind]

end AzerothCore.Looting

/-!
## The counter of a loot

A loot is filled step by step and then used. In every run whose steps take out
what they count, the counter is the number of outstanding entries.
-/

namespace AzerothCore.Looting

open List Option
open AzerothCore.Reachability

section Filling

variable (env : LootEnv)

def FilledBy (before after : CountedLoot) : Prop :=
  ∃ ops : List LootOp, (∀ op ∈ ops, op.isFill = true) ∧ ops.foldl CountedLoot.apply before = after

theorem FilledBy.refl (state : CountedLoot) : FilledBy state state := ⟨[], nofun, rfl⟩

theorem FilledBy.one (state : CountedLoot) (op : LootOp) (hfill : op.isFill = true) :
    FilledBy state (state.apply op) :=
  ⟨[op], fun _ hmem => mem_singleton.mp hmem ▸ hfill, rfl⟩

theorem FilledBy.trans {first second third : CountedLoot} (hfirst : FilledBy first second)
    (hsecond : FilledBy second third) : FilledBy first third := by
  obtain ⟨ops, hops, rfl⟩ := hfirst
  obtain ⟨ops', hops', rfl⟩ := hsecond
  refine ⟨ops ++ ops', fun op hmem => ?_, foldl_append⟩
  exact (mem_append.mp hmem).elim (hops op) (hops' op)

theorem FilledBy.foldl {α : Type*} {f : CountedLoot → α → CountedLoot}
    (hstep : ∀ state a, FilledBy state (f state a)) (list : List α) (state : CountedLoot) :
    FilledBy state (list.foldl f state) := by
  induction list generalizing state with
  | nil => exact FilledBy.refl state
  | cons a list ih => exact (hstep state a).trans (ih (f state a))

end Filling

section Steps

variable {state : CountedLoot} {run run' : LootRun} {op : LootOp}

theorem Consistent.fill (hold : Consistent state) (hfresh : Fresh state.loot)
    (hfill : op.isFill = true) (hclean : Clean ⟨state, false⟩ op) :
    Consistent (state.apply op) ∧ Fresh (state.apply op).loot := by
  cases op with
  | setOwner | setRoundRobin => exact ⟨hold.quiet ⟨rfl, rfl, rfl, rfl, rfl, rfl, rfl⟩, hfresh⟩
  | addStack env proto item count lookers => exact hold.addStack hfresh hclean
  | fillQuest env player => exact hold.fillQuest hfresh hclean
  | fillFFA env player => exact hold.fillFFA hfresh hclean
  | fillConditional env player => exact hold.fillConditional hfresh hclean
  | underthreshold env threshold =>
    refine ⟨hold.quiet ⟨?_, rfl, rfl, rfl, rfl, rfl, rfl⟩, hfresh⟩
    change (state.loot.items.map _).map core = state.loot.items.map core
    rw [List.map_map]
    apply map_congr_left
    intro item _
    rw [Function.comp_apply]
    split
    · rfl
    split
    · rfl
    · rfl
  | filled => exact ⟨hold, hfresh⟩
  | store env lootSlot player => exact ⟨hold.store hclean, hfresh.store lootSlot⟩
  | give | rollStarted | rollStored | rollKept | rollPassed | view | lootMoney => cases hfill

theorem Consistent.modify (hold : Consistent state) {f : LootItem → LootItem} (ref : ItemRef)
    (hcore : ∀ item, core (f item) = core item) :
    Consistent (state.lift (Loot.modify · f ref)) := by
  apply hold.quiet
  cases ref with
  | item index => exact ⟨map_core_modify _ _ hcore, rfl, rfl, rfl, rfl, rfl, rfl⟩
  | quest index => exact ⟨rfl, map_core_modify _ _ hcore, rfl, rfl, rfl, rfl, rfl⟩

theorem Consistent.use (hold : Consistent state) (huse : op.isUse = true)
    (hclean : Clean ⟨state, true⟩ op) : Consistent (state.apply op) := by
  cases op with
  | setRoundRobin | lootMoney => exact hold.quiet ⟨rfl, rfl, rfl, rfl, rfl, rfl, rfl⟩
  | store env lootSlot player => exact hold.store hclean
  | give env slotid target => exact hold.give hclean
  | rollStarted itemSlot => exact hold.modify (state.loot.rollItem itemSlot) fun _ => rfl
  | rollStored itemSlot => exact hold.rollStored hclean
  | rollKept itemSlot winner => exact hold.modify (state.loot.rollItem itemSlot) fun _ => rfl
  | rollPassed itemSlot => exact hold.modify (state.loot.rollItem itemSlot) fun _ => rfl
  | view env viewer permission =>
    have hsame : state.apply (.view env viewer permission) = state := by
      rw [CountedLoot.apply, CountedLoot.lift, view_of_not_hides hold.wf hclean]
    rw [hsame]
    exact hold
  | setOwner | addStack | fillQuest | fillFFA | fillConditional | underthreshold | filled =>
    cases huse

def Accounted (run : LootRun) : Prop :=
  Consistent run.state ∧ (run.filled = false → Fresh run.state.loot)

theorem Accounted.step (hold : Accounted run) (hclean : Clean run op)
    (hstep : run.step op = some run') : Accounted run' := by
  obtain ⟨hcons, hfresh⟩ := hold
  obtain ⟨state, filled⟩ := run
  unfold LootRun.step at hstep
  cases filled with
  | true =>
    rw [if_pos rfl] at hstep
    split at hstep
    case isFalse => cases hstep
    rename_i huse
    cases hstep
    exact ⟨hcons.use huse hclean, nofun⟩
  | false =>
    rw [if_neg Bool.false_ne_true] at hstep
    split at hstep
    case isFalse => cases hstep
    rename_i hfill
    cases hstep
    obtain ⟨hafter, hfreshAfter⟩ := hcons.fill (hfresh rfl) hfill hclean
    exact ⟨hafter, fun _ => hfreshAfter⟩

def ClearedRun (run : LootRun) : Prop :=
  ∃ gold containerGUID source, run = ⟨⟨clearedLoot gold containerGUID source, []⟩, false⟩

theorem Accounted.of_cleared (hcleared : ClearedRun run) : Accounted run := by
  obtain ⟨gold, containerGUID, source, rfl⟩ := hcleared
  have hzero : outstandingCount ⟨clearedLoot gold containerGUID source, []⟩ = 0 := rfl
  refine ⟨⟨⟨?_, ?_, ?_, ?_, ?_⟩, ?_, ?_, ?_, ?_⟩, ?_⟩
  · exact Nat.zero_le _
  · exact Nat.zero_le _
  · exact fun player list hfind => nomatch (StdMap.find?_empty player).symm.trans hfind
  · exact fun player list hfind => nomatch (StdMap.find?_empty player).symm.trans hfind
  · exact fun player list hfind => nomatch (StdMap.find?_empty player).symm.trans hfind
  · exact nofun
  · exact nofun
  · exact hzero.symm
  · exact hzero.le.trans (Nat.zero_le 255)
  · exact nofun

theorem accounted_of_reachable (hreach : Reachable ClearedRun
    (guarded Clean (computed LootRun.step)) run) : Accounted run := by
  apply hreach.invariant Accounted
  · intro run hcleared
    exact Accounted.of_cleared hcleared
  · rintro before op after hold ⟨hclean, hstep⟩
    exact hold.step hclean hstep

theorem outstandingOf_of_looted {ref : ItemRef} {item : LootItem}
    (hitem : state.loot.get ref = some item) (hlooted : item.is_looted = true) :
    outstandingOf state ref = 0 := by
  have hnone : ∀ (items : List LootItem) (index : ℕ) (map : StdMap ℕ (List QuestItem)),
      items[index]? = some item →
      entryCount (fun entry => isOut items entry && entry.index = index) map = 0 := by
    intro items index map hat
    have hfalse : entryCount (fun entry => isOut items entry && entry.index = index) map =
        entryCount (fun _ => false) map := by
      apply entryCount_congr
      intro _ _ _ entry _
      by_cases heq : entry.index = index
      · rw [isOut, heq, hat, any_some, outstanding, hlooted, Bool.not_true, Bool.and_false,
          Bool.false_and]
      · rw [decide_eq_false heq, Bool.and_false]
    exact hfalse.trans entryCount_false
  cases ref with
  | item index =>
    have hat : state.loot.items[index]? = some item := hitem
    rw [outstandingOf, hnone _ index _ hat, countedAt, hat, any_some, hlooted, Bool.not_true,
      Bool.and_false, if_neg Bool.false_ne_true]
  | quest index => exact hnone _ index _ hitem

end Steps

/-- In a run of clean steps the counter is the number of outstanding entries.
What is looted is not taken again. -/
theorem unlootedCount_exact {run : LootRun}
    (hreach : Reachable ClearedRun (guarded Clean (computed LootRun.step)) run) :
    run.state.loot.unlootedCount = outstandingCount run.state ∧ (run.state.loot.isLooted = true ↔
        run.state.loot.gold = 0 ∧ outstandingCount run.state = 0) ∧
      (∀ env lootSlot player found item,
        run.state.loot.LootItemInSlot env lootSlot player = some found →
        run.state.loot.get found.ref = some item → item.is_looted = true →
        run.state.loot.StoreLootItem env lootSlot player = run.state.loot) ∧
      (∀ env slotid target ref item, run.state.loot.masterGiveItem slotid = some ref →
        run.state.loot.get ref = some item → item.is_looted = true →
        Clean run (.give env slotid target) →
        run.state.loot.give env slotid target = run.state.loot) := by
  obtain ⟨hconsistent, -⟩ := accounted_of_reachable hreach
  refine ⟨hconsistent.count, ?_, ?_, ?_⟩
  · rw [Loot.isLooted, Bool.and_eq_true, decide_eq_true_eq, decide_eq_true_eq, hconsistent.count]
  · intro env lootSlot player found item hfound hitem hlooted
    exact StoreLootItem_of_looted hfound hitem hlooted
  · intro env slotid target ref item hslot hitem hlooted hclean
    have hnone := outstandingOf_of_looted hitem hlooted
    unfold Loot.give Loot.HandleLootMasterGive
    rw [hslot]
    dsimp only
    rw [hitem]
    dsimp only
    cases hmay : env.CanStoreNewItem target item.itemid item.count &&
        run.state.loot.allowed env item target with
    | false => rfl
    | true =>
      have hone := hclean ref item hslot hitem hmay
      omega

def thresholdItem : List LootOp :=
  [.setOwner 1,
    .addStack permissiveEnv ⟨0, 1, 0, 0, 0, 0, 0, 0, 0, 0, 1, false⟩ ⟨100, false, []⟩ 1 [1, 2],
    .setRoundRobin 1,
    .fillQuest permissiveEnv 1, .fillFFA permissiveEnv 1, .fillConditional permissiveEnv 1,
    .fillQuest permissiveEnv 2, .fillFFA permissiveEnv 2, .fillConditional permissiveEnv 2,
    .underthreshold permissiveEnv 2, .filled]

/-- The master looter takes the item and then gives it away: the counter wraps
and the loot counts as not looted. -/
theorem unlootedCount_wraps : ∃ run : LootRun, Reachable ClearedRun (computed LootRun.step) run ∧
      run.state.loot.gold = 0 ∧ outstandingCount run.state = 0 ∧
      run.state.loot.unlootedCount = 255 ∧ run.state.loot.isLooted = false := by
  have hrun : ((thresholdItem ++
      [LootOp.store permissiveEnv 0 1, LootOp.give permissiveEnv 0 2]).foldlM
      LootRun.step ⟨⟨clearedLoot 0 0 0, []⟩, false⟩).map (fun run =>
        (run.state.loot.gold, outstandingCount run.state, run.state.loot.unlootedCount,
          run.state.loot.isLooted)) = some (0, 0, 255, false) := by
    decide +kernel
  obtain ⟨run, hrun, hvalues⟩ := map_eq_some_iff.mp hrun
  have hreach : Reachable ClearedRun (computed LootRun.step) run :=
    Reachable.foldlM (.start ⟨0, 0, 0, rfl⟩) hrun
  simp only [Prod.mk.injEq] at hvalues
  exact ⟨run, hreach, hvalues⟩

/-- The counter of a loot whose one item is seen and then stored. -/
theorem unlootedCount_exact_stored : ∃ run : LootRun,
    Reachable ClearedRun (guarded Clean (computed LootRun.step)) run ∧
      run.state.loot.items.map LootItem.is_looted = [true] ∧
      run.state.loot.unlootedCount = outstandingCount run.state := by
  have hrun : ((thresholdItem ++
      [LootOp.view permissiveEnv 1 .MASTER_PERMISSION, LootOp.store permissiveEnv 0 1]).foldlM
      (tested Clean LootRun.step) ⟨⟨clearedLoot 0 0 0, []⟩, false⟩).map (fun run =>
        run.state.loot.items.map LootItem.is_looted) = some [true] := by
    decide +kernel
  obtain ⟨run, hrun, hlooted⟩ := map_eq_some_iff.mp hrun
  have hreach : Reachable ClearedRun (guarded Clean (computed LootRun.step)) run :=
    Reachable.tested_foldlM (.start ⟨0, 0, 0, rfl⟩) hrun
  exact ⟨run, hreach, hlooted, (unlootedCount_exact hreach).1⟩

end AzerothCore.Looting
