import AzerothCore.Common.Define
import Mathlib.Data.List.Basic

/-!
# The buyback slots of a player

A sold item goes to the slot of a cursor, or, when that slot is taken, to a slot that
is searched for. The search gives up the free slot it finds: `slot` is assigned twice.
-/

namespace AzerothCore.BuyBack
open List Option Nat

def BUYBACK_SLOT_START : ℕ := 74
def BUYBACK_SLOT_END : ℕ := 86

def buybackSlots : List ℕ := List.range' BUYBACK_SLOT_START (BUYBACK_SLOT_END - BUYBACK_SLOT_START)

/-- The fields of a player that the two functions use; items are their GUIDs, and the
three fields of the client are counted from the first slot. -/
structure Player where
  m_items : ℕ → Option ℕ
  vendorBuyback : ℕ → ℕ
  buybackPrice : ℕ → ℕ
  buybackTimestamp : ℕ → ℕ
  m_currentBuybackSlot : ℕ
  m_logintime : ℤ
  /-- The items in the state `ITEM_REMOVED`. -/
  removed : List ℕ

namespace Player

def setField (field : ℕ → ℕ) (index value : ℕ) : ℕ → ℕ :=
  fun other => if other = index then value else field other

def setItem (player : Player) (slot : ℕ) (pItem : Option ℕ) : Player :=
  { player with m_items := fun other => if other = slot then pItem else player.m_items other }

def setBuyback (player : Player) (eslot guid price timestamp : ℕ) : Player :=
  { player with
    vendorBuyback := setField player.vendorBuyback eslot guid
    buybackPrice := setField player.buybackPrice eslot price
    buybackTimestamp := setField player.buybackTimestamp eslot timestamp }

def RemoveItemFromBuyBackSlot (player : Player) (slot : ℕ) (del : Bool) : Player :=
  if BUYBACK_SLOT_START ≤ slot ∧ slot < BUYBACK_SLOT_END then
    let removed := if del then (player.m_items slot).toList ++ player.removed else player.removed
    let emptied := ({ player with removed }.setItem slot none).setBuyback
      (slot - BUYBACK_SLOT_START) 0 0 0
    if (emptied.m_items emptied.m_currentBuybackSlot).isSome then
      { emptied with m_currentBuybackSlot := slot }
    else emptied
  else player

/-- The search for a free slot or the oldest item: `slot` and `oldest_slot` at its end. -/
def search (player : Player) (slot oldest_time oldest_slot : ℕ) : List ℕ → ℕ × ℕ
  | [] => (slot, oldest_slot)
  | i :: slots =>
    if player.m_items i = none then (i, oldest_slot)
    else
      let i_time := player.buybackTimestamp (i - BUYBACK_SLOT_START)
      if oldest_time > i_time then player.search slot i_time i slots
      else player.search slot oldest_time oldest_slot slots

def slotFor (player : Player) : ℕ :=
  let slot := player.m_currentBuybackSlot
  if (player.m_items slot).isSome then
    -- the free slot in the first component is overwritten with the oldest one
    (player.search slot (player.buybackTimestamp 0) BUYBACK_SLOT_START buybackSlots.tail).2
  else slot

def AddItemToBuyBackSlot (player : Player) (pItem : Option ℕ) (money : ℕ) (now : ℤ) : Player :=
  match pItem with
  | none => player
  | some guid =>
    let slot := player.slotFor
    let etime := toUint32 (now - player.m_logintime + 30 * 3600)
    let added := ((player.RemoveItemFromBuyBackSlot slot true).setItem slot (some guid)).setBuyback
      (slot - BUYBACK_SLOT_START) guid money etime
    if added.m_currentBuybackSlot < BUYBACK_SLOT_END - 1 then
      { added with m_currentBuybackSlot := added.m_currentBuybackSlot + 1 }
    else added

end Player

inductive Call where
  | add (pItem : Option ℕ) (money : ℕ) (now : ℤ)
  | remove (slot : ℕ) (del : Bool)

def Call.apply (player : Player) : Call → Player
  | add pItem money now => player.AddItemToBuyBackSlot pItem money now
  | remove slot del => player.RemoveItemFromBuyBackSlot slot del

def created (m_logintime : ℤ) : Player where
  m_items _ := none
  vendorBuyback _ := 0
  buybackPrice _ := 0
  buybackTimestamp _ := 0
  m_currentBuybackSlot := BUYBACK_SLOT_START
  m_logintime := m_logintime
  removed := []

def Along (condition : Player → Call → Prop) : Player → List Call → Prop
  | _, [] => True
  | player, call :: calls => condition player call ∧ Along condition (call.apply player) calls

def SameSlot (before after : Player) (slot : ℕ) : Prop :=
  after.m_items slot = before.m_items slot ∧
    let eslot := slot - BUYBACK_SLOT_START
    after.vendorBuyback eslot = before.vendorBuyback eslot ∧
    after.buybackPrice eslot = before.buybackPrice eslot ∧
    after.buybackTimestamp eslot = before.buybackTimestamp eslot

def Full (player : Player) : Prop := ∀ slot ∈ buybackSlots, player.m_items slot ≠ none

/-- Only one slot changes, and an item is lost only when every slot is taken, and then
no other item is older. -/
def Proper (player : Player) : Call → Prop
  | call@(.add (some guid) _ _) =>
    ∃ slot ∈ buybackSlots, (call.apply player).m_items slot = some guid ∧
      (∀ other ∈ buybackSlots, other ≠ slot → SameSlot player (call.apply player) other) ∧
      (player.m_items slot ≠ none → Full player ∧ ∀ other ∈ buybackSlots,
        player.buybackTimestamp (slot - BUYBACK_SLOT_START) ≤
          player.buybackTimestamp (other - BUYBACK_SLOT_START))
  | call@(.add none _ _) => ∀ slot ∈ buybackSlots, SameSlot player (call.apply player) slot
  | call@(.remove slot _) =>
    ∀ other ∈ buybackSlots, other ≠ slot → SameSlot player (call.apply player) other

/-- Where an item is added, the slot of the cursor is free, or the first slot is, or
none is. -/
def Searchable (player : Player) : Call → Prop
  | .add (some _) _ _ =>
    player.m_items player.m_currentBuybackSlot = none ∨
      player.m_items BUYBACK_SLOT_START = none ∨ Full player
  | _ => True

instance (player : Player) : Decidable (Full player) :=
  inferInstanceAs (Decidable (∀ slot ∈ buybackSlots, _))

instance : ∀ (player : Player) (call : Call), Decidable (Searchable player call)
  | player, .add (some _) _ _ => inferInstanceAs (Decidable (_ ∨ _ ∨ Full player))
  | _, .add none _ _ => isTrue trivial
  | _, .remove _ _ => isTrue trivial

instance (condition : Player → Call → Prop) [∀ player call, Decidable (condition player call)] :
    ∀ (player : Player) (calls : List Call), Decidable (Along condition player calls)
  | _, [] => isTrue trivial
  | player, call :: calls =>
    have := instDecidableAlong condition (call.apply player) calls
    inferInstanceAs (Decidable (_ ∧ _))

variable {player before after last : Player} {slot other oldest_time oldest_slot i guid : ℕ}
  {slots : List ℕ} {call : Call} {calls : List Call}

theorem mem_buybackSlots :
    slot ∈ buybackSlots ↔ BUYBACK_SLOT_START ≤ slot ∧ slot < BUYBACK_SLOT_END :=
  mem_range'_1

theorem buybackSlots_eq : buybackSlots = BUYBACK_SLOT_START :: buybackSlots.tail := rfl

theorem search_mem :
    (player.search slot oldest_time oldest_slot slots).2 ∈ oldest_slot :: slots := by
  induction slots generalizing oldest_time oldest_slot with
  | nil => exact mem_cons_self
  | cons i slots ih =>
    rw [Player.search]
    split
    · exact mem_cons_self
    dsimp only
    split
    · exact mem_cons_of_mem _ ih
    rcases mem_cons.mp ih with heq | hmem
    · rw [heq]
      exact mem_cons_self
    · exact mem_cons_of_mem _ (mem_cons_of_mem _ hmem)

theorem search_ne_none (holdest : player.m_items oldest_slot ≠ none) :
    player.m_items (player.search slot oldest_time oldest_slot slots).2 ≠ none := by
  induction slots generalizing oldest_time oldest_slot with
  | nil => exact holdest
  | cons i slots ih =>
    rw [Player.search]
    split
    · exact holdest
    rename_i hi
    dsimp only
    split
    · exact ih hi
    · exact ih holdest

theorem search_zero : (player.search slot 0 oldest_slot slots).2 = oldest_slot := by
  induction slots with
  | nil => rfl
  | cons i slots ih =>
    rw [Player.search]
    split
    · rfl
    · exact ih

theorem search_oldest (hfull : ∀ i ∈ slots, player.m_items i ≠ none)
    (htime : oldest_time = player.buybackTimestamp (oldest_slot - BUYBACK_SLOT_START)) :
    ∀ i ∈ oldest_slot :: slots, player.buybackTimestamp
      ((player.search slot oldest_time oldest_slot slots).2 - BUYBACK_SLOT_START) ≤
        player.buybackTimestamp (i - BUYBACK_SLOT_START) := by
  induction slots generalizing oldest_time oldest_slot with
  | nil =>
    intro i hi
    rw [mem_singleton.mp hi]
    exact le_rfl
  | cons next slots ih =>
    obtain ⟨hnext, hslots⟩ := forall_mem_cons.mp hfull
    rw [Player.search, if_neg hnext]
    dsimp only
    split
    · rename_i hlt
      obtain ⟨hle, hrest⟩ := forall_mem_cons.mp (ih hslots rfl)
      rw [forall_mem_cons, forall_mem_cons]
      exact ⟨hle.trans (htime ▸ hlt.le), hle, hrest⟩
    · rename_i hge
      obtain ⟨hle, hrest⟩ := forall_mem_cons.mp (ih hslots htime)
      rw [forall_mem_cons, forall_mem_cons]
      exact ⟨hle, hle.trans (htime ▸ not_lt.mp hge), hrest⟩

theorem SameSlot.trans (hfirst : SameSlot before after slot) (hsecond : SameSlot after last slot) :
    SameSlot before last slot :=
  ⟨hsecond.1.trans hfirst.1, hsecond.2.1.trans hfirst.2.1, hsecond.2.2.1.trans hfirst.2.2.1,
    hsecond.2.2.2.trans hfirst.2.2.2⟩

theorem sameSlot_write {pItem : Option ℕ} {guid price timestamp : ℕ} (hne : other ≠ slot)
    (hslot : slot ∈ buybackSlots) (hother : other ∈ buybackSlots) :
    SameSlot player ((player.setItem slot pItem).setBuyback (slot - BUYBACK_SLOT_START) guid price
      timestamp) other := by
  have hindex : other - BUYBACK_SLOT_START ≠ slot - BUYBACK_SLOT_START := by
    rw [mem_buybackSlots] at hslot hother
    omega
  exact ⟨if_neg hne, if_neg hindex, if_neg hindex, if_neg hindex⟩

structure Sound (player : Player) : Prop where
  cursor : player.m_currentBuybackSlot ∈ buybackSlots
  cleared : ∀ slot ∈ buybackSlots, player.m_items slot = none →
    player.buybackTimestamp (slot - BUYBACK_SLOT_START) = 0

theorem sound_created (m_logintime : ℤ) : Sound (created m_logintime) :=
  ⟨mem_cons_self, fun _ _ _ => rfl⟩

theorem Sound.of_sameSlot (hsound : Sound before)
    (hcursor : after.m_currentBuybackSlot ∈ buybackSlots)
    (hothers : ∀ other ∈ buybackSlots, other ≠ slot → SameSlot before after other)
    (hslot : after.m_items slot = none →
      after.buybackTimestamp (slot - BUYBACK_SLOT_START) = 0) : Sound after := by
  refine ⟨hcursor, fun other hother hnone => ?_⟩
  by_cases heq : other = slot
  · subst heq
    exact hslot hnone
  · have hsame := hothers other hother heq
    exact hsame.2.2.2.trans (hsound.cleared other hother (hsame.1 ▸ hnone))

theorem remove_eq (player : Player) (del : Bool) (hslot : slot ∈ buybackSlots) :
    ∃ removed, ∃ cursor ∈ [player.m_currentBuybackSlot, slot],
      player.RemoveItemFromBuyBackSlot slot del =
        { (player.setItem slot none).setBuyback (slot - BUYBACK_SLOT_START) 0 0 0 with
          removed := removed, m_currentBuybackSlot := cursor } := by
  rw [Player.RemoveItemFromBuyBackSlot, if_pos (mem_buybackSlots.mp hslot)]
  dsimp only
  generalize (if del = true then (player.m_items slot).toList ++ player.removed
    else player.removed) = removed
  split
  · exact ⟨_, slot, mem_cons_of_mem _ mem_cons_self, rfl⟩
  · exact ⟨_, _, mem_cons_self, rfl⟩

theorem remove_outside {del : Bool} (hslot : slot ∉ buybackSlots) :
    player.RemoveItemFromBuyBackSlot slot del = player :=
  if_neg fun hrange => hslot (mem_buybackSlots.mpr hrange)

theorem remove_sameSlot {del : Bool} (hne : other ≠ slot) (hother : other ∈ buybackSlots) :
    SameSlot player (player.RemoveItemFromBuyBackSlot slot del) other := by
  by_cases hslot : slot ∈ buybackSlots
  · obtain ⟨removed, cursor, -, heq⟩ := remove_eq player del hslot
    rw [heq]
    exact sameSlot_write hne hslot hother
  · rw [remove_outside hslot]
    exact ⟨rfl, rfl, rfl, rfl⟩

theorem Sound.remove {del : Bool} (hsound : Sound player) :
    Sound (player.RemoveItemFromBuyBackSlot slot del) := by
  by_cases hslot : slot ∈ buybackSlots
  · apply hsound.of_sameSlot _ fun other hother hne => remove_sameSlot hne hother
    · obtain ⟨removed, cursor, -, heq⟩ := remove_eq player del hslot
      intro _
      rw [heq]
      exact if_pos rfl
    · obtain ⟨removed, cursor, hcursor, heq⟩ := remove_eq player del hslot
      rw [heq]
      rcases mem_cons.mp hcursor with rfl | hcursor
      · exact hsound.cursor
      · rw [mem_singleton.mp hcursor]
        exact hslot
  · rw [remove_outside hslot]
    exact hsound

theorem Sound.slotFor_mem (hsound : Sound player) : player.slotFor ∈ buybackSlots := by
  unfold Player.slotFor
  dsimp only
  split
  · rw [buybackSlots_eq]
    exact search_mem
  · exact hsound.cursor

section
variable {money : ℕ} {now : ℤ}

theorem add_item :
    (player.AddItemToBuyBackSlot (some guid) money now).m_items player.slotFor = some guid := by
  unfold Player.AddItemToBuyBackSlot
  dsimp only
  split <;> exact if_pos rfl

theorem add_sameSlot (hslot : player.slotFor ∈ buybackSlots) (hne : other ≠ player.slotFor)
    (hother : other ∈ buybackSlots) :
    SameSlot player (player.AddItemToBuyBackSlot (some guid) money now) other := by
  have hremoved : SameSlot player (player.RemoveItemFromBuyBackSlot player.slotFor true) other :=
    remove_sameSlot hne hother
  unfold Player.AddItemToBuyBackSlot
  dsimp only
  split <;> exact hremoved.trans (sameSlot_write hne hslot hother)

theorem Sound.add (hsound : Sound player) :
    Sound (player.AddItemToBuyBackSlot (some guid) money now) := by
  apply hsound.of_sameSlot _ fun other hother hne => add_sameSlot hsound.slotFor_mem hne hother
  · intro hnone
    rw [add_item] at hnone
    cases hnone
  · have hremoved : Sound (player.RemoveItemFromBuyBackSlot player.slotFor true) := hsound.remove
    have hcursor := mem_buybackSlots.mp hremoved.cursor
    unfold Player.AddItemToBuyBackSlot
    dsimp only
    split
    · rename_i hlt
      exact mem_buybackSlots.mpr ⟨hcursor.1.trans (le_succ _), add_lt_of_lt_sub hlt⟩
    · exact hremoved.cursor

end

theorem Sound.apply (hsound : Sound player) : Sound (call.apply player) := by
  cases call with
  | add pItem money now =>
    cases pItem with
    | none => exact hsound
    | some guid => exact hsound.add
  | remove slot del => exact hsound.remove

theorem Sound.slotFor_cases (hsound : Sound player) : player.m_items player.slotFor = none ∧
        (player.m_items player.m_currentBuybackSlot = none ∨
          player.m_items BUYBACK_SLOT_START = none) ∨
      player.m_items player.m_currentBuybackSlot ≠ none ∧
        player.m_items BUYBACK_SLOT_START ≠ none ∧ player.m_items player.slotFor ≠ none := by
  unfold Player.slotFor
  dsimp only
  split
  · rename_i hcursor
    rw [isSome_iff_ne_none] at hcursor
    by_cases hstart : player.m_items BUYBACK_SLOT_START = none
    · have htime : player.buybackTimestamp 0 = 0 :=
        hsound.cleared BUYBACK_SLOT_START (buybackSlots_eq ▸ mem_cons_self) hstart
      rw [htime, search_zero]
      exact Or.inl ⟨hstart, Or.inr hstart⟩
    · exact Or.inr ⟨hcursor, hstart, search_ne_none hstart⟩
  · rename_i hcursor
    have hfree := not_isSome_iff_eq_none.mp hcursor
    exact Or.inl ⟨hfree, Or.inl hfree⟩

theorem slotFor_oldest (hcursor : player.m_items player.m_currentBuybackSlot ≠ none)
    (hfull : Full player) : ∀ other ∈ buybackSlots,
      player.buybackTimestamp (player.slotFor - BUYBACK_SLOT_START) ≤
        player.buybackTimestamp (other - BUYBACK_SLOT_START) := by
  rw [Player.slotFor, if_pos (isSome_iff_ne_none.mpr hcursor)]
  exact search_oldest (fun i hi => hfull i (mem_of_mem_tail hi)) rfl

/-- A call does what it should exactly when the search cannot end at an item although
there is a free slot. -/
theorem Sound.proper_iff (hsound : Sound player) : Proper player call ↔ Searchable player call := by
  rcases call with ⟨_ | guid, money, now⟩ | ⟨slot, del⟩
  · exact iff_of_true (fun _ _ => ⟨rfl, rfl, rfl, rfl⟩) trivial
  · have hmem := hsound.slotFor_mem
    constructor
    · rintro ⟨slot, hslot, hadded, -, hfull⟩
      rcases hsound.slotFor_cases with ⟨-, hcursor | hstart⟩ | ⟨-, -, htaken⟩
      · exact Or.inl hcursor
      · exact Or.inr (Or.inl hstart)
      -- were the slot of the witness free, it would have been left as it was
      have hne : player.m_items slot ≠ none := by
        intro hfree
        have hsame : SameSlot player (player.AddItemToBuyBackSlot (some guid) money now) slot :=
          add_sameSlot hmem (fun heq => htaken (heq ▸ hfree)) hslot
        exact some_ne_none guid (hadded.symm.trans (hsame.1.trans hfree))
      exact Or.inr (Or.inr (hfull hne).1)
    · intro hsearch
      refine ⟨player.slotFor, hmem, add_item, fun other hother hne =>
        add_sameSlot hmem hne hother, fun hne => ?_⟩
      obtain ⟨hcursor, hstart, -⟩ := hsound.slotFor_cases.resolve_left fun hfree => hne hfree.1
      have hfull : Full player := (hsearch.resolve_left hcursor).resolve_left hstart
      exact ⟨hfull, slotFor_oldest hcursor hfull⟩
  · exact iff_of_true (fun _ hother hne => remove_sameSlot hne hother) trivial

theorem along_proper_iff (hsound : Sound player) :
    Along Proper player calls ↔ Along Searchable player calls := by
  induction calls generalizing player with
  | nil => exact Iff.rfl
  | cons call calls ih => exact and_congr hsound.proper_iff (ih hsound.apply)

theorem buyback_along_iff (m_logintime : ℤ) (calls : List Call) :
    Along Proper (created m_logintime) calls ↔ Along Searchable (created m_logintime) calls :=
  along_proper_iff (sound_created m_logintime)

def twoBoughtBack : List Call :=
  ((List.range 12).map fun k => Call.add (some (k + 1)) 10 k) ++
    [Call.remove 76 false, Call.remove 75 false, Call.add (some 13) 10 20, Call.add (some 14) 10 21]

/-- The last sale loses the first item while the second slot is free. -/
theorem twoBoughtBack_loses : ¬ Along Proper (created 0) twoBoughtBack := by
  rw [along_proper_iff (sound_created 0)]
  decide

end AzerothCore.BuyBack
