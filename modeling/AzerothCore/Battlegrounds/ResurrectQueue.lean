import AzerothCore.Collections.Reachability
import AzerothCore.Collections.StdMap
import Mathlib.Data.List.Flatten

/-!
# The resurrection queues of a battleground

Players who ask a spirit guide wait in `m_ReviveQueue` under its guid. Every interval all
of them go to `m_ResurrectQueue`, and half a second later they are resurrected.

The players are all those of the server, given by their guids, since the queues are read
with `ObjectAccessor::FindPlayer`. Only players that are members of `m_Players` ask.
-/

namespace AzerothCore.Battlegrounds.SpiritGuides

open Reachability

abbrev ObjectGuid := ℕ

/-- `waitingForResurrect` is whether the player has the aura of the spell of that name. -/
structure Player where
  isInWorld : Bool
  isAlive : Bool
  waitingForResurrect : Bool
  deriving DecidableEq

/-- A call of `ResurrectPlayer` and what was true of the player before. -/
structure Resurrection where
  player : ObjectGuid
  dead : Bool
  participant : Bool
  deriving DecidableEq

structure Battleground where
  players : ObjectGuid → Player
  m_Players : List ObjectGuid
  m_ReviveQueue : StdMap ObjectGuid (List ObjectGuid)
  m_ResurrectQueue : List ObjectGuid
  m_LastResurrectTime : ℕ
  resurrections : List Resurrection

namespace Battleground

def FindPlayer (bg : Battleground) (guid : ObjectGuid) : Bool := (bg.players guid).isInWorld

def modifyPlayer (bg : Battleground) (guid : ObjectGuid) (change : Player → Player) :
    Battleground :=
  { bg with players := Function.update bg.players guid (change (bg.players guid)) }

/-! ## The queue of the spirit guides -/

/-- `aura` is whether the spell that is cast leaves its aura. -/
def AddPlayerToResurrectQueue (bg : Battleground) (npcGuid playerGuid : ObjectGuid)
    (aura : Bool) : Battleground :=
  let list := (bg.m_ReviveQueue.find? npcGuid).getD []
  let bg := { bg with m_ReviveQueue := bg.m_ReviveQueue.insert npcGuid (list ++ [playerGuid]) }
  if bg.FindPlayer playerGuid && aura then
    bg.modifyPlayer playerGuid ({ · with waitingForResurrect := true })
  else bg

/-- The queue without the first place of a player. -/
def takeOut (queue : StdMap ObjectGuid (List ObjectGuid)) (player : ObjectGuid) :
    Option (StdMap ObjectGuid (List ObjectGuid)) :=
  match queue.entries.find? (player ∈ ·.2) with
  | none => none
  | some (guide, list) => some (queue.insert guide (list.erase player))

def RemovePlayerFromResurrectQueue (bg : Battleground) (player : ObjectGuid) : Battleground :=
  match takeOut bg.m_ReviveQueue player with
  | none => bg
  | some queue =>
    let bg := { bg with m_ReviveQueue := queue }
    if (bg.players player).waitingForResurrect then
      let bg := bg.modifyPlayer player ({ · with waitingForResurrect := false })
      match takeOut bg.m_ReviveQueue player with
      | none => bg
      | some queue => { bg with m_ReviveQueue := queue }
    else bg

/-- Those who wait at a node are teleported, which leaves the queue without them. -/
def RelocateDeadPlayers (bg : Battleground) (queueIndex : ObjectGuid) : Battleground :=
  { bg with m_ReviveQueue := bg.m_ReviveQueue.insert queueIndex [] }

def resurrect (bg : Battleground) (guid : ObjectGuid) : Battleground :=
  if bg.FindPlayer guid then
    let resurrection := ⟨guid, !(bg.players guid).isAlive, decide (guid ∈ bg.m_Players)⟩
    { bg.modifyPlayer guid ({ · with isAlive := true }) with
      resurrections := bg.resurrections ++ [resurrection] }
  else bg

def ProcessResurrect (bg : Battleground) (RESURRECTION_INTERVAL diff : ℕ) : Battleground :=
  let bg := { bg with m_LastResurrectTime := (bg.m_LastResurrectTime + diff) % 2 ^ 32 }
  if RESURRECTION_INTERVAL ≤ bg.m_LastResurrectTime then
    { bg with
      m_ReviveQueue := .empty
      m_ResurrectQueue := bg.m_ResurrectQueue ++ (bg.m_ReviveQueue.members id).filter bg.FindPlayer
      m_LastResurrectTime := 0 }
  else if 500 < bg.m_LastResurrectTime then
    { bg.m_ResurrectQueue.foldl resurrect bg with m_ResurrectQueue := [] }
  else bg

def AddPlayer (bg : Battleground) (player : ObjectGuid) : Battleground :=
  if player ∈ bg.m_Players then bg else { bg with m_Players := bg.m_Players ++ [player] }

def RemovePlayerAtLeave (bg : Battleground) (player : ObjectGuid) : Battleground :=
  let bg := { bg with m_Players := bg.m_Players.filter (· ≠ player) }
  let bg := bg.RemovePlayerFromResurrectQueue player
  bg.modifyPlayer player ({ · with isAlive := true })

def removeAura (bg : Battleground) (player : ObjectGuid) : Battleground :=
  if (bg.players player).waitingForResurrect then
    let bg := bg.modifyPlayer player ({ · with waitingForResurrect := false })
    if player ∈ bg.m_Players then bg.RemovePlayerFromResurrectQueue player else bg
  else bg

inductive Op where
  | HandleAreaSpiritHealerQueueOpcode (npcGuid player : ObjectGuid) (aura : Bool)
  | dies (player : ObjectGuid)
  | moves (player : ObjectGuid) (isInWorld : Bool)
  | removeAura (player : ObjectGuid)
  | AddPlayer (player : ObjectGuid)
  | RemovePlayerAtLeave (player : ObjectGuid)
  | RelocateDeadPlayers (queueIndex : ObjectGuid)
  | ProcessResurrect (diff : ℕ)

variable (RESURRECTION_INTERVAL : ℕ)

def step (bg : Battleground) : Op → Option Battleground
  | .HandleAreaSpiritHealerQueueOpcode npcGuid player aura =>
    if player ∈ bg.m_Players then some (bg.AddPlayerToResurrectQueue npcGuid player aura)
    else none
  | .dies player => some (bg.modifyPlayer player ({ · with isAlive := false }))
  | .moves player isInWorld => some (bg.modifyPlayer player ({ · with isInWorld := isInWorld }))
  | .removeAura player => some (bg.removeAura player)
  | .AddPlayer player => some (bg.AddPlayer player)
  | .RemovePlayerAtLeave player => some (bg.RemovePlayerAtLeave player)
  | .RelocateDeadPlayers queueIndex => some (bg.RelocateDeadPlayers queueIndex)
  | .ProcessResurrect diff => some (bg.ProcessResurrect RESURRECTION_INTERVAL diff)

def IsNew (bg : Battleground) : Prop :=
  bg.m_ReviveQueue = .empty ∧ bg.m_ResurrectQueue = [] ∧ bg.resurrections = []

def queued (bg : Battleground) : List ObjectGuid :=
  bg.m_ReviveQueue.members id ++ bg.m_ResurrectQueue

/-- Only dead participants are resurrected, and whoever is not a participant is in no queue. -/
structure QueuesHold (bg : Battleground) : Prop where
  resurrections : ∀ resurrection ∈ bg.resurrections,
    resurrection.dead = true ∧ resurrection.participant = true
  resurrectQueue : ∀ player ∉ bg.m_Players, player ∉ bg.m_ResurrectQueue
  reviveQueue : ∀ player ∉ bg.m_Players, ∀ guide list,
    bg.m_ReviveQueue.find? guide = some list → player ∉ list

/-- Only a dead player who does not wait yet asks, and nobody leaves who is about to be
resurrected. -/
def FitsQueues (bg : Battleground) : Op → Prop
  | .HandleAreaSpiritHealerQueueOpcode _ player _ =>
    (bg.players player).isAlive = false ∧ player ∉ bg.queued
  | .RemovePlayerAtLeave player => player ∉ bg.m_ResurrectQueue
  | _ => True

instance (bg : Battleground) (op : Op) : Decidable (bg.FitsQueues op) :=
  match op with
  | .HandleAreaSpiritHealerQueueOpcode _ player _ =>
    inferInstanceAs (Decidable ((bg.players player).isAlive = false ∧ player ∉ bg.queued))
  | .RemovePlayerAtLeave player => inferInstanceAs (Decidable (player ∉ bg.m_ResurrectQueue))
  | .dies _ | .moves _ _ | .removeAura _ | .AddPlayer _ | .RelocateDeadPlayers _
  | .ProcessResurrect _ => inferInstanceAs (Decidable True)

end Battleground

end AzerothCore.Battlegrounds.SpiritGuides

/-!
## Who is resurrected

The queues take anyone who asks, also twice, and a player who leaves is taken out of
`m_ReviveQueue` only. In the runs in which only dead players who do not wait yet ask, and
nobody leaves in the last half second, everyone in the queues is a dead participant.
-/

namespace AzerothCore.Battlegrounds.SpiritGuides.Battleground

open List Option Function
open Reachability

variable {bg next after : Battleground} {player : ObjectGuid} {RESURRECTION_INTERVAL : ℕ}
  {queue : StdMap ObjectGuid (List ObjectGuid)}

/-! ## Changes that take players out of the queues -/

/-- Nobody comes into a queue or to life, and no participant leaves. -/
structure Shrinks (bg after : Battleground) : Prop where
  dead : ∀ guid, (bg.players guid).isAlive = false → (after.players guid).isAlive = false
  participants : bg.m_Players ⊆ after.m_Players
  subset : after.queued ⊆ bg.queued
  nodup : bg.queued.Nodup → after.queued.Nodup
  resurrections : after.resurrections = bg.resurrections

theorem Shrinks.refl (bg : Battleground) : Shrinks bg bg :=
  ⟨fun _ hdead => hdead, List.Subset.refl _, List.Subset.refl _, fun hnodup => hnodup, rfl⟩

theorem Shrinks.trans (hfirst : Shrinks bg next) (hsecond : Shrinks next after) :
    Shrinks bg after :=
  ⟨fun guid hdead => hsecond.dead guid (hfirst.dead guid hdead),
    List.Subset.trans hfirst.participants hsecond.participants,
    List.Subset.trans hsecond.subset hfirst.subset,
    fun hnodup => hsecond.nodup (hfirst.nodup hnodup),
    hsecond.resurrections.trans hfirst.resurrections⟩

theorem shrinks_modifyPlayer {change : Player → Player}
    (hchange : ∀ player, player.isAlive = false → (change player).isAlive = false) :
    Shrinks bg (bg.modifyPlayer player change) := by
  refine ⟨?_, List.Subset.refl _, List.Subset.refl _, fun hnodup => hnodup, rfl⟩
  intro guid hdead
  change (Function.update bg.players player (change (bg.players player)) guid).isAlive = false
  by_cases hguid : guid = player
  · rw [hguid, update_self]
    exact hchange _ (hguid ▸ hdead)
  · rw [update_of_ne hguid]
    exact hdead

theorem not_mem_of_takeOut (hnone : takeOut queue player = none) : player ∉ queue.members id := by
  unfold takeOut at hnone
  cases hfound : queue.entries.find? (player ∈ ·.2) with
  | some entry =>
    rw [hfound] at hnone
    cases hnone
  | none =>
    intro hmem
    obtain ⟨entry, hentry, hplayer⟩ := mem_flatMap.1 hmem
    exact absurd (decide_eq_true hplayer) (List.find?_eq_none.1 hfound entry hentry)

variable {taken : StdMap ObjectGuid (List ObjectGuid)}

theorem perm_of_takeOut (htaken : takeOut queue player = some taken) :
    (queue.members id).Perm (player :: taken.members id) := by
  unfold takeOut at htaken
  rcases hfound : queue.entries.find? (player ∈ ·.2) with _ | entry
  · rw [hfound] at htaken
    cases htaken
  rw [hfound] at htaken
  cases htaken
  have hplayer := List.find?_some hfound
  have hlist := StdMap.find?_eq_some_iff.2 (mem_of_find?_eq_some hfound)
  apply (StdMap.members_of_find? id hlist).trans
  apply ((perm_cons_erase (of_decide_eq_true hplayer)).append_right _).trans
  exact (queue.members_insert entry.1 (entry.2.erase player) id).symm.cons player

theorem shrinks_takeOut (htaken : takeOut bg.m_ReviveQueue player = some taken) :
    Shrinks bg { bg with m_ReviveQueue := taken } := by
  have hperm : bg.queued.Perm (player :: (taken.members id ++ bg.m_ResurrectQueue)) :=
    (perm_of_takeOut htaken).append_right bg.m_ResurrectQueue
  refine ⟨fun _ hdead => hdead, List.Subset.refl _, ?_, ?_, rfl⟩
  · intro guid hmem
    exact hperm.mem_iff.2 (mem_cons_of_mem _ hmem)
  · intro hnodup
    exact (nodup_cons.1 (hperm.nodup_iff.1 hnodup)).2

theorem not_mem_taken (htaken : takeOut queue player = some taken)
    (hnodup : (queue.members id).Nodup) : player ∉ taken.members id :=
  (nodup_cons.1 ((perm_of_takeOut htaken).nodup_iff.1 hnodup)).1

theorem RemovePlayerFromResurrectQueue_spec (player : ObjectGuid) :
    Shrinks bg (bg.RemovePlayerFromResurrectQueue player) ∧
      (bg.RemovePlayerFromResurrectQueue player).m_Players = bg.m_Players ∧
      (bg.RemovePlayerFromResurrectQueue player).m_ResurrectQueue = bg.m_ResurrectQueue ∧
      ((bg.m_ReviveQueue.members id).Nodup →
        player ∉ (bg.RemovePlayerFromResurrectQueue player).m_ReviveQueue.members id) := by
  unfold RemovePlayerFromResurrectQueue
  rcases htaken : takeOut bg.m_ReviveQueue player with _ | taken
  · exact ⟨Shrinks.refl bg, rfl, rfl, fun _ => not_mem_of_takeOut htaken⟩
  have hfirst := shrinks_takeOut htaken
  dsimp only
  split
  case isFalse => exact ⟨hfirst, rfl, rfl, not_mem_taken htaken⟩
  let ended : Battleground := { bg with m_ReviveQueue := taken }.modifyPlayer player
    ({ · with waitingForResurrect := false })
  have hended : Shrinks bg ended := hfirst.trans (shrinks_modifyPlayer fun _ hdead => hdead)
  cases hagain : takeOut taken player with
  | none =>
    have hsame : takeOut ended.m_ReviveQueue player = none := hagain
    rw [hsame]
    exact ⟨hended, rfl, rfl, not_mem_taken htaken⟩
  | some again =>
    have hsame : takeOut ended.m_ReviveQueue player = some again := hagain
    rw [hsame]
    refine ⟨hended.trans (shrinks_takeOut hsame), rfl, rfl, ?_⟩
    intro hnodup
    apply not_mem_taken hagain
    exact (nodup_cons.1 ((perm_of_takeOut htaken).nodup_iff.1 hnodup)).2

theorem RelocateDeadPlayers_shrinks (queueIndex : ObjectGuid) :
    Shrinks bg (bg.RelocateDeadPlayers queueIndex) := by
  have hperm : ((bg.m_ReviveQueue.insert queueIndex []).members id).Perm
      ((bg.m_ReviveQueue.erase queueIndex).members id) :=
    bg.m_ReviveQueue.members_insert queueIndex [] id
  have hsublist : ((bg.m_ReviveQueue.erase queueIndex).members id).Sublist
      (bg.m_ReviveQueue.members id) := by
    exact filter_sublist.flatMap _
  refine ⟨fun _ hdead => hdead, List.Subset.refl _, ?_, ?_, rfl⟩
  · exact List.Subset.trans (hperm.append_right _).subset (hsublist.append_right _).subset
  · intro hnodup
    exact (hperm.append_right _).nodup_iff.2 (hnodup.sublist (hsublist.append_right _))

theorem removeAura_shrinks (player : ObjectGuid) : Shrinks bg (bg.removeAura player) := by
  have hended : Shrinks bg (bg.modifyPlayer player ({ · with waitingForResurrect := false })) :=
    shrinks_modifyPlayer fun _ hdead => hdead
  unfold removeAura
  split
  case isFalse => exact Shrinks.refl bg
  dsimp only
  split
  · exact hended.trans (RemovePlayerFromResurrectQueue_spec player).1
  · exact hended

theorem resurrect_spec {guid : ObjectGuid} (hdead : (bg.players guid).isAlive = false)
    (hparticipant : guid ∈ bg.m_Players) :
    (bg.resurrect guid).m_ReviveQueue = bg.m_ReviveQueue ∧
      (bg.resurrect guid).m_Players = bg.m_Players ∧
      (∀ other, other ≠ guid → (bg.resurrect guid).players other = bg.players other) ∧
      ∀ resurrection ∈ (bg.resurrect guid).resurrections, resurrection ∈ bg.resurrections ∨
          resurrection.dead = true ∧ resurrection.participant = true := by
  unfold resurrect
  split
  case isFalse => exact ⟨rfl, rfl, fun _ _ => rfl, fun _ hmem => .inl hmem⟩
  refine ⟨rfl, rfl, fun other hother => update_of_ne hother _ _, ?_⟩
  intro resurrection hmem
  cases mem_append.1 hmem with
  | inl hold => exact .inl hold
  | inr hlast =>
    rw [mem_singleton.1 hlast, hdead]
    exact .inr ⟨rfl, decide_eq_true hparticipant⟩

theorem foldl_resurrect {list : List ObjectGuid} (hnodup : list.Nodup)
    (hlist : ∀ guid ∈ list, (bg.players guid).isAlive = false ∧ guid ∈ bg.m_Players) :
    (list.foldl resurrect bg).m_ReviveQueue = bg.m_ReviveQueue ∧
      (list.foldl resurrect bg).m_Players = bg.m_Players ∧
      (∀ guid ∉ list, (list.foldl resurrect bg).players guid = bg.players guid) ∧
      ∀ resurrection ∈ (list.foldl resurrect bg).resurrections, resurrection ∈ bg.resurrections ∨
          resurrection.dead = true ∧ resurrection.participant = true := by
  induction list generalizing bg with
  | nil => exact ⟨rfl, rfl, fun _ _ => rfl, fun _ hmem => .inl hmem⟩
  | cons guid list ih =>
    obtain ⟨hguid, hrest⟩ := nodup_cons.1 hnodup
    obtain ⟨hdead, hparticipant⟩ := hlist guid mem_cons_self
    obtain ⟨hrevive, hplayers, hothers, hresurrections⟩ := resurrect_spec hdead hparticipant
    have hnext : ∀ other ∈ list, ((bg.resurrect guid).players other).isAlive = false ∧
        other ∈ (bg.resurrect guid).m_Players := by
      intro other hother
      rw [hothers other (fun hsame => hguid (hsame ▸ hother)), hplayers]
      exact hlist other (mem_cons_of_mem _ hother)
    obtain ⟨hrevives, hplayerss, hkept, hall⟩ := ih hrest hnext
    refine ⟨hrevives.trans hrevive, hplayerss.trans hplayers, ?_, ?_⟩
    · intro other hother
      obtain ⟨hne, hmem⟩ := not_or.1 (mt mem_cons.2 hother)
      exact (hkept other hmem).trans (hothers other hne)
    · intro resurrection hmem
      cases hall resurrection hmem with
      | inl hfirst => exact hresurrections resurrection hfirst
      | inr hholds => exact .inr hholds

structure Sound (bg : Battleground) : Prop where
  nodup : bg.queued.Nodup
  dead : ∀ guid ∈ bg.queued, (bg.players guid).isAlive = false
  participants : ∀ guid ∈ bg.queued, guid ∈ bg.m_Players
  resurrections : ∀ resurrection ∈ bg.resurrections,
    resurrection.dead = true ∧ resurrection.participant = true

theorem Sound.of_isNew (hnew : bg.IsNew) : bg.Sound := by
  obtain ⟨hrevive, hresurrect, hresurrections⟩ := hnew
  have hnone : bg.queued = [] := by
    unfold queued
    rw [hrevive, hresurrect]
    rfl
  refine ⟨?_, ?_, ?_, ?_⟩
  · rw [hnone]
    exact nodup_nil
  · rw [hnone]
    exact nofun
  · rw [hnone]
    exact nofun
  · rw [hresurrections]
    exact nofun

section

variable (hsound : bg.Sound)
include hsound

theorem Sound.of_shrinks (hshrinks : Shrinks bg after) : after.Sound := by
  refine ⟨hshrinks.nodup hsound.nodup, ?_, ?_, ?_⟩
  · exact fun guid hmem => hshrinks.dead guid (hsound.dead guid (hshrinks.subset hmem))
  · exact fun guid hmem => hshrinks.participants (hsound.participants guid (hshrinks.subset hmem))
  · rw [hshrinks.resurrections]
    exact hsound.resurrections

theorem Sound.AddPlayerToResurrectQueue (npcGuid : ObjectGuid) (aura : Bool)
    (hparticipant : player ∈ bg.m_Players) (hdead : (bg.players player).isAlive = false)
    (hwaits : player ∉ bg.queued) : (bg.AddPlayerToResurrectQueue npcGuid player aura).Sound := by
  let list := (bg.m_ReviveQueue.find? npcGuid).getD []
  let asked : Battleground :=
    { bg with m_ReviveQueue := bg.m_ReviveQueue.insert npcGuid (list ++ [player]) }
  have hmembers : (asked.m_ReviveQueue.members id).Perm
      (player :: bg.m_ReviveQueue.members id) := by
    have hold : (list ++ (bg.m_ReviveQueue.erase npcGuid).members id).Perm
        (bg.m_ReviveQueue.members id) := by
      cases hfound : bg.m_ReviveQueue.find? npcGuid with
      | none =>
        have hlist : list = [] := by
          change (bg.m_ReviveQueue.find? npcGuid).getD [] = []
          rw [hfound]
          rfl
        rw [hlist, StdMap.erase_of_not_mem (StdMap.find?_eq_none_iff.1 hfound)]
        exact List.Perm.refl _
      | some found =>
        have hlist : list = found := by
          change (bg.m_ReviveQueue.find? npcGuid).getD [] = found
          rw [hfound]
          rfl
        rw [hlist]
        exact (StdMap.members_of_find? id hfound).symm
    apply (bg.m_ReviveQueue.members_insert npcGuid (list ++ [player]) id).trans
    change ((list ++ [player]) ++ _).Perm _
    rw [append_assoc]
    exact perm_middle.trans (hold.cons player)
  have hqueued : asked.queued.Perm (player :: bg.queued) :=
    hmembers.append_right bg.m_ResurrectQueue
  have hasked : asked.Sound := by
    refine ⟨hqueued.nodup_iff.2 (nodup_cons.2 ⟨hwaits, hsound.nodup⟩), ?_, ?_, hsound.resurrections⟩
    · intro guid hmem
      cases mem_cons.1 (hqueued.mem_iff.1 hmem) with
      | inl hsame => exact hsame ▸ hdead
      | inr hold => exact hsound.dead guid hold
    · intro guid hmem
      cases mem_cons.1 (hqueued.mem_iff.1 hmem) with
      | inl hsame => exact hsame ▸ hparticipant
      | inr hold => exact hsound.participants guid hold
  unfold Battleground.AddPlayerToResurrectQueue
  dsimp only
  split
  · exact hasked.of_shrinks (shrinks_modifyPlayer fun _ hdead => hdead)
  · exact hasked

theorem Sound.RemovePlayerAtLeave (hwaits : player ∉ bg.m_ResurrectQueue) :
    (bg.RemovePlayerAtLeave player).Sound := by
  let removed : Battleground := { bg with m_Players := bg.m_Players.filter (· ≠ player) }
  obtain ⟨hshrinks, hplayers, hresurrect, hrevive⟩ :=
    @RemovePlayerFromResurrectQueue_spec removed player
  let taken := removed.RemovePlayerFromResurrectQueue player
  have hgone : player ∉ taken.queued := by
    intro hmem
    cases mem_append.1 hmem with
    | inl hmem => exact hrevive (nodup_append.1 hsound.nodup).1 hmem
    | inr hmem =>
      rw [hresurrect] at hmem
      exact hwaits hmem
  refine ⟨hshrinks.nodup hsound.nodup, ?_, ?_, ?_⟩
  · intro guid hmem
    have hne : guid ≠ player := fun hsame => hgone (hsame ▸ hmem)
    change (Function.update taken.players player _ guid).isAlive = false
    rw [update_of_ne hne]
    exact hshrinks.dead guid (hsound.dead guid (hshrinks.subset hmem))
  · intro guid hmem
    have hne : guid ≠ player := fun hsame => hgone (hsame ▸ hmem)
    apply hshrinks.participants
    exact mem_filter.2
      ⟨hsound.participants guid (hshrinks.subset hmem), decide_eq_true hne⟩
  · change ∀ resurrection ∈ taken.resurrections, _
    rw [hshrinks.resurrections]
    exact hsound.resurrections

theorem Sound.release : ({ bg with
        m_ReviveQueue := .empty
        m_ResurrectQueue :=
          bg.m_ResurrectQueue ++ (bg.m_ReviveQueue.members id).filter bg.FindPlayer
        m_LastResurrectTime := 0 } : Battleground).Sound := by
  have hsubperm : (bg.m_ResurrectQueue ++
      (bg.m_ReviveQueue.members id).filter bg.FindPlayer).Subperm bg.queued :=
    perm_append_comm.subperm.trans
      (filter_sublist.append_right bg.m_ResurrectQueue).subperm
  apply hsound.of_shrinks
  refine ⟨fun _ hdead => hdead, List.Subset.refl _, hsubperm.subset, ?_, rfl⟩
  intro hnodup
  obtain ⟨found, hperm, hsublist⟩ := hsubperm
  exact hperm.nodup_iff.1 (hnodup.sublist hsublist)

theorem Sound.resurrectAll :
    ({ bg.m_ResurrectQueue.foldl resurrect bg with m_ResurrectQueue := [] } :
      Battleground).Sound := by
  obtain ⟨hrevive, hresurrect, hdisj⟩ := nodup_append.1 hsound.nodup
  obtain ⟨hqueue, hplayers, hkept, hall⟩ := foldl_resurrect hresurrect
    fun guid hmem => ⟨hsound.dead guid (mem_append_right _ hmem),
      hsound.participants guid (mem_append_right _ hmem)⟩
  let after : Battleground := { bg.m_ResurrectQueue.foldl resurrect bg with m_ResurrectQueue := [] }
  have hqueued : after.queued = bg.m_ReviveQueue.members id := by
    unfold queued
    rw [append_nil]
    exact congrArg (StdMap.members · id) hqueue
  refine ⟨hqueued ▸ hrevive, ?_, ?_, ?_⟩
  · intro guid hmem
    have hwaits : guid ∈ bg.m_ReviveQueue.members id := hqueued ▸ hmem
    rw [hkept guid fun hother => hdisj guid hwaits guid hother rfl]
    exact hsound.dead guid (mem_append_left _ hwaits)
  · intro guid hmem
    have hwaits : guid ∈ bg.m_ReviveQueue.members id := hqueued ▸ hmem
    rw [hplayers]
    exact hsound.participants guid (mem_append_left _ hwaits)
  · intro resurrection hmem
    cases hall resurrection hmem with
    | inl hold => exact hsound.resurrections resurrection hold
    | inr hholds => exact hholds

theorem Sound.ProcessResurrect (diff : ℕ) :
    (bg.ProcessResurrect RESURRECTION_INTERVAL diff).Sound := by
  have htimed : ({ bg with
      m_LastResurrectTime := (bg.m_LastResurrectTime + diff) % 2 ^ 32 } : Battleground).Sound :=
    ⟨hsound.nodup, hsound.dead, hsound.participants, hsound.resurrections⟩
  unfold Battleground.ProcessResurrect
  dsimp only
  split
  · exact htimed.release
  split
  · exact htimed.resurrectAll
  · exact htimed

end

theorem Sound.step {op : Op} (hsound : bg.Sound) (hfits : bg.FitsQueues op)
    (hstep : step RESURRECTION_INTERVAL bg op = some after) : after.Sound := by
  cases op with
  | HandleAreaSpiritHealerQueueOpcode npcGuid player aura =>
    by_cases hparticipant : player ∈ bg.m_Players
    · rw [Battleground.step, if_pos hparticipant] at hstep
      cases hstep
      exact hsound.AddPlayerToResurrectQueue npcGuid aura hparticipant hfits.1 hfits.2
    · rw [Battleground.step, if_neg hparticipant] at hstep
      cases hstep
  | dies player =>
    cases hstep
    exact hsound.of_shrinks (shrinks_modifyPlayer fun _ _ => rfl)
  | moves player isInWorld =>
    cases hstep
    exact hsound.of_shrinks (shrinks_modifyPlayer fun _ hdead => hdead)
  | removeAura player =>
    cases hstep
    exact hsound.of_shrinks (removeAura_shrinks player)
  | AddPlayer player =>
    cases hstep
    apply hsound.of_shrinks
    unfold Battleground.AddPlayer
    split
    · exact Shrinks.refl bg
    · exact ⟨fun _ hdead => hdead, subset_append_left _ _, List.Subset.refl _,
        fun hnodup => hnodup, rfl⟩
  | RemovePlayerAtLeave player =>
    cases hstep
    exact hsound.RemovePlayerAtLeave hfits
  | RelocateDeadPlayers queueIndex =>
    cases hstep
    exact hsound.of_shrinks (RelocateDeadPlayers_shrinks queueIndex)
  | ProcessResurrect diff =>
    cases hstep
    exact hsound.ProcessResurrect diff

theorem Sound.queuesHold (hsound : bg.Sound) : bg.QueuesHold := by
  refine ⟨hsound.resurrections, ?_, ?_⟩
  · intro player hgone hmem
    exact hgone (hsound.participants player (mem_append_right _ hmem))
  · intro player hgone guide list hlist hmem
    apply hgone
    apply hsound.participants player
    apply mem_append_left
    exact mem_flatMap.2 ⟨(guide, list), StdMap.find?_eq_some_iff.1 hlist, hmem⟩

theorem queuesHold_of_reachable
    (hreach : Reachable IsNew (guarded FitsQueues (computed (step RESURRECTION_INTERVAL))) bg) :
    bg.QueuesHold := by
  have hsound : bg.Sound := hreach.invariant Sound (fun _ => Sound.of_isNew)
      fun _ _ _ hbefore hstep => hbefore.step hstep.1 hstep.2
  exact hsound.queuesHold

def twoPlayers : Battleground :=
  { players := fun _ => ⟨true, true, false⟩
    m_Players := [1, 2]
    m_ReviveQueue := .empty
    m_ResurrectQueue := []
    m_LastResurrectTime := 0
    resurrections := [] }

theorem twoPlayers_isNew : twoPlayers.IsNew := ⟨rfl, rfl, rfl⟩

def updates (count : ℕ) : List Op := List.replicate count (.ProcessResurrect 1000)

def bothAsk : List Op :=
  [.dies 1, .HandleAreaSpiritHealerQueueOpcode 10 1 true, .dies 2,
    .HandleAreaSpiritHealerQueueOpcode 10 2 true, .RemovePlayerAtLeave 2] ++ updates 4

def aliveAsks : List Op := .HandleAreaSpiritHealerQueueOpcode 10 1 true :: updates 4

theorem bothAsk_holds : ∃ bg, bothAsk.foldlM (tested FitsQueues (step 3000)) twoPlayers = some bg ∧
      bg.resurrections = [⟨1, true, true⟩] ∧ bg.QueuesHold := by
  have hresurrections : (bothAsk.foldlM (tested FitsQueues (step 3000)) twoPlayers).map
      (·.resurrections) = some [⟨1, true, true⟩] := by decide +kernel
  obtain ⟨bg, hrun, hbg⟩ := map_eq_some_iff.1 hresurrections
  exact ⟨bg, hrun, hbg, queuesHold_of_reachable
    (Reachable.tested_foldlM (.start twoPlayers_isNew) hrun)⟩

theorem aliveAsks_fails :
    ¬ ∀ interval bg, Reachable IsNew (computed (step interval)) bg → bg.QueuesHold := by
  intro hholds
  have hresurrections : (aliveAsks.foldlM (step 3000) twoPlayers).map (·.resurrections) =
      some [⟨1, false, true⟩] := by decide +kernel
  obtain ⟨bg, hrun, hbg⟩ := map_eq_some_iff.1 hresurrections
  have hreach := Reachable.foldlM (.start twoPlayers_isNew) hrun
  have hdead := (hholds 3000 bg hreach).resurrections ⟨1, false, true⟩
  rw [hbg] at hdead
  exact absurd (hdead (mem_singleton.2 rfl)).1 nofun

end AzerothCore.Battlegrounds.SpiritGuides.Battleground
