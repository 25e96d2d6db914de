import AzerothCore.Collections.Reachability
import AzerothCore.Collections.StdMap
import AzerothCore.Common.Define
import Mathlib.Data.Finset.Card
import Mathlib.Data.Rat.Floor
import Mathlib.Tactic.IntervalCases

/-!
# The reputation of a player

A player has a standing with each faction of the reputation list. It is added to a
base that depends on his race and class, and the sum gives his rank. How many
factions are visible, honored, revered and exalted is counted along. What is sent
or saved is left out.
-/

namespace AzerothCore.Reputation

/-- What the code does with a `float`. -/
class FloatArith (F : Type*) where
  mul : F → F → F
  ceil : F → F
  /-- `static_cast<int32>` -/
  toInt32 : F → ℤ
  isZero : F → Bool
  /-- Whether the fractional part is less than one. -/
  hasFraction : F → Bool

/-- Exact numbers. -/
instance : FloatArith ℚ where
  mul := (· * ·)
  ceil value := ⌈value⌉
  toInt32 value := int32 (if 0 ≤ value then ⌊value⌋ else ⌈value⌉)
  isZero value := value = 0
  hasFraction _ := true

def REP_HATED : ℕ := 0
def REP_HOSTILE : ℕ := 1
def REP_NEUTRAL : ℕ := 3
def REP_HONORED : ℕ := 5
def REP_REVERED : ℕ := 6
def REP_EXALTED : ℕ := 7
def MIN_REPUTATION_RANK : ℕ := REP_HATED
def MAX_REPUTATION_RANK : ℕ := 8

def PointsInRank (rank : ℕ) : ℤ :=
  [36000, 3000, 3000, 3000, 6000, 12000, 21000, 1000].getD rank 0

def Reputation_Cap : ℤ := 42999
def Reputation_Bottom : ℤ := -42000

/-- The loop of `ReputationToRank`, from the ranks below a number downwards. -/
def rankBelow (standing : ℤ) : ℕ → ℤ → ℕ
  | 0, _ => MIN_REPUTATION_RANK
  | i + 1, limit =>
    if limit - PointsInRank i ≤ standing then i else rankBelow standing i (limit - PointsInRank i)

def ReputationToRank (standing : ℤ) : ℕ :=
  rankBelow standing MAX_REPUTATION_RANK (Reputation_Cap + 1)

def ReputationRankToStanding (rank : ℕ) : ℤ :=
  max ((List.range (rank + 1)).foldl (fun standing i => standing + PointsInRank i)
    Reputation_Bottom - 1) Reputation_Bottom

def FACTION_FLAG_VISIBLE : ℕ := 0x01
def FACTION_FLAG_AT_WAR : ℕ := 0x02
def FACTION_FLAG_HIDDEN : ℕ := 0x04
def FACTION_FLAG_INVISIBLE_FORCED : ℕ := 0x08
def FACTION_FLAG_PEACE_FORCED : ℕ := 0x10
def FACTION_FLAG_INACTIVE : ℕ := 0x20
def FACTION_FLAG_SPECIAL : ℕ := 0x80

structure FactionBase where
  BaseRepRaceMask : ℕ
  BaseRepClassMask : ℕ
  BaseRepValue : ℤ
  ReputationFlags : ℕ

structure FactionEntry (F : Type*) where
  ID : ℕ
  reputationListID : ℤ
  bases : List FactionBase
  team : ℕ
  spilloverRateIn : F
  spilloverRateOut : F
  spilloverMaxRankIn : ℕ

structure FactionStore (F : Type*) where
  NumRows : ℕ
  LookupEntry : ℕ → Option (FactionEntry F)
  lookup_zero : LookupEntry 0 = none
  lookup_lt : ∀ id entry, LookupEntry id = some entry → id < NumRows
  lookup_id : ∀ id entry, LookupEntry id = some entry → entry.ID = id
  listID_bounds : ∀ id entry, LookupEntry id = some entry →
    -2 ^ 31 ≤ entry.reputationListID ∧ entry.reputationListID < 128
  listID_unique : ∀ id id' entry entry', LookupEntry id = some entry →
    LookupEntry id' = some entry' → 0 ≤ entry.reputationListID →
    entry.reputationListID = entry'.reputationListID → id = id'

structure RepSpillover (F : Type*) where
  faction : ℕ
  faction_rate : F
  faction_rank : ℕ

structure ReputationEnv (F : Type*) where
  sFactionStore : FactionStore F
  GetRepSpilloverTemplate : ℕ → Option (List (RepSpillover F))
  GetFactionTeamList : ℕ → Option (List ℕ)
  raceMask : ℕ
  classMask : ℕ
  RATE_REPUTATION_GAIN : F

structure FactionState where
  ID : ℕ
  ReputationListID : ℕ
  Standing : ℤ
  Flags : ℕ
  roundedUp : Bool
deriving DecidableEq

structure ReputationMgr where
  _factions : StdMap ℕ FactionState
  _visibleFactionCount : ℕ
  _honoredFactionCount : ℕ
  _reveredFactionCount : ℕ
  _exaltedFactionCount : ℕ

variable {F : Type*}

namespace FactionBase

def applies (env : ReputationEnv F) (base : FactionBase) : Bool :=
  (base.BaseRepRaceMask &&& env.raceMask ≠ 0 ||
    base.BaseRepRaceMask = 0 && base.BaseRepClassMask ≠ 0) &&
  (base.BaseRepClassMask &&& env.classMask ≠ 0 || base.BaseRepClassMask = 0)

end FactionBase

namespace ReputationEnv

variable (env : ReputationEnv F)

def LookupEntry (faction : ℕ) : Option (FactionEntry F) := env.sFactionStore.LookupEntry faction

def GetBaseReputation (factionEntry : FactionEntry F) : ℤ :=
  (factionEntry.bases.find? (FactionBase.applies env)).elim 0 fun base => int32 base.BaseRepValue

def GetDefaultStateFlags (factionEntry : FactionEntry F) : ℕ :=
  (factionEntry.bases.find? (FactionBase.applies env)).elim 0 FactionBase.ReputationFlags

end ReputationEnv

def FactionEntry.listKey (factionEntry : FactionEntry F) : ℕ :=
  toUint32 factionEntry.reputationListID

def FactionState.has (faction : FactionState) (flags : ℕ) : Bool := faction.Flags &&& flags ≠ 0

/-- `Flags |= flag` -/
def FactionState.setFlag (faction : FactionState) (flag : ℕ) : FactionState :=
  { faction with Flags := faction.Flags ||| flag }

/-- `Flags &= ~flag` -/
def FactionState.clearFlag (faction : FactionState) (flag : ℕ) : FactionState :=
  { faction with Flags := faction.Flags &&& (0xFF ^^^ flag) }

namespace FactionState

variable (faction : FactionState)

def hiddenFlags : ℕ := FACTION_FLAG_INVISIBLE_FORCED ||| FACTION_FLAG_HIDDEN

def SetAtWar (atWar : Bool) : FactionState :=
  if atWar && faction.has FACTION_FLAG_PEACE_FORCED then faction
  else if faction.has FACTION_FLAG_AT_WAR = atWar then faction
  else if atWar then faction.setFlag FACTION_FLAG_AT_WAR
  else faction.clearFlag FACTION_FLAG_AT_WAR

def SetInactive (inactive : Bool) : FactionState :=
  if inactive && (faction.has hiddenFlags || !faction.has FACTION_FLAG_VISIBLE) then faction
  else if faction.has FACTION_FLAG_INACTIVE = inactive then faction
  else if inactive then faction.setFlag FACTION_FLAG_INACTIVE
  else faction.clearFlag FACTION_FLAG_INACTIVE

end FactionState

def updateCounter (rank old_rank new_rank counter : ℕ) : ℕ :=
  let counter := if rank ≤ old_rank then toUint8 ((counter : ℤ) - 1) else counter
  if rank ≤ new_rank then uint8 (counter + 1) else counter

namespace ReputationMgr

variable (env : ReputationEnv F) (mgr : ReputationMgr)

def modifyState (key : ℕ) (f : FactionState → FactionState) : ReputationMgr :=
  match mgr._factions.find? key with
  | none => mgr
  | some faction => { mgr with _factions := mgr._factions.insert key (f faction) }

def GetState (factionEntry : FactionEntry F) : Option FactionState :=
  if 0 ≤ factionEntry.reputationListID then mgr._factions.find? factionEntry.listKey else none

def GetReputation (factionEntry : Option (FactionEntry F)) : ℤ :=
  factionEntry.elim 0 fun factionEntry =>
    (mgr.GetState factionEntry).elim 0 fun state =>
      int32 (env.GetBaseReputation factionEntry + state.Standing)

def GetRank (factionEntry : Option (FactionEntry F)) : ℕ :=
  ReputationToRank (mgr.GetReputation env factionEntry)

def UpdateRankCounters (old_rank new_rank : ℕ) : ReputationMgr :=
  { mgr with
    _exaltedFactionCount := updateCounter REP_EXALTED old_rank new_rank mgr._exaltedFactionCount
    _reveredFactionCount := updateCounter REP_REVERED old_rank new_rank mgr._reveredFactionCount
    _honoredFactionCount := updateCounter REP_HONORED old_rank new_rank mgr._honoredFactionCount }

/-- `SetVisible(FactionState*)` -/
def SetVisible (key : ℕ) : ReputationMgr :=
  match mgr._factions.find? key with
  | none => mgr
  | some faction =>
    if faction.has FactionState.hiddenFlags && !faction.has FACTION_FLAG_SPECIAL then mgr
    else if faction.has FACTION_FLAG_VISIBLE then mgr
    else
      { mgr with
        _factions := mgr._factions.insert key (faction.setFlag FACTION_FLAG_VISIBLE)
        _visibleFactionCount := uint8 (mgr._visibleFactionCount + 1) }

def empty : ReputationMgr := ⟨StdMap.empty, 0, 0, 0, 0⟩

/-- One round of the loop of `Initialize`. -/
def addFaction (i : ℕ) : ReputationMgr :=
  match env.LookupEntry i with
  | none => mgr
  | some factionEntry =>
    if 0 ≤ factionEntry.reputationListID then
      let newFaction : FactionState :=
        ⟨factionEntry.ID, factionEntry.listKey, 0, uint8 (env.GetDefaultStateFlags factionEntry),
          false⟩
      let counted :=
        if newFaction.has FACTION_FLAG_VISIBLE then
          { mgr with _visibleFactionCount := uint8 (mgr._visibleFactionCount + 1) }
        else mgr
      let updated := counted.UpdateRankCounters REP_HOSTILE
        (ReputationToRank (env.GetBaseReputation factionEntry))
      { updated with _factions := updated._factions.insert newFaction.ReputationListID newFaction }
    else mgr

def Initialize : ReputationMgr :=
  (List.range' 1 (env.sFactionStore.NumRows - 1)).foldl (addFaction env) empty

end ReputationMgr

structure ReputationRow where
  faction : ℕ
  standing : ℤ
  flags : ℕ

def ReputationRow.has (row : ReputationRow) (flag : ℕ) : Bool := row.flags &&& flag ≠ 0

namespace ReputationMgr

variable (env : ReputationEnv F) (mgr : ReputationMgr)

def loadVisible (key : ℕ) (row : ReputationRow) : ReputationMgr :=
  if row.has FACTION_FLAG_VISIBLE then mgr.SetVisible key else mgr

def loadInactive (key : ℕ) (row : ReputationRow) : ReputationMgr :=
  if row.has FACTION_FLAG_INACTIVE then mgr.modifyState key (·.SetInactive true) else mgr

def loadAtWar (factionEntry : FactionEntry F) (row : ReputationRow) : ReputationMgr :=
  if row.has FACTION_FLAG_AT_WAR then
    mgr.modifyState factionEntry.listKey (·.SetAtWar (!row.has FACTION_FLAG_HIDDEN ||
      mgr.GetRank env (some factionEntry) < REP_NEUTRAL))
  else
    mgr.modifyState factionEntry.listKey fun faction =>
      if faction.has FACTION_FLAG_VISIBLE then faction.SetAtWar false else faction

def loadHostile (factionEntry : FactionEntry F) : ReputationMgr :=
  if mgr.GetRank env (some factionEntry) ≤ REP_HOSTILE then
    mgr.modifyState factionEntry.listKey (·.SetAtWar true)
  else mgr

def loadFlags (factionEntry : FactionEntry F) (row : ReputationRow) : ReputationMgr :=
  let key := factionEntry.listKey
  ((((mgr.loadVisible key row).loadInactive key row).loadAtWar env factionEntry row).loadHostile
    env factionEntry).modifyState key fun faction => { faction with roundedUp := false }

/-- One round of the loop of `LoadFromDB`. -/
def loadRow (row : ReputationRow) : ReputationMgr :=
  match env.LookupEntry row.faction with
  | none => mgr
  | some factionEntry =>
    if 0 ≤ factionEntry.reputationListID then
      let BaseRep := env.GetBaseReputation factionEntry
      let faction := (mgr._factions.find? factionEntry.listKey).getD ⟨0, 0, 0, 0, false⟩
      let stored := { mgr with
        _factions := mgr._factions.insert factionEntry.listKey
          { faction with Standing := row.standing } }
      let updated := stored.UpdateRankCounters (ReputationToRank BaseRep)
        (ReputationToRank (int32 (BaseRep + row.standing)))
      updated.loadFlags env factionEntry row
    else mgr

def LoadFromDB (rows : List ReputationRow) : ReputationMgr :=
  rows.foldl (loadRow env) (Initialize env)

end ReputationMgr

section Standing

variable [FloatArith F]

def roundStanding (stand : F) (roundedUp : Bool) : ℤ :=
  if FloatArith.hasFraction stand then
    if roundedUp then FloatArith.toInt32 (FloatArith.ceil stand) else FloatArith.toInt32 stand
  else 0

def clampStanding (standing : ℤ) : ℤ :=
  if Reputation_Cap < standing then Reputation_Cap
  else if standing < Reputation_Bottom then Reputation_Bottom
  else standing

def capStanding (standing : ℤ) : Option ℕ → ℤ × ℕ
  | none => (standing, ReputationToRank standing)
  | some repMaxCap =>
    if repMaxCap < ReputationToRank standing then (ReputationRankToStanding repMaxCap, repMaxCap)
    else (standing, ReputationToRank standing)

namespace ReputationMgr

variable (env : ReputationEnv F) (mgr : ReputationMgr)

def SetOneFactionReputation (factionEntry : FactionEntry F) (stand : F) (incremental : Bool)
    (repMaxCap : Option ℕ) : ReputationMgr × Bool :=
  let key := factionEntry.listKey
  match mgr._factions.find? key with
  | none => (mgr, false)
  | some faction =>
    let BaseRep := env.GetBaseReputation factionEntry
    let stand := if incremental then FloatArith.mul stand env.RATE_REPUTATION_GAIN else stand
    let rounded := roundStanding stand faction.roundedUp
    let standing :=
      if incremental then int32 (rounded + int32 (faction.Standing + BaseRep)) else rounded
    let old_rank := ReputationToRank (int32 (faction.Standing + BaseRep))
    let capped := capStanding (clampStanding standing) repMaxCap
    let stored := { mgr with
      _factions := mgr._factions.insert key { faction with
        Standing := int32 (capped.1 - BaseRep)
        roundedUp :=
          if FloatArith.hasFraction stand then !faction.roundedUp else faction.roundedUp } }
    let shown := stored.SetVisible key
    let warred :=
      if capped.2 ≤ REP_HOSTILE then shown.modifyState key (·.SetAtWar true) else shown
    (warred.UpdateRankCounters old_rank capped.2, true)

def spillTemplate (standing : F) (incremental : Bool) (repTemplate : List (RepSpillover F)) :
    ReputationMgr :=
  repTemplate.foldl (fun mgr spill =>
    if spill.faction ≠ 0 ∧
        mgr.GetRank env (env.LookupEntry spill.faction) ≤ uint8 spill.faction_rank then
      (env.LookupEntry spill.faction).elim mgr fun factionEntry =>
        (mgr.SetOneFactionReputation env factionEntry
          (FloatArith.mul standing spill.faction_rate) incremental none).1
    else mgr) mgr

def spillList (factionEntry : FactionEntry F) (spillOverRepOut : F) (incremental : Bool)
    (flist : List ℕ) (res : Bool) : ReputationMgr × Bool :=
  flist.foldl (fun mgr faction =>
    (env.LookupEntry faction).elim mgr fun factionEntryCalc =>
      if factionEntryCalc.ID = factionEntry.ID ∨ uint8 factionEntryCalc.spilloverMaxRankIn <
            mgr.1.GetRank env (some factionEntryCalc) then mgr
      else
        let spilloverRep := FloatArith.mul spillOverRepOut factionEntryCalc.spilloverRateIn
        if !FloatArith.isZero spilloverRep || !incremental then
          mgr.1.SetOneFactionReputation env factionEntryCalc spilloverRep incremental none
        else mgr) (mgr, res)

def spillTeam (factionEntry : FactionEntry F) (standing : F) (incremental : Bool) :
    ReputationMgr × Bool :=
  match env.GetFactionTeamList factionEntry.ID with
  | some flist => mgr.spillList env factionEntry standing incremental flist false
  | none =>
    if factionEntry.team ≠ 0 ∧ !FloatArith.isZero factionEntry.spilloverRateOut then
      let spillOverRepOut := FloatArith.mul standing factionEntry.spilloverRateOut
      match env.LookupEntry factionEntry.team with
      | none => (mgr, false)
      | some parent =>
        if (mgr._factions.find? parent.listKey).any fun state => state.has FACTION_FLAG_SPECIAL then
          ((mgr.SetOneFactionReputation env parent spillOverRepOut incremental none).1, false)
        else
          mgr.spillList env factionEntry spillOverRepOut incremental
            ((env.GetFactionTeamList factionEntry.team).getD []) false
    else (mgr, false)

def spillOver (factionEntry : FactionEntry F) (standing : F) (incremental : Bool) :
    ReputationMgr × Bool :=
  match env.GetRepSpilloverTemplate factionEntry.ID with
  | some repTemplate => (mgr.spillTemplate env standing incremental repTemplate, false)
  | none => mgr.spillTeam env factionEntry standing incremental

def SetReputation (factionEntry : FactionEntry F) (standing : F) (incremental noSpillOver : Bool)
    (repMaxCap : Option ℕ) : ReputationMgr × Bool :=
  let spilled :=
    if noSpillOver then (mgr, false) else mgr.spillOver env factionEntry standing incremental
  let spillOverOnly := repMaxCap.any fun cap => cap < spilled.1.GetRank env (some factionEntry)
  if (spilled.1._factions.find? factionEntry.listKey).isSome && !spillOverOnly then
    spilled.1.SetOneFactionReputation env factionEntry standing incremental repMaxCap
  else spilled

def ModifyReputation (factionEntry : FactionEntry F) (standing : F) (noSpillOver : Bool)
    (repMaxCap : Option ℕ) : ReputationMgr × Bool :=
  mgr.SetReputation env factionEntry standing true noSpillOver repMaxCap

end ReputationMgr

end Standing

end AzerothCore.Reputation

/-!
## The counters of a reputation

Each counter is compared with the factions that it counts. The code
changes the standing of a state and moves the rank counters, shows the faction, or changes
what is not counted.
-/

namespace AzerothCore.Reputation
open Option Nat Finset

variable {F : Type*} {env : ReputationEnv F} {mgr after : ReputationMgr} {key : ℕ}
  {state state' : FactionState} {factionEntry : FactionEntry F}

namespace ReputationEnv

def reputationOf (env : ReputationEnv F) (state : FactionState) : ℤ :=
  int32 ((env.LookupEntry state.ID).elim 0 env.GetBaseReputation + state.Standing)

def rankOf (env : ReputationEnv F) (state : FactionState) : ℕ :=
  ReputationToRank (env.reputationOf state)

end ReputationEnv

namespace ReputationMgr

def countRank (env : ReputationEnv F) (mgr : ReputationMgr) (rank : ℕ) : ℕ :=
  mgr._factions.countValues fun state => rank ≤ env.rankOf state

def countVisible (mgr : ReputationMgr) : ℕ :=
  mgr._factions.countValues fun state => state.has FACTION_FLAG_VISIBLE

def Known (env : ReputationEnv F) (mgr : ReputationMgr) : Prop :=
  ∀ key state, mgr._factions.find? key = some state →
    ∃ entry, env.LookupEntry state.ID = some entry ∧ 0 ≤ entry.reputationListID ∧
      key = entry.listKey

structure Kept (env : ReputationEnv F) (mgr : ReputationMgr) : Prop where
  known : Known env mgr
  visible : mgr._visibleFactionCount = mgr.countVisible
  honored : mgr._honoredFactionCount = mgr.countRank env REP_HONORED
  revered : mgr._reveredFactionCount = mgr.countRank env REP_REVERED
  exalted : mgr._exaltedFactionCount = mgr.countRank env REP_EXALTED

theorem listKey_of_nonneg {id : ℕ} {entry : FactionEntry F}
    (hentry : env.LookupEntry id = some entry) (hlist : 0 ≤ entry.reputationListID) :
    (entry.listKey : ℤ) = entry.reputationListID ∧ entry.listKey < 128 := by
  have hbounds := env.sFactionStore.listID_bounds id entry hentry
  unfold FactionEntry.listKey toUint32
  omega

section

variable (hknown : Known env mgr)
include hknown

theorem Known.entry {id : ℕ} {entry : FactionEntry F}
    (hentry : env.LookupEntry id = some entry)
    (hfind : mgr._factions.find? entry.listKey = some state) :
    state.ID = id ∧ env.LookupEntry state.ID = some entry ∧ 0 ≤ entry.reputationListID := by
  obtain ⟨entry', hentry', hlist', hkey⟩ := hknown _ _ hfind
  obtain ⟨hsame', hlt'⟩ := listKey_of_nonneg hentry' hlist'
  have hbounds := env.sFactionStore.listID_bounds id entry hentry
  have hlist : 0 ≤ entry.reputationListID := by
    rw [← hkey] at hlt'
    unfold FactionEntry.listKey toUint32 at hlt'
    omega
  obtain ⟨hsame, -⟩ := listKey_of_nonneg hentry hlist
  have hid : state.ID = id :=
    env.sFactionStore.listID_unique _ _ _ _ hentry' hentry hlist' (by omega)
  exact ⟨hid, hid ▸ hentry, hlist⟩

theorem Known.size_le : mgr._factions.size ≤ 128 := by
  have hsub : mgr._factions.keys.toFinset ⊆ Finset.range 128 := by
    intro key hkey
    obtain ⟨state, hfind⟩ := StdMap.mem_iff_find?.mp (StdMap.mem_def.mpr (List.mem_toFinset.mp hkey))
    obtain ⟨entry, hentry, hlist, rfl⟩ := hknown key state hfind
    exact mem_range.mpr (listKey_of_nonneg hentry hlist).2
  have hcard := card_le_card hsub
  rw [List.toFinset_card_of_nodup mgr._factions.keys_nodup, card_range] at hcard
  rwa [StdMap.keys, List.length_map] at hcard

theorem Known.count_lt (p : FactionState → Bool) : mgr._factions.countValues p < 2 ^ 8 :=
  ((StdMap.countValues_le_size _ p).trans hknown.size_le).trans_lt (by decide)

theorem Known.insert {id : ℕ} (hentry : env.LookupEntry id = some factionEntry)
    (hlist : 0 ≤ factionEntry.reputationListID) (hid : state.ID = id)
    {factions : StdMap ℕ FactionState}
    (hfactions : factions = mgr._factions.insert factionEntry.listKey state)
    (visible honored revered exalted : ℕ) :
    Known env ⟨factions, visible, honored, revered, exalted⟩ := by
  intro key found hfound
  subst hfactions
  rw [StdMap.find?_insert] at hfound
  split at hfound
  case isFalse => exact hknown key found hfound
  rename_i heq
  cases hfound
  exact ⟨factionEntry, hid ▸ hentry, hlist, heq.symm⟩

end

variable {map : StdMap ℕ FactionState}

theorem countValues_replace (hfind : map.find? key = some state) (p : FactionState → Bool) :
    (map.insert key state').countValues p + (if p state then 1 else 0) =
      map.countValues p + if p state' then 1 else 0 := by
  have hold := StdMap.countValues_erase p hfind
  rw [StdMap.countValues_insert]
  omega

theorem countValues_new (hfind : map.find? key = none) (p : FactionState → Bool) :
    (map.insert key state').countValues p = map.countValues p + if p state' then 1 else 0 := by
  rw [StdMap.countValues_insert, StdMap.erase_of_not_mem (StdMap.find?_eq_none_iff.mp hfind)]

theorem updateCounter_eq {rank old_rank new_rank before now : ℕ}
    (hchange : now + (if rank ≤ old_rank then 1 else 0) = before + if rank ≤ new_rank then 1 else 0)
    (hlt : now < 2 ^ 8) : updateCounter rank old_rank new_rank before = now := by
  unfold updateCounter toUint8 uint8
  split at hchange
  case isTrue hold =>
    rw [if_pos hold]
    split at hchange
    case isTrue hnew =>
      rw [if_pos hnew]
      omega
    case isFalse hnew =>
      rw [if_neg hnew]
      omega
  case isFalse hold =>
    rw [if_neg hold]
    split at hchange
    case isTrue hnew =>
      rw [if_pos hnew]
      omega
    case isFalse hnew =>
      rw [if_neg hnew]
      omega

theorem Kept.setStanding (hkept : Kept env mgr)
    (hfind : mgr._factions.find? key = some state) (hid : state'.ID = state.ID)
    (hflags : state'.Flags = state.Flags) {old_rank new_rank : ℕ}
    (hold : old_rank = env.rankOf state) (hnew : new_rank = env.rankOf state') :
    Kept env (({ mgr with _factions := mgr._factions.insert key state' } :
      ReputationMgr).UpdateRankCounters old_rank new_rank) := by
  subst hold hnew
  have hknown : Known env ({ mgr with _factions := mgr._factions.insert key state' } :
      ReputationMgr) := by
    obtain ⟨entry, hentry, hlist, rfl⟩ := hkept.known key state hfind
    exact hkept.known.insert hentry hlist hid rfl _ _ _ _
  have hcounter : ∀ rank, updateCounter rank (env.rankOf state) (env.rankOf state')
      (mgr.countRank env rank) =
        (mgr._factions.insert key state').countValues fun state => rank ≤ env.rankOf state := by
    intro rank
    refine updateCounter_eq ?_ (hknown.count_lt _)
    have hreplace := @countValues_replace key state state' mgr._factions hfind
      fun state => rank ≤ env.rankOf state
    simp only [decide_eq_true_eq] at hreplace
    exact hreplace
  refine ⟨hknown, ?_, ?_, ?_, ?_⟩
  · have hreplace := @countValues_replace key state state' mgr._factions hfind
      fun state => state.has FACTION_FLAG_VISIBLE
    have hsame : state'.has FACTION_FLAG_VISIBLE = state.has FACTION_FLAG_VISIBLE := by
      rw [FactionState.has, hflags]
      rfl
    rw [hsame] at hreplace
    exact hkept.visible.trans (Nat.add_right_cancel hreplace).symm
  · exact (congrArg _ hkept.honored).trans (hcounter REP_HONORED)
  · exact (congrArg _ hkept.revered).trans (hcounter REP_REVERED)
  · exact (congrArg _ hkept.exalted).trans (hcounter REP_EXALTED)

/-! ## Standings that stay -/

def SameStandings (before after : ReputationMgr) : Prop :=
  ∀ key, (after._factions.find? key).map (fun state => (state.ID, state.Standing)) =
    (before._factions.find? key).map fun state => (state.ID, state.Standing)

theorem SameStandings.refl (mgr : ReputationMgr) : SameStandings mgr mgr := fun _ => rfl

theorem SameStandings.trans {first second third : ReputationMgr}
    (hfirst : SameStandings first second) (hsecond : SameStandings second third) :
    SameStandings first third :=
  fun key => (hsecond key).trans (hfirst key)

theorem SameStandings.state_before (hsame : SameStandings mgr after)
    (hfind : after._factions.find? key = some state') :
    ∃ state, mgr._factions.find? key = some state ∧ state.ID = state'.ID ∧
      state.Standing = state'.Standing := by
  have hmap := hsame key
  rw [hfind, map_some] at hmap
  obtain ⟨state, hstate, heq⟩ := map_eq_some_iff.mp hmap.symm
  exact ⟨state, hstate, (Prod.mk.inj heq).1, (Prod.mk.inj heq).2⟩

theorem SameStandings.state_after (hsame : SameStandings mgr after)
    (hfind : mgr._factions.find? key = some state) :
    ∃ state', after._factions.find? key = some state' ∧ state'.ID = state.ID := by
  have hmap := hsame key
  rw [hfind, map_some] at hmap
  obtain ⟨state', hstate', heq⟩ := map_eq_some_iff.mp hmap
  exact ⟨state', hstate', (Prod.mk.inj heq).1⟩

theorem sameStandings_insert (hfind : mgr._factions.find? key = some state)
    (hid : state'.ID = state.ID) (hstanding : state'.Standing = state.Standing)
    (visible honored revered exalted : ℕ) :
    SameStandings mgr ⟨mgr._factions.insert key state', visible, honored, revered, exalted⟩ := by
  intro other
  rw [StdMap.find?_insert]
  split
  case isTrue heq => rw [← heq, hfind, map_some, map_some, hid, hstanding]
  case isFalse => rfl

theorem Known.same (hknown : Known env mgr) (hsame : SameStandings mgr after) :
    Known env after := by
  intro key state' hfind
  obtain ⟨state, hstate, hid, -⟩ := hsame.state_before hfind
  obtain ⟨entry, hentry, hlist, hkey⟩ := hknown key state hstate
  exact ⟨entry, hid ▸ hentry, hlist, hkey⟩

theorem rankOf_congr (hid : state'.ID = state.ID) (hstanding : state'.Standing = state.Standing) :
    env.rankOf state' = env.rankOf state := by
  unfold ReputationEnv.rankOf ReputationEnv.reputationOf
  rw [hid, hstanding]

theorem countRank_insert (hfind : mgr._factions.find? key = some state)
    (hid : state'.ID = state.ID) (hstanding : state'.Standing = state.Standing) (rank : ℕ) :
    ((mgr._factions.insert key state').countValues fun state => rank ≤ env.rankOf state) =
      mgr.countRank env rank := by
  have hreplace := @countValues_replace key state state' mgr._factions hfind
    fun state => rank ≤ env.rankOf state
  rw [rankOf_congr hid hstanding] at hreplace
  exact Nat.add_right_cancel hreplace

structure Uncounted (f : FactionState → FactionState) : Prop where
  id : ∀ state, (f state).ID = state.ID
  standing : ∀ state, (f state).Standing = state.Standing
  visible : ∀ state, (f state).has FACTION_FLAG_VISIBLE = state.has FACTION_FLAG_VISIBLE

variable {f : FactionState → FactionState}

theorem modifyState_same (huncounted : Uncounted f) (mgr : ReputationMgr) (key : ℕ) :
    SameStandings mgr (mgr.modifyState key f) := by
  unfold modifyState
  split
  · exact .refl mgr
  case h_2 state hfind =>
    exact sameStandings_insert hfind (huncounted.id state) (huncounted.standing state) _ _ _ _

theorem Kept.modifyState (hkept : Kept env mgr) (huncounted : Uncounted f) (key : ℕ) :
    Kept env (mgr.modifyState key f) := by
  have hknown := hkept.known.same (modifyState_same huncounted mgr key)
  unfold ReputationMgr.modifyState at hknown ⊢
  rcases hfind : mgr._factions.find? key with _ | state
  · exact hkept
  rw [hfind] at hknown
  have hrank := @countRank_insert F env mgr key state (f state) hfind (huncounted.id state)
    (huncounted.standing state)
  refine ⟨hknown, ?_, hkept.honored.trans (hrank _).symm, hkept.revered.trans (hrank _).symm,
    hkept.exalted.trans (hrank _).symm⟩
  have hreplace := @countValues_replace key state (f state) mgr._factions hfind
    fun state => state.has FACTION_FLAG_VISIBLE
  rw [huncounted.visible] at hreplace
  exact hkept.visible.trans (Nat.add_right_cancel hreplace).symm

theorem has_setFlag (state : FactionState) {flag : ℕ} (hflag : flag &&& FACTION_FLAG_VISIBLE = 0) :
    (state.setFlag flag).has FACTION_FLAG_VISIBLE = state.has FACTION_FLAG_VISIBLE := by
  unfold FactionState.has FactionState.setFlag
  rw [and_or_distrib_right, hflag, or_zero]

theorem has_clearFlag (state : FactionState) {flag : ℕ}
    (hflag : (0xFF ^^^ flag) &&& FACTION_FLAG_VISIBLE = FACTION_FLAG_VISIBLE) :
    (state.clearFlag flag).has FACTION_FLAG_VISIBLE = state.has FACTION_FLAG_VISIBLE := by
  unfold FactionState.has FactionState.clearFlag
  rw [land_assoc, hflag]

theorem uncounted_SetAtWar (atWar : FactionState → Bool) :
    Uncounted fun state => state.SetAtWar (atWar state) := by
  refine ⟨fun state => ?_, fun state => ?_, fun state => ?_⟩
  · unfold FactionState.SetAtWar
    split_ifs <;> rfl
  · unfold FactionState.SetAtWar
    split_ifs <;> rfl
  · unfold FactionState.SetAtWar
    split_ifs
    · rfl
    · rfl
    · exact has_setFlag state (by decide)
    · exact has_clearFlag state (by decide)

theorem uncounted_SetInactive (inactive : Bool) :
    Uncounted fun state => state.SetInactive inactive := by
  refine ⟨fun state => ?_, fun state => ?_, fun state => ?_⟩
  · unfold FactionState.SetInactive
    split_ifs <;> rfl
  · unfold FactionState.SetInactive
    split_ifs <;> rfl
  · unfold FactionState.SetInactive
    split_ifs
    · rfl
    · rfl
    · exact has_setFlag state (by decide)
    · exact has_clearFlag state (by decide)

theorem SetVisible_same (mgr : ReputationMgr) (key : ℕ) : SameStandings mgr (mgr.SetVisible key) := by
  unfold SetVisible
  split
  · exact .refl mgr
  rename_i state hfind
  split_ifs
  · exact .refl mgr
  · exact .refl mgr
  · exact @sameStandings_insert mgr key state (state.setFlag FACTION_FLAG_VISIBLE) hfind rfl
      rfl _ _ _ _

theorem Kept.SetVisible (hkept : Kept env mgr) (key : ℕ) : Kept env (mgr.SetVisible key) := by
  have hknown := hkept.known.same (SetVisible_same mgr key)
  unfold ReputationMgr.SetVisible at hknown ⊢
  rcases hfind : mgr._factions.find? key with _ | state
  · exact hkept
  rw [hfind] at hknown
  dsimp only at hknown ⊢
  by_cases hforced : (state.has FactionState.hiddenFlags && !state.has FACTION_FLAG_SPECIAL) = true
  · rw [if_pos hforced]
    exact hkept
  rw [if_neg hforced] at hknown ⊢
  by_cases hshown : state.has FACTION_FLAG_VISIBLE = true
  · rw [if_pos hshown]
    exact hkept
  rw [if_neg hshown] at hknown ⊢
  have hrank := @countRank_insert F env mgr key state (state.setFlag FACTION_FLAG_VISIBLE)
    hfind rfl rfl
  refine ⟨hknown, ?_, hkept.honored.trans (hrank _).symm, hkept.revered.trans (hrank _).symm,
    hkept.exalted.trans (hrank _).symm⟩
  have hreplace := @countValues_replace key state (state.setFlag FACTION_FLAG_VISIBLE)
    mgr._factions hfind fun state => state.has FACTION_FLAG_VISIBLE
  have hnow : (state.setFlag FACTION_FLAG_VISIBLE).has FACTION_FLAG_VISIBLE = true := by
    unfold FactionState.has FactionState.setFlag
    refine decide_eq_true fun hzero => ?_
    rw [and_or_distrib_right, or_eq_zero_iff] at hzero
    exact absurd hzero.2 (by decide)
  rw [if_neg hshown, if_pos hnow] at hreplace
  have hlt := hknown.count_lt fun state => state.has FACTION_FLAG_VISIBLE
  rw [hkept.visible]
  exact (uint8_of_lt (hreplace ▸ hlt)).trans hreplace.symm

end ReputationMgr

end AzerothCore.Reputation

/-!
## Loading a reputation

`Initialize` adds one faction after the other, and `LoadFromDB` changes the standing of
each faction that has a row. The rank counters are moved from the rank of the base, which
is right because no row comes twice.
-/

namespace AzerothCore.Reputation
open List Option Nat

variable {F : Type*} {env : ReputationEnv F} {mgr : ReputationMgr} {state : FactionState}
  {factionEntry : FactionEntry F}

namespace ReputationMgr

structure Initialized (env : ReputationEnv F) (count : ℕ) (mgr : ReputationMgr) : Prop where
  kept : Kept env mgr
  fresh : ∀ key state, mgr._factions.find? key = some state → state.Standing = 0 ∧ state.ID < count
  present : ∀ id entry, id < count → env.LookupEntry id = some entry → 0 ≤ entry.reputationListID →
    ∃ state, mgr._factions.find? entry.listKey = some state ∧ state.ID = id

theorem int32_GetBaseReputation (env : ReputationEnv F) (entry : FactionEntry F) :
    int32 (env.GetBaseReputation entry) = env.GetBaseReputation entry := by
  unfold ReputationEnv.GetBaseReputation
  cases entry.bases.find? (FactionBase.applies env) with
  | none => rfl
  | some base => exact Int.bmod_bmod

theorem Kept.addState (hkept : Kept env mgr) {id : ℕ}
    (hentry : env.LookupEntry id = some factionEntry) (hlist : 0 ≤ factionEntry.reputationListID)
    (hnone : mgr._factions.find? factionEntry.listKey = none) (hid : state.ID = id) :
    Kept env ⟨mgr._factions.insert factionEntry.listKey state,
      if state.has FACTION_FLAG_VISIBLE then uint8 (mgr._visibleFactionCount + 1)
        else mgr._visibleFactionCount,
      updateCounter REP_HONORED REP_HOSTILE (env.rankOf state) mgr._honoredFactionCount,
      updateCounter REP_REVERED REP_HOSTILE (env.rankOf state) mgr._reveredFactionCount,
      updateCounter REP_EXALTED REP_HOSTILE (env.rankOf state) mgr._exaltedFactionCount⟩ := by
  have hknown := hkept.known.insert hentry hlist hid rfl 0 0 0 0
  have hcounter : ∀ rank, REP_HOSTILE < rank →
      updateCounter rank REP_HOSTILE (env.rankOf state) (mgr.countRank env rank) =
        (mgr._factions.insert factionEntry.listKey state).countValues
          fun state => rank ≤ env.rankOf state := by
    intro rank hrank
    refine updateCounter_eq ?_ (hknown.count_lt _)
    have hnew := @countValues_new _ state mgr._factions hnone fun state => rank ≤ env.rankOf state
    simp only [decide_eq_true_eq] at hnew
    rw [if_neg (not_le.mpr hrank)]
    exact hnew
  refine ⟨hkept.known.insert hentry hlist hid rfl _ _ _ _, ?_, ?_, ?_, ?_⟩
  · have hnew := @countValues_new _ state mgr._factions hnone
      fun state => state.has FACTION_FLAG_VISIBLE
    have hlt := hknown.count_lt fun state => state.has FACTION_FLAG_VISIBLE
    refine Eq.trans ?_ hnew.symm
    rw [hkept.visible]
    split
    case isFalse => rfl
    rename_i hvisible
    rw [if_pos hvisible] at hnew
    exact uint8_of_lt (hnew ▸ hlt)
  · exact (congrArg _ hkept.honored).trans (hcounter REP_HONORED (by decide))
  · exact (congrArg _ hkept.revered).trans (hcounter REP_REVERED (by decide))
  · exact (congrArg _ hkept.exalted).trans (hcounter REP_EXALTED (by decide))

theorem addFaction_initialized {count : ℕ} (hinit : Initialized env count mgr) :
    Initialized env (count + 1) (mgr.addFaction env count) := by
  obtain ⟨hkept, hfresh, hpresent⟩ := hinit
  have hmore : ∀ key state, mgr._factions.find? key = some state →
      state.Standing = 0 ∧ state.ID < count + 1 :=
    fun key state hfind => ⟨(hfresh key state hfind).1, lt_succ_of_lt (hfresh key state hfind).2⟩
  unfold addFaction
  rcases hentry : env.LookupEntry count with _ | factionEntry
  · refine ⟨hkept, hmore, fun id entry hlt hlookup hlist => ?_⟩
    rcases Nat.lt_succ_iff_lt_or_eq.mp hlt with hbelow | rfl
    · exact hpresent id entry hbelow hlookup hlist
    · exact nomatch hentry.symm.trans hlookup
  dsimp only
  by_cases hlist : 0 ≤ factionEntry.reputationListID
  · rw [if_pos hlist]
    have hnone : mgr._factions.find? factionEntry.listKey = none := by
      cases hfind : mgr._factions.find? factionEntry.listKey with
      | none => rfl
      | some state =>
        have hid := (hkept.known.entry hentry hfind).1
        exact absurd (hfresh _ state hfind).2 (hid ▸ lt_irrefl _)
    have hid := env.sFactionStore.lookup_id _ _ hentry
    generalize hstate : (⟨factionEntry.ID, factionEntry.listKey, 0,
      uint8 (env.GetDefaultStateFlags factionEntry), false⟩ : FactionState) = newFaction
    have hnewID : newFaction.ID = count := by
      rw [← hstate]
      exact hid
    have hstanding : newFaction.Standing = 0 := by rw [← hstate]
    have hrank : env.rankOf newFaction = ReputationToRank (env.GetBaseReputation factionEntry) := by
      rw [ReputationEnv.rankOf, ReputationEnv.reputationOf, hnewID, hentry, elim_some,
        hstanding, add_zero, int32_GetBaseReputation]
    have hadded := hkept.addState hentry hlist hnone hnewID
    rw [← hrank]
    have hfactions : ∀ counted : ReputationMgr, counted._factions = mgr._factions →
        ∀ key, (counted._factions.insert factionEntry.listKey newFaction).find? key =
          if factionEntry.listKey = key then some newFaction else mgr._factions.find? key := by
      intro counted hsame key
      rw [hsame, StdMap.find?_insert]
    have hsame : (if newFaction.has FACTION_FLAG_VISIBLE = true then
        { mgr with _visibleFactionCount := uint8 (mgr._visibleFactionCount + 1) }
        else mgr)._factions = mgr._factions := by
      split <;> rfl
    refine ⟨?_, ?_, ?_⟩
    · by_cases hvisible : newFaction.has FACTION_FLAG_VISIBLE = true
      · rw [if_pos hvisible] at hadded ⊢
        exact hadded
      · rw [if_neg hvisible] at hadded ⊢
        exact hadded
    · intro key found hfound
      have hcases := (hfactions _ hsame key).symm.trans hfound
      split at hcases
      case isFalse => exact hmore key found hcases
      cases hcases
      exact ⟨hstanding, hnewID ▸ lt_succ_self _⟩
    · intro id entry hlt hlookup hlist'
      have hfind := hfactions _ hsame entry.listKey
      rcases Nat.lt_succ_iff_lt_or_eq.mp hlt with hbelow | rfl
      · obtain ⟨found, hfound, hfoundID⟩ := hpresent id entry hbelow hlookup hlist'
        have hother : factionEntry.listKey ≠ entry.listKey := by
          intro heq
          rw [heq, hfound] at hnone
          cases hnone
        rw [if_neg hother] at hfind
        exact ⟨found, hfind.trans hfound, hfoundID⟩
      · obtain rfl := some.inj (hentry.symm.trans hlookup)
        rw [if_pos rfl] at hfind
        exact ⟨newFaction, hfind, hnewID⟩
  · rw [if_neg hlist]
    refine ⟨hkept, hmore, fun id entry hlt hlookup hlist' => ?_⟩
    rcases Nat.lt_succ_iff_lt_or_eq.mp hlt with hbelow | rfl
    · exact hpresent id entry hbelow hlookup hlist'
    · exact absurd (some.inj (hentry.symm.trans hlookup) ▸ hlist') hlist

theorem Initialize_initialized (env : ReputationEnv F) :
    Initialized env env.sFactionStore.NumRows (Initialize env) := by
  have hempty : Kept env empty := ⟨nofun, rfl, rfl, rfl, rfl⟩
  have hloop : ∀ count, Initialized env (1 + count)
      ((List.range' 1 count).foldl (addFaction env) empty) := by
    intro count
    induction count with
    | zero =>
      refine ⟨hempty, nofun, fun id entry hlt hlookup => ?_⟩
      obtain rfl : id = 0 := by omega
      exact nomatch env.sFactionStore.lookup_zero.symm.trans hlookup
    | succ count ih =>
      rw [List.range'_1_concat, foldl_append]
      exact addFaction_initialized ih
  rcases Nat.eq_zero_or_pos env.sFactionStore.NumRows with hzero | hpos
  · have hnone : Initialized env 0 (Initialize env) := by
      unfold Initialize
      rw [hzero]
      exact ⟨hempty, nofun, fun id entry hlt => absurd hlt (Nat.not_lt_zero id)⟩
    exact hzero ▸ hnone
  · have hall := hloop (env.sFactionStore.NumRows - 1)
    rwa [add_sub_of_le hpos] at hall

def storedStanding (rows : List ReputationRow) (faction : ℕ) : ℤ :=
  (rows.find? fun row => row.faction = faction).elim 0 ReputationRow.standing

structure Loaded (env : ReputationEnv F) (rows : List ReputationRow) (mgr : ReputationMgr) :
    Prop where
  kept : Kept env mgr
  stored : ∀ key state, mgr._factions.find? key = some state →
    state.Standing = storedStanding rows state.ID
  present : ∀ id entry, env.LookupEntry id = some entry → 0 ≤ entry.reputationListID →
    ∃ state, mgr._factions.find? entry.listKey = some state ∧ state.ID = id

structure Quiet (env : ReputationEnv F) (before after : ReputationMgr) : Prop where
  same : SameStandings before after
  kept : Kept env before → Kept env after

theorem Quiet.refl (mgr : ReputationMgr) : Quiet env mgr mgr := ⟨.refl mgr, fun hkept => hkept⟩

theorem Quiet.trans {first second third : ReputationMgr} (hfirst : Quiet env first second)
    (hsecond : Quiet env second third) : Quiet env first third :=
  ⟨hfirst.same.trans hsecond.same, fun hkept => hsecond.kept (hfirst.kept hkept)⟩

variable {f : FactionState → FactionState} {rows : List ReputationRow}

theorem quiet_modifyState (huncounted : Uncounted f) (mgr : ReputationMgr) (key : ℕ) :
    Quiet env mgr (mgr.modifyState key f) :=
  ⟨modifyState_same huncounted mgr key, fun hkept => hkept.modifyState huncounted key⟩

theorem quiet_SetVisible (mgr : ReputationMgr) (key : ℕ) : Quiet env mgr (mgr.SetVisible key) :=
  ⟨SetVisible_same mgr key, fun hkept => hkept.SetVisible key⟩

theorem quiet_ite {condition : Prop} [Decidable condition] {before after : ReputationMgr}
    (hquiet : Quiet env before after) : Quiet env before (if condition then after else before) := by
  split
  · exact hquiet
  · exact .refl before

theorem uncounted_ite (condition : FactionState → Bool) (huncounted : Uncounted f) :
    Uncounted fun state => if condition state then f state else state := by
  refine ⟨fun state => ?_, fun state => ?_, fun state => ?_⟩
  · split
    · exact huncounted.id state
    · rfl
  · split
    · exact huncounted.standing state
    · rfl
  · split
    · exact huncounted.visible state
    · rfl

theorem loadAtWar_quiet (mgr : ReputationMgr) (factionEntry : FactionEntry F)
    (row : ReputationRow) : Quiet env mgr (mgr.loadAtWar env factionEntry row) := by
  unfold loadAtWar
  split
  · exact quiet_modifyState (uncounted_SetAtWar _) _ _
  · exact quiet_modifyState (uncounted_ite _ (uncounted_SetAtWar fun _ => false)) _ _

theorem loadFlags_quiet (mgr : ReputationMgr) (factionEntry : FactionEntry F)
    (row : ReputationRow) : Quiet env mgr (mgr.loadFlags env factionEntry row) := by
  have hvisible := @quiet_ite F env (row.has FACTION_FLAG_VISIBLE = true) _ _ _
    (quiet_SetVisible mgr factionEntry.listKey)
  have hinactive : ∀ mgr, Quiet env mgr (mgr.loadInactive factionEntry.listKey row) :=
    fun mgr => quiet_ite (quiet_modifyState (uncounted_SetInactive true) mgr _)
  have hhostile : ∀ mgr, Quiet env mgr (mgr.loadHostile env factionEntry) :=
    fun mgr => quiet_ite (quiet_modifyState (uncounted_SetAtWar fun _ => true) mgr _)
  have hrounded : Uncounted fun state => { state with roundedUp := false } :=
    ⟨fun _ => rfl, fun _ => rfl, fun _ => rfl⟩
  exact (((hvisible.trans (hinactive _)).trans (loadAtWar_quiet _ factionEntry row)).trans
    (hhostile _)).trans (quiet_modifyState hrounded _ _)

theorem loadRow_loaded (hloaded : Loaded env rows mgr) {row : ReputationRow}
    (hnew : row.faction ∉ rows.map ReputationRow.faction) :
    Loaded env (rows ++ [row]) (mgr.loadRow env row) := by
  obtain ⟨hkept, hstored, hpresent⟩ := hloaded
  have hold : ∀ faction, faction ≠ row.faction →
      storedStanding (rows ++ [row]) faction = storedStanding rows faction := by
    intro faction hne
    unfold storedStanding
    rw [List.find?_append]
    cases rows.find? fun row => row.faction = faction with
    | some found => rfl
    | none =>
      rw [none_or, List.find?_cons_of_neg (by rw [decide_eq_true_eq]; exact hne.symm)]
      rfl
  have hnone : rows.find? (fun found => found.faction = row.faction) = none := by
    rw [List.find?_eq_none]
    intro found hfound heq
    exact hnew (of_decide_eq_true heq ▸ List.mem_map_of_mem hfound)
  have hrow : storedStanding (rows ++ [row]) row.faction = row.standing := by
    unfold storedStanding
    have hfirst : [row].find? (fun found => found.faction = row.faction) = some row :=
      List.find?_cons_of_pos (decide_eq_true rfl)
    rw [List.find?_append, hnone, none_or, hfirst, elim_some]
  -- a row that is skipped is not the row of a faction with a state
  have hskipped : (∀ entry, env.LookupEntry row.faction = some entry →
      ¬0 ≤ entry.reputationListID) → Loaded env (rows ++ [row]) mgr := by
    intro hnot
    refine ⟨hkept, fun key state hfind => ?_, hpresent⟩
    obtain ⟨entry, hentry, hlist, -⟩ := hkept.known key state hfind
    rw [hold state.ID fun heq => hnot entry (heq ▸ hentry) hlist]
    exact hstored key state hfind
  unfold loadRow
  rcases hentry : env.LookupEntry row.faction with _ | factionEntry
  · exact hskipped fun entry hlookup => nomatch hentry.symm.trans hlookup
  dsimp only
  by_cases hlist : 0 ≤ factionEntry.reputationListID
  · rw [if_pos hlist]
    obtain ⟨state, hfind, hid⟩ := hpresent _ _ hentry hlist
    rw [hfind, getD_some]
    generalize hstate : ({ state with Standing := row.standing } : FactionState) = loaded
    have hloadedID : loaded.ID = state.ID := by rw [← hstate]
    have hstanding : loaded.Standing = row.standing := by rw [← hstate]
    have hflags : loaded.Flags = state.Flags := by rw [← hstate]
    have hbase : (env.LookupEntry state.ID).elim 0 env.GetBaseReputation =
        env.GetBaseReputation factionEntry := by
      rw [hid, hentry, elim_some]
    have hzero : state.Standing = 0 := by
      rw [hstored _ state hfind, hid, storedStanding, hnone]
      rfl
    have holdRank : ReputationToRank (env.GetBaseReputation factionEntry) = env.rankOf state := by
      rw [ReputationEnv.rankOf, ReputationEnv.reputationOf, hbase, hzero, add_zero,
        int32_GetBaseReputation]
    have hnewRank : ReputationToRank
        (int32 (env.GetBaseReputation factionEntry + row.standing)) = env.rankOf loaded := by
      rw [ReputationEnv.rankOf, ReputationEnv.reputationOf, hloadedID, hbase, hstanding]
    have hset := hkept.setStanding hfind hloadedID hflags holdRank hnewRank
    have hfactions : ∀ key, (mgr._factions.insert factionEntry.listKey loaded).find? key =
        if factionEntry.listKey = key then some loaded else mgr._factions.find? key :=
      fun key => StdMap.find?_insert ..
    have hquiet := @loadFlags_quiet F env
      (({ mgr with _factions := mgr._factions.insert factionEntry.listKey loaded } :
        ReputationMgr).UpdateRankCounters (ReputationToRank (env.GetBaseReputation factionEntry))
          (ReputationToRank (int32 (env.GetBaseReputation factionEntry + row.standing))))
      factionEntry row
    refine ⟨hquiet.kept hset, fun key found hfound => ?_, fun id entry hlookup hlist' => ?_⟩
    · obtain ⟨before, hbefore, hsameID, hsameStanding⟩ := hquiet.same.state_before hfound
      have hcases := (hfactions key).symm.trans hbefore
      rw [← hsameStanding, ← hsameID]
      split at hcases
      · cases hcases
        rw [hstanding, hloadedID, hid, hrow]
      case isFalse hkey =>
        have hne : before.ID ≠ row.faction := by
          intro heq
          obtain ⟨entry, hknown, -, rfl⟩ := hkept.known key before hcases
          rw [heq, hentry] at hknown
          exact hkey (congrArg _ (some.inj hknown))
        rw [hold before.ID hne]
        exact hstored key before hcases
    · obtain ⟨before, hbefore, hbeforeID⟩ := hpresent id entry hlookup hlist'
      by_cases hkey : factionEntry.listKey = entry.listKey
      · have hnow := (hfactions entry.listKey).trans (if_pos hkey)
        obtain ⟨found, hfound, hfoundID⟩ := hquiet.same.state_after hnow
        refine ⟨found, hfound, ?_⟩
        rw [hkey, hbefore] at hfind
        cases hfind
        rw [hfoundID, hloadedID, hbeforeID]
      · have hnow := ((hfactions entry.listKey).trans (if_neg hkey)).trans hbefore
        obtain ⟨found, hfound, hfoundID⟩ := hquiet.same.state_after hnow
        exact ⟨found, hfound, hfoundID.trans hbeforeID⟩
  · rw [if_neg hlist]
    refine hskipped fun entry hlookup => ?_
    exact some.inj (hentry.symm.trans hlookup) ▸ hlist

theorem LoadFromDB_loaded (env : ReputationEnv F) (hrows : (rows.map ReputationRow.faction).Nodup) :
    Loaded env rows (LoadFromDB env rows) := by
  induction rows using List.reverseRecOn with
  | nil =>
    obtain ⟨hkept, hfresh, hpresent⟩ := Initialize_initialized env
    refine ⟨hkept, fun key state hfind => (hfresh key state hfind).1, ?_⟩
    intro id entry hlookup
    exact hpresent id entry (env.sFactionStore.lookup_lt id entry hlookup) hlookup
  | append_singleton rows row ih =>
    rw [map_append, map_singleton, nodup_append_comm, singleton_append, nodup_cons] at hrows
    rw [LoadFromDB, foldl_append]
    exact loadRow_loaded (ih hrows.2) hrows.1

end ReputationMgr

end AzerothCore.Reputation

/-!
## Runs of a reputation

After a reputation was loaded, standings are set and modified, and what spills over is
set as well. The counters are right in every run. A standing that is set is within
the limits, and one that is loaded is not looked at.
-/

namespace AzerothCore.Reputation

open Option Nat
open Reachability

variable {F : Type*} {env : ReputationEnv F} {mgr : ReputationMgr} {key : ℕ}
  {state state' : FactionState} {factionEntry : FactionEntry F}

variable (standing : ℤ)

theorem rankBelow_lt {count : ℕ} (hpos : 0 < count) (limit : ℤ) :
    rankBelow standing count limit < count := by
  induction count generalizing limit with
  | zero => exact absurd hpos (lt_irrefl 0)
  | succ i ih =>
    unfold rankBelow
    split
    · exact lt_succ_self i
    rcases Nat.eq_zero_or_pos i with rfl | hi
    · exact Nat.zero_lt_one
    · exact (ih hi _).trans (lt_succ_self i)

theorem ReputationToRank_lt : ReputationToRank standing < MAX_REPUTATION_RANK :=
  rankBelow_lt standing (by decide) _

def InRange : Prop := Reputation_Bottom ≤ standing ∧ standing ≤ Reputation_Cap

theorem clampStanding_inRange : InRange (clampStanding standing) := by
  have horder : Reputation_Bottom ≤ Reputation_Cap := by decide
  unfold clampStanding InRange
  split_ifs with hhigh hlow
  · exact ⟨horder, le_rfl⟩
  · exact ⟨le_rfl, horder⟩
  · exact ⟨not_lt.mp hlow, not_lt.mp hhigh⟩

theorem ReputationRankToStanding_spec {rank : ℕ} (hlt : rank < MAX_REPUTATION_RANK) :
    InRange (ReputationRankToStanding rank) ∧
      ReputationToRank (ReputationRankToStanding rank) = rank := by
  unfold InRange
  rw [MAX_REPUTATION_RANK] at hlt
  interval_cases rank <;> decide

variable {standing : ℤ}

theorem capStanding_spec (hrange : InRange standing) (repMaxCap : Option ℕ) :
    InRange (capStanding standing repMaxCap).1 ∧
      ReputationToRank (capStanding standing repMaxCap).1 = (capStanding standing repMaxCap).2 := by
  unfold capStanding
  rcases repMaxCap with _ | cap
  · exact ⟨hrange, rfl⟩
  dsimp only
  split
  case isTrue hlt => exact ReputationRankToStanding_spec (hlt.trans (ReputationToRank_lt _))
  case isFalse => exact ⟨hrange, rfl⟩

theorem int32_of_inRange (hrange : InRange standing) : int32 standing = standing := by
  obtain ⟨hlow, hhigh⟩ := hrange
  rw [Reputation_Bottom] at hlow
  rw [Reputation_Cap] at hhigh
  exact Int.bmod_eq_of_le (by omega) (by omega)

theorem int32_base (hrange : InRange standing) (base : ℤ) :
    int32 (base + int32 (standing - base)) = standing := by
  refine Eq.trans ?_ (int32_of_inRange hrange)
  unfold int32
  rw [Int.add_bmod_bmod, add_sub_cancel]

namespace ReputationMgr

def Ranged (env : ReputationEnv F) (mgr : ReputationMgr) : Prop :=
  ∀ key state, mgr._factions.find? key = some state → InRange (env.reputationOf state)

theorem Ranged.same {after : ReputationMgr} (hranged : Ranged env mgr)
    (hsame : SameStandings mgr after) : Ranged env after := by
  intro key state' hfind
  obtain ⟨state, hstate, hid, hstanding⟩ := hsame.state_before hfind
  have hreputation : env.reputationOf state' = env.reputationOf state := by
    unfold ReputationEnv.reputationOf
    rw [hid, hstanding]
  rw [hreputation]
  exact hranged key state hstate

theorem Ranged.insert (hranged : Ranged env mgr) (hstate : InRange (env.reputationOf state))
    (visible honored revered exalted : ℕ) :
    Ranged env ⟨mgr._factions.insert key state, visible, honored, revered, exalted⟩ := by
  intro other found hfound
  rw [StdMap.find?_insert] at hfound
  split at hfound
  · exact some.inj hfound ▸ hstate
  · exact hranged other found hfound

theorem SetVisible_UpdateRankCounters (mgr : ReputationMgr) (key old_rank new_rank : ℕ) :
    (mgr.SetVisible key).UpdateRankCounters old_rank new_rank =
      (mgr.UpdateRankCounters old_rank new_rank).SetVisible key := by
  have hsame : (mgr.UpdateRankCounters old_rank new_rank)._factions = mgr._factions := rfl
  unfold SetVisible
  rw [hsame]
  cases mgr._factions.find? key with
  | none => rfl
  | some state =>
    dsimp only
    split_ifs <;> rfl

theorem modifyState_UpdateRankCounters (mgr : ReputationMgr) (key old_rank new_rank : ℕ)
    (f : FactionState → FactionState) :
    (mgr.modifyState key f).UpdateRankCounters old_rank new_rank =
      (mgr.UpdateRankCounters old_rank new_rank).modifyState key f := by
  have hsame : (mgr.UpdateRankCounters old_rank new_rank)._factions = mgr._factions := rfl
  unfold modifyState
  rw [hsame]
  cases mgr._factions.find? key with
  | none | some => rfl

theorem modifyState_self (mgr : ReputationMgr) (key : ℕ) :
    mgr.modifyState key (fun state => state) = mgr := by
  unfold modifyState
  cases hfind : mgr._factions.find? key with
  | none => rfl
  | some state =>
    dsimp only
    rw [StdMap.insert_of_find? hfind]

section Setting

variable [FloatArith F]

variable {id : ℕ}

theorem SetOneFactionReputation_cases (hknown : Known env mgr)
    (hentry : env.LookupEntry id = some factionEntry) (stand : F) (incremental : Bool)
    (repMaxCap : Option ℕ) :
    (mgr.SetOneFactionReputation env factionEntry stand incremental repMaxCap).1 = mgr ∨
      ∃ key state state' new_rank, mgr._factions.find? key = some state ∧
        state'.ID = state.ID ∧ state'.Flags = state.Flags ∧
        InRange (env.reputationOf state') ∧ new_rank = env.rankOf state' ∧
        ∃ f : FactionState → FactionState, Uncounted f ∧
          (mgr.SetOneFactionReputation env factionEntry stand incremental repMaxCap).1 =
            (((({ mgr with _factions := mgr._factions.insert key state' } :
              ReputationMgr).UpdateRankCounters (env.rankOf state) new_rank).SetVisible
                key).modifyState key f) := by
  unfold SetOneFactionReputation
  dsimp only
  generalize hfind : mgr._factions.find? factionEntry.listKey = found
  rcases found with _ | state
  · exact .inl rfl
  right
  obtain ⟨-, hstateEntry, -⟩ := hknown.entry hentry hfind
  have hbase : (env.LookupEntry state.ID).elim 0 env.GetBaseReputation =
      env.GetBaseReputation factionEntry := by
    rw [hstateEntry, elim_some]
  have hrank : env.rankOf state =
      ReputationToRank (int32 (state.Standing + env.GetBaseReputation factionEntry)) := by
    rw [ReputationEnv.rankOf, ReputationEnv.reputationOf, hbase, add_comm]
  dsimp only
  generalize (if incremental = true then FloatArith.mul stand env.RATE_REPUTATION_GAIN
    else stand) = stand
  generalize (if incremental = true then
    int32 (roundStanding stand state.roundedUp +
      int32 (state.Standing + env.GetBaseReputation factionEntry))
    else roundStanding stand state.roundedUp) = standing
  obtain ⟨hrange, hcapped⟩ := capStanding_spec (clampStanding_inRange standing) repMaxCap
  generalize capStanding (clampStanding standing) repMaxCap = capped at hrange hcapped ⊢
  generalize (if FloatArith.hasFraction stand = true then !state.roundedUp
    else state.roundedUp) = roundedUp
  refine ⟨factionEntry.listKey, state, { state with
    Standing := int32 (capped.1 - env.GetBaseReputation factionEntry)
    roundedUp := roundedUp }, capped.2, hfind, rfl, rfl, ?_, ?_, ?_⟩
  · unfold ReputationEnv.reputationOf
    rw [hbase, int32_base hrange]
    exact hrange
  · unfold ReputationEnv.rankOf ReputationEnv.reputationOf
    rw [hbase, int32_base hrange, hcapped]
  · rw [hrank]
    by_cases hhostile : capped.2 ≤ REP_HOSTILE
    · refine ⟨fun state => state.SetAtWar true, uncounted_SetAtWar fun _ => true, ?_⟩
      rw [if_pos hhostile, modifyState_UpdateRankCounters, SetVisible_UpdateRankCounters]
    · refine ⟨fun state => state, ⟨fun _ => rfl, fun _ => rfl, fun _ => rfl⟩, ?_⟩
      rw [if_neg hhostile, SetVisible_UpdateRankCounters, modifyState_self]

theorem SetOneFactionReputation_kept (hkept : Kept env mgr)
    (hentry : env.LookupEntry id = some factionEntry) (stand : F) (incremental : Bool)
    (repMaxCap : Option ℕ) :
    Kept env (mgr.SetOneFactionReputation env factionEntry stand incremental repMaxCap).1 := by
  rcases SetOneFactionReputation_cases hkept.known hentry stand incremental repMaxCap with
    hsame | ⟨key, state, state', new_rank, hfind, hid, hflags, -, hnew, f, huncounted, hset⟩
  · rw [hsame]
    exact hkept
  · rw [hset]
    exact ((hkept.setStanding hfind hid hflags rfl hnew).SetVisible key).modifyState huncounted key

theorem SetOneFactionReputation_ranged (hkept : Kept env mgr) (hranged : Ranged env mgr)
    (hentry : env.LookupEntry id = some factionEntry) (stand : F) (incremental : Bool)
    (repMaxCap : Option ℕ) :
    Ranged env (mgr.SetOneFactionReputation env factionEntry stand incremental repMaxCap).1 := by
  rcases SetOneFactionReputation_cases hkept.known hentry stand incremental repMaxCap with
    hsame | ⟨key, state, state', new_rank, hfind, hid, hflags, hrange, hnew, f, huncounted, hset⟩
  · rw [hsame]
    exact hranged
  rw [hset]
  have hinserted : ∀ visible honored revered exalted,
      Ranged env ⟨mgr._factions.insert key state', visible, honored, revered, exalted⟩ :=
    hranged.insert hrange
  exact (hinserted _ _ _ _).same ((SetVisible_same _ key).trans (modifyState_same huncounted _ key))

theorem SetReputation_preserves (inv : ReputationMgr → Prop)
    (hone : ∀ mgr id entry (stand : F) incremental repMaxCap, inv mgr →
      env.LookupEntry id = some entry →
      inv (mgr.SetOneFactionReputation env entry stand incremental repMaxCap).1)
    (hentry : env.LookupEntry id = some factionEntry) (hinv : inv mgr) (standing : F)
    (incremental noSpillOver : Bool) (repMaxCap : Option ℕ) :
    inv (mgr.SetReputation env factionEntry standing incremental noSpillOver repMaxCap).1 := by
  have htemplate : ∀ (repTemplate : List (RepSpillover F)) (mgr : ReputationMgr), inv mgr →
      inv (mgr.spillTemplate env standing incremental repTemplate) := by
    intro repTemplate
    induction repTemplate with
    | nil => exact fun _ hinv => hinv
    | cons spill rest ih =>
      intro mgr hinv
      refine ih _ ?_
      dsimp only
      split
      case isFalse => exact hinv
      cases hlookup : env.LookupEntry spill.faction with
      | none => exact hinv
      | some entry => exact hone mgr _ entry _ _ _ hinv hlookup
  have hlist : ∀ (flist : List ℕ) (out : F) (mgr : ReputationMgr) (res : Bool), inv mgr →
      inv (mgr.spillList env factionEntry out incremental flist res).1 := by
    intro flist out
    suffices hfold : ∀ (flist : List ℕ) (start : ReputationMgr × Bool), inv start.1 →
        inv (start.1.spillList env factionEntry out incremental flist start.2).1 from
      fun mgr res hinv => hfold flist (mgr, res) hinv
    intro flist
    induction flist with
    | nil => exact fun _ hinv => hinv
    | cons faction rest ih =>
      intro start hinv
      refine ih _ ?_
      rcases hlookup : env.LookupEntry faction with _ | entry
      · exact hinv
      dsimp only
      split_ifs
      · exact hinv
      · exact hone start.1 _ entry _ _ _ hinv hlookup
      · exact hinv
  have hspill : inv (mgr.spillOver env factionEntry standing incremental).1 := by
    unfold spillOver
    split
    · exact htemplate _ mgr hinv
    unfold spillTeam
    split
    · exact hlist _ _ mgr _ hinv
    split
    case isFalse => exact hinv
    split
    · exact hinv
    rename_i parent hparent
    split
    · exact hone mgr _ parent _ _ _ hinv hparent
    · exact hlist _ _ mgr _ hinv
  unfold SetReputation
  dsimp only
  have hspilled : inv (if noSpillOver = true then (mgr, false)
      else mgr.spillOver env factionEntry standing incremental).1 := by
    split
    · exact hinv
    · exact hspill
  generalize (if noSpillOver = true then (mgr, false)
    else mgr.spillOver env factionEntry standing incremental) = spilled at hspilled ⊢
  split
  · exact hone _ id factionEntry _ _ _ hspilled hentry
  · exact hspilled

end Setting

end ReputationMgr

inductive ReputationOp (F : Type*)
  | setReputation (faction : ℕ) (standing : F)
  | modifyReputation (faction : ℕ) (standing : F) (noSpillOver : Bool) (repMaxCap : Option ℕ)

namespace ReputationMgr

section Runs

variable [FloatArith F]

def perform (env : ReputationEnv F) (mgr : ReputationMgr) : ReputationOp F → ReputationMgr
  | .setReputation faction standing =>
    (env.LookupEntry faction).elim mgr fun factionEntry =>
      (mgr.SetReputation env factionEntry standing false false none).1
  | .modifyReputation faction standing noSpillOver repMaxCap =>
    (env.LookupEntry faction).elim mgr fun factionEntry =>
      (mgr.ModifyReputation env factionEntry standing noSpillOver repMaxCap).1

structure Consistent (env : ReputationEnv F) (mgr : ReputationMgr) : Prop where
  range : ∀ key state, mgr._factions.find? key = some state → InRange (env.reputationOf state)
  visible : mgr._visibleFactionCount = mgr.countVisible
  honored : mgr._honoredFactionCount = mgr.countRank env REP_HONORED
  revered : mgr._reveredFactionCount = mgr.countRank env REP_REVERED
  exalted : mgr._exaltedFactionCount = mgr.countRank env REP_EXALTED

theorem perform_preserves (inv : ReputationMgr → Prop)
    (hone : ∀ mgr id entry (stand : F) incremental repMaxCap, inv mgr →
      env.LookupEntry id = some entry →
      inv (mgr.SetOneFactionReputation env entry stand incremental repMaxCap).1)
    (hinv : inv mgr) (op : ReputationOp F) : inv (mgr.perform env op) := by
  cases op with
  | setReputation faction standing =>
    rw [perform]
    cases hentry : env.LookupEntry faction with
    | none => exact hinv
    | some entry => exact SetReputation_preserves inv hone hentry hinv standing false false none
  | modifyReputation faction standing noSpillOver repMaxCap =>
    rw [perform]
    cases hentry : env.LookupEntry faction with
    | none => exact hinv
    | some entry =>
      exact SetReputation_preserves inv hone hentry hinv standing true noSpillOver repMaxCap

/-- The reputations of a character that can be reached from his rows are consistent if
and only if the rows put no faction outside the limits. -/
theorem reputations_consistent_iff (env : ReputationEnv F) {rows : List ReputationRow}
    (hrows : (rows.map ReputationRow.faction).Nodup) :
    (∀ mgr, Reachable (· = LoadFromDB env rows)
        (fun before op after => after = before.perform env op) mgr → Consistent env mgr) ↔
      ∀ id entry, env.LookupEntry id = some entry → 0 ≤ entry.reputationListID →
        InRange (int32 (env.GetBaseReputation entry + storedStanding rows id)) := by
  obtain ⟨hkept, hstored, hpresent⟩ := LoadFromDB_loaded env hrows
  constructor
  · intro hall id entry hentry hlist
    have hreach : Reachable (· = LoadFromDB env rows)
        (fun before op after => after = before.perform env op) (LoadFromDB env rows) := .start rfl
    obtain ⟨state, hfind, hid⟩ := hpresent id entry hentry hlist
    have hrange := (hall _ hreach).range _ state hfind
    rw [ReputationEnv.reputationOf, hstored _ state hfind, hid, hentry, elim_some] at hrange
    exact hrange
  · intro hrange mgr hreach
    have hinv : Kept env mgr ∧ Ranged env mgr := by
      apply hreach.invariant
      · rintro start rfl
        refine ⟨hkept, fun key state hfind => ?_⟩
        obtain ⟨entry, hentry, hlist, -⟩ := hkept.known key state hfind
        rw [ReputationEnv.reputationOf, hstored _ state hfind, hentry, elim_some]
        exact hrange state.ID entry hentry hlist
      · rintro before op after hbefore rfl
        refine perform_preserves (fun mgr => Kept env mgr ∧ Ranged env mgr) ?_ hbefore op
        intro mgr id entry stand incremental repMaxCap hinv hentry
        exact ⟨SetOneFactionReputation_kept hinv.1 hentry stand incremental repMaxCap,
          SetOneFactionReputation_ranged hinv.1 hinv.2 hentry stand incremental repMaxCap⟩
    exact ⟨hinv.2, hinv.1.visible, hinv.1.honored, hinv.1.revered, hinv.1.exalted⟩

end Runs

def cityFaction : FactionEntry ℚ :=
  ⟨1, 0, [⟨0, 1, 3100, FACTION_FLAG_VISIBLE⟩], 0, 0, 0, 0⟩

def cityStore : FactionStore ℚ where
  NumRows := 2
  LookupEntry id := if id = 1 then some cityFaction else none
  lookup_zero := rfl
  lookup_lt id entry hentry := by
    split at hentry
    case isTrue heq => exact heq ▸ lt_succ_self 1
    case isFalse => cases hentry
  lookup_id id entry hentry := by
    split at hentry
    case isFalse => cases hentry
    rename_i heq
    cases hentry
    exact heq.symm
  listID_bounds id entry hentry := by
    split at hentry
    case isFalse => cases hentry
    cases hentry
    decide
  listID_unique id id' entry entry' hentry hentry' _ _ := by
    split at hentry
    case isFalse => cases hentry
    rename_i heq
    split at hentry'
    case isTrue heq' => exact heq.trans heq'.symm
    case isFalse => cases hentry'

def cityEnv : ReputationEnv ℚ where
  sFactionStore := cityStore
  GetRepSpilloverTemplate _ := none
  GetFactionTeamList _ := none
  raceMask := 1
  classMask := 1
  RATE_REPUTATION_GAIN := 1

theorem city_inRange_iff (rows : List ReputationRow) :
    (∀ id entry, cityEnv.LookupEntry id = some entry → 0 ≤ entry.reputationListID →
      InRange (int32 (cityEnv.GetBaseReputation entry + storedStanding rows id))) ↔
      InRange (int32 (3100 + storedStanding rows 1)) := by
  constructor
  · intro hall
    exact hall 1 cityFaction rfl le_rfl
  · intro hrange id entry hentry _
    change (if id = 1 then some cityFaction else none) = some entry at hentry
    split at hentry
    case isFalse => cases hentry
    rename_i heq
    cases hentry
    subst heq
    exact hrange

/-- A stored standing that is exalted. -/
theorem city_is_exalted : InRange (int32 (3100 + storedStanding [⟨1, 39899, 1⟩] 1)) ∧
      ∀ mgr, Reachable (· = LoadFromDB cityEnv [⟨1, 39899, 1⟩])
        (fun before op after => after = before.perform cityEnv op) mgr →
          Consistent cityEnv mgr := by
  have hrange : InRange (int32 (3100 + storedStanding [⟨1, 39899, 1⟩] 1)) := ⟨by decide, by decide⟩
  refine ⟨hrange, ?_⟩
  refine (@reputations_consistent_iff ℚ _ cityEnv [⟨1, 39899, 1⟩] (List.nodup_singleton 1)).mpr ?_
  exact (city_inRange_iff _).mpr hrange

/-- A stored standing that was exalted with a base of 2100 is taken as it is. -/
theorem city_is_over_the_cap : ∃ mgr, Reachable (· = LoadFromDB cityEnv [⟨1, 40899, 1⟩])
      (fun before op after => after = before.perform cityEnv op) mgr ∧ ¬Consistent cityEnv mgr := by
  have hreach : Reachable (· = LoadFromDB cityEnv [⟨1, 40899, 1⟩])
      (fun before op after => after = before.perform cityEnv op)
      (LoadFromDB cityEnv [⟨1, 40899, 1⟩]) := .start rfl
  refine ⟨_, hreach, fun hconsistent => ?_⟩
  have hrange := hconsistent.range 0 ⟨1, 0, 40899, FACTION_FLAG_VISIBLE, false⟩ (by decide +kernel)
  exact absurd hrange.2 (by decide +kernel)

end ReputationMgr

end AzerothCore.Reputation
