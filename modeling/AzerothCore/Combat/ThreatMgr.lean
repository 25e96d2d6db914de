import Mathlib.Algebra.Order.Ring.Unbundled.Rat
import Mathlib.Algebra.Ring.Rat
import Mathlib.Data.List.Sort

/-!
# `ThreatMgr`

The threat table of a creature. A `HostileReference` is a heap object, named by
a pointer that is never used again; the two containers are lists of such pointers.

Threat values are of any type with the operations of the floats, and no law is assumed of
them. What the code observes of units may be different at every call. Threat travels on to
the owner of a pet, so adding threat calls itself; `none` is a recursion beyond the bound.
-/

namespace AzerothCore

/-- The float operations of the threat arithmetic. -/
class ThreatValue (T : Type*) extends Add T, Sub T, Neg T, Zero T, LT T, LE T where
  decidableEq : DecidableEq T
  decidableLT : DecidableLT T
  decidableLE : DecidableLE T
  /-- `1.1f * threat` -/
  melee : T → T
  /-- `1.3f * threat` -/
  ranged : T → T
  /-- `CalculatePct(threat, pct)` -/
  pct : T → ℕ → T

attribute [reducible, instance] ThreatValue.decidableEq ThreatValue.decidableLT ThreatValue.decidableLE

/-- Exact threat values. -/
instance : ThreatValue ℚ where
  decidableEq := inferInstance
  decidableLT := inferInstance
  decidableLE := inferInstance
  melee threat := 11 / 10 * threat
  ranged threat := 13 / 10 * threat
  pct threat percent := threat * percent / 100

structure HostileReference (T : Type*) where
  unitGuid : ℕ
  threat : T
  tempThreatModifier : T
  online : Bool
  /-- `isValid()`: the link to the unit is not cut. -/
  valid : Bool
  deriving DecidableEq

/-- What happened to the threat of a unit, apart from temporary threat. The code
keeps no such record. -/
inductive LedgerEntry (T : Type*) where
  | added (unit : ℕ) (threat : T)
  | reset (unit : ℕ)
  deriving DecidableEq

/-- The manager and the heap of its references. `ledger` is a record for the
proofs: no function reads it. -/
structure ThreatMgr (T : Type*) where
  refs : ℕ → HostileReference T
  next : ℕ
  threatContainer : List ℕ
  threatOfflineContainer : List ℕ
  dirty : Bool
  currentVictim : Option ℕ
  ledger : List (LedgerEntry T)

/-- What the code observes of the units (by guid), and of the creature itself. -/
structure ThreatWorld (T : Type*) where
  owner : ℕ
  exists? : ℕ → Bool
  isGameMaster : ℕ → Bool
  isAlive : ℕ → Bool
  isInFlight : ℕ → Bool
  isInMap : ℕ → Bool
  inSamePhase : ℕ → Bool
  isInAccessiblePlace : ℕ → Bool
  isWithinCombatRange : ℕ → Bool
  isEyeOfKilrogg : ℕ → Bool
  charmerOrOwner : ℕ → Option ℕ
  redirectThreatPercent : ℕ → ℕ
  redirectThreatTarget : ℕ → Option ℕ
  isVisibleBySummonerOnly : ℕ → Bool
  summonerGuid : ℕ → ℕ
  summonerUnit : ℕ → Option ℕ
  /-- `calcThreat` and the hook `CalculateThreat` of the creature's script. -/
  calcThreat : ℕ → T → T
  canCreatureAttack : ℕ → Bool
  isImmunedToDamage : ℕ → Bool
  hasBreakableAura : ℕ → Bool
  isIgnored : ℕ → Bool
  isWithinMeleeRange : ℕ → Bool

namespace ThreatMgr

variable {T : Type*}

def init [ThreatValue T] : ThreatMgr T :=
  ⟨fun _ => ⟨0, 0, 0, false, false⟩, 0, [], [], false, none, []⟩

def live (mgr : ThreatMgr T) : List ℕ := mgr.threatContainer ++ mgr.threatOfflineContainer

def setRef (mgr : ThreatMgr T) (id : ℕ) (ref : HostileReference T) : ThreatMgr T :=
  { mgr with refs := Function.update mgr.refs id ref }

def setDirty (mgr : ThreatMgr T) (dirty : Bool) : ThreatMgr T := { mgr with dirty := dirty }

def setCurrentVictim (mgr : ThreatMgr T) (ref : Option ℕ) : ThreatMgr T :=
  { mgr with currentVictim := ref }

/-- `ThreatContainer::getReferenceByTarget` -/
def getReferenceByTarget (mgr : ThreatMgr T) (container : List ℕ) (unit : ℕ) : Option ℕ :=
  container.find? fun id => (mgr.refs id).unitGuid = unit

def findReference (mgr : ThreatMgr T) (unit : ℕ) (includeOffline : Bool) : Option ℕ :=
  match mgr.getReferenceByTarget mgr.threatContainer unit with
  | some id => some id
  | none =>
    if includeOffline then mgr.getReferenceByTarget mgr.threatOfflineContainer unit
    else none

/-- `std::list::remove` takes out every equal element. -/
def remove (container : List ℕ) (id : ℕ) : List ℕ := container.filter fun other => other ≠ id

inductive ThreatEvent (T : Type*) where
  | threatChange (value : T)
  | onlineStatus
  | removeFromList

/-- A victim that leaves the online list is given up. -/
def dropVictim (mgr : ThreatMgr T) (id : ℕ) : ThreatMgr T :=
  if mgr.currentVictim = some id then (mgr.setCurrentVictim none).setDirty true else mgr

variable [ThreatValue T]

def compareVictim (mgr : ThreatMgr T) (id : ℕ) : ThreatMgr T :=
  match mgr.currentVictim with
  | none => mgr
  | some victim =>
    if ThreatValue.melee (mgr.refs victim).threat < (mgr.refs id).threat then mgr.setDirty true
    else mgr

def processThreatEvent (mgr : ThreatMgr T) (id : ℕ) : ThreatEvent T → ThreatMgr T
  | .threatChange value =>
    if (mgr.currentVictim = some id ∧ value < 0) ∨ (mgr.currentVictim ≠ some id ∧ 0 < value)
    then mgr.setDirty true
    else mgr
  | .onlineStatus =>
    if (mgr.refs id).online = false then
      let mgr := mgr.dropVictim id
      { mgr with
        threatContainer := remove mgr.threatContainer id
        threatOfflineContainer := mgr.threatOfflineContainer ++ [id] }
    else
      let mgr := mgr.compareVictim id
      { mgr with
        threatContainer := mgr.threatContainer ++ [id]
        threatOfflineContainer := remove mgr.threatOfflineContainer id }
  | .removeFromList =>
    let mgr := mgr.dropVictim id
    if (mgr.refs id).online then
      { mgr with threatContainer := remove mgr.threatContainer id }
    else { mgr with threatOfflineContainer := remove mgr.threatOfflineContainer id }

def setOnlineOfflineState (mgr : ThreatMgr T) (id : ℕ) (isOnline : Bool) : ThreatMgr T :=
  if (mgr.refs id).online ≠ isOnline then
    (mgr.setRef id { mgr.refs id with online := isOnline }).processThreatEvent id .onlineStatus
  else mgr

def relink (world : ThreatWorld T) (mgr : ThreatMgr T) (id : ℕ) : ThreatMgr T :=
  if (mgr.refs id).valid = false ∧ world.exists? (mgr.refs id).unitGuid then
    mgr.setRef id { mgr.refs id with valid := true }
  else mgr

def updateOnlineStatus (world : ThreatWorld T) (mgr : ThreatMgr T) (id : ℕ) : ThreatMgr T :=
  let mgr := relink world mgr id
  let unit := (mgr.refs id).unitGuid
  let online := (mgr.refs id).valid && !world.isGameMaster unit && !world.isInFlight unit &&
    world.isInMap unit && world.inSamePhase unit &&
    (world.isInAccessiblePlace unit || world.isWithinCombatRange unit)
  mgr.setOnlineOfflineState id online

/-- `removeReference`: the link is cut, which takes the reference offline, and the
reference leaves its container. -/
def removeReference (mgr : ThreatMgr T) (id : ℕ) : ThreatMgr T :=
  let mgr := mgr.setOnlineOfflineState id false
  let mgr := mgr.setRef id { mgr.refs id with valid := false }
  mgr.processThreatEvent id .removeFromList

def clearReferences (mgr : ThreatMgr T) : ThreatMgr T :=
  { mgr with threatContainer := [], threatOfflineContainer := [], currentVictim := none }

/-! ## Adding threat

`source` is `ThreatMgr::AddThreat` for the owner of a pet. -/

/-- `iThreat += modThreat` -/
def raiseThreat (mgr : ThreatMgr T) (id : ℕ) (modThreat : T) : ThreatMgr T :=
  mgr.setRef id { mgr.refs id with threat := (mgr.refs id).threat + modThreat }

def announceChange (world : ThreatWorld T) (mgr : ThreatMgr T) (id : ℕ) (modThreat : T) :
    ThreatMgr T :=
  let mgr := if (mgr.refs id).online then mgr else updateOnlineStatus world mgr id
  if modThreat ≠ 0 then mgr.processThreatEvent id (.threatChange modThreat) else mgr

/-- The first half of `HostileReference::AddThreat`. -/
def changeThreat (world : ThreatWorld T) (mgr : ThreatMgr T) (id : ℕ) (modThreat : T) :
    ThreatMgr T :=
  announceChange world (mgr.raiseThreat id modThreat) id modThreat

/-- `HostileReference::AddThreat` -/
def refAddThreat (world : ThreatWorld T) (source : ThreatMgr T → ℕ → T → Option (ThreatMgr T))
    (mgr : ThreatMgr T) (id : ℕ) (modThreat : T) : Option (ThreatMgr T) :=
  let mgr := changeThreat world mgr id modThreat
  let unit := (mgr.refs id).unitGuid
  if (mgr.refs id).valid ∧ 0 ≤ modThreat ∧ world.isEyeOfKilrogg unit = false then
    match world.charmerOrOwner unit with
    | some victimOwner => if world.isAlive victimOwner then source mgr victimOwner 0 else some mgr
    | none => some mgr
  else some mgr

/-- The reference of a unit that is hated for the first time. -/
def newReference (mgr : ThreatMgr T) (victim : ℕ) : ThreatMgr T :=
  { mgr.setRef mgr.next ⟨victim, 0, 0, true, true⟩ with
    next := mgr.next + 1
    threatContainer := mgr.threatContainer ++ [mgr.next]
    ledger := mgr.ledger ++ [.reset victim] }

def record (mgr : ThreatMgr T) (entry : LedgerEntry T) : ThreatMgr T :=
  { mgr with ledger := mgr.ledger ++ [entry] }

/-- `ThreatMgr::_addThreat` -/
def addThreatDirect (world : ThreatWorld T)
    (source : ThreatMgr T → ℕ → T → Option (ThreatMgr T))
    (mgr : ThreatMgr T) (victim : ℕ) (threat : T) : Option (ThreatMgr T) :=
  match mgr.findReference victim true with
  | some id => refAddThreat world source (mgr.record (.added victim threat)) id threat
  | none =>
    let id := mgr.next
    let created := (mgr.newReference victim).record (.added victim threat)
    (refAddThreat world source created id threat).map fun mgr =>
      if world.isGameMaster victim then mgr.setOnlineOfflineState id false else mgr

/-- `ThreatCalcHelper::isValidProcess` for the creature and a unit it is to hate. -/
def isValidProcess (world : ThreatWorld T) (hated : ℕ) : Bool :=
  hated ≠ world.owner && !world.isGameMaster hated && world.isAlive hated &&
    world.isAlive world.owner && world.isInMap hated && world.inSamePhase hated

/-- Whom `DoAddThreat` redirects to, and how many percent. -/
def redirection (world : ThreatWorld T) (victim : ℕ) : ℕ × Option ℕ :=
  if world.isVisibleBySummonerOnly victim ∧ (world.isVisibleBySummonerOnly world.owner = false ∨
        world.summonerGuid victim ≠ world.summonerGuid world.owner) then
    (100, world.summonerUnit victim)
  else (world.redirectThreatPercent victim, world.redirectThreatTarget victim)

def doAddThreat (world : ThreatWorld T)
    (source : ThreatMgr T → ℕ → T → Option (ThreatMgr T))
    (mgr : ThreatMgr T) (victim : ℕ) (threat : T) : Option (ThreatMgr T) :=
  let redirect := redirection world victim
  match redirect.2 with
  | some target =>
    if 0 < threat ∧ redirect.1 ≠ 0 then
      let redirectThreat := ThreatValue.pct threat redirect.1
      if isValidProcess world target then
        (addThreatDirect world source mgr target redirectThreat).bind fun mgr =>
          addThreatDirect world source mgr victim (threat - redirectThreat)
      else addThreatDirect world source mgr victim (threat - redirectThreat)
    else addThreatDirect world source mgr victim threat
  | none => addThreatDirect world source mgr victim threat

/-- `ThreatMgr::AddThreat`; the first argument bounds the recursion. -/
def addThreat (world : ThreatWorld T) : ℕ → ThreatMgr T → ℕ → T → Option (ThreatMgr T)
  | 0, _, _, _ => none
  | depth + 1, mgr, victim, threat =>
    if isValidProcess world victim then
      doAddThreat world (addThreat world depth) mgr victim (world.calcThreat victim threat)
    else some mgr

/-! ## Resets and taunts -/

/-- `HostileReference::SetThreat` -/
def setThreat (world : ThreatWorld T) (depth : ℕ) (mgr : ThreatMgr T) (id : ℕ) (threat : T) :
    Option (ThreatMgr T) :=
  refAddThreat world (addThreat world depth) mgr id (threat - (mgr.refs id).threat)

/-- `iTempThreatModifier = threat` -/
def setTempModifier (mgr : ThreatMgr T) (id : ℕ) (threat : T) : ThreatMgr T :=
  mgr.setRef id { mgr.refs id with tempThreatModifier := threat }

def addTempThreat (world : ThreatWorld T) (depth : ℕ) (mgr : ThreatMgr T) (id : ℕ) (threat : T) :
    Option (ThreatMgr T) :=
  let mgr := mgr.setTempModifier id threat
  if threat ≠ 0 then refAddThreat world (addThreat world depth) mgr id threat else some mgr

def setTempThreat (world : ThreatWorld T) (depth : ℕ) (mgr : ThreatMgr T) (id : ℕ) (threat : T) :
    Option (ThreatMgr T) :=
  addTempThreat world depth mgr id (threat - (mgr.refs id).threat)

def resetTempThreat (world : ThreatWorld T) (depth : ℕ) (mgr : ThreatMgr T) (id : ℕ) :
    Option (ThreatMgr T) :=
  if (mgr.refs id).tempThreatModifier ≠ 0 then
    (refAddThreat world (addThreat world depth) mgr id (-(mgr.refs id).tempThreatModifier)).map
      fun mgr => mgr.setTempModifier id 0
  else some mgr

/-- `SetThreat(0)`, recorded as a reset of the unit. -/
def resetRef (world : ThreatWorld T) (depth : ℕ) (mgr : ThreatMgr T) (id : ℕ) :
    Option (ThreatMgr T) :=
  setThreat world depth (mgr.record (.reset (mgr.refs id).unitGuid)) id 0

def tauntApply (world : ThreatWorld T) (depth : ℕ) (mgr : ThreatMgr T) (taunter : ℕ) :
    Option (ThreatMgr T) :=
  match mgr.currentVictim, mgr.getReferenceByTarget mgr.threatContainer taunter with
  | some victim, some id =>
    if (mgr.refs id).threat < (mgr.refs victim).threat ∧ (mgr.refs id).tempThreatModifier = 0
    then setTempThreat world depth mgr id (mgr.refs victim).threat
    else some mgr
  | _, _ => some mgr

def tauntFadeOut (world : ThreatWorld T) (depth : ℕ) (mgr : ThreatMgr T) (taunter : ℕ) :
    Option (ThreatMgr T) :=
  match mgr.getReferenceByTarget mgr.threatContainer taunter with
  | some id => resetTempThreat world depth mgr id
  | none => some mgr

def resetThreat (world : ThreatWorld T) (depth : ℕ) (mgr : ThreatMgr T) (who : ℕ) :
    Option (ThreatMgr T) :=
  match mgr.findReference who true with
  | some id => resetRef world depth mgr id
  | none => some mgr

/-- A loop over the online list that may grow at its end meanwhile; `fuel` bounds
its iterations. -/
def forOnline (body : ThreatMgr T → ℕ → Option (ThreatMgr T)) :
    ℕ → ℕ → ThreatMgr T → Option (ThreatMgr T)
  | 0, _, _ => none
  | fuel + 1, index, mgr =>
    match mgr.threatContainer[index]? with
    | none => some mgr
    | some id => (body mgr id).bind (forOnline body fuel (index + 1))

def resetAggro (world : ThreatWorld T) (depth fuel : ℕ) (mgr : ThreatMgr T)
    (predicate : ℕ → Bool) : Option (ThreatMgr T) :=
  forOnline
    (fun mgr id =>
      if predicate (mgr.refs id).unitGuid then
        (resetRef world depth mgr id).map fun mgr => mgr.setDirty true
      else some mgr)
    fuel 0 mgr

def resetAllThreat (world : ThreatWorld T) (depth fuel : ℕ) (mgr : ThreatMgr T) :
    Option (ThreatMgr T) :=
  if mgr.threatContainer = [] then some mgr
  else
    (forOnline
      (fun mgr id =>
        (resetTempThreat world depth mgr id).bind fun mgr => resetRef world depth mgr id)
      fuel 0 mgr).map fun mgr => mgr.setDirty true

/-- `ThreatContainer::update`: a stable sort by descending threat. -/
def update (mgr : ThreatMgr T) : ThreatMgr T :=
  let sorted :=
    if mgr.dirty ∧ 1 < mgr.threatContainer.length then
      mgr.threatContainer.insertionSort fun first second =>
        ¬ (mgr.refs first).threat < (mgr.refs second).threat
    else mgr.threatContainer
  { mgr with threatContainer := sorted, dirty := false }

/-- Targets that are taken only if the whole list consists of them. -/
def isSecondChoice (world : ThreatWorld T) (unit : ℕ) : Bool :=
  world.isImmunedToDamage unit || world.hasBreakableAura unit || world.isIgnored unit

/-- How a pass over the list ends: with a victim, without one, or with the order to
pass again and take second choices too. -/
inductive Selection where
  | found (id : ℕ)
  | again
  | none
  deriving DecidableEq

def selectPass (world : ThreatWorld T) (mgr : ThreatMgr T) (currentVictim : Option ℕ)
    (noPriorityTargetFound : Bool) : List ℕ → Selection
  | [] => .none
  | id :: rest =>
    let target := (mgr.refs id).unitGuid
    if !noPriorityTargetFound && isSecondChoice world target then
      if rest = [] then .again
      else selectPass world mgr currentVictim noPriorityTargetFound rest
    else if world.canCreatureAttack target then
      match currentVictim with
      | some victim =>
        if victim = id then .found id
        else if ThreatValue.ranged (mgr.refs victim).threat < (mgr.refs id).threat then
          .found id
        else if ThreatValue.melee (mgr.refs victim).threat < (mgr.refs id).threat then
          if world.isWithinMeleeRange target then .found id
          else selectPass world mgr currentVictim noPriorityTargetFound rest
        else .found victim
      | Option.none => .found id
    else selectPass world mgr currentVictim noPriorityTargetFound rest

def comparedVictim (world : ThreatWorld T) (mgr : ThreatMgr T) : Option ℕ :=
  mgr.currentVictim.filter fun victim =>
    let unit := (mgr.refs victim).unitGuid
    world.canCreatureAttack unit && !(world.isImmunedToDamage unit || world.hasBreakableAura unit)

def selectNextVictim (world : ThreatWorld T) (mgr : ThreatMgr T) : Option ℕ :=
  let currentVictim := comparedVictim world mgr
  match selectPass world mgr currentVictim false mgr.threatContainer with
  | .found id => some id
  | .none => none
  | .again =>
    match selectPass world mgr currentVictim true mgr.threatContainer with
    | .found id => some id
    | _ => none

def getHostileTarget (world : ThreatWorld T) (mgr : ThreatMgr T) : ThreatMgr T :=
  mgr.update.setCurrentVictim (selectNextVictim world mgr.update)

inductive Op (T : Type*) where
  | addThreat (world : ThreatWorld T) (depth victim : ℕ) (threat : T)
  | doAddThreat (world : ThreatWorld T) (depth victim : ℕ) (threat : T)
  | setOnlineOfflineState (id : ℕ) (isOnline : Bool)
  | updateOnlineStatus (world : ThreatWorld T) (id : ℕ)
  | removeReference (id : ℕ)
  | clearReferences
  | getHostileTarget (world : ThreatWorld T)
  | tauntApply (world : ThreatWorld T) (depth taunter : ℕ)
  | tauntFadeOut (world : ThreatWorld T) (depth taunter : ℕ)
  | resetThreat (world : ThreatWorld T) (depth who : ℕ)
  | resetAggro (world : ThreatWorld T) (depth fuel : ℕ) (predicate : ℕ → Bool)
  | resetAllThreat (world : ThreatWorld T) (depth fuel : ℕ)

/-- One call from outside. The units the creature hates call the status changes on
the references that are in a container. -/
def step (mgr : ThreatMgr T) : Op T → Option (ThreatMgr T)
  | .addThreat world depth victim threat => addThreat world depth mgr victim threat
  | .doAddThreat world depth victim threat =>
    doAddThreat world (addThreat world depth) mgr victim threat
  | .setOnlineOfflineState id isOnline =>
    if id ∈ mgr.live then some (mgr.setOnlineOfflineState id isOnline) else none
  | .updateOnlineStatus world id =>
    if id ∈ mgr.live then some (updateOnlineStatus world mgr id) else none
  | .removeReference id => if id ∈ mgr.live then some (mgr.removeReference id) else none
  | .clearReferences => some mgr.clearReferences
  | .getHostileTarget world => some (getHostileTarget world mgr)
  | .tauntApply world depth taunter => tauntApply world depth mgr taunter
  | .tauntFadeOut world depth taunter => tauntFadeOut world depth mgr taunter
  | .resetThreat world depth who => resetThreat world depth mgr who
  | .resetAggro world depth fuel predicate => resetAggro world depth fuel mgr predicate
  | .resetAllThreat world depth fuel => resetAllThreat world depth fuel mgr

end ThreatMgr

end AzerothCore
