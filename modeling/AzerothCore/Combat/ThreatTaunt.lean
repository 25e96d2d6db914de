import AzerothCore.Combat.ThreatConsistency
import Mathlib.Tactic.Linarith
import Mathlib.Tactic.Ring

/-!
# Taunts give back what they took

Temporary threat is folded into the threat of a reference and remembered beside
it. The account of a reference balances if its threat is the real threat of its
unit plus that remembered amount; with exact arithmetic every operation keeps all
accounts balanced, except a reset of a unit that is taunted.
-/

namespace AzerothCore.ThreatMgr

open List Option
open Reachability

variable (ledger : List (LedgerEntry ℚ))

/-- The real threat of a unit since its last reset. -/
def realThreat (unit : ℕ) : ℚ :=
  ledger.foldl
    (fun sum entry =>
      match entry with
      | .added other threat => if other = unit then sum + threat else sum
      | .reset other => if other = unit then 0 else sum)
    0

@[simp]
theorem realThreat_append_added (unit other : ℕ) (threat : ℚ) :
    realThreat (ledger ++ [.added other threat]) unit =
      if other = unit then realThreat ledger unit + threat else realThreat ledger unit := by
  simp [realThreat]

@[simp]
theorem realThreat_append_reset (unit other : ℕ) : realThreat (ledger ++ [.reset other]) unit =
      if other = unit then 0 else realThreat ledger unit := by
  simp [realThreat]

variable {mgr before after first second third : ThreatMgr ℚ}

def gap (mgr : ThreatMgr ℚ) (id : ℕ) : ℚ :=
  (mgr.refs id).threat - realThreat mgr.ledger (mgr.refs id).unitGuid

def Balanced (mgr : ThreatMgr ℚ) : Prop :=
  ∀ id ∈ mgr.live, mgr.gap id = (mgr.refs id).tempThreatModifier

structure Accounts (before after : ThreatMgr ℚ) : Prop where
  gap : ∀ id ∈ before.live, after.gap id = before.gap id
  temp : ∀ id ∈ before.live,
    (after.refs id).tempThreatModifier = (before.refs id).tempThreatModifier
  new : ∀ id ∈ after.live, id ∉ before.live →
    after.gap id = 0 ∧ (after.refs id).tempThreatModifier = 0

namespace Accounts

theorem refl (mgr : ThreatMgr ℚ) : Accounts mgr mgr :=
  ⟨fun _ _ => rfl, fun _ _ => rfl, fun _ hid hnot => absurd hid hnot⟩

theorem trans (hleft : Accounts first second) (hlive : ∀ id ∈ first.live, id ∈ second.live)
    (hright : Accounts second third) : Accounts first third where
  gap id hid := (hright.gap id (hlive id hid)).trans (hleft.gap id hid)
  temp id hid := (hright.temp id (hlive id hid)).trans (hleft.temp id hid)
  new id hid hnot := by
    by_cases hmiddle : id ∈ second.live
    · rw [hright.gap id hmiddle, hright.temp id hmiddle]
      exact hleft.new id hmiddle hnot
    · exact hright.new id hid hmiddle

theorem balanced (haccounts : Accounts before after) (hbal : Balanced before) : Balanced after := by
  intro id hid
  by_cases hold : id ∈ before.live
  · rw [haccounts.gap id hold, haccounts.temp id hold]
    exact hbal id hold
  · obtain ⟨hgap, htemp⟩ := haccounts.new id hid hold
    rw [hgap, htemp]

theorem of_same (hlive : ∀ id ∈ after.live, id ∈ before.live)
    (hledger : after.ledger = before.ledger)
    (hguid : ∀ id, (after.refs id).unitGuid = (before.refs id).unitGuid)
    (hthreat : ∀ id, (after.refs id).threat = (before.refs id).threat)
    (htemp : ∀ id, (after.refs id).tempThreatModifier = (before.refs id).tempThreatModifier) :
    Accounts before after where
  gap id _ := by rw [ThreatMgr.gap, ThreatMgr.gap, hledger, hguid, hthreat]
  temp id _ := htemp id
  new id hid hnot := absurd (hlive id hid) hnot

end Accounts

theorem raiseThreat_refs (mgr : ThreatMgr ℚ) (id other : ℕ) (modThreat : ℚ) :
    (mgr.raiseThreat id modThreat).refs other =
      if other = id then { mgr.refs id with threat := (mgr.refs id).threat + modThreat }
      else mgr.refs other :=
  setRef_refs mgr id other _

@[simp]
theorem raiseThreat_ledger (mgr : ThreatMgr ℚ) (id : ℕ) (modThreat : ℚ) :
    (mgr.raiseThreat id modThreat).ledger = mgr.ledger := rfl

theorem gap_raiseThreat (mgr : ThreatMgr ℚ) (id other : ℕ) (modThreat : ℚ) :
    (mgr.raiseThreat id modThreat).gap other =
      mgr.gap other + if other = id then modThreat else 0 := by
  rw [gap, gap, raiseThreat_refs, raiseThreat_ledger]
  split_ifs with heq
  · rw [heq]
    ring
  · ring

theorem setTempModifier_refs (mgr : ThreatMgr ℚ) (id other : ℕ) (threat : ℚ) :
    (mgr.setTempModifier id threat).refs other =
      if other = id then { mgr.refs id with tempThreatModifier := threat }
      else mgr.refs other :=
  setRef_refs mgr id other _

theorem gap_setTempModifier (mgr : ThreatMgr ℚ) (id other : ℕ) (threat : ℚ) :
    (mgr.setTempModifier id threat).gap other = mgr.gap other := by
  rw [gap, gap, setTempModifier_refs]
  split_ifs with heq
  · rw [heq]
    rfl
  · rfl

theorem setOnlineOfflineState_ledger (mgr : ThreatMgr ℚ) (id : ℕ) (isOnline : Bool) :
    (mgr.setOnlineOfflineState id isOnline).ledger = mgr.ledger := by
  rw [setOnlineOfflineState]
  split_ifs
  · rw [processThreatEvent]
    split_ifs
    · unfold dropVictim
      split_ifs <;> rfl
    · obtain ⟨dirty, hcompare⟩ := compareVictim_eq
        (mgr.setRef id { mgr.refs id with online := isOnline }) id
      rw [hcompare]
      rfl
  · rfl

theorem setOnlineOfflineState_refs (mgr : ThreatMgr ℚ) (id other : ℕ) (isOnline : Bool) :
    (mgr.setOnlineOfflineState id isOnline).refs other =
      if other = id then { mgr.refs id with online := isOnline } else mgr.refs other := by
  by_cases hchange : (mgr.refs id).online ≠ isOnline
  · rw [setOnlineOfflineState, if_pos hchange, ← setRef_refs, processThreatEvent]
    split_ifs
    · exact congrFun (dropVictim_refs _ id) other
    · obtain ⟨dirty, hcompare⟩ := compareVictim_eq
        (mgr.setRef id { mgr.refs id with online := isOnline }) id
      rw [hcompare]
      rfl
  · rw [setOnlineOfflineState, if_neg hchange]
    split_ifs with heq
    · rw [heq, ← not_ne_iff.mp hchange]
    · rfl

theorem setOnlineOfflineState_live (mgr : ThreatMgr ℚ) {id : ℕ} (isOnline : Bool)
    (hid : id ∈ mgr.live) :
    ∀ other ∈ (mgr.setOnlineOfflineState id isOnline).live, other ∈ mgr.live := by
  intro other hother
  rw [setOnlineOfflineState] at hother
  split_ifs at hother
  · rw [processThreatEvent] at hother
    split_ifs at hother
    · simp only [mem_live, dropVictim_threatContainer, dropVictim_threatOfflineContainer,
        setRef_threatContainer, setRef_threatOfflineContainer, mem_remove, mem_append,
        mem_singleton] at hother
      rcases hother with ⟨hon, -⟩ | hoff | rfl
      · exact mem_live.mpr (.inl hon)
      · exact mem_live.mpr (.inr hoff)
      · exact hid
    · obtain ⟨dirty, hcompare⟩ := compareVictim_eq
        (mgr.setRef id { mgr.refs id with online := isOnline }) id
      rw [hcompare] at hother
      simp only [mem_live, setDirty_threatContainer, setDirty_threatOfflineContainer,
        setRef_threatContainer, setRef_threatOfflineContainer, mem_remove, mem_append,
        mem_singleton] at hother
      rcases hother with (hon | rfl) | ⟨hoff, -⟩
      · exact mem_live.mpr (.inl hon)
      · exact hid
      · exact mem_live.mpr (.inr hoff)
  · exact hother

theorem Accounts.setOnlineOfflineState (mgr : ThreatMgr ℚ) {id : ℕ} (isOnline : Bool)
    (hid : id ∈ mgr.live) : Accounts mgr (mgr.setOnlineOfflineState id isOnline) := by
  refine .of_same (setOnlineOfflineState_live mgr isOnline hid)
    (setOnlineOfflineState_ledger mgr id isOnline) ?_ ?_ ?_ <;>
  · intro other
    rw [setOnlineOfflineState_refs]
    split_ifs with heq
    · rw [heq]
    · rfl

theorem Accounts.setRef (mgr : ThreatMgr ℚ) (id : ℕ) {ref : HostileReference ℚ}
    (hguid : ref.unitGuid = (mgr.refs id).unitGuid)
    (hthreat : ref.threat = (mgr.refs id).threat)
    (htemp : ref.tempThreatModifier = (mgr.refs id).tempThreatModifier) :
    Accounts mgr (mgr.setRef id ref) := by
  refine .of_same (fun _ hid => hid) rfl ?_ ?_ ?_ <;>
  · intro other
    rw [setRef_refs]
    split_ifs with heq
    · rw [heq]
      assumption
    · rfl

theorem Accounts.updateOnlineStatus (world : ThreatWorld ℚ) (mgr : ThreatMgr ℚ) {id : ℕ}
    (hid : id ∈ mgr.live) : Accounts mgr (updateOnlineStatus world mgr id) := by
  have hrelink : Accounts mgr (relink world mgr id) ∧ (relink world mgr id).live = mgr.live := by
    rw [relink]
    split_ifs
    · exact ⟨.setRef mgr id rfl rfl rfl, rfl⟩
    · exact ⟨.refl mgr, rfl⟩
  exact hrelink.1.trans (fun _ hlive => hrelink.2 ▸ hlive)
    (.setOnlineOfflineState _ _ (hrelink.2 ▸ hid))

theorem Accounts.threatChange (mgr : ThreatMgr ℚ) (id : ℕ) (value : ℚ) :
    Accounts mgr (mgr.processThreatEvent id (.threatChange value)) := by
  rw [processThreatEvent]
  split_ifs
  · exact .of_same (fun _ hid => hid) rfl (fun _ => rfl) (fun _ => rfl) fun _ => rfl
  · exact .refl mgr

/-- What a source of threat has to keep: the containers and the accounts. -/
def Fair (before after : ThreatMgr ℚ) : Prop := Consistent before → Accounts before after

theorem Fair.trans (hevolves : Evolves first second) (hleft : Fair first second)
    (hright : Fair second third) : Fair first third := fun hcons =>
  (hleft hcons).trans (fun id hid => ((hevolves hcons).2 id hid).1)
    (hright (hevolves hcons).1)

variable {threat : ℚ}

section AddThreat

variable {world : ThreatWorld ℚ} {source : ThreatMgr ℚ → ℕ → ℚ → Option (ThreatMgr ℚ)}

theorem Accounts.announceChange (world : ThreatWorld ℚ) (mgr : ThreatMgr ℚ) {id : ℕ}
    (modThreat : ℚ) (hid : id ∈ mgr.live) (hcons : Consistent mgr) :
    Accounts mgr (announceChange world mgr id modThreat) := by
  have hupdated := Accounts.updateOnlineStatus world mgr hid
  have hlive : ∀ other ∈ mgr.live, other ∈ (ThreatMgr.updateOnlineStatus world mgr id).live :=
    fun other hother => ((Evolves.updateOnlineStatus world mgr hid hcons).2 other hother).1
  rw [ThreatMgr.announceChange]
  split_ifs
  · exact .threatChange mgr id modThreat
  · exact hupdated.trans hlive (.threatChange _ id modThreat)
  · exact .refl mgr
  · exact hupdated

/-- Once the amount itself is added, the rest of `HostileReference::AddThreat` keeps
the accounts. -/
theorem refAddThreat_accounts
    (hsource : ∀ mgr unit threat after, source mgr unit threat = some after → Fair mgr after)
    {id : ℕ} {modThreat : ℚ} (hid : id ∈ mgr.live) (hcons : Consistent mgr)
    (hadd : refAddThreat world source mgr id modThreat = some after) :
    Accounts (mgr.raiseThreat id modThreat) after := by
  have hlive : id ∈ (mgr.raiseThreat id modThreat).live := hid
  have hraised := (Evolves.raiseThreat mgr id modThreat hcons).1
  have hevolved := Evolves.announceChange world _ modThreat hlive hraised
  have hannounced := Accounts.announceChange world _ modThreat hlive hraised
  rcases refAddThreat_cases hadd with rfl | ⟨victimOwner, howner⟩
  · exact hannounced
  · exact hannounced.trans (fun other hother => (hevolved.2 other hother).1)
      (hsource _ _ _ _ howner hevolved.1)

theorem Accounts.recordAdded {unit id : ℕ} (hcons : Consistent mgr) (hid : id ∈ mgr.live)
    (hguid : (mgr.refs id).unitGuid = unit) :
    Accounts mgr ((mgr.record (.added unit threat)).raiseThreat id threat) where
  gap other hother := by
    rw [ThreatMgr.gap, ThreatMgr.gap, raiseThreat_refs]
    by_cases heq : other = id
    · subst heq
      simp only [if_true, raiseThreat_ledger, record, realThreat_append_added, hguid]
      ring
    · have hne : unit ≠ (mgr.refs other).unitGuid := fun hsame =>
        heq (hcons.unique other hother id hid (hsame.symm.trans hguid.symm))
      simp [heq, hne, record]
  temp other _ := by
    rw [raiseThreat_refs]
    split_ifs with heq
    · rw [heq]
      rfl
    · rfl
  new other hother hnot := absurd hother hnot

variable {victim : ℕ}

theorem Accounts.newReference (hcons : Consistent mgr)
    (hnew : ∀ id ∈ mgr.live, (mgr.refs id).unitGuid ≠ victim) :
    Accounts mgr (mgr.newReference victim) := by
  have hrefs := newReference_refs mgr victim
  have hkept : ∀ id ∈ mgr.live, (mgr.newReference victim).refs id = mgr.refs id :=
    fun _ hid => hcons.newReference_refs victim hid
  refine ⟨fun id hid => ?_, fun id hid => by rw [hkept id hid], fun id hid hnot => ?_⟩
  · rw [ThreatMgr.gap, ThreatMgr.gap, hkept id hid]
    simp only [ThreatMgr.newReference, realThreat_append_reset, if_neg (hnew id hid).symm]
  · have hself : id = mgr.next := by
      rw [mem_live] at hid hnot
      push Not at hnot
      rcases hid with hon | hoff
      · rcases mem_append.mp hon with hold | hnext
        · exact absurd hold hnot.1
        · exact mem_singleton.mp hnext
      · exact absurd hoff hnot.2
    rw [ThreatMgr.gap, hrefs, if_pos hself]
    simp [ThreatMgr.newReference]

section

variable (hevolves : ∀ mgr unit threat after, source mgr unit threat = some after → Evolves mgr after) (hsource : ∀ mgr unit threat after, source mgr unit threat = some after → Fair mgr after)
include hevolves hsource

theorem Fair.addThreatDirect
    (hadd : addThreatDirect world source mgr victim threat = some after) : Fair mgr after := by
  intro hcons
  rw [ThreatMgr.addThreatDirect] at hadd
  split at hadd
  · next id hfind =>
      obtain ⟨hid, hguid⟩ := findReference_eq_some hfind
      have hrecorded := (Evolves.record mgr (.added victim threat) hcons).1
      have hlive : id ∈ (mgr.record (.added victim threat)).live := hid
      have hadded : Accounts mgr ((mgr.record (.added victim threat)).raiseThreat id threat) :=
        .recordAdded hcons hid hguid
      exact hadded.trans (fun _ hother => hother)
        (refAddThreat_accounts hsource hlive hrecorded hadd)
  · next hfind =>
      obtain ⟨added, hadded, rfl⟩ := map_eq_some_iff.mp hadd
      have hnew := findReference_eq_none hfind
      have hcreated := Evolves.newReference hnew hcons
      have hlive : mgr.next ∈ (mgr.newReference victim).live :=
        mem_append_left _ (mem_append_right _ (mem_singleton_self _))
      have hguid : ((mgr.newReference victim).refs mgr.next).unitGuid = victim :=
        congrArg HostileReference.unitGuid (setRef_refs_self mgr mgr.next _)
      have hrecorded := Evolves.record (mgr.newReference victim) (.added victim threat) hcreated.1
      have hlive' : mgr.next ∈ ((mgr.newReference victim).record (.added victim threat)).live :=
        hlive
      have hevolved := Evolves.refAddThreat hevolves hlive' hadded hrecorded.1
      have hkept : ∀ id ∈ mgr.live, id ∈ added.live := fun id hid =>
        (hevolved.2 id (hcreated.2 id hid).1).1
      have hraised : Accounts (mgr.newReference victim) added :=
        (Accounts.recordAdded hcreated.1 hlive hguid).trans (fun _ hother => hother)
          (refAddThreat_accounts hsource hlive' hrecorded.1 hadded)
      have haccounts : Accounts mgr added :=
        (Accounts.newReference hcons hnew).trans (fun id hid => (hcreated.2 id hid).1)
          hraised
      split_ifs
      · exact haccounts.trans hkept
          (.setOnlineOfflineState added false (hevolved.2 mgr.next hlive).1)
      · exact haccounts

theorem Fair.doAddThreat
    (hadd : doAddThreat world source mgr victim threat = some after) : Fair mgr after := by
  rw [ThreatMgr.doAddThreat] at hadd
  split at hadd
  · split_ifs at hadd
    · obtain ⟨redirected, hredirected, hadded⟩ := bind_eq_some_iff.mp hadd
      exact (Fair.addThreatDirect hevolves hsource hredirected).trans
        (.addThreatDirect hevolves hredirected) (.addThreatDirect hevolves hsource hadded)
    · exact .addThreatDirect hevolves hsource hadd
    · exact .addThreatDirect hevolves hsource hadd
  · exact .addThreatDirect hevolves hsource hadd

end

end AddThreat

theorem Fair.addThreat (world : ThreatWorld ℚ) (depth : ℕ) (mgr : ThreatMgr ℚ) (victim : ℕ)
    (threat : ℚ) (after : ThreatMgr ℚ)
    (hadd : addThreat world depth mgr victim threat = some after) : Fair mgr after := by
  induction depth generalizing mgr victim threat after with
  | zero => cases hadd
  | succ depth ih =>
    rw [ThreatMgr.addThreat] at hadd
    split_ifs at hadd
    · exact .doAddThreat (.addThreat world depth) ih hadd
    · cases hadd
      exact fun _ => .refl mgr

section Reset

variable {world : ThreatWorld ℚ} {depth id : ℕ}

theorem balanced_raiseThreat_reset (hcons : Consistent mgr) (hid : id ∈ mgr.live)
    (htemp : (mgr.refs id).tempThreatModifier = 0) (hbal : Balanced mgr) :
    Balanced ((mgr.record (.reset (mgr.refs id).unitGuid)).raiseThreat id
      (0 - (mgr.refs id).threat)) := by
  intro other hother
  have hold := hbal other hother
  rw [gap] at hold ⊢
  rw [raiseThreat_refs]
  by_cases heq : other = id
  · subst heq
    simp [record, htemp]
  have hne : (mgr.refs id).unitGuid ≠ (mgr.refs other).unitGuid := fun hsame =>
    heq (hcons.unique other hother id hid hsame.symm)
  simpa [heq, hne, record] using hold

/-- Temporary threat stays as it is, and a new reference carries none. -/
def KeepsTemp (before after : ThreatMgr ℚ) : Prop :=
  (∀ id ∈ before.live, (after.refs id).tempThreatModifier = (before.refs id).tempThreatModifier) ∧
    ∀ id ∈ after.live, id ∉ before.live → (after.refs id).tempThreatModifier = 0

section

variable (hcons : Consistent mgr) (hid : id ∈ mgr.live)
include hcons hid

theorem resetRef_balanced (htemp : (mgr.refs id).tempThreatModifier = 0) (hbal : Balanced mgr)
    (hreset : resetRef world depth mgr id = some after) :
    Balanced after ∧ KeepsTemp mgr after := by
  have hrecorded := (Evolves.record mgr (.reset (mgr.refs id).unitGuid) hcons).1
  have hlive : id ∈ (mgr.record (.reset (mgr.refs id).unitGuid)).live := hid
  have haccounts := refAddThreat_accounts (Fair.addThreat world depth) hlive hrecorded hreset
  refine ⟨haccounts.balanced (balanced_raiseThreat_reset hcons hid htemp hbal),
    fun other hother => ?_, fun other hother hnot => (haccounts.new other hother hnot).2⟩
  rw [haccounts.temp other hother, raiseThreat_refs]
  split_ifs with heq
  · rw [heq]
    rfl
  · rfl

theorem resetTempThreat_balanced
    (hbal : Balanced mgr) (hreset : resetTempThreat world depth mgr id = some after) :
    Balanced after ∧ (after.refs id).tempThreatModifier = 0 := by
  rw [resetTempThreat] at hreset
  split_ifs at hreset with htemp
  · obtain ⟨added, hadded, rfl⟩ := map_eq_some_iff.mp hreset
    have haccounts := refAddThreat_accounts (Fair.addThreat world depth) hid hcons hadded
    refine ⟨fun other hother => ?_, by rw [setTempModifier_refs, if_pos rfl]⟩
    rw [gap_setTempModifier, setTempModifier_refs]
    by_cases hold : other ∈ mgr.live
    · rw [haccounts.gap other hold, gap_raiseThreat, hbal other hold]
      by_cases heq : other = id
      · subst heq
        simp
      have hsame := haccounts.temp other hold
      rw [raiseThreat_refs, if_neg heq] at hsame
      simp [heq, hsame]
    · have hne : other ≠ id := fun heq => hold (heq ▸ hid)
      obtain ⟨hgap, hnone⟩ := haccounts.new other hother hold
      rw [if_neg hne, hgap, hnone]
  · cases hreset
    exact ⟨hbal, not_ne_iff.mp htemp⟩

theorem setTempThreat_balanced (htemp : (mgr.refs id).tempThreatModifier = 0) (hbal : Balanced mgr)
    (hset : setTempThreat world depth mgr id threat = some after) : Balanced after := by
  rw [setTempThreat, addTempThreat] at hset
  generalize threat - (mgr.refs id).threat = amount at hset
  have hmarked := (Evolves.setTempModifier mgr id amount hcons).1
  have hlive : id ∈ (mgr.setTempModifier id amount).live := hid
  split_ifs at hset with hzero
  · have haccounts := refAddThreat_accounts (Fair.addThreat world depth) hlive hmarked
      hset
    refine haccounts.balanced fun other hother => ?_
    rw [gap_raiseThreat, gap_setTempModifier, hbal other hother, raiseThreat_refs,
      setTempModifier_refs, setTempModifier_refs]
    by_cases heq : other = id
    · subst heq
      simp [htemp]
    · simp [heq]
  · cases hset
    intro other hother
    rw [gap_setTempModifier, hbal other hother, setTempModifier_refs]
    split_ifs with heq
    · rw [heq, htemp]
      exact (not_ne_iff.mp hzero).symm
    · rfl

end

end Reset

/-! ## Runs in which no reset meets a taunt -/

/-- The calls that end a taunt properly: no reset of a unit that carries temporary
threat, and no fading of a taunt while the reference is offline. -/
def TauntGuard (mgr : ThreatMgr ℚ) : Op ℚ → Prop
  | .tauntFadeOut _ _ taunter =>
    ∀ id ∈ mgr.threatOfflineContainer, (mgr.refs id).unitGuid = taunter →
      (mgr.refs id).tempThreatModifier = 0
  | .resetThreat _ _ who =>
    ∀ id ∈ mgr.live, (mgr.refs id).unitGuid = who → (mgr.refs id).tempThreatModifier = 0
  | .resetAggro _ _ _ predicate =>
    ∀ id ∈ mgr.live, predicate (mgr.refs id).unitGuid → (mgr.refs id).tempThreatModifier = 0
  | _ => True

theorem Accounts.removeFromList (mgr : ThreatMgr ℚ) (id : ℕ) :
    Accounts mgr (mgr.processThreatEvent id .removeFromList) := by
  have hrefs : (mgr.processThreatEvent id .removeFromList).refs = mgr.refs := by
    rw [processThreatEvent]
    split_ifs <;> exact dropVictim_refs mgr id
  have hledger : (mgr.processThreatEvent id .removeFromList).ledger = mgr.ledger := by
    have hdrop : (mgr.dropVictim id).ledger = mgr.ledger := by
      unfold dropVictim
      split_ifs <;> rfl
    rw [processThreatEvent]
    split_ifs <;> exact hdrop
  refine .of_same (fun other hother => ?_) hledger (fun _ => by rw [hrefs])
    (fun _ => by rw [hrefs]) fun _ => by rw [hrefs]
  rw [processThreatEvent] at hother
  rw [mem_live]
  split_ifs at hother
  · simp only [mem_live, mem_remove, dropVictim_threatContainer,
      dropVictim_threatOfflineContainer] at hother
    exact hother.imp_left And.left
  · simp only [mem_live, mem_remove, dropVictim_threatContainer,
      dropVictim_threatOfflineContainer] at hother
    exact hother.imp_right And.left

theorem removeReference_balanced {id : ℕ} (hid : id ∈ mgr.live) (hbal : Balanced mgr) :
    Balanced (mgr.removeReference id) := by
  have hoffline := (Accounts.setOnlineOfflineState mgr false hid).balanced hbal
  have hinvalid : Accounts _ ((mgr.setOnlineOfflineState id false).setRef id
      { (mgr.setOnlineOfflineState id false).refs id with valid := false }) :=
    .setRef _ id rfl rfl rfl
  exact (Accounts.removeFromList _ id).balanced (hinvalid.balanced hoffline)

theorem resetAggro_balanced {world : ThreatWorld ℚ} {depth fuel : ℕ} {predicate : ℕ → Bool}
    (hcons : Consistent mgr) (hbal : Balanced mgr)
    (hguard : ∀ id ∈ mgr.live, predicate (mgr.refs id).unitGuid = true →
      (mgr.refs id).tempThreatModifier = 0)
    (hreset : resetAggro world depth fuel mgr predicate = some after) : Balanced after := by
  let inv : ThreatMgr ℚ → Prop := fun mgr => Consistent mgr ∧ Balanced mgr ∧
    ∀ id ∈ mgr.live, predicate (mgr.refs id).unitGuid = true → (mgr.refs id).tempThreatModifier = 0
  have hinv : inv after := by
    refine forOnline_invariant inv ?_ ⟨hcons, hbal, hguard⟩ hreset
    rintro mgr id next ⟨hcons, hbal, hguard⟩ hid hbody
    have hlive : id ∈ mgr.live := mem_append_left _ hid
    split_ifs at hbody with hpredicate
    · obtain ⟨reset, hreset, rfl⟩ := map_eq_some_iff.mp hbody
      obtain ⟨hreset', hold, hnew⟩ := resetRef_balanced hcons hlive
        (hguard id hlive hpredicate) hbal hreset
      have hevolved := Evolves.resetRef hlive hreset hcons
      refine ⟨(Evolves.setDirty reset true hevolved.1).1, hreset', fun other hother hother' => ?_⟩
      by_cases hbefore : other ∈ mgr.live
      · rw [show (reset.setDirty true).refs other = reset.refs other from rfl] at hother' ⊢
        rw [hold other hbefore]
        refine hguard other hbefore ?_
        rwa [(hevolved.2 other hbefore).2] at hother'
      · exact hnew other hother hbefore
    · cases hbody
      exact ⟨hcons, hbal, hguard⟩
  exact hinv.2.1

theorem resetAllThreat_balanced {world : ThreatWorld ℚ} {depth fuel : ℕ}
    (hcons : Consistent mgr) (hbal : Balanced mgr)
    (hreset : resetAllThreat world depth fuel mgr = some after) : Balanced after := by
  rw [resetAllThreat] at hreset
  split_ifs at hreset
  · cases hreset
    exact hbal
  · obtain ⟨looped, hloop, rfl⟩ := map_eq_some_iff.mp hreset
    let inv : ThreatMgr ℚ → Prop := fun mgr => Consistent mgr ∧ Balanced mgr
    have hinv : inv looped := by
      refine forOnline_invariant inv ?_ ⟨hcons, hbal⟩ hloop
      rintro mgr id next ⟨hcons, hbal⟩ hid hbody
      have hlive : id ∈ mgr.live := mem_append_left _ hid
      obtain ⟨faded, hfaded, hreset⟩ := bind_eq_some_iff.mp hbody
      obtain ⟨hfaded', hnone⟩ := resetTempThreat_balanced hcons hlive hbal hfaded
      have hevolved := Evolves.resetTempThreat hlive hfaded hcons
      have hlive' := (hevolved.2 id hlive).1
      exact ⟨(Evolves.resetRef hlive' hreset hevolved.1).1,
        (resetRef_balanced hevolved.1 hlive' hnone hfaded' hreset).1⟩
    exact hinv.2

theorem Balanced.step (hbal : Balanced mgr) (hcons : Consistent mgr) {op : Op ℚ}
    (hguard : TauntGuard mgr op) (hstep : mgr.step op = some after) : Balanced after := by
  cases op with
  | addThreat world depth victim threat =>
    exact (Fair.addThreat _ _ _ _ _ _ hstep hcons).balanced hbal
  | doAddThreat world depth victim threat =>
    exact (Fair.doAddThreat (.addThreat world depth) (.addThreat world depth) hstep
      hcons).balanced hbal
  | setOnlineOfflineState id isOnline =>
    obtain ⟨hid, heq⟩ := ite_none_right_eq_some.mp hstep
    cases heq
    exact (Accounts.setOnlineOfflineState mgr isOnline hid).balanced hbal
  | updateOnlineStatus world id =>
    obtain ⟨hid, heq⟩ := ite_none_right_eq_some.mp hstep
    cases heq
    exact (Accounts.updateOnlineStatus world mgr hid).balanced hbal
  | removeReference id =>
    obtain ⟨hid, heq⟩ := ite_none_right_eq_some.mp hstep
    cases heq
    exact removeReference_balanced hid hbal
  | clearReferences =>
    cases hstep
    intro id hid
    exact absurd hid (by simp [clearReferences, live])
  | getHostileTarget world =>
    cases hstep
    intro id hid
    have hlive : mgr.update.live.Perm mgr.live := mgr.update_perm.append_right _
    exact hbal id (hlive.mem_iff.mp hid)
  | tauntApply world depth taunter =>
    simp only [ThreatMgr.step, tauntApply] at hstep
    split at hstep
    · next hfind =>
        split_ifs at hstep with htaunt
        · exact setTempThreat_balanced hcons
            (mem_append_left _ (getReferenceByTarget_eq_some hfind).1) htaunt.2
            hbal hstep
        · cases hstep
          exact hbal
    · cases hstep
      exact hbal
  | tauntFadeOut world depth taunter =>
    simp only [ThreatMgr.step, tauntFadeOut] at hstep
    split at hstep
    · next hfind =>
        exact (resetTempThreat_balanced hcons
          (mem_append_left _ (getReferenceByTarget_eq_some hfind).1) hbal hstep).1
    · cases hstep
      exact hbal
  | resetThreat world depth who =>
    simp only [ThreatMgr.step, resetThreat] at hstep
    split at hstep
    · next hfind =>
        obtain ⟨hid, hguid⟩ := findReference_eq_some hfind
        exact (resetRef_balanced hcons hid (hguard _ hid hguid) hbal hstep).1
    · cases hstep
      exact hbal
  | resetAggro world depth fuel predicate =>
    exact resetAggro_balanced hcons hbal hguard hstep
  | resetAllThreat world depth fuel =>
    exact resetAllThreat_balanced hcons hbal hstep

def ReachableGuarded : ThreatMgr ℚ → Prop :=
  Reachable (· = init) (guarded TauntGuard (computed step))

theorem ReachableGuarded.balanced (hreach : ReachableGuarded mgr) : Balanced mgr := by
  have hboth : Consistent mgr ∧ Balanced mgr := by
    refine hreach.invariant (fun mgr => Consistent mgr ∧ Balanced mgr) ?_ ?_
    · rintro mgr rfl
      exact ⟨init_consistent, fun id hid => absurd hid (by simp [init, live])⟩
    · rintro before op after ⟨hcons, hbal⟩ ⟨hguard, hstep⟩
      exact ⟨hcons.step hstep, hbal.step hcons hguard hstep⟩
  exact hboth.2

end AzerothCore.ThreatMgr

/-! ## What happens to a threat table -/

namespace AzerothCore.ThreatMgr

open List Option
open Reachability

inductive Event (T : Type*) where
  | record (entry : LedgerEntry T)
  | setTempModifier (id : ℕ) (threat : T)
  | changeThreat (world : ThreatWorld T) (id : ℕ) (modThreat : T)
  | create (world : ThreatWorld T) (victim : ℕ) (threat : T)
  | setOnlineOfflineState (id : ℕ) (isOnline : Bool)
  | updateOnlineStatus (world : ThreatWorld T) (id : ℕ)
  | removeReference (id : ℕ)
  | clearReferences
  | setDirty
  | getHostileTarget (world : ThreatWorld T)

variable {T : Type*} [ThreatValue T]

/-- The end of `_addThreat` for a unit that has no reference yet, up to the event that
tells of its first threat. -/
def createReference (world : ThreatWorld T) (mgr : ThreatMgr T) (victim : ℕ) (threat : T) :
    ThreatMgr T :=
  changeThreat world ((mgr.newReference victim).record (.added victim threat)) mgr.next threat

/-- The table after an event; only references in a container have events. -/
def apply (mgr : ThreatMgr T) : Event T → Option (ThreatMgr T)
  | .record entry => some (mgr.record entry)
  | .setTempModifier id threat => some (mgr.setTempModifier id threat)
  | .changeThreat world id modThreat =>
    if id ∈ mgr.live then some (changeThreat world mgr id modThreat) else none
  | .create world victim threat =>
    if mgr.findReference victim true = none then some (createReference world mgr victim threat)
    else none
  | .setOnlineOfflineState id isOnline =>
    if id ∈ mgr.live then some (mgr.setOnlineOfflineState id isOnline) else none
  | .updateOnlineStatus world id =>
    if id ∈ mgr.live then some (updateOnlineStatus world mgr id) else none
  | .removeReference id => if id ∈ mgr.live then some (mgr.removeReference id) else none
  | .clearReferences => some mgr.clearReferences
  | .setDirty => some (mgr.setDirty true)
  | .getHostileTarget world => some (getHostileTarget world mgr)

/-- What `updateOnlineStatus` finds the status to be. -/
def seesOnline (world : ThreatWorld T) (mgr : ThreatMgr T) (id : ℕ) : Bool :=
  let mgr := relink world mgr id
  let unit := (mgr.refs id).unitGuid
  (mgr.refs id).valid && !world.isGameMaster unit && !world.isInFlight unit &&
    world.isInMap unit && world.inSamePhase unit &&
    (world.isInAccessiblePlace unit || world.isWithinCombatRange unit)

theorem updateOnlineStatus_eq (world : ThreatWorld T) (mgr : ThreatMgr T) (id : ℕ) :
    updateOnlineStatus world mgr id =
      (relink world mgr id).setOnlineOfflineState id (seesOnline world mgr id) := rfl

variable {victim : ℕ} {threat : T}

theorem Evolves.createReference (world : ThreatWorld T) {mgr : ThreatMgr T} (threat : T)
    (hfind : mgr.findReference victim true = none) :
    Evolves mgr (createReference world mgr victim threat) := by
  have hcreated := (Evolves.newReference (findReference_eq_none hfind)).trans
    (.record _ (.added victim threat))
  have hlive : mgr.next ∈ ((mgr.newReference victim).record (.added victim threat)).live :=
    mem_append_left _ (mem_append_right _ (mem_singleton_self _))
  exact hcreated.trans (.changeThreat world _ threat hlive)

theorem Consistent.apply {mgr after : ThreatMgr T} (hcons : Consistent mgr)
    {event : Event T} (happly : mgr.apply event = some after) : Consistent after := by
  cases event with
  | record entry =>
    cases happly
    exact (Evolves.record mgr entry hcons).1
  | setTempModifier id threat =>
    cases happly
    exact (Evolves.setTempModifier mgr id threat hcons).1
  | changeThreat world id modThreat =>
    obtain ⟨hid, ⟨⟩⟩ := ite_none_right_eq_some.mp happly
    exact (Evolves.changeThreat world mgr modThreat hid hcons).1
  | create world victim threat =>
    obtain ⟨hfind, ⟨⟩⟩ := ite_none_right_eq_some.mp happly
    exact (Evolves.createReference world threat hfind hcons).1
  | setOnlineOfflineState id isOnline =>
    obtain ⟨hid, ⟨⟩⟩ := ite_none_right_eq_some.mp happly
    exact (Evolves.setOnlineOfflineState mgr isOnline hid hcons).1
  | updateOnlineStatus world id =>
    obtain ⟨hid, ⟨⟩⟩ := ite_none_right_eq_some.mp happly
    exact (Evolves.updateOnlineStatus world mgr hid hcons).1
  | removeReference id =>
    obtain ⟨hid, ⟨⟩⟩ := ite_none_right_eq_some.mp happly
    exact hcons.removeReference hid
  | clearReferences =>
    cases happly
    exact clearReferences_consistent mgr
  | setDirty =>
    cases happly
    exact (Evolves.setDirty mgr true hcons).1
  | getHostileTarget world =>
    cases happly
    exact hcons.getHostileTarget world

/-! ## Operations are sequences of events -/

def Through (before after : ThreatMgr T) : Prop :=
  Relation.ReflTransGen (fun mgr next => ∃ event, mgr.apply event = some next) before after

def Happens (before after : ThreatMgr T) : Prop := Consistent before → Through before after

variable {world : ThreatWorld T} {source : ThreatMgr T → ℕ → T → Option (ThreatMgr T)}
  {depth id : ℕ} {mgr first second third after : ThreatMgr T}

theorem Happens.refl (mgr : ThreatMgr T) : Happens mgr mgr := fun _ => .refl

theorem Happens.single {event : Event T} (happly : mgr.apply event = some after) :
    Happens mgr after := fun _ => .single ⟨event, happly⟩

theorem Through.consistent (hthrough : Through first second) (hcons : Consistent first) :
    Consistent second := by
  induction hthrough with
  | refl => exact hcons
  | tail _ hevent ih =>
    obtain ⟨event, happly⟩ := hevent
    exact ih.apply happly

theorem Happens.trans (hleft : Happens first second) (hright : Happens second third) :
    Happens first third := by
  intro hcons
  have hfirst := hleft hcons
  exact Relation.ReflTransGen.trans hfirst (hright (hfirst.consistent hcons))

theorem Happens.record (mgr : ThreatMgr T) (entry : LedgerEntry T) :
    Happens mgr (mgr.record entry) := by
  have happly : mgr.apply (.record entry) = some (mgr.record entry) := rfl
  exact .single happly

theorem Happens.setDirty (mgr : ThreatMgr T) : Happens mgr (mgr.setDirty true) := by
  have happly : mgr.apply .setDirty = some (mgr.setDirty true) := rfl
  exact .single happly

theorem Happens.setTempModifier (mgr : ThreatMgr T) (id : ℕ) (threat : T) :
    Happens mgr (mgr.setTempModifier id threat) := by
  have happly : mgr.apply (.setTempModifier id threat) = some (mgr.setTempModifier id threat) :=
    rfl
  exact .single happly

theorem Happens.changeThreat (world : ThreatWorld T) (modThreat : T) (hid : id ∈ mgr.live) :
    Happens mgr (changeThreat world mgr id modThreat) := by
  have happly : mgr.apply (.changeThreat world id modThreat) =
      some (ThreatMgr.changeThreat world mgr id modThreat) := if_pos hid
  exact .single happly

theorem Happens.setOnlineOfflineState (isOnline : Bool) (hid : id ∈ mgr.live) :
    Happens mgr (mgr.setOnlineOfflineState id isOnline) := by
  have happly : mgr.apply (.setOnlineOfflineState id isOnline) =
      some (mgr.setOnlineOfflineState id isOnline) := if_pos hid
  exact .single happly

theorem Happens.refAddThreat
    (hsource : ∀ mgr unit threat after, source mgr unit threat = some after → Happens mgr after)
    {modThreat : T} (hid : id ∈ mgr.live)
    (hadd : refAddThreat world source mgr id modThreat = some after) : Happens mgr after := by
  have hchanged := Happens.changeThreat world modThreat hid
  rcases refAddThreat_cases hadd with rfl | ⟨victimOwner, howner⟩
  · exact hchanged
  · exact hchanged.trans (hsource _ _ _ _ howner)

section

variable (hevolves : ∀ mgr unit threat after, source mgr unit threat = some after → Evolves mgr after) (hsource : ∀ mgr unit threat after, source mgr unit threat = some after → Happens mgr after)
include hevolves hsource

theorem Happens.addThreatDirect
    (hadd : addThreatDirect world source mgr victim threat = some after) : Happens mgr after := by
  rw [ThreatMgr.addThreatDirect] at hadd
  split at hadd
  · next id hfind =>
      exact (Happens.record mgr _).trans
        (.refAddThreat hsource (findReference_eq_some hfind).1 hadd)
  next hfind =>
    obtain ⟨added, hadded, rfl⟩ := map_eq_some_iff.mp hadd
    have happly : mgr.apply (.create world victim threat) =
        some (createReference world mgr victim threat) := if_pos hfind
    have hrest : Happens (createReference world mgr victim threat) added := by
      rcases refAddThreat_cases hadded with rfl | ⟨victimOwner, howner⟩
      · exact .refl _
      · exact hsource _ _ _ _ howner
    have hcreated := (Happens.single happly).trans hrest
    split_ifs
    · intro hcons
      have hlive : mgr.next ∈ ((mgr.newReference victim).record (.added victim threat)).live :=
        mem_append_left _ (mem_append_right _ (mem_singleton_self _))
      have hnew := (Evolves.newReference (findReference_eq_none hfind)).trans
        (.record _ (.added victim threat))
      have hkept := (Evolves.refAddThreat hevolves hlive hadded (hnew hcons).1).2
        mgr.next hlive
      exact hcreated.trans (.setOnlineOfflineState false hkept.1) hcons
    · exact hcreated

theorem Happens.doAddThreat
    (hadd : doAddThreat world source mgr victim threat = some after) : Happens mgr after := by
  rw [ThreatMgr.doAddThreat] at hadd
  split at hadd
  · split_ifs at hadd
    · obtain ⟨redirected, hredirected, hadded⟩ := bind_eq_some_iff.mp hadd
      exact (Happens.addThreatDirect hevolves hsource hredirected).trans
        (.addThreatDirect hevolves hsource hadded)
    · exact .addThreatDirect hevolves hsource hadd
    · exact .addThreatDirect hevolves hsource hadd
  · exact .addThreatDirect hevolves hsource hadd

end

theorem Happens.addThreat (world : ThreatWorld T) (depth : ℕ) (mgr : ThreatMgr T) (victim : ℕ)
    (threat : T) (after : ThreatMgr T)
    (hadd : addThreat world depth mgr victim threat = some after) : Happens mgr after := by
  induction depth generalizing mgr victim threat after with
  | zero => cases hadd
  | succ depth ih =>
    rw [ThreatMgr.addThreat] at hadd
    split_ifs at hadd
    · exact .doAddThreat (.addThreat world depth) ih hadd
    · cases hadd
      exact .refl mgr

theorem Happens.resetRef (hid : id ∈ mgr.live)
    (hreset : resetRef world depth mgr id = some after) : Happens mgr after :=
  (Happens.record mgr _).trans (.refAddThreat (.addThreat world depth) hid hreset)

theorem Happens.setTempThreat (hid : id ∈ mgr.live)
    (hset : setTempThreat world depth mgr id threat = some after) : Happens mgr after := by
  rw [ThreatMgr.setTempThreat, ThreatMgr.addTempThreat] at hset
  have hmarked := Happens.setTempModifier mgr id (threat - (mgr.refs id).threat)
  split_ifs at hset
  · exact hmarked.trans (.refAddThreat (.addThreat world depth) hid hset)
  · cases hset
    exact hmarked

theorem Happens.resetTempThreat (hid : id ∈ mgr.live)
    (hreset : resetTempThreat world depth mgr id = some after) : Happens mgr after := by
  rw [ThreatMgr.resetTempThreat] at hreset
  split_ifs at hreset
  · obtain ⟨added, hadded, rfl⟩ := map_eq_some_iff.mp hreset
    exact (Happens.refAddThreat (.addThreat world depth) hid hadded).trans
      (.setTempModifier added id 0)
  · cases hreset
    exact .refl mgr

theorem Happens.forOnline {body : ThreatMgr T → ℕ → Option (ThreatMgr T)} {fuel index : ℕ}
    (hbody : ∀ mgr id after, id ∈ mgr.live → body mgr id = some after → Happens mgr after)
    (hloop : forOnline body fuel index mgr = some after) : Happens mgr after :=
  forOnline_invariant (Happens mgr)
    (fun _ id next hhappens hid hnext =>
      hhappens.trans (hbody _ id next (mem_append_left _ hid) hnext))
    (.refl mgr) hloop

theorem Happens.resetAllThreat {fuel : ℕ}
    (hreset : resetAllThreat world depth fuel mgr = some after) : Happens mgr after := by
  rw [ThreatMgr.resetAllThreat] at hreset
  split_ifs at hreset
  · cases hreset
    exact .refl mgr
  · obtain ⟨looped, hloop, rfl⟩ := map_eq_some_iff.mp hreset
    have hsorted := Happens.setDirty looped
    refine Happens.trans (.forOnline ?_ hloop) hsorted
    intro mgr id next hid hbody
    obtain ⟨faded, hfaded, hreset⟩ := bind_eq_some_iff.mp hbody
    intro hcons
    have hlive := ((Evolves.resetTempThreat hid hfaded hcons).2 id hid).1
    exact ((Happens.resetTempThreat hid hfaded).trans (.resetRef hlive hreset)) hcons

end AzerothCore.ThreatMgr

/-! ## The rule of 110% and 130% -/

namespace AzerothCore.ThreatMgr

open List Option
open Reachability

variable (world : ThreatWorld ℚ)

def FirstChoice (mgr : ThreatMgr ℚ) (id : ℕ) : Prop :=
  world.canCreatureAttack (mgr.refs id).unitGuid = true ∧
    isSecondChoice world (mgr.refs id).unitGuid = false

def Exceeds (mgr : ThreatMgr ℚ) (victim id : ℕ) : Prop :=
  13 / 10 * (mgr.refs victim).threat < (mgr.refs id).threat ∨
    world.isWithinMeleeRange (mgr.refs id).unitGuid = true ∧
      11 / 10 * (mgr.refs victim).threat < (mgr.refs id).threat

/-- No other first choice on the online list exceeds the victim's threat. -/
def Unchallenged (mgr : ThreatMgr ℚ) (victim : ℕ) : Prop :=
  ∀ id ∈ mgr.threatContainer, id ≠ victim → FirstChoice world mgr id → ¬ Exceeds world mgr victim id

/-- A victim of the first choice that `getHostileTarget` keeps is unchallenged. -/
def ObeysRule (mgr : ThreatMgr ℚ) : Prop :=
  ∀ victim, mgr.currentVictim = some victim → FirstChoice world mgr victim →
    (getHostileTarget world mgr).currentVictim = some victim → Unchallenged world mgr victim

/-- One reference may stand before another: it is no less hated; nothing is asked of the
place of the victim, and the victim may stand before those that do not exceed 110%. -/
def Ahead (mgr : ThreatMgr ℚ) (first second : ℕ) : Prop :=
  mgr.currentVictim = some second ∨ (mgr.refs second).threat ≤ (mgr.refs first).threat ∨
    (mgr.currentVictim = some first ∧ (mgr.refs second).threat ≤ 11 / 10 * (mgr.refs first).threat)

def Settled (mgr : ThreatMgr ℚ) : Prop :=
  mgr.dirty = true ∨ mgr.threatContainer.Pairwise mgr.Ahead

def InOrder (mgr : ThreatMgr ℚ) : Prop :=
  mgr.threatContainer.Pairwise fun first second =>
    (mgr.refs second).threat ≤ (mgr.refs first).threat

variable {world : ThreatWorld ℚ} {mgr after : ThreatMgr ℚ} {id victim : ℕ}

theorem InOrder.settled (horder : mgr.InOrder) : mgr.Settled :=
  .inr (horder.imp fun hle => .inr (.inl hle))

theorem update_inOrder (hdirty : mgr.dirty = true) : mgr.update.InOrder := by
  have hrefs : mgr.update.refs = mgr.refs := rfl
  rw [InOrder, hrefs, update]
  split_ifs with hsort
  · have hsorted := @pairwise_insertionSort ℕ
      (fun first second => ¬ (mgr.refs first).threat < (mgr.refs second).threat) _
      ⟨fun first second => by rw [not_lt, not_lt]; exact le_total _ _⟩
      ⟨fun first second third hfirst hsecond => by
        rw [not_lt] at hfirst hsecond ⊢
        exact hsecond.trans hfirst⟩ mgr.threatContainer
    exact hsorted.imp not_lt.mp
  · have hshort : mgr.threatContainer.length ≤ 1 := by
      by_contra hlong
      exact hsort ⟨hdirty, not_le.mp hlong⟩
    generalize mgr.threatContainer = list at hshort ⊢
    rcases list with _ | ⟨only, _ | ⟨second, rest⟩⟩
    · exact List.Pairwise.nil
    · exact pairwise_singleton _ _
    · exact absurd hshort (by simp)

theorem update_threatContainer (hclean : mgr.dirty = false) :
    mgr.update.threatContainer = mgr.threatContainer := by
  rw [update, hclean]
  simp

theorem Settled.update (hsettled : mgr.Settled) :
    mgr.update.threatContainer.Pairwise mgr.update.Ahead := by
  cases hdirty : mgr.dirty with
  | true => exact (update_inOrder hdirty).imp fun hle => .inr (.inl hle)
  | false =>
    rw [update_threatContainer hdirty]
    rcases hsettled with htrue | horder
    · exact absurd (htrue.symm.trans hdirty) (by decide)
    · exact horder

theorem not_exceeds_of_le (hpos : 0 ≤ (mgr.refs victim).threat)
    (hle : (mgr.refs id).threat ≤ 11 / 10 * (mgr.refs victim).threat) :
    ¬ Exceeds world mgr victim id := by
  rintro (hranged | ⟨-, hmelee⟩)
  · linarith
  · linarith

/-- A pass that ends with the victim has passed nobody who exceeds its threat, and the
order says the same of those it has not come to. -/
theorem selectPass_unchallenged {list : List ℕ} (hcurrent : mgr.currentVictim = some victim)
    (hpos : 0 ≤ (mgr.refs victim).threat) (horder : list.Pairwise mgr.Ahead)
    (hfound : selectPass world mgr (some victim) false list = .found victim) :
    ∀ id ∈ list, id ≠ victim → FirstChoice world mgr id → ¬ Exceeds world mgr victim id := by
  induction list with
  | nil => exact nofun
  | cons first rest ih =>
    rw [pairwise_cons] at horder
    have hstep : selectPass world mgr (some victim) false rest = .found victim →
        (first ≠ victim → FirstChoice world mgr first → ¬ Exceeds world mgr victim first) →
        ∀ id ∈ first :: rest, id ≠ victim → FirstChoice world mgr id →
          ¬ Exceeds world mgr victim id := by
      intro hrest hfirst id hid
      rcases mem_cons.mp hid with rfl | hbehind
      · exact hfirst
      · exact ih horder.2 hrest id hbehind
    have hstop : (first ≠ victim → (mgr.refs first).threat ≤ 11 / 10 * (mgr.refs victim).threat) →
        ∀ id ∈ first :: rest, id ≠ victim → FirstChoice world mgr id →
          ¬ Exceeds world mgr victim id := by
      intro hfirst id hid hne _
      apply not_exceeds_of_le hpos
      rcases mem_cons.mp hid with rfl | hbehind
      · exact hfirst hne
      rcases horder.1 id hbehind with hself | hle | ⟨hself, hle⟩
      · exact absurd (some.inj (hself.symm.trans hcurrent)) hne
      · by_cases heq : first = victim
        · rw [heq] at hle
          linarith
        · exact hle.trans (hfirst heq)
      · rwa [some.inj (hself.symm.trans hcurrent)] at hle
    rw [selectPass] at hfound
    split_ifs at hfound with hskip hlast hattack hself hranged hmelee hnear
    · apply hstep hfound
      rintro - ⟨-, hchoice⟩
      rw [hchoice] at hskip
      exact absurd hskip (by decide)
    · exact hstop fun hne => absurd hself.symm hne
    · rw [Selection.found.injEq] at hfound
      exact absurd hfound.symm hself
    · rw [Selection.found.injEq] at hfound
      exact absurd hfound.symm hself
    · apply hstep hfound
      rintro - - (hover | ⟨hnear', -⟩)
      · exact hranged hover
      · exact hnear hnear'
    · exact hstop fun _ => not_lt.mp hmelee
    · apply hstep hfound
      rintro - ⟨hattack', -⟩
      exact absurd hattack' hattack

theorem selectPass_kept {list : List ℕ} {found : ℕ}
    (hunchallenged : ∀ id ∈ list, id ≠ victim → FirstChoice world mgr id →
      ¬ Exceeds world mgr victim id)
    (hfound : selectPass world mgr (some victim) false list = .found found) : found = victim := by
  induction list with
  | nil => cases hfound
  | cons first rest ih =>
    have hrest := ih fun id hid => hunchallenged id (mem_cons_of_mem _ hid)
    have hfirst := hunchallenged first mem_cons_self
    rw [selectPass] at hfound
    split_ifs at hfound with hskip hlast hattack hself hranged hmelee hnear
    · exact hrest hfound
    · rw [Selection.found.injEq] at hfound
      exact hfound.symm.trans hself.symm
    · have hchoice : FirstChoice world mgr first := ⟨hattack, by simpa using hskip⟩
      exact absurd (.inl hranged) (hfirst (Ne.symm hself) hchoice)
    · have hchoice : FirstChoice world mgr first := ⟨hattack, by simpa using hskip⟩
      exact absurd (.inr ⟨hnear, hmelee⟩) (hfirst (Ne.symm hself) hchoice)
    · exact hrest hfound
    · rw [Selection.found.injEq] at hfound
      exact hfound.symm
    · exact hrest hfound

section

variable (hcurrent : mgr.currentVictim = some victim) (hchoice : FirstChoice world mgr victim)
include hcurrent hchoice

theorem comparedVictim_of_firstChoice : comparedVictim world mgr = some victim := by
  obtain ⟨hattack, hsecond⟩ := hchoice
  rw [isSecondChoice, Bool.or_eq_false_iff] at hsecond
  apply filter_eq_some_iff.mpr
  constructor
  · exact hcurrent
  · dsimp only
    rw [hattack, hsecond.1]
    rfl

theorem exists_selectPass_found (hvictim : victim ∈ mgr.threatContainer) :
    ∃ found, selectPass world mgr (some victim) false mgr.threatContainer = .found found ∧
      selectNextVictim world mgr = some found := by
  have hacc : accepts world mgr (some victim) false victim = true := by
    simp [accepts, stopsSearch, hchoice.1, hchoice.2]
  rcases @selectPass_cases ℚ _ world mgr (some victim) false mgr.threatContainer with
    ⟨-, found, hfound⟩ | ⟨hnone, -⟩
  · refine ⟨found, hfound, ?_⟩
    rw [selectNextVictim, comparedVictim_of_firstChoice hcurrent hchoice, hfound]
  · exact absurd (hacc.symm.trans (hnone victim hvictim)) (by decide)

end

theorem mem_update (mgr : ThreatMgr ℚ) (id : ℕ) :
    id ∈ mgr.update.threatContainer ↔ id ∈ mgr.threatContainer :=
  mgr.update_perm.mem_iff

theorem Settled.obeysRule (hsettled : mgr.Settled) (hcons : Consistent mgr)
    (hpos : ∀ victim, mgr.currentVictim = some victim → FirstChoice world mgr victim →
      0 ≤ (mgr.refs victim).threat) :
    ObeysRule world mgr := by
  intro victim hcurrent hchoice hkept
  have hvictim := (mem_update mgr victim).mpr (hcons.victim victim hcurrent)
  have horder := hsettled.update
  obtain ⟨found, hfound, hselect⟩ :=
    @exists_selectPass_found world mgr.update victim hcurrent hchoice hvictim
  have hsame : found = victim := some.inj (hselect.symm.trans hkept)
  rw [hsame] at hfound
  intro id hid
  exact @selectPass_unchallenged world mgr.update victim _ hcurrent
    (hpos victim hcurrent hchoice)
    horder hfound id ((mem_update mgr id).mpr hid)

/-! ## Events that keep the list settled -/

def JoinsInOrder (mgr : ThreatMgr ℚ) (id : ℕ) : Prop :=
  (∃ victim, mgr.currentVictim = some victim ∧
    11 / 10 * (mgr.refs victim).threat < (mgr.refs id).threat) ∨
  ∀ other ∈ mgr.threatContainer,
    mgr.currentVictim = some other ∨ (mgr.refs id).threat ≤ (mgr.refs other).threat

/-- What an event must not do to a list that is not marked: lower a reference below one
behind it, put a reference with too much threat at its end, or change the victim of a list
that is not sorted. -/
def KeepsOrder (mgr : ThreatMgr ℚ) : Event ℚ → Prop
  | .changeThreat world id modThreat =>
    ((mgr.refs id).online = true → mgr.currentVictim ≠ some id → modThreat < 0 →
      mgr.threatContainer.Pairwise fun first second => first = id →
        mgr.currentVictim = some second ∨
          (mgr.refs second).threat ≤ (mgr.refs id).threat + modThreat) ∧
    ((mgr.refs id).online = false → modThreat ≤ 0 →
      seesOnline world (mgr.raiseThreat id modThreat) id = true →
        JoinsInOrder (mgr.raiseThreat id modThreat) id)
  | .create _ _ threat =>
    threat ≤ 0 → ∀ other ∈ mgr.threatContainer, threat ≤ (mgr.refs other).threat ∨
      (mgr.currentVictim = some other ∧ threat ≤ 11 / 10 * (mgr.refs other).threat)
  | .setOnlineOfflineState id isOnline =>
    (mgr.refs id).online = false → isOnline = true → JoinsInOrder mgr id
  | .updateOnlineStatus world id =>
    (mgr.refs id).online = false → seesOnline world mgr id = true → JoinsInOrder mgr id
  | .getHostileTarget world =>
    mgr.InOrder ∨ ∃ victim, mgr.currentVictim = some victim ∧ FirstChoice world mgr victim ∧
      Unchallenged world mgr victim
  | _ => True

def Orderly (mgr : ThreatMgr ℚ) (event : Event ℚ) : Prop :=
  mgr.dirty = true ∨ KeepsOrder mgr event

theorem Settled.of_sublist (hsettled : mgr.Settled)
    (hdirty : mgr.dirty = true → after.dirty = true)
    (hlist : after.threatContainer.Sublist mgr.threatContainer)
    (hvictim : after.currentVictim = mgr.currentVictim)
    (hthreat : ∀ id ∈ after.threatContainer, (after.refs id).threat = (mgr.refs id).threat) :
    after.Settled := by
  rcases hsettled with hmarked | horder
  · exact .inl (hdirty hmarked)
  right
  apply (horder.sublist hlist).imp_of_mem
  intro first second hfirst hsecond hahead
  rwa [Ahead, hvictim, hthreat first hfirst, hthreat second hsecond]

theorem threat_setRef {ref : HostileReference ℚ} (hthreat : ref.threat = (mgr.refs id).threat)
    (other : ℕ) : ((mgr.setRef id ref).refs other).threat = (mgr.refs other).threat := by
  rw [setRef_refs]
  split_ifs with heq
  · rw [heq, hthreat]
  · rfl

section

variable (hsettled : mgr.Settled)
include hsettled

theorem Settled.setRef {ref : HostileReference ℚ}
    (hthreat : ref.threat = (mgr.refs id).threat) : (mgr.setRef id ref).Settled :=
  hsettled.of_sublist (fun hdirty => hdirty) (List.Sublist.refl _) rfl
    fun other _ => threat_setRef hthreat other

theorem Settled.threatChange (value : ℚ) :
    (mgr.processThreatEvent id (.threatChange value)).Settled := by
  rw [processThreatEvent]
  split_ifs
  · exact .inl rfl
  · exact hsettled

theorem Settled.removeFromList : (mgr.processThreatEvent id .removeFromList).Settled := by
  rw [processThreatEvent, dropVictim]
  by_cases hvictim : mgr.currentVictim = some id
  · left
    split_ifs <;> rfl
  split_ifs
  · exact hsettled.of_sublist (fun hdirty => hdirty) filter_sublist rfl fun _ _ => rfl
  · exact hsettled.of_sublist (fun hdirty => hdirty) (List.Sublist.refl _) rfl fun _ _ => rfl

theorem Settled.setOffline : (mgr.setOnlineOfflineState id false).Settled := by
  rw [ThreatMgr.setOnlineOfflineState]
  split_ifs
  · have hset : (mgr.setRef id { mgr.refs id with online := false }).Settled := hsettled.setRef rfl
    rw [processThreatEvent, setRef_refs_self, if_pos rfl, dropVictim]
    split_ifs
    · exact .inl rfl
    · exact hset.of_sublist (fun hdirty => hdirty) filter_sublist rfl fun _ _ => rfl
  · exact hsettled

end

theorem setOnline_eq (hoffline : (mgr.refs id).online = false) :
    ∃ dirty, mgr.setOnlineOfflineState id true =
        { (mgr.setRef id { mgr.refs id with online := true }).setDirty dirty with
          threatContainer := mgr.threatContainer ++ [id]
          threatOfflineContainer := remove mgr.threatOfflineContainer id } ∧
      (mgr.dirty = true → dirty = true) ∧
      ∀ victim, mgr.currentVictim = some victim → victim ≠ id → dirty = false →
        (mgr.refs id).threat ≤ 11 / 10 * (mgr.refs victim).threat := by
  have hchange : (mgr.refs id).online ≠ true := by
    rw [hoffline]
    exact Bool.false_ne_true
  rw [ThreatMgr.setOnlineOfflineState, if_pos hchange, processThreatEvent, setRef_refs_self,
    if_neg Bool.noConfusion, compareVictim, setRef_currentVictim]
  rcases hvictim : mgr.currentVictim with _ | victim
  · exact ⟨mgr.dirty, rfl, fun hdirty => hdirty, by rintro _ ⟨⟩⟩
  dsimp only
  split_ifs with hover
  · exact ⟨true, rfl, fun _ => rfl, by rintro _ _ _ ⟨⟩⟩
  · refine ⟨mgr.dirty, rfl, fun hdirty => hdirty, fun other hother hne _ => ?_⟩
    rw [← some.inj hother] at hne ⊢
    rw [setRef_refs_self, setRef_refs_of_ne _ _ hne] at hover
    exact not_lt.mp hover

section

variable (hsettled : mgr.Settled) (hcons : Consistent mgr) (hid : id ∈ mgr.live)
include hsettled hcons hid

theorem Settled.setOnline
    (hjoins : mgr.dirty = false → (mgr.refs id).online = false → JoinsInOrder mgr id) :
    (mgr.setOnlineOfflineState id true).Settled := by
  cases honline : (mgr.refs id).online with
  | true =>
    rw [ThreatMgr.setOnlineOfflineState, if_neg fun hne => hne honline]
    exact hsettled
  | false =>
    obtain ⟨dirty, heq, hkept, hbelow⟩ := setOnline_eq honline
    have hne : ∀ other ∈ mgr.threatContainer, other ≠ id := by
      intro other hother hsame
      rw [hsame] at hother
      exact hcons.disjoint hother (hcons.mem_threatOfflineContainer hid honline)
    have hthreat := @threat_setRef mgr id { mgr.refs id with online := true } rfl
    rw [heq]
    cases hdirty : dirty with
    | true => exact .inl rfl
    | false =>
      have hclean : mgr.dirty = false := by
        by_contra hmarked
        exact absurd (hkept (by simpa using hmarked)) (by simp [hdirty])
      rcases hsettled with hmarked | horder
      · exact absurd (hmarked.symm.trans hclean) (by decide)
      right
      apply pairwise_append.mpr
      refine ⟨?_, pairwise_singleton _ _, fun first hfirst second hsecond => ?_⟩
      · apply horder.imp
        intro first second hahead
        rw [Ahead]
        dsimp only [ThreatMgr.setDirty]
        rwa [hthreat, hthreat]
      · rw [mem_singleton.mp hsecond, Ahead]
        dsimp only [ThreatMgr.setDirty]
        rw [hthreat, hthreat]
        rcases hjoins hclean honline with ⟨victim, hvictim, hover⟩ | hlow
        · have hvictimNe := hne victim (hcons.victim victim hvictim)
          exact absurd hover (not_lt.mpr (hbelow victim hvictim hvictimNe hdirty))
        rcases hlow first hfirst with hvictim | hle
        · exact .inr (.inr ⟨hvictim, hbelow first hvictim (hne first hfirst) hdirty⟩)
        · exact .inr (.inl hle)

theorem Settled.setOnlineOfflineState {isOnline : Bool}
    (hjoins : mgr.dirty = false → (mgr.refs id).online = false → isOnline = true →
      JoinsInOrder mgr id) :
    (mgr.setOnlineOfflineState id isOnline).Settled := by
  cases isOnline with
  | true => exact hsettled.setOnline hcons hid fun hclean hoffline => hjoins hclean hoffline rfl
  | false => exact hsettled.setOffline

theorem Settled.updateOnlineStatus (hjoins : mgr.dirty = false → (mgr.refs id).online = false →
      seesOnline world mgr id = true → JoinsInOrder mgr id) :
    (updateOnlineStatus world mgr id).Settled := by
  rw [updateOnlineStatus_eq]
  have hrelink : relink world mgr id = mgr ∨
      relink world mgr id = mgr.setRef id { mgr.refs id with valid := true } := by
    rw [relink]
    split_ifs
    · exact .inr rfl
    · exact .inl rfl
  rcases hrelink with hsame | hlinked
  · rw [hsame]
    exact hsettled.setOnlineOfflineState hcons hid hjoins
  rw [hlinked]
  have hthreat := @threat_setRef mgr id { mgr.refs id with valid := true } rfl
  have hset : (mgr.setRef id { mgr.refs id with valid := true }).Settled := hsettled.setRef rfl
  have hevolves : Evolves mgr (mgr.setRef id { mgr.refs id with valid := true }) :=
    .setRef mgr id rfl rfl
  apply hset.setOnlineOfflineState (hevolves hcons).1 hid
  intro hclean hoffline honline
  rw [setRef_refs_self] at hoffline
  have hjoin := hjoins hclean hoffline honline
  rw [JoinsInOrder]
  simp only [hthreat]
  exact hjoin

end

variable {modThreat : ℚ}

theorem Settled.raiseThreat (hsettled : mgr.Settled)
    (hvictim : mgr.currentVictim = some id → 0 ≤ modThreat)
    (hother : mgr.currentVictim ≠ some id → modThreat ≤ 0 ∧
      mgr.threatContainer.Pairwise fun first second => first = id →
        mgr.currentVictim = some second ∨
          (mgr.refs second).threat ≤ (mgr.refs id).threat + modThreat) :
    (mgr.raiseThreat id modThreat).Settled := by
  rcases hsettled with hmarked | horder
  · exact .inl hmarked
  right
  have hsame : (mgr.raiseThreat id modThreat).currentVictim = mgr.currentVictim := rfl
  by_cases hself : mgr.currentVictim = some id
  · have hrise := hvictim hself
    apply horder.imp
    intro first second hahead
    rw [Ahead, hsame, raiseThreat_refs, raiseThreat_refs]
    by_cases hsecond : second = id
    · exact .inl (hsecond ▸ hself)
    split_ifs with hfirst
    · rw [Ahead, hfirst] at hahead
      rcases hahead with hvictim | hle | ⟨hvictim, hle⟩
      · exact .inl hvictim
      · exact .inr (.inl (by linarith))
      · exact .inr (.inr ⟨hfirst ▸ hvictim, by linarith⟩)
    · exact hahead
  · obtain ⟨hfall, hplace⟩ := hother hself
    apply (horder.and hplace).imp
    rintro first second ⟨hahead, hkept⟩
    rw [Ahead, hsame, raiseThreat_refs, raiseThreat_refs]
    split_ifs with hsecond hfirst hfirst
    · exact .inr (.inl (le_refl _))
    · rw [Ahead, hsecond] at hahead
      rcases hahead with hvictim | hle | ⟨hvictim, hle⟩
      · exact absurd hvictim hself
      · exact .inr (.inl (by linarith))
      · exact .inr (.inr ⟨hvictim, by linarith⟩)
    · rcases hkept hfirst with hvictim | hle
      · exact .inl hvictim
      · exact .inr (.inl hle)
    · exact hahead

theorem Settled.raiseOffline (hsettled : mgr.Settled) (hid : id ∉ mgr.threatContainer)
    (modThreat : ℚ) : (mgr.raiseThreat id modThreat).Settled := by
  refine hsettled.of_sublist (fun hdirty => hdirty) (List.Sublist.refl _) rfl ?_
  intro other hother
  rw [raiseThreat_refs, if_neg]
  rintro rfl
  exact hid hother

theorem Settled.raiseZero (hsettled : mgr.Settled) : (mgr.raiseThreat id 0).Settled := by
  refine hsettled.of_sublist (fun hdirty => hdirty) (List.Sublist.refl _) rfl fun other _ => ?_
  rw [raiseThreat_refs]
  split_ifs with heq
  · rw [heq]
    exact add_zero _
  · rfl

theorem dirty_of_threatChange {value : ℚ}
    (hchange : (mgr.currentVictim = some id ∧ value < 0) ∨
      (mgr.currentVictim ≠ some id ∧ 0 < value)) :
    (mgr.processThreatEvent id (.threatChange value)).Settled := by
  rw [processThreatEvent, if_pos hchange]
  exact .inl rfl

theorem Settled.announceOnline (hsettled : mgr.Settled) (honline : (mgr.refs id).online = true)
    (modThreat : ℚ) : (announceChange world mgr id modThreat).Settled := by
  rw [announceChange, if_pos honline]
  split_ifs
  · exact hsettled.threatChange modThreat
  · exact hsettled

theorem settled_announceOnline (honline : (mgr.refs id).online = true)
    (hchange : (mgr.currentVictim = some id ∧ modThreat < 0) ∨
      (mgr.currentVictim ≠ some id ∧ 0 < modThreat)) :
    (announceChange world mgr id modThreat).Settled := by
  have hne : modThreat ≠ 0 := by
    rcases hchange with ⟨-, hlt⟩ | ⟨-, hlt⟩
    · exact ne_of_lt hlt
    · exact ne_of_gt hlt
  rw [announceChange, if_pos honline, if_pos hne]
  exact dirty_of_threatChange hchange

theorem currentVictim_updateOnlineStatus (hoffline : (mgr.refs id).online = false) :
    (updateOnlineStatus world mgr id).currentVictim = mgr.currentVictim := by
  have hrelink : ((relink world mgr id).refs id).online = false ∧
      (relink world mgr id).currentVictim = mgr.currentVictim := by
    rw [relink]
    split_ifs
    · rw [setRef_refs_self]
      exact ⟨hoffline, rfl⟩
    · exact ⟨hoffline, rfl⟩
  rw [updateOnlineStatus_eq, ← hrelink.2]
  rcases seesOnline world mgr id with _ | _
  · rw [ThreatMgr.setOnlineOfflineState, if_neg fun hne => hne hrelink.1]
  obtain ⟨dirty, heq, -⟩ := setOnline_eq hrelink.1
  rw [heq]
  rfl

section

variable (hsettled : mgr.Settled) (hcons : Consistent mgr)
include hsettled hcons

theorem Settled.announceOffline (hid : id ∈ mgr.live) (hoffline : (mgr.refs id).online = false)
    (hjoins : mgr.dirty = false → modThreat ≤ 0 → seesOnline world mgr id = true →
      JoinsInOrder mgr id) : (announceChange world mgr id modThreat).Settled := by
  have hvictim : mgr.currentVictim ≠ some id := by
    intro hself
    have honline := hcons.online id (hcons.victim id hself)
    exact Bool.false_ne_true (hoffline.symm.trans honline)
  have hnot : ¬ (mgr.refs id).online = true := by
    rw [hoffline]
    exact Bool.false_ne_true
  rw [announceChange, if_neg hnot]
  by_cases hrise : 0 < modThreat
  · rw [if_pos (ne_of_gt hrise)]
    apply dirty_of_threatChange
    rw [currentVictim_updateOnlineStatus hoffline]
    exact .inr ⟨hvictim, hrise⟩
  · have hupdated := hsettled.updateOnlineStatus hcons hid
      fun hclean _ => hjoins hclean (not_lt.mp hrise)
    split_ifs
    · exact hupdated.threatChange modThreat
    · exact hupdated

theorem Settled.changeThreat
    (hid : id ∈ mgr.live) (horderly : Orderly mgr (.changeThreat world id modThreat)) :
    (changeThreat world mgr id modThreat).Settled := by
  have hraised := (Evolves.raiseThreat mgr id modThreat hcons).1
  have hstatus : ((mgr.raiseThreat id modThreat).refs id).online = (mgr.refs id).online := by
    rw [raiseThreat_refs, if_pos rfl]
  have hlive : id ∈ (mgr.raiseThreat id modThreat).live := hid
  cases honline : (mgr.refs id).online with
  | true =>
    rw [honline] at hstatus
    by_cases hchange : (mgr.currentVictim = some id ∧ modThreat < 0) ∨
        (mgr.currentVictim ≠ some id ∧ 0 < modThreat)
    · exact settled_announceOnline hstatus hchange
    rw [not_or] at hchange
    apply Settled.announceOnline _ hstatus
    rcases horderly with hmarked | ⟨hplace, -⟩
    · exact .inl hmarked
    by_cases hzero : modThreat = 0
    · rw [hzero]
      exact hsettled.raiseZero
    apply hsettled.raiseThreat
    · exact fun hself => not_lt.mp fun hlt => hchange.1 ⟨hself, hlt⟩
    · intro hother
      have hfall : modThreat ≤ 0 := not_lt.mp fun hlt => hchange.2 ⟨hother, hlt⟩
      exact ⟨hfall, hplace honline hother (lt_of_le_of_ne hfall hzero)⟩
  | false =>
    rw [honline] at hstatus
    have hnot : id ∉ mgr.threatContainer := by
      intro hon
      exact Bool.false_ne_true (honline.symm.trans (hcons.online id hon))
    apply (hsettled.raiseOffline hnot modThreat).announceOffline hraised hlive hstatus
    intro hclean hfall hsees
    rcases horderly with hmarked | ⟨-, hjoins⟩
    · exact absurd (hmarked.symm.trans hclean) (by decide)
    · exact hjoins honline hfall hsees

theorem Settled.createReference
    {threat : ℚ} (horderly : Orderly mgr (.create world victim threat)) :
    (createReference world mgr victim threat).Settled := by
  have hne : ∀ other ∈ mgr.threatContainer, other ≠ mgr.next := fun other hother =>
    Nat.ne_of_lt (hcons.fresh other (mem_append_left _ hother))
  have hvictim : mgr.currentVictim ≠ some mgr.next := fun hself =>
    hne mgr.next (hcons.victim mgr.next hself) rfl
  let created := ((mgr.newReference victim).record (.added victim threat)).raiseThreat mgr.next
    threat
  have hcurrent : created.currentVictim = mgr.currentVictim := rfl
  have hnew : created.refs mgr.next = ⟨victim, 0 + threat, 0, true, true⟩ := by
    have href : ((mgr.newReference victim).record (.added victim threat)).refs mgr.next =
        ⟨victim, 0, 0, true, true⟩ := setRef_refs_self mgr mgr.next _
    rw [raiseThreat_refs, if_pos rfl, href]
  have hold : ∀ other, other ≠ mgr.next → created.refs other = mgr.refs other := by
    intro other hother
    rw [raiseThreat_refs, if_neg hother]
    exact setRef_refs_of_ne mgr _ hother
  have honline : (created.refs mgr.next).online = true := by rw [hnew]
  by_cases hrise : 0 < threat
  · exact settled_announceOnline honline (.inr ⟨hcurrent ▸ hvictim, hrise⟩)
  apply Settled.announceOnline _ honline
  rcases horderly with hmarked | hlow
  · exact .inl hmarked
  rcases hsettled with hmarked | horder
  · exact .inl hmarked
  right
  apply pairwise_append.mpr
  refine ⟨?_, pairwise_singleton _ _, fun first hfirst second hsecond => ?_⟩
  · apply horder.imp_of_mem
    intro first second hfirst hsecond hahead
    rwa [Ahead, hcurrent, hold first (hne first hfirst), hold second (hne second hsecond)]
  · rw [mem_singleton.mp hsecond, Ahead, hcurrent, hnew, hold first (hne first hfirst)]
    rw [zero_add]
    exact .inr (hlow (not_lt.mp hrise) first hfirst)

end

theorem Settled.removeReference (hsettled : mgr.Settled) : (mgr.removeReference id).Settled := by
  have hset := @Settled.setRef _ id hsettled.setOffline
    { (mgr.setOnlineOfflineState id false).refs id with valid := false } rfl
  exact hset.removeFromList

theorem getHostileTarget_kept (hcons : Consistent mgr)
    (hcurrent : mgr.currentVictim = some victim) (hchoice : FirstChoice world mgr victim)
    (hunchallenged : Unchallenged world mgr victim) :
    (getHostileTarget world mgr).currentVictim = some victim := by
  have hvictim := (mem_update mgr victim).mpr (hcons.victim victim hcurrent)
  obtain ⟨found, hfound, hselect⟩ :=
    @exists_selectPass_found world mgr.update victim hcurrent hchoice hvictim
  have hsame : found = victim := by
    apply @selectPass_kept world mgr.update victim _ found _ hfound
    intro id hid
    exact hunchallenged id ((mem_update mgr id).mp hid)
  rw [getHostileTarget, setCurrentVictim]
  rw [hselect, hsame]

theorem Settled.getHostileTarget (hsettled : mgr.Settled) (hcons : Consistent mgr)
    (horderly : Orderly mgr (.getHostileTarget world)) :
    (getHostileTarget world mgr).Settled := by
  cases hdirty : mgr.dirty with
  | true =>
    have horder : mgr.update.InOrder := update_inOrder hdirty
    have hchosen : (ThreatMgr.getHostileTarget world mgr).InOrder := horder
    exact hchosen.settled
  | false =>
    have hlist : (ThreatMgr.getHostileTarget world mgr).threatContainer = mgr.threatContainer :=
      update_threatContainer hdirty
    have hrefs : (ThreatMgr.getHostileTarget world mgr).refs = mgr.refs := rfl
    rcases horderly with hmarked | horder | ⟨victim, hcurrent, hchoice, hunchallenged⟩
    · exact absurd (hmarked.symm.trans hdirty) (by decide)
    · apply InOrder.settled
      rwa [InOrder, hlist, hrefs]
    have hkept := getHostileTarget_kept hcons hcurrent hchoice hunchallenged
    apply hsettled.of_sublist
    · intro hmarked
      exact absurd (hmarked.symm.trans hdirty) (by decide)
    · rw [hlist]
    · rw [hkept, hcurrent]
    · exact fun _ _ => rfl

theorem Settled.apply (hsettled : mgr.Settled) (hcons : Consistent mgr) {event : Event ℚ}
    (horderly : Orderly mgr event) (happly : mgr.apply event = some after) : after.Settled := by
  cases event with
  | record entry =>
    cases happly
    exact hsettled.of_sublist (fun hdirty => hdirty) (List.Sublist.refl _) rfl fun _ _ => rfl
  | setTempModifier id threat =>
    cases happly
    exact hsettled.setRef rfl
  | changeThreat world id modThreat =>
    obtain ⟨hid, ⟨⟩⟩ := ite_none_right_eq_some.mp happly
    exact hsettled.changeThreat hcons hid horderly
  | create world victim threat =>
    obtain ⟨-, ⟨⟩⟩ := ite_none_right_eq_some.mp happly
    exact hsettled.createReference hcons horderly
  | setOnlineOfflineState id isOnline =>
    obtain ⟨hid, ⟨⟩⟩ := ite_none_right_eq_some.mp happly
    apply hsettled.setOnlineOfflineState hcons hid
    intro hclean hoffline honline
    rcases horderly with hmarked | hjoins
    · exact absurd (hmarked.symm.trans hclean) (by decide)
    · exact hjoins hoffline honline
  | updateOnlineStatus world id =>
    obtain ⟨hid, ⟨⟩⟩ := ite_none_right_eq_some.mp happly
    apply hsettled.updateOnlineStatus hcons hid
    intro hclean hoffline hsees
    rcases horderly with hmarked | hjoins
    · exact absurd (hmarked.symm.trans hclean) (by decide)
    · exact hjoins hoffline hsees
  | removeReference id =>
    obtain ⟨-, ⟨⟩⟩ := ite_none_right_eq_some.mp happly
    exact hsettled.removeReference
  | clearReferences =>
    cases happly
    exact .inr List.Pairwise.nil
  | setDirty =>
    cases happly
    exact .inl rfl
  | getHostileTarget world =>
    cases happly
    exact hsettled.getHostileTarget hcons horderly

def ReachableOrderly : ThreatMgr ℚ → Prop :=
  Reachable (· = init) (guarded Orderly (computed apply))

theorem ReachableOrderly.settled (hreach : ReachableOrderly mgr) :
    Consistent mgr ∧ mgr.Settled := by
  refine hreach.invariant (fun mgr => Consistent mgr ∧ mgr.Settled) ?_ ?_
  · rintro mgr rfl
    exact ⟨init_consistent, .inr List.Pairwise.nil⟩
  · rintro before event after ⟨hcons, hsettled⟩ ⟨horderly, happly⟩
    exact ⟨hcons.apply happly, hsettled.apply hcons horderly happly⟩

/-- In every table that orderly events lead to, `getHostileTarget` obeys the rule for a
victim whose threat is not negative. -/
theorem orderly_obeysRule (mgr : ThreatMgr ℚ) (hreach : ReachableOrderly mgr)
    (world : ThreatWorld ℚ)
    (hpositive : ∀ victim, mgr.currentVictim = some victim → FirstChoice world mgr victim →
      0 ≤ (mgr.refs victim).threat) :
    ObeysRule world mgr := by
  obtain ⟨hconsistent, hsettled⟩ := hreach.settled
  exact hsettled.obeysRule hconsistent hpositive

def farWorld : ThreatWorld ℚ := { calmWorld with isWithinMeleeRange := fun _ => false }

def overtaken : ThreatMgr ℚ :=
  createReference farWorld
    (getHostileTarget farWorld (createReference farWorld init 1 100)) 2 120

theorem ReachableOrderly.create (hreach : ReachableOrderly mgr) (world : ThreatWorld ℚ)
    {threat : ℚ} (hfind : mgr.findReference victim true = none) (hrise : 0 < threat) :
    ReachableOrderly (createReference world mgr victim threat) := by
  have horderly : Orderly mgr (.create world victim threat) :=
    .inr fun hle => absurd hle (not_le.mpr hrise)
  have happly : mgr.apply (.create world victim threat) =
      some (createReference world mgr victim threat) := if_pos hfind
  exact .step hreach ⟨horderly, happly⟩

theorem ReachableOrderly.getHostileTarget (hreach : ReachableOrderly mgr)
    (world : ThreatWorld ℚ) (hdirty : mgr.dirty = true) :
    ReachableOrderly (getHostileTarget world mgr) := by
  have horderly : Orderly mgr (.getHostileTarget world) := .inl hdirty
  have happly : mgr.apply (.getHostileTarget world) =
      some (ThreatMgr.getHostileTarget world mgr) := rfl
  exact .step hreach ⟨horderly, happly⟩

theorem overtaken_obeysRule : ObeysRule farWorld overtaken := by
  have hstart : ReachableOrderly init := .start rfl
  have hfirst := hstart.create farWorld (by decide : init.findReference 1 true = none)
    (by norm_num : (0 : ℚ) < 100)
  have hsecond := hfirst.getHostileTarget farWorld (by decide +kernel)
  have hthird : ReachableOrderly overtaken :=
    hsecond.create farWorld (by decide +kernel) (by norm_num)
  refine orderly_obeysRule overtaken hthird farWorld fun victim hcurrent _ => ?_
  have hvictim : overtaken.currentVictim = some 0 := by decide +kernel
  rw [← some.inj (hvictim.symm.trans hcurrent)]
  decide +kernel

def loweredOps : List (Op ℚ) :=
  [.addThreat farWorld 1 1 100, .getHostileTarget farWorld, .addThreat farWorld 1 2 125,
    .addThreat farWorld 1 3 120, .getHostileTarget farWorld, .doAddThreat farWorld 1 2 (-115)]

/-- Unit 3 comes into melee range with 120% of the victim's threat, and the victim is kept. -/
theorem lowered_breaksRule : ∃ mgr, List.foldlM step init loweredOps = some mgr ∧ ReachableMgr mgr ∧
      ¬ ObeysRule calmWorld mgr := by
  have hend : (List.foldlM step init loweredOps).map
      (fun mgr => (mgr.currentVictim, (getHostileTarget calmWorld mgr).currentVictim,
        mgr.threatContainer, (mgr.refs 0).threat, (mgr.refs 2).threat)) =
        some (some 0, some 0, [1, 2, 0], 100, 120) := by
    decide +kernel
  obtain ⟨mgr, hrun, hvalues⟩ := map_eq_some_iff.mp hend
  obtain ⟨hcurrent, hkept, hlist, hvictim, hother⟩ : mgr.currentVictim = some 0 ∧
      (getHostileTarget calmWorld mgr).currentVictim = some 0 ∧ mgr.threatContainer = [1, 2, 0] ∧
      (mgr.refs 0).threat = 100 ∧ (mgr.refs 2).threat = 120 := by simpa using hvalues
  refine ⟨mgr, hrun, Reachable.foldlM (.start rfl) hrun, fun hrule => ?_⟩
  apply hrule 0 hcurrent ⟨rfl, rfl⟩ hkept 2 (by simp [hlist]) (by decide) ⟨rfl, rfl⟩
  right
  constructor
  · rfl
  · rw [hvictim, hother]
    norm_num

end AzerothCore.ThreatMgr
