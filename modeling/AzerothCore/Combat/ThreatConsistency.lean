import AzerothCore.Collections.Reachability
import AzerothCore.Combat.ThreatMgr

/-!
# The containers of a threat table stay consistent

A reference moves between the containers by status events that are fired in the
middle of other operations, and adding threat calls itself for the owners of
pets. Each function is shown once to keep the invariant and the references it
finds; the recursion and the loops follow by induction.
-/

namespace AzerothCore.ThreatMgr

open List Option Bool Nat
open Reachability

variable {T : Type*}

structure Consistent (mgr : ThreatMgr T) : Prop where
  nodup : mgr.live.Nodup
  online : ∀ id ∈ mgr.threatContainer, (mgr.refs id).online = true
  offline : ∀ id ∈ mgr.threatOfflineContainer, (mgr.refs id).online = false
  unique : ∀ first ∈ mgr.live, ∀ second ∈ mgr.live,
    (mgr.refs first).unitGuid = (mgr.refs second).unitGuid → first = second
  fresh : ∀ id ∈ mgr.live, id < mgr.next
  victim : ∀ id, mgr.currentVictim = some id → id ∈ mgr.threatContainer

/-- What every step inside an operation does: the table stays consistent and its
references stay where the step can find them. -/
def Evolves (before after : ThreatMgr T) : Prop :=
  Consistent before → Consistent after ∧
    ∀ id ∈ before.live, id ∈ after.live ∧ (after.refs id).unitGuid = (before.refs id).unitGuid

namespace Evolves

variable {first second third : ThreatMgr T}

theorem refl (mgr : ThreatMgr T) : Evolves mgr mgr := fun hcons =>
  ⟨hcons, fun _ hid => ⟨hid, rfl⟩⟩

theorem trans (hleft : Evolves first second) (hright : Evolves second third) :
    Evolves first third := by
  intro hcons
  obtain ⟨hmiddle, hkept⟩ := hleft hcons
  obtain ⟨hlast, hkept'⟩ := hright hmiddle
  refine ⟨hlast, fun id hid => ?_⟩
  obtain ⟨hlive, hguid⟩ := hkept id hid
  obtain ⟨hlive', hguid'⟩ := hkept' id hlive
  exact ⟨hlive', hguid'.trans hguid⟩

end Evolves

@[simp]
theorem mem_live {mgr : ThreatMgr T} {id : ℕ} :
    id ∈ mgr.live ↔ id ∈ mgr.threatContainer ∨ id ∈ mgr.threatOfflineContainer :=
  mem_append

@[simp]
theorem mem_remove {container : List ℕ} {id other : ℕ} :
    other ∈ remove container id ↔ other ∈ container ∧ other ≠ id := by
  simp [remove]

@[simp]
theorem setRef_refs_self (mgr : ThreatMgr T) (id : ℕ) (ref : HostileReference T) :
    (mgr.setRef id ref).refs id = ref := by
  simp [setRef]

@[simp]
theorem setRef_next (mgr : ThreatMgr T) (id : ℕ) (ref : HostileReference T) :
    (mgr.setRef id ref).next = mgr.next := rfl

@[simp]
theorem setRef_currentVictim (mgr : ThreatMgr T) (id : ℕ) (ref : HostileReference T) :
    (mgr.setRef id ref).currentVictim = mgr.currentVictim := rfl

@[simp]
theorem setRef_threatContainer (mgr : ThreatMgr T) (id : ℕ) (ref : HostileReference T) :
    (mgr.setRef id ref).threatContainer = mgr.threatContainer := rfl

@[simp]
theorem setRef_threatOfflineContainer (mgr : ThreatMgr T) (id : ℕ) (ref : HostileReference T) :
    (mgr.setRef id ref).threatOfflineContainer = mgr.threatOfflineContainer := rfl

@[simp]
theorem setDirty_threatContainer (mgr : ThreatMgr T) (dirty : Bool) :
    (mgr.setDirty dirty).threatContainer = mgr.threatContainer := rfl

@[simp]
theorem setDirty_threatOfflineContainer (mgr : ThreatMgr T) (dirty : Bool) :
    (mgr.setDirty dirty).threatOfflineContainer = mgr.threatOfflineContainer := rfl

@[simp]
theorem setDirty_currentVictim (mgr : ThreatMgr T) (dirty : Bool) :
    (mgr.setDirty dirty).currentVictim = mgr.currentVictim := rfl

theorem setRef_refs (mgr : ThreatMgr T) (id other : ℕ) (ref : HostileReference T) :
    (mgr.setRef id ref).refs other = if other = id then ref else mgr.refs other :=
  Function.update_apply _ _ _ _

theorem setRef_refs_of_ne (mgr : ThreatMgr T) {id other : ℕ} (ref : HostileReference T)
    (hne : other ≠ id) : (mgr.setRef id ref).refs other = mgr.refs other := by
  simp [setRef, hne]

theorem init_consistent [ThreatValue T] : Consistent (init : ThreatMgr T) := by
  constructor <;> simp [init, live]

namespace Consistent

variable {mgr : ThreatMgr T}

theorem mem_threatContainer (hcons : Consistent mgr) {id : ℕ} (hid : id ∈ mgr.live)
    (honline : (mgr.refs id).online = true) : id ∈ mgr.threatContainer := by
  rcases mem_live.mp hid with hon | hoff
  · exact hon
  · rw [hcons.offline id hoff] at honline
    exact absurd honline (by decide)

theorem mem_threatOfflineContainer (hcons : Consistent mgr) {id : ℕ}
    (hid : id ∈ mgr.live) (honline : (mgr.refs id).online = false) :
    id ∈ mgr.threatOfflineContainer := by
  rcases mem_live.mp hid with hon | hoff
  · rw [hcons.online id hon] at honline
    exact absurd honline (by decide)
  · exact hoff

theorem disjoint (hcons : Consistent mgr) {id : ℕ} (hon : id ∈ mgr.threatContainer) :
    id ∉ mgr.threatOfflineContainer := by
  intro hoff
  have honline := hcons.online id hon
  rw [hcons.offline id hoff] at honline
  exact absurd honline (by decide)

end Consistent

theorem Evolves.of_same {before after : ThreatMgr T}
    (hon : after.threatContainer = before.threatContainer)
    (hoff : after.threatOfflineContainer = before.threatOfflineContainer)
    (hnext : after.next = before.next)
    (hvictim : ∀ id, after.currentVictim = some id → before.currentVictim = some id)
    (hguid : ∀ id, (after.refs id).unitGuid = (before.refs id).unitGuid)
    (honline : ∀ id, (after.refs id).online = (before.refs id).online) :
    Evolves before after := by
  intro hcons
  have hlive : after.live = before.live := by rw [live, hon, hoff, live]
  refine ⟨⟨?_, ?_, ?_, ?_, ?_, ?_⟩, ?_⟩
  · rw [hlive]
    exact hcons.nodup
  · intro id hid
    rw [honline]
    exact hcons.online id (hon ▸ hid)
  · intro id hid
    rw [honline]
    exact hcons.offline id (hoff ▸ hid)
  · intro first hfirst second hsecond heq
    rw [hguid, hguid] at heq
    exact hcons.unique first (hlive ▸ hfirst) second (hlive ▸ hsecond) heq
  · intro id hid
    rw [hnext]
    exact hcons.fresh id (hlive ▸ hid)
  · intro id hid
    rw [hon]
    exact hcons.victim id (hvictim id hid)
  · intro id hid
    exact ⟨hlive ▸ hid, hguid id⟩

theorem Evolves.setRef (mgr : ThreatMgr T) (id : ℕ) {ref : HostileReference T}
    (hguid : ref.unitGuid = (mgr.refs id).unitGuid)
    (honline : ref.online = (mgr.refs id).online) : Evolves mgr (mgr.setRef id ref) := by
  refine .of_same rfl rfl rfl (fun _ hvictim => hvictim) (fun other => ?_) (fun other => ?_) <;>
    by_cases heq : other = id
  · rw [heq, setRef_refs_self, hguid]
  · rw [setRef_refs_of_ne _ _ heq]
  · rw [heq, setRef_refs_self, honline]
  · rw [setRef_refs_of_ne _ _ heq]

theorem Evolves.setDirty (mgr : ThreatMgr T) (dirty : Bool) : Evolves mgr (mgr.setDirty dirty) :=
  .of_same rfl rfl rfl (fun _ hvictim => hvictim) (fun _ => rfl) (fun _ => rfl)

theorem Evolves.record (mgr : ThreatMgr T) (entry : LedgerEntry T) :
    Evolves mgr (mgr.record entry) :=
  .of_same rfl rfl rfl (fun _ hvictim => hvictim) (fun _ => rfl) (fun _ => rfl)

theorem getReferenceByTarget_eq_some {mgr : ThreatMgr T} {container : List ℕ} {unit id : ℕ}
    (hfind : mgr.getReferenceByTarget container unit = some id) :
    id ∈ container ∧ (mgr.refs id).unitGuid = unit :=
  ⟨mem_of_find?_eq_some hfind, by simpa using List.find?_some hfind⟩

theorem findReference_eq_some {mgr : ThreatMgr T} {unit id : ℕ} {includeOffline : Bool}
    (hfind : mgr.findReference unit includeOffline = some id) :
    id ∈ mgr.live ∧ (mgr.refs id).unitGuid = unit := by
  rw [findReference] at hfind
  split at hfind
  · next other hother =>
      obtain ⟨hmem, hguid⟩ := getReferenceByTarget_eq_some (hfind ▸ hother)
      exact ⟨mem_append_left _ hmem, hguid⟩
  · split_ifs at hfind
    obtain ⟨hmem, hguid⟩ := getReferenceByTarget_eq_some hfind
    exact ⟨mem_append_right _ hmem, hguid⟩

theorem findReference_eq_none {mgr : ThreatMgr T} {unit : ℕ} (hfind : mgr.findReference unit true = none) :
    ∀ id ∈ mgr.live, (mgr.refs id).unitGuid ≠ unit := by
  rw [findReference, getReferenceByTarget, getReferenceByTarget] at hfind
  split at hfind
  · cases hfind
  next hnone =>
    rw [if_pos rfl, List.find?_eq_none] at hfind
    rw [List.find?_eq_none] at hnone
    intro id hid
    rcases mem_live.mp hid with hon | hoff
    · simpa using hnone id hon
    · simpa using hfind id hoff

theorem dropVictim_currentVictim (mgr : ThreatMgr T) (id other : ℕ) :
    (mgr.dropVictim id).currentVictim = some other ↔
      mgr.currentVictim = some other ∧ other ≠ id := by
  by_cases hvictim : mgr.currentVictim = some id
  · simp [dropVictim, hvictim, ThreatMgr.setDirty, setCurrentVictim, eq_comm]
  simp only [dropVictim, hvictim, if_false, iff_self_and]
  rintro hother rfl
  exact hvictim hother

@[simp]
theorem dropVictim_refs (mgr : ThreatMgr T) (id : ℕ) : (mgr.dropVictim id).refs = mgr.refs := by
  unfold dropVictim
  split_ifs <;> rfl

@[simp]
theorem dropVictim_next (mgr : ThreatMgr T) (id : ℕ) : (mgr.dropVictim id).next = mgr.next := by
  unfold dropVictim
  split_ifs <;> rfl

@[simp]
theorem dropVictim_threatContainer (mgr : ThreatMgr T) (id : ℕ) :
    (mgr.dropVictim id).threatContainer = mgr.threatContainer := by
  unfold dropVictim
  split_ifs <;> rfl

@[simp]
theorem dropVictim_threatOfflineContainer (mgr : ThreatMgr T) (id : ℕ) :
    (mgr.dropVictim id).threatOfflineContainer = mgr.threatOfflineContainer := by
  unfold dropVictim
  split_ifs <;> rfl

theorem Evolves.moved {before after : ThreatMgr T} {id : ℕ} (hid : id ∈ before.live)
    (isOnline : Bool)
    (hrefs : ∀ other, after.refs other =
      if other = id then { before.refs id with online := isOnline } else before.refs other)
    (hnext : after.next = before.next) (hnodup : after.live.Nodup)
    (hon : ∀ other, other ∈ after.threatContainer ↔
      other ∈ before.threatContainer ∧ other ≠ id ∨ other = id ∧ isOnline = true)
    (hoff : ∀ other, other ∈ after.threatOfflineContainer ↔
      other ∈ before.threatOfflineContainer ∧ other ≠ id ∨ other = id ∧ isOnline = false)
    (hvictim : ∀ other, after.currentVictim = some other →
      before.currentVictim = some other ∧ (other = id → isOnline = true)) :
    Evolves before after := by
  intro hcons
  have hguid : ∀ other, (after.refs other).unitGuid = (before.refs other).unitGuid := by
    intro other
    rw [hrefs]
    split_ifs with heq
    · rw [heq]
    · rfl
  have hlive : ∀ other, other ∈ after.live ↔ other ∈ before.live := by
    intro other
    rw [mem_live, mem_live, hon, hoff]
    by_cases heq : other = id
    · subst heq
      have := mem_live.mp hid
      cases isOnline <;> simpa using this
    · simp [heq]
  refine ⟨⟨hnodup, ?_, ?_, ?_, ?_, ?_⟩, fun other hother => ⟨(hlive other).mpr hother, hguid other⟩⟩
  · intro other hother
    rw [hrefs]
    rcases (hon other).mp hother with ⟨hold, hne⟩ | ⟨heq, honline⟩
    · rw [if_neg hne]
      exact hcons.online other hold
    · rw [if_pos heq, honline]
  · intro other hother
    rw [hrefs]
    rcases (hoff other).mp hother with ⟨hold, hne⟩ | ⟨heq, honline⟩
    · rw [if_neg hne]
      exact hcons.offline other hold
    · rw [if_pos heq, honline]
  · intro first hfirst second hsecond heq
    rw [hguid, hguid] at heq
    exact hcons.unique first ((hlive first).mp hfirst) second ((hlive second).mp hsecond) heq
  · intro other hother
    rw [hnext]
    exact hcons.fresh other ((hlive other).mp hother)
  · intro other hother
    obtain ⟨hold, honline⟩ := hvictim other hother
    rw [hon]
    by_cases heq : other = id
    · exact .inr ⟨heq, honline heq⟩
    · exact .inl ⟨hcons.victim other hold, heq⟩

theorem move_nodup {left right : List ℕ} (hnodup : (left ++ right).Nodup) {id : ℕ}
    (hid : id ∉ right) : (remove left id ++ (right ++ [id])).Nodup := by
  rw [nodup_append] at hnodup ⊢
  obtain ⟨hleft, hright, hdisj⟩ := hnodup
  refine ⟨hleft.filter _, ?_, ?_⟩
  · rw [nodup_append]
    refine ⟨hright, by simp, ?_⟩
    rintro first hfirst second hsecond rfl
    exact hid (mem_singleton.mp hsecond ▸ hfirst)
  · intro first hfirst second hsecond
    rw [mem_remove] at hfirst
    rcases mem_append.mp hsecond with hold | hnew
    · exact hdisj first hfirst.1 second hold
    · rw [mem_singleton.mp hnew]
      exact hfirst.2

variable [ThreatValue T]

theorem Evolves.threatChange (mgr : ThreatMgr T) (id : ℕ) (value : T) :
    Evolves mgr (mgr.processThreatEvent id (.threatChange value)) := by
  rw [processThreatEvent]
  split_ifs
  · exact .setDirty mgr true
  · exact .refl mgr

theorem compareVictim_eq (mgr : ThreatMgr T) (id : ℕ) :
    ∃ dirty, mgr.compareVictim id = mgr.setDirty dirty := by
  unfold compareVictim
  split
  · exact ⟨mgr.dirty, rfl⟩
  split_ifs
  · exact ⟨true, rfl⟩
  · exact ⟨mgr.dirty, rfl⟩

theorem Evolves.setOnlineOfflineState (mgr : ThreatMgr T) {id : ℕ} (isOnline : Bool)
    (hid : id ∈ mgr.live) : Evolves mgr (mgr.setOnlineOfflineState id isOnline) := by
  intro hcons
  by_cases hchange : (mgr.refs id).online ≠ isOnline
  · rw [ThreatMgr.setOnlineOfflineState, if_pos hchange]
    have hnodup := hcons.nodup
    cases isOnline with
    | false =>
      have hmem := hcons.mem_threatContainer hid (by simpa using hchange)
      have hnotMem := hcons.disjoint hmem
      simp only [processThreatEvent, setRef_refs_self, if_true]
      refine Evolves.moved hid false (by simp [setRef_refs]) (by simp) ?_ ?_ ?_ ?_
        hcons
      · simpa [live] using move_nodup hnodup hnotMem
      · simp
      · intro other
        by_cases heq : other = id
        · simp [heq]
        · simp [heq]
      · simp [dropVictim_currentVictim]
    | true =>
      have hmem := hcons.mem_threatOfflineContainer hid (by simpa using hchange)
      have hnotMem : id ∉ mgr.threatContainer := fun hon => hcons.disjoint hon hmem
      rw [live, nodup_append_comm] at hnodup
      simp only [processThreatEvent, setRef_refs_self, true_eq_false, if_false]
      obtain ⟨dirty, hcompare⟩ := compareVictim_eq
        (mgr.setRef id { mgr.refs id with online := true }) id
      rw [hcompare]
      refine Evolves.moved hid true (setRef_refs _ _ · _) rfl ?_ ?_ ?_ ?_ hcons
      · rw [live, nodup_append_comm]
        exact move_nodup hnodup hnotMem
      · intro other
        by_cases heq : other = id
        · simp [heq]
        · simp [heq]
      · simp
      · simp
  · rw [ThreatMgr.setOnlineOfflineState, if_neg hchange]
    exact Evolves.refl mgr hcons

theorem Evolves.updateOnlineStatus (world : ThreatWorld T) (mgr : ThreatMgr T) {id : ℕ}
    (hid : id ∈ mgr.live) : Evolves mgr (updateOnlineStatus world mgr id) := by
  have hrelink : Evolves mgr (relink world mgr id) ∧ (relink world mgr id).live = mgr.live := by
    rw [relink]
    split_ifs
    · exact ⟨.setRef mgr id rfl rfl, rfl⟩
    · exact ⟨.refl mgr, rfl⟩
  exact hrelink.1.trans (.setOnlineOfflineState _ _ (hrelink.2 ▸ hid))

variable {threat : T}

section AddThreat

variable {world : ThreatWorld T} {source : ThreatMgr T → ℕ → T → Option (ThreatMgr T)}
  {mgr after : ThreatMgr T}

theorem Evolves.raiseThreat (mgr : ThreatMgr T) (id : ℕ) (modThreat : T) :
    Evolves mgr (mgr.raiseThreat id modThreat) :=
  .setRef mgr id rfl rfl

theorem Evolves.announceChange (world : ThreatWorld T) (mgr : ThreatMgr T) {id : ℕ}
    (modThreat : T) (hid : id ∈ mgr.live) :
    Evolves mgr (announceChange world mgr id modThreat) := by
  rw [ThreatMgr.announceChange]
  split_ifs
  · exact .threatChange mgr id modThreat
  · exact (Evolves.updateOnlineStatus world mgr hid).trans (.threatChange _ id modThreat)
  · exact .refl mgr
  · exact .updateOnlineStatus world mgr hid

theorem Evolves.changeThreat (world : ThreatWorld T) (mgr : ThreatMgr T) {id : ℕ}
    (modThreat : T) (hid : id ∈ mgr.live) :
    Evolves mgr (changeThreat world mgr id modThreat) := by
  have hlive : id ∈ (mgr.raiseThreat id modThreat).live := hid
  exact (Evolves.raiseThreat mgr id modThreat).trans (.announceChange world _ modThreat hlive)

theorem refAddThreat_cases {id : ℕ} {modThreat : T}
    (hadd : refAddThreat world source mgr id modThreat = some after) :
    after = changeThreat world mgr id modThreat ∨
      ∃ victimOwner, source (changeThreat world mgr id modThreat) victimOwner 0 = some after := by
  rw [ThreatMgr.refAddThreat] at hadd
  split_ifs at hadd
  · split at hadd
    · split_ifs at hadd
      · exact .inr ⟨_, hadd⟩
      · exact .inl (some.inj hadd).symm
    · exact .inl (some.inj hadd).symm
  · exact .inl (some.inj hadd).symm

theorem Evolves.refAddThreat
    (hsource : ∀ mgr unit threat after, source mgr unit threat = some after → Evolves mgr after)
    {id : ℕ} {modThreat : T} (hid : id ∈ mgr.live)
    (hadd : refAddThreat world source mgr id modThreat = some after) : Evolves mgr after := by
  have hchanged := Evolves.changeThreat world mgr modThreat hid
  rcases refAddThreat_cases hadd with rfl | ⟨victimOwner, howner⟩
  · exact hchanged
  · exact hchanged.trans (hsource _ _ _ _ howner)

variable {victim : ℕ}

theorem newReference_refs (mgr : ThreatMgr T) (victim id : ℕ) :
    (mgr.newReference victim).refs id =
      if id = mgr.next then ⟨victim, 0, 0, true, true⟩ else mgr.refs id :=
  setRef_refs mgr mgr.next id _

theorem Consistent.newReference_refs (hcons : Consistent mgr) (victim : ℕ) {id : ℕ}
    (hid : id ∈ mgr.live) : (mgr.newReference victim).refs id = mgr.refs id := by
  rw [ThreatMgr.newReference_refs, if_neg (Nat.ne_of_lt (hcons.fresh id hid))]

theorem Evolves.newReference (hnew : ∀ id ∈ mgr.live, (mgr.refs id).unitGuid ≠ victim) :
    Evolves mgr (mgr.newReference victim) := by
  intro hcons
  have hne : ∀ id ∈ mgr.live, id ≠ mgr.next := fun id hid =>
    Nat.ne_of_lt (hcons.fresh id hid)
  have hkept : ∀ id ∈ mgr.live, (mgr.newReference victim).refs id = mgr.refs id :=
    fun _ hid => hcons.newReference_refs victim hid
  have hself : (mgr.newReference victim).refs mgr.next = ⟨victim, 0, 0, true, true⟩ := by
    rw [ThreatMgr.newReference_refs, if_pos rfl]
  have hcont : (mgr.newReference victim).threatContainer =
      mgr.threatContainer ++ [mgr.next] := rfl
  have hlive : ∀ id, id ∈ (mgr.newReference victim).live ↔ id ∈ mgr.live ∨ id = mgr.next := by
    intro id
    rw [mem_live, mem_live, hcont, mem_append, mem_singleton]
    exact or_right_comm
  refine ⟨⟨?_, ?_, ?_, ?_, ?_, ?_⟩, ?_⟩
  · have hnodup := hcons.nodup
    rw [live, hcont]
    rw [append_assoc, singleton_append, nodup_middle, nodup_cons]
    exact ⟨fun hmem => hne _ hmem rfl, hnodup⟩
  · intro id hid
    rcases mem_append.mp (hcont ▸ hid) with hold | hself'
    · rw [hkept id (mem_append_left _ hold)]
      exact hcons.online id hold
    · rw [mem_singleton.mp hself', hself]
  · intro id hid
    rw [hkept id (mem_append_right _ hid)]
    exact hcons.offline id hid
  · intro first hfirst second hsecond heq
    rcases (hlive first).mp hfirst with hfirst | rfl <;>
      rcases (hlive second).mp hsecond with hsecond | rfl
    · rw [hkept first hfirst, hkept second hsecond] at heq
      exact hcons.unique first hfirst second hsecond heq
    · rw [hkept first hfirst, hself] at heq
      exact absurd heq (hnew first hfirst)
    · rw [hkept second hsecond, hself] at heq
      exact absurd heq.symm (hnew second hsecond)
    · rfl
  · intro id hid
    rcases (hlive id).mp hid with hold | rfl
    · exact lt_succ_of_lt (hcons.fresh id hold)
    · exact lt_succ_self _
  · intro id hid
    exact mem_append_left _ (hcons.victim id hid)
  · intro id hid
    exact ⟨(hlive id).mpr (.inl hid), by rw [hkept id hid]⟩

theorem Evolves.addThreatDirect
    (hsource : ∀ mgr unit threat after, source mgr unit threat = some after → Evolves mgr after)
    (hadd : addThreatDirect world source mgr victim threat = some after) : Evolves mgr after := by
  rw [ThreatMgr.addThreatDirect] at hadd
  split at hadd
  · next id hfind =>
      exact (Evolves.record mgr _).trans
        (.refAddThreat hsource (findReference_eq_some hfind).1 hadd)
  next hfind =>
    obtain ⟨added, hadded, rfl⟩ := map_eq_some_iff.mp hadd
    have hcreated := (Evolves.newReference (findReference_eq_none hfind)).trans
      (.record _ (.added victim threat))
    have hlive : mgr.next ∈ ((mgr.newReference victim).record (.added victim threat)).live :=
      mem_append_left _ (mem_append_right _ (mem_singleton_self _))
    have hadded' := Evolves.refAddThreat hsource hlive hadded
    split_ifs
    · intro hcons
      have hmiddle := hcreated hcons
      have hkept := (hadded' hmiddle.1).2 mgr.next hlive
      exact (hcreated.trans hadded').trans (.setOnlineOfflineState _ false hkept.1) hcons
    · exact hcreated.trans hadded'

theorem Evolves.doAddThreat
    (hsource : ∀ mgr unit threat after, source mgr unit threat = some after → Evolves mgr after)
    (hadd : doAddThreat world source mgr victim threat = some after) : Evolves mgr after := by
  rw [ThreatMgr.doAddThreat] at hadd
  split at hadd
  · split_ifs at hadd
    · obtain ⟨redirected, hredirected, hadded⟩ := bind_eq_some_iff.mp hadd
      exact (Evolves.addThreatDirect hsource hredirected).trans (.addThreatDirect hsource hadded)
    · exact .addThreatDirect hsource hadd
    · exact .addThreatDirect hsource hadd
  · exact .addThreatDirect hsource hadd

end AddThreat

theorem Evolves.addThreat (world : ThreatWorld T) (depth : ℕ) (mgr : ThreatMgr T) (victim : ℕ)
    (threat : T) (after : ThreatMgr T)
    (hadd : addThreat world depth mgr victim threat = some after) : Evolves mgr after := by
  induction depth generalizing mgr victim threat after with
  | zero => cases hadd
  | succ depth ih =>
    rw [ThreatMgr.addThreat] at hadd
    split_ifs at hadd
    · exact .doAddThreat ih hadd
    · cases hadd
      exact .refl mgr

section Reset

variable {world : ThreatWorld T} {depth : ℕ} {mgr after : ThreatMgr T} {id : ℕ}

theorem Evolves.setThreat (hid : id ∈ mgr.live)
    (hset : setThreat world depth mgr id threat = some after) : Evolves mgr after :=
  .refAddThreat (.addThreat world depth) hid hset

theorem Evolves.resetRef (hid : id ∈ mgr.live)
    (hreset : resetRef world depth mgr id = some after) : Evolves mgr after :=
  (Evolves.record mgr _).trans (.setThreat hid hreset)

omit [ThreatValue T] in
theorem Evolves.setTempModifier (mgr : ThreatMgr T) (id : ℕ) (threat : T) :
    Evolves mgr (mgr.setTempModifier id threat) :=
  .setRef mgr id rfl rfl

theorem Evolves.setTempThreat (hid : id ∈ mgr.live)
    (hset : setTempThreat world depth mgr id threat = some after) : Evolves mgr after := by
  rw [ThreatMgr.setTempThreat, ThreatMgr.addTempThreat] at hset
  have hmarked := Evolves.setTempModifier mgr id (threat - (mgr.refs id).threat)
  split_ifs at hset
  · exact hmarked.trans (.refAddThreat (.addThreat world depth) hid hset)
  · cases hset
    exact hmarked

theorem Evolves.resetTempThreat (hid : id ∈ mgr.live)
    (hreset : resetTempThreat world depth mgr id = some after) : Evolves mgr after := by
  rw [ThreatMgr.resetTempThreat] at hreset
  split_ifs at hreset
  · obtain ⟨added, hadded, rfl⟩ := map_eq_some_iff.mp hreset
    exact (Evolves.refAddThreat (.addThreat world depth) hid hadded).trans
      (.setRef added id rfl rfl)
  · cases hreset
    exact .refl mgr

omit [ThreatValue T] in
theorem forOnline_invariant {body : ThreatMgr T → ℕ → Option (ThreatMgr T)}
    (inv : ThreatMgr T → Prop)
    (hbody : ∀ mgr id after, inv mgr → id ∈ mgr.threatContainer → body mgr id = some after →
      inv after)
    {fuel index : ℕ} (hinv : inv mgr) (hloop : forOnline body fuel index mgr = some after) :
    inv after := by
  induction fuel generalizing index mgr with
  | zero => cases hloop
  | succ fuel ih =>
    rw [forOnline] at hloop
    split at hloop
    · cases hloop
      exact hinv
    next other hother =>
      obtain ⟨next, hnext, hrest⟩ := bind_eq_some_iff.mp hloop
      exact ih (hbody mgr other next hinv (mem_of_getElem? hother) hnext) hrest

omit [ThreatValue T] in
theorem Evolves.forOnline {body : ThreatMgr T → ℕ → Option (ThreatMgr T)} {fuel index : ℕ}
    (hbody : ∀ mgr id after, id ∈ mgr.live → body mgr id = some after → Evolves mgr after)
    (hloop : forOnline body fuel index mgr = some after) : Evolves mgr after :=
  forOnline_invariant (Evolves mgr)
    (fun _ id next hevolves hid hnext =>
      hevolves.trans (hbody _ id next (mem_append_left _ hid) hnext))
    (.refl mgr) hloop

theorem Evolves.tauntApply {taunter : ℕ}
    (happly : tauntApply world depth mgr taunter = some after) : Evolves mgr after := by
  rw [ThreatMgr.tauntApply] at happly
  split at happly
  · next hfind =>
      split_ifs at happly
      · exact .setTempThreat
          (mem_append_left _ (getReferenceByTarget_eq_some hfind).1) happly
      · cases happly
        exact .refl mgr
  · cases happly
    exact .refl mgr

theorem Evolves.tauntFadeOut {taunter : ℕ}
    (hfade : tauntFadeOut world depth mgr taunter = some after) : Evolves mgr after := by
  rw [ThreatMgr.tauntFadeOut] at hfade
  split at hfade
  · next hfind =>
      exact .resetTempThreat
        (mem_append_left _ (getReferenceByTarget_eq_some hfind).1) hfade
  · cases hfade
    exact .refl mgr

theorem Evolves.resetThreat {who : ℕ} (hreset : resetThreat world depth mgr who = some after) :
    Evolves mgr after := by
  rw [ThreatMgr.resetThreat] at hreset
  split at hreset
  · next hfind => exact .resetRef (findReference_eq_some hfind).1 hreset
  · cases hreset
    exact .refl mgr

theorem Evolves.resetAggro {fuel : ℕ} {predicate : ℕ → Bool}
    (hreset : resetAggro world depth fuel mgr predicate = some after) : Evolves mgr after := by
  refine .forOnline (fun mgr id next hid hbody => ?_) hreset
  split_ifs at hbody
  · obtain ⟨reset, hreset, rfl⟩ := map_eq_some_iff.mp hbody
    exact (Evolves.resetRef hid hreset).trans (.setDirty reset true)
  · cases hbody
    exact .refl mgr

theorem Evolves.resetAllThreat {fuel : ℕ}
    (hreset : resetAllThreat world depth fuel mgr = some after) : Evolves mgr after := by
  rw [ThreatMgr.resetAllThreat] at hreset
  split_ifs at hreset
  · cases hreset
    exact .refl mgr
  · obtain ⟨looped, hloop, rfl⟩ := map_eq_some_iff.mp hreset
    refine Evolves.trans (.forOnline (fun mgr id next hid hbody => ?_) hloop)
      (.setDirty looped true)
    obtain ⟨faded, hfaded, hreset⟩ := bind_eq_some_iff.mp hbody
    intro hcons
    have hfirst := Evolves.resetTempThreat hid hfaded
    have hlive := ((hfirst hcons).2 id hid).1
    exact (hfirst.trans (.resetRef hlive hreset)) hcons

end Reset

theorem setOnlineOfflineState_false_online (mgr : ThreatMgr T) (id : ℕ) :
    ((mgr.setOnlineOfflineState id false).refs id).online = false := by
  by_cases hchange : (mgr.refs id).online ≠ false
  · rw [ThreatMgr.setOnlineOfflineState, if_pos hchange]
    simp [processThreatEvent]
  · rw [ThreatMgr.setOnlineOfflineState, if_neg hchange]
    simpa using hchange

theorem Consistent.removeFromList {mgr : ThreatMgr T} {id : ℕ} (hcons : Consistent mgr)
    (honline : (mgr.refs id).online = false) :
    Consistent (mgr.processThreatEvent id .removeFromList) := by
  rw [processThreatEvent]
  simp only [dropVictim_refs, honline, false_eq_true, if_false]
  have hsub : List.Sublist (mgr.threatContainer ++ remove mgr.threatOfflineContainer id)
      mgr.live := filter_sublist.append_left _
  refine ⟨?_, ?_, ?_, ?_, ?_, ?_⟩
  · rw [live, dropVictim_threatContainer, dropVictim_threatOfflineContainer]
    exact hcons.nodup.sublist hsub
  · simpa using hcons.online
  · intro other hother
    rw [dropVictim_threatOfflineContainer, mem_remove] at hother
    simpa using hcons.offline other hother.1
  · intro first hfirst second hsecond heq
    rw [live, dropVictim_threatContainer, dropVictim_threatOfflineContainer] at hfirst hsecond
    exact hcons.unique first (hsub.subset hfirst) second (hsub.subset hsecond) heq
  · intro other hother
    rw [live, dropVictim_threatContainer, dropVictim_threatOfflineContainer] at hother
    simpa using hcons.fresh other (hsub.subset hother)
  · intro other hother
    rw [dropVictim_threatContainer]
    exact hcons.victim other ((dropVictim_currentVictim mgr id other).mp hother).1

theorem Consistent.removeReference {mgr : ThreatMgr T} {id : ℕ} (hcons : Consistent mgr)
    (hid : id ∈ mgr.live) : Consistent (mgr.removeReference id) := by
  have hoffline := (Evolves.setOnlineOfflineState mgr false hid hcons).1
  have hinvalid : Evolves _ ((mgr.setOnlineOfflineState id false).setRef id
      { (mgr.setOnlineOfflineState id false).refs id with valid := false }) :=
    .setRef _ id rfl rfl
  refine (hinvalid hoffline).1.removeFromList ?_
  rw [setRef_refs_self]
  exact setOnlineOfflineState_false_online mgr id

omit [ThreatValue T] in
theorem clearReferences_consistent (mgr : ThreatMgr T) : Consistent mgr.clearReferences := by
  constructor <;> simp [clearReferences, live]

theorem update_perm (mgr : ThreatMgr T) : mgr.update.threatContainer.Perm mgr.threatContainer := by
  rw [update]
  split_ifs
  · exact perm_insertionSort _ _
  · exact List.Perm.refl _

theorem selectPass_eq_found {world : ThreatWorld T} {mgr : ThreatMgr T}
    {currentVictim : Option ℕ} {noPriority : Bool} {list : List ℕ} {id : ℕ}
    (hfound : selectPass world mgr currentVictim noPriority list = .found id) :
    id ∈ list ∨ currentVictim = some id := by
  induction list with
  | nil => cases hfound
  | cons first rest ih =>
    have hrest : selectPass world mgr currentVictim noPriority rest = .found id →
        id ∈ first :: rest ∨ currentVictim = some id := fun hpass =>
      (ih hpass).imp (mem_cons_of_mem _) fun hvictim => hvictim
    have hself : Selection.found first = .found id →
        id ∈ first :: rest ∨ currentVictim = some id := by
      intro heq
      cases heq
      exact .inl mem_cons_self
    unfold selectPass at hfound
    extract_lets target at hfound
    split at hfound
    · split at hfound
      · cases hfound
      · exact hrest hfound
    split at hfound
    · split at hfound
      · split at hfound
        · exact hself hfound
        · split at hfound
          · exact hself hfound
          · split at hfound
            · split at hfound
              · exact hself hfound
              · exact hrest hfound
            · cases hfound
              exact .inr rfl
      · exact hself hfound
    · exact hrest hfound

theorem selectNextVictim_eq_some {world : ThreatWorld T} {mgr : ThreatMgr T} {id : ℕ}
    (hselect : selectNextVictim world mgr = some id) :
    id ∈ mgr.threatContainer ∨ mgr.currentVictim = some id := by
  have hcompared : comparedVictim world mgr = some id → mgr.currentVictim = some id := fun hsome =>
    (filter_eq_some_iff.mp hsome).1
  rw [selectNextVictim] at hselect
  split at hselect
  · next hpass =>
      cases hselect
      exact (selectPass_eq_found hpass).imp (fun hmem => hmem) hcompared
  · cases hselect
  · split at hselect
    · next hpass =>
        cases hselect
        exact (selectPass_eq_found hpass).imp (fun hmem => hmem) hcompared
    · cases hselect

theorem Consistent.getHostileTarget {mgr : ThreatMgr T} (hcons : Consistent mgr)
    (world : ThreatWorld T) : Consistent (getHostileTarget world mgr) := by
  have hperm := mgr.update_perm
  have hlive : mgr.update.live.Perm mgr.live := hperm.append_right _
  refine ⟨hlive.nodup_iff.mpr hcons.nodup, ?_, hcons.offline, ?_, ?_, ?_⟩
  · exact fun id hid => hcons.online id (hperm.mem_iff.mp hid)
  · exact fun first hfirst second hsecond heq =>
      hcons.unique first (hlive.mem_iff.mp hfirst) second (hlive.mem_iff.mp hsecond) heq
  · exact fun id hid => hcons.fresh id (hlive.mem_iff.mp hid)
  · intro id hid
    rcases selectNextVictim_eq_some hid with hmem | hvictim
    · exact hmem
    · exact hperm.mem_iff.mpr (hcons.victim id hvictim)

theorem Consistent.step {mgr after : ThreatMgr T} (hcons : Consistent mgr) {op : Op T}
    (hstep : mgr.step op = some after) : Consistent after := by
  cases op with
  | addThreat world depth victim threat =>
    exact (Evolves.addThreat _ _ _ _ _ _ hstep hcons).1
  | doAddThreat world depth victim threat =>
    exact (Evolves.doAddThreat (.addThreat world depth) hstep hcons).1
  | setOnlineOfflineState id isOnline =>
    obtain ⟨hid, heq⟩ := ite_none_right_eq_some.mp hstep
    cases heq
    exact (Evolves.setOnlineOfflineState mgr isOnline hid hcons).1
  | updateOnlineStatus world id =>
    obtain ⟨hid, heq⟩ := ite_none_right_eq_some.mp hstep
    cases heq
    exact (Evolves.updateOnlineStatus world mgr hid hcons).1
  | removeReference id =>
    obtain ⟨hid, heq⟩ := ite_none_right_eq_some.mp hstep
    cases heq
    exact hcons.removeReference hid
  | clearReferences =>
    cases hstep
    exact clearReferences_consistent mgr
  | getHostileTarget world =>
    cases hstep
    exact hcons.getHostileTarget world
  | tauntApply world depth taunter => exact (Evolves.tauntApply hstep hcons).1
  | tauntFadeOut world depth taunter => exact (Evolves.tauntFadeOut hstep hcons).1
  | resetThreat world depth who => exact (Evolves.resetThreat hstep hcons).1
  | resetAggro world depth fuel predicate => exact (Evolves.resetAggro hstep hcons).1
  | resetAllThreat world depth fuel => exact (Evolves.resetAllThreat hstep hcons).1

def ReachableMgr : ThreatMgr T → Prop :=
  Reachable (· = init) (computed step)

theorem ReachableMgr.consistent {mgr : ThreatMgr T} (hreach : ReachableMgr mgr) : Consistent mgr :=
  hreach.invariant Consistent (fun _ hinit => hinit ▸ init_consistent)
    fun _ _ _ hcons hstep => hcons.step hstep

/-- In every reachable table a unit has at most one reference, the flag of a reference
tells the one container that holds it, and the victim is online. -/
theorem reachable_containers (mgr : ThreatMgr T) (hreach : ReachableMgr mgr) :
    (mgr.threatContainer ++ mgr.threatOfflineContainer).Nodup ∧ (∀ id ∈ mgr.live,
        (id ∈ mgr.threatContainer ↔ (mgr.refs id).online = true) ∧
          (id ∈ mgr.threatOfflineContainer ↔ (mgr.refs id).online = false)) ∧
      (∀ first ∈ mgr.live, ∀ second ∈ mgr.live,
        (mgr.refs first).unitGuid = (mgr.refs second).unitGuid → first = second) ∧
      ∀ id, mgr.currentVictim = some id → id ∈ mgr.threatContainer := by
  have hconsistent := hreach.consistent
  refine ⟨hconsistent.nodup, fun id hid => ⟨?_, ?_⟩, hconsistent.unique, hconsistent.victim⟩
  · exact ⟨hconsistent.online id, hconsistent.mem_threatContainer hid⟩
  · exact ⟨hconsistent.offline id, hconsistent.mem_threatOfflineContainer hid⟩

def calmWorld : ThreatWorld ℚ where
  owner := 0
  exists? _ := true
  isGameMaster _ := false
  isAlive _ := true
  isInFlight _ := false
  isInMap _ := true
  inSamePhase _ := true
  isInAccessiblePlace _ := true
  isWithinCombatRange _ := true
  isEyeOfKilrogg _ := false
  charmerOrOwner _ := none
  redirectThreatPercent _ := 0
  redirectThreatTarget _ := none
  isVisibleBySummonerOnly _ := false
  summonerGuid _ := 0
  summonerUnit _ := none
  calcThreat _ threat := threat
  canCreatureAttack _ := true
  isImmunedToDamage _ := false
  hasBreakableAura _ := false
  isIgnored _ := false
  isWithinMeleeRange _ := true

def offlineOps : List (Op ℚ) :=
  [.addThreat calmWorld 1 7 100, .addThreat calmWorld 1 8 5, .getHostileTarget calmWorld,
    .setOnlineOfflineState 0 false]

theorem reachable_containers_offline : ∃ mgr, List.foldlM step init offlineOps = some mgr ∧
      mgr.threatContainer = [1] ∧ mgr.threatOfflineContainer = [0] ∧
      (mgr.threatContainer ++ mgr.threatOfflineContainer).Nodup := by
  have hend : (List.foldlM step init offlineOps).map
      (fun mgr => (mgr.threatContainer, mgr.threatOfflineContainer)) = some ([1], [0]) := by
    decide +kernel
  obtain ⟨mgr, hrun, hlists⟩ := map_eq_some_iff.mp hend
  obtain ⟨honline, hoffline⟩ := Prod.mk.inj hlists
  exact ⟨mgr, hrun, honline, hoffline,
    (reachable_containers mgr (Reachable.foldlM (.start rfl) hrun)).1⟩

end AzerothCore.ThreatMgr

/-!
## Whether `SelectNextVictim` finds a victim

The loop passes over the list once without the second choices, and again with them if
it stands on the last entry and that one is a second choice. When the last entry is a
first choice that cannot be taken, the second choices are never looked at.
-/

namespace AzerothCore.ThreatMgr
open List Option Bool

variable {T : Type*} [ThreatValue T]

/-- The loop of `SelectNextVictim` with its iterator; `none` when `fuel` iterations are
not enough. -/
def SelectNextVictim (world : ThreatWorld T) (mgr : ThreatMgr T) (currentVictim : Option ℕ) :
    ℕ → ℕ → Bool → Option (Option ℕ)
  | 0, _, _ => none
  | fuel + 1, iter, noPriorityTargetFound =>
    match mgr.threatContainer[iter]? with
    | none => some none
    | some currentRef =>
      let target := (mgr.refs currentRef).unitGuid
      if !noPriorityTargetFound && isSecondChoice world target then
        if iter + 1 = mgr.threatContainer.length then
          SelectNextVictim world mgr currentVictim fuel 0 true
        else SelectNextVictim world mgr currentVictim fuel (iter + 1) noPriorityTargetFound
      else if world.canCreatureAttack target then
        match currentVictim with
        | some victim =>
          if victim = currentRef then some (some currentRef)
          else if ThreatValue.ranged (mgr.refs victim).threat < (mgr.refs currentRef).threat then
            some (some currentRef)
          else if ThreatValue.melee (mgr.refs victim).threat < (mgr.refs currentRef).threat then
            if world.isWithinMeleeRange target then some (some currentRef)
            else
              SelectNextVictim world mgr currentVictim fuel (iter + 1)
                noPriorityTargetFound
          else some (some victim)
        | none => some (some currentRef)
      else SelectNextVictim world mgr currentVictim fuel (iter + 1) noPriorityTargetFound

def Selection.found? : Selection → Option ℕ
  | .found id => some id
  | _ => Option.none

variable {world : ThreatWorld T} {mgr : ThreatMgr T} {currentVictim : Option ℕ}
  {front rest : List ℕ} {id : ℕ}

omit [ThreatValue T] in
theorem getElem?_front (hlist : mgr.threatContainer = front ++ rest) :
    mgr.threatContainer[front.length]? = rest.head? := by
  rw [hlist, List.getElem?_append_right (le_refl _), Nat.sub_self, head?_eq_getElem?]

theorem SelectNextVictim_second {fuel : ℕ} (hlist : mgr.threatContainer = front ++ rest)
    (hfuel : rest.length < fuel) :
    SelectNextVictim world mgr currentVictim fuel front.length true =
      some (selectPass world mgr currentVictim true rest).found? := by
  induction fuel generalizing front rest with
  | zero => exact absurd hfuel (Nat.not_lt_zero _)
  | succ fuel ih =>
    have hhead := getElem?_front hlist
    rcases rest with _ | ⟨id, rest⟩
    · rw [SelectNextVictim, hhead]
      rfl
    have hnext := @ih (front ++ [id]) rest (by rw [hlist, append_assoc]; rfl)
      (Nat.lt_of_succ_lt_succ hfuel)
    rw [length_append, length_singleton] at hnext
    rw [SelectNextVictim, hhead, head?_cons]
    unfold selectPass
    rw [hnext]
    simp only [Bool.not_true, Bool.false_and, false_eq_true, if_false]
    cases currentVictim with
    | none =>
      dsimp only
      split_ifs <;> rfl
    | some victim =>
      dsimp only
      split_ifs <;> rfl

theorem SelectNextVictim_first {fuel : ℕ} (hlist : mgr.threatContainer = front ++ rest)
    (hfuel : rest.length + mgr.threatContainer.length + 1 < fuel) :
    SelectNextVictim world mgr currentVictim fuel front.length false =
      some (match selectPass world mgr currentVictim false rest with
        | .again => (selectPass world mgr currentVictim true mgr.threatContainer).found?
        | selection => selection.found?) := by
  induction fuel generalizing front rest with
  | zero => exact absurd hfuel (Nat.not_lt_zero _)
  | succ fuel ih =>
    have hhead := getElem?_front hlist
    rcases rest with _ | ⟨id, rest⟩
    · rw [SelectNextVictim, hhead]
      rfl
    rw [length_cons] at hfuel
    have hnext := @ih (front ++ [id]) rest (by rw [hlist, append_assoc]; rfl)
      (by omega)
    rw [length_append, length_singleton] at hnext
    have hsecond := @SelectNextVictim_second T _ world mgr currentVictim []
      mgr.threatContainer fuel rfl (by omega)
    rw [length_nil] at hsecond
    have hlast : front.length + 1 = mgr.threatContainer.length ↔ rest = [] := by
      rw [hlist, length_append, length_cons, ← length_eq_zero_iff]
      omega
    -- the outcome of the second pass stays closed while the first one is unfolded
    generalize (selectPass world mgr currentVictim true mgr.threatContainer).found? = second at *
    rw [SelectNextVictim, hhead, head?_cons]
    unfold selectPass
    rw [hnext, hsecond]
    simp only [hlast]
    cases currentVictim with
    | none =>
      dsimp only
      split_ifs <;> rfl
    | some victim =>
      dsimp only
      split_ifs <;> rfl

theorem SelectNextVictim_eq {fuel : ℕ} (hfuel : 2 * mgr.threatContainer.length + 1 < fuel) :
    SelectNextVictim world mgr (comparedVictim world mgr) fuel 0 false =
      some (selectNextVictim world mgr) := by
  have hfirst := @SelectNextVictim_first T _ world mgr (comparedVictim world mgr) []
    mgr.threatContainer fuel rfl (by omega)
  rw [length_nil] at hfirst
  rw [hfirst, selectNextVictim]
  cases selectPass world mgr (comparedVictim world mgr) false mgr.threatContainer with
  | found | none => rfl
  | again =>
    cases selectPass world mgr (comparedVictim world mgr) true mgr.threatContainer <;> rfl

/-! ## Which entries end the search -/

def stopsSearch (world : ThreatWorld T) (mgr : ThreatMgr T) (currentVictim : Option ℕ)
    (id : ℕ) : Bool :=
  world.canCreatureAttack (mgr.refs id).unitGuid &&
    match currentVictim with
    | none => true
    | some victim =>
      victim = id || ThreatValue.ranged (mgr.refs victim).threat < (mgr.refs id).threat ||
        !(ThreatValue.melee (mgr.refs victim).threat < (mgr.refs id).threat) ||
        world.isWithinMeleeRange (mgr.refs id).unitGuid

def accepts (world : ThreatWorld T) (mgr : ThreatMgr T) (currentVictim : Option ℕ)
    (noPriorityTargetFound : Bool) (id : ℕ) : Bool :=
  (noPriorityTargetFound || !isSecondChoice world (mgr.refs id).unitGuid) &&
    stopsSearch world mgr currentVictim id

/-- The last entry of a list is a second choice. -/
def endsWithSecondChoice (world : ThreatWorld T) (mgr : ThreatMgr T) (list : List ℕ) : Bool :=
  list.getLast?.any fun last => isSecondChoice world (mgr.refs last).unitGuid

variable {noPriorityTargetFound : Bool}

theorem selectPass_cons_of_accepts
    (hacc : accepts world mgr currentVictim noPriorityTargetFound id = true)
    (rest : List ℕ) :
    ∃ found, selectPass world mgr currentVictim noPriorityTargetFound (id :: rest) =
      .found found := by
  cases currentVictim <;> cases noPriorityTargetFound <;> unfold selectPass <;>
    simp only [accepts, stopsSearch] at hacc ⊢ <;> split_ifs <;> simp_all

section

variable (hacc : accepts world mgr currentVictim noPriorityTargetFound id = false)
include hacc

theorem selectPass_cons_of_last : selectPass world mgr currentVictim noPriorityTargetFound [id] =
      if !noPriorityTargetFound && isSecondChoice world (mgr.refs id).unitGuid then .again
      else .none := by
  cases currentVictim <;> cases noPriorityTargetFound <;> unfold selectPass <;>
    simp only [accepts, stopsSearch] at hacc ⊢ <;> split_ifs <;> simp_all [selectPass]

theorem selectPass_cons_of_pass (hrest : rest ≠ []) :
    selectPass world mgr currentVictim noPriorityTargetFound (id :: rest) =
      selectPass world mgr currentVictim noPriorityTargetFound rest := by
  cases currentVictim <;> cases noPriorityTargetFound <;> rw [selectPass] <;>
    simp only [accepts, stopsSearch] at hacc ⊢ <;> split_ifs <;> simp_all

end

/-- A pass finds somebody exactly when an entry accepts; otherwise it is repeated exactly
when it was the first and the last entry is a second choice. -/
theorem selectPass_cases (list : List ℕ) :
    (∃ id ∈ list, accepts world mgr currentVictim noPriorityTargetFound id = true) ∧
        (∃ found, selectPass world mgr currentVictim noPriorityTargetFound list = .found found) ∨
      (∀ id ∈ list, accepts world mgr currentVictim noPriorityTargetFound id = false) ∧
        selectPass world mgr currentVictim noPriorityTargetFound list =
          if !noPriorityTargetFound && endsWithSecondChoice world mgr list then .again
          else .none := by
  induction list with
  | nil =>
    right
    constructor
    · exact nofun
    · cases noPriorityTargetFound <;> rfl
  | cons id rest ih =>
    cases hacc : accepts world mgr currentVictim noPriorityTargetFound id with
    | true =>
      exact .inl ⟨⟨id, mem_cons_self, hacc⟩, selectPass_cons_of_accepts hacc rest⟩
    | false =>
      by_cases hrest : rest = []
      · right
        rw [hrest]
        constructor
        · intro other hother
          rwa [mem_singleton.mp hother]
        · rw [selectPass_cons_of_last hacc]
          rfl
      · rw [selectPass_cons_of_pass hacc hrest, endsWithSecondChoice,
          List.getLast?_cons_of_ne_nil hrest]
        rcases ih with ⟨⟨other, hother, hends⟩, hfound⟩ | ⟨hnone, hpass⟩
        · exact .inl ⟨⟨other, mem_cons_of_mem _ hother, hends⟩, hfound⟩
        right
        constructor
        · intro other hother
          rcases mem_cons.mp hother with rfl | hbehind
          · exact hacc
          · exact hnone other hbehind
        · exact hpass

/-! ## When somebody is found -/

def SomebodyAttackable (world : ThreatWorld T) (mgr : ThreatMgr T) : Prop :=
  ∃ id ∈ mgr.threatContainer, world.canCreatureAttack (mgr.refs id).unitGuid = true

/-- A first choice ends the first pass. -/
def FirstChoiceStops (world : ThreatWorld T) (mgr : ThreatMgr T) : Prop :=
  ∃ id ∈ mgr.threatContainer, isSecondChoice world (mgr.refs id).unitGuid = false ∧
    stopsSearch world mgr (comparedVictim world mgr) id = true

section

variable (hvictim : ∀ id, mgr.currentVictim = some id → id ∈ mgr.threatContainer)
include hvictim

/-- With all entries looked at, an attackable one is enough: it ends the search itself, or
the victim it is compared with does. -/
theorem exists_stopsSearch_iff :
    (∃ id ∈ mgr.threatContainer, stopsSearch world mgr (comparedVictim world mgr) id = true) ↔
      SomebodyAttackable world mgr := by
  constructor
  · rintro ⟨id, hid, hstops⟩
    exact ⟨id, hid, (and_eq_true_iff.mp hstops).1⟩
  · rintro ⟨id, hid, hattack⟩
    rcases hcompared : comparedVictim world mgr with _ | victim
    · exact ⟨id, hid, by simp [stopsSearch, hattack]⟩
    obtain ⟨hcurrent, hchecks⟩ := filter_eq_some_iff.mp hcompared
    rw [and_eq_true] at hchecks
    refine ⟨victim, hvictim victim hcurrent, ?_⟩
    simp [stopsSearch, hchecks.1]

theorem selectNextVictim_eq_none_iff :
    selectNextVictim world mgr = none ↔ ¬ FirstChoiceStops world mgr ∧
        (endsWithSecondChoice world mgr mgr.threatContainer = true →
          ¬ SomebodyAttackable world mgr) := by
  have hfirst : FirstChoiceStops world mgr ↔ ∃ id ∈ mgr.threatContainer,
      accepts world mgr (comparedVictim world mgr) false id = true := by
    simp only [FirstChoiceStops, accepts, Bool.false_or, and_eq_true, not_eq_true']
  have hsecond : SomebodyAttackable world mgr ↔ ∃ id ∈ mgr.threatContainer,
      accepts world mgr (comparedVictim world mgr) true id = true := by
    rw [← exists_stopsSearch_iff hvictim]
    simp only [accepts, Bool.true_or, Bool.true_and]
  rw [hfirst, hsecond, selectNextVictim]
  rcases @selectPass_cases T _ world mgr (comparedVictim world mgr) false mgr.threatContainer with
    ⟨hends, found, hpass⟩ | ⟨hnone, hpass⟩
  · rw [hpass]
    simp [hends]
  have hnot : ¬ ∃ id ∈ mgr.threatContainer,
      accepts world mgr (comparedVictim world mgr) false id = true := by
    rintro ⟨id, hid, hacc⟩
    rw [hnone id hid] at hacc
    exact Bool.false_ne_true hacc
  rw [hpass, Bool.not_false, Bool.true_and]
  split_ifs with hsecondLast
  · rcases @selectPass_cases T _ world mgr (comparedVictim world mgr) true
      mgr.threatContainer with ⟨hends, found, hagain⟩ | ⟨hnobody, hagain⟩
    · rw [hagain]
      simp [hends, hsecondLast]
    · rw [hagain, Bool.not_true, Bool.false_and, if_neg Bool.false_ne_true]
      have hnobody' : ¬ ∃ id ∈ mgr.threatContainer,
          accepts world mgr (comparedVictim world mgr) true id = true := by
        rintro ⟨id, hid, hacc⟩
        rw [hnobody id hid] at hacc
        exact Bool.false_ne_true hacc
      simp [hnot, hnobody']
  · simp [hnot, hsecondLast]

end

/-- The search of `SelectNextVictim` ends, with nobody exactly when nobody on the list can
be attacked. -/
def FindsVictim (world : ThreatWorld T) (mgr : ThreatMgr T) : Prop :=
  ∃ bound result, (∀ fuel ≥ bound,
      SelectNextVictim world mgr (comparedVictim world mgr) fuel 0 false = some result) ∧
    (result = none ↔ ¬ SomebodyAttackable world mgr)

theorem findsVictim_iff_select (world : ThreatWorld T) (mgr : ThreatMgr T) : FindsVictim world mgr ↔
      (selectNextVictim world mgr = none ↔ ¬ SomebodyAttackable world mgr) := by
  constructor
  · rintro ⟨bound, result, hends, hresult⟩
    have hfuel := hends (bound + 2 * mgr.threatContainer.length + 2) (by omega)
    rw [SelectNextVictim_eq (by omega)] at hfuel
    rwa [some.inj hfuel]
  · intro hresult
    exact ⟨2 * mgr.threatContainer.length + 2, selectNextVictim world mgr,
      fun fuel hfuel => SelectNextVictim_eq (by omega), hresult⟩

/-- The search always ends. It overlooks an attackable target exactly when no first choice
ends it and the last entry is not a second choice. -/
theorem findsVictim_iff (world : ThreatWorld T) (mgr : ThreatMgr T)
    (hvictim : ∀ id, mgr.currentVictim = some id → id ∈ mgr.threatContainer) :
    FindsVictim world mgr ↔ (¬ SomebodyAttackable world mgr ∨
        endsWithSecondChoice world mgr mgr.threatContainer = true ∨
        FirstChoiceStops world mgr) := by
  have hfirst : FirstChoiceStops world mgr → SomebodyAttackable world mgr := by
    rintro ⟨id, hid, -, hstops⟩
    exact (exists_stopsSearch_iff hvictim).mp ⟨id, hid, hstops⟩
  rw [findsVictim_iff_select, selectNextVictim_eq_none_iff hvictim]
  tauto

def polymorphedWorld : ThreatWorld ℚ :=
  { calmWorld with hasBreakableAura := fun unit => unit = 7 }

def twoHatedOps : List (Op ℚ) :=
  [.addThreat calmWorld 1 7 100, .addThreat calmWorld 1 8 5]

theorem twoHated_found :
    ∃ mgr, List.foldlM step init twoHatedOps = some mgr ∧ FindsVictim polymorphedWorld mgr := by
  have hend : (List.foldlM step init twoHatedOps).map
      (fun mgr => (mgr.threatContainer, mgr.currentVictim, (mgr.refs 1).unitGuid)) =
        some ([0, 1], none, 8) := by
    decide +kernel
  obtain ⟨mgr, hrun, hvalues⟩ := map_eq_some_iff.mp hend
  obtain ⟨hlist, hvictim, hunit⟩ : mgr.threatContainer = [0, 1] ∧ mgr.currentVictim = none ∧
      (mgr.refs 1).unitGuid = 8 := by simpa using hvalues
  have hsearch := findsVictim_iff polymorphedWorld mgr fun id hid =>
    absurd (hvictim.symm.trans hid) (by simp)
  refine ⟨mgr, hrun, hsearch.mpr (.inr (.inr ⟨1, ?_, ?_, ?_⟩))⟩
  · rw [hlist]
    decide
  · rw [hunit]
    decide
  · rw [comparedVictim, hvictim]
    rfl

/-- Unit 8 cannot be attacked. It is the last entry, so unit 7 is overlooked. -/
theorem polymorphed_overlooked :
    ∃ mgr, List.foldlM step init twoHatedOps = some mgr ∧ mgr.threatContainer ≠ [] ∧
      ¬ FindsVictim { polymorphedWorld with canCreatureAttack := fun unit => unit = 7 } mgr := by
  have hend : (List.foldlM step init twoHatedOps).map
      (fun mgr => (mgr.threatContainer, (mgr.refs 0).unitGuid, selectNextVictim
        { polymorphedWorld with canCreatureAttack := fun unit => unit = 7 } mgr)) =
        some ([0, 1], 7, none) := by
    decide +kernel
  obtain ⟨mgr, hrun, hvalues⟩ := map_eq_some_iff.mp hend
  obtain ⟨hlist, hunit, hselect⟩ : mgr.threatContainer = [0, 1] ∧ (mgr.refs 0).unitGuid = 7 ∧
      selectNextVictim { polymorphedWorld with canCreatureAttack := fun unit => unit = 7 } mgr =
        none := by simpa using hvalues
  refine ⟨mgr, hrun, by simp [hlist], ?_⟩
  rw [findsVictim_iff_select, hselect]
  intro hnobody
  exact hnobody.mp rfl ⟨0, by simp [hlist], by simp [hunit]⟩

end AzerothCore.ThreatMgr
