import AzerothCore.Collections.Multimap
import AzerothCore.Common.Define
import Mathlib.Data.Set.Insert

/-!
# `EventMap`

The timer store of the creature scripts. An event is one packed `uint32`:
bits 0-15 hold the event id, bits 16-23 its group and bits 24-31 its phase.
The store is a `std::multimap` from the due time to the packed data.
-/

namespace AzerothCore
open Nat

/-- `EventMap`: the stopwatch, the active phases and the scheduled events. -/
structure EventMap where
  time : ℕ
  phase : ℕ
  lastEvent : ℕ
  eventMap : Multimap ℕ ℕ

namespace EventMap

def init : EventMap := ⟨0, 0, 0, Multimap.empty⟩

variable (map : EventMap)

def setPhase (phase : ℕ) : EventMap :=
  if phase = 0 then { map with phase := 0 }
  else if phase ≤ 8 then { map with phase := 1 <<< (phase - 1) }
  else map

def addPhase (phase : ℕ) : EventMap :=
  if phase ≠ 0 ∧ phase ≤ 8 then { map with phase := map.phase ||| (1 <<< (phase - 1)) }
  else map

def removePhase (phase : ℕ) : EventMap :=
  if phase ≠ 0 ∧ phase ≤ 8 then
    { map with phase := map.phase &&& (0xFFFFFFFF ^^^ (1 <<< (phase - 1))) }
  else map

def update (time : ℕ) : EventMap :=
  { map with time := uint32 (map.time + time) }

/-- The packed data `ScheduleEvent` stores for its arguments. -/
def packData (eventId group phase : ℕ) : ℕ :=
  let withGroup :=
    if group ≠ 0 ∧ group ≤ 8 then eventId ||| (1 <<< (group + 15)) else eventId
  if phase ≠ 0 ∧ phase ≤ 8 then withGroup ||| (1 <<< (phase + 23)) else withGroup

def scheduleEvent (eventId time group phase : ℕ) : EventMap :=
  { map with
    eventMap := map.eventMap.insert (uint32 (map.time + time))
      (packData eventId group phase) }

def cancelEvent (eventId : ℕ) : EventMap :=
  { map with
    eventMap := map.eventMap.filter fun entry => eventId ≠ entry.2 &&& 0x0000FFFF }

def rescheduleEvent (eventId time group phase : ℕ) : EventMap :=
  (map.cancelEvent eventId).scheduleEvent eventId time group phase

def inGroup (group : ℕ) (data : ℕ) : Bool := data &&& (1 <<< (group + 15)) ≠ 0

/-- The loop of `CancelEventGroup` erases one entry and starts again from the
beginning; `fuel` bounds the number of erasures. -/
def cancelGroupLoop (group : ℕ) : ℕ → Multimap ℕ ℕ → Multimap ℕ ℕ
  | 0, store => store
  | fuel + 1, store =>
    if store.entries.any fun entry => inGroup group entry.2 then
      cancelGroupLoop group fuel (store.eraseFirst fun entry => inGroup group entry.2)
    else store

def cancelEventGroup (group : ℕ) : EventMap :=
  if group = 0 ∨ group > 8 then map
  else
    { map with
      eventMap := cancelGroupLoop group map.eventMap.entries.length map.eventMap }

/-- `DelayEvents(delay, group)`: the delayed events are collected in a second
multimap and inserted back once the loop is over. -/
def delayEvents (delay group : ℕ) : EventMap :=
  if group > 8 then map
  else
    let selected := fun entry : ℕ × ℕ => group = 0 ∨ inGroup group entry.2
    let delayed := (map.eventMap.entries.filter fun entry => selected entry).foldl
      (fun store entry => store.insert (uint32 (entry.1 + delay)) entry.2) Multimap.empty
    { map with
      eventMap := (map.eventMap.filter fun entry => ¬ selected entry).insertAll
        delayed.entries }

/-- The entries `DelayEventsToMax` still has to move. -/
def dueBefore (limit group : ℕ) (entry : ℕ × ℕ) : Bool :=
  entry.1 < limit ∧ (group = 0 ∨ inGroup group entry.2)

/-- The loop of `DelayEventsToMax`: schedule the data of the first such entry
anew, erase the entry, start again from the beginning. -/
def delayToMaxLoop (delay group : ℕ) : ℕ → EventMap → EventMap
  | 0, map => map
  | fuel + 1, map =>
    let limit := uint32 (map.time + delay)
    match map.eventMap.entries.find? (dueBefore limit group) with
    | none => map
    | some entry =>
      let scheduled := map.scheduleEvent entry.2 delay 0 0
      delayToMaxLoop delay group fuel
        { scheduled with
          eventMap := scheduled.eventMap.eraseFirst (dueBefore limit group) }

def delayEventsToMax (delay group : ℕ) : EventMap :=
  delayToMaxLoop delay group map.eventMap.entries.length map

/-- Whether `ExecuteEvent` throws a due event away in the current phases. -/
def outOfPhase (phase data : ℕ) : Bool :=
  phase ≠ 0 ∧ data &&& 0xFF000000 ≠ 0 ∧ (data >>> 24) &&& phase = 0

/-- The loop of `ExecuteEvent` on the entries in order: the data of the event
that is executed, and the entries that remain. -/
def executeLoop (time phase : ℕ) : List (ℕ × ℕ) → Option ℕ × List (ℕ × ℕ)
  | [] => (none, [])
  | entry :: rest =>
    if entry.1 > time then (none, entry :: rest)
    else if outOfPhase phase entry.2 then executeLoop time phase rest
    else (some entry.2, rest)

theorem executeLoop_sublist (time phase : ℕ) (entries : List (ℕ × ℕ)) :
    (executeLoop time phase entries).2.Sublist entries := by
  induction entries with
  | nil => exact List.Sublist.refl _
  | cons entry rest ih =>
    unfold executeLoop
    split_ifs
    · exact List.Sublist.refl _
    · exact ih.cons entry
    · exact List.sublist_cons_self entry rest

/-- `ExecuteEvent`: the id of the next executable event, or 0. -/
def executeEvent : ℕ × EventMap :=
  let outcome := executeLoop map.time map.phase map.eventMap.entries
  let store := map.eventMap.ofSublist outcome.2
    (executeLoop_sublist map.time map.phase map.eventMap.entries)
  match outcome.1 with
  | none => (0, { map with eventMap := store })
  | some data =>
    (data &&& 0x0000FFFF, { map with eventMap := store, lastEvent := data })

theorem testBit_packData (eventId group phase bit : ℕ) :
    (packData eventId group phase).testBit bit =
      (eventId.testBit bit || decide (group ≠ 0 ∧ group ≤ 8 ∧ bit = group + 15) ||
        decide (phase ≠ 0 ∧ phase ≤ 8 ∧ bit = phase + 23)) := by
  have hgroup : ∀ offset value : ℕ, (value ||| (1 <<< offset)).testBit bit =
      (value.testBit bit || decide (bit = offset)) := by
    intro offset value
    rw [testBit_or, one_shiftLeft, testBit_two_pow]
    simp [eq_comm]
  by_cases hg : group ≠ 0 ∧ group ≤ 8 <;> by_cases hp : phase ≠ 0 ∧ phase ≤ 8 <;>
    simp [packData, hg, hp, hgroup, ← and_assoc]

theorem packData_land_eventId {eventId group phase : ℕ} (hid : eventId < 2 ^ 16) :
    packData eventId group phase &&& 0x0000FFFF = eventId := by
  apply eq_of_testBit_eq
  intro bit
  have hmask : (0x0000FFFF : ℕ) = 2 ^ 16 - 1 := by decide
  rw [testBit_and, hmask, testBit_two_pow_sub_one, testBit_packData]
  by_cases hbit : bit < 16
  · have hg : ¬ (group ≠ 0 ∧ group ≤ 8 ∧ bit = group + 15) := by omega
    have hp : ¬ (phase ≠ 0 ∧ phase ≤ 8 ∧ bit = phase + 23) := by omega
    simp [hbit, hg, hp]
  · rw [testBit_lt_two_pow (hid.trans_le (Nat.pow_le_pow_right (by decide) (not_lt.mp hbit)))]
    simp [hbit]

theorem inGroup_packData {eventId group phase other : ℕ} (hid : eventId < 2 ^ 16)
    (hgroup : group ≤ 8) (hother : 1 ≤ other ∧ other ≤ 8) :
    inGroup other (packData eventId group phase) = true ↔ group = other := by
  rw [inGroup, decide_eq_true_eq, land_one_shiftLeft_ne_zero_iff, testBit_packData]
  have hlow : eventId.testBit (other + 15) = false :=
    testBit_lt_two_pow (hid.trans_le (Nat.pow_le_pow_right (by decide) (by omega)))
  rw [hlow]
  simp only [Bool.false_or, Bool.or_eq_true, decide_eq_true_eq]
  omega

theorem outOfPhase_packData {eventId group phase active : ℕ} (hid : eventId < 2 ^ 16)
    (hgroup : group ≤ 8) (hphase : phase ≤ 8) :
    outOfPhase active (packData eventId group phase) = true ↔
      active ≠ 0 ∧ phase ≠ 0 ∧ active.testBit (phase - 1) = false := by
  have hlow : ∀ bit, 24 ≤ bit → eventId.testBit bit = false := fun bit hbit =>
    testBit_lt_two_pow (hid.trans_le (Nat.pow_le_pow_right (by decide) (by omega)))
  have hhigh : packData eventId group phase &&& 0xFF000000 ≠ 0 ↔ phase ≠ 0 := by
    have hmask : (0xFF000000 : ℕ) = (2 ^ 8 - 1) <<< 24 := by decide
    rw [land_ne_zero_iff, hmask]
    simp only [testBit_packData, testBit_shiftLeft, testBit_two_pow_sub_one,
      Bool.and_eq_true, Bool.or_eq_true, decide_eq_true_eq]
    constructor
    · rintro ⟨bit, hbit, hge, -⟩
      rw [hlow bit hge] at hbit
      simp only [Bool.false_eq_true, false_or] at hbit
      omega
    · intro hne
      exact ⟨phase + 23, .inr ⟨hne, hphase, rfl⟩, by omega, by omega⟩
  have hactive : (packData eventId group phase >>> 24) &&& active ≠ 0 ↔
      phase ≠ 0 ∧ active.testBit (phase - 1) = true := by
    rw [land_ne_zero_iff]
    simp only [testBit_shiftRight, testBit_packData, Bool.or_eq_true, decide_eq_true_eq]
    constructor
    · rintro ⟨bit, hbit, hset⟩
      rw [hlow (24 + bit) (by omega)] at hbit
      simp only [Bool.false_eq_true, false_or] at hbit
      have heq : phase - 1 = bit := by omega
      exact ⟨by omega, heq ▸ hset⟩
    · rintro ⟨hne, hset⟩
      exact ⟨phase - 1, .inr ⟨hne, hphase, by omega⟩, hset⟩
  rw [outOfPhase, decide_eq_true_eq, hhigh, ← not_ne_iff (b := 0), hactive]
  cases active.testBit (phase - 1) <;> simp

inductive Op where
  | scheduleEvent (eventId time group phase : ℕ)
  | rescheduleEvent (eventId time group phase : ℕ)
  | cancelEvent (eventId : ℕ)
  | cancelEventGroup (group : ℕ)
  | delayEvents (delay group : ℕ)
  | delayEventsToMax (delay group : ℕ)
  | setPhase (phase : ℕ)
  | addPhase (phase : ℕ)
  | removePhase (phase : ℕ)
  | update (time : ℕ)
  | executeEvent
  deriving DecidableEq

/-- One operation: the value `ExecuteEvent` returned, if it was called, and the
map afterwards. -/
def step : Op → Option ℕ × EventMap
  | .scheduleEvent eventId time group phase =>
    (none, map.scheduleEvent eventId time group phase)
  | .rescheduleEvent eventId time group phase =>
    (none, map.rescheduleEvent eventId time group phase)
  | .cancelEvent eventId => (none, map.cancelEvent eventId)
  | .cancelEventGroup group => (none, map.cancelEventGroup group)
  | .delayEvents delay group => (none, map.delayEvents delay group)
  | .delayEventsToMax delay group => (none, map.delayEventsToMax delay group)
  | .setPhase phase => (none, map.setPhase phase)
  | .addPhase phase => (none, map.addPhase phase)
  | .removePhase phase => (none, map.removePhase phase)
  | .update time => (none, map.update time)
  | .executeEvent => (some map.executeEvent.1, map.executeEvent.2)

end EventMap

end AzerothCore

/-! ## What an event map is for -/

namespace AzerothCore
open List Option Nat

/-- One scheduled event. `serial` numbers the scheduling it stems from and
never changes; `stamp` numbers its last insertion. -/
structure Occurrence where
  serial : ℕ
  stamp : ℕ
  due : ℕ
  eventId : ℕ
  group : ℕ
  phase : ℕ
  deriving DecidableEq

variable {event : Occurrence}

namespace Occurrence

def Precedes (first second : Occurrence) : Prop :=
  first.due < second.due ∨ first.due = second.due ∧ first.stamp < second.stamp

def WellFormed (event : Occurrence) : Prop :=
  1 ≤ event.eventId ∧ event.eventId < 2 ^ 16 ∧ event.group ≤ 8 ∧ event.phase ≤ 8

theorem Precedes.due_le {first second : Occurrence} (hprec : first.Precedes second) :
    first.due ≤ second.due := by
  rcases hprec with hlt | ⟨heq, -⟩
  · exact hlt.le
  · exact heq.le

theorem Precedes.trans {first second third : Occurrence}
    (hleft : first.Precedes second) (hright : second.Precedes third) :
    first.Precedes third := by
  unfold Precedes at *
  omega

theorem Precedes.irrefl : ¬ event.Precedes event := by
  simp [Precedes]

def InGroup (group : ℕ) (event : Occurrence) : Prop :=
  group = 0 ∨ event.group = group

instance (group : ℕ) (event : Occurrence) : Decidable (event.InGroup group) :=
  inferInstanceAs (Decidable (_ ∨ _))

end Occurrence

/-- The state of an agenda. `scheduled` and `stamps` count the schedulings and
the insertions so far. -/
structure Agenda where
  time : ℕ
  active : Set ℕ
  pending : Set Occurrence
  scheduled : ℕ
  stamps : ℕ

namespace Agenda

def init : Agenda := ⟨0, ∅, ∅, 0, 0⟩

variable (agenda : Agenda)

/-- An occurrence without a phase, or in an active phase, may be executed; so
may every occurrence while no phase is active. -/
def Executable (event : Occurrence) : Prop :=
  agenda.active = ∅ ∨ event.phase = 0 ∨ event.phase ∈ agenda.active

def Missed (event : Occurrence) : Prop :=
  event.due ≤ agenda.time ∧ ¬ agenda.Executable event

def schedule (eventId time group phase : ℕ) : Agenda :=
  { agenda with
    pending := insert
      ⟨agenda.scheduled, agenda.stamps, agenda.time + time, eventId, group, phase⟩
      agenda.pending
    scheduled := agenda.scheduled + 1
    stamps := agenda.stamps + 1 }

def cancel (cancelled : Occurrence → Prop) : Agenda :=
  { agenda with pending := {event | event ∈ agenda.pending ∧ ¬ cancelled event} }

def moved (due : ℕ) (event : Occurrence) : Occurrence :=
  { event with due := due, stamp := agenda.stamps }

def postpone (newDue : Occurrence → ℕ) (agenda : Agenda) (event : Occurrence) : Agenda :=
  { agenda with
    pending := insert (agenda.moved (newDue event) event)
      {other | other ∈ agenda.pending ∧ other ≠ event}
    stamps := agenda.stamps + 1 }

/-- `order` lists the selected pending occurrences in agenda order. -/
def Lists (selected : Occurrence → Prop) (order : List Occurrence) : Prop :=
  order.Pairwise Occurrence.Precedes ∧
    ∀ event, event ∈ order ↔ event ∈ agenda.pending ∧ selected event

/-- What each operation may do to the agenda. The third argument is the answer
of `ExecuteEvent`: the occurrence handed out, if any. -/
inductive Step : Agenda → EventMap.Op → Option (Option Occurrence) → Agenda → Prop
  | scheduleEvent {agenda : Agenda} {eventId time group phase : ℕ} :
      Step agenda (.scheduleEvent eventId time group phase) none
        (agenda.schedule eventId time group phase)
  | rescheduleEvent {agenda : Agenda} {eventId time group phase : ℕ} :
      Step agenda (.rescheduleEvent eventId time group phase) none
        ((agenda.cancel fun event => event.eventId = eventId).schedule
          eventId time group phase)
  | cancelEvent {agenda : Agenda} {eventId : ℕ} : Step agenda (.cancelEvent eventId) none
        (agenda.cancel fun event => event.eventId = eventId)
  | cancelEventGroup {agenda : Agenda} {group : ℕ} : Step agenda (.cancelEventGroup group) none
        (agenda.cancel fun event => group ≠ 0 ∧ event.group = group)
  | delayEvents {agenda : Agenda} {delay group : ℕ} {order : List Occurrence} :
      agenda.Lists (fun event => event.InGroup group) order →
      Step agenda (.delayEvents delay group) none
        (order.foldl (postpone fun event => event.due + delay) agenda)
  | delayEventsToMax {agenda : Agenda} {delay group : ℕ} {order : List Occurrence} : agenda.Lists
        (fun event => event.due < agenda.time + delay ∧ event.InGroup group) order →
      Step agenda (.delayEventsToMax delay group) none
        (order.foldl (postpone fun _ => agenda.time + delay) agenda)
  | clearPhases {agenda : Agenda} : Step agenda (.setPhase 0) none { agenda with active := ∅ }
  | setPhase {agenda : Agenda} {phase : ℕ} : 1 ≤ phase → phase ≤ 8 →
      Step agenda (.setPhase phase) none { agenda with active := {phase} }
  | setPhaseInvalid {agenda : Agenda} {phase : ℕ} : 8 < phase →
      Step agenda (.setPhase phase) none agenda
  | addPhase {agenda : Agenda} {phase : ℕ} : 1 ≤ phase → phase ≤ 8 →
      Step agenda (.addPhase phase) none
        { agenda with active := insert phase agenda.active }
  | addPhaseInvalid {agenda : Agenda} {phase : ℕ} : phase = 0 ∨ 8 < phase →
      Step agenda (.addPhase phase) none agenda
  | removePhase {agenda : Agenda} {phase : ℕ} : Step agenda (.removePhase phase) none
        { agenda with active := agenda.active \ {phase} }
  | update {agenda : Agenda} {time : ℕ} :
      Step agenda (.update time) none { agenda with time := agenda.time + time }
  /-- The first executable occurrence is handed out once it is due; those ahead
  of it were missed and are dropped. -/
  | execute {agenda : Agenda} {event : Occurrence} :
      event ∈ agenda.pending → event.due ≤ agenda.time → agenda.Executable event →
      (∀ other ∈ agenda.pending, other.Precedes event → ¬ agenda.Executable other) →
      Step agenda .executeEvent (some (some event))
        { agenda with
          pending := {other | other ∈ agenda.pending ∧ other ≠ event ∧
            ¬ (agenda.Missed other ∧ other.Precedes event)} }
  /-- Nothing is handed out only if no due occurrence is executable. -/
  | executeNone {agenda : Agenda} :
      (∀ event ∈ agenda.pending, event.due ≤ agenda.time → ¬ agenda.Executable event) →
      Step agenda .executeEvent (some none)
        { agenda with
          pending := {event | event ∈ agenda.pending ∧ ¬ agenda.Missed event} }

inductive Run : List EventMap.Op → List (Option Occurrence) → Agenda → Prop
  | init : Run [] [] init
  | step {ops : List EventMap.Op} {op : EventMap.Op}
      {answers : List (Option Occurrence)} {answer : Option (Option Occurrence)}
      {before after : Agenda} : Run ops answers before → Step before op answer after →
      Run (ops ++ [op]) (answers ++ answer.toList) after

/-! ## No occurrence is handed out twice -/

def returned (answers : List (Option Occurrence)) : List Occurrence :=
  answers.filterMap id

structure Distinct (agenda : Agenda) (returned : List Occurrence) : Prop where
  pending_lt : ∀ event ∈ agenda.pending, event.serial < agenda.scheduled
  pending_inj : ∀ first ∈ agenda.pending, ∀ second ∈ agenda.pending,
    first.serial = second.serial → first = second
  returned_lt : ∀ event ∈ returned, event.serial < agenda.scheduled
  returned_fresh : ∀ event ∈ returned, ∀ other ∈ agenda.pending, event.serial ≠ other.serial
  returned_nodup : (returned.map Occurrence.serial).Nodup

namespace Distinct

variable {agenda after : Agenda} {returned : List Occurrence}

section

variable (hdist : agenda.Distinct returned)
include hdist

theorem of_subset (hpending : after.pending ⊆ agenda.pending)
    (hsched : after.scheduled = agenda.scheduled) : after.Distinct returned where
  pending_lt event hevent := by
    rw [hsched]
    exact hdist.pending_lt event (hpending hevent)
  pending_inj first hfirst second hsecond :=
    hdist.pending_inj first (hpending hfirst) second (hpending hsecond)
  returned_lt event hevent := by
    rw [hsched]
    exact hdist.returned_lt event hevent
  returned_fresh event hevent other hother :=
    hdist.returned_fresh event hevent other (hpending hother)
  returned_nodup := hdist.returned_nodup

theorem cancel (cancelled : Occurrence → Prop) : (agenda.cancel cancelled).Distinct returned :=
  hdist.of_subset (fun _ hevent => hevent.1) rfl

theorem schedule (eventId time group phase : ℕ) :
    (agenda.schedule eventId time group phase).Distinct returned where
  pending_lt event hevent := by
    rcases hevent with rfl | hold
    · exact lt_succ_self _
    · exact lt_succ_of_lt (hdist.pending_lt event hold)
  pending_inj first hfirst second hsecond heq := by
    rcases hfirst with rfl | hfirst <;> rcases hsecond with rfl | hsecond
    · rfl
    · exact absurd heq (hdist.pending_lt second hsecond).ne'
    · exact absurd heq (hdist.pending_lt first hfirst).ne
    · exact hdist.pending_inj first hfirst second hsecond heq
  returned_lt event hevent := lt_succ_of_lt (hdist.returned_lt event hevent)
  returned_fresh event hevent other hother := by
    rcases hother with rfl | hold
    · exact (hdist.returned_lt event hevent).ne
    · exact hdist.returned_fresh event hevent other hold
  returned_nodup := hdist.returned_nodup

theorem postpone (newDue : Occurrence → ℕ)
    (hevent : event ∈ agenda.pending) : (Agenda.postpone newDue agenda event).Distinct returned where
  pending_lt other hother := by
    rcases hother with rfl | ⟨hold, -⟩
    · exact hdist.pending_lt event hevent
    · exact hdist.pending_lt other hold
  pending_inj first hfirst second hsecond heq := by
    rcases hfirst with rfl | ⟨hfirst, hne⟩ <;> rcases hsecond with rfl | ⟨hsecond, hne'⟩
    · rfl
    · exact absurd (hdist.pending_inj event hevent second hsecond heq).symm hne'
    · exact absurd (hdist.pending_inj first hfirst event hevent heq) hne
    · exact hdist.pending_inj first hfirst second hsecond heq
  returned_lt := hdist.returned_lt
  returned_fresh other hother found hfound := by
    rcases hfound with rfl | ⟨hold, -⟩
    · exact hdist.returned_fresh other hother event hevent
    · exact hdist.returned_fresh other hother found hold
  returned_nodup := hdist.returned_nodup

end

theorem foldl_postpone (newDue : Occurrence → ℕ) {order : List Occurrence}
    (hdist : agenda.Distinct returned) (horder : order.Pairwise Occurrence.Precedes)
    (hpending : ∀ event ∈ order, event ∈ agenda.pending) :
    (order.foldl (Agenda.postpone newDue) agenda).Distinct returned := by
  induction order generalizing agenda with
  | nil => exact hdist
  | cons event rest ih =>
    rw [pairwise_cons] at horder
    refine ih (hdist.postpone newDue (hpending event mem_cons_self)) horder.2 ?_
    intro other hother
    refine .inr ⟨hpending other (mem_cons_of_mem _ hother), ?_⟩
    intro heq
    exact Occurrence.Precedes.irrefl (heq ▸ horder.1 other hother)

theorem answer (hdist : agenda.Distinct returned) (hevent : event ∈ agenda.pending)
    (hafter : ∀ other ∈ after.pending, other ∈ agenda.pending ∧ other ≠ event)
    (hsched : after.scheduled = agenda.scheduled) : after.Distinct (returned ++ [event]) where
  pending_lt := (hdist.of_subset (fun _ hother => (hafter _ hother).1) hsched).pending_lt
  pending_inj := (hdist.of_subset (fun _ hother => (hafter _ hother).1) hsched).pending_inj
  returned_lt other hother := by
    rw [hsched]
    rcases mem_append.mp hother with hold | hnew
    · exact hdist.returned_lt other hold
    · rw [mem_singleton.mp hnew]
      exact hdist.pending_lt event hevent
  returned_fresh other hother found hfound := by
    rcases mem_append.mp hother with hold | hnew
    · exact hdist.returned_fresh other hold found (hafter found hfound).1
    rw [mem_singleton.mp hnew]
    intro heq
    exact (hafter found hfound).2
      (hdist.pending_inj event hevent found (hafter found hfound).1 heq).symm
  returned_nodup := by
    rw [map_append, nodup_append]
    refine ⟨hdist.returned_nodup, by simp, ?_⟩
    intro serial hserial other hother
    obtain ⟨old, hold, rfl⟩ := List.mem_map.mp hserial
    rw [map_singleton, mem_singleton] at hother
    rw [hother]
    exact hdist.returned_fresh old hold event hevent

end Distinct

variable {answers : List (Option Occurrence)}

theorem Distinct.step {agenda after : Agenda} {op : EventMap.Op}
    {answer : Option (Option Occurrence)} (hdist : agenda.Distinct (returned answers))
    (hstep : Step agenda op answer after) :
    after.Distinct (returned (answers ++ answer.toList)) := by
  have hkeep : returned (answers ++ [none]) = returned answers := by
    simp [returned]
  cases hstep with
  | scheduleEvent => simpa using hdist.schedule _ _ _ _
  | rescheduleEvent => simpa using (hdist.cancel _).schedule _ _ _ _
  | cancelEvent | cancelEventGroup => simpa using hdist.cancel _
  | delayEvents hlists =>
    simpa using hdist.foldl_postpone _ hlists.1 fun event hevent =>
      ((hlists.2 event).mp hevent).1
  | delayEventsToMax hlists =>
    simpa using hdist.foldl_postpone _ hlists.1 fun event hevent =>
      ((hlists.2 event).mp hevent).1
  | @execute event hmem _ _ _ =>
    have happend : returned (answers ++ [some event]) = returned answers ++ [event] := by
      simp [returned]
    rw [toList_some, happend]
    exact hdist.answer hmem (fun other hother => ⟨hother.1, hother.2.1⟩) rfl
  | executeNone =>
    rw [toList_some, hkeep]
    exact hdist.of_subset (fun _ hevent => hevent.1) rfl
  | setPhaseInvalid | addPhaseInvalid => simpa using hdist
  | clearPhases | setPhase | addPhase | removePhase | update =>
    rw [toList_none, append_nil]
    exact hdist.of_subset (fun _ hevent => hevent) rfl

theorem Run.distinct {ops : List EventMap.Op} {agenda : Agenda} (hrun : Run ops answers agenda) :
    agenda.Distinct (returned answers) := by
  induction hrun with
  | init => exact ⟨by simp [Agenda.init], by simp [Agenda.init], by simp [returned],
      by simp [returned], by simp [returned]⟩
  | step _ hstep ih => exact ih.step hstep

end Agenda

end AzerothCore
