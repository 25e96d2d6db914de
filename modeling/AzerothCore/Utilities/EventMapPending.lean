import AzerothCore.Utilities.EventMap
import Mathlib.Algebra.Order.BigOperators.Group.List
import Mathlib.Algebra.Order.Group.Nat
import Mathlib.Data.List.Count

/-!
# Pending events of an `EventMap` without groups and phases

Most scripts give their events neither a group nor a phase. For them the map is
a queue of event ids.
-/

namespace AzerothCore.EventMap
open List Bool Nat Multimap

/-- `EventMap::Reset`. -/
def Reset (map : EventMap) : EventMap :=
  { map with eventMap := Multimap.empty, time := 0, phase := 0 }

structure Plain (map : EventMap) : Prop where
  phase : map.phase = 0
  ids : ∀ entry ∈ map.eventMap.entries, entry.2 < 2 ^ 16

def pending (map : EventMap) (eventId : ℕ) : ℕ :=
  map.eventMap.entries.countP fun entry => entry.2 = eventId

variable {map : EventMap} {eventId other time : ℕ}

theorem land_mask (hid : eventId < 2 ^ 16) : eventId &&& 0x0000FFFF = eventId :=
  @packData_land_eventId eventId 0 0 hid

@[simp]
theorem packData_zero (eventId : ℕ) : packData eventId 0 0 = eventId := by
  simp [packData]

theorem Plain.reset (map : EventMap) : map.Reset.Plain := ⟨rfl, nofun⟩

theorem Plain.update (hplain : map.Plain) (time : ℕ) : (map.update time).Plain :=
  ⟨hplain.phase, hplain.ids⟩

theorem Plain.scheduleEvent (hplain : map.Plain) (hid : eventId < 2 ^ 16) (time : ℕ) :
    (map.scheduleEvent eventId time 0 0).Plain := by
  refine ⟨hplain.phase, fun entry hentry => ?_⟩
  simp only [EventMap.scheduleEvent, entries_insert, packData_zero,
    mem_insertList] at hentry
  rcases hentry with rfl | hold
  · exact hid
  · exact hplain.ids entry hold

theorem Plain.cancelEvent (hplain : map.Plain) (eventId : ℕ) : (map.cancelEvent eventId).Plain :=
  ⟨hplain.phase, fun entry hentry => hplain.ids entry (mem_of_mem_filter hentry)⟩

theorem Plain.rescheduleEvent (hplain : map.Plain) (hid : eventId < 2 ^ 16) (time : ℕ) :
    (map.rescheduleEvent eventId time 0 0).Plain :=
  (hplain.cancelEvent eventId).scheduleEvent hid time

@[simp]
theorem pending_update (map : EventMap) (time eventId : ℕ) :
    (map.update time).pending eventId = map.pending eventId := rfl

theorem pending_scheduleEvent (map : EventMap) (eventId time other : ℕ) :
    (map.scheduleEvent eventId time 0 0).pending other =
      map.pending other + if eventId = other then 1 else 0 := by
  unfold pending EventMap.scheduleEvent
  simp only [entries_insert, packData_zero]
  rw [(insertList_perm _ _ _).countP_eq, countP_cons]
  simp only [decide_eq_true_eq]

section

variable (hplain : map.Plain)
include hplain

theorem pending_cancelEvent (eventId other : ℕ) : (map.cancelEvent eventId).pending other =
      if eventId = other then 0 else map.pending other := by
  unfold pending EventMap.cancelEvent
  simp only [entries_filter, countP_filter]
  split
  case isTrue heq =>
    subst heq
    rw [countP_eq_zero]
    intro entry hentry hboth
    simp only [and_eq_true, decide_eq_true_eq] at hboth
    exact hboth.2 (by rw [land_mask (hplain.ids entry hentry), hboth.1])
  case isFalse hne =>
    apply countP_congr
    intro entry hentry
    simp only [and_eq_true, decide_eq_true_eq, and_iff_left_iff_imp]
    intro heq
    rw [land_mask (hplain.ids entry hentry), heq]
    exact hne

theorem pending_rescheduleEvent (eventId time other : ℕ) :
    (map.rescheduleEvent eventId time 0 0).pending other =
      if eventId = other then 1 else map.pending other := by
  unfold EventMap.rescheduleEvent
  rw [pending_scheduleEvent, pending_cancelEvent hplain]
  split <;> rfl

theorem executeEvent_cases :
    (map.executeEvent = (0, map) ∧ ∀ entry ∈ map.eventMap.entries, map.time < entry.1) ∨
      ∃ entry rest, map.eventMap.entries = entry :: rest ∧ entry.1 ≤ map.time ∧
        map.executeEvent.1 = entry.2 ∧ map.executeEvent.2.eventMap.entries = rest ∧
        map.executeEvent.2.time = map.time ∧ map.executeEvent.2.phase = map.phase := by
  cases hentries : map.eventMap.entries with
  | nil =>
    refine .inl ⟨?_, nofun⟩
    have hloop : executeLoop map.time map.phase map.eventMap.entries = (none, []) := by
      rw [hentries]
      rfl
    unfold executeEvent
    simp only [hloop]
    have hstore : map.eventMap.ofSublist [] (by simp) = map.eventMap :=
      ext_entries hentries.symm
    simp only [hstore]
  | cons entry rest =>
    have hsorted := map.eventMap.sorted
    rw [hentries, pairwise_cons] at hsorted
    have hphase : outOfPhase map.phase entry.2 = false := by simp [outOfPhase, hplain.phase]
    by_cases hdue : map.time < entry.1
    · refine .inl ⟨?_, ?_⟩
      · have hloop : executeLoop map.time map.phase map.eventMap.entries =
            (none, map.eventMap.entries) := by
          rw [hentries, executeLoop, if_pos hdue]
        unfold executeEvent
        simp only [hloop]
        rfl
      · intro found hfound
        rcases mem_cons.mp hfound with rfl | hrest
        · exact hdue
        · exact hdue.trans_le (hsorted.1 found hrest)
    · refine .inr ⟨entry, rest, rfl, not_lt.mp hdue, ?_⟩
      have hloop : executeLoop map.time map.phase map.eventMap.entries = (some entry.2, rest) := by
        rw [hentries, executeLoop, if_neg hdue, if_neg (by simp [hphase])]
      unfold executeEvent
      simp only [hloop]
      refine ⟨land_mask (hplain.ids entry ?_), rfl, trivial, trivial⟩
      rw [hentries]
      exact mem_cons_self

theorem Plain.executeEvent : map.executeEvent.2.Plain := by
  rcases executeEvent_cases hplain with ⟨heq, -⟩ | ⟨entry, rest, hentries, -, -, hrest, -, hphase⟩
  · rw [heq]
    exact hplain
  refine ⟨hphase.trans hplain.phase, fun found hfound => ?_⟩
  rw [hrest] at hfound
  exact hplain.ids found (hentries ▸ mem_cons_of_mem _ hfound)

theorem pending_executeEvent (hpos : 0 < other) : map.pending other =
      map.executeEvent.2.pending other + if map.executeEvent.1 = other then 1 else 0 := by
  rcases executeEvent_cases hplain with ⟨heq, -⟩ | ⟨entry, rest, hentries, -, hid, hrest, -⟩
  · rw [heq, if_neg hpos.ne, Nat.add_zero]
  unfold pending
  rw [hentries, hrest, hid, countP_cons]
  simp only [decide_eq_true_eq]

end

/-! ## The events ahead of an event -/

def Behind (map : EventMap) (eventId key ahead : ℕ) : Prop :=
  ∃ front back, map.eventMap.entries = front ++ (key, eventId) :: back ∧ front.length ≤ ahead

theorem exists_behind (hpending : 0 < map.pending eventId) :
    ∃ key, map.Behind eventId key map.eventMap.entries.length := by
  obtain ⟨entry, hentry, hid⟩ := countP_pos_iff.mp hpending
  obtain ⟨front, back, hsplit⟩ := append_of_mem hentry
  refine ⟨entry.1, front, back, ?_, ?_⟩
  · rw [hsplit, ← of_decide_eq_true hid]
  · rw [hsplit, length_append]
    exact Nat.le_add_right _ _

namespace Behind

variable {key ahead : ℕ} (hbehind : map.Behind eventId key ahead)

include hbehind

theorem mono {more : ℕ} (hle : ahead ≤ more) : map.Behind eventId key more := by
  obtain ⟨front, back, hsplit, hlen⟩ := hbehind
  exact ⟨front, back, hsplit, hlen.trans hle⟩

theorem update (time : ℕ) : (map.update time).Behind eventId key ahead := hbehind

theorem cancelEvent (hplain : map.Plain) (hne : other ≠ eventId) :
    (map.cancelEvent other).Behind eventId key ahead := by
  obtain ⟨front, back, hsplit, hlen⟩ := hbehind
  have hid : eventId < 2 ^ 16 := hplain.ids (key, eventId) (by rw [hsplit]; simp)
  refine ⟨front.filter fun entry => other ≠ entry.2 &&& 0x0000FFFF,
    back.filter fun entry => other ≠ entry.2 &&& 0x0000FFFF, ?_, ?_⟩
  · unfold EventMap.cancelEvent
    rw [entries_filter, hsplit, filter_append, filter_cons_of_pos]
    simpa [land_mask hid] using hne
  · exact (length_filter_le _ _).trans hlen

theorem scheduleEvent_of_le (hle : key ≤ uint32 (map.time + time)) :
    (map.scheduleEvent other time 0 0).Behind eventId key ahead := by
  obtain ⟨front, back, hsplit, hlen⟩ := hbehind
  have hsorted := map.eventMap.sorted
  rw [hsplit, pairwise_append] at hsorted
  refine ⟨front, Multimap.insertList (uint32 (map.time + time)) other back, ?_, hlen⟩
  unfold EventMap.scheduleEvent
  rw [entries_insert, hsplit, packData_zero]
  have hfront : ∀ entry ∈ front, entry.1 ≤ key := fun entry hentry =>
    hsorted.2.2 entry hentry (key, eventId) mem_cons_self
  clear hsplit hsorted hlen
  induction front with
  | nil => rw [nil_append, nil_append, Multimap.insertList, if_neg (not_lt.mpr hle)]
  | cons entry front ih =>
    have hentry : entry.1 ≤ uint32 (map.time + time) := (hfront entry mem_cons_self).trans hle
    rw [cons_append, Multimap.insertList, if_neg (not_lt.mpr hentry), cons_append,
      ih fun found hfound => hfront found (mem_cons_of_mem _ hfound)]

theorem scheduleEvent (other time : ℕ) :
    (map.scheduleEvent other time 0 0).Behind eventId key (ahead + 1) := by
  by_cases hle : key ≤ uint32 (map.time + time)
  · exact (hbehind.scheduleEvent_of_le hle).mono (le_succ _)
  obtain ⟨front, back, hsplit, hlen⟩ := hbehind
  unfold Behind EventMap.scheduleEvent
  rw [entries_insert, hsplit, packData_zero]
  clear hsplit
  induction front generalizing ahead with
  | nil =>
    refine ⟨[(uint32 (map.time + time), other)], back, ?_, by simp⟩
    rw [nil_append, Multimap.insertList, if_pos (not_le.mp hle), singleton_append]
  | cons entry front ih =>
    rw [cons_append, Multimap.insertList]
    split
    · exact ⟨_ :: entry :: front, back, rfl, succ_le_succ hlen⟩
    obtain ⟨front', back', hnext, hshort⟩ := @ih front.length le_rfl
    refine ⟨entry :: front', back', by rw [hnext, cons_append], ?_⟩
    rw [length_cons] at hlen ⊢
    omega

theorem executeEvent (hplain : map.Plain) :
    (map.executeEvent = (0, map) ∧ map.time < key) ∨ map.executeEvent.1 = eventId ∨
      ∃ fewer, ahead = fewer + 1 ∧ map.executeEvent.2.Behind eventId key fewer := by
  obtain ⟨front, back, hsplit, hlen⟩ := hbehind
  rcases executeEvent_cases hplain with ⟨heq, hlater⟩ | ⟨entry, rest, hentries, -, hid, hrest, -⟩
  · exact .inl ⟨heq, hlater (key, eventId) (by rw [hsplit]; simp)⟩
  rw [hsplit] at hentries
  rcases front with _ | ⟨first, front⟩
  · rw [nil_append, List.cons.injEq] at hentries
    exact .inr (.inl (by rw [hid, ← hentries.1]))
  rw [cons_append, List.cons.injEq] at hentries
  rw [length_cons] at hlen
  refine .inr (.inr ⟨ahead - 1, by omega, front, back, ?_, by omega⟩)
  rw [hrest, ← hentries.2]

end Behind

theorem length_entries_le {ids : List ℕ} (hknown : ∀ entry ∈ map.eventMap.entries, entry.2 ∈ ids) :
    map.eventMap.entries.length ≤ (ids.map map.pending).sum := by
  unfold pending
  generalize map.eventMap.entries = entries at hknown
  induction entries with
  | nil => exact Nat.zero_le _
  | cons entry entries ih =>
    have hrest := ih fun other hother => hknown other (mem_cons_of_mem _ hother)
    have hentry := hknown entry mem_cons_self
    have hcount : (ids.map fun eventId => (entry :: entries).countP
        fun entry => entry.2 = eventId).sum =
          (ids.map fun eventId => entries.countP fun entry => entry.2 = eventId).sum +
            (ids.map fun eventId => if entry.2 = eventId then 1 else 0).sum := by
      rw [← sum_map_add]
      refine congrArg List.sum (map_congr_left fun eventId _ => ?_)
      rw [countP_cons]
      simp only [decide_eq_true_eq]
    have hone : 1 ≤ (ids.map fun eventId => if entry.2 = eventId then 1 else 0).sum := by
      exact le_sum_of_mem (mem_map.mpr ⟨entry.2, hentry, if_pos rfl⟩)
    rw [length_cons, hcount]
    exact Nat.add_le_add hrest hone

end AzerothCore.EventMap
