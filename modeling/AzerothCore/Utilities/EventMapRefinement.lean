import AzerothCore.Utilities.EventMap

/-!
# `EventMap` follows its agenda

The store of an `EventMap` is the list of the pending occurrences of an agenda
in agenda order, each packed into its `uint32`. Every operation keeps this
relation, so every answer of `ExecuteEvent` is one the agenda allows.
-/

namespace AzerothCore.EventMap

open List Nat
open Agenda

/-! ## The store as a list of occurrences -/

def entry (event : Occurrence) : ℕ × ℕ :=
  (event.due, packData event.eventId event.group event.phase)

/-- The id that `ExecuteEvent` returns for an answer of the agenda. -/
def answerId (answer : Option Occurrence) : ℕ :=
  (answer.map Occurrence.eventId).getD 0

def insertOccurrence (event : Occurrence) : List Occurrence → List Occurrence
  | [] => [event]
  | other :: rest =>
    if event.due < other.due then event :: other :: rest
    else other :: insertOccurrence event rest

variable {event : Occurrence}

@[simp]
theorem mem_insertOccurrence {other : Occurrence} {order : List Occurrence} :
    other ∈ insertOccurrence event order ↔ other = event ∨ other ∈ order := by
  induction order with
  | nil => simp [insertOccurrence]
  | cons first rest ih =>
    by_cases hlt : event.due < first.due
    · simp [insertOccurrence, hlt]
    · simp only [insertOccurrence, hlt, if_false, mem_cons, ih]
      tauto

theorem map_insertOccurrence (event : Occurrence) (order : List Occurrence) :
    (insertOccurrence event order).map entry =
      Multimap.insertList (entry event).1 (entry event).2 (order.map entry) := by
  induction order with
  | nil => rfl
  | cons first rest ih =>
    by_cases hlt : event.due < first.due
    · simp [insertOccurrence, Multimap.insertList, entry, hlt]
    · simp only [insertOccurrence, hlt, if_false, map_cons, ih]
      simp [Multimap.insertList, entry, hlt]

theorem insertOccurrence_sorted {order : List Occurrence}
    (horder : order.Pairwise Occurrence.Precedes)
    (hstamp : ∀ other ∈ order, other.stamp < event.stamp) :
    (insertOccurrence event order).Pairwise Occurrence.Precedes := by
  induction order with
  | nil => simp [insertOccurrence]
  | cons first rest ih =>
    rw [pairwise_cons] at horder
    by_cases hlt : event.due < first.due
    · simp only [insertOccurrence, hlt, if_true, pairwise_cons]
      refine ⟨?_, horder⟩
      intro other hother
      rcases mem_cons.mp hother with rfl | hrest
      · exact .inl hlt
      · exact .inl (hlt.trans_le (horder.1 other hrest).due_le)
    simp only [insertOccurrence, hlt, if_false, pairwise_cons]
    refine ⟨?_, ih horder.2 fun other hother =>
      hstamp other (mem_cons_of_mem _ hother)⟩
    intro other hother
    rcases mem_insertOccurrence.mp hother with rfl | hrest
    · rcases lt_or_eq_of_le (not_lt.mp hlt) with hdue | hdue
      · exact .inl hdue
      · exact .inr ⟨hdue, hstamp first mem_cons_self⟩
    · exact horder.1 other hrest

/-- `order` lists the occurrences the store holds; `waiting` are pending ones
that an operation has taken out and not yet inserted again. -/
structure Follows (map : EventMap) (agenda : Agenda)
    (order waiting : List Occurrence) : Prop where
  entries : map.eventMap.entries = order.map entry
  sorted : order.Pairwise Occurrence.Precedes
  pending : ∀ event, event ∈ agenda.pending ↔ event ∈ order ∨ event ∈ waiting
  stamps : ∀ event ∈ agenda.pending, event.stamp < agenda.stamps
  wellFormed : ∀ event ∈ agenda.pending, event.WellFormed
  time : map.time = agenda.time
  phases : ∀ phase, phase ∈ agenda.active ↔
    1 ≤ phase ∧ phase ≤ 8 ∧ map.phase.testBit (phase - 1) = true
  phase_lt : map.phase < 2 ^ 8

theorem init_follows : Follows init Agenda.init [] [] where
  entries := rfl
  sorted := List.Pairwise.nil
  pending event := by simp [Agenda.init]
  stamps event hevent := hevent.elim
  wellFormed event hevent := hevent.elim
  time := rfl
  phases phase := by simp [Agenda.init, init]
  phase_lt := by decide

namespace Follows

variable {map : EventMap} {agenda : Agenda} {order waiting : List Occurrence}

theorem mem_order (hfollows : Follows map agenda order []) :
    event ∈ agenda.pending ↔ event ∈ order := by
  simpa using hfollows.pending event

section

variable (hfollows : Follows map agenda order waiting)
include hfollows

theorem order_wellFormed (hevent : event ∈ order) : event.WellFormed :=
  hfollows.wellFormed event ((hfollows.pending event).mpr (.inl hevent))

theorem phase_eq_zero_iff : map.phase = 0 ↔ agenda.active = ∅ := by
  constructor
  · intro hzero
    refine Set.eq_empty_of_forall_notMem fun phase hphase => ?_
    have hbit := ((hfollows.phases phase).mp hphase).2.2
    rw [hzero, zero_testBit] at hbit
    exact Bool.false_ne_true hbit
  · intro hempty
    by_contra hne
    obtain ⟨bit, hbit⟩ := exists_testBit_of_ne_zero hne
    have hlt : bit < 8 := by
      by_contra hge
      have hfalse := testBit_lt_two_pow (hfollows.phase_lt.trans_le
        (Nat.pow_le_pow_right (by decide) (not_lt.mp hge)))
      rw [hbit] at hfalse
      exact Bool.false_ne_true hfalse.symm
    have hmem : bit + 1 ∈ agenda.active :=
      (hfollows.phases (bit + 1)).mpr ⟨by omega, by omega, by simpa using hbit⟩
    rw [hempty] at hmem
    exact hmem

theorem outOfPhase_iff (hevent : event ∈ order) :
    outOfPhase map.phase (entry event).2 = true ↔ ¬ agenda.Executable event := by
  obtain ⟨-, hid, hgroup, hphase⟩ := hfollows.order_wellFormed hevent
  rw [entry, outOfPhase_packData hid hgroup hphase, Executable, ← hfollows.phase_eq_zero_iff,
    hfollows.phases]
  by_cases hbit : map.phase.testBit (event.phase - 1) = true
  · simp only [hbit, Bool.true_eq_false, and_false, and_true, false_iff, not_not]
    omega
  · simp only [hbit, and_false, Bool.false_eq_true, or_false, not_or]
    simp

theorem insert (event : Occurrence)
    (after : Agenda) {waiting' : List Occurrence} (hwell : event.WellFormed)
    (hstamp : event.stamp = agenda.stamps)
    (hafter : ∀ other, other ∈ after.pending ↔ other = event ∨ other ∈ order ∨ other ∈ waiting')
    (hwaiting : ∀ other ∈ waiting', other ∈ waiting)
    (hstamps : after.stamps = agenda.stamps + 1)
    (htime : after.time = agenda.time) (hactive : after.active = agenda.active) :
    Follows
      { map with
        eventMap := map.eventMap.insert event.due
          (packData event.eventId event.group event.phase) }
      after (insertOccurrence event order) waiting' where
  entries := by
    rw [Multimap.entries_insert, map_insertOccurrence, hfollows.entries, entry]
  sorted := insertOccurrence_sorted hfollows.sorted fun other hother => by
    rw [hstamp]
    exact hfollows.stamps other ((hfollows.pending other).mpr (.inl hother))
  pending other := by
    rw [hafter, mem_insertOccurrence, or_assoc]
  stamps other hother := by
    rcases (hafter other).mp hother with rfl | hold | hold
    · omega
    · have := hfollows.stamps other ((hfollows.pending other).mpr (.inl hold))
      omega
    have := hfollows.stamps other
      ((hfollows.pending other).mpr (.inr (hwaiting other hold)))
    omega
  wellFormed other hother := by
    rcases (hafter other).mp hother with rfl | hold | hold
    · exact hwell
    · exact hfollows.wellFormed other ((hfollows.pending other).mpr (.inl hold))
    · exact hfollows.wellFormed other
        ((hfollows.pending other).mpr (.inr (hwaiting other hold)))
  time := by rw [htime]; exact hfollows.time
  phases phase := by rw [hactive]; exact hfollows.phases phase
  phase_lt := hfollows.phase_lt

end

variable {group phase delay : ℕ} {store : Multimap ℕ ℕ} {selected : Occurrence → Bool}

theorem scheduleEvent (hfollows : Follows map agenda order []) {eventId time : ℕ}
    (hid : 1 ≤ eventId ∧ eventId < 2 ^ 16) (hgroup : group ≤ 8) (hphase : phase ≤ 8)
    (hfits : map.time + time < 2 ^ 32) :
    ∃ order', Follows (map.scheduleEvent eventId time group phase)
      (agenda.schedule eventId time group phase) order' [] := by
  let event : Occurrence :=
    ⟨agenda.scheduled, agenda.stamps, agenda.time + time, eventId, group, phase⟩
  have hwell : event.WellFormed := ⟨hid.1, hid.2, hgroup, hphase⟩
  have hdue : uint32 (map.time + time) = agenda.time + time := by
    rw [uint32_of_lt hfits, hfollows.time]
  refine ⟨insertOccurrence event order, ?_⟩
  rw [EventMap.scheduleEvent, hdue]
  refine hfollows.insert event (agenda.schedule eventId time group phase) hwell rfl
    (fun other => ?_) (fun _ hother => hother) rfl rfl rfl
  simp [Agenda.schedule, event, hfollows.mem_order]

theorem filter (hfollows : Follows map agenda order []) {after : Agenda}
    (keep : Occurrence → Bool) (hstore : store.entries = (order.filter keep).map entry)
    (hafter : ∀ event, event ∈ after.pending ↔ event ∈ agenda.pending ∧ keep event = true)
    (hstamps : after.stamps = agenda.stamps) (htime : after.time = agenda.time)
    (hactive : after.active = agenda.active) :
    Follows { map with eventMap := store } after (order.filter keep) [] where
  entries := hstore
  sorted := hfollows.sorted.sublist filter_sublist
  pending event := by
    rw [hafter, hfollows.mem_order, mem_filter]
    simp
  stamps event hevent := by
    rw [hstamps]
    exact hfollows.stamps event ((hafter event).mp hevent).1
  wellFormed event hevent := hfollows.wellFormed event ((hafter event).mp hevent).1
  time := by rw [htime]; exact hfollows.time
  phases phase := by rw [hactive]; exact hfollows.phases phase
  phase_lt := hfollows.phase_lt

theorem filter_entries (hfollows : Follows map agenda order waiting)
    {keepEntry : ℕ × ℕ → Bool} {keep : Occurrence → Bool}
    (hkeep : ∀ event ∈ order, keepEntry (entry event) = keep event) :
    map.eventMap.entries.filter keepEntry = (order.filter keep).map entry := by
  rw [hfollows.entries, filter_map]
  exact congrArg _ (filter_congr hkeep)

theorem cancelEvent (hfollows : Follows map agenda order []) (eventId : ℕ) :
    ∃ order', Follows (map.cancelEvent eventId)
      (agenda.cancel fun event => event.eventId = eventId) order' [] := by
  refine ⟨_, hfollows.filter (fun event => decide (event.eventId ≠ eventId)) ?_ ?_
    rfl rfl rfl⟩
  · refine hfollows.filter_entries fun event hevent => ?_
    rw [entry, packData_land_eventId (hfollows.order_wellFormed hevent).2.1]
    simp [eq_comm]
  · simp [cancel]

theorem cancelGroupLoop_entries (group : ℕ) {fuel : ℕ}
    (hfuel : (store.entries.filter fun entry => inGroup group entry.2).length ≤ fuel) :
    (cancelGroupLoop group fuel store).entries =
      store.entries.filter fun entry => ¬ inGroup group entry.2 := by
  induction fuel generalizing store with
  | zero =>
    rw [cancelGroupLoop, filter_eq_self.mpr]
    simpa using hfuel
  | succ fuel ih =>
    by_cases hany : (store.entries.any fun entry => inGroup group entry.2) = true
    · obtain ⟨found, hfound, hgroup⟩ := any_eq_true.mp hany
      obtain ⟨first, before, after, hbefore, hfirst, hsplit, herase⟩ :=
        exists_of_eraseP (p := fun entry => inGroup group entry.2) hfound hgroup
      have hnone : before.filter (fun entry => inGroup group entry.2) = [] := by
        rw [filter_eq_nil_iff]
        exact hbefore
      rw [cancelGroupLoop, if_pos hany, ih]
      · rw [Multimap.entries_eraseFirst, herase, hsplit]
        simp [filter_append, hfirst]
      · rw [Multimap.entries_eraseFirst, herase, filter_append, hnone]
        rw [hsplit, filter_append, hnone] at hfuel
        simpa [hfirst] using hfuel
    · rw [cancelGroupLoop, if_neg hany, filter_eq_self.mpr]
      simpa using hany

theorem cancelEventGroup (hfollows : Follows map agenda order []) (group : ℕ) :
    ∃ order', Follows (map.cancelEventGroup group)
      (agenda.cancel fun event => group ≠ 0 ∧ event.group = group) order' [] := by
  have hkeep : ∀ event ∈ order, group = 0 ∨ group > 8 → ¬ (group ≠ 0 ∧ event.group = group) := by
    intro event hevent hrange
    have := (hfollows.order_wellFormed hevent).2.2.1
    omega
  by_cases hrange : group = 0 ∨ group > 8
  · rw [EventMap.cancelEventGroup, if_pos hrange]
    refine ⟨order, hfollows.entries, hfollows.sorted, fun event => ?_, ?_, ?_,
      hfollows.time, hfollows.phases, hfollows.phase_lt⟩
    · rw [← hfollows.pending]
      constructor
      · exact fun hevent => hevent.1
      · exact fun hevent => ⟨hevent, hkeep event (hfollows.mem_order.mp hevent) hrange⟩
    · exact fun event hevent => hfollows.stamps event hevent.1
    · exact fun event hevent => hfollows.wellFormed event hevent.1
  · rw [EventMap.cancelEventGroup, if_neg hrange]
    refine ⟨_, hfollows.filter
      (fun event => decide (¬ (group ≠ 0 ∧ event.group = group))) ?_ ?_ rfl rfl rfl⟩
    · rw [cancelGroupLoop_entries group (length_filter_le _ _)]
      refine hfollows.filter_entries fun event hevent => ?_
      obtain ⟨-, hid, hgroup, -⟩ := hfollows.order_wellFormed hevent
      have hiff : inGroup group (entry event).2 = true ↔ event.group = group :=
        inGroup_packData hid hgroup (by omega)
      simp only [hiff, decide_not]
      have hne : group ≠ 0 := by omega
      simp [hne]
    · intro event
      simp only [Agenda.cancel, Set.mem_ofPred_eq, decide_eq_true_eq]

theorem selected_iff (hfollows : Follows map agenda order waiting) (hevent : event ∈ order)
    (hgroup : group ≤ 8) :
    (group = 0 ∨ inGroup group (entry event).2 = true) ↔ event.InGroup group := by
  obtain ⟨-, hid, hbound, -⟩ := hfollows.order_wellFormed hevent
  by_cases hzero : group = 0
  · simp [hzero, Occurrence.InGroup]
  have hiff : inGroup group (entry event).2 = true ↔ event.group = group :=
    inGroup_packData hid hbound (by omega)
  simp [hiff, hzero, Occurrence.InGroup]

theorem insertAll_waiting (hfollows : Follows map agenda order waiting)
    (hwaiting : waiting.Pairwise Occurrence.Precedes)
    (hdisj : ∀ event ∈ waiting, event ∉ order) (newDue : Occurrence → ℕ) :
    ∃ order', Follows
      { map with
        eventMap := map.eventMap.insertAll
          (waiting.map fun event => (newDue event, (entry event).2)) }
      (waiting.foldl (postpone newDue) agenda) order' [] := by
  induction waiting generalizing map agenda order with
  | nil => exact ⟨order, hfollows⟩
  | cons event rest ih =>
    rw [pairwise_cons] at hwaiting
    have hpending : event ∈ agenda.pending := (hfollows.pending event).mpr (.inr mem_cons_self)
    have hrest : ∀ other ∈ rest, other ≠ event := by
      intro other hother heq
      exact Occurrence.Precedes.irrefl (heq ▸ hwaiting.1 other hother)
    have hnext : Follows _ (postpone newDue agenda event) _ rest :=
      hfollows.insert (agenda.moved (newDue event) event) _
        (hfollows.wellFormed event hpending) rfl
        (fun other => by
          simp only [postpone, Set.mem_insert_iff, Set.mem_ofPred_eq, hfollows.pending, mem_cons]
          have hevent := hdisj event mem_cons_self
          constructor
          · rintro (hnew | ⟨hold | hold | hold, hne⟩)
            · exact .inl hnew
            · exact .inr (.inl hold)
            · exact absurd hold hne
            · exact .inr (.inr hold)
          · rintro (hnew | hold | hold)
            · exact .inl hnew
            · exact .inr ⟨.inl hold, fun heq => hevent (heq ▸ hold)⟩
            · exact .inr ⟨.inr (.inr hold), hrest other hold⟩)
        (fun other hother => mem_cons_of_mem _ hother) rfl rfl rfl
    obtain ⟨order', horder'⟩ := ih hnext hwaiting.2 fun other hother hmem => by
      rcases mem_insertOccurrence.mp hmem with rfl | hold
      · have hlt := hfollows.stamps _ ((hfollows.pending _).mpr
          (.inr (mem_cons_of_mem _ hother)))
        exact lt_irrefl _ hlt
      · exact hdisj other (mem_cons_of_mem _ hother) hold
    exact ⟨order', horder'⟩

theorem delayEvents (hfollows : Follows map agenda order []) (hgroup : group ≤ 8)
    (hfits : ∀ found ∈ map.eventMap.entries, group = 0 ∨ inGroup group found.2 = true →
      found.1 + delay < 2 ^ 32) :
    ∃ selected order', agenda.Lists (fun event => event.InGroup group) selected ∧
      Follows (map.delayEvents delay group)
        (selected.foldl (postpone fun event => event.due + delay) agenda) order' [] := by
  let selected := order.filter fun event => event.InGroup group
  let kept := order.filter fun event => ¬ event.InGroup group
  have hsel : selected.Pairwise Occurrence.Precedes := hfollows.sorted.sublist filter_sublist
  have hentries : map.eventMap.entries.filter
      (fun found => group = 0 ∨ inGroup group found.2) = selected.map entry :=
    hfollows.filter_entries fun event hevent => by
      simp [hfollows.selected_iff hevent hgroup]
  have hkept : map.eventMap.entries.filter
      (fun found => ¬ (group = 0 ∨ inGroup group found.2)) = kept.map entry :=
    hfollows.filter_entries fun event hevent => by
      simp [hfollows.selected_iff hevent hgroup]
  -- the second multimap holds the selected entries, shifted, in the same order
  have hdelayed : ((map.eventMap.entries.filter fun found =>
        group = 0 ∨ inGroup group found.2).foldl
      (fun store found => store.insert (uint32 (found.1 + delay)) found.2)
      Multimap.empty).entries =
      selected.map fun event => (event.due + delay, (entry event).2) := by
    have hshift : ∀ (events : List Occurrence) (store : Multimap ℕ ℕ),
        (∀ event ∈ events, event ∈ order ∧ event.InGroup group) →
        (events.map entry).foldl
          (fun store found => store.insert (uint32 (found.1 + delay)) found.2) store =
        store.insertAll (events.map fun event => (event.due + delay, (entry event).2)) := by
      intro events
      induction events with
      | nil => intro store _; rfl
      | cons event rest ih =>
        intro store hmem
        have hdue : uint32 ((entry event).1 + delay) = event.due + delay := by
          obtain ⟨hevent, hin⟩ := hmem event mem_cons_self
          refine uint32_of_lt (hfits (entry event) ?_
            ((hfollows.selected_iff hevent hgroup).mpr hin))
          rw [hfollows.entries]
          exact mem_map_of_mem hevent
        rw [map_cons, map_cons, foldl_cons, hdue,
          ih _ fun other hother => hmem other (mem_cons_of_mem _ hother)]
        rfl
    rw [hentries, hshift selected _ fun event hevent => by simpa [selected] using hevent,
      Multimap.entries_insertAll_of_sorted]
    · rfl
    · refine pairwise_map.mpr (hsel.imp fun hprec => ?_)
      exact Nat.add_le_add_right hprec.due_le _
    · intro found hfound
      cases hfound
  have hwaiting : Follows
      { map with
        eventMap := map.eventMap.filter
          (fun found => ¬ (group = 0 ∨ inGroup group found.2)) }
      agenda kept selected := by
    refine ⟨hkept, hfollows.sorted.sublist filter_sublist, fun event => ?_,
      hfollows.stamps, hfollows.wellFormed, hfollows.time, hfollows.phases,
      hfollows.phase_lt⟩
    rw [hfollows.mem_order]
    simp only [kept, selected, mem_filter, decide_eq_true_eq]
    by_cases hgroup' : event.InGroup group <;> simp [hgroup']
  obtain ⟨order', horder'⟩ := hwaiting.insertAll_waiting hsel
    (fun event hevent hmem => by
      simp only [kept, selected, mem_filter, decide_eq_true_eq] at hevent hmem
      exact hmem.2 hevent.2)
    fun event => event.due + delay
  refine ⟨selected, order', ⟨hsel, fun event => ?_⟩, ?_⟩
  · rw [hfollows.mem_order]
    simp [selected]
  · simp only [EventMap.delayEvents, if_neg (not_lt.mpr hgroup), hdelayed]
    exact horder'

theorem find?_order {order : List Occurrence} (hsorted : order.Pairwise Occurrence.Precedes)
    (hevent : event ∈ order) (hsel : selected event = true)
    (hfirst : ∀ other ∈ order, selected other = true → other = event ∨ event.Precedes other) :
    order.find? selected = some event := by
  induction order with
  | nil => exact absurd hevent not_mem_nil
  | cons first rest ih =>
    rw [pairwise_cons] at hsorted
    rcases mem_cons.mp hevent with rfl | hrest
    · rw [List.find?_cons_of_pos hsel]
    have hprec := hsorted.1 event hrest
    have hnot : ¬ selected first = true := by
      intro htrue
      rcases hfirst first mem_cons_self htrue with rfl | hafter
      · exact Occurrence.Precedes.irrefl hprec
      · exact Occurrence.Precedes.irrefl (hprec.trans hafter)
    rw [List.find?_cons_of_neg hnot]
    exact ih hsorted.2 hrest fun other hother =>
      hfirst other (mem_cons_of_mem _ hother)

theorem takeOut (hfollows : Follows map agenda order [])
    (hfind : order.find? selected = some event) (store : Multimap ℕ ℕ)
    (hstore : store.entries = (order.eraseP selected).map entry) :
    Follows { map with eventMap := store } agenda (order.eraseP selected) [event] := by
  obtain ⟨htrue, before, after, hsplit, hbefore⟩ := List.find?_eq_some_iff_append.mp hfind
  have herase : order.eraseP selected = before ++ after := by
    rw [hsplit, eraseP_append_right _ fun other hother => by simpa using hbefore other hother,
      eraseP_cons_of_pos htrue]
  refine ⟨hstore, hfollows.sorted.sublist eraseP_sublist, fun other => ?_,
    hfollows.stamps, hfollows.wellFormed, hfollows.time, hfollows.phases, hfollows.phase_lt⟩
  rw [hfollows.mem_order, herase, hsplit]
  simp only [mem_append, mem_cons, not_mem_nil, or_false]
  tauto

theorem not_mem_eraseP (hfollows : Follows map agenda order waiting)
    (hfind : order.find? selected = some event) : event ∉ order.eraseP selected := by
  obtain ⟨htrue, before, after, hsplit, hbefore⟩ := List.find?_eq_some_iff_append.mp hfind
  have hsorted := hfollows.sorted
  rw [hsplit, pairwise_append, pairwise_cons] at hsorted
  rw [hsplit, eraseP_append_right _ fun other hother => by simpa using hbefore other hother,
    eraseP_cons_of_pos htrue, mem_append]
  rintro (hmem | hmem)
  · exact Occurrence.Precedes.irrefl (hsorted.2.2 event hmem event mem_cons_self)
  · exact Occurrence.Precedes.irrefl (hsorted.2.1.1 event hmem)

theorem dueBefore_iff (hfollows : Follows map agenda order waiting) (hevent : event ∈ order)
    (hgroup : group ≤ 8) (limit : ℕ) :
    (dueBefore limit group ∘ entry) event = true ↔ event.due < limit ∧ event.InGroup group := by
  rw [Function.comp_apply, dueBefore, decide_eq_true_eq, hfollows.selected_iff hevent hgroup]
  rfl

/-- The loop moves the selected occurrences one by one, in agenda order. -/
theorem delayToMaxLoop (hfollows : Follows map agenda order []) {fuel : ℕ} (hgroup : group ≤ 8)
    (hfits : map.time + delay < 2 ^ 32) {selected : List Occurrence}
    (hlists : agenda.Lists
      (fun event => event.due < agenda.time + delay ∧ event.InGroup group) selected)
    (hfuel : selected.length ≤ fuel) :
    ∃ order', Follows (EventMap.delayToMaxLoop delay group fuel map)
      (selected.foldl (postpone fun _ => agenda.time + delay) agenda) order' [] := by
  have hlimit : uint32 (map.time + delay) = agenda.time + delay := by
    rw [uint32_of_lt hfits, hfollows.time]
  have hfind : map.eventMap.entries.find? (dueBefore (agenda.time + delay) group) =
      (order.find? (dueBefore (agenda.time + delay) group ∘ entry)).map entry := by
    rw [hfollows.entries, List.find?_map]
  induction selected generalizing map agenda order fuel with
  | nil =>
    have hnone : order.find? (dueBefore (agenda.time + delay) group ∘ entry) = none := by
      rw [List.find?_eq_none]
      intro event hevent htrue
      exact not_mem_nil ((hlists.2 event).mpr
        ⟨hfollows.mem_order.mpr hevent, (hfollows.dueBefore_iff hevent hgroup _).mp htrue⟩)
    refine ⟨order, ?_⟩
    cases fuel with
    | zero => exact hfollows
    | succ fuel =>
      simp only [EventMap.delayToMaxLoop, hlimit, hfind, hnone, Option.map_none]
      exact hfollows
  | cons event rest ih =>
    obtain ⟨hsorted, hmem⟩ := hlists
    rw [pairwise_cons] at hsorted
    obtain ⟨hpending, hdue, hin⟩ := (hmem event).mp mem_cons_self
    have hevent : event ∈ order := hfollows.mem_order.mp hpending
    have hfirst : order.find? (dueBefore (agenda.time + delay) group ∘ entry) = some event := by
      refine find?_order hfollows.sorted hevent
        ((hfollows.dueBefore_iff hevent hgroup _).mpr ⟨hdue, hin⟩) ?_
      intro other hother htrue
      have hlisted := (hmem other).mpr
        ⟨hfollows.mem_order.mpr hother, (hfollows.dueBefore_iff hother hgroup _).mp htrue⟩
      rcases mem_cons.mp hlisted with heq | hrest
      · exact .inl heq
      · exact .inr (hsorted.1 other hrest)
    rcases fuel with _ | fuel
    · exact absurd hfuel (by simp)
    -- the new entry is not due before the limit, so the erasure finds the old one
    let store := map.eventMap.eraseFirst (dueBefore (agenda.time + delay) group)
    have hstore : (map.scheduleEvent (entry event).2 delay 0 0).eventMap.eraseFirst
        (dueBefore (agenda.time + delay) group) =
        store.insertAll [(agenda.time + delay, (entry event).2)] := by
      refine Multimap.ext_entries ?_
      have hpack : packData (entry event).2 0 0 = (entry event).2 := by simp [packData]
      simp only [EventMap.scheduleEvent, hlimit, hpack, Multimap.entries_eraseFirst,
        Multimap.entries_insert, Multimap.insertAll_cons, Multimap.insertAll_nil, store]
      refine Multimap.eraseP_insertList (by simp [dueBefore]) ?_
      intro found _ htrue
      simp only [dueBefore, decide_eq_true_eq] at htrue
      exact htrue.1.le
    have htaken := hfollows.takeOut hfirst store (by
      rw [Multimap.entries_eraseFirst, hfollows.entries, eraseP_map])
    have hnotMem : ∀ other ∈ [event],
        other ∉ order.eraseP (dueBefore (agenda.time + delay) group ∘ entry) := by
      intro other hother hkept
      rw [mem_singleton.mp hother] at hkept
      exact hfollows.not_mem_eraseP hfirst hkept
    obtain ⟨order', hnext⟩ := htaken.insertAll_waiting (pairwise_singleton _ _)
      hnotMem fun _ => agenda.time + delay
    have hrest : (postpone (fun _ => agenda.time + delay) agenda event).Lists
        (fun other => other.due < agenda.time + delay ∧ other.InGroup group) rest := by
      refine ⟨hsorted.2, fun other => ?_⟩
      constructor
      · intro hother
        have hold := (hmem other).mp (mem_cons_of_mem _ hother)
        refine ⟨.inr ⟨hold.1, ?_⟩, hold.2⟩
        rintro rfl
        exact Occurrence.Precedes.irrefl (hsorted.1 _ hother)
      · rintro ⟨rfl | ⟨hold, hne⟩, hsel⟩
        · exact absurd hsel.1 (lt_irrefl _)
        · exact (mem_cons.mp ((hmem other).mpr ⟨hold, hsel⟩)).resolve_left hne
    simp only [EventMap.delayToMaxLoop, hlimit, hfind, hfirst, Option.map_some, hstore]
    refine ih hnext hfits hrest (le_of_succ_le_succ hfuel) hlimit ?_
    rw [hnext.entries, List.find?_map]

theorem delayEventsToMax (hfollows : Follows map agenda order []) (hgroup : group ≤ 8)
    (hfits : map.time + delay < 2 ^ 32) :
    ∃ selected order', agenda.Lists
        (fun event => event.due < agenda.time + delay ∧ event.InGroup group) selected ∧
      Follows (map.delayEventsToMax delay group)
        (selected.foldl (postpone fun _ => agenda.time + delay) agenda) order' [] := by
  have hlists : agenda.Lists
      (fun event => event.due < agenda.time + delay ∧ event.InGroup group)
      (order.filter fun event => event.due < agenda.time + delay ∧ event.InGroup group) := by
    refine ⟨hfollows.sorted.sublist filter_sublist, fun event => ?_⟩
    rw [hfollows.mem_order, mem_filter, decide_eq_true_eq]
  obtain ⟨order', horder'⟩ := hfollows.delayToMaxLoop hgroup hfits hlists
    (length_filter_le _ _)
  refine ⟨_, order', hlists, ?_⟩
  rw [EventMap.delayEventsToMax, hfollows.entries, length_map]
  exact horder'

/-- The loop of `ExecuteEvent` drops missed occurrences until it meets one that is
executable or not yet due. -/
theorem executeLoop_spec (T phase : ℕ) {order : List Occurrence}
    (hsorted : order.Pairwise Occurrence.Precedes) :
    ∃ missed rest, (∀ event ∈ missed, event.due ≤ T ∧ outOfPhase phase (entry event).2 = true) ∧
      ((order = missed ++ rest ∧ (∀ event ∈ rest, T < event.due) ∧
          executeLoop T phase (order.map entry) = (none, rest.map entry)) ∨
        ∃ event, order = missed ++ event :: rest ∧ event.due ≤ T ∧
          outOfPhase phase (entry event).2 = false ∧
          executeLoop T phase (order.map entry) = (some (entry event).2, rest.map entry)) := by
  induction order with
  | nil => exact ⟨[], [], by simp, .inl ⟨rfl, by simp, rfl⟩⟩
  | cons first rest ih =>
    rw [pairwise_cons] at hsorted
    by_cases hdue : T < first.due
    · refine ⟨[], first :: rest, by simp, .inl ⟨rfl, ?_, ?_⟩⟩
      · intro event hevent
        rcases mem_cons.mp hevent with rfl | hrest
        · exact hdue
        · exact hdue.trans_le (hsorted.1 event hrest).due_le
      · simp [executeLoop, entry, hdue]
    rcases hphase : outOfPhase phase (entry first).2 with _ | _
    · refine ⟨[], rest, by simp, .inr ⟨first, rfl, not_lt.mp hdue, hphase, ?_⟩⟩
      have hnotDue : ¬ (entry first).1 > T := hdue
      simp [executeLoop, hnotDue, hphase]
    obtain ⟨missed, kept, hmissed, houtcome⟩ := ih hsorted.2
    have hnotDue : ¬ (entry first).1 > T := hdue
    have hloop : executeLoop T phase ((first :: rest).map entry) =
        executeLoop T phase (rest.map entry) := by
      simp [executeLoop, hnotDue, hphase]
    refine ⟨first :: missed, kept, ?_, ?_⟩
    · intro event hevent
      rcases mem_cons.mp hevent with rfl | hold
      · exact ⟨not_lt.mp hdue, hphase⟩
      · exact hmissed event hold
    · rw [hloop]
      rcases houtcome with ⟨hsplit, hlater, hresult⟩ | ⟨event, hsplit, hevent⟩
      · exact .inl ⟨by rw [hsplit]; rfl, hlater, hresult⟩
      · exact .inr ⟨event, by rw [hsplit]; rfl, hevent⟩

theorem shrink (hfollows : Follows map agenda order []) {rest : List Occurrence}
    (lastEvent : ℕ) (store : Multimap ℕ ℕ) (after : Agenda)
    (hstore : store.entries = rest.map entry) (hrest : rest.Sublist order)
    (hafter : ∀ event, event ∈ after.pending ↔ event ∈ rest)
    (hstamps : after.stamps = agenda.stamps)
    (htime : after.time = agenda.time) (hactive : after.active = agenda.active) :
    Follows { map with eventMap := store, lastEvent := lastEvent } after rest [] := by
  have hold : ∀ event ∈ after.pending, event ∈ agenda.pending := fun event hevent =>
    hfollows.mem_order.mpr (hrest.subset ((hafter event).mp hevent))
  refine ⟨hstore, hfollows.sorted.sublist hrest, by simpa using hafter, ?_, ?_, ?_, ?_,
    hfollows.phase_lt⟩
  · intro event hevent
    rw [hstamps]
    exact hfollows.stamps event (hold event hevent)
  · exact fun event hevent => hfollows.wellFormed event (hold event hevent)
  · rw [htime]
    exact hfollows.time
  · rw [hactive]
    exact hfollows.phases

theorem executeEvent (hfollows : Follows map agenda order []) :
    ∃ answer after order', Step agenda .executeEvent (some answer) after ∧
      map.executeEvent.1 = answerId answer ∧
      (∀ event ∈ answer, event.WellFormed) ∧
      Follows map.executeEvent.2 after order' [] := by
  obtain ⟨missed, rest, hmissed, houtcome⟩ := executeLoop_spec map.time map.phase hfollows.sorted
  have hnotExecutable : ∀ event ∈ missed, event ∈ order →
      ¬ agenda.Executable event := fun event hevent hold =>
    (hfollows.outOfPhase_iff hold).mp (hmissed event hevent).2
  have hdueNow : ∀ event ∈ missed, event.due ≤ agenda.time := fun event hevent =>
    hfollows.time ▸ (hmissed event hevent).1
  rcases houtcome with ⟨hsplit, hlater, hresult⟩ | ⟨event, hsplit, hdue, hphase, hresult⟩
  · rw [← hfollows.entries] at hresult
    have hrest : ∀ event ∈ rest, ¬ event.due ≤ agenda.time := fun event hevent =>
      not_le.mpr (hfollows.time ▸ hlater event hevent)
    have hmem : ∀ event, event ∈ agenda.pending ↔ event ∈ missed ∨ event ∈ rest := by
      intro event
      rw [hfollows.mem_order, hsplit, mem_append]
    refine ⟨none, _, rest, .executeNone ?_, ?_, by simp, ?_⟩
    · intro event hevent hdue
      rcases (hmem event).mp hevent with hmiss | hkept
      · exact hnotExecutable event hmiss (hfollows.mem_order.mp hevent)
      · exact absurd hdue (hrest event hkept)
    · simp only [EventMap.executeEvent, hresult]
      rfl
    · simp only [EventMap.executeEvent, hresult]
      refine hfollows.shrink map.lastEvent _ _ rfl ?_ (fun event => ?_) rfl rfl rfl
      · rw [hsplit]
        exact sublist_append_right _ _
      · constructor
        · rintro ⟨hevent, hnotMissed⟩
          rcases (hmem event).mp hevent with hmiss | hkept
          · exact absurd ⟨hdueNow event hmiss,
              hnotExecutable event hmiss (hfollows.mem_order.mp hevent)⟩ hnotMissed
          · exact hkept
        · intro hkept
          exact ⟨(hmem event).mpr (.inr hkept), fun hmiss => hrest event hkept hmiss.1⟩
  · rw [← hfollows.entries] at hresult
    have hmem : ∀ other, other ∈ agenda.pending ↔
        other ∈ missed ∨ other = event ∨ other ∈ rest := by
      intro other
      rw [hfollows.mem_order, hsplit, mem_append, mem_cons]
    have hsorted := hfollows.sorted
    rw [hsplit, pairwise_append, pairwise_cons] at hsorted
    have hpending : event ∈ agenda.pending := (hmem event).mpr (.inr (.inl rfl))
    have hexecutable : agenda.Executable event := by
      by_contra hnot
      rw [← hfollows.outOfPhase_iff (hfollows.mem_order.mp hpending), hphase] at hnot
      exact Bool.false_ne_true hnot
    refine ⟨some event, _, rest,
      .execute hpending (hfollows.time ▸ hdue) hexecutable ?_, ?_, ?_, ?_⟩
    · intro other hother hprec
      rcases (hmem other).mp hother with hmiss | rfl | hkept
      · exact hnotExecutable other hmiss (hfollows.mem_order.mp hother)
      · exact absurd hprec Occurrence.Precedes.irrefl
      · exact absurd (hprec.trans (hsorted.2.1.1 other hkept)) Occurrence.Precedes.irrefl
    · simp only [EventMap.executeEvent, hresult, answerId, Option.map_some, Option.getD_some]
      exact packData_land_eventId (hfollows.wellFormed event hpending).2.1
    · intro answer hanswer
      rw [← Option.mem_some.mp hanswer]
      exact hfollows.wellFormed event hpending
    · simp only [EventMap.executeEvent, hresult]
      refine hfollows.shrink _ _ _ rfl ?_ (fun other => ?_) rfl rfl rfl
      · rw [hsplit]
        exact (sublist_cons_self _ _).trans (sublist_append_right _ _)
      · constructor
        · rintro ⟨hother, hne, hkeep⟩
          rcases (hmem other).mp hother with hmiss | heq | hkept
          · have hmissed' : agenda.Missed other := ⟨hdueNow other hmiss,
              hnotExecutable other hmiss (hfollows.mem_order.mp hother)⟩
            exact absurd ⟨hmissed', hsorted.2.2 other hmiss event mem_cons_self⟩ hkeep
          · exact absurd heq hne
          · exact hkept
        · intro hkept
          have hprec := hsorted.2.1.1 other hkept
          refine ⟨(hmem other).mpr (.inr (.inr hkept)), ?_, fun hmiss => ?_⟩
          · rintro rfl
            exact Occurrence.Precedes.irrefl hprec
          · exact Occurrence.Precedes.irrefl (hprec.trans hmiss.2)

theorem withPhases (hfollows : Follows map agenda order waiting) {active : Set ℕ}
    (hphases : ∀ other, other ∈ active ↔ 1 ≤ other ∧ other ≤ 8 ∧ phase.testBit (other - 1) = true)
    (hlt : phase < 2 ^ 8) :
    Follows { map with phase := phase } { agenda with active := active } order waiting :=
  ⟨hfollows.entries, hfollows.sorted, hfollows.pending, hfollows.stamps, hfollows.wellFormed,
    hfollows.time, hphases, hlt⟩

theorem shiftLeft_lt (hle : phase ≤ 8) (hpos : 1 ≤ phase) : 1 <<< (phase - 1) < 2 ^ 8 := by
  rw [one_shiftLeft]
  exact Nat.pow_lt_pow_right (by decide) (by omega)

section

variable (hfollows : Follows map agenda order waiting)
include hfollows

theorem setPhase (phase : ℕ) : ∃ after, Step agenda (.setPhase phase) none after ∧
      Follows (map.setPhase phase) after order waiting := by
  by_cases hzero : phase = 0
  · subst hzero
    refine ⟨_, .clearPhases, ?_⟩
    exact hfollows.withPhases (by simp) (by decide)
  by_cases hle : phase ≤ 8
  · have hpos : 1 ≤ phase := one_le_iff_ne_zero.mpr hzero
    refine ⟨_, .setPhase hpos hle, ?_⟩
    rw [EventMap.setPhase, if_neg hzero, if_pos hle]
    refine hfollows.withPhases (fun other => ?_) (shiftLeft_lt hle hpos)
    rw [Set.mem_singleton_iff, one_shiftLeft, testBit_two_pow, decide_eq_true_eq]
    omega
  · refine ⟨_, .setPhaseInvalid (not_le.mp hle), ?_⟩
    rw [EventMap.setPhase, if_neg hzero, if_neg hle]
    exact hfollows

theorem addPhase (phase : ℕ) : ∃ after, Step agenda (.addPhase phase) none after ∧
      Follows (map.addPhase phase) after order waiting := by
  by_cases hvalid : phase ≠ 0 ∧ phase ≤ 8
  · have hpos : 1 ≤ phase := one_le_iff_ne_zero.mpr hvalid.1
    refine ⟨_, .addPhase hpos hvalid.2, ?_⟩
    rw [EventMap.addPhase, if_pos hvalid]
    refine hfollows.withPhases (fun other => ?_)
      (or_lt_two_pow hfollows.phase_lt (shiftLeft_lt hvalid.2 hpos))
    rw [Set.mem_insert_iff, hfollows.phases, testBit_or, one_shiftLeft,
      testBit_two_pow, Bool.or_eq_true, decide_eq_true_eq]
    constructor
    · rintro (rfl | ⟨hge, hbound, hbit⟩)
      · exact ⟨hpos, hvalid.2, .inr rfl⟩
      · exact ⟨hge, hbound, .inl hbit⟩
    · rintro ⟨hge, hbound, hbit | heq⟩
      · exact .inr ⟨hge, hbound, hbit⟩
      · exact .inl (by omega)
  · refine ⟨_, .addPhaseInvalid (by omega), ?_⟩
    rw [EventMap.addPhase, if_neg hvalid]
    exact hfollows

theorem removePhase (phase : ℕ) : ∃ after, Step agenda (.removePhase phase) none after ∧
      Follows (map.removePhase phase) after order waiting := by
  refine ⟨_, .removePhase, ?_⟩
  by_cases hvalid : phase ≠ 0 ∧ phase ≤ 8
  · rw [EventMap.removePhase, if_pos hvalid]
    refine hfollows.withPhases (fun other => ?_)
      (lt_of_le_of_lt and_le_left hfollows.phase_lt)
    have hmask : (0xFFFFFFFF : ℕ) = 2 ^ 32 - 1 := by decide
    rw [Set.mem_sdiff, Set.mem_singleton_iff, hfollows.phases, hmask, testBit_and,
      testBit_xor, testBit_two_pow_sub_one, one_shiftLeft, testBit_two_pow]
    by_cases heq : phase - 1 = other - 1
    · have hsame : other - 1 < 32 := by omega
      simp only [heq, hsame, decide_true, bne_self_eq_false, Bool.and_false, Bool.false_eq_true,
        and_false, iff_false]
      omega
    · simp only [heq, decide_false, Bool.bne_false, Bool.and_eq_true, decide_eq_true_eq]
      constructor
      · rintro ⟨⟨hge, hle, hbit⟩, -⟩
        exact ⟨hge, hle, hbit, by omega⟩
      · rintro ⟨hge, hle, hbit, -⟩
        exact ⟨⟨hge, hle, hbit⟩, by omega⟩
  · rw [EventMap.removePhase, if_neg hvalid]
    refine hfollows.withPhases (fun other => ?_) hfollows.phase_lt
    rw [Set.mem_sdiff, Set.mem_singleton_iff, hfollows.phases, and_iff_left_iff_imp]
    omega

theorem update {time : ℕ}
    (hfits : map.time + time < 2 ^ 32) :
    Follows (map.update time) { agenda with time := agenda.time + time } order waiting := by
  refine ⟨hfollows.entries, hfollows.sorted, hfollows.pending, hfollows.stamps,
    hfollows.wellFormed, ?_, hfollows.phases, hfollows.phase_lt⟩
  rw [EventMap.update, uint32_of_lt hfits, hfollows.time]

end

end Follows

end AzerothCore.EventMap

/-! ## Runs of an `EventMap` -/

namespace AzerothCore.EventMap
open List

def Op.WellFormed : Op → Prop
  | .scheduleEvent eventId _ group phase | .rescheduleEvent eventId _ group phase =>
    (1 ≤ eventId ∧ eventId < 2 ^ 16) ∧ group ≤ 8 ∧ phase ≤ 8
  | .delayEvents _ group | .delayEventsToMax _ group => group ≤ 8
  | _ => True

/-- The times an operation computes do not exceed `uint32`. -/
def Fits (map : EventMap) : Op → Prop
  | .scheduleEvent _ time _ _ | .rescheduleEvent _ time _ _ => map.time + time < 2 ^ 32
  | .delayEvents delay group =>
    ∀ found ∈ map.eventMap.entries, group = 0 ∨ inGroup group found.2 = true →
      found.1 + delay < 2 ^ 32
  | .delayEventsToMax delay _ => map.time + delay < 2 ^ 32
  | .update time => map.time + time < 2 ^ 32
  | _ => True

def run (map : EventMap) : List Op → List ℕ × EventMap
  | [] => ([], map)
  | op :: ops =>
    let outcome := run (map.step op).2 ops
    ((map.step op).1.toList ++ outcome.1, outcome.2)

def Admissible (map : EventMap) : List Op → Prop
  | [] => True
  | op :: ops => op.WellFormed ∧ map.Fits op ∧ Admissible (map.step op).2 ops

instance (op : Op) : Decidable op.WellFormed :=
  match op with
  | .scheduleEvent .. | .rescheduleEvent .. =>
    inferInstanceAs (Decidable ((_ ∧ _) ∧ _ ∧ _))
  | .delayEvents .. | .delayEventsToMax .. => inferInstanceAs (Decidable (_ ≤ _))
  | .cancelEvent .. | .cancelEventGroup .. | .setPhase .. | .addPhase ..
  | .removePhase .. | .update .. | .executeEvent => inferInstanceAs (Decidable True)

instance (map : EventMap) (op : Op) : Decidable (map.Fits op) :=
  match op with
  | .scheduleEvent .. | .rescheduleEvent .. | .delayEventsToMax .. | .update .. =>
    inferInstanceAs (Decidable (_ < _))
  | .delayEvents delay group =>
    inferInstanceAs (Decidable (∀ found ∈ map.eventMap.entries,
      group = 0 ∨ inGroup group found.2 = true → found.1 + delay < 2 ^ 32))
  | .cancelEvent .. | .cancelEventGroup .. | .setPhase .. | .addPhase ..
  | .removePhase .. | .executeEvent => inferInstanceAs (Decidable True)

def decideAdmissible : (map : EventMap) → (ops : List Op) → Decidable (map.Admissible ops)
  | _, [] => inferInstanceAs (Decidable True)
  | map, op :: ops =>
    have := decideAdmissible (map.step op).2 ops
    inferInstanceAs (Decidable (_ ∧ _ ∧ _))

instance (map : EventMap) (ops : List Op) : Decidable (map.Admissible ops) :=
  decideAdmissible map ops

open Agenda

variable {map : EventMap} {agenda : Agenda} {order : List Occurrence}

theorem Follows.step (hfollows : Follows map agenda order []) {op : Op}
    (hwell : op.WellFormed) (hfits : map.Fits op) :
    ∃ answer after order', Step agenda op answer after ∧ (map.step op).1 = answer.map answerId ∧
      (∀ event ∈ returned answer.toList, event.WellFormed) ∧
      Follows (map.step op).2 after order' [] := by
  cases op with
  | scheduleEvent eventId time group phase =>
    obtain ⟨order', hnext⟩ := hfollows.scheduleEvent hwell.1 hwell.2.1 hwell.2.2 hfits
    exact ⟨none, _, order', .scheduleEvent, rfl, by simp [returned], hnext⟩
  | rescheduleEvent eventId time group phase =>
    obtain ⟨cancelled, hcancelled⟩ := hfollows.cancelEvent eventId
    obtain ⟨order', hnext⟩ := hcancelled.scheduleEvent hwell.1 hwell.2.1 hwell.2.2 hfits
    exact ⟨none, _, order', .rescheduleEvent, rfl, by simp [returned], hnext⟩
  | cancelEvent eventId =>
    obtain ⟨order', hnext⟩ := hfollows.cancelEvent eventId
    exact ⟨none, _, order', .cancelEvent, rfl, by simp [returned], hnext⟩
  | cancelEventGroup group =>
    obtain ⟨order', hnext⟩ := hfollows.cancelEventGroup group
    exact ⟨none, _, order', .cancelEventGroup, rfl, by simp [returned], hnext⟩
  | delayEvents delay group =>
    obtain ⟨selected, order', hlists, hnext⟩ := hfollows.delayEvents hwell hfits
    exact ⟨none, _, order', .delayEvents hlists, rfl, by simp [returned], hnext⟩
  | delayEventsToMax delay group =>
    obtain ⟨selected, order', hlists, hnext⟩ := hfollows.delayEventsToMax hwell hfits
    exact ⟨none, _, order', .delayEventsToMax hlists, rfl, by simp [returned], hnext⟩
  | setPhase phase =>
    obtain ⟨after, hstep, hnext⟩ := hfollows.setPhase phase
    exact ⟨none, after, order, hstep, rfl, by simp [returned], hnext⟩
  | addPhase phase =>
    obtain ⟨after, hstep, hnext⟩ := hfollows.addPhase phase
    exact ⟨none, after, order, hstep, rfl, by simp [returned], hnext⟩
  | removePhase phase =>
    obtain ⟨after, hstep, hnext⟩ := hfollows.removePhase phase
    exact ⟨none, after, order, hstep, rfl, by simp [returned], hnext⟩
  | update time => exact ⟨none, _, order, .update, rfl, by simp [returned], hfollows.update hfits⟩
  | executeEvent =>
    obtain ⟨answer, after, order', hstep, hanswer, hvalid, hnext⟩ := hfollows.executeEvent
    refine ⟨some answer, after, order', hstep, congrArg some hanswer, ?_, hnext⟩
    simpa [returned, eq_comm] using hvalid

theorem Follows.run (hfollows : Follows map agenda order []) {previous ops : List Op}
    {answers : List (Option Occurrence)} (hrun : Run previous answers agenda)
    (hops : map.Admissible ops) :
    ∃ answers' agenda' order', Run (previous ++ ops) (answers ++ answers') agenda' ∧
      (map.run ops).1 = answers'.map answerId ∧
      (∀ event ∈ returned answers', event.WellFormed) ∧
      Follows (map.run ops).2 agenda' order' [] := by
  induction ops generalizing map agenda order previous answers with
  | nil =>
    exact ⟨[], agenda, order, by simpa using hrun, rfl, by simp [returned], hfollows⟩
  | cons op ops ih =>
    obtain ⟨hwell, hfits, hrest⟩ := hops
    obtain ⟨answer, after, order', hstep, hanswer, hvalid, hnext⟩ := hfollows.step hwell hfits
    obtain ⟨answers', agenda', final, hrun', houtput, hvalid', hfinal⟩ :=
      ih hnext (hrun.step hstep) hrest
    refine ⟨answer.toList ++ answers', agenda', final, ?_, ?_, ?_, hfinal⟩
    · simpa [append_assoc] using hrun'
    · rw [EventMap.run, houtput, hanswer, map_append]
      cases answer <;> rfl
    · intro event hevent
      rw [returned, filterMap_append, mem_append] at hevent
      exact hevent.elim (hvalid event) (hvalid' event)

/-- What `ExecuteEvent` answers in any admissible sequence of operations is what
the agenda hands out, no occurrence twice, and the store holds what is pending. -/
theorem run_refines_agenda (ops : List Op) (hops : init.Admissible ops) :
    ∃ answers agenda order, Run ops answers agenda ∧ (init.run ops).1 = answers.map answerId ∧
      ((returned answers).map Occurrence.serial).Nodup ∧
      (∀ event ∈ returned answers, event.WellFormed) ∧
      (init.run ops).2.eventMap.entries = order.map entry ∧
      agenda.Lists (fun _ => True) order := by
  obtain ⟨answers, agenda, order, hrun, hanswers, hvalid, hfollows⟩ :=
    init_follows.run Run.init hops
  refine ⟨answers, agenda, order, hrun, hanswers, hrun.distinct.returned_nodup,
    hvalid, hfollows.entries, hfollows.sorted, fun event => ?_⟩
  simp [hfollows.mem_order]

theorem run_refines_agenda_delayed :
    let ops : List Op := [.scheduleEvent 1 5 1 0, .scheduleEvent 2 5 0 2,
      .scheduleEvent 3 3 0 0, .delayEvents 4 1, .setPhase 1, .update 10, .executeEvent,
      .executeEvent, .executeEvent]
    (init.run ops).1 = [3, 1, 0] ∧ ∃ answers agenda order, Run ops answers agenda ∧
        (init.run ops).1 = answers.map answerId ∧
        ((returned answers).map Occurrence.serial).Nodup ∧
        (∀ event ∈ returned answers, event.WellFormed) ∧
        (init.run ops).2.eventMap.entries = order.map entry ∧
        agenda.Lists (fun _ => True) order :=
  ⟨by decide, run_refines_agenda _ (by decide)⟩

end AzerothCore.EventMap
