import AzerothCore.Utilities.EventMap

/-!
# `EventMap::DelayEventsToMax`

The loop walks over the store with an iterator. An event that is due too early is
scheduled anew, its old entry is erased, and the walk begins again in the store that
has just grown. The loop ends, and it moves the selected entries to the limit and
nothing else.
-/

namespace AzerothCore.EventMap
open List Nat

/-- The loop of `DelayEventsToMax` with its iterator; `none` when `fuel` iterations
are not enough. -/
def DelayEventsToMax (delay group : ℕ) : ℕ → ℕ → EventMap → Option EventMap
  | 0, _, _ => none
  | fuel + 1, itr, map =>
    match map.eventMap.entries[itr]? with
    | none => some map
    | some entry =>
      if dueBefore (uint32 (map.time + delay)) group entry then
        let scheduled := map.scheduleEvent entry.2 delay 0 0
        DelayEventsToMax delay group fuel 0
          { scheduled with eventMap := scheduled.eventMap.eraseAt itr }
      else DelayEventsToMax delay group fuel (itr + 1) map

def movedTo (limit group : ℕ) (store : Multimap ℕ ℕ) : Multimap ℕ ℕ :=
  (store.filter fun entry => ¬ dueBefore limit group entry).insertAll
    ((store.entries.filter (dueBefore limit group)).map fun entry => (limit, entry.2))

variable {map : EventMap} {delay group limit itr : ℕ} {entry : ℕ × ℕ}
  {store : Multimap ℕ ℕ} {front rest : List (ℕ × ℕ)}

theorem dueBefore_limit (limit group data : ℕ) : dueBefore limit group (limit, data) = false := by
  simp [dueBefore]

theorem le_of_dueBefore (hdue : dueBefore limit group entry = true) : entry.1 ≤ limit := by
  rw [dueBefore, decide_eq_true_eq] at hdue
  exact hdue.1.le

section

variable (hentries : store.entries = front ++ entry :: rest)
include hentries

theorem front_le
    (hdue : dueBefore limit group entry = true) : ∀ other ∈ front, other.1 ≤ limit := by
  have hsorted := store.sorted
  rw [hentries, pairwise_append] at hsorted
  intro other hother
  exact (hsorted.2.2 other hother entry mem_cons_self).trans (le_of_dueBefore hdue)

theorem entries_move (hdue : dueBefore limit group entry = true) :
    ((store.insert limit entry.2).eraseAt front.length).entries =
      front ++ Multimap.insertList limit entry.2 rest := by
  have hentry : ¬ limit < entry.1 := not_lt.mpr (le_of_dueBefore hdue)
  rw [Multimap.entries_eraseAt, Multimap.entries_insert, hentries,
    Multimap.insertList_append_of_le (front_le hentries hdue), Multimap.insertList,
    if_neg hentry, eraseIdx_append_of_length_le (le_refl _), Nat.sub_self,
    eraseIdx_cons_zero]

section

variable (hfront : ∀ other ∈ front, dueBefore limit group other = false) (hdue : dueBefore limit group entry = true)
include hfront hdue

theorem eraseAt_eq_eraseFirst : (store.insert limit entry.2).eraseAt front.length =
      (store.insert limit entry.2).eraseFirst (dueBefore limit group) := by
  have hnew := dueBefore_limit limit group entry.2
  apply Multimap.ext_entries
  rw [entries_move hentries hdue, Multimap.entries_eraseFirst, Multimap.entries_insert,
    Multimap.eraseP_insertList hnew fun other _ hother => le_of_dueBefore hother, hentries,
    eraseP_append_right _ (by simpa using hfront), eraseP_cons_of_pos hdue,
    Multimap.insertList_append_of_le (front_le hentries hdue)]

theorem movedTo_move : movedTo limit group ((store.insert limit entry.2).eraseAt front.length) =
      movedTo limit group store := by
  have hnew := dueBefore_limit limit group entry.2
  have hnone : front.filter (dueBefore limit group) = [] := by
    rw [filter_eq_nil_iff]
    intro other hother
    rw [hfront other hother]
    exact Bool.false_ne_true
  have hall : front.filter (fun entry => ¬ dueBefore limit group entry) = front := by
    rw [filter_eq_self]
    intro other hother
    simp [hfront other hother]
  have hmoved : ((store.insert limit entry.2).eraseAt front.length).entries.filter
      (dueBefore limit group) = rest.filter (dueBefore limit group) := by
    rw [entries_move hentries hdue, filter_append, hnone, nil_append,
      Multimap.filter_insertList_of_neg hnew]
  have hkept : ((store.insert limit entry.2).eraseAt front.length).filter
      (fun entry => ¬ dueBefore limit group entry) =
        (store.filter fun entry => ¬ dueBefore limit group entry).insert limit entry.2 := by
    have hsorted := store.sorted
    rw [hentries, pairwise_append, pairwise_cons] at hsorted
    apply Multimap.ext_entries
    rw [Multimap.entries_filter, entries_move hentries hdue, Multimap.entries_insert,
      Multimap.entries_filter, hentries, filter_append, filter_append, hall,
      Multimap.filter_insertList_of_pos (by simp [hnew]) hsorted.2.1.2,
      Multimap.insertList_append_of_le (front_le hentries hdue),
      filter_cons_of_neg (by simp [hdue])]
  rw [movedTo, hkept, hmoved, movedTo, hentries, filter_append, hnone, nil_append,
    filter_cons_of_pos hdue, map_cons, Multimap.insertAll_cons]

end

end

theorem movedTo_of_forall (hnone : ∀ other ∈ store.entries, dueBefore limit group other = false) :
    movedTo limit group store = store := by
  have hfilter : store.entries.filter (dueBefore limit group) = [] := by
    rw [filter_eq_nil_iff]
    intro other hother
    rw [hnone other hother]
    exact Bool.false_ne_true
  rw [movedTo, hfilter, map_nil, Multimap.insertAll_nil]
  apply Multimap.ext_entries
  rw [Multimap.entries_filter, filter_eq_self]
  intro other hother
  simp [hnone other hother]

theorem length_move (hentries : store.entries = front ++ entry :: rest)
    (hdue : dueBefore limit group entry = true) :
    ((store.insert limit entry.2).eraseAt front.length).entries.length = store.entries.length ∧
      ((store.insert limit entry.2).eraseAt front.length).entries.countP (dueBefore limit group)
        + 1 = store.entries.countP (dueBefore limit group) := by
  have hperm := Multimap.insertList_perm limit entry.2 rest
  have hnew : ¬ dueBefore limit group (limit, entry.2) = true := by
    rw [dueBefore_limit]
    exact Bool.false_ne_true
  rw [entries_move hentries hdue, hentries, length_append, length_append,
    countP_append, countP_append, hperm.length_eq, hperm.countP_eq,
    countP_cons_of_neg hnew, countP_cons_of_pos hdue]
  exact ⟨rfl, Nat.add_assoc _ _ _⟩

theorem scheduleEvent_data (map : EventMap) (data delay : ℕ) : map.scheduleEvent data delay 0 0 =
      { map with eventMap := map.eventMap.insert (uint32 (map.time + delay)) data } := by
  simp [scheduleEvent, packData]

/-- The walk ends: every restart leaves one selected entry less, and between two restarts
the iterator only advances. -/
theorem DelayEventsToMax_eq {fuel : ℕ} (hentries : map.eventMap.entries = front ++ rest)
    (hfront : ∀ other ∈ front, dueBefore (uint32 (map.time + delay)) group other = false)
    (hfuel : map.eventMap.entries.countP (dueBefore (uint32 (map.time + delay)) group) *
      (map.eventMap.entries.length + 1) + rest.length < fuel) :
    DelayEventsToMax delay group fuel front.length map =
      some { map with eventMap := movedTo (uint32 (map.time + delay)) group map.eventMap } := by
  induction fuel generalizing map front rest with
  | zero => exact absurd hfuel (Nat.not_lt_zero _)
  | succ fuel ih =>
    cases rest with
    | nil =>
      rw [append_nil] at hentries
      have hend : map.eventMap.entries[front.length]? = none := by
        rw [hentries, List.getElem?_eq_none_iff]
      rw [DelayEventsToMax, hend]
      rw [movedTo_of_forall]
      rwa [hentries]
    | cons entry rest =>
      have hentry : map.eventMap.entries[front.length]? = some entry := by
        rw [hentries, List.getElem?_append_right (le_refl _), Nat.sub_self, List.getElem?_cons_zero]
      rw [DelayEventsToMax, hentry]
      dsimp only
      cases hdue : dueBefore (uint32 (map.time + delay)) group entry with
      | false =>
        have hnext := @ih map (front ++ [entry]) rest
          (by rw [hentries, append_assoc, singleton_append])
          (by
            intro other hother
            rcases mem_append.mp hother with hbefore | hlast
            · exact hfront other hbefore
            · rwa [mem_singleton.mp hlast])
          (by
            rw [length_cons] at hfuel
            omega)
        rw [length_append, length_singleton] at hnext
        rw [if_neg Bool.false_ne_true, hnext]
      | true =>
        obtain ⟨hlen, hcount⟩ := length_move hentries hdue
        rw [if_pos rfl, scheduleEvent_data]
        have hnext := @ih
          { map with
            eventMap := (map.eventMap.insert (uint32 (map.time + delay)) entry.2).eraseAt
              front.length } [] _ (nil_append _).symm
          nofun
          (by
            dsimp only
            rw [hlen]
            rw [← hcount, succ_mul] at hfuel
            omega)
        rw [length_nil] at hnext
        rw [hnext]
        rw [movedTo_move hentries hfront hdue]

theorem delayToMaxLoop_eq {fuel : ℕ}
    (hfuel : map.eventMap.entries.countP (dueBefore (uint32 (map.time + delay)) group) ≤ fuel) :
    delayToMaxLoop delay group fuel map =
      { map with eventMap := movedTo (uint32 (map.time + delay)) group map.eventMap } := by
  induction fuel generalizing map with
  | zero =>
    rw [le_zero, countP_eq_zero] at hfuel
    rw [delayToMaxLoop, movedTo_of_forall]
    intro other hother
    simpa using hfuel other hother
  | succ fuel ih =>
    rw [delayToMaxLoop]
    rcases hfind : map.eventMap.entries.find? (dueBefore (uint32 (map.time + delay)) group) with _ | entry
    · rw [movedTo_of_forall]
      intro other hother
      simpa using List.find?_eq_none.mp hfind other hother
    obtain ⟨hdue, front, rest, hentries, hfront⟩ := List.find?_eq_some_iff_append.mp hfind
    have hnot : ∀ other ∈ front, dueBefore (uint32 (map.time + delay)) group other = false :=
      fun other hother => by simpa using hfront other hother
    dsimp only
    rw [scheduleEvent_data, ← eraseAt_eq_eraseFirst hentries hnot hdue]
    rw [ih]
    · rw [movedTo_move hentries hnot hdue]
    · dsimp only
      have hcount := (length_move hentries hdue).2
      omega

theorem delayEventsToMax_eq (map : EventMap) (delay group : ℕ) : map.delayEventsToMax delay group =
      { map with eventMap := movedTo (uint32 (map.time + delay)) group map.eventMap } :=
  delayToMaxLoop_eq countP_le_length

theorem movedTo_perm (limit group : ℕ) (store : Multimap ℕ ℕ) :
    (movedTo limit group store).entries.Perm
      ((store.entries.filter fun entry => ¬ dueBefore limit group entry) ++
        (store.entries.filter (dueBefore limit group)).map fun entry => (limit, entry.2)) :=
  Multimap.insertAll_perm _ _

theorem data_movedTo (limit group : ℕ) (store : Multimap ℕ ℕ) :
    ((movedTo limit group store).entries.map Prod.snd).Perm (store.entries.map Prod.snd) := by
  have hmoved := (movedTo_perm limit group store).map Prod.snd
  rw [map_append, map_map] at hmoved
  have hsplit := (filter_append_perm (dueBefore limit group) store.entries).map Prod.snd
  rw [map_append] at hsplit
  have hnot : (store.entries.filter fun entry => ¬ dueBefore limit group entry) =
      store.entries.filter fun entry => !dueBefore limit group entry := by
    simp
  rw [hnot] at hmoved
  exact hmoved.trans (perm_append_comm.trans hsplit)

def ofGroup (group : ℕ) (entry : ℕ × ℕ) : Bool :=
  group = 0 ∨ inGroup group entry.2

theorem dueBefore_iff :
    dueBefore limit group entry = true ↔ entry.1 < limit ∧ ofGroup group entry = true := by
  rw [dueBefore, ofGroup, decide_eq_true_eq, decide_eq_true_eq]

/-- What `DelayEventsToMax` leaves of a store: the same data, the events outside the group
and those due at the limit or later where they were, and none of the group before it. -/
structure DelayedToMax (map : EventMap) (delay group : ℕ) (result : EventMap) : Prop where
  data : (result.eventMap.entries.map Prod.snd).Perm (map.eventMap.entries.map Prod.snd)
  outside : (result.eventMap.entries.filter fun entry => ¬ ofGroup group entry) =
    map.eventMap.entries.filter fun entry => ¬ ofGroup group entry
  kept : (map.eventMap.entries.filter fun entry =>
    ¬ ofGroup group entry ∨ map.time + delay ≤ entry.1).Sublist result.eventMap.entries
  due : ∀ entry ∈ result.eventMap.entries, ofGroup group entry → map.time + delay ≤ entry.1
  rest : result = { map with eventMap := result.eventMap }

theorem delayedToMax_movedTo (hfits : map.time + delay < 2 ^ 32) : DelayedToMax map delay group
      { map with eventMap := movedTo (uint32 (map.time + delay)) group map.eventMap } := by
  rw [uint32_of_lt hfits]
  constructor
  · exact data_movedTo (map.time + delay) group map.eventMap
  · have hmoved : ∀ entry ∈ (map.eventMap.entries.filter (dueBefore (map.time + delay) group)).map
        (fun entry => (map.time + delay, entry.2)), (¬ ofGroup group entry : Bool) = false := by
      intro entry hentry
      obtain ⟨old, hold, rfl⟩ := mem_map.mp hentry
      have hgroup := (dueBefore_iff.mp (mem_filter.mp hold).2).2
      have hsame : ofGroup group (map.time + delay, old.2) = ofGroup group old := rfl
      rw [hsame, hgroup]
      rfl
    rw [movedTo, Multimap.filter_insertAll_of_neg _ hmoved, Multimap.entries_filter, filter_filter]
    apply filter_congr
    intro entry _
    by_cases hgroup : ofGroup group entry = true
    · simp [hgroup]
    have hdue : ¬ dueBefore (map.time + delay) group entry = true :=
      fun hdue => hgroup (dueBefore_iff.mp hdue).2
    simp [hgroup, hdue]
  · have hkept : (map.eventMap.entries.filter fun entry =>
        ¬ ofGroup group entry ∨ map.time + delay ≤ entry.1) =
        map.eventMap.entries.filter fun entry => ¬ dueBefore (map.time + delay) group entry := by
      apply filter_congr
      intro entry _
      rw [decide_eq_decide, dueBefore_iff, not_and_or, not_lt, or_comm]
    rw [hkept]
    exact Multimap.sublist_insertAll (map.eventMap.filter _) _
  · intro entry hentry hgroup
    rcases mem_append.mp ((movedTo_perm _ _ _).mem_iff.mp hentry) with hkept | hmoved
    · have hdue := (mem_filter.mp hkept).2
      rw [decide_eq_true_eq, dueBefore_iff] at hdue
      exact not_lt.mp fun hlt => hdue ⟨hlt, hgroup⟩
    · obtain ⟨old, -, rfl⟩ := mem_map.mp hmoved
      exact le_refl _
  · rfl

/-- The loop ends, for every store, timer, delay and group; whatever number of iterations
it is given beyond that, it is `delayEventsToMax`, and it moves the events due too early. -/
theorem DelayEventsToMax_terminates (map : EventMap) (delay group : ℕ)
    (hfits : map.time + delay < 2 ^ 32) :
    ∃ bound, (∀ fuel ≥ bound,
        DelayEventsToMax delay group fuel 0 map = some (map.delayEventsToMax delay group)) ∧
      DelayedToMax map delay group (map.delayEventsToMax delay group) := by
  rw [delayEventsToMax_eq]
  constructor
  · constructor
    · intro fuel hfuel
      have hwalk := @DelayEventsToMax_eq map delay group [] map.eventMap.entries fuel
        (nil_append _).symm nofun
        (lt_of_succ_le hfuel)
      rwa [length_nil] at hwalk
    · exact delayedToMax_movedTo hfits

/-- Two events of group 1 at 5 and 20, one of group 2 at 7: a delay to 10 moves the first. -/
theorem DelayEventsToMax_threeEvents :
    let map := ((init.scheduleEvent 1 5 1 0).scheduleEvent 2 20 1 0).scheduleEvent 3 7 2 0
    ∃ bound, (∀ fuel ≥ bound, DelayEventsToMax 10 1 fuel 0 map = some (map.delayEventsToMax 10 1)) ∧
      DelayedToMax map 10 1 (map.delayEventsToMax 10 1) :=
  DelayEventsToMax_terminates _ 10 1 (by decide)

end AzerothCore.EventMap
