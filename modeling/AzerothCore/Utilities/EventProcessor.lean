import AzerothCore.Collections.Multimap
import AzerothCore.Collections.StdMap
import Mathlib.Order.Nat

/-!
# `EventProcessor`

The queue of delayed events of an object. Events live on the heap and are named
by the order of their construction, so a name is never used again; a freed event
has left the heap. The virtual methods of an event answer whatever they like at
each operation, and what is called on the events is recorded.

`none` stands for a failed `ASSERT` or for a call on a freed event. Times are
milliseconds in a `uint64` that does not wrap.
-/

namespace AzerothCore

/-- `BasicEvent::AbortState`. -/
inductive AbortState where
  | running
  | abortScheduled
  | aborted
  deriving DecidableEq

structure BasicEvent where
  abortState : AbortState
  addTime : ℕ
  execTime : ℕ
  eventGroup : ℕ
  deriving DecidableEq

namespace BasicEvent

def init : BasicEvent := ⟨.running, 0, 0, 0⟩

def scheduleAbort (event : BasicEvent) : Option BasicEvent :=
  if event.abortState = .running then some { event with abortState := .abortScheduled }
  else none

def setAborted (event : BasicEvent) : Option BasicEvent :=
  if event.abortState = .aborted then none
  else some { event with abortState := .aborted }

end BasicEvent

structure EventProcessor where
  time : ℕ
  events : Multimap ℕ ℕ
  heap : StdMap ℕ BasicEvent
  next : ℕ

namespace EventProcessor

def init : EventProcessor := ⟨0, Multimap.empty, StdMap.empty, 0⟩

variable (processor : EventProcessor)

def queue : List ℕ := processor.events.entries.map Prod.snd

/-- What happens to an event: it is added from outside, its abort is scheduled, it
executes (with its answer), is aborted, is put back into the queue by `Update`, or
is deleted (with what it answers to `IsDeletable` at that time). -/
inductive Call where
  | added (event eventGroup : ℕ)
  | scheduleAbort (event : ℕ)
  | execute (event : ℕ) (finished : Bool)
  | abort (event : ℕ)
  | requeue (event : ℕ)
  | delete (event : ℕ) (deletable : Bool)
  deriving DecidableEq

def Call.event : Call → ℕ
  | .added event _ | .scheduleAbort event | .execute event _ | .abort event
  | .requeue event | .delete event _ => event

structure Answers where
  execute : ℕ → Bool
  isDeletable : ℕ → Bool

/-- `new`: the caller constructs an event. -/
def newEvent : EventProcessor :=
  { processor with
    heap := processor.heap.insert processor.next BasicEvent.init
    next := processor.next + 1 }

def calculateTime (offset : ℕ) : ℕ := processor.time + offset

def addEvent (id eTime : ℕ) (setAddtime : Bool)
    (eventGroup : ℕ) : Option EventProcessor :=
  match processor.heap.find? id with
  | none => none
  | some event =>
    some
      { processor with
        heap := processor.heap.insert id
          { event with
            addTime := if setAddtime then processor.time else event.addTime
            execTime := eTime
            eventGroup := eventGroup }
        events := processor.events.insert eTime id }

/-- The body of the loop of `Update` for an event that was taken from the queue. -/
def updateEvent (answers : Answers) (processor : EventProcessor) (id : ℕ) :
    Option (List Call × EventProcessor) :=
  match processor.heap.find? id with
  | none => none
  | some event =>
    if event.abortState = .running then
      if answers.execute id then
        some ([.execute id true, .delete id (answers.isDeletable id)],
          { processor with heap := processor.heap.erase id })
      else some ([.execute id false], processor)
    else
      let aborted : Option (List Call × BasicEvent) :=
        if event.abortState = .abortScheduled then
          event.setAborted.map fun event => ([.abort id], event)
        else some ([], event)
      match aborted with
      | none => none
      | some (calls, event) =>
        if answers.isDeletable id then
          some (calls ++ [.delete id true], { processor with heap := processor.heap.erase id })
        else
          let stored := { processor with heap := processor.heap.insert id event }
          (stored.addEvent id (stored.calculateTime 1) false 0).map fun requeued =>
            (calls ++ [.requeue id], requeued)

/-- The loop of `Update`; `fuel` bounds the events it takes from the queue. -/
def updateLoop (answers : Answers) : ℕ → EventProcessor → Option (List Call × EventProcessor)
  | 0, processor => some ([], processor)
  | fuel + 1, processor =>
    match processor.events.entries with
    | [] => some ([], processor)
    | entry :: _ =>
      if entry.1 ≤ processor.time then
        let popped := { processor with
            events := processor.events.eraseFirst fun _ => true }
        match updateEvent answers popped entry.2 with
        | none => none
        | some (calls, updated) =>
          (updateLoop answers fuel updated).map fun outcome =>
            (calls ++ outcome.1, outcome.2)
      else some ([], processor)

def update (answers : Answers) (pTime : ℕ) : Option (List Call × EventProcessor) :=
  updateLoop answers processor.events.entries.length
    { processor with time := processor.time + pTime }

/-- Aborts an event unless it was aborted before, as `KillAllEvents` and
`CancelEventGroup` do. -/
def abortEvent (heap : StdMap ℕ BasicEvent) (id : ℕ) : Option (List Call × StdMap ℕ BasicEvent) :=
  match heap.find? id with
  | none => none
  | some event =>
    if event.abortState = .aborted then some ([], heap)
    else event.setAborted.map fun aborted => ([.abort id], heap.insert id aborted)

/-- The common loop body of `KillAllEvents` and `CancelEventGroup`: a selected event
is aborted, and deleted unless `keep` says otherwise. The last component tells
whether the event stays in the queue. -/
def killEvent (answers : Answers) (selected : BasicEvent → Bool) (keep : ℕ → Bool)
    (heap : StdMap ℕ BasicEvent) (id : ℕ) :
    Option (List Call × StdMap ℕ BasicEvent × Bool) :=
  match heap.find? id with
  | none => none
  | some event =>
    if selected event then
      (abortEvent heap id).map fun aborted =>
        if keep id then (aborted.1, aborted.2, true)
        else (aborted.1 ++ [.delete id (answers.isDeletable id)], aborted.2.erase id, false)
    else some ([], heap, true)

/-- The loop over the entries in order; the result holds the entries that stay. -/
def killLoop (answers : Answers) (selected : BasicEvent → Bool) (keep : ℕ → Bool) :
    StdMap ℕ BasicEvent → List (ℕ × ℕ) → Option (List Call × StdMap ℕ BasicEvent × List (ℕ × ℕ))
  | heap, [] => some ([], heap, [])
  | heap, entry :: rest =>
    match killEvent answers selected keep heap entry.2 with
    | none => none
    | some (calls, heap, stays) =>
      (killLoop answers selected keep heap rest).map fun outcome =>
        (calls ++ outcome.1, outcome.2.1, if stays then entry :: outcome.2.2 else outcome.2.2)

theorem killLoop_sublist {answers : Answers} {selected : BasicEvent → Bool}
    {keep : ℕ → Bool} {heap : StdMap ℕ BasicEvent} {entries : List (ℕ × ℕ)}
    {outcome : List Call × StdMap ℕ BasicEvent × List (ℕ × ℕ)}
    (hloop : killLoop answers selected keep heap entries = some outcome) :
    outcome.2.2.Sublist entries := by
  induction entries generalizing heap outcome with
  | nil =>
    rw [killLoop, Option.some.injEq] at hloop
    rw [← hloop]
  | cons entry rest ih =>
    rw [killLoop] at hloop
    split at hloop
    · exact absurd hloop (by simp)
    obtain ⟨tail, htail, rfl⟩ := Option.map_eq_some_iff.mp hloop
    split_ifs
    · exact (ih htail).cons_cons entry
    · exact (ih htail).cons entry

/-- The processor after such a loop. -/
def kill (answers : Answers) (selected : BasicEvent → Bool)
    (keep : ℕ → Bool) : Option (List Call × EventProcessor) :=
  match hloop : killLoop answers selected keep processor.heap processor.events.entries with
  | none => none
  | some outcome =>
    some (outcome.1, { processor with
        heap := outcome.2.1
        events := processor.events.ofSublist outcome.2.2 (killLoop_sublist hloop) })

/-- `KillAllEvents(force)`: every event is aborted, and deleted if it is deletable
or the caller forces it. -/
def killAllEvents (answers : Answers) (force : Bool) : Option (List Call × EventProcessor) :=
  processor.kill answers (fun _ => true) fun id => !force && !answers.isDeletable id

/-- `CancelEventGroup(group)`: the events of the group are aborted and deleted. -/
def cancelEventGroup (answers : Answers) (group : ℕ) : Option (List Call × EventProcessor) :=
  processor.kill answers (fun event => event.eventGroup = group) fun _ => false

inductive Op where
  | newEvent
  | addEvent (event eTime : ℕ) (setAddtime : Bool) (eventGroup : ℕ)
  | scheduleAbort (event : ℕ)
  | update (answers : Answers) (pTime : ℕ)
  | killAllEvents (answers : Answers) (force : Bool)
  | cancelEventGroup (answers : Answers) (group : ℕ)

/-- One operation. The owner of an event adds it only while it is not queued, and
schedules the abort of a queued event only. -/
def step : Op → Option (List Call × EventProcessor)
  | .newEvent => some ([], processor.newEvent)
  | .addEvent event eTime setAddtime eventGroup =>
    if event ∈ processor.queue then none
    else
      (processor.addEvent event eTime setAddtime eventGroup).map fun added =>
        ([.added event eventGroup], added)
  | .scheduleAbort event =>
    if event ∈ processor.queue then
      ((processor.heap.find? event).bind BasicEvent.scheduleAbort).map fun scheduled =>
        ([.scheduleAbort event], { processor with heap := processor.heap.insert event scheduled })
    else none
  | .update answers pTime => processor.update answers pTime
  | .killAllEvents answers force => processor.killAllEvents answers force
  | .cancelEventGroup answers group => processor.cancelEventGroup answers group

def run (processor : EventProcessor) : List Op → Option (List (Op × List Call) × EventProcessor)
  | [] => some ([], processor)
  | op :: ops =>
    match processor.step op with
    | none => none
    | some (calls, after) =>
      (run after ops).map fun outcome => ((op, calls) :: outcome.1, outcome.2)

end EventProcessor

end AzerothCore

/-!
## The life of an event

What the processor owes its events, over whole runs: an event is aborted at most
once, is not executed once its abort was scheduled or performed, and nothing is
called on it after its deletion. The invariant ties this history to the abort
states on the heap.
-/

namespace AzerothCore.EventProcessor
open List Option Nat StdMap

/-- Whether the second call may still come after the first one. -/
def MayPrecede : Call → Call → Prop
  | .delete event _, later => later.event ≠ event
  | .abort event, .abort later => later ≠ event
  | .abort event, .execute later _ => later ≠ event
  | .scheduleAbort event, .execute later _ => later ≠ event
  | _, _ => True

/-- The group in which an event was added last. -/
def addedGroup (id : ℕ) (history : List Call) : Option ℕ :=
  (history.filterMap fun call =>
    match call with
    | .added event group => if event = id then some group else none
    | _ => none).getLast?

variable {id : ℕ}

theorem addedGroup_append_of_ne {history : List Call} {call : Call} (hne : call.event ≠ id) :
    addedGroup id (history ++ [call]) = addedGroup id history := by
  cases call <;> simp [addedGroup, Call.event] at hne ⊢
  simp [hne]

@[simp]
theorem addedGroup_append_added {group : ℕ} {history : List Call} :
    addedGroup id (history ++ [.added id group]) = some group := by
  simp [addedGroup]

theorem addedGroup_append_of_not_added {history : List Call} {call : Call}
    (hcall : ∀ group, call ≠ .added id group) :
    addedGroup id (history ++ [call]) = addedGroup id history := by
  by_cases hne : call.event = id
  · cases call with
    | added event group => exact absurd (hne ▸ rfl) (hcall group)
    | _ => simp [addedGroup]
  · exact addedGroup_append_of_ne hne

/-- What a call does to the abort state of its event. -/
def Transition : Call → AbortState → AbortState → Prop
  | .execute _ _, before, after => before = .running ∧ after = .running
  | .abort _, before, after => before ≠ .aborted ∧ after = .aborted
  | .scheduleAbort _, before, after => before = .running ∧ after = .abortScheduled
  | .added _ _, before, after => after = before
  | .requeue _, before, after => before = .aborted ∧ after = .aborted
  | .delete _ _, _, _ => False

/-- The history agrees with the heap, and the queue holds live events once each,
in the group they were added with. -/
structure Sound (history : List Call) (heap : StdMap ℕ BasicEvent) (next : ℕ)
    (queue : List ℕ) : Prop where
  nodup : queue.Nodup
  alive : ∀ id ∈ queue, id ∈ heap
  fresh : ∀ id ∈ heap, id < next
  known : ∀ call ∈ history, call.event < next
  ordered : history.Pairwise MayPrecede
  freed : ∀ id deletable, .delete id deletable ∈ history → id ∉ heap
  aborted : ∀ id event, heap.find? id = some event →
    (.abort id ∈ history ↔ event.abortState = .aborted)
  requeued : ∀ id, .requeue id ∈ history → .abort id ∈ history
  scheduled : ∀ id event, heap.find? id = some event → .scheduleAbort id ∈ history →
    event.abortState ≠ .running
  group : ∀ id ∈ queue, ∀ event, heap.find? id = some event →
    addedGroup id history = some event.eventGroup ∨ .requeue id ∈ history

namespace Sound

variable {history : List Call} {heap heap' : StdMap ℕ BasicEvent} {next : ℕ}
  {queue queue' : List ℕ}

variable {event event' : BasicEvent}

section

variable (hsound : Sound history heap next queue)
include hsound

theorem not_aborted_of_running
    (hfind : heap.find? id = some event) (hstate : event.abortState = .running) :
    .abort id ∉ history := by
  intro habort
  have haborted := (hsound.aborted id event hfind).mp habort
  rw [hstate] at haborted
  exact absurd haborted (by decide)

theorem mayPrecede (call : Call)
    (hfind : heap.find? call.event = some event)
    (hexecute : ∀ id finished, call = .execute id finished → event.abortState = .running)
    (habort : ∀ id, call = .abort id → event.abortState ≠ .aborted) :
    ∀ earlier ∈ history, MayPrecede earlier call := by
  intro earlier hearlier
  cases earlier with
  | delete id deletable =>
    intro heq
    exact hsound.freed id deletable hearlier (heq ▸ mem_of_find? hfind)
  | abort id =>
    cases call with
    | abort later =>
      rintro rfl
      exact habort _ rfl ((hsound.aborted _ event hfind).mp hearlier)
    | execute later finished =>
      rintro rfl
      exact hsound.not_aborted_of_running hfind (hexecute _ _ rfl) hearlier
    | _ => trivial
  | scheduleAbort id =>
    cases call with
    | execute later finished =>
      rintro rfl
      exact hsound.scheduled _ event hfind hearlier (hexecute _ _ rfl)
    | _ => trivial
  | _ => trivial

theorem record (call : Call)
    (hfind : heap.find? call.event = some event)
    (hheap : ∀ id, heap'.find? id = if call.event = id then some event' else heap.find? id)
    (htrans : Transition call event.abortState event'.abortState) (hnodup : queue'.Nodup)
    (hqueue : ∀ id ∈ queue', id = call.event ∨ id ∈ queue)
    (hgroup : call.event ∈ queue' →
      addedGroup call.event (history ++ [call]) = some event'.eventGroup ∨
        .requeue call.event ∈ history ++ [call]) :
    Sound (history ++ [call]) heap' next queue' := by
  have hmem : ∀ id, id ∈ heap' ↔ id ∈ heap := by
    intro id
    simp only [mem_iff_find?, hheap]
    by_cases heq : call.event = id
    · subst heq
      simp [hfind]
    · simp [heq]
  have hnotDelete : ∀ id deletable, call ≠ .delete id deletable := by
    rintro id deletable rfl
    exact htrans
  refine ⟨hnodup, ?_, ?_, ?_, ?_, ?_, ?_, ?_, ?_, ?_⟩
  · intro id hid
    rw [hmem]
    rcases hqueue id hid with rfl | hold
    · exact mem_of_find? hfind
    · exact hsound.alive id hold
  · intro id hid
    exact hsound.fresh id ((hmem id).mp hid)
  · intro other hother
    rcases mem_append.mp hother with hold | hnew
    · exact hsound.known other hold
    · rw [mem_singleton.mp hnew]
      exact hsound.fresh _ (mem_of_find? hfind)
  · rw [pairwise_append]
    refine ⟨hsound.ordered, pairwise_singleton _ _, ?_⟩
    intro earlier hearlier later hlater
    rw [mem_singleton.mp hlater]
    refine hsound.mayPrecede call hfind ?_ ?_ earlier hearlier
    · rintro id finished rfl
      exact htrans.1
    · rintro id rfl
      exact htrans.1
  · intro id deletable hdelete
    rw [hmem]
    rcases mem_append.mp hdelete with hold | hnew
    · exact hsound.freed id deletable hold
    · exact absurd (mem_singleton.mp hnew).symm (hnotDelete id deletable)
  · intro id found hfound
    rw [hheap] at hfound
    rw [mem_append, mem_singleton]
    by_cases heq : call.event = id
    · rw [if_pos heq, Option.some.injEq] at hfound
      subst hfound
      rw [hsound.aborted id event (heq ▸ hfind)]
      cases call with
      | execute | scheduleAbort | requeue => simp [htrans.1, htrans.2]
      | abort other =>
        have hsame : id = other := heq.symm
        simp [htrans.2, hsame]
      | added other group =>
        have hsame : event'.abortState = event.abortState := htrans
        simp [hsame]
      | delete other deletable => exact htrans.elim
    · rw [if_neg heq] at hfound
      have hnot : .abort id ≠ call := fun hcall => heq (hcall ▸ rfl)
      rw [hsound.aborted id found hfound]
      simp [hnot]
  · intro id hrequeue
    rw [mem_append]
    rcases mem_append.mp hrequeue with hold | hnew
    · exact .inl (hsound.requeued id hold)
    have hcall := mem_singleton.mp hnew
    rw [← hcall] at hfind htrans
    exact .inl ((hsound.aborted id event hfind).mpr htrans.1)
  · intro id found hfound hsched
    rw [hheap] at hfound
    by_cases heq : call.event = id
    · rw [if_pos heq, Option.some.injEq] at hfound
      subst hfound
      rcases mem_append.mp hsched with hold | hnew
      · have hbefore := hsound.scheduled _ event hfind (heq ▸ hold)
        cases call with
        | execute | scheduleAbort => exact absurd htrans.1 hbefore
        | abort | requeue => rw [htrans.2]; decide
        | added other group => rw [htrans]; exact hbefore
        | delete other deletable => exact htrans.elim
      · rw [← mem_singleton.mp hnew] at htrans
        rw [htrans.2]
        decide
    · rw [if_neg heq] at hfound
      rcases mem_append.mp hsched with hold | hnew
      · exact hsound.scheduled id found hfound hold
      · exact absurd (congrArg Call.event (mem_singleton.mp hnew)).symm heq
  · intro id hid found hfound
    rw [hheap] at hfound
    by_cases heq : call.event = id
    · subst heq
      rw [if_pos rfl, Option.some.injEq] at hfound
      subst hfound
      exact hgroup hid
    · rw [if_neg heq] at hfound
      rw [addedGroup_append_of_ne heq]
      have hold := (hqueue id hid).resolve_left (Ne.symm heq)
      rcases hsound.group id hold found hfound with hgroup | hrequeue
      · exact .inl hgroup
      · exact .inr (mem_append_left _ hrequeue)

theorem delete (deletable : Bool) (hid : id ∈ heap)
    (hqueue : id ∉ queue) :
    Sound (history ++ [.delete id deletable]) (heap.erase id) next queue := by
  obtain ⟨event, hfind⟩ := mem_iff_find?.mp hid
  have hold : ∀ other found, (heap.erase id).find? other = some found →
      heap.find? other = some found := by
    intro other found hfound
    rw [find?_erase] at hfound
    split_ifs at hfound
    exact hfound
  refine ⟨hsound.nodup, ?_, ?_, ?_, ?_, ?_, ?_, ?_, ?_, ?_⟩
  · intro other hother
    rw [mem_erase]
    exact ⟨fun heq => hqueue (heq ▸ hother), hsound.alive other hother⟩
  · exact fun other hother => hsound.fresh other (mem_erase.mp hother).2
  · intro call hcall
    rcases mem_append.mp hcall with hbefore | hnew
    · exact hsound.known call hbefore
    · rw [mem_singleton.mp hnew]
      exact hsound.fresh id hid
  · rw [pairwise_append]
    refine ⟨hsound.ordered, pairwise_singleton _ _, ?_⟩
    intro earlier hearlier later hlater
    rw [mem_singleton.mp hlater]
    exact hsound.mayPrecede (.delete id deletable) hfind (by simp) (by simp) earlier hearlier
  · intro other answer hdelete
    rw [mem_erase]
    rcases mem_append.mp hdelete with hbefore | hnew
    · exact fun hmem => hsound.freed other answer hbefore hmem.2
    · cases mem_singleton.mp hnew
      exact fun hmem => hmem.1 rfl
  · intro other found hfound
    simpa using hsound.aborted other found (hold other found hfound)
  · intro other hrequeue
    simpa using hsound.requeued other (by simpa using hrequeue)
  · intro other found hfound hsched
    exact hsound.scheduled other found (hold other found hfound) (by simpa using hsched)
  · intro other hother found hfound
    rw [addedGroup_append_of_not_added (by simp)]
    simpa using hsound.group other hother found (hold other found hfound)

theorem dequeue (hsub : queue'.Sublist queue) : Sound history heap next queue' where
  nodup := hsound.nodup.sublist hsub
  alive id hid := hsound.alive id (hsub.subset hid)
  fresh := hsound.fresh
  known := hsound.known
  ordered := hsound.ordered
  freed := hsound.freed
  aborted := hsound.aborted
  requeued := hsound.requeued
  scheduled := hsound.scheduled
  group id hid := hsound.group id (hsub.subset hid)

theorem call (call : Call)
    (hfind : heap.find? call.event = some event)
    (hheap : ∀ id, heap'.find? id = if call.event = id then some event' else heap.find? id)
    (htrans : Transition call event.abortState event'.abortState)
    (hadded : ∀ group, call ≠ .added call.event group)
    (hgroup : event'.eventGroup = event.eventGroup) :
    Sound (history ++ [call]) heap' next queue := by
  refine hsound.record call hfind hheap htrans hsound.nodup (fun id hid => .inr hid) ?_
  intro hid
  rw [addedGroup_append_of_not_added hadded, hgroup]
  exact (hsound.group _ hid event hfind).imp id (mem_append_left _)

section

variable (hfind : heap.find? id = some event)
include hfind

theorem execute (hstate : event.abortState = .running) (finished : Bool) :
    Sound (history ++ [.execute id finished]) heap next queue := by
  have hheap : ∀ other, heap.find? other =
      if id = other then some event else heap.find? other := by
    intro other
    by_cases heq : id = other
    · rw [if_pos heq, ← heq, hfind]
    · rw [if_neg heq]
  exact hsound.call (.execute id finished) hfind hheap ⟨hstate, hstate⟩ (by simp) rfl

theorem abort (habort : event.setAborted = some event') :
    Sound (history ++ [.abort id]) (heap.insert id event') next queue := by
  simp only [BasicEvent.setAborted, ite_none_left_eq_some, Option.some.injEq] at habort
  obtain ⟨hstate, rfl⟩ := habort
  exact hsound.call (.abort id) hfind (fun other => heap.find?_insert id other _) ⟨hstate, rfl⟩
    (by simp) rfl

theorem scheduleAbort (hschedule : event.scheduleAbort = some event') :
    Sound (history ++ [.scheduleAbort id]) (heap.insert id event') next queue := by
  simp only [BasicEvent.scheduleAbort, ite_none_right_eq_some, Option.some.injEq]
    at hschedule
  obtain ⟨hstate, rfl⟩ := hschedule
  exact hsound.call (.scheduleAbort id) hfind (fun other => heap.find?_insert id other _) ⟨hstate, rfl⟩
    (by simp) rfl

end

/-- `AddEvent` of an event that is not queued, from outside or by `Update`. -/
theorem enqueue (call : Call)
    (hfind : heap.find? call.event = some event)
    (hcall : call = .added call.event event'.eventGroup ∨ call = .requeue call.event)
    (hstate : Transition call event.abortState event'.abortState) (hid : call.event ∉ queue)
    (hqueue : queue'.Perm (call.event :: queue)) :
    Sound (history ++ [call]) (heap.insert call.event event') next queue' := by
  refine hsound.record call hfind (fun other => heap.find?_insert _ other _) hstate ?_ ?_ ?_
  · exact hqueue.nodup_iff.mpr (nodup_cons.mpr ⟨hid, hsound.nodup⟩)
  · intro other hother
    exact mem_cons.mp (hqueue.mem_iff.mp hother)
  · intro _
    rcases hcall with hcall | hcall
    · rw [hcall]
      exact .inl addedGroup_append_added
    · rw [hcall]
      exact .inr (mem_append_right _ (mem_singleton_self _))

theorem newEvent : Sound history (heap.insert next BasicEvent.init) (next + 1) queue := by
  have hnew : next ∉ heap := fun hmem => lt_irrefl _ (hsound.fresh next hmem)
  have hnotKnown : ∀ call ∈ history, call.event ≠ next := fun call hcall =>
    (hsound.known call hcall).ne
  have hold : ∀ id found, (heap.insert next BasicEvent.init).find? id = some found →
      id = next ∨ heap.find? id = some found := by
    intro id found hfound
    rw [find?_insert] at hfound
    split_ifs at hfound with heq
    · exact .inl heq.symm
    · exact .inr hfound
  refine ⟨hsound.nodup, ?_, ?_, ?_, hsound.ordered, ?_, ?_, hsound.requeued, ?_, ?_⟩
  · exact fun id hid => mem_insert.mpr (.inr (hsound.alive id hid))
  · intro id hid
    rcases mem_insert.mp hid with rfl | hbefore
    · exact lt_succ_self _
    · exact lt_succ_of_lt (hsound.fresh id hbefore)
  · exact fun call hcall => lt_succ_of_lt (hsound.known call hcall)
  · intro id deletable hdelete hmem
    rcases mem_insert.mp hmem with rfl | hbefore
    · exact hnotKnown _ hdelete rfl
    · exact hsound.freed id deletable hdelete hbefore
  · intro id found hfound
    rcases hold id found hfound with rfl | hbefore
    · rw [find?_insert_self, Option.some.injEq] at hfound
      subst hfound
      refine iff_of_false (fun habort => hnotKnown _ habort rfl) (by decide)
    · exact hsound.aborted id found hbefore
  · intro id found hfound hsched
    rcases hold id found hfound with rfl | hbefore
    · exact absurd rfl (hnotKnown _ hsched)
    · exact hsound.scheduled id found hbefore hsched
  · intro id hid found hfound
    rcases hold id found hfound with rfl | hbefore
    · exact absurd (hsound.alive _ hid) hnew
    · exact hsound.group id hid found hbefore

end

end Sound

end AzerothCore.EventProcessor

/-! ## Runs of an `EventProcessor` -/

namespace AzerothCore.EventProcessor
open List Option StdMap

variable {history : List Call} {processor : EventProcessor} {answers : Answers}

def Valid (history : List Call) (processor : EventProcessor) : Prop :=
  Sound history processor.heap processor.next processor.queue

/-- The entries the loop of `Update` takes from the queue. -/
def due (processor : EventProcessor) : List (ℕ × ℕ) :=
  processor.events.entries.filter fun entry => entry.1 ≤ processor.time

theorem queue_insert_perm (processor : EventProcessor) (eTime id : ℕ) :
    ((processor.events.insert eTime id).entries.map Prod.snd).Perm (id :: processor.queue) :=
  (Multimap.insertList_perm eTime id processor.events.entries).map Prod.snd

/-- A call leaves no trace of an event that is destroyed while it is not deletable,
unless the event had said that it is finished. -/
def DeletesDeletable (calls : List Call) : Prop :=
  ∀ id, .delete id false ∈ calls → .execute id true ∈ calls

theorem DeletesDeletable.append {left right : List Call} (hleft : DeletesDeletable left)
    (hright : DeletesDeletable right) : DeletesDeletable (left ++ right) := by
  intro id hdelete
  rw [mem_append] at hdelete ⊢
  exact hdelete.imp (hleft id) (hright id)

variable {id : ℕ} {after : EventProcessor}

section

variable (hvalid : Valid history processor)
include hvalid

theorem Valid.requeue {event : BasicEvent}
    (hfind : processor.heap.find? id = some event) (hstate : event.abortState = .aborted)
    (hid : id ∉ processor.queue) :
    ∃ after, processor.addEvent id (processor.calculateTime 1) false 0 = some after ∧
      Valid (history ++ [.requeue id]) after ∧ after.time = processor.time ∧
      after.due.length = processor.due.length := by
  simp only [addEvent, hfind]
  refine ⟨_, rfl, ?_, rfl, ?_⟩
  · exact hvalid.enqueue (.requeue id) hfind (.inr rfl) ⟨hstate, hstate⟩ hid
      (processor.queue_insert_perm _ _)
  · have hperm := (Multimap.insertList_perm (processor.time + 1) id
      processor.events.entries).filter fun entry => entry.1 ≤ processor.time
    simpa [due, calculateTime] using hperm.length_eq

theorem Valid.discard {event : BasicEvent}
    (hfind : processor.heap.find? id = some event) (hrunning : event.abortState ≠ .running) :
    ∃ calls aborted, (if event.abortState = .abortScheduled then
        event.setAborted.map fun event => ([.abort id], event)
      else some ([], event)) = some (calls, aborted) ∧
      aborted.abortState = .aborted ∧ DeletesDeletable calls ∧
      Valid (history ++ calls)
        { processor with heap := processor.heap.insert id aborted } := by
  by_cases hsched : event.abortState = .abortScheduled
  · have haborted : event.setAborted = some { event with abortState := .aborted } := by
      simp [BasicEvent.setAborted, hsched]
    rw [if_pos hsched, haborted]
    exact ⟨_, _, rfl, rfl, by simp [DeletesDeletable], hvalid.abort hfind haborted⟩
  have haborted : event.abortState = .aborted := by
    cases hstate : event.abortState with
    | running => exact absurd hstate hrunning
    | abortScheduled => exact absurd hstate hsched
    | aborted => rfl
  rw [if_neg hsched]
  refine ⟨[], event, rfl, haborted, by simp [DeletesDeletable], ?_⟩
  rw [insert_of_find? hfind, append_nil]
  exact hvalid

theorem Valid.updateEvent (answers : Answers)
    (hlive : id ∈ processor.heap) (hid : id ∉ processor.queue) :
    ∃ calls after, updateEvent answers processor id = some (calls, after) ∧
      Valid (history ++ calls) after ∧ DeletesDeletable calls ∧
      after.time = processor.time ∧ after.due.length = processor.due.length := by
  obtain ⟨event, hfind⟩ := mem_iff_find?.mp hlive
  by_cases hrunning : event.abortState = .running
  · simp only [EventProcessor.updateEvent, hfind, hrunning, if_true]
    by_cases hexecute : answers.execute id = true
    · rw [if_pos hexecute]
      refine ⟨_, _, rfl, ?_, by simp [DeletesDeletable], rfl, rfl⟩
      have hexec := hvalid.execute hfind hrunning true
      rw [append_cons]
      exact hexec.delete _ hlive hid
    · rw [if_neg hexecute]
      exact ⟨_, _, rfl, hvalid.execute hfind hrunning false, by simp [DeletesDeletable], rfl, rfl⟩
  · obtain ⟨calls, aborted, hcalls, hstate, hnone, hnext⟩ := hvalid.discard hfind hrunning
    simp only [EventProcessor.updateEvent, hfind, if_neg hrunning, hcalls]
    have haborted := processor.heap.find?_insert_self id aborted
    by_cases hdeletable : answers.isDeletable id = true
    · rw [if_pos hdeletable]
      refine ⟨_, _, rfl, ?_, hnone.append (by simp [DeletesDeletable]), rfl, rfl⟩
      have hdeleted := Sound.delete hnext true (mem_of_find? haborted) hid
      rwa [erase_insert_self, append_assoc] at hdeleted
    · rw [if_neg hdeletable]
      obtain ⟨after, hadd, hafter, htime, hdue⟩ := hnext.requeue haborted hstate hid
      refine ⟨_, after, by rw [hadd]; rfl, ?_, hnone.append (by simp [DeletesDeletable]), htime,
        hdue⟩
      rwa [← append_assoc]

theorem Valid.updateLoop (answers : Answers) {fuel : ℕ}
    (hfuel : processor.due.length ≤ fuel) :
    ∃ calls after, updateLoop answers fuel processor = some (calls, after) ∧
      Valid (history ++ calls) after ∧ DeletesDeletable calls ∧ after.due = [] := by
  induction fuel generalizing history processor with
  | zero =>
    exact ⟨[], processor, rfl, by rwa [append_nil], by simp [DeletesDeletable],
      length_eq_zero_iff.mp (Nat.le_zero.mp hfuel)⟩
  | succ fuel ih =>
    simp only [EventProcessor.updateLoop]
    rcases hentries : processor.events.entries with _ | ⟨entry, rest⟩
    · exact ⟨[], processor, rfl, by rwa [append_nil], by simp [DeletesDeletable],
        by simp [due, hentries]⟩
    by_cases hdue : entry.1 ≤ processor.time
    · simp only [hdue, if_true]
      let popped := { processor with events := processor.events.eraseFirst fun _ => true }
      have hpopped : popped.events.entries = rest := by
        simp [popped, hentries]
      have hqueue : processor.queue = entry.2 :: popped.queue := by
        simp [queue, hentries, hpopped]
      have hnodup := hvalid.nodup
      rw [hqueue, nodup_cons] at hnodup
      have hnext : Valid history popped := hvalid.dequeue (hqueue ▸ sublist_cons_self _ _)
      have hlive : entry.2 ∈ popped.heap := hvalid.alive entry.2 (hqueue ▸ mem_cons_self)
      obtain ⟨calls, updated, hupdate, hupdated, hdeletes, htime, hlen⟩ :=
        hnext.updateEvent answers hlive hnodup.1
      have hcount : processor.due.length = popped.due.length + 1 := by
        simp [due, hentries, hdue, popped]
      obtain ⟨calls', after, hloop, hafter, hdeletes', hdone⟩ := ih hupdated (by omega)
      refine ⟨calls ++ calls', after, ?_, ?_, hdeletes.append hdeletes', hdone⟩
      · rw [hupdate]
        simp [hloop]
      · rwa [← append_assoc]
    · simp only [hdue, if_false]
      refine ⟨[], processor, rfl, by rwa [append_nil], by simp [DeletesDeletable], ?_⟩
      have hsorted := processor.events.sorted
      rw [hentries, pairwise_cons] at hsorted
      rw [due, hentries, filter_eq_nil_iff]
      intro other hother
      rw [decide_eq_true_eq, not_le]
      rcases mem_cons.mp hother with rfl | hrest
      · exact not_le.mp hdue
      · exact (not_le.mp hdue).trans_le (hsorted.1 other hrest)

end

/-! ## `KillAllEvents` and `CancelEventGroup` -/

section Kill

variable (answers : Answers) (selected : BasicEvent → Bool) (keep : ℕ → Bool)
  {heap : StdMap ℕ BasicEvent} {next : ℕ} {queue : List ℕ}

theorem Sound.abortEvent (hsound : Sound history heap next queue) (hlive : id ∈ heap) :
    ∃ calls heap', abortEvent heap id = some (calls, heap') ∧
      Sound (history ++ calls) heap' next queue ∧ id ∈ heap' ∧
      ∀ call ∈ calls, call = .abort id := by
  obtain ⟨event, hfind⟩ := mem_iff_find?.mp hlive
  by_cases haborted : event.abortState = .aborted
  · refine ⟨[], heap, by simp [EventProcessor.abortEvent, hfind, haborted], ?_, hlive, by simp⟩
    rwa [append_nil]
  · have hset : event.setAborted = some { event with abortState := .aborted } := by
      simp [BasicEvent.setAborted, haborted]
    refine ⟨_, _, by simp only [EventProcessor.abortEvent, hfind, haborted, if_false, hset,
      map_some], hsound.abort hfind hset, mem_insert.mpr (.inl rfl), by simp⟩

theorem Sound.killEvent (hsound : Sound history heap next queue) (hid : id ∈ queue)
    {rest : List ℕ} (hrest : rest.Sublist queue) (hnot : id ∉ rest) :
    ∃ calls heap' stays, killEvent answers selected keep heap id = some (calls, heap', stays) ∧
      Sound (history ++ calls) heap' next (if stays then queue else rest) ∧
      (∀ other deletable, .delete other deletable ∈ calls →
        keep other = false ∧ deletable = answers.isDeletable other) ∧
      ∀ other, .requeue other ∉ calls := by
  obtain ⟨event, hfind⟩ := mem_iff_find?.mp (hsound.alive id hid)
  by_cases hsel : selected event = true
  · obtain ⟨calls, heap', habort, hsound', hlive, hcalls⟩ := hsound.abortEvent (hsound.alive id hid)
    by_cases hkeep : keep id = true
    · refine ⟨calls, heap', true, by simp [EventProcessor.killEvent, hfind, hsel, habort,
        hkeep], hsound', ?_, ?_⟩
      · intro other deletable hdelete
        exact absurd (hcalls _ hdelete) (by simp)
      · intro other hrequeue
        exact absurd (hcalls _ hrequeue) (by simp)
    refine ⟨calls ++ [.delete id (answers.isDeletable id)], heap'.erase id, false,
      by simp [EventProcessor.killEvent, hfind, hsel, habort, hkeep], ?_, ?_, ?_⟩
    · rw [← append_assoc]
      exact (hsound'.dequeue hrest).delete _ hlive hnot
    · intro other deletable hdelete
      rcases mem_append.mp hdelete with hold | hnew
      · exact absurd (hcalls _ hold) (by simp)
      · cases mem_singleton.mp hnew
        exact ⟨by simpa using hkeep, rfl⟩
    · intro other hrequeue
      rcases mem_append.mp hrequeue with hold | hnew
      · exact absurd (hcalls _ hold) (by simp)
      · exact absurd (mem_singleton.mp hnew) (by simp)
  · refine ⟨[], heap, true, by simp [EventProcessor.killEvent, hfind, hsel], ?_, by simp, by simp⟩
    rwa [append_nil]

theorem Sound.killLoop (before : List ℕ) {entries : List (ℕ × ℕ)}
    (hsound : Sound history heap next (before ++ entries.map Prod.snd)) :
    ∃ outcome, killLoop answers selected keep heap entries = some outcome ∧
      Sound (history ++ outcome.1) outcome.2.1 next (before ++ outcome.2.2.map Prod.snd) ∧
      (∀ other deletable, .delete other deletable ∈ outcome.1 →
        keep other = false ∧ deletable = answers.isDeletable other) ∧
      ∀ other, .requeue other ∉ outcome.1 := by
  induction entries generalizing history heap before with
  | nil =>
    refine ⟨_, rfl, ?_, by simp, by simp⟩
    rwa [append_nil]
  | cons entry rest ih =>
    have hnodup := hsound.nodup
    rw [map_cons, nodup_middle, nodup_cons] at hnodup
    obtain ⟨calls, heap', stays, hkill, hsound', hdeletes, hrequeues⟩ :=
      hsound.killEvent answers selected keep (mem_append_right _ mem_cons_self)
        ((sublist_cons_self entry.2 (rest.map Prod.snd)).append_left before) hnodup.1
    cases stays with
    | true =>
      have hpassed : Sound (history ++ calls) heap' next
          ((before ++ [entry.2]) ++ rest.map Prod.snd) := by
        rw [append_assoc]
        exact hsound'
      obtain ⟨outcome, hloop, hafter, hdeletes', hrequeues'⟩ := ih _ hpassed
      refine ⟨(calls ++ outcome.1, outcome.2.1, entry :: outcome.2.2), ?_, ?_, ?_, ?_⟩
      · simp [EventProcessor.killLoop, hkill, hloop]
      · rw [append_assoc, append_assoc] at hafter
        exact hafter
      · intro other deletable hdelete
        rcases mem_append.mp hdelete with hold | hnew
        · exact hdeletes other deletable hold
        · exact hdeletes' other deletable hnew
      · intro other hrequeue
        exact (mem_append.mp hrequeue).elim (hrequeues other) (hrequeues' other)
    | false =>
      obtain ⟨outcome, hloop, hafter, hdeletes', hrequeues'⟩ := ih _ hsound'
      refine ⟨(calls ++ outcome.1, outcome.2.1, outcome.2.2), ?_, ?_, ?_, ?_⟩
      · simp [EventProcessor.killLoop, hkill, hloop]
      · rwa [append_assoc] at hafter
      · intro other deletable hdelete
        rcases mem_append.mp hdelete with hold | hnew
        · exact hdeletes other deletable hold
        · exact hdeletes' other deletable hnew
      · intro other hrequeue
        exact (mem_append.mp hrequeue).elim (hrequeues other) (hrequeues' other)

end Kill

theorem kill_eq {selected : BasicEvent → Bool} {keep : ℕ → Bool}
    {outcome : List Call × StdMap ℕ BasicEvent × List (ℕ × ℕ)}
    (hloop : killLoop answers selected keep processor.heap processor.events.entries =
      some outcome) :
    processor.kill answers selected keep = some (outcome.1, { processor with
        heap := outcome.2.1
        events := processor.events.ofSublist outcome.2.2 (killLoop_sublist hloop) }) := by
  unfold kill
  split
  · next hnone => rw [hloop] at hnone; cases hnone
  next found hfound =>
    rw [hloop, Option.some.injEq] at hfound
    subst hfound
    rfl

theorem Valid.kill (hvalid : Valid history processor) (answers : Answers)
    (selected : BasicEvent → Bool) (keep : ℕ → Bool) :
    ∃ calls after, processor.kill answers selected keep = some (calls, after) ∧
      Valid (history ++ calls) after ∧
      (∀ id deletable, .delete id deletable ∈ calls →
        keep id = false ∧ deletable = answers.isDeletable id) ∧
      ∀ id, .requeue id ∉ calls := by
  obtain ⟨outcome, hloop, hafter, hdeletes, hrequeues⟩ :=
    Sound.killLoop answers selected keep [] hvalid
  exact ⟨outcome.1, _, kill_eq hloop, hafter, hdeletes, hrequeues⟩

structure Permitted (op : Op) (calls : List Call) : Prop where
  destroys : (∀ answers group, op ≠ .cancelEventGroup answers group) →
    ∀ id, .delete id false ∈ calls →
      (∃ answers, op = .killAllEvents answers true) ∨ .execute id true ∈ calls
  requeues : ∀ id, .requeue id ∈ calls → ∃ answers pTime, op = .update answers pTime

theorem Valid.step (hvalid : Valid history processor) {op : Op} {calls : List Call}
    (hstep : processor.step op = some (calls, after)) :
    Valid (history ++ calls) after ∧ Permitted op calls := by
  cases op with
  | newEvent =>
    cases hstep
    rw [append_nil]
    exact ⟨hvalid.newEvent, by simp, by simp⟩
  | addEvent id eTime setAddtime eventGroup =>
    simp only [EventProcessor.step] at hstep
    split_ifs at hstep with hid
    obtain ⟨added, hadd, heq⟩ := map_eq_some_iff.mp hstep
    cases heq
    simp only [addEvent] at hadd
    rcases hfind : processor.heap.find? id with _ | event
    · simp [hfind] at hadd
    simp only [hfind, Option.some.injEq] at hadd
    subst hadd
    exact ⟨hvalid.enqueue (.added id eventGroup) hfind (.inl rfl) rfl hid
      (processor.queue_insert_perm _ _), by simp, by simp⟩
  | scheduleAbort id =>
    simp only [EventProcessor.step] at hstep
    split_ifs at hstep with hid
    obtain ⟨scheduled, hschedule, heq⟩ := map_eq_some_iff.mp hstep
    cases heq
    obtain ⟨event, hfind, hsched⟩ := bind_eq_some_iff.mp hschedule
    exact ⟨hvalid.scheduleAbort hfind hsched, by simp, by simp⟩
  | update answers pTime =>
    have htimed : Valid history { processor with time := processor.time + pTime } := hvalid
    obtain ⟨calls', after', hloop, hafter, hdeletes, -⟩ :=
      htimed.updateLoop answers (length_filter_le _ _)
    have heq : (calls', after') = (calls, after) := some.inj (hloop.symm.trans hstep)
    cases heq
    exact ⟨hafter, fun _ id hdelete => .inr (hdeletes id hdelete), fun _ _ => ⟨answers, pTime, rfl⟩⟩
  | killAllEvents answers force =>
    obtain ⟨calls', after', hkill, hafter, hdeletes, hrequeues⟩ :=
      hvalid.kill answers (fun _ => true) fun id => !force && !answers.isDeletable id
    have heq : (calls', after') = (calls, after) := some.inj (hkill.symm.trans hstep)
    cases heq
    refine ⟨hafter, fun _ id hdelete => .inl ⟨answers, ?_⟩,
      fun id hrequeue => absurd hrequeue (hrequeues id)⟩
    obtain ⟨hkeep, hanswer⟩ := hdeletes id false hdelete
    rw [← hanswer] at hkeep
    cases force with
    | true => rfl
    | false => exact absurd hkeep (by decide)
  | cancelEventGroup answers group =>
    obtain ⟨calls', after', hkill, hafter, -, hrequeues⟩ :=
      hvalid.kill answers (fun event => event.eventGroup = group) fun _ => false
    have heq : (calls', after') = (calls, after) := some.inj (hkill.symm.trans hstep)
    cases heq
    exact ⟨hafter, fun hother => absurd rfl (hother answers group),
      fun id hrequeue => absurd hrequeue (hrequeues id)⟩

theorem init_valid : Valid [] init := by
  refine ⟨nodup_nil, ?_, ?_, ?_, List.Pairwise.nil, ?_, ?_, ?_, ?_, ?_⟩ <;>
    simp [init, queue, Multimap.empty]

def calls (trace : List (Op × List Call)) : List Call := (trace.map Prod.snd).flatten

theorem Valid.run (hvalid : Valid history processor) {ops : List Op}
    {trace : List (Op × List Call)} (hrun : processor.run ops = some (trace, after)) :
    Valid (history ++ calls trace) after ∧ ∀ entry ∈ trace, Permitted entry.1 entry.2 := by
  induction ops generalizing history processor trace with
  | nil =>
    cases hrun
    simpa [calls] using hvalid
  | cons op ops ih =>
    rw [EventProcessor.run] at hrun
    rcases hstep : processor.step op with _ | outcome
    · simp [hstep] at hrun
    rw [hstep] at hrun
    obtain ⟨rest, hrest, heq⟩ := map_eq_some_iff.mp hrun
    cases heq
    obtain ⟨hnext, hpermitted⟩ := hvalid.step hstep
    obtain ⟨hafter, htrace⟩ := ih hnext hrest
    refine ⟨?_, ?_⟩
    · rwa [append_assoc] at hafter
    · intro entry hentry
      rcases mem_cons.mp hentry with rfl | hlater
      · exact hpermitted
      · exact htrace entry hlater

/-- The discipline of every run: the calls come in a permitted order, only
`CancelEventGroup` and a forced `KillAllEvents` destroy an event that is neither
deletable nor finished, no queued event was deleted, and a queued event has the group
it was added with unless `Update` put it back after its abort. -/
theorem run_disciplined (ops : List Op) (trace : List (Op × List Call))
    (processor : EventProcessor) (hrun : init.run ops = some (trace, processor)) :
    (calls trace).Pairwise MayPrecede ∧ (∀ entry ∈ trace, Permitted entry.1 entry.2) ∧
      processor.queue.Nodup ∧
      (∀ id ∈ processor.queue, ∀ deletable, .delete id deletable ∉ calls trace) ∧
      (∀ id ∈ processor.queue, ∃ event, processor.heap.find? id = some event ∧
        (addedGroup id (calls trace) = some event.eventGroup ∨ .requeue id ∈ calls trace)) ∧
      ∀ id, .requeue id ∈ calls trace → .abort id ∈ calls trace := by
  obtain ⟨hvalid, hpermitted⟩ := init_valid.run hrun
  refine ⟨hvalid.ordered, hpermitted, hvalid.nodup, ?_, ?_, hvalid.requeued⟩
  · exact fun id hid deletable hdelete =>
      hvalid.freed id deletable hdelete (hvalid.alive id hid)
  · intro id hid
    obtain ⟨event, hfind⟩ := mem_iff_find?.mp (hvalid.alive id hid)
    exact ⟨event, hfind, hvalid.group id hid event hfind⟩

def stubborn : Answers := ⟨fun _ => true, fun _ => false⟩

def requeued : EventProcessor :=
  ⟨5, Multimap.empty.insert 6 0, StdMap.empty.insert 0 ⟨.aborted, 0, 6, 0⟩, 1⟩

def requeuedOps : List Op :=
  [.newEvent, .addEvent 0 5 true 3, .scheduleAbort 0, .update stubborn 5]

def requeuedTrace : List (Op × List Call) :=
  [(.newEvent, []), (.addEvent 0 5 true 3, [.added 0 3]),
    (.scheduleAbort 0, [.scheduleAbort 0]), (.update stubborn 5, [.abort 0, .requeue 0])]

theorem run_disciplined_requeued :
    init.run requeuedOps = some (requeuedTrace, requeued) ∧ requeued.queue = [0] ∧
      (calls requeuedTrace).Pairwise MayPrecede :=
  ⟨rfl, rfl, (run_disciplined requeuedOps requeuedTrace requeued rfl).1⟩

/-- An event that finishes is destroyed even if it is not deletable, and an aborted
one loses its group when `Update` puts it back. -/
theorem finished_or_requeued : (¬ ∀ ops trace processor, init.run ops = some (trace, processor) →
      ∀ entry ∈ trace, ∀ id, .delete id false ∈ entry.2 →
        ∃ answers, entry.1 = .killAllEvents answers true) ∧
      ¬ ∀ ops trace processor, init.run ops = some (trace, processor) →
        ∀ id ∈ processor.queue, ∀ event, processor.heap.find? id = some event →
          addedGroup id (calls trace) = some event.eventGroup := by
  constructor
  · intro hclaim
    obtain ⟨answers, hop⟩ := hclaim [.newEvent, .addEvent 0 5 true 3, .update stubborn 5]
      [(.newEvent, []), (.addEvent 0 5 true 3, [.added 0 3]),
        (.update stubborn 5, [.execute 0 true, .delete 0 false])]
      ⟨5, Multimap.empty, StdMap.empty, 1⟩ rfl
      (.update stubborn 5, [.execute 0 true, .delete 0 false]) (by simp) 0 (by simp)
    cases hop
  · intro hclaim
    have hgroup := hclaim requeuedOps requeuedTrace requeued rfl 0 (by decide)
      ⟨.aborted, 0, 6, 0⟩ (by decide)
    exact absurd hgroup (by decide)

end AzerothCore.EventProcessor
