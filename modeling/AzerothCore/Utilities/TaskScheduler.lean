import AzerothCore.Collections.Reachability
import AzerothCore.Common.Define
import Mathlib.Algebra.Order.Ring.Int
import Mathlib.Data.List.Perm.Basic

/-!
# `TaskScheduler`

Tasks are shared objects: a task is named by the order of its creation and its fields
live on a heap, so a context that holds a popped task and the queue see the same
object. The queue is the multiset of the code, ordered by the field `_end`.

Callables and task handlers are arbitrary: what one of them does at a call is a list of
operations that may depend on the world around the scheduler and on the tasks, and the
world changes with every call. The scheduler is alive while it dispatches.
-/

namespace AzerothCore.Scheduling

open Reachability

structure Task (τ : Type*) where
  _end : ℤ
  _duration : ℤ
  _group : Option ℕ
  _repeated : ℕ
  _task : τ

structure TaskQueue (τ : Type*) where
  heap : ℕ → Task τ
  created : ℕ
  container : List ℕ

namespace TaskQueue

variable {τ : Type*}

variable (queue : TaskQueue τ)

def endOf (task : ℕ) : ℤ :=
  (queue.heap task)._end

def IsInGroup (group task : ℕ) : Bool :=
  (queue.heap task)._group == some group

def insertBy (key : ℕ → ℤ) (task : ℕ) : List ℕ → List ℕ
  | [] => [task]
  | other :: rest =>
    if key task < key other then task :: other :: rest else other :: insertBy key task rest

def Push (task : ℕ) : TaskQueue τ :=
  { queue with container := insertBy queue.endOf task queue.container }

def write (task : ℕ) (f : Task τ → Task τ) : TaskQueue τ :=
  { queue with heap := Function.update queue.heap task (f (queue.heap task)) }

def create (task : Task τ) : TaskQueue τ :=
  { queue with
    heap := Function.update queue.heap queue.created task
    created := queue.created + 1 }

def Clear : TaskQueue τ :=
  { queue with container := [] }

def RemoveIf (filter : ℕ → Bool) : TaskQueue τ :=
  { queue with container := queue.container.filter fun task => !filter task }

/-- The filter writes the end of the tasks it accepts; they are taken out while the queue
is walked and inserted again afterwards. -/
def ModifyIf (filter : ℕ → Bool) (f : ℤ → ℤ) : TaskQueue τ :=
  let cache := queue.container.filter filter
  cache.foldl Push (cache.foldl
    (fun queue task => queue.write task fun fields => { fields with _end := f fields._end })
    (queue.RemoveIf filter))

end TaskQueue

/-- A callable that waits; `fresh` marks those registered since the running or the last
dispatch began. -/
structure AsyncEntry (α : Type*) where
  callable : α
  fresh : Bool

inductive Event (α : Type*) where
  | async (entry : AsyncEntry α)
  | executed (task : ℕ) (at_ : ℤ)
  | cancelled (task : ℕ)
  | repeated (task : ℕ)
  | scheduled (task : ℕ)

/-- `log` records what happened since the last dispatch began. -/
structure TaskScheduler (α τ σ : Type*) where
  _now : ℤ
  _task_holder : TaskQueue τ
  _asyncHolder : List (AsyncEntry α)
  _predicate : σ → Bool
  log : List (Event α)

/-- The operations of the scheduler that callables and outside code call. -/
inductive SchedulerOp (α τ σ : Type*) where
  | Async (callable : α)
  | CancelAll
  | CancelGroup (group : ℕ)
  | CancelGroupsOf (groups : List ℕ)
  | Schedule (time : ℤ) (group : Option ℕ) (task : τ)
  | DelayAll (duration : ℤ)
  | DelayGroup (group : ℕ) (duration : ℤ)
  | RescheduleAll (duration : ℤ)
  | RescheduleGroup (group : ℕ) (duration : ℤ)
  | SetValidator (predicate : σ → Bool)
  | ClearValidator

/-- The operations of a `TaskContext`. -/
inductive ContextOp (α τ : Type*) where
  | Repeat (duration : ℤ)
  | Schedule (time : ℤ) (group : Option ℕ) (task : τ)
  | Async (callable : α)
  | CancelAll
  | CancelGroup (group : ℕ)
  | CancelGroupsOf (groups : List ℕ)
  | DelayAll (duration : ℤ)
  | DelayGroup (group : ℕ) (duration : ℤ)
  | RescheduleGroup (group : ℕ) (duration : ℤ)
  | SetGroup (group : ℕ)
  | ClearGroup

namespace TaskScheduler

variable {α τ σ : Type*}

variable (scheduler : TaskScheduler α τ σ)

def record (events : List (Event α)) : TaskScheduler α τ σ :=
  { scheduler with log := scheduler.log ++ events }

def Async (callable : α) : TaskScheduler α τ σ :=
  { scheduler with _asyncHolder := scheduler._asyncHolder ++ [⟨callable, true⟩] }

def CancelAll : TaskScheduler α τ σ :=
  { scheduler.record (scheduler._task_holder.container.map .cancelled) with
    _task_holder := scheduler._task_holder.Clear
    _asyncHolder := [] }

def CancelGroup (group : ℕ) : TaskScheduler α τ σ :=
  let filter := scheduler._task_holder.IsInGroup group
  { scheduler.record ((scheduler._task_holder.container.filter filter).map .cancelled) with
    _task_holder := scheduler._task_holder.RemoveIf filter }

def CancelGroupsOf (groups : List ℕ) : TaskScheduler α τ σ :=
  groups.foldl CancelGroup scheduler

def InsertTask (task : ℕ) : TaskScheduler α τ σ :=
  { scheduler with _task_holder := scheduler._task_holder.Push task }

def ScheduleAt («end» time : ℤ) (group : Option ℕ) (task : τ) : TaskScheduler α τ σ :=
  let created := { scheduler.record [.scheduled scheduler._task_holder.created] with
    _task_holder := scheduler._task_holder.create ⟨«end» + time, time, group, 0, task⟩ }
  created.InsertTask scheduler._task_holder.created

def modifyTasks (filter : ℕ → Bool) (f : ℤ → ℤ) : TaskScheduler α τ σ :=
  { scheduler with _task_holder := scheduler._task_holder.ModifyIf filter f }

def DelayAll (duration : ℤ) : TaskScheduler α τ σ :=
  scheduler.modifyTasks (fun _ => true) (· + duration)

def DelayGroup (group : ℕ) (duration : ℤ) : TaskScheduler α τ σ :=
  scheduler.modifyTasks (scheduler._task_holder.IsInGroup group) (· + duration)

def RescheduleAll (duration : ℤ) : TaskScheduler α τ σ :=
  scheduler.modifyTasks (fun _ => true) fun _ => scheduler._now + duration

def RescheduleGroup (group : ℕ) (duration : ℤ) : TaskScheduler α τ σ :=
  scheduler.modifyTasks (scheduler._task_holder.IsInGroup group) fun _ => scheduler._now + duration

def call : SchedulerOp α τ σ → TaskScheduler α τ σ
  | .Async callable => scheduler.Async callable
  | .CancelAll => scheduler.CancelAll
  | .CancelGroup group => scheduler.CancelGroup group
  | .CancelGroupsOf groups => scheduler.CancelGroupsOf groups
  | .Schedule time group task => scheduler.ScheduleAt scheduler._now time group task
  | .DelayAll duration => scheduler.DelayAll duration
  | .DelayGroup group duration => scheduler.DelayGroup group duration
  | .RescheduleAll duration => scheduler.RescheduleAll duration
  | .RescheduleGroup group duration => scheduler.RescheduleGroup group duration
  | .SetValidator predicate => { scheduler with _predicate := predicate }
  | .ClearValidator => { scheduler with _predicate := fun _ => true }

def writeTask (task : ℕ) (f : Task τ → Task τ) : TaskScheduler α τ σ :=
  { scheduler with _task_holder := scheduler._task_holder.write task f }

/-- The part of `Repeat` behind its assertion. -/
def repeatTask (task : ℕ) (duration : ℤ) : TaskScheduler α τ σ :=
  ((scheduler.record [.repeated task]).writeTask task fun fields =>
    { fields with
      _duration := duration
      _end := fields._end + duration
      _repeated := uint32 (fields._repeated + 1) }).InsertTask task

/-- One operation of the context of `task`, with `_consumed`; a context that is repeated
twice is an assertion that fails. -/
def contextCall (task : ℕ) : TaskScheduler α τ σ × Bool → ContextOp α τ →
    Option (TaskScheduler α τ σ × Bool)
  | (scheduler, _consumed), .Repeat duration =>
    if _consumed then none else some (scheduler.repeatTask task duration, true)
  | (scheduler, _consumed), .Schedule time group handler =>
    some (scheduler.ScheduleAt (scheduler._task_holder.endOf task) time group handler, _consumed)
  | (scheduler, _consumed), .Async callable => some (scheduler.Async callable, _consumed)
  | (scheduler, _consumed), .CancelAll => some (scheduler.CancelAll, _consumed)
  | (scheduler, _consumed), .CancelGroup group => some (scheduler.CancelGroup group, _consumed)
  | (scheduler, _consumed), .CancelGroupsOf groups =>
    some (scheduler.CancelGroupsOf groups, _consumed)
  | (scheduler, _consumed), .DelayAll duration => some (scheduler.DelayAll duration, _consumed)
  | (scheduler, _consumed), .DelayGroup group duration =>
    some (scheduler.DelayGroup group duration, _consumed)
  | (scheduler, _consumed), .RescheduleGroup group duration =>
    some (scheduler.RescheduleGroup group duration, _consumed)
  | (scheduler, _consumed), .SetGroup group =>
    some (scheduler.writeTask task fun fields => { fields with _group := some group }, _consumed)
  | (scheduler, _consumed), .ClearGroup =>
    some (scheduler.writeTask task fun fields => { fields with _group := none }, _consumed)

end TaskScheduler

structure Callbacks (α τ σ : Type*) where
  callable : α → σ → TaskQueue τ → List (SchedulerOp α τ σ) × σ
  handler : τ → σ → ℕ → TaskQueue τ → List (ContextOp α τ) × σ

/-- Where `Dispatch` is: in one of its loops, returned (after its callback, or because the
validation failed), at an access to an empty queue, or at a failed assertion. -/
inductive Phase where
  | draining
  | dispatching
  | finished
  | invalid
  | undefined
  | asserted
  deriving DecidableEq

structure Dispatch (α τ σ : Type*) where
  scheduler : TaskScheduler α τ σ
  world : σ
  phase : Phase

namespace Dispatch

variable {α τ σ : Type*}

/-- `Update`: the time moves on and `Dispatch` is entered. -/
def start (scheduler : TaskScheduler α τ σ) (world : σ) (difftime : ℤ) : Dispatch α τ σ where
  scheduler := { scheduler with
      _now := scheduler._now + difftime
      _asyncHolder := scheduler._asyncHolder.map fun entry => { entry with fresh := false }
      log := [] }
  world := world
  phase := if scheduler._predicate world then .draining else .invalid

/-- The phase behind a callback: the next turn of the loop, if the validation holds. -/
def validated (scheduler : TaskScheduler α τ σ) (world : σ) (phase : Phase) : Dispatch α τ σ :=
  ⟨scheduler, world, if scheduler._predicate world then phase else .invalid⟩

variable (callbacks : Callbacks α τ σ)

/-- One turn of the loop over the callables: the front is read and called, then the queue
is popped. -/
def drainStep (dispatch : Dispatch α τ σ) : Dispatch α τ σ :=
  match dispatch.scheduler._asyncHolder with
  | [] => { dispatch with phase := .dispatching }
  | entry :: _ =>
    let (ops, world) := callbacks.callable entry.callable dispatch.world
      dispatch.scheduler._task_holder
    let called := ops.foldl TaskScheduler.call (dispatch.scheduler.record [.async entry])
    match called._asyncHolder with
    | [] => ⟨called, world, .undefined⟩
    | _ :: rest => validated { called with _asyncHolder := rest } world .draining

/-- One turn of the loop over the tasks. -/
def taskStep (dispatch : Dispatch α τ σ) : Dispatch α τ σ :=
  let scheduler := dispatch.scheduler
  match scheduler._task_holder.container with
  | [] => { dispatch with phase := .finished }
  | first :: rest =>
    if scheduler._now < scheduler._task_holder.endOf first then
      { dispatch with phase := .finished }
    else
      let popped := { scheduler.record [.executed first (scheduler._task_holder.endOf first)] with
        _task_holder := { scheduler._task_holder with container := rest } }
      let (ops, world) := callbacks.handler (scheduler._task_holder.heap first)._task
        dispatch.world first popped._task_holder
      match ops.foldlM (TaskScheduler.contextCall first) (popped, false) with
      | none => ⟨popped, world, .asserted⟩
      | some (called, _) => validated called world .dispatching

def step (dispatch : Dispatch α τ σ) : Dispatch α τ σ :=
  match dispatch.phase with
  | .draining => dispatch.drainStep callbacks
  | .dispatching => dispatch.taskStep callbacks
  | _ => dispatch

def run (callbacks : Callbacks α τ σ) (scheduler : TaskScheduler α τ σ) (world : σ)
    (difftime : ℤ) : ℕ → Dispatch α τ σ
  | 0 => start scheduler world difftime
  | turns + 1 => (run callbacks scheduler world difftime turns).step callbacks

end Dispatch

/-! ## Runs of a scheduler -/

namespace TaskScheduler

variable {α τ σ : Type*}

/-- A call from outside, or an update whose `Dispatch` returns. -/
inductive Turn (callbacks : Callbacks α τ σ) (before : TaskScheduler α τ σ) :
    Unit → TaskScheduler α τ σ → Prop
  | call (op : SchedulerOp α τ σ) : Turn callbacks before () (before.call op)
  | update (world : σ) (difftime : ℤ) (turns : ℕ) :
      (Dispatch.run callbacks before world difftime turns).phase = .finished ∨
        (Dispatch.run callbacks before world difftime turns).phase = .invalid →
      Turn callbacks before () (Dispatch.run callbacks before world difftime turns).scheduler

structure Constructed (scheduler : TaskScheduler α τ σ) : Prop where
  tasks : scheduler._task_holder.container = []
  asyncs : scheduler._asyncHolder = []

def ReachableScheduler (callbacks : Callbacks α τ σ) : TaskScheduler α τ σ → Prop :=
  Reachable Constructed (Turn callbacks)

end TaskScheduler

end AzerothCore.Scheduling

/-!
## The order in which tasks run

The queue stays ordered by the ends of its tasks although the ends are written while
tasks are in flight: a task is written only while it is outside the queue. From this
follows the order of the executions in one dispatch.
-/

namespace AzerothCore.Scheduling

open List Function
open Reachability

variable {α τ σ : Type*}

namespace TaskQueue

/-- What the multiset of the code is: ordered by the ends, without repetition, and made
of tasks that were created. -/
structure Ordered (queue : TaskQueue τ) : Prop where
  sorted : queue.container.Pairwise fun first second => queue.endOf first ≤ queue.endOf second
  nodup : queue.container.Nodup
  created : ∀ task ∈ queue.container, task < queue.created

variable {queue : TaskQueue τ}

theorem insertBy_perm (key : ℕ → ℤ) (task : ℕ) (list : List ℕ) :
    (insertBy key task list).Perm (task :: list) := by
  induction list with
  | nil => exact List.Perm.refl _
  | cons other rest ih =>
    rw [insertBy]
    split
    · exact List.Perm.refl _
    · exact (ih.cons other).trans (List.Perm.swap _ _ _)

theorem insertBy_sorted {key : ℕ → ℤ} (task : ℕ) {list : List ℕ}
    (hsorted : list.Pairwise fun first second => key first ≤ key second) :
    (insertBy key task list).Pairwise fun first second => key first ≤ key second := by
  induction list with
  | nil => exact pairwise_singleton _ _
  | cons other rest ih =>
    obtain ⟨hother, hrest⟩ := pairwise_cons.mp hsorted
    rw [insertBy]
    split
    case isTrue hlt =>
      refine pairwise_cons.mpr ⟨?_, hsorted⟩
      intro next hnext
      rcases mem_cons.mp hnext with rfl | hmem
      · exact hlt.le
      · exact hlt.le.trans (hother next hmem)
    case isFalse hle =>
      refine pairwise_cons.mpr ⟨?_, ih hrest⟩
      intro next hnext
      rcases mem_cons.mp ((insertBy_perm key task rest).mem_iff.mp hnext) with rfl | hmem
      · exact not_lt.mp hle
      · exact hother next hmem

theorem container_Push (queue : TaskQueue τ) (task : ℕ) :
    (queue.Push task).container.Perm (task :: queue.container) :=
  insertBy_perm queue.endOf task queue.container

theorem Ordered.push (hord : queue.Ordered) {task : ℕ} (houtside : task ∉ queue.container)
    (hcreated : task < queue.created) : (queue.Push task).Ordered where
  sorted := insertBy_sorted task hord.sorted
  nodup := (container_Push queue task).nodup_iff.mpr
    (nodup_cons.mpr ⟨houtside, hord.nodup⟩)
  created other hother := by
    rcases mem_cons.mp ((container_Push queue task).mem_iff.mp hother) with rfl | hmem
    · exact hcreated
    · exact hord.created other hmem

theorem endOf_write (task other : ℕ) (f : Task τ → Task τ) : (queue.write task f).endOf other =
      if other = task then (f (queue.heap task))._end else queue.endOf other := by
  simp only [endOf, write, update_apply]
  split <;> rfl

theorem Ordered.of_ends (hord : queue.Ordered) {queue' : TaskQueue τ}
    (hcont : queue'.container = queue.container) (hcreated : queue.created ≤ queue'.created)
    (hends : ∀ task ∈ queue.container, queue'.endOf task = queue.endOf task) :
    queue'.Ordered where
  sorted := by
    rw [hcont]
    refine hord.sorted.imp_of_mem ?_
    intro first second hfirst hsecond hle
    rw [hends first hfirst, hends second hsecond]
    exact hle
  nodup := hcont ▸ hord.nodup
  created task htask := (hord.created task (hcont ▸ htask)).trans_le hcreated

theorem Ordered.write (hord : queue.Ordered) {task : ℕ} {f : Task τ → Task τ}
    (hend : task ∉ queue.container ∨ (f (queue.heap task))._end = queue.endOf task) :
    (queue.write task f).Ordered := by
  refine hord.of_ends rfl le_rfl ?_
  intro other hother
  rw [endOf_write]
  split
  case isFalse => rfl
  rename_i heq
  subst heq
  exact hend.resolve_left (not_not_intro hother)

theorem endOf_create (fields : Task τ) (other : ℕ) : (queue.create fields).endOf other =
      if other = queue.created then fields._end else queue.endOf other := by
  simp only [endOf, create, update_apply]
  split <;> rfl

section

variable (hord : queue.Ordered)
include hord

theorem Ordered.create (fields : Task τ) : (queue.create fields).Ordered := by
  refine hord.of_ends rfl (Nat.le_succ _) ?_
  intro task htask
  rw [endOf_create, if_neg (hord.created task htask).ne]

theorem Ordered.sublist {list : List ℕ}
    (hsub : list.Sublist queue.container) : ({ queue with container := list }).Ordered where
  sorted := hord.sorted.sublist hsub
  nodup := hord.nodup.sublist hsub
  created task htask := hord.created task (hsub.mem htask)

theorem Ordered.removeIf (filter : ℕ → Bool) : (queue.RemoveIf filter).Ordered :=
  hord.sublist filter_sublist

theorem Ordered.clear : queue.Clear.Ordered := hord.sublist (nil_sublist _)

end

theorem foldl_write_fields (queue : TaskQueue τ) (f : ℤ → ℤ) (cache : List ℕ) :
    (cache.foldl (fun queue task => queue.write task fun fields =>
        { fields with _end := f fields._end }) queue).container = queue.container ∧
      (cache.foldl (fun queue task => queue.write task fun fields =>
        { fields with _end := f fields._end }) queue).created = queue.created := by
  induction cache generalizing queue with
  | nil => exact ⟨rfl, rfl⟩
  | cons task rest ih => exact ih _

theorem endOf_foldl_write (queue : TaskQueue τ) (f : ℤ → ℤ) {cache : List ℕ} (hnodup : cache.Nodup)
    (other : ℕ) :
    (cache.foldl (fun queue task => queue.write task fun fields =>
        { fields with _end := f fields._end }) queue).endOf other =
      if other ∈ cache then f (queue.endOf other) else queue.endOf other := by
  induction cache generalizing queue with
  | nil => simp
  | cons task rest ih =>
    obtain ⟨hnot, hrest⟩ := nodup_cons.mp hnodup
    rw [foldl_cons, ih _ hrest, endOf_write]
    by_cases heq : other = task
    · subst heq
      simp [hnot, endOf]
    · simp [heq]

theorem foldl_Push_fields (queue : TaskQueue τ) (cache : List ℕ) :
    (cache.foldl Push queue).heap = queue.heap ∧ (cache.foldl Push queue).created = queue.created ∧
      (cache.foldl Push queue).container.Perm (cache ++ queue.container) := by
  induction cache generalizing queue with
  | nil => exact ⟨rfl, rfl, List.Perm.refl _⟩
  | cons task rest ih =>
    obtain ⟨hheap, hcreated, hperm⟩ := ih (queue.Push task)
    refine ⟨hheap, hcreated, hperm.trans ?_⟩
    exact (List.Perm.append_left rest (container_Push queue task)).trans perm_middle

theorem Ordered.foldl_push (hord : queue.Ordered) {cache : List ℕ} (hnodup : cache.Nodup)
    (houtside : ∀ task ∈ cache, task ∉ queue.container)
    (hcreated : ∀ task ∈ cache, task < queue.created) : (cache.foldl Push queue).Ordered := by
  induction cache generalizing queue with
  | nil => exact hord
  | cons task rest ih =>
    obtain ⟨hnot, hrest⟩ := nodup_cons.mp hnodup
    refine ih (hord.push (houtside task mem_cons_self)
      (hcreated task mem_cons_self)) hrest ?_ ?_
    · intro other hother hmem
      rcases mem_cons.mp ((container_Push queue task).mem_iff.mp hmem) with rfl | hold
      · exact hnot hother
      · exact houtside other (mem_cons_of_mem _ hother) hold
    · exact fun other hother => hcreated other (mem_cons_of_mem _ hother)

theorem ModifyIf_spec (hord : queue.Ordered) (filter : ℕ → Bool) (f : ℤ → ℤ) :
    (queue.ModifyIf filter f).Ordered ∧ (queue.ModifyIf filter f).container.Perm queue.container ∧
      (queue.ModifyIf filter f).created = queue.created ∧
      ∀ task, (queue.ModifyIf filter f).endOf task =
        if task ∈ queue.container ∧ filter task = true then f (queue.endOf task)
        else queue.endOf task := by
  have hcache : (queue.container.filter filter).Nodup := hord.nodup.filter filter
  obtain ⟨hcont, hcreated⟩ := foldl_write_fields (queue.RemoveIf filter) f
    (queue.container.filter filter)
  have hends := endOf_foldl_write (queue.RemoveIf filter) f hcache
  unfold ModifyIf
  dsimp only
  generalize (queue.container.filter filter).foldl (fun queue task => queue.write task
    fun fields => { fields with _end := f fields._end }) (queue.RemoveIf filter) = written at *
  obtain ⟨hheap, hcreated', hperm⟩ := foldl_Push_fields written
    (queue.container.filter filter)
  have hwritten : written.Ordered := by
    refine (hord.removeIf filter).of_ends hcont hcreated.ge ?_
    intro task htask
    rw [hends, if_neg]
    intro hmem
    have hacc := (mem_filter.mp hmem).2
    have hrejected := (mem_filter.mp htask).2
    rw [hacc] at hrejected
    cases hrejected
  refine ⟨?_, ?_, hcreated'.trans hcreated, ?_⟩
  · refine hwritten.foldl_push hcache ?_ ?_
    · intro task htask hmem
      rw [hcont] at hmem
      have hacc := (mem_filter.mp htask).2
      have hrejected := (mem_filter.mp hmem).2
      rw [hacc] at hrejected
      cases hrejected
    · intro task htask
      rw [hcreated]
      exact hord.created task (mem_filter.mp htask).1
  · rw [hcont] at hperm
    exact hperm.trans (filter_append_perm filter queue.container)
  · intro task
    have hend : ((queue.container.filter filter).foldl Push written).endOf task =
        written.endOf task := by
      rw [endOf, hheap, endOf]
    simp only [hend, hends, mem_filter]
    rfl

end TaskQueue

end AzerothCore.Scheduling

/-! ## Callables that change the queue they are called from -/

namespace AzerothCore.Scheduling
open List Option

variable {α τ σ : Type*}

/-! ## What a list of operations does to the queue of callables -/

namespace SchedulerOp

def isCancelAll : SchedulerOp α τ σ → Bool
  | .CancelAll => true
  | _ => false

def cancels (ops : List (SchedulerOp α τ σ)) : Bool :=
  ops.any isCancelAll

/-- The callables that are registered behind the last `CancelAll`. -/
def registered : List (SchedulerOp α τ σ) → List α
  | [] => []
  | .Async callable :: ops => if cancels ops then registered ops else callable :: registered ops
  | _ :: ops => registered ops

/-- The validator that is set last. -/
def installed : List (SchedulerOp α τ σ) → Option (σ → Bool)
  | [] => none
  | .SetValidator predicate :: ops => some ((installed ops).getD predicate)
  | .ClearValidator :: ops => some ((installed ops).getD fun _ => true)
  | _ :: ops => installed ops

/-- A callable that cancels everything registers a callable afterwards, which is popped in
its place; apart from that it registers none, unless it makes the validation fail. -/
structure Orderly (ops : List (SchedulerOp α τ σ)) (world : σ) : Prop where
  refills : cancels ops = true → registered ops ≠ []
  quiet : (∃ predicate, installed ops = some predicate ∧ predicate world = false) ∨
    (registered ops).length = if cancels ops then 1 else 0

end SchedulerOp

open SchedulerOp

namespace TaskScheduler

variable (scheduler : TaskScheduler α τ σ)

variable {scheduler}

variable {called : TaskScheduler α τ σ}

end TaskScheduler

namespace Dispatch

open TaskScheduler

variable {callbacks : Callbacks α τ σ} {dispatch : Dispatch α τ σ}

def waitingFor (callable : α) (tasks : TaskQueue τ) : TaskScheduler α τ σ where
  _now := 0
  _task_holder := tasks
  _asyncHolder := [⟨callable, false⟩]
  _predicate := fun _ => true
  log := []

end Dispatch

end AzerothCore.Scheduling

/-! ## Tasks in one dispatch -/

namespace AzerothCore.Scheduling

open List Nat
open Reachability

variable {α τ σ : Type*}

namespace Event

def gone : Event α → Option ℕ
  | .executed task _ => some task
  | .cancelled task => some task
  | _ => none

def came : Event α → Option ℕ
  | .repeated task => some task
  | .scheduled task => some task
  | _ => none

def executedAt : Event α → Option ℤ
  | .executed _ at_ => some at_
  | _ => none

theorem filterMap_cancelled (α : Type*) (tasks : List ℕ) :
    (tasks.map (Event.cancelled : ℕ → Event α)).filterMap gone = tasks ∧
      (tasks.map (Event.cancelled : ℕ → Event α)).filterMap came = [] ∧
      (tasks.map (Event.cancelled : ℕ → Event α)).filterMap executedAt = [] := by
  induction tasks with
  | nil => exact ⟨rfl, rfl, rfl⟩
  | cons task rest ih => simpa [gone, came, executedAt] using ih

end Event

variable {consumed consumed' : Bool} {executed : List ℤ} {f : Task τ → Task τ} {initial : List ℕ}
  {op : ContextOp α τ}

namespace TaskScheduler

variable {scheduler after : TaskScheduler α τ σ}

/-- The queue is ordered and holds what it held at first, less what left it and more what
came; the ends of the executed tasks are known. -/
structure Tracked (initial : List ℕ) (executed : List ℤ) (scheduler : TaskScheduler α τ σ) :
    Prop where
  ordered : scheduler._task_holder.Ordered
  account : ∀ task, scheduler._task_holder.container.count task +
      (scheduler.log.filterMap Event.gone).count task =
    initial.count task + (scheduler.log.filterMap Event.came).count task
  executed : scheduler.log.filterMap Event.executedAt = executed

/-- What an operation does, other than a repetition: the tasks it takes out and puts in
are recorded, and those it puts in are new. -/
structure Moved (before after : TaskScheduler α τ σ) : Prop where
  now : after._now = before._now
  ordered : after._task_holder.Ordered
  created : before._task_holder.created ≤ after._task_holder.created
  joined : ∀ task ∈ after._task_holder.container,
    task ∈ before._task_holder.container ∨ before._task_holder.created ≤ task
  events : ∃ events : List (Event α), after.log = before.log ++ events ∧
    (after._task_holder.container ++ events.filterMap Event.gone).Perm
      (before._task_holder.container ++ events.filterMap Event.came) ∧
    events.filterMap Event.executedAt = []

theorem Tracked.of_events (htracked : scheduler.Tracked initial executed)
    {events : List (Event α)} (hord : after._task_holder.Ordered)
    (hlog : after.log = scheduler.log ++ events)
    (hperm : (after._task_holder.container ++ events.filterMap Event.gone).Perm
      (scheduler._task_holder.container ++ events.filterMap Event.came)) :
    after.Tracked initial (executed ++ events.filterMap Event.executedAt) where
  ordered := hord
  account task := by
    have hcount := hperm.count_eq task
    have hbefore := htracked.account task
    rw [count_append, count_append] at hcount
    rw [hlog, filterMap_append, filterMap_append, count_append,
      count_append]
    omega
  executed := by rw [hlog, filterMap_append, htracked.executed]

theorem Moved.tracked (hmoved : Moved scheduler after)
    (htracked : scheduler.Tracked initial executed) : after.Tracked initial executed := by
  obtain ⟨events, hlog, hperm, hexec⟩ := hmoved.events
  have hafter := htracked.of_events hmoved.ordered hlog hperm
  rwa [hexec, append_nil] at hafter

theorem moved_of_ordered (hord : after._task_holder.Ordered)
    (hnow : after._now = scheduler._now)
    (hcreated : after._task_holder.created = scheduler._task_holder.created)
    (hcont : after._task_holder.container.Perm scheduler._task_holder.container)
    (hlog : after.log = scheduler.log) : Moved scheduler after where
  now := hnow
  ordered := hord
  created := hcreated.ge
  joined _ htask := .inl (hcont.mem_iff.mp htask)
  events := ⟨[], by rw [hlog, append_nil], hcont.append_right [], rfl⟩

theorem Moved.refl (hord : scheduler._task_holder.Ordered) : Moved scheduler scheduler :=
  moved_of_ordered hord rfl rfl (List.Perm.refl _) rfl

theorem Moved.trans {next : TaskScheduler α τ σ} (hfirst : Moved scheduler after)
    (hsecond : Moved after next) : Moved scheduler next := by
  refine ⟨hsecond.now.trans hfirst.now, hsecond.ordered, hfirst.created.trans hsecond.created,
    ?_, ?_⟩
  · intro task htask
    rcases hsecond.joined task htask with hold | hnew
    · exact hfirst.joined task hold
    · exact .inr (hfirst.created.trans hnew)
  · obtain ⟨events, hlog, hperm, hexec⟩ := hfirst.events
    obtain ⟨events', hlog', hperm', hexecuted'⟩ := hsecond.events
    refine ⟨events ++ events', by rw [hlog', hlog, append_assoc], ?_, ?_⟩
    · rw [perm_iff_count]
      intro task
      have hcount := hperm.count_eq task
      have hcount' := hperm'.count_eq task
      simp only [filterMap_append, count_append] at hcount hcount' ⊢
      omega
    · rw [filterMap_append, hexec, hexecuted', append_nil]

section

variable (hord : scheduler._task_holder.Ordered)
include hord

theorem moved_CancelAll :
    Moved scheduler scheduler.CancelAll := by
  obtain ⟨hgone, hcame, hexec⟩ :=
    Event.filterMap_cancelled α scheduler._task_holder.container
  refine ⟨rfl, hord.clear, le_rfl, ?_, _, rfl, ?_, hexec⟩
  · intro task htask
    cases htask
  · rw [hgone, hcame, append_nil]
    exact List.Perm.refl _

theorem moved_CancelGroup (group : ℕ) :
    Moved scheduler (scheduler.CancelGroup group) := by
  obtain ⟨hgone, hcame, hexec⟩ := Event.filterMap_cancelled α
    (scheduler._task_holder.container.filter (scheduler._task_holder.IsInGroup group))
  refine ⟨rfl, hord.removeIf _, le_rfl,
    fun task htask => .inl (mem_filter.mp htask).1, _, rfl, ?_, hexec⟩
  rw [hgone, hcame, append_nil]
  exact perm_append_comm.trans (filter_append_perm _ _)

theorem moved_CancelGroupsOf (groups : List ℕ) :
    Moved scheduler (scheduler.CancelGroupsOf groups) := by
  induction groups generalizing scheduler with
  | nil => exact Moved.refl hord
  | cons group rest ih =>
    have hfirst := moved_CancelGroup hord group
    exact hfirst.trans (ih hfirst.ordered)

theorem moved_ScheduleAt (end' time : ℤ)
    (group : Option ℕ) (task : τ) : Moved scheduler (scheduler.ScheduleAt end' time group task) := by
  have hcreated : ((scheduler._task_holder.create ⟨end' + time, time, group, 0, task⟩).Push
      scheduler._task_holder.created).container.Perm
      (scheduler._task_holder.created :: scheduler._task_holder.container) :=
    TaskQueue.container_Push _ _
  refine ⟨rfl, ?_, le_succ _, ?_, [.scheduled scheduler._task_holder.created], rfl, ?_, rfl⟩
  · refine (hord.create _).push (fun hmem => ?_) (lt_succ_self _)
    exact lt_irrefl _ (hord.created _ hmem)
  · intro other hother
    rcases mem_cons.mp (hcreated.mem_iff.mp hother) with rfl | hmem
    · exact .inr le_rfl
    · exact .inl hmem
  · have hgone : ([.scheduled scheduler._task_holder.created] : List (Event α)).filterMap
        Event.gone = [] := rfl
    have hcame : ([.scheduled scheduler._task_holder.created] : List (Event α)).filterMap
        Event.came = [scheduler._task_holder.created] := rfl
    rw [hgone, hcame, append_nil]
    exact hcreated.trans (perm_append_singleton _ _).symm

theorem moved_modifyTasks (filter : ℕ → Bool)
    (f : ℤ → ℤ) : Moved scheduler (scheduler.modifyTasks filter f) := by
  obtain ⟨hordered', hperm, hcreated, _⟩ := TaskQueue.ModifyIf_spec hord filter f
  exact moved_of_ordered hordered' rfl hcreated hperm rfl

theorem moved_writeTask (task : ℕ)
    (hend : ∀ fields, (f fields)._end = fields._end) :
    Moved scheduler (scheduler.writeTask task f) :=
  moved_of_ordered (hord.write (.inr (hend _))) rfl rfl (List.Perm.refl _) rfl

theorem moved_call (op : SchedulerOp α τ σ) :
    Moved scheduler (scheduler.call op) := by
  cases op with
  | CancelAll => exact moved_CancelAll hord
  | CancelGroup group => exact moved_CancelGroup hord group
  | CancelGroupsOf groups => exact moved_CancelGroupsOf hord groups
  | Schedule time group task => exact moved_ScheduleAt hord _ time group task
  | DelayAll | DelayGroup | RescheduleAll | RescheduleGroup => exact moved_modifyTasks hord _ _
  | _ => exact moved_of_ordered hord rfl rfl (List.Perm.refl _) rfl

theorem moved_foldl_call
    (ops : List (SchedulerOp α τ σ)) : Moved scheduler (ops.foldl call scheduler) := by
  induction ops generalizing scheduler with
  | nil => exact Moved.refl hord
  | cons op ops ih =>
    have hfirst := moved_call hord op
    exact hfirst.trans (ih hfirst.ordered)

end

structure Held (task : ℕ) (_consumed : Bool) (scheduler : TaskScheduler α τ σ) : Prop where
  created : task < scheduler._task_holder.created
  outside : _consumed = false → task ∉ scheduler._task_holder.container

theorem Moved.held {task : ℕ} {_consumed : Bool} (hmoved : Moved scheduler after)
    (hheld : scheduler.Held task _consumed) : after.Held task _consumed where
  created := hheld.created.trans_le hmoved.created
  outside hconsumed hmem := by
    rcases hmoved.joined task hmem with hold | hnew
    · exact hheld.outside hconsumed hold
    · exact absurd hheld.created hnew.not_gt

theorem tracked_repeatTask {task : ℕ} (htracked : scheduler.Tracked initial executed)
    (hheld : scheduler.Held task false) (duration : ℤ) :
    (scheduler.repeatTask task duration).Tracked initial executed := by
  have houtside := hheld.outside rfl
  have hwritten := htracked.ordered.write (f := fun fields : Task τ =>
    { fields with
      _duration := duration
      _end := fields._end + duration
      _repeated := uint32 (fields._repeated + 1) }) (.inl houtside)
  have hperm : ((scheduler.repeatTask task duration)._task_holder.container ++ []).Perm
      (scheduler._task_holder.container ++ [task]) := by
    rw [append_nil]
    exact (TaskQueue.container_Push _ task).trans (perm_append_singleton _ _).symm
  have hevents : ([.repeated task] : List (Event α)).filterMap Event.executedAt = [] := rfl
  have hafter : (scheduler.repeatTask task duration).Tracked initial
      (executed ++ ([.repeated task] : List (Event α)).filterMap Event.executedAt) :=
    htracked.of_events (hwritten.push houtside hheld.created) rfl hperm
  rwa [hevents, append_nil] at hafter

theorem tracked_contextCall {task : ℕ} (htracked : scheduler.Tracked initial executed)
    (hheld : scheduler.Held task consumed)
    (hcall : contextCall task (scheduler, consumed) op = some (after, consumed')) :
    after.Tracked initial executed ∧ after.Held task consumed' ∧
      after._now = scheduler._now := by
  have hmoved : Moved scheduler after → consumed' = consumed →
      after.Tracked initial executed ∧ after.Held task consumed' ∧
        after._now = scheduler._now := by
    rintro hmoved rfl
    exact ⟨hmoved.tracked htracked, hmoved.held hheld, hmoved.now⟩
  have hord := htracked.ordered
  cases op with
  | Repeat duration =>
    simp only [contextCall] at hcall
    split at hcall
    · cases hcall
    rename_i hconsumed
    cases hcall
    rw [Bool.not_eq_true] at hconsumed
    subst hconsumed
    exact ⟨tracked_repeatTask htracked hheld duration,
      ⟨hheld.created, fun hfalse => by cases hfalse⟩, rfl⟩
  | Schedule time group handler =>
    cases hcall
    exact hmoved (moved_ScheduleAt hord _ time group handler) rfl
  | Async callable =>
    cases hcall
    exact hmoved (moved_of_ordered hord rfl rfl (List.Perm.refl _) rfl) rfl
  | CancelAll => cases hcall; exact hmoved (moved_CancelAll hord) rfl
  | CancelGroup group => cases hcall; exact hmoved (moved_CancelGroup hord group) rfl
  | CancelGroupsOf groups =>
    cases hcall
    exact hmoved (moved_CancelGroupsOf hord groups) rfl
  | DelayAll | DelayGroup => cases hcall; exact hmoved (moved_modifyTasks hord _ _) rfl
  | RescheduleGroup group duration =>
    cases hcall
    exact hmoved (moved_modifyTasks hord _ _) rfl
  | SetGroup | ClearGroup => cases hcall; exact hmoved (moved_writeTask hord task fun _ => rfl) rfl

end TaskScheduler

/-! ## Durations that are not negative -/

def ContextOp.Forward : ContextOp α τ → Prop
  | .Repeat duration => 0 ≤ duration
  | .Schedule time _ _ => 0 ≤ time
  | .CancelGroup _ => True
  | .DelayAll duration => 0 ≤ duration
  | .DelayGroup _ duration => 0 ≤ duration
  | .RescheduleGroup _ duration => 0 ≤ duration
  | _ => False

/-- Callbacks of tasks that use only these. -/
def ForwardHandlers (callbacks : Callbacks α τ σ) : Prop :=
  ∀ handler world task tasks, ∀ op ∈ (callbacks.handler handler world task tasks).1, op.Forward

namespace TaskQueue

structure Late (bound : ℤ) (task : ℕ) (queue : TaskQueue τ) : Prop where
  own : bound ≤ queue.endOf task
  queued : ∀ other ∈ queue.container, bound ≤ queue.endOf other

variable {queue : TaskQueue τ} {bound : ℤ} {task : ℕ}

theorem Late.modifyIf (hlate : queue.Late bound task) (hord : queue.Ordered)
    (filter : ℕ → Bool) {f : ℤ → ℤ} (hf : ∀ «end», bound ≤ «end» → bound ≤ f «end») :
    (queue.ModifyIf filter f).Late bound task := by
  obtain ⟨_, hperm, _, hends⟩ := ModifyIf_spec hord filter f
  have hbound : ∀ other, bound ≤ queue.endOf other →
      bound ≤ (queue.ModifyIf filter f).endOf other := by
    intro other hother
    rw [hends]
    split
    · exact hf _ hother
    · exact hother
  exact ⟨hbound task hlate.own,
    fun other hother => hbound other (hlate.queued other (hperm.mem_iff.mp hother))⟩

theorem Late.schedule (hlate : queue.Late bound task) (hcreated : task < queue.created)
    {fields : Task τ} (hfields : bound ≤ fields._end) :
    ((queue.create fields).Push queue.created).Late bound task := by
  have hends : ∀ other, ((queue.create fields).Push queue.created).endOf other =
      if other = queue.created then fields._end else queue.endOf other := endOf_create fields
  constructor
  · rw [hends, if_neg hcreated.ne]
    exact hlate.own
  · intro other hother
    rw [hends]
    split
    · exact hfields
    rename_i hne
    rcases mem_cons.mp ((container_Push _ _).mem_iff.mp hother) with heq | hmem
    · exact absurd heq hne
    · exact hlate.queued other hmem

theorem Late.repeat (hlate : queue.Late bound task) (hf : bound ≤ (f (queue.heap task))._end) :
    ((queue.write task f).Push task).Late bound task := by
  have hends : ∀ other, ((queue.write task f).Push task).endOf other =
      if other = task then (f (queue.heap task))._end else queue.endOf other :=
    fun other => endOf_write task other f
  constructor
  · rw [hends, if_pos rfl]
    exact hf
  · intro other hother
    rw [hends]
    split
    · exact hf
    rename_i hne
    rcases mem_cons.mp ((container_Push _ _).mem_iff.mp hother) with heq | hmem
    · exact absurd heq hne
    · exact hlate.queued other hmem

end TaskQueue

namespace TaskScheduler

variable {scheduler after : TaskScheduler α τ σ}

theorem late_contextCall {bound : ℤ} {task : ℕ} (hord : scheduler._task_holder.Ordered)
    (hheld : scheduler.Held task consumed) (hnow : bound ≤ scheduler._now) (hforward : op.Forward)
    (hlate : scheduler._task_holder.Late bound task)
    (hcall : contextCall task (scheduler, consumed) op = some (after, consumed')) :
    after._task_holder.Late bound task := by
  cases op with
  | Repeat duration =>
    simp only [contextCall] at hcall
    split at hcall
    · cases hcall
    cases hcall
    exact hlate.repeat (hlate.own.trans (le_add_of_nonneg_right hforward))
  | Schedule time group handler =>
    cases hcall
    exact hlate.schedule hheld.created
      (hlate.own.trans (le_add_of_nonneg_right hforward))
  | CancelGroup group =>
    cases hcall
    exact ⟨hlate.own, fun other hother => hlate.queued other (mem_filter.mp hother).1⟩
  | DelayAll | DelayGroup =>
    cases hcall
    exact hlate.modifyIf hord _ fun _ hend =>
      hend.trans (le_add_of_nonneg_right hforward)
  | RescheduleGroup group duration =>
    cases hcall
    exact hlate.modifyIf hord _ fun _ _ => hnow.trans (le_add_of_nonneg_right hforward)
  | _ => exact hforward.elim

theorem foldlM_contextCall {task : ℕ} {ops : List (ContextOp α τ)}
    (htracked : scheduler.Tracked initial executed) (hheld : scheduler.Held task consumed)
    (hcall : ops.foldlM (contextCall task) (scheduler, consumed) = some (after, consumed')) :
    after.Tracked initial executed ∧ after._now = scheduler._now ∧
      ∀ bound, bound ≤ scheduler._now → (∀ op ∈ ops, op.Forward) →
        scheduler._task_holder.Late bound task → after._task_holder.Late bound task := by
  induction ops generalizing scheduler consumed with
  | nil =>
    cases hcall
    exact ⟨htracked, rfl, fun _ _ _ hlate => hlate⟩
  | cons op ops ih =>
    obtain ⟨⟨next, consumed''⟩, hnext, hrest⟩ := Option.bind_eq_some_iff.mp hcall
    obtain ⟨htracked', hheld', hnow'⟩ := tracked_contextCall htracked hheld hnext
    obtain ⟨hafter, hnow, hlate⟩ := ih htracked' hheld' hrest
    refine ⟨hafter, hnow.trans hnow', fun bound hbound hforward hold => ?_⟩
    refine hlate bound (hnow' ▸ hbound)
      (fun other hother => hforward other (mem_cons_of_mem _ hother)) ?_
    exact late_contextCall htracked.ordered hheld hbound (hforward op mem_cons_self) hold
      hnext

end TaskScheduler

namespace Dispatch

open TaskScheduler

variable {callbacks : Callbacks α τ σ} {dispatch : Dispatch α τ σ}

def executedEnds (dispatch : Dispatch α τ σ) : List ℤ :=
  dispatch.scheduler.log.filterMap Event.executedAt

/-- The tasks that left the queue so far. -/
def gone (dispatch : Dispatch α τ σ) : List ℕ :=
  dispatch.scheduler.log.filterMap Event.gone

def came (dispatch : Dispatch α τ σ) : List ℕ :=
  dispatch.scheduler.log.filterMap Event.came

abbrev Tracked (initial : List ℕ) (dispatch : Dispatch α τ σ) : Prop :=
  dispatch.scheduler.Tracked initial dispatch.executedEnds

/-- The tasks that ran were due and ran in order, and those that are left come after. -/
structure Timely (dispatch : Dispatch α τ σ) : Prop where
  pairwise : dispatch.executedEnds.Pairwise (· ≤ ·)
  due : ∀ at_ ∈ dispatch.executedEnds, at_ ≤ dispatch.scheduler._now
  drained : dispatch.phase = .draining → dispatch.executedEnds = []
  ahead : dispatch.phase = .dispatching → ∀ at_ ∈ dispatch.executedEnds,
    ∀ task ∈ dispatch.scheduler._task_holder.container,
      at_ ≤ dispatch.scheduler._task_holder.endOf task
  complete : dispatch.phase = .finished →
    ∀ task ∈ dispatch.scheduler._task_holder.container,
      dispatch.scheduler._now < dispatch.scheduler._task_holder.endOf task

theorem drainStep_spec (callbacks : Callbacks α τ σ) (htracked : dispatch.Tracked initial) :
    (dispatch.drainStep callbacks).Tracked initial ∧
      (dispatch.drainStep callbacks).executedEnds = dispatch.executedEnds ∧
      (dispatch.drainStep callbacks).scheduler._now = dispatch.scheduler._now ∧
      (dispatch.drainStep callbacks).phase ≠ .finished := by
  unfold drainStep
  split
  · exact ⟨htracked, rfl, rfl, by simp⟩
  rename_i entry rest hqueue
  rcases callbacks.callable entry.callable dispatch.world
    dispatch.scheduler._task_holder with ⟨ops, world⟩
  dsimp only
  have hrecorded : (dispatch.scheduler.record [.async entry]).Tracked initial
      (dispatch.executedEnds ++ ([.async entry] : List (Event α)).filterMap
        Event.executedAt) :=
    TaskScheduler.Tracked.of_events htracked htracked.ordered rfl (List.Perm.refl _)
  have hnone : ([.async entry] : List (Event α)).filterMap Event.executedAt = [] := rfl
  rw [hnone, append_nil] at hrecorded
  have hmoved := moved_foldl_call hrecorded.ordered ops
  have hcalled := hmoved.tracked hrecorded
  have hnow := hmoved.now
  have hends := hcalled.executed
  split
  · refine ⟨?_, hends, hnow, by simp⟩
    rw [Dispatch.Tracked, executedEnds, hends]
    exact hcalled
  · refine ⟨?_, hends, hnow, ?_⟩
    · rw [Dispatch.Tracked, executedEnds]
      simp only [validated]
      rw [hends]
      exact ⟨hcalled.ordered, hcalled.account, hcalled.executed⟩
    · simp only [validated]
      split <;> simp

theorem tracked_pop (htracked : dispatch.Tracked initial) {first : ℕ} {rest : List ℕ}
    (hcont : dispatch.scheduler._task_holder.container = first :: rest) :
    let popped := { dispatch.scheduler.record
      [.executed first (dispatch.scheduler._task_holder.endOf first)] with
      _task_holder := { dispatch.scheduler._task_holder with container := rest } }
    popped.Tracked initial
        (dispatch.executedEnds ++ [dispatch.scheduler._task_holder.endOf first]) ∧
      popped.Held first false ∧
      popped._task_holder.Late (dispatch.scheduler._task_holder.endOf first) first := by
  have hord := htracked.ordered
  have hsub : rest.Sublist dispatch.scheduler._task_holder.container := by
    rw [hcont]
    exact sublist_cons_self first rest
  have hsorted := hord.sorted
  have hnodup := hord.nodup
  rw [hcont] at hsorted hnodup
  refine ⟨?_, ⟨?_, fun _ => (nodup_cons.mp hnodup).1⟩, le_rfl,
    (pairwise_cons.mp hsorted).1⟩
  · have hperm : (rest ++ [first]).Perm (dispatch.scheduler._task_holder.container ++ []) := by
      rw [hcont, append_nil]
      exact perm_append_singleton first rest
    have hqueue : ({ dispatch.scheduler._task_holder with container := rest } :
      TaskQueue τ).Ordered := hord.sublist hsub
    change TaskScheduler.Tracked initial (dispatch.executedEnds ++
      ([.executed first (dispatch.scheduler._task_holder.endOf first)] :
        List (Event α)).filterMap Event.executedAt) _
    exact TaskScheduler.Tracked.of_events htracked hqueue rfl hperm
  · exact hord.created first (hcont ▸ mem_cons_self)

theorem tracked_taskStep (htracked : dispatch.Tracked initial) :
    (dispatch.taskStep callbacks).Tracked initial ∧
      (dispatch.taskStep callbacks).scheduler._now = dispatch.scheduler._now := by
  unfold taskStep
  dsimp only
  split
  · exact ⟨htracked, rfl⟩
  rename_i first rest hcont
  split
  · exact ⟨htracked, rfl⟩
  obtain ⟨hpopped, hheld, _⟩ := tracked_pop htracked hcont
  split
  · refine ⟨?_, rfl⟩
    rw [Dispatch.Tracked, executedEnds, hpopped.executed]
    exact hpopped
  case h_2 called _ hcall =>
    obtain ⟨hcalled, hnow, _⟩ := foldlM_contextCall hpopped hheld hcall
    refine ⟨?_, hnow⟩
    rw [Dispatch.Tracked, executedEnds]
    simp only [validated]
    rw [hcalled.executed]
    exact hcalled

theorem timely_taskStep (hforward : ForwardHandlers callbacks)
    (htracked : dispatch.Tracked initial) (htimely : dispatch.Timely)
    (hphase : dispatch.phase = .dispatching) : (dispatch.taskStep callbacks).Timely := by
  have hahead := htimely.ahead hphase
  unfold taskStep
  dsimp only
  split
  case h_1 hempty =>
    refine ⟨htimely.pairwise, htimely.due, by simp, by simp, ?_⟩
    intro _ task htask
    rw [hempty] at htask
    cases htask
  rename_i first rest hcont
  have hsorted := htracked.ordered.sorted
  rw [hcont] at hsorted
  split
  case isTrue hlater =>
    refine ⟨htimely.pairwise, htimely.due, by simp, by simp, ?_⟩
    intro _ task htask
    rw [hcont] at htask
    rcases mem_cons.mp htask with rfl | hmem
    · exact hlater
    · exact hlater.trans_le ((pairwise_cons.mp hsorted).1 task hmem)
  case isFalse hdue =>
    obtain ⟨hpopped, hheld, hlate⟩ := tracked_pop htracked hcont
    have hfirst : ∀ at_ ∈ dispatch.executedEnds,
        at_ ≤ dispatch.scheduler._task_holder.endOf first := fun at_ hat =>
      hahead at_ hat first (hcont ▸ mem_cons_self)
    have hpairwise : (dispatch.executedEnds ++
        [dispatch.scheduler._task_holder.endOf first]).Pairwise (· ≤ ·) := by
      refine pairwise_append.mpr ⟨htimely.pairwise, pairwise_singleton _ _, ?_⟩
      intro at_ hat other hother
      rw [mem_singleton.mp hother]
      exact hfirst at_ hat
    have hall : ∀ at_ ∈ dispatch.executedEnds ++
        [dispatch.scheduler._task_holder.endOf first],
        at_ ≤ dispatch.scheduler._task_holder.endOf first := by
      intro at_ hat
      rcases mem_append.mp hat with hold | hnew
      · exact hfirst at_ hold
      · exact (mem_singleton.mp hnew).le
    split
    · refine ⟨?_, ?_, by simp, by simp, by simp⟩
      · rw [executedEnds, hpopped.executed]
        exact hpairwise
      · rw [executedEnds, hpopped.executed]
        exact fun at_ hat => (hall at_ hat).trans (not_lt.mp hdue)
    rename_i called _ hcall
    obtain ⟨hcalled, hnow, hlater⟩ := foldlM_contextCall hpopped hheld hcall
    have hqueued := (hlater _ (not_lt.mp hdue) (hforward _ _ _ _) hlate).queued
    have hends : (validated called (callbacks.handler
        (dispatch.scheduler._task_holder.heap first)._task dispatch.world first
        { dispatch.scheduler._task_holder with container := rest }).2
        .dispatching).executedEnds = _ := hcalled.executed
    refine ⟨?_, ?_, ?_, ?_, ?_⟩
    · rw [hends]
      exact hpairwise
    · rw [hends]
      exact fun at_ hat => ((hall at_ hat).trans (not_lt.mp hdue)).trans hnow.ge
    · simp only [validated]
      split <;> simp
    · intro _
      rw [hends]
      exact fun at_ hat task htask => (hall at_ hat).trans (hqueued task htask)
    · simp only [validated]
      split <;> simp

theorem tracked_start {scheduler : TaskScheduler α τ σ} (world : σ) (difftime : ℤ)
    (hord : scheduler._task_holder.Ordered) :
    (start scheduler world difftime).Tracked scheduler._task_holder.container where
  ordered := hord
  account _ := rfl
  executed := rfl

theorem tracked_run (callbacks : Callbacks α τ σ) {scheduler : TaskScheduler α τ σ}
    (hord : scheduler._task_holder.Ordered) (world : σ) (difftime : ℤ) (turns : ℕ) :
    (run callbacks scheduler world difftime turns).Tracked scheduler._task_holder.container := by
  induction turns with
  | zero => exact tracked_start world difftime hord
  | succ turns ih =>
    rw [run, step]
    split
    · exact (drainStep_spec callbacks ih).1
    · exact (tracked_taskStep ih).1
    · exact ih

theorem timely_run {scheduler : TaskScheduler α τ σ} (hforward : ForwardHandlers callbacks)
    (hord : scheduler._task_holder.Ordered) (world : σ) (difftime : ℤ) (turns : ℕ) :
    (run callbacks scheduler world difftime turns).Timely := by
  induction turns with
  | zero =>
    have hends : (start scheduler world difftime).executedEnds = [] := rfl
    refine ⟨by exact .nil, by simp [run, hends], fun _ => hends,
      by simp [run, hends], ?_⟩
    simp only [run, start]
    split <;> simp
  | succ turns ih =>
    have htracked := tracked_run callbacks hord world difftime turns
    rw [run, step]
    split
    case h_2 hphase => exact timely_taskStep hforward htracked ih hphase
    case h_3 => exact ih
    rename_i hphase
    obtain ⟨_, hends, hnow, hfinished⟩ := drainStep_spec callbacks htracked
    rw [ih.drained hphase] at hends
    refine ⟨by rw [hends]; exact .nil, by simp [hends], fun _ => hends, by simp [hends],
      fun hphase' => absurd hphase' hfinished⟩

theorem ordered_reachable {other : Callbacks α τ σ} {scheduler : TaskScheduler α τ σ}
    (hreach : ReachableScheduler other scheduler) : scheduler._task_holder.Ordered := by
  refine hreach.invariant (fun scheduler => scheduler._task_holder.Ordered) ?_ ?_
  · intro constructed hconstructed
    have hempty := hconstructed.tasks
    exact ⟨by rw [hempty]; exact .nil, by rw [hempty]; exact .nil, by rw [hempty]; simp⟩
  · intro before _ after hord hturn
    cases hturn with
    | call op => exact (moved_call hord op).ordered
    | update world difftime turns _ => exact (tracked_run other hord world difftime turns).ordered

/-- In a dispatch whose tasks use their contexts with durations that are not negative, the
executions are ordered by the ends and due; if it finishes, what is left is due later; and
at any time the queue is ordered and holds what it held at first, without what was executed
or cancelled and with what was repeated or scheduled. -/
theorem dispatch_in_order (callbacks other : Callbacks α τ σ)
    (hforward : ForwardHandlers callbacks) {scheduler : TaskScheduler α τ σ}
    (hreach : ReachableScheduler other scheduler) (world : σ) (difftime : ℤ) (turns : ℕ) :
    let dispatch := run callbacks scheduler world difftime turns
    dispatch.executedEnds.Pairwise (· ≤ ·) ∧
      (∀ at_ ∈ dispatch.executedEnds, at_ ≤ dispatch.scheduler._now) ∧
      (dispatch.phase = .finished → ∀ task ∈ dispatch.scheduler._task_holder.container,
        dispatch.scheduler._now < dispatch.scheduler._task_holder.endOf task) ∧
      (dispatch.scheduler._task_holder.container ++ dispatch.gone).Perm
        (scheduler._task_holder.container ++ dispatch.came) ∧
      dispatch.scheduler._task_holder.container.Pairwise fun first second =>
        dispatch.scheduler._task_holder.endOf first ≤
          dispatch.scheduler._task_holder.endOf second := by
  have hordered := ordered_reachable hreach
  have htracked := tracked_run callbacks hordered world difftime turns
  have htimely := timely_run hforward hordered world difftime turns
  refine ⟨htimely.pairwise, htimely.due, htimely.complete, ?_, htracked.ordered.sorted⟩
  rw [perm_iff_count]
  intro task
  rw [count_append, count_append]
  exact htracked.account task

/-- The first task repeats itself and schedules another one, both behind the update. -/
theorem dispatch_in_order_repeated :
    ∃ (callbacks : Callbacks Unit ℕ Unit) (scheduler : TaskScheduler Unit ℕ Unit),
      (run callbacks scheduler () 3 4).executedEnds = [1, 2] ∧
      (run callbacks scheduler () 3 4).scheduler._task_holder.container = [0, 2] ∧
      (run callbacks scheduler () 3 4).executedEnds.Pairwise (· ≤ ·) ∧
      ∀ task ∈ (run callbacks scheduler () 3 4).scheduler._task_holder.container,
        (3 : ℤ) < (run callbacks scheduler () 3 4).scheduler._task_holder.endOf task := by
  let callbacks : Callbacks Unit ℕ Unit :=
    { callable := fun _ world _ => ([], world)
      handler := fun handler world _ _ =>
        (if handler = 0 then [.Repeat 5, .Schedule 0 none 1] else [.DelayGroup 3 2], world) }
  let constructed : TaskScheduler Unit ℕ Unit :=
    ⟨0, ⟨fun _ => ⟨0, 0, none, 0, 0⟩, 0, []⟩, [], fun _ => true, []⟩
  let scheduler := (constructed.call (.Schedule 1 none 0)).call (.Schedule 2 (some 3) 1)
  have hforward : ForwardHandlers callbacks := by
    intro handler world task tasks op hop
    simp only [callbacks] at hop
    split at hop
    · simp only [mem_cons, not_mem_nil, or_false] at hop
      rcases hop with rfl | rfl
      · exact (by decide : (0 : ℤ) ≤ 5)
      · exact le_refl (0 : ℤ)
    · rw [mem_singleton.mp hop]
      exact (by decide : (0 : ℤ) ≤ 2)
  have hreach : ReachableScheduler callbacks scheduler :=
    ((Reachable.start ⟨rfl, rfl⟩).step (.call _)).step (.call _)
  obtain ⟨hpairwise, _, hcomplete, _⟩ :=
    dispatch_in_order callbacks callbacks hforward hreach () 3 4
  exact ⟨callbacks, scheduler, by decide, by decide, hpairwise, hcomplete (by decide)⟩

end Dispatch

end AzerothCore.Scheduling
