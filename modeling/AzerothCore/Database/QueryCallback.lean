import AzerothCore.Collections.Reachability
import Mathlib.Data.List.Basic

/-!
# Queries and their callbacks

A `QueryCallback` is the future of a query with the callbacks that are run one after
another, each with the result of the query that the callback before it set. The
`AsyncCallbackProcessor` asks every callback whether its query is ready.

A future is the number of its query, and a query is ready when its number is in a list that
only grows. What a callback does is an input of its step.
-/

namespace AzerothCore.Database.Async

open Reachability

structure Query where
  number : ℕ
  isPrepared : Bool
  deriving DecidableEq

structure QueryCallbackData where
  function : ℕ
  isPrepared : Bool
  deriving DecidableEq

/-- The object of a chain. `future` is `none` when the future is not valid. -/
structure QueryCallback where
  chain : ℕ
  isPrepared : Bool
  future : Option ℕ
  callbacks : List QueryCallbackData
  deriving DecidableEq

namespace QueryCallback

def ofQuery (chain : ℕ) (query : Query) : QueryCallback :=
  ⟨chain, query.isPrepared, some query.number, []⟩

/-! ## Setting callbacks

An assertion that fails is `none`. -/

variable (query : QueryCallback)

def WithChainingCallback (callback : QueryCallbackData) : Option QueryCallback :=
  if query.callbacks ≠ [] ∨ query.isPrepared = false then
    some { query with callbacks := query.callbacks ++ [callback] }
  else none

def WithChainingPreparedCallback (callback : QueryCallbackData) : Option QueryCallback :=
  if query.callbacks ≠ [] ∨ query.isPrepared = true then
    some { query with callbacks := query.callbacks ++ [callback] }
  else none

def withCallback (callback : QueryCallbackData) : Option QueryCallback :=
  if callback.isPrepared then query.WithChainingPreparedCallback callback
  else query.WithChainingCallback callback

def withCallbacks (callbacks : List QueryCallbackData) : Option QueryCallback :=
  callbacks.foldlM withCallback query

/-! ## Running a callback -/

/-- The assertion is that of `MoveFrom`. -/
def SetNextQuery (next : Query) : Option QueryCallback :=
  if query.isPrepared = next.isPrepared then some { query with future := some next.number }
  else none

/-- What a callback that runs does to its chain, and the chains that it adds to the
processor are in `Processor.turn`. -/
structure Behaviour where
  attached : List QueryCallbackData
  next : Option Query
  deriving DecidableEq

def run (behaviour : Behaviour) (query : QueryCallback) : Option QueryCallback :=
  match query.withCallbacks behaviour.attached with
  | none => none
  | some query =>
    match behaviour.next with
    | none => some query
    | some next => query.SetNextQuery next

def checkStateAndReturnCompletion : Option (QueryCallback × Bool) :=
  let query := { query with callbacks := query.callbacks.tail }
  match query.callbacks with
  | [] => if query.future.isSome then none else some (query, true)
  | callback :: _ =>
    if query.future.isNone then some (query, true)
    else if query.isPrepared = callback.isPrepared then some (query, false)
    else none

structure Invocation where
  chain : ℕ
  callback : QueryCallbackData
  query : Query
  behaviour : Behaviour
  deriving DecidableEq

inductive Result where
  | waits
  | aborts
  | returns (invocation : Invocation) (query : QueryCallback) (completed : Bool)
  deriving DecidableEq

def InvokeIfReady (ready : List ℕ) (behaviour : Behaviour) : Result :=
  match query.future with
  | none => .waits
  | some number =>
    if number ∈ ready then
      match query.callbacks with
      | [] => .aborts
      | callback :: _ =>
        match run behaviour { query with future := none } with
        | none => .aborts
        | some after =>
          match after.checkStateAndReturnCompletion with
          | none => .aborts
          | some (after, completed) =>
            .returns ⟨query.chain, callback, ⟨number, query.isPrepared⟩, behaviour⟩
              after completed
    else .waits

end QueryCallback

open QueryCallback

/-- A query with its callbacks, the first of the query's own kind. -/
structure Chain where
  query : Query
  first : QueryCallbackData
  others : List QueryCallbackData
  kind : first.isPrepared = query.isPrepared

def Chain.callbacks (chain : Chain) : List QueryCallbackData := chain.first :: chain.others

/-- What the callbacks of a chain leave for the processor. -/
def Chain.queryCallback (chain : Chain) (number : ℕ) : QueryCallback :=
  ⟨number, chain.query.isPrepared, some chain.query.number, chain.callbacks⟩

/-- The vector that `ProcessReadyCallbacks` moved aside: what it has not asked yet, and
what is not complete. -/
structure Update where
  todo : List QueryCallback
  kept : List QueryCallback
  deriving DecidableEq

/-- `chains` are all that were added, numbered in their order, and `invocations` all
callbacks that ran. -/
structure Processor where
  callbacks : List QueryCallback
  update : Option Update
  ready : List ℕ
  chains : List Chain
  invocations : List Invocation
  aborted : Bool

namespace Processor

variable (processor : Processor)

def AddCallback (chain : Chain) : Processor :=
  { processor with
    callbacks := processor.callbacks ++ [chain.queryCallback processor.chains.length]
    chains := processor.chains ++ [chain] }

/-- The start of `ProcessReadyCallbacks`. -/
def ProcessReadyCallbacks : Processor :=
  if processor.callbacks = [] then processor
  else { processor with callbacks := [], update := some ⟨processor.callbacks, []⟩ }

def turn (update : Update) (behaviour : Behaviour)
    (added : List Chain) : Processor :=
  match update.todo with
  | [] => { processor with callbacks := processor.callbacks ++ update.kept, update := none }
  | query :: todo =>
    match query.InvokeIfReady processor.ready behaviour with
    | .waits => { processor with update := some ⟨todo, update.kept ++ [query]⟩ }
    | .aborts => { processor with aborted := true }
    | .returns invocation query completed =>
      let processor := added.foldl AddCallback processor
      { processor with
        invocations := processor.invocations ++ [invocation]
        update := some ⟨todo, if completed then update.kept
          else update.kept ++ [query]⟩ }

inductive Op where
  | AddCallback (chain : Chain)
  | ready (number : ℕ)
  | ProcessReadyCallbacks
  | turn (behaviour : Behaviour) (added : List Chain)

/-- Nothing happens after an assertion failed. -/
def step (op : Op) : Option Processor :=
  if processor.aborted then none
  else
    match op with
    | .AddCallback chain => some (processor.AddCallback chain)
    | .ready number => some { processor with ready := processor.ready ++ [number] }
    | .ProcessReadyCallbacks =>
      match processor.update with
      | none => some processor.ProcessReadyCallbacks
      | some _ => none
    | .turn behaviour added =>
      match processor.update with
      | none => none
      | some update => some (processor.turn update behaviour added)

def IsNew : Prop :=
  processor.callbacks = [] ∧ processor.update = none ∧ processor.chains = [] ∧
    processor.invocations = [] ∧ processor.aborted = false

def asked : Option QueryCallback :=
  processor.update.bind (·.todo.head?)

/-- A callback sets a next query only where another callback follows, and of its kind. -/
def Expected : Op → Prop
  | .turn behaviour _ => ∀ query, processor.asked = some query → ∀ next,
      behaviour.next = some next → ∃ callback,
        (query.callbacks.tail ++ behaviour.attached).head? = some callback ∧
          callback.isPrepared = next.isPrepared
  | _ => True

def SameKind : Op → Prop
  | .turn behaviour _ => ∀ query, processor.asked = some query → ∀ next,
      behaviour.next = some next → next.isPrepared = query.isPrepared
  | _ => True

def Uniform (op : Op) : Prop :=
  processor.Expected op ∧ processor.SameKind op

end Processor

end AzerothCore.Database.Async

/-! ## The chains of a processor -/

namespace AzerothCore.Database.Async

open List Option Nat
open Reachability QueryCallback

/-! ## What a chain does -/

/-- The callbacks of a chain that ran, and what is left of it: the next query and the
callbacks to come, or nothing after a callback that set no query. -/
inductive Runs (number : ℕ) : Query → List QueryCallbackData → List Invocation →
    Option (Query × List QueryCallbackData) → Prop
  | waits {query : Query} {callbacks : List QueryCallbackData} :
      Runs number query callbacks [] (some (query, callbacks))
  | ends {query : Query} {callback : QueryCallbackData} {rest : List QueryCallbackData}
      {behaviour : Behaviour} : behaviour.next = none →
      Runs number query (callback :: rest) [⟨number, callback, query, behaviour⟩] none
  | goesOn {query next : Query} {callback : QueryCallbackData}
      {rest : List QueryCallbackData} {behaviour : Behaviour} {invocations : List Invocation}
      {left : Option (Query × List QueryCallbackData)} : behaviour.next = some next →
      Runs number next (rest ++ behaviour.attached) invocations left →
      Runs number query (callback :: rest)
        (⟨number, callback, query, behaviour⟩ :: invocations) left

/-- What is left when a callback ran. -/
def leftAfter (behaviour : Behaviour) (rest : List QueryCallbackData) :
    Option (Query × List QueryCallbackData) :=
  behaviour.next.map (·, rest ++ behaviour.attached)

variable {number : ℕ} {first query : Query} {callback : QueryCallbackData}
  {callbacks rest : List QueryCallbackData} {invocations : List Invocation}
  {left : Option (Query × List QueryCallbackData)} {behaviour : Behaviour}

theorem Runs.run (hruns : Runs number first callbacks invocations (some (query, callback :: rest)))
    (behaviour : Behaviour) :
    Runs number first callbacks (invocations ++ [⟨number, callback, query, behaviour⟩])
      (leftAfter behaviour rest) := by
  generalize hleft : some (query, callback :: rest) = left at hruns
  induction hruns with
  | waits =>
    cases hleft
    unfold leftAfter
    cases hnext : behaviour.next with
    | none => exact .ends hnext
    | some next => exact .goesOn hnext .waits
  | ends => cases hleft
  | goesOn hnext _ ih => exact .goesOn hnext (ih hleft)

theorem Runs.prefix (hruns : Runs number first callbacks invocations left) :
    invocations.map (·.callback) <+:
      callbacks ++ (invocations.map (·.behaviour.attached)).flatten := by
  induction hruns with
  | waits => exact nil_prefix
  | ends => exact prefix_append [_] _
  | goesOn hnext _ ih =>
    rw [map_cons, map_cons, flatten_cons, cons_append, ← append_assoc]
    exact cons_prefix_cons.2 ⟨rfl, ih⟩

theorem Runs.left_eq_none_iff (hruns : Runs number first callbacks invocations left) :
    left = none ↔ ∃ last, invocations.getLast? = some last ∧ last.behaviour.next = none := by
  induction hruns with
  | waits => simp
  | ends hnext => simp [hnext]
  | @goesOn query next callback rest behaviour invocations left hnext hrest ih =>
    rw [ih]
    cases invocations with
    | nil => simp [hnext]
    | cons second others => rw [List.getLast?_cons_cons]

theorem withCallbacks_of_ne_nil {query : QueryCallback} (hne : query.callbacks ≠ [])
    (attached : List QueryCallbackData) :
    query.withCallbacks attached =
      some { query with callbacks := query.callbacks ++ attached } := by
  induction attached generalizing query with
  | nil =>
    rw [append_nil]
    rfl
  | cons callback attached ih =>
    have hone : query.withCallback callback =
        some { query with callbacks := query.callbacks ++ [callback] } := by
      unfold withCallback WithChainingCallback WithChainingPreparedCallback
      rw [if_pos (Or.inl hne), if_pos (Or.inl hne), ite_self]
    have hrest := @ih { query with callbacks := query.callbacks ++ [callback] }
      (append_ne_nil_of_left_ne_nil hne _)
    unfold withCallbacks at hrest ⊢
    rw [foldlM_cons, hone]
    refine hrest.trans ?_
    rw [append_assoc]
    rfl

theorem withCallbacks_ofQuery (chain : Chain) (number : ℕ) :
    (ofQuery number chain.query).withCallbacks chain.callbacks =
      some (chain.queryCallback number) := by
  have hone : (ofQuery number chain.query).withCallback chain.first =
      some { ofQuery number chain.query with callbacks := [chain.first] } := by
    unfold withCallback WithChainingCallback WithChainingPreparedCallback
    cases hkind : chain.query.isPrepared with
    | false | true =>
      rw [chain.kind, hkind]
      exact if_pos (Or.inr hkind)
  unfold Chain.callbacks withCallbacks
  rw [foldlM_cons, hone]
  exact withCallbacks_of_ne_nil (cons_ne_nil _ _) chain.others

/-- What is in the processor while something is left of a chain. -/
def continued (number : ℕ) (left : Query × List QueryCallbackData) : QueryCallback :=
  ⟨number, left.1.isPrepared, some left.1.number, left.2⟩

theorem run_continued
    (hkind : ∀ next, behaviour.next = some next → next.isPrepared = query.isPrepared) :
    run behaviour { continued number (query, callback :: rest) with future := none } =
      some ⟨number, query.isPrepared, behaviour.next.map (·.number),
        callback :: (rest ++ behaviour.attached)⟩ := by
  unfold run
  rw [withCallbacks_of_ne_nil (cons_ne_nil _ _)]
  cases hnext : behaviour.next with
  | none => rfl
  | some next => exact if_pos (hkind next hnext).symm

theorem InvokeIfReady_continued {ready : List ℕ} (hready : query.number ∈ ready)
    (hexpected : ∀ next, behaviour.next = some next → ∃ following,
      (rest ++ behaviour.attached).head? = some following ∧ following.isPrepared = next.isPrepared)
    (hkind : ∀ next, behaviour.next = some next → next.isPrepared = query.isPrepared) :
    ∃ after, (continued number (query, callback :: rest)).InvokeIfReady ready behaviour =
        .returns ⟨number, callback, query, behaviour⟩ after behaviour.next.isNone ∧
      ∀ left, leftAfter behaviour rest = some left → after = continued number left := by
  refine ⟨⟨number, query.isPrepared, behaviour.next.map (·.number),
    rest ++ behaviour.attached⟩, ?_, ?_⟩
  · change (if query.number ∈ ready then _ else _) = _
    rw [if_pos hready]
    rw [run_continued hkind]
    unfold checkStateAndReturnCompletion
    rcases hnext : behaviour.next with _ | next
    · cases rest ++ behaviour.attached <;> rfl
    obtain ⟨following, hhead, hfollowing⟩ := hexpected next hnext
    obtain ⟨others, hothers⟩ := List.head?_eq_some_iff.1 hhead
    have hsame : query.isPrepared = following.isPrepared :=
      (hkind next hnext).symm.trans hfollowing.symm
    simp only [continued, hothers, hsame, map_some, tail_cons, isNone_some,
      Bool.false_eq_true, if_false, if_true]
    rw [← hsame]
  · intro left hleft
    obtain ⟨next, hnext, rfl⟩ := map_eq_some_iff.1 hleft
    unfold continued
    rw [hnext, hkind next hnext]
    rfl

namespace Processor

variable {processor after : Processor}

/-! ## The chains of a processor -/

def waiting (processor : Processor) : List QueryCallback :=
  processor.callbacks ++
    match processor.update with
    | none => []
    | some update => update.kept ++ update.todo

def waitingFor (processor : Processor) (number : ℕ) : List QueryCallback :=
  processor.waiting.filter (·.chain = number)

def invoked (processor : Processor) (number : ℕ) : List Invocation :=
  processor.invocations.filter (·.chain = number)

/-- A chain is in the processor with what is left of it, and with nothing left it is not. -/
structure Sound (processor : Processor) : Prop where
  intact : processor.aborted = false
  numbered : ∀ query ∈ processor.waiting, query.chain < processor.chains.length
  invokedNumbered : ∀ invocation ∈ processor.invocations, invocation.chain < processor.chains.length
  kinds : ∀ invocation ∈ processor.invocations,
    invocation.callback.isPrepared = invocation.query.isPrepared
  runs : ∀ number chain, processor.chains[number]? = some chain → ∃ left,
    Runs number chain.query chain.callbacks (processor.invoked number) left ∧
      processor.waitingFor number = (left.map (continued number)).toList ∧
      ∀ query callbacks, left = some (query, callbacks) → ∃ callback,
        callbacks.head? = some callback ∧ callback.isPrepared = query.isPrepared

theorem Sound.of_isNew (hnew : processor.IsNew) : processor.Sound := by
  obtain ⟨hcallbacks, hupdate, hchains, hinvocations, haborted⟩ := hnew
  have hwaiting : processor.waiting = [] := by
    unfold waiting
    rw [hcallbacks, hupdate]
    rfl
  refine ⟨haborted, ?_, ?_, ?_, ?_⟩
  · rw [hwaiting]
    exact nofun
  · rw [hinvocations]
    exact nofun
  · rw [hinvocations]
    exact nofun
  · rw [hchains]
    exact nofun

theorem Sound.of_waiting (hsound : processor.Sound) (hwaiting : after.waiting = processor.waiting)
    (hchains : after.chains = processor.chains)
    (hinvocations : after.invocations = processor.invocations)
    (haborted : after.aborted = processor.aborted) : after.Sound := by
  refine ⟨haborted.trans hsound.intact, ?_, ?_, ?_, ?_⟩
  · rw [hwaiting, hchains]
    exact hsound.numbered
  · rw [hinvocations, hchains]
    exact hsound.invokedNumbered
  · rw [hinvocations]
    exact hsound.kinds
  · unfold waitingFor invoked
    rw [hwaiting, hchains, hinvocations]
    exact hsound.runs

theorem Sound.waitingFor_length (hsound : processor.Sound) :
    processor.waitingFor processor.chains.length = [] := by
  apply filter_eq_nil_iff.2
  intro query hquery hnumber
  exact absurd (of_decide_eq_true hnumber) (Nat.ne_of_lt (hsound.numbered query hquery))

theorem Sound.invoked_length (hsound : processor.Sound) :
    processor.invoked processor.chains.length = [] := by
  apply filter_eq_nil_iff.2
  intro invocation hinvocation hnumber
  exact absurd (of_decide_eq_true hnumber)
    (Nat.ne_of_lt (hsound.invokedNumbered invocation hinvocation))

theorem waiting_AddCallback (chain : Chain) : (processor.AddCallback chain).waiting =
      processor.callbacks ++ chain.queryCallback processor.chains.length ::
        match processor.update with
        | none => []
        | some update => update.kept ++ update.todo :=
  append_assoc _ _ _

theorem waitingFor_AddCallback (chain : Chain) {number : ℕ}
    (hnumber : number ≠ processor.chains.length) :
    (processor.AddCallback chain).waitingFor number = processor.waitingFor number := by
  unfold waitingFor
  rw [waiting_AddCallback, filter_append, filter_cons_of_neg, ← filter_append]
  · rfl
  · exact fun hsame => hnumber (of_decide_eq_true hsame).symm

theorem Sound.waitingFor_added (hsound : processor.Sound) (chain : Chain) :
    (processor.AddCallback chain).waitingFor processor.chains.length =
      [chain.queryCallback processor.chains.length] := by
  have hnone := hsound.waitingFor_length
  unfold waitingFor waiting at hnone
  rw [filter_append] at hnone
  obtain ⟨hfront, hback⟩ := append_eq_nil_iff.1 hnone
  unfold waitingFor
  rw [waiting_AddCallback, filter_append, hfront, filter_cons_of_pos, hback]
  · rfl
  · exact decide_eq_true rfl

theorem Sound.AddCallback (hsound : processor.Sound) (chain : Chain) :
    (processor.AddCallback chain).Sound := by
  have hlen : (processor.AddCallback chain).chains.length = processor.chains.length + 1 :=
    length_append
  refine ⟨hsound.intact, ?_, ?_, hsound.kinds, ?_⟩
  · rw [hlen, waiting_AddCallback]
    intro query hquery
    have hcases : query = chain.queryCallback processor.chains.length ∨
        query ∈ processor.waiting := by
      unfold waiting
      simp only [mem_append, mem_cons] at hquery ⊢
      tauto
    cases hcases with
    | inl hadded =>
      rw [hadded]
      exact lt_succ_self _
    | inr hold => exact lt_succ_of_lt (hsound.numbered query hold)
  · rw [hlen]
    exact fun invocation hmem => lt_succ_of_lt (hsound.invokedNumbered invocation hmem)
  · intro number found hfound
    by_cases hnumber : number = processor.chains.length
    · have hadded : found = chain := by
        have hlast : (processor.chains ++ [chain])[number]? = some found := hfound
        rw [hnumber, List.getElem?_concat_length] at hlast
        exact (some.inj hlast).symm
      rw [hnumber, hadded]
      refine ⟨some (chain.query, chain.callbacks), ?_, hsound.waitingFor_added chain, ?_⟩
      · have hnone : (processor.AddCallback chain).invoked processor.chains.length = [] :=
          hsound.invoked_length
        rw [hnone]
        exact .waits
      · intro query callbacks hleft
        cases hleft
        exact ⟨chain.first, rfl, chain.kind⟩
    · have hold : processor.chains[number]? = some found := by
        have hboth : (processor.chains ++ [chain])[number]? = some found := hfound
        rw [List.getElem?_append] at hboth
        split at hboth
        · exact hboth
        have hlt := (List.getElem?_eq_some_iff.1 hboth).1
        simp only [length_singleton] at hlt
        omega
      rw [waitingFor_AddCallback chain hnumber]
      exact hsound.runs number found hold

theorem Sound.foldl_AddCallback (hsound : processor.Sound) (added : List Chain) :
    (added.foldl Processor.AddCallback processor).Sound := by
  induction added generalizing processor with
  | nil => exact hsound
  | cons chain added ih => exact ih (hsound.AddCallback chain)

theorem foldl_AddCallback_update (added : List Chain) :
    (added.foldl AddCallback processor).update = processor.update := by
  induction added generalizing processor with
  | nil => rfl
  | cons chain added ih => exact ih

theorem filter_continued (left : Option (Query × List QueryCallbackData)) :
    ((left.map (continued number)).toList).filter (·.chain = number) =
      (left.map (continued number)).toList := by
  apply filter_eq_self.2
  intro query hquery
  obtain ⟨found, -, rfl⟩ := map_eq_some_iff.1 (mem_toList.1 hquery)
  exact decide_eq_true rfl

theorem filter_continued_of_ne {other : ℕ} (hother : other ≠ number)
    (left : Option (Query × List QueryCallbackData)) :
    ((left.map (continued number)).toList).filter (·.chain = other) = [] := by
  apply filter_eq_nil_iff.2
  intro query hquery hnumber
  obtain ⟨found, -, rfl⟩ := map_eq_some_iff.1 (mem_toList.1 hquery)
  exact hother (of_decide_eq_true hnumber).symm

section

variable {front back : List QueryCallback} (hsound : processor.Sound) (hwaiting : processor.waiting = front ++ continued number (query, callback :: rest) :: back)
include hsound hwaiting

theorem Sound.left_of_waiting :
    front.filter (·.chain = number) = [] ∧ back.filter (·.chain = number) = [] ∧
      callback.isPrepared = query.isPrepared ∧ ∀ chain, processor.chains[number]? = some chain →
        Runs number chain.query chain.callbacks (processor.invoked number)
          (some (query, callback :: rest)) := by
  have hmem : continued number (query, callback :: rest) ∈ processor.waiting := by
    rw [hwaiting]
    exact mem_append_right _ mem_cons_self
  have hnumber : number < processor.chains.length := hsound.numbered _ hmem
  obtain ⟨left, hruns, hfor, hhead⟩ := hsound.runs number _ (List.getElem?_eq_getElem hnumber)
  unfold waitingFor at hfor
  have hself : decide ((continued number (query, callback :: rest)).chain = number) = true :=
    decide_eq_true rfl
  rw [hwaiting, filter_append, filter_cons, if_pos hself] at hfor
  rcases left with _ | left
  · exact absurd hfor (append_ne_nil_of_right_ne_nil _ (cons_ne_nil _ _))
  obtain ⟨hfront, hrest⟩ : front.filter (·.chain = number) = [] ∧
      continued number (query, callback :: rest) :: back.filter (·.chain = number) =
        [continued number left] := by
    cases append_eq_singleton_iff.1 hfor with
    | inl hright => exact hright
    | inr hleft => exact absurd hleft.2 (cons_ne_nil _ _)
  obtain ⟨hcontinued, hback⟩ := List.cons.inj hrest
  have hleft : left = (query, callback :: rest) := by
    obtain ⟨⟨leftNumber, leftPrepared⟩, leftCallbacks⟩ := left
    unfold continued at hcontinued
    simp only [QueryCallback.mk.injEq, Option.some.injEq, true_and] at hcontinued
    obtain ⟨hprepared, hnumber, hcallbacks⟩ := hcontinued
    rw [← hprepared, ← hnumber, ← hcallbacks]
  rw [hleft] at hruns hhead
  obtain ⟨following, hfollowing, hkind⟩ := hhead query (callback :: rest) rfl
  cases hfollowing
  refine ⟨hfront, hback, hkind, ?_⟩
  intro chain hchain
  cases (List.getElem?_eq_getElem hnumber).symm.trans hchain
  exact hruns

theorem Sound.ran (hexpected : ∀ next, behaviour.next = some next → ∃ following,
      (rest ++ behaviour.attached).head? = some following ∧ following.isPrepared = next.isPrepared)
    (hafter : after.waiting =
      front ++ ((leftAfter behaviour rest).map (continued number)).toList ++ back)
    (hchains : after.chains = processor.chains)
    (hinvocations : after.invocations =
      processor.invocations ++ [⟨number, callback, query, behaviour⟩])
    (haborted : after.aborted = processor.aborted) : after.Sound := by
  obtain ⟨hfront, hback, hkind, hruns⟩ := hsound.left_of_waiting hwaiting
  have hnumber : number < processor.chains.length := by
    apply hsound.numbered (continued number (query, callback :: rest))
    rw [hwaiting]
    exact mem_append_right _ mem_cons_self
  refine ⟨haborted.trans hsound.intact, ?_, ?_, ?_, ?_⟩
  · rw [hafter, hchains]
    intro waited hmem
    rcases mem_append.1 hmem with hmem | hmem
    · rcases mem_append.1 hmem with hmem | hmem
      · apply hsound.numbered
        rw [hwaiting]
        exact mem_append_left _ hmem
      · obtain ⟨left, -, rfl⟩ := map_eq_some_iff.1 (mem_toList.1 hmem)
        exact hnumber
    · apply hsound.numbered
      rw [hwaiting]
      exact mem_append_right _ (mem_cons_of_mem _ hmem)
  · rw [hinvocations, hchains]
    exact forall_mem_append.2 ⟨hsound.invokedNumbered, forall_mem_singleton.2 hnumber⟩
  · rw [hinvocations]
    exact forall_mem_append.2 ⟨hsound.kinds, forall_mem_singleton.2 hkind⟩
  · rw [hchains]
    intro other chain hchain
    unfold waitingFor invoked
    rw [hafter, hinvocations, filter_append, filter_append, filter_append]
    by_cases hother : other = number
    · rw [hother] at hchain ⊢
      refine ⟨leftAfter behaviour rest, ?_, ?_, ?_⟩
      · have hself : [(⟨number, callback, query, behaviour⟩ : Invocation)].filter
            (·.chain = number) = [⟨number, callback, query, behaviour⟩] :=
          filter_eq_self.2 fun _ hmem => decide_eq_true
            (congrArg Invocation.chain (mem_singleton.1 hmem))
        rw [hself]
        exact (hruns chain hchain).run behaviour
      · rw [hfront, hback, filter_continued, nil_append, append_nil]
      · intro next callbacks hleft
        obtain ⟨set, hset, hpair⟩ := map_eq_some_iff.1 hleft
        cases hpair
        exact hexpected next hset
    · rw [filter_continued_of_ne hother, append_nil, filter_cons_of_neg
        (fun hsame => hother (of_decide_eq_true hsame).symm), filter_nil, append_nil]
      have hsame : processor.waitingFor other =
          front.filter (·.chain = other) ++ back.filter (·.chain = other) := by
        unfold waitingFor
        rw [hwaiting, filter_append, filter_cons_of_neg
          (fun hsame => hother (of_decide_eq_true hsame).symm)]
      rw [← hsame]
      exact hsound.runs other chain hchain

end

theorem Sound.exists_continued {waited : QueryCallback} (hsound : processor.Sound)
    (hmem : waited ∈ processor.waiting) :
    ∃ query callback rest, waited = continued waited.chain (query, callback :: rest) := by
  obtain ⟨left, -, hfor, hhead⟩ := hsound.runs waited.chain _
    (List.getElem?_eq_getElem (hsound.numbered waited hmem))
  have hwaited : waited ∈ processor.waitingFor waited.chain :=
    mem_filter.2 ⟨hmem, decide_eq_true rfl⟩
  rw [hfor] at hwaited
  obtain ⟨⟨query, callbacks⟩, hleft, hcontinued⟩ := map_eq_some_iff.1 (mem_toList.1 hwaited)
  obtain ⟨callback, hcallback, -⟩ := hhead query callbacks hleft
  obtain ⟨rest, rfl⟩ := List.head?_eq_some_iff.1 hcallback
  exact ⟨query, callback, rest, hcontinued.symm⟩

theorem waiting_of_update {update : Update} (hupdate : processor.update = some update) :
    processor.waiting = processor.callbacks ++ (update.kept ++ update.todo) := by
  unfold waiting
  rw [hupdate]

theorem Sound.turn {update : Update} {added : List Chain} (hsound : processor.Sound)
    (hupdate : processor.update = some update)
    (hexpected : processor.Expected (.turn behaviour added))
    (hkind : processor.SameKind (.turn behaviour added)) :
    (processor.turn update behaviour added).Sound := by
  have hwaiting := waiting_of_update hupdate
  obtain ⟨todo, kept⟩ := update
  rcases todo with _ | ⟨waited, todo⟩
  · refine hsound.of_waiting ?_ rfl rfl rfl
    rw [hwaiting, append_nil]
    exact append_nil _
  have hasked : processor.asked = some waited := by
    unfold asked
    rw [hupdate]
    rfl
  have hmem : waited ∈ processor.waiting := by
    rw [hwaiting]
    exact mem_append_right _ (mem_append_right _ mem_cons_self)
  obtain ⟨query, callback, rest, hcontinued⟩ := hsound.exists_continued hmem
  unfold Processor.turn
  by_cases hready : query.number ∈ processor.ready
  · have hfollows : ∀ next, behaviour.next = some next → ∃ following,
        (rest ++ behaviour.attached).head? = some following ∧
          following.isPrepared = next.isPrepared := by
      have hnext := hexpected waited hasked
      rw [hcontinued] at hnext
      exact hnext
    have hsame : ∀ next, behaviour.next = some next →
        next.isPrepared = query.isPrepared := by
      have hnext := hkind waited hasked
      rw [hcontinued] at hnext
      exact hnext
    obtain ⟨left, hresult, hleft⟩ :=
      @InvokeIfReady_continued waited.chain query callback rest behaviour processor.ready
        hready hfollows hsame
    rw [← hcontinued] at hresult
    dsimp only
    rw [hresult]
    have hadded := hsound.foldl_AddCallback added
    have hkept : (added.foldl Processor.AddCallback processor).waiting =
        ((added.foldl Processor.AddCallback processor).callbacks ++ kept) ++
          continued waited.chain (query, callback :: rest) :: todo := by
      rw [waiting_of_update ((foldl_AddCallback_update added).trans hupdate), ← hcontinued,
        append_assoc]
    refine hadded.ran hkept hfollows ?_ rfl rfl rfl
    change (added.foldl Processor.AddCallback processor).callbacks ++ (_ ++ todo) = _
    unfold leftAfter at hleft ⊢
    rcases hnext : behaviour.next with _ | next
    · simp
    rw [hnext] at hleft
    rw [hleft _ rfl]
    simp
  · have hwaits : waited.InvokeIfReady processor.ready behaviour = .waits := by
      rw [hcontinued]
      exact if_neg hready
    dsimp only
    rw [hwaits]
    refine hsound.of_waiting ?_ rfl rfl rfl
    rw [hwaiting]
    change processor.callbacks ++ ((kept ++ [waited]) ++ todo) = _
    rw [append_assoc, singleton_append]

theorem Sound.step {op : Op} (hsound : processor.Sound) (hexpected : processor.Expected op)
    (hkind : processor.SameKind op) (hstep : step processor op = some after) : after.Sound := by
  unfold Processor.step at hstep
  rw [hsound.intact, if_neg Bool.false_ne_true] at hstep
  cases op with
  | AddCallback chain =>
    cases hstep
    exact hsound.AddCallback chain
  | ready number =>
    cases hstep
    exact hsound.of_waiting rfl rfl rfl hsound.intact.symm
  | ProcessReadyCallbacks =>
    cases hupdate : processor.update with
    | some update => simp [hupdate] at hstep
    | none =>
      have hafter : processor.ProcessReadyCallbacks = after := by
        simpa [hupdate] using hstep
      rw [← hafter]
      unfold Processor.ProcessReadyCallbacks
      split
      · exact hsound
      refine hsound.of_waiting ?_ rfl rfl rfl
      unfold waiting
      rw [hupdate, append_nil]
      rfl
  | turn behaviour added =>
    rcases hupdate : processor.update with _ | update
    · simp [hupdate] at hstep
    have hafter : processor.turn update behaviour added = after := by
      simpa [hupdate] using hstep
    rw [← hafter]
    exact hsound.turn hupdate hexpected hkind

/-- No assertion fails. The callbacks of every chain run in the order in which they were
attached, each with the query that was set for it and of its kind, and the chain is in the
processor until one sets no query. -/
structure ChainsHold (processor : Processor) : Prop where
  intact : processor.aborted = false
  kinds : ∀ invocation ∈ processor.invocations,
    invocation.callback.isPrepared = invocation.query.isPrepared
  runs : ∀ number chain, processor.chains[number]? = some chain → ∃ left,
    Runs number chain.query chain.callbacks (processor.invoked number) left ∧
      processor.waitingFor number = (left.map (continued number)).toList
  order : ∀ number chain, processor.chains[number]? = some chain →
    (processor.invoked number).map (·.callback) <+:
      chain.callbacks ++ ((processor.invoked number).map (·.behaviour.attached)).flatten
  leaves : ∀ number chain, processor.chains[number]? = some chain →
    (processor.waitingFor number = [] ↔ ∃ last,
      (processor.invoked number).getLast? = some last ∧ last.behaviour.next = none)

theorem Sound.chainsHold (hsound : processor.Sound) : processor.ChainsHold := by
  refine ⟨hsound.intact, hsound.kinds, ?_, ?_, ?_⟩
  · intro number chain hchain
    obtain ⟨left, hruns, hwaiting, -⟩ := hsound.runs number chain hchain
    exact ⟨left, hruns, hwaiting⟩
  · intro number chain hchain
    obtain ⟨left, hruns, -, -⟩ := hsound.runs number chain hchain
    exact hruns.prefix
  · intro number chain hchain
    obtain ⟨left, hruns, hwaiting, -⟩ := hsound.runs number chain hchain
    rw [hwaiting, ← hruns.left_eq_none_iff]
    cases left with
    | none => exact ⟨fun _ => rfl, fun _ => rfl⟩
    | some left => exact ⟨nofun, nofun⟩

theorem chainsHold_of_reachable
    (hreach : Reachable IsNew (guarded Uniform (computed step)) processor) :
    processor.ChainsHold := by
  have hsound : processor.Sound := hreach.invariant Sound (fun _ => Sound.of_isNew)
      fun _ _ _ hbefore hstep => hbefore.step hstep.1.1 hstep.1.2 hstep.2
  exact hsound.chainsHold

instance (processor : Processor) (op : Op) : Decidable (processor.Expected op) :=
  match op with
  | .turn behaviour _ =>
    have (query : QueryCallback) (next : Query) : Decidable (∃ callback,
        (query.callbacks.tail ++ behaviour.attached).head? = some callback ∧
          callback.isPrepared = next.isPrepared) :=
      Option.decidableExistsMem _
    have (query : QueryCallback) : Decidable (∀ next, behaviour.next = some next →
        ∃ callback, (query.callbacks.tail ++ behaviour.attached).head? = some callback ∧
          callback.isPrepared = next.isPrepared) :=
      Option.decidableForallMem behaviour.next
    Option.decidableForallMem processor.asked
  | .AddCallback _ | .ready _ | .ProcessReadyCallbacks => inferInstanceAs (Decidable True)

instance (processor : Processor) (op : Op) : Decidable (processor.SameKind op) :=
  match op with
  | .turn behaviour _ =>
    have (query : QueryCallback) : Decidable (∀ next, behaviour.next = some next →
        next.isPrepared = query.isPrepared) :=
      Option.decidableForallMem behaviour.next
    Option.decidableForallMem processor.asked
  | .AddCallback _ | .ready _ | .ProcessReadyCallbacks => inferInstanceAs (Decidable True)

instance (processor : Processor) (op : Op) : Decidable (processor.Uniform op) :=
  inferInstanceAs (Decidable (_ ∧ _))

def empty : Processor := ⟨[], none, [], [], [], false⟩

theorem empty_isNew : empty.IsNew := ⟨rfl, rfl, rfl, rfl, rfl⟩

def preparedChain : Chain := ⟨⟨1, true⟩, ⟨1, true⟩, [⟨2, true⟩], rfl⟩

def stringChain : Chain := ⟨⟨3, false⟩, ⟨4, false⟩, [], rfl⟩

def mixedChain : Chain := ⟨⟨1, false⟩, ⟨1, false⟩, [⟨2, true⟩], rfl⟩

def uniformRun : List Op :=
  [.AddCallback preparedChain, .ready 1, .ProcessReadyCallbacks,
    .turn ⟨[⟨3, false⟩], some ⟨2, true⟩⟩ [stringChain], .turn ⟨[], none⟩ [], .ready 2,
    .ProcessReadyCallbacks, .turn ⟨[], none⟩ [], .turn ⟨[], none⟩ [], .turn ⟨[], none⟩ []]

theorem uniformRun_holds : ∃ processor, uniformRun.foldlM step empty = some processor ∧
      processor.invocations.map (·.callback.function) = [1, 2] ∧
      processor.callbacks.map (·.chain) = [1] ∧ processor.ChainsHold := by
  have hrun : uniformRun.foldlM (tested Uniform step) empty = some _ := rfl
  exact ⟨_, rfl, rfl, rfl, chainsHold_of_reachable
    (Reachable.tested_foldlM (.start empty_isNew) hrun)⟩

def mixedRun : List Op :=
  [.AddCallback mixedChain, .ready 1, .ProcessReadyCallbacks, .turn ⟨[], some ⟨2, true⟩⟩ []]

theorem mixedRun_aborts :
    ¬ ∀ processor, Reachable IsNew (guarded Expected (computed step)) processor →
      processor.ChainsHold := by
  intro hholds
  have hrun : mixedRun.foldlM (tested Expected step) empty = some _ := rfl
  have hreach := Reachable.tested_foldlM (.start empty_isNew) hrun
  exact absurd (hholds _ hreach).intact nofun

end Processor

end AzerothCore.Database.Async
