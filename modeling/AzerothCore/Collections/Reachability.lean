import Mathlib.Logic.Relation

/-!
# Reachable states of a labelled step relation

An invariant that a step preserves holds in every reachable state, and restricting the
steps of a system can only shrink the set of its reachable states.
-/

namespace AzerothCore.Reachability
open List Option

variable {State Op : Type*}

inductive Reachable (start : State → Prop) (step : State → Op → State → Prop) :
    State → Prop
  | start {state : State} : start state → Reachable start step state
  | step {before after : State} {op : Op} : Reachable start step before →
      step before op after → Reachable start step after

def guarded (guard : State → Op → Prop) (step : State → Op → State → Prop) :
    State → Op → State → Prop :=
  fun before op after => guard before op ∧ step before op after

variable {start start' : State → Prop} {step step' : State → Op → State → Prop}

variable {state after before : State} {guard : State → Op → Prop} {ops : List Op}
  {run : State → Op → Option State}

theorem Reachable.invariant (hreach : Reachable start step state) (inv : State → Prop)
    (hstart : ∀ state, start state → inv state)
    (hstep : ∀ before op after, inv before → step before op after → inv after) : inv state := by
  induction hreach with
  | start hinit => exact hstart _ hinit
  | step _ hop ih => exact hstep _ _ _ ih hop

theorem Reachable.invariant_of_reachable (hreach : Reachable start step state)
    (inv : State → Prop) (hstart : ∀ state, start state → inv state)
    (hstep : ∀ before op after, Reachable start step before → inv before →
      step before op after → inv after) : inv state := by
  induction hreach with
  | start hinit => exact hstart _ hinit
  | step hbefore hop ih => exact hstep _ _ _ hbefore ih hop

theorem Reachable.mono (hreach : Reachable start step state)
    (hstart : ∀ state, start state → start' state)
    (hstep : ∀ before op after, step before op after → step' before op after) :
    Reachable start' step' state := by
  induction hreach with
  | start hinit => exact .start (hstart _ hinit)
  | step _ hop ih => exact .step ih (hstep _ _ _ hop)

theorem Reachable.of_guarded (hreach : Reachable start (guarded guard step) state) :
    Reachable start step state :=
  hreach.mono (fun _ hinit => hinit) (fun _ _ _ hop => hop.2)

/-! ## The operations of a run -/

inductive Steps (step : State → Op → State → Prop) : State → List Op → State → Prop
  | nil {state : State} : Steps step state [] state
  | cons {before next after : State} {op : Op} {ops : List Op} : step before op next →
      Steps step next ops after → Steps step before (op :: ops) after

theorem Steps.eq {other : State}
    (hstep : ∀ before op after other, step before op after → step before op other → after = other)
    (hfirst : Steps step before ops after) (hsecond : Steps step before ops other) :
    after = other := by
  induction hfirst with
  | nil =>
    cases hsecond
    rfl
  | cons hop _ ih =>
    cases hsecond with
    | cons hother hrest =>
      obtain rfl := hstep _ _ _ _ hop hother
      exact ih hrest

theorem Reachable.steps (hreach : Reachable start step before)
    (hsteps : Steps step before ops after) : Reachable start step after := by
  induction hsteps with
  | nil => exact hreach
  | cons hop _ ih => exact ih (hreach.step hop)

/-! ## Steps that are computed -/

/-- The steps of a function that fails where an operation is not possible. -/
def computed (run : State → Op → Option State) : State → Op → State → Prop :=
  fun before op after => run before op = some after

theorem Reachable.foldlM (hreach : Reachable start (computed run) before)
    (hrun : ops.foldlM run before = some after) : Reachable start (computed run) after := by
  induction ops generalizing before with
  | nil =>
    cases hrun
    exact hreach
  | cons op ops ih =>
    obtain ⟨next, hnext, hrest⟩ := bind_eq_some_iff.mp hrun
    exact ih (hreach.step hnext) hrest

theorem Reachable.guarded_foldlM (hreach : Reachable start (guarded guard (computed run)) before)
    (hguard : ∀ op ∈ ops, ∀ state, guard state op) (hrun : ops.foldlM run before = some after) :
    Reachable start (guarded guard (computed run)) after := by
  induction ops generalizing before with
  | nil =>
    cases hrun
    exact hreach
  | cons op ops ih =>
    obtain ⟨next, hnext, hrest⟩ := bind_eq_some_iff.mp hrun
    exact ih (hreach.step ⟨hguard op mem_cons_self before, hnext⟩)
      (fun other hother => hguard other (mem_cons_of_mem _ hother)) hrest

def tested (guard : State → Op → Prop) [∀ state op, Decidable (guard state op)]
    (run : State → Op → Option State) (state : State) (op : Op) : Option State :=
  if guard state op then run state op else none

theorem Reachable.tested_foldlM [∀ state op, Decidable (guard state op)]
    (hreach : Reachable start (guarded guard (computed run)) before)
    (hrun : ops.foldlM (tested guard run) before = some after) :
    Reachable start (guarded guard (computed run)) after := by
  induction ops generalizing before with
  | nil =>
    cases hrun
    exact hreach
  | cons op ops ih =>
    obtain ⟨next, hnext, hrest⟩ := bind_eq_some_iff.mp hrun
    unfold tested at hnext
    split at hnext
    case isTrue hguard => exact ih (hreach.step ⟨hguard, hnext⟩) hrest
    case isFalse => cases hnext

end AzerothCore.Reachability
