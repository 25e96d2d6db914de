import Mathlib.Data.List.Basic

/-!
# Loops that drain a buffer

A loop takes messages from the front of what has been received until more is
needed. If a turn of the loop does not depend on what comes after the message
it takes, what the loop does is the same however its input is split.
-/

namespace AzerothCore.Draining
open List Nat

/-- How a turn of the loop ends. -/
inductive Turn (σ : Type*) where
  /-- A message of this length was taken. -/
  | proceed (taken : ℕ) (state : σ)
  /-- More has to be received. -/
  | await
  /-- All that was received is dropped. -/
  | drop (state : σ)
  /-- The loop is left for good. -/
  | leave (state : σ)

def Turn.settled {σ : Type*} : Turn σ → Bool
  | .proceed _ _ | .leave _ => true
  | .await | .drop _ => false

def Turn.state? {σ : Type*} : Turn σ → Option σ
  | .proceed _ after | .drop after | .leave after => some after
  | .await => none

/-- How the loop ends. -/
inductive Outcome (α σ : Type*) where
  | waiting (pending : List α) (state : σ)
  | dropped (state : σ)
  | left (state : σ)

def Outcome.state {α σ : Type*} : Outcome α σ → σ
  | .waiting _ after | .dropped after | .left after => after

variable {α σ ε : Type*} {turn : List α → σ → Except ε (Turn σ)}

/-- What the loop does with what has been received. -/
inductive Drains (turn : List α → σ → Except ε (Turn σ)) : List α → σ → Outcome α σ → Prop where
  | nil {state : σ} : Drains turn [] state (.waiting [] state)
  | await {received : List α} {state : σ} : received ≠ [] → turn received state = .ok .await →
      Drains turn received state (.waiting received state)
  | drop {received : List α} {state after : σ} : received ≠ [] →
      turn received state = .ok (.drop after) → Drains turn received state (.dropped after)
  | leave {received : List α} {state after : σ} : received ≠ [] →
      turn received state = .ok (.leave after) → Drains turn received state (.left after)
  | proceed {received : List α} {state next : σ} {taken : ℕ} {outcome : Outcome α σ} :
      received ≠ [] → turn received state = .ok (.proceed taken next) →
      taken ≤ received.length → Drains turn (received.drop taken) next outcome →
      Drains turn received state outcome

structure Stable (turn : List α → σ → Except ε (Turn σ)) : Prop where
  proceed : ∀ {received state taken next}, received ≠ [] →
    turn received state = .ok (.proceed taken next) →
    ∀ more, turn (received ++ more) state = .ok (.proceed taken next)
  leave : ∀ {received state after}, received ≠ [] → turn received state = .ok (.leave after) →
    ∀ more, turn (received ++ more) state = .ok (.leave after)

variable {outcome : Outcome α σ} {received : List α}

theorem Drains.proceed_more (hstable : Stable turn) {more : List α} {state next : σ} {taken : ℕ}
    (hreceived : received ≠ []) (hturn : turn received state = .ok (.proceed taken next))
    (htaken : taken ≤ received.length)
    (hrest : Drains turn (received.drop taken ++ more) next outcome) :
    Drains turn (received ++ more) state outcome := by
  refine .proceed ?_ (hstable.proceed hreceived hturn more) ?_ ?_
  · exact append_ne_nil_of_left_ne_nil hreceived more
  · rw [length_append]
    exact le_add_right_of_le htaken
  · rwa [drop_append_of_le_length htaken]

theorem Drains.append (hstable : Stable turn) {pending more : List α} {before after : σ}
    (hfirst : Drains turn received before (.waiting pending after))
    (hsecond : Drains turn (pending ++ more) after outcome) :
    Drains turn (received ++ more) before outcome := by
  generalize hresult : Outcome.waiting pending after = result at hfirst
  induction hfirst with
  | nil | await =>
    cases hresult
    exact hsecond
  | drop | leave => cases hresult
  | @proceed received state next taken result hreceived hturn htaken _ ih =>
    exact .proceed_more hstable hreceived hturn htaken (ih hresult)

theorem Drains.append_left (hstable : Stable turn) (more : List α) {before after : σ}
    (hfirst : Drains turn received before (.left after)) :
    Drains turn (received ++ more) before (.left after) := by
  generalize hresult : Outcome.left after = result at hfirst
  induction hfirst with
  | nil | await | drop => cases hresult
  | @leave received state after hreceived hturn =>
    exact .leave (append_ne_nil_of_left_ne_nil hreceived more)
      (hstable.leave hreceived hturn more)
  | @proceed received state next taken result hreceived hturn htaken _ ih =>
    exact .proceed_more hstable hreceived hturn htaken (ih hresult)

theorem Drains.invariant {state : σ} (inv : σ → Prop)
    (hturn : ∀ received state ended after, inv state → turn received state = .ok ended →
      ended.state? = some after → inv after) (hdrains : Drains turn received state outcome)
    (hstate : inv state) : inv outcome.state := by
  induction hdrains with
  | nil | await => exact hstate
  | drop _ hdrop => exact hturn _ _ _ _ hstate hdrop rfl
  | leave _ hleave => exact hturn _ _ _ _ hstate hleave rfl
  | proceed _ hproceed _ _ ih => exact ih (hturn _ _ _ _ hstate hproceed rfl)

theorem Drains.eq {state : σ} {other : Outcome α σ} (hfirst : Drains turn received state outcome)
    (hsecond : Drains turn received state other) : outcome = other := by
  induction hfirst with
  | nil =>
    cases hsecond with
    | nil => rfl
    | await hreceived | drop hreceived | leave hreceived | proceed hreceived =>
      exact absurd rfl hreceived
  | await hreceived hturn =>
    cases hsecond with
    | nil => exact absurd rfl hreceived
    | await => rfl
    | drop _ hother | leave _ hother | proceed _ hother =>
      exact nomatch hturn.symm.trans hother
  | drop hreceived hturn =>
    cases hsecond with
    | nil => exact absurd rfl hreceived
    | drop _ hother =>
      cases hturn.symm.trans hother
      rfl
    | await _ hother | leave _ hother | proceed _ hother =>
      exact nomatch hturn.symm.trans hother
  | leave hreceived hturn =>
    cases hsecond with
    | nil => exact absurd rfl hreceived
    | leave _ hother =>
      cases hturn.symm.trans hother
      rfl
    | await _ hother | drop _ hother | proceed _ hother =>
      exact nomatch hturn.symm.trans hother
  | proceed hreceived hturn _ _ ih =>
    cases hsecond with
    | nil => exact absurd rfl hreceived
    | proceed _ hother _ hrest =>
      cases hturn.symm.trans hother
      exact ih hrest
    | await _ hother | drop _ hother | leave _ hother =>
      exact nomatch hturn.symm.trans hother

end AzerothCore.Draining
