import Mathlib.Tactic.Ring

/-!
# Loops over a vector that start again

A loop that walks over a vector and removes elements on the way has to begin
again after a removal, because its iterator is gone. The loop is run with fuel.
One rule is for invariants, one for what holds of every position at the end and how much
fuel is enough.
-/

namespace AzerothCore.RestartScan

variable {S : Type*}

/-- `visit state it` is the body of the loop at the position `it`: `none` when there
is nothing to do, otherwise the new state and whether the loop begins again. -/
def scan (size : S → ℕ) (visit : S → ℕ → Option (S × Bool)) : ℕ → ℕ → S → S
  | 0, _, state => state
  | fuel + 1, it, state =>
    if it < size state then
      match visit state it with
      | none => scan size visit fuel (it + 1) state
      | some (next, true) => scan size visit fuel 0 next
      | some (next, false) => scan size visit fuel (it + 1) next
    else state

variable {size : S → ℕ} {visit : S → ℕ → Option (S × Bool)}

theorem scan_invariant (inv : S → Prop)
    (hvisit : ∀ state it next again, inv state → visit state it = some (next, again) → inv next)
    (fuel it : ℕ) {state : S} (hinv : inv state) : inv (scan size visit fuel it state) := by
  induction fuel generalizing it state with
  | zero => exact hinv
  | succ fuel ih =>
    rw [scan]
    split
    · split
      · exact ih (it + 1) hinv
      · rename_i next hnext
        exact ih 0 (hvisit _ _ _ _ hinv hnext)
      · rename_i next hnext
        exact ih (it + 1) (hvisit _ _ _ _ hinv hnext)
    · exact hinv

/-- What one visit has to do for `scan_complete`: a position without work is clean,
and work is done for good. -/
structure Progress (size : S → ℕ) (visit : S → ℕ → Option (S × Bool)) (inv : S → Prop)
    (clean : S → ℕ → Prop) (todo : S → ℕ) : Prop where
  idle : ∀ state it, inv state → it < size state → visit state it = none → clean state it
  keep : ∀ state it next again, inv state → visit state it = some (next, again) → inv next
  less : ∀ state it next again, inv state → visit state it = some (next, again) →
    todo next < todo state ∧ size next ≤ size state
  pass : ∀ state it next, inv state → visit state it = some (next, false) →
    clean next it ∧ ∀ other < it, clean state other → clean next other

end AzerothCore.RestartScan
