import Mathlib.Data.List.Basic

/-!
# Loops that can fail

A loop over a list that can end early is a fold in `Except`. What a round keeps of the part of
the list that was visited holds of the whole list at the end.
-/

namespace AzerothCore.Folding
open List

universe u

variable {α σ ε : Type*} {round : σ → α → Except ε σ}

@[simp]
theorem ok_bind {α β : Type u} (value : α) (next : α → Except ε β) :
    (Except.ok value >>= next) = next value := rfl

theorem exists_of_bind_ok {α β : Type u} {first : Except ε α} {next : α → Except ε β} {result : β}
    (hbind : first >>= next = .ok result) :
    ∃ value, first = .ok value ∧ next value = .ok result := by
  cases first with
  | error err => cases hbind
  | ok value => exact ⟨value, rfl, hbind⟩

theorem of_bind_error {α β : Type u} {first : Except ε α} {next : α → Except ε β} {err : ε}
    (hbind : first >>= next = .error err) :
    first = .error err ∨ ∃ value, first = .ok value ∧ next value = .error err := by
  cases first with
  | error other =>
    left
    exact congrArg Except.error (Except.error.inj hbind)
  | ok value => exact .inr ⟨value, rfl, hbind⟩

theorem foldlM_cons_ok {list : List α} {item : α} {before after : σ}
    (hfold : (item :: list).foldlM round before = .ok after) :
    ∃ next, round before item = .ok next ∧ list.foldlM round next = .ok after := by
  rw [foldlM_cons] at hfold
  cases hround : round before item with
  | error err =>
    rw [hround] at hfold
    cases hfold
  | ok next =>
    rw [hround] at hfold
    exact ⟨next, rfl, hfold⟩

theorem foldlM_invariant (inv : List α → σ → Prop)
    (hround : ∀ visited before item after, inv visited before →
      round before item = .ok after → inv (visited ++ [item]) after)
    {list visited : List α} {before after : σ} (hbefore : inv visited before)
    (hfold : list.foldlM round before = .ok after) : inv (visited ++ list) after := by
  induction list generalizing visited before with
  | nil =>
    cases hfold
    rw [append_nil]
    exact hbefore
  | cons item list ih =>
    obtain ⟨next, hnext, hrest⟩ := foldlM_cons_ok hfold
    have hinv := ih (hround visited before item next hbefore hnext) hrest
    rwa [append_assoc, singleton_append] at hinv

theorem foldlM_ne_error {err : ε} {list : List α}
    (hround : ∀ item ∈ list, ∀ before, round before item ≠ .error err) (before : σ) :
    list.foldlM round before ≠ .error err := by
  induction list generalizing before with
  | nil => exact nofun
  | cons item list ih =>
    have hitem := hround item mem_cons_self before
    have hrest := ih fun other hother => hround other (mem_cons_of_mem _ hother)
    rw [foldlM_cons]
    cases hnext : round before item with
    | error other =>
      intro heq
      refine hitem (hnext.trans ?_)
      exact congrArg Except.error (Except.error.inj heq)
    | ok next => exact hrest next

theorem foldlM_ne_error_of_invariant {err : ε} (inv : σ → Prop)
    (hround : ∀ item before, inv before → round before item ≠ .error err ∧
      ∀ after, round before item = .ok after → inv after)
    {list : List α} {before : σ} (hbefore : inv before) :
    list.foldlM round before ≠ .error err := by
  induction list generalizing before with
  | nil => exact nofun
  | cons item list ih =>
    obtain ⟨hitem, hkept⟩ := hround item before hbefore
    rw [foldlM_cons]
    cases hnext : round before item with
    | error other =>
      intro heq
      refine hitem (hnext.trans ?_)
      exact congrArg Except.error (Except.error.inj heq)
    | ok next => exact ih (hkept next hnext)

theorem exists_foldlM {list : List α}
    (hround : ∀ item ∈ list, ∀ before, ∃ after, round before item = .ok after) (before : σ) :
    ∃ after, list.foldlM round before = .ok after := by
  induction list generalizing before with
  | nil => exact ⟨before, rfl⟩
  | cons item list ih =>
    obtain ⟨next, hnext⟩ := hround item mem_cons_self before
    rw [foldlM_cons, hnext]
    exact ih (fun other hother => hround other (mem_cons_of_mem _ hother)) next

theorem foldlM_total (inv : List α → σ → Prop)
    (hround : ∀ item rest before, inv (item :: rest) before →
      ∃ after, round before item = .ok after ∧ inv rest after)
    {list : List α} {before : σ} (hbefore : inv list before) :
    ∃ after, list.foldlM round before = .ok after ∧ inv [] after := by
  induction list generalizing before with
  | nil => exact ⟨before, rfl, hbefore⟩
  | cons item list ih =>
    obtain ⟨next, hnext, hinv⟩ := hround item list before hbefore
    rw [foldlM_cons, hnext]
    exact ih hinv

end AzerothCore.Folding
