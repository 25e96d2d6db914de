import AzerothCore.Common.Define

/-!
# `Acore::Containers::RandomResize`

The elements to keep are selected in one pass and moved to the front as they are
found. What is kept is always a subsequence; its length is the requested one as long
as the two sizes survive the narrowing to `uint32`.
-/

namespace AzerothCore.Containers
open List Nat

/-- What `urand(1, k)` returns when `k` elements are left, for each `k`. -/
structure Draws where
  urand : ℕ → ℕ
  pos : ∀ k, 0 < k → 1 ≤ urand k
  le : ∀ k, 0 < k → urand k ≤ k

structure Selection (α : Type*) where
  container : List α
  keepIt : ℕ
  curIt : ℕ
  elementsToKeep : ℕ

variable {α : Type*} (draws : Draws) (movedFrom : α → α)

/-- `*target = std::move(*source)`; `movedFrom` is what the move leaves behind. -/
def moveTo (target source : ℕ) (container : List α) : List α :=
  match container[source]? with
  | none => container
  | some element => (container.set source (movedFrom element)).set target element

/-- One turn of the loop, with `elementsToProcess` elements left. -/
def Selection.step (elementsToProcess : ℕ) (selection : Selection α) : Selection α :=
  if draws.urand elementsToProcess ≤ selection.elementsToKeep then
    { container :=
        if selection.keepIt ≠ selection.curIt then
          moveTo movedFrom selection.keepIt selection.curIt selection.container
        else selection.container
      keepIt := selection.keepIt + 1
      curIt := selection.curIt + 1
      elementsToKeep := selection.elementsToKeep - 1 }
  else { selection with curIt := selection.curIt + 1 }

/-- `while (elementsToProcess)`. -/
def Selection.loop : ℕ → Selection α → Selection α
  | 0, selection => selection
  | elementsToProcess + 1, selection =>
    loop elementsToProcess (selection.step draws movedFrom (elementsToProcess + 1))

def RandomResize (container : List α) (requestedSize : ℕ) : List α :=
  if container.length ≤ requestedSize then container
  else
    let selection := Selection.loop draws movedFrom (uint32 container.length)
      { container, keepIt := 0, curIt := 0, elementsToKeep := uint32 requestedSize }
    selection.container.take selection.keepIt

variable {draws movedFrom} {original container : List α} {selection : Selection α}
  {target source elementsToProcess : ℕ} {element : α}

theorem take_moveTo (hle : target < source) (helement : container[source]? = some element) :
    (moveTo movedFrom target source container).take (target + 1) =
      container.take target ++ [element] := by
  obtain ⟨hlt, -⟩ := List.getElem?_eq_some_iff.mp helement
  have htarget : target < (container.set source (movedFrom element)).length := by
    rw [length_set]
    exact hle.trans hlt
  rw [moveTo, helement]
  dsimp only
  rw [take_add_one, List.getElem?_set_self htarget, take_set_of_le le_rfl, take_set_of_le hle.le]
  rfl

theorem drop_moveTo (hle : target < source) :
    (moveTo movedFrom target source container).drop (source + 1) = container.drop (source + 1) := by
  unfold moveTo
  split
  · rfl
  · rw [drop_set_of_lt (by omega), drop_set_of_lt (by omega)]

@[simp] theorem length_moveTo :
    (moveTo movedFrom target source container).length = container.length := by
  unfold moveTo
  split
  · rfl
  · rw [length_set, length_set]

structure Selection.Keeps (original : List α) (selection : Selection α) : Prop where
  kept : (selection.container.take selection.keepIt).Sublist (original.take selection.curIt)
  ahead : selection.container.drop selection.curIt = original.drop selection.curIt
  le : selection.keepIt ≤ selection.curIt
  length : selection.container.length = original.length

theorem Selection.Keeps.step (hkeeps : selection.Keeps original)
    (hroom : selection.curIt < original.length) :
    (selection.step draws movedFrom elementsToProcess).Keeps original := by
  obtain ⟨hkept, hahead, hle, hlen⟩ := hkeeps
  have hcur : selection.container[selection.curIt]? = some original[selection.curIt] := by
    have h := congrArg (·[0]?) hahead
    simpa [List.getElem?_drop, List.getElem?_eq_getElem hroom] using h
  have hahead' : selection.container.drop (selection.curIt + 1) =
      original.drop (selection.curIt + 1) := by
    rw [← drop_drop, hahead, drop_drop]
  have htaken : original.take (selection.curIt + 1) =
      original.take selection.curIt ++ [original[selection.curIt]] := by
    rw [take_add_one, List.getElem?_eq_getElem hroom]
    rfl
  unfold Selection.step
  split
  · by_cases heq : selection.keepIt = selection.curIt
    · rw [if_neg (not_not.mpr heq)]
      refine ⟨?_, hahead', succ_le_succ hle, hlen⟩
      dsimp only
      rw [htaken, take_add_one, heq, hcur]
      rw [heq] at hkept
      exact hkept.append (List.Sublist.refl _)
    · have hlt : selection.keepIt < selection.curIt := lt_of_le_of_ne hle heq
      rw [if_pos heq]
      refine ⟨?_, (drop_moveTo hlt).trans hahead', succ_le_succ hle, length_moveTo.trans hlen⟩
      dsimp only
      rw [take_moveTo hlt hcur, htaken]
      exact hkept.append (List.Sublist.refl _)
  · refine ⟨hkept.trans ?_, hahead', le_succ_of_le hle, hlen⟩
    rw [htaken]
    exact sublist_append_left _ _

theorem Selection.curIt_step :
    (selection.step draws movedFrom elementsToProcess).curIt = selection.curIt + 1 := by
  unfold Selection.step
  split <;> rfl

theorem Selection.Keeps.loop (hkeeps : selection.Keeps original)
    (hroom : selection.curIt + elementsToProcess ≤ original.length) :
    (Selection.loop draws movedFrom elementsToProcess selection).Keeps original := by
  induction elementsToProcess generalizing selection with
  | zero => exact hkeeps
  | succ elementsToProcess ih =>
    apply ih (hkeeps.step (by omega))
    rw [Selection.curIt_step]
    omega

/-- Whatever is drawn, the loop keeps as many elements as it still may: a draw is never
above the number of elements left, so the last ones are kept when they are needed. -/
theorem Selection.keepIt_loop :
    (Selection.loop draws movedFrom elementsToProcess selection).keepIt =
      selection.keepIt + min selection.elementsToKeep elementsToProcess := by
  induction elementsToProcess generalizing selection with
  | zero => rw [Nat.min_zero]; rfl
  | succ elementsToProcess ih =>
    have hpos := draws.pos (elementsToProcess + 1) (succ_pos _)
    have hle := draws.le (elementsToProcess + 1) (succ_pos _)
    rw [Selection.loop, ih, Selection.step]
    split <;> dsimp only <;> omega

variable {requestedSize : ℕ}

theorem keeps_loop : (Selection.loop draws movedFrom (uint32 container.length)
      ⟨container, 0, 0, uint32 requestedSize⟩).Keeps container := by
  apply Selection.Keeps.loop
  · exact ⟨List.Sublist.refl _, rfl, le_rfl, rfl⟩
  · rw [Nat.zero_add]
    exact mod_le _ _

theorem sublist_RandomResize :
    (RandomResize draws movedFrom container requestedSize).Sublist container := by
  unfold RandomResize
  split
  · exact List.Sublist.refl _
  · exact keeps_loop.kept.trans (take_sublist _ _)

theorem length_RandomResize (hlt : requestedSize < container.length) :
    (RandomResize draws movedFrom container requestedSize).length =
      min (uint32 requestedSize) (uint32 container.length) := by
  have hkeep : (Selection.loop draws movedFrom (uint32 container.length)
      ⟨container, 0, 0, uint32 requestedSize⟩).keepIt =
      0 + min (uint32 requestedSize) (uint32 container.length) := Selection.keepIt_loop
  rw [RandomResize, if_neg hlt.not_ge]
  dsimp only
  rw [length_take, keeps_loop.length, hkeep, Nat.zero_add]
  exact Nat.min_eq_left ((min_le_right _ _).trans (mod_le _ _))

def Resizes (requestedSize : ℕ) (container resized : List α) : Prop :=
  resized.Sublist container ∧ resized.length = min container.length requestedSize

theorem randomResize_resizes_iff (draws : Draws) (movedFrom : α → α) (container : List α)
    (requestedSize : ℕ) :
    Resizes requestedSize container (RandomResize draws movedFrom container requestedSize) ↔
      container.length ≤ requestedSize ∨
        requestedSize < 2 ^ 32 ∧ requestedSize ≤ uint32 container.length := by
  rw [Resizes, and_iff_right sublist_RandomResize]
  rcases le_or_gt container.length requestedSize with hle | hlt
  · rw [RandomResize, if_pos hle, min_eq_left hle]
    exact iff_of_true rfl (Or.inl hle)
  rw [length_RandomResize hlt, min_eq_right hlt.le, or_iff_right hlt.not_ge]
  have hmod : uint32 requestedSize ≤ requestedSize := mod_le _ _
  have hbound := uint32_lt requestedSize
  constructor
  · intro hmin
    have hle : uint32 requestedSize ≤ uint32 container.length := by omega
    omega
  · intro ⟨hsmall, hfits⟩
    rw [uint32_of_lt hsmall, min_eq_left hfits]

def highDraws : Draws := ⟨fun k => k, fun _ hk => hk, fun _ _ => le_rfl⟩

/-- Of 2^32 elements none is left where one was asked for. -/
theorem resizes_to_nothing : ¬ Resizes 1 (List.replicate (2 ^ 32) ())
      (RandomResize highDraws id (List.replicate (2 ^ 32) ()) 1) := by
  intro ⟨_, hlength⟩
  rw [length_RandomResize (by rw [length_replicate]; decide), length_replicate]
    at hlength
  exact absurd hlength (by decide)

end AzerothCore.Containers
