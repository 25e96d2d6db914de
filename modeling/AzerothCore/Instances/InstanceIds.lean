import AzerothCore.Common.Define
import Mathlib.Data.List.Nodup

/-!
# Ids of new instances

`MapMgr` marks the ids of the stored instances and knows the id of the next new one. To write
outside of the marks is a failure. The shutdown of the server at the last id is left out.
-/

namespace AzerothCore.Instances
open List Option

structure MapMgr where
  _instanceIds : List Bool
  _nextInstanceId : ℕ

namespace MapMgr

/-- `rows` has the ids of the table `instance`. There is no greatest one in an empty table, and
the field that is read then gives 0. -/
def InitInstanceIds (rows : List ℕ) : MapMgr :=
  let maxId := rows.max?.getD 0
  ⟨replicate (uint32 (maxId + 1)) false, 1⟩

def RegisterInstanceId (mgr : MapMgr) (instanceId : ℕ) : Option MapMgr :=
  if instanceId < mgr._instanceIds.length then
    some ⟨mgr._instanceIds.set instanceId true,
      if mgr._nextInstanceId = instanceId then uint32 (mgr._nextInstanceId + 1)
      else mgr._nextInstanceId⟩
  else none

/-- The rows come `ORDER BY id ASC`. -/
def LoadInstanceSaves (rows : List ℕ) : Option MapMgr :=
  rows.foldlM RegisterInstanceId (InitInstanceIds rows)

/-- The loop of `GenerateInstanceId`, from the id that it starts with. -/
def lowestAvailable (ids : List Bool) (next : ℕ) : ℕ :=
  if next < 0xFFFFFFFF then
    if next + 1 < ids.length ∧ ids.getD (next + 1) false = true then
      lowestAvailable ids (next + 1)
    else next + 1
  else next
termination_by 0xFFFFFFFF - next

def GenerateInstanceId (mgr : MapMgr) : ℕ × MapMgr :=
  (mgr._nextInstanceId,
    { mgr with _nextInstanceId := lowestAvailable mgr._instanceIds mgr._nextInstanceId })

/-- The ids of the first `calls` new instances. -/
def generate (mgr : MapMgr) : ℕ → List ℕ × MapMgr
  | 0 => ([], mgr)
  | calls + 1 =>
    let (ids, before) := mgr.generate calls
    let (id, after) := before.GenerateInstanceId
    (ids ++ [id], after)

/-- The marks are those of `rows`, and `ids` are the free ids below the next one. -/
structure Serves (rows ids : List ℕ) (mgr : MapMgr) : Prop where
  marked : ∀ id, mgr._instanceIds[id]? = some true ↔ id ∈ rows
  pos : 0 < mgr._nextInstanceId
  free : mgr._nextInstanceId ∉ rows
  mem_iff : ∀ id, id ∈ ids ↔ 0 < id ∧ id < mgr._nextInstanceId ∧ id ∉ rows
  nodup : ids.Nodup

variable {mgr after : MapMgr} {rows ids : List ℕ} {id next : ℕ}

theorem le_lowestAvailable (marks : List Bool) : next ≤ lowestAvailable marks next := by
  fun_induction lowestAvailable marks next with
  | case1 | case2 => omega
  | case3 next hlt => exact le_rfl

theorem lowestAvailable_spec {marks : List Bool}
    (hlt : lowestAvailable marks next < 0xFFFFFFFF) :
    next < lowestAvailable marks next ∧ marks[lowestAvailable marks next]? ≠ some true ∧
      ∀ id, next < id → id < lowestAvailable marks next → marks[id]? = some true := by
  fun_induction lowestAvailable marks next with
  | case1 next hnext hmarked ih =>
    obtain ⟨hpast, hfree, hbetween⟩ := ih hlt
    refine ⟨by omega, hfree, fun id hid hbelow => ?_⟩
    obtain rfl | hne := eq_or_ne id (next + 1)
    · rw [getElem?_eq_getElem hmarked.1, ← getD_eq_getElem _ false hmarked.1, hmarked.2]
    · exact hbetween id (by omega) hbelow
  | case2 next hnext hmarked =>
    refine ⟨by omega, fun hmark => hmarked ?_, fun id hid hbelow => by omega⟩
    obtain ⟨hlen, hmark⟩ := List.getElem?_eq_some_iff.mp hmark
    exact ⟨hlen, by rw [getD_eq_getElem _ false hlen, hmark]⟩
  | case3 next hnext => exact absurd hlt hnext

theorem Serves.generated (hserves : Serves rows ids mgr)
    (hlt : mgr.GenerateInstanceId.2._nextInstanceId < 0xFFFFFFFF) :
    Serves rows (ids ++ [mgr.GenerateInstanceId.1]) mgr.GenerateInstanceId.2 := by
  obtain ⟨hpast, hfree, hbetween⟩ := lowestAvailable_spec hlt
  have hpos := hserves.pos
  refine ⟨hserves.marked, hpos.trans hpast, fun hrow => hfree ((hserves.marked _).mpr hrow),
    fun id => ?_, ?_⟩
  · rw [mem_append, mem_singleton, hserves.mem_iff]
    constructor
    · rintro (⟨hid, hbelow, hnew⟩ | rfl)
      · exact ⟨hid, hbelow.trans hpast, hnew⟩
      · exact ⟨hpos, hpast, hserves.free⟩
    · rintro ⟨hid, hbelow, hnew⟩
      obtain hless | rfl | hmore := Nat.lt_trichotomy id mgr._nextInstanceId
      · exact .inl ⟨hid, hless, hnew⟩
      · exact .inr rfl
      · exact absurd ((hserves.marked id).mp (hbetween id hmore hbelow)) hnew
  · refine hserves.nodup.append (nodup_singleton _) ?_
    rw [disjoint_singleton]
    exact fun hmem => Nat.lt_irrefl _ ((hserves.mem_iff _).mp hmem).2.1

theorem Serves.generate (hserves : Serves rows [] mgr) (calls : ℕ)
    (hlt : (mgr.generate calls).2._nextInstanceId < 0xFFFFFFFF) :
    Serves rows (mgr.generate calls).1 (mgr.generate calls).2 := by
  induction calls with
  | zero => exact hserves
  | succ calls ih => exact (ih ((le_lowestAvailable _).trans_lt hlt)).generated hlt

theorem Serves.registered (hserves : Serves rows [] mgr) (hlen : id < mgr._instanceIds.length)
    (hmax : mgr._instanceIds.length < 2 ^ 32) (habove : ∀ row ∈ rows, row < id) :
    ∃ after, mgr.RegisterInstanceId id = some after ∧ Serves (rows ++ [id]) [] after ∧
      after._instanceIds.length = mgr._instanceIds.length := by
  refine ⟨_, if_pos hlen, ⟨fun other => ?_, ?_, ?_, fun other => ?_, nodup_nil⟩, length_set⟩
  · rw [mem_append, mem_singleton, ← hserves.marked, getElem?_set]
    split
    · next heq => simp [heq, heq ▸ hlen]
    · next hne => simp [Ne.symm hne]
  all_goals dsimp only
  · split
    · rw [uint32_of_lt (by omega)]
      exact Nat.succ_pos _
    · exact hserves.pos
  · split
    · next heq =>
      rw [uint32_of_lt (by omega), heq, mem_append, mem_singleton]
      rintro (hrow | hsame)
      · exact absurd (habove _ hrow) (by omega)
      · omega
    · next hne => simp [hserves.free, hne]
  · have hbelow := hserves.mem_iff other
    split
    · next heq =>
      rw [uint32_of_lt (by omega), mem_append, mem_singleton]
      grind
    · grind

theorem Serves.load (hserves : Serves rows [] mgr) (hmax : mgr._instanceIds.length < 2 ^ 32)
    {rest : List ℕ} (hsorted : (rows ++ rest).Pairwise (· < ·))
    (hlen : ∀ row ∈ rest, row < mgr._instanceIds.length) :
    ∃ after, rest.foldlM RegisterInstanceId mgr = some after ∧ Serves (rows ++ rest) [] after := by
  induction rest generalizing rows mgr with
  | nil => exact ⟨mgr, rfl, by rwa [append_nil]⟩
  | cons row rest ih =>
    obtain ⟨next, hnext, hserves, hsame⟩ := hserves.registered (hlen row mem_cons_self) hmax
      fun other hother => (pairwise_append.mp hsorted).2.2 other hother row mem_cons_self
    rw [append_cons] at hsorted ⊢
    obtain ⟨after, hafter, hserves⟩ := ih hserves (hsame ▸ hmax) hsorted
      fun other hother => hsame ▸ hlen other (mem_cons_of_mem _ hother)
    exact ⟨after, by rw [foldlM_cons, hnext]; exact hafter, hserves⟩

def NewIds (rows : List ℕ) : Prop :=
  ∃ mgr, LoadInstanceSaves rows = some mgr ∧ ∀ calls ids after, mgr.generate calls = (ids, after) →
      after._nextInstanceId < 0xFFFFFFFF → (∀ id ∈ ids, id ≠ 0 ∧ id ∉ rows) ∧ ids.Nodup ∧
          ∀ id, 0 < id → id ∉ rows → (∃ other ∈ ids, id < other) → id ∈ ids

theorem max?_getD_lt {bound : ℕ} (hbound : ∀ row ∈ rows, row < bound) (hpos : 0 < bound) :
    rows.max?.getD 0 < bound := by
  cases hmax : rows.max? with
  | none => exact hpos
  | some row => exact hbound row (max?_mem hmax)

theorem new_ids_iff (rows : List ℕ) (hsorted : rows.Pairwise (· < ·))
    (huint : ∀ row ∈ rows, row < 2 ^ 32) : NewIds rows ↔ 0xFFFFFFFF ∉ rows := by
  constructor
  · rintro ⟨mgr, hload, -⟩ hlast
    have hmax : rows.max?.getD 0 = 0xFFFFFFFF := Nat.le_antisymm
      (Nat.le_of_lt_succ (max?_getD_lt huint (by decide))) (le_max?_getD_of_mem hlast)
    have hwrap : InitInstanceIds rows = ⟨[], 1⟩ := by
      unfold InitInstanceIds
      rw [hmax]
      rfl
    obtain ⟨row, rest, rfl⟩ := exists_cons_of_ne_nil (ne_nil_of_mem hlast)
    rw [LoadInstanceSaves, hwrap, foldlM_cons,
      show RegisterInstanceId ⟨[], 1⟩ row = none from if_neg (Nat.not_lt_zero _)] at hload
    nomatch hload
  · intro hlast
    have hmax : rows.max?.getD 0 < 0xFFFFFFFF := max?_getD_lt
      (fun row hrow => Nat.lt_of_le_of_ne (Nat.le_of_lt_succ (huint row hrow))
        fun heq => hlast (heq ▸ hrow)) (by decide)
    have hlen : (InitInstanceIds rows)._instanceIds.length = rows.max?.getD 0 + 1 := by
      rw [InitInstanceIds, length_replicate, uint32_of_lt (by omega)]
    have hstart : Serves [] [] (InitInstanceIds rows) :=
      ⟨fun id => by simp [InitInstanceIds, getElem?_replicate], Nat.one_pos, not_mem_nil,
        fun id => by simp [InitInstanceIds]; omega, nodup_nil⟩
    obtain ⟨mgr, hload, hserves⟩ := hstart.load (by omega) hsorted
      fun row hrow => hlen ▸ Nat.lt_succ_of_le (le_max?_getD_of_mem hrow)
    refine ⟨mgr, hload, fun calls ids after hrun hlt => ?_⟩
    have hserved := hserves.generate calls (by rwa [hrun])
    rw [hrun] at hserved
    refine ⟨fun id hid => ?_, hserved.nodup, fun id hpos hnew hskip => ?_⟩
    · obtain ⟨hpos, -, hnew⟩ := (hserved.mem_iff id).mp hid
      exact ⟨hpos.ne', hnew⟩
    · obtain ⟨other, hother, hless⟩ := hskip
      exact (hserved.mem_iff id).mpr
        ⟨hpos, hless.trans ((hserved.mem_iff other).mp hother).2.1, hnew⟩

theorem new_ids_between : NewIds [1, 2, 5] :=
  (new_ids_iff [1, 2, 5] (by decide) (by decide)).mpr (by decide)

theorem last_id_loses_marks : ¬ NewIds [0xFFFFFFFF] := by
  rintro ⟨mgr, hload, -⟩
  have hwrap : InitInstanceIds [0xFFFFFFFF] = ⟨[], 1⟩ := rfl
  rw [LoadInstanceSaves, hwrap] at hload
  nomatch hload

end MapMgr

end AzerothCore.Instances
