import AzerothCore.Collections.StdMap
import AzerothCore.Common.Define
import Mathlib.Data.Finset.Empty
import Mathlib.Data.Finset.Lattice.Basic
import Mathlib.Data.List.Lex
import Mathlib.Data.Multiset.Sort

/-!
# `LFGMgr::CheckGroupRoles`

The roles of a group are settled by a search. A scan of the map counts the players with
one role left. At a player with more, it takes one of them away and starts over, and
gives the role back when that fails.
-/

namespace AzerothCore.DungeonFinding
open List Option Function Nat StdMap

def PLAYER_ROLE_NONE : BitVec 8 := 0

def PLAYER_ROLE_LEADER : BitVec 8 := 1

inductive LfgRole where
  | DAMAGE
  | HEALER
  | TANK
  deriving DecidableEq

namespace LfgRole

/-- The bit of a role, such as `PLAYER_ROLE_TANK`. -/
def bit : LfgRole → BitVec 8
  | DAMAGE => 8
  | HEALER => 4
  | TANK => 2

/-- The players of a role, such as `LFG_TANKS_NEEDED`. -/
def needed : LfgRole → ℕ
  | DAMAGE => 3
  | HEALER => 1
  | TANK => 1

def order : List LfgRole := [DAMAGE, HEALER, TANK]

theorem mem_order (role : LfgRole) : role ∈ order := by
  cases role <;> decide

end LfgRole

def otherBits (byte : BitVec 8) : BitVec 8 :=
  byte &&& ~~~(LfgRole.TANK.bit ||| LfgRole.HEALER.bit ||| LfgRole.DAMAGE.bit)

def roleCount (byte : BitVec 8) : ℕ :=
  LfgRole.order.countP fun role => byte &&& role.bit ≠ 0

section Bytes

open LfgRole

variable {byte : BitVec 8} {role other : LfgRole}

section

variable (hrole : byte &&& role.bit ≠ 0)
include hrole

theorem sub_bit (hne : other ≠ role) : (byte - role.bit) &&& other.bit = byte &&& other.bit := by
  revert byte
  cases role <;> cases other <;> first | decide +kernel | exact absurd rfl hne

theorem sub_bit_self : (byte - role.bit) &&& role.bit = 0 := by
  revert byte
  cases role <;> decide +kernel

theorem otherBits_sub : otherBits (byte - role.bit) = otherBits byte := by
  revert byte
  cases role <;> decide +kernel

theorem roleCount_sub : roleCount (byte - role.bit) < roleCount byte := by
  revert byte
  cases role <;> decide +kernel

end

theorem otherBits_bit (role : LfgRole) : otherBits role.bit = 0 := by
  cases role <;> rfl

theorem bit_and_bit : role.bit &&& other.bit ≠ 0 ↔ role = other := by
  cases role <;> cases other <;> decide

theorem bit_injective (hbit : role.bit = other.bit) : role = other := by
  revert hbit
  cases role <;> cases other <;> decide

theorem eq_bit (hrole : byte &&& role.bit ≠ 0) (hother : otherBits byte = 0)
    (honly : ∀ other, other ≠ role → byte &&& other.bit = 0) : byte = role.bit := by
  cases role with
  | DAMAGE =>
    have hhealer := honly .HEALER (by decide)
    have htank := honly .TANK (by decide)
    clear honly
    revert byte
    decide +kernel
  | HEALER =>
    have hdamage := honly .DAMAGE (by decide)
    have htank := honly .TANK (by decide)
    clear honly
    revert byte
    decide +kernel
  | TANK =>
    have hdamage := honly .DAMAGE (by decide)
    have hhealer := honly .HEALER (by decide)
    clear honly
    revert byte
    decide +kernel

end Bytes

abbrev LfgRolesMap := StdMap ℕ (BitVec 8)

namespace LfgRolesMap

def role (groles : LfgRolesMap) (guid : ℕ) : BitVec 8 :=
  (groles.find? guid).getD PLAYER_ROLE_NONE

def removeLeaderFlag (groles : LfgRolesMap) : LfgRolesMap :=
  groles.mapValues fun _ byte => byte &&& ~~~PLAYER_ROLE_LEADER

def countRole (groles : LfgRolesMap) (role : LfgRole) : ℕ :=
  groles.countValues (· == role.bit)

def value (groles : LfgRolesMap) : ℕ :=
  8 * groles.countRole .TANK + 4 * groles.countRole .HEALER + groles.countRole .DAMAGE

def roleBits (groles : LfgRolesMap) : ℕ := groles.sumValues roleCount

end LfgRolesMap

abbrev RoleCounts := LfgRole → ℕ

inductive ScanStep where
  | returned (groles : LfgRolesMap) (value : ℕ)
  | goOn (groles : LfgRolesMap) (counts : RoleCounts)

variable (again : LfgRolesMap → Option (LfgRolesMap × ℕ)) (guid : ℕ)

def tryRole (role : LfgRole) (groles : LfgRolesMap) (counts : RoleCounts) : Option ScanStep :=
  if groles.role guid &&& role.bit ≠ 0 then
    if groles.role guid ≠ role.bit then
      match again (groles.insert guid (groles.role guid - role.bit)) with
      | none => none
      | some (tried, value) =>
        if value ≠ 0 then some (.returned tried value)
        else some (.goOn (tried.insert guid (tried.role guid + role.bit)) counts)
    else if counts role = role.needed then some (.returned groles 0)
    else some (.goOn groles (Function.update counts role (counts role + 1)))
  else some (.goOn groles counts)

def tryRoles : List LfgRole → LfgRolesMap → RoleCounts → Option ScanStep
  | [], groles, counts => some (.goOn groles counts)
  | role :: roles, groles, counts =>
    match tryRole again guid role groles counts with
    | some (.goOn groles counts) => tryRoles roles groles counts
    | other => other

def scanRoles : List ℕ → LfgRolesMap → RoleCounts → Option (LfgRolesMap × ℕ)
  | [], groles, counts =>
    some (groles, if counts .TANK + counts .HEALER + counts .DAMAGE = uint8 groles.size then
        8 * counts .TANK + 4 * counts .HEALER + counts .DAMAGE
      else 0)
  | guid :: rest, groles, counts =>
    if groles.role guid = PLAYER_ROLE_NONE then some (groles, 0)
    else
      match tryRoles again guid LfgRole.order groles counts with
      | none => none
      | some (.returned groles value) => some (groles, value)
      | some (.goOn groles counts) => scanRoles rest groles counts

/-- `CheckGroupRoles` without the leader flags, with a bound on the calls that it makes of
itself. -/
def checkRoles : ℕ → LfgRolesMap → Option (LfgRolesMap × ℕ)
  | 0, _ => none
  | calls + 1, groles =>
    if groles.size = 0 then some (groles, 0)
    else scanRoles (checkRoles calls) groles.keys groles fun _ => 0

/-- The map afterwards and the value. Every call takes a role from a player, so the role
bits bound the calls. -/
def CheckGroupRoles (groles : LfgRolesMap) : Option (LfgRolesMap × ℕ) :=
  if groles.size = 0 then some (groles, 0)
  else checkRoles (groles.removeLeaderFlag.roleBits + 1) groles.removeLeaderFlag

structure Assigns (groles assigned : LfgRolesMap) : Prop where
  keys : assigned.keys = groles.keys
  requested : ∀ guid byte, groles.find? guid = some byte →
    ∃ role : LfgRole, assigned.find? guid = some role.bit ∧ byte &&& role.bit ≠ 0
  count_le : ∀ role, assigned.countRole role ≤ role.needed

def OnlyRoles (groles : LfgRolesMap) : Prop :=
  ∀ guid byte, groles.find? guid = some byte → otherBits byte = 0

structure Solves (groles assigned : LfgRolesMap) : Prop extends Assigns groles assigned where
  nonempty : groles.size ≠ 0
  onlyRoles : OnlyRoles groles

def Solvable (groles : LfgRolesMap) : Prop := ∃ assigned, Solves groles assigned

def Settles (groles : LfgRolesMap) (result : Option (LfgRolesMap × ℕ)) : Prop :=
  ∃ after value, result = some (after, value) ∧
    (value ≠ 0 ∧ Solves groles after ∧ value = after.value ∨
      value = 0 ∧ after = groles ∧ ¬ Solvable groles)

section Taking

variable {groles assigned : LfgRolesMap} {guid : ℕ} {byte : BitVec 8} {role : LfgRole}

theorem Solves.of_taken (hfind : groles.find? guid = some byte)
    (hrole : byte &&& role.bit ≠ 0)
    (hsolves : Solves (groles.insert guid (byte - role.bit)) assigned) :
    Solves groles assigned where
  keys := by
    rw [hsolves.keys]
    exact keys_insert_of_mem _ (mem_of_find? hfind)
  requested other requested hother := by
    by_cases hsame : guid = other
    · subst hsame
      obtain rfl := some.inj (hfind.symm.trans hother)
      obtain ⟨given, hgiven, hand⟩ := hsolves.requested guid _ (find?_insert_self _ _ _)
      refine ⟨given, hgiven, ?_⟩
      have hne : given ≠ role := by
        rintro rfl
        exact hand (sub_bit_self hrole)
      rw [sub_bit hrole hne] at hand
      exact hand
    · apply hsolves.requested other requested
      rw [find?_insert, if_neg hsame]
      exact hother
  count_le := hsolves.count_le
  nonempty := by
    rw [← size_insert_of_mem (byte - role.bit) (mem_of_find? hfind)]
    exact hsolves.nonempty
  onlyRoles other requested hother := by
    by_cases hsame : guid = other
    · subst hsame
      obtain rfl := some.inj (hfind.symm.trans hother)
      rw [← otherBits_sub hrole]
      exact hsolves.onlyRoles guid _ (find?_insert_self _ _ _)
    · apply hsolves.onlyRoles other requested
      rw [find?_insert, if_neg hsame]
      exact hother

theorem Solves.taken {given : LfgRole} (hsolves : Solves groles assigned)
    (hfind : groles.find? guid = some byte) (hrole : byte &&& role.bit ≠ 0)
    (hgiven : assigned.find? guid = some given.bit) (hand : byte &&& given.bit ≠ 0)
    (hne : given ≠ role) : Solves (groles.insert guid (byte - role.bit)) assigned where
  keys := by
    rw [hsolves.keys]
    exact (keys_insert_of_mem _ (mem_of_find? hfind)).symm
  requested other requested hother := by
    rw [find?_insert] at hother
    split at hother
    case isFalse => exact hsolves.requested other requested hother
    rename_i hsame
    subst hsame
    cases hother
    refine ⟨given, hgiven, ?_⟩
    rw [sub_bit hrole hne]
    exact hand
  count_le := hsolves.count_le
  nonempty := by
    rw [size_insert_of_mem _ (mem_of_find? hfind)]
    exact hsolves.nonempty
  onlyRoles other requested hother := by
    rw [find?_insert] at hother
    split at hother
    case isFalse => exact hsolves.onlyRoles other requested hother
    rename_i hsame
    cases hother
    rw [otherBits_sub hrole]
    exact hsolves.onlyRoles guid byte hfind

theorem not_solvable_of_taken (hfind : groles.find? guid = some byte)
    (hmore : ∀ role : LfgRole, byte ≠ role.bit)
    (hfailed : ∀ role : LfgRole, byte &&& role.bit ≠ 0 →
      ¬ Solvable (groles.insert guid (byte - role.bit))) : ¬ Solvable groles := by
  rintro ⟨assigned, hsolves⟩
  obtain ⟨given, hgiven, hand⟩ := hsolves.requested guid byte hfind
  have hother : ∃ role, role ≠ given ∧ byte &&& role.bit ≠ 0 := by
    by_contra hnone
    apply hmore given
    apply eq_bit hand (hsolves.onlyRoles guid byte hfind)
    intro other hne
    by_contra hset
    exact hnone ⟨other, hne, hset⟩
  obtain ⟨role, hne, hrole⟩ := hother
  exact hfailed role hrole ⟨assigned, hsolves.taken hfind hrole hgiven hand hne.symm⟩

end Taking

section Scanning

variable {again : LfgRolesMap → Option (LfgRolesMap × ℕ)} {groles : LfgRolesMap} {guid : ℕ}
  {byte : BitVec 8} {counts : RoleCounts}

section

variable (hfind : groles.find? guid = some byte)
include hfind

theorem role_of_find? : groles.role guid = byte := by
  rw [LfgRolesMap.role, hfind, getD_some]

theorem put_back (role : LfgRole) : (groles.insert guid (byte - role.bit)).insert guid
      (LfgRolesMap.role (groles.insert guid (byte - role.bit)) guid + role.bit) = groles := by
  rw [role_of_find? (find?_insert_self _ _ _), BitVec.sub_add_cancel,
    insert_insert_self, insert_of_find? hfind]

/-- A player with more than one role: a scan without one of them finds a solution, or all
of them fail and nothing changes. -/
theorem tryRoles_more (hmore : ∀ role : LfgRole, byte ≠ role.bit)
    (hagain : ∀ role : LfgRole, byte &&& role.bit ≠ 0 →
      Settles (groles.insert guid (byte - role.bit))
        (again (groles.insert guid (byte - role.bit)))) (roles : List LfgRole) :
    (∃ after value, tryRoles again guid roles groles counts = some (.returned after value) ∧
        value ≠ 0 ∧ Solves groles after ∧ value = after.value) ∨
      tryRoles again guid roles groles counts = some (.goOn groles counts) ∧
        ∀ role ∈ roles, byte &&& role.bit ≠ 0 →
          ¬ Solvable (groles.insert guid (byte - role.bit)) := by
  induction roles with
  | nil => exact .inr ⟨rfl, nofun⟩
  | cons role roles ih =>
    rw [tryRoles, tryRole, role_of_find? hfind]
    by_cases hrole : byte &&& role.bit ≠ 0
    · obtain ⟨after, value, hresult, hfound | hfailed⟩ := hagain role hrole
      · obtain ⟨hvalue, hsolves, hafter⟩ := hfound
        rw [if_pos hrole, if_pos (hmore role), hresult]
        refine .inl ⟨after, value, ?_, hvalue, hsolves.of_taken hfind hrole, hafter⟩
        dsimp only
        rw [if_pos hvalue]
      · obtain ⟨hvalue, rfl, hnot⟩ := hfailed
        rw [if_pos hrole, if_pos (hmore role), hresult]
        dsimp only
        rw [if_neg (not_not.mpr hvalue), put_back hfind role]
        refine ih.imp_right fun hrest => ⟨hrest.1, ?_⟩
        intro other hother hset
        rcases mem_cons.mp hother with rfl | hin
        · exact hnot
        · exact hrest.2 other hin hset
    · rw [if_neg hrole]
      refine ih.imp_right fun hrest => ⟨hrest.1, ?_⟩
      intro other hother hset
      rcases mem_cons.mp hother with rfl | hin
      · exact absurd hset hrole
      · exact hrest.2 other hin hset

end

theorem tryRole_other {role other : LfgRole} (hfind : groles.find? guid = some role.bit)
    (hne : role ≠ other) :
    tryRole again guid other groles counts = some (.goOn groles counts) := by
  rw [tryRole, role_of_find? hfind, if_neg]
  rw [bit_and_bit]
  exact hne

section

variable {role : LfgRole} (hfind : groles.find? guid = some role.bit)
include hfind

theorem tryRole_one : tryRole again guid role groles counts =
      if counts role = role.needed then some (.returned groles 0)
      else some (.goOn groles (Function.update counts role (counts role + 1))) := by
  rw [tryRole, role_of_find? hfind, if_pos (bit_and_bit.mpr rfl), if_neg fun hne => hne rfl]

variable {roles : List LfgRole}

theorem tryRoles_others (hnot : role ∉ roles) :
    tryRoles again guid roles groles counts = some (.goOn groles counts) := by
  induction roles with
  | nil => rfl
  | cons other roles ih =>
    rw [tryRoles, tryRole_other hfind (ne_of_not_mem_cons hnot)]
    exact ih (not_mem_of_not_mem_cons hnot)

theorem tryRoles_one (hnodup : roles.Nodup) (hmem : role ∈ roles) :
    tryRoles again guid roles groles counts =
      if counts role = role.needed then some (.returned groles 0)
      else some (.goOn groles (Function.update counts role (counts role + 1))) := by
  induction roles with
  | nil => cases hmem
  | cons other roles ih =>
    obtain ⟨hnot, hrest⟩ := nodup_cons.mp hnodup
    rw [tryRoles]
    by_cases hsame : role = other
    · subst hsame
      rw [tryRole_one hfind]
      by_cases henough : counts role = role.needed
      · rw [if_pos henough]
      · rw [if_neg henough]
        exact tryRoles_others hfind hnot
    · rw [tryRole_other hfind hsame]
      exact ih hrest ((mem_cons.mp hmem).resolve_left hsame)

end

def countAmong (groles : LfgRolesMap) (role : LfgRole) (players : List ℕ) : ℕ :=
  players.countP fun guid => groles.find? guid = some role.bit

theorem countAmong_cons_one {role : LfgRole} (hfind : groles.find? guid = some role.bit)
    (other : LfgRole) (players : List ℕ) :
    countAmong groles other (guid :: players) =
      countAmong groles other players + if role = other then 1 else 0 := by
  rw [countAmong, countP_cons, hfind]
  congr 1
  by_cases hsame : role = other
  · rw [if_pos hsame, if_pos (decide_eq_true (congrArg (some ·.bit) hsame))]
  rw [if_neg hsame, if_neg]
  rw [decide_eq_true_iff]
  exact fun hbit => hsame (bit_injective (some.inj hbit))

theorem countAmong_cons_more (hmore : ¬ ∃ role : LfgRole, groles.find? guid = some role.bit)
    (other : LfgRole) (players : List ℕ) :
    countAmong groles other (guid :: players) = countAmong groles other players := by
  apply countP_cons_of_neg
  rw [decide_eq_true_iff]
  exact fun hfind => hmore ⟨other, hfind⟩

theorem countRole_eq (groles : LfgRolesMap) (role : LfgRole) :
    groles.countRole role = countAmong groles role groles.keys := by
  rw [LfgRolesMap.countRole, countValues_eq_countP]
  apply countP_congr
  intro guid _
  cases groles.find? guid with
  | none => exact iff_of_false Bool.false_ne_true (by simp)
  | some byte => simp

theorem countAmong_append (role : LfgRole) (players others : List ℕ) :
    countAmong groles role (players ++ others) =
      countAmong groles role players + countAmong groles role others :=
  countP_append

structure Scanned (groles : LfgRolesMap) (done : List ℕ) (counts : RoleCounts) : Prop where
  counted : ∀ role, counts role = countAmong groles role done
  enough : ∀ role, counts role ≤ role.needed
  one : (∀ guid ∈ done, ∃ role : LfgRole, groles.find? guid = some role.bit) ∨ ¬ Solvable groles

theorem Scanned.init (groles : LfgRolesMap) : Scanned groles [] fun _ => 0 where
  counted _ := rfl
  enough _ := Nat.zero_le _
  one := .inl nofun

theorem not_solvable_of_count {role : LfgRole} {players : List ℕ}
    (hplayers : players.Sublist groles.keys)
    (hcount : role.needed < countAmong groles role players) : ¬ Solvable groles := by
  rintro ⟨assigned, hsolves⟩
  have hle := hsolves.count_le role
  have hgiven : ∀ guid, groles.find? guid = some role.bit →
      assigned.find? guid = some role.bit := by
    intro guid hfind
    obtain ⟨given, hgiven, hand⟩ := hsolves.requested guid _ hfind
    rw [bit_and_bit.mp hand]
    exact hgiven
  have hfew : countAmong groles role players ≤ assigned.countRole role := by
    calc
      _ ≤ players.countP fun guid => (assigned.find? guid).any (· == role.bit) := by
        apply countP_mono_left
        intro guid _ hfind
        rw [hgiven guid (of_decide_eq_true hfind)]
        exact beq_self_eq_true role.bit
      _ ≤ groles.keys.countP fun guid => (assigned.find? guid).any (· == role.bit) :=
        hplayers.countP_le
      _ = assigned.countRole role := by
        rw [LfgRolesMap.countRole, countValues_eq_countP, hsolves.keys]
  exact absurd (hcount.trans_le hfew) (Nat.not_lt.mpr hle)

theorem Scanned.tryRoles {done : List ℕ} (hscanned : Scanned groles done counts)
    (hfind : groles.find? guid = some byte) (hsub : (done ++ [guid]).Sublist groles.keys)
    (hagain : ∀ role : LfgRole, byte &&& role.bit ≠ 0 →
      Settles (groles.insert guid (byte - role.bit))
        (again (groles.insert guid (byte - role.bit)))) :
    (∃ after value, tryRoles again guid LfgRole.order groles counts =
          some (.returned after value) ∧ Settles groles (some (after, value))) ∨
      ∃ next, tryRoles again guid LfgRole.order groles counts = some (.goOn groles next) ∧
        Scanned groles (done ++ [guid]) next := by
  by_cases hone : ∃ role : LfgRole, byte = role.bit
  · obtain ⟨role, rfl⟩ := hone
    rw [tryRoles_one hfind (by decide) (LfgRole.mem_order role)]
    have hcount (other : LfgRole) : countAmong groles other (done ++ [guid]) =
        counts other + if role = other then 1 else 0 := by
      rw [countAmong_append, countAmong_cons_one hfind, ← hscanned.counted other]
      exact congrArg (counts other + ·) (Nat.zero_add _)
    by_cases henough : counts role = role.needed
    · rw [if_pos henough]
      refine .inl ⟨groles, 0, rfl, groles, 0, rfl, .inr ⟨rfl, rfl, ?_⟩⟩
      apply not_solvable_of_count hsub
      rw [hcount role, henough, if_pos rfl]
      exact lt_succ_self _
    rw [if_neg henough]
    refine .inr ⟨_, rfl, fun other => ?_, fun other => ?_, ?_⟩
    · rw [hcount other]
      by_cases hother : other = role
      · rw [hother, update_self, if_pos rfl]
      · rw [update_of_ne hother, if_neg (Ne.symm hother), Nat.add_zero]
    · by_cases hother : other = role
      · rw [hother, update_self]
        exact lt_of_le_of_ne (hscanned.enough role) henough
      · rw [update_of_ne hother]
        exact hscanned.enough other
    · refine hscanned.one.imp_left fun hdone other hother => ?_
      rcases mem_append.mp hother with hin | hnew
      · exact hdone other hin
      · rw [mem_singleton.mp hnew]
        exact ⟨role, hfind⟩
  · have hmore : ∀ role : LfgRole, byte ≠ role.bit := fun role hbit => hone ⟨role, hbit⟩
    rcases @tryRoles_more again groles guid byte counts hfind hmore hagain LfgRole.order with
      ⟨after, value, hresult, hfound⟩ | ⟨hresult, hfailed⟩
    · exact .inl ⟨after, value, hresult, after, value, rfl, .inl hfound⟩
    refine .inr ⟨counts, hresult, fun role => ?_, hscanned.enough, .inr ?_⟩
    · rw [countAmong_append, countAmong_cons_more, ← hscanned.counted role]
      · rfl
      · rw [hfind]
        exact fun ⟨role, hbit⟩ => hmore role (some.inj hbit)
    · exact not_solvable_of_taken hfind hmore
        fun role => hfailed role (LfgRole.mem_order role)

def countOne (groles : LfgRolesMap) (players : List ℕ) : ℕ :=
  countAmong groles .TANK players + countAmong groles .HEALER players +
    countAmong groles .DAMAGE players

theorem countOne_eq_length_iff (players : List ℕ) : countOne groles players ≤ players.length ∧
      (countOne groles players = players.length ↔
        ∀ guid ∈ players, ∃ role : LfgRole, groles.find? guid = some role.bit) := by
  induction players with
  | nil => exact ⟨le_rfl, iff_of_true rfl nofun⟩
  | cons guid players ih =>
    obtain ⟨hle, hiff⟩ := ih
    rw [forall_mem_cons, ← hiff, length_cons]
    by_cases hone : ∃ role : LfgRole, groles.find? guid = some role.bit
    · have hcounted : countOne groles (guid :: players) = countOne groles players + 1 := by
        obtain ⟨role, hfind⟩ := hone
        unfold countOne
        rw [countAmong_cons_one hfind, countAmong_cons_one hfind, countAmong_cons_one hfind]
        cases role <;> simp <;> omega
      rw [hcounted, Nat.add_right_cancel_iff, and_iff_right hone]
      exact ⟨succ_le_succ hle, Iff.rfl⟩
    · have hcounted : countOne groles (guid :: players) = countOne groles players := by
        unfold countOne
        rw [countAmong_cons_more hone, countAmong_cons_more hone, countAmong_cons_more hone]
      rw [hcounted]
      refine ⟨hle.trans (le_succ _), iff_of_false ?_ fun hboth => hone hboth.1⟩
      exact fun heq => absurd (heq ▸ hle) (not_succ_le_self _)

theorem Solves.self (hone : ∀ guid ∈ groles.keys, ∃ role : LfgRole,
      groles.find? guid = some role.bit) (hnonempty : groles.size ≠ 0)
    (henough : ∀ role, countAmong groles role groles.keys ≤ role.needed) :
    Solves groles groles where
  keys := rfl
  requested guid byte hfind := by
    obtain ⟨role, hrole⟩ := hone guid (mem_of_find? hfind)
    refine ⟨role, hrole, ?_⟩
    rw [some.inj (hfind.symm.trans hrole)]
    exact bit_and_bit.mpr rfl
  count_le role := (countRole_eq groles role).trans_le (henough role)
  nonempty := hnonempty
  onlyRoles guid byte hfind := by
    obtain ⟨role, hrole⟩ := hone guid (mem_of_find? hfind)
    rw [some.inj (hfind.symm.trans hrole)]
    exact otherBits_bit role

theorem settles_scanRoles (hsize : groles.size < 256) (hnonempty : groles.size ≠ 0)
    (hagain : ∀ guid byte, groles.find? guid = some byte → ∀ role : LfgRole,
      byte &&& role.bit ≠ 0 → Settles (groles.insert guid (byte - role.bit))
        (again (groles.insert guid (byte - role.bit))))
    (rest done : List ℕ) (counts : RoleCounts) (hkeys : done ++ rest = groles.keys)
    (hscanned : Scanned groles done counts) :
    Settles groles (scanRoles again rest groles counts) := by
  induction rest generalizing done counts with
  | nil =>
    rw [append_nil] at hkeys
    subst hkeys
    have hlen : groles.size = groles.keys.length := (length_map _).symm
    have huint8 : uint8 groles.size = groles.size := uint8_of_lt hsize
    have htotal : counts .TANK + counts .HEALER + counts .DAMAGE = countOne groles groles.keys := by
      rw [countOne, hscanned.counted, hscanned.counted, hscanned.counted]
    have hiff := (@countOne_eq_length_iff groles groles.keys).2
    rw [scanRoles, huint8]
    by_cases hall : counts .TANK + counts .HEALER + counts .DAMAGE = groles.size
    · rw [if_pos hall]
      refine ⟨groles, _, rfl, .inl ⟨?_, ?_, ?_⟩⟩
      · omega
      · apply Solves.self
        · rw [← hiff, ← htotal, hall, hlen]
        · exact hnonempty
        · intro role
          rw [← hscanned.counted role]
          exact hscanned.enough role
      · rw [LfgRolesMap.value, countRole_eq, countRole_eq, countRole_eq, ← hscanned.counted,
          ← hscanned.counted, ← hscanned.counted]
    · rw [if_neg hall]
      refine ⟨groles, 0, rfl, .inr ⟨rfl, rfl, hscanned.one.resolve_left fun hone => hall ?_⟩⟩
      rw [htotal, hiff.mpr hone, hlen]
  | cons guid rest ih =>
    have hmem : guid ∈ groles.keys := by
      rw [← hkeys]
      exact mem_append_right _ mem_cons_self
    obtain ⟨byte, hfind⟩ := mem_iff_find?.mp hmem
    have hsplit : (done ++ [guid]) ++ rest = groles.keys := by
      rw [append_assoc]
      exact hkeys
    have hsub : (done ++ [guid]).Sublist groles.keys := by
      rw [← hsplit]
      exact sublist_append_left _ _
    rw [scanRoles, role_of_find? hfind]
    by_cases hnone : byte = PLAYER_ROLE_NONE
    · rw [if_pos hnone]
      refine ⟨groles, 0, rfl, .inr ⟨rfl, rfl, ?_⟩⟩
      rintro ⟨assigned, hsolves⟩
      obtain ⟨role, -, hand⟩ := hsolves.requested guid byte hfind
      apply hand
      rw [hnone]
      exact BitVec.zero_and
    · rw [if_neg hnone]
      rcases hscanned.tryRoles hfind hsub (hagain guid byte hfind) with
        ⟨after, value, hresult, hsettles⟩ | ⟨next, hresult, hnext⟩
      · rw [hresult]
        exact hsettles
      · rw [hresult]
        exact ih (done ++ [guid]) next hsplit hnext

theorem settles_checkRoles (calls : ℕ) (groles : LfgRolesMap) (hsize : groles.size < 256)
    (hcalls : groles.roleBits < calls) : Settles groles (checkRoles calls groles) := by
  induction calls generalizing groles with
  | zero => exact absurd hcalls (Nat.not_lt_zero _)
  | succ calls ih =>
    rw [checkRoles]
    split
    case isTrue hempty =>
      refine ⟨groles, 0, rfl, .inr ⟨rfl, rfl, ?_⟩⟩
      exact fun ⟨_, hsolves⟩ => hsolves.nonempty hempty
    rename_i hnonempty
    apply settles_scanRoles hsize hnonempty _ groles.keys [] _ rfl (Scanned.init groles)
    intro guid byte hfind role hrole
    apply ih
    · rw [size_insert_of_mem _ (mem_of_find? hfind)]
      exact hsize
    · have hless : LfgRolesMap.roleBits (groles.insert guid (byte - role.bit)) <
          groles.roleBits := by
        unfold LfgRolesMap.roleBits
        rw [sumValues_insert, ← sumValues_erase roleCount hfind]
        exact Nat.add_lt_add_right (roleCount_sub hrole) _
      exact hless.trans_le (le_of_lt_succ hcalls)

end Scanning

theorem removeLeader_and (byte : BitVec 8) (role : LfgRole) :
    (byte &&& ~~~PLAYER_ROLE_LEADER) &&& role.bit = byte &&& role.bit := by
  revert byte
  cases role <;> decide +kernel

theorem find?_removeLeaderFlag (groles : LfgRolesMap) (guid : ℕ) :
    groles.removeLeaderFlag.find? guid = (groles.find? guid).map (· &&& ~~~PLAYER_ROLE_LEADER) :=
  find?_mapValues _ _ _

theorem size_removeLeaderFlag (groles : LfgRolesMap) : groles.removeLeaderFlag.size = groles.size :=
  length_map _

theorem assigns_removeLeaderFlag {groles assigned : LfgRolesMap} :
    Assigns groles.removeLeaderFlag assigned ↔ Assigns groles assigned := by
  constructor
  · intro hassigns
    refine ⟨hassigns.keys.trans (keys_mapValues _ _), ?_, hassigns.count_le⟩
    intro guid byte hfind
    obtain ⟨role, hgiven, hand⟩ := hassigns.requested guid (byte &&& ~~~PLAYER_ROLE_LEADER)
      (by rw [find?_removeLeaderFlag, hfind, map_some])
    rw [removeLeader_and] at hand
    exact ⟨role, hgiven, hand⟩
  · intro hassigns
    refine ⟨hassigns.keys.trans (keys_mapValues _ _).symm, ?_, hassigns.count_le⟩
    intro guid byte hfind
    rw [find?_removeLeaderFlag] at hfind
    obtain ⟨requested, hrequested, rfl⟩ := map_eq_some_iff.mp hfind
    obtain ⟨role, hgiven, hand⟩ := hassigns.requested guid requested hrequested
    refine ⟨role, hgiven, ?_⟩
    rw [removeLeader_and]
    exact hand

/-- The check returns. Its value is not zero exactly when there are players, none of them
has a bit that is no role, and the roles can be assigned; then the map is an assignment
with this value. Otherwise the map has only lost the leader flags. -/
theorem CheckGroupRoles_spec (groles : LfgRolesMap) (hsize : groles.size < 256) :
    ∃ after value, CheckGroupRoles groles = some (after, value) ∧
      (value ≠ 0 ↔ groles.size ≠ 0 ∧ OnlyRoles groles.removeLeaderFlag ∧
        ∃ assigned, Assigns groles assigned) ∧
      (value ≠ 0 → Assigns groles after ∧ value = after.value) ∧
      (value = 0 → after = groles.removeLeaderFlag) := by
  rw [CheckGroupRoles]
  split
  case isTrue hempty =>
    refine ⟨groles, 0, rfl, iff_of_false (fun h => h rfl) fun h => h.1 hempty,
      fun h => absurd rfl h, fun _ => ?_⟩
    apply ext_entries
    have hnil : groles.entries = [] := length_eq_zero_iff.mp hempty
    change groles.entries = groles.entries.map _
    rw [hnil, map_nil]
  case isFalse hnonempty =>
    have hstripped := (size_removeLeaderFlag groles).trans_lt hsize
    obtain ⟨after, value, hresult, hfound | hfailed⟩ := settles_checkRoles
      (groles.removeLeaderFlag.roleBits + 1) groles.removeLeaderFlag hstripped
      (lt_succ_self _)
    · obtain ⟨hvalue, hsolves, hafter⟩ := hfound
      have hassigns := assigns_removeLeaderFlag.mp hsolves.toAssigns
      exact ⟨after, value, hresult,
        iff_of_true hvalue ⟨hnonempty, hsolves.onlyRoles, after, hassigns⟩,
        fun _ => ⟨hassigns, hafter⟩, fun hzero => absurd hzero hvalue⟩
    · obtain ⟨hzero, hafter, hnot⟩ := hfailed
      refine ⟨after, value, hresult, iff_of_false (fun h => h hzero) ?_,
        fun hvalue => absurd hzero hvalue, fun _ => hafter⟩
      rintro ⟨-, honly, assigned, hassigns⟩
      refine hnot ⟨assigned, assigns_removeLeaderFlag.mpr hassigns, ?_, honly⟩
      rw [size_removeLeaderFlag]
      exact hnonempty

def twoPlayers : LfgRolesMap := (StdMap.empty.insert 1 6).insert 2 4

theorem twoPlayers_settled : twoPlayers.size < 256 ∧
    ∃ after value, CheckGroupRoles twoPlayers = some (after, value) ∧
      (value ≠ 0 → Assigns twoPlayers after) := by
  have hsize : twoPlayers.size < 256 := by decide
  obtain ⟨after, value, hresult, -, hassigned, -⟩ := CheckGroupRoles_spec twoPlayers hsize
  exact ⟨hsize, after, value, hresult, fun hvalue => (hassigned hvalue).1⟩

def strayBit : LfgRolesMap := StdMap.empty.insert 1 0x18

/-- The check of a byte with another bit fails, though the role could be assigned. -/
theorem strayBit_fails : ∃ groles : LfgRolesMap, groles.size < 256 ∧
    ∃ after, CheckGroupRoles groles = some (after, 0) ∧ ∃ assigned, Assigns groles assigned := by
  refine ⟨strayBit, by decide, strayBit, by decide +kernel,
    StdMap.empty.insert 1 LfgRole.DAMAGE.bit, rfl, ?_, ?_⟩
  · intro guid byte hfind
    have hguid := mem_of_find? hfind
    rw [strayBit, mem_insert] at hguid
    obtain rfl := hguid.resolve_right (not_mem_empty guid)
    cases hfind
    exact ⟨.DAMAGE, find?_insert_self _ _ _, by decide⟩
  · intro role
    cases role <;> decide

end AzerothCore.DungeonFinding

/-!
## `LFGQueue::CheckCompatibility`

The queues of the dungeon finder are combined one by one. A combination of five players
becomes a proposal, for which a leader is chosen. A guid is a number; `none` is the empty
guid.
-/

namespace AzerothCore.DungeonFinding

def MAXGROUPSIZE : ℕ := 5

def LFG_TIME_PROPOSAL : ℕ := 40

inductive LfgCompatibility where
  | LFG_COMPATIBILITY_PENDING
  | LFG_INCOMPATIBLES_WRONG_GROUP_SIZE
  | LFG_INCOMPATIBLES_TOO_MUCH_PLAYERS
  | LFG_INCOMPATIBLES_MULTIPLE_LFG_GROUPS
  | LFG_INCOMPATIBLES_HAS_IGNORES
  | LFG_INCOMPATIBLES_NO_ROLES
  | LFG_INCOMPATIBLES_NO_DUNGEONS
  | LFG_COMPATIBLES_WITH_LESS_PLAYERS
  | LFG_COMPATIBLES_MATCH
  deriving DecidableEq

inductive LfgAnswer where
  | LFG_ANSWER_PENDING
  | LFG_ANSWER_DENY
  | LFG_ANSWER_AGREE
  deriving DecidableEq

structure Lfg5Guids where
  guids : List ℕ
  roles : Option LfgRolesMap
  deriving DecidableEq

namespace Lfg5Guids

def withoutRoles (key : Lfg5Guids) : Lfg5Guids := { key with roles := none }

/-- Of five guids the last one makes room. -/
def insert (key : Lfg5Guids) (guid : ℕ) : Lfg5Guids :=
  { key with guids := (key.guids.take 4).orderedInsert (· ≤ ·) guid }

def force_insert_front (key : Lfg5Guids) (guid : ℕ) : Lfg5Guids :=
  { key with guids := guid :: key.guids.take 4 }

def addRoles (key : Lfg5Guids) (roles : LfgRolesMap) : Lfg5Guids :=
  { key with roles := some roles }

def clear (key : Lfg5Guids) : Lfg5Guids := { key with guids := [] }

def size (key : Lfg5Guids) : ℕ := key.guids.length

def hasGuid (key : Lfg5Guids) (guid : ℕ) : Bool := key.guids.contains guid

end Lfg5Guids

structure LfgQueueData where
  tanks : ℕ
  healers : ℕ
  dps : ℕ
  dungeons : Finset ℕ
  roles : LfgRolesMap
  bestCompatible : Lfg5Guids
  size_le : roles.size ≤ MAXGROUPSIZE

structure LFGQueue where
  QueueDataStore : StdMap ℕ LfgQueueData
  CompatibleList : List Lfg5Guids
  CompatibleTempList : List Lfg5Guids
  newToQueueStore : List ℕ
  restoredAfterProposal : List ℕ

namespace LFGQueue

def RemoveFromNewQueue (queue : LFGQueue) (guid : ℕ) : LFGQueue :=
  { queue with
    newToQueueStore := queue.newToQueueStore.filter (· ≠ guid)
    restoredAfterProposal := queue.restoredAfterProposal.filter (· ≠ guid) }

def RemoveFromCompatibles (queue : LFGQueue) (guid : ℕ) : LFGQueue :=
  { queue with
    CompatibleList := queue.CompatibleList.map fun key =>
      if key.hasGuid guid then key.clear else key
    CompatibleTempList := queue.CompatibleTempList.filter fun key => !key.hasGuid guid }

def RemoveFromQueue (queue : LFGQueue) (guid : ℕ) (isPartial : Bool) : LFGQueue :=
  let queue := (queue.RemoveFromNewQueue guid).RemoveFromCompatibles guid
  let cleared := queue.QueueDataStore.mapValues fun other data =>
    if other ≠ guid ∧ data.bestCompatible.hasGuid guid then
      { data with bestCompatible := data.bestCompatible.clear }
    else data
  { queue with QueueDataStore := if isPartial then cleared else cleared.erase guid }

def AddToCompatibles (queue : LFGQueue) (key : Lfg5Guids) : LFGQueue :=
  { queue with CompatibleTempList := queue.CompatibleTempList ++ [key] }

def modifyData (queue : LFGQueue) (guid : ℕ) (f : LfgQueueData → LfgQueueData) : LFGQueue :=
  match queue.QueueDataStore.find? guid with
  | none => queue
  | some data => { queue with QueueDataStore := queue.QueueDataStore.insert guid (f data) }

def countOff (data : LfgQueueData) (entry : ℕ × BitVec 8) : LfgQueueData :=
  if entry.2 &&& LfgRole.TANK.bit ≠ 0 then { data with tanks := toUint8 (data.tanks - 1) }
  else if entry.2 &&& LfgRole.HEALER.bit ≠ 0 then
    { data with healers := toUint8 (data.healers - 1) }
  else { data with dps := toUint8 (data.dps - 1) }

def UpdateBestCompatibleInQueue (key : Lfg5Guids) (data : LfgQueueData) : LfgQueueData :=
  if key.size ≤ data.bestCompatible.size then data
  else
    (key.roles.getD .empty).entries.foldl countOff
      { data with
        bestCompatible := key
        tanks := LfgRole.TANK.needed
        healers := LfgRole.HEALER.needed
        dps := LfgRole.DAMAGE.needed }

def rolesOf (queue : LFGQueue) (guid : ℕ) : LfgRolesMap :=
  ((queue.QueueDataStore.find? guid).map (·.roles)).getD .empty

def dungeonsOf (queue : LFGQueue) (guid : ℕ) : Finset ℕ :=
  ((queue.QueueDataStore.find? guid).map (·.dungeons)).getD ∅

end LFGQueue

/-! ## What a check asks and finds -/

/-- The managers that a check asks. `inThisQueue` is whether `GetQueue` of a guid is the
queue itself. -/
structure LfgEnv where
  now : ℕ
  IsTesting : Bool
  IsGroup : ℕ → Bool
  IsLfgGroup : ℕ → Bool
  HasIgnore : ℕ → ℕ → Bool
  isQueued : ℕ → Bool
  inThisQueue : ℕ → Bool
  GetCompletedEncounterMask : ℕ → ℕ → ℕ

/-- The random choices of a proposal: the dungeon, and `urand(0, 1)` at each player. -/
structure RandomChoices where
  SelectRandomContainerElement : Finset ℕ → ℕ
  urand : ℕ → Bool

structure Found where
  foundMask : BitVec 64
  foundCount : ℕ

structure LfgProposalPlayer where
  role : BitVec 8
  accept : LfgAnswer
  group : Option ℕ

structure LfgProposal where
  dungeonId : ℕ
  group : Option ℕ
  leader : Option ℕ
  cancelTime : ℕ
  encounters : ℕ
  isNew : Bool
  queues : Lfg5Guids
  players : StdMap ℕ LfgProposalPlayer

/-- What a check leaves behind. -/
structure Checked where
  queue : LFGQueue
  found : Found
  compatibility : LfgCompatibility
  proposal : Option LfgProposal

/-! ## The players of a combination -/

structure Gathered where
  numPlayers : ℕ
  numLfgGroups : ℕ
  proposalGroups : StdMap ℕ (Option ℕ)
  group : Option ℕ

namespace LFGQueue

variable (env : LfgEnv)

def gatherOne (guid : ℕ) (data : LfgQueueData) (gathered : Gathered) : Gathered where
  numPlayers := uint8 (gathered.numPlayers + data.roles.size)
  numLfgGroups := gathered.numLfgGroups + if env.IsLfgGroup guid then 1 else 0
  proposalGroups := data.roles.keys.foldl
    (fun groups player => groups.insert player (if env.IsGroup guid then some guid else none))
    gathered.proposalGroups
  group :=
    if env.IsLfgGroup guid ∧ gathered.numLfgGroups = 0 then some guid else gathered.group

/-- The queues that are counted, until there are too many groups or players; a guid that
is not queued ends the count. -/
def gather (queue : LFGQueue) : List ℕ → Gathered → Except ℕ Gathered
  | [], gathered => .ok gathered
  | guid :: rest, gathered =>
    if gathered.numLfgGroups < 2 ∧ gathered.numPlayers ≤ MAXGROUPSIZE then
      match queue.QueueDataStore.find? guid with
      | none => .error guid
      | some data => gather queue rest (gatherOne env guid data gathered)
    else .ok gathered

def addRoles : List (ℕ × BitVec 8) → LfgRolesMap → LfgRolesMap
  | [], proposalRoles => proposalRoles
  | (player, byte) :: rest, proposalRoles =>
    if proposalRoles.keys.any fun other => player == other || env.HasIgnore player other then
      proposalRoles
    else addRoles rest (proposalRoles.insert player byte)

def combineRoles (queue : LFGQueue) (guids : List ℕ) : LfgRolesMap :=
  guids.foldl (fun roles guid => addRoles env (queue.rolesOf guid).entries roles) .empty

/-- Every combination of roles may occur four times, and more often among the first ten. -/
def occurrence (found : Found) (result : ℕ) : Option (BitVec 64) :=
  if found.foundMask &&& 1 <<< (result - 1) ≠ 0 then
    if found.foundMask &&& 1 <<< (16 + result - 1) ≠ 0 then
      if found.foundMask &&& 1 <<< (32 + result - 1) ≠ 0 then
        if found.foundMask &&& 1 <<< (48 + result - 1) ≠ 0 then
          if 10 ≤ found.foundCount then none else some 0
        else some (1 <<< (48 + result - 1))
      else some (1 <<< (32 + result - 1))
    else some (1 <<< (16 + result - 1))
  else some (1 <<< (result - 1))

structure Combined where
  proposalRoles : LfgRolesMap
  proposalDungeons : Finset ℕ
  addToFoundMask : BitVec 64

def combineMany (queue : LFGQueue) (guids : List ℕ) (numPlayers : ℕ) (found : Found) :
    Option (Except LfgCompatibility Combined) :=
  let roles := combineRoles env queue guids
  if numPlayers ≠ roles.size then some (.error .LFG_INCOMPATIBLES_HAS_IGNORES)
  else
    match CheckGroupRoles roles with
    | none => none
    | some (proposalRoles, roleCheckResult) =>
      if roleCheckResult = 0 ∨ 0xF < roleCheckResult then
        some (.error .LFG_INCOMPATIBLES_NO_ROLES)
      else
        match occurrence found roleCheckResult with
        | none => some (.error .LFG_INCOMPATIBLES_NO_ROLES)
        | some addToFoundMask =>
          let dungeons := guids.tail.foldl
            (fun dungeons guid => dungeons ∩ queue.dungeonsOf guid)
            (queue.dungeonsOf (guids.headD 0))
          if dungeons = ∅ then some (.error .LFG_INCOMPATIBLES_NO_DUNGEONS)
          else some (.ok ⟨proposalRoles, dungeons, addToFoundMask⟩)

def combineOne (queue : LFGQueue) (guid : ℕ) : Option Combined :=
  match CheckGroupRoles (queue.rolesOf guid) with
  | none => none
  | some (proposalRoles, _) => some ⟨proposalRoles, queue.dungeonsOf guid, 0⟩

def combine (queue : LFGQueue) (check : Lfg5Guids) (numPlayers : ℕ) (found : Found) :
    Option (Except LfgCompatibility Combined) :=
  if 1 < check.size then combineMany env queue check.guids numPlayers found
  else (combineOne queue (check.guids.headD 0)).map .ok

def leaderStep (random : RandomChoices) (chosen : Option ℕ × Bool) (entry : ℕ × BitVec 8) :
    Option ℕ × Bool :=
  if entry.2 &&& PLAYER_ROLE_LEADER ≠ 0 then
    (if !chosen.2 ∨ chosen.1 = none ∨ random.urand entry.1 then some entry.1 else chosen.1, true)
  else if !chosen.2 ∧ (chosen.1 = none ∨ random.urand entry.1) then (some entry.1, chosen.2)
  else chosen

def chooseLeader (random : RandomChoices) (proposalRoles : LfgRolesMap) : Option ℕ :=
  (proposalRoles.entries.foldl (leaderStep random) (none, false)).1

def propose (random : RandomChoices) (gathered : Gathered) (strGuids : Lfg5Guids)
    (combined : Combined) : LfgProposal :=
  let dungeonId := random.SelectRandomContainerElement combined.proposalDungeons
  let isNew := gathered.numLfgGroups != 1
  { dungeonId := dungeonId
    group := gathered.group
    leader := chooseLeader random combined.proposalRoles
    cancelTime := env.now + LFG_TIME_PROPOSAL
    encounters := combined.proposalRoles.keys.foldl
      (fun completed player =>
        if completed = 0 ∧ !isNew then env.GetCompletedEncounterMask dungeonId player
        else completed) 0
    isNew := isNew
    queues := strGuids
    players := combined.proposalRoles.mapValues fun player byte =>
      let group := (gathered.proposalGroups.find? player).getD none
      { role := byte
        accept :=
          if !isNew ∧ group ≠ none ∧ group = gathered.group then .LFG_ANSWER_AGREE
          else .LFG_ANSWER_PENDING
        group := group } }

/-- A queue of fewer than five is always compatible. -/
def keepAlone (queue : LFGQueue) (guid : ℕ) (strGuids : Lfg5Guids) (found : Found) :
    Option Checked :=
  match CheckGroupRoles (queue.rolesOf guid) with
  | none => none
  | some (roles, roleCheckResult) =>
    let kept := queue.modifyData guid fun data =>
      { data with bestCompatible := data.bestCompatible.clear }
    some
      { queue := kept.AddToCompatibles (strGuids.addRoles roles)
        found :=
          if roleCheckResult ≠ 0 ∧ roleCheckResult ≤ 15 then
            { found with
              foundMask := found.foundMask ||| 1 <<< (roleCheckResult - 1) |||
                1 <<< (16 + roleCheckResult - 1) ||| 1 <<< (32 + roleCheckResult - 1) |||
                1 <<< (48 + roleCheckResult - 1) }
          else found
        compatibility := .LFG_COMPATIBLES_WITH_LESS_PLAYERS
        proposal := none }

def keepTogether (queue : LFGQueue) (check strGuids : Lfg5Guids) (combined : Combined)
    (found : Found) : Checked :=
  let key := strGuids.addRoles combined.proposalRoles
  let updated := check.guids.foldl
    (fun queue guid => queue.modifyData guid fun data =>
      if data.bestCompatible.size = 0 then data else UpdateBestCompatibleInQueue key data) queue
  { queue := updated.AddToCompatibles key
    found :=
      { foundMask := found.foundMask ||| combined.addToFoundMask
        foundCount := uint32 (found.foundCount + 1) }
    compatibility := .LFG_COMPATIBLES_WITH_LESS_PLAYERS
    proposal := none }

/-- `AllQueued`: whoever is not queued any more is removed. -/
def removeNotQueued (queue : LFGQueue) (check : Lfg5Guids) : LFGQueue :=
  check.guids.foldl
    (fun queue guid =>
      if !env.isQueued guid ∧ env.inThisQueue guid then queue.RemoveFromQueue guid false
      else queue) queue

def finish (random : RandomChoices) (queue : LFGQueue) (check strGuids : Lfg5Guids)
    (gathered : Gathered) (found : Found) (combined : Combined) : Checked :=
  if !env.IsTesting ∧ gathered.numPlayers ≠ MAXGROUPSIZE then
    keepTogether queue check strGuids combined found
  else if !check.guids.all env.isQueued then
    { queue := removeNotQueued env queue check
      found := found
      compatibility := .LFG_COMPATIBILITY_PENDING
      proposal := none }
  else
    { queue := strGuids.guids.foldl (fun queue guid => queue.RemoveFromQueue guid true) queue
      found := found
      compatibility := .LFG_COMPATIBLES_MATCH
      proposal := some (propose env random gathered strGuids combined) }

def checked (checkWith : Lfg5Guids) (newGuid : ℕ) : Lfg5Guids :=
  checkWith.withoutRoles.force_insert_front newGuid

def CheckCompatibility (random : RandomChoices) (queue : LFGQueue) (checkWith : Lfg5Guids)
    (newGuid : ℕ) (found : Found) (currentCompatibles : List (List ℕ)) : Option Checked :=
  let check := checked checkWith newGuid
  let strGuids := checkWith.withoutRoles.insert newGuid
  if strGuids.guids ∈ currentCompatibles then
    some ⟨queue, found, .LFG_INCOMPATIBLES_TOO_MUCH_PLAYERS, none⟩
  else
    match gather env queue check.guids ⟨0, 0, .empty, none⟩ with
    | .error guid =>
      some ⟨queue.RemoveFromQueue guid false, found, .LFG_COMPATIBILITY_PENDING, none⟩
    | .ok gathered =>
      if 1 < gathered.numLfgGroups then
        some ⟨queue, found, .LFG_INCOMPATIBLES_MULTIPLE_LFG_GROUPS, none⟩
      else if !env.IsTesting ∧ check.size = 1 ∧ gathered.numPlayers < MAXGROUPSIZE then
        keepAlone queue newGuid strGuids found
      else if MAXGROUPSIZE < gathered.numPlayers then
        some ⟨queue, found, .LFG_INCOMPATIBLES_TOO_MUCH_PLAYERS, none⟩
      else
        match combine env queue check gathered.numPlayers found with
        | none => none
        | some (.error compatibility) => some ⟨queue, found, compatibility, none⟩
        | some (.ok combined) =>
          some (finish env random queue check strGuids gathered found combined)

end LFGQueue

end AzerothCore.DungeonFinding

/-!
## The array of guids in `Lfg5Guids`

`Lfg5Guids` holds up to five guids in an array, whose free places are empty. Without loops it
inserts and removes them, and compares two arrays. The empty guid is 0 here.
-/

namespace AzerothCore.DungeonFinding
open List

/-- The array `guids`. -/
structure GuidArray where
  (guid0 guid1 guid2 guid3 guid4 : ℕ)

namespace GuidArray

def size (guids : GuidArray) : ℕ :=
  if guids.guid2 ≠ 0 then
    if guids.guid4 ≠ 0 then 5
    else if guids.guid3 ≠ 0 then 4
    else 3
  else if guids.guid1 ≠ 0 then 2
  else if guids.guid0 ≠ 0 then 1
  else 0

/-- `if (guids[3]) guids[4] = guids[3];` -/
def shift3 (guids : GuidArray) : GuidArray :=
  if guids.guid3 ≠ 0 then { guids with guid4 := guids.guid3 } else guids

/-- `if (guids[2]) guids[3] = guids[2];` -/
def shift2 (guids : GuidArray) : GuidArray :=
  if guids.guid2 ≠ 0 then { guids with guid3 := guids.guid2 } else guids

def insert (guids : GuidArray) (g : ℕ) : GuidArray :=
  if guids.guid0 = 0 then { guids with guid0 := g }
  else if g ≤ guids.guid0 then
    let guids := guids.shift3.shift2
    let guids := if guids.guid1 ≠ 0 then { guids with guid2 := guids.guid1 } else guids
    { guids with guid1 := guids.guid0, guid0 := g }
  else if guids.guid1 = 0 then { guids with guid1 := g }
  else if g ≤ guids.guid1 then
    let guids := guids.shift3.shift2
    { guids with guid2 := guids.guid1, guid1 := g }
  else if guids.guid2 = 0 then { guids with guid2 := g }
  else if g ≤ guids.guid2 then { guids.shift3 with guid3 := guids.guid2, guid2 := g }
  else if guids.guid3 = 0 then { guids with guid3 := g }
  else if g ≤ guids.guid3 then { guids with guid4 := guids.guid3, guid3 := g }
  else { guids with guid4 := g }

/-- The end of every cascade of `remove`, from `guids[3]` on. -/
def close3 (guids : GuidArray) : GuidArray :=
  if guids.guid4 ≠ 0 then { guids with guid3 := guids.guid4, guid4 := 0 }
  else { guids with guid3 := 0 }

def close2 (guids : GuidArray) : GuidArray :=
  if guids.guid3 ≠ 0 then close3 { guids with guid2 := guids.guid3 }
  else { guids with guid2 := 0 }

def close1 (guids : GuidArray) : GuidArray :=
  if guids.guid2 ≠ 0 then close2 { guids with guid1 := guids.guid2 }
  else { guids with guid1 := 0 }

def close0 (guids : GuidArray) : GuidArray :=
  if guids.guid1 ≠ 0 then close1 { guids with guid0 := guids.guid1 }
  else { guids with guid0 := 0 }

def remove (guids : GuidArray) (g : ℕ) : GuidArray :=
  if guids.guid0 = g then guids.close0
  else if guids.guid1 = g then guids.close1
  else if guids.guid2 = g then guids.close2
  else if guids.guid3 = g then guids.close3
  else if guids.guid4 = g then { guids with guid4 := 0 }
  else guids

/-- `operator<` -/
def lt (guids x : GuidArray) : Bool :=
  if guids.guid0 ≤ x.guid0 then
    if guids.guid0 ≠ x.guid0 then true
    else if guids.guid1 ≤ x.guid1 then
      if guids.guid1 ≠ x.guid1 then true
      else if guids.guid2 ≤ x.guid2 then
        if guids.guid2 ≠ x.guid2 then true
        else if guids.guid3 ≤ x.guid3 then
          if guids.guid3 ≠ x.guid3 then true
          else if guids.guid4 ≤ x.guid4 then !(guids.guid4 == x.guid4)
          else false
        else false
      else false
    else false
  else false

def slots (guids : GuidArray) : List ℕ :=
  [guids.guid0, guids.guid1, guids.guid2, guids.guid3, guids.guid4]

/-- The first five of some guids, with empty places behind them. -/
def ofList (held : List ℕ) : GuidArray :=
  ⟨held.getD 0 0, held.getD 1 0, held.getD 2 0, held.getD 3 0, held.getD 4 0⟩

/-- The arrays that calls of `insert` and `remove` lead to, with the guids that were inserted and
not removed since. -/
inductive Holds : GuidArray → Multiset ℕ → Prop
  | empty : Holds ⟨0, 0, 0, 0, 0⟩ 0
  | insert {guids held} (hholds : Holds guids held) {g} (hguid : g ≠ 0)
      (hroom : held.card < 5) : Holds (guids.insert g) (g ::ₘ held)
  | remove {guids held} (hholds : Holds guids held) (g) : Holds (guids.remove g) (held.erase g)

section
variable {held : List ℕ} (hempty : 0 ∉ held) (g : ℕ)
include hempty

theorem insert_ofList (hlength : held.length ≤ 5) :
    (ofList held).insert g = ofList ((held.take 4).orderedInsert (· ≤ ·) g) := by
  obtain _ | ⟨a, _ | ⟨b, _ | ⟨c, _ | ⟨d, _ | ⟨e, _ | ⟨f, rest⟩⟩⟩⟩⟩⟩ := held
  case nil => rfl
  case cons.cons.cons.cons.cons.cons => exact absurd hlength (by simp)
  all_goals
    simp only [mem_cons, not_mem_nil, or_false, not_or, eq_comm (a := 0)] at hempty
    simp [ofList, insert, shift3, shift2, orderedInsert, hempty]
    split_ifs <;> simp_all

theorem remove_ofList (hlength : held.length ≤ 5) :
    (ofList held).remove g = ofList (held.erase g) := by
  obtain _ | ⟨a, _ | ⟨b, _ | ⟨c, _ | ⟨d, _ | ⟨e, _ | ⟨f, rest⟩⟩⟩⟩⟩⟩ := held
  case cons.cons.cons.cons.cons.cons => exact absurd hlength (by simp)
  all_goals
    simp only [mem_cons, not_mem_nil, or_false, not_or, eq_comm (a := 0)] at hempty
    simp [ofList, remove, close0, close1, close2, close3, erase_cons, hempty] <;> split_ifs <;>
      simp_all

theorem size_ofList (hlength : held.length ≤ 5) : (ofList held).size = held.length := by
  obtain _ | ⟨a, _ | ⟨b, _ | ⟨c, _ | ⟨d, _ | ⟨e, _ | ⟨f, rest⟩⟩⟩⟩⟩⟩ := held
  case cons.cons.cons.cons.cons.cons => exact absurd hlength (by simp)
  all_goals
    simp only [mem_cons, not_mem_nil, or_false, not_or, eq_comm (a := 0)] at hempty
    simp [ofList, size, hempty]

omit hempty in
theorem slots_ofList (hlength : held.length ≤ 5) :
    (ofList held).slots = held ++ replicate (5 - held.length) 0 := by
  obtain _ | ⟨a, _ | ⟨b, _ | ⟨c, _ | ⟨d, _ | ⟨e, _ | ⟨f, rest⟩⟩⟩⟩⟩⟩ := held
  case cons.cons.cons.cons.cons.cons => exact absurd hlength (by simp)
  all_goals rfl

theorem append_lt_iff {other : List ℕ} (hother : 0 ∉ other) {places : ℕ}
    (hplaces : held.length ≤ places) (hplaces' : other.length ≤ places) :
    held ++ replicate (places - held.length) 0 < other ++ replicate (places - other.length) 0 ↔
      held < other := by
  induction held generalizing other places with
  | nil =>
    cases other with
    | nil => simp
    | cons b other =>
      obtain ⟨places, rfl⟩ := Nat.exists_eq_add_of_le' (Nat.zero_lt_of_lt hplaces')
      have hb : 0 < b := Nat.pos_of_ne_zero fun hb => hother (hb ▸ mem_cons_self)
      simp [replicate_succ, cons_lt_cons_iff, hb]
  | cons a held ih =>
    obtain ⟨places, rfl⟩ := Nat.exists_eq_add_of_le' (Nat.zero_lt_of_lt hplaces)
    rw [mem_cons, not_or] at hempty
    cases other with
    | nil => simp [replicate_succ, cons_lt_cons_iff, Ne.symm hempty.1]
    | cons b other =>
      rw [mem_cons, not_or] at hother
      simp only [length_cons, Nat.add_sub_add_right, cons_append, cons_lt_cons_iff]
      rw [ih hempty.2 hother.2 (Nat.le_of_succ_le_succ hplaces) (Nat.le_of_succ_le_succ hplaces')]

end

theorem lt_iff (guids x : GuidArray) : guids.lt x = true ↔ guids.slots < x.slots := by
  simp only [lt, slots, cons_lt_cons_iff, List.lt_irrefl]
  split_ifs <;> simp <;> omega

theorem sort_eq_of_coe {held : Multiset ℕ} {sorted : List ℕ} (hsorted : sorted.Pairwise (· ≤ ·))
    (hcoe : (sorted : Multiset ℕ) = held) : held.sort (· ≤ ·) = sorted := by
  have hperm : (held.sort (· ≤ ·)).Perm sorted :=
    Multiset.coe_eq_coe.mp ((held.sort_eq (· ≤ ·)).trans hcoe.symm)
  exact hperm.eq_of_pairwise (fun _ _ _ _ => Nat.le_antisymm) (held.pairwise_sort _) hsorted

structure Sorted (guids : GuidArray) (held : Multiset ℕ) : Prop where
  room : held.card ≤ 5
  empty : 0 ∉ held
  guids : guids = ofList (held.sort (· ≤ ·))

theorem sorted_of_holds {guids : GuidArray} {held : Multiset ℕ} (hholds : Holds guids held) :
    Sorted guids held := by
  induction hholds with
  | empty => exact ⟨by decide, Multiset.notMem_zero 0, by simp [ofList]⟩
  | @insert guids held _ g hguid hroom ih =>
    have hempty : 0 ∉ held.sort (· ≤ ·) := mt (Multiset.mem_sort _).mp ih.empty
    have hlength : (held.sort (· ≤ ·)).length = held.card := Multiset.length_sort _
    refine ⟨(held.card_cons g).trans_le hroom, by simpa [hguid.symm] using ih.empty, ?_⟩
    rw [ih.guids, insert_ofList hempty g (by omega), take_of_length_le (by omega)]
    refine congrArg ofList (sort_eq_of_coe ((held.pairwise_sort _).orderedInsert g _) ?_).symm
    rw [Multiset.coe_eq_coe.mpr (perm_orderedInsert _ g _), ← Multiset.cons_coe, Multiset.sort_eq]
  | @remove guids held _ g ih =>
    have hempty : 0 ∉ held.sort (· ≤ ·) := mt (Multiset.mem_sort _).mp ih.empty
    have hlength : (held.sort (· ≤ ·)).length = held.card := Multiset.length_sort _
    refine ⟨(Multiset.card_le_card (held.erase_le g)).trans ih.room,
      mt Multiset.mem_of_mem_erase ih.empty, ?_⟩
    rw [ih.guids, remove_ofList hempty g (hlength.trans_le ih.room)]
    refine congrArg ofList (sort_eq_of_coe ((held.pairwise_sort _).sublist erase_sublist) ?_).symm
    rw [← Multiset.coe_erase, Multiset.sort_eq]

theorem Sorted.lt_iff {guids x : GuidArray} {held other : Multiset ℕ} (hsorted : Sorted guids held)
    (hother : Sorted x other) :
    guids.lt x = true ↔ held.sort (· ≤ ·) < other.sort (· ≤ ·) := by
  have hlength := (Multiset.length_sort (s := held) (· ≤ ·)).trans_le hsorted.room
  have hlength' := (Multiset.length_sort (s := other) (· ≤ ·)).trans_le hother.room
  rw [GuidArray.lt_iff, hsorted.guids, hother.guids, slots_ofList hlength, slots_ofList hlength']
  exact append_lt_iff (mt (Multiset.mem_sort _).mp hsorted.empty)
    (mt (Multiset.mem_sort _).mp hother.empty) hlength hlength'

/-- The guids that are held stand in front and in order, and `operator<` compares them. -/
theorem holds_spec {guids x : GuidArray} {held other : Multiset ℕ} (hholds : Holds guids held)
    (hother : Holds x other) :
    guids.slots = held.sort (· ≤ ·) ++ replicate (5 - held.card) 0 ∧ 0 ∉ held ∧
      guids.size = held.card ∧
      (guids.lt x = true ↔ held.sort (· ≤ ·) < other.sort (· ≤ ·)) ∧
      (guids.lt x = false ∧ x.lt guids = false ↔ held = other) := by
  have hsorted := sorted_of_holds hholds
  have hsorted' := sorted_of_holds hother
  have hlength : (held.sort (· ≤ ·)).length = held.card := Multiset.length_sort _
  have hroom := hlength.trans_le hsorted.room
  have hempty : 0 ∉ held.sort (· ≤ ·) := mt (Multiset.mem_sort _).mp hsorted.empty
  refine ⟨?_, hsorted.empty, ?_, hsorted.lt_iff hsorted', ?_⟩
  · rw [hsorted.guids, slots_ofList hroom, hlength]
  · rw [hsorted.guids, size_ofList hempty hroom, hlength]
  · rw [← Bool.not_eq_true, ← Bool.not_eq_true, hsorted.lt_iff hsorted', hsorted'.lt_iff hsorted]
    constructor
    · rintro ⟨hle, hge⟩
      have hsort := le_antisymm (not_lt.mp hge) (not_lt.mp hle)
      rw [← held.sort_eq (· ≤ ·), hsort, Multiset.sort_eq]
    · rintro rfl
      exact ⟨lt_irrefl _, lt_irrefl _⟩

theorem size_after_remove :
    ((((⟨0, 0, 0, 0, 0⟩ : GuidArray).insert 7).insert 3).remove 7).size = 1 := by
  have hseven : Holds _ _ := Holds.empty.insert (g := 7) (by decide) (by decide)
  have hthree := (hseven.insert (g := 3) (by decide) (by decide)).remove 7
  exact (holds_spec hthree hthree).2.2.1.trans (by decide)

end GuidArray

end AzerothCore.DungeonFinding
