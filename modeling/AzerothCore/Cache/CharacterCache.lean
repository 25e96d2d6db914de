import AzerothCore.Collections.Reachability
import AzerothCore.Collections.StdMap
import AzerothCore.Common.Define
import Mathlib.Algebra.Order.BigOperators.Group.List
import Mathlib.Algebra.Order.Group.Nat

/-!
# The character cache

An entry is a node of `_characterCacheStore`, found by the guid of the
character, and `_characterCacheByNameStore` keeps pointers to these nodes.
Nodes are kept here under their addresses, any free one for a new node.
-/

namespace AzerothCore.Caching

structure CharacterCacheEntry where
  Guid : ℕ
  Name : String
  AccountId : ℕ
  Class : ℕ
  Race : ℕ
  Sex : ℕ
  Level : ℕ
  MailCount : ℕ
  GuildId : ℕ
  ArenaTeamId : List ℕ

/-- A row of the table `characters`. -/
structure CharacterRow where
  guid : ℕ
  name : String
  account : ℕ
  race : ℕ
  gender : ℕ
  playerClass : ℕ
  level : ℕ

structure CharacterCache where
  nodes : StdMap ℕ CharacterCacheEntry
  _characterCacheStore : ℕ → Option ℕ
  _characterCacheByNameStore : String → Option ℕ

structure Allocator where
  address : StdMap ℕ CharacterCacheEntry → ℕ
  free : ∀ nodes : StdMap ℕ CharacterCacheEntry, nodes.find? (address nodes) = none

def MAX_ARENA_SLOT : ℕ := 3

namespace CharacterCache

variable (allocator : Allocator) (cache : CharacterCache)

def empty : CharacterCache := ⟨StdMap.empty, fun _ => none, fun _ => none⟩

def find (guid : ℕ) : Option (ℕ × CharacterCacheEntry) :=
  (cache._characterCacheStore guid).bind fun address =>
    (cache.nodes.find? address).map (address, ·)

/-! ## Modifying functions -/

def AddCharacterCacheEntry (row : CharacterRow) : CharacterCache :=
  let found := cache.find row.guid
  let address := found.elim (allocator.address cache.nodes) Prod.fst
  let data : CharacterCacheEntry :=
    { Guid := row.guid
      Name := row.name
      AccountId := row.account
      Class := row.playerClass
      Race := row.race
      Sex := row.gender
      Level := row.level
      MailCount := found.elim 0 fun node => node.2.MailCount
      GuildId := 0
      ArenaTeamId := List.replicate MAX_ARENA_SLOT 0 }
  { nodes := cache.nodes.insert address data
    _characterCacheStore := Function.update cache._characterCacheStore row.guid (some address)
    _characterCacheByNameStore :=
      Function.update cache._characterCacheByNameStore row.name (some address) }

def DeleteCharacterCacheEntry (guid : ℕ) (name : String) : CharacterCache where
  nodes := (cache._characterCacheStore guid).elim cache.nodes cache.nodes.erase
  _characterCacheStore := Function.update cache._characterCacheStore guid none
  _characterCacheByNameStore := Function.update cache._characterCacheByNameStore name none

def UpdateCharacterData (guid : ℕ) (name : String) (gender race : Option ℕ) : CharacterCache :=
  match cache.find guid with
  | none => cache
  | some (address, data) =>
    { cache with
      nodes := cache.nodes.insert address
        { data with Name := name, Sex := gender.getD data.Sex, Race := race.getD data.Race }
      _characterCacheByNameStore :=
        Function.update (Function.update cache._characterCacheByNameStore data.Name none)
          name (some address) }

/-- The count is an `int8`, and `MailCount` a `uint8`. -/
def UpdateCharacterMailCount (guid : ℕ) (count : ℤ) (update : Bool) : CharacterCache :=
  match cache.find guid with
  | none => cache
  | some (address, data) =>
    if update then
      { cache with
        nodes := cache.nodes.insert address { data with MailCount := toUint8 count } }
    else if data.MailCount = 0 ∧ count < 0 then cache
    else
      { cache with
        nodes := cache.nodes.insert address
          { data with MailCount := toUint8 (data.MailCount + count) } }

def updateMailCounts (mailCounts : List (ℕ × ℕ)) : CharacterCache :=
  mailCounts.foldl (fun cache row => cache.UpdateCharacterMailCount row.1 row.2 true) cache

def LoadCharacterCacheStorage (rows : List CharacterRow) (mailCounts : List (ℕ × ℕ)) :
    CharacterCache :=
  let cleared : CharacterCache :=
    { cache with nodes := StdMap.empty, _characterCacheStore := fun _ => none }
  match rows with
  | [] => cleared
  | rows =>
    (rows.foldl (fun cache row => cache.AddCharacterCacheEntry allocator row)
      cleared).updateMailCounts mailCounts

def RefreshCacheEntry (lowGuid : ℕ) (row : Option CharacterRow) (mailCounts : List (ℕ × ℕ)) :
    CharacterCache :=
  match row with
  | none => cache
  | some row =>
    ((cache.DeleteCharacterCacheEntry lowGuid row.name).AddCharacterCacheEntry allocator
      row).updateMailCounts mailCounts

def GetCharacterCacheByName (name : String) : Option (Option CharacterCacheEntry) :=
  match cache._characterCacheByNameStore name with
  | none => some none
  | some address => (cache.nodes.find? address).map some

def GetCharacterGuidByName (name : String) : Option ℕ :=
  (cache.GetCharacterCacheByName name).map fun found => found.elim 0 CharacterCacheEntry.Guid

def GetCharacterNameByGuid (guid : ℕ) : Option String :=
  (cache.find guid).map fun node => node.2.Name

end CharacterCache

end AzerothCore.Caching

/-! ## The two stores of the character cache -/

namespace AzerothCore.Caching

open List Option Function StdMap
open Reachability

namespace CharacterCache

variable {allocator : Allocator} {cache after : CharacterCache} {guid address : ℕ}
  {data : CharacterCacheEntry} {name : String}

theorem find_iff : cache.find guid = some (address, data) ↔
      cache._characterCacheStore guid = some address ∧ cache.nodes.find? address = some data := by
  unfold find
  constructor
  · intro hfind
    obtain ⟨other, hstore, hmap⟩ := bind_eq_some_iff.mp hfind
    obtain ⟨found, hfound, heq⟩ := map_eq_some_iff.mp hmap
    cases heq
    exact ⟨hstore, hfound⟩
  · rintro ⟨hstore, hnode⟩
    rw [hstore, bind_some, hnode]
    rfl

theorem find_eq_none (hstore : cache._characterCacheStore guid = none) :
    cache.find guid = none := by
  unfold find
  rw [hstore]
  rfl

structure StoresAgree (cache : CharacterCache) : Prop where
  node : ∀ guid address, cache._characterCacheStore guid = some address →
    ∃ data, cache.nodes.find? address = some data ∧ data.Guid = guid
  names : ∀ name address, cache._characterCacheByNameStore name = some address ↔
    ∃ guid data, cache.find guid = some (address, data) ∧ data.Name = name

namespace StoresAgree

section

variable (hagree : StoresAgree cache)
include hagree

theorem guid_eq (hfind : cache.find guid = some (address, data)) : data.Guid = guid := by
  obtain ⟨hstore, hnode⟩ := find_iff.mp hfind
  obtain ⟨found, hfound, hguid⟩ := hagree.node guid address hstore
  rw [hnode, Option.some.injEq] at hfound
  rw [hfound, hguid]

theorem injective {other : ℕ} {found : CharacterCacheEntry}
    (hfind : cache.find guid = some (address, data))
    (hother : cache.find other = some (address, found)) : guid = other := by
  have heq : data = found := some.inj ((find_iff.mp hfind).2.symm.trans (find_iff.mp hother).2)
  rw [← hagree.guid_eq hfind, ← hagree.guid_eq hother, heq]

theorem find_of_store (hstore : cache._characterCacheStore guid = some address) :
    ∃ data, cache.find guid = some (address, data) := by
  obtain ⟨data, hnode, -⟩ := hagree.node guid address hstore
  exact ⟨data, find_iff.mpr ⟨hstore, hnode⟩⟩

theorem name_injective {other : ℕ}
    (hname : cache.GetCharacterNameByGuid guid = some name)
    (hother : cache.GetCharacterNameByGuid other = some name) : guid = other := by
  obtain ⟨⟨address, data⟩, hfind, hdata⟩ := map_eq_some_iff.mp hname
  obtain ⟨⟨address', data'⟩, hfind', hdata'⟩ := map_eq_some_iff.mp hother
  have hfirst := (hagree.names name address).mpr ⟨guid, data, hfind, hdata⟩
  have hsecond := (hagree.names name address').mpr ⟨other, data', hfind', hdata'⟩
  rw [hfirst, Option.some.injEq] at hsecond
  subst hsecond
  exact hagree.injective hfind hfind'

end

end StoresAgree

theorem name_of_find (hfind : cache.find guid = some (address, data)) :
    cache.GetCharacterNameByGuid guid = some data.Name := by
  rw [GetCharacterNameByGuid, hfind]
  rfl

section

variable (hagree : StoresAgree cache)
include hagree

/-- Putting a node under a guid, with the pointer under its name and none under the
old name, keeps the stores in agreement. -/
theorem StoresAgree.put {old : String}
    (hstore : after._characterCacheStore =
      Function.update cache._characterCacheStore guid (some address))
    (hnodes : after.nodes = cache.nodes.insert address data)
    (hnames : after._characterCacheByNameStore =
      Function.update (Function.update cache._characterCacheByNameStore old none) data.Name
        (some address))
    (hguid : data.Guid = guid)
    (hfree : ∀ other found, cache.find other = some (address, found) → other = guid)
    (hold : ∀ other, cache.GetCharacterNameByGuid other = some old → other = guid)
    (hown : ∀ name, cache.GetCharacterNameByGuid guid = some name → name = old)
    (hunused : ∀ other, cache.GetCharacterNameByGuid other = some data.Name → other = guid) :
    StoresAgree after ∧ ∀ other, after.find other =
        if other = guid then some (address, data) else cache.find other := by
  have hfind : ∀ other, after.find other =
      if other = guid then some (address, data) else cache.find other := by
    intro other
    split
    case isTrue heq =>
      subst heq
      rw [find_iff, hstore, hnodes]
      exact ⟨update_self .., cache.nodes.find?_insert_self address data⟩
    rename_i hne
    unfold find
    rw [hstore, update_of_ne hne]
    rcases hother : cache._characterCacheStore other with _ | place
    · rfl
    obtain ⟨found, hfound⟩ := hagree.find_of_store hother
    have hplace : address ≠ place := by
      rintro rfl
      exact hne (hfree other found hfound)
    rw [bind_some, bind_some, hnodes, find?_insert, if_neg hplace]
  refine ⟨⟨?_, ?_⟩, hfind⟩
  · intro other place hother
    have hcases := hfind other
    split at hcases
    case isTrue heq =>
      subst heq
      obtain ⟨hplace, hnode⟩ := find_iff.mp hcases
      rw [hplace, Option.some.injEq] at hother
      exact ⟨data, hother ▸ hnode, hguid⟩
    case isFalse hne =>
      rw [hstore, update_of_ne hne] at hother
      obtain ⟨found, hfound⟩ := hagree.find_of_store hother
      exact ⟨found, (find_iff.mp (hcases.trans hfound)).2, hagree.guid_eq hfound⟩
  · intro name place
    rw [hnames]
    by_cases hname : name = data.Name
    · subst hname
      rw [update_self, Option.some.injEq]
      constructor
      · rintro rfl
        exact ⟨guid, data, (hfind guid).trans (if_pos rfl), rfl⟩
      · rintro ⟨other, found, hother, hfound⟩
        rw [hfind] at hother
        split at hother
        case isFalse hne => exact absurd (hunused other (hfound ▸ name_of_find hother)) hne
        cases hother
        rfl
    · rw [update_of_ne hname]
      by_cases hname' : name = old
      · subst hname'
        rw [update_self]
        refine iff_of_false nofun ?_
        rintro ⟨other, found, hother, hfound⟩
        rw [hfind] at hother
        split at hother
        case isFalse hne => exact hne (hold other (hfound ▸ name_of_find hother))
        cases hother
        exact hname hfound.symm
      · rw [update_of_ne hname', hagree.names]
        refine exists_congr fun other => exists_congr fun found => and_congr_left fun hfound => ?_
        rw [hfind]
        split
        case isFalse => exact Iff.rfl
        rename_i heq
        subst heq
        refine iff_of_false ?_ ?_
        · intro hother
          exact hname' (hfound ▸ hown found.Name (name_of_find hother))
        · intro hother
          cases hother
          exact hname hfound.symm

theorem AddCharacterCacheEntry_agrees {row : CharacterRow}
    (hnew : cache.GetCharacterNameByGuid row.guid = none)
    (hunused : ∀ other, cache.GetCharacterNameByGuid other ≠ some row.name) :
    StoresAgree (cache.AddCharacterCacheEntry allocator row) ∧
      ∀ other, (cache.AddCharacterCacheEntry allocator row).GetCharacterNameByGuid other =
        if other = row.guid then some row.name else cache.GetCharacterNameByGuid other := by
  have hfind : cache.find row.guid = none := map_eq_none_iff.mp hnew
  have hput := @StoresAgree.put cache (cache.AddCharacterCacheEntry allocator row) row.guid
    (allocator.address cache.nodes)
    { Guid := row.guid, Name := row.name, AccountId := row.account, Class := row.playerClass,
      Race := row.race, Sex := row.gender, Level := row.level, MailCount := 0, GuildId := 0,
      ArenaTeamId := List.replicate MAX_ARENA_SLOT 0 } hagree row.name
    (by rw [AddCharacterCacheEntry, hfind]; rfl) (by rw [AddCharacterCacheEntry, hfind]; rfl)
    (by rw [AddCharacterCacheEntry, hfind, update_idem]; rfl) rfl
    (fun other found hother => absurd
      ((allocator.free cache.nodes).symm.trans (find_iff.mp hother).2) nofun)
    (fun other hother => absurd hother (hunused other))
    (fun name hname => absurd (hnew.symm.trans hname) nofun)
    (fun other hother => absurd hother (hunused other))
  refine ⟨hput.1, fun other => ?_⟩
  rw [GetCharacterNameByGuid, hput.2]
  split <;> rfl

theorem UpdateCharacterData_agrees (gender race : Option ℕ)
    (hunused : ∀ other, cache.GetCharacterNameByGuid other = some name → other = guid) :
    StoresAgree (cache.UpdateCharacterData guid name gender race) := by
  rcases hfind : cache.find guid with _ | node
  · rw [UpdateCharacterData, hfind]
    exact hagree
  obtain ⟨address, data⟩ := node
  have hstore := (find_iff.mp hfind).1
  have hguid : data.Guid = guid := hagree.guid_eq hfind
  exact (@StoresAgree.put cache (cache.UpdateCharacterData guid name gender race) guid address
    { data with Name := name, Sex := gender.getD data.Sex, Race := race.getD data.Race }
    hagree data.Name
    (by rw [UpdateCharacterData, hfind, update_eq_self_iff.mpr hstore.symm])
    (by rw [UpdateCharacterData, hfind]) (by rw [UpdateCharacterData, hfind]) hguid
    (fun other found hother => (hagree.injective hfind hother).symm)
    (fun other hother => hagree.name_injective hother (name_of_find hfind))
    (fun other hother => some.inj (hother.symm.trans (name_of_find hfind)))
    hunused).1

theorem StoresAgree.setNode {changed : CharacterCacheEntry}
    (hfind : cache.find guid = some (address, data)) (hguid : changed.Guid = data.Guid)
    (hname : changed.Name = data.Name) :
    StoresAgree { cache with nodes := cache.nodes.insert address changed } ∧
      (∀ other, find { cache with nodes := cache.nodes.insert address changed } other =
        if other = guid then some (address, changed) else cache.find other) ∧
      ∀ other, GetCharacterNameByGuid
          { cache with nodes := cache.nodes.insert address changed } other =
        cache.GetCharacterNameByGuid other := by
  have hstore := (find_iff.mp hfind).1
  have hbyName : cache._characterCacheByNameStore data.Name = some address :=
    (hagree.names data.Name address).mpr ⟨guid, data, hfind, rfl⟩
  have hput := @StoresAgree.put cache
    { cache with nodes := cache.nodes.insert address changed } guid address changed
    hagree data.Name (update_eq_self_iff.mpr hstore.symm).symm rfl
    (by rw [hname, update_idem, update_eq_self_iff.mpr hbyName.symm])
    (hguid.trans (hagree.guid_eq hfind))
    (fun other found hother => (hagree.injective hfind hother).symm)
    (fun other hother => hagree.name_injective hother (name_of_find hfind))
    (fun other hother => some.inj (hother.symm.trans (name_of_find hfind)))
    (fun other hother => hagree.name_injective (hname ▸ hother) (name_of_find hfind))
  refine ⟨hput.1, hput.2, fun other => ?_⟩
  rw [GetCharacterNameByGuid, hput.2]
  split
  case isFalse => rfl
  rename_i heq
  rw [heq, name_of_find hfind, ← hname]
  rfl

end

def newMailCount (mailCount : ℕ) (count : ℤ) (update : Bool) : ℕ :=
  if update then toUint8 count
  else if mailCount = 0 ∧ count < 0 then mailCount
  else toUint8 (mailCount + count)

section

variable (hagree : StoresAgree cache)
include hagree

theorem UpdateCharacterMailCount_agrees (guid : ℕ) (count : ℤ)
    (update : Bool) :
    StoresAgree (cache.UpdateCharacterMailCount guid count update) ∧
      ∀ other, (cache.UpdateCharacterMailCount guid count update).find other =
        if other = guid then
          (cache.find guid).map fun node =>
            (node.1, { node.2 with MailCount := newMailCount node.2.MailCount count update })
        else cache.find other := by
  rcases hfind : cache.find guid with _ | node
  · rw [UpdateCharacterMailCount, hfind]
    refine ⟨hagree, fun other => ?_⟩
    by_cases heq : other = guid
    · rw [if_pos heq, heq, hfind, map_none]
    · rw [if_neg heq]
  obtain ⟨address, data⟩ := node
  have hset : cache.UpdateCharacterMailCount guid count update = { cache with
        nodes := cache.nodes.insert address
          { data with MailCount := newMailCount data.MailCount count update } } := by
    have hnode := (find_iff.mp hfind).2
    rw [UpdateCharacterMailCount, hfind]
    cases update with
    | true => rfl
    | false =>
      by_cases hzero : data.MailCount = 0 ∧ count < 0
      · have hcount : newMailCount data.MailCount count false = data.MailCount := if_pos hzero
        rw [hcount, insert_of_find? hnode]
        simp [hzero]
      · simp [newMailCount, hzero]
  rw [hset]
  obtain ⟨hafter, hother, -⟩ := @StoresAgree.setNode cache guid address data hagree
    { data with MailCount := newMailCount data.MailCount count update } hfind rfl rfl
  exact ⟨hafter, hother⟩

theorem updateMailCounts_agrees (mailCounts : List (ℕ × ℕ)) :
    StoresAgree (cache.updateMailCounts mailCounts) := by
  induction mailCounts generalizing cache with
  | nil => exact hagree
  | cons row mailCounts ih =>
    exact ih (UpdateCharacterMailCount_agrees hagree row.1 row.2 true).1

theorem DeleteCharacterCacheEntry_agrees
    (hown : ∀ other, cache.GetCharacterNameByGuid guid = some other → other = name)
    (hname : ∀ other, cache.GetCharacterNameByGuid other = some name → other = guid) :
    StoresAgree (cache.DeleteCharacterCacheEntry guid name) ∧
      ∀ other, (cache.DeleteCharacterCacheEntry guid name).GetCharacterNameByGuid other =
        if other = guid then none else cache.GetCharacterNameByGuid other := by
  have hnode : ∀ other address, other ≠ guid → cache._characterCacheStore other = some address →
      (cache.DeleteCharacterCacheEntry guid name).nodes.find? address =
        cache.nodes.find? address := by
    intro other address hne hother
    obtain ⟨data, hfind⟩ := hagree.find_of_store hother
    unfold DeleteCharacterCacheEntry
    rcases hstore : cache._characterCacheStore guid with _ | place
    · rfl
    obtain ⟨found, hfound⟩ := hagree.find_of_store hstore
    dsimp only [elim_some]
    rw [find?_erase, if_neg]
    rintro rfl
    exact hne (hagree.injective hfind hfound)
  have hfind : ∀ other, (cache.DeleteCharacterCacheEntry guid name).find other =
      if other = guid then none else cache.find other := by
    intro other
    split
    case isTrue heq => exact find_eq_none (heq ▸ update_self ..)
    rename_i hne
    have hstore : (cache.DeleteCharacterCacheEntry guid name)._characterCacheStore other =
        cache._characterCacheStore other := update_of_ne hne ..
    unfold find
    rw [hstore]
    cases hother : cache._characterCacheStore other with
    | none => rfl
    | some address =>
      rw [bind_some, bind_some, hnode other address hne hother]
  refine ⟨⟨?_, ?_⟩, fun other => ?_⟩
  · intro other address hother
    by_cases hne : other = guid
    · subst hne
      have hnone : (cache.DeleteCharacterCacheEntry other name)._characterCacheStore other =
          none := update_self ..
      exact absurd (hnone.symm.trans hother) nofun
    · have hstore : cache._characterCacheStore other = some address :=
        (update_of_ne hne ..).symm.trans hother
      rw [hnode other address hne hstore]
      exact hagree.node other address hstore
  · intro other address
    have herased : (cache.DeleteCharacterCacheEntry guid name)._characterCacheByNameStore =
        Function.update cache._characterCacheByNameStore name none := rfl
    rw [herased]
    by_cases heq : other = name
    · subst heq
      rw [update_self]
      refine iff_of_false nofun ?_
      rintro ⟨holder, data, hdata, hother⟩
      rw [hfind] at hdata
      split at hdata
      · cases hdata
      case isFalse hne => exact hne (hname holder (hother ▸ name_of_find hdata))
    · rw [update_of_ne heq, hagree.names]
      refine exists_congr fun holder => exists_congr fun data => and_congr_left fun hdata => ?_
      rw [hfind]
      split
      case isFalse => exact Iff.rfl
      rename_i hholder
      refine iff_of_false ?_ nofun
      intro hfound
      exact heq (hdata ▸ hown data.Name (hholder ▸ name_of_find hfound))
  · rw [GetCharacterNameByGuid, hfind]
    split <;> rfl

theorem RefreshCacheEntry_agrees {row : CharacterRow}
    (mailCounts : List (ℕ × ℕ))
    (hown : ∀ other, cache.GetCharacterNameByGuid row.guid = some other → other = row.name)
    (hname : ∀ other, cache.GetCharacterNameByGuid other = some row.name → other = row.guid) :
    StoresAgree (cache.RefreshCacheEntry allocator row.guid (some row) mailCounts) := by
  obtain ⟨hdeleted, hnames⟩ := DeleteCharacterCacheEntry_agrees hagree hown hname
  apply updateMailCounts_agrees
  refine (AddCharacterCacheEntry_agrees hdeleted ?_ fun other => ?_).1
  · rw [hnames, if_pos rfl]
  · rw [hnames]
    split
    · exact nofun
    case isFalse hne => exact fun hother => hne (hname other hother)

theorem RefreshCacheEntry_agrees_iff {row : CharacterRow}
    (hname : ∀ other, cache.GetCharacterNameByGuid other = some row.name → other = row.guid) :
    StoresAgree (cache.RefreshCacheEntry allocator row.guid (some row) []) ↔
      ∀ other, cache.GetCharacterNameByGuid row.guid = some other → other = row.name := by
  refine ⟨fun hafter other hother => ?_, fun hown => RefreshCacheEntry_agrees hagree [] hown hname⟩
  by_contra hne
  obtain ⟨⟨address, data⟩, hfind, hdata⟩ := map_eq_some_iff.mp hother
  -- the pointer under the old name is still there, but the entry has the new name
  have hdeleted : (cache.DeleteCharacterCacheEntry row.guid row.name).find row.guid = none :=
    find_eq_none (update_self ..)
  have hstale : (cache.RefreshCacheEntry allocator row.guid (some row)
      [])._characterCacheByNameStore other = some address := by
    have hbyName := (hagree.names other address).mpr ⟨row.guid, data, hfind, hdata⟩
    exact (update_of_ne hne ..).trans ((update_of_ne hne ..).trans hbyName)
  obtain ⟨holder, found, hholder, hfound⟩ := (hafter.names other address).mp hstale
  by_cases hsame : holder = row.guid
  · subst hsame
    have hnew : (cache.RefreshCacheEntry allocator row.guid (some row) []).find row.guid =
        some (allocator.address (cache.DeleteCharacterCacheEntry row.guid row.name).nodes,
          { Guid := row.guid, Name := row.name, AccountId := row.account,
            Class := row.playerClass, Race := row.race, Sex := row.gender, Level := row.level,
            MailCount := 0, GuildId := 0, ArenaTeamId := List.replicate MAX_ARENA_SLOT 0 }) := by
      rw [find_iff]
      simp only [RefreshCacheEntry, updateMailCounts, foldl_nil, AddCharacterCacheEntry,
        hdeleted, elim_none]
      exact ⟨update_self .., find?_insert_self ..⟩
    rw [hnew, Option.some.injEq] at hholder
    cases hholder
    exact hne hfound.symm
  · have hstore : cache._characterCacheStore holder = some address := by
      have hkept : (cache.RefreshCacheEntry allocator row.guid (some row)
          [])._characterCacheStore holder = cache._characterCacheStore holder :=
        (update_of_ne hsame ..).trans (update_of_ne hsame ..)
      exact hkept.symm.trans (find_iff.mp hholder).1
    obtain ⟨kept, hkept⟩ := hagree.find_of_store hstore
    exact hsame (hagree.injective hkept hfind)

end

structure Distinct (rows : List CharacterRow) : Prop where
  guids : (rows.map CharacterRow.guid).Nodup
  names : (rows.map CharacterRow.name).Nodup

variable {rows : List CharacterRow}

theorem addAll_agrees (hagree : StoresAgree cache) (hrows : Distinct rows)
    (hnew : ∀ row ∈ rows, cache.GetCharacterNameByGuid row.guid = none)
    (hunused : ∀ row ∈ rows, ∀ other, cache.GetCharacterNameByGuid other ≠ some row.name) :
    StoresAgree
      (rows.foldl (fun cache row => cache.AddCharacterCacheEntry allocator row) cache) := by
  induction rows generalizing cache with
  | nil => exact hagree
  | cons row rows ih =>
    obtain ⟨hadded, hnames⟩ := @AddCharacterCacheEntry_agrees allocator cache hagree row
      (hnew row mem_cons_self) (hunused row mem_cons_self)
    have hguids := nodup_cons.mp hrows.guids
    have hdifferent := nodup_cons.mp hrows.names
    apply ih hadded ⟨hguids.2, hdifferent.2⟩
    · intro other hother
      rw [hnames, if_neg]
      · exact hnew other (mem_cons_of_mem _ hother)
      · intro heq
        exact hguids.1 (heq ▸ List.mem_map_of_mem hother)
    · intro other hother guid
      rw [hnames]
      split
      case isFalse => exact hunused other (mem_cons_of_mem _ hother) guid
      intro heq
      exact hdifferent.1 (some.inj heq ▸ List.mem_map_of_mem hother)

theorem empty_agrees : StoresAgree empty where
  node _ _ hstore := nomatch hstore
  names _ _ := iff_of_false nofun fun ⟨_, _, hfind, _⟩ => nomatch hfind

theorem LoadCharacterCacheStorage_agrees (hrows : Distinct rows) (mailCounts : List (ℕ × ℕ)) :
    StoresAgree (empty.LoadCharacterCacheStorage allocator rows mailCounts) := by
  cases rows with
  | nil => exact empty_agrees
  | cons row rows =>
    apply updateMailCounts_agrees
    exact addAll_agrees empty_agrees hrows (fun _ _ => rfl) fun _ _ _ => nofun

inductive CacheOp where
  | add (row : CharacterRow)
  | delete (guid : ℕ) (name : String)
  | update (guid : ℕ) (name : String) (gender race : Option ℕ)
  | refresh (lowGuid : ℕ) (row : Option CharacterRow) (mailCounts : List (ℕ × ℕ))

def perform (allocator : Allocator) (cache : CharacterCache) : CacheOp → CharacterCache
  | .add row => cache.AddCharacterCacheEntry allocator row
  | .delete guid name => cache.DeleteCharacterCacheEntry guid name
  | .update guid name gender race => cache.UpdateCharacterData guid name gender race
  | .refresh lowGuid row mailCounts => cache.RefreshCacheEntry allocator lowGuid row mailCounts

def Unused (cache : CharacterCache) (guid : ℕ) (name : String) : Prop :=
  ∀ other, cache.GetCharacterNameByGuid other = some name → other = guid

/-- How the cache is called: with new guids, with the name that a guid has, and with
names that no other character has. -/
def Allowed (cache : CharacterCache) : CacheOp → Prop
  | .add row => cache.GetCharacterNameByGuid row.guid = none ∧ Unused cache row.guid row.name
  | .delete guid name => cache.GetCharacterNameByGuid guid = some name
  | .update guid name _ _ => Unused cache guid name
  | .refresh lowGuid row _ => ∀ found ∈ row, found.guid = lowGuid ∧ Unused cache lowGuid found.name

def KeepsName (cache : CharacterCache) : CacheOp → Prop
  | .refresh lowGuid row _ => ∀ found ∈ row, ∀ name,
      cache.GetCharacterNameByGuid lowGuid = some name → name = found.name
  | _ => True

def Loaded (allocator : Allocator) (rows : List CharacterRow → Prop) (cache : CharacterCache) :
    Prop :=
  ∃ table mailCounts, rows table ∧
    cache = empty.LoadCharacterCacheStorage allocator table mailCounts

theorem perform_agrees (hagree : StoresAgree cache) {op : CacheOp} (hallowed : Allowed cache op)
    (hkeeps : KeepsName cache op) : StoresAgree (cache.perform allocator op) := by
  cases op with
  | add row =>
    refine (AddCharacterCacheEntry_agrees hagree hallowed.1 fun other hother => ?_).1
    rw [hallowed.2 other hother, hallowed.1] at hother
    cases hother
  | delete guid name =>
    refine (DeleteCharacterCacheEntry_agrees hagree (fun other hother => ?_)
      fun other hother => hagree.name_injective hother hallowed).1
    exact some.inj (hother.symm.trans hallowed)
  | update guid name gender race => exact UpdateCharacterData_agrees hagree gender race hallowed
  | refresh lowGuid row mailCounts =>
    cases row with
    | none => exact hagree
    | some row =>
      obtain ⟨rfl, hunused⟩ := hallowed row rfl
      exact RefreshCacheEntry_agrees hagree mailCounts (hkeeps row rfl) hunused

/-- In every run in which an entry is refreshed only with the name that it has, the
stores agree, and the two getters are inverse to each other. -/
theorem reachable_stores_agree (hreach : Reachable (Loaded allocator Distinct)
      (guarded (fun cache op => Allowed cache op ∧ KeepsName cache op)
        fun cache op after => after = cache.perform allocator op) cache) :
    StoresAgree cache ∧ (∀ name, cache.GetCharacterGuidByName name = some 0 ∨
        ∃ guid, cache.GetCharacterGuidByName name = some guid ∧
          cache.GetCharacterNameByGuid guid = some name) ∧
      ∀ guid name, cache.GetCharacterNameByGuid guid = some name →
        cache.GetCharacterGuidByName name = some guid := by
  have hagree : StoresAgree cache := by
    refine hreach.invariant StoresAgree ?_ ?_
    · rintro _ ⟨rows, mailCounts, hrows, rfl⟩
      exact LoadCharacterCacheStorage_agrees hrows mailCounts
    · rintro before op _ hbefore ⟨⟨hallowed, hkeeps⟩, rfl⟩
      exact perform_agrees hbefore hallowed hkeeps
  have hname : ∀ guid name, cache.GetCharacterNameByGuid guid = some name →
      cache.GetCharacterGuidByName name = some guid := by
    intro guid name hname
    obtain ⟨⟨address, data⟩, hfind, hdata⟩ := map_eq_some_iff.mp hname
    have hbyName := (hagree.names name address).mpr ⟨guid, data, hfind, hdata⟩
    simp only [GetCharacterGuidByName, GetCharacterCacheByName, hbyName,
      (find_iff.mp hfind).2, map_some, elim_some, hagree.guid_eq hfind]
  refine ⟨hagree, fun name => ?_, hname⟩
  rcases hbyName : cache._characterCacheByNameStore name with _ | address
  · exact .inl (by rw [GetCharacterGuidByName, GetCharacterCacheByName, hbyName]; rfl)
  obtain ⟨guid, data, hfind, hdata⟩ := (hagree.names name address).mp hbyName
  have hown : cache.GetCharacterNameByGuid guid = some name := hdata ▸ name_of_find hfind
  exact .inr ⟨guid, hname guid name hown, hown⟩

/-! ## A refresh after a rename -/

def nextAddress : Allocator where
  address nodes := nodes.keys.sum + 1
  free nodes := by
    rw [find?_eq_none_iff]
    intro hmem
    exact absurd (le_sum_of_mem hmem) (by omega)

def oldRow : CharacterRow := ⟨1, "Anna", 1, 1, 0, 1, 80⟩

def renamedRow : CharacterRow := { oldRow with name := "Berta" }

/-- A character is renamed in its row and then refreshed: the name store still has a
pointer for the old name. -/
theorem refresh_leaves_name : ∃ cache, Reachable (Loaded nextAddress Distinct)
        (guarded Allowed fun cache op after => after = cache.perform nextAddress op) cache ∧
      cache.GetCharacterGuidByName "Anna" = some 1 ∧
      cache.GetCharacterNameByGuid 1 = some "Berta" ∧ ¬StoresAgree cache := by
  have hloaded : Loaded nextAddress Distinct
      (empty.LoadCharacterCacheStorage nextAddress [oldRow] []) :=
    ⟨[oldRow], [], ⟨nodup_singleton _, nodup_singleton _⟩, rfl⟩
  have hallowed : Allowed (empty.LoadCharacterCacheStorage nextAddress [oldRow] [])
      (.refresh 1 (some renamedRow) []) := by
    rintro found ⟨⟩
    refine ⟨rfl, fun other hother => ?_⟩
    have hnames := (@AddCharacterCacheEntry_agrees nextAddress empty empty_agrees oldRow rfl
      fun _ => nofun).2 other
    by_contra hne
    rw [if_neg (show other ≠ oldRow.guid from hne)] at hnames
    exact absurd (hnames.symm.trans hother) nofun
  have hagree := @LoadCharacterCacheStorage_agrees nextAddress [oldRow]
    ⟨nodup_singleton _, nodup_singleton _⟩ []
  refine ⟨_, (Reachable.start hloaded).step ⟨hallowed, rfl⟩, by decide +kernel,
    by decide +kernel, fun hafter => ?_⟩
  have hname := (RefreshCacheEntry_agrees_iff hagree (hallowed renamedRow rfl).2).mp hafter
    "Anna" (by decide +kernel)
  exact absurd hname (by decide)

/-- The entry is refreshed with the name that it has. -/
theorem refresh_same_name :
    ((empty.LoadCharacterCacheStorage nextAddress [oldRow] []).perform nextAddress
      (.refresh 1 (some oldRow) [])).GetCharacterGuidByName "Anna" = some 1 := by
  have hloaded : Loaded nextAddress Distinct
      (empty.LoadCharacterCacheStorage nextAddress [oldRow] []) :=
    ⟨[oldRow], [], ⟨nodup_singleton _, nodup_singleton _⟩, rfl⟩
  have hallowed : Allowed (empty.LoadCharacterCacheStorage nextAddress [oldRow] [])
      (.refresh 1 (some oldRow) []) := by
    rintro found ⟨⟩
    have hagree := @LoadCharacterCacheStorage_agrees nextAddress [oldRow]
      ⟨nodup_singleton _, nodup_singleton _⟩ []
    exact ⟨rfl, fun other hother => hagree.name_injective hother (by decide +kernel)⟩
  have hkeeps : KeepsName (empty.LoadCharacterCacheStorage nextAddress [oldRow] [])
      (.refresh 1 (some oldRow) []) := by
    rintro found ⟨⟩ name hname
    have hold : GetCharacterNameByGuid
        (empty.LoadCharacterCacheStorage nextAddress [oldRow] []) 1 = some "Anna" := by
      decide +kernel
    exact some.inj (hname.symm.trans hold)
  exact (reachable_stores_agree ((Reachable.start hloaded).step
    ⟨⟨hallowed, hkeeps⟩, rfl⟩)).2.2 1 "Anna" (by decide +kernel)

end CharacterCache

end AzerothCore.Caching
