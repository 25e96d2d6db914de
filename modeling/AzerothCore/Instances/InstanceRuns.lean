import AzerothCore.Instances.InstanceSaveMgr

/-!
# Runs of the instance save manager

Each operation keeps the binds and the player lists consistent. Where the players concerned have
bind maps and no permanent bind is downgraded, it also comes to an end without a failed assertion
or a pointer to a destroyed save.
-/

namespace AzerothCore.Instances

open List Option Bool Nat StdMap
open Folding Reachability

namespace InstanceSaveMgr

variable {world : InstanceWorld} {mgr before after : InstanceSaveMgr} {guid save : ℕ}
  {object : InstanceSave} {w : BoundInstancesMapWrapper} {bind : InstancePlayerBind}

theorem AddPlayer_eq (hsave : mgr.saves.find? save = some object) (guid : ℕ) :
    mgr.AddPlayer save guid = .ok (mgr.setSave save (object.withPlayer guid)) := by
  unfold AddPlayer
  rw [deref_of_find? hsave]
  rfl

def withBind (mgr : InstanceSaveMgr) (permanent : Bool) (save : ℕ) (object : InstanceSave) :
    InstanceSaveMgr :=
  if permanent then mgr.setSave save { object with m_canReset := false } else mgr

theorem setPermanent_eq (hsave : mgr.saves.find? save = some object) (permanent : Bool) :
    mgr.setPermanent save permanent = .ok (mgr.withBind permanent save object) := by
  rcases permanent with _ | _
  · rfl
  unfold setPermanent SetCanReset
  rw [if_pos rfl, deref_of_find? hsave]
  rfl

theorem withBind_setBoundMaps (permanent : Bool) (save : ℕ) (object : InstanceSave) :
    (mgr.withBind permanent save object).setBoundMaps guid w =
      (mgr.setBoundMaps guid w).withBind permanent save object := by
  cases permanent <;> rfl

theorem Consistent.withBind (hcons : Consistent mgr)
    (hsave : mgr.saves.find? save = some object) (permanent : Bool) :
    Consistent (mgr.withBind permanent save object) := by
  cases permanent with
  | false => exact hcons
  | true => exact hcons.setSave hsave rfl rfl rfl rfl

@[simp]
theorem withBind_playerBindStorage (mgr : InstanceSaveMgr) (permanent : Bool) (save : ℕ)
    (object : InstanceSave) :
    (mgr.withBind permanent save object).playerBindStorage = mgr.playerBindStorage := by
  cases permanent <;> rfl

@[simp]
theorem withBind_lock_instLists (mgr : InstanceSaveMgr) (permanent : Bool) (save : ℕ)
    (object : InstanceSave) :
    (mgr.withBind permanent save object).lock_instLists = mgr.lock_instLists := by
  cases permanent <;> rfl

theorem setBoundMaps_setBoundMaps (w w' : BoundInstancesMapWrapper) :
    (mgr.setBoundMaps guid w).setBoundMaps guid w' = mgr.setBoundMaps guid w' := by
  unfold setBoundMaps
  rw [insert_insert_self]

theorem Consistent.exists_save {difficulty mapid : ℕ} (hcons : Consistent mgr)
    (hw : mgr.playerBindStorage.find? guid = some w)
    (hbind : w.find? difficulty mapid = some bind) :
    ∃ object, mgr.saves.find? bind.save = some object ∧
      mgr.m_instanceSaveById.find? object.m_instanceid = some bind.save ∧
      object.m_difficulty = difficulty ∧ object.m_mapid = mapid := by
  obtain ⟨object, hsave, hd, hm⟩ := hcons.bound guid difficulty mapid bind.save
    (boundSave_of_find? hw hbind)
  exact ⟨object, hsave, (hcons.alive bind.save object hsave).1, hd, hm⟩

/-! ## What the operations keep -/

structure Keeps (before after : InstanceSaveMgr) : Prop where
  lock : after.lock_instLists = before.lock_instLists
  players : ∀ guid, (before.playerBindStorage.find? guid).isSome →
    (after.playerBindStorage.find? guid).isSome
  registry : before.lock_instLists = true → after.m_instanceSaveById = before.m_instanceSaveById
  saves : before.lock_instLists = true → ∀ save object, before.saves.find? save = some object →
    ∃ kept, after.saves.find? save = some kept ∧ kept.m_instanceid = object.m_instanceid ∧
      kept.m_difficulty = object.m_difficulty ∧ kept.m_mapid = object.m_mapid

theorem Keeps.refl (mgr : InstanceSaveMgr) : Keeps mgr mgr :=
  ⟨rfl, fun _ h => h, fun _ => rfl, fun _ _ object h => ⟨object, h, rfl, rfl, rfl⟩⟩

variable {next : InstanceSaveMgr} {permanent : Bool} {source target : ℕ} {now : ℤ}
  {row : InstanceRow}

theorem Keeps.trans (hfirst : Keeps before next) (hsecond : Keeps next after) :
    Keeps before after := by
  refine ⟨hsecond.lock.trans hfirst.lock,
    fun guid h => hsecond.players guid (hfirst.players guid h), fun hlock => ?_,
    fun hlock save object hsave => ?_⟩
  · exact (hsecond.registry (hfirst.lock.trans hlock)).trans (hfirst.registry hlock)
  · obtain ⟨kept, hkept, hid, hd, hm⟩ := hfirst.saves hlock save object hsave
    obtain ⟨last, hlast, hid', hd', hm'⟩ := hsecond.saves (hfirst.lock.trans hlock) save kept hkept
    exact ⟨last, hlast, hid'.trans hid, hd'.trans hd, hm'.trans hm⟩

theorem Keeps.setBoundMaps (mgr : InstanceSaveMgr) (guid : ℕ) (w : BoundInstancesMapWrapper) :
    Keeps mgr (mgr.setBoundMaps guid w) := by
  refine ⟨rfl, fun other h => ?_, fun _ => rfl, fun _ _ object h => ⟨object, h, rfl, rfl, rfl⟩⟩
  unfold InstanceSaveMgr.setBoundMaps
  rw [find?_insert]
  split
  · rfl
  · exact h

theorem Keeps.setSave {changed : InstanceSave} (hsave : mgr.saves.find? save = some object)
    (hid : changed.m_instanceid = object.m_instanceid)
    (hdiff : changed.m_difficulty = object.m_difficulty)
    (hmapid : changed.m_mapid = object.m_mapid) : Keeps mgr (mgr.setSave save changed) := by
  refine ⟨rfl, fun _ h => h, fun _ => rfl, fun _ other found hfound => ?_⟩
  unfold InstanceSaveMgr.setSave
  rw [find?_insert]
  by_cases heq : save = other
  · subst heq
    rw [hsave, Option.some.injEq] at hfound
    subst hfound
    exact ⟨changed, if_pos rfl, hid, hdiff, hmapid⟩
  · exact ⟨found, (if_neg heq).trans hfound, rfl, rfl, rfl⟩

theorem Keeps.unlisted (hsave : mgr.saves.find? save = some object) (guid : ℕ) :
    Keeps mgr (mgr.unlisted save guid object) := by
  have hkept := fun hlock : mgr.lock_instLists = true =>
    unlisted_of_lock hlock save guid object
  have hset : Keeps mgr (mgr.setSave save (object.without guid)) := .setSave hsave rfl rfl rfl
  refine ⟨unlisted_lock_instLists .., fun other h => ?_, fun hlock => ?_, fun hlock => ?_⟩
  · rw [unlisted_playerBindStorage]
    exact h
  · rw [hkept hlock]
    rfl
  · rw [hkept hlock]
    exact hset.saves hlock

structure SameElsewhere (difficulty mapid : ℕ) (before after : InstanceSaveMgr) : Prop where
  saves : ∀ save object, before.saves.find? save = some object →
    ¬ (object.m_difficulty = difficulty ∧ object.m_mapid = mapid) →
    after.saves.find? save = some object
  binds : ∀ guid difficulty' mapid', ¬ (difficulty' = difficulty ∧ mapid' = mapid) →
    after.boundSave guid difficulty' mapid' = before.boundSave guid difficulty' mapid'

namespace SameElsewhere

variable {difficulty mapid : ℕ}

theorem refl (mgr : InstanceSaveMgr) : SameElsewhere difficulty mapid mgr mgr :=
  ⟨fun _ _ h _ => h, fun _ _ _ _ => rfl⟩

theorem trans (hfirst : SameElsewhere difficulty mapid before next)
    (hsecond : SameElsewhere difficulty mapid next after) :
    SameElsewhere difficulty mapid before after :=
  ⟨fun save object hsave hplace =>
      hsecond.saves save object (hfirst.saves save object hsave hplace) hplace,
    fun guid difficulty' mapid' hplace => (hsecond.binds guid difficulty' mapid' hplace).trans
      (hfirst.binds guid difficulty' mapid' hplace)⟩

theorem of_save (hsave : mgr.saves.find? save = some object)
    (hdiff : object.m_difficulty = difficulty) (hmapid : object.m_mapid = mapid)
    (hsaves : ∀ other, save ≠ other → after.saves.find? other = mgr.saves.find? other)
    (hstorage : after.playerBindStorage = mgr.playerBindStorage) :
    SameElsewhere difficulty mapid mgr after := by
  refine ⟨fun other found hfound hplace => ?_, fun guid difficulty' mapid' _ => ?_⟩
  · rw [hsaves other, hfound]
    intro heq
    rw [← heq, hsave, Option.some.injEq] at hfound
    exact hplace ⟨hfound ▸ hdiff, hfound ▸ hmapid⟩
  · rw [boundSave, boundSave, hstorage]

end SameElsewhere

theorem unbind_spec {difficulty mapid : ℕ} (hcons : Consistent mgr)
    (hw : mgr.playerBindStorage.find? guid = some w)
    (hbind : w.find? difficulty mapid = some bind) :
    ∃ after, (mgr.setBoundMaps guid (w.erase difficulty mapid)).RemovePlayer bind.save guid =
      .ok after ∧ Consistent after ∧ Keeps mgr after ∧
        SameElsewhere difficulty mapid mgr after := by
  obtain ⟨object, hsave, hreg, hd, hm⟩ := hcons.exists_save hw hbind
  have herased : SameElsewhere difficulty mapid mgr
      (mgr.setBoundMaps guid (w.erase difficulty mapid)) := by
    refine ⟨fun _ _ h _ => h, fun other difficulty' mapid' hplace => ?_⟩
    rw [boundSave_erase hw, if_neg]
    rintro ⟨-, rfl, rfl⟩
    exact hplace ⟨rfl, rfl⟩
  have hremoved := @SameElsewhere.of_save (mgr.setBoundMaps guid (w.erase difficulty mapid))
    ((mgr.setBoundMaps guid (w.erase difficulty mapid)).unlisted bind.save guid object) bind.save
    object difficulty mapid hsave hd hm
    (fun other hne => unlisted_find?_of_ne hne guid object) (unlisted_playerBindStorage ..)
  have hremove := @RemovePlayer_eq (mgr.setBoundMaps guid (w.erase difficulty mapid)) bind.save
    object hsave hreg guid
  have hunlisted := @Keeps.unlisted (mgr.setBoundMaps guid (w.erase difficulty mapid)) bind.save
    object hsave guid
  exact ⟨_, hremove, hcons.unbind hw hbind hsave,
    (Keeps.setBoundMaps mgr guid _).trans hunlisted, herased.trans hremoved⟩

section

variable (hcons : Consistent mgr) (hw : mgr.playerBindStorage.find? guid = some w)
include hcons hw

theorem PlayerUnbindInstance_spec (mapid difficulty : ℕ) :
    ∃ after, mgr.PlayerUnbindInstance guid mapid difficulty = .ok after ∧
      Consistent after ∧ Keeps mgr after ∧ SameElsewhere difficulty mapid mgr after := by
  unfold PlayerUnbindInstance
  rw [boundMaps_of_find? hw, ok_bind]
  split
  · exact ⟨mgr, rfl, hcons, .refl mgr, .refl mgr⟩
  case h_2 bind hbind => exact unbind_spec hcons hw hbind

theorem PlayerUnbindInstanceNotExtended_spec (mapid difficulty : ℕ) :
    ∃ after, mgr.PlayerUnbindInstanceNotExtended guid mapid difficulty = .ok after ∧
      Consistent after ∧ Keeps mgr after ∧ SameElsewhere difficulty mapid mgr after := by
  unfold PlayerUnbindInstanceNotExtended
  rw [boundMaps_of_find? hw, ok_bind]
  split
  · exact ⟨mgr, rfl, hcons, .refl mgr, .refl mgr⟩
  rename_i bind hbind
  split
  case isFalse => exact unbind_spec hcons hw hbind
  refine ⟨_, rfl, hcons.setFlags hw hbind rfl, .setBoundMaps mgr guid _,
    fun _ _ h _ => h, fun other difficulty' mapid' hplace => ?_⟩
  rw [boundSave_insert hw, if_neg]
  rintro ⟨-, rfl, rfl⟩
  exact hplace ⟨rfl, rfl⟩

end

theorem unbindAll_spec {unbind : InstanceSaveMgr → ℕ → Except Failure InstanceSaveMgr}
    {difficulty mapid : ℕ}
    (hunbind : ∀ mgr guid w, Consistent mgr → mgr.playerBindStorage.find? guid = some w →
      ∃ after, unbind mgr guid = .ok after ∧ Consistent after ∧ Keeps mgr after ∧
        SameElsewhere difficulty mapid mgr after)
    (hcons : Consistent mgr) {players : List ℕ}
    (hplayers : ∀ guid ∈ players, (mgr.playerBindStorage.find? guid).isSome) :
    ∃ after, players.foldlM unbind mgr = .ok after ∧ Consistent after ∧ Keeps mgr after ∧
      SameElsewhere difficulty mapid mgr after := by
  have hround : ∀ guid rest state, (Consistent state ∧ Keeps mgr state ∧
      SameElsewhere difficulty mapid mgr state ∧
      ∀ other ∈ guid :: rest, (state.playerBindStorage.find? other).isSome) →
      ∃ next, unbind state guid = .ok next ∧ Consistent next ∧ Keeps mgr next ∧
        SameElsewhere difficulty mapid mgr next ∧
        ∀ other ∈ rest, (next.playerBindStorage.find? other).isSome := by
    intro guid rest state ⟨hstate, hkeeps, hsame, hrest⟩
    obtain ⟨w, hw⟩ := isSome_iff_exists.mp (hrest guid mem_cons_self)
    obtain ⟨next, hnext, hcons, hkept, helsewhere⟩ := hunbind state guid w hstate hw
    exact ⟨next, hnext, hcons, hkeeps.trans hkept, hsame.trans helsewhere,
      fun other hother => hkept.players other (hrest other (mem_cons_of_mem _ hother))⟩
  obtain ⟨after, hfold, hafter, hkeeps, hsame, -⟩ := @foldlM_total _ _ _ unbind
    (fun rest state => Consistent state ∧ Keeps mgr state ∧
      SameElsewhere difficulty mapid mgr state ∧
      ∀ guid ∈ rest, (state.playerBindStorage.find? guid).isSome)
    hround players mgr ⟨hcons, .refl mgr, .refl mgr, hplayers⟩
  exact ⟨after, hfold, hafter, hkeeps, hsame⟩

section

variable (hcons : Consistent mgr)
include hcons

theorem Consistent.players (hsave : mgr.saves.find? save = some object) :
    ∀ guid ∈ object.m_playerList, (mgr.playerBindStorage.find? guid).isSome := by
  intro guid hguid
  obtain ⟨w, -, hw, -⟩ := exists_of_boundSave
    ((hcons.listed save object hsave guid).mp hguid)
  exact isSome_iff_exists.mpr ⟨w, hw⟩

theorem UnbindAllFor_spec (hsave : mgr.saves.find? save = some object) :
    ∃ after, mgr.UnbindAllFor save = .ok after ∧ Consistent after ∧ Keeps mgr after ∧
      SameElsewhere object.m_difficulty object.m_mapid mgr after := by
  unfold UnbindAllFor
  rw [deref_of_find? hsave, ok_bind]
  exact unbindAll_spec (fun mgr guid w hmgr hw =>
    PlayerUnbindInstance_spec hmgr hw object.m_mapid object.m_difficulty)
    hcons (hcons.players hsave)

section

variable (hw : mgr.playerBindStorage.find? guid = some w)
include hw

theorem enter_spec (hsave : mgr.saves.find? save = some object)
    (hnone : w.find? object.m_difficulty object.m_mapid = none) (permanent extended : Bool) :
    Consistent (((mgr.setSave save (object.withPlayer guid)).setBoundMaps guid
      (w.insert object.m_difficulty object.m_mapid ⟨save, permanent, extended⟩)).withBind
        permanent save (object.withPlayer guid)) :=
  (hcons.enter hw hsave hnone permanent extended).withBind
    (find?_insert_self _ _ _) permanent

theorem Consistent.rebind {old : InstanceSave} (hold : mgr.saves.find? bind.save = some old)
    (hbind : w.find? object.m_difficulty object.m_mapid = some bind)
    (hsave : (mgr.unlisted bind.save guid old).saves.find? save = some object)
    (permanent extended : Bool) :
    Consistent ((((mgr.unlisted bind.save guid old).setSave save
      (object.withPlayer guid)).setBoundMaps guid
      (w.insert object.m_difficulty object.m_mapid ⟨save, permanent, extended⟩)).withBind
        permanent save (object.withPlayer guid)) := by
  have hunbound := hcons.unbind hw hbind hold
  rw [unlisted_setBoundMaps] at hunbound
  have hmaps : ((mgr.unlisted bind.save guid old).setBoundMaps guid
      (w.erase object.m_difficulty object.m_mapid)).playerBindStorage.find? guid =
      some (w.erase object.m_difficulty object.m_mapid) := find?_insert_self _ _ _
  have hnone : (w.erase object.m_difficulty object.m_mapid).find? object.m_difficulty
      object.m_mapid = none := by
    rw [BoundInstancesMapWrapper.find?_erase, if_pos ⟨rfl, rfl⟩]
  have henter := enter_spec hunbound hmaps hsave hnone permanent extended
  rw [BoundInstancesMapWrapper.insert_erase] at henter
  have hset := @setBoundMaps_setBoundMaps ((mgr.unlisted bind.save guid old).setSave save
    (object.withPlayer guid)) guid (w.erase object.m_difficulty object.m_mapid)
    (w.insert object.m_difficulty object.m_mapid ⟨save, permanent, extended⟩)
  rw [← hset]
  exact henter

theorem PlayerBindToInstance_spec (hsave : mgr.saves.find? save = some object)
    (hperm : ∀ bind, w.find? object.m_difficulty object.m_mapid = some bind →
      bind.perm = true → permanent = true) :
    ∃ after extended, mgr.PlayerBindToInstance guid save permanent = .ok after ∧
      Consistent after ∧ after.playerBindStorage = mgr.playerBindStorage.insert guid
        (w.insert object.m_difficulty object.m_mapid ⟨save, permanent, extended⟩) := by
  unfold PlayerBindToInstance
  rw [deref_of_find? hsave, ok_bind, boundMaps_of_find? hw, ok_bind]
  dsimp only
  generalize (w.find? object.m_difficulty object.m_mapid).any (fun bind =>
    bind.save = save && bind.perm = permanent && bind.extended) = extended
  cases hfind : w.find? object.m_difficulty object.m_mapid with
  | none =>
    have hplayer : (mgr.setSave save (object.withPlayer guid)).saves.find? save =
        some (object.withPlayer guid) := find?_insert_self _ _ _
    unfold changeSave
    rw [AddPlayer_eq hsave, ok_bind, setPermanent_eq hplayer, ok_bind, withBind_setBoundMaps]
    refine ⟨_, extended, rfl, enter_spec hcons hw hsave hfind permanent extended, ?_⟩
    rw [withBind_playerBindStorage]
    rfl
  | some bind =>
    have hallowed : (bind.perm && !permanent) = false := by
      cases hp : bind.perm with
      | false => rfl
      | true => rw [hperm bind hfind hp, Bool.true_and, Bool.not_true]
    unfold changeSave
    rw [any_some, hallowed, if_neg Bool.false_ne_true]
    dsimp only
    by_cases hsame : bind.save = save
    · rw [if_pos hsame, ok_bind, setPermanent_eq hsave, ok_bind, withBind_setBoundMaps]
      refine ⟨_, extended, rfl, (hcons.setFlags hw hfind hsame.symm).withBind hsave permanent, ?_⟩
      rw [withBind_playerBindStorage]
      rfl
    obtain ⟨old, hold, hreg, -⟩ := hcons.exists_save hw hfind
    have hfound : (mgr.unlisted bind.save guid old).saves.find? save = some object :=
      (unlisted_find?_of_ne hsame guid old).trans hsave
    have hplayer : ((mgr.unlisted bind.save guid old).setSave save
        (object.withPlayer guid)).saves.find? save = some (object.withPlayer guid) :=
      find?_insert_self _ _ _
    rw [if_neg hsame, RemovePlayer_eq hold hreg, ok_bind, AddPlayer_eq hfound, ok_bind,
      setPermanent_eq hplayer, ok_bind, withBind_setBoundMaps]
    refine ⟨_, extended, rfl, hcons.rebind hw hold hfind hfound permanent extended, ?_⟩
    rw [withBind_playerBindStorage]
    exact congrArg (fun storage => StdMap.insert storage guid _)
      (unlisted_playerBindStorage mgr bind.save guid old)

end

end

theorem exists_of_PlayerBindToInstance
    (hbind : mgr.PlayerBindToInstance guid save permanent = .ok after) :
    ∃ object w, mgr.saves.find? save = some object ∧ mgr.playerBindStorage.find? guid = some w ∧
      ∀ bind, w.find? object.m_difficulty object.m_mapid = some bind → bind.perm = true →
        permanent = true := by
  obtain ⟨object, hobject, hbind⟩ := exists_of_bind_ok hbind
  obtain ⟨w, hw, hbind⟩ := exists_of_bind_ok hbind
  refine ⟨object, w, find?_of_deref hobject, find?_of_boundMaps hw, fun bind hfind hp => ?_⟩
  rw [hfind] at hbind
  dsimp only at hbind
  rw [any_some, hp, Bool.true_and] at hbind
  cases permanent with
  | true => rfl
  | false =>
    cases hbind

theorem Consistent.PlayerBindToInstance (hcons : Consistent mgr)
    (hbind : mgr.PlayerBindToInstance guid save permanent = .ok after) : Consistent after := by
  obtain ⟨object, w, hsave, hw, hperm⟩ := exists_of_PlayerBindToInstance hbind
  obtain ⟨result, -, hresult, hafter, -⟩ := PlayerBindToInstance_spec hcons hw hsave hperm
  rw [hbind] at hresult
  cases hresult
  exact hafter

theorem PlayerCreateBoundInstancesMaps_spec (hcons : Consistent mgr) (guid : ℕ) :
    Consistent (mgr.PlayerCreateBoundInstancesMaps guid) ∧
      Keeps mgr (mgr.PlayerCreateBoundInstancesMaps guid) ∧
      (mgr.PlayerCreateBoundInstancesMaps guid).saves = mgr.saves ∧
      ∃ w, (mgr.PlayerCreateBoundInstancesMaps guid).playerBindStorage.find? guid = some w := by
  unfold PlayerCreateBoundInstancesMaps
  split
  case isTrue hw =>
    exact ⟨hcons, .refl mgr, rfl, isSome_iff_exists.mp hw⟩
  rename_i hnone
  rw [not_eq_true, isSome_eq_false_iff, isNone_iff_eq_none] at hnone
  refine ⟨?_, .setBoundMaps mgr guid .empty, rfl, .empty, find?_insert_self _ _ _⟩
  refine hcons.congr ⟨rfl, rfl, rfl⟩ fun other difficulty mapid => ?_
  unfold boundSave setBoundMaps
  rw [find?_insert]
  by_cases heq : guid = other
  · rw [if_pos heq, ← heq, hnone]
    rfl
  · rw [if_neg heq]

theorem storeBind_eq {row : CharacterInstanceRow} (hsave : mgr.saves.find? save = some object)
    (placed : InstanceSave) :
    mgr.storeBind row save placed w = .ok
      (((mgr.setSave save (object.withPlayer row.guid)).setBoundMaps row.guid
        (w.insert placed.m_difficulty placed.m_mapid
          ⟨save, row.permanent, row.extended⟩)).withBind row.permanent save
            (object.withPlayer row.guid)) := by
  unfold storeBind
  dsimp only
  have hplayer : (mgr.setSave save (object.withPlayer row.guid)).saves.find? save =
      some (object.withPlayer row.guid) := find?_insert_self _ _ _
  have hadd := @AddPlayer_eq (mgr.setBoundMaps row.guid (w.insert placed.m_difficulty
    placed.m_mapid ⟨save, row.permanent, row.extended⟩)) save object hsave row.guid
  have hset := @setPermanent_eq ((mgr.setBoundMaps row.guid (w.insert placed.m_difficulty
    placed.m_mapid ⟨save, row.permanent, row.extended⟩)).setSave save
      (object.withPlayer row.guid)) save (object.withPlayer row.guid) hplayer row.permanent
  rw [hadd, ok_bind, hset]
  rfl

theorem loadCharacterBind_spec (hcons : Consistent mgr)
    (hlock : mgr.lock_instLists = true) (row : CharacterInstanceRow) :
    ∃ after, loadCharacterBind mgr row = .ok after ∧ Consistent after ∧
      after.lock_instLists = true := by
  unfold loadCharacterBind
  split
  · exact ⟨mgr, rfl, hcons, hlock⟩
  rename_i save hfind
  obtain ⟨hcreated, hkeeps, hsaves, w, hw⟩ := PlayerCreateBoundInstancesMaps_spec hcons row.guid
  obtain ⟨object, hsave, -⟩ := hcons.registered row.instanceId save hfind
  rw [← hsaves] at hsave
  have hlocked := hkeeps.lock.trans hlock
  generalize mgr.PlayerCreateBoundInstancesMaps row.guid = created at *
  dsimp only
  rw [deref_of_find? hsave, ok_bind, boundMaps_of_find? hw, ok_bind]
  split
  case h_1 hnone =>
    refine ⟨_, storeBind_eq hsave object,
      enter_spec hcreated hw hsave hnone row.permanent row.extended, ?_⟩
    rw [withBind_lock_instLists]
    exact hlocked
  rename_i bind hbind
  split
  · exact ⟨created, rfl, hcreated, hlocked⟩
  obtain ⟨old, hold, hreg, -⟩ := hcreated.exists_save hw hbind
  -- the save may be the one that the player just left: it is not destroyed
  obtain ⟨kept, hkept, -, hd, hm⟩ := (Keeps.unlisted hold row.guid).saves hlocked save object hsave
  rw [RemovePlayer_eq hold hreg, ok_bind, storeBind_eq hkept, ← hd, ← hm]
  refine ⟨_, rfl, hcreated.rebind hw hold (by rw [hd, hm, hbind]) hkept _ _, ?_⟩
  rw [withBind_lock_instLists]
  exact (unlisted_lock_instLists ..).trans hlocked

theorem LoadCharacterBinds_spec (hcons : Consistent mgr)
    (rows : List CharacterInstanceRow) :
    ∃ after, mgr.LoadCharacterBinds rows = .ok after ∧ Consistent after ∧
      after.lock_instLists = false := by
  have hlocked : Consistent { mgr with lock_instLists := true } :=
    hcons.congr ⟨rfl, rfl, rfl⟩ fun _ _ _ => rfl
  obtain ⟨loaded, hfold, hloaded, -⟩ := @foldlM_total _ _ _ loadCharacterBind
    (fun _ state => Consistent state ∧ state.lock_instLists = true)
    (fun row _ state hstate => loadCharacterBind_spec hstate.1 hstate.2 row) rows _
    ⟨hlocked, rfl⟩
  unfold LoadCharacterBinds
  rw [hfold, ok_bind]
  exact ⟨_, rfl, hloaded.congr ⟨rfl, rfl, rfl⟩ fun _ _ _ => rfl, rfl⟩

theorem Consistent.CopyBinds (hcons : Consistent mgr)
    (hcopy : mgr.CopyBinds world source target = .ok after) : Consistent after := by
  unfold InstanceSaveMgr.CopyBinds at hcopy
  split at hcopy
  · cases hcopy
    exact hcons
  refine @foldlM_invariant _ _ _ _ (fun _ => Consistent) ?_ _ [] _ _ hcons hcopy
  intro _ state d next hstate hround
  refine @foldlM_invariant _ _ _ _ (fun _ => Consistent) ?_ _ [] _ _ hstate hround
  intro _ state entry next hstate hround
  unfold copyBind at hround
  split at hround
  case isFalse => exact hstate.PlayerBindToInstance hround
  cases hround
  exact hstate

def FindsPermanent (world : InstanceWorld) (mgr : InstanceSaveMgr) (guid : ℕ) : Prop :=
  ∀ w, mgr.playerBindStorage.find? guid = some w → ∀ difficulty mapid bind,
    w.find? difficulty mapid = some bind → bind.perm = true →
      (mgr.PlayerGetBoundInstance world guid mapid difficulty).isSome

/-- What holds while the binds in `maps` are copied to another player. -/
structure Copying (world : InstanceWorld) (source target : ℕ)
    (maps : Option BoundInstancesMapWrapper) (mgr : InstanceSaveMgr) : Prop where
  consistent : Consistent mgr
  sourceMaps : mgr.playerBindStorage.find? source = maps
  targetMaps : (mgr.playerBindStorage.find? target).isSome
  permanent : FindsPermanent world mgr target

theorem copyBind_spec {d : ℕ} {entry : ℕ × InstancePlayerBind}
    (hcopying : Copying world source target (some w) mgr) (hne : target ≠ source)
    (hentry : w.find? d entry.1 = some entry.2) :
    ∃ after, copyBind world target d mgr entry = .ok after ∧
      Copying world source target (some w) after := by
  unfold copyBind
  split
  · exact ⟨mgr, rfl, hcopying⟩
  rename_i hnone
  obtain ⟨object, hsave, -, rfl, hmapid⟩ :=
    hcopying.consistent.exists_save hcopying.sourceMaps hentry
  obtain ⟨wt, hwt⟩ := isSome_iff_exists.mp hcopying.targetMaps
  have hperm : ∀ bind, wt.find? object.m_difficulty object.m_mapid = some bind →
      bind.perm = true → false = true := by
    intro bind hbind hp
    rw [hmapid] at hbind
    exact absurd (hcopying.permanent wt hwt _ _ bind hbind hp) hnone
  obtain ⟨after, extended, hresult, hcons, hstorage⟩ :=
    PlayerBindToInstance_spec hcopying.consistent hwt hsave hperm
  have htarget : after.playerBindStorage.find? target = some
      (wt.insert object.m_difficulty object.m_mapid ⟨entry.2.save, false, extended⟩) := by
    rw [hstorage, find?_insert_self]
  refine ⟨after, hresult, hcons, ?_, ?_, ?_⟩
  · rw [hstorage, find?_insert, if_neg hne]
    exact hcopying.sourceMaps
  · rw [htarget]
    rfl
  · intro w' hw' difficulty mapid bind hbind hp
    rw [htarget, Option.some.injEq] at hw'
    subst hw'
    rw [BoundInstancesMapWrapper.find?_insert] at hbind
    split at hbind
    · cases hbind
      cases hp
    have hfound := hcopying.permanent wt hwt difficulty mapid bind hbind hp
    unfold PlayerGetBoundInstance at hfound ⊢
    cases hdownscaled : world.GetDownscaledMapDifficultyData mapid
        (world.fixedDifficulty mapid difficulty) with
    | none =>
      rw [hdownscaled] at hfound
      exact hfound
    | some difficulty_fixed =>
      rw [hdownscaled, hwt] at hfound
      rw [htarget]
      change (BoundInstancesMapWrapper.find? _ difficulty_fixed mapid).isSome
      rw [BoundInstancesMapWrapper.find?_insert]
      split
      · rfl
      · exact hfound

theorem CopyBinds_spec (hcons : Consistent mgr)
    (htarget : (mgr.playerBindStorage.find? target).isSome)
    (hpermanent : FindsPermanent world mgr target) :
    ∃ after, mgr.CopyBinds world source target = .ok after ∧ Consistent after := by
  unfold InstanceSaveMgr.CopyBinds
  split
  · exact ⟨mgr, rfl, hcons⟩
  rename_i hne
  have hround : ∀ d (_ : List ℕ) state,
      Copying world source target (mgr.playerBindStorage.find? source) state →
      ∃ next, (world.bindOrder (state.PlayerGetBoundInstances source d)).foldlM
        (copyBind world target d) state = .ok next ∧
        Copying world source target (mgr.playerBindStorage.find? source) next := by
    intro d _ state hstate
    unfold PlayerGetBoundInstances
    rw [hstate.sourceMaps]
    rcases hmaps : mgr.playerBindStorage.find? source with _ | w
    · rw [hmaps] at hstate
      have hnil := perm_nil.mp (world.bindOrder_perm StdMap.empty)
      rw [hnil]
      exact ⟨state, rfl, hstate⟩
    rw [hmaps] at hstate
    obtain ⟨next, hnext, hcopied, -⟩ := @foldlM_total _ _ _ (copyBind world target d)
      (fun rest state => Copying world source target (some w) state ∧
        ∀ entry ∈ rest, w.find? d entry.1 = some entry.2)
      (fun entry rest state h => by
        obtain ⟨next, hnext, hcopied⟩ := copyBind_spec h.1 (Ne.symm hne)
          (h.2 entry mem_cons_self)
        exact ⟨next, hnext, hcopied, fun other hother =>
          h.2 other (mem_cons_of_mem _ hother)⟩)
      (world.bindOrder (w.m d)) state
      ⟨hstate, fun entry hentry => find?_eq_some_iff.mpr
        ((world.bindOrder_perm (w.m d)).mem_iff.mp hentry)⟩
    exact ⟨next, hnext, hcopied⟩
  obtain ⟨after, hafter, hcopied⟩ := @foldlM_total _ _ _ (fun state d =>
    (world.bindOrder (state.PlayerGetBoundInstances source d)).foldlM
      (copyBind world target d) state)
    (fun _ state => Copying world source target (mgr.playerBindStorage.find? source) state)
    (fun d rest state hstate => hround d rest state hstate) (List.range MAX_DIFFICULTY) mgr
    ⟨hcons, rfl, htarget, hpermanent⟩
  exact ⟨after, hafter, hcopied.consistent⟩

theorem Consistent.find?_nextSave (hcons : Consistent mgr) :
    mgr.saves.find? mgr.nextSave = none := by
  rw [eq_none_iff_forall_ne_some]
  intro object hfind
  exact lt_irrefl _ (hcons.alive mgr.nextSave object hfind).2

theorem Consistent.add (hcons : Consistent mgr)
    (hfree : mgr.m_instanceSaveById.find? object.m_instanceid = none)
    (hempty : object.m_playerList = [])
    (hafter : after.m_instanceSaveById =
        mgr.m_instanceSaveById.insert object.m_instanceid mgr.nextSave ∧
      after.saves = mgr.saves.insert mgr.nextSave object ∧
      after.nextSave = mgr.nextSave + 1 ∧ after.playerBindStorage = mgr.playerBindStorage) :
    Consistent after := by
  obtain ⟨hregistry, hsaves, hnext, hstorage⟩ := hafter
  have hnew := hcons.find?_nextSave
  have hbinds : ∀ guid difficulty mapid, after.boundSave guid difficulty mapid =
      mgr.boundSave guid difficulty mapid := by
    intro guid difficulty mapid
    rw [boundSave, boundSave, hstorage]
  have hunbound : ∀ guid difficulty mapid,
      mgr.boundSave guid difficulty mapid ≠ some mgr.nextSave := by
    intro guid difficulty mapid hbound
    obtain ⟨found, hfound, -⟩ := hcons.bound guid difficulty mapid _ hbound
    cases hnew.symm.trans hfound
  have hfind : ∀ other found, after.saves.find? other = some found →
      other = mgr.nextSave ∧ found = object ∨ mgr.saves.find? other = some found := by
    intro other found hfound
    rw [hsaves, find?_insert] at hfound
    split at hfound
    case isTrue heq => exact .inl ⟨heq.symm, (some.inj hfound).symm⟩
    case isFalse => exact .inr hfound
  have hkept : ∀ other found, mgr.saves.find? other = some found →
      after.saves.find? other = some found := by
    intro other found hfound
    rw [hsaves, find?_insert, if_neg, hfound]
    intro heq
    rw [heq, hfound] at hnew
    cases hnew
  refine ⟨?registered, ?alive, ?distinct, ?listed, ?bound⟩
  case registered =>
    intro id other hother
    rw [hregistry, find?_insert] at hother
    split at hother
    case isTrue heq =>
      cases hother
      exact ⟨object, by rw [hsaves, find?_insert_self], heq⟩
    case isFalse =>
      obtain ⟨found, hfound, hid⟩ := hcons.registered id other hother
      exact ⟨found, hkept other found hfound, hid⟩
  case alive =>
    intro other found hfound
    rw [hregistry, hnext, find?_insert]
    rcases hfind other found hfound with ⟨rfl, rfl⟩ | hold
    · exact ⟨if_pos rfl, lt_succ_self _⟩
    obtain ⟨hid, hlt⟩ := hcons.alive other found hold
    refine ⟨?_, hlt.trans (lt_succ_self _)⟩
    rw [if_neg, hid]
    intro heq
    rw [heq, hid] at hfree
    cases hfree
  case distinct =>
    intro other found hfound
    rcases hfind other found hfound with ⟨-, rfl⟩ | hold
    · rw [hempty]
      exact nodup_nil
    · exact hcons.distinct other found hold
  case listed =>
    intro other found hfound guid
    rw [hbinds]
    rcases hfind other found hfound with ⟨rfl, rfl⟩ | hold
    · rw [hempty]
      exact iff_of_false not_mem_nil (hunbound guid _ _)
    · exact hcons.listed other found hold guid
  case bound =>
    intro guid difficulty mapid other hbound
    rw [hbinds] at hbound
    obtain ⟨found, hfound, hplace⟩ := hcons.bound guid difficulty mapid other hbound
    exact ⟨found, hkept other found hfound, hplace⟩

theorem AddInstanceSave_spec {mapId instanceId difficulty : ℕ} (hcons : Consistent mgr)
    (hfree : mgr.m_instanceSaveById.find? instanceId = none) :
    ∃ result, mgr.AddInstanceSave world now mapId instanceId difficulty = .ok result ∧
      Consistent result.2 ∧
      (∀ id, id ≠ instanceId → result.2.m_instanceSaveById.find? id =
        mgr.m_instanceSaveById.find? id) ∧
      ∀ save, result.1 = some save → ∃ object, result.2.saves.find? save = some object := by
  have hsame : ∃ result, Except.ok (none, mgr) = (.ok result :
      Except Failure (Option ℕ × InstanceSaveMgr)) ∧ Consistent result.2 ∧
      (∀ id, id ≠ instanceId → result.2.m_instanceSaveById.find? id =
        mgr.m_instanceSaveById.find? id) ∧
      ∀ save, result.1 = some save → ∃ object, result.2.saves.find? save = some object :=
    ⟨_, rfl, hcons, fun _ _ => rfl, nofun⟩
  unfold AddInstanceSave GetInstanceSave
  rw [hfree, if_neg (by decide)]
  split
  · exact hsame
  rename_i entry _
  generalize (if entry.IsRaid = true then MAX_RAID_DIFFICULTY
    else MAX_DUNGEON_DIFFICULTY) = limit
  split
  · exact hsame
  split
  · exact hsame
  have hadd : ∀ resetTime extendedResetTime, Consistent { mgr with
      m_instanceSaveById := mgr.m_instanceSaveById.insert instanceId mgr.nextSave
      saves := mgr.saves.insert mgr.nextSave
        (.new world mapId instanceId difficulty resetTime extendedResetTime)
      nextSave := mgr.nextSave + 1 } := fun resetTime extendedResetTime =>
    @Consistent.add mgr _
      (.new world mapId instanceId difficulty resetTime extendedResetTime)
      hcons hfree rfl ⟨rfl, rfl, rfl, rfl⟩
  refine ⟨_, rfl, ?_, fun id hne => ?_, fun save hsave => ?_⟩
  · split
    · exact hadd _ _
    · exact hadd _ _
  · rw [find?_insert, if_neg (Ne.symm hne)]
  · cases hsave
    exact ⟨_, find?_insert_self _ _ _⟩

theorem Consistent.AddInstanceSave {mapId instanceId difficulty : ℕ}
    {result : Option ℕ × InstanceSaveMgr} (hcons : Consistent mgr)
    (hadd : mgr.AddInstanceSave world now mapId instanceId difficulty = .ok result) :
    Consistent result.2 := by
  have hfree : mgr.m_instanceSaveById.find? instanceId = none := by
    rcases hfind : mgr.m_instanceSaveById.find? instanceId with _ | save
    · rfl
    unfold InstanceSaveMgr.AddInstanceSave GetInstanceSave at hadd
    rw [hfind] at hadd
    cases hadd
  obtain ⟨added, hadded, hafter, -⟩ := AddInstanceSave_spec hcons hfree
  rw [hadd] at hadded
  cases hadded
  exact hafter

theorem loadInstanceSave_time (hcons : Consistent mgr)
    (hsave : mgr.saves.find? save = some object) :
    ∃ after, (mgr.deref save >>= fun object => Except.ok (if row.resettime > 0 then
        mgr.setSave save { object with m_resetTime := row.resettime } else mgr)) =
      (.ok after : Except Failure InstanceSaveMgr) ∧ Consistent after ∧
      after.m_instanceSaveById = mgr.m_instanceSaveById := by
  rw [deref_of_find? hsave, ok_bind]
  split
  · exact ⟨_, rfl, hcons.setSave hsave rfl rfl rfl rfl, rfl⟩
  · exact ⟨_, rfl, hcons, rfl⟩

theorem loadInstanceSave_spec (hcons : Consistent mgr)
    (hfree : mgr.m_instanceSaveById.find? row.id = none) :
    ∃ after, loadInstanceSave world now mgr row = .ok after ∧ Consistent after ∧
      ∀ id, id ≠ row.id → after.m_instanceSaveById.find? id = mgr.m_instanceSaveById.find? id := by
  obtain ⟨⟨save, added⟩, hadd, hadded, hothers, hsave⟩ :=
    @AddInstanceSave_spec world mgr now row.map row.id row.difficulty hcons hfree
  unfold loadInstanceSave
  rw [hadd, ok_bind]
  rcases save with _ | save
  · exact ⟨added, rfl, hadded, hothers⟩
  obtain ⟨object, hobject⟩ := hsave save rfl
  obtain ⟨after, hafter, hcons, hregistry⟩ := loadInstanceSave_time hadded hobject
  refine ⟨after, hafter, hcons, fun id hne => ?_⟩
  rw [hregistry]
  exact hothers id hne

theorem Consistent.loadInstanceSave (hcons : Consistent mgr)
    (hload : loadInstanceSave world now mgr row = .ok after) : Consistent after := by
  obtain ⟨added, hadd, -⟩ := exists_of_bind_ok hload
  cases hfind : mgr.m_instanceSaveById.find? row.id with
  | none =>
    obtain ⟨result, hresult, hafter, -⟩ := @loadInstanceSave_spec world mgr now row hcons hfind
    rw [hload] at hresult
    cases hresult
    exact hafter
  | some save =>
    unfold InstanceSaveMgr.AddInstanceSave GetInstanceSave at hadd
    rw [hfind] at hadd
    cases hadd

theorem LoadInstanceSaves_spec {rows : List InstanceRow} (hcons : Consistent mgr)
    (hids : (rows.map InstanceRow.id).Nodup)
    (hfree : ∀ row ∈ rows, mgr.m_instanceSaveById.find? row.id = none) (now : ℤ) :
    ∃ after, mgr.LoadInstanceSaves world now rows = .ok after := by
  obtain ⟨after, hafter, -⟩ := @foldlM_total _ _ _ (loadInstanceSave world now)
    (fun rest state => Consistent state ∧ (rest.map InstanceRow.id).Nodup ∧
      ∀ row ∈ rest, state.m_instanceSaveById.find? row.id = none)
    (fun row rest state h => by
      obtain ⟨hstate, hrest, hunused⟩ := h
      rw [map_cons, nodup_cons] at hrest
      obtain ⟨next, hnext, hcons, hothers⟩ :=
        loadInstanceSave_spec hstate (hunused row mem_cons_self)
      refine ⟨next, hnext, hcons, hrest.2, fun other hother => ?_⟩
      rw [hothers other.id]
      · exact hunused other (mem_cons_of_mem _ hother)
      · intro heq
        exact hrest.1 (heq ▸ List.mem_map_of_mem hother))
    rows mgr ⟨hcons, hids, hfree⟩
  exact ⟨after, hafter⟩

theorem Consistent.setLock (hcons : Consistent mgr) (lock : Bool) :
    Consistent { mgr with lock_instLists := lock } :=
  hcons.congr ⟨rfl, rfl, rfl⟩ fun _ _ _ => rfl

theorem _ResetSave_spec {InstanceId : ℕ} (hcons : Consistent mgr)
    (hreg : mgr.m_instanceSaveById.find? InstanceId = some save) :
    ∃ after object, mgr._ResetSave InstanceId save = .ok after ∧ Consistent after ∧
      (∀ id, id ≠ InstanceId → after.m_instanceSaveById.find? id =
        mgr.m_instanceSaveById.find? id) ∧ mgr.saves.find? save = some object ∧
      SameElsewhere object.m_difficulty object.m_mapid mgr after := by
  obtain ⟨object, hsave, hid⟩ := hcons.registered InstanceId save hreg
  have hlocked := hcons.setLock true
  obtain ⟨unbound, hfold, hunbound, hkeeps, hsame⟩ := unbindAll_spec (fun mgr guid w hmgr hw =>
    PlayerUnbindInstanceNotExtended_spec hmgr hw object.m_mapid object.m_difficulty)
    hlocked (hlocked.players hsave)
  have hregistry : unbound.m_instanceSaveById = mgr.m_instanceSaveById := hkeeps.registry rfl
  -- the lists are locked, so the save is still alive
  obtain ⟨kept, hkept, hkeptid, hkeptd, hkeptm⟩ := hkeeps.saves rfl save object hsave
  have helsewhere : ∀ {after : InstanceSaveMgr},
      (∀ other, save ≠ other → after.saves.find? other = unbound.saves.find? other) →
      after.playerBindStorage = unbound.playerBindStorage →
      SameElsewhere object.m_difficulty object.m_mapid mgr after :=
    fun hsaves hstorage => SameElsewhere.trans ⟨hsame.saves, hsame.binds⟩
      (.of_save hkept hkeptd hkeptm hsaves hstorage)
  unfold _ResetSave
  rw [deref_of_find? hsave, ok_bind, hfold, ok_bind, deref_of_find? hkept, ok_bind]
  split
  case isTrue hempty =>
    rw [destroy_eq hkept hempty, ok_bind]
    refine ⟨_, object, rfl, hunbound.destroyed hkept hempty ⟨?_, rfl, rfl, rfl⟩,
      fun id hne => ?_, hsave, helsewhere (fun other hne => ?_) rfl⟩
    · rw [hkeptid, hid]
    · rw [find?_erase, if_neg (Ne.symm hne), hregistry]
    · rw [find?_erase, if_neg hne]
  case isFalse =>
    refine ⟨_, object, rfl, ?_, fun id _ => ?_, hsave,
      helsewhere (fun other hne => (find?_insert _ _ _ _).trans (if_neg hne)) rfl⟩
    · have hset := @Consistent.setSave unbound save kept { kept with
          m_resetTime := unbound.GetResetTimeFor kept.m_mapid kept.m_difficulty
          m_extendedResetTime := unbound.GetExtendedResetTimeFor kept.m_mapid kept.m_difficulty }
        hunbound hkept rfl rfl rfl rfl
      exact hset.setLock false
    · exact congrArg (fun registry => StdMap.find? registry id) hregistry

theorem resetSave_spec {mapid difficulty : ℕ} {entry : ℕ × ℕ} (hcons : Consistent mgr)
    (hreg : mgr.m_instanceSaveById.find? entry.1 = some entry.2) :
    ∃ after, resetSave mapid difficulty mgr entry = .ok after ∧ Consistent after ∧
      (∀ id, id ≠ entry.1 → after.m_instanceSaveById.find? id =
        mgr.m_instanceSaveById.find? id) ∧ SameElsewhere difficulty mapid mgr after := by
  obtain ⟨object, hsave, -⟩ := hcons.registered entry.1 entry.2 hreg
  unfold resetSave
  rw [deref_of_find? hsave, ok_bind]
  split
  case isFalse => exact ⟨mgr, rfl, hcons, fun _ _ => rfl, .refl mgr⟩
  rename_i hplace
  obtain ⟨after, found, hafter, hreset, hothers, hfound, hsame⟩ := _ResetSave_spec hcons hreg
  rw [hsave, Option.some.injEq] at hfound
  rw [← hfound, hplace.1, hplace.2] at hsame
  exact ⟨after, hafter, hreset, hothers, hsame⟩

theorem resetSaves_spec (hcons : Consistent mgr) (mapid difficulty : ℕ) :
    ∃ after, (world.saveOrder mgr.m_instanceSaveById).foldlM (resetSave mapid difficulty) mgr =
      .ok after ∧ Consistent after ∧ SameElsewhere difficulty mapid mgr after := by
  have horder := world.saveOrder_perm mgr.m_instanceSaveById
  have hids : ((world.saveOrder mgr.m_instanceSaveById).map Prod.fst).Nodup :=
    (horder.map Prod.fst).nodup_iff.mpr mgr.m_instanceSaveById.keys_nodup
  obtain ⟨after, hafter, hreset, hsame, -⟩ := @foldlM_total _ _ _ (resetSave mapid difficulty)
    (fun rest state => Consistent state ∧ SameElsewhere difficulty mapid mgr state ∧
      (rest.map Prod.fst).Nodup ∧
      ∀ entry ∈ rest, state.m_instanceSaveById.find? entry.1 = some entry.2)
    (fun entry rest state h => by
      obtain ⟨hstate, hsame, hrest, hreg⟩ := h
      rw [map_cons, nodup_cons] at hrest
      obtain ⟨next, hnext, hcons, hothers, helsewhere⟩ :=
        resetSave_spec hstate (hreg entry mem_cons_self)
      refine ⟨next, hnext, hcons, hsame.trans helsewhere, hrest.2, fun other hother => ?_⟩
      rw [hothers other.1]
      · exact hreg other (mem_cons_of_mem _ hother)
      · intro heq
        exact hrest.1 (heq ▸ List.mem_map_of_mem hother))
    (world.saveOrder mgr.m_instanceSaveById) mgr
    ⟨hcons, .refl mgr, hids, fun entry hentry =>
      find?_eq_some_iff.mpr (horder.mem_iff.mp hentry)⟩
  exact ⟨after, hafter, hreset, hsame⟩

theorem _ResetOrWarnAll_spec {mapid difficulty : ℕ} (hcons : Consistent mgr)
    (hmap : (world.sMapStore mapid).isSome) (warn : Bool) (resetTime : ℤ) :
    ∃ after, mgr._ResetOrWarnAll world mapid difficulty warn resetTime = .ok after ∧
      Consistent after ∧ SameElsewhere difficulty mapid mgr after ∧ (warn = true → after = mgr) := by
  have hnothing : ∃ after, (.ok mgr : Except Failure InstanceSaveMgr) = .ok after ∧
      Consistent after ∧ SameElsewhere difficulty mapid mgr after ∧
      (warn = true → after = mgr) := ⟨mgr, rfl, hcons, .refl mgr, fun _ => rfl⟩
  obtain ⟨mapEntry, hentry⟩ := isSome_iff_exists.mp hmap
  unfold _ResetOrWarnAll
  rw [hentry]
  dsimp only
  split
  · exact hnothing
  split
  · exact hnothing
  rename_i hwarn
  split
  · exact hnothing
  rename_i mapDiff _
  split
  · exact hnothing
  have hset : Consistent (mgr.setNextReset world mapid difficulty mapDiff resetTime) :=
    hcons.congr ⟨rfl, rfl, rfl⟩ fun _ _ _ => rfl
  obtain ⟨after, hafter, hreset, hsame⟩ := @resetSaves_spec world _ hset mapid difficulty
  exact ⟨after, hafter, hreset, ⟨hsame.saves, hsame.binds⟩, fun h => absurd h hwarn⟩

theorem unloadMap_spec (hcons : Consistent mgr) (mapid instanceId : ℕ) :
    ∃ after, mgr.unloadMap mapid instanceId = .ok after ∧ Consistent after := by
  unfold unloadMap GetInstanceSave
  rcases hfind : mgr.m_instanceSaveById.find? instanceId with _ | save
  · exact ⟨_, rfl, hcons.congr ⟨rfl, rfl, rfl⟩ fun _ _ _ => rfl⟩
  obtain ⟨object, hsave, hid⟩ := hcons.registered instanceId save hfind
  rcases hunneeded : mgr.unneeded true object with _ | _
  · rw [DeleteInstanceSaveIfNeeded_of_needed hsave hunneeded]
    exact ⟨_, rfl, hcons.congr ⟨rfl, rfl, rfl⟩ fun _ _ _ => rfl⟩
  rw [DeleteInstanceSaveIfNeeded_destroys hsave (hid ▸ hfind) hunneeded]
  have hdropped := hcons.dropSave hsave (playerList_of_unneeded hunneeded)
  exact ⟨_, rfl, hdropped.congr ⟨rfl, rfl, rfl⟩ fun _ _ _ => rfl⟩

theorem Consistent.HandleSetSavedInstanceExtend (hcons : Consistent mgr)
    (guid mapId difficulty : ℕ) (toggleExtendOn : Bool) :
    Consistent (mgr.HandleSetSavedInstanceExtend world guid mapId difficulty
      toggleExtendOn) := by
  unfold InstanceSaveMgr.HandleSetSavedInstanceExtend
  split
  · exact hcons
  split
  · exact hcons
  split
  case h_2 => exact hcons
  rename_i difficulty_fixed w _ hw
  split
  case h_2 => exact hcons
  rename_i bind hbind
  split
  · exact hcons
  · exact hcons.setFlags hw hbind rfl

inductive InstanceOp
  | LoadInstanceSaves (now : ℤ) (rows : List InstanceRow)
  | LoadCharacterBinds (rows : List CharacterInstanceRow)
  | AddInstanceSave (now : ℤ) (mapId instanceId difficulty : ℕ)
  | PlayerCreateBoundInstancesMaps (guid : ℕ)
  | PlayerBindToInstance (guid save : ℕ) (permanent : Bool)
  | PlayerUnbindInstance (guid mapid difficulty : ℕ)
  | UnbindAllFor (save : ℕ)
  | CopyBinds (source target : ℕ)
  | HandleSetSavedInstanceExtend (guid mapId difficulty : ℕ) (toggleExtendOn : Bool)
  | _ResetOrWarnAll (mapid difficulty : ℕ) (warn : Bool) (resetTime : ℤ)
  | loadMap (mapid instanceId : ℕ)
  | unloadMap (mapid instanceId : ℕ)

def run (world : InstanceWorld) (mgr : InstanceSaveMgr) :
    InstanceOp → Except Failure InstanceSaveMgr
  | .LoadInstanceSaves now rows => mgr.LoadInstanceSaves world now rows
  | .LoadCharacterBinds rows => mgr.LoadCharacterBinds rows
  | .AddInstanceSave now mapId instanceId difficulty => do
      let result ← mgr.AddInstanceSave world now mapId instanceId difficulty
      .ok result.2
  | .PlayerCreateBoundInstancesMaps guid => .ok (mgr.PlayerCreateBoundInstancesMaps guid)
  | .PlayerBindToInstance guid save permanent => mgr.PlayerBindToInstance guid save permanent
  | .PlayerUnbindInstance guid mapid difficulty => mgr.PlayerUnbindInstance guid mapid difficulty
  | .UnbindAllFor save => mgr.UnbindAllFor save
  | .CopyBinds source target => mgr.CopyBinds world source target
  | .HandleSetSavedInstanceExtend guid mapId difficulty toggleExtendOn =>
    .ok (mgr.HandleSetSavedInstanceExtend world guid mapId difficulty toggleExtendOn)
  | ._ResetOrWarnAll mapid difficulty warn resetTime =>
    mgr._ResetOrWarnAll world mapid difficulty warn resetTime
  | .loadMap mapid instanceId => .ok (mgr.loadMap mapid instanceId)
  | .unloadMap mapid instanceId => mgr.unloadMap mapid instanceId

/-- What the callers provide: new ids, saves that are registered, players with bind maps, no
permanent bind that becomes a temporary one, and maps that exist. -/
def Provided (world : InstanceWorld) (mgr : InstanceSaveMgr) : InstanceOp → Prop
  | .LoadInstanceSaves _ rows => (rows.map InstanceRow.id).Nodup ∧
      ∀ row ∈ rows, mgr.m_instanceSaveById.find? row.id = none
  | .AddInstanceSave _ _ instanceId _ => mgr.m_instanceSaveById.find? instanceId = none
  | .PlayerBindToInstance guid save permanent =>
    ∃ object w, mgr.saves.find? save = some object ∧ mgr.playerBindStorage.find? guid = some w ∧
      ∀ bind, w.find? object.m_difficulty object.m_mapid = some bind → bind.perm = true →
        permanent = true
  | .PlayerUnbindInstance guid _ _ => (mgr.playerBindStorage.find? guid).isSome
  | .UnbindAllFor save => save ∈ mgr.saves
  | .CopyBinds _ target => (mgr.playerBindStorage.find? target).isSome ∧
      FindsPermanent world mgr target
  | ._ResetOrWarnAll mapid _ _ _ => (world.sMapStore mapid).isSome
  | _ => True

/-- A run of the manager from the start of the server. A call that fails ends the run. -/
abbrev InstanceRun (world : InstanceWorld) : InstanceSaveMgr → Prop :=
  Reachable (· = InstanceSaveMgr.new) fun before op after => run world before op = .ok after

theorem Consistent.run {op : InstanceOp} (hcons : Consistent mgr)
    (hrun : mgr.run world op = .ok after) : Consistent after := by
  have hresult : ∀ {result : Except Failure InstanceSaveMgr}, result = .ok after →
      (∃ next, result = .ok next ∧ Consistent next) → Consistent after := by
    rintro result hafter ⟨next, hnext, hcons⟩
    rw [hafter] at hnext
    cases hnext
    exact hcons
  cases op with
  | LoadInstanceSaves now rows =>
    refine @foldlM_invariant _ _ _ _ (fun _ => Consistent) ?_ _ [] _ _ hcons hrun
    exact fun _ _ _ _ hstate hround => hstate.loadInstanceSave hround
  | LoadCharacterBinds rows =>
    obtain ⟨next, hnext, hloaded, -⟩ := LoadCharacterBinds_spec hcons rows
    exact hresult hrun ⟨next, hnext, hloaded⟩
  | AddInstanceSave now mapId instanceId difficulty =>
    obtain ⟨result, hadd, hafter⟩ := exists_of_bind_ok hrun
    cases hafter
    exact hcons.AddInstanceSave hadd
  | PlayerCreateBoundInstancesMaps guid =>
    cases hrun
    exact (PlayerCreateBoundInstancesMaps_spec hcons guid).1
  | PlayerBindToInstance guid save permanent => exact hcons.PlayerBindToInstance hrun
  | PlayerUnbindInstance guid mapid difficulty =>
    obtain ⟨w, hw, -⟩ := exists_of_bind_ok hrun
    obtain ⟨next, hnext, hunbound, -⟩ := PlayerUnbindInstance_spec hcons
      (find?_of_boundMaps hw) mapid difficulty
    exact hresult hrun ⟨next, hnext, hunbound⟩
  | UnbindAllFor save =>
    obtain ⟨object, hobject, -⟩ := exists_of_bind_ok hrun
    obtain ⟨next, hnext, hunbound, -⟩ := UnbindAllFor_spec hcons (find?_of_deref hobject)
    exact hresult hrun ⟨next, hnext, hunbound⟩
  | CopyBinds source target => exact hcons.CopyBinds hrun
  | HandleSetSavedInstanceExtend guid mapId difficulty toggleExtendOn =>
    cases hrun
    exact hcons.HandleSetSavedInstanceExtend guid mapId difficulty toggleExtendOn
  | _ResetOrWarnAll mapid difficulty warn resetTime =>
    have hmap : (world.sMapStore mapid).isSome := by
      cases hentry : world.sMapStore mapid with
      | some mapEntry => rfl
      | none =>
        unfold InstanceSaveMgr.run InstanceSaveMgr._ResetOrWarnAll at hrun
        dsimp only at hrun
        rw [hentry] at hrun
        cases hrun
    obtain ⟨next, hnext, hreset, -⟩ := @_ResetOrWarnAll_spec world mgr mapid difficulty
      hcons hmap warn resetTime
    exact hresult hrun ⟨next, hnext, hreset⟩
  | loadMap mapid instanceId =>
    cases hrun
    exact hcons.congr ⟨rfl, rfl, rfl⟩ fun _ _ _ => rfl
  | unloadMap mapid instanceId => exact hresult hrun (unloadMap_spec hcons mapid instanceId)

theorem InstanceRun.consistent (hrun : InstanceRun world mgr) : Consistent mgr := by
  refine hrun.invariant Consistent ?_ fun _ _ _ hbefore hstep => hbefore.run hstep
  rintro _ rfl
  exact .new

theorem Consistent.exists_run {op : InstanceOp} (hcons : Consistent mgr)
    (hprovided : Provided world mgr op) : ∃ after, mgr.run world op = .ok after := by
  cases op with
  | LoadInstanceSaves now rows =>
    exact LoadInstanceSaves_spec hcons hprovided.1 hprovided.2 now
  | LoadCharacterBinds rows =>
    obtain ⟨after, hafter, -⟩ := LoadCharacterBinds_spec hcons rows
    exact ⟨after, hafter⟩
  | AddInstanceSave now mapId instanceId difficulty =>
    obtain ⟨result, hadd, -⟩ :=
      @AddInstanceSave_spec world mgr now mapId instanceId difficulty hcons hprovided
    refine ⟨result.2, ?_⟩
    unfold InstanceSaveMgr.run
    dsimp only
    rw [hadd, ok_bind]
  | PlayerBindToInstance guid save permanent =>
    obtain ⟨object, w, hsave, hw, hperm⟩ := hprovided
    obtain ⟨after, -, hafter, -⟩ := PlayerBindToInstance_spec hcons hw hsave hperm
    exact ⟨after, hafter⟩
  | PlayerUnbindInstance guid mapid difficulty =>
    obtain ⟨w, hw⟩ := isSome_iff_exists.mp hprovided
    obtain ⟨after, hafter, -⟩ := PlayerUnbindInstance_spec hcons hw mapid difficulty
    exact ⟨after, hafter⟩
  | UnbindAllFor save =>
    obtain ⟨object, hsave⟩ := mem_iff_find?.mp hprovided
    obtain ⟨after, hafter, -⟩ := UnbindAllFor_spec hcons hsave
    exact ⟨after, hafter⟩
  | CopyBinds source target =>
    obtain ⟨after, hafter, -⟩ := @CopyBinds_spec world mgr source target hcons
      hprovided.1 hprovided.2
    exact ⟨after, hafter⟩
  | _ResetOrWarnAll mapid difficulty warn resetTime =>
    obtain ⟨after, hafter, -⟩ := @_ResetOrWarnAll_spec world mgr mapid difficulty hcons
      hprovided warn resetTime
    exact ⟨after, hafter⟩
  | unloadMap mapid instanceId =>
    obtain ⟨after, hafter, -⟩ := unloadMap_spec hcons mapid instanceId
    exact ⟨after, hafter⟩
  | PlayerCreateBoundInstancesMaps | HandleSetSavedInstanceExtend | loadMap => exact ⟨_, rfl⟩

section

variable (hcons : Consistent mgr)
include hcons

theorem PlayerBindToInstance_ne_error :
    mgr.PlayerBindToInstance guid save permanent ≠ .error .boundPlayers := by
  unfold PlayerBindToInstance deref boundMaps
  rcases hsave : mgr.saves.find? save with _ | object
  · exact nofun
  rcases hw : mgr.playerBindStorage.find? guid with _ | w
  · exact nofun
  by_cases hperm : ∀ bind, w.find? object.m_difficulty object.m_mapid = some bind →
      bind.perm = true → permanent = true
  · obtain ⟨after, extended, hafter, -⟩ := PlayerBindToInstance_spec hcons hw hsave hperm
    unfold PlayerBindToInstance deref boundMaps at hafter
    rw [hsave, hw] at hafter
    rw [hafter]
    exact nofun
  · push Not at hperm
    obtain ⟨bind, hbind, hp, hpermanent⟩ := hperm
    rw [Ne, not_eq_true] at hpermanent
    rw [ok_bind, ok_bind, hbind]
    dsimp only
    rw [any_some, hp, hpermanent]
    exact nofun

theorem loadInstanceSave_ne_error : loadInstanceSave world now mgr row ≠ .error .boundPlayers := by
  cases hfind : mgr.m_instanceSaveById.find? row.id with
  | none =>
    obtain ⟨after, hafter, -⟩ := @loadInstanceSave_spec world mgr now row hcons hfind
    rw [hafter]
    exact nofun
  | some save =>
    unfold loadInstanceSave AddInstanceSave GetInstanceSave
    rw [hfind]
    exact nofun

theorem CopyBinds_ne_error : mgr.CopyBinds world source target ≠ .error .boundPlayers := by
  unfold InstanceSaveMgr.CopyBinds
  split
  · exact nofun
  rename_i hne
  have hround : ∀ d entry state, Consistent state →
      copyBind world target d state entry ≠ .error .boundPlayers ∧
      ∀ next, copyBind world target d state entry = .ok next → Consistent next := by
    intro d entry state hstate
    unfold copyBind
    split
    case isFalse =>
      exact ⟨PlayerBindToInstance_ne_error hstate, fun _ => hstate.PlayerBindToInstance⟩
    refine ⟨nofun, fun next hnext => ?_⟩
    cases hnext
    exact hstate
  refine foldlM_ne_error_of_invariant Consistent (fun d state hstate => ⟨?_, ?_⟩) hcons
  · exact foldlM_ne_error_of_invariant Consistent (hround d) hstate
  · intro next hnext
    refine @foldlM_invariant _ _ _ _ (fun _ => Consistent) ?_ _ [] _ _ hstate hnext
    exact fun _ state entry next hbefore => (hround d entry state hbefore).2 next

theorem Consistent.run_ne_error (op : InstanceOp) : mgr.run world op ≠ .error .boundPlayers := by
  have hended : Provided world mgr op → mgr.run world op ≠ .error .boundPlayers := by
    intro hprovided
    obtain ⟨after, hafter⟩ := hcons.exists_run hprovided
    rw [hafter]
    exact nofun
  cases op with
  | LoadInstanceSaves now rows =>
    refine foldlM_ne_error_of_invariant Consistent (fun row state hstate => ?_) hcons
    exact ⟨loadInstanceSave_ne_error hstate, fun _ => hstate.loadInstanceSave⟩
  | AddInstanceSave now mapId instanceId difficulty =>
    rcases hfind : mgr.m_instanceSaveById.find? instanceId with _ | save
    · exact hended hfind
    unfold InstanceSaveMgr.run
    dsimp only
    unfold InstanceSaveMgr.AddInstanceSave GetInstanceSave
    rw [hfind]
    exact nofun
  | PlayerBindToInstance guid save permanent => exact PlayerBindToInstance_ne_error hcons
  | PlayerUnbindInstance guid mapid difficulty =>
    cases hw : mgr.playerBindStorage.find? guid with
    | some w => exact hended (by rw [Provided, hw]; rfl)
    | none =>
      unfold InstanceSaveMgr.run
      dsimp only
      unfold InstanceSaveMgr.PlayerUnbindInstance boundMaps
      rw [hw]
      exact nofun
  | UnbindAllFor save =>
    cases hsave : mgr.saves.find? save with
    | some object => exact hended (mem_of_find? hsave)
    | none =>
      unfold InstanceSaveMgr.run
      dsimp only
      unfold InstanceSaveMgr.UnbindAllFor deref
      rw [hsave]
      exact nofun
  | CopyBinds source target => exact CopyBinds_ne_error hcons
  | _ResetOrWarnAll mapid difficulty warn resetTime =>
    cases hmap : world.sMapStore mapid with
    | some mapEntry => exact hended (by rw [Provided, hmap]; rfl)
    | none =>
      unfold InstanceSaveMgr.run
      dsimp only
      unfold InstanceSaveMgr._ResetOrWarnAll
      rw [hmap]
      exact nofun
  | LoadCharacterBinds | PlayerCreateBoundInstancesMaps | HandleSetSavedInstanceExtend
  | loadMap | unloadMap => exact hended trivial

end

/-- In every run, a player is listed once by the save that the bind at its place points to and
not at all by other saves, bound saves are registered, no save is destroyed while players are
bound to it, and a call with proper arguments comes to an end. -/
theorem players_are_listed_once (hrun : InstanceRun world mgr) :
    (∀ save object, mgr.saves.find? save = some object → ∀ guid, object.m_playerList.count guid =
        if mgr.boundSave guid object.m_difficulty object.m_mapid = some save then 1 else 0) ∧
    (∀ guid difficulty mapid save, mgr.boundSave guid difficulty mapid = some save →
      ∃ object, mgr.saves.find? save = some object ∧
        mgr.m_instanceSaveById.find? object.m_instanceid = some save ∧
        object.m_difficulty = difficulty ∧ object.m_mapid = mapid) ∧
    ∀ op, mgr.run world op ≠ .error .boundPlayers ∧
      (Provided world mgr op → ∃ after, mgr.run world op = .ok after) := by
  have hconsistent := hrun.consistent
  refine ⟨fun save object hsave guid => ?_, fun guid difficulty mapid save hbound => ?_,
    fun op => ⟨hconsistent.run_ne_error op, hconsistent.exists_run⟩⟩
  · rw [(hconsistent.distinct save object hsave).count]
    exact if_congr (hconsistent.listed save object hsave guid) rfl rfl
  · obtain ⟨object, hsave, hplace⟩ := hconsistent.bound guid difficulty mapid save hbound
    exact ⟨object, hsave, (hconsistent.alive save object hsave).1, hplace⟩

/-! ## A player who moves to another save -/

theorem entries_perm {V : Type*} (map : StdMap ℕ V) : map.entries.Perm map.entries := .refl _

def dungeonWorld : InstanceWorld where
  sMapStore mapid := if mapid = 389 then some ⟨.MAP_INSTANCE⟩ else none
  sMapDifficultyMap := .empty
  keys_lt _ hkey := absurd hkey (not_mem_empty _)
  CONFIG_INSTANCE_SHARED_ID := false
  CONFIG_INSTANCE_RESET_TIME_HOUR := 4
  scaledResetTime resetTime := resetTime
  difficultyOrder := []
  difficultyOrder_perm := .refl _
  saveOrder saves := saves.entries
  saveOrder_perm := entries_perm
  bindOrder binds := binds.entries
  bindOrder_perm := entries_perm

def secondSave : InstanceSave := ⟨[7], 259200, 0, 2, 389, 0, true⟩

def moves : List InstanceOp :=
  [.AddInstanceSave 0 389 1 0, .AddInstanceSave 0 389 2 0, .PlayerCreateBoundInstancesMaps 7,
    .PlayerBindToInstance 7 0 false, .PlayerBindToInstance 7 1 false]

theorem InstanceRun.foldlM {ops : List InstanceOp} (hbefore : InstanceRun world before)
    (hrun : ops.foldlM (run world) before = .ok after) : InstanceRun world after := by
  induction ops generalizing before with
  | nil =>
    cases hrun
    exact hbefore
  | cons op ops ih =>
    obtain ⟨next, hnext, hrest⟩ := foldlM_cons_ok hrun
    exact ih (hbefore.step hnext) hrest

theorem moves_end : ∃ mgr, moves.foldlM (run dungeonWorld) InstanceSaveMgr.new = .ok mgr ∧
    mgr.saves.find? 1 = some secondSave ∧ mgr.saves.find? 0 = none ∧
    mgr.boundSave 7 0 389 = some 1 :=
  ⟨_, rfl, rfl, rfl, rfl⟩

/-- The second save lists the player once; the first one was destroyed. -/
theorem moved_player_is_listed : ∃ mgr, InstanceRun dungeonWorld mgr ∧
    mgr.saves.find? 1 = some secondSave ∧ mgr.saves.find? 0 = none ∧
    secondSave.m_playerList.count 7 = 1 := by
  obtain ⟨mgr, hrun, hsecond, hfirst, hbound⟩ := moves_end
  have hreach : InstanceRun dungeonWorld mgr := InstanceRun.foldlM (.start rfl) hrun
  refine ⟨mgr, hreach, hsecond, hfirst, ?_⟩
  exact ((players_are_listed_once hreach).1 1 secondSave hsecond 7).trans (if_pos hbound)

end InstanceSaveMgr

end AzerothCore.Instances
