import AzerothCore.Instances.InstanceRuns

/-!
# Global reset times

`LoadResetTimes` reads the announced reset times, sets the missing ones and queues one event for
each difficulty of a map that has a reset period; `Update` handles the events that are due. The
time of an event that warns is that of the next reset less a delay. The head of the queue is
changed in place before its successor is inserted and `begin()` is erased.
-/

namespace AzerothCore.Instances

/-- `InstanceSaveMgr::ResetTimeDelay`. -/
def ResetTimeDelay : ℕ → ℤ
  | 0 => 3600
  | 1 => 900
  | 2 => 300
  | 3 => 60
  | _ => 0

/-- A row of `instance_reset`. -/
structure InstanceResetRow where
  mapid : UInt16
  difficulty : UInt8
  resettime : UInt32

namespace InstanceSaveMgr

variable (mgr : InstanceSaveMgr)

/-- A round of the first loop of `LoadResetTimes`. -/
def loadResetTime (world : InstanceWorld) (mgr : InstanceSaveMgr) (row : InstanceResetRow) :
    InstanceSaveMgr :=
  match world.GetMapDifficultyData row.mapid.toNat row.difficulty.toNat with
  | none => mgr
  | some _ => mgr.SetResetTimeFor row.mapid.toNat row.difficulty.toNat row.resettime.toNat

/-- The midnight before `now`. -/
def today (now : ℕ) : ℤ := (now : ℤ).tdiv DAY * DAY

def unexpiredTime (world : InstanceWorld) (now : ℕ) (mapDiff : MapDifficulty) (t : ℤ) : ℤ :=
  let t := (t * DAY).tdiv DAY
  t + (((today now - t).tdiv (world.period mapDiff) + 1) * world.period mapDiff + world.diff)

/-- The type of the first event: a warning that is still ahead, or the reset. -/
def firstType (now : ℕ) (t : ℤ) : ℕ :=
  ([1, 2, 3, 4].find? fun type => now + ResetTimeDelay (type - 1) < t).getD 5

/-- A round of the second loop of `LoadResetTimes`. -/
def scheduleReset (world : InstanceWorld) (now : ℕ) (mgr : InstanceSaveMgr)
    (entry : ℕ × MapDifficulty) : InstanceSaveMgr :=
  let mapid := PAIR32_LOPART entry.1
  let difficulty := uint8 (PAIR32_HIPART entry.1)
  if entry.2.resetTime = 0 then mgr
  else
    let stored := mgr.GetResetTimeFor mapid difficulty
    let initial := today now + world.period entry.2 + world.diff
    let mgr := if stored = 0 then mgr.SetResetTimeFor mapid difficulty initial else mgr
    let t := if stored = 0 then initial else stored
    let t := if t < now then unexpiredTime world now entry.2 t else t
    let type := firstType now t
    (mgr.SetExtendedResetTimeFor mapid difficulty t).ScheduleReset
      (t - ResetTimeDelay (type - 1)) ⟨type, mapid, difficulty⟩

def LoadResetTimes (world : InstanceWorld) (now : ℕ) (rows : List InstanceResetRow) :
    InstanceSaveMgr :=
  world.difficultyOrder.foldl (scheduleReset world now) (rows.foldl (loadResetTime world) mgr)

/-- The next warning or the reset is scheduled. `begin()` is still the entry of the event when
its type changes. -/
def scheduleNext (resetTime : ℤ) (event : InstResetEvent) : InstanceSaveMgr :=
  let event := { event with type := event.type + 1 }
  ScheduleReset { mgr with m_resetTimeQueue := mgr.m_resetTimeQueue.setFront event }
    (resetTime - ResetTimeDelay (event.type - 1)) event

def handleEvent (world : InstanceWorld) (event : InstResetEvent) : Except Failure InstanceSaveMgr :=
  if event.type = 0 then .ok mgr
  else do
    let resetTime := mgr.GetResetTimeFor event.mapid event.difficulty
    let mgr ← mgr._ResetOrWarnAll world event.mapid event.difficulty (event.type < 5) resetTime
    .ok (if event.type < 5 then mgr.scheduleNext resetTime event else mgr)

/-- A round of `Update`, or `none` where its loop ends. -/
def updateRound (world : InstanceWorld) (now : ℕ) : Except Failure (Option InstanceSaveMgr) :=
  match mgr.m_resetTimeQueue.entries with
  | [] => .ok none
  | (t, event) :: _ =>
    if t ≥ now then .ok none
    else do
      let mgr ← mgr.handleEvent world event
      .ok (some { mgr with m_resetTimeQueue := mgr.m_resetTimeQueue.popFront })

/-- `Update` with a bound on the rounds, `none` if they do not suffice. -/
def Update (world : InstanceWorld) (now : ℕ) :
    ℕ → InstanceSaveMgr → Except Failure (Option InstanceSaveMgr)
  | 0, _ => .ok none
  | rounds + 1, mgr => do
      match ← mgr.updateRound world now with
      | none => .ok (some mgr)
      | some mgr => Update world now rounds mgr

end InstanceSaveMgr

end AzerothCore.Instances

/-! ## The schedule of the resets -/

namespace AzerothCore.Instances

open Folding Reachability

namespace InstanceSaveMgr

variable {world : InstanceWorld} {mgr before after : InstanceSaveMgr} {guid save : ℕ}

/-! ## Calls that change no reset time -/

structure SameTimes (before after : InstanceSaveMgr) : Prop where
  times : after.m_resetTimeByMapDifficulty = before.m_resetTimeByMapDifficulty
  queue : after.m_resetTimeQueue = before.m_resetTimeQueue

theorem SameTimes.refl (mgr : InstanceSaveMgr) : SameTimes mgr mgr := ⟨rfl, rfl⟩

theorem SameTimes.trans {next : InstanceSaveMgr} (hfirst : SameTimes before next)
    (hsecond : SameTimes next after) : SameTimes before after :=
  ⟨hsecond.times.trans hfirst.times, hsecond.queue.trans hfirst.queue⟩

theorem SameTimes.fold {α : Type} {round : InstanceSaveMgr → α → Except Failure InstanceSaveMgr}
    (hround : ∀ before item after, round before item = .ok after → SameTimes before after)
    {list : List α} (hfold : list.foldlM round mgr = .ok after) : SameTimes mgr after :=
  @foldlM_invariant _ _ _ round (fun _ state => SameTimes mgr state)
    (fun _ state item next hstate hnext => hstate.trans (hround state item next hnext))
    list [] mgr after (.refl mgr) hfold

theorem SameTimes.destroy (hdestroy : mgr.destroy save = .ok after) : SameTimes mgr after := by
  obtain ⟨object, -, hdestroy⟩ := exists_of_bind_ok hdestroy
  split at hdestroy
  case isFalse => cases hdestroy
  cases hdestroy
  exact ⟨rfl, rfl⟩

theorem SameTimes.DeleteInstanceSaveIfNeeded {target : Option ℕ} {skipMapCheck deleteSave : Bool}
    {result : Bool × InstanceSaveMgr}
    (hdelete : mgr.DeleteInstanceSaveIfNeeded target skipMapCheck deleteSave = .ok result) :
    SameTimes mgr result.2 := by
  unfold InstanceSaveMgr.DeleteInstanceSaveIfNeeded at hdelete
  split at hdelete
  · cases hdelete
    exact .refl mgr
  obtain ⟨object, -, hdelete⟩ := exists_of_bind_ok hdelete
  split at hdelete
  case isFalse =>
    cases hdelete
    exact .refl mgr
  split at hdelete
  case isFalse => cases hdelete
  split at hdelete
  case isFalse =>
    cases hdelete
    exact ⟨rfl, rfl⟩
  · obtain ⟨destroyed, hdestroy, hdelete⟩ := exists_of_bind_ok hdelete
    cases hdelete
    have hsame := SameTimes.destroy hdestroy
    exact ⟨hsame.times, hsame.queue⟩

theorem SameTimes.AddPlayer (hadd : mgr.AddPlayer save guid = .ok after) : SameTimes mgr after := by
  obtain ⟨object, -, hadd⟩ := exists_of_bind_ok hadd
  cases hadd
  exact ⟨rfl, rfl⟩

theorem SameTimes.RemovePlayer (hremove : mgr.RemovePlayer save guid = .ok after) :
    SameTimes mgr after := by
  obtain ⟨object, -, hremove⟩ := exists_of_bind_ok hremove
  obtain ⟨⟨deleteSave, deleted⟩, hdelete, hremove⟩ := exists_of_bind_ok hremove
  have hsame := SameTimes.DeleteInstanceSaveIfNeeded hdelete
  have hdeleted : SameTimes mgr deleted := ⟨hsame.times, hsame.queue⟩
  dsimp only at hremove
  split at hremove
  · exact hdeleted.trans (.destroy hremove)
  cases hremove
  exact hdeleted

theorem SameTimes.setPermanent {permanent : Bool}
    (hset : mgr.setPermanent save permanent = .ok after) : SameTimes mgr after := by
  unfold InstanceSaveMgr.setPermanent at hset
  split at hset
  · obtain ⟨object, -, hset⟩ := exists_of_bind_ok hset
    cases hset
    exact ⟨rfl, rfl⟩
  · cases hset
    exact .refl mgr

theorem SameTimes.changeSave {bind : Option InstancePlayerBind}
    (hchange : mgr.changeSave guid bind save = .ok after) : SameTimes mgr after := by
  unfold InstanceSaveMgr.changeSave at hchange
  split at hchange
  · exact .AddPlayer hchange
  split at hchange
  · cases hchange
    exact .refl mgr
  · obtain ⟨removed, hremove, hadd⟩ := exists_of_bind_ok hchange
    exact (SameTimes.RemovePlayer hremove).trans (.AddPlayer hadd)

theorem SameTimes.PlayerBindToInstance {permanent : Bool}
    (hbind : mgr.PlayerBindToInstance guid save permanent = .ok after) : SameTimes mgr after := by
  obtain ⟨object, -, hbind⟩ := exists_of_bind_ok hbind
  obtain ⟨w, -, hbind⟩ := exists_of_bind_ok hbind
  dsimp only at hbind
  split at hbind
  · cases hbind
  obtain ⟨changed, hchange, hbind⟩ := exists_of_bind_ok hbind
  obtain ⟨set, hset, hbind⟩ := exists_of_bind_ok hbind
  cases hbind
  have hsame := (SameTimes.changeSave hchange).trans (.setPermanent hset)
  exact ⟨hsame.times, hsame.queue⟩

variable {difficulty mapid : ℕ} {row : CharacterInstanceRow}

theorem SameTimes.PlayerUnbindInstance
    (hunbind : mgr.PlayerUnbindInstance guid mapid difficulty = .ok after) :
    SameTimes mgr after := by
  obtain ⟨w, -, hunbind⟩ := exists_of_bind_ok hunbind
  split at hunbind
  · cases hunbind
    exact .refl mgr
  · have hsame := SameTimes.RemovePlayer hunbind
    exact ⟨hsame.times, hsame.queue⟩

theorem SameTimes.PlayerUnbindInstanceNotExtended
    (hunbind : mgr.PlayerUnbindInstanceNotExtended guid mapid difficulty = .ok after) :
    SameTimes mgr after := by
  obtain ⟨w, -, hunbind⟩ := exists_of_bind_ok hunbind
  split at hunbind
  · cases hunbind
    exact .refl mgr
  · split at hunbind
    · cases hunbind
      exact ⟨rfl, rfl⟩
    · have hsame := SameTimes.RemovePlayer hunbind
      exact ⟨hsame.times, hsame.queue⟩

theorem SameTimes.CopyBinds {source target : ℕ}
    (hcopy : mgr.CopyBinds world source target = .ok after) : SameTimes mgr after := by
  unfold InstanceSaveMgr.CopyBinds at hcopy
  split at hcopy
  · cases hcopy
    exact .refl mgr
  · refine SameTimes.fold (fun before d next hnext => ?_) hcopy
    refine SameTimes.fold (fun before entry next hnext => ?_) hnext
    unfold copyBind at hnext
    split at hnext
    case isFalse => exact .PlayerBindToInstance hnext
    cases hnext
    exact .refl _

theorem SameTimes.AddInstanceSave {now : ℤ} {mapId instanceId : ℕ}
    {result : Option ℕ × InstanceSaveMgr}
    (hadd : mgr.AddInstanceSave world now mapId instanceId difficulty = .ok result) :
    SameTimes mgr result.2 := by
  unfold InstanceSaveMgr.AddInstanceSave at hadd
  split at hadd
  · cases hadd
  split at hadd
  · cases hadd
    exact .refl mgr
  rename_i entry _
  generalize (if entry.IsRaid = true then MAX_RAID_DIFFICULTY
    else MAX_DUNGEON_DIFFICULTY) = limit at hadd
  split at hadd
  · cases hadd
    exact .refl mgr
  · split at hadd
    · cases hadd
      exact .refl mgr
    · cases hadd
      exact ⟨rfl, rfl⟩

theorem SameTimes.loadInstanceSave {now : ℤ} {row : InstanceRow}
    (hload : loadInstanceSave world now mgr row = .ok after) : SameTimes mgr after := by
  obtain ⟨⟨added, state⟩, hadd, hload⟩ := exists_of_bind_ok hload
  have hadded : SameTimes mgr state := SameTimes.AddInstanceSave hadd
  dsimp only at hload
  split at hload
  · cases hload
    exact hadded
  · obtain ⟨object, -, hload⟩ := exists_of_bind_ok hload
    cases hload
    refine hadded.trans ?_
    split
    · exact ⟨rfl, rfl⟩
    · exact .refl _

theorem SameTimes.storeBind {object : InstanceSave} {w : BoundInstancesMapWrapper}
    (hstore : mgr.storeBind row save object w = .ok after) : SameTimes mgr after := by
  obtain ⟨added, hadd, hset⟩ := exists_of_bind_ok hstore
  have hsame := (SameTimes.AddPlayer hadd).trans (.setPermanent hset)
  exact ⟨hsame.times, hsame.queue⟩

theorem SameTimes.PlayerCreateBoundInstancesMaps (mgr : InstanceSaveMgr) (guid : ℕ) :
    SameTimes mgr (mgr.PlayerCreateBoundInstancesMaps guid) := by
  unfold InstanceSaveMgr.PlayerCreateBoundInstancesMaps
  split
  · exact .refl mgr
  · exact ⟨rfl, rfl⟩

theorem SameTimes.loadCharacterBind (hload : loadCharacterBind mgr row = .ok after) :
    SameTimes mgr after := by
  unfold InstanceSaveMgr.loadCharacterBind at hload
  split at hload
  · cases hload
    exact .refl mgr
  rename_i save _
  have hcreated := SameTimes.PlayerCreateBoundInstancesMaps mgr row.guid
  obtain ⟨object, -, hload⟩ := exists_of_bind_ok hload
  obtain ⟨w, -, hload⟩ := exists_of_bind_ok hload
  split at hload
  · exact hcreated.trans (.storeBind hload)
  split at hload
  · cases hload
    exact hcreated
  · obtain ⟨removed, hremove, hstore⟩ := exists_of_bind_ok hload
    exact hcreated.trans ((SameTimes.RemovePlayer hremove).trans (.storeBind hstore))

theorem SameTimes._ResetSave {InstanceId : ℕ}
    (hreset : mgr._ResetSave InstanceId save = .ok after) : SameTimes mgr after := by
  obtain ⟨object, -, hreset⟩ := exists_of_bind_ok hreset
  obtain ⟨unbound, hfold, hreset⟩ := exists_of_bind_ok hreset
  obtain ⟨kept, -, hreset⟩ := exists_of_bind_ok hreset
  have hunbound := SameTimes.fold
    (fun _ _ _ hround => SameTimes.PlayerUnbindInstanceNotExtended hround) hfold
  split at hreset
  · obtain ⟨destroyed, hdestroy, hreset⟩ := exists_of_bind_ok hreset
    cases hreset
    have hsame := hunbound.trans (.destroy hdestroy)
    exact ⟨hsame.times, hsame.queue⟩
  · cases hreset
    exact ⟨hunbound.times, hunbound.queue⟩

theorem SameTimes.resetSave {entry : ℕ × ℕ}
    (hreset : resetSave mapid difficulty mgr entry = .ok after) : SameTimes mgr after := by
  obtain ⟨object, -, hreset⟩ := exists_of_bind_ok hreset
  split at hreset
  · exact ._ResetSave hreset
  cases hreset
  exact .refl mgr

def InstanceOp.isReset : InstanceOp → Bool
  | ._ResetOrWarnAll .. => true
  | _ => false

theorem SameTimes.run {op : InstanceOp} (hop : op.isReset = false)
    (hrun : mgr.run world op = .ok after) : SameTimes mgr after := by
  cases op with
  | LoadInstanceSaves now rows =>
    exact .fold (fun _ _ _ hround => .loadInstanceSave hround) hrun
  | LoadCharacterBinds rows =>
    obtain ⟨loaded, hfold, hrun⟩ := exists_of_bind_ok hrun
    cases hrun
    have hsame := SameTimes.fold (fun _ _ _ hround => .loadCharacterBind hround) hfold
    exact ⟨hsame.times, hsame.queue⟩
  | AddInstanceSave now mapId instanceId difficulty =>
    obtain ⟨result, hadd, hrun⟩ := exists_of_bind_ok hrun
    cases hrun
    exact .AddInstanceSave hadd
  | PlayerCreateBoundInstancesMaps guid =>
    cases hrun
    exact .PlayerCreateBoundInstancesMaps mgr guid
  | PlayerBindToInstance guid save permanent => exact .PlayerBindToInstance hrun
  | PlayerUnbindInstance guid mapid difficulty => exact .PlayerUnbindInstance hrun
  | UnbindAllFor save =>
    obtain ⟨object, -, hfold⟩ := exists_of_bind_ok hrun
    exact .fold (fun _ _ _ hround => .PlayerUnbindInstance hround) hfold
  | CopyBinds source target => exact .CopyBinds hrun
  | HandleSetSavedInstanceExtend guid mapId difficulty toggleExtendOn =>
    cases hrun
    unfold InstanceSaveMgr.HandleSetSavedInstanceExtend
    repeat' split
    all_goals exact ⟨rfl, rfl⟩
  | _ResetOrWarnAll mapid difficulty warn resetTime => cases hop
  | loadMap mapid instanceId =>
    cases hrun
    exact ⟨rfl, rfl⟩
  | unloadMap mapid instanceId =>
    obtain ⟨⟨deleted, state⟩, hdelete, hrun⟩ := exists_of_bind_ok hrun
    cases hrun
    have hsame := SameTimes.DeleteInstanceSaveIfNeeded hdelete
    exact ⟨hsame.times, hsame.queue⟩

/-! ## What a round of `Update` does -/

def Resets (world : InstanceWorld) (mapid difficulty : ℕ) (mapDiff : MapDifficulty) : Prop :=
  (∃ entry, world.sMapStore mapid = some entry ∧ entry.Instanceable = true) ∧
    world.GetMapDifficultyData mapid difficulty = some mapDiff ∧ mapDiff.resetTime ≠ 0

theorem eq_of_warn {resetTime : ℤ}
    (hwarn : mgr._ResetOrWarnAll world mapid difficulty true resetTime = .ok after) :
    after = mgr := by
  unfold _ResetOrWarnAll at hwarn
  split at hwarn
  · cases hwarn
  split at hwarn
  · cases hwarn
    rfl
  · cases hwarn
    rfl

theorem reset_cases {resetTime : ℤ}
    (hreset : mgr._ResetOrWarnAll world mapid difficulty false resetTime = .ok after) :
    (after = mgr ∧ ∀ mapDiff, ¬ Resets world mapid difficulty mapDiff) ∨
      ∃ mapDiff, Resets world mapid difficulty mapDiff ∧
        SameTimes (mgr.setNextReset world mapid difficulty mapDiff resetTime) after := by
  unfold _ResetOrWarnAll at hreset
  split at hreset
  · cases hreset
  rename_i mapEntry hentry
  split at hreset
  case isTrue hnot =>
    cases hreset
    refine .inl ⟨rfl, fun mapDiff hresets => ?_⟩
    obtain ⟨entry, hfound, hinstanceable⟩ := hresets.1
    rw [hentry, Option.some.injEq] at hfound
    rw [hfound, hinstanceable] at hnot
    cases hnot
  case isFalse hinstanceable =>
    rw [if_neg Bool.false_ne_true] at hreset
    rw [Bool.not_eq_true, Bool.not_eq_false'] at hinstanceable
    split at hreset
    case h_1 hnone =>
      cases hreset
      refine .inl ⟨rfl, fun mapDiff hresets => ?_⟩
      exact nomatch hnone.symm.trans hresets.2.1
    rename_i mapDiff hmapDiff
    split at hreset
    case isTrue hzero =>
      cases hreset
      refine .inl ⟨rfl, fun other hresets => hresets.2.2 ?_⟩
      have hother := hresets.2.1
      rw [hmapDiff, Option.some.injEq] at hother
      rw [← hother, hzero]
    case isFalse hne =>
      exact .inr ⟨mapDiff, ⟨⟨mapEntry, hentry, hinstanceable⟩, hmapDiff, hne⟩,
        .fold (fun _ _ _ hround => .resetSave hround) hreset⟩

/-- The entries of the queue and the reset times after a round that handles the first entry. -/
inductive RoundEffect (world : InstanceWorld) (mgr after : InstanceSaveMgr) (t : ℤ)
    (event : InstResetEvent) (rest : List (ℤ × InstResetEvent)) : Prop
  | popped : (event.type = 0 ∨ 5 ≤ event.type ∧
        ∀ mapDiff, ¬ Resets world event.mapid event.difficulty mapDiff) →
      after.m_resetTimeByMapDifficulty = mgr.m_resetTimeByMapDifficulty →
      after.m_resetTimeQueue.entries = rest → RoundEffect world mgr after t event rest
  | warned : 1 ≤ event.type → event.type < 5 →
      after.m_resetTimeByMapDifficulty = mgr.m_resetTimeByMapDifficulty →
      after.m_resetTimeQueue.entries =
        (Multimap.insertList (mgr.GetResetTimeFor event.mapid event.difficulty -
          ResetTimeDelay event.type) { event with type := event.type + 1 }
          ((t, { event with type := event.type + 1 }) :: rest)).tail →
      RoundEffect world mgr after t event rest
  | reset (mapDiff : MapDifficulty) :
      5 ≤ event.type → Resets world event.mapid event.difficulty mapDiff →
      after.m_resetTimeByMapDifficulty = mgr.m_resetTimeByMapDifficulty.insert
        (MAKE_PAIR32 event.mapid event.difficulty)
        (nextReset world mapDiff (mgr.GetResetTimeFor event.mapid event.difficulty)) →
      after.m_resetTimeQueue.entries = (Multimap.insertList (toUint32 ((nextReset world mapDiff
          (mgr.GetResetTimeFor event.mapid event.difficulty) : ℤ) - 3600) : ℤ)
          ⟨1, event.mapid, event.difficulty⟩ ((t, event) :: rest)).tail →
      RoundEffect world mgr after t event rest

theorem updateRound_cases {now : ℕ} (hround : mgr.updateRound world now = .ok (some after)) :
    ∃ t event rest, mgr.m_resetTimeQueue.entries = (t, event) :: rest ∧ t < now ∧
      RoundEffect world mgr after t event rest := by
  unfold updateRound at hround
  split at hround
  · cases hround
  rename_i t event rest hentries
  split at hround
  · cases hround
  rename_i hlt
  refine ⟨t, event, rest, hentries, not_le.mp hlt, ?_⟩
  obtain ⟨handled, hhandled, hround⟩ := exists_of_bind_ok hround
  cases hround
  unfold handleEvent at hhandled
  split at hhandled
  case isTrue hzero =>
    cases hhandled
    exact .popped (.inl hzero) rfl (by rw [Multimap.entries_popFront, hentries, List.tail_cons])
  rename_i hne
  obtain ⟨reset, hreset, hhandled⟩ := exists_of_bind_ok hhandled
  cases hhandled
  by_cases hwarn : event.type < 5
  · rw [decide_eq_true hwarn] at hreset
    rw [eq_of_warn hreset, if_pos hwarn]
    refine .warned (by omega) hwarn rfl ?_
    unfold scheduleNext ScheduleReset
    rw [Multimap.entries_popFront, Multimap.entries_insert,
      Multimap.entries_setFront hentries, Nat.add_sub_cancel]
  rw [decide_eq_false hwarn] at hreset
  rw [if_neg hwarn]
  rcases reset_cases hreset with ⟨rfl, hskipped⟩ | ⟨mapDiff, hresets, hsame⟩
  · exact .popped (.inr ⟨not_lt.mp hwarn, hskipped⟩) rfl
      (by rw [Multimap.entries_popFront, hentries, List.tail_cons])
  refine .reset mapDiff (not_lt.mp hwarn) hresets hsame.times ?_
  rw [Multimap.entries_popFront, hsame.queue]
  exact congrArg (fun entries => (Multimap.insertList _ _ entries).tail) hentries

end InstanceSaveMgr

end AzerothCore.Instances

/-! ## Resets at the announced times -/

namespace AzerothCore.Instances

open List Option Nat
open Folding Reachability

structure ResetPair (world : InstanceWorld) where
  mapid : ℕ
  difficulty : ℕ
  mapDiff : MapDifficulty
  mapid_lt : mapid < 2 ^ 16
  difficulty_lt : difficulty < 2 ^ 8
  data : world.GetMapDifficultyData mapid difficulty = some mapDiff
  resetTime_ne : mapDiff.resetTime ≠ 0

variable {world : InstanceWorld} {pair : ResetPair world}

theorem MAKE_PAIR32_inj {mapid difficulty mapid' difficulty' : ℕ} (hmapid : mapid < 2 ^ 16)
    (hdiff : difficulty < 2 ^ 8) (hmapid' : mapid' < 2 ^ 16)
    (hdifficulty' : difficulty' < 2 ^ 8)
    (heq : MAKE_PAIR32 mapid difficulty = MAKE_PAIR32 mapid' difficulty') :
    mapid = mapid' ∧ difficulty = difficulty' := by
  unfold MAKE_PAIR32 at heq
  omega

/-! ## The times of the resets -/

/-- `next_reset` before it is converted to `uint32`. -/
def laterTime (world : InstanceWorld) (mapDiff : MapDifficulty) (resetTime : ℤ) : ℤ :=
  (resetTime + MINUTE).tdiv DAY * DAY + world.period mapDiff + world.diff

theorem day_le_period (world : InstanceWorld) (mapDiff : MapDifficulty) :
    DAY ≤ world.period mapDiff := by
  unfold InstanceWorld.period
  split
  · exact le_of_eq rfl
  case isFalse hlt => exact not_lt.mp hlt

theorem DAY_eq : DAY = 86400 := rfl

theorem laterTime_eq {resetTime : ℤ} (hnonneg : 0 ≤ resetTime) (mapDiff : MapDifficulty) :
    laterTime world mapDiff resetTime =
      (resetTime + 60) / 86400 * 86400 + world.period mapDiff + world.diff := by
  unfold laterTime
  rw [Int.tdiv_eq_ediv_of_nonneg (by unfold MINUTE; omega)]
  rfl

theorem le_laterTime {resetTime : ℤ} (hnonneg : 0 ≤ resetTime) (mapDiff : MapDifficulty) :
    resetTime - resetTime % DAY + world.period mapDiff + world.diff ≤
      laterTime world mapDiff resetTime := by
  rw [laterTime_eq hnonneg, DAY_eq]
  omega

def Spaced (world : InstanceWorld) (mapDiff : MapDifficulty) (resetTime : ℤ) : Prop :=
  resetTime + 3600 < laterTime world mapDiff resetTime

variable {mapDiff : MapDifficulty}

theorem spaced_of_atHour {resetTime : ℤ} (hnonneg : 0 ≤ resetTime)
    (hhour : resetTime % DAY = world.diff % DAY) : Spaced world mapDiff resetTime := by
  have hlater := @le_laterTime world resetTime hnonneg mapDiff
  have hperiod := day_le_period world mapDiff
  unfold Spaced
  rw [hhour, DAY_eq] at hlater
  rw [DAY_eq] at hperiod
  omega

theorem spaced_laterTime {resetTime : ℤ} (hnonneg : 0 ≤ resetTime) :
    Spaced world mapDiff (laterTime world mapDiff resetTime) := by
  have hperiod := day_le_period world mapDiff
  have hnext : 0 ≤ laterTime world mapDiff resetTime := by
    rw [laterTime_eq hnonneg]
    omega
  have hlater := @le_laterTime world _ hnext mapDiff
  unfold Spaced
  rw [laterTime_eq hnonneg, DAY_eq] at *
  omega

/-! ## The event of a map difficulty -/

def isFor (mapid difficulty : ℕ) (entry : ℤ × InstResetEvent) : Bool :=
  entry.2.mapid = mapid && entry.2.difficulty = difficulty

variable {entry : ℤ × InstResetEvent}

theorem isFor_iff {mapid difficulty : ℕ} : isFor mapid difficulty entry = true ↔
      entry.2.mapid = mapid ∧ entry.2.difficulty = difficulty := by
  unfold isFor
  rw [Bool.and_eq_true, decide_eq_true_eq, decide_eq_true_eq]

namespace InstanceSaveMgr

variable {mgr before after : InstanceSaveMgr}

def resetTime (mgr : InstanceSaveMgr) (pair : ResetPair world) : ℤ :=
  mgr.GetResetTimeFor pair.mapid pair.difficulty

def eventsOf (mgr : InstanceSaveMgr) (pair : ResetPair world) : List (ℤ × InstResetEvent) :=
  mgr.m_resetTimeQueue.entries.filter (isFor pair.mapid pair.difficulty)

def Queued (mgr : InstanceSaveMgr) (pair : ResetPair world) : Prop :=
  ∃ type, 1 ≤ type ∧ type ≤ 5 ∧ mgr.eventsOf pair =
    [(mgr.resetTime pair - ResetTimeDelay (type - 1), ⟨type, pair.mapid, pair.difficulty⟩)]

/-- The fields of the events have the width of those of `InstResetEvent`. -/
def InRange (mgr : InstanceSaveMgr) : Prop :=
  ∀ entry ∈ mgr.m_resetTimeQueue.entries, entry.2.mapid < 2 ^ 16 ∧ entry.2.difficulty < 2 ^ 8

structure OnTime (mgr : InstanceSaveMgr) (pair : ResetPair world) : Prop where
  queued : mgr.Queued pair
  spaced : Spaced world pair.mapDiff (mgr.resetTime pair)
  nonneg : 0 ≤ mgr.resetTime pair

/-- The first event of the queue is a reset of the pair. -/
def resetsPair (mgr : InstanceSaveMgr) (pair : ResetPair world) : Bool :=
  mgr.m_resetTimeQueue.entries.head?.any fun entry =>
    isFor pair.mapid pair.difficulty entry && 5 ≤ entry.2.type

theorem GetResetTimeFor_congr
    (htimes : after.m_resetTimeByMapDifficulty = mgr.m_resetTimeByMapDifficulty)
    (mapid difficulty : ℕ) :
    after.GetResetTimeFor mapid difficulty = mgr.GetResetTimeFor mapid difficulty := by
  rw [GetResetTimeFor, GetResetTimeFor, htimes]

theorem SameTimes.onTime (hsame : SameTimes mgr after) (hontime : mgr.OnTime pair) :
    after.OnTime pair := by
  have htime : after.resetTime pair = mgr.resetTime pair := GetResetTimeFor_congr hsame.times _ _
  have hevents : after.eventsOf pair = mgr.eventsOf pair := by
    rw [eventsOf, eventsOf, hsame.queue]
  obtain ⟨type, hge, hle, hqueued⟩ := hontime.queued
  exact ⟨⟨type, hge, hle, by rw [hevents, htime, hqueued]⟩, htime ▸ hontime.spaced,
    htime ▸ hontime.nonneg⟩

section Round

variable {t : ℤ} {event : InstResetEvent} {rest : List (ℤ × InstResetEvent)}

theorem mem_tail_insertList {key : ℤ} {value head : InstResetEvent}
    (hmem : entry ∈ (Multimap.insertList key value ((t, head) :: rest)).tail) :
    entry = (key, value) ∨ entry = (t, head) ∨ entry ∈ rest := by
  rcases Multimap.mem_insertList.mp (mem_of_mem_tail hmem) with hnew | hold
  · exact .inl hnew
  · exact .inr (mem_cons.mp hold)

theorem RoundEffect.inRange (heffect : RoundEffect world mgr after t event rest)
    (hentries : mgr.m_resetTimeQueue.entries = (t, event) :: rest) (hrange : mgr.InRange) :
    after.InRange := by
  unfold InRange at *
  rw [hentries] at hrange
  have hhead := hrange (t, event) mem_cons_self
  have hrest := fun entry hentry => hrange entry (mem_cons_of_mem _ hentry)
  intro entry hentry
  cases heffect with
  | popped _ _ hqueue => exact hrest entry (hqueue ▸ hentry)
  | warned _ _ _ hqueue =>
    rw [hqueue] at hentry
    rcases mem_tail_insertList hentry with rfl | rfl | hold
    · exact hhead
    · exact hhead
    · exact hrest entry hold
  | reset _ _ _ _ hqueue =>
    rw [hqueue] at hentry
    rcases mem_tail_insertList hentry with rfl | rfl | hold
    · exact hhead
    · exact hhead
    · exact hrest entry hold

theorem filter_tail_insertList {key : ℤ} {value head : InstResetEvent}
    {keep : ℤ × InstResetEvent → Bool} (hvalue : keep (key, value) = false)
    (hhead : keep (t, head) = false) :
    (Multimap.insertList key value ((t, head) :: rest)).tail.filter keep = rest.filter keep := by
  by_cases hlt : key < t
  · rw [Multimap.tail_insertList_of_lt hlt, filter_cons_of_neg (by rw [hhead]; decide)]
  · rw [Multimap.tail_insertList_of_le (not_lt.mp hlt), Multimap.filter_insertList_of_neg hvalue]

theorem RoundEffect.other (heffect : RoundEffect world mgr after t event rest)
    (hentries : mgr.m_resetTimeQueue.entries = (t, event) :: rest) (hrange : mgr.InRange)
    (hother : isFor pair.mapid pair.difficulty (t, event) = false) :
    after.eventsOf pair = mgr.eventsOf pair ∧ after.resetTime pair = mgr.resetTime pair := by
  have hfor : ∀ key type, isFor pair.mapid pair.difficulty
      (key, ⟨type, event.mapid, event.difficulty⟩) = false := fun _ _ => hother
  have hbefore : mgr.eventsOf pair = rest.filter (isFor pair.mapid pair.difficulty) := by
    rw [eventsOf, hentries, filter_cons_of_neg (by rw [hother]; decide)]
  rw [hbefore]
  unfold eventsOf
  cases heffect with
  | popped _ htimes hqueue =>
    exact ⟨congrArg (List.filter _) hqueue, GetResetTimeFor_congr htimes _ _⟩
  | warned _ _ htimes hqueue =>
    rw [hqueue]
    exact ⟨filter_tail_insertList (hfor _ _) (hfor _ _), GetResetTimeFor_congr htimes _ _⟩
  | reset mapDiff _ _ htimes hqueue =>
    rw [hqueue]
    refine ⟨filter_tail_insertList (hfor _ _) hother, ?_⟩
    unfold resetTime GetResetTimeFor
    rw [htimes, StdMap.find?_insert, if_neg]
    intro heq
    have hhead := hrange (t, event) (by rw [hentries]; exact mem_cons_self)
    have hpair := MAKE_PAIR32_inj hhead.1 hhead.2 pair.mapid_lt pair.difficulty_lt heq
    exact Bool.false_ne_true (hother.symm.trans (isFor_iff.mpr hpair))

theorem ResetTimeDelay_lt {type : ℕ} (hge : 1 ≤ type) (hlt : type < 5) :
    ResetTimeDelay type < ResetTimeDelay (type - 1) := by
  obtain rfl | rfl | rfl | rfl : type = 1 ∨ type = 2 ∨ type = 3 ∨ type = 4 := by omega
  all_goals decide

theorem ResetTimeDelay_nonneg (type : ℕ) : 0 ≤ ResetTimeDelay type := by
  unfold ResetTimeDelay
  split <;> decide

theorem nextReset_eq {time : ℤ} (hnonneg : 0 ≤ time) (hlt : laterTime world mapDiff time < 2 ^ 32) :
    (nextReset world mapDiff time : ℤ) = laterTime world mapDiff time := by
  have hlater : 0 ≤ laterTime world mapDiff time := by
    rw [laterTime_eq hnonneg]
    omega
  change (toUint32 (laterTime world mapDiff time) : ℤ) = _
  unfold toUint32
  rw [Int.emod_eq_of_lt hlater hlt, Int.toNat_of_nonneg hlater]

/-- The first event was replaced by a later one of the same pair. -/
def Postponed (after : InstanceSaveMgr) (t : ℤ) (event : InstResetEvent)
    (rest : List (ℤ × InstResetEvent)) : Prop :=
  ∃ key type, t < key ∧ after.m_resetTimeQueue.entries =
    Multimap.insertList key ⟨type, event.mapid, event.difficulty⟩ rest

theorem RoundEffect.self (heffect : RoundEffect world mgr after t event rest)
    (hentries : mgr.m_resetTimeQueue.entries = (t, event) :: rest)
    (hself : isFor pair.mapid pair.difficulty (t, event) = true)
    (hresets : Resets world pair.mapid pair.difficulty pair.mapDiff) (hontime : mgr.OnTime pair)
    (hfits : 5 ≤ event.type → t = mgr.resetTime pair →
      laterTime world pair.mapDiff (mgr.resetTime pair) < 2 ^ 32) :
    after.OnTime pair ∧ after.Postponed t event rest ∧
      (event.type < 5 ∧ after.resetTime pair = mgr.resetTime pair ∨
      5 ≤ event.type ∧ t = mgr.resetTime pair ∧
        after.resetTime pair = laterTime world pair.mapDiff (mgr.resetTime pair)) := by
  obtain ⟨hmapid, hdiff⟩ := isFor_iff.mp hself
  obtain ⟨type, hge, hle, hqueued⟩ := hontime.queued
  have hbefore : mgr.eventsOf pair =
      (t, event) :: rest.filter (isFor pair.mapid pair.difficulty) := by
    rw [eventsOf, hentries, filter_cons_of_pos hself]
  rw [hbefore, List.cons.injEq, Prod.mk.injEq] at hqueued
  obtain ⟨⟨ht, hevent⟩, hnil⟩ := hqueued
  have htype : event.type = type := by rw [hevent]
  rw [← htype] at hge hle ht
  cases heffect with
  | popped hpopped =>
    rcases hpopped with hzero | ⟨-, hskipped⟩
    · omega
    · rw [hmapid, hdiff] at hskipped
      exact absurd hresets (hskipped pair.mapDiff)
  | warned _ hwarn htimes hqueue =>
    have htime : after.resetTime pair = mgr.resetTime pair := GetResetTimeFor_congr htimes _ _
    rw [hmapid, hdiff] at hqueue
    change _ = (Multimap.insertList (mgr.resetTime pair - ResetTimeDelay event.type) _ _).tail
      at hqueue
    have hdelay := ResetTimeDelay_lt hge hwarn
    rw [Multimap.tail_insertList_of_le (by omega)] at hqueue
    refine ⟨⟨⟨event.type + 1, by omega, by omega, ?_⟩, htime ▸ hontime.spaced,
      htime ▸ hontime.nonneg⟩, ⟨_, event.type + 1, ?_, by rw [hqueue, hmapid, hdiff]⟩,
      .inl ⟨hwarn, htime⟩⟩
    rotate_left
    · omega
    rw [eventsOf, hqueue, htime, Nat.add_sub_cancel]
    have hfor : isFor pair.mapid pair.difficulty (mgr.resetTime pair -
        ResetTimeDelay event.type, ⟨event.type + 1, event.mapid, event.difficulty⟩) = true :=
      isFor_iff.mpr ⟨hmapid, hdiff⟩
    rw [hmapid, hdiff] at hfor
    exact Multimap.filter_insertList_of_nil hfor hnil
  | reset mapDiff hreset hother htimes hqueue =>
    have hfive : event.type = 5 := by omega
    rw [hfive] at ht
    have htime : t = mgr.resetTime pair := by
      rw [ht]
      exact Int.sub_zero _
    rw [hmapid, hdiff] at hother htimes hqueue
    have hmapDiff : mapDiff = pair.mapDiff := some.inj (hother.2.1.symm.trans hresets.2.1)
    subst hmapDiff
    have hlt := hfits hreset htime
    have hnext : (nextReset world pair.mapDiff (mgr.resetTime pair) : ℤ) =
        laterTime world pair.mapDiff (mgr.resetTime pair) := nextReset_eq hontime.nonneg hlt
    have hafter : after.resetTime pair = laterTime world pair.mapDiff (mgr.resetTime pair) := by
      rw [← hnext]
      unfold resetTime GetResetTimeFor
      rw [htimes, StdMap.find?_insert_self]
      rfl
    have hspaced := hontime.spaced
    unfold Spaced at hspaced
    have hnonneg := hontime.nonneg
    change _ = (Multimap.insertList (toUint32 ((nextReset world pair.mapDiff
      (mgr.resetTime pair) : ℤ) - 3600) : ℤ) _ _).tail at hqueue
    have hkey : (toUint32 ((nextReset world pair.mapDiff (mgr.resetTime pair) : ℤ) - 3600) :
        ℤ) = laterTime world pair.mapDiff (mgr.resetTime pair) - 3600 := by
      rw [hnext]
      unfold toUint32
      rw [Int.emod_eq_of_lt (by omega) (by omega), Int.toNat_of_nonneg (by omega)]
    rw [hkey, Multimap.tail_insertList_of_le (by omega)] at hqueue
    refine ⟨⟨⟨1, le_refl 1, by decide, ?_⟩, ?_, ?_⟩,
      ⟨_, 1, ?_, by rw [hqueue, hmapid, hdiff]⟩, .inr ⟨hreset, htime, hafter⟩⟩
    · rw [eventsOf, hqueue, hafter]
      have hfor : isFor pair.mapid pair.difficulty
          (laterTime world pair.mapDiff (mgr.resetTime pair) - 3600,
            ⟨1, pair.mapid, pair.difficulty⟩) = true := isFor_iff.mpr ⟨rfl, rfl⟩
      exact Multimap.filter_insertList_of_nil hfor hnil
    · rw [hafter]
      exact spaced_laterTime hontime.nonneg
    · omega
    · omega

end Round

/-- The time that the last row of the pair holds, or 0. -/
def storedTime (pair : ResetPair world) (rows : List InstanceResetRow) : ℤ :=
  rows.foldl (fun time row =>
    if row.mapid.toNat = pair.mapid ∧ row.difficulty.toNat = pair.difficulty then
      (row.resettime.toNat : ℤ)
    else time) 0

theorem loadResetTime_queue (mgr : InstanceSaveMgr) (row : InstanceResetRow) :
    (loadResetTime world mgr row).m_resetTimeQueue = mgr.m_resetTimeQueue := by
  unfold loadResetTime
  split <;> rfl

theorem loadResetTime_resetTime (mgr : InstanceSaveMgr) (row : InstanceResetRow) :
    (loadResetTime world mgr row).resetTime pair =
      if row.mapid.toNat = pair.mapid ∧ row.difficulty.toNat = pair.difficulty then
        (row.resettime.toNat : ℤ)
      else mgr.resetTime pair := by
  unfold loadResetTime
  split
  case h_1 hnone =>
    rw [if_neg]
    rintro ⟨hmapid, hdiff⟩
    rw [hmapid, hdiff] at hnone
    exact nomatch hnone.symm.trans pair.data
  unfold resetTime GetResetTimeFor SetResetTimeFor
  rw [StdMap.find?_insert]
  by_cases hpair : row.mapid.toNat = pair.mapid ∧ row.difficulty.toNat = pair.difficulty
  · rw [if_pos hpair, if_pos (by rw [hpair.1, hpair.2])]
    rfl
  rw [if_neg hpair, if_neg]
  intro heq
  exact hpair (MAKE_PAIR32_inj row.mapid.toNat_lt row.difficulty.toNat_lt pair.mapid_lt
    pair.difficulty_lt heq)

theorem foldl_loadResetTime (rows : List InstanceResetRow) :
    (rows.foldl (loadResetTime world) InstanceSaveMgr.new).m_resetTimeQueue.entries = [] ∧
      (rows.foldl (loadResetTime world) InstanceSaveMgr.new).resetTime pair =
        storedTime pair rows := by
  have hall : ∀ mgr : InstanceSaveMgr,
      (rows.foldl (loadResetTime world) mgr).m_resetTimeQueue = mgr.m_resetTimeQueue ∧
        (rows.foldl (loadResetTime world) mgr).resetTime pair = rows.foldl (fun time row =>
            if row.mapid.toNat = pair.mapid ∧ row.difficulty.toNat = pair.difficulty then
              (row.resettime.toNat : ℤ)
            else time) (mgr.resetTime pair) := by
    induction rows with
    | nil => exact fun mgr => ⟨rfl, rfl⟩
    | cons row rows ih =>
      intro mgr
      obtain ⟨hqueue, htime⟩ := ih (loadResetTime world mgr row)
      rw [loadResetTime_queue] at hqueue
      rw [loadResetTime_resetTime] at htime
      exact ⟨hqueue, htime⟩
  obtain ⟨hqueue, htime⟩ := hall InstanceSaveMgr.new
  exact ⟨congrArg Multimap.entries hqueue, htime⟩

theorem firstType_mem (now : ℕ) (t : ℤ) : 1 ≤ firstType now t ∧ firstType now t ≤ 5 := by
  unfold firstType
  rcases hfind : [1, 2, 3, 4].find? fun type => now + ResetTimeDelay (type - 1) < t with _ | type
  · decide
  have hmem := mem_of_find?_eq_some hfind
  simp only [mem_cons, not_mem_nil, or_false] at hmem
  rw [getD_some]
  omega

theorem eq_key {key : ℕ} (hlt : key < 2 ^ 24) (hmapid : PAIR32_LOPART key = pair.mapid)
    (hdiff : uint8 (PAIR32_HIPART key) = pair.difficulty) :
    key = MAKE_PAIR32 pair.mapid pair.difficulty := by
  unfold PAIR32_LOPART at hmapid
  unfold uint8 PAIR32_HIPART at hdiff
  unfold MAKE_PAIR32
  omega

theorem parts_key (pair : ResetPair world) :
    PAIR32_LOPART (MAKE_PAIR32 pair.mapid pair.difficulty) = pair.mapid ∧
      uint8 (PAIR32_HIPART (MAKE_PAIR32 pair.mapid pair.difficulty)) = pair.difficulty := by
  have hmapid := pair.mapid_lt
  have hdiff := pair.difficulty_lt
  unfold PAIR32_LOPART uint8 PAIR32_HIPART MAKE_PAIR32
  omega

theorem scheduleReset_inRange {now : ℕ} (entry : ℕ × MapDifficulty) (hrange : mgr.InRange) :
    (scheduleReset world now mgr entry).InRange := by
  unfold scheduleReset
  split
  · exact hrange
  intro event hevent
  rcases Multimap.mem_insertList.mp hevent with rfl | hold
  · exact ⟨mod_lt _ (by decide), uint8_lt _⟩
  refine hrange event ?_
  split at hold
  · exact hold
  · exact hold

theorem scheduleReset_other {now : ℕ} {entry : ℕ × MapDifficulty} (hlt : entry.1 < 2 ^ 24)
    (hne : entry.1 ≠ MAKE_PAIR32 pair.mapid pair.difficulty) :
    (scheduleReset world now mgr entry).resetTime pair = mgr.resetTime pair ∧
      (scheduleReset world now mgr entry).eventsOf pair = mgr.eventsOf pair := by
  have hother : ∀ key type, isFor pair.mapid pair.difficulty
      (key, ⟨type, PAIR32_LOPART entry.1, uint8 (PAIR32_HIPART entry.1)⟩) = false := by
    intro key type
    rw [← Bool.not_eq_true, isFor_iff]
    exact fun h => hne (eq_key hlt h.1 h.2)
  have hset : ∀ time, (mgr.SetResetTimeFor (PAIR32_LOPART entry.1)
      (uint8 (PAIR32_HIPART entry.1)) time).resetTime pair = mgr.resetTime pair := by
    intro time
    unfold resetTime GetResetTimeFor SetResetTimeFor
    rw [StdMap.find?_insert, if_neg]
    intro heq
    have hparts := MAKE_PAIR32_inj (mod_lt _ (by decide)) (uint8_lt _) pair.mapid_lt
      pair.difficulty_lt heq
    exact hne (eq_key hlt hparts.1 hparts.2)
  unfold scheduleReset
  dsimp only
  split
  · exact ⟨rfl, rfl⟩
  refine ⟨?_, ?_⟩
  · split
    · exact hset _
    · rfl
  · unfold eventsOf ScheduleReset SetExtendedResetTimeFor
    rw [Multimap.entries_insert, Multimap.filter_insertList_of_neg (hother _ _)]
    split
    · rfl
    · rfl

theorem scheduleReset_self {now : ℕ} (hnil : mgr.eventsOf pair = []) :
    ∃ time queued type, (scheduleReset world now mgr
        (MAKE_PAIR32 pair.mapid pair.difficulty, pair.mapDiff)).resetTime pair = time ∧
      time = (if mgr.resetTime pair = 0 then
        today now + world.period pair.mapDiff + world.diff else mgr.resetTime pair) ∧
      (now ≤ time → queued = time) ∧ 1 ≤ type ∧ type ≤ 5 ∧
      (scheduleReset world now mgr
        (MAKE_PAIR32 pair.mapid pair.difficulty, pair.mapDiff)).eventsOf pair =
        [(queued - ResetTimeDelay (type - 1), ⟨type, pair.mapid, pair.difficulty⟩)] := by
  obtain ⟨hmapid, hdiff⟩ := parts_key pair
  have hstored : mgr.GetResetTimeFor pair.mapid pair.difficulty = mgr.resetTime pair := rfl
  unfold scheduleReset
  dsimp only
  rw [hmapid, hdiff, if_neg pair.resetTime_ne, hstored]
  generalize hinitial : today now + world.period pair.mapDiff + world.diff = initial
  generalize hbase : (if mgr.resetTime pair = 0 then
    mgr.SetResetTimeFor pair.mapid pair.difficulty initial else mgr) = base
  generalize htime : (if mgr.resetTime pair = 0 then initial else mgr.resetTime pair) = time
  generalize hqueued : (if time < now then unexpiredTime world now pair.mapDiff time
    else time) = queued
  have hbasetime : base.resetTime pair = time := by
    rw [← hbase, ← htime]
    split
    case isFalse => rfl
    unfold resetTime GetResetTimeFor SetResetTimeFor
    rw [StdMap.find?_insert_self]
    rfl
  have hbasequeue : base.m_resetTimeQueue = mgr.m_resetTimeQueue := by
    rw [← hbase]
    split <;> rfl
  refine ⟨time, queued, firstType now queued, hbasetime, rfl, fun hle => ?_,
    (firstType_mem _ _).1, (firstType_mem _ _).2, ?_⟩
  · rw [← hqueued, if_neg (not_lt.mpr hle)]
  · unfold eventsOf at hnil ⊢
    unfold ScheduleReset SetExtendedResetTimeFor
    rw [Multimap.entries_insert, hbasequeue]
    have hfor : isFor pair.mapid pair.difficulty
        (queued - ResetTimeDelay (firstType now queued - 1),
          ⟨firstType now queued, pair.mapid, pair.difficulty⟩) = true := isFor_iff.mpr ⟨rfl, rfl⟩
    exact Multimap.filter_insertList_of_nil hfor hnil

theorem foldl_scheduleReset_other {now : ℕ} {entries : List (ℕ × MapDifficulty)}
    (hentries : ∀ entry ∈ entries, entry.1 < 2 ^ 24 ∧
      entry.1 ≠ MAKE_PAIR32 pair.mapid pair.difficulty) (mgr : InstanceSaveMgr) :
    (entries.foldl (scheduleReset world now) mgr).resetTime pair = mgr.resetTime pair ∧
      (entries.foldl (scheduleReset world now) mgr).eventsOf pair = mgr.eventsOf pair := by
  refine @List.foldlRecOn _ _ (fun state => state.resetTime pair = mgr.resetTime pair ∧
    state.eventsOf pair = mgr.eventsOf pair) entries (scheduleReset world now) mgr ⟨rfl, rfl⟩ ?_
  intro state hstate entry hentry
  obtain ⟨hlt, hne⟩ := hentries entry hentry
  obtain ⟨htime, hevents⟩ := @scheduleReset_other world pair state now entry hlt hne
  exact ⟨htime.trans hstate.1, hevents.trans hstate.2⟩

theorem LoadResetTimes_spec (pair : ResetPair world) (now : ℕ) (rows : List InstanceResetRow) :
    ∃ queued type, (InstanceSaveMgr.new.LoadResetTimes world now rows).resetTime pair =
        (if storedTime pair rows = 0 then today now + world.period pair.mapDiff + world.diff
          else storedTime pair rows) ∧
      (now ≤ (InstanceSaveMgr.new.LoadResetTimes world now rows).resetTime pair →
        queued = (InstanceSaveMgr.new.LoadResetTimes world now rows).resetTime pair) ∧
      1 ≤ type ∧ type ≤ 5 ∧
      (InstanceSaveMgr.new.LoadResetTimes world now rows).eventsOf pair =
        [(queued - ResetTimeDelay (type - 1), ⟨type, pair.mapid, pair.difficulty⟩)] := by
  have hmem : (MAKE_PAIR32 pair.mapid pair.difficulty, pair.mapDiff) ∈ world.difficultyOrder :=
    world.difficultyOrder_perm.mem_iff.mpr (StdMap.find?_eq_some_iff.mp pair.data)
  obtain ⟨first, last, horder⟩ := append_of_mem hmem
  have hkeys : (world.difficultyOrder.map Prod.fst).Nodup :=
    (world.difficultyOrder_perm.map Prod.fst).nodup_iff.mpr
      world.sMapDifficultyMap.keys_nodup
  have hlt : ∀ entry ∈ world.difficultyOrder, entry.1 < 2 ^ 24 := by
    intro entry hentry
    have hentries := world.difficultyOrder_perm.mem_iff.mp hentry
    exact world.keys_lt entry.1 (List.mem_map_of_mem hentries)
  rw [horder, map_append, map_cons, nodup_append, nodup_cons] at hkeys
  obtain ⟨-, ⟨hlast, -⟩, hfirst⟩ := hkeys
  have hothers : (∀ entry ∈ first, entry.1 < 2 ^ 24 ∧
      entry.1 ≠ MAKE_PAIR32 pair.mapid pair.difficulty) ∧
      ∀ entry ∈ last, entry.1 < 2 ^ 24 ∧ entry.1 ≠ MAKE_PAIR32 pair.mapid pair.difficulty := by
    refine ⟨fun entry hentry => ⟨hlt entry ?_, ?_⟩, fun entry hentry => ⟨hlt entry ?_, ?_⟩⟩
    · rw [horder]
      exact mem_append_left _ hentry
    · exact hfirst entry.1 (List.mem_map_of_mem hentry) _ mem_cons_self
    · rw [horder]
      exact mem_append_right _ (mem_cons_of_mem _ hentry)
    · intro heq
      have hkey : entry.1 ∈ last.map Prod.fst := List.mem_map_of_mem hentry
      exact hlast (heq ▸ hkey)
  obtain ⟨hqueue, hstored⟩ := @foldl_loadResetTime world pair rows
  have hnone : (rows.foldl (loadResetTime world) InstanceSaveMgr.new).eventsOf pair = [] := by
    rw [eventsOf, hqueue, filter_nil]
  obtain ⟨hfirsttime, hfirstevents⟩ := @foldl_scheduleReset_other world pair now first
    hothers.1 (rows.foldl (loadResetTime world) InstanceSaveMgr.new)
  obtain ⟨time, queued, type, htime, htime', hle, hge, hle', hevents⟩ :=
    @scheduleReset_self world pair _ now (hfirstevents.trans hnone)
  have hlasts := @foldl_scheduleReset_other world pair now last hothers.2
    (scheduleReset world now (first.foldl (scheduleReset world now)
      (rows.foldl (loadResetTime world) InstanceSaveMgr.new))
      (MAKE_PAIR32 pair.mapid pair.difficulty, pair.mapDiff))
  have hloaded : InstanceSaveMgr.new.LoadResetTimes world now rows =
      last.foldl (scheduleReset world now) (scheduleReset world now
        (first.foldl (scheduleReset world now)
          (rows.foldl (loadResetTime world) InstanceSaveMgr.new))
        (MAKE_PAIR32 pair.mapid pair.difficulty, pair.mapDiff)) := by
    rw [LoadResetTimes, horder, foldl_append, foldl_cons]
  rw [hloaded, hlasts.1, hlasts.2]
  refine ⟨queued, type, ?_, fun hnow => ?_, hge, hle', hevents⟩
  · rw [htime, htime', hfirsttime, hstored]
  · rw [htime] at hnow ⊢
    exact hle hnow

structure Announced (now : ℕ) (pair : ResetPair world) (mgr : InstanceSaveMgr) : Prop where
  future : now < mgr.resetTime pair
  atHour : mgr.resetTime pair % DAY = world.diff % DAY
  queued : mgr.Queued pair

/-- The stored time of the pair is in the future and at the reset hour, or there is none and the
period is a number of days. -/
def WellStored (now : ℕ) (pair : ResetPair world) (stored : ℤ) : Prop :=
  stored = 0 ∧ (world.period pair.mapDiff : ℤ) % DAY = 0 ∨
    now < stored ∧ stored % DAY = world.diff % DAY

theorem today_eq (now : ℕ) : today now = (now : ℤ) / 86400 * 86400 := by
  unfold today
  rw [Int.tdiv_eq_ediv_of_nonneg (Int.natCast_nonneg now), DAY_eq]

theorem announced_iff (pair : ResetPair world) (now : ℕ) (rows : List InstanceResetRow) :
    Announced now pair (InstanceSaveMgr.new.LoadResetTimes world now rows) ↔
      WellStored now pair (storedTime pair rows) := by
  obtain ⟨queued, type, htime, hqueued, hge, hle, hevents⟩ := LoadResetTimes_spec pair now rows
  generalize InstanceSaveMgr.new.LoadResetTimes world now rows = loaded at *
  have hqueue : now < loaded.resetTime pair → loaded.Queued pair := by
    intro hfuture
    exact ⟨type, hge, hle, by rw [hevents, hqueued hfuture.le]⟩
  have hperiod := day_le_period world pair.mapDiff
  by_cases hzero : storedTime pair rows = 0
  · rw [if_pos hzero, today_eq] at htime
    rw [DAY_eq] at hperiod
    have hfuture : now < loaded.resetTime pair := by omega
    have hhour : loaded.resetTime pair % DAY = world.diff % DAY ↔
        (world.period pair.mapDiff : ℤ) % DAY = 0 := by
      rw [DAY_eq]
      omega
    constructor
    · intro hannounced
      exact .inl ⟨hzero, hhour.mp hannounced.atHour⟩
    · rintro (⟨-, hdays⟩ | ⟨hlt, -⟩)
      · exact ⟨hfuture, hhour.mpr hdays, hqueue hfuture⟩
      · omega
  · rw [if_neg hzero] at htime
    rw [← htime] at hzero ⊢
    constructor
    · intro hannounced
      exact .inr ⟨hannounced.future, hannounced.atHour⟩
    · rintro (⟨hnone, -⟩ | ⟨hfuture, hhour⟩)
      · exact absurd hnone hzero
      · exact ⟨hfuture, hhour, hqueue hfuture⟩

theorem Consistent.LoadResetTimes (world : InstanceWorld) (now : ℕ)
    (rows : List InstanceResetRow) :
    Consistent (InstanceSaveMgr.new.LoadResetTimes world now rows) := by
  refine @List.foldlRecOn _ _ Consistent world.difficultyOrder (scheduleReset world now) _ ?_ ?_
  · refine @List.foldlRecOn _ _ Consistent rows (loadResetTime world) _ .new ?_
    intro state hstate row _
    unfold loadResetTime
    split
    · exact hstate
    · exact hstate.congr ⟨rfl, rfl, rfl⟩ fun _ _ _ => rfl
  · intro state hstate entry _
    unfold scheduleReset
    dsimp only
    split
    · exact hstate
    split
    · exact hstate.congr ⟨rfl, rfl, rfl⟩ fun _ _ _ => rfl
    · exact hstate.congr ⟨rfl, rfl, rfl⟩ fun _ _ _ => rfl

theorem LoadResetTimes_inRange (world : InstanceWorld) (now : ℕ)
    (rows : List InstanceResetRow) :
    (InstanceSaveMgr.new.LoadResetTimes world now rows).InRange := by
  refine @List.foldlRecOn _ _ InRange world.difficultyOrder (scheduleReset world now) _ ?_
    fun state hstate entry _ => scheduleReset_inRange entry hstate
  refine @List.foldlRecOn _ _ InRange rows (loadResetTime world) _ nofun ?_
  intro state hstate row _
  unfold InRange
  rw [loadResetTime_queue]
  exact hstate

theorem handleEvent_saves {event : InstResetEvent} (hcons : Consistent mgr)
    (hhandle : mgr.handleEvent world event = .ok after) :
    Consistent after ∧ SameElsewhere event.difficulty event.mapid mgr after ∧
      (event.type < 5 → after.saves = mgr.saves ∧
        after.playerBindStorage = mgr.playerBindStorage) := by
  unfold handleEvent at hhandle
  split at hhandle
  · cases hhandle
    exact ⟨hcons, .refl mgr, fun _ => ⟨rfl, rfl⟩⟩
  obtain ⟨reset, hreset, hhandle⟩ := exists_of_bind_ok hhandle
  cases hhandle
  have hmap : (world.sMapStore event.mapid).isSome := by
    cases hentry : world.sMapStore event.mapid with
    | some mapEntry => rfl
    | none =>
      unfold _ResetOrWarnAll at hreset
      rw [hentry] at hreset
      cases hreset
  obtain ⟨next, hnext, hafter, hsame, hwarned⟩ := @_ResetOrWarnAll_spec world mgr event.mapid
    event.difficulty hcons hmap (event.type < 5)
    (mgr.GetResetTimeFor event.mapid event.difficulty)
  rw [hreset] at hnext
  cases hnext
  by_cases hwarn : event.type < 5
  · rw [if_pos hwarn]
    have hsaves := hwarned (decide_eq_true hwarn)
    subst hsaves
    exact ⟨hafter.congr ⟨rfl, rfl, rfl⟩ fun _ _ _ => rfl, ⟨hsame.saves, hsame.binds⟩,
      fun _ => ⟨rfl, rfl⟩⟩
  · rw [if_neg hwarn]
    exact ⟨hafter, hsame, fun h => absurd h hwarn⟩

theorem updateRound_saves {now : ℕ} (hcons : Consistent mgr)
    (hround : mgr.updateRound world now = .ok (some after)) :
    Consistent after ∧ (mgr.resetsPair pair = false →
      (∀ save object, mgr.saves.find? save = some object →
        object.m_difficulty = pair.difficulty → object.m_mapid = pair.mapid →
        after.saves.find? save = some object) ∧
      ∀ guid, after.boundSave guid pair.difficulty pair.mapid =
        mgr.boundSave guid pair.difficulty pair.mapid) := by
  unfold updateRound at hround
  split at hround
  · cases hround
  rename_i t event rest hentries
  split at hround
  · cases hround
  obtain ⟨handled, hhandled, hround⟩ := exists_of_bind_ok hround
  cases hround
  obtain ⟨hafter, hsame, hwarned⟩ := handleEvent_saves hcons hhandled
  refine ⟨hafter.congr ⟨rfl, rfl, rfl⟩ fun _ _ _ => rfl, fun hno => ?_⟩
  unfold resetsPair at hno
  rw [hentries, List.head?_cons, any_some] at hno
  cases hfor : isFor pair.mapid pair.difficulty (t, event) with
  | true =>
    rw [hfor, Bool.true_and, decide_eq_false_iff_not, not_le] at hno
    obtain ⟨hsaves, hstorage⟩ := hwarned hno
    refine ⟨fun save object hsave _ _ => ?_, fun guid => ?_⟩
    · rw [hsaves, hsave]
    · unfold boundSave
      rw [hstorage]
  | false =>
    have hplace : ¬ (pair.difficulty = event.difficulty ∧ pair.mapid = event.mapid) := by
      rintro ⟨hd, hm⟩
      exact Bool.false_ne_true (hfor.symm.trans (isFor_iff.mpr ⟨hm.symm, hd.symm⟩))
    refine ⟨fun save object hsave hd hm => hsame.saves save object hsave ?_,
      fun guid => hsame.binds guid _ _ hplace⟩
    rintro ⟨hd', hm'⟩
    exact hplace ⟨hd.symm.trans hd', hm.symm.trans hm'⟩

end InstanceSaveMgr

/-- A reset: the time that was announced for it, the time at which it happens, and the time that
it announces. -/
structure Reset where
  time : ℤ
  clock : ℕ
  next : ℤ

/-- The manager, the last time at which `Update` was called, and the resets of a pair. -/
structure ResetLog where
  mgr : InstanceSaveMgr
  clock : ℕ
  resets : List Reset

/-- A call on saves and binds, or a round of `Update`. -/
inductive ResetOp
  | call (op : InstanceSaveMgr.InstanceOp)
  | round (now : ℕ)

namespace ResetLog

open InstanceSaveMgr

variable {log before after : ResetLog}

def run (pair : ResetPair world) (log : ResetLog) : ResetOp → Option ResetLog
  | .call op =>
    if op.isReset then none
    else
      match log.mgr.run world op with
      | .ok mgr => some { log with mgr := mgr }
      | .error _ => none
  | .round now =>
    if now < log.clock then none
    else
      match log.mgr.updateRound world now with
      | .ok (some mgr) => some ⟨mgr, now, log.resets ++
          if log.mgr.resetsPair pair then
            [⟨log.mgr.resetTime pair, now, mgr.resetTime pair⟩]
          else []⟩
      | _ => none

/-- The next reset time of the pair fits into `uint32`. -/
def Fits (pair : ResetPair world) (log : ResetLog) (_ : ResetOp) : Prop :=
  laterTime world pair.mapDiff (log.mgr.resetTime pair) < 2 ^ 32

instance (pair : ResetPair world) (log : ResetLog) (op : ResetOp) : Decidable (Fits pair log op) :=
  inferInstanceAs (Decidable (_ < _))

/-- Runs of `Update` and of other calls after the reset times were loaded. -/
abbrev ResetRun (pair : ResetPair world) (start : ResetLog) : ResetLog → Prop :=
  Reachable (· = start) (guarded (Fits pair) (computed (run pair)))

structure Punctual (pair : ResetPair world) (first : ℤ) (log : ResetLog) : Prop where
  /-- A reset happens after its announced time, and announces a later one. -/
  after : ∀ reset ∈ log.resets, reset.time < reset.clock ∧ reset.time < reset.next
  /-- The announced times are the times for which the pair was reset, and the current one. -/
  once : first :: log.resets.map Reset.next = log.resets.map Reset.time ++ [log.mgr.resetTime pair]
  /-- When `Update` ends no announced time has passed. -/
  ended : ∀ now, log.mgr.updateRound world now = .ok none → now ≤ log.mgr.resetTime pair
  /-- The saves of the pair and the binds to them are left alone by the other rounds. -/
  locked : ∀ now mgr, log.mgr.updateRound world now = .ok (some mgr) →
    log.mgr.resetsPair pair = false →
    (∀ save object, log.mgr.saves.find? save = some object →
      object.m_difficulty = pair.difficulty → object.m_mapid = pair.mapid →
      mgr.saves.find? save = some object) ∧
    ∀ guid, mgr.boundSave guid pair.difficulty pair.mapid =
      log.mgr.boundSave guid pair.difficulty pair.mapid

structure Scheduled (pair : ResetPair world) (first : ℤ) (log : ResetLog) : Prop where
  consistent : Consistent log.mgr
  inRange : log.mgr.InRange
  onTime : log.mgr.OnTime pair
  after : ∀ reset ∈ log.resets, reset.time < reset.clock ∧ reset.time < reset.next
  once : first :: log.resets.map Reset.next = log.resets.map Reset.time ++ [log.mgr.resetTime pair]

variable {first : ℤ}

section

variable (hsched : Scheduled pair first before)
include hsched

theorem Scheduled.wait {mgr : InstanceSaveMgr}
    (hcons : Consistent mgr) (hrange : mgr.InRange) (hontime : mgr.OnTime pair)
    (htime : mgr.resetTime pair = before.mgr.resetTime pair) (clock : ℕ) :
    Scheduled pair first ⟨mgr, clock, before.resets⟩ :=
  ⟨hcons, hrange, hontime, hsched.after, htime ▸ hsched.once⟩

theorem Scheduled.round (hresets : Resets world pair.mapid pair.difficulty pair.mapDiff)
    (hfits : laterTime world pair.mapDiff (before.mgr.resetTime pair) < 2 ^ 32) {now : ℕ}
    {mgr : InstanceSaveMgr} (hround : before.mgr.updateRound world now = .ok (some mgr)) :
    Scheduled pair first ⟨mgr, now, before.resets ++
      if before.mgr.resetsPair pair then
        [⟨before.mgr.resetTime pair, now, mgr.resetTime pair⟩]
      else []⟩ := by
  obtain ⟨t, event, rest, hentries, hdue, heffect⟩ := updateRound_cases hround
  have hcons := (@updateRound_saves world pair before.mgr mgr now hsched.consistent
    hround).1
  have hrange := heffect.inRange hentries hsched.inRange
  have hhead : before.mgr.resetsPair pair =
      (isFor pair.mapid pair.difficulty (t, event) && decide (5 ≤ event.type)) := by
    rw [resetsPair, hentries, List.head?_cons, any_some]
  rcases hself : isFor pair.mapid pair.difficulty (t, event) with _ | _
  · obtain ⟨hevents, htime⟩ := heffect.other hentries hsched.inRange hself
    rw [hhead, hself, Bool.false_and, if_neg Bool.false_ne_true, append_nil]
    obtain ⟨type, hge, hle, hqueued⟩ := hsched.onTime.queued
    exact hsched.wait hcons hrange ⟨⟨type, hge, hle, by rw [hevents, htime, hqueued]⟩,
      htime ▸ hsched.onTime.spaced, htime ▸ hsched.onTime.nonneg⟩ htime now
  rw [hhead, hself, Bool.true_and]
  obtain ⟨hontime, -, ⟨hwarn, htime⟩ | ⟨hfive, ht, htime⟩⟩ :=
    heffect.self hentries hself hresets hsched.onTime fun _ _ => hfits
  · rw [decide_eq_false (not_le.mpr hwarn), if_neg Bool.false_ne_true, append_nil]
    exact hsched.wait hcons hrange hontime htime now
  · rw [decide_eq_true hfive, if_pos rfl]
    refine ⟨hcons, hrange, hontime, fun reset hreset => ?_, ?_⟩
    · rcases mem_append.mp hreset with hold | hnew
      · exact hsched.after reset hold
      · rw [mem_singleton] at hnew
        have hspaced := hsched.onTime.spaced
        unfold Spaced at hspaced
        rw [hnew]
        dsimp only
        omega
    · rw [map_append, map_append, ← cons_append, hsched.once]
      rfl

theorem Scheduled.step
    (hresets : Resets world pair.mapid pair.difficulty pair.mapDiff) {op : ResetOp}
    (hfits : Fits pair before op) (hrun : before.run pair op = some after) :
    Scheduled pair first after := by
  cases op with
  | call op =>
    unfold run at hrun
    dsimp only at hrun
    split at hrun
    · cases hrun
    rename_i hop
    rw [Bool.not_eq_true] at hop
    split at hrun
    case h_2 => cases hrun
    rename_i mgr hmgr
    cases hrun
    have hsame := SameTimes.run hop hmgr
    refine hsched.wait (hsched.consistent.run hmgr) ?_
      (hsame.onTime hsched.onTime) (GetResetTimeFor_congr hsame.times _ _) before.clock
    unfold InRange
    rw [hsame.queue]
    exact hsched.inRange
  | round now =>
    unfold run at hrun
    dsimp only at hrun
    split at hrun
    · cases hrun
    split at hrun
    case h_2 => cases hrun
    rename_i mgr hmgr
    cases hrun
    exact hsched.round hresets hfits hmgr

end

theorem Scheduled.ended (hsched : Scheduled pair first log) {now : ℕ}
    (hend : log.mgr.updateRound world now = .ok none) : now ≤ log.mgr.resetTime pair := by
  obtain ⟨type, -, -, hqueued⟩ := hsched.onTime.queued
  have hmem : (log.mgr.resetTime pair - ResetTimeDelay (type - 1),
      (⟨type, pair.mapid, pair.difficulty⟩ : InstResetEvent)) ∈
      log.mgr.m_resetTimeQueue.entries := by
    refine mem_of_mem_filter (p := isFor pair.mapid pair.difficulty) ?_
    rw [← eventsOf, hqueued]
    exact mem_singleton_self _
  have hdelay := ResetTimeDelay_nonneg (type - 1)
  have hsorted := log.mgr.m_resetTimeQueue.sorted
  unfold updateRound at hend
  split at hend
  case h_1 hnil =>
    rw [hnil] at hmem
    cases hmem
  rename_i t event rest hentries
  split at hend
  case isFalse =>
    obtain ⟨_, -, hend⟩ := exists_of_bind_ok hend
    cases hend
  case isTrue hge =>
    rw [hentries] at hmem hsorted
    have hle : t ≤ log.mgr.resetTime pair - ResetTimeDelay (type - 1) := by
      rcases mem_cons.mp hmem with heq | hrest
      · exact (congrArg Prod.fst heq).ge
      · exact (pairwise_cons.mp hsorted).1 _ hrest
    omega

theorem Scheduled.punctual (hsched : Scheduled pair first log) : Punctual pair first log :=
  ⟨hsched.after, hsched.once, fun _ hend => hsched.ended hend, fun _ _ hround hno =>
      (@updateRound_saves world pair log.mgr _ _ hsched.consistent hround).2 hno⟩

end ResetLog

open InstanceSaveMgr ResetLog

/-! ## The end of an update -/

namespace InstanceSaveMgr

variable {mgr after : InstanceSaveMgr}

structure AllOnTime (world : InstanceWorld) (mgr : InstanceSaveMgr) : Prop where
  consistent : Consistent mgr
  inRange : mgr.InRange
  onTime : ∀ pair : ResetPair world, mgr.OnTime pair
  pairs : ∀ entry ∈ mgr.m_resetTimeQueue.entries, ∃ pair : ResetPair world,
    isFor pair.mapid pair.difficulty entry = true

def overdue (mgr : InstanceSaveMgr) (now : ℕ) : ℕ :=
  (mgr.m_resetTimeQueue.entries.map fun entry => ((now : ℤ) - entry.1).toNat).sum

theorem AllOnTime.round {now : ℕ} (hall : AllOnTime world mgr)
    (hresets : ∀ pair : ResetPair world, Resets world pair.mapid pair.difficulty pair.mapDiff)
    (hfits : ∀ pair : ResetPair world, mgr.resetTime pair < now →
      laterTime world pair.mapDiff (mgr.resetTime pair) < 2 ^ 32)
    (hround : mgr.updateRound world now = .ok (some after)) :
    AllOnTime world after ∧ after.overdue now < mgr.overdue now := by
  obtain ⟨t, event, rest, hentries, hdue, heffect⟩ := updateRound_cases hround
  have hhead : (t, event) ∈ mgr.m_resetTimeQueue.entries := by
    rw [hentries]
    exact mem_cons_self
  obtain ⟨first, hfirst⟩ := hall.pairs (t, event) hhead
  have hself : ∀ pair : ResetPair world, isFor pair.mapid pair.difficulty (t, event) = true →
      after.OnTime pair ∧ after.Postponed t event rest := by
    intro pair hpair
    obtain ⟨hontime, hpostponed, -⟩ := heffect.self hentries hpair (hresets pair)
      (hall.onTime pair) fun _ ht => hfits pair (ht ▸ hdue)
    exact ⟨hontime, hpostponed⟩
  obtain ⟨key, type, hlt, hqueue⟩ := (hself first hfirst).2
  refine ⟨⟨(@updateRound_saves world first mgr after now hall.consistent hround).1,
    heffect.inRange hentries hall.inRange, fun pair => ?_, fun entry hentry => ?_⟩, ?_⟩
  · cases hpair : isFor pair.mapid pair.difficulty (t, event) with
    | true => exact (hself pair hpair).1
    | false =>
      obtain ⟨hevents, htime⟩ := heffect.other hentries hall.inRange hpair
      obtain ⟨kind, hge, hle, hqueued⟩ := (hall.onTime pair).queued
      exact ⟨⟨kind, hge, hle, by rw [hevents, htime, hqueued]⟩,
        htime ▸ (hall.onTime pair).spaced, htime ▸ (hall.onTime pair).nonneg⟩
  · rw [hqueue] at hentry
    rcases Multimap.mem_insertList.mp hentry with rfl | hold
    · exact ⟨first, hfirst⟩
    refine hall.pairs entry ?_
    rw [hentries]
    exact mem_cons_of_mem _ hold
  · unfold overdue
    rw [hqueue, hentries, ((Multimap.insertList_perm _ _ _).map _).sum_eq, map_cons,
      map_cons, sum_cons, sum_cons]
    omega

theorem updateRound_total (hall : AllOnTime world mgr)
    (hmaps : ∀ pair : ResetPair world, (world.sMapStore pair.mapid).isSome) (now : ℕ) :
    ∃ result, mgr.updateRound world now = .ok result := by
  unfold updateRound
  split
  · exact ⟨none, rfl⟩
  rename_i t event rest hentries
  split
  · exact ⟨none, rfl⟩
  obtain ⟨pair, hpair⟩ := hall.pairs (t, event) (by rw [hentries]; exact mem_cons_self)
  have hmap := hmaps pair
  rw [← (isFor_iff.mp hpair).1] at hmap
  unfold handleEvent
  split
  · exact ⟨_, rfl⟩
  obtain ⟨reset, hreset, -⟩ := @_ResetOrWarnAll_spec world mgr event.mapid
    event.difficulty hall.consistent hmap (event.type < 5)
    (mgr.GetResetTimeFor event.mapid event.difficulty)
  dsimp only
  rw [hreset]
  exact ⟨_, rfl⟩

theorem Update_ends {now : ℕ} (hall : AllOnTime world mgr)
    (hresets : ∀ pair : ResetPair world, Resets world pair.mapid pair.difficulty pair.mapDiff)
    (hclock : ∀ pair : ResetPair world, now + MINUTE + world.period pair.mapDiff +
      world.diff ≤ 2 ^ 32) :
    ∃ rounds after, Update world now rounds mgr = .ok (some after) := by
  induction hmeasure : mgr.overdue now using Nat.strong_induction_on generalizing mgr with
  | _ measure ih =>
    have hmaps : ∀ pair : ResetPair world, (world.sMapStore pair.mapid).isSome := by
      intro pair
      obtain ⟨entry, hentry, -⟩ := (hresets pair).1
      rw [hentry]
      rfl
    have hfits : ∀ pair : ResetPair world, mgr.resetTime pair < now →
        laterTime world pair.mapDiff (mgr.resetTime pair) < 2 ^ 32 := by
      intro pair hlt
      have hle := hclock pair
      unfold MINUTE at hle
      rw [laterTime_eq (hall.onTime pair).nonneg]
      omega
    obtain ⟨result, hresult⟩ := updateRound_total hall hmaps now
    cases result with
    | none =>
      refine ⟨1, mgr, ?_⟩
      unfold Update
      rw [hresult, ok_bind]
    | some next =>
      obtain ⟨hnext, hlt⟩ := hall.round hresets hfits hresult
      obtain ⟨rounds, after, hafter⟩ := ih _ (hmeasure ▸ hlt) hnext rfl
      refine ⟨rounds + 1, after, ?_⟩
      unfold Update
      rw [hresult, ok_bind]
      exact hafter

theorem loadResetTimes_pairs (world : InstanceWorld) (now : ℕ) (rows : List InstanceResetRow) :
    ∀ entry ∈ (InstanceSaveMgr.new.LoadResetTimes world now rows).m_resetTimeQueue.entries,
      ∃ pair : ResetPair world, isFor pair.mapid pair.difficulty entry = true := by
  refine @List.foldlRecOn _ _ (fun state : InstanceSaveMgr =>
    ∀ entry ∈ state.m_resetTimeQueue.entries, ∃ pair : ResetPair world,
      isFor pair.mapid pair.difficulty entry = true)
    world.difficultyOrder (scheduleReset world now) _ ?_ ?_
  · refine @List.foldlRecOn _ _ (fun state : InstanceSaveMgr =>
      ∀ entry ∈ state.m_resetTimeQueue.entries, ∃ pair : ResetPair world,
        isFor pair.mapid pair.difficulty entry = true)
      rows (loadResetTime world) _ nofun ?_
    intro state hstate row _
    rw [loadResetTime_queue]
    exact hstate
  · intro state hstate source hsource event hevent
    have hentries := world.difficultyOrder_perm.mem_iff.mp hsource
    have hkey := world.keys_lt source.1 (List.mem_map_of_mem hentries)
    unfold scheduleReset at hevent
    split at hevent
    · exact hstate event hevent
    rename_i hne
    rcases Multimap.mem_insertList.mp hevent with rfl | hold
    · have hparts : MAKE_PAIR32 (PAIR32_LOPART source.1) (uint8 (PAIR32_HIPART source.1)) =
          source.1 := by
        unfold MAKE_PAIR32 PAIR32_LOPART uint8 PAIR32_HIPART
        omega
      have hdata : world.GetMapDifficultyData (PAIR32_LOPART source.1)
          (uint8 (PAIR32_HIPART source.1)) = some source.2 := by
        rw [InstanceWorld.GetMapDifficultyData, hparts]
        exact StdMap.find?_eq_some_iff.mpr hentries
      exact ⟨⟨_, _, source.2, mod_lt _ (by decide), uint8_lt _, hdata, hne⟩,
        isFor_iff.mpr ⟨rfl, rfl⟩⟩
    · refine hstate event ?_
      split at hold
      · exact hold
      · exact hold

theorem Announced.onTime {now : ℕ} {pair : ResetPair world}
    (hannounced : Announced now pair mgr) : mgr.OnTime pair := by
  have hnonneg : 0 ≤ mgr.resetTime pair := (Int.natCast_nonneg now).trans hannounced.future.le
  exact ⟨hannounced.queued, spaced_of_atHour hnonneg hannounced.atHour, hnonneg⟩

end InstanceSaveMgr

namespace ResetLog

variable {before after : ResetLog}

theorem allOnTime_step {pair : ResetPair world} {op : ResetOp}
    (hall : AllOnTime world before.mgr)
    (hresets : ∀ other : ResetPair world, Resets world other.mapid other.difficulty other.mapDiff)
    (hfits : ∀ other : ResetPair world, Fits other before op)
    (hrun : before.run pair op = some after) : AllOnTime world after.mgr := by
  cases op with
  | call op =>
    unfold run at hrun
    dsimp only at hrun
    split at hrun
    · cases hrun
    rename_i hop
    rw [Bool.not_eq_true] at hop
    split at hrun
    case h_2 => cases hrun
    rename_i mgr hmgr
    cases hrun
    have hsame := SameTimes.run hop hmgr
    have hrange := hall.inRange
    have hpairs := hall.pairs
    unfold InRange at hrange
    rw [← hsame.queue] at hrange hpairs
    exact ⟨hall.consistent.run hmgr, hrange, fun other => hsame.onTime (hall.onTime other), hpairs⟩
  | round now =>
    unfold run at hrun
    dsimp only at hrun
    split at hrun
    · cases hrun
    split at hrun
    case h_2 => cases hrun
    rename_i mgr hmgr
    cases hrun
    exact (hall.round hresets (fun other _ => hfits other) hmgr).1

end ResetLog

/-- After loading, the reset time of a pair is announced properly exactly where the stored time
is well stored; then every run resets an instanceable map after the announced times, once for
each, as long as the next reset time fits into `uint32`. Where this is so for all pairs, each
`Update` of the run ends. -/
theorem resets_are_punctual (pair : ResetPair world) (now : ℕ) (rows : List InstanceResetRow) :
    (Announced now pair (InstanceSaveMgr.new.LoadResetTimes world now rows) ↔
      WellStored now pair (storedTime pair rows)) ∧
    (WellStored now pair (storedTime pair rows) →
      (∃ entry, world.sMapStore pair.mapid = some entry ∧ entry.Instanceable = true) →
      ∀ log, ResetRun pair ⟨InstanceSaveMgr.new.LoadResetTimes world now rows, now, []⟩ log →
        Punctual pair ((InstanceSaveMgr.new.LoadResetTimes world now rows).resetTime pair)
          log) ∧
    ((∀ other : ResetPair world, WellStored now other (storedTime other rows) ∧
        ∃ entry, world.sMapStore other.mapid = some entry ∧ entry.Instanceable = true) →
      ∀ log, Reachable (· = ⟨InstanceSaveMgr.new.LoadResetTimes world now rows, now, []⟩)
        (guarded (fun log op => ∀ other : ResetPair world, Fits other log op)
          (computed (ResetLog.run pair))) log →
        ∀ clock : ℕ, (∀ other : ResetPair world, clock + MINUTE + world.period other.mapDiff +
          world.diff ≤ 2 ^ 32) →
          ∃ rounds after, Update world clock rounds log.mgr = .ok (some after)) := by
  refine ⟨announced_iff pair now rows, fun hstored hmap log hrun => ?_,
    fun hall log hrun clock hclock => ?_⟩
  · have hontime := ((announced_iff pair now rows).mpr hstored).onTime
    refine Scheduled.punctual (hrun.invariant (Scheduled pair _) ?_ ?_)
    · rintro _ rfl
      exact ⟨.LoadResetTimes world now rows, LoadResetTimes_inRange world now rows, hontime,
        nofun, rfl⟩
    · intro before op after hbefore hstep
      exact hbefore.step ⟨hmap, pair.data, pair.resetTime_ne⟩ hstep.1 hstep.2
  · have hresets : ∀ other : ResetPair world,
        Resets world other.mapid other.difficulty other.mapDiff := fun other =>
      ⟨(hall other).2, other.data, other.resetTime_ne⟩
    refine Update_ends (hrun.invariant (fun log => AllOnTime world log.mgr) ?_ ?_) hresets hclock
    · rintro _ rfl
      exact ⟨.LoadResetTimes world now rows, LoadResetTimes_inRange world now rows,
        fun other => ((announced_iff other now rows).mpr (hall other).1).onTime,
        loadResetTimes_pairs world now rows⟩
    · intro before op after hbefore hstep
      exact allOnTime_step hbefore hresets hstep.1 hstep.2

def raidWorld : InstanceWorld where
  sMapStore mapid := if mapid = 533 then some ⟨.MAP_RAID⟩ else none
  sMapDifficultyMap := StdMap.empty.insert 533 ⟨604800⟩
  keys_lt key hkey := by
    rcases StdMap.mem_insert.mp hkey with rfl | hempty
    · decide
    · exact absurd hempty (StdMap.not_mem_empty _)
  CONFIG_INSTANCE_SHARED_ID := false
  CONFIG_INSTANCE_RESET_TIME_HOUR := 4
  scaledResetTime resetTime := resetTime
  difficultyOrder := [(533, ⟨604800⟩)]
  difficultyOrder_perm := .refl _
  saveOrder saves := saves.entries
  saveOrder_perm _ := .refl _
  bindOrder binds := binds.entries
  bindOrder_perm _ := .refl _

def raidPair : ResetPair raidWorld :=
  ⟨533, 0, ⟨604800⟩, by decide, by decide, rfl, by decide⟩

def raidStart : ResetLog := ⟨InstanceSaveMgr.new.LoadResetTimes raidWorld 1000000 [], 1000000, []⟩

def raidRounds : List ResetOp := List.replicate 5 (.round 1569601)

theorem raidRounds_end : ∃ log, raidRounds.foldlM
    (tested (Fits raidPair) (ResetLog.run raidPair)) raidStart = some log ∧
    log.resets = [⟨1569600, 1569601, 2174400⟩] :=
  ⟨_, rfl, rfl⟩

/-- The reset is after the time that was announced for it. -/
theorem raid_is_reset_in_time : ∃ log, ResetRun raidPair raidStart log ∧
    log.resets = [⟨1569600, 1569601, 2174400⟩] ∧ (1569600 : ℤ) < (1569601 : ℕ) := by
  obtain ⟨log, hfold, hresets⟩ := raidRounds_end
  have hrun : ResetRun raidPair raidStart log := Reachable.tested_foldlM (.start rfl) hfold
  have hpunctual := (resets_are_punctual raidPair 1000000 []).2.1
    (.inl ⟨rfl, by decide⟩) ⟨⟨.MAP_RAID⟩, rfl, rfl⟩ log hrun
  refine ⟨log, hrun, hresets, ?_⟩
  exact (hpunctual.after ⟨1569600, 1569601, 2174400⟩
    (by rw [hresets]; exact mem_singleton_self _)).1

def passedTime : InstanceResetRow := ⟨533, 0, 1000⟩

def passedStart : ResetLog :=
  ⟨InstanceSaveMgr.new.LoadResetTimes raidWorld 1000000 [passedTime], 1000000, []⟩

/-- The passed time stays announced. At 1221401, an hour before the time that the event was
queued for, the raid is reset three times, the last time before its reset time. -/
theorem passed_time_is_kept : ¬ (∀ rows, Announced 1000000 raidPair
      (InstanceSaveMgr.new.LoadResetTimes raidWorld 1000000 rows)) ∧
    ∃ log, ResetRun raidPair passedStart log ∧ log.resets =
      [⟨1000, 1221401, 619200⟩, ⟨619200, 1221401, 1224000⟩, ⟨1224000, 1221401, 1828800⟩] ∧
      ¬ (1224000 : ℤ) < (1221401 : ℕ) := by
  refine ⟨fun hall => ?_, ?_⟩
  · have hfuture := (hall [passedTime]).future
    exact absurd hfuture (by decide)
  · have hrounds : ∃ log, (List.replicate 7 (ResetOp.round 1221401)).foldlM
        (tested (Fits raidPair) (ResetLog.run raidPair)) passedStart = some log ∧
        log.resets = [⟨1000, 1221401, 619200⟩, ⟨619200, 1221401, 1224000⟩,
          ⟨1224000, 1221401, 1828800⟩] := ⟨_, rfl, rfl⟩
    obtain ⟨log, hfold, hresets⟩ := hrounds
    exact ⟨log, Reachable.tested_foldlM (.start rfl) hfold, hresets, by decide⟩

end AzerothCore.Instances
