import AzerothCore.Common.Define
import Mathlib.Data.Finset.Max

/-!
# Client ids and scheduled updates of battlegrounds

`BattlegroundMgr` numbers the battlegrounds of one type and bracket for the client, and runs the
queue updates that were scheduled since its last update.
-/

namespace AzerothCore.Battlegrounds.BattlegroundMgr
open List

/-! ## The ids that clients see -/

inductive BattlegroundTypeId
  | BATTLEGROUND_TYPE_NONE | BATTLEGROUND_AV | BATTLEGROUND_WS | BATTLEGROUND_AB
  | BATTLEGROUND_NA | BATTLEGROUND_BE | BATTLEGROUND_AA | BATTLEGROUND_EY | BATTLEGROUND_RL
  | BATTLEGROUND_SA | BATTLEGROUND_DS | BATTLEGROUND_RV | BATTLEGROUND_IC | BATTLEGROUND_RB

def IsArenaType : BattlegroundTypeId → Bool
  | .BATTLEGROUND_AA | .BATTLEGROUND_BE | .BATTLEGROUND_NA | .BATTLEGROUND_DS | .BATTLEGROUND_RV
  | .BATTLEGROUND_RL => true
  | _ => false

/-- What there is of one type and bracket. A battleground has its instance id and its client
id; the template is left out. -/
structure BattlegroundData where
  _Battlegrounds : List (ℕ × ℕ)
  _ClientBattlegroundIds : Finset ℕ

/-- The loop over the ids in use. Its iterator stays at the `first` one. -/
def walk (first lastId : ℕ) : ℕ :=
  if lastId + 1 = first then walk first first else lastId + 1
termination_by if lastId + 1 = first then 1 else 0
decreasing_by simp [*]

def CreateClientVisibleInstanceId (bgTypeId : BattlegroundTypeId) (clientIds : Finset ℕ) :
    ℕ × Finset ℕ :=
  if IsArenaType bgTypeId then (0, clientIds)
  else
    let lastId := if hids : clientIds.Nonempty then walk (clientIds.min' hids) 0 else 0
    (lastId + 1, insert (lastId + 1) clientIds)

def deleteOne (bgData : BattlegroundData) (bg : ℕ × ℕ) : BattlegroundData where
  _Battlegrounds := bgData._Battlegrounds.erase bg
  _ClientBattlegroundIds :=
    if bgData._ClientBattlegroundIds.Nonempty then bgData._ClientBattlegroundIds.erase bg.2
    else bgData._ClientBattlegroundIds

/-- The part of `Update` that deletes the battlegrounds which are over. -/
def Update (bgData : BattlegroundData) (ToBeDeleted : ℕ → Bool) : BattlegroundData :=
  (bgData._Battlegrounds.filter (ToBeDeleted ·.1)).foldl deleteOne bgData

inductive Event
  | create (instanceId : ℕ)
  | update (ToBeDeleted : ℕ → Bool)

variable (bgTypeId : BattlegroundTypeId)

def step (bgData : BattlegroundData) : Event → BattlegroundData
  | .create instanceId =>
    let (id, clientIds) := CreateClientVisibleInstanceId bgTypeId bgData._ClientBattlegroundIds
    ⟨bgData._Battlegrounds ++ [(instanceId, id)], clientIds⟩
  | .update ToBeDeleted => Update bgData ToBeDeleted

def run (events : List Event) : BattlegroundData := events.foldl (step bgTypeId) ⟨[], ∅⟩

def inUse (bgData : BattlegroundData) : List ℕ := bgData._Battlegrounds.map Prod.snd

def GivesLowest (bgData : BattlegroundData) : Prop :=
  IsLeast {id | 0 < id ∧ id ∉ inUse bgData}
    (CreateClientVisibleInstanceId bgTypeId bgData._ClientBattlegroundIds).1

def Single (bgData : BattlegroundData) : Prop :=
  bgData = ⟨[], ∅⟩ ∨ ∃ instanceId, bgData = ⟨[(instanceId, 1)], {1}⟩

variable {bgTypeId}

theorem create_first (htype : IsArenaType bgTypeId = false) :
    CreateClientVisibleInstanceId bgTypeId ∅ = (1, {1}) := by
  simp [CreateClientVisibleInstanceId, htype]

theorem create_second (htype : IsArenaType bgTypeId = false) :
    (CreateClientVisibleInstanceId bgTypeId {1}).1 = 3 := by
  simp [CreateClientVisibleInstanceId, htype, walk]

theorem givesLowest_iff {bgData : BattlegroundData} (hsingle : Single bgData) :
    GivesLowest bgTypeId bgData ↔
      IsArenaType bgTypeId = false ∧ bgData._ClientBattlegroundIds = ∅ := by
  cases htype : IsArenaType bgTypeId with
  | true => simp [GivesLowest, CreateClientVisibleInstanceId, htype, IsLeast]
  | false =>
    obtain rfl | ⟨instanceId, rfl⟩ := hsingle
    · rw [GivesLowest, create_first htype]
      exact iff_of_true ⟨⟨Nat.one_pos, List.not_mem_nil⟩, fun id hid => hid.1⟩ ⟨rfl, rfl⟩
    · rw [GivesLowest, create_second htype]
      refine iff_of_false (fun hleast => ?_) (by simp)
      have htwo : 3 ≤ 2 := hleast.2 ⟨by decide, by simp [inUse]⟩
      exact absurd htwo (by decide)

theorem step_single {bgData : BattlegroundData} (hsingle : Single bgData) (event : Event)
    (hcreate : ∀ instanceId, event = .create instanceId → GivesLowest bgTypeId bgData) :
    Single (step bgTypeId bgData event) := by
  cases event with
  | create instanceId =>
    have hmeets := (givesLowest_iff hsingle).mp (hcreate instanceId rfl)
    obtain rfl | ⟨other, rfl⟩ := hsingle
    · rw [step, create_first hmeets.1]
      exact .inr ⟨instanceId, rfl⟩
    · exact absurd hmeets.2 (by simp)
  | update ToBeDeleted =>
    obtain rfl | ⟨other, rfl⟩ := hsingle
    · exact .inl rfl
    · cases hdeleted : ToBeDeleted other with
      | true => simp [step, Update, hdeleted, deleteOne, Single]
      | false => simp [step, Update, hdeleted, Single]

theorem run_single {events : List Event}
    (hcreate : ∀ before instanceId, before ++ [.create instanceId] <+: events →
      Single (run bgTypeId before) → GivesLowest bgTypeId (run bgTypeId before))
    {before : List Event} (hbefore : before <+: events) : Single (run bgTypeId before) := by
  induction before using reverseRecOn with
  | nil => exact .inl rfl
  | append_singleton before event ih =>
    have hsingle := ih ((prefix_append before [event]).trans hbefore)
    rw [run, foldl_append]
    refine step_single hsingle event fun instanceId hevent => ?_
    exact hcreate before instanceId (hevent ▸ hbefore) hsingle

/-- Every new battleground is given the lowest free id and the ids in use stay distinct, in
just the runs where no client id is in use when a battleground is created. -/
theorem lowest_id_iff (bgTypeId : BattlegroundTypeId) (events : List Event) :
    ((∀ before instanceId, before ++ [.create instanceId] <+: events →
        GivesLowest bgTypeId (run bgTypeId before)) ∧
      ∀ before, before <+: events → (inUse (run bgTypeId before)).Nodup) ↔
    ∀ before instanceId, before ++ [.create instanceId] <+: events →
      IsArenaType bgTypeId = false ∧ (run bgTypeId before)._ClientBattlegroundIds = ∅ := by
  constructor
  · intro hruns before instanceId hcreate
    have hsingle := run_single (fun other id hother _ => hruns.1 other id hother)
      ((prefix_append before [.create instanceId]).trans hcreate)
    exact (givesLowest_iff hsingle).mp (hruns.1 before instanceId hcreate)
  · intro hmeets
    have hsingle {before} (hbefore : before <+: events) : Single (run bgTypeId before) :=
      run_single (fun other id hother hsingle =>
        (givesLowest_iff hsingle).mpr (hmeets other id hother)) hbefore
    refine ⟨fun before instanceId hcreate => ?_, fun before hbefore => ?_⟩
    · exact (givesLowest_iff (hsingle ((prefix_append before _).trans hcreate))).mpr
        (hmeets before instanceId hcreate)
    · obtain heq | ⟨instanceId, heq⟩ := hsingle hbefore <;> simp [heq, inUse]

theorem third_has_id_of_second :
    inUse (run .BATTLEGROUND_WS [.create 1, .create 2, .create 3]) = [1, 3, 3] ∧
      ¬ (inUse (run .BATTLEGROUND_WS [.create 1, .create 2, .create 3])).Nodup := by
  simp [run, step, CreateClientVisibleInstanceId, walk, IsArenaType, inUse]

/-! ## Scheduled updates of the queues -/

/-- The arguments of a call of `ScheduleQueueUpdate`. -/
structure QueueUpdate where
  arenaMatchmakerRating : UInt32
  arenaType : UInt8
  bgQueueTypeId : UInt8
  bgTypeId : UInt8
  bracket_id : UInt8
deriving DecidableEq

namespace QueueUpdate

def scheduleId (update : QueueUpdate) : ℕ :=
  update.arenaMatchmakerRating.toNat <<< 32 ||| update.arenaType.toNat <<< 24 |||
    update.bgQueueTypeId.toNat <<< 16 ||| update.bgTypeId.toNat <<< 8 ||| update.bracket_id.toNat

/-- What the loop of `Update` reads from a number in the schedule. -/
def ofScheduled (scheduled : ℕ) : QueueUpdate where
  arenaMatchmakerRating := .ofNat (scheduled >>> 32)
  arenaType := .ofNat (scheduled >>> 24 &&& 255)
  bgQueueTypeId := .ofNat (scheduled >>> 16 &&& 255)
  bgTypeId := .ofNat (scheduled >>> 8 &&& 255)
  bracket_id := .ofNat (scheduled &&& 255)

theorem ofScheduled_scheduleId (update : QueueUpdate) : ofScheduled update.scheduleId = update := by
  have hrating := update.arenaMatchmakerRating.toNat_lt
  have harena := update.arenaType.toNat_lt
  have hqueue := update.bgQueueTypeId.toNat_lt
  have htype := update.bgTypeId.toNat_lt
  have hbracket := update.bracket_id.toNat_lt
  have hid : update.scheduleId = update.arenaMatchmakerRating.toNat * 2 ^ 32 +
      update.arenaType.toNat * 2 ^ 24 + update.bgQueueTypeId.toNat * 2 ^ 16 +
      update.bgTypeId.toNat * 2 ^ 8 + update.bracket_id.toNat := by
    rw [scheduleId, Nat.or_assoc, Nat.or_assoc, Nat.or_assoc,
      ← Nat.shiftLeft_add_eq_or_of_lt hbracket,
      ← Nat.shiftLeft_add_eq_or_of_lt (i := 16) (by omega),
      ← Nat.shiftLeft_add_eq_or_of_lt (i := 24) (by omega),
      ← Nat.shiftLeft_add_eq_or_of_lt (i := 32) (by omega)]
    omega
  have hmask (n : ℕ) : n &&& 255 = n % 2 ^ 8 := Nat.and_two_pow_sub_one_eq_mod n 8
  have hbyte {n : ℕ} (byte : UInt8) (hn : n % 2 ^ 8 = byte.toNat) :
      UInt8.ofNat (n &&& 255) = byte := by
    rw [hmask, hn, UInt8.ofNat_toNat]
  have hword : update.scheduleId >>> 32 = update.arenaMatchmakerRating.toNat := by omega
  rw [ofScheduled, hword, UInt32.ofNat_toNat, hbyte update.arenaType (by omega),
    hbyte update.bgQueueTypeId (by omega), hbyte update.bgTypeId (by omega),
    hbyte update.bracket_id (by omega)]

theorem scheduleId_injective : Function.Injective scheduleId :=
  Function.LeftInverse.injective ofScheduled_scheduleId

end QueueUpdate

open QueueUpdate

/-- What the updates of a queue change is some `world`; `ran` are the calls of
`BattlegroundQueueUpdate` so far. -/
structure Mgr (W : Type*) where
  m_QueueUpdateScheduler : List ℕ
  world : W
  ran : List QueueUpdate

def ScheduleQueueUpdate (m_QueueUpdateScheduler : List ℕ) (update : QueueUpdate) : List ℕ :=
  if update.scheduleId ∈ m_QueueUpdateScheduler then m_QueueUpdateScheduler
  else m_QueueUpdateScheduler ++ [update.scheduleId]

def schedule (requests : List QueueUpdate) : List ℕ := requests.foldl ScheduleQueueUpdate []

variable {W : Type*} (queueUpdate : QueueUpdate → W → W × List QueueUpdate)

/-- The body of the loop. An update of a queue may schedule others. -/
def runScheduled (mgr : Mgr W) (scheduled : ℕ) : Mgr W :=
  let (world, requests) := queueUpdate (ofScheduled scheduled) mgr.world
  ⟨requests.foldl ScheduleQueueUpdate mgr.m_QueueUpdateScheduler, world,
    mgr.ran ++ [ofScheduled scheduled]⟩

/-- The index `i` is a `uint8`. -/
def loop (scheduled : List ℕ) : ℕ → ℕ → Mgr W → Option (Mgr W)
  | 0, _, _ => none
  | fuel + 1, i, mgr =>
    if hi : i < scheduled.length then
      loop scheduled fuel (uint8 (i + 1)) (runScheduled queueUpdate mgr scheduled[i])
    else some mgr

def UpdateScheduled (fuel : ℕ) (mgr : Mgr W) : Option (Mgr W) :=
  if mgr.m_QueueUpdateScheduler.isEmpty then some mgr
  else loop queueUpdate mgr.m_QueueUpdateScheduler fuel 0 { mgr with m_QueueUpdateScheduler := [] }

def requestedBy : List QueueUpdate → W → List QueueUpdate
  | [], _ => []
  | update :: updates, world =>
    (queueUpdate update world).2 ++ requestedBy updates (queueUpdate update world).1

theorem schedule_spec (requests : List QueueUpdate) :
    ∃ updates : List QueueUpdate, schedule requests = updates.map scheduleId ∧ updates.Nodup ∧
      ∀ update, update ∈ updates ↔ update ∈ requests := by
  induction requests using reverseRecOn with
  | nil => exact ⟨[], rfl, nodup_nil, fun _ => .rfl⟩
  | append_singleton requests last ih =>
    obtain ⟨updates, hschedule, hnodup, hmem⟩ := ih
    rw [schedule, foldl_append, ← schedule, hschedule, foldl_cons, foldl_nil, ScheduleQueueUpdate]
    by_cases hlast : last ∈ updates
    · refine ⟨updates, if_pos (mem_map_of_mem hlast), hnodup, fun update => ?_⟩
      rw [mem_append, ← hmem, mem_singleton]
      exact ⟨.inl, fun hor => hor.elim id (· ▸ hlast)⟩
    · have hid := mt (mem_map_of_injective scheduleId_injective).mp hlast
      refine ⟨updates ++ [last], by rw [if_neg hid, map_append, map_singleton], ?_, ?_⟩
      · exact hnodup.append (nodup_singleton last) (disjoint_singleton.mpr hlast)
      · simp [hmem]

theorem length_schedule (requests : List QueueUpdate) :
    (schedule requests).length = requests.toFinset.card := by
  obtain ⟨updates, hschedule, hnodup, hmem⟩ := schedule_spec requests
  rw [hschedule, length_map, ← toFinset_card_of_nodup hnodup]
  congr 1
  ext update
  rw [mem_toFinset, mem_toFinset, hmem]

theorem loop_ends (updates done : List QueueUpdate) (mgr : Mgr W)
    (hlength : (done ++ updates).length < 256) :
    loop queueUpdate ((done ++ updates).map scheduleId) (updates.length + 1) done.length mgr =
      some (updates.foldl (fun mgr update => runScheduled queueUpdate mgr update.scheduleId)
        mgr) := by
  induction updates generalizing done mgr with
  | nil => simp [loop]
  | cons update updates ih =>
    have hnext : uint8 (done.length + 1) = (done ++ [update]).length := by
      rw [length_append, length_singleton]
      exact uint8_of_lt (by rw [length_append, length_cons] at hlength; omega)
    have hi : done.length < ((done ++ update :: updates).map scheduleId).length := by simp
    have hupdate : ((done ++ update :: updates).map scheduleId)[done.length] =
        update.scheduleId := by simp
    have hih := ih (done ++ [update]) (runScheduled queueUpdate mgr update.scheduleId)
    rw [append_assoc, singleton_append] at hih
    rw [loop, dif_pos hi, hnext, hupdate]
    exact hih hlength

theorem loop_never_ends {scheduled : List ℕ} (hlength : 256 ≤ scheduled.length) (fuel i : ℕ)
    (hi : i < 256) (mgr : Mgr W) : loop queueUpdate scheduled fuel i mgr = none := by
  induction fuel generalizing i mgr with
  | zero => rfl
  | succ fuel ih =>
    rw [loop, dif_pos (by omega)]
    exact ih _ (uint8_lt (i + 1)) _

theorem foldl_runScheduled (updates : List QueueUpdate) (mgr : Mgr W) :
    ∃ world, updates.foldl (fun mgr update => runScheduled queueUpdate mgr update.scheduleId) mgr =
      ⟨(requestedBy queueUpdate updates mgr.world).foldl ScheduleQueueUpdate
        mgr.m_QueueUpdateScheduler, world, mgr.ran ++ updates⟩ := by
  induction updates generalizing mgr with
  | nil => exact ⟨mgr.world, by simp [requestedBy]⟩
  | cons update updates ih =>
    obtain ⟨world, heq⟩ := ih (runScheduled queueUpdate mgr update.scheduleId)
    refine ⟨world, heq.trans ?_⟩
    simp [runScheduled, ofScheduled_scheduleId, requestedBy]

theorem updateScheduled_succ (fuel : ℕ) (mgr : Mgr W) :
    UpdateScheduled queueUpdate (fuel + 1) mgr = loop queueUpdate mgr.m_QueueUpdateScheduler
      (fuel + 1) 0 { mgr with m_QueueUpdateScheduler := [] } := by
  obtain ⟨_ | _, _, _⟩ := mgr <;> simp [UpdateScheduled, loop]

theorem update_never_ends {requests : List QueueUpdate} (hlength : 256 ≤ requests.toFinset.card)
    (fuel : ℕ) (world : W) :
    UpdateScheduled queueUpdate fuel ⟨schedule requests, world, []⟩ = none := by
  rw [← length_schedule] at hlength
  have hsome : schedule requests ≠ [] := by
    rintro hnil
    exact absurd hlength (hnil ▸ by decide)
  rw [UpdateScheduled, if_neg (by simpa using hsome)]
  exact loop_never_ends queueUpdate hlength fuel 0 (Nat.zero_lt_succ _) _

/-- All of the scheduled updates run once, with the values they were scheduled with, just when
there are less than 256 of them. -/
theorem update_ends_iff (requests : List QueueUpdate) (world : W) :
    (∃ fuel mgr, UpdateScheduled queueUpdate fuel ⟨schedule requests, world, []⟩ = some mgr ∧
      mgr.ran.Nodup ∧ (∀ update, update ∈ mgr.ran ↔ update ∈ requests) ∧
      mgr.m_QueueUpdateScheduler = schedule (requestedBy queueUpdate mgr.ran world)) ↔
    requests.toFinset.card < 256 := by
  constructor
  · rintro ⟨fuel, mgr, hupdate, -⟩
    by_contra hlength
    rw [update_never_ends queueUpdate (not_lt.mp hlength)] at hupdate
    exact Option.some_ne_none mgr hupdate.symm
  · intro hlength
    obtain ⟨updates, hschedule, hnodup, hmem⟩ := schedule_spec requests
    obtain ⟨last, hlast⟩ := foldl_runScheduled queueUpdate updates ⟨[], world, []⟩
    rw [← length_schedule, hschedule, length_map] at hlength
    refine ⟨updates.length + 1, ⟨schedule (requestedBy queueUpdate updates world), last, updates⟩,
      ?_, hnodup, hmem, rfl⟩
    rw [updateScheduled_succ, hschedule]
    exact (loop_ends queueUpdate updates [] _ hlength).trans (congrArg some hlast)

theorem never_ends_with_ratings : ¬ ∃ fuel mgr, UpdateScheduled (fun _ _ => ((), []))
    fuel ⟨schedule ((range 256).map (⟨.ofNat ·, 2, 8, 6, 14⟩)), (), []⟩ = some mgr := by
  rintro ⟨fuel, mgr, hupdate⟩
  refine Option.some_ne_none mgr (hupdate.symm.trans (update_never_ends _ ?_ fuel ()))
  rw [toFinset_card_of_nodup, length_map, length_range]
  refine nodup_range.map_on fun rating hrating other hother heq => ?_
  have hof := congrArg UInt32.toNat (QueueUpdate.mk.inj heq).1
  rw [mem_range] at hrating hother
  rwa [UInt32.toNat_ofNat_of_lt' (hrating.trans (by decide)),
    UInt32.toNat_ofNat_of_lt' (hother.trans (by decide))] at hof

end AzerothCore.Battlegrounds.BattlegroundMgr
