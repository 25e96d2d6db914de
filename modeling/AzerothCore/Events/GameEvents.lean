import AzerothCore.Common.Define

/-!
# Times of game events

`CheckOneGameEvent` says whether an event is active, and `NextCheck` when to ask again. An
event occurs after its start, but `NextCheck` takes the start itself for a part of it.
-/

namespace AzerothCore.GameEvents

def MINUTE : ℕ := 60

def max_ge_check_delay : ℕ := 24 * 60 * MINUTE

inductive GameEventState
  | GAMEEVENT_NORMAL
  | GAMEEVENT_WORLD_INACTIVE
  | GAMEEVENT_WORLD_CONDITIONS
  | GAMEEVENT_WORLD_NEXTPHASE
  | GAMEEVENT_WORLD_FINISHED
  | GAMEEVENT_INTERNAL
deriving DecidableEq

structure GameEventData where
  start : ℤ
  «end» : ℤ
  nextstart : ℤ := 0
  /-- In minutes, as `length`. -/
  occurence : ℕ
  length : ℕ
  state : GameEventState := .GAMEEVENT_NORMAL
  prerequisite_events : List ℕ := []

/-- `occurence * MINUTE` -/
def GameEventData.period (event : GameEventData) : ℤ := uint32 (event.occurence * MINUTE)

/-- `length * MINUTE` -/
def GameEventData.duration (event : GameEventData) : ℤ := uint32 (event.length * MINUTE)

def CheckOneGameEvent (mGameEvent : ℕ → GameEventData) (currenttime : ℤ) (entry : ℕ) : Bool :=
  let event := mGameEvent entry
  match event.state with
  | .GAMEEVENT_NORMAL =>
    event.start < currenttime ∧ currenttime < event.end ∧
      (currenttime - event.start) % event.period < event.duration
  | .GAMEEVENT_WORLD_CONDITIONS | .GAMEEVENT_WORLD_NEXTPHASE => true
  | .GAMEEVENT_WORLD_FINISHED | .GAMEEVENT_INTERNAL => false
  | .GAMEEVENT_WORLD_INACTIVE =>
    (event.prerequisite_events.all fun prerequisite =>
      ((mGameEvent prerequisite).state = .GAMEEVENT_WORLD_NEXTPHASE ∨
        (mGameEvent prerequisite).state = .GAMEEVENT_WORLD_FINISHED) ∧
      (mGameEvent prerequisite).nextstart ≤ currenttime) ∧ event.prerequisite_events ≠ []

def NextCheck (event : GameEventData) (currenttime : ℤ) : ℕ :=
  if (event.state = .GAMEEVENT_WORLD_NEXTPHASE ∨ event.state = .GAMEEVENT_WORLD_FINISHED) ∧
      currenttime ≤ event.nextstart then
    toUint32 (event.nextstart - currenttime)
  else if event.state = .GAMEEVENT_WORLD_CONDITIONS then
    if event.length ≠ 0 then uint32 (event.length * 60) else max_ge_check_delay
  else if event.end < currenttime then max_ge_check_delay
  else if currenttime < event.start then toUint32 (event.start - currenttime)
  else
    let inPeriod := (currenttime - event.start) % event.period
    let delay :=
      if inPeriod < event.duration then toUint32 (event.duration - inPeriod)
      else toUint32 (event.period - inPeriod)
    if event.end < currenttime + delay then toUint32 (event.end - currenttime) else delay

variable {mGameEvent : ℕ → GameEventData} {entry : ℕ} {currenttime time : ℤ}

/-- What the loader accepts of a normal event, with products that fit an `int32`. -/
structure GameEventData.Valid (event : GameEventData) : Prop where
  state : event.state = .GAMEEVENT_NORMAL
  occurence : 1 ≤ event.occurence
  length : 1 ≤ event.length
  ordered : event.start ≤ event.end
  period_lt : event.occurence * MINUTE < 2 ^ 31
  duration_lt : event.length * MINUTE < 2 ^ 31

theorem toUint32_eq {value : ℤ} (hpos : 0 ≤ value) (hlt : value < 2 ^ 31) :
    (toUint32 value : ℤ) = value := by
  unfold toUint32
  omega

theorem check_eq_true_iff (hvalid : (mGameEvent entry).Valid) :
    CheckOneGameEvent mGameEvent time entry = true ↔
      (mGameEvent entry).start < time ∧ time < (mGameEvent entry).end ∧
        (time - (mGameEvent entry).start) % (mGameEvent entry).period <
          (mGameEvent entry).duration := by
  unfold CheckOneGameEvent
  dsimp only
  rw [hvalid.state]
  exact decide_eq_true_iff

def Steady (mGameEvent : ℕ → GameEventData) (entry : ℕ) (currenttime : ℤ) : Prop :=
  ∀ time, currenttime ≤ time → time < currenttime + NextCheck (mGameEvent entry) currenttime →
    CheckOneGameEvent mGameEvent time entry = CheckOneGameEvent mGameEvent currenttime entry

/-- The second in which the event starts, if it lasts for another one. -/
def GameEventData.Starts (event : GameEventData) (currenttime : ℤ) : Prop :=
  currenttime = event.start ∧ event.start + 1 < event.end

section

variable {event : GameEventData} (hvalid : event.Valid)
include hvalid

theorem GameEventData.Valid.bounds :
    60 ≤ event.period ∧ event.period < 2 ^ 31 ∧ 60 ≤ event.duration ∧ event.duration < 2 ^ 31 := by
  obtain ⟨-, hoccurence, hlength, -, hperiod, hduration⟩ := hvalid
  unfold period duration
  rw [uint32_of_lt (by omega), uint32_of_lt (by omega)]
  unfold MINUTE at *
  omega

theorem nextCheck_eq (hstart : event.start ≤ currenttime) (hend : currenttime ≤ event.end) :
    (NextCheck event currenttime : ℤ) = min (event.end - currenttime)
      (if (currenttime - event.start) % event.period < event.duration then
        event.duration - (currenttime - event.start) % event.period
      else event.period - (currenttime - event.start) % event.period) := by
  obtain ⟨hpos, hperiod, -, hduration⟩ := hvalid.bounds
  have hnonneg : 0 ≤ (currenttime - event.start) % event.period := Int.emod_nonneg _ (by omega)
  have hmod : (currenttime - event.start) % event.period < event.period :=
    Int.emod_lt_of_pos _ (by omega)
  unfold NextCheck
  rw [hvalid.state, if_neg (by simp), if_neg (by simp), if_neg (Int.not_lt.mpr hend),
    if_neg (Int.not_lt.mpr hstart)]
  dsimp only
  generalize (currenttime - event.start) % event.period = inPeriod at hnonneg hmod ⊢
  by_cases hin : inPeriod < event.duration
  · rw [if_pos hin, if_pos hin]
    have hdelay := @toUint32_eq (event.duration - inPeriod) (by omega) (by omega)
    split
    · rw [toUint32_eq (by omega) (by omega)]
      omega
    · omega
  · rw [if_neg hin, if_neg hin]
    have hdelay := @toUint32_eq (event.period - inPeriod) (by omega) (by omega)
    split
    · rw [toUint32_eq (by omega) (by omega)]
      omega
    · omega

theorem inWindow_iff
    (hstart : event.start ≤ currenttime) (hend : currenttime ≤ event.end) (hle : currenttime ≤ time)
    (hlt : time < currenttime + NextCheck event currenttime) :
    (time - event.start) % event.period < event.duration ↔
      (currenttime - event.start) % event.period < event.duration := by
  obtain ⟨hpos, -⟩ := hvalid.bounds
  have hnonneg : 0 ≤ (currenttime - event.start) % event.period := Int.emod_nonneg _ (by omega)
  have hshift : (time - event.start) % event.period =
      ((currenttime - event.start) % event.period + (time - currenttime)) % event.period := by
    rw [Int.emod_add_emod]
    congr 1
    omega
  rw [nextCheck_eq hvalid hstart hend] at hlt
  rw [hshift]
  generalize (currenttime - event.start) % event.period = inPeriod at hnonneg hlt ⊢
  by_cases hin : inPeriod < event.duration
  · rw [if_pos hin] at hlt
    refine iff_of_true ?_ hin
    by_cases hwrap : inPeriod + (time - currenttime) < event.period
    · rw [Int.emod_eq_of_lt (by omega) hwrap]
      omega
    · have hlast := Int.emod_lt_of_pos (inPeriod + (time - currenttime)) (by omega : 0 < event.period)
      omega
  · rw [if_neg hin] at hlt
    refine iff_of_false ?_ hin
    rw [Int.emod_eq_of_lt (by omega) (by omega)]
    omega

end

theorem steady_iff (hvalid : (mGameEvent entry).Valid) :
    Steady mGameEvent entry currenttime ↔ ¬(mGameEvent entry).Starts currenttime := by
  have hbounds := hvalid.bounds
  constructor
  · rintro hsteady ⟨rfl, hlonger⟩
    have hnext := nextCheck_eq hvalid (Int.le_refl _) hvalid.ordered
    rw [Int.sub_self, Int.zero_emod, if_pos (by omega)] at hnext
    have hsame := hsteady ((mGameEvent entry).start + 1) (by omega) (by omega)
    rw [Bool.eq_iff_iff, check_eq_true_iff hvalid, check_eq_true_iff hvalid] at hsame
    have hwindow := inWindow_iff hvalid (Int.le_refl _) hvalid.ordered
      (by omega : (mGameEvent entry).start ≤ (mGameEvent entry).start + 1) (by omega)
    rw [Int.sub_self, Int.zero_emod] at hwindow
    exact absurd (hsame.mp ⟨by omega, hlonger, hwindow.mpr (by omega)⟩).1 (Int.lt_irrefl _)
  · intro hstarts time hle hlt
    rw [Bool.eq_iff_iff, check_eq_true_iff hvalid, check_eq_true_iff hvalid]
    by_cases hend : (mGameEvent entry).end < currenttime
    · omega
    by_cases hstart : currenttime < (mGameEvent entry).start
    · have hnext : (NextCheck (mGameEvent entry) currenttime : ℤ) ≤
          (mGameEvent entry).start - currenttime := by
        unfold NextCheck
        rw [hvalid.state, if_neg (by simp), if_neg (by simp), if_neg hend, if_pos hstart]
        unfold toUint32
        omega
      omega
    have hnext := nextCheck_eq hvalid (Int.not_lt.mp hstart) (Int.not_lt.mp hend)
    rw [inWindow_iff hvalid (Int.not_lt.mp hstart) (Int.not_lt.mp hend) hle hlt]
    unfold GameEventData.Starts at hstarts
    omega

/-- `Update` comes back at most a second after the next check. -/
def Updates (event : GameEventData) (times : ℕ → ℤ) : Prop :=
  ∀ round, times (round + 1) ≤ times round + NextCheck event (times round) + 1

def Observes (mGameEvent : ℕ → GameEventData) (entry : ℕ) (times : ℕ → ℤ) : Prop :=
  ∀ first last active, first + 1 < last →
    (∀ time, first ≤ time → time < last → CheckOneGameEvent mGameEvent time entry = active) →
    CheckOneGameEvent mGameEvent (first - 1) entry ≠ active → times 0 < last →
    (∃ round, first ≤ times round) → ∃ round, first ≤ times round ∧ times round < last

theorem observes_of_steady {times : ℕ → ℤ} (hupdates : Updates (mGameEvent entry) times)
    (hsteady : ∀ round, Steady mGameEvent entry (times round)) :
    Observes mGameEvent entry times := by
  rintro first last active hlong hactive hbefore hbegin ⟨round, hround⟩
  induction round with
  | zero => exact ⟨0, hround, hbegin⟩
  | succ round ih =>
    by_cases hpast : first ≤ times round
    · exact ih hpast
    by_cases hin : times (round + 1) < last
    · exact ⟨round + 1, hround, hin⟩
    -- the answer at the update before holds up to the change, and behind it
    have hnext := hupdates round
    have hold := hsteady round (first - 1) (by omega) (by omega)
    have hnew := hsteady round first (by omega) (by omega)
    rw [hactive first (Int.le_refl _) (by omega)] at hnew
    exact absurd (hold.trans hnew.symm) hbefore

/-- The answer holds until the next check, unless that was computed in the second of the
start; and updates at other times see every start and every end of the event. -/
theorem checks_are_steady (hvalid : (mGameEvent entry).Valid) :
    (∀ currenttime, Steady mGameEvent entry currenttime ↔ ¬(mGameEvent entry).Starts currenttime) ∧
    ∀ times, Updates (mGameEvent entry) times →
      (∀ round, ¬(mGameEvent entry).Starts (times round)) → Observes mGameEvent entry times := by
  refine ⟨fun _ => steady_iff hvalid, fun times hupdates hstarts => ?_⟩
  exact observes_of_steady hupdates fun round => (steady_iff hvalid).mpr (hstarts round)

def hourly : GameEventData where
  start := 3600
  «end» := 90000
  occurence := 60
  length := 10

theorem hourly_valid : hourly.Valid := ⟨rfl, by decide, by decide, by decide, by decide, by decide⟩

theorem hourly_steady : Steady (fun _ => hourly) 1 3601 :=
  ((@checks_are_steady (fun _ => hourly) 1 hourly_valid).1 3601).mpr fun hstarts =>
    absurd hstarts.1 (by decide)

/-- A check in the second of the start finds no event, and asks again when the first window
is over. -/
theorem hourly_misses : ¬∀ (mGameEvent : ℕ → GameEventData) (entry : ℕ) (currenttime : ℤ),
    (mGameEvent entry).Valid → Steady mGameEvent entry currenttime := by
  intro hsteady
  have hsame := hsteady (fun _ => hourly) 1 3600 hourly_valid 3601 (by decide) (by decide)
  exact absurd hsame (by decide)

end AzerothCore.GameEvents
