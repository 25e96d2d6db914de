import AzerothCore.Collections.Reachability
import Mathlib.Data.Int.Notation
import Mathlib.Data.List.Basic

/-!
# The seats of a vehicle

Passengers take and leave the seats, and `_usableSeatNum` counts the free ones that can be entered.
The flags and the movement of the units are left out.
-/

namespace AzerothCore.Vehicles
open List Reachability

def VEHICLE_SEAT_FLAG_HAS_LOWER_ANIM_FOR_ENTER : BitVec 32 := 0x00000001
def VEHICLE_SEAT_FLAG_HAS_LOWER_ANIM_FOR_RIDE : BitVec 32 := 0x00000002
def VEHICLE_SEAT_FLAG_CAN_CONTROL : BitVec 32 := 0x00000800
def VEHICLE_SEAT_FLAG_UNCONTROLLED : BitVec 32 := 0x00002000
def VEHICLE_SEAT_FLAG_UNK18 : BitVec 32 := 0x00020000
def VEHICLE_SEAT_FLAG_CAN_ENTER_OR_EXIT : BitVec 32 := 0x02000000

/-- `VEHICLE_SEAT_FLAG_B_USABLE_FORCED` and the three like it -/
def VEHICLE_SEAT_FLAG_B_USABLE_FORCED : BitVec 32 := 0x02000142

structure VehicleSeatEntry where
  m_flags : BitVec 32
  m_flagsB : BitVec 32

namespace VehicleSeatEntry
variable (entry : VehicleSeatEntry)

def CanEnterOrExit : Bool :=
  entry.m_flags &&& VEHICLE_SEAT_FLAG_CAN_ENTER_OR_EXIT ≠ 0 ||
    entry.m_flags &&&
      (VEHICLE_SEAT_FLAG_HAS_LOWER_ANIM_FOR_ENTER ||| VEHICLE_SEAT_FLAG_HAS_LOWER_ANIM_FOR_RIDE) ≠ 0

def IsUsableByOverride : Bool :=
  entry.m_flags &&& (VEHICLE_SEAT_FLAG_UNCONTROLLED ||| VEHICLE_SEAT_FLAG_UNK18) ≠ 0 ||
    entry.m_flagsB &&& VEHICLE_SEAT_FLAG_B_USABLE_FORCED ≠ 0

def CanControl : Bool := entry.m_flags &&& VEHICLE_SEAT_FLAG_CAN_CONTROL ≠ 0

end VehicleSeatEntry

structure VehicleSeat where
  SeatInfo : VehicleSeatEntry
  Passenger : Option ℕ

def VehicleSeat.usable (seat : VehicleSeat) : Bool :=
  seat.Passenger.isNone && seat.SeatInfo.CanEnterOrExit

/-- The seat with an id is at that place of `Seats`, if there is one. -/
structure Vehicle where
  m_ID : ℕ
  Seats : List (Option VehicleSeat)
  _usableSeatNum : ℕ

/-- A call of `AddPassenger` with the answers that it gets from the world. -/
structure Boarding where
  unit : ℕ
  seatId : ℤ
  /-- The vehicle is the one of the unit, and not uninstalling. -/
  inVehicle : Bool
  /-- `ObjectAccessor` finds the passenger, who leaves. -/
  exits : ℕ → Bool
  inWorld : Bool
  /-- `SetCharmedBy` succeeds, or is not called because of the types of the units. -/
  charmed : Bool

inductive Op
  | board (boarding : Boarding)
  | leave (unit : ℕ) (inVehicle : Bool)

namespace Vehicle

def ofInfo (m_ID : ℕ) (seats : List (Option VehicleSeatEntry)) : Vehicle where
  m_ID := m_ID
  Seats := seats.map (Option.map (⟨·, none⟩))
  _usableSeatNum := seats.countP (·.any (·.CanEnterOrExit)) + if m_ID = 338 then 1 else 0

variable (vehicle : Vehicle)

def setSeat (i : ℕ) (seat : VehicleSeat) (_usableSeatNum : ℕ) : Vehicle :=
  ⟨vehicle.m_ID, vehicle.Seats.set i (some seat), _usableSeatNum⟩

def seatAt (i : ℕ) : Option VehicleSeat := vehicle.Seats[i]?.join

def GetSeatIteratorForPassenger (unit : ℕ) : Option ℕ :=
  vehicle.Seats.findIdx? (·.any (·.Passenger = some unit))

def RemovePassenger (unit : ℕ) : Vehicle :=
  match vehicle.GetSeatIteratorForPassenger unit with
  | none => vehicle
  | some i =>
    match vehicle.seatAt i with
    | none => vehicle
    | some seat =>
      vehicle.setSeat i { seat with Passenger := none }
        (vehicle._usableSeatNum + seat.SeatInfo.CanEnterOrExit.toNat)

/-- The seat that `AddPassenger` chooses. -/
def seatFor (boarding : Boarding) : Option (ℕ × VehicleSeat) :=
  let place :=
    if boarding.seatId < 0 then
      vehicle.Seats.findIdx? (·.any fun seat => seat.Passenger.isNone &&
        (seat.SeatInfo.CanEnterOrExit || seat.SeatInfo.IsUsableByOverride))
    else some boarding.seatId.toNat
  place.bind fun i => (vehicle.seatAt i).map (i, ·)

def clearSeat (exits : ℕ → Bool) (i : ℕ) (seat : VehicleSeat) : Vehicle :=
  match seat.Passenger with
  | none => vehicle
  | some passenger =>
    let vehicle := if exits passenger then vehicle.RemovePassenger passenger else vehicle
    vehicle.setSeat i { seat with Passenger := none } vehicle._usableSeatNum

/-- `none` is a failed assertion. -/
def takeSeat (i : ℕ) (seat : VehicleSeat) (unit : ℕ) : Option Vehicle :=
  let seat := { seat with Passenger := some unit }
  if seat.SeatInfo.CanEnterOrExit then
    if vehicle._usableSeatNum = 0 then none
    else some (vehicle.setSeat i seat (vehicle._usableSeatNum - 1))
  else some (vehicle.setSeat i seat vehicle._usableSeatNum)

def boards (boarding : Boarding) (seat : VehicleSeat) : Bool :=
  boarding.inWorld && (boarding.charmed || !seat.SeatInfo.CanControl)

def AddPassenger (boarding : Boarding) : Option (Bool × Vehicle) :=
  if !boarding.inVehicle then some (false, vehicle)
  else
    match vehicle.seatFor boarding with
    | none => some (false, vehicle)
    | some (i, seat) =>
      ((vehicle.clearSeat boarding.exits i seat).takeSeat i seat boarding.unit).map
        (boards boarding seat, ·)

def perform : Op → Option (Bool × Vehicle)
  | .board boarding => vehicle.AddPassenger boarding
  | .leave unit inVehicle => some (true, if inVehicle then vehicle.RemovePassenger unit else vehicle)

def passengerAt (i : ℕ) : Option ℕ := (vehicle.seatAt i).bind (·.Passenger)

/-- The unit sits nowhere else, the passenger on the seat leaves it by himself if it counts, and
nothing fails behind. -/
def Meets : Op → Prop
  | .board boarding => boarding.inVehicle = true → ∀ i seat,
      vehicle.seatFor boarding = some (i, seat) →
        (∀ j, vehicle.passengerAt j = some boarding.unit → j = i) ∧
        (∀ passenger, seat.Passenger = some passenger → seat.SeatInfo.CanEnterOrExit = true →
          boarding.exits passenger = true) ∧ boards boarding seat = true
  | .leave _ _ => True

structure Counted : Prop where
  usable : vehicle._usableSeatNum =
    vehicle.Seats.countP (·.any VehicleSeat.usable) + if vehicle.m_ID = 338 then 1 else 0
  sits {unit i j : ℕ} : vehicle.passengerAt i = some unit → vehicle.passengerAt j = some unit →
    i = j

variable {vehicle : Vehicle} {i num unit : ℕ} {seat : VehicleSeat}

theorem countP_set_add {α : Type*} {p : α → Bool} {l : List α} {a b : α} (ha : l[i]? = some a) :
    (l.set i b).countP p + (p a).toNat = l.countP p + (p b).toNat := by
  obtain ⟨hi, rfl⟩ := List.getElem?_eq_some_iff.mp ha
  rw [countP_set hi]
  have hpos : p l[i] = true → 0 < l.countP p := fun hp =>
    countP_pos_iff.mpr ⟨_, getElem_mem hi, hp⟩
  cases hp : p l[i] <;> cases p b <;> simp_all

theorem passengerAt_setSeat (hseat : vehicle.seatAt i = some seat) (other : VehicleSeat) (j : ℕ) :
    (vehicle.setSeat i other num).passengerAt j =
      if j = i then other.Passenger else vehicle.passengerAt j := by
  obtain ⟨hi, -⟩ := List.getElem?_eq_some_iff.mp (Option.join_eq_some_iff.mp hseat)
  split
  · simp [*, passengerAt, seatAt, setSeat]
  · simp [passengerAt, seatAt, setSeat, getElem?_set_ne (Ne.symm ‹_›)]

theorem setSeat_counted (hcounted : vehicle.Counted) (hseat : vehicle.seatAt i = some seat)
    {other : VehicleSeat}
    (hnum : num + seat.usable.toNat = vehicle._usableSeatNum + other.usable.toNat)
    (hsits : ∀ unit j, other.Passenger = some unit → vehicle.passengerAt j = some unit → j = i) :
    (vehicle.setSeat i other num).Counted where
  usable := by
    have husable : (vehicle.Seats.set i (some other)).countP (·.any VehicleSeat.usable) +
        seat.usable.toNat = _ + other.usable.toNat :=
      countP_set_add (Option.join_eq_some_iff.mp hseat)
    rw [hcounted.usable] at hnum
    change num = (vehicle.Seats.set i (some other)).countP _ + ite (vehicle.m_ID = 338) 1 0
    omega
  sits {unit j k} := by
    rw [passengerAt_setSeat hseat, passengerAt_setSeat hseat]
    split <;> split <;> intro hj hk
    · simp [*]
    · exact absurd (hsits unit k hj hk) ‹_›
    · exact absurd (hsits unit j hk hj) ‹_›
    · exact hcounted.sits hj hk

theorem RemovePassenger_cases (vehicle : Vehicle) (unit : ℕ) :
    (∀ j, vehicle.passengerAt j ≠ some unit) ∧ vehicle.RemovePassenger unit = vehicle ∨
      ∃ i seat, vehicle.seatAt i = some seat ∧ seat.Passenger = some unit ∧
        vehicle.RemovePassenger unit = vehicle.setSeat i { seat with Passenger := none }
          (vehicle._usableSeatNum + seat.SeatInfo.CanEnterOrExit.toNat) := by
  rw [RemovePassenger]
  cases hfind : vehicle.GetSeatIteratorForPassenger unit with
  | none =>
    refine .inl ⟨fun j hj => ?_, rfl⟩
    obtain ⟨seat, hseat, hunit⟩ := Option.bind_eq_some_iff.mp hj
    have hmem := mem_of_getElem? (Option.join_eq_some_iff.mp hseat)
    simpa [hunit] using findIdx?_eq_none_iff.mp hfind _ hmem
  | some i =>
    obtain ⟨hi, hunit, -⟩ := findIdx?_eq_some_iff_getElem.mp hfind
    obtain ⟨seat, hseat, hpassenger⟩ := (Option.any_eq_true _ _).mp hunit
    have hget : vehicle.seatAt i = some seat := by
      rw [seatAt, getElem?_eq_getElem hi, hseat, Option.join_some]
    refine .inr ⟨i, seat, hget, of_decide_eq_true hpassenger, ?_⟩
    simp only [hget]

theorem RemovePassenger_counted (hcounted : vehicle.Counted) (unit : ℕ) :
    (vehicle.RemovePassenger unit).Counted := by
  obtain ⟨-, heq⟩ | ⟨i, seat, hseat, hunit, heq⟩ := vehicle.RemovePassenger_cases unit
  · rwa [heq]
  · rw [heq]
    exact setSeat_counted hcounted hseat (by simp [VehicleSeat.usable, hunit]) (by simp)

theorem RemovePassenger_eq (hcounted : vehicle.Counted) (hseat : vehicle.seatAt i = some seat)
    (hunit : seat.Passenger = some unit) :
    vehicle.RemovePassenger unit = vehicle.setSeat i { seat with Passenger := none }
      (vehicle._usableSeatNum + seat.SeatInfo.CanEnterOrExit.toNat) := by
  have hi : vehicle.passengerAt i = some unit := by rw [passengerAt, hseat, ← hunit]; rfl
  obtain ⟨hnone, -⟩ | ⟨j, other, hother, hsits, heq⟩ := vehicle.RemovePassenger_cases unit
  · exact absurd hi (hnone i)
  · have hj : vehicle.passengerAt j = some unit := by rw [passengerAt, hother, ← hsits]; rfl
    obtain rfl := hcounted.sits hi hj
    obtain rfl := Option.some_inj.mp (hseat.symm.trans hother)
    exact heq

theorem clearSeat_spec (hcounted : vehicle.Counted) (hseat : vehicle.seatAt i = some seat)
    {exits : ℕ → Bool} (hexits : ∀ passenger, seat.Passenger = some passenger →
      seat.SeatInfo.CanEnterOrExit = true → exits passenger = true) :
    (vehicle.clearSeat exits i seat).Counted ∧ ∃ num,
      vehicle.clearSeat exits i seat = vehicle.setSeat i { seat with Passenger := none } num := by
  obtain ⟨info, passenger⟩ := seat
  cases passenger with
  | none =>
    obtain ⟨hi, hget⟩ := List.getElem?_eq_some_iff.mp (Option.join_eq_some_iff.mp hseat)
    exact ⟨hcounted, vehicle._usableSeatNum, by simp [clearSeat, setSeat, ← hget]⟩
  | some unit =>
    have hcleared : (vehicle.setSeat i ⟨info, none⟩
        (vehicle._usableSeatNum + info.CanEnterOrExit.toNat)).Counted :=
      setSeat_counted hcounted hseat (by simp [VehicleSeat.usable]) (by simp)
    cases hexit : exits unit with
    | true =>
      simp only [clearSeat, hexit, if_true, RemovePassenger_eq hcounted hseat rfl]
      simp only [setSeat, set_set] at hcleared ⊢
      exact ⟨hcleared, _, rfl⟩
    | false =>
      have hcan : info.CanEnterOrExit = false :=
        Bool.eq_false_iff.mpr fun hcan => by simp [hexits unit rfl hcan] at hexit
      simp only [hcan, Bool.toNat_false] at hcleared
      simp only [clearSeat, hexit, Bool.false_eq_true, if_false]
      exact ⟨hcleared, _, rfl⟩

theorem takeSeat_spec (hcounted : vehicle.Counted) (hseat : vehicle.seatAt i = some seat)
    (hempty : seat.Passenger = none) (hunit : ∀ j, vehicle.passengerAt j ≠ some unit) :
    ∃ after, vehicle.takeSeat i seat unit = some after ∧ after.Counted := by
  have hsits : ∀ other j, some unit = some other → vehicle.passengerAt j = some other → j = i := by
    rintro _ j ⟨⟩ hj
    exact absurd hj (hunit j)
  have hnum := hcounted.usable
  cases hcan : seat.SeatInfo.CanEnterOrExit with
  | true =>
    have hpos : 0 < vehicle.Seats.countP (·.any VehicleSeat.usable) :=
      countP_pos_iff.mpr ⟨some seat, mem_of_getElem? (Option.join_eq_some_iff.mp hseat),
        by simp [VehicleSeat.usable, *]⟩
    refine ⟨_, (if_pos hcan).trans (if_neg (by omega)), ?_⟩
    exact setSeat_counted hcounted hseat (by simp [VehicleSeat.usable, *]; omega) hsits
  | false =>
    refine ⟨_, if_neg (by simp [hcan]), ?_⟩
    exact setSeat_counted hcounted hseat (by simp [VehicleSeat.usable, *]) hsits

theorem perform_spec (hcounted : vehicle.Counted) {op : Op} (hmeets : vehicle.Meets op) :
    ∃ result after, vehicle.perform op = some (result, after) ∧ after.Counted ∧
      (result = false → after = vehicle) := by
  cases op with
  | leave unit inVehicle =>
    refine ⟨true, _, rfl, ?_, by simp⟩
    split
    · exact RemovePassenger_counted hcounted unit
    · exact hcounted
  | board boarding =>
    rw [perform, AddPassenger]
    split
    · exact ⟨false, vehicle, rfl, hcounted, fun _ => rfl⟩
    split
    · exact ⟨false, vehicle, rfl, hcounted, fun _ => rfl⟩
    rename_i hvehicle _ i seat hfor
    obtain ⟨hsits, hexits, hboards⟩ := hmeets (by simpa using hvehicle) i seat hfor
    obtain ⟨place, -, hmap⟩ := Option.bind_eq_some_iff.mp hfor
    obtain ⟨other, hseat, hpair⟩ := Option.map_eq_some_iff.mp hmap
    obtain ⟨rfl, rfl⟩ := Prod.mk.inj hpair.symm
    obtain ⟨hcleared, num, hclear⟩ := clearSeat_spec hcounted hseat hexits
    have hempty : (vehicle.clearSeat boarding.exits i seat).seatAt i = some ⟨seat.SeatInfo, none⟩ := by
      obtain ⟨hi, -⟩ := List.getElem?_eq_some_iff.mp (Option.join_eq_some_iff.mp hseat)
      simp [hclear, seatAt, setSeat, hi]
    have hnowhere : ∀ j, (vehicle.clearSeat boarding.exits i seat).passengerAt j ≠
        some boarding.unit := by
      intro j hj
      rw [hclear, passengerAt_setSeat hseat] at hj
      split at hj
      · cases hj
      · exact absurd (hsits j hj) ‹_›
    obtain ⟨after, htake, hafter⟩ := takeSeat_spec hcleared hempty rfl hnowhere
    have hmap : ((vehicle.clearSeat boarding.exits i seat).takeSeat i seat boarding.unit).map
        (boards boarding seat, ·) = some (true, after) := by
      rw [hboards]
      exact congrArg _ htake
    exact ⟨true, after, hmap, hafter, by simp⟩

def Built (vehicle : Vehicle) : Prop := ∃ m_ID seats, vehicle = ofInfo m_ID seats

theorem ofInfo_counted (m_ID : ℕ) (seats : List (Option VehicleSeatEntry)) :
    (ofInfo m_ID seats).Counted where
  usable := by
    simp only [ofInfo, countP_map]
    congr 2
    funext seat
    cases seat <;> simp [VehicleSeat.usable]
  sits {unit i j} hi := by
    obtain ⟨seat, hseat, hunit⟩ := Option.bind_eq_some_iff.mp hi
    have hmem := mem_of_getElem? (Option.join_eq_some_iff.mp hseat)
    obtain ⟨entry, -, hentry⟩ := mem_map.mp hmem
    obtain ⟨info, -, rfl⟩ := Option.map_eq_some_iff.mp hentry
    cases hunit

/-- In the runs whose steps meet their conditions the seats are counted, no assertion fails, and a
boarding that fails changes nothing. -/
theorem passengers_counted (hreach : Reachable Built (guarded Meets fun before op after =>
    ∃ result, before.perform op = some (result, after)) vehicle) :
    vehicle.Counted ∧ ∀ op, vehicle.Meets op → ∃ result after,
      vehicle.perform op = some (result, after) ∧ after.Counted ∧
        (result = false → after = vehicle) := by
  have hcounted : vehicle.Counted := by
    apply hreach.invariant
    · rintro _ ⟨m_ID, seats, rfl⟩
      exact ofInfo_counted m_ID seats
    · rintro before op after hbefore ⟨hmeets, result, hperform⟩
      obtain ⟨_, _, hother, hafter, -⟩ := perform_spec hbefore hmeets
      obtain ⟨-, rfl⟩ := Prod.mk.inj (Option.some_inj.mp (hother.symm.trans hperform))
      exact hafter
  exact ⟨hcounted, fun op hmeets => perform_spec hcounted hmeets⟩

def oneSeat : Vehicle := ofInfo 0 [some ⟨VEHICLE_SEAT_FLAG_CAN_ENTER_OR_EXIT, 0⟩]

def boardFirst (unit : ℕ) : Op := .board ⟨unit, 0, true, fun _ => false, true, true⟩

theorem first_passenger_counted :
    ∃ after, oneSeat.perform (boardFirst 1) = some (true, after) ∧ after.Counted := by
  have hmeets : oneSeat.Meets (boardFirst 1) := by
    rintro - i seat hfor
    cases hfor
    refine ⟨fun j hj => ?_, ?_, rfl⟩
    · cases j <;> cases hj
    · rintro passenger ⟨⟩
  exact ⟨_, rfl, (passengers_counted (.step (.start ⟨0, _, rfl⟩) ⟨hmeets, true, rfl⟩)).1⟩

/-- The first passenger is not found, and the seat is cleared without being counted. -/
theorem unresolved_passenger_aborts :
    (oneSeat.perform (boardFirst 1)).bind (·.2.perform (boardFirst 2)) = none := rfl

end Vehicle

end AzerothCore.Vehicles
