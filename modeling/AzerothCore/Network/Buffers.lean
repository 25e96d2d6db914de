import AzerothCore.Common.Define
import AzerothCore.Network.Utf8
import Mathlib.Data.List.Basic
import Mathlib.Tactic.Ring

/-!
# Message buffers

A `MessageBuffer` is a block of storage with a write and a read position. The
bytes between the two positions are active. An operation that would move a
position out of the storage is undefined in the code and has no result here.
-/

namespace AzerothCore.Network
open List

structure MessageBuffer where
  _storage : List UInt8
  _wpos : ℕ
  _rpos : ℕ
  rpos_le : _rpos ≤ _wpos
  wpos_le : _wpos ≤ _storage.length

namespace MessageBuffer

def ofSize (initialSize : ℕ) : MessageBuffer where
  _storage := List.replicate initialSize 0
  _wpos := 0
  _rpos := 0
  rpos_le := Nat.le_refl 0
  wpos_le := Nat.zero_le _

def GetActiveSize (buffer : MessageBuffer) : ℕ := buffer._wpos - buffer._rpos

def GetRemainingSpace (buffer : MessageBuffer) : ℕ := buffer._storage.length - buffer._wpos

/-- The active bytes: what `GetReadPointer` points to, `GetActiveSize` bytes
long. -/
def active (buffer : MessageBuffer) : List UInt8 :=
  (buffer._storage.take buffer._wpos).drop buffer._rpos

def Reset (buffer : MessageBuffer) : MessageBuffer where
  _storage := buffer._storage
  _wpos := 0
  _rpos := 0
  rpos_le := Nat.le_refl 0
  wpos_le := Nat.zero_le _

variable (storage : List UInt8)

/-- `std::vector::resize`. -/
def resized (bytes : ℕ) : List UInt8 :=
  storage.take bytes ++ List.replicate (bytes - storage.length) 0

theorem length_resized (bytes : ℕ) : (resized storage bytes).length = bytes := by
  rw [resized, length_append, length_take, length_replicate]
  omega

def Resize (buffer : MessageBuffer) (bytes : ℕ) : Option MessageBuffer :=
  if hfits : buffer._wpos ≤ bytes then
    some { buffer with
      _storage := resized buffer._storage bytes
      wpos_le := by rw [length_resized]; exact hfits }
  else
    none

def ReadCompleted (buffer : MessageBuffer) (bytes : ℕ) : Option MessageBuffer :=
  if hfits : buffer._rpos + bytes ≤ buffer._wpos then
    some { buffer with
      _rpos := buffer._rpos + bytes
      rpos_le := hfits }
  else
    none

/-- The storage after `data` was copied to a position inside it. -/
def copied (position : ℕ) (data : List UInt8) : List UInt8 :=
  storage.take position ++ data ++ storage.drop (position + data.length)

theorem length_copied {storage data : List UInt8} {position : ℕ}
    (hfits : position + data.length ≤ storage.length) :
    (copied storage position data).length = storage.length := by
  rw [copied, length_append, length_append, length_take, length_drop]
  omega

/-- The copy and the `WriteCompleted` that follows it. -/
def Write (buffer : MessageBuffer) (data : List UInt8) : Option MessageBuffer :=
  if hfits : buffer._wpos + data.length ≤ buffer._storage.length then
    some {
      _storage := copied buffer._storage buffer._wpos data
      _wpos := buffer._wpos + data.length
      _rpos := buffer._rpos
      rpos_le := Nat.le_trans buffer.rpos_le (Nat.le_add_right _ _)
      wpos_le := by rw [length_copied hfits]; exact hfits }
  else
    none

def Overwrite (buffer : MessageBuffer) (data : List UInt8) : Option MessageBuffer :=
  if hfits : data.length = buffer.GetActiveSize then
    some { buffer with
      _storage := copied buffer._storage buffer._rpos data
      wpos_le := by
        have hpositions := buffer.rpos_le
        have hstorage := buffer.wpos_le
        rw [GetActiveSize] at hfits
        rw [length_copied (by omega)]
        exact hstorage }
  else
    none

def Normalize (buffer : MessageBuffer) : MessageBuffer :=
  if buffer._rpos ≠ 0 then
    { _storage := copied buffer._storage 0 buffer.active
      _wpos := buffer._wpos - buffer._rpos
      _rpos := 0
      rpos_le := Nat.zero_le _
      wpos_le := by
        have hstorage := buffer.wpos_le
        have hlength : buffer.active.length = buffer._wpos - buffer._rpos := by
          rw [active, length_drop, length_take, Nat.min_eq_left hstorage]
        rw [length_copied (by omega)]
        omega }
  else
    buffer

def EnsureFreeSpace (buffer : MessageBuffer) : MessageBuffer :=
  if buffer.GetRemainingSpace = 0 then
    { buffer with
      _storage := resized buffer._storage (buffer._storage.length * 3 / 2)
      wpos_le := by
        have hstorage := buffer.wpos_le
        rw [length_resized]
        omega }
  else
    buffer

def moved : MessageBuffer := ofSize 0

variable {buffer after : MessageBuffer} {data : List UInt8} {bytes : ℕ}

@[simp] theorem length_active (buffer : MessageBuffer) :
    buffer.active.length = buffer.GetActiveSize := by
  rw [active, length_drop, length_take, Nat.min_eq_left buffer.wpos_le, GetActiveSize]

theorem active_eq_nil_iff : buffer.active = [] ↔ buffer.GetActiveSize = 0 := by
  rw [← length_active, length_eq_zero_iff]

theorem active_eq_nil_of_wpos (hwpos : buffer._wpos = 0) : buffer.active = [] := by
  rw [active_eq_nil_iff, GetActiveSize, hwpos, Nat.zero_sub]

theorem storage_eq_active (hrpos : buffer._rpos = 0)
    (hfull : buffer.GetRemainingSpace = 0) : buffer._storage = buffer.active := by
  rw [active, hrpos, drop_zero, take_of_length_le]
  exact Nat.le_of_sub_eq_zero hfull

theorem Write_eq_some (hfits : data.length ≤ buffer.GetRemainingSpace) :
    ∃ after, buffer.Write data = some after := by
  have hstorage := buffer.wpos_le
  rw [GetRemainingSpace] at hfits
  exact ⟨_, dif_pos (by omega)⟩

structure Written (buffer after : MessageBuffer) (data : List UInt8) : Prop where
  fits : data.length ≤ buffer.GetRemainingSpace
  active : after.active = buffer.active ++ data
  length : after._storage.length = buffer._storage.length
  wpos : after._wpos = buffer._wpos + data.length
  rpos : after._rpos = buffer._rpos

theorem Write_spec (hwrite : buffer.Write data = some after) : Written buffer after data := by
  have hpositions := buffer.rpos_le
  have hstorage := buffer.wpos_le
  unfold Write at hwrite
  split at hwrite
  case isFalse => cases hwrite
  rename_i hfits
  cases hwrite
  refine ⟨Nat.le_sub_of_add_le' hfits, ?_, length_copied hfits, rfl, rfl⟩
  have hlen : (buffer._storage.take buffer._wpos ++ data).length
      = buffer._wpos + data.length := by
    rw [length_append, length_take, Nat.min_eq_left hstorage]
  have htake : (copied buffer._storage buffer._wpos data).take (buffer._wpos + data.length)
      = buffer._storage.take buffer._wpos ++ data := by
    rw [copied, take_append_of_le_length, take_of_length_le]
    · exact Nat.le_of_eq hlen
    · exact Nat.le_of_eq hlen.symm
  change ((copied buffer._storage buffer._wpos data).take _).drop buffer._rpos = _
  rw [htake, drop_append_of_le_length, MessageBuffer.active]
  rw [length_take, Nat.min_eq_left hstorage]
  exact hpositions

theorem Written.remaining (hwritten : Written buffer after data) :
    after.GetRemainingSpace = buffer.GetRemainingSpace - data.length := by
  rw [GetRemainingSpace, GetRemainingSpace, hwritten.length, hwritten.wpos, Nat.sub_add_eq]

theorem ReadCompleted_eq_some (hfits : bytes ≤ buffer.GetActiveSize) :
    ∃ after, buffer.ReadCompleted bytes = some after := by
  have hpositions := buffer.rpos_le
  rw [GetActiveSize] at hfits
  exact ⟨_, dif_pos (by omega)⟩

/-- Reading drops the first of the active bytes and touches nothing else. -/
structure Consumed (buffer after : MessageBuffer) (bytes : ℕ) : Prop where
  fits : bytes ≤ buffer.GetActiveSize
  active : after.active = buffer.active.drop bytes
  storage : after._storage = buffer._storage
  wpos : after._wpos = buffer._wpos

theorem ReadCompleted_spec (hread : buffer.ReadCompleted bytes = some after) :
    Consumed buffer after bytes := by
  unfold ReadCompleted at hread
  split at hread
  case isFalse => cases hread
  rename_i hfits
  cases hread
  refine ⟨Nat.le_sub_of_add_le' hfits, ?_, rfl, rfl⟩
  rw [MessageBuffer.active, MessageBuffer.active, drop_drop]

theorem Resize_eq_some (hfits : buffer._wpos ≤ bytes) : ∃ after, buffer.Resize bytes = some after :=
  ⟨_, dif_pos hfits⟩

structure Resized (buffer after : MessageBuffer) (bytes : ℕ) : Prop where
  active : after.active = buffer.active
  length : after._storage.length = bytes
  wpos : after._wpos = buffer._wpos
  rpos : after._rpos = buffer._rpos

theorem take_resized {storage : List UInt8} {position : ℕ}
    (hstorage : position ≤ storage.length) (hfits : position ≤ bytes) :
    (resized storage bytes).take position = storage.take position := by
  rw [resized, take_append_of_le_length, take_take, Nat.min_eq_left hfits]
  rw [length_take]
  exact Nat.le_min.mpr ⟨hfits, hstorage⟩

theorem Resize_spec (hresize : buffer.Resize bytes = some after) : Resized buffer after bytes := by
  unfold Resize at hresize
  split at hresize
  case isFalse => cases hresize
  rename_i hfits
  cases hresize
  refine ⟨?_, length_resized _ _, rfl, rfl⟩
  rw [MessageBuffer.active, MessageBuffer.active, take_resized buffer.wpos_le hfits]

theorem Overwrite_eq_some (hfits : data.length = buffer.GetActiveSize) :
    ∃ after, buffer.Overwrite data = some after :=
  ⟨_, dif_pos hfits⟩

structure Overwritten (buffer after : MessageBuffer) (data : List UInt8) : Prop where
  active : after.active = data
  length : after._storage.length = buffer._storage.length
  wpos : after._wpos = buffer._wpos
  rpos : after._rpos = buffer._rpos

theorem Overwrite_spec (hoverwrite : buffer.Overwrite data = some after) :
    Overwritten buffer after data := by
  have hpositions := buffer.rpos_le
  have hstorage := buffer.wpos_le
  unfold Overwrite at hoverwrite
  split at hoverwrite
  case isFalse => cases hoverwrite
  rename_i hfits
  cases hoverwrite
  rw [GetActiveSize] at hfits
  refine ⟨?_, length_copied (by omega), rfl, rfl⟩
  have hfront : (buffer._storage.take buffer._rpos).length = buffer._rpos := by
    rw [length_take]
    omega
  have hwpos : buffer._wpos = (buffer._storage.take buffer._rpos ++ data).length := by
    rw [length_append, hfront]
    omega
  change ((copied buffer._storage buffer._rpos data).take buffer._wpos).drop buffer._rpos = data
  rw [copied, hwpos, take_left', drop_append_of_le_length, drop_of_length_le]
  · rfl
  · exact Nat.le_of_eq hfront
  · exact Nat.le_of_eq hfront.symm
  · rfl

@[simp] theorem active_Normalize (buffer : MessageBuffer) :
    buffer.Normalize.active = buffer.active := by
  unfold Normalize
  split
  case isFalse => rfl
  change ((copied buffer._storage 0 buffer.active).take (buffer._wpos - buffer._rpos)).drop 0
    = buffer.active
  rw [drop_zero, copied, take_zero, nil_append, take_left']
  exact length_active buffer

@[simp] theorem active_EnsureFreeSpace (buffer : MessageBuffer) :
    buffer.EnsureFreeSpace.active = buffer.active := by
  have hstorage := buffer.wpos_le
  unfold EnsureFreeSpace
  split
  case isFalse => rfl
  change ((resized buffer._storage _).take buffer._wpos).drop buffer._rpos = _
  rw [take_resized hstorage (by omega), MessageBuffer.active]

@[simp] theorem active_ofSize (initialSize : ℕ) : (ofSize initialSize).active = [] :=
  active_eq_nil_of_wpos rfl

@[simp] theorem active_Reset (buffer : MessageBuffer) : buffer.Reset.active = [] :=
  active_eq_nil_of_wpos rfl

end MessageBuffer

end AzerothCore.Network

/-! ## Packet headers and their encryption -/

namespace AzerothCore.Network
open List Nat

structure StreamCipher (κ : Type*) where
  UpdateData : κ → List UInt8 → List UInt8 × κ
  length_UpdateData : ∀ state data, (UpdateData state data).1.length = data.length

structure AuthCrypt (κ : Type*) where
  _clientDecrypt : κ
  _serverEncrypt : κ
  _initialized : Bool

namespace AuthCrypt

variable {κ : Type*}

def IsInitialized (crypt : AuthCrypt κ) : Bool := crypt._initialized

/-- `none` is the failed assertion that the keys are set. -/
def DecryptRecv (cipher : StreamCipher κ) (crypt : AuthCrypt κ) (data : List UInt8) :
    Option (List UInt8 × AuthCrypt κ) :=
  if crypt._initialized then
    let result := cipher.UpdateData crypt._clientDecrypt data
    some (result.1, { crypt with _clientDecrypt := result.2 })
  else
    none

def EncryptSend (cipher : StreamCipher κ) (crypt : AuthCrypt κ) (data : List UInt8) :
    Option (List UInt8 × AuthCrypt κ) :=
  if crypt._initialized then
    let result := cipher.UpdateData crypt._serverEncrypt data
    some (result.1, { crypt with _serverEncrypt := result.2 })
  else
    none

end AuthCrypt

/-- `NUM_OPCODE_HANDLERS`. -/
def NUM_OPCODE_HANDLERS : ℕ := 0x51F

structure ClientPktHeader where
  size : ℕ
  cmd : ℕ

namespace ClientPktHeader

/-- `sizeof(ClientPktHeader)`. -/
def sizeOfHeader : ℕ := 6

def IsValidSize (header : ClientPktHeader) : Bool := 4 ≤ header.size && header.size < 10240

def IsValidOpcode (header : ClientPktHeader) : Bool := header.cmd < NUM_OPCODE_HANDLERS

variable (bytes : List UInt8)

/-- A number stored with its least significant byte first. -/
def littleEndian : ℕ :=
  bytes.foldr (fun byte value => byte.toNat + 256 * value) 0

/-- The header in six bytes from the client: the size has its most significant
byte first. -/
def ofBytes : ClientPktHeader where
  size := littleEndian (bytes.take 2).reverse
  cmd := littleEndian (bytes.drop 2)

/-- What `ReadHeaderHandler` leaves in the place of those bytes: the size in the
order of the host, less the size of the opcode. -/
def hostBytes : List UInt8 :=
  let size := (ofBytes bytes).size - 4
  UInt8.ofNat size :: UInt8.ofNat (size / 256) :: bytes.drop 2

theorem length_hostBytes {bytes : List UInt8} (hlen : bytes.length = sizeOfHeader) :
    (hostBytes bytes).length = sizeOfHeader := by
  rw [hostBytes, length_cons, length_cons, length_drop, hlen, sizeOfHeader]

/-- The opcode as `ReadDataHandler` reads it from the header buffer. -/
def hostCmd : ℕ := littleEndian (bytes.drop 2)

theorem hostCmd_hostBytes : hostCmd (hostBytes bytes) = (ofBytes bytes).cmd := rfl

end ClientPktHeader

structure ServerPktHeader where
  /-- The length of the payload plus the length of the opcode. -/
  size : ℕ
  cmd : ℕ

namespace ServerPktHeader

def isLargePacket (header : ServerPktHeader) : Bool := header.size > 0x7FFF

def getHeaderLength (header : ServerPktHeader) : ℕ :=
  2 + (if header.isLargePacket then 3 else 2)

def header (header : ServerPktHeader) : List UInt8 :=
  (if header.isLargePacket then
    [UInt8.ofNat (0x80 ||| (0xFF &&& (header.size >>> 16)))]
  else
    []) ++
  [UInt8.ofNat (0xFF &&& (header.size >>> 8)), UInt8.ofNat (0xFF &&& header.size),
    UInt8.ofNat (0xFF &&& header.cmd), UInt8.ofNat (0xFF &&& (header.cmd >>> 8))]

theorem length_header (header : ServerPktHeader) :
    header.header.length = header.getHeaderLength := by
  unfold ServerPktHeader.header getHeaderLength
  split
  · rfl
  · rfl

/-- How a client reads a header: the top bit of the first byte tells the form
with three bytes of size from the form with two. -/
def decode : List UInt8 → Option ServerPktHeader
  | first :: bytes =>
    if first.toNat < 0x80 then
      match bytes with
      | [second, low, high] =>
        some ⟨first.toNat * 256 + second.toNat, low.toNat + 256 * high.toNat⟩
      | _ => none
    else
      match bytes with
      | [second, third, low, high] =>
        some ⟨(first.toNat - 0x80) * 65536 + second.toNat * 256 + third.toNat,
          low.toNat + 256 * high.toNat⟩
      | _ => none
  | [] => none

theorem toNat_byte (value shift : ℕ) :
    (UInt8.ofNat (0xFF &&& (value >>> shift))).toNat = value / 2 ^ shift % 256 := by
  have hmask : 0xFF &&& (value >>> shift) = (value >>> shift) % 256 := by
    rw [Nat.and_comm]
    exact and_two_pow_sub_one_eq_mod _ 8
  rw [hmask, UInt8.toNat_ofNat', shiftRight_eq_div_pow]
  exact mod_mod _ _

theorem toNat_low_byte (value : ℕ) : (UInt8.ofNat (0xFF &&& value)).toNat = value % 256 := by
  have hbyte := toNat_byte value 0
  rwa [shiftRight_zero, Nat.pow_zero, Nat.div_one] at hbyte

theorem toNat_large_byte {size : ℕ} (hsize : size < 2 ^ 23) :
    (UInt8.ofNat (0x80 ||| (0xFF &&& (size >>> 16)))).toNat = 0x80 + size / 65536 := by
  have htop : size / 65536 < 2 ^ 7 := by omega
  have hmask : 0xFF &&& (size >>> 16) = size / 65536 := by
    rw [Nat.and_comm, shiftRight_eq_div_pow]
    rw [show (255 : ℕ) = 2 ^ 8 - 1 from rfl, and_two_pow_sub_one_eq_mod]
    exact mod_eq_of_lt (by omega)
  rw [hmask, show (0x80 : ℕ) = 2 ^ 7 * 1 from rfl, ← two_pow_add_eq_or_of_lt htop,
    UInt8.toNat_ofNat', mod_eq_of_lt (by omega)]

theorem decode_header {size cmd : ℕ} (hsize : size < 2 ^ 23) (hcmd : cmd < 2 ^ 16) :
    decode (ServerPktHeader.mk size cmd).header = some ⟨size, cmd⟩ := by
  have hlow := toNat_low_byte size
  have hmiddle := toNat_byte size 8
  have hcmdLow := toNat_low_byte cmd
  have hcmdHigh := toNat_byte cmd 8
  unfold ServerPktHeader.header isLargePacket
  dsimp only
  by_cases hlarge : size > 0x7FFF
  · have hfirst := toNat_large_byte hsize
    rw [if_pos (decide_eq_true hlarge), cons_append, nil_append, decode, if_neg (by omega)]
    simp only [hfirst, hmiddle, hlow, hcmdLow, hcmdHigh, Option.some.injEq, mk.injEq]
    omega
  · rw [if_neg (by rwa [decide_eq_true_eq]), nil_append, decode, if_pos (by omega)]
    simp only [hmiddle, hlow, hcmdLow, hcmdHigh, Option.some.injEq, mk.injEq]
    omega

end ServerPktHeader

end AzerothCore.Network

/-!
## The byte buffer of a packet

Values are appended at one position and read at another. Positions and sizes
are of type `std::size_t`; the capacity of the storage is left out, as no value
depends on it.
-/

namespace AzerothCore.Network

/-- A number as `std::size_t`. -/
def size_t (value : ℕ) : ℕ := value % 2 ^ 64

inductive ByteBufferException where
  | position (add : Bool) (pos size valueSize : ℕ)
  | invalidValue (type : String) (value : List UInt8)

structure ByteBuffer where
  _rpos : ℕ
  _wpos : ℕ
  _storage : List UInt8
deriving DecidableEq

inductive IntType where
  | uint8 | uint16 | uint32 | uint64 | int8 | int16 | int32 | int64

def IntType.sizeof : IntType → ℕ
  | .uint8 | .int8 => 1
  | .uint16 | .int16 => 2
  | .uint32 | .int32 => 4
  | .uint64 | .int64 => 8

/-- The bytes of an integer, the least significant one first. -/
def bytesOf : ℕ → ℕ → List UInt8
  | 0, _ => []
  | size + 1, value => UInt8.ofNat value :: bytesOf size (value / 256)

namespace ByteBuffer

abbrev Method (α : Type) := ByteBuffer → Except ByteBufferException α × ByteBuffer

def empty : ByteBuffer := ⟨0, 0, []⟩

def size (buffer : ByteBuffer) : ℕ := buffer._storage.length

/-- `none` is a failed assertion. -/
def append (src : List UInt8) (buffer : ByteBuffer) : Option ByteBuffer :=
  if src = [] ∨ 10000000 ≤ buffer.size then
    none
  else
    let newSize := size_t (buffer._wpos + src.length)
    let storage :=
      if buffer.size < newSize then MessageBuffer.resized buffer._storage newSize
      else buffer._storage
    some { buffer with
      _wpos := newSize
      _storage := MessageBuffer.copied storage buffer._wpos src }

def writeInt (type : IntType) (value : BitVec (8 * type.sizeof)) : ByteBuffer → Option ByteBuffer :=
  append (bytesOf type.sizeof value.toNat)

def writeBool (value : Bool) : ByteBuffer → Option ByteBuffer :=
  append [if value then 1 else 0]

def writeString (value : List UInt8) (buffer : ByteBuffer) : Option ByteBuffer :=
  match if value = [] then some buffer else buffer.append value with
  | none => none
  | some buffer => buffer.append [0]

/-- The loop over the bytes of a guid: the mask and the bytes that are not zero. -/
def packLoop : ℕ → ℕ → ℕ → ℕ × List UInt8 → ℕ × List UInt8
  | 0, _, _, packGUID => packGUID
  | fuel + 1, i, guid, packGUID =>
    if guid = 0 then
      packGUID
    else if guid &&& 0xFF ≠ 0 then
      packLoop fuel (i + 1) (guid >>> 8)
        (packGUID.1 ||| uint8 (1 <<< i), packGUID.2 ++ [UInt8.ofNat (guid &&& 0xFF)])
    else
      packLoop fuel (i + 1) (guid >>> 8) packGUID

def appendPackGUID (guid : BitVec 64) : ByteBuffer → Option ByteBuffer :=
  let packGUID := packLoop 8 0 guid.toNat (0, [])
  append (UInt8.ofNat packGUID.1 :: packGUID.2)

def read_skip (skip : ℕ) : Method Unit := fun buffer =>
  if buffer.size < size_t (buffer._rpos + skip) then
    (.error (.position false buffer._rpos skip buffer.size), buffer)
  else
    (.ok (), { buffer with _rpos := size_t (buffer._rpos + skip) })

/-- The value of `size` bytes at a position. -/
def readAt (size pos : ℕ) (buffer : ByteBuffer) : Except ByteBufferException ℕ :=
  if buffer.size < size_t (pos + size) then
    .error (.position false pos size buffer.size)
  else
    .ok (ClientPktHeader.littleEndian ((buffer._storage.drop pos).take size))

def readValue (size : ℕ) : Method ℕ := fun buffer =>
  match buffer.readAt size buffer._rpos with
  | .error exception => (.error exception, buffer)
  | .ok value => (.ok value, { buffer with _rpos := size_t (buffer._rpos + size) })

def readInt (type : IntType) : Method (BitVec (8 * type.sizeof)) := fun buffer =>
  match buffer.readValue type.sizeof with
  | (.error exception, buffer) => (.error exception, buffer)
  | (.ok value, buffer) => (.ok (BitVec.ofNat _ value), buffer)

/-- The byte is read as a `char`, which is signed. -/
def readBool : Method Bool := fun buffer =>
  match buffer.readInt .int8 with
  | (.error exception, buffer) => (.error exception, buffer)
  | (.ok value, buffer) => (.ok (decide (0 < value.toInt)), buffer)

def readArray (len : ℕ) : Method (List UInt8) := fun buffer =>
  if buffer.size < size_t (buffer._rpos + len) then
    (.error (.position false buffer._rpos len buffer.size), buffer)
  else
    (.ok ((buffer._storage.drop buffer._rpos).take len),
      { buffer with _rpos := size_t (buffer._rpos + len) })

/-- The loop of `readPackGUID` from bit `i` of the mask on. -/
def readPackLoop (guidmark : ℕ) : ℕ → ℕ → ℕ → Method ℕ
  | 0, _, guid, buffer => (.ok guid, buffer)
  | rounds + 1, i, guid, buffer =>
    if guidmark &&& (1 <<< i) ≠ 0 then
      if buffer.size < size_t (buffer._rpos + 1) then
        (.error (.position false buffer._rpos 1 buffer.size), buffer)
      else
        match buffer.readValue 1 with
        | (.error exception, buffer) => (.error exception, buffer)
        | (.ok bit, buffer) => readPackLoop guidmark rounds (i + 1) (guid ||| (bit <<< (i * 8))) buffer
    else
      readPackLoop guidmark rounds (i + 1) guid buffer

def readPackGUID : Method (BitVec 64) := fun buffer =>
  if buffer.size < size_t (buffer._rpos + 1) then
    (.error (.position false buffer._rpos 1 buffer.size), buffer)
  else
    match buffer.readValue 1 with
    | (.error exception, buffer) => (.error exception, buffer)
    | (.ok guidmark, buffer) =>
      match readPackLoop guidmark 8 0 0 buffer with
      | (.error exception, buffer) => (.error exception, buffer)
      | (.ok guid, buffer) => (.ok (BitVec.ofNat 64 guid), buffer)

/-- The loop of `ReadCString`, which stops at a zero or at the end; a round
takes a byte of those that are left. -/
def readCharLoop : ℕ → List UInt8 → Method (List UInt8)
  | 0, value, buffer => (.ok value, buffer)
  | fuel + 1, value, buffer =>
    if buffer._rpos < buffer.size then
      match buffer.readValue 1 with
      | (.error exception, buffer) => (.error exception, buffer)
      | (.ok c, buffer) =>
        if c = 0 then (.ok value, buffer)
        else readCharLoop fuel (value ++ [UInt8.ofNat c]) buffer
    else
      (.ok value, buffer)

def ReadCString (requireValidUtf8 : Bool) : Method (List UInt8) := fun buffer =>
  match readCharLoop (buffer.size - buffer._rpos) [] buffer with
  | (.error exception, buffer) => (.error exception, buffer)
  | (.ok value, buffer) =>
    if requireValidUtf8 && !Utf8.is_valid value then
      (.error (.invalidValue "string" value), buffer)
    else
      (.ok value, buffer)

/-- What a packet is written of and read into. `operator>>` requires a string
to be in UTF-8, and `ReadCString` where it is told to. -/
inductive FieldType where
  | int (type : IntType)
  | bool
  | string (requireValidUtf8 : Bool)
  | packGUID

abbrev FieldType.Value : FieldType → Type
  | .int type => BitVec (8 * type.sizeof)
  | .bool => Bool
  | .string _ => List UInt8
  | .packGUID => BitVec 64

abbrev Field := Σ type : FieldType, type.Value

def Field.write : Field → ByteBuffer → Option ByteBuffer
  | ⟨.int type, value⟩ => writeInt type value
  | ⟨.bool, value⟩ => writeBool value
  | ⟨.string _, value⟩ => writeString value
  | ⟨.packGUID, value⟩ => appendPackGUID value

def FieldType.read : (type : FieldType) → Method type.Value
  | .int type => readInt type
  | .bool => readBool
  | .string requireValidUtf8 => ReadCString requireValidUtf8
  | .packGUID => readPackGUID

def writeAll (fields : List Field) (buffer : ByteBuffer) : Option ByteBuffer :=
  fields.foldlM (fun buffer field => field.write buffer) buffer

def readAll : List FieldType → Method (List Field)
  | [], buffer => (.ok [], buffer)
  | type :: types, buffer =>
    match type.read buffer with
    | (.error exception, buffer) => (.error exception, buffer)
    | (.ok value, buffer) =>
      match readAll types buffer with
      | (.error exception, buffer) => (.error exception, buffer)
      | (.ok fields, buffer) => (.ok (⟨type, value⟩ :: fields), buffer)

end ByteBuffer

end AzerothCore.Network

/-!
## What the reads of a byte buffer take

A read takes the bytes of a value from those that are left, or it throws
because they are too few. A packed guid has one byte, the mask, and one for
each bit that is set in the mask.
-/

namespace AzerothCore.Network
open List Bool Nat

namespace ByteBuffer

def remaining (buffer : ByteBuffer) : List UInt8 := buffer._storage.drop buffer._rpos

def advance (buffer : ByteBuffer) (count : ℕ) : ByteBuffer :=
  { buffer with _rpos := buffer._rpos + count }

/-- The read position lies in the storage, and a vector has no more bytes than
a pointer difference can tell. -/
structure Sound (buffer : ByteBuffer) : Prop where
  rpos : buffer._rpos ≤ buffer.size
  size : buffer.size < 2 ^ 63

variable {buffer : ByteBuffer} {count : ℕ}

@[simp]
theorem storage_advance : (buffer.advance count)._storage = buffer._storage := rfl

@[simp]
theorem size_advance : (buffer.advance count).size = buffer.size := rfl

theorem advance_advance (first second : ℕ) :
    (buffer.advance first).advance second = buffer.advance (first + second) := by
  rw [advance, advance, advance, Nat.add_assoc]

theorem length_remaining : buffer.remaining.length = buffer.size - buffer._rpos := length_drop

theorem remaining_advance : (buffer.advance count).remaining = buffer.remaining.drop count := by
  rw [remaining, remaining, drop_drop]
  rfl

namespace Sound

theorem advance (hsound : Sound buffer) (hcount : count ≤ buffer.remaining.length) :
    Sound (buffer.advance count) := by
  have hlen := @length_remaining buffer
  have hrpos := hsound.rpos
  constructor
  · change buffer._rpos + count ≤ buffer.size
    omega
  · exact hsound.size

theorem size_t_add (hsound : Sound buffer) (hcount : count < 2 ^ 63) :
    size_t (buffer._rpos + count) = buffer._rpos + count := by
  have hrpos := hsound.rpos
  have hsize := hsound.size
  exact mod_eq_of_lt (by omega)

theorem lacks_iff (hsound : Sound buffer) (hcount : count < 2 ^ 63) :
    buffer.size < size_t (buffer._rpos + count) ↔ ¬count ≤ buffer.remaining.length := by
  have hrpos := hsound.rpos
  rw [hsound.size_t_add hcount, length_remaining]
  omega

end Sound

theorem readValue_ok (hsound : Sound buffer) (hcount : count < 2 ^ 63)
    (hholds : count ≤ buffer.remaining.length) :
    buffer.readValue count =
      (.ok (ClientPktHeader.littleEndian (buffer.remaining.take count)), buffer.advance count) := by
  have hlacks : ¬buffer.size < size_t (buffer._rpos + count) :=
    fun hless => (hsound.lacks_iff hcount).mp hless hholds
  rw [readValue, readAt, if_neg hlacks, advance, hsound.size_t_add hcount]
  rfl

theorem readValue_error (hsound : Sound buffer) (hcount : count < 2 ^ 63)
    (hlacks : ¬count ≤ buffer.remaining.length) :
    buffer.readValue count = (.error (.position false buffer._rpos count buffer.size), buffer) := by
  rw [readValue, readAt, if_pos ((hsound.lacks_iff hcount).mpr hlacks)]

variable {byte : UInt8}

theorem readByte_ok (hsound : Sound buffer) {tail : List UInt8}
    (hleft : buffer.remaining = byte :: tail) :
    buffer.readValue 1 = (.ok byte.toNat, buffer.advance 1) := by
  have hholds : 1 ≤ buffer.remaining.length := by
    rw [hleft]
    exact Nat.le_add_left 1 _
  rw [readValue_ok hsound (by decide) hholds, hleft]
  rfl

theorem sizeof_le (type : IntType) : type.sizeof ≤ 8 := by
  cases type <;> decide

theorem readInt_ok (hsound : Sound buffer) {type : IntType}
    (hholds : type.sizeof ≤ buffer.remaining.length) :
    buffer.readInt type = (.ok (BitVec.ofNat _
      (ClientPktHeader.littleEndian (buffer.remaining.take type.sizeof))),
      buffer.advance type.sizeof) := by
  have hsizeof := sizeof_le type
  rw [readInt, readValue_ok hsound (by omega) hholds]

theorem readInt_error (hsound : Sound buffer) {type : IntType}
    (hlacks : ¬type.sizeof ≤ buffer.remaining.length) :
    buffer.readInt type =
      (.error (.position false buffer._rpos type.sizeof buffer.size), buffer) := by
  have hsizeof := sizeof_le type
  rw [readInt, readValue_error hsound (by omega) hlacks]

/-! ## Reading until a zero -/

def takenString (bytes : List UInt8) : List UInt8 := bytes.takeWhile (· ≠ 0)

def takenLength (bytes : List UInt8) : ℕ := min ((takenString bytes).length + 1) bytes.length

theorem takenString_cons (hbyte : byte ≠ 0) (tail : List UInt8) :
    takenString (byte :: tail) = byte :: takenString tail :=
  takeWhile_cons_of_pos (decide_eq_true hbyte)

theorem takenLength_cons (hbyte : byte ≠ 0) (tail : List UInt8) :
    takenLength (byte :: tail) = takenLength tail + 1 := by
  rw [takenLength, takenLength, takenString_cons hbyte, length_cons, length_cons,
    Nat.add_min_add_right]

theorem readCharLoop_eq {fuel : ℕ} (hsound : Sound buffer)
    (hfuel : buffer.remaining.length ≤ fuel) (value : List UInt8) :
    buffer.readCharLoop fuel value = (.ok (value ++ takenString buffer.remaining),
      buffer.advance (takenLength buffer.remaining)) := by
  induction fuel generalizing buffer value with
  | zero =>
    have hempty : buffer.remaining = [] := eq_nil_of_length_eq_zero (le_zero.mp hfuel)
    rw [hempty]
    rw [takenString, takeWhile_nil, append_nil]
    rfl
  | succ fuel ih =>
    have hlen := @length_remaining buffer
    rw [readCharLoop]
    cases hleft : buffer.remaining with
    | nil =>
      rw [hleft] at hlen
      have hend : ¬buffer._rpos < buffer.size := by
        have hzero : buffer.size - buffer._rpos = 0 := hlen.symm
        omega
      rw [if_neg hend, takenString, takeWhile_nil, append_nil]
      rfl
    | cons byte tail =>
      rw [hleft, length_cons] at hlen
      have hmore : buffer._rpos < buffer.size := by omega
      rw [if_pos hmore, readByte_ok hsound hleft]
      have htail : (buffer.advance 1).remaining = tail := by
        rw [remaining_advance, hleft]
        rfl
      have hnext : Sound (buffer.advance 1) := hsound.advance (by
        rw [hleft]
        exact Nat.le_add_left 1 _)
      by_cases hbyte : byte = 0
      · subst hbyte
        change (_, buffer.advance 1) = _
        rw [takenString, takeWhile_cons_of_neg (by decide), append_nil, takenLength,
          takenString, takeWhile_cons_of_neg (by decide), length_cons]
        have hone : min (([] : List UInt8).length + 1) (tail.length + 1) = 1 := by
          rw [length_nil]
          omega
        rw [hone]
      · have hnat : byte.toNat ≠ 0 := fun hzero => hbyte (UInt8.toNat_inj.mp hzero)
        have hless : (buffer.advance 1).remaining.length ≤ fuel := by
          rw [hleft, length_cons] at hfuel
          rw [htail]
          omega
        dsimp only
        rw [if_neg hnat, ih hnext hless, htail, UInt8.ofNat_toNat, takenString_cons hbyte,
          takenLength_cons hbyte, append_assoc, singleton_append, advance_advance,
          Nat.add_comm 1]

theorem takenLength_le (bytes : List UInt8) : takenLength bytes ≤ bytes.length :=
  Nat.min_le_right _ _

theorem ReadCString_eq (hsound : Sound buffer) (requireValidUtf8 : Bool) :
    buffer.ReadCString requireValidUtf8 =
      (if requireValidUtf8 && !Utf8.is_valid (takenString buffer.remaining) then
        .error (.invalidValue "string" (takenString buffer.remaining))
      else .ok (takenString buffer.remaining), buffer.advance (takenLength buffer.remaining)) := by
  have hfuel : buffer.remaining.length ≤ buffer.size - buffer._rpos := length_remaining.le
  rw [ReadCString, readCharLoop_eq hsound hfuel, nil_append]
  dsimp only
  split
  · rfl
  · rfl

/-- The bytes that a mask announces for its bits from `i` on. -/
def markedBytes (guidmark rounds i : ℕ) : ℕ :=
  (List.range' i rounds).countP fun bit => guidmark.testBit bit

theorem markedBytes_succ (guidmark rounds i : ℕ) : markedBytes guidmark (rounds + 1) i =
      markedBytes guidmark rounds (i + 1) + if guidmark.testBit i then 1 else 0 := by
  rw [markedBytes, List.range'_succ, countP_cons]
  rfl

def HoldsPackGUID (bytes : List UInt8) : Prop :=
  ∃ guidmark rest, bytes = guidmark :: rest ∧ markedBytes guidmark.toNat 8 0 ≤ rest.length

/-- A method throws exactly when the bytes that are left are not complete; it
ends in the storage either way. -/
structure ReadsExactly {α : Type} (method : Method α) (buffer : ByteBuffer) (complete : Prop) :
    Prop where
  throws : (∃ exception, (method buffer).1 = .error exception) ↔ ¬complete
  rpos : (method buffer).2._rpos ≤ buffer.size
  storage : (method buffer).2._storage = buffer._storage

section Exact

variable {α : Type} {method : Method α} {complete : Prop}

theorem ReadsExactly.of_ok (hcompl : complete) (hsound : Sound buffer)
    (hcount : count ≤ buffer.remaining.length)
    (hmethod : ∃ value, method buffer = (.ok value, buffer.advance count)) :
    ReadsExactly method buffer complete := by
  obtain ⟨value, hmethod⟩ := hmethod
  constructor
  · rw [hmethod]
    exact ⟨fun ⟨_, herror⟩ => (nomatch herror), fun hlacks => absurd hcompl hlacks⟩
  · rw [hmethod]
    exact (hsound.advance hcount).rpos
  · rw [hmethod]
    rfl

theorem ReadsExactly.of_error (hlacks : ¬complete) (hsound : Sound buffer)
    (hcount : count ≤ buffer.remaining.length)
    (hmethod : ∃ exception, method buffer = (.error exception, buffer.advance count)) :
    ReadsExactly method buffer complete := by
  obtain ⟨exception, hmethod⟩ := hmethod
  constructor
  · rw [hmethod]
    exact ⟨fun _ => hlacks, fun _ => ⟨exception, rfl⟩⟩
  · rw [hmethod]
    exact (hsound.advance hcount).rpos
  · rw [hmethod]
    rfl

section

variable (hsound : Sound buffer)
include hsound

theorem readInt_exact (type : IntType) :
    ReadsExactly (readInt type) buffer (type.sizeof ≤ buffer.remaining.length) := by
  by_cases hholds : type.sizeof ≤ buffer.remaining.length
  · exact .of_ok hholds hsound hholds ⟨_, readInt_ok hsound hholds⟩
  · exact .of_error hholds hsound (Nat.zero_le _) ⟨_, readInt_error hsound hholds⟩

theorem readBool_exact : ReadsExactly readBool buffer (1 ≤ buffer.remaining.length) := by
  by_cases hholds : 1 ≤ buffer.remaining.length
  · refine .of_ok hholds hsound hholds ?_
    rw [readBool, readInt_ok hsound (show IntType.int8.sizeof ≤ _ from hholds)]
    exact ⟨_, rfl⟩
  · refine .of_error hholds hsound (Nat.zero_le _) ?_
    rw [readBool, readInt_error hsound (show ¬IntType.int8.sizeof ≤ _ from hholds)]
    exact ⟨_, rfl⟩

theorem read_skip_exact (hcount : count < 2 ^ 63) :
    ReadsExactly (read_skip count) buffer (count ≤ buffer.remaining.length) := by
  by_cases hholds : count ≤ buffer.remaining.length
  · refine .of_ok hholds hsound hholds ?_
    rw [read_skip, if_neg fun hless => (hsound.lacks_iff hcount).mp hless hholds,
      hsound.size_t_add hcount]
    exact ⟨_, rfl⟩
  · refine .of_error hholds hsound (Nat.zero_le _) ?_
    rw [read_skip, if_pos ((hsound.lacks_iff hcount).mpr hholds)]
    exact ⟨_, rfl⟩

theorem readArray_exact (hcount : count < 2 ^ 63) :
    ReadsExactly (readArray count) buffer (count ≤ buffer.remaining.length) := by
  by_cases hholds : count ≤ buffer.remaining.length
  · refine .of_ok hholds hsound hholds ?_
    rw [readArray, if_neg fun hless => (hsound.lacks_iff hcount).mp hless hholds,
      hsound.size_t_add hcount]
    exact ⟨_, rfl⟩
  · refine .of_error hholds hsound (Nat.zero_le _) ?_
    rw [readArray, if_pos ((hsound.lacks_iff hcount).mpr hholds)]
    exact ⟨_, rfl⟩

theorem ReadCString_exact (requireValidUtf8 : Bool) :
    ReadsExactly (ReadCString requireValidUtf8) buffer
      (requireValidUtf8 = true → Utf8.is_valid (takenString buffer.remaining) = true) := by
  have hread := ReadCString_eq hsound requireValidUtf8
  by_cases hinvalid : (requireValidUtf8 && !Utf8.is_valid (takenString buffer.remaining)) = true
  · rw [if_pos hinvalid] at hread
    rw [and_eq_true, not_eq_true'] at hinvalid
    refine .of_error (fun hvalid => ?_) hsound (takenLength_le _) ⟨_, hread⟩
    exact Bool.false_ne_true (hinvalid.2.symm.trans (hvalid hinvalid.1))
  · rw [if_neg hinvalid] at hread
    refine .of_ok (fun hrequire => ?_) hsound (takenLength_le _) ⟨_, hread⟩
    rw [hrequire, Bool.true_and, not_eq_true', not_eq_false] at hinvalid
    exact hinvalid

end

theorem readPackLoop_exact {guidmark : ℕ} {rounds i : ℕ} (hsound : Sound buffer) (guid : ℕ) :
    ReadsExactly (readPackLoop guidmark rounds i guid) buffer
      (markedBytes guidmark rounds i ≤ buffer.remaining.length) := by
  induction rounds generalizing buffer i guid with
  | zero => exact .of_ok (Nat.zero_le _) hsound (Nat.zero_le _) ⟨guid, rfl⟩
  | succ rounds ih =>
    rw [markedBytes_succ]
    by_cases hbit : guidmark.testBit i = true
    · rw [if_pos hbit]
      have hmask := land_one_shiftLeft_ne_zero_iff.mpr hbit
      cases hleft : buffer.remaining with
      | nil =>
        have hlacks : ¬1 ≤ buffer.remaining.length := by
          rw [hleft]
          exact not_succ_le_zero 0
        refine .of_error (not_succ_le_zero _) hsound (Nat.zero_le _) ?_
        rw [readPackLoop, if_pos hmask, if_pos ((hsound.lacks_iff (by decide)).mpr hlacks)]
        exact ⟨_, rfl⟩
      | cons byte tail =>
        have hholds : 1 ≤ buffer.remaining.length := by
          rw [hleft]
          exact Nat.le_add_left 1 _
        have hstep : readPackLoop guidmark (rounds + 1) i guid buffer =
            readPackLoop guidmark rounds (i + 1) (guid ||| (byte.toNat <<< (i * 8)))
              (buffer.advance 1) := by
          rw [readPackLoop, if_pos hmask,
            if_neg fun hless => (hsound.lacks_iff (by decide)).mp hless hholds,
            readByte_ok hsound hleft]
        have hnext := @ih (buffer.advance 1) (i + 1) (hsound.advance hholds)
          (guid ||| (byte.toNat <<< (i * 8)))
        rw [remaining_advance, hleft, drop_one, tail_cons] at hnext
        constructor
        · rw [hstep, hnext.throws, length_cons, Nat.add_le_add_iff_right]
        · rw [hstep]
          exact hnext.rpos
        · rw [hstep]
          exact hnext.storage
    · rw [if_neg hbit, Nat.add_zero]
      have hmask : ¬guidmark &&& 1 <<< i ≠ 0 :=
        fun hne => hbit (land_one_shiftLeft_ne_zero_iff.mp hne)
      have hstep : readPackLoop guidmark (rounds + 1) i guid buffer =
          readPackLoop guidmark rounds (i + 1) guid buffer := by
        rw [readPackLoop, if_neg hmask]
      have hnext := @ih buffer (i + 1) hsound guid
      constructor
      · rw [hstep]
        exact hnext.throws
      · rw [hstep]
        exact hnext.rpos
      · rw [hstep]
        exact hnext.storage

theorem readPackGUID_exact (hsound : Sound buffer) :
    ReadsExactly readPackGUID buffer (HoldsPackGUID buffer.remaining) := by
  cases hleft : buffer.remaining with
  | nil =>
    have hlacks : ¬1 ≤ buffer.remaining.length := by
      rw [hleft]
      exact not_succ_le_zero 0
    refine .of_error (by rintro ⟨_, _, ⟨⟩, _⟩) hsound (Nat.zero_le _) ?_
    rw [readPackGUID, if_pos ((hsound.lacks_iff (by decide)).mpr hlacks)]
    exact ⟨_, rfl⟩
  | cons guidmark tail =>
    have hholds : 1 ≤ buffer.remaining.length := by
      rw [hleft]
      exact Nat.le_add_left 1 _
    have hloop := @readPackLoop_exact (buffer.advance 1) guidmark.toNat 8 0
      (hsound.advance hholds) 0
    rw [remaining_advance, hleft, drop_one, tail_cons] at hloop
    have hcompl : HoldsPackGUID (guidmark :: tail) ↔
        markedBytes guidmark.toNat 8 0 ≤ tail.length := by
      constructor
      · rintro ⟨mark, rest, hbytes, hless⟩
        obtain ⟨rfl, rfl⟩ := List.cons.inj hbytes
        exact hless
      · intro hless
        exact ⟨guidmark, tail, rfl, hless⟩
    have hthrows := hloop.throws
    have hrpos := hloop.rpos
    have hstorage := hloop.storage
    rcases hresult : readPackLoop guidmark.toNat 8 0 0 (buffer.advance 1) with ⟨outcome, after⟩
    rw [hresult] at hthrows hrpos hstorage
    have hread : buffer.readPackGUID = (outcome.map (BitVec.ofNat 64), after) := by
      rw [readPackGUID, if_neg fun hless => (hsound.lacks_iff (by decide)).mp hless hholds,
        readByte_ok hsound hleft]
      dsimp only
      rw [hresult]
      cases outcome <;> rfl
    cases outcome with
    | error exception =>
      constructor
      · rw [hread, hcompl, ← hthrows]
        exact ⟨fun _ => ⟨exception, rfl⟩, fun _ => ⟨exception, rfl⟩⟩
      · rw [hread]
        exact hrpos
      · rw [hread]
        exact hstorage
    | ok guid =>
      constructor
      · rw [hread, hcompl, ← hthrows]
        exact ⟨by rintro ⟨_, ⟨⟩⟩, by rintro ⟨_, ⟨⟩⟩⟩
      · rw [hread]
        exact hrpos
      · rw [hread]
        exact hstorage

end Exact

section PastEnd

variable (hpast : buffer.size < buffer._rpos) (hrpos : buffer._rpos < 2 ^ 63)

include hpast hrpos

theorem lacks_past_end (hcount : count < 2 ^ 63) : buffer.size < size_t (buffer._rpos + count) := by
  have hnext : size_t (buffer._rpos + count) = buffer._rpos + count := mod_eq_of_lt (by omega)
  rw [hnext]
  exact Nat.lt_add_right count hpast

theorem readInt_past_end (type : IntType) : buffer.readInt type =
      (.error (.position false buffer._rpos type.sizeof buffer.size), buffer) := by
  have hsizeof := sizeof_le type
  rw [readInt, readValue, readAt, if_pos (lacks_past_end hpast hrpos (by omega))]

theorem readBool_past_end :
    buffer.readBool = (.error (.position false buffer._rpos 1 buffer.size), buffer) := by
  rw [readBool, readInt_past_end hpast hrpos]
  rfl

theorem readPackGUID_past_end :
    buffer.readPackGUID = (.error (.position false buffer._rpos 1 buffer.size), buffer) := by
  rw [readPackGUID, if_pos (lacks_past_end hpast hrpos (by decide))]

end PastEnd

end ByteBuffer

end AzerothCore.Network

/-!
## What is written is read back

The fields of a packet are written one after the other into an empty buffer.
A read in front of the bytes of a field gives the value and stands behind them,
whatever follows; so the same sequence of types gives the same values.
-/

namespace AzerothCore.Network
open List Option Nat

theorem length_bytesOf (size value : ℕ) : (bytesOf size value).length = size := by
  induction size generalizing value with
  | zero => rfl
  | succ size ih => rw [bytesOf, length_cons, ih]

theorem littleEndian_bytesOf (size value : ℕ) :
    ClientPktHeader.littleEndian (bytesOf size value) = value % 256 ^ size := by
  induction size generalizing value with
  | zero => rw [Nat.pow_zero, mod_one]; rfl
  | succ size ih =>
    have hbyte : (UInt8.ofNat value).toNat = value % 256 := UInt8.toNat_ofNat'
    calc ClientPktHeader.littleEndian (bytesOf (size + 1) value)
        = (UInt8.ofNat value).toNat +
            256 * ClientPktHeader.littleEndian (bytesOf size (value / 256)) := rfl
      _ = value % 256 + 256 * (value / 256 % 256 ^ size) := by rw [hbyte, ih]
      _ = value % (256 * 256 ^ size) := mod_mul.symm
      _ = value % 256 ^ (size + 1) := by rw [Nat.pow_succ']

namespace ByteBuffer

/-! ## The bytes of a guid -/

def markOf : ℕ → ℕ → ℕ
  | 0, _ => 0
  | rounds + 1, guid => (if guid % 256 = 0 then 0 else 1) + 2 * markOf rounds (guid / 256)

def nonzeroBytes : ℕ → ℕ → List UInt8
  | 0, _ => []
  | rounds + 1, guid =>
    if guid % 256 = 0 then nonzeroBytes rounds (guid / 256)
    else UInt8.ofNat (guid % 256) :: nonzeroBytes rounds (guid / 256)

theorem markOf_zero (rounds : ℕ) : markOf rounds 0 = 0 := by
  induction rounds with
  | zero => rfl
  | succ rounds ih => rw [markOf, zero_mod, Nat.zero_div, if_pos rfl, ih]

theorem nonzeroBytes_zero (rounds : ℕ) : nonzeroBytes rounds 0 = [] := by
  induction rounds with
  | zero => rfl
  | succ rounds ih => rw [nonzeroBytes, zero_mod, Nat.zero_div, if_pos rfl, ih]

theorem markOf_lt (rounds guid : ℕ) : markOf rounds guid < 2 ^ rounds := by
  induction rounds generalizing guid with
  | zero => exact Nat.one_pos
  | succ rounds ih =>
    have hnext := ih (guid / 256)
    rw [markOf, Nat.pow_succ]
    split
    · omega
    · omega

theorem packLoop_eq {rounds i : ℕ} (hrounds : i + rounds ≤ 8) (guid : ℕ) {mark : ℕ}
    (hmark : mark < 2 ^ i) (bytes : List UInt8) :
    packLoop rounds i guid (mark, bytes) =
      (mark + 2 ^ i * markOf rounds guid, bytes ++ nonzeroBytes rounds guid) := by
  induction rounds generalizing i guid mark bytes with
  | zero => rw [packLoop, markOf, nonzeroBytes, Nat.mul_zero, Nat.add_zero, append_nil]
  | succ rounds ih =>
    have hdiv : guid >>> 8 = guid / 256 := shiftRight_eq_div_pow guid 8
    have hmod : guid &&& 0xFF = guid % 256 := and_two_pow_sub_one_eq_mod guid 8
    have hpow : 2 ^ (i + 1) = 2 ^ i * 2 := Nat.pow_succ 2 i
    rw [packLoop, hdiv, hmod]
    by_cases hzero : guid = 0
    · rw [if_pos hzero, hzero, markOf_zero, nonzeroBytes_zero, Nat.mul_zero, Nat.add_zero,
        append_nil]
    rw [if_neg hzero, markOf, nonzeroBytes]
    by_cases hbyte : guid % 256 = 0
    · rw [if_neg (not_not.mpr hbyte), if_pos hbyte, if_pos hbyte,
        ih (by omega) (guid / 256) (by omega) bytes, hpow]
      congr 1
      ring
    have hbit : uint8 (1 <<< i) = 2 ^ i := by
      rw [one_shiftLeft]
      exact uint8_of_lt (Nat.pow_lt_pow_right (by decide) (by omega))
    have hor : mark ||| 2 ^ i = mark + 2 ^ i := by
      have hdisj := two_pow_add_eq_or_of_lt hmark 1
      rw [Nat.mul_one] at hdisj
      rw [Nat.or_comm, ← hdisj, Nat.add_comm]
    rw [if_pos hbyte, if_neg hbyte, if_neg hbyte, hbit, hor,
      ih (by omega) (guid / 256) (by omega), hpow, append_assoc]
    congr 1
    ring

theorem readPackLoop_ok {buffer : ByteBuffer} (hsound : Sound buffer) {guidmark rounds i : ℕ}
    {guid done : ℕ} (hguid : guid < 256 ^ rounds) (hdone : done < 2 ^ (i * 8))
    (hmark : guidmark / 2 ^ i = markOf rounds guid) {tail : List UInt8}
    (hleft : buffer.remaining = nonzeroBytes rounds guid ++ tail) :
    buffer.readPackLoop guidmark rounds i done =
      (.ok (done + 2 ^ (i * 8) * guid), buffer.advance (nonzeroBytes rounds guid).length) := by
  induction rounds generalizing buffer i guid done with
  | zero =>
    have hzero : guid = 0 := lt_one_iff.mp hguid
    rw [hzero, Nat.mul_zero, Nat.add_zero]
    rfl
  | succ rounds ih =>
    have hrest : guid / 256 < 256 ^ rounds := by
      exact Nat.div_lt_of_lt_mul (by rwa [Nat.mul_comm])
    have hpow : 2 ^ ((i + 1) * 8) = 2 ^ (i * 8) * 256 := by
      rw [succ_mul, Nat.pow_add]
    have hhalf : guidmark / 2 ^ (i + 1) = markOf rounds (guid / 256) := by
      rw [Nat.pow_succ, ← Nat.div_div_eq_div_mul, hmark, markOf]
      split
      · omega
      · omega
    have hsplit : guid = guid % 256 + 256 * (guid / 256) := (mod_add_div guid 256).symm
    rw [nonzeroBytes] at hleft ⊢
    by_cases hbyte : guid % 256 = 0
    · have hbit : ¬guidmark &&& 1 <<< i ≠ 0 := by
        rw [land_one_shiftLeft_ne_zero_iff, testBit_eq_decide_div_mod_eq, hmark, markOf,
          if_pos hbyte, decide_eq_true_eq]
        omega
      rw [if_pos hbyte] at hleft ⊢
      rw [readPackLoop, if_neg hbit,
        ih hsound hrest (hdone.trans_le (Nat.pow_le_pow_right (by decide) (by omega))) hhalf
          hleft, hpow, Nat.mul_assoc]
      have hguid256 : 256 * (guid / 256) = guid := by omega
      rw [hguid256]
    · have hbit : guidmark &&& 1 <<< i ≠ 0 := by
        rw [land_one_shiftLeft_ne_zero_iff, testBit_eq_decide_div_mod_eq, hmark, markOf,
          if_neg hbyte, decide_eq_true_eq]
        omega
      have htoNat : (UInt8.ofNat (guid % 256)).toNat = guid % 256 := by
        exact mod_mod _ _
      rw [if_neg hbyte] at hleft ⊢
      have hholds : 1 ≤ buffer.remaining.length := by
        rw [hleft]
        exact Nat.le_add_left 1 _
      have hor : done ||| (guid % 256) <<< (i * 8) = done + 2 ^ (i * 8) * (guid % 256) := by
        rw [shiftLeft_eq, Nat.mul_comm, Nat.or_comm, ← two_pow_add_eq_or_of_lt hdone, Nat.add_comm]
      have hnext : done + 2 ^ (i * 8) * (guid % 256) < 2 ^ ((i + 1) * 8) := by
        have hmul : 2 ^ (i * 8) * (guid % 256) ≤ 2 ^ (i * 8) * 255 :=
          Nat.mul_le_mul_left _ (by omega)
        omega
      have htail : (buffer.advance 1).remaining = nonzeroBytes rounds (guid / 256) ++ tail := by
        rw [remaining_advance, hleft]
        rfl
      rw [readPackLoop, if_pos hbit,
        if_neg fun hless => (hsound.lacks_iff (by decide)).mp hless hholds,
        readByte_ok hsound hleft]
      dsimp only
      rw [htoNat, hor, ih (hsound.advance hholds) hrest hnext hhalf htail, advance_advance,
        length_cons, Nat.add_comm 1, hpow]
      congr 2
      calc done + 2 ^ (i * 8) * (guid % 256) + 2 ^ (i * 8) * 256 * (guid / 256)
          = done + 2 ^ (i * 8) * (guid % 256 + 256 * (guid / 256)) := by ring
        _ = done + 2 ^ (i * 8) * guid := by rw [← hsplit]

/-! ## The bytes of a field -/

def packedGUID (guid : BitVec 64) : List UInt8 :=
  UInt8.ofNat (markOf 8 guid.toNat) :: nonzeroBytes 8 guid.toNat

def encode : Field → List UInt8
  | ⟨.int type, value⟩ => bytesOf type.sizeof value.toNat
  | ⟨.bool, value⟩ => [if value then 1 else 0]
  | ⟨.string _, value⟩ => (value : List UInt8) ++ [0]
  | ⟨.packGUID, value⟩ => packedGUID value

def encodeAll (fields : List Field) : List UInt8 := fields.flatMap encode

theorem encodeAll_cons (field : Field) (fields : List Field) :
    encodeAll (field :: fields) = encode field ++ encodeAll fields := flatMap_cons

def Readable : Field → Prop
  | ⟨.string requireValidUtf8, value⟩ =>
    0 ∉ (value : List UInt8) ∧ (requireValidUtf8 = true → Utf8.is_valid value = true)
  | _ => True

theorem encode_ne_nil (field : Field) : encode field ≠ [] := by
  obtain ⟨type, value⟩ := field
  cases type with
  | int type =>
    have hlen := length_bytesOf type.sizeof (value : BitVec (8 * type.sizeof)).toNat
    intro hnil
    have hzero : type.sizeof = 0 := hlen.symm.trans (congrArg List.length hnil)
    cases type <;> exact absurd hzero (by decide)
  | bool | packGUID => exact cons_ne_nil _ _
  | string requireValidUtf8 => exact append_ne_nil_of_right_ne_nil _ (cons_ne_nil _ _)

variable {field : Field} {fields : List Field}

section Reading

variable {buffer : ByteBuffer} {tail : List UInt8}

theorem length_le_of_remaining {bytes : List UInt8} (hleft : buffer.remaining = bytes ++ tail) :
    bytes.length ≤ buffer.remaining.length := by
  rw [hleft, length_append]
  exact Nat.le_add_right _ _

theorem readInt_back (hsound : Sound buffer) (type : IntType) (value : BitVec (8 * type.sizeof))
    (hleft : buffer.remaining = bytesOf type.sizeof value.toNat ++ tail) :
    buffer.readInt type = (.ok value, buffer.advance (bytesOf type.sizeof value.toNat).length) := by
  have hlen := length_bytesOf type.sizeof value.toNat
  have hholds := length_le_of_remaining hleft
  rw [hlen] at hholds
  have htake : buffer.remaining.take type.sizeof = bytesOf type.sizeof value.toNat := by
    rw [hleft]
    exact take_left' hlen
  have hpow : 256 ^ type.sizeof = 2 ^ (8 * type.sizeof) := by
    rw [Nat.pow_mul]
  rw [hlen, readInt_ok hsound hholds, htake, littleEndian_bytesOf, hpow, mod_eq_of_lt value.isLt,
    BitVec.ofNat_toNat, BitVec.setWidth_eq]

theorem readBool_back (hsound : Sound buffer) (value : Bool)
    (hleft : buffer.remaining = (if value then 1 else 0) :: tail) :
    buffer.readBool = (.ok value, buffer.advance 1) := by
  have hholds : IntType.int8.sizeof ≤ buffer.remaining.length := by
    rw [hleft]
    exact Nat.le_add_left 1 _
  rw [readBool, readInt_ok hsound hholds, hleft]
  cases value with
  | false | true => rfl

theorem takenString_of_zero {value : List UInt8} (hzero : 0 ∉ value) :
    takenString (value ++ 0 :: tail) = value := by
  rw [takenString, takeWhile_append_of_pos]
  · rw [takeWhile_cons_of_neg (by decide), append_nil]
  · intro byte hmem
    exact decide_eq_true fun heq => hzero (heq ▸ hmem)

section

variable (hsound : Sound buffer)
include hsound

theorem ReadCString_back {value : List UInt8} (hzero : 0 ∉ value)
    {requireValidUtf8 : Bool} (hvalid : requireValidUtf8 = true → Utf8.is_valid value = true)
    (hleft : buffer.remaining = value ++ 0 :: tail) :
    buffer.ReadCString requireValidUtf8 = (.ok value, buffer.advance (value.length + 1)) := by
  have htaken : takenString buffer.remaining = value := hleft ▸ takenString_of_zero hzero
  have hlen : takenLength buffer.remaining = value.length + 1 := by
    rw [takenLength, htaken, hleft, length_append, length_cons]
    omega
  rw [ReadCString_eq hsound, htaken, hlen, if_neg]
  rw [Bool.and_eq_true, Bool.not_eq_true']
  rintro ⟨hrequire, hinvalid⟩
  exact Bool.false_ne_true (hinvalid.symm.trans (hvalid hrequire))

theorem readPackGUID_back (guid : BitVec 64)
    (hleft : buffer.remaining = packedGUID guid ++ tail) :
    buffer.readPackGUID = (.ok guid, buffer.advance (packedGUID guid).length) := by
  have hmark : (UInt8.ofNat (markOf 8 guid.toNat)).toNat = markOf 8 guid.toNat := by
    exact mod_eq_of_lt (markOf_lt 8 guid.toNat)
  have hfirst : buffer.remaining =
      UInt8.ofNat (markOf 8 guid.toNat) :: (nonzeroBytes 8 guid.toNat ++ tail) := hleft
  have hholds : 1 ≤ buffer.remaining.length := by
    rw [hfirst]
    exact Nat.le_add_left 1 _
  have hrest : (buffer.advance 1).remaining = nonzeroBytes 8 guid.toNat ++ tail := by
    rw [remaining_advance, hfirst]
    rfl
  have hguid : guid.toNat < 256 ^ 8 := guid.isLt
  have hmarked : markOf 8 guid.toNat / 2 ^ 0 = markOf 8 guid.toNat := Nat.div_one _
  have hnone : 0 < 2 ^ (0 * 8) := Nat.one_pos
  have hloop := readPackLoop_ok (hsound.advance hholds) hguid hnone hmarked hrest
  rw [readPackGUID, if_neg fun hless => (hsound.lacks_iff (by decide)).mp hless hholds,
    readByte_ok hsound hfirst]
  dsimp only
  rw [hmark, hloop]
  dsimp only
  rw [advance_advance, Nat.zero_mul, Nat.pow_zero, Nat.one_mul, Nat.zero_add, BitVec.ofNat_toNat,
    BitVec.setWidth_eq, packedGUID, length_cons, Nat.add_comm 1]

theorem read_back (hreadable : Readable field)
    (hleft : buffer.remaining = encode field ++ tail) :
    field.1.read buffer = (.ok field.2, buffer.advance (encode field).length) := by
  obtain ⟨type, value⟩ := field
  cases type with
  | int type => exact readInt_back hsound type value hleft
  | bool => exact readBool_back hsound value hleft
  | string requireValidUtf8 =>
    have hzero : buffer.remaining = (value : List UInt8) ++ 0 :: tail := by
      rw [hleft, encode, append_assoc, singleton_append]
    have hread := ReadCString_back hsound hreadable.1 hreadable.2 hzero
    rw [encode, length_append, length_singleton]
    exact hread
  | packGUID => exact readPackGUID_back hsound value hleft

theorem readAll_back (hreadable : ∀ field ∈ fields, Readable field)
    (hleft : buffer.remaining = encodeAll fields ++ tail) :
    readAll (fields.map Sigma.fst) buffer =
      (.ok fields, buffer.advance (encodeAll fields).length) := by
  induction fields generalizing buffer with
  | nil => rfl
  | cons field fields ih =>
    rw [encodeAll_cons, append_assoc] at hleft
    have hread := read_back hsound (hreadable field mem_cons_self) hleft
    have hnext : Sound (buffer.advance (encode field).length) :=
      hsound.advance (length_le_of_remaining hleft)
    have hrest : (buffer.advance (encode field).length).remaining = encodeAll fields ++ tail := by
      rw [remaining_advance, hleft]
      exact drop_left
    have hall := ih hnext (fun other hmem => hreadable other (mem_cons_of_mem _ hmem)) hrest
    rw [map_cons, readAll, hread]
    dsimp only
    rw [hall, advance_advance, encodeAll_cons, length_append]

end

end Reading

section Writing

variable {buffer after : ByteBuffer} {bytes : List UInt8}

def extend (buffer : ByteBuffer) (bytes : List UInt8) : ByteBuffer :=
  ⟨buffer._rpos, buffer.size + bytes.length, buffer._storage ++ bytes⟩

theorem size_extend : (buffer.extend bytes).size = buffer.size + bytes.length := length_append

theorem extend_extend (first second : List UInt8) :
    (buffer.extend first).extend second = buffer.extend (first ++ second) := by
  have hsize : (buffer.extend first).size = buffer.size + first.length := size_extend
  rw [extend, hsize, extend, extend, append_assoc, length_append, Nat.add_assoc]

theorem append_eq (hne : bytes ≠ []) (hless : buffer.size < 10000000)
    (hwpos : buffer._wpos = buffer.size) (hsmall : buffer.size + bytes.length < 2 ^ 63) :
    buffer.append bytes = some (buffer.extend bytes) := by
  have hnew : size_t (buffer._wpos + bytes.length) = buffer.size + bytes.length := by
    rw [hwpos]
    exact mod_eq_of_lt (by omega)
  have hpos : 0 < bytes.length := length_pos_of_ne_nil hne
  have hcondition : ¬(bytes = [] ∨ 10000000 ≤ buffer.size) := by
    rintro (hnil | hlarge)
    · exact hne hnil
    · omega
  have htake : (MessageBuffer.resized buffer._storage (buffer.size + bytes.length)).take
      buffer.size = buffer._storage := by
    have hlong : buffer._storage.length ≤ buffer.size + bytes.length := Nat.le_add_right _ _
    rw [MessageBuffer.resized, take_of_length_le hlong]
    exact take_left
  have hdrop : (MessageBuffer.resized buffer._storage (buffer.size + bytes.length)).drop
      (buffer.size + bytes.length) = [] :=
    drop_eq_nil_of_le (MessageBuffer.length_resized _ _).le
  rw [append, if_neg hcondition]
  dsimp only
  rw [hnew, if_pos (by omega), MessageBuffer.copied, hwpos, htake, hdrop, append_nil]
  rfl

theorem append_some (hsome : buffer.append bytes = some after) :
    bytes ≠ [] ∧ buffer.size < 10000000 := by
  rw [append] at hsome
  by_cases hcondition : bytes = [] ∨ 10000000 ≤ buffer.size
  · rw [if_pos hcondition] at hsome
    cases hsome
  · rw [not_or] at hcondition
    exact ⟨hcondition.1, Nat.lt_of_not_le hcondition.2⟩

theorem write_cases (field : Field) :
    (∀ buffer : ByteBuffer, field.write buffer = buffer.append (encode field)) ∨
      ∃ value, value ≠ [] ∧ encode field = value ++ [0] ∧ ∀ buffer : ByteBuffer,
        field.write buffer = (buffer.append value).bind fun buffer => buffer.append [0] := by
  obtain ⟨type, value⟩ := field
  cases type with
  | int | bool => exact .inl fun _ => rfl
  | string requireValidUtf8 =>
    by_cases hempty : (value : List UInt8) = []
    · refine .inl fun buffer => ?_
      change writeString value buffer = _
      unfold writeString
      rw [if_pos hempty, encode, hempty]
      rfl
    · refine .inr ⟨value, hempty, rfl, fun buffer => ?_⟩
      change writeString value buffer = _
      unfold writeString
      rw [if_neg hempty]
      cases buffer.append value with
      | none => rfl
      | some _ => rfl
  | packGUID =>
    refine .inl fun buffer => ?_
    have hnone : 0 < 2 ^ 0 := Nat.one_pos
    have hpack := packLoop_eq (show 0 + 8 ≤ 8 from Nat.le_refl 8)
      (value : BitVec 64).toNat hnone []
    change appendPackGUID value buffer = _
    unfold appendPackGUID
    rw [hpack, Nat.zero_add, Nat.pow_zero, Nat.one_mul, nil_append]
    rfl

section

variable (hwpos : buffer._wpos = buffer.size)
include hwpos

theorem write_spec (hsmall : buffer.size + (encode field).length < 2 ^ 63)
    (hwrite : field.write buffer = some after) : after = buffer.extend (encode field) := by
  rcases write_cases field with hone | ⟨value, hne, hencode, htwo⟩
  · rw [hone] at hwrite
    obtain ⟨hbytes, hless⟩ := append_some hwrite
    rw [append_eq hbytes hless hwpos hsmall] at hwrite
    exact (some.inj hwrite).symm
  rw [htwo] at hwrite
  obtain ⟨middle, hfirst, hsecond⟩ := bind_eq_some_iff.mp hwrite
  rw [hencode, length_append, length_singleton] at hsmall
  have hless := (append_some hfirst).2
  rw [append_eq hne hless hwpos (by omega)] at hfirst
  cases hfirst
  have hless' := (append_some hsecond).2
  rw [append_eq (cons_ne_nil _ _) hless' size_extend.symm (by
    rw [size_extend, length_singleton]
    omega)] at hsecond
  rw [← some.inj hsecond, extend_extend, hencode]

theorem write_succeeds (hsmall : buffer.size + (encode field).length ≤ 10000000) :
    field.write buffer = some (buffer.extend (encode field)) := by
  have hpos : 0 < (encode field).length := length_pos_of_ne_nil (encode_ne_nil field)
  rcases write_cases field with hone | ⟨value, hne, hencode, htwo⟩
  · rw [hone]
    exact append_eq (encode_ne_nil field) (by omega) hwpos (by omega)
  rw [hencode, length_append, length_singleton] at hsmall
  have hfirst := append_eq hne (by omega) hwpos (by omega)
  have hsize : (buffer.extend value).size = buffer.size + value.length := size_extend
  have hsecond : (buffer.extend value).append [0] = some ((buffer.extend value).extend [0]) :=
    append_eq (cons_ne_nil 0 []) (by omega) size_extend.symm (by
      rw [length_singleton]
      omega)
  rw [htwo, hfirst, bind_some, hsecond, extend_extend, hencode]

theorem writeAll_spec (hsmall : buffer.size + (encodeAll fields).length < 2 ^ 63)
    (hwrite : writeAll fields buffer = some after) : after = buffer.extend (encodeAll fields) := by
  induction fields generalizing buffer with
  | nil =>
    have hsame : buffer = after := some.inj hwrite
    rw [← hsame, encodeAll, flatMap_nil, extend, append_nil, length_nil, Nat.add_zero, ← hwpos]
  | cons field fields ih =>
    obtain ⟨middle, hfirst, hrest⟩ := bind_eq_some_iff.mp hwrite
    rw [encodeAll_cons, length_append] at hsmall
    obtain rfl := write_spec hwpos (by omega) hfirst
    have hnext := ih size_extend.symm (by
      rw [size_extend]
      omega) hrest
    rw [hnext, extend_extend, encodeAll_cons]

theorem writeAll_succeeds (hsmall : buffer.size + (encodeAll fields).length ≤ 10000000) :
    writeAll fields buffer = some (buffer.extend (encodeAll fields)) := by
  induction fields generalizing buffer with
  | nil =>
    rw [encodeAll, flatMap_nil, extend, append_nil, length_nil, Nat.add_zero, ← hwpos]
    rfl
  | cons field fields ih =>
    rw [encodeAll_cons, length_append] at hsmall
    have hfirst : field.write buffer = some (buffer.extend (encode field)) :=
      write_succeeds hwpos (by omega)
    have hrest : writeAll fields (buffer.extend (encode field)) =
        some ((buffer.extend (encode field)).extend (encodeAll fields)) :=
      ih size_extend.symm (by
        rw [size_extend]
        omega)
    rw [writeAll, foldlM_cons, hfirst]
    change writeAll fields _ = _
    rw [hrest, extend_extend, encodeAll_cons]

end

end Writing

theorem sound_extend_empty {bytes : List UInt8} (hsmall : bytes.length < 2 ^ 63) :
    Sound (empty.extend bytes) := by
  have hsize : (empty.extend bytes).size = bytes.length := size_extend.trans (Nat.zero_add _)
  exact ⟨Nat.zero_le _, hsize ▸ hsmall⟩

/-- The fields of a packet are read back, up to its end; a packet of at most
10000000 bytes can be written; and in any storage a read throws exactly when
the value is not complete, and stays in the storage. Past the end there is
nothing to read. -/
theorem fields_are_read_back : (∀ fields : List Field, (∀ field ∈ fields, Readable field) →
      (encodeAll fields).length < 2 ^ 63 → ∀ buffer, writeAll fields empty = some buffer →
        readAll (fields.map Sigma.fst) buffer =
          (.ok fields, { buffer with _rpos := buffer.size })) ∧
    (∀ fields : List Field, (encodeAll fields).length ≤ 10000000 →
      ∃ buffer, writeAll fields empty = some buffer) ∧
    (∀ buffer, Sound buffer →
      (∀ type, ReadsExactly (readInt type) buffer (type.sizeof ≤ buffer.remaining.length)) ∧
      ReadsExactly readBool buffer (1 ≤ buffer.remaining.length) ∧
      (∀ len < 2 ^ 63, ReadsExactly (readArray len) buffer (len ≤ buffer.remaining.length) ∧
        ReadsExactly (read_skip len) buffer (len ≤ buffer.remaining.length)) ∧
      (∀ requireValidUtf8, ReadsExactly (ReadCString requireValidUtf8) buffer
        (requireValidUtf8 = true → Utf8.is_valid (takenString buffer.remaining) = true)) ∧
      ReadsExactly readPackGUID buffer (HoldsPackGUID buffer.remaining)) ∧
    ∀ buffer, buffer.size < buffer._rpos → buffer._rpos < 2 ^ 63 →
      (∀ type, ∃ exception, readInt type buffer = (.error exception, buffer)) ∧
      (∃ exception, readBool buffer = (.error exception, buffer)) ∧
      ∃ exception, readPackGUID buffer = (.error exception, buffer) := by
  refine ⟨?_, ?_, ?_, ?_⟩
  · intro fields hreadable hsmall buffer hwrite
    have hbuffer : buffer = empty.extend (encodeAll fields) :=
      writeAll_spec rfl ((Nat.zero_add _).trans_lt hsmall) hwrite
    have hremaining : buffer.remaining = encodeAll fields ++ [] := by
      rw [hbuffer, append_nil]
      rfl
    have hsound : Sound buffer := hbuffer ▸ sound_extend_empty hsmall
    have hread := readAll_back hsound hreadable hremaining
    rw [hread, hbuffer, advance, size_extend]
    rfl
  · intro fields hsmall
    exact ⟨_, writeAll_succeeds rfl ((Nat.zero_add _).trans_le hsmall)⟩
  · intro buffer hsound
    exact ⟨readInt_exact hsound, readBool_exact hsound,
      fun _ hlen => ⟨readArray_exact hsound hlen, read_skip_exact hsound hlen⟩,
      ReadCString_exact hsound, readPackGUID_exact hsound⟩
  · intro buffer hpast hrpos
    exact ⟨fun type => ⟨_, readInt_past_end hpast hrpos type⟩, ⟨_, readBool_past_end hpast hrpos⟩,
      ⟨_, readPackGUID_past_end hpast hrpos⟩⟩

/-- A string that is not UTF-8 is written and cannot be read with `operator>>`. -/
theorem invalid_string_is_not_read_back : ∃ buffer,
    writeAll [⟨.string true, [0xFF]⟩] empty = some buffer ∧ (0 : UInt8) ∉ [(0xFF : UInt8)] ∧
      ∀ fields, (readAll [.string true] buffer).1 ≠ .ok fields := by
  refine ⟨⟨0, 2, [0xFF, 0]⟩, by decide +kernel, by decide, fun fields hread => ?_⟩
  cases hread

end ByteBuffer

end AzerothCore.Network
