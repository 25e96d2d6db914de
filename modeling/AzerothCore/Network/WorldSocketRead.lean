import AzerothCore.Collections.Reachability
import AzerothCore.Network.Buffers

/-!
# The receiving side of a world socket

`ReadHandler` moves the bytes of each read into a header buffer and a packet
buffer and hands every complete packet to `ReadDataHandler`. The functions
below have no result where the code would fail an assertion or move a buffer
position out of its storage.
-/

namespace AzerothCore.Network

def CMSG_PING : ℕ := 0x1DC
def CMSG_AUTH_SESSION : ℕ := 0x1ED
def CMSG_WARDEN_DATA : ℕ := 0x2E7
def CMSG_KEEP_ALIVE : ℕ := 0x407

/-- `READ_BLOCK_SIZE`. -/
def READ_BLOCK_SIZE : ℕ := 4096

inductive ReadDataHandlerResult where
  | Ok
  | Error
  | WaitingForQuery

/-- What the socket calls: the cipher, the session, the handlers of the packets
the socket answers itself, and the callbacks of its database queries. A handler
that throws on a malformed packet returns `false`. -/
structure Environment (ω κ : Type*) where
  cipher : StreamCipher κ
  HandlePing : ω → List UInt8 → Bool × ω
  HandleAuthSession : ω → List UInt8 → Bool × ω
  _authed : ω → Bool
  _worldSession : ω → Bool
  ResetTimeOutTime : ω → Bool → ω
  opcodeTable : ℕ → Bool
  QueuePacket : ω → ℕ → List UInt8 → ω
  /-- Whether the callback ends in `AsyncRead` and not in
  `DelayedCloseSocket`, and the keys it leaves. -/
  QueryCallback : ω → AuthCrypt κ → Bool × AuthCrypt κ × ω

inductive ReadEvent where
  /-- These six bytes were decrypted. -/
  | decrypted (bytes : List UInt8)
  | packet (opcode : ℕ) (payload : List UInt8)
deriving DecidableEq

structure WorldSocket (ω κ : Type*) where
  _readBuffer : MessageBuffer
  _headerBuffer : MessageBuffer
  _packetBuffer : MessageBuffer
  _authCrypt : AuthCrypt κ
  _closed : Bool
  _closing : Bool
  world : ω
  /-- An asynchronous read is pending. -/
  reading : Bool
  /-- A query is outstanding whose callback may resume reading. -/
  waiting : Bool
  trace : List ReadEvent

/-- The switch of `ReadDataHandler` on the opcode. -/
def Environment.dispatch {ω κ : Type*} (env : Environment ω κ) (world : ω) (opcode : ℕ)
    (payload : List UInt8) : ReadDataHandlerResult × ω :=
  if opcode = CMSG_PING then
    let (handled, world) := env.HandlePing world payload
    (if handled then .Ok else .Error, world)
  else if opcode = CMSG_AUTH_SESSION then
    if env._authed world then
      (.Error, world)
    else
      let (parsed, world) := env.HandleAuthSession world payload
      (if parsed then .WaitingForQuery else .Error, world)
  else if opcode = CMSG_KEEP_ALIVE then
    if env._worldSession world then
      (.Ok, env.ResetTimeOutTime world true)
    else
      (.Error, world)
  else if !env._worldSession world then
    (.Error, world)
  else if !env.opcodeTable opcode then
    (.Error, world)
  else
    let world := if opcode ≠ CMSG_WARDEN_DATA then env.ResetTimeOutTime world false else world
    (.Ok, env.QueuePacket world opcode payload)

/-- How a part of the loop body is left. -/
inductive Turn where
  | proceed
  /-- `break`: more bytes are needed. -/
  | await
  /-- `return`. -/
  | leave

def Fill (source target : MessageBuffer) : Option (MessageBuffer × MessageBuffer) :=
  let size := min source.GetActiveSize target.GetRemainingSpace
  match target.Write (source.active.take size), source.ReadCompleted size with
  | some target, some source => some (source, target)
  | _, _ => none

namespace WorldSocket

variable {ω κ : Type*} (env : Environment ω κ)

def IsOpen (socket : WorldSocket ω κ) : Bool := !socket._closed && !socket._closing

def CloseSocket (socket : WorldSocket ω κ) : WorldSocket ω κ := { socket with _closed := true }

def DelayedCloseSocket (socket : WorldSocket ω κ) : WorldSocket ω κ :=
  { socket with _closing := true }

def AsyncRead (socket : WorldSocket ω κ) : WorldSocket ω κ :=
  if socket.IsOpen then
    { socket with
      _readBuffer := socket._readBuffer.Normalize.EnsureFreeSpace
      reading := true }
  else
    socket

def DecryptHeader (socket : WorldSocket ω κ) : Option (WorldSocket ω κ) :=
  if socket._authCrypt.IsInitialized then
    match socket._authCrypt.DecryptRecv env.cipher socket._headerBuffer.active with
    | none => none
    | some (plain, crypt) =>
      match socket._headerBuffer.Overwrite plain with
      | none => none
      | some headerBuffer =>
        some { socket with
          _headerBuffer := headerBuffer
          _authCrypt := crypt
          trace := socket.trace ++ [.decrypted socket._headerBuffer.active] }
  else
    some socket

def ReadHeaderHandler (socket : WorldSocket ω κ) : Option (Bool × WorldSocket ω κ) :=
  if socket._headerBuffer.GetActiveSize = ClientPktHeader.sizeOfHeader then
    match socket.DecryptHeader env with
    | none => none
    | some socket =>
      let bytes := socket._headerBuffer.active
      let header := ClientPktHeader.ofBytes bytes
      if header.IsValidSize && header.IsValidOpcode then
        match socket._headerBuffer.Overwrite (ClientPktHeader.hostBytes bytes),
          socket._packetBuffer.Resize (header.size - 4) with
        | some headerBuffer, some packetBuffer =>
          some (true, { socket with
            _headerBuffer := headerBuffer
            _packetBuffer := packetBuffer })
        | _, _ => none
      else
        some (false, socket)
  else
    none

def ReadDataHandler (socket : WorldSocket ω κ) : ReadDataHandlerResult × WorldSocket ω κ :=
  let opcode := ClientPktHeader.hostCmd socket._headerBuffer.active
  let payload := socket._packetBuffer._storage
  let (result, world) := env.dispatch socket.world opcode payload
  (result, { socket with
    _packetBuffer := .moved
    world := world
    trace := socket.trace ++ [.packet opcode payload] })

def ReceiveHeader (socket : WorldSocket ω κ) : Option (Turn × WorldSocket ω κ) :=
  if socket._headerBuffer.GetRemainingSpace > 0 then
    match Fill socket._readBuffer socket._headerBuffer with
    | none => none
    | some (readBuffer, headerBuffer) =>
      let socket := { socket with _readBuffer := readBuffer, _headerBuffer := headerBuffer }
      if headerBuffer.GetRemainingSpace > 0 then
        if readBuffer.GetActiveSize = 0 then some (.await, socket) else none
      else
        match socket.ReadHeaderHandler env with
        | none => none
        | some (false, socket) => some (.leave, socket.CloseSocket)
        | some (true, socket) => some (.proceed, socket)
  else
    some (.proceed, socket)

def ReceivePayload (socket : WorldSocket ω κ) : Option (Turn × WorldSocket ω κ) :=
  if socket._packetBuffer.GetRemainingSpace > 0 then
    match Fill socket._readBuffer socket._packetBuffer with
    | none => none
    | some (readBuffer, packetBuffer) =>
      let socket := { socket with _readBuffer := readBuffer, _packetBuffer := packetBuffer }
      if packetBuffer.GetRemainingSpace > 0 then
        if readBuffer.GetActiveSize = 0 then some (.await, socket) else none
      else
        some (.proceed, socket)
  else
    some (.proceed, socket)

def HandlePacket (socket : WorldSocket ω κ) : Turn × WorldSocket ω κ :=
  let (result, socket) := socket.ReadDataHandler env
  let socket := { socket with _headerBuffer := socket._headerBuffer.Reset }
  match result with
  | .Ok => (.proceed, socket)
  | .WaitingForQuery => (.leave, { socket with waiting := true })
  | .Error => (.leave, socket.CloseSocket)

/-- The body of the loop. -/
def ReadTurn (socket : WorldSocket ω κ) : Option (Turn × WorldSocket ω κ) :=
  match socket.ReceiveHeader env with
  | some (.proceed, socket) =>
    match socket.ReceivePayload with
    | some (.proceed, socket) => some (socket.HandlePacket env)
    | left => left
  | left => left

/-- The loop of `ReadHandler` and the read that follows it. Every turn consumes
a byte, so as many turns as there are bytes and one more are enough. -/
def ReadLoop : ℕ → WorldSocket ω κ → Option (WorldSocket ω κ)
  | 0, _ => none
  | turns + 1, socket =>
    if socket._readBuffer.GetActiveSize > 0 then
      match socket.ReadTurn env with
      | none => none
      | some (.proceed, socket) => ReadLoop turns socket
      | some (.await, socket) => some socket.AsyncRead
      | some (.leave, socket) => some socket
    else
      some socket.AsyncRead

def ReadHandler (socket : WorldSocket ω κ) : Option (WorldSocket ω κ) :=
  if socket.IsOpen then
    socket.ReadLoop env (socket._readBuffer.GetActiveSize + 1)
  else
    some socket

def ReadHandlerInternal (socket : WorldSocket ω κ) (chunk : List UInt8) :
    Option (WorldSocket ω κ) :=
  match socket._readBuffer.Write chunk with
  | none => none
  | some readBuffer =>
    ReadHandler env { socket with _readBuffer := readBuffer, reading := false }

def ProcessQueryCallback (socket : WorldSocket ω κ) : WorldSocket ω κ :=
  let (resumes, crypt, world) := env.QueryCallback socket.world socket._authCrypt
  let socket := { socket with _authCrypt := crypt, world := world, waiting := false }
  if resumes then socket.AsyncRead else socket.DelayedCloseSocket

/-- A socket after `Start`: the query on its address is outstanding. Bytes that
were read together with a proxy header are still in the read buffer. -/
def started (crypt : AuthCrypt κ) (world : ω) (readBuffer : MessageBuffer) : WorldSocket ω κ where
  _readBuffer := readBuffer
  _headerBuffer := .ofSize ClientPktHeader.sizeOfHeader
  _packetBuffer := .ofSize 4096
  _authCrypt := crypt
  _closed := false
  _closing := false
  world := world
  reading := false
  waiting := true
  trace := []

end WorldSocket

inductive Input where
  | bytes (chunk : List UInt8)
  | readError
  | queryResult
  | close
  | delayedClose

/-- A socket with what has been received: all bytes that came while it was open,
and how many callbacks resumed it before the last of them. -/
structure Connection (ω κ : Type*) where
  socket : WorldSocket ω κ
  received : List UInt8
  resumptions : ℕ
  /-- Reading was resumed and nothing has been received since. -/
  resumed : Bool

namespace Connection

variable {ω κ : Type*} (env : Environment ω κ)

def started (crypt : AuthCrypt κ) (world : ω) (readBuffer : MessageBuffer) : Connection ω κ where
  socket := .started crypt world readBuffer
  received := readBuffer.active
  resumptions := 0
  resumed := false

/-- Reads complete when one is pending, with at most the bytes there is room
for; a query is answered when one is outstanding. -/
def Accepts (connection : Connection ω κ) : Input → Prop
  | .bytes chunk => connection.socket.reading = true ∧
      chunk.length ≤ connection.socket._readBuffer.GetRemainingSpace
  | .readError => connection.socket.reading = true
  | .queryResult => connection.socket.waiting = true
  | .close => True
  | .delayedClose => True

instance (connection : Connection ω κ) (input : Input) : Decidable (connection.Accepts input) := by
  cases input <;> unfold Accepts <;> infer_instance

/-- `none` is a failed assertion or an access outside a buffer. -/
def handle (connection : Connection ω κ) (input : Input) : Option (Connection ω κ) :=
  let socket := connection.socket
  match input with
  | .bytes chunk =>
    match socket.ReadHandlerInternal env chunk with
    | none => none
    | some after =>
      if socket.IsOpen then
        some {
          socket := after
          received := connection.received ++ chunk
          resumptions := connection.resumptions + (if connection.resumed then 1 else 0)
          resumed := false }
      else
        some { connection with socket := after }
  | .readError => some { connection with socket := { socket with reading := false }.CloseSocket }
  | .queryResult =>
    some { connection with
      socket := socket.ProcessQueryCallback env
      resumed := true }
  | .close => some { connection with socket := socket.CloseSocket }
  | .delayedClose => some { connection with socket := socket.DelayedCloseSocket }

def run (connection : Connection ω κ) (input : Input) : Option (Connection ω κ) :=
  if connection.Accepts input then connection.handle env input else none

end Connection

end AzerothCore.Network

/-! ## The PROXY protocol header -/

namespace AzerothCore.Network

inductive ProxyHeaderReadingState where
  | NOT_STARTED
  | STARTED
  | FINISHED
  | FAILED
  deriving DecidableEq

def PROXY_HEADER_ADDRESS_FAMILY_AND_PROTOCOL_TCP_V4 : ℕ := 0x11

def PROXY_HEADER_ADDRESS_FAMILY_AND_PROTOCOL_TCP_V6 : ℕ := 0x21

/-- `boost::asio::ip::address`, made from the bytes of an address. -/
inductive IpAddress where
  | v4 (bytes : List UInt8)
  | v6 (bytes : List UInt8)
  deriving DecidableEq

/-- A socket while the header is read. `reading` says that a read is outstanding. -/
structure ProxySocket where
  _readBuffer : MessageBuffer
  _proxyHeaderReadingState : ProxyHeaderReadingState
  _remoteAddress : IpAddress
  _remotePort : ℕ
  _closed : Bool
  _closing : Bool
  reading : Bool

/-- Bytes behind `GetReadPointer`; `none` when they have not been received. -/
def MessageBuffer.bytesAt (packet : MessageBuffer) (offset count : ℕ) : Option (List UInt8) :=
  if offset + count ≤ packet.GetActiveSize then some ((packet.active.drop offset).take count)
  else none

/-- `(bytes[0] << 8) | bytes[1]` -/
def networkShort (bytes : List UInt8) : ℕ :=
  match bytes with
  | [high, low] => (high.toNat <<< 8) ||| low.toNat
  | _ => 0

namespace ProxySocket

def init (address : IpAddress) (port : ℕ) : ProxySocket :=
  ⟨.ofSize READ_BLOCK_SIZE, .NOT_STARTED, address, port, false, false, false⟩

variable (socket : ProxySocket)

def IsOpen : Bool := !socket._closed && !socket._closing

def AsyncReadProxyHeader : ProxySocket :=
  if socket.IsOpen then
    { socket with
      _proxyHeaderReadingState := .STARTED
      _readBuffer := socket._readBuffer.Normalize.EnsureFreeSpace
      reading := true }
  else socket

def CloseSocket : ProxySocket := { socket with _closed := true }

def fail : ProxySocket :=
  { socket with _proxyHeaderReadingState := .FAILED }

/-- The header has been read: `len + 16` bytes are completed. -/
def finish (len : ℕ) : Option ProxySocket :=
  (socket._readBuffer.ReadCompleted (len + 16)).map fun packet =>
    { socket with _readBuffer := packet, _proxyHeaderReadingState := .FINISHED }

/-- One case of the `switch`: an address of `addressSize` bytes, the address of the server,
and the port. -/
def readAddress (len addressSize minimum : ℕ)
    (address : List UInt8 → IpAddress) : Option ProxySocket :=
  if socket._readBuffer.GetActiveSize - 16 < minimum then some socket.AsyncReadProxyHeader
  else
    match socket._readBuffer.bytesAt 16 addressSize,
        socket._readBuffer.bytesAt (16 + 2 * addressSize) 2 with
    | some b, some port =>
      { socket with _remoteAddress := address b, _remotePort := networkShort port }.finish len
    | _, _ => none

def expectedSignature : List UInt8 :=
  [0x0D, 0x0A, 0x0D, 0x0A, 0x00, 0x0D, 0x0A, 0x51, 0x55, 0x49, 0x54, 0x0A]

def readHeader (versionAndCommand addressFamily : UInt8) (len : ℕ) : Option ProxySocket :=
  let version := (versionAndCommand &&& 0xF0) >>> 4
  let command := versionAndCommand &&& 0xF
  if version ≠ 2 then some socket.fail
  else if len + 16 > socket._readBuffer.GetActiveSize then some socket.AsyncReadProxyHeader
  else if command = 0 then socket.finish len
  else if addressFamily.toNat = PROXY_HEADER_ADDRESS_FAMILY_AND_PROTOCOL_TCP_V4 then
    socket.readAddress len 4 12 .v4
  else if addressFamily.toNat = PROXY_HEADER_ADDRESS_FAMILY_AND_PROTOCOL_TCP_V6 then
    socket.readAddress len 16 36 .v6
  else some socket.fail

/-- `ProxyReadHeaderHandler` for a read that transferred some bytes, or failed. -/
def ProxyReadHeaderHandler (error : Bool) (transferred : List UInt8) : Option ProxySocket :=
  if error then some { socket with reading := false }.CloseSocket
  else
    (socket._readBuffer.Write transferred).bind fun packet =>
      let socket := { socket with _readBuffer := packet, reading := false }
      if packet.GetActiveSize < 28 then some socket.AsyncReadProxyHeader
      else
        match packet.bytesAt 0 12, packet.bytesAt 12 2, packet.bytesAt 14 2 with
        | some signature, some [versionAndCommand, addressFamily], some len =>
          if signature ≠ expectedSignature then some socket.fail
          else socket.readHeader versionAndCommand addressFamily (networkShort len)
        | _, _, _ => none

/-- One read that completes: `async_read_some` transfers some of the bytes to come, at most
as many as there is space for. The second component is what is still to come. -/
def transfer (run : ProxySocket × List UInt8) (size : ℕ) : Option (ProxySocket × List UInt8) :=
  if run.1.reading then
    let count := min size run.1._readBuffer.GetRemainingSpace
    (run.1.ProxyReadHeaderHandler false (run.2.take count)).map fun socket =>
      (socket, run.2.drop count)
  else some run

def readStream (address : IpAddress) (port : ℕ) (stream : List UInt8) (sizes : List ℕ) :
    Option (ProxySocket × List UInt8) :=
  sizes.foldlM transfer ((init address port).AsyncReadProxyHeader, stream)

end ProxySocket

end AzerothCore.Network

/-! ## Received packets are the frames of the byte stream -/

namespace AzerothCore.Network

open List Bool
open AzerothCore.Reachability

inductive Position where
  | waiting
  | header
  | payload (size cmd : ℕ)
  | stopped
deriving DecidableEq

namespace Position

/-- How many bytes are needed to leave the position. -/
def need : Position → ℕ
  | .header => ClientPktHeader.sizeOfHeader
  | .payload size _ => size
  | _ => 0

/-- The positions between two bytes of the stream, in the order they follow each
other without a byte in between. -/
def rank : Position → ℕ
  | .payload _ _ => 2
  | .waiting => 1
  | _ => 0

def next : ReadDataHandlerResult → Position
  | .Ok => .header
  | .WaitingForQuery => .waiting
  | .Error => .stopped

theorem rank_next_le (result : ReadDataHandlerResult) : (next result).rank ≤ 1 := by
  cases result <;> decide

end Position

def readHeader {κ : Type*} (cipher : StreamCipher κ) (crypt : AuthCrypt κ)
    (bytes : List UInt8) : List UInt8 × AuthCrypt κ × List ReadEvent :=
  match crypt.DecryptRecv cipher bytes with
  | some (plain, crypt) => (plain, crypt, [.decrypted bytes])
  | none => (bytes, crypt, [])

theorem length_readHeader {κ : Type*} (cipher : StreamCipher κ) (crypt : AuthCrypt κ)
    (bytes : List UInt8) : (readHeader cipher crypt bytes).1.length = bytes.length := by
  unfold readHeader AuthCrypt.DecryptRecv
  by_cases hinit : crypt._initialized = true
  · rw [if_pos hinit]
    exact cipher.length_UpdateData _ _
  · rw [if_neg hinit]

def ClientPktHeader.IsValid (header : ClientPktHeader) : Bool :=
  header.IsValidSize && header.IsValidOpcode

section Frames

variable {ω κ : Type*} (env : Environment ω κ)

def cut (answers : ℕ) (position : Position) (world : ω) (crypt : AuthCrypt κ)
    (bytes : List UInt8) : List ReadEvent :=
  match position with
  | .stopped => []
  | .waiting =>
    match answers with
    | 0 => []
    | answers + 1 =>
      let (resumes, crypt, world) := env.QueryCallback world crypt
      if resumes then cut answers .header world crypt bytes else []
  | .header =>
    if bytes.length < ClientPktHeader.sizeOfHeader then
      []
    else
      let (plain, crypt, events) :=
        readHeader env.cipher crypt (bytes.take ClientPktHeader.sizeOfHeader)
      let header := ClientPktHeader.ofBytes plain
      events ++
        if header.IsValid then
          cut answers (.payload (header.size - 4) header.cmd) world crypt
            (bytes.drop ClientPktHeader.sizeOfHeader)
        else
          []
  | .payload size cmd =>
    if bytes.length < size then
      []
    else
      let (result, world) := env.dispatch world cmd (bytes.take size)
      .packet cmd (bytes.take size) ::
        cut answers (Position.next result) world crypt (bytes.drop size)
termination_by 3 * bytes.length + position.rank
decreasing_by
  · simp only [Position.rank]
    omega
  · rename_i hlong
    rw [ClientPktHeader.sizeOfHeader] at *
    rw [length_drop]
    simp only [Position.rank]
    omega
  · have hrank := Position.rank_next_le result
    rw [length_drop]
    simp only [Position.rank] at hrank ⊢
    omega

def frames (answers : ℕ) (world : ω) (crypt : AuthCrypt κ) (bytes : List UInt8) : List ReadEvent :=
  cut env answers .waiting world crypt bytes

variable {answers : ℕ} {world : ω} {crypt : AuthCrypt κ} {bytes : List UInt8}

theorem cut_stopped : cut env answers .stopped world crypt bytes = [] := by
  rw [cut]

theorem cut_zero_waiting : cut env 0 .waiting world crypt bytes = [] := by
  rw [cut]

theorem cut_succ_waiting : cut env (answers + 1) .waiting world crypt bytes =
    if (env.QueryCallback world crypt).1 then
      cut env answers .header (env.QueryCallback world crypt).2.2
        (env.QueryCallback world crypt).2.1 bytes
    else [] := by
  rw [cut]

theorem cut_short {position : Position} (hshort : bytes.length < position.need) :
    cut env answers position world crypt bytes = [] := by
  cases position with
  | waiting => exact absurd hshort (Nat.not_lt_zero _)
  | stopped => exact cut_stopped env
  | header | payload =>
    rw [cut]
    exact if_pos hshort

theorem cut_header (part rest : List UInt8) (hpart : part.length = ClientPktHeader.sizeOfHeader) :
    cut env answers .header world crypt (part ++ rest) = (readHeader env.cipher crypt part).2.2 ++
        if (ClientPktHeader.ofBytes (readHeader env.cipher crypt part).1).IsValid then
          cut env answers
            (.payload ((ClientPktHeader.ofBytes (readHeader env.cipher crypt part).1).size - 4)
              (ClientPktHeader.ofBytes (readHeader env.cipher crypt part).1).cmd)
            world (readHeader env.cipher crypt part).2.1 rest
        else [] := by
  rw [cut, if_neg (by rw [length_append]; omega), ← hpart, take_left, drop_left]

theorem cut_payload (cmd : ℕ) (part rest : List UInt8) :
    cut env answers (.payload part.length cmd) world crypt (part ++ rest) = .packet cmd part ::
        cut env answers (Position.next (env.dispatch world cmd part).1)
          (env.dispatch world cmd part).2 crypt rest := by
  rw [cut, if_neg (by rw [length_append]; omega), take_left, drop_left]

end Frames

/-! ## The buffers of a socket between two turns -/

structure Holds (buffer : MessageBuffer) (size : ℕ) (part : List UInt8) : Prop where
  active : buffer.active = part
  rpos : buffer._rpos = 0
  size : buffer._storage.length = size

section Buffers

variable {buffer source target : MessageBuffer} {size bytes : ℕ} {part data : List UInt8}

section

variable (hholds : Holds buffer size part)
include hholds

theorem Holds.wpos : buffer._wpos = part.length := by
  rw [← hholds.active, MessageBuffer.length_active, MessageBuffer.GetActiveSize, hholds.rpos,
    Nat.sub_zero]

theorem Holds.remaining : buffer.GetRemainingSpace = size - part.length := by
  rw [MessageBuffer.GetRemainingSpace, hholds.size, hholds.wpos]

theorem Holds.activeSize : buffer.GetActiveSize = part.length := by
  rw [← MessageBuffer.length_active, hholds.active]

theorem Holds.length_le : part.length ≤ size := by
  have hstorage := buffer.wpos_le
  rwa [hholds.wpos, hholds.size] at hstorage

theorem Holds.storage (hfull : part.length = size) : buffer._storage = part := by
  rw [MessageBuffer.storage_eq_active hholds.rpos, hholds.active]
  rw [hholds.remaining, hfull, Nat.sub_self]

end

theorem Holds.empty (hwpos : buffer._wpos = 0) (hsize : buffer._storage.length = size) :
    Holds buffer size [] where
  active := MessageBuffer.active_eq_nil_of_wpos hwpos
  rpos := Nat.le_zero.mp (hwpos ▸ buffer.rpos_le)
  size := hsize

theorem Holds.overwrite (hholds : Holds buffer size part) (hlen : data.length = part.length) :
    ∃ after, buffer.Overwrite data = some after ∧ Holds after size data := by
  obtain ⟨after, hafter⟩ := MessageBuffer.Overwrite_eq_some (hlen.trans hholds.activeSize.symm)
  have hover := MessageBuffer.Overwrite_spec hafter
  exact ⟨after, hafter, hover.active, hover.rpos.trans hholds.rpos, hover.length.trans hholds.size⟩

theorem Holds.resize (hholds : Holds buffer size []) :
    ∃ after, buffer.Resize bytes = some after ∧ Holds after bytes [] := by
  have hwpos : buffer._wpos = 0 := hholds.wpos
  obtain ⟨after, hafter⟩ := MessageBuffer.Resize_eq_some (Nat.le_trans (Nat.le_of_eq hwpos)
    (Nat.zero_le bytes))
  have hresized := MessageBuffer.Resize_spec hafter
  exact ⟨after, hafter, Holds.empty (hresized.wpos.trans hwpos) hresized.length⟩

/-- The bytes moved by `Fill` are the next ones of the stream, and the source is
empty unless the target is full. -/
structure Filled (source target source' : MessageBuffer) (size : ℕ) (part part' : List UInt8) :
    Prop where
  stream : part' ++ source'.active = part ++ source.active
  empty : part'.length < size → source'.active = []
  shrinks : part.length < size → source.active ≠ [] → source'.active.length < source.active.length
  length_le : source'.active.length ≤ source.active.length

theorem Fill_spec (source : MessageBuffer) (hholds : Holds target size part) :
    ∃ source' target' part', Fill source target = some (source', target') ∧
      Holds target' size part' ∧ Filled source target source' size part part' := by
  let moved := min source.GetActiveSize target.GetRemainingSpace
  have hmoved : moved = min source.active.length (size - part.length) := by
    rw [MessageBuffer.length_active, ← hholds.remaining]
  have hlen : (source.active.take moved).length = moved := by
    rw [length_take, hmoved]
    omega
  obtain ⟨target', htarget⟩ := @MessageBuffer.Write_eq_some target (source.active.take moved)
    (Nat.le_trans (Nat.le_of_eq hlen) (Nat.min_le_right _ _))
  obtain ⟨source', hsource⟩ := @MessageBuffer.ReadCompleted_eq_some source moved
    (Nat.min_le_left _ _)
  have hwritten := MessageBuffer.Write_spec htarget
  have hconsumed := MessageBuffer.ReadCompleted_spec hsource
  have hrest : source'.active.length = source.active.length - moved := by
    rw [hconsumed.active, length_drop]
  refine ⟨source', target', part ++ source.active.take moved, ?_, ⟨?_, ?_, ?_⟩, ?_, ?_, ?_, ?_⟩
  · unfold Fill
    dsimp only
    rw [htarget, hsource]
  · rw [hwritten.active, hholds.active]
  · rw [hwritten.rpos, hholds.rpos]
  · rw [hwritten.length, hholds.size]
  · rw [hconsumed.active, append_assoc, take_append_drop]
  · intro hshort
    rw [length_append, hlen] at hshort
    apply eq_nil_of_length_eq_zero
    omega
  · intro hshort hne
    have hpos : 0 < source.active.length := length_pos_iff.mpr hne
    omega
  · omega

end Buffers

section Socket

variable {ω κ : Type*}

def Expects (socket : WorldSocket ω κ) (position : Position) (part : List UInt8) : Prop :=
  match position with
  | .header =>
    Holds socket._headerBuffer ClientPktHeader.sizeOfHeader part ∧ socket._packetBuffer._wpos = 0
  | .payload size cmd =>
    (∃ bytes, Holds socket._headerBuffer ClientPktHeader.sizeOfHeader bytes ∧
      bytes.length = ClientPktHeader.sizeOfHeader ∧ ClientPktHeader.hostCmd bytes = cmd) ∧
      Holds socket._packetBuffer size part
  | _ => False

/-- From one socket to another the stream goes on: what the first would see of
all bytes to come is what has been traced since, followed by what the second
would see. -/
def Continues (env : Environment ω κ) (before after : WorldSocket ω κ)
    (position position' : Position) (part part' : List UInt8) : Prop :=
  ∃ events, after.trace = before.trace ++ events ∧ ∀ answers more,
    cut env answers position before.world before._authCrypt
        (part ++ before._readBuffer.active ++ more) =
      events ++ cut env answers position' after.world after._authCrypt
        (part' ++ after._readBuffer.active ++ more)

structure Advances (env : Environment ω κ) (before after : WorldSocket ω κ)
    (position position' : Position) (part part' : List UInt8) : Prop where
  stream : Continues env before after position position' part part'
  isOpen : position' ≠ .stopped → after.IsOpen = before.IsOpen
  reading : after.reading = before.reading
  waiting : position' ≠ .waiting → after.waiting = before.waiting
  length_le : after._readBuffer.active.length ≤ before._readBuffer.active.length

theorem Continues.trans {env : Environment ω κ} {first second third : WorldSocket ω κ}
    {position position' position'' : Position} {part part' part'' : List UInt8}
    (hfirst : Continues env first second position position' part part')
    (hsecond : Continues env second third position' position'' part' part'') :
    Continues env first third position position'' part part'' := by
  obtain ⟨events, htrace, hstream⟩ := hfirst
  obtain ⟨events', htrace', hstream'⟩ := hsecond
  refine ⟨events ++ events', ?_, ?_⟩
  · rw [htrace', htrace, append_assoc]
  · intro answers more
    rw [hstream, hstream', append_assoc events]

namespace Advances

variable {env : Environment ω κ} {first second third : WorldSocket ω κ}
  {position position' position'' : Position} {part part' part'' : List UInt8}

theorem trans (hfirst : Advances env first second position position' part part')
    (hsecond : Advances env second third position' position'' part' part'')
    (hstopped : position' ≠ .stopped) (hwaiting : position' ≠ .waiting) :
    Advances env first third position position'' part part'' where
  stream := hfirst.stream.trans hsecond.stream
  isOpen := fun hpos => (hsecond.isOpen hpos).trans (hfirst.isOpen hstopped)
  reading := hsecond.reading.trans hfirst.reading
  waiting := fun hpos => (hsecond.waiting hpos).trans (hfirst.waiting hwaiting)
  length_le := Nat.le_trans hsecond.length_le hfirst.length_le

end Advances

variable (env : Environment ω κ) {socket : WorldSocket ω κ} {bytes part : List UInt8}

section

variable (hheader : Holds socket._headerBuffer ClientPktHeader.sizeOfHeader bytes)
include hheader

theorem DecryptHeader_spec : ∃ headerBuffer, socket.DecryptHeader env = some { socket with
        _headerBuffer := headerBuffer
        _authCrypt := (readHeader env.cipher socket._authCrypt bytes).2.1
        trace := socket.trace ++ (readHeader env.cipher socket._authCrypt bytes).2.2 } ∧
      Holds headerBuffer ClientPktHeader.sizeOfHeader
        (readHeader env.cipher socket._authCrypt bytes).1 := by
  obtain ⟨headerBuffer, hoverwrite, hholds⟩ :=
    hheader.overwrite (length_readHeader env.cipher socket._authCrypt bytes)
  unfold WorldSocket.DecryptHeader AuthCrypt.IsInitialized
  by_cases hinit : socket._authCrypt._initialized = true
  · have hdecrypt : socket._authCrypt.DecryptRecv env.cipher bytes
        = some ((env.cipher.UpdateData socket._authCrypt._clientDecrypt bytes).1,
          { socket._authCrypt with
            _clientDecrypt := (env.cipher.UpdateData socket._authCrypt._clientDecrypt bytes).2 }) :=
      if_pos hinit
    simp only [readHeader, hdecrypt] at hoverwrite hholds ⊢
    rw [if_pos hinit, hheader.active, hdecrypt]
    dsimp only
    rw [hoverwrite]
    exact ⟨headerBuffer, rfl, hholds⟩
  · have hdecrypt : socket._authCrypt.DecryptRecv env.cipher bytes = none := if_neg hinit
    simp only [readHeader, hdecrypt, append_nil]
    rw [if_neg hinit]
    exact ⟨socket._headerBuffer, rfl, hheader⟩

theorem ReadHeaderHandler_spec (hfull : bytes.length = ClientPktHeader.sizeOfHeader)
    (hpacket : socket._packetBuffer._wpos = 0) :
    ∃ valid after, socket.ReadHeaderHandler env = some (valid, after) ∧
      let plain := (readHeader env.cipher socket._authCrypt bytes).1
      let header := ClientPktHeader.ofBytes plain
      valid = header.IsValid ∧
      (valid = true → Expects after (.payload (header.size - 4) header.cmd) []) ∧
      ∃ headerBuffer packetBuffer, after = { socket with
        _headerBuffer := headerBuffer
        _packetBuffer := packetBuffer
        _authCrypt := (readHeader env.cipher socket._authCrypt bytes).2.1
        trace := socket.trace ++ (readHeader env.cipher socket._authCrypt bytes).2.2 } := by
  obtain ⟨headerBuffer, hdecrypt, hholds⟩ := DecryptHeader_spec env hheader
  have hplain : (readHeader env.cipher socket._authCrypt bytes).1.length
      = ClientPktHeader.sizeOfHeader :=
    (length_readHeader env.cipher socket._authCrypt bytes).trans hfull
  have hactive : socket._headerBuffer.GetActiveSize = ClientPktHeader.sizeOfHeader :=
    hheader.activeSize.trans hfull
  unfold WorldSocket.ReadHeaderHandler
  rw [if_pos hactive, hdecrypt]
  dsimp only
  rw [hholds.active]
  generalize (readHeader env.cipher socket._authCrypt bytes).1 = plain at hholds hplain ⊢
  by_cases hvalid : ((ClientPktHeader.ofBytes plain).IsValidSize &&
      (ClientPktHeader.ofBytes plain).IsValidOpcode) = true
  · obtain ⟨hostBuffer, hoverwrite, hhost⟩ := hholds.overwrite
      ((ClientPktHeader.length_hostBytes hplain).trans hplain.symm)
    obtain ⟨packetBuffer, hresize, hpayload⟩ :=
      @Holds.resize _ _ ((ClientPktHeader.ofBytes plain).size - 4) (Holds.empty hpacket rfl)
    rw [if_pos hvalid, hoverwrite, hresize]
    refine ⟨true, _, rfl, hvalid.symm, fun _ => ?_, hostBuffer, packetBuffer, rfl⟩
    exact ⟨⟨_, hhost, ClientPktHeader.length_hostBytes hplain,
      ClientPktHeader.hostCmd_hostBytes plain⟩, hpayload⟩
  · rw [if_neg hvalid]
    refine ⟨false, _, rfl, (eq_false_iff.mpr hvalid).symm, ?_, headerBuffer,
      socket._packetBuffer, rfl⟩
    exact nofun

end

/-- The part of the loop body for the header: it leaves the header behind, waits
for more of it, or closes the socket. -/
theorem ReceiveHeader_spec {position : Position} (hexpects : Expects socket position part)
    (hpart : part.length < position.need) (hactive : socket._readBuffer.active ≠ []) :
    ∃ turn after position' part', socket.ReceiveHeader env = some (turn, after) ∧
      Advances env socket after position position' part part' ∧
      match turn with
      | .await => Expects after position' part' ∧ part'.length < position'.need ∧
          after._readBuffer.active = []
      | .proceed => Expects after position' part' ∧ (∃ size cmd, position' = .payload size cmd) ∧
          (position ≠ position' →
            after._readBuffer.active.length < socket._readBuffer.active.length) ∧
          (position = position' → part' = part ∧ after = socket)
      | .leave => position' = .stopped ∧ after._closed = true := by
  cases position with
  | waiting | stopped => exact absurd hexpects id
  | payload size cmd =>
    have hfull : ¬ socket._headerBuffer.GetRemainingSpace > 0 := by
      obtain ⟨⟨bytes, hheader, hlen, -⟩, -⟩ := hexpects
      rw [hheader.remaining, hlen]
      exact Nat.lt_irrefl _
    refine ⟨.proceed, socket, .payload size cmd, part, if_neg hfull, ⟨?_, ?_, ?_, ?_, ?_⟩,
      hexpects, ⟨size, cmd, rfl⟩, ?_, ?_⟩
    · exact ⟨[], (append_nil _).symm, fun _ _ => rfl⟩
    · exact fun _ => rfl
    · rfl
    · exact fun _ => rfl
    · exact Nat.le_refl _
    · exact fun hne => absurd rfl hne
    · exact fun _ => ⟨rfl, rfl⟩
  | header =>
    obtain ⟨hheader, hpacket⟩ := hexpects
    have hroom : socket._headerBuffer.GetRemainingSpace > 0 := by
      rw [hheader.remaining]
      exact Nat.sub_pos_of_lt hpart
    obtain ⟨readBuffer, headerBuffer, part', hfill, hheader', hfilled⟩ :=
      Fill_spec socket._readBuffer hheader
    unfold WorldSocket.ReceiveHeader
    rw [if_pos hroom, hfill]
    dsimp only
    by_cases hmore : headerBuffer.GetRemainingSpace > 0
    · have hshort : part'.length < ClientPktHeader.sizeOfHeader := by
        rw [hheader'.remaining] at hmore
        omega
      have hempty := hfilled.empty hshort
      rw [if_pos hmore, if_pos (MessageBuffer.active_eq_nil_iff.mp hempty)]
      refine ⟨.await, _, .header, part', rfl, ⟨?_, ?_, ?_, ?_, ?_⟩, ⟨hheader', hpacket⟩, hshort,
        hempty⟩
      · refine ⟨[], (append_nil _).symm, fun answers more => ?_⟩
        rw [← hfilled.stream, nil_append]
      · exact fun _ => rfl
      · rfl
      · exact fun _ => rfl
      · exact hfilled.length_le
    · have hlen : part'.length = ClientPktHeader.sizeOfHeader := by
        have hle := hheader'.length_le
        rw [hheader'.remaining] at hmore
        omega
      rw [if_neg hmore]
      let received : WorldSocket ω κ :=
        { socket with _readBuffer := readBuffer, _headerBuffer := headerBuffer }
      have hreceived : Holds received._headerBuffer ClientPktHeader.sizeOfHeader part' := hheader'
      obtain ⟨valid, after, hhandler, hvalid, hready, headerBuffer', packetBuffer, rfl⟩ :=
        ReadHeaderHandler_spec env hreceived hlen hpacket
      have hcut : ∀ answers more, cut env answers .header socket.world socket._authCrypt
          (part ++ socket._readBuffer.active ++ more)
          = cut env answers .header socket.world socket._authCrypt
            (part' ++ (readBuffer.active ++ more)) := by
        intro answers more
        rw [← hfilled.stream, append_assoc]
      rw [hhandler]
      cases valid with
      | true =>
        refine ⟨.proceed, _, _, [], rfl, ⟨?_, ?_, ?_, ?_, ?_⟩, hready rfl, ⟨_, _, rfl⟩, ?_, ?_⟩
        · refine ⟨_, rfl, fun answers more => ?_⟩
          rw [hcut, cut_header env _ _ hlen, if_pos hvalid.symm, nil_append]
        · exact fun _ => rfl
        · rfl
        · exact fun _ => rfl
        · exact hfilled.length_le
        · exact fun _ => hfilled.shrinks hpart hactive
        · exact nofun
      | false =>
        refine ⟨.leave, _, .stopped, [], rfl, ⟨?_, ?_, ?_, ?_, ?_⟩, rfl, rfl⟩
        · refine ⟨_, rfl, fun answers more => ?_⟩
          rw [hcut, cut_header env _ _ hlen, if_neg (eq_false_iff.mp hvalid.symm),
            cut_stopped, append_nil]
        · exact fun hne => absurd rfl hne
        · rfl
        · exact fun _ => rfl
        · exact hfilled.length_le

theorem ReceivePayload_spec {size cmd : ℕ} (hexpects : Expects socket (.payload size cmd) part) :
    ∃ turn after part', socket.ReceivePayload = some (turn, after) ∧
      Advances env socket after (.payload size cmd) (.payload size cmd) part part' ∧
      Expects after (.payload size cmd) part' ∧
      (part.length < size → socket._readBuffer.active ≠ [] →
        after._readBuffer.active.length < socket._readBuffer.active.length) ∧
      match turn with
      | .await => part'.length < size ∧ after._readBuffer.active = []
      | .proceed => part'.length = size
      | .leave => False := by
  obtain ⟨hheader, hpayload⟩ := hexpects
  have hle := hpayload.length_le
  unfold WorldSocket.ReceivePayload
  by_cases hroom : socket._packetBuffer.GetRemainingSpace > 0
  · obtain ⟨readBuffer, packetBuffer, part', hfill, hpayload', hfilled⟩ :=
      Fill_spec socket._readBuffer hpayload
    have hadvances : Advances env socket
        { socket with _readBuffer := readBuffer, _packetBuffer := packetBuffer }
        (.payload size cmd) (.payload size cmd) part part' := by
      refine ⟨⟨[], (append_nil _).symm, fun answers more => ?_⟩, fun _ => rfl, rfl,
        fun _ => rfl, hfilled.length_le⟩
      rw [← hfilled.stream, nil_append]
    have hle' := hpayload'.length_le
    rw [if_pos hroom, hfill]
    dsimp only
    by_cases hmore : packetBuffer.GetRemainingSpace > 0
    · have hshort : part'.length < size := by
        rw [hpayload'.remaining] at hmore
        omega
      have hempty := hfilled.empty hshort
      rw [if_pos hmore, if_pos (MessageBuffer.active_eq_nil_iff.mp hempty)]
      exact ⟨.await, _, part', rfl, hadvances, ⟨hheader, hpayload'⟩, hfilled.shrinks,
        hshort, hempty⟩
    · have hlen : part'.length = size := by
        rw [hpayload'.remaining] at hmore
        omega
      rw [if_neg hmore]
      exact ⟨.proceed, _, part', rfl, hadvances, ⟨hheader, hpayload'⟩, hfilled.shrinks, hlen⟩
  · have hlen : part.length = size := by
      rw [hpayload.remaining] at hroom
      omega
    rw [if_neg hroom]
    refine ⟨.proceed, socket, part, rfl, ?_, ⟨hheader, hpayload⟩, ?_, hlen⟩
    · exact ⟨⟨[], (append_nil _).symm, fun _ _ => rfl⟩, fun _ => rfl, rfl, fun _ => rfl,
        Nat.le_refl _⟩
    · omega

/-- A complete packet is handed over with its opcode and all of its payload. -/
theorem HandlePacket_spec {size cmd : ℕ} (hexpects : Expects socket (.payload size cmd) part)
    (hfull : part.length = size) :
    ∃ turn after position', socket.HandlePacket env = (turn, after) ∧
      Advances env socket after (.payload size cmd) position' part [] ∧
      match turn with
      | .proceed => position' = .header ∧ Expects after .header []
      | .leave => position' = .waiting ∧ Expects after .header [] ∧ after.waiting = true ∨
          position' = .stopped ∧ after._closed = true
      | .await => False := by
  obtain ⟨⟨bytes, hheader, -, hcmd⟩, hpayload⟩ := hexpects
  subst hfull
  have hstorage := hpayload.storage rfl
  have hreset : Holds socket._headerBuffer.Reset ClientPktHeader.sizeOfHeader [] :=
    Holds.empty rfl hheader.size
  have hstream : ∀ answers more,
      cut env answers (.payload part.length cmd) socket.world socket._authCrypt
        (part ++ socket._readBuffer.active ++ more) =
      .packet cmd part :: cut env answers
        (Position.next (env.dispatch socket.world cmd part).1)
        (env.dispatch socket.world cmd part).2 socket._authCrypt
        ([] ++ socket._readBuffer.active ++ more) := by
    intro answers more
    rw [append_assoc, cut_payload, nil_append]
  unfold WorldSocket.HandlePacket WorldSocket.ReadDataHandler
  rw [hheader.active, hcmd, hstorage]
  dsimp only
  generalize env.dispatch socket.world cmd part = outcome at hstream ⊢
  obtain ⟨result, world⟩ := outcome
  cases result with
  | Ok =>
    refine ⟨.proceed, _, .header, rfl, ?_, rfl, hreset, rfl⟩
    exact ⟨⟨_, rfl, hstream⟩, fun _ => rfl, rfl, fun _ => rfl, Nat.le_refl _⟩
  | WaitingForQuery =>
    refine ⟨.leave, _, .waiting, rfl, ?_, .inl ⟨rfl, ⟨hreset, rfl⟩, rfl⟩⟩
    exact ⟨⟨_, rfl, hstream⟩, fun _ => rfl, rfl, fun hne => absurd rfl hne, Nat.le_refl _⟩
  | Error =>
    refine ⟨.leave, _, .stopped, rfl, ?_, .inr ⟨rfl, rfl⟩⟩
    exact ⟨⟨_, rfl, hstream⟩, fun hne => absurd rfl hne, rfl, fun _ => rfl, Nat.le_refl _⟩

def Ready (socket : WorldSocket ω κ) (position : Position) (part : List UInt8) : Prop :=
  Expects socket position part ∧ part.length < position.need

/-- One turn of the loop: it consumes a byte if it is to be followed by another. -/
theorem ReadTurn_spec {position : Position} (hready : Ready socket position part)
    (hactive : socket._readBuffer.active ≠ []) :
    ∃ turn after position' part', socket.ReadTurn env = some (turn, after) ∧
      Advances env socket after position position' part part' ∧
      match turn with
      | .await => Ready after position' part' ∧ after._readBuffer.active = []
      | .proceed => Ready after position' part' ∧
          after._readBuffer.active.length < socket._readBuffer.active.length
      | .leave => position' = .waiting ∧ part' = [] ∧ Ready after .header [] ∧
            after.waiting = true ∨
          position' = .stopped ∧ after._closed = true := by
  obtain ⟨hexpects, hpart⟩ := hready
  obtain ⟨turn, middle, position', part', hheader, hadvances, hturn⟩ :=
    ReceiveHeader_spec env hexpects hpart hactive
  unfold WorldSocket.ReadTurn
  rw [hheader]
  cases turn with
  | await => exact ⟨.await, middle, position', part', rfl, hadvances, ⟨hturn.1, hturn.2.1⟩,
      hturn.2.2⟩
  | leave => exact ⟨.leave, middle, position', part', rfl, hadvances, .inr hturn⟩
  | proceed =>
    obtain ⟨hexpects', ⟨size, cmd, rfl⟩, hshrinks, hsame⟩ := hturn
    obtain ⟨turn, later, part'', hpayload, hadvances', hexpects'', hshrinks', hturn⟩ :=
      ReceivePayload_spec env hexpects'
    have hboth := hadvances.trans hadvances' nofun nofun
    dsimp only
    rw [hpayload]
    cases turn with
    | leave => exact hturn.elim
    | await => exact ⟨.await, later, _, part'', rfl, hboth, ⟨hexpects'', hturn.1⟩, hturn.2⟩
    | proceed =>
      have hless : later._readBuffer.active.length < socket._readBuffer.active.length := by
        by_cases hpos : position = .payload size cmd
        · obtain ⟨rfl, rfl⟩ := hsame hpos
          subst hpos
          exact hshrinks' hpart hactive
        · exact Nat.lt_of_le_of_lt hadvances'.length_le (hshrinks hpos)
      obtain ⟨turn, after, position', hhandle, hadvances'', hturn⟩ :=
        HandlePacket_spec env hexpects'' hturn
      have hall := hboth.trans hadvances'' nofun nofun
      dsimp only
      rw [hhandle]
      have hneed : ([] : List UInt8).length < Position.header.need := by decide
      cases turn with
      | await => exact hturn.elim
      | proceed =>
        obtain ⟨rfl, hexpects⟩ := hturn
        exact ⟨.proceed, after, .header, [], rfl, hall, ⟨hexpects, hneed⟩,
          Nat.lt_of_le_of_lt hadvances''.length_le hless⟩
      | leave =>
        refine ⟨.leave, after, position', [], rfl, hall, ?_⟩
        obtain ⟨rfl, hexpects, hwaiting⟩ | hstopped := hturn
        · exact .inl ⟨rfl, rfl, ⟨hexpects, hneed⟩, hwaiting⟩
        · exact .inr hstopped

end Socket

end AzerothCore.Network

/-! ## Every run of the receiving side -/

namespace AzerothCore.Network

open List Bool Nat
open AzerothCore.Reachability

variable {ω κ : Type*} (env : Environment ω κ)

section Loop

variable {socket : WorldSocket ω κ} {position : Position} {part : List UInt8}

/-- How `ReadHandler` leaves a socket. -/
def Rests (socket : WorldSocket ω κ) (position : Position) (part : List UInt8) : Prop :=
  match position with
  | .stopped => socket._closed = true
  | .waiting => socket.waiting = true ∧ socket.reading = false ∧ Ready socket .header [] ∧ part = []
  | position => socket.reading = true ∧ socket.waiting = false ∧ Ready socket position part ∧
      socket._readBuffer.active = []

theorem rests_of_ready (hready : Ready socket position part) (hreading : socket.reading = true)
    (hwaiting : socket.waiting = false) (hempty : socket._readBuffer.active = []) :
    Rests socket position part := by
  cases position with
  | waiting | stopped => exact hready.1.elim
  | header | payload => exact ⟨hreading, hwaiting, hready, hempty⟩

theorem cut_zero_of_rests (hrests : Rests socket position part) :
    cut env 0 position socket.world socket._authCrypt (part ++ socket._readBuffer.active) = [] := by
  cases position with
  | waiting => exact cut_zero_waiting env
  | stopped => exact cut_stopped env
  | header | payload =>
    obtain ⟨-, -, hready, hempty⟩ := hrests
    rw [hempty, append_nil]
    exact cut_short env hready.2

@[simp] theorem active_AsyncRead :
    socket.AsyncRead._readBuffer.active = socket._readBuffer.active := by
  unfold WorldSocket.AsyncRead
  split
  · rw [MessageBuffer.active_EnsureFreeSpace, MessageBuffer.active_Normalize]
  · rfl

theorem continues_AsyncRead :
    Continues env socket socket.AsyncRead position position part part := by
  refine ⟨[], ?_, fun answers more => ?_⟩
  · unfold WorldSocket.AsyncRead
    split
    · exact (append_nil _).symm
    · exact (append_nil _).symm
  · rw [active_AsyncRead, nil_append]
    unfold WorldSocket.AsyncRead
    split
    · rfl
    · rfl

theorem ready_AsyncRead (hready : Ready socket position part) :
    Ready socket.AsyncRead position part := by
  unfold WorldSocket.AsyncRead
  split
  · cases position with
    | waiting | stopped => exact hready.1.elim
    | header | payload => exact hready
  · exact hready

theorem rests_AsyncRead (hopen : socket.IsOpen = true) (hready : Ready socket position part)
    (hwaiting : socket.waiting = false) (hempty : socket._readBuffer.active = []) :
    Rests socket.AsyncRead position part := by
  apply rests_of_ready (ready_AsyncRead hready)
  · rw [WorldSocket.AsyncRead, if_pos hopen]
  · rw [WorldSocket.AsyncRead, if_pos hopen]
    exact hwaiting
  · rw [active_AsyncRead]
    exact hempty

/-- By induction on the turns that are left: every turn but the last shortens
the read buffer. -/
theorem ReadLoop_spec (turns : ℕ) (hready : Ready socket position part)
    (hopen : socket.IsOpen = true) (hreading : socket.reading = false)
    (hwaiting : socket.waiting = false) (hturns : socket._readBuffer.active.length < turns) :
    ∃ after position' part', socket.ReadLoop env turns = some after ∧
      Continues env socket after position position' part part' ∧
      Rests after position' part' := by
  induction turns generalizing socket position part with
  | zero => exact absurd hturns (not_lt_zero _)
  | succ turns ih =>
    unfold WorldSocket.ReadLoop
    by_cases hmore : socket._readBuffer.GetActiveSize > 0
    · have hactive : socket._readBuffer.active ≠ [] := by
        intro hnil
        rw [MessageBuffer.active_eq_nil_iff] at hnil
        omega
      obtain ⟨turn, middle, position', part', hturn, hadvances, hleft⟩ :=
        ReadTurn_spec env hready hactive
      rw [if_pos hmore, hturn]
      cases turn with
      | await =>
        obtain ⟨hready', hempty⟩ := hleft
        have hstopped : position' ≠ .stopped := fun h => by
          subst h
          exact hready'.1
        have hquery : position' ≠ .waiting := fun h => by
          subst h
          exact hready'.1
        exact ⟨_, position', part', rfl, hadvances.stream.trans (continues_AsyncRead env),
          rests_AsyncRead ((hadvances.isOpen hstopped).trans hopen) hready'
            ((hadvances.waiting hquery).trans hwaiting) hempty⟩
      | proceed =>
        obtain ⟨hready', hless⟩ := hleft
        have hstopped : position' ≠ .stopped := fun h => by
          subst h
          exact hready'.1
        have hquery : position' ≠ .waiting := fun h => by
          subst h
          exact hready'.1
        obtain ⟨after, position'', part'', hloop, hcontinues, hrests⟩ :=
          ih hready' ((hadvances.isOpen hstopped).trans hopen) (hadvances.reading.trans hreading)
            ((hadvances.waiting hquery).trans hwaiting) (by omega)
        exact ⟨after, position'', part'', hloop, hadvances.stream.trans hcontinues, hrests⟩
      | leave =>
        refine ⟨middle, position', part', rfl, hadvances.stream, ?_⟩
        obtain ⟨rfl, rfl, hready', hwaits⟩ | ⟨rfl, hclosed⟩ := hleft
        · exact ⟨hwaits, hadvances.reading.trans hreading, hready', rfl⟩
        · exact hclosed
    · rw [if_neg hmore]
      have hempty : socket._readBuffer.active = [] := by
        rw [MessageBuffer.active_eq_nil_iff]
        omega
      exact ⟨_, position, part, rfl, continues_AsyncRead env,
        rests_AsyncRead hopen hready hwaiting hempty⟩

end Loop

section Connections

variable (crypt₀ : AuthCrypt κ) (world₀ : ω)

def Sees (connection : Connection ω κ) (answers : ℕ) (position : Position)
    (part : List UInt8) : Prop :=
  ∀ more later, frames env (answers + more) world₀ crypt₀ (connection.received ++ later) =
    connection.socket.trace ++ cut env more position connection.socket.world
      connection.socket._authCrypt (part ++ connection.socket._readBuffer.active ++ later)

/-- Between two inputs a connection has traced the frames of what it received.
While it is open, it is at rest, or a query has been answered and the bytes left
over wait for the next read. -/
structure Framed (connection : Connection ω κ) : Prop where
  trace : connection.socket.trace =
    frames env connection.resumptions world₀ crypt₀ connection.received
  isOpen : connection.socket.IsOpen = true →
    (connection.resumed = false ∧ ∃ position part, Rests connection.socket position part ∧
      Sees env crypt₀ world₀ connection connection.resumptions position part) ∨
    (connection.resumed = true ∧ connection.socket.reading = true ∧
      connection.socket.waiting = false ∧ Ready connection.socket .header [] ∧
      Sees env crypt₀ world₀ connection (connection.resumptions + 1) .header [])

variable {crypt₀ world₀}

variable {connection : Connection ω κ}

theorem Framed.close {after : Connection ω κ} (hframed : Framed env crypt₀ world₀ connection)
    (hclosed : after.socket.IsOpen = false)
    (htrace : after.socket.trace = connection.socket.trace)
    (hreceived : after.received = connection.received)
    (hresumptions : after.resumptions = connection.resumptions) : Framed env crypt₀ world₀ after where
  trace := by rw [htrace, hreceived, hresumptions, hframed.trace]
  isOpen := fun hopen => by
    rw [hclosed] at hopen
    cases hopen

theorem Sees.continues {answers : ℕ} {after : WorldSocket ω κ} {position position' : Position}
    {part part' : List UInt8} (hsees : Sees env crypt₀ world₀ connection answers position part)
    (hcontinues : Continues env connection.socket after position position' part part') :
    Sees env crypt₀ world₀ { connection with socket := after } answers position' part' := by
  obtain ⟨events, htrace, hstream⟩ := hcontinues
  intro more later
  rw [htrace, append_assoc, ← hstream]
  exact hsees more later

theorem framed_started (readBuffer : MessageBuffer) :
    Framed env crypt₀ world₀ (.started crypt₀ world₀ readBuffer) where
  trace := (cut_zero_waiting env).symm
  isOpen := fun _ => by
    refine .inl ⟨rfl, .waiting, [], ⟨rfl, rfl, ⟨⟨Holds.empty rfl ?_, rfl⟩, by decide⟩, rfl⟩, ?_⟩
    · exact length_replicate
    · intro more later
      change frames env (0 + more) world₀ crypt₀ (readBuffer.active ++ later) =
        [] ++ cut env more .waiting world₀ crypt₀ ([] ++ readBuffer.active ++ later)
      rw [zero_add, nil_append, nil_append, frames]

theorem Framed.read {position : Position} {part : List UInt8}
    (hsees : Sees env crypt₀ world₀ connection connection.resumptions position part)
    (hresumed : connection.resumed = false) (hready : Ready connection.socket position part)
    (hopen : connection.socket.IsOpen = true) (hreading : connection.socket.reading = false)
    (hwaiting : connection.socket.waiting = false) :
    ∃ after, connection.socket.ReadHandler env = some after ∧
      Framed env crypt₀ world₀ { connection with socket := after } := by
  obtain ⟨after, position', part', hloop, hcontinues, hrests⟩ :=
    ReadLoop_spec env _ hready hopen hreading hwaiting (lt_succ_self _)
  have hsees' := hsees.continues env hcontinues
  refine ⟨after, ?_, ?_, fun _ => .inl ⟨hresumed, position', part', hrests, hsees'⟩⟩
  · rw [WorldSocket.ReadHandler, if_pos hopen, ← MessageBuffer.length_active]
    exact hloop
  · have hnow := hsees' 0 []
    rw [append_nil, append_nil, cut_zero_of_rests env hrests, append_nil] at hnow
    exact hnow.symm

theorem Framed.bytes {chunk : List UInt8} (hframed : Framed env crypt₀ world₀ connection)
    (hacc : connection.Accepts (.bytes chunk)) :
    ∃ after, connection.handle env (.bytes chunk) = some after ∧
      Framed env crypt₀ world₀ after := by
  obtain ⟨hreading, hroom⟩ := hacc
  obtain ⟨readBuffer, hwrite⟩ := MessageBuffer.Write_eq_some hroom
  have hactive := (MessageBuffer.Write_spec hwrite).active
  let read : Connection ω κ := {
    socket := { connection.socket with _readBuffer := readBuffer, reading := false }
    received := connection.received ++ chunk
    resumptions := connection.resumptions + (if connection.resumed then 1 else 0)
    resumed := false }
  unfold Connection.handle WorldSocket.ReadHandlerInternal
  dsimp only
  rw [hwrite]
  dsimp only
  rw [show WorldSocket.ReadHandler env { connection.socket with
    _readBuffer := readBuffer, reading := false } = read.socket.ReadHandler env from rfl]
  by_cases hopen : connection.socket.IsOpen = true
  · have hdelivered : ∀ {answers position part},
        Sees env crypt₀ world₀ connection answers position part →
        Sees env crypt₀ world₀ read answers position part := by
      intro answers position part hsees more later
      have hnow := hsees more (chunk ++ later)
      rw [← append_assoc, append_assoc part, ← append_assoc _ chunk, ← hactive,
        ← append_assoc] at hnow
      exact hnow
    have hread : ∃ position part, Sees env crypt₀ world₀ read read.resumptions position part ∧
        Ready connection.socket position part ∧ connection.socket.waiting = false := by
      obtain ⟨hresumed, position, part, hrests, hsees⟩ |
        ⟨hresumed, -, hwaiting, hready, hsees⟩ := hframed.isOpen hopen
      · have hcount : read.resumptions = connection.resumptions := by
          change connection.resumptions + (if connection.resumed = true then 1 else 0) = _
          rw [hresumed, if_neg Bool.false_ne_true, add_zero]
        rw [hcount]
        cases position with
        | stopped =>
          have hclosed : connection.socket._closed = true := hrests
          rw [WorldSocket.IsOpen, hclosed] at hopen
          cases hopen
        | waiting =>
          have hidle := hrests.2.1
          rw [hreading] at hidle
          cases hidle
        | header => exact ⟨.header, part, hdelivered hsees, hrests.2.2.1, hrests.2.1⟩
        | payload size cmd =>
          exact ⟨.payload size cmd, part, hdelivered hsees, hrests.2.2.1, hrests.2.1⟩
      · have hcount : read.resumptions = connection.resumptions + 1 := by
          change connection.resumptions + (if connection.resumed = true then 1 else 0) = _
          rw [hresumed, if_pos rfl]
        rw [hcount]
        exact ⟨.header, [], hdelivered hsees, hready, hwaiting⟩
    obtain ⟨position, part, hsees, hready, hwaiting⟩ := hread
    have hready' : Ready read.socket position part := by
      cases position with
      | waiting | stopped => exact hready.1.elim
      | header | payload => exact hready
    obtain ⟨after, hhandler, hframed'⟩ := Framed.read env hsees rfl hready' hopen rfl hwaiting
    rw [hhandler]
    dsimp only
    rw [if_pos hopen]
    exact ⟨_, rfl, hframed'⟩
  · have hhandler : read.socket.ReadHandler env = some read.socket := if_neg hopen
    rw [hhandler]
    dsimp only
    rw [if_neg hopen]
    exact ⟨_, rfl, hframed.close env (eq_false_iff.mpr hopen) rfl rfl rfl⟩

theorem Framed.queryResult (hframed : Framed env crypt₀ world₀ connection)
    (hwaiting : connection.socket.waiting = true) :
    Framed env crypt₀ world₀ { connection with
      socket := connection.socket.ProcessQueryCallback env
      resumed := true } := by
  let answered : WorldSocket ω κ := { connection.socket with
    _authCrypt := (env.QueryCallback connection.socket.world connection.socket._authCrypt).2.1
    world := (env.QueryCallback connection.socket.world connection.socket._authCrypt).2.2
    waiting := false }
  have hcallback : connection.socket.ProcessQueryCallback env =
      if (env.QueryCallback connection.socket.world connection.socket._authCrypt).1 then
        answered.AsyncRead
      else answered.DelayedCloseSocket := rfl
  rw [hcallback]
  by_cases hresumes :
      (env.QueryCallback connection.socket.world connection.socket._authCrypt).1 = true
  · rw [if_pos hresumes]
    by_cases hopen : connection.socket.IsOpen = true
    · obtain ⟨-, position, part, hrests, hsees⟩ | ⟨-, -, hidle, -, -⟩ := hframed.isOpen hopen
      · cases position with
        | stopped =>
          have hclosed : connection.socket._closed = true := hrests
          rw [WorldSocket.IsOpen, hclosed] at hopen
          cases hopen
        | header | payload =>
          have hidle := hrests.2.1
          rw [hwaiting] at hidle
          cases hidle
        | waiting =>
          obtain ⟨-, -, hready, rfl⟩ := hrests
          have hsees' : Sees env crypt₀ world₀
              { connection with socket := answered, resumed := true }
              (connection.resumptions + 1) .header [] := by
            intro more later
            have hnow := hsees (more + 1) later
            rw [cut_succ_waiting, if_pos hresumes, add_comm more 1, ← add_assoc] at hnow
            exact hnow
          have hanswered : Ready answered .header [] := hready
          refine ⟨?_, fun _ => .inr ⟨rfl, ?_, ?_, ready_AsyncRead hanswered, ?_⟩⟩
          · rw [← hframed.trace]
            unfold WorldSocket.AsyncRead
            split
            · rfl
            · rfl
          · rw [WorldSocket.AsyncRead, if_pos (show answered.IsOpen = true from hopen)]
          · rw [WorldSocket.AsyncRead, if_pos (show answered.IsOpen = true from hopen)]
          · exact hsees'.continues env (continues_AsyncRead env)
      · rw [hwaiting] at hidle
        cases hidle
    · have hread : answered.AsyncRead = answered :=
        if_neg (show ¬ answered.IsOpen = true from hopen)
      rw [hread]
      exact hframed.close env (eq_false_iff.mpr hopen) rfl rfl rfl
  · rw [if_neg hresumes]
    refine hframed.close env ?_ rfl rfl rfl
    exact Bool.and_false _

theorem Framed.step {input : Input} (hframed : Framed env crypt₀ world₀ connection)
    (hacc : connection.Accepts input) :
    ∃ after, connection.handle env input = some after ∧ Framed env crypt₀ world₀ after := by
  cases input with
  | bytes chunk => exact hframed.bytes env hacc
  | readError | close => exact ⟨_, rfl, hframed.close env rfl rfl rfl rfl⟩
  | queryResult => exact ⟨_, rfl, hframed.queryResult env hacc⟩
  | delayedClose => exact ⟨_, rfl, hframed.close env (Bool.and_false _) rfl rfl rfl⟩

def Reached (crypt₀ : AuthCrypt κ) (world₀ : ω) (readBuffer : MessageBuffer) :
    Connection ω κ → Prop :=
  Reachable (fun connection => connection = .started crypt₀ world₀ readBuffer)
    (computed (Connection.run env))

theorem framed_of_reached {readBuffer : MessageBuffer}
    (hreach : Reached env crypt₀ world₀ readBuffer connection) :
    Framed env crypt₀ world₀ connection := by
  apply Reachable.invariant hreach (Framed env crypt₀ world₀)
  · rintro _ rfl
    exact framed_started env readBuffer
  · intro before input after hframed hrun
    unfold computed Connection.run at hrun
    by_cases hacc : before.Accepts input
    · obtain ⟨after', hhandle, hframed'⟩ := hframed.step env hacc
      rw [if_pos hacc, hhandle] at hrun
      cases hrun
      exact hframed'
    · rw [if_neg hacc] at hrun
      cases hrun

end Connections

/-- However the bytes of a client are split into reads, the packets handed over
and the headers decrypted are those of the frames of all bytes received so far,
and every input that can come is handled without a failed assertion and inside
the buffers. -/
theorem received_frames (crypt₀ : AuthCrypt κ) (world₀ : ω) (readBuffer : MessageBuffer)
    (connection : Connection ω κ) (hreach : Reached env crypt₀ world₀ readBuffer connection) :
    connection.socket.trace = frames env connection.resumptions world₀ crypt₀ connection.received ∧
      ∀ input, connection.Accepts input → ∃ after, connection.handle env input = some after := by
  have hframed := framed_of_reached env hreach
  refine ⟨hframed.trace, fun input haccepts => ?_⟩
  obtain ⟨after, hhandle, -⟩ := hframed.step env haccepts
  exact ⟨after, hhandle⟩

/-- Two pings without a payload, one of them split inside its header, behind an
authentication that waits for its query. -/
theorem received_frames_split : ∃ (env : Environment ℕ Unit) (connection : Connection ℕ Unit),
      connection.socket.trace = [.packet CMSG_AUTH_SESSION [7], .packet CMSG_PING [],
        .packet CMSG_PING []] ∧
      connection.socket.trace =
        frames env connection.resumptions 0 ⟨(), (), false⟩ connection.received := by
  let env : Environment ℕ Unit := {
    cipher := ⟨fun state data => (data, state), fun _ _ => rfl⟩
    HandlePing := fun world _ => (true, world)
    HandleAuthSession := fun world _ => (true, world)
    _authed := fun world => world > 1
    _worldSession := fun _ => true
    ResetTimeOutTime := fun world _ => world
    opcodeTable := fun _ => true
    QueuePacket := fun world _ _ => world
    QueryCallback := fun world crypt => (true, crypt, world + 1) }
  have hrun : ([.queryResult, .bytes [0, 5, 0xED, 1, 0, 0, 7, 0, 4, 0xDC], .queryResult,
      .bytes [1, 0, 0, 0, 4, 0xDC, 1], .bytes [0, 0]].foldlM (Connection.run env)
        (.started ⟨(), (), false⟩ 0 (.ofSize 16))).map (fun connection => connection.socket.trace)
      = some [.packet CMSG_AUTH_SESSION [7], .packet CMSG_PING [], .packet CMSG_PING []] := by
    decide +kernel
  obtain ⟨connection, hrun, htrace⟩ := Option.map_eq_some_iff.mp hrun
  have hreach : Reached env ⟨(), (), false⟩ 0 (.ofSize 16) connection :=
    Reachable.foldlM (.start rfl) hrun
  exact ⟨env, connection, htrace, (received_frames env _ _ _ _ hreach).1⟩

end AzerothCore.Network
