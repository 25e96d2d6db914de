import AzerothCore.Network.WorldSocketRead

/-!
# Reading the PROXY header from a stream

What becomes of a connection is decided by the bytes of its stream alone: by a prefix
that is long enough, in whatever reads it arrives.
-/

namespace AzerothCore.Network
open List Option

/-! ## The header in a sequence of bytes -/

/-- `count` bytes from an offset on. -/
def slice (bytes : List UInt8) (offset count : ℕ) : List UInt8 := (bytes.drop offset).take count

theorem slice_append {front more : List UInt8} {offset count : ℕ}
    (hfits : offset + count ≤ front.length) :
    slice (front ++ more) offset count = slice front offset count := by
  rw [slice, slice, drop_append_of_le_length (by omega), take_append_of_le_length]
  rw [length_drop]
  omega

theorem slice_two {bytes : List UInt8} {offset : ℕ} (hfits : offset + 2 ≤ bytes.length) :
    slice bytes offset 2 = [bytes.getD offset 0, bytes.getD (offset + 1) 0] := by
  have hfirst : offset < bytes.length := by omega
  have hsecond : offset + 1 < bytes.length := by omega
  rw [slice, drop_eq_getElem_cons hfirst, drop_eq_getElem_cons hsecond,
    getD_eq_getElem _ _ hfirst, getD_eq_getElem _ _ hsecond]
  rfl

theorem getD_append {front more : List UInt8} {index : ℕ} (hfits : index < front.length) :
    (front ++ more).getD index 0 = front.getD index 0 := by
  rw [List.getD_append _ _ _ _ hfits]

namespace ProxyHeader

variable (bytes : List UInt8)

def signature : List UInt8 := slice bytes 0 12

def version : UInt8 := (bytes.getD 12 0 &&& 0xF0) >>> 4

def command : UInt8 := bytes.getD 12 0 &&& 0xF

def addressFamily : ℕ := (bytes.getD 13 0).toNat

/-- The declared length of what follows the first 16 bytes. -/
def len : ℕ := networkShort (slice bytes 14 2)

def remote (addressSize : ℕ) (address : List UInt8 → IpAddress) : IpAddress × ℕ :=
  (address (slice bytes 16 addressSize), networkShort (slice bytes (16 + 2 * addressSize) 2))

inductive Outcome where
  | incomplete
  | failed
  | finished (len : ℕ) (remote : Option (IpAddress × ℕ))
  deriving DecidableEq

def addressOutcome (addressSize minimum : ℕ)
    (address : List UInt8 → IpAddress) : Outcome :=
  if bytes.length - 16 < minimum then .incomplete
  else .finished (len bytes) (some (remote bytes addressSize address))

def headerOutcome : Outcome :=
  if version bytes ≠ 2 then .failed
  else if len bytes + 16 > bytes.length then .incomplete
  else if command bytes = 0 then .finished (len bytes) none
  else if addressFamily bytes = PROXY_HEADER_ADDRESS_FAMILY_AND_PROTOCOL_TCP_V4 then
    addressOutcome bytes 4 12 .v4
  else if addressFamily bytes = PROXY_HEADER_ADDRESS_FAMILY_AND_PROTOCOL_TCP_V6 then
    addressOutcome bytes 16 36 .v6
  else .failed

def outcome : Outcome :=
  if bytes.length < 28 then .incomplete
  else if signature bytes ≠ ProxySocket.expectedSignature then .failed
  else headerOutcome bytes

variable {front more stream : List UInt8}

theorem fields_append (hlen : 28 ≤ front.length) (more : List UInt8) :
    signature (front ++ more) = signature front ∧ version (front ++ more) = version front ∧
      command (front ++ more) = command front ∧
      addressFamily (front ++ more) = addressFamily front ∧
      len (front ++ more) = len front := by
  have hcommand : (front ++ more).getD 12 0 = front.getD 12 0 := getD_append (by omega)
  have hfamily : (front ++ more).getD 13 0 = front.getD 13 0 := getD_append (by omega)
  rw [version, version, command, command, addressFamily, addressFamily, hcommand, hfamily]
  refine ⟨slice_append (by omega), rfl, rfl, rfl, ?_⟩
  rw [len, len, slice_append (by omega)]

theorem addressOutcome_append {addressSize minimum : ℕ} {address : List UInt8 → IpAddress}
    (hlen : 28 ≤ front.length) (hminimum : 2 * addressSize + 2 ≤ minimum)
    (hdecided : addressOutcome front addressSize minimum address ≠ .incomplete)
    (more : List UInt8) :
    addressOutcome (front ++ more) addressSize minimum address =
      addressOutcome front addressSize minimum address := by
  unfold addressOutcome at hdecided ⊢
  by_cases hshort : front.length - 16 < minimum
  · rw [if_pos hshort] at hdecided
    exact absurd rfl hdecided
  have hlong : ¬ (front ++ more).length - 16 < minimum := by
    rw [length_append]
    omega
  rw [if_neg hshort, if_neg hlong, (fields_append hlen more).2.2.2.2, remote, remote,
    slice_append (by omega), slice_append (by omega)]

theorem headerOutcome_append (hlength : 28 ≤ front.length)
    (hdecided : headerOutcome front ≠ .incomplete) (more : List UInt8) :
    headerOutcome (front ++ more) = headerOutcome front := by
  obtain ⟨-, hversion, hcommand, hfamily, hlen⟩ := fields_append hlength more
  have haddress := fun {addressSize minimum : ℕ} {address : List UInt8 → IpAddress} =>
    @addressOutcome_append front addressSize minimum address hlength
  unfold headerOutcome at hdecided ⊢
  rw [hversion, hcommand, hfamily, hlen]
  by_cases hold : version front ≠ 2
  · rw [if_pos hold, if_pos hold]
  by_cases hpart : len front + 16 > front.length
  · rw [if_neg hold, if_pos hpart] at hdecided
    exact absurd rfl hdecided
  have hwhole : ¬ len front + 16 > (front ++ more).length := by
    rw [length_append]
    omega
  rw [if_neg hold, if_neg hpart] at hdecided ⊢
  split_ifs at hdecided ⊢ with hlocal hv4 hv6
  · rfl
  · exact haddress (by decide) hdecided more
  · exact haddress (by decide) hdecided more
  · rfl

theorem outcome_append (hdecided : outcome front ≠ .incomplete) (more : List UInt8) :
    outcome (front ++ more) = outcome front := by
  rw [outcome] at hdecided ⊢
  by_cases hlen : front.length < 28
  · rw [if_pos hlen] at hdecided
    exact absurd rfl hdecided
  have hlong : ¬ (front ++ more).length < 28 := by
    rw [length_append]
    omega
  rw [if_neg hlen] at hdecided
  rw [if_neg hlong, (fields_append (Nat.not_lt.mp hlen) more).1, outcome, if_neg hlen]
  by_cases hbad : signature front ≠ ProxySocket.expectedSignature
  · rw [if_pos hbad, if_pos hbad]
  · rw [if_neg hbad] at hdecided
    rw [if_neg hbad, if_neg hbad, headerOutcome_append (Nat.not_lt.mp hlen) hdecided]

end ProxyHeader

namespace MessageBuffer

variable {packet : MessageBuffer} {offset count : ℕ}

theorem bytesAt_eq_some (hfits : offset + count ≤ packet.GetActiveSize) :
    packet.bytesAt offset count = some (slice packet.active offset count) := by
  rw [bytesAt, if_pos hfits, slice]

theorem length_Normalize (packet : MessageBuffer) :
    packet.Normalize._storage.length = packet._storage.length := by
  have hstorage := packet.wpos_le
  have hactive := length_active packet
  rw [GetActiveSize] at hactive
  unfold Normalize
  split
  · exact length_copied (by omega)
  · rfl

theorem EnsureFreeSpace_room (hsize : 2 ≤ packet._storage.length) :
    0 < packet.EnsureFreeSpace.GetRemainingSpace ∧ 2 ≤ packet.EnsureFreeSpace._storage.length := by
  have hstorage := packet.wpos_le
  unfold EnsureFreeSpace
  split
  · rename_i hfull
    rw [GetRemainingSpace] at hfull ⊢
    dsimp only
    rw [length_resized]
    omega
  · rename_i hroom
    exact ⟨Nat.pos_of_ne_zero hroom, hsize⟩

end MessageBuffer

namespace ProxySocket

open ProxyHeader

variable {socket after : ProxySocket} {bytes transferred : List UInt8}

structure Waits (socket : ProxySocket) (address : IpAddress) (port : ℕ) (bytes : List UInt8) :
    Prop where
  state : socket._proxyHeaderReadingState = .STARTED
  reading : socket.reading = true
  isOpen : socket.IsOpen = true
  active : socket._readBuffer.active = bytes
  room : 0 < socket._readBuffer.GetRemainingSpace
  size : 2 ≤ socket._readBuffer._storage.length
  remote : (socket._remoteAddress, socket._remotePort) = (address, port)

/-- How the handler leaves a socket, by the outcome for the bytes received. -/
def Leaves (socket : ProxySocket) (address : IpAddress) (port : ℕ) (bytes : List UInt8) :
    Outcome → Prop
  | .incomplete => socket.Waits address port bytes
  | .failed => socket._proxyHeaderReadingState = .FAILED ∧ socket.reading = false ∧
      socket._readBuffer.active = bytes ∧
      (socket._remoteAddress, socket._remotePort) = (address, port)
  | .finished len remote => socket._proxyHeaderReadingState = .FINISHED ∧
      socket.reading = false ∧ socket._readBuffer.active = bytes.drop (len + 16) ∧
      (socket._remoteAddress, socket._remotePort) = remote.getD (address, port)

variable {address : IpAddress} {port : ℕ}

theorem waits_AsyncReadProxyHeader (hopen : socket.IsOpen = true)
    (hsize : 2 ≤ socket._readBuffer._storage.length)
    (hremote : (socket._remoteAddress, socket._remotePort) = (address, port)) :
    socket.AsyncReadProxyHeader.Waits address port socket._readBuffer.active := by
  have hnormalized : 2 ≤ socket._readBuffer.Normalize._storage.length := by
    rwa [MessageBuffer.length_Normalize]
  obtain ⟨hroom, hgrown⟩ := MessageBuffer.EnsureFreeSpace_room hnormalized
  rw [AsyncReadProxyHeader, if_pos hopen]
  constructor
  · rfl
  · rfl
  · exact hopen
  · rw [MessageBuffer.active_EnsureFreeSpace, MessageBuffer.active_Normalize]
  · exact hroom
  · exact hgrown
  · exact hremote

theorem finish_spec {len : ℕ} (hfits : len + 16 ≤ socket._readBuffer.GetActiveSize)
    (hreading : socket.reading = false) {remote : Option (IpAddress × ℕ)}
    (hremote : (socket._remoteAddress, socket._remotePort) = remote.getD (address, port)) :
    ∃ after, socket.finish len = some after ∧
      after.Leaves address port socket._readBuffer.active (.finished len remote) := by
  obtain ⟨packet, hpacket⟩ := MessageBuffer.ReadCompleted_eq_some hfits
  rw [finish, hpacket, map_some]
  exact ⟨_, rfl, rfl, hreading, (MessageBuffer.ReadCompleted_spec hpacket).active, hremote⟩

theorem readAddress_spec {addressSize minimum : ℕ} {make : List UInt8 → IpAddress}
    (hopen : socket.IsOpen = true) (hreading : socket.reading = false)
    (hsize : 2 ≤ socket._readBuffer._storage.length)
    (hremote : (socket._remoteAddress, socket._remotePort) = (address, port))
    (hminimum : 2 * addressSize + 2 ≤ minimum)
    (hfits : len socket._readBuffer.active + 16 ≤ socket._readBuffer.active.length) :
    ∃ after, socket.readAddress (len socket._readBuffer.active) addressSize minimum make =
        some after ∧
      after.Leaves address port socket._readBuffer.active
        (addressOutcome socket._readBuffer.active addressSize minimum make) := by
  rw [MessageBuffer.length_active] at hfits
  rw [readAddress, addressOutcome, MessageBuffer.length_active]
  by_cases hshort : socket._readBuffer.GetActiveSize - 16 < minimum
  · rw [if_pos hshort, if_pos hshort]
    exact ⟨_, rfl, waits_AsyncReadProxyHeader hopen hsize hremote⟩
  rw [if_neg hshort, if_neg hshort, MessageBuffer.bytesAt_eq_some (by omega),
    MessageBuffer.bytesAt_eq_some (by omega)]
  let bytes := socket._readBuffer.active
  let found : ProxySocket := { socket with
      _remoteAddress := make (slice bytes 16 addressSize)
      _remotePort := networkShort (slice bytes (16 + 2 * addressSize) 2) }
  exact @finish_spec found address port _ hfits hreading
    (some (remote bytes addressSize make)) rfl

theorem readHeader_spec (hopen : socket.IsOpen = true) (hreading : socket.reading = false)
    (hsize : 2 ≤ socket._readBuffer._storage.length)
    (hremote : (socket._remoteAddress, socket._remotePort) = (address, port)) :
    ∃ after, socket.readHeader (socket._readBuffer.active.getD 12 0)
        (socket._readBuffer.active.getD 13 0) (len socket._readBuffer.active) = some after ∧
      after.Leaves address port socket._readBuffer.active
        (headerOutcome socket._readBuffer.active) := by
  have hfail : socket.fail.Leaves address port socket._readBuffer.active .failed :=
    ⟨rfl, hreading, rfl, hremote⟩
  unfold readHeader headerOutcome version command addressFamily
  dsimp only
  rw [MessageBuffer.length_active]
  split_ifs with hold hpart hlocal hv4 hv6
  · exact ⟨_, rfl, hfail⟩
  · exact ⟨_, rfl, waits_AsyncReadProxyHeader hopen hsize hremote⟩
  · exact finish_spec (Nat.not_lt.mp hpart) hreading hremote
  · apply readAddress_spec hopen hreading hsize hremote (by decide)
    rw [MessageBuffer.length_active]
    exact Nat.not_lt.mp hpart
  · apply readAddress_spec hopen hreading hsize hremote (by decide)
    rw [MessageBuffer.length_active]
    exact Nat.not_lt.mp hpart
  · exact ⟨_, rfl, hfail⟩

/-- The handler never reads behind what was received, and decides by the bytes alone. -/
theorem ProxyReadHeaderHandler_spec (hwaits : socket.Waits address port bytes)
    (hfits : transferred.length ≤ socket._readBuffer.GetRemainingSpace) :
    ∃ after, socket.ProxyReadHeaderHandler false transferred = some after ∧
      after.Leaves address port (bytes ++ transferred) (outcome (bytes ++ transferred)) := by
  obtain ⟨packet, hpacket⟩ := MessageBuffer.Write_eq_some hfits
  have hwritten := MessageBuffer.Write_spec hpacket
  have hactive : packet.active = bytes ++ transferred := by
    rw [hwritten.active, hwaits.active]
  have hsize : 2 ≤ packet._storage.length := by
    rw [hwritten.length]
    exact hwaits.size
  have hlen := MessageBuffer.length_active packet
  rw [ProxyReadHeaderHandler, if_neg Bool.false_ne_true, hpacket, bind_some, ← hactive,
    outcome, hlen]
  by_cases hshort : packet.GetActiveSize < 28
  · rw [if_pos hshort, if_pos hshort]
    let received : ProxySocket := { socket with _readBuffer := packet, reading := false }
    exact ⟨_, rfl, @waits_AsyncReadProxyHeader received address port hwaits.isOpen hsize
      hwaits.remote⟩
  rw [if_neg hshort, if_neg hshort, MessageBuffer.bytesAt_eq_some (by omega),
    MessageBuffer.bytesAt_eq_some (by omega), MessageBuffer.bytesAt_eq_some (by omega),
    @slice_two packet.active 12 (by omega)]
  dsimp only
  rw [← signature, ← len]
  by_cases hbad : signature packet.active ≠ expectedSignature
  · rw [if_pos hbad, if_pos hbad]
    exact ⟨_, rfl, rfl, rfl, rfl, hwaits.remote⟩
  rw [if_neg hbad, if_neg hbad]
  exact @readHeader_spec { socket with _readBuffer := packet, reading := false } address port
    hwaits.isOpen rfl hsize hwaits.remote

variable {stream : List UInt8} {run result : ProxySocket × List UInt8} {sizes : List ℕ}

/-- What has been received and what is still to come make up the stream, and the socket is
as the handler leaves it for what has been received. -/
def Follows (address : IpAddress) (port : ℕ) (stream : List UInt8)
    (run : ProxySocket × List UInt8) : Prop :=
  ∃ received, received ++ run.2 = stream ∧ run.1.Leaves address port received (outcome received)

theorem follows_init (address : IpAddress) (port : ℕ) (stream : List UInt8) :
    Follows address port stream ((init address port).AsyncReadProxyHeader, stream) := by
  refine ⟨[], rfl, ?_⟩
  have hwaits := @waits_AsyncReadProxyHeader (init address port) address port rfl
    (by rw [init, MessageBuffer.ofSize, length_replicate]; decide) rfl
  rwa [init, MessageBuffer.active_ofSize] at hwaits

variable {received : List UInt8}

theorem Leaves.waits {address : IpAddress} {port : ℕ}
    (hleaves : socket.Leaves address port received (outcome received))
    (hreading : socket.reading = true) :
    outcome received = .incomplete ∧ socket.Waits address port received := by
  cases houtcome : outcome received with
  | incomplete =>
    rw [houtcome] at hleaves
    exact ⟨rfl, hleaves⟩
  | failed | finished =>
    rw [houtcome] at hleaves
    exact absurd (hreading.symm.trans hleaves.2.1) (by decide)

theorem transfer_follows (hfollows : Follows address port stream run) (size : ℕ) :
    ∃ next, transfer run size = some next ∧ Follows address port stream next := by
  obtain ⟨received, hstream, hleaves⟩ := hfollows
  rw [transfer]
  rcases hreading : run.1.reading with _ | _
  · exact ⟨run, rfl, received, hstream, hleaves⟩
  obtain ⟨-, hwaits⟩ := hleaves.waits hreading
  have hfits : (run.2.take (min size run.1._readBuffer.GetRemainingSpace)).length ≤
      run.1._readBuffer.GetRemainingSpace :=
    Nat.le_trans (length_take_le _ _) (Nat.min_le_right _ _)
  obtain ⟨after, hafter, hleft⟩ := ProxyReadHeaderHandler_spec hwaits hfits
  dsimp only
  rw [hafter, map_some]
  refine ⟨_, rfl, _, ?_, hleft⟩
  rw [append_assoc, take_append_drop, hstream]

theorem foldlM_transfer_follows (hfollows : Follows address port stream run) (sizes : List ℕ) :
    ∃ result, sizes.foldlM transfer run = some result ∧ Follows address port stream result := by
  induction sizes generalizing run with
  | nil => exact ⟨run, rfl, hfollows⟩
  | cons size rest ih =>
    obtain ⟨next, hnext, hfollows'⟩ := transfer_follows hfollows size
    rw [foldlM_cons, hnext]
    exact ih hfollows'

theorem readStream_follows (address : IpAddress) (port : ℕ) (stream : List UInt8)
    (sizes : List ℕ) :
    ∃ result, readStream address port stream sizes = some result ∧
      Follows address port stream result :=
  foldlM_transfer_follows (follows_init address port stream) sizes

def Complete (run : ProxySocket × List UInt8) : Prop := run.1.reading = false ∨ run.2 = []

theorem exists_complete (hfollows : Follows address port stream run) :
    ∃ (sizes : List ℕ) (result : _), sizes.foldlM transfer run = some result ∧
      Follows address port stream result ∧ Complete result := by
  induction hlen : run.2.length generalizing run with
  | zero =>
    exact ⟨[], run, rfl, hfollows, .inr (length_eq_zero_iff.mp hlen)⟩
  | succ n ih =>
    rcases hreading : run.1.reading with _ | _
    · exact ⟨[], run, rfl, hfollows, .inl hreading⟩
    obtain ⟨received, hstream, hleaves⟩ := hfollows
    have hroom := (hleaves.waits hreading).2.room
    obtain ⟨next, hnext, hfollows'⟩ := transfer_follows ⟨received, hstream, hleaves⟩ 1
    have hshorter : next.2.length = n := by
      rw [transfer, hreading, if_pos rfl] at hnext
      obtain ⟨after, -, hnext⟩ := map_eq_some_iff.mp hnext
      rw [← hnext]
      rw [length_drop, hlen, Nat.min_eq_left hroom, Nat.add_sub_cancel]
    obtain ⟨sizes, result, hrun, hresult⟩ := ih hfollows' hshorter
    refine ⟨1 :: sizes, result, ?_, hresult⟩
    rw [foldlM_cons, hnext]
    exact hrun

theorem outcome_finished {length : ℕ} {remote : Option (IpAddress × ℕ)}
    (houtcome : outcome received = .finished length remote) :
    length = len received ∧ len received + 16 ≤ received.length ∧
      signature received = expectedSignature ∧ version received = 2 := by
  unfold outcome headerOutcome addressOutcome at houtcome
  split_ifs at houtcome with hshort hbad hold hpart hlocal hv4 hv4' hv6 hv6'
  all_goals
    cases houtcome
    exact ⟨rfl, Nat.not_lt.mp hpart, not_not.mp hbad, not_not.mp hold⟩

/-- State, remote endpoint and bytes that are left for the session. -/
def ending (run : ProxySocket × List UInt8) :
    ProxyHeaderReadingState × (IpAddress × ℕ) × List UInt8 :=
  (run.1._proxyHeaderReadingState, (run.1._remoteAddress, run.1._remotePort),
    run.1._readBuffer.active ++ run.2)

def endingOf (address : IpAddress) (port : ℕ) (stream : List UInt8) :
    Outcome → ProxyHeaderReadingState × (IpAddress × ℕ) × List UInt8
  | .incomplete => (.STARTED, (address, port), stream)
  | .failed => (.FAILED, (address, port), stream)
  | .finished len remote => (.FINISHED, remote.getD (address, port), stream.drop (len + 16))

theorem Leaves.ending {rest : List UInt8} {decided : Outcome}
    (hleaves : socket.Leaves address port received decided)
    (hdecided : outcome received = decided) :
    ProxySocket.ending (socket, rest) = endingOf address port (received ++ rest) decided := by
  cases decided with
  | incomplete =>
    rw [ProxySocket.ending, endingOf, hleaves.state, hleaves.remote, hleaves.active]
  | failed =>
    obtain ⟨hstate, -, hactive, hremote⟩ := hleaves
    rw [ProxySocket.ending, endingOf, hstate, hremote, hactive]
  | finished length remote =>
    obtain ⟨hstate, -, hactive, hremote⟩ := hleaves
    obtain ⟨hlen, hfits, -⟩ := outcome_finished hdecided
    rw [ProxySocket.ending, endingOf, hstate, hremote, hactive,
      drop_append_of_le_length (by rw [hlen]; exact hfits)]

theorem Follows.ending (hfollows : Follows address port stream run) (hcompl : Complete run) :
    ProxySocket.ending run = endingOf address port stream (outcome stream) := by
  obtain ⟨received, rfl, hleaves⟩ := hfollows
  have hsame : outcome (received ++ run.2) = outcome received := by
    rcases hcompl with hreading | hrest
    · apply outcome_append
      intro hincomplete
      rw [hincomplete] at hleaves
      exact absurd (hleaves.reading.symm.trans hreading) (by decide)
    · rw [hrest, append_nil]
  rw [hsame]
  exact hleaves.ending rfl

/-! ## The law of the header -/

/-- The `len` bytes behind the fixed part of the header. -/
def addressBlock (stream : List UInt8) : List UInt8 := slice stream 16 (len stream)

def endpointIn (block : List UInt8) (addressSize : ℕ) (address : List UInt8 → IpAddress) :
    IpAddress × ℕ :=
  (address (slice block 0 addressSize), networkShort (slice block (2 * addressSize) 2))

def EndpointFrom (stream : List UInt8) (family addressSize minimum : ℕ)
    (address : List UInt8 → IpAddress) (endpoint : IpAddress × ℕ) : Prop :=
  addressFamily stream = family → minimum ≤ len stream ∧
    endpoint = endpointIn (addressBlock stream) addressSize address

structure HeaderLaw (address : IpAddress) (port : ℕ) (stream : List UInt8) : Prop where
  /-- No byte is read that has not been received. -/
  reads : ∀ sizes, ∃ result, readStream address port stream sizes = some result
  wellFormed : ∀ sizes result, readStream address port stream sizes = some result →
    result.1._proxyHeaderReadingState = .FINISHED →
      signature stream = expectedSignature ∧ version stream = 2 ∧ len stream + 16 ≤ stream.length ∧
        result.1._readBuffer.active ++ result.2 = stream.drop (len stream + 16)
  endpoint : ∀ sizes result, readStream address port stream sizes = some result →
    result.1._proxyHeaderReadingState = .FINISHED → command stream = 1 →
      EndpointFrom stream PROXY_HEADER_ADDRESS_FAMILY_AND_PROTOCOL_TCP_V4 4 12 .v4
        (result.1._remoteAddress, result.1._remotePort) ∧
      EndpointFrom stream PROXY_HEADER_ADDRESS_FAMILY_AND_PROTOCOL_TCP_V6 16 36 .v6
        (result.1._remoteAddress, result.1._remotePort)
  split : ∀ sizes sizes' result result', readStream address port stream sizes = some result →
    readStream address port stream sizes' = some result' → Complete result → Complete result' →
      ending result = ending result'

def ShortBlock (stream : List UInt8) : Prop :=
  signature stream = expectedSignature ∧ version stream = 2 ∧ command stream = 1 ∧
    ((addressFamily stream = PROXY_HEADER_ADDRESS_FAMILY_AND_PROTOCOL_TCP_V4 ∧
        len stream < 12 ∧ 28 ≤ stream.length) ∨
      (addressFamily stream = PROXY_HEADER_ADDRESS_FAMILY_AND_PROTOCOL_TCP_V6 ∧
        len stream < 36 ∧ 52 ≤ stream.length))

theorem slice_slice {stream : List UInt8} {start length offset count : ℕ}
    (hfits : offset + count ≤ length) :
    slice (slice stream start length) offset count = slice stream (start + offset) count := by
  rw [slice, slice, slice, drop_take, take_take, drop_drop,
    Nat.min_eq_left (Nat.le_sub_of_add_le' hfits)]

theorem endpointIn_addressBlock {stream : List UInt8} {addressSize : ℕ}
    {address : List UInt8 → IpAddress} (hfits : 2 * addressSize + 2 ≤ len stream) :
    endpointIn (addressBlock stream) addressSize address = remote stream addressSize address := by
  rw [endpointIn, addressBlock, remote, slice_slice (by omega), slice_slice hfits, Nat.add_zero]

theorem Follows.finished (hfollows : Follows address port stream run)
    (hstate : run.1._proxyHeaderReadingState = .FINISHED) :
    ∃ remote, outcome stream = .finished (len stream) remote ∧
      (run.1._remoteAddress, run.1._remotePort) = remote.getD (address, port) ∧
      run.1._readBuffer.active ++ run.2 = stream.drop (len stream + 16) := by
  have hcompl : Complete run := by
    obtain ⟨received, -, hleaves⟩ := hfollows
    left
    cases houtcome : outcome received with
    | incomplete =>
      rw [houtcome] at hleaves
      exact absurd (hstate.symm.trans hleaves.state) (by decide)
    | failed | finished =>
      rw [houtcome] at hleaves
      exact hleaves.2.1
  have hending := hfollows.ending hcompl
  rw [ProxySocket.ending, hstate] at hending
  cases houtcome : outcome stream with
  | incomplete =>
    rw [houtcome] at hending
    have hstates : ProxyHeaderReadingState.FINISHED = .STARTED := congrArg Prod.fst hending
    exact absurd hstates (by decide)
  | failed =>
    rw [houtcome] at hending
    have hstates : ProxyHeaderReadingState.FINISHED = .FAILED := congrArg Prod.fst hending
    exact absurd hstates (by decide)
  | finished length remote =>
    rw [houtcome, endingOf] at hending
    rw [(outcome_finished houtcome).1] at hending ⊢
    obtain ⟨hremote, hleft⟩ := Prod.mk.inj (Prod.mk.inj hending).2
    exact ⟨remote, rfl, hremote, hleft⟩

theorem outcome_of_shortBlock (hshort : ShortBlock stream) :
    ∃ remote, outcome stream = .finished (len stream) remote := by
  obtain ⟨hsignature, hversion, hcommand, hfamily⟩ := hshort
  have hproxy : command stream ≠ 0 := by
    rw [hcommand]
    decide
  unfold outcome headerOutcome addressOutcome
  rcases hfamily with ⟨hv4, hlen, hlength⟩ | ⟨hv6, hlen, hlength⟩
  · rw [if_neg (by omega), if_neg (not_not.mpr hsignature), if_neg (not_not.mpr hversion),
      if_neg (by omega), if_neg hproxy, if_pos hv4, if_neg (by omega)]
    exact ⟨_, rfl⟩
  · have hnot : addressFamily stream ≠ PROXY_HEADER_ADDRESS_FAMILY_AND_PROTOCOL_TCP_V4 := by
      rw [hv6]
      decide
    rw [if_neg (by omega), if_neg (not_not.mpr hsignature), if_neg (not_not.mpr hversion),
      if_neg (by omega), if_neg hproxy, if_neg hnot, if_pos hv6, if_neg (by omega)]
    exact ⟨_, rfl⟩

theorem outcome_remote {remote : Option (IpAddress × ℕ)}
    (houtcome : outcome stream = .finished (len stream) remote) (hproxy : command stream ≠ 0) :
    (addressFamily stream = PROXY_HEADER_ADDRESS_FAMILY_AND_PROTOCOL_TCP_V4 ∧
        28 ≤ stream.length ∧ remote = some (ProxyHeader.remote stream 4 .v4)) ∨
      (addressFamily stream = PROXY_HEADER_ADDRESS_FAMILY_AND_PROTOCOL_TCP_V6 ∧
        52 ≤ stream.length ∧ remote = some (ProxyHeader.remote stream 16 .v6)) := by
  unfold outcome headerOutcome addressOutcome at houtcome
  split_ifs at houtcome with hshort hbad hold hpart hv4 hv4' hv6 hv6'
  · cases houtcome
    exact .inl ⟨hv4, by omega, rfl⟩
  · cases houtcome
    exact .inr ⟨hv6, by omega, rfl⟩

/-- The handler keeps to the law on every stream but those with a short address block. -/
theorem headerLaw_iff (address : IpAddress) (port : ℕ) (stream : List UInt8) :
    HeaderLaw address port stream ↔ ¬ ShortBlock stream := by
  constructor
  · intro hlaw hshort
    obtain ⟨remote, houtcome⟩ := outcome_of_shortBlock hshort
    obtain ⟨sizes, result, hrun, hfollows, hcomplete⟩ :=
      exists_complete (follows_init address port stream)
    have hending := hfollows.ending hcomplete
    rw [houtcome] at hending
    have hstate : result.1._proxyHeaderReadingState = .FINISHED := congrArg Prod.fst hending
    obtain ⟨hv4, hv6⟩ := hlaw.endpoint sizes result hrun hstate hshort.2.2.1
    rcases hshort.2.2.2 with ⟨hfamily, hlen, -⟩ | ⟨hfamily, hlen, -⟩
    · exact absurd hlen (Nat.not_lt.mpr (hv4 hfamily).1)
    · exact absurd hlen (Nat.not_lt.mpr (hv6 hfamily).1)
  · intro hlong
    have hfollowsOf : ∀ sizes result, readStream address port stream sizes = some result →
        Follows address port stream result := by
      intro sizes result hrun
      obtain ⟨result', hrun', hfollows⟩ := readStream_follows address port stream sizes
      rw [hrun] at hrun'
      rwa [some.inj hrun']
    constructor
    · intro sizes
      obtain ⟨result, hrun, -⟩ := readStream_follows address port stream sizes
      exact ⟨result, hrun⟩
    · intro sizes result hrun hstate
      obtain ⟨remote, houtcome, -, hleft⟩ := (hfollowsOf sizes result hrun).finished hstate
      obtain ⟨-, hfits, hsignature, hversion⟩ := outcome_finished houtcome
      exact ⟨hsignature, hversion, hfits, hleft⟩
    · intro sizes result hrun hstate hcommand
      obtain ⟨remote, houtcome, hremote, -⟩ := (hfollowsOf sizes result hrun).finished hstate
      obtain ⟨-, -, hsignature, hversion⟩ := outcome_finished houtcome
      have hfamily := outcome_remote houtcome (by rw [hcommand]; decide)
      have hshort := fun hblock => hlong ⟨hsignature, hversion, hcommand, hblock⟩
      rw [hremote]
      constructor
      · intro hv4
        rcases hfamily with ⟨-, hlength, rfl⟩ | ⟨hv6, -⟩
        · have hlen : 12 ≤ len stream :=
            Nat.not_lt.mp fun hlen => hshort (.inl ⟨hv4, hlen, hlength⟩)
          exact ⟨hlen, (endpointIn_addressBlock (by omega)).symm⟩
        · exact absurd (hv4.symm.trans hv6) (by decide)
      · intro hv6
        rcases hfamily with ⟨hv4, -⟩ | ⟨-, hlength, rfl⟩
        · exact absurd (hv4.symm.trans hv6) (by decide)
        have hlen : 36 ≤ len stream := Nat.not_lt.mp fun hlen => hshort (.inr ⟨hv6, hlen, hlength⟩)
        exact ⟨hlen, (endpointIn_addressBlock (by omega)).symm⟩
    · intro sizes sizes' result result' hrun hrun' hcomplete hcomplete'
      rw [(hfollowsOf sizes result hrun).ending hcomplete,
        (hfollowsOf sizes' result' hrun').ending hcomplete']

def emptyBlock : List UInt8 :=
  expectedSignature ++ [0x21, 0x11, 0, 0] ++ [71, 69, 84, 32, 47, 32, 72, 84, 84, 80, 47, 49]

/-- The bytes of the client become its address. -/
theorem emptyBlock_accepted :
    ((readStream (.v4 [127, 0, 0, 1]) 3724 emptyBlock [28]).map fun result =>
        (result.1._proxyHeaderReadingState, result.1._remoteAddress)) =
      some (.FINISHED, .v4 [71, 69, 84, 32]) ∧
    ¬ HeaderLaw (.v4 [127, 0, 0, 1]) 3724 emptyBlock := by
  have hend : ((readStream (.v4 [127, 0, 0, 1]) 3724 emptyBlock [28]).map fun result =>
      (result.1._proxyHeaderReadingState, result.1._remoteAddress)) =
        some (.FINISHED, .v4 [71, 69, 84, 32]) := by
    decide +kernel
  refine ⟨hend, fun hlaw => ?_⟩
  obtain ⟨result, hrun, hresult⟩ := map_eq_some_iff.mp hend
  have hblock := (hlaw.endpoint [28] result hrun (Prod.mk.inj hresult).1 (by decide)).1
  exact absurd (hblock (by decide)).1 (by decide)

end ProxySocket

end AzerothCore.Network
