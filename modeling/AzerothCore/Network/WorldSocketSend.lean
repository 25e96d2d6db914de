import AzerothCore.Collections.Reachability
import AzerothCore.Network.Buffers

/-!
# The sending side of a world socket

`SendPacket` queues packets from any thread. `Update` packs them into send
buffers and `HandleQueue` offers the first of these to the socket, which may
accept a part of it or none. The build without completion ports is modelled.
-/

namespace AzerothCore.Network.Sending

open AzerothCore.Network

def SMSG_UPDATE_OBJECT : ℕ := 0x0A9
def SMSG_COMPRESSED_UPDATE_OBJECT : ℕ := 0x1F6

structure EncryptableAndCompressiblePacket where
  opcode : UInt16
  contents : List UInt8
  _encrypt : Bool

/-- The cipher of the headers and the compression of `compressBuff`, which
leaves nothing where it fails. -/
structure Codec (κ : Type*) where
  cipher : StreamCipher κ
  compressBuff : List UInt8 → List UInt8

namespace EncryptableAndCompressiblePacket

def size (packet : EncryptableAndCompressiblePacket) : ℕ := packet.contents.length

def NeedsCompression (packet : EncryptableAndCompressiblePacket) : Bool :=
  packet.opcode.toNat = SMSG_UPDATE_OBJECT && packet.size > 100

/-- `put<uint32>`: the least significant byte first. -/
def putUint32 (value : ℕ) : List UInt8 :=
  [UInt8.ofNat value, UInt8.ofNat (value / 2 ^ 8), UInt8.ofNat (value / 2 ^ 16),
    UInt8.ofNat (value / 2 ^ 24)]

def CompressIfNeeded {κ : Type*} (codec : Codec κ) (packet : EncryptableAndCompressiblePacket) :
    EncryptableAndCompressiblePacket :=
  if packet.NeedsCompression then
    let compressed := codec.compressBuff packet.contents
    if compressed = [] then
      packet
    else
      { packet with
        opcode := UInt16.ofNat SMSG_COMPRESSED_UPDATE_OBJECT
        contents := putUint32 packet.size ++ compressed }
  else
    packet

/-- The header `Update` puts before a packet. -/
def pktHeader (packet : EncryptableAndCompressiblePacket) : ServerPktHeader where
  size := uint32 (packet.size + 2)
  cmd := packet.opcode.toNat

end EncryptableAndCompressiblePacket

inductive WriteResult where
  | would_block
  | error
  /-- It accepts this many of them, but at least one and not more than there
  are. -/
  | accepts (count : ℕ)

structure WorldSocket (κ : Type*) where
  _bufferQueue : List EncryptableAndCompressiblePacket
  _sendBufferSize : ℕ
  _writeQueue : List MessageBuffer
  _isWritingAsync : Bool
  _closed : Bool
  _closing : Bool
  _authCrypt : AuthCrypt κ
  /-- All bytes the system has accepted. -/
  accepted : List UInt8

namespace WorldSocket

variable {κ : Type*} (codec : Codec κ)

def IsOpen (socket : WorldSocket κ) : Bool := !socket._closed && !socket._closing

def CloseSocket (socket : WorldSocket κ) : WorldSocket κ := { socket with _closed := true }

def SendPacket (socket : WorldSocket κ) (opcode : UInt16) (contents : List UInt8) : WorldSocket κ :=
  if socket.IsOpen then
    { socket with
      _bufferQueue := socket._bufferQueue ++ [⟨opcode, contents, socket._authCrypt.IsInitialized⟩] }
  else
    socket

def QueuePacket (socket : WorldSocket κ) (buffer : MessageBuffer) : WorldSocket κ :=
  { socket with _writeQueue := socket._writeQueue ++ [buffer] }

def WritePacket (buffer : MessageBuffer) (header contents : List UInt8) : Option MessageBuffer :=
  match buffer.Write header with
  | none => none
  | some buffer => if contents.isEmpty then some buffer else buffer.Write contents

def EncryptHeader (socket : WorldSocket κ) (packet : EncryptableAndCompressiblePacket) :
    Option (List UInt8 × AuthCrypt κ) :=
  if packet._encrypt then
    socket._authCrypt.EncryptSend codec.cipher packet.pktHeader.header
  else
    some (packet.pktHeader.header, socket._authCrypt)

def RotateBuffer (socket : WorldSocket κ) (buffer : MessageBuffer) (currentPacketSize : ℕ) :
    Option (WorldSocket κ × MessageBuffer) :=
  if buffer.GetRemainingSpace < currentPacketSize then
    match MessageBuffer.moved.Resize socket._sendBufferSize with
    | none => none
    | some buffer' => some (socket.QueuePacket buffer, buffer')
  else
    some (socket, buffer)

/-- The body of the loop in `Update` for one packet. -/
def PackPacket (socket : WorldSocket κ) (buffer : MessageBuffer)
    (queued : EncryptableAndCompressiblePacket) : Option (WorldSocket κ × MessageBuffer) :=
  let queued := queued.CompressIfNeeded codec
  match socket.EncryptHeader codec queued with
  | none => none
  | some (header, crypt) =>
    let socket := { socket with _authCrypt := crypt }
    let currentPacketSize := queued.size + queued.pktHeader.getHeaderLength
    match socket.RotateBuffer buffer currentPacketSize with
    | none => none
    | some (socket, buffer) =>
      if buffer.GetRemainingSpace ≥ currentPacketSize then
        (WritePacket buffer header queued.contents).map fun buffer => (socket, buffer)
      else
        match buffer.Resize currentPacketSize with
        | none => none
        | some buffer =>
          let socket :=
            if currentPacketSize ≤ 65536 then
              { socket with _sendBufferSize := currentPacketSize }
            else
              socket
          (WritePacket buffer header queued.contents).map fun buffer => (socket, buffer)

def PackPackets (socket : WorldSocket κ) (buffer : MessageBuffer) :
    List EncryptableAndCompressiblePacket → Option (WorldSocket κ × MessageBuffer)
  | [] => some (socket, buffer)
  | queued :: more =>
    match socket.PackPacket codec buffer queued with
    | none => none
    | some (socket, buffer) => PackPackets socket buffer more

/-- The first part of `Update`. A packet whose producer has not linked it yet
hides those behind it, so any number of the queued packets may be dequeued. -/
def PackQueue (socket : WorldSocket κ) (count : ℕ) : Option (WorldSocket κ) :=
  let dequeued := socket._bufferQueue.take count
  let socket := { socket with _bufferQueue := socket._bufferQueue.drop count }
  if dequeued.isEmpty then
    some socket
  else
    match socket.PackPackets codec (.ofSize socket._sendBufferSize) dequeued with
    | none => none
    | some (socket, buffer) =>
      if buffer.GetActiveSize > 0 then some (socket.QueuePacket buffer) else some socket

/-! ## Flushing the write queue -/

def AsyncProcessQueue (socket : WorldSocket κ) : Bool × WorldSocket κ :=
  if socket._isWritingAsync then
    (false, socket)
  else
    (false, { socket with _isWritingAsync := true })

def PopFront (socket : WorldSocket κ) : WorldSocket κ :=
  let socket := { socket with _writeQueue := socket._writeQueue.tail }
  if socket._closing && socket._writeQueue.isEmpty then socket.CloseSocket else socket

/-- The number of bytes a write of `size` bytes sends; one of no bytes never
reaches the system. -/
def bytesSent (size count : ℕ) : ℕ := if size = 0 then 0 else max 1 (min count size)

def HandleQueue (socket : WorldSocket κ) (result : WriteResult) : Option (Bool × WorldSocket κ) :=
  match socket._writeQueue with
  | [] => some (false, socket)
  | queuedMessage :: rest =>
    let bytesToSend := queuedMessage.GetActiveSize
    match (if bytesToSend = 0 then .accepts 0 else result) with
    | .would_block => some socket.AsyncProcessQueue
    | .error => some (false, socket.PopFront)
    | .accepts count =>
      let sent := bytesSent bytesToSend count
      let socket := { socket with
        accepted := socket.accepted ++ queuedMessage.active.take sent }
      if sent = 0 then
        some (false, socket.PopFront)
      else if sent < bytesToSend then
        match queuedMessage.ReadCompleted sent with
        | none => none
        | some queuedMessage =>
          some ({ socket with _writeQueue := queuedMessage :: rest }).AsyncProcessQueue
      else
        let socket := socket.PopFront
        some (!socket._writeQueue.isEmpty, socket)

/-- The loop of `Socket::Update`. It goes on only after a buffer has left the
queue. -/
def HandleQueueLoop (results : ℕ → WriteResult) : ℕ → WorldSocket κ → Option (WorldSocket κ)
  | 0, _ => none
  | turns + 1, socket =>
    match socket.HandleQueue (results turns) with
    | none => none
    | some (true, socket) => HandleQueueLoop results turns socket
    | some (false, socket) => some socket

/-- `Socket::Update`. -/
def BaseUpdate (socket : WorldSocket κ) (results : ℕ → WriteResult) : Option (WorldSocket κ) :=
  if socket._closed then
    some socket
  else if socket._isWritingAsync || (socket._writeQueue.isEmpty && !socket._closing) then
    some socket
  else
    socket.HandleQueueLoop results (socket._writeQueue.length + 1)

def Update (socket : WorldSocket κ) (count : ℕ) (results : ℕ → WriteResult) :
    Option (WorldSocket κ) :=
  match socket.PackQueue codec count with
  | none => none
  | some socket => socket.BaseUpdate results

def WriteHandlerWrapper (socket : WorldSocket κ) (result : WriteResult) : Option (WorldSocket κ) :=
  (HandleQueue { socket with _isWritingAsync := false } result).map Prod.snd

def started (clientKeys : κ) (serverKeys : κ) : WorldSocket κ where
  _bufferQueue := []
  _sendBufferSize := 4096
  _writeQueue := []
  _isWritingAsync := false
  _closed := false
  _closing := false
  _authCrypt := ⟨clientKeys, serverKeys, false⟩
  accepted := []

end WorldSocket

inductive Input (κ : Type*) where
  | sendPacket (opcode : UInt16) (contents : List UInt8)
  /-- The next update dequeues so many packets and meets these results. -/
  | update (count : ℕ) (results : ℕ → WriteResult)
  | writable (result : WriteResult)
  /-- `AuthCrypt::Init`, with the keys it sets up for the client's headers. -/
  | init (clientKeys : κ)
  | setSendBufferSize (size : ℕ)
  | delayedClose
  | close

def Input.NoError {κ : Type*} : Input κ → Prop
  | .update _ results => ∀ turn, results turn ≠ .error
  | .writable result => result ≠ .error
  | _ => True

structure Sender (κ : Type*) where
  socket : WorldSocket κ
  enqueued : List EncryptableAndCompressiblePacket

namespace Sender

variable {κ : Type*} (codec : Codec κ)

def Accepts (sender : Sender κ) : Input κ → Prop
  | .writable _ => sender.socket._isWritingAsync = true
  | .init _ => sender.socket._authCrypt._initialized = false
  | _ => True

instance (sender : Sender κ) (input : Input κ) : Decidable (sender.Accepts input) := by
  cases input <;> unfold Accepts <;> infer_instance

/-- `none` is a failed assertion or an access outside a buffer. -/
def handle (serverKeys : κ) (sender : Sender κ) : Input κ → Option (Sender κ)
  | .sendPacket opcode contents =>
    some {
      socket := sender.socket.SendPacket opcode contents
      enqueued := sender.enqueued ++
        if sender.socket.IsOpen then
          [⟨opcode, contents, sender.socket._authCrypt.IsInitialized⟩]
        else [] }
  | .update count results =>
    (sender.socket.Update codec count results).map fun socket => { sender with socket := socket }
  | .writable result =>
    (sender.socket.WriteHandlerWrapper result).map fun socket => { sender with socket := socket }
  | .init clientKeys =>
    some { sender with
      socket := { sender.socket with _authCrypt := ⟨clientKeys, serverKeys, true⟩ } }
  | .setSendBufferSize size =>
    some { sender with socket := { sender.socket with _sendBufferSize := size } }
  | .delayedClose =>
    some { sender with socket := { sender.socket with _closing := true } }
  | .close => some { sender with socket := sender.socket.CloseSocket }

def run (serverKeys : κ) (sender : Sender κ) (input : Input κ) : Option (Sender κ) :=
  if sender.Accepts input then sender.handle codec serverKeys input else none

end Sender

end AzerothCore.Network.Sending

/-! ## The bytes a world socket sends -/

namespace AzerothCore.Network.Sending

open List Nat
open AzerothCore.Reachability

variable {κ : Type*} (codec : Codec κ)

def sentHeader (keys : κ) (packet : EncryptableAndCompressiblePacket) : List UInt8 × κ :=
  if packet._encrypt then
    codec.cipher.UpdateData keys packet.pktHeader.header
  else
    (packet.pktHeader.header, keys)

def wire (keys : κ) : List EncryptableAndCompressiblePacket → List UInt8 × κ
  | [] => ([], keys)
  | queued :: more =>
    let packet := queued.CompressIfNeeded codec
    let (header, keys) := sentHeader codec keys packet
    let (bytes, keys) := wire keys more
    (header ++ packet.contents ++ bytes, keys)

theorem wire_cons (keys : κ) (queued : EncryptableAndCompressiblePacket)
    (more : List EncryptableAndCompressiblePacket) :
    wire codec keys (queued :: more) = ((sentHeader codec keys (queued.CompressIfNeeded codec)).1 ++
          (queued.CompressIfNeeded codec).contents ++
          (wire codec (sentHeader codec keys (queued.CompressIfNeeded codec)).2 more).1,
        (wire codec (sentHeader codec keys (queued.CompressIfNeeded codec)).2 more).2) :=
  rfl

theorem wire_append (keys : κ) (first second : List EncryptableAndCompressiblePacket) :
    wire codec keys (first ++ second) =
      ((wire codec keys first).1 ++ (wire codec (wire codec keys first).2 second).1,
        (wire codec (wire codec keys first).2 second).2) := by
  induction first generalizing keys with
  | nil => rfl
  | cons queued more ih =>
    rw [cons_append, wire_cons, wire_cons, ih, append_assoc _ _ (wire _ _ second).1]

theorem wire_prefix (keys : κ) (first second : List EncryptableAndCompressiblePacket) :
    (wire codec keys first).1 <+: (wire codec keys (first ++ second)).1 := by
  rw [wire_append]
  exact prefix_append _ _

@[simp] theorem encrypt_CompressIfNeeded (packet : EncryptableAndCompressiblePacket) :
    (packet.CompressIfNeeded codec)._encrypt = packet._encrypt := by
  unfold EncryptableAndCompressiblePacket.CompressIfNeeded
  split
  case isFalse => rfl
  dsimp only
  split
  · rfl
  · rfl

theorem wire_keys_of_plain (keys : κ) {packets : List EncryptableAndCompressiblePacket}
    (hplain : ∀ packet ∈ packets, packet._encrypt = false) : (wire codec keys packets).2 = keys := by
  induction packets generalizing keys with
  | nil => rfl
  | cons queued more ih =>
    have hheader : (sentHeader codec keys (queued.CompressIfNeeded codec)).2 = keys := by
      rw [sentHeader, encrypt_CompressIfNeeded, hplain queued mem_cons_self,
        if_neg Bool.false_ne_true]
    rw [wire_cons, hheader]
    exact ih keys fun packet hmem => hplain packet (mem_cons_of_mem _ hmem)

theorem length_sentHeader (keys : κ) (packet : EncryptableAndCompressiblePacket) :
    (sentHeader codec keys packet).1.length = packet.pktHeader.getHeaderLength := by
  rw [← ServerPktHeader.length_header, sentHeader]
  split
  · exact codec.cipher.length_UpdateData _ _
  · rfl

variable {packet : EncryptableAndCompressiblePacket}

theorem decode_pktHeader (hsize : packet.size ≤ 2 ^ 23 - 3) :
    ServerPktHeader.decode packet.pktHeader.header =
      some ⟨packet.size + 2, packet.opcode.toNat⟩ := by
  have huint : uint32 (packet.size + 2) = packet.size + 2 := uint32_of_lt (by omega)
  unfold EncryptableAndCompressiblePacket.pktHeader
  rw [huint]
  exact ServerPktHeader.decode_header (by omega) packet.opcode.toNat_lt

section Packing

def Keyed (crypt : AuthCrypt κ) (keys : κ) : Prop :=
  crypt._initialized = true → crypt._serverEncrypt = keys

def outgoing (socket : WorldSocket κ) : List UInt8 :=
  socket.accepted ++ (socket._writeQueue.map MessageBuffer.active).flatten

@[simp] theorem outgoing_QueuePacket (socket : WorldSocket κ) (buffer : MessageBuffer) :
    outgoing (socket.QueuePacket buffer) = outgoing socket ++ buffer.active := by
  unfold outgoing WorldSocket.QueuePacket
  rw [map_append, flatten_append, append_assoc]
  simp only [map_cons, map_nil, flatten_cons, flatten_nil, append_nil]

variable {socket : WorldSocket κ} {buffer : MessageBuffer} {header contents : List UInt8}
  {keys : κ}

theorem WritePacket_spec (hfits : header.length + contents.length ≤ buffer.GetRemainingSpace) :
    ∃ after, WorldSocket.WritePacket buffer header contents = some after ∧
      after.active = buffer.active ++ (header ++ contents) := by
  obtain ⟨middle, hheader⟩ := @MessageBuffer.Write_eq_some buffer header (by omega)
  have hwritten := MessageBuffer.Write_spec hheader
  unfold WorldSocket.WritePacket
  rw [hheader]
  rcases contents with _ | ⟨byte, bytes⟩
  · refine ⟨middle, rfl, ?_⟩
    rw [hwritten.active, append_nil]
  obtain ⟨after, hcontents⟩ := @MessageBuffer.Write_eq_some middle (byte :: bytes) (by
    rw [hwritten.remaining]
    omega)
  refine ⟨after, hcontents, ?_⟩
  rw [(MessageBuffer.Write_spec hcontents).active, hwritten.active, append_assoc]

theorem EncryptHeader_spec (hkeyed : Keyed socket._authCrypt keys)
    (hencrypt : packet._encrypt = true → socket._authCrypt._initialized = true) :
    ∃ crypt, socket.EncryptHeader codec packet = some ((sentHeader codec keys packet).1, crypt) ∧
      Keyed crypt (sentHeader codec keys packet).2 ∧
      crypt._initialized = socket._authCrypt._initialized := by
  unfold WorldSocket.EncryptHeader sentHeader
  by_cases hpacket : packet._encrypt = true
  · have hinit := hencrypt hpacket
    rw [if_pos hpacket, if_pos hpacket, AuthCrypt.EncryptSend, if_pos hinit, hkeyed hinit]
    exact ⟨_, rfl, fun _ => rfl, rfl⟩
  · rw [if_neg hpacket, if_neg hpacket]
    exact ⟨_, rfl, hkeyed, rfl⟩

theorem RotateBuffer_spec (socket : WorldSocket κ) (buffer : MessageBuffer) (size : ℕ) :
    ∃ after buffer', socket.RotateBuffer buffer size = some (after, buffer') ∧
      outgoing after ++ buffer'.active = outgoing socket ++ buffer.active ∧
      (buffer'.GetRemainingSpace ≥ size ∨ buffer'._wpos = 0) ∧
      after._authCrypt = socket._authCrypt ∧ after._bufferQueue = socket._bufferQueue := by
  unfold WorldSocket.RotateBuffer
  by_cases hroom : buffer.GetRemainingSpace < size
  · obtain ⟨buffer', hresize⟩ := @MessageBuffer.Resize_eq_some MessageBuffer.moved
      socket._sendBufferSize (Nat.zero_le _)
    have hresized := MessageBuffer.Resize_spec hresize
    have hempty : buffer'.active = [] :=
      hresized.active.trans (MessageBuffer.active_eq_nil_of_wpos rfl)
    rw [if_pos hroom, hresize]
    refine ⟨_, buffer', rfl, ?_, .inr (hresized.wpos.trans rfl), rfl, rfl⟩
    rw [outgoing_QueuePacket, hempty, append_nil]
  · rw [if_neg hroom]
    exact ⟨socket, buffer, rfl, rfl, .inl (Nat.le_of_not_lt hroom), rfl, rfl⟩

structure Packed (before after : WorldSocket κ) (buffer buffer' : MessageBuffer) (keys : κ)
    (packets : List EncryptableAndCompressiblePacket) : Prop where
  outgoing : outgoing after ++ buffer'.active =
    outgoing before ++ buffer.active ++ (wire codec keys packets).1
  keyed : Keyed after._authCrypt (wire codec keys packets).2
  initialized : after._authCrypt._initialized = before._authCrypt._initialized
  bufferQueue : after._bufferQueue = before._bufferQueue

theorem PackPacket_spec {queued : EncryptableAndCompressiblePacket}
    (hkeyed : Keyed socket._authCrypt keys)
    (hencrypt : queued._encrypt = true → socket._authCrypt._initialized = true) :
    ∃ after buffer', socket.PackPacket codec buffer queued = some (after, buffer') ∧
      Packed codec socket after buffer buffer' keys [queued] := by
  let packet := queued.CompressIfNeeded codec
  obtain ⟨crypt, hheader, hkeyed', hinit⟩ := EncryptHeader_spec codec hkeyed
    (fun hpacket => hencrypt ((encrypt_CompressIfNeeded codec queued).symm.trans hpacket))
  have hwire : (wire codec keys [queued]).1 = (sentHeader codec keys packet).1 ++ packet.contents :=
    append_nil _
  have hlen : (sentHeader codec keys packet).1.length + packet.contents.length =
      packet.size + packet.pktHeader.getHeaderLength := by
    rw [length_sentHeader, Nat.add_comm, EncryptableAndCompressiblePacket.size]
  obtain ⟨rotated, buffer', hrotate, houtgoing, hroom, hcrypt, hqueue⟩ :=
    RotateBuffer_spec { socket with _authCrypt := crypt } buffer
      (packet.size + packet.pktHeader.getHeaderLength)
  unfold WorldSocket.PackPacket
  dsimp only
  rw [hheader]
  dsimp only
  rw [hrotate]
  dsimp only
  by_cases hspace : buffer'.GetRemainingSpace ≥ packet.size + packet.pktHeader.getHeaderLength
  · obtain ⟨after, hwrite, hactive⟩ := WritePacket_spec (Nat.le_trans (Nat.le_of_eq hlen) hspace)
    rw [if_pos hspace, hwrite]
    refine ⟨rotated, after, rfl, ?_, ?_, ?_, hqueue⟩
    · rw [hactive, hwire, ← append_assoc, houtgoing]
      rfl
    · rw [hcrypt]
      exact hkeyed'
    · rw [hcrypt]
      exact hinit
  · have hwpos : buffer'._wpos = 0 := hroom.resolve_left hspace
    obtain ⟨grown, hresize⟩ := @MessageBuffer.Resize_eq_some buffer'
      (packet.size + packet.pktHeader.getHeaderLength)
      (Nat.le_trans (Nat.le_of_eq hwpos) (Nat.zero_le _))
    have hresized := MessageBuffer.Resize_spec hresize
    have hleft : grown.GetRemainingSpace
        = packet.size + packet.pktHeader.getHeaderLength := by
      rw [MessageBuffer.GetRemainingSpace, hresized.length, hresized.wpos, hwpos, Nat.sub_zero]
    obtain ⟨after, hwrite, hactive⟩ := WritePacket_spec
      (Nat.le_of_eq (hlen.trans hleft.symm))
    rw [if_neg hspace, hresize]
    dsimp only
    rw [hwrite]
    refine ⟨_, after, rfl, ?_, ?_, ?_, ?_⟩
    · rw [hactive, hresized.active, hwire, ← append_assoc]
      split
      · exact congrArg (· ++ _) houtgoing
      · exact congrArg (· ++ _) houtgoing
    · split
      · exact hcrypt ▸ hkeyed'
      · exact hcrypt ▸ hkeyed'
    · split
      · exact hcrypt ▸ hinit
      · exact hcrypt ▸ hinit
    · split
      · exact hqueue
      · exact hqueue

theorem PackPackets_spec {packets : List EncryptableAndCompressiblePacket}
    (hkeyed : Keyed socket._authCrypt keys)
    (hencrypt : ∀ packet ∈ packets,
      packet._encrypt = true → socket._authCrypt._initialized = true) :
    ∃ after buffer', socket.PackPackets codec buffer packets = some (after, buffer') ∧
      Packed codec socket after buffer buffer' keys packets := by
  induction packets generalizing socket buffer keys with
  | nil => exact ⟨socket, buffer, rfl, (append_nil _).symm, hkeyed, rfl, rfl⟩
  | cons queued more ih =>
    obtain ⟨middle, buffer', hpack, hpacked⟩ := @PackPacket_spec _ codec _ buffer _ queued hkeyed
      (hencrypt queued mem_cons_self)
    obtain ⟨after, buffer'', hmore, hpacked'⟩ := @ih middle buffer' _ hpacked.keyed
      (fun packet hmem hpacket => hpacked.initialized.trans
        (hencrypt packet (mem_cons_of_mem _ hmem) hpacket))
    have hwire := wire_append codec keys [queued] more
    rw [singleton_append] at hwire
    rw [WorldSocket.PackPackets, hpack]
    refine ⟨after, buffer'', hmore, ?_, ?_, hpacked'.initialized.trans hpacked.initialized,
      hpacked'.bufferQueue.trans hpacked.bufferQueue⟩
    · rw [hpacked'.outgoing, hpacked.outgoing, hwire, append_assoc]
    · exact hpacked'.keyed

/-- The first part of `Update` moves the wire form of the packets it dequeues to
the write queue. -/
theorem PackQueue_spec (count : ℕ) (hkeyed : Keyed socket._authCrypt keys)
    (hencrypt : ∀ packet ∈ socket._bufferQueue,
      packet._encrypt = true → socket._authCrypt._initialized = true) :
    ∃ after, socket.PackQueue codec count = some after ∧ outgoing after = outgoing socket ++
        (wire codec keys (socket._bufferQueue.take count)).1 ∧
      Keyed after._authCrypt (wire codec keys (socket._bufferQueue.take count)).2 ∧
      after._authCrypt._initialized = socket._authCrypt._initialized ∧
      after._bufferQueue = socket._bufferQueue.drop count := by
  unfold WorldSocket.PackQueue
  by_cases hnone : (socket._bufferQueue.take count).isEmpty = true
  · have hnil : socket._bufferQueue.take count = [] := List.isEmpty_iff.mp hnone
    rw [if_pos hnone, hnil]
    exact ⟨_, rfl, (append_nil _).symm, hkeyed, rfl, rfl⟩
  let dequeued : WorldSocket κ := { socket with _bufferQueue := socket._bufferQueue.drop count }
  obtain ⟨after, buffer, hpack, hpacked⟩ := @PackPackets_spec _ codec dequeued
    (.ofSize socket._sendBufferSize) keys (socket._bufferQueue.take count) hkeyed
    (fun packet hmem => hencrypt packet (mem_of_mem_take hmem))
  have houtgoing := hpacked.outgoing
  rw [MessageBuffer.active_ofSize, append_nil] at houtgoing
  rw [if_neg hnone, hpack]
  dsimp only
  by_cases hactive : buffer.GetActiveSize > 0
  · rw [if_pos hactive]
    refine ⟨_, rfl, ?_, hpacked.keyed, hpacked.initialized, hpacked.bufferQueue⟩
    rw [outgoing_QueuePacket, houtgoing]
    rfl
  · have hempty : buffer.active = [] := by
      rw [MessageBuffer.active_eq_nil_iff]
      omega
    rw [hempty, append_nil] at houtgoing
    rw [if_neg hactive]
    exact ⟨_, rfl, houtgoing, hpacked.keyed, hpacked.initialized, hpacked.bufferQueue⟩

end Packing

section Flushing

variable {socket : WorldSocket κ} {result : WriteResult}

/-- Flushing moves bytes from the write queue to the system and loses none. -/
structure Flushed (before after : WorldSocket κ) : Prop where
  outgoing : outgoing after = outgoing before
  authCrypt : after._authCrypt = before._authCrypt
  bufferQueue : after._bufferQueue = before._bufferQueue

theorem Flushed.trans {first second third : WorldSocket κ} (hfirst : Flushed first second)
    (hsecond : Flushed second third) : Flushed first third where
  outgoing := hsecond.outgoing.trans hfirst.outgoing
  authCrypt := hsecond.authCrypt.trans hfirst.authCrypt
  bufferQueue := hsecond.bufferQueue.trans hfirst.bufferQueue

theorem AsyncProcessQueue_spec (socket : WorldSocket κ) :
    ∃ after, socket.AsyncProcessQueue = (false, after) ∧ Flushed socket after := by
  unfold WorldSocket.AsyncProcessQueue
  split
  · exact ⟨socket, rfl, rfl, rfl, rfl⟩
  · exact ⟨_, rfl, rfl, rfl, rfl⟩

theorem PopFront_spec : socket.PopFront._writeQueue = socket._writeQueue.tail ∧
    socket.PopFront.accepted = socket.accepted ∧
    socket.PopFront._authCrypt = socket._authCrypt ∧
    socket.PopFront._bufferQueue = socket._bufferQueue := by
  unfold WorldSocket.PopFront
  dsimp only
  split
  · exact ⟨rfl, rfl, rfl, rfl⟩
  · exact ⟨rfl, rfl, rfl, rfl⟩

theorem flushed_PopFront {buffer : MessageBuffer} {rest : List MessageBuffer}
    (hqueue : socket._writeQueue = buffer :: rest) :
    Flushed socket
      (WorldSocket.PopFront { socket with accepted := socket.accepted ++ buffer.active }) := by
  obtain ⟨hwrite, hacc, hcrypt, hbuffer⟩ :=
    @PopFront_spec _ { socket with accepted := socket.accepted ++ buffer.active }
  refine ⟨?_, hcrypt, hbuffer⟩
  rw [outgoing, outgoing, hwrite, hacc, hqueue, tail_cons, map_cons, flatten_cons, append_assoc]

/-- One write: without a hard error the bytes are accepted, or stay queued in
their order. The loop goes on with a shorter queue. -/
theorem HandleQueue_spec (hresult : result ≠ .error) :
    ∃ more after, socket.HandleQueue result = some (more, after) ∧ Flushed socket after ∧
      (more = true → after._writeQueue.length < socket._writeQueue.length) := by
  unfold WorldSocket.HandleQueue
  split
  case h_1 hqueue => exact ⟨false, socket, rfl, ⟨rfl, rfl, rfl⟩, nofun⟩
  rename_i buffer rest hqueue
  dsimp only
  split
  · obtain ⟨after, hasync, hflushed⟩ := AsyncProcessQueue_spec socket
    exact ⟨false, after, congrArg some hasync, hflushed, nofun⟩
  case h_2 herror =>
    split at herror
    · cases herror
    · exact absurd herror hresult
  rename_i count hcount
  have hsize := MessageBuffer.length_active buffer
  by_cases hnone : WorldSocket.bytesSent buffer.GetActiveSize count = 0
  · have hempty : buffer.active = [] := by
      rw [MessageBuffer.active_eq_nil_iff]
      unfold WorldSocket.bytesSent at hnone
      split at hnone
      case isTrue hzero => exact hzero
      case isFalse => omega
    have hflushed := flushed_PopFront hqueue
    rw [if_pos hnone, hempty, take_nil]
    rw [hempty] at hflushed
    exact ⟨_, _, rfl, hflushed, nofun⟩
  · rw [if_neg hnone]
    by_cases hpart : WorldSocket.bytesSent buffer.GetActiveSize count < buffer.GetActiveSize
    · obtain ⟨buffer', hread⟩ := MessageBuffer.ReadCompleted_eq_some (Nat.le_of_lt hpart)
      have hconsumed := MessageBuffer.ReadCompleted_spec hread
      rw [if_pos hpart, hread]
      let sent : WorldSocket κ := { socket with
        accepted := socket.accepted ++
          buffer.active.take (WorldSocket.bytesSent buffer.GetActiveSize count)
        _writeQueue := buffer' :: rest }
      have hsent : Flushed socket sent := by
        refine ⟨?_, rfl, rfl⟩
        change (socket.accepted ++ _) ++ (buffer'.active ++ _) = outgoing socket
        rw [outgoing, hqueue, map_cons, flatten_cons, hconsumed.active,
          append_assoc, ← append_assoc (buffer.active.take _),
          take_append_drop]
      obtain ⟨after, hasync, hflushed⟩ := AsyncProcessQueue_spec sent
      exact ⟨false, after, congrArg some hasync, hsent.trans hflushed, nofun⟩
    · have hall : WorldSocket.bytesSent buffer.GetActiveSize count = buffer.active.length := by
        unfold WorldSocket.bytesSent at hpart hnone ⊢
        split at hpart
        case isTrue hzero =>
          rw [if_pos hzero, hsize, hzero]
        rename_i hzero
        rw [if_neg hzero, hsize]
        omega
      have hflushed := flushed_PopFront hqueue
      rw [if_neg hpart, hall, take_length]
      refine ⟨_, _, rfl, hflushed, fun _ => ?_⟩
      obtain ⟨hwrite, -⟩ :=
        @PopFront_spec _ { socket with accepted := socket.accepted ++ buffer.active }
      rw [hwrite, hqueue, tail_cons, length_cons]
      exact lt_succ_self _

section

variable {results : ℕ → WriteResult} (hresults : ∀ turn, results turn ≠ .error)
include hresults

theorem HandleQueueLoop_spec (turns : ℕ) (hturns : socket._writeQueue.length < turns) :
    ∃ after, socket.HandleQueueLoop results turns = some after ∧ Flushed socket after := by
  induction turns generalizing socket with
  | zero => exact absurd hturns (Nat.not_lt_zero _)
  | succ turns ih =>
    obtain ⟨more, middle, hqueue, hflushed, hshorter⟩ :=
      @HandleQueue_spec _ socket _ (hresults turns)
    rw [WorldSocket.HandleQueueLoop, hqueue]
    rcases more with _ | _
    · exact ⟨middle, rfl, hflushed⟩
    have hless := hshorter rfl
    obtain ⟨after, hloop, hflushed'⟩ := @ih middle (by omega)
    exact ⟨after, hloop, hflushed.trans hflushed'⟩

theorem BaseUpdate_spec :
    ∃ after, socket.BaseUpdate results = some after ∧ Flushed socket after := by
  unfold WorldSocket.BaseUpdate
  split
  · exact ⟨socket, rfl, rfl, rfl, rfl⟩
  split
  · exact ⟨socket, rfl, rfl, rfl, rfl⟩
  · exact HandleQueueLoop_spec hresults _ (lt_succ_self _)

end

theorem WriteHandlerWrapper_spec (hresult : result ≠ .error) :
    ∃ after, socket.WriteHandlerWrapper result = some after ∧ Flushed socket after := by
  obtain ⟨more, after, hqueue, hflushed, -⟩ :=
    @HandleQueue_spec _ { socket with _isWritingAsync := false } _ hresult
  unfold WorldSocket.WriteHandlerWrapper
  rw [hqueue]
  exact ⟨after, rfl, hflushed.outgoing, hflushed.authCrypt, hflushed.bufferQueue⟩

end Flushing

section Runs

variable (serverKeys : κ)

structure Wired (sender : Sender κ) (sent : List EncryptableAndCompressiblePacket) : Prop where
  enqueued : sender.enqueued = sent ++ sender.socket._bufferQueue
  outgoing : outgoing sender.socket = (wire codec serverKeys sent).1
  keyed : Keyed sender.socket._authCrypt (wire codec serverKeys sent).2
  plain : ∀ packet ∈ sender.enqueued, packet._encrypt = true →
    sender.socket._authCrypt._initialized = true

variable {codec serverKeys} {sender : Sender κ} {sent : List EncryptableAndCompressiblePacket}

theorem Wired.flush {after : WorldSocket κ} (hwired : Wired codec serverKeys sender sent)
    (hflushed : Flushed sender.socket after) :
    Wired codec serverKeys { sender with socket := after } sent where
  enqueued := hwired.enqueued.trans (congrArg (sent ++ ·) hflushed.bufferQueue.symm)
  outgoing := hflushed.outgoing.trans hwired.outgoing
  keyed := hflushed.authCrypt ▸ hwired.keyed
  plain := fun packet hmem hpacket =>
    (congrArg AuthCrypt._initialized hflushed.authCrypt).trans (hwired.plain packet hmem hpacket)

section

variable (hwired : Wired codec serverKeys sender sent)
include hwired

theorem Wired.sendPacket (opcode : UInt16)
    (contents : List UInt8) :
    ∃ after, sender.handle codec serverKeys (.sendPacket opcode contents) = some after ∧
      Wired codec serverKeys after sent := by
  refine ⟨_, rfl, ?_⟩
  unfold WorldSocket.SendPacket
  by_cases hopen : sender.socket.IsOpen = true
  · rw [if_pos hopen, if_pos hopen]
    refine ⟨?_, hwired.outgoing, hwired.keyed, ?_⟩
    · rw [hwired.enqueued, append_assoc]
    · intro packet hmem hpacket
      obtain hmem | hmem := mem_append.mp hmem
      · exact hwired.plain packet hmem hpacket
      · obtain rfl := mem_singleton.mp hmem
        exact hpacket
  · rw [if_neg hopen, if_neg hopen, append_nil]
    exact hwired

theorem Wired.update (count : ℕ)
    {results : ℕ → WriteResult} (hresults : ∀ turn, results turn ≠ .error) :
    ∃ after, sender.handle codec serverKeys (.update count results) = some after ∧
      ∃ sent, Wired codec serverKeys after sent := by
  have hencrypt : ∀ packet ∈ sender.socket._bufferQueue, packet._encrypt = true →
      sender.socket._authCrypt._initialized = true := by
    intro packet hmem
    apply hwired.plain packet
    rw [hwired.enqueued]
    exact mem_append_right _ hmem
  obtain ⟨packed, hpack, houtgoing, hkeyed, hinit, hqueue⟩ :=
    PackQueue_spec codec count hwired.keyed hencrypt
  have hpacked : Wired codec serverKeys { sender with socket := packed }
      (sent ++ sender.socket._bufferQueue.take count) := by
    refine ⟨?_, ?_, ?_, fun packet hmem hpacket => hinit.trans (hwired.plain packet hmem hpacket)⟩
    · rw [hqueue, append_assoc, take_append_drop, hwired.enqueued]
    · rw [wire_append, houtgoing, hwired.outgoing]
    · rw [wire_append]
      exact hkeyed
  obtain ⟨after, hupdate, hflushed⟩ := @BaseUpdate_spec _ packed _ hresults
  refine ⟨{ sender with socket := after }, ?_, _, hpacked.flush hflushed⟩
  unfold Sender.handle WorldSocket.Update
  dsimp only
  rw [hpack]
  dsimp only
  rw [hupdate]
  rfl

theorem Wired.init (huninit : sender.socket._authCrypt._initialized = false) (clientKeys : κ) :
    Wired codec serverKeys { sender with
      socket := { sender.socket with _authCrypt := ⟨clientKeys, serverKeys, true⟩ } } sent where
  enqueued := hwired.enqueued
  outgoing := hwired.outgoing
  keyed := fun _ => by
    refine (wire_keys_of_plain codec serverKeys fun packet hmem => ?_).symm
    by_contra hencrypt
    have hinit := hwired.plain packet
      (hwired.enqueued ▸ mem_append_left _ hmem) (Bool.eq_true_of_not_eq_false hencrypt)
    rw [huninit] at hinit
    cases hinit
  plain := fun _ _ _ => rfl

theorem Wired.step {input : Input κ}
    (hacc : sender.Accepts input) (herror : input.NoError) :
    ∃ after, sender.handle codec serverKeys input = some after ∧
      ∃ sent, Wired codec serverKeys after sent := by
  cases input with
  | sendPacket opcode contents =>
    obtain ⟨after, hhandle, hafter⟩ := hwired.sendPacket opcode contents
    exact ⟨after, hhandle, sent, hafter⟩
  | update count results => exact hwired.update count herror
  | writable result =>
    obtain ⟨after, hwrapper, hflushed⟩ := @WriteHandlerWrapper_spec _ sender.socket _ herror
    refine ⟨{ sender with socket := after }, ?_, sent, hwired.flush hflushed⟩
    unfold Sender.handle
    dsimp only
    rw [hwrapper]
    rfl
  | init clientKeys => exact ⟨_, rfl, sent, hwired.init hacc clientKeys⟩
  | setSendBufferSize | delayedClose | close => exact ⟨_, rfl, sent, hwired.flush ⟨rfl, rfl, rfl⟩⟩

end

def Reached (codec : Codec κ) (serverKeys : κ) (crypt₀ : κ × κ) : Sender κ → Prop :=
  Reachable (fun sender => sender = ⟨.started crypt₀.1 crypt₀.2, []⟩)
    (guarded (fun _ input => input.NoError) (computed (Sender.run codec serverKeys)))

theorem wired_of_reached {crypt₀ : κ × κ} (hreach : Reached codec serverKeys crypt₀ sender) :
    ∃ sent, Wired codec serverKeys sender sent := by
  apply Reachable.invariant hreach fun sender => ∃ sent, Wired codec serverKeys sender sent
  · rintro _ rfl
    refine ⟨[], rfl, rfl, ?_, ?_⟩
    · exact nofun
    · exact nofun
  · rintro before input after ⟨sent, hwired⟩ ⟨herror, hrun⟩
    unfold computed Sender.run at hrun
    by_cases hacc : before.Accepts input
    · obtain ⟨after', hhandle, hafter⟩ := hwired.step hacc herror
      rw [if_pos hacc, hhandle] at hrun
      cases hrun
      exact hafter
    · rw [if_neg hacc] at hrun
      cases hrun

end Runs

/-- In every run without a hard error of the system, the accepted bytes are a
prefix of the headers and payloads of the enqueued packets in their order, every
input is handled inside the buffers, and a header of either form is decoded to
the length and the opcode of its packet. -/
theorem accepted_prefix (serverKeys : κ) (crypt₀ : κ × κ) (sender : Sender κ)
    (hreach : Reached codec serverKeys crypt₀ sender) :
    sender.socket.accepted <+: (wire codec serverKeys sender.enqueued).1 ∧
      (∀ input, sender.Accepts input → input.NoError →
        ∃ after, sender.handle codec serverKeys input = some after) ∧
      ∀ packet ∈ sender.enqueued, (packet.CompressIfNeeded codec).size ≤ 2 ^ 23 - 3 →
        ServerPktHeader.decode (packet.CompressIfNeeded codec).pktHeader.header =
          some ⟨(packet.CompressIfNeeded codec).size + 2,
            (packet.CompressIfNeeded codec).opcode.toNat⟩ := by
  obtain ⟨sent, hwired⟩ := wired_of_reached hreach
  refine ⟨?_, ?_, ?_⟩
  · have haccepted : sender.socket.accepted <+: outgoing sender.socket := prefix_append _ _
    rw [hwired.outgoing] at haccepted
    rw [hwired.enqueued]
    exact haccepted.trans ( wire_prefix codec serverKeys _ _)
  · intro input haccepts herror
    obtain ⟨after, hhandle, -⟩ := hwired.step haccepts herror
    exact ⟨after, hhandle⟩
  · intro packet _ hsize
    exact decode_pktHeader hsize

/-- A packet that does not fit a buffer of six bytes leaves an empty buffer before
its own, and is sent in two parts. -/
theorem accepted_prefix_partial : ∃ (codec : Codec Unit) (sender : Sender Unit),
      sender.socket.accepted = [0, 5, 0xDD, 1, 7, 8, 9] ∧
      sender.socket.accepted <+: (wire codec () sender.enqueued).1 := by
  let codec : Codec Unit := ⟨⟨fun state data => (data, state), fun _ _ => rfl⟩, id⟩
  let ops : List (Input Unit) := [.setSendBufferSize 6, .sendPacket 0x1DD [7, 8, 9], .init (),
    .sendPacket 0x1EC [1], .update 2 fun _ => .accepts 4,
    .update 0 fun _ => .accepts 4, .writable (.accepts 9)]
  have hrun : (ops.foldlM (Sender.run codec ()) ⟨.started () (), []⟩).map
      (fun sender => sender.socket.accepted) = some [0, 5, 0xDD, 1, 7, 8, 9] := by
    decide +kernel
  have hguard : ∀ op ∈ ops, ∀ _ : Sender Unit, op.NoError := by
    intro op hmem _
    simp only [ops, mem_cons, not_mem_nil, or_false] at hmem
    obtain rfl | rfl | rfl | rfl | rfl | rfl | rfl := hmem
    all_goals simp [Input.NoError]
  obtain ⟨sender, hrun, haccepted⟩ := Option.map_eq_some_iff.mp hrun
  have hreach : Reached codec () ((), ()) sender :=
    Reachable.guarded_foldlM (.start rfl) hguard hrun
  exact ⟨codec, sender, haccepted, ( accepted_prefix codec () ((), ()) sender hreach).1⟩

end AzerothCore.Network.Sending
