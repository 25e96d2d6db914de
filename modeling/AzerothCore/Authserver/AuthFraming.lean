import AzerothCore.Authserver.AuthPackets

/-!
# Commands and the reads that bring them

What a session does with the bytes it receives does not depend on how reads
split them, and a handler uses a byte that has not been received only where it
reads the length of a name or a token.
-/

namespace AzerothCore.Authserver

open List Bool Nat
open Network (MessageBuffer)
open Draining
open Folding
open Reachability

variable {env : Environment} {packet more : List UInt8} {session : AuthSession}

/-- The reads that can go past the bytes that have been received: that of the
name's length in a challenge whose declared size does not reach it, and that of
a token. -/
def UnguardedRead (fault : Fault) : Prop :=
  fault = .token ∨ ∃ declared, fault = .nameLength declared ∧ (declared < 30 ∨ 65532 ≤ declared)

def Environment.plain : Environment where
  remoteAddress := text "127.0.0.1"
  builds := []
  realms := []
  StrictVersionCheck := false
  AllowLoggingIPAddressesInDatabase := true
  WrongPassMaxCount := 0
  WrongPassLogging := false
  WrongPassBanTime := 600
  WrongPassBanType := false
  totpMasterKey := none
  GetLocationRecord _ := none
  Utf8ToUpperOnlyLatin name := name
  SHA1 _ := List.replicate 20 0
  AEDecrypt _ _ := none
  B _ := List.replicate 32 0
  g := [7]
  N := List.replicate 32 0
  VerifyChallengeResponse _ _ _ := none
  ValidateToken _ _ := false
  indeterminate _ := 0

namespace AuthSession

theorem ReadTurn_cases {outcome : Turn AuthSession}
    (hturn : session.ReadTurn env packet = .ok outcome) :
    outcome = .drop (session.record (.ignored packet)) ∨
    outcome = .leave session.CloseSocket ∨
    outcome = .await ∨
    ∃ entry size handled, Handlers env (packet.headD 0) = some entry ∧
      session._status = entry.status ∧ entry.packetSize ≤ packet.length ∧
      commandSize (packet.headD 0) entry.packetSize packet = .ok size ∧
      size ≤ packet.length ∧ entry.handler packet session = .ok handled ∧
      outcome = finishTurn (packet.headD 0) size handled := by
  unfold ReadTurn at hturn
  dsimp only at hturn
  split at hturn
  · exact .inl (Except.ok.inj hturn).symm
  rename_i entry hentry
  split at hturn
  · exact .inr (.inl (Except.ok.inj hturn).symm)
  rename_i hstatus
  split at hturn
  · exact .inr (.inr (.inl (Except.ok.inj hturn).symm))
  rename_i hlen
  obtain ⟨size, hsize, hturn⟩ := exists_of_bind_ok hturn
  split at hturn
  · exact .inr (.inl (Except.ok.inj hturn).symm)
  split at hturn
  · exact .inr (.inr (.inl (Except.ok.inj hturn).symm))
  rename_i hfits
  obtain ⟨handled, hhandled, hturn⟩ := exists_of_bind_ok hturn
  exact .inr (.inr (.inr ⟨entry, size, handled, hentry, not_not.mp hstatus,
    Nat.le_of_not_lt hlen, hsize, Nat.le_of_not_lt hfits, hhandled,
    (Except.ok.inj hturn).symm⟩))

variable {cmd : UInt8}

theorem commandSize_of_le {packetSize : ℕ} (hlen : 4 ≤ packet.length) :
    commandSize cmd packetSize packet = .ok
      (if cmd = AUTH_LOGON_CHALLENGE ∨ cmd = AUTH_RECONNECT_CHALLENGE then
        (packetSize + number packet 2 2) % 2 ^ 16
      else packetSize) := by
  unfold commandSize
  split
  case isFalse => rfl
  rw [numberAt_of_le hlen]
  rfl

variable {entry : AuthHandler}

theorem packetSize_le (hentry : Handlers env cmd = some entry) : 4 ≤ entry.packetSize := by
  rcases Handlers_cases hentry with ⟨_, rfl⟩ | ⟨_, rfl⟩ | ⟨_, rfl⟩ | ⟨_, rfl⟩ | ⟨_, rfl⟩
  · exact Nat.le_refl 4
  · exact le_of_ble_eq_true rfl
  · exact Nat.le_refl 4
  · exact le_of_ble_eq_true rfl
  · exact le_of_ble_eq_true rfl

variable {size : ℕ}

theorem handler_error {fault : Fault} (hentry : Handlers env (packet.headD 0) = some entry)
    (hlen : entry.packetSize ≤ packet.length)
    (hsize : commandSize (packet.headD 0) entry.packetSize packet = .ok size)
    (hfits : size ≤ packet.length)
    (hready : entry.status = .STATUS_LOGON_PROOF → session.ProofReady)
    (hhandle : entry.handler packet session = .error fault) : UnguardedRead fault := by
  have hfour := packetSize_le hentry
  rw [commandSize_of_le (hfour.trans hlen)] at hsize
  cases hsize
  rcases Handlers_cases hentry with ⟨hcmd, rfl⟩ | ⟨hcmd, rfl⟩ | ⟨hcmd, rfl⟩ | ⟨hcmd, rfl⟩ |
    ⟨hcmd, rfl⟩
  · rw [if_pos (.inl hcmd)] at hfits
    exact .inr (HandleChallenge_error hlen hfits hhandle)
  · exact .inl (HandleLogonProof_error hlen (hready rfl) hhandle)
  · rw [if_pos (.inr hcmd)] at hfits
    exact .inr (HandleChallenge_error hlen hfits hhandle)
  · exact absurd hhandle (HandleReconnectProof_error hlen)
  · cases hhandle

theorem ReadTurn_error {fault : Fault}
    (hready : session._status = .STATUS_LOGON_PROOF → session.ProofReady)
    (hturn : session.ReadTurn env packet = .error fault) : UnguardedRead fault := by
  unfold ReadTurn at hturn
  dsimp only at hturn
  split at hturn
  · cases hturn
  rename_i entry hentry
  split at hturn
  · cases hturn
  rename_i hstatus
  split at hturn
  · cases hturn
  rename_i hlen
  have hlen := Nat.le_of_not_lt hlen
  rcases of_bind_error hturn with hsize | ⟨size, hsize, hturn⟩
  · rw [commandSize_of_le ((packetSize_le hentry).trans hlen)] at hsize
    cases hsize
  split at hturn
  · cases hturn
  split at hturn
  · cases hturn
  rename_i hfits
  rcases of_bind_error hturn with hhandle | ⟨handled, _, hturn⟩
  · refine handler_error hentry hlen hsize (Nat.le_of_not_lt hfits) ?_ hhandle
    intro hproof
    exact hready ((not_not.mp hstatus).trans hproof)
  · cases hturn

variable {handled : Handled} {query : List UInt8 → Query}

theorem HandleChallenge_taken (hsize : size = (4 + number packet 2 2) % 2 ^ 16)
    (hhandle : session.HandleChallenge env query packet = .ok handled)
    (hresult : handled.result = true) : handled.taken = 0 ∧ 0 < size := by
  rcases HandleChallenge_cases hhandle with rfl | ⟨I_len, hdeclared, hname, _, rfl⟩
  · cases hresult
  · exact ⟨rfl, by omega⟩

theorem handler_taken (hentry : Handlers env (packet.headD 0) = some entry)
    (hlen : entry.packetSize ≤ packet.length)
    (hsize : commandSize (packet.headD 0) entry.packetSize packet = .ok size)
    (hfits : size ≤ packet.length) (hhandle : entry.handler packet session = .ok handled)
    (hresult : handled.result = true) :
    0 < handled.taken + size ∧ handled.taken + size ≤ packet.length := by
  have hfour := packetSize_le hentry
  rw [commandSize_of_le (hfour.trans hlen)] at hsize
  cases hsize
  rcases Handlers_cases hentry with ⟨hcmd, rfl⟩ | ⟨hcmd, rfl⟩ | ⟨hcmd, rfl⟩ | ⟨hcmd, rfl⟩ |
    ⟨hcmd, rfl⟩
  · rw [if_pos (.inl hcmd)] at hfits ⊢
    obtain ⟨htaken, hpos⟩ := HandleChallenge_taken rfl hhandle hresult
    rw [htaken, Nat.zero_add]
    exact ⟨hpos, hfits⟩
  · rw [hcmd, if_neg (by decide), Nat.add_comm]
    refine ⟨Nat.add_pos_left (Nat.lt_of_lt_of_le (succ_pos 3) hfour) _, ?_⟩
    exact HandleLogonProof_taken hhandle
  · rw [if_pos (.inr hcmd)] at hfits ⊢
    obtain ⟨htaken, hpos⟩ := HandleChallenge_taken rfl hhandle hresult
    rw [htaken, Nat.zero_add]
    exact ⟨hpos, hfits⟩
  · rw [hcmd, if_neg (by decide), (HandleReconnectProof_cases hhandle).1, Nat.zero_add]
    exact ⟨Nat.lt_of_lt_of_le (succ_pos 3) hfour, hlen⟩
  · cases hhandle
    rw [hcmd, if_neg (by decide), Nat.zero_add]
    exact ⟨Nat.lt_of_lt_of_le (succ_pos 3) hfour, hlen⟩

theorem ReadTurn_proceed {taken : ℕ} {after : AuthSession}
    (hturn : session.ReadTurn env packet = .ok (.proceed taken after)) :
    0 < taken ∧ taken ≤ packet.length := by
  rcases ReadTurn_cases hturn with h | h | h | ⟨entry, size, handled, hentry, _, hlen, hsize,
    hfits, hhandle, houtcome⟩
  · cases h
  · cases h
  · cases h
  unfold finishTurn at houtcome
  split at houtcome
  case isFalse => cases houtcome
  rename_i hresult
  cases houtcome
  exact handler_taken hentry hlen hsize hfits hhandle hresult

/-! ## What a turn keeps -/

/-- A handler neither closes the session nor records anything, and it does not
end where a challenge or a logon proof is waited for. -/
structure Handles (before after : AuthSession) : Prop where
  closed : after._closed = before._closed
  trace : after.trace = before.trace
  status : after._status ≠ .STATUS_LOGON_PROOF
  challenged : after._status ≠ .STATUS_CHALLENGE

theorem Handles.of_proof {before after : AuthSession} (hquiet : Quiet before after)
    (hstatus : after._status = .STATUS_CLOSED ∨ after._status = .STATUS_AUTHED) :
    Handles before after where
  closed := hquiet.closed
  trace := hquiet.trace
  status := by
    rcases hstatus with hstatus | hstatus
    · rw [hstatus]
      exact nofun
    · rw [hstatus]
      exact nofun
  challenged := by
    rcases hstatus with hstatus | hstatus
    · rw [hstatus]
      exact nofun
    · rw [hstatus]
      exact nofun

theorem HandleChallenge_handles (hhandle : session.HandleChallenge env query packet = .ok handled) :
    Handles session handled.session := by
  rcases HandleChallenge_cases hhandle with rfl | ⟨I_len, _, _, _, rfl⟩
  · exact ⟨rfl, rfl, nofun, nofun⟩
  · exact ⟨rfl, rfl, nofun, nofun⟩

theorem handler_handles (hentry : Handlers env cmd = some entry)
    (hhandle : entry.handler packet session = .ok handled) : Handles session handled.session := by
  rcases Handlers_cases hentry with ⟨_, rfl⟩ | ⟨_, rfl⟩ | ⟨_, rfl⟩ | ⟨_, rfl⟩ | ⟨_, rfl⟩
  · exact HandleChallenge_handles hhandle
  · obtain ⟨hquiet, hstatus⟩ := HandleLogonProof_status hhandle
    exact .of_proof hquiet hstatus
  · exact HandleChallenge_handles hhandle
  · obtain ⟨hquiet, hstatus⟩ := HandleReconnectProof_status hhandle
    exact .of_proof hquiet hstatus
  · cases hhandle
    exact ⟨rfl, rfl, nofun, nofun⟩

def Ready (session : AuthSession) : Prop :=
  session._status = .STATUS_LOGON_PROOF → session.ProofReady

structure Continues (before after : AuthSession) : Prop where
  closed : after._closed = before._closed
  ready : before.Ready → after.Ready
  trace : before.trace ⊆ after.trace

theorem ReadTurn_continues {taken : ℕ} {after : AuthSession}
    (hturn : session.ReadTurn env packet = .ok (.proceed taken after)) :
    Continues session after := by
  rcases ReadTurn_cases hturn with h | h | h | ⟨entry, size, handled, hentry, _, _, _, _,
    hhandle, houtcome⟩
  · cases h
  · cases h
  · cases h
  have hkept := handler_handles hentry hhandle
  unfold finishTurn at houtcome
  split at houtcome
  case isFalse => cases houtcome
  cases houtcome
  refine ⟨hkept.closed, fun _ hproof => absurd hproof hkept.status, ?_⟩
  exact hkept.trace ▸ subset_append_left _ _

theorem ReadTurn_leave {after : AuthSession}
    (hturn : session.ReadTurn env packet = .ok (.leave after)) :
    after._closed = true ∧ session.trace ⊆ after.trace ∧ (session.Ready → after.Ready) := by
  rcases ReadTurn_cases hturn with h | h | h | ⟨_, size, handled, hentry, _, _, _, _, hhandle,
    houtcome⟩
  · cases h
  · cases h
    exact ⟨rfl, fun _ hevent => hevent, id⟩
  · cases h
  have hkept := handler_handles hentry hhandle
  unfold finishTurn at houtcome
  split at houtcome
  · cases houtcome
  cases houtcome
  refine ⟨rfl, ?_, fun _ hproof => absurd hproof hkept.status⟩
  exact hkept.trace ▸ subset_append_left _ _

theorem ReadTurn_drop {after : AuthSession}
    (hturn : session.ReadTurn env packet = .ok (.drop after)) :
    after = session.record (.ignored packet) := by
  rcases ReadTurn_cases hturn with h | h | h | ⟨_, size, handled, _, _, _, _, _, _, houtcome⟩
  · cases h
    rfl
  · cases h
  · cases h
  unfold finishTurn at houtcome
  split at houtcome
  · cases houtcome
  · cases houtcome

theorem ReadTurn_stable : Stable fun packet session => ReadTurn env packet session where
  proceed hpacket hturn _ := ReadTurn_append hpacket hturn rfl
  leave hpacket hturn _ := ReadTurn_append hpacket hturn rfl

end AuthSession

variable {inputs : List Input}

namespace Connection

variable {connection after : Connection}

@[simp] theorem AsyncRead_session (connection : Connection) :
    connection.AsyncRead.session = connection.session := by
  unfold AsyncRead
  split
  · rfl
  · rfl

@[simp] theorem AsyncRead_active (connection : Connection) :
    connection.AsyncRead._readBuffer.active = connection._readBuffer.active := by
  unfold AsyncRead
  split
  · rfl
  · rw [MessageBuffer.active_EnsureFreeSpace, MessageBuffer.active_Normalize]

theorem AsyncRead_reading_of_open (hopen : connection.session._closed = false) :
    connection.AsyncRead.reading = true := by
  rw [AsyncRead, hopen]
  rfl

/-- How the loop leaves a connection. -/
def EndsIn (after : Connection) : Outcome UInt8 AuthSession → Prop
  | .waiting pending session => after.session = session ∧ after._readBuffer.active = pending ∧
      (session._closed = false → after.reading = true)
  | .dropped session => after.session = session ∧ after._readBuffer.active = [] ∧
      (session._closed = false → after.reading = true)
  | .left session => after.session = session ∧ session._closed = true ∧ after.reading = false

theorem ReadLoop_spec (hready : connection.session.Ready) {turns : ℕ}
    (hturns : connection._readBuffer.GetActiveSize < turns)
    (hidle : connection.reading = false) :
    (∃ fault, ReadLoop env turns connection = .error fault ∧ UnguardedRead fault) ∨
    ∃ after outcome, ReadLoop env turns connection = .ok after ∧
      Drains (fun packet session => AuthSession.ReadTurn env packet session)
        connection._readBuffer.active connection.session outcome ∧ after.EndsIn outcome := by
  induction turns generalizing connection with
  | zero => exact absurd hturns (Nat.not_lt_zero _)
  | succ turns ih =>
    unfold ReadLoop
    split
    case isTrue hempty =>
      have hactive := MessageBuffer.active_eq_nil_iff.mpr hempty
      rw [hactive]
      refine .inr ⟨_, _, rfl, .nil, AsyncRead_session _, ?_, AsyncRead_reading_of_open⟩
      rw [AsyncRead_active, hactive]
    rename_i hmore
    have hactive : connection._readBuffer.active ≠ [] := by
      rw [ne_eq, MessageBuffer.active_eq_nil_iff]
      exact hmore
    split
    case h_1 fault hturn =>
      exact .inl ⟨fault, rfl, AuthSession.ReadTurn_error hready hturn⟩
    case h_2 hturn =>
      exact .inr ⟨_, _, rfl, .await hactive hturn, AsyncRead_session _, AsyncRead_active _,
        AsyncRead_reading_of_open⟩
    case h_3 session hturn =>
      exact .inr ⟨_, _, rfl, .leave hactive hturn, rfl, (AuthSession.ReadTurn_leave hturn).1, hidle⟩
    case h_4 session hturn =>
      refine .inr ⟨_, _, rfl, .drop hactive hturn, AsyncRead_session _, ?_, ?_⟩
      · rw [AsyncRead_active, MessageBuffer.active_Reset]
      · intro hopen
        exact AsyncRead_reading_of_open hopen
    rename_i taken session hturn
    obtain ⟨hpos, htaken⟩ := AuthSession.ReadTurn_proceed hturn
    have hkept := AuthSession.ReadTurn_continues hturn
    rw [MessageBuffer.length_active] at htaken
    obtain ⟨buffer, hread⟩ := MessageBuffer.ReadCompleted_eq_some htaken
    have hconsumed := MessageBuffer.ReadCompleted_spec hread
    rw [hread]
    have hsize : buffer.GetActiveSize < turns := by
      rw [← MessageBuffer.length_active, hconsumed.active, length_drop, MessageBuffer.length_active]
      omega
    rcases @ih { connection with session := session, _readBuffer := buffer }
      (hkept.ready hready) hsize hidle with hfault | ⟨after, outcome, hloop, hdrains, hends⟩
    · exact .inl hfault
    refine .inr ⟨after, outcome, hloop, ?_, hends⟩
    refine .proceed hactive hturn ?_ ?_
    · rw [MessageBuffer.length_active]
      exact htaken
    · rw [← hconsumed.active]
      exact hdrains

/-- What is kept of a connection: it is read from while it is open, and a proof
that is waited for can be checked. -/
structure Sound (connection : Connection) : Prop where
  ready : connection.session.Ready
  isOpen : connection.reading = true → connection.session._closed = false

theorem drains_session {received : List UInt8} {session : AuthSession}
    {outcome : Outcome UInt8 AuthSession}
    (hdrains : Drains (fun packet session => AuthSession.ReadTurn env packet session)
      received session outcome) :
    match outcome with
    | .waiting _ after => AuthSession.Continues session after
    | .dropped after => (∃ dropped, .ignored dropped ∈ after.trace) ∧
        session.trace ⊆ after.trace ∧ after._closed = session._closed ∧
        (session.Ready → after.Ready)
    | .left after => session.trace ⊆ after.trace ∧ (session.Ready → after.Ready) := by
  induction hdrains with
  | nil | await => exact ⟨rfl, id, fun _ hevent => hevent⟩
  | @drop received state after _ hturn =>
    obtain rfl := AuthSession.ReadTurn_drop hturn
    refine ⟨⟨received, ?_⟩, subset_append_left _ _, rfl, id⟩
    exact mem_append_right _ (mem_singleton_self _)
  | leave _ hturn => exact (AuthSession.ReadTurn_leave hturn).2
  | @proceed received state next taken outcome _ hturn _ _ ih =>
    have hkept := AuthSession.ReadTurn_continues hturn
    cases outcome with
    | waiting pending after =>
      exact ⟨ih.closed.trans hkept.closed, fun hready => ih.ready (hkept.ready hready),
        fun _ hevent => ih.trace (hkept.trace hevent)⟩
    | dropped after =>
      obtain ⟨hignored, htrace, hclosed, hready⟩ := ih
      exact ⟨hignored, fun _ hevent => htrace (hkept.trace hevent), hclosed.trans hkept.closed,
        fun hbefore => hready (hkept.ready hbefore)⟩
    | left after =>
      exact ⟨fun _ hevent => ih.1 (hkept.trace hevent), fun hready => ih.2 (hkept.ready hready)⟩

theorem ReadHandlerInternal_spec {chunk : List UInt8} (hsound : connection.Sound)
    (hfits : chunk.length ≤ connection._readBuffer.GetRemainingSpace) :
    (∃ fault, connection.ReadHandlerInternal env chunk = .error fault ∧ UnguardedRead fault) ∨
    ∃ after outcome, connection.ReadHandlerInternal env chunk = .ok after ∧
      Drains (fun packet session => AuthSession.ReadTurn env packet session)
        (connection._readBuffer.active ++ chunk) connection.session outcome ∧
      after.EndsIn outcome := by
  obtain ⟨buffer, hwrite⟩ := MessageBuffer.Write_eq_some hfits
  have hwritten := MessageBuffer.Write_spec hwrite
  unfold ReadHandlerInternal
  rw [hwrite, ← hwritten.active]
  exact @ReadLoop_spec env { connection with _readBuffer := buffer, reading := false }
    hsound.ready _ (lt_succ_self _) rfl

theorem LogonChallengeCallback_ready (result : Option LogonRow) (random : List UInt8)
    {session : AuthSession} (hready : session.Ready) :
    (session.LogonChallengeCallback env result random).Ready := by
  rcases AuthSession.LogonChallengeCallback_cases env result random session with
    ⟨_, hstatus, hsrp6⟩ | ⟨row, secret, _, _, _, _, hcallback⟩
  · intro hproof
    obtain ⟨srp6, hsome, hused⟩ := hready (hstatus.symm.trans hproof)
    exact ⟨srp6, hsrp6.trans hsome, hused⟩
  · rw [hcallback]
    intro _
    exact ⟨_, AuthSession.BeginProof_srp6 env row secret random _, rfl⟩

theorem ReconnectChallengeCallback_ready (result : Option ReconnectRow) (random : List UInt8)
    {session : AuthSession} (hready : session.Ready) :
    (session.ReconnectChallengeCallback env result random).Ready := by
  cases result with
  | none =>
    intro hproof
    obtain ⟨srp6, hsome, hused⟩ := hready ((AuthSession.SendPacket_status _ _).symm.trans hproof)
    exact ⟨srp6, (AuthSession.SendPacket_srp6 _ _).trans hsome, hused⟩
  | some row =>
    intro hproof
    exact nomatch (AuthSession.SendPacket_status _ _).symm.trans hproof

/-- A callback changes the session without a look at the read buffer; it can
start a read of an open session. -/
structure Calls (before after : Connection) : Prop where
  closed : after.session._closed = before.session._closed
  trace : after.session.trace = before.session.trace
  ready : before.session.Ready → after.session.Ready
  active : after._readBuffer.active = before._readBuffer.active
  reading : after.reading = true → before.reading = true ∨ before.session._closed = false

theorem Callback_calls (reply : Reply) (connection : Connection) :
    Calls connection (connection.Callback env reply) := by
  have reads : ∀ after : Connection, after.session = connection.session →
      after._readBuffer.active = connection._readBuffer.active →
      (after.reading = true → connection.reading = true ∨ connection.session._closed = false) →
      Calls connection after := by
    intro after hsession hactive hreading
    exact ⟨by rw [hsession], by rw [hsession], by rw [hsession]; exact id, hactive, hreading⟩
  cases reply with
  | ipInfo result =>
    change Calls connection (connection.CheckIpCallback result)
    unfold CheckIpCallback
    split
    · have hquiet : AuthSession.Quiet connection.session (connection.session.SendPacket
          [AUTH_LOGON_CHALLENGE, 0x00, WOW_FAIL_BANNED]) :=
        AuthSession.SendPacket_quiet (ne_of_beq_false rfl) _
      refine ⟨hquiet.closed, hquiet.trace, ?_, rfl, .inl⟩
      intro hready hproof
      obtain ⟨srp6, hsome, hused⟩ := hready ((AuthSession.SendPacket_status _ _).symm.trans hproof)
      exact ⟨srp6, (AuthSession.SendPacket_srp6 _ _).trans hsome, hused⟩
    · refine reads _ (AsyncRead_session _) (AsyncRead_active _) ?_
      unfold AsyncRead
      split
      · exact .inl
      rename_i hopen
      intro _
      exact .inr (not_eq_true _ ▸ hopen)
  | logonChallenge result random =>
    have hquiet := AuthSession.LogonChallengeCallback_quiet env result random connection.session
    exact ⟨hquiet.closed, hquiet.trace, LogonChallengeCallback_ready result random, rfl, .inl⟩
  | reconnectChallenge result random =>
    have hquiet := AuthSession.ReconnectChallengeCallback_quiet env result random connection.session
    exact ⟨hquiet.closed, hquiet.trace, ReconnectChallengeCallback_ready result random, rfl, .inl⟩
  | realmCharacterCounts result =>
    refine ⟨?_, ?_, fun _ hproof => (nomatch hproof), rfl, .inl⟩
    · exact AuthSession.SendPacket_closed _ _
    · exact AuthSession.SendPacket_trace _ _

theorem Callback_congr {first second : Connection} (reply : Reply)
    (hsession : first.session = second.session) (hreading : first.reading = second.reading) :
    (first.Callback env reply).session = (second.Callback env reply).session ∧
      (first.Callback env reply).reading = (second.Callback env reply).reading := by
  cases reply with
  | ipInfo result =>
    change (first.CheckIpCallback result).session = (second.CheckIpCallback result).session ∧
      (first.CheckIpCallback result).reading = (second.CheckIpCallback result).reading
    unfold CheckIpCallback
    split
    · exact ⟨by rw [hsession], hreading⟩
    rw [AsyncRead_session, AsyncRead_session]
    refine ⟨hsession, ?_⟩
    unfold AsyncRead
    rw [← hsession]
    split
    · exact hreading
    · rfl
  | logonChallenge | reconnectChallenge | realmCharacterCounts =>
    exact ⟨by rw [Callback, Callback, hsession], hreading⟩

theorem handle_spec (hsound : connection.Sound) {input : Input}
    (hacc : connection.Accepts input) :
    (∃ fault, connection.handle env input = .error fault ∧ UnguardedRead fault) ∨
    ∃ after, connection.handle env input = .ok after ∧ after.Sound ∧
      connection.session.trace ⊆ after.session.trace := by
  cases input with
  | readError =>
    refine .inr ⟨_, rfl, ⟨hsound.ready, nofun⟩, fun _ hevent => hevent⟩
  | reply place reply =>
    refine .inr ⟨_, rfl, ?_⟩
    have hcalls := @Callback_calls env reply { connection with
      session := { connection.session with
        _queryProcessor := connection.session._queryProcessor.eraseIdx place
        trace := connection.session.trace ++ [.answered reply] } }
    refine ⟨⟨hcalls.ready hsound.ready, ?_⟩, ?_⟩
    · intro hreading
      refine hcalls.closed.trans ?_
      rcases hcalls.reading hreading with hbefore | hopen
      · exact hsound.isOpen hbefore
      · exact hopen
    · exact fun _ hevent => hcalls.trace ▸ mem_append_left _ hevent
  | read chunk =>
    change (∃ fault, (if connection.reading then connection.ReadHandlerInternal env chunk
      else .ok connection) = .error fault ∧ UnguardedRead fault) ∨ ∃ after, (if connection.reading
      then connection.ReadHandlerInternal env chunk else .ok connection) = .ok after ∧
      after.Sound ∧ connection.session.trace ⊆ after.session.trace
    split
    case isFalse => exact .inr ⟨connection, rfl, hsound, fun _ hevent => hevent⟩
    rename_i hreading
    rcases @ReadHandlerInternal_spec env _ _ hsound (hacc.2 hreading) with
      hfault | ⟨after, outcome, hhandle, hdrains, hends⟩
    · exact .inl hfault
    refine .inr ⟨after, hhandle, ?_⟩
    have hkept := drains_session hdrains
    cases outcome with
    | waiting pending session =>
      obtain ⟨hsession, _, _⟩ := hends
      rw [hsession]
      refine ⟨⟨hsession ▸ hkept.ready hsound.ready, ?_⟩, hkept.trace⟩
      intro _
      rw [hsession, hkept.closed]
      exact hsound.isOpen hreading
    | dropped session =>
      obtain ⟨hsession, _, _⟩ := hends
      obtain ⟨_, htrace, hclosed, hready⟩ := hkept
      rw [hsession]
      refine ⟨⟨hsession ▸ hready hsound.ready, ?_⟩, htrace⟩
      intro _
      rw [hsession, hclosed]
      exact hsound.isOpen hreading
    | left session =>
      obtain ⟨hsession, _, hidle⟩ := hends
      rw [hsession]
      refine ⟨⟨hsession ▸ hkept.2 hsound.ready, ?_⟩, hkept.1⟩
      intro hreads
      exact nomatch hidle.symm.trans hreads

theorem started_sound : started.Sound :=
  ⟨fun hproof => (nomatch hproof), fun hreading => (nomatch hreading)⟩

theorem Sound.of_reachable (hreach : Reachable (· = started) (step env) connection) :
    connection.Sound := by
  refine hreach.invariant Sound ?_ ?_
  · rintro state rfl
    exact started_sound
  · rintro before input after hsound ⟨hacc, hhandle⟩
    rcases @handle_spec env _ hsound _ hacc with ⟨fault, hfault, _⟩ | ⟨next, hnext, hsound', _⟩
    · exact nomatch hfault.symm.trans hhandle
    · obtain rfl := Except.ok.inj (hnext.symm.trans hhandle)
      exact hsound'

theorem step_trace (hsound : connection.Sound) {input : Input}
    (hstep : step env connection input after) :
    after.Sound ∧ connection.session.trace ⊆ after.session.trace := by
  obtain ⟨hacc, hhandle⟩ := hstep
  rcases @handle_spec env _ hsound _ hacc with ⟨fault, hfault, _⟩ | ⟨next, hnext, hkept⟩
  · exact nomatch hfault.symm.trans hhandle
  · obtain rfl := Except.ok.inj (hnext.symm.trans hhandle)
    exact hkept

theorem steps_trace (hsound : connection.Sound)
    (hsteps : Steps (step env) connection inputs after) :
    connection.session.trace ⊆ after.session.trace := by
  induction hsteps with
  | nil => exact fun _ hevent => hevent
  | cons hstep _ ih =>
    obtain ⟨hnext, htrace⟩ := step_trace hsound hstep
    exact fun _ hevent => ih hnext (htrace hevent)

/-! ## What does not depend on the split -/

/-- A connection without the place of its bytes in the buffer; what a closed
session has not read does not matter. -/
structure View where
  pending : List UInt8
  session : AuthSession
  reading : Bool

def view (connection : Connection) : View where
  pending := if connection.session._closed then [] else connection._readBuffer.active
  session := connection.session
  reading := connection.reading

inductive ViewStep (env : Environment) : View → Input → View → Prop where
  | unread {before : View} {chunk : List UInt8} : before.reading = false →
      ViewStep env before (.read chunk) before
  | waits {before : View} {chunk pending : List UInt8} {session : AuthSession} :
      before.reading = true →
      Drains (fun packet session => AuthSession.ReadTurn env packet session)
        (before.pending ++ chunk) before.session (.waiting pending session) →
      ViewStep env before (.read chunk) ⟨pending, session, true⟩
  | leaves {before : View} {chunk : List UInt8} {session : AuthSession} : before.reading = true →
      Drains (fun packet session => AuthSession.ReadTurn env packet session)
        (before.pending ++ chunk) before.session (.left session) →
      ViewStep env before (.read chunk) ⟨[], session, false⟩
  | readError {before : View} :
      ViewStep env before .readError ⟨[], before.session.CloseSocket, false⟩
  | reply {connection : Connection} {place : ℕ} {reply : Reply} :
      ViewStep env connection.view (.reply place reply)
        (connection.InvokeIfReady env place reply).view

theorem view_InvokeIfReady {first second : Connection} (hview : first.view = second.view)
    (place : ℕ) (reply : Reply) :
    (first.InvokeIfReady env place reply).view = (second.InvokeIfReady env place reply).view := by
  have hsession : first.session = second.session := congrArg View.session hview
  have hreading : first.reading = second.reading := congrArg View.reading hview
  have hpending := congrArg View.pending hview
  have asked : ∀ connection : Connection, Calls { connection with
      session := { connection.session with
        _queryProcessor := connection.session._queryProcessor.eraseIdx place
        trace := connection.session.trace ++ [.answered reply] } }
      (connection.InvokeIfReady env place reply) := fun _ => Callback_calls reply _
  obtain ⟨hafter, hreads⟩ := @Callback_congr env { first with
      session := { first.session with
        _queryProcessor := first.session._queryProcessor.eraseIdx place
        trace := first.session.trace ++ [.answered reply] } } { second with
      session := { second.session with
        _queryProcessor := second.session._queryProcessor.eraseIdx place
        trace := second.session.trace ++ [.answered reply] } } reply
      (by rw [hsession]) hreading
  have hclosed : (first.InvokeIfReady env place reply).session._closed = first.session._closed :=
    (asked first).closed
  have hclosed' : (second.InvokeIfReady env place reply).session._closed
      = second.session._closed := (asked second).closed
  have hactive := (asked first).active
  have hactive' := (asked second).active
  unfold view
  congr 1
  rw [hclosed, hclosed', hactive, hactive']
  exact hpending

theorem ViewStep.eq {before after other : View} {input : Input}
    (hfirst : ViewStep env before input after) (hsecond : ViewStep env before input other) :
    after = other := by
  cases hfirst with
  | unread hidle =>
    cases hsecond with
    | unread => rfl
    | waits hreading | leaves hreading => exact nomatch hidle.symm.trans hreading
  | waits hreading hdrains =>
    cases hsecond with
    | unread hidle => exact nomatch hidle.symm.trans hreading
    | waits _ hother =>
      cases hdrains.eq hother
      rfl
    | leaves _ hother => exact nomatch hdrains.eq hother
  | leaves hreading hdrains =>
    cases hsecond with
    | unread hidle => exact nomatch hidle.symm.trans hreading
    | waits _ hother => exact nomatch hdrains.eq hother
    | leaves _ hother =>
      cases hdrains.eq hother
      rfl
  | readError =>
    cases hsecond
    rfl
  | @reply first place reply =>
    generalize hview : first.view = seen at hsecond
    cases hsecond with
    | @reply second => exact view_InvokeIfReady hview place reply

theorem ViewStep.merge {before next after : View} {first second : List UInt8}
    (hfirst : ViewStep env before (.read first) next)
    (hsecond : ViewStep env next (.read second) after) :
    ViewStep env before (.read (first ++ second)) after := by
  cases hfirst with
  | unread hidle =>
    cases hsecond with
    | unread => exact .unread hidle
    | waits hreading | leaves hreading => exact nomatch hidle.symm.trans hreading
  | @waits _ _ pending session hreading hdrains =>
    generalize hnext : View.mk pending session true = next at hsecond
    cases hsecond with
    | unread hidle =>
      subst hnext
      cases hidle
    | waits _ hrest =>
      subst hnext
      refine .waits hreading ?_
      rw [← append_assoc]
      exact hdrains.append AuthSession.ReadTurn_stable hrest
    | leaves _ hrest =>
      subst hnext
      refine .leaves hreading ?_
      rw [← append_assoc]
      exact hdrains.append AuthSession.ReadTurn_stable hrest
  | @leaves _ _ session hreading hdrains =>
    generalize hnext : View.mk [] session false = next at hsecond
    cases hsecond with
    | unread =>
      subst hnext
      refine .leaves hreading ?_
      rw [← append_assoc]
      exact hdrains.append_left AuthSession.ReadTurn_stable second
    | waits hreading' | leaves hreading' =>
      subst hnext
      cases hreading'

def NothingIgnored (connection : Connection) : Prop :=
  ∀ bytes, .ignored bytes ∉ connection.session.trace

theorem step_view (hsound : connection.Sound) {input : Input}
    (hstep : step env connection input after) (hkept : after.NothingIgnored) :
    ViewStep env connection.view input after.view := by
  obtain ⟨hacc, hhandle⟩ := hstep
  cases input with
  | readError =>
    cases hhandle
    exact .readError
  | reply place reply =>
    cases hhandle
    exact .reply
  | read chunk =>
    change (if connection.reading then connection.ReadHandlerInternal env chunk
      else .ok connection) = .ok after at hhandle
    split at hhandle
    case isFalse hidle =>
      cases hhandle
      exact .unread (not_eq_true _ ▸ hidle)
    rename_i hreading
    have hopen := hsound.isOpen hreading
    have hpending : connection.view.pending = connection._readBuffer.active := by
      change (if connection.session._closed then [] else connection._readBuffer.active) = _
      rw [hopen]
      rfl
    rcases @ReadHandlerInternal_spec env _ _ hsound (hacc.2 hreading) with
      ⟨fault, hfault, _⟩ | ⟨next, outcome, hnext, hdrains, hends⟩
    · exact nomatch hfault.symm.trans hhandle
    obtain rfl := Except.ok.inj (hnext.symm.trans hhandle)
    have hsession := drains_session hdrains
    rw [← hpending] at hdrains
    cases outcome with
    | waiting pending session =>
      obtain ⟨rfl, rfl, hreads⟩ := hends
      have hstill : next.session._closed = false := hsession.closed.trans hopen
      have hview : next.view = ⟨next._readBuffer.active, next.session, true⟩ := by
        unfold view
        rw [hstill, hreads hstill]
        rfl
      rw [hview]
      exact .waits hreading hdrains
    | dropped session =>
      obtain ⟨rfl, _, _⟩ := hends
      obtain ⟨⟨bytes, hignored⟩, _⟩ := hsession
      exact absurd hignored (hkept bytes)
    | left session =>
      obtain ⟨rfl, hclosed, hidle⟩ := hends
      have hview : next.view = ⟨[], next.session, false⟩ := by
        unfold view
        rw [hclosed, hidle]
        rfl
      rw [hview]
      exact .leaves hreading hdrains

theorem steps_view (hsound : connection.Sound) (hsteps : Steps (step env) connection inputs after)
    (hkept : after.NothingIgnored) : Steps (ViewStep env) connection.view inputs after.view := by
  induction hsteps with
  | nil => exact .nil
  | cons hstep hrest ih =>
    obtain ⟨hnext, _⟩ := step_trace hsound hstep
    have htrace := steps_trace hnext hrest
    refine .cons (step_view hsound hstep ?_) (ih hnext hkept)
    intro bytes hignored
    exact hkept bytes (htrace hignored)

end Connection

/-! ## The bytes a client sends -/

inductive Arrival where
  | byte (value : UInt8)
  | error
  | reply (place : ℕ) (reply : Reply)

def stream : List Input → List Arrival
  | [] => []
  | .read chunk :: rest => chunk.map .byte ++ stream rest
  | .readError :: rest => .error :: stream rest
  | .reply place reply :: rest => .reply place reply :: stream rest

def join (chunk : List UInt8) : List Input → List Input
  | .read next :: rest => .read (chunk ++ next) :: rest
  | rest => .read chunk :: rest

def segments : List Arrival → List Input
  | [] => []
  | .byte value :: rest => join [value] (segments rest)
  | .error :: rest => .readError :: segments rest
  | .reply place reply :: rest => .reply place reply :: segments rest

theorem join_join (first second : List UInt8) (inputs : List Input) :
    join first (join second inputs) = join (first ++ second) inputs := by
  rcases inputs with _ | ⟨input, rest⟩
  · rfl
  cases input with
  | read chunk =>
    change [Input.read (first ++ (second ++ chunk))] ++ rest = _
    rw [← append_assoc]
    rfl
  | readError | reply => rfl

theorem segments_bytes {chunk : List UInt8} (hchunk : chunk ≠ []) (rest : List Arrival) :
    segments (chunk.map .byte ++ rest) = join chunk (segments rest) := by
  induction chunk with
  | nil => exact absurd rfl hchunk
  | cons value chunk ih =>
    change join [value] (segments (chunk.map .byte ++ rest)) = _
    by_cases hlast : chunk = []
    · rw [hlast]
      rfl
    · rw [ih hlast, join_join]
      rfl

namespace Connection

theorem steps_segments {before after : View}
    (hchunks : ∀ chunk, .read chunk ∈ inputs → chunk ≠ [])
    (hsteps : Steps (ViewStep env) before inputs after) :
    Steps (ViewStep env) before (segments (stream inputs)) after := by
  induction hsteps with
  | nil => exact .nil
  | @cons before next after input inputs hstep _ ih =>
    have hrest := ih fun chunk hchunk => hchunks chunk (mem_cons_of_mem _ hchunk)
    cases input with
    | readError => exact .cons hstep hrest
    | reply place reply => exact .cons hstep hrest
    | read chunk =>
      have hchunk := hchunks chunk mem_cons_self
      rw [stream, segments_bytes hchunk]
      generalize segments (stream inputs) = joined at hrest
      cases hrest with
      | nil => exact .cons hstep .nil
      | @cons _ _ _ input joined hfirst hlater =>
        cases input with
        | readError => exact .cons hstep (.cons hfirst hlater)
        | reply place reply => exact .cons hstep (.cons hfirst hlater)
        | read second => exact .cons (hstep.merge hfirst) hlater

theorem steps_chunks {connection after : Connection}
    (hsteps : Steps (step env) connection inputs after) :
    ∀ chunk, .read chunk ∈ inputs → chunk ≠ [] := by
  induction hsteps with
  | nil => exact nofun
  | cons hstep _ ih =>
    intro chunk hchunk
    rcases mem_cons.mp hchunk with rfl | hlater
    · exact hstep.1.1
    · exact ih chunk hlater

/-- Handlers use only bytes that have been received, but for the length of a
name that the declared size of its challenge does not reach and for a token.
Where these have been received and no unknown command makes the session drop
what it has received, it does the same with the bytes between two replies
however reads split them. -/
theorem commands_do_not_depend_on_the_split (env : Environment) :
    (∀ connection, Reachable (· = started) (step env) connection →
      ∀ input, connection.Accepts input → ∀ fault,
        connection.handle env input = .error fault → UnguardedRead fault) ∧
    ∀ inputs others : List Input, stream inputs = stream others → ∀ first second : Connection,
      Steps (step env) started inputs first → Steps (step env) started others second →
      first.NothingIgnored → second.NothingIgnored → first.session = second.session := by
  refine ⟨?_, ?_⟩
  · intro connection hreach input haccepts fault hfault
    rcases @handle_spec env _ (Sound.of_reachable hreach) _ haccepts with
      ⟨other, hother, hunguarded⟩ | ⟨after, hafter, _⟩
    · obtain rfl := Except.error.inj (hother.symm.trans hfault)
      exact hunguarded
    · exact nomatch hafter.symm.trans hfault
  · intro inputs others hstream first second hfirst hsecond hkept hkept'
    have hview := steps_segments (steps_chunks hfirst) (steps_view started_sound hfirst hkept)
    have hview' := steps_segments (steps_chunks hsecond) (steps_view started_sound hsecond hkept')
    rw [← hstream] at hview'
    have hdetermined : ∀ before input after other, ViewStep env before input after →
        ViewStep env before input other → after = other :=
      fun _ _ _ _ hstep hother => hstep.eq hother
    have hsame := hview.eq hdetermined hview'
    exact congrArg View.session hsame

/-! ## Runs that are computed -/

def run (env : Environment) (connection : Connection) (input : Input) : Except Fault Connection :=
  if connection.Accepts input then connection.handle env input else .error .undefined

theorem steps_of_run {connection after : Connection}
    (hrun : inputs.foldlM (run env) connection = .ok after) :
    Steps (step env) connection inputs after := by
  induction inputs generalizing connection with
  | nil =>
    cases hrun
    exact .nil
  | cons input inputs ih =>
    obtain ⟨next, hnext, hrest⟩ := foldlM_cons_ok hrun
    unfold run at hnext
    split at hnext
    case isTrue hacc => exact .cons ⟨hacc, hnext⟩ (ih hrest)
    case isFalse => cases hnext

def Ends (env : Environment) (inputs : List Input) (property : Connection → Bool) : Bool :=
  match inputs.foldlM (run env) started with
  | .ok after => property after
  | .error _ => false

theorem exists_of_ends {property : Connection → Bool} (hends : Ends env inputs property = true) :
    ∃ after, Steps (step env) started inputs after ∧ property after = true := by
  unfold Ends at hends
  split at hends
  case h_1 after hrun => exact ⟨after, steps_of_run hrun, hends⟩
  case h_2 => cases hends

def commands (connection : Connection) : List (UInt8 × List UInt8) :=
  connection.session.trace.filterMap fun event =>
    match event with
    | .handled cmd bytes => some (cmd, bytes)
    | .ignored _ | .answered _ => none

def challengeOfA : List UInt8 := [0, 0, 31, 0] ++ List.replicate 29 0 ++ [1, 65]

def afterStart (reads : List (List UInt8)) : List Input :=
  .reply 0 (.ipInfo none) :: reads.map .read

/-- A byte that is no command makes the session drop the command behind it if
one read brings both. -/
theorem an_unknown_command_drops_what_came_with_it :
    ∃ inputs others first second, stream inputs = stream others ∧
      Steps (step .plain) started inputs first ∧ Steps (step .plain) started others second ∧
      first.commands = [] ∧ second.commands = [(AUTH_LOGON_CHALLENGE, challengeOfA)] := by
  have hjoined : Ends .plain (afterStart [255 :: challengeOfA])
      (fun after => after.commands = []) = true := by decide +kernel
  have hsplit : Ends .plain (afterStart [[255], challengeOfA])
      (fun after => after.commands = [(AUTH_LOGON_CHALLENGE, challengeOfA)]) = true := by
    decide +kernel
  obtain ⟨first, hfirst, hnone⟩ := exists_of_ends hjoined
  obtain ⟨second, hsecond, hone⟩ := exists_of_ends hsplit
  exact ⟨afterStart [255 :: challengeOfA], afterStart [[255], challengeOfA], first, second, rfl,
    hfirst, hsecond, of_decide_eq_true hnone, of_decide_eq_true hone⟩

/-- Two splits of a challenge, and a challenge whose size ends before the length
of its name. -/
theorem a_split_challenge_is_handled_alike :
    (∃ first second : Connection, first.session = second.session ∧
      first.commands = [(AUTH_LOGON_CHALLENGE, challengeOfA)]) ∧
    UnguardedRead (.nameLength 0) := by
  have hjoined : Ends .plain (afterStart [challengeOfA]) (fun after =>
      after.commands = [(AUTH_LOGON_CHALLENGE, challengeOfA)] ∧
      after.session.trace.all fun event => !event matches .ignored _) = true := by decide +kernel
  have hsplit : Ends .plain (afterStart [challengeOfA.take 10, challengeOfA.drop 10]) (fun after =>
      after.session.trace.all fun event => !event matches .ignored _) = true := by decide +kernel
  have hshort : Ends .plain (afterStart []) (fun after => after.Accepts (.read [0, 0, 0, 0]) ∧
      after.handle .plain (.read [0, 0, 0, 0]) matches .error (.nameLength 0)) = true := by
    decide +kernel
  have hkept : ∀ after : Connection,
      (after.session.trace.all fun event => !event matches .ignored _) = true →
      after.NothingIgnored := by
    intro after hall bytes hignored
    exact nomatch all_eq_true.mp hall _ hignored
  obtain ⟨first, hfirst, hproperties⟩ := exists_of_ends hjoined
  obtain ⟨hcommands, hfirstKept⟩ := of_decide_eq_true hproperties
  obtain ⟨second, hsecond, hsecondKept⟩ := exists_of_ends hsplit
  obtain ⟨third, hthird, hfault⟩ := exists_of_ends hshort
  obtain ⟨haccepts, hfault⟩ := of_decide_eq_true hfault
  obtain ⟨hreads, hsame⟩ := commands_do_not_depend_on_the_split .plain
  refine ⟨⟨first, second, ?_, hcommands⟩, ?_⟩
  · exact hsame (afterStart [challengeOfA])
      (afterStart [challengeOfA.take 10, challengeOfA.drop 10]) rfl first second hfirst hsecond
      (hkept first hfirstKept) (hkept second hsecondKept)
  · have hreach : Reachable (· = started) (step .plain) third := Reachable.steps (.start rfl) hthird
    refine hreads third hreach _ haccepts _ ?_
    split at hfault
    case h_1 hhandle => exact hhandle
    case h_2 => cases hfault

end Connection

end AzerothCore.Authserver
