import AzerothCore.Collections.Reachability
import Mathlib.Data.List.Perm.Basic
import Mathlib.Data.List.Range

/-!
# The packets of `WorldSession::Update`

An update takes packets from the front of `_recvQueue` as long as the filter lets it. A
`STATUS_LOGGEDIN` packet that comes before there is a player is set aside and put back
at the front when the loop ends.

The loop is a step for every packet, so that packets can arrive between two of them.
What a handler does to the player and the session is an input of the step.
-/

namespace AzerothCore.Sessions.Receiving

open Reachability

inductive SessionStatus where
  | STATUS_AUTHED
  | STATUS_LOGGEDIN
  | STATUS_TRANSFER
  | STATUS_LOGGEDIN_OR_RECENTLY_LOGGOUT
  | STATUS_NEVER
  | STATUS_UNHANDLED
  deriving DecidableEq

inductive PacketProcessing where
  | PROCESS_INPLACE
  | PROCESS_THREADUNSAFE
  | PROCESS_THREADSAFE
  deriving DecidableEq

structure ClientOpcodeHandler where
  Status : SessionStatus
  ProcessingPlace : PacketProcessing

def CMSG_CHAR_ENUM : ℕ := 0x037

def MAX_PROCESSED_PACKETS_IN_SAME_WORLDSESSION_UPDATE : ℕ := 150

structure WorldPacket where
  number : ℕ
  opcode : ℕ
  deriving DecidableEq

inductive PacketFilter where
  | MapSessionFilter
  | WorldSessionFilter
  deriving DecidableEq

/-- What the loop reads of the session. The player is given by whether he is in the
world, and `socket` is whether `m_Socket` is set. -/
structure Standing where
  player : Option Bool
  m_playerRecentlyLogout : Bool
  m_inQueue : Bool
  socket : Bool
  deriving DecidableEq

structure Loop where
  updater : PacketFilter
  requeuePackets : List WorldPacket
  processedPackets : ℕ
  deriving DecidableEq

/-- `arrived` is the number of packets that were queued. The numbers of the deleted
packets and the packets that a handler was called for are kept in their order. -/
structure WorldSession where
  standing : Standing
  recvQueue : List WorldPacket
  update : Option Loop
  arrived : ℕ
  deleted : List ℕ
  handled : List WorldPacket

namespace WorldSession

variable (opcodeTable : ℕ → ClientOpcodeHandler)

def MapSessionFilter_Process (standing : Standing) (packet : WorldPacket) : Bool :=
  match (opcodeTable packet.opcode).ProcessingPlace with
  | .PROCESS_INPLACE => true
  | .PROCESS_THREADUNSAFE => false
  | .PROCESS_THREADSAFE =>
    match standing.player with
    | none => false
    | some isInWorld => isInWorld

def WorldSessionFilter_Process (standing : Standing) (packet : WorldPacket) : Bool :=
  match (opcodeTable packet.opcode).ProcessingPlace with
  | .PROCESS_INPLACE => true
  | .PROCESS_THREADUNSAFE => true
  | .PROCESS_THREADSAFE =>
    match standing.player with
    | none => true
    | some isInWorld => !isInWorld

def Process (updater : PacketFilter) (standing : Standing) (packet : WorldPacket) : Bool :=
  match updater with
  | .MapSessionFilter => MapSessionFilter_Process opcodeTable standing packet
  | .WorldSessionFilter => WorldSessionFilter_Process opcodeTable standing packet

/-- What the session meets at a packet: the answers of `AntiDOS` and of the scripts, and
how a handler that is called leaves it, also when the handler throws. -/
structure Turn where
  EvaluateOpcode : Bool
  CanPacketReceive : Bool
  handler : Standing

/-- What becomes of a packet. After a refusal the loop breaks. -/
inductive Verdict where
  | called
  | skipped
  | delayed
  | refused
  deriving DecidableEq

def evaluate (turn : Turn) : Verdict :=
  if turn.EvaluateOpcode then
    if turn.CanPacketReceive then .called else .skipped
  else .refused

/-- The switch over the status of the opcode. -/
def verdict (standing : Standing) (turn : Turn) (packet : WorldPacket) : Verdict :=
  match (opcodeTable packet.opcode).Status with
  | .STATUS_LOGGEDIN =>
    match standing.player with
    | none => if standing.m_playerRecentlyLogout then .skipped else .delayed
    | some isInWorld => if isInWorld then evaluate turn else .skipped
  | .STATUS_LOGGEDIN_OR_RECENTLY_LOGGOUT =>
    if standing.player = none ∧ !standing.m_playerRecentlyLogout then .skipped
    else evaluate turn
  | .STATUS_TRANSFER => if standing.player = some false then evaluate turn else .refused
  | .STATUS_AUTHED => if standing.m_inQueue then .skipped else evaluate turn
  | .STATUS_NEVER => .skipped
  | .STATUS_UNHANDLED => .skipped

def charEnum (standing : Standing) (packet : WorldPacket) : Standing :=
  if (opcodeTable packet.opcode).Status = .STATUS_AUTHED ∧ !standing.m_inQueue ∧
      packet.opcode = CMSG_CHAR_ENUM then
    { standing with m_playerRecentlyLogout := false }
  else standing

def readd (session : WorldSession) (requeuePackets : List WorldPacket) : WorldSession :=
  { session with recvQueue := requeuePackets ++ session.recvQueue, update := none }

/-- A packet that was taken from the queue, before the loop goes on. -/
def treat (session : WorldSession) (loop : Loop) (turn : Turn) (packet : WorldPacket) :
    WorldSession × Loop :=
  match verdict opcodeTable session.standing turn packet with
  | .called =>
    ({ session with
        standing := turn.handler
        deleted := session.deleted ++ [packet.number]
        handled := session.handled ++ [packet] }, loop)
  | .skipped =>
    ({ session with
        standing := charEnum opcodeTable session.standing packet
        deleted := session.deleted ++ [packet.number] }, loop)
  | .delayed =>
    (session, { loop with requeuePackets := loop.requeuePackets ++ [packet] })
  | .refused =>
    ({ session with
        standing := charEnum opcodeTable session.standing packet
        deleted := session.deleted ++ [packet.number] },
      { loop with processedPackets := MAX_PROCESSED_PACKETS_IN_SAME_WORLDSESSION_UPDATE })

/-- One turn of the loop. -/
def iterate (session : WorldSession) (loop : Loop) (turn : Turn) : WorldSession :=
  match session.recvQueue with
  | [] => session.readd loop.requeuePackets
  | packet :: rest =>
    if session.standing.socket ∧ Process opcodeTable loop.updater session.standing packet then
      let (session, loop) := treat opcodeTable { session with recvQueue := rest } loop turn packet
      let processedPackets := loop.processedPackets + 1
      if MAX_PROCESSED_PACKETS_IN_SAME_WORLDSESSION_UPDATE < processedPackets then
        session.readd loop.requeuePackets
      else { session with update := some { loop with processedPackets := processedPackets } }
    else session.readd loop.requeuePackets

/-- A packet arrives, an update starts, its loop takes a turn, or something else happens
to the session between updates (callbacks, a logout, a teleport, a closed socket). -/
inductive SessionOp where
  | QueuePacket (opcode : ℕ)
  | Update (updater : PacketFilter)
  | turn (turn : Turn)
  | between (standing : Standing)

def QueuePacket (session : WorldSession) (opcode : ℕ) : WorldSession :=
  { session with
    recvQueue := session.recvQueue ++ [⟨session.arrived, opcode⟩]
    arrived := session.arrived + 1 }

def step (session : WorldSession) : SessionOp → Option WorldSession
  | .QueuePacket opcode => some (session.QueuePacket opcode)
  | .Update updater =>
    match session.update with
    | none => some { session with update := some ⟨updater, [], 0⟩ }
    | some _ => none
  | .turn turn =>
    match session.update with
    | none => none
    | some loop => some (session.iterate opcodeTable loop turn)
  | .between standing =>
    match session.update with
    | none => some { session with standing := standing }
    | some _ => none

def IsNew (session : WorldSession) : Prop :=
  session.recvQueue = [] ∧ session.update = none ∧ session.arrived = 0 ∧
    session.deleted = [] ∧ session.handled = []

def ReachableSession : WorldSession → Prop :=
  Reachable IsNew (computed (step opcodeTable))

def requeued (session : WorldSession) : List WorldPacket :=
  match session.update with
  | none => []
  | some loop => loop.requeuePackets

/-- The packets that are left, those that were set aside in front. -/
def left (session : WorldSession) : List WorldPacket := session.requeued ++ session.recvQueue

/-- Every packet that arrived is left or was deleted once, what is left is in the order of
arrival, and what was handled was deleted in the same order. -/
structure Sound (session : WorldSession) : Prop where
  accounted : (session.deleted ++ session.left.map (·.number)).Perm (List.range session.arrived)
  ordered : (session.left.map (·.number)).Pairwise (· < ·)
  handled : (session.handled.map (·.number)).Sublist session.deleted

variable {opcodeTable} {session : WorldSession} {loop : Loop} {turn : Turn}

theorem Sound.of_isNew (hnew : session.IsNew) : session.Sound := by
  obtain ⟨hqueue, hupdate, harrived, hdeleted, hhandled⟩ := hnew
  have hleft : session.left = [] := by
    unfold left requeued
    rw [hupdate, hqueue]
    rfl
  refine ⟨?_, ?_, ?_⟩
  · rw [hleft, hdeleted, harrived]
    exact List.Perm.refl _
  · rw [hleft]
    exact List.Pairwise.nil
  · rw [hhandled]
    exact List.nil_sublist _

theorem left_readd (hupdate : session.update = some loop) :
    (session.readd loop.requeuePackets).left = session.left := by
  unfold left requeued readd
  rw [hupdate]
  rfl

theorem Sound.readd (hsound : session.Sound) (hupdate : session.update = some loop) :
    (session.readd loop.requeuePackets).Sound := by
  refine ⟨?_, ?_, hsound.handled⟩
  · rw [left_readd hupdate]
    exact hsound.accounted
  · rw [left_readd hupdate]
    exact hsound.ordered

end WorldSession

end AzerothCore.Sessions.Receiving

/-!
## Every packet is deleted once

What is left of the packets stays in the order of arrival, whatever the handlers do. The
packets of a player who is in the world are handled in that order, unless a handler brings
a player into the world after a packet was set aside.
-/

namespace AzerothCore.Sessions.Receiving.WorldSession

open List
open Reachability

variable {opcodeTable : ℕ → ClientOpcodeHandler} {session treated after : WorldSession}
  {loop next : Loop} {turn : Turn} {packet : WorldPacket}

/-! ## What a turn does -/

/-- The session after a packet was treated, whether the loop goes on or ends. -/
structure Follows (treated : WorldSession) (next : Loop) (after : WorldSession) : Prop where
  standing : after.standing = treated.standing
  arrived : after.arrived = treated.arrived
  deleted : after.deleted = treated.deleted
  handled : after.handled = treated.handled
  left : after.left = next.requeuePackets ++ treated.recvQueue
  requeued : after.requeued ≠ [] → next.requeuePackets ≠ []

theorem Follows.readd : Follows treated next (treated.readd next.requeuePackets) :=
  ⟨rfl, rfl, rfl, rfl, rfl, fun hrequeued => absurd rfl hrequeued⟩

theorem Follows.goesOn (processed : ℕ) : Follows treated next
      { treated with update := some { next with processedPackets := processed } } :=
  ⟨rfl, rfl, rfl, rfl, rfl, fun hrequeued => hrequeued⟩

variable {rest : List WorldPacket} {op : SessionOp}

theorem iterate_taken (hqueue : session.recvQueue = packet :: rest)
    (htaken : session.standing.socket = true ∧
      Process opcodeTable loop.updater session.standing packet = true)
    (htreat : treat opcodeTable { session with recvQueue := rest } loop turn packet =
      (treated, next)) : Follows treated next (session.iterate opcodeTable loop turn) := by
  unfold iterate
  rw [hqueue]
  dsimp only
  rw [if_pos htaken, htreat]
  split
  · exact Follows.readd
  · exact Follows.goesOn _

structure Delays (session after : WorldSession) : Prop where
  player : session.standing.player = none
  standing : after.standing = session.standing
  arrived : after.arrived = session.arrived
  left : after.left = session.left
  deleted : after.deleted = session.deleted
  handled : after.handled = session.handled

structure Deletes (opcodeTable : ℕ → ClientOpcodeHandler) (session : WorldSession) (turn : Turn)
    (packet : WorldPacket) (after : WorldSession) : Prop where
  arrived : after.arrived = session.arrived
  left : ∃ rest, session.recvQueue = packet :: rest ∧ after.left = session.requeued ++ rest
  requeued : after.requeued ≠ [] → session.requeued ≠ []
  deleted : after.deleted = session.deleted ++ [packet.number]
  handled : verdict opcodeTable session.standing turn packet = .called ∧
      after.handled = session.handled ++ [packet] ∧ after.standing = turn.handler ∨
    after.handled = session.handled ∧ after.standing.player = session.standing.player

theorem player_charEnum (standing : Standing) (packet : WorldPacket) :
    (charEnum opcodeTable standing packet).player = standing.player := by
  unfold charEnum
  split <;> rfl

theorem player_of_delayed {standing : Standing}
    (hverdict : verdict opcodeTable standing turn packet = .delayed) :
    standing.player = none := by
  rcases hplayer : standing.player with _ | isInWorld
  · rfl
  revert hverdict
  unfold verdict evaluate
  rw [hplayer]
  cases (opcodeTable packet.opcode).Status <;> dsimp only <;> repeat' split
  all_goals exact nofun

theorem requeued_of_update (hupdate : session.update = some loop) :
    session.requeued = loop.requeuePackets := by
  unfold requeued
  rw [hupdate]

theorem Follows.deletes (hfollows : Follows treated next after)
    (hupdate : session.update = some loop) (hqueue : session.recvQueue = packet :: rest)
    (hnext : next.requeuePackets = loop.requeuePackets) (hrest : treated.recvQueue = rest)
    (harrived : treated.arrived = session.arrived)
    (hdeleted : treated.deleted = session.deleted ++ [packet.number])
    (hhandled : verdict opcodeTable session.standing turn packet = .called ∧
        treated.handled = session.handled ++ [packet] ∧ treated.standing = turn.handler ∨
      treated.handled = session.handled ∧ treated.standing.player = session.standing.player) :
    Deletes opcodeTable session turn packet after := by
  have hrequeued := requeued_of_update hupdate
  refine ⟨hfollows.arrived.trans harrived, ⟨rest, hqueue, ?_⟩, ?_,
    hfollows.deleted.trans hdeleted, ?_⟩
  · rw [hfollows.left, hnext, hrest, hrequeued]
  · rw [hrequeued, ← hnext]
    exact hfollows.requeued
  · rw [hfollows.handled, hfollows.standing]
    exact hhandled

theorem iterate_cases (hupdate : session.update = some loop)
    (hqueue : session.recvQueue = packet :: rest)
    (htaken : session.standing.socket = true ∧
      Process opcodeTable loop.updater session.standing packet = true) :
    Delays session (session.iterate opcodeTable loop turn) ∨
      Deletes opcodeTable session turn packet (session.iterate opcodeTable loop turn) := by
  cases htreat : treat opcodeTable { session with recvQueue := rest } loop turn packet with
  | mk treated next =>
    have hfollows := iterate_taken hqueue htaken htreat
    unfold treat at htreat
    cases hverdict : verdict opcodeTable session.standing turn packet with
    | delayed =>
      rw [hverdict] at htreat
      cases htreat
      refine .inl ⟨player_of_delayed hverdict, hfollows.standing, hfollows.arrived, ?_,
        hfollows.deleted, hfollows.handled⟩
      rw [hfollows.left, left, requeued_of_update hupdate, hqueue]
      exact append_assoc _ _ _
    | called =>
      rw [hverdict] at htreat
      cases htreat
      exact .inr (hfollows.deletes hupdate hqueue rfl rfl rfl rfl (.inl ⟨hverdict, rfl, rfl⟩))
    | skipped =>
      rw [hverdict] at htreat
      cases htreat
      exact .inr (hfollows.deletes hupdate hqueue rfl rfl rfl rfl
        (.inr ⟨rfl, player_charEnum session.standing packet⟩))
    | refused =>
      rw [hverdict] at htreat
      cases htreat
      exact .inr (hfollows.deletes hupdate hqueue rfl rfl rfl rfl
        (.inr ⟨rfl, player_charEnum session.standing packet⟩))

theorem turn_cases (hupdate : session.update = some loop) :
    session.iterate opcodeTable loop turn = session.readd loop.requeuePackets ∨
      Delays session (session.iterate opcodeTable loop turn) ∨
      ∃ packet, Deletes opcodeTable session turn packet
        (session.iterate opcodeTable loop turn) := by
  rcases hqueue : session.recvQueue with _ | ⟨packet, rest⟩
  · apply Or.inl
    unfold iterate
    rw [hqueue]
  by_cases htaken : session.standing.socket = true ∧
      Process opcodeTable loop.updater session.standing packet = true
  case neg =>
    apply Or.inl
    unfold iterate
    rw [hqueue]
    exact if_neg htaken
  case pos =>
    apply Or.inr
    cases iterate_cases hupdate hqueue htaken with
    | inl hdelays => exact .inl hdelays
    | inr hdeletes => exact .inr ⟨packet, hdeletes⟩

theorem Delays.sound (hdelays : Delays session after) (hsound : session.Sound) : after.Sound := by
  refine ⟨?_, ?_, ?_⟩
  · rw [hdelays.deleted, hdelays.left, hdelays.arrived]
    exact hsound.accounted
  · rw [hdelays.left]
    exact hsound.ordered
  · rw [hdelays.handled, hdelays.deleted]
    exact hsound.handled

theorem Deletes.sound (hdeletes : Deletes opcodeTable session turn packet after)
    (hsound : session.Sound) : after.Sound := by
  obtain ⟨rest, hqueue, hleft⟩ := hdeletes.left
  have hbefore : session.left = session.requeued ++ packet :: rest := by
    rw [WorldSession.left, hqueue]
  refine ⟨?_, ?_, ?_⟩
  · have hacct := hsound.accounted
    rw [hbefore, map_append, map_cons] at hacct
    rw [hdeletes.deleted, hleft, hdeletes.arrived, map_append]
    rw [append_assoc, singleton_append]
    exact (perm_middle.symm.append_left session.deleted).trans hacct
  · have hord := hsound.ordered
    rw [hbefore] at hord
    rw [hleft]
    exact hord.sublist
      (((sublist_cons_self packet rest).append_left session.requeued).map _)
  · rw [hdeletes.deleted]
    cases hdeletes.handled with
    | inl hcalled =>
      rw [hcalled.2.1, map_append]
      exact hsound.handled.append_right _
    | inr hkept =>
      rw [hkept.1]
      exact hsound.handled.trans (sublist_append_left _ _)

theorem left_QueuePacket (opcode : ℕ) :
    (session.QueuePacket opcode).left = session.left ++ [⟨session.arrived, opcode⟩] :=
  (append_assoc _ _ _).symm

theorem Sound.number_lt (hsound : session.Sound) {number : ℕ}
    (hnumber : number ∈ session.deleted ++ session.left.map (·.number)) :
    number < session.arrived :=
  mem_range.1 (hsound.accounted.mem_iff.1 hnumber)

theorem Sound.QueuePacket (hsound : session.Sound) (opcode : ℕ) :
    (session.QueuePacket opcode).Sound := by
  refine ⟨?_, ?_, hsound.handled⟩
  · rw [left_QueuePacket, map_append]
    change (session.deleted ++ (session.left.map (·.number) ++ [session.arrived])).Perm
      (List.range (session.arrived + 1))
    rw [← append_assoc, range_succ]
    exact hsound.accounted.append_right _
  · rw [left_QueuePacket, map_append]
    apply pairwise_append.2
    refine ⟨hsound.ordered, pairwise_singleton _ _, ?_⟩
    intro number hnumber last hlast
    cases mem_singleton.1 hlast
    exact hsound.number_lt (mem_append_right _ hnumber)

theorem step_cases (hstep : step opcodeTable session op = some after) :
    match op with
    | .QueuePacket opcode => after = session.QueuePacket opcode
    | .Update updater =>
      session.update = none ∧ after = { session with update := some ⟨updater, [], 0⟩ }
    | .turn turn =>
      ∃ loop, session.update = some loop ∧ after = session.iterate opcodeTable loop turn
    | .between standing => session.update = none ∧ after = { session with standing := standing } := by
  cases op with
  | QueuePacket opcode => exact (Option.some.inj hstep).symm
  | Update | between =>
    cases hupdate : session.update with
    | some loop => simp [step, hupdate] at hstep
    | none =>
      simp only [step, hupdate, Option.some.injEq] at hstep
      exact ⟨rfl, hstep.symm⟩
  | turn turn =>
    cases hupdate : session.update with
    | none => simp [step, hupdate] at hstep
    | some loop =>
      simp only [step, hupdate, Option.some.injEq] at hstep
      exact ⟨loop, rfl, hstep.symm⟩

theorem Sound.step (hsound : session.Sound) (hstep : step opcodeTable session op = some after) :
    after.Sound := by
  have hcases := step_cases hstep
  cases op with
  | QueuePacket opcode =>
    rw [hcases]
    exact hsound.QueuePacket opcode
  | Update updater =>
    obtain ⟨hupdate, hafter⟩ := hcases
    have hleft : after.left = session.left := by
      rw [hafter, WorldSession.left, WorldSession.left, requeued, requeued, hupdate]
    rw [hafter] at hleft ⊢
    refine ⟨?_, ?_, hsound.handled⟩
    · rw [hleft]
      exact hsound.accounted
    · rw [hleft]
      exact hsound.ordered
  | turn turn =>
    obtain ⟨loop, hupdate, hafter⟩ := hcases
    rw [hafter]
    rcases turn_cases hupdate with hend | hdelays | ⟨packet, hdeletes⟩
    · rw [hend]
      exact hsound.readd hupdate
    · exact hdelays.sound hsound
    · exact hdeletes.sound hsound
  | between standing =>
    rw [hcases.2]
    exact ⟨hsound.accounted, hsound.ordered, hsound.handled⟩

theorem sound_of_reachable (hreach : ReachableSession opcodeTable session) : session.Sound :=
  hreach.invariant Sound (fun _ => Sound.of_isNew)
    fun _ _ _ hsound hstep => hsound.step hstep

/-! ## The packets of a player in the world -/

def loggedIn (opcodeTable : ℕ → ClientOpcodeHandler) (packet : WorldPacket) : Bool :=
  (opcodeTable packet.opcode).Status = .STATUS_LOGGEDIN

def handledLoggedIn (opcodeTable : ℕ → ClientOpcodeHandler) (session : WorldSession) : List ℕ :=
  (session.handled.filter (loggedIn opcodeTable)).map (·.number)

def NoLateLogin (session : WorldSession) : SessionOp → Prop
  | .turn turn => session.requeued ≠ [] → turn.handler.player ≠ some true
  | _ => True

/-- What was handled is in order and ahead of all that is left. A player comes into the
world only when nothing is set aside. -/
structure InOrder (opcodeTable : ℕ → ClientOpcodeHandler) (session : WorldSession) : Prop where
  handled : (session.handledLoggedIn opcodeTable).Pairwise (· < ·)
  ahead : ∀ number ∈ session.handledLoggedIn opcodeTable, ∀ packet ∈ session.left,
    number < packet.number
  waiting : session.requeued ≠ [] → session.standing.player ≠ some true

theorem player_of_called {standing : Standing}
    (hverdict : verdict opcodeTable standing turn packet = .called)
    (hloggedIn : loggedIn opcodeTable packet = true) : standing.player = some true := by
  have hstatus : (opcodeTable packet.opcode).Status = .STATUS_LOGGEDIN :=
    of_decide_eq_true hloggedIn
  unfold verdict at hverdict
  rw [hstatus] at hverdict
  dsimp only at hverdict
  split at hverdict
  · split at hverdict <;> cases hverdict
  rename_i isInWorld hplayer
  split at hverdict
  · rename_i hisInWorld
    rw [hplayer, hisInWorld]
  · cases hverdict

theorem handledLoggedIn_append (hhandled : after.handled = session.handled ++ [packet]) :
    after.handledLoggedIn opcodeTable = session.handledLoggedIn opcodeTable ++
      if loggedIn opcodeTable packet then [packet.number] else [] := by
  unfold handledLoggedIn
  rw [hhandled, filter_append, map_append, filter_singleton]
  cases loggedIn opcodeTable packet <;> rfl

theorem InOrder.of_isNew (hnew : session.IsNew) : InOrder opcodeTable session := by
  obtain ⟨hqueue, hupdate, -, -, hhandled⟩ := hnew
  have hnone : session.handledLoggedIn opcodeTable = [] := by
    unfold handledLoggedIn
    rw [hhandled]
    rfl
  refine ⟨?_, ?_, ?_⟩
  · rw [hnone]
    exact List.Pairwise.nil
  · rw [hnone]
    exact nofun
  · intro hrequeued
    apply absurd _ hrequeued
    unfold requeued
    rw [hupdate]

theorem InOrder.of_left (hinOrder : InOrder opcodeTable session)
    (hhandled : after.handled = session.handled) (hleft : ∀ packet ∈ after.left,
      packet ∈ session.left)
    (hwaiting : after.requeued ≠ [] → after.standing.player ≠ some true) :
    InOrder opcodeTable after := by
  have hsame : after.handledLoggedIn opcodeTable = session.handledLoggedIn opcodeTable := by
    unfold handledLoggedIn
    rw [hhandled]
  refine ⟨?_, ?_, hwaiting⟩
  · rw [hsame]
    exact hinOrder.handled
  · rw [hsame]
    exact fun number hnumber packet hpacket =>
      hinOrder.ahead number hnumber packet (hleft packet hpacket)

theorem InOrder.QueuePacket (hinOrder : InOrder opcodeTable session) (hsound : session.Sound)
    (opcode : ℕ) : InOrder opcodeTable (session.QueuePacket opcode) := by
  refine ⟨hinOrder.handled, ?_, hinOrder.waiting⟩
  intro number hnumber packet hpacket
  rw [left_QueuePacket] at hpacket
  rcases mem_append.1 hpacket with hold | hlast
  · exact hinOrder.ahead number hnumber packet hold
  cases mem_singleton.1 hlast
  apply hsound.number_lt
  apply mem_append_left
  apply hsound.handled.subset
  exact (filter_sublist.map _).subset hnumber

theorem Deletes.inOrder (hdeletes : Deletes opcodeTable session turn packet after)
    (hsound : session.Sound) (hinOrder : InOrder opcodeTable session)
    (hguard : session.requeued ≠ [] → turn.handler.player ≠ some true) :
    InOrder opcodeTable after := by
  obtain ⟨rest, hqueue, hleft⟩ := hdeletes.left
  have hbefore : session.left = session.requeued ++ packet :: rest := by
    rw [WorldSession.left, hqueue]
  have hless : ∀ waiting ∈ after.left, waiting ∈ session.left := by
    rw [hleft, hbefore]
    exact ((sublist_cons_self packet rest).append_left session.requeued).subset
  cases hdeletes.handled with
  | inr hkept =>
    apply hinOrder.of_left hkept.1 hless
    rw [hkept.2]
    exact fun hrequeued => hinOrder.waiting (hdeletes.requeued hrequeued)
  | inl hcalled =>
    obtain ⟨hverdict, hhandled, hstanding⟩ := hcalled
    have hwaiting : after.requeued ≠ [] → after.standing.player ≠ some true := by
      rw [hstanding]
      exact fun hrequeued => hguard (hdeletes.requeued hrequeued)
    have happend : after.handledLoggedIn opcodeTable = _ := handledLoggedIn_append hhandled
    cases hloggedIn : loggedIn opcodeTable packet with
    | false =>
      rw [hloggedIn] at happend
      have hsame : after.handledLoggedIn opcodeTable = session.handledLoggedIn opcodeTable :=
        happend.trans (append_nil _)
      refine ⟨?_, ?_, hwaiting⟩
      · rw [hsame]
        exact hinOrder.handled
      · rw [hsame]
        exact fun number hnumber waiting hmem =>
          hinOrder.ahead number hnumber waiting (hless waiting hmem)
    | true =>
      rw [hloggedIn, if_pos rfl] at happend
      -- the player is in the world, so that the packet was the first of all that is left
      have hnone : session.requeued = [] := by
        by_contra hrequeued
        exact hinOrder.waiting hrequeued (player_of_called hverdict hloggedIn)
      have hord := hsound.ordered
      rw [hbefore, hnone, nil_append, map_cons] at hord
      have hfirst : ∀ waiting ∈ after.left, packet.number < waiting.number := by
        rw [hleft, hnone, nil_append]
        exact fun waiting hmem =>
          rel_of_pairwise_cons hord (mem_map_of_mem hmem)
      have hpacket : packet ∈ session.left := by
        rw [hbefore]
        exact mem_append_right _ mem_cons_self
      refine ⟨?_, ?_, hwaiting⟩
      · rw [happend]
        apply pairwise_append.2
        refine ⟨hinOrder.handled, pairwise_singleton _ _, ?_⟩
        intro number hnumber last hlast
        cases mem_singleton.1 hlast
        exact hinOrder.ahead number hnumber packet hpacket
      · rw [happend]
        intro number hnumber waiting hmem
        cases mem_append.1 hnumber with
        | inl hold => exact hinOrder.ahead number hold waiting (hless waiting hmem)
        | inr hlast =>
          cases mem_singleton.1 hlast
          exact hfirst waiting hmem

theorem InOrder.step (hinOrder : InOrder opcodeTable session) (hsound : session.Sound)
    (hguard : session.NoLateLogin op) (hstep : step opcodeTable session op = some after) :
    InOrder opcodeTable after := by
  have hcases := step_cases hstep
  cases op with
  | QueuePacket opcode =>
    rw [hcases]
    exact hinOrder.QueuePacket hsound opcode
  | Update updater =>
    rw [hcases.2]
    apply hinOrder.of_left
    · rfl
    · intro packet hpacket
      exact mem_append_right _ hpacket
    · exact fun hrequeued => absurd rfl hrequeued
  | turn turn =>
    obtain ⟨loop, hupdate, hafter⟩ := hcases
    rw [hafter]
    rcases turn_cases hupdate with hend | hdelays | ⟨packet, hdeletes⟩
    · rw [hend]
      apply hinOrder.of_left
      · rfl
      · rw [left_readd hupdate]
        exact fun packet hpacket => hpacket
      · exact fun hrequeued => absurd rfl hrequeued
    · apply hinOrder.of_left hdelays.handled
      · rw [hdelays.left]
        exact fun packet hpacket => hpacket
      · rw [hdelays.standing, hdelays.player]
        exact fun _ => nofun
    · exact hdeletes.inOrder hsound hinOrder hguard
  | between standing =>
    obtain ⟨hupdate, hafter⟩ := hcases
    have hnone : after.requeued = [] := by
      rw [hafter]
      unfold requeued
      rw [hupdate]
    apply hinOrder.of_left
    · rw [hafter]
    · rw [hafter]
      exact fun packet hpacket => hpacket
    · exact fun hrequeued => absurd hnone hrequeued

/-- A packet is left or was deleted once, none is handled twice, what an update leaves is
in the order of arrival, and so are the handled packets for a player in the world. -/
structure PacketsHold (opcodeTable : ℕ → ClientOpcodeHandler) (session : WorldSession) :
    Prop where
  once : ∀ number < session.arrived,
    session.deleted.count number + (session.left.map (·.number)).count number = 1
  handledOnce : (session.handled.map (·.number)).Nodup
  remaining : session.update = none → (session.recvQueue.map (·.number)).Pairwise (· < ·)
  inOrder : (session.handledLoggedIn opcodeTable).Pairwise (· < ·)

theorem Sound.deleted_nodup (hsound : session.Sound) : session.deleted.Nodup :=
  (nodup_append.1 (hsound.accounted.nodup_iff.2 nodup_range)).1

theorem Sound.count (hsound : session.Sound) {number : ℕ} (hnumber : number < session.arrived) :
    session.deleted.count number + (session.left.map (·.number)).count number = 1 := by
  rw [← count_append, hsound.accounted.count_eq, nodup_range.count]
  exact if_pos (mem_range.2 hnumber)

theorem left_of_update (hupdate : session.update = none) : session.left = session.recvQueue := by
  unfold left requeued
  rw [hupdate]
  rfl

theorem packetsHold_of_reachable
    (hreach : Reachable IsNew (guarded NoLateLogin (computed (step opcodeTable))) session) :
    PacketsHold opcodeTable session := by
  have hsound := sound_of_reachable hreach.of_guarded
  have hinOrder : InOrder opcodeTable session := by
    apply hreach.invariant_of_reachable (InOrder opcodeTable) (fun _ => InOrder.of_isNew)
    intro before op after hbefore hinOrder hstep
    exact hinOrder.step (sound_of_reachable hbefore.of_guarded) hstep.1 hstep.2
  refine ⟨fun number => hsound.count, ?_, ?_, hinOrder.handled⟩
  · exact hsound.deleted_nodup.sublist hsound.handled
  · intro hupdate
    rw [← left_of_update hupdate]
    exact hsound.ordered

def loginOpcodes (opcode : ℕ) : ClientOpcodeHandler :=
  match opcode with
  | 0x03D => ⟨.STATUS_AUTHED, .PROCESS_THREADUNSAFE⟩
  | 0x069 => ⟨.STATUS_LOGGEDIN, .PROCESS_THREADUNSAFE⟩
  | 0x06E => ⟨.STATUS_LOGGEDIN, .PROCESS_THREADUNSAFE⟩
  | _ => ⟨.STATUS_NEVER, .PROCESS_INPLACE⟩

def atCharacters : WorldSession :=
  { standing := ⟨none, false, false, true⟩
    recvQueue := []
    update := none
    arrived := 0
    deleted := []
    handled := [] }

def played : Turn := ⟨true, true, ⟨some true, false, false, true⟩⟩

def loginBetween : List SessionOp :=
  [.QueuePacket 0x069, .Update .WorldSessionFilter, .turn ⟨true, true, atCharacters.standing⟩,
    .turn ⟨true, true, atCharacters.standing⟩, .QueuePacket 0x06E, .between played.handler,
    .Update .WorldSessionFilter, .turn played, .turn played]

def loginSecond : List SessionOp :=
  [.QueuePacket 0x069, .QueuePacket 0x03D, .QueuePacket 0x06E, .Update .WorldSessionFilter,
    .turn played, .turn played, .turn played, .turn played, .Update .WorldSessionFilter,
    .turn played]

theorem atCharacters_isNew : atCharacters.IsNew := ⟨rfl, rfl, rfl, rfl, rfl⟩

instance (session : WorldSession) (op : SessionOp) : Decidable (session.NoLateLogin op) :=
  match op with
  | .turn turn =>
    inferInstanceAs (Decidable (session.requeued ≠ [] → turn.handler.player ≠ some true))
  | .QueuePacket _ | .Update _ | .between _ => inferInstanceAs (Decidable True)

theorem loginBetween_holds :
    ∃ session, loginBetween.foldlM (step loginOpcodes) atCharacters = some session ∧
      session.handledLoggedIn loginOpcodes = [0, 1] ∧ PacketsHold loginOpcodes session := by
  have hrun : loginBetween.foldlM (tested NoLateLogin (step loginOpcodes)) atCharacters =
      some _ := rfl
  exact ⟨_, rfl, rfl, packetsHold_of_reachable
    (Reachable.tested_foldlM (.start atCharacters_isNew) hrun)⟩

/-- A login in the middle of an update lets a later packet overtake. -/
theorem loginSecond_overtakes : ¬ ∀ opcodeTable session, ReachableSession opcodeTable session →
      PacketsHold opcodeTable session := by
  intro hholds
  have hreach : ∀ session, loginSecond.foldlM (step loginOpcodes) atCharacters = some session →
      ReachableSession loginOpcodes session :=
    fun session => (Reachable.start atCharacters_isNew).foldlM
  have hinOrder := (hholds loginOpcodes _ (hreach _ rfl)).inOrder
  have hhandled : [2, 0].Pairwise (· < ·) := hinOrder
  exact absurd hhandled (by decide)

end AzerothCore.Sessions.Receiving.WorldSession
