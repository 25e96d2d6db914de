import AzerothCore.Collections.Reachability
import AzerothCore.Collections.StdMap
import Mathlib.Data.Int.Basic
import Mathlib.Data.List.TakeWhile

/-!
# The session queue of `World`

A session that comes to a full world waits in `_queuedPlayer`. How many sessions are
active is only known as the difference of the sizes of `_sessions` and of the queue.

A `WorldSession*` is a number that is used once. The sessions that are allocated are
kept by pointer, so a pointer to a deleted session has no record.
-/

namespace AzerothCore.Sessions

/-- `isPlayerAccount` is `AccountMgr::IsPlayerAccount` of the security, and `sentPosition`
the position in the queue that the client was told last. -/
structure WorldSession where
  GetAccountId : ℕ
  isPlayerAccount : Bool
  CanSkipQueue : Bool
  m_inQueue : Bool
  sentPosition : ℕ

/-- The player limit and `CONFIG_INTERVAL_DISCONNECT_TOLERANCE`. -/
structure WorldConfig where
  playerLimit : ℕ
  disconnectTolerance : ℕ

/-- What happens to sessions at the queue. A session that is initialized without waiting
is noted with whether it is exempt and who waits. -/
inductive QueueEvent where
  | queued (session : ℕ)
  | admitted (session : ℕ)
  | initialized (session : ℕ) (exempt : Bool) (waiting : List ℕ)

structure World where
  allocated : ℕ → Option WorldSession
  used : List ℕ
  sessions : StdMap ℕ ℕ
  offlineSessions : StdMap ℕ ℕ
  queuedPlayer : List ℕ
  disconnects : StdMap ℕ ℤ
  log : List QueueEvent

namespace World

def empty : World where
  allocated _ := none
  used := []
  sessions := .empty
  offlineSessions := .empty
  queuedPlayer := []
  disconnects := .empty
  log := []

variable (world : World)

def GetActiveAndQueuedSessionCount : ℕ := world.sessions.size

def GetActiveSessionCount : ℕ :=
  world.sessions.size - world.queuedPlayer.length

def modify (session : ℕ) (f : WorldSession → WorldSession) : World :=
  { world with
    allocated := Function.update world.allocated session ((world.allocated session).map f) }

def delete (session : ℕ) : World :=
  { world with allocated := Function.update world.allocated session none }

def note (event : QueueEvent) : World :=
  { world with log := world.log ++ [event] }

/-! ## `RemoveQueuedPlayer` -/

/-- `SendAuthWaitQueue` to the sessions from a position on. -/
def sendAuthWaitQueue : List ℕ → ℕ → World → World
  | [], _, world => world
  | session :: rest, position, world =>
    sendAuthWaitQueue rest (position + 1)
      (world.modify session fun data => { data with sentPosition := position })

variable (config : WorldConfig)

/-- The first in the queue is initialized when there is room, and everybody from the
iterator on is told the position. -/
def acceptFirst (world : World) (sessions : ℕ) (rest : List ℕ)
    (position : ℕ) : World :=
  match world.queuedPlayer with
  | [] => sendAuthWaitQueue rest position world
  | pop_sess :: queue =>
    if config.playerLimit = 0 ∨ sessions < config.playerLimit then
      sendAuthWaitQueue queue 1
        { world.note (.admitted pop_sess) with queuedPlayer := queue }
    else sendAuthWaitQueue rest position world

/-- Fails where the assertion does. -/
def RemoveQueuedPlayer (world : World) (sess : ℕ) : Option (World × Bool) :=
  let sessions := world.GetActiveSessionCount
  let skipped := world.queuedPlayer.takeWhile (· ≠ sess)
  match world.queuedPlayer.dropWhile (· ≠ sess) with
  | _ :: rest =>
    let left := world.modify sess fun data => { data with m_inQueue := false }
    some (acceptFirst config { left with queuedPlayer := skipped ++ rest } sessions rest
      (skipped.length + 1), true)
  | [] =>
    if 0 < sessions then
      some (acceptFirst config world (sessions - 1) [] (skipped.length + 1), false)
    else none

def GetQueuePos (sess : ℕ) : ℕ :=
  if sess ∈ world.queuedPlayer then world.queuedPlayer.idxOf sess + 1 else 0

def pushQueued (sess : ℕ) : World :=
  { world.modify sess fun data => { data with m_inQueue := true } with
    queuedPlayer := world.queuedPlayer ++ [sess] }

def AddQueuedPlayer (sess : ℕ) : World :=
  let queued := world.pushQueued sess
  (queued.modify sess fun data => { data with sentPosition := queued.GetQueuePos sess }).note
    (.queued sess)

/-- The loop of `HasRecentlyDisconnected`, which erases what is over. -/
def recentlyDisconnected (tolerance : ℕ) (now : ℤ) (account : ℕ) :
    List (ℕ × ℤ) → StdMap ℕ ℤ → Bool × StdMap ℕ ℤ
  | [], disconnects => (false, disconnects)
  | (other, time) :: rest, disconnects =>
    if now - time < tolerance then
      if other = account then (true, disconnects)
      else recentlyDisconnected tolerance now account rest disconnects
    else recentlyDisconnected tolerance now account rest (disconnects.erase other)

def HasRecentlyDisconnected (now : ℤ) (world : World) (account : ℕ) : Bool × StdMap ℕ ℤ :=
  if config.disconnectTolerance ≠ 0 then
    recentlyDisconnected config.disconnectTolerance now account world.disconnects.entries
      world.disconnects
  else (false, world.disconnects)

def noteDisconnect (now : ℤ) (world : World) (account : ℕ)
    (removed : Bool) : World :=
  if !removed ∧ config.disconnectTolerance ≠ 0 then
    { world with disconnects := world.disconnects.insert account now }
  else world

def putOffline (account session : ℕ) : World :=
  let world := match world.offlineSessions.find? account with
    | none => world
    | some tmp => world.delete tmp
  { world with offlineSessions := world.offlineSessions.insert account session }

/-- A session that leaves the map, when `HandleSocketClosed` returns true or false. -/
def retire (closed : Bool) (account session : ℕ) : World :=
  if closed then world.putOffline account session else world.delete session

/-- A session that comes, and what the world finds out about an older one of its account:
whether a character is being loaded on it, and what `HandleSocketClosed` returns. -/
structure Newcomer where
  session : ℕ
  account : ℕ
  isPlayerAccount : Bool
  canSkipQueue : Bool
  oldLoading : Bool
  oldSocketClosed : Bool
  now : ℤ

def create (newcomer : Newcomer) : World :=
  { world with
    allocated := Function.update world.allocated newcomer.session (some
      { GetAccountId := newcomer.account
        isPlayerAccount := newcomer.isPlayerAccount
        CanSkipQueue := newcomer.canSkipQueue
        m_inQueue := false
        sentPosition := 0 })
    used := newcomer.session :: world.used }

def enter (world : World) (newcomer : Newcomer) : World :=
  let s := newcomer.session
  let world := { world with sessions := world.sessions.insert newcomer.account s }
  let Sessions := world.GetActiveAndQueuedSessionCount - 1
  let exempt := !newcomer.isPlayerAccount || newcomer.canSkipQueue
  if 0 < config.playerLimit ∧ config.playerLimit ≤ Sessions ∧ !exempt then
    let (recently, disconnects) :=
      HasRecentlyDisconnected config newcomer.now world newcomer.account
    let world := { world with disconnects := disconnects }
    if recently then world.note (.initialized s true world.queuedPlayer)
    else world.AddQueuedPlayer s
  else world.note (.initialized s exempt world.queuedPlayer)

def AddSession_ (world : World) (newcomer : Newcomer) : Option World :=
  let created := world.create newcomer
  match world.sessions.find? newcomer.account with
  | none => some (created.enter config newcomer)
  | some oldSession =>
    if newcomer.oldLoading then some (created.delete newcomer.session)
    else
      match RemoveQueuedPlayer config created oldSession with
      | none => none
      | some (left, removed) =>
        let noted := noteDisconnect config newcomer.now left newcomer.account removed
        let gone := noted.retire newcomer.oldSocketClosed newcomer.account oldSession
        some (gone.enter config newcomer)

/-! ## `UpdateSessions` -/

/-- How the update of a session ends: it stays, its socket closed, or `Update` failed. -/
inductive Fate where
  | stays
  | socketClosed
  | updateFailed
  deriving DecidableEq

/-- The part of the loop for one session. -/
def updateSession (now : ℤ) (world : World) (account : ℕ) (fate : Fate) : Option World :=
  match world.sessions.find? account with
  | none => some world
  | some pSession =>
    if fate = .stays then some world
    else
      match RemoveQueuedPlayer config world pSession with
      | none => none
      | some (left, removed) =>
        let noted := noteDisconnect config now left account removed
        let erased := { noted with sessions := noted.sessions.erase account }
        some (erased.retire (fate == .socketClosed) account pSession)

def dropOffline (account : ℕ) : World :=
  match world.offlineSessions.find? account with
  | none => world
  | some pSession =>
    { world.delete pSession with offlineSessions := world.offlineSessions.erase account }

inductive WorldOp where
  | AddSession_ (newcomer : Newcomer)
  | updateSession (now : ℤ) (account : ℕ) (fate : Fate)
  | dropOffline (account : ℕ)

def step (world : World) : WorldOp → Option World
  | .AddSession_ newcomer => world.AddSession_ config newcomer
  | .updateSession now account fate => world.updateSession config now account fate
  | .dropOffline account => some (world.dropOffline account)

def UpdateSessions (now : ℤ) (world : World)
    (addSessQueue : List Newcomer) (fates : List (ℕ × Fate)) (gone : List ℕ) : Option World :=
  (addSessQueue.map WorldOp.AddSession_ ++
    fates.map (fun fate => WorldOp.updateSession now fate.1 fate.2) ++
    gone.map WorldOp.dropOffline).foldlM (step config) world

def Fresh : WorldOp → Prop
  | .AddSession_ newcomer => newcomer.session ∉ world.used
  | .updateSession _ _ _ | .dropOffline _ => True

def ReachableWorld : World → Prop :=
  Reachability.Reachable (· = empty)
    (Reachability.guarded Fresh (Reachability.computed (step config)))

end World

end AzerothCore.Sessions

/-!
## `RemoveQueuedPlayer` and the order of the queue

Whoever leaves the queue or the map is counted off before the first in the queue is let
in, so a world in which somebody waits has as many active sessions as its limit.
-/

namespace AzerothCore.Sessions.World
open List Option Function

variable {config : WorldConfig} {world : World} {session account : ℕ}

/-! ## What is known of the sessions -/

def accountOf (world : World) (session : ℕ) : Option ℕ :=
  (world.allocated session).map (·.GetAccountId)

/-- The position that a live session was told last. -/
def positionOf (world : World) (session : ℕ) : Option ℕ :=
  (world.allocated session).map (·.sentPosition)

variable (log : List QueueEvent)

def queuedOf : List ℕ :=
  log.filterMap fun event =>
    match event with
    | .queued session => some session
    | _ => none

def admittedOf : List ℕ :=
  log.filterMap fun event =>
    match event with
    | .admitted session => some session
    | _ => none

/-- The queue holds different registered sessions, in the order in which they were queued,
after those that were let in. -/
structure Core (world : World) : Prop where
  registered : ∀ account session, world.sessions.find? account = some session →
    world.accountOf session = some account
  offline : ∀ account session, world.offlineSessions.find? account = some session →
    world.accountOf session = some account ∧ world.sessions.find? account ≠ some session
  used : ∀ session, (world.accountOf session).isSome → session ∈ world.used
  nodup : world.queuedPlayer.Nodup
  queued : ∀ session ∈ world.queuedPlayer, ∃ account, world.sessions.find? account = some session
  order : (admittedOf world.log ++ world.queuedPlayer).Sublist (queuedOf world.log)
  once : (queuedOf world.log).Nodup
  known : ∀ session ∈ queuedOf world.log, session ∈ world.used
  newcomers : ∀ session exempt waiting, .initialized session exempt waiting ∈ world.log →
    exempt = true ∨ waiting = []

/-- While somebody waits there are enough active sessions, and everybody was told the
position. `spare` sessions of the map are about to leave it. -/
structure Consistent (config : WorldConfig) (spare : ℕ) (world : World) : Prop extends
    Core world where
  room : world.queuedPlayer ≠ [] →
    config.playerLimit + spare + world.queuedPlayer.length ≤ world.sessions.size
  sent : ∀ index session, world.queuedPlayer[index]? = some session →
    world.positionOf session = some (index + 1)

theorem consistent_empty : Consistent config 0 empty where
  registered account session hfind := by
    cases hfind
  offline account session hfind := by
    cases hfind
  used _ hlive := nomatch hlive
  nodup := nodup_nil
  queued _ hmem := nomatch hmem
  room hne := absurd rfl hne
  sent _ _ hget := nomatch hget
  order := List.Sublist.refl []
  once := nodup_nil
  known _ hmem := nomatch hmem
  newcomers _ _ _ hmem := nomatch hmem

variable {f : WorldSession → WorldSession}

theorem map_modify {α : Type*} (world : World) (session other : ℕ) {read : WorldSession → α}
    (hf : ∀ data, read (f data) = read data) :
    ((world.modify session f).allocated other).map read = (world.allocated other).map read := by
  change (Function.update world.allocated session _ other).map _ = (world.allocated other).map _
  by_cases hsame : other = session
  · subst hsame
    rw [update_self, Option.map_map]
    congr 1
    funext data
    exact hf data
  · rw [update_of_ne hsame]

theorem accountOf_modify (world : World) (session other : ℕ)
    (hf : ∀ data, (f data).GetAccountId = data.GetAccountId) :
    (world.modify session f).accountOf other = world.accountOf other :=
  map_modify world session other hf

theorem isSome_allocated : (world.allocated session).isSome = (world.accountOf session).isSome :=
  isSome_map.symm

structure Same (before after : World) : Prop where
  sessions : after.sessions = before.sessions
  offlineSessions : after.offlineSessions = before.offlineSessions
  used : after.used = before.used
  accountOf : ∀ session, after.accountOf session = before.accountOf session

theorem Core.congr {before after : World} (hcore : before.Core) (hsame : Same before after)
    (hqueue : after.queuedPlayer = before.queuedPlayer) (hlog : after.log = before.log) :
    after.Core where
  registered account session hfind := by
    rw [hsame.sessions] at hfind
    rw [hsame.accountOf]
    exact hcore.registered account session hfind
  offline account session hfind := by
    rw [hsame.offlineSessions] at hfind
    rw [hsame.accountOf, hsame.sessions]
    exact hcore.offline account session hfind
  used session hlive := by
    rw [hsame.accountOf] at hlive
    rw [hsame.used]
    exact hcore.used session hlive
  nodup := by
    rw [hqueue]
    exact hcore.nodup
  queued session hmem := by
    rw [hqueue] at hmem
    rw [hsame.sessions]
    exact hcore.queued session hmem
  order := by
    rw [hqueue, hlog]
    exact hcore.order
  once := by
    rw [hlog]
    exact hcore.once
  known session hmem := by
    rw [hlog] at hmem
    rw [hsame.used]
    exact hcore.known session hmem
  newcomers session exempt waiting hmem := by
    rw [hlog] at hmem
    exact hcore.newcomers session exempt waiting hmem

theorem Core.live (hcore : world.Core) (hmem : session ∈ world.queuedPlayer) :
    (world.accountOf session).isSome := by
  obtain ⟨account, hfind⟩ := hcore.queued session hmem
  rw [hcore.registered account session hfind]
  rfl

theorem sendAuthWaitQueue_eq (rest : List ℕ) (position : ℕ) (world : World) :
    ∃ allocated, sendAuthWaitQueue rest position world = { world with allocated := allocated } ∧
      (∀ other, (sendAuthWaitQueue rest position world).accountOf other = world.accountOf other) ∧
      (∀ other ∉ rest, allocated other = world.allocated other) ∧
      (rest.Nodup → ∀ index other, rest[index]? = some other → (world.accountOf other).isSome →
          (allocated other).map (·.sentPosition) = some (position + index)) := by
  induction rest generalizing position world with
  | nil =>
    refine ⟨world.allocated, rfl, fun _ => rfl, fun _ _ => rfl, fun _ index other hget => ?_⟩
    cases hget
  | cons session rest ih =>
    obtain ⟨allocated, heq, haccounts, hothers, hsent⟩ := ih (position + 1)
      (world.modify session fun data => { data with sentPosition := position })
    have hmodify (other : ℕ) : (world.modify session fun data =>
        { data with sentPosition := position }).accountOf other = world.accountOf other :=
      accountOf_modify world session other fun _ => rfl
    refine ⟨allocated, heq, ?_, ?_, ?_⟩
    · intro other
      exact (haccounts other).trans (hmodify other)
    · intro other hother
      rw [hothers other (not_mem_of_not_mem_cons hother)]
      exact update_of_ne (ne_of_not_mem_cons hother) _ _
    · intro hnodup index other hget hlive
      obtain ⟨hnot, hrest⟩ := nodup_cons.mp hnodup
      cases index with
      | zero =>
        cases hget
        rw [hothers session hnot]
        rw [← isSome_allocated] at hlive
        obtain ⟨data, hdata⟩ := isSome_iff_exists.mp hlive
        change (Function.update world.allocated session _ session).map _ = _
        rw [update_self, hdata]
        rfl
      | succ index =>
        rw [← hmodify other] at hlive
        rw [hsent hrest index other hget hlive]
        congr 1
        omega

theorem same_sendAuthWaitQueue (rest : List ℕ) (position : ℕ) (world : World) :
    Same world (sendAuthWaitQueue rest position world) ∧
      (sendAuthWaitQueue rest position world).queuedPlayer = world.queuedPlayer ∧
      (sendAuthWaitQueue rest position world).log = world.log := by
  obtain ⟨allocated, heq, haccounts, -, -⟩ := sendAuthWaitQueue_eq rest position world
  refine ⟨⟨?_, ?_, ?_, haccounts⟩, ?_, ?_⟩ <;> rw [heq]

theorem sent_sendAuthWaitQueue {skipped rest : List ℕ} (hcore : world.Core)
    (hqueue : world.queuedPlayer = skipped ++ rest)
    (hskipped : ∀ index session, skipped[index]? = some session →
      world.positionOf session = some (index + 1))
    (index session : ℕ) (hget : world.queuedPlayer[index]? = some session) :
    (sendAuthWaitQueue rest (skipped.length + 1) world).positionOf session = some (index + 1) := by
  obtain ⟨allocated, heq, -, hothers, hsent⟩ := sendAuthWaitQueue_eq rest (skipped.length + 1) world
  have hnodup := hcore.nodup
  have hlive := hcore.live (mem_of_getElem? hget)
  rw [hqueue] at hget hnodup
  obtain ⟨-, hrest, hdisj⟩ := nodup_append.mp hnodup
  rw [heq]
  change (allocated session).map (·.sentPosition) = some (index + 1)
  by_cases hbefore : index < skipped.length
  · rw [List.getElem?_append_left hbefore] at hget
    have hnot : session ∉ rest := fun hmem =>
      hdisj session (mem_of_getElem? hget) session hmem rfl
    rw [hothers session hnot]
    exact hskipped index session hget
  · have hle := Nat.not_lt.mp hbefore
    rw [List.getElem?_append_right hle] at hget
    rw [hsent hrest _ session hget hlive]
    congr 1
    omega

theorem queuedOf_append_admitted (session : ℕ) :
    queuedOf (log ++ [.admitted session]) = queuedOf log := by
  rw [queuedOf, filterMap_append]
  exact append_nil _

theorem admittedOf_append_admitted (session : ℕ) :
    admittedOf (log ++ [.admitted session]) = admittedOf log ++ [session] := by
  rw [admittedOf, filterMap_append]
  rfl

theorem Core.admit (hcore : world.Core) {queue : List ℕ}
    (hqueue : world.queuedPlayer = session :: queue) :
    Core { world.note (.admitted session) with queuedPlayer := queue } where
  registered := hcore.registered
  offline := hcore.offline
  used := hcore.used
  nodup := by
    have hnodup := hcore.nodup
    rw [hqueue] at hnodup
    exact (nodup_cons.mp hnodup).2
  queued other hmem := by
    apply hcore.queued other
    rw [hqueue]
    exact mem_cons_of_mem _ hmem
  order := by
    have horder := hcore.order
    rw [hqueue] at horder
    change (admittedOf (world.log ++ [.admitted session]) ++ queue).Sublist
      (queuedOf (world.log ++ [.admitted session]))
    rw [queuedOf_append_admitted, admittedOf_append_admitted, append_assoc]
    exact horder
  once := by
    change (queuedOf (world.log ++ [.admitted session])).Nodup
    rw [queuedOf_append_admitted]
    exact hcore.once
  known other hmem := by
    change other ∈ queuedOf (world.log ++ [.admitted session]) at hmem
    rw [queuedOf_append_admitted] at hmem
    exact hcore.known other hmem
  newcomers other exempt waiting hmem := by
    rcases mem_append.mp hmem with hold | hnew
    · exact hcore.newcomers other exempt waiting hold
    · exact nomatch mem_singleton.mp hnew

theorem Core.acceptFirst {skipped rest : List ℕ} {count : ℕ} (hcore : world.Core)
    (hqueue : world.queuedPlayer = skipped ++ rest)
    (hskipped : ∀ index session, skipped[index]? = some session →
      world.positionOf session = some (index + 1))
    (hcount : count + 1 + world.queuedPlayer.length = world.sessions.size)
    (hroom : world.queuedPlayer ≠ [] → config.playerLimit ≤ count + 1) :
    Consistent config 1 (acceptFirst config world count rest (skipped.length + 1)) ∧
      Same world (acceptFirst config world count rest (skipped.length + 1)) ∧
      (acceptFirst config world count rest (skipped.length + 1)).queuedPlayer ⊆
        world.queuedPlayer ∧
      queuedOf (acceptFirst config world count rest (skipped.length + 1)).log =
        queuedOf world.log := by
  have hstay : (world.queuedPlayer ≠ [] → config.playerLimit ≤ count) →
      Consistent config 1 (sendAuthWaitQueue rest (skipped.length + 1) world) ∧
        Same world (sendAuthWaitQueue rest (skipped.length + 1) world) ∧
        (sendAuthWaitQueue rest (skipped.length + 1) world).queuedPlayer ⊆
          world.queuedPlayer ∧
        queuedOf (sendAuthWaitQueue rest (skipped.length + 1) world).log = queuedOf world.log := by
    intro hfull
    obtain ⟨hsame, hqueueSame, hlog⟩ := same_sendAuthWaitQueue rest (skipped.length + 1) world
    refine ⟨⟨hcore.congr hsame hqueueSame hlog, ?_, ?_⟩, hsame, ?_, by rw [hlog]⟩
    · rw [hqueueSame, hsame.sessions]
      intro hne
      have hlimit := hfull hne
      omega
    · rw [hqueueSame]
      exact sent_sendAuthWaitQueue hcore hqueue hskipped
    · rw [hqueueSame]
      exact List.Subset.refl _
  unfold World.acceptFirst
  split
  case h_1 hnil => exact hstay fun hne => absurd hnil hne
  rename_i pop_sess queue hcons
  split
  case isFalse hfull =>
    apply hstay
    intro _
    exact Nat.not_lt.mp fun hlt => hfull (.inr hlt)
  have hadmitted := hcore.admit hcons
  obtain ⟨hsame, hqueueSame, hlog⟩ := same_sendAuthWaitQueue queue 1
    { world.note (.admitted pop_sess) with queuedPlayer := queue }
  have hlimit := hroom (by rw [hcons]; exact cons_ne_nil _ _)
  rw [hcons, length_cons] at hcount
  refine ⟨⟨hadmitted.congr hsame hqueueSame hlog, ?_, ?_⟩,
    ⟨hsame.sessions, hsame.offlineSessions, hsame.used, hsame.accountOf⟩, ?_, ?_⟩
  · rw [hqueueSame, hsame.sessions]
    intro _
    change _ + 1 + queue.length ≤ world.sessions.size
    omega
  · rw [hqueueSame]
    exact @sent_sendAuthWaitQueue _ [] queue hadmitted rfl nofun
  · rw [hqueueSame, hcons]
    exact subset_cons_self _ _
  · rw [hlog]
    exact queuedOf_append_admitted _ _

theorem length_le_size {list : List ℕ} (hnodup : list.Nodup)
    (hreg : ∀ session ∈ list, ∃ account, world.sessions.find? account = some session) :
    list.length ≤ world.sessions.size := by
  have hvalues : ∀ session ∈ list, session ∈ world.sessions.entries.map Prod.snd := by
    intro session hmem
    obtain ⟨account, hfind⟩ := hreg session hmem
    exact List.mem_map.mpr ⟨(account, session), StdMap.find?_eq_some_iff.mp hfind, rfl⟩
  calc
    list.length ≤ (world.sessions.entries.map Prod.snd).length :=
      (subperm_of_subset hnodup hvalues).length_le
    _ = world.sessions.size := length_map _

theorem positionOf_modify (world : World) (session other : ℕ)
    (hf : ∀ data, (f data).sentPosition = data.sentPosition) :
    (world.modify session f).positionOf other = world.positionOf other :=
  map_modify world session other hf

theorem Core.leave (hcore : world.Core) {skipped rest : List ℕ}
    (hqueue : world.queuedPlayer = skipped ++ session :: rest) :
    Core { world.modify session fun data => { data with m_inQueue := false } with
      queuedPlayer := skipped ++ rest } := by
  have hsub : (skipped ++ rest).Sublist world.queuedPlayer := by
    rw [hqueue]
    exact (sublist_cons_self session rest).append_left skipped
  have hleft : Core { world with queuedPlayer := skipped ++ rest } := { hcore with
      nodup := hcore.nodup.sublist hsub
      queued := fun other hmem => hcore.queued other (hsub.subset hmem)
      order := (hsub.append_left _).trans hcore.order }
  refine hleft.congr ⟨rfl, rfl, rfl, fun other => ?_⟩ rfl rfl
  exact accountOf_modify world session other fun _ => rfl

/-- The assertion of `RemoveQueuedPlayer` holds for a session of the map, and the session
is not queued afterwards. -/
theorem Consistent.removeQueuedPlayer {old : ℕ} (hcons : Consistent config 0 world)
    (hfind : world.sessions.find? account = some old) :
    ∃ left removed, RemoveQueuedPlayer config world old = some (left, removed) ∧
      Consistent config 1 left ∧ Same world left ∧ old ∉ left.queuedPlayer ∧
      queuedOf left.log = queuedOf world.log := by
  have hcore := hcons.toCore
  have hsplit : world.queuedPlayer = world.queuedPlayer.takeWhile (· ≠ old) ++
      world.queuedPlayer.dropWhile (· ≠ old) := takeWhile_append_dropWhile.symm
  have hskipped : ∀ index session, (world.queuedPlayer.takeWhile (· ≠ old))[index]? = some session →
        world.positionOf session = some (index + 1) := by
    intro index session hget
    apply hcons.sent
    rw [hsplit, List.getElem?_append_left (List.getElem?_eq_some_iff.mp hget).1]
    exact hget
  unfold RemoveQueuedPlayer
  dsimp only
  cases hrest : world.queuedPlayer.dropWhile (· ≠ old) with
  | nil =>
    rw [hrest, append_nil] at hsplit
    have hnot : old ∉ world.queuedPlayer := by
      rw [hsplit]
      intro hmem
      have hkept := @mem_takeWhile_imp ℕ (fun other => decide (other ≠ old)) _ old hmem
      exact of_decide_eq_true hkept rfl
    have hlen : world.queuedPlayer.length + 1 ≤ world.sessions.size := by
      apply length_le_size (nodup_cons.mpr ⟨hnot, hcore.nodup⟩)
      intro session hmem
      rcases mem_cons.mp hmem with rfl | hin
      · exact ⟨account, hfind⟩
      · exact hcore.queued session hin
    have hactive : 0 < world.GetActiveSessionCount := by
      unfold GetActiveSessionCount
      omega
    obtain ⟨hconsistent, hsame, hsubset, hlog⟩ := @Core.acceptFirst config world
      (world.queuedPlayer.takeWhile (· ≠ old)) [] (world.GetActiveSessionCount - 1) hcore
      (by rw [append_nil]; exact hsplit) hskipped
      (by unfold GetActiveSessionCount; omega)
      (by
        intro hne
        have hroom := hcons.room hne
        unfold GetActiveSessionCount
        omega)
    rw [if_pos hactive]
    exact ⟨_, false, rfl, hconsistent, hsame, fun hmem => hnot (hsubset hmem), hlog⟩
  | cons first rest =>
    have hfirst : first = old := by
      have hhead := List.head?_dropWhile_not (fun other => decide (other ≠ old))
        world.queuedPlayer
      rw [hrest] at hhead
      exact not_not.mp (of_decide_eq_false hhead)
    rw [hrest, hfirst] at hsplit
    have hleave := hcore.leave hsplit
    have hlen := congrArg List.length hsplit
    rw [length_append, length_cons] at hlen
    have hwaiting : world.queuedPlayer ≠ [] := by
      rw [hsplit]
      exact append_ne_nil_of_right_ne_nil _ (cons_ne_nil _ _)
    have hroom := hcons.room hwaiting
    have haccount (other : ℕ) : (world.modify old fun data =>
        { data with m_inQueue := false }).accountOf other = world.accountOf other :=
      accountOf_modify world old other fun _ => rfl
    obtain ⟨hconsistent, hsame, hsubset, hlog⟩ := @Core.acceptFirst config _
      (world.queuedPlayer.takeWhile (· ≠ old)) rest world.GetActiveSessionCount hleave rfl
      (by
        intro index session hget
        have hpos : (world.modify old fun data =>
            { data with m_inQueue := false }).positionOf session = world.positionOf session :=
          positionOf_modify world old session fun _ => rfl
        exact hpos.trans (hskipped index session hget))
      (by
        change _ + 1 + (_ ++ rest).length = world.sessions.size
        rw [length_append]
        unfold GetActiveSessionCount
        omega)
      (by
        unfold GetActiveSessionCount
        omega)
    refine ⟨_, true, rfl, hconsistent, ⟨hsame.sessions, hsame.offlineSessions, hsame.used,
      fun other => (hsame.accountOf other).trans (haccount other)⟩, ?_, hlog⟩
    intro hmem
    have hnodup := hcore.nodup
    rw [hsplit] at hnodup
    obtain ⟨-, hrestNodup, hdisj⟩ := nodup_append.mp hnodup
    rcases mem_append.mp (hsubset hmem) with hbefore | hafter
    · exact hdisj old hbefore old mem_cons_self rfl
    · exact (nodup_cons.mp hrestNodup).1 hafter

end AzerothCore.Sessions.World

/-! ## Sessions that leave the world and come to it -/

namespace AzerothCore.Sessions.World
open List Option Function StdMap

variable {config : WorldConfig} {world : World} {session account : ℕ}

/-! ## Sessions that leave the maps -/

def Unheld (world : World) (session : ℕ) : Prop :=
  ∀ account, world.sessions.find? account ≠ some session ∧
    world.offlineSessions.find? account ≠ some session

variable {spare : ℕ}

theorem Consistent.eraseSession {old : ℕ} (hcons : Consistent config 1 world)
    (hfind : world.sessions.find? account = some old) (hnot : old ∉ world.queuedPlayer) :
    Consistent config 0 { world with sessions := world.sessions.erase account } where
  registered other session hother := by
    rw [find?_erase] at hother
    split at hother
    · cases hother
    · exact hcons.registered other session hother
  offline other session hother := by
    refine ⟨(hcons.offline other session hother).1, ?_⟩
    rw [find?_erase]
    split
    · exact nofun
    · exact (hcons.offline other session hother).2
  used := hcons.used
  nodup := hcons.nodup
  queued session hmem := by
    obtain ⟨other, hother⟩ := hcons.queued session hmem
    refine ⟨other, ?_⟩
    rw [find?_erase, if_neg]
    · exact hother
    · rintro rfl
      apply hnot
      rw [some.inj (hfind.symm.trans hother)]
      exact hmem
  order := hcons.order
  once := hcons.once
  known := hcons.known
  newcomers := hcons.newcomers
  room hne := by
    have hroom := hcons.room hne
    have hsize := size_erase_of_mem (mem_of_find? hfind)
    change _ + 0 + world.queuedPlayer.length ≤ (world.sessions.erase account).size
    omega
  sent := hcons.sent

/-- After it left the map, an active session is held by neither map. -/
theorem Core.unheld_erase {old : ℕ} (hcore : world.Core)
    (hfind : world.sessions.find? account = some old) :
    Unheld { world with sessions := world.sessions.erase account } old := by
  have haccount := hcore.registered account old hfind
  intro other
  constructor
  · rw [find?_erase]
    split
    · exact nofun
    rename_i hne
    intro hother
    exact hne (some.inj (haccount.symm.trans (hcore.registered other old hother)))
  · intro hother
    obtain ⟨hsame, hnot⟩ := hcore.offline other old hother
    apply hnot
    rw [← some.inj (haccount.symm.trans hsame)]
    exact hfind

theorem accountOf_delete_ne {other : ℕ} (hne : other ≠ session) :
    (world.delete session).accountOf other = world.accountOf other :=
  congrArg (Option.map _) (update_of_ne hne _ _)

theorem Consistent.delete (hcons : Consistent config spare world)
    (hunheld : world.Unheld session) : Consistent config spare (world.delete session) where
  registered other held hfind := by
    rw [accountOf_delete_ne]
    · exact hcons.registered other held hfind
    · rintro rfl
      exact (hunheld other).1 hfind
  offline other held hfind := by
    rw [accountOf_delete_ne]
    · exact hcons.offline other held hfind
    · rintro rfl
      exact (hunheld other).2 hfind
  used other hlive := by
    apply hcons.used other
    by_cases hsame : other = session
    · subst hsame
      change ((Function.update world.allocated other none other).map _).isSome = true at hlive
      rw [update_self] at hlive
      cases hlive
    · rw [accountOf_delete_ne hsame] at hlive
      exact hlive
  nodup := hcons.nodup
  queued := hcons.queued
  order := hcons.order
  once := hcons.once
  known := hcons.known
  newcomers := hcons.newcomers
  room := hcons.room
  sent index other hget := by
    have hne : other ≠ session := by
      rintro rfl
      obtain ⟨account, hfind⟩ := hcons.queued other (mem_of_getElem? hget)
      exact (hunheld account).1 hfind
    rw [← hcons.sent index other hget]
    exact congrArg (Option.map _) (update_of_ne hne _ _)

theorem Consistent.eraseOffline {tmp : ℕ} (hcons : Consistent config spare world)
    (hfind : world.offlineSessions.find? account = some tmp) :
    Consistent config spare
        { world with offlineSessions := world.offlineSessions.erase account } ∧
      Unheld { world with offlineSessions := world.offlineSessions.erase account } tmp := by
  obtain ⟨haccount, hnot⟩ := hcons.offline account tmp hfind
  constructor
  · refine { hcons with offline := fun other session hother => ?_ }
    rw [find?_erase] at hother
    split at hother
    · cases hother
    · exact hcons.offline other session hother
  · intro other
    constructor
    · intro hother
      have hsame := haccount.symm.trans (hcons.registered other tmp hother)
      apply hnot
      rw [some.inj hsame]
      exact hother
    · rw [find?_erase]
      split
      · exact nofun
      rename_i hne
      intro hother
      have hsame := haccount.symm.trans (hcons.offline other tmp hother).1
      exact hne (some.inj hsame)

theorem Consistent.dropOffline (hcons : Consistent config spare world) (account : ℕ) :
    Consistent config spare (world.dropOffline account) := by
  unfold World.dropOffline
  split
  · exact hcons
  rename_i tmp hfind
  obtain ⟨herased, hunheld⟩ := hcons.eraseOffline hfind
  exact herased.delete hunheld

theorem Consistent.putOffline (hcons : Consistent config spare world)
    (haccount : world.accountOf session = some account) (hunheld : world.Unheld session) :
    Consistent config spare (world.putOffline account session) := by
  have hinsert : ∀ world : World, Consistent config spare world →
      world.accountOf session = some account →
      (∀ account, world.sessions.find? account ≠ some session) →
      Consistent config spare
        { world with offlineSessions := world.offlineSessions.insert account session } := by
    intro world hcons haccount hnot
    refine { hcons with offline := fun other held hother => ?_ }
    rw [find?_insert] at hother
    split at hother
    case isFalse => exact hcons.offline other held hother
    rename_i hsame
    subst hsame
    cases hother
    exact ⟨haccount, hnot account⟩
  unfold World.putOffline
  rcases htmp : world.offlineSessions.find? account with _ | tmp
  · exact hinsert world hcons haccount fun other => (hunheld other).1
  obtain ⟨herased, htmpUnheld⟩ := hcons.eraseOffline htmp
  have hne : session ≠ tmp := by
    rintro rfl
    exact (hunheld account).2 htmp
  have hput := hinsert _ (herased.delete htmpUnheld)
    ((accountOf_delete_ne hne).trans haccount) fun other => (hunheld other).1
  have hstored : Consistent config spare { world.delete tmp with
      offlineSessions := world.offlineSessions.insert account session } := by
    rw [← insert_erase_self]
    exact hput
  exact hstored

theorem Consistent.insertSession (hcons : Consistent config 0 world)
    (haccount : world.accountOf session = some account) (hunheld : world.Unheld session)
    (hnone : world.sessions.find? account = none) :
    Consistent config 1 { world with sessions := world.sessions.insert account session } where
  registered other held hother := by
    rw [find?_insert] at hother
    split at hother
    case isFalse => exact hcons.registered other held hother
    rename_i hsame
    subst hsame
    cases hother
    exact haccount
  offline other held hother := by
    refine ⟨(hcons.offline other held hother).1, ?_⟩
    rw [find?_insert]
    split
    · intro hsame
      cases hsame
      exact (hunheld other).2 hother
    · exact (hcons.offline other held hother).2
  used := hcons.used
  nodup := hcons.nodup
  queued held hmem := by
    obtain ⟨other, hother⟩ := hcons.queued held hmem
    refine ⟨other, ?_⟩
    rw [find?_insert, if_neg]
    · exact hother
    · rintro rfl
      exact nomatch hnone.symm.trans hother
  order := hcons.order
  once := hcons.once
  known := hcons.known
  newcomers := hcons.newcomers
  room hne := by
    have hroom := hcons.room hne
    have hsize := size_insert_of_not_mem session (find?_eq_none_iff.mp hnone)
    change _ + 1 + world.queuedPlayer.length ≤ (world.sessions.insert account session).size
    omega
  sent := hcons.sent

theorem Consistent.setDisconnects (hcons : Consistent config spare world)
    (disconnects : StdMap ℕ ℤ) :
    Consistent config spare { world with disconnects := disconnects } :=
  { hcons with }

theorem Consistent.weaken (hcons : Consistent config 1 world) : Consistent config 0 world :=
  { hcons with
    room := fun hne => by
      have hroom := hcons.room hne
      omega }

variable (log : List QueueEvent)

theorem queuedOf_append_initialized (session : ℕ) (exempt : Bool)
    (waiting : List ℕ) :
    queuedOf (log ++ [.initialized session exempt waiting]) = queuedOf log := by
  rw [queuedOf, filterMap_append]
  exact append_nil _

theorem admittedOf_append_initialized (session : ℕ) (exempt : Bool)
    (waiting : List ℕ) :
    admittedOf (log ++ [.initialized session exempt waiting]) = admittedOf log := by
  rw [admittedOf, filterMap_append]
  exact append_nil _

theorem Consistent.noteInitialized (hcons : Consistent config spare world) {exempt : Bool}
    (hexempt : exempt = true ∨ world.queuedPlayer = []) :
    Consistent config spare (world.note (.initialized session exempt world.queuedPlayer)) where
  registered := hcons.registered
  offline := hcons.offline
  used := hcons.used
  nodup := hcons.nodup
  queued := hcons.queued
  order := by
    change (admittedOf (world.log ++ _) ++ world.queuedPlayer).Sublist (queuedOf (world.log ++ _))
    rw [queuedOf_append_initialized, admittedOf_append_initialized]
    exact hcons.order
  once := by
    change (queuedOf (world.log ++ _)).Nodup
    rw [queuedOf_append_initialized]
    exact hcons.once
  known other hmem := by
    change other ∈ queuedOf (world.log ++ _) at hmem
    rw [queuedOf_append_initialized] at hmem
    exact hcons.known other hmem
  newcomers other otherExempt waiting hmem := by
    rcases mem_append.mp hmem with hold | hnew
    · exact hcons.newcomers other otherExempt waiting hold
    · obtain ⟨-, rfl, rfl⟩ := QueueEvent.initialized.inj (mem_singleton.mp hnew)
      exact hexempt
  room := hcons.room
  sent := hcons.sent

theorem queuedOf_append_queued (session : ℕ) :
    queuedOf (log ++ [.queued session]) = queuedOf log ++ [session] := by
  rw [queuedOf, filterMap_append]
  rfl

theorem admittedOf_append_queued (session : ℕ) :
    admittedOf (log ++ [.queued session]) = admittedOf log := by
  rw [admittedOf, filterMap_append]
  exact append_nil _

theorem accountOf_addQueuedPlayer (other : ℕ) :
    (world.AddQueuedPlayer session).accountOf other = world.accountOf other := by
  calc
    (world.AddQueuedPlayer session).accountOf other
        = (world.pushQueued session).accountOf other :=
      accountOf_modify (world.pushQueued session) session other fun _ => rfl
    _ = world.accountOf other := accountOf_modify world session other fun _ => rfl

theorem positionOf_addQueuedPlayer_ne {other : ℕ} (hne : other ≠ session) :
    (world.AddQueuedPlayer session).positionOf other = world.positionOf other := by
  change (Function.update (Function.update world.allocated session _) session _ other).map _ =
    (world.allocated other).map _
  rw [update_of_ne hne, update_of_ne hne]

theorem positionOf_addQueuedPlayer_self (hlive : (world.accountOf session).isSome)
    (hnot : session ∉ world.queuedPlayer) :
    (world.AddQueuedPlayer session).positionOf session = some (world.queuedPlayer.length + 1) := by
  have hpos : (world.pushQueued session).GetQueuePos session = world.queuedPlayer.length + 1 := by
    unfold GetQueuePos pushQueued
    rw [if_pos (mem_append_right _ (mem_singleton_self session)),
      idxOf_append_of_notMem hnot, idxOf_cons_self]
  rw [← isSome_allocated] at hlive
  obtain ⟨data, hdata⟩ := isSome_iff_exists.mp hlive
  rw [← hpos]
  change (Function.update (Function.update world.allocated session _) session
    ((Function.update world.allocated session _ session).map _) session).map _ = _
  rw [update_self, update_self, hdata]
  rfl

theorem Consistent.addQueuedPlayer (hcons : Consistent config 1 world)
    (hfind : world.sessions.find? account = some session)
    (hnot : session ∉ world.queuedPlayer) (hnew : session ∉ queuedOf world.log)
    (hfull : config.playerLimit + 1 ≤ world.sessions.size) :
    Consistent config 0 (world.AddQueuedPlayer session) := by
  have hcore := hcons.toCore
  have hlive : (world.accountOf session).isSome := by
    rw [hcore.registered account session hfind]
    rfl
  have haccount := @accountOf_addQueuedPlayer world session
  have hqueued : Core { world with
      queuedPlayer := world.queuedPlayer ++ [session]
      log := world.log ++ [.queued session] } := by
    refine { hcore with nodup := ?_, queued := ?_, order := ?_, once := ?_, known := ?_,
                        newcomers := ?_ }
    · rw [nodup_append]
      refine ⟨hcore.nodup, nodup_singleton _, fun first hfirst second hsecond => ?_⟩
      rw [mem_singleton.mp hsecond]
      rintro rfl
      exact hnot hfirst
    · intro other hmem
      rcases mem_append.mp hmem with hold | hlast
      · exact hcore.queued other hold
      · rw [mem_singleton.mp hlast]
        exact ⟨account, hfind⟩
    · rw [queuedOf_append_queued, admittedOf_append_queued, ← append_assoc]
      exact hcore.order.append_right [session]
    · rw [queuedOf_append_queued, nodup_append]
      refine ⟨hcore.once, nodup_singleton _, fun first hfirst second hsecond => ?_⟩
      rw [mem_singleton.mp hsecond]
      rintro rfl
      exact hnew hfirst
    · intro other hmem
      rw [queuedOf_append_queued] at hmem
      rcases mem_append.mp hmem with hold | hlast
      · exact hcore.known other hold
      · rw [mem_singleton.mp hlast]
        exact hcore.used session hlive
    · intro other exempt waiting hmem
      rcases mem_append.mp hmem with hold | hlast
      · exact hcore.newcomers other exempt waiting hold
      · exact nomatch mem_singleton.mp hlast
  refine ⟨hqueued.congr ⟨rfl, rfl, rfl, haccount⟩ rfl rfl, fun _ => ?_, ?_⟩
  · change _ + 0 + (world.queuedPlayer ++ [session]).length ≤ world.sessions.size
    rw [length_append, length_singleton]
    by_cases hempty : world.queuedPlayer = []
    · rw [hempty]
      exact hfull
    · have hroom := hcons.room hempty
      omega
  · intro index other hget
    change (world.queuedPlayer ++ [session])[index]? = some other at hget
    by_cases hbefore : index < world.queuedPlayer.length
    · rw [List.getElem?_append_left hbefore] at hget
      rw [positionOf_addQueuedPlayer_ne]
      · exact hcons.sent index other hget
      · rintro rfl
        exact hnot (mem_of_getElem? hget)
    rw [List.getElem?_append_right (Nat.not_lt.mp hbefore)] at hget
    rw [List.getElem?_singleton] at hget
    split at hget
    case isFalse => cases hget
    rename_i hlast
    cases hget
    rw [positionOf_addQueuedPlayer_self hlive hnot]
    congr 1
    omega

theorem Consistent.enter {newcomer : Newcomer} (hcons : Consistent config 0 world)
    (hlimit : 0 < config.playerLimit)
    (haccount : world.accountOf newcomer.session = some newcomer.account)
    (hunheld : world.Unheld newcomer.session)
    (hnone : world.sessions.find? newcomer.account = none)
    (hnew : newcomer.session ∉ queuedOf world.log) :
    Consistent config 0 (world.enter config newcomer) := by
  have hinserted := hcons.insertSession haccount hunheld hnone
  have hsize := size_insert_of_not_mem newcomer.session
    (find?_eq_none_iff.mp hnone)
  have hnot : newcomer.session ∉ world.queuedPlayer := by
    intro hmem
    obtain ⟨account, hfind⟩ := hcons.queued _ hmem
    exact (hunheld account).1 hfind
  unfold World.enter
  dsimp only
  split
  case isTrue hfull =>
    have hroom : config.playerLimit + 1 ≤
        (world.sessions.insert newcomer.account newcomer.session).size := by
      have hle := hfull.2.1
      unfold GetActiveAndQueuedSessionCount at hle
      dsimp only at hle
      omega
    split
    · exact ((hinserted.setDisconnects _).noteInitialized (.inl rfl)).weaken
    · exact (hinserted.setDisconnects _).addQueuedPlayer (find?_insert_self _ _ _) hnot
        hnew hroom
  case isFalse hopen =>
    refine (hinserted.noteInitialized ?_).weaken
    by_cases hexempt : (!newcomer.isPlayerAccount || newcomer.canSkipQueue) = true
    · exact .inl hexempt
    refine .inr ?_
    by_contra hwaiting
    have hroom := hcons.room hwaiting
    apply hopen
    refine ⟨hlimit, ?_, ?_⟩
    · change _ ≤ (world.sessions.insert newcomer.account newcomer.session).size - 1
      omega
    · rw [Bool.not_eq_true] at hexempt
      rw [hexempt]
      rfl

theorem Consistent.create {newcomer : Newcomer} (hcons : Consistent config 0 world)
    (hfresh : newcomer.session ∉ world.used) :
    Consistent config 0 (world.create newcomer) ∧ (world.create newcomer).Unheld newcomer.session ∧
      newcomer.session ∉ queuedOf (world.create newcomer).log := by
  have hdead : world.accountOf newcomer.session = none := by
    by_contra hlive
    exact hfresh (hcons.used newcomer.session (isSome_iff_ne_none.mpr hlive))
  have hunheld : Unheld world newcomer.session := by
    intro account
    constructor
    · intro hfind
      exact nomatch hdead.symm.trans (hcons.registered account newcomer.session hfind)
    · intro hfind
      exact nomatch hdead.symm.trans (hcons.offline account newcomer.session hfind).1
  have hother {other : ℕ} (hne : other ≠ newcomer.session) :
      (world.create newcomer).accountOf other = world.accountOf other :=
    congrArg (Option.map _) (update_of_ne hne _ _)
  refine ⟨⟨⟨?_, ?_, ?_, hcons.nodup, hcons.queued, hcons.order, hcons.once, ?_,
    hcons.newcomers⟩, hcons.room, ?_⟩, hunheld,
    fun hmem => hfresh (hcons.known newcomer.session hmem)⟩
  · intro account held hfind
    rw [hother]
    · exact hcons.registered account held hfind
    · rintro rfl
      exact (hunheld account).1 hfind
  · intro account held hfind
    rw [hother]
    · exact hcons.offline account held hfind
    · rintro rfl
      exact (hunheld account).2 hfind
  · intro held hlive
    by_cases hsame : held = newcomer.session
    · rw [hsame]
      exact mem_cons_self
    · rw [hother hsame] at hlive
      exact mem_cons_of_mem _ (hcons.used held hlive)
  · exact fun held hmem => mem_cons_of_mem _ (hcons.known held hmem)
  · intro index held hget
    have hne : held ≠ newcomer.session := by
      intro hsame
      obtain ⟨account, hfind⟩ := hcons.queued held (mem_of_getElem? hget)
      rw [hsame] at hfind
      exact (hunheld account).1 hfind
    rw [← hcons.sent index held hget]
    exact congrArg (Option.map _) (update_of_ne hne _ _)

end AzerothCore.Sessions.World

/-! ## Every run keeps the session queue consistent -/

namespace AzerothCore.Sessions.World
open List Option StdMap

variable {config : WorldConfig} {world : World} {session account : ℕ}

theorem Consistent.retire {old : ℕ} (hcons : Consistent config 1 world)
    (hfind : world.sessions.find? account = some old) (hnot : old ∉ world.queuedPlayer)
    (closed : Bool) :
    Consistent config 0 (World.retire { world with sessions := world.sessions.erase account }
      closed account old) := by
  have herased := hcons.eraseSession hfind hnot
  have hunheld := hcons.unheld_erase hfind
  unfold World.retire
  split
  · exact herased.putOffline (hcons.registered account old hfind) hunheld
  · exact herased.delete hunheld

theorem retire_sessions (world : World) (sessions : StdMap ℕ ℕ) (closed : Bool)
    (account session : ℕ) :
    World.retire { world with sessions := sessions } closed account session =
      { world.retire closed account session with sessions := sessions } := by
  unfold World.retire World.putOffline
  dsimp only
  split
  · split <;> rfl
  · rfl

theorem enter_erase (world : World) (newcomer : Newcomer) :
    World.enter config { world with sessions := world.sessions.erase newcomer.account }
        newcomer = world.enter config newcomer := by
  unfold World.enter
  dsimp only
  rw [insert_erase_self]

theorem accountOf_retire_ne {old : ℕ} (closed : Bool) (hne : session ≠ old)
    (hunheld : world.Unheld session) :
    (world.retire closed account old).accountOf session = world.accountOf session := by
  unfold World.retire World.putOffline
  split
  · rcases htmp : world.offlineSessions.find? account with _ | tmp
    · rfl
    have htmpNe : session ≠ tmp := by
      rintro rfl
      exact (hunheld account).2 htmp
    exact accountOf_delete_ne htmpNe
  · exact accountOf_delete_ne hne

theorem Unheld.retire {old : ℕ} (hunheld : world.Unheld session) (closed : Bool)
    (hne : session ≠ old) : (world.retire closed account old).Unheld session := by
  intro other
  unfold World.retire World.putOffline
  split
  · refine ⟨?_, ?_⟩
    · cases world.offlineSessions.find? account <;> exact (hunheld other).1
    · have hput : (world.offlineSessions.insert account old).find? other ≠ some session := by
        rw [find?_insert]
        split
        · exact fun hsame => hne (some.inj hsame).symm
        · exact (hunheld other).2
      cases world.offlineSessions.find? account <;> exact hput
  · exact hunheld other

variable (closed : Bool)

theorem log_retire (account old : ℕ) : (world.retire closed account old).log = world.log := by
  unfold World.retire World.putOffline
  split
  · cases world.offlineSessions.find? account <;> rfl
  · rfl

theorem sessions_retire (account old : ℕ) :
    (world.retire closed account old).sessions = world.sessions := by
  unfold World.retire World.putOffline
  split
  · cases world.offlineSessions.find? account <;> rfl
  · rfl

theorem used_retire (account old : ℕ) : (world.retire closed account old).used = world.used := by
  unfold World.retire World.putOffline
  split
  · cases world.offlineSessions.find? account <;> rfl
  · rfl

theorem used_enter (newcomer : Newcomer) : (world.enter config newcomer).used = world.used := by
  unfold World.enter
  dsimp only
  split
  · split <;> rfl
  · rfl

theorem noteDisconnect_same (now : ℤ) (account : ℕ) (removed : Bool) :
    ∃ disconnects, World.noteDisconnect config now world account removed =
      { world with disconnects := disconnects } := by
  unfold World.noteDisconnect
  split
  · exact ⟨_, rfl⟩
  · exact ⟨world.disconnects, rfl⟩

theorem Consistent.addSession {newcomer : Newcomer} (hcons : Consistent config 0 world)
    (hlimit : 0 < config.playerLimit) (hfresh : newcomer.session ∉ world.used) :
    ∃ after, world.AddSession_ config newcomer = some after ∧ Consistent config 0 after ∧
      after.used = newcomer.session :: world.used := by
  obtain ⟨hcreated, hunheld, hnew⟩ := hcons.create hfresh
  have haccount : (world.create newcomer).accountOf newcomer.session = some newcomer.account := by
    change (Function.update world.allocated newcomer.session _ newcomer.session).map _ = _
    rw [Function.update_self]
    rfl
  have hsessions : (world.create newcomer).sessions = world.sessions := rfl
  unfold World.AddSession_
  rw [← hsessions]
  rcases hfind : (world.create newcomer).sessions.find? newcomer.account with _ | oldSession
  · exact ⟨_, rfl, hcreated.enter hlimit haccount hunheld hfind hnew, used_enter newcomer⟩
  dsimp only
  split
  · exact ⟨_, rfl, hcreated.delete hunheld, rfl⟩
  have hne : newcomer.session ≠ oldSession := by
    intro hsame
    rw [← hsame] at hfind
    exact (hunheld newcomer.account).1 hfind
  obtain ⟨left, removed, hremove, hleft, hsame, hnot, hlog⟩ := hcreated.removeQueuedPlayer hfind
  obtain ⟨disconnects, hnoted⟩ := @noteDisconnect_same config left newcomer.now
    newcomer.account removed
  have hleftUnheld : Unheld { left with disconnects := disconnects } newcomer.session := by
    intro other
    rw [hsame.sessions, hsame.offlineSessions]
    exact hunheld other
  have hretire := @Consistent.retire config { left with disconnects := disconnects }
    newcomer.account oldSession (hleft.setDisconnects disconnects)
    (by rw [hsame.sessions]; exact hfind) hnot newcomer.oldSocketClosed
  rw [retire_sessions] at hretire
  rw [hremove]
  dsimp only
  rw [hnoted, ← enter_erase, sessions_retire]
  refine ⟨_, rfl, hretire.enter hlimit ?_ ?_ ?_ ?_, ?_⟩
  · exact (accountOf_retire_ne newcomer.oldSocketClosed hne hleftUnheld).trans
      ((hsame.accountOf _).trans haccount)
  · intro other
    have hgone : (World.retire { left with disconnects := disconnects }
        newcomer.oldSocketClosed newcomer.account oldSession).Unheld newcomer.session :=
      hleftUnheld.retire newcomer.oldSocketClosed hne
    refine ⟨?_, (hgone other).2⟩
    rw [find?_erase]
    split
    · exact nofun
    · rw [hsame.sessions]
      exact (hunheld other).1
  · exact find?_erase_self _ _
  · rw [log_retire]
    rw [hlog]
    exact hnew
  · rw [used_enter]
    rw [used_retire]
    exact hsame.used

theorem Consistent.updateSession (hcons : Consistent config 0 world) (now : ℤ) (account : ℕ)
    (fate : Fate) :
    ∃ after, world.updateSession config now account fate = some after ∧
      Consistent config 0 after ∧ after.used = world.used := by
  unfold World.updateSession
  rcases hfind : world.sessions.find? account with _ | pSession
  · exact ⟨world, rfl, hcons, rfl⟩
  dsimp only
  split
  · exact ⟨world, rfl, hcons, rfl⟩
  obtain ⟨left, removed, hremove, hleft, hsame, hnot, -⟩ := hcons.removeQueuedPlayer hfind
  obtain ⟨disconnects, hnoted⟩ := @noteDisconnect_same config left now account removed
  rw [hremove]
  dsimp only
  rw [hnoted]
  refine ⟨_, rfl, ?_, ?_⟩
  · exact (hleft.setDisconnects disconnects).retire (by rw [← hfind, ← hsame.sessions])
      hnot (fate == .socketClosed)
  · rw [used_retire]
    exact hsame.used

theorem used_dropOffline (account : ℕ) : (world.dropOffline account).used = world.used := by
  unfold World.dropOffline
  cases world.offlineSessions.find? account <;> rfl

def newPointers : WorldOp → List ℕ
  | .AddSession_ newcomer => [newcomer.session]
  | .updateSession _ _ _ | .dropOffline _ => []

theorem Consistent.step {op : WorldOp} (hcons : Consistent config 0 world)
    (hlimit : 0 < config.playerLimit) (hfresh : Fresh world op) :
    ∃ after, World.step config world op = some after ∧ Consistent config 0 after ∧
      after.used = newPointers op ++ world.used := by
  cases op with
  | AddSession_ newcomer => exact hcons.addSession hlimit hfresh
  | updateSession now account fate => exact hcons.updateSession now account fate
  | dropOffline account => exact ⟨_, rfl, hcons.dropOffline account, used_dropOffline account⟩

theorem consistent_of_reachable (hlimit : 0 < config.playerLimit)
    (hreach : ReachableWorld config world) : Consistent config 0 world := by
  apply hreach.invariant (Consistent config 0)
  · rintro start rfl
    exact consistent_empty
  · rintro before op after hcons ⟨hfresh, hstep⟩
    obtain ⟨next, hnext, hafter, -⟩ := hcons.step hlimit hfresh
    obtain rfl := some.inj (hstep.symm.trans hnext)
    exact hafter

theorem reachable_foldlM (hlimit : 0 < config.playerLimit) (ops : List WorldOp)
    (hreach : ReachableWorld config world) (hnodup : (ops.flatMap newPointers).Nodup)
    (hnew : ∀ session ∈ ops.flatMap newPointers, session ∉ world.used) :
    ∃ after, ops.foldlM (World.step config) world = some after ∧ ReachableWorld config after := by
  induction ops generalizing world with
  | nil => exact ⟨world, rfl, hreach⟩
  | cons op ops ih =>
    obtain ⟨-, hrest, hdisj⟩ := nodup_append.mp hnodup
    have hfresh : Fresh world op := by
      cases op with
      | AddSession_ newcomer => exact hnew _ (mem_append_left _ mem_cons_self)
      | updateSession => trivial
      | dropOffline => trivial
    obtain ⟨next, hnext, -, hused⟩ := (consistent_of_reachable hlimit hreach).step hlimit hfresh
    obtain ⟨after, hafter, hreachAfter⟩ := ih (hreach.step ⟨hfresh, hnext⟩) hrest (by
      intro session hmem
      rw [hused, mem_append, not_or]
      exact ⟨fun hfirst => hdisj session hfirst session hmem rfl,
        hnew session (mem_append_right _ hmem)⟩)
    refine ⟨after, ?_, hreachAfter⟩
    rw [foldlM_cons, hnext]
    exact hafter

theorem reachable_UpdateSessions (hlimit : 0 < config.playerLimit)
    (hreach : ReachableWorld config world) (now : ℤ) (addSessQueue : List Newcomer)
    (fates : List (ℕ × Fate)) (gone : List ℕ)
    (hnodup : (addSessQueue.map (·.session)).Nodup)
    (hnew : ∀ newcomer ∈ addSessQueue, newcomer.session ∉ world.used) :
    ∃ after, world.UpdateSessions config now addSessQueue fates gone = some after ∧
      ReachableWorld config after := by
  have hpointers : (addSessQueue.map WorldOp.AddSession_ ++
      fates.map (fun fate => WorldOp.updateSession now fate.1 fate.2) ++
      gone.map WorldOp.dropOffline).flatMap newPointers = addSessQueue.map (·.session) := by
    rw [flatMap_append, flatMap_append]
    have hfates : (fates.map fun fate =>
        WorldOp.updateSession now fate.1 fate.2).flatMap newPointers = [] := by
      rw [flatMap_eq_nil_iff]
      intro op hop
      obtain ⟨fate, -, rfl⟩ := List.mem_map.mp hop
      rfl
    have hgone : (gone.map WorldOp.dropOffline).flatMap newPointers = [] := by
      rw [flatMap_eq_nil_iff]
      intro op hop
      obtain ⟨account, -, rfl⟩ := List.mem_map.mp hop
      rfl
    rw [hfates, hgone, append_nil, append_nil, flatMap_map]
    exact map_eq_flatMap.symm
  apply reachable_foldlM hlimit _ hreach
  · rw [hpointers]
    exact hnodup
  · rw [hpointers]
    intro session hmem
    obtain ⟨newcomer, hin, rfl⟩ := List.mem_map.mp hmem
    exact hnew newcomer hin

/-! ## What holds in every run -/

structure QueueHolds (config : WorldConfig) (world : World) : Prop where
  /-- The queue holds different sessions that are live and registered. -/
  registered : world.queuedPlayer.Nodup ∧ ∀ session ∈ world.queuedPlayer, ∃ data,
    world.allocated session = some data ∧ world.sessions.find? data.GetAccountId = some session
  /-- No place is free while somebody waits. -/
  full : world.queuedPlayer ≠ [] → config.playerLimit ≤ world.GetActiveSessionCount
  /-- Those who were let in, and after them those who still wait, are in the order in which
  they were queued. -/
  order : (queuedOf world.log).Nodup ∧
    (admittedOf world.log ++ world.queuedPlayer).Sublist (queuedOf world.log)
  /-- Nobody who is not exempt passed those who waited. -/
  newcomers : ∀ session waiting, .initialized session false waiting ∈ world.log → waiting = []
  /-- Everybody who waits was told the position last. -/
  positions : ∀ index session, world.queuedPlayer[index]? = some session →
    ∃ data, world.allocated session = some data ∧ data.sentPosition = index + 1

theorem Consistent.holds (hcons : Consistent config 0 world) : QueueHolds config world where
  registered := by
    refine ⟨hcons.nodup, fun session hmem => ?_⟩
    obtain ⟨account, hfind⟩ := hcons.queued session hmem
    obtain ⟨data, hdata, haccount⟩ := map_eq_some_iff.mp
      (hcons.registered account session hfind)
    refine ⟨data, hdata, ?_⟩
    rw [haccount]
    exact hfind
  full hne := by
    have hroom := hcons.room hne
    unfold GetActiveSessionCount
    omega
  order := ⟨hcons.once, hcons.order⟩
  newcomers session waiting hmem :=
    (hcons.newcomers session false waiting hmem).resolve_left Bool.false_ne_true
  positions index session hget := map_eq_some_iff.mp (hcons.sent index session hget)

/-- In every run with a player limit the queue holds, and the assertion of
`RemoveQueuedPlayer` does not fail in the next operation. -/
theorem queueHolds_of_reachable (hlimit : 0 < config.playerLimit)
    (hreach : ReachableWorld config world) :
    QueueHolds config world ∧
      ∀ op, Fresh world op → ∃ after, World.step config world op = some after := by
  have hcons := consistent_of_reachable hlimit hreach
  refine ⟨hcons.holds, fun op hfresh => ?_⟩
  obtain ⟨after, hafter, -⟩ := hcons.step hlimit hfresh
  exact ⟨after, hafter⟩

def onePlace : WorldConfig where
  playerLimit := 1
  disconnectTolerance := 0

def playerOf (account : ℕ) : Newcomer where
  session := account
  account := account
  isPlayerAccount := true
  canSkipQueue := false
  oldLoading := false
  oldSocketClosed := false
  now := 0

/-- The second of two players waits. -/
theorem queueHolds_two : ∃ world, ReachableWorld onePlace world ∧ world.queuedPlayer = [2] ∧
    QueueHolds onePlace world := by
  obtain ⟨after, hafter, hreach⟩ := @reachable_UpdateSessions onePlace empty (by decide)
    (.start rfl) 0 [playerOf 1, playerOf 2] [] [] (by decide) (by decide)
  have hqueue : ((empty.UpdateSessions onePlace 0 [playerOf 1, playerOf 2] [] []).map
      (·.queuedPlayer)) = some [2] := by
    decide +kernel
  rw [hafter] at hqueue
  exact ⟨after, hreach, some.inj hqueue, (queueHolds_of_reachable (by decide) hreach).1⟩

end AzerothCore.Sessions.World
