import AzerothCore.Collections.IdPool
import AzerothCore.Collections.Reachability
import AzerothCore.Collections.StdMap
import AzerothCore.Network.Utf8

/-!
# Calendar events and invites

`CalendarMgr` owns the events and, for each event id, the list of its invites. Both kinds of
ids are `uint64` counters with a queue of ids that were given back; here they are integers,
so that `-1` is the counter that was decremented at zero. A list of invites that is absent is
the same as an empty one, because `operator[]` creates it.
-/

namespace AzerothCore.Calendar

def CALENDAR_FLAG_INVITES_LOCKED : BitVec 32 := 0x010
def CALENDAR_FLAG_WITHOUT_INVITES : BitVec 32 := 0x040
def CALENDAR_FLAG_GUILD_EVENT : BitVec 32 := 0x400

def CALENDAR_RANK_PLAYER : ℕ := 0

def CALENDAR_STATUS_INVITED : ℕ := 0
def CALENDAR_STATUS_SIGNED_UP : ℕ := 6
def CALENDAR_STATUS_NOT_SIGNED_UP : ℕ := 7
def CALENDAR_STATUS_TENTATIVE : ℕ := 8
def CALENDAR_STATUS_REMOVED : ℕ := 9

def CALENDAR_MAX_EVENTS : ℕ := 30
def CALENDAR_MAX_GUILD_EVENTS : ℕ := 100
def CALENDAR_MAX_INVITES : ℕ := 100

def CALENDAR_OLD_EVENTS_DELETION_TIME : ℤ := 30 * 24 * 60 * 60

structure CalendarInvite where
  _inviteId : ℤ
  _eventId : ℤ
  _invitee : ℕ
  _senderGUID : ℕ
  _statusTime : ℤ
  _status : ℕ
  _rank : ℕ
  _text : List UInt8
deriving DecidableEq

structure CalendarEvent where
  _eventId : ℤ
  _creatorGUID : ℕ
  _guildId : ℕ
  _type : ℕ
  _dungeonId : ℤ
  _eventTime : ℤ
  _flags : BitVec 32
  _timezoneTime : ℤ
  _title : List UInt8
  _description : List UInt8
deriving DecidableEq

def IsGuildEvent (flags : BitVec 32) : Bool := flags &&& CALENDAR_FLAG_GUILD_EVENT ≠ 0

def IsGuildAnnouncement (flags : BitVec 32) : Bool :=
  flags &&& CALENDAR_FLAG_WITHOUT_INVITES ≠ 0

namespace CalendarEvent

variable (event : CalendarEvent)

def IsGuildEvent : Bool := Calendar.IsGuildEvent event._flags

def IsGuildAnnouncement : Bool := Calendar.IsGuildAnnouncement event._flags

end CalendarEvent

/-- The orders in which the `unordered_set` of the events and the `unordered_map` of the
invites are visited. -/
structure CalendarOrder where
  events : List CalendarEvent → List CalendarEvent
  events_perm : ∀ store, (events store).Perm store
  invites : StdMap ℤ (List CalendarInvite) → List (ℤ × List CalendarInvite)
  invites_perm : ∀ store, (invites store).Perm store.entries

structure CalendarMgr where
  _events : List CalendarEvent
  _invites : StdMap ℤ (List CalendarInvite)
  /-- `_freeEventIds` and `_maxEventId` -/
  eventIds : IdPool
  /-- `_freeInviteIds` and `_maxInviteId` -/
  inviteIds : IdPool

/-- A row of `calendar_events`. -/
structure CalendarEventRow where
  id : ℕ
  creator : ℕ
  title : List UInt8
  description : List UInt8
  type : ℕ
  dungeon : ℤ
  eventtime : ℕ
  flags : BitVec 32
  time2 : ℕ

/-- A row of `calendar_invites`. -/
structure CalendarInviteRow where
  id : ℕ
  event : ℕ
  invitee : ℕ
  sender : ℕ
  status : ℕ
  statustime : ℕ
  rank : ℕ
  text : List UInt8

namespace CalendarMgr

variable (mgr : CalendarMgr) (order : CalendarOrder)

def GetEvent (eventId : ℤ) : Option CalendarEvent :=
  (order.events mgr._events).find? fun event => event._eventId = eventId

/-- `_invites[eventId]` -/
def GetEventInvites (eventId : ℤ) : List CalendarInvite := (mgr._invites.find? eventId).getD []

def GetInvite (inviteId : ℤ) : Option (ℤ × CalendarInvite) :=
  ((order.invites mgr._invites).flatMap fun store => store.2.map (store.1, ·)).find?
    fun stored => stored.2._inviteId = inviteId

def GetEventsCreatedBy (guid : ℕ) (includeGuildEvents : Bool) : List CalendarEvent :=
  mgr._events.filter fun event => event._creatorGUID = guid &&
    (includeGuildEvents || (!event.IsGuildEvent && !event.IsGuildAnnouncement))

def GetGuildEvents (guildId : ℕ) : List CalendarEvent :=
  if guildId = 0 then []
  else mgr._events.filter fun event =>
    (event.IsGuildEvent || event.IsGuildAnnouncement) && event._guildId = guildId

def FreeEventId (id : ℤ) : CalendarMgr := { mgr with eventIds := mgr.eventIds.give id }

def GetFreeEventId : ℤ × CalendarMgr :=
  (mgr.eventIds.take.1, { mgr with eventIds := mgr.eventIds.take.2 })

def FreeInviteId (id : ℤ) : CalendarMgr := { mgr with inviteIds := mgr.inviteIds.give id }

def GetFreeInviteId : ℤ × CalendarMgr :=
  (mgr.inviteIds.take.1, { mgr with inviteIds := mgr.inviteIds.take.2 })

/-- `CalendarInvite::~CalendarInvite` -/
def deleteInvite (invite : CalendarInvite) : CalendarMgr :=
  if invite._inviteId ≠ 0 ∧ invite._eventId ≠ 0 then mgr.FreeInviteId invite._inviteId else mgr

/-- `CalendarEvent::~CalendarEvent` -/
def deleteEvent (event : CalendarEvent) : CalendarMgr := mgr.FreeEventId event._eventId

/-- `_invites[eventId] = list` -/
def setInvites (eventId : ℤ) (list : List CalendarInvite) : CalendarMgr :=
  { mgr with _invites := mgr._invites.insert eventId list }

def AddEvent (event : CalendarEvent) : CalendarMgr :=
  { mgr with _events := event :: mgr._events }

def AddInvite (event : CalendarEvent) (invite : CalendarInvite) : CalendarMgr :=
  if event.IsGuildAnnouncement then mgr
  else mgr.setInvites invite._eventId (mgr.GetEventInvites invite._eventId ++ [invite])

/-- The setters of `CalendarEvent`, called on an event of the calendar. -/
def updateEvent (event updated : CalendarEvent) : CalendarMgr :=
  { mgr with _events := mgr._events.map fun other => if other = event then updated else other }

/-- The setters of `CalendarInvite`, called on an invite that is stored under an event id. -/
def updateInvite (eventId : ℤ) (invite updated : CalendarInvite) : CalendarMgr :=
  mgr.setInvites eventId
    ((mgr.GetEventInvites eventId).map fun other => if other = invite then updated else other)

def RemoveEvent (event : CalendarEvent) : CalendarMgr :=
  let mgr := (mgr.GetEventInvites event._eventId).foldl deleteInvite mgr
  { mgr with
    _invites := mgr._invites.erase event._eventId
    _events := mgr._events.erase event }.deleteEvent event

def RemoveInvite (inviteId eventId : ℤ) : CalendarMgr :=
  match mgr.GetEvent order eventId with
  | none => mgr
  | some _ =>
    match (mgr.GetEventInvites eventId).find? fun invite => invite._inviteId = inviteId with
    | none => mgr
    | some invite =>
      (mgr.deleteInvite invite).setInvites eventId ((mgr.GetEventInvites eventId).erase invite)

def DeleteOldEvents (gameTime : ℤ) : CalendarMgr :=
  (order.events mgr._events).foldl (fun mgr event =>
    if event._eventTime < gameTime - CALENDAR_OLD_EVENTS_DELETION_TIME then mgr.RemoveEvent event
    else mgr) mgr

def loadEvent (guildIdByGuid : ℕ → ℕ) (row : CalendarEventRow) : CalendarEvent where
  _eventId := row.id
  _creatorGUID := row.creator
  _guildId :=
    if Calendar.IsGuildEvent row.flags || Calendar.IsGuildAnnouncement row.flags
    then guildIdByGuid row.creator else 0
  _type := row.type
  _dungeonId := row.dungeon
  _eventTime := row.eventtime
  _flags := row.flags
  _timezoneTime := row.time2
  _title := row.title
  _description := row.description

def loadInvite (row : CalendarInviteRow) : CalendarInvite :=
  ⟨row.id, row.event, row.invitee, row.sender, row.statustime, row.status, row.rank, row.text⟩

/-- `_invites[eventId].push_back(invite)` -/
def storeInvite (invite : CalendarInvite) : CalendarMgr :=
  mgr.setInvites invite._eventId (mgr.GetEventInvites invite._eventId ++ [invite])

def empty : CalendarMgr := ⟨[], StdMap.empty, ⟨[], 0⟩, ⟨[], 0⟩⟩

/-- The tables are read into a manager that has no events yet, then the unused ids below the
highest ones are queued. -/
def LoadFromDB (guildIdByGuid : ℕ → ℕ) (events : List CalendarEventRow)
    (invites : List CalendarInviteRow) : CalendarMgr :=
  let mgr := (invites.map loadInvite).foldl storeInvite
    { empty with _events := events.map (loadEvent guildIdByGuid) }
  { mgr with
    eventIds := ⟨IdPool.gaps (fun id => (mgr.GetEvent order id).isSome)
          (IdPool.highest (events.map fun row => (row.id : ℤ))),
        IdPool.highest (events.map fun row => (row.id : ℤ))⟩
    inviteIds := ⟨IdPool.gaps (fun id => (mgr.GetInvite order id).isSome)
          (IdPool.highest (invites.map fun row => (row.id : ℤ))),
        IdPool.highest (invites.map fun row => (row.id : ℤ))⟩ }

end CalendarMgr

end AzerothCore.Calendar

/-!
## Requests to the calendar

The handlers look events and invites up by the ids of the packets. The packets that they send
to other players and the statements that they queue for the database are left out, the result
that they send back is not.
-/

namespace AzerothCore.Calendar

inductive CalendarError
  | CALENDAR_ERROR_GUILD_EVENTS_EXCEEDED
  | CALENDAR_ERROR_EVENTS_EXCEEDED
  | CALENDAR_ERROR_EVENT_INVALID
  | CALENDAR_ERROR_INTERNAL
  | CALENDAR_ERROR_GUILD_PLAYER_NOT_IN_GUILD
  | CALENDAR_ERROR_PLAYER_NOT_FOUND
  | CALENDAR_ERROR_NOT_ALLIED
  | CALENDAR_ERROR_IGNORING_YOU_S
  | CALENDAR_ERROR_EVENT_PASSED
  | CALENDAR_ERROR_EVENT_LOCKED
  | CALENDAR_ERROR_DELETE_CREATOR_FAILED
  | CALENDAR_ERROR_NO_INVITE
  | CALENDAR_ERROR_NO_GUILD_INVITES

inductive CalendarReply
  | done
  /-- The request is dropped without a result. -/
  | dropped
  | commandResult (err : CalendarError)
  /-- A `ByteBufferException` leaves the handler. -/
  | exception

structure CalendarInvitee where
  guid : ℕ
  teamId : ℕ
  guildId : ℕ

structure CalendarEnv where
  order : CalendarOrder
  gameTime : ℤ
  FindPlayerByName : String → Option CalendarInvitee
  GetCharacterGuidByName : String → Option ℕ
  /-- The team of the race and the guild of a character. -/
  GetCharacterCacheByGuid : ℕ → Option (ℕ × ℕ)
  /-- The guild of a player who is connected. -/
  FindConnectedPlayer : ℕ → Option ℕ
  /-- `character_social` has a row of the first player that ignores the second. -/
  ignored : ℕ → ℕ → Bool
  /-- `CONFIG_ALLOW_TWO_SIDE_INTERACTION_CALENDAR` -/
  twoSide : Bool

structure CalendarSession where
  guid : ℕ
  teamId : ℕ
  guildId : ℕ
  calendarEventCreationCooldown : ℤ

structure Handout where
  id : ℤ
  inUse : List ℤ

structure CalendarRun where
  mgr : CalendarMgr
  handedOut : List Handout

def CalendarMgr.liveEventIds (mgr : CalendarMgr) : List ℤ := mgr._events.map (·._eventId)

def CalendarMgr.storedInviteIds (mgr : CalendarMgr) : List ℤ :=
  mgr._invites.entries.flatMap fun store => store.2.map (·._inviteId)

namespace CalendarRun

variable (run : CalendarRun)

def update (mgr : CalendarMgr) : CalendarRun := { run with mgr := mgr }

/-- `sCalendarMgr->GetFreeEventId()` -/
def newEventId : ℤ × CalendarRun :=
  (run.mgr.GetFreeEventId.1, ⟨run.mgr.GetFreeEventId.2,
      ⟨run.mgr.GetFreeEventId.1, run.mgr.liveEventIds⟩ :: run.handedOut⟩)

/-- `sCalendarMgr->GetFreeInviteId()` -/
def newInviteId : ℤ × CalendarRun :=
  (run.mgr.GetFreeInviteId.1, ⟨run.mgr.GetFreeInviteId.2,
      ⟨run.mgr.GetFreeInviteId.1, run.mgr.storedInviteIds⟩ :: run.handedOut⟩)

/-- `AddInvite` of a new invite with the next free id. -/
def addNewInvite (event : CalendarEvent) (invite : ℤ → CalendarInvite) : CalendarRun :=
  run.newInviteId.2.update (run.newInviteId.2.mgr.AddInvite event (invite run.newInviteId.1))

end CalendarRun

/-- `CMSG_CALENDAR_ADD_EVENT` -/
structure AddEventPacket where
  title : List UInt8
  description : List UInt8
  type : ℕ
  dungeonId : ℤ
  eventPackedTime : ℤ
  unkPackedTime : ℤ
  flags : BitVec 32
  /-- The invitees with their status and rank, or `none` if the buffer ends before them. -/
  invitees : Option (List (ℕ × ℕ × ℕ))

/-- `CMSG_CALENDAR_UPDATE_EVENT` -/
structure UpdateEventPacket where
  eventId : ℤ
  title : List UInt8
  description : List UInt8
  type : ℕ
  dungeonId : ℤ
  eventPackedTime : ℤ
  timeZoneTime : ℤ
  flags : BitVec 32

def defaultResponseTime : ℤ := 946684800

def validTexts (title description : List UInt8) : Bool :=
  Network.Utf8.is_valid title && title.length ≤ 31 && Network.Utf8.is_valid description &&
    description.length ≤ 255

section Handlers

variable (env : CalendarEnv) (session : CalendarSession) (run : CalendarRun)

def tooManyEvents (flags : BitVec 32) : Option CalendarError :=
  if IsGuildEvent flags || IsGuildAnnouncement flags then
    if CALENDAR_MAX_GUILD_EVENTS ≤ (run.mgr.GetGuildEvents session.guildId).length
    then some .CALENDAR_ERROR_GUILD_EVENTS_EXCEEDED else none
  else if CALENDAR_MAX_EVENTS ≤ (run.mgr.GetEventsCreatedBy session.guid false).length
    then some .CALENDAR_ERROR_EVENTS_EXCEEDED
  else none

def newEvent (packet : AddEventPacket) (eventId : ℤ) : CalendarEvent where
  _eventId := eventId
  _creatorGUID := session.guid
  _guildId :=
    if IsGuildEvent packet.flags || IsGuildAnnouncement packet.flags
    then (env.FindConnectedPlayer session.guid).getD 0 else 0
  _type := packet.type
  _dungeonId := packet.dungeonId
  _eventTime := packet.eventPackedTime
  _flags := packet.flags
  _timezoneTime := packet.unkPackedTime
  _title := packet.title
  _description := packet.description

def createEvent (packet : AddEventPacket) : CalendarRun × CalendarReply :=
  let event := newEvent env session packet run.newEventId.1
  let run := run.newEventId.2
  if event.IsGuildAnnouncement then
    let invite : CalendarInvite :=
      ⟨0, event._eventId, 0, session.guid, defaultResponseTime, CALENDAR_STATUS_NOT_SIGNED_UP,
        CALENDAR_RANK_PLAYER, []⟩
    (run.update ((run.mgr.AddInvite event invite).AddEvent event), .done)
  else
    match packet.invitees with
    | none => (run.update (run.mgr.deleteEvent event), .exception)
    | some invitees =>
      let run := (invitees.take CALENDAR_MAX_INVITES).foldl (fun run invitee =>
        run.addNewInvite event fun inviteId =>
          ⟨inviteId, event._eventId, invitee.1, session.guid, defaultResponseTime,
            invitee.2.1, invitee.2.2, []⟩) run
      (run.update (run.mgr.AddEvent event), .done)

def HandleCalendarAddEvent (packet : AddEventPacket) : CalendarRun × CalendarReply :=
  if !validTexts packet.title packet.description then (run, .dropped)
  else if packet.eventPackedTime < env.gameTime - 86400 then
    (run, .commandResult .CALENDAR_ERROR_EVENT_PASSED)
  else if (IsGuildEvent packet.flags || IsGuildAnnouncement packet.flags) &&
      session.guildId = 0 then
    (run, .commandResult .CALENDAR_ERROR_GUILD_PLAYER_NOT_IN_GUILD)
  else
    match tooManyEvents session run packet.flags with
    | some err => (run, .commandResult err)
    | none =>
      if env.gameTime < session.calendarEventCreationCooldown then
        (run, .commandResult .CALENDAR_ERROR_INTERNAL)
      else createEvent env session run packet

def HandleCalendarUpdateEvent (packet : UpdateEventPacket) : CalendarRun × CalendarReply :=
  if !validTexts packet.title packet.description then (run, .dropped)
  else if packet.eventPackedTime < env.gameTime - 86400 then (run, .dropped)
  else
    match run.mgr.GetEvent env.order packet.eventId with
    | none => (run, .commandResult .CALENDAR_ERROR_EVENT_INVALID)
    | some event =>
      (run.update (run.mgr.updateEvent event
        { event with
          _type := packet.type
          _flags := packet.flags
          _eventTime := packet.eventPackedTime
          _timezoneTime := packet.timeZoneTime
          _dungeonId := packet.dungeonId
          _title := packet.title
          _description := packet.description }), .done)

def HandleCalendarRemoveEvent (eventId : ℤ) : CalendarRun × CalendarReply :=
  match run.mgr.GetEvent env.order eventId with
  | none => (run, .commandResult .CALENDAR_ERROR_EVENT_INVALID)
  | some event => (run.update (run.mgr.RemoveEvent event), .done)

def mayCopy (event : CalendarEvent) : Bool :=
  if event.IsGuildEvent || event.IsGuildAnnouncement then event._guildId = session.guildId
  else event._creatorGUID = session.guid

def copyEvent (oldEvent : CalendarEvent) (eventId eventTime : ℤ) : CalendarRun × CalendarReply :=
  let newEvent := { oldEvent with _eventId := run.newEventId.1, _eventTime := eventTime }
  let run := run.newEventId.2
  let run := run.update (run.mgr.AddEvent newEvent)
  ((run.mgr.GetEventInvites eventId).foldl (fun run invite =>
    run.addNewInvite newEvent fun inviteId =>
      { invite with _inviteId := inviteId, _eventId := newEvent._eventId }) run, .done)

def HandleCalendarCopyEvent (eventId eventTime : ℤ) : CalendarRun × CalendarReply :=
  if eventTime < env.gameTime - 86400 then (run, .commandResult .CALENDAR_ERROR_EVENT_PASSED)
  else
    match run.mgr.GetEvent env.order eventId with
    | none => (run, .commandResult .CALENDAR_ERROR_EVENT_INVALID)
    | some oldEvent =>
      if !mayCopy session oldEvent then (run, .commandResult .CALENDAR_ERROR_EVENT_INVALID)
      else
        match tooManyEvents session run oldEvent._flags with
        | some err => (run, .commandResult err)
        | none =>
          if env.gameTime < session.calendarEventCreationCooldown then
            (run, .commandResult .CALENDAR_ERROR_INTERNAL)
          else copyEvent run oldEvent eventId eventTime

def findInvitee (name : String) : Option CalendarInvitee :=
  match env.FindPlayerByName name with
  | some player => some player
  | none =>
    (env.GetCharacterGuidByName name).bind fun guid =>
      (env.GetCharacterCacheByGuid guid).map fun playerData =>
        ⟨guid, playerData.1, playerData.2⟩

def HandleCalendarEventInvite (eventId : ℤ) (name : String) (isPreInvite isGuildEvent : Bool) :
    CalendarRun × CalendarReply :=
  match findInvitee env name with
  | none => (run, .commandResult .CALENDAR_ERROR_PLAYER_NOT_FOUND)
  | some invitee =>
    if session.teamId ≠ invitee.teamId ∧ env.twoSide = false then
      (run, .commandResult .CALENDAR_ERROR_NOT_ALLIED)
    else if env.ignored invitee.guid session.guid then
      (run, .commandResult .CALENDAR_ERROR_IGNORING_YOU_S)
    else if isPreInvite then
      if isGuildEvent && invitee.guildId = session.guildId then
        (run, .commandResult .CALENDAR_ERROR_NO_GUILD_INVITES)
      else (run, .done)
    else
      match run.mgr.GetEvent env.order eventId with
      | none => (run, .commandResult .CALENDAR_ERROR_EVENT_INVALID)
      | some event =>
        if event.IsGuildEvent && event._guildId = invitee.guildId then
          (run, .commandResult .CALENDAR_ERROR_NO_GUILD_INVITES)
        else
          (run.addNewInvite event fun inviteId =>
            ⟨inviteId, eventId, invitee.guid, session.guid, defaultResponseTime,
              CALENDAR_STATUS_INVITED, CALENDAR_RANK_PLAYER, []⟩, .done)

def HandleCalendarEventSignup (eventId : ℤ) (tentative : Bool) : CalendarRun × CalendarReply :=
  match run.mgr.GetEvent env.order eventId with
  | none => (run, .commandResult .CALENDAR_ERROR_EVENT_INVALID)
  | some event =>
    if event.IsGuildEvent && event._guildId ≠ session.guildId then
      (run, .commandResult .CALENDAR_ERROR_GUILD_PLAYER_NOT_IN_GUILD)
    else
      (run.addNewInvite event fun inviteId =>
        ⟨inviteId, eventId, session.guid, session.guid, env.gameTime,
          if tentative then CALENDAR_STATUS_TENTATIVE else CALENDAR_STATUS_SIGNED_UP,
          CALENDAR_RANK_PLAYER, []⟩, .done)

def changeInvite (inviteId : ℤ) (change : CalendarInvite → CalendarInvite) :
    CalendarRun × CalendarReply :=
  match run.mgr.GetInvite env.order inviteId with
  | none => (run, .commandResult .CALENDAR_ERROR_NO_INVITE)
  | some stored =>
    (run.update (run.mgr.updateInvite stored.1 stored.2 (change stored.2)), .done)

def HandleCalendarEventRsvp (eventId inviteId : ℤ) (status : ℕ) : CalendarRun × CalendarReply :=
  match run.mgr.GetEvent env.order eventId with
  | none => (run, .commandResult .CALENDAR_ERROR_EVENT_INVALID)
  | some event =>
    if status ≠ CALENDAR_STATUS_REMOVED ∧ event._flags &&& CALENDAR_FLAG_INVITES_LOCKED ≠ 0 then
      (run, .commandResult .CALENDAR_ERROR_EVENT_LOCKED)
    else changeInvite env run inviteId fun invite =>
      { invite with _status := status, _statusTime := env.gameTime }

def HandleCalendarEventRemoveInvite (invitee : ℕ) (inviteId eventId : ℤ) :
    CalendarRun × CalendarReply :=
  match run.mgr.GetEvent env.order eventId with
  | none => (run, .commandResult .CALENDAR_ERROR_NO_INVITE)
  | some event =>
    if event._creatorGUID = invitee then
      (run, .commandResult .CALENDAR_ERROR_DELETE_CREATOR_FAILED)
    else (run.update (run.mgr.RemoveInvite env.order inviteId eventId), .done)

def HandleCalendarEventStatus (eventId inviteId : ℤ) (status : ℕ) : CalendarRun × CalendarReply :=
  match run.mgr.GetEvent env.order eventId with
  | none => (run, .commandResult .CALENDAR_ERROR_EVENT_INVALID)
  | some _ => changeInvite env run inviteId fun invite =>
    { invite with _status := status, _statusTime := env.gameTime }

def HandleCalendarEventModeratorStatus (eventId inviteId : ℤ) (rank : ℕ) :
    CalendarRun × CalendarReply :=
  match run.mgr.GetEvent env.order eventId with
  | none => (run, .commandResult .CALENDAR_ERROR_EVENT_INVALID)
  | some _ => changeInvite env run inviteId fun invite => { invite with _rank := rank }

end Handlers

inductive CalendarRequest
  | addEvent (packet : AddEventPacket)
  | updateEvent (packet : UpdateEventPacket)
  | removeEvent (eventId : ℤ)
  | copyEvent (eventId eventTime : ℤ)
  | eventInvite (eventId : ℤ) (name : String) (isPreInvite isGuildEvent : Bool)
  | eventSignup (eventId : ℤ) (tentative : Bool)
  | eventRsvp (eventId inviteId : ℤ) (status : ℕ)
  | eventRemoveInvite (invitee : ℕ) (inviteId eventId : ℤ)
  | eventStatus (eventId inviteId : ℤ) (status : ℕ)
  | eventModeratorStatus (eventId inviteId : ℤ) (rank : ℕ)
  /-- `CalendarMgr::RemoveInvite` by another part of the server -/
  | removeInvite (inviteId eventId : ℤ)
  | deleteOldEvents

structure CalendarOp where
  env : CalendarEnv
  session : CalendarSession
  request : CalendarRequest

def CalendarRun.perform (run : CalendarRun) (op : CalendarOp) : CalendarRun × CalendarReply :=
  match op.request with
  | .addEvent packet => HandleCalendarAddEvent op.env op.session run packet
  | .updateEvent packet => HandleCalendarUpdateEvent op.env run packet
  | .removeEvent eventId => HandleCalendarRemoveEvent op.env run eventId
  | .copyEvent eventId eventTime =>
    HandleCalendarCopyEvent op.env op.session run eventId eventTime
  | .eventInvite eventId name isPreInvite isGuildEvent =>
    HandleCalendarEventInvite op.env op.session run eventId name isPreInvite isGuildEvent
  | .eventSignup eventId tentative =>
    HandleCalendarEventSignup op.env op.session run eventId tentative
  | .eventRsvp eventId inviteId status => HandleCalendarEventRsvp op.env run eventId inviteId status
  | .eventRemoveInvite invitee inviteId eventId =>
    HandleCalendarEventRemoveInvite op.env run invitee inviteId eventId
  | .eventStatus eventId inviteId status =>
    HandleCalendarEventStatus op.env run eventId inviteId status
  | .eventModeratorStatus eventId inviteId rank =>
    HandleCalendarEventModeratorStatus op.env run eventId inviteId rank
  | .removeInvite inviteId eventId =>
    (run.update (run.mgr.RemoveInvite op.env.order inviteId eventId), .done)
  | .deleteOldEvents => (run.update (run.mgr.DeleteOldEvents op.env.order op.env.gameTime), .done)

end AzerothCore.Calendar

/-! ## The ids of events and invites -/

namespace AzerothCore.Calendar

open List
open Reachability

variable {event updated : CalendarEvent}

namespace CalendarMgr

variable {mgr : CalendarMgr} {order : CalendarOrder} {eventId inviteId : ℤ}

theorem GetEvent_some (hget : mgr.GetEvent order eventId = some event) :
    event ∈ mgr._events ∧ event._eventId = eventId :=
  ⟨(order.events_perm _).mem_iff.mp (mem_of_find?_eq_some hget),
    by simpa using List.find?_some hget⟩

theorem isSome_GetEvent (hlive : eventId ∈ mgr.liveEventIds) :
    (mgr.GetEvent order eventId).isSome = true := by
  obtain ⟨event, hevent, rfl⟩ := mem_map.mp hlive
  refine List.find?_isSome.mpr ⟨event, (order.events_perm _).mem_iff.mpr hevent, ?_⟩
  exact decide_eq_true rfl

theorem mem_storedInviteIds : inviteId ∈ mgr.storedInviteIds ↔
      ∃ stored ∈ mgr._invites.entries, ∃ invite ∈ stored.2, invite._inviteId = inviteId := by
  simp only [storedInviteIds, mem_flatMap, mem_map]

theorem isSome_GetInvite (hstored : inviteId ∈ mgr.storedInviteIds) :
    (mgr.GetInvite order inviteId).isSome = true := by
  obtain ⟨stored, hmem, invite, hinvite, rfl⟩ := mem_storedInviteIds.mp hstored
  refine List.find?_isSome.mpr ⟨(stored.1, invite), ?_, decide_eq_true rfl⟩
  refine mem_flatMap.mpr ⟨stored, (order.invites_perm _).mem_iff.mpr hmem, ?_⟩
  exact mem_map_of_mem hinvite

theorem GetEventInvites_setInvites (mgr : CalendarMgr) (eventId other : ℤ)
    (list : List CalendarInvite) :
    (mgr.setInvites eventId list).GetEventInvites other =
      if eventId = other then list else mgr.GetEventInvites other := by
  rw [GetEventInvites, setInvites, StdMap.find?_insert]
  split
  · rfl
  · rfl

def otherInviteIds (mgr : CalendarMgr) (eventId : ℤ) : List ℤ :=
  (mgr._invites.erase eventId).members fun list => list.map (·._inviteId)

theorem storedInviteIds_perm (mgr : CalendarMgr) (eventId : ℤ) : mgr.storedInviteIds.Perm
      ((mgr.GetEventInvites eventId).map (·._inviteId) ++ mgr.otherInviteIds eventId) := by
  unfold GetEventInvites otherInviteIds
  cases hfind : mgr._invites.find? eventId with
  | none =>
    rw [StdMap.erase_of_not_mem (StdMap.find?_eq_none_iff.mp hfind)]
    exact List.Perm.refl _
  | some list => exact StdMap.members_of_find? _ hfind

theorem storedInviteIds_setInvites (mgr : CalendarMgr) (eventId : ℤ)
    (list : List CalendarInvite) :
    (mgr.setInvites eventId list).storedInviteIds.Perm
      (list.map (·._inviteId) ++ mgr.otherInviteIds eventId) :=
  mgr._invites.members_insert eventId list _

theorem storedInviteIds_storeInvite (mgr : CalendarMgr) (invite : CalendarInvite) :
    (mgr.storeInvite invite).storedInviteIds.Perm (invite._inviteId :: mgr.storedInviteIds) := by
  refine (mgr.storedInviteIds_setInvites ..).trans ?_
  rw [map_append, append_assoc]
  refine perm_middle.trans ?_
  exact (mgr.storedInviteIds_perm invite._eventId).symm.cons _

theorem AddInvite_eq (mgr : CalendarMgr) (event : CalendarEvent) (invite : CalendarInvite) :
    mgr.AddInvite event invite =
      if event.IsGuildAnnouncement then mgr else mgr.storeInvite invite := rfl

variable {invite : CalendarInvite}

theorem storedInviteIds_updateInvite (mgr : CalendarMgr) (eventId : ℤ) {updated : CalendarInvite}
    (hid : updated._inviteId = invite._inviteId) :
    (mgr.updateInvite eventId invite updated).storedInviteIds.Perm mgr.storedInviteIds := by
  refine (mgr.storedInviteIds_setInvites ..).trans ?_
  rw [map_map]
  have hids : ((·._inviteId) ∘ fun other => if other = invite then updated else other) =
      CalendarInvite._inviteId := by
    funext other
    show (if other = invite then updated else other)._inviteId = other._inviteId
    split
    case isTrue heq => rw [hid, heq]
    case isFalse => rfl
  rw [hids]
  exact (mgr.storedInviteIds_perm eventId).symm

theorem liveEventIds_updateEvent (mgr : CalendarMgr) (hid : updated._eventId = event._eventId) :
    (mgr.updateEvent event updated).liveEventIds = mgr.liveEventIds := by
  unfold updateEvent liveEventIds
  rw [map_map]
  refine map_congr_left fun other _ => ?_
  show (if other = event then updated else other)._eventId = other._eventId
  split
  case isTrue heq => rw [hid, heq]
  case isFalse => rfl

/-! ## The queue of invite ids -/

/-- The queue of invite ids serves the stored invites. Only a row of the database can have
the id 0. -/
structure InvitesInOrder (zero : Prop) (mgr : CalendarMgr) : Prop where
  serves : mgr.inviteIds.Serves mgr.storedInviteIds
  positive : mgr.inviteIds.Positive
  stored : ∀ id ∈ mgr.storedInviteIds, 0 < id ∨ id = 0 ∧ zero

variable {zero : Prop} {used : List ℤ}

theorem deleteInvite_serves (hserves : mgr.inviteIds.Serves (invite._inviteId :: used))
    (hpositive : mgr.inviteIds.Positive) (hid : 0 ≤ invite._inviteId) :
    ∃ pool, mgr.deleteInvite invite = { mgr with inviteIds := pool } ∧ pool.Serves used ∧
      pool.Positive := by
  unfold deleteInvite
  split
  case isFalse =>
    exact ⟨mgr.inviteIds, rfl, hserves.sublist (sublist_cons_self _ _), hpositive⟩
  rename_i hreal
  have hpos : 0 < invite._inviteId := lt_of_le_of_ne hid (Ne.symm hreal.1)
  exact ⟨_, rfl, hserves.give, hpositive.give hpos⟩

theorem deleteInvites_serves {invites : List CalendarInvite}
    (hserves : mgr.inviteIds.Serves (invites.map (·._inviteId) ++ used))
    (hpos : mgr.inviteIds.Positive) (hids : ∀ invite ∈ invites, 0 ≤ invite._inviteId) :
    ∃ pool, invites.foldl deleteInvite mgr = { mgr with inviteIds := pool } ∧
      pool.Serves used ∧ pool.Positive := by
  induction invites generalizing mgr with
  | nil => exact ⟨mgr.inviteIds, rfl, hserves, hpos⟩
  | cons invite invites ih =>
    obtain ⟨pool, hdelete, hserves, hpos⟩ :=
      deleteInvite_serves hserves hpos (hids invite mem_cons_self)
    rw [foldl_cons, hdelete]
    obtain ⟨last, hdeletes, hlast⟩ := @ih { mgr with inviteIds := pool } hserves hpos
      fun other hother => hids other (mem_cons_of_mem _ hother)
    exact ⟨last, hdeletes, hlast⟩

theorem InvitesInOrder.nonneg (hinvites : mgr.InvitesInOrder zero)
    (hmem : invite ∈ mgr.GetEventInvites eventId) : 0 ≤ invite._inviteId := by
  have hstored : invite._inviteId ∈ mgr.storedInviteIds :=
    (mgr.storedInviteIds_perm eventId).mem_iff.mpr
      (mem_append_left _ (mem_map_of_mem hmem))
  rcases hinvites.stored _ hstored with hpos | ⟨heq, -⟩
  · exact hpos.le
  · exact heq.ge

theorem InvitesInOrder.perm {after : CalendarMgr} (hinvites : mgr.InvitesInOrder zero)
    (hpool : after.inviteIds = mgr.inviteIds)
    (hperm : after.storedInviteIds.Perm mgr.storedInviteIds) : after.InvitesInOrder zero where
  serves := hpool ▸ hinvites.serves.perm hperm.symm
  positive := hpool ▸ hinvites.positive
  stored id hid := hinvites.stored id (hperm.mem_iff.mp hid)

theorem InvitesInOrder.removed {after : CalendarMgr} (hinvites : mgr.InvitesInOrder zero)
    (hserves : after.inviteIds.Serves after.storedInviteIds)
    (hpos : after.inviteIds.Positive)
    (hsub : after.storedInviteIds ⊆ mgr.storedInviteIds) : after.InvitesInOrder zero where
  serves := hserves
  positive := hpos
  stored id hid := hinvites.stored id (hsub hid)

theorem InvitesInOrder.addNewInvite {run : CalendarRun} {invite : ℤ → CalendarInvite}
    (hinvites : run.mgr.InvitesInOrder zero) (hid : ∀ id, (invite id)._inviteId = id) :
    (run.addNewInvite event invite).mgr.InvitesInOrder zero := by
  show (run.mgr.GetFreeInviteId.2.AddInvite event
    (invite run.mgr.GetFreeInviteId.1)).InvitesInOrder zero
  obtain ⟨hpos, hpositive⟩ := hinvites.positive.take
  have hserves := hinvites.serves.take
  rw [AddInvite_eq]
  split
  · exact ⟨hserves.sublist (sublist_cons_self _ _), hpositive, hinvites.stored⟩
  have hperm := run.mgr.GetFreeInviteId.2.storedInviteIds_storeInvite
    (invite run.mgr.GetFreeInviteId.1)
  rw [hid] at hperm
  refine ⟨hserves.perm hperm.symm, hpositive, fun id hmem => ?_⟩
  rcases mem_cons.mp (hperm.mem_iff.mp hmem) with rfl | hold
  · exact .inl hpos
  · exact hinvites.stored id hold

theorem RemoveEvent_eq (hinvites : mgr.InvitesInOrder zero) (event : CalendarEvent) :
    ∃ pool, mgr.RemoveEvent event = ⟨mgr._events.erase event, mgr._invites.erase event._eventId,
          mgr.eventIds.give event._eventId, pool⟩ ∧
      pool.Serves (mgr.otherInviteIds event._eventId) ∧ pool.Positive := by
  have hserves := hinvites.serves.perm (mgr.storedInviteIds_perm event._eventId)
  obtain ⟨pool, hdeletes, hpool⟩ := deleteInvites_serves hserves hinvites.positive
    fun invite hmem => hinvites.nonneg hmem
  refine ⟨pool, ?_, hpool⟩
  unfold RemoveEvent
  rw [hdeletes]
  rfl

theorem otherInviteIds_subset (mgr : CalendarMgr) (eventId : ℤ) :
    mgr.otherInviteIds eventId ⊆ mgr.storedInviteIds := fun _ hid =>
  (mgr.storedInviteIds_perm eventId).mem_iff.mpr (mem_append_right _ hid)

theorem RemoveEvent_invites (hinvites : mgr.InvitesInOrder zero) (event : CalendarEvent) :
    (mgr.RemoveEvent event).InvitesInOrder zero := by
  obtain ⟨pool, hremove, hserves, hpos⟩ := RemoveEvent_eq hinvites event
  rw [hremove]
  exact hinvites.removed hserves hpos (mgr.otherInviteIds_subset event._eventId)

theorem liveEventIds_perm (hmem : event ∈ mgr._events) :
    mgr.liveEventIds.Perm (event._eventId :: (mgr._events.erase event).map (·._eventId)) :=
  (perm_cons_erase hmem).map CalendarEvent._eventId

theorem RemoveEvent_events (hinvites : mgr.InvitesInOrder zero)
    (hevents : mgr.eventIds.Serves mgr.liveEventIds) (hmem : event ∈ mgr._events) :
    (mgr.RemoveEvent event).eventIds.Serves (mgr.RemoveEvent event).liveEventIds := by
  obtain ⟨pool, hremove, -⟩ := RemoveEvent_eq hinvites event
  rw [hremove]
  exact (hevents.perm (liveEventIds_perm hmem)).give

theorem RemoveInvite_cases (mgr : CalendarMgr) (order : CalendarOrder) (inviteId eventId : ℤ) :
    mgr.RemoveInvite order inviteId eventId = mgr ∨
      ∃ event invite, mgr.GetEvent order eventId = some event ∧
        invite ∈ mgr.GetEventInvites eventId ∧ invite._inviteId = inviteId ∧
        mgr.RemoveInvite order inviteId eventId = (mgr.deleteInvite invite).setInvites eventId
          ((mgr.GetEventInvites eventId).erase invite) := by
  unfold RemoveInvite
  split
  · exact .inl rfl
  rename_i event hevent
  split
  · exact .inl rfl
  rename_i invite hfind
  exact .inr ⟨event, invite, hevent, mem_of_find?_eq_some hfind,
    by simpa using List.find?_some hfind, rfl⟩

theorem RemoveInvite_invites (hinvites : mgr.InvitesInOrder zero) :
    (mgr.RemoveInvite order inviteId eventId).InvitesInOrder zero := by
  obtain hsame | ⟨event, invite, -, hmem, -, hremove⟩ :=
    mgr.RemoveInvite_cases order inviteId eventId
  · rw [hsame]
    exact hinvites
  · have hlist : ((mgr.GetEventInvites eventId).map (·._inviteId)).Perm
        (invite._inviteId :: ((mgr.GetEventInvites eventId).erase invite).map (·._inviteId)) :=
      (perm_cons_erase hmem).map (·._inviteId)
    have hperm := (mgr.storedInviteIds_perm eventId).trans (hlist.append_right _)
    obtain ⟨pool, hdelete, hserves, hpos⟩ := deleteInvite_serves
      (hinvites.serves.perm hperm) hinvites.positive (hinvites.nonneg hmem)
    have hafter := mgr.storedInviteIds_setInvites eventId
      ((mgr.GetEventInvites eventId).erase invite)
    rw [hremove, hdelete]
    refine hinvites.removed (hserves.perm hafter.symm) hpos fun id hid => ?_
    exact hperm.mem_iff.mpr (mem_cons_of_mem _ (hafter.mem_iff.mp hid))

theorem RemoveInvite_frame (mgr : CalendarMgr) (order : CalendarOrder) (inviteId eventId : ℤ) :
    (mgr.RemoveInvite order inviteId eventId)._events = mgr._events ∧
      (mgr.RemoveInvite order inviteId eventId).eventIds = mgr.eventIds := by
  obtain hsame | ⟨event, invite, -, -, -, hremove⟩ := mgr.RemoveInvite_cases order inviteId eventId
  · rw [hsame]
    exact ⟨rfl, rfl⟩
  · rw [hremove]
    unfold deleteInvite
    split
    · exact ⟨rfl, rfl⟩
    · exact ⟨rfl, rfl⟩

def Owned (orphan : ℤ → Prop) (owners : List ℤ) (mgr : CalendarMgr) : Prop :=
  ∀ eventId, mgr.GetEventInvites eventId ≠ [] → eventId ∈ owners ∨ orphan eventId

variable {orphan : ℤ → Prop} {owners : List ℤ}

theorem Owned.mono {others : List ℤ} (howned : mgr.Owned orphan owners)
    (hsub : owners ⊆ others) : mgr.Owned orphan others := fun eventId hlist =>
  (howned eventId hlist).imp_left fun hmem => hsub hmem

theorem Owned.setInvites (howned : mgr.Owned orphan owners) {list : List CalendarInvite}
    (howner : list ≠ [] → eventId ∈ owners ∨ orphan eventId) :
    (mgr.setInvites eventId list).Owned orphan owners := by
  intro other hlist
  rw [GetEventInvites_setInvites] at hlist
  split at hlist
  case isTrue heq => exact heq ▸ howner hlist
  case isFalse => exact howned other hlist

theorem Owned.addNewInvite {run : CalendarRun} {invite : ℤ → CalendarInvite}
    (howned : run.mgr.Owned orphan owners) (howner : ∀ id, (invite id)._eventId ∈ owners) :
    (run.addNewInvite event invite).mgr.Owned orphan owners := by
  show (run.mgr.GetFreeInviteId.2.AddInvite event
    (invite run.mgr.GetFreeInviteId.1)).Owned orphan owners
  rw [AddInvite_eq]
  split
  · exact howned
  have hbefore : run.mgr.GetFreeInviteId.2.Owned orphan owners := howned
  exact hbefore.setInvites fun _ => .inl (howner _)

theorem Owned.updateInvite (howned : mgr.Owned orphan owners) (eventId : ℤ)
    (invite updated : CalendarInvite) :
    (mgr.updateInvite eventId invite updated).Owned orphan owners :=
  howned.setInvites fun hlist => howned eventId fun hnil => hlist (by rw [hnil, map_nil])

theorem Owned.RemoveInvite (howned : mgr.Owned orphan owners) :
    (mgr.RemoveInvite order inviteId eventId).Owned orphan owners := by
  obtain hsame | ⟨event, invite, -, hmem, -, hremove⟩ :=
    mgr.RemoveInvite_cases order inviteId eventId
  · rw [hsame]
    exact howned
  · have hdeleted : (mgr.deleteInvite invite).Owned orphan owners := by
      unfold deleteInvite
      split
      · exact howned
      · exact howned
    rw [hremove]
    exact hdeleted.setInvites fun _ => howned eventId (ne_nil_of_mem hmem)

theorem Owned.RemoveEvent (hinvites : mgr.InvitesInOrder zero)
    (howned : mgr.Owned orphan mgr.liveEventIds) (hmem : event ∈ mgr._events) :
    (mgr.RemoveEvent event).Owned orphan (mgr.RemoveEvent event).liveEventIds := by
  obtain ⟨pool, hremove, -⟩ := RemoveEvent_eq hinvites event
  rw [hremove]
  intro eventId hlist
  unfold GetEventInvites at hlist
  rw [StdMap.find?_erase] at hlist
  split at hlist
  · exact absurd rfl hlist
  rename_i hother
  refine (howned eventId hlist).imp_left fun hlive => ?_
  rcases mem_cons.mp ((liveEventIds_perm hmem).mem_iff.mp hlive) with heq | hrest
  · exact absurd heq.symm hother
  · exact hrest

end CalendarMgr

namespace CalendarRun

structure InOrder (zero : Prop) (orphan : ℤ → Prop) (building : List ℤ) (run : CalendarRun) :
    Prop where
  events : run.mgr.eventIds.Serves (building ++ run.mgr.liveEventIds)
  invites : run.mgr.InvitesInOrder zero
  owned : run.mgr.Owned orphan (building ++ run.mgr.liveEventIds)
  handedOut : ∀ handout ∈ run.handedOut, handout.id ∉ handout.inUse

variable {zero : Prop} {orphan : ℤ → Prop} {building : List ℤ} {run : CalendarRun}
  {env : CalendarEnv} {session : CalendarSession}

theorem InOrder.newEventId (horder : run.InOrder zero orphan []) :
    run.newEventId.2.InOrder zero orphan [run.newEventId.1] where
  events := horder.events.take
  invites := horder.invites.perm rfl (List.Perm.refl _)
  owned := horder.owned.mono (subset_append_right _ _)
  handedOut := forall_mem_cons.mpr ⟨horder.events.take_unused, horder.handedOut⟩

theorem addNewInvite_frame (run : CalendarRun) (event : CalendarEvent)
    (invite : ℤ → CalendarInvite) :
    (run.addNewInvite event invite).mgr._events = run.mgr._events ∧
      (run.addNewInvite event invite).mgr.eventIds = run.mgr.eventIds := by
  show (run.mgr.GetFreeInviteId.2.AddInvite event
      (invite run.mgr.GetFreeInviteId.1))._events = run.mgr._events ∧
    (run.mgr.GetFreeInviteId.2.AddInvite event
      (invite run.mgr.GetFreeInviteId.1)).eventIds = run.mgr.eventIds
  unfold CalendarMgr.AddInvite
  split
  · exact ⟨rfl, rfl⟩
  · exact ⟨rfl, rfl⟩

theorem InOrder.addNewInvite (horder : run.InOrder zero orphan building)
    {invite : ℤ → CalendarInvite} (hid : ∀ id, (invite id)._inviteId = id)
    (howner : ∀ id, (invite id)._eventId ∈ building ++ run.mgr.liveEventIds) :
    (run.addNewInvite event invite).InOrder zero orphan building := by
  obtain ⟨hevents, hids⟩ := run.addNewInvite_frame event invite
  have hlive : (run.addNewInvite event invite).mgr.liveEventIds = run.mgr.liveEventIds := by
    rw [CalendarMgr.liveEventIds, hevents, CalendarMgr.liveEventIds]
  refine ⟨?_, horder.invites.addNewInvite hid, ?_, ?_⟩
  · rw [hids, hlive]
    exact horder.events
  · rw [hlive]
    exact horder.owned.addNewInvite howner
  · exact forall_mem_cons.mpr ⟨horder.invites.serves.take_unused, horder.handedOut⟩

theorem InOrder.addNewInvites {α : Type*} (horder : run.InOrder zero orphan building)
    {invite : α → ℤ → CalendarInvite} (hid : ∀ invitee id, (invite invitee id)._inviteId = id)
    (howner : ∀ invitee id, (invite invitee id)._eventId ∈ building ++ run.mgr.liveEventIds)
    (list : List α) :
    (list.foldl (fun run invitee => run.addNewInvite event (invite invitee)) run).InOrder
      zero orphan building := by
  induction list generalizing run with
  | nil => exact horder
  | cons invitee list ih =>
    have hevents := (run.addNewInvite_frame event (invite invitee)).1
    refine ih (horder.addNewInvite (hid invitee) (howner invitee)) fun other id => ?_
    rw [CalendarMgr.liveEventIds, hevents]
    exact howner other id

theorem InOrder.addEvent (horder : run.InOrder zero orphan [event._eventId]) :
    (run.update (run.mgr.AddEvent event)).InOrder zero orphan [] :=
  ⟨horder.events, horder.invites.perm rfl (List.Perm.refl _), horder.owned, horder.handedOut⟩

theorem InOrder.deleteEvent (horder : run.InOrder zero orphan [event._eventId])
    (howned : run.mgr.Owned orphan run.mgr.liveEventIds) :
    (run.update (run.mgr.deleteEvent event)).InOrder zero orphan [] :=
  ⟨horder.events.give, horder.invites.perm rfl (List.Perm.refl _), howned, horder.handedOut⟩

section

variable (horder : run.InOrder zero orphan [])
include horder

theorem InOrder.createEvent (packet : AddEventPacket) :
    (Calendar.createEvent env session run packet).1.InOrder zero orphan [] := by
  have hbuilding : run.newEventId.2.InOrder zero orphan
      [(newEvent env session packet run.newEventId.1)._eventId] := horder.newEventId
  unfold Calendar.createEvent
  dsimp only
  split
  case isTrue hannounced =>
    rw [CalendarMgr.AddInvite_eq, if_pos hannounced]
    exact hbuilding.addEvent
  case isFalse =>
    split
    · exact hbuilding.deleteEvent horder.owned
    rename_i invitees
    refine InOrder.addEvent (hbuilding.addNewInvites (fun _ _ => rfl) (fun _ _ => ?_) _)
    exact mem_append_left _ mem_cons_self

theorem InOrder.copyEvent (oldEvent : CalendarEvent)
    (eventId eventTime : ℤ) :
    (Calendar.copyEvent run oldEvent eventId eventTime).1.InOrder zero orphan [] := by
  have hbuilding : run.newEventId.2.InOrder zero orphan
      [{ oldEvent with _eventId := run.newEventId.1, _eventTime := eventTime }._eventId] :=
    horder.newEventId
  exact hbuilding.addEvent.addNewInvites (fun _ _ => rfl) (fun _ _ => mem_cons_self) _

theorem InOrder.RemoveEvent (hmem : event ∈ run.mgr._events) :
    (run.update (run.mgr.RemoveEvent event)).InOrder zero orphan [] where
  events := CalendarMgr.RemoveEvent_events horder.invites horder.events hmem
  invites := CalendarMgr.RemoveEvent_invites horder.invites event
  owned := CalendarMgr.Owned.RemoveEvent horder.invites horder.owned hmem
  handedOut := horder.handedOut

theorem InOrder.RemoveInvite (order : CalendarOrder)
    (inviteId eventId : ℤ) :
    (run.update (run.mgr.RemoveInvite order inviteId eventId)).InOrder zero orphan [] := by
  obtain ⟨hevents, hids⟩ := run.mgr.RemoveInvite_frame order inviteId eventId
  have hlive : (run.mgr.RemoveInvite order inviteId eventId).liveEventIds =
      run.mgr.liveEventIds := by
    rw [CalendarMgr.liveEventIds, hevents, CalendarMgr.liveEventIds]
  refine ⟨?_, CalendarMgr.RemoveInvite_invites horder.invites, ?_, horder.handedOut⟩
  · show (run.mgr.RemoveInvite order inviteId eventId).eventIds.Serves
      ([] ++ (run.mgr.RemoveInvite order inviteId eventId).liveEventIds)
    rw [hids, hlive]
    exact horder.events
  · show (run.mgr.RemoveInvite order inviteId eventId).Owned orphan
      ([] ++ (run.mgr.RemoveInvite order inviteId eventId).liveEventIds)
    rw [hlive]
    exact horder.owned.RemoveInvite

theorem InOrder.RemoveEvents (old : CalendarEvent → Prop)
    [DecidablePred old] {events : List CalendarEvent} (hnodup : events.Nodup)
    (hsub : events ⊆ run.mgr._events) :
    (run.update (events.foldl (fun mgr event =>
      if old event then mgr.RemoveEvent event else mgr) run.mgr)).InOrder zero orphan [] := by
  induction events generalizing run with
  | nil => exact horder
  | cons event events ih =>
    obtain ⟨hnew, hnodup⟩ := nodup_cons.mp hnodup
    have hmem : event ∈ run.mgr._events := hsub mem_cons_self
    have hrest : events ⊆ run.mgr._events := subset_of_cons_subset hsub
    rw [foldl_cons]
    split
    case isFalse => exact ih horder hnodup hrest
    refine ih (horder.RemoveEvent hmem) hnodup fun other hother => ?_
    obtain ⟨pool, hremove, -⟩ := CalendarMgr.RemoveEvent_eq horder.invites event
    have hne : other ≠ event := fun heq => hnew (heq ▸ hother)
    rw [hremove]
    exact (mem_erase_of_ne hne).mpr (hrest hother)

theorem InOrder.DeleteOldEvents (order : CalendarOrder)
    (gameTime : ℤ) :
    (run.update (run.mgr.DeleteOldEvents order gameTime)).InOrder zero orphan [] := by
  have hperm := order.events_perm run.mgr._events
  have hnodup : run.mgr._events.Nodup := List.Nodup.of_map _ horder.events.used_nodup
  exact horder.RemoveEvents _ (hperm.nodup_iff.mpr hnodup) hperm.subset

theorem InOrder.changeInvite (inviteId : ℤ)
    {change : CalendarInvite → CalendarInvite}
    (hid : ∀ invite, (change invite)._inviteId = invite._inviteId) :
    (Calendar.changeInvite env run inviteId change).1.InOrder zero orphan [] := by
  unfold Calendar.changeInvite
  split
  · exact horder
  rename_i stored _
  refine ⟨horder.events, ?_, horder.owned.updateInvite _ _ _, horder.handedOut⟩
  exact horder.invites.perm rfl
    (run.mgr.storedInviteIds_updateInvite stored.1 (hid stored.2))

theorem InOrder.HandleCalendarAddEvent (packet : AddEventPacket) :
    (Calendar.HandleCalendarAddEvent env session run packet).1.InOrder zero orphan [] := by
  unfold Calendar.HandleCalendarAddEvent
  split
  · exact horder
  split
  · exact horder
  split
  · exact horder
  split
  · exact horder
  split
  · exact horder
  · exact horder.createEvent packet

theorem InOrder.updateEvent (hid : updated._eventId = event._eventId) :
    (run.update (run.mgr.updateEvent event updated)).InOrder zero orphan [] := by
  have hlive := run.mgr.liveEventIds_updateEvent hid
  refine ⟨?_, horder.invites.perm rfl (List.Perm.refl _), ?_, horder.handedOut⟩
  · exact hlive ▸ horder.events
  · exact hlive ▸ horder.owned

theorem InOrder.HandleCalendarUpdateEvent (packet : UpdateEventPacket) :
    (Calendar.HandleCalendarUpdateEvent env run packet).1.InOrder zero orphan [] := by
  unfold Calendar.HandleCalendarUpdateEvent
  split
  · exact horder
  split
  · exact horder
  split
  · exact horder
  case h_2 event _ => exact horder.updateEvent rfl

theorem InOrder.HandleCalendarCopyEvent (eventId eventTime : ℤ) :
    (Calendar.HandleCalendarCopyEvent env session run eventId eventTime).1.InOrder
      zero orphan [] := by
  unfold Calendar.HandleCalendarCopyEvent
  split
  · exact horder
  split
  · exact horder
  split
  · exact horder
  split
  · exact horder
  split
  · exact horder
  · exact horder.copyEvent ..

end

theorem mem_liveEventIds {eventId : ℤ} (hget : run.mgr.GetEvent env.order eventId = some event) :
    eventId ∈ run.mgr.liveEventIds := by
  obtain ⟨hmem, rfl⟩ := CalendarMgr.GetEvent_some hget
  exact mem_map_of_mem hmem

section

variable (horder : run.InOrder zero orphan [])
include horder

theorem InOrder.HandleCalendarEventInvite
    (eventId : ℤ) (name : String) (isPreInvite isGuildEvent : Bool) :
    (Calendar.HandleCalendarEventInvite env session run eventId name isPreInvite
      isGuildEvent).1.InOrder zero orphan [] := by
  unfold Calendar.HandleCalendarEventInvite
  split
  · exact horder
  split
  · exact horder
  split
  · exact horder
  split
  · split
    · exact horder
    · exact horder
  split
  · exact horder
  rename_i event hget
  split
  · exact horder
  dsimp only
  apply horder.addNewInvite
  · exact fun _ => rfl
  · exact fun _ => mem_liveEventIds hget

theorem InOrder.HandleCalendarEventSignup (eventId : ℤ) (tentative : Bool) :
    (Calendar.HandleCalendarEventSignup env session run eventId tentative).1.InOrder
      zero orphan [] := by
  unfold Calendar.HandleCalendarEventSignup
  split
  · exact horder
  rename_i event hget
  split
  · exact horder
  dsimp only
  apply horder.addNewInvite
  · exact fun _ => rfl
  · exact fun _ => mem_liveEventIds hget

theorem InOrder.perform (op : CalendarOp) : (run.perform op).1.InOrder zero orphan [] := by
  obtain ⟨env, session, request⟩ := op
  cases request with
  | addEvent packet => exact horder.HandleCalendarAddEvent packet
  | updateEvent packet => exact horder.HandleCalendarUpdateEvent packet
  | removeEvent eventId =>
    unfold CalendarRun.perform Calendar.HandleCalendarRemoveEvent
    dsimp only
    split
    · exact horder
    case h_2 event hget => exact horder.RemoveEvent (CalendarMgr.GetEvent_some hget).1
  | copyEvent eventId eventTime => exact horder.HandleCalendarCopyEvent eventId eventTime
  | eventInvite eventId name isPreInvite isGuildEvent =>
    exact horder.HandleCalendarEventInvite eventId name isPreInvite isGuildEvent
  | eventSignup eventId tentative => exact horder.HandleCalendarEventSignup eventId tentative
  | eventRsvp eventId inviteId status =>
    unfold CalendarRun.perform Calendar.HandleCalendarEventRsvp
    dsimp only
    split
    · exact horder
    split
    · exact horder
    · exact horder.changeInvite inviteId fun _ => rfl
  | eventRemoveInvite invitee inviteId eventId =>
    unfold CalendarRun.perform Calendar.HandleCalendarEventRemoveInvite
    dsimp only
    split
    · exact horder
    split
    · exact horder
    · exact horder.RemoveInvite env.order inviteId eventId
  | eventStatus eventId inviteId status =>
    unfold CalendarRun.perform Calendar.HandleCalendarEventStatus
    dsimp only
    split
    · exact horder
    · exact horder.changeInvite inviteId fun _ => rfl
  | eventModeratorStatus eventId inviteId rank =>
    unfold CalendarRun.perform Calendar.HandleCalendarEventModeratorStatus
    dsimp only
    split
    · exact horder
    · exact horder.changeInvite inviteId fun _ => rfl
  | removeInvite inviteId eventId => exact horder.RemoveInvite env.order inviteId eventId
  | deleteOldEvents => exact horder.DeleteOldEvents env.order env.gameTime

end

end CalendarRun

structure CalendarTables where
  events : List CalendarEventRow
  invites : List CalendarInviteRow
  eventIds_nodup : (events.map (·.id)).Nodup
  inviteIds_nodup : (invites.map (·.id)).Nodup

namespace CalendarTables

variable {tables : CalendarTables}

def ZeroInvite (tables : CalendarTables) : Prop := ∃ row ∈ tables.invites, row.id = 0

def Orphan (tables : CalendarTables) (eventId : ℤ) : Prop :=
  (∃ row ∈ tables.invites, (row.event : ℤ) = eventId) ∧
    ∀ row ∈ tables.events, (row.id : ℤ) ≠ eventId

/-- What `LoadFromDB` leaves. -/
def Loaded (tables : CalendarTables) (run : CalendarRun) : Prop :=
  run.handedOut = [] ∧ ∃ order guildIdByGuid,
    run.mgr = CalendarMgr.LoadFromDB order guildIdByGuid tables.events tables.invites

theorem storeInvites (mgr : CalendarMgr) (invites : List CalendarInvite) :
    (invites.foldl CalendarMgr.storeInvite mgr)._events = mgr._events ∧
      (invites.foldl CalendarMgr.storeInvite mgr).storedInviteIds.Perm
        (invites.map (·._inviteId) ++ mgr.storedInviteIds) ∧
      ∀ eventId, (invites.foldl CalendarMgr.storeInvite mgr).GetEventInvites eventId =
        mgr.GetEventInvites eventId ++ invites.filter (·._eventId = eventId) := by
  induction invites generalizing mgr with
  | nil => exact ⟨rfl, List.Perm.refl _, fun _ => (append_nil _).symm⟩
  | cons invite invites ih =>
    obtain ⟨hevents, hids, hlists⟩ := ih (mgr.storeInvite invite)
    refine ⟨hevents, ?_, fun eventId => ?_⟩
    · refine hids.trans (((mgr.storedInviteIds_storeInvite invite).append_left _).trans ?_)
      exact perm_middle
    · rw [foldl_cons, hlists eventId, CalendarMgr.storeInvite,
        CalendarMgr.GetEventInvites_setInvites, filter_cons]
      by_cases heq : invite._eventId = eventId
      · rw [if_pos heq, if_pos (decide_eq_true heq), heq, append_assoc, singleton_append]
      · rw [if_neg heq, if_neg (by simpa using heq)]

theorem Loaded.inOrder {run : CalendarRun} (hloaded : tables.Loaded run) :
    run.InOrder tables.ZeroInvite tables.Orphan [] := by
  obtain ⟨hnone, order, guildIdByGuid, hload⟩ := hloaded
  obtain ⟨hevents, hids, hlists⟩ := storeInvites
    { CalendarMgr.empty with
      _events := tables.events.map (CalendarMgr.loadEvent guildIdByGuid) }
    (tables.invites.map CalendarMgr.loadInvite)
  have hlive : run.mgr.liveEventIds = tables.events.map fun row => (row.id : ℤ) := by
    rw [hload]
    exact (congrArg (List.map CalendarEvent._eventId) hevents).trans map_map
  have hstored : run.mgr.storedInviteIds.Perm (tables.invites.map fun row => (row.id : ℤ)) := by
    rw [hload]
    refine hids.trans ?_
    rw [map_map]
    exact (append_nil _).symm ▸ List.Perm.refl _
  have hlist : ∀ eventId, run.mgr.GetEventInvites eventId =
      (tables.invites.map CalendarMgr.loadInvite).filter (·._eventId = eventId) := by
    intro eventId
    rw [hload]
    exact hlists eventId
  have hcast : Function.Injective fun natural : ℕ => (natural : ℤ) := fun _ _ => Int.ofNat.inj
  have heventIds : (tables.events.map fun row => (row.id : ℤ)).Nodup := by
    have := tables.eventIds_nodup.map hcast
    rwa [map_map] at this
  have hinviteIds : (tables.invites.map fun row => (row.id : ℤ)).Nodup := by
    have := tables.inviteIds_nodup.map hcast
    rwa [map_map] at this
  refine ⟨?_, ⟨?_, ?_, ?_⟩, ?_, ?_⟩
  · have hserves := @IdPool.serves_gaps _ (fun id => (run.mgr.GetEvent order id).isSome)
      heventIds fun id hid => CalendarMgr.isSome_GetEvent (hlive ▸ hid)
    rw [nil_append, hlive]
    rw [hload] at hserves ⊢
    exact hserves
  · have hserves := @IdPool.serves_gaps _ (fun id => (run.mgr.GetInvite order id).isSome)
      hinviteIds fun id hid => CalendarMgr.isSome_GetInvite (hstored.mem_iff.mpr hid)
    refine IdPool.Serves.perm ?_ hstored.symm
    rw [hload] at hserves ⊢
    exact hserves
  · rw [hload]
    exact IdPool.positive_gaps _ _
  · intro id hid
    obtain ⟨row, hrow, rfl⟩ := mem_map.mp (hstored.mem_iff.mp hid)
    rcases Nat.eq_zero_or_pos row.id with hzero | hpos
    · exact .inr ⟨by rw [hzero]; rfl, row, hrow, hzero⟩
    · exact .inl (by omega)
  · intro eventId hinvites
    rw [hlist] at hinvites
    obtain ⟨invite, hinvite⟩ := exists_mem_of_ne_nil _ hinvites
    obtain ⟨hmem, hevent⟩ := mem_filter.mp hinvite
    obtain ⟨row, hrow, rfl⟩ := mem_map.mp hmem
    by_cases hfound : eventId ∈ run.mgr.liveEventIds
    · exact .inl hfound
    refine .inr ⟨⟨row, hrow, of_decide_eq_true hevent⟩, fun event hin heq => hfound ?_⟩
    rw [hlive]
    exact mem_map.mpr ⟨event, hin, heq⟩
  · rw [hnone]
    exact forall_mem_nil _

end CalendarTables

/-- In every run the events and the stored invites have distinct ids, an id that is handed out
is not in use, and a list of invites belongs to an event unless the database had it without. -/
theorem calendar_ids_stay_distinct {tables : CalendarTables} {run : CalendarRun}
    (hreach : Reachable tables.Loaded
      (fun before op after => after = (CalendarRun.perform before op).1) run) :
    run.mgr.liveEventIds.Nodup ∧ run.mgr.storedInviteIds.Nodup ∧
      (0 ∈ run.mgr.storedInviteIds → tables.ZeroInvite) ∧
      (∀ handout ∈ run.handedOut, handout.id ∉ handout.inUse) ∧
      ∀ eventId, run.mgr.GetEventInvites eventId ≠ [] →
        eventId ∈ run.mgr.liveEventIds ∨ tables.Orphan eventId := by
  have horder : run.InOrder tables.ZeroInvite tables.Orphan [] := by
    apply hreach.invariant
    · exact fun start hloaded => hloaded.inOrder
    · rintro before op after hbefore rfl
      exact hbefore.perform op
  refine ⟨horder.events.used_nodup, horder.invites.serves.used_nodup, fun hzero => ?_,
    horder.handedOut, horder.owned⟩
  rcases horder.invites.stored 0 hzero with hpos | ⟨-, hrow⟩
  · exact absurd hpos (lt_irrefl 0)
  · exact hrow

/-! ## Tables with one row -/

def listOrder : CalendarOrder :=
  ⟨id, fun _ => List.Perm.refl _, StdMap.entries, fun _ => List.Perm.refl _⟩

def strayTables : CalendarTables where
  events := []
  invites := [⟨0, 7, 1, 1, 0, 0, 0, []⟩]
  eventIds_nodup := nodup_nil
  inviteIds_nodup := nodup_singleton _

def strayRun : CalendarRun :=
  ⟨CalendarMgr.LoadFromDB listOrder (fun _ => 0) strayTables.events strayTables.invites, []⟩

theorem strayRun_loaded : strayTables.Loaded strayRun := ⟨rfl, listOrder, fun _ => 0, rfl⟩

/-- The rows are stored as they are. -/
theorem stray_invites_are_stored :
    (¬∀ (tables : CalendarTables) (run : CalendarRun), Reachable tables.Loaded
        (fun before op after => after = (CalendarRun.perform before op).1) run →
      0 ∉ run.mgr.storedInviteIds) ∧
    ¬∀ (tables : CalendarTables) (run : CalendarRun), Reachable tables.Loaded
        (fun before op after => after = (CalendarRun.perform before op).1) run →
      ∀ eventId, run.mgr.GetEventInvites eventId ≠ [] → eventId ∈ run.mgr.liveEventIds := by
  constructor
  · intro hclaim
    exact hclaim strayTables strayRun (.start strayRun_loaded) (by decide +kernel)
  · intro hclaim
    have hlive := hclaim strayTables strayRun (.start strayRun_loaded) 7 (by decide +kernel)
    exact absurd hlive (by decide +kernel)

def smallTables : CalendarTables where
  events := [⟨1, 5, [], [], 4, -1, 1000, 0, 1000⟩]
  invites := [⟨3, 1, 5, 5, 0, 0, 0, []⟩]
  eventIds_nodup := nodup_singleton _
  inviteIds_nodup := nodup_singleton _

def smallEnv : CalendarEnv where
  order := listOrder
  gameTime := 1000
  FindPlayerByName _ := none
  GetCharacterGuidByName _ := none
  GetCharacterCacheByGuid _ := none
  FindConnectedPlayer _ := none
  ignored _ _ := false
  twoSide := false

def smallRun : CalendarRun :=
  ⟨CalendarMgr.LoadFromDB listOrder (fun _ => 0) smallTables.events smallTables.invites, []⟩

/-- The first sign-up gets the lowest free id. -/
theorem signup_gets_a_free_id :
    ∃ run : CalendarRun, run.handedOut.map (·.id) = [1] ∧ run.mgr.storedInviteIds = [3, 1] ∧
      run.mgr.storedInviteIds.Nodup := by
  have hreach : Reachable smallTables.Loaded
      (fun before op after => after = (CalendarRun.perform before op).1)
      (smallRun.perform ⟨smallEnv, ⟨6, 0, 0, 0⟩, .eventSignup 1 false⟩).1 :=
    @Reachable.step _ _ _ _ _ _ (⟨smallEnv, ⟨6, 0, 0, 0⟩, .eventSignup 1 false⟩ : CalendarOp)
      (.start ⟨rfl, listOrder, fun _ => 0, rfl⟩) rfl
  exact ⟨_, by decide +kernel, by decide +kernel, (calendar_ids_stay_distinct hreach).2.1⟩

end AzerothCore.Calendar

/-! ## Invitees and requests about invites -/

namespace AzerothCore.Calendar

open List
open Reachability

namespace CalendarMgr

def DistinctInvitees (mgr : CalendarMgr) : Prop :=
  ∀ event ∈ mgr._events, ((mgr.GetEventInvites event._eventId).map (·._invitee)).Nodup

instance (mgr : CalendarMgr) : Decidable mgr.DistinctInvitees :=
  inferInstanceAs (Decidable (∀ event ∈ mgr._events,
    ((mgr.GetEventInvites event._eventId).map (·._invitee)).Nodup))

/-- Only the invites of one event change. -/
structure OnlyEvent (eventId : ℤ) (before after : CalendarMgr) : Prop where
  events : after._events = before._events
  others : ∀ other, other ≠ eventId → after.GetEventInvites other = before.GetEventInvites other

/-- Only the invite with an id changes, if it is one of the event. -/
structure OnlyInvite (eventId inviteId : ℤ) (before after : CalendarMgr) : Prop
    extends OnlyEvent eventId before after where
  rest : (after.GetEventInvites eventId).filter (·._inviteId ≠ inviteId) =
    (before.GetEventInvites eventId).filter (·._inviteId ≠ inviteId)
  absent : (∀ invite ∈ before.GetEventInvites eventId, invite._inviteId ≠ inviteId) →
    after.GetEventInvites eventId = before.GetEventInvites eventId

variable {mgr after : CalendarMgr} {order : CalendarOrder} {eventId inviteId : ℤ}

theorem OnlyInvite.refl (mgr : CalendarMgr) : OnlyInvite eventId inviteId mgr mgr :=
  ⟨⟨rfl, fun _ _ => rfl⟩, rfl, fun _ => rfl⟩

theorem OnlyEvent.setInvites (hevents : after._events = mgr._events)
    (hinvites : after._invites = mgr._invites) (list : List CalendarInvite) :
    OnlyEvent eventId mgr (after.setInvites eventId list) where
  events := hevents
  others other hne := by
    rw [GetEventInvites_setInvites, if_neg hne.symm, GetEventInvites, GetEventInvites, hinvites]

theorem DistinctInvitees.of_onlyEvent (hdist : mgr.DistinctInvitees)
    (honly : OnlyEvent eventId mgr after)
    (hlist : ((mgr.GetEventInvites eventId).map (·._invitee)).Nodup →
      ((after.GetEventInvites eventId).map (·._invitee)).Nodup) : after.DistinctInvitees := by
  intro event hevent
  have hbefore := hdist event (honly.events ▸ hevent)
  by_cases heq : event._eventId = eventId
  · rw [heq] at hbefore ⊢
    exact hlist hbefore
  · rw [honly.others _ heq]
    exact hbefore

theorem GetInvite_some {stored : ℤ × CalendarInvite}
    (hget : mgr.GetInvite order inviteId = some stored) :
    stored.2 ∈ mgr.GetEventInvites stored.1 ∧ stored.2._inviteId = inviteId := by
  refine ⟨?_, by simpa using List.find?_some hget⟩
  obtain ⟨entry, hentry, hstored⟩ := mem_flatMap.mp (mem_of_find?_eq_some hget)
  obtain ⟨invite, hinvite, rfl⟩ := mem_map.mp hstored
  have hfind := StdMap.find?_eq_some_iff.mpr ((order.invites_perm _).mem_iff.mp hentry)
  show invite ∈ (mgr._invites.find? entry.1).getD []
  rw [hfind]
  exact hinvite

variable {invite updated : CalendarInvite}

theorem filter_map_update (hinvite : invite._inviteId = inviteId)
    (hupdated : updated._inviteId = inviteId) (list : List CalendarInvite) :
    (list.map fun other => if other = invite then updated else other).filter
      (·._inviteId ≠ inviteId) = list.filter (·._inviteId ≠ inviteId) := by
  induction list with
  | nil => rfl
  | cons head rest ih =>
    rw [map_cons, filter_cons, filter_cons, ih]
    by_cases heq : head = invite
    · rw [if_pos heq, heq, hinvite, hupdated]
      simp
    · rw [if_neg heq]

theorem filter_erase_update (hinvite : invite._inviteId = inviteId) (list : List CalendarInvite) :
    (list.erase invite).filter (·._inviteId ≠ inviteId) = list.filter (·._inviteId ≠ inviteId) := by
  induction list with
  | nil => rfl
  | cons head rest ih =>
    by_cases heq : head = invite
    · rw [heq, erase_cons_head, filter_cons, hinvite]
      simp
    · rw [erase_cons_tail (by simpa using heq), filter_cons, filter_cons, ih]

theorem updateInvite_only (hmem : invite ∈ mgr.GetEventInvites eventId)
    (hinvite : invite._inviteId = inviteId) (hupdated : updated._inviteId = inviteId) :
    OnlyInvite eventId inviteId mgr (mgr.updateInvite eventId invite updated) where
  toOnlyEvent := OnlyEvent.setInvites rfl rfl _
  rest := by
    rw [updateInvite, GetEventInvites_setInvites, if_pos rfl]
    exact filter_map_update hinvite hupdated _
  absent habsent := absurd hinvite (habsent invite hmem)

theorem updateInvite_distinct (hdist : mgr.DistinctInvitees) (eventId : ℤ)
    (hinvitee : updated._invitee = invite._invitee) :
    (mgr.updateInvite eventId invite updated).DistinctInvitees := by
  have honly : OnlyEvent eventId mgr (mgr.updateInvite eventId invite updated) :=
    OnlyEvent.setInvites rfl rfl _
  refine hdist.of_onlyEvent honly fun hlist => ?_
  rw [updateInvite, GetEventInvites_setInvites, if_pos rfl, map_map]
  have hinvitees : ((·._invitee) ∘ fun other => if other = invite then updated else other) =
      CalendarInvite._invitee := by
    funext other
    show (if other = invite then updated else other)._invitee = other._invitee
    split
    case isTrue heq => rw [hinvitee, heq]
    case isFalse => rfl
  rw [hinvitees]
  exact hlist

theorem RemoveInvite_only (mgr : CalendarMgr) (order : CalendarOrder) (inviteId eventId : ℤ) :
    OnlyInvite eventId inviteId mgr (mgr.RemoveInvite order inviteId eventId) ∧
      ((mgr.RemoveInvite order inviteId eventId).GetEventInvites eventId).Sublist
        (mgr.GetEventInvites eventId) := by
  obtain hsame | ⟨event, invite, -, hmem, hinvite, hremove⟩ :=
    mgr.RemoveInvite_cases order inviteId eventId
  · rw [hsame]
    exact ⟨.refl mgr, List.Sublist.refl _⟩
  · have hdelete : (mgr.deleteInvite invite)._events = mgr._events ∧
        (mgr.deleteInvite invite)._invites = mgr._invites := by
      unfold deleteInvite
      split
      · exact ⟨rfl, rfl⟩
      · exact ⟨rfl, rfl⟩
    have hlist : (mgr.RemoveInvite order inviteId eventId).GetEventInvites eventId =
        (mgr.GetEventInvites eventId).erase invite := by
      rw [hremove, GetEventInvites_setInvites, if_pos rfl]
    refine ⟨⟨?_, ?_, fun habsent => absurd hinvite (habsent invite hmem)⟩, ?_⟩
    · rw [hremove]
      exact OnlyEvent.setInvites hdelete.1 hdelete.2 _
    · rw [hlist]
      exact filter_erase_update hinvite _
    · rw [hlist]
      exact erase_sublist

end CalendarMgr

namespace CalendarRun

variable {run : CalendarRun} {env : CalendarEnv} {session : CalendarSession}
  {eventId inviteId : ℤ}

def MayInvite (env : CalendarEnv) (session : CalendarSession) (event : CalendarEvent)
    (invitee : CalendarInvitee) : Prop :=
  (session.teamId = invitee.teamId ∨ env.twoSide = true) ∧
    env.ignored invitee.guid session.guid = false ∧
    ¬(event.IsGuildEvent = true ∧ event._guildId = invitee.guildId)

def NotInvited (run : CalendarRun) (event : CalendarEvent) (eventId : ℤ) (invitee : ℕ) : Prop :=
  event.IsGuildAnnouncement = true ∨
    ∀ invite ∈ run.mgr.GetEventInvites eventId, invite._invitee ≠ invitee

def OfEvent (run : CalendarRun) (env : CalendarEnv) (eventId inviteId : ℤ) : Prop :=
  ∀ stored, run.mgr.GetInvite env.order inviteId = some stored → stored.1 = eventId

def AboutInvites : CalendarRequest → Prop
  | .eventInvite _ _ isPreInvite _ => isPreInvite = false
  | .eventSignup .. | .eventRsvp .. | .eventRemoveInvite .. | .eventStatus ..
  | .eventModeratorStatus .. => True
  | _ => False

def Proper (run : CalendarRun) (op : CalendarOp) : Prop :=
  match op.request with
  | .eventInvite eventId name isPreInvite _ => isPreInvite = false ∧
      ∀ event invitee, run.mgr.GetEvent op.env.order eventId = some event →
        findInvitee op.env name = some invitee → MayInvite op.env op.session event invitee →
        run.NotInvited event eventId invitee.guid
  | .eventSignup eventId _ =>
    ∀ event, run.mgr.GetEvent op.env.order eventId = some event →
      (event.IsGuildEvent = true → event._guildId = op.session.guildId) →
      run.NotInvited event eventId op.session.guid
  | .eventRsvp eventId inviteId status =>
    ∀ event, run.mgr.GetEvent op.env.order eventId = some event →
      (status = CALENDAR_STATUS_REMOVED ∨ event._flags &&& CALENDAR_FLAG_INVITES_LOCKED = 0) →
      run.OfEvent op.env eventId inviteId
  | .eventStatus eventId inviteId _ | .eventModeratorStatus eventId inviteId _ =>
    ∀ event, run.mgr.GetEvent op.env.order eventId = some event →
      run.OfEvent op.env eventId inviteId
  | .eventRemoveInvite .. => True
  | _ => False

def Respects (before : CalendarMgr) (request : CalendarRequest) (after : CalendarMgr) : Prop :=
  match request with
  | .eventInvite eventId .. | .eventSignup eventId _ => before.OnlyEvent eventId after
  | .eventRsvp eventId inviteId _ | .eventStatus eventId inviteId _
  | .eventModeratorStatus eventId inviteId _ | .eventRemoveInvite _ inviteId eventId =>
    before.OnlyInvite eventId inviteId after
  | _ => True

section

variable (hdist : run.mgr.DistinctInvitees)
include hdist

theorem addNewInvite_proper {event : CalendarEvent}
    {invite : ℤ → CalendarInvite} {invitee : ℕ} (hevent : ∀ id, (invite id)._eventId = eventId)
    (hinvitee : ∀ id, (invite id)._invitee = invitee)
    (hnot : run.NotInvited event eventId invitee) :
    (run.addNewInvite event invite).mgr.DistinctInvitees ∧
      run.mgr.OnlyEvent eventId (run.addNewInvite event invite).mgr := by
  show (run.mgr.GetFreeInviteId.2.AddInvite event
      (invite run.mgr.GetFreeInviteId.1)).DistinctInvitees ∧
    run.mgr.OnlyEvent eventId
      (run.mgr.GetFreeInviteId.2.AddInvite event (invite run.mgr.GetFreeInviteId.1))
  rw [CalendarMgr.AddInvite_eq]
  split
  · exact ⟨hdist, rfl, fun _ _ => rfl⟩
  rename_i hannounced
  have hnew := hnot.resolve_left hannounced
  rw [CalendarMgr.storeInvite, hevent]
  have honly : run.mgr.OnlyEvent eventId (run.mgr.GetFreeInviteId.2.setInvites eventId
      (run.mgr.GetFreeInviteId.2.GetEventInvites eventId ++ [invite run.mgr.GetFreeInviteId.1])) :=
    @CalendarMgr.OnlyEvent.setInvites run.mgr run.mgr.GetFreeInviteId.2 eventId rfl rfl _
  refine ⟨hdist.of_onlyEvent honly fun hlist => ?_, honly⟩
  rw [CalendarMgr.GetEventInvites_setInvites, if_pos rfl, map_append]
  refine nodup_append.mpr ⟨hlist, nodup_singleton _, ?_⟩
  intro other hother last hlast
  obtain ⟨old, hold, rfl⟩ := mem_map.mp hother
  have hlast : last = invitee := (mem_singleton.mp hlast).trans (hinvitee _)
  rw [hlast]
  exact hnew old hold

theorem changeInvite_proper
    (hof : run.OfEvent env eventId inviteId) {change : CalendarInvite → CalendarInvite}
    (hid : ∀ invite, (change invite)._inviteId = invite._inviteId)
    (hinvitee : ∀ invite, (change invite)._invitee = invite._invitee) :
    (Calendar.changeInvite env run inviteId change).1.mgr.DistinctInvitees ∧
      run.mgr.OnlyInvite eventId inviteId
        (Calendar.changeInvite env run inviteId change).1.mgr := by
  unfold Calendar.changeInvite
  split
  · exact ⟨hdist, .refl _⟩
  rename_i stored hget
  obtain ⟨hmem, hstored⟩ := CalendarMgr.GetInvite_some hget
  have hevent := hof stored hget
  refine ⟨CalendarMgr.updateInvite_distinct hdist stored.1 (hinvitee stored.2), ?_⟩
  rw [hevent] at hmem ⊢
  exact CalendarMgr.updateInvite_only hmem hstored ((hid stored.2).trans hstored)

theorem HandleCalendarEventInvite_proper {name : String}
    {isGuildEvent : Bool}
    (hproper : ∀ event invitee, run.mgr.GetEvent env.order eventId = some event →
      findInvitee env name = some invitee → MayInvite env session event invitee →
      run.NotInvited event eventId invitee.guid) :
    (HandleCalendarEventInvite env session run eventId name false
        isGuildEvent).1.mgr.DistinctInvitees ∧
      run.mgr.OnlyEvent eventId
        (HandleCalendarEventInvite env session run eventId name false isGuildEvent).1.mgr := by
  have hsame : run.mgr.DistinctInvitees ∧ run.mgr.OnlyEvent eventId run.mgr :=
    ⟨hdist, rfl, fun _ _ => rfl⟩
  unfold HandleCalendarEventInvite
  split
  · exact hsame
  rename_i invitee hinvitee
  split
  · exact hsame
  rename_i hteam
  split
  · exact hsame
  rename_i hignored
  rw [if_neg Bool.false_ne_true]
  split
  · exact hsame
  rename_i event hget
  split
  · exact hsame
  rename_i hguild
  refine addNewInvite_proper hdist (fun _ => rfl) (fun _ => rfl)
    (hproper event invitee hget hinvitee ⟨?_, ?_, ?_⟩)
  · rw [not_and_or, not_not, Bool.not_eq_false] at hteam
    exact hteam
  · exact Bool.eq_false_iff.mpr hignored
  · rintro ⟨hisGuild, hguildId⟩
    exact hguild (by simp [hisGuild, hguildId])

theorem HandleCalendarEventSignup_proper {tentative : Bool}
    (hproper : ∀ event, run.mgr.GetEvent env.order eventId = some event →
      (event.IsGuildEvent = true → event._guildId = session.guildId) →
      run.NotInvited event eventId session.guid) :
    (HandleCalendarEventSignup env session run eventId tentative).1.mgr.DistinctInvitees ∧
      run.mgr.OnlyEvent eventId
        (HandleCalendarEventSignup env session run eventId tentative).1.mgr := by
  have hsame : run.mgr.DistinctInvitees ∧ run.mgr.OnlyEvent eventId run.mgr :=
    ⟨hdist, rfl, fun _ _ => rfl⟩
  unfold HandleCalendarEventSignup
  split
  · exact hsame
  rename_i event hget
  split
  · exact hsame
  rename_i hguild
  refine addNewInvite_proper hdist (fun _ => rfl) (fun _ => rfl)
    (hproper event hget fun hisGuild => ?_)
  by_contra hother
  exact hguild (by rw [hisGuild, decide_eq_true hother, Bool.and_self])

theorem perform_proper {op : CalendarOp}
    (hproper : run.Proper op) :
    (run.perform op).1.mgr.DistinctInvitees ∧
      Respects run.mgr op.request (run.perform op).1.mgr := by
  have hsame : ∀ eventId inviteId, run.mgr.DistinctInvitees ∧
      run.mgr.OnlyInvite eventId inviteId run.mgr := fun _ _ => ⟨hdist, .refl _⟩
  obtain ⟨env, session, request⟩ := op
  cases request with
  | eventInvite eventId name isPreInvite isGuildEvent =>
    obtain ⟨hpre, hproper⟩ := hproper
    cases hpre
    exact HandleCalendarEventInvite_proper hdist hproper
  | eventSignup eventId tentative => exact HandleCalendarEventSignup_proper hdist hproper
  | eventRsvp eventId inviteId status =>
    unfold CalendarRun.perform HandleCalendarEventRsvp
    dsimp only
    split
    · exact hsame eventId inviteId
    rename_i event hget
    split
    · exact hsame eventId inviteId
    rename_i hlocked
    rw [not_and_or, not_not, not_not] at hlocked
    exact changeInvite_proper hdist (hproper event hget hlocked) (fun _ => rfl)
      fun _ => rfl
  | eventRemoveInvite invitee inviteId eventId =>
    unfold CalendarRun.perform HandleCalendarEventRemoveInvite
    dsimp only
    split
    · exact hsame eventId inviteId
    split
    · exact hsame eventId inviteId
    obtain ⟨honly, hsub⟩ := run.mgr.RemoveInvite_only env.order inviteId eventId
    refine ⟨hdist.of_onlyEvent honly.toOnlyEvent fun hlist => ?_, honly⟩
    exact hlist.sublist (hsub.map _)
  | eventStatus eventId inviteId status =>
    unfold CalendarRun.perform HandleCalendarEventStatus
    dsimp only
    split
    · exact hsame eventId inviteId
    case h_2 event hget =>
      exact changeInvite_proper hdist (hproper event hget) (fun _ => rfl) fun _ => rfl
  | eventModeratorStatus eventId inviteId rank =>
    unfold CalendarRun.perform HandleCalendarEventModeratorStatus
    dsimp only
    split
    · exact hsame eventId inviteId
    case h_2 event hget =>
      exact changeInvite_proper hdist (hproper event hget) (fun _ => rfl) fun _ => rfl
  | _ => exact absurd hproper id

end

/-- In a run of proper requests the invitees of each event stay distinct, and no request
changes an invite that it does not name. -/
theorem requests_respect_events
    (hreach : Reachable (fun run : CalendarRun => run.mgr.DistinctInvitees)
      (guarded Proper fun before op after => after = (CalendarRun.perform before op).1) run) :
    run.mgr.DistinctInvitees ∧ ∀ op, run.Proper op →
      Respects run.mgr op.request (run.perform op).1.mgr := by
  have hdistinct : run.mgr.DistinctInvitees := by
    apply hreach.invariant
    · exact fun start hstart => hstart
    · rintro before op after hbefore ⟨hproper, rfl⟩
      exact (perform_proper hbefore hproper).1
  exact ⟨hdistinct, fun op hproper => (perform_proper hdistinct hproper).2⟩

def twoEvents : CalendarRun where
  mgr :=
    { _events := [⟨1, 5, 0, 4, -1, 1000, 0, 1000, [], []⟩, ⟨2, 5, 0, 4, -1, 1000, 0, 1000, [], []⟩]
      _invites := (StdMap.empty.insert 1 [⟨1, 1, 5, 5, 0, 0, 0, []⟩]).insert 2
        [⟨2, 2, 5, 5, 0, 0, 0, []⟩]
      eventIds := ⟨[], 2⟩
      inviteIds := ⟨[], 2⟩ }
  handedOut := []

theorem twoEvents_distinct : twoEvents.mgr.DistinctInvitees := by decide +kernel

def signUp : CalendarOp := ⟨smallEnv, ⟨6, 0, 0, 0⟩, .eventSignup 1 false⟩

/-- A player can sign up twice, and answer to the invite of another event. -/
theorem requests_reach_other_invites :
    (¬∀ run : CalendarRun, Reachable (fun run : CalendarRun => run.mgr.DistinctInvitees)
        (guarded (fun _ op => AboutInvites op.request) fun before op after =>
          after = (CalendarRun.perform before op).1) run → run.mgr.DistinctInvitees) ∧
    ¬∀ run : CalendarRun, Reachable (fun run : CalendarRun => run.mgr.DistinctInvitees)
        (guarded (fun _ op => AboutInvites op.request) fun before op after =>
          after = (CalendarRun.perform before op).1) run →
      ∀ op, AboutInvites op.request → Respects run.mgr op.request (run.perform op).1.mgr := by
  have hstart : Reachable (fun run : CalendarRun => run.mgr.DistinctInvitees)
      (guarded (fun _ op => AboutInvites op.request) fun before op after =>
        after = (CalendarRun.perform before op).1) twoEvents := .start twoEvents_distinct
  constructor
  · intro hclaim
    have htwice := @Reachable.step _ _ _ _ _ _ signUp
      (@Reachable.step _ _ _ _ _ _ signUp hstart ⟨trivial, rfl⟩) ⟨trivial, rfl⟩
    exact absurd (hclaim _ htwice) (by decide +kernel)
  · intro hclaim
    -- the event 1 is named, but the invite 2 is one of the event 2
    have hrespects := hclaim twoEvents hstart ⟨smallEnv, ⟨6, 0, 0, 0⟩, .eventRsvp 1 2 1⟩ trivial
    exact absurd (hrespects.others 2 (by decide)) (by decide +kernel)

/-- A first sign-up is proper. -/
theorem first_signUp_is_proper : (twoEvents.perform signUp).1.mgr.DistinctInvitees ∧
      (twoEvents.perform signUp).1.mgr.storedInviteIds = [1, 3, 2] := by
  have hproper : twoEvents.Proper signUp := by
    intro event hget _
    refine .inr fun invite hinvite => ?_
    have hlist : twoEvents.mgr.GetEventInvites 1 = [⟨1, 1, 5, 5, 0, 0, 0, []⟩] := rfl
    rw [hlist, mem_singleton] at hinvite
    rw [hinvite]
    decide
  have hreach : Reachable (fun run : CalendarRun => run.mgr.DistinctInvitees)
      (guarded Proper fun before op after => after = (CalendarRun.perform before op).1)
      (twoEvents.perform signUp).1 :=
    @Reachable.step _ _ _ _ _ _ signUp (.start twoEvents_distinct) ⟨hproper, rfl⟩
  exact ⟨(requests_respect_events hreach).1, by decide +kernel⟩

end CalendarRun

end AzerothCore.Calendar
