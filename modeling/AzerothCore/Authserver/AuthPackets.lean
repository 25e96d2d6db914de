import AzerothCore.Collections.Draining
import AzerothCore.Collections.Folding
import AzerothCore.Network.WorldSocketRead

/-!
# What an authentication session reads, asks for and sends

Strings and byte arrays are lists of bytes. The environment of a session holds
the configuration, the realm list and the functions of the cryptographic
libraries.
-/

namespace AzerothCore.Authserver

open Network

def AUTH_LOGON_CHALLENGE : UInt8 := 0x00
def AUTH_LOGON_PROOF : UInt8 := 0x01
def AUTH_RECONNECT_CHALLENGE : UInt8 := 0x02
def AUTH_RECONNECT_PROOF : UInt8 := 0x03
def REALM_LIST : UInt8 := 0x10

def WOW_SUCCESS : UInt8 := 0x00
def WOW_FAIL_BANNED : UInt8 := 0x03
def WOW_FAIL_UNKNOWN_ACCOUNT : UInt8 := 0x04
def WOW_FAIL_DB_BUSY : UInt8 := 0x08
def WOW_FAIL_VERSION_INVALID : UInt8 := 0x09
def WOW_FAIL_SUSPENDED : UInt8 := 0x0C
def WOW_FAIL_LOCKED_ENFORCED : UInt8 := 0x10
def WOW_FAIL_UNLOCKABLE_LOCK : UInt8 := 0x19

def POST_BC_EXP_FLAG : UInt8 := 0x2
def PRE_BC_EXP_FLAG : UInt8 := 0x1
def NO_VALID_EXP_FLAG : UInt8 := 0x0

def REALM_FLAG_OFFLINE : UInt32 := 0x02
def REALM_FLAG_SPECIFYBUILD : UInt32 := 0x04

def SEC_CONSOLE : ℕ := 4

/-- `sizeof(AUTH_LOGON_CHALLENGE_C)`. -/
def sizeOfLogonChallenge : ℕ := 35

/-- `sizeof(AUTH_LOGON_PROOF_C)`. -/
def sizeOfLogonProof : ℕ := 75

/-- `sizeof(AUTH_RECONNECT_PROOF_C)`. -/
def sizeOfReconnectProof : ℕ := 58

def MAX_ACCEPTED_CHALLENGE_SIZE : ℕ := sizeOfLogonChallenge + 16
def AUTH_LOGON_CHALLENGE_INITIAL_SIZE : ℕ := 4
def REALM_LIST_PACKET_SIZE : ℕ := 5

def VersionChallenge : List UInt8 :=
  [0xBA, 0xA3, 0x1E, 0x99, 0xA0, 0x0B, 0x21, 0x57, 0xFC, 0x37, 0x3F, 0xB3, 0x69, 0xCD, 0xD2, 0xF1]

def text (value : String) : List UInt8 := value.toList.map fun char => UInt8.ofNat char.toNat

inductive AuthStatus where
  | STATUS_CHALLENGE
  | STATUS_LOGON_PROOF
  | STATUS_RECONNECT_PROOF
  | STATUS_AUTHED
  | STATUS_WAITING_FOR_REALM_LIST
  | STATUS_CLOSED
deriving DecidableEq

/-! ## Rows of the login database -/

structure AccountRow where
  id : ℕ
  username : List UInt8
  locked : Bool
  lock_country : List UInt8
  last_ip : List UInt8
  failed_logins : ℕ
  account_banned : Bool
  account_permanent : Bool
  ip_banned : Bool
  ip_permanent : Bool
  gmlevel : ℕ
deriving DecidableEq

/-- A row of `LOGIN_SEL_LOGONCHALLENGE`. -/
structure LogonRow extends AccountRow where
  totp_secret : Option (List UInt8)
  salt : List UInt8
  verifier : List UInt8
deriving DecidableEq

/-- A row of `LOGIN_SEL_RECONNECTCHALLENGE`. -/
structure ReconnectRow extends AccountRow where
  session_key : List UInt8
deriving DecidableEq

structure AccountInfo where
  Id : ℕ
  Login : List UInt8
  IsLockedToIP : Bool
  LockCountry : List UInt8
  LastIP : List UInt8
  FailedLogins : ℕ
  IsBanned : Bool
  IsPermanentlyBanned : Bool
  SecurityLevel : ℕ

def AccountInfo.empty : AccountInfo := ⟨0, [], false, [], [], 0, false, false, 0⟩

inductive Query where
  | ipInfo
  | logonChallenge (login : List UInt8)
  | reconnectChallenge (login : List UInt8)
  | realmCharacterCounts (account : ℕ)

inductive Reply where
  | ipInfo (result : Option (List ℕ))
  | logonChallenge (result : Option LogonRow) (random : List UInt8)
  | reconnectChallenge (result : Option ReconnectRow) (random : List UInt8)
  | realmCharacterCounts (result : Option (List (ℕ × UInt8)))
deriving DecidableEq

def Reply.Answers : Reply → Query → Bool
  | .ipInfo _, .ipInfo => true
  | .logonChallenge _ _, .logonChallenge _ => true
  | .reconnectChallenge _ _, .reconnectChallenge _ => true
  | .realmCharacterCounts _, .realmCharacterCounts _ => true
  | _, _ => false

inductive Statement where
  | LOGIN_UPD_LOGONPROOF (sessionKey address : List UInt8) (locale : ℕ) (os login : List UInt8)
  | LOGIN_INS_FALP_IP_LOGGING (account : ℕ) (address : List UInt8) (note : String)
  | LOGIN_UPD_FAILEDLOGINS (login : List UInt8)
  | LOGIN_INS_ACCOUNT_AUTO_BANNED (account banTime : ℕ)
  | LOGIN_INS_IP_AUTO_BANNED (address : List UInt8) (banTime : ℕ)

structure RealmBuildInfo where
  Build : ℕ
  MajorVersion : UInt8
  MinorVersion : UInt8
  BugfixVersion : UInt8
  WindowsHash : List UInt8
  MacHash : List UInt8

/-- A realm; its address is the text of `GetAddressForClient`, its population
level the four bytes of a `float`. -/
structure Realm where
  Id : ℕ
  Build : ℕ
  Name : List UInt8
  type : UInt8
  Flags : UInt32
  Timezone : UInt8
  AllowedSecurityLevel : ℕ
  PopulationLevel : List UInt8
  address : List UInt8

/-- What an `SRP6` object is constructed from, and whether it has verified a
response. -/
structure SRP6 where
  username : List UInt8
  s : List UInt8
  v : List UInt8
  b : List UInt8
  _used : Bool
deriving DecidableEq

structure Environment where
  remoteAddress : List UInt8
  builds : List RealmBuildInfo
  realms : List Realm
  StrictVersionCheck : Bool
  AllowLoggingIPAddressesInDatabase : Bool
  WrongPassMaxCount : ℤ
  WrongPassLogging : Bool
  WrongPassBanTime : ℤ
  WrongPassBanType : Bool
  totpMasterKey : Option (List UInt8)
  /-- The country code of `GetLocationRecord`. -/
  GetLocationRecord : List UInt8 → Option (List UInt8)
  Utf8ToUpperOnlyLatin : List UInt8 → List UInt8
  SHA1 : List UInt8 → List UInt8
  /-- The plain text, unless the ciphertext is invalid. -/
  AEDecrypt : List UInt8 → List UInt8 → Option (List UInt8)
  B : SRP6 → List UInt8
  g : List UInt8
  N : List UInt8
  /-- The session key, if the client has proved that it knows the password. -/
  VerifyChallengeResponse : SRP6 → List UInt8 → List UInt8 → Option (List UInt8)
  ValidateToken : List UInt8 → ℕ → Bool
  /-- The number that is found in an empty optional that was to hold the value
  of this text. It is indeterminate, so it can be any. -/
  indeterminate : List UInt8 → ℕ

namespace Environment

variable (env : Environment)

def GetBuildInfo (build : ℕ) : Option RealmBuildInfo :=
  env.builds.find? fun clientBuild => clientBuild.Build = build

def MAX_PRE_BC_CLIENT_BUILD : ℕ := 6141

def IsPreBCAcceptedClientBuild (build : ℕ) : Bool :=
  build ≤ MAX_PRE_BC_CLIENT_BUILD && (env.GetBuildInfo build).isSome

def IsPostBCAcceptedClientBuild (build : ℕ) : Bool :=
  MAX_PRE_BC_CLIENT_BUILD < build && (env.GetBuildInfo build).isSome

def IsAcceptedClientBuild (build : ℕ) : Bool := (env.GetBuildInfo build).isSome

/-- The `_expversion` of a build. -/
def expversion (build : ℕ) : UInt8 :=
  if env.IsPostBCAcceptedClientBuild build then POST_BC_EXP_FLAG
  else if env.IsPreBCAcceptedClientBuild build then PRE_BC_EXP_FLAG
  else NO_VALID_EXP_FLAG

def LoadResult (fields : AccountRow) : AccountInfo where
  Id := fields.id
  Login := env.Utf8ToUpperOnlyLatin fields.username
  IsLockedToIP := fields.locked
  LockCountry := fields.lock_country
  LastIP := fields.last_ip
  FailedLogins := fields.failed_logins
  IsBanned := fields.account_banned || fields.ip_banned
  IsPermanentlyBanned := fields.account_permanent || fields.ip_permanent
  SecurityLevel := if fields.gmlevel > SEC_CONSOLE then SEC_CONSOLE else fields.gmlevel

end Environment

/-- `StringTo<uint32>`. -/
def StringTo (token : List UInt8) : Option ℕ :=
  let value := token.foldl (fun value digit => 10 * value + (digit.toNat - 48)) 0
  if token ≠ [] ∧ token.all (fun digit => 48 ≤ digit ∧ digit ≤ 57) ∧ value < 2 ^ 32 then
    some value
  else
    none

def localeNames : List (List UInt8) :=
  ["enUS", "koKR", "frFR", "deDE", "zhCN", "zhTW", "esES", "esMX", "ruRU"].map text

def GetLocaleByName (name : List UInt8) : ℕ := (localeNames.idxOf? name).getD 0

def decimal (value : ℕ) : List UInt8 := text (toString value)

/-! ## Reading a packet -/

inductive Fault where
  /-- The length of the name in a challenge that declares this size. -/
  | nameLength (declared : ℕ)
  /-- The security token of a logon proof. -/
  | token
  /-- Any other byte that has not been received. -/
  | unreceived
  /-- The read position passes the write position. -/
  | overrun
  /-- A failed assertion or an empty optional other than that of a token. -/
  | undefined

/-- Bytes of the packet at the read pointer, of which `packet` has been
received. -/
def bytesAt (packet : List UInt8) (position count : ℕ) (fault : Fault) :
    Except Fault (List UInt8) :=
  if position + count ≤ packet.length then
    .ok ((packet.drop position).take count)
  else
    .error fault

/-- A number of the packet, the least significant byte first. -/
def numberAt (packet : List UInt8) (position count : ℕ) (fault : Fault) : Except Fault ℕ :=
  match bytesAt packet position count fault with
  | .ok bytes => .ok (ClientPktHeader.littleEndian bytes)
  | .error fault => .error fault

end AzerothCore.Authserver

/-! ## Authentication sessions -/

namespace AzerothCore.Authserver

open Network (size_t bytesOf MessageBuffer READ_BLOCK_SIZE)
open Draining

inductive AuthEvent where
  /-- A handler was called and interpreted these bytes, the command first. -/
  | handled (cmd : UInt8) (bytes : List UInt8)
  /-- The received bytes were dropped because the first is no known command. -/
  | ignored (bytes : List UInt8)
  | answered (reply : Reply)
deriving DecidableEq

structure AuthSession where
  _srp6 : Option SRP6
  _sessionKey : List UInt8
  _reconnectProof : List UInt8
  _status : AuthStatus
  _accountInfo : AccountInfo
  _totpSecret : Option (List UInt8)
  _localizationName : List UInt8
  _os : List UInt8
  _ipCountry : List UInt8
  _build : ℕ
  _expversion : UInt8
  _queryProcessor : List Query
  _closed : Bool
  _writeQueue : List (List UInt8)
  executed : List Statement
  trace : List AuthEvent

/-- How a handler ends: its result, how many bytes it has taken from the read
buffer itself, the bytes it has interpreted and the session. -/
structure Handled where
  result : Bool
  taken : ℕ
  interpreted : List UInt8
  session : AuthSession

namespace AuthSession

/-- A session after `Start`. -/
def started : AuthSession where
  _srp6 := none
  _sessionKey := List.replicate 40 0
  _reconnectProof := List.replicate 16 0
  _status := .STATUS_CHALLENGE
  _accountInfo := .empty
  _totpSecret := none
  _localizationName := []
  _os := []
  _ipCountry := []
  _build := 0
  _expversion := 0
  _queryProcessor := [.ipInfo]
  _closed := false
  _writeQueue := []
  executed := []
  trace := []

variable (env : Environment)

def CloseSocket (session : AuthSession) : AuthSession := { session with _closed := true }

def SendPacket (packet : List UInt8) (session : AuthSession) : AuthSession :=
  if session._closed ∨ packet = [] then
    session
  else
    { session with _writeQueue := session._writeQueue ++ [packet] }

def AsyncQuery (query : Query) (session : AuthSession) : AuthSession :=
  { session with _queryProcessor := session._queryProcessor ++ [query] }

def Execute (statement : Statement) (session : AuthSession) : AuthSession :=
  { session with executed := session.executed ++ [statement] }

def record (event : AuthEvent) (session : AuthSession) : AuthSession :=
  { session with trace := session.trace ++ [event] }

def ReadClient (build : ℕ) (os country : List UInt8) (session : AuthSession) : AuthSession :=
  { session with
    _build := build
    _expversion := env.expversion build
    _os := (os.takeWhile fun char => char ≠ 0).reverse
    _localizationName := country.reverse }

def HandleChallenge (query : List UInt8 → Query) (packet : List UInt8) (session : AuthSession) :
    Except Fault Handled := do
  let size ← numberAt packet 2 2 .unreceived
  let I_len ← numberAt packet 33 1 (.nameLength size)
  let session := { session with _status := .STATUS_CLOSED }
  if size_t (size + 2 ^ 64 - (sizeOfLogonChallenge - AUTH_LOGON_CHALLENGE_INITIAL_SIZE - 1))
      ≠ I_len then
    .ok ⟨false, 0, packet.take 34, session⟩
  else
    let login ← bytesAt packet 34 I_len .unreceived
    let build ← numberAt packet 11 2 .unreceived
    let os ← bytesAt packet 17 4 .unreceived
    let country ← bytesAt packet 21 4 .unreceived
    .ok ⟨true, 0, packet.take (34 + I_len),
      (session.ReadClient env build os country).AsyncQuery (query login)⟩

def HandleLogonChallenge (packet : List UInt8) (session : AuthSession) : Except Fault Handled :=
  session.HandleChallenge env .logonChallenge packet

def HandleReconnectChallenge (packet : List UInt8) (session : AuthSession) : Except Fault Handled :=
  session.HandleChallenge env .reconnectChallenge packet

def CountryOf (info : AccountInfo) (ipCountry : List UInt8) : List UInt8 :=
  if info.IsLockedToIP then ipCountry
  else (env.GetLocationRecord env.remoteAddress).getD ipCountry

def CheckLocks (info : AccountInfo) (ipCountry : List UInt8) : Except UInt8 Unit :=
  if info.IsLockedToIP then
    if info.LastIP ≠ env.remoteAddress then .error WOW_FAIL_LOCKED_ENFORCED else .ok ()
  else if info.LockCountry = [] ∨ info.LockCountry = text "00" then
    .ok ()
  else if ipCountry ≠ [] ∧ ipCountry ≠ info.LockCountry then
    .error WOW_FAIL_UNLOCKABLE_LOCK
  else
    .ok ()

def CheckBan (info : AccountInfo) : Except UInt8 Unit :=
  if info.IsBanned then
    .error (if info.IsPermanentlyBanned then WOW_FAIL_BANNED else WOW_FAIL_SUSPENDED)
  else
    .ok ()

def ReadSecret : Option (List UInt8) → Except UInt8 (Option (List UInt8))
  | none => .ok none
  | some column =>
    match env.totpMasterKey with
    | none => .ok (some column)
    | some secret =>
      match env.AEDecrypt secret column with
      | none => .error WOW_FAIL_DB_BUSY
      | some plain => .ok (some plain)

def challengePacket (srp6 : SRP6) (securityFlags : UInt8) : List UInt8 :=
  [AUTH_LOGON_CHALLENGE, 0x00, WOW_SUCCESS] ++ env.B srp6 ++ [1] ++ env.g ++ [32] ++ env.N
    ++ srp6.s ++ VersionChallenge ++ [securityFlags]
    ++ (if securityFlags &&& 0x04 ≠ 0 then [1] else [])

def Refuse (answer : UInt8) (session : AuthSession) : AuthSession :=
  session.SendPacket [AUTH_LOGON_CHALLENGE, 0x00, answer]

/-- The end of `LogonChallengeCallback`, for an account that may log in. -/
def BeginProof (row : LogonRow) (secret : Option (List UInt8)) (random : List UInt8)
    (session : AuthSession) : AuthSession :=
  let srp6 : SRP6 := ⟨session._accountInfo.Login, row.salt, row.verifier, random, false⟩
  let session := { session with _totpSecret := secret, _srp6 := some srp6 }
  if env.IsAcceptedClientBuild session._build then
    { session with _status := .STATUS_LOGON_PROOF }.SendPacket
      (challengePacket env srp6 (if secret.isSome then 4 else 0))
  else
    session.Refuse WOW_FAIL_VERSION_INVALID

def LogonChallengeCallback (result : Option LogonRow) (random : List UInt8)
    (session : AuthSession) : AuthSession :=
  match result with
  | none => session.Refuse WOW_FAIL_UNKNOWN_ACCOUNT
  | some row =>
    let info := env.LoadResult row.toAccountRow
    let session := { session with
      _accountInfo := info
      _ipCountry := CountryOf env info session._ipCountry }
    match CheckLocks env info session._ipCountry with
    | .error answer => session.Refuse answer
    | .ok () =>
      match CheckBan info with
      | .error answer => session.Refuse answer
      | .ok () =>
        match ReadSecret env row.totp_secret with
        | .error answer => { session with _totpSecret := row.totp_secret }.Refuse answer
        | .ok secret => session.BeginProof env row secret random

def ReconnectChallengeCallback (result : Option ReconnectRow) (random : List UInt8)
    (session : AuthSession) : AuthSession :=
  match result with
  | none => session.SendPacket [AUTH_RECONNECT_CHALLENGE, WOW_FAIL_UNKNOWN_ACCOUNT]
  | some row =>
    { session with
      _accountInfo := env.LoadResult row.toAccountRow
      _sessionKey := row.session_key
      _reconnectProof := random
      _status := .STATUS_RECONNECT_PROOF }.SendPacket
      ([AUTH_RECONNECT_CHALLENGE, WOW_SUCCESS] ++ random ++ VersionChallenge)

def VerifyVersion (session : AuthSession) (a versionProof : List UInt8) (isReconnect : Bool) :
    Bool :=
  let zeros : List UInt8 := List.replicate 20 0
  if !env.StrictVersionCheck then
    true
  else if isReconnect then
    versionProof = env.SHA1 (a ++ zeros)
  else
    match env.GetBuildInfo session._build with
    | none => false
    | some buildInfo =>
      let versionHash :=
        if session._os = text "Win" then some buildInfo.WindowsHash
        else if session._os = text "OSX" then some buildInfo.MacHash
        else none
      match versionHash with
      | none => false
      | some versionHash => zeros = versionHash || versionProof = env.SHA1 (a ++ versionHash)

def tokenValue (token : List UInt8) : ℕ := (StringTo token).getD (env.indeterminate token)

/-- The check of the token: whether it succeeds, the bytes it takes from the
buffer and the secret it leaves. -/
def CheckToken (packet : List UInt8) (securityFlags : UInt8) (secret : Option (List UInt8)) :
    Except Fault (Bool × ℕ × Option (List UInt8)) :=
  let sentToken := securityFlags &&& 0x04 ≠ 0
  match secret with
  | none => .ok (!sentToken, 0, none)
  | some secret =>
    if sentToken then do
      let size ← numberAt packet sizeOfLogonProof 1 .token
      let token ← bytesAt packet (sizeOfLogonProof + 1) size .token
      .ok (env.ValidateToken secret (tokenValue env token), 1 + size,
        some (List.replicate secret.length 0))
    else
      .ok (false, 0, some secret)

def proofFailure : List UInt8 := [AUTH_LOGON_PROOF, WOW_FAIL_UNKNOWN_ACCOUNT, 0, 0]

def proofPacket (expversion : UInt8) (M2 : List UInt8) : List UInt8 :=
  if expversion &&& POST_BC_EXP_FLAG ≠ 0 then
    [AUTH_LOGON_PROOF, 0] ++ M2 ++ bytesOf 4 0x00800000 ++ bytesOf 4 0 ++ bytesOf 2 0
  else
    [AUTH_LOGON_PROOF, 0] ++ M2 ++ bytesOf 4 0

/-- The end of `HandleLogonProof` for such a client. -/
def AcceptProof (A clientM K : List UInt8) (session : AuthSession) : AuthSession :=
  let address :=
    if env.AllowLoggingIPAddressesInDatabase then env.remoteAddress else text "0.0.0.0"
  let session := session.Execute (.LOGIN_UPD_LOGONPROOF session._sessionKey address
    (GetLocaleByName session._localizationName) session._os session._accountInfo.Login)
  let M2 := env.SHA1 (A ++ clientM ++ K)
  { session.SendPacket (proofPacket session._expversion M2) with _status := .STATUS_AUTHED }

def CountWrongPassword (session : AuthSession) : AuthSession :=
  let MaxWrongPassCount := toUint32 env.WrongPassMaxCount
  if MaxWrongPassCount > 0 then
    let session := session.Execute (.LOGIN_UPD_FAILEDLOGINS session._accountInfo.Login)
    let failedLogins := uint32 (session._accountInfo.FailedLogins + 1)
    let session := { session with
      _accountInfo := { session._accountInfo with FailedLogins := failedLogins } }
    if failedLogins ≥ MaxWrongPassCount then
      if env.WrongPassBanType then
        session.Execute (.LOGIN_INS_ACCOUNT_AUTO_BANNED session._accountInfo.Id
          (toUint32 env.WrongPassBanTime))
      else
        session.Execute (.LOGIN_INS_IP_AUTO_BANNED env.remoteAddress
          (toUint32 env.WrongPassBanTime))
    else
      session
  else
    session

/-- The end of `HandleLogonProof` for a wrong password. -/
def RejectPassword (session : AuthSession) : AuthSession :=
  let session := session.SendPacket proofFailure
  let session :=
    if env.WrongPassLogging then
      session.Execute (.LOGIN_INS_FALP_IP_LOGGING session._accountInfo.Id env.remoteAddress
        "Login to WoW Failed - Incorrect Password")
    else
      session
  session.CountWrongPassword env

def FinishProof (tokenSuccess : Bool) (A clientM crc_hash K : List UInt8)
    (session : AuthSession) : AuthSession :=
  if !tokenSuccess then
    session.SendPacket proofFailure
  else if !session.VerifyVersion env A crc_hash false then
    session.SendPacket [AUTH_LOGON_PROOF, WOW_FAIL_VERSION_INVALID]
  else
    session.AcceptProof env A clientM K

/-- `HandleLogonProof` from the check of the password on. -/
def VerifyProof (packet A clientM crc_hash : List UInt8) (securityFlags : UInt8) (srp6 : SRP6)
    (session : AuthSession) : Except Fault Handled :=
  match env.VerifyChallengeResponse srp6 A clientM with
  | none => .ok ⟨true, 0, packet.take sizeOfLogonProof, session.RejectPassword env⟩
  | some K => do
    let (tokenSuccess, taken, secret) ← CheckToken env packet securityFlags session._totpSecret
    let session := { session with _sessionKey := K, _totpSecret := secret }
    .ok ⟨true, taken, packet.take (sizeOfLogonProof + taken),
      session.FinishProof env tokenSuccess A clientM crc_hash K⟩

def HandleLogonProof (packet : List UInt8) (session : AuthSession) : Except Fault Handled := do
  let A ← bytesAt packet 1 32 .unreceived
  let clientM ← bytesAt packet 33 20 .unreceived
  let crc_hash ← bytesAt packet 53 20 .unreceived
  let securityFlags ← numberAt packet 74 1 .unreceived
  let session := { session with _status := .STATUS_CLOSED }
  if session._expversion = NO_VALID_EXP_FLAG then
    .ok ⟨false, 0, packet.take sizeOfLogonProof, session⟩
  else
    match session._srp6 with
    | none => .error .undefined
    | some srp6 =>
      if srp6._used then
        .error .undefined
      else
        let session := { session with _srp6 := some { srp6 with _used := true } }
        session.VerifyProof env packet A clientM crc_hash (UInt8.ofNat securityFlags) srp6

def HandleReconnectProof (packet : List UInt8) (session : AuthSession) : Except Fault Handled := do
  let R1 ← bytesAt packet 1 16 .unreceived
  let R2 ← bytesAt packet 17 20 .unreceived
  let R3 ← bytesAt packet 37 20 .unreceived
  let session := { session with _status := .STATUS_CLOSED }
  let interpreted := packet.take sizeOfReconnectProof
  if session._accountInfo.Login = [] then
    .ok ⟨false, 0, interpreted, session⟩
  else if env.SHA1 (session._accountInfo.Login ++ R1 ++ session._reconnectProof
      ++ session._sessionKey) = R2 then
    if !session.VerifyVersion env R1 R3 true then
      .ok ⟨true, 0, interpreted,
        session.SendPacket [AUTH_RECONNECT_PROOF, WOW_FAIL_VERSION_INVALID]⟩
    else
      .ok ⟨true, 0, interpreted,
        { session.SendPacket ([AUTH_RECONNECT_PROOF, WOW_SUCCESS] ++ bytesOf 2 0) with
          _status := .STATUS_AUTHED }⟩
  else
    .ok ⟨false, 0, interpreted, session⟩

def HandleRealmList (packet : List UInt8) (session : AuthSession) : Except Fault Handled :=
  .ok ⟨true, 0, packet.take REALM_LIST_PACKET_SIZE,
    { session.AsyncQuery (.realmCharacterCounts session._accountInfo.Id) with
      _status := .STATUS_WAITING_FOR_REALM_LIST }⟩

def characterCount (result : Option (List (ℕ × UInt8))) (realm : ℕ) : UInt8 :=
  (((result.getD []).reverse.find? fun row => row.1 = realm).map Prod.snd).getD 0

/-- The entry of a realm, unless it is left out. -/
def realmEntry (session : AuthSession) (result : Option (List (ℕ × UInt8))) (realm : Realm) :
    Option (List UInt8) :=
  let postBC := session._expversion &&& POST_BC_EXP_FLAG ≠ 0
  let preBC := session._expversion &&& PRE_BC_EXP_FLAG ≠ 0
  let okBuild := (postBC ∧ realm.Build = session._build) ∨
    (preBC ∧ env.IsPreBCAcceptedClientBuild realm.Build = false)
  match env.GetBuildInfo realm.Build with
  | none =>
    if okBuild then
      let flag := realm.Flags &&& ~~~REALM_FLAG_SPECIFYBUILD
      some (entry postBC flag realm.Name [])
    else
      none
  | some buildInfo =>
    let flag := if okBuild then realm.Flags
      else realm.Flags ||| (REALM_FLAG_OFFLINE ||| REALM_FLAG_SPECIFYBUILD)
    let specified := flag &&& REALM_FLAG_SPECIFYBUILD ≠ 0
    let name := if preBC ∧ specified then
        realm.Name ++ text " (" ++ decimal buildInfo.MajorVersion.toNat ++ text "."
          ++ decimal buildInfo.MinorVersion.toNat ++ text "."
          ++ decimal buildInfo.BugfixVersion.toNat ++ text ")"
      else
        realm.Name
    some (entry postBC flag name
      (if postBC ∧ specified then
        [buildInfo.MajorVersion, buildInfo.MinorVersion, buildInfo.BugfixVersion]
          ++ bytesOf 2 buildInfo.Build
      else []))
where
  entry (postBC : Bool) (flag : UInt32) (name build : List UInt8) : List UInt8 :=
    let lock : UInt8 :=
      if realm.AllowedSecurityLevel > session._accountInfo.SecurityLevel then 1 else 0
    [realm.type] ++ (if postBC then [lock] else []) ++ [flag.toUInt8] ++ (name ++ [0])
      ++ (realm.address ++ [0]) ++ realm.PopulationLevel ++ [characterCount result realm.Id]
      ++ [realm.Timezone] ++ [if postBC then UInt8.ofNat realm.Id else 0] ++ build

def realmListPacket (session : AuthSession) (result : Option (List (ℕ × UInt8))) : List UInt8 :=
  let postBC := session._expversion &&& POST_BC_EXP_FLAG ≠ 0
  let entries := env.realms.filterMap (session.realmEntry env result)
  let pkt := entries.flatten ++ (if postBC then [0x10, 0x00] else [0x00, 0x02])
  let RealmListSizeBuffer := bytesOf 4 0 ++ bytesOf (if postBC then 2 else 4) entries.length
  [REALM_LIST] ++ bytesOf 2 (pkt.length + RealmListSizeBuffer.length) ++ RealmListSizeBuffer ++ pkt

def RealmListCallback (result : Option (List (ℕ × UInt8))) (session : AuthSession) : AuthSession :=
  { session.SendPacket (session.realmListPacket env result) with _status := .STATUS_AUTHED }

/-! ## The loop over the commands -/

structure AuthHandler where
  status : AuthStatus
  packetSize : ℕ
  handler : List UInt8 → AuthSession → Except Fault Handled

/-- `InitHandlers`. -/
def Handlers (cmd : UInt8) : Option AuthHandler :=
  if cmd = AUTH_LOGON_CHALLENGE then
    some ⟨.STATUS_CHALLENGE, AUTH_LOGON_CHALLENGE_INITIAL_SIZE, HandleLogonChallenge env⟩
  else if cmd = AUTH_LOGON_PROOF then
    some ⟨.STATUS_LOGON_PROOF, sizeOfLogonProof, HandleLogonProof env⟩
  else if cmd = AUTH_RECONNECT_CHALLENGE then
    some ⟨.STATUS_CHALLENGE, AUTH_LOGON_CHALLENGE_INITIAL_SIZE, HandleReconnectChallenge env⟩
  else if cmd = AUTH_RECONNECT_PROOF then
    some ⟨.STATUS_RECONNECT_PROOF, sizeOfReconnectProof, HandleReconnectProof env⟩
  else if cmd = REALM_LIST then
    some ⟨.STATUS_AUTHED, REALM_LIST_PACKET_SIZE, HandleRealmList⟩
  else
    none

/-- The size of the command at the read pointer, a `uint16`. -/
def commandSize (cmd : UInt8) (packetSize : ℕ) (packet : List UInt8) : Except Fault ℕ :=
  if cmd = AUTH_LOGON_CHALLENGE ∨ cmd = AUTH_RECONNECT_CHALLENGE then do
    let declared ← numberAt packet 2 2 .unreceived
    .ok ((packetSize + declared) % 2 ^ 16)
  else
    .ok packetSize

def finishTurn (cmd : UInt8) (size : ℕ) (handled : Handled) : Turn AuthSession :=
  let session := handled.session.record (.handled cmd handled.interpreted)
  if handled.result then .proceed (handled.taken + size) session else .leave session.CloseSocket

/-- The body of the loop, with the received bytes at the read pointer. -/
def ReadTurn (packet : List UInt8) (session : AuthSession) : Except Fault (Turn AuthSession) :=
  let cmd := packet.headD 0
  match Handlers env cmd with
  | none => .ok (.drop (session.record (.ignored packet)))
  | some handler =>
    if session._status ≠ handler.status then
      .ok (.leave session.CloseSocket)
    else if packet.length < handler.packetSize then
      .ok .await
    else do
      let size ← commandSize cmd handler.packetSize packet
      if (cmd = AUTH_LOGON_CHALLENGE ∨ cmd = AUTH_RECONNECT_CHALLENGE) ∧
          size > MAX_ACCEPTED_CHALLENGE_SIZE then
        .ok (.leave session.CloseSocket)
      else if packet.length < size then
        .ok .await
      else do
        let handled ← handler.handler packet session
        .ok (finishTurn cmd size handled)

end AuthSession

structure Connection where
  session : AuthSession
  _readBuffer : MessageBuffer
  /-- An asynchronous read is pending. -/
  reading : Bool

inductive Input where
  /-- A read brings these bytes. -/
  | read (chunk : List UInt8)
  | readError
  /-- The callback of the outstanding query at this place is invoked. -/
  | reply (place : ℕ) (reply : Reply)

namespace Connection

variable (env : Environment)

def started : Connection where
  session := .started
  _readBuffer := .ofSize READ_BLOCK_SIZE
  reading := false

def AsyncRead (connection : Connection) : Connection :=
  if connection.session._closed then
    connection
  else
    { connection with
      _readBuffer := connection._readBuffer.Normalize.EnsureFreeSpace
      reading := true }

/-- The loop of `ReadHandler` and the read that follows it. Every turn consumes
a byte, so as many turns as there are bytes and one more are enough. -/
def ReadLoop : ℕ → Connection → Except Fault Connection
  | 0, _ => .error .undefined
  | turns + 1, connection =>
    if connection._readBuffer.GetActiveSize = 0 then
      .ok connection.AsyncRead
    else
      match AuthSession.ReadTurn env connection._readBuffer.active connection.session with
      | .error fault => .error fault
      | .ok .await => .ok connection.AsyncRead
      | .ok (.leave session) => .ok { connection with session := session }
      | .ok (.drop session) =>
        .ok (AsyncRead { connection with
          session := session
          _readBuffer := connection._readBuffer.Reset })
      | .ok (.proceed taken session) =>
        match connection._readBuffer.ReadCompleted taken with
        | none => .error .overrun
        | some buffer =>
          ReadLoop turns { connection with session := session, _readBuffer := buffer }

def ReadHandler (connection : Connection) : Except Fault Connection :=
  ReadLoop env (connection._readBuffer.GetActiveSize + 1) connection

def ReadHandlerInternal (connection : Connection) (chunk : List UInt8) : Except Fault Connection :=
  match connection._readBuffer.Write chunk with
  | none => .error .overrun
  | some buffer => ReadHandler env { connection with _readBuffer := buffer, reading := false }

/-- The callback of `Start`; an address that is banned is not read from. -/
def CheckIpCallback (result : Option (List ℕ)) (connection : Connection) : Connection :=
  if (result.getD []).any fun banned => banned ≠ 0 then
    { connection with
      session := connection.session.SendPacket [AUTH_LOGON_CHALLENGE, 0x00, WOW_FAIL_BANNED] }
  else
    connection.AsyncRead

def Callback (reply : Reply) (connection : Connection) : Connection :=
  match reply with
  | .ipInfo result => connection.CheckIpCallback result
  | .logonChallenge result random =>
    { connection with session := connection.session.LogonChallengeCallback env result random }
  | .reconnectChallenge result random =>
    { connection with session := connection.session.ReconnectChallengeCallback env result random }
  | .realmCharacterCounts result =>
    { connection with session := connection.session.RealmListCallback env result }

def InvokeIfReady (place : ℕ) (reply : Reply) (connection : Connection) : Connection :=
  let session := connection.session
  Callback env reply { connection with
    session := { session with
      _queryProcessor := session._queryProcessor.eraseIdx place
      trace := session.trace ++ [.answered reply] } }

/-- A read brings at least one byte and no more than there is room for; the
query of a callback is outstanding, and only an open session is updated. -/
def Accepts (connection : Connection) : Input → Prop
  | .read chunk => chunk ≠ [] ∧ (connection.reading = true →
      chunk.length ≤ connection._readBuffer.GetRemainingSpace)
  | .readError => connection.reading = true
  | .reply place reply => connection.session._closed = false ∧
      ∃ query ∈ connection.session._queryProcessor[place]?, reply.Answers query = true

instance (connection : Connection) (input : Input) : Decidable (connection.Accepts input) := by
  cases input <;> unfold Accepts <;> infer_instance

def handle (connection : Connection) (input : Input) : Except Fault Connection :=
  match input with
  | .read chunk =>
    if connection.reading then connection.ReadHandlerInternal env chunk else .ok connection
  | .readError => .ok { connection with
      session := connection.session.CloseSocket
      reading := false }
  | .reply place reply => .ok (connection.InvokeIfReady env place reply)

def step (before : Connection) (input : Input) (after : Connection) : Prop :=
  before.Accepts input ∧ before.handle env input = .ok after

end Connection

end AzerothCore.Authserver

/-! ## What the handlers read -/

namespace AzerothCore.Authserver

open List Option
open Network (size_t bytesOf ClientPktHeader.littleEndian)
open Draining
open Folding

def field (packet : List UInt8) (position count : ℕ) : List UInt8 :=
  (packet.drop position).take count

def number (packet : List UInt8) (position count : ℕ) : ℕ :=
  ClientPktHeader.littleEndian (field packet position count)

variable {packet more : List UInt8} {position count : ℕ} {fault : Fault}

theorem bytesAt_of_le (hle : position + count ≤ packet.length) :
    bytesAt packet position count fault = .ok (field packet position count) :=
  if_pos hle

theorem bytesAt_eq_ok {bytes : List UInt8}
    (hread : bytesAt packet position count fault = .ok bytes) :
    position + count ≤ packet.length ∧ bytes = field packet position count := by
  unfold bytesAt at hread
  split at hread
  case isTrue hle => exact ⟨hle, (Except.ok.inj hread).symm⟩
  case isFalse => cases hread

theorem bytesAt_eq_error {other : Fault}
    (hread : bytesAt packet position count fault = .error other) :
    packet.length < position + count ∧ other = fault := by
  unfold bytesAt at hread
  split at hread
  · cases hread
  case isFalse hlt => exact ⟨Nat.lt_of_not_le hlt, (Except.error.inj hread).symm⟩

theorem numberAt_of_le (hle : position + count ≤ packet.length) :
    numberAt packet position count fault = .ok (number packet position count) := by
  rw [numberAt, bytesAt_of_le hle]
  rfl

theorem numberAt_eq_ok {value : ℕ} (hread : numberAt packet position count fault = .ok value) :
    position + count ≤ packet.length ∧ value = number packet position count := by
  unfold numberAt at hread
  split at hread
  case h_2 => cases hread
  rename_i bytes hbytes
  obtain ⟨hle, rfl⟩ := bytesAt_eq_ok hbytes
  exact ⟨hle, (Except.ok.inj hread).symm⟩

theorem numberAt_eq_error {other : Fault}
    (hread : numberAt packet position count fault = .error other) :
    packet.length < position + count ∧ other = fault := by
  unfold numberAt at hread
  split at hread
  · cases hread
  rename_i failed hbytes
  cases hread
  exact bytesAt_eq_error hbytes

theorem field_append (hle : position + count ≤ packet.length) :
    field (packet ++ more) position count = field packet position count := by
  rw [field, drop_append_of_le_length (by omega), take_append_of_le_length, field]
  rw [length_drop]
  omega

theorem number_append (hle : position + count ≤ packet.length) :
    number (packet ++ more) position count = number packet position count := by
  rw [number, field_append hle, number]

theorem littleEndian_lt (bytes : List UInt8) :
    ClientPktHeader.littleEndian bytes < 256 ^ bytes.length := by
  induction bytes with
  | nil => exact Nat.one_pos
  | cons byte bytes ih =>
    change byte.toNat + 256 * ClientPktHeader.littleEndian bytes < 256 ^ (bytes.length + 1)
    have hbyte : byte.toNat < 256 := byte.toNat_lt
    omega

theorem number_lt (packet : List UInt8) (position count : ℕ) :
    number packet position count < 256 ^ count := by
  refine Nat.lt_of_lt_of_le (littleEndian_lt _) (Nat.pow_le_pow_right (by omega) ?_)
  exact length_take_le count _

/-! ## More bytes behind a command -/

def Agrees {α : Type} (first second : Except Fault α) : Prop :=
  ∀ result, first = .ok result → second = .ok result

namespace Agrees

theorem of_eq {α : Type} {first second : Except Fault α} (heq : first = second) :
    Agrees first second := fun _ hfirst => heq.symm.trans hfirst

theorem bind {α β : Type} {first second : Except Fault α} {next other : α → Except Fault β}
    (hfirst : Agrees first second)
    (hnext : ∀ value, first = .ok value → Agrees (next value) (other value)) :
    Agrees (first >>= next) (second >>= other) := by
  intro result hresult
  obtain ⟨value, hvalue, hrest⟩ := exists_of_bind_ok hresult
  rw [hfirst value hvalue]
  exact hnext value hvalue result hrest

theorem bytesAt : Agrees (bytesAt packet position count fault)
    (Authserver.bytesAt (packet ++ more) position count fault) := by
  intro bytes hread
  obtain ⟨hle, rfl⟩ := bytesAt_eq_ok hread
  have happend : position + count ≤ (packet ++ more).length := by
    rw [length_append]
    omega
  rw [bytesAt_of_le happend, field_append hle]

theorem numberAt : Agrees (numberAt packet position count fault)
    (Authserver.numberAt (packet ++ more) position count fault) := by
  intro value hread
  obtain ⟨hle, rfl⟩ := numberAt_eq_ok hread
  have happend : position + count ≤ (packet ++ more).length := by
    rw [length_append]
    omega
  rw [numberAt_of_le happend, number_append hle]

end Agrees

variable {env : Environment} {session : AuthSession} {handled : Handled}

namespace AuthSession

variable {query : List UInt8 → Query}

theorem HandleChallenge_append : Agrees (session.HandleChallenge env query packet)
      (session.HandleChallenge env query (packet ++ more)) := by
  refine Agrees.bind Agrees.numberAt fun size _ => ?_
  refine Agrees.bind Agrees.numberAt fun I_len hlen => ?_
  split
  · apply Agrees.of_eq
    rw [take_append_of_le_length (numberAt_eq_ok hlen).1]
  · refine Agrees.bind Agrees.bytesAt fun login hlogin => ?_
    refine Agrees.bind Agrees.numberAt fun build _ => ?_
    refine Agrees.bind Agrees.bytesAt fun os _ => ?_
    refine Agrees.bind Agrees.bytesAt fun country _ => ?_
    apply Agrees.of_eq
    rw [take_append_of_le_length (bytesAt_eq_ok hlogin).1]

variable {securityFlags : UInt8}

theorem CheckToken_of_sent (secret : List UInt8) (hsent : securityFlags &&& 0x04 ≠ 0) :
    CheckToken env packet securityFlags (some secret)
      = (do
        let size ← numberAt packet sizeOfLogonProof 1 .token
        let token ← bytesAt packet (sizeOfLogonProof + 1) size .token
        .ok (env.ValidateToken secret (tokenValue env token), 1 + size,
          some (List.replicate secret.length 0))) :=
  if_pos hsent

theorem CheckToken_of_not_sent (secret : List UInt8) (hsent : ¬ securityFlags &&& 0x04 ≠ 0) :
    CheckToken env packet securityFlags (some secret) = .ok (false, 0, some secret) :=
  if_neg hsent

variable {secret : Option (List UInt8)}

theorem CheckToken_append : Agrees (CheckToken env packet securityFlags secret)
      (CheckToken env (packet ++ more) securityFlags secret) := by
  rcases secret with _ | secret
  · exact Agrees.of_eq rfl
  by_cases hsent : securityFlags &&& 0x04 ≠ 0
  · rw [CheckToken_of_sent secret hsent, CheckToken_of_sent secret hsent]
    refine Agrees.bind Agrees.numberAt fun size _ => ?_
    refine Agrees.bind Agrees.bytesAt fun token _ => ?_
    exact Agrees.of_eq rfl
  · rw [CheckToken_of_not_sent secret hsent, CheckToken_of_not_sent secret hsent]
    exact Agrees.of_eq rfl

/-- What the check of a token finds: without a secret or without a token it
takes nothing, and a token that it takes has been received. -/
theorem CheckToken_cases {rest : Option (List UInt8)} {tokenSuccess : Bool} {taken : ℕ}
    (hcheck : CheckToken env packet securityFlags secret = .ok (tokenSuccess, taken, rest)) :
    (secret = none ∧ taken = 0 ∧ tokenSuccess = !decide (securityFlags &&& 0x04 ≠ 0)) ∨
    (∃ key, secret = some key ∧ taken = 0 ∧ tokenSuccess = false) ∨
    (∃ key, secret = some key ∧ securityFlags &&& 0x04 ≠ 0 ∧
      sizeOfLogonProof + taken ≤ packet.length ∧
      taken = 1 + number packet sizeOfLogonProof 1 ∧
      tokenSuccess = env.ValidateToken key (tokenValue env
        (field packet (sizeOfLogonProof + 1) (number packet sizeOfLogonProof 1)))) := by
  rcases secret with _ | key
  · cases hcheck
    exact .inl ⟨rfl, rfl, rfl⟩
  by_cases hsent : securityFlags &&& 0x04 ≠ 0
  · rw [CheckToken_of_sent key hsent] at hcheck
    obtain ⟨size, hsize, hcheck⟩ := exists_of_bind_ok hcheck
    obtain ⟨token, htoken, hcheck⟩ := exists_of_bind_ok hcheck
    obtain ⟨_, rfl⟩ := numberAt_eq_ok hsize
    obtain ⟨hle, rfl⟩ := bytesAt_eq_ok htoken
    cases hcheck
    exact .inr (.inr ⟨key, rfl, hsent, by omega, rfl, rfl⟩)
  · rw [CheckToken_of_not_sent key hsent] at hcheck
    cases hcheck
    exact .inr (.inl ⟨key, rfl, rfl, rfl⟩)

theorem CheckToken_error {fault : Fault}
    (hcheck : CheckToken env packet securityFlags secret = .error fault) : fault = .token := by
  rcases secret with _ | key
  · cases hcheck
  by_cases hsent : securityFlags &&& 0x04 ≠ 0
  · rw [CheckToken_of_sent key hsent] at hcheck
    rcases of_bind_error hcheck with hsize | ⟨size, _, hcheck⟩
    · exact (numberAt_eq_error hsize).2
    rcases of_bind_error hcheck with htoken | ⟨token, _, hcheck⟩
    · exact (bytesAt_eq_error htoken).2
    · cases hcheck
  · rw [CheckToken_of_not_sent key hsent] at hcheck
    cases hcheck

theorem VerifyProof_append {A clientM crc_hash : List UInt8} {srp6 : SRP6}
    (hlen : sizeOfLogonProof ≤ packet.length) :
    Agrees (session.VerifyProof env packet A clientM crc_hash securityFlags srp6)
      (session.VerifyProof env (packet ++ more) A clientM crc_hash securityFlags srp6) := by
  unfold VerifyProof
  split
  · apply Agrees.of_eq
    rw [take_append_of_le_length hlen]
  rename_i K _
  refine Agrees.bind CheckToken_append fun ⟨tokenSuccess, taken, rest⟩ hcheck => ?_
  apply Agrees.of_eq
  have htaken : sizeOfLogonProof + taken ≤ packet.length := by
    rcases CheckToken_cases hcheck with ⟨_, hzero, _⟩ | ⟨_, _, hzero, _⟩ | ⟨_, _, _, hle, _⟩
    · omega
    · omega
    · exact hle
  dsimp only
  rw [take_append_of_le_length htaken]

theorem HandleLogonProof_append : Agrees (session.HandleLogonProof env packet)
      (session.HandleLogonProof env (packet ++ more)) := by
  refine Agrees.bind Agrees.bytesAt fun A _ => ?_
  refine Agrees.bind Agrees.bytesAt fun clientM _ => ?_
  refine Agrees.bind Agrees.bytesAt fun crc_hash _ => ?_
  refine Agrees.bind Agrees.numberAt fun securityFlags hflags => ?_
  have hlen : sizeOfLogonProof ≤ packet.length := (numberAt_eq_ok hflags).1
  dsimp only
  split
  · apply Agrees.of_eq
    rw [take_append_of_le_length hlen]
  · split
    · exact Agrees.of_eq rfl
    rename_i srp6 _
    split
    · exact Agrees.of_eq rfl
    · exact VerifyProof_append hlen

theorem HandleReconnectProof_append (hlen : sizeOfReconnectProof ≤ packet.length) :
    Agrees (session.HandleReconnectProof env packet)
      (session.HandleReconnectProof env (packet ++ more)) := by
  refine Agrees.bind Agrees.bytesAt fun R1 _ => ?_
  refine Agrees.bind Agrees.bytesAt fun R2 _ => ?_
  refine Agrees.bind Agrees.bytesAt fun R3 _ => ?_
  apply Agrees.of_eq
  rw [take_append_of_le_length hlen]

theorem HandleRealmList_append (hlen : REALM_LIST_PACKET_SIZE ≤ packet.length) :
    Agrees (session.HandleRealmList packet) (session.HandleRealmList (packet ++ more)) := by
  apply Agrees.of_eq
  rw [HandleRealmList, HandleRealmList, take_append_of_le_length hlen]

variable {cmd : UInt8}

theorem Handlers_cases {entry : AuthHandler} (hentry : Handlers env cmd = some entry) :
    (cmd = AUTH_LOGON_CHALLENGE ∧ entry = ⟨.STATUS_CHALLENGE, AUTH_LOGON_CHALLENGE_INITIAL_SIZE,
      HandleLogonChallenge env⟩) ∨
    (cmd = AUTH_LOGON_PROOF ∧ entry = ⟨.STATUS_LOGON_PROOF, sizeOfLogonProof,
      HandleLogonProof env⟩) ∨
    (cmd = AUTH_RECONNECT_CHALLENGE ∧ entry = ⟨.STATUS_CHALLENGE,
      AUTH_LOGON_CHALLENGE_INITIAL_SIZE, HandleReconnectChallenge env⟩) ∨
    (cmd = AUTH_RECONNECT_PROOF ∧ entry = ⟨.STATUS_RECONNECT_PROOF, sizeOfReconnectProof,
      HandleReconnectProof env⟩) ∨
    (cmd = REALM_LIST ∧ entry = ⟨.STATUS_AUTHED, REALM_LIST_PACKET_SIZE, HandleRealmList⟩) := by
  unfold Handlers at hentry
  split at hentry
  case isTrue hcmd => exact .inl ⟨hcmd, (some.inj hentry).symm⟩
  split at hentry
  case isTrue hcmd => exact .inr (.inl ⟨hcmd, (some.inj hentry).symm⟩)
  split at hentry
  case isTrue hcmd => exact .inr (.inr (.inl ⟨hcmd, (some.inj hentry).symm⟩))
  split at hentry
  case isTrue hcmd => exact .inr (.inr (.inr (.inl ⟨hcmd, (some.inj hentry).symm⟩)))
  split at hentry
  case isTrue hcmd => exact .inr (.inr (.inr (.inr ⟨hcmd, (some.inj hentry).symm⟩)))
  case isFalse => cases hentry

theorem handler_append {entry : AuthHandler} (hentry : Handlers env cmd = some entry)
    (hlen : entry.packetSize ≤ packet.length) :
    Agrees (entry.handler packet session) (entry.handler (packet ++ more) session) := by
  rcases Handlers_cases hentry with ⟨_, rfl⟩ | ⟨_, rfl⟩ | ⟨_, rfl⟩ | ⟨_, rfl⟩ | ⟨_, rfl⟩
  · exact HandleChallenge_append
  · exact HandleLogonProof_append
  · exact HandleChallenge_append
  · exact HandleReconnectProof_append hlen
  · exact HandleRealmList_append hlen

theorem commandSize_append {packetSize : ℕ} :
    Agrees (commandSize cmd packetSize packet) (commandSize cmd packetSize (packet ++ more)) := by
  unfold commandSize
  split
  case isFalse => exact Agrees.of_eq rfl
  refine Agrees.bind Agrees.numberAt fun declared _ => ?_
  exact Agrees.of_eq rfl

theorem ReadTurn_append {outcome : Turn AuthSession} (hpacket : packet ≠ [])
    (hturn : session.ReadTurn env packet = .ok outcome) (hsettled : outcome.settled = true) :
    session.ReadTurn env (packet ++ more) = .ok outcome := by
  have hhead : (packet ++ more).headD 0 = packet.headD 0 := by
    cases packet with
    | nil => exact absurd rfl hpacket
    | cons => rfl
  have hlonger : packet.length ≤ (packet ++ more).length := by
    rw [length_append]
    exact Nat.le_add_right _ _
  unfold ReadTurn at hturn ⊢
  rw [hhead]
  dsimp only at hturn ⊢
  split at hturn
  · exact nomatch Except.ok.inj hturn ▸ hsettled
  rename_i entry hentry
  split at hturn
  case isTrue hstatus => rw [if_pos hstatus, hturn]
  rename_i hstatus
  rw [if_neg hstatus]
  split at hturn
  · exact nomatch Except.ok.inj hturn ▸ hsettled
  rename_i hshort
  rw [if_neg (by omega)]
  obtain ⟨size, hsize, hturn⟩ := exists_of_bind_ok hturn
  rw [commandSize_append size hsize, ok_bind]
  split at hturn
  case isTrue hlarge => rw [if_pos hlarge, hturn]
  rename_i hlarge
  rw [if_neg hlarge]
  split at hturn
  · exact nomatch Except.ok.inj hturn ▸ hsettled
  rename_i hshort'
  rw [if_neg (by omega)]
  obtain ⟨handled, hhandled, hturn⟩ := exists_of_bind_ok hturn
  rw [handler_append hentry (by omega) handled hhandled, ok_bind, hturn]

theorem declared_eq_iff {declared I_len : ℕ} (hdeclared : declared < 2 ^ 16)
    (hlen : I_len < 256) :
    size_t (declared + 2 ^ 64 - (sizeOfLogonChallenge - AUTH_LOGON_CHALLENGE_INITIAL_SIZE - 1))
      = I_len ↔ declared = 30 + I_len := by
  rw [size_t, sizeOfLogonChallenge, AUTH_LOGON_CHALLENGE_INITIAL_SIZE]
  omega

theorem HandleChallenge_cases (hhandle : session.HandleChallenge env query packet = .ok handled) :
    handled = ⟨false, 0, packet.take 34, { session with _status := .STATUS_CLOSED }⟩ ∨
    ∃ I_len, number packet 2 2 = 30 + I_len ∧ I_len < 256 ∧ 34 + I_len ≤ packet.length ∧
      handled = ⟨true, 0, packet.take (34 + I_len),
        (ReadClient env (number packet 11 2) (field packet 17 4) (field packet 21 4)
          { session with _status := .STATUS_CLOSED }).AsyncQuery
          (query (field packet 34 I_len))⟩ := by
  obtain ⟨size, hsize, hhandle⟩ := exists_of_bind_ok hhandle
  obtain ⟨I_len, hlen, hhandle⟩ := exists_of_bind_ok hhandle
  obtain ⟨_, rfl⟩ := numberAt_eq_ok hsize
  have hdeclared : number packet 2 2 < 2 ^ 16 := number_lt packet 2 2
  have hname : I_len < 256 := by
    obtain ⟨_, rfl⟩ := numberAt_eq_ok hlen
    exact number_lt packet 33 1
  split at hhandle
  · exact .inl (Except.ok.inj hhandle).symm
  rename_i hfits
  obtain ⟨login, hlogin, hhandle⟩ := exists_of_bind_ok hhandle
  obtain ⟨build, hbuild, hhandle⟩ := exists_of_bind_ok hhandle
  obtain ⟨os, hos, hhandle⟩ := exists_of_bind_ok hhandle
  obtain ⟨country, hcountry, hhandle⟩ := exists_of_bind_ok hhandle
  obtain ⟨hle, rfl⟩ := bytesAt_eq_ok hlogin
  obtain ⟨_, rfl⟩ := numberAt_eq_ok hbuild
  obtain ⟨_, rfl⟩ := bytesAt_eq_ok hos
  obtain ⟨_, rfl⟩ := bytesAt_eq_ok hcountry
  refine .inr ⟨I_len, ?_, hname, hle, (Except.ok.inj hhandle).symm⟩
  exact (declared_eq_iff hdeclared hname).mp (not_not.mp hfits)

theorem HandleChallenge_error {fault : Fault} (hlen : 4 ≤ packet.length)
    (hsize : (4 + number packet 2 2) % 2 ^ 16 ≤ packet.length)
    (hhandle : session.HandleChallenge env query packet = .error fault) :
    ∃ declared, fault = .nameLength declared ∧ (declared < 30 ∨ 65532 ≤ declared) := by
  have hdeclared : number packet 2 2 < 2 ^ 16 := number_lt packet 2 2
  unfold HandleChallenge at hhandle
  rw [numberAt_of_le hlen, ok_bind] at hhandle
  rcases of_bind_error hhandle with hname | ⟨I_len, hname, hhandle⟩
  · obtain ⟨hlt, rfl⟩ := numberAt_eq_error hname
    exact ⟨_, rfl, by omega⟩
  obtain ⟨hle, hI_len⟩ := numberAt_eq_ok hname
  have hlt : I_len < 256 := by
    rw [hI_len]
    exact number_lt packet 33 1
  split at hhandle
  · cases hhandle
  rename_i hfits
  have hexact := (declared_eq_iff hdeclared hlt).mp (not_not.mp hfits)
  rw [bytesAt_of_le (by omega), ok_bind, numberAt_of_le (by omega), ok_bind,
    bytesAt_of_le (by omega), ok_bind, bytesAt_of_le (by omega), ok_bind] at hhandle
  cases hhandle

/-- An `SRP6` object is there that has not verified a response. -/
def ProofReady (session : AuthSession) : Prop :=
  ∃ srp6, session._srp6 = some srp6 ∧ srp6._used = false

def proofBegun (session : AuthSession) (srp6 : SRP6) : AuthSession :=
  { session with
    _status := .STATUS_CLOSED
    _srp6 := some { srp6 with _used := true } }

theorem HandleLogonProof_cases (hhandle : session.HandleLogonProof env packet = .ok handled) :
    sizeOfLogonProof ≤ packet.length ∧
    (handled = ⟨false, 0, packet.take sizeOfLogonProof,
        { session with _status := .STATUS_CLOSED }⟩ ∨
    ∃ srp6, session._srp6 = some srp6 ∧ srp6._used = false ∧
      ((env.VerifyChallengeResponse srp6 (field packet 1 32) (field packet 33 20) = none ∧
          handled = ⟨true, 0, packet.take sizeOfLogonProof,
            (session.proofBegun srp6).RejectPassword env⟩) ∨
        ∃ K tokenSuccess taken secret,
          env.VerifyChallengeResponse srp6 (field packet 1 32) (field packet 33 20) = some K ∧
          CheckToken env packet (UInt8.ofNat (number packet 74 1)) session._totpSecret
            = .ok (tokenSuccess, taken, secret) ∧
          handled = ⟨true, taken, packet.take (sizeOfLogonProof + taken),
            FinishProof env tokenSuccess (field packet 1 32) (field packet 33 20)
              (field packet 53 20) K { session.proofBegun srp6 with
                _sessionKey := K
                _totpSecret := secret }⟩)) := by
  obtain ⟨A, hA, hhandle⟩ := exists_of_bind_ok hhandle
  obtain ⟨clientM, hclientM, hhandle⟩ := exists_of_bind_ok hhandle
  obtain ⟨crc_hash, hcrc, hhandle⟩ := exists_of_bind_ok hhandle
  obtain ⟨securityFlags, hflags, hhandle⟩ := exists_of_bind_ok hhandle
  obtain ⟨_, rfl⟩ := bytesAt_eq_ok hA
  obtain ⟨_, rfl⟩ := bytesAt_eq_ok hclientM
  obtain ⟨_, rfl⟩ := bytesAt_eq_ok hcrc
  obtain ⟨hlen, rfl⟩ := numberAt_eq_ok hflags
  refine ⟨hlen, ?_⟩
  dsimp only at hhandle
  split at hhandle
  · exact .inl (Except.ok.inj hhandle).symm
  split at hhandle
  · cases hhandle
  rename_i srp6 hsrp6
  split at hhandle
  · cases hhandle
  rename_i hused
  refine .inr ⟨srp6, hsrp6, Bool.not_eq_true _ ▸ hused, ?_⟩
  unfold VerifyProof at hhandle
  split at hhandle
  case h_1 hverify => exact .inl ⟨hverify, (Except.ok.inj hhandle).symm⟩
  rename_i K hverify
  obtain ⟨⟨tokenSuccess, taken, secret⟩, hcheck, hhandle⟩ := exists_of_bind_ok hhandle
  exact .inr ⟨K, tokenSuccess, taken, secret, hverify, hcheck, (Except.ok.inj hhandle).symm⟩

theorem HandleLogonProof_error {fault : Fault} (hlen : sizeOfLogonProof ≤ packet.length)
    (hready : session.ProofReady)
    (hhandle : session.HandleLogonProof env packet = .error fault) : fault = .token := by
  rw [sizeOfLogonProof] at hlen
  obtain ⟨srp6, hsrp6, hused⟩ := hready
  unfold HandleLogonProof at hhandle
  rw [bytesAt_of_le (by omega), ok_bind, bytesAt_of_le (by omega), ok_bind,
    bytesAt_of_le (by omega), ok_bind, numberAt_of_le (by omega), ok_bind] at hhandle
  dsimp only at hhandle
  split at hhandle
  · cases hhandle
  rw [hsrp6] at hhandle
  dsimp only at hhandle
  rw [if_neg (by rw [hused]; exact Bool.false_ne_true)] at hhandle
  unfold VerifyProof at hhandle
  split at hhandle
  · cases hhandle
  rcases of_bind_error hhandle with hcheck | ⟨checked, _, hhandle⟩
  · exact CheckToken_error hcheck
  · cases hhandle

theorem HandleReconnectProof_cases
    (hhandle : session.HandleReconnectProof env packet = .ok handled) :
    handled.taken = 0 ∧ handled.interpreted = packet.take sizeOfReconnectProof ∧
    ((handled.result = false ∧ handled.session = { session with _status := .STATUS_CLOSED }) ∨
      (handled.result = true ∧
        env.SHA1 (session._accountInfo.Login ++ field packet 1 16 ++ session._reconnectProof
          ++ session._sessionKey) = field packet 17 20 ∧
        (handled.session = SendPacket [AUTH_RECONNECT_PROOF, WOW_FAIL_VERSION_INVALID]
            { session with _status := .STATUS_CLOSED } ∨
          handled.session = { SendPacket ([AUTH_RECONNECT_PROOF, WOW_SUCCESS] ++ bytesOf 2 0)
            { session with _status := .STATUS_CLOSED } with _status := .STATUS_AUTHED }))) := by
  obtain ⟨R1, hR1, hhandle⟩ := exists_of_bind_ok hhandle
  obtain ⟨R2, hR2, hhandle⟩ := exists_of_bind_ok hhandle
  obtain ⟨R3, hR3, hhandle⟩ := exists_of_bind_ok hhandle
  obtain ⟨_, rfl⟩ := bytesAt_eq_ok hR1
  obtain ⟨_, rfl⟩ := bytesAt_eq_ok hR2
  dsimp only at hhandle
  split at hhandle
  · cases hhandle
    exact ⟨rfl, rfl, .inl ⟨rfl, rfl⟩⟩
  split at hhandle
  case isFalse =>
    cases hhandle
    exact ⟨rfl, rfl, .inl ⟨rfl, rfl⟩⟩
  case isTrue hdigest =>
    split at hhandle
    · cases hhandle
      exact ⟨rfl, rfl, .inr ⟨rfl, hdigest, .inl rfl⟩⟩
    · cases hhandle
      exact ⟨rfl, rfl, .inr ⟨rfl, hdigest, .inr rfl⟩⟩

theorem HandleReconnectProof_error {fault : Fault}
    (hlen : sizeOfReconnectProof ≤ packet.length) :
    session.HandleReconnectProof env packet ≠ .error fault := by
  intro hhandle
  rw [sizeOfReconnectProof] at hlen
  unfold HandleReconnectProof at hhandle
  rw [bytesAt_of_le (by omega), ok_bind, bytesAt_of_le (by omega), ok_bind,
    bytesAt_of_le (by omega), ok_bind] at hhandle
  dsimp only at hhandle
  split at hhandle
  · cases hhandle
  split at hhandle
  case isFalse => cases hhandle
  split at hhandle
  · cases hhandle
  · cases hhandle

/-! ## What a handler leaves as it was -/

structure Quiet (before after : AuthSession) : Prop where
  closed : after._closed = before._closed
  trace : after.trace = before.trace
  queries : after._queryProcessor = before._queryProcessor
  sent : ∀ packet ∈ after._writeQueue, packet ∈ before._writeQueue ∨ packet.head? ≠ some REALM_LIST

namespace Quiet

theorem of_eq {before after : AuthSession} (hclosed : after._closed = before._closed)
    (htrace : after.trace = before.trace) (hqueries : after._queryProcessor = before._queryProcessor)
    (hsent : after._writeQueue = before._writeQueue) : Quiet before after :=
  ⟨hclosed, htrace, hqueries, fun _ hpacket => .inl (hsent ▸ hpacket)⟩

theorem trans {first second third : AuthSession} (hfirst : Quiet first second)
    (hsecond : Quiet second third) : Quiet first third where
  closed := hsecond.closed.trans hfirst.closed
  trace := hsecond.trace.trans hfirst.trace
  queries := hsecond.queries.trans hfirst.queries
  sent := by
    intro packet hpacket
    rcases hsecond.sent packet hpacket with hpacket | hother
    · exact hfirst.sent packet hpacket
    · exact .inr hother

end Quiet

theorem SendPacket_quiet {packet : List UInt8} (hhead : packet.head? ≠ some REALM_LIST)
    (session : AuthSession) : Quiet session (session.SendPacket packet) := by
  unfold SendPacket
  split
  · exact .of_eq rfl rfl rfl rfl
  refine ⟨rfl, rfl, rfl, ?_⟩
  intro other hother
  rcases mem_append.mp hother with hold | hnew
  · exact .inl hold
  · rw [mem_singleton.mp hnew]
    exact .inr hhead

@[simp] theorem SendPacket_srp6 (packet : List UInt8) (session : AuthSession) :
    (session.SendPacket packet)._srp6 = session._srp6 := by
  unfold SendPacket
  split
  · rfl
  · rfl

@[simp] theorem SendPacket_closed (packet : List UInt8) (session : AuthSession) :
    (session.SendPacket packet)._closed = session._closed := by
  unfold SendPacket
  split
  · rfl
  · rfl

@[simp] theorem SendPacket_trace (packet : List UInt8) (session : AuthSession) :
    (session.SendPacket packet).trace = session.trace := by
  unfold SendPacket
  split
  · rfl
  · rfl

@[simp] theorem SendPacket_status (packet : List UInt8) (session : AuthSession) :
    (session.SendPacket packet)._status = session._status := by
  unfold SendPacket
  split
  · rfl
  · rfl

theorem Execute_quiet (statement : Statement) (session : AuthSession) :
    Quiet session (session.Execute statement) :=
  .of_eq rfl rfl rfl rfl

theorem CountWrongPassword_quiet (env : Environment) (session : AuthSession) :
    Quiet session (session.CountWrongPassword env) ∧
      (session.CountWrongPassword env)._status = session._status := by
  unfold CountWrongPassword
  dsimp only
  split
  case isFalse => exact ⟨.of_eq rfl rfl rfl rfl, rfl⟩
  split
  case isFalse => exact ⟨.of_eq rfl rfl rfl rfl, rfl⟩
  split
  · exact ⟨.of_eq rfl rfl rfl rfl, rfl⟩
  · exact ⟨.of_eq rfl rfl rfl rfl, rfl⟩

theorem RejectPassword_quiet (env : Environment) (session : AuthSession) :
    Quiet session (session.RejectPassword env) ∧
      (session.RejectPassword env)._status = session._status := by
  have hfailure : proofFailure.head? ≠ some REALM_LIST := by decide
  unfold RejectPassword
  split
  · obtain ⟨hquiet, hstatus⟩ := CountWrongPassword_quiet env
      ((session.SendPacket proofFailure).Execute _)
    refine ⟨(SendPacket_quiet hfailure session).trans ((Execute_quiet _ _).trans hquiet), ?_⟩
    exact hstatus.trans (SendPacket_status _ _)
  · obtain ⟨hquiet, hstatus⟩ := CountWrongPassword_quiet env
      (session.SendPacket proofFailure)
    exact ⟨(SendPacket_quiet hfailure session).trans hquiet, hstatus.trans (SendPacket_status _ _)⟩

theorem proofPacket_head (expversion : UInt8) (M2 : List UInt8) :
    (proofPacket expversion M2).head? ≠ some REALM_LIST := by
  unfold proofPacket
  split
  · exact ne_of_beq_false rfl
  · exact ne_of_beq_false rfl

theorem AcceptProof_quiet (A clientM K : List UInt8) (session : AuthSession) :
    Quiet session (session.AcceptProof env A clientM K) := by
  exact (Execute_quiet _ session).trans
    ((SendPacket_quiet (proofPacket_head _ _) _).trans (.of_eq rfl rfl rfl rfl))

theorem FinishProof_cases (env : Environment) (tokenSuccess : Bool) (A clientM crc_hash K : List UInt8)
    (session : AuthSession) :
    Quiet session (session.FinishProof env tokenSuccess A clientM crc_hash K) ∧
      ((session.FinishProof env tokenSuccess A clientM crc_hash K)._status = session._status ∨
      ((session.FinishProof env tokenSuccess A clientM crc_hash K)._status = .STATUS_AUTHED ∧
        tokenSuccess = true ∧ session.VerifyVersion env A crc_hash false = true)) := by
  unfold FinishProof
  split
  · exact ⟨SendPacket_quiet (by decide) session, .inl (SendPacket_status _ _)⟩
  rename_i htoken
  split
  · exact ⟨SendPacket_quiet (by decide) session, .inl (SendPacket_status _ _)⟩
  rename_i hversion
  exact ⟨AcceptProof_quiet A clientM K session, .inr ⟨rfl, by simpa using htoken,
    by simpa using hversion⟩⟩

theorem HandleLogonProof_taken (hhandle : session.HandleLogonProof env packet = .ok handled) :
    sizeOfLogonProof + handled.taken ≤ packet.length := by
  obtain ⟨hlen, hcases⟩ := HandleLogonProof_cases hhandle
  rcases hcases with rfl | ⟨srp6, _, _, ⟨_, rfl⟩ | ⟨K, _, taken, _, _, hcheck, rfl⟩⟩
  · exact hlen
  · exact hlen
  rcases CheckToken_cases hcheck with ⟨_, hzero, _⟩ | ⟨_, _, hzero, _⟩ | ⟨_, _, _, hle, _⟩
  · rw [hzero]
    exact hlen
  · rw [hzero]
    exact hlen
  · exact hle

theorem HandleLogonProof_status (hhandle : session.HandleLogonProof env packet = .ok handled) :
    Quiet session handled.session ∧ (handled.session._status = .STATUS_CLOSED ∨
      handled.session._status = .STATUS_AUTHED) := by
  rcases (HandleLogonProof_cases hhandle).2 with rfl | ⟨srp6, _, _, ⟨_, rfl⟩ |
    ⟨K, tokenSuccess, taken, secret, _, _, rfl⟩⟩
  · exact ⟨.of_eq rfl rfl rfl rfl, .inl rfl⟩
  · obtain ⟨hquiet, hstatus⟩ := RejectPassword_quiet env (session.proofBegun srp6)
    refine ⟨Quiet.trans ?_ hquiet, .inl hstatus⟩
    exact .of_eq rfl rfl rfl rfl
  · obtain ⟨hquiet, hstatus⟩ := FinishProof_cases env tokenSuccess (field packet 1 32)
      (field packet 33 20) (field packet 53 20) K { session.proofBegun srp6 with
        _sessionKey := K
        _totpSecret := secret }
    refine ⟨Quiet.trans ?_ hquiet, ?_⟩
    · exact .of_eq rfl rfl rfl rfl
    · exact hstatus.imp id fun hacc => hacc.1

theorem HandleReconnectProof_status
    (hhandle : session.HandleReconnectProof env packet = .ok handled) :
    Quiet session handled.session ∧ (handled.session._status = .STATUS_CLOSED ∨
      handled.session._status = .STATUS_AUTHED) := by
  have hclosed : Quiet session { session with _status := .STATUS_CLOSED } := .of_eq rfl rfl rfl rfl
  obtain ⟨_, _, ⟨_, hsession⟩ | ⟨_, _, hsession | hsession⟩⟩ := HandleReconnectProof_cases hhandle
  · rw [hsession]
    exact ⟨.of_eq rfl rfl rfl rfl, .inl rfl⟩
  · rw [hsession]
    refine ⟨hclosed.trans (SendPacket_quiet ?_ _), .inl (SendPacket_status _ _)⟩
    decide
  · rw [hsession]
    refine ⟨hclosed.trans ((SendPacket_quiet ?_ _).trans (.of_eq rfl rfl rfl rfl)), .inr rfl⟩
    decide

theorem Refuse_quiet {answer : UInt8} (session : AuthSession) :
    Quiet session (session.Refuse answer) :=
  SendPacket_quiet (ne_of_beq_false rfl) session

theorem BeginProof_quiet (env : Environment) (row : LogonRow) (secret : Option (List UInt8))
    (random : List UInt8) (session : AuthSession) :
    Quiet session (session.BeginProof env row secret random) := by
  unfold BeginProof
  dsimp only
  split
  · refine Quiet.trans ?_ (SendPacket_quiet (ne_of_beq_false rfl) _)
    exact .of_eq rfl rfl rfl rfl
  · refine Quiet.trans ?_ (Refuse_quiet _)
    exact .of_eq rfl rfl rfl rfl

theorem LogonChallengeCallback_cases (env : Environment) (result : Option LogonRow)
    (random : List UInt8) (session : AuthSession) :
    (Quiet session (session.LogonChallengeCallback env result random) ∧
      (session.LogonChallengeCallback env result random)._status = session._status ∧
      (session.LogonChallengeCallback env result random)._srp6 = session._srp6) ∨
    ∃ row secret, result = some row ∧ CheckLocks env (env.LoadResult row.toAccountRow)
        (CountryOf env (env.LoadResult row.toAccountRow) session._ipCountry) = .ok () ∧
      CheckBan (env.LoadResult row.toAccountRow) = .ok () ∧
      ReadSecret env row.totp_secret = .ok secret ∧
      session.LogonChallengeCallback env result random
        = BeginProof env row secret random { session with
            _accountInfo := env.LoadResult row.toAccountRow
            _ipCountry := CountryOf env (env.LoadResult row.toAccountRow) session._ipCountry } := by
  rcases result with _ | row
  · exact .inl ⟨Refuse_quiet session, SendPacket_status _ _, SendPacket_srp6 _ _⟩
  unfold LogonChallengeCallback
  dsimp only
  split
  · refine .inl ⟨Quiet.trans ?_ (Refuse_quiet _), SendPacket_status _ _, SendPacket_srp6 _ _⟩
    exact .of_eq rfl rfl rfl rfl
  rename_i hlocks
  split
  · refine .inl ⟨Quiet.trans ?_ (Refuse_quiet _), SendPacket_status _ _, SendPacket_srp6 _ _⟩
    exact .of_eq rfl rfl rfl rfl
  case h_2 hban =>
    split
    case h_2 secret hsecret =>
      exact .inr ⟨row, secret, rfl, hlocks, hban, hsecret, rfl⟩
    refine .inl ⟨Quiet.trans ?_ (Refuse_quiet _), SendPacket_status _ _, SendPacket_srp6 _ _⟩
    exact .of_eq rfl rfl rfl rfl

theorem LogonChallengeCallback_quiet (env : Environment) (result : Option LogonRow)
    (random : List UInt8) (session : AuthSession) :
    Quiet session (session.LogonChallengeCallback env result random) := by
  rcases LogonChallengeCallback_cases env result random session with
    ⟨hquiet, _⟩ | ⟨row, secret, _, _, _, _, hcallback⟩
  · exact hquiet
  rw [hcallback]
  refine Quiet.trans ?_ (BeginProof_quiet env row secret random _)
  exact .of_eq rfl rfl rfl rfl

theorem BeginProof_srp6 (env : Environment) (row : LogonRow) (secret : Option (List UInt8))
    (random : List UInt8) (session : AuthSession) :
    (session.BeginProof env row secret random)._srp6
      = some ⟨session._accountInfo.Login, row.salt, row.verifier, random, false⟩ := by
  unfold BeginProof
  dsimp only
  split
  · exact SendPacket_srp6 _ _
  · exact SendPacket_srp6 _ _

theorem ReconnectChallengeCallback_quiet (env : Environment) (result : Option ReconnectRow)
    (random : List UInt8) (session : AuthSession) :
    Quiet session (session.ReconnectChallengeCallback env result random) := by
  cases result with
  | none => exact SendPacket_quiet (ne_of_beq_false rfl) session
  | some row =>
    refine Quiet.trans ?_ (SendPacket_quiet (ne_of_beq_false rfl) _)
    exact .of_eq rfl rfl rfl rfl

end AuthSession

end AzerothCore.Authserver
