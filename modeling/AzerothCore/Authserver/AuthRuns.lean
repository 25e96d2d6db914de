import AzerothCore.Authserver.AuthFraming

/-!
# How a session is authenticated

A session goes from a challenge over the answer of the database to one proof.
It is authenticated only if that proof and all that its account requires hold.
-/

namespace AzerothCore.Authserver

open List Option Bool Nat
open Network (bytesOf)
open Draining
open Reachability

/-! ## What authentication requires -/

def ofAccount : AuthEvent → Bool
  | .handled cmd _ => cmd ≠ REALM_LIST
  | .answered (.logonChallenge _ _) | .answered (.reconnectChallenge _ _) => true
  | .answered _ | .ignored _ => false

def account (trace : List AuthEvent) : List AuthEvent := trace.filter ofAccount

def proofs (events : List AuthEvent) : ℕ :=
  events.countP fun event =>
    match event with
    | .handled cmd _ => cmd = AUTH_LOGON_PROOF ∨ cmd = AUTH_RECONNECT_PROOF
    | .ignored _ | .answered _ => false

def RealmListSent (session : AuthSession) : Prop :=
  ∃ packet ∈ session._writeQueue, packet.head? = some REALM_LIST

variable (env : Environment)

def LocksPassed (info : AccountInfo) : Prop :=
  if info.IsLockedToIP then
    info.LastIP = env.remoteAddress
  else
    info.LockCountry = [] ∨ info.LockCountry = text "00" ∨
      ∀ country, env.GetLocationRecord env.remoteAddress = some country → country ≠ [] →
        country = info.LockCountry

def versionHash (build : ℕ) (os : List UInt8) : Option (List UInt8) :=
  (env.GetBuildInfo build).bind fun buildInfo =>
    if os = text "Win" then some buildInfo.WindowsHash
    else if os = text "OSX" then some buildInfo.MacHash
    else none

def VersionProved (build : ℕ) (os A crc_hash : List UInt8) : Prop :=
  env.StrictVersionCheck = true → ∃ hash, versionHash env build os = some hash ∧
    (hash = List.replicate 20 0 ∨ crc_hash = env.SHA1 (A ++ hash))

def TokenRead (secret : Option (List UInt8)) (proof : List UInt8) : Prop :=
  match secret with
  | none => UInt8.ofNat (number proof 74 1) &&& 0x04 = 0
  | some key => UInt8.ofNat (number proof 74 1) &&& 0x04 ≠ 0 ∧ sizeOfLogonProof < proof.length ∧
      env.ValidateToken key (AuthSession.tokenValue env (proof.drop (sizeOfLogonProof + 1))) = true

def TokenMet (secret : Option (List UInt8)) (proof : List UInt8) : Prop :=
  match secret with
  | none => UInt8.ofNat (number proof 74 1) &&& 0x04 = 0
  | some key => UInt8.ofNat (number proof 74 1) &&& 0x04 ≠ 0 ∧
      ∃ value, StringTo (proof.drop (sizeOfLogonProof + 1)) = some value ∧
        env.ValidateToken key value = true

def clientOs (challenge : List UInt8) : List UInt8 :=
  ((field challenge 17 4).takeWhile fun char => char ≠ 0).reverse

structure MayLogIn (challenge : List UInt8) (row : LogonRow) : Prop where
  locks : LocksPassed env (env.LoadResult row.toAccountRow)
  notBanned : row.account_banned = false ∧ row.ip_banned = false
  build : env.IsAcceptedClientBuild (number challenge 11 2) = true

structure LogonProved (tokenHolds : Option (List UInt8) → List UInt8 → Prop)
    (challenge : List UInt8) (row : LogonRow) (random proof : List UInt8) : Prop where
  account : MayLogIn env challenge row
  password : (env.VerifyChallengeResponse
    ⟨(env.LoadResult row.toAccountRow).Login, row.salt, row.verifier, random, false⟩
    (field proof 1 32) (field proof 33 20)).isSome = true
  token : ∃ secret, AuthSession.ReadSecret env row.totp_secret = .ok secret ∧ tokenHolds secret proof
  version : VersionProved env (number challenge 11 2) (clientOs challenge) (field proof 1 32)
    (field proof 53 20)

def ReconnectProved (row : ReconnectRow) (random proof : List UInt8) : Prop :=
  env.SHA1 ((env.LoadResult row.toAccountRow).Login ++ field proof 1 16 ++ random
    ++ row.session_key) = field proof 17 20

def Authenticated (tokenHolds : Option (List UInt8) → List UInt8 → Prop)
    (events : List AuthEvent) : Prop :=
  (∃ challenge row random proof, events = [.handled AUTH_LOGON_CHALLENGE challenge,
      .answered (.logonChallenge (some row) random), .handled AUTH_LOGON_PROOF proof] ∧
    LogonProved env tokenHolds challenge row random proof) ∨
  ∃ challenge row random proof, events = [.handled AUTH_RECONNECT_CHALLENGE challenge,
      .answered (.reconnectChallenge (some row) random), .handled AUTH_RECONNECT_PROOF proof] ∧
    ReconnectProved env row random proof

variable {env}

theorem Authenticated.proofs_eq {tokenHolds : Option (List UInt8) → List UInt8 → Prop}
    {events : List AuthEvent} (hauthenticated : Authenticated env tokenHolds events) :
    proofs events = 1 := by
  rcases hauthenticated with ⟨_, _, _, _, rfl, _⟩ | ⟨_, _, _, _, rfl, _⟩
  · rfl
  · rfl

def NoRealmList (session : AuthSession) : Prop :=
  ∀ packet ∈ session._writeQueue, packet.head? ≠ some REALM_LIST

inductive Phase (env : Environment) (events : List AuthEvent) (session : AuthSession) : Prop where
  | challenge (status : session._status = .STATUS_CHALLENGE)
      (queries : session._queryProcessor = [] ∨ session._queryProcessor = [.ipInfo])
      (country : session._ipCountry = []) (secret : session._totpSecret = none)
      (hevents : events = []) (silent : NoRealmList session)
  | asked (challenge login : List UInt8) (status : session._status = .STATUS_CLOSED)
      (queries : session._queryProcessor = [.logonChallenge login])
      (country : session._ipCountry = []) (build : session._build = number challenge 11 2)
      (os : session._os = clientOs challenge)
      (hevents : events = [.handled AUTH_LOGON_CHALLENGE challenge])
      (silent : NoRealmList session)
  | askedAgain (challenge login : List UInt8) (status : session._status = .STATUS_CLOSED)
      (queries : session._queryProcessor = [.reconnectChallenge login])
      (hevents : events = [.handled AUTH_RECONNECT_CHALLENGE challenge])
      (silent : NoRealmList session)
  | logonProof (challenge : List UInt8) (row : LogonRow) (random : List UInt8)
      (status : session._status = .STATUS_LOGON_PROOF) (queries : session._queryProcessor = [])
      (build : session._build = number challenge 11 2) (os : session._os = clientOs challenge)
      (account : MayLogIn env challenge row)
      (srp6 : session._srp6 = some ⟨(env.LoadResult row.toAccountRow).Login, row.salt,
        row.verifier, random, false⟩)
      (secret : AuthSession.ReadSecret env row.totp_secret = .ok session._totpSecret)
      (hevents : events = [.handled AUTH_LOGON_CHALLENGE challenge,
        .answered (.logonChallenge (some row) random)])
      (silent : NoRealmList session)
  | reconnectProof (challenge : List UInt8) (row : ReconnectRow) (random : List UInt8)
      (status : session._status = .STATUS_RECONNECT_PROOF) (queries : session._queryProcessor = [])
      (info : session._accountInfo = env.LoadResult row.toAccountRow)
      (key : session._sessionKey = row.session_key) (drawn : session._reconnectProof = random)
      (hevents : events = [.handled AUTH_RECONNECT_CHALLENGE challenge,
        .answered (.reconnectChallenge (some row) random)])
      (silent : NoRealmList session)
  | authed (status : session._status = .STATUS_AUTHED) (queries : session._queryProcessor = [])
      (authenticated : Authenticated env (TokenRead env) events)
  | waiting (realm : ℕ) (status : session._status = .STATUS_WAITING_FOR_REALM_LIST)
      (queries : session._queryProcessor = [.realmCharacterCounts realm])
      (authenticated : Authenticated env (TokenRead env) events)
  | finished (status : session._status = .STATUS_CLOSED) (queries : session._queryProcessor = [])
      (hevents : proofs events ≤ 1) (silent : NoRealmList session)

variable {session after : AuthSession} {events : List AuthEvent}

/-- Two sessions that differ only in what no phase is about. -/
structure Alike (before after : AuthSession) : Prop where
  status : after._status = before._status
  queries : after._queryProcessor = before._queryProcessor
  country : after._ipCountry = before._ipCountry
  secret : after._totpSecret = before._totpSecret
  build : after._build = before._build
  os : after._os = before._os
  srp6 : after._srp6 = before._srp6
  info : after._accountInfo = before._accountInfo
  key : after._sessionKey = before._sessionKey
  drawn : after._reconnectProof = before._reconnectProof
  silent : NoRealmList before → NoRealmList after

theorem Phase.alike (hphase : Phase env events session) (halike : Alike session after) :
    Phase env events after := by
  cases hphase with
  | challenge status queries country secret hevents silent =>
    exact .challenge (halike.status.trans status) (halike.queries ▸ queries)
      (halike.country.trans country) (halike.secret.trans secret) hevents (halike.silent silent)
  | asked challenge login status queries country build os hevents silent =>
    exact .asked challenge login (halike.status.trans status) (halike.queries.trans queries)
      (halike.country.trans country) (halike.build.trans build) (halike.os.trans os) hevents
      (halike.silent silent)
  | askedAgain challenge login status queries hevents silent =>
    exact .askedAgain challenge login (halike.status.trans status)
      (halike.queries.trans queries) hevents (halike.silent silent)
  | logonProof challenge row random status queries build os account srp6 secret hevents silent =>
    exact .logonProof challenge row random (halike.status.trans status)
      (halike.queries.trans queries) (halike.build.trans build) (halike.os.trans os) account
      (halike.srp6.trans srp6) (halike.secret ▸ secret) hevents (halike.silent silent)
  | reconnectProof challenge row random status queries info key drawn hevents silent =>
    exact .reconnectProof challenge row random (halike.status.trans status)
      (halike.queries.trans queries) (halike.info.trans info) (halike.key.trans key)
      (halike.drawn.trans drawn) hevents (halike.silent silent)
  | authed status queries authenticated =>
    exact .authed (halike.status.trans status) (halike.queries.trans queries) authenticated
  | waiting realm status queries authenticated =>
    exact .waiting realm (halike.status.trans status) (halike.queries.trans queries)
      authenticated
  | finished status queries hevents silent =>
    exact .finished (halike.status.trans status) (halike.queries.trans queries) hevents
      (halike.silent silent)

variable {size : ℕ} {challenge : List UInt8} {secret : Option (List UInt8)}

section

variable {packet : List UInt8} {position count : ℕ} (hfits : position + count ≤ size)
include hfits

theorem field_take : field (packet.take size) position count = field packet position count := by
  rw [field, field, drop_take, take_take]
  congr 1
  omega

theorem number_take : number (packet.take size) position count = number packet position count := by
  rw [number, number, field_take hfits]

end

theorem clientOs_take {packet : List UInt8} (hfits : 21 ≤ size) :
    clientOs (packet.take size) = clientOs packet := by
  rw [clientOs, clientOs, field_take hfits]

theorem LocksPassed.of_CheckLocks {info : AccountInfo}
    (hlocks : AuthSession.CheckLocks env info (AuthSession.CountryOf env info []) = .ok ()) :
    LocksPassed env info := by
  unfold AuthSession.CheckLocks at hlocks
  unfold LocksPassed
  split at hlocks
  case isTrue hlocked =>
    rw [if_pos hlocked]
    split at hlocks
    · cases hlocks
    case isFalse haddress => exact not_not.mp haddress
  rename_i hlocked
  rw [if_neg hlocked]
  rw [AuthSession.CountryOf, if_neg hlocked] at hlocks
  split at hlocks
  case isTrue hnone => exact hnone.imp id .inl
  split at hlocks
  · cases hlocks
  rename_i hcountry
  refine .inr (.inr ?_)
  intro country hknown hsome
  rw [hknown] at hcountry
  by_contra hother
  exact hcountry ⟨hsome, hother⟩

theorem MayLogIn.of_checks {row : LogonRow}
    (hlocks : AuthSession.CheckLocks env (env.LoadResult row.toAccountRow)
      (AuthSession.CountryOf env (env.LoadResult row.toAccountRow) []) = .ok ())
    (hban : AuthSession.CheckBan (env.LoadResult row.toAccountRow) = .ok ())
    (hbuild : env.IsAcceptedClientBuild (number challenge 11 2) = true) :
    MayLogIn env challenge row where
  locks := .of_CheckLocks hlocks
  notBanned := by
    unfold AuthSession.CheckBan at hban
    split at hban
    · cases hban
    case isFalse hclear => exact or_eq_false_iff.mp (not_eq_true _ ▸ hclear)
  build := hbuild

theorem VersionProved.of_VerifyVersion {A crc_hash : List UInt8}
    (hverify : session.VerifyVersion env A crc_hash false = true) :
    VersionProved env session._build session._os A crc_hash := by
  intro hstrict
  unfold AuthSession.VerifyVersion at hverify
  rw [hstrict] at hverify
  unfold versionHash
  rcases hinfo : env.GetBuildInfo session._build with _ | buildInfo
  · rw [hinfo] at hverify
    cases hverify
  rw [hinfo] at hverify
  dsimp only at hverify
  rw [bind_some]
  generalize (if session._os = text "Win" then some buildInfo.WindowsHash
    else if session._os = text "OSX" then some buildInfo.MacHash else none) = found at hverify ⊢
  rcases found with _ | hash
  · cases hverify
  refine ⟨hash, rfl, ?_⟩
  rcases or_eq_true_iff.mp hverify with hzeros | hdigest
  · exact .inl (of_decide_eq_true hzeros).symm
  · exact .inr (of_decide_eq_true hdigest)

theorem TokenRead.of_CheckToken {packet : List UInt8} {rest : Option (List UInt8)} {taken : ℕ}
    (hcheck : AuthSession.CheckToken env packet (UInt8.ofNat (number packet 74 1)) secret
      = .ok (true, taken, rest)) :
    TokenRead env secret (packet.take (sizeOfLogonProof + taken)) := by
  have hflags : number (packet.take (sizeOfLogonProof + taken)) 74 1 = number packet 74 1 :=
    number_take (le_add_right _ _)
  unfold TokenRead
  rw [hflags]
  rcases AuthSession.CheckToken_cases hcheck with ⟨rfl, _, hsent⟩ | ⟨_, _, _, hfalse⟩ |
    ⟨key, rfl, hsent, hfits, htaken, hvalid⟩
  · by_contra hflag
    rw [decide_eq_true hflag] at hsent
    cases hsent
  · cases hfalse
  have hlen : sizeOfLogonProof < (packet.take (sizeOfLogonProof + taken)).length := by
    rw [length_take, min_eq_left hfits]
    omega
  refine ⟨hsent, hlen, ?_⟩
  have htoken : (packet.take (sizeOfLogonProof + taken)).drop (sizeOfLogonProof + 1)
      = field packet (sizeOfLogonProof + 1) (number packet sizeOfLogonProof 1) := by
    rw [drop_take, field]
    congr 1
    omega
  rw [htoken]
  exact hvalid.symm

theorem NoRealmList.of_quiet (hquiet : AuthSession.Quiet session after)
    (hsilent : NoRealmList session) : NoRealmList after := by
  intro packet hpacket
  rcases hquiet.sent packet hpacket with hbefore | hother
  · exact hsilent packet hbefore
  · exact hother

section

variable (hphase : Phase env events session)
include hphase

theorem Phase.of_challenge (hstatus : session._status = .STATUS_CHALLENGE) :
    (session._queryProcessor = [] ∨ session._queryProcessor = [.ipInfo]) ∧
      session._ipCountry = [] ∧ session._totpSecret = none ∧ events = [] ∧
      NoRealmList session := by
  cases hphase with
  | challenge _ queries country secret hevents silent =>
    exact ⟨queries, country, secret, hevents, silent⟩
  | asked _ _ status | askedAgain _ _ status | logonProof _ _ _ status
  | reconnectProof _ _ _ status | authed status | waiting _ status | finished status =>
    exact nomatch hstatus.symm.trans status

theorem Phase.of_logonProof (hstatus : session._status = .STATUS_LOGON_PROOF) :
    ∃ challenge row random, session._queryProcessor = [] ∧
      session._build = number challenge 11 2 ∧ session._os = clientOs challenge ∧
      MayLogIn env challenge row ∧
      session._srp6 = some ⟨(env.LoadResult row.toAccountRow).Login, row.salt, row.verifier,
        random, false⟩ ∧
      AuthSession.ReadSecret env row.totp_secret = .ok session._totpSecret ∧
      events = [.handled AUTH_LOGON_CHALLENGE challenge,
        .answered (.logonChallenge (some row) random)] ∧ NoRealmList session := by
  cases hphase with
  | logonProof challenge row random _ queries build os account srp6 secret hevents silent =>
    exact ⟨challenge, row, random, queries, build, os, account, srp6, secret, hevents, silent⟩
  | challenge status | asked _ _ status | askedAgain _ _ status
  | reconnectProof _ _ _ status | authed status | waiting _ status | finished status =>
    exact nomatch hstatus.symm.trans status

theorem Phase.of_reconnectProof (hstatus : session._status = .STATUS_RECONNECT_PROOF) :
    ∃ challenge row random, session._queryProcessor = [] ∧
      session._accountInfo = env.LoadResult row.toAccountRow ∧
      session._sessionKey = row.session_key ∧ session._reconnectProof = random ∧
      events = [.handled AUTH_RECONNECT_CHALLENGE challenge,
        .answered (.reconnectChallenge (some row) random)] ∧ NoRealmList session := by
  cases hphase with
  | reconnectProof challenge row random _ queries info key drawn hevents silent =>
    exact ⟨challenge, row, random, queries, info, key, drawn, hevents, silent⟩
  | challenge status | asked _ _ status | askedAgain _ _ status
  | logonProof _ _ _ status | authed status | waiting _ status | finished status =>
    exact nomatch hstatus.symm.trans status

theorem Phase.of_authed (hstatus : session._status = .STATUS_AUTHED) :
    session._queryProcessor = [] ∧ Authenticated env (TokenRead env) events := by
  cases hphase with
  | authed _ queries authenticated => exact ⟨queries, authenticated⟩
  | challenge status | asked _ _ status | askedAgain _ _ status | logonProof _ _ _ status
  | reconnectProof _ _ _ status | waiting _ status | finished status =>
    exact nomatch hstatus.symm.trans status

end

variable {packet : List UInt8} {handled : Handled}

section

variable (hphase : Phase env events session)
include hphase

section

variable (hstatus : session._status = .STATUS_CHALLENGE) (hnone : session._queryProcessor = [])
include hstatus hnone

theorem Phase.HandleLogonChallenge
    (hhandle : session.HandleLogonChallenge env packet = .ok handled) :
    Phase env (events ++ [.handled AUTH_LOGON_CHALLENGE handled.interpreted]) handled.session := by
  obtain ⟨_, country, _, rfl, silent⟩ := hphase.of_challenge hstatus
  rcases AuthSession.HandleChallenge_cases hhandle with rfl | ⟨I_len, _, _, _, rfl⟩
  · exact .finished rfl hnone (zero_le 1) silent
  refine .asked (packet.take (34 + I_len)) (field packet 34 I_len) rfl ?_ country ?_ ?_ rfl silent
  · rw [hnone]
    rfl
  · exact (number_take (by omega)).symm
  · exact (clientOs_take (by omega)).symm

theorem Phase.HandleReconnectChallenge
    (hhandle : session.HandleReconnectChallenge env packet = .ok handled) :
    Phase env (events ++ [.handled AUTH_RECONNECT_CHALLENGE handled.interpreted])
      handled.session := by
  obtain ⟨_, _, _, rfl, silent⟩ := hphase.of_challenge hstatus
  rcases AuthSession.HandleChallenge_cases hhandle with rfl | ⟨I_len, _, _, _, rfl⟩
  · exact .finished rfl hnone (zero_le 1) silent
  refine .askedAgain (packet.take (34 + I_len)) (field packet 34 I_len) rfl ?_ rfl silent
  rw [hnone]
  rfl

end

theorem Phase.HandleLogonProof (hstatus : session._status = .STATUS_LOGON_PROOF)
    (hhandle : session.HandleLogonProof env packet = .ok handled) :
    Phase env (events ++ [.handled AUTH_LOGON_PROOF handled.interpreted]) handled.session := by
  obtain ⟨challenge, row, random, queries, build, os, account, srp6, secret, rfl, silent⟩ :=
    hphase.of_logonProof hstatus
  have hover : ∀ bytes next, next._status = .STATUS_CLOSED → AuthSession.Quiet session next →
      Phase env ([.handled AUTH_LOGON_CHALLENGE challenge,
        .answered (.logonChallenge (some row) random)] ++ [.handled AUTH_LOGON_PROOF bytes])
        next :=
    fun _ _ hclosed hquiet => .finished hclosed (hquiet.queries.trans queries) (le_refl 1)
      (silent.of_quiet hquiet)
  have hquiet := (AuthSession.HandleLogonProof_status hhandle).1
  obtain ⟨_, hcases⟩ := AuthSession.HandleLogonProof_cases hhandle
  rcases hcases with rfl | ⟨object, hobject, _, ⟨_, rfl⟩ |
    ⟨K, tokenSuccess, taken, rest, hverify, hcheck, rfl⟩⟩
  · exact hover _ _ rfl hquiet
  · exact hover _ _ (AuthSession.RejectPassword_quiet env _).2 hquiet
  obtain ⟨_, hclosed | ⟨hauthed, rfl, hversion⟩⟩ := AuthSession.FinishProof_cases env
    tokenSuccess (field packet 1 32) (field packet 33 20) (field packet 53 20) K
    { session.proofBegun object with
      _sessionKey := K
      _totpSecret := rest }
  · exact hover _ _ hclosed hquiet
  · refine .authed hauthed (hquiet.queries.trans queries) (.inl ⟨challenge, row, random, _, rfl, ?_⟩)
    obtain rfl := some.inj (hobject.symm.trans srp6)
    have htake : ∀ position count, position + count ≤ sizeOfLogonProof →
        field (packet.take (sizeOfLogonProof + taken)) position count
          = field packet position count :=
      fun _ _ hfits => field_take (hfits.trans (le_add_right _ _))
    refine ⟨account, ?_, ⟨_, secret, TokenRead.of_CheckToken hcheck⟩, ?_⟩
    · rw [htake 1 32 (by decide), htake 33 20 (by decide), hverify]
      rfl
    · rw [htake 1 32 (by decide), htake 53 20 (by decide), ← build, ← os]
      exact VersionProved.of_VerifyVersion hversion

theorem Phase.HandleReconnectProof (hstatus : session._status = .STATUS_RECONNECT_PROOF)
    (hhandle : session.HandleReconnectProof env packet = .ok handled) :
    Phase env (events ++ [.handled AUTH_RECONNECT_PROOF handled.interpreted])
      handled.session := by
  obtain ⟨challenge, row, random, queries, info, key, drawn, rfl, silent⟩ :=
    hphase.of_reconnectProof hstatus
  obtain ⟨hquiet, hends⟩ := AuthSession.HandleReconnectProof_status hhandle
  obtain ⟨_, hinterpreted, hcases⟩ := AuthSession.HandleReconnectProof_cases hhandle
  rcases hends with hclosed | hauthed
  · exact .finished hclosed (hquiet.queries.trans queries) (le_refl 1) (silent.of_quiet hquiet)
  refine .authed hauthed (hquiet.queries.trans queries) (.inr ⟨challenge, row, random, _, rfl, ?_⟩)
  rcases hcases with ⟨_, hsession⟩ | ⟨_, hdigest, _⟩
  · rw [hsession] at hauthed
    cases hauthed
  rw [hinterpreted]
  unfold ReconnectProved
  rw [field_take (by decide), field_take (by decide), ← info, ← key, ← drawn]
  exact hdigest

theorem Phase.HandleRealmList (hstatus : session._status = .STATUS_AUTHED)
    (hhandle : session.HandleRealmList packet = .ok handled) :
    Phase env events handled.session := by
  obtain ⟨queries, authenticated⟩ := hphase.of_authed hstatus
  cases hhandle
  refine .waiting session._accountInfo.Id rfl ?_ authenticated
  change session._queryProcessor ++ [Query.realmCharacterCounts _] = _
  rw [queries]
  rfl

end

structure Settled (env : Environment) (session : AuthSession) : Prop where
  phase : Phase env (account session.trace) session
  queries : session._status = .STATUS_CHALLENGE → session._queryProcessor = []

theorem account_append (trace : List AuthEvent) (event : AuthEvent) :
    account (trace ++ [event]) = account trace ++ (if ofAccount event then [event] else []) := by
  rw [account, filter_append, account, filter_singleton]
  cases ofAccount event with
  | true | false => rfl

theorem Settled.close (hsettled : Settled env session) : Settled env session.CloseSocket where
  phase := hsettled.phase.alike ⟨rfl, rfl, rfl, rfl, rfl, rfl, rfl, rfl, rfl, rfl, id⟩
  queries := hsettled.queries

theorem Settled.ignore (hsettled : Settled env session) (bytes : List UInt8) :
    Settled env (session.record (.ignored bytes)) where
  phase := by
    have hphase : Phase env (account (session.trace ++ [.ignored bytes])) session := by
      rw [account_append]
      exact (append_nil (account session.trace)).symm ▸ hsettled.phase
    exact hphase.alike ⟨rfl, rfl, rfl, rfl, rfl, rfl, rfl, rfl, rfl, rfl, id⟩
  queries := hsettled.queries

theorem Settled.handler {entry : AuthSession.AuthHandler} {cmd : UInt8}
    (hsettled : Settled env session) (hentry : AuthSession.Handlers env cmd = some entry)
    (hstatus : session._status = entry.status)
    (hhandle : entry.handler packet session = .ok handled) :
    Settled env (handled.session.record (.handled cmd handled.interpreted)) where
  phase := by
    have hkept := AuthSession.handler_handles hentry hhandle
    have hphase : Phase env (account (session.trace ++ [.handled cmd handled.interpreted]))
        handled.session := by
      rw [account_append]
      rcases AuthSession.Handlers_cases hentry with ⟨rfl, rfl⟩ | ⟨rfl, rfl⟩ | ⟨rfl, rfl⟩ |
        ⟨rfl, rfl⟩ | ⟨rfl, rfl⟩
      · exact hsettled.phase.HandleLogonChallenge hstatus (hsettled.queries hstatus) hhandle
      · exact hsettled.phase.HandleLogonProof hstatus hhandle
      · exact hsettled.phase.HandleReconnectChallenge hstatus (hsettled.queries hstatus) hhandle
      · exact hsettled.phase.HandleReconnectProof hstatus hhandle
      · exact (append_nil (account session.trace)).symm ▸
          hsettled.phase.HandleRealmList hstatus hhandle
    rw [← hkept.trace] at hphase
    exact hphase.alike ⟨rfl, rfl, rfl, rfl, rfl, rfl, rfl, rfl, rfl, rfl, id⟩
  queries hchallenge :=
    absurd hchallenge (AuthSession.handler_handles hentry hhandle).challenged

theorem Settled.turn {outcome : Turn AuthSession} (hsettled : Settled env session)
    (hturn : session.ReadTurn env packet = .ok outcome) (hafter : outcome.state? = some after) :
    Settled env after := by
  rcases AuthSession.ReadTurn_cases hturn with rfl | rfl | rfl | ⟨entry, size, handled, hentry,
    hstatus, _, _, _, hhandle, rfl⟩
  · cases hafter
    exact hsettled.ignore packet
  · cases hafter
    exact hsettled.close
  · cases hafter
  have hnext := hsettled.handler hentry hstatus hhandle
  unfold AuthSession.finishTurn at hafter
  split at hafter
  · cases hafter
    exact hnext
  · cases hafter
    exact hnext.close

theorem Settled.drains {received : List UInt8} {outcome : Outcome UInt8 AuthSession}
    (hsettled : Settled env session)
    (hdrains : Drains (fun packet session => AuthSession.ReadTurn env packet session)
      received session outcome) : Settled env outcome.state :=
  hdrains.invariant (Settled env)
    (fun _ _ _ _ hbefore hturn hafter => hbefore.turn hturn hafter) hsettled

theorem SendPacket_alike {packet : List UInt8} (hhead : packet.head? ≠ some REALM_LIST)
    (session : AuthSession) : Alike session (session.SendPacket packet) := by
  have hsilent : NoRealmList session → NoRealmList (session.SendPacket packet) :=
    fun silent => silent.of_quiet (AuthSession.SendPacket_quiet hhead session)
  unfold AuthSession.SendPacket at hsilent ⊢
  split
  · exact ⟨rfl, rfl, rfl, rfl, rfl, rfl, rfl, rfl, rfl, rfl, id⟩
  rename_i hsend
  rw [if_neg hsend] at hsilent
  exact ⟨rfl, rfl, rfl, rfl, rfl, rfl, rfl, rfl, rfl, rfl, hsilent⟩

theorem Phase.LogonChallengeCallback {row : Option LogonRow} {random : List UInt8}
    (status : session._status = .STATUS_CLOSED) (queries : session._queryProcessor = [])
    (country : session._ipCountry = []) (build : session._build = number challenge 11 2)
    (os : session._os = clientOs challenge) (silent : NoRealmList session) :
    Phase env [.handled AUTH_LOGON_CHALLENGE challenge, .answered (.logonChallenge row random)]
      (session.LogonChallengeCallback env row random) := by
  rcases AuthSession.LogonChallengeCallback_cases env row random session with
    ⟨hquiet, hclosed, _⟩ | ⟨row, secret, rfl, hlocks, hban, hsecret, hcallback⟩
  · exact .finished (hclosed.trans status) (hquiet.queries.trans queries) (zero_le 1)
      (silent.of_quiet hquiet)
  rw [country] at hlocks
  rw [hcallback]
  unfold AuthSession.BeginProof
  dsimp only
  split
  case isTrue hacc =>
    refine Phase.alike ?_ (SendPacket_alike (ne_of_beq_false rfl) _)
    rw [build] at hacc
    exact .logonProof challenge row random rfl queries build os
      (.of_checks hlocks hban hacc) rfl hsecret rfl silent
  case isFalse =>
    refine Phase.alike ?_ (SendPacket_alike (ne_of_beq_false rfl) _)
    exact .finished status queries (zero_le 1) silent

theorem Phase.ReconnectChallengeCallback {row : Option ReconnectRow} {random : List UInt8}
    (status : session._status = .STATUS_CLOSED) (queries : session._queryProcessor = [])
    (silent : NoRealmList session) :
    Phase env
      [.handled AUTH_RECONNECT_CHALLENGE challenge, .answered (.reconnectChallenge row random)]
      (session.ReconnectChallengeCallback env row random) := by
  cases row with
  | none =>
    refine Phase.alike ?_ (SendPacket_alike (ne_of_beq_false rfl) _)
    exact .finished status queries (zero_le 1) silent
  | some row =>
    refine Phase.alike ?_ (SendPacket_alike (ne_of_beq_false rfl) _)
    exact .reconnectProof challenge row random rfl queries rfl rfl rfl rfl silent

theorem Phase.RealmListCallback {result : Option (List (ℕ × UInt8))}
    (queries : session._queryProcessor = [])
    (authenticated : Authenticated env (TokenRead env) events) :
    Phase env events (session.RealmListCallback env result) := by
  refine .authed rfl ?_ authenticated
  change (AuthSession.SendPacket _ session)._queryProcessor = []
  unfold AuthSession.SendPacket
  split
  · exact queries
  · exact queries

theorem TokenMet.of_number {proof : List UInt8}
    (hnumber : sizeOfLogonProof < proof.length →
      (StringTo (proof.drop (sizeOfLogonProof + 1))).isSome = true)
    (hread : TokenRead env secret proof) : TokenMet env secret proof := by
  rcases secret with _ | key
  · exact hread
  obtain ⟨hsent, hlen, hvalid⟩ := hread
  obtain ⟨value, hvalue⟩ := isSome_iff_exists.mp (hnumber hlen)
  refine ⟨hsent, value, hvalue, ?_⟩
  rw [AuthSession.tokenValue, hvalue] at hvalid
  exact hvalid

theorem Phase.proofs_le (hphase : Phase env events session) : proofs events ≤ 1 := by
  cases hphase with
  | finished _ _ hevents => exact hevents
  | authed _ _ authenticated | waiting _ _ _ authenticated =>
    exact le_of_eq authenticated.proofs_eq
  | challenge _ _ _ _ hevents =>
    rw [hevents]
    exact zero_le 1
  | asked _ _ _ _ _ _ _ hevents | askedAgain _ _ _ _ hevents
  | logonProof _ _ _ _ _ _ _ _ _ _ hevents | reconnectProof _ _ _ _ _ _ _ _ hevents =>
    rw [hevents]
    exact zero_le 1

theorem Phase.authenticated (hphase : Phase env events session)
    (hdone : session._status = .STATUS_AUTHED ∨ RealmListSent session) :
    Authenticated env (TokenRead env) events := by
  have hsent : NoRealmList session → session._status ≠ .STATUS_AUTHED →
      Authenticated env (TokenRead env) events := by
    intro silent hstatus
    rcases hdone with hauthed | ⟨packet, hpacket, hhead⟩
    · exact absurd hauthed hstatus
    · exact absurd hhead (silent packet hpacket)
  cases hphase with
  | authed _ _ authenticated | waiting _ _ _ authenticated => exact authenticated
  | challenge status _ _ _ _ silent | asked _ _ status _ _ _ _ _ silent
  | askedAgain _ _ status _ _ silent | logonProof _ _ _ status _ _ _ _ _ _ _ silent
  | reconnectProof _ _ _ status _ _ _ _ _ silent | finished status _ _ silent =>
    exact hsent silent (by rw [status]; exact nofun)

namespace Connection

variable {connection next : Connection}

/-- A connection in its phase, which is read from only after its address was
checked. -/
structure InPhase (env : Environment) (connection : Connection) : Prop where
  phase : Phase env (account connection.session.trace) connection.session
  queries : connection.reading = true → connection.session._status = .STATUS_CHALLENGE →
    connection.session._queryProcessor = []

theorem erased {queries : List Query} {query only : Query} {place : ℕ} (hqueries : queries = [only])
    (hquery : query ∈ queries[place]?) : query = only ∧ queries.eraseIdx place = [] := by
  subst hqueries
  cases place with
  | zero => exact ⟨(some.inj hquery).symm, rfl⟩
  | succ place => cases hquery

theorem InPhase.of_events (hphase : Phase env events connection.session)
    (htrace : account connection.session.trace = events) (hevents : events ≠ []) :
    InPhase env connection where
  phase := htrace ▸ hphase
  queries _ hchallenge := absurd (hphase.of_challenge hchallenge).2.2.2.1 hevents

theorem InPhase.CheckIpCallback (result : Option (List ℕ))
    (hphase : Phase env (account connection.session.trace) connection.session)
    (hqueries : connection.session._queryProcessor = []) :
    InPhase env (connection.CheckIpCallback result) := by
  unfold Connection.CheckIpCallback
  split
  · have halike : Alike connection.session (connection.session.SendPacket
        [AUTH_LOGON_CHALLENGE, 0x00, WOW_FAIL_BANNED]) :=
      SendPacket_alike (ne_of_beq_false rfl) _
    refine ⟨?_, fun _ _ => halike.queries.trans hqueries⟩
    rw [AuthSession.SendPacket_trace]
    exact hphase.alike halike
  · refine ⟨?_, ?_⟩
    · rw [AsyncRead_session]
      exact hphase
    · intro _ _
      rw [AsyncRead_session]
      exact hqueries

def asked (place : ℕ) (reply : Reply) (session : AuthSession) : AuthSession :=
  { session with
    _queryProcessor := session._queryProcessor.eraseIdx place
    trace := session.trace ++ [.answered reply] }

theorem InPhase.reply {place : ℕ} {reply : Reply} (hphase : InPhase env connection)
    (hacc : connection.Accepts (.reply place reply)) :
    InPhase env (connection.InvokeIfReady env place reply) := by
  obtain ⟨_, query, hquery, hanswers⟩ := hacc
  change InPhase env (Callback env reply
    { connection with session := asked place reply connection.session })
  have hnone : connection.session._queryProcessor ≠ [] := by
    intro hempty
    rw [hempty] at hquery
    cases hquery
  have htrace : account (asked place reply connection.session).trace
      = account connection.session.trace ++ (if ofAccount (.answered reply) then
        [.answered reply] else []) := account_append _ _
  obtain ⟨hbefore, _⟩ := hphase
  cases hbefore with
  | logonProof _ _ _ _ queries | reconnectProof _ _ _ _ queries | authed _ queries
  | finished _ queries => exact absurd queries hnone
  | challenge status queries country secret hevents silent =>
    rcases queries with queries | queries
    · exact absurd queries hnone
    obtain ⟨rfl, herased⟩ := erased queries hquery
    cases reply with
    | logonChallenge | reconnectChallenge | realmCharacterCounts => cases hanswers
    | ipInfo result =>
      refine InPhase.CheckIpCallback result ?_ herased
      refine .challenge status (.inl herased) country secret ?_ silent
      rw [htrace, hevents]
      rfl
  | asked challenge login status queries country build os hevents silent =>
    obtain ⟨rfl, herased⟩ := erased queries hquery
    cases reply with
    | ipInfo | reconnectChallenge | realmCharacterCounts => cases hanswers
    | logonChallenge row random =>
      have hlater : Phase env [.handled AUTH_LOGON_CHALLENGE challenge,
          .answered (.logonChallenge row random)]
          ((asked place (.logonChallenge row random) connection.session).LogonChallengeCallback
            env row random) :=
        Phase.LogonChallengeCallback status herased country build os silent
      refine InPhase.of_events hlater ?_ (cons_ne_nil _ _)
      change account (AuthSession.LogonChallengeCallback env row random
        (asked place (.logonChallenge row random) connection.session)).trace = _
      rw [(AuthSession.LogonChallengeCallback_quiet env row random _).trace, htrace, hevents]
      rfl
  | askedAgain challenge login status queries hevents silent =>
    obtain ⟨rfl, herased⟩ := erased queries hquery
    cases reply with
    | ipInfo | logonChallenge | realmCharacterCounts => cases hanswers
    | reconnectChallenge row random =>
      have hlater : Phase env [.handled AUTH_RECONNECT_CHALLENGE challenge,
          .answered (.reconnectChallenge row random)]
          ((asked place (.reconnectChallenge row random)
            connection.session).ReconnectChallengeCallback env row random) :=
        Phase.ReconnectChallengeCallback status herased silent
      refine InPhase.of_events hlater ?_ (cons_ne_nil _ _)
      change account (AuthSession.ReconnectChallengeCallback env row random
        (asked place (.reconnectChallenge row random) connection.session)).trace = _
      rw [(AuthSession.ReconnectChallengeCallback_quiet env row random _).trace, htrace, hevents]
      rfl
  | waiting realm status queries authenticated =>
    obtain ⟨rfl, herased⟩ := erased queries hquery
    cases reply with
    | ipInfo | logonChallenge | reconnectChallenge => cases hanswers
    | realmCharacterCounts result =>
      have hlater : Phase env (account connection.session.trace)
          ((asked place (.realmCharacterCounts result) connection.session).RealmListCallback
            env result) := Phase.RealmListCallback herased authenticated
      refine InPhase.of_events hlater ?_ ?_
      · change account (AuthSession.SendPacket _ (asked place (.realmCharacterCounts result)
          connection.session)).trace = _
        rw [AuthSession.SendPacket_trace, htrace]
        exact append_nil _
      · intro hempty
        have hproofs := authenticated.proofs_eq
        rw [hempty] at hproofs
        cases hproofs

theorem InPhase.step (hsound : connection.Sound) (hphase : InPhase env connection) {input : Input}
    (hstep : Connection.step env connection input next) : InPhase env next := by
  obtain ⟨hacc, hhandle⟩ := hstep
  cases input with
  | readError =>
    cases hhandle
    refine ⟨?_, fun hreading => (nomatch hreading)⟩
    exact hphase.phase.alike ⟨rfl, rfl, rfl, rfl, rfl, rfl, rfl, rfl, rfl, rfl, id⟩
  | reply place reply =>
    cases hhandle
    exact hphase.reply hacc
  | read chunk =>
    change (if connection.reading then connection.ReadHandlerInternal env chunk
      else .ok connection) = .ok next at hhandle
    split at hhandle
    case isFalse =>
      cases hhandle
      exact hphase
    rename_i hreading
    have hsettled : Settled env connection.session := ⟨hphase.phase, hphase.queries hreading⟩
    rcases @ReadHandlerInternal_spec env _ _ hsound (hacc.2 hreading) with
      ⟨fault, hfault, _⟩ | ⟨after, outcome, hafter, hdrains, hends⟩
    · exact nomatch hfault.symm.trans hhandle
    obtain rfl := Except.ok.inj (hafter.symm.trans hhandle)
    have hstate : after.session = outcome.state := by
      cases outcome with
      | waiting | dropped | left => exact hends.1
    obtain ⟨hlater, hqueries⟩ := hsettled.drains hdrains
    rw [← hstate] at hlater hqueries
    exact ⟨hlater, fun _ => hqueries⟩

theorem InPhase.of_reachable (hreach : Reachable (· = started) (Connection.step env) connection) :
    InPhase env connection := by
  refine hreach.invariant_of_reachable (InPhase env) ?_ ?_
  · rintro state rfl
    refine ⟨?_, fun hreading => (nomatch hreading)⟩
    exact .challenge rfl (.inr rfl) rfl rfl rfl nofun
  · intro before input after hbefore hphase hstep
    exact hphase.step (Sound.of_reachable hbefore) hstep

def TokensAreNumbers (connection : Connection) : Prop :=
  ∀ proof, .handled AUTH_LOGON_PROOF proof ∈ connection.session.trace →
    sizeOfLogonProof < proof.length → (StringTo (proof.drop (sizeOfLogonProof + 1))).isSome = true

theorem authenticated_of_numbers (hnumbers : connection.TokensAreNumbers)
    (hread : Authenticated env (TokenRead env) (account connection.session.trace)) :
    Authenticated env (TokenMet env) (account connection.session.trace) := by
  rcases hread with ⟨challenge, row, random, proof, hevents, hproved⟩ | hreconnect
  · refine .inl ⟨challenge, row, random, proof, hevents, ?_⟩
    have hproof : .handled AUTH_LOGON_PROOF proof ∈ connection.session.trace := by
      have hmem : .handled AUTH_LOGON_PROOF proof ∈ account connection.session.trace := by
        rw [hevents]
        exact mem_cons_of_mem _ (mem_cons_of_mem _ mem_cons_self)
      exact mem_of_mem_filter hmem
    obtain ⟨secret, hsecret, htoken⟩ := hproved.token
    exact ⟨hproved.account, hproved.password,
      ⟨secret, hsecret, .of_number (hnumbers proof hproof) htoken⟩, hproved.version⟩
  · exact .inr hreconnect

/-- At most one proof is checked in a session; it is authenticated, and gets a
realm list, only by a proof that holds, if its token is a number. -/
theorem authentication_takes_one_proof (env : Environment) {connection : Connection}
    (hreach : Reachable (· = started) (step env) connection) :
    proofs (account connection.session.trace) ≤ 1 ∧
    (connection.TokensAreNumbers →
      connection.session._status = .STATUS_AUTHED ∨ RealmListSent connection.session →
      Authenticated env (TokenMet env) (account connection.session.trace)) := by
  have hphase := (InPhase.of_reachable hreach).phase
  refine ⟨hphase.proofs_le, ?_⟩
  intro hnumbers hdone
  exact authenticated_of_numbers hnumbers (hphase.authenticated hdone)

/-- The status while a query of a kind is open. -/
def statusOf : Query → AuthStatus
  | .ipInfo => .STATUS_CHALLENGE
  | .logonChallenge _ | .reconnectChallenge _ => .STATUS_CLOSED
  | .realmCharacterCounts _ => .STATUS_WAITING_FOR_REALM_LIST

/-- At most one query is open at a time, and the status is the one for its kind, in which no
packet about an account is handled. -/
theorem one_query_at_a_time (env : Environment) {connection : Connection}
    (hreach : Reachable (· = started) (step env) connection) :
    connection.session._queryProcessor.length ≤ 1 ∧
      ∀ query ∈ connection.session._queryProcessor,
        connection.session._status = statusOf query := by
  cases (InPhase.of_reachable hreach).phase with
  | challenge status queries =>
    rcases queries with queries | queries <;> simp [queries, status, statusOf]
  | asked _ _ status queries | askedAgain _ _ status queries
  | logonProof _ _ _ status queries | reconnectProof _ _ _ status queries
  | authed status queries | waiting _ status queries | finished status queries =>
    simp [queries, status, statusOf]

/-! ## An account with a token -/

def rowOfA : LogonRow where
  id := 1
  username := text "A"
  locked := false
  lock_country := []
  last_ip := []
  failed_logins := 0
  account_banned := false
  account_permanent := false
  ip_banned := false
  ip_permanent := false
  gmlevel := 0
  totp_secret := some (text "12345678901234567890")
  salt := bytesOf 32 0x201f1e1d1c1b1a191817161514131211100f0e0d0c0b0a090807060504030201
  verifier := bytesOf 32 0x58d5daa2a3f92249e7a0105421c75601385d76572f1d977860608ca3c5f9254c

def randomOfServer : List UInt8 :=
  bytesOf 32 0x403f3e3d3c3b3a393837363534333231302f2e2d2c2b2a292827262524232221

def ephemeralOfA : List UInt8 :=
  bytesOf 32 0x3306e6079babe9dc331c407abc1b3ebe41b223909dcb092358870fbcdd7edae1

def proofOfA : List UInt8 := bytesOf 20 0x8ad2efbbfa4f9bfa7f46aa7267524703f61446cd

def keyOfA : List UInt8 :=
  bytesOf 40 0x1f5dc1d65223d6112a9bfb668c975ba023e592b1264ebdbe354c6f02afa269b22120591c7fe7785d

def environmentOfA : Environment :=
  { Environment.plain with
    builds := [⟨12340, 3, 3, 5, List.replicate 20 0, List.replicate 20 0⟩]
    B := fun _ => bytesOf 32 0x5d6571bc3a3ad37fdf764f2fdd008d71b0b5db77d1c2e278fe5fe8fb01ff9818
    VerifyChallengeResponse := fun srp6 A clientM =>
      if srp6 = ⟨text "A", rowOfA.salt, rowOfA.verifier, randomOfServer, false⟩ ∧
          A = ephemeralOfA ∧ clientM = proofOfA then
        some keyOfA
      else
        none
    SHA1 := fun data =>
      if data = ephemeralOfA ++ proofOfA ++ keyOfA then
        bytesOf 20 0xbde7c2f15627d0d89146e599da5a10701748ddfc
      else
        List.replicate 20 0
    ValidateToken := fun secret token =>
      secret = text "12345678901234567890" ∧ token ∈ [755224, 287082, 359152]
    indeterminate := fun _ => 287082 }

def challengeOfClient : List UInt8 :=
  [0, 0, 31, 0] ++ List.replicate 7 0 ++ [0x34, 0x30] ++ List.replicate 20 0 ++ [1, 65]

def logonProofWith (token : List UInt8) : List UInt8 :=
  [AUTH_LOGON_PROOF] ++ ephemeralOfA ++ proofOfA ++ List.replicate 20 0 ++ [0, 4]
    ++ [UInt8.ofNat token.length] ++ token

def logonOfA (token : List UInt8) : List Input :=
  [.reply 0 (.ipInfo none), .read challengeOfClient,
    .reply 0 (.logonChallenge (some rowOfA) randomOfServer), .read (logonProofWith token)]

def eventsOfA (token : List UInt8) : List AuthEvent :=
  [.handled AUTH_LOGON_CHALLENGE challengeOfClient,
    .answered (.logonChallenge (some rowOfA) randomOfServer),
    .handled AUTH_LOGON_PROOF (logonProofWith token)]

theorem one_query_at_a_time_asked : ∃ (connection : Connection) (query : Query),
    query ∈ connection.session._queryProcessor ∧
      connection.session._status = statusOf query := by
  have hends : Ends environmentOfA ((logonOfA []).take 2)
      (fun after => !after.session._queryProcessor.isEmpty) = true := by decide +kernel
  obtain ⟨connection, hsteps, hasked⟩ := exists_of_ends hends
  obtain ⟨query, hquery⟩ := exists_mem_of_ne_nil _ (by simpa using hasked)
  exact ⟨connection, query, hquery,
    (one_query_at_a_time environmentOfA (.steps (.start rfl) hsteps)).2 query hquery⟩

/-- A token that is a number authenticates its session. -/
theorem a_token_authenticates : ∃ connection : Connection,
    connection.session._status = .STATUS_AUTHED ∧
    proofs (account connection.session.trace) ≤ 1 ∧
    Authenticated environmentOfA (TokenMet environmentOfA) (account connection.session.trace) := by
  have hends : Ends environmentOfA (logonOfA (text "287082")) (fun after =>
      after.session._status = .STATUS_AUTHED ∧
      after.session.trace.all fun event =>
        match event with
        | .handled cmd proof => cmd ≠ AUTH_LOGON_PROOF ∨
            (StringTo (proof.drop (sizeOfLogonProof + 1))).isSome
        | .ignored _ | .answered _ => true) = true := by decide +kernel
  obtain ⟨connection, hsteps, hproperties⟩ := exists_of_ends hends
  obtain ⟨hauthed, htokens⟩ := of_decide_eq_true hproperties
  have hreach : Reachable (· = started) (step environmentOfA) connection :=
    Reachable.steps (.start rfl) hsteps
  obtain ⟨hone, hauthenticated⟩ := authentication_takes_one_proof environmentOfA hreach
  refine ⟨connection, hauthed, hone, hauthenticated ?_ (.inl hauthed)⟩
  intro proof hproof _
  rcases of_decide_eq_true (List.all_eq_true.mp htokens _ hproof) with hother | hnumber
  · exact absurd rfl hother
  · exact hnumber

/-- A token that is no number does too, where the number that happens to be in
its place validates. -/
theorem a_token_that_is_no_number_authenticates : ∃ connection : Connection,
    Reachable (· = started) (step environmentOfA) connection ∧
    connection.session._status = .STATUS_AUTHED ∧
    ¬ Authenticated environmentOfA (TokenMet environmentOfA)
      (account connection.session.trace) := by
  have hends : Ends environmentOfA (logonOfA (text "abc")) (fun after =>
      after.session._status = .STATUS_AUTHED ∧
      account after.session.trace = eventsOfA (text "abc")) = true := by decide +kernel
  obtain ⟨connection, hsteps, hproperties⟩ := exists_of_ends hends
  obtain ⟨hauthed, hevents⟩ := of_decide_eq_true hproperties
  refine ⟨connection, Reachable.steps (.start rfl) hsteps, hauthed, ?_⟩
  rw [hevents]
  rintro (⟨challenge, row, random, proof, heq, hproved⟩ | ⟨challenge, row, random, proof, heq, _⟩)
  · obtain ⟨secret, hsecret, htoken⟩ := hproved.token
    obtain ⟨_, hrest⟩ := List.cons.inj heq
    obtain ⟨hanswer, hrest⟩ := List.cons.inj hrest
    obtain ⟨hproof, _⟩ := List.cons.inj hrest
    obtain ⟨hrow, _⟩ := Reply.logonChallenge.inj (AuthEvent.answered.inj hanswer)
    obtain ⟨_, rfl⟩ := AuthEvent.handled.inj hproof
    cases hrow
    cases hsecret
    obtain ⟨_, value, hvalue, _⟩ := htoken
    have hnone : StringTo ((logonProofWith (text "abc")).drop (sizeOfLogonProof + 1)) = none := by
      decide +kernel
    exact nomatch hnone.symm.trans hvalue
  · exact nomatch List.cons.inj heq

end Connection

end AzerothCore.Authserver
