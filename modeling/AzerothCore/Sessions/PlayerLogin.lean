import AzerothCore.Collections.Reachability
import Mathlib.Data.List.Basic

/-!
# The login of a character

`HandlePlayerLoginOpcode` starts a query for a character, or takes over the character of
the account's offline session at once. `HandlePlayerLoginFromDB` runs when the query is
complete. The flag `m_playerLoading` is set before the first check.

What the database and the character's map answer, and how the offline sessions change,
are inputs.
-/

namespace AzerothCore.Sessions.Login

open Reachability

abbrev ObjectGuid := UInt64

namespace ObjectGuid

def IsEmpty (guid : ObjectGuid) : Bool := guid == 0

def GetHigh (guid : ObjectGuid) : UInt64 := guid >>> 48 &&& 0x0000FFFF

def HighGuid_Player : UInt64 := 0x0000

def IsPlayer (guid : ObjectGuid) : Bool := !IsEmpty guid && GetHigh guid == HighGuid_Player

def GetCounter (guid : ObjectGuid) : UInt64 := guid &&& 0x00000000FFFFFFFF

end ObjectGuid

open ObjectGuid

structure Config where
  CONFIG_REALM_LOGIN_ENABLED : Bool
  CONFIG_ENABLE_LOGIN_AFTER_DC : Bool

inductive LoginFailure where
  | NoWorld
  | CHAR_LOGIN_DUPLICATE_CHARACTER
  deriving DecidableEq

structure OfflineSession where
  accountId : ℕ
  player : Option ObjectGuid
  kicked : Bool
  deriving DecidableEq

def OfflineSession.GetGuidLow (session : OfflineSession) : UInt64 :=
  match session.player with
  | none => 0
  | some guid => GetCounter guid

/-- `offlineSessions` are those of the world in the order of the map, and `queryHolders`
the characters whose query is not complete. For every character that was loaded or taken
over, `loads` has the player that the session had before. -/
structure WorldSession where
  accountId : ℕ
  player : Option ObjectGuid
  m_playerLoading : Bool
  legitCharacters : List ObjectGuid
  kicked : Bool
  offlineSessions : List OfflineSession
  failures : List LoginFailure
  queryHolders : List ObjectGuid
  loads : List (Option ObjectGuid)
  deriving DecidableEq

/-- What a login meets: whether the queries can be prepared, and what is true of the
character of the offline session when its teleports are finished. -/
structure Answers where
  Initialize : Bool
  FindMap : Bool
  IsInWorld : Bool
  IsKicked : Bool
  deriving DecidableEq

namespace WorldSession

variable (config : Config)

def KickPlayer (session : WorldSession) : WorldSession := { session with kicked := true }

def sendFailure (session : WorldSession) (failure : LoginFailure) : WorldSession :=
  { session with failures := session.failures ++ [failure] }

def SendCharLogin (session : WorldSession) : WorldSession :=
  session.sendFailure .CHAR_LOGIN_DUPLICATE_CHARACTER

def FindOfflineSessionForCharacterGUID (session : WorldSession) (guidLow : UInt64) :
    Option OfflineSession :=
  session.offlineSessions.find? (·.GetGuidLow = guidLow)

def FindOfflineSession (session : WorldSession) (id : ℕ) : Option OfflineSession :=
  session.offlineSessions.find? (·.accountId = id)

def modifyOffline (session : WorldSession) (change : OfflineSession → OfflineSession) :
    WorldSession :=
  { session with
    offlineSessions := session.offlineSessions.map fun offline =>
      if offline.accountId = session.accountId then change offline else offline }

def HandlePlayerLoginToCharInWorld (session : WorldSession) : WorldSession :=
  let session := { session with m_playerLoading := true }
  { session with m_playerLoading := false }

def takeOver (session : WorldSession) (player : ObjectGuid) : WorldSession :=
  let session := session.modifyOffline ({ · with player := none })
  HandlePlayerLoginToCharInWorld
    { session with player := some player, loads := session.loads ++ [session.player] }

def query (session : WorldSession) (answers : Answers) (playerGuid : ObjectGuid) : WorldSession :=
  if answers.Initialize then
    { session with queryHolders := session.queryHolders ++ [playerGuid] }
  else { session with m_playerLoading := false }

def returnOrQuery (session : WorldSession) (answers : Answers) (playerGuid : ObjectGuid) :
    WorldSession :=
  match session.FindOfflineSession session.accountId with
  | none => session.query answers playerGuid
  | some offline =>
    match offline.player with
    | none => session.SendCharLogin
    | some player =>
      if offline.kicked then session.SendCharLogin
      else if player ≠ playerGuid then
        (session.modifyOffline ({ · with kicked := true })).query answers playerGuid
      else if !config.CONFIG_ENABLE_LOGIN_AFTER_DC then session.SendCharLogin
      else if !answers.FindMap || !answers.IsInWorld || answers.IsKicked then
        session.SendCharLogin
      else session.takeOver player

/-- The packet is `none` where it is too short for a guid; `Update` catches the exception. -/
def HandlePlayerLoginOpcode (session : WorldSession) (packet : Option ObjectGuid)
    (answers : Answers) : WorldSession :=
  let session := { session with m_playerLoading := true }
  match packet with
  | none => session
  | some playerGuid =>
    if (session.m_playerLoading || session.player.isSome || !IsPlayer playerGuid) &&
        !config.CONFIG_REALM_LOGIN_ENABLED then
      session.sendFailure .NoWorld
    else if !IsPlayer playerGuid || playerGuid ∉ session.legitCharacters then
      session.KickPlayer
    else
      match session.FindOfflineSessionForCharacterGUID (GetCounter playerGuid) with
      | none => session.returnOrQuery config answers playerGuid
      | some offline =>
        if offline.accountId ≠ session.accountId then session.SendCharLogin
        else session.returnOrQuery config answers playerGuid

/-- `loaded` is the result of `LoadFromDB`, which sets the player. -/
def HandlePlayerLoginFromDB (session : WorldSession) (playerGuid : ObjectGuid) (loaded : Bool) :
    WorldSession :=
  let session := { session with loads := session.loads ++ [session.player] }
  if loaded then { session with player := some playerGuid, m_playerLoading := false }
  else
    let session := { session with player := none }.KickPlayer
    { session with m_playerLoading := false }

def LogoutPlayer (session : WorldSession) : WorldSession := { session with player := none }

inductive LoginOp where
  | HandlePlayerLoginOpcode (packet : Option ObjectGuid) (answers : Answers)
  | complete (index : ℕ) (loaded : Bool)
  | LogoutPlayer
  | offlineSessions (sessions : List OfflineSession)
  | legitCharacters (characters : List ObjectGuid)

def step (session : WorldSession) : LoginOp → Option WorldSession
  | .HandlePlayerLoginOpcode packet answers =>
    some (session.HandlePlayerLoginOpcode config packet answers)
  | .complete index loaded =>
    match session.queryHolders[index]? with
    | none => none
    | some playerGuid =>
      let session := session.HandlePlayerLoginFromDB playerGuid loaded
      some { session with queryHolders := session.queryHolders.eraseIdx index }
  | .LogoutPlayer => some session.LogoutPlayer
  | .offlineSessions sessions => some { session with offlineSessions := sessions }
  | .legitCharacters characters => some { session with legitCharacters := characters }

def IsNew (session : WorldSession) : Prop :=
  session.player = none ∧ session.m_playerLoading = false ∧ session.queryHolders = [] ∧
    session.loads = []

def ReachableLogin : WorldSession → Prop := Reachable IsNew (computed (step config))

structure LoginHolds (session : WorldSession) : Prop where
  outstanding : session.queryHolders.length ≤ 1
  loads : ∀ player ∈ session.loads, player = none
  loading : session.m_playerLoading = true ↔ session.queryHolders ≠ []

def OfflinePasses (session : WorldSession) (answers : Answers) (playerGuid : ObjectGuid) : Prop :=
  ∀ offline, session.FindOfflineSession session.accountId = some offline →
    offline.kicked = false ∧ ∃ player, offline.player = some player ∧ (player = playerGuid →
      config.CONFIG_ENABLE_LOGIN_AFTER_DC = true ∧ answers.FindMap = true ∧
        answers.IsInWorld = true ∧ answers.IsKicked = false)

structure Passes (session : WorldSession) (answers : Answers) (playerGuid : ObjectGuid) :
    Prop where
  isPlayer : IsPlayer playerGuid = true
  legit : playerGuid ∈ session.legitCharacters
  character : ∀ offline, session.FindOfflineSessionForCharacterGUID (GetCounter playerGuid) =
    some offline → offline.accountId = session.accountId
  offline : session.OfflinePasses config answers playerGuid

/-- A packet finds no player and passes the checks, or fails one of them while a login is
under way. -/
def FitsLogin (session : WorldSession) : LoginOp → Prop
  | .HandlePlayerLoginOpcode packet answers =>
    (session.m_playerLoading = true →
      ∀ playerGuid, packet = some playerGuid → ¬session.Passes config answers playerGuid) ∧
    (session.m_playerLoading = false → session.player = none ∧
      ∃ playerGuid, packet = some playerGuid ∧ session.Passes config answers playerGuid)
  | _ => True

end WorldSession

end AzerothCore.Sessions.Login

/-!
## One login at a time

The flag `m_playerLoading` is set before the check that reads it, so that the check never
stops a login when the realm is open. What holds of the flag and of the outstanding
queries holds in the runs whose packets find no player and pass the checks.
-/

namespace AzerothCore.Sessions.Login.WorldSession

open List
open Reachability ObjectGuid

variable {config : Config} {session after : WorldSession} {answers : Answers}
  {playerGuid : ObjectGuid} {packet : Option ObjectGuid}

/-! ## The outcomes of a login -/

/-- A check failed. -/
structure Refuses (session after : WorldSession) : Prop where
  player : after.player = session.player
  queryHolders : after.queryHolders = session.queryHolders
  loads : after.loads = session.loads
  loading : after.m_playerLoading = true

structure Queries (session : WorldSession) (playerGuid : ObjectGuid) (after : WorldSession) :
    Prop where
  player : after.player = session.player
  queryHolders : after.queryHolders = session.queryHolders ++ [playerGuid]
  loads : after.loads = session.loads
  loading : after.m_playerLoading = true

structure GivesUp (session after : WorldSession) : Prop where
  player : after.player = session.player
  queryHolders : after.queryHolders = session.queryHolders
  loads : after.loads = session.loads
  loading : after.m_playerLoading = false

structure TakesOver (session after : WorldSession) : Prop where
  queryHolders : after.queryHolders = session.queryHolders
  loads : after.loads = session.loads ++ [session.player]
  loading : after.m_playerLoading = false

def Proceeds (session : WorldSession) (playerGuid : ObjectGuid) (after : WorldSession) : Prop :=
  Queries session playerGuid after ∨ GivesUp session after ∨ TakesOver session after

structure Same (session before : WorldSession) : Prop where
  player : before.player = session.player
  queryHolders : before.queryHolders = session.queryHolders
  loads : before.loads = session.loads

theorem Refuses.of_same {before : WorldSession} (hrefuses : Refuses before after)
    (hsame : Same session before) : Refuses session after :=
  ⟨hrefuses.player.trans hsame.player, hrefuses.queryHolders.trans hsame.queryHolders,
    hrefuses.loads.trans hsame.loads, hrefuses.loading⟩

theorem Proceeds.of_same {before : WorldSession} (hproceeds : Proceeds before playerGuid after)
    (hsame : Same session before) : Proceeds session playerGuid after := by
  rcases hproceeds with hqueries | hgivesUp | htakesOver
  · refine .inl ⟨hqueries.player.trans hsame.player, ?_, hqueries.loads.trans hsame.loads,
      hqueries.loading⟩
    rw [← hsame.queryHolders]
    exact hqueries.queryHolders
  · exact .inr (.inl ⟨hgivesUp.player.trans hsame.player,
      hgivesUp.queryHolders.trans hsame.queryHolders, hgivesUp.loads.trans hsame.loads,
      hgivesUp.loading⟩)
  · refine .inr (.inr ⟨htakesOver.queryHolders.trans hsame.queryHolders, ?_, htakesOver.loading⟩)
    rw [← hsame.player, ← hsame.loads]
    exact htakesOver.loads

theorem refuses_SendCharLogin (hloading : session.m_playerLoading = true) :
    Refuses session session.SendCharLogin := ⟨rfl, rfl, rfl, hloading⟩

theorem query_proceeds (hloading : session.m_playerLoading = true) :
    Proceeds session playerGuid (session.query answers playerGuid) := by
  unfold query
  split
  · exact .inl ⟨rfl, rfl, rfl, hloading⟩
  · exact .inr (.inl ⟨rfl, rfl, rfl, rfl⟩)

theorem takeOver_proceeds {player : ObjectGuid} :
    Proceeds session playerGuid (session.takeOver player) := .inr (.inr ⟨rfl, rfl, rfl⟩)

theorem returnOrQuery_cases (hloading : session.m_playerLoading = true) :
    session.OfflinePasses config answers playerGuid ∧
        Proceeds session playerGuid (session.returnOrQuery config answers playerGuid) ∨
      ¬session.OfflinePasses config answers playerGuid ∧
        Refuses session (session.returnOrQuery config answers playerGuid) := by
  unfold returnOrQuery OfflinePasses
  rcases hfound : session.FindOfflineSession session.accountId with _ | offline
  · exact .inl ⟨nofun, query_proceeds hloading⟩
  dsimp only
  rcases hplayer : offline.player with _ | player
  · refine .inr ⟨fun hpasses => ?_, refuses_SendCharLogin hloading⟩
    obtain ⟨-, player, hsome, -⟩ := hpasses offline rfl
    exact absurd (hplayer.symm.trans hsome) nofun
  dsimp only
  split
  case isTrue hkicked =>
    refine .inr ⟨fun hpasses => ?_, refuses_SendCharLogin hloading⟩
    exact absurd (hkicked.symm.trans (hpasses offline rfl).1) nofun
  rename_i hkicked
  have hkept : offline.kicked = false := Bool.eq_false_iff.2 hkicked
  split
  case isTrue hother =>
    have hproceeds : Proceeds (session.modifyOffline ({ · with kicked := true }))
        playerGuid ((session.modifyOffline ({ · with kicked := true })).query answers
          playerGuid) := query_proceeds hloading
    refine .inl ⟨?_, hproceeds.of_same ⟨rfl, rfl, rfl⟩⟩
    intro found hsome
    cases hsome
    exact ⟨hkept, player, hplayer, fun hsame => absurd hsame hother⟩
  case isFalse hsame =>
    have hguid : player = playerGuid := not_not.1 hsame
    split
    case isTrue hdisabled =>
      refine .inr ⟨fun hpasses => ?_, refuses_SendCharLogin hloading⟩
      obtain ⟨-, other, hsome, hrest⟩ := hpasses offline rfl
      cases hplayer.symm.trans hsome
      simp [(hrest hguid).1] at hdisabled
    rename_i hafterDC
    split
    case isTrue hgone =>
      refine .inr ⟨fun hpasses => ?_, refuses_SendCharLogin hloading⟩
      obtain ⟨-, other, hsome, hrest⟩ := hpasses offline rfl
      cases hplayer.symm.trans hsome
      obtain ⟨-, hmap, hworld, hkick⟩ := hrest hguid
      simp [hmap, hworld, hkick] at hgone
    case isFalse hthere =>
      refine .inl ⟨?_, takeOver_proceeds⟩
      intro found hsome
      cases hsome
      refine ⟨hkept, player, hplayer, fun _ => ?_⟩
      simpa [and_assoc] using And.intro hafterDC hthere

section

variable (henabled : config.CONFIG_REALM_LOGIN_ENABLED = true)
include henabled

theorem HandlePlayerLoginOpcode_cases :
    session.Passes config answers playerGuid ∧ Proceeds session playerGuid
        (session.HandlePlayerLoginOpcode config (some playerGuid) answers) ∨
      ¬session.Passes config answers playerGuid ∧
        Refuses session (session.HandlePlayerLoginOpcode config (some playerGuid) answers) := by
  unfold HandlePlayerLoginOpcode
  dsimp only
  rw [if_neg (by simp [henabled])]
  have hsame : Same session { session with m_playerLoading := true } := ⟨rfl, rfl, rfl⟩
  split
  case isTrue hillegit =>
    refine .inr ⟨fun hpasses => ?_, rfl, rfl, rfl, rfl⟩
    simp [hpasses.isPlayer, hpasses.legit] at hillegit
  rename_i hlegit
  obtain ⟨hisPlayer, hmem⟩ : IsPlayer playerGuid = true ∧
      playerGuid ∈ session.legitCharacters := by simpa using hlegit
  let loading := { session with m_playerLoading := true }
  have hrest : session.OfflinePasses config answers playerGuid ∧
        Proceeds session playerGuid (loading.returnOrQuery config answers playerGuid) ∨
      ¬session.OfflinePasses config answers playerGuid ∧
        Refuses session (loading.returnOrQuery config answers playerGuid) := by
    cases @returnOrQuery_cases config loading answers playerGuid rfl with
    | inl hproceeds => exact .inl ⟨hproceeds.1, hproceeds.2.of_same hsame⟩
    | inr hrefuses => exact .inr ⟨hrefuses.1, hrefuses.2.of_same hsame⟩
  split
  case h_1 hnone =>
    cases hrest with
    | inl hproceeds =>
      refine .inl ⟨⟨hisPlayer, hmem, ?_, hproceeds.1⟩, hproceeds.2⟩
      exact fun offline hsome => absurd (hnone.symm.trans hsome) nofun
    | inr hrefuses =>
      exact .inr ⟨fun hpasses => hrefuses.1 hpasses.offline, hrefuses.2⟩
  case h_2 offline hfound =>
    split
    case isTrue hforeign =>
      refine .inr ⟨fun hpasses => ?_, rfl, rfl, rfl, rfl⟩
      exact hforeign (hpasses.character offline hfound)
    rename_i hown
    cases hrest with
    | inl hproceeds =>
      refine .inl ⟨⟨hisPlayer, hmem, ?_, hproceeds.1⟩, hproceeds.2⟩
      intro found hsome
      cases hfound.symm.trans hsome
      exact not_not.1 hown
    | inr hrefuses =>
      exact .inr ⟨fun hpasses => hrefuses.1 hpasses.offline, hrefuses.2⟩

theorem HandlePlayerLoginOpcode_refuses
    (hfails : ∀ playerGuid, packet = some playerGuid → ¬session.Passes config answers playerGuid) :
    Refuses session (session.HandlePlayerLoginOpcode config packet answers) := by
  rcases packet with _ | playerGuid
  · exact ⟨rfl, rfl, rfl, rfl⟩
  cases HandlePlayerLoginOpcode_cases henabled with
  | inl hpasses => exact absurd hpasses.1 (hfails playerGuid rfl)
  | inr hrefuses => exact hrefuses.2

theorem HandlePlayerLoginOpcode_proceeds (hpasses : session.Passes config answers playerGuid) :
    Proceeds session playerGuid
      (session.HandlePlayerLoginOpcode config (some playerGuid) answers) := by
  cases HandlePlayerLoginOpcode_cases henabled with
  | inl hproceeds => exact hproceeds.2
  | inr hrefuses => exact absurd hpasses hrefuses.1

end

structure Sound (session : WorldSession) : Prop where
  holds : session.LoginHolds
  waiting : session.queryHolders ≠ [] → session.player = none

theorem Sound.of_isNew (hnew : session.IsNew) : session.Sound := by
  obtain ⟨hplayer, hloading, hholders, hloads⟩ := hnew
  refine ⟨⟨?_, ?_, ?_⟩, fun _ => hplayer⟩
  · rw [hholders]
    exact Nat.zero_le 1
  · rw [hloads]
    exact nofun
  · rw [hloading, hholders]
    exact ⟨nofun, fun hne => absurd rfl hne⟩

theorem Sound.queryHolders_nil (hsound : session.Sound)
    (hloading : session.m_playerLoading = false) : session.queryHolders = [] := by
  by_contra hne
  exact absurd (hloading.symm.trans (hsound.holds.loading.2 hne)) nofun

theorem Refuses.sound (hrefuses : Refuses session after) (hsound : session.Sound)
    (hloading : session.m_playerLoading = true) : after.Sound := by
  refine ⟨⟨?_, ?_, ?_⟩, ?_⟩
  · rw [hrefuses.queryHolders]
    exact hsound.holds.outstanding
  · rw [hrefuses.loads]
    exact hsound.holds.loads
  · rw [hrefuses.queryHolders]
    exact ⟨fun _ => hsound.holds.loading.1 hloading, fun _ => hrefuses.loading⟩
  · rw [hrefuses.queryHolders, hrefuses.player]
    exact hsound.waiting

theorem Proceeds.sound (hproceeds : Proceeds session playerGuid after) (hsound : session.Sound)
    (hloading : session.m_playerLoading = false) (hplayer : session.player = none) :
    after.Sound := by
  have hholders := hsound.queryHolders_nil hloading
  rcases hproceeds with hqueries | hgivesUp | htakesOver
  · have hone : after.queryHolders = [playerGuid] := by
      rw [hqueries.queryHolders, hholders]
      rfl
    refine ⟨⟨?_, ?_, ?_⟩, fun _ => hqueries.player.trans hplayer⟩
    · rw [hone]
      exact Nat.le_refl 1
    · rw [hqueries.loads]
      exact hsound.holds.loads
    · rw [hone, hqueries.loading]
      exact ⟨fun _ => cons_ne_nil _ _, fun _ => rfl⟩
  · have hnone : after.queryHolders = [] := hgivesUp.queryHolders.trans hholders
    refine ⟨⟨?_, ?_, ?_⟩, fun hne => absurd hnone hne⟩
    · rw [hnone]
      exact Nat.zero_le 1
    · rw [hgivesUp.loads]
      exact hsound.holds.loads
    · rw [hnone, hgivesUp.loading]
      exact ⟨nofun, fun hne => absurd rfl hne⟩
  · have hnone : after.queryHolders = [] := htakesOver.queryHolders.trans hholders
    refine ⟨⟨?_, ?_, ?_⟩, fun hne => absurd hnone hne⟩
    · rw [hnone]
      exact Nat.zero_le 1
    · rw [htakesOver.loads, hplayer]
      exact forall_mem_append.2 ⟨hsound.holds.loads, forall_mem_singleton.2 rfl⟩
    · rw [hnone, htakesOver.loading]
      exact ⟨nofun, fun hne => absurd rfl hne⟩

theorem HandlePlayerLoginFromDB_spec (loaded : Bool) :
    (session.HandlePlayerLoginFromDB playerGuid loaded).m_playerLoading = false ∧
      (session.HandlePlayerLoginFromDB playerGuid loaded).queryHolders = session.queryHolders ∧
      (session.HandlePlayerLoginFromDB playerGuid loaded).loads =
        session.loads ++ [session.player] := by
  cases loaded <;> exact ⟨rfl, rfl, rfl⟩

theorem Sound.complete {index : ℕ} (hsound : session.Sound)
    (hindex : session.queryHolders[index]? = some playerGuid)
    (hloads : after.loads = session.loads ++ [session.player])
    (hloading : after.m_playerLoading = false)
    (hholders : after.queryHolders = session.queryHolders.eraseIdx index) : after.Sound := by
  have hindex_lt : index < session.queryHolders.length := (List.getElem?_eq_some_iff.1 hindex).1
  have hnone : after.queryHolders = [] := by
    apply eq_nil_of_length_eq_zero
    rw [hholders, length_eraseIdx_of_lt hindex_lt]
    exact Nat.sub_eq_zero_of_le hsound.holds.outstanding
  have hplayer : session.player = none :=
    hsound.waiting (ne_nil_of_length_pos (Nat.zero_lt_of_lt hindex_lt))
  refine ⟨⟨?_, ?_, ?_⟩, fun hne => absurd hnone hne⟩
  · rw [hnone]
    exact Nat.zero_le 1
  · rw [hloads, hplayer]
    exact forall_mem_append.2 ⟨hsound.holds.loads, forall_mem_singleton.2 rfl⟩
  · rw [hnone, hloading]
    exact ⟨nofun, fun hne => absurd rfl hne⟩

theorem Sound.step {op : LoginOp} (henabled : config.CONFIG_REALM_LOGIN_ENABLED = true)
    (hsound : session.Sound) (hfits : session.FitsLogin config op)
    (hstep : step config session op = some after) : after.Sound := by
  cases op with
  | HandlePlayerLoginOpcode packet answers =>
    cases hstep
    cases hloading : session.m_playerLoading with
    | true =>
      have hrefuses := HandlePlayerLoginOpcode_refuses henabled (hfits.1 hloading)
      exact hrefuses.sound hsound hloading
    | false =>
      obtain ⟨hplayer, playerGuid, rfl, hpasses⟩ := hfits.2 hloading
      exact (HandlePlayerLoginOpcode_proceeds henabled hpasses).sound hsound hloading hplayer
  | complete index loaded =>
    rcases hindex : session.queryHolders[index]? with _ | playerGuid
    · simp [WorldSession.step, hindex] at hstep
    obtain ⟨hloading, hholders, hloads⟩ := @HandlePlayerLoginFromDB_spec session playerGuid loaded
    simp only [WorldSession.step, hindex, Option.some.injEq] at hstep
    rw [← hstep]
    refine hsound.complete hindex hloads hloading ?_
    rw [hholders]
  | LogoutPlayer =>
    cases hstep
    exact ⟨⟨hsound.holds.outstanding, hsound.holds.loads, hsound.holds.loading⟩, fun _ => rfl⟩
  | offlineSessions | legitCharacters =>
    cases hstep
    exact ⟨⟨hsound.holds.outstanding, hsound.holds.loads, hsound.holds.loading⟩, hsound.waiting⟩

/-- One login at a time, in every run whose packets fit. -/
theorem loginHolds_of_reachable (henabled : config.CONFIG_REALM_LOGIN_ENABLED = true)
    (hreach : Reachable IsNew (guarded (FitsLogin config) (computed (step config))) session) :
    session.LoginHolds := by
  have hsound : session.Sound := hreach.invariant Sound (fun _ => Sound.of_isNew)
      fun _ _ _ hbefore hstep => hbefore.step henabled hstep.1 hstep.2
  exact hsound.holds

def openRealm : Config := ⟨true, true⟩

def twoCharacters : WorldSession :=
  { accountId := 5
    player := none
    m_playerLoading := false
    legitCharacters := [1, 2]
    kicked := false
    offlineSessions := [⟨5, some 2, false⟩]
    failures := []
    queryHolders := []
    loads := [] }

def ready : Answers := ⟨true, true, true, false⟩

def oneByOne : List LoginOp :=
  [.HandlePlayerLoginOpcode (some 2) ready, .LogoutPlayer, .offlineSessions [],
    .HandlePlayerLoginOpcode (some 1) ready, .HandlePlayerLoginOpcode (some 3) ready,
    .complete 0 true]

def twice : List LoginOp :=
  [.offlineSessions [], .HandlePlayerLoginOpcode (some 1) ready,
    .HandlePlayerLoginOpcode (some 1) ready, .complete 0 true, .complete 0 true]

theorem twoCharacters_isNew : twoCharacters.IsNew := ⟨rfl, rfl, rfl, rfl⟩

instance (session : WorldSession) (answers : Answers) (playerGuid : ObjectGuid) :
    Decidable (session.OfflinePasses config answers playerGuid) :=
  have (offline : OfflineSession) : Decidable (∃ player, offline.player = some player ∧
      (player = playerGuid → config.CONFIG_ENABLE_LOGIN_AFTER_DC = true ∧
        answers.FindMap = true ∧ answers.IsInWorld = true ∧ answers.IsKicked = false)) :=
    Option.decidableExistsMem offline.player
  Option.decidableForallMem (session.FindOfflineSession session.accountId)

instance (session : WorldSession) (answers : Answers) (playerGuid : ObjectGuid) :
    Decidable (session.Passes config answers playerGuid) :=
  have : Decidable (∀ offline, session.FindOfflineSessionForCharacterGUID
      (GetCounter playerGuid) = some offline → offline.accountId = session.accountId) :=
    Option.decidableForallMem (session.FindOfflineSessionForCharacterGUID (GetCounter playerGuid))
  decidable_of_iff (IsPlayer playerGuid = true ∧ playerGuid ∈ session.legitCharacters ∧
      (∀ offline, session.FindOfflineSessionForCharacterGUID (GetCounter playerGuid) =
        some offline → offline.accountId = session.accountId) ∧
      session.OfflinePasses config answers playerGuid)
    ⟨fun ⟨hisPlayer, hlegit, hcharacter, hoffline⟩ => ⟨hisPlayer, hlegit, hcharacter, hoffline⟩,
      fun hpasses => ⟨hpasses.isPlayer, hpasses.legit, hpasses.character, hpasses.offline⟩⟩

instance (session : WorldSession) (op : LoginOp) : Decidable (session.FitsLogin config op) :=
  match op with
  | .HandlePlayerLoginOpcode packet answers =>
    have : Decidable (∀ playerGuid, packet = some playerGuid →
        ¬session.Passes config answers playerGuid) :=
      Option.decidableForallMem packet
    have : Decidable (∃ playerGuid, packet = some playerGuid ∧
        session.Passes config answers playerGuid) :=
      Option.decidableExistsMem packet
    inferInstanceAs (Decidable (_ ∧ _))
  | .complete _ _ | .LogoutPlayer | .offlineSessions _ | .legitCharacters _ =>
    inferInstanceAs (Decidable True)

theorem oneByOne_holds : ∃ session, oneByOne.foldlM (step openRealm) twoCharacters = some session ∧
      session.player = some 1 ∧ session.loads = [none, none] ∧ session.LoginHolds := by
  have hrun : oneByOne.foldlM (tested (FitsLogin openRealm) (step openRealm)) twoCharacters =
      some _ := rfl
  exact ⟨_, rfl, rfl, rfl, loginHolds_of_reachable rfl
    (Reachable.tested_foldlM (.start twoCharacters_isNew) hrun)⟩

/-- A second packet loads the character over itself. -/
theorem twice_fails : ¬ ∀ config session, config.CONFIG_REALM_LOGIN_ENABLED = true →
      ReachableLogin config session → session.LoginHolds := by
  intro hholds
  have hrun : twice.foldlM (step openRealm) twoCharacters = some _ := rfl
  have hreach : ReachableLogin openRealm _ := (Reachable.start twoCharacters_isNew).foldlM hrun
  have hloads := (hholds openRealm _ rfl hreach).loads (some 1)
  exact absurd (hloads (by decide)) nofun

end AzerothCore.Sessions.Login.WorldSession
