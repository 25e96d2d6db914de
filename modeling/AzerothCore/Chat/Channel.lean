import AzerothCore.Collections.Reachability
import AzerothCore.Collections.StdMap
import AzerothCore.Common.Define

/-!
# Chat channels

A custom channel has members with flags, an owner, who is recorded by his guid
and by a flag, and a list of bans. Announcements, the players who watch the
channel and the database are left out. A member is known by his guid, and an
empty guid is no guid.
-/

namespace AzerothCore.Chat

def SEC_PLAYER : ℕ := 0
def SEC_GAMEMASTER : ℕ := 2

def CHANNEL_BAN_DURATION : ℕ := 86400 * 60

def CHANNEL_RIGHT_CANT_SPEAK : ℕ := 0x008
def CHANNEL_RIGHT_CANT_BAN : ℕ := 0x010
def CHANNEL_RIGHT_CANT_KICK : ℕ := 0x020
def CHANNEL_RIGHT_CANT_MUTE : ℕ := 0x040

def MEMBER_FLAG_NONE : BitVec 8 := 0x00
def MEMBER_FLAG_OWNER : BitVec 8 := 0x01
def MEMBER_FLAG_MODERATOR : BitVec 8 := 0x02
def MEMBER_FLAG_MUTED : BitVec 8 := 0x08

structure ChatPlayer where
  name : String
  accountId : ℕ
  security : ℕ
  teamId : ℕ
  /-- The team of his race, which `teamId` may differ from for a while. -/
  raceTeamId : ℕ

def ChatPlayer.IsGMAccount (player : ChatPlayer) : Bool := SEC_GAMEMASTER ≤ player.security

structure ChannelRights where
  flags : ℕ
  /-- The accounts of the constant moderators. -/
  moderators : List ℕ

structure PlayerInfo where
  flags : BitVec 8
  _gmStatus : Bool

namespace PlayerInfo

variable (info : PlayerInfo)

def empty : PlayerInfo := ⟨MEMBER_FLAG_NONE, false⟩

def IsOwner : Bool := info.flags &&& MEMBER_FLAG_OWNER ≠ 0

def IsModerator : Bool := info.flags &&& MEMBER_FLAG_MODERATOR ≠ 0

def setFlag (flag : BitVec 8) (state : Bool) : PlayerInfo :=
  { info with flags := if state then info.flags ||| flag else info.flags &&& ~~~flag }

def SetOwner (state : Bool) : PlayerInfo := info.setFlag MEMBER_FLAG_OWNER state

def SetModerator (state : Bool) : PlayerInfo := info.setFlag MEMBER_FLAG_MODERATOR state

def SetMuted (state : Bool) : PlayerInfo := info.setFlag MEMBER_FLAG_MUTED state

end PlayerInfo

structure Channel where
  _ownership : Bool
  _isOwnerGM : Bool
  _ownerGUID : Option ℕ
  _password : String
  _channelRights : ChannelRights
  playersStore : StdMap ℕ PlayerInfo
  bannedStore : StdMap ℕ ℕ

/-- The order in which the members of an `unordered_map` are visited. -/
structure Iteration where
  members : StdMap ℕ PlayerInfo → List (ℕ × PlayerInfo)
  perm : ∀ store, (members store).Perm store.entries

structure CachedCharacter where
  accountId : ℕ
  raceTeamId : ℕ

structure ChannelEnv where
  /-- The players who are online. -/
  player : ℕ → ChatPlayer
  FindPlayerByName : String → Option ℕ
  GetCharacterGuidByName : String → Option ℕ
  GetCharacterCacheByGuid : ℕ → Option CachedCharacter
  /-- `CONFIG_SILENTLY_GM_JOIN_TO_CHANNEL` -/
  silentGM : Bool
  /-- `CONFIG_ALLOW_TWO_SIDE_INTERACTION_CHANNEL` -/
  twoSide : Bool
  gameTime : ℕ
  iteration : Iteration

namespace Channel

variable (channel : Channel) (env : ChannelEnv)

def IsOn (guid : ℕ) : Bool := guid ∈ channel.playersStore

def IsBanned (gameTime guid : ℕ) : Bool :=
  (channel.bannedStore.find? guid).any fun time => gameTime < time

/-- `playersStore[guid]` -/
def info (guid : ℕ) : PlayerInfo := (channel.playersStore.find? guid).getD .empty

def setInfo (guid : ℕ) (info : PlayerInfo) : Channel :=
  { channel with playersStore := channel.playersStore.insert guid info }

def erase (guid : ℕ) : Channel :=
  { channel with playersStore := channel.playersStore.erase guid }

def isConstantModerator (accountId : ℕ) : Bool := accountId ∈ channel._channelRights.moderators

def hasRight (right : ℕ) : Bool := channel._channelRights.flags &&& right ≠ 0

/-- The flag of the last owner is taken back, if he is still a member. -/
def dropOwner : Channel :=
  match channel._ownerGUID.bind fun owner =>
      (channel.playersStore.find? owner).map (owner, ·) with
  | none => channel
  | some (owner, info) => channel.setInfo owner (info.SetOwner false)

/-- `SetOwner(ObjectGuid guid)` -/
def setOwnerGuid (guid : Option ℕ) : Channel :=
  let channel := { channel.dropOwner with _ownerGUID := guid }
  match guid with
  | none => channel
  | some guid => channel.setInfo guid (((channel.info guid).SetModerator true).SetOwner true)

def JoinChannel (guid : ℕ) (pass : String) : Channel :=
  let player := env.player guid
  if channel.IsOn guid || channel.IsBanned env.gameTime guid ||
      channel._password ≠ "" && pass ≠ channel._password then channel
  else
    let pinfo : PlayerInfo := ⟨MEMBER_FLAG_NONE, player.IsGMAccount⟩
    let channel := channel.setInfo guid
      (if channel.isConstantModerator player.accountId then pinfo.SetModerator true else pinfo)
    let channel :=
      if (channel._ownerGUID = none || channel._isOwnerGM && env.silentGM) &&
          channel._ownership then
        ({ channel with _isOwnerGM := (channel.info guid)._gmStatus }).setOwnerGuid (some guid)
      else channel
    if channel.hasRight CHANNEL_RIGHT_CANT_SPEAK then
      channel.setInfo guid ((channel.info guid).SetMuted true)
    else channel

/-- The first of the members without any security level, or else the last one. -/
def newowner : List (ℕ × PlayerInfo) → Option ℕ
  | [] => none
  | entry :: entries =>
    if (env.player entry.1).security = SEC_PLAYER then some entry.1
    else (newowner entries).or (some entry.1)

def LeaveChannel (guid : ℕ) : Channel :=
  if !channel.IsOn guid then channel
  else
    let changeowner := (channel.info guid).IsOwner
    let channel := channel.erase guid
    if changeowner && channel._ownership then
      match newowner env (env.iteration.members channel.playersStore) with
      | none => channel.setOwnerGuid none
      | some owner =>
        ({ channel with _isOwnerGM := (env.player owner).IsGMAccount }).setOwnerGuid (some owner)
    else channel

def findVictim (good : ℕ) (badname : String) (ban : Bool) : Option (ℕ × ℕ × Bool) :=
  match (env.FindPlayerByName badname).filter channel.IsOn with
  | some victim => some (victim, (env.player victim).accountId, true)
  | none =>
    if ban && ((env.player good).IsGMAccount ||
        channel.isConstantModerator (env.player good).accountId) then
      (env.GetCharacterGuidByName badname).bind fun guid =>
        ((env.GetCharacterCacheByGuid guid).filter fun gpd =>
          gpd.raceTeamId = (env.player good).raceTeamId).map fun gpd => (guid, gpd.accountId, false)
    else none

def mayNotKickOrBan (good victim badAccId : ℕ) (ban : Bool) : Bool :=
  !(env.player good).IsGMAccount && !channel.isConstantModerator (env.player good).accountId &&
    (channel._ownerGUID = some victim && channel._ownerGUID ≠ some good ||
      channel.hasRight (if ban then CHANNEL_RIGHT_CANT_BAN else CHANNEL_RIGHT_CANT_KICK) ||
      channel.isConstantModerator badAccId || (env.player victim).IsGMAccount)

def mayModerate (guid : ℕ) : Bool :=
  channel.IsOn guid && ((channel.info guid).IsModerator || (env.player guid).IsGMAccount)

def addBan (victim : ℕ) : Channel :=
  { channel with
    bannedStore := channel.bannedStore.insert victim
      (uint32 (env.gameTime + CHANNEL_BAN_DURATION)) }

def KickOrBan (good : ℕ) (badname : String) (ban : Bool) : Channel :=
  if !channel.mayModerate env good then channel
  else
    match channel.findVictim env good badname ban with
    | none => channel
    | some (victim, badAccId, isOnChannel) =>
      if channel.mayNotKickOrBan env good victim badAccId ban then channel
      else
        let changeowner : Bool := channel._ownerGUID = some victim
        let channel :=
          if ban && !channel.IsBanned env.gameTime victim then channel.addBan env victim
          else channel
        let channel := if isOnChannel then channel.erase victim else channel
        if changeowner && channel._ownership then
          if good ≠ victim then channel.setOwnerGuid (some good)
          else channel.setOwnerGuid (newowner env (env.iteration.members channel.playersStore))
        else channel

def UnBan (good : ℕ) (badname : String) : Channel :=
  if !channel.mayModerate env good then channel
  else
    match (env.GetCharacterGuidByName badname).filter (channel.IsBanned env.gameTime) with
    | none => channel
    | some victim =>
      if !(env.player good).IsGMAccount &&
          !channel.isConstantModerator (env.player good).accountId &&
          channel.hasRight CHANNEL_RIGHT_CANT_BAN then channel
      else { channel with bannedStore := channel.bannedStore.erase victim }

def findMember (name : String) (allowed : ChatPlayer → Bool) : Option ℕ :=
  (env.FindPlayerByName name).filter fun victim =>
    channel.IsOn victim && allowed (env.player victim)

def SetMode (guid : ℕ) (p2n : String) (mod set : Bool) : Channel :=
  let player := env.player guid
  if !channel.mayModerate env guid then channel
  else if channel._ownerGUID = some guid && p2n = player.name && mod then channel
  else
    match channel.findMember env p2n fun newp =>
        player.IsGMAccount && newp.IsGMAccount || player.teamId = newp.teamId || env.twoSide with
    | none => channel
    | some victim =>
      if channel._ownerGUID = some victim && channel._ownerGUID ≠ some guid then channel
      else if mod then
        if channel.isConstantModerator (env.player victim).accountId then channel
        else channel.setInfo victim ((channel.info victim).SetModerator set)
      else if !player.IsGMAccount && !channel.isConstantModerator player.accountId &&
          channel.hasRight CHANNEL_RIGHT_CANT_MUTE then channel
      else channel.setInfo victim ((channel.info victim).SetMuted set)

/-- `SetOwner(Player const* player, std::string const& newname)` -/
def SetOwner (guid : ℕ) (newname : String) : Channel :=
  let player := env.player guid
  if !channel.IsOn guid then channel
  else if !player.IsGMAccount && channel._ownerGUID ≠ some guid &&
      !channel.isConstantModerator player.accountId then channel
  else
    match channel.findMember env newname fun newp =>
        newp.teamId = player.teamId || env.twoSide with
    | none => channel
    | some victim => channel.setOwnerGuid (some victim)

end Channel

end AzerothCore.Chat

/-!
## The owner of a channel

The owner is recorded by his guid and by a flag. Every request that removes or
replaces him goes through `setOwnerGuid`, which takes the flag from the last
owner and gives it to the next one.
-/

namespace AzerothCore.Chat

open Reachability

namespace PlayerInfo

variable (info : PlayerInfo)

theorem flags_setFlag_self (flag : BitVec 8) (state : Bool) :
    (info.setFlag flag state).flags &&& flag = if state then flag else 0 := by
  unfold setFlag
  cases state with
  | true =>
    refine BitVec.eq_of_getLsbD_eq fun i hi => ?_
    simpa using fun hflag => Or.inr hflag
  | false =>
    refine BitVec.eq_of_getLsbD_eq fun i hi => ?_
    simp

theorem flags_setFlag_other {flag other : BitVec 8} (hdisj : flag &&& other = 0)
    (state : Bool) : (info.setFlag flag state).flags &&& other = info.flags &&& other := by
  have hbit : ∀ i, (flag.getLsbD i && other.getLsbD i) = false := by
    intro i
    rw [← BitVec.getLsbD_and, hdisj]
    exact BitVec.getLsbD_zero
  unfold setFlag
  refine BitVec.eq_of_getLsbD_eq fun i hi => ?_
  have hhere := hbit i
  cases state with
  | true =>
    simp only [if_true, BitVec.getLsbD_and, BitVec.getLsbD_or]
    cases hflag : flag.getLsbD i with
    | false => rw [Bool.or_false]
    | true =>
      rw [hflag, Bool.true_and] at hhere
      rw [hhere, Bool.and_false, Bool.and_false]
  | false =>
    simp only [Bool.false_eq_true, if_false, BitVec.getLsbD_and, BitVec.getLsbD_not]
    cases hflag : flag.getLsbD i with
    | false => simp [hi]
    | true =>
      rw [hflag, Bool.true_and] at hhere
      rw [hhere, Bool.and_false, Bool.and_false]

theorem IsOwner_SetOwner (state : Bool) : (info.SetOwner state).IsOwner = state := by
  rw [IsOwner, SetOwner, flags_setFlag_self]
  cases state <;> rfl

theorem IsOwner_SetModerator (state : Bool) : (info.SetModerator state).IsOwner = info.IsOwner := by
  rw [IsOwner, SetModerator, flags_setFlag_other info (by decide), ← IsOwner]

theorem IsOwner_SetMuted (state : Bool) : (info.SetMuted state).IsOwner = info.IsOwner := by
  rw [IsOwner, SetMuted, flags_setFlag_other info (by decide), ← IsOwner]

theorem IsModerator_SetModerator (state : Bool) :
    (info.SetModerator state).IsModerator = state := by
  rw [IsModerator, SetModerator, flags_setFlag_self]
  cases state <;> rfl

theorem IsModerator_SetOwner (state : Bool) :
    (info.SetOwner state).IsModerator = info.IsModerator := by
  rw [IsModerator, SetOwner, flags_setFlag_other info (by decide), ← IsModerator]

theorem IsModerator_SetMuted (state : Bool) :
    (info.SetMuted state).IsModerator = info.IsModerator := by
  rw [IsModerator, SetMuted, flags_setFlag_other info (by decide), ← IsModerator]

end PlayerInfo

namespace Channel

variable {channel : Channel} {env : ChannelEnv} {guid : ℕ}

/-- Only the owner has the flag of owners. -/
def Flagged (channel : Channel) : Prop :=
  ∀ guid info, channel.playersStore.find? guid = some info → info.IsOwner = true →
    channel._ownerGUID = some guid

/-- If there are members, one of them is the owner, and he is the only one with the flag
of owners and a moderator. -/
structure Owned (channel : Channel) : Prop where
  ownership : channel._ownership = true
  nobody : channel._ownerGUID = none → ∀ guid, channel.playersStore.find? guid = none
  owner : ∀ owner, channel._ownerGUID = some owner → ∃ info,
    channel.playersStore.find? owner = some info ∧ info.IsOwner = true ∧ info.IsModerator = true
  flagged : channel.Flagged

theorem find?_setInfo (guid other : ℕ) (info : PlayerInfo) :
    (channel.setInfo guid info).playersStore.find? other =
      if guid = other then some info else channel.playersStore.find? other :=
  channel.playersStore.find?_insert guid other info

theorem info_of_find? {info : PlayerInfo} (hfind : channel.playersStore.find? guid = some info) :
    channel.info guid = info := by
  rw [Channel.info, hfind, Option.getD_some]

theorem dropOwner_spec (hflagged : channel.Flagged) :
    (channel.dropOwner)._ownership = channel._ownership ∧
      ∀ guid info, channel.dropOwner.playersStore.find? guid = some info →
        info.IsOwner = false := by
  unfold dropOwner
  split
  case h_1 hnone =>
    refine ⟨rfl, fun guid info hfind => ?_⟩
    by_contra howner
    rw [Bool.not_eq_false] at howner
    rw [hflagged guid info hfind howner, Option.bind_some, hfind] at hnone
    cases hnone
  rename_i owner info hsome
  refine ⟨rfl, fun guid found hfind => ?_⟩
  obtain ⟨last, hlast, hpair⟩ := Option.bind_eq_some_iff.mp hsome
  obtain ⟨_, -, heq⟩ := Option.map_eq_some_iff.mp hpair
  obtain ⟨rfl, rfl⟩ := Prod.mk.inj heq
  rw [find?_setInfo] at hfind
  split at hfind
  · cases hfind
    exact PlayerInfo.IsOwner_SetOwner _ false
  case isFalse hne =>
    by_contra howner
    rw [Bool.not_eq_false] at howner
    exact hne (Option.some.inj (hlast.symm.trans (hflagged guid found hfind howner)))

theorem setOwnerGuid_owned (hflagged : channel.Flagged) (hownership : channel._ownership = true)
    (guid : ℕ) : (channel.setOwnerGuid (some guid)).Owned := by
  obtain ⟨hsame, hdropped⟩ := dropOwner_spec hflagged
  unfold setOwnerGuid
  refine ⟨hsame.trans hownership, nofun, fun owner howner => ?_, fun other info hfind hisOwner => ?_⟩
  · cases howner
    refine ⟨_, (find?_setInfo ..).trans (if_pos rfl), PlayerInfo.IsOwner_SetOwner _ true, ?_⟩
    rw [PlayerInfo.IsModerator_SetOwner, PlayerInfo.IsModerator_SetModerator]
  · rw [find?_setInfo] at hfind
    split at hfind
    case isTrue heq => exact congrArg some heq
    case isFalse => exact absurd hisOwner (Bool.eq_false_iff.mp (hdropped other info hfind))

theorem setOwnerGuid_none_owned (hownership : channel._ownership = true)
    (hempty : ∀ guid, channel.playersStore.find? guid = none) :
    (channel.setOwnerGuid none).Owned := by
  have hdropped : channel.dropOwner = channel := by
    unfold dropOwner
    split
    · rfl
    rename_i owner info hsome
    obtain ⟨last, -, hpair⟩ := Option.bind_eq_some_iff.mp hsome
    rw [hempty] at hpair
    cases hpair
  unfold setOwnerGuid
  rw [hdropped]
  exact ⟨hownership, fun _ => hempty, nofun, fun guid info hfind => nomatch (hempty guid).symm.trans hfind⟩

theorem Owned.setInfo (howned : channel.Owned) {info new : PlayerInfo}
    (hfind : channel.playersStore.find? guid = some info) (hisOwner : new.IsOwner = info.IsOwner)
    (hisModerator : channel._ownerGUID = some guid → new.IsModerator = info.IsModerator) :
    (channel.setInfo guid new).Owned where
  ownership := howned.ownership
  nobody hnone := nomatch (howned.nobody hnone guid).symm.trans hfind
  owner owner howner := by
    obtain ⟨found, hfound, hflag, hmoderator⟩ := howned.owner owner howner
    rw [find?_setInfo]
    split
    case isFalse => exact ⟨found, hfound, hflag, hmoderator⟩
    rename_i heq
    subst heq
    obtain rfl := Option.some.inj (hfind.symm.trans hfound)
    exact ⟨new, rfl, hisOwner.trans hflag, (hisModerator howner).trans hmoderator⟩
  flagged other found hfound hflag := by
    rw [find?_setInfo] at hfound
    split at hfound
    case isFalse => exact howned.flagged other found hfound hflag
    rename_i heq
    cases hfound
    exact heq ▸ howned.flagged guid info hfind (hisOwner.symm.trans hflag)

theorem Flagged.erase (hflagged : channel.Flagged) (guid : ℕ) : (channel.erase guid).Flagged := by
  intro other info hfind hflag
  change (channel.playersStore.erase guid).find? other = some info at hfind
  rw [StdMap.find?_erase] at hfind
  split at hfind
  · cases hfind
  · exact hflagged other info hfind hflag

theorem Owned.erase (howned : channel.Owned) (hother : channel._ownerGUID ≠ some guid) :
    (channel.erase guid).Owned where
  ownership := howned.ownership
  nobody hnone other := by
    change (channel.playersStore.erase guid).find? other = none
    rw [StdMap.find?_erase, howned.nobody hnone, ite_self]
  owner owner howner := by
    obtain ⟨info, hfind, hflags⟩ := howned.owner owner howner
    refine ⟨info, ?_, hflags⟩
    change (channel.playersStore.erase guid).find? owner = some info
    have hne : guid ≠ owner := by
      rintro rfl
      exact hother howner
    rw [StdMap.find?_erase, if_neg hne]
    exact hfind
  flagged := howned.flagged.erase guid

theorem newowner_eq_none {entries : List (ℕ × PlayerInfo)} :
    newowner env entries = none ↔ entries = [] := by
  rcases entries with _ | ⟨entry, entries⟩
  · exact iff_of_true rfl rfl
  refine iff_of_false ?_ (List.cons_ne_nil entry entries)
  unfold newowner
  split
  · exact nofun
  · intro hnone
    exact nomatch (Option.or_eq_none_iff.mp hnone).2

theorem find?_of_newowner_none
    (hnone : newowner env (env.iteration.members channel.playersStore) = none) (guid : ℕ) :
    channel.playersStore.find? guid = none := by
  have hentries := (env.iteration.perm channel.playersStore).symm
  rw [newowner_eq_none.mp hnone, List.perm_nil] at hentries
  refine Option.eq_none_iff_forall_ne_some.mpr fun info hfind => ?_
  have hmem := StdMap.find?_eq_some_iff.mp hfind
  rw [hentries] at hmem
  exact List.not_mem_nil hmem

theorem handOver_owned (hflagged : channel.Flagged) (hownership : channel._ownership = true)
    (env : ChannelEnv) :
    (channel.setOwnerGuid (newowner env (env.iteration.members channel.playersStore))).Owned := by
  cases hnew : newowner env (env.iteration.members channel.playersStore) with
  | none => exact setOwnerGuid_none_owned hownership (find?_of_newowner_none hnew)
  | some owner => exact setOwnerGuid_owned hflagged hownership owner

structure Spared (gameTime : ℕ) (before after : Channel) (owner : ℕ) : Prop where
  stays : after._ownerGUID = some owner
  info : after.playersStore.find? owner = before.playersStore.find? owner
  banned : after.IsBanned gameTime owner = true → before.IsBanned gameTime owner = true

structure Plain (channel : Channel) (env : ChannelEnv) (guid : ℕ) : Prop where
  owner : channel._ownerGUID ≠ some guid
  gameMaster : (env.player guid).IsGMAccount = false
  moderator : channel.isConstantModerator (env.player guid).accountId = false

theorem Spared.refl {gameTime owner : ℕ} (howner : channel._ownerGUID = some owner) :
    Spared gameTime channel channel owner := ⟨howner, rfl, id⟩

structure Keeps (before after : Channel) (env : ChannelEnv) (guid : ℕ) : Prop where
  owned : after.Owned
  spared : before.Plain env guid → ∀ owner, before._ownerGUID = some owner →
    Spared env.gameTime before after owner

theorem Keeps.refl (howned : channel.Owned) : Keeps channel channel env guid :=
  ⟨howned, fun _ _ howner => .refl howner⟩

theorem exists_info (hon : channel.IsOn guid = true) :
    ∃ info, channel.playersStore.find? guid = some info ∧ channel.info guid = info := by
  obtain ⟨info, hfind⟩ := StdMap.mem_iff_find?.mp (of_decide_eq_true hon)
  exact ⟨info, hfind, info_of_find? hfind⟩

theorem LeaveChannel_keeps (howned : channel.Owned) :
    Keeps channel (channel.LeaveChannel env guid) env guid := by
  unfold LeaveChannel
  by_cases hon : channel.IsOn guid = true
  · rw [hon, Bool.not_true, if_neg Bool.false_ne_true]
    obtain ⟨info, hfind, hinfo⟩ := exists_info hon
    rw [hinfo]
    change Keeps channel (if (info.IsOwner && channel._ownership) = true then _ else _) env guid
    by_cases hisOwner : info.IsOwner = true
    · have howner := howned.flagged guid info hfind hisOwner
      rw [hisOwner, howned.ownership, Bool.and_true, if_pos rfl]
      refine ⟨?_, fun hplain => absurd howner hplain.owner⟩
      split
      case h_1 hnone =>
        exact setOwnerGuid_none_owned howned.ownership (find?_of_newowner_none hnone)
      rename_i owner hnew
      have hflagged := howned.flagged.erase guid
      exact @setOwnerGuid_owned { channel.erase guid with
        _isOwnerGM := (env.player owner).IsGMAccount } hflagged howned.ownership owner
    · rw [Bool.not_eq_true] at hisOwner
      rw [hisOwner, Bool.false_and, if_neg Bool.false_ne_true]
      have hother : channel._ownerGUID ≠ some guid := by
        intro howner
        obtain ⟨found, hfound, hflag, -⟩ := howned.owner guid howner
        obtain rfl := Option.some.inj (hfind.symm.trans hfound)
        exact Bool.false_ne_true (hisOwner.symm.trans hflag)
      refine ⟨howned.erase hother, fun _ owner howner => ⟨howner, ?_, id⟩⟩
      have hne : guid ≠ owner := by
        rintro rfl
        exact hother howner
      exact (StdMap.find?_erase ..).trans (if_neg hne)
  · rw [Bool.not_eq_true] at hon
    rw [hon, Bool.not_false, if_pos rfl]
    exact .refl howned

theorem UnBan_keeps (howned : channel.Owned) (badname : String) :
    Keeps channel (channel.UnBan env guid badname) env guid := by
  unfold UnBan
  split
  · exact .refl howned
  split
  · exact .refl howned
  rename_i victim _
  split
  · exact .refl howned
  refine ⟨⟨howned.ownership, howned.nobody, howned.owner, howned.flagged⟩,
    fun _ owner howner => ⟨howner, rfl, fun hbanned => ?_⟩⟩
  unfold IsBanned at hbanned ⊢
  rw [StdMap.find?_erase] at hbanned
  split at hbanned
  · cases hbanned
  · exact hbanned

theorem findMember_spec {name : String} {allowed : ChatPlayer → Bool} {victim : ℕ}
    (hfound : channel.findMember env name allowed = some victim) :
    env.FindPlayerByName name = some victim ∧ channel.IsOn victim = true := by
  obtain ⟨hname, hchecks⟩ := Option.filter_eq_some_iff.mp hfound
  rw [Bool.and_eq_true] at hchecks
  exact ⟨hname, hchecks.1⟩

theorem SetOwner_keeps (howned : channel.Owned) (newname : String) :
    Keeps channel (channel.SetOwner env guid newname) env guid := by
  unfold SetOwner
  dsimp only
  split
  · exact .refl howned
  split
  · exact .refl howned
  rename_i hmay
  split
  · exact .refl howned
  rename_i victim _
  refine ⟨setOwnerGuid_owned howned.flagged howned.ownership victim, fun hplain => ?_⟩
  rw [hplain.gameMaster, hplain.moderator] at hmay
  exact absurd (by simpa using hplain.owner) hmay

/-- Names are normalised, so a player is found by his own name only. -/
def Normalised (env : ChannelEnv) (name : String) : Prop :=
  ∀ victim, env.FindPlayerByName name = some victim → (env.player victim).name = name

theorem SetMode_keeps (howned : channel.Owned) {p2n : String} (hname : Normalised env p2n)
    (mod set : Bool) : Keeps channel (channel.SetMode env guid p2n mod set) env guid := by
  unfold SetMode
  dsimp only
  split
  · exact .refl howned
  split
  · exact .refl howned
  rename_i hself
  split
  · exact .refl howned
  rename_i victim hmember
  obtain ⟨hfound, hon⟩ := findMember_spec hmember
  obtain ⟨info, hfind, hinfo⟩ := exists_info hon
  split
  · exact .refl howned
  rename_i howner
  rw [Bool.and_eq_true, decide_eq_true_eq, decide_eq_true_eq] at howner
  have hspared : ∀ new : PlayerInfo, channel.Plain env guid → ∀ owner,
      channel._ownerGUID = some owner →
        Spared env.gameTime channel (channel.setInfo victim new) owner := by
    intro new hplain owner hisOwner
    refine ⟨hisOwner, (find?_setInfo ..).trans (if_neg ?_), id⟩
    rintro rfl
    exact howner ⟨hisOwner, hplain.owner⟩
  split
  case isFalse =>
    split
    · exact .refl howned
    refine ⟨howned.setInfo hfind ?_ fun _ => ?_, hspared _⟩
    · rw [hinfo, PlayerInfo.IsOwner_SetMuted]
    · rw [hinfo, PlayerInfo.IsModerator_SetMuted]
  rename_i hmod
  split
  · exact .refl howned
  refine ⟨howned.setInfo hfind ?_ fun hisOwner => ?_, hspared _⟩
  · rw [hinfo, PlayerInfo.IsOwner_SetModerator]
  · -- the owner would have named himself
    exfalso
    rw [Bool.and_eq_true, Bool.and_eq_true, decide_eq_true_eq, decide_eq_true_eq] at hself
    have hguid : channel._ownerGUID = some guid := not_not.mp fun hne => howner ⟨hisOwner, hne⟩
    obtain rfl := Option.some.inj (hisOwner.symm.trans hguid)
    exact hself ⟨⟨hguid, (hname victim hfound).symm⟩, hmod⟩

structure BanAdded (channel banned : Channel) (victim : ℕ) : Prop where
  owned : banned.Owned
  owner : banned._ownerGUID = channel._ownerGUID
  members : banned.playersStore = channel.playersStore
  others : ∀ other, other ≠ victim →
    banned.bannedStore.find? other = channel.bannedStore.find? other

theorem banAdded (howned : channel.Owned) (env : ChannelEnv) (victim : ℕ) (condition : Bool) :
    BanAdded channel (if condition then channel.addBan env victim else channel) victim := by
  split
  case isFalse => exact ⟨howned, rfl, rfl, fun _ _ => rfl⟩
  refine ⟨⟨howned.ownership, howned.nobody, howned.owner, howned.flagged⟩, rfl, rfl, ?_⟩
  exact fun other hne => (StdMap.find?_insert ..).trans (if_neg hne.symm)

theorem KickOrBan_keeps (howned : channel.Owned) (badname : String) (ban : Bool) :
    Keeps channel (channel.KickOrBan env guid badname ban) env guid := by
  unfold KickOrBan
  split
  · exact .refl howned
  split
  · exact .refl howned
  rename_i victim badAccId isOnChannel _
  split
  · exact .refl howned
  rename_i hmay
  have hban := banAdded howned env victim (ban && !channel.IsBanned env.gameTime victim)
  dsimp only
  generalize (if (ban && !channel.IsBanned env.gameTime victim) = true then
    channel.addBan env victim else channel) = banned at hban ⊢
  have hflagged : (if isOnChannel = true then banned.erase victim else banned).Flagged := by
    split
    · exact hban.owned.flagged.erase victim
    · exact hban.owned.flagged
  have hownership : (if isOnChannel = true then banned.erase victim
      else banned)._ownership = true := by
    split
    · exact hban.owned.ownership
    · exact hban.owned.ownership
  rw [hownership, Bool.and_true]
  by_cases hvictim : channel._ownerGUID = some victim
  · rw [if_pos (decide_eq_true hvictim)]
    refine ⟨?_, fun hplain => ?_⟩
    · split
      · exact setOwnerGuid_owned hflagged hownership guid
      · exact handOver_owned hflagged hownership env
    · -- nobody else may kick or ban the owner
      refine absurd ?_ hmay
      unfold mayNotKickOrBan
      rw [hplain.gameMaster, hplain.moderator, decide_eq_true hvictim, decide_eq_true hplain.owner]
      rfl
  · rw [if_neg fun htrue => hvictim (of_decide_eq_true htrue)]
    have hother : banned._ownerGUID ≠ some victim := hban.owner.trans_ne hvictim
    refine ⟨?_, fun _ owner howner => ?_⟩
    · split
      · exact hban.owned.erase hother
      · exact hban.owned
    · have hne : owner ≠ victim := by
        rintro rfl
        exact hvictim howner
      have hbans : banned.IsBanned env.gameTime owner = channel.IsBanned env.gameTime owner := by
        rw [IsBanned, hban.others owner hne, ← IsBanned]
      split
      case isFalse =>
        exact ⟨hban.owner.trans howner, by rw [hban.members], hbans.symm.trans⟩
      refine ⟨hban.owner.trans howner, ?_, hbans.symm.trans⟩
      refine (StdMap.find?_erase ..).trans ((if_neg hne.symm).trans ?_)
      rw [hban.members]

theorem not_on (hon : channel.IsOn guid = false) : channel.playersStore.find? guid = none :=
  StdMap.find?_eq_none_iff.mpr (of_decide_eq_false hon)

theorem Flagged.join (hflagged : channel.Flagged) {info : PlayerInfo}
    (hinfo : info.IsOwner = false) : (channel.setInfo guid info).Flagged := by
  intro other found hfound hflag
  rw [find?_setInfo] at hfound
  split at hfound
  case isFalse => exact hflagged other found hfound hflag
  cases hfound
  exact absurd hflag (Bool.eq_false_iff.mp hinfo)

theorem Owned.join (howned : channel.Owned) (howner : channel._ownerGUID ≠ none)
    (hnone : channel.playersStore.find? guid = none) {info : PlayerInfo}
    (hinfo : info.IsOwner = false) : (channel.setInfo guid info).Owned where
  ownership := howned.ownership
  nobody hnobody := absurd hnobody howner
  owner owner hisOwner := by
    obtain ⟨found, hfound, hflags⟩ := howned.owner owner hisOwner
    refine ⟨found, (find?_setInfo ..).trans ((if_neg ?_).trans hfound), hflags⟩
    rintro rfl
    exact nomatch hnone.symm.trans hfound
  flagged := howned.flagged.join hinfo

theorem joined_flags (gmStatus moderator : Bool) :
    (if moderator then (⟨MEMBER_FLAG_NONE, gmStatus⟩ : PlayerInfo).SetModerator true
      else ⟨MEMBER_FLAG_NONE, gmStatus⟩).IsOwner = false := by
  have hnone : (⟨MEMBER_FLAG_NONE, gmStatus⟩ : PlayerInfo).IsOwner = false := by
    cases gmStatus <;> decide
  split
  · exact (PlayerInfo.IsOwner_SetModerator _ true).trans hnone
  · exact hnone

theorem Owned.mute (howned : channel.Owned) (hon : channel.playersStore.find? guid ≠ none) :
    (channel.setInfo guid ((channel.info guid).SetMuted true)).Owned := by
  obtain ⟨info, hfind⟩ := Option.ne_none_iff_exists'.mp hon
  refine howned.setInfo hfind ?_ fun _ => ?_
  · rw [info_of_find? hfind, PlayerInfo.IsOwner_SetMuted]
  · rw [info_of_find? hfind, PlayerInfo.IsModerator_SetMuted]

theorem find?_setOwnerGuid_ne_none (channel : Channel) (guid : ℕ) :
    (channel.setOwnerGuid (some guid)).playersStore.find? guid ≠ none := by
  have hfound : (channel.setOwnerGuid (some guid)).playersStore.find? guid = some _ :=
    StdMap.find?_insert_self ..
  rw [hfound]
  exact nofun

theorem JoinChannel_owned (howned : channel.Owned) (pass : String) :
    (channel.JoinChannel env guid pass).Owned ∧
      ((channel._isOwnerGM && env.silentGM) = false → ∀ owner, channel._ownerGUID = some owner →
        Spared env.gameTime channel (channel.JoinChannel env guid pass) owner) := by
  unfold JoinChannel
  dsimp only
  split
  · exact ⟨howned, fun _ _ howner => .refl howner⟩
  rename_i hchecks
  rw [Bool.or_eq_true, Bool.or_eq_true, not_or, not_or, Bool.not_eq_true] at hchecks
  have hnone := not_on hchecks.1.1
  have hflags := joined_flags (env.player guid).IsGMAccount
    (channel.isConstantModerator (env.player guid).accountId)
  generalize (if channel.isConstantModerator (env.player guid).accountId = true then
    (⟨MEMBER_FLAG_NONE, (env.player guid).IsGMAccount⟩ : PlayerInfo).SetModerator true
    else ⟨MEMBER_FLAG_NONE, (env.player guid).IsGMAccount⟩) = pinfo at hflags ⊢
  have hjoined : (channel.setInfo guid pinfo).playersStore.find? guid ≠ none := by
    rw [find?_setInfo, if_pos rfl]
    exact nofun
  have hflagged := @Flagged.join channel guid howned.flagged pinfo hflags
  have hkeep : ∀ owner, channel._ownerGUID = some owner → guid ≠ owner := by
    rintro owner howner rfl
    obtain ⟨found, hfound, -⟩ := howned.owner guid howner
    exact nomatch hnone.symm.trans hfound
  by_cases htake : ((decide ((channel.setInfo guid pinfo)._ownerGUID = none) ||
      (channel.setInfo guid pinfo)._isOwnerGM && env.silentGM) &&
        (channel.setInfo guid pinfo)._ownership) = true
  · rw [if_pos htake]
    have hnew := @setOwnerGuid_owned { channel.setInfo guid pinfo with
      _isOwnerGM := ((channel.setInfo guid pinfo).info guid)._gmStatus } hflagged
      howned.ownership guid
    have hon := find?_setOwnerGuid_ne_none { channel.setInfo guid pinfo with
      _isOwnerGM := ((channel.setInfo guid pinfo).info guid)._gmStatus } guid
    refine ⟨?_, fun hloud owner howner => ?_⟩
    · split
      · exact hnew.mute hon
      · exact hnew
    · rw [Bool.and_eq_true, Bool.or_eq_true, decide_eq_true_eq] at htake
      rcases htake.1 with hnoOwner | hsilent
      · exact nomatch hnoOwner.symm.trans howner
      · exact absurd hsilent (Bool.eq_false_iff.mp hloud)
  · rw [if_neg htake]
    have howner : channel._ownerGUID ≠ none := by
      intro hnoOwner
      refine htake ?_
      change ((decide (channel._ownerGUID = none) || _) && channel._ownership) = true
      rw [hnoOwner, howned.ownership]
      rfl
    have hnew := howned.join howner hnone hflags
    refine ⟨?_, fun _ owner hisOwner => ?_⟩
    · split
      · exact hnew.mute hjoined
      · exact hnew
    · have hne := hkeep owner hisOwner
      have hsame : (channel.setInfo guid pinfo).playersStore.find? owner =
          channel.playersStore.find? owner := (find?_setInfo ..).trans (if_neg hne)
      split
      · exact ⟨hisOwner, ((find?_setInfo ..).trans (if_neg hne)).trans hsame, id⟩
      · exact ⟨hisOwner, hsame, id⟩

inductive ChannelRequest where
  | join (pass : String)
  | leave
  | kickOrBan (badname : String) (ban : Bool)
  | unBan (badname : String)
  | setMode (p2n : String) (mod set : Bool)
  | setOwner (newname : String)

structure ChannelOp where
  env : ChannelEnv
  guid : ℕ
  request : ChannelRequest

def perform (channel : Channel) (op : ChannelOp) : Channel :=
  match op.request with
  | .join pass => channel.JoinChannel op.env op.guid pass
  | .leave => channel.LeaveChannel op.env op.guid
  | .kickOrBan badname ban => channel.KickOrBan op.env op.guid badname ban
  | .unBan badname => channel.UnBan op.env op.guid badname
  | .setMode p2n mod set => channel.SetMode op.env op.guid p2n mod set
  | .setOwner newname => channel.SetOwner op.env op.guid newname

def NormalisedNames (_ : Channel) (op : ChannelOp) : Prop :=
  match op.request with
  | .setMode p2n _ _ => Normalised op.env p2n
  | _ => True

def TakesOver (channel : Channel) (op : ChannelOp) : Prop :=
  (∃ pass, op.request = .join pass) ∧ channel._isOwnerGM = true ∧ op.env.silentGM = true

structure Opened (channel : Channel) : Prop where
  ownership : channel._ownership = true
  owner : channel._ownerGUID = none
  members : ∀ guid, channel.playersStore.find? guid = none

theorem Opened.owned (hopened : channel.Opened) : channel.Owned where
  ownership := hopened.ownership
  nobody _ := hopened.members
  owner _ howner := nomatch hopened.owner.symm.trans howner
  flagged guid _ hfind := nomatch (hopened.members guid).symm.trans hfind

theorem perform_owned (howned : channel.Owned) {op : ChannelOp}
    (hnames : channel.NormalisedNames op) :
    (channel.perform op).Owned ∧ (¬channel.TakesOver op → channel.Plain op.env op.guid →
      ∀ owner, channel._ownerGUID = some owner →
        Spared op.env.gameTime channel (channel.perform op) owner) := by
  obtain ⟨env, guid, request⟩ := op
  cases request with
  | join pass =>
    obtain ⟨hjoined, hspared⟩ := @JoinChannel_owned channel env guid howned pass
    refine ⟨hjoined, fun hnot _ owner howner => hspared ?_ owner howner⟩
    rw [← Bool.not_eq_true, Bool.and_eq_true]
    exact fun hsilent => hnot ⟨⟨pass, rfl⟩, hsilent⟩
  | leave =>
    have hkeeps := @LeaveChannel_keeps channel env guid howned
    exact ⟨hkeeps.owned, fun _ => hkeeps.spared⟩
  | kickOrBan badname ban =>
    have hkeeps := @KickOrBan_keeps channel env guid howned badname ban
    exact ⟨hkeeps.owned, fun _ => hkeeps.spared⟩
  | unBan badname =>
    have hkeeps := @UnBan_keeps channel env guid howned badname
    exact ⟨hkeeps.owned, fun _ => hkeeps.spared⟩
  | setMode p2n mod set =>
    have hkeeps := @SetMode_keeps channel env guid howned p2n hnames mod set
    exact ⟨hkeeps.owned, fun _ => hkeeps.spared⟩
  | setOwner newname =>
    have hkeeps := @SetOwner_keeps channel env guid howned newname
    exact ⟨hkeeps.owned, fun _ => hkeeps.spared⟩

/-- In every run there is exactly one owner while there are members, and he is spared by
players without rights, unless one joins in place of a game master. -/
theorem channel_is_owned (hreach : Reachable Opened
      (guarded NormalisedNames fun channel op after => after = channel.perform op) channel) :
    channel.Owned ∧ ∀ op, channel.NormalisedNames op → ¬channel.TakesOver op →
      channel.Plain op.env op.guid → ∀ owner, channel._ownerGUID = some owner →
        Spared op.env.gameTime channel (channel.perform op) owner := by
  have howned : channel.Owned := by
    apply hreach.invariant
    · exact fun start hopened => hopened.owned
    · rintro before op after hbefore ⟨hnames, rfl⟩
      exact (perform_owned hbefore hnames).1
  exact ⟨howned, fun op hnames => (perform_owned howned hnames).2⟩

/-! ## A silent game master -/

def emptyChannel : Channel where
  _ownership := true
  _isOwnerGM := false
  _ownerGUID := none
  _password := ""
  _channelRights := ⟨0, []⟩
  playersStore := StdMap.empty
  bannedStore := StdMap.empty

def silentEnv : ChannelEnv where
  player guid := ⟨"Player", guid, if guid = 1 then SEC_GAMEMASTER else SEC_PLAYER, 0, 0⟩
  FindPlayerByName _ := none
  GetCharacterGuidByName _ := none
  GetCharacterCacheByGuid _ := none
  silentGM := true
  twoSide := false
  gameTime := 0
  iteration := ⟨StdMap.entries, fun _ => List.Perm.refl _⟩

theorem emptyChannel_opened : emptyChannel.Opened := ⟨rfl, rfl, fun _ => rfl⟩

/-- Whoever joins after a game master takes the ownership. -/
theorem game_master_is_replaced : ¬∀ channel : Channel, Reachable Opened
        (guarded NormalisedNames fun channel op after => after = channel.perform op) channel →
      ∀ op, channel.NormalisedNames op → channel.Plain op.env op.guid →
        ∀ owner, channel._ownerGUID = some owner →
          Spared op.env.gameTime channel (channel.perform op) owner := by
  intro hclaim
  have hjoined : Reachable Opened
      (guarded NormalisedNames fun channel op after => after = channel.perform op)
      (emptyChannel.perform ⟨silentEnv, 1, .join ""⟩) :=
    @Reachable.step _ _ _ _ _ _ (⟨silentEnv, 1, .join ""⟩ : ChannelOp)
      (.start emptyChannel_opened) ⟨trivial, rfl⟩
  have hplain : (emptyChannel.perform ⟨silentEnv, 1, .join ""⟩).Plain silentEnv 2 :=
    ⟨by decide +kernel, by decide +kernel, by decide +kernel⟩
  have hspared := hclaim _ hjoined ⟨silentEnv, 2, .join ""⟩ trivial hplain 1 (by decide +kernel)
  exact absurd hspared.stays (by decide +kernel)

/-- A player who joins first keeps the ownership. -/
theorem first_player_owns : ∃ channel : Channel, channel._ownerGUID = some 2 ∧ channel.Owned ∧
      (channel.perform ⟨silentEnv, 3, .join ""⟩)._ownerGUID = some 2 := by
  have hjoined : Reachable Opened
      (guarded NormalisedNames fun channel op after => after = channel.perform op)
      (emptyChannel.perform ⟨silentEnv, 2, .join ""⟩) :=
    @Reachable.step _ _ _ _ _ _ (⟨silentEnv, 2, .join ""⟩ : ChannelOp)
      (.start emptyChannel_opened) ⟨trivial, rfl⟩
  obtain ⟨howned, hspared⟩ := channel_is_owned hjoined
  have howner : (emptyChannel.perform ⟨silentEnv, 2, .join ""⟩)._ownerGUID = some 2 := by
    decide +kernel
  refine ⟨_, howner, howned, (hspared ⟨silentEnv, 3, .join ""⟩ trivial ?_ ?_ 2 howner).stays⟩
  · intro htakes
    exact absurd htakes.2.1 (by decide +kernel)
  · exact ⟨by decide +kernel, by decide +kernel, by decide +kernel⟩

end Channel

end AzerothCore.Chat
