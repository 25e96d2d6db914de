import AzerothCore.Chat.Channel

/-!
# Whose ownership a player who joins may take

`_isOwnerGM` is recorded when a player joins or leaves. The other requests that hand over the
ownership leave it as it was. The level of a session never changes, so that `gm` tells of every
player whether he is a game master.
-/

namespace AzerothCore.Chat.Channel
open Reachability

variable {channel : Channel} {env : ChannelEnv} {guid owner : ℕ} {gm : ℕ → Bool}

/-- The player whom a request hands the ownership to while it leaves `_isOwnerGM` alone. -/
def handsTo (channel : Channel) (op : ChannelOp) : Option ℕ :=
  match op.request with
  | .kickOrBan badname ban =>
    if channel.mayModerate op.env op.guid && channel._ownership then
      (channel.findVictim op.env op.guid badname ban).bind fun (victim, badAccId, isOnChannel) =>
        if channel._ownerGUID = some victim &&
            !channel.mayNotKickOrBan op.env op.guid victim badAccId ban then
          if op.guid ≠ victim then some op.guid
          else
            newowner op.env (op.env.iteration.members
              (if isOnChannel then channel.erase victim else channel).playersStore)
        else none
    else none
  | .setOwner newname =>
    let player := op.env.player op.guid
    if channel.IsOn op.guid && (player.IsGMAccount || channel._ownerGUID = some op.guid ||
        channel.isConstantModerator player.accountId) then
      channel.findMember op.env newname fun newp =>
        newp.teamId = player.teamId || op.env.twoSide
    else none
  | _ => none

/-- While `_isOwnerGM` is set, the ownership is not handed to a player who is no game master. -/
def HandedToGM (gm : ℕ → Bool) (channel : Channel) (op : ChannelOp) : Prop :=
  (∀ guid, (op.env.player guid).IsGMAccount = gm guid) ∧
    (channel._isOwnerGM = true → ∀ new, channel.handsTo op = some new → gm new = true)

def Recorded (gm : ℕ → Bool) (channel : Channel) : Prop :=
  channel._isOwnerGM = true → ∀ owner, channel._ownerGUID = some owner → gm owner = true

structure Unrecorded (before after : Channel) (new : Option ℕ) : Prop where
  flag : after._isOwnerGM = before._isOwnerGM
  owner : after._ownerGUID = before._ownerGUID ∨ after._ownerGUID = new

theorem Unrecorded.refl {new : Option ℕ} : Unrecorded channel channel new := ⟨rfl, .inl rfl⟩

theorem setOwnerGuid_flag (new : Option ℕ) :
    (channel.setOwnerGuid new)._isOwnerGM = channel._isOwnerGM := by
  unfold setOwnerGuid dropOwner
  dsimp only
  split <;> split <;> rfl

theorem setOwnerGuid_owner (new : Option ℕ) : (channel.setOwnerGuid new)._ownerGUID = new := by
  unfold setOwnerGuid
  dsimp only
  split <;> rfl

theorem SetOwner_unrecorded (newname : String) :
    Unrecorded channel (channel.SetOwner env guid newname)
      (channel.handsTo ⟨env, guid, .setOwner newname⟩) := by
  unfold SetOwner
  dsimp only
  split
  · exact .refl
  next hon =>
  split
  · exact .refl
  next hallowed =>
  split
  · exact .refl
  next victim hvictim =>
  refine ⟨setOwnerGuid_flag _, .inr ?_⟩
  dsimp only [handsTo]
  rw [setOwnerGuid_owner, if_pos (by grind), hvictim]

theorem KickOrBan_unrecorded (badname : String) (ban : Bool) :
    Unrecorded channel (channel.KickOrBan env guid badname ban)
      (channel.handsTo ⟨env, guid, .kickOrBan badname ban⟩) := by
  unfold KickOrBan
  split
  · exact .refl
  next hmay =>
  split
  · exact .refl
  next victim badAccId isOnChannel hvictim =>
  split
  · exact .refl
  next hallowed =>
  extract_lets changeowner banned kicked
  obtain ⟨hflag, howner, hownership, hstore⟩ : kicked._isOwnerGM = channel._isOwnerGM ∧
      kicked._ownerGUID = channel._ownerGUID ∧ kicked._ownership = channel._ownership ∧
      kicked.playersStore =
        (if isOnChannel then channel.erase victim else channel).playersStore := by
    dsimp only [kicked, banned]
    split_ifs <;> exact ⟨rfl, rfl, rfl, rfl⟩
  clear_value kicked
  rw [hownership, hstore]
  split
  case isFalse => exact ⟨hflag, .inl howner⟩
  next hchange =>
  have hnew : channel.handsTo ⟨env, guid, .kickOrBan badname ban⟩ =
      if guid ≠ victim then some guid
      else newowner env (env.iteration.members
        (if isOnChannel then channel.erase victim else channel).playersStore) := by
    rw [Bool.and_eq_true, decide_eq_true_eq] at hchange
    dsimp only [handsTo]
    rw [if_pos (by grind), hvictim, Option.bind_some]
    exact if_pos (by grind)
  rw [hnew]
  split
  · exact ⟨(setOwnerGuid_flag _).trans hflag, .inr (setOwnerGuid_owner _)⟩
  · exact ⟨(setOwnerGuid_flag _).trans hflag, .inr (setOwnerGuid_owner _)⟩

theorem JoinChannel_recorded (pass : String) :
    ((channel.JoinChannel env guid pass)._isOwnerGM = channel._isOwnerGM ∧
        (channel.JoinChannel env guid pass)._ownerGUID = channel._ownerGUID) ∨
      ((channel._ownerGUID = none ∨ channel._isOwnerGM = true) ∧
        (channel.JoinChannel env guid pass)._isOwnerGM = (env.player guid).IsGMAccount ∧
        (channel.JoinChannel env guid pass)._ownerGUID = some guid) := by
  unfold JoinChannel
  extract_lets player pinfo joined owned
  split
  · exact .inl ⟨rfl, rfl⟩
  suffices (owned._isOwnerGM = channel._isOwnerGM ∧ owned._ownerGUID = channel._ownerGUID) ∨
      ((channel._ownerGUID = none ∨ channel._isOwnerGM = true) ∧
        owned._isOwnerGM = player.IsGMAccount ∧ owned._ownerGUID = some guid) by
    split <;> exact this
  dsimp only [owned]
  split
  case isFalse => exact .inl ⟨rfl, rfl⟩
  next htakes =>
  refine .inr ⟨?_, ?_, setOwnerGuid_owner _⟩
  · have hsame : joined._ownerGUID = channel._ownerGUID ∧
        joined._isOwnerGM = channel._isOwnerGM := ⟨rfl, rfl⟩
    rw [hsame.1, hsame.2] at htakes
    grind
  · rw [setOwnerGuid_flag]
    have hinfo : joined.info guid = if joined.isConstantModerator player.accountId then
        pinfo.SetModerator true else pinfo :=
      info_of_find? ((find?_setInfo ..).trans (if_pos rfl))
    dsimp only
    rw [hinfo]
    split <;> rfl

theorem LeaveChannel_recorded : ((channel.LeaveChannel env guid)._isOwnerGM = channel._isOwnerGM ∧
        (channel.LeaveChannel env guid)._ownerGUID = channel._ownerGUID) ∨
      (channel.LeaveChannel env guid)._ownerGUID = none ∨
      ∃ owner, (channel.LeaveChannel env guid)._ownerGUID = some owner ∧
        (channel.LeaveChannel env guid)._isOwnerGM = (env.player owner).IsGMAccount := by
  unfold LeaveChannel
  split
  · exact .inl ⟨rfl, rfl⟩
  dsimp only
  split
  · split
    · exact .inr (.inl (setOwnerGuid_owner _))
    · next owner _ => exact .inr (.inr ⟨owner, setOwnerGuid_owner _, setOwnerGuid_flag _⟩)
  · exact .inl ⟨rfl, rfl⟩

theorem UnBan_unrecorded (badname : String) :
    Unrecorded channel (channel.UnBan env guid badname) none := by
  unfold UnBan
  split
  · exact .refl
  split
  · exact .refl
  split <;> exact ⟨rfl, .inl rfl⟩

theorem SetMode_unrecorded (p2n : String) (mod set : Bool) :
    Unrecorded channel (channel.SetMode env guid p2n mod set) none := by
  unfold SetMode
  dsimp only
  split
  · exact .refl
  split
  · exact .refl
  split
  · exact .refl
  split
  · exact .refl
  split
  · split <;> exact ⟨rfl, .inl rfl⟩
  · split <;> exact ⟨rfl, .inl rfl⟩

theorem Recorded.unrecorded {after : Channel} {new : Option ℕ} (hrecorded : channel.Recorded gm)
    (hafter : Unrecorded channel after new)
    (hnew : channel._isOwnerGM = true → ∀ owner, new = some owner → gm owner = true) :
    after.Recorded gm := by
  intro hflag owner howner
  rw [hafter.flag] at hflag
  obtain hsame | hsame := hafter.owner
  · exact hrecorded hflag owner (hsame ▸ howner)
  · exact hnew hflag owner (hsame ▸ howner)

theorem Recorded.perform (hrecorded : channel.Recorded gm) {op : ChannelOp}
    (hop : channel.HandedToGM gm op) : (channel.perform op).Recorded gm := by
  obtain ⟨env, guid, request⟩ := op
  obtain ⟨hlevels, hhands⟩ := hop
  cases request with
  | join pass =>
    intro hflag owner howner
    obtain ⟨hsame, hkept⟩ | ⟨-, hjoined, hnew⟩ := @JoinChannel_recorded channel env guid pass
    · exact hrecorded (hsame.symm.trans hflag) owner (hkept.symm.trans howner)
    · cases hnew.symm.trans howner
      exact (hlevels guid).symm.trans (hjoined.symm.trans hflag)
  | leave =>
    intro hflag owner howner
    obtain ⟨hsame, hkept⟩ | hnone | ⟨new, hnew, hlevel⟩ := @LeaveChannel_recorded channel env guid
    · exact hrecorded (hsame.symm.trans hflag) owner (hkept.symm.trans howner)
    · exact nomatch hnone.symm.trans howner
    · cases hnew.symm.trans howner
      exact (hlevels owner).symm.trans (hlevel.symm.trans hflag)
  | kickOrBan badname ban => exact hrecorded.unrecorded (KickOrBan_unrecorded badname ban) hhands
  | unBan badname => exact hrecorded.unrecorded (UnBan_unrecorded badname) fun _ _ => nofun
  | setMode p2n mod set =>
    exact hrecorded.unrecorded (SetMode_unrecorded p2n mod set) fun _ _ => nofun
  | setOwner newname => exact hrecorded.unrecorded (SetOwner_unrecorded newname) hhands

def Run (guard : Channel → ChannelOp → Prop) : Channel → Prop :=
  Reachable (fun channel => channel._ownerGUID = none)
    (guarded guard fun channel op after => after = channel.perform op)

theorem Run.foldl {guard : Channel → ChannelOp → Prop} (hrun : Run guard channel)
    (ops : List ChannelOp) (hguard : ∀ op ∈ ops, ∀ channel, guard channel op) :
    Run guard (ops.foldl perform channel) := by
  induction ops generalizing channel with
  | nil => exact hrun
  | cons op ops ih =>
    exact ih (hrun.step ⟨hguard op List.mem_cons_self channel, rfl⟩)
      fun other hother => hguard other (List.mem_cons_of_mem _ hother)

/-- Where the ownership is handed to game masters only while `_isOwnerGM` is set, nobody takes it
from another player by joining. -/
theorem join_spares_owner (hrun : Run (HandedToGM gm) channel)
    (hlevels : ∀ guid, (env.player guid).IsGMAccount = gm guid)
    (howner : channel._ownerGUID = some owner) (hplayer : (env.player owner).IsGMAccount = false)
    (pass : String) : (channel.JoinChannel env guid pass)._ownerGUID = some owner := by
  have hrecorded : channel.Recorded gm := by
    apply hrun.invariant
    · exact fun start hnone _ owner howner => nomatch hnone.symm.trans howner
    · rintro before op after hbefore ⟨hop, rfl⟩
      exact hbefore.perform hop
  obtain ⟨-, hkept⟩ | ⟨hnone | hflag, -⟩ := @JoinChannel_recorded channel env guid pass
  · exact hkept.trans howner
  · exact nomatch hnone.symm.trans howner
  · have hgm := hrecorded hflag owner howner
    rw [← hlevels, hplayer] at hgm
    exact nomatch hgm

def staffEnv : ChannelEnv :=
  { silentEnv with
    player := fun guid => ⟨"", guid, if guid = 3 then SEC_GAMEMASTER else (guid + 1) % 2, 0, 0⟩
    FindPlayerByName := fun name => if name = "Moderator" then some 2 else none }

def isStaffGM (guid : ℕ) : Bool := (staffEnv.player guid).IsGMAccount

theorem join_handedToGM (pass : String) :
    channel.HandedToGM isStaffGM ⟨staffEnv, guid, .join pass⟩ :=
  ⟨fun _ => rfl, fun _ _ => nofun⟩

/-- The first player who joins stays the owner. -/
theorem first_owner_stays :
    (([⟨staffEnv, 2, .join ""⟩, ⟨staffEnv, 3, .join ""⟩].foldl perform emptyChannel).JoinChannel
      staffEnv 4 "")._ownerGUID = some 2 := by
  have hrun : Run (HandedToGM isStaffGM) emptyChannel := .start rfl
  exact join_spares_owner (hrun.foldl [⟨staffEnv, 2, .join ""⟩, ⟨staffEnv, 3, .join ""⟩]
    (by simp [join_handedToGM])) (fun _ => rfl) (by decide +kernel) (by decide +kernel) ""

/-- A game master who got the channel because the first player left hands it to a moderator, and
the next player who joins takes it. -/
theorem moderator_loses_channel : ¬∀ (channel : Channel) (guid owner : ℕ) (pass : String),
      Run (fun _ op => ∀ guid, (op.env.player guid).IsGMAccount = isStaffGM guid) channel →
        channel._ownerGUID = some owner → isStaffGM owner = false →
          (channel.JoinChannel staffEnv guid pass)._ownerGUID = some owner := by
  intro hclaim
  have hrun : Run (fun _ op => ∀ guid, (op.env.player guid).IsGMAccount = isStaffGM guid)
      emptyChannel := .start rfl
  have howner := hclaim _ 4 2 "" (hrun.foldl
    [⟨staffEnv, 1, .join ""⟩, ⟨staffEnv, 2, .join ""⟩, ⟨staffEnv, 3, .join ""⟩,
      ⟨staffEnv, 1, .leave⟩, ⟨staffEnv, 3, .setOwner "Moderator"⟩]
    (by simp [isStaffGM])) (by decide +kernel) (by decide +kernel)
  exact absurd howner (by decide +kernel)

end AzerothCore.Chat.Channel
