import Isa100Gateway.Crypto.AesCcm
import Isa100Gateway.Lib.Run
import Isa100Gateway.SystemManager.KeyAgreement

/-!
# Key lifetimes over the manager's runs

A step makes keys that agree with their policies exactly when it meets a condition on the settings and the clock, so all keys of a run agree exactly when every step meets it.
-/

namespace Isa100Gateway.SystemManager.KeyUtils

open List Option

namespace KeyBook

def sessionHours (s : KeyBook) : Nat := s.started.keysHardLifeTime.toNat % 2 ^ 16

/-- The session key of a join is told to last for ever when the transport layer does not encrypt. -/
def joinHours (s : KeyBook) : Nat := if s.settings.disableTLEncryption then 0 else s.sessionHours

def Meets (s : KeyBook) : KeyEvent → Prop
  | .joinResponse n request env =>
    (∀ joinKey ∈ s.joinKeys[n]?,
      Matches joinKey.keysHardLifeTime s.joinHours ∧ Ends joinKey.createdAt.toNat s.joinHours) ∧
    ∀ item ∈ s.settings.getProvisioningForDevice request.eui64JoiningDevice, SubnetJoinEnds s.started.policies item env
  | .newSession currentTAI laterTAI peerTAI _ _ _ _ _ _ =>
    Matches s.settings.keysHardLifeTime s.sessionHours ∧
      if currentTAI < 3600 then Ends laterTAI.toNat s.sessionHours ∧ Ends peerTAI.toNat s.sessionHours
      else Ends (hourStart currentTAI) s.sessionHours
  | .updateSessionKeys _ _ _ currentTAI _ _ _ _ =>
    Matches s.settings.keysHardLifeTime s.sessionHours ∧ Ends (hourStart currentTAI + 10800) s.sessionHours
  | .updateSubnetKey _ search currentTAI _ _ =>
    Matches s.settings.keysHardLifeTime (s.searchSettings search).subnetKeysHardLifeTime.toNat ∧
      Ends (hourStart currentTAI + 10800) (s.searchSettings search).subnetKeysHardLifeTime.toNat
  | .reload _ | .joinRequest _ _ _ _ | .updateMasterKey _ _ _ _ _ | .updateDeviceSubnetKey _ _ _ _ _ => True

structure Sound (s : KeyBook) : Prop where
  joinKey : ∀ j ∈ s.joinKeys, Hourly j.key.sessionKeyPolicy s.started.keysHardLifeTime ∧
    j.key.softLifeTime = j.createdAt + j.keysHardLifeTime * 3600 / 2 ∧
    j.key.hardLifeTime = j.createdAt + j.keysHardLifeTime * 3600
  session : ∀ h ∈ s.sessionKeys, Hourly h.key.sessionKeyPolicy s.started.keysHardLifeTime
  master : ∀ h ∈ s.masterKeys, h.key.policy.keyHardLifetime = 0
  backbone : ∀ h ∈ s.backboneSubnetKeys, h.sent = sentPolicy h.key.policy

theorem forall_mem_modify {α : Type*} {P : α → Prop} {f : α → α} (hf : ∀ x, P (f x) ↔ P x) (l : List α) (n : Nat) :
    (∀ x ∈ l.modify n f, P x) ↔ ∀ x ∈ l, P x := by
  induction l generalizing n with
  | nil => rw [modify_nil]
  | cons a l ih =>
    cases n with
    | zero => rw [modify_zero_cons, forall_mem_cons, forall_mem_cons, hf]
    | succ n => rw [modify_succ_cons, forall_mem_cons, forall_mem_cons, ih]

theorem forall_mem_marked {α : Type*} {P : α → Prop} {f : α → α} (hf : ∀ x, P (f x) ↔ P x) {l m : List α} {n : Nat} :
    (∀ x ∈ l.modify n f ++ m, P x) ↔ (∀ x ∈ l, P x) ∧ ∀ x ∈ m, P x := by
  rw [forall_mem_append, forall_mem_modify hf]

theorem sessionAgrees_mark (h : Handed PhySessionKey) : SessionAgrees (markSession h) ↔ SessionAgrees h := Iff.rfl

theorem specialAgrees_mark (h : Handed PhySpecialKey) : SpecialAgrees (markSpecial h) ↔ SpecialAgrees h := Iff.rfl

theorem hourly_newSessionPolicy (settings : KeySettings) (currentTAI : UInt32) :
    Hourly (newSessionPolicy settings.policies currentTAI) settings.keysHardLifeTime := ⟨rfl, rfl⟩

theorem toNat_newSessionPolicy (settings : KeySettings) (currentTAI : UInt32) :
    (newSessionPolicy settings.policies currentTAI).notValidBefore.toNat = hourStart currentTAI :=
  toNat_sub_mod_hour currentTAI

theorem newSessionPolicy_eq_zero_iff (settings : KeySettings) (currentTAI : UInt32) :
    (newSessionPolicy settings.policies currentTAI).notValidBefore = 0 ↔ currentTAI < 3600 := by
  rw [← UInt32.toNat_inj, toNat_newSessionPolicy, UInt32.lt_iff_toNat_lt, hourStart]
  change currentTAI.toNat - currentTAI.toNat % 3600 = 0 ↔ currentTAI.toNat < 3600
  omega

theorem newSession_agrees_iff (settings now : KeySettings) (currentTAI x : UInt32) (securityKey : Key128)
    (source destination : Peer) (keyID index : UInt16) :
    SessionAgrees ⟨getAsPhySessionKey now x securityKey source destination
        (newSessionPolicy settings.policies currentTAI) keyID index, x,
          sentPolicy (newSessionPolicy settings.policies currentTAI)⟩ ↔
      Matches now.keysHardLifeTime (settings.keysHardLifeTime.toNat % 2 ^ 16) ∧
        Ends (if currentTAI < 3600 then x.toNat else hourStart currentTAI)
          (settings.keysHardLifeTime.toNat % 2 ^ 16) := by
  rw [session_agrees_iff (hourly_newSessionPolicy settings currentTAI), toNat_newSessionPolicy]
  · simp only [newSessionPolicy_eq_zero_iff]
  · rw [toNat_newSessionPolicy, hourStart]
    omega

theorem subnetHours (settings : KeySettings) :
    settings.subnetKeysHardLifeTime.toUInt32.toNat % 2 ^ 16 = settings.subnetKeysHardLifeTime.toNat := by
  rw [UInt16.toNat_toUInt32]
  exact Nat.mod_eq_of_lt settings.subnetKeysHardLifeTime.toNat_lt

theorem hourly_defaultSubnetPolicy (settings : KeySettings) :
    Hourly settings.policies.defaultSubnetPolicy settings.subnetKeysHardLifeTime.toUInt32 := ⟨rfl, rfl⟩

theorem sentPolicy_subnet (settings : KeySettings) :
    sentPolicy settings.policies.defaultSubnetPolicy = sentCompressed settings.policies.dlKeyPolicy := by
  have hzero : settings.policies.defaultSubnetPolicy.notValidBefore = 0 := rfl
  rw [sentPolicy_hourly (hourly_defaultSubnetPolicy settings), subnetHours, hzero]
  rfl

theorem successor_agrees_iff (s : KeyBook) (settings : KeySettings) (currentTAI : UInt32) (generated : Key128)
    (keyID : UInt8) :
    SpecialAgrees (s.successor settings.policies.defaultSubnetPolicy currentTAI generated keyID) ↔
      Matches s.settings.keysHardLifeTime settings.subnetKeysHardLifeTime.toNat ∧
        Ends (hourStart currentTAI + 10800) settings.subnetKeysHardLifeTime.toNat := by
  rw [← subnetHours]
  exact next_hours_agrees_iff _ s.settings currentTAI (hourly_defaultSubnetPolicy settings)

theorem replaced_agrees_iff (now : KeySettings) (currentTAI : UInt32) {lifetime : UInt32} {old : PhySessionKey}
    (keyID index : UInt16)
    (generated : Key128) (h : Hourly old.sessionKeyPolicy lifetime) :
    SessionAgrees ⟨replaceSessionKey currentTAI now old keyID generated index, currentTAI,
        sentPolicy (replaceSessionKey currentTAI now old keyID generated index).sessionKeyPolicy⟩ ↔
      Matches now.keysHardLifeTime (lifetime.toNat % 2 ^ 16) ∧ Ends (hourStart currentTAI + 10800)
        (lifetime.toNat % 2 ^ 16) := by
  unfold SessionAgrees replaceSessionKey updateKey
  rw [getGranularityInSeconds_hourly h.1, getOffsetInSeconds_hourly h.1]
  exact next_hours_agrees_iff _ now currentTAI h

/-! ## One step -/

section Step

variable {E : Key128 → Block → Block} {s s' : KeyBook}

section

variable (hsound : s.Sound)
include hsound

theorem agree_joinResponse {n : Nat} {request : SecuritySymJoinRequest} {env : Surroundings}
    (h : s.joinResponse E n request env = some s') :
    s'.Sound ∧ (s'.Agree ↔ s.Agree ∧ s.Meets (.joinResponse n request env)) := by
  obtain ⟨joinKey, hjoin, h⟩ := bind_eq_some_iff.mp h
  obtain ⟨item, hitem, h⟩ := bind_eq_some_iff.mp h
  obtain ⟨outcome, houtcome, h⟩ := bind_eq_some_iff.mp h
  obtain ⟨response, hanswer, h⟩ := bind_eq_some_iff.mp h
  cases h
  obtain ⟨phySubnetKey, dlPolicy, hsubnet, hresponse⟩ := securityJoinRequest_ok hitem houtcome hanswer
  have hsent := responds_of_joinResponse hresponse hanswer
  obtain ⟨hhourly, hsoft, hhard⟩ := hsound.joinKey joinKey (mem_of_getElem? hjoin)
  have hsession : SessionAgrees ⟨joinKey.key, joinKey.createdAt, sentCompressed response.sysMgrSessionKeyPolicy⟩ ↔
      Matches joinKey.keysHardLifeTime s.joinHours ∧ Ends joinKey.createdAt.toNat s.joinHours := by
    have hhours : response.sysMgrSessionKeyPolicy.keyHardLifetime.toNat = s.joinHours := by
      rw [hsent.sessionPolicy, joinHours]
      split <;> rfl
    rw [SessionAgrees, hsoft, hhard, ← hhours]
    exact compressed_agrees_iff
  have hmaster : SpecialAgrees ⟨outcome.phyMasterKey, env.currentTAI, sentCompressed response.masterKeyPolicy⟩ := by
    rw [SpecialAgrees, hsent.masterSoft, hsent.masterHard, hsent.masterPolicy]
    exact own_agrees_iff.mpr env.currentTAI.toNat_lt
  have hdl : SpecialAgrees ⟨outcome.phySubnetKey, env.currentTAI, sentCompressed response.dlKeyPolicy⟩ ↔
      SubnetJoinEnds s.started.policies item env := by
    rw [hsent.subnetKey, hsent.subnetPolicy]
    exact joinSubnetKey_agrees_iff hsubnet
  have hmeets : s.Meets (.joinResponse n request env) ↔
      (Matches joinKey.keysHardLifeTime s.joinHours ∧ Ends joinKey.createdAt.toNat s.joinHours) ∧
        SubnetJoinEnds s.started.policies item env := by
    rw [Meets, hjoin, hitem]
    simp only [mem_some, forall_eq']
  constructor
  · constructor
    · exact fun j hj => hsound.joinKey j (mem_of_mem_eraseIdx hj)
    · rw [forall_mem_append, forall_mem_singleton]
      exact ⟨hsound.session, hhourly⟩
    · rw [forall_mem_append, forall_mem_singleton]
      exact ⟨hsound.master, congrArg Policy.keyHardLifetime hsent.masterKey⟩
    · dsimp only
      split
      next hbackbone =>
        rw [forall_mem_append, forall_mem_singleton]
        obtain ⟨hpolicy, hdlPolicy⟩ := joinSubnetKey_backbone hsubnet hbackbone
        refine ⟨hsound.backbone, ?_⟩
        rw [hsent.subnetKey, hsent.subnetPolicy, hpolicy, hdlPolicy]
        exact (sentPolicy_subnet s.started).symm
      next => exact hsound.backbone
  · rw [agree_iff, agree_iff, hmeets, ← hsession, ← hdl, forall_mem_append, forall_mem_singleton,
      forall_mem_append, forall_mem_singleton, and_iff_left hmaster]
    split
    · rw [forall_mem_append, forall_mem_singleton]
      tauto
    · rw [forall_mem_append, forall_mem_singleton]
      tauto

theorem agree_newSession (currentTAI laterTAI peerTAI : UInt32) (generated : Key128)
    (source destination : Peer) (keyID sourceIndex destinationIndex : UInt16) :
    let e := KeyEvent.newSession currentTAI laterTAI peerTAI generated source destination keyID sourceIndex
      destinationIndex
    let s' := s.newSession currentTAI laterTAI peerTAI generated source destination keyID sourceIndex destinationIndex
    s'.Sound ∧ (s'.Agree ↔ s.Agree ∧ s.Meets e) := by
  have hhourly := hourly_newSessionPolicy s.started currentTAI
  have hfrom := newSession_agrees_iff s.started s.settings currentTAI laterTAI
    (sessionKeyValue s.settings generated) source
    destination keyID sourceIndex
  have hto := newSession_agrees_iff s.started s.settings currentTAI peerTAI
    (sessionKeyValue s.settings generated) destination
    source keyID destinationIndex
  constructor
  · refine ⟨hsound.joinKey, ?_, hsound.master, hsound.backbone⟩
    rw [newSession, forall_mem_append, forall_mem_cons, forall_mem_singleton]
    exact ⟨hsound.session, hhourly, hhourly⟩
  · have hmeets : s.Meets (.newSession currentTAI laterTAI peerTAI generated source destination keyID sourceIndex
        destinationIndex) ↔ (Matches s.settings.keysHardLifeTime s.sessionHours ∧
          Ends (if currentTAI < 3600 then laterTAI.toNat else hourStart currentTAI) s.sessionHours) ∧
        Matches s.settings.keysHardLifeTime s.sessionHours ∧
          Ends (if currentTAI < 3600 then peerTAI.toNat else hourStart currentTAI) s.sessionHours := by
      rw [Meets]
      split <;> tauto
    rw [agree_iff, agree_iff, newSession, forall_mem_append, forall_mem_cons, forall_mem_singleton]
    rw [hmeets]
    constructor
    · rintro ⟨⟨hold, hnewFrom, hnewTo⟩, hrest⟩
      exact ⟨⟨hold, hrest⟩, hfrom.mp hnewFrom, hto.mp hnewTo⟩
    · rintro ⟨⟨hold, hrest⟩, hmeetsFrom, hmeetsTo⟩
      exact ⟨⟨hold, hfrom.mpr hmeetsFrom, hto.mpr hmeetsTo⟩, hrest⟩

theorem agree_updateSessionKeys {n peer : Nat} {deviation currentTAI : UInt32} {generated : Key128}
    {keyID sourceIndex destinationIndex : UInt16}
    (h : s.updateSessionKeys n peer deviation currentTAI generated keyID sourceIndex destinationIndex = some s') :
    s'.Sound ∧ (s'.Agree ↔
      s.Agree ∧ s.Meets (.updateSessionKeys n peer deviation currentTAI generated keyID sourceIndex
        destinationIndex)) := by
  obtain ⟨key, hkey, h⟩ := bind_eq_some_iff.mp h
  obtain ⟨peerKey, hpeer, h⟩ := bind_eq_some_iff.mp h
  have hhourly := hsound.session key (mem_of_getElem? hkey)
  have hpeerHourly := hsound.session peerKey (mem_of_getElem? hpeer)
  split at h
  · cases h
    have hfrom := replaced_agrees_iff s.settings currentTAI keyID sourceIndex generated hhourly
    have hto := replaced_agrees_iff s.settings currentTAI keyID destinationIndex generated hpeerHourly
    constructor
    · refine ⟨hsound.joinKey, ?_, hsound.master, hsound.backbone⟩
      have hmark : ∀ x, Hourly (markSession x).key.sessionKeyPolicy s.started.keysHardLifeTime ↔
          Hourly x.key.sessionKeyPolicy s.started.keysHardLifeTime := fun _ => Iff.rfl
      rw [forall_mem_marked hmark, forall_mem_modify hmark, forall_mem_cons, forall_mem_singleton]
      exact ⟨hsound.session, hpeerHourly, hhourly⟩
    · rw [agree_iff, agree_iff, forall_mem_marked sessionAgrees_mark, forall_mem_modify sessionAgrees_mark,
        forall_mem_cons, forall_mem_singleton]
      constructor
      · rintro ⟨⟨hold, hnewTo, -⟩, hrest⟩
        exact ⟨⟨hold, hrest⟩, hto.mp hnewTo⟩
      · rintro ⟨⟨hold, hrest⟩, hmeets⟩
        exact ⟨⟨hold, hto.mpr hmeets, hfrom.mpr hmeets⟩, hrest⟩
  · cases h

theorem updateMasterKey_eq_none (n : Nat) (search : Search) (currentTAI : UInt32) (generated : Key128)
    (keyID : UInt8) : s.updateMasterKey n search currentTAI generated keyID = none := by
  rw [updateMasterKey, bind_eq_bind, bind_eq_none_iff]
  intro key hkey
  have hlifetime := hsound.master key (mem_of_getElem? hkey)
  have hnever : findsSpecial search currentTAI key.key = false := by
    rw [findsSpecial, hlifetime]
    exact Search.finds_nonexpiring search _ _ _
  rw [hnever]
  rfl

theorem agree_updateSubnetKey {n : Nat} {search : Search} {currentTAI : UInt32} {generated : Key128}
    {keyID : UInt8} (h : s.updateSubnetKey n search currentTAI generated keyID = some s') :
    s'.Sound ∧ (s'.Agree ↔ s.Agree ∧ s.Meets (.updateSubnetKey n search currentTAI generated keyID)) := by
  obtain ⟨key, -, h⟩ := bind_eq_some_iff.mp h
  split at h
  · cases h
    constructor
    · refine ⟨hsound.joinKey, hsound.session, hsound.master, ?_⟩
      have hmark : ∀ x, (markSpecial x).sent = sentPolicy (markSpecial x).key.policy ↔ x.sent =
        sentPolicy x.key.policy :=
        fun _ => Iff.rfl
      rw [forall_mem_marked hmark, forall_mem_singleton]
      exact ⟨hsound.backbone, rfl⟩
    · rw [agree_iff, agree_iff, forall_mem_marked specialAgrees_mark, forall_mem_singleton, successor_agrees_iff, Meets]
      tauto
  · cases h

theorem agree_updateDeviceSubnetKey {n newest : Nat} {search : Search} {currentTAI : UInt32} {keyID : UInt8}
    (h : s.updateDeviceSubnetKey n newest search currentTAI keyID = some s') :
    s'.Sound ∧ (s'.Agree ↔ s.Agree) := by
  obtain ⟨key, -, h⟩ := bind_eq_some_iff.mp h
  obtain ⟨newestKey, hnewest, h⟩ := bind_eq_some_iff.mp h
  have hmem := mem_of_getElem? hnewest
  split at h
  · cases h
    have hcopy : SpecialAgrees { newestKey with
        key := { newestKey.key with keyID }, sent := sentPolicy newestKey.key.policy } ↔ SpecialAgrees newestKey := by
      rw [← hsound.backbone newestKey hmem]
      rfl
    refine ⟨⟨hsound.joinKey, hsound.session, hsound.master, hsound.backbone⟩, ?_⟩
    rw [agree_iff, agree_iff, forall_mem_marked specialAgrees_mark, forall_mem_singleton, hcopy]
    constructor
    · rintro ⟨hsession, hmaster, hbackbone, hdevice, -⟩
      exact ⟨hsession, hmaster, hbackbone, hdevice⟩
    · rintro ⟨hsession, hmaster, hbackbone, hdevice⟩
      exact ⟨hsession, hmaster, hbackbone, hdevice, hbackbone newestKey hmem⟩
  · cases h

theorem step_agree {e : KeyEvent} (h : step E s e = some s') : s'.Sound ∧ (s'.Agree ↔ s.Agree ∧ s.Meets e) := by
  cases e with
  | reload settings =>
    cases h
    exact ⟨⟨hsound.joinKey, hsound.session, hsound.master, hsound.backbone⟩,
      fun hagree => ⟨⟨hagree.session, hagree.master, hagree.backbone, hagree.device⟩, trivial⟩,
      fun hagree => ⟨hagree.1.session, hagree.1.master, hagree.1.backbone, hagree.1.device⟩⟩
  | joinRequest currentTAI generated managerAddress128 device =>
    cases h
    refine ⟨⟨?_, hsound.session, hsound.master, hsound.backbone⟩,
      fun hagree => ⟨⟨hagree.session, hagree.master, hagree.backbone, hagree.device⟩, trivial⟩,
      fun hagree => ⟨hagree.1.session, hagree.1.master, hagree.1.backbone, hagree.1.device⟩⟩
    rw [forall_mem_append, forall_mem_singleton]
    exact ⟨hsound.joinKey, ⟨rfl, rfl⟩, rfl, rfl⟩
  | joinResponse n request env => exact agree_joinResponse hsound h
  | newSession currentTAI laterTAI peerTAI generated source destination keyID sourceIndex destinationIndex =>
    cases h
    exact agree_newSession hsound currentTAI laterTAI peerTAI generated source destination keyID sourceIndex
      destinationIndex
  | updateSessionKeys n peer deviation currentTAI generated keyID sourceIndex destinationIndex =>
    exact agree_updateSessionKeys hsound h
  | updateMasterKey n search currentTAI generated keyID =>
    rw [step, updateMasterKey_eq_none hsound] at h
    cases h
  | updateSubnetKey n search currentTAI generated keyID => exact agree_updateSubnetKey hsound h
  | updateDeviceSubnetKey n newest search currentTAI keyID =>
    obtain ⟨hnext, hagree⟩ := agree_updateDeviceSubnetKey hsound h
    exact ⟨hnext, hagree.trans (and_iff_left trivial).symm⟩

theorem runs_agree_iff {es : List KeyEvent} (hrun : Machine.runs (step E) s es = some s') :
    s'.Agree ↔ s.Agree ∧ Machine.AllAlong Meets (step E) s es := by
  induction es generalizing s with
  | nil =>
    cases hrun
    exact (and_iff_left trivial).symm
  | cons e es ih =>
    obtain ⟨s₁, hs₁, hrest⟩ := bind_eq_some_iff.mp hrun
    obtain ⟨hnext, hagree⟩ := step_agree hsound hs₁
    have halong : Machine.AllAlong Meets (step E) s (e :: es) ↔ s.Meets e ∧ Machine.AllAlong Meets (step E) s₁ es := by
      rw [Machine.AllAlong, hs₁]
      simp only [mem_some, forall_eq']
    calc s'.Agree
        ↔ s₁.Agree ∧ Machine.AllAlong Meets (step E) s₁ es := ih hnext hrest
      _ ↔ (s.Agree ∧ s.Meets e) ∧ Machine.AllAlong Meets (step E) s₁ es := by rw [hagree]
      _ ↔ s.Agree ∧ Machine.AllAlong Meets (step E) s (e :: es) := by rw [halong, and_assoc]

end

theorem sound_start (settings : KeySettings) : (start settings).Sound := ⟨nofun, nofun, nofun, nofun⟩

theorem agree_start (settings : KeySettings) : (start settings).Agree := ⟨nofun, nofun, nofun, nofun⟩

/-- All keys that a run makes agree with the policies sent for them exactly when every step of the run meets its condition. -/
theorem lifetimes_agree_iff (settings : KeySettings) (es : List KeyEvent)
    (hrun : Machine.runs (step E) (start settings) es = some s) :
    s.Agree ↔ Machine.AllAlong Meets (step E) (start settings) es := by
  rw [runs_agree_iff (sound_start settings) hrun]
  exact and_iff_right (agree_start settings)

end Step

def backboneEui64 : Address64 := #v[0, 0, 0, 0, 0, 0, 0, 9]

def shippedSettings : KeySettings :=
  .parse {
    managerAddress64 := Vector.replicate 8 1
    provisioningKeys := [⟨Vector.replicate 16 3, 1, .backbone, backboneEui64, backboneEui64⟩]
    disableAuthentication := false
    disableTLEncryption := false } 1776 1164

def backboneRun : List KeyEvent :=
  [.joinRequest 2000000000 (Vector.replicate 16 4) (replicate 16 1) backboneEui64,
    .joinResponse 0 ⟨backboneEui64, Vector.replicate 16 5, 0, 1, 0x015B2BC5⟩
      ⟨1, 2000000000, Vector.replicate 16 6, none⟩,
    .updateSubnetKey 0 (.updateExpiringKeys 2400) 2002095000 (Vector.replicate 16 7) 1]

def backboneStep : KeyBook → KeyEvent → Option KeyBook := step fun key plain =>
    Block.ofList (rijndaelEncrypt key plain.toList)

theorem backbone_run_agrees_iff : ∃ s, Machine.runs backboneStep (start shippedSettings) backboneRun = some s ∧
    (s.Agree ↔ Machine.AllAlong Meets backboneStep (start shippedSettings) backboneRun) := by
  obtain ⟨s, hrun⟩ := isSome_iff_exists.mp
    (show (Machine.runs backboneStep (start shippedSettings) backboneRun).isSome by decide +kernel)
  exact ⟨s, hrun, lifetimes_agree_iff shippedSettings backboneRun hrun⟩

/-- The successor of the subnet key is kept for the lifetime of a session. -/
theorem backbone_key_outlives_device : ¬ ∀ (E : Key128 → Block → Block) (settings : KeySettings) (es : List KeyEvent)
    (s : KeyBook), Machine.runs (step E) (start settings) es = some s → s.Agree := by
  intro hall
  obtain ⟨s, hrun, h, hmem, hdiffers⟩ :
      ∃ s ∈ Machine.runs backboneStep (start shippedSettings) backboneRun, ∃ h ∈ s.backboneSubnetKeys,
        h.key.hardLifeTime.toNat ≠ h.start + h.sent.hardLifetime := by decide +kernel
  exact hdiffers ((hall _ _ _ s hrun).backbone h hmem).2

end KeyBook

end Isa100Gateway.SystemManager.KeyUtils
