import Isa100Gateway.SystemManager.KeyUtils
import Mathlib.Tactic.MkIffOfInductiveProp

/-!
# Lifetimes kept and lifetimes sent

Whether the times at which the manager lets a key expire are those that the device computes from the policy it is sent. The manager computes them from the session key lifetime of the settings, for all kinds of keys, and the policies come from other settings, or from the settings of another time.
-/

namespace Isa100Gateway.SystemManager.KeyUtils

structure SentPolicy where
  notValidBefore : Nat
  hardLifetime : Nat

def sentPolicy (policy : Policy) : SentPolicy where
  notValidBefore := (writtenPolicy policy).1.toNat * (getGranularityInSeconds policy).toNat
  hardLifetime := (writtenPolicy policy).2.toNat * (getGranularityInSeconds policy).toNat

def sentCompressed (policy : CompressedPolicy) : SentPolicy := ⟨0, policy.keyHardLifetime.toNat * 3600⟩

structure Handed (κ : Type) where
  key : κ
  createdAt : UInt32
  sent : SentPolicy

def Handed.start {κ : Type} (h : Handed κ) : Nat :=
  if h.sent.notValidBefore = 0 then h.createdAt.toNat else h.sent.notValidBefore

/-- The key kept expires softly after half of the lifetime sent, and for good after all of it. -/
def Handed.Expires {κ : Type} (h : Handed κ) (softLifeTime hardLifeTime : UInt32) : Prop :=
  softLifeTime.toNat = h.start + h.sent.hardLifetime / 2 ∧ hardLifeTime.toNat = h.start + h.sent.hardLifetime

def SessionAgrees (h : Handed PhySessionKey) : Prop := h.Expires h.key.softLifeTime h.key.hardLifeTime

def SpecialAgrees (h : Handed PhySpecialKey) : Prop := h.Expires h.key.softLifeTime h.key.hardLifeTime

/-- A key made for a join request that the engine has not answered, with the lifetime in the settings at that time. -/
structure JoinKey where
  key : PhySessionKey
  createdAt : UInt32
  keysHardLifeTime : UInt32

/-- The settings with which the manager was started and those loaded last, and all keys that have been made. -/
structure KeyBook where
  started : KeySettings
  settings : KeySettings
  joinKeys : List JoinKey
  sessionKeys : List (Handed PhySessionKey)
  masterKeys : List (Handed PhySpecialKey)
  backboneSubnetKeys : List (Handed PhySpecialKey)
  deviceSubnetKeys : List (Handed PhySpecialKey)

inductive KeyEvent
  | reload (settings : KeySettings)
  | joinRequest (currentTAI : UInt32) (generated : Key128) (managerAddress128 : List UInt8) (device : Address64)
  | joinResponse (n : Nat) (request : SecuritySymJoinRequest) (env : Surroundings)
  | newSession (currentTAI laterTAI peerTAI : UInt32) (generated : Key128) (source destination : Peer)
      (keyID sourceIndex destinationIndex : UInt16)
  | updateSessionKeys (n peer : Nat) (deviation currentTAI : UInt32) (generated : Key128)
      (keyID sourceIndex destinationIndex : UInt16)
  | updateMasterKey (n : Nat) (search : Search) (currentTAI : UInt32) (generated : Key128) (keyID : UInt8)
  | updateSubnetKey (n : Nat) (search : Search) (currentTAI : UInt32) (generated : Key128) (keyID : UInt8)
  | updateDeviceSubnetKey (n newest : Nat) (search : Search) (currentTAI : UInt32) (keyID : UInt8)

namespace KeyBook

def start (settings : KeySettings) : KeyBook := ⟨settings, settings, [], [], [], [], []⟩

/-- The timer makes a security manager of its own, a request of a device is served by the first one. -/
def searchSettings (s : KeyBook) : Search → KeySettings
  | .updateExpiringKeys _ => s.settings
  | .createNewSpecialKey => s.started

def markSession (h : Handed PhySessionKey) : Handed PhySessionKey :=
    { h with key := { h.key with markedAsExpiring := true } }

def markSpecial (h : Handed PhySpecialKey) : Handed PhySpecialKey :=
    { h with key := { h.key with markedAsExpiring := true } }

def isPeerKey (key peer : PhySessionKey) : Bool :=
  peer.destination.address64 = key.source.address64 ∧ peer.keyID = key.keyID ∧ peer.source.tsap = key.destination.tsap ∧
    peer.destination.tsap = key.source.tsap ∧ peer.markedAsExpiring = false

def findsSpecial (search : Search) (currentTAI : UInt32) (key : PhySpecialKey) : Bool :=
  search.finds currentTAI key.policy.keyHardLifetime key.softLifeTime key.markedAsExpiring

section Step

variable (E : Key128 → Block → Block)

/-- A successful join response brings the device its session, master and subnet keys; a refusal sends none. -/
def joinResponse (s : KeyBook) (n : Nat) (request : SecuritySymJoinRequest) (env : Surroundings) : Option KeyBook := do
  let joinKey ← s.joinKeys[n]?
  let item ← s.settings.getProvisioningForDevice request.eui64JoiningDevice
  let outcome ← securityJoinRequest E s.settings.toSettings s.started.policies request joinKey.key.key env
  let response ← outcome.answer.toOption
  let subnetKey := [⟨outcome.phySubnetKey, env.currentTAI, sentCompressed response.dlKeyPolicy⟩]
  some { s with
    joinKeys := s.joinKeys.eraseIdx n
    sessionKeys := s.sessionKeys ++ [⟨joinKey.key, joinKey.createdAt, sentCompressed response.sysMgrSessionKeyPolicy⟩]
    masterKeys := s.masterKeys ++ [⟨outcome.phyMasterKey, env.currentTAI, sentCompressed response.masterKeyPolicy⟩]
    backboneSubnetKeys := if item.deviceType = .backbone then s.backboneSubnetKeys ++ subnetKey else
      s.backboneSubnetKeys
    deviceSubnetKeys := if item.deviceType = .backbone then s.deviceSubnetKeys else s.deviceSubnetKeys ++ subnetKey }

/-- `processSecurityNewSessionRequest`: the two ends have the policy of the first, and lifetimes of their own. -/
def newSession (s : KeyBook) (currentTAI laterTAI peerTAI : UInt32) (generated : Key128) (source destination : Peer)
    (keyID sourceIndex destinationIndex : UInt16) : KeyBook :=
  let keyFrom := createSecurityKey s.settings s.started.policies currentTAI laterTAI generated source destination keyID
    sourceIndex
  let keyTo := getAsPhySessionKey s.settings peerTAI keyFrom.key destination source keyFrom.sessionKeyPolicy keyID
    destinationIndex
  { s with
    sessionKeys := s.sessionKeys ++
      [⟨keyFrom, laterTAI, sentPolicy keyFrom.sessionKeyPolicy⟩, ⟨keyTo, peerTAI, sentPolicy keyTo.sessionKeyPolicy⟩] }

def updateSessionKeys (s : KeyBook) (n peer : Nat) (deviation currentTAI : UInt32) (generated : Key128)
    (keyID sourceIndex destinationIndex : UInt16) : Option KeyBook := do
  let key ← s.sessionKeys[n]?
  let peerKey ← s.sessionKeys[peer]?
  if (Search.updateExpiringKeys deviation).finds currentTAI key.key.sessionKeyPolicy.keyHardLifetime
    key.key.softLifeTime
      key.key.markedAsExpiring && isPeerKey key.key peerKey.key then
    let newKeyTo := replaceSessionKey currentTAI s.settings peerKey.key keyID generated destinationIndex
    let newKeyFrom := replaceSessionKey currentTAI s.settings key.key keyID generated sourceIndex
    some { s with
      sessionKeys := (s.sessionKeys.modify n markSession).modify peer markSession ++
        [⟨newKeyTo, currentTAI, sentPolicy newKeyTo.sessionKeyPolicy⟩,
          ⟨newKeyFrom, currentTAI, sentPolicy newKeyFrom.sessionKeyPolicy⟩] }
  else none

def successor (s : KeyBook) (defaultPolicy : Policy) (currentTAI : UInt32) (generated : Key128) (keyID : UInt8) :
    Handed PhySpecialKey :=
  let key := newSpecialKey currentTAI s.settings defaultPolicy keyID generated
  ⟨key, currentTAI, sentPolicy key.policy⟩

def updateMasterKey (s : KeyBook) (n : Nat) (search : Search) (currentTAI : UInt32) (generated : Key128)
    (keyID : UInt8) :
    Option KeyBook := do
  let key ← s.masterKeys[n]?
  if findsSpecial search currentTAI key.key then
    some { s with
      masterKeys := s.masterKeys.modify n markSpecial ++
        [s.successor (s.searchSettings search).policies.defaultMasterPolicy currentTAI generated keyID] }
  else none

/-- The backbone's own search skips a marked key, an update for a device renews the newest key whether it is marked or not. -/
def updateSubnetKey (s : KeyBook) (n : Nat) (search : Search) (currentTAI : UInt32) (generated : Key128)
    (keyID : UInt8) : Option KeyBook := do
  let key ← s.backboneSubnetKeys[n]?
  if search.finds currentTAI key.key.policy.keyHardLifetime key.key.softLifeTime false then
    some { s with
      backboneSubnetKeys := s.backboneSubnetKeys.modify n markSpecial ++
        [s.successor (s.searchSettings search).policies.defaultSubnetPolicy currentTAI generated keyID] }
  else none

/-- The devices of the subnet get a copy of the backbone's key, under a key id of their own. -/
def updateDeviceSubnetKey (s : KeyBook) (n newest : Nat) (search : Search) (currentTAI : UInt32) (keyID : UInt8) :
    Option KeyBook := do
  let key ← s.deviceSubnetKeys[n]?
  let newestKey ← s.backboneSubnetKeys[newest]?
  if findsSpecial search currentTAI key.key then
    some { s with
      deviceSubnetKeys := s.deviceSubnetKeys.modify n markSpecial ++
        [{ newestKey with key := { newestKey.key with keyID }, sent := sentPolicy newestKey.key.policy }] }
  else none

def step (s : KeyBook) : KeyEvent → Option KeyBook
  | .reload settings => some { s with settings }
  | .joinRequest currentTAI generated managerAddress128 device =>
    some { s with
      joinKeys := s.joinKeys ++ [{
        key := createJoinKey s.settings s.started.policies currentTAI generated managerAddress128 device 0 1
        createdAt := currentTAI
        keysHardLifeTime := s.settings.keysHardLifeTime }] }
  | .joinResponse n request env => s.joinResponse E n request env
  | .newSession currentTAI laterTAI peerTAI generated source destination keyID sourceIndex destinationIndex =>
    some (s.newSession currentTAI laterTAI peerTAI generated source destination keyID sourceIndex destinationIndex)
  | .updateSessionKeys n peer deviation currentTAI generated keyID sourceIndex destinationIndex =>
    s.updateSessionKeys n peer deviation currentTAI generated keyID sourceIndex destinationIndex
  | .updateMasterKey n search currentTAI generated keyID => s.updateMasterKey n search currentTAI generated keyID
  | .updateSubnetKey n search currentTAI generated keyID => s.updateSubnetKey n search currentTAI generated keyID
  | .updateDeviceSubnetKey n newest search currentTAI keyID => s.updateDeviceSubnetKey n newest search currentTAI keyID

end Step

@[mk_iff]
structure Agree (s : KeyBook) : Prop where
  session : ∀ h ∈ s.sessionKeys, SessionAgrees h
  master : ∀ h ∈ s.masterKeys, SpecialAgrees h
  backbone : ∀ h ∈ s.backboneSubnetKeys, SpecialAgrees h
  device : ∀ h ∈ s.deviceSubnetKeys, SpecialAgrees h

end KeyBook

end Isa100Gateway.SystemManager.KeyUtils
