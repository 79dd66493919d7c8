import Isa100Gateway.Crypto.JoinHash
import Isa100Gateway.Lib.Run
import Isa100Gateway.Lib.Table

/-!
# Security join (`SecurityManager.cpp`, `PSMO.cpp`)

A join request is checked for its provisioning and its challenge, then handed to the network engine; the engine's answer starts the rest of the validation, and a confirm compares a hash over the stored challenges. The engine answers in a step of its own and may change the devices, and with them the stack's keys, at any time.
-/

namespace Isa100Gateway.SystemManager

inductive ProvisioningDeviceType
  | notSet | inOut | router | routerIo | backbone | gateway | manager | securityManager | timeSource | provisioning
  deriving DecidableEq

structure ProvisioningItem where
  key : Key128
  subnetId : UInt16
  deviceType : ProvisioningDeviceType
  ipFirst : Address64
  ipLast : Address64

structure Settings where
  managerAddress64 : Address64
  provisioningKeys : List ProvisioningItem
  disableAuthentication : Bool
  disableTLEncryption : Bool

/-- The comparison of `getProvisioningForDevice`, with `memcmp` on the bytes. -/
def ProvisioningItem.covers (item : ProvisioningItem) (address : Address64) : Bool :=
  item.ipFirst = address ∨ item.ipLast = address ∨ item.ipFirst.toList < address.toList ∧ address.toList <
    item.ipLast.toList

def Settings.getProvisioningForDevice (settings : Settings) (address : Address64) : Option ProvisioningItem :=
  settings.provisioningKeys.find? fun item => item.covers address

structure CompressedPolicy where
  keyHardLifetime : UInt16

structure Policy where
  granularity : UInt8
  keyUsage : UInt8
  keyType : UInt8
  notValidBefore : UInt32
  keyHardLifetime : UInt32
  policyPolicy : UInt8

def Policy.initial : Policy := ⟨2, 0, 0, 0, 0, 0⟩

structure PhySpecialKey where
  keyID : UInt8
  key : Key128
  policy : Policy
  softLifeTime : UInt32
  hardLifeTime : UInt32
  markedAsExpiring : Bool

def PhySpecialKey.initial : PhySpecialKey := ⟨0, Vector.replicate 16 0, .initial, 0, 0, false⟩

structure PhySessionKey where
  keyID : UInt16
  key : Key128
  sessionKeyPolicy : Policy

structure Attribute (α : Type) where
  currentValue : Option α
  isPending : Bool

inductive KeyEntity
  | sessionKey | masterKey | subnetKey

def KeyEntity.code : KeyEntity → UInt64
  | .sessionKey => 12
  | .masterKey => 38
  | .subnetKey => 39

abbrev EntityIndex := UInt64

def createEntityIndex (deviceAddress : UInt32) (entityType : KeyEntity) (index : UInt16) : EntityIndex :=
  (deviceAddress.toUInt64 <<< 16 ||| entityType.code) <<< 16 ||| index.toUInt64

structure Device where
  address64 : Address64
  address128 : List UInt8
  sessionKeysTable : AList fun _ : EntityIndex => Attribute PhySessionKey
  masterKeysTable : AList fun _ : EntityIndex => Attribute PhySpecialKey
  subnetKeysTable : AList fun _ : EntityIndex => Attribute PhySpecialKey

def Device.createMasterKey (d : Device) (index : EntityIndex) (key : PhySpecialKey) : Device :=
  { d with masterKeysTable := d.masterKeysTable.insert index ⟨some key, false⟩ }

def Device.createSubnetKey (d : Device) (index : EntityIndex) (key : PhySpecialKey) : Device :=
  { d with subnetKeysTable := d.subnetKeysTable.insert index ⟨some key, false⟩ }

structure Policies where
  masterPolicy : CompressedPolicy
  dlKeyPolicy : CompressedPolicy
  sysMgrSessionKeyPolicy : CompressedPolicy
  defaultSessionPolicy : Policy
  defaultMasterPolicy : Policy
  defaultSubnetPolicy : Policy

structure SecuritySymJoinRequest where
  eui64JoiningDevice : Address64
  bitChallengeFromNewDevice : Block
  keyInfoFromNewDevice : UInt8
  algorithmIdentifier : UInt8
  mic : UInt32

structure SecuritySymJoinResponse where
  bitChallengeFromSystemManager : Block
  bitChallengeResponseToNewDevice : Block
  masterKeyPolicy : CompressedPolicy
  dlKeyPolicy : CompressedPolicy
  sysMgrSessionKeyPolicy : CompressedPolicy
  dlKeyID : UInt8
  encryptedDLKey : Block
  encryptedSysMgrSessionKey : Block

inductive SecurityJoinFailureReason
  | badJoinKey | subnetNotFound | backboneNotFound | dlKeyNotFound | unprovisionedDevice | invalidAesAlg

inductive ResponseStatus
  | success | fail | requestDiscarded | refusedInsufficientResources | inappropriateProcessMode

structure SetKeyRequest where
  peerIPv6Address : List UInt8
  udpSPort : UInt16
  udpDPort : UInt16
  keyID : UInt8
  key : Key128
  issuerEUI64 : Address64
  validNotBefore : UInt32
  softLifetime : UInt32
  hardLifetime : UInt32
  type : UInt8
  policy : UInt8

structure PreviousChallenges where
  previousChallenge1 : Block
  previousChallenge2 : Block
  deriving DecidableEq

def PreviousChallenges.used (c : PreviousChallenges) (challenge : Block) : Bool :=
  (List.finRange 16).all fun i =>
    c.previousChallenge1[i] = challenge[i] ∨ c.previousChallenge2[i] = challenge[i]

abbrev JoinRequestChallenges := AList fun _ : Address64 => PreviousChallenges

def recordChallenge (challenges : JoinRequestChallenges) (request : SecuritySymJoinRequest) : JoinRequestChallenges :=
  challenges.insert request.eui64JoiningDevice {
    previousChallenge1 := request.bitChallengeFromNewDevice
    previousChallenge2 := ((challenges.lookup request.eui64JoiningDevice).map (·.previousChallenge1)).getD
      (Vector.replicate 16 0) }

def checkChallenge (challenges : JoinRequestChallenges) (request : SecuritySymJoinRequest) :
    Option JoinRequestChallenges :=
  match challenges.lookup request.eui64JoiningDevice with
  | some previous =>
    if previous.used request.bitChallengeFromNewDevice then none else some (recordChallenge challenges request)
  | none => some (recordChallenge challenges request)

section Cipher

variable (E : Key128 → Block → Block)

def networkBytes (x : UInt32) : List UInt8 :=
  [(x >>> 24).toUInt8, (x >>> 16).toUInt8, (x >>> 8).toUInt8, x.toUInt8]

def SecuritySymJoinRequest.authBuffer (request : SecuritySymJoinRequest) : List UInt8 :=
  request.eui64JoiningDevice.toList ++ request.bitChallengeFromNewDevice.toList ++
    [request.keyInfoFromNewDevice, request.algorithmIdentifier]

def validateJoinRequestMIC (request : SecuritySymJoinRequest) (joinKey : Key128) : Bool :=
  (ccm2.checkAuthDecrypt E (some joinKey) (some request.bitChallengeFromNewDevice.toList)
    (some request.authBuffer) 26 (some (networkBytes request.mic)) 4 true).any fun result => result.2.1

/-- What `SecurityJoinRequest` reads besides its arguments: the next challenge, the clock, a fresh subnet key, and the subnet with the subnet keys of its backbone. -/
structure Surroundings where
  nextChallenge : UInt32
  currentTAI : UInt32
  generatedSubnetKey : Key128
  subnet : Option (Option (List (Attribute PhySpecialKey)))

def getNewestActiveSubnetKey (currentTAI : UInt32) : List (Attribute PhySpecialKey) → Option PhySpecialKey
  | [] => none
  | first :: rest =>
    rest.foldl (fun newestKey entry =>
      match entry.currentValue with
      | none => newestKey
      | some key =>
        let newest := newestKey.getD key
        if newest.hardLifeTime < key.hardLifeTime ∧ newest.policy.notValidBefore ≤ currentTAI ∧
          entry.isPending = false then some key else some newest) first.currentValue

/-- Lengthens the lifetime until it passes that of the backbone's key; `none` when no lifetime does. -/
def lengthenLifetime (currentTAI hardLifeTime : UInt32) : Nat → UInt16 → Option UInt16
  | 0, _ => none
  | fuel + 1, hours =>
    if currentTAI + hours.toUInt32 * 3600 ≤ hardLifeTime then lengthenLifetime currentTAI hardLifeTime fuel (hours + 1)
    else some hours

def joinSubnetKey (policies : Policies) (item : ProvisioningItem) (env : Surroundings) :
    Option (Except SecurityJoinFailureReason (PhySpecialKey × CompressedPolicy)) :=
  match item.deviceType with
  | .gateway =>
    some (.ok ({ PhySpecialKey.initial with policy :=
      { policies.defaultSubnetPolicy with keyHardLifetime := 0 } }, ⟨0⟩))
  | .backbone =>
    let lifetime := policies.dlKeyPolicy.keyHardLifetime.toUInt32 * 3600
    some (.ok ({
      keyID := 0
      key := env.generatedSubnetKey
      policy := policies.defaultSubnetPolicy
      softLifeTime := env.currentTAI + lifetime / 2
      hardLifeTime := env.currentTAI + lifetime
      markedAsExpiring := false }, policies.dlKeyPolicy))
  | _ =>
    match env.subnet with
    | none => some (.error .subnetNotFound)
    | some none => some (.error .backboneNotFound)
    | some (some keys) =>
      match getNewestActiveSubnetKey env.currentTAI keys with
      | none => some (.error .dlKeyNotFound)
      | some newestKey => do
        let hours ← lengthenLifetime env.currentTAI newestKey.hardLifeTime 65536
          ((newestKey.hardLifeTime - env.currentTAI) / 3600).toUInt16
        let lifetime := hours.toUInt32 * 3600
        some (.ok ({
          keyID := newestKey.keyID
          key := newestKey.key
          policy := policies.defaultSubnetPolicy
          softLifeTime := env.currentTAI + lifetime / 2
          hardLifeTime := env.currentTAI + lifetime
          markedAsExpiring := false }, ⟨hours⟩))

def managerChallenge (challenge : UInt32) : Block :=
  Block.ofList [challenge.toUInt8, (challenge >>> 8).toUInt8, (challenge >>> 16).toUInt8, (challenge >>> 24).toUInt8]

def generateMasterKey (settings : Settings) (request : SecuritySymJoinRequest) (challenge : Block) (joinKey : Key128) :
    Key128 :=
  hmackJoin E (request.bitChallengeFromNewDevice.toList ++ challenge.toList ++ request.eui64JoiningDevice.toList ++
    settings.managerAddress64.toList) joinKey

def CompressedPolicy.bytes (policy : CompressedPolicy) : List UInt8 :=
  [(policy.keyHardLifetime >>> 8).toUInt8, policy.keyHardLifetime.toUInt8]

def getHashInputString (settings : Settings) (request : SecuritySymJoinRequest) (response : SecuritySymJoinResponse) :
    List UInt8 :=
  response.bitChallengeFromSystemManager.toList ++ request.bitChallengeFromNewDevice.toList ++
    request.eui64JoiningDevice.toList ++ settings.managerAddress64.toList ++ response.masterKeyPolicy.bytes ++
    response.dlKeyPolicy.bytes ++ response.sysMgrSessionKeyPolicy.bytes ++ response.encryptedDLKey.toList ++
    response.encryptedSysMgrSessionKey.toList

structure JoinOutcome where
  phyMasterKey : PhySpecialKey
  phySubnetKey : PhySpecialKey
  answer : Except SecurityJoinFailureReason SecuritySymJoinResponse

def JoinOutcome.refused (reason : SecurityJoinFailureReason) : JoinOutcome := ⟨.initial, .initial, .error reason⟩

def joinResponse (settings : Settings) (policies : Policies) (request : SecuritySymJoinRequest)
    (securityKey joinKey : Key128) (env : Surroundings) (phySubnetKey : PhySpecialKey) (dlPolicy : CompressedPolicy) :
    Option JoinOutcome := do
  let challenge := managerChallenge env.nextChallenge
  let masterKey := generateMasterKey E settings request challenge joinKey
  let lifetime := policies.masterPolicy.keyHardLifetime.toUInt32 * 3600
  let (_, _, encBuffer) ← ccm2.authEncrypt E (some masterKey) (some request.bitChallengeFromNewDevice.toList) none 0
    (some (phySubnetKey.key.toList ++ securityKey.toList)) 32 true
  let response : SecuritySymJoinResponse := {
    bitChallengeFromSystemManager := challenge
    bitChallengeResponseToNewDevice := Vector.replicate 16 0
    masterKeyPolicy := policies.masterPolicy
    dlKeyPolicy := dlPolicy
    sysMgrSessionKeyPolicy := if settings.disableTLEncryption then ⟨0⟩ else policies.sysMgrSessionKeyPolicy
    dlKeyID := phySubnetKey.keyID
    encryptedDLKey := Block.ofList (encBuffer.take 16)
    encryptedSysMgrSessionKey := Block.ofList ((encBuffer.drop 16).take 16) }
  some {
    phyMasterKey := {
      keyID := 0
      key := masterKey
      policy := policies.defaultMasterPolicy
      softLifeTime := env.currentTAI + lifetime / 2
      hardLifeTime := env.currentTAI + lifetime
      markedAsExpiring := false }
    phySubnetKey
    answer := .ok { response with
      bitChallengeResponseToNewDevice := hmackJoin E (getHashInputString settings request response) joinKey } }

/-- `SecurityJoinRequest`; a callback with success comes with the challenge to be assigned to the device. -/
def securityJoinRequest (settings : Settings) (policies : Policies) (request : SecuritySymJoinRequest)
    (securityKey : Key128) (env : Surroundings) : Option JoinOutcome :=
  match settings.getProvisioningForDevice request.eui64JoiningDevice with
  | none => some (.refused .unprovisionedDevice)
  | some item =>
    if request.algorithmIdentifier &&& 0x0F = 1 then
      if validateJoinRequestMIC E request item.key then do
        match ← joinSubnetKey policies item env with
        | .error reason => some (.refused reason)
        | .ok (phySubnetKey, dlPolicy) =>
          joinResponse E settings policies request securityKey item.key env phySubnetKey dlPolicy
      else some (.refused .badJoinKey)
    else some (.refused .invalidAesAlg)

structure PendingJoin where
  number : Nat
  joinRequest : SecuritySymJoinRequest

structure AnsweredJoin where
  number : Nat
  joinRequest : SecuritySymJoinRequest
  assignedChallenge : Block

/-- The managers' state, the devices of the model and the stack's key table. The fields from `received` on record what happened: the requests by their number, and for each device the request whose challenge was recorded last and the one authenticated last. -/
structure JoinState (κ : Type) where
  settings : Settings
  policies : Policies
  joinRequestChallenges : JoinRequestChallenges
  assignedChallenges : AList fun _ : Address64 => Block
  devices : AList fun _ : UInt32 => Device
  stackKeys : κ
  pending : List PendingJoin
  received : List SecuritySymJoinRequest
  recorded : Address64 → Option Nat
  authenticated : Address64 → Option AnsweredJoin

inductive JoinStep (κ : Type)
  | joinRequest (request : SecuritySymJoinRequest)
  | responseJoinSecurity (number : Nat) (deviceAddress : UInt32) (status : ResponseStatus) (env : Surroundings)
  | joinConfirm (deviceAddress64 : Address64) (response : Block)
  | engine (devices : AList fun _ : UInt32 => Device) (stackKeys : κ)
  | reload (settings : Settings)

namespace JoinState

variable {κ : Type} (setKey : κ → SetKeyRequest → κ)

def start (settings : Settings) (policies : Policies) (devices : AList fun _ : UInt32 => Device) (stackKeys : κ) :
    JoinState κ :=
  ⟨settings, policies, ∅, ∅, devices, stackKeys, [], [], fun _ => none, fun _ => none⟩

def submit (s : JoinState κ) (request : SecuritySymJoinRequest) : JoinState κ :=
  { s with
    pending := s.pending ++ [⟨s.received.length, request⟩]
    received := s.received ++ [request] }

def processSecuritySymJoinRequest (s : JoinState κ) (request : SecuritySymJoinRequest) : JoinState κ :=
  match s.settings.getProvisioningForDevice request.eui64JoiningDevice with
  | none => s
  | some _ =>
    if s.settings.disableAuthentication then s.submit request
    else
      match checkChallenge s.joinRequestChallenges request with
      | none => s
      | some challenges =>
        { s.submit request with
          joinRequestChallenges := challenges
          recorded := Function.update s.recorded request.eui64JoiningDevice (some s.received.length) }

def joinSessionKey (deviceAddress : UInt32) (device : Device) : Option PhySessionKey :=
  (device.sessionKeysTable.lookup (createEntityIndex deviceAddress .sessionKey 1)).bind (·.currentValue)

def granularityMultiplier (granularity : UInt8) : UInt32 :=
  if granularity = 1 then 60 else if granularity = 2 then 3600 else if granularity = 3 then 86400 else 1

def setStackKeys (policies : Policies) (request : SecuritySymJoinRequest) (sessionKey : PhySessionKey)
    (joiningDeviceAddress128 : List UInt8) : SetKeyRequest :=
  let multiply := granularityMultiplier policies.defaultSessionPolicy.granularity
  { peerIPv6Address := joiningDeviceAddress128
    udpSPort := 1 ||| 0xF0B0
    udpDPort := 0 ||| 0xF0B0
    keyID := sessionKey.keyID.toUInt8
    key := sessionKey.key
    issuerEUI64 := request.eui64JoiningDevice
    validNotBefore := sessionKey.sessionKeyPolicy.notValidBefore
    softLifetime := sessionKey.sessionKeyPolicy.keyHardLifetime * multiply / 2
    hardLifetime := sessionKey.sessionKeyPolicy.keyHardLifetime * multiply
    type := 1
    policy := 0 }

def storeKeys (deviceAddress : UInt32) (device : Device) (outcome : JoinOutcome) : Device :=
  (device.createMasterKey (createEntityIndex deviceAddress .masterKey outcome.phyMasterKey.keyID.toUInt16)
    outcome.phyMasterKey).createSubnetKey (createEntityIndex deviceAddress .subnetKey
      outcome.phySubnetKey.keyID.toUInt16)
    outcome.phySubnetKey

def assignChallenge (s : JoinState κ) (p : PendingJoin) (response : SecuritySymJoinResponse) : JoinState κ :=
  { s with
    assignedChallenges :=
      s.assignedChallenges.insert p.joinRequest.eui64JoiningDevice response.bitChallengeFromSystemManager
    authenticated := Function.update s.authenticated p.joinRequest.eui64JoiningDevice
      (some ⟨p.number, p.joinRequest, response.bitChallengeFromSystemManager⟩) }

def answersWith (s : JoinState κ) (deviceAddress : UInt32) (status : ResponseStatus) :
    Option (Device × PhySessionKey) :=
  match status with
  | .fail | .requestDiscarded | .refusedInsufficientResources => none
  | .success | .inappropriateProcessMode => do
    let device ← s.devices.lookup deviceAddress
    if s.settings.disableAuthentication then none
    else
      let key ← joinSessionKey deviceAddress device
      some (device, key)

def responseJoinSecurity (s : JoinState κ) (p : PendingJoin) (deviceAddress : UInt32) (status : ResponseStatus)
    (env : Surroundings) : Option (JoinState κ) :=
  match s.answersWith deviceAddress status with
  | none => some s
  | some (device, key) => do
    let outcome ← securityJoinRequest E s.settings s.policies p.joinRequest key.key env
    let s :=
      match outcome.answer with
      | .ok response => s.assignChallenge p response
      | .error _ => s
    some { s with
      stackKeys := setKey s.stackKeys (setStackKeys s.policies p.joinRequest key device.address128)
      devices := s.devices.insert deviceAddress (storeKeys deviceAddress device outcome) }

def securityJoinConfirm (s : JoinState κ) (deviceAddress64 : Address64) (response : Block) : Bool :=
  match s.settings.getProvisioningForDevice deviceAddress64, s.assignedChallenges.lookup deviceAddress64,
    s.joinRequestChallenges.lookup deviceAddress64 with
  | some item, some assigned, some challenges =>
    hmackJoin E (challenges.previousChallenge1.toList ++ assigned.toList ++ deviceAddress64.toList ++
      s.settings.managerAddress64.toList) item.key = response
  | _, _, _ => false

def findPending (s : JoinState κ) (number : Nat) : Option PendingJoin := s.pending.find? fun p => p.number = number

def step (s : JoinState κ) : JoinStep κ → Option (JoinState κ)
  | .joinRequest request => some (s.processSecuritySymJoinRequest request)
  | .responseJoinSecurity number deviceAddress status env => do
    let p ← s.findPending number
    let s := { s with pending := s.pending.filter fun q => q.number ≠ number }
    s.responseJoinSecurity E setKey p deviceAddress status env
  | .joinConfirm _ _ => some s
  | .engine devices stackKeys => some { s with devices, stackKeys }
  | .reload settings => some { s with settings }

end JoinState

end Cipher

end Isa100Gateway.SystemManager
