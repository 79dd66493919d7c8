import Isa100Gateway.Lib.Stream
import Isa100Gateway.SystemManager.KeyUtils

/-!
# Keys on their way to the devices (`EntitiesHelper.cpp`, `SecurityManager.cpp`)

What the system manager sends with the methods of a device's security management object: a new key with its policy, encrypted under a master key of the device, and the request to delete a session key, authenticated under one.
-/

namespace Isa100Gateway.SystemManager

open Stream KeyUtils

structure SecurityKeyAndPolicies where
  keyPolicy : Policy
  endPortSource : UInt16
  eui64Remote : Address64
  remoteAddress128 : Addr128
  endPortRemote : UInt16
  algorithmIdentifier : UInt8
  securityControl : UInt8
  keyIdentifier : UInt8
  timeStamp : UInt32
  newKeyID : UInt8
  keyMaterial : Key128
  mic : Vector UInt8 4

def write24 (value : UInt32) : List UInt8 :=
  [((value &&& 0xFF0000) >>> 16).toUInt8, ((value &&& 0xFF00) >>> 8).toUInt8, (value &&& 0xFF).toUInt8]

def writeLow16 (value : UInt32) : List UInt8 := [((value &&& 0xFF00) >>> 8).toUInt8, (value &&& 0xFF).toUInt8]

def marshallTimes (policy : Policy) : List UInt8 :=
  let notValidBefore := policy.notValidBefore / JoinState.granularityMultiplier policy.granularity
  if policy.granularity &&& 0x03 = 0x00 then write32 notValidBefore ++ write32 policy.keyHardLifetime
  else if policy.granularity &&& 0x03 = 0x01 then write32 notValidBefore ++ write24 policy.keyHardLifetime
  else if policy.granularity &&& 0x03 = 0x02 then write24 notValidBefore ++ writeLow16 policy.keyHardLifetime
  else writeLow16 notValidBefore ++ writeLow16 policy.keyHardLifetime

def keyTypeUsageValue (policy : Policy) : UInt8 :=
  (policy.granularity &&& (0x03 : UInt8)) ||| ((policy.keyUsage &&& (0x07 : UInt8)) <<< (2 : UInt8)) |||
    ((policy.keyType &&& (0x07 : UInt8)) <<< (5 : UInt8))

def marshallPolicy (policy : Policy) : List UInt8 :=
  keyTypeUsageValue policy :: marshallTimes policy ++ [policy.policyPolicy]

def SecurityKeyAndPolicies.marshallRemote (entity : SecurityKeyAndPolicies) : List UInt8 :=
  if entity.keyPolicy.keyUsage = 0x01 then
    write16 entity.endPortSource ++ entity.eui64Remote.toList ++ entity.remoteAddress128.toList ++
      write16 entity.endPortRemote
  else []

def SecurityKeyAndPolicies.marshallStatic (entity : SecurityKeyAndPolicies) : List UInt8 :=
  [entity.algorithmIdentifier, entity.securityControl, entity.keyIdentifier] ++ write32 entity.timeStamp ++
    [entity.newKeyID]

def SecurityKeyAndPolicies.marshall (entity : SecurityKeyAndPolicies) : List UInt8 :=
  marshallPolicy entity.keyPolicy ++ entity.marshallRemote ++ entity.marshallStatic ++ entity.keyMaterial.toList ++
    entity.mic.toList

structure SecurityDeleteKeyReq where
  keyType : UInt8
  masterKeyID : UInt8
  keyID : UInt8
  sourcePort : UInt16
  destinationAddress : Addr128
  destinationPort : UInt16
  nonce : UInt32
  mic : Vector UInt8 4

def SecurityDeleteKeyReq.marshall (entity : SecurityDeleteKeyReq) : List UInt8 :=
  [entity.keyType, entity.masterKeyID, entity.keyID] ++ write16 entity.sourcePort ++ entity.destinationAddress.toList ++
    write16 entity.destinationPort ++ write32 entity.nonce ++ entity.mic.toList

def micOf (bytes : List UInt8) : Vector UInt8 4 := Vector.ofFn fun i => bytes.getD i 0

def portOf (tsap : Int) : UInt16 := UInt16.ofInt (0xF0B0 + tsap)

inductive KeyToSend
  | session (phyKey : KeyUtils.PhySessionKey)
  | master (phyKey : PhySpecialKey)
  | subnet (phyKey : PhySpecialKey)

def preparedSpecialKey (phyKey newestKey : PhySpecialKey) (timeStamp : UInt32)
    (uninitialised : SecurityKeyAndPolicies) :
    SecurityKeyAndPolicies :=
  { uninitialised with
    keyPolicy := phyKey.policy
    algorithmIdentifier := 1
    securityControl := 0x05 + (0x01 : UInt8) <<< (3 : UInt8)
    keyIdentifier := newestKey.keyID
    timeStamp
    newKeyID := phyKey.keyID
    keyMaterial := phyKey.key }

def preparedKey (phyKey : KeyUtils.PhySessionKey) (newestKey : PhySpecialKey) (timeStamp : UInt32)
    (uninitialised : SecurityKeyAndPolicies) : SecurityKeyAndPolicies :=
  { uninitialised with
    keyPolicy := phyKey.sessionKeyPolicy
    eui64Remote := phyKey.destination.address64
    remoteAddress128 := Block.ofList phyKey.destination.address128
    endPortSource := portOf phyKey.source.tsap
    endPortRemote := portOf phyKey.destination.tsap
    algorithmIdentifier := 1
    securityControl := 0x05 + (0x01 : UInt8) <<< (3 : UInt8)
    keyIdentifier := newestKey.keyID
    timeStamp
    newKeyID := phyKey.keyID.toUInt8
    keyMaterial := phyKey.key }

def KeyToSend.prepared (key : KeyToSend) (newestKey : PhySpecialKey) (timeStamp : UInt32)
    (uninitialised : SecurityKeyAndPolicies) : SecurityKeyAndPolicies :=
  match key with
  | .session phyKey => preparedKey phyKey newestKey timeStamp uninitialised
  | .master phyKey | .subnet phyKey => preparedSpecialKey phyKey newestKey timeStamp uninitialised

def distributionNonce (settings : Settings) (timeStamp : UInt32) : List UInt8 :=
  settings.managerAddress64.toList ++ networkBytes timeStamp ++ [0xFF]

section Cipher

variable (E : Key128 → Block → Block)

def encryptAndAuthSessionKey (settings : Settings) (sessionKey : SecurityKeyAndPolicies) (masterKey : Key128) :
    Option SecurityKeyAndPolicies := do
  let authBytes := sessionKey.marshall
  let auth := authBytes.take (authBytes.length - 16 - 4)
  let (_, _, encKey) ← ccm2.authEncrypt E (some masterKey) (some (distributionNonce settings sessionKey.timeStamp))
    (some auth) (UInt16.ofNat auth.length) (some sessionKey.keyMaterial.toList) 16 true
  some { sessionKey with
    keyMaterial := Block.ofList ((encKey.drop auth.length).take 16)
    mic := micOf (encKey.drop (auth.length + 16)) }

def KeyToSend.send (settings : Settings) (key : KeyToSend) (newestKey : PhySpecialKey) (timeStamp : UInt32)
    (uninitialised : SecurityKeyAndPolicies) : Option (List UInt8) := do
  let sessionKey ← encryptAndAuthSessionKey E settings (key.prepared newestKey timeStamp uninitialised) newestKey.key
  some sessionKey.marshall

/-- `getKeyDeletionParams`. The usage is that of the default policy for sessions, and no plaintext is encrypted. -/
def getKeyDeletionParams (settings : Settings) (policies : Policies) (phyKey : KeyUtils.PhySessionKey)
    (newestMasterKey : PhySpecialKey) (currentTAI : UInt32) (uninitialised : Vector UInt8 4) :
    Option SecurityDeleteKeyReq := do
  let deleteKeyParams : SecurityDeleteKeyReq := {
    keyType := policies.defaultSessionPolicy.keyUsage
    masterKeyID := newestMasterKey.keyID
    keyID := phyKey.keyID.toUInt8
    sourcePort := portOf phyKey.source.tsap
    destinationAddress := Block.ofList phyKey.destination.address128
    destinationPort := portOf phyKey.destination.tsap
    nonce := currentTAI
    mic := uninitialised }
  let authBytes := deleteKeyParams.marshall
  let auth := authBytes.take (authBytes.length - 4)
  let (_, _, encKey) ← ccm2.authEncrypt E (some newestMasterKey.key) (some (distributionNonce settings currentTAI))
    (some auth) (UInt16.ofNat auth.length) none 0 true
  some { deleteKeyParams with mic := micOf (encKey.drop auth.length) }

end Cipher

end Isa100Gateway.SystemManager
