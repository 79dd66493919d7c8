import Isa100Gateway.SystemManager.JoinSecurity

/-!
# Keys and their lifetimes (`KeyUtils.h`, `SecurityManager.cpp`)

The system manager keeps for every key a policy and the two times at which the key expires, and sends the policy with the key. The times are computed where a key is made: at the join, for a new session, and when an expiring key is replaced.
-/

namespace Isa100Gateway.SystemManager.KeyUtils

structure KeySettings extends Settings where
  keysHardLifeTime : UInt32
  subnetKeysHardLifeTime : UInt16
  atLeastMinimum : 6 ≤ keysHardLifeTime

def KeySettings.parse (settings : Settings) (securityKeyLifetime : UInt32) (subnetKeyLifetime : UInt16) : KeySettings :=
  if h : securityKeyLifetime < 6 then ⟨settings, 6, subnetKeyLifetime, by decide⟩
  else ⟨settings, securityKeyLifetime, subnetKeyLifetime, UInt32.not_lt.mp h⟩

def KeySettings.policies (settings : KeySettings) : Policies where
  masterPolicy := ⟨0x00⟩
  dlKeyPolicy := ⟨settings.subnetKeysHardLifeTime⟩
  sysMgrSessionKeyPolicy := ⟨settings.keysHardLifeTime.toUInt16⟩
  defaultSessionPolicy := { Policy.initial with
    keyHardLifetime := settings.keysHardLifeTime, keyType := 0x01, keyUsage := 0x01, granularity := 0x02 }
  defaultMasterPolicy := { Policy.initial with
    keyHardLifetime := 0x00, keyType := 0x01, keyUsage := 0x02, granularity := 0x02 }
  defaultSubnetPolicy := { Policy.initial with
    keyHardLifetime := settings.subnetKeysHardLifeTime.toUInt32, keyType := 0x01, keyUsage := 0x00,
      granularity := 0x02 }

def getGranularityInSeconds (policy : Policy) : UInt32 :=
  if policy.granularity = 1 then 60 else if policy.granularity = 2 then 3600 else if policy.granularity =
    3 then 86400 else 1

def getOffsetInSeconds (settings : KeySettings) (policy : Policy) : UInt32 :=
  settings.keysHardLifeTime * getGranularityInSeconds policy

/-- The two numbers that `marshallEntity` writes for a policy, not valid before and hard lifetime, in its granularity. -/
def writtenPolicy (policy : Policy) : UInt32 × UInt32 :=
  let notValidBefore := policy.notValidBefore / JoinState.granularityMultiplier policy.granularity
  if policy.granularity &&& 0x03 = 0x00 then (notValidBefore, policy.keyHardLifetime)
  else if policy.granularity &&& 0x03 = 0x01 then (notValidBefore, policy.keyHardLifetime &&& 0xFFFFFF)
  else if policy.granularity &&& 0x03 = 0x02 then (notValidBefore &&& 0xFFFFFF, policy.keyHardLifetime &&& 0xFFFF)
  else (notValidBefore &&& 0xFFFF, policy.keyHardLifetime &&& 0xFFFF)

structure Peer where
  address64 : Address64
  address128 : List UInt8
  tsap : Int

structure PhySessionKey extends SystemManager.PhySessionKey where
  index : UInt16
  source : Peer
  destination : Peer
  softLifeTime : UInt32
  hardLifeTime : UInt32
  markedAsExpiring : Bool

def getAsPhySessionKey (settings : KeySettings) (currentTAI : UInt32) (securityKey : Key128) (source destination : Peer)
    (sessionPolicy : Policy) (keyID index : UInt16) : PhySessionKey :=
  let offset := getOffsetInSeconds settings sessionPolicy
  let start := if sessionPolicy.notValidBefore = 0 then currentTAI else sessionPolicy.notValidBefore
  { index, keyID, source, destination
    key := securityKey
    sessionKeyPolicy := sessionPolicy
    softLifeTime := start + offset / 2
    hardLifeTime := start + offset
    markedAsExpiring := false }

def noSecurityKey : Key128 := Vector.replicate 16 0

/-- The key that sessions get; the generator's unless the transport layer does not encrypt. -/
def sessionKeyValue (settings : KeySettings) (generated : Key128) : Key128 :=
  if settings.disableTLEncryption then noSecurityKey else generated

/-- `createJoinKey`; the device has no network address yet. -/
def createJoinKey (settings : KeySettings) (policies : Policies) (currentTAI : UInt32) (generated : Key128)
    (managerAddress128 : List UInt8) (joiningDeviceAddress : Address64) (keyID index : UInt16) : PhySessionKey :=
  getAsPhySessionKey settings currentTAI (sessionKeyValue settings generated)
    ⟨settings.managerAddress64, managerAddress128, 1⟩ ⟨joiningDeviceAddress, List.replicate 16 0, 0⟩
    policies.defaultSessionPolicy keyID index

def newSessionPolicy (policies : Policies) (currentTAI : UInt32) : Policy :=
  { policies.defaultSessionPolicy with
    notValidBefore := currentTAI - currentTAI % getGranularityInSeconds policies.defaultSessionPolicy }

def createSecurityKey (settings : KeySettings) (policies : Policies) (currentTAI laterTAI : UInt32) (generated : Key128)
    (source destination : Peer) (keyID index : UInt16) : PhySessionKey :=
  getAsPhySessionKey settings laterTAI (sessionKeyValue settings generated) source destination
    (newSessionPolicy policies currentTAI) keyID index

def updateKey (currentTAI : UInt32) (settings : KeySettings) (key : PhySessionKey) : PhySessionKey :=
  let granularityInSeconds := getGranularityInSeconds key.sessionKeyPolicy
  let notValidBefore := (currentTAI - currentTAI % granularityInSeconds) + 3 * granularityInSeconds
  let offset := getOffsetInSeconds settings key.sessionKeyPolicy
  { key with
    sessionKeyPolicy := { key.sessionKeyPolicy with notValidBefore }
    softLifeTime := notValidBefore + offset / 2
    hardLifeTime := notValidBefore + offset }

def replaceSessionKey (currentTAI : UInt32) (settings : KeySettings) (old : PhySessionKey) (newKeyID : UInt16)
    (newSecurityKey : Key128) (index : UInt16) : PhySessionKey :=
  updateKey currentTAI settings { old with keyID := newKeyID, key := newSecurityKey, index }

def updateSpecialKey (currentTAI : UInt32) (settings : KeySettings) (key : PhySpecialKey) : PhySpecialKey :=
  let notValidBefore := (currentTAI - currentTAI % 3600) + 3 * 3600
  let offset := getOffsetInSeconds settings key.policy
  { key with
    policy := { key.policy with notValidBefore }
    softLifeTime := notValidBefore + offset / 2
    hardLifeTime := notValidBefore + offset }

def newSpecialKey (currentTAI : UInt32) (settings : KeySettings) (defaultPolicy : Policy) (keyID : UInt8)
    (key : Key128) :
    PhySpecialKey :=
  updateSpecialKey currentTAI settings { PhySpecialKey.initial with keyID, key, policy := defaultPolicy }

/-- Who looks for expiring keys: the timer, some time ahead, or a device that asks for a new key. -/
inductive Search
  | updateExpiringKeys (deviation : UInt32)
  | createNewSpecialKey

def Search.finds (search : Search) (currentTAI keyHardLifetime softLifeTime : UInt32)
    (markedAsExpiring : Bool) : Bool :=
  !markedAsExpiring && keyHardLifetime != 0 &&
    match search with
    | .updateExpiringKeys deviation => softLifeTime - deviation < currentTAI
    | .createNewSpecialKey => softLifeTime ≤ currentTAI

theorem Search.finds_nonexpiring (search : Search) (currentTAI softLifeTime : UInt32) (markedAsExpiring : Bool) :
    search.finds currentTAI 0 softLifeTime markedAsExpiring = false := by
  simp [finds]

end Isa100Gateway.SystemManager.KeyUtils
