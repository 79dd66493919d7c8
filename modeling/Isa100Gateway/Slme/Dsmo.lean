import Isa100Gateway.Crypto.AesCcm
import Isa100Gateway.Slme.KeyStore

/-!
# `DSMO_Execute`

The three methods of the security management object. The request data is a memory: the code reads the policy of a new key before it has checked the size. The response bytes have no value where the code reads the authenticating key after `SLME_SetKey` has freed it.
-/

namespace Isa100Gateway

abbrev Memory := Nat → UInt8

namespace Memory

def bytes (mem : Memory) (offset len : Nat) : List UInt8 := (List.range len).map fun i => mem (offset + i)

def vector (mem : Memory) (offset : Nat) {len : Nat} : Vector UInt8 len := Vector.ofFn fun i => mem (offset + i)

def uint16 (mem : Memory) (offset : Nat) : UInt16 :=
  (mem offset).toUInt16 <<< 8 ||| (mem (offset + 1)).toUInt16

def uint24 (mem : Memory) (offset : Nat) : UInt32 :=
  (mem offset).toUInt32 <<< 16 ||| (mem (offset + 1)).toUInt32 <<< 8 ||| (mem (offset + 2)).toUInt32

def uint32 (mem : Memory) (offset : Nat) : UInt32 :=
  (mem offset).toUInt32 <<< 24 ||| (mem (offset + 1)).toUInt32 <<< 16 |||
    (mem (offset + 2)).toUInt32 <<< 8 ||| (mem (offset + 3)).toUInt32

end Memory

def dsmoNewKey : UInt8 := 1
def dsmoDeleteKey : UInt8 := 2
def dsmoKeyPolicyUpdate : UInt8 := 3

def dsmoMaxNewKeySize : Nat := 62 + micSize
def dsmoMaxDelKeySize : Nat := 31
def dsmoKeyPolicUpdSize : Nat := 32

def policyKeyUsageMask : UInt8 := 0x1C
def policyKeyGranMask : UInt8 := 0x03
def policyKeyUsageOff : UInt8 := 0x02
def secLevelMask : UInt8 := 0x07
def secKeyIdModeMask : UInt8 := 0x18

structure DsmoEnv where
  aes : AesCcm
  secManagerEUI64BE : Eui64
  eui64BE : Eui64

/-- What a method leaves behind. `keyFailReport` is one count for the key alert, `newKeyAdded` the call of `DMO_NotifyNewKeyAdded`. -/
structure DsmoOutcome where
  sfc : UInt8
  rspData : Option (List UInt8)
  store : KeyStore
  keyFailReport : Bool
  newKeyAdded : Option KeyCategory

def DsmoOutcome.failed (s : KeyStore) : DsmoOutcome :=
  { sfc := sfcFailure, rspData := some [], store := s, keyFailReport := true, newKeyAdded := none }

def DsmoOutcome.answer (s : KeyStore) (sfc : UInt8) : DsmoOutcome :=
  { sfc, rspData := some [], store := s, keyFailReport := false, newKeyAdded := none }

def dsmoNonce (eui64 : Eui64) (rest : List UInt8) : Nonce :=
  let bytes := eui64.toList ++ rest
  Vector.ofFn fun i => if i.val = 12 then 0xFF else bytes.getD i 0

def getNonSessionKey (s : KeyStore) (keyID keyUsage : UInt8) : Option SlmeKey :=
  findKey s.keysCatMap none 0 0 keyID keyUsage

/-- The policy part of a new key: how much shorter than seconds the granularity makes the request, the two times, and where the policy byte is. -/
structure KeyPolicy where
  shorter : Nat
  validNotBefore : UInt32
  hardLifetime : UInt32
  offset : Nat

def newKeyPolicy (mem : Memory) : KeyPolicy :=
  match mem 0 &&& policyKeyGranMask with
  | 0x01 => ⟨1, mem.uint32 1 * 60, mem.uint24 5 * 60, 8⟩
  | 0x02 => ⟨3, mem.uint24 1 * 3600, (mem.uint16 4).toUInt32 * 3600, 6⟩
  | 0x03 => ⟨4, (mem.uint16 1).toUInt32 * 86400, (mem.uint16 3).toUInt32 * 86400, 5⟩
  | _ => ⟨0, mem.uint32 1, mem.uint32 5, 9⟩

def newKeyUsage (mem : Memory) : UInt8 := (mem 0 &&& policyKeyUsageMask) >>> policyKeyUsageOff

def newKeyArgs (env : DsmoEnv) (mem : Memory) (keyID : UInt8) (material : List UInt8) : SetKeyArgs :=
  let policy := newKeyPolicy mem
  let usage := newKeyUsage mem
  let session := usage = slmKeyUsageSession
  { peerIPv6Address := if session then some (mem.vector (policy.offset + 11)) else none
    udpSPort := if session then mem.uint16 (policy.offset + 1) else 0
    udpDPort := if session then mem.uint16 (policy.offset + 27) else 0
    keyID
    key := Vector.ofFn fun i => material.getD i 0
    issuerEUI64 :=
      if usage = slmKeyUsageMaster then some env.secManagerEUI64BE
      else if session then some (mem.vector (policy.offset + 3)) else none
    validNotBefore := policy.validNotBefore
    softLifetime := policy.hardLifetime >>> 1
    hardLifetime := policy.hardLifetime
    usage
    policy := mem policy.offset }

def newKeyRsp (env : DsmoEnv) (master : SlmeKey) (status : UInt8) (crtTai : UInt32) (msgIncrement : UInt8) :
    List UInt8 :=
  let stamp := crtTai <<< 10 ||| msgIncrement.toUInt32
  let time := [(stamp >>> 24).toUInt8, (stamp >>> 16).toUInt8, (stamp >>> 8).toUInt8, stamp.toUInt8]
  let rsp := [status, securityMic32 ||| keyIdMode <<< keyIdModeOffset, master.keyID] ++ time
  rsp ++ (env.aes.crypt master.key (dsmoNonce env.eui64BE time) rsp []).take micSize

def executeNewKey (env : DsmoEnv) (s : KeyStore) (req : ExecReqSrvc Memory) (keyTai rspTai : UInt32)
    (msgIncrement : UInt8) : Option DsmoOutcome :=
  let mem := req.reqData
  let usage := newKeyUsage mem
  let size := dsmoMaxNewKeySize - (if usage = slmKeyUsageDll ∨ usage = slmKeyUsageMaster then 28 else 0)
    - (newKeyPolicy mem).shorter
  let static := size - 28
  if req.len.toNat < size then some (.answer s sfcInvalidSize)
  else
    match getNonSessionKey s (mem (static + 2)) slmKeyUsageMaster with
    | none => some (.failed s)
    | some master =>
      if securityCtrlEncMic32 ≠ mem (static + 1) &&& (secLevelMask ||| secKeyIdModeMask) then some (.failed s)
      else
        let nonce := dsmoNonce env.secManagerEUI64BE (mem.bytes (static + 3) 4)
        match env.aes.decrypt master.key nonce (mem.bytes 0 (size - 20)) (mem.bytes (size - 20) 20) with
        | none => some (.failed s)
        | some material => do
          let args := newKeyArgs env mem (mem (static + 7)) material
          let (sfc, store) ← setKey s args keyTai
          let status := if sfc = sfcSuccess then sfcSuccess else sfcFailure
          -- `pstKey` dangles once the new key has replaced the one that authenticated it
          let freed := usage = slmKeyUsageMaster ∧ args.keyID = master.keyID
          some
            { sfc := sfcSuccess
              rspData := if freed then none else some (newKeyRsp env master status rspTai msgIncrement)
              store
              keyFailReport := false
              newKeyAdded :=
                if sfc = sfcSuccess ∧ usage = slmKeyUsageSession then
                  some (keyCategory args.peerIPv6Address args.udpSPort args.udpDPort usage)
                else none }

/-- Whether the MIC at the end of a command of `size` bytes is one under the master key that the command names. -/
def authenticated (env : DsmoEnv) (s : KeyStore) (mem : Memory) (size : Nat) : Bool :=
  match getNonSessionKey s (mem 1) slmKeyUsageMaster with
  | none => false
  | some master =>
    (env.aes.decrypt master.key (dsmoNonce env.secManagerEUI64BE (mem.bytes (size - 8) 4))
      (mem.bytes 0 (size - micSize)) (mem.bytes (size - micSize) micSize)).isSome

def executeDeleteKey (env : DsmoEnv) (s : KeyStore) (req : ExecReqSrvc Memory) : DsmoOutcome :=
  let mem := req.reqData
  let session := mem 0 = slmKeyUsageSession
  let size := if session then dsmoMaxDelKeySize else dsmoMaxDelKeySize - 20
  if req.len.toNat < size then .answer s sfcInvalidSize
  else if ¬authenticated env s mem size then .failed s
  else
    let (sfc, s) :=
      if session then deleteKey s (some (mem.vector 5)) (mem.uint16 3) (mem.uint16 21) (mem 2) (mem 0)
      else deleteKey s none 0 0 (mem 2) (mem 0)
    .answer s sfc

/-- `DSMO_KEY_POLICY_UPDATE`. It updates nothing, and a failure overwrites its success. -/
def executeKeyPolicyUpdate (s : KeyStore) (req : ExecReqSrvc Memory) : DsmoOutcome :=
  let size := if req.reqData 0 = slmKeyUsageSession then dsmoKeyPolicUpdSize else dsmoKeyPolicUpdSize - 20
  if req.len.toNat < size then .answer s sfcInvalidSize else .failed s

def dsmoExecute (env : DsmoEnv) (s : KeyStore) (req : ExecReqSrvc Memory) (keyTai rspTai : UInt32)
    (msgIncrement : UInt8) : Option DsmoOutcome :=
  if req.methID = dsmoNewKey then executeNewKey env s req keyTai rspTai msgIncrement
  else if req.methID = dsmoDeleteKey then some (executeDeleteKey env s req)
  else if req.methID = dsmoKeyPolicyUpdate then some (executeKeyPolicyUpdate s req)
  else some (.answer s sfcInvalidMethod)

end Isa100Gateway
