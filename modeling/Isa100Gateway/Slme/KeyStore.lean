import Isa100Gateway.Asl.Types
import Isa100Gateway.Lib.Bytes
import Isa100Gateway.Slme.KeyTable

/-!
# Changing the key table

`SLME_SetKey`, `SLME_DeleteKey`, `SLME_KeyUpdateTask` and `SLME_UpdateJoinSessionsKeys` of `slme.cpp`. The map keeps the order of its comparison; the lists keep the order that `SLME_SetKey` gives them.
-/

namespace Isa100Gateway

structure KeyStore where
  nSLMEKeysNo : UInt16
  keysCatMap : KeyTable

def KeyStore.init : KeyStore := { nSLMEKeysNo := 0, keysCatMap := [] }

def zeroAddr : Addr128 := Vector.replicate 16 0

def keyCategory (peer : Option Addr128) (sPort dPort : UInt16) (keyUsage : UInt8) : KeyCategory :=
  if keyUsage = slmKeyUsageSession then ⟨peer.getD zeroAddr, sPort, dPort⟩ else ⟨zeroAddr, 0, 0⟩

def SlmeKey.category (k : SlmeKey) : KeyCategory := ⟨k.peerIPv6Address, k.udpSPort, k.udpDPort⟩

def compareKeyCategory (lhs rhs : KeyCategory) : Bool :=
  if lhs.udpDPort ≠ rhs.udpDPort then lhs.udpDPort < rhs.udpDPort
  else if lhs.udpSPort ≠ rhs.udpSPort then lhs.udpSPort < rhs.udpSPort
  else Bytes.memcmpLess lhs.peerIPv6Address.toList rhs.peerIPv6Address.toList

def KeyTable.insertCat (cat : KeyCategory) (list : List SlmeKey) : KeyTable → KeyTable
  | [] => [(cat, list)]
  | (c, l) :: table =>
    if compareKeyCategory cat c then (cat, list) :: (c, l) :: table
    else if compareKeyCategory c cat then (c, l) :: insertCat cat list table
    else (c, l) :: table

def KeyTable.updateCat (cat : KeyCategory) (f : List SlmeKey → List SlmeKey) : KeyTable → KeyTable
  | [] => []
  | (c, l) :: table => if c = cat then (c, f l) :: table else (c, l) :: updateCat cat f table

def deleteKey (s : KeyStore) (peer : Option Addr128) (sPort dPort : UInt16) (keyID usage : UInt8) :
    UInt8 × KeyStore :=
  match findKeyCat s.keysCatMap peer sPort dPort usage with
  | none => (sfcInvalidElementIndex, s)
  | some list =>
    if list.any fun k => k.usage = usage ∧ k.keyID = keyID then
      (sfcSuccess,
        { nSLMEKeysNo := s.nSLMEKeysNo - 1
          keysCatMap := s.keysCatMap.updateCat (keyCategory peer sPort dPort usage)
            (List.eraseP fun k => k.usage = usage ∧ k.keyID = keyID) })
    else (sfcInvalidElementIndex, s)

def SlmeKey.goesBefore (new k : SlmeKey) : Bool :=
  if k.usage < new.usage then false
  else if k.usage > new.usage then true
  else if new.hardLifetime > k.hardLifetime then true
  else if new.hardLifetime < k.hardLifetime then false
  else if new.softLifetime > k.softLifetime then true
  else if new.softLifetime < k.softLifetime then false
  else new.keyID > k.keyID

def insertKey (new : SlmeKey) : List SlmeKey → List SlmeKey
  | [] => [new]
  | k :: list => if new.goesBefore k then new :: k :: list else k :: insertKey new list

structure SetKeyArgs where
  peerIPv6Address : Option Addr128
  udpSPort : UInt16
  udpDPort : UInt16
  keyID : UInt8
  key : Key128
  issuerEUI64 : Option Eui64
  validNotBefore : UInt32
  softLifetime : UInt32
  hardLifetime : UInt32
  usage : UInt8
  policy : UInt8

def SetKeyArgs.newKey (args : SetKeyArgs) (crtTai : UInt32) : SlmeKey :=
  let session := args.usage = slmKeyUsageSession
  let start := if args.validNotBefore = 0 then crtTai else args.validNotBefore
  { peerIPv6Address := if session then args.peerIPv6Address.getD zeroAddr else zeroAddr
    udpSPort := if session then args.udpSPort else 0
    udpDPort := if session then args.udpDPort else 0
    keyID := args.keyID
    usage := args.usage
    policy := args.policy
    validNotBefore := args.validNotBefore
    softLifetime := if args.softLifetime = 0 then 0xFFFFFFFF else start + args.softLifetime
    hardLifetime := if args.hardLifetime = 0 then 0xFFFFFFFF else start + args.hardLifetime
    key := args.key
    issuerEUI64 := args.issuerEUI64.getD (Vector.replicate 8 0) }

/-- `SLME_InsertKeyCat` with a new list. It has no value where it copies a session key's address from a null pointer. -/
def insertKeyCat (table : KeyTable) (peer : Option Addr128) (sPort dPort : UInt16) (keyUsage : UInt8) :
    Option KeyTable :=
  if keyUsage = slmKeyUsageSession ∧ peer = none then none
  else some (table.insertCat (keyCategory peer sPort dPort keyUsage) [])

def setKey (s : KeyStore) (args : SetKeyArgs) (crtTai : UInt32) : Option (UInt8 × KeyStore) := do
  let new := args.newKey crtTai
  let s := (deleteKey s args.peerIPv6Address args.udpSPort args.udpDPort args.keyID args.usage).2
  if s.nSLMEKeysNo.toNat ≥ maxSlmeKeysNo then some (sfcInsufficientDeviceResources, s)
  else do
    let table ←
      match findKeyCat s.keysCatMap args.peerIPv6Address args.udpSPort args.udpDPort args.usage with
      | none => insertKeyCat s.keysCatMap args.peerIPv6Address args.udpSPort args.udpDPort args.usage
      | some _ => some s.keysCatMap
    let cat := keyCategory args.peerIPv6Address args.udpSPort args.udpDPort args.usage
    some (sfcSuccess,
      { nSLMEKeysNo := s.nSLMEKeysNo + 1, keysCatMap := table.updateCat cat (insertKey new) })

def expireKeys (crtTai : UInt32) : List SlmeKey → UInt16 → List SlmeKey × UInt16
  | [], keysNo => ([], keysNo)
  | k :: list, keysNo =>
    if k.hardLifetime ≤ crtTai then expireKeys crtTai list (keysNo - 1)
    else
      let (list, keysNo) := expireKeys crtTai list keysNo
      (k :: list, keysNo)

def expireCats (crtTai : UInt32) : KeyTable → UInt16 → KeyTable × UInt16
  | [], keysNo => ([], keysNo)
  | (c, l) :: table, keysNo =>
    let (l, keysNo) := expireKeys crtTai l keysNo
    let (table, keysNo) := expireCats crtTai table keysNo
    if l = [] then (table, keysNo) else ((c, l) :: table, keysNo)

def keyUpdateTask (s : KeyStore) (crtTai : UInt32) : KeyStore :=
  let (keysCatMap, nSLMEKeysNo) := expireCats crtTai s.keysCatMap s.nSLMEKeysNo
  { nSLMEKeysNo, keysCatMap }

def SlmeKey.updateJoin (issuer : Eui64) (peer : Addr128) (k : SlmeKey) : SlmeKey :=
  if k.usage = slmKeyUsageSession then { k with issuerEUI64 := issuer, peerIPv6Address := peer } else k

def updateJoinSessionsKeys (s : KeyStore) (issuer : Eui64) (peer : Addr128) : KeyStore :=
  { s with keysCatMap := s.keysCatMap.map fun (c, l) => (c, l.map (SlmeKey.updateJoin issuer peer)) }

end Isa100Gateway
