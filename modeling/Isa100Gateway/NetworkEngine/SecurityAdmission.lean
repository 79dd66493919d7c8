import Isa100Gateway.Lib.OrderedMap
import Isa100Gateway.SystemManager.JoinSecurity
import Mathlib.Data.Finset.Card
import Mathlib.Data.Finset.Filter

/-!
# Admission of a joining device (`NetworkEngine.cpp`, `Subnet.cpp`)

`requestJoinSecurity` with the device tables, the children, the address mappings and the marks of the default graph. The manager and the gateway are devices of every subnet, at the addresses 1 and 2. A result without an answer stands for an exception, a failed assertion or the use of a null or freed object.
-/

namespace Isa100Gateway.SecurityAdmission

open SystemManager (ProvisioningDeviceType ResponseStatus)

def maxNumberOfDevices : Nat := 203

def addressManager : Nat := 1
def addressGateway : Nat := 2

def getAddress16 (address32 : Nat) : Nat := address32 % 65536

def extractSubnet (address32 : Nat) : Nat := address32 / 65536

def createAddress32 (subnetId address16 : Nat) : Nat := subnetId * 65536 + address16

abbrev DeviceId := { a : Nat // 2 < a ∧ a < maxNumberOfDevices }

def DeviceId.highest : DeviceId := ⟨maxNumberOfDevices - 1, by decide⟩

def DeviceId.next (last : DeviceId) : DeviceId :=
  if h : last.1 - 1 ≤ 2 then .highest else ⟨last.1 - 1, Nat.lt_of_not_le h, by have := last.2; omega⟩

/-! ## Devices and subnets -/

inductive DeviceStatus
  | notJoined | deleted | markedForRemove | joinRequestReceived | netJoinReceived | contractJoinReceived | joinConfirmed
  deriving DecidableEq

structure MetaData where
  used : UInt16
  total : UInt16
  deriving DecidableEq

structure Device where
  address64 : Address64
  address32 : Nat
  address128 : List UInt8
  parent32 : Nat
  status : DeviceStatus
  deviceType : ProvisioningDeviceType
  children : Finset Address64
  linkMetadata : Option MetaData
  neighborMetadata : Option MetaData
  graphMetadata : Option MetaData
  deriving DecidableEq

namespace Device

def isManager (device : Device) : Bool := device.deviceType = .manager

def isBackbone (device : Device) : Bool := device.deviceType = .backbone

def isJoinConfirmed (device : Device) : Bool := device.status = .joinConfirmed

def eraseChild (address64 : Address64) (device : Device) : Device :=
  { device with children := device.children.erase address64 }

end Device

structure SubnetSettings where
  (nrRoutersPerBBR nrNonRoutersPerBBR nrRoutersPerRouter nrNonRoutersPerRouter : UInt16)
  (linksMetadataThreshold neighborsMetadataThreshold graphsMetadataThreshold : UInt16)

structure Graph where
  removedDevices : Finset Nat
  rejoinedDevices : Finset Nat
  backups : List (Nat × Nat)

/-- `subnetNodes` holds the devices behind the manager and the gateway. -/
structure Subnet where
  subnetNodes : OrderedMap Nat Device
  activeDevices : Finset Nat
  addressMapping : AList fun _ : Address64 => Nat
  backbone : Option Nat
  lastUnmatchDeviceId : DeviceId
  graph : Option Graph
  settings : SubnetSettings

namespace Subnet

def forget (address64 : Address64) (s : Subnet) : Subnet :=
  { s with addressMapping := s.addressMapping.erase address64 }

def forgetAll (id : Nat) (s : Subnet) : Subnet :=
  let visit := fun (mapping : AList fun _ : Address64 => Nat) (e : Sigma fun _ : Address64 => Nat) =>
    if extractSubnet e.2 = id then mapping.erase e.1 else mapping
  { s with addressMapping := s.addressMapping.entries.foldl visit s.addressMapping }

def destroyDevice (s : Subnet) (a : Nat) : Subnet :=
  { s with
    subnetNodes := s.subnetNodes.erase a
    activeDevices := s.activeDevices.erase a
    backbone := s.backbone.filter (· ≠ a) }

end Subnet

structure JoinModel where
  networkMaxNodes : UInt16
  ipv6AddrPrefix : UInt16
  manager : Device
  gateway : Option Device
  subnets : OrderedMap Nat Subnet
  managerNeighborsMapping : AList fun _ : Address64 => List UInt8

namespace JoinModel

variable (m : JoinModel)

def node (s : Subnet) (a : Nat) : Option Device :=
  if a = addressManager then some m.manager
  else if a = addressGateway then m.gateway
  else s.subnetNodes.find a

def getDevice (s : Subnet) (address32 : Nat) : Option Device :=
  if getAddress16 address32 ≥ maxNumberOfDevices then none else m.node s (getAddress16 address32)

def getAddress32 (s : Subnet) (address64 : Address64) : Nat :=
  if m.manager.address64 = address64 then m.manager.address32
  else
    match m.gateway.filter fun gateway => gateway.address64 = address64 with
    | some gateway => gateway.address32
    | none => (s.addressMapping.lookup address64).getD 0

def getSubnetOf (address32 : Nat) : Option Subnet :=
  if address32 = addressGateway ∨ address32 = addressManager then none else m.subnets.find (extractSubnet address32)

def getDeviceOf (address32 : Nat) : Option Device :=
  if m.manager.address32 = address32 then some m.manager
  else
    match m.gateway.filter fun gateway => gateway.address32 = address32 with
    | some gateway => some gateway
    | none => (m.subnets.find (extractSubnet address32)).bind fun s => m.getDevice s address32

def getNumberOfDevicesOnNetwork : UInt16 :=
  m.subnets.entries.foldl (fun n e =>
    n + UInt16.ofNat e.2.activeDevices.card - if m.gateway.isSome then 1 else 0) (if m.gateway.isSome then 2 else 1)

def existsDevice (address64 : Address64) : Bool :=
  m.subnets.entries.any fun e => (m.getDevice e.2 (m.getAddress32 e.2 address64)).isSome

def setSubnet (id : Nat) (s : Subnet) : JoinModel := { m with subnets := m.subnets.set id s }

def updateNode (id a : Nat) (f : Device → Device) : JoinModel :=
  if a = addressManager then { m with manager := f m.manager }
  else if a = addressGateway then { m with gateway := m.gateway.map f }
  else
    match m.subnets.find id with
    | none => m
    | some s =>
      match s.subnetNodes.find a with
      | none => m
      | some device => m.setSubnet id { s with subnetNodes := s.subnetNodes.set a (f device) }

def deleteTheoAttributesChild (id parent16 : Nat) (address64 : Address64) : JoinModel :=
  m.updateNode id parent16 (Device.eraseChild address64)

def isBackupForDevice (s : Subnet) (device backup : Nat) : Bool :=
  s.graph.any fun graph => (device, backup) ∈ graph.backups

def countsAsChild (s : Subnet) (parent16 : Nat) (child : Address64) : Bool :=
  (m.node s (getAddress16 (m.getAddress32 s child))).any fun device =>
    getAddress16 device.parent32 = parent16 || isBackupForDevice s (getAddress16 device.parent32) parent16

def checkMaxNrOfChildren (s : Subnet) (parent16 : Nat) : Bool :=
  match m.node s parent16 with
  | none => false
  | some parent =>
    let nrOfChildren := (parent.children.filter fun child => m.countsAsChild s parent16 child).card % 256
    let limit :=
      if parent.isBackbone then s.settings.nrRoutersPerBBR.toNat + s.settings.nrNonRoutersPerBBR.toNat
      else s.settings.nrRoutersPerRouter.toNat + s.settings.nrNonRoutersPerRouter.toNat
    nrOfChildren < limit

/-- What is reserved of a table: its entries, and a threshold for the new device and each one that is joining. -/
def reserved (metadata : Option MetaData) (threshold joining : UInt16) : UInt16 :=
  (metadata.elim 0 fun data => data.used + threshold) + joining * threshold

def deviceReachedTheMaxLinksNo (s : Subnet) (parent16 : Nat) (address64 : Address64) : Bool :=
  match m.node s parent16 with
  | none => true
  | some parent =>
    let joining := UInt16.ofNat (s.activeDevices.filter fun a => (m.node s a).any fun device =>
      device.status ≠ .joinConfirmed ∧ device.parent32 = parent.address32 ∧ device.address64 ≠ address64).card
    let exceeded := fun (metadata : Option MetaData) threshold =>
      decide ((metadata.elim 0 MetaData.total) < reserved metadata threshold joining)
    exceeded parent.linkMetadata s.settings.linksMetadataThreshold ||
      exceeded parent.neighborMetadata s.settings.neighborsMetadataThreshold ||
      exceeded parent.graphMetadata s.settings.graphsMetadataThreshold

def wasAddressAllocatedToOther (s : Subnet) (address64 : Address64) (address32 : Nat) : Bool :=
  s.addressMapping.entries.any fun e => e.2 = address32 && e.1 ≠ address64

def isFree (id : Nat) (s : Subnet) (address64 : Address64) (a : Nat) : Bool :=
  (m.getDevice s a).isNone && !wasAddressAllocatedToOther s address64 (createAddress32 id a)

/-- The search in reverse order, from the address below `lastUnmatchDeviceId` on. -/
def searchAddress (id : Nat) (s : Subnet) (address64 : Address64) : Nat → DeviceId → Option DeviceId
  | 0, _ => none
  | fuel + 1, last =>
    if m.isFree id s address64 last.next.1 then some last.next else searchAddress id s address64 fuel last.next

/-- The address of the previous instance, or one from the last byte of the EUI-64. -/
def preferredAddress16 (address64 : Address64) (oldAddress32 : Nat) : Nat :=
  if oldAddress32 = 0 then address64[7].toNat % maxNumberOfDevices else getAddress16 oldAddress32

def canKeep (id : Nat) (s : Subnet) (address64 : Address64) (a : Nat) : Bool :=
  !wasAddressAllocatedToOther s address64 (createAddress32 id a) && decide (2 < a ∧ a < maxNumberOfDevices) &&
    (m.getDevice s a).all fun device => device.address64 = address64

/-- `getNextAddress32`: the address and the next `lastUnmatchDeviceId`, or an exception. -/
def getNextAddress32 (id : Nat) (s : Subnet) (address64 : Address64) (oldAddress32 : Nat) : Option (Nat × DeviceId) :=
  let address16 := preferredAddress16 address64 oldAddress32
  if m.canKeep id s address64 address16 then some (createAddress32 id address16, s.lastUnmatchDeviceId)
  else (m.searchAddress id s address64 (maxNumberOfDevices - 2) s.lastUnmatchDeviceId).map fun found =>
    (createAddress32 id found.1, found)

/-- The addresses behind the prefix hold the EUI-64 and the address (`getNextAddress128`). -/
def getNextAddress128 (address64 : Address64) (address32 : Nat) : List UInt8 :=
  [(m.ipv6AddrPrefix >>> 8).toUInt8, m.ipv6AddrPrefix.toUInt8, 0, 0] ++ address64.toList ++
    [UInt8.ofNat (address32 / 16777216), UInt8.ofNat (address32 / 65536), UInt8.ofNat (address32 / 256),
      UInt8.ofNat address32]

end JoinModel

/-- The model while a device is let in. The local subnet is the one of the model under `subnetId`, unless that was replaced and the old object is kept. -/
structure Admission where
  model : JoinModel
  subnetId : Nat
  orphan : Option Subnet
  oldAddress : Nat

namespace Admission

def subnet? (a : Admission) : Option Subnet :=
  match a.orphan with
  | some s => some s
  | none => a.model.subnets.find a.subnetId

def setSubnet (a : Admission) (s : Subnet) : Admission :=
  match a.orphan with
  | some _ => { a with orphan := some s }
  | none => { a with model := a.model.setSubnet a.subnetId s }

end Admission

namespace JoinModel

variable (m : JoinModel)

def newSubnet (old : Subnet) : Subnet where
  subnetNodes := OrderedMap.empty
  activeDevices := if m.gateway.isSome then {addressGateway} else ∅
  addressMapping := ∅
  backbone := none
  lastUnmatchDeviceId := .highest
  graph := none
  settings := old.settings

def removeDeviceOnError (address32 : Nat) : JoinModel × Option (Nat × Subnet) :=
  if address32 = addressGateway then (m, none)
  else
    match m.getDeviceOf address32, m.getSubnetOf address32 with
    | some device, some s =>
      let id := extractSubnet address32
      if device.isBackbone then
        (m.setSubnet id (m.newSubnet s), some (id, s.destroyDevice (getAddress16 address32)))
      else if s.backbone.isNone then (m, none)
      else
        let m := m.deleteTheoAttributesChild id (getAddress16 device.parent32) device.address64
        match m.subnets.find id with
        | none => (m, none)
        | some s => (m.setSubnet id (s.destroyDevice (getAddress16 address32)), none)
    | _, _ => (m, none)

def markRejoined (s : Subnet) (previous : Option Device) (oldAddress : Nat) : Option Subnet :=
  match s.graph, previous with
  | some graph, some device =>
    some { s with graph := some { graph with
      rejoinedDevices := insert (getAddress16 device.address32) graph.rejoinedDevices } }
  | some graph, none =>
    if getAddress16 oldAddress ∈ graph.removedDevices then
      some { s with graph := some { graph with
        rejoinedDevices := insert (getAddress16 oldAddress) graph.rejoinedDevices } }
    else some s
  | none, some _ => some s
  | none, none => none

def removePreviousDevice (id : Nat) (s : Subnet) (oldAddress : Nat) (address64 : Address64)
    (provisionedType : ProvisioningDeviceType) (provisionedSubnetID : Nat) : Option Admission :=
  match (m.getDevice s oldAddress).filter fun device => device.address64 ≠ address64 with
  | some _ => some ⟨m.setSubnet id (s.forget address64), id, none, 0⟩
  | none => do
    let s ← markRejoined s (m.getDevice s oldAddress) oldAddress
    let (m, replaced) := (m.setSubnet id s).removeDeviceOnError oldAddress
    if provisionedType = .backbone then do
      let s ← m.subnets.find provisionedSubnetID
      some ⟨m.setSubnet provisionedSubnetID ((s.forgetAll provisionedSubnetID).forget address64),
        provisionedSubnetID, none, oldAddress⟩
    else
      match replaced.filter fun r => r.1 = id with
      | some (_, old) => some ⟨m, id, some (old.forget address64), oldAddress⟩
      | none => do
        let s ← m.subnets.find id
        some ⟨m.setSubnet id (s.forget address64), id, none, oldAddress⟩

end JoinModel

structure JoinRequest where
  deviceAddress64 : Address64
  parentAddress32 : Nat
  provisionedType : ProvisioningDeviceType
  provisionedSubnetID : Nat

/-- What becomes of a request: its handler is called, or handed over with a container of operations, or neither. -/
inductive Outcome
  | answered (address32 : Nat) (status : ResponseStatus) (m : JoinModel)
  | submitted (m : JoinModel)
  | aborted

namespace JoinModel

variable (m : JoinModel) (req : JoinRequest)

def requestJoinSecurityGateway : Outcome :=
  match m.gateway with
  | some gateway =>
    .answered gateway.address32 .success { m with gateway := some { gateway with status := .joinRequestReceived } }
  | none =>
    match m.managerNeighborsMapping.lookup req.deviceAddress64 with
    | none => .aborted
    | some address128 =>
      .answered addressGateway .success { m with
        gateway := some {
          address64 := req.deviceAddress64
          address32 := addressGateway
          address128
          parent32 := req.parentAddress32
          status := .joinRequestReceived
          deviceType := .gateway
          children := ∅
          linkMetadata := none
          neighborMetadata := none
          graphMetadata := none }
        subnets := m.subnets.filterMap fun _ s =>
          some { s with activeDevices := insert addressGateway s.activeDevices } }

def joinSubnet : Option (Nat × Subnet) :=
  if req.parentAddress32 = m.manager.address32 then
    (m.subnets.find req.provisionedSubnetID).map fun s => (req.provisionedSubnetID, s)
  else (m.getSubnetOf req.parentAddress32).map fun s => (extractSubnet req.parentAddress32, s)

def address128For (address32 : Nat) : Option (List UInt8) :=
  if req.provisionedType = .backbone then m.managerNeighborsMapping.lookup req.deviceAddress64
  else some (m.getNextAddress128 req.deviceAddress64 address32)

def beginAdmission (id : Nat) (s : Subnet) (oldAddress : Nat) : Option Admission :=
  if oldAddress ≠ 0 then
    m.removePreviousDevice id s oldAddress req.deviceAddress64 req.provisionedType req.provisionedSubnetID
  else some ⟨m, id, none, 0⟩

def newDevice (address32 : Nat) (address128 : List UInt8) : Device where
  address64 := req.deviceAddress64
  address32
  address128
  parent32 := req.parentAddress32
  status := .joinRequestReceived
  deviceType := req.provisionedType
  children := ∅
  linkMetadata := none
  neighborMetadata := none
  graphMetadata := none

def addDevice (s : Subnet) (device : Device) (last : DeviceId) : Subnet :=
  let a := getAddress16 device.address32
  { s with
    subnetNodes := if a = addressManager ∨ a = addressGateway then s.subnetNodes else s.subnetNodes.set a device
    activeDevices := insert a s.activeDevices
    addressMapping :=
      if (s.addressMapping.lookup device.address64).isSome then s.addressMapping
      else s.addressMapping.insert device.address64 device.address32
    backbone := if device.isBackbone then some a else s.backbone
    lastUnmatchDeviceId := last }

def parentAlive (a : Admission) (id : Nat) : Bool :=
  (((match a.orphan with
    | some s => some s
    | none => a.model.subnets.find id) : Option Subnet).bind fun s =>
      a.model.node s (getAddress16 req.parentAddress32)).isSome

/-- `requestJoinSecurity` behind its checks. -/
def completeJoin (id : Nat) (s : Subnet) (parent : Device) (oldAddress : Nat) : Option JoinModel := do
  let a ← m.beginAdmission req id s oldAddress
  let s ← a.subnet?
  let (address32, last) ← a.model.getNextAddress32 a.subnetId s req.deviceAddress64 a.oldAddress
  let address128 ← a.model.address128For req address32
  if parentAlive req a id then
    let device := newDevice req address32 address128
    let a := a.setSubnet (addDevice s device last)
    some (a.model.updateNode a.subnetId (getAddress16 parent.address32) fun parent =>
      { parent with children := insert device.address64 parent.children })
  else none

def refuses (s : Subnet) (parent : Device) : Bool :=
  !parent.isManager && (!m.checkMaxNrOfChildren s (getAddress16 parent.address32) ||
    m.deviceReachedTheMaxLinksNo s (getAddress16 req.parentAddress32) req.deviceAddress64)

/-- `requestJoinSecurity` once the parent is known. -/
def joinThrough (id : Nat) (parent : Device) : Outcome :=
  let m := m.deleteTheoAttributesChild id (getAddress16 parent.address32) req.deviceAddress64
  match m.subnets.find id with
  | none => .aborted
  | some s =>
    if m.refuses req s parent then .answered req.parentAddress32 .refusedInsufficientResources m
    else
      let oldAddress := m.getAddress32 s req.deviceAddress64
      if oldAddress = req.parentAddress32 then .answered req.parentAddress32 .fail m
      else (m.completeJoin req id s parent oldAddress).elim .aborted .submitted

def confirmedParent : Option (Nat × Device) := do
  let (id, s) ← m.joinSubnet req
  let parent ← m.getDevice s req.parentAddress32
  if parent.isJoinConfirmed then some (id, parent) else none

def exceedsMaxNodes : Bool :=
  m.networkMaxNodes > 0 && m.getNumberOfDevicesOnNetwork.toNat + (if m.existsDevice req.deviceAddress64 then 0 else 1) >
    m.networkMaxNodes.toNat

def requestJoinSecurity : Outcome :=
  if m.exceedsMaxNodes req then .answered req.parentAddress32 .fail m
  else if req.provisionedType = .gateway then m.requestJoinSecurityGateway req
  else
    match m.confirmedParent req with
    | none => .answered req.parentAddress32 .fail m
    | some (id, parent) => m.joinThrough req id parent

end JoinModel

end Isa100Gateway.SecurityAdmission
