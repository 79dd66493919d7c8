import Mathlib.Data.List.AList
import Isa100Gateway.Lib.Run

/-!
# Address translations and network routes of the joined devices

The backbones, the devices and the gateway join, and contracts between them are created. Each step that needs an address translation or a network route looks for one in the table of the device and otherwise writes a new one with the container of the request. The containers are committed before the next request.
-/

namespace Isa100Gateway.AddressTables

abbrev Address32 := Nat

abbrev Address128 := Nat

def address16Manager : Address32 := 1

def address16Gateway : Address32 := 2

def maxNumberOfDevices : Nat := 203

def getAddress16 (address : Address32) : Nat := address % 0x10000

def extractSubnet (address : Address32) : Nat := address / 0x10000

def createAddress32 (subnetId address16 : Nat) : Address32 := subnetId * 0x10000 + address16

inductive DeviceType
  | manager | gateway | backbone | device
  deriving DecidableEq

inductive DeviceStatus
  | joinRequestReceived | netJoinReceived | contractJoinReceived | joinConfirmed
  deriving DecidableEq

inductive CommunicationServiceType
  | periodic | nonPeriodic
  deriving DecidableEq

structure PhyAddressTranslation where
  addressTranslationID : Nat
  longAddress : Address128
  shortAddress : Nat

structure PhyNetworkRoute where
  networkRouteID : Nat
  destination : Address128
  nextHop : Address128
  nwkHopLimit : Nat
  outgoingInterface : Nat

structure PhyContract where
  destination32 : Address32
  sourceSAP : UInt16
  destinationSAP : UInt16
  requestID : UInt16
  communicationServiceType : CommunicationServiceType

structure Device where
  address32 : Address32
  address128 : Address128
  deviceType : DeviceType
  status : DeviceStatus
  lastATTID : Nat
  lastNetworkRouteID : Nat
  addressTranslationTable : List PhyAddressTranslation
  networkRoutesTable : List PhyNetworkRoute
  contractsTable : List PhyContract

def maxID : Nat := 0x3FFF

/-- The identifiers after the last one are tried first. When all are occupied the source throws. -/
def getNextID (occupied : List Nat) (last : Nat) : Option Nat :=
  (List.range' (last + 1) (maxID - last) ++ List.range' 1 maxID).find? fun id => id ∉ occupied

def Device.getNextAddressTranslationID (device : Device) : Option Nat :=
  getNextID (device.addressTranslationTable.map PhyAddressTranslation.addressTranslationID) device.lastATTID

def Device.getNextNetworkRouteID (device : Device) : Option Nat :=
  getNextID (device.networkRoutesTable.map PhyNetworkRoute.networkRouteID) device.lastNetworkRouteID

def Device.createAddressTranslation (device : Device) (row : PhyAddressTranslation) : Device :=
  { device with
    addressTranslationTable :=
      (device.addressTranslationTable.filter fun old => old.addressTranslationID ≠ row.addressTranslationID) ++ [row] }

def Device.createNetworkRoute (device : Device) (row : PhyNetworkRoute) : Device :=
  { device with
    networkRoutesTable :=
      (device.networkRoutesTable.filter fun old => old.networkRouteID ≠ row.networkRouteID) ++ [row] }

structure Subnet where
  backbone : Option Address32

structure Network where
  devices : AList fun _ : Address32 => Device
  subnets : AList fun _ : Nat => Subnet

namespace Network

variable (n : Network)

def getDevice (address : Address32) : Option Device := n.devices.lookup address

def getGateway : Option Device := n.getDevice address16Gateway

def getManager : Option Device := n.getDevice address16Manager

def getSubnet (address : Address32) : Option Subnet :=
  if address = address16Gateway ∨ address = address16Manager then none else n.subnets.lookup (extractSubnet address)

def setDevice (device : Device) : Network := { n with devices := n.devices.insert device.address32 device }

def addDevice (device : Device) : Network :=
  let n := n.setDevice device
  if device.deviceType = .backbone then
    { n with subnets := n.subnets.insert (extractSubnet device.address32) ⟨some device.address32⟩ }
  else n

end Network

inductive Operation
  | addressTranslation (deviceAddress : Address32) (row : PhyAddressTranslation)
  | networkRoute (deviceAddress : Address32) (row : PhyNetworkRoute)

def Network.commit (n : Network) : Operation → Network
  | .addressTranslation deviceAddress row =>
    match n.getDevice deviceAddress with
    | none => n
    | some device => n.setDevice (device.createAddressTranslation row)
  | .networkRoute deviceAddress row =>
    match n.getDevice deviceAddress with
    | none => n
    | some device => n.setDevice (device.createNetworkRoute row)

structure Task where
  network : Network
  operations : List Operation

namespace Task

variable (t : Task)

def committed : Network := t.operations.foldl Network.commit t.network

def writeAddressTranslation (deviceAddress : Address32) (longAddress : Address128) (shortAddress : Nat) : Option Task :=
  (t.network.getDevice deviceAddress).bind fun device =>
    device.getNextAddressTranslationID.map fun id =>
      { network := t.network.setDevice { device with lastATTID := id }
        operations := t.operations ++ [.addressTranslation deviceAddress ⟨id, longAddress, shortAddress⟩] }

def writeNetworkRoute (deviceAddress : Address32) (destination nextHop : Address128) (outgoingInterface : Nat) :
    Option Task :=
  (t.network.getDevice deviceAddress).bind fun device =>
    device.getNextNetworkRouteID.map fun id =>
      { network := t.network.setDevice { device with lastNetworkRouteID := id }
        operations := t.operations ++ [.networkRoute deviceAddress ⟨id, destination, nextHop, 64, outgoingInterface⟩] }

def isDirectRoute (address : Address128) (route : PhyNetworkRoute) : Bool :=
  route.destination = address ∧ route.nextHop = address ∧ route.nwkHopLimit = 64 ∧ route.outgoingInterface = 1

/-- The old route on the gateway is deleted from the model; the backbone keeps its own. -/
def configureNetworkRoute_GW_BBR (gwDevice backbone : Device) : Option Task :=
  let configured :=
    if backbone.networkRoutesTable.any (isDirectRoute gwDevice.address128) then some t
    else t.writeNetworkRoute backbone.address32 gwDevice.address128 gwDevice.address128 1
  configured.bind fun t =>
    (t.network.getDevice gwDevice.address32).bind fun gwDevice =>
      let network := t.network.setDevice
        { gwDevice with networkRoutesTable := gwDevice.networkRoutesTable.eraseP (isDirectRoute backbone.address128) }
      { t with network := network }.writeNetworkRoute gwDevice.address32 backbone.address128 backbone.address128 1

def configureAddresTranslationTable_GW_BBR (gwDevice backbone : Device) : Option Task :=
  if backbone.addressTranslationTable.any fun row =>
      row.longAddress = gwDevice.address128 ∧ row.shortAddress = getAddress16 gwDevice.address32 then some t
  else t.writeAddressTranslation backbone.address32 gwDevice.address128 (getAddress16 gwDevice.address32)

def configureGateway (gwDevice backbone : Device) : Option Task :=
  (t.configureNetworkRoute_GW_BBR gwDevice backbone).bind fun t =>
    t.configureAddresTranslationTable_GW_BBR gwDevice backbone

def configureATTwithManager (manager backbone : Device) : Option Task :=
  t.writeAddressTranslation backbone.address32 manager.address128 (getAddress16 manager.address32)

def configureSubnet (gwDevice : Device) (backbone : Option Address32) : Option Task :=
  match backbone.bind t.network.getDevice with
  | none => some t
  | some backbone => if backbone.status = .joinConfirmed then t.configureGateway gwDevice backbone else some t

end Task

structure ContractRequest where
  contractRequestId : UInt16
  sourceAddress : Address32
  sourceSAP : UInt16
  destinationAddress : Address32
  destinationSAP : UInt16
  communicationServiceType : CommunicationServiceType

def findContractSource2Destination (source : Device) (request : ContractRequest) : Bool :=
  source.contractsTable.any fun contract =>
    contract.destination32 = request.destinationAddress ∧ contract.destinationSAP = request.destinationSAP ∧
      contract.sourceSAP = request.sourceSAP ∧ contract.requestID = request.contractRequestId.toUInt8.toUInt16 ∧
      contract.communicationServiceType = request.communicationServiceType

/-- The test compares the 16-bit address of the row with the 32-bit address of the device. -/
def existsATT (device peer : Device) : Bool :=
  device.addressTranslationTable.any fun row =>
    row.longAddress = peer.address128 ∧ row.shortAddress = peer.address32

def Task.addATT (t : Task) (device peer : Device) : Option Task :=
  if existsATT device peer then some t
  else t.writeAddressTranslation device.address32 peer.address128 (getAddress16 peer.address32)

namespace Network

variable (n : Network)

def requestJoinSecurityGateway (address128 : Address128) : Option Network :=
  match n.getGateway with
  | some gwDevice => some (n.setDevice { gwDevice with status := .joinRequestReceived })
  | none =>
    if ∀ entry ∈ n.devices.entries, entry.2.address128 ≠ address128 then
      some (n.setDevice ⟨address16Gateway, address128, .gateway, .joinRequestReceived, 0, 0, [], [], []⟩)
    else none

def requestJoinSecurity (subnetId address16 : Nat) (address128 : Address128) (isBackbone : Bool) : Option Network :=
  let address32 := createAddress32 subnetId address16
  if (n.subnets.lookup subnetId).isSome ∧ 2 < address16 ∧ address16 < maxNumberOfDevices ∧
      n.getDevice address32 = none ∧ ∀ entry ∈ n.devices.entries, entry.2.address128 ≠ address128 then
    some (n.addDevice ⟨address32, address128, if isBackbone then .backbone else .device, .joinRequestReceived,
      0, 0, [], [], []⟩)
  else none

def requestJoinSystemManager (address : Address32) (accepted : Bool) : Option Network :=
  match n.getDevice address with
  | none => some n
  | some device =>
    if device.status = .joinRequestReceived then
      let joined := n.setDevice { device with status := .netJoinReceived }
      if device.deviceType = .device then
        (n.getSubnet address).bind fun subnet =>
          match subnet.backbone.bind joined.getDevice with
          | none => some joined
          | some brDevice =>
            if accepted then
              (Task.writeAddressTranslation ⟨joined, []⟩ brDevice.address32 device.address128
                (getAddress16 device.address32)).map Task.committed
            else some joined
      else some joined
    else some n

def createRouteToManager (device manager : Device) : Option Network :=
  device.getNextNetworkRouteID.map fun id =>
    n.setDevice ({ device with lastNetworkRouteID := id }.createNetworkRoute
      ⟨id, manager.address128, manager.address128, 64, 1⟩)

def requestJoinContract (address : Address32) : Option Network :=
  match n.getDevice address with
  | none => some n
  | some device =>
    if device.status = .netJoinReceived then
      n.getManager.bind fun manager =>
        let device := { device with status := .contractJoinReceived }
        if device.deviceType = .gateway then
          if device.networkRoutesTable.any fun route =>
              route.destination = manager.address128 ∧ route.nextHop = manager.address128 then
            some (n.setDevice device)
          else n.createRouteToManager device manager
        else n.createRouteToManager device manager
    else some n

def requestConfirmJoinGW (gwDevice : Device) : Option Network :=
  (Machine.runs (fun t (subnet : Subnet) => t.configureSubnet gwDevice subnet.backbone) (⟨n, []⟩ : Task)
    (n.subnets.entries.map fun entry => entry.2)).map Task.committed

def requestConfirmJoin (address : Address32) : Option Network :=
  match n.getDevice address with
  | none => some n
  | some device =>
    if device.status = .contractJoinReceived then
      let device := { device with status := .joinConfirmed }
      let n := n.setDevice device
      if device.deviceType = .gateway then n.requestConfirmJoinGW device
      else if device.deviceType = .backbone then
        let configured : Option Task :=
          match n.getGateway with
          | none => some ⟨n, []⟩
          | some gwDevice =>
            if gwDevice.status = .joinConfirmed then Task.configureGateway ⟨n, []⟩ gwDevice device else some ⟨n, []⟩
        configured.bind fun t =>
          n.getManager.bind fun manager =>
            (t.configureATTwithManager manager device).bind fun t =>
              (t.writeNetworkRoute device.address32 0 0 0).map Task.committed
      else some n
    else some n

def addRouteToDevice (t : Task) (source dest : Device) (request : ContractRequest) : Option (Option Task) :=
  match t.network.getSubnet request.destinationAddress with
  | none =>
    -- Without a subnet the loop must not compare any next hop.
    if source.networkRoutesTable.any fun route => route.destination = dest.address128 then none else some none
  | some subnet =>
    match subnet.backbone.bind t.network.getDevice with
    | none => none
    | some backbone =>
      if source.networkRoutesTable.any fun route =>
          route.destination = dest.address128 ∧ route.nextHop = backbone.address128 then some (some t)
      else (t.writeNetworkRoute source.address32 dest.address128 backbone.address128 1).map some

/-- `refused`: a periodic contract with the gateway comes too early. `allocated`: there is bandwidth for the contract. -/
def requestCreateContract (request : ContractRequest) (refused allocated : Bool) : Option Network :=
  if request.sourceSAP ≥ 0xF0B0 ∨ request.destinationSAP ≥ 0xF0B0 then some n
  else
    match n.getDevice request.sourceAddress, n.getDevice request.destinationAddress with
    | some source, some dest =>
      if refused then some n
      else if findContractSource2Destination source request then some n
      else if allocated = false then some n
      else
        let contract : PhyContract := ⟨request.destinationAddress, request.sourceSAP, request.destinationSAP,
          request.contractRequestId, request.communicationServiceType⟩
        let n := n.setDevice { source with contractsTable := source.contractsTable ++ [contract] }
        let withSource : Option Task :=
          if source.deviceType = .gateway then some ⟨n, []⟩ else Task.addATT ⟨n, []⟩ source dest
        withSource.bind fun t =>
          let withDest : Option Task :=
            if dest.deviceType = .manager ∨ dest.deviceType = .gateway then some t else t.addATT dest source
          withDest.bind fun t =>
            if source.deviceType = .gateway ∧ request.destinationAddress ≠ address16Manager then
              -- A request that fails here leaves its container unused.
              (addRouteToDevice t source dest request).map fun routed =>
                match routed with
                | none => t.network
                | some t => t.committed
            else some t.committed
    | _, _ => some n

end Network

inductive Event
  | joinSecurityGateway (address128 : Address128)
  | joinSecurity (subnetId address16 : Nat) (address128 : Address128) (isBackbone : Bool)
  | joinSystemManager (address : Address32) (accepted : Bool)
  | joinContract (address : Address32)
  | confirmJoin (address : Address32)
  | createContract (request : ContractRequest) (refused allocated : Bool)

def step (n : Network) : Event → Option Network
  | .joinSecurityGateway address128 => n.requestJoinSecurityGateway address128
  | .joinSecurity subnetId address16 address128 isBackbone =>
    n.requestJoinSecurity subnetId address16 address128 isBackbone
  | .joinSystemManager address accepted => n.requestJoinSystemManager address accepted
  | .joinContract address => n.requestJoinContract address
  | .confirmJoin address => n.requestConfirmJoin address
  | .createContract request refused allocated => n.requestCreateContract request refused allocated

def init (address128 : Address128) (subnetIds : List Nat) : Network where
  devices := AList.singleton address16Manager ⟨address16Manager, address128, .manager, .joinConfirmed, 0, 0, [], [], []⟩
  subnets := subnetIds.foldr (fun subnetId subnets => subnets.insert subnetId ⟨none⟩) ∅

end Isa100Gateway.AddressTables
