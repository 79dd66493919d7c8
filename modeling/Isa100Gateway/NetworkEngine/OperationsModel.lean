import Mathlib.Logic.Function.Basic
import Mathlib.Data.List.Basic
import Isa100Gateway.Lib.Run

/-!
# Operations on the entities of the devices

What a device is to be told is an operation on one of its entities. The entities keep the current and the previous value, whether an operation on them is outstanding, and the identifiers of the operations that wait for them. Operations and containers are shared objects, known here by their address; the model of a device is what the engine believes the device to hold.
-/

namespace Isa100Gateway.Operations

inductive EntityType
  | link | superframe | neighbour | candidate | route | networkRoute | graph | contract | networkContract
  | advJoinInfo | advSuperframe | sessionKey | powerSupply | addressTranslation
  | clientServerRetryTimeout | clientServerRetryMaxTimeoutInterval | clientServerRetryCount
  | channel | blackListChannels | channelHopping | vendorID | modelID | softwareRevisionInformation
  | contractsTableMetaData | neighborMetaData | superframeMetaData | graphMetaData | linkMetaData
  | routeMetaData | diagMetaData | channelDiag | neighborDiag | hrcoCommEndpoint | hrcoPublish
  | deviceCapability | armoCommEndpoint | serialNumber | masterKey | subnetKey | dlmoMaxLifetime
  | assignedRole | dlmoClockExpire | dlmoClockStale | dlmoIdleChannels | packagesStatistics | joinReason
  | dlmoDiscoveryAlert | pingInterval | queuePriority
  deriving DecidableEq

def EntityType.isIndexed : EntityType → Bool
  | .link | .superframe | .neighbour | .candidate | .route | .networkRoute | .graph | .contract
  | .networkContract | .sessionKey | .masterKey | .subnetKey | .addressTranslation | .blackListChannels
  | .channelHopping => true
  | _ => false

def EntityType.isImplemented : EntityType → Bool
  | .channel | .channelDiag | .neighborDiag => false
  | _ => true

def EntityType.isTreated : EntityType → Bool
  | .dlmoClockExpire | .dlmoClockStale => false
  | type => type.isImplemented

abbrev Address32 := Nat

def addressManager : Address32 := 1

def extractSubnet (address : Address32) : Nat := address >>> 16

structure EntityIndex where
  deviceAddress : Address32
  type : EntityType
  index : Nat
  deriving DecidableEq

def EntityIndex.entity (e : EntityIndex) : EntityIndex :=
  if e.type.isIndexed then e else { e with index := 0 }

inductive EngineOperationType
  | none | writeAttribute | readAttribute | deleteAttribute | updateGraph
  deriving DecidableEq

inductive OperationErrorCode
  | success | timeout | error
  deriving DecidableEq

inductive ResponseStatus
  | success | fail
  deriving DecidableEq

def linkTypeTransmit : Nat := 128

def neighbourByAddress : Nat := 1

structure PhyLink where
  (superframeIndex type neighborType neighbor : Nat)

structure PhyRoute where
  alternative : Nat
  selector : Nat
  route : List Nat

inductive PhyEntity
  | link (link : PhyLink)
  | route (route : PhyRoute)
  | other (value : Nat)

abbrev OperationID := UInt16

abbrev OperationPointer := Nat

abbrev ContainerId := Nat

/-- `dependsOn` and `rank` are not in the source: the dependencies the operation was created with, and how many operations had been handed over before it. -/
structure Operation where
  opID : OperationID
  type : EngineOperationType
  entityIndex : EntityIndex
  containerId : ContainerId
  operationDependency : List OperationPointer
  entityDependency : List EntityIndex
  errorCode : OperationErrorCode
  physicalEntity : Option PhyEntity
  dependsOn : List OperationPointer
  rank : Nat

def Operation.owner (operation : Operation) : Address32 := operation.entityIndex.deviceAddress

/-- `operations` is not in the source: the operations the container was handed over with. -/
structure Container where
  requesterAddress32 : Address32
  taiCutover : UInt32
  rspStatus : ResponseStatus
  unsentOperations : List OperationPointer
  sentOperations : List OperationPointer
  operations : List OperationPointer

def Container.isContainerEmpty (container : Container) : Bool :=
  container.sentOperations.isEmpty && container.unsentOperations.isEmpty

def Container.isExpiredContainer (container : Container) (currentTime : UInt32) (timeoutValue : UInt16) : Bool :=
  timeoutValue.toUInt32 < currentTime - container.taiCutover

/-- The queue holds identifiers; the address of the operation an identifier came from is not in the source. -/
structure Waiting where
  opID : OperationID
  operation : OperationPointer

structure Attribute where
  currentValue : Option PhyEntity
  previousValue : Option PhyEntity
  isPending : Bool
  waitingOperations : List Waiting

def Attribute.addWaitingOperation (a : Attribute) (waiting : Waiting) : Attribute :=
  { a with waitingOperations := a.waitingOperations ++ [waiting] }

def Attribute.isFirstOperation (a : Attribute) (opID : OperationID) : Option Bool :=
  a.waitingOperations.head?.map fun first => first.opID == opID

def Attribute.removeOperation (a : Attribute) (opID : OperationID) : Attribute :=
  { a with waitingOperations := a.waitingOperations.filter fun waiting => waiting.opID ≠ opID }

structure Device where
  isManager : Bool
  /-- The manager has a contract for its own messages to the device. -/
  hasManagerContract : Bool
  members : EntityType → Attribute
  tables : EntityIndex → Option Attribute

def Device.find (device : Device) (e : EntityIndex) : Option Attribute :=
  if e.type.isIndexed then device.tables e else some (device.members e.type)

def Device.setAttribute (device : Device) (e : EntityIndex) (a : Attribute) : Device :=
  if e.type.isIndexed then { device with tables := Function.update device.tables e (some a) }
  else { device with members := Function.update device.members e.type a }

def Device.eraseAttribute (device : Device) (e : EntityIndex) : Device :=
  { device with tables := Function.update device.tables e none }

/-- One call of the end handlers of a container. `uncommitted` is not in the source: the operations of the container that had not been committed then. -/
structure Ended where
  containerId : ContainerId
  rspStatus : ResponseStatus
  uncommitted : List OperationPointer
  deriving DecidableEq

/-- One operation given to the sender. Not in the source: the operations it was created to depend on that had not been committed then, and those that had failed. -/
structure Sent where
  operation : OperationPointer
  uncommitted : List OperationPointer
  failed : List OperationPointer
  deriving DecidableEq

/-- The records are not in the source: containers handed over, end handlers called, operations committed, operations that were dropped unsent or answered without being committed, operations given to the sender, operations handed over. -/
structure State where
  devices : Address32 → Option Device
  operations : OperationPointer → Operation
  containers : ContainerId → Container
  listOfContainers : List ContainerId
  handed : List ContainerId
  ended : List Ended
  committed : List OperationPointer
  failed : List OperationPointer
  sent : List Sent
  added : List OperationPointer

namespace State

variable (s : State)

def find (e : EntityIndex) : Option Attribute :=
  (s.devices e.deviceAddress).bind fun device => device.find e

def updateDevice (address : Address32) (f : Device → Device) : State :=
  { s with devices := Function.update s.devices address ((s.devices address).map f) }

def setAttribute (e : EntityIndex) (a : Attribute) : State :=
  s.updateDevice e.deviceAddress fun device => device.setAttribute e a

def eraseAttribute (e : EntityIndex) : State :=
  s.updateDevice e.deviceAddress fun device => device.eraseAttribute e

def updateOperation (p : OperationPointer) (f : Operation → Operation) : State :=
  { s with operations := Function.update s.operations p (f (s.operations p)) }

def updateContainer (id : ContainerId) (f : Container → Container) : State :=
  { s with containers := Function.update s.containers id (f (s.containers id)) }

def destroyPhysicalEntity (p : OperationPointer) : State :=
  s.updateOperation p fun operation => { operation with physicalEntity := none }

def addOperationToWaitingList (p : OperationPointer) : Option State :=
  let operation := s.operations p
  match s.devices operation.owner with
  | none => some s
  | some device =>
    if operation.entityIndex.type.isTreated then
      match device.find operation.entityIndex with
      | none => some s
      | some a =>
        some (s.setAttribute operation.entityIndex (a.addWaitingOperation ⟨operation.opID, p⟩))
    else none

def isFirstInWaitingList (p : OperationPointer) : Option (State × Bool) :=
  let operation := s.operations p
  match s.devices operation.owner with
  | none => some (s, true)
  | some device =>
    if operation.entityIndex.type = .clientServerRetryMaxTimeoutInterval then
      (s.addOperationToWaitingList p).map fun s => (s, false)
    else if operation.entityIndex.type.isTreated then
      match device.find operation.entityIndex with
      | none => some (s, true)
      | some a => (a.isFirstOperation operation.opID).map fun first => (s, first)
    else none

def removeOperationInWaitingList (p : OperationPointer) : Option State :=
  let operation := s.operations p
  match s.devices operation.owner with
  | none => some s
  | some device =>
    if operation.entityIndex.type.isTreated then
      match device.find operation.entityIndex with
      | none => some s
      | some a => some (s.setAttribute operation.entityIndex (a.removeOperation operation.opID))
    else none

end State

/-- The entities that must stand before a written one. A value of another type than the entity's is not defined. -/
def directDependencies (operation : Operation) : Option (List EntityIndex) :=
  let entity (type : EntityType) (index : Nat) : EntityIndex := ⟨operation.entityIndex.deviceAddress, type, index⟩
  match operation.entityIndex.type, operation.physicalEntity with
  | .link, some (.link link) =>
    let neighbor := if link.type &&& linkTypeTransmit ≠ 0 ∧ link.neighborType = neighbourByAddress then
      [entity .neighbour link.neighbor] else []
    some (entity .superframe link.superframeIndex :: neighbor)
  | .link, _ => none
  | .route, some (.route route) =>
    if route.alternative = 1 then some [entity .networkContract route.selector]
    else if route.alternative = 2 then
      route.route.head?.map fun nextHop =>
        if nextHop &&& 0xF000 = 0xA000 then [entity .graph (nextHop &&& 0x0FFF)] else [entity .neighbour nextHop]
    else some []
  | .route, _ => none
  | _, _ => some []

namespace State

variable (s : State)

def addDirectDependencies (p : OperationPointer) : Option State :=
  let operation := s.operations p
  if operation.containerId ≠ 0 ∧ operation.type = .writeAttribute ∧ (s.devices operation.owner).isSome then
    (directDependencies operation).map fun dependencies =>
      s.updateOperation p fun operation =>
        { operation with entityDependency := operation.entityDependency ++ dependencies }
  else some s

def updatePhyEntity (p : OperationPointer) : Option (State × Bool) :=
  let operation := s.operations p
  let e := operation.entityIndex
  if operation.type = .writeAttribute ∨ operation.type = .readAttribute ∨ operation.type = .deleteAttribute then
    if e.type.isTreated then
      match s.find e with
      | none =>
        if operation.type = .writeAttribute then
          some (s.setAttribute e ⟨operation.physicalEntity, none, true, []⟩, true)
        else some (s, false)
      | some a =>
        if operation.type = .deleteAttribute ∧ e.type.isIndexed = false then some (s, false)
        else if operation.type = .writeAttribute then
          some (s.setAttribute e ⟨operation.physicalEntity, a.currentValue, true, a.waitingOperations⟩, true)
        else some (s.setAttribute e { a with isPending := true }, true)
    else none
  else some (s, false)

def commitAttribute (operation : Operation) (a : Attribute) : State :=
  let e := operation.entityIndex
  if operation.type = .writeAttribute then s.setAttribute e { a with isPending := false, previousValue := none }
  else if operation.type = .readAttribute then
    s.setAttribute e { a with isPending := false, currentValue := operation.physicalEntity }
  else if operation.type = .deleteAttribute ∧ e.type.isIndexed then s.eraseAttribute e
  else s.setAttribute e { a with isPending := false }

def recordCommitted (p : OperationPointer) : State := { s with committed := s.committed ++ [p] }

def recordFailed (p : OperationPointer) : State := { s with failed := s.failed ++ [p] }

def commitChanges (p : OperationPointer) : Option (State × Bool) :=
  (s.removeOperationInWaitingList p).bind fun s =>
    let operation := s.operations p
    if operation.entityIndex.type.isTreated then
      match s.find operation.entityIndex with
      | none => if operation.type = .deleteAttribute then some (s.recordCommitted p, true) else some (s, false)
      | some a => some (((s.commitAttribute operation a).destroyPhysicalEntity p).recordCommitted p, true)
    else none

/-! ## Sending -/

end State

inductive ProcessedOperationStatus
  | canBeSent | existsDependencies | deviceDeleted
  deriving DecidableEq

inductive SentOperationStatus
  | operationSent | operationSentAndConfirmed

def getSendStatusForEntity (device : Device) (e : EntityIndex) (statusIfNotFound : ProcessedOperationStatus) :
    Option ProcessedOperationStatus :=
  if e.type.isImplemented = false then none
  else if e.type.isTreated = false then some .deviceDeleted
  else
    match device.find e with
    | none => some statusIfNotFound
    | some a => some (if a.isPending then .existsDependencies else .canBeSent)

namespace State

variable (s : State)

/-- Dependencies that are in neither list of the container are taken as resolved and dropped, up to the first that is in one. -/
def unresolvedDependencies (id : ContainerId) (p : OperationPointer) : List OperationPointer :=
  let container := s.containers id
  (s.operations p).operationDependency.dropWhile fun dependency =>
    dependency ∉ container.sentOperations ∧ dependency ∉ container.unsentOperations

def entityDependencyStatus : List EntityIndex → Option ProcessedOperationStatus
  | [] => some .canBeSent
  | e :: rest =>
    match s.devices e.deviceAddress with
    | none => some .deviceDeleted
    | some device =>
      (getSendStatusForEntity device e .existsDependencies).bind fun status =>
        if status = .canBeSent then entityDependencyStatus rest else some status

/-- What is left to decide once the operations it depends on are out of the lists. -/
def canSendResolved (device : Device) (p : OperationPointer) : Option (State × ProcessedOperationStatus) :=
  (getSendStatusForEntity device (s.operations p).entityIndex .canBeSent).bind fun status =>
    if status = .canBeSent then
      (s.entityDependencyStatus (s.operations p).entityDependency).bind fun status =>
        if status = .canBeSent then
          (s.isFirstInWaitingList p).map fun result =>
            (result.1, if result.2 then .canBeSent else .existsDependencies)
        else some (s, status)
    else some (s, status)

def canSendOperation (id : ContainerId) (p : OperationPointer) : Option (State × ProcessedOperationStatus) :=
  let operation := s.operations p
  match s.devices operation.owner with
  | none => some (s, .deviceDeleted)
  | some device =>
    if device.isManager then some (s, .canBeSent)
    else if operation.containerId = 0 then s.canSendResolved device p
    else
      let unresolved := s.unresolvedDependencies id p
      let s := s.updateOperation p fun operation => { operation with operationDependency := unresolved }
      if unresolved = [] then s.canSendResolved device p else some (s, .existsDependencies)

/-- The sender answers at once for the manager, and for a device it has no contract with. -/
def sendEnded (device : Device) (operation : Operation) : Bool :=
  operation.owner = addressManager || !device.hasManagerContract

def giveToSender (p : OperationPointer) : State :=
  let dependsOn := (s.operations p).dependsOn
  let sent : State := { s with sent := s.sent ++
    [⟨p, dependsOn.filter fun d => d ∉ s.committed, dependsOn.filter fun d => d ∈ s.failed⟩] }
  if (s.operations p).type = .readAttribute then sent else sent.destroyPhysicalEntity p

def sendSingleOperation (p : OperationPointer) : Option (State × SentOperationStatus) :=
  match s.devices (s.operations p).owner with
  | none => some (s.destroyPhysicalEntity p, .operationSentAndConfirmed)
  | some device =>
    (s.updatePhyEntity p).bind fun result =>
      if result.2 then
        if sendEnded device (s.operations p) then
          ((result.1.giveToSender p).commitChanges p).map fun result =>
            (result.1.destroyPhysicalEntity p, .operationSentAndConfirmed)
        else some (result.1.giveToSender p, .operationSent)
      else some (result.1.destroyPhysicalEntity p, .operationSentAndConfirmed)

def addManagerOperation (p : OperationPointer) : Option State :=
  ((s.updateOperation p fun operation => { operation with containerId := 0 }).addOperationToWaitingList p).bind fun s =>
    (s.sendSingleOperation p).map Prod.fst

end State

/-- A walk over the unsent operations of a container, with the operations it has done with so far. -/
structure SendPass where
  state : State
  confirmedOperations : List OperationPointer

namespace State

variable (s : State)

def updateTimer (id : ContainerId) (timeValue : UInt32) : State :=
  s.updateContainer id fun container => { container with taiCutover := timeValue }

def addToSentOperations (id : ContainerId) (p : OperationPointer) : State :=
  s.updateContainer id fun container => { container with sentOperations := container.sentOperations ++ [p] }

def eraseUnsent (id : ContainerId) (p : OperationPointer) : State :=
  s.updateContainer id fun container => { container with unsentOperations := container.unsentOperations.erase p }

def failOperation (p : OperationPointer) : State :=
  (s.updateOperation p fun operation => { operation with errorCode := .error }).recordFailed p

end State

def SendPass.sendOne (pass : SendPass) (id : ContainerId) (currentTime : UInt32) (p : OperationPointer) :
    Option SendPass :=
  (pass.state.sendSingleOperation p).map fun result =>
    let timed := result.1.updateTimer id currentTime
    match result.2 with
    | .operationSent => ⟨(timed.addToSentOperations id p).eraseUnsent id p, pass.confirmedOperations⟩
    | .operationSentAndConfirmed => ⟨timed.eraseUnsent id p, pass.confirmedOperations ++ [p]⟩

def SendPass.dropOne (pass : SendPass) (id : ContainerId) (p : OperationPointer) : SendPass :=
  ⟨(pass.state.failOperation p).eraseUnsent id p, pass.confirmedOperations ++ [p]⟩

def SendPass.visit (id : ContainerId) (currentTime : UInt32) (pass : SendPass) (p : OperationPointer) :
    Option SendPass :=
  (pass.state.canSendOperation id p).bind fun result =>
    let pass : SendPass := ⟨result.1, pass.confirmedOperations⟩
    match result.2 with
    | .existsDependencies => some pass
    | .canBeSent => pass.sendOne id currentTime p
    | .deviceDeleted => some (pass.dropOne id p)

def sendAllContainerOperations (id : ContainerId) (currentTime : UInt32) (pass : SendPass) : Option SendPass :=
  Machine.runs (SendPass.visit id currentTime) pass (pass.state.containers id).unsentOperations

namespace State

variable (s : State)

def destroyOperation (p : OperationPointer) : Option State :=
  (s.removeOperationInWaitingList p).map fun s => s.destroyPhysicalEntity p

def setAsFail (id : ContainerId) : Option State :=
  (Machine.runs destroyOperation s (s.containers id).unsentOperations).map fun s =>
    s.updateContainer id fun container => { container with unsentOperations := [], rspStatus := .fail }

def eraseContainer (id : ContainerId) : State :=
  { s with listOfContainers := s.listOfContainers.erase id }

def handleEndContainer (id : ContainerId) : State :=
  let container := s.containers id
  { s with ended := s.ended ++
      [⟨id, container.rspStatus, container.operations.filter fun p => p ∉ s.committed⟩] }

end State

inductive ConfirmOutcome
  | unknown
  | settled (removeDevice : Bool)

namespace State

variable (s : State)

/-- The operation of a container that is still in the list is committed, or the container fails. -/
def settle (id : ContainerId) (p : OperationPointer) : Option (State × ConfirmOutcome) :=
  let operation := s.operations p
  let commits : Bool := operation.errorCode = .success ∨
    (operation.errorCode = .error ∧ operation.type = .deleteAttribute)
  let device := s.devices operation.owner
  let result : Option (State × Bool) := if device.isSome ∧ commits then s.commitChanges p else some (s, false)
  result.bind fun result =>
    let removeDevice := device.isSome && !commits
    if result.2 then some (result.1, .settled removeDevice)
    else (result.1.setAsFail id).map fun s => ((s.destroyPhysicalEntity p).recordFailed p, .settled removeDevice)

def confirmOperation (p : OperationPointer) : Option (State × ConfirmOutcome) :=
  (s.removeOperationInWaitingList p).bind fun s =>
    let id := (s.operations p).containerId
    if id = 0 then some (s, .unknown)
    else if id ∈ s.listOfContainers then s.settle id p
    else some (s.destroyPhysicalEntity p, .unknown)

/-- The confirm of an operation that a walk has done with; those of the manager are done already. -/
def confirmEscaped (p : OperationPointer) : Option State :=
  if (s.operations p).owner = addressManager then some s else (s.confirmOperation p).map Prod.fst

def concerns (address : Address32) (isBackbone : Bool) (owner : Address32) : Bool :=
  if isBackbone then extractSubnet owner = extractSubnet address else owner = address

def removeSentOperation (p : OperationPointer) : Option State :=
  (s.destroyOperation p).map fun s => s.updateOperation p fun operation => { operation with containerId := 0 }

def removeAllSentOperations (id : ContainerId) (address : Address32) (isBackbone : Bool) : Option State :=
  let gone (p : OperationPointer) : Bool := concerns address isBackbone (s.operations p).owner
  let sentOperations := (s.containers id).sentOperations
  (Machine.runs removeSentOperation s (sentOperations.filter gone)).map fun s =>
    s.updateContainer id fun container => { container with sentOperations := sentOperations.filter fun p => !gone p }

def needToClean (id : ContainerId) (address : Address32) (isBackbone : Bool) : Bool :=
  let container := s.containers id
  container.sentOperations.any (fun p => concerns address isBackbone (s.operations p).owner)
    || concerns address isBackbone container.requesterAddress32
    || container.unsentOperations.any (fun p => concerns address isBackbone (s.operations p).owner)

def giveUp (result : State × List Address32) (p : OperationPointer) : Option (State × List Address32) :=
  (result.1.destroyOperation p).map fun s => (s, result.2.insert (s.operations p).owner)

def addOperations (operations : List (OperationPointer × Operation)) : State :=
  operations.foldl (fun s entry =>
    { s with
      operations := Function.update s.operations entry.1
        { entry.2 with rank := s.added.length, dependsOn := entry.2.operationDependency }
      added := s.added ++ [entry.1] }) s

def enqueue (p : OperationPointer) : Option State :=
  (s.addOperationToWaitingList p).bind fun s => s.addDirectDependencies p

end State

end Isa100Gateway.Operations
