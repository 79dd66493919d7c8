import Isa100Gateway.NetworkEngine.OperationsModel

/-!
# The operations processor and its calls

The loops over the list of containers call the end handlers in the middle, and a handler may hand over containers or remove devices before the loop goes on. A state of the processor is therefore its data with the loop and the calls that have not returned, the innermost first. One step is one iteration of the innermost loop, or one thing the code around the processor does: between calls, or while a handler runs.
-/

namespace Isa100Gateway.Operations

/-- An iterator of the list of containers, as the container it stands at; the end of the list is `none`, also when containers are appended later. -/
abbrev Iterator := Option ContainerId

inductive Loop
  | idle
  | sendOperations (it : Iterator) (confirmedOperations : List OperationPointer) (removeDevice : Bool)
  | cleanEmptyContainers (it : Iterator) (currentTime : UInt32) (timeoutValue : UInt16)
      (devicesToBeRemoved : List Address32) (expired : Option ContainerId)
  deriving DecidableEq

inductive Call
  | handler
  | deviceDeletedCallback (it : Iterator) (address : Address32) (isBackbone : Bool)

structure Processor where
  state : State
  loop : Loop
  calls : List Call

inductive Event
  | addOperationsContainer (id : ContainerId) (container : Container)
      (operations : List (OperationPointer × Operation)) (currentTime : UInt32)
  | addManagerOperation (p : OperationPointer) (operation : Operation)
  | deviceDeletedCallback (address : Address32) (isBackbone : Bool)
  /-- Everything else the engine does to the model of a device: created, removed, or its attributes written. -/
  | setDevice (address : Address32) (device : Option Device)
  | confirm (p : OperationPointer) (errorCode : OperationErrorCode) (value : Option PhyEntity)
  | cleanEmptyContainers (currentTime : UInt32) (timeoutValue : UInt16)
  | handlerReturns
  | proceed (currentTime : UInt32)

def nextContainer (ids : List ContainerId) (id : ContainerId) : Iterator :=
  (ids.dropWhile fun other => other ≠ id).tail.head?

namespace State

variable (s : State)

structure IsFresh (id : ContainerId) (container : Container)
    (operations : List (OperationPointer × Operation)) : Prop where
  id_ne_zero : id ≠ 0
  not_handed : id ∉ s.handed
  unsent : container.unsentOperations = operations.map Prod.fst
  sent : container.sentOperations = []
  recorded : container.operations = operations.map Prod.fst
  nodup : (operations.map Prod.fst).Nodup
  not_added : ∀ entry ∈ operations, entry.1 ∉ s.added
  containerId : ∀ entry ∈ operations, entry.2.containerId = id

instance (id : ContainerId) (container : Container) (operations : List (OperationPointer × Operation)) :
    Decidable (s.IsFresh id container operations) :=
  decidable_of_iff
    (id ≠ 0 ∧ id ∉ s.handed ∧ container.unsentOperations = operations.map Prod.fst ∧ container.sentOperations = [] ∧
      container.operations = operations.map Prod.fst ∧ (operations.map Prod.fst).Nodup ∧
      (∀ entry ∈ operations, entry.1 ∉ s.added) ∧ ∀ entry ∈ operations, entry.2.containerId = id)
    ⟨fun ⟨h₁, h₂, h₃, h₄, h₅, h₆, h₇, h₈⟩ => ⟨h₁, h₂, h₃, h₄, h₅, h₆, h₇, h₈⟩,
      fun ⟨h₁, h₂, h₃, h₄, h₅, h₆, h₇, h₈⟩ => ⟨h₁, h₂, h₃, h₄, h₅, h₆, h₇, h₈⟩⟩

def handOver (id : ContainerId) (container : Container) (operations : List (OperationPointer × Operation)) : State :=
  let s := s.addOperations operations
  { s with containers := Function.update s.containers id container, handed := s.handed ++ [id] }

def appendContainer (id : ContainerId) : State :=
  { s with listOfContainers := s.listOfContainers ++ [id] }

def enqueueAll (id : ContainerId) : Option State :=
  Machine.runs enqueue (s.appendContainer id) (s.containers id).unsentOperations

def addOperationsContainer (id : ContainerId) (container : Container)
    (operations : List (OperationPointer × Operation)) (currentTime : UInt32) : Option (State × Bool) :=
  let s := s.handOver id container operations
  if container.isContainerEmpty then some (s.handleEndContainer id, true)
  else
    (s.enqueueAll id).bind fun s =>
      (sendAllContainerOperations id currentTime ⟨s, []⟩).bind fun pass =>
        let containerFinished := (pass.state.containers id).isContainerEmpty
        (Machine.runs confirmEscaped pass.state pass.confirmedOperations).map fun s =>
          if containerFinished then ((s.eraseContainer id).handleEndContainer id, true) else (s, false)

def answer (p : OperationPointer) (errorCode : OperationErrorCode) (value : Option PhyEntity) : State :=
  s.updateOperation p fun operation =>
    { operation with
      errorCode := errorCode
      physicalEntity :=
        if errorCode = .success ∧ operation.type = .readAttribute then value else operation.physicalEntity }

def removeSent (id : ContainerId) (p : OperationPointer) : State :=
  s.updateContainer id fun container =>
    { container with sentOperations := container.sentOperations.filter fun other => other ≠ p }

end State

namespace Processor

variable (c : Processor)

def isOutside : Bool :=
  match c.calls with
  | [] => c.loop = .idle
  | .handler :: _ => true
  | .deviceDeletedCallback .. :: _ => false

def ends (s : State) (id : ContainerId) (loop : Loop) (calls : List Call) : Processor :=
  ⟨s.handleEndContainer id, loop, .handler :: calls⟩

def sendAt (s : State) (id : ContainerId) (confirmedOperations : List OperationPointer) (removeDevice : Bool)
    (currentTime : UInt32) : Option Processor :=
  if id ∈ s.listOfContainers then
    (sendAllContainerOperations id currentTime ⟨s, confirmedOperations⟩).map fun pass =>
      let loop := Loop.sendOperations (nextContainer s.listOfContainers id) pass.confirmedOperations removeDevice
      if (pass.state.containers id).isContainerEmpty then ends (pass.state.eraseContainer id) id loop []
      else ⟨pass.state, loop, []⟩
  else none

def cleanAt (s : State) (id : ContainerId) (currentTime : UInt32) (timeoutValue : UInt16)
    (devicesToBeRemoved : List Address32) : Option Processor :=
  if id ∈ s.listOfContainers then
    let loop := Loop.cleanEmptyContainers (nextContainer s.listOfContainers id) currentTime timeoutValue
      devicesToBeRemoved
    if (s.containers id).isContainerEmpty then some (ends (s.eraseContainer id) id (loop none) [])
    else if (s.containers id).isExpiredContainer currentTime timeoutValue then
      ((s.eraseContainer id).setAsFail id).map fun s => ends s id (loop (some id)) []
    else some ⟨s, loop none, []⟩
  else none

def deleteAt (s : State) (id : ContainerId) (address : Address32) (isBackbone : Bool) (loop : Loop)
    (calls : List Call) : Option Processor :=
  if id ∈ s.listOfContainers then
    let rest := Call.deviceDeletedCallback (nextContainer s.listOfContainers id) address isBackbone :: calls
    let needToClean := s.needToClean id address isBackbone
    (s.removeAllSentOperations id address isBackbone).bind fun s =>
      if needToClean then
        (s.setAsFail id).map fun s =>
          if (s.containers id).isContainerEmpty then ends (s.eraseContainer id) id loop rest else ⟨s, loop, rest⟩
      else some ⟨s, loop, rest⟩
  else none

def proceedLoop (currentTime : UInt32) : Option Processor :=
  match c.loop with
  | .idle => none
  | .sendOperations (some id) confirmedOperations removeDevice =>
    sendAt c.state id confirmedOperations removeDevice currentTime
  | .sendOperations none confirmedOperations removeDevice =>
    (Machine.runs State.confirmEscaped c.state confirmedOperations).map fun s =>
      ⟨s, .idle, if removeDevice then [.handler] else []⟩
  | .cleanEmptyContainers it now timeoutValue devicesToBeRemoved (some id) =>
    (Machine.runs State.giveUp (c.state, devicesToBeRemoved) (c.state.containers id).sentOperations).map fun result =>
      ⟨result.1, .cleanEmptyContainers it now timeoutValue result.2 none, []⟩
  | .cleanEmptyContainers (some id) now timeoutValue devicesToBeRemoved none =>
    cleanAt c.state id now timeoutValue devicesToBeRemoved
  | .cleanEmptyContainers none _ _ devicesToBeRemoved none =>
    some ⟨c.state, .idle, if devicesToBeRemoved = [] then [] else [.handler]⟩

def proceed (currentTime : UInt32) : Option Processor :=
  match c.calls with
  | [] => c.proceedLoop currentTime
  | .handler :: _ => none
  | .deviceDeletedCallback (some id) address isBackbone :: calls => deleteAt c.state id address isBackbone c.loop calls
  | .deviceDeletedCallback none _ _ :: calls => some { c with calls := calls }

/-- The answer to a sent operation; what has waited for it is sent next. Where the device is to be removed, the engine does so afterwards. -/
def confirm (p : OperationPointer) (errorCode : OperationErrorCode) (value : Option PhyEntity) : Option Processor :=
  let answered := c.state.answer p errorCode value
  (answered.confirmOperation p).map fun result =>
    match result.2 with
    | .unknown => { c with state := result.1 }
    | .settled removeDevice =>
      let s := result.1.removeSent (answered.operations p).containerId p
      ⟨s, .sendOperations s.listOfContainers.head? [] removeDevice, []⟩

/-- Answers and the periodic clean-up come from outside all calls; the others also from the handlers. -/
def step (c : Processor) : Event → Option Processor
  | .addOperationsContainer id container operations currentTime =>
    if c.isOutside ∧ c.state.IsFresh id container operations then
      (c.state.addOperationsContainer id container operations currentTime).map fun result =>
        ⟨result.1, c.loop, if result.2 then .handler :: c.calls else c.calls⟩
    else none
  | .addManagerOperation p operation =>
    if c.isOutside ∧ p ∉ c.state.added ∧ operation.owner = addressManager then
      ((c.state.addOperations [(p, operation)]).addManagerOperation p).map fun s => { c with state := s }
    else none
  | .deviceDeletedCallback address isBackbone =>
    if c.isOutside then
      some { c with calls := .deviceDeletedCallback c.state.listOfContainers.head? address isBackbone :: c.calls }
    else none
  | .setDevice address device =>
    if c.isOutside then
      some { c with state := { c.state with devices := Function.update c.state.devices address device } }
    else none
  | .confirm p errorCode value =>
    if c.loop = .idle ∧ c.calls = [] ∧ p ∈ c.state.sent.map Sent.operation ∧
      (c.state.operations p).owner ≠ addressManager then
      c.confirm p errorCode value
    else none
  | .cleanEmptyContainers currentTime timeoutValue =>
    if c.loop = .idle ∧ c.calls = [] then
      some ⟨c.state, .cleanEmptyContainers c.state.listOfContainers.head? currentTime timeoutValue [] none, []⟩
    else none
  | .handlerReturns =>
    match c.calls with
    | .handler :: calls => some { c with calls := calls }
    | _ => none
  | .proceed currentTime => c.proceed currentTime

end Processor

end Isa100Gateway.Operations
