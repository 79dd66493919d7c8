import Isa100Gateway.NetworkEngine.Subnet

/-!
# Updates of graphs (`TheoreticEngine::evaluateGraph`, `RouteEngine.cpp`)

An evaluated graph is applied as two differences to the old one: the edges of devices whose graph table differs, and the edges that are no longer used. They are pushed into the marks on the edges of the subnet, and as operations to the graph tables of the devices. The evaluation itself is an argument.
-/

namespace Isa100Gateway.NetworkEngine

structure GraphState where
  graphId : Nat
  graphEdges : DoubleExitEdges
  edgeGraphs : Address16 → Address16 → List Nat
  /-- `phyAttributes.graphsTable`: the neighbours in the graphs of a device. -/
  graphsTable : Address16 → OrderedMap Nat (List Address16)

inductive GraphOperation
  | write (owner : Address16) (neighbors : List Address16)
  | delete (owner : Address16)

def GraphOperation.owner : GraphOperation → Address16
  | .write owner _ => owner
  | .delete owner => owner

def DoubleExitDestinations.neighbors (d : DoubleExitDestinations) : List Address16 :=
  (if d.prefered ≠ 0 then [d.prefered] else []) ++ if d.backup ≠ 0 then [d.backup] else []

/-- An old exit that is dropped stands in the preferred place if it is the only one. -/
def droppedExits (old used : DoubleExitDestinations) : DoubleExitDestinations :=
  let prefered := if old.prefered ≠ used.prefered ∧ old.prefered ≠ used.backup then old.prefered else 0
  if old.backup ≠ used.prefered ∧ old.backup ≠ used.backup then
    if prefered = 0 then ⟨old.backup, 0⟩ else ⟨prefered, old.backup⟩
  else ⟨prefered, 0⟩

def detectNotUsedEdges (edgesFromGraph usedEdges : DoubleExitEdges) : DoubleExitEdges :=
  edgesFromGraph.filterMap fun a old =>
    match usedEdges.find a with
    | none => some old
    | some used => if (droppedExits old used).prefered ≠ 0 then some (droppedExits old used) else none

namespace Subnet

def isJoinedAndConfigured (s : Subnet) (a : Address16) : Bool :=
  (s.getDevice a).any fun device => device.statusForReports = .joinedAndConfigured

def nodeHasChangedDestinations (t : GraphState) (src : Address16) (dst : DoubleExitDestinations) : Bool :=
  let neighNo := (if dst.prefered ≠ 0 then 1 else 0) + if dst.backup ≠ 0 then 1 else 0
  match (t.graphsTable src).find t.graphId with
  | none => true
  | some neighbors =>
    if neighbors.length = neighNo then
      if dst.prefered ≠ 0 then
        if dst.prefered ∉ neighbors then true
        else if dst.backup ≠ 0 then dst.backup ∉ neighbors
        else false
      else true
    else true

def detectChangedEdges (s : Subnet) (t : GraphState) (usedEdges : DoubleExitEdges) : DoubleExitEdges :=
  usedEdges.filterMap fun a d =>
    if s.isJoinedAndConfigured a ∧ nodeHasChangedDestinations t a d then some d else none

def changeEdgeGraphs (s : Subnet) (t : GraphState) (source destination : Address16) (f : List Nat → List Nat) :
    GraphState :=
  if source = 0 ∨ destination = 0 then t
  else if s.subnetEdges source destination then
    { t with
      edgeGraphs := fun a b => if a = source ∧ b = destination then f (t.edgeGraphs a b) else t.edgeGraphs a b }
  else t

def addGraphToEdge (s : Subnet) (t : GraphState) (source destination : Address16) : GraphState :=
  s.changeEdgeGraphs t source destination fun graphs => if t.graphId ∈ graphs then graphs else t.graphId :: graphs

def deleteGraphFromEdge (s : Subnet) (t : GraphState) (source destination : Address16) : GraphState :=
  s.changeEdgeGraphs t source destination fun graphs => graphs.filter (· ≠ t.graphId)

def theoreticModelUpdate (s : Subnet) (t : GraphState) (changedEdges notUsedEdges : DoubleExitEdges) : GraphState :=
  let t := notUsedEdges.entries.foldl (fun t e =>
    s.deleteGraphFromEdge (s.deleteGraphFromEdge t e.1 e.2.prefered) e.1 e.2.backup) t
  changedEdges.entries.foldl (fun t e => s.addGraphToEdge (s.addGraphToEdge t e.1 e.2.prefered) e.1 e.2.backup) t

def createGraphOperation (s : Subnet) (t : GraphState) (src : Address16) (destination : DoubleExitDestinations) :
    List GraphOperation :=
  if destination.prefered ≠ 0 ∧ s.isJoinedAndConfigured src then [.write src destination.neighbors]
  else if s.isJoinedAndConfigured src ∧ ((t.graphsTable src).find t.graphId).isSome then [.delete src]
  else []

/-- On an outbound graph the mark is taken from an edge that is no longer used, where a graph is left on it or on its reverse. -/
def releaseOutboundEdge (s : Subnet) (t : GraphState) (source destination : Address16) : GraphState :=
  if destination = 0 then t
  else if !s.subnetEdges source destination ∨ !s.subnetEdges destination source then t
  else if t.edgeGraphs source destination = [] ∧ t.edgeGraphs destination source = [] then t
  else s.deleteGraphFromEdge t source destination

def physicalModelUpdate (s : Subnet) (t : GraphState) (changedEdges notUsedEdges : DoubleExitEdges) (isInBound : Bool) :
    List GraphOperation × GraphState :=
  let changed := changedEdges.entries.flatMap fun e => s.createGraphOperation t e.1 e.2
  let notUsed := notUsedEdges.entries.flatMap fun e =>
    if (changedEdges.find e.1).isSome then []
    else s.createGraphOperation t e.1 ((t.graphEdges.find e.1).getD ⟨0, 0⟩)
  let t :=
    if isInBound then t
    else notUsedEdges.entries.foldl (fun t e =>
      s.releaseOutboundEdge (s.releaseOutboundEdge t e.1 e.2.prefered) e.1 e.2.backup) t
  (changed ++ notUsed, t)

/-- `evaluateGraph` with the edges that the evaluation has come to. -/
def evaluateGraph (s : Subnet) (t : GraphState) (usedEdges : DoubleExitEdges) (isInbound : Bool) :
    List GraphOperation × GraphState :=
  if (s.backbone.bind s.getDevice).isNone then ([], t)
  else if usedEdges.entries.isEmpty then ([], t)
  else
    let notUsedEdges := detectNotUsedEdges t.graphEdges usedEdges
    let changedEdges := s.detectChangedEdges t usedEdges
    let t := { t with graphEdges := usedEdges }
    let t := s.theoreticModelUpdate t changedEdges notUsedEdges
    s.physicalModelUpdate t changedEdges notUsedEdges isInbound

end Subnet

def GraphState.commitChanges (t : GraphState) (operation : GraphOperation) : GraphState :=
  { t with
    graphsTable := fun a =>
      if a = operation.owner then
        match operation with
        | .write _ neighbors => (t.graphsTable a).set t.graphId neighbors
        | .delete _ => (t.graphsTable a).erase t.graphId
      else t.graphsTable a }

end Isa100Gateway.NetworkEngine
