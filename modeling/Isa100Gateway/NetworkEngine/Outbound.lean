import Isa100Gateway.NetworkEngine.ParentTree
import Mathlib.Data.List.Sort

/-!
# Evaluation of an outbound graph (`OutboundAlgorithm.cpp`)

The edges of the inbound graph are reversed from the destination on, with a level for each node; then the backbone and what it leads to get the two lowest of the reversed neighbours as exits. A result `none` stands for a recursion that does not end.
-/

namespace Isa100Gateway.NetworkEngine

structure NodeLevel where
  nodeAddress : Address16
  level : Int8

abbrev OutboundGraphMap := OrderedMap Address16 (List NodeLevel)

structure Reversal where
  visited : List Address16
  nodeCost : OrderedMap Address16 Int16
  outboundGraph : OutboundGraphMap

namespace Reversal

def setVisited (r : Reversal) (a : Address16) : Reversal := { r with visited := a :: r.visited }

def lowerCost (r : Reversal) (source destination : Address16) : Reversal :=
  match r.nodeCost.find source, r.nodeCost.find destination with
  | some sourceCost, some destinationCost =>
    if destinationCost.toInt > sourceCost.toInt + 1 then
      { r with nodeCost := r.nodeCost.set destination (Int16.ofInt (sourceCost.toInt + 1)) }
    else r
  | _, _ => r

def levelOf (r : Reversal) (graphDestination source destination : Address16) : Int8 :=
  if destination ≠ graphDestination then (r.nodeCost.find source).elim 0 fun cost => Int8.ofInt (cost.toInt + 1) else 0

def setCost (r : Reversal) (graphDestination destination : Address16) (level : Int8) : Reversal :=
  if destination ≠ graphDestination then { r with nodeCost := r.nodeCost.set destination level.toInt16 }
  else { r with nodeCost := r.nodeCost.insert destination level.toInt16 }

def pushNode (r : Reversal) (a : Address16) (node : NodeLevel) : Reversal :=
  { r with outboundGraph := r.outboundGraph.set a ((r.outboundGraph.find a).getD [] ++ [node]) }

def reverseExit (visit : Reversal → Address16 → Option Reversal) (node : NodeLevel) (r : Reversal) (exit : Address16) :
    Option Reversal :=
  if exit ≠ 0 then visit (r.pushNode exit node) exit else some r

end Reversal

def preferDestination (destination : Address16) (exits : DoubleExitDestinations) (node : NodeLevel) :
    DoubleExitDestinations :=
  if node.nodeAddress = destination ∧ node.nodeAddress ≠ exits.prefered then ⟨node.nodeAddress, exits.prefered⟩
  else exits

def selectExits (destination : Address16) : List NodeLevel → Option DoubleExitDestinations
  | [] => none
  | [first] => some ⟨first.nodeAddress, 0⟩
  | first :: second :: rest =>
    let exits :=
      if second.nodeAddress ≠ first.nodeAddress then
        if second.nodeAddress = destination then ⟨second.nodeAddress, first.nodeAddress⟩
        else ⟨first.nodeAddress, second.nodeAddress⟩
      else ⟨first.nodeAddress, 0⟩
    some (rest.foldl (preferDestination destination) exits)

structure OutboundEdges where
  visited : List Address16
  usedEdges : DoubleExitEdges

namespace OutboundEdges

def skip (o : OutboundEdges) (a : Address16) : OutboundEdges := { o with visited := a :: o.visited }

def use (o : OutboundEdges) (a : Address16) (exits : DoubleExitDestinations) : OutboundEdges :=
  { visited := a :: o.visited, usedEdges := o.usedEdges.set a exits }

end OutboundEdges

def lowerLevel (nodeCost : OrderedMap Address16 Int16) (node : NodeLevel) : NodeLevel :=
  match nodeCost.find node.nodeAddress with
  | some cost => if cost.toInt < node.level.toInt then { node with level := cost.toInt8 } else node
  | none => node

/-- The list of each node with the costs that were lowered, in the order of the levels. -/
def sortedByLevel (r : Reversal) : OutboundGraphMap :=
  r.outboundGraph.filterMap fun _ nodes =>
    some ((nodes.map (lowerLevel r.nodeCost)).insertionSort fun a b => a.level.toInt ≤ b.level.toInt)

namespace Subnet

variable (s : Subnet)

def searchFuel : Nat := s.subnetNodes.entries.length + 2

def reverseEdge (graphDestination : Address16) : Nat → Address16 → Reversal → Address16 → Option Reversal
  | 0, _, _, _ => none
  | fuel + 1, iterationSource, r, iterationDestination =>
    if (s.getDevice iterationDestination).isNone then some r
    else if iterationDestination ∈ r.visited ∧ iterationSource ≠ iterationDestination then
      some (r.lowerCost iterationSource iterationDestination)
    else
      match s.graphEdges.find iterationDestination with
      | none => some (r.setVisited iterationDestination)
      | some exits =>
        let level := r.levelOf graphDestination iterationSource iterationDestination
        let visit := reverseEdge graphDestination fuel iterationDestination
        let node := ⟨iterationDestination, level⟩
        do
        let r ← ((r.setVisited iterationDestination).setCost graphDestination iterationDestination level).reverseExit
          visit node exits.prefered
        r.reverseExit visit node exits.backup

def createExit (create : OutboundEdges → Address16 → Option OutboundEdges) (o : OutboundEdges) (exit : Address16) :
    Option OutboundEdges :=
  if exit ≠ 0 then create o exit else some o

def createOutboundGraph (outboundGraph : OutboundGraphMap) (destination : Address16) :
    Nat → OutboundEdges → Address16 → Option OutboundEdges
  | 0, _, _ => none
  | fuel + 1, o, source =>
    if destination = 0 ∨ source = destination then some o
    else if (s.getDevice source).isNone ∨ source ∈ o.visited then some o
    else
      match (outboundGraph.find source).bind (selectExits destination) with
      | none => some (o.skip source)
      | some exits => do
        let o ← createExit (createOutboundGraph outboundGraph destination fuel) (o.use source exits) exits.prefered
        createExit (createOutboundGraph outboundGraph destination fuel) o exits.backup

def startReversal (destination : Address16) (exits : DoubleExitDestinations) : Reversal where
  visited := if (s.getDevice destination).isSome then [destination] else []
  nodeCost := OrderedMap.empty.insert destination (-1)
  outboundGraph :=
    (OrderedMap.empty.insert exits.prefered [⟨destination, -1⟩]).insert exits.backup [⟨destination, -1⟩]

def emptyReversal : Reversal := ⟨[], OrderedMap.empty, OrderedMap.empty⟩

def reverseFrom (destination : Address16) : Option Reversal :=
  match s.graphEdges.find destination with
  | some exits =>
    if exits.prefered ≠ 0 ∧ exits.backup ≠ 0 then do
      let r ← s.reverseEdge exits.prefered s.searchFuel exits.prefered
        (s.startReversal destination exits) exits.prefered
      s.reverseEdge exits.backup s.searchFuel exits.backup r exits.backup
    else s.reverseEdge destination s.searchFuel destination emptyReversal destination
  | none => s.reverseEdge destination s.searchFuel destination emptyReversal destination

def evaluateOutboundGraph (destination : Address16) : Option DoubleExitEdges :=
  match s.backbone with
  | none => some OrderedMap.empty
  | some backbone => do
    let r ← s.reverseFrom destination
    let o ← s.createOutboundGraph (sortedByLevel r) destination s.searchFuel ⟨[], OrderedMap.empty⟩ backbone
    some o.usedEdges

end Subnet

end Isa100Gateway.NetworkEngine
