import Isa100Gateway.Lib.OrderedMap
import Isa100Gateway.Lib.Chains

/-!
# Subnets of the system manager (`Subnet.cpp`, `Graph.cpp`)

The devices of a subnet with their parents and candidates, and the inbound graph with a preferred and a backup exit for each device. Address 0 stands for no device.
-/

namespace Isa100Gateway.NetworkEngine

abbrev Address16 := Nat

def addressGateway : Address16 := 2

structure DoubleExitDestinations where
  prefered : Address16
  backup : Address16
  deriving DecidableEq

abbrev DoubleExitEdges := OrderedMap Address16 DoubleExitDestinations

/-- The values of `statusForReports` that the routing tells apart. -/
inductive StatusForReports
  | joinedAndConfigured
  | other
  deriving DecidableEq

structure Device where
  parent : Address16
  statusForReports : StatusForReports
  isRouting : Bool
  isBackbone : Bool
  candidates : List Address16
  devicesToIgnore : List Address16
  /-- The addresses in the table `phyAttributes.neighborsTable`. -/
  neighborsTable : List Address16

namespace Device

def candidateIsBadRate (device : Device) (candidate : Address16) : Bool := candidate ∈ device.devicesToIgnore

end Device

structure Subnet where
  subnetNodes : OrderedMap Address16 Device
  backbone : Option Address16
  subnetEdges : Address16 → Address16 → Bool
  /-- The edges of the graph `DEFAULT_GRAPH_ID`. -/
  graphEdges : DoubleExitEdges
  /-- Whether a device has room for one more child: children, links, links on the edge and outbound chunks. -/
  hasSpaceFor : Address16 → Address16 → Bool
  nodes_ne_zero : subnetNodes.find 0 = none

namespace Subnet

def getDevice (s : Subnet) (a : Address16) : Option Device := s.subnetNodes.find a

theorem ne_zero_of_isSome {s : Subnet} {a : Address16} (h : (s.getDevice a).isSome) : a ≠ 0 := by
  rintro rfl
  unfold getDevice at h
  rw [s.nodes_ne_zero] at h
  cases h

def isBackupForDevice (s : Subnet) (device backup : Address16) : Bool :=
  (s.graphEdges.find device).any fun destinations => destinations.backup = backup

def parentOf (s : Subnet) (a : Address16) : Option Address16 :=
  (s.getDevice a).bind fun device => if (s.getDevice device.parent).isSome then some device.parent else none

def pathFuel (s : Subnet) : Nat := s.subnetNodes.entries.length + 1

end Subnet

end Isa100Gateway.NetworkEngine
