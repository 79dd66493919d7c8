import Isa100Gateway.NetworkEngine.Subnet
import Isa100Gateway.Lib.FirstFit

/-!
# Changes of parents (`TheoreticEngine.cpp`)

A device whose link to its parent is bad gets another parent, its backup or one of its candidates, and the children of a device that is removed get their backups. What is read of the neighbour tables, of the edges and of the outbound graphs stands in a record of its own: no change of parents writes it before it has ended.
-/

namespace Isa100Gateway.NetworkEngine

open FirstFit

structure RadioState where
  /-- The neighbour that is the preferred clock source of a device, 0 where there is none. -/
  preferedClockSource : Address16 → Address16
  /-- `deviceHasHighFailRateWithNeighbor`, which holds where there is no edge. -/
  hasHighFailRate : Address16 → Address16 → Bool
  evalEdgeCost : Address16 → Address16 → Option Int
  hasOutboundGraph : Address16 → Bool
  isManagerOrGateway : Address16 → Bool
  isEnabledInboundGraphEvaluation : Bool

def maxNoCandidates : Nat := 8

namespace Device

def deleteCandidateFromPosition (candidates : List Address16) (position : Nat) : List Address16 :=
  if position = maxNoCandidates - 1 then candidates.set position 0
  else (candidates.eraseIdx position ++ [0]).set (maxNoCandidates - position) 0

def deleteCandidate (candidate : Address16) (device : Device) : Device :=
  { device with
    candidates := (List.range maxNoCandidates).foldl (fun candidates i =>
      if candidates[i]? = some candidate then deleteCandidateFromPosition candidates i else
        candidates) device.candidates }

def addBadRateCandidate (candidate : Address16) (device : Device) : Device :=
  { device with devicesToIgnore := device.devicesToIgnore ++ [candidate] }

def setParent (parent : Address16) (device : Device) : Device := { device with parent := parent }

end Device

namespace Subnet

def updateDevice (s : Subnet) (a : Address16) (f : Device → Device) : Subnet :=
  match hdevice : s.getDevice a with
  | none => s
  | some device =>
    { s with
      subnetNodes := s.subnetNodes.set a (f device)
      nodes_ne_zero := by
        rw [OrderedMap.find_set, if_neg, s.nodes_ne_zero]
        rintro rfl
        exact Option.some_ne_none device (hdevice.symm.trans s.nodes_ne_zero) }

def setDeviceDestination (s : Subnet) (a : Address16) (destinations : DoubleExitDestinations) : Subnet :=
  { s with graphEdges := s.graphEdges.set a destinations }

def getBackupFor (s : Subnet) (a : Address16) : Address16 :=
  match s.graphEdges.find a with
  | some destinations => destinations.backup
  | none => 0

def addBadRateCandidate (s : Subnet) (device neighbor : Address16) : Subnet :=
  if (s.getDevice device).isSome ∧ (s.getDevice neighbor).isSome then
    (((s.updateDevice device (Device.addBadRateCandidate neighbor)).updateDevice neighbor
      (Device.addBadRateCandidate device)).updateDevice device (Device.deleteCandidate neighbor)).updateDevice neighbor
      (Device.deleteCandidate device)
  else s

/-- Follows the preferred clock sources; no result when they go on for more than `fuel` devices. -/
def checkPreferedClockSourceCycle (s : Subnet) (radio : RadioState) : Nat → Address16 → Address16 → Option Bool
  | 0, _, _ => none
  | fuel + 1, src, dst =>
    match s.getDevice src with
    | none => some false
    | some _ =>
      if src = dst then some true
      else s.checkPreferedClockSourceCycle radio fuel (radio.preferedClockSource src) dst

def countLevels (s : Subnet) : Nat → Device → UInt8 → Option UInt8
  | 0, _, _ => none
  | fuel + 1, node, level =>
    if node.isBackbone then some level
    else
      match s.getDevice node.parent with
      | none => some level
      | some parent => s.countLevels fuel parent (level + 1)

def getDeviceLevel (s : Subnet) (radio : RadioState) (a : Address16) : Option Int8 :=
  match s.getDevice a with
  | none => some (-1)
  | some node =>
    if radio.isManagerOrGateway a then some 0
    else (s.countLevels s.pathFuel node 0).map UInt8.toInt8

def checkFailRateOnNewPath (s : Subnet) (radio : RadioState) : Nat → List Address16 → Address16 → Option Bool
  | 0, _, _ => none
  | fuel + 1, visited, a =>
    match s.getDevice a with
    | none => some true
    | some device =>
      if device.isBackbone then some false
      else if a ∈ visited then some true
      else
        match s.getDevice device.parent with
        | none => some true
        | some _ =>
          if radio.hasHighFailRate a device.parent then some true
          else s.checkFailRateOnNewPath radio fuel (a :: visited) device.parent

def candidateIsEligibleAsNewParent (s : Subnet) (a candidate : Address16) : Bool :=
  match s.getDevice a, s.getDevice candidate with
  | some device, some candidateDevice =>
    (candidateDevice.isRouting ∨ candidateDevice.isBackbone) ∧ s.hasSpaceFor a candidate ∧
      !device.candidateIsBadRate candidate
  | _, _ => false

def newEdgeCostsMore (s : Subnet) (radio : RadioState) (child : Address16) (childDevice : Device)
    (newParent : Address16) : Option Bool :=
  match s.getDevice childDevice.parent with
  | none => none
  | some _ =>
    match radio.evalEdgeCost child childDevice.parent, radio.evalEdgeCost child newParent with
    | some costOldEdge, some costNewEdge => some (costNewEdge > costOldEdge)
    | _, _ => some false

def isTooLow (s : Subnet) (radio : RadioState) (isUrgentToChangeParent : Bool) (a : Address16) : Option Bool :=
  if isUrgentToChangeParent then some false else (s.getDeviceLevel radio a).map fun level => level > 1

def hasPreferedClockSource (s : Subnet) (radio : RadioState) (a : Address16) : Option Address16 → Option Bool
  | none => some false
  | some avoid => s.checkPreferedClockSourceCycle radio s.pathFuel a avoid

def backupIsGood (s : Subnet) (radio : RadioState) (child : Address16) (childDevice : Device)
    (isUrgentToChangeParent : Bool)
    (backup : Address16) (backupDevice : Device) (hasPreferedClockSource : Bool) : Option Bool :=
  if backupDevice.statusForReports ≠ .joinedAndConfigured ∨ childDevice.candidateIsBadRate backup ∨
    hasPreferedClockSource then
    some false
  else do
    if ← s.isTooLow radio isUrgentToChangeParent backup then return false
    return !radio.hasHighFailRate child backup

def backupAsNewParent (s : Subnet) (radio : RadioState) (child : Address16) (childDevice : Device)
    (avoid : Option Address16)
    (isUrgentToChangeParent : Bool) : Option (Option Address16) :=
  let backup := s.getBackupFor child
  match s.getDevice backup with
  | none => some none
  | some backupDevice => do
    let hasPreferedClockSource ← s.hasPreferedClockSource radio backup avoid
    if !(← s.backupIsGood radio child childDevice isUrgentToChangeParent backup backupDevice
      hasPreferedClockSource) then
      return none
    if isUrgentToChangeParent then return some backup
    if ← s.newEdgeCostsMore radio child childDevice backup then return none
    return some backup

def candidateIsGood (s : Subnet) (radio : RadioState) (child : Address16) (childDevice : Device)
    (candidate : Address16) :
    Option Bool :=
  match s.getDevice candidate with
  | none => some false
  | some candidateDevice =>
    if candidateDevice.statusForReports ≠ .joinedAndConfigured ∨
        (!candidateDevice.isBackbone ∧ !radio.hasOutboundGraph candidate) ∨ candidate = childDevice.parent then
      some false
    else do
      if ← s.checkFailRateOnNewPath radio s.pathFuel [] candidate then return false
      return !radio.hasHighFailRate child candidate

def candidateFits (s : Subnet) (child : Address16) (childDevice : Device) (candidate : Address16)
    (isPreferedClockSrcCycle hasPreferedClockSource : Bool) : Bool :=
  s.candidateIsEligibleAsNewParent child candidate ∧ !isPreferedClockSrcCycle ∧ !hasPreferedClockSource ∧
    !childDevice.candidateIsBadRate candidate ∧ !s.isBackupForDevice candidate child ∧
    (s.getDevice candidate).any fun candidateDevice => candidateDevice.parent ≠ child

def judgeCandidate (s : Subnet) (radio : RadioState) (child : Address16) (childDevice : Device)
    (avoid : Option Address16)
    (isUrgentToChangeParent : Bool) (candidate : Address16) : Option Verdict := do
  if !(← s.candidateIsGood radio child childDevice candidate) then return .skip
  if !isUrgentToChangeParent then
    if ← s.newEdgeCostsMore radio child childDevice candidate then return .stop
  if ← s.isTooLow radio isUrgentToChangeParent candidate then return .skip
  let isPreferedClockSrcCycle ← s.checkPreferedClockSourceCycle radio s.pathFuel candidate child
  let hasPreferedClockSource ← s.hasPreferedClockSource radio candidate avoid
  if s.candidateFits child childDevice candidate isPreferedClockSrcCycle hasPreferedClockSource then return .take
  return .skip

def findNewParent (s : Subnet) (radio : RadioState) (child : Address16) (childDevice : Device)
    (avoid : Option Address16)
    (isUrgentToChangeParent : Bool) : Option (Option Address16) := do
  match ← s.backupAsNewParent radio child childDevice avoid isUrgentToChangeParent with
  | some backup => return some backup
  | none => firstFit (s.judgeCandidate radio child childDevice avoid isUrgentToChangeParent) childDevice.candidates

/-- Where the backup becomes the parent, the outbound graphs of the backbone are read without a check. -/
def redirectDeviceToNewParent (s : Subnet) (device oldParent newParent : Address16) : Option Subnet :=
  if (s.getDevice device).isNone ∨ (s.getDevice newParent).isNone ∨ (s.getDevice oldParent).isNone then some s
  else if s.isBackupForDevice device newParent ∧ (s.backbone.bind s.getDevice).isNone then none
  else
    some (((((s.updateDevice device (Device.setParent newParent)).updateDevice device
      (Device.deleteCandidate newParent)).updateDevice newParent (Device.deleteCandidate device)).addBadRateCandidate
      device oldParent).setDeviceDestination device ⟨newParent, 0⟩)

def detectNewParentForDevice (s : Subnet) (radio : RadioState) (child : Address16) (avoid : Option Address16)
    (isUrgentToChangeParent : Bool) : Option (Subnet × Bool) :=
  match s.getDevice child, s.backbone.bind s.getDevice with
  | some childDevice, some _ =>
    if childDevice.statusForReports ≠ .joinedAndConfigured then some (s, false)
    else do
      match ← s.findNewParent radio child childDevice avoid isUrgentToChangeParent, s.getDevice childDevice.parent with
      | some newParent, some _ =>
        let s ← s.redirectDeviceToNewParent child childDevice.parent newParent
        return (s, true)
      | _, _ => return (s, false)
  | _, _ => some (s, false)

def isOldChild (s : Subnet) (device neighbor : Address16) : Bool :=
  match s.getDevice device, s.getDevice neighbor with
  | some phyDevice, some neighborDevice =>
    neighborDevice.statusForReports = .joinedAndConfigured ∧ neighbor ≠ phyDevice.parent ∧
      neighborDevice.parent = device ∧
      (neighborDevice.isRouting ∨ neighborDevice.isBackbone) ∧ s.candidateIsEligibleAsNewParent device neighbor ∧
      !phyDevice.candidateIsBadRate neighbor
  | _, _ => false

def redirectOldChild (radio : RadioState) (device : Address16) : List Address16 → Subnet → Option Subnet
  | [], s => some s
  | neighbor :: neighbors, s =>
    if s.isOldChild device neighbor then
      match s.detectNewParentForDevice radio neighbor (some device) true with
      | none => none
      | some (s', true) => some s'
      | some (s', false) => redirectOldChild radio device neighbors s'
    else redirectOldChild radio device neighbors s

def retryToFindNewParent (s : Subnet) (radio : RadioState) (device oldParent : Address16) : Option Subnet :=
  match s.getDevice device, s.getDevice oldParent with
  | some phyDevice, some _ =>
    if !radio.isEnabledInboundGraphEvaluation then some s
    else redirectOldChild radio device phyDevice.neighborsTable s
  | _, _ => some s

def backupOnRemoval (s : Subnet) (removingDevice child : Address16) : Option Address16 :=
  match s.getDevice child, s.getDevice (s.getBackupFor child) with
  | some device, some backupDevice =>
    if device.parent = removingDevice ∧ backupDevice.statusForReports =
      .joinedAndConfigured then some (s.getBackupFor child)
    else none
  | _, _ => none

def rehang (removingDevice : Address16) (s : Subnet) (neighbor : Address16) : Subnet :=
  match s.backupOnRemoval removingDevice neighbor with
  | none => s
  | some backup => s.updateDevice neighbor (Device.setParent backup)

def redirectChildParent (s : Subnet) (removingDevice : Address16) : Subnet :=
  match s.getDevice removingDevice with
  | none => s
  | some device => device.neighborsTable.foldl (rehang removingDevice) s

end Subnet

inductive ParentChange
  | detectNewParentForDevice (child : Address16) (avoid : Option Address16) (isUrgentToChangeParent : Bool)
  | retryToFindNewParent (device oldParent : Address16)
  | redirectDeviceToNewParent (device oldParent newParent : Address16)
  | redirectChildParent (removingDevice : Address16)

/-- No result stands for a walk that does not end, or for a null pointer that is followed. -/
def Subnet.changeParent (s : Subnet) (radio : RadioState) : ParentChange → Option Subnet
  | .detectNewParentForDevice child avoid isUrgentToChangeParent =>
    (s.detectNewParentForDevice radio child avoid isUrgentToChangeParent).map Prod.fst
  | .retryToFindNewParent device oldParent => s.retryToFindNewParent radio device oldParent
  | .redirectDeviceToNewParent device oldParent newParent => s.redirectDeviceToNewParent device oldParent newParent
  | .redirectChildParent removingDevice => some (s.redirectChildParent removingDevice)

end Isa100Gateway.NetworkEngine
