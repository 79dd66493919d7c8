import Isa100Gateway.Lib.Probe

/-!
# The reports of `SAPStruct.h`

The structures that the system manager sends, their `VALID`, `SIZE` and walker methods, and the functions that consume them. `mem` is the memory from the start of a report on, as far as the report and beyond; `this` is an offset in it.
-/

namespace Isa100Gateway

namespace SapStruct

open MemoryProbe

variable (mem : Nat → UInt8)

def u8 (q : Nat) : Probe Nat := { value := (mem q).toNat, spans := [(q, 1)] }

def net16 (q : Nat) : Probe Nat :=
  { value := (mem q).toNat * 256 + (mem (q + 1)).toNat, spans := [(q, 2)] }

def raw16 (q : Nat) : Probe Nat :=
  { value := (mem q).toNat + (mem (q + 1)).toNat * 256, spans := [(q, 2)] }

def logHex (this : Nat) (p : Int) : Probe Unit := touch this (min p 1000).toNat

def checkRecords (this : Nat) (p : Int) (valid : Nat → Probe Bool) (next : Nat → Probe Nat) (k q : Nat) :
    Probe (Option Nat) := do
  let last ← checkAll valid next k q
  doIf (last = none) (logHex this p)
  pure last

def checkSize (header : Nat) (size : Probe Nat) (this : Nat) (p : Int) : Probe Bool :=
  if p < header then pure false
  else do
    let size ← size
    if p < size then do
      logHex this p
      pure false
    else pure true

def checkList (header : Nat) (start count : Probe Nat) (valid : Nat → Int → Probe Bool)
    (next : Nat → Probe Nat) (this : Nat) (p : Int) : Probe Bool :=
  if p < header then pure false
  else do
    let q ← start
    let k ← count
    let last ← checkRecords this p (fun q => valid q (p - (q - this))) next k q
    pure last.isSome

def walkSize (start count : Probe Nat) (next : Nat → Probe Nat) (this : Nat) : Probe Nat := do
  let q ← start
  let k ← count
  let last ← walk next k q
  pure (last - this)

def nextOf (size : Nat → Probe Nat) (this : Nat) : Probe Nat := do
  let size ← size this
  pure (this + size)

def visitList (start count : Probe Nat) (visit : Nat → Probe Unit) (next : Nat → Probe Nat) : Probe Unit := do
  let q ← start
  let k ← count
  visitAll visit next k q

def touchRecord (size : Nat → Probe Nat) (this : Nat) : Probe Unit := do
  let size ← size this
  touch this size

namespace DeviceListRsp

def VisibleString.size (q : Nat) : Probe Nat := do
  let size ← u8 mem q
  pure (1 + size)

def Device.stringPtr (this : Nat) : Nat → Probe Nat
  | 0 => pure (this + 28)
  | k + 1 => do
    let q ← Device.stringPtr this k
    let size ← VisibleString.size mem q
    pure (q + size)

def Device.getManufacturerPtr (this : Nat) : Probe Nat := Device.stringPtr mem this 0

def Device.getModelPtr (this : Nat) : Probe Nat := Device.stringPtr mem this 1

def Device.getRevisionPtr (this : Nat) : Probe Nat := Device.stringPtr mem this 2

def Device.getDeviceTagPtr (this : Nat) : Probe Nat := Device.stringPtr mem this 3

def Device.getSerialNoPtr (this : Nat) : Probe Nat := Device.stringPtr mem this 4

/-- The conditions `p_nPayloadSize < (deviceSize += getXPTR()->SIZE())`, up to the first that holds. -/
def Device.stringsValid (this : Nat) (p : Int) : List (Nat → Probe Nat) → Nat → Probe Bool
  | [], _ => pure true
  | getPtr :: getPtrs, deviceSize => do
    let q ← getPtr this
    let size ← VisibleString.size mem q
    if p < (deviceSize + size : Nat) then do
      logHex this p
      pure false
    else Device.stringsValid this p getPtrs (deviceSize + size)

def Device.valid (this : Nat) (p : Int) : Probe Bool :=
  if p < 28 then pure false
  else Device.stringsValid mem this p
    [Device.getManufacturerPtr mem, Device.getModelPtr mem, Device.getRevisionPtr mem,
      Device.getDeviceTagPtr mem, Device.getSerialNoPtr mem] 28

def Device.size (this : Nat) : Probe Nat := do
  let manufacturer ← Device.getManufacturerPtr mem this >>= VisibleString.size mem
  let model ← Device.getModelPtr mem this >>= VisibleString.size mem
  let revision ← Device.getRevisionPtr mem this >>= VisibleString.size mem
  let deviceTag ← Device.getDeviceTagPtr mem this >>= VisibleString.size mem
  let serialNo ← Device.getSerialNoPtr mem this >>= VisibleString.size mem
  pure (28 + manufacturer + model + revision + deviceTag + serialNo)

def Device.next (this : Nat) : Probe Nat := nextOf (Device.size mem) this

def valid (p : Int) : Probe Bool :=
  checkList 2 (pure 2) (net16 mem 0) (Device.valid mem) (Device.next mem) 0 p

def size : Probe Nat := walkSize (pure 2) (net16 mem 0) (Device.next mem) 0

def elements : Probe Unit :=
  visitList (pure 2) (net16 mem 0) (fun q => do
    touchRecord (Device.size mem) q
    let serialNo ← Device.getSerialNoPtr mem q
    touchRecord (VisibleString.size mem) serialNo) (Device.next mem)

end DeviceListRsp

namespace TopologyReportRsp

def Graph.size (this : Nat) : Probe Nat := do
  let members ← raw16 mem (this + 2)
  pure (4 + members * 16)

def Graph.next (this : Nat) : Probe Nat := nextOf (Graph.size mem) this

def Graph.valid (this : Nat) (p : Int) : Probe Bool := checkSize 4 (Graph.size mem this) this p

def Device.getGraphPtr (this : Nat) : Probe Nat := do
  let neighbors ← raw16 mem (this + 16)
  pure (this + 20 + 17 * neighbors)

def Device.valid (this : Nat) (p : Int) : Probe Bool :=
  checkList 20 (Device.getGraphPtr mem this) (net16 mem (this + 18)) (Graph.valid mem) (Graph.next mem) this p

def Device.size (this : Nat) : Probe Nat :=
  walkSize (Device.getGraphPtr mem this) (net16 mem (this + 18)) (Graph.next mem) this

def Device.next (this : Nat) : Probe Nat := nextOf (Device.size mem) this

def getBackbonePtr : Probe Nat := do
  let devices ← raw16 mem 0
  pure (4 + 20 * devices)

def valid (p : Int) : Probe Bool :=
  if p < 4 then pure false
  else do
    let count ← net16 mem 0
    let last ← checkRecords 0 p (fun q => Device.valid mem q (p - q)) (Device.next mem) count 4
    match last with
    | none => pure false
    | some q => do
      let backbones ← net16 mem 2
      if p < (backbones * 18 + q : Nat) then do
        logHex 0 p
        pure false
      else pure true

def size : Probe Nat := do
  let count ← net16 mem 0
  let last ← walk (Device.next mem) count 4
  let backbones ← net16 mem 2
  pure (backbones * 18 + last)

def elements : Probe Unit := do
  visitList (pure 4) (net16 mem 0) (fun q => do
    touchRecord (Device.size mem) q
    visitList (Device.getGraphPtr mem q) (net16 mem (q + 18)) (touchRecord (Graph.size mem)) (Graph.next mem))
    (Device.next mem)
  let backbones ← net16 mem 2
  doIf (backbones ≠ 0) do
    let backbone ← getBackbonePtr mem
    touch backbone (18 * backbones)

end TopologyReportRsp

namespace ScheduleReportRsp

def Superframe.size (this : Nat) : Probe Nat := do
  let links ← net16 mem (this + 8)
  pure (25 * links + 10)

def Superframe.next (this : Nat) : Probe Nat := nextOf (Superframe.size mem) this

def Superframe.valid (this : Nat) (p : Int) : Probe Bool := checkSize 10 (Superframe.size mem this) this p

def DeviceSchedule.valid (this : Nat) (p : Int) : Probe Bool :=
  checkList 18 (pure (this + 18)) (net16 mem (this + 16)) (Superframe.valid mem) (Superframe.next mem) this p

def DeviceSchedule.size (this : Nat) : Probe Nat :=
  walkSize (pure (this + 18)) (net16 mem (this + 16)) (Superframe.next mem) this

def DeviceSchedule.next (this : Nat) : Probe Nat := nextOf (DeviceSchedule.size mem) this

def getDeviceSchedulePtr : Probe Nat := do
  let channels ← u8 mem 0
  pure (3 + 2 * channels)

def valid (p : Int) : Probe Bool :=
  checkList 3 (getDeviceSchedulePtr mem) (net16 mem 1) (DeviceSchedule.valid mem) (DeviceSchedule.next mem) 0 p

def size : Probe Nat := walkSize (getDeviceSchedulePtr mem) (net16 mem 1) (DeviceSchedule.next mem) 0

def elements : Probe Unit :=
  visitList (getDeviceSchedulePtr mem) (net16 mem 1) (fun q => do
    touchRecord (DeviceSchedule.size mem) q
    visitList (pure (q + 18)) (net16 mem (q + 16)) (touchRecord (Superframe.size mem)) (Superframe.next mem))
    (DeviceSchedule.next mem)

end ScheduleReportRsp

namespace DeviceHealthRsp

def size : Probe Nat := do
  let count ← net16 mem 0
  pure (32 * count + 2)

def valid (p : Int) : Probe Bool := checkSize 2 (size mem) 0 p

def DeviceHealth.size (_this : Nat) : Probe Nat := pure 32

def DeviceHealth.next (this : Nat) : Probe Nat := nextOf DeviceHealth.size this

def elements : Probe Unit :=
  visitList (pure 2) (net16 mem 0) (touchRecord DeviceHealth.size) DeviceHealth.next

end DeviceHealthRsp

namespace ContractsAndRoutes

def RouteElement.size (this : Nat) : Probe Nat := do
  let isGraph ← u8 mem this
  pure (1 + if isGraph ≠ 0 then 2 else 16)

def RouteElement.next (this : Nat) : Probe Nat := nextOf (RouteElement.size mem) this

def RouteElement.valid (this : Nat) (p : Int) : Probe Bool :=
  if p < 1 then pure false
  else do
    let size ← RouteElement.size mem this
    let isGraph ← u8 mem this
    if p < size ∨ isGraph > 1 then do
      logHex this p
      pure false
    else pure true

def Route.selectorSize (this : Nat) : Nat → Probe Nat
  | 0 => pure (2 + 16)
  | 1 => pure 2
  | 2 => pure 16
  | 3 => pure 0
  | _ => do
    touch this 5
    touch (this + 5) 1
    touch (this + 6) 1
    touch (this + 7) 1
    pure 0

def Route.size (this : Nat) : Probe Nat := do
  let elements ← u8 mem (this + 2)
  let last ← walk (RouteElement.next mem) elements (this + 5)
  let alternative ← u8 mem (this + 3)
  let selector ← Route.selectorSize this alternative
  pure (last + selector - this)

def Route.next (this : Nat) : Probe Nat := nextOf (Route.size mem) this

def Route.valid (this : Nat) (p : Int) : Probe Bool :=
  if p < 5 then pure false
  else do
    let elements ← u8 mem (this + 2)
    let last ← checkRecords this p (fun q => RouteElement.valid mem q (p - (q - this))) (RouteElement.next mem)
      elements (this + 5)
    if last = none then pure false
    else do
      let size ← Route.size mem this
      let alternative ← u8 mem (this + 3)
      if p < size ∨ alternative > 3 then do
        logHex this p
        pure false
      else pure true

def DeviceContractsAndRoutes.getRoutePtr (this : Nat) : Probe Nat := do
  let contracts ← u8 mem (this + 16)
  pure (this + 18 + 45 * contracts)

def DeviceContractsAndRoutes.valid (this : Nat) (p : Int) : Probe Bool :=
  checkList 18 (DeviceContractsAndRoutes.getRoutePtr mem this) (u8 mem (this + 17)) (Route.valid mem)
    (Route.next mem) this p

def DeviceContractsAndRoutes.size (this : Nat) : Probe Nat :=
  walkSize (DeviceContractsAndRoutes.getRoutePtr mem this) (u8 mem (this + 17)) (Route.next mem) this

def DeviceContractsAndRoutes.next (this : Nat) : Probe Nat := nextOf (DeviceContractsAndRoutes.size mem) this

def valid (p : Int) : Probe Bool :=
  checkList 1 (pure 1) (u8 mem 0) (DeviceContractsAndRoutes.valid mem) (DeviceContractsAndRoutes.next mem) 0 p

def elements : Probe Unit :=
  visitList (pure 1) (u8 mem 0) (fun q => do
    touchRecord (DeviceContractsAndRoutes.size mem) q
    visitList (DeviceContractsAndRoutes.getRoutePtr mem q) (u8 mem (q + 17)) (fun q => do
      touchRecord (Route.size mem) q
      visitList (pure (q + 5)) (u8 mem (q + 2)) (touchRecord (RouteElement.size mem)) (RouteElement.next mem))
      (Route.next mem)) (DeviceContractsAndRoutes.next mem)

end ContractsAndRoutes

end SapStruct

end Isa100Gateway
