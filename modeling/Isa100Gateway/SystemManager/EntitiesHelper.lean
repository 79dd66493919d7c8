import Isa100Gateway.Lib.Stream

/-!
# Data-link entities on the wire

Neighbors, routes, links, superframes and graphs as the system manager writes them into a device's tables and as it reads them back. An entity is read into one that exists; its vectors are appended to.
-/

namespace Isa100Gateway.EntitiesHelper

open Stream

def unmarshallExtDLUint : Reader UInt16 := do
  let octet ← read8
  if octet &&& 0x01 = 0 then return (octet >>> 1).toUInt16
  else
    let nextOctet ← read8
    return nextOctet.toUInt16 <<< 7 ||| (octet >>> 1).toUInt16

def marshallExtDLUint (value : UInt16) : Output :=
  if value > 0x7FFF then .thrown
  else if value < 0x80 then .bytes [(value <<< 1).toUInt8 &&& 0xFE]
  else .bytes [(value <<< 1 ||| 0x01).toUInt8, (value >>> 7).toUInt8]

structure Address64 where
  value : List UInt8
  length : value.length = 8

def Address64.marshall (address : Address64) : Output := .bytes address.value

def Address64.unmarshall : Reader Address64 := fun bytes =>
  if h : 8 ≤ bytes.length then some (⟨bytes.take 8, List.length_take_of_le h⟩, bytes.drop 8) else none

def elements {α : Type} (count : UInt8) (vector : List α) (write : α → Output) : Output :=
  if count.toNat ≤ vector.length then .each write (vector.take count.toNat) else .thrown

structure ExtendGraph where
  graph_ID : UInt16
  lastHop : UInt8
  preferredBranch : UInt8

structure PhyNeighbor where
  index : UInt16
  address64 : Address64
  (groupCode clockSource extGrCnt diagLevel linkBacklog : UInt8)
  extendGraph : List ExtendGraph
  linkBacklogIndex : UInt16
  linkBacklogDur : UInt8

def ExtendGraph.marshallEntity (entry : ExtendGraph) : Output :=
  .bytes [(entry.graph_ID >>> 4).toUInt8,
    ((entry.graph_ID &&& 0x000F) <<< 4).toUInt8 ||| entry.lastHop <<< 3 ||| entry.preferredBranch <<< 2]

def ExtendGraph.unmarshallEntity : Reader ExtendGraph := do
  let high ← read8
  let octet ← read8
  return ⟨high.toUInt16 <<< 4 ||| ((octet &&& 0xF0) >>> 4).toUInt16, (octet &&& 0x08) >>> 3, (octet &&& 0x04) >>> 2⟩

namespace PhyNeighbor

def octet (clockSource extGrCnt diagLevel linkBacklog : UInt8) : UInt8 :=
  ((clockSource <<< 6) &&& (0xC0 : UInt8) ||| (extGrCnt <<< 4) &&& (0x30 : UInt8) |||
    (diagLevel <<< 2) &&& (0x0C : UInt8) ||| (linkBacklog <<< 1) &&& (0x02 : UInt8)) &&& (0xFE : UInt8)

def marshallBacklog (entity : PhyNeighbor) : Output :=
  marshallExtDLUint entity.linkBacklogIndex ++ .bytes [entity.linkBacklogDur]

def unmarshallBacklog : Reader (UInt16 × UInt8) := do
  let linkBacklogIndex ← unmarshallExtDLUint
  let linkBacklogDur ← read8
  return (linkBacklogIndex, linkBacklogDur)

def marshallEntity (entity : PhyNeighbor) : Output :=
  marshallExtDLUint entity.index ++ (entity.address64.marshall ++ (.bytes [entity.groupCode] ++
    (.bytes [octet entity.clockSource entity.extGrCnt entity.diagLevel entity.linkBacklog] ++ (elements
      entity.extGrCnt entity.extendGraph ExtendGraph.marshallEntity ++
        Output.when (entity.linkBacklog = 1) entity.marshallBacklog))))

def unmarshallEntity (entity : PhyNeighbor) : Reader PhyNeighbor := do
  let index ← unmarshallExtDLUint
  let address64 ← Address64.unmarshall
  let groupCode ← read8
  let octet ← read8
  let extGrCnt := (octet &&& 0x30) >>> 4
  let linkBacklog := (octet &&& 0x02) >>> 1
  let extendGraph ← readList ExtendGraph.unmarshallEntity extGrCnt.toNat
  let backlog ← readWhen (linkBacklog = 1) unmarshallBacklog (entity.linkBacklogIndex, entity.linkBacklogDur)
  return ⟨index, address64, groupCode, (octet &&& 0xC0) >>> 6, extGrCnt, (octet &&& 0x0E) >>> 2, linkBacklog,
    entity.extendGraph ++ extendGraph, backlog.1, backlog.2⟩

end PhyNeighbor

inductive RouteOption
  | UseBbrContractID | UseContractID | UseDestinationAddress | UseDefaultRoute

def RouteOption.value : RouteOption → UInt8
  | .UseBbrContractID => 0
  | .UseContractID => 1
  | .UseDestinationAddress => 2
  | .UseDefaultRoute => 3

structure PhyRoute where
  index : UInt16
  alternative : UInt8
  forwardLimit : UInt8
  route : List UInt16
  selector : UInt16
  sourceAddress : UInt32

namespace PhyRoute

def octet (size alternative : UInt8) : UInt8 :=
  ((size <<< 4) &&& (0xF0 : UInt8) ||| (alternative <<< 2) &&& (0xC : UInt8)) &&& (0xFC : UInt8)

/-- With an octet as its counter, the loop over more than 255 elements does not end. -/
def marshallRoute (entity : PhyRoute) : Output :=
  if entity.route.length < 256 then .each (fun element => .bytes (write16 element)) entity.route else .thrown

/-- The source address goes into the sixteen bits of the argument. -/
def marshallEntity (entity : PhyRoute) : Output :=
  marshallExtDLUint entity.index ++ (.bytes [octet (UInt8.ofNat entity.route.length) entity.alternative] ++
    (.bytes [entity.forwardLimit] ++ (entity.marshallRoute ++ (Output.when
      (entity.alternative ≠ RouteOption.UseDefaultRoute.value) (.bytes (write16 entity.selector)) ++ Output.when
        (entity.alternative = RouteOption.UseBbrContractID.value) (marshallExtDLUint entity.sourceAddress.toUInt16)))))

/-- The source address is read as four octets. -/
def unmarshallEntity (entity : PhyRoute) : Reader PhyRoute := do
  let index ← unmarshallExtDLUint
  let octet ← read8
  let routeSize := (octet &&& 0xF0) >>> 4
  let alternative := (octet &&& 0x0C) >>> 2
  let forwardLimit ← read8
  let route ← readList read16 routeSize.toNat
  let selector ← readWhen (alternative < 2) read16 entity.selector
  let sourceAddress ← readWhen (alternative = 0) read32 0
  return ⟨index, alternative, forwardLimit, entity.route ++ route, selector, sourceAddress⟩

end PhyRoute

inductive ScheduleType
  | OFFSET | OFFSET_AND_INTERVAL | RANGE | BITMAP
  deriving DecidableEq

def ScheduleType.value : ScheduleType → UInt8
  | .OFFSET => 0
  | .OFFSET_AND_INTERVAL => 1
  | .RANGE => 2
  | .BITMAP => 3

def ScheduleType.fromUint8 (value : UInt8) : ScheduleType :=
  if value = 1 then .OFFSET_AND_INTERVAL else if value = 2 then .RANGE else if value = 3 then .BITMAP else .OFFSET

def priorityTypeFromUint8 (value : UInt8) : UInt8 := if value = 1 then 1 else 0

structure Schedule where
  offset : UInt16
  interval : UInt16

structure PhyLink where
  index : UInt16
  superframeIndex : UInt16
  type : UInt8
  template1 : UInt16
  template2 : UInt16
  neighborType : UInt8
  graphType : UInt8
  schedType : ScheduleType
  chType : UInt8
  priorityType : UInt8
  neighbor : UInt16
  graphID : UInt16
  schedule : Schedule
  chOffset : UInt8
  priority : UInt8

def writeLow16 (value : UInt16) : List UInt8 := [value.toUInt8, (value >>> 8).toUInt8]

def readLow16 : Reader UInt16 := do
  let octet1 ← read8
  let octet2 ← read8
  return octet2.toUInt16 <<< 8 ||| octet1.toUInt16

def Schedule.marshall (schedule : Schedule) : ScheduleType → Output
  | .OFFSET => marshallExtDLUint schedule.offset
  | .OFFSET_AND_INTERVAL => marshallExtDLUint schedule.offset ++ marshallExtDLUint schedule.interval
  | .RANGE => marshallExtDLUint schedule.offset ++ marshallExtDLUint schedule.interval
  | .BITMAP => .bytes (writeLow16 schedule.interval) ++ .bytes (writeLow16 schedule.offset)

def Schedule.readOffsetAndInterval : Reader Schedule := do
  let offset ← unmarshallExtDLUint
  let interval ← unmarshallExtDLUint
  return ⟨offset, interval⟩

def Schedule.unmarshall (schedule : Schedule) : ScheduleType → Reader Schedule
  | .OFFSET => do
    let offset ← unmarshallExtDLUint
    return { schedule with offset := offset }
  | .OFFSET_AND_INTERVAL => readOffsetAndInterval
  | .RANGE => readOffsetAndInterval
  | .BITMAP => do
    let interval ← readLow16
    let offset ← readLow16
    return ⟨offset, interval⟩

namespace PhyLink

def IsTRx (type : UInt8) : Prop := type &&& 0x80 ≠ 0 ∧ type &&& 0x40 ≠ 0

instance (type : UInt8) : Decidable (IsTRx type) := inferInstanceAs (Decidable (_ ∧ _))

def octet (neighborType graphType : UInt8) (schedType : ScheduleType) (chType priorityType : UInt8) : UInt8 :=
  neighborType <<< 6 ||| graphType <<< 4 ||| schedType.value <<< 2 ||| chType <<< 1 ||| priorityType

def marshallEntity (entity : PhyLink) : Output :=
  marshallExtDLUint entity.index ++ (marshallExtDLUint entity.superframeIndex ++ (.bytes [entity.type] ++
    (marshallExtDLUint entity.template1 ++ (Output.when (IsTRx entity.type) (marshallExtDLUint entity.template2) ++
      (.bytes [octet entity.neighborType entity.graphType entity.schedType entity.chType entity.priorityType] ++
        (Output.when (entity.neighborType ≠ 0) (marshallExtDLUint entity.neighbor) ++
          (Output.when (entity.graphType ≠ 0) (marshallExtDLUint entity.graphID) ++
            (entity.schedule.marshall entity.schedType ++
              (Output.when (entity.chType ≠ 0) (.bytes [entity.chOffset]) ++
                Output.when (entity.priorityType ≠ 0) (.bytes [entity.priority]))))))))))

def unmarshallEntity (entity : PhyLink) : Reader PhyLink := do
  let index ← unmarshallExtDLUint
  let superframeIndex ← unmarshallExtDLUint
  let type ← read8
  let template1 ← unmarshallExtDLUint
  let template2 ← readWhen (IsTRx type) unmarshallExtDLUint entity.template2
  let octet ← read8
  let neighborType := (octet &&& 0xC0) >>> 6
  let graphType := (octet &&& 0x30) >>> 4
  let schedType := ScheduleType.fromUint8 ((octet &&& 0x0C) >>> 2)
  let chType := (octet &&& 0x02) >>> 1
  let priorityType := priorityTypeFromUint8 (octet &&& 0x01)
  let neighbor ← readWhen (neighborType ≠ 0) unmarshallExtDLUint entity.neighbor
  let graphID ← readWhen (graphType ≠ 0) unmarshallExtDLUint entity.graphID
  let schedule ← entity.schedule.unmarshall schedType
  let chOffset ← readWhen (chType ≠ 0) read8 entity.chOffset
  let priority ← readWhen (priorityType = 1) read8 entity.priority
  return ⟨index, superframeIndex, type, template1, template2, neighborType, graphType, schedType, chType, priorityType,
    neighbor, graphID, schedule, chOffset, priority⟩

end PhyLink

def randomizeSlowHop : UInt8 := 2

structure PhySuperframe where
  index : UInt16
  tsDur : UInt16
  chIndex : UInt16
  (chBirth sfType priority chMapOv idleUsed : UInt8)
  (sfPeriod sfBirth chRate chMap : UInt16)
  idleTimer : Int32
  rndSlots : UInt8

namespace PhySuperframe

def octet (sfType priority chMapOv idleUsed : UInt8) : UInt8 :=
  (sfType &&& 3) <<< 6 ||| (priority &&& 0xF) <<< 2 ||| (chMapOv &&& 1) <<< 1 ||| (idleUsed &&& 1)

def marshallEntity (entity : PhySuperframe) : Output :=
  marshallExtDLUint entity.index ++ (.bytes (write16 entity.tsDur) ++ (marshallExtDLUint entity.chIndex ++
    (.bytes [entity.chBirth] ++
      (.bytes [octet entity.sfType entity.priority entity.chMapOv entity.idleUsed] ++
        (.bytes (write16 entity.sfPeriod) ++
        (.bytes (write16 entity.sfBirth) ++ (marshallExtDLUint entity.chRate ++
          (Output.when (entity.chMapOv = 1) (.bytes (write16 entity.chMap)) ++
            (Output.when (entity.idleUsed = 1) (.bytes (write32 entity.idleTimer.toUInt32)) ++
              Output.when (entity.sfType = randomizeSlowHop) (.bytes [entity.rndSlots]))))))))))

def unmarshallEntity (entity : PhySuperframe) : Reader PhySuperframe := do
  let index ← unmarshallExtDLUint
  let tsDur ← read16
  let chIndex ← unmarshallExtDLUint
  let chBirth ← read8
  let octet ← read8
  let sfType := (octet &&& 0xC0) >>> 6
  let chMapOv := (octet &&& 0x2) >>> 1
  let idleUsed := octet &&& 1
  let sfPeriod ← read16
  let sfBirth ← read16
  let chRate ← unmarshallExtDLUint
  let chMap ← readWhen (chMapOv = 1) read16 entity.chMap
  let idleTimer ← readWhen (idleUsed = 1) (do let value ← read32; pure value.toInt32) entity.idleTimer
  let rndSlots ← readWhen (sfType = randomizeSlowHop) read8 entity.rndSlots
  return ⟨index, tsDur, chIndex, chBirth, sfType, (octet &&& 0x3C) >>> 2, chMapOv, idleUsed, sfPeriod, sfBirth, chRate,
    chMap, idleTimer, rndSlots⟩

end PhySuperframe

structure PhyGraph where
  index : UInt16
  preferredBranch : UInt8
  neighborCount : UInt8
  queue : UInt8
  maxLifetime : UInt16
  neighbors : List UInt16

namespace PhyGraph

def octet (preferredBranch neighborCount queue : UInt8) : UInt8 :=
  (preferredBranch <<< 7) &&& (0x80 : UInt8) ||| (neighborCount <<< 4) &&& (0x70 : UInt8) ||| queue &&& 0x0F

def marshallEntity (entity : PhyGraph) : Output :=
  marshallExtDLUint entity.index ++ (.bytes [octet entity.preferredBranch entity.neighborCount entity.queue] ++
    (marshallExtDLUint entity.maxLifetime ++ elements entity.neighborCount entity.neighbors marshallExtDLUint))

def unmarshallEntity (entity : PhyGraph) : Reader PhyGraph := do
  let index ← unmarshallExtDLUint
  let octet ← read8
  let neighborCount := (octet &&& 0x70) >>> 4
  let maxLifetime ← unmarshallExtDLUint
  let neighbors ← readList unmarshallExtDLUint neighborCount.toNat
  return ⟨index, (octet &&& 0x80) >>> 7, neighborCount, octet &&& 0x0F, maxLifetime, entity.neighbors ++ neighbors⟩

end PhyGraph

end Isa100Gateway.EntitiesHelper
