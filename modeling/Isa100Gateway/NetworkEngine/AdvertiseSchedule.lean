import Isa100Gateway.Lib.CellTable
import Isa100Gateway.SystemManager.EntitiesHelper

/-!
# The advertise schedule of a subnet

`obtainAdvAlgorithmData` gives a router the first free cell of the advertise chunk table, and `activateRouterRole`, `changeAdvertiseLinkPeriod` and `updateAdvPeriod` write its advertise link. A written link counts as configured at once. Of a device the model keeps the links and the advertise information of phyAttributes, of a link and of the information what these functions write in more than one way.
-/

namespace Isa100Gateway.AdvertiseSchedule

open EntitiesHelper (Schedule ScheduleType)

structure SubnetSettings where
  (timeslotLength joinAdvPeriod joinBbrAdvPeriod joinRxtxPeriod maxNumberOfLayers : UInt16)
  /-- `setTimeslotLength` divides by it. -/
  timeslotLength_ne_zero : timeslotLength ≠ 0

namespace SubnetSettings

def quartersec : Nat := 262144

def slotsPer250 (settings : SubnetSettings) : UInt16 := UInt16.ofNat (quartersec / settings.timeslotLength.toNat)

def slotsPerSec (settings : SubnetSettings) : UInt16 := settings.slotsPer250 * 4

def slotsPer30Sec (settings : SubnetSettings) : UInt16 := settings.slotsPerSec * 30

end SubnetSettings

def maxNrOfAdvPeriods : Nat := 30

def maxNrOfAdvBandwidthChuncks : Nat := 3

/-- The address of a device that joined. No such device has the address 0, which stands for a free cell. -/
abbrev Address16 := { address : UInt16 // address ≠ 0 }

/-- `advStartSlotIndex` and `advPeriods`. -/
abbrev Cell := Fin maxNrOfAdvBandwidthChuncks × Fin maxNrOfAdvPeriods

abbrev AdvertiseChuncksTable := Cell → UInt16

def cells : List Cell :=
  (List.finRange maxNrOfAdvPeriods).flatMap fun advPeriods =>
    (List.finRange maxNrOfAdvBandwidthChuncks).map fun advStartSlotIndex => (advStartSlotIndex, advPeriods)

def removeDeviceFromAdvertiseChuncksTable (table : AdvertiseChuncksTable) (device : Address16) :
    AdvertiseChuncksTable :=
  CellTable.clear 0 table device.1

structure AdvAlgorithmData where
  (advertiseStartSlot advertisePeriod txStartSlot rxStartSlot txRxPeriod : UInt16)
  superframeChannelBirth : UInt8
  channelOffset : UInt8

def startSlotAdv (advStartSlotIndex : Fin maxNrOfAdvBandwidthChuncks) : UInt16 :=
  match advStartSlotIndex.val with
  | 0 => 3
  | 1 => 13
  | _ => 15

def advertiseStartSlot (settings : SubnetSettings) (cell : Cell) : UInt16 :=
  UInt16.ofNat (cell.2 % settings.joinAdvPeriod.toNat) * settings.slotsPerSec + startSlotAdv cell.1

def advertisePeriod (settings : SubnetSettings) : UInt16 := settings.joinAdvPeriod * settings.slotsPerSec

def channelOffset (settings : SubnetSettings) (cell : Cell) : UInt8 :=
  UInt8.ofNat (cell.2 / settings.joinAdvPeriod.toNat * 4)

def cellData (settings : SubnetSettings) (cell : Cell) : AdvAlgorithmData where
  advertiseStartSlot := advertiseStartSlot settings cell
  advertisePeriod := advertisePeriod settings
  txStartSlot := startSlotAdv cell.1 + 4
  rxStartSlot := startSlotAdv cell.1 + 8
  txRxPeriod := settings.joinRxtxPeriod * settings.slotsPerSec
  superframeChannelBirth := (startSlotAdv cell.1).toUInt8
  channelOffset := channelOffset settings cell

def backboneData (settings : SubnetSettings) : AdvAlgorithmData where
  advertiseStartSlot := 1
  advertisePeriod := settings.joinBbrAdvPeriod * settings.slotsPerSec
  txStartSlot := 5
  rxStartSlot := 9
  txRxPeriod := settings.slotsPerSec
  superframeChannelBirth := 1
  channelOffset := 0

inductive RoleActivationStatus
  | NOT_ACTIVE | ACTIVE | ACTIVE_SLOW
  deriving DecidableEq

inductive LinkType
  | ADVERTISEMENT | JOIN_RESPONSE | TRANSMIT | RECEIVE
  deriving DecidableEq

inductive TdmaLinkTypes
  | DEFAULT | JOIN | APPLICATION | MANAGEMENT
  deriving DecidableEq

inductive TdmaLinkDir
  | INBOUND | OUTBOUND
  deriving DecidableEq

structure PhyLink where
  index : UInt16
  superframeIndex : UInt16
  type : LinkType
  role : TdmaLinkTypes
  direction : TdmaLinkDir
  schedType : ScheduleType
  schedule : Schedule
  chOffset : UInt8

structure PhyAdvJoinInfo where
  advScheduleType : ScheduleType
  advRx : Schedule
  rxScheduleType : ScheduleType
  joinRx : Schedule
  txScheduleType : ScheduleType
  joinTx : Schedule

structure Device where
  isBackbone : Bool
  isRouting : Bool
  hasRoleActivated : RoleActivationStatus
  linksTable : List PhyLink
  advInfo : Option PhyAdvJoinInfo
  configured : Option PhyLink

def defaultAdvertiseSuperframeId : UInt16 := 4

def scheduleType (interval : UInt16) : ScheduleType := if interval ≠ 0 then .OFFSET_AND_INTERVAL else .OFFSET

def createLink (index superframeIndex : UInt16) (type : LinkType) (role : TdmaLinkTypes) (direction : TdmaLinkDir)
    (schOffset schedInterval : UInt16) (chOffset : UInt8) : PhyLink where
  index := index
  superframeIndex := superframeIndex
  type := type
  role := role
  direction := direction
  schedType := scheduleType schedInterval
  schedule := { offset := schOffset, interval := schedInterval }
  chOffset := chOffset

def createAdvertiseLink (index schOffset schedInterval : UInt16) (chOffset : UInt8) : PhyLink :=
  createLink index defaultAdvertiseSuperframeId .ADVERTISEMENT .JOIN .OUTBOUND schOffset schedInterval chOffset

def writeLink (link : PhyLink) : List PhyLink → List PhyLink
  | [] => [link]
  | other :: links =>
    if other.index < link.index then other :: writeLink link links
    else if other.index = link.index then link :: links
    else link :: other :: links

def isAdvertiseLink (link : PhyLink) : Bool :=
  link.superframeIndex = defaultAdvertiseSuperframeId ∧ link.type = .ADVERTISEMENT ∧ link.role = .JOIN ∧
    link.direction = .OUTBOUND

namespace Device

def fresh (isBackbone isRouting : Bool) : Device where
  isBackbone := isBackbone
  isRouting := isRouting
  hasRoleActivated := .NOT_ACTIVE
  linksTable := []
  advInfo := none
  configured := none

def advertiseLink (device : Device) : Option PhyLink := device.linksTable.find? isAdvertiseLink

def writeAdvertiseLink (device : Device) (link : PhyLink) : Device :=
  { device with linksTable := writeLink link device.linksTable, configured := some link }

end Device

def roleOfPeriod (settings : SubnetSettings) (period : UInt16) : RoleActivationStatus :=
  if settings.slotsPer30Sec ≤ period then .ACTIVE_SLOW else .ACTIVE

def slowDown (settings : SubnetSettings) (period : UInt16) (link : PhyLink) : PhyLink :=
  if settings.slotsPer30Sec ≤ period then
    { link with schedType := .OFFSET, schedule := { link.schedule with interval := 0 } }
  else
    { link with schedType := .OFFSET_AND_INTERVAL, schedule := { link.schedule with interval := period } }

/-- `none` where the division by `join_adv_period` ends the program. -/
def obtainAdvAlgorithmData (settings : SubnetSettings) (table : AdvertiseChuncksTable) (address : Address16)
    (device : Device) : Option (Option AdvAlgorithmData × AdvertiseChuncksTable) :=
  if device.isBackbone then some (some (backboneData settings), table)
  else
    let table := removeDeviceFromAdvertiseChuncksTable table address
    match cells.find? fun cell => table cell = 0 with
    | none => some (none, table)
    | some cell =>
      if settings.joinAdvPeriod = 0 then none
      else some (some (cellData settings cell), Function.update table cell address.1)

/-- The indices that `getNextLinkID` returns one after the other. -/
structure LinkIDs where
  (advertise joinResponse transmitGroup receive : UInt16)

def activateRouterRole (settings : SubnetSettings) (table : AdvertiseChuncksTable) (address : Address16)
    (router : Device) (deviceLevel : Int8) (ids : LinkIDs) : Option (AdvertiseChuncksTable × Device) :=
  match obtainAdvAlgorithmData settings table address router with
  | none => none
  | some (none, table) => some (table, router)
  | some (some advData, table) =>
    let period :=
      if 0 < settings.maxNumberOfLayers ∧ settings.maxNumberOfLayers.toNat ≤
        deviceLevel.toInt then settings.slotsPer30Sec
      else advData.advertisePeriod
    let linkAdvertise := slowDown settings period
      (createAdvertiseLink ids.advertise advData.advertiseStartSlot period advData.channelOffset)
    let linkJR := createLink ids.joinResponse defaultAdvertiseSuperframeId .JOIN_RESPONSE .JOIN .OUTBOUND
      advData.txStartSlot settings.slotsPerSec 0
    let linkTransmitGroup := createLink ids.transmitGroup defaultAdvertiseSuperframeId .TRANSMIT .JOIN .OUTBOUND
      advData.txStartSlot settings.slotsPerSec 0
    let linkReceive := createLink ids.receive defaultAdvertiseSuperframeId .RECEIVE .JOIN .INBOUND
      advData.rxStartSlot settings.slotsPerSec 0
    let advJoinInfo : PhyAdvJoinInfo :=
      { advScheduleType := linkAdvertise.schedType
        advRx := { offset := linkAdvertise.schedule.offset, interval := settings.joinAdvPeriod * settings.slotsPerSec }
        rxScheduleType := linkJR.schedType
        joinRx := linkJR.schedule
        txScheduleType := linkReceive.schedType
        joinTx := linkReceive.schedule }
    let written := router.writeAdvertiseLink linkAdvertise
    some (table,
      { written with
        linksTable := writeLink linkReceive (writeLink linkTransmitGroup (writeLink linkJR written.linksTable))
        advInfo := some advJoinInfo
        hasRoleActivated := roleOfPeriod settings period })

def changeAdvertiseLinkPeriod (settings : SubnetSettings) (router : Device) (desiredPeriodInSlots : UInt16) :
    Bool × Device :=
  match router.advertiseLink with
  | none => (false, router)
  | some phyLink =>
    if phyLink.schedule.interval = desiredPeriodInSlots ∨
        settings.slotsPer30Sec ≤ desiredPeriodInSlots ∧ phyLink.schedule.interval = 0 then (true, router)
    else
      match router.advInfo with
      | none => (false, router)
      | some advJoinInfo =>
        let linkAdvertise := slowDown settings desiredPeriodInSlots
          (createAdvertiseLink phyLink.index phyLink.schedule.offset desiredPeriodInSlots 0)
        let advJoinInfo := { advJoinInfo with
          advScheduleType := linkAdvertise.schedType
          advRx := { offset := linkAdvertise.schedule.offset, interval :=
            settings.joinAdvPeriod * settings.slotsPerSec } }
        (true, { router.writeAdvertiseLink linkAdvertise with
          advInfo := some advJoinInfo
          hasRoleActivated := roleOfPeriod settings desiredPeriodInSlots })

/-- The period decides on the role after `advData` has been deleted; the value is taken to be still there. -/
def updateAdvPeriod (settings : SubnetSettings) (table : AdvertiseChuncksTable) (address : Address16)
    (router : Device) : Option (Bool × AdvertiseChuncksTable × Device) :=
  match obtainAdvAlgorithmData settings table address router with
  | none => none
  | some (none, table) => some (false, table, router)
  | some (some advData, table) =>
    -- without an advertise link the loop leaves the last link of the table behind
    match router.advertiseLink.or router.linksTable.getLast? with
    | none => some (false, table, router)
    | some phyLink =>
      if phyLink.schedType = .OFFSET ∨ settings.slotsPer30Sec ≤
        phyLink.schedule.interval then some (true, table, router)
      else
        match router.advertiseLink with
        | none => some (false, table, router)
        | some phyLink =>
          let linkAdvertise := createAdvertiseLink phyLink.index advData.advertiseStartSlot advData.advertisePeriod 0
          let advJoinInfo : PhyAdvJoinInfo :=
            { advScheduleType := linkAdvertise.schedType
              advRx := { offset := linkAdvertise.schedule.offset, interval :=
                settings.joinAdvPeriod * settings.slotsPerSec }
              rxScheduleType := scheduleType settings.slotsPerSec
              joinRx := { offset := advData.txStartSlot, interval := settings.slotsPerSec }
              txScheduleType := scheduleType advData.txRxPeriod
              joinTx := { offset := advData.rxStartSlot, interval := advData.txRxPeriod } }
          some (true, table, { router.writeAdvertiseLink linkAdvertise with
            advInfo := some advJoinInfo
            hasRoleActivated := roleOfPeriod settings advData.advertisePeriod })

structure State where
  settings : SubnetSettings
  advertiseChuncksTable : AdvertiseChuncksTable
  devices : Address16 → Option Device
  /-- The routers whose turn in `updateAdvertisePeriod` is still to come since the last reload. -/
  waiting : Address16 → Bool

def initial (settings : SubnetSettings) : State where
  settings := settings
  advertiseChuncksTable := fun _ => 0
  devices := fun _ => none
  waiting := fun _ => false

inductive Action
  | join (address : Address16) (isBackbone isRouting : Bool)
  | activate (address : Address16) (deviceLevel : Int8) (ids : LinkIDs)
  | changePeriod (address : Address16) (desiredPeriodInSlots : UInt16)
  | reload (settings : SubnetSettings)
  | update (address : Address16)
  | remove (address : Address16)

namespace State

/-- The turn of a device in `updateAdvertisePeriod`. One that is already configured with the period is passed over. -/
def updateDevice (s : State) (address : Address16) (device : Device) : Option State :=
  let s := { s with waiting := Function.update s.waiting address false }
  match device.advInfo with
  | none => some s
  | some phyAdvJoinInfo =>
    if phyAdvJoinInfo.advRx.interval.toNat = s.settings.joinAdvPeriod.toNat * s.settings.slotsPerSec.toNat then some s
    else (updateAdvPeriod s.settings s.advertiseChuncksTable address device).map fun result =>
      { s with
        advertiseChuncksTable := result.2.1
        devices := Function.update s.devices address (some result.2.2) }

def updateModelOnRemoveDevice (s : State) (deviceToRemove : Address16) (device : Device) : State :=
  { s with
    advertiseChuncksTable :=
      if device.isRouting then removeDeviceFromAdvertiseChuncksTable s.advertiseChuncksTable deviceToRemove
      else s.advertiseChuncksTable
    devices := Function.update s.devices deviceToRemove none }

def onDevice (s : State) (address : Address16) (f : Device → Option State) : Option State :=
  match s.devices address with
  | none => some s
  | some device => f device

end State

/-- `activateRouterRole` is called for backbones and routers, `updateAdvPeriod` for routers. After a reload every device waits for its turn; the turns may come in any order and with other steps in between. -/
def step (s : State) : Action → Option State
  | .join address isBackbone isRouting =>
    if s.devices address = none then
      some { s with devices := Function.update s.devices address (some (.fresh isBackbone isRouting)) }
    else some s
  | .activate address deviceLevel ids => s.onDevice address fun router =>
    if router.isBackbone ∨ router.isRouting then
      (activateRouterRole s.settings s.advertiseChuncksTable address router deviceLevel ids).map fun result =>
        { s with
          advertiseChuncksTable := result.1
          devices := Function.update s.devices address (some result.2)
          waiting := Function.update s.waiting address false }
    else some s
  | .changePeriod address desiredPeriodInSlots => s.onDevice address fun router =>
    let changed := (changeAdvertiseLinkPeriod s.settings router desiredPeriodInSlots).2
    some { s with devices := Function.update s.devices address (some changed) }
  | .reload settings => some { s with settings := settings, waiting := fun _ => true }
  | .update address => s.onDevice address fun device =>
    if device.isRouting then s.updateDevice address device else some s
  | .remove address => s.onDevice address fun device => some (s.updateModelOnRemoveDevice address device)

end Isa100Gateway.AdvertiseSchedule
