import Isa100Gateway.NetworkEngine.AppAllocation
import Isa100Gateway.Lib.FirstFit

/-!
# Reservation of application slots (`AppAllocation.cpp`)

The table of a subnet keeps for each slot the frequencies that are occupied, one bit for each. A reservation looks for a slot that both devices have free and for a frequency that is free in all slots of the period; it marks these slots. Slot numbers are counted in 16 bits.
-/

namespace Isa100Gateway.AppAllocation

inductive TdmaLinkTypes
  | default | join | application | management | neighborDiscovery | managementAcc | applicationBackup | udoFirmware
  deriving DecidableEq

def isAppLink (linkRole : TdmaLinkTypes) : Bool := linkRole = .application ∨ linkRole = .applicationBackup

structure Schedule where
  offset : UInt16
  interval : UInt16

structure PhyLink where
  superframeIndex : UInt16
  role : TdmaLinkTypes
  schedule : Schedule

inductive EngineOperationType
  | none | writeAttribute | readAttribute | deleteAttribute | updateGraph
  deriving DecidableEq

/-- An operation of a device that was not sent yet: the link is its physical entity, if it is one on a link. -/
structure UnsentOperation where
  type : EngineOperationType
  isOnLink : Bool
  physicalEntity : Option PhyLink

structure Device where
  isBackbone : Bool
  linksTable : List (Option PhyLink)
  /-- By index, the `sfPeriod`. -/
  superframesTable : List (UInt16 × Option UInt16)
  unsentOperations : List UnsentOperation

def Device.getLinkPeriod (device : Device) (link : PhyLink) : UInt16 :=
  if link.schedule.interval ≠ 0 then link.schedule.interval
  else
    match device.superframesTable.lookup link.superframeIndex with
    | some (some sfPeriod) => sfPeriod
    | _ => 0

/-- The links that `isFreeSlot` looks at: the application links of the table, then those of the operations. -/
def Device.appLinks (device : Device) : List PhyLink :=
  device.linksTable.reduceOption.filter (fun link => isAppLink link.role) ++
    ((device.unsentOperations.filter fun operation => operation.type = .writeAttribute ∧ operation.isOnLink).map
      UnsentOperation.physicalEntity).reduceOption

def overlapsNone (slot period : UInt16) (device : Device) (superframeLength : UInt16) : List PhyLink → Option Bool
  | [] => some true
  | link :: links => do
    if ← isOverlapping slot.toNat period.toNat link.schedule.offset.toNat (device.getLinkPeriod link).toNat
        superframeLength.toNat then
      some false
    else overlapsNone slot period device superframeLength links

def isFreeSlot (slot period : UInt16) (device : Device) (superframeLength : UInt16) : Option Bool :=
  overlapsNone slot period device superframeLength device.appLinks

def appSlotsLength : Nat := 3000

abbrev AppSlots := Fin appSlotsLength → UInt16

def freqMask (freq : UInt8) : UInt16 := UInt16.ofNat (1 <<< freq.toNat)

/-- As many rounds as there are slot numbers: a walk that has not ended then does not end. -/
def slotNumbers : Nat := UInt16.size

def allClear (appSlots : AppSlots) (mask period superframeLengthAPP : UInt16) : Nat → UInt16 → Option Bool
  | 0, _ => none
  | rounds + 1, currSlot =>
    if currSlot < superframeLengthAPP then
      if h : currSlot.toNat < appSlotsLength then
        if appSlots ⟨currSlot.toNat, h⟩ &&& mask ≠ 0 then some false
        else allClear appSlots mask period superframeLengthAPP rounds (currSlot + period)
      else none
    else some true

def updateSlots (change : UInt16 → UInt16) (period superframeLengthAPP : UInt16) :
    Nat → UInt16 → AppSlots → Option AppSlots
  | 0, _, _ => none
  | rounds + 1, currSlot, appSlots =>
    if currSlot < superframeLengthAPP then
      if h : currSlot.toNat < appSlotsLength then
        updateSlots change period superframeLengthAPP rounds (currSlot + period)
          (Function.update appSlots ⟨currSlot.toNat, h⟩ (change (appSlots ⟨currSlot.toNat, h⟩)))
      else none
    else some appSlots

def markSlots (mask period superframeLengthAPP : UInt16) : Nat → UInt16 → AppSlots → Option AppSlots :=
  updateSlots (· ||| mask) period superframeLengthAPP

/-- `reserveFreeSlot` for one slot and frequency: the table, if the frequency is free. A shift by 32 or more is undefined. -/
def reserveFreq (appSlots : AppSlots) (slot : UInt16) (freq : UInt8) (period superframeLengthAPP : UInt16) :
    Option (Option AppSlots) :=
  if freq < 32 then do
    if ← allClear appSlots (freqMask freq) period superframeLengthAPP slotNumbers slot then
      some (some (← markSlots (freqMask freq) period superframeLengthAPP slotNumbers slot appSlots))
    else some none
  else none

def invalidFreeSlot : UInt32 := 0xFFFFFFFF

def getSlot (slotFreq : UInt32) : UInt16 := (slotFreq >>> 4).toUInt16

def getFreq (slotFreq : UInt32) : UInt8 := (slotFreq &&& 0xF).toUInt8

structure Reservation where
  slotFreq : UInt32
  maxSlotDelay : UInt16
  appSlots : AppSlots

section Search

variable (appSlots : AppSlots) (period : UInt16) (sourceDevice destinationDevice : Device)
  (superframeLengthAPP : UInt16) (freqCount : UInt8)

def frequencies : List UInt8 :=
  if destinationDevice.isBackbone then [0] else (List.range' 1 (freqCount.toNat - 1)).map UInt8.ofNat

def reserveFirst (slot : UInt16) : List UInt8 → Option (Option (UInt8 × AppSlots))
  | [] => some none
  | freq :: rest => do
    match ← reserveFreq appSlots slot freq period superframeLengthAPP with
    | some reserved => some (some (freq, reserved))
    | none => reserveFirst slot rest

def isFreeForBoth (slot : UInt16) : Option Bool := do
  if ← isFreeSlot slot period sourceDevice superframeLengthAPP then
    if destinationDevice.isBackbone then some true
    else isFreeSlot slot period destinationDevice superframeLengthAPP
  else some false

def rollover (currSlot : Nat) : Nat := if appSlotsLength ≤ currSlot then currSlot - appSlotsLength else currSlot

def searchSlots (maxSlotDelay : UInt16) : Nat → Nat → Option Reservation
  | maxDelay + 2, currSlot => do
    let slot := rollover currSlot
    if ← isFreeForBoth period sourceDevice destinationDevice superframeLengthAPP (UInt16.ofNat slot) then
      match ← reserveFirst appSlots period superframeLengthAPP (UInt16.ofNat slot)
          (frequencies destinationDevice freqCount) with
      | some (freq, reserved) =>
        some ⟨UInt32.ofNat (slot <<< 4 ||| freq.toNat), UInt16.ofNat maxDelay, reserved⟩
      | none => searchSlots maxSlotDelay maxDelay (slot + 2)
    else searchSlots maxSlotDelay maxDelay (slot + 2)
  | _, _ => some ⟨invalidFreeSlot, maxSlotDelay, appSlots⟩

/-- No result if an index lies beyond the table, a loop does not end or a shift is undefined. -/
def reserveFreeSlot (startSlot maxSlotDelay : UInt16) : Option Reservation :=
  searchSlots appSlots period sourceDevice destinationDevice superframeLengthAPP freqCount maxSlotDelay
    maxSlotDelay.toNat (startSlot &&& 0xFFFE).toNat

end Search

end Isa100Gateway.AppAllocation
