import Isa100Gateway.Lib.Stream

/-!
# Application messages of the system manager

Attribute identifiers and the bodies of the execute, read, write and alert messages: how they are appended to the payload of a message and extracted from it. An exception is a missing result.
-/

namespace Isa100Gateway.PDUUtils

open Stream

inductive AttributeType
  | notIndexed | singlyIndexed | doublyIndexed
  deriving DecidableEq

structure ExtensibleAttributeIdentifier where
  attributeType : AttributeType
  attributeID : UInt16
  oneIndex : UInt16
  twoIndex : UInt16
  deriving DecidableEq

namespace ExtensibleAttributeIdentifier

def new : ExtensibleAttributeIdentifier := ⟨.notIndexed, 0, 0, 0⟩

/-- The identifier is cut to 12 bits. -/
def ofID (attributeID : UInt16) : ExtensibleAttributeIdentifier := ⟨.notIndexed, attributeID &&& 0x0FFF, 0, 0⟩

def stored (index : UInt16) : UInt16 := if index > 0x7F then 0x8000 ||| index else index

def ofOneIndex (attributeID oneIndex : UInt16) : ExtensibleAttributeIdentifier :=
  ⟨.singlyIndexed, attributeID &&& 0x0FFF, stored oneIndex, 0⟩

def ofTwoIndices (attributeID oneIndex twoIndex : UInt16) : ExtensibleAttributeIdentifier :=
  ⟨.doublyIndexed, attributeID &&& 0x0FFF, stored oneIndex, stored twoIndex⟩

def marshallIndex (index : UInt16) : List UInt8 :=
  if index &&& 0xFF00 = 0 then [index.toUInt8] else [(index >>> 8).toUInt8, index.toUInt8]

def formBits : AttributeType → UInt8
  | .notIndexed => 0x00
  | .singlyIndexed => 0x01
  | .doublyIndexed => 0x02

/-- The first octets: the form of the indices with an identifier of six or of twelve bits. -/
def marshallID (a : ExtensibleAttributeIdentifier) : List UInt8 :=
  if a.attributeID >>> 6 = 0 then [(formBits a.attributeType <<< 6) ||| a.attributeID.toUInt8]
  else
    [(((0x03 : UInt8) <<< 2 ||| formBits a.attributeType) <<< 4) ||| (a.attributeID >>> 8).toUInt8,
      a.attributeID.toUInt8]

def marshallIndices (a : ExtensibleAttributeIdentifier) : List UInt8 :=
  match a.attributeType with
  | .notIndexed => []
  | .singlyIndexed => marshallIndex a.oneIndex
  | .doublyIndexed => marshallIndex a.oneIndex ++ marshallIndex a.twoIndex

def marshall (a : ExtensibleAttributeIdentifier) : List UInt8 := a.marshallID ++ a.marshallIndices

def unmarshallID : Reader (UInt16 × UInt8) := do
  let value ← read8
  if value &&& 0xC0 ≠ 0xC0 then return ((value &&& 0x3F).toUInt16, (value &&& 0xC0) >>> 6)
  else
    let low ← read8
    return ((value &&& 0x0F).toUInt16 <<< 8 ||| low.toUInt16, (value &&& 0xF0) >>> 4)

def unmarshallIndex : Reader UInt16 := do
  let value ← read8
  if value &&& 0x80 = 0 then return value.toUInt16
  else
    let low ← read8
    return value.toUInt16 <<< 8 ||| low.toUInt16

/-- The high octet of a second index of fifteen bits is taken from the first index. -/
def unmarshallTwoIndex (oneIndex : UInt16) : Reader UInt16 := do
  let value ← read8
  if value &&& 0x80 = 0 then return value.toUInt16
  else
    let low ← read8
    return oneIndex <<< 8 ||| low.toUInt16

def unmarshall (self : ExtensibleAttributeIdentifier) : Reader ExtensibleAttributeIdentifier := do
  let (attributeID, attributeFormat) ← unmarshallID
  if attributeFormat &&& 0x01 ≠ 0 then
    let oneIndex ← unmarshallIndex
    return { self with attributeType := .singlyIndexed, attributeID := attributeID, oneIndex := oneIndex }
  else if attributeFormat &&& 0x02 ≠ 0 then
    let oneIndex ← unmarshallIndex
    let twoIndex ← unmarshallTwoIndex oneIndex
    return ⟨.doublyIndexed, attributeID, oneIndex, twoIndex⟩
  else return { self with attributeID := attributeID }

def skipIndex (payload : List UInt8) (size : Nat) : Option Nat :=
  (payload[size]?).map fun value => if value &&& 0x80 = 0 then size + 1 else size + 2

def skipIndices (attributeFormat : UInt8) (payload : List UInt8) (size : Nat) : Option Nat :=
  if attributeFormat &&& 0x03 ≠ 0 then
    if attributeFormat &&& 0x01 ≠ 0 then skipIndex payload size
    else (skipIndex payload size).bind (skipIndex payload)
  else some size

/-- The messages stay below the 65536 octets at which the `Uint16` of the source would wrap. -/
def getSize (payload : List UInt8) (position : Nat) : Option Nat :=
  (payload[position]?).bind fun value =>
    (if value &&& 0xC0 ≠ 0xC0 then skipIndices ((value &&& 0xC0) >>> 6) payload (position + 1)
      else skipIndices ((value &&& 0xF0) >>> 4) payload (position + 2)).map fun size => size - position

end ExtensibleAttributeIdentifier

inductive PrimitiveType
  | request | response
  deriving DecidableEq

inductive ServiceType
  | publish | alertReport | alertAcknowledge | read | write | execute | tunnel
  deriving DecidableEq

structure ClientServerPDU where
  primitiveType : PrimitiveType
  serviceInfo : ServiceType
  sourceObjectID : UInt16
  destinationObjectID : UInt16
  appHandle : UInt16
  payload : List UInt8

structure ExecuteRequestPDU where
  methodID : UInt8
  parameters : List UInt8

structure ResponsePDU where
  forwardCongestionNotificationEcho : Bool
  feedbackCode : UInt8
  value : List UInt8

structure WriteResponsePDU where
  forwardCongestionNotificationEcho : Bool
  feedbackCode : UInt8

structure WriteRequestPDU where
  targetAttribute : ExtensibleAttributeIdentifier
  value : List UInt8

structure ReadRequestPDU where
  targetAttribute : ExtensibleAttributeIdentifier

structure TAINetworkTimeValue where
  currentTAI : UInt32
  fractionalTAI : UInt16

structure AlertReportPDU where
  alertID : UInt8
  detectingObjectTransportLayerPort : UInt16
  detectingObjectID : UInt16
  detectionTime : TAINetworkTimeValue
  (alertClass alarmDirection alertCategory alertPriority alertType : UInt8)
  alertValueSize : UInt16
  alertValue : List UInt8

def AlertReportPDU.new (alertID : UInt8) (detectingObjectTransportLayerPort detectingObjectID : UInt16)
    (detectionTime : TAINetworkTimeValue) (alertClass alarmDirection alertCategory alertPriority alertType : UInt8)
    (alertValue : List UInt8) : Option AlertReportPDU :=
  if alertClass > 0x01 then none
  else if alarmDirection > 0x01 then none
  else if alertCategory > 0x03 then none
  else if alertPriority > 0x0F then none
  else
    some ⟨alertID, detectingObjectTransportLayerPort, detectingObjectID, detectionTime, alertClass, alarmDirection,
      alertCategory, alertPriority, alertType, UInt16.ofNat alertValue.length, alertValue⟩

def TAINetworkTimeValue.marshall (time : TAINetworkTimeValue) : List UInt8 :=
  write32 time.currentTAI ++ write16 time.fractionalTAI

def TAINetworkTimeValue.unmarshall : Reader TAINetworkTimeValue := do
  let currentTAI ← read32
  let fractionalTAI ← read16
  return ⟨currentTAI, fractionalTAI⟩

def lengthField (parametersSize : UInt16) : List UInt8 :=
  if parametersSize ≤ 0x7F then [parametersSize.toUInt8]
  else [((parametersSize ||| 0x8000) >>> 8).toUInt8, (parametersSize ||| 0x8000).toUInt8]

def sized (parameters : List UInt8) : List UInt8 := lengthField (UInt16.ofNat parameters.length) ++ parameters

def ClientServerPDU.append (sourceAPDU : ClientServerPDU) (primitiveType : PrimitiveType) (serviceInfo : ServiceType)
    (bytes : List UInt8) : Option ClientServerPDU :=
  if sourceAPDU.primitiveType ≠ primitiveType then none
  else if sourceAPDU.serviceInfo ≠ serviceInfo then none
  else some { sourceAPDU with payload := sourceAPDU.payload ++ bytes }

variable (sourceAPDU : ClientServerPDU)

def appendExecuteRequest (p : ExecuteRequestPDU) : Option ClientServerPDU :=
  sourceAPDU.append .request .execute (p.methodID :: sized p.parameters)

def responseHead (forwardCongestionNotificationEcho : Bool) (feedbackCode : UInt8) : List UInt8 :=
  [if forwardCongestionNotificationEcho then 1 else 0, feedbackCode]

def appendExecuteResponse (p : ResponsePDU) : Option ClientServerPDU :=
  sourceAPDU.append .response .execute
    (responseHead p.forwardCongestionNotificationEcho p.feedbackCode ++ sized p.value)

def appendWriteRequest (p : WriteRequestPDU) : Option ClientServerPDU :=
  sourceAPDU.append .request .write (p.targetAttribute.marshall ++ sized p.value)

def appendWriteResponse (p : WriteResponsePDU) : Option ClientServerPDU :=
  sourceAPDU.append .response .write (responseHead p.forwardCongestionNotificationEcho p.feedbackCode)

def appendReadRequest (p : ReadRequestPDU) : Option ClientServerPDU :=
  sourceAPDU.append .request .read p.targetAttribute.marshall

def appendReadResponse (p : ResponsePDU) : Option ClientServerPDU :=
  sourceAPDU.append .response .read
    (responseHead p.forwardCongestionNotificationEcho p.feedbackCode ++ sized p.value)

def AlertReportPDU.octet (p : AlertReportPDU) : UInt8 :=
  p.alertClass <<< 7 ||| p.alarmDirection <<< 6 ||| p.alertCategory <<< 4 ||| p.alertPriority

/-- The highest bit of a long size is also set in the alert report that is given. -/
def appendAlertReport (p : AlertReportPDU) : Option (ClientServerPDU × AlertReportPDU) :=
  let size := if p.alertValueSize < 0x80 then p.alertValueSize else p.alertValueSize ||| 0x8000
  (sourceAPDU.append .request .alertReport
    ([p.alertID] ++ write16 p.detectingObjectTransportLayerPort ++ write16 p.detectingObjectID ++
      p.detectionTime.marshall ++ [p.octet, p.alertType] ++
      (if p.alertValueSize < 0x80 then [(p.alertValueSize &&& 0x7F).toUInt8]
        else [(size >>> 8).toUInt8, size.toUInt8]) ++ p.alertValue)).map
    fun apdu => (apdu, { p with alertValueSize := size })

def assign (source : List UInt8) (position count : Nat) : Option (List UInt8) :=
  if position ≤ source.length then some ((source.drop position).take count) else none

def extractSized (payload : List UInt8) (index : Nat) : Option (List UInt8) := do
  let parametersSize ← payload[index]?
  if parametersSize &&& 0x80 ≠ 0 then
    let low ← payload[index + 1]?
    assign payload (index + 2) ((parametersSize.toUInt16 <<< 8 ||| low.toUInt16) &&& 0x7FFF).toNat
  else assign payload (index + 1) parametersSize.toNat

def ClientServerPDU.payloadOf (primitiveType : PrimitiveType) (serviceInfo : ServiceType) : Option (List UInt8) :=
  if sourceAPDU.serviceInfo = serviceInfo ∧ sourceAPDU.primitiveType = primitiveType then some sourceAPDU.payload
  else none

def extractExecuteRequest : Option ExecuteRequestPDU := do
  let payload ← sourceAPDU.payloadOf .request .execute
  let methodID ← payload[0]?
  let parameters ← extractSized payload 1
  return ⟨methodID, parameters⟩

def extractHead (payload : List UInt8) : Option (Bool × UInt8) := do
  let forwardCongestionNotificationEcho ← payload[0]?
  let feedbackCode ← payload[1]?
  return (forwardCongestionNotificationEcho ≠ 0, feedbackCode)

def extractResponse (payload : List UInt8) : Option ResponsePDU := do
  let (forwardCongestionNotificationEcho, feedbackCode) ← extractHead payload
  let value ← extractSized payload 2
  return ⟨forwardCongestionNotificationEcho, feedbackCode, value⟩

def extractExecuteResponse : Option ResponsePDU := do
  let payload ← sourceAPDU.payloadOf .response .execute
  extractResponse payload

def extractAttribute (payload : List UInt8) : Option (ExtensibleAttributeIdentifier × Nat) := do
  let attributeSize ← ExtensibleAttributeIdentifier.getSize payload 0
  let bytes ← assign payload 0 attributeSize
  let (targetAttribute, _) ← ExtensibleAttributeIdentifier.new.unmarshall bytes
  return (targetAttribute, attributeSize)

def extractWriteRequest : Option WriteRequestPDU := do
  let payload ← sourceAPDU.payloadOf .request .write
  let (targetAttribute, attributeSize) ← extractAttribute payload
  let value ← extractSized payload attributeSize
  return ⟨targetAttribute, value⟩

def extractWriteResponse : Option WriteResponsePDU := do
  let payload ← sourceAPDU.payloadOf .response .write
  let (forwardCongestionNotificationEcho, feedbackCode) ← extractHead payload
  return ⟨forwardCongestionNotificationEcho, feedbackCode⟩

def extractReadRequest : Option ReadRequestPDU := do
  let payload ← sourceAPDU.payloadOf .request .read
  let (targetAttribute, _) ← extractAttribute payload
  return ⟨targetAttribute⟩

def extractReadResponse : Option ResponsePDU := do
  let payload ← sourceAPDU.payloadOf .response .read
  extractResponse payload

def extractAlertReport : Option AlertReportPDU := do
  let payload ← sourceAPDU.payloadOf .request .alertReport
  let alertID ← payload[0]?
  let portHigh ← payload[1]?
  let portLow ← payload[2]?
  let objectHigh ← payload[3]?
  let objectLow ← payload[4]?
  let time ← assign payload 5 6
  let (detectionTime, _) ← TAINetworkTimeValue.unmarshall time
  let octet ← payload[11]?
  let alertType ← payload[12]?
  let value ← extractSized payload 13
  AlertReportPDU.new alertID (portHigh.toUInt16 <<< 8 ||| portLow.toUInt16)
    (objectHigh.toUInt16 <<< 8 ||| objectLow.toUInt16) detectionTime (octet >>> 7) ((octet &&& 0x40) >>> 6)
    ((octet &&& 0x30) >>> 4) (octet &&& 0x0F) alertType value

end Isa100Gateway.PDUUtils
