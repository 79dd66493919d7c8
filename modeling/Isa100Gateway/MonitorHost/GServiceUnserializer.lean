import Mathlib.Tactic.Tauto
import Mathlib.Algebra.Group.Nat.Defs

/-!
# Checks of a received packet (`GServiceUnserializer.cpp`, `crc32c.cpp`)

Before a confirm is parsed into the service that asked for it, its service type, its session and two checksums are compared. What the parsing makes of the rest is left open; how it ends is all that the tracking of the requests sees.
-/

namespace Isa100Gateway.MonitorHost

def crcEntry (index : UInt32) : UInt32 :=
  Nat.repeat (fun c => if c &&& 1 = 1 then (c >>> 1) ^^^ 0x82F63B78 else c >>> 1) 8 index

example : crcEntry 1 = 0xF26B8303 ∧ crcEntry 255 = 0xAD7D5351 := by decide

def crcStep (crc : UInt32) (byte : UInt8) : UInt32 :=
  (crc >>> 8) ^^^ crcEntry ((crc ^^^ byte.toUInt32) &&& 0xFF)

def generateCRC32C (buffer : List UInt8) : UInt32 :=
  let result := ~~~ (buffer.foldl crcStep 0xFFFFFFFF)
  (result &&& 0xFF) <<< 24 ||| ((result >>> 8) &&& 0xFF) <<< 16 ||| ((result >>> 16) &&& 0xFF) <<< 8 |||
    ((result >>> 24) &&& 0xFF)

structure GeneralPacket where
  version : UInt8
  serviceType : UInt8
  sessionID : UInt32
  trackingID : Int32
  headerCRC : UInt32
  data : List UInt8
  sized : data.length < 2 ^ 32

def GeneralPacket.dataSize (packet : GeneralPacket) : UInt32 := UInt32.ofNat packet.data.length

def networkOrder (x : UInt32) : List UInt8 :=
  [(x >>> 24).toUInt8, (x >>> 16).toUInt8, (x >>> 8).toUInt8, x.toUInt8]

def GeneralPacket.header (packet : GeneralPacket) : List UInt8 :=
  [packet.version, packet.serviceType] ++ networkOrder packet.sessionID ++ networkOrder packet.trackingID.toUInt32 ++
    networkOrder packet.dataSize

def dataCRC (data : List UInt8) : UInt32 :=
  (data.drop (data.length - 4)).foldl (fun crc byte => crc <<< 8 ||| byte.toUInt32) 0

inductive ResponseStatus
  | success
  | failureHostTimeout
  | failureLostConnection
  | failureSerializationError
  | failureInvalidReturnedSessionID
  | failureInvalidHeaderCRC
  | failureInvalidDataCRC
  | confirmed (code : Int)

def verifyCRCPacketHeader (packet : GeneralPacket) : Option Bool :=
  if packet.version = 3 then some (packet.headerCRC = generateCRC32C packet.header) else none

/-- `VerifyCRCPacketData_v3`. Data that is shorter than its checksum makes the length negative, and the checksum of 4 GiB behind the data is none that the process survives. -/
def verifyCRCPacketData (packet : GeneralPacket) : Option Bool :=
  if packet.version = 3 then
    if packet.data.length = 0 then some true
    else if packet.data.length < 4 then none
    else some (generateCRC32C (packet.data.take (packet.data.length - 4)) = dataCRC packet.data)
  else none

def verifyReceivedPacketWithoutSession (packet : GeneralPacket) : Option ResponseStatus := do
  if ← verifyCRCPacketHeader packet then
    if ← verifyCRCPacketData packet then some .success else some .failureInvalidDataCRC
  else some .failureInvalidHeaderCRC

def verifyReceivedPacket (sessionID : UInt32) (packet : GeneralPacket) : Option ResponseStatus :=
  if packet.sessionID ≠ sessionID then some .failureInvalidReturnedSessionID
  else verifyReceivedPacketWithoutSession packet

inductive GService
  | topologyReport
  | deviceListReport
  | networkHealthReport
  | scheduleReport
  | neighbourHealthReport
  | deviceHealthReport
  | networkResourceReport
  | alertSubscription
  | alertIndication
  | delContract
  | contract
  | session
  | bulk
  | writeObjectAttribute
  | readMultipleObjectAttributes
  | publishSubscribe
  | publish (leasing : Bool)
  | subscribe (leasing : Bool)
  | getSizeForPubIndication
  | publishIndication
  | getFirmwareVersion
  | firmwareUpdate
  | getFirmwareUpdateStatus
  | cancelFirmwareUpdate
  | resetDevice
  | sensorFrmUpdateCancel
  | getChannelsStatistics
  | getContractsAndRoutes
  | isaCSRequest

/-- The service types whose packets `Visit` goes on with; with the others it throws. A bulk looks at the type after the checksums. -/
def GService.expects (service : GService) (serviceType : UInt8) : Bool :=
  match service with
  | .topologyReport => serviceType = 0x84
  | .deviceListReport => serviceType = 0x83
  | .networkHealthReport => serviceType = 0x88
  | .scheduleReport => serviceType = 0x85
  | .neighbourHealthReport => serviceType = 0x87
  | .deviceHealthReport => serviceType = 0x86
  | .networkResourceReport => serviceType = 0xA1
  | .alertSubscription => serviceType = 0x93
  | .alertIndication => serviceType = 0x54
  | .delContract | .contract => serviceType = 0x82
  | .session => serviceType = 0x81
  | .bulk => true
  | .publishSubscribe => false
  | .publish leasing => serviceType = if leasing then 0x02 else 0x8A
  | .subscribe leasing => serviceType = if leasing then 0x82 else 0x8A
  | .publishIndication => serviceType = 0x4B ∨ serviceType = 0x4E ∨ serviceType = 0x4F
  | .sensorFrmUpdateCancel => serviceType = 0x92
  | .writeObjectAttribute | .readMultipleObjectAttributes | .getSizeForPubIndication | .getFirmwareVersion
  | .firmwareUpdate | .getFirmwareUpdateStatus | .cancelFirmwareUpdate | .resetDevice | .getChannelsStatistics
  | .getContractsAndRoutes | .isaCSRequest => serviceType = 0x8A

/-- What `Visit` verifies before it parses. A session has no number yet, and a subscription without lease verifies nothing. -/
def GService.verify (service : GService) (sessionID : UInt32) (packet : GeneralPacket) : Option ResponseStatus :=
  match service with
  | .session => verifyReceivedPacketWithoutSession packet
  | .subscribe false => some .success
  | _ => verifyReceivedPacket sessionID packet

/-- How the parsing behind the checks ends: with a status, or with an exception of some kind. -/
inductive Parsed
  | status (code : Int)
  | serializationException
  | notEnoughBytes
  | otherException
  | unknownException

/-- `Unserialize` turns every exception into a `SerializationException`; `ReceivePacket` turns that into a status. No status when the process does not survive. -/
def unserialize (service : GService) (sessionID : UInt32) (packet : GeneralPacket) (parsed : Parsed) :
    Option ResponseStatus :=
  if service.expects packet.serviceType then do
    match ← service.verify sessionID packet with
    | .success =>
      match parsed with
      | .status code => some (.confirmed code)
      | .serializationException | .notEnoughBytes | .otherException | .unknownException =>
        some .failureSerializationError
    | failure => some failure
  else some .failureSerializationError

/-- A packet that reaches the checksums in another version, or with a good header and data shorter than a checksum. -/
def GeneralPacket.Fatal (packet : GeneralPacket) : Prop :=
  packet.version ≠ 3 ∨
    packet.headerCRC = generateCRC32C packet.header ∧ 0 < packet.data.length ∧ packet.data.length < 4

instance (packet : GeneralPacket) : Decidable packet.Fatal := inferInstanceAs (Decidable (_ ∨ _))

def GService.Compares (service : GService) (sessionID : UInt32) (packet : GeneralPacket) : Prop :=
  match service with
  | .session => True
  | .subscribe false => False
  | _ => packet.sessionID = sessionID

def GService.Stops (service : GService) (sessionID : UInt32) (packet : GeneralPacket) : Prop :=
  service.expects packet.serviceType ∧ service.Compares sessionID packet ∧ packet.Fatal

variable {packet : GeneralPacket} {sessionID : UInt32}

theorem verifyReceivedPacketWithoutSession_eq_none_iff :
    verifyReceivedPacketWithoutSession packet = none ↔ packet.Fatal := by
  unfold verifyReceivedPacketWithoutSession verifyCRCPacketHeader verifyCRCPacketData GeneralPacket.Fatal
  by_cases hversion : packet.version = 3
  · by_cases hheader : packet.headerCRC = generateCRC32C packet.header
    · by_cases hempty : packet.data.length = 0
      · simp [hversion, hheader, hempty]
      · by_cases hshort : packet.data.length < 4
        · simp [hversion, hheader, hempty, hshort]
          omega
        · simp [hversion, hheader, hempty, hshort]
          split <;> simp
    · simp [hversion, hheader]
  · simp [hversion]

theorem verifyReceivedPacket_eq_none_iff :
    verifyReceivedPacket sessionID packet = none ↔ packet.sessionID = sessionID ∧ packet.Fatal := by
  unfold verifyReceivedPacket
  split
  next hother => exact iff_of_false (by nofun) fun h => hother h.1
  next hsame =>
    rw [verifyReceivedPacketWithoutSession_eq_none_iff]
    exact (and_iff_right (not_not.mp hsame)).symm

theorem GService.verify_eq_none_iff {service : GService} :
    service.verify sessionID packet = none ↔ service.Compares sessionID packet ∧ packet.Fatal := by
  unfold verify Compares
  split
  · rw [verifyReceivedPacketWithoutSession_eq_none_iff, true_and]
  · exact iff_of_false (by nofun) fun h => h.1
  · exact verifyReceivedPacket_eq_none_iff

theorem unserialize_eq_none_iff {service : GService} {parsed : Parsed} :
    unserialize service sessionID packet parsed = none ↔ service.Stops sessionID packet := by
  unfold unserialize GService.Stops
  split
  next hexpected =>
    rw [← GService.verify_eq_none_iff, and_iff_right hexpected]
    constructor
    · intro hnone
      cases hverify : service.verify sessionID packet with
      | none => rfl
      | some status =>
        rw [hverify] at hnone
        cases status <;> first | cases hnone | (cases parsed <;> cases hnone)
    · intro hnone
      rw [hnone]
      rfl
  next hother => exact iff_of_false (by nofun) fun h => hother h.1

end Isa100Gateway.MonitorHost
