import Isa100Gateway.Lib.OrderedMap
import Isa100Gateway.Lib.Run
import Isa100Gateway.MonitorHost.GServiceUnserializer

/-!
# Tracking of the host's requests (`TrackingManager.cpp`)

The host sends requests under increasing tracking ids and keeps them until a packet with the id, a lost connection or a timeout ends them, and tells the command processor with `ReceiveResponse`. Sending and telling call out of the manager, and what they call may come back into it before they end: the calls that have not ended are a stack.
-/

namespace Isa100Gateway.MonitorHost

instance instLinearOrderInt32 : LinearOrder Int32 where
  le_refl a := Int32.le_refl a
  le_trans a b c := Int32.le_trans
  lt_iff_le_not_ge a b := by
    rw [Int32.lt_iff_toInt_lt, Int32.le_iff_toInt_le, Int32.le_iff_toInt_le]
    omega
  le_antisymm a b := Int32.le_antisymm
  le_total a b := Int32.le_total a b
  toDecidableLE := fun _ _ => inferInstance
  toDecidableLT := fun _ _ => inferInstance
  toDecidableEq := inferInstance

/-- A request in the hands of the manager. Its number tells it from the others, `trackingID` is the id it was sent with. -/
structure Request where
  number : Nat
  service : GService
  trackingID : Int32

structure TrackingCommand where
  request : Request
  timeoutDate : Int
  timeoutTime : Int
  resendIfTimeoutRetryCount : Int

inductive Cause
  | packet (trackingID : Int32)
  | lostConnection
  | hostTimeout

structure Call where
  request : Request
  status : ResponseStatus
  cause : Cause

/-- A call out of the manager that has not ended: `SendPacket` in `SendRequest`, `ReceiveResponse` in `ReceivePacket`, and `ReceiveResponse` in the walk over the lost or timed out requests, of which `rest` is still to come. -/
inductive Frame
  | sendPacket (request : Request) (timeout : Int) (retryCount : Int)
  | receiveResponse
  | sweep (rest : List Request) (status : ResponseStatus) (cause : Cause)

def Frame.waiting : Frame → List Request
  | .sweep rest _ _ => rest
  | .sendPacket _ _ _ | .receiveResponse => []

def Frame.sending : Frame → List Request
  | .sendPacket request _ _ => [request]
  | .sweep _ _ _ | .receiveResponse => []

/-- `issued` counts the requests that got an id; the lists record those whose `SendRequest` returned, those whose `SendRequest` threw, and the calls. -/
structure TrackingManager where
  nextTrackingID : Int32
  pendingTrackings : OrderedMap Int32 TrackingCommand
  sessionID : UInt32
  stack : List Frame
  stopped : Bool
  issued : Nat
  returned : List Nat
  thrown : List Nat
  calls : List Call

inductive TrackingEvent
  | sendRequest (service : GService) (timeout retryCount : Int) (serializes : Bool)
  | sendPacketReturns (now : Int)
  | sendPacketThrows
  | receivePacket (packet : GeneralPacket) (indication : Option GService) (parsed : Parsed)
  | receiveResponseReturns
  | receiveResponseThrows (standard : Bool)
  | handleDisconnect
  | checkTimeoutRequests (clock : Int32 → Int)
  | newSession (sessionID : UInt32)

namespace TrackingManager

def init : TrackingManager := ⟨1, .empty, 0, [], false, 0, [], [], []⟩

def sendRequest (m : TrackingManager) (service : GService) (timeout retryCount : Int) (serializes : Bool) :
    TrackingManager :=
  let trackingID := m.nextTrackingID + 1
  if (m.pendingTrackings.find trackingID).isSome then m
  else
    let m := { m with nextTrackingID := trackingID, issued := m.issued + 1 }
    if serializes then
      { m with stack := .sendPacket ⟨m.issued - 1, service, trackingID⟩ timeout retryCount :: m.stack }
    else { m with thrown := m.thrown ++ [m.issued - 1] }

def sendPacketReturns (m : TrackingManager) (now : Int) : Option TrackingManager :=
  match m.stack with
  | .sendPacket request timeout retryCount :: stack =>
    some { m with
      stack
      pendingTrackings := m.pendingTrackings.insert request.trackingID ⟨request, now + timeout, timeout, retryCount⟩
      returned := m.returned ++ [request.number] }
  | _ => none

def sendPacketThrows (m : TrackingManager) : Option TrackingManager :=
  match m.stack with
  | .sendPacket request _ _ :: stack => some { m with stack, thrown := m.thrown ++ [request.number] }
  | _ => none

def isIndication (packet : GeneralPacket) : Bool :=
  packet.serviceType = 0x4B ∨ packet.serviceType = 0x4E ∨ packet.serviceType = 0x4F ∨ packet.serviceType = 0x54

def receivePacket (m : TrackingManager) (packet : GeneralPacket) (indication : Option GService) (parsed : Parsed) :
    TrackingManager :=
  if isIndication packet then
    match indication with
    | none => m
    | some service =>
      match unserialize service m.sessionID packet parsed with
      | none => { m with stopped := true }
      | some _ => { m with stack := .receiveResponse :: m.stack }
  else
    match m.pendingTrackings.find packet.trackingID with
    | none => m
    | some command =>
      let m := { m with pendingTrackings := m.pendingTrackings.erase packet.trackingID }
      match unserialize command.request.service m.sessionID packet parsed with
      | none => { m with stopped := true }
      | some status =>
        { m with
          stack := .receiveResponse :: m.stack
          calls := m.calls ++ [⟨command.request, status, .packet packet.trackingID⟩] }

def sweep (m : TrackingManager) (requests : List Request) (status : ResponseStatus) (cause : Cause) : TrackingManager :=
  match requests with
  | [] => m
  | request :: rest =>
    { m with stack := .sweep rest status cause :: m.stack, calls := m.calls ++ [⟨request, status, cause⟩] }

/-- `ReceivePacket` catches everything, the walks catch standard exceptions. -/
def receiveResponseEnds (m : TrackingManager) (caught : Bool) : Option TrackingManager :=
  match m.stack with
  | .receiveResponse :: stack => some { m with stack }
  | .sweep rest status cause :: stack =>
    let m := { m with stack }
    some (if caught then m.sweep rest status cause else m)
  | _ => none

def requests (entries : List (Int32 × TrackingCommand)) : List Request := entries.map fun e => e.2.request

def handleDisconnect (m : TrackingManager) : TrackingManager :=
  { m with pendingTrackings := .empty }.sweep (requests m.pendingTrackings.entries) .failureLostConnection
    .lostConnection

def expired (clock : Int32 → Int) (trackingID : Int32) (command : TrackingCommand) : Bool :=
  command.timeoutDate < clock trackingID

def checkTimeoutRequests (m : TrackingManager) (clock : Int32 → Int) : TrackingManager :=
  { m with pendingTrackings := m.pendingTrackings.filter fun trackingID command =>
    !expired clock trackingID command }.sweep
    (requests (m.pendingTrackings.entries.filter fun e => expired clock e.1 e.2)) .failureHostTimeout .hostTimeout

def step (m : TrackingManager) (e : TrackingEvent) : Option TrackingManager :=
  if m.stopped then none
  else
    match e with
    | .sendRequest service timeout retryCount serializes => some (m.sendRequest service timeout retryCount serializes)
    | .sendPacketReturns now => m.sendPacketReturns now
    | .sendPacketThrows => m.sendPacketThrows
    | .receivePacket packet indication parsed => some (m.receivePacket packet indication parsed)
    | .receiveResponseReturns => m.receiveResponseEnds true
    | .receiveResponseThrows standard => m.receiveResponseEnds standard
    | .handleDisconnect => some m.handleDisconnect
    | .checkTimeoutRequests clock => some (m.checkTimeoutRequests clock)
    | .newSession sessionID => some { m with sessionID }

def waiting (m : TrackingManager) : List Request :=
  requests m.pendingTrackings.entries ++ m.stack.flatMap Frame.waiting

def told (m : TrackingManager) : List Request := m.calls.map Call.request

def count (n : Nat) (requests : List Request) : Nat := requests.countP fun r => r.number = n

end TrackingManager

end Isa100Gateway.MonitorHost
