import Isa100Gateway.Asl.Types
import Isa100Gateway.Lib.Records
import Mathlib.Data.List.FinRange
import Mathlib.Logic.Function.Basic

/-!
# Alert reporting management object (`dmap_armo.cpp`)

The alert queue is a buffer of bytes in which alerts lie one after another, each as its `ALERT` header, its data, and the bytes that align the next one. A function has no value where the source leaves the bounds of an array, or does not end.
-/

namespace Isa100Gateway

def sizeofAlert : Nat := 24

def armoQueueSize : Nat := 16384

def cpuWordSize : UInt16 := 4

def getAlignedLength (len : UInt16) : UInt16 :=
  let remainder := len &&& (cpuWordSize - 1)
  if remainder ≠ 0 then len + (cpuWordSize - remainder) else len

/-- `DMAP_GetAlignedLength( sizeof(ALERT) + m_unSize )`. The sum is cut to 16 bits when it is passed. -/
def alertLength (size : UInt16) : UInt16 :=
  getAlignedLength (UInt16.ofNat (sizeofAlert + size.toNat))

def word16 (x : UInt16) : List UInt8 := [x.toUInt8, (x >>> 8).toUInt8]

def word32 (x : UInt32) : List UInt8 :=
  [x.toUInt8, (x >>> 8).toUInt8, (x >>> 16).toUInt8, (x >>> 24).toUInt8]

def join16 (b₀ b₁ : UInt8) : UInt16 := b₁.toUInt16 <<< 8 ||| b₀.toUInt16

def join32 (b₀ b₁ b₂ b₃ : UInt8) : UInt32 :=
  b₃.toUInt32 <<< 24 ||| b₂.toUInt32 <<< 16 ||| b₁.toUInt32 <<< 8 ||| b₀.toUInt32

def Alert.bytes (a : Alert) : List UInt8 :=
  word32 a.nextSendTAI ++ (word16 a.detObjTLPort ++ word16 a.detObjID ++ word32 a.seconds ++
    word16 a.fract ++ [0, 0] ++
    [a.id, a.alertClass, a.direction, a.category, a.type, a.priority] ++ word16 a.size)

def parseAlert : List UInt8 → Option Alert
  | n₀ :: n₁ :: n₂ :: n₃ :: p₀ :: p₁ :: o₀ :: o₁ :: s₀ :: s₁ :: s₂ :: s₃ :: f₀ :: f₁ :: _ :: _ ::
      id :: alertClass :: direction :: category :: type :: priority :: z₀ :: z₁ :: _ =>
    some {
      nextSendTAI := join32 n₀ n₁ n₂ n₃
      detObjTLPort := join16 p₀ p₁
      detObjID := join16 o₀ o₁
      seconds := join32 s₀ s₁ s₂ s₃
      fract := join16 f₀ f₁
      id := id
      alertClass := alertClass
      direction := direction
      category := category
      type := type
      priority := priority
      size := join16 z₀ z₁ }
  | _ => none

def alertLayout : Records.Layout UInt8 Alert where
  parse := parseAlert
  length a := (alertLength a.size).toNat

/-- The arguments of `ARMO_AddAlertToQueue`: an alert, and a buffer with the bytes it announces. -/
structure AlertRequest where
  alert : Alert
  buf : Payload
  length_buf : buf.length = alert.size.toNat

/-! ## State -/

def alertCatNo : Nat := 4
def alertCatProcess : UInt8 := 3

abbrev AlertCategory := Fin alertCatNo

def alertCatDevDiag : AlertCategory := ⟨0, by decide⟩

def armoIndex (category : UInt8) : Option AlertCategory :=
  if h : category.toNat < alertCatNo then some ⟨category.toNat, h⟩ else none

inductive ContractStatus where
  | noContr
  | awaitContractEstablishment
  | contractActive
  | waitingContractTermination
deriving DecidableEq

structure AlertCommEndpoint where
  tlPort : UInt16
  objID : UInt16
  contractID : UInt16
  contractStatus : ContractStatus

structure AppAlertDescriptor where
  alertReportDisabled : UInt8
  priority : UInt8

inductive RecoveryState where
  | disabled
  | enabled
  | startSent
  | done
deriving DecidableEq

structure AlertRecovery where
  state : RecoveryState
  lastID : UInt8

structure ArmoStruct where
  alertMaster : AlertCommEndpoint
  confTimeout : UInt8
  alertsDisable : UInt8
  recoveryDescr : AppAlertDescriptor
  recovery : AlertRecovery
  alertsNo : UInt8

structure ArmoState where
  armo : AlertCategory → ArmoStruct
  queue : Records.Block UInt8
  alarmTimeout : UInt8
  contractReqTimestamp : UInt16
  callbackSendAlertTR : Bool

def ArmoState.update (s : ArmoState) (c : AlertCategory) (f : ArmoStruct → ArmoStruct) : ArmoState :=
  { s with armo := Function.update s.armo c (f (s.armo c)) }

def ArmoState.active (s : ArmoState) (c : AlertCategory) : Prop :=
  (s.armo c).alertMaster.contractStatus = .contractActive

instance (s : ArmoState) (c : AlertCategory) : Decidable (s.active c) :=
  inferInstanceAs (Decidable (_ = _))

def armoDefaultConfTimeout : UInt8 := 10
def smAroObjId : UInt16 := 8

def ArmoStruct.cleared : ArmoStruct where
  alertMaster := ⟨0, 0, 0, .noContr⟩
  confTimeout := 0
  alertsDisable := 0
  recoveryDescr := ⟨0, 0⟩
  recovery := ⟨.disabled, 0⟩
  alertsNo := 0

def ArmoStruct.init (a : ArmoStruct) : ArmoStruct :=
  if a.confTimeout = 0 then
    { a with
      confTimeout := armoDefaultConfTimeout
      alertMaster := { a.alertMaster with
        tlPort := isa100SmapPort
        objID := smAroObjId
        contractStatus := .noContr } }
  else a

def ArmoState.start : ArmoState where
  armo := fun _ => ArmoStruct.cleared.init
  queue := { mem := List.replicate armoQueueSize 0, used := 0 }
  alarmTimeout := 0
  contractReqTimestamp := 0
  callbackSendAlertTR := false

structure AlertReport where
  obj : AlertRepSrvc Payload
  priority : UInt8
  dstTSAPID : UInt8
  contractID : UInt16

/-- What a function does besides changing the globals. `report`, `recoveredAlarm` and `recoveryEvent` are the reports that the ASL took from the three places that send one. -/
inductive ArmoEffect where
  | forwarded (alert : Alert) (buf : Payload)
  | evicted
  | queued (alert : Alert) (buf : Payload)
  | acknowledged (id : UInt8)
  | notifyAlertAcknowledge (id : UInt8)
  | drawnForEvent (c : AlertCategory)
  | report (r : AlertReport)
  | recoveredAlarm (r : AlertReport)
  | recoveryEvent (r : AlertReport)

def nextAlertId (c : AlertCategory) (alertsNo : UInt8) : UInt8 :=
  UInt8.ofNat c.val <<< 6 ||| (alertsNo &&& 0x3F)

def getNextAlertId (c : AlertCategory) (s : ArmoState) : UInt8 × ArmoState :=
  (nextAlertId c (s.armo c).alertsNo, s.update c fun a => { a with alertsNo := a.alertsNo + 1 })

def processAlertAck (id : UInt8) (s : ArmoState) : Option (List ArmoEffect × ArmoState) :=
  (Records.find alertLayout (fun a => a.id == id) s.queue (s.queue.used + 1) 0).bind fun found =>
    let queue := match found with
      | some (pos, a) => s.queue.removeAt pos (alertLayout.length a)
      | none => some s.queue
    queue.map fun queue =>
      (.acknowledged id ::
          (if id >>> 6 = alertCatProcess then [.notifyAlertAcknowledge id] else []),
        { s with queue := queue, alarmTimeout := 0 })

/-- `while( (g_pARMOQueueEnd + unLen) > (g_aucARMOQueue + sizeof(g_aucARMOQueue)) )`: drops the oldest alert until `len` more bytes fit. Returns how many were dropped. -/
def makeRoom (len : Nat) : Nat → Records.Block UInt8 → Option (Nat × Records.Block UInt8)
  | 0, _ => none
  | fuel + 1, queue =>
    if queue.mem.length < queue.used + len then
      (alertLayout.parse queue.mem).bind fun a =>
        (queue.removeAt 0 (alertLayout.length a)).bind fun queue =>
          (makeRoom len fuel queue).map fun (dropped, queue) => (dropped + 1, queue)
    else some (0, queue)

/-- The clock as `MLSM_GetCrtCrtTaiTime` and `MLSM_GetCrtTaiSec` show it. -/
structure CrtTaiTime where
  seconds : UInt32
  fract : UInt16

def queuedAlert (id : UInt8) (time : CrtTaiTime) (alert : Alert) : Alert :=
  { alert with id := id, nextSendTAI := 0, seconds := time.seconds, fract := time.fract }

def storeAlert (c : AlertCategory) (req : AlertRequest) (time : CrtTaiTime) (s : ArmoState) :
    Option (List ArmoEffect × ArmoState) :=
  let len := (alertLength req.alert.size).toNat
  (makeRoom len (s.queue.used + 1) s.queue).bind fun (dropped, queue) =>
    let next := getNextAlertId c s
    let alert := queuedAlert next.1 time req.alert
    (Buffer.write queue.mem queue.used alert.bytes).bind fun mem =>
      (Buffer.write mem (queue.used + sizeofAlert) req.buf).map fun mem =>
        (List.replicate dropped .evicted ++ [.queued alert req.buf],
          { next.2 with queue := { mem := mem, used := queue.used + len } })

def addAlertToQueue (req : AlertRequest) (time : CrtTaiTime) (s : ArmoState) :
    Option (UInt8 × List ArmoEffect × ArmoState) :=
  if s.callbackSendAlertTR then
    (processAlertAck req.alert.id s).map fun (effects, s) =>
      (sfcSuccess, .forwarded req.alert req.buf :: effects, s)
  else if armoQueueSize < (alertLength req.alert.size).toNat then some (sfcInvalidSize, [], s)
  else
    (armoIndex req.alert.category).bind fun c =>
      if (s.armo c).alertsDisable = 0 ∧ (alertLength req.alert.size).toNat < armoQueueSize then
        (storeAlert c req time s).map fun (effects, s) => (sfcSuccess, effects, s)
      else some (sfcObjectStateConflict, [], s)

def contractWaitTimeout : Int := 3 * 64

/-- What one run of `ARMO_Task` finds outside the ARMO: the clock, the contract of the DMO for an alert master, the result of a contract request, and whether the ASL takes the report of the alert at a position of the queue, or of a recovery event. -/
structure ArmoTick where
  time : CrtTaiTime
  contract : AlertCategory → Option UInt16
  requestSfc : AlertCategory → UInt8
  accepts : Nat → Bool
  acceptsEvent : Bool

def configureEndpoint (tick : ArmoTick) (c : AlertCategory) (s : ArmoState) : ArmoState :=
  if (s.armo c).alertMaster.tlPort ≠ 0 then
    let s := match tick.contract c with
      | some contractID => s.update c fun a => { a with
          alertMaster := { a.alertMaster with
            contractID := contractID, contractStatus := .contractActive } }
      | none => s
    if tick.requestSfc c = sfcSuccess then
      { s.update c fun a => { a with
          alertMaster := { a.alertMaster with contractStatus := .awaitContractEstablishment } } with
        contractReqTimestamp := tick.time.seconds.toUInt16 }
    else s
  else s

def checkAlarmContract (tick : ArmoTick) (s : ArmoState) (c : AlertCategory) : ArmoState :=
  match (s.armo c).alertMaster.contractStatus with
  | .contractActive => s
  | .awaitContractEstablishment | .waitingContractTermination =>
    if (tick.time.seconds.toUInt16.toNat : Int) - s.contractReqTimestamp.toNat > contractWaitTimeout then
      s.update c fun a => { a with alertMaster := { a.alertMaster with contractStatus := .noContr } }
    else s
  | .noContr => configureEndpoint tick c s

def checkAlarmContracts (tick : ArmoTick) (s : ArmoState) : ArmoState :=
  (List.finRange alertCatNo).foldl (checkAlarmContract tick) s

def armoObjId : UInt16 := 2
def alarmRecoveryStart : UInt8 := 0
def alarmRecoveryEnd : UInt8 := 1
def alertClassEvent : UInt8 := 0
def alarmDirRetOrNoAlarm : UInt8 := 0

def alertReport (s : ArmoState) (c : AlertCategory) (alert : Alert) (value : Payload)
    (priority : UInt8) : AlertReport where
  obj :=
    { srcOID := armoObjId, dstOID := (s.armo c).alertMaster.objID, alertInfo := alert, alertValue := value }
  priority := priority
  dstTSAPID := ((s.armo c).alertMaster.tlPort &&& 0x0F).toUInt8
  contractID := (s.armo c).alertMaster.contractID

def recoveryEventAlert (c : AlertCategory) (alertType id priority : UInt8) (time : CrtTaiTime) : Alert where
  nextSendTAI := 0
  detObjTLPort := 0xF0B0
  detObjID := armoObjId
  seconds := time.seconds
  fract := time.fract
  id := id
  alertClass := alertClassEvent
  direction := alarmDirRetOrNoAlarm
  category := UInt8.ofNat c.val
  type := alertType
  priority := priority
  size := 0

def generateRecoveryEvent (tick : ArmoTick) (c : AlertCategory) (alertType : UInt8) (s : ArmoState) :
    Bool × List ArmoEffect × ArmoState :=
  if ¬ s.active c then (false, [], s)
  else if (s.armo c).recoveryDescr.alertReportDisabled ≠ 0 then (true, [], s)
  else
    let priority := (s.armo c).recoveryDescr.priority
    let next := getNextAlertId c s
    let r := alertReport s c (recoveryEventAlert c alertType next.1 priority tick.time) [] priority
    if tick.acceptsEvent then (true, [.drawnForEvent c, .recoveryEvent r], next.2)
    else (false, [.drawnForEvent c], next.2)

def followsId (lastID id : UInt8) : Bool :=
  lastID < id || (61 < lastID &&& 0x3F && id &&& 0x3F < 3)

def ArmoState.wanted (s : ArmoState) (c : AlertCategory) (a : Alert) : Bool :=
  a.category == UInt8.ofNat c.val && followsId (s.armo c).recovery.lastID a.id && decide (s.active c)

def ArmoState.setLastID (s : ArmoState) (c : AlertCategory) (id : UInt8) : ArmoState :=
  s.update c fun a => { a with recovery := { a.recovery with lastID := id } }

def recoverNextAlarm (tick : ArmoTick) (c : AlertCategory) (s : ArmoState) :
    Option (Bool × List ArmoEffect × ArmoState) :=
  (Records.find alertLayout (s.wanted c) s.queue (s.queue.used + 1) 0).bind fun
    | none => some (false, [], s)
    | some (pos, a) =>
      (Buffer.read s.queue.mem (pos + sizeofAlert) a.size.toNat).map fun value =>
        if tick.accepts pos then
          (true, [.recoveredAlarm (alertReport s c a value (s.armo c).recoveryDescr.priority)],
            s.setLastID c a.id)
        else (true, [], s)

def ArmoState.setRecovery (s : ArmoState) (c : AlertCategory) (state : RecoveryState) : ArmoState :=
  s.update c fun a => { a with recovery := { a.recovery with state := state } }

def recoveryTurn (tick : ArmoTick) (c : AlertCategory) (s : ArmoState) : Option (List ArmoEffect × ArmoState) :=
  match (s.armo c).recovery.state with
  | .disabled => some ([], s)
  | .enabled =>
    let event := generateRecoveryEvent tick c alarmRecoveryStart s
    some (event.2.1, if event.1 then event.2.2.setRecovery c .startSent else event.2.2)
  | .startSent =>
    (recoverNextAlarm tick c s).map fun next =>
      (next.2.1, if next.1 then next.2.2 else next.2.2.setRecovery c .done)
  | .done =>
    let event := generateRecoveryEvent tick c alarmRecoveryEnd s
    some (event.2.1, if event.1 then event.2.2.setRecovery c .disabled else event.2.2)

def recoveringCategory (s : ArmoState) : Option AlertCategory :=
  (List.finRange alertCatNo).find? fun c => (s.armo c).recovery.state != .disabled

def reportVisit (tick : ArmoTick) (s : ArmoState) (shared : UInt8 × List ArmoEffect) (pos : Nat)
    (a : Alert) (mem : List UInt8) : Option ((UInt8 × List ArmoEffect) × List UInt8) :=
  let timeout := if shared.1 = 0 then 1 else shared.1
  (armoIndex a.category).bind fun c =>
    if s.active c ∧ a.nextSendTAI < tick.time.seconds then
      (Buffer.read mem (pos + sizeofAlert) a.size.toNat).bind fun value =>
        if tick.accepts pos then
          let nextSend := tick.time.seconds + (s.armo c).confTimeout.toUInt32
          (Buffer.write mem pos (word32 nextSend)).map fun mem =>
            ((timeout, shared.2 ++ [.report (alertReport s c a value a.priority)]), mem)
        else some ((timeout, shared.2), mem)
    else some ((timeout, shared.2), mem)

def ArmoState.startAckTimeout (s : ArmoState) : ArmoState :=
  if 0 < s.queue.used ∧ s.alarmTimeout = 0 then { s with alarmTimeout := 1 } else s

def armoTask (tick : ArmoTick) (s : ArmoState) : Option (List ArmoEffect × ArmoState) :=
  let s := checkAlarmContracts tick s
  match recoveringCategory s with
  | some c =>
    (recoveryTurn tick c s).map fun (effects, s) => (effects, s.startAckTimeout)
  | none =>
    (Records.walk alertLayout (reportVisit tick s) (s.queue.used + 1) 0 (s.alarmTimeout, []) s.queue).map
      fun (shared, queue) => (shared.2, { s with queue := queue, alarmTimeout := shared.1 })

def armoAlarmRecovery : UInt8 := 1

def armoExecute (methID : UInt8) (reqBuf : Payload) (s : ArmoState) : UInt8 × ArmoState :=
  if methID ≠ armoAlarmRecovery then (sfcInvalidMethod, s)
  else
    match reqBuf with
    | [category] =>
      match armoIndex category with
      | none => (sfcInconsistentContent, s)
      | some c =>
        if (s.armo c).recovery.state ≠ .disabled then (sfcObjectStateConflict, s)
        else (sfcSuccess, s.setRecovery c .enabled)
    | _ => (sfcInvalidSize, s)

/-- The calls of the ARMO. `configure` stands for the attribute writes and for `ARMO_NotifyAddContract`, `setCallback` for the gateway setting `g_pCallbackSendAlertTR`. -/
inductive ArmoEvent where
  | addAlertToQueue (req : AlertRequest) (time : CrtTaiTime)
  | processAlertAck (id : UInt8)
  | task (tick : ArmoTick)
  | execute (methID : UInt8) (reqBuf : Payload)
  | configure (c : AlertCategory) (alertMaster : AlertCommEndpoint) (confTimeout alertsDisable : UInt8)
      (recoveryDescr : AppAlertDescriptor)
  | setCallback (callbackSendAlertTR : Bool)

def armoStep (s : ArmoState) : ArmoEvent → Option (List ArmoEffect × ArmoState)
  | .addAlertToQueue req time => (addAlertToQueue req time s).map fun (_, effects, s) => (effects, s)
  | .processAlertAck id => processAlertAck id s
  | .task tick => armoTask tick s
  | .execute methID reqBuf => some ([], (armoExecute methID reqBuf s).2)
  | .configure c alertMaster confTimeout alertsDisable recoveryDescr =>
    some ([], s.update c fun a => { a with
      alertMaster := alertMaster
      confTimeout := confTimeout
      alertsDisable := alertsDisable
      recoveryDescr := recoveryDescr })
  | .setCallback callbackSendAlertTR => some ([], { s with callbackSendAlertTR := callbackSendAlertTR })

def armoRun : ArmoState → List ArmoEvent → Option (List ArmoEffect × ArmoState)
  | s, [] => some ([], s)
  | s, e :: es =>
    (armoStep s e).bind fun (effects, s) =>
      (armoRun s es).map fun (more, s) => (effects ++ more, s)

end Isa100Gateway
