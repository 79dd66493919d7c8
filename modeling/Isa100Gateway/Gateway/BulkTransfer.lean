import Isa100Gateway.Lib.Run
import Isa100Gateway.Lib.Stream
import Isa100Gateway.Lib.Tiling

/-!
# Bulk transfers (`BulkTransferSvc.cpp`)

The transfer of one bulk lease, from the requests of the client and the answers of the device to the confirms. Transfers of different leases share nothing. `none` stands for a division by zero and for the use of an erased transfer.
-/

namespace Isa100Gateway.BulkTransferService

def udoModeDownload : UInt8 := 0
def udoModeUpload : UInt8 := 1

def resTypeFile : UInt8 := 1

inductive UdoState where
  | idle
  | downloading
  | uploading
  | applying
  | dlComplete
  | ulComplete
  | dlError
  | ulError
  | unknown (code : UInt8)
deriving DecidableEq

def UdoState.ofByte : UInt8 → UdoState
  | 0 => .idle
  | 1 => .downloading
  | 2 => .uploading
  | 3 => .applying
  | 4 => .dlComplete
  | 5 => .ulComplete
  | 6 => .dlError
  | 7 => .ulError
  | code => .unknown code

/-! Attributes, methods, commands and rationales of the upload/download object. -/

def udoState : UInt16 := 3
def udoComm : UInt16 := 4
def udoMaxBlckSize : UInt16 := 5
def udoMaxDwldSize : UInt16 := 6

def udoStartDwld : UInt8 := 1
def udoDwldData : UInt8 := 2
def udoEndDwld : UInt8 := 3
def udoSetFile : UInt8 := 132

def bulkReset : UInt8 := 0
def bulkApply : UInt8 := 1

def udoEndDownloadSuccess : UInt8 := 0
def udoEndDownloadAbort : UInt8 := 1

/-! Feedback codes of the device. -/

def sfcSuccess : UInt8 := 0
def sfcOperationAccepted : UInt8 := 34
def sfcDataSequenceError : UInt8 := 41
def sfcInvalidBlockNumber : UInt8 := 43

/-! Statuses of the confirms. -/

def ygsSuccess : UInt8 := 0
def ygsLimitExceeded : UInt8 := 6
def ygsInvalidMode : UInt8 := 10
def ygsCommFailed : UInt8 := 16
def ygsInvalidLease : UInt8 := 17
def ygsAborted : UInt8 := 18
def ygsFailure : UInt8 := 250

def bulkoSuccess : UInt8 := 0
def bulkoFailExceedLim : UInt8 := 1
def bulkoFailUnknownRes : UInt8 := 2
def bulkoFailInvalidMode : UInt8 := 3
def bulkoFailOther : UInt8 := 4

def bulktSuccess : UInt8 := 0
def bulktFailComm : UInt8 := 1
def bulktFailAbort : UInt8 := 2
def bulktFailOther : UInt8 := 3

def bulkcSuccess : UInt8 := 0
def bulkcFail : UInt8 := 1

structure Item where
  bytes : List UInt8
  fits : bytes.length < 2 ^ 32

def Item.size (file : Item) : UInt32 := UInt32.ofNat file.bytes.length

inductive UdoRequest where
  | read (attrID : UInt16)
  | write (attrID : UInt16) (command : UInt8)
  | exec (methID : UInt8) (params : List UInt8)

/-- The session of a request to the device: session 0, or a client and whether it speaks YGSAP. -/
inductive Requester where
  | gateway
  | client (ygsap : Bool)

/-- The request whose handle is `m_unAppHandle`. -/
structure Pending where
  request : UdoRequest
  requester : Requester

/-- A transfer. The last four fields are kept for the statements only: the client's file, the size of the contract, the number of blocks handed to the stack, and the blocks that the device acknowledged. -/
structure RemUDOData where
  resDesc : List UInt8
  bulkSize : UInt32
  blockSize : UInt16
  state : UdoState
  currentBlock : UInt16
  pending : Option Pending
  file : Item
  maxNSDU : UInt16
  sent : Nat
  acked : List (List UInt8)

inductive BulkConfirm where
  | bulkOpen (status : UInt8) (blockSize : UInt16) (itemSize : UInt32)
  | bulkTransfer (status : UInt8)
  | bulkClose (status : UInt8)
deriving DecidableEq

abbrev Outcome := Option RemUDOData × List BulkConfirm

def confirm (requester : Requester) (ygs gsap : UInt8) (message : UInt8 → BulkConfirm) : List BulkConfirm :=
  match requester with
  | .gateway => []
  | .client ygsap => [message (if ygsap then ygs else gsap)]

def confirmBulkOpen (requester : Requester) (ygs gsap : UInt8) (blockSize : UInt16) (itemSize : UInt32) :
    List BulkConfirm :=
  confirm requester ygs gsap fun status => .bulkOpen status blockSize itemSize

def confirmBulkTransfer (requester : Requester) (ygs gsap : UInt8) : List BulkConfirm :=
  confirm requester ygs gsap .bulkTransfer

def confirmBulkClose (requester : Requester) (ygs gsap : UInt8) : List BulkConfirm :=
  confirm requester ygs gsap .bulkClose

def ifTracked (pMSG : Option Requester) (out : Requester → List BulkConfirm) : List BulkConfirm :=
  match pMSG with
  | none => []
  | some msg => out msg

/-! The confirms of a failure that is not told apart. -/

def failOpen (u : RemUDOData) (msg : Requester) : List BulkConfirm :=
  confirmBulkOpen msg ygsFailure bulkoFailOther u.blockSize u.bulkSize

def failClose (msg : Requester) : List BulkConfirm := confirmBulkClose msg ygsFailure bulkcFail

section

variable (u : RemUDOData) (sent : Bool)

def RemUDOData.await (request : UdoRequest) (requester : Requester) : RemUDOData :=
  { u with pending := some ⟨request, requester⟩ }

def advanceState (newState : UdoState) : RemUDOData := { u with state := newState }

def sendOpening (msg : Requester) (request : UdoRequest) : Outcome :=
  if sent then (some (u.await request msg), [])
  else (none, failOpen u msg)

def readMaxDownloadSize (msg : Requester) : Outcome := sendOpening u sent msg (.read udoMaxDwldSize)

def setFile (msg : Requester) : Outcome :=
  sendOpening u sent msg (.exec udoSetFile (Stream.write16 (UInt16.ofNat u.resDesc.length) ++ u.resDesc))

def startDownload (msg : Requester) : Outcome :=
  sendOpening u sent msg
    (.exec udoStartDwld (Stream.write16 u.blockSize ++ Stream.write32 u.bulkSize ++ [udoModeDownload]))

def askState : Option RemUDOData := if sent then some (u.await (.read udoState) .gateway) else none

def endDownload (rationale : UInt8) (requester : Requester) : Option RemUDOData :=
  if sent then
    some (advanceState (u.await (.exec udoEndDwld [rationale]) requester)
      (if rationale ≠ 0 then .dlError else .dlComplete))
  else none

def apply (msg : Requester) : Option Outcome :=
  if sent then some (some (advanceState (u.await (.write udoComm bulkApply) msg) .applying), []) else none

def sendReset (pMSG : Option Requester) : Outcome :=
  if sent then (some (u.await (.write udoComm bulkReset) (pMSG.getD .gateway)), [])
  else (none, ifTracked pMSG failClose)

def tryReset : Option RemUDOData :=
  match u.state with
  | .downloading => endDownload u sent udoEndDownloadAbort .gateway
  | .dlComplete | .dlError => (sendReset u sent none).1
  | _ => none

end

structure OpenRequest where
  ygsap : Bool
  dataSize : Nat
  mode : UInt8
  blockSize : UInt16
  resourceType : UInt8
  name : List UInt8
  file : Item

abbrev BulkLease := Option UInt16

def swap16 (v : UInt16) : UInt16 := v <<< 8 ||| v >>> 8

def swap32 (v : UInt32) : UInt32 :=
  v <<< 24 ||| (v <<< 8 &&& (0xFF0000 : UInt32)) ||| (v >>> 8 &&& (0xFF00 : UInt32)) ||| v >>> 24

def blockOverhead : UInt16 := 16 + 9 + 2

def maxGWBlockSize (maxNSDU : UInt16) : UInt16 := maxNSDU - blockOverhead

def requestedBlockSize (asked maxNSDU : UInt16) : UInt16 :=
  if asked ≠ 0 ∧ asked < maxGWBlockSize maxNSDU then asked else maxGWBlockSize maxNSDU

def openedTransfer (req : OpenRequest) (maxNSDU : UInt16) : RemUDOData where
  resDesc := if req.resourceType = resTypeFile then req.name else []
  bulkSize := req.file.size
  blockSize := requestedBlockSize req.blockSize maxNSDU
  state := .idle
  currentBlock := 0
  pending := some ⟨.read udoMaxBlckSize, .client req.ygsap⟩
  file := req.file
  maxNSDU := maxNSDU
  sent := 0
  acked := []

def requestBulkOpen (entry : Option RemUDOData) (req : OpenRequest) (lease : Option BulkLease) (sent : Bool) :
    Outcome :=
  let refuse ygs gsap := (entry, confirmBulkOpen (.client req.ygsap) ygs gsap req.blockSize req.file.size)
  if req.dataSize < 19 then
    (entry, confirmBulkOpen (.client req.ygsap) ygsFailure bulkoFailOther (swap16 req.blockSize) (swap32 req.file.size))
  else
    match lease with
    | none => refuse ygsInvalidLease bulkoFailUnknownRes
    | some contract =>
      if entry.isSome then refuse ygsFailure bulkoFailOther
      else if req.mode ≠ udoModeDownload ∧ req.mode ≠ udoModeUpload then refuse ygsInvalidMode bulkoFailInvalidMode
      else
        match contract with
        | none => refuse ygsInvalidLease bulkoFailUnknownRes
        | some maxNSDU =>
          if sent then (some (openedTransfer req maxNSDU), []) else refuse ygsFailure bulkoFailOther

def blocksToSend (u : RemUDOData) : Option UInt32 :=
  if u.blockSize = 0 then none else some (u.bulkSize / u.blockSize.toUInt32 + 1)

def bulkData (data : List UInt8) : List UInt8 := (data.drop 8).take (data.length - 12)

def requestBulkTransfer (entry : Option RemUDOData) (ygsap : Bool) (data : List UInt8) (leaseOk sent : Bool) :
    Option Outcome :=
  if data.length < 14 then some (entry, confirmBulkTransfer (.client ygsap) ygsFailure bulkoFailOther)
  else
    match entry with
    | none => some (none, confirmBulkTransfer (.client ygsap) ygsFailure bulktFailOther)
    | some u =>
      if ¬ leaseOk then some (none, confirmBulkTransfer (.client ygsap) ygsAborted bulktFailAbort)
      else if ¬ sent then
        some (some { u with pending := none }, confirmBulkTransfer (.client ygsap) ygsFailure bulktFailOther)
      else do
        -- the log line tells the number of blocks
        let _ ← blocksToSend u
        let u := u.await (.exec udoDwldData (bulkData data)) (.client ygsap)
        pure (some { u with currentBlock := u.currentBlock + 1, sent := u.sent + 1 }, [])

def closeRationale (u : RemUDOData) : Option UInt8 := do
  let blocks ← blocksToSend u
  pure (if u.currentBlock.toUInt32 ≥ blocks then udoEndDownloadSuccess else udoEndDownloadAbort)

def requestBulkClose (entry : Option RemUDOData) (ygsap : Bool) (dataSize : Nat) (leaseOk sent : Bool) :
    Option Outcome :=
  if dataSize ≠ 12 then some (entry, confirmBulkClose (.client ygsap) ygsFailure bulkoFailOther)
  else
    match entry with
    | none => some (none, confirmBulkClose (.client ygsap) ygsFailure bulkcFail)
    | some u =>
      if ¬ leaseOk then some (none, confirmBulkClose (.client ygsap) ygsInvalidLease bulkcFail)
      else do
        let rationale ← closeRationale u
        pure (endDownload u sent rationale (.client ygsap), [])

/-! ## Answers of the device -/

inductive ResponseType where
  | execRsp
  | readRsp
  | writeRsp
  | other
deriving DecidableEq

structure Response where
  type : ResponseType
  sfc : UInt8
  data : Nat → UInt8
  overlay : UInt16

def Response.methID (rsp : Response) : UdoRequest → UInt8
  | .exec methID _ => methID
  | _ => rsp.overlay.toUInt8

def Response.attrID (rsp : Response) : UdoRequest → UInt16
  | .read attrID | .write attrID _ => attrID
  | _ => rsp.overlay

def Response.data16 (rsp : Response) : UInt16 := (rsp.data 0).toUInt16 <<< 8 ||| (rsp.data 1).toUInt16

def Response.data32 (rsp : Response) : UInt32 :=
  (rsp.data 0).toUInt32 <<< 24 ||| (rsp.data 1).toUInt32 <<< 16 ||| (rsp.data 2).toUInt32 <<< 8 |||
    (rsp.data 3).toUInt32

section

variable (u : RemUDOData) (request : UdoRequest) (pMSG : Option Requester) (rsp : Response) (sent : Bool)

def adoptState : Option RemUDOData := tryReset (advanceState u (UdoState.ofByte (rsp.data 0))) sent

def negotiate (rspData : UInt16) : RemUDOData :=
  if u.blockSize = 0 ∨ rspData < u.blockSize then { u with blockSize := rspData } else u

def processIdleExec (msg : Requester) : Outcome :=
  if rsp.sfc ≠ sfcSuccess then (askState u sent, failOpen u msg)
  else if rsp.methID request = udoSetFile then
    if rsp.data 0 = 0 then startDownload u sent msg else (none, failOpen u msg)
  else if rsp.methID request = udoStartDwld then
    (some (advanceState u .downloading), confirmBulkOpen msg ygsSuccess bulkoSuccess u.blockSize u.bulkSize)
  else (none, failOpen u msg)

def processIdleRead : Outcome :=
  if rsp.sfc ≠ sfcSuccess then (none, ifTracked pMSG (failOpen u))
  else if rsp.attrID request = udoMaxBlckSize then
    match pMSG with
    | none => (none, [])
    | some msg => readMaxDownloadSize (negotiate u rsp.data16) sent msg
  else if rsp.attrID request = udoMaxDwldSize then
    match pMSG with
    | none => (none, [])
    | some msg =>
      if rsp.data32 < u.bulkSize then
        (none, confirmBulkOpen msg ygsLimitExceeded bulkoFailExceedLim u.blockSize u.bulkSize)
      else if u.resDesc.length ≠ 0 then setFile u sent msg
      else startDownload u sent msg
  else if rsp.attrID request = udoState then
    if UdoState.ofByte (rsp.data 0) = .idle then (none, []) else (adoptState u rsp sent, [])
  else (none, ifTracked pMSG (failOpen u))

def processStateIdle : Outcome :=
  match rsp.type with
  | .execRsp =>
    match pMSG with
    | none => (none, [])
    | some msg => processIdleExec u request rsp sent msg
  | .readRsp => processIdleRead u request pMSG rsp sent
  | .writeRsp | .other => (none, ifTracked pMSG (failOpen u))

def blockOf : UdoRequest → List (List UInt8)
  | .exec methID params => if methID = udoDwldData then [params] else []
  | _ => []

def processStateRead : Option RemUDOData :=
  if rsp.sfc ≠ sfcSuccess then tryReset u sent else adoptState u rsp sent

def processStateDownload : Outcome :=
  match rsp.type with
  | .execRsp =>
    match pMSG with
    | none => (none, [])
    | some msg =>
      if rsp.sfc = sfcInvalidBlockNumber then (some u, confirmBulkTransfer msg ygsCommFailed bulktFailComm)
      else if rsp.sfc = sfcDataSequenceError then
        -- a duplicate, which the device has already
        (some { u with acked := u.acked ++ blockOf request }, confirmBulkTransfer msg ygsSuccess bulktSuccess)
      else if rsp.sfc ≠ sfcSuccess then (askState u sent, confirmBulkTransfer msg ygsAborted bulktFailAbort)
      else (some { u with acked := u.acked ++ blockOf request }, confirmBulkTransfer msg ygsSuccess bulktSuccess)
  | .readRsp => (processStateRead u rsp sent, [])
  | .writeRsp | .other => (none, ifTracked pMSG fun msg => confirmBulkTransfer msg ygsAborted bulktFailAbort)

def processStateDowldCompl : Option Outcome :=
  match rsp.type with
  | .execRsp =>
    match pMSG with
    | none => some (none, [])
    | some msg => if rsp.sfc ≠ sfcSuccess then some (askState u sent, failClose msg) else apply u sent msg
  | .readRsp => some (processStateRead u rsp sent, [])
  | .writeRsp | .other => some (askState u sent, ifTracked pMSG failClose)

def processStateApply : Outcome :=
  match rsp.type with
  | .writeRsp =>
    match pMSG with
    | none => (none, [])
    | some msg =>
      if rsp.sfc ≠ sfcOperationAccepted then (askState u sent, failClose msg)
      else (none, confirmBulkClose msg ygsSuccess bulkcSuccess)
  | .readRsp => (processStateRead u rsp sent, [])
  | .execRsp | .other => (askState u sent, ifTracked pMSG failClose)

def failReset : Outcome :=
  match pMSG with
  | none => (none, [])
  | some msg => (askState u sent, failClose msg)

def processStateDLError : Outcome :=
  match rsp.type with
  | .writeRsp =>
    if rsp.sfc ≠ sfcSuccess then failReset u pMSG sent
    else (none, ifTracked pMSG fun msg => confirmBulkClose msg ygsAborted bulkcSuccess)
  | .readRsp => (adoptState u rsp sent, [])
  | .execRsp => if rsp.sfc ≠ sfcSuccess then failReset u pMSG sent else sendReset u sent pMSG
  | .other => (none, ifTracked pMSG failClose)

def processState : Option Outcome :=
  match u.state with
  | .idle => some (processStateIdle u request pMSG rsp sent)
  | .downloading => some (processStateDownload u request pMSG rsp sent)
  | .dlComplete => processStateDowldCompl u pMSG rsp sent
  | .applying => some (processStateApply u pMSG rsp sent)
  | .dlError => some (processStateDLError u pMSG rsp sent)
  | _ => some (none, [])

end

def RemUDOData.answered (u : RemUDOData) : RemUDOData := { u with pending := none }

def processAPDU (entry : Option RemUDOData) (rsp : Response) (tracked sent : Bool) : Option Outcome :=
  match entry with
  | none => some (none, [])
  | some u =>
    match u.pending with
    | none => some (some u, [])
    | some p => processState u.answered p.request (if tracked then some p.requester else none) rsp sent

def timeoutConfirm (u : RemUDOData) (msg : Requester) : List BulkConfirm :=
  match u.state with
  | .idle => confirmBulkOpen msg ygsCommFailed bulkoFailOther u.blockSize u.bulkSize
  | .downloading => confirmBulkTransfer msg ygsCommFailed bulktFailComm
  | .dlComplete | .applying | .dlError => confirmBulkClose msg ygsCommFailed bulkcFail
  | _ => []

def processISATimeout (entry : Option RemUDOData) (tracked : Bool) : Outcome :=
  match entry with
  | none => (none, [])
  | some u =>
    match u.pending with
    | none => (some u, [])
    | some p => (none, if tracked then timeoutConfirm u p.requester else [])

def onLeaseDelete (entry : Option RemUDOData) (sent : Bool) : Outcome :=
  (entry.bind fun u => tryReset u sent, [])

structure Progress where
  file : Item
  blockSize : UInt16
  acked : List (List UInt8)

def RemUDOData.progress (u : RemUDOData) : Progress := ⟨u.file, u.blockSize, u.acked⟩

/-- The service for one lease: its transfer and the confirms of the last step. `closed` is kept for the statements only, the transfer at the last close request that it took. -/
structure BulkState where
  entry : Option RemUDOData
  out : List BulkConfirm
  closed : Option Progress

def BulkState.init : BulkState := ⟨none, [], none⟩

inductive BulkEvent where
  | openRequest (req : OpenRequest) (lease : Option BulkLease) (sent : Bool)
  | transferRequest (ygsap : Bool) (data : List UInt8) (leaseOk sent : Bool)
  | closeRequest (ygsap : Bool) (dataSize : Nat) (leaseOk sent : Bool)
  | apdu (rsp : Response) (tracked sent : Bool)
  | isaTimeout (tracked : Bool)
  | leaseDelete (sent : Bool)

def handle (entry : Option RemUDOData) : BulkEvent → Option Outcome
  | .openRequest req lease sent => some (requestBulkOpen entry req lease sent)
  | .transferRequest ygsap data leaseOk sent => requestBulkTransfer entry ygsap data leaseOk sent
  | .closeRequest ygsap dataSize leaseOk sent => requestBulkClose entry ygsap dataSize leaseOk sent
  | .apdu rsp tracked sent => processAPDU entry rsp tracked sent
  | .isaTimeout tracked => some (processISATimeout entry tracked)
  | .leaseDelete sent => some (onLeaseDelete entry sent)

def closedBy (s : BulkState) : BulkEvent → Option Progress
  | .closeRequest _ dataSize leaseOk _ =>
    if dataSize = 12 ∧ leaseOk then s.entry.map RemUDOData.progress else s.closed
  | _ => s.closed

def BulkState.step (s : BulkState) (e : BulkEvent) : Option BulkState :=
  (handle s.entry e).map fun outcome => ⟨outcome.1, outcome.2, closedBy s e⟩

end Isa100Gateway.BulkTransferService
