import Isa100Gateway.Asl.Apdu
import Isa100Gateway.Lib.Run
import Mathlib.Data.List.AList

/-!
# The ASL transmit queue

The transmit side of `aslde.cpp` and the contract table of `nlme.cpp` it works on: queueing an APDU, the send task, transport confirms, received responses, the one-second timeouts, and the contract rewrites. A step is a function of the state and of what it reads from outside (clock, random numbers, the peer's data). What a step does to the outside (a transport request, a timeout notification to an application) is an event of the log.
-/

namespace Isa100Gateway

open Machine

def maxApduConfEntryNo : Nat := 5
def commonApduBufSize : UInt16 := 65535

def uapDmapID : UInt8 := 0
def uapSmapID : UInt8 := 1
def smUdoObjID : UInt16 := 7
def udoGroupFwActivationTai : UInt8 := 133

/-! ## Contracts -/

abbrev Ipv6Addr := List UInt8

/-- `struct timeval` with a `long` of 32 bits, as on the hosts that the makefiles build for. -/
structure TimeVal where
  tvSec : Int32
  tvUsec : Int32

/-- `NLME_CONTRACT_ATTRIBUTES`. The contract id is the key of the table. `serial` names the allocated object, which weak pointers refer to, and `issued` counts the request ids the object has given out; the source has neither. -/
structure Contract where
  serial : Nat
  issued : Nat
  destAddress : Ipv6Addr
  rto : Int32
  srtt : UInt32
  rttv : UInt32
  (crtWndSize inUseWndSize successTransmissions reqID : UInt8)
  assignedMaxNSDUSize : UInt16
  comittedBurst : Int16
  excessBurst : Int16
  maxSendWindow : UInt8
  sendNoEarlierThan : TimeVal
  pktCount : UInt32

abbrev Contracts := AList (fun _ : UInt16 => Contract)

/-- `ASLDE_SlidingWindowAllowsTX`, which also enforces the contract's bandwidth on the current window. -/
def slidingWindowAllowsTX (c : Contract) : Bool × Contract :=
  if c.maxSendWindow = 0 then (true, c)
  else
    let c := if c.crtWndSize > c.maxSendWindow then { c with crtWndSize := c.maxSendWindow } else c
    (c.crtWndSize > c.inUseWndSize, c)

def slidingWindowIncreaseUsage (c : Contract) : Bool × Contract :=
  if c.maxSendWindow = 0 then (true, c)
  else
    let (allowed, c) := slidingWindowAllowsTX c
    if allowed then (true, { c with inUseWndSize := c.inUseWndSize + 1 }) else (false, c)

def receiveResponseForSlidingWindow (c : Contract) : Contract :=
  if c.maxSendWindow = 0 then c
  else
    let c := if c.inUseWndSize ≠ 0 then { c with inUseWndSize := c.inUseWndSize - 1 } else c
    let c := if c.crtWndSize ≠ 0 then { c with successTransmissions := c.successTransmissions + 1 }
      else c
    let c := if c.inUseWndSize = 0 ∧ c.crtWndSize = 0 then { c with crtWndSize := 1 } else c
    if c.successTransmissions > c.crtWndSize then
      { c with crtWndSize := c.crtWndSize + 1, successTransmissions := 0 }
    else c

def receiveTimeoutForSlidingWindow (c : Contract) : Contract :=
  if c.maxSendWindow = 0 then c
  else { c with crtWndSize := 0, successTransmissions := 0 }

def bandwidthLimitAllowsTX (tvNow : TimeVal) (c : Contract) : Bool :=
  tvNow.tvSec > c.sendNoEarlierThan.tvSec ∨
    tvNow.tvSec = c.sendNoEarlierThan.tvSec ∧ tvNow.tvUsec > c.sendNoEarlierThan.tvUsec

/-- `nPacketIntervalMS`, computed in `int` and stored in an `unsigned long`. -/
def Contract.packetIntervalMS (c : Contract) : UInt32 :=
  let burst := c.comittedBurst.toInt32
  (if burst > 0 then 1000 / burst else -1000 * burst).toUInt32

def recordPacketNextTXTime (tvNow : TimeVal) (c : Contract) : Contract :=
  let usec := (tvNow.tvUsec.toUInt32 + 1000 * c.packetIntervalMS).toInt32
  { c with sendNoEarlierThan :=
      { tvSec := tvNow.tvSec + usec / 1000000, tvUsec := usec % 1000000 } }

/-- `ASLDE_computeTXtimeout`, in eighths of a second until the last lines. -/
def computeTXtimeout (c : Contract) (rtt : UInt32) : Contract :=
  let rtt := (if rtt = 0 then 1 else rtt) <<< 3
  let c : Contract :=
    if c.srtt = 0 then { c with srtt := rtt, rttv := rtt >>> 1 }
    else
      let delta := if rtt > c.srtt then rtt - c.srtt else c.srtt - rtt
      { c with
        rttv := ((3 * c.rttv) >>> 2) + (delta >>> 2)
        srtt := ((7 * c.srtt) >>> 3) + (rtt >>> 3) }
  let variation : UInt32 := c.rttv <<< 2
  let rto := (c.srtt + (if variation ≠ 0 then variation else 1)).toInt32
  let roundUp : Int32 := if rto &&& 0x7 > 0 then 1 else 0
  let rto := (rto >>> 3) + roundUp
  let rto := if rto < 1 then 1 else rto
  { c with rto := if rto > 60 then 60 else rto }

inductive ApduStatus where
  | notProcessed
  | readyToSend
  | readyToSendNoFC
  | sentWaitJustTLCnf
  | sentWaitCnfAndResponse
  | confirmedWaitRsp
  | readyToClear
deriving DecidableEq

/-- `CAslTxMsg` with its `ASL_QUEUE_HDR`. `weakContract` is the object the weak pointer was made from; `uid` names the entry, and `issueNo` is the place of its request id among those its contract has issued, for the requests that take a new one; the source has neither of the last two. -/
structure TxMsg where
  uid : Nat
  weakContract : Nat
  issueNo : Option Nat
  status : ApduStatus
  apduLen : UInt16
  timeout : UInt16
  priorityAndFlags : UInt8
  srcSAP : UInt8
  dstSAP : UInt8
  sendTime : UInt32
  srcOID : UInt16
  dstOID : UInt16
  lifetime : UInt16
  concatHandle : UInt8
  reqID : UInt8
  retryNo : UInt8
  defTimeout : UInt16
  appHandle : UInt16
  contractId : UInt16
  allowEncryption : UInt8
  obeyContractBandwidth : UInt8
  inSlidingWindow : Bool
  noRspExpected : Bool
  txApduData : List UInt8
deriving DecidableEq

def TxMsg.apduByte (m : TxMsg) : UInt8 := m.txApduData.headD 0

def TxMsg.justWaitsTLCnf (m : TxMsg) : Bool :=
  m.noRspExpected || m.apduByte &&& 0x80 != 0 ||
    getAslSrvcType m.apduByte == srvcTypeAlertRep ||
    getAslSrvcType m.apduByte == srvcTypeAlertAck ||
    getAslSrvcType m.apduByte == srvcTypePublish

def TxMsg.ReadyToSend (m : TxMsg) : Prop :=
  m.status = .readyToSend ∨ m.status = .readyToSendNoFC

instance (m : TxMsg) : Decidable m.ReadyToSend := inferInstanceAs (Decidable (_ ∨ _))

structure ApduConfirm where
  handle : UInt8
  confirmStatus : UInt8

inductive AslEvent where
  /-- `ASLSRVC_AddGenericObject` queued the entry. -/
  | queued (m : TxMsg)
  | matched (uid : Nat)
  /-- `UAP_DataTimeout` for the entry. -/
  | dataTimeout (uid : Nat) (appHandle : UInt16) (srcSAP dstSAP sfc : UInt8)
  /-- `TLDE_DATA_Request`. -/
  | tldeDataRequest (contractId : UInt16) (priorityAndFlags : UInt8) (appData : List UInt8)
      (handle srcTSAPID dstTSAPID allowEncryption : UInt8)

structure Shared where
  contracts : Contracts
  log : List AslEvent

structure AslState where
  shared : Shared
  queue : List TxMsg
  conf : List ApduConfirm
  handle : UInt8
  nextSerial : Nat
  nextUid : Nat

def AslState.init : AslState where
  shared := { contracts := ∅, log := [] }
  queue := []
  conf := []
  handle := 0
  nextSerial := 0
  nextUid := 0

def Contracts.lock (contracts : Contracts) (m : TxMsg) : Option Contract :=
  (contracts.lookup m.contractId).filter fun c => c.serial == m.weakContract

def Shared.onContract (sh : Shared) (m : TxMsg) (f : Contract → Contract) : Shared :=
  match sh.contracts.lock m with
  | some c => { sh with contracts := sh.contracts.insert m.contractId (f c) }
  | none => sh

def Shared.dataTimeout (sh : Shared) (m : TxMsg) (sfc : UInt8) : Shared :=
  { sh with log := .dataTimeout m.uid m.appHandle m.srcSAP m.dstSAP sfc :: sh.log }

/-- `ASLDE_ReceiveResponseForSlidingWindow`, for an entry that holds a place in the window. -/
def Shared.release (sh : Shared) (m : TxMsg) : Shared :=
  if m.inSlidingWindow then sh.onContract m receiveResponseForSlidingWindow else sh

def Shared.giveUp (sh : Shared) (m : TxMsg) : Shared × TxMsg :=
  ((sh.release m).dataTimeout m sfcTimeout, { m with status := .readyToClear })

def retryMessage (sh : Shared) (m : TxMsg) : Shared × TxMsg :=
  let sh := sh.onContract m receiveTimeoutForSlidingWindow
  if m.retryNo ≠ 0 then
    let defTimeout := m.defTimeout * 2
    let defTimeout := if defTimeout > 60 then 60 else defTimeout
    (sh, { m with
      retryNo := m.retryNo - 1
      defTimeout := defTimeout
      timeout := defTimeout
      status := .readyToSendNoFC })
  else sh.giveUp m

def checkLifetime (sh : Shared) (m : TxMsg) : Shared × TxMsg :=
  if m.status = .readyToClear then (sh, m)
  else
    let m := { m with lifetime := m.lifetime - 1 }
    if m.lifetime = 0 then sh.giveUp m else (sh, m)

def checkTimeout (sh : Shared) (m : TxMsg) : Shared × TxMsg :=
  if m.status = .readyToClear ∨ m.ReadyToSend then (sh, m)
  else if m.timeout ≠ 0 then (sh, { m with timeout := m.timeout - 1 })
  else retryMessage sh m

def timeoutVisit (sh : Shared) (m : TxMsg) : Shared × Option TxMsg :=
  let (sh, m) := checkLifetime sh m
  let (sh, m) := checkTimeout sh m
  (sh, some m)

def checkAPDUTimeoutCountersOnTX (st : AslState) : AslState :=
  let (shared, queue) := pass timeoutVisit st.shared st.queue
  { st with shared, queue }

def cleanAPDUBuffer (st : AslState) : AslState :=
  { st with queue := st.queue.filter fun m => m.status ≠ .readyToClear }

def performOneSecondOperations (st : AslState) : AslState :=
  cleanAPDUBuffer (checkAPDUTimeoutCountersOnTX st)

def TxMsg.AwaitsConfirm (m : TxMsg) (conf : ApduConfirm) : Prop :=
  (m.status = .sentWaitJustTLCnf ∨ m.status = .sentWaitCnfAndResponse) ∧ m.concatHandle = conf.handle

instance (m : TxMsg) (conf : ApduConfirm) : Decidable (m.AwaitsConfirm conf) :=
  inferInstanceAs (Decidable (_ ∧ _))

def confirmMsg (conf : ApduConfirm) (m : TxMsg) : Option TxMsg :=
  if m.AwaitsConfirm conf then
    if conf.confirmStatus = sfcSuccess then
      if m.status = .sentWaitJustTLCnf then none
      else some { m with status := .confirmedWaitRsp }
    else if sfcNoContract = conf.confirmStatus then none
    else some { m with timeout := 2 }
  else some m

def confirmQueue (queue : List TxMsg) (conf : ApduConfirm) : List TxMsg :=
  queue.filterMap (confirmMsg conf)

def checkTLConfirms (st : AslState) : AslState :=
  { st with queue := run confirmQueue st.queue st.conf, conf := [] }

def dataConfirm (st : AslState) (conf : ApduConfirm) : AslState :=
  if st.conf.length < maxApduConfEntryNo then { st with conf := st.conf ++ [conf] } else st

/-- `APDU_IDTF_TX`, with the contract that the source returns beside it. -/
structure ApduIdtfTx where
  contractId : UInt16
  (priorityAndFlags srcTSAPID dstTSAPID allowEncryption : UInt8)

def loadIDTF (m : TxMsg) : ApduIdtfTx where
  contractId := m.contractId
  priorityAndFlags := m.priorityAndFlags
  srcTSAPID := m.srcSAP
  dstTSAPID := m.dstSAP
  allowEncryption := m.allowEncryption

def TxMsg.outranks (m : TxMsg) : Option ApduIdtfTx → Bool
  | none => true
  | some idtf => m.priorityAndFlags &&& 0x0F > idtf.priorityAndFlags &&& 0x0F

def searchVisit (tvNow : TimeVal) (s : Shared × Option ApduIdtfTx) (m : TxMsg) :
    (Shared × Option ApduIdtfTx) × Option TxMsg :=
  let (sh, best) := s
  if m.ReadyToSend ∧ m.outranks best then
    match sh.contracts.lock m with
    | none => ((sh.dataTimeout m sfcNoContract, best), none)
    | some c =>
      let sh :=
        if m.status = .readyToSend then sh.onContract m fun c => (slidingWindowAllowsTX c).2
        else sh
      if m.status = .readyToSend ∧ ¬ (slidingWindowAllowsTX c).1 then ((sh, best), some m)
      else if m.obeyContractBandwidth ≠ 0 ∧ ¬ bandwidthLimitAllowsTX tvNow c then
        ((sh, best), some m)
      else ((sh, some (loadIDTF m)), some m)
  else (s, some m)

def searchHighestPriority (tvNow : TimeVal) (sh : Shared) (queue : List TxMsg) :
    (Shared × Option ApduIdtfTx) × List TxMsg :=
  pass (searchVisit tvNow) (sh, none) queue

def Contract.tsduRoom (c : Contract) : Int := c.assignedMaxNSDUSize.toNat - 8 - 4 - 4

def TxMsg.sent (m : TxMsg) (handle : UInt8) (now : UInt32) : TxMsg :=
  { m with
    concatHandle := handle
    sendTime := if m.sendTime = 0 then now else m.sendTime
    status := if m.justWaitsTLCnf then .sentWaitJustTLCnf else .sentWaitCnfAndResponse }

def concatVisit (contractId : UInt16) (room : Int) (handle : UInt8) (now : UInt32)
    (s : Contract × List UInt8) (m : TxMsg) : (Contract × List UInt8) × Option TxMsg :=
  let (c, out) := s
  if m.ReadyToSend ∧ contractId = m.contractId then
    if (m.apduLen.toNat : Int) ≤ room - out.length then
      if m.status = .readyToSend then
        let (allowed, c) := slidingWindowIncreaseUsage c
        if allowed then
          ((c, out ++ m.txApduData), some ({ m with inSlidingWindow := true }.sent handle now))
        else ((c, out), some m)
      else ((c, out ++ m.txApduData), some (m.sent handle now))
    -- too long for a TSDU even on its own
    else if out = [] then (s, some { m with status := .readyToClear })
    else (s, some m)
  else (s, some m)

def concatenateAPDUs (contractId : UInt16) (handle : UInt8) (now : UInt32) (c : Contract)
    (queue : List TxMsg) : (Contract × List UInt8) × List TxMsg :=
  pass (concatVisit contractId c.tsduRoom handle now) (c, []) queue

def Contract.packetSent (tvNow : TimeVal) (c : Contract) : Contract :=
  let c := recordPacketNextTXTime tvNow c
  { c with pktCount := c.pktCount + 1 }

def sendConcatenated (tvNow : TimeVal) (now : UInt32) (idtf : ApduIdtfTx) (c : Contract) (st : AslState) : AslState :=
  let ((c, out), queue) := concatenateAPDUs idtf.contractId st.handle now c st.queue
  { st with
    shared :=
      { contracts := st.shared.contracts.insert idtf.contractId (c.packetSent tvNow)
        log := .tldeDataRequest idtf.contractId idtf.priorityAndFlags out st.handle idtf.srcTSAPID
          idtf.dstTSAPID idtf.allowEncryption :: st.shared.log }
    queue := queue
    handle := st.handle + 1 }

def searchStep (tvNow : TimeVal) (st : AslState) : AslState × Option ApduIdtfTx :=
  let ((shared, found), queue) := searchHighestPriority tvNow st.shared st.queue
  ({ st with shared, queue }, found)

def flushAPDUBuffer (tvNow : TimeVal) (now : UInt32) (st : AslState) : AslState :=
  let (st, found) := searchStep tvNow st
  match found with
  | none => st
  | some idtf =>
    match st.shared.contracts.lookup idtf.contractId with
    | none => st
    | some c => sendConcatenated tvNow now idtf c st

def aslTask (tvNow : TimeVal) (now : UInt32) (st : AslState) : AslState :=
  flushAPDUBuffer tvNow now (checkTLConfirms st)

structure ApduIdtf where
  addr : Ipv6Addr
  srcTSAPID : UInt8
  dstTSAPID : UInt8

structure ResponseKey where
  reqID : UInt8
  dstObjID : UInt16
  srcObjID : UInt16
  idtf : ApduIdtf

def TxMsg.answers (m : TxMsg) (key : ResponseKey) : Prop :=
  isAslSrvcRequest m.apduByte ∧ m.dstOID = key.dstObjID ∧ m.srcOID = key.srcObjID ∧
    m.reqID = key.reqID ∧ m.srcSAP = key.idtf.dstTSAPID ∧ m.dstSAP = key.idtf.srcTSAPID

instance (m : TxMsg) (key : ResponseKey) : Decidable (m.answers key) :=
  inferInstanceAs (Decidable (_ ∧ _))

def TxMsg.IsOriginalRequest (contracts : Contracts) (m : TxMsg) (key : ResponseKey) : Prop :=
  m.answers key ∧ m.status ≠ .readyToClear ∧ ∃ c ∈ contracts.lock m, c.destAddress = key.idtf.addr

instance (contracts : Contracts) (m : TxMsg) (key : ResponseKey) : Decidable (m.IsOriginalRequest contracts key) :=
  inferInstanceAs (Decidable (_ ∧ _))

def responseReceived (now : UInt32) (m : TxMsg) (c : Contract) : Contract :=
  let c := computeTXtimeout c (now - m.sendTime)
  if m.inSlidingWindow then receiveResponseForSlidingWindow c else c

def responseVisit (now : UInt32) (key : ResponseKey) (s : Shared × Option TxMsg) (m : TxMsg) :
    (Shared × Option TxMsg) × Option TxMsg :=
  let (sh, found) := s
  if found.isNone ∧ m.IsOriginalRequest sh.contracts key then
    let sh := sh.onContract m (responseReceived now m)
    (({ sh with log := .matched m.uid :: sh.log }, some m),
      some { m with status := .readyToClear })
  else (s, some m)

def searchOriginalRequest (now : UInt32) (key : ResponseKey) (st : AslState) : Option TxMsg × AslState :=
  let ((shared, found), queue) := pass (responseVisit now key) (st.shared, none) st.queue
  (found, { st with shared, queue })

structure RetrySettings where
  dmapMaxRetry : UInt8
  maxUAPRetries : UInt8
  geSpecialTimeout : UInt16

structure AddRequest where
  obj : GenericAslSrvc Payload
  priority : UInt8
  srcTSAPID : UInt8
  dstTSAPID : UInt8
  appHandle : UInt16
  contractID : UInt16
  obeyContractBandwidth : UInt8
  allowEncryption : UInt8
  noRspExpected : UInt8
  apduLifetime : UInt16

def GenericAslSrvc.takesReqID {ptr : Type} : GenericAslSrvc ptr → Bool
  | .readReq _ | .writeReq _ | .execReq _ => true
  | _ => false

def GenericAslSrvc.withReqID {ptr : Type} (reqID : UInt8) : GenericAslSrvc ptr → GenericAslSrvc ptr
  | .readReq o => .readReq { o with reqID }
  | .writeReq o => .writeReq { o with reqID }
  | .execReq o => .execReq { o with reqID }
  | obj => obj

def GenericAslSrvc.oids {ptr : Type} : GenericAslSrvc ptr → UInt16 × UInt16
  | .readReq o => (o.srcOID, o.dstOID)
  | .readRsp o => (o.srcOID, o.dstOID)
  | .writeReq o => (o.srcOID, o.dstOID)
  | .writeRsp o => (o.srcOID, o.dstOID)
  | .execReq o => (o.srcOID, o.dstOID)
  | .execRsp o => (o.srcOID, o.dstOID)
  | .tunnelReq o => (o.srcOID, o.dstOID)
  | .tunnelRsp o => (o.srcOID, o.dstOID)
  | .publish o => (o.pubOID, o.subOID)
  | .alertRep o => (o.srcOID, o.dstOID)
  | .alertAck o => (o.srcOID, o.dstOID)

/-- The services that are queued as `APDU_READY_TO_SEND`, and so wait for the sliding window. -/
def GenericAslSrvc.flowControlled {ptr : Type} : GenericAslSrvc ptr → Bool
  | .readReq _ | .writeReq _ | .execReq _ | .tunnelReq _ => true
  | _ => false

def AddRequest.specialTimeout (req : AddRequest) : Bool :=
  match req.obj with
  | .execReq o =>
    req.dstTSAPID == uapSmapID && o.dstOID == smUdoObjID && o.methID == udoGroupFwActivationTai
  | _ => false

def newTxMsg (cfg : RetrySettings) (req : AddRequest) (c : Contract) (uid : Nat) (apdu : List UInt8) : TxMsg :=
  let timeout := if req.specialTimeout then cfg.geSpecialTimeout else c.rto.toInt16.toUInt16
  { uid := uid
    weakContract := c.serial
    issueNo := if req.obj.takesReqID then some c.issued else none
    status := if req.obj.flowControlled ∧ req.noRspExpected = 0 then .readyToSend
      else .readyToSendNoFC
    apduLen := apdu.length.toUInt16
    timeout := timeout
    priorityAndFlags := (req.priority &&& 0x0F) ||| 0x20
    srcSAP := req.srcTSAPID
    dstSAP := req.dstTSAPID
    sendTime := 0
    srcOID := req.obj.oids.1
    dstOID := req.obj.oids.2
    lifetime := req.apduLifetime
    concatHandle := 0
    reqID := c.reqID
    retryNo := if uapDmapID = req.srcTSAPID then cfg.dmapMaxRetry else cfg.maxUAPRetries
    defTimeout := timeout
    appHandle := req.appHandle
    contractId := req.contractID
    allowEncryption := req.allowEncryption
    obeyContractBandwidth := req.obeyContractBandwidth
    inSlidingWindow := false
    noRspExpected := req.noRspExpected &&& 1 != 0
    txApduData := apdu }

def Contract.takeReqID (c : Contract) : Contract :=
  { c with reqID := c.reqID + 1, issued := c.issued + 1 }

def Contracts.issueReqID (contracts : Contracts) (req : AddRequest) (c : Contract) : Contracts :=
  if req.obj.takesReqID then contracts.insert req.contractID c.takeReqID else contracts

def addGenericObject (cfg : RetrySettings) (req : AddRequest) (st : AslState) : UInt8 × AslState :=
  match st.shared.contracts.lookup req.contractID with
  | none => (sfcNoContract, st)
  | some c =>
    let apdu := setGenericObject (req.obj.withReqID c.reqID) commonApduBufSize
    let contracts := st.shared.contracts.issueReqID req c
    match apdu with
    | none =>
      (sfcInsufficientDeviceResources, { st with shared := { st.shared with contracts } })
    | some apdu =>
      let m := newTxMsg cfg req c st.nextUid apdu
      (sfcSuccess,
        { st with
          shared := { contracts, log := .queued m :: st.shared.log }
          queue := st.queue ++ [m]
          nextUid := st.nextUid + 1 })

def initialRTO (comittedBurst : Int16) : Int32 :=
  let rto := Int32.ofInt (2 * -comittedBurst.toInt)
  if rto < 3 then 3 else if rto > 60 then 60 else rto

structure ContractIdx where
  contractId : UInt16
  ownIPv6 : Ipv6Addr
deriving DecidableEq

structure SetContractReq where
  idx : ContractIdx
  data : ContractIdx
  peerIPv6 : Ipv6Addr
  assignedMaxNSDUSize : UInt16
  wndLen : UInt8
  comittedBurst : Int16
  excessBurst : Int16

def deleteContract (contractId : UInt16) (st : AslState) : AslState :=
  { st with shared := { st.shared with contracts := st.shared.contracts.erase contractId } }

def SetContractReq.contract (req : SetContractReq) (serial issued : Nat) (reqID : UInt8) : Contract where
  serial := serial
  issued := issued
  destAddress := req.peerIPv6
  rto := initialRTO req.comittedBurst
  srtt := 0
  rttv := 0
  crtWndSize := 1
  inUseWndSize := 0
  successTransmissions := 0
  reqID := reqID
  assignedMaxNSDUSize := req.assignedMaxNSDUSize
  comittedBurst := req.comittedBurst
  excessBurst := req.excessBurst
  maxSendWindow := req.wndLen
  sendNoEarlierThan := ⟨0, 0⟩
  pktCount := 0

def AslState.insertNew (st : AslState) (contractId : UInt16) (c : Nat → Contract) : AslState :=
  { st with
    shared := { st.shared with
      contracts := st.shared.contracts.insert contractId (c st.nextSerial) }
    nextSerial := st.nextSerial + 1 }

def storeContract (random : UInt8) (req : SetContractReq) (st : AslState) : UInt8 × AslState :=
  match st.shared.contracts.lookup req.idx.contractId with
  | some c =>
    (sfcSuccess, { st with shared := { st.shared with
      contracts := st.shared.contracts.insert req.idx.contractId
        (req.contract c.serial c.issued c.reqID) } })
  | none =>
    if st.shared.contracts.entries.length ≥ maxContractNo then (sfcInsufficientDeviceResources, st)
    else (sfcSuccess, st.insertNew req.idx.contractId fun serial => req.contract serial 0 random)

/-- `NLME_setContract`. Two different indexes delete the row of the first one, and the new row is stored under that same id. -/
def setContract (ownAddress : Ipv6Addr) (random : UInt8) (req : SetContractReq) (st : AslState) : UInt8 × AslState :=
  if req.data.ownIPv6 ≠ ownAddress then (sfcInvalidElementIndex, st)
  else
    storeContract random req (if req.idx ≠ req.data then deleteContract req.idx.contractId st else st)

structure DmoContract where
  contractID : UInt16
  dstAddr128 : Ipv6Addr
  assignedMaxNSDUSize : UInt16
  maxSendWindow : UInt8
  comittedBurst : Int16
  excessBurst : Int16

/-- The fields that `new NLME_CONTRACT_ATTRIBUTES` leaves unset in a contract of the DMO. -/
structure UnsetFields where
  sendNoEarlierThan : TimeVal
  pktCount : UInt32

def DmoContract.updated (dmo : DmoContract) (c : Contract) : Contract :=
  { c with
    assignedMaxNSDUSize := dmo.assignedMaxNSDUSize
    maxSendWindow := dmo.maxSendWindow
    comittedBurst := dmo.comittedBurst
    excessBurst := dmo.excessBurst
    rto := initialRTO dmo.comittedBurst }

def DmoContract.contract (dmo : DmoContract) (random : UInt8) (unset : UnsetFields) (serial : Nat) : Contract where
  serial := serial
  issued := 0
  destAddress := dmo.dstAddr128
  rto := initialRTO dmo.comittedBurst
  srtt := 0
  rttv := 0
  crtWndSize := 1
  inUseWndSize := 0
  successTransmissions := 0
  reqID := random
  assignedMaxNSDUSize := dmo.assignedMaxNSDUSize
  comittedBurst := dmo.comittedBurst
  excessBurst := dmo.excessBurst
  maxSendWindow := dmo.maxSendWindow
  sendNoEarlierThan := unset.sendNoEarlierThan
  pktCount := unset.pktCount

def addDmoContract (random : UInt8) (unset : UnsetFields) (dmo : DmoContract) (st : AslState) : UInt8 × AslState :=
  match st.shared.contracts.lookup dmo.contractID with
  | some c =>
    (sfcSuccess, { st with shared := { st.shared with
      contracts := st.shared.contracts.insert dmo.contractID (dmo.updated c) } })
  | none =>
    if st.shared.contracts.entries.length ≥ maxContractNo then (sfcInsufficientDeviceResources, st)
    else (sfcSuccess, st.insertNew dmo.contractID (dmo.contract random unset))

inductive AslAction where
  | addGenericObject (cfg : RetrySettings) (req : AddRequest)
  | aslTask (tvNow : TimeVal) (now : UInt32)
  | dataConfirm (conf : ApduConfirm)
  | response (now : UInt32) (key : ResponseKey)
  | oneSecond
  | setContract (ownAddress : Ipv6Addr) (random : UInt8) (req : SetContractReq)
  | addDmoContract (random : UInt8) (unset : UnsetFields) (dmo : DmoContract)
  | deleteContract (contractId : UInt16)

def aslStep (st : AslState) : AslAction → AslState
  | .addGenericObject cfg req => (addGenericObject cfg req st).2
  | .aslTask tvNow now => aslTask tvNow now st
  | .dataConfirm conf => dataConfirm st conf
  | .response now key => (searchOriginalRequest now key st).2
  | .oneSecond => performOneSecondOperations st
  | .setContract ownAddress random req => (setContract ownAddress random req st).2
  | .addDmoContract random unset dmo => (addDmoContract random unset dmo st).2
  | .deleteContract contractId => deleteContract contractId st

def sampleOwnAddress : Ipv6Addr := List.replicate 15 0 ++ [1]
def samplePeer : Ipv6Addr := List.replicate 15 0 ++ [2]
def sampleRetries : RetrySettings := ⟨1, 1, 60⟩

def sampleSetContract (contractId : UInt16) (wndLen : UInt8) : SetContractReq where
  idx := ⟨contractId, sampleOwnAddress⟩
  data := ⟨contractId, sampleOwnAddress⟩
  peerIPv6 := samplePeer
  assignedMaxNSDUSize := 1280
  wndLen := wndLen
  comittedBurst := -1
  excessBurst := -1

def sampleRequest (contractID : UInt16) (obj : GenericAslSrvc Payload) : AddRequest where
  obj := obj
  priority := 1
  srcTSAPID := 2
  dstTSAPID := 2
  appHandle := 40
  contractID := contractID
  obeyContractBandwidth := 0
  allowEncryption := 1
  noRspExpected := 0
  apduLifetime := 120

def sampleReadReq : GenericAslSrvc Payload := .readReq ⟨2, 7, 0, ⟨attrNoIndex, 3, 0, 0⟩⟩
def sampleReadRspKey : ResponseKey := ⟨9, 7, 2, ⟨samplePeer, 2, 2⟩⟩

def sampleWriteRsp : GenericAslSrvc Payload := .writeRsp ⟨2, 7, 5, 0, sfcSuccess⟩

end Isa100Gateway
