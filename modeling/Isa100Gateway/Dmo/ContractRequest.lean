import Isa100Gateway.Asl.Queue
import Isa100Gateway.Slme.KeyTable

/-!
# Pending contract requests (`dmap_dmo.cpp`)

The map of the contract requests that the system manager has not answered yet, and the functions that send a request, take its response, and give it up. Compiled with `MULTICONTRACTS`, as `dmap_dmo.h` defines it.
-/

namespace Isa100Gateway

def contractRspOk : UInt8 := 0
def contractPendingNoKey : UInt8 := 7
def contractPending : UInt8 := 8
def contractPendingFailed : UInt8 := 9

def contractReqTypeNew : UInt8 := 0
def anyServiceType : UInt8 := 255

/-- `DMO_CONTRACT_BANDWIDTH`. Both members of the union have a signed word, a word and a byte. -/
structure DmoContractBandwidth where
  periodOrComittedBurst : Int16
  deadlineOrExcessBurst : UInt16
  phaseOrMaxSendWindow : UInt8

/-- `DMO_CONTRACT_ATTRIBUTE`. In a pending request `contractID` holds the request id and `activationTAI` the time to give up. -/
structure DmoContractAttribute where
  assignedExpTime : UInt32
  activationTAI : UInt32
  (contractID srcTLPort assignedMaxNSDUSize dstTLPort : UInt16)
  (contractStatus serviceType reliability priority : UInt8)
  dstAddr128 : Ipv6Addr
  bandwidth : DmoContractBandwidth
  contractReqType : UInt8

structure ContractEndpoints where
  dstAddr128 : Ipv6Addr
  dstTLPort : UInt16
  srcTLPort : UInt16
deriving DecidableEq

def DmoContractAttribute.endpoints (c : DmoContractAttribute) : ContractEndpoints :=
  ⟨c.dstAddr128, c.dstTLPort, c.srcTLPort⟩

abbrev DmoContractsMap := AList (fun _ : UInt16 => DmoContractAttribute)

/-- `g_oDmoContractsMap`, `g_oPendingContractRspMap`, `g_ucContractRspPending` and the static `s_ucContractReqID`. -/
structure DmoState where
  dmoContractsMap : DmoContractsMap
  pendingContractRspMap : UInt8 → Option DmoContractAttribute
  contractRspPending : UInt8
  contractReqID : UInt8

def DmoState.start : DmoState where
  dmoContractsMap := ∅
  pendingContractRspMap := fun _ => none
  contractRspPending := 0
  contractReqID := 1

def requestIds : List UInt8 := (List.range 256).map UInt8.ofNat

def DmoState.pendingEntries (st : DmoState) : List (UInt8 × DmoContractAttribute) :=
  requestIds.filterMap fun id => (st.pendingContractRspMap id).map fun c => (id, c)

def DmoState.setPending (st : DmoState) (id : UInt8) (c : Option DmoContractAttribute) : DmoState :=
  { st with pendingContractRspMap := Function.update st.pendingContractRspMap id c }

/-- What the functions read outside the DMO: the clock, the join state, the security level, the keys, the contract with the system manager, `rand() >> 8`, and the memory behind `new`. -/
structure DmoEnv where
  crtTaiSec : UInt32
  contractReqTimeout : UInt16
  joined : Bool
  tlSecurityLevel : UInt8
  hasTxKey : Bool
  newSessionKeySfc : UInt8
  sysMngContractID : UInt16
  rand : UInt8
  unsetReqType : UInt8

def DmoEnv.deadline (env : DmoEnv) : UInt32 := env.crtTaiSec + env.contractReqTimeout.toUInt32

/-- The candidates for a request id that `DMO_IsPendingContractRequest` keeps during its loop. -/
structure IdSearch where
  tentativeReqID : UInt8
  tentativeReqIDWrapped : UInt8
  reclaimableReqID : UInt8
  foundReclaimableID : Bool

def IdSearch.start (contractReqID rand : UInt8) : IdSearch := ⟨contractReqID, 0, rand, false⟩

def IdSearch.visitFree (contractReqID : UInt8) (s : IdSearch) (c : DmoContractAttribute) : IdSearch :=
  { s with
    tentativeReqID :=
      if s.tentativeReqID.toUInt16 = c.contractID then s.tentativeReqID + 1 else s.tentativeReqID
    tentativeReqIDWrapped :=
      if s.tentativeReqIDWrapped.toUInt16 = c.contractID ∧ s.tentativeReqIDWrapped < contractReqID then
        s.tentativeReqIDWrapped + 1
      else s.tentativeReqIDWrapped }

def IdSearch.visitReclaimable (contractReqID : UInt8) (s : IdSearch) (c : DmoContractAttribute) : IdSearch :=
  if c.contractStatus = contractPendingFailed then
    let s := if s.foundReclaimableID then s
      else { s with foundReclaimableID := true, reclaimableReqID := c.contractID.toUInt8 }
    if s.reclaimableReqID < contractReqID ∧ c.contractID ≥ contractReqID.toUInt16 then
      { s with reclaimableReqID := c.contractID.toUInt8 }
    else s
  else s

def IdSearch.visit (contractReqID : UInt8) (s : IdSearch) (c : DmoContractAttribute) : IdSearch :=
  (s.visitFree contractReqID c).visitReclaimable contractReqID c

/-- The arguments of `DMO_IsPendingContractRequest`. `wantsRequestId` is a `p_pnRequestId` that is not null. -/
structure PendingQuery where
  pendingState : UInt8
  endpoints : ContractEndpoints
  serviceType : UInt8
  wantsRequestId : Bool

/-- The returned contract with its key, and the value written to `*p_pnRequestId`. -/
structure PendingAnswer where
  contract : Option (UInt8 × DmoContractAttribute)
  requestId : Option UInt8

def PendingQuery.answer (q : PendingQuery) (e : UInt8 × DmoContractAttribute) : Option PendingAnswer :=
  let c := e.2
  let wanted := c.contractStatus = contractPendingNoKey ∨ q.pendingState = c.contractStatus
  if q.endpoints = c.endpoints then
    if q.serviceType = anyServiceType ∧ wanted then some ⟨some e, none⟩
    else if q.serviceType = c.serviceType then
      let requestId := if q.wantsRequestId then some c.contractID.toUInt8 else none
      if wanted then some ⟨some e, requestId⟩ else some ⟨none, requestId⟩
    else none
  else none

def PendingQuery.loop (q : PendingQuery) (contractReqID : UInt8) :
    IdSearch → List (UInt8 × DmoContractAttribute) → IdSearch ⊕ PendingAnswer
  | s, [] => .inl s
  | s, e :: entries =>
    match q.answer e with
    | some answer => .inr answer
    | none => q.loop contractReqID (s.visit contractReqID e.2) entries

/-- The end of `DMO_IsPendingContractRequest`, after a loop that met no matching request. Reclaiming an id that is not in the map dereferences its end iterator. -/
def newRequestId (s : IdSearch) (st : DmoState) : Option (UInt8 × DmoState) :=
  if s.tentativeReqID ≥ st.contractReqID then
    some (s.tentativeReqID, { st with contractReqID := s.tentativeReqID + 1 })
  else if s.tentativeReqIDWrapped < st.contractReqID then
    some (s.tentativeReqIDWrapped, { st with contractReqID := s.tentativeReqIDWrapped + 1 })
  else
    match st.pendingContractRspMap s.reclaimableReqID with
    | none => none
    | some c =>
      let st := st.setPending s.reclaimableReqID
        (some { c with contractStatus := contractPendingFailed })
      some (s.reclaimableReqID, { st with
        contractRspPending := st.contractRspPending - 1
        contractReqID := s.reclaimableReqID + 1 })

def isPendingContractRequest (rand : UInt8) (q : PendingQuery) (st : DmoState) : Option (PendingAnswer × DmoState) :=
  match q.loop st.contractReqID (.start st.contractReqID rand) st.pendingEntries with
  | .inr answer => some (answer, st)
  | .inl s =>
    if q.wantsRequestId = false ∨ q.serviceType = anyServiceType then some (⟨none, none⟩, st)
    else (newRequestId s st).map fun r => (⟨none, some r.1⟩, r.2)

def sendContractRequest (env : DmoEnv) (aslSfc : UInt8) (id : UInt8) (c : DmoContractAttribute)
    (st : DmoState) : UInt8 × DmoState :=
  if st.dmoContractsMap.lookup env.sysMngContractID = none then (sfcIncompatibleMode, st)
  else if aslSfc = sfcSuccess then
    (sfcSuccess, { st.setPending id (some { c with
        contractReqType := contractReqTypeNew
        activationTAI := env.deadline }) with
      contractRspPending := st.contractRspPending + 1 })
  else (sfcInsufficientDeviceResources, st)

structure NewContractArgs where
  endpoints : ContractEndpoints
  contractLife : UInt32
  srvcType : UInt8
  priority : UInt8
  maxAPDUSize : UInt16
  reliability : UInt8
  bandwidth : DmoContractBandwidth

def DmoState.getContract (st : DmoState) (endpoints : ContractEndpoints) (srvcType : UInt8) : Bool :=
  st.dmoContractsMap.entries.any fun e =>
    decide (e.2.serviceType = srvcType ∧ e.2.endpoints = endpoints)

def NewContractArgs.query (args : NewContractArgs) : PendingQuery :=
  ⟨contractPending, args.endpoints, args.srvcType, true⟩

def NewContractArgs.contract (args : NewContractArgs) (env : DmoEnv) (requestId status : UInt8) :
    DmoContractAttribute where
  assignedExpTime := args.contractLife
  activationTAI := env.deadline
  contractID := requestId.toUInt16
  srcTLPort := args.endpoints.srcTLPort
  assignedMaxNSDUSize := args.maxAPDUSize
  dstTLPort := args.endpoints.dstTLPort
  contractStatus := status
  serviceType := args.srvcType
  reliability := args.reliability
  priority := args.priority
  dstAddr128 := args.endpoints.dstAddr128
  bandwidth := args.bandwidth
  contractReqType := env.unsetReqType

def DmoEnv.lacksKey (env : DmoEnv) : Bool := env.tlSecurityLevel != securityNone && !env.hasTxKey

def addPendingRequest (env : DmoEnv) (aslSfc : UInt8) (args : NewContractArgs) (requestId : UInt8)
    (st : DmoState) : UInt8 × DmoState :=
  if env.lacksKey then
    if env.newSessionKeySfc = sfcSuccess then
      (sfcSuccess, { st.setPending requestId
          (some (args.contract env requestId contractPendingNoKey)) with
        contractRspPending := st.contractRspPending + 1 })
    else (sfcInsufficientDeviceResources, st)
  else
    let c := args.contract env requestId contractPending
    sendContractRequest env aslSfc requestId c (st.setPending requestId (some c))

/-- `DMO_RequestNewContract` after the search. There is no result when the request id it uses was never written. -/
def admitRequest (env : DmoEnv) (aslSfc : UInt8) (args : NewContractArgs) (answer : PendingAnswer)
    (st : DmoState) : Option (UInt8 × DmoState) :=
  if answer.contract ≠ none then some (sfcDuplicate, st)
  else if env.joined = false then some (sfcInsufficientDeviceResources, st)
  else if st.dmoContractsMap.entries.length ≥ maxContractNo then
    some (sfcInsufficientDeviceResources, st)
  else answer.requestId.map fun id => addPendingRequest env aslSfc args id st

def requestNewContract (env : DmoEnv) (aslSfc : UInt8) (args : NewContractArgs) (st : DmoState) :
    Option (UInt8 × DmoState) :=
  if st.getContract args.endpoints args.srvcType = true then some (sfcDuplicate, st)
  else (isPendingContractRequest env.rand args.query st).bind fun r =>
    admitRequest env aslSfc args r.1 r.2

def keyQuery (endpoints : ContractEndpoints) : PendingQuery :=
  ⟨contractPendingNoKey, endpoints, anyServiceType, false⟩

def notifyRound (env : DmoEnv) (aslSfc : UInt8) (id : UInt8) (c : DmoContractAttribute) (st : DmoState) : DmoState :=
  let c := { c with contractStatus := contractPending }
  (sendContractRequest env aslSfc id c { st.setPending id (some c) with
    contractRspPending := st.contractRspPending - 1 }).2

def notifyLoop (env : DmoEnv) (aslSfc : UInt8 → UInt8) (endpoints : ContractEndpoints) : Nat → DmoState → DmoState
  | 0, st => st
  | rounds + 1, st =>
    match isPendingContractRequest env.rand (keyQuery endpoints) st with
    | some (⟨some (id, c), _⟩, st) =>
      notifyLoop env aslSfc endpoints rounds (notifyRound env (aslSfc id) id c st)
    | _ => st

/-- `DMO_NotifyNewKeyAdded`. `aslSfc` is the result of `ASLSRVC_AddGenericObject` for each request. -/
def notifyNewKeyAdded (env : DmoEnv) (aslSfc : UInt8 → UInt8) (endpoints : ContractEndpoints)
    (st : DmoState) : DmoState :=
  if st.contractRspPending = 0 then st
  else notifyLoop env aslSfc endpoints requestIds.length st

structure ContractRsp where
  sfc : UInt8
  requestId : UInt8
  responseCode : UInt8
  contractID : UInt16
  serviceType : UInt8
  assignedExpTime : UInt32
  priority : UInt8
  assignedMaxNSDUSize : UInt16
  reliability : UInt8
  bandwidth : DmoContractBandwidth

def ContractRsp.contract (rsp : ContractRsp) (c : DmoContractAttribute) : DmoContractAttribute :=
  { c with
    contractID := rsp.contractID
    contractStatus := contractRspOk
    serviceType := rsp.serviceType
    activationTAI := 0
    assignedExpTime := rsp.assignedExpTime
    priority := rsp.priority
    assignedMaxNSDUSize := rsp.assignedMaxNSDUSize
    reliability := rsp.reliability
    bandwidth := rsp.bandwidth }

def installContract (c : DmoContractAttribute) (st : DmoState) : DmoState :=
  if st.dmoContractsMap.lookup c.contractID = none then
    { st with dmoContractsMap := st.dmoContractsMap.insert c.contractID c }
  else st

def takeResponse (rsp : ContractRsp) (c : DmoContractAttribute) (st : DmoState) : DmoState :=
  if rsp.responseCode ≠ contractRspOk then st
  else if c.contractReqType = contractReqTypeNew ∧ st.dmoContractsMap.entries.length ≥ maxContractNo then st
  else installContract (rsp.contract c) st

def processContractResponse (env : DmoEnv) (reqData0 : UInt8) (rsp : ContractRsp) (st : DmoState) : DmoState :=
  if rsp.sfc ≠ sfcSuccess then
    match st.pendingContractRspMap reqData0 with
    | none => st
    | some c => st.setPending reqData0
        (some { c with activationTAI := env.crtTaiSec, contractStatus := contractPendingFailed })
  else
    match st.pendingContractRspMap rsp.requestId with
    | none => st
    | some c =>
      let st := st.setPending rsp.requestId none
      if c.contractStatus = contractPendingFailed then st
      else takeResponse rsp c { st with contractRspPending := st.contractRspPending - 1 }

def timeoutStep (now : UInt32) (st : DmoState) (id : UInt8) : DmoState :=
  match st.pendingContractRspMap id with
  | none => st
  | some c =>
    if c.activationTAI < now ∧ c.contractStatus ≠ contractPendingFailed then
      { st.setPending id (some { c with contractStatus := contractPendingFailed }) with
        contractRspPending := st.contractRspPending - 1 }
    else st

def timeoutContractReqs (now : UInt32) (st : DmoState) : DmoState :=
  requestIds.foldl (timeoutStep now) st

inductive DmoAction where
  | requestNewContract (env : DmoEnv) (aslSfc : UInt8) (args : NewContractArgs)
  | newKeyAdded (env : DmoEnv) (aslSfc : UInt8 → UInt8) (endpoints : ContractEndpoints)
  | contractResponse (env : DmoEnv) (reqData0 : UInt8) (rsp : ContractRsp)
  | timeout (now : UInt32)
  /-- Some other function has written the contract table. -/
  | dmoContractsMap (contracts : DmoContractsMap)
  | init

/-- A step has no result when the source reads memory it has not written. -/
def dmoRun (st : DmoState) : DmoAction → Option DmoState
  | .requestNewContract env aslSfc args => (requestNewContract env aslSfc args st).map Prod.snd
  | .newKeyAdded env aslSfc endpoints => some (notifyNewKeyAdded env aslSfc endpoints st)
  | .contractResponse env reqData0 rsp => some (processContractResponse env reqData0 rsp st)
  | .timeout now => some (timeoutContractReqs now st)
  | .dmoContractsMap contracts => some { st with dmoContractsMap := contracts }
  | .init => some { DmoState.start with contractReqID := st.contractReqID }

def dmoStep (st : DmoState) (a : DmoAction) : DmoState := (dmoRun st a).getD st

end Isa100Gateway
