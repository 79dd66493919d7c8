import Isa100Gateway.Dmo.ContractMessages
import Isa100Gateway.SystemManager.Contracts

/-!
# Contract messages between a device and the system manager

Each side reads the fields of the contract messages that the other side has written: the request of the device, the response with immediate effect, and the row that the system manager writes into the contract table.
-/

namespace Isa100Gateway.Contracts

open Stream

theorem decodes_int16 (value : Int16) : Decodes readInt16 (write16 value.toUInt16) value :=
  (decodes_read16 value.toUInt16).bind_pure

structure Requests (c : DmoContractAttribute) (requestType : UInt8) (address32 : UInt32) (r : ContractRequest) :
    Prop where
  contractRequestId : r.contractRequestId = c.contractID.toUInt8.toUInt16
  contractRequestType : r.contractRequestType = requestType
  contractId : requestType ≠ contractReqTypeNew → r.contractId = c.contractID
  communicationServiceType : r.communicationServiceType = c.serviceType
  sourceSAP : r.sourceSAP + portBase = c.srcTLPort
  destinationAddress : r.destinationAddress = address32
  destinationSAP : r.destinationSAP + portBase = c.dstTLPort
  contractNegotiability : r.contractNegotiability = contractNegotiableRevocable
  contractLife : r.contractLife = c.assignedExpTime
  contractPriority : r.contractPriority = c.priority
  payloadSize : r.payloadSize = c.assignedMaxNSDUSize
  reliability : r.reliability_And_PublishAutoRetransmit = c.reliability
  periodic : c.serviceType = periodic → r.requestedPeriod = c.bandwidth.periodOrComittedBurst ∧
    r.requestedPhase = c.bandwidth.phaseOrMaxSendWindow ∧ r.requestedDeadline = c.bandwidth.deadlineOrExcessBurst
  nonPeriodic : c.serviceType = nonPeriodic → r.committedBurst = c.bandwidth.periodOrComittedBurst ∧
    r.excessBurst.toUInt16 = c.bandwidth.deadlineOrExcessBurst ∧ r.maxSendWindowSize = c.bandwidth.phaseOrMaxSendWindow

theorem sub_add_portBase (port : UInt16) : port - portBase + portBase = port := by
  rw [UInt16.sub_add_cancel]

variable {getAddress32 : List UInt8 → Option UInt32}

theorem decodes_address32 {address128 : List UInt8} {address32 : UInt32}
    (hlength : address128.length = 16) (haddress : getAddress32 address128 = some address32) :
    Decodes (readAddress32 getAddress32) address128 address32 := by
  intro rest
  have hread := decodes_readBytes address128 rest
  rw [hlength] at hread
  rw [readAddress32, hread, Option.bind_eq_bind, Option.bind_some]
  dsimp only
  rw [haddress]
  rfl

theorem decodes_when {α : Type} {c : Prop} [Decidable c] {r : Reader α} {bytes : List UInt8} {a : α}
    (h : c → Decodes r bytes a) (other : α) :
    Decodes (readWhen c r other) (if c then bytes else []) (if c then a else other) := by
  rw [readWhen]
  by_cases hc : c
  · rw [if_pos hc, if_pos hc, if_pos hc]
    exact h hc
  · rw [if_neg hc, if_neg hc, if_neg hc]
    exact decodes_pure other

theorem decodes_periodic (bandwidth : DmoContractBandwidth) :
    Decodes readPeriodic (insertBandwidthInfo bandwidth periodic)
      (bandwidth.periodOrComittedBurst, bandwidth.phaseOrMaxSendWindow, bandwidth.deadlineOrExcessBurst) := by
  apply (decodes_int16 bandwidth.periodOrComittedBurst).bind
  apply decodes_cons
  exact (decodes_read16 bandwidth.deadlineOrExcessBurst).bind_pure

theorem decodes_nonPeriodic (bandwidth : DmoContractBandwidth) :
    Decodes readNonPeriodic (insertBandwidthInfo bandwidth nonPeriodic)
      (bandwidth.periodOrComittedBurst, bandwidth.deadlineOrExcessBurst.toInt16, bandwidth.phaseOrMaxSendWindow) := by
  apply (decodes_int16 bandwidth.periodOrComittedBurst).bind
  apply (decodes_int16 bandwidth.deadlineOrExcessBurst.toInt16).bind
  exact (decodes_read8 bandwidth.phaseOrMaxSendWindow).bind_pure

theorem insertBandwidthInfo_split {serviceType : UInt8} (h : serviceType = periodic ∨ serviceType = nonPeriodic)
    (bandwidth : DmoContractBandwidth) :
    insertBandwidthInfo bandwidth serviceType =
      (if serviceType = periodic then insertBandwidthInfo bandwidth serviceType else []) ++
        (if serviceType = nonPeriodic then insertBandwidthInfo bandwidth serviceType else []) := by
  rcases h with rfl | rfl
  · rw [if_pos rfl, if_neg (by decide), List.append_nil]
  · rw [if_pos rfl, if_neg (by decide), List.nil_append]

def requestRead (c : DmoContractAttribute) (requestType : UInt8) (address32 : UInt32) : ContractRequest where
  contractRequestId := c.contractID.toUInt8.toUInt16
  contractRequestType := requestType
  contractId := if requestType ≠ 0 then c.contractID else 0
  communicationServiceType := c.serviceType
  sourceSAP := c.srcTLPort - portBase
  destinationAddress := address32
  destinationSAP := c.dstTLPort - portBase
  contractNegotiability := contractNegotiableRevocable
  contractLife := c.assignedExpTime
  contractPriority := c.priority
  payloadSize := c.assignedMaxNSDUSize
  reliability_And_PublishAutoRetransmit := c.reliability
  requestedPeriod := (if c.serviceType = periodic then (c.bandwidth.periodOrComittedBurst,
    c.bandwidth.phaseOrMaxSendWindow, c.bandwidth.deadlineOrExcessBurst) else (0, 0, 0)).1
  requestedPhase := (if c.serviceType = periodic then (c.bandwidth.periodOrComittedBurst,
    c.bandwidth.phaseOrMaxSendWindow, c.bandwidth.deadlineOrExcessBurst) else (0, 0, 0)).2.1
  requestedDeadline := (if c.serviceType = periodic then (c.bandwidth.periodOrComittedBurst,
    c.bandwidth.phaseOrMaxSendWindow, c.bandwidth.deadlineOrExcessBurst) else (0, 0, 0)).2.2
  committedBurst := (if c.serviceType = nonPeriodic then (c.bandwidth.periodOrComittedBurst,
    c.bandwidth.deadlineOrExcessBurst.toInt16, c.bandwidth.phaseOrMaxSendWindow) else (0, 0, 0)).1
  excessBurst := (if c.serviceType = nonPeriodic then (c.bandwidth.periodOrComittedBurst,
    c.bandwidth.deadlineOrExcessBurst.toInt16, c.bandwidth.phaseOrMaxSendWindow) else (0, 0, 0)).2.1
  maxSendWindowSize := (if c.serviceType = nonPeriodic then (c.bandwidth.periodOrComittedBurst,
    c.bandwidth.deadlineOrExcessBurst.toInt16, c.bandwidth.phaseOrMaxSendWindow) else (0, 0, 0)).2.2

variable {c : DmoContractAttribute} {response : ContractResponse}

theorem decodes_request {address32 : UInt32}
    (hlength : c.dstAddr128.length = 16) (haddress : getAddress32 c.dstAddr128 = some address32)
    (hservice : c.serviceType = periodic ∨ c.serviceType = nonPeriodic) (requestType : UInt8) :
    Decodes (ContractRequest.unmarshall getAddress32) (contractReqBuf c requestType)
      (requestRead c requestType address32) := by
  have hperiodic : c.serviceType = periodic → Decodes readPeriodic (insertBandwidthInfo c.bandwidth c.serviceType)
      (c.bandwidth.periodOrComittedBurst, c.bandwidth.phaseOrMaxSendWindow, c.bandwidth.deadlineOrExcessBurst) :=
    fun hservice => hservice ▸ decodes_periodic c.bandwidth
  have hnonPeriodic : c.serviceType = nonPeriodic →
      Decodes readNonPeriodic (insertBandwidthInfo c.bandwidth c.serviceType)
        (c.bandwidth.periodOrComittedBurst, c.bandwidth.deadlineOrExcessBurst.toInt16,
          c.bandwidth.phaseOrMaxSendWindow) :=
    fun hservice => hservice ▸ decodes_nonPeriodic c.bandwidth
  rw [contractReqBuf]
  apply decodes_cons
  apply decodes_cons
  apply (decodes_when (fun _ => decodes_read16 c.contractID) 0).bind
  apply decodes_cons
  apply (decodes_read16 c.srcTLPort).bind
  apply (decodes_address32 hlength haddress).bind
  apply (decodes_read16 c.dstTLPort).bind
  apply decodes_cons
  apply (decodes_read32 c.assignedExpTime).bind
  apply decodes_cons
  apply (decodes_read16 c.assignedMaxNSDUSize).bind
  apply decodes_cons
  rw [insertBandwidthInfo_split hservice]
  apply (decodes_when hperiodic (0, 0, 0)).bind
  exact (decodes_when hnonPeriodic (0, 0, 0)).bind_pure

theorem requests_requestRead (c : DmoContractAttribute) (requestType : UInt8) (address32 : UInt32) :
    Requests c requestType address32 (requestRead c requestType address32) where
  contractRequestId := rfl
  contractRequestType := rfl
  contractId := fun hnew => if_pos hnew
  communicationServiceType := rfl
  sourceSAP := sub_add_portBase c.srcTLPort
  destinationAddress := rfl
  destinationSAP := sub_add_portBase c.dstTLPort
  contractNegotiability := rfl
  contractLife := rfl
  contractPriority := rfl
  payloadSize := rfl
  reliability := rfl
  periodic := fun hservice => by
    rw [requestRead]
    rw [if_pos hservice]
    exact ⟨rfl, rfl, rfl⟩
  nonPeriodic := fun hservice => by
    rw [requestRead]
    rw [if_pos hservice]
    exact ⟨rfl, rfl, rfl⟩

def Bandwidth.installed (bandwidth : Bandwidth) (serviceType : UInt8) : DmoContractBandwidth :=
  if serviceType = periodic then ⟨bandwidth.period, bandwidth.deadline, bandwidth.phase⟩
  else ⟨bandwidth.committedBurst, bandwidth.excessBurst.toUInt16, bandwidth.maxSendWindowSize⟩

theorem carries_bandwidth {serviceType : UInt8} (h : serviceType = periodic ∨ serviceType = nonPeriodic)
    (bandwidth : Bandwidth) :
    Carries (bandwidth.marshall serviceType) (extractBandwidthInfo serviceType) (bandwidth.installed serviceType) := by
  rcases h with rfl | rfl
  · have hread : Decodes (extractBandwidthInfo periodic)
        (write16 bandwidth.period.toUInt16 ++ (bandwidth.phase :: write16 bandwidth.deadline))
        ⟨bandwidth.period, bandwidth.deadline, bandwidth.phase⟩ := by
      apply (decodes_read16 bandwidth.period.toUInt16).bind
      rw [if_pos (show periodic = srvcPeriodicComm from rfl)]
      apply decodes_cons
      exact (decodes_read16 bandwidth.deadline).bind_pure
    refine ⟨_, ?_, hread⟩
    exact congrArg some (List.append_nil _)
  · have hread : Decodes (extractBandwidthInfo nonPeriodic)
        (write16 bandwidth.committedBurst.toUInt16 ++ (write16 bandwidth.excessBurst.toUInt16 ++
          [bandwidth.maxSendWindowSize]))
        ⟨bandwidth.committedBurst, bandwidth.excessBurst.toUInt16, bandwidth.maxSendWindowSize⟩ := by
      apply (decodes_read16 bandwidth.committedBurst.toUInt16).bind
      rw [if_neg (show nonPeriodic ≠ srvcPeriodicComm by decide)]
      apply (decodes_read16 bandwidth.excessBurst.toUInt16).bind
      exact (decodes_read8 bandwidth.maxSendWindowSize).bind_pure
    exact ⟨_, rfl, hread⟩

def ContractResponse.received (response : ContractResponse) : ContractRsp where
  sfc := sfcSuccess
  requestId := response.contractRequestID
  responseCode := contractRspOk
  contractID := response.contractID
  serviceType := response.communicationServiceType
  assignedExpTime := response.assigned_Contract_Life
  priority := response.assigned_Contract_Priority
  assignedMaxNSDUSize := response.assigned_Max_NSDU_Size
  reliability := response.assigned_Reliability_And_PublishAutoRetransmit
  bandwidth := response.assigned.installed response.communicationServiceType

theorem carries8 (b : UInt8) : Carries (.bytes [b]) read8 b := (decodes_read8 b).carries

theorem carries16 (value : UInt16) : Carries (.bytes (write16 value)) read16 value := (decodes_read16 value).carries

theorem carries32 (value : UInt32) : Carries (.bytes (write32 value)) read32 value := (decodes_read32 value).carries

theorem marshall_ok (hcode : response.responseCode = contractRspOk) :
    response.marshall = .bytes [response.contractRequestID] ++ (.bytes [contractRspOk] ++
      (.bytes (write16 response.contractID) ++ (.bytes [response.communicationServiceType] ++
        response.marshallAssigned))) := by
  rw [ContractResponse.marshall, hcode, if_neg (show ¬ contractRspOk > 6 by decide),
    Output.when_pos (show contractRspOk ≠ 4 ∧ contractRspOk ≠ 5 by decide),
    Output.when_neg (show ¬ contractRspOk > 4 by decide), Output.append_nil, ContractResponse.marshallContract, hcode,
    Output.when_pos (show contractRspOk ≠ 6 by decide), Output.when_pos (show contractRspOk ≠ 6 by decide),
    Output.when_neg (show ¬ (contractRspOk ≠ 0 ∧ contractRspOk ≠ 2 ∧ contractRspOk ≠ 6) by decide), Output.nil_append]

theorem carries_response (hcode : response.responseCode = contractRspOk)
    (hservice : response.communicationServiceType = periodic ∨ response.communicationServiceType = nonPeriodic) :
    Carries response.marshall (ContractRsp.read sfcSuccess) response.received := by
  rw [marshall_ok hcode]
  apply (carries8 response.contractRequestID).bind
  apply (carries8 contractRspOk).bind
  rw [if_neg (not_not.mpr rfl)]
  apply (carries16 response.contractID).bind
  apply (carries8 response.communicationServiceType).bind
  apply (carries32 response.assigned_Contract_Life).bind
  apply (carries8 response.assigned_Contract_Priority).bind
  apply (carries16 response.assigned_Max_NSDU_Size).bind
  apply (carries8 response.assigned_Reliability_And_PublishAutoRetransmit).bind
  exact (carries_bandwidth hservice response.assigned).bind_pure

/-- The device waits for the response, has room for the contract, and has none with its identifier. -/
structure Awaits (st : DmoState) (response : ContractResponse) (c : DmoContractAttribute) : Prop where
  pending : st.pendingContractRspMap response.contractRequestID = some c
  notFailed : c.contractStatus ≠ contractPendingFailed
  room : st.dmoContractsMap.entries.length < maxContractNo
  fresh : st.dmoContractsMap.lookup response.contractID = none

def ContractResponse.assignedTo (response : ContractResponse) (c : DmoContractAttribute) : DmoContractAttribute :=
  { c with
    contractID := response.contractID
    contractStatus := contractRspOk
    serviceType := response.communicationServiceType
    activationTAI := 0
    assignedExpTime := response.assigned_Contract_Life
    priority := response.assigned_Contract_Priority
    assignedMaxNSDUSize := response.assigned_Max_NSDU_Size
    reliability := response.assigned_Reliability_And_PublishAutoRetransmit
    bandwidth := response.assigned.installed response.communicationServiceType }

theorem processContractResponse_installs {st : DmoState}
    (h : Awaits st response c) (env : DmoEnv) (reqData0 : UInt8) :
    processContractResponse env reqData0 response.received st = { st.setPending response.contractRequestID none with
        contractRspPending := st.contractRspPending - 1
        dmoContractsMap := st.dmoContractsMap.insert response.contractID (response.assignedTo c) } := by
  have hroom : ¬ (c.contractReqType = contractReqTypeNew ∧ st.dmoContractsMap.entries.length ≥ maxContractNo) :=
    fun hfull => absurd hfull.2 (Nat.not_le.mpr h.room)
  rw [processContractResponse, if_neg (show ¬ response.received.sfc ≠ sfcSuccess from not_not.mpr rfl)]
  have hpending : st.pendingContractRspMap response.received.requestId = some c := h.pending
  rw [hpending]
  dsimp only
  rw [if_neg h.notFailed, takeResponse, if_neg (show ¬ response.received.responseCode ≠ contractRspOk
    from not_not.mpr rfl)]
  refine (if_neg hroom).trans ?_
  rw [installContract]
  exact if_pos h.fresh

def ContractData.row (data : ContractData) (c : DmoContractAttribute) : DmoContractAttribute where
  assignedExpTime := data.assigned_Contract_Life
  activationTAI := data.contractActivationTime
  contractID := data.contractID
  srcTLPort := data.sourceSAP
  assignedMaxNSDUSize := data.assigned_Max_NSDU_Size
  dstTLPort := data.destinationSAP
  contractStatus := data.contractStatus
  serviceType := data.serviceType
  reliability := data.assigned_Reliability_And_PublishAutoRetransmit
  priority := data.assigned_Contract_Priority
  dstAddr128 := data.destinationAddress
  bandwidth := data.assigned.installed data.serviceType
  contractReqType := c.contractReqType

theorem carries_row {data : ContractData} (hlength : data.destinationAddress.length = 16)
    (hservice : data.serviceType = periodic ∨ data.serviceType = nonPeriodic) (c : DmoContractAttribute) :
    Carries data.marshall (parseContract c) (data.row c) := by
  have haddress : Carries (.bytes data.destinationAddress) (readBytes 16) data.destinationAddress :=
    (hlength ▸ decodes_readBytes data.destinationAddress : Decodes (readBytes 16) _ _).carries
  apply (carries16 data.contractID).bind
  apply (carries8 data.contractStatus).bind
  apply (carries8 data.serviceType).bind
  apply (carries32 data.contractActivationTime).bind
  apply (carries16 data.sourceSAP).bind
  apply haddress.bind
  apply (carries16 data.destinationSAP).bind
  apply (carries32 data.assigned_Contract_Life).bind
  apply (carries8 data.assigned_Contract_Priority).bind
  apply (carries16 data.assigned_Max_NSDU_Size).bind
  apply (carries8 data.assigned_Reliability_And_PublishAutoRetransmit).bind
  exact (carries_bandwidth hservice data.assigned).bind_pure

theorem length_contractReqBuf (hlength : c.dstAddr128.length = 16) (requestType : UInt8) :
    (contractReqBuf c requestType).length ≤ maxContractReqLen := by
  have hbandwidth : (insertBandwidthInfo c.bandwidth c.serviceType).length = 5 := by
    rw [insertBandwidthInfo]
    split <;> rfl
  have hindex : (if requestType ≠ contractReqTypeNew then write16 c.contractID else []).length ≤ 2 := by
    split
    · exact Nat.le_refl 2
    · exact Nat.zero_le 2
  simp only [contractReqBuf, List.length_cons, List.length_append, length_write16, length_write32, hlength, hbandwidth]
  change _ ≤ 42
  omega

/-- What each side reads of the messages of the other. -/
theorem contract_messages_agree :
    (∀ (getAddress32 : List UInt8 → Option UInt32) (c : DmoContractAttribute) (requestType : UInt8)
      (address32 : UInt32),
      c.dstAddr128.length = 16 → getAddress32 c.dstAddr128 = some address32 →
      (c.serviceType = periodic ∨ c.serviceType = nonPeriodic) →
        (contractReqBuf c requestType).length ≤ maxContractReqLen ∧
          ∃ r, ContractRequest.unmarshall getAddress32 (contractReqBuf c requestType) = some (r, []) ∧
            Requests c requestType address32 r) ∧
    (∀ (response : ContractResponse) (st : DmoState) (c : DmoContractAttribute) (env : DmoEnv) (reqData0 : UInt8),
      response.responseCode = contractRspOk →
      (response.communicationServiceType = periodic ∨ response.communicationServiceType = nonPeriodic) →
      Awaits st response c → ∃ rspData, response.marshall = .bytes rspData ∧
          receiveContractResponse env reqData0 rspData st = some { st.setPending response.contractRequestID none with
              contractRspPending := st.contractRspPending - 1
              dmoContractsMap := st.dmoContractsMap.insert response.contractID (response.assignedTo c) }) ∧
    ∀ (data : ContractData) (c : DmoContractAttribute), data.destinationAddress.length = 16 →
      (data.serviceType = periodic ∨ data.serviceType = nonPeriodic) →
        ∃ written, data.marshall = .bytes written ∧ parseContract c written = some (data.row c, []) := by
  refine ⟨?_, ?_, ?_⟩
  · intro getAddress32 c requestType address32 hlength haddress hservice
    exact ⟨length_contractReqBuf hlength requestType, requestRead c requestType address32,
      (decodes_request hlength haddress hservice requestType).run, requests_requestRead c requestType address32⟩
  · intro response st c env reqData0 hcode hservice hawaits
    obtain ⟨rspData, hwritten, hread⟩ := carries_response hcode hservice
    refine ⟨rspData, hwritten, ?_⟩
    rw [receiveContractResponse, hread.run, Option.map_some]
    exact congrArg some (processContractResponse_installs hawaits env reqData0)
  · intro data c hlength hservice
    obtain ⟨written, hwritten, hread⟩ := carries_row hlength hservice c
    exact ⟨written, hwritten, hread.run⟩

def publishRequest : DmoContractAttribute where
  assignedExpTime := 0
  activationTAI := 0
  contractID := 7
  srcTLPort := 0xF0B2
  assignedMaxNSDUSize := 90
  dstTLPort := 0xF0B2
  contractStatus := contractPending
  serviceType := 0
  reliability := 1
  priority := 2
  dstAddr128 := List.replicate 16 0x11
  bandwidth := ⟨-4, 200, 50⟩
  contractReqType := contractReqTypeNew

def publishPending : DmoState := { DmoState.start.setPending 7 (some publishRequest) with contractRspPending := 1 }

def publishEnv : DmoEnv where
  crtTaiSec := 1000
  contractReqTimeout := 60
  joined := true
  tlSecurityLevel := 0
  hasTxKey := false
  newSessionKeySfc := 0
  sysMngContractID := 1
  rand := 0
  unsetReqType := 0

def publishResponse (responseCode : UInt8) : ContractResponse where
  contractRequestID := 7
  responseCode := responseCode
  contractID := 21
  communicationServiceType := 0
  contract_Activation_Time := 0
  assigned_Contract_Life := 86400
  assigned_Contract_Priority := 2
  assigned_Max_NSDU_Size := 90
  assigned_Reliability_And_PublishAutoRetransmit := 1
  assigned := ⟨5, 40, 300, 0, 0, 0⟩
  retry_Backoff_Time := 0
  negotiationGuidance := 0
  supportable_Contract_Priority := 0
  supportable_max_NSDU_Size := 70
  supportable_Reliability_And_PublishAutoRetransmit := 0
  supportable := ⟨0, 0, 0, 0, 0, 0⟩

theorem contract_messages_agree_publish : Awaits publishPending (publishResponse 0) publishRequest ∧
      ∃ rspData, (publishResponse 0).marshall = .bytes rspData ∧
        receiveContractResponse publishEnv 7 rspData publishPending = some { publishPending.setPending 7 none with
            contractRspPending := 0
            dmoContractsMap := (∅ : DmoContractsMap).insert 21 ((publishResponse 0).assignedTo publishRequest) } := by
  have hawaits : Awaits publishPending (publishResponse 0) publishRequest :=
    ⟨rfl, by decide, by decide, by decide⟩
  exact ⟨hawaits, contract_messages_agree.2.1 (publishResponse 0) publishPending publishRequest publishEnv 7 rfl
    (.inl rfl) hawaits⟩

/-- The device drops the response of a success with delayed effect or of one that is negotiated down. -/
theorem contract_response_dropped : (∃ rspData st, (publishResponse 1).marshall = .bytes rspData ∧
      receiveContractResponse publishEnv 7 rspData publishPending = some st ∧ st.dmoContractsMap.lookup 21 = none) ∧
    ∃ rspData st, (publishResponse 2).marshall = .bytes rspData ∧
      receiveContractResponse publishEnv 7 rspData publishPending = some st ∧ st.dmoContractsMap.lookup 21 = none :=
  ⟨⟨_, _, rfl, rfl, by decide⟩, ⟨_, _, rfl, rfl, by decide⟩⟩

end Isa100Gateway.Contracts
