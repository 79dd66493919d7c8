import Isa100Gateway.Lib.Stream

/-!
# Contract messages of the system manager

How a contract request is read, and how the response to it and a row of a device's contract table are written.
-/

namespace Isa100Gateway.Contracts

open Stream

def periodic : UInt8 := 0

def nonPeriodic : UInt8 := 1

def portBase : UInt16 := 0xF0B0

structure ContractRequest where
  contractRequestId : UInt16
  contractRequestType : UInt8
  contractId : UInt16
  communicationServiceType : UInt8
  sourceSAP : UInt16
  destinationAddress : UInt32
  destinationSAP : UInt16
  contractNegotiability : UInt8
  contractLife : UInt32
  contractPriority : UInt8
  payloadSize : UInt16
  reliability_And_PublishAutoRetransmit : UInt8
  requestedPeriod : Int16
  requestedPhase : UInt8
  requestedDeadline : UInt16
  committedBurst : Int16
  excessBurst : Int16
  maxSendWindowSize : UInt8

/-- The address of the device that has a long address; an unknown one is an exception. -/
def readAddress32 (getAddress32 : List UInt8 → Option UInt32) : Reader UInt32 := fun bytes => do
  let (address128, bytes) ← readBytes 16 bytes
  let address32 ← getAddress32 address128
  return (address32, bytes)

def readInt16 : Reader Int16 := do
  let value ← read16
  return value.toInt16

def readPeriodic : Reader (Int16 × UInt8 × UInt16) := do
  let requestedPeriod ← readInt16
  let requestedPhase ← read8
  let requestedDeadline ← read16
  return (requestedPeriod, requestedPhase, requestedDeadline)

def readNonPeriodic : Reader (Int16 × Int16 × UInt8) := do
  let committedBurst ← readInt16
  let excessBurst ← readInt16
  let maxSendWindowSize ← read8
  return (committedBurst, excessBurst, maxSendWindowSize)

def ContractRequest.unmarshall (getAddress32 : List UInt8 → Option UInt32) : Reader ContractRequest := do
  let contractRequestId ← read8
  let contractRequestType ← read8
  let contractId ← readWhen (contractRequestType ≠ 0) read16 0
  let communicationServiceType ← read8
  let sourcePort ← read16
  let destinationAddress ← readAddress32 getAddress32
  let destinationPort ← read16
  let contractNegotiability ← read8
  let contractLife ← read32
  let contractPriority ← read8
  let payloadSize ← read16
  let reliability ← read8
  let periodicFields ← readWhen (communicationServiceType = periodic) readPeriodic (0, 0, 0)
  let nonPeriodicFields ← readWhen (communicationServiceType = nonPeriodic) readNonPeriodic (0, 0, 0)
  return ⟨contractRequestId.toUInt16, contractRequestType, contractId, communicationServiceType, sourcePort - portBase,
    destinationAddress, destinationPort - portBase, contractNegotiability, contractLife, contractPriority, payloadSize,
    reliability, periodicFields.1, periodicFields.2.1, periodicFields.2.2, nonPeriodicFields.1, nonPeriodicFields.2.1,
    nonPeriodicFields.2.2⟩

structure Bandwidth where
  period : Int16
  phase : UInt8
  deadline : UInt16
  committedBurst : Int16
  excessBurst : Int16
  maxSendWindowSize : UInt8

def Bandwidth.marshall (bandwidth : Bandwidth) (communicationServiceType : UInt8) : Output :=
  Output.when (communicationServiceType = periodic)
      (.bytes (write16 bandwidth.period.toUInt16 ++ (bandwidth.phase :: write16 bandwidth.deadline))) ++
    Output.when (communicationServiceType = nonPeriodic)
      (.bytes (write16 bandwidth.committedBurst.toUInt16 ++ (write16 bandwidth.excessBurst.toUInt16 ++
        [bandwidth.maxSendWindowSize])))

structure ContractResponse where
  contractRequestID : UInt8
  responseCode : UInt8
  contractID : UInt16
  communicationServiceType : UInt8
  contract_Activation_Time : UInt32
  assigned_Contract_Life : UInt32
  assigned_Contract_Priority : UInt8
  assigned_Max_NSDU_Size : UInt16
  assigned_Reliability_And_PublishAutoRetransmit : UInt8
  assigned : Bandwidth
  retry_Backoff_Time : UInt16
  negotiationGuidance : UInt8
  supportable_Contract_Priority : UInt8
  supportable_max_NSDU_Size : UInt16
  supportable_Reliability_And_PublishAutoRetransmit : UInt8
  supportable : Bandwidth

namespace ContractResponse

def marshallAssigned (response : ContractResponse) : Output :=
  .bytes (write32 response.assigned_Contract_Life) ++ (.bytes [response.assigned_Contract_Priority] ++
    (.bytes (write16 response.assigned_Max_NSDU_Size) ++
      (.bytes [response.assigned_Reliability_And_PublishAutoRetransmit] ++
        response.assigned.marshall response.communicationServiceType)))

def marshallSupportable (response : ContractResponse) : Output :=
  .bytes [response.negotiationGuidance] ++ (.bytes [response.supportable_Contract_Priority] ++
    (.bytes (write16 response.supportable_max_NSDU_Size) ++
      (.bytes [response.supportable_Reliability_And_PublishAutoRetransmit] ++
        response.supportable.marshall response.communicationServiceType)))

def marshallContract (response : ContractResponse) : Output :=
  Output.when (response.responseCode ≠ 6) (.bytes (write16 response.contractID)) ++
    (.bytes [response.communicationServiceType] ++
      (Output.when (response.responseCode ≠ 0 ∧ response.responseCode ≠ 2 ∧ response.responseCode ≠ 6)
          (.bytes (write32 response.contract_Activation_Time)) ++
        Output.when (response.responseCode ≠ 6) response.marshallAssigned))

def marshallRetry (response : ContractResponse) : Output :=
  .bytes (write16 response.retry_Backoff_Time) ++ Output.when (response.responseCode ≠ 5) response.marshallSupportable

def marshall (response : ContractResponse) : Output :=
  .bytes [response.contractRequestID] ++ (.bytes [response.responseCode] ++
    if response.responseCode > 6 then .thrown
    else
      Output.when (response.responseCode ≠ 4 ∧ response.responseCode ≠ 5) response.marshallContract ++
        Output.when (response.responseCode > 4) response.marshallRetry)

end ContractResponse

structure ContractData where
  contractID : UInt16
  contractStatus : UInt8
  serviceType : UInt8
  contractActivationTime : UInt32
  sourceSAP : UInt16
  destinationAddress : List UInt8
  destinationSAP : UInt16
  assigned_Contract_Life : UInt32
  assigned_Contract_Priority : UInt8
  assigned_Max_NSDU_Size : UInt16
  assigned_Reliability_And_PublishAutoRetransmit : UInt8
  assigned : Bandwidth

def ContractData.marshall (data : ContractData) : Output :=
  .bytes (write16 data.contractID) ++ (.bytes [data.contractStatus] ++ (.bytes [data.serviceType] ++
    (.bytes (write32 data.contractActivationTime) ++ (.bytes (write16 data.sourceSAP) ++
      (.bytes data.destinationAddress ++ (.bytes (write16 data.destinationSAP) ++
        (.bytes (write32 data.assigned_Contract_Life) ++ (.bytes [data.assigned_Contract_Priority] ++
          (.bytes (write16 data.assigned_Max_NSDU_Size) ++
            (.bytes [data.assigned_Reliability_And_PublishAutoRetransmit] ++
              data.assigned.marshall data.serviceType))))))))))

end Isa100Gateway.Contracts
