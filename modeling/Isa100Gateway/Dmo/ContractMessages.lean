import Isa100Gateway.Dmo.ContractRequest
import Isa100Gateway.Lib.Stream

/-!
# Contract messages of a device (`dmap_dmo.cpp`)

The buffer of a contract request, and how a response to it and a row of the contract table are parsed. Reading past the end of the received data is undefined.
-/

namespace Isa100Gateway

open Stream

def srvcPeriodicComm : UInt8 := 0

def contractNegotiableRevocable : UInt8 := 0

/-- `DMO_InsertBandwidthInfo`. Every service type but the periodic one has the other layout. -/
def insertBandwidthInfo (bandwidth : DmoContractBandwidth) (serviceType : UInt8) : List UInt8 :=
  write16 bandwidth.periodOrComittedBurst.toUInt16 ++
    if serviceType = srvcPeriodicComm then bandwidth.phaseOrMaxSendWindow :: write16 bandwidth.deadlineOrExcessBurst
    else write16 bandwidth.deadlineOrExcessBurst ++ [bandwidth.phaseOrMaxSendWindow]

def extractBandwidthInfo (serviceType : UInt8) : Reader DmoContractBandwidth := do
  let periodOrComittedBurst ← read16
  if serviceType = srvcPeriodicComm then
    let phase ← read8
    let deadline ← read16
    return ⟨periodOrComittedBurst.toInt16, deadline, phase⟩
  else
    let excessBurst ← read16
    let maxSendWindow ← read8
    return ⟨periodOrComittedBurst.toInt16, excessBurst, maxSendWindow⟩

def contractReqBuf (c : DmoContractAttribute) (requestType : UInt8) : List UInt8 :=
  c.contractID.toUInt8 :: requestType :: ((if requestType ≠ contractReqTypeNew then write16 c.contractID else []) ++
    (c.serviceType :: (write16 c.srcTLPort ++ (c.dstAddr128 ++ (write16 c.dstTLPort ++
      (contractNegotiableRevocable :: (write32 c.assignedExpTime ++ (c.priority :: (write16 c.assignedMaxNSDUSize ++
        (c.reliability :: insertBandwidthInfo c.bandwidth c.serviceType))))))))))

def maxContractReqLen : Nat := 42

def ContractRsp.read (sfc : UInt8) : Reader ContractRsp := do
  let requestId ← read8
  let responseCode ← read8
  if responseCode ≠ contractRspOk then return ⟨sfc, requestId, responseCode, 0, 0, 0, 0, 0, 0, ⟨0, 0, 0⟩⟩
  else
    let contractID ← read16
    let serviceType ← read8
    let assignedExpTime ← read32
    let priority ← read8
    let assignedMaxNSDUSize ← read16
    let reliability ← read8
    let bandwidth ← extractBandwidthInfo serviceType
    return ⟨sfc, requestId, responseCode, contractID, serviceType, assignedExpTime, priority, assignedMaxNSDUSize,
      reliability, bandwidth⟩

def receiveContractResponse (env : DmoEnv) (reqData0 : UInt8) (rspData : List UInt8) (st : DmoState) :
    Option DmoState :=
  (ContractRsp.read sfcSuccess rspData).map fun rsp => processContractResponse env reqData0 rsp.1 st

def parseContract (c : DmoContractAttribute) : Reader DmoContractAttribute := do
  let contractID ← read16
  let contractStatus ← read8
  let serviceType ← read8
  let activationTAI ← read32
  let srcTLPort ← read16
  let dstAddr128 ← readBytes 16
  let dstTLPort ← read16
  let assignedExpTime ← read32
  let priority ← read8
  let assignedMaxNSDUSize ← read16
  let reliability ← read8
  let bandwidth ← extractBandwidthInfo serviceType
  return ⟨assignedExpTime, activationTAI, contractID, srcTLPort, assignedMaxNSDUSize, dstTLPort, contractStatus,
    serviceType, reliability, priority, dstAddr128, bandwidth, c.contractReqType⟩

end Isa100Gateway
