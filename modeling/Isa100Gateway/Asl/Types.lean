import Mathlib.Data.List.Basic

/-!
# ASL service objects

The constants and service structures of `aslde.h`, with the field widths of the source. A structure that points to a payload is generic in the pointer: the encoders read the pointed bytes (`Payload`), the parsers set an offset into the APDU buffer (`BufPtr`).
-/

namespace Isa100Gateway

def isa100StartPorts : UInt16 := 0xF0B0
def isa100DmapPort : UInt16 := 0xF0B0
def isa100SmapPort : UInt16 := 0xF0B1
def isa100AppPort : UInt16 := 0xF0B2

def srvcRequest : UInt8 := 0
def srvcResponse : UInt8 := 1

def srvcTypePublish : UInt8 := 0
def srvcTypeAlertRep : UInt8 := 1
def srvcTypeAlertAck : UInt8 := 2
def srvcTypeRead : UInt8 := 3
def srvcTypeWrite : UInt8 := 4
def srvcTypeExecute : UInt8 := 5
def srvcTypeTunnel : UInt8 := 6

def srvcPublish : UInt8 := srvcRequest <<< 7 ||| srvcTypePublish
def srvcReadReq : UInt8 := srvcRequest <<< 7 ||| srvcTypeRead
def srvcReadRsp : UInt8 := srvcResponse <<< 7 ||| srvcTypeRead
def srvcWriteReq : UInt8 := srvcRequest <<< 7 ||| srvcTypeWrite
def srvcWriteRsp : UInt8 := srvcResponse <<< 7 ||| srvcTypeWrite
def srvcExecReq : UInt8 := srvcRequest <<< 7 ||| srvcTypeExecute
def srvcExecRsp : UInt8 := srvcResponse <<< 7 ||| srvcTypeExecute
def srvcTunnelReq : UInt8 := srvcRequest <<< 7 ||| srvcTypeTunnel
def srvcTunnelRsp : UInt8 := srvcResponse <<< 7 ||| srvcTypeTunnel
def srvcAlertRep : UInt8 := srvcRequest <<< 7 ||| srvcTypeAlertRep
def srvcAlertAck : UInt8 := srvcRequest <<< 7 ||| srvcTypeAlertAck

def getAslSrvcType (aslType : UInt8) : UInt8 := aslType &&& 0x1F

def isAslSrvcResponse (aslType : UInt8) : Bool := aslType >>> 7 != 0

def isAslSrvcRequest (aslType : UInt8) : Bool := !isAslSrvcResponse aslType

def oidCompact : UInt8 := 0
def oidMidSize : UInt8 := 1
def oidFullSize : UInt8 := 2
def objAddressingTypeMask : UInt8 := 0x60

def attrNoIndex : UInt8 := 0
def attrOneIndex : UInt8 := 1
def attrTwoIndex : UInt8 := 2

def attrTypeSixBitNoIndex : UInt8 := 0
def attrTypeSixBitOneDim : UInt8 := 1
def attrTypeSixBitTwoDim : UInt8 := 2
def attrTypeTwelveBitExtended : UInt8 := 3

def twelveBitNoIndex : UInt8 := 0
def twelveBitOneDim : UInt8 := 1
def twelveBitTwoDim : UInt8 := 2

def sfcSuccess : UInt8 := 0
def sfcFailure : UInt8 := 1
def sfcInvalidElementIndex : UInt8 := 7
def sfcIncompatibleMode : UInt8 := 11
def sfcInvalidSize : UInt8 := 14
def sfcInvalidMethod : UInt8 := 16
def sfcObjectStateConflict : UInt8 := 17
def sfcInconsistentContent : UInt8 := 18
def sfcInsufficientDeviceResources : UInt8 := 27
def sfcTimeout : UInt8 := 129
def sfcDuplicate : UInt8 := 131
def sfcNoContract : UInt8 := 138
def sfcNoKey : UInt8 := 139

def maxContractNo : Nat := 5000
def maxSlmeKeysNo : Nat := maxContractNo
def maxRoutesNo : Nat := 5000
def maxAddrTranslationsNo : Nat := 5000

abbrev Payload := List UInt8

/-- A parser's data pointer, relative to the start of the APDU buffer. A pointer the parser did not set may lie anywhere. -/
abbrev BufPtr := Int

structure AttrIdtf where
  attrFormat : UInt8
  attrID : UInt16
  index1 : UInt16
  index2 : UInt16

structure ReadReqSrvc where
  srcOID : UInt16
  dstOID : UInt16
  reqID : UInt8
  attrIdtf : AttrIdtf

structure ReadRspSrvc (ptr : Type) where
  srcOID : UInt16
  dstOID : UInt16
  reqID : UInt8
  fecce : UInt8
  sfc : UInt8
  len : UInt16
  rspData : ptr

structure WriteReqSrvc (ptr : Type) where
  srcOID : UInt16
  dstOID : UInt16
  reqID : UInt8
  attrIdtf : AttrIdtf
  len : UInt16
  reqData : ptr

structure WriteRspSrvc where
  srcOID : UInt16
  dstOID : UInt16
  reqID : UInt8
  fecce : UInt8
  sfc : UInt8

structure ExecReqSrvc (ptr : Type) where
  srcOID : UInt16
  dstOID : UInt16
  reqID : UInt8
  methID : UInt8
  len : UInt16
  reqData : ptr

structure ExecRspSrvc (ptr : Type) where
  srcOID : UInt16
  dstOID : UInt16
  reqID : UInt8
  fecce : UInt8
  sfc : UInt8
  len : UInt16
  rspData : ptr

structure TunnelReqSrvc (ptr : Type) where
  srcOID : UInt16
  dstOID : UInt16
  len : UInt16
  reqData : ptr

structure TunnelRspSrvc (ptr : Type) where
  srcOID : UInt16
  dstOID : UInt16
  fecce : UInt8
  len : UInt16
  rspData : ptr

structure PublishSrvc (ptr : Type) where
  pubOID : UInt16
  subOID : UInt16
  nativePublish : UInt8
  contentVersion : UInt8
  freqSeqNo : UInt8
  size : UInt16
  data : ptr

/-! Class, direction, category and priority of an alert share one byte, `xyzzwwww`. -/

def maskAlertClass : UInt8 := 0x80
def rotAlertClass : UInt8 := 7
def maskAlarmDirection : UInt8 := 0x40
def rotAlarmDirection : UInt8 := 6
def maskAlertCategory : UInt8 := 0x30
def rotAlertCategory : UInt8 := 4
def maskAlertPriority : UInt8 := 0x0F
def rotAlertPriority : UInt8 := 0

/-- `ALERT`. `nextSendTAI` belongs to the alert queue of the ARMO and is never sent. -/
structure Alert where
  nextSendTAI : UInt32
  detObjTLPort : UInt16
  detObjID : UInt16
  seconds : UInt32
  fract : UInt16
  (id alertClass direction category type priority : UInt8)
  size : UInt16

structure AlertRepSrvc (ptr : Type) where
  srcOID : UInt16
  dstOID : UInt16
  alertInfo : Alert
  alertValue : ptr

structure AlertAckSrvc where
  srcOID : UInt16
  dstOID : UInt16
  alertID : UInt8

/-- `GENERIC_ASL_SRVC`: the union member that the type byte selects. -/
inductive GenericAslSrvc (ptr : Type) where
  | readReq (obj : ReadReqSrvc)
  | readRsp (obj : ReadRspSrvc ptr)
  | writeReq (obj : WriteReqSrvc ptr)
  | writeRsp (obj : WriteRspSrvc)
  | execReq (obj : ExecReqSrvc ptr)
  | execRsp (obj : ExecRspSrvc ptr)
  | tunnelReq (obj : TunnelReqSrvc ptr)
  | tunnelRsp (obj : TunnelRspSrvc ptr)
  | publish (obj : PublishSrvc ptr)
  | alertRep (obj : AlertRepSrvc ptr)
  | alertAck (obj : AlertAckSrvc)

def GenericAslSrvc.type {ptr : Type} : GenericAslSrvc ptr → UInt8
  | .readReq _ => srvcReadReq
  | .readRsp _ => srvcReadRsp
  | .writeReq _ => srvcWriteReq
  | .writeRsp _ => srvcWriteRsp
  | .execReq _ => srvcExecReq
  | .execRsp _ => srvcExecRsp
  | .tunnelReq _ => srvcTunnelReq
  | .tunnelRsp _ => srvcTunnelRsp
  | .publish _ => srvcPublish
  | .alertRep _ => srvcAlertRep
  | .alertAck _ => srvcAlertAck

/-- What the caller's `GENERIC_ASL_SRVC` holds before a parse, seen through each member of the union. The parsers only assign the fields they find, so every other field keeps this content. -/
structure SrvcUnion where
  readReq : ReadReqSrvc
  readRsp : ReadRspSrvc BufPtr
  writeReq : WriteReqSrvc BufPtr
  writeRsp : WriteRspSrvc
  execReq : ExecReqSrvc BufPtr
  execRsp : ExecRspSrvc BufPtr
  tunnelReq : TunnelReqSrvc BufPtr
  tunnelRsp : TunnelRspSrvc BufPtr
  publish : PublishSrvc BufPtr
  alertRep : AlertRepSrvc BufPtr
  alertAck : AlertAckSrvc

def SrvcUnion.cleared : SrvcUnion where
  readReq := ⟨0, 0, 0, ⟨0, 0, 0, 0⟩⟩
  readRsp := ⟨0, 0, 0, 0, 0, 0, 0⟩
  writeReq := ⟨0, 0, 0, ⟨0, 0, 0, 0⟩, 0, 0⟩
  writeRsp := ⟨0, 0, 0, 0, 0⟩
  execReq := ⟨0, 0, 0, 0, 0, 0⟩
  execRsp := ⟨0, 0, 0, 0, 0, 0, 0⟩
  tunnelReq := ⟨0, 0, 0, 0⟩
  tunnelRsp := ⟨0, 0, 0, 0, 0⟩
  publish := ⟨0, 0, 0, 0, 0, 0, 0⟩
  alertRep := ⟨0, 0, ⟨0, 0, 0, 0, 0, 0, 0, 0, 0, 0, 0, 0⟩, 0⟩
  alertAck := ⟨0, 0, 0⟩

end Isa100Gateway
