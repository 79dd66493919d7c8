import Isa100Gateway.Lib.Scan
import Isa100Gateway.Asl.Types

/-!
# ASL APDU encoders and parsers

The `ASLSRVC_set*Obj` encoders and `ASLSRVC_get*Obj` parsers of `aslsrvc.cpp`. An encoder returns the bytes it appends to the output buffer, or `none` where the source returns `NULL`; a parser is a scan of the received buffer that starts from the previous content of the object it fills.
-/

namespace Isa100Gateway

open ByteScan ByteScan.Scan

def copyPayload (data : Payload) (len : UInt16) : List UInt8 := data.take len.toNat

def insertExtensibleValue (value : UInt16) : List UInt8 :=
  (if value ≥ 0x80 then [(value >>> 8).toUInt8 ||| 0x80] else []) ++ [value.toUInt8]

def insertAPDUHeader (srvPrimitive srvType : UInt8) (srcOID dstOID : UInt16) : List UInt8 :=
  let first := srvPrimitive <<< 7 ||| srvType
  if srcOID < 0x000F ∧ dstOID < 0x000F then
    [first ||| oidCompact <<< 5, (srcOID <<< 4 ||| dstOID).toUInt8]
  else if srcOID < 0x00FF ∧ dstOID < 0x00FF then
    [first ||| oidMidSize <<< 5, srcOID.toUInt8, dstOID.toUInt8]
  else
    [first ||| oidFullSize <<< 5, (srcOID >>> 8).toUInt8, srcOID.toUInt8, (dstOID >>> 8).toUInt8, dstOID.toUInt8]

def insertAttrID (attrID : UInt16) (sixBitMask twelveBitMask : UInt16) : List UInt8 :=
  if attrID ≤ 0x003F then [(attrID ||| sixBitMask).toUInt8]
  else [(attrID >>> 8 ||| twelveBitMask).toUInt8, attrID.toUInt8]

def insertAID (attr : AttrIdtf) : Option (List UInt8) :=
  if ¬ attr.attrID ≤ 0x0FFF then none
  else if attr.attrFormat > attrNoIndex ∧ attr.index1 > 0x7FFF then none
  else if attr.attrFormat = attrTwoIndex ∧ attr.index2 > 0x7FFF then none
  else if attr.attrFormat = attrNoIndex then
    some (insertAttrID attr.attrID 0x00 0xC0)
  else if attr.attrFormat = attrOneIndex then
    some (insertAttrID attr.attrID 0x40 0xD0 ++ insertExtensibleValue attr.index1)
  else if attr.attrFormat = attrTwoIndex then
    some (insertAttrID attr.attrID 0x80 0xE0 ++ insertExtensibleValue attr.index1 ++
      insertExtensibleValue attr.index2)
  -- the switch has no default: an unknown format writes nothing
  else some []

def setReadReqObj (obj : ReadReqSrvc) (outBufLen : UInt16) : Option (List UInt8) :=
  if outBufLen.toNat < 5 + 1 + 6 then none
  else (insertAID obj.attrIdtf).map fun aid =>
    insertAPDUHeader srvcRequest srvcTypeRead obj.srcOID obj.dstOID ++ [obj.reqID] ++ aid

/-- The first statement of `ASLSRVC_setReadRspObj`, which also changes the caller's object. -/
def ReadRspSrvc.dropFailedLen {ptr : Type} (obj : ReadRspSrvc ptr) : ReadRspSrvc ptr :=
  if sfcSuccess ≠ obj.sfc then { obj with len := 0 } else obj

def setReadRspObj (obj : ReadRspSrvc Payload) (outBufLen : UInt16) : Option (List UInt8) :=
  let obj := obj.dropFailedLen
  if outBufLen.toNat < 5 + 1 + 1 + 1 + 2 + obj.len.toNat then none
  else some (insertAPDUHeader srvcResponse srvcTypeRead obj.srcOID obj.dstOID ++
    [obj.reqID, obj.fecce &&& 0x01, obj.sfc] ++
    if sfcSuccess = obj.sfc then
      insertExtensibleValue obj.len ++ copyPayload obj.rspData obj.len
    else [])

def setWriteReqObj (obj : WriteReqSrvc Payload) (outBufLen : UInt16) : Option (List UInt8) :=
  if outBufLen.toNat < 5 + 1 + 6 + obj.len.toNat then none
  else (insertAID obj.attrIdtf).map fun aid =>
    insertAPDUHeader srvcRequest srvcTypeWrite obj.srcOID obj.dstOID ++ [obj.reqID] ++ aid ++
      insertExtensibleValue obj.len ++ copyPayload obj.reqData obj.len

def setWriteRspObj (obj : WriteRspSrvc) (outBufLen : UInt16) : Option (List UInt8) :=
  if outBufLen.toNat < 5 + 1 + 1 + 1 then none
  else some (insertAPDUHeader srvcResponse srvcTypeWrite obj.srcOID obj.dstOID ++
    [obj.reqID, obj.fecce &&& 0x01, obj.sfc])

def setExecuteReqObj (obj : ExecReqSrvc Payload) (outBufLen : UInt16) : Option (List UInt8) :=
  if outBufLen.toNat < 5 + 1 + 3 + obj.len.toNat then none
  else some (insertAPDUHeader srvcRequest srvcTypeExecute obj.srcOID obj.dstOID ++
    [obj.reqID, obj.methID] ++ insertExtensibleValue obj.len ++ copyPayload obj.reqData obj.len)

def setExecuteRspObj (obj : ExecRspSrvc Payload) (outBufLen : UInt16) : Option (List UInt8) :=
  if outBufLen.toNat < 5 + 1 + 1 + 1 + 2 + obj.len.toNat then none
  else some (insertAPDUHeader srvcResponse srvcTypeExecute obj.srcOID obj.dstOID ++
    [obj.reqID, obj.fecce &&& 0x01, obj.sfc] ++ insertExtensibleValue obj.len ++
    if obj.len ≠ 0 then copyPayload obj.rspData obj.len else [])

/-- The header gets the execute service type, as the source writes it. -/
def setTunnelReqObj (obj : TunnelReqSrvc Payload) (outBufLen : UInt16) : Option (List UInt8) :=
  if outBufLen.toNat < 5 + 1 + 3 + obj.len.toNat then none
  else some (insertAPDUHeader srvcRequest srvcTypeExecute obj.srcOID obj.dstOID ++
    insertExtensibleValue obj.len ++ copyPayload obj.reqData obj.len)

def setTunnelRspObj (obj : TunnelRspSrvc Payload) (outBufLen : UInt16) : Option (List UInt8) :=
  if outBufLen.toNat < 5 + 1 + 1 + 1 + 2 + obj.len.toNat then none
  else some (insertAPDUHeader srvcResponse srvcTypeExecute obj.srcOID obj.dstOID ++
    [obj.fecce &&& 0x01] ++ insertExtensibleValue obj.len ++
    if obj.len ≠ 0 then copyPayload obj.rspData obj.len else [])

/-- The packed byte of an alert. The source masks every part but the class. -/
def alertFlags (info : Alert) : UInt8 :=
  info.alertClass <<< rotAlertClass |||
    ((info.direction <<< rotAlarmDirection) &&& maskAlarmDirection) |||
    ((info.category <<< rotAlertCategory) &&& maskAlertCategory) |||
    (info.priority &&& maskAlertPriority)

def setAlertRepObj (obj : AlertRepSrvc Payload) (outBufLen : UInt16) : Option (List UInt8) :=
  let info := obj.alertInfo
  if outBufLen.toNat < 5 + 1 + 2 + 2 + 6 + 1 + 1 + 2 + info.size.toNat then none
  else some (insertAPDUHeader srvcRequest srvcTypeAlertRep obj.srcOID obj.dstOID ++ [info.id,
      (info.detObjTLPort >>> 8).toUInt8, info.detObjTLPort.toUInt8,
      (info.detObjID >>> 8).toUInt8, info.detObjID.toUInt8,
      (info.seconds >>> 24).toUInt8, (info.seconds >>> 16).toUInt8,
      (info.seconds >>> 8).toUInt8, info.seconds.toUInt8,
      (info.fract >>> 8).toUInt8, info.fract.toUInt8,
      alertFlags info, info.type] ++
    insertExtensibleValue info.size ++
    if info.size ≠ 0 then copyPayload obj.alertValue info.size else [])

def setAlertAckObj (obj : AlertAckSrvc) (outBufLen : UInt16) : Option (List UInt8) :=
  if outBufLen.toNat < 5 + 1 then none
  else some (insertAPDUHeader srvcRequest srvcTypeAlertAck obj.srcOID obj.dstOID ++ [obj.alertID])

/-- The header gets the response primitive, as the source writes it. -/
def setPublishObj (obj : PublishSrvc Payload) (outBufLen : UInt16) : Option (List UInt8) :=
  if outBufLen.toNat < 5 + 1 + 2 + obj.size.toNat then none
  else some (insertAPDUHeader srvcResponse srvcTypePublish obj.pubOID obj.subOID ++
    (if obj.nativePublish ≠ 0 then [obj.contentVersion] else []) ++ [obj.freqSeqNo] ++
    insertExtensibleValue obj.size ++ copyPayload obj.data obj.size)

def setGenericObject (obj : GenericAslSrvc Payload) (outBufLen : UInt16) : Option (List UInt8) :=
  match obj with
  | .readRsp o => setReadRspObj o outBufLen
  | .writeRsp o => setWriteRspObj o outBufLen
  | .execRsp o => setExecuteRspObj o outBufLen
  | .tunnelRsp o => setTunnelRspObj o outBufLen
  | .readReq o => setReadReqObj o outBufLen
  | .writeReq o => setWriteReqObj o outBufLen
  | .execReq o => setExecuteReqObj o outBufLen
  | .tunnelReq o => setTunnelReqObj o outBufLen
  | .publish o => setPublishObj o outBufLen
  | .alertRep o => setAlertRepObj o outBufLen
  | .alertAck o => setAlertAckObj o outBufLen

/-! ## Parsers -/

def extractExtensibleValue : Scan UInt16 := do
  let lead ← peekAt 0
  if lead &&& 0x80 = 0 then
    let value ← next
    return value.toUInt16
  else
    let high ← next
    let low ← next
    return (high.toUInt16 <<< 8 ||| low.toUInt16) &&& 0x7FFF

def extractAPDUHeader (srcOID dstOID : UInt16) : Scan (UInt16 × UInt16) := do
  let first ← next
  let oidMode := (first &&& objAddressingTypeMask) >>> 5
  if oidMode = oidCompact then
    let both ← next
    return ((both >>> 4).toUInt16, (both &&& 0x0F).toUInt16)
  else if oidMode = oidMidSize then
    let src ← next
    let dst ← next
    return (src.toUInt16, dst.toUInt16)
  else if oidMode = oidFullSize then
    let src₁ ← next
    let src₀ ← next
    let dst₁ ← next
    let dst₀ ← next
    return (src₁.toUInt16 <<< 8 ||| src₀.toUInt16, dst₁.toUInt16 <<< 8 ||| dst₀.toUInt16)
  else
    return (srcOID, dstOID)

/-- The format field is never assigned, and an index only by the formats that carry it. -/
def extractAID (attr : AttrIdtf) : Scan AttrIdtf := do
  let lead ← peekAt 0
  let attrForm := lead >>> 6
  if attrForm = attrTypeSixBitNoIndex then
    let id ← next
    return { attr with attrID := (id &&& 0x3F).toUInt16 }
  else if attrForm = attrTypeSixBitOneDim then
    let id ← next
    let index1 ← extractExtensibleValue
    return { attr with attrID := (id &&& 0x3F).toUInt16, index1 := index1 }
  else if attrForm = attrTypeSixBitTwoDim then
    let id ← next
    let index1 ← extractExtensibleValue
    let index2 ← extractExtensibleValue
    return { attr with attrID := (id &&& 0x3F).toUInt16, index1 := index1, index2 := index2 }
  else
    let high ← next
    let low ← next
    let aidForm := (high &&& 0x30) >>> 4
    let attrID := (high &&& 0x0F).toUInt16 <<< 8 ||| low.toUInt16
    if aidForm = twelveBitNoIndex then
      return { attr with attrID := attrID }
    else if aidForm = twelveBitOneDim then
      let index1 ← extractExtensibleValue
      return { attr with attrID := attrID, index1 := index1 }
    else if aidForm = twelveBitTwoDim then
      let index1 ← extractExtensibleValue
      let index2 ← extractExtensibleValue
      return { attr with attrID := attrID, index1 := index1, index2 := index2 }
    else
      return { attr with attrID := 0 }

def checkDataLen {α : Type} (dataStart : Nat) (dataLen : UInt16) (obj : α) : Scan (Option α) := do
  let p ← here
  return if (p - dataStart) % 65536 ≤ dataLen.toNat then some obj else none

def getReadReqObj (dataLen : UInt16) (obj : ReadReqSrvc) : Scan (Option ReadReqSrvc) := do
  let dataStart ← here
  let (srcOID, dstOID) ← extractAPDUHeader obj.srcOID obj.dstOID
  let reqID ← next
  let attrIdtf ← extractAID obj.attrIdtf
  checkDataLen dataStart dataLen { srcOID, dstOID, reqID, attrIdtf }

/-- A failed response carries no value: `len` and `rspData` then stay as they were. -/
def getReadRspObj (dataLen : UInt16) (obj : ReadRspSrvc BufPtr) :
    Scan (Option (ReadRspSrvc BufPtr)) := do
  let dataStart ← here
  let (srcOID, dstOID) ← extractAPDUHeader obj.srcOID obj.dstOID
  let reqID ← next
  let fecce ← next
  let sfc ← next
  if sfcSuccess = sfc then
    let len ← extractExtensibleValue
    let rspData ← here
    skip len.toNat
    checkDataLen dataStart dataLen { srcOID, dstOID, reqID, fecce, sfc, len, rspData }
  else
    checkDataLen dataStart dataLen { obj with srcOID, dstOID, reqID, fecce, sfc }

def getWriteReqObj (dataLen : UInt16) (obj : WriteReqSrvc BufPtr) :
    Scan (Option (WriteReqSrvc BufPtr)) := do
  let dataStart ← here
  let (srcOID, dstOID) ← extractAPDUHeader obj.srcOID obj.dstOID
  let reqID ← next
  let attrIdtf ← extractAID obj.attrIdtf
  let len ← extractExtensibleValue
  let reqData ← here
  skip len.toNat
  checkDataLen dataStart dataLen { srcOID, dstOID, reqID, attrIdtf, len, reqData }

def getWriteRspObj (dataLen : UInt16) (obj : WriteRspSrvc) : Scan (Option WriteRspSrvc) := do
  let dataStart ← here
  let (srcOID, dstOID) ← extractAPDUHeader obj.srcOID obj.dstOID
  let reqID ← next
  let fecce ← next
  let sfc ← next
  checkDataLen dataStart dataLen { srcOID, dstOID, reqID, fecce, sfc }

def getExecuteReqObj (dataLen : UInt16) (obj : ExecReqSrvc BufPtr) :
    Scan (Option (ExecReqSrvc BufPtr)) := do
  let dataStart ← here
  let (srcOID, dstOID) ← extractAPDUHeader obj.srcOID obj.dstOID
  let reqID ← next
  let methID ← next
  let len ← extractExtensibleValue
  let reqData ← here
  skip len.toNat
  checkDataLen dataStart dataLen { srcOID, dstOID, reqID, methID, len, reqData }

def extractRspParams (rspData : BufPtr) : Scan (UInt16 × BufPtr) := do
  let len ← extractExtensibleValue
  if len ≠ 0 then
    let p ← here
    skip len.toNat
    return (len, p)
  else
    return (len, rspData)

def getExecuteRspObj (dataLen : UInt16) (obj : ExecRspSrvc BufPtr) :
    Scan (Option (ExecRspSrvc BufPtr)) := do
  let dataStart ← here
  let (srcOID, dstOID) ← extractAPDUHeader obj.srcOID obj.dstOID
  let reqID ← next
  let fecce ← next
  let sfc ← next
  let (len, rspData) ← extractRspParams obj.rspData
  checkDataLen dataStart dataLen { srcOID, dstOID, reqID, fecce, sfc, len, rspData }

def getTunnelReqObj (dataLen : UInt16) (obj : TunnelReqSrvc BufPtr) :
    Scan (Option (TunnelReqSrvc BufPtr)) := do
  let dataStart ← here
  let (srcOID, dstOID) ← extractAPDUHeader obj.srcOID obj.dstOID
  let len ← extractExtensibleValue
  let reqData ← here
  skip len.toNat
  checkDataLen dataStart dataLen { srcOID, dstOID, len, reqData }

def getTunnelRspObj (dataLen : UInt16) (obj : TunnelRspSrvc BufPtr) :
    Scan (Option (TunnelRspSrvc BufPtr)) := do
  let dataStart ← here
  let (srcOID, dstOID) ← extractAPDUHeader obj.srcOID obj.dstOID
  let fecce ← next
  let (len, rspData) ← extractRspParams obj.rspData
  checkDataLen dataStart dataLen { srcOID, dstOID, fecce, len, rspData }

def getAlertRepObj (dataLen : UInt16) (obj : AlertRepSrvc BufPtr) :
    Scan (Option (AlertRepSrvc BufPtr)) := do
  let dataStart ← here
  let (srcOID, dstOID) ← extractAPDUHeader obj.srcOID obj.dstOID
  let id ← next
  let port₁ ← next
  let port₀ ← next
  let objID₁ ← next
  let objID₀ ← next
  let sec₃ ← next
  let sec₂ ← next
  let sec₁ ← next
  let sec₀ ← next
  let fract₁ ← next
  let fract₀ ← next
  let flags ← next
  let type ← next
  let size ← extractExtensibleValue
  let alertValue ← here
  skip size.toNat
  checkDataLen dataStart dataLen
    { srcOID, dstOID, alertValue
      alertInfo :=
        { obj.alertInfo with
          id, type, size
          detObjTLPort := port₁.toUInt16 <<< 8 ||| port₀.toUInt16
          detObjID := objID₁.toUInt16 <<< 8 ||| objID₀.toUInt16
          seconds := sec₃.toUInt32 <<< 24 ||| sec₂.toUInt32 <<< 16 ||| sec₁.toUInt32 <<< 8 |||
            sec₀.toUInt32
          fract := fract₁.toUInt16 <<< 8 ||| fract₀.toUInt16
          alertClass := (flags &&& maskAlertClass) >>> rotAlertClass
          direction := (flags &&& maskAlarmDirection) >>> rotAlarmDirection
          category := (flags &&& maskAlertCategory) >>> rotAlertCategory
          priority := (flags &&& maskAlertPriority) >>> rotAlertPriority } }

def getAlertAckObj (dataLen : UInt16) (obj : AlertAckSrvc) : Scan (Option AlertAckSrvc) := do
  let dataStart ← here
  let (srcOID, dstOID) ← extractAPDUHeader obj.srcOID obj.dstOID
  let alertID ← next
  checkDataLen dataStart dataLen { srcOID, dstOID, alertID }

/-- The one parser without a length check: it always ends at `pDataStart + p_unDataLen`, and `nativePublish` is the global `g_bNativePublish`. -/
def getPublishObj (nativePublish : UInt8) (dataLen : UInt16) (obj : PublishSrvc BufPtr) :
    Scan (Option (PublishSrvc BufPtr)) := do
  let dataStart ← here
  let (pubOID, subOID) ← extractAPDUHeader obj.pubOID obj.subOID
  let data ← here
  let size := dataLen - UInt16.ofNat (data - dataStart)
  if nativePublish ≠ 0 then
    let contentVersion ← next
    let freqSeqNo ← next
    seek (dataStart + dataLen.toNat)
    return some { pubOID, subOID, nativePublish, contentVersion, freqSeqNo, size, data }
  else
    let freqSeqNo ← next
    seek (dataStart + dataLen.toNat)
    return some { obj with pubOID, subOID, nativePublish, freqSeqNo, size, data }

def getSrvcObj (nativePublish : UInt8) (type : UInt8) (inBufLen : UInt16) (obj : SrvcUnion) :
    Scan (Option (GenericAslSrvc BufPtr)) :=
  if type = srvcReadRsp then Option.map .readRsp <$> getReadRspObj inBufLen obj.readRsp
  else if type = srvcWriteRsp then Option.map .writeRsp <$> getWriteRspObj inBufLen obj.writeRsp
  else if type = srvcExecRsp then Option.map .execRsp <$> getExecuteRspObj inBufLen obj.execRsp
  else if type = srvcTunnelRsp then
    Option.map .tunnelRsp <$> getTunnelRspObj inBufLen obj.tunnelRsp
  else if type = srvcReadReq then Option.map .readReq <$> getReadReqObj inBufLen obj.readReq
  else if type = srvcWriteReq then Option.map .writeReq <$> getWriteReqObj inBufLen obj.writeReq
  else if type = srvcExecReq then Option.map .execReq <$> getExecuteReqObj inBufLen obj.execReq
  else if type = srvcTunnelReq then
    Option.map .tunnelReq <$> getTunnelReqObj inBufLen obj.tunnelReq
  else if type = srvcPublish then
    Option.map .publish <$> getPublishObj nativePublish inBufLen obj.publish
  else if type = srvcAlertRep then Option.map .alertRep <$> getAlertRepObj inBufLen obj.alertRep
  else if type = srvcAlertAck then Option.map .alertAck <$> getAlertAckObj inBufLen obj.alertAck
  else pure none

def getGenericObject (nativePublish : UInt8) (inBufLen : UInt16) (obj : SrvcUnion) :
    Scan (Option (GenericAslSrvc BufPtr)) :=
  if inBufLen = 0 then pure none
  else do
    let first ← peekAt 0
    getSrvcObj nativePublish (first &&& 0x9F) inBufLen obj

end Isa100Gateway
