import Isa100Gateway.Asl.ServiceRoundTrip

/-!
# `ASLSRVC_AddGenericObject` and `ASLSRVC_GetGenericObject`

The round trip through the two service switches. A confirmed service or an alert comes back as it was sent; a tunnel or publish object never does, because its encoder writes the type byte of another service.
-/

namespace Isa100Gateway

open ByteScan ByteScan.Scan GenericAslSrvc List

variable {mem : Nat → UInt8} {obj : GenericAslSrvc Payload} {bytes : List UInt8} {outBufLen : UInt16}

theorem parses_getGenericObject (nativePublish : UInt8) (old : SrvcUnion) {n outBufLen : UInt16}
    (hsrvc : ¬ obj.IsTunnelOrPublish) (hrange : obj.InRange)
    (hset : setGenericObject obj outBufLen = some bytes) (hn : n.toNat = bytes.length) :
    Parses mem 0 (getGenericObject nativePublish n old) bytes
      (some (obj.received bytes.length old)) := by
  refine parses_getGenericObject_of_srvc hset hn ?_
  cases obj with
  | readReq o =>
    rw [show getSrvcObj nativePublish (writtenType (.readReq o)) n old =
      Option.map .readReq <$> getReadReqObj n old.readReq from rfl]
    have hparse := parses_getReadReqObj mem 0 o old.readReq hrange hset hn
    exact parses_map _ hparse
  | readRsp o =>
    obtain ⟨hdata, -⟩ := hrange
    rw [show getSrvcObj nativePublish (writtenType (.readRsp o)) n old =
      Option.map .readRsp <$> getReadRspObj n old.readRsp from rfl]
    by_cases hsfc : o.sfc = sfcSuccess
    · have hparse := parses_getReadRspObj mem 0 o old.readRsp hsfc hdata.len_le
        hdata.length_eq hset hn
      rw [Nat.zero_add] at hparse
      simp only [received, if_pos hsfc]
      exact parses_map _ hparse
    · have hparse := parses_getReadRspObj_failed mem 0 o old.readRsp hsfc hset hn
      simp only [received, if_neg hsfc]
      exact parses_map _ hparse
  | writeReq o =>
    obtain ⟨hattr, hdata⟩ := hrange
    rw [show getSrvcObj nativePublish (writtenType (.writeReq o)) n old =
      Option.map .writeReq <$> getWriteReqObj n old.writeReq from rfl]
    have hparse := parses_getWriteReqObj mem 0 o old.writeReq hattr hdata.len_le
      hdata.length_eq hset hn
    rw [Nat.zero_add] at hparse
    exact parses_map _ hparse
  | writeRsp o =>
    rw [show getSrvcObj nativePublish (writtenType (.writeRsp o)) n old =
      Option.map .writeRsp <$> getWriteRspObj n old.writeRsp from rfl]
    have hparse := parses_getWriteRspObj mem 0 o old.writeRsp hset hn
    exact parses_map _ hparse
  | execReq o =>
    rw [show getSrvcObj nativePublish (writtenType (.execReq o)) n old =
      Option.map .execReq <$> getExecuteReqObj n old.execReq from rfl]
    have hparse := parses_getExecuteReqObj mem 0 o old.execReq hrange.len_le
      hrange.length_eq hset hn
    rw [Nat.zero_add] at hparse
    exact parses_map _ hparse
  | execRsp o =>
    rw [show getSrvcObj nativePublish (writtenType (.execRsp o)) n old =
      Option.map .execRsp <$> getExecuteRspObj n old.execRsp from rfl]
    have hparse := parses_getExecuteRspObj mem 0 o old.execRsp hrange.len_le
      hrange.length_eq hset hn
    rw [Nat.zero_add] at hparse
    exact parses_map _ hparse
  | tunnelReq o => exact absurd trivial hsrvc
  | tunnelRsp o => exact absurd trivial hsrvc
  | publish o => exact absurd trivial hsrvc
  | alertRep o =>
    obtain ⟨hinfo, hdata⟩ := hrange
    rw [show getSrvcObj nativePublish (writtenType (.alertRep o)) n old =
      Option.map .alertRep <$> getAlertRepObj n old.alertRep from rfl]
    have hparse := parses_getAlertRepObj mem 0 o old.alertRep hinfo hdata.len_le
      hdata.length_eq hset hn
    rw [Nat.zero_add] at hparse
    exact parses_map _ hparse
  | alertAck o =>
    rw [show getSrvcObj nativePublish (writtenType (.alertAck o)) n old =
      Option.map .alertAck <$> getAlertAckObj n old.alertAck from rfl]
    have hparse := parses_getAlertAckObj mem 0 o old.alertAck hset hn
    exact parses_map _ hparse

private theorem map_type {α : Type} {f : α → GenericAslSrvc BufPtr} {m : Scan (Option α)}
    {cur : Cursor} {type : UInt8} {obj : GenericAslSrvc BufPtr}
    (h : ((Option.map f <$> m) mem cur).1 = some obj) (hf : ∀ o, (f o).type = type) : obj.type = type := by
  obtain ⟨o, -, rfl⟩ := Option.map_eq_some_iff.mp h
  exact hf o

private theorem ite_type {α : Type} {type srvc : UInt8} {f : α → GenericAslSrvc BufPtr} {m : Scan (Option α)}
    {m' : Scan (Option (GenericAslSrvc BufPtr))} {cur : Cursor} {obj : GenericAslSrvc BufPtr}
      (hf : ∀ o, (f o).type = srvc)
    (hneg : (m' mem cur).1 = some obj → obj.type = type)
    (h : ((if type = srvc then Option.map f <$> m else m') mem cur).1 = some obj) : obj.type = type := by
  split at h
  · rename_i hsrvc
    exact map_type h fun o => (hf o).trans hsrvc.symm
  · exact hneg h

theorem getSrvcObj_type {nativePublish type : UInt8} {n : UInt16} {old : SrvcUnion} {cur : Cursor}
    {obj : GenericAslSrvc BufPtr}
    (h : (getSrvcObj nativePublish type n old mem cur).1 = some obj) : obj.type = type := by
  unfold getSrvcObj at h
  revert h
  iterate 11 refine ite_type (fun _ => rfl) ?_
  exact fun h => (nomatch h)

def GenericAslSrvc.payload : GenericAslSrvc Payload → Payload × UInt16
  | .readRsp o => if o.sfc = sfcSuccess then (o.rspData, o.len) else ([], 0)
  | .writeReq o => (o.reqData, o.len)
  | .execReq o => (o.reqData, o.len)
  | .execRsp o => (o.rspData, o.len)
  | .tunnelReq o => (o.reqData, o.len)
  | .tunnelRsp o => (o.rspData, o.len)
  | .publish o => (o.data, o.size)
  | .alertRep o => (o.alertValue, o.alertInfo.size)
  | .readReq _ | .writeRsp _ | .alertAck _ => ([], 0)

theorem GenericAslSrvc.InRange.payload (hrange : obj.InRange) : SizedData obj.payload.1 obj.payload.2 := by
  have hnone : SizedData [] 0 := ⟨by decide, rfl⟩
  cases obj with
  | readReq o => exact hnone
  | readRsp o =>
    simp only [payload]
    split_ifs
    · exact hrange.1
    · exact hnone
  | writeReq o => exact hrange.2
  | writeRsp o => exact hnone
  | execReq o => exact hrange
  | execRsp o => exact hrange
  | tunnelReq o => exact hrange
  | tunnelRsp o => exact hrange
  | publish o => exact hrange
  | alertRep o => exact hrange.2
  | alertAck o => exact hnone

private theorem exists_front {full : Prop} [Decidable full] {whole front data bytes : List UInt8}
    (hset : (if full then none else some whole) = some bytes) (hwhole : whole = front ++ data)
    (hfront : front.length ≤ 20) : ∃ front, bytes = front ++ data ∧ front.length ≤ 20 := by
  split_ifs at hset
  cases hset
  exact ⟨front, hwhole, hfront⟩

theorem setGenericObject_eq_append (hrange : obj.InRange) (hset : setGenericObject obj outBufLen = some bytes) :
    ∃ front, bytes = front ++ copyPayload obj.payload.1 obj.payload.2 ∧ front.length ≤ 20 := by
  have hheader := fun prim type src dst => length_insertAPDUHeader_le prim type src dst
  have hvalue := fun value => length_insertExtensibleValue_le value
  cases obj with
  | readReq o =>
    obtain ⟨aid, haid, haidLen, -⟩ := parses_extractAID o.attrIdtf hrange
    simp only [setGenericObject, setReadReqObj, haid, Option.map_some] at hset
    refine exists_front hset (append_nil _).symm ?_
    have := hheader srvcRequest srvcTypeRead o.srcOID o.dstOID
    simp only [length_append, length_cons, length_nil]
    omega
  | readRsp o =>
    simp only [setGenericObject, setReadRspObj, ReadRspSrvc.dropFailedLen] at hset
    have := hheader srvcResponse srvcTypeRead o.srcOID o.dstOID
    have := hvalue o.len
    by_cases hsfc : o.sfc = sfcSuccess
    · simp only [payload, hsfc, ne_eq, not_true_eq_false, if_true, if_false] at hset ⊢
      refine exists_front hset (append_assoc _ _ _).symm ?_
      simp only [length_append, length_cons, length_nil]
      omega
    · simp only [payload, if_neg hsfc, if_pos (Ne.symm hsfc), if_neg (Ne.symm hsfc)] at hset ⊢
      refine exists_front hset rfl ?_
      simp only [length_append, length_cons, length_nil]
      omega
  | writeReq o =>
    obtain ⟨aid, haid, haidLen, -⟩ := parses_extractAID o.attrIdtf hrange.1
    simp only [setGenericObject, setWriteReqObj, haid, Option.map_some] at hset
    refine exists_front hset rfl ?_
    have := hheader srvcRequest srvcTypeWrite o.srcOID o.dstOID
    have := hvalue o.len
    simp only [length_append, length_cons, length_nil]
    omega
  | writeRsp o =>
    simp only [setGenericObject, setWriteRspObj] at hset
    refine exists_front hset (append_nil _).symm ?_
    have := hheader srvcResponse srvcTypeWrite o.srcOID o.dstOID
    simp only [length_append, length_cons, length_nil]
    omega
  | execReq o =>
    simp only [setGenericObject, setExecuteReqObj] at hset
    refine exists_front hset rfl ?_
    have := hheader srvcRequest srvcTypeExecute o.srcOID o.dstOID
    have := hvalue o.len
    simp only [length_append, length_cons, length_nil]
    omega
  | execRsp o =>
    simp only [setGenericObject, setExecuteRspObj, copyPayload_of_ne_zero] at hset
    refine exists_front hset rfl ?_
    have := hheader srvcResponse srvcTypeExecute o.srcOID o.dstOID
    have := hvalue o.len
    simp only [length_append, length_cons, length_nil]
    omega
  | tunnelReq o =>
    simp only [setGenericObject, setTunnelReqObj] at hset
    refine exists_front hset rfl ?_
    have := hheader srvcRequest srvcTypeExecute o.srcOID o.dstOID
    have := hvalue o.len
    rw [length_append]
    omega
  | tunnelRsp o =>
    simp only [setGenericObject, setTunnelRspObj, copyPayload_of_ne_zero] at hset
    refine exists_front hset rfl ?_
    have := hheader srvcResponse srvcTypeExecute o.srcOID o.dstOID
    have := hvalue o.len
    simp only [length_append, length_cons, length_nil]
    omega
  | publish o =>
    simp only [setGenericObject, setPublishObj] at hset
    refine exists_front hset rfl ?_
    have hversion : (if o.nativePublish ≠ 0 then [o.contentVersion] else []).length ≤ 1 := by
      split_ifs <;> simp
    have := hheader srvcResponse srvcTypePublish o.pubOID o.subOID
    have := hvalue o.size
    simp only [length_append, length_cons, length_nil]
    omega
  | alertRep o =>
    simp only [setGenericObject, setAlertRepObj, copyPayload_of_ne_zero] at hset
    refine exists_front hset rfl ?_
    have := hheader srvcRequest srvcTypeAlertRep o.srcOID o.dstOID
    have := hvalue o.alertInfo.size
    simp only [length_append, length_cons, length_nil]
    omega
  | alertAck o =>
    simp only [setGenericObject, setAlertAckObj] at hset
    refine exists_front hset (append_nil _).symm ?_
    have := hheader srvcRequest srvcTypeAlertAck o.srcOID o.dstOID
    simp only [length_append, length_cons, length_nil]
    omega

theorem length_lt_of_setGenericObject (hrange : obj.InRange)
    (hset : setGenericObject obj outBufLen = some bytes) : bytes.length < 65536 := by
  obtain ⟨front, hbytes, hfront⟩ := setGenericObject_eq_append hrange hset
  have hlen : obj.payload.2.toNat ≤ 0x7FFF := hrange.payload.len_le
  rw [hbytes, length_append, length_copyPayload hrange.payload.length_eq]
  omega

/-! ## Comparing a sent and a received object -/

structure PayloadIs (mem : Nat → UInt8) (data : BufPtr) (len : UInt16) (payload : Payload) :
    Prop where
  length_eq : payload.length = len.toNat
  bytes : ∀ i (h : i < payload.length), ∃ offset : Nat, data + i = offset ∧ mem offset = payload[i]

def SameAttr (sent received : AttrIdtf) : Prop :=
  received.attrID = sent.attrID ∧ received.index1 = sent.index1 ∧ received.index2 = sent.index2

def SameCarriedAttr (sent received : AttrIdtf) : Prop :=
  received.attrID = sent.attrID ∧ (sent.attrFormat ≠ attrNoIndex → received.index1 = sent.index1) ∧
    (sent.attrFormat = attrTwoIndex → received.index2 = sent.index2)

def SameAlert (sent received : Alert) : Prop :=
  received = { sent with nextSendTAI := received.nextSendTAI }

/-- Equal fields and payload, field by field. Attributes are compared by `sameAttr`, and the value of a read response where `hasValue` holds. -/
def SameFields (sameAttr : AttrIdtf → AttrIdtf → Prop) (hasValue : ReadRspSrvc Payload → Prop)
    (mem : Nat → UInt8) : GenericAslSrvc Payload → GenericAslSrvc BufPtr → Prop
  | .readReq o, .readReq r =>
    r.srcOID = o.srcOID ∧ r.dstOID = o.dstOID ∧ r.reqID = o.reqID ∧ sameAttr o.attrIdtf r.attrIdtf
  | .readRsp o, .readRsp r =>
    r.srcOID = o.srcOID ∧ r.dstOID = o.dstOID ∧ r.reqID = o.reqID ∧ r.fecce = o.fecce &&& 0x01 ∧ r.sfc = o.sfc ∧
      (hasValue o → r.len = o.len ∧ PayloadIs mem r.rspData r.len o.rspData)
  | .writeReq o, .writeReq r =>
    r.srcOID = o.srcOID ∧ r.dstOID = o.dstOID ∧ r.reqID = o.reqID ∧
      sameAttr o.attrIdtf r.attrIdtf ∧ r.len = o.len ∧ PayloadIs mem r.reqData r.len o.reqData
  | .writeRsp o, .writeRsp r =>
    r.srcOID = o.srcOID ∧ r.dstOID = o.dstOID ∧ r.reqID = o.reqID ∧ r.fecce = o.fecce &&& 0x01 ∧ r.sfc = o.sfc
  | .execReq o, .execReq r =>
    r.srcOID = o.srcOID ∧ r.dstOID = o.dstOID ∧ r.reqID = o.reqID ∧ r.methID = o.methID ∧
      r.len = o.len ∧ PayloadIs mem r.reqData r.len o.reqData
  | .execRsp o, .execRsp r =>
    r.srcOID = o.srcOID ∧ r.dstOID = o.dstOID ∧ r.reqID = o.reqID ∧ r.fecce = o.fecce &&& 0x01 ∧ r.sfc = o.sfc ∧
      r.len = o.len ∧ PayloadIs mem r.rspData r.len o.rspData
  | .tunnelReq o, .tunnelReq r =>
    r.srcOID = o.srcOID ∧ r.dstOID = o.dstOID ∧ r.len = o.len ∧ PayloadIs mem r.reqData r.len o.reqData
  | .tunnelRsp o, .tunnelRsp r =>
    r.srcOID = o.srcOID ∧ r.dstOID = o.dstOID ∧ r.fecce = o.fecce &&& 0x01 ∧
      r.len = o.len ∧ PayloadIs mem r.rspData r.len o.rspData
  | .publish o, .publish r =>
    r.pubOID = o.pubOID ∧ r.subOID = o.subOID ∧ r.nativePublish = o.nativePublish ∧
      (o.nativePublish ≠ 0 → r.contentVersion = o.contentVersion) ∧ r.freqSeqNo = o.freqSeqNo ∧
      r.size = o.size ∧ PayloadIs mem r.data r.size o.data
  | .alertRep o, .alertRep r =>
    r.srcOID = o.srcOID ∧ r.dstOID = o.dstOID ∧ SameAlert o.alertInfo r.alertInfo ∧
      PayloadIs mem r.alertValue r.alertInfo.size o.alertValue
  | .alertAck o, .alertAck r =>
    r.srcOID = o.srcOID ∧ r.dstOID = o.dstOID ∧ r.alertID = o.alertID
  | _, _ => False

abbrev SameObject := SameFields SameAttr (fun _ => True)

abbrev SameCarried := SameFields SameCarriedAttr (fun o => o.sfc = sfcSuccess)

/-- Parsing exactly the bytes the encoder wrote consumes all of them and returns an object of the same service that `same` relates to the sent one. -/
def RoundTrips (same : (Nat → UInt8) → GenericAslSrvc Payload → GenericAslSrvc BufPtr → Prop)
    (obj : GenericAslSrvc Payload) (outBufLen : UInt16) (nativePublish : UInt8) (old : SrvcUnion) : Prop :=
  ∀ bytes, setGenericObject obj outBufLen = some bytes → ∀ mem, Holds mem 0 bytes →
    ∃ obj', (getGenericObject nativePublish (.ofNat bytes.length) old mem .start).1 = some obj' ∧
      (getGenericObject nativePublish (.ofNat bytes.length) old mem .start).2.pos = bytes.length ∧
      obj'.type = obj.type ∧ same mem obj obj'

theorem SameCarriedAttr.carriedInto (attr old : AttrIdtf) : SameCarriedAttr attr (attr.carriedInto old) := by
  refine ⟨rfl, ?_, ?_⟩
  · intro hformat
    exact if_neg hformat
  · intro hformat
    exact if_pos hformat

theorem payloadIs_of_holds {front data : Payload} {len : UInt16} (hdata : SizedData data len)
    (hholds : Holds mem 0 (front ++ copyPayload data len)) :
    PayloadIs mem (((front ++ copyPayload data len).length - len.toNat : Nat) : BufPtr) len
      data := by
  have hpos : (front ++ copyPayload data len).length - len.toNat = front.length := by
    rw [length_append, length_copyPayload hdata.length_eq]
    omega
  have hbytes := holds_copyPayload hdata.length_eq hholds
  rw [hpos]
  refine ⟨hdata.length_eq, ?_⟩
  intro i hi
  refine ⟨front.length + i, rfl, ?_⟩
  rw [← hbytes i hi, Nat.zero_add]

theorem payloadIs_empty {data : Payload} {len : UInt16} (ptr : BufPtr) (hdata : SizedData data len)
    (hlen : len = 0) : PayloadIs mem ptr len data := by
  refine ⟨hdata.length_eq, ?_⟩
  intro i hi
  rw [hdata.length_eq, hlen] at hi
  exact absurd hi (Nat.not_lt_zero i)

theorem received_type (obj : GenericAslSrvc Payload) (total : Nat) (old : SrvcUnion) :
    (obj.received total old).type = obj.type := by
  cases obj with
  | readRsp o =>
    simp only [received]
    split_ifs <;> rfl
  | _ => rfl

theorem sameCarried_received {old : SrvcUnion} (hsrvc : ¬ obj.IsTunnelOrPublish)
    (hrange : obj.InRange) (hset : setGenericObject obj outBufLen = some bytes)
    (hholds : Holds mem 0 bytes) : SameCarried mem obj (obj.received bytes.length old) := by
  obtain ⟨front, rfl, -⟩ := setGenericObject_eq_append hrange hset
  have hpayload := payloadIs_of_holds hrange.payload hholds
  cases obj with
  | readReq o => exact ⟨rfl, rfl, rfl, SameCarriedAttr.carriedInto _ _⟩
  | readRsp o =>
    by_cases hsfc : o.sfc = sfcSuccess
    · simp only [payload, if_pos hsfc] at hpayload
      simp only [received, payload, if_pos hsfc]
      exact ⟨rfl, rfl, rfl, rfl, rfl, fun _ => ⟨rfl, hpayload⟩⟩
    · simp only [received, if_neg hsfc]
      exact ⟨rfl, rfl, rfl, rfl, rfl, fun h => absurd h hsfc⟩
  | writeReq o => exact ⟨rfl, rfl, rfl, SameCarriedAttr.carriedInto _ _, rfl, hpayload⟩
  | writeRsp o => exact ⟨rfl, rfl, rfl, rfl, rfl⟩
  | execReq o => exact ⟨rfl, rfl, rfl, rfl, rfl, hpayload⟩
  | execRsp o =>
    refine ⟨rfl, rfl, rfl, rfl, rfl, rfl, ?_⟩
    by_cases hlen : o.len = 0
    · exact payloadIs_empty _ hrange.payload hlen
    · simp only [ne_eq, hlen, not_false_eq_true, if_true]
      exact hpayload
  | tunnelReq o => exact absurd trivial hsrvc
  | tunnelRsp o => exact absurd trivial hsrvc
  | publish o => exact absurd trivial hsrvc
  | alertRep o => exact ⟨rfl, rfl, rfl, hpayload⟩
  | alertAck o => exact ⟨rfl, rfl, rfl⟩

/-- **APDU round trip.** A confirmed service or an alert with fields in range comes back with every field that the APDU carries, whatever the receiver's union held before. -/
theorem genericObject_roundTrips {obj : GenericAslSrvc Payload} (hsrvc : ¬ obj.IsTunnelOrPublish)
    (hrange : obj.InRange) (outBufLen : UInt16) (nativePublish : UInt8) (old : SrvcUnion) :
    RoundTrips SameCarried obj outBufLen nativePublish old := by
  intro bytes hset mem hholds
  have hn : (UInt16.ofNat bytes.length).toNat = bytes.length :=
    Nat.mod_eq_of_lt (length_lt_of_setGenericObject hrange hset)
  obtain ⟨hval, hpos⟩ := parses_getGenericObject nativePublish old hsrvc hrange hset hn hholds []
  exact ⟨_, hval, hpos.trans (Nat.zero_add _), received_type _ _ _,
    sameCarried_received hsrvc hrange hset hholds⟩

/-- A write with a twelve-bit attribute, two indexes and full-size object identifiers. -/
theorem genericObject_roundTrips_writeReq :
    let obj : GenericAslSrvc Payload := .writeReq
      { srcOID := 0x10, dstOID := 0x12C, reqID := 7
        attrIdtf := { attrFormat := 2, attrID := 0x123, index1 := 0x7F, index2 := 0x80 }
        len := 2, reqData := [0xAA, 0xBB] }
    (setGenericObject obj 65535).isSome ∧ RoundTrips SameCarried obj 65535 1 .cleared := by
  intro obj
  have hrange : obj.InRange := ⟨⟨by decide, by decide, by decide, by decide⟩, by decide, rfl⟩
  exact ⟨by decide, genericObject_roundTrips id hrange 65535 1 .cleared⟩

def SrvcUnion.afterReadRsp : SrvcUnion :=
  { SrvcUnion.cleared with
    readRsp :=
      { srcOID := 1, dstOID := 2, reqID := 6, fecce := 0, sfc := sfcSuccess, len := 5, rspData := 6 } }

/-- A failed read response comes back with the size of an earlier one. -/
theorem failedReadRsp_not_roundTrips :
    let obj : GenericAslSrvc Payload := .readRsp
      { srcOID := 1, dstOID := 2, reqID := 7, fecce := 0, sfc := sfcFailure, len := 0
        rspData := [] }
    ¬ obj.IsTunnelOrPublish ∧ obj.InRange ∧ ¬ RoundTrips SameObject obj 65535 0 .afterReadRsp := by
  intro obj
  have hsrvc : ¬ obj.IsTunnelOrPublish := id
  have hrange : obj.InRange := ⟨⟨by decide, rfl⟩, fun _ => rfl⟩
  have hset : setGenericObject obj 65535 = some [0x83, 0x12, 7, 0, 1] := rfl
  refine ⟨hsrvc, hrange, ?_⟩
  intro hround
  obtain ⟨obj', hval, -, -, hsame⟩ := hround _ hset _ (holds_ofBytes _)
  have hn : (UInt16.ofNat 5).toNat = 5 := rfl
  have hval' := (parses_getGenericObject 0 .afterReadRsp hsrvc hrange hset hn
    (holds_ofBytes _) []).1
  obtain rfl : obj.received _ .afterReadRsp = obj' := Option.some.inj (hval'.symm.trans hval)
  obtain ⟨-, -, -, -, -, hvalue⟩ := hsame
  exact absurd (hvalue trivial).1 (by decide)

theorem not_roundTrips_of_writtenType (hset : setGenericObject obj outBufLen = some bytes)
    (htype : obj.writtenType ≠ obj.type)
    (same : (Nat → UInt8) → GenericAslSrvc Payload → GenericAslSrvc BufPtr → Prop)
    (nativePublish : UInt8) (old : SrvcUnion) : ¬ RoundTrips same obj outBufLen nativePublish old := by
  intro hround
  obtain ⟨first, rest, hbytes, hfirst⟩ := setGenericObject_head obj hset
  obtain ⟨obj', hval, -, htype', -⟩ := hround bytes hset (ofBytes bytes) (holds_ofBytes bytes)
  unfold getGenericObject at hval
  split_ifs at hval
  have hlead : ofBytes bytes 0 = first := by rw [hbytes]; rfl
  have := getSrvcObj_type hval
  rw [htype'] at this
  apply htype
  rw [this, ← hfirst, ← hlead]
  rfl

theorem GenericAslSrvc.IsTunnelOrPublish.writtenType_ne (h : obj.IsTunnelOrPublish) : obj.writtenType ≠ obj.type := by
  cases obj with
  | tunnelReq o => exact (by decide : srvcRequest <<< 7 ||| srvcTypeExecute ≠ srvcTunnelReq)
  | tunnelRsp o => exact (by decide : srvcResponse <<< 7 ||| srvcTypeExecute ≠ srvcTunnelRsp)
  | publish o => exact (by decide : srvcResponse <<< 7 ||| srvcTypePublish ≠ srvcPublish)
  | _ => exact absurd h id

/-- **No tunnel or publish APDU comes back.** Whatever is encoded, the receiver sees an execute service or no service at all. -/
theorem tunnelOrPublish_not_roundTrips {obj : GenericAslSrvc Payload} (h : obj.IsTunnelOrPublish)
    {outBufLen : UInt16} {bytes : List UInt8} (hset : setGenericObject obj outBufLen = some bytes)
    (nativePublish : UInt8) (old : SrvcUnion) : ¬ RoundTrips SameObject obj outBufLen nativePublish old :=
  not_roundTrips_of_writtenType hset h.writtenType_ne SameObject nativePublish old

theorem tunnelOrPublish_not_roundTrips_publish :
    let obj : GenericAslSrvc Payload := .publish
      { pubOID := 1, subOID := 2, nativePublish := 1, contentVersion := 3, freqSeqNo := 4
        size := 1, data := [0x55] }
    ¬ RoundTrips SameObject obj 65535 1 .cleared := by
  intro obj
  have hsrvc : obj.IsTunnelOrPublish := trivial
  exact tunnelOrPublish_not_roundTrips hsrvc rfl 1 .cleared

/-- A one-byte tunnel request is read as an execute request. -/
theorem tunnelReq_not_roundTrips :
    let obj : GenericAslSrvc Payload :=
      .tunnelReq { srcOID := 1, dstOID := 2, len := 1, reqData := [0xAA] }
    obj.InRange ∧ (setGenericObject obj 65535).isSome ∧
      ¬ RoundTrips SameObject obj 65535 1 .cleared := by
  intro obj
  have hset : setGenericObject obj 65535 = some [0x05, 0x12, 1, 0xAA] := rfl
  exact ⟨⟨by decide, rfl⟩, by decide,
    not_roundTrips_of_writtenType hset (by decide) SameObject 1 .cleared⟩

end Isa100Gateway
