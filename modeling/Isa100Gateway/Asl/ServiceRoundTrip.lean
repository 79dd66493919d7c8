import Isa100Gateway.Asl.ApduRoundTrip

/-!
# Round trips of the ASL services

For every confirmed service and alert, the parser applied to the bytes of the encoder returns the object `GenericAslSrvc.received`: the fields that are sent, and the caller's previous content for the fields that are not.
-/

namespace Isa100Gateway

open ByteScan ByteScan.Scan Bytes List

variable {mem : Nat → UInt8} {p : Nat} {bytes : List UInt8} {len : UInt16} {data : Payload}

theorem parses_map {α β : Type} {m : Scan α} {a : α} (f : α → β)
    (h : Parses mem p m bytes a) : Parses mem p (f <$> m) bytes (f a) := by
  rw [← append_nil bytes]
  exact parses_bind h (parses_pure (f a))

theorem parses_checkDataLen {α : Type} {dataStart : Nat} {dataLen : UInt16} {obj obj' : α}
    (hobj : obj = obj') (h : p - dataStart ≤ dataLen.toNat) :
    Parses mem p (checkDataLen dataStart dataLen obj) [] (some obj') := by
  unfold checkDataLen
  subst hobj
  refine parses_bind_nil parses_here ?_
  rw [if_pos (le_trans (Nat.mod_le _ _) h)]
  exact parses_pure _

theorem length_copyPayload (hdata : data.length = len.toNat) : (copyPayload data len).length = len.toNat := by
  unfold copyPayload
  rw [length_take, hdata, min_self]

theorem copyPayload_of_ne_zero (data : Payload) (len : UInt16) :
    (if len ≠ 0 then copyPayload data len else []) = copyPayload data len := by
  by_cases hlen : len = 0
  · rw [if_neg (not_not.mpr hlen), hlen]
    rfl
  · rw [if_pos hlen]

theorem parses_sizedData {α : Type} {k : UInt16 → Nat → Scan α}
    {b : α} (hlen : len ≤ 0x7FFF) (hdata : data.length = len.toNat)
    (hk : Parses mem (p + (insertExtensibleValue len).length + len.toNat)
      (k len (p + (insertExtensibleValue len).length)) [] b) :
    Parses mem p (do
        let len ← extractExtensibleValue
        let data ← here
        skip len.toNat
        k len data)
      (insertExtensibleValue len ++ copyPayload data len) b := by
  refine parses_bind (parses_extractExtensibleValue len hlen) ?_
  refine parses_bind_nil parses_here ?_
  rw [← append_nil (copyPayload data len)]
  refine parses_bind (parses_skip _ _ (length_copyPayload hdata)) ?_
  rwa [length_copyPayload hdata]

theorem holds_copyPayload {pre data : Payload} (hdata : data.length = len.toNat)
    (h : Holds mem p (pre ++ copyPayload data len)) : Holds mem (p + pre.length) data := by
  have hcopy : copyPayload data len = data := by
    unfold copyPayload
    rw [← hdata, take_length]
  rw [hcopy] at h
  exact h.right

theorem parses_extractRspParams (old : BufPtr) (hlen : len ≤ 0x7FFF) (hdata : data.length = len.toNat) :
    Parses mem p (extractRspParams old) (insertExtensibleValue len ++ copyPayload data len)
      (len, if len ≠ 0 then ((p + (insertExtensibleValue len).length : Nat) : BufPtr) else old) := by
  unfold extractRspParams
  refine parses_bind (parses_extractExtensibleValue len hlen) ?_
  by_cases hzero : len ≠ 0
  · rw [if_pos hzero, if_pos hzero]
    refine parses_bind_nil parses_here ?_
    rw [← append_nil (copyPayload data len)]
    exact parses_bind (parses_skip _ _ (length_copyPayload hdata)) (parses_pure _)
  · rw [if_neg hzero, if_neg hzero, ← copyPayload_of_ne_zero, if_neg hzero]
    exact parses_pure _

section Services

variable (mem p) {n : UInt16} {outBufLen : UInt16} {bytes : List UInt8}

theorem parses_getReadReqObj (o old : ReadReqSrvc) (hrange : o.attrIdtf.InRange)
    (hset : setReadReqObj o outBufLen = some bytes) (hn : n.toNat = bytes.length) :
    Parses mem p (getReadReqObj n old) bytes
      (some { o with attrIdtf := o.attrIdtf.carriedInto old.attrIdtf }) := by
  obtain ⟨aid, haid, -, hparse⟩ := parses_extractAID o.attrIdtf hrange
  unfold setReadReqObj at hset
  rw [haid] at hset
  obtain ⟨-, rfl⟩ : _ ∧ _ := by simpa using hset
  unfold getReadReqObj
  refine parses_bind_nil parses_here ?_
  refine parses_bind (parses_extractAPDUHeader _ _ (by decide) o.srcOID o.dstOID _ _) ?_
  refine parses_next_bind ?_
  rw [← append_nil aid]
  refine parses_bind (hparse _ _ _) ?_
  refine parses_checkDataLen rfl ?_
  simp only [length_append, length_cons] at hn
  omega

theorem parses_getReadRspObj (o : ReadRspSrvc Payload) (old : ReadRspSrvc BufPtr)
    (hsfc : o.sfc = sfcSuccess) (hlen : o.len ≤ 0x7FFF) (hdata : o.rspData.length = o.len.toNat)
    (hset : setReadRspObj o outBufLen = some bytes) (hn : n.toNat = bytes.length) :
    Parses mem p (getReadRspObj n old) bytes
      (some { o with
        fecce := o.fecce &&& 0x01
        rspData := ((p + (bytes.length - o.len.toNat) : Nat) : BufPtr) }) := by
  unfold setReadRspObj ReadRspSrvc.dropFailedLen at hset
  obtain ⟨-, rfl⟩ : _ ∧ _ := by simpa [hsfc] using hset
  simp only [length_append, length_cons, length_copyPayload hdata] at hn ⊢
  unfold getReadRspObj
  refine parses_bind_nil parses_here ?_
  refine parses_bind (parses_extractAPDUHeader _ _ (by decide) o.srcOID o.dstOID _ _) ?_
  refine parses_next_bind (parses_next_bind (parses_next_bind ?_))
  rw [if_pos rfl]
  refine parses_sizedData hlen hdata ?_
  refine parses_checkDataLen ?_ (by omega)
  simp only [hsfc, ReadRspSrvc.mk.injEq, true_and]
  congr 1
  omega

theorem parses_getReadRspObj_failed (o : ReadRspSrvc Payload) (old : ReadRspSrvc BufPtr) (hsfc : o.sfc ≠ sfcSuccess)
    (hset : setReadRspObj o outBufLen = some bytes) (hn : n.toNat = bytes.length) :
    Parses mem p (getReadRspObj n old) bytes
      (some { o with fecce := o.fecce &&& 0x01, len := old.len, rspData := old.rspData }) := by
  unfold setReadRspObj ReadRspSrvc.dropFailedLen at hset
  obtain ⟨-, rfl⟩ : _ ∧ _ := by simpa [hsfc, hsfc.symm] using hset
  simp only [length_append, length_cons, length_nil] at hn
  unfold getReadRspObj
  refine parses_bind_nil parses_here ?_
  refine parses_bind (parses_extractAPDUHeader _ _ (by decide) o.srcOID o.dstOID _ _) ?_
  refine parses_next_bind (parses_next_bind (parses_next_bind ?_))
  rw [if_neg hsfc.symm]
  exact parses_checkDataLen rfl (by omega)

theorem parses_getWriteReqObj (o : WriteReqSrvc Payload) (old : WriteReqSrvc BufPtr)
    (hrange : o.attrIdtf.InRange) (hlen : o.len ≤ 0x7FFF) (hdata : o.reqData.length = o.len.toNat)
    (hset : setWriteReqObj o outBufLen = some bytes) (hn : n.toNat = bytes.length) :
    Parses mem p (getWriteReqObj n old) bytes
      (some { o with
        attrIdtf := o.attrIdtf.carriedInto old.attrIdtf
        reqData := ((p + (bytes.length - o.len.toNat) : Nat) : BufPtr) }) := by
  obtain ⟨aid, haid, -, hparse⟩ := parses_extractAID o.attrIdtf hrange
  unfold setWriteReqObj at hset
  rw [haid] at hset
  obtain ⟨-, rfl⟩ : _ ∧ _ := by simpa using hset
  simp only [length_append, length_cons, length_copyPayload hdata] at hn ⊢
  unfold getWriteReqObj
  refine parses_bind_nil parses_here ?_
  refine parses_bind (parses_extractAPDUHeader _ _ (by decide) o.srcOID o.dstOID _ _) ?_
  refine parses_next_bind ?_
  refine parses_bind (hparse _ _ _) ?_
  refine parses_sizedData hlen hdata ?_
  refine parses_checkDataLen ?_ (by omega)
  simp only [WriteReqSrvc.mk.injEq, true_and]
  congr 1
  omega

theorem parses_getWriteRspObj (o old : WriteRspSrvc)
    (hset : setWriteRspObj o outBufLen = some bytes) (hn : n.toNat = bytes.length) :
    Parses mem p (getWriteRspObj n old) bytes (some { o with fecce := o.fecce &&& 0x01 }) := by
  unfold setWriteRspObj at hset
  obtain ⟨-, rfl⟩ : _ ∧ _ := by simpa using hset
  simp only [length_append, length_cons, length_nil] at hn
  unfold getWriteRspObj
  refine parses_bind_nil parses_here ?_
  refine parses_bind (parses_extractAPDUHeader _ _ (by decide) o.srcOID o.dstOID _ _) ?_
  refine parses_next_bind (parses_next_bind (parses_next_bind ?_))
  exact parses_checkDataLen rfl (by omega)

theorem parses_getExecuteReqObj (o : ExecReqSrvc Payload) (old : ExecReqSrvc BufPtr)
    (hlen : o.len ≤ 0x7FFF) (hdata : o.reqData.length = o.len.toNat)
    (hset : setExecuteReqObj o outBufLen = some bytes) (hn : n.toNat = bytes.length) :
    Parses mem p (getExecuteReqObj n old) bytes
      (some { o with reqData := ((p + (bytes.length - o.len.toNat) : Nat) : BufPtr) }) := by
  unfold setExecuteReqObj at hset
  obtain ⟨-, rfl⟩ : _ ∧ _ := by simpa using hset
  simp only [length_append, length_cons, length_copyPayload hdata] at hn ⊢
  unfold getExecuteReqObj
  refine parses_bind_nil parses_here ?_
  refine parses_bind (parses_extractAPDUHeader _ _ (by decide) o.srcOID o.dstOID _ _) ?_
  refine parses_next_bind (parses_next_bind ?_)
  refine parses_sizedData hlen hdata ?_
  refine parses_checkDataLen ?_ (by omega)
  simp only [ExecReqSrvc.mk.injEq, true_and]
  congr 1
  omega

theorem parses_getExecuteRspObj (o : ExecRspSrvc Payload) (old : ExecRspSrvc BufPtr)
    (hlen : o.len ≤ 0x7FFF) (hdata : o.rspData.length = o.len.toNat)
    (hset : setExecuteRspObj o outBufLen = some bytes) (hn : n.toNat = bytes.length) :
    Parses mem p (getExecuteRspObj n old) bytes
      (some { o with
        fecce := o.fecce &&& 0x01
        rspData := if o.len ≠ 0 then ((p + (bytes.length - o.len.toNat) : Nat) : BufPtr)
          else old.rspData }) := by
  unfold setExecuteRspObj at hset
  rw [copyPayload_of_ne_zero] at hset
  obtain ⟨-, rfl⟩ : _ ∧ _ := by simpa using hset
  simp only [length_append, length_cons, length_copyPayload hdata] at hn ⊢
  unfold getExecuteRspObj
  refine parses_bind_nil parses_here ?_
  refine parses_bind (parses_extractAPDUHeader _ _ (by decide) o.srcOID o.dstOID _ _) ?_
  refine parses_next_bind (parses_next_bind (parses_next_bind ?_))
  rw [← append_nil (_ ++ copyPayload _ _)]
  refine parses_bind (parses_extractRspParams old.rspData hlen hdata) ?_
  refine parses_checkDataLen ?_ ?_
  · simp only [ExecRspSrvc.mk.injEq, true_and]
    refine if_congr Iff.rfl ?_ rfl
    congr 1
    omega
  · rw [length_append, length_copyPayload hdata]
    omega

private theorem alertFlags_parts (info : Alert) (hclass : info.alertClass < 2)
    (hdirection : info.direction < 2) (hcategory : info.category < 4) (hpriority : info.priority < 16) :
    (alertFlags info &&& maskAlertClass) >>> rotAlertClass = info.alertClass ∧
      (alertFlags info &&& maskAlarmDirection) >>> rotAlarmDirection = info.direction ∧
      (alertFlags info &&& maskAlertCategory) >>> rotAlertCategory = info.category ∧
      (alertFlags info &&& maskAlertPriority) >>> rotAlertPriority = info.priority := by
  have hall : ∀ c < 2, ∀ d < 2, ∀ k < 4, ∀ q < 16,
      let info : Alert := ⟨0, 0, 0, 0, 0, 0, .ofNat c, .ofNat d, .ofNat k, 0, .ofNat q, 0⟩
      (alertFlags info &&& maskAlertClass) >>> rotAlertClass = info.alertClass ∧
        (alertFlags info &&& maskAlarmDirection) >>> rotAlarmDirection = info.direction ∧
        (alertFlags info &&& maskAlertCategory) >>> rotAlertCategory = info.category ∧
        (alertFlags info &&& maskAlertPriority) >>> rotAlertPriority = info.priority := by
    decide +kernel
  have := hall info.alertClass.toNat hclass info.direction.toNat hdirection
    info.category.toNat hcategory info.priority.toNat hpriority
  simpa only [alertFlags, UInt8.ofNat_toNat] using this

/-- The parts of an alert in range: one bit of class and direction, two of category, four of priority. -/
structure Alert.InRange (info : Alert) : Prop where
  alertClass : info.alertClass < 2
  direction : info.direction < 2
  category : info.category < 4
  priority : info.priority < 16

theorem parses_getAlertRepObj (o : AlertRepSrvc Payload) (old : AlertRepSrvc BufPtr)
    (hrange : o.alertInfo.InRange) (hlen : o.alertInfo.size ≤ 0x7FFF)
    (hdata : o.alertValue.length = o.alertInfo.size.toNat)
    (hset : setAlertRepObj o outBufLen = some bytes) (hn : n.toNat = bytes.length) :
    Parses mem p (getAlertRepObj n old) bytes
      (some { o with
        alertInfo := { o.alertInfo with nextSendTAI := old.alertInfo.nextSendTAI }
        alertValue := ((p + (bytes.length - o.alertInfo.size.toNat) : Nat) : BufPtr) }) := by
  obtain ⟨hclass, hdirection, hcategory, hpriority⟩ := alertFlags_parts o.alertInfo
    hrange.alertClass hrange.direction hrange.category hrange.priority
  unfold setAlertRepObj at hset
  simp only [copyPayload_of_ne_zero] at hset
  obtain ⟨-, rfl⟩ : _ ∧ _ := by simpa using hset
  simp only [length_append, length_cons, length_copyPayload hdata] at hn ⊢
  unfold getAlertRepObj
  refine parses_bind_nil parses_here ?_
  refine parses_bind (parses_extractAPDUHeader _ _ (by decide) o.srcOID o.dstOID _ _) ?_
  refine parses_next_bind (parses_next_bind (parses_next_bind (parses_next_bind
    (parses_next_bind (parses_next_bind (parses_next_bind (parses_next_bind (parses_next_bind
    (parses_next_bind (parses_next_bind (parses_next_bind (parses_next_bind ?_))))))))))))
  refine parses_sizedData hlen hdata ?_
  refine parses_checkDataLen ?_ (by omega)
  simp only [join_split, join_split32, hclass, hdirection, hcategory, hpriority, AlertRepSrvc.mk.injEq, true_and]
  congr 1
  omega

theorem parses_getAlertAckObj (o old : AlertAckSrvc)
    (hset : setAlertAckObj o outBufLen = some bytes) (hn : n.toNat = bytes.length) :
    Parses mem p (getAlertAckObj n old) bytes (some o) := by
  unfold setAlertAckObj at hset
  obtain ⟨-, rfl⟩ : _ ∧ _ := by simpa using hset
  simp only [length_append, length_cons, length_nil] at hn
  unfold getAlertAckObj
  refine parses_bind_nil parses_here ?_
  refine parses_bind (parses_extractAPDUHeader _ _ (by decide) o.srcOID o.dstOID _ _) ?_
  refine parses_next_bind ?_
  exact parses_checkDataLen rfl (by omega)

end Services

/-- The services whose encoder and parser disagree on the type byte. -/
def GenericAslSrvc.IsTunnelOrPublish {ptr : Type} : GenericAslSrvc ptr → Prop
  | .tunnelReq _ | .tunnelRsp _ | .publish _ => True
  | _ => False

structure SizedData (data : Payload) (len : UInt16) : Prop where
  len_le : len ≤ 0x7FFF
  length_eq : data.length = len.toNat

def GenericAslSrvc.InRange : GenericAslSrvc Payload → Prop
  | .readReq o => o.attrIdtf.InRange
  | .readRsp o => SizedData o.rspData o.len ∧ (o.sfc ≠ sfcSuccess → o.len = 0)
  | .writeReq o => o.attrIdtf.InRange ∧ SizedData o.reqData o.len
  | .writeRsp _ => True
  | .execReq o => SizedData o.reqData o.len
  | .execRsp o => SizedData o.rspData o.len
  | .tunnelReq o => SizedData o.reqData o.len
  | .tunnelRsp o => SizedData o.rspData o.len
  | .publish o => SizedData o.data o.size
  | .alertRep o => o.alertInfo.InRange ∧ SizedData o.alertValue o.alertInfo.size
  | .alertAck _ => True

def GenericAslSrvc.received (obj : GenericAslSrvc Payload) (total : Nat) (old : SrvcUnion) : GenericAslSrvc BufPtr :=
  let dataAt (len : UInt16) : BufPtr := ((total - len.toNat : Nat) : BufPtr)
  match obj with
  | .readReq o => .readReq { o with attrIdtf := o.attrIdtf.carriedInto old.readReq.attrIdtf }
  | .readRsp o =>
    if o.sfc = sfcSuccess then
      .readRsp { o with fecce := o.fecce &&& 0x01, rspData := dataAt o.len }
    else
      .readRsp { o with
        fecce := o.fecce &&& 0x01, len := old.readRsp.len, rspData := old.readRsp.rspData }
  | .writeReq o =>
    .writeReq { o with
      attrIdtf := o.attrIdtf.carriedInto old.writeReq.attrIdtf, reqData := dataAt o.len }
  | .writeRsp o => .writeRsp { o with fecce := o.fecce &&& 0x01 }
  | .execReq o => .execReq { o with reqData := dataAt o.len }
  | .execRsp o =>
    .execRsp { o with
      fecce := o.fecce &&& 0x01
      rspData := if o.len ≠ 0 then dataAt o.len else old.execRsp.rspData }
  | .tunnelReq o => .tunnelReq { o with reqData := dataAt o.len }
  | .tunnelRsp o =>
    .tunnelRsp { o with
      fecce := o.fecce &&& 0x01
      rspData := if o.len ≠ 0 then dataAt o.len else old.tunnelRsp.rspData }
  | .publish o => .publish { o with data := dataAt o.size }
  | .alertRep o =>
    .alertRep { o with
      alertInfo := { o.alertInfo with nextSendTAI := old.alertRep.alertInfo.nextSendTAI }
      alertValue := dataAt o.alertInfo.size }
  | .alertAck o => .alertAck o

private theorem header_head {prim type : UInt8} {src dst : UInt16} {rest bytes : List UInt8}
    (hfirst : (prim <<< 7 ||| type) &&& objAddressingTypeMask = 0)
    (hbytes : insertAPDUHeader prim type src dst ++ rest = bytes) : ∃ (first : UInt8) (rest' : List UInt8),
      bytes = first :: rest' ∧ first &&& (0x9F : UInt8) = prim <<< 7 ||| type := by
  obtain ⟨first, tail, hheader, htype⟩ := insertAPDUHeader_type prim type hfirst src dst
  exact ⟨first, tail ++ rest, by rw [← hbytes, hheader]; rfl, htype⟩

/-- The type byte an encoder writes; three of them write the code of another service. -/
def GenericAslSrvc.writtenType {ptr : Type} : GenericAslSrvc ptr → UInt8
  | .tunnelReq _ => srvcRequest <<< 7 ||| srvcTypeExecute
  | .tunnelRsp _ => srvcResponse <<< 7 ||| srvcTypeExecute
  | .publish _ => srvcResponse <<< 7 ||| srvcTypePublish
  | obj => obj.type

theorem setGenericObject_head (obj : GenericAslSrvc Payload)
    {outBufLen : UInt16} (hset : setGenericObject obj outBufLen = some bytes) : ∃ (first : UInt8) (rest : List UInt8),
      bytes = first :: rest ∧ first &&& (0x9F : UInt8) = obj.writtenType := by
  cases obj
  case readReq | writeReq =>
    obtain ⟨-, aid, -, hbytes⟩ : _ ∧ _ := by simpa [setGenericObject, setReadReqObj, setWriteReqObj] using hset
    exact header_head (by decide) hbytes
  all_goals
    obtain ⟨-, hbytes⟩ : _ ∧ _ := by
      simpa [setGenericObject, setReadRspObj, setWriteRspObj, setExecuteReqObj, setExecuteRspObj,
        setTunnelReqObj, setTunnelRspObj,
        setPublishObj, setAlertRepObj, setAlertAckObj] using hset
    exact header_head (by decide) hbytes

theorem parses_getGenericObject_of_srvc {obj : GenericAslSrvc Payload} {nativePublish : UInt8}
    {old : SrvcUnion} {n outBufLen : UInt16} {result : Option (GenericAslSrvc BufPtr)}
    (hset : setGenericObject obj outBufLen = some bytes) (hn : n.toNat = bytes.length)
    (hparse : Parses mem p (getSrvcObj nativePublish obj.writtenType n old) bytes result) :
    Parses mem p (getGenericObject nativePublish n old) bytes result := by
  obtain ⟨first, rest, rfl, htype⟩ := setGenericObject_head obj hset
  have hn' : n ≠ 0 := by
    rintro rfl
    simp at hn
  unfold getGenericObject
  rw [if_neg hn']
  apply parses_peekAt_bind (Nat.succ_pos _)
  rw [getElem_cons_zero, htype]
  exact hparse

end Isa100Gateway
