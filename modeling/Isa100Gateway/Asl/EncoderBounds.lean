import Isa100Gateway.Asl.GenericObject

/-!
# Bounds of the APDU encoders

What the `ASLSRVC_set*Obj` encoders write against the length of the output buffer. Each checks the buffer against a sum of its own before it writes, and for the write request and the native publication that sum is too small.
-/

namespace Isa100Gateway

open GenericAslSrvc List

def oidLen (srcOID dstOID : UInt16) : Nat :=
  if srcOID < 0x000F ∧ dstOID < 0x000F then 2
  else if srcOID < 0x00FF ∧ dstOID < 0x00FF then 3
  else 5

def extensibleLen (value : UInt16) : Nat := if value ≥ 0x80 then 2 else 1

def AttrIdtf.encodedLen (attr : AttrIdtf) : Nat :=
  if attr.attrFormat > attrTwoIndex then 0
  else (if attr.attrID ≤ 0x003F then 1 else 2) +
    (if attr.attrFormat > attrNoIndex then extensibleLen attr.index1 else 0) +
    (if attr.attrFormat = attrTwoIndex then extensibleLen attr.index2 else 0)

/-- The attributes that `ASLSRVC_insertAID` does not refuse. -/
def AttrIdtf.Encodes (attr : AttrIdtf) : Prop :=
  attr.attrID ≤ 0x0FFF ∧ (attr.attrFormat > attrNoIndex → attr.index1 ≤ 0x7FFF) ∧
    (attr.attrFormat = attrTwoIndex → attr.index2 ≤ 0x7FFF)

instance (attr : AttrIdtf) : Decidable attr.Encodes := inferInstanceAs (Decidable (_ ∧ _))

def GenericAslSrvc.encodedLen {ptr : Type} : GenericAslSrvc ptr → Nat
  | .readReq o => oidLen o.srcOID o.dstOID + 1 + o.attrIdtf.encodedLen
  | .readRsp o => oidLen o.srcOID o.dstOID + 3 +
      if o.sfc = sfcSuccess then extensibleLen o.len + o.len.toNat else 0
  | .writeReq o => oidLen o.srcOID o.dstOID + 1 + o.attrIdtf.encodedLen + extensibleLen o.len + o.len.toNat
  | .writeRsp o => oidLen o.srcOID o.dstOID + 3
  | .execReq o => oidLen o.srcOID o.dstOID + 2 + extensibleLen o.len + o.len.toNat
  | .execRsp o => oidLen o.srcOID o.dstOID + 3 + extensibleLen o.len + o.len.toNat
  | .tunnelReq o => oidLen o.srcOID o.dstOID + extensibleLen o.len + o.len.toNat
  | .tunnelRsp o => oidLen o.srcOID o.dstOID + 1 + extensibleLen o.len + o.len.toNat
  | .publish o => oidLen o.pubOID o.subOID + (if o.nativePublish ≠ 0 then 1 else 0) + 1 +
      extensibleLen o.size + o.size.toNat
  | .alertRep o => oidLen o.srcOID o.dstOID + 13 + extensibleLen o.alertInfo.size + o.alertInfo.size.toNat
  | .alertAck o => oidLen o.srcOID o.dstOID + 1

def GenericAslSrvc.checkedLen {ptr : Type} : GenericAslSrvc ptr → Nat
  | .readReq _ => 5 + 1 + 6
  | .readRsp o => 5 + 1 + 1 + 1 + 2 + if o.sfc = sfcSuccess then o.len.toNat else 0
  | .writeReq o => 5 + 1 + 6 + o.len.toNat
  | .writeRsp _ => 5 + 1 + 1 + 1
  | .execReq o => 5 + 1 + 3 + o.len.toNat
  | .execRsp o => 5 + 1 + 1 + 1 + 2 + o.len.toNat
  | .tunnelReq o => 5 + 1 + 3 + o.len.toNat
  | .tunnelRsp o => 5 + 1 + 1 + 1 + 2 + o.len.toNat
  | .publish o => 5 + 1 + 2 + o.size.toNat
  | .alertRep o => 5 + 1 + 2 + 2 + 6 + 1 + 1 + 2 + o.alertInfo.size.toNat
  | .alertAck _ => 5 + 1

def GenericAslSrvc.Encodes {ptr : Type} : GenericAslSrvc ptr → Prop
  | .readReq o => o.attrIdtf.Encodes
  | .writeReq o => o.attrIdtf.Encodes
  | _ => True

def GenericAslSrvc.Pointed (obj : GenericAslSrvc Payload) : Prop :=
  obj.payload.2.toNat ≤ obj.payload.1.length

instance (obj : GenericAslSrvc Payload) : Decidable obj.Pointed := inferInstanceAs (Decidable (_ ≤ _))

theorem length_insertAPDUHeader (prim type : UInt8) (srcOID dstOID : UInt16) :
    (insertAPDUHeader prim type srcOID dstOID).length = oidLen srcOID dstOID := by
  unfold insertAPDUHeader oidLen
  split_ifs <;> rfl

theorem length_insertExtensibleValue (value : UInt16) :
    (insertExtensibleValue value).length = extensibleLen value := by
  unfold insertExtensibleValue extensibleLen
  split_ifs <;> rfl

theorem length_insertAttrID_eq (attrID sixBitMask twelveBitMask : UInt16) :
    (insertAttrID attrID sixBitMask twelveBitMask).length = if attrID ≤ 0x003F then 1 else 2 := by
  unfold insertAttrID
  split_ifs <;> rfl

theorem length_copyPayload_of_le {data : Payload} {len : UInt16} (h : len.toNat ≤ data.length) :
    (copyPayload data len).length = len.toNat := by
  rw [copyPayload, length_take, min_eq_left h]

theorem oidLen_bounds (srcOID dstOID : UInt16) : 2 ≤ oidLen srcOID dstOID ∧ oidLen srcOID dstOID ≤ 5 := by
  unfold oidLen
  split_ifs <;> decide

theorem extensibleLen_bounds (value : UInt16) : 1 ≤ extensibleLen value ∧ extensibleLen value ≤ 2 := by
  unfold extensibleLen
  split_ifs <;> decide

theorem AttrIdtf.encodedLen_le (attr : AttrIdtf) : attr.encodedLen ≤ 6 := by
  have := extensibleLen_bounds attr.index1
  have := extensibleLen_bounds attr.index2
  unfold AttrIdtf.encodedLen
  split_ifs <;> omega

theorem insertAID_of_encodes {attr : AttrIdtf} (h : attr.Encodes) :
    ∃ aid, insertAID attr = some aid ∧ aid.length = attr.encodedLen := by
  obtain ⟨hid, hindex1, hindex2⟩ := h
  have hlong1 : ¬ (attr.attrFormat > attrNoIndex ∧ attr.index1 > 0x7FFF) :=
    fun h => absurd h.2 (UInt16.not_lt.2 (hindex1 h.1))
  have hlong2 : ¬ (attr.attrFormat = attrTwoIndex ∧ attr.index2 > 0x7FFF) :=
    fun h => absurd h.2 (UInt16.not_lt.2 (hindex2 h.1))
  simp only [insertAID, AttrIdtf.encodedLen, not_not.2 hid, if_neg hlong1, if_neg hlong2, if_false]
  by_cases hno : attr.attrFormat = attrNoIndex
  · rw [if_pos hno, hno]
    refine ⟨_, rfl, ?_⟩
    rw [length_insertAttrID_eq]
    rfl
  · rw [if_neg hno]
    by_cases hone : attr.attrFormat = attrOneIndex
    · rw [if_pos hone, hone]
      refine ⟨_, rfl, ?_⟩
      rw [length_append, length_insertAttrID_eq, length_insertExtensibleValue]
      rfl
    · rw [if_neg hone]
      by_cases htwo : attr.attrFormat = attrTwoIndex
      · rw [if_pos htwo, htwo]
        refine ⟨_, rfl, ?_⟩
        rw [length_append, length_append, length_insertAttrID_eq,
          length_insertExtensibleValue, length_insertExtensibleValue]
        rfl
      · have hunknown : attr.attrFormat > attrTwoIndex := by
          have hne0 : attr.attrFormat.toNat ≠ 0 := fun h => hno (UInt8.toNat_inj.1 h)
          have hne1 : attr.attrFormat.toNat ≠ 1 := fun h => hone (UInt8.toNat_inj.1 h)
          have hne2 : attr.attrFormat.toNat ≠ 2 := fun h => htwo (UInt8.toNat_inj.1 h)
          rw [gt_iff_lt, UInt8.lt_iff_toNat_lt]
          change 2 < attr.attrFormat.toNat
          omega
        rw [if_neg htwo, if_pos hunknown]
        exact ⟨_, rfl, rfl⟩

theorem insertAID_eq_none {attr : AttrIdtf} (h : ¬ attr.Encodes) : insertAID attr = none := by
  unfold insertAID
  by_cases hid : ¬ attr.attrID ≤ 0x0FFF
  · rw [if_pos hid]
  rw [if_neg hid]
  by_cases hlong1 : attr.attrFormat > attrNoIndex ∧ attr.index1 > 0x7FFF
  · rw [if_pos hlong1]
  rw [if_neg hlong1]
  by_cases hlong2 : attr.attrFormat = attrTwoIndex ∧ attr.index2 > 0x7FFF
  · rw [if_pos hlong2]
  refine absurd ⟨not_not.1 hid, ?_, ?_⟩ h
  · exact fun hformat => UInt16.not_lt.1 fun hlong => hlong1 ⟨hformat, hlong⟩
  · exact fun hformat => UInt16.not_lt.1 fun hlong => hlong2 ⟨hformat, hlong⟩

section Encoders

variable {obj : GenericAslSrvc Payload} {outBufLen : UInt16}

private theorem written_of_room {full : Prop} [Decidable full] {whole : List UInt8} {len : Nat}
    (hroom : ¬ full) (hlen : whole.length = len) :
    ∃ bytes, (if full then none else some whole) = some bytes ∧ bytes.length = len :=
  ⟨whole, if_neg hroom, hlen⟩

theorem length_setReadRspObj {o : ReadRspSrvc Payload} (hpointed : (readRsp o).Pointed)
    (hfits : (readRsp o).checkedLen ≤ outBufLen.toNat) : ∃ bytes, setReadRspObj o outBufLen = some bytes ∧
      bytes.length = (readRsp o).encodedLen := by
  unfold GenericAslSrvc.Pointed GenericAslSrvc.payload at hpointed
  unfold checkedLen at hfits
  unfold encodedLen
  by_cases hsfc : o.sfc = sfcSuccess
  · simp only [if_pos hsfc] at hpointed hfits ⊢
    simp only [setReadRspObj, ReadRspSrvc.dropFailedLen, hsfc, ne_eq, not_true_eq_false, if_true, if_false]
    refine written_of_room (not_lt.2 hfits) ?_
    simp only [length_append, length_insertAPDUHeader, length_cons, length_nil,
      length_insertExtensibleValue, length_copyPayload_of_le hpointed]
  · simp only [if_neg hsfc] at hfits ⊢
    simp only [setReadRspObj, ReadRspSrvc.dropFailedLen, if_pos (Ne.symm hsfc), if_neg (Ne.symm hsfc)]
    refine written_of_room (not_lt.2 hfits) ?_
    simp only [append_nil, length_append, length_insertAPDUHeader, length_cons, length_nil]

theorem length_of_checked (hpointed : obj.Pointed) (hfits : obj.checkedLen ≤ outBufLen.toNat)
    (hencodes : obj.Encodes) :
    ∃ bytes, setGenericObject obj outBufLen = some bytes ∧ bytes.length = obj.encodedLen := by
  have hroom := not_lt.2 hfits
  cases obj with
  | readReq o =>
    obtain ⟨aid, haid, hlen⟩ := insertAID_of_encodes hencodes
    simp only [setGenericObject, setReadReqObj, haid, Option.map_some]
    refine written_of_room hroom ?_
    simp only [length_append, length_insertAPDUHeader, length_singleton, hlen, encodedLen]
  | readRsp o => exact length_setReadRspObj hpointed hfits
  | writeReq o =>
    have hdata : (copyPayload o.reqData o.len).length = o.len.toNat := length_copyPayload_of_le hpointed
    obtain ⟨aid, haid, hlen⟩ := insertAID_of_encodes hencodes
    simp only [setGenericObject, setWriteReqObj, haid, Option.map_some]
    refine written_of_room hroom ?_
    simp only [length_append, length_insertAPDUHeader, length_singleton, hlen,
      length_insertExtensibleValue, hdata, encodedLen]
  | writeRsp o =>
    refine written_of_room hroom ?_
    simp only [length_append, length_insertAPDUHeader, length_cons, length_nil, encodedLen]
  | execReq o =>
    have hdata : (copyPayload o.reqData o.len).length = o.len.toNat := length_copyPayload_of_le hpointed
    refine written_of_room hroom ?_
    simp only [length_append, length_insertAPDUHeader, length_cons, length_nil,
      length_insertExtensibleValue, hdata, encodedLen]
  | execRsp o =>
    have hdata : (copyPayload o.rspData o.len).length = o.len.toNat := length_copyPayload_of_le hpointed
    simp only [setGenericObject, setExecuteRspObj, copyPayload_of_ne_zero]
    refine written_of_room hroom ?_
    simp only [length_append, length_insertAPDUHeader, length_cons, length_nil,
      length_insertExtensibleValue, hdata, encodedLen]
  | tunnelReq o =>
    have hdata : (copyPayload o.reqData o.len).length = o.len.toNat := length_copyPayload_of_le hpointed
    refine written_of_room hroom ?_
    simp only [length_append, length_insertAPDUHeader, length_insertExtensibleValue, hdata, encodedLen]
  | tunnelRsp o =>
    have hdata : (copyPayload o.rspData o.len).length = o.len.toNat := length_copyPayload_of_le hpointed
    simp only [setGenericObject, setTunnelRspObj, copyPayload_of_ne_zero]
    refine written_of_room hroom ?_
    simp only [length_append, length_insertAPDUHeader, length_cons, length_nil,
      length_insertExtensibleValue, hdata, encodedLen]
  | publish o =>
    have hdata : (copyPayload o.data o.size).length = o.size.toNat := length_copyPayload_of_le hpointed
    have hversion : (if o.nativePublish ≠ 0 then [o.contentVersion] else []).length =
        if o.nativePublish ≠ 0 then 1 else 0 := by
      split_ifs <;> rfl
    refine written_of_room hroom ?_
    simp only [length_append, length_insertAPDUHeader, hversion, length_singleton,
      length_insertExtensibleValue, hdata, encodedLen]
  | alertRep o =>
    have hdata : (copyPayload o.alertValue o.alertInfo.size).length = o.alertInfo.size.toNat :=
      length_copyPayload_of_le hpointed
    simp only [setGenericObject, setAlertRepObj, copyPayload_of_ne_zero]
    refine written_of_room hroom ?_
    simp only [length_append, length_insertAPDUHeader, length_cons, length_nil,
      length_insertExtensibleValue, hdata, encodedLen]
  | alertAck o =>
    refine written_of_room hroom ?_
    simp only [length_append, length_insertAPDUHeader, length_singleton, encodedLen]

theorem refused_of_lt (hshort : outBufLen.toNat < obj.checkedLen) : setGenericObject obj outBufLen = none := by
  cases obj with
  | readRsp o =>
    unfold checkedLen at hshort
    by_cases hsfc : o.sfc = sfcSuccess
    · simp only [if_pos hsfc] at hshort
      simp only [setGenericObject, setReadRspObj, ReadRspSrvc.dropFailedLen, hsfc, ne_eq, not_true_eq_false, if_false]
      exact if_pos hshort
    · simp only [if_neg hsfc] at hshort
      simp only [setGenericObject, setReadRspObj, ReadRspSrvc.dropFailedLen, if_pos (Ne.symm hsfc)]
      exact if_pos hshort
  | _ => exact if_pos hshort

theorem refused_of_not_encodes (h : ¬ obj.Encodes) : setGenericObject obj outBufLen = none := by
  cases obj with
  | readReq o =>
    simp [setGenericObject, setReadReqObj, insertAID_eq_none h]
  | writeReq o =>
    simp [setGenericObject, setWriteReqObj, insertAID_eq_none h]
  | _ => exact absurd trivial h

/-! ## What is written -/

def GenericAslSrvc.beforeAID (obj : GenericAslSrvc Payload) (outBufLen : UInt16) : List UInt8 :=
  match obj with
  | .readReq o =>
    if outBufLen.toNat < 5 + 1 + 6 then []
    else insertAPDUHeader srvcRequest srvcTypeRead o.srcOID o.dstOID ++ [o.reqID]
  | .writeReq o =>
    if outBufLen.toNat < 5 + 1 + 6 + o.len.toNat then []
    else insertAPDUHeader srvcRequest srvcTypeWrite o.srcOID o.dstOID ++ [o.reqID]
  | _ => []

/-- The bytes from the start of the output buffer on that the encoder has written when it returns, with an APDU or with `NULL`. -/
def GenericAslSrvc.written (obj : GenericAslSrvc Payload) (outBufLen : UInt16) : List UInt8 :=
  (setGenericObject obj outBufLen).getD (obj.beforeAID outBufLen)

/-- The encoder writes no byte behind the buffer, and refuses an APDU that does not fit. -/
structure EncoderInBounds (obj : GenericAslSrvc Payload) (outBufLen : UInt16) : Prop where
  written : (obj.written outBufLen).length ≤ outBufLen.toNat
  refused : outBufLen.toNat < obj.encodedLen → setGenericObject obj outBufLen = none

theorem length_beforeAID_le (obj : GenericAslSrvc Payload) (outBufLen : UInt16) :
    (obj.beforeAID outBufLen).length ≤ outBufLen.toNat := by
  cases obj with
  | readReq o =>
    unfold beforeAID
    by_cases hshort : outBufLen.toNat < 5 + 1 + 6
    · simp [hshort]
    · have := oidLen_bounds o.srcOID o.dstOID
      simp only [if_neg hshort, length_append, length_insertAPDUHeader, length_singleton]
      omega
  | writeReq o =>
    unfold beforeAID
    by_cases hshort : outBufLen.toNat < 5 + 1 + 6 + o.len.toNat
    · simp [hshort]
    · have := oidLen_bounds o.srcOID o.dstOID
      simp only [if_neg hshort, length_append, length_insertAPDUHeader, length_singleton]
      omega
  | _ => exact Nat.zero_le _

theorem inBounds_of_refused (h : setGenericObject obj outBufLen = none) : EncoderInBounds obj outBufLen := by
  refine ⟨?_, fun _ => h⟩
  rw [written, h]
  exact length_beforeAID_le obj outBufLen

theorem inBounds_iff (hpointed : obj.Pointed) : EncoderInBounds obj outBufLen ↔
      ¬ (obj.Encodes ∧ obj.checkedLen ≤ outBufLen.toNat ∧ outBufLen.toNat < obj.encodedLen) := by
  constructor
  · rintro ⟨-, hrefused⟩ ⟨hencodes, hfits, hshort⟩
    obtain ⟨bytes, hset, -⟩ := length_of_checked hpointed hfits hencodes
    rw [hrefused hshort] at hset
    cases hset
  · intro hsafe
    by_cases hencodes : obj.Encodes
    · rcases lt_or_ge outBufLen.toNat obj.checkedLen with hrefused | hfits
      · exact inBounds_of_refused (refused_of_lt hrefused)
      · have hroom : obj.encodedLen ≤ outBufLen.toNat := by
          by_contra hshort
          exact hsafe ⟨hencodes, hfits, not_le.1 hshort⟩
        obtain ⟨bytes, hset, hlen⟩ := length_of_checked hpointed hfits hencodes
        constructor
        · rw [written, hset]
          exact hlen.le.trans hroom
        · exact fun hshort => absurd hroom (not_le.2 hshort)
    · exact inBounds_of_refused (refused_of_not_encodes hencodes)

/-- The objects and buffer lengths for which the check passes and the APDU does not fit: a write request with the full header and a long attribute identifier, and a native publication with the full header and a two-byte size. -/
def GenericAslSrvc.Overruns {ptr : Type} (obj : GenericAslSrvc ptr) (outBufLen : UInt16) : Prop :=
  match obj with
  | .writeReq o =>
    ¬ (o.srcOID < 0x00FF ∧ o.dstOID < 0x00FF) ∧ o.attrIdtf.Encodes ∧ 5 + 1 + 6 + o.len.toNat ≤ outBufLen.toNat ∧
      outBufLen.toNat < 5 + 1 + o.attrIdtf.encodedLen + extensibleLen o.len + o.len.toNat
  | .publish o =>
    ¬ (o.pubOID < 0x00FF ∧ o.subOID < 0x00FF) ∧ o.nativePublish ≠ 0 ∧ 0x80 ≤ o.size ∧
      outBufLen.toNat = 5 + 1 + 2 + o.size.toNat
  | _ => False

variable {srcOID dstOID : UInt16}

theorem oidLen_of_full (h : ¬ (srcOID < 0x00FF ∧ dstOID < 0x00FF)) : oidLen srcOID dstOID = 5 := by
  have hcompact : ¬ (srcOID < 0x000F ∧ dstOID < 0x000F) := by
    rintro ⟨hsrc, hdst⟩
    exact h ⟨UInt16.lt_trans hsrc (by decide), UInt16.lt_trans hdst (by decide)⟩
  rw [oidLen, if_neg hcompact, if_neg h]

theorem oidLen_of_short (h : srcOID < 0x00FF ∧ dstOID < 0x00FF) : oidLen srcOID dstOID ≤ 3 := by
  rw [oidLen, if_pos h]
  split_ifs <;> decide

theorem writeReq_overruns_iff {o : WriteReqSrvc Payload} : ((writeReq o).Encodes ∧
        (writeReq o).checkedLen ≤ outBufLen.toNat ∧
        outBufLen.toNat < (writeReq o).encodedLen) ↔
      (writeReq o).Overruns outBufLen := by
  have hattr := o.attrIdtf.encodedLen_le
  have hvalue := extensibleLen_bounds o.len
  simp only [Encodes, checkedLen, encodedLen, Overruns]
  by_cases hshort : o.srcOID < 0x00FF ∧ o.dstOID < 0x00FF
  · have hheader := oidLen_of_short hshort
    constructor
    · rintro ⟨-, hfits, hlong⟩
      omega
    · rintro ⟨hfull, -⟩
      exact absurd hshort hfull
  · rw [oidLen_of_full hshort]
    constructor
    · rintro ⟨hencodes, hfits, hlong⟩
      exact ⟨hshort, hencodes, hfits, hlong⟩
    · rintro ⟨-, hencodes, hfits, hlong⟩
      exact ⟨hencodes, hfits, hlong⟩

theorem publish_overruns_iff {o : PublishSrvc Payload} : ((publish o).Encodes ∧
        (publish o).checkedLen ≤ outBufLen.toNat ∧
        outBufLen.toNat < (publish o).encodedLen) ↔
      (publish o).Overruns outBufLen := by
  have hheader := oidLen_bounds o.pubOID o.subOID
  simp only [Encodes, checkedLen, encodedLen, Overruns, extensibleLen]
  constructor
  · rintro ⟨-, hfits, hlong⟩
    have hnative : o.nativePublish ≠ 0 := by
      intro hnative
      simp only [hnative, ne_eq, not_true_eq_false, if_false] at hlong
      split_ifs at hlong <;> omega
    have hsize : 0x80 ≤ o.size := by
      by_contra hsize
      rw [if_neg hsize, if_pos hnative] at hlong
      omega
    rw [if_pos hsize, if_pos hnative] at hlong
    refine ⟨fun hshort => ?_, hnative, hsize, ?_⟩
    · have := oidLen_of_short hshort
      omega
    · omega
  · rintro ⟨hfull, hnative, hsize, hlen⟩
    rw [oidLen_of_full hfull, if_pos hnative, if_pos hsize]
    exact ⟨trivial, hlen.ge, by omega⟩

/-- Every other encoder checks for at least what it writes. -/
theorem encoderInBounds_iff (hpointed : obj.Pointed) : EncoderInBounds obj outBufLen ↔ ¬ obj.Overruns outBufLen := by
  rw [inBounds_iff hpointed]
  refine not_congr ?_
  cases obj with
  | writeReq o => exact writeReq_overruns_iff
  | publish o => exact publish_overruns_iff
  | readReq o =>
    have hheader := oidLen_bounds o.srcOID o.dstOID
    have hattr := o.attrIdtf.encodedLen_le
    simp only [checkedLen, encodedLen, Overruns, iff_false, not_and]
    omega
  | readRsp o =>
    have hheader := oidLen_bounds o.srcOID o.dstOID
    have hvalue := extensibleLen_bounds o.len
    simp only [checkedLen, encodedLen, Overruns, iff_false, not_and]
    split_ifs <;> omega
  | writeRsp o =>
    have hheader := oidLen_bounds o.srcOID o.dstOID
    simp only [checkedLen, encodedLen, Overruns, iff_false, not_and]
    omega
  | alertRep o =>
    have hheader := oidLen_bounds o.srcOID o.dstOID
    have hvalue := extensibleLen_bounds o.alertInfo.size
    simp only [checkedLen, encodedLen, Overruns, iff_false, not_and]
    omega
  | alertAck o =>
    have hheader := oidLen_bounds o.srcOID o.dstOID
    simp only [checkedLen, encodedLen, Overruns, iff_false, not_and]
    omega
  | _ o =>
    have hheader := oidLen_bounds o.srcOID o.dstOID
    have hvalue := extensibleLen_bounds o.len
    simp only [checkedLen, encodedLen, Overruns, iff_false, not_and]
    omega

end Encoders

def sampleLongWriteReq : GenericAslSrvc Payload :=
  .writeReq ⟨2, 0x100, 7, ⟨attrTwoIndex, 0x40, 0x80, 0x80⟩, 5, [1, 2, 3, 4, 5]⟩

theorem encoderInBounds_iff_sample : EncoderInBounds sampleLongWriteReq 18 ↔ ¬ sampleLongWriteReq.Overruns 18 :=
  encoderInBounds_iff (by decide)

/-- In a buffer of 17 bytes the check passes, and the last payload byte goes behind the buffer. -/
theorem longWriteReq_overruns : ¬ ∀ (obj : GenericAslSrvc Payload) (outBufLen : UInt16), obj.Pointed →
      EncoderInBounds obj outBufLen := by
  intro h
  have hwritten := (h sampleLongWriteReq 17 (by decide)).written
  have hlen : (sampleLongWriteReq.written 17).length = 18 := by decide
  rw [hlen] at hwritten
  exact absurd hwritten (by decide)

end Isa100Gateway
