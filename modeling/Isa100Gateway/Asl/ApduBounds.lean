import Isa100Gateway.Asl.Apdu
import Mathlib.Tactic.SplitIfs

/-!
# Bounds of the APDU parsers

What `ASLSRVC_GetGenericObject` dereferences, and where the object it returns points, for a receive buffer with any content. All parsers but two stay inside the buffer whenever they accept: the publish parser has no length check, and a failed read response keeps the size and pointer that the caller's object held.
-/

namespace Isa100Gateway

open ByteScan ByteScan.Scan

variable {mem : Nat → UInt8} {p : Nat}

def GenericAslSrvc.dataSlice : GenericAslSrvc BufPtr → Option (BufPtr × UInt16)
  | .readRsp o => some (o.rspData, o.len)
  | .writeReq o => some (o.reqData, o.len)
  | .execReq o => some (o.reqData, o.len)
  | .execRsp o => some (o.rspData, o.len)
  | .tunnelReq o => some (o.reqData, o.len)
  | .tunnelRsp o => some (o.rspData, o.len)
  | .publish o => some (o.data, o.size)
  | .alertRep o => some (o.alertValue, o.alertInfo.size)
  | .readReq _ | .writeRsp _ | .alertAck _ => none

/-- Every byte of the slice lies in the first `n` bytes of the buffer. -/
def SliceInside (n : UInt16) (slice : BufPtr × UInt16) : Prop :=
  ∀ i < slice.2.toNat, 0 ≤ slice.1 + i ∧ slice.1 + i < n.toNat

theorem sliceInside_of_le {n len : UInt16} {data : Nat} (h : data + len.toNat ≤ n.toNat) :
    SliceInside n ((data : BufPtr), len) := by
  intro i hi
  have hi' : i < len.toNat := hi
  constructor
  · show (0 : Int) ≤ data + i
    omega
  · show (data + i : Int) < n.toNat
    omega

def headerLen (first : UInt8) : Nat :=
  let oidMode := (first &&& objAddressingTypeMask) >>> 5
  if oidMode = oidCompact then 2 else if oidMode = oidMidSize then 3
  else if oidMode = oidFullSize then 5 else 1

theorem headerLen_pos (first : UInt8) : 0 < headerLen first := by
  unfold headerLen
  dsimp only
  split_ifs <;> decide

theorem headerLen_le (first : UInt8) : headerLen first ≤ 5 := by
  unfold headerLen
  dsimp only
  split_ifs <;> decide

theorem reads_extractAPDUHeader (srcOID dstOID : UInt16) :
    Reads mem p (extractAPDUHeader srcOID dstOID) (fun _ q => q = p + headerLen (mem p)) := by
  unfold extractAPDUHeader headerLen
  refine reads_next_bind ?_
  dsimp only
  split_ifs
  · exact reads_next_bind (reads_pure rfl)
  · exact reads_next_bind (reads_next_bind (reads_pure rfl))
  · exact reads_next_bind (reads_next_bind (reads_next_bind (reads_next_bind (reads_pure rfl))))
  · exact reads_pure rfl

theorem reads_extractExtensibleValue : Reads mem p extractExtensibleValue
      (fun value q => value.toNat ≤ 0x7FFF ∧ p < q ∧ q ≤ p + 2) := by
  unfold extractExtensibleValue
  refine reads_peekAt_bind ?_
  split_ifs
  · refine reads_next_bind (reads_pure ?_)
    have hbyte := (mem p).toNat_lt
    rw [UInt8.toNat_toUInt16]
    omega
  · refine reads_next_bind (reads_next_bind (reads_pure ?_))
    refine ⟨by omega, ?_, by omega, by omega⟩
    rw [UInt16.toNat_and]
    exact Nat.and_le_right

private theorem reads_index {α : Type} (f : UInt16 → α) :
    Reads mem p (extractExtensibleValue >>= fun index => pure (f index))
      (fun _ q => p < q ∧ q ≤ p + 2) := by
  refine reads_bind reads_extractExtensibleValue ?_
  rintro index q ⟨-, hlt, hle⟩ -
  exact reads_pure ⟨hlt, hle⟩

private theorem reads_twoIndexes {α : Type} (f : UInt16 → UInt16 → α) :
    Reads mem p (extractExtensibleValue >>= fun index1 =>
      extractExtensibleValue >>= fun index2 => pure (f index1 index2))
      (fun _ q => p < q ∧ q ≤ p + 4) := by
  refine reads_bind reads_extractExtensibleValue ?_
  rintro index1 q ⟨-, hlt, hle⟩ -
  refine (reads_index (f index1)).mono ?_
  rintro _ q' - ⟨hlt', hle'⟩
  exact ⟨by omega, by omega⟩

theorem reads_extractAID (attr : AttrIdtf) : Reads mem p (extractAID attr) (fun _ q => p < q ∧ q ≤ p + 6) := by
  unfold extractAID
  refine reads_peekAt_bind ?_
  dsimp only
  split_ifs
  · exact reads_next_bind (reads_pure ⟨by omega, by omega, by omega⟩)
  · refine reads_next_bind ((reads_index _).mono ?_)
    rintro _ q - ⟨hlt, hle⟩
    exact ⟨by omega, by omega, by omega⟩
  · refine reads_next_bind ((reads_twoIndexes _).mono ?_)
    rintro _ q - ⟨hlt, hle⟩
    exact ⟨by omega, by omega, by omega⟩
  · refine reads_next_bind (reads_next_bind ?_)
    split_ifs
    · exact reads_pure ⟨by omega, by omega, by omega⟩
    · refine (reads_index _).mono ?_
      rintro _ q - ⟨hlt, hle⟩
      exact ⟨by omega, by omega, by omega⟩
    · refine (reads_twoIndexes _).mono ?_
      rintro _ q - ⟨hlt, hle⟩
      exact ⟨by omega, by omega, by omega⟩
    · exact reads_pure ⟨by omega, by omega, by omega⟩

/-! ## The services -/

section Services

variable {α : Type} {n : UInt16}

/-- An accepted parse ends inside the buffer, and the slice of its object lies there too. -/
def Within (n : UInt16) (slice : α → Option (BufPtr × UInt16)) (result : Option α) (q : Nat) : Prop :=
  ∀ obj, result = some obj → 0 < q ∧ q ≤ n.toNat ∧ ∀ s ∈ slice obj, SliceInside n s

variable {slice : α → Option (BufPtr × UInt16)}

theorem reads_checkDataLen {obj : α} (hpos : 0 < p)
    (hlt : p < 65536) (hslice : p ≤ n.toNat → ∀ s ∈ slice obj, SliceInside n s) :
    Reads mem p (checkDataLen 0 n obj) (Within n slice) := by
  unfold checkDataLen
  refine reads_here_bind (reads_pure ?_)
  intro obj' hobj'
  rw [Nat.sub_zero, Nat.mod_eq_of_lt hlt] at hobj'
  split_ifs at hobj' with hle
  cases hobj'
  exact ⟨hpos, hle, hslice hle⟩

theorem Within.none {q : Nat} : Within n slice none q := by
  intro obj hobj
  cases hobj

theorem reads_sizedData {obj : UInt16 → BufPtr → α}
    (hslice : ∀ len data, slice (obj len data) = some (data, len)) (hlt : p < 32000) :
    Reads mem p (do
        let len ← extractExtensibleValue
        let data ← here
        skip len.toNat
        checkDataLen 0 n (obj len data)) (Within n slice) := by
  refine reads_bind reads_extractExtensibleValue ?_
  rintro len q ⟨hlen, hq, hq'⟩ -
  refine reads_here_bind (reads_skip_bind ?_)
  refine reads_checkDataLen (by omega) (by omega) ?_
  intro hle s hs
  rw [hslice] at hs
  cases hs
  exact sliceInside_of_le hle

theorem reads_header {β : Type} {k : Nat → UInt16 × UInt16 → Scan β} {Q : β → Nat → Prop} {srcOID dstOID : UInt16}
    (h : ∀ src dst, headerLen (mem 0) ≤ 5 → Reads mem (0 + headerLen (mem 0)) (k 0 (src, dst)) Q) :
    Reads mem 0 (do
        let dataStart ← here
        let oids ← extractAPDUHeader srcOID dstOID
        k dataStart oids) Q := by
  refine reads_here_bind (reads_bind (reads_extractAPDUHeader _ _) ?_)
  rintro ⟨src, dst⟩ _ rfl -
  exact h src dst (headerLen_le (mem 0))

theorem reads_getReadReqObj (old : ReadReqSrvc) : Reads mem 0 (getReadReqObj n old) (Within n fun _ => none) := by
  unfold getReadReqObj
  refine reads_header fun src dst hheader => ?_
  refine reads_next_bind (reads_bind (reads_extractAID _) ?_)
  rintro attr q ⟨hlt, hle⟩ -
  exact reads_checkDataLen (by omega) (by omega) (by simp)

theorem reads_getWriteReqObj (old : WriteReqSrvc BufPtr) :
    Reads mem 0 (getWriteReqObj n old) (Within n fun o => some (o.reqData, o.len)) := by
  unfold getWriteReqObj
  refine reads_header fun src dst hheader => ?_
  refine reads_next_bind (reads_bind (reads_extractAID _) ?_)
  rintro attr q ⟨hlt, hle⟩ -
  exact reads_sizedData (fun _ _ => rfl) (by omega)

theorem reads_getWriteRspObj (old : WriteRspSrvc) : Reads mem 0 (getWriteRspObj n old) (Within n fun _ => none) := by
  unfold getWriteRspObj
  refine reads_header fun src dst hheader => ?_
  refine reads_next_bind (reads_next_bind (reads_next_bind ?_))
  exact reads_checkDataLen (by omega) (by omega) (by simp)

theorem reads_getExecuteReqObj (old : ExecReqSrvc BufPtr) :
    Reads mem 0 (getExecuteReqObj n old) (Within n fun o => some (o.reqData, o.len)) := by
  unfold getExecuteReqObj
  refine reads_header fun src dst hheader => ?_
  refine reads_next_bind (reads_next_bind ?_)
  exact reads_sizedData (fun _ _ => rfl) (by omega)

theorem reads_getTunnelReqObj (old : TunnelReqSrvc BufPtr) :
    Reads mem 0 (getTunnelReqObj n old) (Within n fun o => some (o.reqData, o.len)) := by
  unfold getTunnelReqObj
  refine reads_header fun src dst hheader => ?_
  exact reads_sizedData (fun _ _ => rfl) (by omega)

theorem reads_getAlertRepObj (old : AlertRepSrvc BufPtr) : Reads mem 0 (getAlertRepObj n old)
      (Within n fun o => some (o.alertValue, o.alertInfo.size)) := by
  unfold getAlertRepObj
  refine reads_header fun src dst hheader => ?_
  refine reads_next_bind (reads_next_bind (reads_next_bind (reads_next_bind (reads_next_bind
    (reads_next_bind (reads_next_bind (reads_next_bind (reads_next_bind (reads_next_bind
    (reads_next_bind (reads_next_bind (reads_next_bind ?_))))))))))))
  exact reads_sizedData (fun _ _ => rfl) (by omega)

theorem reads_getAlertAckObj (old : AlertAckSrvc) : Reads mem 0 (getAlertAckObj n old) (Within n fun _ => none) := by
  unfold getAlertAckObj
  refine reads_header fun src dst hheader => ?_
  refine reads_next_bind ?_
  exact reads_checkDataLen (by omega) (by omega) (by simp)

theorem reads_extractRspParams (data : BufPtr) : Reads mem p (extractRspParams data) (fun params q =>
      p < q ∧ q ≤ p + 2 + 0x7FFF ∧ (q ≤ n.toNat → SliceInside n (params.2, params.1))) := by
  unfold extractRspParams
  refine reads_bind reads_extractExtensibleValue ?_
  rintro len q ⟨hlen, hq, hq'⟩ -
  split_ifs with hzero
  · refine reads_here_bind (reads_skip_bind (reads_pure ?_))
    exact ⟨by omega, by omega, sliceInside_of_le⟩
  · refine reads_pure ⟨hq, by omega, ?_⟩
    intro _ i hi
    rw [not_not.mp hzero] at hi
    exact absurd hi (Nat.not_lt_zero i)

theorem reads_getExecuteRspObj (old : ExecRspSrvc BufPtr) :
    Reads mem 0 (getExecuteRspObj n old) (Within n fun o => some (o.rspData, o.len)) := by
  unfold getExecuteRspObj
  refine reads_header fun src dst hheader => ?_
  refine reads_next_bind (reads_next_bind (reads_next_bind ?_))
  refine reads_bind (reads_extractRspParams (n := n) old.rspData) ?_
  rintro ⟨len, data⟩ q ⟨hlt, hle, hslice⟩ -
  refine reads_checkDataLen (by omega) (by omega) ?_
  intro hq s hs
  cases hs
  exact hslice hq

theorem reads_getTunnelRspObj (old : TunnelRspSrvc BufPtr) :
    Reads mem 0 (getTunnelRspObj n old) (Within n fun o => some (o.rspData, o.len)) := by
  unfold getTunnelRspObj
  refine reads_header fun src dst hheader => ?_
  refine reads_next_bind ?_
  refine reads_bind (reads_extractRspParams (n := n) old.rspData) ?_
  rintro ⟨len, data⟩ q ⟨hlt, hle, hslice⟩ -
  refine reads_checkDataLen (by omega) (by omega) ?_
  intro hq s hs
  cases hs
  exact hslice hq

def rspSFC (mem : Nat → UInt8) : UInt8 := mem (headerLen (mem 0) + 2)

theorem reads_getReadRspObj (old : ReadRspSrvc BufPtr) : Reads mem 0 (getReadRspObj n old) (fun result q =>
      if rspSFC mem = sfcSuccess then Within n (fun o => some (o.rspData, o.len)) result q
      else Within n (fun _ => none) result q ∧ (∀ o, result = some o → (o.rspData, o.len) = (old.rspData, old.len)) ∧
        (result.isSome ↔ headerLen (mem 0) + 3 ≤ n.toNat)) := by
  unfold getReadRspObj
  refine reads_header fun src dst hheader => ?_
  refine reads_next_bind (reads_next_bind (reads_next_bind ?_))
  have hsfc : mem (0 + headerLen (mem 0) + 1 + 1) = rspSFC mem := by
    unfold rspSFC
    congr 1
    omega
  rw [hsfc]
  by_cases hsuccess : rspSFC mem = sfcSuccess
  · simp only [hsuccess, if_true]
    exact reads_sizedData (fun _ _ => rfl) (by omega)
  · simp only [if_neg hsuccess, if_neg (Ne.symm hsuccess)]
    unfold checkDataLen
    refine reads_here_bind (reads_pure ?_)
    have hmod : (0 + headerLen (mem 0) + 1 + 1 + 1 - 0) % 65536 = headerLen (mem 0) + 3 := by
      omega
    rw [hmod]
    refine ⟨?_, ?_, ?_⟩
    · intro o ho
      split_ifs at ho with hle
      exact ⟨by omega, by omega, by simp⟩
    · intro o ho
      split_ifs at ho
      cases ho
      rfl
    · split_ifs with hle
      · exact iff_of_true rfl hle
      · exact iff_of_false Bool.false_ne_true hle

def publishLen (nativePublish first : UInt8) : Nat :=
  headerLen first + if nativePublish ≠ 0 then 2 else 1

theorem reads_getPublishObj {nativePublish : UInt8} (old : PublishSrvc BufPtr)
    (hlen : publishLen nativePublish (mem 0) ≤ n.toNat) :
    Reads mem 0 (getPublishObj nativePublish n old) (Within n fun o => some (o.data, o.size)) := by
  have hheader := headerLen_pos (mem 0)
  have hn := n.toNat_lt
  have hle : headerLen (mem 0) ≤ n.toNat := by
    unfold publishLen at hlen
    omega
  have hslice : SliceInside n
      (((0 + headerLen (mem 0) : Nat) : BufPtr), n - UInt16.ofNat (0 + headerLen (mem 0) - 0)) := by
    apply sliceInside_of_le
    have hsize : (UInt16.ofNat (0 + headerLen (mem 0) - 0)).toNat = headerLen (mem 0) := by
      rw [UInt16.toNat_ofNat']
      omega
    rw [UInt16.toNat_sub_of_le _ _ (by rw [UInt16.le_iff_toNat_le, hsize]; exact hle), hsize]
    omega
  have hwithin : ∀ o : PublishSrvc BufPtr,
      (o.data, o.size) = (((0 + headerLen (mem 0) : Nat) : BufPtr),
        n - UInt16.ofNat (0 + headerLen (mem 0) - 0)) →
      Within n (fun o => some (o.data, o.size)) (some o) (0 + n.toNat) := by
    intro o ho o' ho'
    cases ho'
    refine ⟨by omega, by omega, ?_⟩
    intro s hs
    cases hs
    rw [ho]
    exact hslice
  unfold getPublishObj publishLen at *
  refine reads_here_bind (reads_bind (reads_extractAPDUHeader _ _) ?_)
  rintro ⟨src, dst⟩ _ rfl -
  apply reads_here_bind
  split_ifs at hlen ⊢ with hnative
  · refine reads_next_bind (reads_next_bind (reads_seek_bind (by omega) (reads_pure ?_)))
    exact hwithin _ rfl
  · refine reads_next_bind (reads_seek_bind (by omega) (reads_pure ?_))
    exact hwithin _ rfl

theorem getPublishObj_reads (nativePublish : UInt8) (old : PublishSrvc BufPtr) (reads : List Nat) :
    ((getPublishObj nativePublish n old) mem ⟨0, reads⟩).1.isSome ∧ publishLen nativePublish (mem 0) - 1 ∈
        ((getPublishObj nativePublish n old) mem ⟨0, reads⟩).2.reads := by
  have hheader : Reads mem 0 _ _ := reads_extractAPDUHeader old.pubOID old.subOID
  obtain ⟨hpos, -, -⟩ := hheader reads
  unfold getPublishObj publishLen
  simp only [bind_apply, here, hpos]
  by_cases hnative : nativePublish ≠ 0
  · rw [if_pos hnative, if_pos hnative]
    simp [bind_apply, next, seek, pure_apply, hpos]
  · rw [if_neg hnative, if_neg hnative]
    simp [bind_apply, next, seek, pure_apply, hpos]

end Services

/-- A non-`NULL` result ends in `(start, start + n]`, was read from the first `n` bytes only, and its slice lies in them. -/
def ParserSound (mem : Nat → UInt8) (nativePublish : UInt8) (n : UInt16) (old : SrvcUnion) : Prop :=
  ∀ obj, (getGenericObject nativePublish n old mem .start).1 = some obj →
    0 < (getGenericObject nativePublish n old mem .start).2.pos ∧
      (getGenericObject nativePublish n old mem .start).2.pos ≤ n.toNat ∧
      (∀ i ∈ (getGenericObject nativePublish n old mem .start).2.reads, i < n.toNat) ∧
      ∀ s ∈ obj.dataSlice, SliceInside n s

def PublishReached (mem : Nat → UInt8) (nativePublish : UInt8) (n : UInt16) : Prop :=
  mem 0 &&& 0x9F = srvcPublish → publishLen nativePublish (mem 0) ≤ n.toNat

/-- Before a failed read response with all its fields, the caller's object points inside the buffer. -/
def StaleValueInside (mem : Nat → UInt8) (n : UInt16) (old : SrvcUnion) : Prop :=
  mem 0 &&& 0x9F = srvcReadRsp → rspSFC mem ≠ sfcSuccess → headerLen (mem 0) + 3 ≤ n.toNat →
    SliceInside n (old.readRsp.rspData, old.readRsp.len)

theorem reads_map {α β : Type} {m : Scan α} {P : α → Nat → Prop} {Q : β → Nat → Prop} {f : α → β}
    (hm : Reads mem p m P) (hPQ : ∀ a q, P a q → Q (f a) q) : Reads mem p (f <$> m) Q := by
  apply reads_bind hm
  intro a q hP _
  exact reads_pure (hPQ a q hP)

variable {n : UInt16}

theorem Within.map {α : Type} {slice : α → Option (BufPtr × UInt16)}
    {f : α → GenericAslSrvc BufPtr} (hf : ∀ o, (f o).dataSlice = slice o) (result : Option α)
    (q : Nat) (h : Within n slice result q) : Within n GenericAslSrvc.dataSlice (result.map f) q := by
  intro obj hobj
  obtain ⟨o, rfl, rfl⟩ := Option.map_eq_some_iff.mp hobj
  rw [hf]
  exact h o rfl

theorem reads_ite {α : Type} {c : Prop} [Decidable c] {m m' : Scan α} {Q : α → Nat → Prop}
    (hpos : c → Reads mem p m Q) (hneg : ¬c → Reads mem p m' Q) : Reads mem p (if c then m else m') Q := by
  split
  · exact hpos ‹c›
  · exact hneg ‹¬c›

variable {nativePublish : UInt8}

theorem reads_getSrvcObj {old : SrvcUnion}
    (hpublish : PublishReached mem nativePublish n) (hstale : StaleValueInside mem n old) :
    Reads mem 0 (getSrvcObj nativePublish (mem 0 &&& 0x9F) n old)
      (Within n GenericAslSrvc.dataSlice) := by
  unfold getSrvcObj
  refine reads_ite (fun hReadRsp => ?_) fun _ => ?_
  · apply reads_map (reads_getReadRspObj old.readRsp)
    intro result q hread
    split_ifs at hread with hsfc
    · exact Within.map (fun _ => rfl) result q hread
    obtain ⟨hwithin, hfields, haccept⟩ := hread
    apply Within.map (f := GenericAslSrvc.readRsp) (fun _ => rfl)
    intro o ho
    obtain ⟨hpos, hle, -⟩ := hwithin o ho
    refine ⟨hpos, hle, ?_⟩
    intro s hs
    cases hs
    rw [hfields o ho]
    exact hstale hReadRsp hsfc (haccept.mp (by rw [ho]; rfl))
  refine reads_ite (fun _ => reads_map (reads_getWriteRspObj old.writeRsp) (Within.map fun _ => rfl)) fun _ => ?_
  refine reads_ite (fun _ => reads_map (reads_getExecuteRspObj old.execRsp) (Within.map fun _ => rfl)) fun _ => ?_
  refine reads_ite (fun _ => reads_map (reads_getTunnelRspObj old.tunnelRsp) (Within.map fun _ => rfl)) fun _ => ?_
  refine reads_ite (fun _ => reads_map (reads_getReadReqObj old.readReq) (Within.map fun _ => rfl)) fun _ => ?_
  refine reads_ite (fun _ => reads_map (reads_getWriteReqObj old.writeReq) (Within.map fun _ => rfl)) fun _ => ?_
  refine reads_ite (fun _ => reads_map (reads_getExecuteReqObj old.execReq) (Within.map fun _ => rfl)) fun _ => ?_
  refine reads_ite (fun _ => reads_map (reads_getTunnelReqObj old.tunnelReq) (Within.map fun _ => rfl)) fun _ => ?_
  refine reads_ite (fun h => reads_map (reads_getPublishObj old.publish (hpublish h))
    (Within.map fun _ => rfl)) fun _ => ?_
  refine reads_ite (fun _ => reads_map (reads_getAlertRepObj old.alertRep) (Within.map fun _ => rfl)) fun _ => ?_
  refine reads_ite (fun _ => reads_map (reads_getAlertAckObj old.alertAck) (Within.map fun _ => rfl)) fun _ => ?_
  exact reads_pure Within.none

theorem getGenericObject_of_ne_zero {old : SrvcUnion} (hn : n ≠ 0) : getGenericObject nativePublish n old mem .start =
      getSrvcObj nativePublish (mem 0 &&& 0x9F) n old mem ⟨0, [0]⟩ := by
  unfold getGenericObject
  rw [if_neg hn]
  rfl

/-- **Bounds of the parser.** On a buffer of `n ≥ 1` bytes the parser is sound exactly when a publish APDU is long enough to hold its sequence number, and a failed read response meets a caller's object that already points inside the buffer. -/
theorem parserSound_iff {nativePublish : UInt8} {n : UInt16} {old : SrvcUnion} (hn : n ≠ 0) :
    ParserSound mem nativePublish n old ↔
      PublishReached mem nativePublish n ∧ StaleValueInside mem n old := by
  have hpos : 0 < n.toNat := Nat.pos_of_ne_zero fun h => hn (UInt16.toNat_inj.mp h)
  unfold ParserSound
  rw [getGenericObject_of_ne_zero hn]
  constructor
  · intro hsound
    constructor
    · intro htype
      rw [htype] at hsound
      obtain ⟨hsome, hread⟩ := getPublishObj_reads nativePublish old.publish [0]
      obtain ⟨o, ho⟩ := Option.isSome_iff_exists.mp hsome
      have hobj : (getSrvcObj nativePublish srvcPublish n old mem ⟨0, [0]⟩).1 =
          some (.publish o) := by
        show Option.map GenericAslSrvc.publish _ = _
        rw [ho]
        rfl
      obtain ⟨-, -, hreads, -⟩ := hsound _ hobj
      have := hreads _ hread
      omega
    · intro htype hsfc hlen
      rw [htype] at hsound
      have hrsp : Reads mem 0 (getReadRspObj n old.readRsp) _ := reads_getReadRspObj old.readRsp
      obtain ⟨hread, -, -⟩ := hrsp [0]
      rw [if_neg hsfc] at hread
      obtain ⟨-, hfields, haccept⟩ := hread
      obtain ⟨o, ho⟩ := Option.isSome_iff_exists.mp (haccept.mpr hlen)
      have hobj : (getSrvcObj nativePublish srvcReadRsp n old mem ⟨0, [0]⟩).1 =
          some (.readRsp o) := by
        show Option.map GenericAslSrvc.readRsp _ = _
        rw [ho]
        rfl
      obtain ⟨-, -, -, hslice⟩ := hsound _ hobj
      rw [← hfields o ho]
      exact hslice _ rfl
  · rintro ⟨hpublish, hstale⟩ obj hobj
    obtain ⟨hwithin, -, hreads⟩ := reads_getSrvcObj hpublish hstale [0]
    obtain ⟨hend, hle, hslice⟩ := hwithin obj hobj
    refine ⟨hend, hle, ?_, hslice⟩
    intro i hi
    rcases hreads i hi with hfirst | hlt
    · rw [List.mem_singleton.mp hfirst]
      exact hpos
    · exact lt_of_lt_of_le hlt hle

/-- A write request of seven bytes, two of them data. -/
theorem parserSound_iff_writeReq : ParserSound (ofBytes [0x04, 0x12, 7, 0x05, 2, 0xAA, 0xBB]) 1 7 .cleared :=
  (parserSound_iff (by decide)).mpr
    ⟨fun h => absurd h (by decide), fun h => absurd h (by decide)⟩

/-- A two-byte native publish APDU: the header only. The parser accepts it and reads two bytes behind it. -/
theorem shortPublish_not_parserSound : ¬ ParserSound (ofBytes [0x00, 0x12]) 1 2 .cleared := by
  intro hsound
  obtain ⟨-, -, hreads, -⟩ := hsound _ rfl
  exact absurd (hreads 3 (by decide)) (by decide)

end Isa100Gateway
