import Isa100Gateway.Asl.Apdu
import Isa100Gateway.Lib.Bytes

/-!
# Round trips of the APDU elements

What each parser of `aslsrvc.cpp` reads back from the bytes of its encoder: extensible values, the APDU header in every object addressing mode, attribute identifiers in every format, and the services built from them.
-/

namespace Isa100Gateway

open ByteScan ByteScan.Scan Bytes List

variable {mem : Nat → UInt8} {p : Nat}

private theorem shortValue_byte (value : UInt16) (h : value < 0x80) :
    value.toUInt8 &&& 0x80 = 0 ∧ value.toUInt8.toUInt16 = value := by
  have hvalue : value.toNat < 128 := h
  have hclear : ∀ b : UInt8, b.toNat < 128 → b &&& 0x80 = 0 := forall_uint8 (by decide +kernel)
  refine ⟨hclear _ ?_, ?_⟩
  · rw [toNat_split_low]
    omega
  · apply UInt16.toNat_inj.mp
    rw [UInt8.toNat_toUInt16, toNat_split_low]
    omega

private theorem longValue_bytes (value : UInt16) (h : value ≤ 0x7FFF) :
    ((value >>> 8).toUInt8 ||| 0x80) &&& 0x80 ≠ 0 ∧
      (((value >>> 8).toUInt8 ||| 0x80).toUInt16 <<< 8 ||| value.toUInt8.toUInt16) &&& 0x7FFF =
        value := by
  have hvalue : value.toNat ≤ 0x7FFF := h
  have hset : ∀ b : UInt8, (b ||| 0x80) &&& 0x80 ≠ 0 := forall_uint8 (by decide +kernel)
  have hflag : ∀ b : UInt8, b.toNat < 128 → (b ||| 0x80).toNat = b.toNat + 128 :=
    forall_uint8 (by decide +kernel)
  have hhigh := toNat_split_high value
  refine ⟨hset _, ?_⟩
  apply UInt16.toNat_inj.mp
  rw [toNat_and_two_pow_sub_one _ 15 0x7FFF rfl, toNat_join, hflag _ (by omega), hhigh, toNat_split_low]
  omega

theorem parses_extractExtensibleValue (value : UInt16) (hvalue : value ≤ 0x7FFF) :
    Parses mem p extractExtensibleValue (insertExtensibleValue value) value := by
  unfold extractExtensibleValue insertExtensibleValue
  by_cases hlong : value ≥ 0x80
  · obtain ⟨hlead, hjoin⟩ := longValue_bytes value hvalue
    rw [if_pos hlong]
    refine parses_peekAt_bind (by simp) ?_
    simp only [cons_append, nil_append, getElem_cons_zero]
    rw [if_neg hlead]
    refine parses_next_bind (parses_next_bind ?_)
    rw [hjoin]
    exact parses_pure value
  · obtain ⟨hlead, hbyte⟩ := shortValue_byte value (UInt16.not_le.mp hlong)
    rw [if_neg hlong]
    refine parses_peekAt_bind (by simp) ?_
    simp only [nil_append, getElem_cons_zero]
    rw [if_pos hlead]
    refine parses_next_bind ?_
    rw [hbyte]
    exact parses_pure value

private theorem headerByte (first : UInt8) (hfirst : first &&& objAddressingTypeMask = 0) :
    ∀ mode ∈ [oidCompact, oidMidSize, oidFullSize],
      ((first ||| mode <<< 5) &&& objAddressingTypeMask) >>> 5 = mode ∧
        (first ||| mode <<< 5) &&& 0x9F = first := by
  revert first
  exact forall_uint8 (by decide +kernel)

private theorem compactOIDs (src dst : UInt16) (hsrc : src < 0x000F) (hdst : dst < 0x000F) :
    ((src <<< 4 ||| dst).toUInt8 >>> 4).toUInt16 = src ∧
      ((src <<< 4 ||| dst).toUInt8 &&& 0x0F).toUInt16 = dst := by
  have hall : ∀ s < 15, ∀ d < 15,
      ((UInt16.ofNat s <<< 4 ||| UInt16.ofNat d).toUInt8 >>> 4).toUInt16 = UInt16.ofNat s ∧
        ((UInt16.ofNat s <<< 4 ||| UInt16.ofNat d).toUInt8 &&& 0x0F).toUInt16 =
          UInt16.ofNat d := by decide +kernel
  have := hall src.toNat hsrc dst.toNat hdst
  rwa [UInt16.ofNat_toNat, UInt16.ofNat_toNat] at this

private theorem midSizeOID (oid : UInt16) (h : oid < 0x00FF) : oid.toUInt8.toUInt16 = oid := by
  have hoid : oid.toNat < 255 := h
  apply UInt16.toNat_inj.mp
  rw [UInt8.toNat_toUInt16, toNat_split_low]
  omega

theorem parses_extractAPDUHeader (prim type : UInt8)
    (hfirst : (prim <<< 7 ||| type) &&& objAddressingTypeMask = 0) (src dst src' dst' : UInt16) :
    Parses mem p (extractAPDUHeader src' dst') (insertAPDUHeader prim type src dst)
      (src, dst) := by
  have hmode := headerByte _ hfirst
  unfold extractAPDUHeader insertAPDUHeader
  by_cases hcompact : src < 0x000F ∧ dst < 0x000F
  · obtain ⟨hsrc, hdst⟩ := compactOIDs src dst hcompact.1 hcompact.2
    rw [if_pos hcompact]
    refine parses_next_bind ?_
    rw [(hmode oidCompact (by simp)).1, if_pos rfl]
    refine parses_next_bind ?_
    rw [hsrc, hdst]
    exact parses_pure _
  by_cases hmid : src < 0x00FF ∧ dst < 0x00FF
  · rw [if_neg hcompact, if_pos hmid]
    refine parses_next_bind ?_
    rw [(hmode oidMidSize (by simp)).1, if_neg (by decide), if_pos rfl]
    refine parses_next_bind (parses_next_bind ?_)
    rw [midSizeOID src hmid.1, midSizeOID dst hmid.2]
    exact parses_pure _
  · rw [if_neg hcompact, if_neg hmid]
    refine parses_next_bind ?_
    rw [(hmode oidFullSize (by simp)).1, if_neg (by decide), if_neg (by decide), if_pos rfl]
    refine parses_next_bind (parses_next_bind (parses_next_bind (parses_next_bind ?_)))
    rw [join_split, join_split]
    exact parses_pure _

theorem insertAPDUHeader_type (prim type : UInt8)
    (hfirst : (prim <<< 7 ||| type) &&& objAddressingTypeMask = 0) (src dst : UInt16) :
    ∃ (first : UInt8) (rest : List UInt8),
      insertAPDUHeader prim type src dst = first :: rest ∧ first &&& (0x9F : UInt8) = prim <<< 7 ||| type := by
  have hmode := headerByte _ hfirst
  unfold insertAPDUHeader
  by_cases hcompact : src < 0x000F ∧ dst < 0x000F
  · rw [if_pos hcompact]
    exact ⟨_, _, rfl, (hmode oidCompact (by simp)).2⟩
  by_cases hmid : src < 0x00FF ∧ dst < 0x00FF
  · rw [if_neg hcompact, if_pos hmid]
    exact ⟨_, _, rfl, (hmode oidMidSize (by simp)).2⟩
  · rw [if_neg hcompact, if_neg hmid]
    exact ⟨_, _, rfl, (hmode oidFullSize (by simp)).2⟩

theorem length_insertAPDUHeader_le (prim type : UInt8) (src dst : UInt16) :
    (insertAPDUHeader prim type src dst).length ≤ 5 := by
  unfold insertAPDUHeader
  split_ifs <;> simp

theorem length_insertExtensibleValue_le (value : UInt16) : (insertExtensibleValue value).length ≤ 2 := by
  unfold insertExtensibleValue
  split_ifs <;> simp

/-- The ranges `ASLSRVC_insertAID` accepts; both indexes are bounded, also where the format does not send them. -/
structure AttrIdtf.InRange (attr : AttrIdtf) : Prop where
  format : attr.attrFormat ≤ attrTwoIndex
  attrID : attr.attrID ≤ 0x0FFF
  index1 : attr.index1 ≤ 0x7FFF
  index2 : attr.index2 ≤ 0x7FFF

/-- The attribute a parser leaves behind: the format and every index that `attr.attrFormat` does not carry stay as they were in `old`. -/
def AttrIdtf.carriedInto (attr old : AttrIdtf) : AttrIdtf :=
  { attrFormat := old.attrFormat
    attrID := attr.attrID
    index1 := if attr.attrFormat = attrNoIndex then old.index1 else attr.index1
    index2 := if attr.attrFormat = attrTwoIndex then attr.index2 else old.index2 }

private theorem sixBitLead (id : UInt16) (hid : id ≤ 0x003F) (form : UInt8) (mask : UInt16)
    (hform : form < 3) (hmask : mask = form.toUInt16 <<< 6) :
    (id ||| mask).toUInt8 >>> 6 = form ∧ ((id ||| mask).toUInt8 &&& 0x3F).toUInt16 = id := by
  have hall : ∀ n < 64, ∀ f < 3,
      (UInt16.ofNat n ||| (UInt8.ofNat f).toUInt16 <<< 6).toUInt8 >>> 6 = UInt8.ofNat f ∧
        ((UInt16.ofNat n ||| (UInt8.ofNat f).toUInt16 <<< 6).toUInt8 &&& 0x3F).toUInt16 =
          UInt16.ofNat n := by
    decide +kernel
  have hlt : id.toNat < 64 := Nat.lt_succ_of_le hid
  have := hall id.toNat hlt form.toNat hform
  rwa [UInt16.ofNat_toNat, UInt8.ofNat_toNat, ← hmask] at this

private theorem twelveBitLead (id : UInt16) (hid : id ≤ 0x0FFF) (form : UInt8) (mask : UInt16)
    (hform : form < 3) (hmask : mask = (0xC0 : UInt16) ||| form.toUInt16 <<< 4) :
    (id >>> 8 ||| mask).toUInt8 >>> 6 = attrTypeTwelveBitExtended ∧
      ((id >>> 8 ||| mask).toUInt8 &&& 0x30) >>> 4 = form ∧
      ((id >>> 8 ||| mask).toUInt8 &&& 0x0F).toUInt16 <<< 8 ||| id.toUInt8.toUInt16 = id := by
  have hall : ∀ n < 16, ∀ f < 3,
      (UInt16.ofNat n ||| ((0xC0 : UInt16) ||| (UInt8.ofNat f).toUInt16 <<< 4)).toUInt8 >>> 6 =
          attrTypeTwelveBitExtended ∧
        ((UInt16.ofNat n ||| ((0xC0 : UInt16) ||| (UInt8.ofNat f).toUInt16 <<< 4)).toUInt8 &&& 0x30) >>> 4 =
          UInt8.ofNat f ∧
        (UInt16.ofNat n ||| ((0xC0 : UInt16) ||| (UInt8.ofNat f).toUInt16 <<< 4)).toUInt8 &&& 0x0F =
          (UInt16.ofNat n).toUInt8 := by
    decide +kernel
  have hlt : (id >>> 8).toNat < 16 := by
    have hle : id.toNat ≤ 0x0FFF := hid
    have hshift : (id >>> 8).toNat = id.toNat / 256 := by
      simp [Nat.shiftRight_eq_div_pow]
    omega
  obtain ⟨hlead, hoption, hnibble⟩ := hall (id >>> 8).toNat hlt form.toNat hform
  rw [UInt16.ofNat_toNat, UInt8.ofNat_toNat, ← hmask] at hlead hoption hnibble
  refine ⟨hlead, hoption, ?_⟩
  rw [hnibble, join_split]

private theorem attrFormat_cases (format : UInt8) (h : format ≤ attrTwoIndex) :
    format = attrNoIndex ∨ format = attrOneIndex ∨ format = attrTwoIndex := by
  revert format
  exact forall_uint8 (by decide +kernel)

private theorem length_insertAttrID (id six twelve : UInt16) :
    1 ≤ (insertAttrID id six twelve).length ∧ (insertAttrID id six twelve).length ≤ 2 := by
  unfold insertAttrID
  split_ifs <;> simp

private theorem parses_extractAID_noIndex (attr old : AttrIdtf) (hid : attr.attrID ≤ 0x0FFF) :
    Parses mem p (extractAID old) (insertAttrID attr.attrID 0x00 0xC0)
      { old with attrID := attr.attrID } := by
  unfold extractAID insertAttrID
  by_cases hsix : attr.attrID ≤ 0x003F
  · obtain ⟨hlead, hval⟩ := sixBitLead _ hsix attrTypeSixBitNoIndex 0x00 (by decide) rfl
    rw [if_pos hsix]
    refine parses_peekAt_bind (by simp) ?_
    simp only [getElem_cons_zero]
    rw [hlead, if_pos rfl]
    refine parses_next_bind ?_
    rw [hval]
    exact parses_pure _
  · obtain ⟨hlead, hform, hval⟩ := twelveBitLead _ hid twelveBitNoIndex 0xC0 (by decide)
      rfl
    rw [if_neg hsix]
    refine parses_peekAt_bind (by simp) ?_
    simp only [getElem_cons_zero]
    rw [hlead, if_neg (by decide), if_neg (by decide), if_neg (by decide)]
    refine parses_next_bind (parses_next_bind ?_)
    rw [hform, if_pos rfl, hval]
    exact parses_pure _

private theorem parses_extractAID_oneIndex (attr old : AttrIdtf) (hid : attr.attrID ≤ 0x0FFF)
    (hindex1 : attr.index1 ≤ 0x7FFF) :
    Parses mem p (extractAID old)
      (insertAttrID attr.attrID 0x40 0xD0 ++ insertExtensibleValue attr.index1)
      { old with attrID := attr.attrID, index1 := attr.index1 } := by
  unfold extractAID insertAttrID
  by_cases hsix : attr.attrID ≤ 0x003F
  · obtain ⟨hlead, hval⟩ := sixBitLead _ hsix attrTypeSixBitOneDim 0x40 (by decide) rfl
    rw [if_pos hsix]
    refine parses_peekAt_bind (by simp) ?_
    simp only [cons_append, nil_append, getElem_cons_zero]
    rw [hlead, if_neg (by decide), if_pos rfl]
    refine parses_next_bind ?_
    rw [hval, ← append_nil (insertExtensibleValue attr.index1)]
    exact parses_bind (parses_extractExtensibleValue _ hindex1) (parses_pure _)
  · obtain ⟨hlead, hform, hval⟩ := twelveBitLead _ hid twelveBitOneDim 0xD0 (by decide)
      rfl
    rw [if_neg hsix]
    refine parses_peekAt_bind (by simp) ?_
    simp only [cons_append, nil_append, getElem_cons_zero]
    rw [hlead, if_neg (by decide), if_neg (by decide), if_neg (by decide)]
    refine parses_next_bind (parses_next_bind ?_)
    rw [hform, if_neg (by decide), if_pos rfl, hval, ← append_nil (insertExtensibleValue attr.index1)]
    exact parses_bind (parses_extractExtensibleValue _ hindex1) (parses_pure _)

private theorem parses_extractAID_twoIndex (attr old : AttrIdtf) (hid : attr.attrID ≤ 0x0FFF)
    (hindex1 : attr.index1 ≤ 0x7FFF) (hindex2 : attr.index2 ≤ 0x7FFF) :
    Parses mem p (extractAID old)
      (insertAttrID attr.attrID 0x80 0xE0 ++ insertExtensibleValue attr.index1 ++ insertExtensibleValue attr.index2)
      { old with attrID := attr.attrID, index1 := attr.index1, index2 := attr.index2 } := by
  unfold extractAID insertAttrID
  by_cases hsix : attr.attrID ≤ 0x003F
  · obtain ⟨hlead, hval⟩ := sixBitLead _ hsix attrTypeSixBitTwoDim 0x80 (by decide) rfl
    rw [if_pos hsix]
    refine parses_peekAt_bind (by simp) ?_
    simp only [cons_append, nil_append, getElem_cons_zero]
    rw [hlead, if_neg (by decide), if_neg (by decide), if_pos rfl]
    refine parses_next_bind ?_
    rw [hval, ← append_nil (insertExtensibleValue attr.index2)]
    exact parses_bind (parses_extractExtensibleValue _ hindex1)
      (parses_bind (parses_extractExtensibleValue _ hindex2) (parses_pure _))
  · obtain ⟨hlead, hform, hval⟩ := twelveBitLead _ hid twelveBitTwoDim 0xE0 (by decide)
      rfl
    rw [if_neg hsix]
    refine parses_peekAt_bind (by simp) ?_
    simp only [cons_append, nil_append, getElem_cons_zero]
    rw [hlead, if_neg (by decide), if_neg (by decide), if_neg (by decide)]
    refine parses_next_bind (parses_next_bind ?_)
    rw [hform, if_neg (by decide), if_neg (by decide), if_pos rfl, hval,
      ← append_nil (insertExtensibleValue attr.index2)]
    exact parses_bind (parses_extractExtensibleValue _ hindex1)
      (parses_bind (parses_extractExtensibleValue _ hindex2) (parses_pure _))

theorem parses_extractAID (attr : AttrIdtf) (hrange : attr.InRange) :
    ∃ bytes, insertAID attr = some bytes ∧ bytes.length ≤ 6 ∧
      ∀ old mem p, Parses mem p (extractAID old) bytes (attr.carriedInto old) := by
  have hid := hrange.attrID
  have hindex1 : ¬ attr.index1 > 0x7FFF := UInt16.not_lt.mpr hrange.index1
  have hindex2 : ¬ attr.index2 > 0x7FFF := UInt16.not_lt.mpr hrange.index2
  have hlen := fun six twelve => (length_insertAttrID attr.attrID six twelve).2
  have hlen1 := length_insertExtensibleValue_le attr.index1
  have hlen2 := length_insertExtensibleValue_le attr.index2
  unfold insertAID AttrIdtf.carriedInto
  rw [if_neg (not_not.mpr hid), if_neg (fun h => hindex1 h.2), if_neg (fun h => hindex2 h.2)]
  rcases attrFormat_cases _ hrange.format with hformat | hformat | hformat <;> rw [hformat]
  · refine ⟨_, if_pos rfl, ?_, ?_⟩
    · have := hlen 0x00 0xC0
      omega
    · intro old mem p
      exact parses_extractAID_noIndex attr old hid
  · refine ⟨_, (if_neg (by decide)).trans (if_pos rfl), ?_, ?_⟩
    · have := hlen 0x40 0xD0
      rw [length_append]
      omega
    · intro old mem p
      exact parses_extractAID_oneIndex attr old hid hrange.index1
  · refine ⟨_, ((if_neg (by decide)).trans (if_neg (by decide))).trans (if_pos rfl), ?_, ?_⟩
    · have := hlen 0x80 0xE0
      rw [length_append, length_append]
      omega
    · intro old mem p
      exact parses_extractAID_twoIndex attr old hid hrange.index1 hrange.index2

end Isa100Gateway
