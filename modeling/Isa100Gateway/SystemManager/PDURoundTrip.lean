import Isa100Gateway.SystemManager.PDUUtils

/-!
# What is extracted from the messages of the system manager

Every part of a message is read back as it was written, except the second index of an attribute identifier when it has fifteen bits: its high octet is taken from the first index.
-/

namespace Isa100Gateway.PDUUtils

open Stream ExtensibleAttributeIdentifier Bytes ExtensibleAttributeIdentifier List Option

theorem and_0x80_eq_zero_iff (b : UInt8) : b &&& 0x80 = 0 ↔ b.toNat < 128 := by
  revert b
  apply forall_uint8
  decide +kernel

theorem sixBits (id : UInt8) (hid : id.toNat < 64) (type : AttributeType) :
    ((formBits type <<< 6) ||| id) &&& 0xC0 ≠ 0xC0 ∧ ((formBits type <<< 6) ||| id) &&& 0x3F = id ∧
      (((formBits type <<< 6) ||| id) &&& 0xC0) >>> 6 = formBits type := by
  revert hid
  revert id
  apply forall_uint8
  cases type <;> decide +kernel

theorem twelveBits (high : UInt8) (hhigh : high.toNat < 16) (type : AttributeType) :
    let value := (((0x03 : UInt8) <<< 2 ||| formBits type) <<< 4) ||| high
    value &&& 0xC0 = 0xC0 ∧ value &&& 0x0F = high ∧ (value &&& 0xF0) >>> 4 = 0x0C ||| formBits type := by
  revert hhigh
  revert high
  apply forall_uint8
  cases type <;> decide +kernel

def Stored (index : UInt16) : Prop := index.toNat < 128 ∨ 32768 ≤ index.toNat

theorem stored_stored (index : UInt16) (h : index.toNat ≤ 0x7FFF) : Stored (stored index) := by
  rw [stored]
  split
  · right
    rw [UInt16.toNat_or]
    exact Nat.left_le_or
  · next hsmall =>
    left
    have := UInt16.le_iff_toNat_le.mp (UInt16.not_lt.mp hsmall)
    change index.toNat ≤ 127 at this
    omega

variable {index : UInt16} {sourceAPDU : ClientServerPDU}

theorem marshallIndex_short (h : index.toNat < 128) : marshallIndex index = [index.toUInt8] := by
  have hzero : ∀ n < 128, UInt16.ofNat n &&& 0xFF00 = 0 := by decide +kernel
  have hindex := hzero index.toNat h
  rw [UInt16.ofNat_toNat] at hindex
  rw [marshallIndex, if_pos hindex]

theorem marshallIndex_long (h : 32768 ≤ index.toNat) : marshallIndex index = write16 index := by
  have hne : index &&& 0xFF00 ≠ 0 := by
    intro hzero
    have hbit := congrArg (fun value : UInt16 => value.toNat.testBit 15) hzero
    have hlt := index.toNat_lt
    have hset : index.toNat.testBit 15 = true := by
      rw [Nat.testBit_eq_decide_div_mod_eq, decide_eq_true_iff]
      omega
    simp only [UInt16.toNat_and, Nat.testBit_and, hset] at hbit
    exact absurd hbit (by decide)
  rw [marshallIndex, if_neg hne, write16]

theorem toUInt16_toUInt8 (h : index.toNat < 256) : index.toUInt8.toUInt16 = index := by
  apply UInt16.toNat_inj.mp
  rw [UInt8.toNat_toUInt16, UInt16.toNat_toUInt8]
  omega

theorem octets_short (h : index.toNat < 128) : index.toUInt8 &&& 0x80 = 0 := by
  rw [and_0x80_eq_zero_iff, UInt16.toNat_toUInt8]
  omega

theorem octets_long (h : 32768 ≤ index.toNat) : (index >>> 8).toUInt8 &&& 0x80 ≠ 0 := by
  rw [Ne, and_0x80_eq_zero_iff, toNat_split_high]
  omega

theorem decodes_unmarshallIndex (h : Stored index) : Decodes unmarshallIndex (marshallIndex index) index := by
  rcases h with h | h
  · rw [marshallIndex_short h]
    apply decodes_cons
    rw [if_pos (octets_short h), toUInt16_toUInt8 (by omega)]
    exact decodes_pure index
  · rw [marshallIndex_long h]
    apply decodes_cons
    rw [if_neg (octets_long h)]
    apply decodes_cons
    rw [join_split]
    exact decodes_pure index

def readTwoIndex (oneIndex twoIndex : UInt16) : UInt16 :=
  if twoIndex.toNat < 128 then twoIndex else oneIndex <<< 8 ||| twoIndex.toUInt8.toUInt16

variable {oneIndex twoIndex : UInt16}

theorem decodes_unmarshallTwoIndex (h : Stored twoIndex) :
    Decodes (unmarshallTwoIndex oneIndex) (marshallIndex twoIndex) (readTwoIndex oneIndex twoIndex) := by
  rw [readTwoIndex]
  rcases h with h | h
  · rw [marshallIndex_short h, if_pos h]
    apply decodes_cons
    rw [if_pos (octets_short h), toUInt16_toUInt8 (by omega)]
    exact decodes_pure twoIndex
  · rw [marshallIndex_long h, if_neg (by omega)]
    apply decodes_cons
    rw [if_neg (octets_long h)]
    apply decodes_cons
    exact decodes_pure _

theorem readTwoIndex_eq_iff : readTwoIndex oneIndex twoIndex = twoIndex ↔
      twoIndex.toNat < 128 ∨ oneIndex.toUInt8 = (twoIndex >>> 8).toUInt8 := by
  rw [readTwoIndex]
  split
  · next h => exact ⟨fun _ => .inl h, fun _ => rfl⟩
  · next h =>
    have hshift : oneIndex <<< 8 = oneIndex.toUInt8.toUInt16 <<< 8 := by
      apply UInt16.toNat_inj.mp
      simp [Nat.shiftLeft_eq]
      omega
    rw [hshift, ← UInt16.toNat_inj, toNat_join, ← UInt8.toNat_inj (b := (twoIndex >>> 8).toUInt8),
      toNat_split_high, toNat_split_low oneIndex, toNat_split_low twoIndex]
    omega

inductive Built : ExtensibleAttributeIdentifier → Prop
  | new : Built .new
  | ofID (attributeID : UInt16) : Built (.ofID attributeID)
  | ofOneIndex (attributeID oneIndex : UInt16) (hone : oneIndex.toNat ≤ 0x7FFF) :
    Built (.ofOneIndex attributeID oneIndex)
  | ofTwoIndices (attributeID oneIndex twoIndex : UInt16) (hone : oneIndex.toNat ≤ 0x7FFF)
    (htwo : twoIndex.toNat ≤ 0x7FFF) : Built (.ofTwoIndices attributeID oneIndex twoIndex)

/-- The second index is short, or its high octet is the low octet of the first index. -/
def CarriesTwoIndex (a : ExtensibleAttributeIdentifier) : Prop :=
  a.attributeType = .doublyIndexed → a.twoIndex.toNat < 128 ∨ a.oneIndex.toUInt8 = (a.twoIndex >>> 8).toUInt8

variable {a : ExtensibleAttributeIdentifier}

theorem toNat_and_0x0FFF (attributeID : UInt16) : (attributeID &&& 0x0FFF).toNat < 4096 := by
  rw [toNat_and_two_pow_sub_one attributeID 12 0x0FFF (by decide)]
  omega

theorem Built.attributeID (h : Built a) : a.attributeID.toNat < 4096 := by
  cases h with
  | new => decide
  | ofID attributeID => exact toNat_and_0x0FFF attributeID
  | ofOneIndex attributeID => exact toNat_and_0x0FFF attributeID
  | ofTwoIndices attributeID => exact toNat_and_0x0FFF attributeID

def FormOf (type : AttributeType) (form : UInt8) : Prop :=
  (form &&& 0x01 ≠ 0 ↔ type = .singlyIndexed) ∧ (form &&& 0x02 ≠ 0 ↔ type = .doublyIndexed) ∧
    (form &&& 0x03 ≠ 0 ↔ type ≠ .notIndexed)

theorem formOf_formBits (type : AttributeType) :
    FormOf type (formBits type) ∧ FormOf type (0x0C ||| formBits type) := by
  cases type <;> simp only [FormOf, formBits] <;> decide

theorem marshallID_cases (h : a.attributeID.toNat < 4096) :
    (∃ value, a.marshallID = [value] ∧ value &&& 0xC0 ≠ 0xC0 ∧ (value &&& 0x3F).toUInt16 = a.attributeID ∧
      FormOf a.attributeType ((value &&& 0xC0) >>> 6)) ∨
    ∃ value low, a.marshallID = [value, low] ∧ value &&& 0xC0 = 0xC0 ∧
      (value &&& 0x0F).toUInt16 <<< 8 ||| low.toUInt16 = a.attributeID ∧
        FormOf a.attributeType ((value &&& 0xF0) >>> 4) := by
  have hshift : (a.attributeID >>> 6).toNat = a.attributeID.toNat / 64 := by
    simp [Nat.shiftRight_eq_div_pow]
  obtain ⟨hform, hform'⟩ := formOf_formBits a.attributeType
  rw [marshallID]
  split
  · next hzero =>
    have hlow : a.attributeID.toNat / 64 = 0 := hshift.symm.trans (congrArg UInt16.toNat hzero)
    obtain ⟨hsix, hid, htype⟩ := sixBits a.attributeID.toUInt8 (by rw [UInt16.toNat_toUInt8]; omega) a.attributeType
    refine .inl ⟨_, rfl, hsix, ?_, by rw [htype]; exact hform⟩
    rw [hid, toUInt16_toUInt8 (by omega)]
  · obtain ⟨htwelve, hid, htype⟩ := twelveBits (a.attributeID >>> 8).toUInt8
      (by rw [toNat_split_high]; omega) a.attributeType
    refine .inr ⟨_, _, rfl, htwelve, ?_, by rw [htype]; exact hform'⟩
    rw [hid, join_split]

theorem decodes_unmarshallID (h : a.attributeID.toNat < 4096) :
    ∃ form, Decodes unmarshallID a.marshallID (a.attributeID, form) ∧ FormOf a.attributeType form := by
  rcases marshallID_cases h with ⟨value, hbytes, hsix, hid, hform⟩ | ⟨value, low, hbytes, htwelve, hid, hform⟩
  · refine ⟨_, ?_, hform⟩
    rw [hbytes]
    apply decodes_cons
    rw [if_pos hsix, hid]
    exact decodes_pure _
  · refine ⟨_, ?_, hform⟩
    rw [hbytes]
    apply decodes_cons
    rw [if_neg (not_not.mpr htwelve)]
    apply decodes_cons
    rw [hid]
    exact decodes_pure _

def readBack (a : ExtensibleAttributeIdentifier) : ExtensibleAttributeIdentifier :=
  { a with twoIndex := if a.attributeType = .doublyIndexed then readTwoIndex a.oneIndex a.twoIndex else a.twoIndex }

theorem decodes_unmarshall (h : Built a) : Decodes (new.unmarshall) a.marshall
      (readBack a) := by
  obtain ⟨form, hID, hone, htwo, -⟩ := decodes_unmarshallID h.attributeID
  rw [marshall]
  apply hID.bind
  dsimp only
  cases h with
  | new =>
    rw [if_neg (mt hone.mp nofun), if_neg (mt htwo.mp nofun)]
    exact decodes_pure _
  | ofID attributeID =>
    rw [if_neg (mt hone.mp nofun), if_neg (mt htwo.mp nofun)]
    exact decodes_pure _
  | ofOneIndex attributeID oneIndex hindex =>
    rw [if_pos (hone.mpr rfl)]
    exact (decodes_unmarshallIndex (stored_stored oneIndex hindex)).bind_pure
  | ofTwoIndices attributeID oneIndex twoIndex hindex hindex' =>
    rw [if_neg (mt hone.mp nofun), if_pos (htwo.mpr rfl)]
    apply (decodes_unmarshallIndex (stored_stored oneIndex hindex)).bind
    exact (decodes_unmarshallTwoIndex (stored_stored twoIndex hindex')).bind_pure

theorem readBack_eq_iff : readBack a = a ↔ CarriesTwoIndex a := by
  rw [readBack]
  by_cases htype : a.attributeType = .doublyIndexed
  · rw [if_pos htype, CarriesTwoIndex, imp_iff_right htype, ← readTwoIndex_eq_iff]
    exact ⟨fun heq => congrArg twoIndex heq, fun heq => by rw [heq]⟩
  · rw [if_neg htype]
    exact ⟨fun _ hdouble => absurd hdouble htype, fun _ => rfl⟩

theorem skipIndex_marshallIndex (h : Stored index) (front rest : List UInt8) :
    skipIndex (front ++ (marshallIndex index ++ rest)) front.length =
      some (front ++ marshallIndex index).length := by
  rcases h with h | h
  · rw [marshallIndex_short h, skipIndex]
    simp [octets_short h]
  · rw [marshallIndex_long h, skipIndex, write16]
    simp [octets_long h]

theorem skipIndices_marshallIndices (h : Built a) {form : UInt8} (hform : FormOf a.attributeType form)
    (front rest : List UInt8) :
    skipIndices form (front ++ (a.marshallIndices ++ rest)) front.length =
      some (front ++ a.marshallIndices).length := by
  obtain ⟨hone, -, hthree⟩ := hform
  rw [skipIndices]
  cases h with
  | new => simp [mt hthree.mp (not_not.mpr rfl), marshallIndices, new]
  | ofID attributeID => simp [mt hthree.mp (not_not.mpr rfl), marshallIndices, ofID]
  | ofOneIndex attributeID oneIndex hindex =>
    rw [if_pos (hthree.mpr nofun), if_pos (hone.mpr rfl)]
    exact skipIndex_marshallIndex (stored_stored oneIndex hindex) front rest
  | ofTwoIndices attributeID oneIndex twoIndex hindex hindex' =>
    rw [if_pos (hthree.mpr nofun), if_neg (mt hone.mp nofun)]
    have hindices : (ofTwoIndices attributeID oneIndex twoIndex).marshallIndices =
        marshallIndex (stored oneIndex) ++ marshallIndex (stored twoIndex) := rfl
    rw [hindices, append_assoc, skipIndex_marshallIndex (stored_stored oneIndex hindex), bind_some,
      ← append_assoc front, skipIndex_marshallIndex (stored_stored twoIndex hindex'), append_assoc]

theorem getSize_marshall (h : Built a) (front rest : List UInt8) :
    getSize (front ++ (a.marshall ++ rest)) front.length = some a.marshall.length := by
  rw [marshall, append_assoc, getSize]
  rcases marshallID_cases h.attributeID with ⟨value, hbytes, hsix, -, hform⟩ | ⟨value, low, hbytes, htwelve, -, hform⟩
  · have hskip := skipIndices_marshallIndices h hform (front ++ [value]) rest
    rw [append_assoc, length_append] at hskip
    rw [hbytes, getElem?_append_right (Nat.le_refl _), Nat.sub_self]
    change ((if _ then _ else _ : Option Nat).map _) = _
    rw [if_pos hsix]
    refine (congrArg _ hskip).trans ?_
    simp
  · have hskip := skipIndices_marshallIndices h hform (front ++ [value, low]) rest
    rw [append_assoc, length_append] at hskip
    rw [hbytes, getElem?_append_right (Nat.le_refl _), Nat.sub_self]
    change ((if _ then _ else _ : Option Nat).map _) = _
    rw [if_neg (not_not.mpr htwelve)]
    refine (congrArg _ hskip).trans ?_
    simp

theorem assign_append (front bytes rest : List UInt8) :
    assign (front ++ (bytes ++ rest)) front.length bytes.length = some bytes := by
  rw [assign, if_pos (by simp)]
  simp

theorem extractSized_sized (parameters front : List UInt8) (h : parameters.length ≤ 0x7FFF) :
    extractSized (front ++ sized parameters) front.length = some parameters := by
  have hsize : (UInt16.ofNat parameters.length).toNat = parameters.length := by
    rw [UInt16.toNat_ofNat']
    omega
  rw [sized, lengthField]
  split
  · next hshort =>
    have hlt : (UInt16.ofNat parameters.length).toNat < 128 := by
      have := UInt16.le_iff_toNat_le.mp hshort
      change _ ≤ 127 at this
      omega
    have hassign := assign_append (front ++ [(UInt16.ofNat parameters.length).toUInt8]) parameters []
    have hcount : (UInt16.ofNat parameters.length).toUInt8.toNat = parameters.length := by
      rw [UInt16.toNat_toUInt8]
      omega
    rw [append_nil, append_assoc, length_append] at hassign
    rw [extractSized, getElem?_append_right (Nat.le_refl _), Nat.sub_self]
    change (if _ then _ else _ : Option (List UInt8)) = _
    rw [if_neg (not_not.mpr (octets_short hlt)), hcount]
    exact hassign
  · next hlong =>
    generalize hfield : UInt16.ofNat parameters.length ||| 0x8000 = field
    have hvalue : field.toNat = 32768 + parameters.length := by
      rw [← hfield, UInt16.toNat_or, hsize, Nat.lor_comm]
      exact lor_eq_add (a := 1) (k := 15) (by omega)
    have hassign := assign_append (front ++ [(field >>> 8).toUInt8, field.toUInt8]) parameters []
    rw [append_nil, append_assoc, length_append] at hassign
    have hlow : (front ++ ([(field >>> 8).toUInt8, field.toUInt8] ++ parameters))[front.length + 1]? =
        some field.toUInt8 := by
      simp
    rw [extractSized, getElem?_append_right (Nat.le_refl _), Nat.sub_self, hlow]
    change (if _ then assign _ _ _ else _ : Option (List UInt8)) = _
    rw [if_pos (octets_long (by omega)), join_split,
      toNat_and_two_pow_sub_one field 15 0x7FFF (by decide), hvalue]
    have hmod : (32768 + parameters.length) % 2 ^ 15 = parameters.length := by omega
    rw [hmod]
    exact hassign

/-! ## Messages -/

theorem extractAttribute_marshall (h : Built a) (rest : List UInt8) : extractAttribute (a.marshall ++ rest) =
      some (readBack a, a.marshall.length) := by
  have hsize := getSize_marshall h [] rest
  have hassign := assign_append [] a.marshall rest
  have hread := (decodes_unmarshall h).run
  simp only [List.nil_append, List.length_nil] at hsize hassign
  simp only [extractAttribute, hsize, hassign, hread, Option.bind_eq_bind, Option.bind_some, Option.pure_def]

theorem extractHead_responseHead (echo : Bool) (feedbackCode : UInt8) (rest : List UInt8) :
    extractHead (responseHead echo feedbackCode ++ rest) = some (echo, feedbackCode) := by
  cases echo <;> rfl

theorem octet_bits (alertClass alarmDirection alertCategory alertPriority : UInt8) (hclass : alertClass ≤ 0x01)
    (hdirection : alarmDirection ≤ 0x01) (hcategory : alertCategory ≤ 0x03) (hpriority : alertPriority ≤ 0x0F) :
    let octet := alertClass <<< 7 ||| alarmDirection <<< 6 ||| alertCategory <<< 4 ||| alertPriority
    octet >>> 7 = alertClass ∧ (octet &&& 0x40) >>> 6 = alarmDirection ∧ (octet &&& 0x30) >>> 4 = alertCategory ∧
      octet &&& 0x0F = alertPriority := by
  have hall : ∀ c < 2, ∀ d < 2, ∀ g < 4, ∀ p < 16,
      let octet := UInt8.ofNat c <<< 7 ||| UInt8.ofNat d <<< 6 ||| UInt8.ofNat g <<< 4 ||| UInt8.ofNat p
      octet >>> 7 = UInt8.ofNat c ∧ (octet &&& 0x40) >>> 6 = UInt8.ofNat d ∧ (octet &&& 0x30) >>> 4 = UInt8.ofNat g ∧
        octet &&& 0x0F = UInt8.ofNat p := by
    decide +kernel
  have hc := UInt8.le_iff_toNat_le.mp hclass
  have hd := UInt8.le_iff_toNat_le.mp hdirection
  have hg := UInt8.le_iff_toNat_le.mp hcategory
  have hp := UInt8.le_iff_toNat_le.mp hpriority
  have := hall alertClass.toNat (Nat.lt_succ_of_le hc) alarmDirection.toNat (Nat.lt_succ_of_le hd) alertCategory.toNat
    (Nat.lt_succ_of_le hg) alertPriority.toNat (Nat.lt_succ_of_le hp)
  simpa only [UInt8.ofNat_toNat] using this

inductive Body
  | executeRequest (p : ExecuteRequestPDU)
  | executeResponse (p : ResponsePDU)
  | readRequest (p : ReadRequestPDU)
  | readResponse (p : ResponsePDU)
  | writeRequest (p : WriteRequestPDU)
  | writeResponse (p : WriteResponsePDU)
  | alertReport (p : AlertReportPDU)

namespace Body

def primitiveType : Body → PrimitiveType
  | .executeRequest _ | .readRequest _ | .writeRequest _ | .alertReport _ => .request
  | .executeResponse _ | .readResponse _ | .writeResponse _ => .response

def serviceInfo : Body → ServiceType
  | .executeRequest _ | .executeResponse _ => .execute
  | .readRequest _ | .readResponse _ => .read
  | .writeRequest _ | .writeResponse _ => .write
  | .alertReport _ => .alertReport

def append (sourceAPDU : ClientServerPDU) : Body → Option ClientServerPDU
  | .executeRequest p => appendExecuteRequest sourceAPDU p
  | .executeResponse p => appendExecuteResponse sourceAPDU p
  | .readRequest p => appendReadRequest sourceAPDU p
  | .readResponse p => appendReadResponse sourceAPDU p
  | .writeRequest p => appendWriteRequest sourceAPDU p
  | .writeResponse p => appendWriteResponse sourceAPDU p
  | .alertReport p => (appendAlertReport sourceAPDU p).map Prod.fst

def extract (sourceAPDU : ClientServerPDU) : Body → Option Body
  | .executeRequest _ => (extractExecuteRequest sourceAPDU).map .executeRequest
  | .executeResponse _ => (extractExecuteResponse sourceAPDU).map .executeResponse
  | .readRequest _ => (extractReadRequest sourceAPDU).map .readRequest
  | .readResponse _ => (extractReadResponse sourceAPDU).map .readResponse
  | .writeRequest _ => (extractWriteRequest sourceAPDU).map .writeRequest
  | .writeResponse _ => (extractWriteResponse sourceAPDU).map .writeResponse
  | .alertReport _ => (extractAlertReport sourceAPDU).map .alertReport

def attributeOf : Body → Option ExtensibleAttributeIdentifier
  | .readRequest p => some p.targetAttribute
  | .writeRequest p => some p.targetAttribute
  | _ => none

def value : Body → List UInt8
  | .executeRequest p => p.parameters
  | .executeResponse p => p.value
  | .readRequest _ => []
  | .readResponse p => p.value
  | .writeRequest p => p.value
  | .writeResponse _ => []
  | .alertReport p => p.alertValue

structure Constructed (body : Body) : Prop where
  attributes : ∀ a ∈ body.attributeOf, Built a
  size : body.value.length ≤ 0x7FFF
  alert : ∀ p, body = .alertReport p →
    AlertReportPDU.new p.alertID p.detectingObjectTransportLayerPort p.detectingObjectID p.detectionTime p.alertClass
      p.alarmDirection p.alertCategory p.alertPriority p.alertType p.alertValue = some p

/-- What is appended to an empty payload of the kind is extracted again, and the identifier of the attribute alone too. -/
structure RoundTrips (body : Body) : Prop where
  extracted : ∀ sourceAPDU : ClientServerPDU, sourceAPDU.primitiveType = body.primitiveType →
    sourceAPDU.serviceInfo = body.serviceInfo → sourceAPDU.payload = [] →
      (body.append sourceAPDU).bind (fun filled => body.extract filled) = some body
  unmarshalled : ∀ a ∈ body.attributeOf, new.unmarshall a.marshall = some (a, [])
  sized : ∀ a ∈ body.attributeOf, ∀ front rest : List UInt8,
    getSize (front ++ (a.marshall ++ rest)) front.length = some a.marshall.length

/-- What is extracted: an identifier gets what is read in the place of its second index. -/
def received : Body → Body
  | .readRequest p => .readRequest ⟨readBack p.targetAttribute⟩
  | .writeRequest p => .writeRequest ⟨readBack p.targetAttribute, p.value⟩
  | body => body

end Body

theorem fill_empty {α : Type} {primitiveType : PrimitiveType} {serviceInfo : ServiceType}
    (hprimitive : sourceAPDU.primitiveType = primitiveType) (hservice : sourceAPDU.serviceInfo = serviceInfo)
    (hempty : sourceAPDU.payload = []) (bytes : List UInt8) (f : List UInt8 → Option α) :
    (sourceAPDU.append primitiveType serviceInfo bytes).bind
      (fun filled => (filled.payloadOf primitiveType serviceInfo).bind f) = f bytes := by
  rw [ClientServerPDU.append, if_neg (not_not.mpr hprimitive), if_neg (not_not.mpr hservice), hempty, nil_append,
    bind_some, ClientServerPDU.payloadOf, if_pos ⟨hservice, hprimitive⟩, bind_some]

theorem extractResponse_append (p : ResponsePDU) (h : p.value.length ≤ 0x7FFF) :
    extractResponse (responseHead p.forwardCongestionNotificationEcho p.feedbackCode ++ sized p.value) = some p := by
  have hsized : extractSized (responseHead p.forwardCongestionNotificationEcho p.feedbackCode ++ sized p.value) 2 =
      some p.value := extractSized_sized p.value _ h
  simp only [extractResponse, extractHead_responseHead, hsized, Option.bind_eq_bind, Option.bind_some, Option.pure_def]

theorem decodes_detectionTime (time : TAINetworkTimeValue) :
    Decodes TAINetworkTimeValue.unmarshall time.marshall time :=
  (decodes_read32 time.currentTAI).bind (decodes_read16 time.fractionalTAI).bind_pure

theorem lengthField_alert (size : UInt16) : (if size < 0x80 then [(size &&& 0x7F).toUInt8]
      else [((if size < 0x80 then size else size ||| 0x8000) >>> 8).toUInt8,
        (if size < 0x80 then size else size ||| 0x8000).toUInt8]) = lengthField size := by
  have hiff : size < 0x80 ↔ size ≤ 0x7F := by
    rw [UInt16.lt_iff_toNat_lt, UInt16.le_iff_toNat_le]
    exact Nat.lt_succ_iff
  rw [lengthField]
  by_cases hshort : size < 0x80
  · have hlow : size &&& 0x7F = size := by
      apply UInt16.toNat_inj.mp
      rw [toNat_and_two_pow_sub_one size 7 0x7F (by decide)]
      exact Nat.mod_eq_of_lt (UInt16.lt_iff_toNat_lt.mp hshort)
    rw [if_pos hshort, if_pos (hiff.mp hshort), hlow]
  · rw [if_neg hshort, if_neg hshort, if_neg (mt hiff.mpr hshort)]

def alertHead (p : AlertReportPDU) : List UInt8 :=
  [p.alertID] ++ write16 p.detectingObjectTransportLayerPort ++ write16 p.detectingObjectID ++
    p.detectionTime.marshall ++ [p.octet, p.alertType]

theorem new_eq_some {p : AlertReportPDU}
    (h : AlertReportPDU.new p.alertID p.detectingObjectTransportLayerPort p.detectingObjectID p.detectionTime
      p.alertClass
      p.alarmDirection p.alertCategory p.alertPriority p.alertType p.alertValue = some p) :
    p.alertClass ≤ 0x01 ∧ p.alarmDirection ≤ 0x01 ∧ p.alertCategory ≤ 0x03 ∧ p.alertPriority ≤ 0x0F ∧
      p.alertValueSize = UInt16.ofNat p.alertValue.length := by
  rw [AlertReportPDU.new] at h
  split at h
  · cases h
  next hclass =>
  split at h
  · cases h
  next hdirection =>
  split at h
  · cases h
  next hcategory =>
  split at h
  · cases h
  next hpriority =>
  exact ⟨UInt8.not_lt.mp hclass, UInt8.not_lt.mp hdirection, UInt8.not_lt.mp hcategory, UInt8.not_lt.mp hpriority,
    (congrArg AlertReportPDU.alertValueSize (Option.some.inj h)).symm⟩

theorem extractAlert_append {p : AlertReportPDU}
    (h : AlertReportPDU.new p.alertID p.detectingObjectTransportLayerPort p.detectingObjectID p.detectionTime
      p.alertClass
      p.alarmDirection p.alertCategory p.alertPriority p.alertType p.alertValue = some p)
    (hsize : p.alertValue.length ≤ 0x7FFF) (hprimitive : sourceAPDU.primitiveType = .request)
    (hservice : sourceAPDU.serviceInfo = .alertReport) (hempty : sourceAPDU.payload = []) :
    ((appendAlertReport sourceAPDU p).map Prod.fst).bind (fun filled => extractAlertReport filled) = some p := by
  obtain ⟨hclass, hdirection, hcategory, hpriority, hvalueSize⟩ := new_eq_some h
  obtain ⟨hc, hd, hg, hp⟩ := octet_bits _ _ _ _ hclass hdirection hcategory hpriority
  have hbytes : (appendAlertReport sourceAPDU p).map Prod.fst =
      sourceAPDU.append .request .alertReport (alertHead p ++ sized p.alertValue) := by
    change Option.map Prod.fst (Option.map _ (sourceAPDU.append .request .alertReport
      (alertHead p ++ (if p.alertValueSize < 0x80 then [(p.alertValueSize &&& 0x7F).toUInt8] else _) ++
        p.alertValue))) = _
    rw [Option.map_map, lengthField_alert, hvalueSize, List.append_assoc]
    exact map_id' ..
  have hsized : extractSized (alertHead p ++ sized p.alertValue) 13 = some p.alertValue :=
    extractSized_sized p.alertValue _ hsize
  have htime : assign (alertHead p ++ sized p.alertValue) 5 6 = some p.detectionTime.marshall :=
    assign_append ([p.alertID] ++ write16 p.detectingObjectTransportLayerPort ++ write16 p.detectingObjectID)
      p.detectionTime.marshall ([p.octet, p.alertType] ++ sized p.alertValue)
  rw [hbytes]
  simp only [extractAlertReport, bind_eq_bind]
  refine (fill_empty hprimitive hservice hempty _ _).trans ?_
  have hport := join_split p.detectingObjectTransportLayerPort
  have hobject := join_split p.detectingObjectID
  have htimeRead := (decodes_detectionTime p.detectionTime).run
  have h₀ : (alertHead p ++ sized p.alertValue)[0]? = some p.alertID := rfl
  have h₁ : (alertHead p ++ sized p.alertValue)[1]? = some (p.detectingObjectTransportLayerPort >>> 8).toUInt8 := rfl
  have h₂ : (alertHead p ++ sized p.alertValue)[2]? = some p.detectingObjectTransportLayerPort.toUInt8 := rfl
  have h₃ : (alertHead p ++ sized p.alertValue)[3]? = some (p.detectingObjectID >>> 8).toUInt8 := rfl
  have h₄ : (alertHead p ++ sized p.alertValue)[4]? = some p.detectingObjectID.toUInt8 := rfl
  have h₁₁ : (alertHead p ++ sized p.alertValue)[11]? = some p.octet := rfl
  have h₁₂ : (alertHead p ++ sized p.alertValue)[12]? = some p.alertType := rfl
  simp only [h₀, h₁, h₂, h₃, h₄, h₁₁, h₁₂, htime, htimeRead, hsized, hport, hobject, bind_some,
    AlertReportPDU.octet, hc, hd, hg, hp]
  exact h

theorem extract_append {body : Body} (h : body.Constructed)
    (hprimitive : sourceAPDU.primitiveType = body.primitiveType) (hservice : sourceAPDU.serviceInfo = body.serviceInfo)
    (hempty : sourceAPDU.payload = []) :
    (body.append sourceAPDU).bind (fun filled => body.extract filled) = some body.received := by
  cases body with
  | executeRequest p =>
    have hsized : extractSized (p.methodID :: sized p.parameters) 1 = some p.parameters :=
      extractSized_sized p.parameters [p.methodID] h.size
    simp only [Body.extract, extractExecuteRequest, Option.bind_eq_bind, Option.map_bind]
    refine (fill_empty hprimitive hservice hempty _ _).trans ?_
    simp [hsized, Body.received]
  | executeResponse p =>
    simp only [Body.extract, extractExecuteResponse, Option.bind_eq_bind, Option.map_bind]
    refine (fill_empty hprimitive hservice hempty _ _).trans ?_
    exact congrArg (Option.map Body.executeResponse) (extractResponse_append p h.size)
  | readRequest p =>
    have hattribute := extractAttribute_marshall (h.attributes p.targetAttribute rfl) []
    rw [List.append_nil] at hattribute
    simp only [Body.extract, extractReadRequest, Option.bind_eq_bind, Option.map_bind]
    refine (fill_empty hprimitive hservice hempty _ _).trans ?_
    simp [hattribute, Body.received]
  | readResponse p =>
    simp only [Body.extract, extractReadResponse, Option.bind_eq_bind, Option.map_bind]
    refine (fill_empty hprimitive hservice hempty _ _).trans ?_
    exact congrArg (Option.map Body.readResponse) (extractResponse_append p h.size)
  | writeRequest p =>
    have hattribute := extractAttribute_marshall (h.attributes p.targetAttribute rfl) (sized p.value)
    have hsized := extractSized_sized p.value p.targetAttribute.marshall h.size
    simp only [Body.extract, extractWriteRequest, Option.bind_eq_bind, Option.map_bind]
    refine (fill_empty hprimitive hservice hempty _ _).trans ?_
    simp [hattribute, hsized, Body.received]
  | writeResponse p =>
    have hhead := extractHead_responseHead p.forwardCongestionNotificationEcho p.feedbackCode []
    rw [List.append_nil] at hhead
    simp only [Body.extract, extractWriteResponse, Option.bind_eq_bind, Option.map_bind]
    refine (fill_empty hprimitive hservice hempty _ _).trans ?_
    simp [hhead, Body.received]
  | alertReport p =>
    have hextract := extractAlert_append (h.alert p rfl) h.size hprimitive hservice hempty
    exact (Option.map_bind ..).symm.trans (congrArg (Option.map Body.alertReport) hextract)

/-- A message round-trips exactly when the second index of its attribute identifier is carried. -/
theorem roundTrips_iff (body : Body) (h : body.Constructed) :
    body.RoundTrips ↔ ∀ a ∈ body.attributeOf, CarriesTwoIndex a := by
  constructor
  · intro hround a ha
    have hread := hround.unmarshalled a ha
    rw [(decodes_unmarshall (h.attributes a ha)).run] at hread
    exact readBack_eq_iff.mp (congrArg Prod.fst (Option.some.inj hread))
  · intro hcarries
    refine ⟨?_, ?_, fun a ha front rest => getSize_marshall (h.attributes a ha) front rest⟩
    · intro sourceAPDU hprimitive hservice hempty
      have hreceived : body.received = body := by
        cases body with
        | readRequest p => rw [Body.received, readBack_eq_iff.mpr (hcarries p.targetAttribute rfl)]
        | writeRequest p => rw [Body.received, readBack_eq_iff.mpr (hcarries p.targetAttribute rfl)]
        | _ => rfl
      exact (extract_append h hprimitive hservice hempty).trans (congrArg some hreceived)
    · intro a ha
      rw [(decodes_unmarshall (h.attributes a ha)).run, readBack_eq_iff.mpr (hcarries a ha)]

def sampleAttribute : ExtensibleAttributeIdentifier := .ofTwoIndices 1 1 0x123

theorem sampleAttribute_constructed : (Body.readRequest ⟨sampleAttribute⟩).Constructed where
  attributes := by
    rintro a ⟨⟩
    exact .ofTwoIndices 1 1 0x123 (by decide) (by decide)
  size := by decide
  alert := nofun

theorem roundTrips_iff_sample : (Body.readRequest ⟨sampleAttribute⟩).RoundTrips ↔ CarriesTwoIndex sampleAttribute := by
  have hiff := roundTrips_iff (.readRequest ⟨sampleAttribute⟩) sampleAttribute_constructed
  exact hiff.trans ⟨fun h => h sampleAttribute rfl, fun h a ha => Option.some.inj ha ▸ h⟩

/-- The second index comes back as 0x0123 with the low octet of the first index in the place of its own. -/
theorem twoIndices_not_roundTrip : ¬ ∀ body : Body, body.Constructed → body.RoundTrips := by
  intro hall
  have hround := (hall _ sampleAttribute_constructed).unmarshalled sampleAttribute rfl
  have hread : new.unmarshall sampleAttribute.marshall =
      some (⟨.doublyIndexed, 1, 1, 0x123⟩, []) := by decide +kernel
  rw [hround] at hread
  exact absurd hread (by decide)

end Isa100Gateway.PDUUtils
