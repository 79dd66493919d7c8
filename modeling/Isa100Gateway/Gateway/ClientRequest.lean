import Isa100Gateway.Gateway.ClientServer
import Isa100Gateway.Gateway.UserRequest
import Isa100Gateway.Shared.Pipe

/-!
# The data of a client/server request

What `CClientServerService::ProcessUserRequest` takes out of a request's data block before it asks the cache or the application layer: the fields of a native request with the copy for its cache key, or the two variable-length fields of a tunnel request.
-/

namespace Isa100Gateway

open MemoryProbe UserRequest

inductive SizeType where
  | uint8
  | uint16
  | uint32

def SizeType.sizeof : SizeType → Nat
  | .uint8 => 1
  | .uint16 => 2
  | .uint32 => 4

def networkValue (mem : Nat → UInt8) (q : Nat) : Nat → Nat
  | 0 => 0
  | k + 1 => networkValue mem q k * 256 + (mem (q + k)).toNat

def hostValue (order : ByteOrder) (mem : Nat → UInt8) (q k : Nat) : Nat :=
  match order with
  | .big => networkValue mem q k
  | .little => networkValue (fun i => mem (q + (k - 1 - i))) 0 k

def hostOfNetwork32 (order : ByteOrder) (x : Nat) : Nat :=
  match order with
  | .big => x
  | .little =>
    ((x % 256 * 256 + x / 256 % 256) * 256 + x / 256 / 256 % 256) * 256 + x / 256 / 256 / 256 % 256

def decodedSize (order : ByteOrder) (type : SizeType) (mem : Nat → UInt8) (q : Nat) : Nat :=
  match type with
  | .uint8 | .uint16 => hostValue order mem q type.sizeof
  | .uint32 => hostOfNetwork32 order (hostValue order mem q type.sizeof)

/-- The two errors of `UnpackNetworkVariableData`, which return `NULL`, and the length it puts out. -/
inductive Unpacked where
  | noSize
  | tooLong (dataSize : Nat)
  | fits (dataSize : Nat)

def unpackNetworkVariableData (order : ByteOrder) (type : SizeType) (mem : Nat → UInt8) (q : Nat)
    (dataLen : Int) : Probe Unpacked :=
  if type.sizeof > dataLen then pure .noSize
  else do
    touch q type.sizeof
    let dataSize := decodedSize order type mem q
    if dataSize > dataLen - type.sizeof then pure (.tooLong dataSize) else pure (.fits dataSize)

structure TunnelReq where
  reqData : Nat
  len : Nat
  transactionInfo : List UInt8
deriving DecidableEq

/-- The lengths that were decoded, each with its place, and the request unless it is refused. -/
structure TunnelParse where
  lengths : List (Nat × Nat)
  request : Option TunnelReq
deriving DecidableEq

def parseTransactionInfo (order : ByteOrder) (r : UserRequest) (size crt : Nat) (crtLen : Int) : Probe TunnelParse := do
  let transactionInfo ← unpackNetworkVariableData order .uint16 r.mem crt crtLen
  match transactionInfo with
  | .noSize => pure ⟨[(6, size)], none⟩
  | .tooLong size' => pure ⟨[(6, size), (crt, size')], none⟩
  | .fits size' =>
    let info ← bytes r.mem (crt + 2) size'
    pure ⟨[(6, size), (crt, size')], some ⟨8, size, info⟩⟩

def processUserRequestTunnel (order : ByteOrder) (r : UserRequest) : Probe TunnelParse := do
  let crtLen := (r.dataSize - 4).toInt32.toInt
  let requestData ← unpackNetworkVariableData order .uint16 r.mem 6 crtLen
  match requestData with
  | .noSize => pure ⟨[], none⟩
  | .tooLong size => pure ⟨[(6, size)], none⟩
  | .fits size => parseTransactionInfo order r size (8 + size) (crtLen - (size + 2))

inductive ClientParse where
  | refused (status : UInt8)
  | native (reqType : UInt8) (reqLen : Option UInt16) (key : List UInt8)
  | tunnel (parse : TunnelParse)
deriving DecidableEq

def offsetofData : Nat := 7

/-- The key, for which the constructor of `CSKey` copies `m_ushDataLen` bytes of `m_uData`. -/
def copyKey (r : UserRequest) (dataLen : UInt16) : Probe (List UInt8) := do
  let _buffer ← u8 r.mem 4
  bytes r.mem offsetofData dataLen.toNat

def processUserRequestNative (r : UserRequest) : Probe ClientParse := do
  let reqType ← u8 r.mem offsetofReqType.toNat
  if reqType = srvcTypeRead then
    touch offsetofData sizeofReqDataRead.toNat
    let key ← copyKey r sizeofReqDataRead
    pure (.native reqType none key)
  else if reqType = srvcTypeWrite then
    touch offsetofData sizeofReqDataWrite.toNat
    let reqLen ← ntohs r.mem (offsetofData + 8)
    let key ← copyKey r (sizeofReqDataWrite + reqLen)
    pure (.native reqType (some reqLen) key)
  else if reqType = srvcTypeExecute then
    touch offsetofData sizeofReqDataExec.toNat
    let reqLen ← ntohs r.mem (offsetofData + 4)
    let key ← copyKey r (sizeofReqDataExec + reqLen)
    pure (.native reqType (some reqLen) key)
  else pure (.refused (r.status ygsFailure csFailOther))

def clientLease (leases : LeaseState) (leaseID sessionId : UInt32) : Option Lease :=
  (leases.findLease leaseID sessionId).filter fun l =>
    (l.leaseType = .client ∨ l.leaseType = .server) ∧ l.contractId ≠ 0

def parseClientRequest (order : ByteOrder) (r : UserRequest) (leases : LeaseState) : Probe ClientParse :=
  if r.dataSize < 4 ∨ r.dataSize - 4 < offsetofReqType then pure (.refused (r.status ygsFailure csFailOther))
  else do
    let leaseID ← ntohl r.mem 0
    match clientLease leases leaseID r.sessionId with
    | none => pure (.refused (r.status ygsInvalidLease csLeaseExpired))
    | some l =>
      if l.protocolType ≠ protoNone then do
        let parse ← processUserRequestTunnel order r
        pure (.tunnel parse)
      else processUserRequestNative r

theorem networkValue_two (mem : Nat → UInt8) (q : Nat) :
    networkValue mem q 2 = (mem q).toNat * 256 + (mem (q + 1)).toNat := by
  simp [networkValue]

theorem toNat_ntohs (mem : Nat → UInt8) (q : Nat) : (ntohs mem q).value.toNat = networkValue mem q 2 := by
  rw [networkValue_two]
  exact Bytes.toNat_join (mem q) (mem (q + 1))

/-- The two bytes of a length are the same in both orders, or the host is big-endian. -/
def OrderFree (order : ByteOrder) (mem : Nat → UInt8) (q : Nat) : Prop := order = .big ∨ mem q = mem (q + 1)

theorem decodedSize_uint16_iff (order : ByteOrder) (mem : Nat → UInt8) (q : Nat) :
    decodedSize order .uint16 mem q = networkValue mem q 2 ↔ OrderFree order mem q := by
  have hfirst := (mem q).toNat_lt
  have hsecond := (mem (q + 1)).toNat_lt
  cases order with
  | big => exact ⟨fun _ => .inl rfl, fun _ => rfl⟩
  | little =>
    have hhost : decodedSize .little .uint16 mem q = (mem (q + 1)).toNat * 256 + (mem q).toNat := by
      simp [decodedSize, hostValue, networkValue, SizeType.sizeof]
    rw [hhost, networkValue_two]
    constructor
    · intro h
      exact .inr (UInt8.toNat_inj.mp (by omega))
    · rintro (h | h)
      · exact nomatch h
      · rw [h]

theorem hostOfNetwork32_little {a b c d : Nat} (ha : a < 256) (hb : b < 256) (hc : c < 256) (hd : d < 256) :
    hostOfNetwork32 .little (((d * 256 + c) * 256 + b) * 256 + a) = ((a * 256 + b) * 256 + c) * 256 + d := by
  have hdiv (x y : Nat) (hy : y < 256) : (x * 256 + y) / 256 = x := by omega
  have hmod (x y : Nat) (hy : y < 256) : (x * 256 + y) % 256 = y := by omega
  rw [hostOfNetwork32, hdiv _ a ha, hdiv _ b hb, hdiv d c hc, hmod _ a ha, hmod _ b hb, hmod d c hc,
    Nat.mod_eq_of_lt hd]

/-- One byte and four bytes are decoded in network order; of two bytes only those are that read the same in both. -/
theorem decodedSize_eq_iff (order : ByteOrder) (type : SizeType) (mem : Nat → UInt8) (q : Nat) :
    decodedSize order type mem q = networkValue mem q type.sizeof ↔ type = .uint16 → OrderFree order mem q := by
  cases type with
  | uint8 =>
    refine ⟨fun _ h => (nomatch h), fun _ => ?_⟩
    cases order <;> simp [decodedSize, hostValue, networkValue, SizeType.sizeof]
  | uint16 => exact (decodedSize_uint16_iff order mem q).trans ⟨fun h _ => h, fun h => h rfl⟩
  | uint32 =>
    refine ⟨fun _ h => (nomatch h), fun _ => ?_⟩
    cases order with
    | big => rfl
    | little =>
      have hswap := hostOfNetwork32_little (mem q).toNat_lt (mem (q + 1)).toNat_lt (mem (q + 2)).toNat_lt
        (mem (q + 3)).toNat_lt
      simpa [decodedSize, hostValue, networkValue, SizeType.sizeof] using hswap

def NativeLengthsFit (r : UserRequest) : Prop :=
  (r.mem 6 = srvcTypeWrite → 17 + networkValue r.mem 15 2 ≤ r.dataSize.toNat) ∧
    (r.mem 6 = srvcTypeExecute → 13 + networkValue r.mem 11 2 ≤ r.dataSize.toNat)

def NativeReadable (r : UserRequest) : Prop :=
  (r.mem 6 = srvcTypeRead → 15 ≤ r.dataSize.toNat) ∧ NativeLengthsFit r

section

variable {order : ByteOrder} {r : UserRequest} {n : Nat}

theorem inside_copyKey {dataLen : UInt16} : Inside n (copyKey r dataLen) ↔ 5 ≤ n ∧ 7 + dataLen.toNat ≤ n := by
  simp only [copyKey, offsetofData, inside_bind, inside_u8, inside_bytes]

def ClientParse.IsNative (p : ClientParse) : Prop := ∃ type len key, p = .native type len key

section

variable (hten : 10 ≤ r.dataSize.toNat)
include hten

theorem inside_reqType : Inside r.dataSize.toNat (u8 r.mem offsetofReqType.toNat) := by
  have h : offsetofReqType.toNat = 6 := rfl
  rw [inside_u8, h]
  omega

theorem native_read (htype : r.mem 6 = srvcTypeRead) : (processUserRequestNative r).value.IsNative ∧
      (Inside r.dataSize.toNat (processUserRequestNative r) ↔ 15 ≤ r.dataSize.toNat) := by
  have hvalue : (u8 r.mem offsetofReqType.toNat).value = srvcTypeRead := htype
  have hsize : sizeofReqDataRead.toNat = 8 := rfl
  simp only [processUserRequestNative, inside_bind, value_bind, hvalue, if_true, inside_touch, inside_copyKey,
    inside_pure, value_pure, offsetofData, hsize, inside_reqType hten, true_and, and_true]
  exact ⟨⟨_, _, _, rfl⟩, by omega⟩

theorem native_write (htype : r.mem 6 = srvcTypeWrite) : (processUserRequestNative r).value.IsNative ∧
      (17 + networkValue r.mem 15 2 ≤ r.dataSize.toNat → Inside r.dataSize.toNat (processUserRequestNative r)) := by
  have hvalue : (u8 r.mem offsetofReqType.toNat).value = srvcTypeWrite := htype
  have hnot : ¬ (srvcTypeWrite = srvcTypeRead) := by decide
  have hsize : sizeofReqDataWrite.toNat = 10 := rfl
  have hlen : (sizeofReqDataWrite + (ntohs r.mem (7 + 8)).value).toNat ≤ 10 + networkValue r.mem 15 2 := by
    rw [UInt16.toNat_add, toNat_ntohs, hsize]
    exact Nat.mod_le _ _
  simp only [processUserRequestNative, inside_bind, value_bind, hvalue, if_neg hnot, if_true, inside_touch,
    inside_copyKey, inside_ntohs, inside_pure, value_pure, offsetofData, hsize, inside_reqType hten, true_and,
    and_true]
  exact ⟨⟨_, _, _, rfl⟩, by omega⟩

theorem native_exec (htype : r.mem 6 = srvcTypeExecute) : (processUserRequestNative r).value.IsNative ∧
      (13 + networkValue r.mem 11 2 ≤ r.dataSize.toNat → Inside r.dataSize.toNat (processUserRequestNative r)) := by
  have hvalue : (u8 r.mem offsetofReqType.toNat).value = srvcTypeExecute := htype
  have hnot : ¬ (srvcTypeExecute = srvcTypeRead) := by decide
  have hnot' : ¬ (srvcTypeExecute = srvcTypeWrite) := by decide
  have hsize : sizeofReqDataExec.toNat = 6 := rfl
  have hlen : (sizeofReqDataExec + (ntohs r.mem (7 + 4)).value).toNat ≤ 6 + networkValue r.mem 11 2 := by
    rw [UInt16.toNat_add, toNat_ntohs, hsize]
    exact Nat.mod_le _ _
  simp only [processUserRequestNative, inside_bind, value_bind, hvalue, if_neg hnot, if_neg hnot', if_true,
    inside_touch, inside_copyKey, inside_ntohs, inside_pure, value_pure, offsetofData, hsize, inside_reqType hten,
    true_and, and_true]
  exact ⟨⟨_, _, _, rfl⟩, by omega⟩

theorem native_other (hread : r.mem 6 ≠ srvcTypeRead)
    (hwrite : r.mem 6 ≠ srvcTypeWrite) (hexec : r.mem 6 ≠ srvcTypeExecute) :
    (processUserRequestNative r).value = .refused (r.status ygsFailure csFailOther) ∧
      Inside r.dataSize.toNat (processUserRequestNative r) := by
  have hvalue : (u8 r.mem offsetofReqType.toNat).value = r.mem 6 := rfl
  rw [processUserRequestNative, inside_bind, value_bind, hvalue, if_neg hread, if_neg hwrite, if_neg hexec]
  exact ⟨rfl, inside_reqType hten, inside_pure _⟩

end

end

def TunnelLengthsFit (r : UserRequest) : Prop :=
  let first := networkValue r.mem 6 2
  10 + first + networkValue r.mem (8 + first) 2 ≤ r.dataSize.toNat

/-- The lengths are decoded in network order, and if the request is accepted they fit. -/
def TunnelParse.Ok (r : UserRequest) (p : TunnelParse) : Prop :=
  (∀ l ∈ p.lengths, l.2 = networkValue r.mem l.1 2) ∧ (p.request ≠ none → TunnelLengthsFit r)

/-- A tunnel request that the service parses well: its size does not fit an `int`, or its lengths read the same in both orders and are either inside the data or so long that the check, which counts six bytes too many and the CRC as missing, refuses them. -/
def TunnelReadable (order : ByteOrder) (r : UserRequest) : Prop :=
  let size := r.dataSize.toNat
  let first := networkValue r.mem 6 2
  let second := networkValue r.mem (8 + first) 2
  2 ^ 31 + 4 ≤ size ∨ OrderFree order r.mem 6 ∧
    (size < 8 + first ∨ 10 + first ≤ size ∧ OrderFree order r.mem (8 + first) ∧
      (10 + first + second ≤ size ∨ size < 8 + first + second))

section

variable {order : ByteOrder} {r : UserRequest}

theorem crtLen_of_large (h : 2 ^ 31 + 4 ≤ r.dataSize.toNat) : (r.dataSize - 4).toInt32.toInt < 0 := by
  have hbound := r.dataSize.toNat_lt
  have hfour : (4 : UInt32).toNat = 4 := rfl
  rw [Bytes.toInt_toInt32_sub (by decide), hfour, if_neg (by omega)]
  omega

theorem crtLen_of_small (h : r.dataSize.toNat < 2 ^ 31 + 4) :
    (r.dataSize - 4).toInt32.toInt = (r.dataSize.toNat : Int) - 4 := by
  have hfour : (4 : UInt32).toNat = 4 := rfl
  rw [Bytes.toInt_toInt32_sub (by decide), hfour, if_pos (by omega)]
  rfl

variable {mem : Nat → UInt8} {len : Int}

theorem unpack_noSize {q : Nat} (h : len < 2) :
    unpackNetworkVariableData order .uint16 mem q len = pure .noSize := if_pos h

theorem inside_unpack {q n : Nat} (h : ¬ len < 2) :
    Inside n (unpackNetworkVariableData order .uint16 mem q len) ↔ q + 2 ≤ n := by
  have hsize : ¬ ((SizeType.uint16.sizeof : Nat) : Int) > len := h
  rw [unpackNetworkVariableData, if_neg hsize, inside_bind, inside_touch, apply_ite (Inside n)]
  simp [SizeType.sizeof]

theorem unpack_value {q : Nat} (h : ¬ len < 2) : (unpackNetworkVariableData order .uint16 mem q len).value =
      if decodedSize order .uint16 mem q > len - 2 then .tooLong (decodedSize order .uint16 mem q)
      else .fits (decodedSize order .uint16 mem q) := by
  have hsize : ¬ ((SizeType.uint16.sizeof : Nat) : Int) > len := h
  rw [unpackNetworkVariableData, if_neg hsize, value_bind, apply_ite Probe.value]
  rfl

theorem parseTransactionInfo_iff {n size next : Nat} (hlen : ¬ len < 2) (hsize : size = networkValue r.mem 6 2) :
    Inside n (parseTransactionInfo order r size next len) ∧ (parseTransactionInfo order r size next len).value.Ok r ↔
      next + 2 ≤ n ∧ OrderFree order r.mem next ∧ (networkValue r.mem next 2 > len - 2 ∨
          next + 2 + networkValue r.mem next 2 ≤ n ∧ TunnelLengthsFit r) := by
  rw [← decodedSize_uint16_iff, parseTransactionInfo, inside_bind, value_bind, inside_unpack hlen, unpack_value hlen]
  by_cases hlong : decodedSize order .uint16 r.mem next > len - 2
  · simp only [if_pos hlong, inside_pure, value_pure, TunnelParse.Ok, List.forall_mem_cons, List.not_mem_nil,
      false_implies, implies_true, and_true, ne_eq, not_true, hsize, true_and]
    constructor
    · rintro ⟨hnext, hdecoded⟩
      exact ⟨hnext, hdecoded, .inl (hdecoded ▸ hlong)⟩
    · rintro ⟨hnext, hdecoded, -⟩
      exact ⟨hnext, hdecoded⟩
  · simp only [if_neg hlong, inside_bind, value_bind, inside_pure, value_pure, inside_bytes, TunnelParse.Ok,
      List.forall_mem_cons, List.not_mem_nil, false_implies, implies_true, and_true, ne_eq, hsize, true_and,
      reduceCtorEq, not_false_eq_true, true_implies]
    constructor
    · rintro ⟨⟨hnext, hinfo⟩, hdecoded, hfit⟩
      rw [hdecoded] at hinfo
      exact ⟨hnext, hdecoded, .inr ⟨hinfo, hfit⟩⟩
    · rintro ⟨hnext, hdecoded, hlong' | ⟨hinfo, hfit⟩⟩
      · rw [hdecoded] at hlong
        exact absurd hlong' hlong
      · rw [hdecoded]
        exact ⟨⟨hnext, hinfo⟩, rfl, hfit⟩

theorem parseTransactionInfo_noSize {size next : Nat} (h : len < 2) :
    parseTransactionInfo order r size next len = pure ⟨[(6, size)], none⟩ := by
  rw [parseTransactionInfo, unpack_noSize h]
  rfl

theorem first_mem_parseTransactionInfo (size next : Nat) (len : Int) :
    (6, size) ∈ (parseTransactionInfo order r size next len).value.lengths := by
  rw [parseTransactionInfo, value_bind]
  cases (unpackNetworkVariableData order .uint16 r.mem next len).value with
  | noSize => exact List.mem_cons_self
  | tooLong size' => exact List.mem_cons_self
  | fits size' => exact List.mem_cons_self

theorem tunnel_of_first {n first : Nat} (hn : 8 ≤ n) (htwo : ¬ (r.dataSize - 4).toInt32.toInt < 2)
    (hfree : OrderFree order r.mem 6) (hvalue : first = networkValue r.mem 6 2) :
    Inside n (processUserRequestTunnel order r) ∧ (processUserRequestTunnel order r).value.Ok r ↔
      first > (r.dataSize - 4).toInt32.toInt - 2 ∨
        Inside n (parseTransactionInfo order r first (8 + first) ((r.dataSize - 4).toInt32.toInt - (first + 2))) ∧
          (parseTransactionInfo order r first (8 + first)
            ((r.dataSize - 4).toInt32.toInt - (first + 2))).value.Ok r := by
  have hfirst : decodedSize order .uint16 r.mem 6 = first :=
    ((decodedSize_uint16_iff order r.mem 6).mpr hfree).trans hvalue.symm
  rw [processUserRequestTunnel, inside_bind, value_bind, inside_unpack htwo, unpack_value htwo, hfirst]
  by_cases hlong : (first : Int) > (r.dataSize - 4).toInt32.toInt - 2
  · rw [if_pos hlong]
    refine ⟨fun _ => .inl hlong, fun _ => ⟨⟨hn, inside_pure _⟩, ?_, fun h => absurd rfl h⟩⟩
    intro l hl
    obtain rfl := List.mem_singleton.mp hl
    exact hvalue
  · rw [if_neg hlong]
    exact ⟨fun h => .inr ⟨h.1.2, h.2⟩, fun h => (h.resolve_left hlong).elim fun h₁ h₂ => ⟨⟨hn, h₁⟩, h₂⟩⟩

theorem orderFree_of_ok (htwo : ¬ (r.dataSize - 4).toInt32.toInt < 2)
    (hok : (processUserRequestTunnel order r).value.Ok r) : OrderFree order r.mem 6 := by
  rw [← decodedSize_uint16_iff]
  apply hok.1 (6, decodedSize order .uint16 r.mem 6)
  rw [processUserRequestTunnel, value_bind, unpack_value htwo]
  by_cases hlong : decodedSize order .uint16 r.mem 6 > (r.dataSize - 4).toInt32.toInt - 2
  · rw [if_pos hlong]
    exact List.mem_cons_self
  · rw [if_neg hlong]
    exact first_mem_parseTransactionInfo _ _ _

theorem tunnel_iff (hten : 10 ≤ r.dataSize.toNat) :
    Inside r.dataSize.toNat (processUserRequestTunnel order r) ∧ (processUserRequestTunnel order r).value.Ok r ↔
      TunnelReadable order r := by
  by_cases hlarge : 2 ^ 31 + 4 ≤ r.dataSize.toNat
  · have hneg := crtLen_of_large hlarge
    have hparse : processUserRequestTunnel order r = pure ⟨[], none⟩ := by
      rw [processUserRequestTunnel, unpack_noSize (by omega)]
      rfl
    rw [hparse]
    exact ⟨fun _ => .inl hlarge, fun _ => ⟨inside_pure _, fun l hl => (nomatch hl), fun h => absurd rfl h⟩⟩
  · have hlen := crtLen_of_small (not_le.mp hlarge)
    have htwo : ¬ (r.dataSize - 4).toInt32.toInt < 2 := by omega
    unfold TunnelReadable
    by_cases hfree : OrderFree order r.mem 6
    · obtain ⟨first, hfirst⟩ : ∃ first, first = networkValue r.mem 6 2 := ⟨_, rfl⟩
      have height : 8 ≤ r.dataSize.toNat := by omega
      rw [tunnel_of_first height htwo hfree hfirst, ← hfirst]
      by_cases hshort : r.dataSize.toNat < 8 + first
      · refine ⟨fun _ => .inr ⟨hfree, .inl hshort⟩, fun _ => ?_⟩
        by_cases hlong : (first : Int) > (r.dataSize - 4).toInt32.toInt - 2
        · exact .inl hlong
        · rw [parseTransactionInfo_noSize (by omega)]
          refine .inr ⟨inside_pure _, ?_, fun h => absurd rfl h⟩
          intro l hl
          obtain rfl := List.mem_singleton.mp hl
          exact hfirst
      · rw [parseTransactionInfo_iff (by omega) hfirst, TunnelLengthsFit, ← hfirst]
        constructor
        · rintro (h | ⟨hnext, hfree', h | ⟨hinfo, -⟩⟩)
          · omega
          · exact .inr ⟨hfree, .inr ⟨by omega, hfree', .inr (by omega)⟩⟩
          · exact .inr ⟨hfree, .inr ⟨by omega, hfree', .inl (by omega)⟩⟩
        · rintro (h | ⟨-, h | ⟨hnext, hfree', hfits | hlong⟩⟩)
          · exact absurd h hlarge
          · exact absurd h hshort
          · exact .inr ⟨by omega, hfree', .inr ⟨by omega, hfits⟩⟩
          · exact .inr ⟨by omega, hfree', .inl (by omega)⟩
    · exact ⟨fun h => absurd (orderFree_of_ok htwo h.2) hfree,
        fun h => (h.resolve_left hlarge).1.elim (fun h => absurd (.inl h) hfree) fun h => absurd (.inr h) hfree⟩

end

/-- The lengths of a request that is not refused are decoded in network order and fit. -/
def ClientParse.Ok (r : UserRequest) : ClientParse → Prop
  | .refused _ => True
  | .native _ _ _ => NativeLengthsFit r
  | .tunnel parse => parse.Ok r

/-- The parsing reads received bytes only, decodes in network order, and refuses lengths that do not fit. -/
def ClientParseOk (order : ByteOrder) (r : UserRequest) (leases : LeaseState) : Prop :=
  Inside r.dataSize.toNat (parseClientRequest order r leases) ∧ (parseClientRequest order r leases).value.Ok r

def ClientRequestReadable (order : ByteOrder) (r : UserRequest) (leases : LeaseState) : Prop :=
  10 ≤ r.dataSize.toNat → ∀ l, clientLease leases (ntohl r.mem 0).value r.sessionId = some l →
    if l.protocolType ≠ protoNone then TunnelReadable order r else NativeReadable r

section

variable {order : ByteOrder} {r : UserRequest} {leases : LeaseState}

theorem ClientParse.IsNative.ok_iff {p : ClientParse} (h : p.IsNative) : p.Ok r ↔ NativeLengthsFit r := by
  obtain ⟨type, len, key, rfl⟩ := h
  rfl

theorem native_iff (hten : 10 ≤ r.dataSize.toNat) :
    Inside r.dataSize.toNat (processUserRequestNative r) ∧ (processUserRequestNative r).value.Ok r ↔
      NativeReadable r := by
  by_cases hread : r.mem 6 = srvcTypeRead
  · obtain ⟨hnative, hinside⟩ := native_read hten hread
    rw [hnative.ok_iff, hinside]
    exact ⟨fun h => ⟨fun _ => h.1, h.2⟩, fun h => ⟨h.1 hread, h.2⟩⟩
  · by_cases hwrite : r.mem 6 = srvcTypeWrite
    · obtain ⟨hnative, hinside⟩ := native_write hten hwrite
      rw [hnative.ok_iff]
      exact ⟨fun h => ⟨fun h => absurd h hread, h.2⟩, fun h => ⟨hinside (h.2.1 hwrite), h.2⟩⟩
    · by_cases hexec : r.mem 6 = srvcTypeExecute
      · obtain ⟨hnative, hinside⟩ := native_exec hten hexec
        rw [hnative.ok_iff]
        exact ⟨fun h => ⟨fun h => absurd h hread, h.2⟩, fun h => ⟨hinside (h.2.2 hexec), h.2⟩⟩
      · obtain ⟨hrefused, hinside⟩ := native_other hten hread hwrite hexec
        rw [hrefused]
        exact ⟨fun _ => ⟨fun h => absurd h hread, fun h => absurd h hwrite, fun h => absurd h hexec⟩,
          fun _ => ⟨hinside, trivial⟩⟩

theorem refused_for_size (r : UserRequest) :
    r.dataSize < 4 ∨ r.dataSize - 4 < offsetofReqType ↔ r.dataSize.toNat < 10 := by
  have hfour : (4 : UInt32).toNat = 4 := rfl
  have hsix : offsetofReqType.toNat = 6 := rfl
  by_cases hshort : r.dataSize < 4
  · rw [UInt32.lt_iff_toNat_lt] at hshort
    exact ⟨fun _ => by omega, fun _ => .inl (UInt32.lt_iff_toNat_lt.mpr hshort)⟩
  · have hle : (4 : UInt32) ≤ r.dataSize := UInt32.not_lt.mp hshort
    rw [or_iff_right hshort, UInt32.lt_iff_toNat_lt, UInt32.toNat_sub_of_le _ _ hle]
    omega

/-- The requests that the service parses well, and the sizes that `UnpackNetworkVariableData` decodes well. -/
theorem client_request_parse_iff (order : ByteOrder) (r : UserRequest) (leases : LeaseState) :
    (ClientParseOk order r leases ↔ ClientRequestReadable order r leases) ∧
      ∀ type mem q, decodedSize order type mem q = networkValue mem q type.sizeof ↔
        type = .uint16 → OrderFree order mem q := by
  refine ⟨?_, decodedSize_eq_iff order⟩
  unfold ClientParseOk ClientRequestReadable parseClientRequest
  by_cases hten : 10 ≤ r.dataSize.toNat
  · have hsize : ¬ (r.dataSize < 4 ∨ r.dataSize - 4 < offsetofReqType) := by
      rw [refused_for_size]
      omega
    have hleaseID : Inside r.dataSize.toNat (ntohl r.mem 0) := inside_ntohl.mpr (by omega)
    simp only [if_neg hsize, inside_bind, value_bind, hleaseID, true_and, hten, true_implies]
    cases clientLease leases (ntohl r.mem 0).value r.sessionId with
    | none => exact ⟨fun _ l h => absurd h.symm (Option.some_ne_none l), fun _ => ⟨inside_pure _, trivial⟩⟩
    | some l =>
      simp only [Option.some.injEq, forall_eq']
      by_cases hproto : l.protocolType ≠ protoNone
      · simp only [if_pos hproto, inside_bind, inside_pure, and_true, value_bind, value_pure]
        exact tunnel_iff hten
      · simp only [if_neg hproto]
        exact native_iff hten
  · rw [if_pos ((refused_for_size r).mpr (not_le.mp hten))]
    exact ⟨fun _ h => absurd h hten, fun _ => ⟨inside_pure _, trivial⟩⟩

end

def clientLeaseState (protocolType : UInt8) : LeaseState :=
  { LeaseState.start (Vector.replicate 16 0) with
    active := [{
      address := 1, leaseId := 5, expirationTime := 0, creationTime := 0, leaseType := .client
      protocolType, netAddr := Vector.replicate 16 0, tsapid := 0, objId := 0, localTSAPID := 0
      localObjId := 0, periodOrCommittedBurst := 0, staleLimit := 0, sessionId := 3, transactionId := 0
      contractId := 9, lastTx := 0, staleReported := false, request := 0 }] }

def shortTunnelRequest : UserRequest where
  ygsap := false
  sessionId := 3
  transactionId := 7
  dataSize := 17
  mem := fun q => [0, 0, 0, 5, 0, 0, 0, 2, 65, 66, 0, 1, 67].getD q 0

def longWriteRequest : UserRequest where
  ygsap := false
  sessionId := 3
  transactionId := 7
  dataSize := 25
  mem := fun q => [0, 0, 0, 5, 0, 0, 4, 0, 1, 0, 2, 0, 0, 0, 0, 3, 232, 65, 66, 67, 68].getD q 0

/-- The first length of the tunnel request is read as 512, and the request is refused. The write request is accepted, and its key is a copy of 1010 bytes. -/
theorem client_requests_misread :
    (parseClientRequest .little shortTunnelRequest (clientLeaseState 1)).value = .tunnel ⟨[(6, 512)], none⟩ ∧
      networkValue shortTunnelRequest.mem 6 2 = 2 ∧
      ¬ Inside 25 (parseClientRequest .little longWriteRequest (clientLeaseState 0)) := by
  decide

end Isa100Gateway
