import Isa100Gateway.Gateway.AlertSubscribe

/-!
# The lengths of lease and alert requests

What the lease management and the alert service read of a request's data block, and when all of it lies inside the `m_nDataSize` bytes that were received. The data of a lease request have one of two layouts, and the connection info lies behind them.
-/

namespace Isa100Gateway

open MemoryProbe UserRequest

/-- What the lease management reads elsewhere while it handles a request: the clock, the device list, the tunnel objects, the address that `new` returns, and whether a freed list node keeps its pointer. -/
structure LeaseSurroundings where
  now : Int32
  devices : YDevList
  tunnels : UInt16 → UInt16 → Bool
  address : UInt32
  nodeKept : Bool

def UserRequest.sizeofLeaseReqData (r : UserRequest) : UInt32 :=
  if r.ygsap then sizeofYLeaseMgmtReqData else sizeofTLeaseMgmtReqData

def UserRequest.leaseReqData (r : UserRequest) : Probe LeaseMgmtReqData := do
  let leaseID ← ntohl r.mem 0
  let leasePeriod ← ntohl r.mem 4
  let leaseType ← u8 r.mem 8
  let protocolType ← u8 r.mem 9
  let numberOfEndpoints ← u8 r.mem 10
  let targetSelector ← if r.ygsap then u8 r.mem 11 else pure 0
  let deviceTagSize ← if r.ygsap then u8 r.mem 12 else pure 0
  let deviceTag ← if r.ygsap then bytes16 r.mem 13 else pure (Vector.replicate 16 0)
  let fields := if r.ygsap then 29 else 11
  let endpointAddr ← bytes16 r.mem fields
  let endpointTSAPID ← ntohs r.mem (fields + 16)
  let endpointOID ← ntohs r.mem (fields + 18)
  let localTSAPID ← ntohs r.mem (fields + 20)
  let localOID ← ntohs r.mem (fields + 22)
  let _transferMode ← u8 r.mem (fields + 24)
  let _updatePolicy ← u8 r.mem (fields + 25)
  let period ← ntohs r.mem (fields + 26)
  let _phase ← u8 r.mem (fields + 28)
  let staleLimit ← u8 r.mem (fields + 29)
  let connectionInfoLen ← ntohs r.mem (fields + 30)
  pure {
    leaseID, leasePeriod, leaseType, protocolType, numberOfEndpoints, targetSelector, deviceTagSize, deviceTag
    endpointAddr, endpointTSAPID, endpointOID, localTSAPID, localOID
    periodOrCommittedBurst := period.toInt16
    staleLimit, connectionInfoLen }

def UserRequest.toLeaseRequest (r : UserRequest) (env : LeaseSurroundings) (d : LeaseMgmtReqData) : LeaseRequest where
  ygsap := r.ygsap
  sessionId := r.sessionId
  transactionId := r.transactionId
  dataSize := r.dataSize
  data := d
  now := env.now
  tagAddr := env.devices (deviceTag r.mem d.deviceTagSize 13).value
  tunnel := env.tunnels d.localTSAPID d.localOID
  address := env.address
  nodeKept := env.nodeKept

def readDeviceTag (r : UserRequest) (q : LeaseRequest) (type : LeaseType) : Probe Unit :=
  doIf (q.ygsap ∧ q.data.targetSelector = targetSelectorDeviceTag ∧ type ≠ .alert ∧ q.data.deviceTagSize ≠ 0) do
    let _ ← deviceTag r.mem q.data.deviceTagSize 13
    pure ()

def readConnectionInfo (r : UserRequest) (q : LeaseRequest) : Probe Unit :=
  let len := q.data.connectionInfoLen
  if 0 < len then
    if len.toUInt32 + sizeofTLeaseMgmtReqData ≤ r.dataSize then pure ()
    else do
      touch r.sizeofLeaseReqData.toNat len.toNat
      doIf (q.data.protocolType ≠ protoNone ∧ !q.isPromiscuousTunnel ∧ q.tunnel)
        (touch r.sizeofLeaseReqData.toNat len.toNat)
  else pure ()

def createLeaseReads (r : UserRequest) (q : LeaseRequest) (type : LeaseType) (s : LeaseState) : Probe Unit :=
  match s.sessionExpTime q.sessionId with
  | none => pure ()
  | some _ => do
    readDeviceTag r q type
    match q.endpointAddr type with
    | .error _ => pure ()
    | .ok _ => readConnectionInfo r q

def leaseRequestReads (r : UserRequest) (q : LeaseRequest) (s : LeaseState) : Probe Unit :=
  match validateUserRequest q s with
  | .accepted type => if q.data.leaseID = 0 then createLeaseReads r q type s else pure ()
  | _ => pure ()

def processLeaseRequest (env : LeaseSurroundings) (r : UserRequest) (s : LeaseState) : Probe (Option LeaseState) :=
  if r.dataSize - 4 < r.sizeofLeaseReqData then pure (some { s with requests := s.requests + 1 })
  else do
    let d ← r.leaseReqData
    leaseRequestReads r (r.toLeaseRequest env d) s
    pure (processUserRequest (r.toLeaseRequest env d) s)

def LeaseRequest.FieldsAccepted (q : LeaseRequest) (s : LeaseState) (type : LeaseType) : Prop :=
  s.sessionExpTime q.sessionId ≠ none ∧ q.data.endpointTSAPID ≤ 15 ∧ isUAPLocalValid q.data.localTSAPID ∧
    ¬ (q.data.protocolType = protoNone ∧ (q.data.leaseType = 0 ∨ q.data.leaseType = 4) ∧
      q.data.periodOrCommittedBurst > 10) ∧
    ¬ (q.data.protocolType ≠ protoNone ∧ !q.isPromiscuousTunnel ∧ q.data.localTSAPID ≠ gwUap ∧
      q.data.localTSAPID ≠ tunnelExtraUap) ∧
    q.data.numberOfEndpoints = 1 ∧ LeaseType.ofNumber q.data.leaseType = some type ∧
    (q.data.protocolType = protoNone ∨ type = .client ∨ type = .server)

def LeaseRequest.DeviceFound (q : LeaseRequest) (type : LeaseType) : Prop :=
  q.ygsap ∧ q.data.targetSelector = targetSelectorDeviceTag → type = .alert ∨
    q.data.deviceTagSize ≠ 0 ∧ q.tagAddr ≠ none

variable {type : LeaseType}

theorem LeaseRequest.endpointAddr_ok_iff {q : LeaseRequest} :
    (∃ addr, q.endpointAddr type = .ok addr) ↔ q.DeviceFound type := by
  unfold LeaseRequest.endpointAddr LeaseRequest.DeviceFound
  by_cases htag : q.ygsap ∧ q.data.targetSelector = targetSelectorDeviceTag
  · rw [if_pos htag]
    by_cases halert : type = .alert
    · rw [if_pos halert]
      exact ⟨fun _ _ => .inl halert, fun _ => ⟨_, rfl⟩⟩
    · rw [if_neg halert]
      by_cases hsize : q.data.deviceTagSize = 0
      · rw [if_pos hsize]
        constructor
        · rintro ⟨addr, haddr⟩
          exact nomatch haddr
        · exact fun h => ((h htag).resolve_left halert).1.elim hsize
      · rw [if_neg hsize]
        cases hfound : q.tagAddr with
        | none =>
          constructor
          · rintro ⟨addr, haddr⟩
            exact nomatch haddr
          · exact fun h => ((h htag).resolve_left halert).2.elim rfl
        | some addr => exact ⟨fun _ _ => .inr ⟨hsize, Option.some_ne_none addr⟩, fun _ => ⟨addr, rfl⟩⟩
  · rw [if_neg htag]
    exact ⟨fun _ h => absurd h htag, fun _ => ⟨_, rfl⟩⟩

theorem refused_ite_iff {c : Prop} [Decidable c] {check refusal : LeaseCheck} (h : refusal ≠ .accepted type) :
    (if c then refusal else check) = .accepted type ↔ ¬ c ∧ check = .accepted type := by
  by_cases hc : c
  · rw [if_pos hc]
    exact ⟨fun heq => absurd heq h, fun heq => absurd hc heq.1⟩
  · rw [if_neg hc]
    exact ⟨fun heq => ⟨hc, heq⟩, And.right⟩

theorem validateUserRequest_accepted_iff {q : LeaseRequest} {s : LeaseState} :
    validateUserRequest q s = .accepted type ↔
      ¬ q.dataSize - 4 < (if q.ygsap then sizeofYLeaseMgmtReqData else sizeofTLeaseMgmtReqData) ∧
        q.FieldsAccepted s type := by
  have hrefused (status : UInt8) (id : UInt32) : LeaseCheck.refused status id ≠ .accepted type :=
    LeaseCheck.noConfusion
  simp only [validateUserRequest, refused_ite_iff (hrefused _ _),
    refused_ite_iff (LeaseCheck.noConfusion : LeaseCheck.tooShort ≠ .accepted type)]
  simp only [LeaseRequest.FieldsAccepted, UInt16.not_lt, Bool.not_eq_true', not_not, ne_eq, Bool.not_eq_false,
    gt_iff_lt]
  iterate 7 refine and_congr_right' ?_
  cases htype : LeaseType.ofNumber q.data.leaseType with
  | none => simp
  | some type' =>
    by_cases hproto : q.data.protocolType = protoNone ∨ type' = .client ∨ type' = .server
    · simp only [if_pos hproto, LeaseCheck.accepted.injEq, Option.some.injEq]
      constructor
      · rintro rfl
        exact ⟨rfl, hproto⟩
      · exact And.left
    · simp only [if_neg hproto, Option.some.injEq]
      constructor
      · exact fun h => absurd h (hrefused _ _)
      · rintro ⟨rfl, h⟩
        exact absurd h hproto

/-- No size wraps, and every byte read was received. -/
def LeaseLengthsOk (env : LeaseSurroundings) (r : UserRequest) (s : LeaseState) : Prop :=
  4 ≤ r.dataSize.toNat ∧ Inside r.dataSize.toNat (processLeaseRequest env r s)

instance (env : LeaseSurroundings) (r : UserRequest) (s : LeaseState) : Decidable (LeaseLengthsOk env r s) :=
  inferInstanceAs (Decidable (_ ∧ _))

def CreatesLease (env : LeaseSurroundings) (r : UserRequest) (s : LeaseState) : Prop :=
  let q := r.toLeaseRequest env r.leaseReqData.value
  ¬ r.dataSize - 4 < r.sizeofLeaseReqData ∧ q.data.leaseID = 0 ∧ ∃ type, q.FieldsAccepted s type ∧ q.DeviceFound type

section

variable {env : LeaseSurroundings} {r : UserRequest} {s : LeaseState} {q : LeaseRequest} {type : LeaseType} {n : Nat}

theorem inside_deviceTag {mem : Nat → UInt8} {tagSize : UInt8} {p : Nat} (h : p + 17 ≤ n) :
    Inside n (deviceTag mem tagSize p) := by
  simp only [deviceTag, inside_bind, inside_touch, inside_pure, and_true]
  omega

theorem inside_leaseReqData : Inside n r.leaseReqData ↔ r.sizeofLeaseReqData.toNat ≤ n := by
  have hgsap : sizeofTLeaseMgmtReqData.toNat = 43 := rfl
  have hygsap : sizeofYLeaseMgmtReqData.toNat = 61 := rfl
  cases hversion : r.ygsap
  · simp [UserRequest.leaseReqData, UserRequest.sizeofLeaseReqData, hversion, hgsap]
    omega
  · simp [UserRequest.leaseReqData, UserRequest.sizeofLeaseReqData, hversion, hygsap]
    omega

theorem inside_readDeviceTag (h : q.ygsap → 61 ≤ n) : Inside n (readDeviceTag r q type) := by
  rw [readDeviceTag, inside_doIf]
  rintro ⟨hygsap, -⟩
  have hn := h hygsap
  rw [inside_bind]
  exact ⟨inside_deviceTag (by omega), inside_pure ()⟩

theorem inside_readConnectionInfo (hfixed : sizeofTLeaseMgmtReqData ≤ r.sizeofLeaseReqData) :
    Inside r.dataSize.toNat (readConnectionInfo r q) ↔
      q.data.connectionInfoLen = 0 ∨ q.data.connectionInfoLen.toNat + 43 ≤ r.dataSize.toNat := by
  have hbound := q.data.connectionInfoLen.toNat_lt
  have hsum : (q.data.connectionInfoLen.toUInt32 + sizeofTLeaseMgmtReqData).toNat =
      q.data.connectionInfoLen.toNat + 43 := by
    have hgsap : sizeofTLeaseMgmtReqData.toNat = 43 := rfl
    rw [UInt32.toNat_add, UInt16.toNat_toUInt32, hgsap]
    omega
  unfold readConnectionInfo
  by_cases hzero : q.data.connectionInfoLen = 0
  · rw [if_neg (by rw [hzero]; decide)]
    exact ⟨fun _ => .inl hzero, fun _ => inside_pure ()⟩
  · have hpos : 0 < q.data.connectionInfoLen := by
      rw [UInt16.lt_iff_toNat_lt]
      have hne : q.data.connectionInfoLen.toNat ≠ 0 := fun h => hzero (UInt16.toNat_inj.mp h)
      exact Nat.pos_of_ne_zero hne
    rw [if_pos hpos]
    by_cases hrefused : q.data.connectionInfoLen.toUInt32 + sizeofTLeaseMgmtReqData ≤ r.dataSize
    · rw [if_pos hrefused]
      rw [UInt32.le_iff_toNat_le, hsum] at hrefused
      exact ⟨fun _ => .inr hrefused, fun _ => inside_pure ()⟩
    · rw [if_neg hrefused, inside_bind, inside_touch]
      rw [UInt32.le_iff_toNat_le, hsum] at hrefused
      have hsize : 43 ≤ r.sizeofLeaseReqData.toNat := UInt32.le_iff_toNat_le.mp hfixed
      constructor
      · rintro ⟨hinside, -⟩
        omega
      · rintro (h | h)
        · exact absurd h hzero
        · exact absurd h hrefused

theorem sizeofLeaseReqData_bounds (r : UserRequest) :
    sizeofTLeaseMgmtReqData ≤ r.sizeofLeaseReqData ∧ r.sizeofLeaseReqData.toNat ≤ 61 ∧
      (r.ygsap → r.sizeofLeaseReqData.toNat = 61) := by
  unfold UserRequest.sizeofLeaseReqData
  cases r.ygsap <;> decide

theorem fixed_part_received (hfour : 4 ≤ r.dataSize.toNat) (hcheck : ¬ r.dataSize - 4 < r.sizeofLeaseReqData) :
    r.sizeofLeaseReqData.toNat + 4 ≤ r.dataSize.toNat := by
  have hle : (4 : UInt32) ≤ r.dataSize := UInt32.le_iff_toNat_le.mpr hfour
  rw [UInt32.lt_iff_toNat_lt, UInt32.toNat_sub_of_le _ _ hle] at hcheck
  have h : (4 : UInt32).toNat = 4 := rfl
  omega

theorem inside_createLeaseReads (h : q.ygsap → 61 ≤ n) (hsession : s.sessionExpTime q.sessionId ≠ none) :
    Inside n (createLeaseReads r q type s) ↔ (q.DeviceFound type → Inside n (readConnectionInfo r q)) := by
  rw [← LeaseRequest.endpointAddr_ok_iff]
  obtain ⟨expTime, hexp⟩ := Option.ne_none_iff_exists'.mp hsession
  simp only [createLeaseReads, hexp, inside_bind]
  cases haddr : q.endpointAddr type with
  | error status => simp [inside_readDeviceTag h]
  | ok addr => simp [inside_readDeviceTag h]

theorem inside_leaseRequestReads : Inside n (leaseRequestReads r q s) ↔
    ∀ type, validateUserRequest q s = .accepted type → q.data.leaseID = 0 →
      Inside n (createLeaseReads r q type s) := by
  unfold leaseRequestReads
  cases hcheck : validateUserRequest q s with
  | tooShort => exact ⟨fun _ _ h => (nomatch h), fun _ => inside_pure ()⟩
  | refused status id => exact ⟨fun _ _ h => (nomatch h), fun _ => inside_pure ()⟩
  | accepted type =>
    by_cases hnew : q.data.leaseID = 0
    · simp [hnew]
    · simp [hnew]

theorem leaseLengthsOk_iff (env : LeaseSurroundings) (r : UserRequest) (s : LeaseState) :
    LeaseLengthsOk env r s ↔ 4 ≤ r.dataSize.toNat ∧ (CreatesLease env r s →
      r.leaseReqData.value.connectionInfoLen = 0 ∨
        r.leaseReqData.value.connectionInfoLen.toNat + 43 ≤ r.dataSize.toNat) := by
  refine and_congr_right fun hfour => ?_
  unfold processLeaseRequest CreatesLease
  by_cases hcheck : r.dataSize - 4 < r.sizeofLeaseReqData
  · simp only [if_pos hcheck]
    exact ⟨fun _ h => absurd hcheck h.1, fun _ => inside_pure _⟩
  · obtain ⟨hfixed, -, hygsap⟩ := sizeofLeaseReqData_bounds r
    have hreceived := fixed_part_received hfour hcheck
    simp only [if_neg hcheck, inside_bind, inside_leaseReqData, inside_pure, and_true]
    generalize hq : r.toLeaseRequest env r.leaseReqData.value = q
    have hdata : q.data = r.leaseReqData.value := by
      rw [← hq]
      rfl
    have hroom : q.ygsap → 61 ≤ r.dataSize.toNat := by
      intro h
      rw [← hq] at h
      have h61 := hygsap h
      omega
    have hsize : ¬ q.dataSize - 4 < (if q.ygsap then sizeofYLeaseMgmtReqData else sizeofTLeaseMgmtReqData) := by
      rw [← hq]
      exact hcheck
    rw [inside_leaseRequestReads, ← hdata, ← inside_readConnectionInfo hfixed]
    constructor
    · rintro ⟨-, hreads⟩ ⟨-, hnew, type, hfields, hdevice⟩
      have hinside := hreads type (validateUserRequest_accepted_iff.mpr ⟨hsize, hfields⟩) hnew
      exact (inside_createLeaseReads hroom hfields.1).mp hinside hdevice
    · intro hinfo
      refine ⟨by omega, fun type haccepted hnew => ?_⟩
      have hfields := (validateUserRequest_accepted_iff.mp haccepted).2
      rw [inside_createLeaseReads hroom hfields.1]
      exact fun hdevice => hinfo ⟨hcheck, hnew, type, hfields, hdevice⟩

end

/-- No size wraps, `nLeftLen` is the number of bytes left, and every byte read was received. -/
def AlertLengthsOk (devices : YDevList) (r : UserRequest) (leases : LeaseState) (svc : AlertSvc) : Prop :=
  4 ≤ r.dataSize.toNat ∧ (alertLease (ntohl r.mem 0).value leases r.sessionId = true →
      alertLeftLen r = (r.dataSize.toNat : Int) - 8) ∧
    Inside r.dataSize.toNat (svc.processUserRequest devices r leases)

section

variable {devices : YDevList} {r : UserRequest} {leaseID : UInt32} {q n : Nat} {left : Int}

theorem inside_extractDeviceAddress {mem : Nat → UInt8} (h : q + 34 ≤ n) :
    Inside n (extractDeviceAddress devices mem q) := by
  have hselector : q + 1 ≤ n := by omega
  have htagSize : q + 1 + 1 ≤ n := by omega
  have htag : Inside n (deviceTag mem (mem (q + 1)) (q + 2)) := inside_deviceTag (by omega)
  have haddr : q + 18 + 16 ≤ n := by omega
  rw [extractDeviceAddress, inside_bind]
  refine ⟨inside_u8.mpr hselector, ?_⟩
  split
  · rw [inside_bind]
    refine ⟨inside_u8.mpr htagSize, ?_⟩
    split
    · exact inside_pure none
    · exact (inside_bind _ _).mpr ⟨htag, inside_pure _⟩
  · split
    · exact (inside_bind _ _).mpr ⟨inside_bytes16.mpr haddr, inside_pure _⟩
    · exact inside_pure none

theorem ygsap_of_netAddrSubscription (h : (netAddrSubscription devices r leaseID q).value = none) :
    r.ygsap = true := by
  cases hversion : r.ygsap with
  | true => rfl
  | false =>
    simp [netAddrSubscription, translateYAlertReq, hversion] at h

theorem inside_netAddrSubscription (h : q + sizeofSubscNetAddr r ≤ n) :
    Inside n (netAddrSubscription devices r leaseID q) := by
  unfold sizeofSubscNetAddr sizeofYSubscNetAddr sizeofTSubscNetAddr at h
  rw [netAddrSubscription, inside_bind]
  constructor
  · unfold translateYAlertReq
    split
    · rw [if_pos ‹_›] at h
      exact inside_extractDeviceAddress (by omega)
    · rw [if_neg ‹_›] at h
      rw [inside_bind]
      exact ⟨inside_bytes16.mpr (by omega), inside_pure _⟩
  · cases (translateYAlertReq devices r q).value with
    | none => exact inside_pure none
    | some addr =>
      have hfields : (if r.ygsap then q + 37 else q + 19) + 5 ≤ n := by
        split
        · rw [if_pos ‹_›] at h
          omega
        · rw [if_neg ‹_›] at h
          omega
      have hsubscribe : q + 2 + 1 ≤ n := by
        split at h <;> omega
      simp only [inside_bind, inside_u8, inside_ntohs, inside_pure, and_true]
      omega

theorem inside_alertRound (h : q + left ≤ n) : Inside n (alertRound devices r leaseID q left) := by
  unfold alertRound
  split
  · exact inside_pure _
  · rename_i hleft
    have hfour : q + 4 ≤ n := by
      simp only [sizeofTSubscCateg] at hleft
      omega
    rw [inside_bind]
    refine ⟨inside_u8.mpr (by omega), ?_⟩
    split
    · exact inside_pure _
    · rename_i hlong
      split
      · simp only [inside_bind, inside_u8]
        refine ⟨by omega, by omega, by omega, ?_⟩
        split
        · exact (inside_bind _ _).mpr ⟨inside_bytes.mpr hfour, inside_pure _⟩
        · exact inside_pure _
      · split
        · rename_i htype
          have hfits := sizeofSubscNetAddr_le.mpr fun hshort => hlong ⟨htype, hshort⟩
          rw [inside_bind]
          refine ⟨inside_netAddrSubscription (by omega), ?_⟩
          cases htranslates : (netAddrSubscription devices r leaseID q).value with
          | some e => exact inside_pure _
          | none =>
            have hsize : sizeofSubscNetAddr r = sizeofYSubscNetAddr :=
              if_pos (ygsap_of_netAddrSubscription htranslates)
            have hmax : max sizeofTSubscNetAddr sizeofYSubscNetAddr = sizeofYSubscNetAddr := by decide
            refine (inside_bind _ _).mpr ⟨inside_bytes.mpr ?_, inside_pure _⟩
            rw [hmax]
            omega
        · exact inside_pure _

theorem inside_alertLoop {rounds : Nat} {svc : AlertSvc} (h : q + left ≤ n) :
    Inside n (alertLoop devices r leaseID rounds svc q left) := by
  induction rounds generalizing svc q left with
  | zero => exact inside_pure _
  | succ rounds ih =>
    rw [alertLoop, inside_bind]
    refine ⟨inside_alertRound h, ?_⟩
    cases (alertRound devices r leaseID q left).value with
    | breaks => exact inside_pure _
    | confirms c => exact inside_pure _
    | applies e jump =>
      apply ih
      push_cast
      omega

theorem alertLeftLen_lt : alertLeftLen r < 2 ^ 31 := by
  exact_mod_cast Int32.toInt_lt (r.dataSize - 4 - 4).toInt32

theorem alertLengthsOk_iff (devices : YDevList) (r : UserRequest) (leases : LeaseState) (svc : AlertSvc) :
    AlertLengthsOk devices r leases svc ↔ 4 ≤ r.dataSize.toNat ∧
      (alertLease (ntohl r.mem 0).value leases r.sessionId = true → r.dataSize.toNat < 2 ^ 31 + 8) := by
  refine and_congr_right fun hfour => ?_
  constructor
  · rintro ⟨hleft, -⟩ hlease
    have hvalue := hleft hlease
    have hint := alertLeftLen_lt (r := r)
    omega
  · intro hsize
    have hleft (h : alertLease (ntohl r.mem 0).value leases r.sessionId = true) :
        alertLeftLen r = (r.dataSize.toNat : Int) - 8 := alertLeftLen_eq (hsize h)
    refine ⟨hleft, ?_⟩
    unfold AlertSvc.processUserRequest
    split
    · exact inside_pure _
    · rw [inside_bind]
      refine ⟨inside_ntohl.mpr hfour, ?_⟩
      split
      · rename_i hlease
        refine (inside_bind _ _).mpr ⟨inside_alertLoop ?_, inside_pure _⟩
        rw [hleft hlease]
        omega
      · exact inside_pure _

end

/-- Lease requests are read inside their data if the size holds a CRC and no connection info is taken, which the check lets through only when it does not fit. Alert requests are if the size holds a CRC and the number of bytes left is an `int`. -/
theorem request_lengths_iff (env : LeaseSurroundings) (devices : YDevList) (r : UserRequest) (s : LeaseState)
    (svc : AlertSvc) : (LeaseLengthsOk env r s ↔ 4 ≤ r.dataSize.toNat ∧ (CreatesLease env r s →
      r.leaseReqData.value.connectionInfoLen = 0 ∨
        r.leaseReqData.value.connectionInfoLen.toNat + 43 ≤ r.dataSize.toNat)) ∧
    (AlertLengthsOk devices r s svc ↔ 4 ≤ r.dataSize.toNat ∧
      (alertLease (ntohl r.mem 0).value s r.sessionId = true → r.dataSize.toNat < 2 ^ 31 + 8)) :=
  ⟨leaseLengthsOk_iff env r s, alertLengthsOk_iff devices r s svc⟩

def longConnectionInfo : UserRequest where
  ygsap := false
  sessionId := 3
  transactionId := 7
  dataSize := 47
  mem := fun q => if q = 8 then 1 else if q = 10 then 1 else if q = 42 then 100 else 0

def serverLeaseSurroundings : LeaseSurroundings where
  now := 0
  devices := fun _ => none
  tunnels := fun _ _ => false
  address := 2
  nodeKept := false

def openSession : LeaseState :=
  { LeaseState.start (Vector.replicate 16 0) with
    sessions := AList.insert 3 ⟨0, false, true⟩ ∅ }

/-- The lease is granted, with bytes from behind the data block as its connection info. -/
theorem longConnectionInfo_read_past : ¬ LeaseLengthsOk serverLeaseSurroundings longConnectionInfo openSession ∧
      (processLeaseRequest serverLeaseSurroundings longConnectionInfo openSession).value.map
        (fun s => s.active.map Lease.leaseId) = some [1] := by
  decide

end Isa100Gateway
