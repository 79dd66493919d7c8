import Isa100Gateway.Gateway.LeaseMgmt
import Isa100Gateway.Lib.Bytes

/-!
# Client/server service (`ClientServerSvc.cpp`)

The requests of the clients to the devices, the requests that wait for their response, and the cache of responses. `none` stands for a use of memory that was not initialised.
-/

namespace Isa100Gateway

/-- The bytes after a request or response header, as many as a 16-bit length can give. -/
@[ext]
structure CsBytes where
  bytes : List UInt8
  fits : bytes.length < 65536
deriving DecidableEq

def CsBytes.length (b : CsBytes) : UInt16 := UInt16.ofNat b.bytes.length

/-- `TClientServerReqData::m_uData` of the three request types, in host order. -/
inductive CsReqData where
  | read (objectID attrID attrIdx1 attrIdx2 : UInt16)
  | write (objectID attrID attrIdx1 attrIdx2 : UInt16) (reqData : CsBytes)
  | exec (objectID methodID : UInt16) (reqData : CsBytes)
deriving DecidableEq

def sizeofReqDataRead : UInt16 := 8
def sizeofReqDataWrite : UInt16 := 10
def sizeofReqDataExec : UInt16 := 6

namespace CsReqData

def reqType : CsReqData → UInt8
  | .read .. => srvcTypeRead
  | .write .. => srvcTypeWrite
  | .exec .. => srvcTypeExecute

def objectID : CsReqData → UInt16
  | .read objectID .. => objectID
  | .write objectID .. => objectID
  | .exec objectID .. => objectID

def field (x : UInt16) : List UInt8 := [x.toUInt8, (x >>> 8).toUInt8]

def header : CsReqData → List UInt8
  | .read objectID attrID attrIdx1 attrIdx2 => field objectID ++ field attrID ++ field attrIdx1 ++ field attrIdx2
  | .write objectID attrID attrIdx1 attrIdx2 reqData =>
    field objectID ++ field attrID ++ field attrIdx1 ++ field attrIdx2 ++ field reqData.length
  | .exec objectID methodID reqData => field objectID ++ field methodID ++ field reqData.length

def payload : CsReqData → List UInt8
  | .read .. => []
  | .write _ _ _ _ reqData => reqData.bytes
  | .exec _ _ reqData => reqData.bytes

def bytes (d : CsReqData) : List UInt8 := d.header ++ d.payload

def dataLen : CsReqData → UInt16
  | .read .. => sizeofReqDataRead
  | .write _ _ _ _ reqData => sizeofReqDataWrite + reqData.length
  | .exec _ _ reqData => sizeofReqDataExec + reqData.length

def Fits (d : CsReqData) : Prop := d.bytes.length < 65536

instance (d : CsReqData) : Decidable d.Fits := inferInstanceAs (Decidable (_ < _))

end CsReqData

structure CSKey where
  contractID : UInt16
  buffer : UInt8
  reqType : UInt8
  creat : Int
  data : List UInt8

/-- The constructor of `CSKey`. A length that wraps to 0 leaves the pointer to the data without a value. -/
def CSKey.new (contractID : UInt16) (buffer : UInt8) (creat : Int) (d : CsReqData) : Option CSKey :=
  if d.dataLen = 0 then none
  else some ⟨contractID, buffer, d.reqType, creat, d.bytes.take d.dataLen.toNat⟩

def CSKey.cacheCompare (k₁ k₂ : CSKey) : Bool :=
  if k₁.contractID ≠ k₂.contractID then k₁.contractID < k₂.contractID
  else if k₁.reqType ≠ k₂.reqType then k₁.reqType < k₂.reqType
  else if k₁.data.length ≠ k₂.data.length then k₁.data.length < k₂.data.length
  else Bytes.memcmpLess k₁.data k₂.data

def CSKey.equiv (k₁ k₂ : CSKey) : Bool := !k₁.cacheCompare k₂ && !k₂.cacheCompare k₁

theorem CSKey.equiv_iff {k₁ k₂ : CSKey} : k₁.equiv k₂ = true ↔
    k₁.contractID = k₂.contractID ∧ k₁.reqType = k₂.reqType ∧ k₁.data = k₂.data := by
  unfold CSKey.equiv CSKey.cacheCompare
  by_cases hcontract : k₁.contractID = k₂.contractID
  · by_cases htype : k₁.reqType = k₂.reqType
    · by_cases hlength : k₁.data.length = k₂.data.length
      · simp only [hcontract, htype, hlength, ne_eq, not_true_eq_false, if_false, true_and]
        constructor
        · intro hequiv
          rw [Bool.and_eq_true, Bool.not_eq_true', Bool.not_eq_true'] at hequiv
          exact Bytes.eq_of_not_memcmpLess hequiv.1 hequiv.2
        · intro hdata
          rw [hdata, Bytes.memcmpLess_irrefl]
          rfl
      · have hdata : k₁.data ≠ k₂.data := fun h => hlength (congrArg List.length h)
        simp [hcontract, htype, hlength, Ne.symm hlength, hdata]
        omega
    · have hne : k₂.reqType ≠ k₁.reqType := Ne.symm htype
      simp [hcontract, htype, hne]
      intro hle
      exact UInt8.lt_of_le_of_ne hle hne
  · have hne : k₂.contractID ≠ k₁.contractID := Ne.symm hcontract
    simp [hcontract, hne]
    intro hle
    exact UInt16.lt_of_le_of_ne hle hne

structure CsConfirmData where
  status : UInt8
  txSeconds : UInt32
  txuSeconds : UInt32
  reqType : UInt8
  objectID : UInt16
  sfc : UInt8
  rspData : Option CsBytes
deriving DecidableEq

structure CsSource where
  addr : List UInt8
  port : UInt16
  request : CsReqData
deriving DecidableEq

/-- `CSData`. The source is kept for the statements only. -/
structure CSData where
  lastRx : Int
  confirm : CsConfirmData
  source : CsSource
deriving DecidableEq

def CSData.isValid (now lifetime : Int) (d : CSData) : Bool := now - d.lastRx ≤ lifetime

structure CsResponse where
  txSeconds : UInt32
  txuSeconds : UInt32
  sfc : UInt8
  rspData : CsBytes

def csSuccess : UInt8 := 0
def csLeaseExpired : UInt8 := 3
def csFailOther : UInt8 := 4

def CsResponse.confirm (rsp : CsResponse) (d : CsReqData) : CsConfirmData where
  status := csSuccess
  txSeconds := rsp.txSeconds
  txuSeconds := rsp.txuSeconds
  reqType := (srvcResponse <<< 7) ||| d.reqType
  objectID := d.objectID
  sfc := rsp.sfc
  rspData :=
    match d with
    | .read .. => some (if rsp.sfc = sfcSuccess then rsp.rspData else ⟨[], by decide⟩)
    | .write .. => none
    | .exec .. => some rsp.rspData

structure CsSent where
  handle : UInt16
  contractID : UInt16
  dstTSAPID : UInt8
  request : CsReqData
deriving DecidableEq

inductive CsEffect where
  | confirmStatus (session transaction : UInt32) (status : UInt8)
  | confirmCached (session transaction : UInt32) (d : CSData)
  | confirmDevice (handle : UInt16) (confirm : CsConfirmData)
  | confirmTimeout (handle : UInt16) (buffered : Bool)
deriving DecidableEq

/-- The maps of `CClientServerService`, the leases and contracts, the destinations in the contract table of the network layer, and the requests in the queue of the application layer. -/
structure CsState where
  leases : LeaseState
  destinations : AList fun _ : UInt16 => List UInt8
  inFlight : List CsSent
  cache : List (CSKey × CSData)
  pending : List (UInt16 × CSKey)
  cacheTimeout : Int
  out : List CsEffect

namespace CsState

def start (smAddress : Addr128) (cacheTimeout : Int) : CsState where
  leases := LeaseState.start smAddress
  destinations := ∅
  inFlight := []
  cache := []
  pending := []
  cacheTimeout := cacheTimeout
  out := []

def findCache (s : CsState) (k : CSKey) : Option CSData := (s.cache.find? fun e => e.1.equiv k).map Prod.snd

def findPending (s : CsState) (handle : UInt16) : Option CSKey :=
  (s.pending.find? fun p => p.1 = handle).map Prod.snd

def erasePending (s : CsState) (handle : UInt16) : CsState :=
  { s with pending := s.pending.filter fun p => p.1 ≠ handle }

/-- `m_mapPendingReq.insert`, which leaves an entry with the handle as it is. -/
def insertPending (s : CsState) (handle : UInt16) (k : CSKey) : CsState :=
  if (s.findPending handle).isSome then s else { s with pending := s.pending ++ [(handle, k)] }

def putCache (s : CsState) (k : CSKey) (d : CSData) : CsState :=
  if (s.findCache k).isSome then
    { s with cache := s.cache.map fun e => if e.1.equiv k then (e.1, d) else e }
  else { s with cache := s.cache ++ [(k, d)] }

def confirmStatus (s : CsState) (session transaction : UInt32) (status : UInt8) : CsState :=
  { s with out := s.out ++ [.confirmStatus session transaction status] }

end CsState

/-- A request, and what the service meets on the way: the handle of the queued request, 0 when the application layer refuses it with `sfc`, and the status of the tunnel path, which may not confirm. -/
structure CsUserRequest where
  ygsap : Bool
  (sessionId transactionId dataSize leaseID : UInt32)
  buffer : UInt8
  data : Option CsReqData
  now : Int
  handle : UInt16
  sfc : UInt8
  tunnelStatus : Option UInt8

def offsetofReqType : UInt32 := 6

def CsState.requestLease (s : CsState) (r : CsUserRequest) : Option Lease :=
  (s.leases.findLease r.leaseID r.sessionId).filter fun l =>
    (l.leaseType = .client ∨ l.leaseType = .server) ∧ l.contractId ≠ 0

def CsState.processUserRequest (r : CsUserRequest) (s : CsState) : Option CsState :=
  let status (ygs cs : UInt8) : CsState :=
    s.confirmStatus r.sessionId r.transactionId (if r.ygsap then ygs else cs)
  if r.dataSize < 4 ∨ r.dataSize - 4 < offsetofReqType then some (status ygsFailure csFailOther)
  else
    match s.requestLease r with
    | none => some (status ygsInvalidLease csLeaseExpired)
    | some l =>
      if l.protocolType ≠ protoNone then
        match r.tunnelStatus with
        | some st => some (s.confirmStatus r.sessionId r.transactionId st)
        | none => some s
      else
        match r.data with
        | none => some (status ygsFailure csFailOther)
        | some d =>
          (CSKey.new l.contractId r.buffer r.now d).map fun k =>
            match (s.findCache k).filter fun c => r.buffer ≠ 0 && c.isValid r.now s.cacheTimeout with
            | some c => { s with out := s.out ++ [.confirmCached r.sessionId r.transactionId c] }
            | none =>
              if r.handle = 0 then
                status ygsFailure (if r.sfc = sfcNoContract then csLeaseExpired else csFailOther)
              else
                CsState.insertPending { s with
                  inFlight := s.inFlight ++ [⟨r.handle, l.contractId, l.shortTSAPID, d⟩] } r.handle k

def uapSmapId : UInt8 := 1
def smoMethodGetContractsAndRoutes : UInt16 := 15
def smSmoObjId : UInt16 := 5

def contractListRequest : CsReqData := .exec smSmoObjId smoMethodGetContractsAndRoutes ⟨[], by decide⟩

def CsState.requestContractList (now : Int) (handle : UInt16) (s : CsState) : Option CsState :=
  (CSKey.new s.leases.smContractID 0 now contractListRequest).map fun k =>
    if s.pending.any fun p => p.2.equiv k then s
    else if handle = 0 then s
    else
      CsState.insertPending { s with
        inFlight := s.inFlight ++ [⟨handle, s.leases.smContractID, uapSmapId, contractListRequest⟩] } handle k

def CsState.onLeaseDelete (l : Lease) (usageCount : Option UInt8) (s : CsState) : CsState :=
  if usageCount = some 0 then
    { s with
      pending := s.pending.filter fun p => p.2.contractID ≠ l.contractId
      cache := s.cache.filter fun e => e.1.contractID ≠ l.contractId }
  else s

def CsState.onLeaseEffects (s : CsState) (es : List LeaseEffect) : CsState :=
  es.foldl (fun s e => match e with
    | .leaseDelete l usageCount => s.onLeaseDelete l usageCount
    | _ => s) s

/-- `ProcessAPDU` for the response to a queued request. Without a pending key the response goes to its client only. -/
def CsState.processAPDU (m : CsSent) (source : CsSource) (rsp : CsResponse) (now : Int) (s : CsState) : CsState :=
  let confirm := rsp.confirm m.request
  let s :=
    match s.findPending m.handle with
    | none => s
    | some k => (s.putCache k ⟨now, confirm, source⟩).erasePending m.handle
  { s with out := s.out ++ [.confirmDevice m.handle confirm] }

def CsState.processISATimeout (m : CsSent) (s : CsState) : CsState :=
  let buffered := (s.findPending m.handle).any fun k => k.buffer ≠ 0
  let s := s.erasePending m.handle
  { s with out := s.out ++ [.confirmTimeout m.handle buffered] }

inductive CsEvent where
  | lease (e : LeaseEvent)
  | destination (id : UInt16) (dest : Option (List UInt8))
  | userRequest (r : CsUserRequest)
  | requestContractList (now : Int) (handle : UInt16)
  | response (m : CsSent) (rsp : CsResponse) (now : Int)
  | timeout (m : CsSent)

def devicePort (tsapid : UInt8) : UInt16 := isa100StartPorts + tsapid.toUInt16

/-- One step from a state without effects. A response belongs to a queued request whose contract leads to the address that it comes from. -/
def CsEvent.apply (s : CsState) : CsEvent → Option CsState
  | .lease e =>
    (leaseStep s.leases e).map fun leases => CsState.onLeaseEffects { s with leases := leases } leases.out
  | .destination id dest =>
    some { s with destinations :=
      match dest with
      | some addr => s.destinations.insert id addr
      | none => s.destinations.erase id }
  | .userRequest r => s.processUserRequest r
  | .requestContractList now handle => s.requestContractList now handle
  | .response m rsp now =>
    if m ∈ s.inFlight then
      (s.destinations.lookup m.contractID).map fun addr =>
        CsState.processAPDU m ⟨addr, devicePort m.dstTSAPID, m.request⟩ rsp now
          { s with inFlight := s.inFlight.erase m }
    else none
  | .timeout m =>
    if m ∈ s.inFlight then some (CsState.processISATimeout m { s with inFlight := s.inFlight.erase m })
    else none

def csStep (s : CsState) (e : CsEvent) : Option CsState := e.apply { s with out := [] }

end Isa100Gateway
