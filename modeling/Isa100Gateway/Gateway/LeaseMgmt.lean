import Isa100Gateway.Dmo.ContractRequest
import Isa100Gateway.Lib.Run
import Isa100Gateway.Slme.KeyTable

/-!
# Lease management (`LeaseMgmtSvc.cpp`)

The leases of the client sessions, the usage counts that the service keeps in the contracts of the DMO, and what it sends. A lease is known by its address. `none` stands for a use of memory that is not the lease's, and for an address that `new` does not give out.
-/

namespace Isa100Gateway

inductive LeaseType where
  | client
  | server
  | publisher
  | subscriber
  | bulkClient
  | bulkServer
  | alert
deriving DecidableEq

def LeaseType.ofNumber : UInt8 → Option LeaseType
  | 0 => some .client
  | 1 => some .server
  | 2 => some .publisher
  | 3 => some .subscriber
  | 4 => some .bulkClient
  | 5 => some .bulkServer
  | 6 => some .alert
  | _ => none

/-- `lease`, with its address. `request` is the number of the user request that the lease is confirmed to, kept for the statements only. -/
structure Lease where
  address : UInt32
  leaseId : UInt32
  expirationTime : Int32
  creationTime : Int32
  leaseType : LeaseType
  protocolType : UInt8
  netAddr : Addr128
  (tsapid objId localTSAPID localObjId : UInt16)
  periodOrCommittedBurst : Int16
  staleLimit : UInt8
  sessionId : UInt32
  transactionId : UInt32
  contractId : UInt16
  lastTx : Int
  staleReported : Bool
  request : Nat
deriving DecidableEq

def srvcAperiodicComm : UInt8 := 1

def Lease.isPeriodic (l : Lease) : Bool :=
  l.leaseType = .publisher ∨ l.leaseType = .subscriber

def Lease.shortTSAPID (l : Lease) : UInt8 := l.tsapid.toUInt8

def Lease.endpoints (l : Lease) : ContractEndpoints :=
  ⟨l.netAddr.toList, isa100StartPorts + l.shortTSAPID.toUInt16, isa100AppPort⟩

def Lease.grantedPeriod (l : Lease) : UInt32 :=
  if l.expirationTime = 0 then 0 else (l.expirationTime - l.creationTime).toUInt32

/-- What the service uses of a `DMO_CONTRACT_ATTRIBUTE`. -/
structure LeaseContract where
  endpoints : ContractEndpoints
  serviceType : UInt8
  usageCount : UInt8

abbrev LeaseContracts := AList fun _ : UInt16 => LeaseContract

namespace LeaseContracts

def usageCount (contracts : LeaseContracts) (id : UInt16) : Option UInt8 :=
  (contracts.lookup id).map LeaseContract.usageCount

def recount (contracts : LeaseContracts) (id : UInt16) (f : UInt8 → UInt8) : LeaseContracts :=
  match contracts.lookup id with
  | some c => contracts.insert id { c with usageCount := f c.usageCount }
  | none => contracts

/-- `DMO_GetContract`: of the contracts with the end points the one with the lowest id. -/
def getContract (contracts : LeaseContracts) (endpoints : ContractEndpoints) (serviceType : UInt8) : Option UInt16 :=
  ((contracts.entries.filter fun e =>
    e.2.serviceType = serviceType ∧ e.2.endpoints = endpoints).map fun e => e.1.toNat).min?.map
      UInt16.ofNat

end LeaseContracts

structure LeaseSession where
  expirationTime : Int32
  ygsap : Bool
  connected : Bool

/-- What the service does outside its lists. `leaseDelete` has the usage count that the other services read during it. -/
inductive LeaseEffect where
  | confirm (session transaction : UInt32) (status : UInt8) (leaseId period : UInt32) (request : Nat)
  | leaseAdd (l : Lease)
  | leaseDelete (l : Lease) (usageCount : Option UInt8)
  | requestNewContract (endpoints : ContractEndpoints)
  | requestContractTermination (id : UInt16)
deriving DecidableEq

/-- The lists of `CLeaseMgmtService`, what it reads of the DMO and the sessions, the number of user requests, and the effects of the current step. -/
structure LeaseState where
  (inProgress active subscriber pendingDelete : List Lease)
  leaseIndTop : UInt32
  contracts : LeaseContracts
  smAddress : Addr128
  smContractID : UInt16
  sessions : AList fun _ : UInt32 => LeaseSession
  requests : Nat
  out : List LeaseEffect

def LeaseState.start (smAddress : Addr128) : LeaseState where
  inProgress := []
  active := []
  subscriber := []
  pendingDelete := []
  leaseIndTop := 1
  contracts := ∅
  smAddress := smAddress
  smContractID := 0
  sessions := ∅
  requests := 0
  out := []

namespace LeaseState

def leases (s : LeaseState) : List Lease :=
  s.inProgress ++ s.active ++ s.subscriber ++ s.pendingDelete

def connected (s : LeaseState) (session : UInt32) : Bool :=
  (s.sessions.lookup session).any LeaseSession.connected

def ygsap (s : LeaseState) (session : UInt32) : Bool :=
  (s.sessions.lookup session).any LeaseSession.ygsap

def sessionExpTime (s : LeaseState) (session : UInt32) : Option Int32 :=
  if session = 0 then none else (s.sessions.lookup session).map LeaseSession.expirationTime

def leaseConfirm (s : LeaseState) (session transaction : UInt32) (status : UInt8)
    (leaseId period : UInt32) (request : Nat) : LeaseState :=
  { s with out := s.out ++
      if s.connected session then [.confirm session transaction status leaseId period request]
      else [] }

def newLeaseId (s : LeaseState) : UInt32 := if s.leaseIndTop = 0 then 1 else s.leaseIndTop

end LeaseState

def leaseSuccess : UInt8 := 0
def leaseSuccessReduced : UInt8 := 1
def leaseNotExist : UInt8 := 2
def leaseNotAvailable : UInt8 := 3
def leaseInvalidInformation : UInt8 := 6
def leaseFailOther : UInt8 := 7

def ygsSuccessReduced : UInt8 := 1
def ygsTagNotFound : UInt8 := 5
def ygsLimitExceeded : UInt8 := 6
def ygsInvalidType : UInt8 := 7
def ygsInvalidTypeInfo : UInt8 := 8
def ygsInvalidLease : UInt8 := 17
def ygsFailure : UInt8 := 250

def removing (p : Lease → Bool) (act : LeaseState → Lease → LeaseState) (s : LeaseState) (l : Lease) :
    LeaseState × Option Lease :=
  if p l then (act s l, none) else (s, some l)

namespace LeaseState

variable (s : LeaseState) (p : Lease → Bool) (act : LeaseState → Lease → LeaseState)

def sweepInProgress : LeaseState :=
  let swept := Machine.pass (removing p act) s s.inProgress
  { swept.1 with inProgress := swept.2 }

def sweepActive : LeaseState :=
  let swept := Machine.pass (removing p act) s s.active
  { swept.1 with active := swept.2 }

def sweepSubscriber : LeaseState :=
  let swept := Machine.pass (removing p act) s s.subscriber
  { swept.1 with subscriber := swept.2 }

def sweepPendingDelete : LeaseState :=
  let swept := Machine.pass (removing p act) s s.pendingDelete
  { swept.1 with pendingDelete := swept.2 }

variable {s p act}

theorem pass_removing (leases : List Lease) :
    (Machine.pass (removing p act) s leases).2 = leases.filter fun l => !p l := by
  induction leases generalizing s with
  | nil => rfl
  | cons l leases ih =>
    change (removing p act s l).2.toList ++ _ = _
    rw [ih, List.filter_cons]
    cases hp : p l <;> simp [removing, hp]

theorem pass_removing_idle {leases : List Lease} (h : ∀ l ∈ leases, p l = false) :
    Machine.pass (removing p act) s leases = (s, leases) := by
  induction leases with
  | nil => rfl
  | cons l leases ih =>
    have hl : removing p act s l = (s, some l) := if_neg (by rw [h l List.mem_cons_self]; simp)
    rw [Machine.pass, hl]
    dsimp only
    rw [ih fun m hm => h m (List.mem_cons_of_mem l hm)]
    rfl

theorem sweepActive_active : (s.sweepActive p act).active = s.active.filter fun l => !p l :=
  pass_removing s.active

theorem sweepInProgress_inProgress : (s.sweepInProgress p act).inProgress = s.inProgress.filter fun l => !p l :=
  pass_removing s.inProgress

theorem sweepPendingDelete_pendingDelete :
    (s.sweepPendingDelete p act).pendingDelete = s.pendingDelete.filter fun l => !p l :=
  pass_removing s.pendingDelete

theorem sweepInProgress_idle (h : ∀ l ∈ s.inProgress, p l = false) : s.sweepInProgress p act = s := by
  unfold sweepInProgress
  rw [pass_removing_idle h]

theorem pass_rule {P : LeaseState → List Lease → Prop}
    (hact : ∀ s pre l post, p l = true → P s (pre ++ l :: post) → P (act s l) (pre ++ post)) {leases : List Lease}
    (h : P s leases) : P (Machine.pass (removing p act) s leases).1 (Machine.pass (removing p act) s leases).2 := by
  refine Machine.pass_invariant_all ?_ h
  intro s pre l post hP
  cases hp : p l with
  | true => simpa [removing, hp] using hact s pre l post hp hP
  | false => simpa [removing, hp] using hP

variable {P : LeaseState → Prop}

theorem sweepInProgress_rule
    (hact : ∀ s pre l post, p l = true → P { s with inProgress := pre ++ l :: post } →
      P { act s l with inProgress := pre ++ post }) (h : P s) : P (s.sweepInProgress p act) :=
  pass_rule (P := fun s leases => P { s with inProgress := leases }) hact h

theorem sweepActive_rule
    (hact : ∀ s pre l post, p l = true → P { s with active := pre ++ l :: post } →
      P { act s l with active := pre ++ post }) (h : P s) : P (s.sweepActive p act) :=
  pass_rule (P := fun s leases => P { s with active := leases }) hact h

theorem sweepSubscriber_rule
    (hact : ∀ s pre l post, p l = true → P { s with subscriber := pre ++ l :: post } →
      P { act s l with subscriber := pre ++ post }) (h : P s) : P (s.sweepSubscriber p act) :=
  pass_rule (P := fun s leases => P { s with subscriber := leases }) hact h

theorem sweepPendingDelete_rule
    (hact : ∀ s pre l post, p l = true → P { s with pendingDelete := pre ++ l :: post } →
      P { act s l with pendingDelete := pre ++ post }) (h : P s) : P (s.sweepPendingDelete p act) :=
  pass_rule (P := fun s leases => P { s with pendingDelete := leases }) hact h

end LeaseState

def LeaseState.terminates (s : LeaseState) (deleteContract : Bool) (contracts : LeaseContracts)
    (id : UInt16) : Bool :=
  deleteContract && contracts.usageCount id = some 0 && id ≠ 0 && s.smContractID ≠ id

/-- `deleteActiveLease`, apart from the list the lease is in. `waits` is a `p_pbPendingContractDelete` that is not null, and the returned flag is its value. -/
def deleteActiveLease (deleteContract waits : Bool) (s : LeaseState) (l : Lease) : LeaseState × Bool :=
  let contracts := s.contracts.recount l.contractId (· - 1)
  let terminates := s.terminates deleteContract contracts l.contractId
  ({ s with
      contracts := contracts
      out := s.out ++ .leaseDelete l (contracts.usageCount l.contractId) ::
        if terminates then [.requestContractTermination l.contractId] else []
      pendingDelete := if terminates && waits then s.pendingDelete ++ [l] else s.pendingDelete },
    terminates && waits)

def deleteActiveLeases (p : Lease → Bool) (deleteContract waits : Bool) (s : LeaseState) : LeaseState :=
  s.sweepActive p fun s l => (deleteActiveLease deleteContract waits s l).1

def deleteActiveSubscriberLease (s : LeaseState) (l : Lease) : LeaseState :=
  { s with out := s.out ++ [.leaseDelete l (s.contracts.usageCount l.contractId)] }

def LeaseState.grant (s : LeaseState) (l : Lease) : LeaseState :=
  s.leaseConfirm l.sessionId l.transactionId leaseSuccess l.leaseId l.grantedPeriod l.request

def Lease.awaits (endpoints : ContractEndpoints) (serviceType : UInt8) (l : Lease) : Bool :=
  !l.isPeriodic && l.endpoints = endpoints && serviceType = srvcAperiodicComm

/-- A waiting lease gets its contract. `stored` tells that the notified record is the one in the table. -/
def attachLease (id : UInt16) (stored : Bool) (s : LeaseState) (l : Lease) : LeaseState :=
  let l := { l with contractId := id, leaseId := s.newLeaseId }
  LeaseState.grant { s with
    contracts := if stored then s.contracts.recount id (· + 1) else s.contracts
    leaseIndTop := s.newLeaseId + 1
    active := s.active ++ [l] } l

def contractCreated (id : UInt16) (endpoints : ContractEndpoints) (serviceType : UInt8) (stored : Bool)
    (s : LeaseState) : LeaseState :=
  s.sweepInProgress (Lease.awaits endpoints serviceType) (attachLease id stored)

def confirmDeleted (s : LeaseState) (l : Lease) : LeaseState :=
  s.leaseConfirm l.sessionId l.transactionId leaseSuccess l.leaseId 0 l.request

def contractDeleted (id : UInt16) (s : LeaseState) : LeaseState :=
  (deleteActiveLeases (·.contractId = id) false false s).sweepPendingDelete (·.contractId = id)
    confirmDeleted

def notifyAddContract (id : UInt16) (endpoints : ContractEndpoints) (serviceType : UInt8) (stored : Bool)
    (s : LeaseState) : LeaseState :=
  if id = 0 then s
  else
    let s := if endpoints = ⟨s.smAddress.toList, isa100SmapPort, isa100AppPort⟩ then
        { s with smContractID := id }
      else s
    contractCreated id endpoints serviceType stored s

def notifyContractDeletion (id : UInt16) (s : LeaseState) : LeaseState :=
  contractDeleted id (if id = s.smContractID then { s with smContractID := 0 } else s)

/-- `TLeaseMgmtReqData` and `YLeaseMgmtReqData`, in host order. The device tag and its size are in the second only. -/
structure LeaseMgmtReqData where
  leaseID : UInt32
  leasePeriod : UInt32
  (leaseType protocolType numberOfEndpoints targetSelector deviceTagSize : UInt8)
  deviceTag : Vector UInt8 16
  endpointAddr : Addr128
  (endpointTSAPID endpointOID localTSAPID localOID : UInt16)
  periodOrCommittedBurst : Int16
  staleLimit : UInt8
  connectionInfoLen : UInt16

/-- A lease request: its header, its data, and what the service reads elsewhere while it handles it: the clock, the device list, the tunnel objects, the address that `new` returns, and whether the list node that an explicit delete frees still holds its pointer afterwards. -/
structure LeaseRequest where
  ygsap : Bool
  sessionId : UInt32
  transactionId : UInt32
  dataSize : UInt32
  data : LeaseMgmtReqData
  now : Int32
  tagAddr : Option Addr128
  tunnel : Bool
  address : UInt32
  nodeKept : Bool

def sizeofTLeaseMgmtReqData : UInt32 := 43
def sizeofYLeaseMgmtReqData : UInt32 := 61

def targetSelectorDeviceTag : UInt8 := 0
def protoNone : UInt8 := 0
def gwUap : UInt16 := 2
def tunnelExtraUap : UInt16 := 3
def promiscuousTunnelLocalOid : UInt16 := 11
def promiscuousTunnelLocalTsapId : UInt16 := gwUap

def isUAPLocalValid (id : UInt16) : Bool := id = 0 ∨ id = gwUap ∨ id = tunnelExtraUap

def LeaseRequest.isPromiscuousTunnel (r : LeaseRequest) : Bool :=
  r.data.localOID = promiscuousTunnelLocalOid ∧ r.data.localTSAPID = promiscuousTunnelLocalTsapId

def LeaseRequest.status (r : LeaseRequest) (ygs lease : UInt8) : UInt8 := if r.ygsap then ygs else lease

inductive LeaseCheck where
  | tooShort
  | refused (status : UInt8) (leaseId : UInt32)
  | accepted (type : LeaseType)
deriving DecidableEq

def validateUserRequest (r : LeaseRequest) (s : LeaseState) : LeaseCheck :=
  let d := r.data
  let invalid := r.status ygsInvalidTypeInfo leaseInvalidInformation
  if r.dataSize - 4 < (if r.ygsap then sizeofYLeaseMgmtReqData else sizeofTLeaseMgmtReqData) then .tooShort
  else if s.sessionExpTime r.sessionId = none then .refused (r.status ygsFailure leaseFailOther) 0
  else if d.endpointTSAPID > 15 then .refused invalid 0
  else if !isUAPLocalValid d.localTSAPID then .refused invalid 0
  else if d.protocolType = protoNone ∧ (d.leaseType = 0 ∨ d.leaseType = 4) ∧
      d.periodOrCommittedBurst > 10 then .refused invalid 0
  else if d.protocolType ≠ protoNone ∧ !r.isPromiscuousTunnel ∧ d.localTSAPID ≠ gwUap ∧
      d.localTSAPID ≠ tunnelExtraUap then .refused invalid 0
  else if d.numberOfEndpoints ≠ 1 then .refused ygsInvalidTypeInfo d.leaseID
  else
    match LeaseType.ofNumber d.leaseType with
    | none => .refused ygsInvalidType d.leaseID
    | some type =>
      if d.protocolType = protoNone ∨ type = .client ∨ type = .server then .accepted type
      else .refused ygsInvalidTypeInfo d.leaseID

/-! ## Creating -/

/-- The bytes of a `YLeaseMgmtReqData` where a `TLeaseMgmtReqData` has the address. -/
def LeaseMgmtReqData.overlaidAddr (d : LeaseMgmtReqData) : Addr128 :=
  Vector.ofFn fun i => (d.targetSelector :: d.deviceTagSize :: d.deviceTag.toList).getD i 0

def LeaseRequest.endpointAddr (r : LeaseRequest) (type : LeaseType) : Except UInt8 Addr128 :=
  if r.ygsap ∧ r.data.targetSelector = targetSelectorDeviceTag then
    if type = .alert then .ok r.data.overlaidAddr
    else if r.data.deviceTagSize = 0 then .error ygsFailure
    else
      match r.tagAddr with
      | some addr => .ok addr
      | none => .error ygsTagNotFound
  else .ok r.data.endpointAddr

def LeaseRequest.newLease (r : LeaseRequest) (type : LeaseType) (sessExpTime : Int32) (addr : Addr128)
    (request : Nat) : Lease where
  address := r.address
  leaseId := 0
  expirationTime :=
    if r.data.leasePeriod ≠ 0 ∧ sessExpTime ≠ 0 ∧
        sessExpTime.toUInt32 < r.now.toUInt32 + r.data.leasePeriod then sessExpTime
    else if r.data.leasePeriod ≠ 0 then (r.now.toUInt32 + r.data.leasePeriod).toInt32
    else 0
  creationTime := r.now
  leaseType := type
  protocolType := r.data.protocolType
  netAddr := addr
  tsapid := r.data.endpointTSAPID
  objId := r.data.endpointOID
  localTSAPID := r.data.localTSAPID
  localObjId := r.data.localOID
  periodOrCommittedBurst := r.data.periodOrCommittedBurst
  staleLimit :=
    if type = .subscriber ∨ r.data.protocolType ≠ protoNone then r.data.staleLimit else 0
  sessionId := r.sessionId
  transactionId := r.transactionId
  contractId := 0
  lastTx := 0
  staleReported := false
  request := request

namespace LeaseState

def refuse (s : LeaseState) (r : LeaseRequest) (status : UInt8) (request : Nat) : LeaseState :=
  s.leaseConfirm r.sessionId r.transactionId status 0 r.data.leasePeriod request

def blocks (s : LeaseState) (l : Lease) : Bool :=
  s.pendingDelete.any fun m =>
    m.netAddr = l.netAddr ∧ m.shortTSAPID = l.shortTSAPID ∧ m.localTSAPID = l.localTSAPID

def establish (s : LeaseState) (r : LeaseRequest) (l : Lease) : LeaseState :=
  let granted := { l with leaseId := s.newLeaseId }
  let s' := { s with leaseIndTop := s.newLeaseId + 1 }
  if l.leaseType = .server ∨ l.leaseType = .alert then
    LeaseState.grant { s' with active := s.active ++ [granted] } granted
  else if l.isPeriodic then
    LeaseState.grant { s' with
      subscriber := s.subscriber ++ [granted]
      out := s.out ++ [.leaseAdd granted] } granted
  else
    match s.contracts.getContract l.endpoints srvcAperiodicComm with
    | some id =>
      if s.blocks l then s.refuse r (r.status ygsLimitExceeded leaseNotAvailable) l.request
      else
        let granted := { granted with contractId := id }
        LeaseState.grant { s' with
          contracts := s.contracts.recount id (· + 1)
          active := s.active ++ [granted] } granted
    | none =>
      { s with
        inProgress := s.inProgress ++ [l]
        out := s.out ++ [.requestNewContract l.endpoints] }

end LeaseState

def createLease (r : LeaseRequest) (type : LeaseType) (request : Nat) (s : LeaseState) : Option LeaseState :=
  if s.leases.any (·.address = r.address) then none
  else
    match s.sessionExpTime r.sessionId with
    | none => some (s.refuse r (r.status ygsFailure leaseFailOther) request)
    | some sessExpTime =>
      match r.endpointAddr type with
      | .error status => some (s.refuse r status request)
      | .ok addr =>
        let invalid := r.status ygsInvalidTypeInfo leaseInvalidInformation
        if 0 < r.data.connectionInfoLen ∧
            r.data.connectionInfoLen.toUInt32 + sizeofTLeaseMgmtReqData ≤ r.dataSize then
          some (s.refuse r invalid request)
        else if r.data.protocolType ≠ protoNone ∧ !r.isPromiscuousTunnel ∧ !r.tunnel then
          some (s.refuse r invalid request)
        else some (s.establish r (r.newLease type sessExpTime addr request))

def LeaseState.findLease (s : LeaseState) (id session : UInt32) : Option Lease :=
  ((s.active ++ s.subscriber).find? (·.leaseId = id)).filter fun l => session = 0 ∨ l.sessionId = session

def LeaseState.updateLease (s : LeaseState) (address : UInt32) (f : Lease → Lease) : LeaseState :=
  let update (l : Lease) : Lease := if l.address = address then f l else l
  { s with
    active := s.active.map update
    subscriber := s.subscriber.map update }

/-- `renewLease`: the status, and the new expiration time of a lease whose session exists. -/
def LeaseRequest.renewal (r : LeaseRequest) (l : Lease) (sessExpTime : Option Int32) : UInt8 × Option Int32 :=
  match sessExpTime with
  | none => (r.status ygsFailure leaseFailOther, none)
  | some sessExpTime =>
    let renewed := l.creationTime.toUInt32 + r.data.leasePeriod
    if sessExpTime ≠ 0 ∧ sessExpTime.toUInt32 < renewed then
      (r.status ygsSuccessReduced leaseSuccessReduced, some sessExpTime)
    else (leaseSuccess, some renewed.toInt32)

/-- The explicit delete of a lease. The list node of a lease that has to wait for its contract is freed before the transaction is written through it. -/
def deleteLease (r : LeaseRequest) (l : Lease) (request : Nat) (s : LeaseState) : Option LeaseState :=
  let others := fun (m : Lease) => decide (m.address ≠ l.address)
  let confirm (s : LeaseState) : LeaseState :=
    s.leaseConfirm r.sessionId r.transactionId leaseSuccess r.data.leaseID r.data.leasePeriod request
  if l.isPeriodic then
    if l ∈ s.subscriber then
      some (confirm { deleteActiveSubscriberLease s l with subscriber := s.subscriber.filter others })
    else none
  else if l ∈ s.active then
    let deleted := deleteActiveLease true true s l
    let s := { deleted.1 with active := s.active.filter others }
    if deleted.2 then
      if r.nodeKept then
        some { s with pendingDelete := s.pendingDelete.map fun m =>
          if m.address = l.address then { m with transactionId := r.transactionId, request := request }
          else m }
      else none
    else some (confirm s)
  else none

def processUserRequest (r : LeaseRequest) (s : LeaseState) : Option LeaseState :=
  let request := s.requests
  let s := { s with requests := s.requests + 1 }
  let confirm (s : LeaseState) (status : UInt8) : LeaseState :=
    s.leaseConfirm r.sessionId r.transactionId status r.data.leaseID r.data.leasePeriod request
  match validateUserRequest r s with
  | .tooShort => some s
  | .refused status leaseId =>
    some (s.leaseConfirm r.sessionId r.transactionId status leaseId r.data.leasePeriod request)
  | .accepted type =>
    if r.data.leaseID = 0 then createLease r type request s
    else
      match s.findLease r.data.leaseID r.sessionId with
      | none => some (confirm s (r.status ygsInvalidLease leaseNotExist))
      | some l =>
        if r.data.leasePeriod = 0 then deleteLease r l request s
        else
          let renewal := r.renewal l (s.sessionExpTime l.sessionId)
          let s := match renewal.2 with
            | some expirationTime => s.updateLease l.address ({ · with expirationTime := expirationTime })
            | none => s
          some (confirm s renewal.1)

def Lease.expired (now : Int32) (l : Lease) : Bool := l.expirationTime ≠ 0 ∧ l.expirationTime ≤ now

def pendingLeaseTimeout : Int32 := 300

def Lease.overdue (now : Int32) (l : Lease) : Bool := l.creationTime + pendingLeaseTimeout < now

def giveUpLease (s : LeaseState) (l : Lease) : LeaseState :=
  s.leaseConfirm l.sessionId l.transactionId (if s.ygsap l.sessionId then ygsFailure else leaseFailOther)
    l.leaseId l.grantedPeriod l.request

def checkExpireLeases (now : Int32) (s : LeaseState) : LeaseState :=
  let s := deleteActiveLeases (Lease.expired now) true false s
  let s := s.sweepSubscriber (Lease.expired now) deleteActiveSubscriberLease
  s.sweepInProgress (Lease.overdue now) giveUpLease

def processSessionUpdate (session : UInt32) (expirationTime : Int32) (s : LeaseState) : LeaseState :=
  let update (l : Lease) : Lease :=
    if l.sessionId = session ∧ expirationTime < l.expirationTime then
      { l with expirationTime := expirationTime }
    else l
  { s with
    active := s.active.map update
    subscriber := s.subscriber.map update
    inProgress := s.inProgress.map update }

def processSessionDelete (session : UInt32) (s : LeaseState) : LeaseState :=
  let s := deleteActiveLeases (·.sessionId = session) true true s
  let s := s.sweepSubscriber (·.sessionId = session) deleteActiveSubscriberLease
  s.sweepInProgress (·.sessionId = session) fun s _ => s

def onUnjoin (s : LeaseState) : LeaseState := deleteActiveLeases (!·.isPeriodic) false false s

def dmoDeleteContract (id : UInt16) (s : LeaseState) : LeaseState :=
  match s.contracts.lookup id with
  | none => s
  | some _ => notifyContractDeletion id { s with contracts := s.contracts.erase id }

def dmoSetContract (deleteIndex index : UInt16) (endpoints : ContractEndpoints) (serviceType : UInt8)
    (s : LeaseState) : LeaseState :=
  let s := if deleteIndex ≠ index then dmoDeleteContract deleteIndex s else s
  let set (usageCount : UInt8) : LeaseState :=
    notifyAddContract index endpoints serviceType true
      { s with contracts := s.contracts.insert index ⟨endpoints, serviceType, usageCount⟩ }
  match s.contracts.lookup index with
  | some c => set c.usageCount
  | none => if s.contracts.entries.length ≥ maxContractNo then s else set 0

/-- The end of `DMO_ProcessContractResponse` for an accepted request. The map keeps a contract that it has under the id already, and the notified one is then in no table. -/
def dmoContractResponse (id : UInt16) (endpoints : ContractEndpoints) (serviceType : UInt8)
    (s : LeaseState) : LeaseState :=
  if s.contracts.entries.length ≥ maxContractNo then notifyAddContract 0 endpoints serviceType false s
  else
    match s.contracts.lookup id with
    | some _ => notifyAddContract id endpoints serviceType false s
    | none =>
      notifyAddContract id endpoints serviceType true
        { s with contracts := s.contracts.insert id ⟨endpoints, serviceType, 0⟩ }

def dmoRequestExisting (endpoints : ContractEndpoints) (serviceType : UInt8) (s : LeaseState) : LeaseState :=
  match s.contracts.getContract endpoints serviceType with
  | some id => notifyAddContract id endpoints serviceType true s
  | none => s

def dmoProcessFirstContract (id : UInt16) (s : LeaseState) : LeaseState :=
  let endpoints : ContractEndpoints := ⟨s.smAddress.toList, isa100SmapPort, isa100DmapPort⟩
  { s with contracts := AList.insert id ⟨endpoints, srvcAperiodicComm, 0⟩ ∅ }

inductive LeaseEvent where
  | userRequest (r : LeaseRequest)
  | contractResponse (id : UInt16) (endpoints : ContractEndpoints) (serviceType : UInt8)
  | contractFailure (endpoints : ContractEndpoints) (serviceType : UInt8)
  | requestExisting (endpoints : ContractEndpoints) (serviceType : UInt8)
  | setContract (deleteIndex index : UInt16) (endpoints : ContractEndpoints) (serviceType : UInt8)
  | deleteContract (id : UInt16)
  | firstContract (id : UInt16)
  | unjoin
  | createSession (id : UInt32) (session : LeaseSession)
  | renewSession (id : UInt32) (expirationTime : Int32)
  | deleteSession (id : UInt32)
  | connectionLost (id : UInt32)
  | checkExpire (now : Int32)

/-- One step from a state without effects. A new session gets an id that is not 0 and not in use. -/
def LeaseEvent.apply (s : LeaseState) : LeaseEvent → Option LeaseState
  | .userRequest r => processUserRequest r s
  | .contractResponse id endpoints serviceType => some (dmoContractResponse id endpoints serviceType s)
  | .contractFailure endpoints serviceType => some (notifyAddContract 0 endpoints serviceType false s)
  | .requestExisting endpoints serviceType => some (dmoRequestExisting endpoints serviceType s)
  | .setContract deleteIndex index endpoints serviceType =>
    some (dmoSetContract deleteIndex index endpoints serviceType s)
  | .deleteContract id => some (dmoDeleteContract id s)
  | .firstContract id => some (dmoProcessFirstContract id s)
  | .unjoin => some (onUnjoin { s with contracts := ∅, smContractID := 0 })
  | .createSession id session =>
    if id ≠ 0 ∧ s.sessions.lookup id = none then
      some { s with sessions := s.sessions.insert id session }
    else none
  | .renewSession id expirationTime =>
    match s.sessions.lookup id with
    | some session =>
      if 0 < session.expirationTime then
        some (processSessionUpdate id expirationTime
          { s with sessions := s.sessions.insert id { session with expirationTime := expirationTime } })
      else some s
    | none => some s
  | .deleteSession id =>
    let s := processSessionDelete id s
    some { s with sessions := s.sessions.erase id }
  | .connectionLost id =>
    match s.sessions.lookup id with
    | some session => some { s with sessions := s.sessions.insert id { session with connected := false } }
    | none => some s
  | .checkExpire now => some (checkExpireLeases now s)

def leaseStep (s : LeaseState) (e : LeaseEvent) : Option LeaseState := e.apply { s with out := [] }

namespace LeaseEvent

variable {s s' : LeaseState} {id : UInt32}

theorem createSession_cases {session : LeaseSession} (h : (createSession id session).apply s = some s') :
    (id ≠ 0 ∧ s.sessions.lookup id = none) ∧ { s with sessions := s.sessions.insert id session } = s' := by
  simpa [apply] using h

theorem renewSession_cases {expirationTime : Int32} (h : (renewSession id expirationTime).apply s = some s') :
    s = s' ∨ ∃ session, s.sessions.lookup id = some session ∧ 0 < session.expirationTime ∧
      processSessionUpdate id expirationTime
        { s with sessions := s.sessions.insert id { session with expirationTime := expirationTime } } = s' := by
  simp only [apply] at h
  split at h
  · rename_i session hsession
    split at h
    · rename_i hfinite
      exact .inr ⟨session, hsession, hfinite, Option.some.inj h⟩
    · exact .inl (Option.some.inj h)
  · exact .inl (Option.some.inj h)

theorem connectionLost_cases (h : (connectionLost id).apply s = some s') :
    s = s' ∨ ∃ session, s.sessions.lookup id = some session ∧
      { s with sessions := s.sessions.insert id { session with connected := false } } = s' := by
  simp only [apply] at h
  split at h
  · rename_i session hsession
    exact .inr ⟨session, hsession, Option.some.inj h⟩
  · exact .inl (Option.some.inj h)

/-- The events that notify of a contract or delete one. -/
def ForContract : LeaseEvent → Prop
  | .contractResponse .. | .contractFailure .. | .requestExisting .. | .setContract .. | .deleteContract _ => True
  | _ => False

theorem forContract_rule {P : LeaseState → Prop} {e : LeaseEvent}
    (hnotify : ∀ s id endpoints serviceType stored, P s → P (notifyAddContract id endpoints serviceType stored s))
    (hstore : ∀ s id c, P s → P { s with contracts := s.contracts.insert id c })
    (hdelete : ∀ s id, P s → P (dmoDeleteContract id s)) (h : P s) (hstep : e.apply s = some s')
    (he : e.ForContract) : P s' := by
  cases e with
  | contractResponse id endpoints serviceType =>
    cases hstep
    unfold dmoContractResponse
    split
    · exact hnotify _ _ _ _ _ h
    · split
      · exact hnotify _ _ _ _ _ h
      · exact hnotify _ _ _ _ _ (hstore _ _ _ h)
  | contractFailure endpoints serviceType =>
    cases hstep
    exact hnotify _ _ _ _ _ h
  | requestExisting endpoints serviceType =>
    cases hstep
    unfold dmoRequestExisting
    split
    · exact hnotify _ _ _ _ _ h
    · exact h
  | setContract deleteIndex index endpoints serviceType =>
    cases hstep
    unfold dmoSetContract
    dsimp only
    have hdeleted : P (if deleteIndex ≠ index then dmoDeleteContract deleteIndex s else s) := by
      split
      · exact hdelete _ _ h
      · exact h
    generalize (if deleteIndex ≠ index then dmoDeleteContract deleteIndex s else s) = t at hdeleted ⊢
    split
    · exact hnotify _ _ _ _ _ (hstore _ _ _ hdeleted)
    · split
      · exact hdeleted
      · exact hnotify _ _ _ _ _ (hstore _ _ _ hdeleted)
  | deleteContract id =>
    cases hstep
    exact hdelete _ _ h
  | _ => exact he.elim

end LeaseEvent

def sampleDevice : Addr128 := Vector.replicate 16 7

def sampleLeaseData : LeaseMgmtReqData where
  leaseID := 0
  leasePeriod := 0
  leaseType := 3
  protocolType := 0
  numberOfEndpoints := 1
  targetSelector := 0
  deviceTagSize := 0
  deviceTag := Vector.replicate 16 0
  endpointAddr := sampleDevice
  endpointTSAPID := 2
  endpointOID := 5
  localTSAPID := 2
  localOID := 5
  periodOrCommittedBurst := 10
  staleLimit := 30
  connectionInfoLen := 0

def sampleLeaseRequest : LeaseRequest where
  ygsap := false
  sessionId := 1
  transactionId := 10
  dataSize := 47
  data := sampleLeaseData
  now := 1000
  tagAddr := none
  tunnel := false
  address := 4096
  nodeKept := true

end Isa100Gateway
