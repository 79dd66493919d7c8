import Isa100Gateway.Gateway.ClientServer
import Isa100Gateway.Gateway.DyingContracts
import Isa100Gateway.Lib.Table

/-!
# Responses from the cache

The cache is keyed by the id of a contract. It is right as long as a contract leads to the same device while a response or a pending request is filed under it.
-/

namespace Isa100Gateway

open CsState List LeaseContracts Option Subset

namespace CsReqData

theorem field_inj {x y : UInt16} (h : field x = field y) : x = y := by
  obtain ⟨hlow, hrest⟩ := cons.inj h
  obtain ⟨hhigh, -⟩ := cons.inj hrest
  calc x = (x >>> 8).toUInt8.toUInt16 <<< 8 ||| x.toUInt8.toUInt16 := (Bytes.join_split x).symm
    _ = (y >>> 8).toUInt8.toUInt16 <<< 8 ||| y.toUInt8.toUInt16 := by rw [hlow, hhigh]
    _ = y := Bytes.join_split y

theorem field_append_inj {x y : UInt16} {xs ys : List UInt8} (h : field x ++ xs = field y ++ ys) : x = y ∧ xs = ys :=
  have happend := append_inj h rfl
  ⟨field_inj happend.1, happend.2⟩

theorem bytes_inj {d d' : CsReqData} (htype : d.reqType = d'.reqType) (hbytes : d.bytes = d'.bytes) : d = d' := by
  have hread_write : srvcTypeRead ≠ srvcTypeWrite := by decide
  have hread_exec : srvcTypeRead ≠ srvcTypeExecute := by decide
  have hwrite_exec : srvcTypeWrite ≠ srvcTypeExecute := by decide
  cases d with
  | read objectID attrID attrIdx1 attrIdx2 =>
    cases d' with
    | read objectID' attrID' attrIdx1' attrIdx2' =>
      simp only [bytes, header, payload, append_assoc] at hbytes
      obtain ⟨hobject, hrest⟩ := field_append_inj hbytes
      obtain ⟨hattr, hrest⟩ := field_append_inj hrest
      obtain ⟨hidx1, hrest⟩ := field_append_inj hrest
      obtain ⟨hidx2, -⟩ := field_append_inj hrest
      rw [hobject, hattr, hidx1, hidx2]
    | write => exact absurd htype hread_write
    | exec => exact absurd htype hread_exec
  | write objectID attrID attrIdx1 attrIdx2 reqData =>
    cases d' with
    | read => exact absurd htype.symm hread_write
    | write objectID' attrID' attrIdx1' attrIdx2' reqData' =>
      simp only [bytes, header, payload, append_assoc] at hbytes
      obtain ⟨hobject, hrest⟩ := field_append_inj hbytes
      obtain ⟨hattr, hrest⟩ := field_append_inj hrest
      obtain ⟨hidx1, hrest⟩ := field_append_inj hrest
      obtain ⟨hidx2, hrest⟩ := field_append_inj hrest
      obtain ⟨-, hdata⟩ := field_append_inj hrest
      rw [hobject, hattr, hidx1, hidx2, CsBytes.ext hdata]
    | exec => exact absurd htype hwrite_exec
  | exec objectID methodID reqData =>
    cases d' with
    | read => exact absurd htype.symm hread_exec
    | write => exact absurd htype.symm hwrite_exec
    | exec objectID' methodID' reqData' =>
      simp only [bytes, header, payload, append_assoc] at hbytes
      obtain ⟨hobject, hrest⟩ := field_append_inj hbytes
      obtain ⟨hmethod, hrest⟩ := field_append_inj hrest
      obtain ⟨-, hdata⟩ := field_append_inj hrest
      rw [hobject, hmethod, CsBytes.ext hdata]

theorem dataLen_of_fits {d : CsReqData} (h : d.Fits) : d.dataLen.toNat = d.bytes.length := by
  unfold Fits at h
  cases d with
  | read => rfl
  | write objectID attrID attrIdx1 attrIdx2 reqData =>
    have hlength : (bytes (.write objectID attrID attrIdx1 attrIdx2 reqData)).length = 10 + reqData.bytes.length := by
      simp [bytes, header, payload, field]
      omega
    rw [hlength] at h ⊢
    simp only [dataLen, sizeofReqDataWrite, CsBytes.length, UInt16.toNat_add, UInt16.toNat_ofNat', UInt16.reduceToNat]
    omega
  | exec objectID methodID reqData =>
    have hlength : (bytes (.exec objectID methodID reqData)).length = 6 + reqData.bytes.length := by
      simp [bytes, header, payload, field]
      omega
    rw [hlength] at h ⊢
    simp only [dataLen, sizeofReqDataExec, CsBytes.length, UInt16.toNat_add, UInt16.toNat_ofNat', UInt16.reduceToNat]
    omega

end CsReqData

def CSKey.Holds (k : CSKey) (d : CsReqData) : Prop := k.reqType = d.reqType ∧ k.data = d.bytes

theorem CSKey.holds_inj {k : CSKey} {d d' : CsReqData} (h : k.Holds d) (h' : k.Holds d') : d = d' :=
  CsReqData.bytes_inj (h.1.symm.trans h'.1) (h.2.symm.trans h'.2)

theorem CSKey.Holds.congr {k k' : CSKey} {d : CsReqData} (hequiv : k'.equiv k = true) (h : k.Holds d) : k'.Holds d := by
  obtain ⟨-, htype, hdata⟩ := CSKey.equiv_iff.mp hequiv
  exact ⟨htype.trans h.1, hdata.trans h.2⟩

theorem CSKey.new_holds {contractID : UInt16} {buffer : UInt8} {creat : Int} {d : CsReqData} {k : CSKey}
    (hfits : d.Fits) (hnew : CSKey.new contractID buffer creat d = some k) :
    k.contractID = contractID ∧ k.buffer = buffer ∧ k.Holds d := by
  unfold CSKey.new at hnew
  split at hnew
  · cases hnew
  · cases hnew
    refine ⟨rfl, rfl, rfl, ?_⟩
    change d.bytes.take d.dataLen.toNat = d.bytes
    rw [CsReqData.dataLen_of_fits hfits, take_length]

/-! ## Contracts that keep their end points -/

namespace LeaseState

variable {s₀ s s' : LeaseState} {l : Lease}

def SameKeys (s₀ s : LeaseState) : Prop := ∀ id, s.contracts.key id = s₀.contracts.key id

theorem SameKeys.refl (s : LeaseState) : SameKeys s s := fun _ => rfl

section

variable (h : SameKeys s₀ s)
include h

theorem SameKeys.of_eq (hcontracts : s'.contracts = s.contracts) : SameKeys s₀ s' := by
  intro id
  rw [hcontracts, h id]

theorem SameKeys.recount (id : UInt16) (f : UInt8 → UInt8)
    (hcontracts : s'.contracts = s.contracts.recount id f) : SameKeys s₀ s' := by
  intro id'
  rw [hcontracts, key_recount, h id']

theorem SameKeys.deleteActiveLeases (p : Lease → Bool) (deleteContract waits : Bool) :
    SameKeys s₀ (deleteActiveLeases p deleteContract waits s) :=
  sweepActive_rule (P := fun t => SameKeys s₀ t)
    (fun _ _ l _ _ h => h.recount l.contractId (· - 1) rfl) h

theorem SameKeys.sweepSubscriber (p : Lease → Bool) : SameKeys s₀ (s.sweepSubscriber p deleteActiveSubscriberLease) :=
  sweepSubscriber_rule (P := fun t => SameKeys s₀ t) (fun _ _ _ _ _ h => h.of_eq rfl) h

theorem SameKeys.checkExpireLeases (now : Int32) : SameKeys s₀ (checkExpireLeases now s) :=
  sweepInProgress_rule (P := fun t => SameKeys s₀ t) (fun _ _ _ _ _ h => h.of_eq rfl)
    ((h.deleteActiveLeases _ _ _).sweepSubscriber _)

theorem SameKeys.processSessionDelete (session : UInt32) : SameKeys s₀ (processSessionDelete session s) :=
  sweepInProgress_rule (P := fun t => SameKeys s₀ t) (fun _ _ _ _ _ h => h.of_eq rfl)
    ((h.deleteActiveLeases _ _ _).sweepSubscriber _)

theorem SameKeys.notifyAddContract (id : UInt16) (endpoints : ContractEndpoints)
    (serviceType : UInt8) (stored : Bool) : SameKeys s₀ (notifyAddContract id endpoints serviceType stored s) := by
  unfold Isa100Gateway.notifyAddContract
  split
  · exact h
  · refine sweepInProgress_rule (P := fun t => SameKeys s₀ t) ?_ ?_
    · intro t pre l post _ ht
      cases stored with
      | true => exact ht.recount id (· + 1) rfl
      | false => exact ht.of_eq rfl
    · split
      · exact h.of_eq rfl
      · exact h

theorem SameKeys.establish (r : LeaseRequest) (l : Lease) : SameKeys s₀ (s.establish r l) := by
  unfold LeaseState.establish
  split
  · exact h.of_eq rfl
  split
  · exact h.of_eq rfl
  · split
    · rename_i id _
      split
      · exact h.of_eq rfl
      · exact h.recount id (· + 1) rfl
    · exact h.of_eq rfl

theorem SameKeys.deleteLease {r : LeaseRequest} {request : Nat}
    (hstep : deleteLease r l request s = some s') : SameKeys s₀ s' := by
  unfold Isa100Gateway.deleteLease at hstep
  dsimp only at hstep
  split at hstep
  · split at hstep
    · cases hstep
      exact h.of_eq rfl
    · cases hstep
  · split at hstep
    · split at hstep
      · split at hstep
        · cases hstep
          exact h.recount l.contractId (· - 1) rfl
        · cases hstep
      · cases hstep
        exact h.recount l.contractId (· - 1) rfl
    · cases hstep

end

theorem SameKeys.processUserRequest {r : LeaseRequest} (hstep : processUserRequest r s = some s') :
    SameKeys s s' := by
  have hcounted : SameKeys s s.counted := fun _ => rfl
  cases processUserRequest_served hstep with
  | tooShort => exact hcounted
  | confirmed => exact hcounted.of_eq rfl
  | created => exact hcounted.establish r _
  | deleted _ hdelete => exact hcounted.deleteLease hdelete
  | renewed => exact hcounted.of_eq rfl

theorem SameKeys.contractDeleted (h : SameKeys s₀ s) (id : UInt16) : SameKeys s₀ (contractDeleted id s) :=
  sweepPendingDelete_rule (P := fun t => SameKeys s₀ t) (fun _ _ _ _ _ h => h.of_eq rfl)
    (h.deleteActiveLeases _ _ _)

theorem key_dmoDeleteContract (s : LeaseState) {id id' : UInt16} (hne : id' ≠ id) :
    (dmoDeleteContract id s).contracts.key id' = s.contracts.key id' := by
  unfold dmoDeleteContract
  split
  · rfl
  · have herased : key (s.contracts.erase id) id' = s.contracts.key id' := by
      rw [key_erase, if_neg hne]
    refine Eq.trans ?_ herased
    unfold notifyContractDeletion
    apply @SameKeys.contractDeleted { s with contracts := s.contracts.erase id }
    split
    · exact fun _ => rfl
    · exact fun _ => rfl

end LeaseState

def LeaseContracts.port (contracts : LeaseContracts) (id : UInt16) : Option UInt16 :=
  (contracts.key id).map fun k => k.1.dstTLPort

theorem LeaseState.SameKeys.port {s₀ s : LeaseState} (h : s₀.SameKeys s) (id : UInt16) :
    s.contracts.port id = s₀.contracts.port id := by
  unfold LeaseContracts.port
  rw [h id]

def LeaseEvent.Reroutes (s : LeaseState) (id : UInt16) : LeaseEvent → Prop
  | .deleteContract id' => id' = id
  | .setContract deleteIndex index endpoints _ =>
    (deleteIndex ≠ index ∧ deleteIndex = id) ∨ (index = id ∧ s.contracts.port id ≠ some endpoints.dstTLPort)
  | .firstContract _ => True
  | .unjoin => True
  | _ => False

instance (s : LeaseState) (id : UInt16) : ∀ e : LeaseEvent, Decidable (e.Reroutes s id)
  | .deleteContract _ => inferInstanceAs (Decidable (_ = _))
  | .setContract .. => inferInstanceAs (Decidable (_ ∨ _))
  | .firstContract _ | .unjoin => isTrue trivial
  | .userRequest _ | .contractResponse .. | .contractFailure .. | .requestExisting .. | .createSession ..
  | .renewSession .. | .deleteSession _ | .connectionLost _ | .checkExpire _ => isFalse not_false

theorem LeaseEvent.port_apply {s s' : LeaseState} {e : LeaseEvent} {id port : UInt16} (hok : ¬ e.Reroutes s id)
    (hport : s.contracts.port id = some port) (hstep : e.apply s = some s') : s'.contracts.port id = some port := by
  have hsame : ∀ t : LeaseState, s.SameKeys t → t.contracts.port id = some port :=
    fun t ht => (ht.port id).trans hport
  have hrefl : s.SameKeys s := fun _ => rfl
  cases e with
  | userRequest r => exact hsame _ (LeaseState.SameKeys.processUserRequest hstep)
  | contractResponse id' endpoints serviceType =>
    cases hstep
    unfold dmoContractResponse
    split
    · exact hsame _ (hrefl.notifyAddContract _ _ _ _)
    · split
      · exact hsame _ (hrefl.notifyAddContract _ _ _ _)
      · rename_i hnone
        -- the new record is not that of `id`, which has one
        have hne : id ≠ id' := by
          rintro rfl
          unfold LeaseContracts.port LeaseContracts.key at hport
          rw [hnone] at hport
          cases hport
        have hinsert : LeaseContracts.key (s.contracts.insert id' ⟨endpoints, serviceType, 0⟩) id =
          s.contracts.key id := by
          rw [LeaseContracts.key_insert, if_neg hne]
        have hsame := LeaseState.SameKeys.refl
          { s with contracts := s.contracts.insert id' ⟨endpoints, serviceType, 0⟩ }
        have hnotified := hsame.notifyAddContract id' endpoints serviceType true
        refine (hnotified.port id).trans (Eq.trans ?_ hport)
        unfold LeaseContracts.port
        exact congrArg (Option.map _) hinsert
  | contractFailure endpoints serviceType =>
    cases hstep
    exact hport
  | requestExisting endpoints serviceType =>
    cases hstep
    unfold dmoRequestExisting
    split
    · exact hsame _ (hrefl.notifyAddContract _ _ _ _)
    · exact hport
  | setContract deleteIndex index endpoints serviceType =>
    cases hstep
    obtain ⟨hkept, hport'⟩ := not_or.mp hok
    unfold dmoSetContract
    dsimp only
    have hdeleted : LeaseContracts.port
        (if deleteIndex ≠ index then dmoDeleteContract deleteIndex s else s).contracts id = some port := by
      split
      · rename_i hindex
        have hne : id ≠ deleteIndex := fun heq => hkept ⟨hindex, heq.symm⟩
        refine Eq.trans ?_ hport
        unfold LeaseContracts.port
        rw [LeaseState.key_dmoDeleteContract s hne]
      · exact hport
    generalize (if deleteIndex ≠ index then dmoDeleteContract deleteIndex s else s) = t at hdeleted ⊢
    have hset : ∀ usageCount, LeaseContracts.port (notifyAddContract index endpoints serviceType true
        { t with contracts := t.contracts.insert index ⟨endpoints, serviceType, usageCount⟩ }).contracts id =
        some port := by
      intro usageCount
      have hsame := LeaseState.SameKeys.refl
        { t with contracts := t.contracts.insert index ⟨endpoints, serviceType, usageCount⟩ }
      have hnotified := hsame.notifyAddContract index endpoints serviceType true
      refine (hnotified.port id).trans ?_
      unfold LeaseContracts.port
      rw [LeaseContracts.key_insert]
      split
      · rename_i heq
        have hsame : s.contracts.port id = some endpoints.dstTLPort := by
          by_contra hother
          exact hport' ⟨heq.symm, hother⟩
        rw [Option.map_some]
        exact hsame.symm.trans hport
      · exact hdeleted
    split
    · exact hset _
    · split
      · exact hdeleted
      · exact hset _
  | deleteContract id' =>
    cases hstep
    have hne : id ≠ id' := fun heq => hok heq.symm
    refine Eq.trans ?_ hport
    unfold LeaseContracts.port
    rw [LeaseState.key_dmoDeleteContract s hne]
  | firstContract id' => exact absurd trivial hok
  | unjoin => exact absurd trivial hok
  | createSession id' session =>
    obtain ⟨-, rfl⟩ := LeaseEvent.createSession_cases hstep
    exact hport
  | renewSession id' expirationTime =>
    obtain rfl | ⟨_, -, -, rfl⟩ := LeaseEvent.renewSession_cases hstep
    · exact hport
    · exact hport
  | deleteSession id' =>
    cases hstep
    exact hsame _ (hrefl.processSessionDelete id')
  | connectionLost id' =>
    obtain rfl | ⟨_, -, rfl⟩ := LeaseEvent.connectionLost_cases hstep
    · exact hport
    · exact hport
  | checkExpire now =>
    cases hstep
    exact hsame _ (hrefl.checkExpireLeases now)

namespace CsState

variable {s s' : CsState}

def keys (s : CsState) : List CSKey := s.cache.map Prod.fst ++ s.pending.map Prod.snd

def Leads (s : CsState) (id : UInt16) (addr : List UInt8) (port : UInt16) : Prop :=
  s.destinations.lookup id = some addr ∧ s.leases.contracts.port id = some port

instance (s : CsState) (id : UInt16) (addr : List UInt8) (port : UInt16) : Decidable (s.Leads id addr port) :=
  inferInstanceAs (Decidable (_ ∧ _))

def Matches (k : CSKey) (port : UInt16) (d : CsReqData) (m : CsSent) : Prop :=
  m.contractID = k.contractID ∧ devicePort m.dstTSAPID = port ∧ m.request = d

def Waits (s : CsState) (handle : UInt16) (k : CSKey) : Prop :=
  ∃ addr port d, s.Leads k.contractID addr port ∧ k.Holds d ∧ ∀ m ∈ s.inFlight, m.handle = handle → Matches k port d m

/-- A cached response came from the device that its contract leads to, and to the request of its key. -/
structure Sound (s : CsState) : Prop where
  cached : ∀ e ∈ s.cache, s.Leads e.1.contractID e.2.source.addr e.2.source.port ∧ e.1.Holds e.2.source.request
  pending : ∀ p ∈ s.pending, s.Waits p.1 p.2

theorem mem_keys_cache {e : CSKey × CSData} (he : e ∈ s.cache) : e.1 ∈ s.keys :=
  mem_append_left _ (mem_map_of_mem he)

theorem mem_keys_pending {p : UInt16 × CSKey} (hp : p ∈ s.pending) : p.2 ∈ s.keys :=
  mem_append_right _ (mem_map_of_mem hp)

theorem Sound.mono (h : s.Sound) (hcache : s'.cache ⊆ s.cache) (hpending : s'.pending ⊆ s.pending)
    (hflight : s'.inFlight ⊆ s.inFlight)
    (hleads : ∀ k ∈ s.keys, ∀ addr port, s.Leads k.contractID addr port → s'.Leads k.contractID addr port) :
    s'.Sound := by
  refine ⟨fun e he => ?_, fun p hp => ?_⟩
  · obtain ⟨hlead, hholds⟩ := h.cached e (hcache he)
    exact ⟨hleads _ (mem_keys_cache (hcache he)) _ _ hlead, hholds⟩
  · obtain ⟨addr, port, d, hlead, hholds, hsent⟩ := h.pending p (hpending hp)
    exact ⟨addr, port, d, hleads _ (mem_keys_pending (hpending hp)) _ _ hlead, hholds,
      fun m hm => hsent m (hflight hm)⟩

theorem Sound.frame (h : s.Sound) (hcache : s'.cache = s.cache) (hpending : s'.pending = s.pending)
    (hflight : s'.inFlight = s.inFlight) (hleases : s'.leases = s.leases)
    (hdestinations : s'.destinations = s.destinations) : s'.Sound := by
  refine h.mono (fun e he => hcache ▸ he) (fun p hp => hpending ▸ hp)
    (fun m hm => hflight ▸ hm) fun k _ addr port hlead => ?_
  unfold Leads
  rw [hleases, hdestinations]
  exact hlead

variable {k : CSKey} {c : CSData} {addr : List UInt8}

theorem mem_of_findCache (h : s.findCache k = some c) : ∃ k', (k', c) ∈ s.cache ∧ k'.equiv k = true := by
  obtain ⟨e, hfind, rfl⟩ := map_eq_some_iff.mp h
  have hequiv := find?_some hfind
  exact ⟨e.1, mem_of_find?_eq_some hfind, hequiv⟩

theorem mem_of_findPending {handle : UInt16} (h : s.findPending handle = some k) : (handle, k) ∈ s.pending := by
  obtain ⟨p, hfind, rfl⟩ := map_eq_some_iff.mp h
  have hhandle := find?_some hfind
  rw [← of_decide_eq_true hhandle]
  exact mem_of_find?_eq_some hfind

/-! ## Requests -/

def Fresh (s : CsState) (handle : UInt16) : Prop :=
  handle ≠ 0 → (∀ p ∈ s.pending, p.1 ≠ handle) ∧ ∀ m ∈ s.inFlight, m.handle ≠ handle

instance (s : CsState) (handle : UInt16) : Decidable (s.Fresh handle) := inferInstanceAs (Decidable (_ → _))

theorem Sound.send (h : s.Sound) {m : CsSent} (hfresh : s.Fresh m.handle)
    (hhandle : m.handle ≠ 0) (hcontract : k.contractID = m.contractID) (hholds : k.Holds m.request)
    (hlead : s.Leads m.contractID addr (devicePort m.dstTSAPID)) :
    Sound (insertPending { s with inFlight := s.inFlight ++ [m] } m.handle k) := by
  obtain ⟨hpending, hflight⟩ := hfresh hhandle
  have hkept : ∀ p ∈ s.pending, Waits { s with inFlight := s.inFlight ++ [m] } p.1 p.2 := by
    intro p hp
    obtain ⟨addr, port, d, hlead, hholds, hsent⟩ := h.pending p hp
    refine ⟨addr, port, d, hlead, hholds, fun m' hm' heq => ?_⟩
    rcases mem_append.mp hm' with hm' | hm'
    · exact hsent m' hm' heq
    · obtain rfl := mem_singleton.mp hm'
      exact absurd heq.symm (hpending p hp)
  unfold insertPending
  split
  · exact ⟨h.cached, hkept⟩
  · refine ⟨h.cached, fun p hp => ?_⟩
    rcases mem_append.mp hp with hp | hp
    · exact hkept p hp
    · obtain rfl := mem_singleton.mp hp
      refine ⟨addr, devicePort m.dstTSAPID, m.request, hcontract ▸ hlead, hholds, fun m' hm' heq => ?_⟩
      rcases mem_append.mp hm' with hm' | hm'
      · exact absurd heq (hflight m' hm')
      · obtain rfl := mem_singleton.mp hm'
        exact ⟨hcontract.symm, rfl, rfl⟩

/-- The lease of the request leads to its device, and the request is sent under a handle of its own. -/
def Sends (s : CsState) (r : CsUserRequest) : Prop :=
  ∀ l ∈ s.requestLease r, l.protocolType = protoNone → ∀ d ∈ r.data,
    d.Fits ∧ s.Fresh r.handle ∧ s.Leads l.contractId l.netAddr.toList (devicePort l.shortTSAPID)

section

variable (h : s.Sound)
include h

theorem Sound.hit {l : Lease} {d : CsReqData} (hcontract : k.contractID = l.contractId) (hholds : k.Holds d)
    (hlead : s.Leads l.contractId l.netAddr.toList (devicePort l.shortTSAPID)) (hfind : s.findCache k = some c) :
    c.source = ⟨l.netAddr.toList, devicePort l.shortTSAPID, d⟩ := by
  obtain ⟨k', hmem, hequiv⟩ := mem_of_findCache hfind
  obtain ⟨hcached, hholds'⟩ := h.cached _ hmem
  have hsame : k'.contractID = l.contractId := (CSKey.equiv_iff.mp hequiv).1.trans hcontract
  obtain ⟨haddr, hport⟩ := hcached
  rw [hsame, hlead.1] at haddr
  rw [hsame, hlead.2] at hport
  have hrequest : c.source.request = d := CSKey.holds_inj hholds' (hholds.congr hequiv)
  calc c.source = ⟨c.source.addr, c.source.port, c.source.request⟩ := rfl
    _ = ⟨l.netAddr.toList, devicePort l.shortTSAPID, d⟩ := by
      rw [← Option.some.inj haddr, ← Option.some.inj hport, hrequest]

theorem Sound.confirmStatus (session transaction : UInt32) (status : UInt8) :
    (s.confirmStatus session transaction status).Sound :=
  h.frame rfl rfl rfl rfl rfl

theorem Sound.processUserRequest {r : CsUserRequest} (hsends : s.Sends r)
    (hstep : s.processUserRequest r = some s') : s'.Sound := by
  unfold CsState.processUserRequest at hstep
  dsimp only at hstep
  split at hstep
  · cases hstep
    exact h.confirmStatus _ _ _
  · split at hstep
    · cases hstep
      exact h.confirmStatus _ _ _
    · rename_i l hlease
      split at hstep
      · split at hstep
        · cases hstep
          exact h.confirmStatus _ _ _
        · cases hstep
          exact h
      · rename_i hproto
        split at hstep
        · cases hstep
          exact h.confirmStatus _ _ _
        · rename_i d hdata
          obtain ⟨k, hkey, rfl⟩ := map_eq_some_iff.mp hstep
          obtain ⟨hfits, hfresh, hlead⟩ := hsends l hlease (not_not.mp hproto) d hdata
          obtain ⟨hcontract, -, hholds⟩ := CSKey.new_holds hfits hkey
          split
          · exact h.frame rfl rfl rfl rfl rfl
          · split
            · exact h.confirmStatus _ _ _
            · rename_i hhandle
              exact h.send (m := ⟨r.handle, l.contractId, l.shortTSAPID, d⟩) hfresh hhandle hcontract hholds hlead

theorem Sound.served (hout : s.out = []) {r : CsUserRequest} (hsends : s.Sends r)
    (hstep : s.processUserRequest r = some s') {session transaction : UInt32}
    (hserved : .confirmCached session transaction c ∈ s'.out) :
    ∃ l d, s.requestLease r = some l ∧ r.data = some d ∧ session = r.sessionId ∧ transaction = r.transactionId ∧
      c.source = ⟨l.netAddr.toList, devicePort l.shortTSAPID, d⟩ := by
  have hquiet : ∀ session' transaction' status,
      CsEffect.confirmCached session transaction c ∉ (s.confirmStatus session' transaction' status).out := by
    intro session' transaction' status hmem
    change _ ∈ s.out ++ [_] at hmem
    rw [hout, nil_append, mem_singleton] at hmem
    cases hmem
  unfold CsState.processUserRequest at hstep
  dsimp only at hstep
  split at hstep
  · cases hstep
    exact absurd hserved (hquiet _ _ _)
  · split at hstep
    · cases hstep
      exact absurd hserved (hquiet _ _ _)
    · rename_i l hlease
      split at hstep
      · split at hstep
        · cases hstep
          exact absurd hserved (hquiet _ _ _)
        · cases hstep
          rw [hout] at hserved
          cases hserved
      · rename_i hproto
        split at hstep
        · cases hstep
          exact absurd hserved (hquiet _ _ _)
        · rename_i d hdata
          obtain ⟨k, hkey, rfl⟩ := map_eq_some_iff.mp hstep
          obtain ⟨hfits, -, hlead⟩ := hsends l hlease (not_not.mp hproto) d hdata
          obtain ⟨hcontract, -, hholds⟩ := CSKey.new_holds hfits hkey
          split at hserved
          · rename_i c' hfound
            obtain ⟨hfind, -⟩ := filter_eq_some_iff.mp hfound
            change _ ∈ s.out ++ [_] at hserved
            rw [hout, nil_append, mem_singleton] at hserved
            obtain ⟨rfl, rfl, rfl⟩ := CsEffect.confirmCached.inj hserved
            exact ⟨l, d, hlease, hdata, rfl, rfl, h.hit hcontract hholds hlead hfind⟩
          · split at hserved
            · exact absurd hserved (hquiet _ _ _)
            · unfold insertPending at hserved
              split at hserved
              · rw [hout] at hserved
                cases hserved
              · rw [hout] at hserved
                cases hserved

theorem Sound.requestContractList {now : Int} {handle : UInt16}
    (hfresh : s.Fresh handle) (hlead : s.Leads s.leases.smContractID addr (devicePort uapSmapId))
    (hstep : s.requestContractList now handle = some s') : s'.Sound := by
  unfold CsState.requestContractList at hstep
  obtain ⟨k, hkey, rfl⟩ := map_eq_some_iff.mp hstep
  have hfits : contractListRequest.Fits := by decide
  obtain ⟨hcontract, -, hholds⟩ := CSKey.new_holds hfits hkey
  split
  · exact h
  · split
    · exact h
    · rename_i hhandle
      exact h.send (m := ⟨handle, s.leases.smContractID, uapSmapId, contractListRequest⟩) hfresh hhandle hcontract
        hholds hlead

theorem Sound.onLeaseDelete (l : Lease) (usageCount : Option UInt8) : (s.onLeaseDelete l usageCount).Sound := by
  unfold CsState.onLeaseDelete
  split
  · exact h.mono (filter_subset_self _) (filter_subset_self _) (refl _) fun _ _ _ _ hlead => hlead
  · exact h

theorem Sound.onLeaseEffects (es : List LeaseEffect) : (s.onLeaseEffects es).Sound := by
  induction es generalizing s with
  | nil => exact h
  | cons e es ih =>
    cases e with
    | leaseDelete l usageCount => exact ih (h.onLeaseDelete l usageCount)
    | _ => exact ih h

theorem Sound.erasePending (handle : UInt16) : (s.erasePending handle).Sound :=
  h.mono (refl _) (filter_subset_self _) (refl _) fun _ _ _ _ hlead => hlead

theorem Sound.putCache (hlead : s.Leads k.contractID c.source.addr c.source.port)
    (hholds : k.Holds c.source.request) : (s.putCache k c).Sound := by
  unfold CsState.putCache
  split
  · refine ⟨fun e he => ?_, h.pending⟩
    obtain ⟨e', he', rfl⟩ := mem_map.mp he
    split
    · rename_i hequiv
      have hsame := (CSKey.equiv_iff.mp hequiv).1
      exact ⟨hsame ▸ hlead, hholds.congr hequiv⟩
    · exact h.cached e' he'
  · refine ⟨fun e he => ?_, h.pending⟩
    rcases mem_append.mp he with he | he
    · exact h.cached e he
    · obtain rfl := mem_singleton.mp he
      exact ⟨hlead, hholds⟩

theorem Sound.processAPDU {m : CsSent} (hm : m ∈ s.inFlight)
    (haddr : s.destinations.lookup m.contractID = some addr) (rsp : CsResponse) (now : Int) :
    Sound (CsState.processAPDU m ⟨addr, devicePort m.dstTSAPID, m.request⟩ rsp now
      { s with inFlight := s.inFlight.erase m }) := by
  have hleft : Sound { s with inFlight := s.inFlight.erase m } :=
    h.mono (List.Subset.refl _) (List.Subset.refl _) List.erase_subset fun _ _ _ _ hlead => hlead
  unfold CsState.processAPDU
  split
  · exact hleft.frame rfl rfl rfl rfl rfl
  · rename_i k hfound
    obtain ⟨addr', port, d, ⟨haddr', hport⟩, hholds, hsent⟩ := h.pending _ (mem_of_findPending hfound)
    obtain ⟨hcontract, hdevice, hrequest⟩ := hsent m hm rfl
    have hfiled : Sound (CsState.putCache { s with inFlight := s.inFlight.erase m } k
        ⟨now, rsp.confirm m.request, ⟨addr, devicePort m.dstTSAPID, m.request⟩⟩) := by
      refine hleft.putCache ⟨hcontract ▸ haddr, hdevice ▸ hport⟩ ?_
      exact hrequest ▸ hholds
    exact (hfiled.erasePending m.handle).frame rfl rfl rfl rfl rfl

end

/-! ## Steps -/

/-- The steps of the statement. While a response or a pending request is filed under a contract, its record stays, with its port, and so does its destination; a request goes to the device that its contract leads to, under a handle that nothing uses, and its length fits into the key. -/
def Admits (s : CsState) : CsEvent → Prop
  | .lease e => ∀ k ∈ s.keys, ¬ e.Reroutes s.leases k.contractID
  | .destination id dest => ∀ k ∈ s.keys, k.contractID = id → s.destinations.lookup id = dest
  | .userRequest r => s.Sends r
  | .requestContractList _ handle => s.Fresh handle ∧
    s.Leads s.leases.smContractID s.leases.smAddress.toList (devicePort uapSmapId)
  | .response .. => True
  | .timeout _ => True

theorem leases_onLeaseEffects (s : CsState) (es : List LeaseEffect) :
    (s.onLeaseEffects es).leases = s.leases ∧ (s.onLeaseEffects es).out = s.out := by
  induction es generalizing s with
  | nil => exact ⟨rfl, rfl⟩
  | cons e es ih =>
    cases e with
    | leaseDelete l usageCount =>
      obtain ⟨hleases, hout⟩ := ih (s.onLeaseDelete l usageCount)
      have hhead : (s.onLeaseDelete l usageCount).leases = s.leases ∧ (s.onLeaseDelete l usageCount).out = s.out := by
        unfold onLeaseDelete
        split <;> exact ⟨rfl, rfl⟩
      exact ⟨hleases.trans hhead.1, hout.trans hhead.2⟩
    | _ => exact ih s

theorem leads_lease {leases : LeaseState} {e : LeaseEvent} {id : UInt16} (hok : ¬ e.Reroutes s.leases id)
    (hstep : leaseStep s.leases e = some leases) {port : UInt16} (hlead : s.Leads id addr port) :
    Leads { s with leases := leases } id addr port := by
  have hok' : ¬ e.Reroutes { s.leases with out := [] } id := by cases e <;> exact hok
  exact ⟨hlead.1, LeaseEvent.port_apply hok' hlead.2 hstep⟩

theorem Sound.apply (h : s.Sound) {e : CsEvent} (hok : s.Admits e) (hstep : e.apply s = some s') : s'.Sound := by
  cases e with
  | lease e =>
    obtain ⟨leases, hnext, rfl⟩ := map_eq_some_iff.mp hstep
    apply Sound.onLeaseEffects
    exact h.mono (refl _) (refl _) (refl _)
      fun k hk _ _ hlead => leads_lease (hok k hk) hnext hlead
  | destination id dest =>
    cases hstep
    refine h.mono (refl _) (refl _) (refl _) fun k hk addr port hlead => ⟨?_, hlead.2⟩
    by_cases heq : k.contractID = id
    · have hsame : dest = some addr := by
        rw [← hok k hk heq, ← heq]
        exact hlead.1
      subst hsame
      rw [Table.lookup_insert, if_pos heq]
    · cases dest with
      | some addr' =>
        rw [Table.lookup_insert, if_neg heq]
        exact hlead.1
      | none =>
        rw [Table.lookup_erase, if_neg heq]
        exact hlead.1
  | userRequest r => exact h.processUserRequest hok hstep
  | requestContractList now handle => exact h.requestContractList hok.1 hok.2 hstep
  | response m rsp now =>
    simp only [CsEvent.apply] at hstep
    split at hstep
    · rename_i hm
      obtain ⟨addr, haddr, rfl⟩ := map_eq_some_iff.mp hstep
      exact h.processAPDU hm haddr rsp now
    · cases hstep
  | timeout m =>
    simp only [CsEvent.apply] at hstep
    split at hstep
    · cases hstep
      have hleft : Sound { s with inFlight := s.inFlight.erase m } :=
        h.mono (refl _) (refl _) erase_subset fun _ _ _ _ hlead => hlead
      exact (hleft.erasePending m.handle).frame rfl rfl rfl rfl rfl
    · cases hstep

theorem sound_start (smAddress : Addr128) (cacheTimeout : Int) : (start smAddress cacheTimeout).Sound :=
  ⟨fun _ he => absurd he not_mem_nil, fun _ hp => absurd hp not_mem_nil⟩

end CsState

theorem confirmCached_request {s s' : CsState} (hout : s.out = []) {e : CsEvent} (hstep : e.apply s = some s')
    {session transaction : UInt32} {c : CSData} (hserved : .confirmCached session transaction c ∈ s'.out) :
    ∃ r, e = .userRequest r := by
  cases e with
  | lease e =>
    obtain ⟨leases, -, rfl⟩ := map_eq_some_iff.mp hstep
    rw [(leases_onLeaseEffects _ _).2] at hserved
    exact absurd (hout ▸ hserved) not_mem_nil
  | destination id dest =>
    cases hstep
    exact absurd (hout ▸ hserved) not_mem_nil
  | userRequest r => exact ⟨r, rfl⟩
  | requestContractList now handle =>
    simp only [CsEvent.apply, requestContractList] at hstep
    obtain ⟨k, -, rfl⟩ := map_eq_some_iff.mp hstep
    have hsame : s.out = [] := hout
    split at hserved
    · exact absurd (hsame ▸ hserved) not_mem_nil
    · split at hserved
      · exact absurd (hsame ▸ hserved) not_mem_nil
      · unfold insertPending at hserved
        split at hserved
        · exact absurd (hsame ▸ hserved) not_mem_nil
        · exact absurd (hsame ▸ hserved) not_mem_nil
  | response m rsp now =>
    simp only [CsEvent.apply] at hstep
    split at hstep
    · obtain ⟨addr, -, rfl⟩ := map_eq_some_iff.mp hstep
      unfold processAPDU at hserved
      rcases mem_append.mp hserved with hserved | hserved
      · split at hserved
        · exact absurd (hout ▸ hserved) not_mem_nil
        · unfold putCache at hserved
          split at hserved
          · exact absurd (hout ▸ hserved) not_mem_nil
          · exact absurd (hout ▸ hserved) not_mem_nil
      · cases mem_singleton.mp hserved
    · cases hstep
  | timeout m =>
    simp only [CsEvent.apply] at hstep
    split at hstep
    · cases hstep
      rcases mem_append.mp hserved with hserved | hserved
      · exact absurd (hout ▸ hserved) not_mem_nil
      · cases mem_singleton.mp hserved
    · cases hstep

/-- In every run, a response from the cache was received from the device of the request's lease, at the same port, and in answer to the same request. -/
theorem cache_sound {smAddress : Addr128} {cacheTimeout : Int} {s : CsState}
    (h : Machine.Reaches (start smAddress cacheTimeout) csStep Admits s) {e : CsEvent} {s' : CsState}
    (hok : s.Admits e) (hstep : csStep s e = some s') {session transaction : UInt32} {c : CSData}
    (hserved : .confirmCached session transaction c ∈ s'.out) :
    ∃ r l d, e = .userRequest r ∧ s.requestLease r = some l ∧ r.data = some d ∧ session = r.sessionId ∧
      transaction = r.transactionId ∧ c.source = ⟨l.netAddr.toList, devicePort l.shortTSAPID, d⟩ := by
  have hsound : s.Sound := by
    refine h.invariant (P := fun s => s.Sound) (CsState.sound_start smAddress cacheTimeout) ?_
    intro s e s' hsound hok hnext
    have hok' : Admits { s with out := [] } e := by cases e <;> exact hok
    have hcleared : Sound { s with out := [] } := hsound.frame rfl rfl rfl rfl rfl
    exact hcleared.apply hok' hnext
  have hcleared : Sound { s with out := [] } := hsound.frame rfl rfl rfl rfl rfl
  obtain ⟨r, rfl⟩ := confirmCached_request (s := { s with out := [] }) rfl hstep hserved
  obtain ⟨l, d, hlease, hdata, hsession, htransaction, hsource⟩ := hcleared.served rfl hok hstep hserved
  exact ⟨r, l, d, rfl, hlease, hdata, hsession, htransaction, hsource⟩

instance (s : CsState) : ∀ e : CsEvent, Decidable (s.Admits e)
  | .lease _ => inferInstanceAs (Decidable (∀ _ ∈ _, _))
  | .destination .. => inferInstanceAs (Decidable (∀ _ ∈ _, _))
  | .userRequest _ => inferInstanceAs (Decidable (∀ _ ∈ _, _))
  | .requestContractList .. => inferInstanceAs (Decidable (_ ∧ _))
  | .response .. | .timeout _ => isTrue trivial

def sampleRead (leaseID : UInt32) (handle : UInt16) : CsUserRequest where
  ygsap := false
  sessionId := 1
  transactionId := 20
  dataSize := 19
  leaseID := leaseID
  buffer := 1
  data := some (.read 5 1 0 0)
  now := 1000
  handle := handle
  sfc := sfcSuccess
  tunnelStatus := none

def sampleResponse : CsResponse := ⟨990, 0, sfcSuccess, ⟨[42], by decide⟩⟩

def sampleCached : List CsEvent :=
  [.lease (.createSession 1 ⟨0, false, true⟩), .lease (.userRequest (sampleClient 4096 2)),
    .lease (.contractResponse 7 (sampleEndpoints 2) srvcAperiodicComm), .destination 7 (some sampleDevice.toList),
    .userRequest (sampleRead 1 1), .response ⟨1, 7, 2, .read 5 1 0 0⟩ sampleResponse 1001]

theorem cache_sound_sample : ∃ s s' c, csStep s (.userRequest (sampleRead 1 2)) = some s' ∧
    .confirmCached 1 20 c ∈ s'.out ∧ c.source = ⟨sampleDevice.toList, devicePort 2, .read 5 1 0 0⟩ := by
  obtain ⟨s, hrun, hok, hlease, s', hstep, c, -, hout⟩ :
      ∃ s ∈ Machine.runs csStep (start sampleDevice 60) sampleCached,
        s.Admits (.userRequest (sampleRead 1 2)) ∧
        (s.requestLease (sampleRead 1 2)).map (fun l => (l.netAddr, l.shortTSAPID)) = some (sampleDevice, 2) ∧
        ∃ s' ∈ csStep s (.userRequest (sampleRead 1 2)), ∃ c ∈ s.cache.map Prod.snd,
          s'.out = [.confirmCached 1 20 c] := by
    decide
  have hserved : .confirmCached 1 20 c ∈ s'.out := by
    rw [hout]
    exact mem_singleton.mpr rfl
  obtain ⟨r, l, d, hr, hl, hd, -, -, hsource⟩ := cache_sound (Machine.reaches_runs (by decide) hrun) hok hstep hserved
  obtain rfl := CsEvent.userRequest.inj hr
  obtain rfl : CsReqData.read 5 1 0 0 = d := Option.some.inj hd
  rw [hl, map_some] at hlease
  obtain ⟨haddr, hport⟩ := Prod.mk.inj (Option.some.inj hlease)
  exact ⟨s, s', c, hstep, hserved, by rw [hsource, haddr, hport]⟩

def otherDevice : Addr128 := Vector.replicate 16 9

def otherClient : LeaseRequest :=
  { sampleClient 4112 2 with data := { sampleLeaseData with leaseType := 0, endpointAddr := otherDevice } }

def sampleReused : List CsEvent :=
  sampleCached ++ [.lease (.deleteContract 7), .destination 7 none, .lease (.userRequest otherClient),
    .lease (.contractResponse 7 ⟨otherDevice.toList, isa100StartPorts + 2, isa100AppPort⟩ srvcAperiodicComm),
    .destination 7 (some otherDevice.toList)]

/-- A client gets the response of the first device for its request to the second. -/
theorem cache_serves_other_device : ∃ s s' c l, Machine.Reaches (start sampleDevice 60) csStep (fun _ _ => True) s ∧
      s.requestLease (sampleRead 2 2) = some l ∧ l.netAddr = otherDevice ∧
      csStep s (.userRequest (sampleRead 2 2)) = some s' ∧ .confirmCached 1 20 c ∈ s'.out ∧
      c.source.addr = sampleDevice.toList ∧ c.source.addr ≠ l.netAddr.toList := by
  obtain ⟨s, hrun, l, hlease, haddr, s', hstep, c, -, hout, hsource⟩ :
      ∃ s ∈ Machine.runs csStep (start sampleDevice 60) sampleReused,
        ∃ l ∈ s.requestLease (sampleRead 2 2), l.netAddr = otherDevice ∧
        ∃ s' ∈ csStep s (.userRequest (sampleRead 2 2)), ∃ c ∈ s.cache.map Prod.snd,
          s'.out = [.confirmCached 1 20 c] ∧ c.source.addr = sampleDevice.toList := by
    decide
  have hserved : .confirmCached 1 20 c ∈ s'.out := by
    rw [hout]
    exact mem_singleton.mpr rfl
  have hreached : Machine.Reaches (start sampleDevice 60) csStep (fun _ _ => True) s :=
    Machine.reaches_runs (by decide) hrun
  refine ⟨s, s', c, l, hreached, hlease, haddr, hstep, hserved, hsource, ?_⟩
  rw [hsource, haddr]
  decide

end Isa100Gateway
