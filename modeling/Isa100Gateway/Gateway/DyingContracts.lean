import Isa100Gateway.Gateway.LeaseUsage

/-!
# Contracts whose termination was requested

An explicit delete or the end of a session that takes the last lease of a contract asks for its termination and leaves the lease in the pending list until the contract is gone. A create that finds such a contract is refused.
-/

namespace Isa100Gateway

open LeaseContracts LeaseState List Option

namespace LeaseContracts

def key (contracts : LeaseContracts) (id : UInt16) : Option (ContractEndpoints × UInt8) :=
  (contracts.lookup id).map fun c => (c.endpoints, c.serviceType)

variable (contracts : LeaseContracts) (id id' : UInt16)

theorem key_insert (c : LeaseContract) :
    key (contracts.insert id c) id' = if id' = id then some (c.endpoints, c.serviceType) else contracts.key id' := by
  unfold key
  by_cases heq : id' = id
  · subst heq
    rw [AList.lookup_insert, if_pos rfl, map_some]
  · rw [AList.lookup_insert_ne heq, if_neg heq]

theorem key_erase : key (contracts.erase id) id' = if id' = id then none else contracts.key id' := by
  unfold key
  by_cases heq : id' = id
  · subst heq
    rw [AList.lookup_erase, if_pos rfl, map_none]
  · rw [AList.lookup_erase_ne heq, if_neg heq]

theorem key_recount (f : UInt8 → UInt8) : (contracts.recount id f).key id' = contracts.key id' := by
  unfold recount
  cases hlookup : contracts.lookup id with
  | some c =>
    rw [key_insert]
    split
    · rename_i heq
      rw [heq, key, hlookup, map_some]
    · rfl
  | none => rfl

variable {contracts id}

variable {endpoints : ContractEndpoints}

theorem key_of_getContract {serviceType : UInt8} (h : contracts.getContract endpoints serviceType = some id) :
    contracts.key id = some (endpoints, serviceType) := by
  obtain ⟨n, hmin, rfl⟩ := map_eq_some_iff.mp h
  obtain ⟨e, he, rfl⟩ := mem_map.mp (min?_mem hmin)
  have hlookup : contracts.lookup e.1 = some e.2 :=
    AList.mem_lookup_iff.mpr (mem_of_mem_filter he)
  obtain ⟨hservice, hendpoints⟩ := of_decide_eq_true (mem_filter.mp he).2
  rw [UInt16.ofNat_toNat, key, hlookup, map_some, hservice, hendpoints]

theorem key_of_getContract_none {serviceType : UInt8}
    (h : contracts.getContract endpoints serviceType = none) (id : UInt16) :
    contracts.key id ≠ some (endpoints, serviceType) := by
  intro hkey
  obtain ⟨c, hlookup, heq⟩ := map_eq_some_iff.mp hkey
  obtain ⟨hendpoints, hservice⟩ := Prod.mk.inj heq
  have hmem : (⟨id, c⟩ : Sigma fun _ : UInt16 => LeaseContract) ∈ contracts.entries :=
    AList.mem_lookup_iff.mp hlookup
  rw [getContract, map_eq_none_iff, min?_eq_none_iff, map_eq_nil_iff, filter_eq_nil_iff] at h
  exact h _ hmem (decide_eq_true ⟨hservice, hendpoints⟩)

end LeaseContracts

def Lease.place (l : Lease) : UInt32 × UInt16 × ContractEndpoints := (l.address, l.contractId, l.endpoints)

theorem place_inj {l m : Lease} (h : m.place = l.place) :
    m.address = l.address ∧ m.contractId = l.contractId ∧ m.endpoints = l.endpoints :=
  ⟨congrArg Prod.fst h, congrArg (fun x => x.2.1) h, congrArg (fun x => x.2.2) h⟩

theorem endpoints_inj {l m : Lease} (h : m.endpoints = l.endpoints) :
    m.netAddr = l.netAddr ∧ m.shortTSAPID = l.shortTSAPID := by
  obtain ⟨haddr, hport, -⟩ := ContractEndpoints.mk.inj h
  refine ⟨Vector.toList_inj.mp haddr, ?_⟩
  have hshort : m.shortTSAPID.toUInt16 = l.shortTSAPID.toUInt16 := (UInt16.add_right_inj _).mp hport
  rw [← UInt8.toNat_inj]
  exact congrArg UInt16.toNat hshort

def Lease.needsContract (l : Lease) : Bool := l.leaseType ≠ .server ∧ l.leaseType ≠ .alert ∧ !l.isPeriodic

namespace LeaseState

variable {s₀ s s' : LeaseState} {l : Lease}

/-- The contract is in the table, and a deleted lease with its end points waits until it is gone. -/
def Marked (s : LeaseState) (id : UInt16) : Prop :=
  id ≠ 0 ∧ ∃ m ∈ s.pendingDelete, m.contractId = id ∧ s.contracts.key id = some (m.endpoints, srvcAperiodicComm)

/-- A lease is on a contract with its end points, and none waits for end points that the table has. -/
structure Keyed (s : LeaseState) : Prop where
  active : ∀ l ∈ s.active, l.contractId ≠ 0 → s.contracts.key l.contractId = some (l.endpoints, srvcAperiodicComm)
  waiting : ∀ l ∈ s.inProgress, ∀ id, id ≠ 0 → s.contracts.key id ≠ some (l.endpoints, srvcAperiodicComm)

structure Kept (s₀ s : LeaseState) : Prop where
  keys : ∀ id, id ≠ 0 → s.contracts.key id = s₀.contracts.key id
  active : s.active.map Lease.place ⊆ s₀.active.map Lease.place
  waiting : s.inProgress.map Lease.endpoints ⊆ s₀.inProgress.map Lease.endpoints
  pending : s₀.pendingDelete.map Lease.place ⊆ s.pendingDelete.map Lease.place

theorem Kept.refl (s : LeaseState) : Kept s s :=
  ⟨fun _ _ => rfl, Subset.refl _, Subset.refl _, Subset.refl _⟩

theorem Kept.trans (h : Kept s₀ s) (h' : Kept s s') : Kept s₀ s' :=
  ⟨fun id hid => (h'.keys id hid).trans (h.keys id hid), Subset.trans h'.active h.active,
    Subset.trans h'.waiting h.waiting, Subset.trans h.pending h'.pending⟩

theorem Kept.mem_active (h : Kept s₀ s) (hl : l ∈ s.active) : ∃ m ∈ s₀.active, m.place = l.place :=
  mem_map.mp (h.active (mem_map_of_mem hl))

variable {id : UInt16} {pre post : List Lease} {subs : List (PublishKey × UInt32)} {r : LeaseRequest}
  {endpoints : ContractEndpoints} {serviceType : UInt8}

theorem Kept.marked (h : Kept s₀ s) (hmarked : s₀.Marked id) : s.Marked id := by
  obtain ⟨hid, m, hm, hcontract, hkey⟩ := hmarked
  obtain ⟨m', hm', hplace⟩ := mem_map.mp (h.pending (mem_map_of_mem hm))
  obtain ⟨-, hcontract', hendpoints⟩ := place_inj hplace
  refine ⟨hid, m', hm', hcontract'.trans hcontract, ?_⟩
  rw [h.keys id hid, hkey, hendpoints]

theorem Kept.keyed (h : Kept s₀ s) (hkeyed : s₀.Keyed) : s.Keyed := by
  refine ⟨fun l hl hid => ?_, fun l hl id hid => ?_⟩
  · obtain ⟨m, hm, hplace⟩ := h.mem_active hl
    obtain ⟨-, hcontract, hendpoints⟩ := place_inj hplace
    rw [h.keys _ hid, ← hcontract, ← hendpoints]
    exact hkeyed.active m hm (hcontract ▸ hid)
  · obtain ⟨m, hm, hendpoints⟩ := mem_map.mp (h.waiting (mem_map_of_mem hl))
    rw [h.keys id hid, ← hendpoints]
    exact hkeyed.waiting m hm id hid

/-- After a step from `s₀`, the contracts `dying` are still marked, and the leases on them were there before. -/
structure Spares (dying : List UInt16) (s₀ s : LeaseState) : Prop where
  keyed : s.Keyed
  marked : ∀ id ∈ dying, s.Marked id
  apart : ∀ l ∈ s.active, l.contractId ∈ dying → ∃ m ∈ s₀.active, m.address = l.address ∧ m.contractId = l.contractId

variable {dying : List UInt16}

theorem Kept.spares (h : Kept s₀ s) (hkeyed : s₀.Keyed) (hmarked : ∀ id ∈ dying, s₀.Marked id) :
    Spares dying s₀ s := by
  refine ⟨h.keyed hkeyed, fun id hid => h.marked (hmarked id hid), fun l hl _ => ?_⟩
  obtain ⟨m, hm, hplace⟩ := h.mem_active hl
  obtain ⟨haddress, hcontract, -⟩ := place_inj hplace
  exact ⟨m, hm, haddress, hcontract⟩

theorem Kept.deleteActive (h : Kept s₀ { s with active := pre ++ l :: post }) (deleteContract waits : Bool) :
    Kept s₀ { (deleteActiveLease deleteContract waits s l).1 with active := pre ++ post } := by
  refine ⟨fun id hid => ?_, ?_, h.waiting, ?_⟩
  · exact (s.contracts.key_recount l.contractId id (· - 1)).trans (h.keys id hid)
  · exact Subset.trans (map_subset _ fun _ hm => mem_of_rest hm) h.active
  · refine Subset.trans h.pending (map_subset _ fun m hm => ?_)
    change m ∈ (deleteActiveLease deleteContract waits s l).1.pendingDelete
    unfold deleteActiveLease
    dsimp only
    split
    · exact mem_append_left _ hm
    · exact hm

def requested (out : List LeaseEffect) : List UInt16 :=
  out.filterMap fun
    | .requestContractTermination id => some id
    | _ => none

theorem requested_append (es es' : List LeaseEffect) : requested (es ++ es') = requested es ++ requested es' :=
  filterMap_append

def Marks (s : LeaseState) : Prop := ∀ id ∈ requested s.out, s.Marked id

theorem Marks.frame (h : s.Marks) (hpending : s'.pendingDelete = s.pendingDelete)
    (hkeys : ∀ id, s'.contracts.key id = s.contracts.key id) (hout : requested s'.out = requested s.out) :
    s'.Marks := by
  intro id hid
  rw [hout] at hid
  obtain ⟨hne, m, hm, hcontract, hkey⟩ := h id hid
  exact ⟨hne, m, hpending ▸ hm, hcontract, (hkeys id).trans hkey⟩

theorem requested_leaseConfirm (s : LeaseState) (session transaction : UInt32) (status : UInt8)
    (leaseId period : UInt32) (request : Nat) :
    requested (s.leaseConfirm session transaction status leaseId period request).out = requested s.out := by
  unfold leaseConfirm
  rw [requested_append]
  split <;> exact append_nil _

theorem Marks.leaseConfirm (h : s.Marks) (session transaction : UInt32) (status : UInt8)
    (leaseId period : UInt32) (request : Nat) :
    (s.leaseConfirm session transaction status leaseId period request).Marks :=
  h.frame rfl (fun _ => rfl) (requested_leaseConfirm s _ _ _ _ _ _)

theorem Marks.deleteActive (h : Marks { s with active := pre ++ l :: post })
    (hkeyed : Keyed { s with active := pre ++ l :: post }) (deleteContract : Bool) :
    Marks { (deleteActiveLease deleteContract true s l).1 with active := pre ++ post } := by
  have hkeys := s.contracts.key_recount l.contractId
  intro id hid
  cases hterminates : s.terminates deleteContract (s.contracts.recount l.contractId (· - 1)) l.contractId with
  | true =>
    have hout : requested (deleteActiveLease deleteContract true s l).1.out = requested s.out ++ [l.contractId] := by
      unfold deleteActiveLease
      dsimp only
      rw [hterminates, requested_append]
      rfl
    have hpending : (deleteActiveLease deleteContract true s l).1.pendingDelete = s.pendingDelete ++ [l] := by
      unfold deleteActiveLease
      dsimp only
      rw [hterminates]
      rfl
    rcases mem_append.mp (hout ▸ hid) with hbefore | hnew
    · obtain ⟨hne, m, hm, hcontract, hkey⟩ := h id hbefore
      refine ⟨hne, m, ?_, hcontract, (hkeys id _).trans hkey⟩
      rw [hpending]
      exact mem_append_left _ hm
    · obtain rfl := mem_singleton.mp hnew
      have hne : l.contractId ≠ 0 := by
        intro hzero
        unfold terminates at hterminates
        rw [hzero] at hterminates
        simp at hterminates
      refine ⟨hne, l, ?_, rfl, (hkeys _ _).trans (hkeyed.active l (mem_middle pre post l) hne)⟩
      rw [hpending]
      exact mem_append_right _ (mem_singleton_self l)
  | false =>
    refine Marks.frame (s := s) h ?_ (fun id => hkeys id _) ?_ id hid
    · change (deleteActiveLease deleteContract true s l).1.pendingDelete = _
      unfold deleteActiveLease
      dsimp only
      rw [hterminates]
      rfl
    · change requested (deleteActiveLease deleteContract true s l).1.out = _
      unfold deleteActiveLease
      dsimp only
      rw [hterminates, requested_append]
      exact append_nil _

theorem Kept.sweepSubscriber (h : Kept s₀ s) (p : Lease → Bool) :
    Kept s₀ (s.sweepSubscriber p deleteActiveSubscriberLease) :=
  sweepSubscriber_rule (P := fun t => Kept s₀ t) (fun _ _ _ _ _ h => ⟨h.keys, h.active, h.waiting, h.pending⟩) h

theorem Kept.dropWaiting (h : Kept s₀ { s with inProgress := pre ++ l :: post }) :
    Kept s₀ { s with inProgress := pre ++ post } :=
  ⟨h.keys, h.active, Subset.trans (map_subset _ fun _ hm => mem_of_rest hm) h.waiting, h.pending⟩

theorem Kept.leaseConfirm (h : Kept s₀ s) (session transaction : UInt32) (status : UInt8)
    (leaseId period : UInt32) (request : Nat) :
    Kept s₀ (s.leaseConfirm session transaction status leaseId period request) :=
  ⟨h.keys, h.active, h.waiting, h.pending⟩

theorem Kept.deleteActiveLeases (h : Kept s₀ s) (p : Lease → Bool) (deleteContract waits : Bool) :
    Kept s₀ (deleteActiveLeases p deleteContract waits s) :=
  sweepActive_rule (P := fun t => Kept s₀ t) (fun _ _ _ _ _ h => h.deleteActive deleteContract waits) h

theorem Kept.checkExpireLeases (s : LeaseState) (now : Int32) : Kept s (checkExpireLeases now s) := by
  refine sweepInProgress_rule (P := fun t => Kept s t) ?_
    (((Kept.refl s).deleteActiveLeases (Lease.expired now) true false).sweepSubscriber (Lease.expired now))
  intro t pre l post _ h
  have hdropped := h.dropWaiting
  exact ⟨hdropped.keys, hdropped.active, hdropped.waiting, hdropped.pending⟩

theorem Marks.sweepSubscriber (h : s.Marks) (p : Lease → Bool) :
    (s.sweepSubscriber p deleteActiveSubscriberLease).Marks := by
  refine sweepSubscriber_rule (P := fun t => t.Marks) ?_ h
  intro t pre l post _ ht
  refine ht.frame rfl (fun _ => rfl) ?_
  change requested (t.out ++ [_]) = requested t.out
  rw [requested_append]
  exact append_nil _

theorem Kept.processSessionDelete (hkeyed : s.Keyed) (hmarks : s.Marks) (session : UInt32) :
    Kept s (processSessionDelete session s) ∧ (processSessionDelete session s).Marks := by
  have hdeleted : Kept s (Isa100Gateway.deleteActiveLeases (·.sessionId = session) true true s) ∧
      (Isa100Gateway.deleteActiveLeases (·.sessionId = session) true true s).Marks := by
    refine sweepActive_rule (P := fun t => Kept s t ∧ t.Marks) ?_ ⟨Kept.refl s, hmarks⟩
    rintro t pre l post - ⟨hkept, ht⟩
    exact ⟨hkept.deleteActive true true, ht.deleteActive (hkept.keyed hkeyed) true⟩
  refine sweepInProgress_rule (P := fun t => Kept s t ∧ t.Marks) ?_
    ⟨hdeleted.1.sweepSubscriber _, hdeleted.2.sweepSubscriber _⟩
  rintro t pre l post - ⟨hkept, ht⟩
  exact ⟨hkept.dropWaiting, ht⟩

theorem Kept.deleteLease (hkeyed : s.Keyed) (hmarks : s.Marks) {request : Nat} (htracks : s.Tracks subs)
    (hstep : deleteLease r l request s = some s') : Kept s s' ∧ s'.Marks := by
  obtain ⟨pre, post, -, rfl⟩ | ⟨pre, post, hsplit, hends⟩ := deleteLease_cases htracks hstep
  · constructor
    · apply Kept.leaseConfirm
      exact ⟨fun _ _ => rfl, Subset.refl _, Subset.refl _, Subset.refl _⟩
    · apply Marks.leaseConfirm
      refine hmarks.frame rfl (fun _ => rfl) ?_
      change requested (s.out ++ [_]) = requested s.out
      rw [requested_append]
      exact append_nil _
  · have hsame : { s with active := pre ++ l :: post } = s := by rw [← hsplit]
    have hself : Kept s { s with active := pre ++ l :: post } := by
      rw [hsame]
      exact Kept.refl s
    have hdeleted := hself.deleteActive true true
    have hfocused : Marks { s with active := pre ++ l :: post } := by
      rw [hsame]
      exact hmarks
    have hmarked := hfocused.deleteActive (hself.keyed hkeyed) true
    obtain ⟨-, rfl⟩ | ⟨-, rfl⟩ := hends
    · -- the waiting lease stays where it is
      have hplace : ∀ m, (r.renumber l request m).place = m.place := by
        intro m
        unfold LeaseRequest.renumber
        split <;> rfl
      have hplaces : ∀ ms : List Lease, (ms.map (r.renumber l request)).map Lease.place = ms.map Lease.place := by
        intro ms
        rw [List.map_map]
        exact map_congr_left fun m _ => hplace m
      have hrenumbered : Kept { (deleteActiveLease true true s l).1 with active := pre ++ post }
          { (deleteActiveLease true true s l).1 with
            active := pre ++ post
            pendingDelete := (deleteActiveLease true true s l).1.pendingDelete.map (r.renumber l request) } :=
        ⟨fun _ _ => rfl, Subset.refl _, Subset.refl _, (hplaces _).symm ▸ Subset.refl _⟩
      exact ⟨hdeleted.trans hrenumbered, fun id hid => hrenumbered.marked (hmarked id hid)⟩
    · exact ⟨hdeleted.leaseConfirm _ _ _ _ _ _, hmarked.leaseConfirm _ _ _ _ _ _⟩

theorem Kept.of_map {f g : Lease → Lease} (hf : ∀ l, (f l).place = l.place) (hg : ∀ l, (g l).endpoints = l.endpoints)
    (hactive : s'.active = s.active.map f) (hwaiting : s'.inProgress = s.inProgress.map g)
    (hpending : s'.pendingDelete = s.pendingDelete) (hcontracts : s'.contracts = s.contracts) : Kept s s' := by
  have hplace : Lease.place ∘ f = Lease.place := funext hf
  have hendpoints : Lease.endpoints ∘ g = Lease.endpoints := funext hg
  refine ⟨fun id _ => by rw [hcontracts], ?_, ?_, ?_⟩
  · rw [hactive, List.map_map, hplace]
    exact Subset.refl _
  · rw [hwaiting, List.map_map, hendpoints]
    exact Subset.refl _
  · rw [hpending]
    exact Subset.refl _

theorem Kept.processSessionUpdate (s : LeaseState) (session : UInt32) (expirationTime : Int32) :
    Kept s (processSessionUpdate session expirationTime s) := by
  refine Kept.of_map (fun l => ?_) (fun l => ?_) rfl rfl rfl rfl
  · split <;> rfl
  · split <;> rfl

theorem Kept.updateLease (s : LeaseState) (address : UInt32) {f : Lease → Lease}
    (hf : ∀ l, (f l).place = l.place) : Kept s (s.updateLease address f) := by
  refine Kept.of_map (g := id) (fun l => ?_) (fun _ => rfl) rfl (map_id _).symm rfl rfl
  split
  · exact hf l
  · rfl

/-! ## Creating -/

def SameLocal (s : LeaseState) (l : Lease) : Prop :=
  ∀ m ∈ s.pendingDelete, m.netAddr = l.netAddr → m.shortTSAPID = l.shortTSAPID → m.localTSAPID = l.localTSAPID

theorem blocks_of_marked (hmarked : s.Marked id) (hlocal : s.SameLocal l)
    (hfound : s.contracts.getContract l.endpoints srvcAperiodicComm = some id) : s.blocks l = true := by
  obtain ⟨-, m, hm, -, hkey⟩ := hmarked
  have hendpoints : m.endpoints = l.endpoints := by
    rw [key_of_getContract hfound] at hkey
    exact (congrArg Prod.fst (Option.some.inj hkey)).symm
  obtain ⟨haddr, hshort⟩ := endpoints_inj hendpoints
  exact any_eq_true.mpr ⟨m, hm, decide_eq_true ⟨haddr, hshort, hlocal m hm haddr hshort⟩⟩

theorem Spares.leaseConfirm (h : Spares dying s₀ s) (session transaction : UInt32) (status : UInt8)
    (leaseId period : UInt32) (request : Nat) :
    Spares dying s₀ (s.leaseConfirm session transaction status leaseId period request) :=
  ⟨⟨h.keyed.active, h.keyed.waiting⟩, h.marked, h.apart⟩

theorem Spares.append (hkeyed : s.Keyed) (hmarked : ∀ id ∈ dying, s.Marked id) (l : Lease)
    (hkey : l.contractId = 0 ∨ s.contracts.key l.contractId = some (l.endpoints, srvcAperiodicComm))
    (hfresh : l.contractId ∉ dying) : Spares dying s { s with active := s.active ++ [l] } := by
  refine ⟨⟨fun m hm hid => ?_, hkeyed.waiting⟩, hmarked, fun m hm hid => ?_⟩
  · rcases mem_append.mp hm with hm | hm
    · exact hkeyed.active m hm hid
    · obtain rfl := mem_singleton.mp hm
      exact hkey.resolve_left hid
  · rcases mem_append.mp hm with hm | hm
    · exact ⟨m, hm, rfl, rfl⟩
    · obtain rfl := mem_singleton.mp hm
      exact absurd hid hfresh

theorem Spares.establish (hkeyed : s.Keyed) (hmarked : ∀ id ∈ dying, s.Marked id) (r : LeaseRequest)
    (hl : l.contractId = 0) (hlocal : l.needsContract = true → s.SameLocal l) : Spares dying s (s.establish r l) := by
  have hspares := (Kept.refl s).spares hkeyed hmarked
  unfold LeaseState.establish
  split
  · have happend := Spares.append hkeyed hmarked { l with leaseId := s.newLeaseId } (Or.inl hl)
      fun hdying => (hmarked _ hdying).1 hl
    apply Spares.leaseConfirm
    exact ⟨⟨happend.keyed.active, happend.keyed.waiting⟩, happend.marked, happend.apart⟩
  split
  · apply Spares.leaseConfirm
    exact ⟨⟨hkeyed.active, hkeyed.waiting⟩, hspares.marked, hspares.apart⟩
  · rename_i hplaced hperiodic
    have hneeds : l.needsContract = true :=
      decide_eq_true ⟨fun h => hplaced (Or.inl h), fun h => hplaced (Or.inr h), by simpa using hperiodic⟩
    split
    · rename_i id hfound
      split
      · exact hspares.leaseConfirm _ _ _ _ _ _
      · rename_i hopen
        have happend := Spares.append hkeyed hmarked { l with leaseId := s.newLeaseId, contractId := id }
          (Or.inr (key_of_getContract hfound))
          fun hdying => hopen (blocks_of_marked (hmarked id hdying) (hlocal hneeds) hfound)
        have hkeys := s.contracts.key_recount id
        apply Spares.leaseConfirm
        refine ⟨⟨fun m hm hid => (hkeys _ _).trans (happend.keyed.active m hm hid), fun m hm id' hid => ?_⟩,
          fun id' hid => ?_, happend.apart⟩
        · change key (s.contracts.recount id _) id' ≠ _
          rw [hkeys]
          exact hkeyed.waiting m hm id' hid
        · obtain ⟨hne, m, hm, hcontract, hkey⟩ := hmarked id' hid
          exact ⟨hne, m, hm, hcontract, (hkeys _ _).trans hkey⟩
    · rename_i hnone
      refine ⟨⟨hkeyed.active, fun m hm id hid => ?_⟩, hmarked, hspares.apart⟩
      rcases mem_append.mp hm with hm | hm
      · exact hkeyed.waiting m hm id hid
      · obtain rfl := mem_singleton.mp hm
        exact key_of_getContract_none hnone id

theorem requested_establish (s : LeaseState) (r : LeaseRequest) (l : Lease) :
    requested (s.establish r l).out = requested s.out := by
  unfold establish
  split
  · exact requested_leaseConfirm _ _ _ _ _ _ _
  split
  · refine (requested_leaseConfirm _ _ _ _ _ _ _).trans ?_
    rw [requested_append]
    exact append_nil _
  · split
    · split
      · exact requested_leaseConfirm _ _ _ _ _ _ _
      · exact requested_leaseConfirm _ _ _ _ _ _ _
    · rw [requested_append]
      exact append_nil _

theorem processUserRequest_creates (hcreates : s.creates r = some l)
    (hstep : processUserRequest r s = some s') : s' = establish { s with requests := s.requests + 1 } r l := by
  unfold creates at hcreates
  split at hcreates
  · rename_i type haccepted
    split at hcreates
    · rename_i sessExpTime addr hsession haddr
      split at hcreates
      · cases hcreates
      · rename_i hvalid
        cases hcreates
        obtain ⟨hnew, hvalid⟩ := not_or.mp hvalid
        obtain ⟨hinfo, htunnel⟩ := not_or.mp hvalid
        have haccepted' : validateUserRequest r { s with requests := s.requests + 1 } = .accepted type := haccepted
        have hsession' : sessionExpTime { s with requests := s.requests + 1 } r.sessionId = some sessExpTime := hsession
        simp only [processUserRequest, haccepted'] at hstep
        rw [if_pos (not_not.mp hnew)] at hstep
        simp only [createLease, hsession', haddr] at hstep
        split at hstep
        · cases hstep
        · exact (Option.some.inj hstep).symm
    · cases hcreates
  · cases hcreates

theorem establish_refused (hneeds : l.needsContract = true) (hmarked : s.Marked id)
    (hlocal : s.SameLocal l) (hfound : s.contracts.getContract l.endpoints srvcAperiodicComm = some id)
    (r : LeaseRequest) : s.establish r l = s.refuse r (r.status ygsLimitExceeded leaseNotAvailable) l.request := by
  obtain ⟨hserver, halert, hperiodic⟩ := of_decide_eq_true hneeds
  unfold establish
  rw [if_neg (not_or.mpr ⟨hserver, halert⟩), if_neg (by simpa using hperiodic), hfound]
  exact if_pos (blocks_of_marked hmarked hlocal hfound)

theorem Spares.processUserRequest (hkeyed : s.Keyed)
    (hmarked : ∀ id ∈ dying, s.Marked id) (htracks : s.Tracks subs) (hout : s.out = [])
    (hlocal : ∀ l ∈ s.creates r, l.needsContract = true → s.SameLocal l) (hstep : processUserRequest r s = some s') :
    Spares dying s s' ∧ s'.Marks := by
  have hself : Kept s s.counted := ⟨fun _ _ => rfl, Subset.refl _, Subset.refl _, Subset.refl _⟩
  have hcounted := hself.spares hkeyed hmarked
  have hmarks : s.counted.Marks := by
    intro id hid
    change id ∈ requested s.out at hid
    rw [hout] at hid
    cases hid
  cases processUserRequest_served hstep with
  | tooShort => exact ⟨hcounted, hmarks⟩
  | confirmed => exact ⟨hcounted.leaseConfirm _ _ _ _ _ _, hmarks.leaseConfirm _ _ _ _ _ _⟩
  | @created l hcreates =>
    have hl : l.contractId = 0 := by
      obtain ⟨_, _, _, -, -, rfl⟩ := creates_cases hcreates
      rfl
    have hestablish := Spares.establish hcounted.keyed hcounted.marked r hl (hlocal l hcreates)
    refine ⟨⟨hestablish.keyed, hestablish.marked, hestablish.apart⟩, fun id hid => ?_⟩
    rw [requested_establish] at hid
    exact absurd (hout ▸ hid : id ∈ requested []) (not_mem_nil)
  | deleted _ hdelete =>
    have htracks' : s.counted.Tracks subs := htracks.frame rfl rfl rfl rfl rfl
    obtain ⟨hkept, hmarked'⟩ := Kept.deleteLease hcounted.keyed hmarks htracks' hdelete
    exact ⟨(hself.trans hkept).spares hkeyed hmarked, hmarked'⟩
  | @renewed l _ expirationTime =>
    have hkept : Kept s (s.counted.updateLease l.address ({ · with expirationTime := expirationTime })) :=
      hself.trans (Kept.updateLease s.counted _ fun _ => rfl)
    have hmarks' : Marks (s.counted.updateLease l.address ({ · with expirationTime := expirationTime })) := hmarks
    exact ⟨(hkept.spares hkeyed hmarked).leaseConfirm _ _ _ _ _ _, hmarks'.leaseConfirm _ _ _ _ _ _⟩

/-! ## Contract events -/

theorem awaits_iff (hl : l.isPeriodic = false) :
    l.awaits endpoints serviceType = true ↔ (l.endpoints, srvcAperiodicComm) = (endpoints, serviceType) := by
  unfold Lease.awaits
  rw [Bool.and_eq_true, Bool.and_eq_true, hl, decide_eq_true_iff, decide_eq_true_iff, Prod.mk.injEq]
  exact ⟨fun h => ⟨h.1.2, h.2.symm⟩, fun h => ⟨⟨rfl, h.1⟩, h.2.symm⟩⟩

theorem Spares.contractCreated (h : Spares dying s₀ { s with inProgress := [] }) (stored : Bool)
    (hperiodic : ∀ l ∈ s.inProgress, l.isPeriodic = false)
    (hawait : ∀ l ∈ s.inProgress, l.awaits endpoints serviceType = true →
      s.contracts.key id = some (endpoints, serviceType) ∧ id ∉ dying)
    (hrest : ∀ l ∈ s.inProgress, l.awaits endpoints serviceType = false →
      ∀ id', id' ≠ 0 → s.contracts.key id' ≠ some (l.endpoints, srvcAperiodicComm)) :
    Spares dying s₀ (contractCreated id endpoints serviceType stored s) := by
  have hsweep : Spares dying s₀ { Isa100Gateway.contractCreated id endpoints serviceType stored
    s with inProgress := [] } ∧
      (∀ id', (Isa100Gateway.contractCreated id endpoints serviceType stored s).contracts.key id' =
        s.contracts.key id') ∧
      ∀ l ∈ (Isa100Gateway.contractCreated id endpoints serviceType stored s).inProgress, l ∈ s.inProgress := by
    refine sweepInProgress_rule (P := fun t => Spares dying s₀ { t with inProgress := [] } ∧
      (∀ id', t.contracts.key id' = s.contracts.key id') ∧ ∀ l ∈ t.inProgress, l ∈ s.inProgress) ?_
      ⟨h, fun _ => rfl, fun _ hl => hl⟩
    rintro t pre l post hl ⟨ht, hkeys, hmem⟩
    have hwaits : l ∈ s.inProgress := hmem l (mem_middle pre post l)
    obtain ⟨hkey, hfresh⟩ := hawait l hwaits hl
    have hpair := (awaits_iff (hperiodic l hwaits)).mp hl
    have hrecount : ∀ id', (attachLease id stored t l).contracts.key id' = t.contracts.key id' := by
      intro id'
      change key (if stored then t.contracts.recount id (· + 1) else t.contracts) id' = _
      split
      · exact t.contracts.key_recount id id' _
      · rfl
    have hkeys : ∀ id', t.contracts.key id' = s.contracts.key id' := hkeys
    have happend := Spares.append (s := { t with inProgress := [] }) ht.keyed ht.marked
      { l with contractId := id, leaseId := t.newLeaseId }
        (Or.inr ((hkeys id).trans (hkey.trans (congrArg some hpair.symm)))) hfresh
    refine ⟨⟨⟨fun m hm hne => (hrecount _).trans (happend.keyed.active m hm hne), fun m hm => nomatch hm⟩,
      fun id' hid' => ?_, fun m hm hdying => ?_⟩, fun id' => (hrecount id').trans (hkeys id'),
      fun m hm => hmem m (mem_of_rest hm)⟩
    · obtain ⟨hne, m, hm, hcontract, hmkey⟩ := ht.marked id' hid'
      exact ⟨hne, m, hm, hcontract, (hrecount _).trans hmkey⟩
    · obtain ⟨m', hm', haddress, hcontract⟩ := happend.apart m hm hdying
      have hcontract' : m'.contractId ∈ dying := hcontract ▸ hdying
      obtain ⟨m₀, hm₀, haddress₀, hcontract₀⟩ := ht.apart m' hm' hcontract'
      exact ⟨m₀, hm₀, haddress₀.trans haddress, hcontract₀.trans hcontract⟩
  obtain ⟨hspares, hkeys, -⟩ := hsweep
  refine ⟨⟨hspares.keyed.active, fun l hl id' hid' => ?_⟩, hspares.marked, hspares.apart⟩
  -- what still waits does not wait for this contract
  have hleft : (Isa100Gateway.contractCreated id endpoints serviceType stored s).inProgress =
      s.inProgress.filter fun l => !l.awaits endpoints serviceType := sweepInProgress_inProgress
  rw [hleft] at hl
  obtain ⟨hl, hnot⟩ := mem_filter.mp hl
  rw [hkeys]
  exact hrest l hl (by simpa using hnot) id' hid'

theorem Spares.notifyAddContract (h : Spares dying s₀ { s with inProgress := [] }) (hid : id ≠ 0) (stored : Bool)
    (hperiodic : ∀ l ∈ s.inProgress, l.isPeriodic = false)
    (hawait : ∀ l ∈ s.inProgress, l.awaits endpoints serviceType = true →
      s.contracts.key id = some (endpoints, serviceType) ∧ id ∉ dying)
    (hrest : ∀ l ∈ s.inProgress, l.awaits endpoints serviceType = false →
      ∀ id', id' ≠ 0 → s.contracts.key id' ≠ some (l.endpoints, srvcAperiodicComm)) :
    Spares dying s₀ (notifyAddContract id endpoints serviceType stored s) := by
  unfold Isa100Gateway.notifyAddContract
  rw [if_neg hid]
  split
  · have hframe : Spares dying s₀ { { s with smContractID := id } with inProgress := [] } :=
      ⟨⟨h.keyed.active, h.keyed.waiting⟩, h.marked, h.apart⟩
    exact hframe.contractCreated stored hperiodic hawait hrest
  · exact h.contractCreated stored hperiodic hawait hrest

theorem Spares.insert (hkeyed : s.Keyed) (hmarked : ∀ id ∈ dying, s.Marked id)
    (hapart : ∀ l ∈ s.active, l.contractId ∈ dying → ∃ m ∈ s₀.active, m.address = l.address ∧ m.contractId =
      l.contractId)
    (hperiodic : ∀ l ∈ s.inProgress, l.isPeriodic = false) (id : UInt16) (c : LeaseContract)
    (hsame : id ≠ 0 → 0 < s.attached id ∨ id ∈ dying → s.contracts.key id = some (c.endpoints, c.serviceType)) :
    Spares dying s₀ (Isa100Gateway.notifyAddContract id c.endpoints c.serviceType true
      { s with contracts := s.contracts.insert id c }) := by
  have hkeys := s.contracts.key_insert id
  by_cases hid : id = 0
  · subst hid
    have hkept : Kept s { s with contracts := s.contracts.insert 0 c } :=
      ⟨fun id' hne => (hkeys id' c).trans (if_neg hne), Subset.refl _, Subset.refl _, Subset.refl _⟩
    exact ⟨hkept.keyed hkeyed, fun id' hid' => hkept.marked (hmarked id' hid'), hapart⟩
  · have hsame := hsame hid
    have hinserted : Spares dying s₀ { s with contracts := s.contracts.insert id c, inProgress := [] } := by
      refine ⟨⟨fun l hl hne => (hkeys l.contractId c).trans ?_, fun l hl => nomatch hl⟩, fun id' hid' => ?_, hapart⟩
      · split
        · rename_i heq
          have hpos : 0 < s.attached id := countP_pos_iff.mpr ⟨l, hl, decide_eq_true heq⟩
          rw [← hsame (Or.inl hpos), ← heq]
          exact hkeyed.active l hl hne
        · exact hkeyed.active l hl hne
      · obtain ⟨hne, m, hm, hcontract, hkey⟩ := hmarked id' hid'
        refine ⟨hne, m, hm, hcontract, (hkeys id' c).trans ?_⟩
        split
        · rename_i heq
          rw [← hsame (Or.inr (heq ▸ hid')), ← heq]
          exact hkey
        · exact hkey
    refine Spares.notifyAddContract (s := { s with contracts := s.contracts.insert id c }) hinserted hid true hperiodic
      (fun l hl hawaits => ⟨(hkeys id c).trans (if_pos rfl), fun hdying => ?_⟩) (fun l hl hnot id' hid' => ?_)
    · have hpair := (awaits_iff (hperiodic l hl)).mp hawaits
      exact hkeyed.waiting l hl id hid ((hsame (Or.inr hdying)).trans (congrArg some hpair.symm))
    · rw [hkeys]
      split
      · intro heq
        have hpair := (awaits_iff (hperiodic l hl)).mpr (Option.some.inj heq).symm
        rw [hpair] at hnot
        cases hnot
      · exact hkeyed.waiting l hl id' hid'

section

variable (hkeyed : s.Keyed) (hmarked : ∀ id ∈ dying, s.Marked id)
include hkeyed hmarked

theorem Spares.dmoDeleteContract (hother : id ∉ dying) : Spares dying s (dmoDeleteContract id s) := by
  by_cases hlookup : s.contracts.lookup id = none
  · unfold Isa100Gateway.dmoDeleteContract
    rw [hlookup]
    exact (Kept.refl s).spares hkeyed hmarked
  · have herased := Erased.dmoDeleteContract hlookup
    generalize Isa100Gateway.dmoDeleteContract id s = u at herased
    have hkeys : ∀ id', u.contracts.key id' = if id' = id then none else s.contracts.key id' := by
      intro id'
      rw [herased.contracts, key_erase]
    have hactive : ∀ l ∈ u.active, l ∈ s.active ∧ l.contractId ≠ id := by
      intro l hl
      rw [herased.active] at hl
      obtain ⟨hmem, hne⟩ := mem_filter.mp hl
      exact ⟨hmem, by simpa using hne⟩
    refine ⟨⟨fun l hl hid => ?_, fun l hl id' hid' => ?_⟩, fun id' hid' => ?_, fun l hl _ => ?_⟩
    · rw [hkeys, if_neg (hactive l hl).2]
      exact hkeyed.active l (hactive l hl).1 hid
    · rw [hkeys]
      split
      · exact some_ne_none _ ∘ Eq.symm
      · exact hkeyed.waiting l (herased.waiting ▸ hl) id' hid'
    · obtain ⟨hne, m, hm, hcontract, hkey⟩ := hmarked id' hid'
      have hnot : id' ≠ id := fun heq => hother (heq ▸ hid')
      refine ⟨hne, m, ?_, hcontract, ?_⟩
      · rw [herased.pending]
        exact mem_filter.mpr ⟨hm, by simpa [hcontract] using hnot⟩
      · rw [hkeys, if_neg hnot]
        exact hkey
    · exact ⟨l, (hactive l hl).1, rfl, rfl⟩

theorem Spares.dmoSetContract {gone : UInt16 → Bool}
    (hperiodic : ∀ l ∈ s.inProgress, l.isPeriodic = false) {deleteIndex index : UInt16}
    (hsame : 0 < s.attached index ∨ index ∈ dying → s.contracts.key index = some (endpoints, serviceType))
    (hgone : deleteIndex ≠ index → gone deleteIndex = true) :
    Spares (dying.filter fun id => !gone id) s (dmoSetContract deleteIndex index endpoints serviceType s) := by
  have hleft : ∀ id ∈ dying.filter (fun id => !gone id), id ∈ dying := fun id hid => mem_of_mem_filter hid
  obtain ⟨t, ht, hspares, hkey, hattached, hperiodic⟩ : ∃ t : LeaseState,
      (if deleteIndex ≠ index then Isa100Gateway.dmoDeleteContract deleteIndex s else s) = t ∧
      Spares (dying.filter fun id => !gone id) s t ∧ t.contracts.key index = s.contracts.key index ∧
      t.attached index = s.attached index ∧ ∀ l ∈ t.inProgress, l.isPeriodic = false := by
    refine ⟨_, rfl, ?_⟩
    split
    · rename_i hne
      have hother : deleteIndex ∉ dying.filter fun id => !gone id := fun hid => by
        simpa [hgone hne] using (mem_filter.mp hid).2
      have hdelete := Spares.dmoDeleteContract hkeyed (fun id hid => hmarked id (hleft id hid)) hother
      refine ⟨hdelete, ?_⟩
      by_cases hlookup : s.contracts.lookup deleteIndex = none
      · unfold Isa100Gateway.dmoDeleteContract
        rw [hlookup]
        exact ⟨rfl, rfl, hperiodic⟩
      · have herased := Erased.dmoDeleteContract hlookup
        refine ⟨?_, ?_, herased.waiting ▸ hperiodic⟩
        · rw [herased.contracts, key_erase, if_neg (Ne.symm hne)]
        · rw [herased.attached, if_neg (Ne.symm hne)]
    · exact ⟨(Kept.refl s).spares hkeyed fun id hid => hmarked id (hleft id hid), rfl, rfl, hperiodic⟩
  have hset : ∀ usageCount, Spares (dying.filter fun id => !gone id) s
      (Isa100Gateway.notifyAddContract index endpoints serviceType true
        { t with contracts := t.contracts.insert index ⟨endpoints, serviceType, usageCount⟩ }) := by
    intro usageCount
    refine Spares.insert hspares.keyed hspares.marked hspares.apart hperiodic index
      ⟨endpoints, serviceType, usageCount⟩ fun _ hused => ?_
    rw [hkey]
    rw [hattached] at hused
    exact hsame (hused.imp_right (hleft index))
  unfold Isa100Gateway.dmoSetContract
  dsimp only
  rw [ht]
  split
  · exact hset _
  · split
    · exact hspares
    · exact hset 0

theorem Spares.dmoContractResponse (hperiodic : ∀ l ∈ s.inProgress, l.isPeriodic = false)
    (hnew : ∀ l ∈ s.inProgress, l.awaits endpoints serviceType = true → s.contracts.lookup id = none) :
    Spares dying s (dmoContractResponse id endpoints serviceType s) := by
  have hself := (Kept.refl s).spares hkeyed hmarked
  unfold Isa100Gateway.dmoContractResponse
  split
  · exact hself
  · split
    · rename_i c hlookup
      by_cases hid : id = 0
      · subst hid
        exact hself
      · refine Spares.notifyAddContract ⟨⟨hkeyed.active, fun l hl => nomatch hl⟩, hmarked,
          hself.apart⟩ hid false hperiodic
          (fun l hl hawaits => ?_) fun l hl _ => hkeyed.waiting l hl
        rw [hnew l hl hawaits] at hlookup
        cases hlookup
    · rename_i hlookup
      have hkey : s.contracts.key id = none := map_eq_none_iff.mpr hlookup
      refine Spares.insert hkeyed hmarked hself.apart hperiodic id ⟨endpoints, serviceType, 0⟩ ?_
      rintro hid (hpos | hdying)
      · obtain ⟨l, hl, hcontract⟩ := countP_pos_iff.mp hpos
        obtain rfl := of_decide_eq_true hcontract
        rw [hkeyed.active l hl hid] at hkey
        cases hkey
      · obtain ⟨-, m, -, -, hkeym⟩ := hmarked id hdying
        rw [hkey] at hkeym
        cases hkeym

theorem Spares.dmoRequestExisting
    (hperiodic : ∀ l ∈ s.inProgress, l.isPeriodic = false) (endpoints : ContractEndpoints) (serviceType : UInt8) :
    Spares dying s (dmoRequestExisting endpoints serviceType s) := by
  have hself := (Kept.refl s).spares hkeyed hmarked
  unfold Isa100Gateway.dmoRequestExisting
  split
  · rename_i id hfound
    by_cases hid : id = 0
    · subst hid
      exact hself
    · refine Spares.notifyAddContract ⟨⟨hkeyed.active, fun l hl => nomatch hl⟩, hmarked, hself.apart⟩ hid true hperiodic
        (fun l hl hawaits => ?_) fun l hl _ => hkeyed.waiting l hl
      have hpair := (awaits_iff (hperiodic l hl)).mp hawaits
      have hkey := key_of_getContract hfound
      exact absurd (hkey.trans (congrArg some hpair.symm)) (hkeyed.waiting l hl id hid)
  · exact hself

end

theorem Keyed.dmoProcessFirstContract (hfree : ∀ l ∈ s.active, l.contractId = 0) (id : UInt16) :
    (dmoProcessFirstContract id s).Keyed := by
  refine ⟨fun l hl hid => absurd (hfree l hl) hid, fun l _ id' _ hkey => ?_⟩
  unfold Isa100Gateway.dmoProcessFirstContract at hkey
  rw [key_insert] at hkey
  split at hkey
  · have hport : isa100DmapPort = isa100AppPort :=
      congrArg (fun key => key.1.srcTLPort) (Option.some.inj hkey)
    exact absurd hport (by decide)
  · cases hkey

theorem Keyed.onUnjoin (htracks : s.Tracks subs) : (onUnjoin { s with contracts := ∅, smContractID := 0 }).Keyed := by
  have hactive : (Isa100Gateway.onUnjoin { s with contracts := ∅, smContractID := 0 }).active =
      s.active.filter fun l => !!l.isPeriodic := sweepActive_active
  have hcontracts := (deleteActiveLeases_absent (s := { s with contracts := ∅, smContractID := 0 })
    (p := fun l => !l.isPeriodic) (fun l _ => usageCount_empty _) false false).1
  refine ⟨fun l hl _ => ?_, fun l _ id _ hkey => ?_⟩
  · rw [hactive] at hl
    obtain ⟨hmem, hperiodic⟩ := mem_filter.mp hl
    simp [htracks.active l hmem] at hperiodic
  · unfold Isa100Gateway.onUnjoin at hkey
    rw [hcontracts] at hkey
    cases hkey

end LeaseState

/-! ## Runs -/

/-- The leases, and the contracts whose termination an explicit delete or the end of a session requested and which are still there. -/
structure DyingState where
  leases : LeaseState
  dying : List UInt16

namespace DyingState

def start (smAddress : Addr128) : DyingState := ⟨LeaseState.start smAddress, []⟩

def answers (e : LeaseEvent) (id : UInt16) : Bool :=
  match e with
  | .deleteContract id' => id' = id
  | .setContract deleteIndex index _ _ => deleteIndex ≠ index ∧ deleteIndex = id
  | .firstContract _ => true
  | .unjoin => true
  | _ => false

def deletes : LeaseEvent → Bool
  | .userRequest _ => true
  | .deleteSession _ => true
  | _ => false

def step (s : DyingState) (e : LeaseEvent) : Option DyingState :=
  (leaseStep s.leases e).map fun leases =>
    ⟨leases, (s.dying.filter fun id => !answers e id) ++ if deletes e then requested leases.out else []⟩

/-- The steps of the statement. A create has the local TSAPID of the deleted leases that wait for its end points, a contract response that a create waits for names a contract that the table does not have, the system manager does not give other end points to a contract that has leases or is dying, and the first contract comes when no lease has a contract. -/
def Admits (s : DyingState) : LeaseEvent → Prop
  | .userRequest r => ∀ l ∈ s.leases.creates r, l.needsContract = true → s.leases.SameLocal l
  | .contractResponse id endpoints serviceType =>
    ∀ l ∈ s.leases.inProgress, l.awaits endpoints serviceType = true → s.leases.contracts.lookup id = none
  | .setContract _ index endpoints serviceType => 0 < s.leases.attached index ∨ index ∈ s.dying →
    s.leases.contracts.key index = some (endpoints, serviceType)
  | .firstContract _ => ∀ l ∈ s.leases.active, l.contractId = 0
  | _ => True

structure Lawful (s : DyingState) : Prop where
  listed : s.leases.Listed
  keyed : s.leases.Keyed
  marked : ∀ id ∈ s.dying, s.leases.Marked id

theorem lawful_start (smAddress : Addr128) : (start smAddress).Lawful :=
  ⟨listed_start smAddress, ⟨fun _ hl => (nomatch hl), fun _ hl => (nomatch hl)⟩, fun _ hid => (nomatch hid)⟩

variable {e : LeaseEvent}

theorem spares_apply {leases leases' : LeaseState} {dying : List UInt16} {subs : List (PublishKey × UInt32)}
    (htracks : leases.Tracks subs) (hout : leases.out = []) (hkeyed : leases.Keyed)
    (hdying : ∀ id ∈ dying, leases.Marked id) (hok : Admits ⟨leases, dying⟩ e)
    (hstep : e.apply leases = some leases') :
    Spares (dying.filter fun id => !answers e id) leases leases' ∧ (deletes e = true → leases'.Marks) := by
  have hmarked : ∀ id ∈ dying.filter (fun id => !answers e id), leases.Marked id :=
    fun id hid => hdying id (mem_of_mem_filter hid)
  have hself := (Kept.refl leases).spares hkeyed hmarked
  have hkept : ∀ t : LeaseState, leases.Kept t →
      Spares (dying.filter fun id => !answers e id) leases t := fun t ht => ht.spares hkeyed hmarked
  cases e with
  | userRequest r =>
    obtain ⟨hspares, hmarks⟩ := Spares.processUserRequest hkeyed hmarked htracks hout hok hstep
    exact ⟨hspares, fun _ => hmarks⟩
  | contractResponse id endpoints serviceType =>
    cases hstep
    exact ⟨Spares.dmoContractResponse hkeyed hmarked htracks.waiting hok, fun h => (nomatch h)⟩
  | contractFailure endpoints serviceType =>
    cases hstep
    exact ⟨hself, fun h => (nomatch h)⟩
  | requestExisting endpoints serviceType =>
    cases hstep
    exact ⟨Spares.dmoRequestExisting hkeyed hmarked htracks.waiting _ _, fun h => (nomatch h)⟩
  | setContract deleteIndex index endpoints serviceType =>
    cases hstep
    refine ⟨Spares.dmoSetContract hkeyed hdying htracks.waiting hok fun hne => ?_, fun h => (nomatch h)⟩
    exact decide_eq_true ⟨hne, rfl⟩
  | deleteContract id =>
    cases hstep
    refine ⟨Spares.dmoDeleteContract hkeyed hmarked fun hid => ?_, fun h => (nomatch h)⟩
    have hnot := (mem_filter.mp hid).2
    simp [answers] at hnot
  | firstContract id =>
    cases hstep
    refine ⟨⟨Keyed.dmoProcessFirstContract hok id, fun id' hid => ?_, fun l hl _ => ⟨l, hl, rfl, rfl⟩⟩,
      fun h => (nomatch h)⟩
    simp [answers] at hid
  | unjoin =>
    cases hstep
    have hgone : ∀ id, id ∉ dying.filter fun id => !answers .unjoin id := fun id hid => by simp [answers] at hid
    exact ⟨⟨Keyed.onUnjoin htracks, fun id hid => absurd hid (hgone id),
      fun l _ hid => absurd hid (hgone _)⟩, fun h => (nomatch h)⟩
  | createSession id session =>
    obtain ⟨-, rfl⟩ := LeaseEvent.createSession_cases hstep
    refine ⟨hkept _ ?_, fun h => (nomatch h)⟩
    exact ⟨fun _ _ => rfl, Subset.refl _, Subset.refl _, Subset.refl _⟩
  | renewSession id expirationTime =>
    obtain rfl | ⟨_, -, -, rfl⟩ := LeaseEvent.renewSession_cases hstep
    · exact ⟨hself, fun h => (nomatch h)⟩
    · have hupdated := Kept.processSessionUpdate leases id expirationTime
      refine ⟨hkept _ ?_, fun h => (nomatch h)⟩
      exact ⟨hupdated.keys, hupdated.active, hupdated.waiting, hupdated.pending⟩
  | deleteSession id =>
    cases hstep
    have hmarks : leases.Marks := by
      intro id' hid'
      rw [hout] at hid'
      cases hid'
    obtain ⟨hdeleted, hmarks'⟩ := Kept.processSessionDelete hkeyed hmarks id
    refine ⟨hkept _ ?_, fun _ => ?_⟩
    · exact ⟨hdeleted.keys, hdeleted.active, hdeleted.waiting, hdeleted.pending⟩
    · exact hmarks'
  | connectionLost id =>
    obtain rfl | ⟨_, -, rfl⟩ := LeaseEvent.connectionLost_cases hstep
    · exact ⟨hself, fun h => (nomatch h)⟩
    · refine ⟨hkept _ ?_, fun h => (nomatch h)⟩
      exact ⟨fun _ _ => rfl, Subset.refl _, Subset.refl _, Subset.refl _⟩
  | checkExpire now =>
    cases hstep
    exact ⟨hkept _ (Kept.checkExpireLeases leases now), fun h => (nomatch h)⟩

theorem Lawful.spares {s : DyingState} (h : s.Lawful) (hok : s.Admits e) {leases : LeaseState}
    (hstep : leaseStep s.leases e = some leases) :
    Spares (s.dying.filter fun id => !answers e id) { s.leases with out := [] } leases ∧
      (deletes e = true → leases.Marks) := by
  have hkeyed : Keyed { s.leases with out := [] } := ⟨h.keyed.active, h.keyed.waiting⟩
  have hok' : Admits ⟨{ s.leases with out := [] }, s.dying⟩ e := by
    cases e <;> exact hok
  exact spares_apply h.listed rfl hkeyed h.marked hok' hstep

theorem Lawful.step {s s' : DyingState} (h : s.Lawful) (hok : s.Admits e)
    (hstep : DyingState.step s e = some s') : s'.Lawful := by
  obtain ⟨leases, hnext, rfl⟩ := map_eq_some_iff.mp hstep
  obtain ⟨hspares, hmarks⟩ := h.spares hok hnext
  refine ⟨(h.listed.step hnext).1, hspares.keyed, fun id hid => ?_⟩
  rcases mem_append.mp hid with hid | hid
  · exact hspares.marked id hid
  · split at hid
    · rename_i hdeletes
      exact hmarks hdeletes id hid
    · cases hid

end DyingState

/-- In every run, a lease that is on a contract after a step although the termination of the contract was requested before it was there already, and a create that finds such a contract is refused: it neither waits nor gets another contract. -/
theorem dying_contract_unused {smAddress : Addr128} {s : DyingState}
    (h : Machine.Reaches (DyingState.start smAddress) DyingState.step DyingState.Admits s) {e : LeaseEvent}
    {s' : DyingState} (hok : s.Admits e) (hstep : DyingState.step s e = some s') :
    (∀ l ∈ s'.leases.active, l.contractId ∈ s.dying → DyingState.answers e l.contractId = false →
      ∃ m ∈ s.leases.active, m.address = l.address ∧ m.contractId = l.contractId) ∧
    ∀ r l id, e = .userRequest r → s.leases.creates r = some l → l.needsContract = true → id ∈ s.dying →
      s.leases.contracts.getContract l.endpoints srvcAperiodicComm = some id →
      s'.leases.active = s.leases.active ∧ s'.leases.inProgress = s.leases.inProgress ∧
        s'.leases.out = if s.leases.connected r.sessionId then
          [.confirm r.sessionId r.transactionId (r.status ygsLimitExceeded leaseNotAvailable) 0 r.data.leasePeriod
            s.leases.requests] else [] := by
  have hlawful : s.Lawful :=
    h.invariant (DyingState.lawful_start smAddress) fun _ _ _ hlawful hok hstep => hlawful.step hok hstep
  obtain ⟨leases, hnext, rfl⟩ := map_eq_some_iff.mp hstep
  refine ⟨fun l hl hdying hopen => ?_, ?_⟩
  · refine (hlawful.spares hok hnext).1.apart l hl (mem_filter.mpr ⟨hdying, ?_⟩)
    rw [hopen]
    rfl
  · rintro r l id rfl hcreates hneeds hdying hfound
    have hlocal : s.leases.SameLocal l := hok l hcreates hneeds
    have hnext : processUserRequest r { s.leases with out := [] } = some leases := hnext
    have hcreates' : creates { s.leases with out := [] } r = some l := hcreates
    have hestablish := processUserRequest_creates hcreates' hnext
    have hrefused := establish_refused
      (s := { s.leases with out := [], requests := s.leases.requests + 1 }) hneeds (hlawful.marked id hdying) hlocal
      hfound r
    have hrequest : l.request = s.leases.requests := by
      obtain ⟨_, _, _, -, -, rfl⟩ := creates_cases hcreates
      rfl
    rw [hrequest] at hrefused
    obtain rfl := hestablish.trans hrefused
    exact ⟨rfl, rfl, rfl⟩

instance (s : DyingState) : ∀ e : LeaseEvent, Decidable (s.Admits e)
  | .userRequest r => inferInstanceAs
      (Decidable (∀ l ∈ s.leases.creates r, l.needsContract = true → ∀ m ∈ s.leases.pendingDelete,
        m.netAddr = l.netAddr → m.shortTSAPID = l.shortTSAPID → m.localTSAPID = l.localTSAPID))
  | .contractResponse id endpoints serviceType => inferInstanceAs (Decidable
      (∀ l ∈ s.leases.inProgress, l.awaits endpoints serviceType = true → s.leases.contracts.lookup id = none))
  | .setContract _ index endpoints serviceType => inferInstanceAs (Decidable
      (0 < s.leases.attached index ∨ index ∈ s.dying → s.leases.contracts.key index = some (endpoints, serviceType)))
  | .firstContract _ => inferInstanceAs (Decidable (∀ _ ∈ _, _))
  | .contractFailure .. | .requestExisting .. | .deleteContract _ | .unjoin | .createSession .. | .renewSession ..
  | .deleteSession _ | .connectionLost _ | .checkExpire _ => isTrue trivial

def sampleDying : List LeaseEvent :=
  [.createSession 1 ⟨0, false, true⟩, .userRequest (sampleClient 4096 2),
    .contractResponse 7 (sampleEndpoints 2) srvcAperiodicComm, .userRequest (sampleDelete 1)]

theorem dying_contract_unused_sample : ∃ s s' : DyingState, 7 ∈ s.dying ∧
    DyingState.step s (.userRequest (sampleClient 4112 2)) = some s' ∧ s'.leases.active = s.leases.active ∧
    s'.leases.inProgress = s.leases.inProgress ∧ s'.leases.out = [.confirm 1 10 leaseNotAvailable 0 0 2] := by
  obtain ⟨s, hrun, hdying, hok, ⟨l, hcreates, hneeds, hfound⟩, hsome, hheader⟩ :
      ∃ s ∈ Machine.runs DyingState.step (DyingState.start sampleDevice) sampleDying,
        7 ∈ s.dying ∧ s.Admits (.userRequest (sampleClient 4112 2)) ∧
        (∃ l ∈ s.leases.creates (sampleClient 4112 2), l.needsContract = true ∧
          s.leases.contracts.getContract l.endpoints srvcAperiodicComm = some 7) ∧
        (DyingState.step s (.userRequest (sampleClient 4112 2))).isSome = true ∧
        (s.leases.connected 1, s.leases.requests) = (true, 2) := by
    decide
  obtain ⟨s', hstep⟩ := isSome_iff_exists.mp hsome
  obtain ⟨hconnected, hrequests⟩ := Prod.mk.inj hheader
  obtain ⟨-, hrefused⟩ := dying_contract_unused (Machine.reaches_runs (by decide) hrun) hok hstep
  obtain ⟨hactive, hwaiting, hout⟩ := hrefused _ l 7 rfl hcreates hneeds hdying hfound
  refine ⟨s, s', hdying, hstep, hactive, hwaiting, hout.trans ?_⟩
  have hsession : s.leases.connected (sampleClient 4112 2).sessionId = true := hconnected
  rw [hsession, hrequests]
  rfl

/-- A create for the end points of a dying contract does not wait for another one. -/
theorem dying_contract_refuses : ∃ s s' : DyingState,
    Machine.Reaches (DyingState.start sampleDevice) DyingState.step DyingState.Admits s ∧ s.dying = [7] ∧
    DyingState.step s (.userRequest (sampleClient 4112 2)) = some s' ∧
      s'.leases.active = [] ∧ s'.leases.inProgress = [] ∧
      s'.leases.out = [.confirm 1 10 leaseNotAvailable 0 0 2] := by
  obtain ⟨s, hrun, hdying, s', hstep, hrest⟩ :
      ∃ s ∈ Machine.runs DyingState.step (DyingState.start sampleDevice) sampleDying, s.dying = [7] ∧
        ∃ s' ∈ DyingState.step s (.userRequest (sampleClient 4112 2)), s'.leases.active = [] ∧
          s'.leases.inProgress = [] ∧ s'.leases.out = [.confirm 1 10 leaseNotAvailable 0 0 2] := by
    decide
  exact ⟨s, s', Machine.reaches_runs (by decide) hrun, hdying, hstep, hrest⟩

end Isa100Gateway
