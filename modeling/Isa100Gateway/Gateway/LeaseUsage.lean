import Isa100Gateway.Gateway.LeaseLists

/-!
# Usage counts of contracts

The usage count that the lease service keeps in a contract of the DMO is the number of active leases on the contract, and the service asks for the termination of a contract when its last lease goes away.
-/

namespace Isa100Gateway

open LeaseContracts LeaseState List Option

namespace LeaseContracts

variable (contracts : LeaseContracts) (id id' : UInt16)

theorem usageCount_empty : usageCount ∅ id = none := rfl

theorem usageCount_insert (c : LeaseContract) :
    usageCount (contracts.insert id c) id' = if id' = id then some c.usageCount else contracts.usageCount id' := by
  unfold usageCount
  by_cases heq : id' = id
  · subst heq
    rw [AList.lookup_insert, if_pos rfl, map_some]
  · rw [AList.lookup_insert_ne heq, if_neg heq]

theorem usageCount_erase :
    usageCount (contracts.erase id) id' = if id' = id then none else contracts.usageCount id' := by
  unfold usageCount
  by_cases heq : id' = id
  · subst heq
    rw [AList.lookup_erase, if_pos rfl, map_none]
  · rw [AList.lookup_erase_ne heq, if_neg heq]

theorem usageCount_recount (f : UInt8 → UInt8) : (contracts.recount id f).usageCount id' =
    if id' = id then (contracts.usageCount id).map f else contracts.usageCount id' := by
  unfold recount
  cases hlookup : contracts.lookup id with
  | some c =>
    rw [usageCount_insert]
    have hcount : contracts.usageCount id = some c.usageCount := by rw [usageCount, hlookup, map_some]
    rw [hcount, map_some]
  | none =>
    have hcount : contracts.usageCount id = none := by rw [usageCount, hlookup, map_none]
    dsimp only
    split
    · rename_i heq
      rw [heq, hcount, map_none]
    · rfl

variable {contracts id}

theorem recount_absent (h : contracts.usageCount id = none) (f : UInt8 → UInt8) :
    contracts.recount id f = contracts := by
  unfold recount
  rw [map_eq_none_iff.mp h]

theorem usageCount_of_getContract {endpoints : ContractEndpoints} {serviceType : UInt8}
    (h : contracts.getContract endpoints serviceType = some id) : contracts.usageCount id ≠ none := by
  obtain ⟨n, hmin, rfl⟩ := map_eq_some_iff.mp h
  obtain ⟨e, he, rfl⟩ := mem_map.mp (min?_mem hmin)
  have hlookup : contracts.lookup e.1 = some e.2 :=
    AList.mem_lookup_iff.mpr (mem_of_mem_filter he)
  rw [UInt16.ofNat_toNat, usageCount, hlookup]
  simp

end LeaseContracts

namespace LeaseState

def attached (s : LeaseState) (id : UInt16) : Nat := s.active.countP fun l => l.contractId = id

def terminations (s : LeaseState) (id : UInt16) : Nat := s.out.count (.requestContractTermination id)

/-- The counts in the table are those of the active leases, modulo the width of the field, and no lease is on a contract that the table does not have. The id 0 stands for no contract. -/
structure Balanced (s : LeaseState) : Prop where
  counted : ∀ id n, id ≠ 0 → s.contracts.usageCount id = some n → n = UInt8.ofNat (s.attached id)
  housed : ∀ id, id ≠ 0 → s.contracts.usageCount id = none → s.attached id = 0

variable {s s' : LeaseState} {l : Lease}

theorem Balanced.frame (h : s.Balanced) (hattached : ∀ id, id ≠ 0 → s'.attached id = s.attached id)
    (hcontracts : s'.contracts = s.contracts) : s'.Balanced := by
  refine ⟨fun id n hid hn => ?_, fun id hid hnone => ?_⟩
  · rw [hattached id hid]
    exact h.counted id n hid (hcontracts ▸ hn)
  · rw [hattached id hid]
    exact h.housed id hid (hcontracts ▸ hnone)

theorem attached_append (s : LeaseState) (l : Lease) (id : UInt16) :
    attached { s with active := s.active ++ [l] } id = s.attached id + if l.contractId = id then 1 else 0 := by
  unfold attached
  rw [countP_append, countP_singleton]
  simp

theorem attached_middle (s : LeaseState) (pre post : List Lease) (l : Lease) (id : UInt16) :
    attached { s with active := pre ++ l :: post } id =
      attached { s with active := pre ++ post } id + if l.contractId = id then 1 else 0 := by
  unfold attached
  rw [countP_apart]
  simp only [decide_eq_true_eq]

theorem terminations_leaseConfirm (s : LeaseState) (session transaction : UInt32) (status : UInt8)
    (leaseId period : UInt32) (request : Nat) (id : UInt16) :
    (s.leaseConfirm session transaction status leaseId period request).terminations id = s.terminations id := by
  unfold terminations leaseConfirm
  rw [count_append]
  split
  · rw [count_singleton, if_neg (by simp)]
    rfl
  · rfl

/-! ## Deleting -/

theorem terminations_deleteActiveLease (s : LeaseState) (l : Lease) (deleteContract waits : Bool) (id : UInt16) :
    (deleteActiveLease deleteContract waits s l).1.terminations id = s.terminations id +
      if s.terminates deleteContract (s.contracts.recount l.contractId (· - 1)) l.contractId = true ∧
        l.contractId = id then 1 else 0 := by
  unfold terminations deleteActiveLease
  rw [count_append, count_cons_of_ne (by simp)]
  cases s.terminates deleteContract (s.contracts.recount l.contractId (· - 1)) l.contractId with
  | true =>
    rw [if_pos rfl, count_singleton]
    by_cases heq : l.contractId = id <;> simp [heq]
  | false => simp

variable {pre post : List Lease} {endpoints : ContractEndpoints}

theorem Balanced.deleteActive (h : Balanced { s with active := pre ++ l :: post }) (deleteContract waits : Bool) :
    Balanced { (deleteActiveLease deleteContract waits s l).1 with active := pre ++ post } := by
  have hcount : ∀ id, (s.contracts.recount l.contractId (· - 1)).usageCount id =
      if id = l.contractId then (s.contracts.usageCount l.contractId).map (· - 1)
      else s.contracts.usageCount id := fun id => s.contracts.usageCount_recount l.contractId id _
  refine ⟨fun id n hid hn => ?_, fun id hid hnone => ?_⟩
  · change (s.contracts.recount l.contractId (· - 1)).usageCount id = some n at hn
    change n = UInt8.ofNat (attached { s with active := pre ++ post } id)
    rw [hcount] at hn
    split at hn
    · rename_i heq
      obtain ⟨m, hm, rfl⟩ := map_eq_some_iff.mp hn
      have hbefore := h.counted id m hid (heq ▸ hm)
      rw [attached_middle, if_pos heq.symm] at hbefore
      rw [hbefore, UInt8.ofNat_add]
      exact UInt8.add_sub_cancel _ 1
    · rename_i hne
      have hbefore := h.counted id n hid hn
      rwa [attached_middle, if_neg (Ne.symm hne), Nat.add_zero] at hbefore
  · change (s.contracts.recount l.contractId (· - 1)).usageCount id = none at hnone
    change attached { s with active := pre ++ post } id = 0
    have hbefore := h.housed id hid
    rw [attached_middle] at hbefore
    rw [hcount] at hnone
    split at hnone
    · rename_i heq
      have hzero := hbefore (heq ▸ map_eq_none_iff.mp hnone)
      omega
    · have hzero := hbefore hnone
      omega

/-- A state that leases only left since `s₀`. -/
structure Released (s₀ : LeaseState) (deleteContract : Bool) (s : LeaseState) : Prop where
  balanced : s.Balanced
  manager : s.smContractID = s₀.smContractID
  known : ∀ id, s.contracts.usageCount id = none ↔ s₀.contracts.usageCount id = none
  fewer : ∀ id, s.attached id ≤ s₀.attached id
  ended : ∀ id, id ≠ 0 → s₀.attached id < 256 → s.terminations id = s₀.terminations id +
    if deleteContract = true ∧ id ≠ s₀.smContractID ∧ 0 < s₀.attached id ∧ s.attached id = 0 then 1 else 0

theorem Balanced.released (h : s.Balanced) (deleteContract : Bool) : Released s deleteContract s where
  balanced := h
  manager := rfl
  known _ := Iff.rfl
  fewer _ := Nat.le_refl _
  ended id _ _ := by
    rw [if_neg, Nat.add_zero]
    rintro ⟨-, -, hpos, hzero⟩
    omega

variable {s₀ : LeaseState} {deleteContract : Bool} {id : UInt16} {subs : List (PublishKey × UInt32)}
  {r : LeaseRequest}

theorem Released.frame (h : Released s₀ deleteContract s)
    (hactive : s'.active = s.active) (hcontracts : s'.contracts = s.contracts)
    (hmanager : s'.smContractID = s.smContractID)
    (hout : ∀ id, s'.terminations id = s.terminations id) : Released s₀ deleteContract s' := by
  have hattached : ∀ id, s'.attached id = s.attached id := fun id => by rw [attached, attached, hactive]
  refine ⟨h.balanced.frame (fun id _ => hattached id) hcontracts, hmanager.trans h.manager, fun id => ?_,
    fun id => ?_, ?_⟩
  · rw [hcontracts]
    exact h.known id
  · rw [hattached]
    exact h.fewer id
  · intro id hid hwidth
    rw [hout, hattached]
    exact h.ended id hid hwidth

theorem ofNat_eq_zero_iff {n : Nat} (h : n < 256) : UInt8.ofNat n = 0 ↔ n = 0 := by
  rw [← UInt8.toNat_inj, UInt8.toNat_ofNat', Nat.mod_eq_of_lt h]
  rfl

theorem terminates_iff {contracts : LeaseContracts} {deleteContract : Bool} {id : UInt16} {n : Nat}
    (hid : id ≠ 0) (hwidth : n < 256) (husage : contracts.usageCount id = some (UInt8.ofNat n)) :
    s.terminates deleteContract contracts id = true ↔
      deleteContract = true ∧ id ≠ s.smContractID ∧ n = 0 := by
  unfold terminates
  rw [husage, Bool.and_eq_true, Bool.and_eq_true, Bool.and_eq_true, decide_eq_true_iff, decide_eq_true_iff,
    decide_eq_true_iff, Option.some.injEq, ofNat_eq_zero_iff hwidth]
  constructor
  · rintro ⟨⟨⟨hdelete, hzero⟩, -⟩, hother⟩
    exact ⟨hdelete, Ne.symm hother, hzero⟩
  · rintro ⟨hdelete, hother, hzero⟩
    exact ⟨⟨⟨hdelete, hzero⟩, hid⟩, Ne.symm hother⟩

theorem Released.deleteActive (h : Released s₀ deleteContract { s with active := pre ++ l :: post }) (waits : Bool) :
    Released s₀ deleteContract { (deleteActiveLease deleteContract waits s l).1 with active := pre ++ post } := by
  have hcount : ∀ id, (s.contracts.recount l.contractId (· - 1)).usageCount id =
      if id = l.contractId then (s.contracts.usageCount l.contractId).map (· - 1)
      else s.contracts.usageCount id := fun id => s.contracts.usageCount_recount l.contractId id _
  have hmanager : s.smContractID = s₀.smContractID := h.manager
  have hmiddle := attached_middle s pre post l
  have hbalanced := h.balanced.deleteActive deleteContract waits
  refine ⟨hbalanced, hmanager, fun id => ?_, fun id => ?_, fun id hid hwidth => ?_⟩
  · change (s.contracts.recount l.contractId (· - 1)).usageCount id = none ↔ _
    rw [← h.known id, hcount]
    split
    · rename_i heq
      rw [heq, map_eq_none_iff]
    · rfl
  · have hfewer := h.fewer id
    rw [hmiddle] at hfewer
    change attached { s with active := pre ++ post } id ≤ _
    omega
  · change (deleteActiveLease deleteContract waits s l).1.terminations id = s₀.terminations id +
      if deleteContract = true ∧ id ≠ s₀.smContractID ∧ 0 < s₀.attached id ∧
        attached { s with active := pre ++ post } id = 0 then 1 else 0
    have hended : s.terminations id = _ := h.ended id hid hwidth
    have hfewer := h.fewer id
    rw [terminations_deleteActiveLease, hended]
    rw [hmiddle] at hfewer ⊢
    by_cases heq : l.contractId = id
    · subst heq
      rw [if_pos rfl] at hfewer ⊢
      -- the lease was on the contract, so the table has it, and its count is the number of the leases left
      have hleft : (s.contracts.recount l.contractId (· - 1)).usageCount l.contractId =
          some (UInt8.ofNat (attached { s with active := pre ++ post } l.contractId)) := by
        cases husage : (s.contracts.recount l.contractId (· - 1)).usageCount l.contractId with
        | some n => exact congrArg some (hbalanced.counted l.contractId n hid husage)
        | none =>
          rw [hcount, if_pos rfl, map_eq_none_iff] at husage
          have hzero := h.balanced.housed l.contractId hid husage
          rw [hmiddle, if_pos rfl] at hzero
          omega
      have hterminates := @terminates_iff s _ deleteContract _ _ hid (by omega) hleft
      generalize attached { s with active := pre ++ post } l.contractId = n at hfewer hterminates ⊢
      rw [hmanager] at hterminates
      have hcases : (s.terminates deleteContract (s.contracts.recount l.contractId (· - 1)) l.contractId = true ∧
          l.contractId = l.contractId) ↔ (deleteContract = true ∧ l.contractId ≠ s₀.smContractID ∧
            0 < s₀.attached l.contractId ∧ n = 0) := by
        rw [hterminates]
        constructor
        · rintro ⟨⟨hdelete, hother, hzero⟩, -⟩
          exact ⟨hdelete, hother, by omega, hzero⟩
        · rintro ⟨hdelete, hother, -, hzero⟩
          exact ⟨⟨hdelete, hother, hzero⟩, rfl⟩
      have hbefore : ¬(deleteContract = true ∧ l.contractId ≠ s₀.smContractID ∧
          0 < s₀.attached l.contractId ∧ n + 1 = 0) := by
        rintro ⟨-, -, -, hzero⟩
        omega
      rw [if_neg hbefore, Nat.add_zero]
      exact congrArg _ (if_congr hcases rfl rfl)
    · have hother : ¬(s.terminates deleteContract (s.contracts.recount l.contractId (· - 1)) l.contractId = true ∧
          l.contractId = id) := fun hboth => heq hboth.2
      rw [if_neg hother, if_neg heq, Nat.add_zero, Nat.add_zero]

theorem Released.deleteActiveLeases (h : Released s₀ deleteContract s) (p : Lease → Bool) (waits : Bool) :
    Released s₀ deleteContract (deleteActiveLeases p deleteContract waits s) :=
  sweepActive_rule (fun _ _ _ _ _ h => h.deleteActive waits) h

theorem terminations_sweepSubscriber (p : Lease → Bool) (id : UInt16) :
    (s.sweepSubscriber p deleteActiveSubscriberLease).terminations id = s.terminations id := by
  refine sweepSubscriber_rule (P := fun t => t.terminations id = s.terminations id) ?_ rfl
  intro t pre l post _ h
  refine Eq.trans ?_ h
  change count _ (t.out ++ [_]) = t.out.count _
  rw [count_append, count_singleton, if_neg (by simp), Nat.add_zero]

theorem Released.sweepSubscriber (h : Released s₀ deleteContract s)
    (p : Lease → Bool) : Released s₀ deleteContract (s.sweepSubscriber p deleteActiveSubscriberLease) := by
  have hsame : (s.sweepSubscriber p deleteActiveSubscriberLease).active = s.active ∧
      (s.sweepSubscriber p deleteActiveSubscriberLease).contracts = s.contracts ∧
      (s.sweepSubscriber p deleteActiveSubscriberLease).smContractID = s.smContractID :=
    sweepSubscriber_rule (P := fun t => t.active = s.active ∧ t.contracts = s.contracts ∧
      t.smContractID = s.smContractID) (fun _ _ _ _ _ h => h) ⟨rfl, rfl, rfl⟩
  exact h.frame hsame.1 hsame.2.1 hsame.2.2 (terminations_sweepSubscriber p)

theorem Released.leaseConfirm (h : Released s₀ deleteContract s)
    (session transaction : UInt32) (status : UInt8) (leaseId period : UInt32) (request : Nat) :
    Released s₀ deleteContract (s.leaseConfirm session transaction status leaseId period request) :=
  h.frame rfl rfl rfl fun id => terminations_leaseConfirm s _ _ _ _ _ _ id

theorem Released.checkExpireLeases (h : s.Balanced) (now : Int32) : Released s true (checkExpireLeases now s) := by
  have hdeleted := (h.released true).deleteActiveLeases (Lease.expired now) false
  refine sweepInProgress_rule ?_ (hdeleted.sweepSubscriber (Lease.expired now))
  intro t pre l post _ ht
  exact (ht.leaseConfirm _ _ _ _ _ _).frame rfl rfl rfl fun _ => rfl

theorem Released.processSessionDelete (h : s.Balanced) (session : UInt32) :
    Released s true (processSessionDelete session s) := by
  have hdeleted := (h.released true).deleteActiveLeases (fun l => l.sessionId = session) true
  refine sweepInProgress_rule ?_ (hdeleted.sweepSubscriber fun l => l.sessionId = session)
  intro t pre l post _ ht
  exact ht.frame rfl rfl rfl fun _ => rfl

theorem Released.deleteLease (h : s.Balanced) (htracks : s.Tracks subs)
    {request : Nat} (hstep : deleteLease r l request s = some s') : Released s true s' := by
  obtain ⟨pre, post, -, rfl⟩ | ⟨pre, post, hsplit, hends⟩ := deleteLease_cases htracks hstep
  · apply Released.leaseConfirm
    refine (h.released true).frame rfl rfl rfl fun id => ?_
    change count _ (s.out ++ [_]) = s.out.count _
    rw [count_append, count_singleton, if_neg (by simp), Nat.add_zero]
  · have hfocused : Released s true { s with active := pre ++ l :: post } :=
      (h.released true).frame hsplit.symm rfl rfl fun _ => rfl
    have hdeleted := hfocused.deleteActive true
    obtain ⟨-, rfl⟩ | ⟨-, rfl⟩ := hends
    · exact hdeleted.frame rfl rfl rfl fun _ => rfl
    · exact hdeleted.leaseConfirm _ _ _ _ _ _

/-- A state in which nothing was terminated since `s₀` and no contract of the table lost a lease. -/
structure Grown (s₀ s : LeaseState) : Prop where
  balanced : s.Balanced
  quiet : ∀ id, s.terminations id = s₀.terminations id
  kept : ∀ id, id ≠ 0 → s.contracts.usageCount id ≠ none → s₀.attached id ≤ s.attached id

theorem Balanced.grown (h : s.Balanced) : Grown s s := ⟨h, fun _ => rfl, fun _ _ _ => Nat.le_refl _⟩

theorem Grown.frame (h : Grown s₀ s) (hattached : ∀ id, id ≠ 0 → s'.attached id = s.attached id)
    (hcontracts : s'.contracts = s.contracts) (hout : ∀ id, s'.terminations id = s.terminations id) :
    Grown s₀ s' := by
  refine ⟨h.balanced.frame hattached hcontracts, fun id => (hout id).trans (h.quiet id), fun id hid hknown => ?_⟩
  rw [hattached id hid]
  exact h.kept id hid (hcontracts ▸ hknown)

theorem Grown.leaseConfirm (h : Grown s₀ s) (session transaction : UInt32) (status : UInt8)
    (leaseId period : UInt32) (request : Nat) :
    Grown s₀ (s.leaseConfirm session transaction status leaseId period request) :=
  h.frame (fun _ _ => rfl) rfl fun id => terminations_leaseConfirm s _ _ _ _ _ _ id

theorem Grown.append (h : Grown s₀ s) (l : Lease)
    (hcontract : l.contractId = 0 ∨ s.contracts.usageCount l.contractId ≠ none) :
    Grown s₀ { s with
      contracts := s.contracts.recount l.contractId (· + 1)
      active := s.active ++ [l] } := by
  have hattached := attached_append s l
  have hcount : ∀ id, (s.contracts.recount l.contractId (· + 1)).usageCount id =
      if id = l.contractId then (s.contracts.usageCount l.contractId).map (· + 1)
      else s.contracts.usageCount id := fun id => s.contracts.usageCount_recount l.contractId id _
  refine ⟨⟨fun id n hid hn => ?_, fun id hid hnone => ?_⟩, h.quiet, fun id hid hknown => ?_⟩
  · change (s.contracts.recount l.contractId (· + 1)).usageCount id = some n at hn
    change n = UInt8.ofNat (attached { s with active := s.active ++ [l] } id)
    rw [hattached]
    rw [hcount] at hn
    split at hn
    · rename_i heq
      obtain ⟨m, hm, rfl⟩ := map_eq_some_iff.mp hn
      rw [if_pos heq.symm, UInt8.ofNat_add, ← h.balanced.counted id m hid (heq ▸ hm)]
      rfl
    · rename_i hne
      rw [if_neg (Ne.symm hne), Nat.add_zero]
      exact h.balanced.counted id n hid hn
  · change (s.contracts.recount l.contractId (· + 1)).usageCount id = none at hnone
    change attached { s with active := s.active ++ [l] } id = 0
    rw [hcount] at hnone
    split at hnone
    · rename_i heq
      rcases hcontract with hzero | hknown
      · exact absurd (heq.trans hzero) hid
      · exact absurd (map_eq_none_iff.mp hnone) hknown
    · rename_i hne
      rw [hattached, if_neg (Ne.symm hne), Nat.add_zero]
      exact h.balanced.housed id hid hnone
  · change s₀.attached id ≤ attached { s with active := s.active ++ [l] } id
    change (s.contracts.recount l.contractId (· + 1)).usageCount id ≠ none at hknown
    have hbefore : s.contracts.usageCount id ≠ none := by
      rw [hcount] at hknown
      split at hknown
      · rename_i heq
        rw [heq]
        exact fun hnone => hknown (map_eq_none_iff.mpr hnone)
      · exact hknown
    rw [hattached]
    exact (h.kept id hid hbefore).trans (Nat.le_add_right _ _)

theorem Grown.contractCreated (h : Grown s₀ s)
    (hknown : s.contracts.usageCount id ≠ none) (endpoints : ContractEndpoints) (serviceType : UInt8) :
    Grown s₀ (contractCreated id endpoints serviceType true s) := by
  have hboth : Grown s₀ (Isa100Gateway.contractCreated id endpoints serviceType true s) ∧
      (Isa100Gateway.contractCreated id endpoints serviceType true s).contracts.usageCount id ≠ none := by
    refine sweepInProgress_rule (P := fun t => Grown s₀ t ∧ t.contracts.usageCount id ≠ none) ?_ ⟨h, hknown⟩
    rintro t pre l post - ⟨ht, hid⟩
    refine ⟨?_, ?_⟩
    · have happend := Grown.append (s := t) (ht.frame (fun _ _ => rfl) rfl fun _ => rfl)
        { l with contractId := id, leaseId := t.newLeaseId } (Or.inr hid)
      exact (happend.leaseConfirm _ _ _ _ _ _).frame (fun _ _ => rfl) rfl fun _ => rfl
    · change (t.contracts.recount id (· + 1)).usageCount id ≠ none
      rw [usageCount_recount, if_pos rfl]
      exact fun hnone => hid (map_eq_none_iff.mp hnone)
  exact hboth.1

theorem Grown.notifyAddContract (h : Grown s₀ s)
    {serviceType : UInt8} {stored : Bool} (hstored : stored = true → s.contracts.usageCount id ≠ none)
    (hidle : stored = false → ∀ l ∈ s.inProgress, l.awaits endpoints serviceType = false) :
    Grown s₀ (notifyAddContract id endpoints serviceType stored s) := by
  unfold Isa100Gateway.notifyAddContract
  split
  · exact h
  · dsimp only
    have hmanager : Grown s₀ (if endpoints = ⟨s.smAddress.toList, isa100SmapPort, isa100AppPort⟩ then
        { s with smContractID := id } else s) := by
      split
      · exact h.frame (fun _ _ => rfl) rfl fun _ => rfl
      · exact h
    cases stored with
    | true =>
      refine hmanager.contractCreated ?_ endpoints serviceType
      split
      · exact hstored rfl
      · exact hstored rfl
    | false =>
      unfold Isa100Gateway.contractCreated
      rw [sweepInProgress_idle]
      · exact hmanager
      · split
        · exact hidle rfl
        · exact hidle rfl

theorem Grown.establish (h : s.Balanced) (r : LeaseRequest) (hl : l.contractId = 0) : Grown s (s.establish r l) := by
  unfold LeaseState.establish
  split
  · refine Grown.leaseConfirm ?_ _ _ _ _ _ _
    refine h.grown.frame (fun id hid => ?_) rfl fun _ => rfl
    have hattached := attached_append s { l with leaseId := s.newLeaseId } id
    have hother : l.contractId ≠ id := fun heq => hid (heq.symm.trans hl)
    rwa [if_neg hother, Nat.add_zero] at hattached
  split
  · refine Grown.leaseConfirm ?_ _ _ _ _ _ _
    refine h.grown.frame (fun _ _ => rfl) rfl fun id => ?_
    change count _ (s.out ++ [_]) = s.out.count _
    rw [count_append, count_singleton, if_neg (by simp), Nat.add_zero]
  · split
    · rename_i id hcontract
      split
      · exact h.grown.leaseConfirm _ _ _ _ _ _
      · have happend := h.grown.append { l with leaseId := s.newLeaseId, contractId := id }
          (Or.inr (usageCount_of_getContract hcontract))
        exact (happend.leaseConfirm _ _ _ _ _ _).frame (fun _ _ => rfl) rfl fun _ => rfl
    · refine h.grown.frame (fun _ _ => rfl) rfl fun id => ?_
      change count _ (s.out ++ [_]) = s.out.count _
      rw [count_append, count_singleton, if_neg (by simp), Nat.add_zero]

theorem attached_map {f : Lease → Lease} (hf : ∀ l, (f l).contractId = l.contractId)
    (hactive : s'.active = s.active.map f)
    (id : UInt16) : s'.attached id = s.attached id := by
  unfold attached
  rw [hactive, countP_map]
  apply countP_congr
  intro l _
  change decide ((f l).contractId = id) = true ↔ _
  rw [hf]

theorem Grown.updateLease (h : s.Balanced) (address : UInt32) {f : Lease → Lease}
    (hf : ∀ l, (f l).contractId = l.contractId) : Grown s (s.updateLease address f) := by
  refine h.grown.frame (fun id _ => ?_) rfl fun _ => rfl
  refine attached_map (f := fun l => if l.address = address then f l else l) (fun l => ?_) rfl id
  split
  · exact hf l
  · rfl

theorem Grown.processSessionUpdate (h : s.Balanced) (session : UInt32) (expirationTime : Int32) :
    Grown s (processSessionUpdate session expirationTime s) := by
  refine h.grown.frame (fun id _ => ?_) rfl fun _ => rfl
  refine attached_map (f := fun l => if l.sessionId = session ∧ expirationTime < l.expirationTime then
    { l with expirationTime := expirationTime } else l) (fun l => ?_) rfl id
  split <;> rfl

/-! ## Contracts that go away -/

theorem deleteActiveLeases_absent {p : Lease → Bool}
    (hp : ∀ l, p l = true → s.contracts.usageCount l.contractId = none) (deleteContract waits : Bool) :
    (deleteActiveLeases p deleteContract waits s).contracts = s.contracts ∧
      ∀ id, (deleteActiveLeases p deleteContract waits s).terminations id = s.terminations id := by
  refine sweepActive_rule (P := fun t => t.contracts = s.contracts ∧
    ∀ id, t.terminations id = s.terminations id) ?_ ⟨rfl, fun _ => rfl⟩
  rintro t pre l post hl ⟨hcontracts, hquiet⟩
  have hcontracts : t.contracts = s.contracts := hcontracts
  have habsent : t.contracts.usageCount l.contractId = none := by
    rw [hcontracts]
    exact hp l hl
  have hsame := recount_absent habsent (· - 1)
  refine ⟨hsame.trans hcontracts, fun id => ?_⟩
  have hterminations := terminations_deleteActiveLease t l deleteContract waits id
  rw [hsame] at hterminations
  have hnot : t.terminates deleteContract t.contracts l.contractId = false := by
    unfold terminates
    rw [habsent]
    simp
  rw [if_neg (by simp [hnot]), Nat.add_zero] at hterminations
  exact hterminations.trans (hquiet id)

theorem sweepPendingDelete_confirmDeleted (p : Lease → Bool) :
    (s.sweepPendingDelete p confirmDeleted).active = s.active ∧
      (s.sweepPendingDelete p confirmDeleted).contracts = s.contracts ∧
      (s.sweepPendingDelete p confirmDeleted).inProgress = s.inProgress ∧
      ∀ id, (s.sweepPendingDelete p confirmDeleted).terminations id = s.terminations id := by
  refine sweepPendingDelete_rule (P := fun t => t.active = s.active ∧ t.contracts = s.contracts ∧
    t.inProgress = s.inProgress ∧ ∀ id, t.terminations id = s.terminations id) ?_ ⟨rfl, rfl, rfl, fun _ => rfl⟩
  rintro t pre l post - ⟨hactive, hcontracts, hwaiting, hquiet⟩
  exact ⟨hactive, hcontracts, hwaiting, fun id => (terminations_leaseConfirm t _ _ _ _ _ _ id).trans (hquiet id)⟩

theorem deleteActiveLeases_lists (p : Lease → Bool) (deleteContract : Bool) :
    (deleteActiveLeases p deleteContract false s).inProgress = s.inProgress ∧
      (deleteActiveLeases p deleteContract false s).pendingDelete = s.pendingDelete := by
  refine sweepActive_rule (P := fun t => t.inProgress = s.inProgress ∧ t.pendingDelete = s.pendingDelete) ?_ ⟨rfl, rfl⟩
  intro t pre l post _ ht
  refine ⟨ht.1, Eq.trans ?_ ht.2⟩
  change (deleteActiveLease deleteContract false t l).1.pendingDelete = t.pendingDelete
  unfold deleteActiveLease
  dsimp only
  rw [Bool.and_false]
  rfl

/-- The contract is gone with its leases, those that waited for it included, and nothing else. -/
structure Erased (id : UInt16) (s₀ s : LeaseState) : Prop where
  contracts : s.contracts = s₀.contracts.erase id
  active : s.active = s₀.active.filter fun l => !(l.contractId = id)
  waiting : s.inProgress = s₀.inProgress
  pending : s.pendingDelete = s₀.pendingDelete.filter fun l => !(l.contractId = id)
  quiet : ∀ id', s.terminations id' = s₀.terminations id'

theorem Erased.dmoDeleteContract (h : s.contracts.lookup id ≠ none) : Erased id s (dmoDeleteContract id s) := by
  unfold Isa100Gateway.dmoDeleteContract
  split
  · contradiction
  · unfold notifyContractDeletion contractDeleted
    generalize hnext : (if id = smContractID { s with contracts := s.contracts.erase id } then
      { s with contracts := s.contracts.erase id, smContractID := 0 }
      else { s with contracts := s.contracts.erase id }) = t
    have ht : t.active = s.active ∧ t.contracts = s.contracts.erase id ∧ t.inProgress = s.inProgress ∧
        t.pendingDelete = s.pendingDelete ∧ t.out = s.out := by
      rw [← hnext]
      split <;> exact ⟨rfl, rfl, rfl, rfl, rfl⟩
    obtain ⟨hactive, hcontracts, hwaiting, hpending, hout⟩ := ht
    obtain ⟨hstay, hsilent⟩ := deleteActiveLeases_absent (s := t) (p := fun l => l.contractId = id) (fun l hl => by
      rw [hcontracts, usageCount_erase, if_pos (of_decide_eq_true hl)]) false false
    obtain ⟨hwaiting', hpending'⟩ := deleteActiveLeases_lists (s := t) (fun l => l.contractId = id) false
    have hleft : (deleteActiveLeases (fun l => l.contractId = id) false false t).active =
        t.active.filter fun l => !(l.contractId = id) := sweepActive_active
    obtain ⟨hsame, hcontracts', hwaiting'', hquiet⟩ := sweepPendingDelete_confirmDeleted
      (s := deleteActiveLeases (fun l => l.contractId = id) false false t) (fun l => l.contractId = id)
    have hconfirmed : ((deleteActiveLeases (fun l => l.contractId = id) false false t).sweepPendingDelete
        (fun l => l.contractId = id) confirmDeleted).pendingDelete = _ := sweepPendingDelete_pendingDelete
    refine ⟨?_, ?_, ?_, ?_, fun id' => ?_⟩
    · rw [hcontracts', hstay, hcontracts]
    · rw [hsame, hleft, hactive]
    · rw [hwaiting'', hwaiting', hwaiting]
    · rw [hconfirmed, hpending', hpending]
    · rw [hquiet, hsilent]
      unfold terminations
      rw [hout]

theorem Erased.attached (h : Erased id s s') (id' : UInt16) :
    s'.attached id' = if id' = id then 0 else s.attached id' := by
  unfold LeaseState.attached
  rw [h.active, countP_filter]
  split
  · rename_i heq
    rw [countP_eq_zero]
    intro l _
    simp [heq]
  · rename_i hne
    apply countP_congr
    intro l _
    by_cases hid : l.contractId = id' <;> simp [hid, hne]

theorem Balanced.dmoDeleteContract (h : s.Balanced) (id : UInt16) : (dmoDeleteContract id s).Balanced ∧
      (∀ id', (dmoDeleteContract id s).terminations id' = s.terminations id') ∧
      (dmoDeleteContract id s).contracts.usageCount id = none ∧
      ∀ id', id' ≠ id → (dmoDeleteContract id s).attached id' = s.attached id' := by
  by_cases hlookup : s.contracts.lookup id = none
  · have hself : Isa100Gateway.dmoDeleteContract id s = s := by
      unfold Isa100Gateway.dmoDeleteContract
      rw [hlookup]
    rw [hself]
    exact ⟨h, fun _ => rfl, map_eq_none_iff.mpr hlookup, fun _ _ => rfl⟩
  · have herased := Erased.dmoDeleteContract hlookup
    generalize Isa100Gateway.dmoDeleteContract id s = u at herased
    have husage : ∀ id', u.contracts.usageCount id' = if id' = id then none else s.contracts.usageCount id' := by
      intro id'
      rw [herased.contracts, usageCount_erase]
    refine ⟨⟨fun id' n hid hn => ?_, fun id' hid hnone => ?_⟩, herased.quiet, ?_, fun id' hne => ?_⟩
    · rw [husage] at hn
      rw [herased.attached]
      split at hn
      · cases hn
      · rename_i hne
        rw [if_neg hne]
        exact h.counted id' n hid hn
    · rw [husage] at hnone
      rw [herased.attached]
      split at hnone
      · rename_i heq
        rw [if_pos heq]
      · rename_i hne
        rw [if_neg hne]
        exact h.housed id' hid hnone
    · rw [husage, if_pos rfl]
    · rw [herased.attached, if_neg hne]

theorem Grown.onUnjoin (htracks : s.Tracks subs) :
    Grown s (onUnjoin { s with contracts := ∅, smContractID := 0 }) := by
  have habsent := deleteActiveLeases_absent (s := { s with contracts := ∅, smContractID := 0 })
    (p := fun l => !l.isPeriodic) (fun l _ => usageCount_empty _) false false
  have hnone : ∀ id, (Isa100Gateway.onUnjoin { s with contracts := ∅, smContractID := 0 }).contracts.usageCount id =
      none := by
    intro id
    unfold Isa100Gateway.onUnjoin
    rw [habsent.1]
    rfl
  refine ⟨⟨fun id n _ hn => ?_, fun id _ _ => ?_⟩, habsent.2, fun id _ hknown => absurd (hnone id) hknown⟩
  · rw [hnone] at hn
    cases hn
  · have hactive : (Isa100Gateway.onUnjoin { s with contracts := ∅, smContractID := 0 }).active =
        s.active.filter fun l => !!l.isPeriodic := sweepActive_active
    unfold attached
    rw [hactive, countP_filter, countP_eq_zero]
    intro l hl
    simp [htracks.active l hl]

theorem Balanced.insert (h : s.Balanced) (id : UInt16) (c : LeaseContract)
    (hcount : (s.contracts.usageCount id).getD 0 = c.usageCount) :
    Balanced { s with contracts := s.contracts.insert id c } := by
  refine ⟨fun id' n hid hn => ?_, fun id' hid hnone => ?_⟩
  · change (usageCount (s.contracts.insert id c) id') = some n at hn
    change n = UInt8.ofNat (s.attached id')
    rw [usageCount_insert] at hn
    split at hn
    · rename_i heq
      cases hn
      subst heq
      cases husage : s.contracts.usageCount id' with
      | some m =>
        rw [husage] at hcount
        rw [← hcount]
        exact h.counted id' m hid husage
      | none =>
        rw [husage] at hcount
        rw [← hcount, h.housed id' hid husage]
        rfl
    · exact h.counted id' n hid hn
  · change (usageCount (s.contracts.insert id c) id') = none at hnone
    rw [usageCount_insert] at hnone
    split at hnone
    · cases hnone
    · exact h.housed id' hid hnone

theorem Balanced.dmoSetContract (h : s.Balanced) (deleteIndex index : UInt16) (endpoints : ContractEndpoints)
    (serviceType : UInt8) : Grown s (dmoSetContract deleteIndex index endpoints serviceType s) := by
  obtain ⟨t, ht, hbalanced, hquiet, hkept⟩ : ∃ t : LeaseState,
      (if deleteIndex ≠ index then Isa100Gateway.dmoDeleteContract deleteIndex s else s) = t ∧ t.Balanced ∧
        (∀ id, t.terminations id = s.terminations id) ∧
      ∀ id, id = index ∨ t.contracts.usageCount id ≠ none → t.attached id = s.attached id := by
    refine ⟨_, rfl, ?_⟩
    split
    · rename_i hne
      obtain ⟨hbalanced, hquiet, hnone, hkept⟩ := h.dmoDeleteContract deleteIndex
      refine ⟨hbalanced, hquiet, fun id hid => hkept id ?_⟩
      rintro rfl
      rcases hid with heq | hknown
      · exact hne heq
      · exact hknown hnone
    · exact ⟨h, fun _ => rfl, fun _ _ => rfl⟩
  unfold Isa100Gateway.dmoSetContract
  dsimp only
  rw [ht]
  -- the record of `index` is written with the count it had
  have hset : ∀ usageCount, (t.contracts.usageCount index).getD 0 = usageCount →
      Grown s (notifyAddContract index endpoints serviceType true
        { t with contracts := t.contracts.insert index ⟨endpoints, serviceType, usageCount⟩ }) := by
    intro usageCount hcount
    have hinsert := hbalanced.insert index ⟨endpoints, serviceType, usageCount⟩ hcount
    have hknown : ∀ id, LeaseContracts.usageCount
        (t.contracts.insert index ⟨endpoints, serviceType, usageCount⟩) id =
        if id = index then some usageCount else t.contracts.usageCount id :=
      fun id => t.contracts.usageCount_insert index id _
    refine Grown.notifyAddContract ⟨hinsert, hquiet, fun id _ hid => ?_⟩ (fun _ => ?_) ?_
    · change LeaseContracts.usageCount (t.contracts.insert index ⟨endpoints, serviceType, usageCount⟩) id ≠ none at hid
      change s.attached id ≤ t.attached id
      rw [hknown] at hid
      refine (hkept id ?_).symm.le
      split at hid
      · rename_i heq
        exact Or.inl heq
      · exact Or.inr hid
    · change LeaseContracts.usageCount (t.contracts.insert index ⟨endpoints, serviceType, usageCount⟩) index ≠ none
      rw [hknown, if_pos rfl]
      exact some_ne_none _
    · intro hfalse
      cases hfalse
  split
  · rename_i c hlookup
    apply hset
    rw [usageCount, hlookup]
    rfl
  · rename_i hlookup
    split
    · exact ⟨hbalanced, hquiet, fun id _ hknown => (hkept id (Or.inr hknown)).symm.le⟩
    · apply hset
      rw [usageCount, hlookup]
      rfl

theorem Balanced.dmoContractResponse (h : s.Balanced) {serviceType : UInt8}
    (hnew : ∀ l ∈ s.inProgress, l.awaits endpoints serviceType = true → s.contracts.lookup id = none) :
    Grown s (dmoContractResponse id endpoints serviceType s) := by
  unfold Isa100Gateway.dmoContractResponse
  split
  · exact h.grown
  · split
    · rename_i c hlookup
      refine h.grown.notifyAddContract (fun htrue => nomatch htrue) fun _ l hl => ?_
      by_contra hawaits
      rw [hnew l hl (Bool.eq_true_of_not_eq_false hawaits)] at hlookup
      cases hlookup
    · rename_i hlookup
      have hcount : (s.contracts.usageCount id).getD 0 = 0 := by
        rw [usageCount, hlookup]
        rfl
      have hinsert : Grown s { s with contracts := s.contracts.insert id ⟨endpoints, serviceType, 0⟩ } :=
        ⟨h.insert id _ hcount, fun _ => rfl, fun _ _ _ => Nat.le_refl _⟩
      refine hinsert.notifyAddContract (fun _ => ?_) ?_
      · change usageCount (s.contracts.insert id ⟨endpoints, serviceType, 0⟩) id ≠ none
        rw [usageCount_insert, if_pos rfl]
        exact some_ne_none _
      · intro hfalse
        cases hfalse

theorem Grown.dmoProcessFirstContract (id : UInt16) (hfree : ∀ l ∈ s.active, l.contractId = 0) :
    Grown s (dmoProcessFirstContract id s) := by
  have hzero : ∀ id', id' ≠ 0 → s.attached id' = 0 := by
    intro id' hid
    rw [attached, countP_eq_zero]
    intro l hl heq
    exact hid ((of_decide_eq_true heq).symm.trans (hfree l hl))
  have hempty : Balanced { s with contracts := ∅ } := by
    refine ⟨fun id' n _ hn => ?_, fun id' hid _ => hzero id' hid⟩
    rw [usageCount_empty] at hn
    cases hn
  exact ⟨hempty.insert id _ rfl, fun _ => rfl, fun _ _ _ => Nat.le_refl _⟩

/-! ## Steps -/

/-- The terminations of a step that began in `s₀`: each contract whose last lease went away while it stayed in the table, apart from the contract with the system manager. -/
structure Accounted (s₀ s : LeaseState) : Prop where
  balanced : s.Balanced
  ended : ∀ id, id ≠ 0 → s₀.attached id < 256 → s.terminations id =
    if id ≠ s₀.smContractID ∧ 0 < s₀.attached id ∧ s.attached id = 0 ∧ s.contracts.usageCount id ≠ none then 1 else 0

variable {s₀ : LeaseState}

theorem Released.accounted (h : Released s₀ true s) (hbalanced : s₀.Balanced) (hout : s₀.out = []) :
    Accounted s₀ s := by
  refine ⟨h.balanced, fun id hid hwidth => ?_⟩
  have hnone : s₀.terminations id = 0 := by rw [terminations, hout, count_nil]
  rw [h.ended id hid hwidth, hnone, Nat.zero_add]
  refine if_congr ⟨?_, ?_⟩ rfl rfl
  · rintro ⟨-, hother, hpos, hzero⟩
    refine ⟨hother, hpos, hzero, fun habsent => ?_⟩
    have hunused := hbalanced.housed id hid ((h.known id).mp habsent)
    omega
  · rintro ⟨hother, hpos, hzero, -⟩
    exact ⟨rfl, hother, hpos, hzero⟩

theorem Grown.accounted (h : Grown s₀ s) (hout : s₀.out = []) : Accounted s₀ s := by
  refine ⟨h.balanced, fun id hid _ => ?_⟩
  rw [h.quiet, terminations, hout, count_nil, if_neg]
  rintro ⟨-, hpos, hzero, hknown⟩
  have hkept := h.kept id hid hknown
  omega

theorem Accounted.processUserRequest (h : s.Balanced) (htracks : s.Tracks subs)
    (hout : s.out = []) (hstep : processUserRequest r s = some s') : Accounted s s' := by
  have hcounted : s.counted.Balanced := h.frame (fun _ _ => rfl) rfl
  suffices haccounted : s.counted.Accounted s' from ⟨haccounted.balanced, haccounted.ended⟩
  cases processUserRequest_served hstep with
  | tooShort => exact Grown.accounted hcounted.grown hout
  | confirmed => exact Grown.accounted (hcounted.grown.leaseConfirm _ _ _ _ _ _) hout
  | created hcreates =>
    obtain ⟨_, _, _, -, -, rfl⟩ := creates_cases hcreates
    exact Grown.accounted (Grown.establish hcounted r rfl) hout
  | deleted _ hdelete =>
    have htracks' : s.counted.Tracks subs := htracks.frame rfl rfl rfl rfl rfl
    exact Released.accounted (Released.deleteLease hcounted htracks' hdelete) hcounted hout
  | renewed =>
    refine Grown.accounted (Grown.leaseConfirm ?_ _ _ _ _ _ _) hout
    exact Grown.updateLease hcounted _ fun _ => rfl

end LeaseState

/-- The steps of the count. A contract response that a create waits for names a contract that the table does not have yet, and the first contract comes when no lease has a contract. -/
def LeaseEvent.Counts (s : LeaseState) : LeaseEvent → Prop
  | .contractResponse id endpoints serviceType =>
    ∀ l ∈ s.inProgress, l.awaits endpoints serviceType = true → s.contracts.lookup id = none
  | .firstContract _ => ∀ l ∈ s.active, l.contractId = 0
  | _ => True

instance (s : LeaseState) : ∀ e : LeaseEvent, Decidable (e.Counts s)
  | .contractResponse .. => inferInstanceAs (Decidable (∀ _ ∈ _, _))
  | .firstContract _ => inferInstanceAs (Decidable (∀ _ ∈ _, _))
  | .userRequest _ | .contractFailure .. | .requestExisting .. | .setContract .. | .deleteContract _ | .unjoin
  | .createSession .. | .renewSession .. | .deleteSession _ | .connectionLost _ | .checkExpire _ => isTrue trivial

theorem LeaseState.Accounted.apply {s s' : LeaseState} {e : LeaseEvent} (h : s.Balanced)
    {subs : List (PublishKey × UInt32)} (htracks : s.Tracks subs) (hout : s.out = []) (hok : e.Counts s)
    (hstep : e.apply s = some s') : s.Accounted s' := by
  cases e with
  | userRequest r => exact Accounted.processUserRequest h htracks hout hstep
  | contractResponse id endpoints serviceType =>
    cases hstep
    exact (h.dmoContractResponse hok).accounted hout
  | contractFailure endpoints serviceType =>
    cases hstep
    exact h.grown.accounted hout
  | requestExisting endpoints serviceType =>
    cases hstep
    unfold dmoRequestExisting
    split
    · rename_i id hcontract
      refine (h.grown.notifyAddContract (fun _ => usageCount_of_getContract hcontract) ?_).accounted hout
      intro hfalse
      cases hfalse
    · exact h.grown.accounted hout
  | setContract deleteIndex index endpoints serviceType =>
    cases hstep
    exact (h.dmoSetContract deleteIndex index endpoints serviceType).accounted hout
  | deleteContract id =>
    cases hstep
    obtain ⟨hbalanced, hquiet, hnone, hkept⟩ := h.dmoDeleteContract id
    refine Grown.accounted ⟨hbalanced, hquiet, fun id' _ hknown => (hkept id' ?_).symm.le⟩ hout
    rintro rfl
    exact hknown hnone
  | firstContract id =>
    cases hstep
    exact (Grown.dmoProcessFirstContract id hok).accounted hout
  | unjoin =>
    cases hstep
    exact (Grown.onUnjoin htracks).accounted hout
  | createSession id session =>
    obtain ⟨-, rfl⟩ := LeaseEvent.createSession_cases hstep
    refine Grown.accounted ?_ hout
    exact h.grown.frame (fun _ _ => rfl) rfl fun _ => rfl
  | renewSession id expirationTime =>
    obtain rfl | ⟨_, -, -, rfl⟩ := LeaseEvent.renewSession_cases hstep
    · exact h.grown.accounted hout
    · have hgrown := Grown.processSessionUpdate h id expirationTime
      refine Grown.accounted ?_ hout
      exact hgrown.frame (fun _ _ => rfl) rfl fun _ => rfl
  | deleteSession id =>
    cases hstep
    have hreleased := Released.processSessionDelete h id
    refine Released.accounted ?_ h hout
    exact hreleased.frame rfl rfl rfl fun _ => rfl
  | connectionLost id =>
    obtain rfl | ⟨_, -, rfl⟩ := LeaseEvent.connectionLost_cases hstep
    · exact h.grown.accounted hout
    · refine Grown.accounted ?_ hout
      exact h.grown.frame (fun _ _ => rfl) rfl fun _ => rfl
  | checkExpire now =>
    cases hstep
    exact (Released.checkExpireLeases h now).accounted h hout

theorem balanced_start (smAddress : Addr128) : (start smAddress).Balanced := by
  refine ⟨fun id n _ hn => ?_, fun _ _ _ => rfl⟩
  have hnone : (start smAddress).contracts.usageCount id = none := usageCount_empty id
  rw [hnone] at hn
  cases hn

/-- In every state that the service reaches, the usage count of a contract is the number of the active leases on it, up to the 255 that the field can count, and a step asks for the termination of exactly the contracts whose last lease it takes away, once each. The contract with the system manager is kept, and so is what the system manager deleted itself. -/
theorem contract_usage {smAddress : Addr128} {s : LeaseState}
    (h : Machine.Reaches (start smAddress) leaseStep (fun s e => e.Counts s) s) :
    (∀ id n, id ≠ 0 → s.contracts.usageCount id = some n → s.attached id < 256 → n.toNat = s.attached id) ∧
      (∀ id, id ≠ 0 → s.contracts.usageCount id = none → s.attached id = 0) ∧
      ∀ e s', e.Counts s → leaseStep s e = some s' → ∀ id, id ≠ 0 → s.attached id < 256 →
        s'.terminations id = if id ≠ s.smContractID ∧ 0 < s.attached id ∧ s'.attached id = 0 ∧
          s'.contracts.usageCount id ≠ none then 1 else 0 := by
  have hstep : ∀ s e s', s.Balanced ∧ s.Listed → e.Counts s → leaseStep s e = some s' →
      s.Accounted s' ∧ s'.Listed := by
    intro s e s' ⟨hbalanced, hlisted⟩ hok hnext
    have hcleared : Balanced { s with out := [] } := hbalanced.frame (fun _ _ => rfl) rfl
    have haccounted := Accounted.apply hcleared hlisted rfl hok hnext
    exact ⟨⟨haccounted.balanced, haccounted.ended⟩, (hlisted.step hnext).1⟩
  obtain ⟨hbalanced, hlisted⟩ : s.Balanced ∧ s.Listed := by
    refine h.invariant (P := fun s => s.Balanced ∧ s.Listed) ⟨balanced_start smAddress, listed_start smAddress⟩ ?_
    intro s e s' hs hok hnext
    obtain ⟨haccounted, hlisted⟩ := hstep s e s' hs hok hnext
    exact ⟨haccounted.balanced, hlisted⟩
  refine ⟨fun id n hid hn hwidth => ?_, hbalanced.housed, fun e s' hok hnext => ?_⟩
  · rw [hbalanced.counted id n hid hn, UInt8.toNat_ofNat', Nat.mod_eq_of_lt hwidth]
  · exact (hstep s e s' ⟨hbalanced, hlisted⟩ hok hnext).1.ended

def sampleClient (address : UInt32) (tsapid : UInt16) : LeaseRequest :=
  { sampleLeaseRequest with
    address := address
    data := { sampleLeaseData with leaseType := 0, endpointTSAPID := tsapid } }

def sampleDelete (id : UInt32) : LeaseRequest :=
  { sampleLeaseRequest with data := { sampleLeaseData with leaseType := 0, leaseID := id } }

def sampleEndpoints (tsapid : UInt16) : ContractEndpoints :=
  ⟨sampleDevice.toList, isa100StartPorts + tsapid, isa100AppPort⟩

def sampleSharing : List LeaseEvent :=
  [.createSession 1 ⟨0, false, true⟩, .userRequest (sampleClient 4096 2),
    .contractResponse 7 (sampleEndpoints 2) srvcAperiodicComm, .userRequest (sampleClient 4112 2),
    .userRequest (sampleDelete 1)]

theorem contract_usage_sample : ∃ s s' n, leaseStep s (.userRequest (sampleDelete 2)) = some s' ∧
    s.contracts.usageCount 7 = some n ∧ n.toNat = 1 ∧ s'.terminations 7 = 1 := by
  obtain ⟨s, hrun, hcounts⟩ : ∃ s, Machine.runs leaseStep (start sampleDevice) sampleSharing = some s ∧
      (s.contracts.usageCount 7, s.attached 7, s.smContractID, (leaseStep s (.userRequest (sampleDelete 2))).map
        fun s' => (s'.attached 7, s'.contracts.usageCount 7)) = (some 1, 1, 0, some (0, some 0)) :=
    map_eq_some_iff.mp (by decide)
  obtain ⟨husage, hrest⟩ := Prod.mk.inj hcounts
  obtain ⟨hattached, hrest⟩ := Prod.mk.inj hrest
  obtain ⟨hmanager, hnext⟩ := Prod.mk.inj hrest
  obtain ⟨s', hstep, hleft⟩ := map_eq_some_iff.mp hnext
  obtain ⟨hzero, hkept⟩ := Prod.mk.inj hleft
  obtain ⟨hcounted, -, hended⟩ := contract_usage (Machine.reaches_runs (by decide) hrun)
  have hwidth : s.attached 7 < 256 := by omega
  refine ⟨s, s', 1, hstep, husage, (hcounted 7 1 (by decide) husage hwidth).trans hattached, ?_⟩
  have htermination := hended (.userRequest (sampleDelete 2)) s' trivial hstep 7 (by decide) hwidth
  rw [hmanager, hattached, hzero, hkept] at htermination
  exact htermination

def sampleManaged : List LeaseEvent :=
  [.createSession 1 ⟨0, false, true⟩, .userRequest (sampleClient 4096 1),
    .contractResponse 9 (sampleEndpoints 1) srvcAperiodicComm]

/-- The last lease on the contract with the system manager goes away, and the contract stays. -/
theorem smContract_not_terminated : ∃ s s', Machine.Reaches (start sampleDevice) leaseStep (fun s e => e.Counts s) s ∧
      leaseStep s (.userRequest (sampleDelete 1)) = some s' ∧ s.attached 9 = 1 ∧ s'.attached 9 = 0 ∧
      s'.contracts.usageCount 9 = some 0 ∧ s'.terminations 9 = 0 := by
  obtain ⟨s, hrun, hcounts⟩ : ∃ s, Machine.runs leaseStep (start sampleDevice) sampleManaged = some s ∧
      (s.attached 9, (leaseStep s (.userRequest (sampleDelete 1))).map fun s' =>
        (s'.attached 9, s'.contracts.usageCount 9, s'.terminations 9)) = (1, some (0, some 0, 0)) :=
    map_eq_some_iff.mp (by decide)
  obtain ⟨hattached, hnext⟩ := Prod.mk.inj hcounts
  obtain ⟨s', hstep, hleft⟩ := map_eq_some_iff.mp hnext
  obtain ⟨hzero, hrest⟩ := Prod.mk.inj hleft
  obtain ⟨hkept, hquiet⟩ := Prod.mk.inj hrest
  exact ⟨s, s', Machine.reaches_runs (by decide) hrun, hstep, hattached, hzero, hkept, hquiet⟩

end Isa100Gateway
