import Isa100Gateway.Gateway.DyingContracts
import Isa100Gateway.Lib.Ledger

/-!
# Confirms of lease requests

A lease request is confirmed in its own step, or its lease waits: a create for its contract, a delete for the end of its contract.
-/

namespace Isa100Gateway

open LeaseEvent LeaseState List

def confirmedRequests (out : List LeaseEffect) : List Nat :=
  out.filterMap fun
    | .confirm _ _ _ _ _ request => some request
    | _ => none

theorem confirmedRequests_append (es es' : List LeaseEffect) :
    confirmedRequests (es ++ es') = confirmedRequests es ++ confirmedRequests es' :=
  filterMap_append

def LeaseState.wellFormed (s : LeaseState) (r : LeaseRequest) : Bool :=
  validateUserRequest r s ≠ .tooShort ∧ s.connected r.sessionId

def Lease.awaited (sessions : AList fun _ : UInt32 => LeaseSession) (n : Nat) (l : Lease) : Bool :=
  l.request = n ∧ (sessions.lookup l.sessionId).any LeaseSession.connected

namespace LeaseState

variable {s₀ s s' : LeaseState} {l : Lease}

def waits (s : LeaseState) (n : Nat) : Nat :=
  s.inProgress.countP (Lease.awaited s.sessions n) + s.pendingDelete.countP (Lease.awaited s.sessions n)

/-- How often the request was confirmed in the step so far, and how often it still has to be. -/
def settled (s : LeaseState) (n : Nat) : Nat := (confirmedRequests s.out).count n + s.waits n

def constants (s : LeaseState) : (AList fun _ : UInt32 => LeaseSession) × Nat := (s.sessions, s.requests)

theorem sessions_of_constants (h : s'.constants = s.constants) : s'.sessions = s.sessions := congrArg Prod.fst h

/-- A state with the same sessions that owes the same confirms as `s₀`. -/
structure Settles (s₀ s : LeaseState) : Prop where
  constants : s.constants = s₀.constants
  settled : ∀ n, s.settled n = s₀.settled n

theorem Settles.refl (s : LeaseState) : Settles s s := ⟨rfl, fun _ => rfl⟩

theorem Settles.frame (h : Settles s₀ s) (hwaiting : s'.inProgress = s.inProgress)
    (hpending : s'.pendingDelete = s.pendingDelete) (hconstants : s'.constants = s.constants)
    (hout : confirmedRequests s'.out = confirmedRequests s.out) : Settles s₀ s' := by
  have hsessions := sessions_of_constants hconstants
  refine ⟨hconstants.trans h.constants, fun n => ?_⟩
  have hsame : s'.settled n = s.settled n := by
    unfold LeaseState.settled waits
    rw [hsessions, hwaiting, hpending, hout]
  exact hsame.trans (h.settled n)

theorem confirmedRequests_leaseConfirm (s : LeaseState) (session transaction : UInt32) (status : UInt8)
    (leaseId period : UInt32) (request : Nat) :
    confirmedRequests (s.leaseConfirm session transaction status leaseId period request).out =
      confirmedRequests s.out ++ if s.connected session then [request] else [] := by
  unfold leaseConfirm
  rw [confirmedRequests_append]
  split <;> rfl

theorem awaited_iff (n : Nat) : l.awaited s.sessions n = true ↔ l.request = n ∧ s.connected l.sessionId = true := by
  unfold Lease.awaited connected
  rw [decide_eq_true_iff]

theorem waits_middle (s : LeaseState) (pre post : List Lease) (l : Lease) (n : Nat) :
    waits { s with inProgress := pre ++ l :: post } n = waits { s with inProgress := pre ++ post } n +
      if l.request = n ∧ s.connected l.sessionId = true then 1 else 0 := by
  unfold waits
  rw [countP_apart, Nat.add_right_comm]
  simp only [awaited_iff]

theorem waits_pending_middle (s : LeaseState) (pre post : List Lease) (l : Lease) (n : Nat) :
    waits { s with pendingDelete := pre ++ l :: post } n = waits { s with pendingDelete := pre ++ post } n +
      if l.request = n ∧ s.connected l.sessionId = true then 1 else 0 := by
  unfold waits
  rw [countP_apart, Nat.add_assoc]
  simp only [awaited_iff]

theorem count_confirmed (session : UInt32) (request n : Nat) (es : List Nat) :
    (es ++ if s.connected session then [request] else []).count n =
      es.count n + if request = n ∧ s.connected session = true then 1 else 0 := by
  rw [count_append]
  cases hconnected : s.connected session with
  | true =>
    rw [if_pos rfl, count_singleton]
    by_cases heq : request = n <;> simp [heq]
  | false => simp

variable {pre post : List Lease} {r : LeaseRequest} {request : Nat} {subs : List (PublishKey × UInt32)}

theorem Settles.confirmOne {t t' : LeaseState} (h : Settles s₀ t) (hconstants : t'.constants = t.constants)
    (hout : confirmedRequests t'.out =
      confirmedRequests t.out ++ if t.connected l.sessionId then [l.request] else [])
    (hwaits : ∀ n, t.waits n = t'.waits n + if l.request = n ∧ t.connected l.sessionId = true then 1 else 0) :
    Settles s₀ t' := by
  refine ⟨hconstants.trans h.constants, fun n => ?_⟩
  rw [← h.settled n]
  unfold LeaseState.settled
  rw [hout, count_confirmed, hwaits]
  omega

theorem Settles.confirmWaiting (h : Settles s₀ { s with inProgress := pre ++ l :: post })
    (hpending : s'.pendingDelete = s.pendingDelete) (hconstants : s'.constants = s.constants)
    (hout : confirmedRequests s'.out =
      confirmedRequests s.out ++ if s.connected l.sessionId then [l.request] else []) :
    Settles s₀ { s' with inProgress := pre ++ post } := by
  refine h.confirmOne hconstants hout fun n => (waits_middle s pre post l n).trans ?_
  unfold waits
  rw [sessions_of_constants hconstants, hpending]
  rfl

theorem Settles.confirmPending (h : Settles s₀ { s with pendingDelete := pre ++ l :: post })
    (hwaiting : s'.inProgress = s.inProgress) (hconstants : s'.constants = s.constants)
    (hout : confirmedRequests s'.out =
      confirmedRequests s.out ++ if s.connected l.sessionId then [l.request] else []) :
    Settles s₀ { s' with pendingDelete := pre ++ post } := by
  refine h.confirmOne hconstants hout fun n => (waits_pending_middle s pre post l n).trans ?_
  unfold waits
  rw [sessions_of_constants hconstants, hwaiting]
  rfl

theorem confirmedRequests_deleteActiveLease (s : LeaseState) (l : Lease) (deleteContract waits : Bool) :
    confirmedRequests (deleteActiveLease deleteContract waits s l).1.out = confirmedRequests s.out := by
  unfold deleteActiveLease
  rw [confirmedRequests_append]
  split <;> exact append_nil _

theorem Settles.deleteActiveLeases (h : Settles s₀ s) (p : Lease → Bool) (deleteContract : Bool) :
    Settles s₀ (deleteActiveLeases p deleteContract false s) := by
  refine sweepActive_rule (P := fun t => Settles s₀ t) ?_ h
  intro t pre l post _ ht
  refine ht.frame rfl ?_ rfl (confirmedRequests_deleteActiveLease t l deleteContract false)
  change (deleteActiveLease deleteContract false t l).1.pendingDelete = t.pendingDelete
  unfold deleteActiveLease
  dsimp only
  rw [Bool.and_false]
  rfl

theorem Settles.sweepSubscriber (h : Settles s₀ s) (p : Lease → Bool) :
    Settles s₀ (s.sweepSubscriber p deleteActiveSubscriberLease) := by
  refine sweepSubscriber_rule (P := fun t => Settles s₀ t) ?_ h
  intro t pre l post _ ht
  refine ht.frame rfl rfl rfl ?_
  change confirmedRequests (t.out ++ [_]) = confirmedRequests t.out
  rw [confirmedRequests_append]
  exact append_nil _

theorem Settles.checkExpireLeases (s : LeaseState) (now : Int32) : Settles s (checkExpireLeases now s) := by
  refine sweepInProgress_rule (P := fun t => Settles s t) ?_
    (((Settles.refl s).deleteActiveLeases (Lease.expired now) true).sweepSubscriber (Lease.expired now))
  intro t pre l post _ ht
  exact ht.confirmWaiting rfl rfl (confirmedRequests_leaseConfirm t _ _ _ _ _ _)

theorem Settles.contractCreated (h : Settles s₀ s) (id : UInt16) (endpoints : ContractEndpoints)
    (serviceType : UInt8) (stored : Bool) : Settles s₀ (contractCreated id endpoints serviceType stored s) := by
  refine sweepInProgress_rule (P := fun t => Settles s₀ t) ?_ h
  intro t pre l post _ ht
  exact ht.confirmWaiting rfl rfl (confirmedRequests_leaseConfirm _ _ _ _ _ _ _)

theorem Settles.contractDeleted (h : Settles s₀ s) (id : UInt16) : Settles s₀ (contractDeleted id s) := by
  refine sweepPendingDelete_rule (P := fun t => Settles s₀ t) ?_ (h.deleteActiveLeases _ false)
  intro t pre l post _ ht
  exact ht.confirmPending rfl rfl (confirmedRequests_leaseConfirm t _ _ _ _ _ _)

theorem Settles.notifyAddContract (h : Settles s₀ s) (id : UInt16) (endpoints : ContractEndpoints)
    (serviceType : UInt8) (stored : Bool) : Settles s₀ (notifyAddContract id endpoints serviceType stored s) := by
  unfold Isa100Gateway.notifyAddContract
  split
  · exact h
  · apply Settles.contractCreated
    split
    · exact h.frame rfl rfl rfl rfl
    · exact h

theorem Settles.dmoDeleteContract (h : Settles s₀ s) (id : UInt16) : Settles s₀ (dmoDeleteContract id s) := by
  unfold Isa100Gateway.dmoDeleteContract
  split
  · exact h
  · unfold notifyContractDeletion
    apply Settles.contractDeleted
    split
    · exact h.frame rfl rfl rfl rfl
    · exact h.frame rfl rfl rfl rfl

/-- A state that owes one more confirm than `s₀`: that of the request, when its client has a valid connection. -/
structure Accepts (s₀ : LeaseState) (request : Nat) (session : UInt32) (s : LeaseState) : Prop where
  constants : s.constants = s₀.constants
  settled : ∀ n, s.settled n = s₀.settled n + if request = n ∧ s₀.connected session = true then 1 else 0

theorem Settles.leaseConfirm (h : Settles s₀ s) (session transaction : UInt32) (status : UInt8)
    (leaseId period : UInt32) (request : Nat) :
    Accepts s₀ request session (s.leaseConfirm session transaction status leaseId period request) := by
  refine ⟨h.constants, fun n => ?_⟩
  have hwaits : (s.leaseConfirm session transaction status leaseId period request).waits n = s.waits n := rfl
  have hconnected : s.connected session = s₀.connected session := by
    unfold connected
    rw [sessions_of_constants h.constants]
  rw [← h.settled n, ← hconnected]
  unfold LeaseState.settled
  rw [confirmedRequests_leaseConfirm, hwaits, count_confirmed]
  omega

theorem Accepts.establish (s : LeaseState) (r : LeaseRequest) (hsession : l.sessionId = r.sessionId) :
    Accepts s l.request r.sessionId (s.establish r l) := by
  rw [← hsession]
  have hself := Settles.refl s
  unfold LeaseState.establish
  split
  · apply Settles.leaseConfirm
    exact hself.frame rfl rfl rfl rfl
  split
  · apply Settles.leaseConfirm
    refine hself.frame rfl rfl rfl ?_
    change confirmedRequests (s.out ++ [_]) = confirmedRequests s.out
    rw [confirmedRequests_append]
    exact append_nil _
  · split
    · split
      · unfold refuse
        rw [← hsession]
        exact hself.leaseConfirm _ _ _ _ _ _
      · apply Settles.leaseConfirm
        exact hself.frame rfl rfl rfl rfl
    · -- the create waits
      refine ⟨rfl, fun n => ?_⟩
      unfold LeaseState.settled waits
      rw [confirmedRequests_append, countP_append, countP_singleton]
      simp only [awaited_iff]
      change count n (confirmedRequests s.out ++ []) + _ = _
      rw [append_nil]
      omega

theorem Accepts.deleteLease (hsession : l.sessionId = r.sessionId) (htracks : s.Tracks subs)
    (hstep : deleteLease r l request s = some s') : Accepts s request r.sessionId s' := by
  have hself := Settles.refl s
  have hout := confirmedRequests_deleteActiveLease s l true true
  obtain ⟨pre, post, -, rfl⟩ | ⟨pre, post, hsplit, ⟨hwaits, rfl⟩ | ⟨hwaits, rfl⟩⟩ := deleteLease_cases htracks hstep
  · apply Settles.leaseConfirm
    refine hself.frame rfl rfl rfl ?_
    change confirmedRequests (s.out ++ [_]) = confirmedRequests s.out
    rw [confirmedRequests_append]
    exact append_nil _
  · have hmem : l ∈ s.active := hsplit ▸ mem_middle pre post l
    have hpending : (deleteActiveLease true true s l).1.pendingDelete = s.pendingDelete ++ [l] := if_pos hwaits
    -- no other waiting lease has the address of `l`, which was active
    have hothers : ∀ m ∈ s.pendingDelete, r.renumber l request m = m := by
      intro m hm
      refine if_neg fun haddr => ?_
      have hcount := htracks.distinct l.address
      have hactive : 0 < s.active.countP fun m => m.address = l.address :=
        countP_pos_iff.mpr ⟨l, hmem, decide_eq_true rfl⟩
      have hwaiting : 0 < s.pendingDelete.countP fun m => m.address = l.address :=
        countP_pos_iff.mpr ⟨m, hm, decide_eq_true haddr⟩
      rw [holders_eq] at hcount
      omega
    have hmap : (deleteActiveLease true true s l).1.pendingDelete.map (r.renumber l request) =
        s.pendingDelete ++ [{ l with transactionId := r.transactionId, request := request }] := by
      rw [hpending, map_append, map_congr_left hothers, map_id', map_singleton]
      exact congrArg (fun m => s.pendingDelete ++ [m]) (if_pos rfl)
    refine ⟨rfl, fun n => ?_⟩
    unfold LeaseState.settled waits
    change count n (confirmedRequests (deleteActiveLease true true s l).1.out) + (s.inProgress.countP _ +
      ((deleteActiveLease true true s l).1.pendingDelete.map (r.renumber l request)).countP _) = _
    rw [hout, hmap, countP_append, countP_singleton]
    simp only [awaited_iff, hsession]
    have hsessions : (deleteActiveLease true true s l).1.sessions = s.sessions := rfl
    have hconnected : (deleteActiveLease true true s l).1.connected r.sessionId = s.connected r.sessionId := rfl
    rw [hsessions, hconnected]
    omega
  · apply Settles.leaseConfirm
    refine hself.frame rfl ?_ rfl hout
    exact if_neg (by simpa [deleteActiveLease] using hwaits)

theorem Accepts.processUserRequest (htracks : s.Tracks subs)
    (hlong : validateUserRequest r s ≠ .tooShort) (hstep : processUserRequest r s = some s') :
    Accepts s.counted s.requests r.sessionId s' := by
  have hself := Settles.refl s.counted
  cases processUserRequest_served hstep with
  | tooShort hshort => exact absurd hshort hlong
  | confirmed => exact hself.leaseConfirm _ _ _ _ _ _
  | created hcreates =>
    obtain ⟨type, sessExpTime, addr, -, -, rfl⟩ := creates_cases hcreates
    exact Accepts.establish (l := r.newLease type sessExpTime addr s.requests) s.counted r rfl
  | deleted hsession hdelete =>
    have hcounted : Tracks subs s.counted := htracks.frame rfl rfl rfl rfl rfl
    exact Accepts.deleteLease hsession hcounted hdelete
  | renewed =>
    apply Settles.leaseConfirm
    exact hself.frame rfl rfl rfl rfl

theorem settled_congr {f : Lease → Lease} (hf : ∀ l, (f l).request = l.request ∧ (f l).sessionId = l.sessionId)
    (hwaiting : s'.inProgress = s.inProgress.map f) (hpending : s'.pendingDelete = s.pendingDelete)
    (hout : s'.out = s.out)
    (hconnected : ∀ l ∈ s.inProgress ++ s.pendingDelete, s'.connected l.sessionId = s.connected l.sessionId)
    (n : Nat) : s'.settled n = s.settled n := by
  have hsame : ∀ l ∈ s.inProgress ++ s.pendingDelete, l.awaited s'.sessions n = l.awaited s.sessions n := by
    intro l hl
    rw [Bool.eq_iff_iff, awaited_iff, awaited_iff, hconnected l hl]
  have hmap : ∀ l, (f l).awaited s'.sessions n = l.awaited s'.sessions n := by
    intro l
    rw [Bool.eq_iff_iff, awaited_iff, awaited_iff, (hf l).1, (hf l).2]
  unfold settled waits
  rw [hwaiting, hpending, hout, countP_map]
  congr 2
  · apply countP_congr
    intro l hl
    rw [Function.comp_apply, hmap, hsame l (mem_append_left _ hl)]
  · apply countP_congr
    intro l hl
    rw [hsame l (mem_append_right _ hl)]

theorem processSessionDelete_lists (s : LeaseState) (session : UInt32) :
    (processSessionDelete session s).inProgress = s.inProgress.filter (fun l => !(l.sessionId = session)) ∧
      (processSessionDelete session s).constants = s.constants ∧
      confirmedRequests (processSessionDelete session s).out = confirmedRequests s.out ∧
      ∃ moved, (processSessionDelete session s).pendingDelete = s.pendingDelete ++ moved ∧
        ∀ l ∈ moved, l.sessionId = session := by
  unfold processSessionDelete
  dsimp only
  have hdeleted : (deleteActiveLeases (·.sessionId = session) true true s).inProgress = s.inProgress ∧
      (deleteActiveLeases (·.sessionId = session) true true s).constants = s.constants ∧
      confirmedRequests (deleteActiveLeases (·.sessionId = session) true true s).out = confirmedRequests s.out ∧
      ∃ moved, (deleteActiveLeases (·.sessionId = session) true true s).pendingDelete = s.pendingDelete ++ moved ∧
        ∀ l ∈ moved, l.sessionId = session := by
    refine sweepActive_rule (P := fun t => t.inProgress = s.inProgress ∧ t.constants = s.constants ∧
      confirmedRequests t.out = confirmedRequests s.out ∧
      ∃ moved, t.pendingDelete = s.pendingDelete ++ moved ∧ ∀ l ∈ moved, l.sessionId = session) ?_
      ⟨rfl, rfl, rfl, [], (append_nil _).symm, fun l hl => absurd hl not_mem_nil⟩
    rintro t pre l post hl ⟨hwaiting, hconstants, hout, moved, hpending, hmoved⟩
    have hpending : t.pendingDelete = s.pendingDelete ++ moved := hpending
    refine ⟨hwaiting, hconstants, (confirmedRequests_deleteActiveLease t l true true).trans hout, ?_⟩
    change ∃ moved, (deleteActiveLease true true t l).1.pendingDelete = _ ∧ _
    unfold deleteActiveLease
    dsimp only
    split
    · refine ⟨moved ++ [l], ?_, fun m hm => ?_⟩
      · rw [hpending, append_assoc]
      · rcases mem_append.mp hm with hm | hm
        · exact hmoved m hm
        · obtain rfl := mem_singleton.mp hm
          exact of_decide_eq_true hl
    · exact ⟨moved, hpending, hmoved⟩
  generalize deleteActiveLeases (·.sessionId = session) true true s = t at hdeleted
  have hswept : (t.sweepSubscriber (·.sessionId = session) deleteActiveSubscriberLease).inProgress = t.inProgress ∧
      (t.sweepSubscriber (·.sessionId = session) deleteActiveSubscriberLease).constants = t.constants ∧
      (t.sweepSubscriber (·.sessionId = session) deleteActiveSubscriberLease).pendingDelete = t.pendingDelete ∧
      confirmedRequests (t.sweepSubscriber (·.sessionId = session) deleteActiveSubscriberLease).out =
        confirmedRequests t.out := by
    refine sweepSubscriber_rule (P := fun u => u.inProgress = t.inProgress ∧ u.constants = t.constants ∧
      u.pendingDelete = t.pendingDelete ∧ confirmedRequests u.out = confirmedRequests t.out) ?_ ⟨rfl, rfl, rfl, rfl⟩
    rintro u pre l post - ⟨hwaiting, hconstants, hpending, hout⟩
    refine ⟨hwaiting, hconstants, hpending, Eq.trans ?_ hout⟩
    change confirmedRequests (u.out ++ [_]) = confirmedRequests u.out
    rw [confirmedRequests_append]
    exact append_nil _
  generalize t.sweepSubscriber (·.sessionId = session) deleteActiveSubscriberLease = u at hswept
  obtain ⟨hwaiting, hconstants, hout, hmoved⟩ := hdeleted
  obtain ⟨hwaiting', hconstants', hpending', hout'⟩ := hswept
  have hdropped : (u.sweepInProgress (·.sessionId = session) fun s _ => s).constants = u.constants ∧
      (u.sweepInProgress (·.sessionId = session) fun s _ => s).pendingDelete = u.pendingDelete ∧
      (u.sweepInProgress (·.sessionId = session) fun s _ => s).out = u.out :=
    sweepInProgress_rule (P := fun v => v.constants = u.constants ∧ v.pendingDelete = u.pendingDelete ∧ v.out = u.out)
      (fun _ _ _ _ _ h => h) ⟨rfl, rfl, rfl⟩
  obtain ⟨hconstants'', hpending'', hout''⟩ := hdropped
  refine ⟨?_, hconstants''.trans (hconstants'.trans hconstants), ?_, ?_⟩
  · rw [sweepInProgress_inProgress, hwaiting', hwaiting]
  · rw [hout'', hout', hout]
  · rw [hpending'', hpending']
    exact hmoved

theorem waits_deleteSession {session : UInt32}
    (hidle : s.connected session = true → ∀ l ∈ s.inProgress ++ s.pendingDelete, l.sessionId ≠ session) (n : Nat) :
    settled { processSessionDelete session s with
      sessions := (processSessionDelete session s).sessions.erase session } n = s.settled n := by
  obtain ⟨hwaiting, hconstants, hout, moved, hpending, hmoved⟩ := processSessionDelete_lists s session
  have hsessions := sessions_of_constants hconstants
  have hsame : ∀ l ∈ s.inProgress ++ s.pendingDelete,
      (l.awaited (s.sessions.erase session) n && !decide (l.sessionId = session)) = l.awaited s.sessions n := by
    intro l hl
    by_cases heq : l.sessionId = session
    · have hlost : s.connected session = false := by
        by_contra hlive
        exact hidle (Bool.eq_true_of_not_eq_false hlive) l hl heq
      have hnot : l.awaited s.sessions n = false := by
        rw [← Bool.not_eq_true, awaited_iff, heq, hlost]
        simp
      rw [hnot, heq]
      simp
    · unfold Lease.awaited
      rw [AList.lookup_erase_ne heq]
      simp [heq]
  have hgone : ∀ l : Lease, l.sessionId = session → l.awaited (s.sessions.erase session) n = false := by
    intro l heq
    unfold Lease.awaited
    rw [heq, AList.lookup_erase]
    simp
  unfold settled waits
  rw [hwaiting, hout, hpending, hsessions, countP_filter, countP_append]
  have hnone : moved.countP (Lease.awaited (s.sessions.erase session) n) = 0 :=
    countP_eq_zero.mpr fun l hl => by simp [hgone l (hmoved l hl)]
  have hleft : s.inProgress.countP (fun l => l.awaited (s.sessions.erase session) n && !decide
    (l.sessionId = session)) =
      s.inProgress.countP (Lease.awaited s.sessions n) :=
    countP_congr fun l hl => by rw [hsame l (mem_append_left _ hl)]
  have hkept : s.pendingDelete.countP (Lease.awaited (s.sessions.erase session) n) =
      s.pendingDelete.countP (Lease.awaited s.sessions n) := by
    apply countP_congr
    intro l hl
    rw [← hsame l (mem_append_right _ hl)]
    by_cases heq : l.sessionId = session
    · simp [hgone l heq]
    · simp [heq]
  rw [hnone, hleft, hkept, Nat.add_zero]

def PendingHoused (s : LeaseState) : Prop :=
  ∀ l ∈ s.pendingDelete, s.connected l.sessionId = true → s.contracts.usageCount l.contractId ≠ none

theorem PendingHoused.mono (h : s.PendingHoused) (hpending : s'.pendingDelete ⊆ s.pendingDelete)
    (hconnected : ∀ l ∈ s'.pendingDelete, s'.connected l.sessionId = true → s.connected l.sessionId = true)
    (hcontracts : ∀ id, s.contracts.usageCount id ≠ none → s'.contracts.usageCount id ≠ none) : s'.PendingHoused :=
  fun l hl hlive => hcontracts _ (h l (hpending hl) (hconnected l hl hlive))

variable {contracts : LeaseContracts}

theorem usageCount_recount_ne_none (id : UInt16) (f : UInt8 → UInt8) {id' : UInt16}
    (h : contracts.usageCount id' ≠ none) : (contracts.recount id f).usageCount id' ≠ none := by
  rw [LeaseContracts.usageCount_recount]
  split
  · rename_i heq
    exact fun hnone => h (heq ▸ Option.map_eq_none_iff.mp hnone)
  · exact h

theorem usageCount_insert_ne_none (id : UInt16) (c : LeaseContract) {id' : UInt16}
    (h : contracts.usageCount id' ≠ none) : LeaseContracts.usageCount (contracts.insert id c) id' ≠ none := by
  rw [LeaseContracts.usageCount_insert]
  split
  · exact Option.some_ne_none _
  · exact h

theorem PendingHoused.deleteActive
    (h : PendingHoused { s with active := pre ++ l :: post }) (deleteContract waits : Bool) :
    PendingHoused { (deleteActiveLease deleteContract waits s l).1 with active := pre ++ post } := by
  intro m hm hlive
  change (s.contracts.recount l.contractId (· - 1)).usageCount m.contractId ≠ none
  have hm : m ∈ (deleteActiveLease deleteContract waits s l).1.pendingDelete := hm
  unfold deleteActiveLease at hm
  dsimp only at hm
  split at hm
  · rename_i hterminates
    rcases mem_append.mp hm with hm | hm
    · exact usageCount_recount_ne_none _ _ (h m hm hlive)
    · obtain rfl := mem_singleton.mp hm
      intro hnone
      unfold terminates at hterminates
      rw [hnone] at hterminates
      simp at hterminates
  · exact usageCount_recount_ne_none _ _ (h m hm hlive)

section

variable (h : s.PendingHoused)
include h

theorem PendingHoused.deleteActiveLeases (p : Lease → Bool) (deleteContract waits : Bool) :
    (deleteActiveLeases p deleteContract waits s).PendingHoused :=
  sweepActive_rule (fun _ _ _ _ _ h => h.deleteActive deleteContract waits) h

theorem PendingHoused.checkExpireLeases (now : Int32) : (checkExpireLeases now s).PendingHoused := by
  refine sweepInProgress_rule (P := fun t => t.PendingHoused) (fun _ _ _ _ _ ht => ht) ?_
  refine sweepSubscriber_rule (P := fun t => t.PendingHoused) (fun _ _ _ _ _ ht => ht) ?_
  exact h.deleteActiveLeases _ _ _

theorem PendingHoused.processSessionDelete (session : UInt32) : (processSessionDelete session s).PendingHoused := by
  refine sweepInProgress_rule (P := fun t => t.PendingHoused) (fun _ _ _ _ _ ht => ht) ?_
  refine sweepSubscriber_rule (P := fun t => t.PendingHoused) (fun _ _ _ _ _ ht => ht) ?_
  exact h.deleteActiveLeases _ _ _

theorem PendingHoused.notifyAddContract (id : UInt16) (endpoints : ContractEndpoints)
    (serviceType : UInt8) (stored : Bool) : (notifyAddContract id endpoints serviceType stored s).PendingHoused := by
  unfold Isa100Gateway.notifyAddContract
  split
  · exact h
  · refine sweepInProgress_rule (P := fun t => t.PendingHoused) ?_ ?_
    · intro t pre l post _ ht m hm hlive
      have hknown := ht m hm hlive
      change LeaseContracts.usageCount (if stored then t.contracts.recount id (· + 1) else t.contracts) _ ≠ none
      split
      · exact usageCount_recount_ne_none _ _ hknown
      · exact hknown
    · split
      · exact h
      · exact h

theorem PendingHoused.dmoDeleteContract (id : UInt16) : (dmoDeleteContract id s).PendingHoused := by
  by_cases hlookup : s.contracts.lookup id = none
  · unfold Isa100Gateway.dmoDeleteContract
    rw [hlookup]
    exact h
  · have herased := Erased.dmoDeleteContract hlookup
    have hsessions := sessions_of_constants ((Settles.refl s).dmoDeleteContract id).constants
    generalize Isa100Gateway.dmoDeleteContract id s = u at herased hsessions
    intro l hl hlive
    rw [herased.pending] at hl
    obtain ⟨hl, hother⟩ := mem_filter.mp hl
    rw [herased.contracts, LeaseContracts.usageCount_erase, if_neg (by simpa using hother)]
    refine h l hl ?_
    unfold connected at hlive ⊢
    rwa [hsessions] at hlive

theorem PendingHoused.establish (r : LeaseRequest) (l : Lease) : (s.establish r l).PendingHoused := by
  unfold LeaseState.establish
  split
  · exact h
  split
  · exact h
  · split
    · split
      · exact h
      · exact h.mono (Subset.refl _) (fun _ _ hlive => hlive) fun _ => usageCount_recount_ne_none _ _
    · exact h

theorem PendingHoused.deleteLease (htracks : s.Tracks subs)
    (hstep : deleteLease r l request s = some s') : s'.PendingHoused := by
  obtain ⟨pre, post, -, rfl⟩ | ⟨pre, post, -, hends⟩ := deleteLease_cases htracks hstep
  · exact h
  · have hfocused : PendingHoused { s with active := pre ++ l :: post } := h
    have hdeleted := hfocused.deleteActive true true
    obtain ⟨-, rfl⟩ | ⟨-, rfl⟩ := hends
    · intro m hm hlive
      obtain ⟨m', hm', rfl⟩ := mem_map.mp hm
      have hknown := hdeleted m' hm'
      unfold LeaseRequest.renumber at hlive ⊢
      split at hlive
      · rename_i haddr
        rw [if_pos haddr]
        exact hknown hlive
      · rename_i haddr
        rw [if_neg haddr]
        exact hknown hlive
    · exact hdeleted

theorem PendingHoused.processUserRequest
    (htracks : s.Tracks subs) (hstep : processUserRequest r s = some s') : s'.PendingHoused := by
  have hcounted : s.counted.PendingHoused := h
  cases processUserRequest_served hstep with
  | tooShort => exact h
  | confirmed => exact h
  | created => exact hcounted.establish r _
  | deleted _ hdelete =>
    have htracks' : Tracks subs s.counted := htracks.frame rfl rfl rfl rfl rfl
    exact hcounted.deleteLease htracks' hdelete
  | renewed => exact h

end

end LeaseState

/-! ## Steps -/

/-- The end points of the contract that the event reports as refused, a contract notification with the id 0. -/
def LeaseEvent.refusedContract (s : LeaseState) : LeaseEvent → Option (ContractEndpoints × UInt8)
  | .contractFailure endpoints serviceType => some (endpoints, serviceType)
  | .contractResponse id endpoints serviceType =>
    if id = 0 ∨ s.contracts.entries.length ≥ maxContractNo then some (endpoints, serviceType) else none
  | _ => none

/-- The steps of the statement. No create waits for a contract that is refused, a session with a valid connection does not end or lose it while a request of it waits, no session gets the id of a lease that waits, and the contract table is not cleared while a delete waits. -/
def LeaseEvent.Answerable (s : LeaseState) : LeaseEvent → Prop
  | .contractFailure endpoints serviceType => ∀ l ∈ s.inProgress, l.awaits endpoints serviceType = false
  | .contractResponse id endpoints serviceType => id = 0 ∨ s.contracts.entries.length ≥ maxContractNo →
    ∀ l ∈ s.inProgress, l.awaits endpoints serviceType = false
  | .createSession id _ => ∀ l ∈ s.inProgress ++ s.pendingDelete, l.sessionId ≠ id
  | .deleteSession id => s.connected id = true → ∀ l ∈ s.inProgress ++ s.pendingDelete, l.sessionId ≠ id
  | .connectionLost id => s.connected id = true → ∀ l ∈ s.inProgress ++ s.pendingDelete, l.sessionId ≠ id
  | .firstContract _ => ∀ l ∈ s.pendingDelete, s.connected l.sessionId = false
  | .unjoin => ∀ l ∈ s.pendingDelete, s.connected l.sessionId = false
  | _ => True

/-- The events of the contracts and the timer, which are neither a user's nor a session's. -/
def LeaseEvent.OfContracts : LeaseEvent → Prop
  | .userRequest _ | .createSession .. | .renewSession .. | .deleteSession _ | .connectionLost _ => False
  | _ => True

def acceptedRequests (s : LeaseState) : LeaseEvent → List Nat
  | .userRequest r => if s.wellFormed r then [s.requests] else []
  | _ => []

namespace LeaseState

variable {s s' : LeaseState}

theorem connected_insert (id : UInt32) (session : LeaseSession) (x : UInt32) :
    connected { s with sessions := s.sessions.insert id session } x =
      if x = id then session.connected else s.connected x := by
  unfold connected
  by_cases heq : x = id
  · subst heq
    simp
  · simp [AList.lookup_insert_ne heq, heq]

variable {e : LeaseEvent} {subs : List (PublishKey × UInt32)} {endpoints : ContractEndpoints} {serviceType : UInt8}

theorem Settles.apply (hstep : e.apply s = some s') (h : e.OfContracts) : Settles s s' := by
  have hself := Settles.refl s
  cases e with
  | firstContract id =>
    cases hstep
    exact hself.frame rfl rfl rfl rfl
  | unjoin =>
    cases hstep
    have hcleared : Settles s { s with contracts := ∅, smContractID := 0 } := hself.frame rfl rfl rfl rfl
    exact hcleared.deleteActiveLeases _ false
  | checkExpire now =>
    cases hstep
    exact Settles.checkExpireLeases s now
  | userRequest | createSession | renewSession | deleteSession | connectionLost => exact h.elim
  | _ =>
    refine LeaseEvent.forContract_rule (P := fun t => Settles s t) ?_ ?_ ?_ hself hstep trivial
    · exact fun _ id endpoints serviceType stored ht => ht.notifyAddContract id endpoints serviceType stored
    · exact fun _ _ _ ht => ht.frame rfl rfl rfl rfl
    · exact fun _ id ht => ht.dmoDeleteContract id

theorem settled_apply (htracks : s.Tracks subs) (hout : s.out = [])
    (hok : e.Answerable s) (hstep : e.apply s = some s') (n : Nat) :
    s'.settled n = s.waits n + (acceptedRequests s e).count n := by
  have hidle : s.settled n = s.waits n := by
    unfold settled
    rw [hout]
    exact Nat.zero_add _
  have hquiet : ∀ t : LeaseState, t.settled n = s.settled n → t.settled n = s.waits n + ([] : List Nat).count n :=
    fun t ht => ht.trans hidle
  cases e with
  | userRequest r =>
    change s'.settled n = s.waits n + (if s.wellFormed r then [s.requests] else []).count n
    by_cases hlong : validateUserRequest r s = .tooShort
    · have hnot : s.wellFormed r = false := by
        unfold wellFormed
        simp [hlong]
      have hlong' : validateUserRequest r { s with requests := s.requests + 1 } = .tooShort := hlong
      simp only [apply, processUserRequest, hlong'] at hstep
      cases hstep
      rw [hnot]
      exact hidle
    · have haccepts := Accepts.processUserRequest htracks hlong hstep
      have hconnected : s.wellFormed r = s.connected r.sessionId := by
        unfold wellFormed
        simp [hlong]
      have hcount := count_confirmed (s := s) r.sessionId s.requests n []
      rw [hconnected, haccepts.settled n]
      refine (congrArg₂ (· + ·) hidle ?_)
      rw [nil_append, count_nil, Nat.zero_add] at hcount
      exact hcount.symm
  | createSession id session =>
    obtain ⟨-, rfl⟩ := createSession_cases hstep
    apply hquiet
    refine settled_congr (f := fun l => l) (fun _ => ⟨rfl, rfl⟩) ?_ ?_ ?_ (fun l hl => ?_) n
    · exact (map_id' _).symm
    · rfl
    · rfl
    · rw [connected_insert, if_neg (hok l hl)]
  | renewSession id expirationTime =>
    obtain rfl | ⟨session, hsession, -, rfl⟩ := renewSession_cases hstep
    · exact hquiet _ rfl
    · apply hquiet
      refine settled_congr (f := fun l =>
        if l.sessionId = id ∧ expirationTime < l.expirationTime then { l with expirationTime := expirationTime }
        else l) (fun l => ?_) ?_ ?_ ?_ (fun l _ => ?_) n
      · split <;> exact ⟨rfl, rfl⟩
      · rfl
      · rfl
      · rfl
      · refine (connected_insert id _ _).trans ?_
        split
        · rename_i heq
          rw [connected, heq, hsession]
          rfl
        · rfl
  | deleteSession id =>
    cases hstep
    exact hquiet _ (waits_deleteSession hok n)
  | connectionLost id =>
    obtain rfl | ⟨session, hsession, rfl⟩ := connectionLost_cases hstep
    · exact hquiet _ rfl
    · apply hquiet
      refine settled_congr (f := fun l => l) (fun _ => ⟨rfl, rfl⟩) ?_ ?_ ?_ (fun l hl => ?_) n
      · exact (map_id' _).symm
      · rfl
      · rfl
      · rw [connected_insert]
        split
        · rename_i heq
          cases hlive : s.connected id with
          | true => exact absurd heq (hok hlive l hl)
          | false => rw [heq, hlive]
        · rfl
  | _ => exact hquiet _ ((Settles.apply hstep trivial).settled n)

theorem PendingHoused.apply (h : s.PendingHoused) (htracks : s.Tracks subs)
    (hok : e.Answerable s) (hstep : e.apply s = some s') : s'.PendingHoused := by
  cases e with
  | userRequest r => exact h.processUserRequest htracks hstep
  | firstContract id =>
    cases hstep
    intro l hl hlive
    have hlost : s.connected l.sessionId = false := hok l hl
    exact absurd (hlost.symm.trans hlive) Bool.false_ne_true
  | unjoin =>
    cases hstep
    have hempty : PendingHoused { s with contracts := ∅, smContractID := 0 } := by
      intro l hl hlive
      have hlost : s.connected l.sessionId = false := hok l hl
      exact absurd (hlost.symm.trans hlive) Bool.false_ne_true
    exact hempty.deleteActiveLeases _ _ _
  | createSession id session =>
    obtain ⟨-, rfl⟩ := createSession_cases hstep
    refine h.mono (Subset.refl _) (fun l hl hlive => ?_) fun _ hknown => hknown
    rwa [connected_insert, if_neg (hok l (mem_append_right _ hl))] at hlive
  | renewSession id expirationTime =>
    obtain rfl | ⟨session, hsession, -, rfl⟩ := renewSession_cases hstep
    · exact h
    · refine h.mono (Subset.refl _) (fun l _ hlive => ?_) fun _ hknown => hknown
      have hlive := (connected_insert (s := s) id _ l.sessionId).symm.trans hlive
      split at hlive
      · rename_i heq
        rw [connected, heq, hsession]
        exact hlive
      · exact hlive
  | deleteSession id =>
    cases hstep
    refine (h.processSessionDelete id).mono (Subset.refl _) (fun l _ hlive => ?_) fun _ hknown => hknown
    unfold connected at hlive ⊢
    by_cases heq : l.sessionId = id
    · rw [heq, AList.lookup_erase] at hlive
      cases hlive
    · rwa [AList.lookup_erase_ne heq] at hlive
  | connectionLost id =>
    obtain rfl | ⟨_, -, rfl⟩ := connectionLost_cases hstep
    · exact h
    · refine h.mono (Subset.refl _) (fun l _ hlive => ?_) fun _ hknown => hknown
      rw [connected_insert] at hlive
      split at hlive
      · cases hlive
      · exact hlive
  | checkExpire now =>
    cases hstep
    exact h.checkExpireLeases now
  | _ =>
    refine LeaseEvent.forContract_rule (P := fun t => t.PendingHoused) ?_ ?_ ?_ h hstep trivial
    · exact fun _ id endpoints serviceType stored ht => ht.notifyAddContract id endpoints serviceType stored
    · exact fun _ _ _ ht => ht.mono (Subset.refl _) (fun _ _ hlive => hlive) fun _ => usageCount_insert_ne_none _ _
    · exact fun _ id ht => ht.dmoDeleteContract id

theorem requests_apply (htracks : s.Tracks subs)
    (hstep : e.apply s = some s') : s.requests ≤ s'.requests ∧ (acceptedRequests s e).Nodup ∧
      ∀ n ∈ acceptedRequests s e, s.requests ≤ n ∧ n < s'.requests := by
  have hquiet : ∀ t : LeaseState, t.constants = s.constants → s.requests ≤ t.requests ∧ ([] : List Nat).Nodup ∧
      ∀ n ∈ ([] : List Nat), s.requests ≤ n ∧ n < t.requests := by
    intro t ht
    have hsame : t.requests = s.requests := congrArg Prod.snd ht
    exact ⟨hsame.ge, nodup_nil, fun n hn => absurd hn not_mem_nil⟩
  cases e with
  | userRequest r =>
    have hnext : s'.requests = s.requests + 1 := by
      by_cases hlong : validateUserRequest r s = .tooShort
      · have hlong' : validateUserRequest r { s with requests := s.requests + 1 } = .tooShort := hlong
        simp only [apply, processUserRequest, hlong'] at hstep
        cases hstep
        rfl
      · exact congrArg Prod.snd (Accepts.processUserRequest htracks hlong hstep).constants
    refine ⟨by omega, ?_, fun n hn => ?_⟩
    · simp only [acceptedRequests]
      split
      · exact nodup_singleton _
      · exact nodup_nil
    · simp only [acceptedRequests] at hn
      split at hn
      · obtain rfl := mem_singleton.mp hn
        omega
      · cases hn
  | createSession id session =>
    obtain ⟨-, rfl⟩ := createSession_cases hstep
    exact ⟨le_rfl, nodup_nil, fun n hn => absurd hn not_mem_nil⟩
  | renewSession id expirationTime =>
    obtain rfl | ⟨_, -, -, rfl⟩ := renewSession_cases hstep
    · exact hquiet _ rfl
    · exact ⟨le_rfl, nodup_nil, fun n hn => absurd hn not_mem_nil⟩
  | deleteSession id =>
    cases hstep
    have hsame : (processSessionDelete id s).requests = s.requests :=
      congrArg Prod.snd (processSessionDelete_lists s id).2.1
    exact ⟨hsame.ge, nodup_nil, fun n hn => absurd hn not_mem_nil⟩
  | connectionLost id =>
    obtain rfl | ⟨_, -, rfl⟩ := connectionLost_cases hstep
    · exact hquiet _ rfl
    · exact ⟨le_rfl, nodup_nil, fun n hn => absurd hn not_mem_nil⟩
  | _ => exact hquiet _ (Settles.apply hstep trivial).constants

def FailsAll (s : LeaseState) (endpoints : ContractEndpoints) (serviceType : UInt8) (out : List LeaseEffect) : Prop :=
  ∀ l ∈ s.inProgress, l.awaits endpoints serviceType = true → ∃ status leaseId period, status ≠ leaseSuccess ∧
    .confirm l.sessionId l.transactionId status leaseId period l.request ∈ out

section

variable (hrefused : e.refusedContract s = some (endpoints, serviceType))
include hrefused

theorem refused_silent (hstep : leaseStep s e = some s') : s'.out = [] := by
  cases e with
  | contractFailure endpoints' serviceType' =>
    cases hstep
    rfl
  | contractResponse id endpoints' serviceType' =>
    cases hstep
    simp only [refusedContract] at hrefused
    split at hrefused
    · rename_i hzero
      unfold dmoContractResponse
      split
      · rfl
      · rename_i hroom
        obtain rfl := hzero.resolve_right hroom
        split
        · rfl
        · rfl
    · cases hrefused
  | _ => cases hrefused

theorem failsAll_iff (hstep : leaseStep s e = some s') :
    s.FailsAll endpoints serviceType s'.out ↔ ∀ l ∈ s.inProgress, l.awaits endpoints serviceType = false := by
  rw [refused_silent hrefused hstep]
  constructor
  · intro hfails l hl
    by_contra hawaits
    obtain ⟨_, _, _, _, hmem⟩ := hfails l hl (Bool.eq_true_of_not_eq_false hawaits)
    exact absurd hmem not_mem_nil
  · intro hnone l hl hawaits
    rw [hnone l hl] at hawaits
    cases hawaits

theorem refused_unawaited (hok : e.Answerable s) : ∀ l ∈ s.inProgress, l.awaits endpoints serviceType = false := by
  cases e with
  | contractFailure endpoints' serviceType' =>
    cases hrefused
    exact hok
  | contractResponse id endpoints' serviceType' =>
    simp only [refusedContract] at hrefused
    split at hrefused
    · rename_i hzero
      cases hrefused
      exact hok hzero
    · cases hrefused
  | _ => cases hrefused

end

theorem checkExpire_waiting {now : Int32} (hstep : leaseStep s (.checkExpire now) = some s') :
    ∀ l ∈ s'.inProgress, l.overdue now = false := by
  cases hstep
  intro l hl
  unfold checkExpireLeases at hl
  rw [sweepInProgress_inProgress] at hl
  simpa using (mem_filter.mp hl).2

theorem PendingHoused.deleteContract (h : s.PendingHoused) {id : UInt16}
    (hstep : leaseStep s (.deleteContract id) = some s') :
    ∀ l ∈ s'.pendingDelete, l.contractId = id → s'.connected l.sessionId = false := by
  cases hstep
  intro l hl heq
  by_cases hlookup : s.contracts.lookup id = none
  · by_contra hlive
    have hsame : Isa100Gateway.dmoDeleteContract id { s with out := [] } = { s with out := [] } := by
      unfold Isa100Gateway.dmoDeleteContract
      rw [hlookup]
    rw [hsame] at hl hlive
    refine h l hl (Bool.eq_true_of_not_eq_false hlive) ?_
    rw [heq, LeaseContracts.usageCount, hlookup]
    rfl
  · have herased := Erased.dmoDeleteContract (s := { s with out := [] }) hlookup
    rw [herased.pending] at hl
    have hother := (mem_filter.mp hl).2
    simp [heq] at hother

end LeaseState

def leaseBookStep : Ledger.Book LeaseState → LeaseEvent → Option (Ledger.Book LeaseState) :=
  Ledger.step leaseStep acceptedRequests fun _ _ s' => confirmedRequests s'.out

theorem pendingHoused_start (smAddress : Addr128) : (start smAddress).PendingHoused :=
  fun _ hl => absurd hl not_mem_nil

/-- Every well-formed request is confirmed exactly once or still waits, a waiting create at most until the sweep finds it overdue, and a waiting delete for the end of a contract that exists. When a contract is refused, the creates that wait for it are all failed if and only if there are none. -/
theorem lease_requests_confirmed {smAddress : Addr128} {b : Ledger.Book LeaseState}
    (h : Machine.Reaches (Ledger.Book.start (start smAddress)) leaseBookStep
      (fun b e => e.Answerable b.state) b) :
    (∀ n, b.answered.count n + b.state.waits n = if n ∈ b.accepted then 1 else 0) ∧
      (∀ l ∈ b.state.pendingDelete, b.state.connected l.sessionId = true →
        b.state.contracts.usageCount l.contractId ≠ none) ∧
      ∀ e s', leaseStep b.state e = some s' →
        (∀ now, e = .checkExpire now → ∀ l ∈ s'.inProgress, l.overdue now = false) ∧
        (∀ id, e = .deleteContract id → ∀ l ∈ s'.pendingDelete, l.contractId = id →
          s'.connected l.sessionId = false) ∧
        ∀ endpoints serviceType, e.refusedContract b.state = some (endpoints, serviceType) →
          (e.Answerable b.state → b.state.FailsAll endpoints serviceType s'.out) ∧
          (b.state.FailsAll endpoints serviceType s'.out ↔
            ∀ l ∈ b.state.inProgress, l.awaits endpoints serviceType = false) := by
  have hP : ∀ s e s', s.Listed ∧ s.PendingHoused → e.Answerable s → leaseStep s e = some s' →
      s'.Listed ∧ s'.PendingHoused := by
    rintro s e s' ⟨hlisted, hhoused⟩ hok hnext
    have hcleared : PendingHoused { s with out := [] } := hhoused
    have hok' : e.Answerable { s with out := [] } := by cases e <;> exact hok
    exact ⟨(hlisted.step hnext).1, hcleared.apply hlisted hok' hnext⟩
  have hinit : (start smAddress).Listed ∧ (start smAddress).PendingHoused :=
    ⟨listed_start smAddress, pendingHoused_start smAddress⟩
  have hhoused : b.state.PendingHoused :=
    ((Ledger.reaches_state h).invariant (P := fun s => s.Listed ∧ s.PendingHoused) hinit hP).2
  refine ⟨fun n => ?_, hhoused, fun e s' hnext => ⟨?_, ?_, ?_⟩⟩
  · refine @Ledger.answered_once _ _ _ _ _ _ _ _ waits requests hinit hP
      (fun n => rfl) ?_ ?_ _ h n
    · intro s e s' hs hok hnext n
      have hok' : e.Answerable { s with out := [] } := by cases e <;> exact hok
      have hsettled := settled_apply hs.1 rfl hok' hnext n
      have hsame : acceptedRequests { s with out := [] } e = acceptedRequests s e := by cases e <;> rfl
      rwa [hsame] at hsettled
    · intro s e s' hs hnext
      have hnumbers := requests_apply hs.1 hnext
      have hsame : acceptedRequests { s with out := [] } e = acceptedRequests s e := by cases e <;> rfl
      rwa [hsame] at hnumbers
  · rintro now rfl
    exact checkExpire_waiting hnext
  · rintro id rfl
    exact hhoused.deleteContract hnext
  · intro endpoints serviceType hrefused
    have hiff := failsAll_iff hrefused hnext
    exact ⟨fun hok => hiff.mpr (refused_unawaited hrefused hok), hiff⟩

instance (s : LeaseState) : ∀ e : LeaseEvent, Decidable (e.Answerable s)
  | .contractFailure .. => inferInstanceAs (Decidable (∀ _ ∈ _, _))
  | .contractResponse .. => inferInstanceAs (Decidable (_ → _))
  | .createSession .. => inferInstanceAs (Decidable (∀ _ ∈ _, _))
  | .deleteSession _ | .connectionLost _ => inferInstanceAs (Decidable (_ → _))
  | .firstContract _ | .unjoin => inferInstanceAs (Decidable (∀ _ ∈ _, _))
  | .userRequest _ | .requestExisting .. | .setContract .. | .deleteContract _ | .renewSession .. | .checkExpire _ =>
    isTrue trivial

def sampleWaiting : List LeaseEvent :=
  [.createSession 1 ⟨0, false, true⟩, .userRequest (sampleClient 4096 2)]

theorem lease_requests_confirmed_sample : ∃ b : Ledger.Book LeaseState, ∃ s',
    b.accepted = [0, 1] ∧ b.answered.count 0 = 1 ∧ b.state.waits 1 = 1 ∧
      leaseStep b.state (.deleteContract 7) = some s' ∧ s'.connected 1 = true ∧
      ∀ l ∈ s'.pendingDelete, l.contractId = 7 → l.sessionId ≠ 1 := by
  obtain ⟨b, hrun, haccepted, hdone, hwaits, s', hstep, hlive⟩ :
      ∃ b ∈ Machine.runs leaseBookStep (Ledger.Book.start (start sampleDevice)) sampleDying,
        b.accepted = [0, 1] ∧ b.state.waits 0 = 0 ∧ b.answered = [0] ∧
        ∃ s' ∈ leaseStep b.state (.deleteContract 7), s'.connected 1 = true := by
    decide
  obtain ⟨honce, -, hnext⟩ := lease_requests_confirmed (Machine.reaches_runs (by decide) hrun)
  obtain ⟨-, hended, -⟩ := hnext (.deleteContract 7) s' hstep
  have hcreate := honce 0
  rw [haccepted, hdone] at hcreate
  have hdelete := honce 1
  rw [haccepted, hwaits] at hdelete
  refine ⟨b, s', haccepted, hcreate, by simpa using hdelete, hstep, hlive, fun l hl heq hsession => ?_⟩
  have hlost := hended 7 rfl l hl heq
  rw [hsession, hlive] at hlost
  cases hlost

/-- The system manager refuses the contract of the create, which stays unanswered. -/
theorem refused_create_unanswered : ∃ s s', Machine.Reaches (start sampleDevice) leaseStep (fun _ _ => True) s ∧
      refusedContract s (.contractFailure (sampleEndpoints 2) srvcAperiodicComm) =
        some (sampleEndpoints 2, srvcAperiodicComm) ∧
      leaseStep s (.contractFailure (sampleEndpoints 2) srvcAperiodicComm) = some s' ∧
      s'.inProgress = s.inProgress ∧ s'.waits 0 = 1 ∧
      ¬ s.FailsAll (sampleEndpoints 2) srvcAperiodicComm s'.out := by
  obtain ⟨s, hrun, ⟨l, hl, hawaits⟩, s', hstep, hsame, hwaits, hout⟩ :
      ∃ s ∈ Machine.runs leaseStep (start sampleDevice) sampleWaiting,
        (∃ l ∈ s.inProgress, l.awaits (sampleEndpoints 2) srvcAperiodicComm = true) ∧
        ∃ s' ∈ leaseStep s (.contractFailure (sampleEndpoints 2) srvcAperiodicComm),
          s'.inProgress = s.inProgress ∧ s'.waits 0 = 1 ∧ s'.out = [] := by
    decide
  refine ⟨s, s', Machine.reaches_runs (by decide) hrun, rfl, hstep, hsame, hwaits, fun hfails => ?_⟩
  rw [hout] at hfails
  obtain ⟨_, _, _, _, hmem⟩ := hfails l hl hawaits
  exact absurd hmem not_mem_nil

end Isa100Gateway
