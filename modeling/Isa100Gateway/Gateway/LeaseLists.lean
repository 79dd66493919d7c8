import Isa100Gateway.Gateway.PublishLeases
import Isa100Gateway.Lib.Registry

/-!
# The lease lists over a step

Periodic leases are in the subscriber list and all others in the other lists, no two leases share an address, and the leases that enter and leave the subscriber list are those of the `leaseAdd` and `leaseDelete` effects.
-/

namespace Isa100Gateway

open Lease LeaseState List

def Lease.subscription (l : Lease) : PublishKey × UInt32 := (l.publishKey, l.address)

def LeaseState.subscriptions (s : LeaseState) : List (PublishKey × UInt32) :=
  s.subscriber.map subscription

def LeaseEffect.resubscribe (subs : List (PublishKey × UInt32)) : LeaseEffect → Option (List (PublishKey × UInt32))
  | .leaseAdd l =>
    if l.isPeriodic then
      if l.address ∈ subs.map Prod.snd then none else some (subs ++ [l.subscription])
    else some subs
  | .leaseDelete l _ =>
    if l.isPeriodic then
      if l.subscription ∈ subs then some (subs.filter fun e => e.2 ≠ l.address) else none
    else some subs
  | .confirm .. => some subs
  | .requestNewContract _ => some subs
  | .requestContractTermination _ => some subs

def replay : List LeaseEffect → List (PublishKey × UInt32) → Option (List (PublishKey × UInt32))
  | [], subs => some subs
  | e :: es, subs => (e.resubscribe subs).bind (replay es)

theorem replay_append (es es' : List LeaseEffect) (subs : List (PublishKey × UInt32)) :
    replay (es ++ es') subs = (replay es subs).bind (replay es') := by
  induction es generalizing subs with
  | nil => rfl
  | cons e es ih =>
    change (e.resubscribe subs).bind (replay (es ++ es')) = ((e.resubscribe subs).bind (replay es)).bind _
    rw [Option.bind_assoc]
    congr 1
    funext subs'
    exact ih subs'

theorem replay_quiet {es : List LeaseEffect}
    (h : ∀ e ∈ es, ∀ subs, LeaseEffect.resubscribe subs e = some subs) (subs : List (PublishKey × UInt32)) :
    replay es subs = some subs := by
  induction es with
  | nil => rfl
  | cons e es ih =>
    change (e.resubscribe subs).bind (replay es) = some subs
    rw [h e mem_cons_self, Option.bind_some]
    exact ih fun e' he' => h e' (mem_cons_of_mem e he')

def LeaseState.holders (s : LeaseState) (address : UInt32) : Nat :=
  s.leases.countP fun l => l.address = address

/-- The lists after the effects so far, in a step that began with the subscriptions `subs`. -/
structure LeaseState.Tracks (subs : List (PublishKey × UInt32)) (s : LeaseState) : Prop where
  waiting : ∀ l ∈ s.inProgress, l.isPeriodic = false
  active : ∀ l ∈ s.active, l.isPeriodic = false
  periodic : ∀ l ∈ s.subscriber, l.isPeriodic = true
  shortTSAPIDs : ∀ l ∈ s.subscriber, l.tsapid ≤ 15
  distinct : ∀ a, s.holders a ≤ 1
  replayed : replay s.out subs = some s.subscriptions

namespace LeaseState

def creates (s : LeaseState) (r : LeaseRequest) : Option Lease :=
  match validateUserRequest r s with
  | .accepted type =>
    match s.sessionExpTime r.sessionId, r.endpointAddr type with
    | some sessExpTime, .ok addr =>
      if r.data.leaseID ≠ 0 ∨ (0 < r.data.connectionInfoLen ∧
          r.data.connectionInfoLen.toUInt32 + sizeofTLeaseMgmtReqData ≤ r.dataSize) ∨
          (r.data.protocolType ≠ protoNone ∧ !r.isPromiscuousTunnel ∧ !r.tunnel) then none
      else some (r.newLease type sessExpTime addr s.requests)
    | _, _ => none
  | _ => none

def counted (s : LeaseState) : LeaseState := { s with requests := s.requests + 1 }

variable {s s' : LeaseState} {r : LeaseRequest} {l : Lease} {type : LeaseType}

theorem validateUserRequest_tsapid (h : validateUserRequest r s = .accepted type) : r.data.endpointTSAPID ≤ 15 := by
  by_contra hgt
  unfold validateUserRequest at h
  dsimp only at h
  rw [if_pos (UInt16.not_le.mp hgt : r.data.endpointTSAPID > 15)] at h
  split_ifs at h

theorem findLease_session {id session : UInt32} (hsession : session ≠ 0) (h : s.findLease id session = some l) :
    l.sessionId = session := by
  unfold findLease at h
  have hfilter := (Option.filter_eq_some_iff.mp h).2
  exact (of_decide_eq_true hfilter).resolve_left hsession

theorem validateUserRequest_session (h : validateUserRequest r s = .accepted type) : r.sessionId ≠ 0 := by
  intro hzero
  have hnone : s.sessionExpTime r.sessionId = none := if_pos hzero
  unfold validateUserRequest at h
  dsimp only at h
  rw [if_pos hnone] at h
  split_ifs at h

theorem creates_cases (h : s.creates r = some l) : ∃ type sessExpTime addr, validateUserRequest r s = .accepted type ∧
    s.sessionExpTime r.sessionId = some sessExpTime ∧ l = r.newLease type sessExpTime addr s.requests := by
  unfold creates at h
  split at h
  · rename_i type haccepted
    split at h
    · rename_i sessExpTime addr hsession _
      split at h
      · cases h
      · exact ⟨type, sessExpTime, addr, haccepted, hsession, (Option.some.inj h).symm⟩
    · cases h
  · cases h

theorem createLease_cases (haccepted : validateUserRequest r s = .accepted type)
    (hnew : r.data.leaseID = 0) (hstep : createLease r type s.requests s.counted = some s') :
    (∃ status, s' = s.counted.refuse r status s.requests) ∨
      ∃ l, s.creates r = some l ∧ (∀ m ∈ s.leases, m.address ≠ l.address) ∧ s' = s.counted.establish r l := by
  unfold createLease at hstep
  unfold creates
  rw [haccepted]
  dsimp only at hstep ⊢
  split at hstep
  · cases hstep
  · rename_i hfree
    have hexp : s.counted.sessionExpTime r.sessionId = s.sessionExpTime r.sessionId := rfl
    rw [hexp] at hstep
    split at hstep
    · exact Or.inl ⟨_, (Option.some.inj hstep).symm⟩
    · rename_i sessExpTime hsession
      rw [hsession]
      split at hstep
      · exact Or.inl ⟨_, (Option.some.inj hstep).symm⟩
      · rename_i addr haddr
        rw [haddr]
        split at hstep
        · exact Or.inl ⟨_, (Option.some.inj hstep).symm⟩
        · rename_i hinfo
          split at hstep
          · exact Or.inl ⟨_, (Option.some.inj hstep).symm⟩
          · rename_i htunnel
            refine Or.inr ⟨_, if_neg ?_, fun m hm heq => ?_, (Option.some.inj hstep).symm⟩
            · rintro (hold | hinvalid | hinvalid)
              · exact hold hnew
              · exact hinfo hinvalid
              · exact htunnel hinvalid
            · exact hfree (any_eq_true.mpr ⟨m, hm, decide_eq_true heq⟩)

inductive Served (s : LeaseState) (r : LeaseRequest) : LeaseState → Prop
  | tooShort (h : validateUserRequest r s = .tooShort) : Served s r s.counted
  | confirmed (status : UInt8) (leaseId : UInt32) : Served s r
      (s.counted.leaseConfirm r.sessionId r.transactionId status leaseId r.data.leasePeriod s.requests)
  | created {l : Lease} (h : s.creates r = some l) (hfree : ∀ m ∈ s.leases, m.address ≠ l.address) :
    Served s r (s.counted.establish r l)
  | deleted {l : Lease} {s' : LeaseState} (hsession : l.sessionId = r.sessionId)
      (h : deleteLease r l s.requests s.counted = some s') : Served s r s'
  | renewed {l : Lease} {status : UInt8} {expirationTime : Int32}
      (h : s.findLease r.data.leaseID r.sessionId = some l)
      (hrenewal : (r.renewal l (s.sessionExpTime l.sessionId)).2 = some expirationTime) : Served s r
      ((s.counted.updateLease l.address ({ · with expirationTime := expirationTime })).leaseConfirm
        r.sessionId r.transactionId status r.data.leaseID r.data.leasePeriod s.requests)

theorem processUserRequest_served (hstep : processUserRequest r s = some s') : s.Served r s' := by
  unfold processUserRequest at hstep
  dsimp only at hstep
  split at hstep
  · rename_i hshort
    cases hstep
    exact .tooShort hshort
  · cases hstep
    exact .confirmed _ _
  · rename_i type haccepted
    have haccepted : validateUserRequest r s = .accepted type := haccepted
    split at hstep
    · rename_i hnew
      obtain ⟨status, rfl⟩ | ⟨l, hcreates, hfree, rfl⟩ := createLease_cases haccepted hnew hstep
      · exact .confirmed _ _
      · exact .created hcreates hfree
    · split at hstep
      · cases hstep
        exact .confirmed _ _
      · rename_i l hfound
        split at hstep
        · exact .deleted (findLease_session (validateUserRequest_session haccepted) hfound) hstep
        · cases hstep
          split
          · rename_i expirationTime hrenewal
            exact .renewed hfound hrenewal
          · exact .confirmed _ _

end LeaseState

section Steps

variable {subs : List (PublishKey × UInt32)} {s : LeaseState} {l : Lease}

theorem holders_eq (s : LeaseState) (a : UInt32) : s.holders a =
    s.inProgress.countP (fun l => l.address = a) + s.active.countP (fun l => l.address = a) +
      s.subscriber.countP (fun l => l.address = a) + s.pendingDelete.countP (fun l => l.address = a) := by
  unfold holders leases
  rw [countP_append, countP_append, countP_append]

variable {s' : LeaseState} {pre post : List Lease} {m : Lease} {r : LeaseRequest} {request : Nat}

theorem LeaseState.Tracks.frame (h : s.Tracks subs) (hwaiting : s'.inProgress = s.inProgress)
    (hactive : s'.active = s.active) (hsubscriber : s'.subscriber = s.subscriber)
    (hpending : s'.pendingDelete = s.pendingDelete) (hout : s'.out = s.out) : s'.Tracks subs := by
  refine ⟨hwaiting ▸ h.waiting, hactive ▸ h.active, hsubscriber ▸ h.periodic, hsubscriber ▸ h.shortTSAPIDs, ?_, ?_⟩
  · intro a
    rw [holders_eq, hwaiting, hactive, hsubscriber, hpending, ← holders_eq]
    exact h.distinct a
  · unfold subscriptions
    rw [hsubscriber, hout]
    exact h.replayed

theorem LeaseState.Tracks.leaseConfirm (h : s.Tracks subs) (session transaction : UInt32) (status : UInt8)
    (leaseId period : UInt32) (request : Nat) :
    (s.leaseConfirm session transaction status leaseId period request).Tracks subs := by
  refine ⟨h.waiting, h.active, h.periodic, h.shortTSAPIDs, h.distinct, ?_⟩
  change replay (s.out ++ _) subs = some s.subscriptions
  rw [replay_append, h.replayed, Option.bind_some]
  split <;> rfl

theorem LeaseState.Tracks.grant (h : s.Tracks subs) (l : Lease) : (s.grant l).Tracks subs :=
  h.leaseConfirm _ _ _ _ _ _

theorem countP_apart (p : Lease → Bool) (pre post : List Lease) (l : Lease) :
    (pre ++ l :: post).countP p = (pre ++ post).countP p + if p l then 1 else 0 := by
  rw [countP_append, countP_cons, countP_append, Nat.add_assoc]

theorem countP_middle (pre post : List Lease) (l : Lease) (a : UInt32) :
    (pre ++ l :: post).countP (fun l => l.address = a) =
      (pre ++ post).countP (fun l => l.address = a) + if l.address = a then 1 else 0 := by
  rw [countP_apart]
  simp only [decide_eq_true_eq]

theorem filter_others {l : Lease} (h : (pre ++ l :: post).countP (fun m => m.address = l.address) ≤ 1) :
    (pre ++ l :: post).filter (fun m => m.address ≠ l.address) = pre ++ post := by
  rw [countP_middle, if_pos rfl] at h
  have hothers : ∀ m ∈ pre ++ post, m.address ≠ l.address := by
    intro m hm haddr
    have hpos : 0 < (pre ++ post).countP fun m => m.address = l.address :=
      countP_pos_iff.mpr ⟨m, hm, decide_eq_true haddr⟩
    omega
  have hkept : (pre ++ post).filter (fun m => m.address ≠ l.address) = pre ++ post :=
    filter_eq_self.mpr fun m hm => decide_eq_true (hothers m hm)
  rw [filter_append, filter_cons, if_neg (by simp), ← filter_append, hkept]

theorem mem_of_rest (h : m ∈ pre ++ post) : m ∈ pre ++ l :: post := by
  rw [mem_append] at h
  exact Machine.mem_of_unvisited h

theorem mem_middle (pre post : List Lease) (l : Lease) : l ∈ pre ++ l :: post :=
  mem_append_right _ mem_cons_self

theorem LeaseState.Tracks.deleteActive
    (h : Tracks subs { s with active := pre ++ l :: post }) (deleteContract waits : Bool) :
    Tracks subs
      { (deleteActiveLease deleteContract waits s l).1 with active := pre ++ post } := by
  have hl : l.isPeriodic = false := h.active l (mem_middle pre post l)
  refine ⟨h.waiting, fun m hm => h.active m (mem_of_rest hm), h.periodic, h.shortTSAPIDs, ?_, ?_⟩
  · intro a
    have hcount := h.distinct a
    rw [holders_eq] at hcount ⊢
    simp only [countP_middle] at hcount
    -- the lease moves to the pending list at most
    have hpending : (deleteActiveLease deleteContract waits s l).1.pendingDelete.countP
          (fun l => l.address = a) ≤
        s.pendingDelete.countP (fun l => l.address = a) + if l.address = a then 1 else 0 := by
      simp only [deleteActiveLease]
      split
      · rw [countP_append, countP_singleton]
        simp
      · exact Nat.le_add_right _ _
    simp only [deleteActiveLease] at hpending ⊢
    omega
  · change replay (s.out ++ _ :: _) subs = some s.subscriptions
    have hreplayed : replay s.out subs = some s.subscriptions := h.replayed
    rw [replay_append, hreplayed, Option.bind_some]
    apply replay_quiet
    intro e he subs'
    rcases mem_cons.mp he with rfl | he
    · exact if_neg (by simp [hl])
    · split at he
      · obtain rfl := mem_singleton.mp he
        rfl
      · cases he

theorem LeaseState.Tracks.deleteSubscriber (h : Tracks subs { s with subscriber := pre ++ l :: post }) :
    Tracks subs { deleteActiveSubscriberLease s l with subscriber := pre ++ post } := by
  have hl : l.isPeriodic = true := h.periodic l (mem_middle pre post l)
  refine ⟨h.waiting, h.active, fun m hm => h.periodic m (mem_of_rest hm),
    fun m hm => h.shortTSAPIDs m (mem_of_rest hm), ?_, ?_⟩
  · intro a
    have hcount := h.distinct a
    rw [holders_eq] at hcount ⊢
    simp only [countP_middle] at hcount
    simp only [deleteActiveSubscriberLease]
    omega
  · have hreplayed : replay s.out subs = some ((pre ++ l :: post).map subscription) := h.replayed
    have hmem : l.subscription ∈ (pre ++ l :: post).map subscription :=
      mem_map_of_mem (mem_middle pre post l)
    have hcount := h.distinct l.address
    rw [holders_eq] at hcount
    have hothers : (pre ++ l :: post).countP (fun m => m.address = l.address) ≤ 1 := by
      dsimp only at hcount
      omega
    change replay (s.out ++ [.leaseDelete l (s.contracts.usageCount l.contractId)]) subs =
      some ((pre ++ post).map subscription)
    rw [replay_append, hreplayed, Option.bind_some, replay, LeaseEffect.resubscribe, if_pos hl, if_pos hmem,
      filter_map]
    exact congrArg some (congrArg (map subscription) (filter_others hothers))

theorem LeaseState.Tracks.dropWaiting (h : Tracks subs { s with inProgress := pre ++ l :: post }) :
    Tracks subs { s with inProgress := pre ++ post } := by
  refine ⟨fun m hm => h.waiting m (mem_of_rest hm), h.active, h.periodic, h.shortTSAPIDs, ?_, h.replayed⟩
  intro a
  have hcount := h.distinct a
  rw [holders_eq] at hcount ⊢
  simp only [countP_middle] at hcount ⊢
  omega

theorem LeaseState.Tracks.dropPending (h : Tracks subs { s with pendingDelete := pre ++ l :: post }) :
    Tracks subs { s with pendingDelete := pre ++ post } := by
  refine ⟨h.waiting, h.active, h.periodic, h.shortTSAPIDs, ?_, h.replayed⟩
  intro a
  have hcount := h.distinct a
  rw [holders_eq] at hcount ⊢
  simp only [countP_middle] at hcount ⊢
  omega

theorem LeaseState.Tracks.attach
    (h : Tracks subs { s with inProgress := pre ++ l :: post }) (id : UInt16) (stored : Bool) :
    Tracks subs { attachLease id stored s l with inProgress := pre ++ post } := by
  have hl : l.isPeriodic = false := h.waiting l (mem_middle pre post l)
  let s' : LeaseState := { s with
    inProgress := pre ++ post
    active := s.active ++ [{ l with contractId := id, leaseId := s.newLeaseId }] }
  have hmoved : s'.Tracks subs := by
    refine ⟨fun m hm => h.waiting m (mem_of_rest hm), ?_, h.periodic, h.shortTSAPIDs, ?_, h.replayed⟩
    · intro m hm
      rcases mem_append.mp hm with hm | hm
      · exact h.active m hm
      · rw [mem_singleton.mp hm]
        exact hl
    · intro a
      have hcount := h.distinct a
      rw [holders_eq] at hcount ⊢
      simp only [countP_middle] at hcount
      have hactive : s'.active.countP (fun l => l.address = a) =
          s.active.countP (fun l => l.address = a) + if l.address = a then 1 else 0 := by
        rw [countP_append, countP_singleton]
        simp
      change (pre ++ post).countP _ + s'.active.countP _ + s.subscriber.countP _ + s.pendingDelete.countP _ ≤ 1
      omega
  exact (hmoved.leaseConfirm _ _ _ _ _ _).frame rfl rfl rfl rfl rfl

section

variable (h : s.Tracks subs) (hfree : s.holders l.address = 0)
include h hfree

theorem LeaseState.Tracks.distinct_add (a : UInt32) : s.holders a + (if l.address = a then 1 else 0) ≤ 1 := by
  have hcount := h.distinct a
  by_cases haddr : l.address = a
  · rw [haddr] at hfree
    rw [if_pos haddr]
    omega
  · rw [if_neg haddr]
    exact hcount

theorem LeaseState.Tracks.addActive
    (hl : l.isPeriodic = false) : Tracks subs { s with active := s.active ++ [l] } := by
  refine ⟨h.waiting, ?_, h.periodic, h.shortTSAPIDs, ?_, h.replayed⟩
  · exact forall_mem_append.mpr ⟨h.active, forall_mem_singleton.mpr hl⟩
  · intro a
    have hcount := h.distinct_add hfree a
    rw [holders_eq] at hcount ⊢
    simp only [countP_append, countP_singleton, decide_eq_true_iff] at hcount ⊢
    omega

theorem LeaseState.Tracks.addWaiting
    (hl : l.isPeriodic = false) : Tracks subs { s with inProgress := s.inProgress ++ [l] } := by
  refine ⟨?_, h.active, h.periodic, h.shortTSAPIDs, ?_, h.replayed⟩
  · exact forall_mem_append.mpr ⟨h.waiting, forall_mem_singleton.mpr hl⟩
  · intro a
    have hcount := h.distinct_add hfree a
    rw [holders_eq] at hcount ⊢
    simp only [countP_append, countP_singleton, decide_eq_true_iff] at hcount ⊢
    omega

theorem LeaseState.Tracks.addSubscriber (hl : l.isPeriodic = true) (hshort : l.tsapid ≤ 15) : Tracks subs { s with
      subscriber := s.subscriber ++ [l]
      out := s.out ++ [.leaseAdd l] } := by
  refine ⟨h.waiting, h.active, ?_, ?_, ?_, ?_⟩
  · exact forall_mem_append.mpr ⟨h.periodic, forall_mem_singleton.mpr hl⟩
  · exact forall_mem_append.mpr ⟨h.shortTSAPIDs, forall_mem_singleton.mpr hshort⟩
  · intro a
    have hcount := h.distinct_add hfree a
    rw [holders_eq] at hcount ⊢
    simp only [countP_append, countP_singleton, decide_eq_true_iff] at hcount ⊢
    omega
  · have hreplayed : replay s.out subs = some (s.subscriber.map subscription) := h.replayed
    have hnew : l.address ∉ (s.subscriber.map subscription).map Prod.snd := by
      rw [map_map]
      intro hmem
      obtain ⟨m, hm, haddr⟩ := mem_map.mp hmem
      rw [holders_eq] at hfree
      have hpos : 0 < s.subscriber.countP fun m => m.address = l.address :=
        countP_pos_iff.mpr ⟨m, hm, decide_eq_true haddr⟩
      omega
    change replay (s.out ++ [.leaseAdd l]) subs = some ((s.subscriber ++ [l]).map subscription)
    rw [replay_append, hreplayed, Option.bind_some, replay, LeaseEffect.resubscribe, if_pos hl, if_neg hnew,
      map_append]
    rfl

end

def Lease.listing (l : Lease) : UInt32 × LeaseType × Addr128 × UInt16 :=
  (l.address, l.leaseType, l.netAddr, l.tsapid)

theorem isPeriodic_of_listing (h : m.listing = l.listing) : m.isPeriodic = l.isPeriodic := by
  have htype : m.leaseType = l.leaseType := congrArg (fun x => x.2.1) h
  rw [isPeriodic, isPeriodic, htype]

theorem subscription_of_listing (h : m.listing = l.listing) : m.subscription = l.subscription := by
  have haddress : m.address = l.address := congrArg Prod.fst h
  have hnet : m.netAddr = l.netAddr := congrArg (fun x => x.2.2.1) h
  have htsapid : m.tsapid = l.tsapid := congrArg (fun x => x.2.2.2) h
  simp only [subscription, publishKey, shortTSAPID, haddress, hnet, htsapid]

theorem countP_address_map {f : Lease → Lease} (hf : ∀ l, (f l).listing = l.listing) (ls : List Lease)
    (a : UInt32) : (ls.map f).countP (fun l => l.address = a) = ls.countP fun l => l.address = a := by
  rw [countP_map]
  apply countP_congr
  intro l _
  have haddress : (f l).address = l.address := congrArg Prod.fst (hf l)
  simp [haddress]

section

variable (h : s.Tracks subs)
include h

theorem LeaseState.Tracks.map {f g : Lease → Lease} (hf : ∀ l, (f l).listing = l.listing)
    (hg : ∀ l, (g l).listing = l.listing) {g' : Lease → Lease} (hg' : ∀ l, (g' l).listing = l.listing) :
    Tracks subs { s with
      inProgress := s.inProgress.map g
      active := s.active.map f
      subscriber := s.subscriber.map f
      pendingDelete := s.pendingDelete.map g' } := by
  refine ⟨?_, ?_, ?_, ?_, ?_, ?_⟩
  · intro m hm
    obtain ⟨l, hl, rfl⟩ := mem_map.mp hm
    rw [isPeriodic_of_listing (hg l)]
    exact h.waiting l hl
  · intro m hm
    obtain ⟨l, hl, rfl⟩ := mem_map.mp hm
    rw [isPeriodic_of_listing (hf l)]
    exact h.active l hl
  · intro m hm
    obtain ⟨l, hl, rfl⟩ := mem_map.mp hm
    rw [isPeriodic_of_listing (hf l)]
    exact h.periodic l hl
  · intro m hm
    obtain ⟨l, hl, rfl⟩ := mem_map.mp hm
    have htsapid : (f l).tsapid = l.tsapid := congrArg (fun x => x.2.2.2) (hf l)
    rw [htsapid]
    exact h.shortTSAPIDs l hl
  · intro a
    have hcount := h.distinct a
    rw [holders_eq] at hcount ⊢
    simp only [countP_address_map hf, countP_address_map hg, countP_address_map hg'] at hcount ⊢
    exact hcount
  · refine h.replayed.trans (congrArg some ?_)
    change s.subscriber.map subscription = (s.subscriber.map f).map subscription
    rw [map_map]
    apply map_congr_left
    intro l _
    exact (subscription_of_listing (hf l)).symm

/-! ## Operations -/

theorem LeaseState.Tracks.deleteActiveLeases (p : Lease → Bool)
    (deleteContract waits : Bool) : (deleteActiveLeases p deleteContract waits s).Tracks subs :=
  sweepActive_rule (fun _ _ _ _ _ h => h.deleteActive deleteContract waits) h

theorem LeaseState.Tracks.sweepSubscriber (p : Lease → Bool) :
    (s.sweepSubscriber p deleteActiveSubscriberLease).Tracks subs :=
  sweepSubscriber_rule (fun _ _ _ _ _ h => h.deleteSubscriber) h

theorem LeaseState.Tracks.contractCreated (id : UInt16) (endpoints : ContractEndpoints)
    (serviceType : UInt8) (stored : Bool) : (contractCreated id endpoints serviceType stored s).Tracks subs :=
  sweepInProgress_rule (fun _ _ _ _ _ h => h.attach id stored) h

theorem LeaseState.Tracks.contractDeleted (id : UInt16) : (contractDeleted id s).Tracks subs := by
  refine sweepPendingDelete_rule ?_ (h.deleteActiveLeases _ false false)
  intro s pre l post _ h
  exact (h.dropPending.leaseConfirm _ _ _ _ _ _).frame rfl rfl rfl rfl rfl

theorem LeaseState.Tracks.notifyAddContract (id : UInt16)
    (endpoints : ContractEndpoints) (serviceType : UInt8) (stored : Bool) :
    (notifyAddContract id endpoints serviceType stored s).Tracks subs := by
  unfold Isa100Gateway.notifyAddContract
  split
  · exact h
  · refine Tracks.contractCreated ?_ id endpoints serviceType stored
    split
    · exact h.frame rfl rfl rfl rfl rfl
    · exact h

theorem LeaseState.Tracks.notifyContractDeletion (id : UInt16) : (notifyContractDeletion id s).Tracks subs := by
  refine Tracks.contractDeleted ?_ id
  split
  · exact h.frame rfl rfl rfl rfl rfl
  · exact h

theorem LeaseState.Tracks.checkExpireLeases (now : Int32) : (checkExpireLeases now s).Tracks subs := by
  refine sweepInProgress_rule ?_
    ((h.deleteActiveLeases (expired now) true false).sweepSubscriber (expired now))
  intro s pre l post _ h
  exact (h.dropWaiting.leaseConfirm _ _ _ _ _ _).frame rfl rfl rfl rfl rfl

theorem LeaseState.Tracks.processSessionDelete (session : UInt32) : (processSessionDelete session s).Tracks subs := by
  refine sweepInProgress_rule ?_
    ((h.deleteActiveLeases _ true true).sweepSubscriber _)
  intro s pre l post _ h
  exact h.dropWaiting

theorem LeaseState.Tracks.processSessionUpdate (session : UInt32)
    (expirationTime : Int32) : (processSessionUpdate session expirationTime s).Tracks subs := by
  have hupdate : ∀ l : Lease, listing (if l.sessionId = session ∧ expirationTime < l.expirationTime then
      { l with expirationTime := expirationTime } else l) = l.listing := by
    intro l
    split <;> rfl
  have hmap := h.map hupdate hupdate fun l => (rfl : (id l).listing = l.listing)
  exact hmap.frame rfl rfl rfl (map_id _).symm rfl

theorem LeaseState.Tracks.updateLease (address : UInt32) {f : Lease → Lease}
    (hf : ∀ l, (f l).listing = l.listing) : (s.updateLease address f).Tracks subs := by
  have hupdate : ∀ l : Lease, listing (if l.address = address then f l else l) = l.listing := by
    intro l
    split
    · exact hf l
    · rfl
  have hkeep : ∀ l : Lease, (id l).listing = l.listing := fun _ => rfl
  have hmap := h.map hupdate hkeep hkeep
  exact hmap.frame (map_id _).symm rfl rfl (map_id _).symm rfl

theorem LeaseState.Tracks.establish (r : LeaseRequest)
    (hfree : s.holders l.address = 0) (hshort : l.tsapid ≤ 15) : (s.establish r l).Tracks subs := by
  unfold LeaseState.establish
  split
  · rename_i htype
    have hl : l.isPeriodic = false := by
      rcases htype with htype | htype <;> simp [isPeriodic, htype]
    have hadd := h.addActive (l := { l with leaseId := s.newLeaseId }) hfree hl
    apply Tracks.grant
    exact hadd.frame rfl rfl rfl rfl rfl
  split
  · rename_i hperiodic
    have hadd := h.addSubscriber (l := { l with leaseId := s.newLeaseId }) hfree hperiodic hshort
    apply Tracks.grant
    exact hadd.frame rfl rfl rfl rfl rfl
  · rename_i hperiodic
    have hl : l.isPeriodic = false := Bool.eq_false_of_not_eq_true hperiodic
    split
    · rename_i id _
      split
      · exact h.leaseConfirm _ _ _ _ _ _
      · have hadd := h.addActive (l := { l with leaseId := s.newLeaseId, contractId := id }) hfree hl
        apply Tracks.grant
        exact hadd.frame rfl rfl rfl rfl rfl
    · have hadd := h.addWaiting hfree hl
      refine ⟨hadd.waiting, hadd.active, hadd.periodic, hadd.shortTSAPIDs, hadd.distinct, ?_⟩
      change replay (s.out ++ [_]) subs = some s.subscriptions
      rw [replay_append, h.replayed]
      rfl

theorem LeaseState.Tracks.countP_active_le (a : UInt32) : s.active.countP (fun m => m.address = a) ≤ 1 := by
  have hcount := h.distinct a
  rw [holders_eq] at hcount
  omega

theorem LeaseState.Tracks.countP_subscriber_le (a : UInt32) : s.subscriber.countP (fun m => m.address = a) ≤ 1 := by
  have hcount := h.distinct a
  rw [holders_eq] at hcount
  omega

end

def LeaseRequest.renumber (r : LeaseRequest) (l : Lease) (request : Nat) (m : Lease) : Lease :=
  if m.address = l.address then { m with transactionId := r.transactionId, request := request } else m

section

variable (h : s.Tracks subs)
include h

/-- What an explicit delete does: a periodic lease goes at once, another one too or when the contract is gone. -/
theorem deleteLease_cases (hstep : deleteLease r l request s = some s') :
    (∃ pre post, s.subscriber = pre ++ l :: post ∧
      s' = leaseConfirm { deleteActiveSubscriberLease s l with subscriber := pre ++ post }
        r.sessionId r.transactionId leaseSuccess r.data.leaseID r.data.leasePeriod request) ∨
    ∃ pre post, s.active = pre ++ l :: post ∧ ((deleteActiveLease true true s l).2 = true ∧
          s' = { (deleteActiveLease true true s l).1 with
            active := pre ++ post
            pendingDelete := (deleteActiveLease true true s l).1.pendingDelete.map (r.renumber l request) } ∨
        (deleteActiveLease true true s l).2 = false ∧
          s' = leaseConfirm { (deleteActiveLease true true s l).1 with active := pre ++ post }
            r.sessionId r.transactionId leaseSuccess r.data.leaseID r.data.leasePeriod request) := by
  unfold Isa100Gateway.deleteLease at hstep
  dsimp only at hstep
  split at hstep
  · split at hstep
    · rename_i hmem
      cases hstep
      obtain ⟨pre, post, hsplit⟩ := append_of_mem hmem
      have hcount := h.countP_subscriber_le l.address
      rw [hsplit] at hcount
      refine .inl ⟨pre, post, hsplit, ?_⟩
      rw [hsplit, filter_others hcount]
    · cases hstep
  · split at hstep
    · rename_i hmem
      obtain ⟨pre, post, hsplit⟩ := append_of_mem hmem
      have hcount := h.countP_active_le l.address
      rw [hsplit] at hcount
      rw [hsplit, filter_others hcount] at hstep
      refine .inr ⟨pre, post, hsplit, ?_⟩
      split at hstep
      · next hwaits =>
        split at hstep
        · exact .inl ⟨hwaits, (Option.some.inj hstep).symm⟩
        · cases hstep
      · next hwaits => exact .inr ⟨Bool.not_eq_true _ ▸ hwaits, (Option.some.inj hstep).symm⟩
    · cases hstep

theorem LeaseState.Tracks.deleteLease (hstep : deleteLease r l request s = some s') : s'.Tracks subs := by
  obtain ⟨pre, post, hsplit, rfl⟩ | ⟨pre, post, hsplit, hends⟩ := deleteLease_cases h hstep
  · apply Tracks.leaseConfirm
    exact Tracks.deleteSubscriber (h.frame rfl rfl hsplit.symm rfl rfl)
  · have hfocused : Tracks subs { s with active := pre ++ l :: post } :=
      h.frame rfl hsplit.symm rfl rfl rfl
    have hdeleted := hfocused.deleteActive true true
    obtain ⟨-, rfl⟩ | ⟨-, rfl⟩ := hends
    · have hrenumber : ∀ m : Lease, (r.renumber l request m).listing = m.listing := by
        intro m
        unfold LeaseRequest.renumber
        split <;> rfl
      have hmap := hdeleted.map (f := id) (fun _ => rfl) (g := id) (fun _ => rfl) hrenumber
      exact hmap.frame (map_id _).symm (map_id _).symm (map_id _).symm rfl rfl
    · exact hdeleted.leaseConfirm _ _ _ _ _ _

theorem LeaseState.Tracks.processUserRequest (hstep : processUserRequest r s = some s') : s'.Tracks subs := by
  have hcounted : s.counted.Tracks subs := h.frame rfl rfl rfl rfl rfl
  cases processUserRequest_served hstep with
  | tooShort => exact hcounted
  | confirmed => exact hcounted.leaseConfirm _ _ _ _ _ _
  | created hcreates hfree =>
    obtain ⟨_, _, _, haccepted, -, rfl⟩ := creates_cases hcreates
    have hnone : s.counted.holders r.address = 0 := by
      rw [holders, countP_eq_zero]
      exact fun m hm heq => hfree m hm (of_decide_eq_true heq)
    exact hcounted.establish r hnone (validateUserRequest_tsapid haccepted)
  | deleted _ hdelete => exact hcounted.deleteLease hdelete
  | renewed =>
    apply Tracks.leaseConfirm
    exact hcounted.updateLease _ fun _ => rfl

theorem LeaseState.Tracks.dmoDeleteContract (id : UInt16) : (dmoDeleteContract id s).Tracks subs := by
  unfold Isa100Gateway.dmoDeleteContract
  split
  · exact h
  · apply Tracks.notifyContractDeletion
    exact h.frame rfl rfl rfl rfl rfl

theorem LeaseState.Tracks.apply {e : LeaseEvent} (hstep : e.apply s = some s') : s'.Tracks subs := by
  cases e with
  | userRequest r => exact h.processUserRequest hstep
  | firstContract id =>
    cases hstep
    exact h.frame rfl rfl rfl rfl rfl
  | unjoin =>
    cases hstep
    apply Tracks.deleteActiveLeases
    exact h.frame rfl rfl rfl rfl rfl
  | createSession id session =>
    obtain ⟨-, rfl⟩ := LeaseEvent.createSession_cases hstep
    exact h.frame rfl rfl rfl rfl rfl
  | renewSession id expirationTime =>
    obtain rfl | ⟨_, -, -, rfl⟩ := LeaseEvent.renewSession_cases hstep
    · exact h
    · apply Tracks.processSessionUpdate
      exact h.frame rfl rfl rfl rfl rfl
  | deleteSession id =>
    cases hstep
    exact (h.processSessionDelete id).frame rfl rfl rfl rfl rfl
  | connectionLost id =>
    obtain rfl | ⟨_, -, rfl⟩ := LeaseEvent.connectionLost_cases hstep
    · exact h
    · exact h.frame rfl rfl rfl rfl rfl
  | checkExpire now =>
    cases hstep
    exact h.checkExpireLeases now
  | _ =>
    refine LeaseEvent.forContract_rule (P := fun t => t.Tracks subs) ?_ ?_ ?_ h hstep trivial
    · exact fun _ id endpoints serviceType stored ht => ht.notifyAddContract id endpoints serviceType stored
    · exact fun _ _ _ ht => ht.frame rfl rfl rfl rfl rfl
    · exact fun _ id ht => ht.dmoDeleteContract id

end

end Steps

def LeaseState.Listed (s : LeaseState) : Prop := Tracks s.subscriptions { s with out := [] }

theorem listed_start (smAddress : Addr128) : (start smAddress).Listed where
  waiting _ hl := nomatch hl
  active _ hl := nomatch hl
  periodic _ hl := nomatch hl
  shortTSAPIDs _ hl := nomatch hl
  distinct _ := Nat.zero_le 1
  replayed := rfl

theorem LeaseState.Listed.step {s s' : LeaseState} {e : LeaseEvent} (h : s.Listed) (hstep : leaseStep s e = some s') :
    s'.Listed ∧ replay s'.out s.subscriptions = some s'.subscriptions := by
  have htracks := Tracks.apply h hstep
  exact ⟨⟨htracks.waiting, htracks.active, htracks.periodic, htracks.shortTSAPIDs, htracks.distinct, rfl⟩,
    htracks.replayed⟩

end Isa100Gateway
