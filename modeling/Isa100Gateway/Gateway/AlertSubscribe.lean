import Isa100Gateway.Gateway.LeaseMgmt
import Isa100Gateway.Gateway.UserRequest
import Isa100Gateway.Lib.Bytes
import Isa100Gateway.Lib.LastWins

/-!
# Alert subscriptions (`AlertSvc.cpp`)

The request `ALERT_SUBSCRIBE`, whose data are a lease and a list of subscriptions to categories and to end points, and the two lists in which the service keeps the subscriptions of all leases.
-/

namespace Isa100Gateway

open MemoryProbe UserRequest LastWins

structure NetAddrId where
  netAddress : Addr128
  endpointPort : UInt16
  endpointObjId : UInt16
  type : UInt16
  leaseID : UInt32
deriving DecidableEq

structure AlertSvc where
  lstSubscCateg : List (UInt8 × UInt32)
  lstSubscNetAddr : List NetAddrId

inductive Subscription where
  | categ (key : UInt8 × UInt32) (subscribe : Bool)
  | netAddr (key : NetAddrId) (subscribe : Bool)

namespace AlertSvc

def subscribe (svc : AlertSvc) : Subscription → AlertSvc
  | .categ key on => { svc with lstSubscCateg := apply svc.lstSubscCateg (key, on) }
  | .netAddr key on => { svc with lstSubscNetAddr := apply svc.lstSubscNetAddr (key, on) }

def subscribeAll (svc : AlertSvc) (es : List Subscription) : AlertSvc := es.foldl subscribe svc

def onLeaseDelete (leaseID : UInt32) (svc : AlertSvc) : AlertSvc where
  lstSubscCateg := svc.lstSubscCateg.filter (·.2 ≠ leaseID)
  lstSubscNetAddr := svc.lstSubscNetAddr.filter (·.leaseID ≠ leaseID)

end AlertSvc

structure AlertConfirm where
  status : UInt8
  data : List UInt8
deriving DecidableEq

def alertSuccess : UInt8 := 0
def alertInvalidCategory : UInt8 := 1
def alertInvalidAlert : UInt8 := 2
def alertFailOther : UInt8 := 3

def ygsSuccess : UInt8 := 0
def ygsInvalidCategory : UInt8 := 11
def ygsInvalidAlert : UInt8 := 12

def AlertSvc.alertCatNo : UInt8 := 4

def subscriptionTypeCategory : UInt8 := 1
def subscriptionTypeAddress : UInt8 := 2

def sizeofTSubscCateg : Nat := 4
def sizeofTSubscNetAddr : Nat := 24
def sizeofYSubscNetAddr : Nat := 42

abbrev YDevList := List UInt8 → Option Addr128

def deviceTag (mem : Nat → UInt8) (tagSize : UInt8) (q : Nat) : Probe (List UInt8) := do
  let size := min tagSize.toNat 17
  let tag := ((List.range size).map fun i => mem (q + i)).takeWhile (· ≠ 0)
  touch q (min (tag.length + 1) size)
  pure tag

def extractDeviceAddress (devices : YDevList) (mem : Nat → UInt8) (q : Nat) : Probe (Option Addr128) := do
  let selector ← u8 mem q
  if selector = 0 then
    let tagSize ← u8 mem (q + 1)
    if tagSize = 0 then pure none
    else
      let tag ← deviceTag mem tagSize (q + 2)
      pure (devices tag)
  else if selector = 1 then
    let addr ← bytes16 mem (q + 18)
    pure (some addr)
  else pure none

section

variable (devices : YDevList) (r : UserRequest) (leaseID : UInt32)

def translateYAlertReq (crt : Nat) : Probe (Option Addr128) :=
  if r.ygsap then extractDeviceAddress devices r.mem (crt + 3)
  else do
    let addr ← bytes16 r.mem (crt + 3)
    pure (some addr)

def netAddrSubscription (crt : Nat) : Probe (Option Subscription) := do
  let addr ← translateYAlertReq devices r crt
  match addr with
  | none => pure none
  | some addr =>
    let fields := if r.ygsap then crt + 37 else crt + 19
    let subscribe ← u8 r.mem (crt + 1)
    let _enable ← u8 r.mem (crt + 2)
    let endpointPort ← ntohs r.mem fields
    let objId ← ntohs r.mem (fields + 2)
    let alertType ← u8 r.mem (fields + 4)
    pure (some (.netAddr ⟨addr, endpointPort, objId, alertType.toUInt16, leaseID⟩ (subscribe ≠ 0)))

def sizeofSubscNetAddr : Nat := if r.ygsap then sizeofYSubscNetAddr else sizeofTSubscNetAddr

/-- What a round of the loop does: it leaves the loop, it goes on behind a subscription, or it confirms an error. -/
inductive AlertRound where
  | breaks
  | applies (e : Subscription) (jump : Nat)
  | confirms (c : AlertConfirm)

def alertRound (crt : Nat) (leftLen : Int) : Probe AlertRound :=
  if leftLen < sizeofTSubscCateg then pure .breaks
  else do
    let subscType ← u8 r.mem crt
    if subscType = subscriptionTypeAddress ∧
        (leftLen < sizeofTSubscNetAddr ∨ r.ygsap ∧ leftLen < sizeofYSubscNetAddr) then pure .breaks
    else if subscType = subscriptionTypeCategory then
      let subscribe ← u8 r.mem (crt + 1)
      let _enable ← u8 r.mem (crt + 2)
      let category ← u8 r.mem (crt + 3)
      if category ≥ AlertSvc.alertCatNo then
        let data ← bytes r.mem crt sizeofTSubscCateg
        pure (.confirms ⟨r.status ygsInvalidCategory alertInvalidCategory, data⟩)
      else
        pure (.applies (.categ (category, leaseID) (subscribe ≠ 0)) sizeofTSubscCateg)
    else if subscType = subscriptionTypeAddress then
      let e ← netAddrSubscription devices r leaseID crt
      match e with
      | some e => pure (.applies e (sizeofSubscNetAddr r))
      | none =>
        let data ← bytes r.mem crt (max sizeofTSubscNetAddr sizeofYSubscNetAddr)
        pure (.confirms ⟨r.status ygsInvalidAlert alertInvalidAlert, data⟩)
    else pure (.confirms ⟨r.status ygsInvalidAlert alertFailOther, []⟩)

/-- The loop. A round uses at least four bytes, so that as many rounds as there are bytes are enough. -/
def alertLoop : Nat → AlertSvc → Nat → Int → Probe (AlertSvc × Option AlertConfirm × Int)
  | 0, svc, _, leftLen => pure (svc, none, leftLen)
  | rounds + 1, svc, crt, leftLen => do
    let round ← alertRound devices r leaseID crt leftLen
    match round with
    | .breaks => pure (svc, none, leftLen)
    | .applies e jump => alertLoop rounds (svc.subscribe e) (crt + jump) (leftLen - jump)
    | .confirms c => pure (svc, some c, leftLen)

def alertLeftLen : Int := (r.dataSize - 4 - 4).toInt32.toInt

def alertAnswer : AlertSvc × Option AlertConfirm × Int → AlertSvc × Option AlertConfirm
  | (svc, some c, _) => (svc, some c)
  | (svc, none, leftLen) =>
    if leftLen > 0 then (svc, some ⟨r.status ygsInvalidAlert alertFailOther, []⟩)
    else (svc, some ⟨r.status ygsSuccess alertSuccess, []⟩)

def alertLease (leases : LeaseState) (sessionId : UInt32) : Bool :=
  (leases.findLease leaseID sessionId).any (·.leaseType = .alert)

def AlertSvc.processUserRequest (leases : LeaseState) (svc : AlertSvc) : Probe (AlertSvc × Option AlertConfirm) :=
  if r.dataSize - 4 < 4 then pure (svc, none)
  else do
    let leaseID ← ntohl r.mem 0
    if alertLease leaseID leases r.sessionId then
      let loop ← alertLoop devices r leaseID r.dataSize.toNat svc 4 (alertLeftLen r)
      pure (alertAnswer r loop)
    else pure (svc, some ⟨r.status ygsInvalidLease alertFailOther, []⟩)

/-- The bytes at `q` are a subscription that the service accepts. -/
inductive IsSubscription (q : Nat) : Subscription → Nat → Prop
  | categ (htype : r.mem q = subscriptionTypeCategory) (hcateg : r.mem (q + 3) < AlertSvc.alertCatNo) :
    IsSubscription q (.categ (r.mem (q + 3), leaseID) (r.mem (q + 1) ≠ 0)) sizeofTSubscCateg
  | netAddr {e : Subscription} (htype : r.mem q = subscriptionTypeAddress)
    (htranslates : (netAddrSubscription devices r leaseID q).value = some e) :
    IsSubscription q e (sizeofSubscNetAddr r)

inductive Subscriptions : Nat → List Subscription → Nat → Prop
  | nil (q : Nat) : Subscriptions q [] q
  | cons {q q' size : Nat} {e : Subscription} {es : List Subscription}
    (hfirst : IsSubscription devices r leaseID q e size) (hrest : Subscriptions (q + size) es q') :
    Subscriptions q (e :: es) q'

def NoSubscription (q last : Nat) : Prop :=
  ∀ e size, IsSubscription devices r leaseID q e size → last < q + size

end

def Subscription.categOp : Subscription → Option ((UInt8 × UInt32) × Bool)
  | .categ key on => some (key, on)
  | .netAddr _ _ => none

def Subscription.netAddrOp : Subscription → Option (NetAddrId × Bool)
  | .categ _ _ => none
  | .netAddr key on => some (key, on)

/-- After the subscriptions, the lists have the keys whose last subscription subscribes, and of the keys they do not mention those they had. -/
def Applied (svc svc' : AlertSvc) (es : List Subscription) : Prop :=
  (∀ key, key ∈ svc'.lstSubscCateg ↔ last key (es.filterMap Subscription.categOp) = some true ∨
    last key (es.filterMap Subscription.categOp) = none ∧ key ∈ svc.lstSubscCateg) ∧
  ∀ key, key ∈ svc'.lstSubscNetAddr ↔ last key (es.filterMap Subscription.netAddrOp) = some true ∨
    last key (es.filterMap Subscription.netAddrOp) = none ∧ key ∈ svc.lstSubscNetAddr

theorem subscribeAll_categ (svc : AlertSvc) (es : List Subscription) : (svc.subscribeAll es).lstSubscCateg =
      applyAll svc.lstSubscCateg (es.filterMap Subscription.categOp) := by
  induction es generalizing svc with
  | nil => rfl
  | cons e es ih => cases e <;> exact ih _

theorem subscribeAll_netAddr (svc : AlertSvc) (es : List Subscription) : (svc.subscribeAll es).lstSubscNetAddr =
      applyAll svc.lstSubscNetAddr (es.filterMap Subscription.netAddrOp) := by
  induction es generalizing svc with
  | nil => rfl
  | cons e es ih => cases e <;> exact ih _

theorem applied_subscribeAll (svc : AlertSvc) (es : List Subscription) : Applied svc (svc.subscribeAll es) es := by
  constructor
  · intro key
    rw [subscribeAll_categ, mem_applyAll]
  · intro key
    rw [subscribeAll_netAddr, mem_applyAll]

section

variable {devices : YDevList} {r : UserRequest} {leaseID : UInt32} {q size : Nat} {e : Subscription}

theorem four_le_of_isSubscription (h : IsSubscription devices r leaseID q e size) : 4 ≤ size := by
  cases h with
  | categ => exact le_refl 4
  | netAddr =>
    unfold sizeofSubscNetAddr
    split <;> decide

variable {left : Int}

theorem sizeofSubscNetAddr_le :
    (sizeofSubscNetAddr r : Int) ≤ left ↔ ¬ (left < sizeofTSubscNetAddr ∨ r.ygsap ∧ left < sizeofYSubscNetAddr) := by
  simp only [sizeofSubscNetAddr, sizeofTSubscNetAddr, sizeofYSubscNetAddr]
  cases r.ygsap
  · simp
  · simp
    omega

theorem isSubscription_type (h : IsSubscription devices r leaseID q e size) :
    r.mem q = subscriptionTypeCategory ∨ r.mem q = subscriptionTypeAddress := by
  cases h with
  | categ htype => exact .inl htype
  | netAddr htype => exact .inr htype

theorem isSubscription_categ (htype : r.mem q = subscriptionTypeCategory)
    (h : IsSubscription devices r leaseID q e size) :
      r.mem (q + 3) < AlertSvc.alertCatNo ∧ size = sizeofTSubscCateg := by
  cases h with
  | categ _ hcateg => exact ⟨hcateg, rfl⟩
  | netAddr htype' => exact absurd (htype.symm.trans htype') (by decide)

theorem isSubscription_netAddr (htype : r.mem q = subscriptionTypeAddress)
    (h : IsSubscription devices r leaseID q e size) :
    (netAddrSubscription devices r leaseID q).value = some e ∧ size = sizeofSubscNetAddr r := by
  cases h with
  | categ htype' => exact absurd (htype.symm.trans htype') (by decide)
  | netAddr _ htranslates => exact ⟨htranslates, rfl⟩

theorem UserRequest.status_ne_zero {ygs gsap : UInt8} (hygs : ygs ≠ 0) (hgsap : gsap ≠ 0) :
    r.status ygs gsap ≠ 0 := by
  unfold UserRequest.status
  split
  · exact hygs
  · exact hgsap

/-- What the answer of a round with `left` bytes left at `q` says about the bytes there. -/
def RoundSays (devices : YDevList) (r : UserRequest) (leaseID : UInt32) (q : Nat) (left : Int) : AlertRound → Prop
  | .breaks => ∀ e size, IsSubscription devices r leaseID q e size → left < size
  | .applies e size => IsSubscription devices r leaseID q e size ∧ (size : Int) ≤ left
  | .confirms c => c.status ≠ 0 ∧ 0 < left ∧ ∀ e size, ¬ IsSubscription devices r leaseID q e size

theorem alertRound_categ (hleft : ¬ left < sizeofTSubscCateg) (htype : r.mem q = subscriptionTypeCategory) :
    RoundSays devices r leaseID q left (alertRound devices r leaseID q left).value := by
  have hnot : ¬ (subscriptionTypeCategory = subscriptionTypeAddress) := by decide
  simp only [alertRound, if_neg hleft, value_bind, u8, htype, hnot, false_and, if_false, if_true]
  by_cases hcateg : r.mem (q + 3) ≥ AlertSvc.alertCatNo
  · rw [if_pos hcateg]
    have hpos : 0 < left := lt_of_lt_of_le (by decide) (not_lt.mp hleft)
    refine ⟨UserRequest.status_ne_zero (by decide) (by decide), hpos, fun e size h => ?_⟩
    exact absurd (isSubscription_categ htype h).1 (UInt8.not_lt.mpr hcateg)
  · rw [if_neg hcateg]
    exact ⟨.categ htype (UInt8.not_le.mp hcateg), not_lt.mp hleft⟩

theorem alertRound_netAddr (hleft : ¬ left < sizeofTSubscCateg) (htype : r.mem q = subscriptionTypeAddress) :
    RoundSays devices r leaseID q left (alertRound devices r leaseID q left).value := by
  have hnot : ¬ (subscriptionTypeAddress = subscriptionTypeCategory) := by decide
  simp only [alertRound, if_neg hleft, value_bind, u8, htype, hnot, true_and, if_false, if_true]
  by_cases hshort : left < sizeofTSubscNetAddr ∨ r.ygsap ∧ left < sizeofYSubscNetAddr
  · rw [if_pos hshort]
    intro e size h
    rw [(isSubscription_netAddr htype h).2]
    exact not_le.mp fun hle => sizeofSubscNetAddr_le.mp hle hshort
  · rw [if_neg hshort, value_bind]
    cases htranslates : (netAddrSubscription devices r leaseID q).value with
    | none =>
      have hpos : 0 < left := lt_of_lt_of_le (by decide) (not_lt.mp hleft)
      refine ⟨UserRequest.status_ne_zero (by decide) (by decide), hpos, fun e size h => ?_⟩
      cases htranslates.symm.trans (isSubscription_netAddr htype h).1
    | some e => exact ⟨.netAddr htype htranslates, sizeofSubscNetAddr_le.mpr hshort⟩

theorem alertRound_says (devices : YDevList) (r : UserRequest) (leaseID : UInt32) (q : Nat) (left : Int) :
    RoundSays devices r leaseID q left (alertRound devices r leaseID q left).value := by
  by_cases hleft : left < sizeofTSubscCateg
  · rw [alertRound, if_pos hleft]
    intro e size h
    have hsize : (4 : Int) ≤ size := by exact_mod_cast four_le_of_isSubscription h
    exact lt_of_lt_of_le hleft hsize
  · by_cases hcateg : r.mem q = subscriptionTypeCategory
    · exact alertRound_categ hleft hcateg
    · by_cases hnetAddr : r.mem q = subscriptionTypeAddress
      · exact alertRound_netAddr hleft hnetAddr
      · simp only [alertRound, if_neg hleft, value_bind, u8, hcateg, hnetAddr, false_and, if_false]
        have hpos : 0 < left := lt_of_lt_of_le (by decide) (not_lt.mp hleft)
        refine ⟨UserRequest.status_ne_zero (by decide) (by decide), hpos, fun e size h => ?_⟩
        exact (isSubscription_type h).elim hcateg hnetAddr

/-- What the loop leaves behind when it started at `q` with `left` bytes: the subscriptions up to a place `q'` were applied, and the next one is not there. -/
theorem alertLoop_says (devices : YDevList) (r : UserRequest) (leaseID : UInt32) (rounds : Nat)
    (svc : AlertSvc) (q : Nat) (left : Int) (hrounds : left < rounds) (hleft : 0 ≤ left) :
    let loop := (alertLoop devices r leaseID rounds svc q left).value
    ∃ es q', Subscriptions devices r leaseID q es q' ∧ loop.1 = svc.subscribeAll es ∧ 0 ≤ loop.2.2 ∧
      q' + loop.2.2 = q + left ∧
      match loop.2.1 with
      | none => ∀ e size, IsSubscription devices r leaseID q' e size → loop.2.2 < size
      | some c => c.status ≠ 0 ∧ 0 < loop.2.2 ∧ ∀ e size, ¬ IsSubscription devices r leaseID q' e size := by
  induction rounds generalizing q svc left with
  | zero => omega
  | succ rounds ih =>
    have hround := alertRound_says devices r leaseID q left
    simp only [alertLoop, value_bind]
    cases hvalue : (alertRound devices r leaseID q left).value with
    | breaks =>
      rw [hvalue] at hround
      exact ⟨[], q, .nil q, rfl, hleft, rfl, hround⟩
    | confirms c =>
      rw [hvalue] at hround
      exact ⟨[], q, .nil q, rfl, hleft, rfl, hround⟩
    | applies e jump =>
      rw [hvalue] at hround
      obtain ⟨hfirst, hfits⟩ := hround
      have hfour : (4 : Int) ≤ jump := by exact_mod_cast four_le_of_isSubscription hfirst
      obtain ⟨es, q', hrest, hsvc, hleft', hplace, hend⟩ :=
        ih (svc.subscribe e) (q + jump) (left - jump) (by omega) (by omega)
      refine ⟨e :: es, q', .cons hfirst hrest, hsvc, hleft', ?_, hend⟩
      dsimp only
      push_cast at hplace
      omega

/-! ## The request -/

/-- Where the list of subscriptions ends: before the CRC. A request too short for a CRC has none. -/
def subscriptionsEnd (r : UserRequest) : Nat := max 4 (r.dataSize.toNat - 4)

theorem lease_of_netAddrSubscription (h : (netAddrSubscription devices r leaseID q).value = some e) :
    ∃ key on, e = .netAddr key on ∧ key.leaseID = leaseID := by
  simp only [netAddrSubscription, value_bind] at h
  cases haddr : (translateYAlertReq devices r q).value with
  | none =>
    rw [haddr] at h
    exact nomatch h
  | some addr =>
    rw [haddr] at h
    cases h
    exact ⟨_, _, rfl, rfl⟩

variable {es : List Subscription}

theorem lease_of_subscriptions {q' : Nat} (h : Subscriptions devices r leaseID q es q') :
    (∀ op ∈ es.filterMap Subscription.categOp, op.1.2 = leaseID) ∧
      ∀ op ∈ es.filterMap Subscription.netAddrOp, op.1.leaseID = leaseID := by
  induction h with
  | nil => exact ⟨fun _ hop => (nomatch hop), fun _ hop => (nomatch hop)⟩
  | cons hfirst _ ih =>
    cases hfirst with
    | categ =>
      refine ⟨?_, ih.2⟩
      intro op hop
      rcases List.mem_cons.mp hop with rfl | hop
      · rfl
      · exact ih.1 op hop
    | netAddr _ htranslates =>
      obtain ⟨key, on, rfl, hkey⟩ := lease_of_netAddrSubscription htranslates
      refine ⟨ih.1, ?_⟩
      intro op hop
      rcases List.mem_cons.mp hop with rfl | hop
      · exact hkey
      · exact ih.2 op hop

def OthersKept (leaseID : UInt32) (svc svc' : AlertSvc) : Prop :=
  ∀ other ≠ leaseID,
    svc'.lstSubscCateg.filter (·.2 = other) = svc.lstSubscCateg.filter (·.2 = other) ∧
      svc'.lstSubscNetAddr.filter (·.leaseID = other) = svc.lstSubscNetAddr.filter (·.leaseID = other)

theorem othersKept_subscribeAll {q' : Nat} (svc : AlertSvc)
    (h : Subscriptions devices r leaseID q es q') : OthersKept leaseID svc (svc.subscribeAll es) := by
  obtain ⟨hcateg, hnetAddr⟩ := lease_of_subscriptions h
  intro other hother
  rw [subscribeAll_categ, subscribeAll_netAddr]
  constructor
  · apply filter_applyAll
    intro op hop
    exact decide_eq_false fun heq => hother (heq.symm.trans (hcateg op hop))
  · apply filter_applyAll
    intro op hop
    exact decide_eq_false fun heq => hother (heq.symm.trans (hnetAddr op hop))

theorem alertLeftLen_eq (hsize : r.dataSize.toNat < 2 ^ 31 + 8) : alertLeftLen r = (r.dataSize.toNat : Int) - 8 := by
  have hsub : r.dataSize - 4 - 4 = r.dataSize - 8 := by
    rw [UInt32.sub_eq_add_neg, UInt32.sub_eq_add_neg, UInt32.add_assoc, UInt32.sub_eq_add_neg]
    rfl
  have height : (8 : UInt32).toNat = 8 := rfl
  rw [alertLeftLen, hsub, Bytes.toInt_toInt32_sub (by decide), height, if_pos (by omega)]
  rfl

theorem length_check_iff (hsize : 4 ≤ r.dataSize.toNat) : r.dataSize - 4 < 4 ↔ r.dataSize.toNat < 8 := by
  have hfour : (4 : UInt32) ≤ r.dataSize := UInt32.le_iff_toNat_le.mpr hsize
  rw [UInt32.lt_iff_toNat_lt, UInt32.toNat_sub_of_le _ _ hfour]
  have h : (4 : UInt32).toNat = 4 := rfl
  omega

theorem alertLoop_request (devices : YDevList) (r : UserRequest) (leaseID : UInt32) (svc : AlertSvc)
    (hsize : r.dataSize.toNat < 2 ^ 31) (hcheck : ¬ r.dataSize - 4 < 4) :
    let loop := (alertLoop devices r leaseID r.dataSize.toNat svc 4 (alertLeftLen r)).value
    ∃ es q, Subscriptions devices r leaseID 4 es q ∧ loop.1 = svc.subscribeAll es ∧
      match loop.2.1 with
      | none => (loop.2.2 > 0 ↔ q < subscriptionsEnd r) ∧ q ≤ subscriptionsEnd r ∧
        NoSubscription devices r leaseID q (subscriptionsEnd r)
      | some c => c.status ≠ 0 ∧ q < subscriptionsEnd r ∧
        NoSubscription devices r leaseID q (subscriptionsEnd r) := by
  rw [alertLeftLen_eq (by omega)]
  by_cases hfour : 4 ≤ r.dataSize.toNat
  · have height : 8 ≤ r.dataSize.toNat := by
      rw [length_check_iff hfour] at hcheck
      omega
    have hend : subscriptionsEnd r = r.dataSize.toNat - 4 := max_eq_right (by omega)
    obtain ⟨es, q, hes, hsvc, hleft, hplace, hlast⟩ :=
      alertLoop_says devices r leaseID r.dataSize.toNat svc 4 (r.dataSize.toNat - 8) (by omega) (by omega)
    refine ⟨es, q, hes, hsvc, ?_⟩
    split at hlast
    · refine ⟨by omega, by omega, fun e size he => ?_⟩
      have hlong := hlast e size he
      omega
    · obtain ⟨hstatus, hpos, hlast⟩ := hlast
      exact ⟨hstatus, by omega, fun e size he => absurd he (hlast e size)⟩
  · have hend : subscriptionsEnd r = 4 := max_eq_left (by omega)
    have hbreaks : (alertLoop devices r leaseID r.dataSize.toNat svc 4 (r.dataSize.toNat - 8)).value =
        (svc, none, (r.dataSize.toNat : Int) - 8) := by
      cases hrounds : r.dataSize.toNat with
      | zero => rfl
      | succ rounds =>
        have hshort : ((rounds + 1 : Nat) : Int) - 8 < sizeofTSubscCateg := by
          have h : ((sizeofTSubscCateg : Nat) : Int) = 4 := rfl
          omega
        rw [alertLoop, alertRound, if_pos hshort]
        rfl
    rw [hbreaks]
    refine ⟨[], 4, .nil 4, rfl, ?_, le_of_eq hend.symm, fun e size he => ?_⟩
    · dsimp only
      omega
    · have hfour := four_le_of_isSubscription he
      omega

def AnswerSays (devices : YDevList) (r : UserRequest) (leases : LeaseState) (svc svc' : AlertSvc) :
    Option AlertConfirm → Prop
  | none => svc' = svc
  | some c =>
    let leaseID := (ntohl r.mem 0).value
    (c.status = ygsSuccess → ∃ es, Subscriptions devices r leaseID 4 es (subscriptionsEnd r) ∧ Applied svc svc' es) ∧
    (c.status ≠ ygsSuccess → alertLease leaseID leases r.sessionId = false ∧ svc' = svc ∨
      ∃ es q, Subscriptions devices r leaseID 4 es q ∧ q < subscriptionsEnd r ∧
        NoSubscription devices r leaseID q (subscriptionsEnd r) ∧ Applied svc svc' es)

theorem othersKept_refl (svc : AlertSvc) : OthersKept leaseID svc svc := fun _ _ => ⟨rfl, rfl⟩

/-- A request that is confirmed with success has all its subscriptions applied; one that is confirmed with an error has those applied that lie before the first bad one. The other leases keep theirs. -/
theorem alert_subscribe_up_to_error (devices : YDevList) (r : UserRequest) (leases : LeaseState) (svc : AlertSvc)
    (hsize : r.dataSize.toNat < 2 ^ 31) :
    let answer := (svc.processUserRequest devices r leases).value
    AnswerSays devices r leases svc answer.1 answer.2 ∧
      OthersKept (ntohl r.mem 0).value svc answer.1 := by
  intro answer
  have hanswer : answer = (svc.processUserRequest devices r leases).value := rfl
  rw [AlertSvc.processUserRequest] at hanswer
  by_cases hcheck : r.dataSize - 4 < 4
  · rw [if_pos hcheck] at hanswer
    rw [hanswer]
    exact ⟨rfl, othersKept_refl svc⟩
  · rw [if_neg hcheck, value_bind] at hanswer
    cases hlease : alertLease (ntohl r.mem 0).value leases r.sessionId with
    | false =>
      rw [hlease, if_neg Bool.false_ne_true] at hanswer
      have herror : r.status ygsInvalidLease alertFailOther ≠ ygsSuccess :=
        UserRequest.status_ne_zero (by decide) (by decide)
      rw [hanswer]
      exact ⟨⟨fun h => absurd h herror, fun _ => .inl ⟨hlease, rfl⟩⟩, othersKept_refl svc⟩
    | true =>
      rw [hlease, if_pos rfl, value_bind] at hanswer
      obtain ⟨es, q, hes, hsvc, hend⟩ :=
        alertLoop_request devices r (ntohl r.mem 0).value svc hsize hcheck
      have happlied := applied_subscribeAll svc es
      have hothers := othersKept_subscribeAll svc hes
      generalize (alertLoop devices r (ntohl r.mem 0).value r.dataSize.toNat svc 4 (alertLeftLen r)).value = loop
        at hanswer hsvc hend
      obtain ⟨svc', c, left⟩ := loop
      obtain rfl : svc' = svc.subscribeAll es := hsvc
      cases c with
      | some c =>
        obtain ⟨hstatus, hq, hno⟩ := hend
        rw [hanswer]
        exact ⟨⟨fun h => absurd h hstatus, fun _ => .inr ⟨es, q, hes, hq, hno, happlied⟩⟩, hothers⟩
      | none =>
        obtain ⟨hleft, hq, hno⟩ := hend
        have herror : r.status ygsInvalidAlert alertFailOther ≠ ygsSuccess :=
          UserRequest.status_ne_zero (by decide) (by decide)
        by_cases hpartial : left > 0
        · have hpartialAnswer : answer =
              (svc.subscribeAll es, some ⟨r.status ygsInvalidAlert alertFailOther, []⟩) := by
            rw [hanswer, value_pure, alertAnswer, if_pos hpartial]
          rw [hpartialAnswer]
          refine ⟨⟨fun h => absurd h herror, fun _ => .inr ⟨es, q, hes, hleft.mp hpartial, hno, happlied⟩⟩, hothers⟩
        · have hwhole : answer = (svc.subscribeAll es, some ⟨r.status ygsSuccess alertSuccess, []⟩) := by
            rw [hanswer, value_pure, alertAnswer, if_neg hpartial]
          have hsuccess : r.status ygsSuccess alertSuccess = ygsSuccess := by
            unfold UserRequest.status
            split <;> rfl
          obtain rfl : q = subscriptionsEnd r := le_antisymm hq (not_lt.mp fun h => hpartial (hleft.mpr h))
          rw [hwhole]
          exact ⟨⟨fun _ => ⟨es, hes, happlied⟩, fun h => absurd hsuccess h⟩, hothers⟩

end

def alertLeaseState : LeaseState :=
  { LeaseState.start (Vector.replicate 16 0) with
    active := [{
      address := 1, leaseId := 5, expirationTime := 0, creationTime := 0, leaseType := .alert
      protocolType := 0, netAddr := Vector.replicate 16 0, tsapid := 0, objId := 0, localTSAPID := 0
      localObjId := 0, periodOrCommittedBurst := 0, staleLimit := 0, sessionId := 3, transactionId := 0
      contractId := 0, lastTx := 0, staleReported := false, request := 0 }] }

def badCategoryRequest : UserRequest where
  ygsap := false
  sessionId := 3
  transactionId := 7
  dataSize := 16
  mem := fun q => [0, 0, 0, 5, 1, 1, 1, 0, 1, 1, 1, 9].getD q 0

/-- The subscription before the one with the bad category stays in force. -/
theorem alert_subscribe_not_atomic :
    let answer := (AlertSvc.processUserRequest (fun _ => none) badCategoryRequest alertLeaseState ⟨[], []⟩).value
    answer.2 = some ⟨alertInvalidCategory, [1, 1, 1, 9]⟩ ∧ answer.1.lstSubscCateg = [(0, 5)] := by
  decide

theorem alert_subscribe_up_to_error_badCategory :
    AnswerSays (fun _ => none) badCategoryRequest alertLeaseState ⟨[], []⟩ ⟨[(0, 5)], []⟩
      (some ⟨alertInvalidCategory, [1, 1, 1, 9]⟩) :=
  (alert_subscribe_up_to_error (fun _ => none) badCategoryRequest alertLeaseState ⟨[], []⟩ (by decide)).1

inductive AlertEvent where
  | request (r : UserRequest) (leases : LeaseState)
  | leaseDelete (leaseID : UInt32)

def AlertSvc.step (devices : YDevList) (svc : AlertSvc) : AlertEvent → AlertSvc
  | .request r leases => (svc.processUserRequest devices r leases).value.1
  | .leaseDelete leaseID => svc.onLeaseDelete leaseID

def AlertSvc.Once (svc : AlertSvc) : Prop := svc.lstSubscCateg.Nodup ∧ svc.lstSubscNetAddr.Nodup

variable {svc : AlertSvc}

theorem once_subscribe (h : svc.Once) (e : Subscription) : (svc.subscribe e).Once := by
  cases e with
  | categ key on => exact ⟨nodup_apply h.1 (key, on), h.2⟩
  | netAddr key on => exact ⟨h.1, nodup_apply h.2 (key, on)⟩

theorem once_alertLoop (devices : YDevList) (r : UserRequest) (leaseID : UInt32) (rounds : Nat)
    (h : svc.Once) (q : Nat) (left : Int) : (alertLoop devices r leaseID rounds svc q left).value.1.Once := by
  induction rounds generalizing svc q left with
  | zero => exact h
  | succ rounds ih =>
    simp only [alertLoop, value_bind]
    cases (alertRound devices r leaseID q left).value with
    | breaks => exact h
    | confirms c => exact h
    | applies e jump => exact ih (once_subscribe h e) (q + jump) (left - jump)

theorem once_alertAnswer {r : UserRequest} {loop : AlertSvc × Option AlertConfirm × Int} (h : loop.1.Once) :
    (alertAnswer r loop).1.Once := by
  obtain ⟨svc, _ | c, left⟩ := loop
  · simp only [alertAnswer]
    split
    · exact h
    · exact h
  · exact h

theorem once_processUserRequest (devices : YDevList) (r : UserRequest) (leases : LeaseState)
    (h : svc.Once) : (svc.processUserRequest devices r leases).value.1.Once := by
  unfold AlertSvc.processUserRequest
  split
  · exact h
  · rw [value_bind]
    split
    · exact once_alertAnswer (once_alertLoop devices r _ _ h 4 _)
    · exact h

/-- In every run of requests and lease deletions, no subscription is listed twice. -/
theorem once_of_reachable (devices : YDevList)
    (h : Machine.Reachable ⟨[], []⟩ (AlertSvc.step devices) (fun _ _ => True) svc) : svc.Once := by
  apply h.invariant ⟨List.nodup_nil, List.nodup_nil⟩
  intro svc event hsvc _
  cases event with
  | request r leases => exact once_processUserRequest devices r leases hsvc
  | leaseDelete leaseID => exact ⟨hsvc.1.filter _, hsvc.2.filter _⟩

/-- The same request twice. -/
theorem once_of_reachable_again : (Machine.run (AlertSvc.step fun _ => none) ⟨[], []⟩
    (List.replicate 2 (.request badCategoryRequest alertLeaseState))).Once :=
  once_of_reachable (fun _ => none) (Machine.reachable_run (Machine.along_true _ _))

end Isa100Gateway
