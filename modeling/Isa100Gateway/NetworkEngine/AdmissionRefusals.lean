import Isa100Gateway.NetworkEngine.SecurityAdmission

/-!
# What a refused join leaves behind

The entry of the device among its parent's children is dropped before the parent's room is looked at, and the previous instance is removed before an address is looked for. A request is harmless exactly when neither shows: a parent that refuses does not have the device as a child, and nothing is missing once the checks are passed.
-/

namespace Isa100Gateway.SecurityAdmission

open Option

open SystemManager (ProvisioningDeviceType)

namespace JoinModel

variable (m : JoinModel) (req : JoinRequest)

def nodeAt (id a : Nat) : Option Device :=
  if a = addressManager then some m.manager
  else if a = addressGateway then m.gateway
  else (m.subnets.find id).bind fun s => s.subnetNodes.find a

def HasChild (id a : Nat) (address64 : Address64) : Prop := ∃ device ∈ m.nodeAt id a, address64 ∈ device.children

instance (id a : Nat) (address64 : Address64) : Decidable (m.HasChild id a address64) :=
  inferInstanceAs (Decidable (∃ _ ∈ _, _))

variable {m}

variable {id a : Nat} {address64 : Address64} {s : Subnet}

theorem updateNode_manager (h : a = addressManager) (f : Device → Device) :
    m.updateNode id a f = { m with manager := f m.manager } := by rw [updateNode, if_pos h]

theorem updateNode_gateway (h : a = addressGateway) (f : Device → Device) :
    m.updateNode id a f = { m with gateway := m.gateway.map f } := by
  have hmanager : a ≠ addressManager := by
    rw [h]
    decide
  rw [updateNode, if_neg hmanager, if_pos h]

theorem nodeAt_updateNode (id a : Nat) (f : Device → Device) :
    (m.updateNode id a f).nodeAt id a = (m.nodeAt id a).map f := by
  by_cases hmanager : a = addressManager
  · rw [updateNode_manager hmanager, nodeAt, if_pos hmanager, nodeAt, if_pos hmanager, map_some]
  · by_cases hgateway : a = addressGateway
    · rw [updateNode_gateway hgateway, nodeAt, if_neg hmanager, if_pos hgateway, nodeAt, if_neg hmanager,
        if_pos hgateway]
    · rw [updateNode, if_neg hmanager, if_neg hgateway, nodeAt, if_neg hmanager, if_neg hgateway, nodeAt,
        if_neg hmanager, if_neg hgateway]
      cases hs : m.subnets.find id with
      | none =>
        simp only
        rw [hs]
        rfl
      | some s =>
        cases hdevice : s.subnetNodes.find a with
        | none =>
          simp only [hdevice]
          rw [hs, bind_some, hdevice]
          rfl
        | some device =>
          simp only [hdevice, setSubnet]
          rw [OrderedMap.find_set_self, bind_some, OrderedMap.find_set_self, bind_some, hdevice]
          rfl

theorem updateNode_eq_self {f : Device → Device} (h : ∀ device ∈ m.nodeAt id a, f device = device) :
    m.updateNode id a f = m := by
  by_cases hmanager : a = addressManager
  · rw [nodeAt, if_pos hmanager] at h
    rw [updateNode_manager hmanager, h m.manager rfl]
  · by_cases hgateway : a = addressGateway
    · rw [nodeAt, if_neg hmanager, if_pos hgateway] at h
      have hsame : m.gateway.map f = m.gateway := by
        cases hg : m.gateway with
        | none => rfl
        | some gateway => rw [map_some, h gateway hg]
      rw [updateNode_gateway hgateway, hsame]
    · rw [nodeAt, if_neg hmanager, if_neg hgateway] at h
      rw [updateNode, if_neg hmanager, if_neg hgateway]
      cases hs : m.subnets.find id with
      | none => rfl
      | some s =>
        cases hdevice : s.subnetNodes.find a with
        | none => simp only [hdevice]
        | some device =>
          have hnode : ((m.subnets.find id).bind fun s => s.subnetNodes.find a) = some device := by
            rw [hs, bind_some, hdevice]
          have hsame := h device hnode
          simp only [hdevice, hsame, setSubnet]
          rw [OrderedMap.set_of_find hdevice, OrderedMap.set_of_find hs]

theorem deleteTheoAttributesChild_eq_self_iff (id a : Nat) (address64 : Address64) :
    m.deleteTheoAttributesChild id a address64 = m ↔ ¬m.HasChild id a address64 := by
  constructor
  · rintro hsame ⟨device, hdevice, hchild⟩
    have hnode := nodeAt_updateNode (m := m) id a (Device.eraseChild address64)
    change (m.deleteTheoAttributesChild id a address64).nodeAt id a = _ at hnode
    rw [hsame, mem_def.mp hdevice, map_some] at hnode
    have herased := congrArg Device.children (some.inj hnode)
    rw [herased] at hchild
    exact Finset.notMem_erase address64 device.children hchild
  · intro hchild
    apply updateNode_eq_self
    intro device hdevice
    have habsent : address64 ∉ device.children := fun hmem => hchild ⟨device, hdevice, hmem⟩
    rw [Device.eraseChild, Finset.erase_eq_of_notMem habsent]

theorem DeviceId.next_val (last : DeviceId) :
    last.next.1 = if last.1 = 3 then maxNumberOfDevices - 1 else last.1 - 1 := by
  have hrange := last.2
  unfold DeviceId.next
  split <;> split <;> first | rfl | omega

theorem isFree_of_searchAddress_none {fuel : Nat} {last : DeviceId}
    (h : m.searchAddress id s address64 fuel last = none) (a : DeviceId)
    (hreach : a.1 < last.1 ∧ last.1 - a.1 ≤ fuel ∨ last.1 ≤ a.1 ∧ last.1 + maxNumberOfDevices - 3 - a.1 ≤ fuel) :
    m.isFree id s address64 a.1 = false := by
  have ha := a.2
  induction fuel generalizing last with
  | zero =>
    have hlast := last.2
    omega
  | succ fuel ih =>
    have hlast := last.2
    have hnext := DeviceId.next_val last
    simp only [searchAddress] at h
    split at h
    case isTrue => cases h
    case isFalse hnot =>
      by_cases heq : a.1 = last.next.1
      · rw [heq]
        exact Bool.not_eq_true _ ▸ hnot
      · apply ih h
        rw [hnext] at heq ⊢
        unfold maxNumberOfDevices at *
        split at heq <;> split <;> omega

theorem isFree_of_searchAddress_some {fuel : Nat} {last found : DeviceId}
    (h : m.searchAddress id s address64 fuel last = some found) : m.isFree id s address64 found.1 = true := by
  induction fuel generalizing last with
  | zero => cases h
  | succ fuel ih =>
    simp only [searchAddress] at h
    split at h
    case isTrue hfree =>
      cases h
      exact hfree
    case isFalse => exact ih h

theorem searchAddress_isSome_iff (id : Nat) (s : Subnet) (address64 : Address64) (last : DeviceId) :
    (m.searchAddress id s address64 (maxNumberOfDevices - 2) last).isSome ↔
      ∃ a : DeviceId, m.isFree id s address64 a.1 = true := by
  constructor
  · intro h
    obtain ⟨found, hfound⟩ := isSome_iff_exists.mp h
    exact ⟨found, isFree_of_searchAddress_some hfound⟩
  · rintro ⟨a, hfree⟩
    rw [isSome_iff_ne_none]
    intro hnone
    have hreach : a.1 < last.1 ∧ last.1 - a.1 ≤ maxNumberOfDevices - 2 ∨
        last.1 ≤ a.1 ∧ last.1 + maxNumberOfDevices - 3 - a.1 ≤ maxNumberOfDevices - 2 := by
      have hlast := last.2
      have ha := a.2
      unfold maxNumberOfDevices at *
      omega
    rw [isFree_of_searchAddress_none hnone a hreach] at hfree
    cases hfree

variable (m) in
def AddressLeft (id : Nat) (s : Subnet) (address64 : Address64) (oldAddress : Nat) : Prop :=
  m.canKeep id s address64 (preferredAddress16 address64 oldAddress) = true ∨
    ∃ a : DeviceId, m.isFree id s address64 a.1 = true

theorem getNextAddress32_isSome_iff (id : Nat) (s : Subnet) (address64 : Address64) (oldAddress : Nat) :
    (m.getNextAddress32 id s address64 oldAddress).isSome ↔ m.AddressLeft id s address64 oldAddress := by
  rw [AddressLeft, ← searchAddress_isSome_iff id s address64 s.lastUnmatchDeviceId, getNextAddress32]
  by_cases hkeep : m.canKeep id s address64 (preferredAddress16 address64 oldAddress) = true
  · simp [hkeep]
  · simp [hkeep]

theorem getAddress16_createAddress32 (id : Nat) (a : DeviceId) : getAddress16 (createAddress32 id a) = a := by
  have ha := a.2
  unfold maxNumberOfDevices at ha
  unfold getAddress16 createAddress32
  omega

theorem wasAddressAllocatedToOther_eq_false {address32 : Nat} :
    wasAddressAllocatedToOther s address64 address32 = false ↔
      ∀ e ∈ s.addressMapping.entries, e.2 = address32 → e.1 = address64 := by
  simp [wasAddressAllocatedToOther]

/-- The device may have the address: no other device does, and it is not reserved for another. -/
def Admissible (m : JoinModel) (id : Nat) (s : Subnet) (address64 : Address64) (a : DeviceId) : Prop :=
  (∀ device ∈ m.getDevice s a, device.address64 = address64) ∧
    ∀ e ∈ s.addressMapping.entries, e.2 = createAddress32 id a → e.1 = address64

theorem canKeep_iff (a : DeviceId) : m.canKeep id s address64 a = true ↔ m.Admissible id s address64 a := by
  rw [canKeep, Bool.and_eq_true, Bool.and_eq_true, decide_eq_true_iff, and_iff_left a.2, Bool.not_eq_true',
    wasAddressAllocatedToOther_eq_false, and_comm, Admissible]
  refine and_congr_left fun _ => ?_
  cases m.getDevice s a
  · simp
  · simp

theorem isFree_iff (a : DeviceId) :
    m.isFree id s address64 a = true ↔ m.getDevice s a = none ∧ m.Admissible id s address64 a := by
  rw [isFree, Bool.and_eq_true, isNone_iff_eq_none, Bool.not_eq_true', wasAddressAllocatedToOther_eq_false]
  refine and_congr_right fun hnone => ?_
  rw [Admissible, hnone]
  simp

/-- An address that is given away is admissible, the previous one is given again while it is, and without a result no free address is admissible. -/
theorem getNextAddress32_allocates (m : JoinModel) (id : Nat) (s : Subnet) (address64 : Address64)
    (oldAddress32 : Nat) :
    (∀ result ∈ m.getNextAddress32 id s address64 oldAddress32,
        ∃ a : DeviceId, getAddress16 result.1 = a ∧ result.1 = createAddress32 id a ∧ m.Admissible id s address64 a) ∧
      (oldAddress32 ≠ 0 → ∀ a : DeviceId, getAddress16 oldAddress32 = a → m.Admissible id s address64 a →
        ∃ last, m.getNextAddress32 id s address64 oldAddress32 = some (createAddress32 id a, last)) ∧
      (m.getNextAddress32 id s address64 oldAddress32 = none →
        ∀ a : DeviceId, m.getDevice s a = none → ¬m.Admissible id s address64 a) := by
  refine ⟨?_, ?_, ?_⟩
  · intro result hresult
    rw [mem_def, getNextAddress32] at hresult
    by_cases hkeep : m.canKeep id s address64 (preferredAddress16 address64 oldAddress32) = true
    · rw [if_pos hkeep] at hresult
      cases hresult
      have hrange : 2 < preferredAddress16 address64 oldAddress32 ∧
          preferredAddress16 address64 oldAddress32 < maxNumberOfDevices := by
        rw [canKeep, Bool.and_eq_true, Bool.and_eq_true, decide_eq_true_iff] at hkeep
        exact hkeep.1.2
      exact ⟨⟨_, hrange⟩, getAddress16_createAddress32 id ⟨_, hrange⟩, rfl, (canKeep_iff ⟨_, hrange⟩).mp hkeep⟩
    · rw [if_neg hkeep] at hresult
      obtain ⟨found, hfound, rfl⟩ := map_eq_some_iff.mp hresult
      have hfree := (isFree_iff found).mp (isFree_of_searchAddress_some hfound)
      exact ⟨found, getAddress16_createAddress32 id found, rfl, hfree.2⟩
  · intro hold a ha hadmissible
    have hpreferred : preferredAddress16 address64 oldAddress32 = a := by
      rw [preferredAddress16, if_neg hold, ha]
    rw [getNextAddress32, hpreferred]
    exact ⟨_, if_pos ((canKeep_iff a).mpr hadmissible)⟩
  · intro hnone a hempty hadmissible
    have hleft : m.AddressLeft id s address64 oldAddress32 := .inr ⟨a, (isFree_iff a).mpr ⟨hempty, hadmissible⟩⟩
    have hsome := (getNextAddress32_isSome_iff id s address64 oldAddress32).mpr hleft
    rw [hnone] at hsome
    cases hsome

end JoinModel

/-- The handler is called or handed over, and a refusal leaves the model as it was. -/
def Outcome.Clean (m : JoinModel) : Outcome → Prop
  | .answered _ status m' => status = .success ∨ m' = m
  | .submitted _ => True
  | .aborted => False

namespace JoinModel

variable (m : JoinModel) (req : JoinRequest)

def withoutChild (id : Nat) (parent : Device) : JoinModel :=
  m.deleteTheoAttributesChild id (getAddress16 parent.address32) req.deviceAddress64

def RefusedByParent (id : Nat) (parent : Device) : Prop :=
  ∃ s ∈ (m.withoutChild req id parent).subnets.find id,
    (m.withoutChild req id parent).refuses req s parent = true ∨
      (m.withoutChild req id parent).getAddress32 s req.deviceAddress64 = req.parentAddress32

/-- Behind the checks nothing is missing: the previous instance can be removed without its parent, an address is left then, and a backbone has its address from before. -/
def Completes (id : Nat) (parent : Device) : Prop :=
  ∃ s ∈ (m.withoutChild req id parent).subnets.find id,
    ∃ a ∈ (m.withoutChild req id parent).beginAdmission req id s
      ((m.withoutChild req id parent).getAddress32 s req.deviceAddress64),
    ∃ s' ∈ a.subnet?, a.model.AddressLeft a.subnetId s' req.deviceAddress64 a.oldAddress ∧
      (req.provisionedType = .backbone → (a.model.managerNeighborsMapping.lookup req.deviceAddress64).isSome) ∧
      parentAlive req a id = true

structure JoinsCleanly : Prop where
  gateway : m.exceedsMaxNodes req = false → req.provisionedType = .gateway → m.gateway = none →
    (m.managerNeighborsMapping.lookup req.deviceAddress64).isSome
  refused : ∀ id parent, m.exceedsMaxNodes req = false → req.provisionedType ≠ .gateway →
    m.confirmedParent req = some (id, parent) → m.RefusedByParent req id parent →
    ¬m.HasChild id (getAddress16 parent.address32) req.deviceAddress64
  joined : ∀ id parent, m.exceedsMaxNodes req = false → req.provisionedType ≠ .gateway →
    m.confirmedParent req = some (id, parent) → ¬m.RefusedByParent req id parent → m.Completes req id parent

variable {m}

theorem address128For_isSome_iff (address32 : Nat) : (m.address128For req address32).isSome ↔
    (req.provisionedType = .backbone → (m.managerNeighborsMapping.lookup req.deviceAddress64).isSome) := by
  unfold address128For
  split
  case isTrue h => exact ⟨fun hsome _ => hsome, fun hsome => hsome h⟩
  case isFalse h => exact ⟨fun _ hbackbone => absurd hbackbone h, fun _ => rfl⟩

theorem completeJoin_isSome_iff (id : Nat) (s : Subnet) (parent : Device) (oldAddress : Nat) :
    (m.completeJoin req id s parent oldAddress).isSome ↔ ∃ a ∈ m.beginAdmission req id s oldAddress, ∃ s' ∈ a.subnet?,
        a.model.AddressLeft a.subnetId s' req.deviceAddress64 a.oldAddress ∧
          (req.provisionedType = .backbone → (a.model.managerNeighborsMapping.lookup req.deviceAddress64).isSome) ∧
          parentAlive req a id = true := by
  constructor
  · intro h
    obtain ⟨m', h⟩ := isSome_iff_exists.mp h
    obtain ⟨a, ha, h⟩ := bind_eq_some_iff.mp h
    obtain ⟨s', hs', h⟩ := bind_eq_some_iff.mp h
    obtain ⟨⟨address32, last⟩, haddress, h⟩ := bind_eq_some_iff.mp h
    obtain ⟨address128, haddress128, h⟩ := bind_eq_some_iff.mp h
    have hleft := (getNextAddress32_isSome_iff _ _ _ _).mp (isSome_of_mem haddress)
    have hmapped := (address128For_isSome_iff req address32).mp (isSome_of_mem haddress128)
    refine ⟨a, ha, s', hs', hleft, hmapped, ?_⟩
    by_contra halive
    simp [halive] at h
  · rintro ⟨a, ha, s', hs', hleft, hmapped, halive⟩
    obtain ⟨⟨address32, last⟩, haddress⟩ := isSome_iff_exists.mp
      ((getNextAddress32_isSome_iff _ _ _ _).mpr hleft)
    obtain ⟨address128, haddress128⟩ := isSome_iff_exists.mp
      ((address128For_isSome_iff req address32).mpr hmapped)
    have hbegin : m.beginAdmission req id s oldAddress = some a := ha
    have hsubnet : a.subnet? = some s' := hs'
    simp only [completeJoin, hbegin, hsubnet, haddress, haddress128, halive, bind_eq_bind, bind_some,
      if_true, isSome_some]

theorem requestJoinSecurityGateway_clean_iff : (m.requestJoinSecurityGateway req).Clean m ↔
    (m.gateway = none → (m.managerNeighborsMapping.lookup req.deviceAddress64).isSome) := by
  unfold requestJoinSecurityGateway
  cases hgateway : m.gateway with
  | some gateway => exact ⟨fun _ h => (some_ne_none gateway h).elim, fun _ => Or.inl rfl⟩
  | none =>
    cases hmapping : m.managerNeighborsMapping.lookup req.deviceAddress64 with
    | none => exact ⟨False.elim, fun h => absurd (h rfl) Bool.false_ne_true⟩
    | some address128 => exact ⟨fun _ _ => rfl, fun _ => Or.inl rfl⟩

theorem joinThrough_eq (id : Nat) (parent : Device) : m.joinThrough req id parent =
    match (m.withoutChild req id parent).subnets.find id with
    | none => .aborted
    | some s =>
      if (m.withoutChild req id parent).refuses req s parent then
        .answered req.parentAddress32 .refusedInsufficientResources (m.withoutChild req id parent)
      else if (m.withoutChild req id parent).getAddress32 s req.deviceAddress64 = req.parentAddress32 then
        .answered req.parentAddress32 .fail (m.withoutChild req id parent)
      else
        ((m.withoutChild req id parent).completeJoin req id s parent
          ((m.withoutChild req id parent).getAddress32 s req.deviceAddress64)).elim .aborted .submitted := rfl

theorem joinThrough_clean_iff (id : Nat) (parent : Device) : (m.joinThrough req id parent).Clean m ↔
    (m.RefusedByParent req id parent → ¬m.HasChild id (getAddress16 parent.address32) req.deviceAddress64) ∧
      (¬m.RefusedByParent req id parent → m.Completes req id parent) := by
  have hsame : m.withoutChild req id parent = m ↔
      ¬m.HasChild id (getAddress16 parent.address32) req.deviceAddress64 :=
    deleteTheoAttributesChild_eq_self_iff id (getAddress16 parent.address32) req.deviceAddress64
  rw [← hsame, joinThrough_eq]
  unfold RefusedByParent Completes
  cases hs : (m.withoutChild req id parent).subnets.find id with
  | none => simp [Outcome.Clean]
  | some s =>
    have hcomplete := completeJoin_isSome_iff (m := m.withoutChild req id parent) req id s parent
      ((m.withoutChild req id parent).getAddress32 s req.deviceAddress64)
    by_cases hrefuses : (m.withoutChild req id parent).refuses req s parent = true
    · simp [hrefuses, Outcome.Clean]
    · by_cases hown : (m.withoutChild req id parent).getAddress32 s req.deviceAddress64 = req.parentAddress32
      · simp [hrefuses, hown, Outcome.Clean]
      · simp only [hrefuses, hown, mem_some, if_false, exists_eq_left', Bool.false_eq_true, or_self_iff,
          false_implies, not_false_eq_true, true_implies, true_and]
        rw [← hcomplete]
        cases (m.withoutChild req id parent).completeJoin req id s parent
          ((m.withoutChild req id parent).getAddress32 s req.deviceAddress64) with
        | none => simp [Outcome.Clean]
        | some m' => simp [Outcome.Clean]

theorem answered_fail_clean (address32 : Nat) : (Outcome.answered address32 .fail m).Clean m := Or.inr rfl

/-- Every request is answered or handed over, and leaves no trace when it is refused, exactly when the tables are such that it joins cleanly. -/
theorem requestJoinSecurity_clean_iff : (m.requestJoinSecurity req).Clean m ↔ m.JoinsCleanly req := by
  unfold requestJoinSecurity
  cases hmax : m.exceedsMaxNodes req with
  | true =>
    refine ⟨fun _ => ⟨?_, ?_, ?_⟩, fun _ => answered_fail_clean req.parentAddress32⟩
    · exact fun hexceeds => absurd (hmax.symm.trans hexceeds) (by decide)
    · exact fun _ _ hexceeds => absurd (hmax.symm.trans hexceeds) (by decide)
    · exact fun _ _ hexceeds => absurd (hmax.symm.trans hexceeds) (by decide)
  | false =>
    rw [if_neg Bool.false_ne_true]
    by_cases hgateway : req.provisionedType = .gateway
    · rw [if_pos hgateway, requestJoinSecurityGateway_clean_iff]
      constructor
      · intro h
        exact ⟨fun _ _ => h, fun _ _ _ hother => absurd hgateway hother, fun _ _ _ hother => absurd hgateway hother⟩
      · intro h
        exact h.gateway hmax hgateway
    · rw [if_neg hgateway]
      cases hparent : m.confirmedParent req with
      | none =>
        refine ⟨fun _ => ⟨fun _ h => absurd h hgateway, ?_, ?_⟩, fun _ => answered_fail_clean req.parentAddress32⟩
        · exact fun _ _ _ _ h => absurd (hparent.symm.trans h) (some_ne_none _).symm
        · exact fun _ _ _ _ h => absurd (hparent.symm.trans h) (some_ne_none _).symm
      | some p =>
        obtain ⟨id, parent⟩ := p
        simp only
        rw [joinThrough_clean_iff]
        constructor
        · rintro ⟨hrefused, hjoined⟩
          refine ⟨fun _ h => absurd h hgateway, ?_, ?_⟩
          · intro id' parent' _ _ h
            cases hparent.symm.trans h
            exact hrefused
          · intro id' parent' _ _ h
            cases hparent.symm.trans h
            exact hjoined
        · intro h
          exact ⟨h.refused id parent hmax hgateway hparent, h.joined id parent hmax hgateway hparent⟩

def sampleDevice (address64 : UInt8) (address32 : Nat) (deviceType : ProvisioningDeviceType) : Device where
  address64 := (Vector.replicate 8 0).setIfInBounds 7 address64
  address32
  address128 := []
  parent32 := 1
  status := .joinConfirmed
  deviceType
  children := ∅
  linkMetadata := none
  neighborMetadata := none
  graphMetadata := none

def sampleBackbone : Device :=
  { sampleDevice 3 (createAddress32 5 3) .backbone with
    children := {(sampleDevice 4 (createAddress32 5 4) .routerIo).address64}
    linkMetadata := some ⟨8, 9⟩ }

def sampleSubnet : Subnet where
  subnetNodes := (OrderedMap.empty.set 3 sampleBackbone).set 4
    { sampleDevice 4 (createAddress32 5 4) .routerIo with parent32 := createAddress32 5 3 }
  activeDevices := {3, 4}
  addressMapping := (AList.insert (sampleDevice 3 0 .backbone).address64 (createAddress32 5 3) ∅).insert
    (sampleDevice 4 0 .routerIo).address64 (createAddress32 5 4)
  backbone := some 3
  lastUnmatchDeviceId := .highest
  graph := some ⟨∅, ∅, []⟩
  settings := ⟨10, 28, 6, 6, 3, 1, 1⟩

def sampleModel : JoinModel where
  networkMaxNodes := 0
  ipv6AddrPrefix := 0xFC00
  manager := sampleDevice 1 1 .manager
  gateway := none
  subnets := OrderedMap.empty.set 5 sampleSubnet
  managerNeighborsMapping := ∅

def sampleRejoin : JoinRequest :=
  ⟨(sampleDevice 4 0 .routerIo).address64, createAddress32 5 3, .routerIo, 5⟩

/-- A child that joins again through its parent, whose link table has no room for a threshold more, is refused and is no longer a child. -/
theorem refused_rejoin_forgets_child : sampleModel.HasChild 5 3 sampleRejoin.deviceAddress64 ∧
      ¬(sampleModel.withoutChild sampleRejoin 5 sampleBackbone).HasChild 5 3 sampleRejoin.deviceAddress64 ∧
      sampleModel.requestJoinSecurity sampleRejoin = .answered (createAddress32 5 3) .refusedInsufficientResources
        (sampleModel.withoutChild sampleRejoin 5 sampleBackbone) ∧
      ¬(sampleModel.requestJoinSecurity sampleRejoin).Clean sampleModel := by
  have hchild : sampleModel.HasChild 5 3 sampleRejoin.deviceAddress64 := by decide +kernel
  have hlost : ¬(sampleModel.withoutChild sampleRejoin 5 sampleBackbone).HasChild 5 3 sampleRejoin.deviceAddress64 := by
    decide +kernel
  have hparent : sampleModel.confirmedParent sampleRejoin = some (5, sampleBackbone) := by decide +kernel
  have hrefuses : ∀ s ∈ (sampleModel.withoutChild sampleRejoin 5 sampleBackbone).subnets.find 5,
      (sampleModel.withoutChild sampleRejoin 5 sampleBackbone).refuses sampleRejoin s sampleBackbone = true := by
    decide +kernel
  have hanswer : sampleModel.requestJoinSecurity sampleRejoin = .answered (createAddress32 5 3)
      .refusedInsufficientResources (sampleModel.withoutChild sampleRejoin 5 sampleBackbone) := by
    rw [requestJoinSecurity, if_neg (by decide +kernel), if_neg (by decide +kernel), hparent]
    obtain ⟨s, hs⟩ := isSome_iff_exists.mp
      (show ((sampleModel.withoutChild sampleRejoin 5 sampleBackbone).subnets.find 5).isSome by decide +kernel)
    simp only
    rw [joinThrough_eq, hs]
    simp only
    rw [if_pos (hrefuses s hs)]
    rfl
  refine ⟨hchild, hlost, hanswer, ?_⟩
  rw [hanswer]
  rintro (hsuccess | hsame)
  · cases hsuccess
  · rw [hsame] at hlost
    exact hlost hchild

end JoinModel

end Isa100Gateway.SecurityAdmission
