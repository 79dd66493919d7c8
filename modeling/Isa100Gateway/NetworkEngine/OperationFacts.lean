import Mathlib.Data.Set.Insert
import Isa100Gateway.NetworkEngine.OperationsProcessor

/-!
# What the parts of the processor leave alone

Almost all of what the processor does to an operation changes attributes of its device and nothing that says which container the operation is in, what it is, or which containers there are.
-/

namespace Isa100Gateway.Operations

open Option State

namespace EntityIndex

variable {e e' : EntityIndex}

theorem entity_type (e : EntityIndex) : e.entity.type = e.type := by
  rw [entity]
  split <;> rfl

theorem entity_deviceAddress (e : EntityIndex) : e.entity.deviceAddress = e.deviceAddress := by
  rw [entity]
  split <;> rfl

theorem type_of_entity (h : e.entity = e'.entity) : e.type = e'.type := by
  rw [← entity_type e, h, entity_type]

theorem deviceAddress_of_entity (h : e.entity = e'.entity) : e.deviceAddress = e'.deviceAddress := by
  rw [← entity_deviceAddress e, h, entity_deviceAddress]

theorem entity_of_isIndexed (h : e.type.isIndexed = true) : e.entity = e := if_pos h

end EntityIndex

variable {e e' : EntityIndex}

theorem Device.find_congr (device : Device) (h : e.entity = e'.entity) : device.find e = device.find e' := by
  have htype := EntityIndex.type_of_entity h
  cases hindexed : e.type.isIndexed with
  | true =>
    have hindexed' : e'.type.isIndexed = true := htype ▸ hindexed
    rw [EntityIndex.entity_of_isIndexed hindexed, EntityIndex.entity_of_isIndexed hindexed'] at h
    rw [h]
  | false =>
    have hindexed' : e'.type.isIndexed = false := htype ▸ hindexed
    rw [find, find, hindexed, hindexed', htype]
    rfl

theorem Device.find_setAttribute_self (device : Device) (e : EntityIndex) (a : Attribute) :
    (device.setAttribute e a).find e = some a := by
  cases hindexed : e.type.isIndexed <;> simp [find, setAttribute, hindexed]

theorem EntityIndex.entity_eq_of_not_isIndexed (haddress : e'.deviceAddress = e.deviceAddress)
    (htype : e'.type = e.type) (hindexed : e.type.isIndexed = false) : e'.entity = e.entity := by
  rw [entity, entity, htype, hindexed, haddress]
  rfl

theorem Device.find_setAttribute_of_ne (device : Device) (a : Attribute)
    (haddress : e'.deviceAddress = e.deviceAddress) (h : e'.entity ≠ e.entity) :
    (device.setAttribute e a).find e' = device.find e' := by
  have hne : e' ≠ e := fun heq => h (congrArg EntityIndex.entity heq)
  cases hindexed : e.type.isIndexed with
  | true => simp [find, setAttribute, hindexed, hne]
  | false =>
    cases hindexed' : e'.type.isIndexed with
    | true => simp [find, setAttribute, hindexed, hindexed']
    | false =>
      have htype : e'.type ≠ e.type := fun htype => h (EntityIndex.entity_eq_of_not_isIndexed haddress htype hindexed)
      simp [find, setAttribute, hindexed, hindexed', htype]

namespace State

variable {s : State} {e e' : EntityIndex}

theorem find_congr (s : State) (h : e.entity = e'.entity) : s.find e = s.find e' := by
  rw [find, find, EntityIndex.deviceAddress_of_entity h]
  cases s.devices e'.deviceAddress with
  | none => rfl
  | some device => exact device.find_congr h

theorem devices_updateDevice_self (s : State) (address : Address32) (f : Device → Device) :
    (s.updateDevice address f).devices address = (s.devices address).map f :=
  Function.update_self address _ s.devices

theorem devices_updateDevice_of_ne (s : State) {address other : Address32} (f : Device → Device) (h : other ≠ address) :
    (s.updateDevice address f).devices other = s.devices other :=
  Function.update_of_ne h _ s.devices

theorem find_setAttribute_self (s : State) (e : EntityIndex) (a : Attribute) :
    (s.setAttribute e a).find e = (s.devices e.deviceAddress).map fun _ => a := by
  rw [find, setAttribute, devices_updateDevice_self]
  cases s.devices e.deviceAddress with
  | none => rfl
  | some device => exact device.find_setAttribute_self e a

theorem find_setAttribute_of_ne (s : State) (a : Attribute) (h : e'.entity ≠ e.entity) :
    (s.setAttribute e a).find e' = s.find e' := by
  rw [find, setAttribute, find]
  by_cases haddress : e'.deviceAddress = e.deviceAddress
  · rw [haddress, devices_updateDevice_self]
    cases s.devices e.deviceAddress with
    | none => rfl
    | some device => exact device.find_setAttribute_of_ne a haddress h
  · rw [devices_updateDevice_of_ne _ _ haddress]

end State

/-! ## Quiet changes -/

def Operation.core (operation : Operation) : Operation :=
  { operation with
    containerId := 0
    operationDependency := []
    entityDependency := []
    errorCode := .success
    physicalEntity := none }

section Core

variable {a b : Operation}

theorem Operation.of_core {β : Type*} (f : Operation → β) (hf : ∀ operation, f operation.core = f operation)
    (h : a.core = b.core) : f a = f b := by rw [← hf a, h, hf b]

theorem Operation.type_of_core (h : a.core = b.core) : a.type = b.type :=
  of_core type (fun _ => rfl) h

theorem Operation.entityIndex_of_core (h : a.core = b.core) : a.entityIndex = b.entityIndex :=
  of_core entityIndex (fun _ => rfl) h

theorem Operation.owner_of_core (h : a.core = b.core) : a.owner = b.owner :=
  of_core owner (fun _ => rfl) h

theorem Operation.dependsOn_of_core (h : a.core = b.core) : a.dependsOn = b.dependsOn :=
  of_core dependsOn (fun _ => rfl) h

end Core

/-- What the operations are, and the containers other than the touched ones, stay as they were; operations may be committed. -/
structure Steady (touched : Set ContainerId) (s s' : State) : Prop where
  containers : ∀ id, id ∉ touched → s'.containers id = s.containers id
  listOfContainers : s'.listOfContainers = s.listOfContainers
  handed : s'.handed = s.handed
  ended : s'.ended = s.ended
  added : s'.added = s.added
  core : ∀ p, (s'.operations p).core = (s.operations p).core
  committed : ∀ p ∈ s.committed, p ∈ s'.committed

structure Quiet (touched : Set ContainerId) (s s' : State) : Prop extends Steady touched s s' where
  containerId : ∀ p, (s'.operations p).containerId = (s.operations p).containerId

/-- Only the devices, the values and the entities an operation needs may have changed; operations may be given to the sender and committed. -/
structure Calm (s s' : State) : Prop where
  containers : s'.containers = s.containers
  listOfContainers : s'.listOfContainers = s.listOfContainers
  handed : s'.handed = s.handed
  ended : s'.ended = s.ended
  added : s'.added = s.added
  failed : s'.failed = s.failed
  core : ∀ p, (s'.operations p).core = (s.operations p).core
  containerId : ∀ p, (s'.operations p).containerId = (s.operations p).containerId
  operationDependency : ∀ p, (s'.operations p).operationDependency = (s.operations p).operationDependency
  errorCode : ∀ p, (s'.operations p).errorCode = (s.operations p).errorCode
  committed : ∀ p ∈ s.committed, p ∈ s'.committed

structure Silent (s s' : State) : Prop extends Calm s s' where
  sent : s'.sent = s.sent

variable {touched : Set ContainerId}

namespace Calm

variable {s s₁ s₂ : State}

theorem refl (s : State) : Calm s s :=
  ⟨rfl, rfl, rfl, rfl, rfl, rfl, fun _ => rfl, fun _ => rfl, fun _ => rfl, fun _ => rfl, fun _ hp => hp⟩

theorem trans (h₁ : Calm s s₁) (h₂ : Calm s₁ s₂) : Calm s s₂ where
  containers := h₂.containers.trans h₁.containers
  listOfContainers := h₂.listOfContainers.trans h₁.listOfContainers
  handed := h₂.handed.trans h₁.handed
  ended := h₂.ended.trans h₁.ended
  added := h₂.added.trans h₁.added
  failed := h₂.failed.trans h₁.failed
  core p := (h₂.core p).trans (h₁.core p)
  containerId p := (h₂.containerId p).trans (h₁.containerId p)
  operationDependency p := (h₂.operationDependency p).trans (h₁.operationDependency p)
  errorCode p := (h₂.errorCode p).trans (h₁.errorCode p)
  committed p hp := h₂.committed p (h₁.committed p hp)

theorem quiet (h : Calm s s₁) : Quiet touched s s₁ :=
  ⟨⟨fun id _ => congrFun h.containers id, h.listOfContainers, h.handed, h.ended, h.added, h.core, h.committed⟩,
    h.containerId⟩

end Calm

namespace Silent

variable {s s₁ s₂ : State}

theorem refl (s : State) : Silent s s := ⟨Calm.refl s, rfl⟩

theorem trans (h₁ : Silent s s₁) (h₂ : Silent s₁ s₂) : Silent s s₂ :=
  ⟨h₁.toCalm.trans h₂.toCalm, h₂.sent.trans h₁.sent⟩

theorem runs {α : Type*} {f : State → α → Option State} (hf : ∀ s a s', f s a = some s' → Silent s s')
    {as : List α} (h : Machine.runs f s as = some s₁) : Silent s s₁ := by
  apply Machine.runs_invariant (refl s) _ h
  intro t a t' _ ht hstep
  exact ht.trans (hf t a t' hstep)

theorem quiet (h : Silent s s₁) : Quiet touched s s₁ := h.toCalm.quiet

end Silent

namespace Steady

variable {s s₁ s₂ : State}

theorem refl (s : State) : Steady touched s s := ⟨fun _ _ => rfl, rfl, rfl, rfl, rfl, fun _ => rfl, fun _ hp => hp⟩

theorem trans (h₁ : Steady touched s s₁) (h₂ : Steady touched s₁ s₂) : Steady touched s s₂ where
  containers id hid := (h₂.containers id hid).trans (h₁.containers id hid)
  listOfContainers := h₂.listOfContainers.trans h₁.listOfContainers
  handed := h₂.handed.trans h₁.handed
  ended := h₂.ended.trans h₁.ended
  added := h₂.added.trans h₁.added
  core p := (h₂.core p).trans (h₁.core p)
  committed p hp := h₂.committed p (h₁.committed p hp)

theorem mono {touched' : Set ContainerId} (h : Steady touched s s₁) (hsub : touched ⊆ touched') :
    Steady touched' s s₁ :=
  ⟨fun id hid => h.containers id fun hmem => hid (hsub hmem), h.listOfContainers, h.handed, h.ended, h.added, h.core,
    h.committed⟩

end Steady

namespace Quiet

variable {s s₁ s₂ : State}

theorem refl (s : State) : Quiet touched s s := ⟨Steady.refl s, fun _ => rfl⟩

theorem trans (h₁ : Quiet touched s s₁) (h₂ : Quiet touched s₁ s₂) : Quiet touched s s₂ :=
  ⟨h₁.toSteady.trans h₂.toSteady, fun p => (h₂.containerId p).trans (h₁.containerId p)⟩

theorem runs {α : Type*} {f : State → α → Option State} (hf : ∀ s a s', f s a = some s' → Quiet touched s s')
    {as : List α} (h : Machine.runs f s as = some s₁) : Quiet touched s s₁ := by
  apply Machine.runs_invariant (refl s) _ h
  intro t a t' _ ht hstep
  exact ht.trans (hf t a t' hstep)

theorem mono {touched' : Set ContainerId} (h : Quiet touched s s₁) (hsub : touched ⊆ touched') : Quiet touched' s s₁ :=
  ⟨h.toSteady.mono hsub, h.containerId⟩

theorem containers_eq (h : Quiet ∅ s s₁) : s₁.containers = s.containers := by
  funext id
  exact h.containers id (Set.notMem_empty id)

end Quiet

namespace State

variable {s s' : State} {p : OperationPointer} {e : EntityIndex}

theorem silent_of_devices (s : State) (devices : Address32 → Option Device) : Silent s { s with devices := devices } :=
  ⟨⟨rfl, rfl, rfl, rfl, rfl, rfl, fun _ => rfl, fun _ => rfl, fun _ => rfl, fun _ => rfl, fun _ hp => hp⟩, rfl⟩

theorem silent_updateDevice (s : State) (address : Address32) (f : Device → Device) :
    Silent s (s.updateDevice address f) :=
  silent_of_devices s _

theorem silent_setAttribute (s : State) (e : EntityIndex) (a : Attribute) : Silent s (s.setAttribute e a) :=
  silent_updateDevice s _ _

theorem operations_updateOperation_self (s : State) (p : OperationPointer) (f : Operation → Operation) :
    (s.updateOperation p f).operations p = f (s.operations p) := Function.update_self p _ s.operations

theorem operations_updateOperation_of_ne (s : State) {p q : OperationPointer} (f : Operation → Operation) (h : q ≠ p) :
    (s.updateOperation p f).operations q = s.operations q := Function.update_of_ne h _ s.operations

variable {f : Operation → Operation} {result : State × Bool}

theorem steady_updateOperation (hf : ∀ operation, (f operation).core = operation.core) :
    Steady touched s (s.updateOperation p f) := by
  refine ⟨fun _ _ => rfl, rfl, rfl, rfl, rfl, ?_, fun _ hp => hp⟩
  intro q
  by_cases hq : q = p
  · rw [hq, operations_updateOperation_self, hf]
  · rw [operations_updateOperation_of_ne s f hq]

theorem quiet_updateOperation (hf : ∀ operation, (f operation).core = operation.core)
    (hcontainer : ∀ operation, (f operation).containerId = operation.containerId) :
    Quiet touched s (s.updateOperation p f) := by
  refine ⟨steady_updateOperation hf, ?_⟩
  intro q
  by_cases hq : q = p
  · rw [hq, operations_updateOperation_self, hcontainer]
  · rw [operations_updateOperation_of_ne s f hq]

theorem silent_updateOperation (hcore : ∀ operation, (f operation).core = operation.core)
    (hcontainer : ∀ operation, (f operation).containerId = operation.containerId)
    (hdependency : ∀ operation, (f operation).operationDependency = operation.operationDependency)
    (herror : ∀ operation, (f operation).errorCode = operation.errorCode) : Silent s (s.updateOperation p f) := by
  refine ⟨⟨rfl, rfl, rfl, rfl, rfl, rfl, ?_, ?_, ?_, ?_, fun _ hp => hp⟩, rfl⟩ <;> intro q <;> by_cases hq : q = p
  · rw [hq, operations_updateOperation_self, hcore]
  · rw [operations_updateOperation_of_ne s f hq]
  · rw [hq, operations_updateOperation_self, hcontainer]
  · rw [operations_updateOperation_of_ne s f hq]
  · rw [hq, operations_updateOperation_self, hdependency]
  · rw [operations_updateOperation_of_ne s f hq]
  · rw [hq, operations_updateOperation_self, herror]
  · rw [operations_updateOperation_of_ne s f hq]

theorem silent_destroyPhysicalEntity (s : State) (p : OperationPointer) : Silent s (s.destroyPhysicalEntity p) :=
  silent_updateOperation (fun _ => rfl) (fun _ => rfl) (fun _ => rfl) fun _ => rfl

theorem silent_addOperationToWaitingList (h : s.addOperationToWaitingList p = some s') : Silent s s' := by
  simp only [addOperationToWaitingList] at h
  split at h
  · cases h
    exact Silent.refl s
  · split at h
    · split at h
      · cases h
        exact Silent.refl s
      · cases h
        exact silent_setAttribute s _ _
    · cases h

theorem silent_removeOperationInWaitingList (h : s.removeOperationInWaitingList p = some s') : Silent s s' := by
  simp only [removeOperationInWaitingList] at h
  split at h
  · cases h
    exact Silent.refl s
  · split at h
    · split at h
      · cases h
        exact Silent.refl s
      · cases h
        exact silent_setAttribute s _ _
    · cases h

theorem silent_isFirstInWaitingList (h : s.isFirstInWaitingList p = some result) : Silent s result.1 := by
  simp only [isFirstInWaitingList] at h
  split at h
  · cases h
    exact Silent.refl s
  · split at h
    · obtain ⟨s₁, hs₁, rfl⟩ := map_eq_some_iff.mp h
      exact silent_addOperationToWaitingList hs₁
    · split at h
      · split at h
        · cases h
          exact Silent.refl s
        · obtain ⟨first, -, rfl⟩ := map_eq_some_iff.mp h
          exact Silent.refl s
      · cases h

theorem silent_addDirectDependencies (h : s.addDirectDependencies p = some s') : Silent s s' := by
  simp only [addDirectDependencies] at h
  split at h
  · obtain ⟨dependencies, -, rfl⟩ := map_eq_some_iff.mp h
    exact silent_updateOperation (fun _ => rfl) (fun _ => rfl) (fun _ => rfl) fun _ => rfl
  · cases h
    exact Silent.refl s

theorem silent_enqueue (h : s.enqueue p = some s') : Silent s s' := by
  obtain ⟨s₁, hs₁, hrest⟩ := bind_eq_some_iff.mp h
  exact (silent_addOperationToWaitingList hs₁).trans (silent_addDirectDependencies hrest)

theorem silent_updatePhyEntity (h : s.updatePhyEntity p = some result) : Silent s result.1 := by
  simp only [updatePhyEntity] at h
  split at h
  · split at h
    · split at h
      · split at h
        · cases h
          exact silent_setAttribute s _ _
        · cases h
          exact Silent.refl s
      · split at h
        · cases h
          exact Silent.refl s
        · split at h
          · cases h
            exact silent_setAttribute s _ _
          · cases h
            exact silent_setAttribute s _ _
    · cases h
  · cases h
    exact Silent.refl s

theorem silent_commitAttribute (s : State) (operation : Operation) (a : Attribute) :
    Silent s (s.commitAttribute operation a) := by
  simp only [commitAttribute]
  split
  · exact silent_setAttribute s _ _
  · split
    · exact silent_setAttribute s _ _
    · split
      · exact silent_updateDevice s _ _
      · exact silent_setAttribute s _ _

theorem silent_recordCommitted (s : State) (p : OperationPointer) : Silent s (s.recordCommitted p) :=
  ⟨⟨rfl, rfl, rfl, rfl, rfl, rfl, fun _ => rfl, fun _ => rfl, fun _ => rfl, fun _ => rfl,
    fun _ hq => List.mem_append_left [p] hq⟩, rfl⟩

theorem silent_commitChanges (h : s.commitChanges p = some result) : Silent s result.1 := by
  obtain ⟨s₁, hs₁, hrest⟩ := bind_eq_some_iff.mp h
  have hremoved : Silent s s₁ := silent_removeOperationInWaitingList hs₁
  dsimp only at hrest
  split at hrest
  · split at hrest
    · split at hrest
      · cases hrest
        exact hremoved.trans (silent_recordCommitted s₁ p)
      · cases hrest
        exact hremoved
    · rename_i a _
      cases hrest
      have happlied := hremoved.trans (silent_commitAttribute s₁ (s₁.operations p) a)
      exact (happlied.trans (silent_destroyPhysicalEntity _ p)).trans (silent_recordCommitted _ p)
  · cases hrest

theorem mem_committed_of_commitChanges (h : s.commitChanges p = some result)
    (hcommitted : result.2 = true) : p ∈ result.1.committed := by
  obtain ⟨s₁, -, hrest⟩ := bind_eq_some_iff.mp h
  simp only at hrest
  split at hrest
  · split at hrest
    · split at hrest
      · cases hrest
        exact List.mem_append_right _ (List.mem_singleton_self p)
      · cases hrest
        cases hcommitted
    · cases hrest
      exact List.mem_append_right _ (List.mem_singleton_self p)
  · cases hrest

theorem silent_destroyOperation (h : s.destroyOperation p = some s') : Silent s s' := by
  obtain ⟨s₁, hs₁, rfl⟩ := map_eq_some_iff.mp h
  exact (silent_removeOperationInWaitingList hs₁).trans (silent_destroyPhysicalEntity s₁ p)

theorem silent_canSendResolved {device : Device} {result : State × ProcessedOperationStatus}
    (h : s.canSendResolved device p = some result) : Silent s result.1 := by
  obtain ⟨status, -, hrest⟩ := bind_eq_some_iff.mp h
  split at hrest
  · obtain ⟨status', -, hrest⟩ := bind_eq_some_iff.mp hrest
    split at hrest
    · obtain ⟨first, hfirst, rfl⟩ := map_eq_some_iff.mp hrest
      exact silent_isFirstInWaitingList hfirst
    · cases hrest
      exact Silent.refl s
  · cases hrest
    exact Silent.refl s

theorem quiet_canSendOperation {id : ContainerId} {result : State × ProcessedOperationStatus}
    (h : s.canSendOperation id p = some result) : Quiet touched s result.1 := by
  simp only [canSendOperation] at h
  split at h
  · cases h
    exact Quiet.refl s
  · split at h
    · cases h
      exact Quiet.refl s
    · split at h
      · exact (silent_canSendResolved h).quiet
      · have hkept : Quiet touched s (s.updateOperation p fun operation =>
            { operation with operationDependency := s.unresolvedDependencies id p }) :=
          quiet_updateOperation (fun _ => rfl) fun _ => rfl
        split at h
        · exact hkept.trans (silent_canSendResolved h).quiet
        · cases h
          exact hkept

theorem isSome_find_of_updatePhyEntity (h : s.updatePhyEntity p = some result) (hgoes : result.2 = true)
    (hdevice : (s.devices (s.operations p).owner).isSome) : (result.1.find (s.operations p).entityIndex).isSome := by
  simp only [updatePhyEntity] at h
  split at h
  · split at h
    · split at h
      · split at h
        · cases h
          rw [find_setAttribute_self, isSome_map]
          exact hdevice
        · cases h
          cases hgoes
      · split at h
        · cases h
          cases hgoes
        · split at h
          · cases h
            rw [find_setAttribute_self, isSome_map]
            exact hdevice
          · cases h
            rw [find_setAttribute_self, isSome_map]
            exact hdevice
    · cases h
  · cases h
    cases hgoes

theorem isSome_find_removeOperationInWaitingList (h : s.removeOperationInWaitingList p = some s') (e : EntityIndex) :
    (s'.find e).isSome = (s.find e).isSome := by
  simp only [removeOperationInWaitingList] at h
  split at h
  · cases h
    rfl
  · rename_i device hdevice
    split at h
    · split at h
      · cases h
        rfl
      · rename_i a ha
        cases h
        by_cases he : e.entity = (s.operations p).entityIndex.entity
        · rw [find_congr _ he, find_setAttribute_self, isSome_map, find_congr s he, find]
          change (s.devices (s.operations p).owner).isSome = ((s.devices (s.operations p).owner).bind _).isSome
          rw [hdevice, bind_some, ha]
          rfl
        · rw [find_setAttribute_of_ne _ _ he]
    · cases h

theorem commitChanges_of_isSome_find (h : s.commitChanges p = some result)
    (hfind : (s.find (s.operations p).entityIndex).isSome) : result.2 = true := by
  obtain ⟨s₁, hs₁, hrest⟩ := bind_eq_some_iff.mp h
  have hquiet : Quiet ∅ s s₁ := (silent_removeOperationInWaitingList hs₁).quiet
  have hcore := hquiet.core p
  rw [← isSome_find_removeOperationInWaitingList hs₁, ← Operation.entityIndex_of_core hcore] at hfind
  dsimp only at hrest
  split at hrest
  · split at hrest
    · rename_i hnone
      rw [hnone] at hfind
      cases hfind
    · cases hrest
      rfl
  · cases hrest

theorem calm_giveToSender (s : State) (p : OperationPointer) : Calm s (s.giveToSender p) := by
  have hsent : ∀ records, Calm s { s with sent := records } := fun records =>
    ⟨rfl, rfl, rfl, rfl, rfl, rfl, fun _ => rfl, fun _ => rfl, fun _ => rfl, fun _ => rfl, fun _ hq => hq⟩
  simp only [giveToSender]
  split
  · exact hsent _
  · exact (hsent _).trans (silent_destroyPhysicalEntity _ p).toCalm

theorem find_giveToSender (s : State) (p : OperationPointer) (e : EntityIndex) :
    (s.giveToSender p).find e = s.find e := by
  simp only [giveToSender]
  split <;> rfl

inductive Sends (s : State) (p : OperationPointer) : State × SentOperationStatus → Prop
  | refused {t : State} : s.updatePhyEntity p = some (t, false) →
    Sends s p (t.destroyPhysicalEntity p, .operationSentAndConfirmed)
  | done {t u : State} {device : Device} : s.updatePhyEntity p = some (t, true) →
    s.devices (s.operations p).owner = some device → sendEnded device (s.operations p) = true →
    (t.giveToSender p).commitChanges p = some (u, true) →
    Sends s p (u.destroyPhysicalEntity p, .operationSentAndConfirmed)
  | sent {t : State} {device : Device} : s.updatePhyEntity p = some (t, true) →
    s.devices (s.operations p).owner = some device → sendEnded device (s.operations p) = false →
    Sends s p (t.giveToSender p, .operationSent)

theorem sends_of_sendSingleOperation {result : State × SentOperationStatus} (h : s.sendSingleOperation p = some result)
    (hdevice : (s.devices (s.operations p).owner).isSome) : Sends s p result := by
  obtain ⟨device, hdevice⟩ := isSome_iff_exists.mp hdevice
  simp only [sendSingleOperation, hdevice] at h
  obtain ⟨⟨t, goes⟩, ht, hrest⟩ := bind_eq_some_iff.mp h
  cases goes with
  | false =>
    cases hrest
    exact .refused ht
  | true =>
    cases hended : sendEnded device (s.operations p) with
    | false =>
      simp only [hended] at hrest
      cases hrest
      exact .sent ht hdevice hended
    | true =>
      simp only [hended] at hrest
      obtain ⟨⟨u, committed⟩, hu, rfl⟩ := map_eq_some_iff.mp hrest
      have hfind := isSome_find_of_updatePhyEntity ht rfl (by rw [hdevice]; rfl)
      have hcalm : Calm s (t.giveToSender p) := (silent_updatePhyEntity ht).toCalm.trans (calm_giveToSender t p)
      rw [← find_giveToSender t p, ← Operation.entityIndex_of_core (hcalm.core p)] at hfind
      obtain rfl : committed = true := commitChanges_of_isSome_find hu hfind
      exact .done ht hdevice hended hu

theorem Sends.calm {result : State × SentOperationStatus} (h : Sends s p result) : Calm s result.1 := by
  cases h with
  | refused ht => exact ((silent_updatePhyEntity ht).trans (silent_destroyPhysicalEntity _ p)).toCalm
  | done ht _ _ hu =>
    have hgiven : Calm s _ := (silent_updatePhyEntity ht).toCalm.trans (calm_giveToSender _ p)
    exact (hgiven.trans (silent_commitChanges hu).toCalm).trans (silent_destroyPhysicalEntity _ p).toCalm
  | sent ht => exact (silent_updatePhyEntity ht).toCalm.trans (calm_giveToSender _ p)

theorem Sends.quiet {result : State × SentOperationStatus} (h : Sends s p result) :
    Quiet touched s result.1 := h.calm.quiet

theorem containers_updateContainer_self (s : State) (id : ContainerId) (f : Container → Container) :
    (s.updateContainer id f).containers id = f (s.containers id) := Function.update_self id _ s.containers

theorem containers_updateContainer_of_ne (s : State) {id other : ContainerId} (f : Container → Container)
    (h : other ≠ id) :
    (s.updateContainer id f).containers other = s.containers other := Function.update_of_ne h _ s.containers

theorem quiet_updateContainer (s : State) {id : ContainerId} (f : Container → Container) (hid : id ∈ touched) :
    Quiet touched s (s.updateContainer id f) := by
  refine ⟨⟨?_, rfl, rfl, rfl, rfl, fun _ => rfl, fun _ hq => hq⟩, fun _ => rfl⟩
  intro other hother
  exact containers_updateContainer_of_ne s f fun heq => hother (heq ▸ hid)

end State

/-! ## One operation of a walk -/

/-- The operation leaves the container without having been sent: it will never be, or the model refuses it. -/
def State.Loses (s : State) (id : ContainerId) (p : OperationPointer) : Prop :=
  ∃ result ∈ s.canSendOperation id p,
    result.2 = .deviceDeleted ∨ result.2 = .canBeSent ∧ ∃ t ∈ result.1.updatePhyEntity p, t.2 = false

instance (s : State) (id : ContainerId) (p : OperationPointer) : Decidable (s.Loses id p) :=
  inferInstanceAs (Decidable (∃ _ ∈ _, _))

namespace State

variable {s t : State} {p : OperationPointer} {id : ContainerId}

structure Ready (s : State) (device : Device) (p : OperationPointer) : Prop where
  entity : getSendStatusForEntity device (s.operations p).entityIndex .canBeSent = some .canBeSent
  dependencies : s.entityDependencyStatus (s.operations p).entityDependency = some .canBeSent
  first : s.isFirstInWaitingList p = some (s, true)

theorem eq_of_isFirstInWaitingList (h : s.isFirstInWaitingList p = some (t, true)) : t = s := by
  simp only [isFirstInWaitingList] at h
  split at h
  · exact (congrArg Prod.fst (Option.some.inj h)).symm
  · split at h
    · obtain ⟨u, -, hu⟩ := map_eq_some_iff.mp h
      cases congrArg Prod.snd hu
    · split at h
      · split at h
        · exact (congrArg Prod.fst (Option.some.inj h)).symm
        · obtain ⟨first, -, hfirst⟩ := map_eq_some_iff.mp h
          exact (congrArg Prod.fst hfirst).symm
      · cases h

theorem ready_of_canSendResolved {device : Device} (h : s.canSendResolved device p = some (t, .canBeSent)) :
    t = s ∧ s.Ready device p := by
  obtain ⟨status, hentity, hrest⟩ := bind_eq_some_iff.mp h
  split at hrest
  · rename_i hcan
    obtain ⟨status', hdependencies, hrest⟩ := bind_eq_some_iff.mp hrest
    split at hrest
    · rename_i hcan'
      obtain ⟨⟨u, first⟩, hfirst, hresult⟩ := map_eq_some_iff.mp hrest
      cases first with
      | false => cases congrArg Prod.snd hresult
      | true =>
        obtain rfl : u = t := congrArg Prod.fst hresult
        obtain rfl := eq_of_isFirstInWaitingList hfirst
        exact ⟨rfl, hcan ▸ hentity, hcan' ▸ hdependencies, hfirst⟩
    · rename_i hnot
      exact absurd (congrArg Prod.snd (Option.some.inj hrest)) hnot
  · rename_i hnot
    exact absurd (congrArg Prod.snd (Option.some.inj hrest)) hnot

def Unhindered (s : State) (id : ContainerId) (p : OperationPointer) : Prop :=
  (s.operations p).containerId ≠ 0 → s.unresolvedDependencies id p = []

theorem canBeSent_cases (h : s.canSendOperation id p = some (t, .canBeSent)) :
    ∃ device, s.devices (s.operations p).owner = some device ∧ (device.isManager = true ∧ t = s ∨
      device.isManager = false ∧ s.Unhindered id p ∧ ∃ operationDependency,
        t = s.updateOperation p (fun operation => { operation with operationDependency := operationDependency }) ∧
          t.Ready device p) := by
  simp only [canSendOperation] at h
  split at h
  · cases congrArg Prod.snd (Option.some.inj h)
  · rename_i device hdevice
    refine ⟨device, hdevice, ?_⟩
    split at h
    · rename_i hmanager
      exact .inl ⟨hmanager, (congrArg Prod.fst (Option.some.inj h)).symm⟩
    · rename_i hmanager
      apply Or.inr
      refine ⟨Bool.not_eq_true _ ▸ hmanager, ?_⟩
      split at h
      · rename_i hzero
        obtain ⟨rfl, hready⟩ := ready_of_canSendResolved h
        refine ⟨fun hnonzero => absurd hzero hnonzero, (t.operations p).operationDependency, ?_, hready⟩
        have hsame : Function.update t.operations p (t.operations p) = t.operations :=
          Function.update_eq_self p t.operations
        rw [updateOperation, hsame]
      · split at h
        · rename_i hunresolved
          obtain ⟨rfl, hready⟩ := ready_of_canSendResolved h
          exact ⟨fun _ => hunresolved, _, rfl, hready⟩
        · cases congrArg Prod.snd (Option.some.inj h)

theorem devices_of_canSendOperation (h : s.canSendOperation id p = some (t, .canBeSent)) :
    t.devices = s.devices ∧ (t.devices (t.operations p).owner).isSome := by
  have hquiet : Quiet ∅ s t := quiet_canSendOperation h
  obtain ⟨device, hdevice, hcase⟩ := canBeSent_cases h
  have hsame : t.devices = s.devices := by
    rcases hcase with ⟨-, rfl⟩ | ⟨-, -, operationDependency, rfl, -⟩
    · rfl
    · rfl
  rw [Operation.owner_of_core (hquiet.core p), hsame, hdevice]
  exact ⟨rfl, rfl⟩

theorem quiet_recordFailed (s : State) (p : OperationPointer) : Quiet touched s (s.recordFailed p) :=
  ⟨⟨fun _ _ => rfl, rfl, rfl, rfl, rfl, fun _ => rfl, fun _ hq => hq⟩, fun _ => rfl⟩

theorem quiet_failOperation (s : State) (p : OperationPointer) : Quiet touched s (s.failOperation p) := by
  have hfailed : Quiet touched s (s.updateOperation p fun operation => { operation with errorCode := .error }) :=
    quiet_updateOperation (fun _ => rfl) fun _ => rfl
  exact hfailed.trans (quiet_recordFailed _ p)

theorem quiet_eraseUnsent (s : State) (id : ContainerId) (p : OperationPointer) : Quiet {id} s (s.eraseUnsent id p) :=
  quiet_updateContainer s _ rfl

theorem quiet_updateTimer (s : State) (id : ContainerId) (currentTime : UInt32) :
    Quiet {id} s (s.updateTimer id currentTime) :=
  quiet_updateContainer s _ rfl

theorem quiet_addToSentOperations (s : State) (id : ContainerId) (p : OperationPointer) :
    Quiet {id} s (s.addToSentOperations id p) :=
  quiet_updateContainer s _ rfl

end State

namespace SendPass

inductive Visits (id : ContainerId) (currentTime : UInt32) (pass : SendPass) (p : OperationPointer) : SendPass → Prop
  | waits {t : State} : pass.state.canSendOperation id p = some (t, .existsDependencies) →
    Visits id currentTime pass p ⟨t, pass.confirmedOperations⟩
  | dropped {t : State} : pass.state.canSendOperation id p = some (t, .deviceDeleted) →
    Visits id currentTime pass p (dropOne ⟨t, pass.confirmedOperations⟩ id p)
  | answered {t u : State} : pass.state.canSendOperation id p = some (t, .canBeSent) →
    Sends t p (u, .operationSentAndConfirmed) →
    Visits id currentTime pass p ⟨(u.updateTimer id currentTime).eraseUnsent id p, pass.confirmedOperations ++ [p]⟩
  | sent {t u : State} : pass.state.canSendOperation id p = some (t, .canBeSent) → Sends t p (u, .operationSent) →
    Visits id currentTime pass p
      ⟨((u.updateTimer id currentTime).addToSentOperations id p).eraseUnsent id p, pass.confirmedOperations⟩

variable {id : ContainerId} {currentTime : UInt32} {pass pass' : SendPass} {p : OperationPointer}

theorem visits_of_visit (h : pass.visit id currentTime p = some pass') : Visits id currentTime pass p pass' := by
  obtain ⟨⟨t, status⟩, ht, hrest⟩ := bind_eq_some_iff.mp h
  cases status with
  | existsDependencies =>
    cases hrest
    exact .waits ht
  | deviceDeleted =>
    cases hrest
    exact .dropped ht
  | canBeSent =>
    obtain ⟨⟨u, status⟩, hu, rfl⟩ := map_eq_some_iff.mp hrest
    have hsends := sends_of_sendSingleOperation hu (devices_of_canSendOperation ht).2
    cases status with
    | operationSent => exact .sent ht hsends
    | operationSentAndConfirmed => exact .answered ht hsends

theorem Visits.quiet (h : Visits id currentTime pass p pass') : Quiet {id} pass.state pass'.state := by
  cases h with
  | waits ht => exact quiet_canSendOperation ht
  | dropped ht =>
    have hfailed : Quiet {id} pass.state _ := (quiet_canSendOperation ht).trans (quiet_failOperation _ p)
    exact hfailed.trans (quiet_eraseUnsent _ id p)
  | answered ht hsends =>
    have hdone : Quiet {id} pass.state _ := (quiet_canSendOperation ht).trans hsends.quiet
    exact (hdone.trans (quiet_updateTimer _ id currentTime)).trans (quiet_eraseUnsent _ id p)
  | sent ht hsends =>
    have hdone : Quiet {id} pass.state _ := (quiet_canSendOperation ht).trans hsends.quiet
    have hmoved := (hdone.trans (quiet_updateTimer _ id currentTime)).trans (quiet_addToSentOperations _ id p)
    exact hmoved.trans (quiet_eraseUnsent _ id p)

inductive Fate (id : ContainerId) (currentTime : UInt32) (pass : SendPass) (p : OperationPointer)
    (pass' : SendPass) : Prop
  | stays (container : pass'.state.containers id = pass.state.containers id)
      (confirmed : pass'.confirmedOperations = pass.confirmedOperations)
  | sent (container : pass'.state.containers id = { pass.state.containers id with
          taiCutover := currentTime
          sentOperations := (pass.state.containers id).sentOperations ++ [p]
          unsentOperations := (pass.state.containers id).unsentOperations.erase p })
      (confirmed : pass'.confirmedOperations = pass.confirmedOperations)
  | leaves (taiCutover : UInt32) (container : pass'.state.containers id = { pass.state.containers id with
          taiCutover := taiCutover
          unsentOperations := (pass.state.containers id).unsentOperations.erase p })
      (confirmed : pass'.confirmedOperations = pass.confirmedOperations ++ [p])
      (committed : p ∈ pass'.state.committed ∨ pass.state.Loses id p)

theorem Visits.fate (h : Visits id currentTime pass p pass') : Fate id currentTime pass p pass' := by
  cases h with
  | waits ht =>
    have hquiet : Quiet ∅ pass.state _ := quiet_canSendOperation ht
    exact .stays (congrFun hquiet.containers_eq id) rfl
  | @dropped t ht =>
    have hquiet : Quiet ∅ pass.state (t.failOperation p) :=
      (quiet_canSendOperation ht).trans (quiet_failOperation t p)
    have hcontainer := congrFun hquiet.containers_eq id
    refine .leaves (pass.state.containers id).taiCutover ?_ rfl (.inr ⟨_, ht, .inl rfl⟩)
    rw [dropOne, eraseUnsent, containers_updateContainer_self, hcontainer]
  | @answered t u ht hsends =>
    have hquiet : Quiet ∅ pass.state u := (quiet_canSendOperation ht).trans hsends.quiet
    have hcontainer := congrFun hquiet.containers_eq id
    refine .leaves currentTime ?_ rfl ?_
    · rw [eraseUnsent, containers_updateContainer_self, updateTimer, containers_updateContainer_self, hcontainer]
    · generalize hresult : (u, SentOperationStatus.operationSentAndConfirmed) = result at hsends
      cases hsends with
      | refused hrefused => exact .inr ⟨_, ht, .inr ⟨rfl, _, hrefused, rfl⟩⟩
      | done _ _ _ hcommitted =>
        obtain rfl := congrArg Prod.fst hresult
        exact .inl (mem_committed_of_commitChanges hcommitted rfl)
      | sent _ _ _ => cases congrArg Prod.snd hresult
  | @sent t u ht hsends =>
    have hquiet : Quiet ∅ pass.state u := (quiet_canSendOperation ht).trans hsends.quiet
    have hcontainer := congrFun hquiet.containers_eq id
    refine .sent ?_ rfl
    rw [eraseUnsent, containers_updateContainer_self, addToSentOperations,
      containers_updateContainer_self, updateTimer, containers_updateContainer_self, hcontainer]

end SendPass

end Isa100Gateway.Operations
