import Mathlib.Data.List.TakeWhile
import Isa100Gateway.NetworkEngine.ContainerCompletion

/-!
# What an unsent operation knows of its dependencies

A dependency of an unsent operation is committed or still in a list of the container, as long as a walk drops none that others wait for. The first check of a walk looks at the lists only, so that it takes a dropped one for resolved.
-/

namespace Isa100Gateway.Operations

open List State Operation SendPass

structure Operation.Agrees (a b : Operation) : Prop where
  core : a.core = b.core
  containerId : a.containerId = b.containerId
  operationDependency : a.operationDependency = b.operationDependency

structure Confined (ps : Set OperationPointer) (ids : Set ContainerId) (s s' : State) : Prop where
  containers : ∀ id, id ∉ ids → s'.containers id = s.containers id
  listOfContainers : s'.listOfContainers = s.listOfContainers
  handed : s'.handed = s.handed
  added : s'.added = s.added
  core : ∀ p, (s'.operations p).core = (s.operations p).core
  agrees : ∀ p, p ∉ ps → (s'.operations p).Agrees (s.operations p)
  failed : ∀ p ∈ s'.failed, p ∈ s.failed ∨ p ∈ ps
  committed : ∀ p ∈ s.committed, p ∈ s'.committed

variable {ps : Set OperationPointer} {ids : Set ContainerId}

theorem Calm.agrees {s s' : State} (h : Calm s s') (p : OperationPointer) :
    (s'.operations p).Agrees (s.operations p) :=
  ⟨h.core p, h.containerId p, h.operationDependency p⟩

theorem Calm.confined {s s' : State} (h : Calm s s') : Confined ps ids s s' where
  containers id _ := congrFun h.containers id
  listOfContainers := h.listOfContainers
  handed := h.handed
  added := h.added
  core := h.core
  agrees p _ := h.agrees p
  failed _ hp := .inl (h.failed ▸ hp)
  committed := h.committed

namespace Confined

variable {s s₁ s₂ : State} {p : OperationPointer} {id : ContainerId}

theorem trans (h₁ : Confined ps ids s s₁) (h₂ : Confined ps ids s₁ s₂) : Confined ps ids s s₂ where
  containers id hid := (h₂.containers id hid).trans (h₁.containers id hid)
  listOfContainers := h₂.listOfContainers.trans h₁.listOfContainers
  handed := h₂.handed.trans h₁.handed
  added := h₂.added.trans h₁.added
  core p := (h₂.core p).trans (h₁.core p)
  agrees p hp :=
    have left := h₁.agrees p hp
    have right := h₂.agrees p hp
    ⟨right.core.trans left.core, right.containerId.trans left.containerId,
      right.operationDependency.trans left.operationDependency⟩
  failed p hp := (h₂.failed p hp).elim (h₁.failed p) .inr
  committed p hp := h₂.committed p (h₁.committed p hp)

theorem updateOperation {f : Operation → Operation} (hf : ∀ operation, (f operation).core = operation.core)
    (hp : p ∈ ps) : Confined ps ids s (s.updateOperation p f) where
  containers _ _ := rfl
  listOfContainers := rfl
  handed := rfl
  added := rfl
  core :=
    have hsteady : Steady ∅ s (s.updateOperation p f) := steady_updateOperation hf
    hsteady.core
  agrees q hq := by
    have hne : q ≠ p := fun heq => hq (heq ▸ hp)
    rw [operations_updateOperation_of_ne s f hne]
    exact ⟨rfl, rfl, rfl⟩
  failed _ hq := .inl hq
  committed _ hq := hq

theorem recordFailed (hp : p ∈ ps) : Confined ps ids s (s.recordFailed p) where
  containers _ _ := rfl
  listOfContainers := rfl
  handed := rfl
  added := rfl
  core _ := rfl
  agrees _ _ := ⟨rfl, rfl, rfl⟩
  failed q hq := by
    rcases mem_append.mp hq with hq | hq
    · exact .inl hq
    · obtain rfl := mem_singleton.mp hq
      exact .inr hp
  committed _ hq := hq

theorem updateContainer {f : Container → Container} (hid : id ∈ ids) : Confined ps ids s (s.updateContainer id f) where
  containers _ hother := containers_updateContainer_of_ne s f fun heq => hother (heq ▸ hid)
  listOfContainers := rfl
  handed := rfl
  added := rfl
  core _ := rfl
  agrees _ _ := ⟨rfl, rfl, rfl⟩
  failed _ hq := .inl hq
  committed _ hq := hq

end Confined

namespace State

variable {s s' t : State} {p : OperationPointer} {id : ContainerId}

theorem confined_failOperation (s : State) (hp : p ∈ ps) : Confined ps ids s (s.failOperation p) := by
  have hupdated : Confined ps ids s (s.updateOperation p fun operation => { operation with errorCode := .error }) :=
    Confined.updateOperation (fun _ => rfl) hp
  exact hupdated.trans (Confined.recordFailed hp)

theorem confined_setAsFail (h : s.setAsFail id = some s') (hid : id ∈ ids) : Confined ps ids s s' := by
  obtain ⟨t, ht, rfl⟩ := setAsFail_eq_some h
  have hdestroyed : Silent s t := Silent.runs (fun _ _ _ => silent_destroyOperation) ht
  exact hdestroyed.toCalm.confined.trans (Confined.updateContainer hid)

theorem Settles.confined (h : Settles s id p s') (hp : p ∈ ps) (hid : id ∈ ids) : Confined ps ids s s' := by
  cases h with
  | committed _ hcommit => exact (silent_commitChanges hcommit).toCalm.confined
  | @failed s₁ s₂ hs₁ hs₂ =>
    have hfirst : Confined ps ids s s₁ := by
      rcases hs₁ with rfl | hcommit
      · exact (Calm.refl s₁).confined
      · exact (silent_commitChanges hcommit).toCalm.confined
    have hfailed := hfirst.trans (confined_setAsFail hs₂ hid)
    exact (hfailed.trans (silent_destroyPhysicalEntity s₂ p).toCalm.confined).trans (Confined.recordFailed hp)

theorem silent_canSendOperation {status : ProcessedOperationStatus} (h : s.canSendOperation id p = some (t, status)) :
    ∃ operationDependency, Silent (s.updateOperation p fun operation =>
        { operation with operationDependency := operationDependency }) t ∧
      ∀ d ∈ (s.operations p).operationDependency, d ∉ operationDependency →
        d ∉ (s.containers id).sentOperations ∧ d ∉ (s.containers id).unsentOperations := by
  have hsame : s.updateOperation p (fun operation =>
      { operation with operationDependency := (s.operations p).operationDependency }) = s := by
    have hupdate : Function.update s.operations p (s.operations p) = s.operations :=
      Function.update_eq_self p s.operations
    rw [updateOperation, hupdate]
  have hkept : Silent s t → ∃ operationDependency, Silent (s.updateOperation p fun operation =>
        { operation with operationDependency := operationDependency }) t ∧
      ∀ d ∈ (s.operations p).operationDependency, d ∉ operationDependency →
        d ∉ (s.containers id).sentOperations ∧ d ∉ (s.containers id).unsentOperations := fun hsilent =>
    ⟨(s.operations p).operationDependency, hsame.symm ▸ hsilent, fun d hd hnot => absurd hd hnot⟩
  simp only [canSendOperation] at h
  split at h
  · obtain rfl : s = t := congrArg Prod.fst (Option.some.inj h)
    exact hkept (Silent.refl s)
  · split at h
    · obtain rfl : s = t := congrArg Prod.fst (Option.some.inj h)
      exact hkept (Silent.refl s)
    · split at h
      · exact hkept (silent_canSendResolved h)
      · refine ⟨s.unresolvedDependencies id p, ?_, ?_⟩
        · split at h
          · exact silent_canSendResolved h
          · obtain rfl := congrArg Prod.fst (Option.some.inj h)
            exact Silent.refl _
        · intro d hd hnot
          have hsplit := takeWhile_append_dropWhile (p := fun d =>
            decide (d ∉ (s.containers id).sentOperations ∧ d ∉ (s.containers id).unsentOperations))
            (l := (s.operations p).operationDependency)
          rw [← hsplit] at hd
          have hdropped := (mem_append.mp hd).resolve_right hnot
          exact of_decide_eq_true (all_eq_true.mp all_takeWhile d hdropped)

theorem confined_eraseUnsent (s : State) (p : OperationPointer) (hid : id ∈ ids) :
    Confined ps ids s (s.eraseUnsent id p) :=
  Confined.updateContainer hid

theorem confined_updateTimer (s : State) (currentTime : UInt32) (hid : id ∈ ids) :
    Confined ps ids s (s.updateTimer id currentTime) := Confined.updateContainer hid

theorem confined_addToSentOperations (s : State) (p : OperationPointer) (hid : id ∈ ids) :
    Confined ps ids s (s.addToSentOperations id p) := Confined.updateContainer hid

end State

namespace SendPass

variable {id : ContainerId} {currentTime : UInt32} {pass pass' : SendPass} {p : OperationPointer}

theorem confined_of_canSendOperation {s t : State} {status : ProcessedOperationStatus}
    (h : s.canSendOperation id p = some (t, status)) (hp : p ∈ ps) : Confined ps ids s t := by
  obtain ⟨operationDependency, hsilent, -⟩ := silent_canSendOperation h
  have hupdated : Confined ps ids s (s.updateOperation p fun operation =>
      { operation with operationDependency := operationDependency }) := Confined.updateOperation (fun _ => rfl) hp
  exact hupdated.trans hsilent.toCalm.confined

theorem Visits.confined (h : Visits id currentTime pass p pass') : Confined {p} {id} pass.state pass'.state := by
  cases h with
  | waits ht => exact confined_of_canSendOperation ht rfl
  | @dropped t ht =>
    have hlooked : Confined {p} {id} pass.state t := confined_of_canSendOperation ht rfl
    have hfailed := hlooked.trans (confined_failOperation t rfl)
    exact hfailed.trans (confined_eraseUnsent _ p rfl)
  | @answered t u ht hsends =>
    have hlooked : Confined {p} {id} pass.state t := confined_of_canSendOperation ht rfl
    have htimed := (hlooked.trans hsends.calm.confined).trans (confined_updateTimer u currentTime rfl)
    exact htimed.trans (confined_eraseUnsent _ p rfl)
  | @sent t u ht hsends =>
    have hlooked : Confined {p} {id} pass.state t := confined_of_canSendOperation ht rfl
    have htimed := (hlooked.trans hsends.calm.confined).trans (confined_updateTimer u currentTime rfl)
    exact (htimed.trans (confined_addToSentOperations _ p rfl)).trans (confined_eraseUnsent _ p rfl)

end SendPass

/-- What the container knows of `d`, on which its unsent operation `p` depends. -/
structure Guarded (s : State) (id : ContainerId) (p d : OperationPointer) : Prop where
  added : d ∈ s.added
  place : (s.operations d).containerId = id
  accounted : d ∈ s.committed ∨ d ∈ (s.containers id).unsentOperations ∨ d ∈ (s.containers id).sentOperations
  notFailed : d ∉ s.failed
  known : d ∈ (s.operations p).operationDependency ∨
    d ∉ (s.containers id).sentOperations ∧ d ∉ (s.containers id).unsentOperations

structure Guards (s : State) (id : ContainerId) : Prop where
  nodup : (s.containers id).unsentOperations.Nodup
  unsent : ∀ p ∈ (s.containers id).unsentOperations, (s.operations p).containerId = id ∧ p ∈ s.added
  sent : ∀ p ∈ (s.containers id).sentOperations, (s.operations p).containerId = id ∧ p ∈ s.added
  dependencies : ∀ p ∈ (s.containers id).unsentOperations, ∀ d ∈ (s.operations p).dependsOn, Guarded s id p d

/-- No operation has been given to the sender before one it depends on was committed, or after one had failed. -/
def State.SentInOrder (s : State) : Prop :=
  ∀ record ∈ s.sent, record.operation ∈ s.added ∧ record.uncommitted = [] ∧ record.failed = []

namespace State

variable {s s' t : State} {p d : OperationPointer} {id : ContainerId}

theorem sent_giveToSender (s : State) (p : OperationPointer) :
    (s.giveToSender p).sent = s.sent ++ [⟨p, (s.operations p).dependsOn.filter fun d => d ∉ s.committed,
      (s.operations p).dependsOn.filter fun d => d ∈ s.failed⟩] := by
  simp only [giveToSender]
  split <;> rfl

theorem SentInOrder.of_sent (h : s.SentInOrder) (hsent : s'.sent = s.sent) (hadded : ∀ q ∈ s.added, q ∈ s'.added) :
    s'.SentInOrder := by
  intro record hrecord
  exact (h record (hsent ▸ hrecord)).imp_left (hadded record.operation)

theorem SentInOrder.silent (h : s.SentInOrder) (hsilent : Silent s s') : s'.SentInOrder :=
  h.of_sent hsilent.sent fun _ hq => hsilent.added ▸ hq

theorem SentInOrder.giveToSender (h : s.SentInOrder) (hp : p ∈ s.added)
    (hready : ∀ d ∈ (s.operations p).dependsOn, d ∈ s.committed ∧ d ∉ s.failed) : (s.giveToSender p).SentInOrder := by
  intro record hrecord
  rw [sent_giveToSender] at hrecord
  rw [(calm_giveToSender s p).added]
  rcases mem_append.mp hrecord with hrecord | hrecord
  · exact h record hrecord
  · obtain rfl := mem_singleton.mp hrecord
    refine ⟨hp, filter_eq_nil_iff.mpr ?_, filter_eq_nil_iff.mpr ?_⟩ <;> intro d hd
    · simpa using (hready d hd).1
    · simpa using (hready d hd).2

theorem SentInOrder.sends {result : State × SentOperationStatus} (h : s.SentInOrder) (hp : p ∈ s.added)
    (hsends : Sends s p result) (hready : ∀ d ∈ (s.operations p).dependsOn, d ∈ s.committed ∧ d ∉ s.failed) :
    result.1.SentInOrder := by
  have hgiven : ∀ {t : State}, s.updatePhyEntity p = some (t, true) → (t.giveToSender p).SentInOrder := by
    intro t ht
    have hsilent : Silent s t := silent_updatePhyEntity ht
    apply (h.silent hsilent).giveToSender
    · rw [hsilent.added]
      exact hp
    · intro d hd
      rw [dependsOn_of_core (hsilent.core p)] at hd
      rw [hsilent.failed]
      exact ⟨hsilent.committed d (hready d hd).1, (hready d hd).2⟩
  cases hsends with
  | refused ht => exact (h.silent (silent_updatePhyEntity ht)).silent (silent_destroyPhysicalEntity _ p)
  | done ht _ _ hu => exact ((hgiven ht).silent (silent_commitChanges hu)).silent (silent_destroyPhysicalEntity _ p)
  | sent ht => exact hgiven ht

end State

namespace Guards

variable {s s' : State} {p : OperationPointer} {id : ContainerId}

section

variable (h : Guards s id)
include h

theorem transfer (hcontainer : s'.containers id = s.containers id)
    (hadded : ∀ q ∈ s.added, q ∈ s'.added) (hcommitted : ∀ q ∈ s.committed, q ∈ s'.committed)
    (hagrees : ∀ q ∈ s.added, (s.operations q).containerId = id → (s'.operations q).Agrees (s.operations q))
    (hfailed : ∀ q ∈ s'.failed, q ∈ s.added → (s.operations q).containerId = id → q ∈ s.failed) : Guards s' id := by
  refine ⟨?_, ?_, ?_, ?_⟩ <;> rw [hcontainer]
  · exact h.nodup
  · intro q hq
    obtain ⟨hid, hq⟩ := h.unsent q hq
    exact ⟨(hagrees q hq hid).containerId.trans hid, hadded q hq⟩
  · intro q hq
    obtain ⟨hid, hq⟩ := h.sent q hq
    exact ⟨(hagrees q hq hid).containerId.trans hid, hadded q hq⟩
  · intro q hq d hd
    obtain ⟨hid, hq'⟩ := h.unsent q hq
    have hmine := hagrees q hq' hid
    rw [dependsOn_of_core hmine.core] at hd
    have hguarded := h.dependencies q hq d hd
    refine ⟨hadded d hguarded.added, ?_, ?_, ?_, ?_⟩
    · exact (hagrees d hguarded.added hguarded.place).containerId.trans hguarded.place
    · rw [hcontainer]
      exact hguarded.accounted.imp_left (hcommitted d)
    · exact fun hd => hguarded.notFailed (hfailed d hd hguarded.added hguarded.place)
    · rw [hcontainer, hmine.operationDependency]
      exact hguarded.known

theorem calm (hcalm : Calm s s') : Guards s' id := by
  refine h.transfer (congrFun hcalm.containers id) ?_ hcalm.committed (fun q _ _ => hcalm.agrees q) ?_
  · rw [hcalm.added]
    exact fun _ hq => hq
  · rw [hcalm.failed]
    exact fun _ hq _ _ => hq

theorem confined {other : ContainerId} (hconfined : Confined ps {other} s s')
    (hps : ∀ q ∈ ps, (s.operations q).containerId = other) (hne : id ≠ other) : Guards s' id := by
  have hnot : ∀ q, (s.operations q).containerId = id → q ∉ ps := fun q hplace hq =>
    hne (hplace.symm.trans (hps q hq))
  refine h.transfer (hconfined.containers id hne) ?_ hconfined.committed
    (fun q _ hplace => hconfined.agrees q (hnot q hplace)) ?_
  · rw [hconfined.added]
    exact fun _ hq => hq
  · intro q hq _ hplace
    exact (hconfined.failed q hq).resolve_right (hnot q hplace)

end

theorem of_unsent_nil (hunsent : (s.containers id).unsentOperations = [])
    (hsent : ∀ p ∈ (s.containers id).sentOperations, (s.operations p).containerId = id ∧ p ∈ s.added) :
      Guards s id := by
  refine ⟨?_, ?_, hsent, ?_⟩ <;> rw [hunsent]
  · exact nodup_nil
  · intro q hq
    cases hq
  · intro q hq
    cases hq

end Guards

/-! ## A walk -/

/-- The device of the operation is the manager itself, which gets its operations without a check. -/
def State.isForManager (s : State) (p : OperationPointer) : Bool :=
  (s.devices (s.operations p).owner).any Device.isManager

/-- No operation that depends on `p` is still to be sent. -/
def State.NothingWaitsFor (s : State) (id : ContainerId) (p : OperationPointer) : Prop :=
  ∀ q ∈ (s.containers id).unsentOperations, q ≠ p → p ∉ (s.operations q).dependsOn

/-- A walk loses an operation only when none that is still to be sent depends on it, and comes to one for the manager only
when none it depends on is in the lists. -/
def SendPass.Unbroken (id : ContainerId) (pass : SendPass) (p : OperationPointer) : Prop :=
  (pass.state.Loses id p → pass.state.NothingWaitsFor id p) ∧
  (pass.state.isForManager p = true → ∀ d ∈ (pass.state.operations p).dependsOn,
    d ∉ (pass.state.containers id).sentOperations ∧ d ∉ (pass.state.containers id).unsentOperations)

instance (s : State) (id : ContainerId) (p : OperationPointer) : Decidable (s.NothingWaitsFor id p) :=
  inferInstanceAs (Decidable (∀ _ ∈ _, _))

instance (id : ContainerId) (pass : SendPass) (p : OperationPointer) : Decidable (pass.Unbroken id p) :=
  inferInstanceAs (Decidable (_ ∧ _))

section Walk

variable {id : ContainerId} {currentTime : UInt32} {pass pass' : SendPass} {p : OperationPointer}

section

variable (h : Guards pass.state id) (hzero : id ≠ 0) (hp : p ∈ (pass.state.containers id).unsentOperations)
  (hunbroken : pass.Unbroken id p)
include h hzero hp hunbroken

theorem Guards.ready {t : State} (hcan : pass.state.canSendOperation id p = some (t, .canBeSent)) :
    ∀ d ∈ (pass.state.operations p).dependsOn, d ∈ pass.state.committed ∧ d ∉ pass.state.failed := by
  intro d hd
  have hguarded := h.dependencies p hp d hd
  have hout : d ∉ (pass.state.containers id).sentOperations ∧ d ∉ (pass.state.containers id).unsentOperations := by
    obtain ⟨device, hdevice, ⟨hmanager, -⟩ | ⟨-, hunhindered, -⟩⟩ := canBeSent_cases hcan
    · refine hunbroken.2 ?_ d hd
      rw [isForManager, hdevice]
      exact hmanager
    · have hresolved := hunhindered fun hcontainer => hzero ((h.unsent p hp).1.symm.trans hcontainer)
      rcases hguarded.known with hmem | hout
      · exact of_decide_eq_true (dropWhile_eq_nil_iff.mp hresolved d hmem)
      · exact hout
  refine ⟨?_, hguarded.notFailed⟩
  rcases hguarded.accounted with hdone | hunsent | hsent
  · exact hdone
  · exact absurd hunsent hout.2
  · exact absurd hsent hout.1

theorem SendPass.Visits.sentInOrder
    (hvisits : Visits id currentTime pass p pass') (hsent : pass.state.SentInOrder) : pass'.state.SentInOrder := by
  have hlooked : ∀ {t : State} {status : ProcessedOperationStatus},
      pass.state.canSendOperation id p = some (t, status) → t.SentInOrder ∧ p ∈ t.added := by
    intro t status ht
    obtain ⟨operationDependency, hsilent, -⟩ := silent_canSendOperation ht
    have hupdated : (pass.state.updateOperation p fun operation =>
        { operation with operationDependency := operationDependency }).SentInOrder :=
      hsent.of_sent rfl fun _ hq => hq
    refine ⟨hupdated.silent hsilent, ?_⟩
    rw [hsilent.added]
    exact (h.unsent p hp).2
  have hready : ∀ {t : State}, pass.state.canSendOperation id p = some (t, .canBeSent) →
      ∀ d ∈ (t.operations p).dependsOn, d ∈ t.committed ∧ d ∉ t.failed := by
    intro t ht d hd
    obtain ⟨operationDependency, hsilent, -⟩ := silent_canSendOperation ht
    rw [dependsOn_of_core (hsilent.core p), operations_updateOperation_self] at hd
    obtain ⟨hcommitted, hfailed⟩ := h.ready hzero hp hunbroken ht d hd
    rw [hsilent.failed]
    exact ⟨hsilent.committed d hcommitted, hfailed⟩
  cases hvisits with
  | waits ht => exact (hlooked ht).1
  | @dropped t ht =>
    have hsame : t.SentInOrder := (hlooked ht).1
    exact hsame.of_sent rfl fun _ hq => hq
  | @answered t u ht hsends =>
    have hafter : u.SentInOrder := (hlooked ht).1.sends (hlooked ht).2 hsends (hready ht)
    exact hafter.of_sent rfl fun _ hq => hq
  | @sent t u ht hsends =>
    have hafter : u.SentInOrder := (hlooked ht).1.sends (hlooked ht).2 hsends (hready ht)
    exact hafter.of_sent rfl fun _ hq => hq

end

theorem SendPass.Visits.known (hvisits : Visits id currentTime pass p pass')
    (hnodup : (pass.state.containers id).unsentOperations.Nodup)
    (hp : p ∈ (pass'.state.containers id).unsentOperations) :
    ∀ d ∈ (pass.state.operations p).operationDependency, d ∉ (pass'.state.operations p).operationDependency →
      d ∉ (pass'.state.containers id).sentOperations ∧ d ∉ (pass'.state.containers id).unsentOperations := by
  have hsame : ∀ {t : State} {status : ProcessedOperationStatus},
      pass.state.canSendOperation id p = some (t, status) → t.containers = pass.state.containers := by
    intro t status ht
    obtain ⟨operationDependency, hsilent, -⟩ := silent_canSendOperation ht
    exact hsilent.containers
  have hgone : ∀ {t u : State} {status : ProcessedOperationStatus},
      pass.state.canSendOperation id p = some (t, status) →
      (u.containers id).unsentOperations = (t.containers id).unsentOperations →
      p ∉ ((u.eraseUnsent id p).containers id).unsentOperations := by
    intro t u status ht hunsent
    rw [eraseUnsent, containers_updateContainer_self]
    change p ∉ (u.containers id).unsentOperations.erase p
    rw [hunsent, hsame ht]
    exact hnodup.not_mem_erase
  cases hvisits with
  | waits ht =>
    obtain ⟨operationDependency, hsilent, hdropped⟩ := silent_canSendOperation ht
    intro d hd hnot
    change d ∉ (operations _ p).operationDependency at hnot
    rw [hsilent.operationDependency, operations_updateOperation_self] at hnot
    rw [hsame ht]
    exact hdropped d hd hnot
  | dropped ht => exact absurd hp (hgone ht rfl)
  | answered ht hsends =>
    refine absurd hp (hgone ht ?_)
    rw [updateTimer, containers_updateContainer_self, hsends.calm.containers]
  | sent ht hsends =>
    refine absurd hp (hgone ht ?_)
    rw [addToSentOperations, containers_updateContainer_self, updateTimer,
      containers_updateContainer_self, hsends.calm.containers]

section

variable (hvisits : Visits id currentTime pass p pass')
include hvisits

theorem SendPass.Visits.failed (hp : p ∈ pass'.state.failed) :
    p ∈ pass.state.failed ∨ pass.state.Loses id p ∧ pass'.confirmedOperations = pass.confirmedOperations ++ [p] := by
  have hlooked : ∀ {t : State} {status : ProcessedOperationStatus},
      pass.state.canSendOperation id p = some (t, status) → t.failed = pass.state.failed := by
    intro t status ht
    obtain ⟨operationDependency, hsilent, -⟩ := silent_canSendOperation ht
    exact hsilent.failed
  cases hvisits with
  | waits ht => exact .inl (hlooked ht ▸ hp)
  | dropped ht => exact .inr ⟨⟨_, ht, .inl rfl⟩, rfl⟩
  | @answered t u ht hsends =>
    have hsame : u.failed = t.failed := hsends.calm.failed
    change p ∈ u.failed at hp
    rw [hsame, hlooked ht] at hp
    exact .inl hp
  | @sent t u ht hsends =>
    have hsame : u.failed = t.failed := hsends.calm.failed
    change p ∈ u.failed at hp
    rw [hsame, hlooked ht] at hp
    exact .inl hp

theorem mem_unsent_before {q : OperationPointer}
    (hq : q ∈ (pass'.state.containers id).unsentOperations) : q ∈ (pass.state.containers id).unsentOperations := by
  cases hvisits.fate with
  | stays hcontainer _ => exact hcontainer ▸ hq
  | sent hcontainer _ =>
    rw [hcontainer] at hq
    exact mem_of_mem_erase hq
  | leaves _ hcontainer _ _ =>
    rw [hcontainer] at hq
    exact mem_of_mem_erase hq

theorem mem_sent_before {q : OperationPointer}
    (hq : q ∈ (pass'.state.containers id).sentOperations) : q ∈ (pass.state.containers id).sentOperations ∨ q = p := by
  cases hvisits.fate with
  | stays hcontainer _ => exact .inl (hcontainer ▸ hq)
  | sent hcontainer _ =>
    rw [hcontainer] at hq
    exact (mem_append.mp hq).imp_right mem_singleton.mp
  | leaves _ hcontainer _ _ =>
    rw [hcontainer] at hq
    exact .inl hq

theorem SendPass.Visits.accounted (hp : p ∈ (pass.state.containers id).unsentOperations) :
    p ∈ pass'.state.committed ∨ p ∈ (pass'.state.containers id).unsentOperations ∨
      p ∈ (pass'.state.containers id).sentOperations ∨ pass.state.Loses id p := by
  cases hvisits.fate with
  | stays hcontainer _ => exact .inr (.inl (hcontainer ▸ hp))
  | sent hcontainer _ =>
    rw [hcontainer]
    exact .inr (.inr (.inl (mem_append_right _ (mem_singleton_self p))))
  | leaves _ _ _ hcommitted => exact hcommitted.imp_right fun hloses => .inr (.inr hloses)

theorem notMem_unsent_of_confirmed (hnodup : (pass.state.containers id).unsentOperations.Nodup)
    (hconfirmed : pass'.confirmedOperations = pass.confirmedOperations ++ [p]) :
    p ∉ (pass'.state.containers id).unsentOperations := by
  cases hvisits.fate with
  | stays _ hsame =>
    rw [hsame] at hconfirmed
    exact absurd hconfirmed (by simp)
  | sent hcontainer _ =>
    rw [hcontainer]
    exact hnodup.not_mem_erase
  | leaves _ hcontainer _ _ =>
    rw [hcontainer]
    exact hnodup.not_mem_erase

end

theorem Guards.visit (h : Guards pass.state id)
    (hp : p ∈ (pass.state.containers id).unsentOperations) (hunbroken : pass.Unbroken id p)
    (hvisits : Visits id currentTime pass p pass') : Guards pass'.state id := by
  have hquiet := hvisits.quiet
  have hconfined := hvisits.confined
  have hmine := h.unsent p hp
  have hnodup : (pass'.state.containers id).unsentOperations.Nodup := by
    cases hvisits.fate with
    | stays hcontainer _ =>
      rw [hcontainer]
      exact h.nodup
    | sent hcontainer _ =>
      rw [hcontainer]
      exact h.nodup.erase p
    | leaves _ hcontainer _ _ =>
      rw [hcontainer]
      exact h.nodup.erase p
  refine ⟨hnodup, ?_, ?_, ?_⟩
  · intro q hq
    rw [hquiet.containerId, hquiet.added]
    exact h.unsent q (mem_unsent_before hvisits hq)
  · intro q hq
    rw [hquiet.containerId, hquiet.added]
    rcases mem_sent_before hvisits hq with hq | rfl
    · exact h.sent q hq
    · exact hmine
  · intro q hq d hd
    rw [dependsOn_of_core (hquiet.core q)] at hd
    have hguarded := h.dependencies q (mem_unsent_before hvisits hq) d hd
    have hnotLost : d = p → q ≠ p → ¬pass.state.Loses id p := fun hvisited hne hloses =>
      hunbroken.1 hloses q (mem_unsent_before hvisits hq) hne (hvisited ▸ hd)
    refine ⟨hquiet.added ▸ hguarded.added, (hquiet.containerId d).trans hguarded.place, ?_, ?_, ?_⟩
    · by_cases hself : d = q
      · exact .inr (.inl (hself ▸ hq))
      · by_cases hvisited : d = p
        · subst hvisited
          rcases hvisits.accounted hp with hdone | hunsent | hsent | hloses
          · exact .inl hdone
          · exact .inr (.inl hunsent)
          · exact .inr (.inr hsent)
          · exact absurd hloses (hnotLost rfl (Ne.symm hself))
        · rcases hguarded.accounted with hdone | hunsent | hsent
          · exact .inl (hquiet.committed d hdone)
          · exact .inr (.inl (mem_unsent_of_visits hvisits hvisited hunsent))
          · exact .inr (.inr (mem_sent_of_visits hvisits hsent))
    · intro hfailed
      obtain rfl : d = p := (hconfined.failed d hfailed).resolve_left hguarded.notFailed
      obtain ⟨hloses, hconfirmed⟩ := (hvisits.failed hfailed).resolve_left hguarded.notFailed
      refine hnotLost rfl ?_ hloses
      rintro rfl
      exact notMem_unsent_of_confirmed hvisits h.nodup hconfirmed hq
    · by_cases hvisited : q = p
      · subst hvisited
        by_cases hstill : d ∈ (pass'.state.operations q).operationDependency
        · exact .inl hstill
        · rcases hguarded.known with hmem | hout
          · exact .inr (hvisits.known h.nodup hq d hmem hstill)
          · refine .inr ⟨?_, fun hunsent => hout.2 (mem_unsent_before hvisits hunsent)⟩
            intro hsent
            rcases mem_sent_before hvisits hsent with hsent | rfl
            · exact hout.1 hsent
            · exact hout.2 hp
      · rw [(hconfined.agrees q hvisited).operationDependency]
        refine hguarded.known.imp_right fun hout => ⟨?_, fun hunsent => hout.2 (mem_unsent_before hvisits hunsent)⟩
        intro hsent
        rcases mem_sent_before hvisits hsent with hsent | rfl
        · exact hout.1 hsent
        · exact hout.2 hp

def UnbrokenWalk (id : ContainerId) (currentTime : UInt32) (pass : SendPass) : Prop :=
  Machine.AllAlong (Unbroken id) (visit id currentTime) pass
    (pass.state.containers id).unsentOperations

instance (id : ContainerId) (currentTime : UInt32) (pass : SendPass) : Decidable (UnbrokenWalk id currentTime pass) :=
  inferInstanceAs (Decidable (Machine.AllAlong _ _ _ _))

theorem Guards.walk (h : Guards pass.state id) (hzero : id ≠ 0)
    (hunbroken : UnbrokenWalk id currentTime pass) (hsent : pass.state.SentInOrder)
    (hrun : sendAllContainerOperations id currentTime pass = some pass') :
    Guards pass'.state id ∧ pass'.state.SentInOrder := by
  refine walk_induction (P := fun pass => Guards pass.state id ∧ pass.state.SentInOrder)
    ?_ h.nodup (fun p hp => hp) ⟨h, hsent⟩ hunbroken hrun
  rintro pass₁ p pass₂ hp hok ⟨hguards, hrecords⟩ hvisits
  exact ⟨hguards.visit hp hok hvisits, hvisits.sentInOrder hguards hzero hp hok hrecords⟩

theorem Guards.other {other : ContainerId} (h : Guards pass.state other)
    (hmine : ∀ p ∈ (pass.state.containers id).unsentOperations, (pass.state.operations p).containerId = id)
    (hne : other ≠ id) (hrun : sendAllContainerOperations id currentTime pass = some pass') :
    Guards pass'.state other := by
  refine Machine.runs_invariant (P := fun t => Guards t.state other ∧
    ∀ p ∈ (pass.state.containers id).unsentOperations, (t.state.operations p).containerId = id) ⟨h, hmine⟩ ?_ hrun |>.1
  rintro t p t' hp ⟨ht, hplace⟩ hvisit
  have hvisits := visits_of_visit hvisit
  refine ⟨ht.confined hvisits.confined ?_ hne, ?_⟩
  · intro q hq
    obtain rfl := Set.mem_singleton_iff.mp hq
    exact hplace q hp
  · intro q hq
    rw [hvisits.quiet.containerId]
    exact hplace q hq

end Walk

end Isa100Gateway.Operations
