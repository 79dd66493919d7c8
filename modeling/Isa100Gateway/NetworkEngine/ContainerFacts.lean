import Isa100Gateway.NetworkEngine.OperationFacts

/-!
# What the processor does to containers

One lemma for each way an operation or all operations leave the lists of a container: failing, confirming, giving up, and the removal of a device.
-/

namespace Isa100Gateway.Operations

open List Option

def Container.failed (container : Container) : Container :=
  { container with unsentOperations := [], rspStatus := .fail }

namespace State

variable {touched : Set ContainerId} {s s' : State} {p : OperationPointer} {id : ContainerId}

theorem setAsFail_eq_some (h : s.setAsFail id = some s') :
    ∃ t, Machine.runs destroyOperation s (s.containers id).unsentOperations = some t ∧
      s' = t.updateContainer id Container.failed := by
  obtain ⟨t, ht, rfl⟩ := map_eq_some_iff.mp h
  exact ⟨t, ht, rfl⟩

theorem quiet_setAsFail (h : s.setAsFail id = some s') : Quiet {id} s s' := by
  obtain ⟨t, ht, rfl⟩ := setAsFail_eq_some h
  have hquiet : Quiet {id} s t := (Silent.runs (fun _ _ _ => silent_destroyOperation) ht).quiet
  exact hquiet.trans (quiet_updateContainer t _ rfl)

theorem containers_setAsFail (h : s.setAsFail id = some s') : s'.containers id = (s.containers id).failed := by
  obtain ⟨t, ht, rfl⟩ := setAsFail_eq_some h
  have hquiet : Quiet ∅ s t := (Silent.runs (fun _ _ _ => silent_destroyOperation) ht).quiet
  rw [containers_updateContainer_self, hquiet.containers_eq]

inductive Settles (s : State) (id : ContainerId) (p : OperationPointer) : State → Prop
  | committed {s' : State} :
    (s.operations p).errorCode = .success ∨ (s.operations p).errorCode = .error ∧ (s.operations p).type =
      .deleteAttribute →
    s.commitChanges p = some (s', true) → Settles s id p s'
  | failed {s₁ s₂ : State} : s₁ = s ∨ s.commitChanges p = some (s₁, false) → s₁.setAsFail id = some s₂ →
    Settles s id p ((s₂.destroyPhysicalEntity p).recordFailed p)

variable {result : State × ConfirmOutcome} {ps : List OperationPointer} {address : Address32} {isBackbone : Bool}

theorem settles_of_settle (h : s.settle id p = some result) :
    Settles s id p result.1 ∧ ∃ removeDevice, result.2 = .settled removeDevice := by
  obtain ⟨⟨s₁, committed⟩, hs₁, hrest⟩ := bind_eq_some_iff.mp h
  cases committed with
  | true =>
    cases hrest
    refine ⟨?_, _, rfl⟩
    split at hs₁
    · rename_i hcommits
      exact .committed (by simpa using hcommits.2) hs₁
    · cases congrArg Prod.snd (Option.some.inj hs₁)
  | false =>
    obtain ⟨s₂, hs₂, rfl⟩ := map_eq_some_iff.mp hrest
    refine ⟨.failed ?_ hs₂, _, rfl⟩
    split at hs₁
    · exact .inr hs₁
    · exact .inl (congrArg Prod.fst (Option.some.inj hs₁)).symm

theorem Settles.quiet (h : Settles s id p s') : Quiet {id} s s' := by
  cases h with
  | committed _ hcommit => exact (silent_commitChanges hcommit).quiet
  | @failed s₁ s₂ hs₁ hs₂ =>
    have hfailed : Quiet {id} s s₂ := by
      rcases hs₁ with rfl | hcommit
      · exact quiet_setAsFail hs₂
      · exact (silent_commitChanges hcommit).quiet.trans (quiet_setAsFail hs₂)
    exact (hfailed.trans (silent_destroyPhysicalEntity _ p).quiet).trans (quiet_recordFailed _ p)

theorem Settles.container (h : Settles s id p s') :
    s'.containers id = s.containers id ∧ p ∈ s'.committed ∨ s'.containers id = (s.containers id).failed := by
  cases h with
  | committed _ hcommit =>
    have hquiet : Quiet ∅ s s' := (silent_commitChanges hcommit).quiet
    exact .inl ⟨congrFun hquiet.containers_eq id, mem_committed_of_commitChanges hcommit rfl⟩
  | @failed s₁ s₂ hs₁ hs₂ =>
    have hquiet : Quiet ∅ s s₁ := by
      rcases hs₁ with rfl | hcommit
      · exact Quiet.refl s₁
      · exact (silent_commitChanges hcommit).quiet
    apply Or.inr
    change s₂.containers id = _
    rw [containers_setAsFail hs₂, hquiet.containers_eq]

/-- A confirm settles an operation whose container is in the list, and only takes the operation out of its queue otherwise. -/
inductive Confirms (s : State) (p : OperationPointer) : State × ConfirmOutcome → Prop
  | unknown {s' : State} : Silent s s' →
    (s.operations p).containerId = 0 ∨ (s.operations p).containerId ∉ s.listOfContainers → Confirms s p (s', .unknown)
  | settled {s₁ s' : State} (removeDevice : Bool) : s.removeOperationInWaitingList p = some s₁ →
    (s.operations p).containerId ≠ 0 ∧ (s.operations p).containerId ∈ s.listOfContainers →
      Settles s₁ (s.operations p).containerId p s' →
    Confirms s p (s', .settled removeDevice)

theorem confirms_of_confirmOperation (h : s.confirmOperation p = some result) : Confirms s p result := by
  obtain ⟨s₁, hs₁, hrest⟩ := bind_eq_some_iff.mp h
  have hsilent := silent_removeOperationInWaitingList hs₁
  have hid := hsilent.containerId p
  have hlist := hsilent.listOfContainers
  dsimp only at hrest
  rw [hid, hlist] at hrest
  split at hrest
  · rename_i hzero
    cases hrest
    exact .unknown hsilent (.inl hzero)
  · rename_i hzero
    split at hrest
    · rename_i hmem
      obtain ⟨hsettles, removeDevice, houtcome⟩ := settles_of_settle hrest
      obtain ⟨s', outcome⟩ := result
      obtain rfl : outcome = .settled removeDevice := houtcome
      exact .settled removeDevice hs₁ ⟨hzero, hmem⟩ hsettles
    · rename_i hmem
      cases hrest
      exact .unknown (hsilent.trans (silent_destroyPhysicalEntity s₁ p)) (.inr hmem)

theorem Confirms.quiet (h : Confirms s p result) : Quiet {(s.operations p).containerId} s result.1 := by
  cases h with
  | unknown hsilent _ => exact hsilent.quiet
  | settled _ hs₁ _ hsettles => exact (silent_removeOperationInWaitingList hs₁).quiet.trans hsettles.quiet

theorem Confirms.container (h : Confirms s p result)
    (hzero : (s.operations p).containerId ≠ 0) (hlisted : (s.operations p).containerId ∈ s.listOfContainers) :
    result.1.containers (s.operations p).containerId = s.containers (s.operations p).containerId ∧
      p ∈ result.1.committed ∨
      result.1.containers (s.operations p).containerId = (s.containers (s.operations p).containerId).failed := by
  cases h with
  | unknown _ hunknown =>
    rcases hunknown with hcontainer | hcontainer
    · exact absurd hcontainer hzero
    · exact absurd hlisted hcontainer
  | settled _ hs₁ _ hsettles =>
    have hquiet : Quiet ∅ s _ := (silent_removeOperationInWaitingList hs₁).quiet
    rw [← hquiet.containers_eq]
    exact hsettles.container

theorem quiet_confirmEscaped (h : s.confirmEscaped p = some s') : Quiet Set.univ s s' := by
  rw [confirmEscaped] at h
  split at h
  · cases h
    exact Quiet.refl s
  · obtain ⟨result, hresult, rfl⟩ := map_eq_some_iff.mp h
    exact (confirms_of_confirmOperation hresult).quiet.mono (Set.subset_univ _)

theorem isContainerEmpty_confirmEscaped (h : s.confirmEscaped p = some s')
    (hempty : (s.containers id).isContainerEmpty = true) : (s'.containers id).isContainerEmpty = true := by
  rw [confirmEscaped] at h
  split at h
  · cases h
    exact hempty
  · obtain ⟨result, hresult, rfl⟩ := map_eq_some_iff.mp h
    have hconfirms := confirms_of_confirmOperation hresult
    by_cases hmine : id = (s.operations p).containerId
    · cases hconfirms with
      | unknown hsilent _ =>
        change ((State.containers _ id).isContainerEmpty) = true
        rw [hsilent.containers]
        exact hempty
      | settled _ hs₁ _ hsettles =>
        have hquiet : Quiet ∅ s _ := (silent_removeOperationInWaitingList hs₁).quiet
        rw [← hmine] at hsettles
        have hcontainer := hsettles.container
        rw [hquiet.containers_eq] at hcontainer
        rcases hcontainer with ⟨hsame, -⟩ | hfailed
        · change ((State.containers _ id).isContainerEmpty) = true
          rw [hsame]
          exact hempty
        · change ((State.containers _ id).isContainerEmpty) = true
          rw [hfailed]
          simpa [Container.isContainerEmpty, Container.failed] using (Bool.and_eq_true_iff.mp hempty).1
    · rw [hconfirms.quiet.containers id hmine]
      exact hempty

theorem isContainerEmpty_confirmEscapeds (h : Machine.runs confirmEscaped s ps = some s')
    (hempty : (s.containers id).isContainerEmpty = true) : (s'.containers id).isContainerEmpty = true := by
  refine Machine.runs_invariant (P := fun t => (t.containers id).isContainerEmpty = true) hempty ?_ h
  intro t p t' _ ht hstep
  exact isContainerEmpty_confirmEscaped hstep ht

theorem steady_removeSentOperation (h : s.removeSentOperation p = some s') : Steady ∅ s s' := by
  obtain ⟨t, ht, rfl⟩ := map_eq_some_iff.mp h
  have hquiet : Quiet ∅ s t := (silent_destroyOperation ht).quiet
  exact hquiet.toSteady.trans (steady_updateOperation fun _ => rfl)

theorem containerId_removeSentOperation (h : s.removeSentOperation p = some s') (q : OperationPointer) :
    (s'.operations q).containerId = if q = p then 0 else (s.operations q).containerId := by
  obtain ⟨t, ht, rfl⟩ := map_eq_some_iff.mp h
  have hquiet : Quiet ∅ s t := (silent_destroyOperation ht).quiet
  by_cases hq : q = p
  · rw [if_pos hq, hq, operations_updateOperation_self]
  · rw [if_neg hq, operations_updateOperation_of_ne _ _ hq, hquiet.containerId q]

theorem removeSentOperations_facts (h : Machine.runs removeSentOperation s ps = some s') :
    Steady ∅ s s' ∧ ∀ q, (s'.operations q).containerId = if q ∈ ps then 0 else (s.operations q).containerId := by
  induction ps generalizing s with
  | nil =>
    obtain rfl := Option.some.inj h
    exact ⟨Steady.refl s, fun q => (if_neg not_mem_nil).symm⟩
  | cons p ps ih =>
    obtain ⟨t, ht, hrest⟩ := bind_eq_some_iff.mp h
    obtain ⟨hsteady, hcontainer⟩ := ih hrest
    refine ⟨(steady_removeSentOperation ht).trans hsteady, ?_⟩
    intro q
    rw [hcontainer q, containerId_removeSentOperation ht q]
    by_cases hmem : q ∈ ps
    · rw [if_pos hmem, if_pos (mem_cons_of_mem p hmem)]
    · by_cases hq : q = p
      · rw [if_neg hmem, if_pos hq, if_pos (hq ▸ mem_cons_self)]
      · have hnot : q ∉ p :: ps := fun h => (mem_cons.mp h).elim hq hmem
        rw [if_neg hmem, if_neg hq, if_neg hnot]

def sentTo (s : State) (id : ContainerId) (address : Address32) (isBackbone : Bool) : List OperationPointer :=
  (s.containers id).sentOperations.filter fun p => concerns address isBackbone (s.operations p).owner

def sentElsewhere (s : State) (id : ContainerId) (address : Address32) (isBackbone : Bool) : List OperationPointer :=
  (s.containers id).sentOperations.filter fun p => !(concerns address isBackbone (s.operations p).owner)

theorem removeAllSentOperations_facts (h : s.removeAllSentOperations id address isBackbone = some s') :
    Steady {id} s s' ∧
      (∀ q, (s'.operations q).containerId = if q ∈ s.sentTo id address isBackbone then 0 else
        (s.operations q).containerId) ∧
        s'.containers id = { s.containers id with sentOperations := s.sentElsewhere id address isBackbone } := by
  obtain ⟨t, ht, rfl⟩ := map_eq_some_iff.mp h
  obtain ⟨hsteady, hcontainer⟩ := removeSentOperations_facts ht
  have hcontainers : t.containers = s.containers := by
    funext other
    exact hsteady.containers other (Set.notMem_empty other)
  refine ⟨?_, hcontainer, ?_⟩
  · have hupdated : Quiet {id} t (t.updateContainer id fun container =>
        { container with sentOperations := s.sentElsewhere id address isBackbone }) := quiet_updateContainer t _ rfl
    exact (hsteady.mono (Set.empty_subset _)).trans hupdated.toSteady
  · rw [containers_updateContainer_self, hcontainers]
    rfl

theorem needToClean_of_mem_sentTo
    (h : p ∈ s.sentTo id address isBackbone) : s.needToClean id address isBackbone = true := by
  obtain ⟨hmem, hconcerns⟩ := mem_filter.mp h
  have hany : ((s.containers id).sentOperations.any fun p =>
    concerns address isBackbone (s.operations p).owner) = true :=
    any_eq_true.mpr ⟨p, hmem, hconcerns⟩
  simp only [needToClean]
  rw [hany, Bool.true_or, Bool.true_or]

theorem eq_of_removeAllSentOperations (h : s.removeAllSentOperations id address isBackbone = some s')
    (hclean : s.needToClean id address isBackbone = false) : s' = s := by
  have hgone : s.sentTo id address isBackbone = [] := by
    apply eq_nil_iff_forall_not_mem.mpr
    intro p hp
    rw [needToClean_of_mem_sentTo hp] at hclean
    cases hclean
  have hall : s.sentElsewhere id address isBackbone = (s.containers id).sentOperations := by
    apply filter_eq_self.mpr
    intro p hp
    rw [Bool.not_eq_true']
    by_contra hconcerns
    exact filter_eq_nil_iff.mp hgone p hp (Bool.not_eq_false _ ▸ hconcerns)
  obtain ⟨t, ht, rfl⟩ := map_eq_some_iff.mp h
  change Machine.runs removeSentOperation s (s.sentTo id address isBackbone) = some t at ht
  rw [hgone] at ht
  cases ht
  change (s.updateContainer id fun container =>
    { container with sentOperations := s.sentElsewhere id address isBackbone }) = s
  rw [hall, updateContainer, Function.update_eq_self]

theorem silent_giveUp {result result' : State × List Address32} (h : giveUp result p = some result') :
    Silent result.1 result'.1 := by
  obtain ⟨t, ht, rfl⟩ := map_eq_some_iff.mp h
  exact silent_destroyOperation ht

theorem silent_giveUps {result result' : State × List Address32}
    (h : Machine.runs giveUp result ps = some result') : Silent result.1 result'.1 := by
  refine Machine.runs_invariant (P := fun t => Silent result.1 t.1) (Silent.refl _) ?_ h
  intro t q t' _ ht hstep
  exact ht.trans (silent_giveUp hstep)

def enter (s : State) (entry : OperationPointer × Operation) : State :=
  { s with
    operations := Function.update s.operations entry.1
      { entry.2 with rank := s.added.length, dependsOn := entry.2.operationDependency }
    added := s.added ++ [entry.1] }

theorem addOperations_cons (s : State) (entry : OperationPointer × Operation)
    (operations : List (OperationPointer × Operation)) :
    s.addOperations (entry :: operations) = (s.enter entry).addOperations operations := rfl

theorem addOperations_eq (s : State) (operations : List (OperationPointer × Operation)) :
    s.addOperations operations = { s with
        operations := (s.addOperations operations).operations
        added := s.added ++ operations.map Prod.fst } := by
  induction operations generalizing s with
  | nil => simp [addOperations]
  | cons entry operations ih =>
    rw [addOperations_cons, ih]
    simp [enter]

variable {operations : List (OperationPointer × Operation)}

theorem operations_addOperations_of_notMem {q : OperationPointer}
    (h : q ∉ operations.map Prod.fst) : (s.addOperations operations).operations q = s.operations q := by
  induction operations generalizing s with
  | nil => rfl
  | cons entry operations ih =>
    rw [map_cons, mem_cons, not_or] at h
    rw [addOperations_cons, ih h.2]
    exact Function.update_of_ne h.1 _ s.operations

theorem operations_addOperations_of_mem
    {entry : OperationPointer × Operation} (hnodup : (operations.map Prod.fst).Nodup) (h : entry ∈ operations) :
    ∃ rank, s.added.length ≤ rank ∧ rank < s.added.length + operations.length ∧
      (s.addOperations operations).operations entry.1 =
        { entry.2 with rank := rank, dependsOn := entry.2.operationDependency } := by
  induction operations generalizing s with
  | nil => cases h
  | cons first operations ih =>
    rw [map_cons, nodup_cons] at hnodup
    rw [addOperations_cons]
    rcases mem_cons.mp h with rfl | h
    · refine ⟨s.added.length, le_refl _, by simp, ?_⟩
      rw [operations_addOperations_of_notMem hnodup.1]
      exact Function.update_self entry.1 _ s.operations
    · obtain ⟨rank, hle, hlt, heq⟩ := ih (s := s.enter first) hnodup.2 h
      have hlength : (s.enter first).added.length = s.added.length + 1 := length_append
      rw [hlength] at hle hlt
      rw [length_cons]
      exact ⟨rank, Nat.le_of_succ_le hle, by omega, heq⟩

theorem quiet_enqueues (h : Machine.runs enqueue s ps = some s') : Quiet touched s s' :=
  (Silent.runs (fun _ _ _ => silent_enqueue) h).quiet

theorem quiet_sendSingleOperation {result : State × SentOperationStatus} (h : s.sendSingleOperation p = some result) :
    Quiet touched s result.1 := by
  cases hdevice : s.devices (s.operations p).owner with
  | none =>
    simp only [sendSingleOperation, hdevice] at h
    cases h
    exact (silent_destroyPhysicalEntity s p).quiet
  | some device => exact (sends_of_sendSingleOperation h (by rw [hdevice]; rfl)).quiet

theorem quiet_addManagerOperation (h : s.addManagerOperation p = some s') :
    Quiet touched (s.updateOperation p fun operation => { operation with containerId := 0 }) s' := by
  obtain ⟨s₁, hs₁, hrest⟩ := bind_eq_some_iff.mp h
  obtain ⟨result, hresult, rfl⟩ := map_eq_some_iff.mp hrest
  exact (silent_addOperationToWaitingList hs₁).quiet.trans (quiet_sendSingleOperation hresult)

end State

end Isa100Gateway.Operations
