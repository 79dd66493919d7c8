import Isa100Gateway.NetworkEngine.CompletionRuns
import Isa100Gateway.NetworkEngine.OperationDependencies

/-!
# Operations are sent after those they depend on

Every dependency of an unsent operation is committed or in a list of the same container, and has not failed. A run in which no walk loses an operation that others wait for therefore sends everything in order.
-/

namespace Isa100Gateway.Operations

open List Option State

namespace Guards

variable {s s' : State} {p : OperationPointer} {id : ContainerId}

theorem of_failed {container : Container} (hcontainer : s'.containers id = container.failed)
    (hsent : ∀ q ∈ container.sentOperations, (s'.operations q).containerId = id ∧ q ∈ s'.added) : Guards s' id := by
  apply of_unsent_nil
  · rw [hcontainer]
    rfl
  · rw [hcontainer]
    exact hsent

theorem settled (h : Guards s id) (hsettles : Settles s id p s') : Guards s' id := by
  have hquiet := hsettles.quiet
  cases hsettles with
  | committed _ hcommit => exact h.calm (silent_commitChanges hcommit).toCalm
  | @failed s₁ s₂ hs₁ hs₂ =>
    have hfirst : Calm s s₁ := by
      rcases hs₁ with rfl | hcommit
      · exact Calm.refl s₁
      · exact (silent_commitChanges hcommit).toCalm
    have hcontainer := containers_setAsFail hs₂
    rw [hfirst.containers] at hcontainer
    have hsame : ((s₂.destroyPhysicalEntity p).recordFailed p).containers id = (s.containers id).failed := hcontainer
    apply of_failed hsame
    intro q hq
    rw [hquiet.containerId, hquiet.added]
    exact h.sent q hq

theorem confirmed {result : State × ConfirmOutcome} (h : Guards s id) (hconfirms : Confirms s p result) :
    Guards result.1 id := by
  cases hconfirms with
  | unknown hsilent _ => exact h.calm hsilent.toCalm
  | @settled s₁ _ _ hs₁ _ hsettles =>
    have hsilent := silent_removeOperationInWaitingList hs₁
    have hbefore := h.calm hsilent.toCalm
    by_cases hmine : (s.operations p).containerId = id
    · rw [hmine] at hsettles
      exact hbefore.settled hsettles
    · have hplace : (s₁.operations p).containerId = (s.operations p).containerId := hsilent.containerId p
      refine hbefore.confined (hsettles.confined rfl rfl) ?_ (Ne.symm hmine)
      intro q hq
      obtain rfl := Set.mem_singleton_iff.mp hq
      exact hplace

theorem confirmedEscaped (h : Guards s id) (hconfirm : s.confirmEscaped p = some s') : Guards s' id := by
  rw [confirmEscaped] at hconfirm
  split at hconfirm
  · cases hconfirm
    exact h
  · obtain ⟨result, hresult, rfl⟩ := map_eq_some_iff.mp hconfirm
    exact h.confirmed (confirms_of_confirmOperation hresult)

theorem confirmedEscapeds {ps : List OperationPointer} (h : Guards s id)
    (hrun : Machine.runs confirmEscaped s ps = some s') : Guards s' id :=
  Machine.runs_invariant (P := fun t => Guards t id) h (fun _ _ _ _ ht hstep => ht.confirmedEscaped hstep) hrun

end Guards

namespace State

variable {s s' : State} {p : OperationPointer} {id : ContainerId}

theorem sent_setAsFail (h : s.setAsFail id = some s') : s'.sent = s.sent := by
  obtain ⟨t, ht, rfl⟩ := setAsFail_eq_some h
  have hdestroyed : Silent s t := Silent.runs (fun _ _ _ => silent_destroyOperation) ht
  exact hdestroyed.sent

theorem Settles.sent (h : Settles s id p s') : s'.sent = s.sent := by
  cases h with
  | committed _ hcommit => exact (silent_commitChanges hcommit).sent
  | @failed s₁ s₂ hs₁ hs₂ =>
    have hfirst : s₁.sent = s.sent := by
      rcases hs₁ with rfl | hcommit
      · rfl
      · exact (silent_commitChanges hcommit).sent
    exact (sent_setAsFail hs₂).trans hfirst

variable {result : State × ConfirmOutcome}

theorem Confirms.sent (h : Confirms s p result) : result.1.sent = s.sent := by
  cases h with
  | unknown hsilent _ => exact hsilent.sent
  | settled _ hs₁ _ hsettles => exact hsettles.sent.trans (silent_removeOperationInWaitingList hs₁).sent

theorem Confirms.failed (h : Confirms s p result) : ∀ q ∈ result.1.failed, q ∈ s.failed ∨ q = p := by
  cases h with
  | unknown hsilent _ => exact fun q hq => .inl (hsilent.failed ▸ hq)
  | settled _ hs₁ _ hsettles =>
    have hsettled : Confined {p} Set.univ _ _ := hsettles.confined rfl (Set.mem_univ _)
    rw [← (silent_removeOperationInWaitingList hs₁).failed]
    exact hsettled.failed

theorem logs_confirmEscaped (h : s.confirmEscaped p = some s') (hp : p ∈ s.added)
    (hfailed : ∀ q ∈ s.failed, q ∈ s.added)
    (hsent : s.SentInOrder) : (∀ q ∈ s'.failed, q ∈ s'.added) ∧ s'.SentInOrder := by
  rw [confirmEscaped] at h
  split at h
  · cases h
    exact ⟨hfailed, hsent⟩
  · obtain ⟨result, hresult, rfl⟩ := map_eq_some_iff.mp h
    have hconfirms := confirms_of_confirmOperation hresult
    have hadded : result.1.added = s.added := hconfirms.quiet.added
    refine ⟨?_, hsent.of_sent hconfirms.sent fun q hq => hadded ▸ hq⟩
    intro q hq
    rw [hadded]
    rcases hconfirms.failed q hq with hq | rfl
    · exact hfailed q hq
    · exact hp

theorem logs_confirmEscapeds {ps : List OperationPointer} (h : Machine.runs confirmEscaped s ps = some s')
    (hps : ∀ p ∈ ps, p ∈ s.added) (hfailed : ∀ q ∈ s.failed, q ∈ s.added) (hsent : s.SentInOrder) :
    (∀ q ∈ s'.failed, q ∈ s'.added) ∧ s'.SentInOrder := by
  have hstart : (∀ p ∈ ps, p ∈ s.added) ∧ (∀ q ∈ s.failed, q ∈ s.added) ∧ s.SentInOrder := ⟨hps, hfailed, hsent⟩
  refine (Machine.runs_invariant (P := fun t => (∀ p ∈ ps, p ∈ t.added) ∧ (∀ q ∈ t.failed, q ∈ t.added) ∧
    t.SentInOrder) hstart ?_ h).2
  rintro t p t' hp ⟨hps, hfailed, hsent⟩ hstep
  refine ⟨?_, logs_confirmEscaped hstep (hps p hp) hfailed hsent⟩
  rw [(quiet_confirmEscaped hstep).added]
  exact hps

theorem confined_removeAllSentOperations {address : Address32} {isBackbone : Bool}
    (h : s.removeAllSentOperations id address isBackbone = some s') :
    Confined {q | q ∈ s.sentTo id address isBackbone} {id} s s' ∧ s'.sent = s.sent ∧ s'.failed = s.failed := by
  obtain ⟨t, ht, rfl⟩ := map_eq_some_iff.mp h
  have hremoved : Confined {q | q ∈ s.sentTo id address isBackbone} {id} s t ∧ t.sent = s.sent ∧ t.failed =
    s.failed := by
    refine Machine.runs_invariant (P := fun t => Confined {q | q ∈ s.sentTo id address isBackbone} {id} s t ∧
      t.sent = s.sent ∧ t.failed = s.failed) ⟨(Calm.refl s).confined, rfl, rfl⟩ ?_ ht
    rintro u p u' hp ⟨hconfined, hsent, hfailed⟩ hstep
    obtain ⟨v, hv, rfl⟩ := map_eq_some_iff.mp hstep
    have hsilent := silent_destroyOperation hv
    have hzeroed : Confined {q | q ∈ s.sentTo id address isBackbone} {id} v
        (v.updateOperation p fun operation => { operation with containerId := 0 }) :=
      Confined.updateOperation (fun _ => rfl) hp
    exact ⟨(hconfined.trans hsilent.toCalm.confined).trans hzeroed, hsilent.sent.trans hsent,
      hsilent.failed.trans hfailed⟩
  exact ⟨hremoved.1.trans (Confined.updateContainer rfl), hremoved.2⟩

end State

structure Guarding (s : State) (loop : Loop) : Prop where
  listed : ∀ id ∈ s.listOfContainers, id ∈ s.handed ∧ id ≠ 0
  guards : ∀ id ∈ s.listOfContainers, Guards s id
  awaiting : ∀ p ∈ loop.awaiting, p ∈ s.added
  failed : ∀ p ∈ s.failed, p ∈ s.added
  sentInOrder : s.SentInOrder

namespace Guarding

variable {s s' : State} {loop loop' : Loop} {id : ContainerId}

section

variable (h : Guarding s loop)
include h

theorem rebuild (hlist : s'.listOfContainers = s.listOfContainers) (hhanded : s'.handed = s.handed)
    (hadded : s'.added = s.added) (hguards : ∀ id ∈ s.listOfContainers, Guards s' id)
    (hfailed : ∀ p ∈ s'.failed, p ∈ s'.added) (hsent : s'.SentInOrder) : Guarding s' loop := by
  refine ⟨?_, ?_, ?_, hfailed, hsent⟩
  · rw [hlist, hhanded]
    exact h.listed
  · rw [hlist]
    exact hguards
  · rw [hadded]
    exact h.awaiting

theorem silent (hsilent : Silent s s') : Guarding s' loop := by
  apply h.rebuild hsilent.listOfContainers hsilent.handed hsilent.added
  · exact fun id hid => (h.guards id hid).calm hsilent.toCalm
  · rw [hsilent.failed, hsilent.added]
    exact h.failed
  · exact h.sentInOrder.silent hsilent

theorem of_awaiting (hawaiting : ∀ p ∈ loop'.awaiting, p ∈ s.added) : Guarding s loop' :=
  ⟨h.listed, h.guards, hawaiting, h.failed, h.sentInOrder⟩

theorem of_awaiting_nil (hloop' : loop'.awaiting = []) : Guarding s loop' := by
  apply h.of_awaiting
  rw [hloop']
  exact fun p hp => (nomatch hp)

theorem eraseContainer (id : ContainerId) : Guarding (s.eraseContainer id) loop := by
  have hsub : ∀ other ∈ s.listOfContainers.erase id, other ∈ s.listOfContainers := fun _ hother =>
    mem_of_mem_erase hother
  refine ⟨fun other hother => h.listed other (hsub other hother), ?_, h.awaiting, h.failed, h.sentInOrder⟩
  intro other hother
  exact (h.guards other (hsub other hother)).transfer rfl (fun _ hq => hq) (fun _ hq => hq)
    (fun _ _ _ => ⟨rfl, rfl, rfl⟩) fun _ hq _ _ => hq

theorem handleEndContainer (id : ContainerId) : Guarding (s.handleEndContainer id) loop := by
  refine ⟨h.listed, ?_, h.awaiting, h.failed, h.sentInOrder⟩
  intro other hother
  exact (h.guards other hother).transfer rfl (fun _ hq => hq) (fun _ hq => hq)
    (fun _ _ _ => ⟨rfl, rfl, rfl⟩) fun _ hq _ _ => hq

theorem setAsFail (hfail : s.setAsFail id = some s') : Guarding s' loop := by
  have hconfined : Confined ∅ {id} s s' := confined_setAsFail hfail rfl
  apply h.rebuild hconfined.listOfContainers hconfined.handed hconfined.added
  · intro other hother
    have hguards := h.guards other hother
    by_cases hne : other = id
    · subst hne
      apply Guards.of_failed (containers_setAsFail hfail)
      intro q hq
      rw [(hconfined.agrees q (Set.notMem_empty q)).containerId, hconfined.added]
      exact hguards.sent q hq
    · exact hguards.confined hconfined (fun q hq => absurd hq (Set.notMem_empty q)) hne
  · intro p hp
    rw [hconfined.added]
    exact h.failed p ((hconfined.failed p hp).resolve_right (Set.notMem_empty p))
  · exact h.sentInOrder.of_sent (sent_setAsFail hfail) fun q hq => hconfined.added ▸ hq

theorem cleanAll {address : Address32} {isBackbone : Bool} {t : State}
    (hid : id ∈ s.listOfContainers) (hremove : s.removeAllSentOperations id address isBackbone = some t)
    (hfail : t.setAsFail id = some s') : Guarding s' loop := by
  obtain ⟨hremoved, hsent, hsame⟩ := confined_removeAllSentOperations hremove
  obtain ⟨-, hcontainerId, hcontainer⟩ := removeAllSentOperations_facts hremove
  have hfailed : Confined {q | q ∈ s.sentTo id address isBackbone} {id} t s' := confined_setAsFail hfail rfl
  have hconfined := hremoved.trans hfailed
  have hmine : ∀ q ∈ s.sentTo id address isBackbone, (s.operations q).containerId = id :=
    fun q hq => ((h.guards id hid).sent q (mem_filter.mp hq).1).1
  have hcontainers := containers_setAsFail hfail
  apply h.rebuild hconfined.listOfContainers hconfined.handed hconfined.added
  · intro other hother
    by_cases hne : other = id
    · subst hne
      apply Guards.of_failed hcontainers
      rw [hcontainer]
      intro q hq
      have hplace : (s'.operations q).containerId = (t.operations q).containerId :=
        (quiet_setAsFail hfail).containerId q
      obtain ⟨hq, helsewhere⟩ := mem_filter.mp hq
      rw [hconfined.added, hplace, hcontainerId, if_neg]
      · exact (h.guards other hid).sent q hq
      · intro hmem
        rw [(mem_filter.mp hmem).2] at helsewhere
        cases helsewhere
    · exact (h.guards other hother).confined hconfined hmine hne
  · intro p hp
    have hbefore : Confined ∅ {id} t s' := confined_setAsFail hfail rfl
    rw [hconfined.added]
    exact h.failed p (hsame ▸ (hbefore.failed p hp).resolve_right (Set.notMem_empty p))
  · apply h.sentInOrder.of_sent ((sent_setAsFail hfail).trans hsent)
    rw [hconfined.added]
    exact fun _ hq => hq

end

theorem endOfLoop {ps : List OperationPointer} {removeDevice : Bool}
    (h : Guarding s (.sendOperations none ps removeDevice))
    (hrun : Machine.runs confirmEscaped s ps = some s') : Guarding s' .idle := by
  have hquiet : Quiet Set.univ s s' := Quiet.runs (fun _ _ _ => quiet_confirmEscaped) hrun
  obtain ⟨hfailed, hsent⟩ := logs_confirmEscapeds hrun h.awaiting h.failed h.sentInOrder
  refine ⟨?_, ?_, ?_, hfailed, hsent⟩
  · rw [hquiet.listOfContainers, hquiet.handed]
    exact h.listed
  · rw [hquiet.listOfContainers]
    intro id hid
    exact (h.guards id hid).confirmedEscapeds hrun
  · intro p hp
    cases hp

theorem logs_walk {currentTime : UInt32} {pass pass' : SendPass}
    (hunsent : ∀ p ∈ (pass.state.containers id).unsentOperations, p ∈ pass.state.added)
    (hconfirmed : ∀ p ∈ pass.confirmedOperations, p ∈ pass.state.added)
    (hfailed : ∀ p ∈ pass.state.failed, p ∈ pass.state.added)
    (hrun : sendAllContainerOperations id currentTime pass = some pass') :
    (∀ p ∈ pass'.confirmedOperations, p ∈ pass'.state.added) ∧ ∀ p ∈ pass'.state.failed, p ∈ pass'.state.added := by
  have hquiet : Quiet {id} pass.state pass'.state := quiet_walk hrun
  rw [hquiet.added]
  refine ⟨?_, ?_⟩
  · intro p hp
    exact (confirmed_of_walk hrun p hp).elim (hconfirmed p) (hunsent p)
  · refine Machine.runs_invariant (P := fun t => ∀ p ∈ t.state.failed, p ∈ pass.state.added) hfailed ?_ hrun
    intro t p t' hp ht hvisit q hq
    rcases (SendPass.visits_of_visit hvisit).confined.failed q hq with hq | hq
    · exact ht q hq
    · obtain rfl := Set.mem_singleton_iff.mp hq
      exact hunsent q hp

theorem walk {currentTime : UInt32} {it it' : Iterator} {confirmedOperations : List OperationPointer}
    {removeDevice : Bool} {pass : SendPass} (h : Guarding s (.sendOperations it confirmedOperations removeDevice))
    (hid : id ∈ s.listOfContainers) (hunbroken : UnbrokenWalk id currentTime ⟨s, confirmedOperations⟩)
    (hrun : sendAllContainerOperations id currentTime ⟨s, confirmedOperations⟩ = some pass) :
    Guarding pass.state (.sendOperations it' pass.confirmedOperations removeDevice) := by
  have hquiet : Quiet {id} s pass.state := quiet_walk hrun
  have hmine : Guards s id := h.guards id hid
  have hzero := (h.listed id hid).2
  obtain ⟨hawaiting, hfailed⟩ := logs_walk (fun p hp => (hmine.unsent p hp).2) h.awaiting h.failed hrun
  obtain ⟨hguards, hsent⟩ := Guards.walk hmine hzero hunbroken h.sentInOrder hrun
  refine ⟨?_, ?_, hawaiting, hfailed, hsent⟩
  · rw [hquiet.listOfContainers, hquiet.handed]
    exact h.listed
  · rw [hquiet.listOfContainers]
    intro other hother
    by_cases hne : other = id
    · exact hne ▸ hguards
    · exact Guards.other (h.guards other hother) (fun p hp => (hmine.unsent p hp).1) hne hrun

theorem logs_handOver (s : State) (id : ContainerId) (container : Container)
    (operations : List (OperationPointer × Operation)) :
    (s.handOver id container operations).failed = s.failed ∧ (s.handOver id container operations).sent = s.sent := by
  have heq := addOperations_eq s operations
  refine ⟨?_, ?_⟩
  · change (s.addOperations operations).failed = _
    rw [heq]
  · change (s.addOperations operations).sent = _
    rw [heq]

variable {operations : List (OperationPointer × Operation)} {container : Container}

theorem guards_handOver_self (hfailed : ∀ p ∈ s.failed, p ∈ s.added) (hfresh : s.IsFresh id container operations)
    (hdepends : ∀ entry ∈ operations, ∀ d ∈ entry.2.operationDependency, d ∈ operations.map Prod.fst) :
    Guards ((s.handOver id container operations).appendContainer id) id := by
  obtain ⟨hcontainers, -, -, -, -, hadded, hoperations⟩ := Accounted.handOver_facts s id container operations
  have hcontainer : (s.handOver id container operations).containers id = container := by
    rw [hcontainers]
    exact Function.update_self id container s.containers
  have hentered : ∀ p ∈ operations.map Prod.fst, p ∉ s.added ∧ ∃ entry ∈ operations,
      ((s.handOver id container operations).operations p).containerId = id ∧
        ((s.handOver id container operations).operations p).dependsOn = entry.2.operationDependency ∧
        ((s.handOver id container operations).operations p).operationDependency = entry.2.operationDependency := by
    intro p hp
    obtain ⟨entry, hentry, rfl⟩ := mem_map.mp hp
    obtain ⟨rank, -, -, heq⟩ := operations_addOperations_of_mem (s := s) hfresh.nodup hentry
    refine ⟨hfresh.not_added entry hentry, entry, hentry, ?_⟩
    rw [hoperations, heq]
    exact ⟨hfresh.containerId entry hentry, rfl, rfl⟩
  have hnew : ∀ p ∈ operations.map Prod.fst, p ∈ (s.handOver id container operations).added := by
    intro p hp
    rw [hadded]
    exact mem_append_right _ hp
  have hunsent : (((s.handOver id container operations).appendContainer id).containers id).unsentOperations =
      operations.map Prod.fst := by
    change ((s.handOver id container operations).containers id).unsentOperations = _
    rw [hcontainer, hfresh.unsent]
  have hsent : (((s.handOver id container operations).appendContainer id).containers id).sentOperations = [] := by
    change ((s.handOver id container operations).containers id).sentOperations = _
    rw [hcontainer, hfresh.sent]
  refine ⟨?_, ?_, ?_, ?_⟩
  · rw [hunsent]
    exact hfresh.nodup
  · rw [hunsent]
    intro p hp
    obtain ⟨-, entry, -, hplace, -⟩ := hentered p hp
    exact ⟨hplace, hnew p hp⟩
  · rw [hsent]
    intro p hp
    cases hp
  · rw [hunsent]
    intro p hp d hd
    obtain ⟨-, entry, hentry, -, hdependsOn, hdependency⟩ := hentered p hp
    change d ∈ ((s.handOver id container operations).operations p).dependsOn at hd
    rw [hdependsOn] at hd
    have hd' := hdepends entry hentry d hd
    obtain ⟨hold, entry', -, hplace, -⟩ := hentered d hd'
    refine ⟨hnew d hd', hplace, .inr (.inl (hunsent ▸ hd')), ?_, .inl ?_⟩
    · intro hbad
      change d ∈ (s.handOver id container operations).failed at hbad
      rw [(logs_handOver s id container operations).1] at hbad
      exact absurd (hfailed d hbad) hold
    · change d ∈ ((s.handOver id container operations).operations p).operationDependency
      rw [hdependency]
      exact hd

theorem handOver (h : Guarding s loop) (hfresh : s.IsFresh id container operations)
    (hdepends : ∀ entry ∈ operations, ∀ d ∈ entry.2.operationDependency, d ∈ operations.map Prod.fst) :
    Guarding ((s.handOver id container operations).appendContainer id) loop := by
  obtain ⟨hcontainers, hlist, hhanded, -, hcommitted, hadded, hoperations⟩ :=
    Accounted.handOver_facts s id container operations
  obtain ⟨hfailed, hsent⟩ := logs_handOver s id container operations
  have hmore : ∀ p ∈ s.added, p ∈ (s.handOver id container operations).added := by
    intro p hp
    rw [hadded]
    exact mem_append_left _ hp
  have hsplit : ∀ other ∈ ((s.handOver id container operations).appendContainer id).listOfContainers,
      other ∈ s.listOfContainers ∧ other ≠ id ∨ other = id := by
    intro other hother
    change other ∈ (s.handOver id container operations).listOfContainers ++ [id] at hother
    rw [hlist] at hother
    rcases mem_append.mp hother with hother | hother
    · exact .inl ⟨hother, fun heq => hfresh.not_handed (heq ▸ (h.listed other hother).1)⟩
    · exact .inr (mem_singleton.mp hother)
  refine ⟨?_, ?_, fun p hp => hmore p (h.awaiting p hp), ?_, h.sentInOrder.of_sent hsent hmore⟩
  · intro other hother
    change other ∈ (s.handOver id container operations).handed ∧ other ≠ 0
    rw [hhanded]
    rcases hsplit other hother with ⟨hother, -⟩ | rfl
    · exact (h.listed other hother).imp_left fun hmem => mem_append_left _ hmem
    · exact ⟨mem_append_right _ (mem_singleton_self other), hfresh.id_ne_zero⟩
  · intro other hother
    rcases hsplit other hother with ⟨hother, hne⟩ | rfl
    · have hsame : ∀ q ∈ s.added, (s.handOver id container operations).operations q = s.operations q := by
        intro q hq
        rw [hoperations]
        apply operations_addOperations_of_notMem
        intro hmem
        obtain ⟨entry, hentry, rfl⟩ := mem_map.mp hmem
        exact hfresh.not_added entry hentry hq
      refine (h.guards other hother).transfer ?_ hmore (fun q hq => ?_) (fun q hq _ => ?_) fun q hq _ _ => ?_
      · change (s.handOver id container operations).containers other = _
        rw [hcontainers]
        exact Function.update_of_ne hne container s.containers
      · change q ∈ (s.handOver id container operations).committed
        rw [hcommitted]
        exact hq
      · change ((s.handOver id container operations).operations q).Agrees _
        rw [hsame q hq]
        exact ⟨rfl, rfl, rfl⟩
      · exact hfailed ▸ hq
    · exact guards_handOver_self h.failed hfresh hdepends
  · change ∀ p ∈ (s.handOver id container operations).failed, p ∈ (s.handOver id container operations).added
    rw [hfailed]
    exact fun p hp => hmore p (h.failed p hp)

theorem addManagerOperation {p : OperationPointer} {operation : Operation} (h : Guarding s loop) (hp : p ∉ s.added)
    (hfree : operation.operationDependency = []) (hadd :
      (s.addOperations [(p, operation)]).addManagerOperation p = some s') : Guarding s' loop := by
  obtain ⟨t, ht, hrest⟩ := bind_eq_some_iff.mp hadd
  obtain ⟨result, hresult, rfl⟩ := map_eq_some_iff.mp hrest
  generalize hentered : (s.addOperations [(p, operation)]).updateOperation p
    (fun operation => { operation with containerId := 0 }) = u at ht
  have hadded : u.added = s.added ++ [p] := hentered ▸ rfl
  have hcommitted : u.committed = s.committed := hentered ▸ rfl
  have hfailed : u.failed = s.failed := hentered ▸ rfl
  have hmore : ∀ q ∈ s.added, q ∈ u.added := by
    intro q hq
    rw [hadded]
    exact mem_append_left _ hq
  have hsame : ∀ q ∈ s.added, u.operations q = s.operations q := by
    intro q hq
    have hne : q ≠ p := fun heq => hp (heq ▸ hq)
    rw [← hentered, operations_updateOperation_of_ne _ _ hne]
    exact Function.update_of_ne hne _ s.operations
  have hdependsOn : (u.operations p).dependsOn = operation.operationDependency := by
    rw [← hentered, operations_updateOperation_self]
    change (Function.update s.operations p _ p).dependsOn = _
    rw [Function.update_self]
  have hlist : u.listOfContainers = s.listOfContainers := hentered ▸ rfl
  have hhanded : u.handed = s.handed := hentered ▸ rfl
  have hcontainers : u.containers = s.containers := hentered ▸ rfl
  have hsent : u.sent = s.sent := hentered ▸ rfl
  have hentry : Guarding u loop := by
    refine ⟨?_, ?_, fun q hq => hmore q (h.awaiting q hq), ?_, h.sentInOrder.of_sent hsent hmore⟩
    · rw [hlist, hhanded]
      exact h.listed
    · rw [hlist]
      intro other hother
      refine (h.guards other hother).transfer (congrFun hcontainers other) hmore ?_ ?_ ?_
      · rw [hcommitted]
        exact fun q hq => hq
      · intro q hq _
        rw [hsame q hq]
        exact ⟨rfl, rfl, rfl⟩
      · rw [hfailed]
        exact fun q hq _ _ => hq
    · rw [hfailed]
      exact fun q hq => hmore q (h.failed q hq)
  have hqueued := silent_addOperationToWaitingList ht
  have hbefore := hentry.silent hqueued
  cases hdevice : t.devices (t.operations p).owner with
  | none =>
    simp only [sendSingleOperation, hdevice] at hresult
    cases hresult
    exact hbefore.silent (silent_destroyPhysicalEntity t p)
  | some device =>
    have hsends := sends_of_sendSingleOperation hresult (by rw [hdevice]; rfl)
    have hcalm := hsends.calm
    apply hbefore.rebuild hcalm.listOfContainers hcalm.handed hcalm.added
    · exact fun id hid => (hbefore.guards id hid).calm hcalm
    · rw [hcalm.failed, hcalm.added]
      exact hbefore.failed
    · apply hbefore.sentInOrder.sends _ hsends
      · intro d hd
        rw [Operation.dependsOn_of_core (hqueued.core p), hdependsOn, hfree] at hd
        cases hd
      · rw [hqueued.added, hadded]
        exact mem_append_right _ (mem_singleton_self p)

end Guarding

/-! ## Steps -/

namespace Processor

def UnbrokenLoop (s : State) (currentTime : UInt32) : Loop → Prop
  | .sendOperations (some id) confirmedOperations _ => UnbrokenWalk id currentTime ⟨s, confirmedOperations⟩
  | _ => True

instance (s : State) (currentTime : UInt32) : ∀ loop : Loop, Decidable (UnbrokenLoop s currentTime loop)
  | .sendOperations (some id) confirmedOperations _ =>
    inferInstanceAs (Decidable (UnbrokenWalk id currentTime ⟨s, confirmedOperations⟩))
  | .sendOperations none _ _ => isTrue trivial
  | .idle => isTrue trivial
  | .cleanEmptyContainers _ _ _ _ _ => isTrue trivial

/-- No walk loses what others wait for; containers depend on nothing outside, and what `addManagerOperation` gets on nothing at all. -/
def Unbroken (c : Processor) : Event → Prop
  | .proceed currentTime => c.calls = [] → UnbrokenLoop c.state currentTime c.loop
  | .addOperationsContainer id container operations currentTime =>
    (∀ entry ∈ operations, ∀ d ∈ entry.2.operationDependency, d ∈ operations.map Prod.fst) ∧
      ∀ s ∈ (c.state.handOver id container operations).enqueueAll id, UnbrokenWalk id currentTime ⟨s, []⟩
  | .addManagerOperation _ operation => operation.operationDependency = []
  | _ => True

instance (c : Processor) : ∀ event : Event, Decidable (c.Unbroken event)
  | .proceed _ => inferInstanceAs (Decidable (_ → _))
  | .addOperationsContainer .. => inferInstanceAs (Decidable (_ ∧ _))
  | .addManagerOperation .. => inferInstanceAs (Decidable (_ = _))
  | .deviceDeletedCallback _ _ => isTrue trivial
  | .setDevice _ _ => isTrue trivial
  | .confirm _ _ _ => isTrue trivial
  | .cleanEmptyContainers _ _ => isTrue trivial
  | .handlerReturns => isTrue trivial

section Loops

variable {s s' : State} {loop : Loop} {id : ContainerId} {currentTime : UInt32} {calls : List Call} {c c' : Processor}

theorem guarding_addOperationsContainer {container : Container} {operations : List (OperationPointer × Operation)}
    {result : State × Bool} (h : Guarding s loop) (hfresh : s.IsFresh id container operations)
    (hdepends : ∀ entry ∈ operations, ∀ d ∈ entry.2.operationDependency, d ∈ operations.map Prod.fst)
    (hunbroken : ∀ t ∈ (s.handOver id container operations).enqueueAll id, UnbrokenWalk id currentTime ⟨t, []⟩)
    (hadd : s.addOperationsContainer id container operations currentTime = some result) : Guarding result.1 loop := by
  have hhanded := h.handOver hfresh hdepends
  simp only [addOperationsContainer] at hadd
  split at hadd
  · cases hadd
    have hnew : id ∉ (s.handOver id container operations).listOfContainers := by
      obtain ⟨-, hlist, -⟩ := Accounted.handOver_facts s id container operations
      rw [hlist]
      exact fun hmem => hfresh.not_handed (h.listed id hmem).1
    have herased := hhanded.eraseContainer id
    rw [Accounted.eraseContainer_appendContainer hnew] at herased
    exact herased.handleEndContainer id
  · obtain ⟨t, ht, hrest⟩ := bind_eq_some_iff.mp hadd
    obtain ⟨pass, hpass, hrest⟩ := bind_eq_some_iff.mp hrest
    obtain ⟨u, hu, rfl⟩ := map_eq_some_iff.mp hrest
    have hqueued : Silent ((s.handOver id container operations).appendContainer id) t :=
      Silent.runs (fun _ _ _ => silent_enqueue) ht
    have hstart := hhanded.silent hqueued
    have hid : id ∈ t.listOfContainers := by
      rw [hqueued.listOfContainers]
      exact mem_append_right _ (mem_singleton_self id)
    have hzero := hfresh.id_ne_zero
    have hmine : Guards t id := (Guarding.guards_handOver_self h.failed hfresh hdepends).calm hqueued.toCalm
    have hwalk : Quiet {id} t pass.state := quiet_walk hpass
    have hconfirms : Quiet Set.univ pass.state u := Quiet.runs (fun _ _ _ => quiet_confirmEscaped) hu
    obtain ⟨hguards, hsent⟩ := Guards.walk hmine hzero (hunbroken t ht) hstart.sentInOrder hpass
    obtain ⟨hawaiting, hfailed⟩ := Guarding.logs_walk (fun p hp => (hmine.unsent p hp).2)
      (fun p hp => absurd hp not_mem_nil) hstart.failed hpass
    obtain ⟨hfailed', hsent'⟩ := logs_confirmEscapeds hu hawaiting hfailed hsent
    have hlisted : ∀ other ∈ t.listOfContainers, other ∈ pass.state.listOfContainers :=
      fun other hother => hwalk.listOfContainers ▸ hother
    have hdone : Guarding u loop := by
      apply hstart.rebuild (hconfirms.listOfContainers.trans hwalk.listOfContainers)
        (hconfirms.handed.trans hwalk.handed) (hconfirms.added.trans hwalk.added) _ hfailed' hsent'
      intro other hother
      by_cases hne : other = id
      · subst hne
        exact hguards.confirmedEscapeds hu
      · have hsame := Guards.other (hstart.guards other hother) (fun p hp => (hmine.unsent p hp).1) hne hpass
        exact hsame.confirmedEscapeds hu
    split
    · exact (hdone.eraseContainer id).handleEndContainer id
    · exact hdone

theorem guarding_sendAt {confirmedOperations : List OperationPointer} {removeDevice : Bool}
    (h : Guarding s (.sendOperations (some id) confirmedOperations removeDevice))
    (hunbroken : UnbrokenWalk id currentTime ⟨s, confirmedOperations⟩)
    (hstep : sendAt s id confirmedOperations removeDevice currentTime = some c') : Guarding c'.state c'.loop := by
  rw [sendAt] at hstep
  split at hstep
  · rename_i hid
    obtain ⟨pass, hpass, rfl⟩ := map_eq_some_iff.mp hstep
    split
    · exact ((h.walk hid hunbroken hpass).eraseContainer id).handleEndContainer id
    · exact h.walk hid hunbroken hpass
  · cases hstep

theorem guarding_cleanAt {timeoutValue : UInt16} {devicesToBeRemoved : List Address32} (h : Guarding s loop)
    (hstep : cleanAt s id currentTime timeoutValue devicesToBeRemoved = some c') :
    Guarding c'.state c'.loop := by
  rw [cleanAt] at hstep
  split at hstep
  · rename_i hid
    split at hstep
    · cases hstep
      exact ((h.eraseContainer id).handleEndContainer id).of_awaiting_nil rfl
    · split at hstep
      · obtain ⟨t, ht, rfl⟩ := map_eq_some_iff.mp hstep
        have hfailed := (h.eraseContainer id).setAsFail ht
        exact (hfailed.handleEndContainer id).of_awaiting_nil rfl
      · cases hstep
        exact h.of_awaiting_nil rfl
  · cases hstep

theorem guarding_deleteAt {address : Address32} {isBackbone : Bool} (h : Guarding s loop)
    (hstep : deleteAt s id address isBackbone loop calls = some c') : Guarding c'.state c'.loop := by
  rw [deleteAt] at hstep
  split at hstep
  · rename_i hid
    obtain ⟨t, ht, hrest⟩ := bind_eq_some_iff.mp hstep
    split at hrest
    · obtain ⟨u, hu, rfl⟩ := map_eq_some_iff.mp hrest
      have hcleaned := h.cleanAll hid ht hu
      split
      · exact (hcleaned.eraseContainer id).handleEndContainer id
      · exact hcleaned
    · rename_i hclean
      cases hrest
      rw [eq_of_removeAllSentOperations ht (Bool.not_eq_true _ ▸ hclean)]
      exact h
  · cases hstep

theorem guarding_proceedLoop (h : Guarding c.state c.loop) (hunbroken : UnbrokenLoop c.state currentTime c.loop)
    (hstep : c.proceedLoop currentTime = some c') : Guarding c'.state c'.loop := by
  rw [proceedLoop] at hstep
  split at hstep
  · cases hstep
  · rename_i id confirmedOperations removeDevice hloop
    rw [hloop] at h hunbroken
    exact guarding_sendAt h hunbroken hstep
  · rename_i confirmedOperations removeDevice hloop
    rw [hloop] at h
    obtain ⟨t, ht, rfl⟩ := map_eq_some_iff.mp hstep
    exact h.endOfLoop ht
  · rename_i it now timeoutValue devicesToBeRemoved id hloop
    rw [hloop] at h
    obtain ⟨result, hresult, rfl⟩ := map_eq_some_iff.mp hstep
    exact (h.silent (silent_giveUps hresult)).of_awaiting_nil rfl
  · rename_i id now timeoutValue devicesToBeRemoved hloop
    rw [hloop] at h
    exact guarding_cleanAt h hstep
  · rename_i now timeoutValue devicesToBeRemoved hloop
    rw [hloop] at h
    cases hstep
    exact h.of_awaiting_nil rfl

variable {p : OperationPointer} {errorCode : OperationErrorCode} {value : Option PhyEntity}

theorem guards_answer (h : Guards s id) : Guards (s.answer p errorCode value) id := by
  have hsame : ∀ q, ((s.answer p errorCode value).operations q).core = (s.operations q).core ∧
      ((s.answer p errorCode value).operations q).containerId = (s.operations q).containerId ∧
      ((s.answer p errorCode value).operations q).operationDependency = (s.operations q).operationDependency := by
    intro q
    by_cases hq : q = p
    · rw [hq, answer, operations_updateOperation_self]
      exact ⟨rfl, rfl, rfl⟩
    · rw [answer, operations_updateOperation_of_ne _ _ hq]
      exact ⟨rfl, rfl, rfl⟩
  refine ⟨h.nodup, ?_, ?_, ?_⟩
  · intro q hq
    rw [(hsame q).2.1]
    exact h.unsent q hq
  · intro q hq
    rw [(hsame q).2.1]
    exact h.sent q hq
  · intro q hq d hd
    rw [Operation.dependsOn_of_core (hsame q).1] at hd
    have hguarded := h.dependencies q hq d hd
    refine ⟨hguarded.added, (hsame d).2.1.trans hguarded.place, hguarded.accounted, hguarded.notFailed, ?_⟩
    rw [(hsame q).2.2]
    exact hguarded.known

theorem guards_removeSent (h : Guards s id)
    (hdone : p ∈ s.committed ∨ (s.containers id).unsentOperations = []) : Guards (s.removeSent id p) id := by
  have hcontainer : (s.removeSent id p).containers id = { s.containers id with
        sentOperations := (s.containers id).sentOperations.filter fun other => other ≠ p } := by
    rw [removeSent, containers_updateContainer_self]
  have hsub : ∀ q ∈ ((s.removeSent id p).containers id).sentOperations, q ∈ (s.containers id).sentOperations := by
    rw [hcontainer]
    exact fun q hq => (mem_filter.mp hq).1
  refine ⟨?_, ?_, fun q hq => h.sent q (hsub q hq), ?_⟩ <;> rw [hcontainer]
  · exact h.nodup
  · exact h.unsent
  · intro q hq d hd
    have hguarded := h.dependencies q hq d hd
    refine ⟨hguarded.added, hguarded.place, ?_, hguarded.notFailed, ?_⟩
    · rw [hcontainer]
      by_cases heq : d = p
      · rcases hdone with hdone | hunsent
        · exact .inl (heq ▸ hdone)
        · change q ∈ (s.containers id).unsentOperations at hq
          rw [hunsent] at hq
          cases hq
      · refine hguarded.accounted.imp_right fun hcase => hcase.imp_right fun hsent => ?_
        exact mem_filter.mpr ⟨hsent, by simpa using heq⟩
    · rw [hcontainer]
      refine hguarded.known.imp_right fun hout => ⟨fun hsent => hout.1 ?_, hout.2⟩
      exact (mem_filter.mp hsent).1

theorem guarding_confirm
    (h : Guarding c.state c.loop) (hloop : c.loop = .idle) (hp : p ∈ c.state.sent.map Sent.operation)
    (hstep : c.confirm p errorCode value = some c') : Guarding c'.state c'.loop := by
  obtain ⟨⟨s', outcome⟩, hresult, rfl⟩ := map_eq_some_iff.mp hstep
  have hadded : p ∈ c.state.added := by
    obtain ⟨record, hrecord, rfl⟩ := mem_map.mp hp
    exact (h.sentInOrder record hrecord).1
  generalize hanswered : c.state.answer p errorCode value = answered at hresult
  have hcontainers : answered.listOfContainers = c.state.listOfContainers := hanswered ▸ rfl
  rw [hloop] at h
  have hidle : Guarding answered .idle := by
    apply h.rebuild hcontainers (hanswered ▸ rfl) (hanswered ▸ rfl)
    · exact fun id hid => hanswered ▸ guards_answer (h.guards id hid)
    · exact hanswered ▸ h.failed
    · exact hanswered ▸ h.sentInOrder
  have hadded' : p ∈ answered.added := hanswered ▸ hadded
  have hconfirms := confirms_of_confirmOperation hresult
  have hguards : ∀ id ∈ answered.listOfContainers, Guards s' id := fun id hid =>
    (hidle.guards id hid).confirmed hconfirms
  have hsent := hconfirms.sent
  have hfailed := hconfirms.failed
  cases hconfirms with
  | unknown hsilent _ =>
    rw [hloop]
    exact hidle.silent hsilent
  | @settled s₁ _ removeDevice hs₁ hlisted hsettles =>
    have hquiet : Quiet {(answered.operations p).containerId} answered s' :=
      (silent_removeOperationInWaitingList hs₁).quiet.trans hsettles.quiet
    have hafter : Quiet {(answered.operations p).containerId} answered
        (s'.removeSent (answered.operations p).containerId p) :=
      hquiet.trans (quiet_updateContainer s' _ rfl)
    have hdone : p ∈ s'.committed ∨ (s'.containers (answered.operations p).containerId).unsentOperations = [] := by
      rcases hsettles.container with ⟨-, hcommitted⟩ | hcontainer
      · exact .inl hcommitted
      · rw [hcontainer]
        exact .inr rfl
    have hfinal : Guarding (s'.removeSent (answered.operations p).containerId p) .idle := by
      apply hidle.rebuild hafter.listOfContainers hafter.handed hafter.added
      · intro other hother
        by_cases hne : other = (answered.operations p).containerId
        · subst hne
          exact guards_removeSent (hguards _ hother) hdone
        · have hother' := hguards other hother
          have hremoved : Confined ∅ {(answered.operations p).containerId} s'
              (s'.removeSent (answered.operations p).containerId p) := Confined.updateContainer rfl
          exact hother'.confined hremoved (fun q hq => absurd hq (Set.notMem_empty q)) hne
      · intro q hq
        change q ∈ s'.added
        rw [hquiet.added]
        rcases hfailed q hq with hq | rfl
        · exact hidle.failed q hq
        · exact hadded'
      · apply hidle.sentInOrder.of_sent hsent
        change ∀ q ∈ answered.added, q ∈ s'.added
        rw [hquiet.added]
        exact fun q hq => hq
    exact hfinal.of_awaiting_nil rfl

end Loops

variable {c c' : Processor}

theorem guarding_step {event : Event} (h : Guarding c.state c.loop) (hunbroken : c.Unbroken event)
    (hstep : c.step event = some c') : Guarding c'.state c'.loop := by
  cases event with
  | addOperationsContainer id container operations currentTime =>
    simp only [step] at hstep
    split at hstep
    · rename_i hguard
      obtain ⟨result, hresult, rfl⟩ := map_eq_some_iff.mp hstep
      exact guarding_addOperationsContainer h hguard.2 hunbroken.1 hunbroken.2 hresult
    · cases hstep
  | addManagerOperation p operation =>
    simp only [step] at hstep
    split at hstep
    · rename_i hguard
      obtain ⟨t, ht, rfl⟩ := map_eq_some_iff.mp hstep
      exact h.addManagerOperation hguard.2.1 hunbroken ht
    · cases hstep
  | deviceDeletedCallback address isBackbone =>
    simp only [step] at hstep
    split at hstep
    · cases hstep
      exact h
    · cases hstep
  | setDevice address device =>
    simp only [step] at hstep
    split at hstep
    · cases hstep
      exact h.silent (silent_of_devices c.state _)
    · cases hstep
  | confirm p errorCode value =>
    simp only [step] at hstep
    split at hstep
    · rename_i hguard
      exact guarding_confirm h hguard.1 hguard.2.2.1 hstep
    · cases hstep
  | cleanEmptyContainers currentTime timeoutValue =>
    simp only [step] at hstep
    split at hstep
    · rename_i hguard
      cases hstep
      rw [hguard.1] at h
      exact h.of_awaiting_nil rfl
    · cases hstep
  | handlerReturns =>
    simp only [step] at hstep
    split at hstep
    · cases hstep
      exact h
    · cases hstep
  | proceed currentTime =>
    simp only [step, proceed] at hstep
    split at hstep
    · rename_i hcalls
      exact guarding_proceedLoop h (hunbroken hcalls) hstep
    · cases hstep
    · exact guarding_deleteAt h hstep
    · cases hstep
      exact h

variable {devices : Address32 → Option Device} {operations : OperationPointer → Operation}
  {containers : ContainerId → Container}

theorem guarding_reaches (h : Machine.Reaches (init devices operations containers) step Unbroken c) :
    Guarding c.state c.loop := by
  refine h.invariant (P := fun c => Guarding c.state c.loop) ?_ ?_
  · refine ⟨?_, ?_, ?_, ?_, ?_⟩ <;> intro p hp <;> cases hp
  · intro c event c' hc hunbroken hstep
    exact guarding_step hc hunbroken hstep

/-- In every unbroken run an operation is given to the sender only when all it depends on is committed, and none of it has failed or been dropped. -/
theorem dependency_safety (h : Machine.Reaches (init devices operations containers) step Unbroken c) :
    ∀ record ∈ c.state.sent, record.uncommitted = [] ∧ record.failed = [] :=
  fun record hrecord => ((guarding_reaches h).sentInOrder record hrecord).2

/-- Three writes, each of which depends on the one before. -/
def chainOfWrites : List Event :=
  [.addOperationsContainer 2 (containerOf [10, 11, 12])
      [(10, pingWrite 2 2 5 []), (11, pingWrite 2 3 6 [10]), (12, pingWrite 2 4 5 [11])] 101,
    .confirm 10 .success none, .proceed 102, .proceed 102, .confirm 11 .success none, .proceed 103]

theorem dependency_safety_sample : (∀ c ∈ Machine.runs step initial chainOfWrites,
      ∀ record ∈ c.state.sent, record.uncommitted = [] ∧ record.failed = []) ∧
      (Machine.runs step initial chainOfWrites).map (fun c => c.state.sent.map Sent.operation) = some [10, 11, 12] := by
  have hsent : (Machine.runs step initial chainOfWrites).map (fun c => c.state.sent.map Sent.operation) =
      some [10, 11, 12] := by decide +kernel
  refine ⟨?_, hsent⟩
  intro c hc
  have hunbroken : Machine.AllAlong Unbroken step initial chainOfWrites := by decide +kernel
  exact dependency_safety (Machine.reaches_runs hunbroken hc)

def chainOverRemovedDevice : List Event :=
  [.addOperationsContainer 1 (containerOf [20]) [(20, pingWrite 1 1 6 [])] 100,
    .deviceDeletedCallback 6 false, .proceed 101,
    .addOperationsContainer 2 (containerOf [10, 11, 12])
      [(10, pingWrite 2 2 5 []), (11, pingWrite 2 3 6 [10]), (12, pingWrite 2 4 5 [11])] 101,
    .handlerReturns, .proceed 101, .setDevice 6 none]

/-- The device is gone: once the first write is confirmed, the second is dropped, and the third is sent in the same walk. -/
theorem sent_after_dropped_dependency :
    ∃ c, Machine.runs step initial (chainOverRemovedDevice ++ [.confirm 10 .success none, .proceed 102]) = some c ∧
      ⟨12, [11], [11]⟩ ∈ c.state.sent := by
  have hsent : (Machine.runs step initial (chainOverRemovedDevice ++ [.confirm 10 .success none, .proceed 102])).map
      (fun c => c.state.sent) = some [⟨20, [], []⟩, ⟨10, [], []⟩, ⟨12, [11], [11]⟩] := by decide +kernel
  obtain ⟨c, hc, hsent⟩ := map_eq_some_iff.mp hsent
  refine ⟨c, hc, ?_⟩
  rw [hsent]
  simp

end Processor

end Isa100Gateway.Operations
