import Mathlib.Data.List.Nodup
import Isa100Gateway.NetworkEngine.ContainerCompletion

/-!
# Every container ends once, and with success only if it is committed

The containers handed over are those in the list and those whose end handlers have been called. A container the sending loop has still to come to awaits none of the confirms at its end, so that a container ends with success only if all its operations are committed, unless the loop itself loses one on the way.
-/

namespace Isa100Gateway.Operations

open List Option State

def Iterator.rest (it : Iterator) (ids : List ContainerId) : List ContainerId :=
  match it with
  | none => []
  | some id => ids.dropWhile fun other => other ≠ id

section Iterators

variable {ids ids' : List ContainerId} {id other : ContainerId} {it : Iterator}

theorem mem_dropWhile_of_sublist {p : ContainerId → Bool} (hsub : ids'.Sublist ids) (h : other ∈ ids'.dropWhile p) :
    other ∈ ids.dropWhile p := by
  induction hsub with
  | slnil => exact h
  | @cons l₁ l₂ a hsub ih =>
    rw [dropWhile_cons]
    split
    · exact ih h
    · exact mem_cons_of_mem a (hsub.subset ((dropWhile_sublist p).subset h))
  | @cons_cons l₁ l₂ a hsub ih =>
    rw [dropWhile_cons] at h ⊢
    split at h
    · rename_i hp
      rw [if_pos hp]
      exact ih h
    · rename_i hp
      rw [if_neg hp]
      exact (hsub.cons_cons a).subset h

theorem Iterator.mem_rest_of_sublist (hsub : ids'.Sublist ids) (h : other ∈ it.rest ids') : other ∈ it.rest ids := by
  cases it with
  | none => exact h
  | some id => exact mem_dropWhile_of_sublist hsub h

theorem Iterator.mem_rest_append (h : other ∈ it.rest (ids ++ [id])) : other ∈ it.rest ids ∨ other = id := by
  cases it with
  | none => exact .inl h
  | some current =>
    simp only [rest, dropWhile_append] at h
    split at h
    · have hmem := (dropWhile_sublist _).subset h
      exact .inr (mem_singleton.mp hmem)
    · rcases mem_append.mp h with h | h
      · exact .inl h
      · exact .inr (mem_singleton.mp h)

theorem dropWhile_ne_append {before after : List ContainerId} (h : id ∉ before) :
    (before ++ id :: after).dropWhile (fun other => other ≠ id) = id :: after := by
  rw [dropWhile_append_of_pos, dropWhile_cons, if_neg]
  · simp
  · intro other hother
    have hne : other ≠ id := fun heq => h (heq ▸ hother)
    simpa using hne

theorem Iterator.mem_rest_self (hid : id ∈ ids) : id ∈ Iterator.rest (some id) ids := by
  obtain ⟨before, after, rfl, hbefore⟩ := eq_append_cons_of_mem hid
  rw [rest, dropWhile_ne_append hbefore]
  exact mem_cons_self

theorem Iterator.mem_rest_next (hnodup : ids.Nodup) (hid : id ∈ ids) (h : other ∈ (nextContainer ids id).rest ids) :
    other ∈ Iterator.rest (some id) ids ∧ other ≠ id := by
  obtain ⟨before, after, rfl, hbefore⟩ := eq_append_cons_of_mem hid
  rw [nextContainer, dropWhile_ne_append hbefore, tail_cons] at h
  rw [rest, dropWhile_ne_append hbefore]
  cases after with
  | nil => cases h
  | cons next after =>
    have hnext : next ∉ before ++ [id] := by
      have hsplit : before ++ id :: next :: after = (before ++ [id]) ++ next :: after := by simp
      rw [hsplit, nodup_append] at hnodup
      exact fun hmem => hnodup.2.2 next hmem next mem_cons_self rfl
    have hsplit : before ++ id :: next :: after = (before ++ [id]) ++ next :: after := by simp
    rw [head?_cons, rest, hsplit, dropWhile_ne_append hnext] at h
    have hafter : id ∉ next :: after := (nodup_cons.mp (nodup_append.mp hnodup).2.1).1
    exact ⟨mem_cons_of_mem id h, fun heq => hafter (heq ▸ h)⟩

end Iterators

def Loop.awaiting : Loop → List OperationPointer
  | .sendOperations _ confirmedOperations _ => confirmedOperations
  | _ => []

def Loop.toVisit (ids : List ContainerId) : Loop → List ContainerId
  | .sendOperations it _ _ => it.rest ids
  | _ => []

def Loop.awaited (loop : Loop) (ids : List ContainerId) (id : ContainerId) : List OperationPointer :=
  if id ∈ loop.toVisit ids then [] else loop.awaiting

/-- Containers handed over are listed or ended, and ended with success only when all was committed. -/
structure Accounted (s : State) (loop : Loop) : Prop where
  zero : 0 ∉ s.handed
  nodup : s.handed.Nodup
  perm : (s.listOfContainers ++ s.ended.map Ended.containerId).Perm s.handed
  awaiting : ∀ p ∈ loop.awaiting, p ∈ s.added
  sound : ∀ id ∈ s.listOfContainers, Sound s (loop.awaited s.listOfContainers id) id
  complete : ∀ e ∈ s.ended, e.rspStatus = .success → e.uncommitted = []

namespace Accounted

variable {s s' : State} {loop loop' : Loop} {id : ContainerId}

section

variable (h : Accounted s loop)
include h

theorem listNodup : s.listOfContainers.Nodup :=
  (nodup_append.mp (h.perm.nodup_iff.mpr h.nodup)).1

theorem ne_zero (hid : id ∈ s.listOfContainers) : id ≠ 0 := by
  intro hzero
  apply h.zero
  rw [← hzero]
  exact h.perm.subset (mem_append_left _ hid)

theorem mem_handed (hid : id ∈ s.listOfContainers) : id ∈ s.handed :=
  h.perm.subset (mem_append_left _ hid)

theorem rebuild {touched : Set ContainerId} (hsteady : Steady touched s s')
    (hawaiting : ∀ p ∈ loop'.awaiting, p ∈ s.added)
    (hsound : ∀ id ∈ s.listOfContainers, Sound s' (loop'.awaited s.listOfContainers id) id) : Accounted s' loop' := by
  have hlist := hsteady.listOfContainers
  refine ⟨?_, ?_, ?_, ?_, ?_, ?_⟩
  · rw [hsteady.handed]
    exact h.zero
  · rw [hsteady.handed]
    exact h.nodup
  · rw [hsteady.handed, hlist, hsteady.ended]
    exact h.perm
  · rw [hsteady.added]
    exact hawaiting
  · intro id hid
    rw [hlist] at hid ⊢
    exact hsound id hid
  · rw [hsteady.ended]
    exact h.complete

theorem of_quiet (hquiet : Quiet ∅ s s') : Accounted s' loop := by
  apply h.rebuild hquiet.toSteady h.awaiting
  intro id hid
  exact (h.sound id hid).of_quiet hquiet (Set.notMem_empty id)

theorem of_quiet_one (hquiet : Quiet {id} s s')
    (hsound : id ∈ s.listOfContainers → Sound s' (loop.awaited s.listOfContainers id) id) : Accounted s' loop := by
  apply h.rebuild hquiet.toSteady h.awaiting
  intro other hother
  by_cases heq : other = id
  · subst heq
    exact hsound hother
  · exact (h.sound other hother).of_quiet hquiet heq

theorem of_loop (hadded : ∀ p ∈ loop'.awaiting, p ∈ s.added)
    (hawaited : ∀ id ∈ s.listOfContainers, ∀ p ∈ loop.awaited s.listOfContainers id,
      p ∈ loop'.awaited s.listOfContainers id) : Accounted s loop' :=
  ⟨h.zero, h.nodup, h.perm, hadded, fun id hid => (h.sound id hid).mono (hawaited id hid), h.complete⟩

theorem of_awaiting_nil (hloop : loop.awaiting = []) (hloop' : loop'.awaiting = []) : Accounted s loop' := by
  apply h.of_loop
  · rw [hloop']
    intro p hp
    cases hp
  · intro id _ p hp
    rw [Loop.awaited, hloop] at hp
    split at hp <;> cases hp

end

variable {p : OperationPointer} {removeDevice : Bool} {other : ContainerId}
  {operations : List (OperationPointer × Operation)} {container : Container}

theorem awaited_of_sublist {ids ids' : List ContainerId} (hsub : ids'.Sublist ids)
    (hp : p ∈ loop.awaited ids id) : p ∈ loop.awaited ids' id := by
  rw [Loop.awaited] at hp ⊢
  split at hp
  · cases hp
  · rename_i hnot
    rw [if_neg]
    · exact hp
    · intro hmem
      apply hnot
      cases loop with
      | sendOperations it confirmedOperations removeDevice => exact Iterator.mem_rest_of_sublist hsub hmem
      | _ => cases hmem

theorem endsAfter (h : Accounted s loop) (hid : id ∈ s.listOfContainers) (hquiet : Quiet {id} (s.eraseContainer id) s')
    (hcomplete : (s'.containers id).rspStatus = .success → ∀ p ∈ (s'.containers id).operations, p ∈ s'.committed) :
    Accounted (s'.handleEndContainer id) loop := by
  have hsub : (s.listOfContainers.erase id).Sublist s.listOfContainers := erase_sublist
  have hlist : s'.listOfContainers = s.listOfContainers.erase id := hquiet.listOfContainers
  have hhanded : (s'.handleEndContainer id).handed = s.handed := hquiet.handed
  have hended : s'.ended = s.ended := hquiet.ended
  refine ⟨?_, ?_, ?_, ?_, ?_, ?_⟩
  · rw [hhanded]
    exact h.zero
  · rw [hhanded]
    exact h.nodup
  · have hrecorded : (s'.handleEndContainer id).ended.map Ended.containerId = s.ended.map Ended.containerId ++
      [id] := by
      rw [← hended]
      exact map_append
    have hlast := perm_append_singleton id (s.listOfContainers.erase id ++ s.ended.map Ended.containerId)
    have hback := (perm_cons_erase hid).symm.append_right (s.ended.map Ended.containerId)
    change (s'.listOfContainers ++ _).Perm _
    rw [hlist, hrecorded, hhanded, ← append_assoc]
    exact (hlast.trans hback).trans h.perm
  · change ∀ p ∈ loop.awaiting, p ∈ s'.added
    rw [hquiet.added]
    exact h.awaiting
  · intro other hother
    change other ∈ s'.listOfContainers at hother
    change Sound _ (loop.awaited s'.listOfContainers other) other
    rw [hlist] at hother ⊢
    have hlisted := hsub.subset hother
    have hne : other ≠ id := fun heq => h.listNodup.not_mem_erase (heq ▸ hother)
    have hsame : Sound (s.eraseContainer id) (loop.awaited s.listOfContainers other) other :=
      ⟨(h.sound other hlisted).nodup, (h.sound other hlisted).unsent, (h.sound other hlisted).sent,
        (h.sound other hlisted).accounted⟩
    have hkept := (hsame.of_quiet hquiet hne).mono fun p hp => awaited_of_sublist hsub hp
    exact ⟨hkept.nodup, hkept.unsent, hkept.sent, hkept.accounted⟩
  · intro e he hstatus
    rcases mem_append.mp he with he | he
    · exact h.complete e (hended ▸ he) hstatus
    · obtain rfl := mem_singleton.mp he
      apply filter_eq_nil_iff.mpr
      intro p hp
      have hcommitted : p ∈ s'.committed := hcomplete hstatus p hp
      simpa using hcommitted

theorem ends (h : Accounted s loop) (hid : id ∈ s.listOfContainers)
    (hcomplete : (s.containers id).rspStatus = .success → ∀ p ∈ (s.containers id).operations, p ∈ s.committed) :
    Accounted ((s.eraseContainer id).handleEndContainer id) loop :=
  h.endsAfter hid (Quiet.refl _) hcomplete

theorem confirmed {result : State × ConfirmOutcome} {awaited : List OperationPointer}
    (hconfirms : Confirms s p result) (hzero : id ≠ 0) (hid : id ∈ s.listOfContainers)
    (h : Sound s (p :: awaited) id) : Sound result.1 awaited id := by
  by_cases hmine : (s.operations p).containerId = id
  · have hcontainer := hconfirms.container (hmine ▸ hzero) (hmine ▸ hid)
    have hquiet := hconfirms.quiet
    rw [hmine] at hcontainer hquiet
    rcases hcontainer with ⟨hcontainer, hcommitted⟩ | hcontainer
    · refine ⟨?_, ?_, ?_, ?_⟩ <;> rw [hcontainer]
      · exact h.nodup
      · intro q hq
        rw [hquiet.containerId, hquiet.added]
        exact h.unsent q hq
      · intro q hq
        rw [hquiet.containerId, hquiet.added]
        exact h.sent q hq
      · intro hstatus q hq
        rw [Operation.owner_of_core (hquiet.core q), hquiet.containerId]
        rcases h.accounted hstatus q hq with hdone | hunsent | hsent | ⟨hmem, hrest⟩
        · exact .inl (hquiet.committed q hdone)
        · exact .inr (.inl hunsent)
        · exact .inr (.inr (.inl hsent))
        · rcases mem_cons.mp hmem with rfl | hmem
          · exact .inl hcommitted
          · exact .inr (.inr (.inr ⟨hmem, hrest⟩))
    · apply Sound.of_failed
      · rw [hcontainer]
        intro q hq
        rw [hquiet.containerId, hquiet.added]
        exact h.sent q hq
      · rw [hcontainer]
        rfl
      · rw [hcontainer]
        rfl
  · have hothers : Sound s awaited id := by
      refine ⟨h.nodup, h.unsent, h.sent, ?_⟩
      intro hstatus q hq
      rcases h.accounted hstatus q hq with hdone | hunsent | hsent | ⟨hmem, howner, hcontainer⟩
      · exact .inl hdone
      · exact .inr (.inl hunsent)
      · exact .inr (.inr (.inl hsent))
      · rcases mem_cons.mp hmem with rfl | hmem
        · exact absurd hcontainer hmine
        · exact .inr (.inr (.inr ⟨hmem, howner, hcontainer⟩))
    exact hothers.of_quiet hconfirms.quiet fun heq => hmine (Set.mem_singleton_iff.mp heq).symm

theorem confirmedEscaped {awaited : List OperationPointer} (hzero : id ≠ 0)
    (hid : id ∈ s.listOfContainers) (hconfirm : s.confirmEscaped p = some s') (h : Sound s (p :: awaited) id) :
    Sound s' awaited id := by
  rw [confirmEscaped] at hconfirm
  split at hconfirm
  · rename_i howner
    cases hconfirm
    refine ⟨h.nodup, h.unsent, h.sent, ?_⟩
    intro hstatus q hq
    rcases h.accounted hstatus q hq with hdone | hunsent | hsent | ⟨hmem, hother, hcontainer⟩
    · exact .inl hdone
    · exact .inr (.inl hunsent)
    · exact .inr (.inr (.inl hsent))
    · rcases mem_cons.mp hmem with rfl | hmem
      · exact absurd howner hother
      · exact .inr (.inr (.inr ⟨hmem, hother, hcontainer⟩))
  · obtain ⟨result, hresult, rfl⟩ := map_eq_some_iff.mp hconfirm
    exact confirmed (confirms_of_confirmOperation hresult) hzero hid h

theorem confirmedEscapeds {ps awaited : List OperationPointer} (hzero : id ≠ 0) (hid : id ∈ s.listOfContainers)
    (hrun : Machine.runs confirmEscaped s ps = some s') (h : Sound s (ps ++ awaited) id) : Sound s' awaited id := by
  induction ps generalizing s with
  | nil =>
    cases hrun
    exact h
  | cons p ps ih =>
    obtain ⟨s₁, hs₁, hrest⟩ := bind_eq_some_iff.mp hrun
    have hid₁ : id ∈ s₁.listOfContainers := (quiet_confirmEscaped hs₁).listOfContainers ▸ hid
    exact ih hid₁ hrest (confirmedEscaped hzero hid hs₁ h)

theorem endOfLoop {ps : List OperationPointer} (h : Accounted s (.sendOperations none ps removeDevice))
    (hrun : Machine.runs confirmEscaped s ps = some s') : Accounted s' .idle := by
  have hquiet : Quiet Set.univ s s' := Quiet.runs (fun _ _ _ => quiet_confirmEscaped) hrun
  apply h.rebuild hquiet.toSteady
  · intro p hp
    cases hp
  · intro id hid
    apply confirmedEscapeds (h.ne_zero hid) hid hrun
    exact (h.sound id hid).mono fun p hp => mem_append_left _ hp

variable {confirmedOperations : List OperationPointer}

theorem sound_at
    (h : Accounted s (.sendOperations (some id) confirmedOperations removeDevice)) (hid : id ∈ s.listOfContainers) :
    Sound s [] id := by
  have hvisit : id ∈ Loop.toVisit s.listOfContainers (.sendOperations (some id) confirmedOperations removeDevice) :=
    Iterator.mem_rest_self hid
  have hsound := h.sound id hid
  rwa [Loop.awaited, if_pos hvisit] at hsound

theorem walk {currentTime : UInt32} {pass : SendPass}
    (h : Accounted s (.sendOperations (some id) confirmedOperations removeDevice)) (hid : id ∈ s.listOfContainers)
    (hserved : ManagerServed id currentTime ⟨s, confirmedOperations⟩)
    (hrun : sendAllContainerOperations id currentTime ⟨s, confirmedOperations⟩ = some pass) : Accounted pass.state
      (.sendOperations (nextContainer s.listOfContainers id) pass.confirmedOperations removeDevice) := by
  have hquiet : Quiet {id} s pass.state := quiet_walk hrun
  have hmine := h.sound_at hid
  have hadded : ∀ p ∈ pass.confirmedOperations, p ∈ s.added := by
    intro p hp
    rcases confirmed_of_walk hrun p hp with hp | hp
    · exact h.awaiting p hp
    · exact (hmine.unsent p hp).2
  have hlater : Accounted s
      (.sendOperations (nextContainer s.listOfContainers id) pass.confirmedOperations removeDevice) := by
    refine of_loop h hadded ?_
    intro other hother p hp
    rw [Loop.awaited] at hp ⊢
    split at hp
    · cases hp
    · rename_i hnot
      rw [if_neg]
      · exact mem_confirmed_of_walk hrun p hp
      · intro hmem
        exact hnot (Iterator.mem_rest_next h.listNodup hid hmem).1
  apply hlater.of_quiet_one hquiet
  intro _
  rw [Loop.awaited, if_neg]
  · exact hmine.walk hserved hrun
  · intro hmem
    exact (Iterator.mem_rest_next h.listNodup hid hmem).2 rfl

theorem awaiting_of_awaited {ids : List ContainerId} (hp : p ∈ loop.awaited ids id) : p ∈ loop.awaiting := by
  rw [Loop.awaited] at hp
  split at hp
  · cases hp
  · exact hp

theorem sound_of_steady {gone : List OperationPointer} (h : Accounted s loop)
    (hsteady : Steady {id} s s') (hgone : ∀ p ∈ gone, (s.operations p).containerId = id)
    (hcontainerId : ∀ q, (s'.operations q).containerId = if q ∈ gone then 0 else (s.operations q).containerId)
    (hne : other ≠ id) (hother : other ∈ s.listOfContainers) :
      Sound s' (loop.awaited s.listOfContainers other) other := by
  apply (h.sound other hother).transfer (hsteady.containers other hne)
  · intro p hp
    rw [hsteady.added]
    exact hp
  · exact hsteady.committed
  · exact fun p _ => hsteady.core p
  · intro p _ hp
    rw [hcontainerId, if_neg]
    · exact hp
    · intro hmem
      exact hne (hp.symm.trans (hgone p hmem))
  · exact fun p hp => ⟨h.awaiting p (awaiting_of_awaited hp), hp⟩

theorem cleanAll {address : Address32} {isBackbone : Bool} {t : State} (h : Accounted s loop)
    (hid : id ∈ s.listOfContainers) (hremove : s.removeAllSentOperations id address isBackbone = some t)
    (hfail : t.setAsFail id = some s') : Accounted s' loop := by
  obtain ⟨hsteady, hcontainerId, hcontainer⟩ := removeAllSentOperations_facts hremove
  have hquiet := quiet_setAsFail hfail
  have hfailed := containers_setAsFail hfail
  have hsound := h.sound id hid
  have hsame : ∀ q, (s'.operations q).containerId =
      if q ∈ s.sentTo id address isBackbone then 0 else (s.operations q).containerId := by
    intro q
    rw [hquiet.containerId, hcontainerId]
  have hboth : Steady {id} s s' := hsteady.trans hquiet.toSteady
  apply h.rebuild hboth h.awaiting
  intro other hother
  by_cases hne : other = id
  · subst hne
    apply Sound.of_failed
    · rw [hfailed]
      intro p hp
      change p ∈ (t.containers other).sentOperations at hp
      rw [hcontainer] at hp
      obtain ⟨hp, hnot⟩ := mem_filter.mp hp
      have helsewhere : p ∉ s.sentTo other address isBackbone := by
        intro hmem
        rw [(mem_filter.mp hmem).2] at hnot
        cases hnot
      rw [hsame, if_neg helsewhere, hboth.added]
      exact hsound.sent p hp
    · rw [hfailed]
      rfl
    · rw [hfailed]
      rfl
  · apply h.sound_of_steady hboth _ hsame hne hother
    intro p hp
    exact (hsound.sent p (mem_filter.mp hp).1).1

theorem sound_of_added (h : Accounted s loop) (hother : other ∈ s.listOfContainers)
    (hcontainer : s'.containers other = s.containers other) (hadded : ∀ p ∈ s.added, p ∈ s'.added)
    (hcommitted : s'.committed = s.committed) (hsame : ∀ p ∈ s.added, s'.operations p = s.operations p)
    {awaited : List OperationPointer} (hawaited : ∀ p ∈ loop.awaited s.listOfContainers other, p ∈ awaited) :
    Sound s' awaited other := by
  apply (h.sound other hother).transfer hcontainer hadded
  · rw [hcommitted]
    exact fun p hp => hp
  · intro p hp
    rw [hsame p hp]
  · intro p hp hcontainerId
    rw [hsame p hp]
    exact hcontainerId
  · exact fun p hp => ⟨h.awaiting p (awaiting_of_awaited hp), hawaited p hp⟩

theorem handOver_facts (s : State) (id : ContainerId) (container : Container)
    (operations : List (OperationPointer × Operation)) :
    (s.handOver id container operations).containers = Function.update s.containers id container ∧
      (s.handOver id container operations).listOfContainers = s.listOfContainers ∧
      (s.handOver id container operations).handed = s.handed ++ [id] ∧
      (s.handOver id container operations).ended = s.ended ∧
      (s.handOver id container operations).committed = s.committed ∧
      (s.handOver id container operations).added = s.added ++ operations.map Prod.fst ∧
      (s.handOver id container operations).operations = (s.addOperations operations).operations := by
  have heq := addOperations_eq s operations
  refine ⟨?_, ?_, ?_, ?_, ?_, ?_, rfl⟩
  · change Function.update (s.addOperations operations).containers id container = _
    rw [heq]
  · change (s.addOperations operations).listOfContainers = _
    rw [heq]
  · change (s.addOperations operations).handed ++ [id] = _
    rw [heq]
  · change (s.addOperations operations).ended = _
    rw [heq]
  · change (s.addOperations operations).committed = _
    rw [heq]
  · change (s.addOperations operations).added = _
    rw [heq]

theorem sound_handOver (h : Accounted s loop)
    (hfresh : s.IsFresh id container operations) (hother : other ∈ s.listOfContainers)
    {awaited : List OperationPointer} (hawaited : ∀ p ∈ loop.awaited s.listOfContainers other, p ∈ awaited) :
    Sound (s.handOver id container operations) awaited other := by
  obtain ⟨hcontainers, -, -, -, hcommitted, hadded, hoperations⟩ := handOver_facts s id container operations
  have hne : other ≠ id := fun heq => hfresh.not_handed (heq ▸ h.mem_handed hother)
  apply h.sound_of_added hother _ _ hcommitted _ hawaited
  · rw [hcontainers]
    exact Function.update_of_ne hne container s.containers
  · intro p hp
    rw [hadded]
    exact mem_append_left _ hp
  · intro p hp
    rw [hoperations]
    apply operations_addOperations_of_notMem
    intro hmem
    obtain ⟨entry, hentry, rfl⟩ := mem_map.mp hmem
    exact hfresh.not_added entry hentry hp

theorem sound_handOver_self (hfresh : s.IsFresh id container operations) (awaited : List OperationPointer) :
    Sound (s.handOver id container operations) awaited id := by
  obtain ⟨hcontainers, -, -, -, -, hadded, hoperations⟩ := handOver_facts s id container operations
  have hcontainer : (s.handOver id container operations).containers id = container := by
    rw [hcontainers]
    exact Function.update_self id container s.containers
  refine ⟨?_, ?_, ?_, ?_⟩ <;> rw [hcontainer]
  · rw [hfresh.unsent]
    exact hfresh.nodup
  · rw [hfresh.unsent]
    intro p hp
    refine ⟨?_, ?_⟩
    · obtain ⟨entry, hentry, rfl⟩ := mem_map.mp hp
      obtain ⟨rank, -, -, heq⟩ := operations_addOperations_of_mem (s := s) hfresh.nodup hentry
      rw [hoperations, heq]
      exact hfresh.containerId entry hentry
    · rw [hadded]
      exact mem_append_right _ hp
  · rw [hfresh.sent]
    intro p hp
    cases hp
  · intro _ p hp
    rw [hfresh.recorded] at hp
    rw [hfresh.unsent]
    exact .inr (.inl hp)

theorem awaited_append (loop : Loop) (ids : List ContainerId) (hne : other ≠ id)
    (hp : p ∈ loop.awaited ids other) : p ∈ loop.awaited (ids ++ [id]) other := by
  rw [Loop.awaited] at hp ⊢
  split at hp
  · cases hp
  · rename_i hnot
    rw [if_neg]
    · exact hp
    · intro hmem
      cases loop with
      | sendOperations it confirmedOperations removeDevice =>
        rcases Iterator.mem_rest_append hmem with hmem | heq
        · exact hnot hmem
        · exact hne heq
      | _ => cases hmem

theorem handOver (h : Accounted s loop) (hfresh : s.IsFresh id container operations) :
    Accounted ((s.handOver id container operations).appendContainer id) loop := by
  obtain ⟨-, hlist, hhanded, hended, -, hadded, -⟩ := handOver_facts s id container operations
  have happended : ((s.handOver id container operations).appendContainer id).listOfContainers =
    s.listOfContainers ++ [id] := by
    rw [← hlist]
    rfl
  refine ⟨?_, ?_, ?_, ?_, ?_, ?_⟩
  · change 0 ∉ (s.handOver id container operations).handed
    rw [hhanded, mem_append, not_or]
    exact ⟨h.zero, fun hmem => hfresh.id_ne_zero (mem_singleton.mp hmem).symm⟩
  · change (s.handOver id container operations).handed.Nodup
    rw [hhanded]
    apply nodup_append.mpr ⟨h.nodup, nodup_singleton id, _⟩
    intro other hother last hlast heq
    exact hfresh.not_handed (mem_singleton.mp hlast ▸ heq ▸ hother)
  · change (_ ++ (s.handOver id container operations).ended.map Ended.containerId).Perm
      (s.handOver id container operations).handed
    rw [happended, hhanded, hended, append_assoc]
    have hlast : ([id] ++ s.ended.map Ended.containerId).Perm (s.ended.map Ended.containerId ++ [id]) :=
      perm_append_comm
    have hmoved := hlast.append_left s.listOfContainers
    rw [← append_assoc s.listOfContainers (s.ended.map Ended.containerId)] at hmoved
    exact hmoved.trans (h.perm.append_right [id])
  · change ∀ p ∈ loop.awaiting, p ∈ (s.handOver id container operations).added
    rw [hadded]
    exact fun p hp => mem_append_left _ (h.awaiting p hp)
  · intro other hother
    rw [happended] at hother ⊢
    have hsame : ∀ {awaited : List OperationPointer}, Sound (s.handOver id container operations) awaited other →
        Sound ((s.handOver id container operations).appendContainer id) awaited other :=
      fun hsound => ⟨hsound.nodup, hsound.unsent, hsound.sent, hsound.accounted⟩
    rcases mem_append.mp hother with hother | hother
    · have hne : other ≠ id := fun heq => hfresh.not_handed (heq ▸ h.mem_handed hother)
      exact hsame (h.sound_handOver hfresh hother fun p hp => awaited_append loop s.listOfContainers hne hp)
    · obtain rfl := mem_singleton.mp hother
      exact hsame (sound_handOver_self hfresh _)
  · change ∀ e ∈ (s.handOver id container operations).ended, _
    rw [hended]
    exact h.complete

theorem eraseContainer_appendContainer (hid : id ∉ s.listOfContainers) :
    (s.appendContainer id).eraseContainer id = s := by
  have herase : (s.listOfContainers ++ [id]).erase id = s.listOfContainers := by
    rw [erase_append_right _ hid, erase_cons_head, append_nil]
  change { s with listOfContainers := (s.listOfContainers ++ [id]).erase id } = s
  rw [herase]

theorem handOver_ends (h : Accounted s loop)
    (hfresh : s.IsFresh id container operations) (hempty : container.isContainerEmpty = true) :
    Accounted ((s.handOver id container operations).handleEndContainer id) loop := by
  obtain ⟨hcontainers, hlist, -, -, -, -, -⟩ := handOver_facts s id container operations
  have hcontainer : (s.handOver id container operations).containers id = container := by
    rw [hcontainers]
    exact Function.update_self id container s.containers
  have hnew : id ∉ (s.handOver id container operations).listOfContainers := by
    rw [hlist]
    exact fun hmem => hfresh.not_handed (h.mem_handed hmem)
  have hended := (h.handOver hfresh).ends (mem_append_right _ (mem_singleton_self id)) (by
    intro hstatus p hp
    have hempty' : ((s.handOver id container operations).containers id).isContainerEmpty = true := by
      rw [hcontainer]
      exact hempty
    exact (sound_handOver_self hfresh []).committed_of_empty hempty' hstatus hp)
  rwa [eraseContainer_appendContainer hnew] at hended

theorem addOperation {operation : Operation} (h : Accounted s loop) (hp : p ∉ s.added)
    (f : Operation → Operation) : Accounted ((s.addOperations [(p, operation)]).updateOperation p f) loop := by
  have hadded : ∀ q ∈ s.added, q ∈ ((s.addOperations [(p, operation)]).updateOperation p f).added :=
    fun q hq => mem_append_left _ hq
  refine ⟨h.zero, h.nodup, h.perm, fun q hq => hadded q (h.awaiting q hq), ?_, h.complete⟩
  intro other hother
  refine h.sound_of_added hother ?_ hadded ?_ ?_ fun q hq => hq
  · rfl
  · rfl
  intro q hq
  have hne : q ≠ p := fun heq => hp (heq ▸ hq)
  rw [operations_updateOperation_of_ne _ _ hne]
  exact Function.update_of_ne hne _ s.operations

end Accounted

/-! ## Steps -/

namespace Processor

/-- A walk of the sending loop that empties its container loses no operation, and none on the manager. -/
def CleanLoop (s : State) (currentTime : UInt32) : Loop → Prop
  | .sendOperations (some id) confirmedOperations _ =>
    EndsClean id currentTime ⟨s, confirmedOperations⟩ ∧ ManagerServed id currentTime ⟨s, confirmedOperations⟩
  | _ => True

instance (s : State) (currentTime : UInt32) : ∀ loop : Loop, Decidable (CleanLoop s currentTime loop)
  | .sendOperations (some _) _ _ => inferInstanceAs (Decidable (_ ∧ _))
  | .sendOperations none _ _ => isTrue trivial
  | .idle => isTrue trivial
  | .cleanEmptyContainers _ _ _ _ _ => isTrue trivial

/-- The steps in which no end handler is told a success that is none. -/
def Clean (c : Processor) : Event → Prop
  | .proceed currentTime => c.calls = [] → CleanLoop c.state currentTime c.loop
  | .addOperationsContainer id container operations currentTime =>
    ∀ s ∈ (c.state.handOver id container operations).enqueueAll id, ManagerServed id currentTime ⟨s, []⟩
  | _ => True

instance (c : Processor) : ∀ event : Event, Decidable (c.Clean event)
  | .proceed _ => inferInstanceAs (Decidable (_ → _))
  | .addOperationsContainer .. => inferInstanceAs (Decidable (∀ _ ∈ _, _))
  | .addManagerOperation _ _ => isTrue trivial
  | .deviceDeletedCallback _ _ => isTrue trivial
  | .setDevice _ _ => isTrue trivial
  | .confirm _ _ _ => isTrue trivial
  | .cleanEmptyContainers _ _ => isTrue trivial
  | .handlerReturns => isTrue trivial

theorem accounted_addOperationsContainer {s : State} {loop : Loop} {id : ContainerId} {container : Container}
    {operations : List (OperationPointer × Operation)} {currentTime : UInt32} {result : State × Bool}
    (h : Accounted s loop) (hfresh : s.IsFresh id container operations)
    (hserved : ∀ t ∈ (s.handOver id container operations).enqueueAll id, ManagerServed id currentTime ⟨t, []⟩)
    (hadd : s.addOperationsContainer id container operations currentTime = some result) : Accounted result.1 loop := by
  simp only [addOperationsContainer] at hadd
  split at hadd
  · rename_i hempty
    cases hadd
    exact h.handOver_ends hfresh hempty
  · obtain ⟨t, ht, hrest⟩ := bind_eq_some_iff.mp hadd
    obtain ⟨pass, hpass, hrest⟩ := bind_eq_some_iff.mp hrest
    obtain ⟨u, hu, rfl⟩ := map_eq_some_iff.mp hrest
    have hqueued : Quiet ∅ ((s.handOver id container operations).appendContainer id) t := quiet_enqueues ht
    have hwalk : Quiet {id} t pass.state := quiet_walk hpass
    have hconfirms : Quiet Set.univ pass.state u := Quiet.runs (fun _ _ _ => quiet_confirmEscaped) hu
    have hstart := (h.handOver hfresh).of_quiet hqueued
    have hid : id ∈ t.listOfContainers := by
      rw [hqueued.listOfContainers]
      exact mem_append_right _ (mem_singleton_self id)
    have hnew : Sound t [] id := by
      have hhanded := Accounted.sound_handOver_self hfresh []
      have hsame : Sound ((s.handOver id container operations).appendContainer id) [] id :=
        ⟨hhanded.nodup, hhanded.unsent, hhanded.sent, hhanded.accounted⟩
      exact hsame.of_quiet hqueued (Set.notMem_empty id)
    have hlisted : ∀ other ∈ t.listOfContainers, other ∈ pass.state.listOfContainers := by
      rw [hwalk.listOfContainers]
      exact fun other hother => hother
    have hsettled : Sound u [] id := by
      apply Accounted.confirmedEscapeds (hstart.ne_zero hid) (hlisted id hid) hu
      rw [append_nil]
      exact hnew.walk (hserved t ht) hpass
    have hdone : Accounted u loop := by
      apply hstart.rebuild ((hwalk.mono (Set.subset_univ _)).trans hconfirms).toSteady hstart.awaiting
      intro other hother
      by_cases heq : other = id
      · rw [heq]
        exact hsettled.mono fun p hp => absurd hp not_mem_nil
      · apply Accounted.confirmedEscapeds (hstart.ne_zero hother) (hlisted other hother) hu
        have hsame := (hstart.sound other hother).of_quiet hwalk heq
        exact hsame.mono fun p hp => mem_append_right _ hp
    split
    · rename_i hfinished
      have hu' : id ∈ u.listOfContainers := by
        rw [hconfirms.listOfContainers]
        exact hlisted id hid
      apply hdone.ends hu'
      intro hstatus p hp
      exact hsettled.committed_of_empty (isContainerEmpty_confirmEscapeds hu hfinished) hstatus hp
    · exact hdone

section Loops

variable {s s' : State} {loop : Loop} {id : ContainerId} {currentTime : UInt32} {calls : List Call} {c c' : Processor}

theorem accounted_sendAt {confirmedOperations : List OperationPointer} {removeDevice : Bool}
    (h : Accounted s (.sendOperations (some id) confirmedOperations removeDevice))
    (hclean : EndsClean id currentTime ⟨s, confirmedOperations⟩)
    (hserved : ManagerServed id currentTime ⟨s, confirmedOperations⟩)
    (hstep : sendAt s id confirmedOperations removeDevice currentTime = some c') : Accounted c'.state c'.loop := by
  rw [sendAt] at hstep
  split at hstep
  · rename_i hid
    obtain ⟨pass, hpass, rfl⟩ := map_eq_some_iff.mp hstep
    have hwalked := h.walk hid hserved hpass
    have hmine := h.sound_at hid
    have hquiet : Quiet {id} s pass.state := quiet_walk hpass
    split
    · rename_i hempty
      apply hwalked.ends
      · rw [hquiet.listOfContainers]
        exact hid
      · exact fun hstatus => committed_of_walk hmine hclean hpass hempty hstatus
    · exact hwalked
  · cases hstep

theorem accounted_cleanAt {timeoutValue : UInt16} {devicesToBeRemoved : List Address32} (h : Accounted s loop)
    (hloop : loop.awaiting = []) (hstep : cleanAt s id currentTime timeoutValue devicesToBeRemoved = some c') :
    Accounted c'.state c'.loop := by
  rw [cleanAt] at hstep
  split at hstep
  · rename_i hid
    have hmine : Sound s [] id := by
      apply (h.sound id hid).mono
      intro p hp
      rw [← hloop]
      exact Accounted.awaiting_of_awaited hp
    split at hstep
    · rename_i hempty
      cases hstep
      apply Accounted.of_awaiting_nil _ hloop rfl
      exact h.ends hid fun hstatus p => hmine.committed_of_empty hempty hstatus
    · split at hstep
      · obtain ⟨t, ht, rfl⟩ := map_eq_some_iff.mp hstep
        apply Accounted.of_awaiting_nil _ hloop rfl
        apply h.endsAfter hid (quiet_setAsFail ht)
        rw [containers_setAsFail ht]
        intro hstatus
        cases hstatus
      · cases hstep
        exact h.of_awaiting_nil hloop rfl
  · cases hstep

theorem accounted_deleteAt {address : Address32} {isBackbone : Bool} (h : Accounted s loop)
    (hstep : deleteAt s id address isBackbone loop calls = some c') : Accounted c'.state c'.loop := by
  rw [deleteAt] at hstep
  split at hstep
  · rename_i hid
    obtain ⟨t, ht, hrest⟩ := bind_eq_some_iff.mp hstep
    split at hrest
    · obtain ⟨u, hu, rfl⟩ := map_eq_some_iff.mp hrest
      have hcleaned := h.cleanAll hid ht hu
      have hcontainer := containers_setAsFail hu
      obtain ⟨hsteady, -, -⟩ := removeAllSentOperations_facts ht
      have hquiet := quiet_setAsFail hu
      split
      · apply hcleaned.ends
        · rw [hquiet.listOfContainers, hsteady.listOfContainers]
          exact hid
        · rw [hcontainer]
          intro hstatus
          cases hstatus
      · exact hcleaned
    · rename_i hclean
      cases hrest
      rw [eq_of_removeAllSentOperations ht (Bool.not_eq_true _ ▸ hclean)]
      exact h
  · cases hstep

theorem accounted_proceedLoop (h : Accounted c.state c.loop) (hclean : CleanLoop c.state currentTime c.loop)
    (hstep : c.proceedLoop currentTime = some c') : Accounted c'.state c'.loop := by
  rw [proceedLoop] at hstep
  split at hstep
  · cases hstep
  · rename_i id confirmedOperations removeDevice hloop
    rw [hloop] at h hclean
    exact accounted_sendAt h hclean.1 hclean.2 hstep
  · rename_i confirmedOperations removeDevice hloop
    rw [hloop] at h
    obtain ⟨t, ht, rfl⟩ := map_eq_some_iff.mp hstep
    exact h.endOfLoop ht
  · rename_i it now timeoutValue devicesToBeRemoved id hloop
    rw [hloop] at h
    obtain ⟨result, hresult, rfl⟩ := map_eq_some_iff.mp hstep
    exact (h.of_quiet (silent_giveUps hresult).quiet).of_awaiting_nil rfl rfl
  · rename_i id now timeoutValue devicesToBeRemoved hloop
    rw [hloop] at h
    exact accounted_cleanAt h rfl hstep
  · rename_i now timeoutValue devicesToBeRemoved hloop
    rw [hloop] at h
    cases hstep
    exact h.of_awaiting_nil rfl rfl

theorem sound_answered {p : OperationPointer} {awaited : List OperationPointer} (h : Sound s awaited id)
    (hsettled : p ∈ s.committed ∨ (s.containers id).rspStatus = .fail) :
    Sound (s.updateContainer id fun container =>
      { container with sentOperations := container.sentOperations.filter fun other => other ≠ p }) awaited id := by
  refine ⟨?_, ?_, ?_, ?_⟩ <;> rw [containers_updateContainer_self]
  · exact h.nodup
  · exact h.unsent
  · exact fun q hq => h.sent q (mem_filter.mp hq).1
  · intro hstatus q hq
    rcases h.accounted hstatus q hq with hdone | hunsent | hsent | hawaits
    · exact .inl hdone
    · exact .inr (.inl hunsent)
    · by_cases heq : q = p
      · rcases hsettled with hcommitted | hfail
        · exact .inl (heq ▸ hcommitted)
        · change (s.containers id).rspStatus = .success at hstatus
          rw [hfail] at hstatus
          cases hstatus
      · exact .inr (.inr (.inl (mem_filter.mpr ⟨hsent, by simpa using heq⟩)))
    · exact .inr (.inr (.inr hawaits))

theorem accounted_confirm {p : OperationPointer} {errorCode : OperationErrorCode} {value : Option PhyEntity}
    (h : Accounted c.state c.loop) (hloop : c.loop = .idle) (hstep : c.confirm p errorCode value = some c') :
    Accounted c'.state c'.loop := by
  obtain ⟨⟨s', outcome⟩, hresult, rfl⟩ := map_eq_some_iff.mp hstep
  generalize hanswered : c.state.answer p errorCode value = answered at hresult
  have hquiet : Quiet ∅ c.state answered := hanswered ▸ quiet_updateOperation (fun _ => rfl) fun _ => rfl
  have hidle : Accounted answered c.loop := h.of_quiet hquiet
  have hconfirms := confirms_of_confirmOperation hresult
  cases hconfirms with
  | unknown hsilent _ => exact hidle.of_quiet hsilent.quiet
  | @settled s₁ _ removeDevice hs₁ hlisted hsettles =>
    have hid := hlisted.2
    have hremoved : Quiet ∅ answered s₁ := (silent_removeOperationInWaitingList hs₁).quiet
    have hboth := Accounted.confirmed (confirms_of_confirmOperation hresult) (hidle.ne_zero hid) hid
      ((hidle.sound _ hid).mono fun q hq => mem_cons_of_mem p hq)
    have hcontainer := hsettles.container
    have hdone : p ∈ s'.committed ∨ (s'.containers (answered.operations p).containerId).rspStatus = .fail := by
      rcases hcontainer with ⟨-, hcommitted⟩ | hfailed
      · exact .inl hcommitted
      · rw [hfailed]
        exact .inr rfl
    have hsteady : Quiet {(answered.operations p).containerId} answered
        (s'.updateContainer (answered.operations p).containerId fun container =>
          { container with sentOperations := container.sentOperations.filter fun other => other ≠ p }) :=
      ((hremoved.mono (Set.empty_subset _)).trans hsettles.quiet).trans (quiet_updateContainer s' _ rfl)
    rw [hloop] at hidle hboth
    have hfinal : Accounted _ Loop.idle := hidle.of_quiet_one hsteady fun _ => sound_answered hboth hdone
    exact hfinal.of_awaiting_nil rfl rfl

end Loops

variable {c c' : Processor}

theorem accounted_step {event : Event} (h : Accounted c.state c.loop) (hclean : c.Clean event)
    (hstep : c.step event = some c') : Accounted c'.state c'.loop := by
  cases event with
  | addOperationsContainer id container operations currentTime =>
    simp only [step] at hstep
    split at hstep
    · rename_i hguard
      obtain ⟨result, hresult, rfl⟩ := map_eq_some_iff.mp hstep
      exact accounted_addOperationsContainer h hguard.2 hclean hresult
    · cases hstep
  | addManagerOperation p operation =>
    simp only [step] at hstep
    split at hstep
    · rename_i hguard
      obtain ⟨t, ht, rfl⟩ := map_eq_some_iff.mp hstep
      exact (h.addOperation hguard.2.1 _).of_quiet (quiet_addManagerOperation ht)
    · cases hstep
  | deviceDeletedCallback address isBackbone =>
    simp only [step] at hstep
    split at hstep
    · cases hstep
      exact h
    · cases hstep
  | setDevice address device =>
    simp only [step] at hstep
    split at hstep
    · cases hstep
      exact h.of_quiet ⟨⟨fun _ _ => rfl, rfl, rfl, rfl, rfl, fun _ => rfl, fun _ hp => hp⟩, fun _ => rfl⟩
    · cases hstep
  | confirm p errorCode value =>
    simp only [step] at hstep
    split at hstep
    · rename_i hguard
      exact accounted_confirm h hguard.1 hstep
    · cases hstep
  | cleanEmptyContainers currentTime timeoutValue =>
    simp only [step] at hstep
    split at hstep
    · rename_i hguard
      cases hstep
      rw [hguard.1] at h
      exact h.of_awaiting_nil rfl rfl
    · cases hstep
  | handlerReturns =>
    simp only [step] at hstep
    split at hstep
    · cases hstep
      exact h
    · cases hstep
  | proceed currentTime =>
    simp only [step, proceed] at hstep
    split at hstep
    · rename_i hcalls
      exact accounted_proceedLoop h (hclean hcalls) hstep
    · cases hstep
    · exact accounted_deleteAt h hstep
    · cases hstep
      exact h

def init (devices : Address32 → Option Device) (operations : OperationPointer → Operation)
    (containers : ContainerId → Container) : Processor :=
  ⟨⟨devices, operations, containers, [], [], [], [], [], [], []⟩, .idle, []⟩

variable {devices : Address32 → Option Device} {operations : OperationPointer → Operation}
  {containers : ContainerId → Container}

theorem accounted_reaches (h : Machine.Reaches (init devices operations containers) step Clean c) :
    Accounted c.state c.loop := by
  refine h.invariant (P := fun c => Accounted c.state c.loop) ?_ ?_
  · refine ⟨not_mem_nil, nodup_nil, Perm.refl _, ?_, ?_, ?_⟩
    · intro p hp
      cases hp
    · intro id hid
      cases hid
    · intro e he
      cases he
  · intro c event c' hc hclean hstep
    exact accounted_step hc hclean hstep

theorem ends_of_cleanAt {s : State} {id : ContainerId} {currentTime : UInt32} {timeoutValue : UInt16}
    {devicesToBeRemoved : List Address32} (hnodup : s.listOfContainers.Nodup)
    (hdue : (s.containers id).isContainerEmpty = true ∨
      (s.containers id).isExpiredContainer currentTime timeoutValue = true)
    (hstep : cleanAt s id currentTime timeoutValue devicesToBeRemoved = some c') :
    id ∉ c'.state.listOfContainers ∧ id ∈ c'.state.ended.map Ended.containerId := by
  have herased : id ∉ s.listOfContainers.erase id := hnodup.not_mem_erase
  have hrecorded : ∀ t : State, id ∈ (t.handleEndContainer id).ended.map Ended.containerId := by
    intro t
    apply List.mem_map.mpr
    exact ⟨_, List.mem_append_right _ (List.mem_singleton_self _), rfl⟩
  rw [cleanAt] at hstep
  split at hstep
  · dsimp only at hstep
    split at hstep
    · cases hstep
      exact ⟨herased, hrecorded _⟩
    · rename_i hnonempty
      rw [if_pos (hdue.resolve_left hnonempty)] at hstep
      obtain ⟨t, ht, rfl⟩ := map_eq_some_iff.mp hstep
      refine ⟨?_, hrecorded t⟩
      change id ∉ t.listOfContainers
      rw [(quiet_setAsFail ht).listOfContainers]
      exact herased
  · cases hstep

/-- In every clean run a container handed over is listed, or its end handlers have been called once; they are told success only when all its operations are committed; and the cleaning loop ends every container that is empty or has expired when it comes to it. -/
theorem container_completion (h : Machine.Reaches (init devices operations containers) step Clean c) :
    (c.state.listOfContainers ++ c.state.ended.map Ended.containerId).Nodup ∧
      (∀ id, id ∈ c.state.handed ↔ id ∈ c.state.listOfContainers ∨ id ∈ c.state.ended.map Ended.containerId) ∧
      (∀ e ∈ c.state.ended, e.rspStatus = .success → e.uncommitted = []) ∧
      ∀ id now timeoutValue devicesToBeRemoved currentTime c', c.calls = [] →
        c.loop = .cleanEmptyContainers (some id) now timeoutValue devicesToBeRemoved none →
        ((c.state.containers id).isContainerEmpty = true ∨
          (c.state.containers id).isExpiredContainer now timeoutValue = true) →
        c.step (.proceed currentTime) = some c' →
          id ∉ c'.state.listOfContainers ∧ (c'.state.ended.map Ended.containerId).count id = 1 := by
  have haccount := accounted_reaches h
  refine ⟨haccount.perm.nodup_iff.mpr haccount.nodup, ?_, haccount.complete, ?_⟩
  · intro id
    rw [← haccount.perm.mem_iff, mem_append]
  · intro id now timeoutValue devicesToBeRemoved currentTime c' hcalls hloop hdue hstep
    simp only [step, proceed, hcalls, proceedLoop, hloop] at hstep
    obtain ⟨hgone, hended⟩ := ends_of_cleanAt haccount.listNodup hdue hstep
    rw [hloop] at haccount
    have hnext := accounted_cleanAt haccount rfl hstep
    have hnodup := (nodup_append.mp (hnext.perm.nodup_iff.mpr hnext.nodup)).2.1
    exact ⟨hgone, count_eq_one_of_mem hnodup hended⟩

def fieldDevice : Device :=
  ⟨false, true, fun _ => ⟨none, none, false, []⟩, fun _ => none⟩

def pingWrite (id : ContainerId) (opID : OperationID) (address : Address32) (dependencies : List OperationPointer) :
    Operation :=
  ⟨opID, .writeAttribute, ⟨address, .pingInterval, 0⟩, id, dependencies, [], .success, some (.other 60), [], 0⟩

def containerOf (operations : List OperationPointer) : Container := ⟨1, 100, .success, operations, [], operations⟩

def initial : Processor :=
  init (fun address => if address = 5 ∨ address = 6 then some fieldDevice else none)
    (fun _ => pingWrite 0 0 0 []) (fun _ => containerOf [])

/-- The end handler of the container that the removal of device 6 fails hands over another one for it. -/
def handlerAddsContainer : List Event :=
  [.addOperationsContainer 1 (containerOf [20]) [(20, pingWrite 1 1 6 [])] 100,
    .deviceDeletedCallback 6 false, .proceed 101,
    .addOperationsContainer 2 (containerOf [10, 11]) [(10, pingWrite 2 2 5 []), (11, pingWrite 2 3 6 [10])] 101,
    .handlerReturns, .proceed 101, .setDevice 6 none]

def dropsOperation : List Event :=
  handlerAddsContainer ++ [.confirm 10 .success none, .proceed 102]

theorem container_completion_sample : (∀ c ∈ Machine.runs step initial handlerAddsContainer,
      (c.state.listOfContainers ++ c.state.ended.map Ended.containerId).Nodup) ∧
      (Machine.runs step initial handlerAddsContainer).isSome = true := by
  have hsome : (Machine.runs step initial handlerAddsContainer).isSome = true := by decide +kernel
  refine ⟨?_, hsome⟩
  intro c hc
  have hclean : Machine.AllAlong Clean step initial handlerAddsContainer := by decide +kernel
  exact (container_completion (Machine.reaches_runs hclean hc)).1

/-- The container ends with success although its only operation was dropped unsent. -/
theorem dropped_operation_succeeds :
    ∃ c, Machine.runs step initial dropsOperation = some c ∧ ⟨2, .success, [11]⟩ ∈ c.state.ended := by
  have hended : (Machine.runs step initial dropsOperation).map (fun c => c.state.ended) =
      some [⟨1, .fail, [20]⟩, ⟨2, .success, [11]⟩] := by decide +kernel
  obtain ⟨c, hc, hended⟩ := map_eq_some_iff.mp hended
  refine ⟨c, hc, ?_⟩
  rw [hended]
  exact mem_cons_of_mem _ mem_cons_self

end Processor

end Isa100Gateway.Operations
