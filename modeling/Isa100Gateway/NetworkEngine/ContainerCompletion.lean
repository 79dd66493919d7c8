import Mathlib.Data.List.Perm.Basic
import Isa100Gateway.NetworkEngine.ContainerFacts

/-!
# When a container ends

An operation handed over with a container is committed, still in one of the lists of the container, or has left them unsent and will fail the container with its confirm. The last kind is what the end of a container must not meet: the sending loop calls the end handlers of a container it has emptied before it gets to these confirms. Handing over a container does it the other way round.
-/

namespace Isa100Gateway.Operations

open List SendPass

/-- Every operation of a container that has not failed is committed, in a list, or awaits its confirm as one of `awaited`. -/
structure Sound (s : State) (awaited : List OperationPointer) (id : ContainerId) : Prop where
  nodup : (s.containers id).unsentOperations.Nodup
  unsent : ∀ p ∈ (s.containers id).unsentOperations, (s.operations p).containerId = id ∧ p ∈ s.added
  sent : ∀ p ∈ (s.containers id).sentOperations, (s.operations p).containerId = id ∧ p ∈ s.added
  accounted : (s.containers id).rspStatus = .success → ∀ p ∈ (s.containers id).operations,
    p ∈ s.committed ∨ p ∈ (s.containers id).unsentOperations ∨ p ∈ (s.containers id).sentOperations ∨
      p ∈ awaited ∧ (s.operations p).owner ≠ addressManager ∧ (s.operations p).containerId = id

namespace Sound

variable {s s' : State} {awaited awaited' : List OperationPointer} {id : ContainerId}

theorem mono (h : Sound s awaited id) (hawaited : ∀ p ∈ awaited, p ∈ awaited') : Sound s awaited' id := by
  refine ⟨h.nodup, h.unsent, h.sent, ?_⟩
  intro hstatus p hp
  rcases h.accounted hstatus p hp with hcommitted | hunsent | hsent | ⟨hmem, hrest⟩
  · exact .inl hcommitted
  · exact .inr (.inl hunsent)
  · exact .inr (.inr (.inl hsent))
  · exact .inr (.inr (.inr ⟨hawaited p hmem, hrest⟩))

theorem transfer (h : Sound s awaited id) (hcontainer : s'.containers id = s.containers id)
    (hadded : ∀ p ∈ s.added, p ∈ s'.added) (hcommitted : ∀ p ∈ s.committed, p ∈ s'.committed)
    (hcore : ∀ p ∈ s.added, (s'.operations p).core = (s.operations p).core)
    (hid : ∀ p ∈ s.added, (s.operations p).containerId = id → (s'.operations p).containerId = id)
    (hawaited : ∀ p ∈ awaited, p ∈ s.added ∧ p ∈ awaited') : Sound s' awaited' id := by
  refine ⟨?_, ?_, ?_, ?_⟩ <;> rw [hcontainer]
  · exact h.nodup
  · intro p hp
    obtain ⟨hmine, hp⟩ := h.unsent p hp
    exact ⟨hid p hp hmine, hadded p hp⟩
  · intro p hp
    obtain ⟨hmine, hp⟩ := h.sent p hp
    exact ⟨hid p hp hmine, hadded p hp⟩
  · intro hstatus p hp
    rcases h.accounted hstatus p hp with hdone | hunsent | hsent | ⟨hmem, howner, hmine⟩
    · exact .inl (hcommitted p hdone)
    · exact .inr (.inl hunsent)
    · exact .inr (.inr (.inl hsent))
    · obtain ⟨hp, hmem⟩ := hawaited p hmem
      refine .inr (.inr (.inr ⟨hmem, ?_, hid p hp hmine⟩))
      rw [Operation.owner_of_core (hcore p hp)]
      exact howner

theorem of_quiet {touched : Set ContainerId} (h : Sound s awaited id) (hquiet : Quiet touched s s')
    (hid : id ∉ touched) :
    Sound s' awaited id := by
  have hcontainer := hquiet.containers id hid
  refine ⟨?_, ?_, ?_, ?_⟩ <;> rw [hcontainer]
  · exact h.nodup
  · intro p hp
    rw [hquiet.containerId, hquiet.added]
    exact h.unsent p hp
  · intro p hp
    rw [hquiet.containerId, hquiet.added]
    exact h.sent p hp
  · intro hstatus p hp
    rw [Operation.owner_of_core (hquiet.core p), hquiet.containerId]
    rcases h.accounted hstatus p hp with hdone | hrest
    · exact .inl (hquiet.committed p hdone)
    · exact .inr hrest

theorem of_failed (hsent : ∀ p ∈ (s.containers id).sentOperations, (s.operations p).containerId = id ∧ p ∈ s.added)
    (hunsent : (s.containers id).unsentOperations = []) (hstatus : (s.containers id).rspStatus = .fail) :
    Sound s awaited id := by
  refine ⟨?_, ?_, hsent, ?_⟩
  · rw [hunsent]
    exact nodup_nil
  · rw [hunsent]
    intro p hp
    cases hp
  · rw [hstatus]
    intro hsuccess
    cases hsuccess

theorem committed_of_empty (h : Sound s [] id) (hempty : (s.containers id).isContainerEmpty = true)
    (hstatus : (s.containers id).rspStatus = .success) {p : OperationPointer} (hp : p ∈ (s.containers id).operations) :
    p ∈ s.committed := by
  obtain ⟨hsent, hunsent⟩ := Bool.and_eq_true_iff.mp hempty
  rw [List.isEmpty_iff] at hsent hunsent
  rcases h.accounted hstatus p hp with hdone | hmem | hmem | ⟨hmem, -⟩
  · exact hdone
  · rw [hunsent] at hmem
    cases hmem
  · rw [hsent] at hmem
    cases hmem
  · cases hmem

end Sound

/-! ## A walk -/

section Walk

variable {id : ContainerId} {currentTime : UInt32} {pass pass' : SendPass} {p : OperationPointer}
  {awaited awaited' : List OperationPointer}

theorem Sound.visit (h : Sound pass.state awaited id) (hvisits : Visits id currentTime pass p pass')
    (hp : p ∈ (pass.state.containers id).unsentOperations) (hawaited : ∀ q ∈ awaited, q ∈ awaited')
    (hlost : pass.state.Loses id p → pass'.confirmedOperations = pass.confirmedOperations ++ [p] →
      p ∈ awaited' ∧ (pass.state.operations p).owner ≠ addressManager) : Sound pass'.state awaited' id := by
  have hquiet := hvisits.quiet
  have hmine := h.unsent p hp
  have hkept : ∀ q, (pass'.state.operations q).containerId = id ∧ q ∈ pass'.state.added ↔
      (pass.state.operations q).containerId = id ∧ q ∈ pass.state.added := by
    intro q
    rw [hquiet.containerId, hquiet.added]
  cases hvisits.fate with
  | stays hcontainer _ =>
    refine ⟨?_, ?_, ?_, ?_⟩ <;> rw [hcontainer]
    · exact h.nodup
    · exact fun q hq => (hkept q).mpr (h.unsent q hq)
    · exact fun q hq => (hkept q).mpr (h.sent q hq)
    · intro hstatus q hq
      rw [Operation.owner_of_core (hquiet.core q), hquiet.containerId]
      exact ((h.mono hawaited).accounted hstatus q hq).imp (hquiet.committed q) fun hrest => hrest
  | sent hcontainer _ =>
    refine ⟨?_, ?_, ?_, ?_⟩ <;> rw [hcontainer]
    · exact h.nodup.erase p
    · exact fun q hq => (hkept q).mpr (h.unsent q (mem_of_mem_erase hq))
    · intro q hq
      rcases mem_append.mp hq with hq | hq
      · exact (hkept q).mpr (h.sent q hq)
      · obtain rfl := mem_singleton.mp hq
        exact (hkept q).mpr hmine
    · intro hstatus q hq
      rw [Operation.owner_of_core (hquiet.core q), hquiet.containerId]
      rcases (h.mono hawaited).accounted hstatus q hq with hdone | hunsent | hsent | hrest
      · exact .inl (hquiet.committed q hdone)
      · by_cases heq : q = p
        · exact .inr (.inr (.inl (mem_append_right _ (mem_singleton.mpr heq))))
        · exact .inr (.inl ((mem_erase_of_ne heq).mpr hunsent))
      · exact .inr (.inr (.inl (mem_append_left _ hsent)))
      · exact .inr (.inr (.inr hrest))
  | leaves taiCutover hcontainer hconfirmed hcommitted =>
    refine ⟨?_, ?_, ?_, ?_⟩ <;> rw [hcontainer]
    · exact h.nodup.erase p
    · exact fun q hq => (hkept q).mpr (h.unsent q (mem_of_mem_erase hq))
    · exact fun q hq => (hkept q).mpr (h.sent q hq)
    · intro hstatus q hq
      rw [Operation.owner_of_core (hquiet.core q), hquiet.containerId]
      rcases (h.mono hawaited).accounted hstatus q hq with hdone | hunsent | hsent | hrest
      · exact .inl (hquiet.committed q hdone)
      · by_cases heq : q = p
        · subst heq
          rcases hcommitted with hdone | hlosing
          · exact .inl hdone
          · obtain ⟨hmem, howner⟩ := hlost hlosing hconfirmed
            exact .inr (.inr (.inr ⟨hmem, howner, hmine.1⟩))
        · exact .inr (.inl ((mem_erase_of_ne heq).mpr hunsent))
      · exact .inr (.inr (.inl hsent))
      · exact .inr (.inr (.inr hrest))

variable {q : OperationPointer} {ps : List OperationPointer}

theorem mem_unsent_of_visits (hvisits : Visits id currentTime pass p pass') (hne : q ≠ p)
    (hq : q ∈ (pass.state.containers id).unsentOperations) : q ∈ (pass'.state.containers id).unsentOperations := by
  cases hvisits.fate with
  | stays hcontainer _ =>
    rw [hcontainer]
    exact hq
  | sent hcontainer _ =>
    rw [hcontainer]
    exact (mem_erase_of_ne hne).mpr hq
  | leaves _ hcontainer _ _ =>
    rw [hcontainer]
    exact (mem_erase_of_ne hne).mpr hq

theorem mem_sent_of_visits (hvisits : Visits id currentTime pass p pass')
    (hq : q ∈ (pass.state.containers id).sentOperations) : q ∈ (pass'.state.containers id).sentOperations := by
  cases hvisits.fate with
  | stays hcontainer _ =>
    rw [hcontainer]
    exact hq
  | sent hcontainer _ =>
    rw [hcontainer]
    exact mem_append_left [p] hq
  | leaves _ hcontainer _ _ =>
    rw [hcontainer]
    exact hq

theorem mem_confirmed_of_visits (hvisits : Visits id currentTime pass p pass')
    (hq : q ∈ pass.confirmedOperations) : q ∈ pass'.confirmedOperations := by
  cases hvisits.fate with
  | stays _ hconfirmed =>
    rw [hconfirmed]
    exact hq
  | sent _ hconfirmed =>
    rw [hconfirmed]
    exact hq
  | leaves _ _ hconfirmed _ =>
    rw [hconfirmed]
    exact mem_append_left [p] hq

section

variable (h : Machine.runs (visit id currentTime) pass ps = some pass')
include h

theorem quiet_walk : Quiet {id} pass.state pass'.state := by
  refine Machine.runs_invariant (P := fun t => Quiet {id} pass.state t.state) (Quiet.refl _) ?_ h
  intro t q t' _ ht hvisit
  exact ht.trans (visits_of_visit hvisit).quiet

theorem mem_confirmed_of_walk : ∀ q ∈ pass.confirmedOperations, q ∈ pass'.confirmedOperations := by
  intro q hq
  refine Machine.runs_invariant (P := fun t => q ∈ t.confirmedOperations) hq ?_ h
  intro t p t' _ ht hvisit
  exact mem_confirmed_of_visits (visits_of_visit hvisit) ht

theorem confirmed_of_walk : ∀ q ∈ pass'.confirmedOperations, q ∈ pass.confirmedOperations ∨ q ∈ ps := by
  refine Machine.runs_invariant (P := fun t => ∀ q ∈ t.confirmedOperations, q ∈ pass.confirmedOperations ∨ q ∈ ps)
    (fun q hq => .inl hq) ?_ h
  intro t p t' hp ht hvisit q hq
  cases (visits_of_visit hvisit).fate with
  | stays _ hconfirmed => exact ht q (hconfirmed ▸ hq)
  | sent _ hconfirmed => exact ht q (hconfirmed ▸ hq)
  | leaves _ _ hconfirmed _ =>
    rw [hconfirmed] at hq
    rcases mem_append.mp hq with hq | hq
    · exact ht q hq
    · obtain rfl := mem_singleton.mp hq
      exact .inr hp

end

theorem walk_induction {P : SendPass → Prop} {ok : SendPass → OperationPointer → Prop}
    (hstep : ∀ pass p pass', p ∈ (pass.state.containers id).unsentOperations → ok pass p → P pass →
      Visits id currentTime pass p pass' → P pass') (hnodup : ps.Nodup)
    (hunsent : ∀ p ∈ ps, p ∈ (pass.state.containers id).unsentOperations) (hP : P pass)
    (hok : Machine.AllAlong ok (visit id currentTime) pass ps)
    (h : Machine.runs (visit id currentTime) pass ps = some pass') : P pass' := by
  induction ps generalizing pass with
  | nil =>
    cases h
    exact hP
  | cons p ps ih =>
    obtain ⟨pass₁, hvisit, hrest⟩ := Option.bind_eq_some_iff.mp h
    have hvisits := visits_of_visit hvisit
    have hnext := hstep pass p pass₁ (hunsent p mem_cons_self) hok.1 hP hvisits
    refine ih hnodup.of_cons ?_ hnext (hok.2 pass₁ hvisit) hrest
    intro q hq
    have hne : q ≠ p := fun heq => (nodup_cons.mp hnodup).1 (heq ▸ hq)
    exact mem_unsent_of_visits hvisits hne (hunsent q (mem_cons_of_mem p hq))

def NothingLost (id : ContainerId) (currentTime : UInt32) (pass : SendPass) : Prop :=
  Machine.AllAlong (fun pass p => ¬pass.state.Loses id p) (visit id currentTime) pass
    (pass.state.containers id).unsentOperations

def ManagerServed (id : ContainerId) (currentTime : UInt32) (pass : SendPass) : Prop :=
  Machine.AllAlong (fun pass p => (pass.state.operations p).owner = addressManager → ¬pass.state.Loses id p)
    (visit id currentTime) pass (pass.state.containers id).unsentOperations

def State.Keeps (s : State) (id : ContainerId) (p : OperationPointer) : Prop :=
  ∃ result ∈ s.canSendOperation id p, result.2 = .existsDependencies ∨ result.2 = .canBeSent ∧
    (∃ t ∈ result.1.updatePhyEntity p, t.2 = true) ∧
      ∃ device ∈ s.devices (s.operations p).owner, sendEnded device (s.operations p) = false

instance (s : State) (id : ContainerId) (p : OperationPointer) : Decidable (s.Keeps id p) :=
  inferInstanceAs (Decidable (∃ _ ∈ _, _))

def SomethingKept (id : ContainerId) (currentTime : UInt32) (pass : SendPass) : Prop :=
  ¬Machine.AllAlong (fun pass p => ¬pass.state.Keeps id p) (visit id currentTime) pass
    (pass.state.containers id).unsentOperations

def State.Holds (s : State) (id : ContainerId) (p : OperationPointer) : Prop :=
  p ∈ (s.containers id).unsentOperations ∨ p ∈ (s.containers id).sentOperations

theorem holds_of_keeps (hvisits : Visits id currentTime pass p pass') (hkeeps : pass.state.Keeps id p)
    (hp : p ∈ (pass.state.containers id).unsentOperations) : pass'.state.Holds id p := by
  obtain ⟨⟨t, status⟩, ht, hkeeps⟩ := hkeeps
  cases hvisits with
  | waits hcan =>
    have hquiet : Quiet ∅ pass.state _ := State.quiet_canSendOperation hcan
    refine .inl ?_
    rw [congrFun hquiet.containers_eq id]
    exact hp
  | dropped hcan =>
    have hsame := Option.some.inj (ht.symm.trans hcan)
    rcases hkeeps with hstatus | ⟨hstatus, -⟩ <;> rw [hsame] at hstatus <;> cases hstatus
  | @answered t' u hcan hsends =>
    cases ht.symm.trans hcan
    obtain hstatus | ⟨-, ⟨⟨v, goes⟩, hv, hgoes⟩, device, hdevice, hended⟩ := hkeeps
    · cases hstatus
    · have hquiet : Quiet ∅ pass.state t := State.quiet_canSendOperation hcan
      have hdevices := (State.devices_of_canSendOperation hcan).1
      generalize hresult : (u, SentOperationStatus.operationSentAndConfirmed) = result at hsends
      cases hsends with
      | refused hrefused =>
        have hsame := Option.some.inj (hv.symm.trans hrefused)
        rw [hsame] at hgoes
        cases hgoes
      | done _ hdevice' hended' _ =>
        rw [hdevices, Operation.owner_of_core (hquiet.core p)] at hdevice'
        cases hdevice.symm.trans hdevice'
        simp only [State.sendEnded, Operation.owner_of_core (hquiet.core p)] at hended' hended
        rw [hended] at hended'
        cases hended'
      | sent _ _ _ => cases congrArg Prod.snd hresult
  | @sent t' u hcan hsends =>
    have hquiet : Quiet ∅ pass.state u := (State.quiet_canSendOperation hcan).trans hsends.quiet
    refine .inr ?_
    rw [State.eraseUnsent, State.containers_updateContainer_self, State.addToSentOperations,
      State.containers_updateContainer_self]
    exact mem_append_right _ (mem_singleton_self p)

instance (id : ContainerId) (currentTime : UInt32) (pass : SendPass) : Decidable (NothingLost id currentTime pass) :=
  inferInstanceAs (Decidable (Machine.AllAlong _ _ _ _))

instance (id : ContainerId) (currentTime : UInt32) (pass : SendPass) : Decidable (ManagerServed id currentTime pass) :=
  inferInstanceAs (Decidable (Machine.AllAlong _ _ _ _))

instance (id : ContainerId) (currentTime : UInt32) (pass : SendPass) : Decidable (SomethingKept id currentTime pass) :=
  inferInstanceAs (Decidable ¬(Machine.AllAlong _ _ _ _))

theorem holds_of_walk (hq : q ∉ ps) (hholds : pass.state.Holds id q)
    (h : Machine.runs (visit id currentTime) pass ps = some pass') : pass'.state.Holds id q := by
  refine Machine.runs_invariant (P := fun t => t.state.Holds id q) hholds ?_ h
  intro t p t' hp ht hvisit
  have hvisits := visits_of_visit hvisit
  have hne : q ≠ p := fun heq => hq (heq ▸ hp)
  exact ht.imp (mem_unsent_of_visits hvisits hne) (mem_sent_of_visits hvisits)

theorem holds_of_keeps_along (hnodup : ps.Nodup) (hunsent : ∀ p ∈ ps, p ∈ (pass.state.containers id).unsentOperations)
    (hkept : ¬Machine.AllAlong (fun pass p => ¬pass.state.Keeps id p) (visit id currentTime) pass ps)
    (h : Machine.runs (visit id currentTime) pass ps = some pass') : ∃ q, pass'.state.Holds id q := by
  induction ps generalizing pass with
  | nil => exact absurd trivial hkept
  | cons p ps ih =>
    obtain ⟨pass₁, hvisit, hrest⟩ := Option.bind_eq_some_iff.mp h
    have hvisits := visits_of_visit hvisit
    have hp := nodup_cons.mp hnodup
    by_cases hkeeps : pass.state.Keeps id p
    · exact ⟨p, holds_of_walk hp.1 (holds_of_keeps hvisits hkeeps (hunsent p mem_cons_self)) hrest⟩
    · refine ih hp.2 ?_ ?_ hrest
      · intro q hq
        have hne : q ≠ p := fun heq => hp.1 (heq ▸ hq)
        exact mem_unsent_of_visits hvisits hne (hunsent q (mem_cons_of_mem p hq))
      · intro hall
        apply hkept
        refine ⟨hkeeps, ?_⟩
        intro pass₂ hpass₂
        cases hvisit.symm.trans hpass₂
        exact hall

theorem not_isContainerEmpty_of_holds {s : State} (h : s.Holds id q) :
    (s.containers id).isContainerEmpty = false := by
  rw [Container.isContainerEmpty, Bool.and_eq_false_iff]
  rcases h with h | h
  · exact .inr (isEmpty_eq_false_iff_exists_mem.mpr ⟨q, h⟩)
  · exact .inl (isEmpty_eq_false_iff_exists_mem.mpr ⟨q, h⟩)

/-- The branch that tells a success that is none: the walk empties the container and has lost an operation. -/
def EndsClean (id : ContainerId) (currentTime : UInt32) (pass : SendPass) : Prop :=
  NothingLost id currentTime pass ∨ (pass.state.containers id).sentOperations ≠ [] ∨ SomethingKept id currentTime pass

instance (id : ContainerId) (currentTime : UInt32) (pass : SendPass) : Decidable (EndsClean id currentTime pass) :=
  inferInstanceAs (Decidable (_ ∨ _))

theorem Sound.walk (h : Sound pass.state [] id) (hserved : ManagerServed id currentTime pass)
    (hrun : sendAllContainerOperations id currentTime pass = some pass') :
    Sound pass'.state pass'.confirmedOperations id := by
  have hstart : Sound pass.state pass.confirmedOperations id := h.mono fun p hp => absurd hp not_mem_nil
  apply walk_induction (P := fun pass => Sound pass.state pass.confirmedOperations id) _ h.nodup (fun p hp => hp) hstart
    hserved hrun
  intro pass₁ p pass₂ hp hmanager hsound hvisits
  apply hsound.visit hvisits hp fun q hq => mem_confirmed_of_visits hvisits hq
  intro hloses hconfirmed
  rw [hconfirmed]
  exact ⟨mem_append_right _ (mem_singleton_self p), fun howner => hmanager howner hloses⟩

theorem Sound.walk_of_nothingLost (h : Sound pass.state awaited id) (hlost : NothingLost id currentTime pass)
    (hrun : sendAllContainerOperations id currentTime pass = some pass') : Sound pass'.state awaited id := by
  apply walk_induction (P := fun pass => Sound pass.state awaited id) _ h.nodup (fun p hp => hp) h hlost hrun
  intro pass₁ p pass₂ hp hkeeps hsound hvisits
  exact hsound.visit hvisits hp (fun q hq => hq) fun hloses => absurd hloses hkeeps

theorem committed_of_walk (h : Sound pass.state [] id) (hclean : EndsClean id currentTime pass)
    (hrun : sendAllContainerOperations id currentTime pass = some pass')
    (hempty : (pass'.state.containers id).isContainerEmpty = true)
    (hstatus : (pass'.state.containers id).rspStatus = .success) :
    ∀ p ∈ (pass'.state.containers id).operations, p ∈ pass'.state.committed := by
  rcases hclean with hlost | hsent | hkept
  · exact fun p => (h.walk_of_nothingLost hlost hrun).committed_of_empty hempty hstatus
  · obtain ⟨q, hq⟩ := exists_mem_of_ne_nil _ hsent
    have hkept : q ∈ (pass'.state.containers id).sentOperations := by
      refine Machine.runs_invariant (P := fun t => q ∈ (t.state.containers id).sentOperations) hq ?_ hrun
      intro t p t' _ ht hvisit
      exact mem_sent_of_visits (visits_of_visit hvisit) ht
    rw [not_isContainerEmpty_of_holds (.inr hkept)] at hempty
    cases hempty
  · obtain ⟨q, hholds⟩ := holds_of_keeps_along h.nodup (fun p hp => hp) hkept hrun
    rw [not_isContainerEmpty_of_holds hholds] at hempty
    cases hempty

end Walk

end Isa100Gateway.Operations
