import Isa100Gateway.NetworkEngine.GraphMarks
import Isa100Gateway.NetworkEngine.ParentTree

/-!
# Graphs, graph tables and marks stay in step

A graph table is compared without its order, so that a device whose two exits change places keeps the old order; and only configured devices have new exits marked. All else comes out in step after the operations are confirmed.
-/

namespace Isa100Gateway.NetworkEngine

open DoubleExitDestinations GraphOperation List Option OrderedMap

namespace GraphState

def listed (exits : List Address16) : Option (List Address16) := if exits = [] then none else some exits

def entry (t : GraphState) (a : Address16) : Option (List Address16) := (t.graphsTable a).find t.graphId

/-- The graph tables of configured devices and the marks on edges agree with the theoretical graph. -/
structure Agrees (s : Subnet) (t : GraphState) : Prop where
  tables : ∀ a, s.isJoinedAndConfigured a = true → t.entry a = listed (exitsOf t.graphEdges a)
  marks : ∀ a x, a ≠ 0 → x ≠ 0 → s.subnetEdges a x = true → (t.graphId ∈ t.edgeGraphs a x ↔ x ∈ exitsOf t.graphEdges a)

def apply (_ : Option (List Address16)) : GraphOperation → Option (List Address16)
  | .write _ neighbors => some neighbors
  | .delete _ => none

theorem commitChanges_foldl (operations : List GraphOperation) (a : Address16) : ∀ t : GraphState,
    let t' := operations.foldl commitChanges t
    t'.graphId = t.graphId ∧ t'.graphEdges = t.graphEdges ∧ t'.edgeGraphs = t.edgeGraphs ∧
      t'.entry a = (operations.filter (owner · = a)).foldl apply (t.entry a) := by
  induction operations with
  | nil => exact fun t => ⟨rfl, rfl, rfl, rfl⟩
  | cons operation operations ih =>
    intro t
    obtain ⟨hid, hedges, hmarks, hentry⟩ := ih (t.commitChanges operation)
    refine ⟨hid, hedges, hmarks, ?_⟩
    rw [foldl_cons, hentry]
    by_cases howner : operation.owner = a
    · rw [filter_cons_of_pos (p := fun o : GraphOperation => decide (o.owner = a)) (decide_eq_true howner), foldl_cons]
      refine congrArg (fun e => foldl apply e _) ?_
      unfold entry commitChanges
      dsimp only
      rw [if_pos howner.symm]
      cases operation with
      | write owner neighbors => rw [find_set, if_pos rfl, apply]
      | delete owner => rw [find_erase, if_pos rfl, apply]
    · rw [filter_cons_of_neg (p := fun o : GraphOperation => decide (o.owner = a)) (by simpa using howner)]
      refine congrArg (fun e => foldl apply e _) ?_
      unfold entry commitChanges
      dsimp only
      rw [if_neg fun h => howner h.symm]

end GraphState

open GraphState

namespace Subnet

variable {s : Subnet} {t : GraphState} {a : Address16}

variable {d : DoubleExitDestinations}

theorem owner_createGraphOperation : ∀ operation ∈ s.createGraphOperation t a d, operation.owner = a := by
  unfold createGraphOperation
  split_ifs <;> simp [owner]

theorem foldl_createGraphOperation (ha : s.isJoinedAndConfigured a = true) :
    (s.createGraphOperation t a d).foldl apply (t.entry a) = if d.prefered ≠ 0 then some d.neighbors else none := by
  unfold createGraphOperation
  by_cases hp : d.prefered ≠ 0
  · rw [if_pos ⟨hp, ha⟩, if_pos hp]
    rfl
  · rw [if_neg fun h => hp h.1, if_neg hp]
    by_cases hentry : (t.entry a).isSome
    · rw [if_pos ⟨ha, hentry⟩]
      rfl
    · rw [if_neg fun h => hentry h.2]
      exact not_isSome_iff_eq_none.mp hentry

def evaluated (s : Subnet) (t : GraphState) (usedEdges : DoubleExitEdges) (isInbound : Bool) : GraphState :=
  (s.evaluateGraph t usedEdges isInbound).1.foldl commitChanges (s.evaluateGraph t usedEdges isInbound).2

theorem filter_physicalModelUpdate {changedEdges notUsedEdges : DoubleExitEdges} {isInbound : Bool} :
    (s.physicalModelUpdate t changedEdges notUsedEdges isInbound).1.filter (owner · = a) =
      (changedEdges.find a).elim [] (s.createGraphOperation t a) ++
      (notUsedEdges.find a).elim [] fun _ =>
        if (changedEdges.find a).isSome then [] else
          s.createGraphOperation t a ((t.graphEdges.find a).getD ⟨0, 0⟩) := by
  have hchanged := filter_flatMap (m := changedEdges) owner (s.createGraphOperation t)
    (fun k v => owner_createGraphOperation) a
  have hnotUsed := filter_flatMap (m := notUsedEdges) owner
    (fun k _ => if (changedEdges.find k).isSome then [] else
      s.createGraphOperation t k ((t.graphEdges.find k).getD ⟨0, 0⟩))
    (fun k v operation hmem => by
      split_ifs at hmem
      · cases hmem
      · exact owner_createGraphOperation operation hmem) a
  calc (s.physicalModelUpdate t changedEdges notUsedEdges isInbound).1.filter (owner · = a)
    _ = (changedEdges.entries.flatMap fun e => s.createGraphOperation t e.1 e.2).filter (owner · = a) ++
        (notUsedEdges.entries.flatMap fun e => if (changedEdges.find e.1).isSome then []
          else s.createGraphOperation t e.1 ((t.graphEdges.find e.1).getD ⟨0, 0⟩)).filter (owner · = a) :=
      filter_append ..
    _ = _ := by rw [hchanged, hnotUsed]

variable {usedEdges : DoubleExitEdges} {isInbound : Bool}

theorem find_detectChangedEdges : (s.detectChangedEdges t usedEdges).find a =
    (usedEdges.find a).bind fun d => if s.isJoinedAndConfigured a ∧
      nodeHasChangedDestinations t a d then some d else none :=
  find_filterMap

theorem mem_exitsOf_detectChangedEdges {a x : Address16} : x ∈ exitsOf (s.detectChangedEdges t usedEdges) a ↔
    x ∈ exitsOf usedEdges a ∧ s.isJoinedAndConfigured a = true ∧
      ∀ d, usedEdges.find a = some d → nodeHasChangedDestinations t a d = true := by
  unfold exitsOf
  rw [find_detectChangedEdges]
  rcases usedEdges.find a with _ | d
  · exact Iff.intro (fun h => nomatch h) fun h => nomatch h.1
  rw [bind_some]
  by_cases hchanged : s.isJoinedAndConfigured a = true ∧ nodeHasChangedDestinations t a d = true
  · rw [if_pos hchanged]
    refine Iff.intro (fun h => ⟨h, hchanged.1, fun d' hd' => ?_⟩) And.left
    cases hd'
    exact hchanged.2
  · rw [if_neg hchanged]
    exact Iff.intro (fun h => nomatch h) fun h => absurd ⟨h.2.1, h.2.2 d rfl⟩ hchanged

theorem evaluated_fields (hbackbone : (s.backbone.bind s.getDevice).isSome) (hused : usedEdges.entries ≠ []) :
    (s.evaluated t usedEdges isInbound).graphId = t.graphId ∧ (s.evaluated t usedEdges isInbound).graphEdges =
      usedEdges ∧
    (∀ b y, b ≠ 0 → y ≠ 0 → s.subnetEdges b y = true → (t.graphId ∈ t.edgeGraphs b y ↔ y ∈ exitsOf t.graphEdges b) →
      (t.graphId ∈ (s.evaluated t usedEdges isInbound).edgeGraphs b y ↔
        y ∈ exitsOf t.graphEdges b ∧ y ∈ exitsOf usedEdges b ∨ y ∈ exitsOf (s.detectChangedEdges t usedEdges) b)) ∧
    ∀ a, s.isJoinedAndConfigured a = true → (s.evaluated t usedEdges isInbound).entry a =
      match (s.detectChangedEdges t usedEdges).find a with
      | some d => if d.prefered ≠ 0 then some d.neighbors else none
      | none =>
        if ((detectNotUsedEdges t.graphEdges usedEdges).find a).isSome then
          if ((usedEdges.find a).getD ⟨0, 0⟩).prefered ≠ 0 then some
            ((usedEdges.find a).getD ⟨0, 0⟩).neighbors else none
        else t.entry a := by
  generalize hchanged : s.detectChangedEdges t usedEdges = changedEdges
  generalize hnotUsed : detectNotUsedEdges t.graphEdges usedEdges = notUsedEdges
  generalize htheoretic : s.theoreticModelUpdate { t with graphEdges := usedEdges } changedEdges notUsedEdges = t'
  obtain ⟨marks, hmarks⟩ := s.marksOnly_theoreticModelUpdate { t with graphEdges :=
    usedEdges } changedEdges notUsedEdges
  rw [htheoretic] at hmarks
  obtain ⟨marks', hmarks'⟩ := s.marksOnly_physicalModelUpdate t' changedEdges notUsedEdges isInbound
  have heval : s.evaluateGraph t usedEdges isInbound =
    s.physicalModelUpdate t' changedEdges notUsedEdges isInbound := by
    unfold evaluateGraph
    rw [if_neg, if_neg]
    · dsimp only
      rw [hchanged, hnotUsed, htheoretic]
    · simpa using hused
    · rw [← not_isSome, hbackbone]
      decide
  have hid : t'.graphId = t.graphId := by rw [hmarks]
  have hedges : t'.graphEdges = usedEdges := by rw [hmarks]
  have hentry : ∀ a, t'.entry a = t.entry a := by
    intro a
    rw [hmarks]
    rfl
  have hcommit := fun a => commitChanges_foldl (s.physicalModelUpdate t' changedEdges notUsedEdges isInbound).1 a
    (s.physicalModelUpdate t' changedEdges notUsedEdges isInbound).2
  unfold evaluated
  rw [heval]
  refine ⟨?_, ?_, ?_, ?_⟩
  · rw [(hcommit 0).1, hmarks', hid]
  · rw [(hcommit 0).2.1, hmarks', hedges]
  · intro b y hb hy hedge hagrees
    have hmarked : t.graphId ∈ t'.edgeGraphs b y ↔
        y ∈ exitsOf t.graphEdges b ∧ y ∈ exitsOf usedEdges b ∨ y ∈ exitsOf changedEdges b := by
      rw [← htheoretic]
      refine (mem_edgeGraphs_theoreticModelUpdate (t := { t with graphEdges := usedEdges }) hb hy hedge).trans
        (or_congr_left ?_)
      rw [hagrees, ← hnotUsed, exitsOf_detectNotUsedEdges, and_congr_right_iff]
      intro hold
      rw [not_and, not_not]
      exact ⟨fun h => h hold, fun h _ => h⟩
    rw [(hcommit 0).2.2.1, ← hmarked, ← hid]
    refine mem_edgeGraphs_physicalModelUpdate hb hy hedge fun hdropped => ?_
    rw [hid, hmarked]
    rw [← hnotUsed, exitsOf_detectNotUsedEdges] at hdropped
    rintro (hkept | hnew)
    · exact hdropped.2 hkept.2
    · rw [← hchanged] at hnew
      exact hdropped.2 (mem_exitsOf_detectChangedEdges.mp hnew).1
  · intro a ha
    have hcreate : ∀ d, (s.createGraphOperation t' a d).foldl apply (t.entry a) =
        if d.prefered ≠ 0 then some d.neighbors else none := by
      intro d
      rw [← hentry]
      exact foldl_createGraphOperation ha
    have hphysical : (s.physicalModelUpdate t' changedEdges notUsedEdges isInbound).2.entry a = t.entry a := by
      rw [hmarks', ← hentry a]
      rfl
    rw [(hcommit a).2.2.2, filter_physicalModelUpdate, hphysical, hedges]
    rcases changedEdges.find a with _ | d
    · rcases notUsedEdges.find a with _ | d'
      · rfl
      · exact hcreate _
    · refine Eq.trans ?_ (hcreate d)
      refine congrArg (fun operations => foldl apply (t.entry a) operations) ?_
      rcases notUsedEdges.find a with _ | d'
      · exact append_nil _
      · exact append_nil _

/-! ## When a new graph comes out in step -/

/-- Configured devices have a preferred exit if they have a backup and do not change their exits over, and the others have no new exits. -/
def Applies (s : Subnet) (t : GraphState) (usedEdges : DoubleExitEdges) : Prop :=
  ∀ a d, usedEdges.find a = some d → (s.isJoinedAndConfigured a = true → (d.prefered = 0 → d.backup = 0) ∧
      ∀ old, t.graphEdges.find a = some old → ¬Swaps old d) ∧
    (s.isJoinedAndConfigured a = false → ∀ x ∈ d.neighbors, a ≠ 0 → s.subnetEdges a x = true →
      x ∈ exitsOf t.graphEdges a)

theorem unchanged_of_swaps {old d : DoubleExitDestinations} (hentry : t.entry a = some old.neighbors)
    (h : Swaps old d) : nodeHasChangedDestinations t a d = false ∧ (droppedExits old d).prefered = 0 ∧
      old.neighbors ≠ d.neighbors := by
  obtain ⟨hp, hb, hne, hprefered, hbackup⟩ := h
  have hp' : d.prefered ≠ 0 := hprefered ▸ hb
  have hb' : d.backup ≠ 0 := hbackup ▸ hp
  refine ⟨nodeHasChangedDestinations_eq_false.mpr ⟨hp', old.neighbors, hentry, ?_, fun x hx => ?_⟩, ?_, ?_⟩
  · rw [neighbors_of_double hp hb, neighbors_of_double hp' hb']
    rfl
  · rw [mem_neighbors, hprefered, hbackup] at hx
    exact mem_neighbors.mpr ⟨hx.1, hx.2.symm⟩
  · unfold droppedExits
    rw [hprefered, hbackup, if_neg fun h => h.1 rfl]
    exact if_neg fun h => h.2 rfl
  · rw [neighbors_of_double hp hb, neighbors_of_double hp' hb', hprefered]
    exact fun heq => hne (cons.inj heq).1

theorem listed_evaluated (hbackbone : (s.backbone.bind s.getDevice).isSome) (hused : usedEdges.entries ≠ [])
    (ha : s.isJoinedAndConfigured a = true) (hagrees : t.entry a = listed (exitsOf t.graphEdges a)) :
    (s.evaluated t usedEdges isInbound).entry a = listed (exitsOf usedEdges a) ↔
      ∀ d, usedEdges.find a = some d → (d.prefered = 0 → d.backup = 0) ∧
        ∀ old, t.graphEdges.find a = some old → ¬Swaps old d := by
  rw [(evaluated_fields hbackbone hused).2.2.2 a ha, find_detectChangedEdges]
  unfold exitsOf detectNotUsedEdges at *
  rw [OrderedMap.find_filterMap]
  rcases hfind : usedEdges.find a with _ | d
  · -- the device has dropped out of the graph
    refine Iff.intro (fun _ d hd => nomatch hd) fun _ => ?_
    rcases hold : t.graphEdges.find a with _ | old
    · rw [hagrees, hold]
      rfl
    · rfl
  rw [Option.bind_some]
  dsimp only [Option.elim]
  have hforall : (∀ d', some d = some d' → (d'.prefered = 0 → d'.backup = 0) ∧
      ∀ old, t.graphEdges.find a = some old → ¬Swaps old d') ↔
      (d.prefered = 0 → d.backup = 0) ∧ ∀ old, t.graphEdges.find a = some old → ¬Swaps old d := by
    refine Iff.intro (fun h => h d rfl) fun h d' hd' => ?_
    cases hd'
    exact h
  rw [hforall]
  have hentry : ∀ old, t.graphEdges.find a = some old → old.neighbors ≠ [] → t.entry a = some old.neighbors := by
    intro old hold hne
    rw [hagrees, hold]
    exact if_neg hne
  have hnonempty : ∀ old, Swaps old d → old.neighbors ≠ [] := by
    intro old hswaps
    rw [neighbors_of_double hswaps.1 hswaps.2.1]
    exact List.cons_ne_nil _ _
  by_cases hchanged : nodeHasChangedDestinations t a d = true
  · rw [if_pos ⟨ha, hchanged⟩]
    dsimp only
    have hnot : ∀ old, t.graphEdges.find a = some old → ¬Swaps old d := by
      intro old hold hswaps
      have hsame := (unchanged_of_swaps (hentry old hold (hnonempty old hswaps)) hswaps).1
      rw [hchanged] at hsame
      cases hsame
    rw [and_iff_left hnot]
    by_cases hp : d.prefered = 0
    · rw [if_neg (not_not_intro hp), neighbors_of_backup hp]
      by_cases hb : d.backup = 0
      · rw [if_neg (not_not_intro hb)]
        exact Iff.intro (fun _ _ => hb) fun _ => rfl
      · rw [if_pos hb]
        exact Iff.intro (fun h => nomatch h) fun h => absurd (h hp) hb
    · rw [if_pos hp]
      refine Iff.intro (fun _ hzero => absurd hzero hp) fun _ => (if_neg fun hnil => hp ?_).symm
      have hmem : d.prefered ∈ d.neighbors := mem_neighbors.mpr ⟨hp, .inl rfl⟩
      rw [hnil] at hmem
      cases hmem
  · rw [if_neg fun h => hchanged h.2]
    obtain ⟨hp, neighbors, hneighbors, hlength, hmem⟩ :=
      nodeHasChangedDestinations_eq_false.mp (Bool.eq_false_iff.mpr hchanged)
    have hlisted : listed d.neighbors = some d.neighbors := by
      refine if_neg fun hnil => ?_
      have hmem : d.prefered ∈ d.neighbors := mem_neighbors.mpr ⟨hp, .inl rfl⟩
      rw [hnil] at hmem
      cases hmem
    rw [hlisted, and_iff_right fun hzero => absurd hzero hp]
    rcases hold : t.graphEdges.find a with _ | old
    · rw [hold] at hagrees
      rw [show t.entry a = some neighbors from hneighbors] at hagrees
      cases hagrees
    have hold' : old.neighbors = neighbors := by
      rw [hold] at hagrees
      have hsome : some neighbors = listed old.neighbors := hneighbors.symm.trans hagrees
      unfold listed at hsome
      split_ifs at hsome
      exact (Option.some.inj hsome).symm
    have hswap : (∀ old', some old = some old' → ¬Swaps old' d) ↔ ¬Swaps old d := by
      refine Iff.intro (fun h => h old rfl) fun h old' hold' => ?_
      cases hold'
      exact h
    rw [hswap, Option.bind_some]
    dsimp only [Option.getD_some]
    have hsame : t.entry a = some old.neighbors := hold' ▸ hneighbors
    by_cases hdropped : (droppedExits old d).prefered = 0
    · rw [if_neg (not_not_intro hdropped), hsame]
      rw [if_neg (by simp)]
      constructor
      · intro heq hswaps
        exact (unchanged_of_swaps hsame hswaps).2.2 (Option.some.inj heq)
      · intro hnot
        refine congrArg some ((neighbors_eq_or_swaps hp (hold' ▸ hlength) (hold' ▸ hmem) fun x hx =>
          ?_).resolve_right hnot)
        by_contra hgone
        have hin := mem_droppedExits.mpr ⟨hx, hgone⟩
        rw [droppedExits_eq_nil hdropped] at hin
        cases hin
    · rw [if_pos hdropped, if_pos Option.isSome_some, if_pos hp]
      exact Iff.intro (fun _ hswaps => hdropped (unchanged_of_swaps hsame hswaps).2.1) fun _ => rfl

theorem marked_evaluated {a x : Address16} (hbackbone : (s.backbone.bind s.getDevice).isSome)
    (hused : usedEdges.entries ≠ [])
    (hagrees : t.Agrees s) (ha : a ≠ 0) (hx : x ≠ 0) (hedge : s.subnetEdges a x = true) :
    (t.graphId ∈ (s.evaluated t usedEdges isInbound).edgeGraphs a x ↔ x ∈ exitsOf usedEdges a) ↔
      (s.isJoinedAndConfigured a = false → x ∈ exitsOf usedEdges a → x ∈ exitsOf t.graphEdges a) := by
  rw [(evaluated_fields hbackbone hused).2.2.1 a x ha hx hedge (hagrees.marks a x ha hx hedge)]
  constructor
  · intro h hnot hnew
    obtain hkept | hchanged := h.mpr hnew
    · exact hkept.1
    · rw [(mem_exitsOf_detectChangedEdges.mp hchanged).2.1] at hnot
      cases hnot
  · intro h
    refine Iff.intro (fun hmark => hmark.elim And.right fun hchanged => (mem_exitsOf_detectChangedEdges.mp hchanged).1)
      fun hnew => ?_
    rcases hconfigured : s.isJoinedAndConfigured a with _ | _
    · exact .inl ⟨h hconfigured hnew, hnew⟩
    by_cases hchanged : ∀ d, usedEdges.find a = some d → nodeHasChangedDestinations t a d = true
    · exact .inr (mem_exitsOf_detectChangedEdges.mpr ⟨hnew, hconfigured, hchanged⟩)
    · -- an unchanged table has all new exits among the old ones
      push Not at hchanged
      obtain ⟨d, hd, hsame⟩ := hchanged
      obtain ⟨-, neighbors, hneighbors, -, hmem⟩ := nodeHasChangedDestinations_eq_false.mp (Bool.eq_false_iff.mpr hsame)
      have hexit : x ∈ d.neighbors := by
        unfold exitsOf at hnew
        rw [hd] at hnew
        exact hnew
      have hold : some neighbors = listed (exitsOf t.graphEdges a) :=
        hneighbors.symm.trans (hagrees.tables a hconfigured)
      unfold listed at hold
      split_ifs at hold
      exact .inl ⟨Option.some.inj hold ▸ hmem x hexit, hnew⟩

end Subnet

/-- After the confirmation of all operations everything is in step again if and only if the evaluation was not applied at all, or no configured device changes its exits over or has only a backup, and no other device has new exits. -/
theorem graph_update_agrees (s : Subnet) (t : GraphState) (usedEdges : DoubleExitEdges) (isInbound : Bool)
    (hagrees : t.Agrees s) : (s.evaluated t usedEdges isInbound).Agrees s ↔
      s.backbone.bind s.getDevice = none ∨ usedEdges.entries = [] ∨ s.Applies t usedEdges := by
  by_cases hidle : s.backbone.bind s.getDevice = none ∨ usedEdges.entries = []
  · have hsame : s.evaluated t usedEdges isInbound = t := by
      unfold Subnet.evaluated Subnet.evaluateGraph
      by_cases hnone : s.backbone.bind s.getDevice = none
      · rw [if_pos (by rw [hnone]; rfl)]
        rfl
      · rw [if_neg (by rwa [isNone_iff_eq_none]), if_pos (by rw [hidle.resolve_left hnone]; rfl)]
        rfl
    rw [hsame]
    exact Iff.intro (fun _ => hidle.imp_right .inl) fun _ => hagrees
  obtain ⟨hbackbone, hused⟩ := not_or.mp hidle
  have hbackbone' := isSome_iff_ne_none.mpr hbackbone
  rw [or_iff_right hbackbone, or_iff_right hused]
  obtain ⟨hid, hedges, -, -⟩ := @Subnet.evaluated_fields s t usedEdges isInbound hbackbone' hused
  constructor
  · intro hafter a d hd
    refine ⟨fun ha => ?_, fun ha x hx hsource hedge => ?_⟩
    · have htable := hafter.tables a ha
      rw [hedges] at htable
      exact (Subnet.listed_evaluated hbackbone' hused ha (hagrees.tables a ha)).mp htable d hd
    · have hx' := (mem_neighbors.mp hx).1
      have hmarks := hafter.marks a x hsource hx' hedge
      rw [hedges, hid] at hmarks
      refine (Subnet.marked_evaluated hbackbone' hused hagrees hsource hx' hedge).mp hmarks ha ?_
      unfold exitsOf
      rw [hd]
      exact hx
  · intro happlies
    refine ⟨fun a ha => ?_, fun a x ha hx hedge => ?_⟩
    · rw [hedges]
      exact (Subnet.listed_evaluated hbackbone' hused ha (hagrees.tables a ha)).mpr fun d hd => (happlies a d hd).1 ha
    · rw [hedges, hid]
      refine (Subnet.marked_evaluated hbackbone' hused hagrees ha hx hedge).mpr fun hnot hnew => ?_
      rcases hd : usedEdges.find a with _ | d
      · unfold exitsOf at hnew
        rw [hd] at hnew
        cases hnew
      · unfold exitsOf at hnew
        rw [hd] at hnew
        exact (happlies a d hd).2 hnot x hnew ha hedge

def GraphState.settled (graphId : Nat) (edges : DoubleExitEdges) : GraphState where
  graphId := graphId
  graphEdges := edges
  edgeGraphs a x := if x ∈ exitsOf edges a then [graphId] else []
  graphsTable a := if exitsOf edges a = [] then .empty else empty.set graphId (exitsOf edges a)

theorem agrees_settled (s : Subnet) (graphId : Nat) (edges : DoubleExitEdges) :
    (GraphState.settled graphId edges).Agrees s where
  tables a _ := by
    unfold GraphState.entry GraphState.settled listed
    dsimp only
    by_cases hnone : exitsOf edges a = []
    · rw [if_pos hnone, if_pos hnone]
      rfl
    · rw [if_neg hnone, if_neg hnone, find_set_self]
  marks a x _ _ _ := by
    unfold GraphState.settled
    dsimp only
    by_cases hexit : x ∈ exitsOf edges a
    · rw [if_pos hexit]
      exact Iff.intro (fun _ => hexit) fun _ => mem_cons_self
    · rw [if_neg hexit]
      exact Iff.intro (fun h => nomatch h) fun h => absurd h hexit

def forkedEdges : DoubleExitEdges := ⟨[(10, ⟨11, 12⟩), (11, ⟨13, 0⟩), (12, ⟨13, 0⟩)], by decide⟩

/-- The branch over 12 falls away. -/
theorem graph_update_agrees_straight :
    (freshSubnet.evaluated (.settled 5 forkedEdges) ⟨[(10, ⟨11, 0⟩), (11, ⟨13, 0⟩)], by decide⟩ false).Agrees
      freshSubnet := by
  refine (graph_update_agrees freshSubnet _ _ false (agrees_settled ..)).mpr (.inr (.inr fun a d hd => ?_))
  have happlies : ∀ e ∈ [((10 : Address16), (⟨11, 0⟩ : DoubleExitDestinations)), (11, ⟨13, 0⟩)],
      freshSubnet.isJoinedAndConfigured e.1 = true ∧ e.2.prefered ≠ 0 ∧ e.2.backup = 0 := by decide
  obtain ⟨hconfigured, hp, hb⟩ := happlies (a, d) (mem_entries.mpr hd)
  refine ⟨fun _ => ⟨fun hzero => absurd hzero hp, fun old _ hswaps => ?_⟩, fun hnot => ?_⟩
  · exact hswaps.1 (hswaps.2.2.2.2.symm.trans hb)
  · rw [hconfigured] at hnot
    cases hnot

def swappedEdges : DoubleExitEdges := ⟨[(10, ⟨12, 11⟩), (11, ⟨13, 0⟩), (12, ⟨13, 0⟩)], by decide⟩

/-- The backbone changes its two exits over, and its table keeps the old order. -/
theorem swapped_exits_stay : (GraphState.settled 5 forkedEdges).Agrees freshSubnet ∧
    ¬(freshSubnet.evaluated (.settled 5 forkedEdges) swappedEdges false).Agrees freshSubnet := by
  refine ⟨agrees_settled .., fun hafter => ?_⟩
  have hentry : (freshSubnet.evaluated (.settled 5 forkedEdges) swappedEdges false).entry 10 = some [11, 12] := by
    decide +kernel
  have hexits : exitsOf (freshSubnet.evaluated (.settled 5 forkedEdges) swappedEdges false).graphEdges 10 =
    [12, 11] := by
    decide +kernel
  have htable := hafter.tables 10 (by decide)
  rw [hentry, hexits] at htable
  exact absurd htable (by decide)

end Isa100Gateway.NetworkEngine
