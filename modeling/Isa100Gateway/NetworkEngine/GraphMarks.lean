import Isa100Gateway.NetworkEngine.GraphUpdate

/-!
# The differences of a graph update and the marks on edges

The two differences of an update are told by their exits: what is not used any more is what the old graph had and the new one has not. The loops that push them into the edges of the subnet take marks from the one and give marks to the other.
-/

namespace Isa100Gateway.NetworkEngine

open List

namespace DoubleExitDestinations

variable {d : DoubleExitDestinations}

theorem mem_neighbors {x : Address16} : x ∈ d.neighbors ↔ x ≠ 0 ∧ (x = d.prefered ∨ x = d.backup) := by
  unfold neighbors
  rw [mem_append]
  by_cases hp : d.prefered = 0
  · by_cases hb : d.backup = 0
    · simp [hp, hb]
    · simp only [hp, hb, ne_eq, not_true_eq_false, not_false_eq_true, if_true, if_false, mem_singleton,
        not_mem_nil, false_or]
      exact Iff.intro (fun h => ⟨h ▸ hb, .inr h⟩) fun h => h.2.resolve_left h.1
  · by_cases hb : d.backup = 0
    · simp only [hp, hb, ne_eq, not_true_eq_false, not_false_eq_true, if_true, if_false, mem_singleton,
        not_mem_nil, or_false]
      exact Iff.intro (fun h => ⟨h ▸ hp, .inl h⟩) fun h => h.2.resolve_right h.1
    · simp only [hp, hb, ne_eq, not_false_eq_true, if_true, mem_singleton]
      refine Iff.intro (fun h => ⟨?_, h⟩) And.right
      exact h.elim (fun h => h ▸ hp) fun h => h ▸ hb

theorem neighbors_of_single (hp : d.prefered ≠ 0) (hb : d.backup = 0) : d.neighbors = [d.prefered] := by
  unfold neighbors
  rw [if_pos hp, if_neg (not_not_intro hb)]
  rfl

theorem neighbors_of_double (hp : d.prefered ≠ 0) (hb : d.backup ≠ 0) : d.neighbors = [d.prefered, d.backup] := by
  unfold neighbors
  rw [if_pos hp, if_pos hb]
  rfl

theorem neighbors_of_backup (hp : d.prefered = 0) : d.neighbors = if d.backup ≠ 0 then [d.backup] else [] := by
  unfold neighbors
  rw [if_neg (not_not_intro hp)]
  rfl

def Swaps (old d : DoubleExitDestinations) : Prop :=
  old.prefered ≠ 0 ∧ old.backup ≠ 0 ∧ old.prefered ≠ old.backup ∧ d.prefered = old.backup ∧ d.backup = old.prefered

theorem neighbors_eq_or_swaps {old d : DoubleExitDestinations} (hp : d.prefered ≠ 0)
    (hlength : old.neighbors.length = d.neighbors.length) (hnew : ∀ x ∈ d.neighbors, x ∈ old.neighbors)
    (hold : ∀ x ∈ old.neighbors, x ∈ d.neighbors) : old.neighbors = d.neighbors ∨ Swaps old d := by
  by_cases hb : d.backup = 0
  · rw [neighbors_of_single hp hb] at hlength hnew ⊢
    obtain ⟨x, hx⟩ := length_eq_one_iff.mp hlength
    have hmem := hnew d.prefered mem_cons_self
    rw [hx] at hmem ⊢
    exact .inl (congrArg (fun y => [y]) (mem_singleton.mp hmem).symm)
  rw [neighbors_of_double hp hb] at hlength hnew hold ⊢
  have hprefered : old.prefered ≠ 0 := by
    intro hzero
    rw [neighbors_of_backup hzero] at hlength
    split at hlength <;> cases hlength
  have hbackup : old.backup ≠ 0 := by
    intro hzero
    rw [neighbors_of_single hprefered hzero] at hlength
    cases hlength
  rw [neighbors_of_double hprefered hbackup] at hnew hold ⊢
  simp only [mem_cons, not_mem_nil, or_false, forall_eq_or_imp, forall_eq] at hnew hold
  by_cases hsame : d.prefered = old.prefered
  · by_cases hsame' : d.backup = old.backup
    · exact .inl (by rw [hsame, hsame'])
    · have heq := hold.2.resolve_right (Ne.symm hsame')
      have heq' := hnew.2.resolve_right hsame'
      exact absurd (heq'.trans (hsame.symm.trans heq.symm)) hsame'
  · have hcross := hnew.1.resolve_left hsame
    have hcross' := hold.1.resolve_left (Ne.symm hsame)
    exact .inr ⟨hprefered, hbackup, fun heq => hsame (hcross.trans heq.symm), hcross, hcross'.symm⟩

end DoubleExitDestinations

open DoubleExitDestinations

def exitsOf (edges : DoubleExitEdges) (a : Address16) : List Address16 := (edges.find a).elim [] neighbors

variable {old used : DoubleExitDestinations}

theorem mem_droppedExits {x : Address16} :
    x ∈ (droppedExits old used).neighbors ↔ x ∈ old.neighbors ∧ x ∉ used.neighbors := by
  rw [mem_neighbors, mem_neighbors, mem_neighbors]
  unfold droppedExits
  by_cases hp : old.prefered ≠ used.prefered ∧ old.prefered ≠ used.backup
  · rw [if_pos hp]
    by_cases hb : old.backup ≠ used.prefered ∧ old.backup ≠ used.backup
    · rw [if_pos hb]
      grind
    · rw [if_neg hb]
      grind
  · rw [if_neg hp]
    by_cases hb : old.backup ≠ used.prefered ∧ old.backup ≠ used.backup
    · rw [if_pos hb, if_pos rfl]
      grind
    · rw [if_neg hb]
      grind

theorem droppedExits_eq_nil (h : (droppedExits old used).prefered = 0) : (droppedExits old used).neighbors = [] := by
  rw [neighbors_of_backup h, if_neg]
  unfold droppedExits at h ⊢
  grind

theorem exitsOf_detectNotUsedEdges {old used : DoubleExitEdges} {a x : Address16} :
    x ∈ exitsOf (detectNotUsedEdges old used) a ↔ x ∈ exitsOf old a ∧ x ∉ exitsOf used a := by
  unfold exitsOf detectNotUsedEdges
  rw [OrderedMap.find_filterMap]
  rcases old.find a with _ | d
  · simp
  rcases used.find a with _ | d'
  · simp
  dsimp only [Option.elim, Option.bind_some]
  rw [← mem_droppedExits]
  by_cases hnone : (droppedExits d d').prefered = 0
  · rw [if_neg (not_not_intro hnone), droppedExits_eq_nil hnone]
  · rw [if_pos hnone]

theorem nodeHasChangedDestinations_eq_false {t : GraphState} {a : Address16} {d : DoubleExitDestinations} :
    Subnet.nodeHasChangedDestinations t a d = false ↔ d.prefered ≠ 0 ∧ ∃ neighbors,
      (t.graphsTable a).find t.graphId = some neighbors ∧ neighbors.length = d.neighbors.length ∧
        ∀ x ∈ d.neighbors, x ∈ neighbors := by
  unfold Subnet.nodeHasChangedDestinations
  rcases (t.graphsTable a).find t.graphId with _ | neighbors
  · simp
  by_cases hp : d.prefered = 0
  · simp [hp]
  by_cases hb : d.backup = 0
  · rw [neighbors_of_single hp hb]
    simp [hp, hb]
  · rw [neighbors_of_double hp hb]
    simp [hp, hb]

/-! ## Marks -/

namespace Subnet

variable {s : Subnet} {t : GraphState}

def MarksOnly (t t' : GraphState) : Prop := ∃ marks, t' = { t with edgeGraphs := marks }

theorem MarksOnly.refl (t : GraphState) : MarksOnly t t := ⟨t.edgeGraphs, rfl⟩

theorem MarksOnly.trans {t t' t'' : GraphState} (h : MarksOnly t t') (h' : MarksOnly t' t'') : MarksOnly t t'' := by
  obtain ⟨marks, rfl⟩ := h
  obtain ⟨marks', rfl⟩ := h'
  exact ⟨marks', rfl⟩

theorem MarksOnly.foldl {α : Type} {step : GraphState → α → GraphState} (h : ∀ t e, MarksOnly t (step t e))
    (entries : List α) : ∀ t, MarksOnly t (entries.foldl step t) := by
  induction entries with
  | nil => exact MarksOnly.refl
  | cons e entries ih => exact fun t => (h t e).trans (ih (step t e))

theorem MarksOnly.graphId {t' : GraphState} (h : MarksOnly t t') : t'.graphId = t.graphId := by
  obtain ⟨marks, rfl⟩ := h
  rfl

theorem marksOnly_changeEdgeGraphs (t : GraphState) (a x : Address16) (f : List Nat → List Nat) :
    MarksOnly t (s.changeEdgeGraphs t a x f) := by
  unfold changeEdgeGraphs
  split_ifs
  · exact .refl t
  · exact ⟨_, rfl⟩
  · exact .refl t

theorem marksOnly_releaseOutboundEdge (t : GraphState) (a x : Address16) :
    MarksOnly t (s.releaseOutboundEdge t a x) := by
  unfold releaseOutboundEdge
  split_ifs
  · exact .refl t
  · exact .refl t
  · exact .refl t
  · exact marksOnly_changeEdgeGraphs ..

@[simp]
theorem graphId_changeEdgeGraphs (a x : Address16) (f : List Nat → List Nat) :
    (s.changeEdgeGraphs t a x f).graphId = t.graphId := (marksOnly_changeEdgeGraphs t a x f).graphId

variable {a x b y : Address16}

theorem edgeGraphs_changeEdgeGraphs {f : List Nat → List Nat} (hb : b ≠ 0) (hy : y ≠ 0)
    (hedge : s.subnetEdges b y = true) :
    (s.changeEdgeGraphs t a x f).edgeGraphs b y = if b = a ∧ y = x then f (t.edgeGraphs b y) else t.edgeGraphs b y := by
  unfold changeEdgeGraphs
  by_cases hsame : b = a ∧ y = x
  · obtain ⟨rfl, rfl⟩ := hsame
    rw [if_neg (not_or.mpr ⟨hb, hy⟩), if_pos hedge]
  · rw [if_neg hsame]
    split_ifs
    · rfl
    · exact if_neg hsame
    · rfl

theorem mem_neighbors_of_or {d : DoubleExitDestinations} {x : Address16} (hx : x ≠ 0) :
    x = d.prefered ∨ x = d.backup ↔ x ∈ d.neighbors := by
  rw [mem_neighbors]
  exact Iff.intro (fun h => ⟨hx, h⟩) And.right

section

variable (hb : b ≠ 0) (hy : y ≠ 0) (hedge : s.subnetEdges b y = true)
include hb hy hedge

theorem mem_edgeGraphs_delete :
    t.graphId ∈ (s.deleteGraphFromEdge t a x).edgeGraphs b y ↔ t.graphId ∈ t.edgeGraphs b y ∧ ¬(b = a ∧ y = x) := by
  unfold deleteGraphFromEdge
  rw [edgeGraphs_changeEdgeGraphs hb hy hedge]
  by_cases hsame : b = a ∧ y = x
  · rw [if_pos hsame, mem_filter]
    simp [hsame]
  · rw [if_neg hsame]
    exact Iff.intro (fun h => ⟨h, hsame⟩) And.left

theorem mem_edgeGraphs_add :
    t.graphId ∈ (s.addGraphToEdge t a x).edgeGraphs b y ↔ t.graphId ∈ t.edgeGraphs b y ∨ b = a ∧ y = x := by
  unfold addGraphToEdge
  rw [edgeGraphs_changeEdgeGraphs hb hy hedge]
  by_cases hsame : b = a ∧ y = x
  · rw [if_pos hsame]
    refine Iff.intro (fun _ => .inr hsame) fun _ => ?_
    by_cases hmem : t.graphId ∈ t.edgeGraphs b y
    · rw [if_pos hmem]
      exact hmem
    · rw [if_neg hmem]
      exact mem_cons_self
  · rw [if_neg hsame]
    exact Iff.intro .inl fun h => h.resolve_right hsame

theorem mem_edgeGraphs_foldl_delete (edges : List (Address16 × Address16)) : ∀ t : GraphState,
    let t' := edges.foldl (fun t e => s.deleteGraphFromEdge t e.1 e.2) t
    t'.graphId = t.graphId ∧ (t.graphId ∈ t'.edgeGraphs b y ↔ t.graphId ∈ t.edgeGraphs b y ∧ (b, y) ∉ edges) := by
  induction edges with
  | nil => exact fun t => ⟨rfl, by simp⟩
  | cons e edges ih =>
    intro t
    obtain ⟨hid, hmem⟩ := ih (s.deleteGraphFromEdge t e.1 e.2)
    rw [deleteGraphFromEdge, graphId_changeEdgeGraphs, ← deleteGraphFromEdge] at hid hmem
    refine ⟨hid, ?_⟩
    rw [foldl_cons, hmem, mem_edgeGraphs_delete hb hy hedge, mem_cons, not_or, and_assoc, Prod.ext_iff]

theorem mem_edgeGraphs_foldl_add (edges : List (Address16 × Address16)) : ∀ t : GraphState,
    t.graphId ∈ (edges.foldl (fun t e => s.addGraphToEdge t e.1 e.2) t).edgeGraphs b y ↔
      t.graphId ∈ t.edgeGraphs b y ∨ (b, y) ∈ edges := by
  induction edges with
  | nil => exact fun t => by simp
  | cons e edges ih =>
    intro t
    have hmem := ih (s.addGraphToEdge t e.1 e.2)
    rw [addGraphToEdge, graphId_changeEdgeGraphs, ← addGraphToEdge] at hmem
    rw [foldl_cons, hmem, mem_edgeGraphs_add hb hy hedge, mem_cons, or_assoc, Prod.ext_iff]

end

theorem mem_exitsOf {edges : DoubleExitEdges} {b y : Address16} :
    y ∈ exitsOf edges b ↔ ∃ e ∈ edges.entries, e.1 = b ∧ y ∈ e.2.neighbors := by
  unfold exitsOf
  rcases hfind : edges.find b with _ | d
  · refine Iff.intro (fun h => nomatch h) ?_
    rintro ⟨⟨a, d⟩, he, rfl, -⟩
    rw [OrderedMap.mem_entries.mp he] at hfind
    cases hfind
  · constructor
    · exact fun h => ⟨(b, d), OrderedMap.mem_entries.mpr hfind, rfl, h⟩
    · rintro ⟨⟨a, d'⟩, he, rfl, hy⟩
      rw [OrderedMap.mem_entries.mp he] at hfind
      cases hfind
      exact hy

/-- The edges of the entries in the order in which the loops come to them. -/
def edgesOf (entries : List (Address16 × DoubleExitDestinations)) : List (Address16 × Address16) :=
  entries.flatMap fun e => [(e.1, e.2.prefered), (e.1, e.2.backup)]

theorem foldl_edgesOf (touch : GraphState → Address16 → Address16 → GraphState)
    (entries : List (Address16 × DoubleExitDestinations)) (t : GraphState) :
    entries.foldl (fun t e => touch (touch t e.1 e.2.prefered) e.1 e.2.backup) t =
      (edgesOf entries).foldl (fun t e => touch t e.1 e.2) t := by
  rw [edgesOf, foldl_flatMap]
  rfl

theorem mem_edgesOf {edges : DoubleExitEdges} (hy : y ≠ 0) : (b, y) ∈ edgesOf edges.entries ↔ y ∈ exitsOf edges b := by
  rw [mem_exitsOf, edgesOf, mem_flatMap]
  refine exists_congr fun e => and_congr_right fun _ => ?_
  rw [← mem_neighbors_of_or hy, mem_cons, mem_singleton, Prod.ext_iff, Prod.ext_iff, ← and_or_left, eq_comm]

theorem marksOnly_theoreticModelUpdate (t : GraphState) (changedEdges notUsedEdges : DoubleExitEdges) :
    MarksOnly t (s.theoreticModelUpdate t changedEdges notUsedEdges) := by
  unfold theoreticModelUpdate
  refine MarksOnly.trans (MarksOnly.foldl (fun t e => ?_) _ t) (MarksOnly.foldl (fun t e => ?_) _ _)
  · exact (marksOnly_changeEdgeGraphs ..).trans (marksOnly_changeEdgeGraphs ..)
  · exact (marksOnly_changeEdgeGraphs ..).trans (marksOnly_changeEdgeGraphs ..)

theorem marksOnly_physicalModelUpdate (t : GraphState) (changedEdges notUsedEdges : DoubleExitEdges)
    (isInBound : Bool) :
    MarksOnly t (s.physicalModelUpdate t changedEdges notUsedEdges isInBound).2 := by
  unfold physicalModelUpdate
  split_ifs
  · exact .refl t
  · exact MarksOnly.foldl (fun t e => (marksOnly_releaseOutboundEdge ..).trans (marksOnly_releaseOutboundEdge ..)) _ t

section

variable (hb : b ≠ 0) (hy : y ≠ 0) (hedge : s.subnetEdges b y = true)
include hb hy hedge

variable {changedEdges notUsedEdges : DoubleExitEdges}

theorem mem_edgeGraphs_theoreticModelUpdate :
    t.graphId ∈ (s.theoreticModelUpdate t changedEdges notUsedEdges).edgeGraphs b y ↔
      t.graphId ∈ t.edgeGraphs b y ∧ y ∉ exitsOf notUsedEdges b ∨ y ∈ exitsOf changedEdges b := by
  obtain ⟨hid, hdelete⟩ := mem_edgeGraphs_foldl_delete hb hy hedge (edgesOf notUsedEdges.entries) t
  unfold theoreticModelUpdate
  rw [foldl_edgesOf s.deleteGraphFromEdge, foldl_edgesOf s.addGraphToEdge]
  have hadd := mem_edgeGraphs_foldl_add hb hy hedge (edgesOf changedEdges.entries)
    ((edgesOf notUsedEdges.entries).foldl (fun t e => s.deleteGraphFromEdge t e.1 e.2) t)
  rw [hid] at hadd
  rw [hadd, hdelete, mem_edgesOf hy, mem_edgesOf hy]

theorem edgeGraphs_foldl_release (edges : List (Address16 × Address16)) : ∀ t : GraphState,
    let t' := edges.foldl (fun t e => s.releaseOutboundEdge t e.1 e.2) t
    (t.graphId ∈ t'.edgeGraphs b y → t.graphId ∈ t.edgeGraphs b y) ∧
      ((b, y) ∉ edges → t'.edgeGraphs b y = t.edgeGraphs b y) := by
  have hstep : ∀ (t : GraphState) (a x : Address16),
      (t.graphId ∈ (s.releaseOutboundEdge t a x).edgeGraphs b y → t.graphId ∈ t.edgeGraphs b y) ∧
      (¬(b = a ∧ y = x) → (s.releaseOutboundEdge t a x).edgeGraphs b y = t.edgeGraphs b y) := by
    intro t a x
    unfold releaseOutboundEdge
    split_ifs
    · exact ⟨id, fun _ => rfl⟩
    · exact ⟨id, fun _ => rfl⟩
    · exact ⟨id, fun _ => rfl⟩
    · refine ⟨fun h => ((mem_edgeGraphs_delete hb hy hedge).mp h).1, fun hother => ?_⟩
      unfold deleteGraphFromEdge
      rw [edgeGraphs_changeEdgeGraphs hb hy hedge, if_neg hother]
  induction edges with
  | nil => exact fun t => ⟨id, fun _ => rfl⟩
  | cons e edges ih =>
    intro t
    obtain ⟨hless, hkeep⟩ := hstep t e.1 e.2
    obtain ⟨hless', hkeep'⟩ := ih (s.releaseOutboundEdge t e.1 e.2)
    rw [(marksOnly_releaseOutboundEdge ..).graphId] at hless'
    refine ⟨fun h => hless (hless' h), fun hnot => ?_⟩
    obtain ⟨hfirst, hrest⟩ := not_or.mp (mem_cons.not.mp hnot)
    rw [foldl_cons, hkeep' hrest, hkeep fun hsame => hfirst (Prod.ext hsame.1 hsame.2)]

theorem mem_edgeGraphs_physicalModelUpdate {isInBound : Bool}
    (hnone : y ∈ exitsOf notUsedEdges b → t.graphId ∉ t.edgeGraphs b y) :
    t.graphId ∈ (s.physicalModelUpdate t changedEdges notUsedEdges isInBound).2.edgeGraphs b y ↔
      t.graphId ∈ t.edgeGraphs b y := by
  unfold physicalModelUpdate
  split_ifs
  · rfl
  rw [foldl_edgesOf s.releaseOutboundEdge]
  obtain ⟨hless, hkeep⟩ := edgeGraphs_foldl_release hb hy hedge (edgesOf notUsedEdges.entries) t
  by_cases hused : y ∈ exitsOf notUsedEdges b
  · exact Iff.intro hless fun hmark => absurd hmark (hnone hused)
  · rw [hkeep ((mem_edgesOf hy).not.mpr hused)]

end

end Subnet

end Isa100Gateway.NetworkEngine
