import Isa100Gateway.Lib.Run
import Isa100Gateway.NetworkEngine.GraphMarks

/-!
# The graph container (`Graph.cpp`)

The operations of a graph on the map from its nodes to their exits. What the source calls a query has the graph as a result too where it writes. A run also keeps the devices that were removed and not named by a later operation.
-/

namespace Isa100Gateway.NetworkEngine

open DoubleExitDestinations OrderedMap List

abbrev Graph := DoubleExitEdges

namespace Graph

/-- The exits come back as the caller finds them in its argument. -/
def addEdges (g : Graph) (source : Address16) (destination : DoubleExitDestinations) : Graph × DoubleExitDestinations :=
  if source = 0 ∨ destination.prefered = 0 then (g, destination)
  else
    let destination := if destination.prefered = destination.backup then { destination with backup := 0 } else
      destination
    (g.set source destination, destination)

def addEdge (g : Graph) (source destination : Address16) : Graph :=
  match g.find source with
  | none => g.set source ⟨destination, 0⟩
  | some d =>
    if d.prefered ≠ destination then
      if d.prefered = 0 then g.set source ⟨destination, 0⟩
      else g.set source { d with backup := destination }
    else g

def removeDeviceFromGraph (g : Graph) (deviceToRemove : Address16) : Graph :=
  (g.erase deviceToRemove).filterMap fun _ d =>
    some ⟨if d.prefered = deviceToRemove then 0 else d.prefered, if d.backup = deviceToRemove then 0 else d.backup⟩

def setDeviceDestination (g : Graph) (device : Address16) (destinations : DoubleExitDestinations) : Graph :=
  g.set device destinations

def getOutBoundEdges (g : Graph) (device : Address16) : List Address16 := exitsOf g device

def getInBoundEdges (g : Graph) (device : Address16) : List Address16 :=
  (g.filter fun _ d => d.prefered = device ∨ d.backup = device).keys

def isBackupForDevice (g : Graph) (device backup : Address16) : Bool := (g.find device).any fun d => d.backup = backup

def graphPasesThroughNode (g : Graph) (a : Address16) : Bool := (g.find a).any fun d => d.prefered ≠ 0

/-- The second comparison is an assignment, which is true for any `dst` that is not 0. -/
def existsEdge (g : Graph) (src dst : Address16) : Bool × Graph :=
  if dst = 0 then (false, g)
  else
    match g.find src with
    | some d => if d.prefered = dst then (true, g) else (true, g.set src { d with backup := dst })
    | none => (false, g)

end Graph

/-- No backup stands without or beside the same preferred exit. -/
def DoubleExitDestinations.Proper (d : DoubleExitDestinations) : Prop :=
  d.backup = 0 ∨ d.prefered ≠ 0 ∧ d.prefered ≠ d.backup

namespace Graph

def WellFormed (g : Graph) : Prop := ∀ a d, g.find a = some d → d.Proper

def Absent (g : Graph) (x : Address16) : Prop := g.find x = none ∧ ∀ a, x ∉ g.getOutBoundEdges a

/-- A node with fewer than two exits in use keeps them. -/
def KeepsExits (g g' : Graph) : Prop :=
  ∀ a, (g.getOutBoundEdges a).length < 2 → g.getOutBoundEdges a ⊆ g'.getOutBoundEdges a

inductive Event
  | addEdges (source : Address16) (destination : DoubleExitDestinations)
  | addEdge (source destination : Address16)
  | setDeviceDestination (device : Address16) (destinations : DoubleExitDestinations)
  | removeDeviceFromGraph (device : Address16)
  | existsEdge (src dst : Address16)
  /-- The queries that write nothing, about one possible edge. -/
  | query (src dst : Address16)

def apply (g : Graph) : Event → Graph
  | .addEdges source destination => (g.addEdges source destination).1
  | .addEdge source destination => g.addEdge source destination
  | .setDeviceDestination device destinations => g.setDeviceDestination device destinations
  | .removeDeviceFromGraph device => g.removeDeviceFromGraph device
  | .existsEdge src dst => (g.existsEdge src dst).2
  | .query _ _ => g

def Event.named : Event → List Address16
  | .addEdges source destination =>
    if source = 0 ∨ destination.prefered = 0 then [] else source :: destination.neighbors
  | .addEdge source destination => [source, destination]
  | .setDeviceDestination device destinations => device :: destinations.neighbors
  | _ => []

def step (s : Graph × List Address16) (e : Event) : Graph × List Address16 :=
  (s.1.apply e, match e with
    | .removeDeviceFromGraph device => device :: s.2
    | _ => s.2.filter fun x => x ∉ e.named)

def start : Graph × List Address16 := (empty, [])

def Lawful (g : Graph) : Event → Prop
  | .addEdges source destination =>
    (g.addEdges source destination).1.WellFormed ∧ g.KeepsExits (g.addEdges source destination).1
  | .addEdge source destination => (g.addEdge source destination).WellFormed ∧
    g.KeepsExits (g.addEdge source destination)
  | .setDeviceDestination device destinations => (g.setDeviceDestination device destinations).WellFormed
  | .removeDeviceFromGraph device =>
    (g.removeDeviceFromGraph device).WellFormed ∧ (g.removeDeviceFromGraph device).Absent device
  | .existsEdge src dst =>
    (g.existsEdge src dst).2 = g ∧ ((g.existsEdge src dst).1 = true ↔ dst ∈ g.getOutBoundEdges src)
  | .query src dst =>
    (src ∈ g.getInBoundEdges dst ↔ dst ∈ g.getOutBoundEdges src) ∧
      (g.isBackupForDevice src dst = true → dst ∈ g.getOutBoundEdges src) ∧
      (g.graphPasesThroughNode src = true ↔ g.getOutBoundEdges src ≠ [])

def Meets (g : Graph) : Event → Prop
  | .addEdges source destination => source = 0 ∨ destination.prefered = 0 ∨
    ∀ old ∈ g.find source, old.prefered ≠ 0 → old.backup = 0 →
      old.prefered = destination.prefered ∨ old.prefered = destination.backup
  | .addEdge _ _ => True
  | .setDeviceDestination _ destinations => destinations.Proper
  | .removeDeviceFromGraph device => ∀ e ∈ g.entries, e.1 ≠ device → e.2.prefered = device → e.2.backup = 0
  | .existsEdge src dst => dst = 0 ∨ ∀ d ∈ g.find src, d.prefered = dst ∨ d.backup = dst
  | .query src dst => dst ≠ 0 ∨ ∀ d ∈ g.find src, d.prefered ≠ 0 ∧ d.backup ≠ 0

instance (g : Graph) : ∀ e, Decidable (g.Meets e)
  | .addEdges _ _ => inferInstanceAs (Decidable (_ ∨ _))
  | .addEdge _ _ => isTrue trivial
  | .setDeviceDestination _ _ => inferInstanceAs (Decidable (_ ∨ _))
  | .removeDeviceFromGraph _ => inferInstanceAs (Decidable (∀ _ ∈ _, _))
  | .existsEdge _ _ => inferInstanceAs (Decidable (_ ∨ _))
  | .query _ _ => inferInstanceAs (Decidable (_ ∨ _))

variable {g : Graph} {a b x : Address16} {d : DoubleExitDestinations}

theorem mem_getOutBoundEdges :
    b ∈ g.getOutBoundEdges a ↔ b ≠ 0 ∧ ∃ d, g.find a = some d ∧ (b = d.prefered ∨ b = d.backup) := by
  unfold getOutBoundEdges exitsOf
  rcases hfind : g.find a with _ | d
  · simp
  · rw [Option.elim_some, mem_neighbors]
    simp

theorem mem_getInBoundEdges : a ∈ g.getInBoundEdges b ↔ ∃ d, g.find a = some d ∧ (b = d.prefered ∨ b = d.backup) := by
  unfold getInBoundEdges
  rw [OrderedMap.mem_keys, Option.isSome_iff_exists]
  refine exists_congr fun d => ?_
  rw [← mem_entries, ← mem_entries]
  change (a, d) ∈ g.entries.filter _ ↔ _
  rw [mem_filter, decide_eq_true_iff, eq_comm (a := b), eq_comm (a := b)]

theorem out_set : getOutBoundEdges (g.set a d) b = if a = b then d.neighbors else g.getOutBoundEdges b := by
  unfold getOutBoundEdges exitsOf
  rw [find_set]
  split_ifs <;> rfl

theorem out_of_find (h : g.find a = some d) : g.getOutBoundEdges a = d.neighbors := by
  rw [getOutBoundEdges, exitsOf, h]
  rfl

theorem out_eq_nil (h : g.find a = none) : g.getOutBoundEdges a = [] := by
  rw [getOutBoundEdges, exitsOf, h]
  rfl

theorem wellFormed_set (h : g.WellFormed) : WellFormed (g.set a d) ↔ d.Proper := by
  constructor
  · intro hset
    exact hset a d find_set_self
  · intro hd a' d' hfind
    rw [find_set] at hfind
    split_ifs at hfind
    · exact Option.some.inj hfind ▸ hd
    · exact h a' d' hfind

theorem keepsExits_set : g.KeepsExits (g.set a d) ↔
    ((g.getOutBoundEdges a).length < 2 → g.getOutBoundEdges a ⊆ d.neighbors) := by
  constructor
  · intro h hlength
    have hsub := h a hlength
    rwa [out_set, if_pos rfl] at hsub
  · intro h b hlength
    rw [out_set]
    split_ifs with heq
    · exact heq ▸ h (heq ▸ hlength)
    · exact List.Subset.refl _

theorem find_removeDeviceFromGraph : (g.removeDeviceFromGraph x).find a = if x = a then none else
    (g.find a).map fun d => ⟨if d.prefered = x then 0 else d.prefered, if d.backup = x then 0 else d.backup⟩ := by
  unfold removeDeviceFromGraph
  rw [find_filterMap, find_erase]
  split_ifs
  · rfl
  · exact Option.map_eq_bind.symm

theorem absent_removeDeviceFromGraph : (g.removeDeviceFromGraph x).Absent x := by
  refine ⟨by rw [find_removeDeviceFromGraph, if_pos rfl], fun a hmem => ?_⟩
  obtain ⟨hx, d', hfind, hexit⟩ := mem_getOutBoundEdges.mp hmem
  have hcleared : ∀ y : Address16, x ≠ if y = x then 0 else y := by
    intro y hy
    split_ifs at hy with heq
    · exact hx hy
    · exact heq hy.symm
  rw [find_removeDeviceFromGraph] at hfind
  split_ifs at hfind
  obtain ⟨d, -, rfl⟩ := Option.map_eq_some_iff.mp hfind
  exact hexit.elim (hcleared _) (hcleared _)

theorem length_neighbors_lt (hp : d.prefered ≠ 0) : d.neighbors.length < 2 ↔ d.backup = 0 := by
  by_cases hb : d.backup = 0
  · rw [neighbors_of_single hp hb]
    simp [hb]
  · rw [neighbors_of_double hp hb]
    simp [hb]

theorem addEdges_eq_set {source : Address16} {destination : DoubleExitDestinations}
    (h : ¬(source = 0 ∨ destination.prefered = 0)) :
      ∃ d, (g.addEdges source destination).1 = g.set source d ∧ d.Proper ∧
      ∀ y, y ≠ 0 → (y ∈ d.neighbors ↔ y = destination.prefered ∨ y = destination.backup) := by
  rw [addEdges, if_neg h]
  refine ⟨_, rfl, ?_, fun y hy => ?_⟩
  · split_ifs with heq
    · exact .inl rfl
    · exact .inr ⟨(not_or.mp h).2, heq⟩
  · rw [← Subnet.mem_neighbors_of_or hy]
    split_ifs with heq
    · simp [hy, ← heq]
    · rfl

theorem lawful_addEdges (h : g.WellFormed) (source : Address16) (destination : DoubleExitDestinations) :
    g.Lawful (.addEdges source destination) ↔ g.Meets (.addEdges source destination) := by
  change WellFormed _ ∧ KeepsExits g _ ↔ source = 0 ∨ destination.prefered = 0 ∨ _
  by_cases hskip : source = 0 ∨ destination.prefered = 0
  · rw [addEdges, if_pos hskip]
    have hkeeps : g.KeepsExits g := fun a _ => List.Subset.refl _
    exact iff_of_true ⟨h, hkeeps⟩ (hskip.imp id .inl)
  · obtain ⟨hsource, hprefered⟩ := not_or.mp hskip
    obtain ⟨d, hset, hproper, hmem⟩ := addEdges_eq_set (g := g) hskip
    rw [hset]
    rw [or_iff_right hsource, or_iff_right hprefered, wellFormed_set h, keepsExits_set, and_iff_right hproper]
    rcases hfind : g.find source with _ | old
    · rw [out_eq_nil hfind]
      simp
    · rw [out_of_find hfind]
      have hold := h source old hfind
      by_cases hp : old.prefered = 0
      · have hb : old.backup = 0 := hold.resolve_right fun hproper => hproper.1 hp
        have hnil : old.neighbors = [] := by rw [neighbors_of_backup hp, if_neg (not_not_intro hb)]
        rw [hnil]
        simp [hp]
      · rw [length_neighbors_lt hp]
        simp only [Option.mem_some_iff, forall_eq', ne_eq, hp, not_false_eq_true, true_implies]
        refine imp_congr_right fun hb => ?_
        rw [neighbors_of_single hp hb, cons_subset, hmem _ hp]
        simp

theorem lawful_addEdge (h : g.WellFormed) (source destination : Address16) :
    g.Lawful (.addEdge source destination) := by
  change WellFormed _ ∧ KeepsExits g _
  unfold addEdge
  rcases hfind : g.find source with _ | d
  · refine ⟨(wellFormed_set h).mpr (.inl rfl), keepsExits_set.mpr ?_⟩
    rw [out_eq_nil hfind]
    simp
  · have hd := h source d hfind
    dsimp only
    split_ifs with hne hp
    · have hb : d.backup = 0 := hd.resolve_right fun hproper => hproper.1 hp
      refine ⟨(wellFormed_set h).mpr (.inl rfl), keepsExits_set.mpr ?_⟩
      rw [out_of_find hfind, neighbors_of_backup hp, if_neg (not_not_intro hb)]
      simp
    · refine ⟨(wellFormed_set h).mpr (.inr ⟨hp, hne⟩), keepsExits_set.mpr ?_⟩
      rw [out_of_find hfind, length_neighbors_lt hp]
      intro hb
      rw [neighbors_of_single hp hb, cons_subset, mem_neighbors]
      exact ⟨⟨hp, .inl rfl⟩, nil_subset _⟩
    · exact ⟨h, fun a _ => List.Subset.refl _⟩

theorem lawful_removeDeviceFromGraph (h : g.WellFormed) (device : Address16) :
    g.Lawful (.removeDeviceFromGraph device) ↔ g.Meets (.removeDeviceFromGraph device) := by
  change WellFormed _ ∧ Absent _ _ ↔ ∀ e ∈ g.entries, _
  rw [and_iff_left absent_removeDeviceFromGraph]
  constructor
  · rintro hwell ⟨a, d⟩ he hne hp
    have hproper := hwell a ⟨if d.prefered = device then 0 else d.prefered, if d.backup = device then 0 else d.backup⟩
      (by rw [find_removeDeviceFromGraph, if_neg (Ne.symm hne), mem_entries.mp he]; rfl)
    have hd := h a d (mem_entries.mp he)
    rw [if_pos hp] at hproper
    by_contra hb
    have hother : d.backup ≠ device := by
      rintro rfl
      exact (hd.resolve_left hb).2 hp
    rw [if_neg hother] at hproper
    exact hproper.elim hb fun hexit => hexit.1 rfl
  · intro hmeets a d' hfind
    rw [find_removeDeviceFromGraph] at hfind
    split_ifs at hfind with hne
    obtain ⟨d, hd, rfl⟩ := Option.map_eq_some_iff.mp hfind
    by_cases hp : d.prefered = device
    · have hb := hmeets (a, d) (mem_entries.mpr hd) (Ne.symm hne) hp
      refine .inl ?_
      rw [hb, ite_self]
    · by_cases hb : d.backup = device
      · exact .inl (if_pos hb)
      · unfold Proper
        rw [if_neg hp, if_neg hb]
        exact h a d hd

theorem lawful_existsEdge (src dst : Address16) : g.Lawful (.existsEdge src dst) ↔ g.Meets (.existsEdge src dst) := by
  change _ ∧ _ ↔ dst = 0 ∨ _
  unfold existsEdge
  by_cases hdst : dst = 0
  · rw [if_pos hdst]
    refine iff_of_true ⟨rfl, iff_of_false Bool.false_ne_true fun hmem => ?_⟩ (.inl hdst)
    exact (mem_getOutBoundEdges.mp hmem).1 hdst
  · rw [if_neg hdst, or_iff_right hdst]
    rcases hfind : g.find src with _ | d
    · rw [out_eq_nil hfind]
      simp
    · rw [out_of_find hfind, ← Subnet.mem_neighbors_of_or hdst]
      simp only [Option.mem_some_iff, forall_eq']
      by_cases hp : d.prefered = dst
      · rw [if_pos hp]
        simp [hp]
      · rw [if_neg hp]
        simp only [hp, false_or, true_iff]
        constructor
        · rintro ⟨-, hmem⟩
          exact (hmem.resolve_left (Ne.symm hp)).symm
        · rintro rfl
          exact ⟨set_of_find hfind, .inr rfl⟩

theorem lawful_query (h : g.WellFormed) (src dst : Address16) :
    g.Lawful (.query src dst) ↔ g.Meets (.query src dst) := by
  change _ ∧ _ ∧ _ ↔ dst ≠ 0 ∨ _
  unfold isBackupForDevice graphPasesThroughNode
  rw [mem_getInBoundEdges]
  rcases hfind : g.find src with _ | d
  · rw [out_eq_nil hfind]
    simp
  · have hpasses : d.prefered ≠ 0 ↔ d.neighbors ≠ [] := by
      by_cases hp : d.prefered = 0
      · have hb : d.backup = 0 := (h src d hfind).resolve_right fun hproper => hproper.1 hp
        rw [neighbors_of_backup hp, if_neg (not_not_intro hb)]
        simp [hp]
      · exact iff_of_true hp (ne_nil_of_mem (mem_neighbors.mpr ⟨hp, .inl rfl⟩))
    rw [out_of_find hfind]
    simp only [Option.some.injEq, exists_eq_left', Option.any_some, decide_eq_true_eq, Option.mem_some_iff,
      forall_eq', hpasses,
      and_true]
    by_cases hdst : dst = 0
    · simp only [hdst, mem_neighbors, ne_eq, not_true_eq_false, false_and, iff_false, imp_false, false_or, not_or]
      rw [eq_comm (a := (0 : Address16)), eq_comm (a := (0 : Address16))]
      tauto
    · rw [Subnet.mem_neighbors_of_or hdst]
      simp only [hdst, ne_eq, not_false_eq_true, true_or, iff_true, true_and]
      exact fun hb => (Subnet.mem_neighbors_of_or hdst).mp (.inr hb.symm)

theorem lawful_iff_meets (h : g.WellFormed) (e : Event) : g.Lawful e ↔ g.Meets e := by
  cases e with
  | addEdges source destination => exact lawful_addEdges h source destination
  | addEdge source destination => exact iff_of_true (lawful_addEdge h source destination) trivial
  | setDeviceDestination device destinations => exact wellFormed_set h
  | removeDeviceFromGraph device => exact lawful_removeDeviceFromGraph h device
  | existsEdge src dst => exact lawful_existsEdge src dst
  | query src dst => exact lawful_query h src dst

theorem Absent.set (h : g.Absent x) (hne : x ≠ a) (hmem : x ∉ d.neighbors) : Absent (set g a d) x := by
  refine ⟨by rw [find_set, if_neg (Ne.symm hne), h.1], fun b => ?_⟩
  rw [out_set]
  split_ifs
  · exact hmem
  · exact h.2 b

theorem Absent.addEdge (h : g.Absent x) {source destination : Address16} (hsource : x ≠ source)
    (hdest : x ≠ destination) :
    (g.addEdge source destination).Absent x := by
  have hfresh : x ∉ neighbors ⟨destination, 0⟩ := by
    rw [mem_neighbors]
    exact fun hmem => hmem.2.elim hdest hmem.1
  unfold Graph.addEdge
  rcases hfind : g.find source with _ | d
  · exact h.set hsource hfresh
  · dsimp only
    split_ifs
    · exact h.set hsource hfresh
    · refine h.set hsource fun hmem => ?_
      obtain ⟨hx, hexit⟩ := mem_neighbors.mp hmem
      exact h.2 source (mem_getOutBoundEdges.mpr ⟨hx, d, hfind, .inl (hexit.resolve_right hdest)⟩)
    · exact h

theorem Absent.removeDeviceFromGraph (h : g.Absent x) (device : Address16) :
    (g.removeDeviceFromGraph device).Absent x := by
  refine ⟨?_, fun a hmem => ?_⟩
  · rw [find_removeDeviceFromGraph, h.1, Option.map_none, ite_self]
  · obtain ⟨hx, d', hfind, hexit⟩ := mem_getOutBoundEdges.mp hmem
    rw [find_removeDeviceFromGraph] at hfind
    split_ifs at hfind
    obtain ⟨d, hd, rfl⟩ := Option.map_eq_some_iff.mp hfind
    have hold : ∀ y : Address16, (x = if y = device then 0 else y) → x = y := by
      intro y hy
      split_ifs at hy
      · exact absurd hy hx
      · exact hy
    exact h.2 a (mem_getOutBoundEdges.mpr ⟨hx, d, hd, hexit.imp (hold _) (hold _)⟩)

theorem Absent.apply (h : g.Absent x) {e : Event} (hok : g.Meets e) (hnamed : x ∉ e.named) : (g.apply e).Absent x := by
  cases e with
  | addEdges source destination =>
    change (g.addEdges source destination).1.Absent x
    by_cases hskip : source = 0 ∨ destination.prefered = 0
    · rwa [addEdges, if_pos hskip]
    · obtain ⟨d, hset, -, hmem⟩ := addEdges_eq_set (g := g) hskip
      rw [Event.named, if_neg hskip] at hnamed
      obtain ⟨hsource, hexits⟩ := ne_and_not_mem_of_not_mem_cons hnamed
      rw [hset]
      refine h.set hsource fun hd => ?_
      have hx := (mem_neighbors.mp hd).1
      exact hexits ((Subnet.mem_neighbors_of_or hx).mp ((hmem x hx).mp hd))
  | addEdge source destination =>
    obtain ⟨hsource, hdest⟩ := ne_and_not_mem_of_not_mem_cons hnamed
    exact h.addEdge hsource (ne_of_not_mem_cons hdest)
  | setDeviceDestination device destinations =>
    obtain ⟨hdevice, hexits⟩ := ne_and_not_mem_of_not_mem_cons hnamed
    exact h.set hdevice hexits
  | removeDeviceFromGraph device => exact h.removeDeviceFromGraph device
  | existsEdge src dst =>
    change (g.existsEdge src dst).2.Absent x
    rwa [((lawful_existsEdge src dst).mpr hok).1]
  | query src dst => exact h

theorem WellFormed.apply (h : g.WellFormed) {e : Event} (hok : g.Meets e) : (g.apply e).WellFormed := by
  have hlawful := (lawful_iff_meets h e).mpr hok
  cases e with
  | addEdges source destination => exact hlawful.1
  | addEdge source destination => exact hlawful.1
  | setDeviceDestination device destinations => exact hlawful
  | removeDeviceFromGraph device => exact hlawful.1
  | existsEdge src dst =>
    change (g.existsEdge src dst).2.WellFormed
    rwa [hlawful.1]
  | query src dst => exact h

/-- In every run whose operations meet the condition each node has proper exits, no edge refers to a device that was
removed, and the next operation is lawful exactly if it meets the condition. -/
theorem operations_lawful {s : Graph × List Address16} (h : Machine.Reachable start step (fun s e => s.1.Meets e) s) :
    s.1.WellFormed ∧ (∀ x ∈ s.2, s.1.Absent x) ∧ ∀ e, s.1.Lawful e ↔ s.1.Meets e := by
  have hinv : s.1.WellFormed ∧ ∀ x ∈ s.2, s.1.Absent x := by
    apply h.invariant (P := fun s => s.1.WellFormed ∧ ∀ x ∈ s.2, s.1.Absent x)
    · exact ⟨fun _ _ hfind => (nomatch hfind), fun _ hmem => (nomatch hmem)⟩
    · rintro ⟨g, removed⟩ e ⟨hwell, habsent⟩ hok
      refine ⟨hwell.apply hok, fun x hx => ?_⟩
      cases e with
      | removeDeviceFromGraph device =>
        obtain rfl | hx := mem_cons.mp hx
        · exact absent_removeDeviceFromGraph
        · exact (habsent x hx).removeDeviceFromGraph device
      | _ =>
        obtain ⟨hx, hnamed⟩ := mem_filter.mp hx
        exact (habsent x hx).apply hok (of_decide_eq_true hnamed)
  exact ⟨hinv.1, hinv.2, lawful_iff_meets hinv.1⟩

def rerouting : List Event :=
  [.addEdge 5 6, .addEdge 5 7, .addEdges 8 ⟨5, 5⟩, .removeDeviceFromGraph 7, .existsEdge 5 6, .query 8 5]

theorem operations_lawful_rerouting : (Machine.run step start rerouting).2 = [7] ∧
      (Machine.run step start rerouting).1.WellFormed :=
  have halong : Machine.Along (fun s e => s.1.Meets e) step start rerouting := by decide
  ⟨by decide, (operations_lawful (Machine.reachable_run halong)).1⟩

/-- Asked for an edge to 9, the graph of the one edge from 5 to 6 answers that it has it, and writes it. -/
theorem existsEdge_writes_backup : ∃ s : Graph × List Address16, Machine.Reachable start step (fun _ _ => True) s ∧
    ¬ s.1.Lawful (.existsEdge 5 9) ∧ (s.1.existsEdge 5 9).2.find 5 = some ⟨6, 9⟩ := by
  refine ⟨_, .step (.addEdge 5 6) .init trivial, fun hlawful => ?_, by decide⟩
  have hmeets := (lawful_existsEdge 5 9).mp hlawful
  revert hmeets
  decide

end Graph

end Isa100Gateway.NetworkEngine
