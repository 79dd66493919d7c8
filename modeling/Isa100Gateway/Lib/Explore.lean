import Isa100Gateway.Lib.Chains
import Mathlib.Data.Finset.Sort
import Mathlib.Order.WellFoundedSet

/-!
# Visiting the nodes of a graph

What a search that marks the nodes it has visited does to its marks: it keeps them, each new mark is on a node that is reached, and the successors of a newly marked node are marked when the search is done. A search that starts without marks has then marked exactly what is reached. The second part is about relations in which every way on leads to one node.
-/

open Relation

namespace Explore

variable {α : Type*}

/-- From the marks `visited` to the marks `visited'`, where only nodes that satisfy `reached` are marked. -/
structure Explores (next : α → α → Prop) (reached : α → Prop) (visited visited' : List α) : Prop where
  mono : ∀ a ∈ visited, a ∈ visited'
  reached : ∀ a ∈ visited', a ∉ visited → reached a
  closed : ∀ a ∈ visited', a ∉ visited → ∀ b, next a b → b ∈ visited'

variable {next : α → α → Prop} {reached reached' : α → Prop} {visited visited' visited'' : List α}

theorem Explores.refl (visited : List α) : Explores next reached visited visited :=
  ⟨fun _ ha => ha, fun _ ha hnot => absurd ha hnot, fun _ ha hnot => absurd ha hnot⟩

theorem Explores.of_same (h : ∀ a, a ∈ visited' ↔ a ∈ visited) : Explores next reached visited visited' :=
  ⟨fun a ha => (h a).mpr ha, fun a ha hnot => absurd ((h a).mp ha) hnot, fun a ha hnot => absurd ((h a).mp ha) hnot⟩

theorem Explores.weaken (h : Explores next reached visited visited') (hle : ∀ a, reached a → reached' a) :
    Explores next reached' visited visited' :=
  ⟨h.mono, fun a ha hnot => hle a (h.reached a ha hnot), h.closed⟩

theorem Explores.trans (h : Explores next reached visited visited') (h' : Explores next reached visited' visited'') :
    Explores next reached visited visited'' := by
  refine ⟨fun a ha => h'.mono a (h.mono a ha), fun a ha hnot => ?_, fun a ha hnot b hab => ?_⟩
  · by_cases hmid : a ∈ visited'
    · exact h.reached a hmid hnot
    · exact h'.reached a ha hmid
  · by_cases hmid : a ∈ visited'
    · exact h'.mono b (h.closed a hmid hnot b hab)
    · exact h'.closed a ha hmid b hab

theorem Explores.enter {n : α} (hreached : reached n) (h : Explores next reached (n :: visited) visited')
    (hnext : ∀ b, next n b → b ∈ visited') : Explores next reached visited visited' := by
  refine ⟨fun a ha => h.mono a (List.mem_cons_of_mem n ha), fun a ha hnot => ?_, fun a ha hnot b hab => ?_⟩
  · by_cases heq : a = n
    · exact heq ▸ hreached
    · exact h.reached a ha (List.not_mem_cons_of_ne_of_not_mem heq hnot)
  · by_cases heq : a = n
    · exact hnext b (heq ▸ hab)
    · exact h.closed a ha (List.not_mem_cons_of_ne_of_not_mem heq hnot) b hab

theorem Explores.complete (h : Explores next reached visited visited')
    (hclosed : ∀ a ∈ visited, ∀ b, next a b → b ∈ visited') {a b : α} (ha : a ∈ visited')
      (hpath : ReflTransGen next a b) :
    b ∈ visited' := by
  induction hpath with
  | refl => exact ha
  | @tail b c _ hstep ih =>
    by_cases hold : b ∈ visited
    · exact hclosed b hold c hstep
    · exact h.closed b ih hold c hstep

def remaining [DecidableEq α] (nodes : Finset α) (visited : List α) : Nat := (nodes \ visited.toFinset).card

variable [DecidableEq α] {nodes : Finset α}

theorem remaining_le_of_mono (nodes : Finset α) (h : ∀ a ∈ visited, a ∈ visited') :
    remaining nodes visited' ≤ remaining nodes visited := by
  refine Finset.card_le_card (Finset.sdiff_subset_sdiff subset_rfl fun a ha => ?_)
  exact List.mem_toFinset.mpr (h a (List.mem_toFinset.mp ha))

theorem remaining_cons_lt {n : α} (hn : n ∈ nodes) (hnew : n ∉ visited) :
    remaining nodes (n :: visited) < remaining nodes visited := by
  refine Finset.card_lt_card (Finset.ssubset_iff_subset_ne.mpr ⟨?_, fun heq => ?_⟩)
  · refine Finset.sdiff_subset_sdiff subset_rfl fun a ha => ?_
    exact List.mem_toFinset.mpr (List.mem_cons_of_mem n (List.mem_toFinset.mp ha))
  · have hleft : n ∈ nodes \ visited.toFinset :=
      Finset.mem_sdiff.mpr ⟨hn, fun hmem => hnew (List.mem_toFinset.mp hmem)⟩
    rw [← heq] at hleft
    exact (Finset.mem_sdiff.mp hleft).2 (List.mem_toFinset.mpr List.mem_cons_self)

theorem remaining_le_card (nodes : Finset α) (visited : List α) : remaining nodes visited ≤ nodes.card :=
  Finset.card_le_card Finset.sdiff_subset

end Explore

namespace Chains

variable {α : Type*} {r : α → α → Prop} {target : α}

inductive AlwaysLeads (r : α → α → Prop) (target : α) : α → Prop
  | here : AlwaysLeads r target target
  | step {a : α} (go : ∃ b, r a b) (rest : ∀ b, r a b → AlwaysLeads r target b) : AlwaysLeads r target a

theorem alwaysLeads_of_acyclic (h : Acyclic r) (nodes : Finset α) (hgo : ∀ a ∈ nodes, ∃ b, r a b)
    (hclosed : ∀ a ∈ nodes, ∀ b, r a b → b = target ∨ b ∈ nodes) {a : α} (ha : a ∈ nodes) : AlwaysLeads r target a := by
  have hstrict : IsStrictOrder α fun b a => TransGen r a b :=
    { irrefl := h
      trans := fun _ _ _ hab hbc => hbc.trans hab }
  have hwf := @Finset.wellFoundedOn α _ hstrict nodes
  refine hwf.induction ha fun a ha ih => ?_
  refine .step (hgo a ha) fun b hab => ?_
  obtain rfl | hb := hclosed a ha b hab
  · exact .here
  · exact ih b hb (.single hab)

end Chains
