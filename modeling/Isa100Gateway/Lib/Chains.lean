import Mathlib.Logic.Relation
import Mathlib.Data.Finset.Card
import Mathlib.Data.Finset.Dedup

/-!
# Acyclic relations and chains of links

Relations without directed cycles, and what may be added to them: an edge to a node from which its source is not reached, and a source that nothing leads to. Where every node has at most one link, the chain from a node is followed step by step; in a finite set of nodes without cycles, every chain ends.
-/

open Relation

namespace Chains

variable {α : Type*}

def Acyclic (r : α → α → Prop) : Prop := ∀ a, ¬TransGen r a a

variable {r r' : α → α → Prop}

theorem Acyclic.mono (h : Acyclic r) (hle : ∀ a b, r' a b → r a b) : Acyclic r' :=
  fun a hcycle => h a (TransGen.mono hle a a hcycle)

theorem Acyclic.of_level (level : α → Nat) (h : ∀ a b, r a b → level b < level a) : Acyclic r := by
  intro a hcycle
  have hdown : ∀ b, TransGen r a b → level b < level a := by
    intro b hpath
    induction hpath with
    | single hstep => exact h _ _ hstep
    | tail _ hstep ih => exact (h _ _ hstep).trans ih
  exact Nat.lt_irrefl _ (hdown a hcycle)

def withEdge (r : α → α → Prop) (source target : α) : α → α → Prop :=
  fun a b => r a b ∨ a = source ∧ b = target

theorem transGen_withEdge {source target a b : α} (h : TransGen (withEdge r source target) a b) :
    TransGen r a b ∨ ReflTransGen r a source ∧ (ReflTransGen r target b) := by
  induction h with
  | single hstep =>
    obtain hold | ⟨rfl, rfl⟩ := hstep
    · exact .inl (.single hold)
    · exact .inr ⟨.refl, .refl⟩
  | tail _ hstep ih =>
    obtain hold | ⟨rfl, rfl⟩ := hstep
    · exact ih.imp (·.tail hold) fun hpath => ⟨hpath.1, hpath.2.tail hold⟩
    · exact .inr ⟨ih.elim TransGen.to_reflTransGen And.left, .refl⟩

theorem Acyclic.withEdge (h : Acyclic r) {source target : α} (hnot : ¬ReflTransGen r target source) :
    Acyclic (withEdge r source target) := by
  intro a hcycle
  obtain hold | ⟨hsource, htarget⟩ := transGen_withEdge hcycle
  · exact h a hold
  · exact hnot (htarget.trans hsource)

theorem reflTransGen_of_agree {target a : α} (h : ∀ a b, a ≠ target → r a b → r' a b)
    (hpath : ReflTransGen r a target) :
    ReflTransGen r' a target := by
  induction hpath using ReflTransGen.head_induction_on with
  | refl => exact .refl
  | @head a b hstep _ ih =>
    by_cases heq : a = target
    · rw [heq]
    · exact .head (h a b heq hstep) ih

def climb (link : α → Option α) : Nat → α → Option α
  | 0, a => some a
  | k + 1, a => (link a).bind (climb link k)

variable {link : α → Option α} {a b : α} {j k : Nat} {s : Finset α}

theorem climb_succ_of_link (h : link a = some b) (k : Nat) : climb link (k + 1) a = climb link k b := by
  rw [climb, h]
  rfl

theorem climb_succ_of_end (h : link a = none) (k : Nat) : climb link (k + 1) a = none := by
  rw [climb, h]
  rfl

theorem climb_add : ∀ {a b : α}, climb link j a = some b → climb link (j + k) a = climb link k b := by
  induction j with
  | zero =>
    intro a b h
    cases h
    rw [Nat.zero_add]
  | succ j ih =>
    intro a b h
    rw [Nat.add_right_comm]
    rcases hlink : link a with _ | c
    · rw [climb_succ_of_end hlink] at h
      cases h
    · rw [climb_succ_of_link hlink] at h ⊢
      exact ih h

theorem link_isSome_of_climb (h : (climb link k a).isSome) (hj : j < k)
    (hb : climb link j a = some b) : (link b).isSome := by
  rcases hlink : link b with _ | c
  · have hend := climb_add (k := k - j) hb
    rw [show k - j = (k - j - 1) + 1 by omega, climb_succ_of_end hlink, show j + (k - j - 1 + 1) = k by omega] at hend
    rw [hend] at h
    cases h
  · rfl

theorem climb_isSome_of_le : ∀ {a : α}, (climb link k a).isSome → j ≤ k → (climb link j a).isSome := by
  induction j generalizing k with
  | zero => exact fun _ _ => rfl
  | succ j ih =>
    intro a h hj
    obtain ⟨k, rfl⟩ : ∃ k', k = k' + 1 := ⟨k - 1, by omega⟩
    rcases hlink : link a with _ | b
    · rw [climb_succ_of_end hlink] at h
      cases h
    · rw [climb_succ_of_link hlink] at h ⊢
      exact ih h (by omega)

theorem climb_rounds (h : climb link k a = some a) (m : Nat) : climb link (m * k) a = some a := by
  induction m with
  | zero => rw [Nat.zero_mul]; rfl
  | succ m ih => rw [Nat.succ_mul, climb_add ih, h]

theorem exists_return_of_card_lt (hs : ∀ a, (link a).isSome → a ∈ s)
    (hk : s.card < k) (hgoes : (climb link k a).isSome) :
    ∃ b i j, 0 < j ∧ climb link i a = some b ∧ climb link j b = some b := by
  have hnode : ∀ i, i ≤ k → ∃ b, climb link i a = some b :=
    fun i hi => Option.isSome_iff_exists.mp (climb_isSome_of_le hgoes hi)
  have : Nonempty α := ⟨a⟩
  choose! node hnode using hnode
  have hmaps : ∀ i ∈ Finset.range k, node i ∈ s := by
    intro i hi
    have hi := Finset.mem_range.mp hi
    exact hs _ (link_isSome_of_climb hgoes hi (hnode i hi.le))
  obtain ⟨i, hi, j, hj, hne, hsame⟩ :=
    Finset.exists_ne_map_eq_of_card_lt_of_maps_to (by rwa [Finset.card_range]) hmaps
  have hreturn : ∀ i j, i < j → j < k → node i = node j →
      ∃ b i j, 0 < j ∧ climb link i a = some b ∧ climb link j b = some b := by
    intro i j hij hj hsame
    refine ⟨node i, i, j - i, by omega, hnode i (by omega), ?_⟩
    have hrest := climb_add (k := j - i) (hnode i (by omega))
    rw [show i + (j - i) = j by omega, hnode j hj.le] at hrest
    rw [← hrest, hsame]
  have hi := Finset.mem_range.mp hi
  have hj := Finset.mem_range.mp hj
  obtain hlt | hlt := Nat.lt_or_gt_of_ne hne
  · exact hreturn i j hlt hj hsame
  · exact hreturn j i hlt hi hsame.symm

theorem climb_eq_none_of_card_lt (hs : ∀ a, (link a).isSome → a ∈ s)
    (hcycle : ∀ a k, 0 < k → climb link k a ≠ some a) (hk : s.card < k) (a : α) : climb link k a = none := by
  by_contra hsome
  obtain ⟨b, i, j, hj, -, hloop⟩ := exists_return_of_card_lt hs hk (Option.isSome_iff_ne_none.mpr hsome)
  exact hcycle b j hj hloop

theorem climb_eq_none_of_ends (hs : ∀ a, (link a).isSome → a ∈ s) {k n : Nat}
    (hk : s.card < k) (hend : climb link n a = none) : climb link k a = none := by
  by_contra hsome
  obtain ⟨b, i, j, hj, hb, hloop⟩ := exists_return_of_card_lt hs hk (Option.isSome_iff_ne_none.mpr hsome)
  have hgoes : (climb link (i + n * j) a).isSome := by
    rw [climb_add hb, climb_rounds hloop]
    rfl
  have hle : n ≤ i + n * j := by
    calc n = n * 1 := (Nat.mul_one n).symm
      _ ≤ n * j := Nat.mul_le_mul_left n hj
      _ ≤ i + n * j := Nat.le_add_left ..
  have hshort := climb_isSome_of_le hgoes hle
  rw [hend] at hshort
  cases hshort

theorem climb_ne_self_of_end {a root : α} {n : Nat} (hlead : climb link n a = some root) (hroot : link root = none)
    (hk : 0 < k) : climb link k a ≠ some a := by
  intro hloop
  have hbeyond : climb link (n + 1) a = none := by
    rw [climb_add hlead, climb_succ_of_end hroot]
  have hgoes : (climb link ((n + 1) * k) a).isSome := by
    rw [climb_rounds hloop]
    rfl
  have hshort := climb_isSome_of_le hgoes (Nat.le_mul_of_pos_right (n + 1) hk)
  rw [hbeyond] at hshort
  cases hshort

theorem reflTransGen_of_climb : ∀ {a b : α}, climb link k a = some b →
    ReflTransGen (fun x y => link x = some y) a b := by
  induction k with
  | zero =>
    intro a b h
    cases h
    exact .refl
  | succ k ih =>
    intro a b h
    rcases hlink : link a with _ | c
    · rw [climb_succ_of_end hlink] at h
      cases h
    · rw [climb_succ_of_link hlink] at h
      exact .head hlink (ih h)

theorem transGen_of_climb (hk : 0 < k) (h : climb link k a = some b) : TransGen (fun x y => link x = some y) a b := by
  obtain ⟨k, rfl⟩ : ∃ k', k = k' + 1 := ⟨k - 1, by omega⟩
  rcases hlink : link a with _ | c
  · rw [climb_succ_of_end hlink] at h
    cases h
  · rw [climb_succ_of_link hlink] at h
    exact TransGen.head' hlink (reflTransGen_of_climb h)

end Chains
