import Mathlib.Data.Tree.Basic
import Mathlib.Data.Set.Basic
import Mathlib.Order.Defs.Unbundled

/-!
# Ordered maps over search trees

The tree below an ordered map of the C++ library: a search and an insertion go down from the root by the comparison of the map, and an iterator is a place in the sequence of the elements. The comparison is any function; `find_eq_some_iff` and `insertUnique_spec` say what the operations do where it is a strict weak order on the keys in use. How the tree keeps its balance is a parameter.
-/

namespace SearchTree

open BinaryTree List

variable {κ α : Type*}

def inorder : BinaryTree α → List α
  | .nil => []
  | .node a l r => inorder l ++ a :: inorder r

theorem length_inorder (t : BinaryTree α) : (inorder t).length = t.numNodes := by
  induction t with
  | nil => rfl
  | node a l r ihl ihr =>
    rw [inorder, length_append, length_cons, ihl, ihr, numNodes]
    omega

section Operations

variable (lt : κ → κ → Bool) (key : α → κ)

/-- The way down to the first element that is not below `k`. `first` is the place of the first element of the subtree, `bound` the best element so far. -/
def lowerBound (k : κ) : BinaryTree α → Nat → Option Nat → Option Nat
  | .nil, _, bound => bound
  | .node a l r, first, bound =>
    if lt (key a) k then lowerBound k r (first + l.numNodes + 1) bound
    else lowerBound k l first (some (first + l.numNodes))

/-- `find`: the place of an element that is neither above nor below `k`; `none` is the end. -/
def find (k : κ) (t : BinaryTree α) : Option Nat :=
  (lowerBound lt key k t 0 none).filter fun i => (inorder t)[i]?.any fun a => !lt k (key a)

/-- `insert`: the place of the element, and the tree with the new leaf unless the element before its place is not below it. `before` is that element. -/
def insertUnique (x : α) : BinaryTree α → Nat → Option α → Nat × Option (BinaryTree α)
  | .nil, first, none => (first, some (.node x .nil .nil))
  | .nil, first, some a =>
    if lt (key a) (key x) then (first, some (.node x .nil .nil)) else (first - 1, none)
  | .node a l r, first, before =>
    if lt (key x) (key a) then
      ((insertUnique x l first before).1, (insertUnique x l first before).2.map fun l => .node a l r)
    else
      ((insertUnique x r (first + l.numNodes + 1) (some a)).1,
        (insertUnique x r (first + l.numNodes + 1) (some a)).2.map fun r => .node a l r)

end Operations

def modify (f : α → α) : BinaryTree α → Nat → BinaryTree α
  | .nil, _ => .nil
  | .node a l r, i =>
    if i < l.numNodes then .node a (modify f l i) r
    else if i = l.numNodes then .node (f a) l r
    else .node a l (modify f r (i - (l.numNodes + 1)))

theorem inorder_modify (f : α → α) (t : BinaryTree α) (i : Nat) :
    inorder (modify f t i) = (inorder t).modify i f := by
  induction t generalizing i with
  | nil => exact (modify_nil f i).symm
  | node a l r ihl ihr =>
    have hlength := length_inorder l
    rw [modify, inorder]
    split
    · rw [inorder, ihl]
      apply ext_getElem?
      grind
    split
    · rw [inorder]
      apply ext_getElem?
      grind
    · rw [inorder, ihr]
      apply ext_getElem?
      grind

/-- What becomes of the tree after an insertion and after the removal of the element at a place. Two elements need no balancing. -/
structure Rebalancing (α : Type*) where
  inserted : BinaryTree α → BinaryTree α
  erased : BinaryTree α → Nat → BinaryTree α
  inorder_inserted : ∀ t, inorder (inserted t) = inorder t
  inorder_erased : ∀ t i, inorder (erased t i) = (inorder t).eraseIdx i
  inserted_small : ∀ t, t.numNodes ≤ 2 → inserted t = t

def ofList : List α → BinaryTree α
  | [] => .nil
  | a :: as => .node a .nil (ofList as)

theorem inorder_ofList (as : List α) : inorder (ofList as) = as := by
  induction as with
  | nil => rfl
  | cons a as ih => rw [ofList, inorder, ih, inorder, nil_append]

def Rebalancing.plain : Rebalancing α where
  inserted t := t
  erased t i := ofList ((inorder t).eraseIdx i)
  inorder_inserted _ := rfl
  inorder_erased _ _ := inorder_ofList _
  inserted_small _ _ := rfl

theorem insertUnique_place {lt : κ → κ → Bool} {key : α → κ} {x : α} {t t' : BinaryTree α} {first : Nat}
    {before : Option α} (h : (insertUnique lt key x t first before).2 = some t') :
    ∃ i, (insertUnique lt key x t first before).1 = first + i ∧ (inorder t')[i]? = some x := by
  induction t generalizing first before t' with
  | nil =>
    cases before with
    | none =>
      cases h
      exact ⟨0, rfl, rfl⟩
    | some a =>
      simp only [insertUnique] at h ⊢
      split at h
      · rename_i hlt
        cases h
        exact ⟨0, by rw [if_pos hlt]; rfl, rfl⟩
      · cases h
  | node a l r ihl ihr =>
    simp only [insertUnique] at h ⊢
    split at h
    · rename_i hlt
      obtain ⟨l', hl, rfl⟩ := Option.map_eq_some_iff.mp h
      obtain ⟨i, hplace, hget⟩ := ihl hl
      refine ⟨i, by rw [if_pos hlt]; exact hplace, ?_⟩
      rw [inorder, List.getElem?_append_left (List.getElem?_eq_some_iff.mp hget).1]
      exact hget
    · rename_i hlt
      obtain ⟨r', hr, rfl⟩ := Option.map_eq_some_iff.mp h
      obtain ⟨i, hplace, hget⟩ := ihr hr
      refine ⟨l.numNodes + 1 + i, ?_, ?_⟩
      · rw [if_neg hlt]
        exact hplace.trans (by omega)
      · have hlength := length_inorder l
        rw [inorder, getElem?_append_right (by omega), hlength,
          show l.numNodes + 1 + i - l.numNodes = i + 1 by omega, getElem?_cons_succ]
        exact hget

/-- The comparison is a strict weak order on the keys in `S`. -/
abbrev OrdersOn (lt : κ → κ → Bool) (S : Set κ) : Prop := IsStrictWeakOrder S fun a b => lt a b = true

def Equivalent (lt : κ → κ → Bool) (a b : κ) : Prop := lt a b = false ∧ lt b a = false

section Order

variable {lt : κ → κ → Bool} {S : Set κ} {a b c : κ}

theorem OrdersOn.irrefl (h : OrdersOn lt S) (ha : a ∈ S) : lt a a = false :=
  Bool.eq_false_of_not_eq_true (h.toIrrefl.irrefl ⟨a, ha⟩)

theorem OrdersOn.trans (h : OrdersOn lt S) (ha : a ∈ S) (hb : b ∈ S) (hc : c ∈ S) (hab : lt a b = true)
    (hbc : lt b c = true) : lt a c = true :=
  h.toIsTrans.trans ⟨a, ha⟩ ⟨b, hb⟩ ⟨c, hc⟩ hab hbc

theorem OrdersOn.asymm (h : OrdersOn lt S) (ha : a ∈ S) (hb : b ∈ S) (hab : lt a b = true) : lt b a = false := by
  by_contra hba
  have haa := h.trans ha hb ha hab (by simpa using hba)
  rw [h.irrefl ha] at haa
  exact nomatch haa

theorem OrdersOn.lt_of_lt_of_not (h : OrdersOn lt S) (ha : a ∈ S) (hb : b ∈ S) (hc : c ∈ S)
    (hac : lt a c = true) (hbc : lt b c = false) : lt a b = true := by
  by_contra hab
  have hba : ¬ lt b a = true := by
    intro hba
    have := h.trans hb ha hc hba hac
    rw [hbc] at this
    exact nomatch this
  have hcb : ¬ lt c b = true := fun hcb => hab (h.trans ha hc hb hac hcb)
  have hbc' : ¬ lt b c = true := by simp [hbc]
  exact (h.incomp_trans ⟨a, ha⟩ ⟨b, hb⟩ ⟨c, hc⟩ ⟨hab, hba⟩ ⟨hbc', hcb⟩).1 hac

end Order

section Sorted

variable {lt : κ → κ → Bool} {key : α → κ} {S : Set κ} {k : κ} {x a : α} {t l r : BinaryTree α}

structure Sorted (lt : κ → κ → Bool) (key : α → κ) (S : Set κ) (as : List α) : Prop where
  mem : ∀ a ∈ as, key a ∈ S
  pairwise : as.Pairwise fun a b => lt (key a) (key b) = true

section

variable (h : Sorted lt key S (inorder (.node a l r)))
include h

theorem Sorted.left : Sorted lt key S (inorder l) where
  mem b hb := h.mem b (mem_append_left _ hb)
  pairwise := (pairwise_append.mp h.pairwise).1

theorem Sorted.right : Sorted lt key S (inorder r) where
  mem b hb := h.mem b (mem_append_right _ (mem_cons_of_mem _ hb))
  pairwise := (pairwise_cons.mp (pairwise_append.mp h.pairwise).2.1).2

theorem Sorted.root : key a ∈ S :=
  h.mem a (mem_append_right _ mem_cons_self)

theorem Sorted.left_lt {b : α} (hb : b ∈ inorder l) : lt (key b) (key a) = true :=
  (pairwise_append.mp h.pairwise).2.2 b hb a mem_cons_self

theorem Sorted.lt_right {b : α} (hb : b ∈ inorder r) : lt (key a) (key b) = true :=
  (pairwise_cons.mp (pairwise_append.mp h.pairwise).2.1).1 b hb

end

theorem lowerBound_eq (hlt : OrdersOn lt S) (h : Sorted lt key S (inorder t)) (hk : k ∈ S) (first : Nat)
    (bound : Option Nat) : lowerBound lt key k t first bound =
      (((inorder t).findIdx? fun a => !lt (key a) k).map (first + ·)).or bound := by
  induction t generalizing first bound with
  | nil => rfl
  | node a l r ihl ihr =>
    rw [lowerBound, inorder, findIdx?_append, findIdx?_cons, length_inorder]
    by_cases ha : lt (key a) k = true
    · have hleft : ((inorder l).findIdx? fun a => !lt (key a) k) = none := by
        rw [findIdx?_eq_none_iff]
        intro b hb
        rw [hlt.trans (h.left.mem b hb) h.root hk (h.left_lt hb) ha]
        rfl
      rw [if_pos ha, ihr h.right, hleft, ha]
      simp only [Bool.not_true, Option.none_or, Bool.false_eq_true, if_false]
      cases (inorder r).findIdx? fun a => !lt (key a) k with
      | none => rfl
      | some i =>
        simp only [Option.map_some, Option.some_or, Option.some.injEq]
        omega
    · rw [if_neg ha, ihl h.left, Bool.eq_false_of_not_eq_true ha]
      simp only [Bool.not_false, if_true]
      cases (inorder l).findIdx? fun a => !lt (key a) k with
      | none => simp
      | some i => rfl

theorem find_eq_some_iff (hlt : OrdersOn lt S) (h : Sorted lt key S (inorder t)) (hk : k ∈ S) {i : Nat} :
    find lt key k t = some i ↔ ∃ a, (inorder t)[i]? = some a ∧ Equivalent lt (key a) k := by
  rw [find, lowerBound_eq hlt h hk, Option.or_none, Option.filter_eq_some_iff, Option.map_eq_some_iff]
  constructor
  · rintro ⟨⟨j, hfind, rfl⟩, habove⟩
    rw [Nat.zero_add] at habove ⊢
    obtain ⟨hj, hbelow, -⟩ := findIdx?_eq_some_iff_getElem.mp hfind
    rw [getElem?_eq_getElem hj, Option.any_some] at habove
    exact ⟨_, getElem?_eq_getElem hj, by simpa using hbelow, by simpa using habove⟩
  · rintro ⟨a, hget, hbelow, habove⟩
    obtain ⟨hi, rfl⟩ := List.getElem?_eq_some_iff.mp hget
    refine ⟨⟨i, ?_, Nat.zero_add i⟩, ?_⟩
    · refine findIdx?_eq_some_iff_getElem.mpr ⟨hi, by simp [hbelow], ?_⟩
      intro j hj
      have hji := pairwise_iff_getElem.mp h.pairwise j i (hj.trans hi) hi hj
      have hlow := hlt.lt_of_lt_of_not (h.mem _ (getElem_mem (hj.trans hi))) hk
        (h.mem _ (getElem_mem hi)) hji habove
      simp [hlow]
    · rw [hget, Option.any_some, habove]
      rfl

/-- `before`, the element before the place of a subtree, is not above `x`, and below the subtree. -/
def Precedes (lt : κ → κ → Bool) (key : α → κ) (S : Set κ) (x : α) (before : Option α) (as : List α) : Prop :=
  ∀ p ∈ before, key p ∈ S ∧ lt (key x) (key p) = false ∧ ∀ a ∈ as, lt (key p) (key a) = true

/-- The tree `t'` has `x` between the lower and the higher elements of `t`, and `before` is lower as well. -/
def Placed (lt : κ → κ → Bool) (key : α → κ) (x : α) (before : Option α) (t t' : BinaryTree α) : Prop :=
  ∃ low high, inorder t = low ++ high ∧ inorder t' = low ++ x :: high ∧
    (∀ a ∈ before.toList ++ low, lt (key a) (key x) = true) ∧ ∀ a ∈ high, lt (key x) (key a) = true

theorem Placed.left (hlt : OrdersOn lt S) (h : Sorted lt key S (inorder (.node a l r))) (hx : key x ∈ S)
    (hxa : lt (key x) (key a) = true) {before : Option α} {t' : BinaryTree α}
    (hplaced : Placed lt key x before l t') : Placed lt key x before (.node a l r) (.node a t' r) := by
  obtain ⟨low, high, hsplit, hin, hlow, hhigh⟩ := hplaced
  refine ⟨low, high ++ a :: inorder r, ?_, ?_, hlow, ?_⟩
  · rw [inorder, hsplit, append_assoc]
  · rw [inorder, hin, append_assoc, cons_append]
  · intro b hb
    rcases mem_append.mp hb with hb | hb
    · exact hhigh b hb
    rcases mem_cons.mp hb with rfl | hb
    · exact hxa
    · exact hlt.trans hx h.root (h.right.mem b hb) hxa (h.lt_right hb)

theorem Placed.right (hlt : OrdersOn lt S) (h : Sorted lt key S (inorder (.node a l r))) (hx : key x ∈ S)
    {before : Option α} (hbefore : Precedes lt key S x before (inorder (.node a l r)))
    {t' : BinaryTree α} (hplaced : Placed lt key x (some a) r t') :
    Placed lt key x before (.node a l r) (.node a l t') := by
  obtain ⟨low, high, hsplit, hin, hlow, hhigh⟩ := hplaced
  have hax : lt (key a) (key x) = true := hlow a mem_cons_self
  refine ⟨inorder l ++ a :: low, high, ?_, ?_, ?_, hhigh⟩
  · rw [inorder, hsplit, append_assoc, cons_append]
  · rw [inorder, hin, append_assoc, cons_append]
  · intro b hb
    rcases mem_append.mp hb with hb | hb
    · obtain ⟨hb', -, hbelow⟩ := hbefore b (Option.mem_toList.mp hb)
      exact hlt.trans hb' h.root hx (hbelow a (mem_append_right _ mem_cons_self)) hax
    rcases mem_append.mp hb with hb | hb
    · exact hlt.trans (h.left.mem b hb) h.root hx (h.left_lt hb) hax
    · exact hlow b hb

section

variable (hlt : OrdersOn lt S) (h : Sorted lt key S (inorder t)) (hx : key x ∈ S)
include hlt h hx

theorem insertUnique_cases (first : Nat) (before : Option α) (hbefore : Precedes lt key S x before (inorder t)) :
    (∃ a ∈ before.toList ++ inorder t, Equivalent lt (key a) (key x) ∧
      (insertUnique lt key x t first before).2 = none) ∨
    ∃ t', (insertUnique lt key x t first before).2 = some t' ∧ Placed lt key x before t t' := by
  -- `before` is the last element that the descent went to the right of
  induction t generalizing first before with
  | nil =>
    cases before with
    | none =>
      exact Or.inr ⟨.node x .nil .nil, rfl, [], [], rfl, rfl, by rintro _ ⟨⟩, by rintro _ ⟨⟩⟩
    | some p =>
      obtain ⟨-, habove, -⟩ := hbefore p rfl
      rw [insertUnique]
      by_cases hp : lt (key p) (key x) = true
      · rw [if_pos hp]
        refine Or.inr ⟨.node x .nil .nil, rfl, [], [], rfl, rfl, ?_, by rintro _ ⟨⟩⟩
        intro a ha
        obtain rfl := mem_singleton.mp ha
        exact hp
      · rw [if_neg hp]
        exact Or.inl ⟨p, mem_singleton_self p, ⟨Bool.eq_false_of_not_eq_true hp, habove⟩, rfl⟩
  | node a l r ihl ihr =>
    rw [insertUnique]
    by_cases hxa : lt (key x) (key a) = true
    · rw [if_pos hxa]
      have hbefore' : Precedes lt key S x before (inorder l) := fun p hp =>
        ⟨(hbefore p hp).1, (hbefore p hp).2.1, fun b hb => (hbefore p hp).2.2 b (mem_append_left _ hb)⟩
      rcases ihl h.left first before hbefore' with ⟨b, hb, heq, hnone⟩ | ⟨t', hok, hplaced⟩
      · rw [hnone]
        refine Or.inl ⟨b, ?_, heq, rfl⟩
        rw [inorder, ← append_assoc]
        exact mem_append_left _ hb
      · rw [hok]
        exact Or.inr ⟨.node a t' r, rfl, hplaced.left hlt h hx hxa⟩
    · rw [if_neg hxa]
      have hroot : Precedes lt key S x (some a) (inorder r) := by
        rintro p ⟨⟩
        exact ⟨h.root, Bool.eq_false_of_not_eq_true hxa, fun b hb => h.lt_right hb⟩
      rcases ihr h.right (first + l.numNodes + 1) (some a) hroot with
        ⟨b, hb, heq, hnone⟩ | ⟨t', hok, hplaced⟩
      · rw [hnone]
        refine Or.inl ⟨b, mem_append_right _ ?_, heq, rfl⟩
        exact mem_append_right _ hb
      · rw [hok]
        exact Or.inr ⟨.node a l t', rfl, hplaced.right hlt h hx hbefore⟩

theorem insertUnique_new (hnew : ∀ a ∈ inorder t, ¬ Equivalent lt (key a) (key x)) :
    ∃ low high t', inorder t = low ++ high ∧ (insertUnique lt key x t 0 none).2 = some t' ∧
      inorder t' = low ++ x :: high ∧ Sorted lt key S (inorder t') := by
  rcases insertUnique_cases hlt h hx 0 none (fun _ hp => nomatch hp) with
    ⟨a, ha, heq, -⟩ | ⟨t', hok, low, high, hsplit, hin, hlow, hhigh⟩
  · exact absurd heq (hnew a ha)
  · refine ⟨low, high, t', hsplit, hok, hin, ?_⟩
    rw [hsplit] at h
    obtain ⟨hlows, hhighs, hcross⟩ := pairwise_append.mp h.pairwise
    rw [hin]
    constructor
    · intro a ha
      rcases mem_append.mp ha with ha | ha
      · exact h.mem a (mem_append_left _ ha)
      rcases mem_cons.mp ha with rfl | ha
      · exact hx
      · exact h.mem a (mem_append_right _ ha)
    · refine pairwise_append.mpr ⟨hlows, pairwise_cons.mpr ⟨hhigh, hhighs⟩, ?_⟩
      intro a ha b hb
      rcases mem_cons.mp hb with rfl | hb
      · exact hlow a ha
      · exact hcross a ha b hb

theorem insertUnique_found
    (hfound : ∃ a ∈ inorder t, Equivalent lt (key a) (key x)) : (insertUnique lt key x t 0 none).2 = none := by
  rcases insertUnique_cases hlt h hx 0 none (fun _ hp => nomatch hp) with
    ⟨_, _, -, hnone⟩ | ⟨_, -, low, high, hsplit, -, hlow, hhigh⟩
  · exact hnone
  · obtain ⟨a, ha, hax, hxa⟩ := hfound
    rw [hsplit] at ha
    rcases mem_append.mp ha with ha | ha
    · exact nomatch hax.symm.trans (hlow a ha)
    · exact nomatch hxa.symm.trans (hhigh a ha)

end

theorem Sorted.eraseIdx {as : List α} (h : Sorted lt key S as) (i : Nat) : Sorted lt key S (as.eraseIdx i) where
  mem a ha := h.mem a (mem_of_mem_eraseIdx ha)
  pairwise := h.pairwise.sublist (eraseIdx_sublist as i)

theorem Sorted.modify {as : List α} (h : Sorted lt key S as) {f : α → α} (hkey : ∀ a, key (f a) = key a)
    (i : Nat) : Sorted lt key S (as.modify i f) := by
  have hkeys : (as.modify i f).map key = as.map key := by
    apply ext_getElem?
    intro j
    rw [getElem?_map, getElem?_map, getElem?_modify, Option.map_eq_map, Option.map_map]
    congr 1
    funext a
    change key (if i = j then f a else a) = key a
    split
    · exact hkey a
    · rfl
  constructor
  · intro a ha
    have hmem : key a ∈ as.map key := hkeys ▸ mem_map_of_mem ha
    obtain ⟨b, hb, hab⟩ := mem_map.mp hmem
    rw [← hab]
    exact h.mem b hb
  · have hpairwise := h.pairwise
    rw [← pairwise_map (f := key) (R := fun a b => lt a b = true)] at hpairwise ⊢
    rw [hkeys]
    exact hpairwise

end Sorted

end SearchTree
