import Mathlib.Data.List.Basic
import Mathlib.Order.Nat
import Mathlib.Order.Lattice

/-!
# Binary search in a sorted table

The search loop over a table that is kept sorted by a key, and what an insertion at the place it returns and a removal keep.
-/

namespace BinSearch

open List

variable {α κ : Type*}

/-- The loop over the window from `low` to just below `high`: whether the needle was found, and where it is or belongs. The comparison is that of the needle with an entry. -/
def search (compare : α → Ordering) (table : List α) : Nat → Nat → Nat → Bool × Nat
  | 0, low, _ => (false, low)
  | fuel + 1, low, high =>
    if low < high then
      let mid := (low + high - 1) / 2
      match table[mid]?.map compare with
      | none => (false, low)
      | some .eq => (true, mid)
      | some .lt => search compare table fuel low mid
      | some .gt => search compare table fuel (mid + 1) high
    else (false, low)

def find (compare : α → Ordering) (table : List α) : Bool × Nat :=
  search compare table table.length 0 table.length

section Spec

variable [LinearOrder κ] {key : α → κ} {needle : κ} {table : List α}

def SortedBy (key : α → κ) (table : List α) : Prop := table.Pairwise fun a b => key a < key b

def Window (key : α → κ) (needle : κ) (table : List α) (low high : Nat) : Prop :=
  low ≤ high ∧ high ≤ table.length ∧ (∀ a ∈ table.take low, key a < needle) ∧ ∀ a ∈ table.drop high, needle < key a

variable {i : Nat}

theorem SortedBy.take_lt (h : SortedBy key table) (hi : i < table.length) {a : α}
    (ha : a ∈ table.take i) : key a < key table[i] := by
  obtain ⟨j, hj, rfl⟩ := mem_iff_getElem.mp ha
  rw [length_take] at hj
  rw [getElem_take]
  exact pairwise_iff_getElem.mp h j i (by omega) hi (by omega)

theorem SortedBy.lt_drop (h : SortedBy key table) (hi : i < table.length) {a : α}
    (ha : a ∈ table.drop (i + 1)) : key table[i] < key a := by
  obtain ⟨j, hj, rfl⟩ := mem_iff_getElem.mp ha
  rw [length_drop] at hj
  rw [getElem_drop]
  exact pairwise_iff_getElem.mp h i (i + 1 + j) hi (by omega) (by omega)

structure Compares (key : α → κ) (needle : κ) (compare : α → Ordering) : Prop where
  lt : ∀ a, compare a = .lt → needle < key a
  eq : ∀ a, compare a = .eq → key a = needle
  gt : ∀ a, compare a = .gt → key a < needle

/-- What the search answers: the place of the needle, or the place between the smaller and the greater keys. -/
def Answers (key : α → κ) (needle : κ) (table : List α) : Bool × Nat → Prop
  | (true, i) => ∃ a, table[i]? = some a ∧ key a = needle
  | (false, i) => Window key needle table i i

variable {compare : α → Ordering}

theorem search_answers (h : SortedBy key table)
    (hcompare : Compares key needle compare) : ∀ (fuel low high : Nat), high - low ≤ fuel →
    Window key needle table low high → Answers key needle table (search compare table fuel low high) := by
  intro fuel
  induction fuel with
  | zero =>
    intro low high hfuel hwindow
    have heq : low = high := by
      have hle := hwindow.1
      omega
    subst heq
    exact hwindow
  | succ fuel ih =>
    intro low high hfuel hwindow
    obtain ⟨hle, hhigh, hbelow, habove⟩ := hwindow
    rw [search]
    split
    · rename_i hlt
      have hmid : (low + high - 1) / 2 < table.length := by omega
      dsimp only
      rw [getElem?_eq_getElem hmid, Option.map_some]
      split
      · rename_i heq
        cases heq
      · rename_i heq
        exact ⟨_, getElem?_eq_getElem hmid, hcompare.eq _ (Option.some.inj heq)⟩
      · rename_i heq
        have hneedle : needle < key table[(low + high - 1) / 2] := hcompare.lt _ (Option.some.inj heq)
        refine ih _ _ (by omega) ⟨by omega, by omega, hbelow, fun a ha => ?_⟩
        rw [drop_eq_getElem_cons hmid] at ha
        rcases mem_cons.mp ha with rfl | ha
        · exact hneedle
        · exact hneedle.trans (h.lt_drop hmid ha)
      · rename_i heq
        have hneedle : key table[(low + high - 1) / 2] < needle := hcompare.gt _ (Option.some.inj heq)
        refine ih _ _ (by omega) ⟨by omega, hhigh, fun a ha => ?_, habove⟩
        rw [take_succ_eq_append_getElem hmid] at ha
        rcases mem_append.mp ha with ha | ha
        · exact (h.take_lt hmid ha).trans hneedle
        · rw [mem_singleton.mp ha]
          exact hneedle
    · have heq : low = high := by omega
      subst heq
      exact ⟨hle, hhigh, hbelow, habove⟩

theorem find_answers (h : SortedBy key table) (hcompare : Compares key needle compare) :
    Answers key needle table (find compare table) :=
  search_answers h hcompare _ _ _ (Nat.sub_zero _).le
    ⟨Nat.zero_le _, le_refl _, fun a ha => by simp at ha, fun a ha => by simp at ha⟩

theorem Window.absent (h : Window key needle table i i) : ∀ a ∈ table, key a ≠ needle := by
  intro a ha
  rw [← take_append_drop i table] at ha
  rcases mem_append.mp ha with ha | ha
  · exact (h.2.2.1 a ha).ne
  · exact (h.2.2.2 a ha).ne'

theorem SortedBy.insert (h : SortedBy key table) {a : α} (ha : key a = needle)
    (hwindow : Window key needle table i i) : SortedBy key (table.take i ++ a :: table.drop i) := by
  have hsplit : SortedBy key (table.take i ++ table.drop i) := by
    rw [take_append_drop]
    exact h
  obtain ⟨hfront, hback, hcross⟩ := pairwise_append.mp hsplit
  refine pairwise_append.mpr ⟨hfront, pairwise_cons.mpr ⟨fun b hb => ?_, hback⟩, fun b hb c hc => ?_⟩
  · rw [ha]
    exact hwindow.2.2.2 b hb
  · rcases mem_cons.mp hc with rfl | hc
    · rw [ha]
      exact hwindow.2.2.1 b hb
    · exact hcross b hb c hc

theorem SortedBy.set (h : SortedBy key table) {a b : α} (hget : table[i]? = some a)
    (hkey : key b = key a) : SortedBy key (table.set i b) := by
  have hmap : (table.set i b).map key = table.map key := by
    rw [map_set, hkey]
    apply ext_getElem?
    intro j
    rw [getElem?_set]
    split
    · rename_i heq
      subst heq
      rw [getElem?_map, hget]
      split
      · rfl
      · rename_i hlength
        have hlt := (List.getElem?_eq_some_iff.mp hget).1
        rw [length_map] at hlength
        exact absurd hlt hlength
    · rfl
  have hsorted : (table.map key).Pairwise (· < ·) := pairwise_map.mpr h
  rw [← hmap] at hsorted
  exact pairwise_map.mp hsorted

theorem SortedBy.unique (h : SortedBy key table) {a b : α} (ha : a ∈ table) (hb : b ∈ table)
    (hkey : key a = key b) : a = b := by
  obtain ⟨i, hi, rfl⟩ := mem_iff_getElem.mp ha
  obtain ⟨j, hj, rfl⟩ := mem_iff_getElem.mp hb
  rcases Nat.lt_trichotomy i j with hlt | rfl | hlt
  · exact absurd hkey (pairwise_iff_getElem.mp h i j hi hj hlt).ne
  · rfl
  · exact absurd hkey (pairwise_iff_getElem.mp h j i hj hi hlt).ne'

theorem SortedBy.nodup (h : SortedBy key table) : table.Nodup :=
  h.imp fun hlt heq => hlt.ne (congrArg key heq)

end Spec

end BinSearch
