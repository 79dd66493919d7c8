import Mathlib.Logic.Function.Basic
import Mathlib.Data.List.Basic

/-!
# Cells with one owner each

A table says for each cell who owns it, with one value for the free cells. An owner moves by giving up its cells and taking the first one that is then free.
-/

namespace CellTable

variable {κ ω : Type*} [DecidableEq ω]

def clear (free : ω) (table : κ → ω) (owner : ω) : κ → ω := fun cell =>
  if table cell = owner then free else table cell

def Open (free : ω) (table : κ → ω) (owner : ω) (cell : κ) : Prop := table cell = owner ∨ table cell = free

instance (free : ω) (table : κ → ω) (owner : ω) (cell : κ) : Decidable (Open free table owner cell) :=
  inferInstanceAs (Decidable (_ ∨ _))

variable {free : ω} {table : κ → ω} {owner other : ω} {cell : κ}

theorem clear_eq_free_iff : clear free table owner cell = free ↔ Open free table owner cell := by
  unfold clear Open
  by_cases h : table cell = owner
  · simp [h]
  · simp [h]

theorem clear_ne (howner : owner ≠ free) : clear free table owner cell ≠ owner := by
  unfold clear
  by_cases h : table cell = owner
  · rw [if_pos h]
    exact howner.symm
  · rwa [if_neg h]

theorem clear_eq_other_iff (hother : other ≠ owner) (hfree : other ≠ free) :
    clear free table owner cell = other ↔ table cell = other := by
  unfold clear
  by_cases h : table cell = owner
  · rw [if_pos h, h]
    exact iff_of_false hfree.symm hother.symm
  · rw [if_neg h]

section Move

variable [DecidableEq κ] {target : κ}

theorem move_eq_owner_iff (howner : owner ≠ free) :
    Function.update (clear free table owner) target owner cell = owner ↔ cell = target := by
  by_cases h : cell = target
  · subst h
    simp
  · rw [Function.update_of_ne h]
    exact iff_of_false (clear_ne howner) h

theorem move_eq_other_iff (hother : other ≠ owner) (hfree : other ≠ free) (htarget : Open free table owner target) :
    Function.update (clear free table owner) target owner cell = other ↔ table cell = other := by
  by_cases h : cell = target
  · subst h
    rw [Function.update_self]
    refine iff_of_false hother.symm ?_
    rintro rfl
    rcases htarget with hown | hopen
    · exact hother hown
    · exact hfree hopen
  · rw [Function.update_of_ne h, clear_eq_other_iff hother hfree]

end Move

theorem find?_meets_iff {cells : List κ} {P : κ → Prop} (hdown : cells.Pairwise fun a b => P b → P a)
    (hfind : (cells.find? fun cell => clear free table owner cell = free) = some cell) :
    P cell ↔ ∃ other ∈ cells, Open free table owner other ∧ P other := by
  induction cells with
  | nil => cases hfind
  | cons first cells ih =>
    obtain ⟨hfirst, hrest⟩ := List.pairwise_cons.1 hdown
    by_cases hopen : clear free table owner first = free
    · rw [List.find?_cons_of_pos (by simpa using hopen)] at hfind
      obtain rfl : first = cell := Option.some.inj hfind
      constructor
      · intro hP
        exact ⟨first, List.mem_cons_self, clear_eq_free_iff.1 hopen, hP⟩
      · rintro ⟨other, hmem, -, hP⟩
        rcases List.mem_cons.1 hmem with heq | hmem
        · rwa [← heq]
        · exact hfirst other hmem hP
    · rw [List.find?_cons_of_neg (by simpa using hopen)] at hfind
      rw [ih hrest hfind]
      constructor
      · rintro ⟨other, hmem, h⟩
        exact ⟨other, List.mem_cons_of_mem _ hmem, h⟩
      · rintro ⟨other, hmem, hother, hP⟩
        rcases List.mem_cons.1 hmem with heq | hmem
        · rw [heq] at hother
          exact absurd (clear_eq_free_iff.2 hother) hopen
        · exact ⟨other, hmem, hother, hP⟩

end CellTable
