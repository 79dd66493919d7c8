import Mathlib.Data.List.Nodup
import Mathlib.Logic.Function.Basic

/-!
# Registries and their indices

A registry is a list of references, each registered under a key. An index holds, for some keys, the references under the key. The rules keep an index right while references enter and leave the registry and keys enter and leave the index.
-/

namespace Registry

variable {κ ρ : Type*} [DecidableEq κ] {reg : List (κ × ρ)} {index : κ → Option (List ρ)} {k : κ} {r : ρ}

def under (reg : List (κ × ρ)) (k : κ) : List ρ := (reg.filter fun e => e.1 = k).map Prod.snd

def Indexes (index : κ → Option (List ρ)) (reg : List (κ × ρ)) : Prop :=
  ∀ k refs, index k = some refs → refs = under reg k

theorem mem_under : r ∈ under reg k ↔ (k, r) ∈ reg := by
  unfold under
  rw [List.mem_map]
  constructor
  · rintro ⟨⟨k', r'⟩, hmem, rfl⟩
    obtain ⟨hreg, hkey⟩ := List.mem_filter.mp hmem
    obtain rfl : k' = k := of_decide_eq_true hkey
    exact hreg
  · intro hreg
    exact ⟨(k, r), List.mem_filter.mpr ⟨hreg, decide_eq_true rfl⟩, rfl⟩

theorem nodup_under (h : (reg.map Prod.snd).Nodup) (k : κ) : (under reg k).Nodup :=
  h.sublist (List.filter_sublist.map Prod.snd)

theorem under_append (reg reg' : List (κ × ρ)) (k : κ) : under (reg ++ reg') k = under reg k ++ under reg' k := by
  unfold under
  rw [List.filter_append, List.map_append]

theorem under_singleton_self (k : κ) (r : ρ) : under [(k, r)] k = [r] := by
  simp [under]

theorem under_singleton_of_ne {k k' : κ} (h : k ≠ k') (r : ρ) : under [(k, r)] k' = [] := by
  simp [under, h]

theorem Indexes.drop (h : Indexes index reg) (k : κ) : Indexes (Function.update index k none) reg := by
  intro k' refs hfind
  rw [Function.update_apply] at hfind
  split at hfind
  · cases hfind
  · exact h k' refs hfind

theorem Indexes.create (h : Indexes index reg) (k : κ) :
    Indexes (Function.update index k (some (under reg k))) reg := by
  intro k' refs hfind
  rw [Function.update_apply] at hfind
  split at hfind
  · rename_i hkey
    rw [hkey]
    exact (Option.some.inj hfind).symm
  · exact h k' refs hfind

theorem Indexes.add (h : Indexes index reg) (k : κ) (r : ρ) :
    Indexes (Function.update index k ((index k).map (· ++ [r]))) (reg ++ [(k, r)]) := by
  intro k' refs hfind
  rw [under_append]
  rw [Function.update_apply] at hfind
  split at hfind
  · rename_i hkey
    obtain ⟨old, hold, rfl⟩ := Option.map_eq_some_iff.mp hfind
    rw [hkey, under_singleton_self, h k old hold]
  · rename_i hkey
    rw [under_singleton_of_ne (Ne.symm hkey), List.append_nil]
    exact h k' refs hfind

variable [DecidableEq ρ]

theorem under_filter_self (reg : List (κ × ρ)) (k : κ) (r : ρ) :
    under (reg.filter fun e => e.2 ≠ r) k = (under reg k).filter fun r' => r' ≠ r := by
  unfold under
  rw [List.filter_map, List.filter_filter, List.filter_filter]
  congr 1
  apply List.filter_congr
  intro e _
  exact Bool.and_comm _ _

theorem under_filter_of_ne {k' : κ} (hreg : (k, r) ∈ reg) (hnodup : (reg.map Prod.snd).Nodup) (hkey : k' ≠ k) :
    under (reg.filter fun e => e.2 ≠ r) k' = under reg k' := by
  rw [under_filter_self]
  apply List.filter_eq_self.mpr
  intro r' hr'
  rw [decide_eq_true_iff]
  rintro rfl
  have hboth := List.inj_on_of_nodup_map hnodup (mem_under.mp hr') hreg rfl
  exact hkey (congrArg Prod.fst hboth)

theorem Indexes.remove (h : Indexes index reg) (hreg : (k, r) ∈ reg) (hnodup : (reg.map Prod.snd).Nodup) :
    Indexes (Function.update index k ((index k).map fun refs => refs.filter fun r' => r' ≠ r))
      (reg.filter fun e => e.2 ≠ r) := by
  intro k' refs hfind
  rw [Function.update_apply] at hfind
  split at hfind
  · rename_i hkey
    obtain ⟨old, hold, rfl⟩ := Option.map_eq_some_iff.mp hfind
    rw [hkey, under_filter_self, h k old hold]
  · rename_i hkey
    rw [under_filter_of_ne hreg hnodup hkey]
    exact h k' refs hfind

end Registry
