import Mathlib.Data.List.AList
import Mathlib.Logic.Function.Basic

/-!
# Keyed tables

Finite maps as association lists: how insertion and removal change the rows that are found and the number of rows, tables with two indices, and the law that setting a row of a table is expected to obey.
-/

namespace Table

variable {ι ρ : Type*} [DecidableEq ι] {t t' : AList fun _ : ι => ρ} {i : ι}

theorem lookup_insert (t : AList fun _ : ι => ρ) (i j : ι) (r : ρ) :
    (t.insert i r).lookup j = if j = i then some r else t.lookup j := by
  by_cases h : j = i
  · rw [h, AList.lookup_insert, if_pos rfl]
  · rw [AList.lookup_insert_ne h, if_neg h]

theorem lookup_erase (t : AList fun _ : ι => ρ) (i j : ι) :
    (t.erase i).lookup j = if j = i then none else t.lookup j := by
  by_cases h : j = i
  · rw [h, AList.lookup_erase, if_pos rfl]
  · rw [AList.lookup_erase_ne h, if_neg h]

theorem find_insert (t : AList fun _ : ι => ρ) (i : ι) (r : ρ) :
    (fun j => (t.insert i r).lookup j) = Function.update (fun j => t.lookup j) i (some r) := by
  funext j
  rw [lookup_insert, Function.update_apply]

theorem find_erase (t : AList fun _ : ι => ρ) (i : ι) :
    (fun j => (t.erase i).lookup j) = Function.update (fun j => t.lookup j) i none := by
  funext j
  rw [lookup_erase, Function.update_apply]

theorem erase_of_absent (h : t.lookup i = none) : t.erase i = t := by
  apply AList.ext
  exact List.kerase_of_notMem_keys (AList.lookup_eq_none.mp h)

omit [DecidableEq ι] in
theorem length_keys (t : AList fun _ : ι => ρ) : t.keys.length = t.entries.length :=
  List.length_map ..

theorem length_eq_of_keys (h : ∀ j, t.lookup j = none ↔ t'.lookup j = none) :
    t.entries.length = t'.entries.length := by
  have hperm : t.keys.Perm t'.keys := by
    rw [List.perm_ext_iff_of_nodup t.keys_nodup t'.keys_nodup]
    intro j
    have := h j
    rw [AList.lookup_eq_none, AList.lookup_eq_none, not_iff_not] at this
    exact this
  calc t.entries.length = t.keys.length := (length_keys t).symm
    _ = t'.keys.length := hperm.length_eq
    _ = t'.entries.length := length_keys t'

theorem length_insert_of_present (h : t.lookup i ≠ none) (r : ρ) :
    (t.insert i r).entries.length = t.entries.length := by
  apply length_eq_of_keys
  intro j
  rw [lookup_insert]
  by_cases hj : j = i
  · subst hj
    simp [h]
  · rw [if_neg hj]

theorem length_insert_of_absent (h : t.lookup i = none) (r : ρ) :
    (t.insert i r).entries.length = t.entries.length + 1 := by
  rw [AList.entries_insert_of_notMem (AList.lookup_eq_none.mp h)]
  rfl

theorem length_erase_le (t : AList fun _ : ι => ρ) (i : ι) : (t.erase i).entries.length ≤ t.entries.length := by
  calc (t.erase i).entries.length = (t.erase i).keys.length := (length_keys _).symm
    _ = (t.keys.erase i).length := by rw [AList.keys_erase]
    _ ≤ t.keys.length := List.length_erase_le
    _ = t.entries.length := length_keys t

theorem length_erase_of_present (h : t.lookup i ≠ none) : (t.erase i).entries.length + 1 = t.entries.length := by
  have hmem : i ∈ t.keys := by
    by_contra hnot
    exact h (AList.lookup_eq_none.mpr hnot)
  have hpos : 0 < t.keys.length := List.length_pos_of_mem hmem
  calc (t.erase i).entries.length + 1 = (t.keys.erase i).length + 1 := by
        rw [← length_keys, AList.keys_erase]
    _ = t.keys.length - 1 + 1 := by rw [List.length_erase_of_mem hmem]
    _ = t.keys.length := Nat.sub_add_cancel hpos
    _ = t.entries.length := length_keys t

section Indices

variable {κ ε : Type*} {f : ι → Option ε} {g : κ → Option ε} {fst : ε → ι} {snd : ε → κ} {e : ε}

def Paired (f : ι → Option ε) (g : κ → Option ε) (fst : ε → ι) (snd : ε → κ) : Prop :=
  ∀ i k e, (f i = some e ∧ snd e = k) ↔ (g k = some e ∧ fst e = i)

theorem Paired.insert [DecidableEq κ] (h : Paired f g fst snd) (hi : f (fst e) = none) (hk : g (snd e) = none) :
    Paired (Function.update f (fst e) (some e)) (Function.update g (snd e) (some e)) fst snd := by
  intro i k other
  rw [Function.update_apply, Function.update_apply]
  by_cases heq : e = other
  · subst heq
    have hnot : ¬ (f i = some e ∧ snd e = k) := by
      rintro ⟨hfind, rfl⟩
      have := ((h i _ e).mp ⟨hfind, rfl⟩).1
      rw [hk] at this
      cases this
    have hnot' : ¬ (g k = some e ∧ fst e = i) := fun hback => hnot ((h i k e).mpr hback)
    by_cases hfst : i = fst e
    · by_cases hsnd : k = snd e
      · rw [if_pos hfst, if_pos hsnd]
        exact iff_of_true ⟨rfl, hsnd.symm⟩ ⟨rfl, hfst.symm⟩
      · rw [if_pos hfst, if_neg hsnd]
        exact iff_of_false (fun hkey => hsnd hkey.2.symm) hnot'
    · by_cases hsnd : k = snd e
      · rw [if_neg hfst, if_pos hsnd]
        exact iff_of_false hnot fun hkey => hfst hkey.2.symm
      · rw [if_neg hfst, if_neg hsnd]
        exact h i k e
  · have hne : some e ≠ some other := fun hsome => heq (Option.some.inj hsome)
    -- under the keys of the new entry no other one is found, before or after
    by_cases hfst : i = fst e
    · by_cases hsnd : k = snd e
      · rw [if_pos hfst, if_pos hsnd]
        exact iff_of_false (fun hfind => hne hfind.1) fun hfind => hne hfind.1
      · rw [if_pos hfst, if_neg hsnd, ← h i k other, hfst, hi]
        exact iff_of_false (fun hfind => hne hfind.1) fun hfind => nomatch hfind.1
    · by_cases hsnd : k = snd e
      · rw [if_neg hfst, if_pos hsnd, h i k other, hsnd, hk]
        exact iff_of_false (fun hfind => nomatch hfind.1) fun hfind => hne hfind.1
      · rw [if_neg hfst, if_neg hsnd]
        exact h i k other

theorem Paired.erase [DecidableEq κ] (h : Paired f g fst snd) {i : ι} (hi : f i = some e) :
    Paired (Function.update f i none) (Function.update g (snd e) none) fst snd := by
  obtain ⟨hback, hfst⟩ := (h i (snd e) e).mp ⟨hi, rfl⟩
  intro j k other
  rw [Function.update_apply, Function.update_apply]
  by_cases hj : j = i
  · rw [if_pos hj]
    refine iff_of_false (fun hfind => nomatch hfind.1) ?_
    rintro ⟨hfind, hkey⟩
    split at hfind
    · cases hfind
    · rename_i hk
      obtain ⟨hother, hsnd⟩ := (h j k other).mpr ⟨hfind, hkey⟩
      rw [hj, hi] at hother
      exact hk (hsnd.symm.trans (congrArg snd (Option.some.inj hother).symm))
  · rw [if_neg hj, h j k other]
    by_cases hk : k = snd e
    · rw [if_pos hk, hk, hback]
      refine iff_of_false ?_ fun hfind => nomatch hfind.1
      rintro ⟨hother, hkey⟩
      exact hj (hkey.symm.trans (Option.some.inj hother ▸ hfst))
    · rw [if_neg hk]

/-- Entries with the same tag are the same one, and the tags in use are below a bound. -/
structure Tagged (f : ι → Option ε) (tag : ε → Nat) (bound : Nat) : Prop where
  inj : ∀ i e i' e', f i = some e → f i' = some e' → tag e = tag e' → e = e'
  fresh : ∀ i e, f i = some e → tag e < bound

variable {tag : ε → Nat} {bound : Nat}

theorem Tagged.insert (h : Tagged f tag bound) (i : ι) (he : tag e = bound) :
    Tagged (Function.update f i (some e)) tag (bound + 1) := by
  have hcases : ∀ j other, Function.update f i (some e) j = some other →
      other = e ∨ f j = some other := by
    intro j other hfind
    rw [Function.update_apply] at hfind
    split at hfind
    · exact Or.inl (Option.some.inj hfind).symm
    · exact Or.inr hfind
  constructor
  · intro j a j' a' hfind hfind' htag
    obtain rfl | hold := hcases j a hfind
    · obtain rfl | hold' := hcases j' a' hfind'
      · rfl
      · have hlt := h.fresh j' a' hold'
        omega
    · obtain rfl | hold' := hcases j' a' hfind'
      · have hlt := h.fresh j a hold
        omega
      · exact h.inj j a j' a' hold hold' htag
  · intro j a hfind
    obtain rfl | hold := hcases j a hfind
    · omega
    · exact Nat.lt_succ_of_lt (h.fresh j a hold)

theorem Tagged.erase (h : Tagged f tag bound) (i : ι) : Tagged (Function.update f i none) tag bound := by
  have hsub : ∀ j other, Function.update f i none j = some other → f j = some other := by
    intro j other hfind
    rw [Function.update_apply] at hfind
    split at hfind
    · cases hfind
    · exact hfind
  constructor
  · intro j a j' a' hfind hfind'
    exact h.inj j a j' a' (hsub j a hfind) (hsub j' a' hfind')
  · intro j a hfind
    exact h.fresh j a (hsub j a hfind)

end Indices

/-- What setting a row in place of the one under `old` is expected to do to a table seen through `find`. On success a new row is found under `new`, the one under `old` is gone, and all others are as they were. On an error nothing has changed. -/
structure SetLaw {τ : Type*} (find : τ → ι → Option ρ) (isNew : ρ → Prop) (old new : ι)
    (success : Prop) (t t' : τ) : Prop where
  found : success → ∃ r, find t' new = some r ∧ isNew r
  gone : success → old ≠ new → find t' old = none
  others : success → ∀ i, i ≠ old → i ≠ new → find t' i = find t i
  unchanged : ¬ success → t' = t

section SetLaw

variable {τ : Type*} {find : τ → ι → Option ρ} {isNew : ρ → Prop} {old new : ι} {success : Prop}
  {s s' : τ}

theorem SetLaw.of_update (hsuccess : success) {r : ρ} (hr : isNew r)
    (h : find s' = Function.update (Function.update (find s) old none) new (some r)) :
    SetLaw find isNew old new success s s' where
  found _ := ⟨r, by rw [h, Function.update_self], hr⟩
  gone _ hne := by rw [h, Function.update_of_ne hne, Function.update_self]
  others _ i hold hnew := by rw [h, Function.update_of_ne hnew, Function.update_of_ne hold]
  unchanged hfail := absurd hsuccess hfail

omit [DecidableEq ι] in
theorem SetLaw.of_unchanged (hfail : ¬ success) (h : s' = s) : SetLaw find isNew old new success s s' where
  found hsuccess := absurd hsuccess hfail
  gone hsuccess := absurd hsuccess hfail
  others hsuccess := absurd hsuccess hfail
  unchanged _ := h

theorem SetLaw.after_erase {s₁ : τ} (h : SetLaw find isNew new new success s₁ s')
    (herase : find s₁ = Function.update (find s) old none) (hfail : ¬ success → s₁ = s) :
    SetLaw find isNew old new success s s' where
  found := h.found
  gone hsuccess hne := by
    rw [h.others hsuccess old hne hne, herase, Function.update_self]
  others hsuccess i hold hnew := by
    rw [h.others hsuccess i hnew hnew, herase, Function.update_of_ne hold]
  unchanged hnot := (h.unchanged hnot).trans (hfail hnot)

end SetLaw

end Table
