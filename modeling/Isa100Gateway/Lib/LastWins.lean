import Mathlib.Data.List.Nodup

/-!
# Lists of keys that enter and leave

An operation takes a key out of a list and, if it enters it, puts it at the end. After any operations the last one about a key decides whether the list has it.
-/

namespace LastWins

variable {κ : Type*} [DecidableEq κ]

def apply (keys : List κ) (op : κ × Bool) : List κ :=
  keys.filter (· ≠ op.1) ++ if op.2 then [op.1] else []

def applyAll (keys : List κ) (ops : List (κ × Bool)) : List κ := ops.foldl apply keys

def last (k : κ) : List (κ × Bool) → Option Bool
  | [] => none
  | op :: ops => (last k ops).or (if op.1 = k then some op.2 else none)

variable {keys : List κ}

theorem mem_apply {op : κ × Bool} {k : κ} : k ∈ apply keys op ↔ if op.1 = k then op.2 = true else k ∈ keys := by
  obtain ⟨key, enters⟩ := op
  by_cases hkey : key = k
  · cases enters <;> simp [apply, hkey]
  · have hne : k ≠ key := Ne.symm hkey
    cases enters <;> simp [apply, hkey, hne]

variable {ops : List (κ × Bool)}

theorem mem_applyAll {k : κ} : k ∈ applyAll keys ops ↔ last k ops = some true ∨ last k ops = none ∧ k ∈ keys := by
  induction ops generalizing keys with
  | nil => simp [applyAll, last]
  | cons op ops ih =>
    have hrest : applyAll keys (op :: ops) = applyAll (apply keys op) ops := rfl
    rw [hrest, ih, mem_apply, last]
    by_cases hkey : op.1 = k
    · cases hlast : last k ops <;> simp [hkey]
    · cases hlast : last k ops <;> simp [hkey]

theorem nodup_apply (h : keys.Nodup) (op : κ × Bool) : (apply keys op).Nodup := by
  obtain ⟨key, enters⟩ := op
  have hrest : (keys.filter (· ≠ key)).Nodup := h.filter _
  cases enters with
  | false => simpa [apply] using hrest
  | true =>
    rw [apply, if_pos rfl, List.nodup_append]
    refine ⟨hrest, List.nodup_singleton key, ?_⟩
    intro a ha b hb
    obtain rfl := List.mem_singleton.mp hb
    exact of_decide_eq_true (List.mem_filter.mp ha).2

theorem filter_applyAll {p : κ → Bool}
    (h : ∀ op ∈ ops, p op.1 = false) : (applyAll keys ops).filter p = keys.filter p := by
  induction ops generalizing keys with
  | nil => rfl
  | cons op ops ih =>
    have hop : p op.1 = false := h op List.mem_cons_self
    have hfilter : (apply keys op).filter p = keys.filter p := by
      rw [apply, List.filter_append, List.filter_filter]
      have hkept : keys.filter (fun k => p k && decide (k ≠ op.1)) = keys.filter p := by
        apply List.filter_congr
        intro k _
        by_cases hk : k = op.1
        · simp [hk, hop]
        · simp [hk]
      rw [hkept]
      cases op.2 <;> simp [hop]
    calc (applyAll keys (op :: ops)).filter p
        = (applyAll (apply keys op) ops).filter p := rfl
      _ = (apply keys op).filter p := ih fun op' hop' => h op' (List.mem_cons_of_mem op hop')
      _ = keys.filter p := hfilter

end LastWins
