import Mathlib.Data.List.Basic
import Mathlib.Tactic.Tauto

/-!
# Memory probes and walks over records

A `Probe` is a value computed from a memory, with the spans of cells that were dereferenced for it. A walk visits records that lie one after the other, each of which tells its own size. The rules say where a walk arrives and what it takes for all its spans to lie inside the first `n` cells.
-/

namespace MemoryProbe

structure Probe (α : Type) where
  value : α
  spans : List (Nat × Nat)

variable {α β : Type} {n : Nat}

instance : Monad Probe where
  pure a := { value := a, spans := [] }
  bind m f := { value := (f m.value).value, spans := m.spans ++ (f m.value).spans }

def touch (offset length : Nat) : Probe Unit := { value := (), spans := [(offset, length)] }

def doIf (c : Prop) [Decidable c] (m : Probe Unit) : Probe Unit := if c then m else pure ()

/-- Every span lies inside the first `n` cells. -/
def Inside (n : Nat) (m : Probe α) : Prop := ∀ span ∈ m.spans, span.1 + span.2 ≤ n

instance (n : Nat) (m : Probe α) : Decidable (Inside n m) := inferInstanceAs (Decidable (∀ _ ∈ _, _))

@[simp]
theorem value_pure (a : α) : (pure a : Probe α).value = a := rfl

@[simp]
theorem value_bind (m : Probe α) (f : α → Probe β) : (m >>= f).value = (f m.value).value := rfl

@[simp]
theorem inside_pure (a : α) : Inside n (pure a : Probe α) := by
  intro span hspan
  exact nomatch hspan

@[simp]
theorem inside_touch (offset length : Nat) : Inside n (touch offset length) ↔ offset + length ≤ n := by
  simp [Inside, touch]

@[simp]
theorem inside_bind (m : Probe α) (f : α → Probe β) : Inside n (m >>= f) ↔ Inside n m ∧ Inside n (f m.value) := by
  simp only [Inside, bind, List.mem_append]
  constructor
  · exact fun h => ⟨fun span hspan => h span (.inl hspan), fun span hspan => h span (.inr hspan)⟩
  · exact fun h span hspan => hspan.elim (h.1 span) (h.2 span)

theorem inside_doIf {c : Prop} [Decidable c] {m : Probe Unit} : Inside n (doIf c m) ↔ (c → Inside n m) := by
  unfold doIf
  split_ifs with h
  · exact ⟨fun hm _ => hm, fun hm => hm h⟩
  · exact ⟨fun _ hc => absurd hc h, fun _ => inside_pure ()⟩

def place (size : Nat → Nat) (q : Nat) : Nat → Nat
  | 0 => q
  | k + 1 => place size q k + size (place size q k)

def walk (next : Nat → Probe Nat) : Nat → Nat → Probe Nat
  | 0, q => pure q
  | k + 1, q => next q >>= walk next k

def checkAll (valid : Nat → Probe Bool) (next : Nat → Probe Nat) : Nat → Nat → Probe (Option Nat)
  | 0, q => pure (some q)
  | k + 1, q => valid q >>= fun ok => if ok then next q >>= checkAll valid next k else pure none

def visitAll (visit : Nat → Probe Unit) (next : Nat → Probe Nat) : Nat → Nat → Probe Unit
  | 0, _ => pure ()
  | k + 1, q => visit q >>= fun _ => next q >>= visitAll visit next k

def findRecord (test : Nat → Probe Bool) (next : Nat → Probe Nat) : Nat → Nat → Probe (Option Nat)
  | 0, _ => pure none
  | k + 1, q => test q >>= fun hit => if hit then pure (some q) else next q >>= findRecord test next k

variable {size : Nat → Nat} {next : Nat → Probe Nat} {valid test : Nat → Probe Bool}
  {visit : Nat → Probe Unit} {q : Nat}

theorem place_succ (size : Nat → Nat) (q k : Nat) : place size q (k + 1) = place size (q + size q) k := by
  induction k with
  | zero => rfl
  | succ k ih => rw [place, ih, place]

theorem place_le_place (size : Nat → Nat) (q : Nat) {i j : Nat} (h : i ≤ j) : place size q i ≤ place size q j := by
  induction h with
  | refl => exact Nat.le_refl _
  | step _ ih => exact Nat.le_trans ih (Nat.le_add_right _ _)

theorem le_place (size : Nat → Nat) (q k : Nat) : q ≤ place size q k :=
  place_le_place size q (Nat.zero_le k)

theorem place_const (s q k : Nat) : place (fun _ => s) q k = q + s * k := by
  induction k with
  | zero => rfl
  | succ k ih => rw [place, ih, Nat.mul_succ, Nat.add_assoc]

theorem place_add_le (size : Nat → Nat) (q : Nat) {i k : Nat} (h : i < k) :
    place size q i + size (place size q i) ≤ place size q k :=
  place_le_place size q h

theorem forall_end_le_iff (size : Nat → Nat) {q k : Nat} (hq : q ≤ n) :
    (∀ i < k, place size q i + size (place size q i) ≤ n) ↔ place size q k ≤ n := by
  constructor
  · intro h
    cases k with
    | zero => exact hq
    | succ k => exact h k (Nat.lt_succ_self k)
  · exact fun h i hi => Nat.le_trans (place_add_le size q hi) h

theorem forall_place_succ {P : Nat → Prop} {k : Nat} :
    (∀ i < k + 1, P (place size q i)) ↔ P q ∧ ∀ i < k, P (place size (q + size q) i) := by
  constructor
  · intro h
    refine ⟨h 0 (Nat.succ_pos k), fun i hi => ?_⟩
    rw [← place_succ]
    exact h (i + 1) (Nat.succ_lt_succ hi)
  · rintro ⟨hfirst, hothers⟩ (_ | i) hi
    · exact hfirst
    · rw [place_succ]
      exact hothers i (Nat.lt_of_succ_lt_succ hi)

section

variable (hnext : ∀ q, (next q).value = q + size q)
include hnext

theorem walk_value (k q : Nat) : (walk next k q).value = place size q k := by
  induction k generalizing q with
  | zero => rfl
  | succ k ih => rw [walk, value_bind, hnext, ih, place_succ]

theorem inside_walk (k q : Nat) : Inside n (walk next k q) ↔ ∀ i < k, Inside n (next (place size q i)) := by
  induction k generalizing q with
  | zero => exact ⟨fun _ _ hi => absurd hi (Nat.not_lt_zero _), fun _ => inside_pure q⟩
  | succ k ih => rw [walk, inside_bind, hnext, ih, forall_place_succ (P := fun q => Inside n (next q))]

theorem checkAll_value (k q : Nat) : (checkAll valid next k q).value =
      if ∀ i < k, (valid (place size q i)).value = true then some (place size q k) else none := by
  induction k generalizing q with
  | zero => simp [checkAll, place]
  | succ k ih =>
    simp only [forall_place_succ (P := fun q => (valid q).value = true), checkAll, value_bind]
    by_cases hvalid : (valid q).value = true
    · rw [if_pos hvalid, value_bind, hnext, ih, place_succ]
      simp only [hvalid, true_and]
    · rw [if_neg hvalid, if_neg fun h => hvalid h.1, value_pure]

theorem inside_checkAll (k q : Nat) :
    Inside n (checkAll valid next k q) ↔ ∀ i < k, (∀ j < i, (valid (place size q j)).value = true) →
        Inside n (valid (place size q i)) ∧
          ((valid (place size q i)).value = true → Inside n (next (place size q i))) := by
  induction k generalizing q with
  | zero => exact ⟨fun _ _ hi => absurd hi (Nat.not_lt_zero _), fun _ => inside_pure _⟩
  | succ k ih =>
    simp only [checkAll, inside_bind]
    by_cases hvalid : (valid q).value = true
    · rw [if_pos hvalid, inside_bind, hnext, ih]
      constructor
      · rintro ⟨hfirst, hnextInside, hothers⟩ (_ | i) hi hbefore
        · exact ⟨hfirst, fun _ => hnextInside⟩
        · rw [place_succ]
          refine hothers i (Nat.lt_of_succ_lt_succ hi) fun j hj => ?_
          rw [← place_succ]
          exact hbefore (j + 1) (Nat.succ_lt_succ hj)
      · intro h
        have hfirst := h 0 (Nat.succ_pos k) fun j hj => absurd hj (Nat.not_lt_zero j)
        refine ⟨hfirst.1, hfirst.2 hvalid, fun i hi hbefore => ?_⟩
        rw [← place_succ]
        refine h (i + 1) (Nat.succ_lt_succ hi) ?_
        rintro (_ | j) hj
        · exact hvalid
        · rw [place_succ]
          exact hbefore j (Nat.lt_of_succ_lt_succ hj)
    · rw [if_neg hvalid]
      constructor
      · rintro ⟨hfirst, -⟩ (_ | i) hi hbefore
        · exact ⟨hfirst, fun h => absurd h hvalid⟩
        · exact absurd (hbefore 0 (Nat.succ_pos i)) hvalid
      · intro h
        exact ⟨(h 0 (Nat.succ_pos k) fun j hj => absurd hj (Nat.not_lt_zero j)).1, inside_pure _⟩

theorem inside_visitAll (k q : Nat) : Inside n (visitAll visit next k q) ↔
      ∀ i < k, Inside n (visit (place size q i)) ∧ Inside n (next (place size q i)) := by
  induction k generalizing q with
  | zero => exact ⟨fun _ _ hi => absurd hi (Nat.not_lt_zero _), fun _ => inside_pure _⟩
  | succ k ih =>
    rw [visitAll, inside_bind, inside_bind, hnext, ih,
      forall_place_succ (P := fun q => Inside n (visit q) ∧ Inside n (next q)), and_assoc]

theorem inside_findRecord {k q : Nat}
    (h : ∀ i < k, Inside n (test (place size q i)) ∧ Inside n (next (place size q i))) :
    Inside n (findRecord test next k q) := by
  induction k generalizing q with
  | zero => exact inside_pure _
  | succ k ih =>
    rw [forall_place_succ (P := fun q => Inside n (test q) ∧ Inside n (next q))] at h
    rw [findRecord, inside_bind]
    refine ⟨h.1.1, ?_⟩
    split_ifs
    · exact inside_pure _
    · rw [inside_bind, hnext]
      exact ⟨h.1.2, ih h.2⟩

theorem place_of_findRecord {k q r : Nat} (h : (findRecord test next k q).value = some r) :
    ∃ i < k, r = place size q i := by
  induction k generalizing q with
  | zero => exact nomatch h
  | succ k ih =>
    rw [findRecord, value_bind] at h
    split_ifs at h
    · cases h
      exact ⟨0, Nat.succ_pos k, rfl⟩
    · rw [value_bind, hnext] at h
      obtain ⟨i, hi, hr⟩ := ih h
      exact ⟨i + 1, Nat.succ_lt_succ hi, by rw [hr, place_succ]⟩

theorem isSome_findRecord (k q : Nat) : (findRecord test next k q).value.isSome = true ↔
    ∃ i < k, (test (place size q i)).value = true := by
  induction k generalizing q with
  | zero => simp [findRecord]
  | succ k ih =>
    rw [findRecord, value_bind]
    by_cases hit : (test q).value = true
    · rw [if_pos hit]
      exact ⟨fun _ => ⟨0, Nat.succ_pos k, hit⟩, fun _ => rfl⟩
    · rw [if_neg hit, value_bind, hnext, ih]
      constructor
      · rintro ⟨i, hi, htest⟩
        rw [← place_succ] at htest
        exact ⟨i + 1, Nat.succ_lt_succ hi, htest⟩
      · rintro ⟨_ | i, hi, htest⟩
        · exact absurd htest hit
        · rw [place_succ] at htest
          exact ⟨i, Nat.lt_of_succ_lt_succ hi, htest⟩

end

end MemoryProbe
