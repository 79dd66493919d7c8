import Mathlib.Data.List.Basic
import Mathlib.Logic.Function.Basic

/-!
# Counting over a finite set of keys

A partial map as a function to `Option`, the number of keys whose value passes a test, and cursors that step over the keys in use.
-/

namespace Census

open List

section Count

variable {α β : Type*} {keys : List α} {f : α → Option β} {p : β → Bool} {a : α}

def count (p : β → Bool) (keys : List α) (f : α → Option β) : Nat :=
  keys.countP fun a => (f a).any p

theorem count_update_of_notMem [DecidableEq α] (ha : a ∉ keys) (f : α → Option β) (b : Option β) :
    count p keys (Function.update f a b) = count p keys f := by
  apply countP_congr
  intro x hx
  rw [Function.update_of_ne (ne_of_mem_of_not_mem hx ha)]

theorem count_update [DecidableEq α] (hkeys : keys.Nodup) (ha : a ∈ keys) (f : α → Option β)
    (b : Option β) : count p keys (Function.update f a b) + ((f a).any p).toNat =
      count p keys f + (b.any p).toNat := by
  induction keys with
  | nil => exact absurd ha not_mem_nil
  | cons k keys ih =>
    obtain ⟨hk, hrest⟩ := nodup_cons.mp hkeys
    unfold count at ih ⊢
    simp only [countP_cons]
    by_cases heq : k = a
    · subst heq
      have hsame : keys.countP (fun x => (Function.update f k b x).any p) =
          keys.countP fun x => (f x).any p := count_update_of_notMem hk f b
      rw [hsame, Function.update_self]
      cases (f k).any p <;> cases b.any p <;> simp
    · have hmem : a ∈ keys := (mem_cons.mp ha).resolve_left (Ne.symm heq)
      have := ih hrest hmem
      rw [Function.update_of_ne heq]
      omega

theorem count_le_length (p : β → Bool) (keys : List α) (f : α → Option β) : count p keys f ≤ keys.length :=
  countP_le_length

theorem count_pos (ha : a ∈ keys) {b : β} (hb : f a = some b) (hp : p b = true) : 0 < count p keys f :=
  countP_pos_iff.mpr ⟨a, ha, by simp [hb, hp]⟩

end Count

theorem findSome?_eq_find? {α γ : Type*} {f : α → Option γ} {p : α → Bool} {g : α → γ} {l : List α}
    (h : ∀ a ∈ l, f a = if p a = true then some (g a) else none) :
    l.findSome? f = (l.find? p).map g := by
  induction l with
  | nil => rfl
  | cons a l ih =>
    have hrest := ih fun b hb => h b (mem_cons_of_mem a hb)
    rw [findSome?_cons, find?_cons, h a mem_cons_self]
    cases p a with
    | true => rfl
    | false => exact hrest

section Skip

variable (taken : Nat → Bool)

def skip (t k : Nat) : Nat := if taken k = true ∧ t = k then t + 1 else t

theorem foldl_skip (s n : Nat) :
    s ≤ (range n).foldl (skip taken) s ∧ (range n).foldl (skip taken) s ≤ max s n ∧
      (∀ i, s ≤ i → i < (range n).foldl (skip taken) s → taken i = true) ∧
      ((range n).foldl (skip taken) s < n → taken ((range n).foldl (skip taken) s) = false) := by
  induction n with
  | zero => exact ⟨Nat.le_refl s, by simp, fun i hle hlt => absurd hlt (Nat.not_lt.mpr hle), fun h => nomatch h⟩
  | succ n ih =>
    obtain ⟨hge, hle, hpassed, hfree⟩ := ih
    rw [range_succ, foldl_append]
    generalize (range n).foldl (skip taken) s = t at hge hle hpassed hfree ⊢
    change s ≤ skip taken t n ∧ skip taken t n ≤ max s (n + 1) ∧ (∀ i, s ≤ i → i < skip taken t n → taken i = true) ∧
      (skip taken t n < n + 1 → taken (skip taken t n) = false)
    unfold skip
    by_cases hmeet : taken n = true ∧ t = n
    · rw [if_pos hmeet]
      refine ⟨by omega, by omega, ?_, by omega⟩
      intro i hi hlt
      by_cases hlast : i = n
      · rw [hlast, hmeet.1]
      · exact hpassed i hi (by omega)
    · rw [if_neg hmeet]
      refine ⟨hge, by omega, hpassed, ?_⟩
      intro hlt
      by_cases hlast : t = n
      · rw [not_and'] at hmeet
        rw [hlast]
        exact Bool.eq_false_iff.mpr (hmeet hlast)
      · exact hfree (by omega)

end Skip

end Census
