import Mathlib.Data.List.Infix

/-!
# A marker of equal symbols

A stream is searched for `n` equal symbols in a row, one symbol at a time. In front of a marker there may be anything that does not contain one; if it ends in the symbol of the marker itself, the search ends that much too early.
-/

namespace RunMarker

open List

variable {α : Type*} [DecidableEq α] (x : α) (n : Nat)

/-- What follows the first `n` times `x` in a row, `k` of which have just been read. -/
def seek : Nat → List α → Option (List α)
  | _, [] => none
  | k, b :: stream =>
    if b = x then
      if k + 1 = n then some stream else seek (k + 1) stream
    else seek 0 stream

/-- How many times `x` stands at the end, behind `k` of them. -/
def runLength : Nat → List α → Nat
  | k, [] => k
  | k, b :: noise => runLength (if b = x then k + 1 else 0) noise

variable {x n} {k : Nat} {noise : List α}

theorem runLength_concat (k : Nat) (noise : List α) (b : α) :
    runLength x k (noise ++ [b]) = if b = x then runLength x k noise + 1 else 0 := by
  induction noise generalizing k with
  | nil => rfl
  | cons b' noise ih => exact ih _

theorem runLength_eq_zero_iff : runLength x 0 noise = 0 ↔ noise.getLast? ≠ some x := by
  induction noise using reverseRecOn with
  | nil => simp [runLength]
  | append_singleton noise b _ =>
    rw [runLength_concat, getLast?_concat]
    by_cases hb : b = x
    · simp [hb]
    · simp [hb]

/-- The noise and the `k` symbols before it contain no marker. -/
def Clean (x : α) (n k : Nat) (noise : List α) : Prop :=
  ¬ replicate n x <:+: replicate k x ++ noise

omit [DecidableEq α] in
theorem Clean.lt (h : Clean x n k noise) : k < n := by
  by_contra hle
  apply h
  refine ⟨[], replicate (k - n) x ++ noise, ?_⟩
  rw [nil_append, ← append_assoc, replicate_append_replicate]
  congr 2
  omega

omit [DecidableEq α] in
theorem Clean.same (h : Clean x n k (x :: noise)) : Clean x n (k + 1) noise := by
  unfold Clean at h ⊢
  rwa [replicate_succ', append_assoc, singleton_append]

omit [DecidableEq α] in
theorem Clean.other {b : α} (h : Clean x n k (b :: noise)) : Clean x n 0 noise := by
  intro hmarker
  apply h
  refine hmarker.trans (IsSuffix.isInfix ?_)
  exact ⟨replicate k x ++ [b], by simp⟩

theorem runLength_lt (h : Clean x n k noise) : runLength x k noise < n := by
  induction noise generalizing k with
  | nil => exact h.lt
  | cons b noise ih =>
    rw [runLength]
    by_cases hb : b = x
    · subst hb
      rw [if_pos rfl]
      exact ih h.same
    · rw [if_neg hb]
      exact ih h.other

theorem seek_append (h : Clean x n k noise) (stream : List α) :
    seek x n k (noise ++ stream) = seek x n (runLength x k noise) stream := by
  induction noise generalizing k with
  | nil => rfl
  | cons b noise ih =>
    rw [cons_append, seek, runLength]
    by_cases hb : b = x
    · subst hb
      have hnext : k + 1 ≠ n := h.same.lt.ne
      rw [if_pos rfl, if_neg hnext, if_pos rfl]
      exact ih h.same
    · rw [if_neg hb, if_neg hb]
      exact ih h.other

theorem seek_replicate (hk : k < n) (stream : List α) : seek x n k (replicate (n - k) x ++ stream) = some stream := by
  induction hlen : n - k generalizing k with
  | zero => omega
  | succ m ih =>
    rw [replicate_succ, cons_append, seek, if_pos rfl]
    by_cases hlast : k + 1 = n
    · have hm : m = 0 := by omega
      rw [if_pos hlast, hm]
      rfl
    · rw [if_neg hlast]
      exact ih (by omega) (by omega)

theorem seek_marker (h : Clean x n 0 noise) (stream : List α) : seek x n 0 (noise ++ (replicate n x ++ stream)) =
      some (replicate (runLength x 0 noise) x ++ stream) := by
  have hlt := runLength_lt h
  have hsplit : replicate n x =
      replicate (n - runLength x 0 noise) x ++ replicate (runLength x 0 noise) x := by
    rw [replicate_append_replicate]
    congr 1
    omega
  calc seek x n 0 (noise ++ (replicate n x ++ stream))
      = seek x n (runLength x 0 noise) (replicate n x ++ stream) := seek_append h _
    _ = seek x n (runLength x 0 noise) (replicate (n - runLength x 0 noise) x ++
          (replicate (runLength x 0 noise) x ++ stream)) := by
        rw [← append_assoc, ← hsplit]
    _ = some (replicate (runLength x 0 noise) x ++ stream) := seek_replicate hlt _

omit [DecidableEq α] in
theorem eq_replicate_of_shift {block : List α} (hk : 0 < k)
    (h : replicate k x ++ block.take (block.length - k) = block) : block = replicate block.length x := by
  have hall : ∀ (i : Nat) (hi : i < block.length), block[i] = x := by
    intro i
    induction i using Nat.strong_induction_on with
    | _ i ih =>
      intro hi
      have hshift : (replicate k x ++ block.take (block.length - k))[i]? = some block[i] := by
        rw [h, getElem?_eq_getElem hi]
      by_cases hik : i < k
      · rw [getElem?_append_left (by simpa using hik), getElem?_replicate, if_pos hik] at hshift
        exact (Option.some.inj hshift).symm
      · have hback : i - k < block.length := by omega
        rw [getElem?_append_right (by simpa using hik), length_replicate,
          getElem?_take_of_lt (by omega), getElem?_eq_getElem hback] at hshift
        rw [← Option.some.inj hshift]
        exact ih (i - k) (by omega) hback
  refine eq_replicate_iff.2 ⟨rfl, fun b hb => ?_⟩
  obtain ⟨i, hi, rfl⟩ := mem_iff_getElem.1 hb
  exact hall i hi

end RunMarker
