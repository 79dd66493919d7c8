import Mathlib.Algebra.Ring.Nat

/-!
# Tilings of a range

A range of cells asked for in spans, each given by its first cell and its length, one span beginning where the one before ends. A tiling has every cell of the range in exactly one span, and the spans of a list, cut out and put together, are the list.
-/

namespace Tiling

/-- The spans follow one another from `lo` to `hi`, and none is empty. -/
def Tiles : Nat → List (Nat × Nat) → Nat → Prop
  | lo, [], hi => lo = hi
  | lo, span :: spans, hi => span.1 = lo ∧ 0 < span.2 ∧ Tiles (lo + span.2) spans hi

def cover (spans : List (Nat × Nat)) : Nat := (spans.map Prod.snd).sum

variable {lo hi : Nat} {spans : List (Nat × Nat)}

theorem Tiles.eq_add_cover (h : Tiles lo spans hi) : hi = lo + cover spans := by
  induction spans generalizing lo with
  | nil => exact h.symm
  | cons span spans ih =>
    rw [ih h.2.2, cover, cover, List.map_cons, List.sum_cons, Nat.add_assoc]

theorem Tiles.le (h : Tiles lo spans hi) : lo ≤ hi := by
  rw [h.eq_add_cover]
  exact Nat.le_add_right _ _

theorem Tiles.append (h : Tiles lo spans hi) {n : Nat} (hn : 0 < n) : Tiles lo (spans ++ [(hi, n)]) (hi + n) := by
  induction spans generalizing lo with
  | nil =>
    obtain rfl : lo = hi := h
    exact ⟨rfl, hn, rfl⟩
  | cons span spans ih => exact ⟨h.1, h.2.1, ih h.2.2⟩

@[simp]
theorem cover_append (n : Nat × Nat) : cover (spans ++ [n]) = cover spans + n.2 := by
  simp [cover]

theorem Tiles.countP_outside (h : Tiles lo spans hi) {i : Nat} (hi' : i < lo ∨ hi ≤ i) :
    spans.countP (fun span => span.1 ≤ i ∧ i < span.1 + span.2) = 0 := by
  induction spans generalizing lo with
  | nil => rfl
  | cons span spans ih =>
    obtain ⟨hfirst, hlen, hrest⟩ := h
    have hend := hrest.le
    rw [List.countP_cons_of_neg, ih hrest (by omega)]
    simp only [decide_eq_true_eq]
    omega

theorem Tiles.countP_inside (h : Tiles lo spans hi) {i : Nat} (hlo : lo ≤ i) (hhi : i < hi) :
    spans.countP (fun span => span.1 ≤ i ∧ i < span.1 + span.2) = 1 := by
  induction spans generalizing lo with
  | nil =>
    obtain rfl : lo = hi := h
    omega
  | cons span spans ih =>
    obtain ⟨rfl, hlen, hrest⟩ := h
    by_cases hhere : i < span.1 + span.2
    · rw [List.countP_cons_of_pos (by simpa using ⟨hlo, hhere⟩), hrest.countP_outside (.inl hhere)]
    · rw [List.countP_cons_of_neg (by simpa using fun _ => by omega), ih hrest (by omega)]

/-! ## Blocks of one size

A range of `size` cells cut into blocks of `block` cells, of which the last may be shorter.
-/

def blockCount (size block : Nat) : Nat := (size + block - 1) / block

def blockSpan (size block i : Nat) : Nat × Nat := (i * block, min block (size - i * block))

def blockSpans (size block : Nat) : List (Nat × Nat) := (List.range (blockCount size block)).map (blockSpan size block)

@[simp]
theorem length_blockSpans (size block : Nat) : (blockSpans size block).length = blockCount size block := by
  simp [blockSpans]

section Blocks

variable {size block : Nat}

theorem lt_blockCount_iff (hblock : 0 < block) {i : Nat} : i < blockCount size block ↔ i * block < size := by
  rw [blockCount, ← Nat.succ_le_iff, Nat.le_div_iff_mul_le hblock, Nat.succ_mul]
  omega

theorem le_blockCount_mul (hblock : 0 < block) : size ≤ blockCount size block * block :=
  Nat.not_lt.mp fun hlt => Nat.lt_irrefl _ ((lt_blockCount_iff hblock).mpr hlt)

theorem tiles_map_blockSpan (hblock : 0 < block) {n : Nat} (hn : n ≤ blockCount size block) :
    Tiles 0 ((List.range n).map (blockSpan size block)) (min size (n * block)) := by
  induction n with
  | zero => simp [Tiles]
  | succ n ih =>
    have hstart : n * block < size := (lt_blockCount_iff hblock).mp hn
    have hlast := (ih (Nat.le_of_succ_le hn)).append (n := min block (size - n * block)) (by omega)
    have hfrom : min size (n * block) = n * block := Nat.min_eq_right (Nat.le_of_lt hstart)
    have hto : n * block + min block (size - n * block) = min size ((n + 1) * block) := by
      rw [Nat.succ_mul]
      omega
    rw [hfrom, hto] at hlast
    rwa [List.range_succ, List.map_append]

theorem tiles_blockSpans (hblock : 0 < block) : Tiles 0 (blockSpans size block) size := by
  have htiles := tiles_map_blockSpan hblock (Nat.le_refl (blockCount size block))
  rwa [Nat.min_eq_left (le_blockCount_mul hblock)] at htiles

/-- A range that is no multiple of the block size has one block more than fit into it, and a multiple has just these. -/
theorem blockCount_eq (hblock : 0 < block) :
    blockCount size block = if block ∣ size then size / block else size / block + 1 := by
  split
  · next hdvd =>
    obtain ⟨k, rfl⟩ := hdvd
    rw [blockCount, Nat.mul_div_cancel_left _ hblock, Nat.add_sub_assoc hblock, Nat.mul_add_div hblock,
      Nat.div_eq_of_lt (by omega), Nat.add_zero]
  · next hdvd =>
    have hrem : 0 < size % block := Nat.pos_of_ne_zero fun hzero => hdvd (Nat.dvd_of_mod_eq_zero hzero)
    have hlt : size % block < block := Nat.mod_lt _ hblock
    have hsplit : size + block - 1 = block * (size / block + 1) + (size % block - 1) := by
      have hdivmod := Nat.div_add_mod size block
      rw [Nat.mul_add, Nat.mul_one]
      omega
    have hrest : (size % block - 1) / block = 0 := Nat.div_eq_of_lt (by omega)
    rw [blockCount, hsplit, Nat.mul_add_div hblock, hrest, Nat.add_zero]

end Blocks

end Tiling
