import Mathlib.Data.List.Basic

/-!
# Overwriting rings

A ring is a list of slots and the index of the next slot to write, which is also the oldest one. Read from the newest slot backwards it is a bounded history: writing puts a value in front and drops the last one.
-/

namespace Ring

open List

variable {α : Type*}

def recent (slots : List α) (next : Nat) : List α :=
  (slots.take next).reverse ++ (slots.drop next).reverse

def advance (size next : Nat) : Nat := if next + 1 ≥ size then 0 else next + 1

theorem advance_lt {size next : Nat} (h : 0 < size) : advance size next < size := by
  by_cases hlast : next + 1 ≥ size
  · simpa [advance, hlast] using h
  · simp only [advance, if_neg hlast]
    omega

@[simp]
theorem length_recent (slots : List α) (next : Nat) : (recent slots next).length = slots.length := by
  simp only [recent, length_append, length_reverse, length_take, length_drop]
  omega

@[simp]
theorem recent_replicate (size next : Nat) (blank : α) :
    recent (replicate size blank) next = replicate size blank := by
  apply eq_replicate_iff.mpr
  constructor
  · simp
  · intro a ha
    simp only [recent, mem_append, mem_reverse] at ha
    cases ha with
    | inl ha => exact eq_of_mem_replicate (mem_of_mem_take ha)
    | inr ha => exact eq_of_mem_replicate (mem_of_mem_drop ha)

theorem recent_append_cons (left right : List α) (a : α) :
    recent (left ++ a :: right) left.length = left.reverse ++ right.reverse ++ [a] := by
  simp [recent]

theorem dropLast_recent (left right : List α) (a : α) :
    (recent (left ++ a :: right) left.length).dropLast = left.reverse ++ right.reverse := by
  rw [recent_append_cons, dropLast_concat]

variable {slots history : List α} {next : Nat}

theorem exists_split (h : next < slots.length) : ∃ left a right, slots = left ++ a :: right ∧ left.length = next := by
  refine ⟨slots.take next, slots[next], slots.drop (next + 1), ?_, ?_⟩
  · rw [← drop_eq_getElem_cons h, take_append_drop]
  · simp only [length_take]
    omega

theorem recent_set (h : next < slots.length) (a : α) :
    recent (slots.set next a) (advance slots.length next) = a :: (recent slots next).dropLast := by
  obtain ⟨left, old, right, rfl, rfl⟩ := exists_split h
  have hset : (left ++ old :: right).set left.length a = left ++ a :: right := by simp
  rw [hset, dropLast_recent]
  cases right with
  | nil => simp [recent, advance]
  | cons b right =>
    have hadvance : advance (left ++ old :: b :: right).length left.length = left.length + 1 := by
      simp [advance]
    have hmove : left ++ a :: b :: right = (left ++ [a]) ++ b :: right := by simp
    have hlength : left.length + 1 = (left ++ [a]).length := by simp
    rw [hadvance, hmove, hlength, recent_append_cons]
    simp

theorem recent_set_of_history {blank : α} {written : List α} (h : next < slots.length)
    (hrecent : recent slots next = (written ++ replicate slots.length blank).take slots.length)
    (a : α) : recent (slots.set next a) (advance slots.length next) =
      (a :: written ++ replicate slots.length blank).take slots.length := by
  have hpos : slots.length = slots.length - 1 + 1 := by omega
  have hdrop : ((written ++ replicate slots.length blank).take slots.length).dropLast =
      (written ++ replicate slots.length blank).take (slots.length - 1) := by
    rw [dropLast_eq_take, take_take, length_take, length_append, length_replicate]
    congr 1
    omega
  calc recent (slots.set next a) (advance slots.length next)
      = a :: (written ++ replicate slots.length blank).take (slots.length - 1) := by
        rw [recent_set h, hrecent, hdrop]
    _ = (a :: (written ++ replicate slots.length blank)).take (slots.length - 1 + 1) :=
        take_succ_cons.symm
    _ = (a :: written ++ replicate slots.length blank).take slots.length := by
        rw [← hpos, cons_append]

def Hits (stop hit : α → Prop) (history : List α) : Prop :=
  ∃ (i : Nat) (a : α), history[i]? = some a ∧ hit a ∧ ∀ j ≤ i, ∀ b, history[j]? = some b → ¬stop b

variable {stop hit : α → Prop}

theorem not_hits_nil : ¬Hits stop hit [] := by
  intro h
  obtain ⟨i, a, ha, -⟩ := h
  simp at ha

theorem not_hits_of_stop {a : α} (h : stop a) : ¬Hits stop hit (a :: history) := by
  intro hhits
  obtain ⟨i, b, -, -, hall⟩ := hhits
  exact hall 0 (Nat.zero_le i) a rfl h

theorem hits_cons_of_hit {a : α} (hstop : ¬stop a) (hhit : hit a) : Hits stop hit (a :: history) := by
  refine ⟨0, a, rfl, hhit, ?_⟩
  intro j hj b hb
  have hzero : j = 0 := Nat.le_zero.mp hj
  subst hzero
  have hab : a = b := by simpa using hb
  exact hab ▸ hstop

theorem hits_cons_iff {a : α} (hstop : ¬stop a) (hhit : ¬hit a) :
    Hits stop hit (a :: history) ↔ Hits stop hit history := by
  constructor
  · intro h
    obtain ⟨i, b, hb, hbhit, hall⟩ := h
    cases i with
    | zero =>
      have hab : a = b := by simpa using hb
      exact absurd (hab ▸ hbhit) hhit
    | succ i =>
      refine ⟨i, b, by simpa using hb, hbhit, ?_⟩
      intro j hj c hc
      exact hall (j + 1) (by omega) c (by simpa using hc)
  · intro h
    obtain ⟨i, b, hb, hbhit, hall⟩ := h
    refine ⟨i + 1, b, by simpa using hb, hbhit, ?_⟩
    intro j hj c hc
    cases j with
    | zero =>
      have hac : a = c := by simpa using hc
      exact hac ▸ hstop
    | succ j => exact hall j (by omega) c (by simpa using hc)

end Ring
