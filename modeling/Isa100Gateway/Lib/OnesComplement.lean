import Mathlib.Algebra.BigOperators.Group.List.Basic
import Mathlib.Algebra.Order.BigOperators.Group.List
import Mathlib.Algebra.Order.Group.Nat
import Mathlib.Data.List.Basic
import Mathlib.Algebra.Ring.Nat

/-!
# One's complement sums

The checksum of the internet protocols: words of 16 bits are added with the carry brought back in at the end, and the sum is complemented. The sum only depends on the plain sum of the words.
-/

namespace OnesComplement

/-- The big-endian words of some bytes; a last odd byte is the high half of a word. -/
def words : List UInt8 → List Nat
  | [] => []
  | [high] => [high.toNat * 256]
  | high :: low :: data => (high.toNat * 256 + low.toNat) :: words data

def add (a b : Nat) : Nat := if a + b < 65536 then a + b else a + b - 65535

def sum (ws : List Nat) : Nat := ws.foldl add 0

def checksum (ws : List Nat) : Nat := if sum ws = 65535 then 65535 else 65535 - sum ws

def fold (n : Nat) : Nat := if n = 0 then 0 else (n - 1) % 65535 + 1

theorem add_fold (n : Nat) {w : Nat} (hw : w < 65536) : add (fold n) w = fold (n + w) := by
  unfold add fold
  by_cases hn : n = 0
  · subst hn
    rw [if_pos rfl, Nat.zero_add, if_pos hw]
    split
    · assumption
    · omega
  · have hsum : n + w ≠ 0 := by omega
    rw [if_neg hn, if_neg hsum]
    split <;> omega

theorem sum_eq {ws : List Nat} (hws : ∀ w ∈ ws, w < 65536) : sum ws = fold ws.sum := by
  have hfoldl : ∀ n, ws.foldl add (fold n) = fold (n + ws.sum) := by
    induction ws with
    | nil => exact fun n => rfl
    | cons w ws ih =>
      intro n
      calc (w :: ws).foldl add (fold n)
          = ws.foldl add (fold (n + w)) := by
            rw [List.foldl_cons, add_fold n (hws w List.mem_cons_self)]
        _ = fold (n + w + ws.sum) := ih (fun v hv => hws v (List.mem_cons_of_mem w hv)) (n + w)
        _ = fold (n + (w :: ws).sum) := by rw [List.sum_cons, Nat.add_assoc]
  have hzero := hfoldl 0
  rwa [Nat.zero_add] at hzero

theorem fold_le (n : Nat) : fold n ≤ 65535 := by
  unfold fold
  split <;> omega

theorem fold_mod (n : Nat) : fold n % 65535 = n % 65535 := by
  unfold fold
  split <;> omega

theorem eq_checksum_iff {ws : List Nat} (hws : ∀ w ∈ ws, w < 65536) {word : Nat} (hword : word < 65536) :
    (if word = 65535 then 65535 else 65535 - word) = checksum ws ↔ word % 65535 = ws.sum % 65535 := by
  have hle := fold_le ws.sum
  rw [checksum, sum_eq hws, ← fold_mod ws.sum]
  split <;> split <;> omega

theorem words_lt (data : List UInt8) : ∀ w ∈ words data, w < 65536 := by
  induction data using words.induct with
  | case1 => exact fun w hw => absurd hw List.not_mem_nil
  | case2 high =>
    intro w hw
    have hhigh := high.toNat_lt
    rw [List.mem_singleton.mp hw]
    omega
  | case3 high low data ih =>
    intro w hw
    have hhigh := high.toNat_lt
    have hlow := low.toNat_lt
    rcases List.mem_cons.mp hw with rfl | hw
    · omega
    · exact ih w hw

theorem words_append {front : List UInt8} (heven : front.length % 2 = 0) (data : List UInt8) :
    words (front ++ data) = words front ++ words data := by
  induction front using words.induct with
  | case1 => rfl
  | case2 high => simp at heven
  | case3 high low front ih =>
    rw [List.length_cons, List.length_cons] at heven
    rw [List.cons_append, List.cons_append, words, words, ih (by omega), List.cons_append]

theorem two_mul_length_words_le (data : List UInt8) : 2 * (words data).length ≤ data.length + 1 := by
  induction data using words.induct with
  | case1 => exact Nat.zero_le _
  | case2 high => exact Nat.le_refl _
  | case3 high low data ih =>
    rw [words, List.length_cons, List.length_cons, List.length_cons]
    omega

theorem sum_words_le (data : List UInt8) : (words data).sum ≤ (words data).length * 65535 :=
  List.sum_le_card_nsmul _ _ fun w hw => Nat.le_of_lt_succ (words_lt data w hw)

end OnesComplement
