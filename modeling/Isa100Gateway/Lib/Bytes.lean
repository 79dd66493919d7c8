import Mathlib.Data.Nat.Bitwise
import Mathlib.Tactic.NormNum

/-!
# Words and their big-endian bytes

Values of the shift-and-or expressions that C code uses to split a word into bytes and to join them again, as plain arithmetic.
-/

namespace Bytes

theorem lor_eq_add {a b k : Nat} (hb : b < 2 ^ k) : a * 2 ^ k ||| b = a * 2 ^ k + b := by
  rw [← Nat.shiftLeft_eq, Nat.shiftLeft_add_eq_or_of_lt hb]

theorem toNat_split_high (x : UInt16) : (x >>> 8).toUInt8.toNat = x.toNat / 256 := by
  have hx := x.toNat_lt
  have hval : (x >>> 8).toNat = x.toNat / 256 := by
    simp [Nat.shiftRight_eq_div_pow]
  rw [UInt16.toNat_toUInt8, hval]
  omega

theorem toNat_split_low (x : UInt16) : x.toUInt8.toNat = x.toNat % 256 := by
  simp

theorem toNat_join (high low : UInt8) :
    (high.toUInt16 <<< 8 ||| low.toUInt16).toNat = high.toNat * 256 + low.toNat := by
  have hhigh := high.toNat_lt
  have hlow := low.toNat_lt
  have hshift : (high.toUInt16 <<< 8).toNat = high.toNat * 2 ^ 8 := by
    simp [Nat.shiftLeft_eq]
    omega
  rw [UInt16.toNat_or, hshift, UInt8.toNat_toUInt16, lor_eq_add hlow]
  omega

theorem join_split (x : UInt16) : (x >>> 8).toUInt8.toUInt16 <<< 8 ||| x.toUInt8.toUInt16 = x := by
  apply UInt16.toNat_inj.mp
  rw [toNat_join, toNat_split_high, toNat_split_low]
  omega

theorem split_join (high low : UInt8) :
    [((high.toUInt16 <<< 8 ||| low.toUInt16) >>> 8).toUInt8, (high.toUInt16 <<< 8 ||| low.toUInt16).toUInt8] =
      [high, low] := by
  have hhigh := high.toNat_lt
  have hlow := low.toNat_lt
  have h₁ : ((high.toUInt16 <<< 8 ||| low.toUInt16) >>> 8).toUInt8 = high := by
    apply UInt8.toNat_inj.mp
    rw [toNat_split_high, toNat_join]
    omega
  have h₀ : (high.toUInt16 <<< 8 ||| low.toUInt16).toUInt8 = low := by
    apply UInt8.toNat_inj.mp
    rw [toNat_split_low, toNat_join]
    omega
  rw [h₁, h₀]

theorem toNat_split32 (x : UInt32) (k : UInt32) (hk : k < 32) :
    (x >>> k).toUInt8.toNat = x.toNat / 2 ^ k.toNat % 256 := by
  have hmod : k.toNat % 32 = k.toNat := Nat.mod_eq_of_lt hk
  simp [Nat.shiftRight_eq_div_pow, hmod]

theorem toNat_join32 (b₃ b₂ b₁ b₀ : UInt8) :
    (b₃.toUInt32 <<< 24 ||| b₂.toUInt32 <<< 16 ||| b₁.toUInt32 <<< 8 ||| b₀.toUInt32).toNat =
      ((b₃.toNat * 256 + b₂.toNat) * 256 + b₁.toNat) * 256 + b₀.toNat := by
  have h₃ := b₃.toNat_lt
  have h₂ := b₂.toNat_lt
  have h₁ := b₁.toNat_lt
  have h₀ := b₀.toNat_lt
  have e₃ : (b₃.toUInt32 <<< 24).toNat = b₃.toNat * 2 ^ 24 := by
    simp [Nat.shiftLeft_eq]
    omega
  have e₂ : (b₂.toUInt32 <<< 16).toNat = b₂.toNat * 2 ^ 16 := by
    simp [Nat.shiftLeft_eq]
    omega
  have e₁ : (b₁.toUInt32 <<< 8).toNat = b₁.toNat * 2 ^ 8 := by
    simp [Nat.shiftLeft_eq]
    omega
  have hjoin₂ : b₃.toNat * 2 ^ 24 ||| b₂.toNat * 2 ^ 16 = (b₃.toNat * 256 + b₂.toNat) * 2 ^ 16 := by
    rw [lor_eq_add (by omega)]
    omega
  have hjoin₁ : (b₃.toNat * 256 + b₂.toNat) * 2 ^ 16 ||| b₁.toNat * 2 ^ 8 =
      ((b₃.toNat * 256 + b₂.toNat) * 256 + b₁.toNat) * 2 ^ 8 := by
    rw [lor_eq_add (by omega)]
    omega
  rw [UInt32.toNat_or, UInt32.toNat_or, UInt32.toNat_or, e₃, e₂, e₁, hjoin₂, hjoin₁,
    UInt8.toNat_toUInt32, lor_eq_add h₀]
  omega

theorem join_split32 (x : UInt32) : (x >>> 24).toUInt8.toUInt32 <<< 24 ||| (x >>> 16).toUInt8.toUInt32 <<< 16 |||
      (x >>> 8).toUInt8.toUInt32 <<< 8 ||| x.toUInt8.toUInt32 = x := by
  have hx := x.toNat_lt
  apply UInt32.toNat_inj.mp
  rw [toNat_join32, toNat_split32 x 24 (by decide), toNat_split32 x 16 (by decide),
    toNat_split32 x 8 (by decide), UInt32.toNat_toUInt8]
  simp only [UInt32.reduceToNat]
  omega

theorem split_join32 (b₃ b₂ b₁ b₀ : UInt8) {x : UInt32}
    (hx : x = b₃.toUInt32 <<< 24 ||| b₂.toUInt32 <<< 16 ||| b₁.toUInt32 <<< 8 ||| b₀.toUInt32) :
    [(x >>> 24).toUInt8, (x >>> 16).toUInt8, (x >>> 8).toUInt8, x.toUInt8] = [b₃, b₂, b₁, b₀] := by
  have hval : x.toNat = ((b₃.toNat * 256 + b₂.toNat) * 256 + b₁.toNat) * 256 + b₀.toNat := by
    rw [hx, toNat_join32]
  have hbyte : ∀ (k : UInt32) (b : UInt8), k < 32 → x.toNat / 2 ^ k.toNat % 256 = b.toNat → (x >>> k).toUInt8 = b := by
    intro k b hk hb
    apply UInt8.toNat_inj.mp
    rw [toNat_split32 x k hk, hb]
  have h₃ := b₃.toNat_lt
  have h₂ := b₂.toNat_lt
  have h₁ := b₁.toNat_lt
  have h₀ := b₀.toNat_lt
  have hlow : x.toUInt8 = b₀ := by
    apply UInt8.toNat_inj.mp
    rw [UInt32.toNat_toUInt8]
    omega
  rw [hbyte 24 b₃ (by decide) (by change _ / 2 ^ 24 % 256 = _; omega),
    hbyte 16 b₂ (by decide) (by change _ / 2 ^ 16 % 256 = _; omega),
    hbyte 8 b₁ (by decide) (by change _ / 2 ^ 8 % 256 = _; omega), hlow]

theorem toNat_and_two_pow_sub_one (x : UInt16) (k : Nat) (mask : UInt16)
    (hmask : mask.toNat = 2 ^ k - 1) : (x &&& mask).toNat = x.toNat % 2 ^ k := by
  rw [UInt16.toNat_and, hmask, Nat.and_two_pow_sub_one_eq_mod]

theorem forall_uint8 {P : UInt8 → Prop} (h : ∀ n < 256, P (UInt8.ofNat n)) (b : UInt8) : P b := by
  have := h b.toNat b.toNat_lt
  rwa [UInt8.ofNat_toNat] at this

theorem toInt_toInt32_sub {a b : UInt32} (hb : b.toNat ≤ 2 ^ 31) : (a - b).toInt32.toInt =
      if a.toNat < b.toNat + 2 ^ 31 then (a.toNat : Int) - b.toNat else (a.toNat : Int) - b.toNat - 2 ^ 32 := by
  have hbound := a.toNat_lt
  have hbits : (a - b).toInt32.toInt = (a.toBitVec - b.toBitVec).toInt := rfl
  have ha : a.toBitVec.toNat = a.toNat := rfl
  have hb' : b.toBitVec.toNat = b.toNat := rfl
  rw [hbits, BitVec.toInt_eq_toNat_cond, BitVec.toNat_sub, ha, hb']
  by_cases hless : a.toNat < b.toNat + 2 ^ 31
  · rw [if_pos hless]
    split <;> omega
  · rw [if_neg hless, if_neg] <;> omega

/-- `memcmp(a, b, n) < 0` for the `n` bytes that both lists hold. -/
def memcmpLess (a b : List UInt8) : Bool := decide (a < b)

theorem memcmpLess_irrefl (a : List UInt8) : memcmpLess a a = false :=
  decide_eq_false (List.lt_irrefl a)

theorem memcmpLess_asymm {a b : List UInt8} (h : memcmpLess a b = true) : memcmpLess b a = false :=
  decide_eq_false (List.lt_asymm (of_decide_eq_true h))

theorem memcmpLess_trans {a b c : List UInt8} (hab : memcmpLess a b = true) (hbc : memcmpLess b c = true) :
    memcmpLess a c = true :=
  decide_eq_true (List.lt_trans (of_decide_eq_true hab) (of_decide_eq_true hbc))

theorem eq_of_not_memcmpLess {a b : List UInt8} (hab : memcmpLess a b = false) (hba : memcmpLess b a = false) :
    a = b :=
  Std.le_antisymm (List.not_lt.mp (of_decide_eq_false hba)) (List.not_lt.mp (of_decide_eq_false hab))

end Bytes
