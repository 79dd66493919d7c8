import Mathlib.Data.List.Basic
import Mathlib.Algebra.Order.Group.Nat

/-!
# Counter mode with CBC-MAC

CCM with a 13-byte nonce and a 2-byte length field, over any block cipher. The block cipher is a function on byte strings that is only ever used forwards.
-/

namespace Ccm

def blockSize : Nat := 16

abbrev BlockCipher := List UInt8 → List UInt8

def xorBytes (a b : List UInt8) : List UInt8 := List.zipWith (· ^^^ ·) a b

def pad (data : List UInt8) : List UInt8 :=
  data ++ List.replicate ((blockSize - data.length % blockSize) % blockSize) 0

def blocks (data : List UInt8) : List (List UInt8) :=
  (List.range (data.length / blockSize)).map fun i => (data.drop (blockSize * i)).take blockSize

theorem blocks_append {front : List UInt8} (hfront : front.length = blockSize) (data : List UInt8) :
    blocks (front ++ data) = front :: blocks data := by
  have hcount : (front ++ data).length / blockSize = data.length / blockSize + 1 := by
    rw [List.length_append, hfront, Nat.add_comm]
    exact Nat.add_div_right _ (by decide)
  have hblock : ∀ i, ((front ++ data).drop (blockSize * (i + 1))).take blockSize =
      (data.drop (blockSize * i)).take blockSize := by
    intro i
    rw [Nat.mul_succ, Nat.add_comm, ← hfront, ← List.drop_drop, List.drop_left]
  rw [blocks, hcount, List.range_succ_eq_map, List.map_cons, List.map_map, Nat.mul_zero, List.drop_zero, ← hfront,
    List.take_left, hfront]
  congr 1
  exact List.map_congr_left fun i _ => hblock i

theorem blocks_eq_nil {data : List UInt8} (h : data.length < blockSize) : blocks data = [] := by
  rw [blocks, Nat.div_eq_of_lt h]
  rfl

theorem length_of_mem_blocks {data block : List UInt8} (h : block ∈ blocks data) : block.length = blockSize := by
  obtain ⟨i, hi, rfl⟩ := List.mem_map.mp h
  have hwhole : blockSize * (i + 1) ≤ data.length :=
    (Nat.mul_le_mul_left _ (List.mem_range.mp hi)).trans (Nat.mul_div_le _ _)
  rw [Nat.mul_succ] at hwhole
  rw [List.length_take_of_le]
  rw [List.length_drop]
  omega

def lengthField (n : Nat) : List UInt8 := [UInt8.ofNat (n / 256), UInt8.ofNat n]

def firstBlock (micLen : Nat) (nonce aad msg : List UInt8) : List UInt8 :=
  UInt8.ofNat ((if aad = [] then 0 else 64) + 8 * ((micLen - 2) / 2) + 1) :: nonce ++ lengthField msg.length

def aadField (aad : List UInt8) : List UInt8 :=
  if aad = [] then [] else pad (lengthField aad.length ++ aad)

def cbcMac (E : BlockCipher) (bs : List (List UInt8)) : List UInt8 :=
  bs.foldl (fun x b => E (xorBytes x b)) (List.replicate blockSize 0)

def tag (E : BlockCipher) (micLen : Nat) (nonce aad msg : List UInt8) : List UInt8 :=
  cbcMac E (blocks (firstBlock micLen nonce aad msg ++ aadField aad ++ pad msg))

def counterBlock (nonce : List UInt8) (i : Nat) : List UInt8 := 1 :: nonce ++ lengthField i

def keyStream (E : BlockCipher) (nonce : List UInt8) (j : Nat) : UInt8 :=
  (E (counterBlock nonce (j / blockSize + 1))).getD (j % blockSize) 0

def ctr (E : BlockCipher) (nonce msg : List UInt8) : List UInt8 :=
  msg.mapIdx fun j b => b ^^^ keyStream E nonce j

def mic (E : BlockCipher) (micLen : Nat) (nonce aad msg : List UInt8) : List UInt8 :=
  (List.range micLen).map fun i =>
    (tag E micLen nonce aad msg).getD i 0 ^^^ (E (counterBlock nonce 0)).getD i 0

def encrypt (E : BlockCipher) (micLen : Nat) (nonce aad msg : List UInt8) : List UInt8 :=
  ctr E nonce msg ++ mic E micLen nonce aad msg

def decrypt (E : BlockCipher) (micLen : Nat) (nonce aad buf : List UInt8) : Option (List UInt8) :=
  if buf.length < micLen then none
  else
    let msg := ctr E nonce (buf.take (buf.length - micLen))
    if mic E micLen nonce aad msg = buf.drop (buf.length - micLen) then some msg else none

variable (E : BlockCipher) (micLen : Nat) (nonce aad msg : List UInt8)

@[simp]
theorem length_ctr : (ctr E nonce msg).length = msg.length := by simp [ctr]

@[simp]
theorem length_mic : (mic E micLen nonce aad msg).length = micLen := by simp [mic]

@[simp]
theorem length_encrypt : (encrypt E micLen nonce aad msg).length = msg.length + micLen := by
  simp [encrypt]

theorem ctr_ctr : ctr E nonce (ctr E nonce msg) = msg := by
  have hbyte : ∀ j : Nat, (fun b : UInt8 => b ^^^ keyStream E nonce j) ∘
      (fun b : UInt8 => b ^^^ keyStream E nonce j) = id := by
    intro j
    funext b
    change b ^^^ keyStream E nonce j ^^^ keyStream E nonce j = b
    rw [UInt8.xor_assoc, UInt8.xor_self, UInt8.xor_zero]
  simp only [ctr, List.mapIdx_mapIdx, hbyte]
  apply List.ext_getElem
  · simp
  · intro i h₁ h₂
    simp

theorem decrypt_encrypt : decrypt E micLen nonce aad (encrypt E micLen nonce aad msg) = some msg := by
  have hlen : (encrypt E micLen nonce aad msg).length - micLen = (ctr E nonce msg).length := by
    simp
  have hlong : ¬(encrypt E micLen nonce aad msg).length < micLen := by simp
  have htake : (encrypt E micLen nonce aad msg).take (ctr E nonce msg).length = ctr E nonce msg := by
    simp [encrypt, -length_ctr]
  have hdrop : (encrypt E micLen nonce aad msg).drop (ctr E nonce msg).length =
      mic E micLen nonce aad msg := by
    simp [encrypt, -length_ctr]
  rw [decrypt, if_neg hlong, hlen, htake, hdrop, ctr_ctr, if_pos rfl]

end Ccm
