import Isa100Gateway.Lib.OnesComplement
import Isa100Gateway.Tl.Checksum

/-!
# The checksum over chunks (`tlde.cpp`)

The accumulator holds the sum of the words modulo `2 ^ 32`, and the last step adds its halves once. What gets lost are the carries out of the two.
-/

namespace Isa100Gateway

open OnesComplement

def chunkedCksum (chunks : List (List UInt8)) : UInt16 :=
  icmpGetFinalCksum (chunks.foldl (fun prevCheckSum chunk => icmpInterimChksum chunk prevCheckSum) 0)

/-- The carries that are not added in again: those out of the accumulator, and the one out of the sum of its halves. -/
def lostCarries (sum : Nat) : Nat :=
  sum / 2 ^ 32 + (sum % 65536 + sum / 65536 % 65536) / 65536

theorem toNat_icmpInterimChksum (data : List UInt8) (prev : UInt32) :
    (icmpInterimChksum data prev).toNat = (prev.toNat + (words data).sum) % 2 ^ 32 := by
  induction data using words.induct generalizing prev with
  | case1 =>
    rw [icmpInterimChksum, words, List.sum_nil, Nat.add_zero, Nat.mod_eq_of_lt prev.toNat_lt]
  | case2 high =>
    have hhigh := high.toNat_lt
    simp only [icmpInterimChksum, words, List.sum_cons, List.sum_nil, Nat.add_zero]
    simp [Nat.shiftLeft_eq]
  | case3 high low data ih =>
    have hhigh := high.toNat_lt
    have hlow := low.toNat_lt
    have hword : (prev + high.toUInt32 <<< 8 + low.toUInt32).toNat =
        (prev.toNat + (high.toNat * 256 + low.toNat)) % 2 ^ 32 := by
      simp [Nat.shiftLeft_eq]
      omega
    rw [icmpInterimChksum, ih, hword, words, List.sum_cons, Nat.mod_add_mod, Nat.add_assoc]

theorem toNat_icmpGetFinalCksum (prev : UInt32) : (icmpGetFinalCksum prev).toNat =
      if (prev.toNat % 65536 + prev.toNat / 65536) % 65536 = 65535 then 65535
      else 65535 - (prev.toNat % 65536 + prev.toNat / 65536) % 65536 := by
  have hlt := prev.toNat_lt
  have hhigh : (prev >>> 16).toUInt16.toNat = prev.toNat / 65536 := by
    have hshift : (prev >>> 16).toNat = prev.toNat / 65536 := by
      rw [UInt32.toNat_shiftRight, Nat.shiftRight_eq_div_pow]
      rfl
    rw [UInt32.toNat_toUInt16, hshift]
    omega
  have hadd : (prev.toUInt16 + (prev >>> 16).toUInt16).toNat =
      (prev.toNat % 65536 + prev.toNat / 65536) % 65536 := by
    rw [UInt16.toNat_add, UInt32.toNat_toUInt16, hhigh]
  have hnot : (~~~(prev.toUInt16 + (prev >>> 16).toUInt16)).toNat =
      65535 - (prev.toNat % 65536 + prev.toNat / 65536) % 65536 := by
    rw [UInt16.toNat_not, hadd]
    rfl
  have hzero : (~~~(prev.toUInt16 + (prev >>> 16).toUInt16) = 0) ↔
      (prev.toNat % 65536 + prev.toNat / 65536) % 65536 = 65535 := by
    rw [← UInt16.toNat_inj, hnot]
    change 65535 - _ = 0 ↔ _
    omega
  unfold icmpGetFinalCksum
  rw [if_congr hzero rfl rfl, apply_ite UInt16.toNat, hnot]
  rfl

/-- The last step gives the checksum of words whose sum the accumulator holds exactly when no carry is missed, or a multiple of `65535` of them. -/
theorem icmpGetFinalCksum_eq_iff {ws : List Nat} (hws : ∀ w ∈ ws, w < 65536) {prev : UInt32}
    (hprev : prev.toNat = ws.sum % 2 ^ 32) :
    (icmpGetFinalCksum prev).toNat = checksum ws ↔ 65535 ∣ lostCarries ws.sum := by
  have hmod : (ws.sum % 2 ^ 32 % 65536 + ws.sum % 2 ^ 32 / 65536) =
      ws.sum % 65536 + ws.sum / 65536 % 65536 := by
    omega
  rw [toNat_icmpGetFinalCksum, hprev, hmod, eq_checksum_iff hws (Nat.mod_lt _ (by decide)), lostCarries]
  omega

theorem dvd_lostCarries_iff {sum : Nat} (hsum : sum < 2 ^ 32) :
    65535 ∣ lostCarries sum ↔ sum % 65536 + sum / 65536 < 65536 := by
  have hquot : sum / 2 ^ 32 = 0 := Nat.div_eq_of_lt hsum
  have hhigh : sum / 65536 % 65536 = sum / 65536 := Nat.mod_eq_of_lt (by omega)
  have hcarry : (sum % 65536 + sum / 65536) / 65536 ≤ 1 := by omega
  rw [lostCarries, hquot, hhigh, Nat.zero_add]
  constructor
  · intro hdvd
    exact Nat.lt_of_div_eq_zero (by decide) (Nat.eq_zero_of_dvd_of_lt hdvd (by omega))
  · intro hlt
    rw [Nat.div_eq_of_lt hlt]
    exact Nat.dvd_zero _

theorem foldl_icmpInterimChksum (chunks : List (List UInt8)) (heven : ∀ chunk ∈ chunks.dropLast, Even chunk.length)
    (prev : UInt32) : chunks.foldl (fun prevCheckSum chunk => icmpInterimChksum chunk prevCheckSum) prev =
      icmpInterimChksum chunks.flatten prev := by
  induction chunks generalizing prev with
  | nil => rfl
  | cons chunk chunks ih =>
    cases chunks with
    | nil => rw [List.flatten_singleton]; rfl
    | cons next chunks =>
      rw [List.dropLast_cons_cons] at heven
      have hchunk := heven chunk List.mem_cons_self
      rw [List.foldl_cons, ih (fun c hc => heven c (List.mem_cons_of_mem chunk hc)), List.flatten_cons (l := chunk),
        icmpInterimChksum_append hchunk]

/-- The checksum of the chunks is that of the whole sequence exactly when no carry is lost, or a multiple of `65535` of them. -/
theorem chunkedCksum_eq_iff (chunks : List (List UInt8)) (heven : ∀ chunk ∈ chunks.dropLast, Even chunk.length) :
    (chunkedCksum chunks).toNat = checksum (words chunks.flatten) ↔
      65535 ∣ lostCarries (words chunks.flatten).sum := by
  unfold chunkedCksum
  rw [foldl_icmpInterimChksum chunks heven]
  apply icmpGetFinalCksum_eq_iff (words_lt _)
  rw [toNat_icmpInterimChksum, UInt32.toNat_zero, Nat.zero_add]

theorem chunkedCksum_eq_iff_sample :
    (chunkedCksum [[0x12, 0x34], [0xFF, 0xFF, 0x80]]).toNat = checksum (words [0x12, 0x34, 0xFF, 0xFF, 0x80]) := by
  apply (chunkedCksum_eq_iff [[0x12, 0x34], [0xFF, 0xFF, 0x80]] (by decide)).mpr
  decide

/-- Two words are all ones and the third is 1: the sum of the halves is `0x10000`. -/
theorem chunkedCksum_loses_carry :
    (∀ chunk ∈ [[0xFF, 0xFF], [0xFF, 0xFF, 0x00, 0x01]].dropLast, Even (chunk : List UInt8).length) ∧
      chunkedCksum [[0xFF, 0xFF], [0xFF, 0xFF, 0x00, 0x01]] = 0xFFFF ∧
      checksum (words [0xFF, 0xFF, 0xFF, 0xFF, 0x00, 0x01]) = 0xFFFE := by
  decide

end Isa100Gateway
