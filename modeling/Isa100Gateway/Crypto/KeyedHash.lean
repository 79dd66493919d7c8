import Isa100Gateway.Asl.Types
import Isa100Gateway.Crypto.AesCcm
import Isa100Gateway.Crypto.JoinHash
import Isa100Gateway.Lib.Mmo

/-!
# Hash and keyed hash of the gateway (`porting.cpp`)

`Crypto_Hash_Function` runs the chain in place: each block is encrypted into the first bytes of the buffer that holds the message. A function has no value where the code reads or writes outside a buffer, or where the loop does not end.
-/

namespace Isa100Gateway

open Buffer Mmo Option
open List (replicate length_append append_assoc length_take_of_le length_replicate)

def hashDataBlockLen : Nat := 16

def maxHmacInputSize : Nat := 2 * 16 + 2 * 8 + 2 + 2 * 2 + 2 * 16

/-- The variables of the loop. `buff` is the memory at `pucBuffRes`, and `inputBuff` the place of `p_pucInputBuff` in it. -/
structure HashState where
  aucInput : List UInt8
  buff : List UInt8
  inputBuff : Nat
  inputBuffLen : UInt16
  nextBlock : Bool
  lastBlock : Bool

namespace HashState

def store (s : HashState) (i : Nat) (bytes : List UInt8) : Option HashState := do
  let aucInput ← write s.aucInput i bytes
  some { s with aucInput }

def storeRest (s : HashState) : Option HashState := do
  let bytes ← read s.buff s.inputBuff s.inputBuffLen.toNat
  let s ← s.store 0 bytes
  s.store s.inputBuffLen.toNat [0x80]

def pad (s : HashState) : Option HashState :=
  if s.inputBuffLen = 0 then do
    let s ← s.store 0 [0x80]
    let s ← s.store 1 (replicate (hashDataBlockLen - 3) 0)
    some { s with lastBlock := true }
  else if s.inputBuffLen.toNat ≤ hashDataBlockLen - 3 then do
    let s ← s.storeRest
    let s := { s with inputBuffLen := s.inputBuffLen + 1 }
    let s ← s.store s.inputBuffLen.toNat (replicate (hashDataBlockLen - 2 - s.inputBuffLen.toNat) 0)
    some { s with lastBlock := true }
  else if s.nextBlock = false ∧ hashDataBlockLen - 2 ≤ s.inputBuffLen.toNat then do
    let s ← s.storeRest
    let s ← if s.inputBuffLen.toNat = hashDataBlockLen - 2 then s.store (hashDataBlockLen - 1) [0] else some s
    some { s with nextBlock := true }
  else do
    let s ← s.store 0 (replicate (hashDataBlockLen - 2) 0)
    some { s with lastBlock := true }

def load (s : HashState) (initialLen : UInt16) : Option HashState :=
  if hashDataBlockLen ≤ s.inputBuffLen.toNat then do
    let block ← read s.buff s.inputBuff hashDataBlockLen
    let s ← s.store 0 block
    some { s with
      inputBuffLen := s.inputBuffLen - UInt16.ofNat hashDataBlockLen
      inputBuff := s.inputBuff + hashDataBlockLen }
  else do
    let s ← s.pad
    if s.lastBlock then do
      let s ← s.store (hashDataBlockLen - 2) [(initialLen >>> 5).toUInt8]
      s.store (hashDataBlockLen - 1) [(initialLen <<< 3).toUInt8]
    else some s

variable (E : Key128 → Block → Block)

def round (initialLen : UInt16) (s : HashState) : Option HashState := do
  let key := Block.ofList s.aucInput
  let s ← s.load initialLen
  let res := (E key (Block.ofList s.aucInput)).toList
  let buff ← write s.buff 0 res
  some { s with buff, aucInput := Ccm.xorBytes s.aucInput res }

def loop (initialLen : UInt16) : Nat → HashState → Option HashState
  | 0, _ => none
  | fuel + 1, s =>
    if s.lastBlock then some s
    else do
      let s ← s.round E initialLen
      loop initialLen fuel s

end HashState

section Hash

variable (E : Key128 → Block → Block)

def maxHashRounds : Nat := 515

def cryptoHashFunction (buff : List UInt8) (len : UInt16) : Option (UInt8 × List UInt8) :=
  if len.toNat < hashDataBlockLen then some (sfcFailure, buff)
  else if 1 <<< (hashDataBlockLen - 3) < len.toNat then some (sfcFailure, buff)
  else do
    let s ← HashState.loop E len maxHashRounds {
      aucInput := replicate hashDataBlockLen 0
      buff
      inputBuff := 0
      inputBuffLen := len
      nextBlock := false
      lastBlock := false }
    let buff ← write s.buff 0 s.aucInput
    some (sfcSuccess, buff)

def keyedHashMac (aucK0 : Vector UInt8 (2 * hashDataBlockLen + maxHmacInputSize)) (key : Key128)
    (buff : List UInt8) (len : UInt16) : Option (UInt8 × List UInt8) :=
  if maxHmacInputSize < len.toNat then some (sfcFailure, buff)
  else if len.toNat < hashDataBlockLen then some (sfcFailure, buff)
  else do
    let k0 ← write aucK0.toList hashDataBlockLen (key.toList.map (· ^^^ 0x36))
    let k0 ← write k0 (2 * hashDataBlockLen) (← read buff 0 len.toNat)
    let (sfc, hashed) ← cryptoHashFunction E (k0.drop hashDataBlockLen) (UInt16.ofNat hashDataBlockLen + len)
    if sfc = sfcSuccess then do
      let k0 ← write (k0.take hashDataBlockLen ++ hashed) 0 (key.toList.map (· ^^^ 0x5c))
      let (sfc, k0) ← cryptoHashFunction E k0 (UInt16.ofNat (2 * hashDataBlockLen))
      if sfc = sfcSuccess then do
        let buff ← write buff 0 (← read k0 0 hashDataBlockLen)
        some (sfcSuccess, buff)
      else some (sfcFailure, buff)
    else some (sfcFailure, buff)

end Hash

def keyedCipher (E : Key128 → Block → Block) : KeyedCipher :=
  fun key block => (E (Block.ofList key) (Block.ofList block)).toList

theorem length_keyedCipher (E : Key128 → Block → Block) (h block : List UInt8) : (keyedCipher E h block).length = 16 :=
  Vector.length_toList

theorem length_compress (E : Key128 → Block → Block) (h : List UInt8) {block : List UInt8}
    (hblock : block.length = 16) :
    (compress (keyedCipher E) h block).length = 16 := by
  rw [compress, Ccm.xorBytes, List.length_zipWith, length_keyedCipher, hblock, Nat.min_self]

def bitLength (initialLen : UInt16) : List UInt8 := [(initialLen >>> 5).toUInt8, (initialLen <<< 3).toUInt8]

def hashPadding (initialLen : UInt16) (n : Nat) : List UInt8 :=
  0x80 :: replicate ((29 - n % 16) % 16) 0 ++ bitLength initialLen

theorem length_hashPadding (initialLen : UInt16) (n : Nat) :
    (hashPadding initialLen n).length = (29 - n % 16) % 16 + 3 := by
  rw [hashPadding, length_append, List.length_cons, length_replicate]
  rfl

namespace HashState

variable {s t : HashState} {initialLen : UInt16} {rest : List UInt8}

theorem load_block (initialLen : UInt16) (haucInput : s.aucInput.length = 16)
    (hrest : read s.buff s.inputBuff s.inputBuffLen.toNat = some rest) (hlong : 16 ≤ s.inputBuffLen.toNat) :
    s.load initialLen = some { s with
      aucInput := rest.take 16
      inputBuffLen := s.inputBuffLen - 16
      inputBuff := s.inputBuff + 16 } := by
  obtain ⟨hread, -⟩ := read_split hrest hlong
  have hwrite : write s.aucInput 0 (rest.take 16) = some (rest.take 16) :=
    write_all ((length_read hread).trans haucInput.symm)
  rw [load, hashDataBlockLen, if_pos hlong, hread]
  simp only [bind_eq_bind, bind_some, store, hwrite]
  rfl

theorem load_last (initialLen : UInt16) (haucInput : s.aucInput.length = 16)
    (hrest : read s.buff s.inputBuff s.inputBuffLen.toNat = some rest) (hshort : s.inputBuffLen.toNat ≤ 13) :
    ∃ inputBuffLen, s.load initialLen = some { s with
      aucInput := rest ++ hashPadding initialLen rest.length
      inputBuffLen
      lastBlock := true } := by
  have hlen : rest.length = s.inputBuffLen.toNat := length_read hrest
  have hzeros : (29 - rest.length % 16) % 16 = 13 - rest.length := by omega
  have hload : ¬hashDataBlockLen ≤ s.inputBuffLen.toNat := by
    rw [hashDataBlockLen]
    omega
  obtain ⟨a₁, hwrite₁, -⟩ := exists_write (by omega : 0 + rest.length ≤ s.aucInput.length)
  obtain ⟨a₂, hwrite₂, hfront₂⟩ := exists_write_next hwrite₁ rfl [0x80]
    (by rw [List.length_singleton]; omega)
  obtain ⟨a₃, hwrite₃, hfront₃⟩ := exists_write_next (i := rest.length + 1) hfront₂ (by simp)
    (replicate (13 - rest.length) 0) (by simp; omega)
  obtain ⟨a₄, hwrite₄, hfront₄⟩ := exists_write_next (i := hashDataBlockLen - 2) hfront₃
    (by simp [hashDataBlockLen]; omega)
    [(initialLen >>> 5).toUInt8] (by simp; omega)
  obtain ⟨a₅, hwrite₅, hfront₅⟩ := exists_write_next (i := hashDataBlockLen - 1) hfront₄
    (by simp [hashDataBlockLen]; omega)
    [(initialLen <<< 3).toUInt8] (by simp; omega)
  have hblock : a₅ = rest ++ hashPadding initialLen rest.length := by
    rw [write_all (by simp; omega)] at hfront₅
    rw [← Option.some.inj hfront₅, hashPadding, hzeros, bitLength]
    simp
  rw [← hblock]
  by_cases hempty : s.inputBuffLen = 0
  · have hnil : rest = [] := List.eq_nil_of_length_eq_zero (by rw [hlen, hempty]; rfl)
    subst hnil
    obtain rfl : s.aucInput = a₁ := by simpa [write] using hwrite₁
    refine ⟨s.inputBuffLen, ?_⟩
    rw [load, if_neg hload, pad, if_pos hempty]
    have hzeros' : hashDataBlockLen - 3 = 13 - ([] : List UInt8).length := rfl
    simp only [bind_eq_bind, store, hzeros']
    simp only [List.length_nil] at hwrite₂ hwrite₃ ⊢
    simp only [hwrite₂, hwrite₃, hwrite₄, hwrite₅, bind_some, if_true]
  · refine ⟨s.inputBuffLen + 1, ?_⟩
    have hsucc : (s.inputBuffLen + 1).toNat = rest.length + 1 := by
      rw [UInt16.toNat_add, hlen]
      exact Nat.mod_eq_of_lt (by change s.inputBuffLen.toNat + 1 < 2 ^ 16; omega)
    have hzeros' : hashDataBlockLen - 2 - (rest.length + 1) = 13 - rest.length := by
      rw [hashDataBlockLen]
      omega
    have hfits : s.inputBuffLen.toNat ≤ hashDataBlockLen - 3 := hshort
    rw [load, if_neg hload, pad, if_neg hempty, if_pos hfits, storeRest, hrest]
    simp only [bind_eq_bind, bind_some, store, hwrite₁, ← hlen, hwrite₂, hsucc, hzeros', hwrite₃, hwrite₄, hwrite₅,
      if_true]

theorem not_load_last (hlong : 14 ≤ s.inputBuffLen.toNat) (hshort : s.inputBuffLen.toNat < 16) :
    ¬hashDataBlockLen ≤ s.inputBuffLen.toNat ∧ s.inputBuffLen ≠ 0 ∧
      ¬s.inputBuffLen.toNat ≤ hashDataBlockLen - 3 := by
  refine ⟨Nat.not_le.mpr hshort, ?_, Nat.not_le.mpr hlong⟩
  rintro hempty
  rw [hempty] at hlong
  exact absurd hlong (by decide)

theorem load_spill (initialLen : UInt16) (haucInput : s.aucInput.length = 16)
    (hrest : read s.buff s.inputBuff s.inputBuffLen.toNat = some rest) (hlong : 14 ≤ s.inputBuffLen.toNat)
    (hshort : s.inputBuffLen.toNat < 16) (hnext : s.nextBlock = false) (hlast : s.lastBlock = false) :
    s.load initialLen = some { s with
      aucInput := rest ++ 0x80 :: replicate (15 - rest.length) 0
      nextBlock := true } := by
  have hlen : rest.length = s.inputBuffLen.toNat := length_read hrest
  obtain ⟨hload, hsome, hfull⟩ := not_load_last hlong hshort
  obtain ⟨a₁, hwrite₁, -⟩ := exists_write (by omega : 0 + rest.length ≤ s.aucInput.length)
  obtain ⟨a₂, hwrite₂, hfront₂⟩ := exists_write_next hwrite₁ rfl [0x80]
    (by rw [List.length_singleton]; omega)
  rw [load, if_neg hload, pad, if_neg hsome, if_neg hfull, if_pos ⟨hnext, hlong⟩, storeRest, hrest]
  simp only [bind_eq_bind, bind_some, store, hwrite₁, ← hlen, hwrite₂]
  by_cases hroom : rest.length = hashDataBlockLen - 2
  · obtain ⟨a₃, hwrite₃, hfront₃⟩ := exists_write_next (i := hashDataBlockLen - 1) hfront₂
      (by simp [hroom, hashDataBlockLen]) [0] (by simp [hroom, hashDataBlockLen, haucInput])
    have hblock : a₃ = rest ++ 0x80 :: replicate (15 - rest.length) 0 := by
      rw [write_all (by simp [hroom, hashDataBlockLen, haucInput])] at hfront₃
      rw [← Option.some.inj hfront₃, hroom, append_assoc]
      rfl
    simp [hroom, hwrite₃, hblock, hlast]
  · have hblock : a₂ = rest ++ 0x80 :: replicate (15 - rest.length) 0 := by
      have hfull' : rest.length = 15 := by
        rw [hashDataBlockLen] at hroom
        omega
      rw [write_all (by simp [hfull', haucInput])] at hfront₂
      rw [← Option.some.inj hfront₂, hfull']
      rfl
    simp [hroom, hblock, hlast]

theorem load_spilt (initialLen : UInt16) (haucInput : s.aucInput.length = 16) (hlong : 14 ≤ s.inputBuffLen.toNat)
    (hshort : s.inputBuffLen.toNat < 16) (hnext : s.nextBlock = true) :
    s.load initialLen = some { s with
      aucInput := replicate 14 0 ++ bitLength initialLen
      lastBlock := true } := by
  obtain ⟨hload, hsome, hfull⟩ := not_load_last hlong hshort
  have hnext' : ¬(s.nextBlock = false ∧ hashDataBlockLen - 2 ≤ s.inputBuffLen.toNat) := by
    rw [hnext]
    exact fun h => Bool.noConfusion h.1
  obtain ⟨a₁, hwrite₁, -⟩ := exists_write
    (by rw [haucInput]; decide : 0 + (replicate (hashDataBlockLen - 2) (0 : UInt8)).length ≤ s.aucInput.length)
  obtain ⟨a₂, hwrite₂, hfront₂⟩ := exists_write_next (i := hashDataBlockLen - 2) hwrite₁ (by simp)
    [(initialLen >>> 5).toUInt8] (by simp [haucInput, hashDataBlockLen])
  obtain ⟨a₃, hwrite₃, hfront₃⟩ := exists_write_next (i := hashDataBlockLen - 1) hfront₂
    (by simp [hashDataBlockLen]) [(initialLen <<< 3).toUInt8] (by simp [haucInput, hashDataBlockLen])
  have hblock : a₃ = replicate 14 0 ++ bitLength initialLen := by
    rw [write_all (by simp [haucInput, hashDataBlockLen])] at hfront₃
    exact (Option.some.inj hfront₃).symm.trans (append_assoc _ _ _)
  rw [load, if_neg hload, pad, if_neg hsome, if_neg hfull, if_neg hnext']
  simp only [bind_eq_bind, bind_some, store, hwrite₁, hwrite₂, hwrite₃, if_true, hblock]

variable {E : Key128 → Block → Block}

theorem round_of_load (hload : s.load initialLen = some t) (hbuff : 16 ≤ t.buff.length) :
    ∃ buff, s.round E initialLen = some { t with
        buff
        aucInput := compress (keyedCipher E) s.aucInput t.aucInput } ∧
      write t.buff 0 (keyedCipher E s.aucInput t.aucInput) = some buff := by
  obtain ⟨buff, hwrite, -⟩ := exists_write
    (by rw [length_keyedCipher]; omega : 0 + (keyedCipher E s.aucInput t.aucInput).length ≤ t.buff.length)
  refine ⟨buff, ?_, hwrite⟩
  rw [keyedCipher] at hwrite
  rw [round, hload]
  simp only [bind_eq_bind, bind_some, hwrite]
  rfl

theorem loop_last (hlast : s.lastBlock = true) (fuel : Nat) : loop E initialLen (fuel + 1) s = some s := by
  rw [loop, if_pos hlast]

theorem loop_round (hlast : s.lastBlock = false) (hround : s.round E initialLen = some t) (fuel : Nat) :
    loop E initialLen (fuel + 1) s = loop E initialLen fuel t := by
  have hgo : ¬s.lastBlock = true := by
    rw [hlast]
    exact Bool.noConfusion
  rw [loop, if_neg hgo, hround]
  rfl

structure Reading (s : HashState) (rest : List UInt8) : Prop where
  aucInput : s.aucInput.length = 16
  buff : 16 ≤ s.buff.length
  rest : read s.buff s.inputBuff s.inputBuffLen.toNat = some rest
  next : s.nextBlock = false
  last : s.lastBlock = false

theorem drop_write {buff buff' res : List UInt8} (hres : res.length = 16) (hbuff : 16 ≤ buff.length)
    (hwrite : write buff 0 res = some buff') : 16 ≤ buff'.length ∧ buff'.drop 16 = buff.drop 16 := by
  refine ⟨(length_write hwrite).symm ▸ hbuff, ?_⟩
  rw [write_zero (hres.symm ▸ hbuff)] at hwrite
  rw [← Option.some.inj hwrite, hres]
  exact List.drop_left' hres

theorem Reading.round_block (E : Key128 → Block → Block) (initialLen : UInt16) (hs : s.Reading rest)
    (hlong : 16 ≤ rest.length) :
    ∃ t, s.round E initialLen = some t ∧ t.Reading (rest.drop 16) ∧
      t.aucInput = compress (keyedCipher E) s.aucInput (rest.take 16) ∧ t.buff.drop 16 = s.buff.drop 16 := by
  have hlen : rest.length = s.inputBuffLen.toNat := length_read hs.rest
  have hrest := (read_split hs.rest (by omega : 16 ≤ s.inputBuffLen.toNat)).2
  obtain ⟨buff, hround, hwrite⟩ := round_of_load (E := E)
    (load_block initialLen hs.aucInput hs.rest (by omega)) hs.buff
  obtain ⟨hbuff, htail⟩ := drop_write (length_keyedCipher E _ _) hs.buff hwrite
  have hsub : (s.inputBuffLen - 16).toNat = s.inputBuffLen.toNat - 16 :=
    UInt16.toNat_sub_of_le _ _ (UInt16.le_iff_toNat_le.mpr (by change 16 ≤ _; omega))
  refine ⟨_, hround, ⟨?_, hbuff, ?_, hs.next, hs.last⟩, rfl, htail⟩
  · exact length_compress E _ (by rw [List.length_take]; omega)
  · change read buff (s.inputBuff + 16) (s.inputBuffLen - 16).toNat = _
    rw [hsub, read_write hwrite (Or.inr (by rw [length_keyedCipher]; omega)), hrest]

theorem Reading.round_last (E : Key128 → Block → Block) (initialLen : UInt16) (hs : s.Reading rest)
    (hshort : rest.length ≤ 13) :
    ∃ t, s.round E initialLen = some t ∧ t.lastBlock = true ∧
      t.aucInput = compress (keyedCipher E) s.aucInput (rest ++ hashPadding initialLen rest.length) ∧
      16 ≤ t.buff.length ∧ t.buff.drop 16 = s.buff.drop 16 := by
  have hlen : rest.length = s.inputBuffLen.toNat := length_read hs.rest
  obtain ⟨inputBuffLen, hload⟩ := load_last initialLen hs.aucInput hs.rest (hlen ▸ hshort)
  obtain ⟨buff, hround, hwrite⟩ := round_of_load (E := E) hload hs.buff
  exact ⟨_, hround, rfl, rfl, drop_write (length_keyedCipher E _ _) hs.buff hwrite⟩

theorem Reading.rounds_spill (E : Key128 → Block → Block) (initialLen : UInt16) (hs : s.Reading rest)
    (hlong : 14 ≤ rest.length) (hshort : rest.length < 16) :
    ∃ t t', s.round E initialLen = some t ∧ t.lastBlock = false ∧
      t.round E initialLen = some t' ∧ t'.lastBlock = true ∧
      t'.aucInput = compress (keyedCipher E)
        (compress (keyedCipher E) s.aucInput (rest ++ 0x80 :: replicate (15 - rest.length) 0))
        (replicate 14 0 ++ bitLength initialLen) ∧
      16 ≤ t'.buff.length ∧ t'.buff.drop 16 = s.buff.drop 16 := by
  have hlen : rest.length = s.inputBuffLen.toNat := length_read hs.rest
  have hload := load_spill initialLen hs.aucInput hs.rest (hlen ▸ hlong) (hlen ▸ hshort) hs.next hs.last
  obtain ⟨buff, hround, hwrite⟩ := round_of_load (E := E) hload hs.buff
  obtain ⟨hbuff, htail⟩ := drop_write (length_keyedCipher E _ _) hs.buff hwrite
  have hfront : (rest ++ 0x80 :: replicate (15 - rest.length) 0).length = 16 := by
    rw [length_append, List.length_cons, length_replicate]
    omega
  have hload' := load_spilt (s := { s with
      buff
      aucInput := compress (keyedCipher E) s.aucInput (rest ++ 0x80 :: replicate (15 - rest.length) 0)
      nextBlock := true }) initialLen (length_compress E _ hfront) (hlen ▸ hlong) (hlen ▸ hshort) rfl
  obtain ⟨buff', hround', hwrite'⟩ := round_of_load (E := E) hload' hbuff
  obtain ⟨hbuff', htail'⟩ := drop_write (length_keyedCipher E _ _) hbuff hwrite'
  exact ⟨_, _, hround, hs.last, hround', rfl, rfl, hbuff', htail'.trans htail⟩

theorem Reading.loop_eq (E : Key128 → Block → Block) (initialLen : UInt16) (hs : s.Reading rest) {fuel : Nat}
    (hfuel : rest.length / 16 + 3 ≤ fuel) :
    ∃ t, loop E initialLen fuel s = some t ∧
      t.aucInput = chain (keyedCipher E) s.aucInput (Ccm.blocks (rest ++ hashPadding initialLen rest.length)) ∧
      16 ≤ t.buff.length ∧ t.buff.drop 16 = s.buff.drop 16 := by
  induction hn : rest.length using Nat.strongRecOn generalizing rest s fuel with
  | ind n ih =>
    subst hn
    obtain ⟨fuel, rfl⟩ : ∃ k, fuel = k + 3 := ⟨fuel - 3, by omega⟩
    obtain hlong | hlast | ⟨hlong, hshort⟩ :
        16 ≤ rest.length ∨ rest.length ≤ 13 ∨ 14 ≤ rest.length ∧ rest.length < 16 := by
      omega
    · obtain ⟨t, hround, ht, haucInput, htail⟩ := hs.round_block E initialLen hlong
      have hdrop : (rest.drop 16).length = rest.length - 16 := List.length_drop
      obtain ⟨t', hloop, haucInput', hbuff', htail'⟩ := ih (rest.drop 16).length (by omega) ht
        (by omega : (rest.drop 16).length / 16 + 3 ≤ fuel + 2) rfl
      refine ⟨t', by rw [loop_round hs.last hround, hloop], ?_, hbuff', htail'.trans htail⟩
      have hpadding : hashPadding initialLen (rest.drop 16).length = hashPadding initialLen rest.length := by
        have hmod : (rest.length - 16) % 16 = rest.length % 16 := by omega
        rw [hashPadding, hashPadding, hdrop, hmod]
      have hfront : (rest.take 16).length = Ccm.blockSize := length_take_of_le hlong
      rw [haucInput', haucInput, hpadding, ← chain_append hfront, ← append_assoc, List.take_append_drop]
    · obtain ⟨t, hround, hlast', haucInput, htail⟩ := hs.round_last E initialLen hlast
      refine ⟨t, by rw [loop_round hs.last hround, loop_last hlast'], ?_, htail⟩
      have hblock : (rest ++ hashPadding initialLen rest.length).length = Ccm.blockSize := by
        rw [length_append, length_hashPadding, Ccm.blockSize]
        omega
      rw [haucInput, chain_single hblock]
    · obtain ⟨t, t', hround, hgo, hround', hlast, haucInput, htail⟩ :=
        hs.rounds_spill E initialLen hlong hshort
      refine ⟨t', by rw [loop_round hs.last hround, loop_round hgo hround', loop_last hlast], ?_, htail⟩
      have hfront : (rest ++ 0x80 :: replicate (15 - rest.length) 0).length = Ccm.blockSize := by
        rw [length_append, List.length_cons, length_replicate, Ccm.blockSize]
        omega
      have hback : (replicate 14 0 ++ bitLength initialLen).length = Ccm.blockSize := rfl
      have hzeros : (29 - rest.length % 16) % 16 = 15 - rest.length + 14 := by omega
      have hsplit : rest ++ hashPadding initialLen rest.length =
          (rest ++ 0x80 :: replicate (15 - rest.length) 0) ++ (replicate 14 0 ++ bitLength initialLen) := by
        rw [hashPadding, hzeros, List.replicate_add]
        simp
      rw [haucInput, hsplit, chain_append hfront, chain_single hback]

end HashState

theorem bitLength_eq (initialLen : UInt16) : bitLength initialLen = Ccm.lengthField (8 * initialLen.toNat) := by
  have hhigh : (initialLen >>> 5).toUInt8 = UInt8.ofNat (8 * initialLen.toNat / 256) := by
    apply UInt8.toNat_inj.mp
    simp [UInt16.toNat_shiftRight, Nat.shiftRight_eq_div_pow]
    omega
  have hlow : (initialLen <<< 3).toUInt8 = UInt8.ofNat (8 * initialLen.toNat) := by
    apply UInt8.toNat_inj.mp
    simp [Nat.shiftLeft_eq]
    omega
  rw [bitLength, hhigh, hlow, Ccm.lengthField]

theorem hashPadding_eq (initialLen : UInt16) : hashPadding initialLen initialLen.toNat = padding initialLen.toNat := by
  rw [hashPadding, bitLength_eq, padding]

section Hash

variable (E : Key128 → Block → Block) {buff : List UInt8} {len : UInt16}

theorem cryptoHashFunction_eq (hmin : 16 ≤ len.toNat) (hmax : len.toNat ≤ 2 ^ 13) (hbuff : len.toNat ≤ buff.length) :
    cryptoHashFunction E buff len = some (sfcSuccess,
      chain (keyedCipher E) (replicate 16 0)
          (Ccm.blocks (buff.take len.toNat ++ padding len.toNat)) ++
        buff.drop 16) := by
  have hrest : read buff 0 len.toNat = some (buff.take len.toNat) := by
    rw [Buffer.read, if_pos (by omega), List.drop_zero]
  have hlen : (buff.take len.toNat).length = len.toNat := length_take_of_le hbuff
  have hs : HashState.Reading {
      aucInput := replicate hashDataBlockLen 0
      buff
      inputBuff := 0
      inputBuffLen := len
      nextBlock := false
      lastBlock := false } (buff.take len.toNat) := ⟨rfl, by change 16 ≤ buff.length; omega, hrest, rfl, rfl⟩
  obtain ⟨t, hloop, haucInput, htbuff, htail⟩ := hs.loop_eq E len
    (by rw [hlen, maxHashRounds]; omega : (buff.take len.toNat).length / 16 + 3 ≤ maxHashRounds)
  rw [hlen, hashPadding_eq] at haucInput
  have hlast : t.aucInput.length = 16 := by
    rw [haucInput]
    exact length_chain rfl (length_keyedCipher E) fun _ => Ccm.length_of_mem_blocks
  have hmin' : ¬len.toNat < hashDataBlockLen := Nat.not_lt.mpr hmin
  have hmax' : ¬1 <<< (hashDataBlockLen - 3) < len.toNat := Nat.not_lt.mpr hmax
  rw [cryptoHashFunction, if_neg hmin', if_neg hmax', hloop]
  simp only [bind_eq_bind, bind_some, write_zero (hlast.symm ▸ htbuff)]
  rw [hlast, htail, haucInput]
  rfl

variable {E}

theorem cryptoHashFunction_of_hash (hmin : 16 ≤ len.toNat) (hbuff : len.toNat ≤ buff.length) {h : List UInt8}
    (hhash : hash (keyedCipher E) (buff.take len.toNat) = some h) :
    cryptoHashFunction E buff len = some (sfcSuccess, h ++ buff.drop 16) := by
  obtain ⟨hshort, rfl⟩ := hash_eq_some_iff.mp hhash
  rw [length_take_of_le hbuff] at hshort ⊢
  exact cryptoHashFunction_eq E hmin (by omega) hbuff

theorem exists_hash (E : Key128 → Block → Block) {msg : List UInt8} (hshort : msg.length < 2 ^ 13) :
    ∃ h, hash (keyedCipher E) msg = some h ∧ h.length = 16 := by
  refine ⟨_, hash_eq_some_iff.mpr ⟨by omega, rfl⟩, ?_⟩
  exact length_hash (length_keyedCipher E) (hash_eq_some_iff.mpr ⟨by omega, rfl⟩)

theorem cryptoHashFunction_keyed {block msg h : List UInt8} (hblock : block.length = 16)
    (hlen : len.toNat = 16 + msg.length) (hhash : hash (keyedCipher E) (block ++ msg) = some h) (back : List UInt8) :
    cryptoHashFunction E (block ++ (msg ++ back)) len = some (sfcSuccess, h ++ (msg ++ back)) := by
  have hmsg : (block ++ msg).length = len.toNat := by rw [length_append, hblock, hlen]
  have hfront : (block ++ (msg ++ back)).take len.toNat = block ++ msg := by
    rw [← append_assoc, List.take_left' hmsg]
  have hbuff : len.toNat ≤ (block ++ (msg ++ back)).length := by
    rw [← append_assoc, length_append, hmsg]
    exact Nat.le_add_right _ _
  rw [cryptoHashFunction_of_hash (by omega) hbuff (hfront.symm ▸ hhash), List.drop_left' hblock]

theorem keyedHashMac_eq_hmac (aucK0 : Vector UInt8 (2 * hashDataBlockLen + maxHmacInputSize)) (key : Key128)
    (hmin : 16 ≤ len.toNat) (hmax : len.toNat ≤ maxHmacInputSize) (hbuff : len.toNat ≤ buff.length) :
    ∃ h, hmac (keyedCipher E) key.toList (buff.take len.toNat) = some h ∧
      keyedHashMac E aucK0 key buff len = some (sfcSuccess, h ++ buff.drop 16) := by
  have hmax' : len.toNat ≤ 86 := hmax
  have hmsg : (buff.take len.toNat).length = len.toNat := length_take_of_le hbuff
  have hpad : ∀ b : UInt8, (key.toList.map (· ^^^ b)).length = 16 := fun b => by
    rw [List.length_map, Vector.length_toList]
  obtain ⟨inner, hinner, hinnerLen⟩ := exists_hash E
    (by rw [length_append, hpad, hmsg]; omega :
      (key.toList.map (· ^^^ 0x36) ++ buff.take len.toNat).length < 2 ^ 13)
  obtain ⟨outer, houter, houterLen⟩ := exists_hash E
    (by rw [length_append, hpad, hinnerLen]; decide : (key.toList.map (· ^^^ 0x5c) ++ inner).length < 2 ^ 13)
  refine ⟨outer, by rw [hmac, hinner]; exact houter, ?_⟩
  generalize hikey : key.toList.map (· ^^^ 0x36) = ikey at hinner
  generalize hokey : key.toList.map (· ^^^ 0x5c) = okey at houter
  generalize hinput : buff.take len.toNat = input at hinner hmsg
  have hikeyLen : ikey.length = 16 := hikey ▸ hpad _
  have hokeyLen : okey.length = 16 := hokey ▸ hpad _
  have haucK0 : aucK0.toList.length = 118 := Vector.length_toList
  obtain ⟨k₁, hkey, -⟩ := exists_write
    (by rw [hikeyLen, haucK0]; decide : 16 + ikey.length ≤ aucK0.toList.length)
  obtain ⟨lead, back, hlead, hk₀⟩ := exists_write_layout
    (by rw [length_append, hikeyLen, hmsg, haucK0]; omega : 16 + (ikey ++ input).length ≤ aucK0.toList.length)
  rw [← write_write hkey (j := 32) (by rw [hikeyLen])] at hk₀
  have hlen₁ : (UInt16.ofNat hashDataBlockLen + len).toNat = 16 + input.length := by
    rw [UInt16.toNat_add, hmsg]
    exact Nat.mod_eq_of_lt (by change 16 + len.toNat < 2 ^ 16; omega)
  have hhash₁ := cryptoHashFunction_keyed hikeyLen hlen₁ hinner back
  have hkey₂ : write (lead ++ (inner ++ (input ++ back))) 0 okey = some (okey ++ (inner ++ (input ++ back))) := by
    rw [write_zero (by rw [hokeyLen, length_append, hlead]; omega), hokeyLen, List.drop_left' hlead]
  have hlen₂ : (UInt16.ofNat (2 * hashDataBlockLen)).toNat = 16 + inner.length := by
    rw [hinnerLen]
    rfl
  have hhash₂ := cryptoHashFunction_keyed hokeyLen hlen₂ houter (input ++ back)
  have hresult : ∀ tail, read (outer ++ tail) 0 hashDataBlockLen = some outer :=
    fun tail => read_append [] rfl houterLen.symm
  have hmax'' : ¬maxHmacInputSize < len.toNat := Nat.not_lt.mpr hmax
  have hmin' : ¬len.toNat < hashDataBlockLen := Nat.not_lt.mpr hmin
  have hread : read buff 0 len.toNat = some input := by
    rw [Buffer.read, if_pos (by omega), List.drop_zero, hinput]
  have hdrop₀ : (lead ++ (ikey ++ input) ++ back).drop hashDataBlockLen = ikey ++ (input ++ back) := by
    rw [append_assoc, hashDataBlockLen, List.drop_left' hlead, append_assoc]
  have htake₀ : (lead ++ (ikey ++ input) ++ back).take hashDataBlockLen = lead := by
    rw [append_assoc, hashDataBlockLen, List.take_left' hlead]
  have hwrite : write buff 0 outer = some (outer ++ buff.drop 16) := by
    rw [write_zero (by omega), houterLen]
  have hkey' : write aucK0.toList hashDataBlockLen ikey = some k₁ := hkey
  have hk₀' : write k₁ (2 * hashDataBlockLen) input = some (lead ++ (ikey ++ input) ++ back) := hk₀
  rw [keyedHashMac, if_neg hmax'', if_neg hmin', hikey, hokey]
  simp only [bind_eq_bind, bind_some, hkey', hread, hk₀', hdrop₀, hhash₁, if_true, htake₀, hkey₂, hhash₂,
    hresult, hwrite]

/-- The hash is right but for the longest input that the length check lets through: its length in bits does not fit the field. The keyed hash is right on every input. -/
theorem cryptoHash_correct_iff (aucK0 : Vector UInt8 (2 * hashDataBlockLen + maxHmacInputSize)) (key : Key128)
    (hbuff : len.toNat ≤ buff.length) :
    (16 ≤ len.toNat → len.toNat ≤ 2 ^ 13 → ((∃ h, hash (keyedCipher E) (buff.take len.toNat) = some h ∧
          cryptoHashFunction E buff len = some (sfcSuccess, h ++ buff.drop 16)) ↔
        len.toNat < 2 ^ 13)) ∧
      (16 ≤ len.toNat → len.toNat ≤ maxHmacInputSize →
        ∃ h, hmac (keyedCipher E) key.toList (buff.take len.toNat) = some h ∧
          keyedHashMac E aucK0 key buff len = some (sfcSuccess, h ++ buff.drop 16)) := by
  refine ⟨fun hmin hmax => ⟨?_, ?_⟩, fun hmin hmax => keyedHashMac_eq_hmac aucK0 key hmin hmax hbuff⟩
  · rintro ⟨h, hhash, -⟩
    have hshort := (hash_eq_some_iff.mp hhash).1
    rw [length_take_of_le hbuff] at hshort
    omega
  · intro hshort
    obtain ⟨h, hhash, -⟩ := exists_hash E
      (by rw [length_take_of_le hbuff]; exact hshort : (buff.take len.toNat).length < 2 ^ 13)
    exact ⟨h, hhash, cryptoHashFunction_of_hash hmin hbuff hhash⟩

theorem cryptoHash_correct_sample :
    ∃ h, hmac (keyedCipher fun key plain => Block.ofList (rijndaelEncrypt key plain.toList))
        (Vector.replicate 16 7).toList ((replicate 20 1).take 20) = some h ∧
      keyedHashMac (fun key plain => Block.ofList (rijndaelEncrypt key plain.toList)) (Vector.replicate _ 0)
        (Vector.replicate 16 7) (replicate 20 1) 20 = some (sfcSuccess, h ++ (replicate 20 1).drop 16) :=
  (cryptoHash_correct_iff (E := fun key plain => Block.ofList (rijndaelEncrypt key plain.toList))
    (Vector.replicate _ 0) (Vector.replicate 16 7)
    (by decide : UInt16.toNat 20 ≤ (replicate 20 (1 : UInt8)).length)).2 (by decide) (by decide)

/-- 8192 bytes of input: the function succeeds with a length field of zero, and the message has no hash. -/
theorem cryptoHash_accepts_long :
    (∃ buff', cryptoHashFunction (fun key plain => Block.ofList (rijndaelEncrypt key plain.toList))
        (replicate 8192 0) 8192 = some (sfcSuccess, buff')) ∧
      bitLength 8192 = [0, 0] ∧
      hash (keyedCipher fun key plain => Block.ofList (rijndaelEncrypt key plain.toList))
        ((replicate 8192 0).take 8192) = none := by
  refine ⟨⟨_, cryptoHashFunction_eq _ (by decide) (by decide) (by rw [length_replicate]; decide)⟩, rfl, ?_⟩
  rw [Mmo.hash, if_neg]
  rw [List.length_take, length_replicate]
  decide

end Hash

end Isa100Gateway
