import Isa100Gateway.Lib.Ccm

/-!
# The Matyas-Meyer-Oseas hash

The hash of block length 16 over any block cipher: a chain in which the hash so far is the key for the next block. A message is padded with a marker byte, zeros and its length in bits, in a field of 16 bits; longer messages have no hash. The keyed hash is HMAC with keys of one block.
-/

namespace Mmo

open Ccm

abbrev KeyedCipher := List UInt8 → BlockCipher

def padding (n : Nat) : List UInt8 :=
  0x80 :: List.replicate ((29 - n % 16) % 16) 0 ++ lengthField (8 * n)

section Hash

variable (E : KeyedCipher)

def compress (h block : List UInt8) : List UInt8 := xorBytes block (E h block)

def chain (h : List UInt8) (bs : List (List UInt8)) : List UInt8 := bs.foldl (compress E) h

def hash (msg : List UInt8) : Option (List UInt8) :=
  if 8 * msg.length < 2 ^ 16 then
    some (chain E (List.replicate blockSize 0) (blocks (msg ++ padding msg.length)))
  else none

def hmac (key msg : List UInt8) : Option (List UInt8) := do
  let inner ← hash E (key.map (· ^^^ 0x36) ++ msg)
  hash E (key.map (· ^^^ 0x5c) ++ inner)

end Hash

variable {E : KeyedCipher}

theorem chain_append {front : List UInt8} (hfront : front.length = blockSize) (h data : List UInt8) :
    chain E h (blocks (front ++ data)) = chain E (compress E h front) (blocks data) := by
  rw [blocks_append hfront]
  rfl

theorem chain_single {block : List UInt8} (hblock : block.length = blockSize) (h : List UInt8) :
    chain E h (blocks block) = compress E h block := by
  rw [← List.append_nil block, chain_append hblock, blocks_eq_nil (by decide), List.append_nil]
  rfl

theorem length_chain {h : List UInt8} (hh : h.length = blockSize) (hE : ∀ key block, (E key block).length = blockSize)
    {bs : List (List UInt8)} (hbs : ∀ block ∈ bs, block.length = blockSize) : (chain E h bs).length = blockSize := by
  induction bs generalizing h with
  | nil => exact hh
  | cons block bs ih =>
    have hblock := hbs block List.mem_cons_self
    apply ih
    · rw [compress, xorBytes, List.length_zipWith, hE, hblock, Nat.min_self]
    · exact fun b hb => hbs b (List.mem_cons_of_mem block hb)

theorem hash_eq_some_iff {msg h : List UInt8} : hash E msg = some h ↔ 8 * msg.length < 2 ^ 16 ∧
      chain E (List.replicate blockSize 0) (blocks (msg ++ padding msg.length)) = h := by
  rw [hash]
  split
  · rename_i hshort
    rw [Option.some_inj]
    exact (and_iff_right hshort).symm
  · rename_i hlong
    exact iff_of_false nofun fun h => hlong h.1

theorem length_hash (hE : ∀ key block, (E key block).length = blockSize) {msg h : List UInt8}
    (hhash : hash E msg = some h) : h.length = blockSize := by
  rw [← (hash_eq_some_iff.mp hhash).2]
  exact length_chain List.length_replicate hE fun _ => length_of_mem_blocks

end Mmo
