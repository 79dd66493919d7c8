import Isa100Gateway.Crypto.CcmRefinement

/-!
# Keyed hash and MIC of the join (`Algorithms.cpp`, `Ccm2.cpp`)

The hash is a chain of block encryptions over the padded input, the keyed hash two of them. `Ccm2` is the class `Ccm` with assertions in place of its early returns; a call that passes the assertions is a call of `Ccm`.
-/

namespace Isa100Gateway

abbrev Address64 := Vector UInt8 8

section Hash

variable (E : Key128 → Block → Block)

def hashZeros (inputLength : Nat) : Nat := ((7 * 16 - (8 * inputLength : Nat) - 1 : Int) % (8 * 16)).toNat / 8

/-- The temporary bit string as far as the blocks reach: the low two bytes of the length are read of its field of sixteen. -/
def hashPadded (input : List UInt8) : List UInt8 :=
  input ++ 0x80 :: List.replicate (hashZeros input.length) 0 ++
    [UInt8.ofNat (8 * input.length / 256), UInt8.ofNat (8 * input.length)]

/-- `HashFunction`, for inputs of less than 8192 bytes. -/
def hashFunction (input : List UInt8) : Block :=
  (Ccm.blocks (hashPadded input)).foldl
    (fun h block => (E h (Block.ofList block)).xor (Block.ofList block)) (Vector.replicate 16 0)

def hmackJoin (input : List UInt8) (key : Key128) : Block :=
  let hash := hashFunction E ((key.map (· ^^^ 0x36)).toList ++ input)
  hashFunction E ((key.map (· ^^^ 0x5c)).toList ++ hash.toList)

end Hash

def ccm2 : CcmObject :=
  let fresh : CcmObject := {
    rguiT := Vector.replicate 16 0
    rguiU := Vector.replicate 16 0
    keyRk := Vector.replicate 16 0
    puiNonce := []
    workBuf := []
    workBufSz := 0
    workBufIdx := 0
    authFldSz := 0
    lenFldSz := 0
    nonceSz := 0
    msgOffset := 0 }
  (fresh.setAuthenFldSz 4).setLenFldSz 2

theorem ccm2_setup : CcmObject.Setup ccm2 4 := ⟨rfl, rfl, by decide⟩

end Isa100Gateway
