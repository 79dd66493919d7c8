import Isa100Gateway.Lib.Buffer
import Isa100Gateway.Lib.Ccm
import Isa100Gateway.Slme.KeyTable

/-!
# The class `Ccm`

`Ccm.cpp` with the block cipher left abstract: one scratch buffer into which the first block, the additional data and the message are pushed, CBC-MAC over that buffer, and counter mode on the message part of it. A function has no value where the code reads or writes outside a buffer, dereferences a null pointer or does not return.
-/

namespace Isa100Gateway

abbrev Block := Vector UInt8 16

namespace Block

def ofList (bytes : List UInt8) : Block := Vector.ofFn fun i => bytes.getD i 0

def xor (a b : Block) : Block := Vector.zipWith (· ^^^ ·) a b

end Block

/-- The members of the class. `keyRk` stands for the round keys of that key in `m_rguiKeyRk`. -/
structure CcmObject where
  rguiT : Block
  rguiU : Block
  keyRk : Key128
  puiNonce : List UInt8
  workBuf : List UInt8
  (workBufSz workBufIdx authFldSz lenFldSz nonceSz msgOffset : UInt16)

namespace CcmObject

def roundUp (size : Nat) : Nat := size + (16 - size % 16) % 16

def setAuthenFldSz (c : CcmObject) (authFldSz : UInt16) : CcmObject :=
  if authFldSz ≤ 16 ∧ (authFldSz = 0 ∨ 4 ≤ authFldSz) then { c with authFldSz } else c

def setLenFldSz (c : CcmObject) (lenFldSz : UInt16) : CcmObject := { c with lenFldSz }

def push (c : CcmObject) (bytes : List UInt8) : Option CcmObject := do
  let workBuf ← Buffer.write c.workBuf c.workBufIdx.toNat bytes
  some { c with workBuf, workBufIdx := c.workBufIdx + UInt16.ofNat bytes.length }

def pushFrom (c : CcmObject) (p : Option (List UInt8)) (size : UInt16) : Option CcmObject := do
  let bytes ← Buffer.read (← p) 0 size.toNat
  c.push bytes

def pushBlock0 (c : CcmObject) (aadSz msgSz : UInt16) : Option CcmObject := do
  let adata : UInt16 := if aadSz = 0 then 0 else 64
  let flags :=
    if c.authFldSz = 0 then adata + (c.lenFldSz - 1)
    else adata + 4 * (c.authFldSz - 2) + (c.lenFldSz - 1)
  let c ← { c with workBufIdx := 0 }.push [flags.toUInt8]
  let c ← c.pushFrom (some c.puiNonce) c.nonceSz
  let c ← c.push [(msgSz >>> 8).toUInt8]
  c.push [msgSz.toUInt8]

def alignWorkBufIdx (c : CcmObject) : CcmObject :=
  { c with workBufIdx := UInt16.ofNat (roundUp c.workBufIdx.toNat) }

def pushAad (c : CcmObject) (aad : Option (List UInt8)) (aadSz : UInt16) : Option CcmObject :=
  if aadSz = 0 then some c
  else do
    let c ← c.push [(aadSz >>> 8).toUInt8]
    let c ← c.push [aadSz.toUInt8]
    let c ← c.pushFrom aad aadSz
    some c.alignWorkBufIdx

def pushMsg (c : CcmObject) (msg : Option (List UInt8)) (msgSz : UInt16) : Option CcmObject :=
  if msgSz = 0 then some c
  else do
    let c ← c.pushFrom msg msgSz
    some c.alignWorkBufIdx

/-- More rounds than a 16-bit index that moves in steps of 16 can make before it comes back. -/
def maxRounds : Nat := 4096

section Cipher

variable (E : Key128 → Block → Block)

/-- The loop over the blocks behind the first one, from `blk_it` on. -/
def cbcLoop (c : CcmObject) : Nat → UInt16 → Block → Option Block
  | 0, _, _ => none
  | fuel + 1, blkIt, x₁ =>
    if blkIt < c.workBufSz then do
      let block ← Buffer.read c.workBuf blkIt.toNat 16
      cbcLoop c fuel (blkIt + 16) (E c.keyRk (x₁.xor (Block.ofList block)))
    else some x₁

def cbcMac (c : CcmObject) : Option CcmObject := do
  let block ← Buffer.read c.workBuf 0 16
  let rguiT ← c.cbcLoop E maxRounds 16 (E c.keyRk (Block.ofList block))
  some { c with rguiT }

def xorBlock (limit : Nat) : List UInt8 → UInt16 → List UInt8 → Option (UInt16 × List UInt8)
  | [], msgIdx, workBuf => some (msgIdx, workBuf)
  | s :: block, msgIdx, workBuf =>
    if msgIdx.toNat < limit then do
      let b ← workBuf[msgIdx.toNat]?
      xorBlock limit block (msgIdx + 1) (workBuf.set msgIdx.toNat (b ^^^ s))
    else some (msgIdx, workBuf)

def ctrLoop (c : CcmObject) (a : Block) (limit : Nat) : Nat → UInt16 → UInt16 → List UInt8 → Option (List UInt8)
  | 0, _, _, _ => none
  | fuel + 1, sBlk, msgIdx, workBuf =>
    if msgIdx.toNat < limit then do
      let sBlk := sBlk + 1
      let a := (a.set 14 (sBlk >>> 8).toUInt8).set 15 sBlk.toUInt8
      let (msgIdx, workBuf) ← xorBlock limit (E c.keyRk a).toList msgIdx workBuf
      ctrLoop c a limit fuel sBlk msgIdx workBuf
    else some workBuf

def firstCounter (c : CcmObject) : Option Block := do
  let nonce ← Buffer.read c.puiNonce 0 c.nonceSz.toNat
  let a ← Buffer.write ((c.lenFldSz - 1).toUInt8 :: List.replicate 15 0) 1 nonce
  some (((Block.ofList a).set 15 0).set 14 0)

def saltCtr (c : CcmObject) (msgSz : UInt16) : Option CcmObject := do
  let a ← c.firstCounter
  let c := { c with rguiU := c.rguiT.xor (E c.keyRk a) }
  if msgSz = 0 then some c
  else do
    let limit := c.msgOffset.toNat + msgSz.toNat
    let workBuf ← c.ctrLoop E a limit maxRounds 0 c.msgOffset c.workBuf
    some { c with workBuf }

def prepare (c : CcmObject) (keyRk : Key128) (puiNonce : List UInt8) (aadSz msgSz : UInt16) : CcmObject :=
  let msgOffset := UInt16.ofNat (16 + roundUp (if aadSz = 0 then 0 else 2 + aadSz.toNat))
  let workBufSz := UInt16.ofNat (msgOffset.toNat + roundUp msgSz.toNat)
  { c with
    keyRk, puiNonce, msgOffset, workBufSz
    nonceSz := 15 - c.lenFldSz
    workBuf := List.replicate workBufSz.toNat 0 }

def fill (c : CcmObject) (aad : Option (List UInt8)) (aadSz : UInt16) (msg : Option (List UInt8))
    (msgSz : UInt16) : Option CcmObject := do
  let c ← c.pushBlock0 aadSz msgSz
  let c ← c.pushAad aad aadSz
  c.pushMsg msg msgSz

def copyOut (p : Option (List UInt8)) (offset : Nat) (size : UInt16) : Option (List UInt8) :=
  if size = 0 then some [] else do Buffer.read (← p) offset size.toNat

def release (c : CcmObject) : CcmObject := { c with workBuf := [] }

def authEncrypt (c : CcmObject) (key : Option Key128) (nonce : Option (List UInt8))
    (aad : Option (List UInt8)) (aadSz : UInt16) (msg : Option (List UInt8)) (msgSz : UInt16) (out : Bool) :
    Option (CcmObject × UInt16 × List UInt8) :=
  if ¬(c.lenFldSz ≠ 0 ∧ (aad ≠ none ∧ aadSz ≠ 0 ∨ aadSz = 0) ∧ (msg ≠ none ∧ msgSz ≠ 0 ∨ msgSz = 0) ∧
      aadSz < 0xFF00) then some (c, 0, [])
  else do
    let c := c.prepare (← key) (← nonce) aadSz msgSz
    let c ← c.fill aad aadSz msg msgSz
    let c ← c.cbcMac E
    let c ← c.saltCtr E msgSz
    let size := aadSz + msgSz + c.authFldSz
    if out then do
      let auth ← copyOut aad 0 aadSz
      let ciphertext ← copyOut (some c.workBuf) c.msgOffset.toNat msgSz
      let mic ← Buffer.read c.rguiU.toList 0 c.authFldSz.toNat
      some (c.release, size, auth ++ ciphertext ++ mic)
    else some (c.release, size, [])

def checkAuthDecrypt (c : CcmObject) (key : Option Key128) (nonce : Option (List UInt8))
    (aad : Option (List UInt8)) (aadSz : UInt16) (encMsg : Option (List UInt8)) (encMsgSz : UInt16)
    (out : Bool) : Option (CcmObject × Bool × List UInt8) :=
  if ¬(c.lenFldSz ≠ 0 ∧ (aad ≠ none ∧ aadSz ≠ 0 ∨ aadSz = 0) ∧ (encMsg ≠ none ∧ encMsgSz ≠ 0) ∧
      aadSz < 0xFF00 ∧ (out ∧ key ≠ none ∧ nonce ≠ none) ∧ c.authFldSz ≤ encMsgSz) then some (c, false, [])
  else do
    let encMsgSz := encMsgSz - c.authFldSz
    let c := c.prepare (← key) (← nonce) aadSz encMsgSz
    let c ← c.fill aad aadSz encMsg encMsgSz
    let mic ← Buffer.read (← encMsg) encMsgSz.toNat c.authFldSz.toNat
    let rguiT ← Buffer.write c.rguiT.toList 0 mic
    let c ← { c with rguiT := Block.ofList rguiT }.saltCtr E encMsgSz
    let c ← c.cbcMac E
    let t ← Buffer.read c.rguiT.toList 0 c.authFldSz.toNat
    let u ← Buffer.read c.rguiU.toList 0 c.authFldSz.toNat
    if t ≠ u then
      some ({ c.release with rguiT := Vector.replicate 16 0, rguiU := Vector.replicate 16 0 }, false, [])
    else do
      let plaintext ← copyOut (some c.workBuf) c.msgOffset.toNat encMsgSz
      some (c.release, true, plaintext)

end Cipher

end CcmObject

end Isa100Gateway
