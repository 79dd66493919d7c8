import Isa100Gateway.Lib.Ccm
import Isa100Gateway.Slme.KeyTable

/-!
# The block cipher and the CCM wrappers

The cipher of `rijndael-alg-fst.cpp` for 128-bit keys, by the rounds that its tables tabulate, and the pair `AES_Crypt_User` and `AES_Decrypt_User` of `porting.cpp`. The transport layer relies on no more of the pair than the structure `AesCcm` says.
-/

namespace Isa100Gateway

def micSize : Nat := 4

/-- `MAX_APDU_SIZE`: the longest application data that `g_oAPDU` holds in front of a MIC. -/
def maxApduSize : Nat := 65535 - 20 - 8 - 40 - 8 - 4 - micSize

abbrev Nonce := Vector UInt8 13

/-- `AES_Crypt_User` and `AES_Decrypt_User` on the application data of one datagram. -/
structure AesCcm where
  crypt : Key128 → Nonce → List UInt8 → List UInt8 → List UInt8
  decrypt : Key128 → Nonce → List UInt8 → List UInt8 → Option (List UInt8)
  length_crypt : ∀ key nonce auth data, data.length ≤ maxApduSize →
    (crypt key nonce auth data).length = data.length + micSize
  decrypt_crypt : ∀ key nonce auth data, data.length ≤ maxApduSize →
    decrypt key nonce auth (crypt key nonce auth data) = some data

def sBox : List UInt8 :=
  [0x63, 0x7c, 0x77, 0x7b, 0xf2, 0x6b, 0x6f, 0xc5, 0x30, 0x01, 0x67, 0x2b,
    0xfe, 0xd7, 0xab, 0x76, 0xca, 0x82, 0xc9, 0x7d, 0xfa, 0x59, 0x47, 0xf0,
    0xad, 0xd4, 0xa2, 0xaf, 0x9c, 0xa4, 0x72, 0xc0, 0xb7, 0xfd, 0x93, 0x26,
    0x36, 0x3f, 0xf7, 0xcc, 0x34, 0xa5, 0xe5, 0xf1, 0x71, 0xd8, 0x31, 0x15,
    0x04, 0xc7, 0x23, 0xc3, 0x18, 0x96, 0x05, 0x9a, 0x07, 0x12, 0x80, 0xe2,
    0xeb, 0x27, 0xb2, 0x75, 0x09, 0x83, 0x2c, 0x1a, 0x1b, 0x6e, 0x5a, 0xa0,
    0x52, 0x3b, 0xd6, 0xb3, 0x29, 0xe3, 0x2f, 0x84, 0x53, 0xd1, 0x00, 0xed,
    0x20, 0xfc, 0xb1, 0x5b, 0x6a, 0xcb, 0xbe, 0x39, 0x4a, 0x4c, 0x58, 0xcf,
    0xd0, 0xef, 0xaa, 0xfb, 0x43, 0x4d, 0x33, 0x85, 0x45, 0xf9, 0x02, 0x7f,
    0x50, 0x3c, 0x9f, 0xa8, 0x51, 0xa3, 0x40, 0x8f, 0x92, 0x9d, 0x38, 0xf5,
    0xbc, 0xb6, 0xda, 0x21, 0x10, 0xff, 0xf3, 0xd2, 0xcd, 0x0c, 0x13, 0xec,
    0x5f, 0x97, 0x44, 0x17, 0xc4, 0xa7, 0x7e, 0x3d, 0x64, 0x5d, 0x19, 0x73,
    0x60, 0x81, 0x4f, 0xdc, 0x22, 0x2a, 0x90, 0x88, 0x46, 0xee, 0xb8, 0x14,
    0xde, 0x5e, 0x0b, 0xdb, 0xe0, 0x32, 0x3a, 0x0a, 0x49, 0x06, 0x24, 0x5c,
    0xc2, 0xd3, 0xac, 0x62, 0x91, 0x95, 0xe4, 0x79, 0xe7, 0xc8, 0x37, 0x6d,
    0x8d, 0xd5, 0x4e, 0xa9, 0x6c, 0x56, 0xf4, 0xea, 0x65, 0x7a, 0xae, 0x08,
    0xba, 0x78, 0x25, 0x2e, 0x1c, 0xa6, 0xb4, 0xc6, 0xe8, 0xdd, 0x74, 0x1f,
    0x4b, 0xbd, 0x8b, 0x8a, 0x70, 0x3e, 0xb5, 0x66, 0x48, 0x03, 0xf6, 0x0e,
    0x61, 0x35, 0x57, 0xb9, 0x86, 0xc1, 0x1d, 0x9e, 0xe1, 0xf8, 0x98, 0x11,
    0x69, 0xd9, 0x8e, 0x94, 0x9b, 0x1e, 0x87, 0xe9, 0xce, 0x55, 0x28, 0xdf,
    0x8c, 0xa1, 0x89, 0x0d, 0xbf, 0xe6, 0x42, 0x68, 0x41, 0x99, 0x2d, 0x0f,
    0xb0, 0x54, 0xbb, 0x16]

def subBytes (state : List UInt8) : List UInt8 := state.map fun b => sBox.getD b.toNat 0

def shiftRows (state : List UInt8) : List UInt8 :=
  (List.range 16).map fun i => state.getD (i % 4 + 4 * ((i / 4 + i % 4) % 4)) 0

def xtime (b : UInt8) : UInt8 := if b < 0x80 then b <<< 1 else b <<< 1 ^^^ 0x1b

def mixColumns : List UInt8 → List UInt8
  | a :: b :: c :: d :: state =>
    (xtime a ^^^ xtime b ^^^ b ^^^ c ^^^ d) :: (a ^^^ xtime b ^^^ xtime c ^^^ c ^^^ d) ::
      (a ^^^ b ^^^ xtime c ^^^ xtime d ^^^ d) :: (xtime a ^^^ a ^^^ b ^^^ c ^^^ xtime d) ::
      mixColumns state
  | state => state

def nextRoundKey (rcon : UInt8) (roundKey : List UInt8) : List UInt8 :=
  let word (i : Nat) := (roundKey.drop (4 * i)).take 4
  let rotated := (word 3).drop 1 ++ (word 3).take 1
  let t := Ccm.xorBytes (subBytes rotated) [rcon, 0, 0, 0]
  let w₀ := Ccm.xorBytes (word 0) t
  let w₁ := Ccm.xorBytes (word 1) w₀
  let w₂ := Ccm.xorBytes (word 2) w₁
  w₀ ++ w₁ ++ w₂ ++ Ccm.xorBytes (word 3) w₂

def rijndaelEncrypt (key : Key128) : Ccm.BlockCipher := fun pt =>
  let start := (Ccm.xorBytes pt key.toList, key.toList)
  let (state, roundKey) := [1, 2, 4, 8, 0x10, 0x20, 0x40, 0x80, 0x1b].foldl
    (fun (state, roundKey) rcon =>
      let roundKey := nextRoundKey rcon roundKey
      (Ccm.xorBytes (mixColumns (shiftRows (subBytes state))) roundKey, roundKey)) start
  Ccm.xorBytes (shiftRows (subBytes state)) (nextRoundKey 0x36 roundKey)

def rijndaelCcm : AesCcm where
  crypt key nonce auth data := Ccm.encrypt (rijndaelEncrypt key) micSize nonce.toList auth data
  decrypt key nonce auth data := Ccm.decrypt (rijndaelEncrypt key) micSize nonce.toList auth data
  length_crypt key nonce auth data _ := Ccm.length_encrypt (rijndaelEncrypt key) micSize nonce.toList auth data
  decrypt_crypt key nonce auth data _ := Ccm.decrypt_encrypt (rijndaelEncrypt key) micSize nonce.toList auth data

example : rijndaelEncrypt #v[0, 1, 2, 3, 4, 5, 6, 7, 8, 9, 0xa, 0xb, 0xc, 0xd, 0xe, 0xf]
    [0, 0x11, 0x22, 0x33, 0x44, 0x55, 0x66, 0x77, 0x88, 0x99, 0xaa, 0xbb, 0xcc, 0xdd, 0xee, 0xff] =
    [0x69, 0xc4, 0xe0, 0xd8, 0x6a, 0x7b, 0x04, 0x30, 0xd8, 0xcd, 0xb7, 0x80, 0x70, 0xb4, 0xc5,
      0x5a] := by
  decide +kernel

end Isa100Gateway
