import Isa100Gateway.Lib.Probe
import Isa100Gateway.Slme.KeyTable

/-!
# The data block of a user request

What a service is given of a client's request: the fields of the header that it reads, and a pointer to the data block. The block has `m_nDataSize` bytes, the last four of which are its CRC. Offsets count from its start.
-/

namespace Isa100Gateway

open MemoryProbe

/-- `TGSAPHdr` in host order, and the memory from the start of the data block on, as far as the block and beyond. -/
structure UserRequest where
  ygsap : Bool
  sessionId : UInt32
  transactionId : UInt32
  dataSize : UInt32
  mem : Nat → UInt8

namespace UserRequest

def status (r : UserRequest) (ygs gsap : UInt8) : UInt8 := if r.ygsap then ygs else gsap

variable (mem : Nat → UInt8) (q : Nat)

def u8 : Probe UInt8 := { value := mem q, spans := [(q, 1)] }

def ntohs : Probe UInt16 :=
  { value := (mem q).toUInt16 <<< 8 ||| (mem (q + 1)).toUInt16, spans := [(q, 2)] }

def ntohl : Probe UInt32 :=
  { value := (mem q).toUInt32 <<< 24 ||| (mem (q + 1)).toUInt32 <<< 16 |||
      (mem (q + 2)).toUInt32 <<< 8 ||| (mem (q + 3)).toUInt32
    spans := [(q, 4)] }

def bytes (length : Nat) : Probe (List UInt8) :=
  { value := (List.range length).map fun i => mem (q + i), spans := [(q, length)] }

def bytes16 : Probe (Vector UInt8 16) :=
  { value := Vector.ofFn fun i => mem (q + i), spans := [(q, 16)] }

variable {mem : Nat → UInt8} {q : Nat} {n : Nat}

@[simp]
theorem inside_u8 : Inside n (u8 mem q) ↔ q + 1 ≤ n := by simp [Inside, u8]

@[simp]
theorem inside_ntohs : Inside n (ntohs mem q) ↔ q + 2 ≤ n := by simp [Inside, ntohs]

@[simp]
theorem inside_ntohl : Inside n (ntohl mem q) ↔ q + 4 ≤ n := by simp [Inside, ntohl]

@[simp]
theorem inside_bytes {length : Nat} : Inside n (bytes mem q length) ↔ q + length ≤ n := by
  simp [Inside, bytes]

@[simp]
theorem inside_bytes16 : Inside n (bytes16 mem q) ↔ q + 16 ≤ n := by simp [Inside, bytes16]

end UserRequest

end Isa100Gateway
