import Mathlib.Data.List.Basic
import Mathlib.Algebra.Group.Nat.Even

/-!
# The checksum of `tlde.cpp`
-/

namespace Isa100Gateway

/-- `TLDE_IcmpInterimChksum`. The buffer is shorter than 65536 bytes. -/
def icmpInterimChksum : List UInt8 → UInt32 → UInt32
  | [], prevCheckSum => prevCheckSum
  | [high], prevCheckSum => prevCheckSum + high.toUInt32 <<< 8
  | high :: low :: data, prevCheckSum =>
    icmpInterimChksum data (prevCheckSum + high.toUInt32 <<< 8 + low.toUInt32)

def icmpGetFinalCksum (prevCheckSum : UInt32) : UInt16 :=
  let unResult := ~~~(prevCheckSum.toUInt16 + (prevCheckSum >>> 16).toUInt16)
  if unResult = 0 then 0xFFFF else unResult

theorem icmpInterimChksum_append {chunk : List UInt8} (heven : Even chunk.length)
    (data : List UInt8) (prevCheckSum : UInt32) : icmpInterimChksum (chunk ++ data) prevCheckSum =
      icmpInterimChksum data (icmpInterimChksum chunk prevCheckSum) := by
  match chunk with
  | [] => rfl
  | [_] => simp at heven
  | high :: low :: chunk =>
    have hrest : Even chunk.length := by
      simpa [Nat.even_add_one] using heven
    simpa [icmpInterimChksum] using icmpInterimChksum_append hrest data _

end Isa100Gateway
