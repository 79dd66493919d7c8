import Isa100Gateway.Lib.RunMarker
import Isa100Gateway.Lib.Stream

/-!
# Messages over a pipe

`CPipe::WriteMsg` and `CPipe::ReadMsg`. The pipe is the list of the bytes in it, and a read that asks for more than that does not come back with success. A message is a start marker, a length that counts the header from byte 4 on and the data, these header bytes, and the data.
-/

namespace Isa100Gateway

inductive ByteOrder where
  | big
  | little

def storeInt (order : ByteOrder) (value : Int32) : List UInt8 :=
  match order with
  | .big => Stream.write32 value.toUInt32
  | .little => (Stream.write32 value.toUInt32).reverse

def loadInt (order : ByteOrder) (block : List UInt8) : Int32 :=
  match order, block with
  | .big, b₃ :: b₂ :: b₁ :: b₀ :: _ | .little, b₀ :: b₁ :: b₂ :: b₃ :: _ =>
    (b₃.toUInt32 <<< 24 ||| b₂.toUInt32 <<< 16 ||| b₁.toUInt32 <<< 8 ||| b₀.toUInt32).toInt32
  | _, _ => 0

def pipeStartMarker : UInt32 := 0xcbcbcbcb

def markerByte : UInt8 := 0xcb

/-- `none` where the source returns 0. -/
def writeBlock (block : List UInt8) (blockLen : Int32) : Option (List UInt8) :=
  if blockLen < 0 then none else some (block.take blockLen.toInt.toNat)

def writeMsg (order : ByteOrder) (headerSize : Int32) (header data : List UInt8) (dataLen : Int32) :
    Option (List UInt8) := do
  let marker ← writeBlock (storeInt order pipeStartMarker.toInt32) 4
  let len ← writeBlock (storeInt order (headerSize + dataLen - 4)) 4
  let header ← writeBlock (header.drop 4) (headerSize - 4)
  let data ← writeBlock data dataLen
  return marker ++ len ++ header ++ data

/-- What `ReadMsg` asks of the system: `IsSysMemoryLow` for a number of kilobytes, and whether `realloc` gives it a number of bytes. -/
structure SysMemory where
  isSysMemoryLow : Int32 → Bool
  reallocs : Int32 → Bool

structure PipeMsg where
  header : List UInt8
  data : List UInt8

def readMarkerFrom : UInt32 → Stream.Reader Unit
  | _, [] => none
  | marker, b :: pipe =>
    let marker := marker <<< 8 ||| b.toUInt32
    if marker = pipeStartMarker then some ((), pipe) else readMarkerFrom marker pipe

def readStartMarker : Stream.Reader Unit := readMarkerFrom 0

def readBlock (blockLen : Int32) : Stream.Reader (List UInt8) := fun pipe =>
  if blockLen ≤ 0 then none else Stream.readBytes blockLen.toInt.toNat pipe

def dataLenOf (headerSize stored : Int32) : Int32 := stored - (headerSize - 4)

def readData (memory : SysMemory) (dataLen : Int32) : Stream.Reader (List UInt8) :=
  if memory.isSysMemoryLow (dataLen / 1024) then fun _ => none
  else if ¬ memory.reallocs dataLen ∧ dataLen ≠ 0 then fun _ => none
  else if dataLen ≠ 0 then readBlock dataLen
  else pure []

def readMsg (order : ByteOrder) (memory : SysMemory) (headerSize : Int32) : Stream.Reader PipeMsg := do
  readStartMarker
  let header ← readBlock headerSize
  let data ← readData memory (dataLenOf headerSize (loadInt order header))
  return { header, data }

def readMsgs (order : ByteOrder) (memory : SysMemory) (headerSize : Int32) : Nat → Stream.Reader (List PipeMsg) :=
  Stream.readList (readMsg order memory headerSize)

end Isa100Gateway
