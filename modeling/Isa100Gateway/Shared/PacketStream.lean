import Mathlib.Data.List.Basic

/-!
# Packets over a serial link

The frame parsers of the escaped serial protocol and the packet stream that reads a link through one of them. The stream keeps what it has read of the link in a buffer of fixed size.
-/

namespace Isa100Gateway.PacketStream

def STX : UInt8 := 0xF0

def ETX : UInt8 := 0xF1

def CHX : UInt8 := 0xF2

inductive FrameParser
  | nivisV2 | nivisV3

inductive Scan
  | stxAgain | etx (i : Nat) | notFound

def scan : Nat → List UInt8 → Scan
  | _, [] => .notFound
  | i, b :: rest => if b = STX then .stxAgain else if b = ETX then .etx i else scan (i + 1) rest

namespace FrameParser

/-- The length that is returned for an ETX at an index: of the whole frame, or of what is between the markers. -/
def lengthAt : FrameParser → Nat → Int
  | nivisV2, i => i - 1
  | nivisV3, i => i + 1

def ParseRxMessage (parser : FrameParser) (p_buf : List UInt8) : Int × List UInt8 :=
  match p_buf.dropWhile (· ≠ STX) with
  | [] => (0, [])
  | stx :: rest =>
    match scan 1 rest with
    | .stxAgain => (0, [])
    | .etx i => (parser.lengthAt i, stx :: rest)
    | .notFound => (0, stx :: rest)

def unescape (after : Option UInt8) : List UInt8 → Option (List UInt8)
  | [] => some []
  | [b] => if b ≠ CHX then some [b] else after.map fun next => [~~~next]
  | b :: c :: rest =>
    if b ≠ CHX then (unescape after (c :: rest)).map (b :: ·) else (unescape after rest).map (~~~c :: ·)

/-- The later parser cuts off the markers. What is behind the copy of the message is undefined. -/
def UnescapeMsg : FrameParser → List UInt8 → Option (List UInt8)
  | nivisV2, msg => unescape none msg
  | nivisV3, msg => unescape msg.getLast? (msg.tail.dropLast)

end FrameParser

def escape (b : UInt8) : List UInt8 := if b = STX ∨ b = ETX ∨ b = CHX then [CHX, ~~~b] else [b]

def EscapeMsg (msg : List UInt8) : List UInt8 := STX :: (msg.flatMap escape ++ [ETX])

def bufSize : Nat := 512

structure Stream where
  m_buf : List UInt8
  link : List UInt8
  deriving DecidableEq

/-- What the link does when it is read: it gives some bytes, but no more than a limit, or it fails. -/
inductive LinkRead
  | data (limit : Nat) | interrupted | failed | notOpen

namespace Stream

variable (parser : FrameParser)

def readLink (stream : Stream) : LinkRead → Int × Stream
  | .data limit =>
    let count := min limit (bufSize - stream.m_buf.length)
    if stream.link.take count = [] then (0, stream)
    else
      let (length, m_buf) := parser.ParseRxMessage (stream.m_buf ++ stream.link.take count)
      (length, ⟨m_buf, stream.link.drop count⟩)
  | .interrupted => (-1, stream)
  | .failed => (0, stream)
  | .notOpen => (0, stream)

def GetMsgLen (stream : Stream) (read : LinkRead) : Int × Stream :=
  let (length, m_buf) := parser.ParseRxMessage stream.m_buf
  if length > 0 then (length, { stream with m_buf := m_buf })
  else { stream with m_buf := if bufSize ≤ m_buf.length then [] else m_buf }.readLink parser read

def takePacket (stream : Stream) (rb : Nat) : Option (Option (List UInt8) × Stream) :=
  (parser.UnescapeMsg (stream.m_buf.take rb)).map fun packet =>
    (some packet, { stream with m_buf := stream.m_buf.drop rb })

def Read (stream : Stream) : List LinkRead → Option (Option (List UInt8) × Stream)
  | [] => some (none, stream)
  | read :: reads =>
    let (rb, stream) := stream.GetMsgLen parser read
    if rb > 0 then stream.takePacket parser rb.toNat
    else if rb < 0 then some (none, stream)
    else stream.Read reads

def packets : Stream → List (List LinkRead) → Option (List (List UInt8) × Stream)
  | stream, [] => some ([], stream)
  | stream, reads :: more => do
    let (packet, stream) ← stream.Read parser reads
    let (packets, stream) ← stream.packets more
    return (packet.toList ++ packets, stream)

end Stream

def written (messages : List (List UInt8)) : List UInt8 := messages.flatMap EscapeMsg

end Isa100Gateway.PacketStream
