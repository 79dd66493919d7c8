import Isa100Gateway.Lib.BinSearch
import Isa100Gateway.Lib.Buffer

/-!
# The 6LoWPAN fragment table (`DeFrgmTbl.cpp`)

Datagrams that arrive in fragments are assembled in a table sorted by tag and source. A shift by the width of the word or more has no result in C, and no result here.
-/

namespace Isa100Gateway

structure NetMsgTrToBbrHeader where
  trafficClass : UInt8
  srcAddr : UInt16
  dstAddr : UInt16
  deriving DecidableEq

structure MsgHandle where
  bitfield : UInt32
  tagShortAddr : UInt32
  timestamp : Int
  msgPtr : List (Option UInt8)
  dstAddr : UInt16
  msgSz : UInt16
  frgSz : UInt16
  trafficClass : UInt8
  ipv6 : Option (List UInt8)
  deriving DecidableEq

abbrev DeFrgmTbl := List MsgHandle

structure FullMsg where
  serial : NetMsgTrToBbrHeader
  ipv6 : Option (List UInt8)
  payload : List (Option UInt8)
  deriving DecidableEq

def frgmKey (tag addr : UInt16) : UInt32 := tag.toUInt32 <<< 16 ||| addr.toUInt32

def compareTagAddr (key : UInt32) (msg : MsgHandle) : Ordering :=
  if key < msg.tagShortAddr then .lt else if key ≠ msg.tagShortAddr then .gt else .eq

def expirationTimeout : Int := 120

def maxMessages : Nat := 256

def shiftLeft (x : UInt32) (n : Nat) : Option UInt32 :=
  if n < 32 then some (x <<< UInt32.ofNat n) else none

namespace DeFrgmTbl

def startMsg (now : Int) (dgramTag srcAddr dstAddr : UInt16) (trafficClass : UInt8) (msgSz frgSz : UInt16)
    (ipv6 : Option (List UInt8)) (table : DeFrgmTbl) : Option (Bool × DeFrgmTbl) :=
  let key := frgmKey dgramTag srcAddr
  if frgSz.toNat < 1280 / 32 then some (false, table)
  else if frgSz > msgSz then some (false, table)
  else if maxMessages ≤ table.length then some (false, table)
  else
    let (found, msgIdx) := BinSearch.find (compareTagAddr key) table
    if found then some (false, table)
    else
      -- the bit of each slot of the message is 0, and the unused bits are 1
      (shiftLeft 0xFFFFFFFE ((msgSz.toNat - 1) / frgSz.toNat)).map fun bitfield =>
        (true, table.take msgIdx ++ {
            bitfield := bitfield
            tagShortAddr := key
            timestamp := now
            msgPtr := List.replicate msgSz.toNat none
            dstAddr := dstAddr
            msgSz := msgSz
            frgSz := frgSz
            trafficClass := trafficClass
            ipv6 := ipv6 } :: table.drop msgIdx)

def addFragment (dgramTag srcAddr dgramOff : UInt16) (frg : List UInt8) (table : DeFrgmTbl) :
    Option (Bool × DeFrgmTbl) :=
  if table.length = 0 then some (false, table)
  else
    let key := frgmKey dgramTag srcAddr
    let (found, msgIdx) := BinSearch.find (compareTagAddr key) table
    match found, table[msgIdx]? with
    | true, some msg =>
      if dgramOff.toNat + frg.length > msg.msgSz.toNat then some (false, table)
      else
        (shiftLeft 1 (dgramOff.toNat / msg.frgSz.toNat)).bind fun frgBit =>
          if msg.bitfield &&& frgBit ≠ 0 then some (false, table)
          else
            (Buffer.write msg.msgPtr dgramOff.toNat (frg.map some)).map fun msgPtr =>
              (true, table.set msgIdx { msg with bitfield := msg.bitfield ||| frgBit, msgPtr := msgPtr })
    | _, _ => some (false, table)

def dropMsg (idx : Nat) (table : DeFrgmTbl) : DeFrgmTbl := table.eraseIdx idx

def dropExpiredBelow (expirationTime : Int) : Nat → DeFrgmTbl → DeFrgmTbl
  | 0, table => table
  | i + 1, table =>
    let expired := table[i]?.any fun msg => expirationTime > msg.timestamp
    dropExpiredBelow expirationTime i (if expired then dropMsg i table else table)

def dropExpired (now : Int) (table : DeFrgmTbl) : DeFrgmTbl :=
  dropExpiredBelow (now - expirationTimeout) table.length table

def fullMsg (msg : MsgHandle) : FullMsg where
  serial := ⟨0, msg.tagShortAddr.toUInt16, msg.dstAddr⟩
  ipv6 := msg.ipv6
  payload := msg.msgPtr

def hasFullMsg (table : DeFrgmTbl) : Option FullMsg × DeFrgmTbl :=
  match table.findIdx? fun msg => msg.bitfield = 0xFFFFFFFF with
  | some i => (table[i]?.map fullMsg, dropMsg i table)
  | none => (none, table)

end DeFrgmTbl

end Isa100Gateway
