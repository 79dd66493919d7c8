import Isa100Gateway.BackBone.LowPANTunnel

/-!
# The retransmission queue of the serial line (`MsgQueue.cpp`)

Packets wait in two buckets for their confirm from the transceiver. A packet that is confirmed or expires leaves a gap in its bucket, and the gaps are closed when the bucket is reindexed; the copies above the new end stay where they are. Packets are told apart by serial numbers, which they get in the order in which they come to the queue.
-/

namespace Isa100Gateway

inductive LifetimePolicy
  | normalLifetime
  | infLifetime
  deriving DecidableEq

structure PendingPacket where
  serial : Nat
  data : List UInt8

structure AckMetaData where
  pkt : Option PendingPacket
  priority : PrioLevel
  initialTimestamp : Int
  nextsendTimestamp : Int
  msgHandle : UInt16
  reinsertions : Int8
  policy : LifetimePolicy

def maxPendingSize : Nat := 256

structure Bucket where
  slots : List AckMetaData
  lastPos : UInt16
  queueSz : UInt16
  hasGaps : Bool

inductive PrioQueue
  | high
  | low
  deriving DecidableEq

inductive BufState
  | bufRdy
  | bufFull
  | micErr
  | other
  deriving DecidableEq

structure MsgQueue where
  bufState : BufState
  ackPkt : Option PendingPacket
  high : Bucket
  low : Bucket
  bufRdyCounter : UInt16
  written : List PendingPacket
  deleted : List Nat

def MsgQueue.bucket (q : MsgQueue) : PrioQueue → Bucket
  | .high => q.high
  | .low => q.low

def MsgQueue.setBucket (q : MsgQueue) (lvl : PrioQueue) (b : Bucket) : MsgQueue :=
  match lvl with
  | .high => { q with high := b }
  | .low => { q with low := b }

def MsgQueue.delete (q : MsgQueue) (pkt : Option PendingPacket) : MsgQueue :=
  { q with deleted := q.deleted ++ (pkt.map PendingPacket.serial).toList }

def compact : Nat → Nat → Nat → List AckMetaData → List AckMetaData × Nat
  | 0, _, r, slots => (slots, r)
  | n + 1, idx, r, slots =>
    match slots[idx]? with
    | some entry =>
      if entry.pkt.isSome then compact n (idx + 1) (r + 1) (slots.set r entry) else compact n (idx + 1) r slots
    | none => compact n (idx + 1) r slots

def reindexBucket (b : Bucket) : Bucket :=
  if ¬b.hasGaps then b
  else
    let (slots, r) := compact b.lastPos.toNat 0 0 b.slots
    { slots := slots, lastPos := UInt16.ofNat r, queueSz := UInt16.ofNat r, hasGaps := false }

def reindex (q : MsgQueue) : MsgQueue :=
  { q with high := reindexBucket q.high, low := reindexBucket q.low }

def addToBucket (it : AckMetaData) (b : Bucket) : Bool × Bucket :=
  let b := if b.lastPos.toNat ≥ maxPendingSize then reindexBucket { b with hasGaps := true } else b
  if b.lastPos.toNat ≥ maxPendingSize then (false, b)
  else
    (true, { b with
      slots := b.slots.set b.lastPos.toNat it
      lastPos := b.lastPos + 1
      queueSz := b.queueSz + 1 })

def PrioLevel.queue : PrioLevel → Option PrioQueue
  | .high => some .high
  | .low => some .low
  | .ack => none

def layerMsgHandler : List UInt8 → UInt16
  | _ :: b₀ :: b₁ :: _ => hostWord b₀ b₁
  | _ => 0

def addPending (pkt : PendingPacket) (prio : PrioLevel) (policy : LifetimePolicy) (q : MsgQueue) : Bool × MsgQueue :=
  match prio.queue with
  | none => (true, { q.delete q.ackPkt with ackPkt := some pkt })
  | some lvl =>
    let t : AckMetaData :=
      { pkt := some pkt
        priority := prio
        initialTimestamp := 0
        nextsendTimestamp := 0
        msgHandle := layerMsgHandler pkt.data
        reinsertions := 0
        policy := policy }
    let (added, b) := addToBucket t (q.bucket lvl)
    (added, q.setBucket lvl b)

def confirmOutOfMemory : UInt16 := 0x07

def ackTimeout : Int := 60
def retryTimeout : Int := 5
def expiredTimeout : Int := ackTimeout - 10
def startMsgTimeout : Int := 5

def deleteSlot (idx : Nat) (entry : AckMetaData) (b : Bucket) : Bucket :=
  { b with slots := b.slots.set idx { entry with pkt := none }, hasGaps := true, queueSz := b.queueSz - 1 }

def confirmBucket (msgHandle status : UInt16) (b : Bucket) : Option (Bucket × Option PendingPacket) :=
  match (b.slots.take b.lastPos.toNat).findIdx? fun entry => entry.msgHandle = msgHandle with
  | none => none
  | some idx =>
    match b.slots[idx]? with
    | none => none
    | some entry =>
      match entry.pkt with
      | none => some (b, none)
      | some pkt =>
        if 3 > pkt.data.length then some (deleteSlot idx entry b, some pkt)
        else if status = confirmOutOfMemory then
          let nextsendTimestamp := entry.nextsendTimestamp - ackTimeout + retryTimeout
          some ({ b with slots := b.slots.set idx { entry with nextsendTimestamp := nextsendTimestamp } }, none)
        else some (deleteSlot idx entry b, some pkt)

def confirm (msgHandle status : UInt16) (q : MsgQueue) : Bool × MsgQueue :=
  match confirmBucket msgHandle status q.high with
  | some (b, pkt) => (true, { q with high := b }.delete pkt)
  | none =>
    match confirmBucket msgHandle status q.low with
    | some (b, pkt) => (true, { q with low := b }.delete pkt)
    | none => (false, q)

def expires (seconds : Int) (entry : AckMetaData) : Bool :=
  entry.pkt.isSome ∧ entry.initialTimestamp ≠ 0 ∧ seconds ≥ entry.initialTimestamp ∧ entry.policy = .normalLifetime

def dropExpiredSlots (seconds : Int) : Nat → Nat → Bucket → Bucket × List PendingPacket
  | 0, _, b => (b, [])
  | n + 1, idx, b =>
    match b.slots[idx]? with
    | some entry =>
      if expires seconds entry then
        let (b, pkts) := dropExpiredSlots seconds n (idx + 1) (deleteSlot idx entry b)
        (b, entry.pkt.toList ++ pkts)
      else dropExpiredSlots seconds n (idx + 1) b
    | none => dropExpiredSlots seconds n (idx + 1) b

def dropExpiredPackets (now : Int) (q : MsgQueue) : MsgQueue :=
  let seconds := now - expiredTimeout
  let (high, pkts) := dropExpiredSlots seconds q.high.lastPos.toNat 0 q.high
  let (low, pkts') := dropExpiredSlots seconds q.low.lastPos.toNat 0 q.low
  { q with high := high, low := low, deleted := q.deleted ++ (pkts ++ pkts').map PendingPacket.serial }

def sentEntry (tv : Int) (entry : AckMetaData) : AckMetaData :=
  { entry with
    nextsendTimestamp := tv + if entry.policy = .normalLifetime then ackTimeout else startMsgTimeout
    initialTimestamp := if entry.initialTimestamp = 0 then tv else entry.initialTimestamp
    reinsertions := entry.reinsertions + 1 }

def sendFromBucket (tv : Int) (b : Bucket) : Option (Bucket × Option PendingPacket) :=
  match (b.slots.take b.lastPos.toNat).findIdx? fun entry => entry.pkt.isSome ∧ entry.nextsendTimestamp ≤ tv with
  | none => none
  | some idx =>
    (b.slots[idx]?).map fun entry => ({ b with slots := b.slots.set idx (sentEntry tv entry) }, entry.pkt)

def rdyTimerCicles : Nat := 10

def retrySend (tv : Int) (q : MsgQueue) : Bool × MsgQueue :=
  match q.ackPkt with
  | some pkt => (true, { q.delete (some pkt) with ackPkt := none, written := q.written ++ [pkt], bufState := .bufFull })
  | none =>
    let waiting : Bool := q.bufState ≠ .bufRdy ∧ q.bufState ≠ .micErr
    let counter := q.bufRdyCounter + 1
    if waiting ∧ counter.toNat < rdyTimerCicles then (false, { q with bufRdyCounter := counter })
    else
      let q := if waiting then { q with bufState := .bufRdy, bufRdyCounter := 0 } else q
      match sendFromBucket tv q.high with
      | some (b, pkt) => (true, { q with high := b, written := q.written ++ pkt.toList, bufState := .bufFull })
      | none =>
        match sendFromBucket tv q.low with
        | some (b, pkt) => (true, { q with low := b, written := q.written ++ pkt.toList, bufState := .bufFull })
        | none => (false, q)

def framePkt (computeCRC : List UInt8 → UInt16) (hHandle : UInt16) (pkt : ProtocolPacket) (msgType : UInt8) :
    ProtocolPacket :=
  let pkt := pkt.pushFront (msgType :: netBytes hHandle)
  pkt.pushBack (hostBytes (computeCRC pkt.data))

def nextHandle (hHandle : UInt16) : UInt16 := (hHandle + 1) &&& 0x7FFF

/-- `addPktToTty` returns the handle, whatever `AddPending` answers. -/
def addPktToTty (hHandle : UInt16) (pkt : PendingPacket) (prio : PrioLevel) (policy : LifetimePolicy) (q : MsgQueue) :
    Int × MsgQueue :=
  (hHandle.toNat, (addPending pkt prio policy q).2)

end Isa100Gateway
