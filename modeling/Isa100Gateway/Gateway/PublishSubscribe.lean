import Isa100Gateway.Asl.Types
import Isa100Gateway.Lib.Bytes
import Isa100Gateway.Lib.SearchTree
import Isa100Gateway.Slme.KeyTable

/-!
# The publish side of `PublishSubscribeSvc.cpp`

The publish cache of the gateway and the path of a received publish through it. `none` stands for a read outside the published data.
-/

namespace Isa100Gateway

open SearchTree

structure PublishKey where
  addr : Addr128
  tsapid : UInt16
deriving DecidableEq

def cacheCompare (k₁ k₂ : PublishKey) : Bool :=
  Bytes.memcmpLess k₁.addr.toList k₂.addr.toList || decide (k₁.tsapid < k₂.tsapid)

/-- `TPublishIndicationData`, with the values that `HTON` puts in network order. -/
structure PublishIndicationData where
  leaseID : UInt32
  txSeconds : UInt32
  txuSeconds : UInt32
  data : List UInt8

structure PublishData where
  lastRcv : Int
  subscriberLeases : List UInt32
  (recvDelta recvCount skipCount duplicateCount outOfOrderCount : UInt32)
  dataSize : UInt16
  indication : PublishIndicationData

abbrev PublishMap := BinaryTree (PublishKey × PublishData)

structure PublishService where
  cache : PublishMap
  tsapids : List UInt16
  (publishCount recvTotal skipTotal duplicateTotal outOfOrderTotal : UInt32)

def PublishService.start : PublishService where
  cache := .nil
  tsapids := []
  publishCount := 0
  recvTotal := 0
  skipTotal := 0
  duplicateTotal := 0
  outOfOrderTotal := 0

/-- A received publish APDU: its `APDU_IDTF`, its `PUBLISH_SRVC`, whose data are the bytes from `m_pData` on and at least `m_unSize` many, and what the service reads elsewhere meanwhile: the arrival time of the last APDU, the clock, the log level and the leases that subscribe to its key. -/
structure PublishReception where
  addr : Addr128
  srcTSAPID : UInt8
  txSeconds : UInt32
  txuSeconds : UInt32
  srvc : PublishSrvc Payload
  lastRxUTC : Int
  clock : Int
  allowINF : Bool
  subscribers : List UInt32
  size_le : srvc.size.toNat ≤ srvc.data.length

def PublishReception.key (p : PublishReception) : PublishKey := ⟨p.addr, p.srcTSAPID.toUInt16⟩

def PublishReception.copied (p : PublishReception) : List UInt8 := p.srvc.data.take p.srvc.size.toNat

def newPublishData (p : PublishReception) : PublishData where
  lastRcv := p.clock
  subscriberLeases := []
  recvDelta := 1
  recvCount := 1
  skipCount := 0
  duplicateCount := 0
  outOfOrderCount := 0
  dataSize := p.srvc.size
  indication := { leaseID := 0, txSeconds := p.txSeconds, txuSeconds := p.txuSeconds, data := p.copied }

def subscribedPublishData (p : PublishReception) : PublishData :=
  { newPublishData p with subscriberLeases := p.subscribers }

def findCacheEntry (k : PublishKey) (cache : PublishMap) : Option Nat :=
  SearchTree.find cacheCompare Prod.fst k cache

def insertCacheEntry (reb : Rebalancing (PublishKey × PublishData)) (k : PublishKey) (d : PublishData)
    (cache : PublishMap) : Nat × PublishMap :=
  let place := SearchTree.insertUnique cacheCompare Prod.fst (k, d) cache 0 none
  (place.1, match place.2 with
    | some cache => reb.inserted cache
    | none => cache)

def newCacheEntry (reb : Rebalancing (PublishKey × PublishData)) (p : PublishReception) (k : PublishKey)
    (svc : PublishService) : Nat × PublishService :=
  let entry := insertCacheEntry reb k (subscribedPublishData p) svc.cache
  (entry.1, { svc with
    cache := entry.2
    tsapids :=
      if p.srcTSAPID.toUInt16 ∈ svc.tsapids then svc.tsapids else svc.tsapids ++ [p.srcTSAPID.toUInt16] })

def deleteCacheEntry (reb : Rebalancing (PublishKey × PublishData)) (place : Nat) (svc : PublishService) :
    Option PublishService :=
  if place < svc.cache.numNodes then some { svc with cache := reb.erased svc.cache place } else none

def validityWindow : Int := 64

def isOutOfOrder (new old : UInt8) : Bool :=
  if old < new then decide (validityWindow < (new.toNat : Int) - old.toNat)
  else decide ((old.toNat : Int) - new.toNat < 0xFF - validityWindow)

/-- The messages that `addToCache` counts as skipped, and whether it logs them. -/
def skippedMessages (new old : UInt8) : Int × Bool :=
  let skip : Int := (new.toNat : Int) - old.toNat
  if skip ≠ 1 ∧ skip ≠ -255 then
    (if skip - 1 < 0 then skip - 1 + 256 else skip - 1, true)
  else (skip, false)

structure PublishTotals where
  skip : UInt32
  duplicate : UInt32
  outOfOrder : UInt32

def renewPublishData (p : PublishReception) (d : PublishData) : Option (Bool × PublishData × PublishTotals) :=
  let d := { d with
    lastRcv := p.lastRxUTC
    recvCount := d.recvCount + 1
    recvDelta := d.recvDelta + 1 }
  d.indication.data[1]?.bind fun old =>
    let new := p.srvc.freqSeqNo
    if old = new then
      some (false, { d with duplicateCount := d.duplicateCount + 1 }, ⟨0, 1, 0⟩)
    else if isOutOfOrder new old then
      some (false, { d with outOfOrderCount := d.outOfOrderCount + 1 }, ⟨0, 0, 1⟩)
    else if d.dataSize ≠ p.srvc.size then some (true, subscribedPublishData p, ⟨0, 0, 0⟩)
    else
      let skip := skippedMessages new old
      let skipped := if skip.2 then UInt32.ofNat skip.1.toNat else 0
      some (true, { d with
        skipCount := d.skipCount + skipped
        indication := { d.indication with
          txSeconds := if p.allowINF || skip.2 then p.txSeconds else d.indication.txSeconds
          txuSeconds := if p.allowINF || skip.2 then p.txuSeconds else d.indication.txuSeconds
          data := p.copied } }, ⟨skipped, 0, 0⟩)

def addToCache (reb : Rebalancing (PublishKey × PublishData)) (p : PublishReception) (k : PublishKey)
    (svc : PublishService) : Option (Bool × Nat × PublishService) :=
  match findCacheEntry k svc.cache with
  | some place =>
    (inorder svc.cache)[place]?.bind fun entry =>
      (renewPublishData p entry.2).map fun (saved, d, totals) =>
        (saved, place, { svc with
          cache := modify (fun entry => (entry.1, d)) svc.cache place
          recvTotal := svc.recvTotal + 1
          skipTotal := svc.skipTotal + totals.skip
          duplicateTotal := svc.duplicateTotal + totals.duplicate
          outOfOrderTotal := svc.outOfOrderTotal + totals.outOfOrder })
  | none => some (true, newCacheEntry reb p k svc)

def publish2Subscribers (d : PublishData) : List PublishIndicationData × PublishData :=
  (d.subscriberLeases.map fun id => { d.indication with leaseID := id },
    { d with indication := { d.indication with
      leaseID := d.subscriberLeases.getLast?.getD d.indication.leaseID } })

/-- `ProcessPublishAPDU`. Returns the indications for the subscribers, and whether the publish was saved in the cache. -/
def processPublishAPDU (reb : Rebalancing (PublishKey × PublishData)) (p : PublishReception)
    (svc : PublishService) : Option (List PublishIndicationData × Bool × PublishService) :=
  (addToCache reb p p.key svc).bind fun (saved, place, svc) =>
    if saved then
      (inorder svc.cache)[place]?.map fun entry =>
        let published := publish2Subscribers entry.2
        (published.1, true, { svc with
          cache := modify (fun entry => (entry.1, published.2)) svc.cache place
          publishCount := svc.publishCount + UInt32.ofNat published.1.length })
    else
      let published := publish2Subscribers (newPublishData p)
      some (published.1, false, { svc with
        publishCount := svc.publishCount + UInt32.ofNat published.1.length })

end Isa100Gateway
