import Isa100Gateway.Gateway.LeaseMgmt
import Isa100Gateway.Gateway.PublishSubscribe

/-!
# Leases and the publish cache

The publish service and the lease lists as one system: leases enter and leave the subscriber lists of the cache, a publish goes to the leases of its entry, and the periodic update tells the leases whether the data are stale. The cache has the addresses of the leases. `none` stands for the use of an address without a lease.
-/

namespace Isa100Gateway

open SearchTree

def Lease.publishKey (l : Lease) : PublishKey := ⟨l.netAddr, l.shortTSAPID.toUInt16⟩

def LeaseState.publishSubscribers (s : LeaseState) (k : PublishKey) : List UInt32 :=
  (s.subscriber.filter fun l => k.addr = l.netAddr ∧ k.tsapid = l.tsapid).map Lease.address

def onLeaseAdd (l : Lease) (svc : PublishService) : PublishService :=
  if l.isPeriodic then
    match findCacheEntry l.publishKey svc.cache with
    | none => svc
    | some place => { svc with cache := modify (fun entry => (entry.1, { entry.2 with
        subscriberLeases := entry.2.subscriberLeases ++ [l.address] })) svc.cache place }
  else svc

def onLeaseDelete (reb : Rebalancing (PublishKey × PublishData)) (l : Lease) (svc : PublishService) :
    Option PublishService :=
  if l.isPeriodic then
    match findCacheEntry l.publishKey svc.cache with
    | none => some svc
    | some place =>
      (inorder svc.cache)[place]?.bind fun entry =>
        let left := entry.2.subscriberLeases.filter fun a => a ≠ l.address
        if left = [] then deleteCacheEntry reb place svc
        else some { svc with
          cache := modify (fun entry => (entry.1, { entry.2 with subscriberLeases := left })) svc.cache place }
  else some svc

def dispatchLeases (reb : Rebalancing (PublishKey × PublishData)) :
    List LeaseEffect → PublishService → Option PublishService
  | [], svc => some svc
  | .leaseAdd l :: es, svc => dispatchLeases reb es (onLeaseAdd l svc)
  | .leaseDelete l _ :: es, svc => (onLeaseDelete reb l svc).bind (dispatchLeases reb es)
  | .confirm .. :: es, svc => dispatchLeases reb es svc
  | .requestNewContract _ :: es, svc => dispatchLeases reb es svc
  | .requestContractTermination _ :: es, svc => dispatchLeases reb es svc

inductive IndicationType where
  | publish
  | subscribeTimer
  | watchdogTimer

structure LeaseIndication where
  type : IndicationType
  lease : Lease
  data : PublishIndicationData

def LeaseState.leaseAt (s : LeaseState) (address : UInt32) : Option Lease :=
  s.leases.find? fun l => l.address = address

def LeaseState.markSent (s : LeaseState) (l : Lease) (lastRx : Int) (staleReported : Bool) : LeaseState :=
  s.updateLease l.address fun l => { l with
    lastTx := if s.connected l.sessionId then lastRx else l.lastTx
    staleReported := staleReported }

def sendEach {α : Type} (send : LeaseState → α → Option (List LeaseIndication × LeaseState)) :
    LeaseState → List α → Option (List LeaseIndication × LeaseState)
  | s, [] => some ([], s)
  | s, a :: as => (send s a).bind fun (sent, s) =>
      (sendEach send s as).map fun (rest, s) => (sent ++ rest, s)

def publishIndication (lastRx : Int) (s : LeaseState) (data : PublishIndicationData) :
    Option (List LeaseIndication × LeaseState) :=
  (s.leaseAt data.leaseID).map fun l =>
    ([⟨.publish, l, { data with leaseID := l.leaseId }⟩], s.markSent l lastRx false)

def Lease.periodMSec (l : Lease) : Int :=
  let period := l.periodOrCommittedBurst.toInt
  if l.isPeriodic then
    if 0 < period then period * 1000
    else if period < 0 then 1000 / (-period)
    else 0
  else 0

def Lease.staleData (l : Lease) (diff : Int) : Bool := l.staleLimit.toNat < diff

def Lease.notPublishYet (l : Lease) (now : Int) : Bool :=
  now - l.lastTx < l.periodMSec / 1000 && !l.staleData (now - l.lastTx)

/-- The leases and the two flags of an entry during `UpdateSubscribers`. -/
structure EntryUpdate where
  leases : LeaseState
  hasActiveSubscribers : Bool
  staleReported : Bool

def updateSubscriberLeases (now lastRx : Int) (d : PublishData) :
    EntryUpdate → List UInt32 → Option (List LeaseIndication × EntryUpdate)
  | u, [] => some ([], u)
  | u, address :: addresses =>
    (u.leases.leaseAt address).bind fun l =>
      let data := { d.indication with leaseID := l.leaseId }
      let turn : List LeaseIndication × EntryUpdate :=
        if l.notPublishYet now then ([], { u with hasActiveSubscribers := true })
        else if l.staleData (now - d.lastRcv) then
          if l.staleReported then ([], u)
          else ([⟨.watchdogTimer, l, data⟩],
            { u with leases := u.leases.markSent l lastRx true, staleReported := true })
        else ([⟨.subscribeTimer, l, data⟩],
          { u with leases := u.leases.markSent l lastRx false, hasActiveSubscribers := true })
      (updateSubscriberLeases now lastRx d turn.2 addresses).map fun (rest, u) => (turn.1 ++ rest, u)

structure PublishState where
  leases : LeaseState
  service : PublishService

def PublishState.start (smAddress : Addr128) : PublishState := ⟨.start smAddress, .start⟩

def updateEntries (reb : Rebalancing (PublishKey × PublishData)) (now lastRx : Int) :
    Nat → Nat → PublishState → Option (List LeaseIndication × PublishState)
  | 0, _, s => some ([], s)
  | n + 1, place, s =>
    (inorder s.service.cache)[place]?.bind fun entry =>
      (updateSubscriberLeases now lastRx entry.2 ⟨s.leases, false, false⟩ entry.2.subscriberLeases).bind
        fun (sent, u) =>
          let rest : Option (List LeaseIndication × PublishState) :=
            if u.staleReported && !u.hasActiveSubscribers then
              (deleteCacheEntry reb place s.service).bind fun svc =>
                updateEntries reb now lastRx n place ⟨u.leases, svc⟩
            else updateEntries reb now lastRx n (place + 1) ⟨u.leases, s.service⟩
          rest.map fun (later, s) => (sent ++ later, s)

inductive PublishEvent where
  | lease (e : LeaseEvent)
  | publish (p : PublishReception)
  | updateSubscribers (now lastRx : Int)

def LeaseState.receives (s : LeaseState) (p : PublishReception) : PublishReception :=
  { p with subscribers := s.publishSubscribers p.key }

def publishStep (reb : Rebalancing (PublishKey × PublishData)) (s : PublishState) :
    PublishEvent → Option (List LeaseIndication × PublishState)
  | .lease e =>
    (leaseStep s.leases e).bind fun leases =>
      (dispatchLeases reb leases.out s.service).map fun svc => ([], ⟨leases, svc⟩)
  | .publish p =>
    (processPublishAPDU reb (s.leases.receives p) s.service).bind fun (published, _, svc) =>
      (sendEach (publishIndication p.lastRxUTC) s.leases published).map fun (sent, leases) =>
        (sent, ⟨leases, svc⟩)
  | .updateSubscribers now lastRx =>
    updateEntries reb now lastRx s.service.cache.numNodes 0 s

end Isa100Gateway
