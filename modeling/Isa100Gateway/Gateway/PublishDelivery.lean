import Isa100Gateway.Gateway.SubscriberLists

/-!
# Delivery of publishes

A publish whose sequence number is in order is sent once to every subscriber lease with the address and the TSAPID of the publisher, and to no other lease. The object of a lease is not compared.
-/

namespace Isa100Gateway

open SearchTree List

def Lease.identity (l : Lease) : UInt32 × UInt32 × UInt32 := (l.address, l.leaseId, l.sessionId)

/-- The entry of the key, if there is one, has another sequence number, and the one of the publish is not out of order. -/
def PublishReception.InOrder (p : PublishReception) (svc : PublishService) : Prop :=
  ∀ place entry, findCacheEntry p.key svc.cache = some place → (inorder svc.cache)[place]? = some entry →
    ∃ old, entry.2.indication.data[1]? = some old ∧ old ≠ p.srvc.freqSeqNo ∧ isOutOfOrder p.srvc.freqSeqNo old = false

section Saved

variable {S : Set PublishKey} {subs : List (PublishKey × UInt32)} {svc : PublishService} {dict : PublishDict}
  {p : PublishReception}

theorem renewPublishData_saved {d : PublishData} {old : UInt8} (hold : d.indication.data[1]? = some old)
    (hnew : old ≠ p.srvc.freqSeqNo) (horder : isOutOfOrder p.srvc.freqSeqNo old = false) :
    ∃ d' totals, renewPublishData p d = some (true, d', totals) := by
  unfold renewPublishData
  dsimp only
  rw [hold, Option.bind_some]
  rw [if_neg hnew, if_neg (by simp [horder])]
  split
  · exact ⟨_, _, rfl⟩
  · exact ⟨_, _, rfl⟩

theorem CacheLists.processPublish_saved (h : CacheLists S subs svc dict) (hagree : KeysAgree S)
    (reb : Rebalancing (PublishKey × PublishData)) (hk : p.key ∈ S)
    (hp : p.subscribers = Registry.under subs p.key) (horder : p.InOrder svc) :
    ∃ published svc', processPublishAPDU reb p svc = some (published, true, svc') := by
  obtain ⟨place, svc₁, hadd⟩ : ∃ place svc₁, Isa100Gateway.addToCache reb p p.key svc = some (true, place, svc₁) := by
    unfold Isa100Gateway.addToCache
    split
    · rename_i place hfind
      obtain ⟨d, hget, -⟩ := h.holds.found hagree hk hfind
      obtain ⟨old, hold, hnew, hout⟩ := horder place (p.key, d) hfind hget
      obtain ⟨d', totals, hrenew⟩ := renewPublishData_saved hold hnew hout
      rw [hget, Option.bind_some, hrenew]
      exact ⟨_, _, rfl⟩
    · exact ⟨_, _, rfl⟩
  obtain ⟨-, d, -, hget, -, -⟩ := h.addToCache hagree hk hp hadd
  unfold processPublishAPDU
  rw [hadd, Option.bind_some]
  dsimp only
  rw [if_pos rfl, hget]
  exact ⟨_, _, rfl⟩

end Saved

section Sending

variable {s s' : LeaseState}

theorem identities_markSent (s : LeaseState) (l : Lease) (lastRx : Int) (staleReported : Bool) :
    (s.markSent l lastRx staleReported).subscriber.map Lease.identity = s.subscriber.map Lease.identity := by
  change (s.subscriber.map _).map Lease.identity = _
  rw [map_map]
  apply map_congr_left
  intro m _
  change Lease.identity (if m.address = l.address then _ else m) = m.identity
  split <;> rfl

theorem sendEach_identities (lastRx : Int) : ∀ {s s' : LeaseState} {sent : List LeaseIndication}, s.Listed →
    ∀ (datas : List PublishIndicationData) (ids : List (UInt32 × UInt32 × UInt32)),
    datas.map PublishIndicationData.leaseID = ids.map Prod.fst →
    (∀ i ∈ ids, i ∈ s.subscriber.map Lease.identity) →
    sendEach (publishIndication lastRx) s datas = some (sent, s') →
    sent.map (fun i => i.lease.identity) = ids ∧
      ∀ i ∈ sent, i.type = .publish ∧ ∃ d ∈ datas, i.data = { d with leaseID := i.lease.leaseId }
  | s, s', sent, _, [], ids, hids, _, hsend => by
    cases hsend
    rw [map_nil, eq_comm, map_eq_nil_iff] at hids
    rw [hids]
    exact ⟨rfl, fun i hi => nomatch hi⟩
  | s, s', sent, h, data :: datas, [], hids, _, _ => by
    cases hids
  | s, s', sent, h, data :: datas, id :: ids, hids, hmem, hsend => by
    rw [map_cons, map_cons, cons.injEq] at hids
    obtain ⟨l, hl, rfl⟩ := mem_map.mp (hmem id mem_cons_self)
    have haddr : data.leaseID = l.address := hids.1
    rw [sendEach, publishIndication, haddr, h.leaseAt hl, Option.map_some, Option.bind_some] at hsend
    obtain ⟨⟨rest, s₁⟩, hrest, heq⟩ := Option.map_eq_some_iff.mp hsend
    cases heq
    obtain ⟨hident, hdata⟩ := sendEach_identities lastRx (h.markSent l lastRx false).1 datas ids hids.2
      (fun i hi => by
        rw [identities_markSent]
        exact hmem i (mem_cons_of_mem _ hi)) hrest
    refine ⟨congrArg (cons l.identity) hident, ?_⟩
    intro i hi
    rcases mem_cons.mp hi with rfl | hi
    · exact ⟨rfl, data, mem_cons_self, rfl⟩
    · obtain ⟨htype, d, hd, heq⟩ := hdata i hi
      exact ⟨htype, d, mem_cons_of_mem data hd, heq⟩

end Sending

/-- In every state that leases and publishes reach, a publish in order is sent to the subscriber leases with its address and TSAPID, each once and in the order of the list, with the received data and the id of the lease. -/
theorem publish_delivered {reb : Rebalancing (PublishKey × PublishData)} {S : Set PublishKey}
    {smAddress : Addr128} {s : PublishState} {p : PublishReception} (hagree : KeysAgree S)
    (h : PublishReaches reb S smAddress s) (hk : p.key ∈ S) (horder : p.InOrder s.service) :
    ∃ sent s', publishStep reb s (.publish p) = some (sent, s') ∧
      sent.map (fun i => i.lease.identity) =
        (s.leases.subscriber.filter fun l => l.netAddr = p.addr ∧ l.tsapid = p.srcTSAPID.toUInt16).map
          Lease.identity ∧
      (sent.map fun i => i.lease.address).Nodup ∧
      ∀ i ∈ sent, i.type = .publish ∧ i.data.leaseID = i.lease.leaseId ∧ i.data.data = p.copied := by
  have hattached := attached_of_reaches hagree h
  have hsubscribers := hattached.listed.publishSubscribers p.key
  obtain ⟨dict, hcache⟩ := hattached.cache
  obtain ⟨published, svc, hprocess⟩ := hcache.processPublish_saved hagree reb (p := s.leases.receives p) hk
    hsubscribers horder
  obtain ⟨⟨data, hdata, hpublished⟩, sent, leases, hsend, hnext, -⟩ := hattached.publish hagree hk hprocess
  let matching := s.leases.subscriber.filter fun l => l.netAddr = p.addr ∧ l.tsapid = p.srcTSAPID.toUInt16
  have hunder : Registry.under s.leases.subscriptions p.key = matching.map Lease.address := by
    rw [← hsubscribers]
    unfold LeaseState.publishSubscribers
    congr 1
    apply filter_congr
    intro l _
    exact decide_eq_decide.mpr (and_congr eq_comm eq_comm)
  have hids : published.map PublishIndicationData.leaseID = (matching.map Lease.identity).map Prod.fst := by
    rw [hpublished, if_pos rfl, hunder, map_map, map_map, map_map]
    rfl
  obtain ⟨hidentities, hsent⟩ := sendEach_identities p.lastRxUTC hattached.listed published
    (matching.map Lease.identity) hids
    (fun i hi => by
      obtain ⟨l, hl, rfl⟩ := mem_map.mp hi
      exact mem_map_of_mem (mem_of_mem_filter hl)) hsend
  refine ⟨sent, ⟨leases, svc⟩, hnext, hidentities, ?_, ?_⟩
  · have haddresses : sent.map (fun i => i.lease.address) = matching.map Lease.address := by
      calc sent.map (fun i => i.lease.address)
          = (sent.map fun i => i.lease.identity).map Prod.fst := by rw [map_map]; rfl
        _ = (matching.map Lease.identity).map Prod.fst := by rw [hidentities]
        _ = matching.map Lease.address := by rw [map_map]; rfl
    rw [haddresses, ← hunder]
    exact Registry.nodup_under hattached.listed.nodup_subscriptions p.key
  · intro i hi
    obtain ⟨htype, d, hd, heq⟩ := hsent i hi
    rw [hpublished] at hd
    obtain ⟨a, -, rfl⟩ := mem_map.mp hd
    rw [heq]
    exact ⟨htype, rfl, hdata rfl⟩

theorem publish_delivered_sample : ∃ s sent s',
    publishStep Rebalancing.plain s (.publish (sampleReading 3)) = some (sent, s') ∧
      sent.map (fun i => i.lease.identity) = [(4096, 1, 1)] := by
  obtain ⟨s, hrun, hpair⟩ : ∃ s,
      Machine.runs (fun s e => (publishStep Rebalancing.plain s e).map Prod.snd)
        (PublishState.start sampleDevice) sampleSubscription = some s ∧
      ((s.leases.subscriber.filter fun l => l.netAddr = (sampleReading 3).addr ∧
          l.tsapid = (sampleReading 3).srcTSAPID.toUInt16).map Lease.identity,
        (inorder s.service.cache).map fun entry => entry.2.indication.data) = ([(4096, 1, 1)], [[0, 2]]) :=
    Option.map_eq_some_iff.mp (by decide)
  obtain ⟨hlist, hcached⟩ := Prod.mk.inj hpair
  have horder : (sampleReading 3).InOrder s.service := by
    intro place entry _ hget
    have hmem : entry.2.indication.data ∈ (inorder s.service.cache).map fun entry => entry.2.indication.data :=
      mem_map_of_mem (mem_of_getElem? hget)
    rw [hcached, mem_singleton] at hmem
    rw [hmem]
    exact ⟨2, rfl, by decide, by decide⟩
  obtain ⟨sent, s', hnext, hsent, -⟩ := publish_delivered keysAgree_sampleKeys
    (Machine.reaches_runs (by decide) hrun) (p := sampleReading 3) rfl horder
  exact ⟨s, sent, s', hnext, hsent.trans hlist⟩

/-- The lease is for object 5 of the device, the publish is from object 2. -/
theorem publish_ignores_object : ∃ s, PublishReaches Rebalancing.plain sampleKeys sampleDevice s ∧
    ∃ sent s', publishStep Rebalancing.plain s (.publish (sampleReading 3)) = some (sent, s') ∧
      ∃ i ∈ sent, i.lease.objId ≠ (sampleReading 3).srvc.pubOID := by
  obtain ⟨s, hrun, hsent⟩ : ∃ s,
      Machine.runs (fun s e => (publishStep Rebalancing.plain s e).map Prod.snd)
        (PublishState.start sampleDevice) sampleSubscription = some s ∧
      (publishStep Rebalancing.plain s (.publish (sampleReading 3))).map
        (fun next => next.1.map fun i => i.lease.objId) = some [5] :=
    Option.map_eq_some_iff.mp (by decide)
  obtain ⟨⟨sent, s'⟩, hnext, hobjects⟩ := Option.map_eq_some_iff.mp hsent
  refine ⟨s, Machine.reaches_runs (by decide) hrun, sent, s', hnext, ?_⟩
  have hmem : (5 : UInt16) ∈ sent.map fun i => i.lease.objId := by
    rw [hobjects]
    exact mem_singleton_self 5
  obtain ⟨i, hi, hobject⟩ := mem_map.mp hmem
  refine ⟨i, hi, ?_⟩
  rw [hobject]
  decide

end Isa100Gateway
