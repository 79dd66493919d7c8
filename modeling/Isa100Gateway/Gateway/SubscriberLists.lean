import Isa100Gateway.Gateway.LeaseLists
import Isa100Gateway.Gateway.PublishCache

/-!
# The subscriber lists of the publish cache

Every entry of the cache holds the addresses of the periodic leases with its key, and of no others, in every state that the leases and the publishes reach. Hence no lease is used after it is deleted.
-/

namespace Isa100Gateway

open SearchTree List Option Registry LeaseState PublishState

section Entries

variable {S : Set PublishKey} {svc svc' : PublishService} {dict : PublishDict} {k : PublishKey} {place : Nat}

theorem CacheHolds.found (h : CacheHolds S svc dict) (hagree : KeysAgree S) (hk : k ∈ S)
    (hfind : findCacheEntry k svc.cache = some place) :
    ∃ d, (inorder svc.cache)[place]? = some (k, d) ∧ dict k = some d := by
  obtain ⟨⟨k', d⟩, hget, hequiv⟩ :=
    (find_eq_some_iff (ordersOn_cacheCompare_iff.mpr hagree) h.sorted hk).mp hfind
  obtain rfl : k' = k := equivalent_cacheCompare_iff.mp hequiv
  exact ⟨d, hget, (h.entries k' d).mp (mem_of_getElem? hget)⟩

theorem CacheHolds.absent (h : CacheHolds S svc dict) (hagree : KeysAgree S) (hk : k ∈ S)
    (hfind : findCacheEntry k svc.cache = none) : dict k = none := by
  have hlookup := (h.mirrors hagree).lookup k hk
  rw [hfind, bind_none] at hlookup
  exact map_eq_none_iff.mp hlookup.symm

theorem CacheHolds.modify (h : CacheHolds S svc dict) {d : PublishData}
    (hget : (inorder svc.cache)[place]? = some (k, d))
    {f : PublishKey × PublishData → PublishKey × PublishData} (hkey : ∀ entry, (f entry).1 = entry.1)
    (hcache : svc'.cache = SearchTree.modify f svc.cache place) :
    CacheHolds S svc' (Function.update dict k (some (f (k, d)).2)) := by
  have hinorder : inorder svc'.cache = (inorder svc.cache).modify place f := by
    rw [hcache, inorder_modify]
  refine ⟨hinorder ▸ h.sorted.modify hkey place, ?_⟩
  intro k' d'
  have hpair : f (k, d) = (k, (f (k, d)).2) := Prod.ext (hkey (k, d)) rfl
  rw [hinorder, mem_iff_getElem?, Function.update_apply]
  split
  · rename_i hk
    subst hk
    constructor
    · rintro ⟨j, hj⟩
      rw [getElem?_modify] at hj
      obtain ⟨⟨k₁, d₁⟩, hold, hnew⟩ := map_eq_some_iff.mp hj
      split at hnew
      · rename_i hplace
        rw [← hplace, hget] at hold
        rw [← Option.some.inj hold] at hnew
        exact congrArg some (congrArg Prod.snd hnew)
      · rename_i hplace
        -- no other entry has the key
        have hkeys : ((inorder svc.cache).map Prod.fst)[place]? = ((inorder svc.cache).map Prod.fst)[j]? := by
          rw [getElem?_map, getElem?_map, hget, hold]
          exact congrArg some (congrArg Prod.fst hnew).symm
        have hlt : place < ((inorder svc.cache).map Prod.fst).length := by
          rw [length_map]
          exact (List.getElem?_eq_some_iff.mp hget).1
        exact absurd ((getElem?_inj hlt h.nodup).mp hkeys) hplace
    · intro hnew
      refine ⟨place, ?_⟩
      rw [getElem?_modify_eq, hget]
      change some (f (k', d)) = some (k', d')
      rw [hpair, Option.some.inj hnew]
  · rename_i hk
    rw [← h.entries k' d', mem_iff_getElem?]
    have hsame : ∀ j : Nat, ((inorder svc.cache).modify place f)[j]? = some (k', d') ↔
        (inorder svc.cache)[j]? = some (k', d') := by
      intro j
      by_cases hplace : place = j
      · subst hplace
        rw [getElem?_modify_eq, hget]
        change some (f (k, d)) = some (k', d') ↔ _
        rw [hpair]
        constructor
        · intro heq
          exact absurd (congrArg Prod.fst (Option.some.inj heq)).symm hk
        · intro heq
          exact absurd (congrArg Prod.fst (Option.some.inj heq)).symm hk
      · rw [getElem?_modify_ne f _ hplace]
    exact exists_congr hsame

theorem CacheHolds.deleteAt (h : CacheHolds S svc dict) (reb : Rebalancing (PublishKey × PublishData))
    {d : PublishData} (hget : (inorder svc.cache)[place]? = some (k, d)) :
    ∃ svc', deleteCacheEntry reb place svc = some svc' ∧ CacheHolds S svc' (Function.update dict k none) := by
  have hplace : place < svc.cache.numNodes := by
    rw [← length_inorder]
    exact (List.getElem?_eq_some_iff.mp hget).1
  have hdelete : deleteCacheEntry reb place svc = some { svc with cache := reb.erased svc.cache place } :=
    if_pos hplace
  refine ⟨_, hdelete, ?_⟩
  rw [← dictStep_delete dict hget]
  exact h.erase hdelete

end Entries

def subscriberIndex (dict : PublishDict) (k : PublishKey) : Option (List UInt32) :=
  (dict k).map PublishData.subscriberLeases

theorem subscriberIndex_update (dict : PublishDict) (k : PublishKey) (d : Option PublishData) :
    subscriberIndex (Function.update dict k d) =
      Function.update (subscriberIndex dict) k (d.map PublishData.subscriberLeases) := by
  funext k'
  unfold subscriberIndex
  rw [Function.update_apply, Function.update_apply]
  split <;> rfl

structure CacheLists (S : Set PublishKey) (subs : List (PublishKey × UInt32)) (svc : PublishService)
    (dict : PublishDict) : Prop where
  holds : CacheHolds S svc dict
  indexes : Indexes (subscriberIndex dict) subs

section Lists

variable {reb : Rebalancing (PublishKey × PublishData)} {S : Set PublishKey}
  {subs subs' : List (PublishKey × UInt32)} {svc svc' : PublishService} {dict : PublishDict}
  {k : PublishKey} {l : Lease}

variable {d : PublishData} {place : Nat} {p : PublishReception} {saved : Bool}

section

variable (h : CacheLists S subs svc dict)
include h

theorem CacheLists.subscribers (hdict : dict k = some d) : d.subscriberLeases = under subs k :=
  h.indexes k d.subscriberLeases (by rw [subscriberIndex, hdict]; rfl)

theorem CacheLists.modify (hget : (inorder svc.cache)[place]? = some (k, d))
    {f : PublishKey × PublishData → PublishKey × PublishData} (hkey : ∀ entry, (f entry).1 = entry.1)
    (hlist : (f (k, d)).2.subscriberLeases = under subs k)
    (hcache : svc'.cache = SearchTree.modify f svc.cache place) :
    CacheLists S subs svc' (Function.update dict k (some (f (k, d)).2)) := by
  refine ⟨h.holds.modify hget hkey hcache, ?_⟩
  rw [subscriberIndex_update, map_some, hlist]
  exact h.indexes.create k

theorem CacheLists.deleteAt (reb : Rebalancing (PublishKey × PublishData))
    (hget : (inorder svc.cache)[place]? = some (k, d)) : ∃ svc', deleteCacheEntry reb place svc = some svc' ∧
      CacheLists S subs svc' (Function.update dict k none) := by
  obtain ⟨svc', hdelete, hholds⟩ := h.holds.deleteAt reb hget
  refine ⟨svc', hdelete, hholds, ?_⟩
  rw [subscriberIndex_update]
  exact h.indexes.drop k

theorem CacheLists.leaseAdd (hagree : KeysAgree S) (hl : l.isPeriodic = true) (hk : l.publishKey ∈ S) :
    ∃ dict', CacheLists S (subs ++ [l.subscription]) (onLeaseAdd l svc) dict' := by
  have hadd := h.indexes.add l.publishKey l.address
  unfold onLeaseAdd
  rw [if_pos hl]
  split
  · rename_i hfind
    have habsent := h.holds.absent hagree hk hfind
    have hindex : subscriberIndex dict l.publishKey = none := by rw [subscriberIndex, habsent]; rfl
    rw [hindex, map_none, ← hindex, Function.update_eq_self] at hadd
    exact ⟨dict, h.holds, hadd⟩
  · rename_i place hfind
    obtain ⟨d, hget, hdict⟩ := h.holds.found hagree hk hfind
    have hindex : subscriberIndex dict l.publishKey = some d.subscriberLeases := by
      rw [subscriberIndex, hdict]
      rfl
    rw [hindex, map_some] at hadd
    refine ⟨_, h.holds.modify hget ?_ rfl, ?_⟩
    · exact fun _ => rfl
    · rw [subscriberIndex_update]
      exact hadd

theorem CacheLists.leaseDelete (hagree : KeysAgree S)
    (reb : Rebalancing (PublishKey × PublishData)) (hl : l.isPeriodic = true) (hk : l.publishKey ∈ S)
    (hmem : l.subscription ∈ subs) (hnodup : (subs.map Prod.snd).Nodup) :
    ∃ svc' dict', onLeaseDelete reb l svc = some svc' ∧
      CacheLists S (subs.filter fun e => e.2 ≠ l.address) svc' dict' := by
  have hremove := h.indexes.remove hmem hnodup
  unfold onLeaseDelete
  rw [if_pos hl]
  split
  · rename_i hfind
    have habsent := h.holds.absent hagree hk hfind
    have hindex : subscriberIndex dict l.publishKey = none := by rw [subscriberIndex, habsent]; rfl
    rw [hindex, map_none, ← hindex, Function.update_eq_self] at hremove
    exact ⟨svc, dict, rfl, h.holds, hremove⟩
  · rename_i place hfind
    obtain ⟨d, hget, hdict⟩ := h.holds.found hagree hk hfind
    have hindex : subscriberIndex dict l.publishKey = some d.subscriberLeases := by
      rw [subscriberIndex, hdict]
      rfl
    rw [hindex, map_some] at hremove
    rw [hget, bind_some]
    dsimp only
    split
    · obtain ⟨svc', hdelete, hholds⟩ := h.holds.deleteAt reb hget
      refine ⟨svc', _, hdelete, hholds, ?_⟩
      have hdrop := hremove.drop l.publishKey
      rw [Function.update_idem] at hdrop
      rw [subscriberIndex_update]
      exact hdrop
    · refine ⟨_, _, rfl, h.holds.modify hget ?_ rfl, ?_⟩
      · exact fun _ => rfl
      · rw [subscriberIndex_update]
        exact hremove

end

theorem nodup_resubscribe {e : LeaseEffect} (hnodup : (subs.map Prod.snd).Nodup)
    (h : e.resubscribe subs = some subs') : (subs'.map Prod.snd).Nodup := by
  cases e with
  | leaseAdd l =>
    simp only [LeaseEffect.resubscribe] at h
    split at h
    · split at h
      · cases h
      · rename_i hnew
        cases h
        rw [map_append]
        exact hnodup.append (nodup_singleton _) (disjoint_singleton.mpr hnew)
    · cases h
      exact hnodup
  | leaseDelete l n =>
    simp only [LeaseEffect.resubscribe] at h
    split at h
    · split at h
      · cases h
        exact hnodup.sublist (filter_sublist.map Prod.snd)
      · cases h
    · cases h
      exact hnodup
  | confirm session transaction status leaseId period request =>
    cases h
    exact hnodup
  | requestNewContract endpoints =>
    cases h
    exact hnodup
  | requestContractTermination id =>
    cases h
    exact hnodup

theorem CacheLists.dispatch (hagree : KeysAgree S) (reb : Rebalancing (PublishKey × PublishData))
    (es : List LeaseEffect) : ∀ {subs subs' svc dict}, CacheLists S subs svc dict →
    (subs.map Prod.snd).Nodup → (∀ e ∈ subs, e.1 ∈ S) → (∀ l, .leaseAdd l ∈ es → l.publishKey ∈ S) →
    replay es subs = some subs' →
    ∃ svc' dict', dispatchLeases reb es svc = some svc' ∧ CacheLists S subs' svc' dict' ∧
      ∀ e ∈ subs', e.1 ∈ S := by
  induction es with
  | nil =>
    intro subs subs' svc dict h _ hkeys _ hreplay
    cases hreplay
    exact ⟨svc, dict, rfl, h, hkeys⟩
  | cons e es ih =>
    intro subs subs' svc dict h hnodup hkeys hadded hreplay
    obtain ⟨subs₁, he, hrest⟩ := bind_eq_some_iff.mp hreplay
    have hadded' : ∀ l, .leaseAdd l ∈ es → l.publishKey ∈ S := fun l hl => hadded l (mem_cons_of_mem e hl)
    have hnodup' := nodup_resubscribe hnodup he
    cases e with
    | leaseAdd l =>
      have hk := hadded l mem_cons_self
      simp only [LeaseEffect.resubscribe] at he
      rw [dispatchLeases]
      split at he
      · rename_i hl
        split at he
        · cases he
        · cases he
          obtain ⟨dict₁, h₁⟩ := h.leaseAdd hagree hl hk
          refine ih h₁ hnodup' ?_ hadded' hrest
          intro e he
          rcases mem_append.mp he with he | he
          · exact hkeys e he
          · rw [mem_singleton.mp he]
            exact hk
      · rename_i hl
        cases he
        rw [onLeaseAdd, if_neg hl]
        exact ih h hnodup' hkeys hadded' hrest
    | leaseDelete l n =>
      simp only [LeaseEffect.resubscribe] at he
      rw [dispatchLeases]
      split at he
      · rename_i hl
        split at he
        · rename_i hmem
          cases he
          obtain ⟨svc₁, dict₁, hstep, h₁⟩ := h.leaseDelete hagree reb hl (hkeys _ hmem) hmem hnodup
          rw [hstep, bind_some]
          exact ih h₁ hnodup' (fun e he => hkeys e (mem_of_mem_filter he)) hadded' hrest
        · cases he
      · rename_i hl
        cases he
        rw [onLeaseDelete, if_neg hl, bind_some]
        exact ih h hnodup' hkeys hadded' hrest
    | confirm session transaction status leaseId period request =>
      cases he
      exact ih h hnodup' hkeys hadded' hrest
    | requestNewContract endpoints =>
      cases he
      exact ih h hnodup' hkeys hadded' hrest
    | requestContractTermination id =>
      cases he
      exact ih h hnodup' hkeys hadded' hrest

theorem renewPublishData_lists {d d' : PublishData}
    {totals : PublishTotals} (h : renewPublishData p d = some (saved, d', totals)) :
    (d'.subscriberLeases = d.subscriberLeases ∨ d'.subscriberLeases = p.subscribers) ∧
      (saved = true → d'.indication.data = p.copied) := by
  obtain ⟨old, -, h⟩ := bind_eq_some_iff.mp h
  dsimp only at h
  split at h
  · cases h
    exact ⟨Or.inl rfl, fun hsaved => nomatch hsaved⟩
  split at h
  · cases h
    exact ⟨Or.inl rfl, fun hsaved => nomatch hsaved⟩
  split at h
  · cases h
    exact ⟨Or.inr rfl, fun _ => rfl⟩
  · cases h
    exact ⟨Or.inl rfl, fun _ => rfl⟩

theorem CacheLists.addToCache (h : CacheLists S subs svc dict) (hagree : KeysAgree S)
    (hk : k ∈ S) (hp : p.subscribers = under subs k) (hstep : addToCache reb p k svc = some (saved, place, svc')) :
    ∃ dict' d, CacheLists S subs svc' dict' ∧ (inorder svc'.cache)[place]? = some (k, d) ∧
      d.subscriberLeases = under subs k ∧ (saved = true → d.indication.data = p.copied) := by
  unfold Isa100Gateway.addToCache at hstep
  split at hstep
  · rename_i found hfind
    obtain ⟨d, hget, hdict⟩ := h.holds.found hagree hk hfind
    rw [hget, bind_some] at hstep
    obtain ⟨⟨saved', d', totals⟩, hrenew, heq⟩ := map_eq_some_iff.mp hstep
    obtain ⟨rfl, hrest⟩ := Prod.mk.inj heq
    cases hrest
    obtain ⟨hlist, hdata⟩ := renewPublishData_lists hrenew
    have hsubscribers : d'.subscriberLeases = under subs k := by
      rcases hlist with hlist | hlist
      · exact hlist.trans (h.subscribers hdict)
      · exact hlist.trans hp
    refine ⟨_, d', h.modify (f := fun entry => (entry.1, d')) hget (fun _ => rfl) hsubscribers rfl, ?_,
      hsubscribers, hdata⟩
    rw [inorder_modify, getElem?_modify_eq, hget]
    rfl
  · rename_i hfind
    have habsent := h.holds.absent hagree hk hfind
    obtain ⟨rfl, hrest⟩ := Prod.mk.inj (Option.some.inj hstep)
    have hplace : place = (newCacheEntry reb p k svc).1 := congrArg Prod.fst hrest.symm
    obtain rfl : (newCacheEntry reb p k svc).2 = svc' := congrArg Prod.snd hrest
    have hholds : CacheHolds S (newCacheEntry reb p k svc).2 _ := h.holds.insert hagree hk p
    rw [dictStep_new p habsent] at hholds
    refine ⟨_, subscribedPublishData p, ⟨hholds, ?_⟩, ?_, hp, fun _ => rfl⟩
    · rw [subscriberIndex_update, map_some]
      change Indexes (Function.update _ k (some p.subscribers)) subs
      rw [hp]
      exact h.indexes.create k
    · have hnew : ∀ entry ∈ inorder svc.cache, ¬ Equivalent cacheCompare entry.1 k := by
        rintro ⟨k', d'⟩ hmem hequiv
        obtain rfl : k' = k := equivalent_cacheCompare_iff.mp hequiv
        cases habsent.symm.trans ((h.holds.entries k' d').mp hmem)
      obtain ⟨low, high, t, -, hinsert, -, -⟩ := insertUnique_new (x := (k, subscribedPublishData p))
        (ordersOn_cacheCompare_iff.mpr hagree) h.holds.sorted hk hnew
      obtain ⟨i, hi, hget⟩ := insertUnique_place hinsert
      have hcache : (newCacheEntry reb p k svc).2.cache = reb.inserted t := by
        change (insertCacheEntry reb k (subscribedPublishData p) svc.cache).2 = _
        rw [insertCacheEntry, hinsert]
      have hfirst : place = i := by
        rw [hplace, ← Nat.zero_add i]
        exact hi
      rw [hfirst, hcache, reb.inorder_inserted]
      exact hget

theorem CacheLists.processPublish (h : CacheLists S subs svc dict) (hagree : KeysAgree S)
    (hk : p.key ∈ S) (hp : p.subscribers = under subs p.key)
    {published : List PublishIndicationData}
    (hstep : processPublishAPDU reb p svc = some (published, saved, svc')) :
    ∃ dict', CacheLists S subs svc' dict' ∧ ∃ data : PublishIndicationData, (saved = true → data.data = p.copied) ∧
        published = (if saved then under subs p.key else []).map fun a => { data with leaseID := a } := by
  obtain ⟨⟨saved', place, svc₁⟩, hadd, hrest⟩ := bind_eq_some_iff.mp hstep
  obtain ⟨dict₁, d, h₁, hget, hlist, hdata⟩ := h.addToCache hagree hk hp hadd
  dsimp only at hrest
  split at hrest
  · rename_i hsaved
    rw [hget, map_some] at hrest
    obtain ⟨rfl, heq⟩ := Prod.mk.inj (Option.some.inj hrest)
    cases heq
    refine ⟨_, h₁.modify (f := fun entry => (entry.1, (publish2Subscribers d).2)) hget (fun _ => rfl) hlist rfl,
      d.indication, fun _ => hdata hsaved, ?_⟩
    rw [if_pos rfl, ← hlist]
    rfl
  · obtain ⟨rfl, heq⟩ := Prod.mk.inj (Option.some.inj hrest)
    cases heq
    have hholds := h₁.holds
    refine ⟨dict₁, ⟨⟨hholds.sorted, hholds.entries⟩, h₁.indexes⟩, d.indication, ?_, rfl⟩
    intro hsaved
    cases hsaved

end Lists

section Leases

variable {s : LeaseState} {l : Lease} {address : UInt32}

theorem eq_of_countP_le_one {α : Type} {p : α → Bool} {as : List α} (h : as.countP p ≤ 1) {a b : α}
    (ha : a ∈ as) (hb : b ∈ as) (hpa : p a = true) (hpb : p b = true) : a = b := by
  rw [countP_eq_length_filter] at h
  have hamem : a ∈ as.filter p := mem_filter.mpr ⟨ha, hpa⟩
  have hbmem : b ∈ as.filter p := mem_filter.mpr ⟨hb, hpb⟩
  match hfilter : as.filter p with
  | [] =>
    rw [hfilter] at hamem
    cases hamem
  | [c] =>
    rw [hfilter, mem_singleton] at hamem hbmem
    rw [hamem, hbmem]
  | c :: c' :: cs =>
    rw [hfilter] at h
    simp at h

theorem mem_leases_of_subscriber (hl : l ∈ s.subscriber) : l ∈ s.leases := by
  unfold LeaseState.leases
  rw [mem_append, mem_append]
  exact Or.inl (Or.inr hl)

theorem LeaseState.Listed.leaseAt (h : s.Listed) (hl : l ∈ s.subscriber) : s.leaseAt l.address = some l := by
  unfold LeaseState.leaseAt
  cases hfind : s.leases.find? fun m => m.address = l.address with
  | none =>
    have hnot := find?_eq_none.mp hfind l (mem_leases_of_subscriber hl)
    simp at hnot
  | some m =>
    have haddr := find?_some hfind
    have heq := eq_of_countP_le_one (h.distinct l.address) (mem_of_find?_eq_some hfind)
      (mem_leases_of_subscriber hl) haddr (decide_eq_true rfl)
    rw [heq]

theorem LeaseState.Listed.markSent (h : s.Listed) (l : Lease) (lastRx : Int) (staleReported : Bool) :
    (s.markSent l lastRx staleReported).Listed ∧
      (s.markSent l lastRx staleReported).subscriptions = s.subscriptions := by
  have hupdate := Tracks.updateLease h l.address (f := fun l => { l with
    lastTx := if s.connected l.sessionId then lastRx else l.lastTx
    staleReported := staleReported }) fun _ => rfl
  have hsubs : s.subscriptions = (s.markSent l lastRx staleReported).subscriptions :=
    Option.some.inj hupdate.replayed
  have hlisted : Tracks s.subscriptions { s.markSent l lastRx staleReported with out := [] } :=
    hupdate.frame rfl rfl rfl rfl rfl
  refine ⟨?_, hsubs.symm⟩
  unfold Listed
  rw [← hsubs]
  exact hlisted

theorem exists_of_subscribed {k : PublishKey} (h : (k, address) ∈ s.subscriptions) :
    ∃ l ∈ s.subscriber, l.publishKey = k ∧ l.address = address := by
  obtain ⟨l, hl, heq⟩ := mem_map.mp h
  exact ⟨l, hl, congrArg Prod.fst heq, congrArg Prod.snd heq⟩

theorem LeaseState.Listed.publishSubscribers (h : s.Listed) (k : PublishKey) :
    s.publishSubscribers k = Registry.under s.subscriptions k := by
  unfold LeaseState.publishSubscribers under LeaseState.subscriptions
  rw [List.filter_map, List.map_map]
  have hkeys : s.subscriber.filter (fun l => k.addr = l.netAddr ∧ k.tsapid = l.tsapid) =
      s.subscriber.filter ((fun e => decide (e.1 = k)) ∘ Lease.subscription) := by
    apply filter_congr
    intro l hl
    have hshort : l.shortTSAPID.toUInt16 = l.tsapid := by
      have hle := UInt16.le_iff_toNat_le.mp (h.shortTSAPIDs l hl)
      rw [← UInt16.toNat_inj, Lease.shortTSAPID, UInt8.toNat_toUInt16, UInt16.toNat_toUInt8]
      change l.tsapid.toNat ≤ 15 at hle
      omega
    apply decide_eq_decide.mpr
    change _ ↔ Lease.publishKey l = k
    rw [Lease.publishKey, hshort]
    cases k
    rw [PublishKey.mk.injEq]
    exact and_congr eq_comm eq_comm
  rw [hkeys]
  rfl

theorem LeaseState.Listed.sendEach (lastRx : Int) : ∀ {s : LeaseState}, s.Listed →
    ∀ datas : List PublishIndicationData, (∀ data ∈ datas, ∃ k, (k, data.leaseID) ∈ s.subscriptions) →
    ∃ sent s', sendEach (publishIndication lastRx) s datas = some (sent, s') ∧ s'.Listed ∧
      s'.subscriptions = s.subscriptions
  | s, h, [], _ => ⟨[], s, rfl, h, rfl⟩
  | s, h, data :: datas, hdatas => by
    obtain ⟨k, hmem⟩ := hdatas data mem_cons_self
    obtain ⟨l, hl, -, haddr⟩ := exists_of_subscribed hmem
    obtain ⟨hlisted, hsubs⟩ := h.markSent l lastRx false
    obtain ⟨sent, s', hrest, hlisted', hsubs'⟩ := hlisted.sendEach lastRx datas fun data' hdata' => by
      rw [hsubs]
      exact hdatas data' (mem_cons_of_mem data hdata')
    refine ⟨⟨.publish, l, { data with leaseID := l.leaseId }⟩ :: sent, s', ?_, hlisted', hsubs'.trans hsubs⟩
    rw [Isa100Gateway.sendEach, publishIndication, ← haddr, h.leaseAt hl, map_some, bind_some]
    dsimp only
    rw [hrest]
    rfl

theorem LeaseState.Listed.updateSubscriberLeases (now lastRx : Int) (d : PublishData) :
    ∀ {u : EntryUpdate}, u.leases.Listed → ∀ addresses : List UInt32,
    (∀ a ∈ addresses, ∃ k, (k, a) ∈ u.leases.subscriptions) →
    ∃ sent u', updateSubscriberLeases now lastRx d u addresses = some (sent, u') ∧ u'.leases.Listed ∧
      u'.leases.subscriptions = u.leases.subscriptions
  | u, h, [], _ => ⟨[], u, rfl, h, rfl⟩
  | u, h, address :: addresses, hmem => by
    obtain ⟨k, hk⟩ := hmem address mem_cons_self
    obtain ⟨l, hl, -, haddr⟩ := exists_of_subscribed hk
    rw [Isa100Gateway.updateSubscriberLeases, ← haddr, h.leaseAt hl, bind_some]
    dsimp only
    generalize hturn : (if l.notPublishYet now then _ else _ : List LeaseIndication × EntryUpdate) = turn
    -- a turn changes at most the marks of its lease
    have hkept : turn.2.leases.Listed ∧ turn.2.leases.subscriptions = u.leases.subscriptions := by
      rw [← hturn]
      split
      · exact ⟨h, rfl⟩
      split
      · split
        · exact ⟨h, rfl⟩
        · exact h.markSent l lastRx true
      · exact h.markSent l lastRx false
    obtain ⟨sent, u', hrest, hlisted, hsubs⟩ := hkept.1.updateSubscriberLeases now lastRx d addresses fun a ha => by
      rw [hkept.2]
      exact hmem a (mem_cons_of_mem address ha)
    rw [hrest]
    exact ⟨turn.1 ++ sent, u', rfl, hlisted, hsubs.trans hkept.2⟩

end Leases

/-! ## Runs -/

def LeaseState.added (s : LeaseState) : List Lease :=
  s.out.filterMap fun
    | .leaseAdd l => some l
    | _ => none

theorem mem_added {s : LeaseState} {l : Lease} (h : .leaseAdd l ∈ s.out) : l ∈ s.added :=
  mem_filterMap.mpr ⟨.leaseAdd l, h, rfl⟩

/-- The keys of the leases that a step adds and of its publish are in `S`. -/
def PublishEvent.Uses (S : Set PublishKey) (s : PublishState) : PublishEvent → Prop
  | .lease e => ∀ leases ∈ leaseStep s.leases e, ∀ l ∈ leases.added, l.publishKey ∈ S
  | .publish p => p.key ∈ S
  | .updateSubscribers _ _ => True

instance PublishEvent.decidableUses (S : Set PublishKey) [DecidablePred (· ∈ S)] (s : PublishState) :
    ∀ e : PublishEvent, Decidable (e.Uses S s)
  | .lease _ => inferInstanceAs (Decidable (∀ _ ∈ _, _))
  | .publish _ => inferInstanceAs (Decidable (_ ∈ _))
  | .updateSubscribers _ _ => isTrue trivial

/-- The states that leases and publishes over keys of `S` reach. -/
def PublishReaches (reb : Rebalancing (PublishKey × PublishData)) (S : Set PublishKey) (smAddress : Addr128) :
    PublishState → Prop :=
  Machine.Reaches (start smAddress) (fun s e => (publishStep reb s e).map Prod.snd)
    fun s e => PublishEvent.Uses S s e

structure PublishState.Attached (S : Set PublishKey) (s : PublishState) : Prop where
  listed : s.leases.Listed
  keys : ∀ e ∈ s.leases.subscriptions, e.1 ∈ S
  cache : ∃ dict, CacheLists S s.leases.subscriptions s.service dict

section Runs

variable {reb : Rebalancing (PublishKey × PublishData)} {S : Set PublishKey} {s s' : PublishState}

theorem attached_start (S : Set PublishKey) (smAddress : Addr128) : (PublishState.start smAddress).Attached S where
  listed := listed_start smAddress
  keys _ he := nomatch he
  cache := ⟨fun _ => none, cacheHolds_start S, fun _ _ hfind => nomatch hfind⟩

theorem LeaseState.Listed.nodup_subscriptions {s : LeaseState} (h : s.Listed) :
    (s.subscriptions.map Prod.snd).Nodup := by
  rw [List.nodup_iff_count_le_one]
  intro a
  unfold subscriptions
  rw [List.map_map, List.count, List.countP_map]
  exact h.countP_subscriber_le a

theorem PublishState.Attached.leaseStep (h : s.Attached S) (hagree : KeysAgree S)
    (reb : Rebalancing (PublishKey × PublishData)) {e : LeaseEvent} {leases : LeaseState}
    (huses : PublishEvent.Uses S s (.lease e)) (hstep : leaseStep s.leases e = some leases) :
    ∃ svc, publishStep reb s (.lease e) = some ([], ⟨leases, svc⟩) ∧
      Attached S ⟨leases, svc⟩ := by
  obtain ⟨dict, hcache⟩ := h.cache
  obtain ⟨hlisted, hreplay⟩ := h.listed.step hstep
  obtain ⟨svc, dict', hdispatch, hlists, hkeys⟩ := CacheLists.dispatch hagree reb leases.out hcache
    h.listed.nodup_subscriptions h.keys (fun l hl => huses leases hstep l (mem_added hl)) hreplay
  refine ⟨svc, ?_, hlisted, hkeys, dict', hlists⟩
  rw [publishStep, hstep, bind_some, hdispatch]
  rfl

theorem PublishState.Attached.publish (h : s.Attached S) (hagree : KeysAgree S) {p : PublishReception}
    (hk : p.key ∈ S) {published : List PublishIndicationData} {saved : Bool} {svc : PublishService}
    (hprocess : processPublishAPDU reb (s.leases.receives p) s.service = some (published, saved, svc)) :
    (∃ data : PublishIndicationData, (saved = true → data.data = p.copied) ∧
      published = (if saved then under s.leases.subscriptions p.key else []).map
        fun a => { data with leaseID := a }) ∧
    ∃ sent leases, sendEach (publishIndication p.lastRxUTC) s.leases published = some (sent, leases) ∧
      publishStep reb s (.publish p) = some (sent, ⟨leases, svc⟩) ∧ Attached S ⟨leases, svc⟩ := by
  obtain ⟨dict, hcache⟩ := h.cache
  obtain ⟨dict', hlists, data, hdata, hpublished⟩ := hcache.processPublish hagree
    (p := s.leases.receives p) hk (h.listed.publishSubscribers p.key) hprocess
  have hsubscribed : ∀ d ∈ published, ∃ k, (k, d.leaseID) ∈ s.leases.subscriptions := by
    intro d hd
    rw [hpublished] at hd
    obtain ⟨a, ha, rfl⟩ := mem_map.mp hd
    split at ha
    · exact ⟨p.key, mem_under.mp ha⟩
    · cases ha
  obtain ⟨sent, leases, hsend, hlisted, hsubs⟩ := h.listed.sendEach p.lastRxUTC published hsubscribed
  refine ⟨⟨data, hdata, hpublished⟩, sent, leases, hsend, ?_, hlisted, ?_, dict', ?_⟩
  · rw [publishStep, hprocess, bind_some]
    dsimp only
    rw [hsend]
    rfl
  · rw [hsubs]
    exact h.keys
  · rw [hsubs]
    exact hlists

theorem PublishState.Attached.updateEntries (reb : Rebalancing (PublishKey × PublishData))
    (now lastRx : Int) (n : Nat) : ∀ {place : Nat} {s : PublishState}, s.Attached S →
    place + n ≤ s.service.cache.numNodes →
    ∃ sent s', updateEntries reb now lastRx n place s = some (sent, s') ∧ s'.Attached S := by
  induction n with
  | zero =>
    intro place s h _
    exact ⟨[], s, rfl, h⟩
  | succ n ih =>
    intro place s h hplace
    obtain ⟨dict, hcache⟩ := h.cache
    have hlt : place < (inorder s.service.cache).length := by
      rw [length_inorder]
      omega
    obtain ⟨⟨k, d⟩, hget⟩ : ∃ entry, (inorder s.service.cache)[place]? = some entry :=
      ⟨_, getElem?_eq_getElem hlt⟩
    have hlist := hcache.subscribers ((hcache.holds.entries k d).mp (mem_of_getElem? hget))
    obtain ⟨sent, u, hupdate, hlisted, hsubs⟩ := Listed.updateSubscriberLeases now lastRx d
      (u := ⟨s.leases, false, false⟩) h.listed d.subscriberLeases fun a ha => by
        rw [hlist] at ha
        exact ⟨k, mem_under.mp ha⟩
    have hkeys : ∀ e ∈ u.leases.subscriptions, e.1 ∈ S := by
      rw [hsubs]
      exact h.keys
    rw [Isa100Gateway.updateEntries, hget, bind_some, hupdate, bind_some]
    dsimp only
    split
    · obtain ⟨svc, hdelete, hlists⟩ := hcache.deleteAt reb hget
      have hcount : svc.cache.numNodes + 1 = s.service.cache.numNodes := by
        unfold deleteCacheEntry at hdelete
        rw [length_inorder] at hlt
        rw [if_pos hlt] at hdelete
        cases hdelete
        rw [← length_inorder, reb.inorder_erased, ← length_inorder, length_eraseIdx]
        rw [length_inorder, if_pos hlt]
        omega
      obtain ⟨later, s', hrest, hattached⟩ := @ih place ⟨u.leases, svc⟩
        ⟨hlisted, hkeys, _, hsubs.symm ▸ hlists⟩ (by change place + n ≤ svc.cache.numNodes; omega)
      rw [hdelete, bind_some, hrest]
      exact ⟨sent ++ later, s', rfl, hattached⟩
    · obtain ⟨later, s', hrest, hattached⟩ := @ih (place + 1) ⟨u.leases, s.service⟩
        ⟨hlisted, hkeys, dict, hsubs.symm ▸ hcache⟩ (by change place + 1 + n ≤ s.service.cache.numNodes; omega)
      rw [hrest]
      exact ⟨sent ++ later, s', rfl, hattached⟩

theorem PublishState.Attached.step (h : s.Attached S) (hagree : KeysAgree S) {e : PublishEvent}
    (huses : e.Uses S s) {sent : List LeaseIndication} (hstep : publishStep reb s e = some (sent, s')) :
    s'.Attached S := by
  cases e with
  | lease e =>
    obtain ⟨leases, hlease, -⟩ := bind_eq_some_iff.mp hstep
    obtain ⟨svc, hnext, hattached⟩ := h.leaseStep hagree reb huses hlease
    rw [hnext] at hstep
    cases hstep
    exact hattached
  | publish p =>
    obtain ⟨⟨published, saved, svc⟩, hprocess, -⟩ := bind_eq_some_iff.mp hstep
    obtain ⟨-, sent', leases, -, hnext, hattached⟩ := h.publish hagree huses hprocess
    rw [hnext] at hstep
    cases hstep
    exact hattached
  | updateSubscribers now lastRx =>
    obtain ⟨sent', s₁, hnext, hattached⟩ := Attached.updateEntries reb now lastRx
      s.service.cache.numNodes h (Nat.zero_add _).le
    rw [publishStep, hnext] at hstep
    cases hstep
    exact hattached

theorem attached_of_reaches {smAddress : Addr128} (hagree : KeysAgree S)
    (h : PublishReaches reb S smAddress s) : s.Attached S := by
  refine Machine.Reaches.invariant (attached_start S smAddress) ?_ h
  intro s e s' hs huses hstep
  obtain ⟨⟨sent, next⟩, hnext, rfl⟩ := map_eq_some_iff.mp hstep
  exact hs.step hagree huses hnext

/-- In every state that leases and publishes reach, an entry has the addresses of periodic leases with its key, each once, and no step that the service takes uses the address of a lease that is not there. -/
theorem subscriberLists_live {smAddress : Addr128} (hagree : KeysAgree S) (h : PublishReaches reb S smAddress s) :
    (∀ entry ∈ inorder s.service.cache, entry.2.subscriberLeases.Nodup ∧
      ∀ a ∈ entry.2.subscriberLeases, ∃ l ∈ s.leases.subscriber,
        l.address = a ∧ l.isPeriodic = true ∧ l.publishKey = entry.1) ∧ (∀ p : PublishReception, p.key ∈ S →
      processPublishAPDU reb (s.leases.receives p) s.service ≠ none → publishStep reb s (.publish p) ≠ none) ∧
    (∀ now lastRx, publishStep reb s (.updateSubscribers now lastRx) ≠ none) ∧
    ∀ e : LeaseEvent, PublishEvent.Uses S s (.lease e) → leaseStep s.leases e ≠ none →
      publishStep reb s (.lease e) ≠ none := by
  have hattached := attached_of_reaches hagree h
  refine ⟨?_, ?_, ?_, ?_⟩
  · rintro ⟨k, d⟩ hentry
    obtain ⟨dict, hcache⟩ := hattached.cache
    have hlist := hcache.subscribers ((hcache.holds.entries k d).mp hentry)
    constructor
    · change d.subscriberLeases.Nodup
      rw [hlist]
      exact nodup_under hattached.listed.nodup_subscriptions k
    · intro a ha
      change a ∈ d.subscriberLeases at ha
      rw [hlist] at ha
      obtain ⟨l, hl, hkey, haddr⟩ := exists_of_subscribed (mem_under.mp ha)
      exact ⟨l, hl, haddr, hattached.listed.periodic l hl, hkey⟩
  · intro p hk hprocess
    obtain ⟨⟨published, saved, svc⟩, hprocess⟩ := ne_none_iff_exists'.mp hprocess
    obtain ⟨-, sent, leases, -, hnext, -⟩ := hattached.publish hagree hk hprocess
    rw [hnext]
    exact some_ne_none _
  · intro now lastRx
    obtain ⟨sent, s', hnext, -⟩ := Attached.updateEntries reb now lastRx
      s.service.cache.numNodes hattached (Nat.zero_add _).le
    rw [publishStep, hnext]
    exact some_ne_none _
  · intro e huses hlease
    obtain ⟨leases, hlease⟩ := ne_none_iff_exists'.mp hlease
    obtain ⟨svc, hnext, -⟩ := hattached.leaseStep hagree reb huses hlease
    rw [hnext]
    exact some_ne_none _

def sampleReading (seqNo : UInt8) : PublishReception :=
  ⟨sampleDevice, 2, 0, 0, ⟨2, 0, 1, 0, seqNo, 2, [0, seqNo]⟩, 0, 0, false, [], by change 2 ≤ 2; decide⟩

def sampleSubscription : List PublishEvent :=
  [.lease (.createSession 1 ⟨0, false, true⟩), .lease (.userRequest sampleLeaseRequest),
    .publish (sampleReading 1), .publish (sampleReading 2)]

def sampleKeys : Set PublishKey := { k | k = ⟨sampleDevice, 2⟩ }

instance : DecidablePred (· ∈ sampleKeys) := fun k => inferInstanceAs (Decidable (k = _))

theorem keysAgree_sampleKeys : KeysAgree sampleKeys := by
  rintro a rfl b rfl - hlt
  exact UInt16.lt_irrefl _ hlt

theorem subscriberLists_live_sample : ∃ s : PublishState,
    (inorder s.service.cache).map (fun entry => entry.2.subscriberLeases) = [[4096]] ∧
    (∀ entry ∈ inorder s.service.cache, entry.2.subscriberLeases.Nodup ∧
      ∀ a ∈ entry.2.subscriberLeases, ∃ l ∈ s.leases.subscriber,
        l.address = a ∧ l.isPeriodic = true ∧ l.publishKey = entry.1) ∧
    ∀ now lastRx, publishStep Rebalancing.plain s (.updateSubscribers now lastRx) ≠ none := by
  obtain ⟨s, hrun, hlists⟩ : ∃ s, Machine.runs (fun s e => (publishStep Rebalancing.plain s e).map Prod.snd)
      (start sampleDevice) sampleSubscription = some s ∧
      (inorder s.service.cache).map (fun entry => entry.2.subscriberLeases) = [[4096]] :=
    map_eq_some_iff.mp (by decide)
  obtain ⟨hlive, -, hupdate, -⟩ := subscriberLists_live keysAgree_sampleKeys
    (Machine.reaches_runs (by decide) hrun)
  exact ⟨s, hlists, hlive, hupdate⟩

end Runs

end Isa100Gateway
