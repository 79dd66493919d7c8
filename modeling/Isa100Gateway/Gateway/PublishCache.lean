import Isa100Gateway.Gateway.PublishSubscribe
import Mathlib.Data.List.Nodup

/-!
# Lookups in the publish cache

`cacheCompare` holds when the address is lower or the TSAPID is lower, so two keys whose addresses and TSAPIDs are ordered oppositely are each below the other. Among keys without such a pair it is a strict weak order that tells any two keys apart, and the cache is then the map that it is meant to be.
-/

namespace Isa100Gateway

open SearchTree Bytes List

/-- No two keys of `S` have their addresses in one order and their TSAPIDs in the other. -/
def KeysAgree (S : Set PublishKey) : Prop :=
  ∀ a ∈ S, ∀ b ∈ S, memcmpLess a.addr.toList b.addr.toList = true → ¬ b.tsapid < a.tsapid

section Compare

variable {S : Set PublishKey} {a b c : PublishKey}

theorem cacheCompare_eq_true_iff : cacheCompare a b = true ↔
    memcmpLess a.addr.toList b.addr.toList = true ∨ a.tsapid < b.tsapid := by
  rw [cacheCompare, Bool.or_eq_true, decide_eq_true_iff]

theorem cacheCompare_eq_false_iff : cacheCompare a b = false ↔
    memcmpLess a.addr.toList b.addr.toList = false ∧ ¬ a.tsapid < b.tsapid := by
  rw [cacheCompare, Bool.or_eq_false_iff, decide_eq_false_iff_not]

theorem cacheCompare_self (a : PublishKey) : cacheCompare a a = false :=
  cacheCompare_eq_false_iff.mpr ⟨memcmpLess_irrefl _, UInt16.lt_irrefl _⟩

theorem equivalent_cacheCompare_iff : Equivalent cacheCompare a b ↔ a = b := by
  constructor
  · rintro ⟨hab, hba⟩
    obtain ⟨haddr, hport⟩ := cacheCompare_eq_false_iff.mp hab
    obtain ⟨haddr', hport'⟩ := cacheCompare_eq_false_iff.mp hba
    have heq := Vector.toList_inj.mp (eq_of_not_memcmpLess haddr haddr')
    have hports : a.tsapid = b.tsapid := UInt16.le_antisymm (UInt16.not_lt.mp hport') (UInt16.not_lt.mp hport)
    cases a
    cases b
    rw [PublishKey.mk.injEq]
    exact ⟨heq, hports⟩
  · rintro rfl
    exact ⟨cacheCompare_self a, cacheCompare_self a⟩

theorem KeysAgree.le (h : KeysAgree S) (ha : a ∈ S) (hb : b ∈ S) (hab : cacheCompare a b = true) :
    memcmpLess b.addr.toList a.addr.toList = false ∧ ¬ b.tsapid < a.tsapid := by
  rcases cacheCompare_eq_true_iff.mp hab with haddr | hport
  · exact ⟨memcmpLess_asymm haddr, h a ha b hb haddr⟩
  · refine ⟨?_, UInt16.lt_asymm hport⟩
    by_contra haddr
    exact h b hb a ha (by simpa using haddr) hport

theorem KeysAgree.trans (h : KeysAgree S) (hb : b ∈ S) (hc : c ∈ S)
    (hab : cacheCompare a b = true) (hbc : cacheCompare b c = true) : cacheCompare a c = true := by
  obtain ⟨haddr, hport⟩ := h.le hb hc hbc
  rcases cacheCompare_eq_true_iff.mp hab with hless | hless
  · refine cacheCompare_eq_true_iff.mpr (Or.inl ?_)
    by_cases hbc' : memcmpLess b.addr.toList c.addr.toList = true
    · exact memcmpLess_trans hless hbc'
    · rw [← eq_of_not_memcmpLess (Bool.eq_false_of_not_eq_true hbc') haddr]
      exact hless
  · exact cacheCompare_eq_true_iff.mpr (Or.inr (UInt16.lt_of_lt_of_le hless (UInt16.not_lt.mp hport)))

theorem ordersOn_cacheCompare_iff : OrdersOn cacheCompare S ↔ KeysAgree S := by
  constructor
  · intro h a ha b hb haddr hport
    have hab := cacheCompare_eq_true_iff.mpr (Or.inl haddr : _ ∨ a.tsapid < b.tsapid)
    have hba := cacheCompare_eq_true_iff.mpr
      (Or.inr hport : memcmpLess b.addr.toList a.addr.toList = true ∨ _)
    exact nomatch (h.asymm ha hb hab).symm.trans hba
  · intro h
    exact {
      irrefl := fun a haa => nomatch (cacheCompare_self a.1).symm.trans haa
      trans := fun a b c hab hbc => h.trans b.2 c.2 hab hbc
      incomp_trans := by
        rintro a b c ⟨hab, hba⟩ ⟨hbc, hcb⟩
        have heq := equivalent_cacheCompare_iff.mp
          ⟨Bool.eq_false_of_not_eq_true hab, Bool.eq_false_of_not_eq_true hba⟩
        rw [heq]
        exact ⟨hbc, hcb⟩ }

end Compare

/-! ## The map that the cache is meant to be -/

abbrev PublishDict := PublishKey → Option PublishData

inductive CacheEvent where
  | newCacheEntry (p : PublishReception) (k : PublishKey)
  | deleteCacheEntry (place : Nat)

def cacheStep (reb : Rebalancing (PublishKey × PublishData)) (svc : PublishService) :
    CacheEvent → Option PublishService
  | .newCacheEntry p k => some (newCacheEntry reb p k svc).2
  | .deleteCacheEntry place => deleteCacheEntry reb place svc

/-- What the step does to the map: a new key enters with its data, and a deletion takes the key of the deleted entry away. -/
def dictStep (svc : PublishService) (dict : PublishDict) : CacheEvent → PublishDict
  | .newCacheEntry p k =>
    match dict k with
    | some _ => dict
    | none => Function.update dict k (some (subscribedPublishData p))
  | .deleteCacheEntry place =>
    match (inorder svc.cache)[place]? with
    | some entry => Function.update dict entry.1 none
    | none => dict

variable {svc : PublishService}

theorem dictStep_known {dict : PublishDict} {k : PublishKey} {d : PublishData}
    (p : PublishReception) (h : dict k = some d) : dictStep svc dict (.newCacheEntry p k) = dict := by
  simp only [dictStep, h]

theorem dictStep_new {dict : PublishDict} {k : PublishKey} (p : PublishReception) (h : dict k = none) :
    dictStep svc dict (.newCacheEntry p k) = Function.update dict k (some (subscribedPublishData p)) := by
  simp only [dictStep, h]

theorem dictStep_delete (dict : PublishDict) {place : Nat}
    {entry : PublishKey × PublishData} (h : (inorder svc.cache)[place]? = some entry) :
    dictStep svc dict (.deleteCacheEntry place) = Function.update dict entry.1 none := by
  simp only [dictStep, h]

def cacheRun (reb : Rebalancing (PublishKey × PublishData)) :
    PublishService × PublishDict → List CacheEvent → Option (PublishService × PublishDict)
  | s, [] => some s
  | s, e :: es => (cacheStep reb s.1 e).bind fun svc => cacheRun reb (svc, dictStep s.1 s.2 e) es

def CacheEvent.Uses (S : Set PublishKey) : CacheEvent → Prop
  | .newCacheEntry _ k => k ∈ S
  | .deleteCacheEntry _ => True

/-- Every lookup of a key of `S` finds the entry of the key if there is one and nothing else, and no key is stored twice. -/
structure CacheMirrors (S : Set PublishKey) (svc : PublishService) (dict : PublishDict) : Prop where
  lookup : ∀ k ∈ S, ((findCacheEntry k svc.cache).bind fun place => (inorder svc.cache)[place]?) =
    (dict k).map fun d => (k, d)
  nodup : ((inorder svc.cache).map Prod.fst).Nodup

/-- The cache is the map in every state that a run over keys of `S` reaches. -/
def CacheCorrect (reb : Rebalancing (PublishKey × PublishData)) (S : Set PublishKey) : Prop :=
  ∀ es, (∀ e ∈ es, e.Uses S) → ∀ svc dict,
    cacheRun reb (PublishService.start, fun _ => none) es = some (svc, dict) → CacheMirrors S svc dict

section Runs

variable {reb : Rebalancing (PublishKey × PublishData)} {S : Set PublishKey} {svc svc' : PublishService}
  {dict : PublishDict} {k : PublishKey}

structure CacheHolds (S : Set PublishKey) (svc : PublishService) (dict : PublishDict) : Prop where
  sorted : Sorted cacheCompare Prod.fst S (inorder svc.cache)
  entries : ∀ k d, (k, d) ∈ inorder svc.cache ↔ dict k = some d

theorem CacheHolds.nodup (h : CacheHolds S svc dict) : ((inorder svc.cache).map Prod.fst).Nodup := by
  refine pairwise_map.mpr (h.sorted.pairwise.imp ?_)
  intro a b hab heq
  rw [heq, cacheCompare_self] at hab
  exact nomatch hab

theorem CacheHolds.mirrors (h : CacheHolds S svc dict) (hagree : KeysAgree S) : CacheMirrors S svc dict where
  nodup := h.nodup
  lookup k hk := by
    have hfind (place : Nat) := find_eq_some_iff (i := place) (ordersOn_cacheCompare_iff.mpr hagree) h.sorted hk
    simp only [equivalent_cacheCompare_iff] at hfind
    cases hplace : findCacheEntry k svc.cache with
    | some place =>
      obtain ⟨⟨k', d⟩, hget, rfl⟩ := (hfind place).mp hplace
      rw [Option.bind_some, hget, (h.entries k' d).mp (mem_of_getElem? hget)]
      rfl
    | none =>
      cases hdict : dict k with
      | none => rfl
      | some d =>
        obtain ⟨place, hget⟩ := mem_iff_getElem?.mp ((h.entries k d).mpr hdict)
        exact nomatch hplace.symm.trans ((hfind place).mpr ⟨(k, d), hget, rfl⟩)

theorem insertCacheEntry_known (hagree : KeysAgree S) (h : Sorted cacheCompare Prod.fst S (inorder svc.cache))
    (hk : k ∈ S) (d : PublishData) (hknown : ∃ d', (k, d') ∈ inorder svc.cache) :
    (insertCacheEntry reb k d svc.cache).2 = svc.cache := by
  obtain ⟨d', hd'⟩ := hknown
  have hfound := insertUnique_found (x := (k, d)) (ordersOn_cacheCompare_iff.mpr hagree) h hk
    ⟨_, hd', equivalent_cacheCompare_iff.mpr rfl⟩
  rw [insertCacheEntry, hfound]

variable (reb) in
theorem insertCacheEntry_new (hagree : KeysAgree S) (h : Sorted cacheCompare Prod.fst S (inorder svc.cache))
    (hk : k ∈ S) (d : PublishData) (hnew : ∀ d', (k, d') ∉ inorder svc.cache) :
    Sorted cacheCompare Prod.fst S (inorder (insertCacheEntry reb k d svc.cache).2) ∧
      ∀ entry, entry ∈ inorder (insertCacheEntry reb k d svc.cache).2 ↔
        entry = (k, d) ∨ entry ∈ inorder svc.cache := by
  have hnew' : ∀ a ∈ inorder svc.cache, ¬ Equivalent cacheCompare a.1 k := by
    rintro ⟨k', d'⟩ ha heq
    rw [equivalent_cacheCompare_iff] at heq
    exact hnew d' (heq ▸ ha)
  obtain ⟨low, high, t, hsplit, hinsert, hin, hsorted⟩ :=
    insertUnique_new (x := (k, d)) (ordersOn_cacheCompare_iff.mpr hagree) h hk hnew'
  have hcache : (insertCacheEntry reb k d svc.cache).2 = reb.inserted t := by
    rw [insertCacheEntry, hinsert]
  rw [hcache, reb.inorder_inserted]
  refine ⟨hsorted, ?_⟩
  intro entry
  rw [hin, hsplit, mem_append, mem_cons, mem_append]
  exact or_left_comm

theorem CacheHolds.insert (h : CacheHolds S svc dict) (hagree : KeysAgree S) (hk : k ∈ S) (p : PublishReception) :
    CacheHolds S (newCacheEntry reb p k svc).2 (dictStep svc dict (.newCacheEntry p k)) := by
  have hcache : (newCacheEntry reb p k svc).2.cache =
      (insertCacheEntry reb k (subscribedPublishData p) svc.cache).2 := rfl
  cases hdict : dict k with
  | some d =>
    rw [insertCacheEntry_known hagree h.sorted hk _ ⟨d, (h.entries k d).mpr hdict⟩] at hcache
    rw [dictStep_known p hdict]
    exact ⟨hcache ▸ h.sorted, hcache ▸ h.entries⟩
  | none =>
    have hnew : ∀ d, (k, d) ∉ inorder svc.cache := by
      intro d hmem
      exact nomatch hdict.symm.trans ((h.entries k d).mp hmem)
    obtain ⟨hsorted, hmem⟩ :=
      insertCacheEntry_new reb hagree h.sorted hk (subscribedPublishData p) hnew
    rw [← hcache] at hsorted hmem
    refine ⟨hsorted, ?_⟩
    intro k' d'
    rw [hmem, h.entries, dictStep_new p hdict]
    by_cases hkk : k' = k
    · subst hkk
      rw [Function.update_self, hdict]
      simp [eq_comm]
    · rw [Function.update_of_ne hkk]
      simp [hkk]

theorem CacheHolds.erase (h : CacheHolds S svc dict) {place : Nat}
    (hstep : deleteCacheEntry reb place svc = some svc') :
    CacheHolds S svc' (dictStep svc dict (.deleteCacheEntry place)) := by
  unfold deleteCacheEntry at hstep
  split at hstep
  · rename_i hplace
    cases hstep
    rw [← length_inorder] at hplace
    have herased := reb.inorder_erased svc.cache place
    refine ⟨by rw [herased]; exact h.sorted.eraseIdx place, ?_⟩
    intro k' d'
    -- the entry at the place, between those before and those after it
    have hsplit : inorder svc.cache = (inorder svc.cache).take place ++
        (inorder svc.cache)[place] :: (inorder svc.cache).drop (place + 1) := by
      rw [← drop_eq_getElem_cons hplace, take_append_drop]
    rw [dictStep_delete dict (getElem?_eq_getElem hplace), herased, eraseIdx_eq_take_drop_succ]
    have hnodup := h.nodup
    have hentries := h.entries k' d'
    generalize (inorder svc.cache)[place] = entry at hsplit ⊢
    generalize (inorder svc.cache).take place = low at hsplit ⊢
    generalize (inorder svc.cache).drop (place + 1) = high at hsplit ⊢
    rw [hsplit, map_append, map_cons] at hnodup
    rw [hsplit, mem_append, mem_cons] at hentries
    by_cases hkk : k' = entry.1
    · rw [hkk, Function.update_self, mem_append]
      constructor
      · intro hmem
        have hother : entry.1 ∈ low.map Prod.fst ++ high.map Prod.fst := by
          rw [← map_append]
          exact mem_map.mpr ⟨(entry.1, d'), mem_append.mpr hmem, rfl⟩
        exact absurd hother (nodup_cons.mp (nodup_middle.mp hnodup)).1
      · intro hnone
        exact nomatch hnone
    · have hne : (k', d') ≠ entry := fun heq => hkk (congrArg Prod.fst heq)
      rw [Function.update_of_ne hkk, ← hentries, mem_append]
      simp [hne]
  · exact nomatch hstep

theorem cacheHolds_start (S : Set PublishKey) : CacheHolds S PublishService.start fun _ => none where
  sorted := ⟨by rintro _ ⟨⟩, Pairwise.nil⟩
  entries _ _ := ⟨by rintro ⟨⟩, by rintro ⟨⟩⟩

theorem cacheRun_holds (hagree : KeysAgree S) (h : CacheHolds S svc dict) {es : List CacheEvent}
    (huses : ∀ e ∈ es, e.Uses S) {dict' : PublishDict}
    (hrun : cacheRun reb (svc, dict) es = some (svc', dict')) : CacheHolds S svc' dict' := by
  induction es generalizing svc dict with
  | nil =>
    cases hrun
    exact h
  | cons e es ih =>
    obtain ⟨svc₁, hstep, hrest⟩ := Option.bind_eq_some_iff.mp hrun
    refine ih ?_ (fun e he => huses e (mem_cons_of_mem _ he)) hrest
    have he := huses e mem_cons_self
    cases e with
    | newCacheEntry p k =>
      cases hstep
      exact h.insert hagree he p
    | deleteCacheEntry place => exact h.erase hstep

theorem cacheCorrect_agree (h : CacheCorrect reb S) : KeysAgree S := by
  intro a ha b hb haddr hport
  have hab := cacheCompare_eq_true_iff.mpr (Or.inl haddr : _ ∨ a.tsapid < b.tsapid)
  have hba := cacheCompare_eq_true_iff.mpr
    (Or.inr hport : memcmpLess b.addr.toList a.addr.toList = true ∨ _)
  let p : PublishReception := ⟨a.addr, 0, 0, 0, ⟨0, 0, 0, 0, 0, 0, []⟩, 0, 0, false, [], le_rfl⟩
  generalize hd : subscribedPublishData p = d
  have hfirst : (insertCacheEntry reb a d .nil).2 = .node (a, d) .nil .nil :=
    reb.inserted_small _ (by simp)
  have hsecond : (insertCacheEntry reb b d (.node (a, d) .nil .nil)).2 =
      .node (a, d) (.node (b, d) .nil .nil) .nil := by
    simp only [insertCacheEntry, insertUnique, hba, if_true, Option.map_some]
    exact reb.inserted_small _ (by simp)
  have hne : b ≠ a := by
    rintro rfl
    exact UInt16.lt_irrefl _ hport
  obtain ⟨svc, dict, hrun, hcache, hdict⟩ : ∃ svc dict,
      cacheRun reb (PublishService.start, fun _ => none) [.newCacheEntry p a, .newCacheEntry p b] = some (svc, dict) ∧
      svc.cache = .node (a, d) (.node (b, d) .nil .nil) .nil ∧ dict b = some d := by
    refine ⟨_, _, rfl, ?_, ?_⟩
    · change (insertCacheEntry reb b (subscribedPublishData p)
        (insertCacheEntry reb a (subscribedPublishData p) .nil).2).2 = _
      rw [hd, hfirst, hsecond]
    · have hnew : dictStep .start (fun _ => none) (.newCacheEntry p a) b = none := by
        rw [dictStep_new p rfl, Function.update_of_ne hne]
      exact (congrFun (dictStep_new p hnew) b).trans (by rw [Function.update_self, hd])
  have huses : ∀ e ∈ [CacheEvent.newCacheEntry p a, .newCacheEntry p b], e.Uses S := by
    intro e he
    rcases mem_cons.mp he with rfl | he
    · exact ha
    · rw [mem_singleton.mp he]
      exact hb
  have hlookup := (h _ huses svc dict hrun).lookup b hb
  have hlost : findCacheEntry b svc.cache = none := by
    rw [hcache]
    simp only [findCacheEntry, SearchTree.find, lowerBound, hab, if_true]
    rfl
  rw [hlost, hdict] at hlookup
  cases hlookup

/-- Over the keys of `S` the comparison is a strict weak order, whose classes are single keys, exactly when the keys agree; and the cache is a correct map exactly then. -/
theorem publishCache_correct_iff (reb : Rebalancing (PublishKey × PublishData)) (S : Set PublishKey) :
    (OrdersOn cacheCompare S ∧ (∀ a ∈ S, ∀ b ∈ S, Equivalent cacheCompare a b ↔ a = b) ↔ KeysAgree S) ∧
      (CacheCorrect reb S ↔ KeysAgree S) := by
  refine ⟨⟨?_, ?_⟩, cacheCorrect_agree, ?_⟩
  · rintro ⟨horder, -⟩
    exact ordersOn_cacheCompare_iff.mp horder
  · intro hagree
    exact ⟨ordersOn_cacheCompare_iff.mpr hagree, fun a _ b _ => equivalent_cacheCompare_iff⟩
  · intro hagree es huses svc dict hrun
    exact (cacheRun_holds hagree (cacheHolds_start S) huses hrun).mirrors hagree

def highTsapid : PublishKey := ⟨Vector.replicate 16 0, 2⟩

def lowTsapid : PublishKey := ⟨(Vector.replicate 16 0).setIfInBounds 15 1, 1⟩

/-- Two keys of which each is below the other: one of them is not found again. -/
theorem lowTsapid_lost : ¬ OrdersOn cacheCompare Set.univ ∧ ¬ CacheCorrect Rebalancing.plain Set.univ := by
  have hdisagree : ¬ KeysAgree Set.univ := fun h =>
    h highTsapid trivial lowTsapid trivial (by decide) (by decide)
  exact ⟨fun h => hdisagree (ordersOn_cacheCompare_iff.mp h), fun h => hdisagree (cacheCorrect_agree h)⟩

end Runs

end Isa100Gateway
