import Isa100Gateway.Gateway.PublishCache

/-!
# Freshness of published data

What the publish cache is for: it holds the last accepted publish of a device, where a publish is accepted when its sequence number is up to 64 steps ahead, and it counts the steps that were passed over. The code does so except at the edge of its window, after a change of the payload size, and for the transmit time of a publish in sequence while informational logging is off.
-/

namespace Isa100Gateway

open SearchTree

def stepsAhead (new old : UInt8) : Nat := (new - old).toNat

structure Freshness where
  last : PublishReception
  skipped : Nat

def Freshness.steps (f : Freshness) (p : PublishReception) : Nat :=
  stepsAhead p.srvc.freqSeqNo f.last.srvc.freqSeqNo

def Freshness.Accepts (f : Freshness) (p : PublishReception) : Prop := 1 ≤ f.steps p ∧ f.steps p ≤ 64

instance (f : Freshness) (p : PublishReception) : Decidable (f.Accepts p) :=
  inferInstanceAs (Decidable (_ ∧ _))

/-- Whether a publish is accepted, and what is to be cached then. The first one is. -/
def Freshness.next : Option Freshness → PublishReception → Bool × Freshness
  | none, p => (true, ⟨p, 0⟩)
  | some f, p => if f.Accepts p then (true, ⟨p, f.skipped + (f.steps p - 1)⟩) else (false, f)

structure Shows (d : PublishData) (f : Freshness) : Prop where
  data : d.indication.data = f.last.copied
  size : d.dataSize = f.last.srvc.size
  seqNo : d.indication.data[1]? = some f.last.srvc.freqSeqNo
  txTime : d.indication.txSeconds = f.last.txSeconds ∧ d.indication.txuSeconds = f.last.txuSeconds
  skipped : d.skipCount.toNat = f.skipped

def cachedData (k : PublishKey) (svc : PublishService) : Option PublishData :=
  (findCacheEntry k svc.cache).bind fun place => (inorder svc.cache)[place]?.map Prod.snd

/-- Each publish of the sequence is saved exactly when it is to be accepted, and the entry of the key then holds the last accepted one. -/
def StaysFresh (reb : Rebalancing (PublishKey × PublishData)) (k : PublishKey) :
    PublishService → Option Freshness → List PublishReception → Prop
  | _, _, [] => True
  | svc, f, p :: ps =>
    ∃ indications svc' d,
      processPublishAPDU reb p svc = some (indications, (Freshness.next f p).1, svc') ∧
      cachedData k svc' = some d ∧ Shows d (Freshness.next f p).2 ∧
      StaysFresh reb k svc' (some (Freshness.next f p).2) ps

def PublishReception.Consistent (p : PublishReception) : Prop := p.copied[1]? = some p.srvc.freqSeqNo

/-- A publish that is to be accepted is consistent; if it has the size of the last one, its transmit time is logged, or it is not the next in sequence, or the time is the same, and the count of skipped publishes fits its 32 bits; if it has another size, nothing was skipped so far. A publish that is not to be accepted is not 65 steps ahead across the wrap. -/
def Freshness.Handles (f : Freshness) (p : PublishReception) : Prop :=
  if f.Accepts p then
    p.Consistent ∧
      if p.srvc.size = f.last.srvc.size then
        (p.allowINF = true ∨ f.steps p ≠ 1 ∨ p.txSeconds = f.last.txSeconds ∧ p.txuSeconds = f.last.txuSeconds) ∧
        f.skipped + (f.steps p - 1) < 2 ^ 32
      else f.skipped + (f.steps p - 1) = 0
  else ¬ (f.steps p = 65 ∧ p.srvc.freqSeqNo < f.last.srvc.freqSeqNo)

def RunHandled : Option Freshness → List PublishReception → Prop
  | _, [] => True
  | none, p :: ps => p.Consistent ∧ RunHandled (some (Freshness.next none p).2) ps
  | some f, p :: ps => f.Handles p ∧ RunHandled (some (Freshness.next (some f) p).2) ps

section Window

variable {new old : UInt8}

theorem stepsAhead_eq (new old : UInt8) : stepsAhead new old = (256 - old.toNat + new.toNat) % 256 :=
  UInt8.toNat_sub new old

theorem stepsAhead_eq_zero_iff (new old : UInt8) : stepsAhead new old = 0 ↔ old = new := by
  have hnew := new.toNat_lt
  have hold := old.toNat_lt
  rw [stepsAhead_eq, ← UInt8.toNat_inj]
  omega

theorem isOutOfOrder_eq_false_iff (hne : old ≠ new) : isOutOfOrder new old = false ↔
    stepsAhead new old ≤ 64 ∨ stepsAhead new old = 65 ∧ new < old := by
  have hnew := new.toNat_lt
  have hold := old.toNat_lt
  have hne' : old.toNat ≠ new.toNat := fun h => hne (UInt8.toNat_inj.mp h)
  rw [stepsAhead_eq, UInt8.lt_iff_toNat_lt, isOutOfOrder]
  split
  · rename_i hlt
    rw [UInt8.lt_iff_toNat_lt] at hlt
    rw [decide_eq_false_iff_not]
    simp only [validityWindow]
    omega
  · rename_i hlt
    rw [UInt8.lt_iff_toNat_lt] at hlt
    rw [decide_eq_false_iff_not]
    simp only [validityWindow]
    omega

theorem skippedMessages_logged (hne : old ≠ new) : (skippedMessages new old).2 = decide (stepsAhead new old ≠ 1) := by
  have hnew := new.toNat_lt
  have hold := old.toNat_lt
  have hne' : old.toNat ≠ new.toNat := fun h => hne (UInt8.toNat_inj.mp h)
  rw [stepsAhead_eq, skippedMessages]
  split
  · symm
    rw [decide_eq_true_iff]
    omega
  · symm
    rw [decide_eq_false_iff_not]
    omega

theorem skippedMessages_count (hne : old ≠ new) :
    (if (skippedMessages new old).2 then UInt32.ofNat (skippedMessages new old).1.toNat else 0) =
      UInt32.ofNat (stepsAhead new old - 1) := by
  have hnew := new.toNat_lt
  have hold := old.toNat_lt
  have hne' : old.toNat ≠ new.toNat := fun h => hne (UInt8.toNat_inj.mp h)
  rw [skippedMessages_logged hne]
  by_cases hone : stepsAhead new old = 1
  · simp [hone]
  · have hcount : (skippedMessages new old).1.toNat = stepsAhead new old - 1 := by
      rw [stepsAhead_eq] at hone ⊢
      rw [skippedMessages]
      rw [if_pos (by omega)]
      split
      · omega
      · omega
    rw [hcount, if_pos (decide_eq_true hone)]

end Window

section Publish

variable {p : PublishReception} {d : PublishData} {f : Freshness} {old : UInt8}

theorem shows_subscribed_iff {n : Nat} : Shows (subscribedPublishData p) ⟨p, n⟩ ↔ p.Consistent ∧ n = 0 := by
  constructor
  · intro h
    exact ⟨h.seqNo, h.skipped.symm⟩
  · rintro ⟨hseq, rfl⟩
    exact ⟨rfl, rfl, hseq, ⟨rfl, rfl⟩, rfl⟩

theorem renewPublishData_refused (hold : d.indication.data[1]? = some old)
    (hrefused : old = p.srvc.freqSeqNo ∨ isOutOfOrder p.srvc.freqSeqNo old = true) :
    ∃ d' totals, renewPublishData p d = some (false, d', totals) ∧ ∀ f, Shows d f → Shows d' f := by
  rw [renewPublishData]
  rw [hold, Option.bind_some]
  by_cases heq : old = p.srvc.freqSeqNo
  · rw [if_pos heq]
    exact ⟨_, _, rfl, fun f h => ⟨h.data, h.size, h.seqNo, h.txTime, h.skipped⟩⟩
  · rw [if_neg heq, if_pos (hrefused.resolve_left heq)]
    exact ⟨_, _, rfl, fun f h => ⟨h.data, h.size, h.seqNo, h.txTime, h.skipped⟩⟩

section

variable (hold : d.indication.data[1]? = some old) (hne : old ≠ p.srvc.freqSeqNo)
    (horder : isOutOfOrder p.srvc.freqSeqNo old = false)
include hold hne horder

theorem renewPublishData_resized
    (hsize : d.dataSize ≠ p.srvc.size) : renewPublishData p d = some (true, subscribedPublishData p, ⟨0, 0, 0⟩) := by
  rw [renewPublishData]
  rw [hold, Option.bind_some, if_neg hne, horder, if_neg Bool.false_ne_true, if_pos hsize]

theorem renewPublishData_same (hsize : d.dataSize = p.srvc.size) :
    ∃ d' totals, renewPublishData p d = some (true, d', totals) ∧
      d'.indication.data = p.copied ∧ d'.dataSize = p.srvc.size ∧
      d'.skipCount = d.skipCount + UInt32.ofNat (stepsAhead p.srvc.freqSeqNo old - 1) ∧
      (d'.indication.txSeconds, d'.indication.txuSeconds) =
        if p.allowINF = true ∨ stepsAhead p.srvc.freqSeqNo old ≠ 1 then (p.txSeconds, p.txuSeconds)
        else (d.indication.txSeconds, d.indication.txuSeconds) := by
  rw [renewPublishData]
  dsimp only
  rw [hold, Option.bind_some, if_neg hne, horder, if_neg Bool.false_ne_true, if_neg (not_not.mpr hsize),
    skippedMessages_count hne, skippedMessages_logged hne]
  refine ⟨_, _, rfl, rfl, hsize, rfl, ?_⟩
  by_cases hlogged : p.allowINF = true ∨ stepsAhead p.srvc.freqSeqNo old ≠ 1
  · have hbool : (p.allowINF || decide (stepsAhead p.srvc.freqSeqNo old ≠ 1)) = true := by
      rw [Bool.or_eq_true, decide_eq_true_iff]
      exact hlogged
    simp only [hbool, if_true, if_pos hlogged]
  · have hbool : (p.allowINF || decide (stepsAhead p.srvc.freqSeqNo old ≠ 1)) = false := by
      rw [← Bool.not_eq_true, Bool.or_eq_true, decide_eq_true_iff]
      exact hlogged
    simp only [hbool, Bool.false_eq_true, if_false, if_neg hlogged]

end

theorem toNat_count_iff (count : UInt32) {skipped : Nat} (hskipped : skipped ≤ 64) :
    (count + UInt32.ofNat skipped).toNat = count.toNat + skipped ↔ count.toNat + skipped < 2 ^ 32 := by
  have hcount := count.toNat_lt
  rw [UInt32.toNat_add, UInt32.toNat_ofNat']
  omega

theorem Freshness.next_accepted (h : f.Accepts p) :
    Freshness.next (some f) p = (true, ⟨p, f.skipped + (f.steps p - 1)⟩) :=
  if_pos h

theorem Freshness.next_refused (h : ¬ f.Accepts p) : Freshness.next (some f) p = (false, f) :=
  if_neg h

theorem renewPublishData_same_iff (h : Shows d f) (haccept : f.Accepts p)
    (hsize : p.srvc.size = f.last.srvc.size) (hne : f.last.srvc.freqSeqNo ≠ p.srvc.freqSeqNo)
    (horder : isOutOfOrder p.srvc.freqSeqNo f.last.srvc.freqSeqNo = false) :
    ∃ d' totals, renewPublishData p d = some (true, d', totals) ∧
      (Shows d' ⟨p, f.skipped + (f.steps p - 1)⟩ ↔ f.Handles p) := by
  obtain ⟨d', totals, hrenew, hdata, hdsize, hcount, htx⟩ :=
    renewPublishData_same (p := p) h.seqNo hne horder (h.size.trans hsize.symm)
  change _ = if p.allowINF = true ∨ f.steps p ≠ 1 then _ else _ at htx
  refine ⟨d', totals, hrenew, ?_⟩
  rw [Freshness.Handles, if_pos haccept, if_pos hsize]
  have hcount' : d'.skipCount.toNat = f.skipped + (f.steps p - 1) ↔
      f.skipped + (f.steps p - 1) < 2 ^ 32 := by
    rw [hcount, ← h.skipped]
    exact toNat_count_iff d.skipCount ((Nat.sub_le _ 1).trans haccept.2)
  have htx' : d'.indication.txSeconds = p.txSeconds ∧ d'.indication.txuSeconds = p.txuSeconds ↔
      p.allowINF = true ∨ f.steps p ≠ 1 ∨
        p.txSeconds = f.last.txSeconds ∧ p.txuSeconds = f.last.txuSeconds := by
    rw [← or_assoc, ← Prod.mk.injEq, htx]
    by_cases hlogged : p.allowINF = true ∨ f.steps p ≠ 1
    · rw [if_pos hlogged]
      exact iff_of_true rfl (Or.inl hlogged)
    · rw [if_neg hlogged, h.txTime.1, h.txTime.2, Prod.mk.injEq, or_iff_right hlogged]
      exact and_congr eq_comm eq_comm
  constructor
  · intro hs
    have hseq := hs.seqNo
    rw [hdata] at hseq
    exact ⟨hseq, htx'.mp hs.txTime, hcount'.mp hs.skipped⟩
  · rintro ⟨hseq, htime, hfits⟩
    exact ⟨hdata, hdsize, by rw [hdata]; exact hseq, htx'.mpr htime, hcount'.mpr hfits⟩

/-- The entry that held the last accepted publish is handled right exactly under the conditions of `Handles`. -/
theorem renewPublishData_iff (h : Shows d f) (p : PublishReception) :
    ∃ saved d' totals, renewPublishData p d = some (saved, d', totals) ∧
      (saved = (Freshness.next (some f) p).1 ∧ Shows d' (Freshness.next (some f) p).2 ↔ f.Handles p) := by
  have hzero := stepsAhead_eq_zero_iff p.srvc.freqSeqNo f.last.srvc.freqSeqNo
  change f.steps p = 0 ↔ _ at hzero
  by_cases haccept : f.Accepts p
  · have hne : f.last.srvc.freqSeqNo ≠ p.srvc.freqSeqNo := fun heq =>
      Nat.ne_of_gt haccept.1 (hzero.mpr heq)
    have horder := (isOutOfOrder_eq_false_iff hne).mpr (Or.inl haccept.2)
    rw [Freshness.next_accepted haccept]
    by_cases hsize : p.srvc.size = f.last.srvc.size
    · obtain ⟨d', totals, hrenew, hiff⟩ := renewPublishData_same_iff h haccept hsize hne horder
      exact ⟨true, d', totals, hrenew, (and_iff_right rfl).trans hiff⟩
    · refine ⟨true, _, _, renewPublishData_resized h.seqNo hne horder (h.size ▸ Ne.symm hsize), ?_⟩
      rw [Freshness.Handles, if_pos haccept, if_neg hsize, shows_subscribed_iff]
      exact and_iff_right rfl
  · rw [Freshness.next_refused haccept]
    have hhandles : f.Handles p ↔ ¬ (f.steps p = 65 ∧ p.srvc.freqSeqNo < f.last.srvc.freqSeqNo) := by
      rw [Freshness.Handles, if_neg haccept]
    rw [hhandles]
    by_cases hedge : f.steps p = 65 ∧ p.srvc.freqSeqNo < f.last.srvc.freqSeqNo
    · -- one step too many across the wrap: the code saves it, whatever its size
      have hne : f.last.srvc.freqSeqNo ≠ p.srvc.freqSeqNo := fun heq => by
        have := hzero.mpr heq
        omega
      have horder := (isOutOfOrder_eq_false_iff hne).mpr (Or.inr hedge)
      by_cases hsize : d.dataSize = p.srvc.size
      · obtain ⟨d', totals, hrenew, -⟩ := renewPublishData_same h.seqNo hne horder hsize
        exact ⟨true, d', totals, hrenew, by simp [hedge]⟩
      · exact ⟨true, _, _, renewPublishData_resized h.seqNo hne horder hsize, by simp [hedge]⟩
    · have hrefused : f.last.srvc.freqSeqNo = p.srvc.freqSeqNo ∨
          isOutOfOrder p.srvc.freqSeqNo f.last.srvc.freqSeqNo = true := by
        by_contra hnot
        push Not at hnot
        obtain ⟨hne, horder⟩ := hnot
        have hwindow := (isOutOfOrder_eq_false_iff hne).mp (Bool.eq_false_of_not_eq_true horder)
        refine haccept ⟨Nat.one_le_iff_ne_zero.mpr (mt hzero.mp hne), ?_⟩
        exact hwindow.resolve_right hedge
      obtain ⟨d', totals, hrenew, hkeeps⟩ := renewPublishData_refused h.seqNo hrefused
      exact ⟨false, d', totals, hrenew, iff_of_true ⟨rfl, hkeeps f h⟩ hedge⟩

end Publish

section Runs

variable {reb : Rebalancing (PublishKey × PublishData)} {svc : PublishService} {k : PublishKey}
  {p : PublishReception} {d d' : PublishData} {f : Freshness}

def OnlyCached (k : PublishKey) (d : PublishData) (svc : PublishService) : Prop :=
  svc.cache = .node (k, d) .nil .nil

theorem OnlyCached.find (h : OnlyCached k d svc) : findCacheEntry k svc.cache = some 0 := by
  rw [h]
  simp [findCacheEntry, SearchTree.find, lowerBound, inorder, cacheCompare_self]

theorem OnlyCached.cachedData (h : OnlyCached k d svc) : cachedData k svc = some d := by
  rw [Isa100Gateway.cachedData, h.find, h]
  rfl

theorem shows_published : Shows (publish2Subscribers d).2 f ↔ Shows d f :=
  ⟨fun h => ⟨h.data, h.size, h.seqNo, h.txTime, h.skipped⟩,
    fun h => ⟨h.data, h.size, h.seqNo, h.txTime, h.skipped⟩⟩

variable (reb p svc) in
theorem processPublishAPDU_first (hcache : svc.cache = .nil) :
    ∃ indications svc', processPublishAPDU reb p svc = some (indications, true, svc') ∧
      OnlyCached p.key (publish2Subscribers (subscribedPublishData p)).2 svc' := by
  have hleaf : (insertCacheEntry reb p.key (subscribedPublishData p) .nil) =
      (0, .node (p.key, subscribedPublishData p) .nil .nil) :=
    Prod.ext rfl (reb.inserted_small _ (by simp))
  have hnone : findCacheEntry p.key svc.cache = none := by
    rw [hcache]
    rfl
  rw [processPublishAPDU, addToCache, hnone]
  dsimp only [Option.bind_some, newCacheEntry]
  rw [hcache, hleaf]
  exact ⟨_, _, rfl, rfl⟩

variable (reb) in
theorem processPublishAPDU_renew (h : OnlyCached p.key d svc) {saved : Bool} {totals : PublishTotals}
    (hrenew : renewPublishData p d = some (saved, d', totals)) :
    ∃ indications svc' d'', processPublishAPDU reb p svc = some (indications, saved, svc') ∧
      OnlyCached p.key d'' svc' ∧ ∀ f, Shows d'' f ↔ Shows d' f := by
  have hentry : (inorder svc.cache)[0]? = some (p.key, d) := by
    rw [h]
    rfl
  rw [processPublishAPDU, addToCache, h.find]
  dsimp only
  rw [hentry, Option.bind_some, hrenew, Option.map_some, Option.bind_some]
  have hmodify : modify (fun entry => (entry.1, d')) svc.cache 0 = .node (p.key, d') .nil .nil := by
    rw [h]
    rfl
  rw [hmodify]
  cases saved with
  | true => exact ⟨_, _, _, rfl, rfl, fun f => shows_published⟩
  | false => exact ⟨_, _, d', rfl, rfl, fun f => Iff.rfl⟩

theorem staysFresh_some_iff {ps : List PublishReception} (hkey : ∀ p ∈ ps, p.key = k)
    (honly : OnlyCached k d svc) (hshows : Shows d f) :
    StaysFresh reb k svc (some f) ps ↔ RunHandled (some f) ps := by
  induction ps generalizing svc d f with
  | nil => exact Iff.rfl
  | cons p ps ih =>
    obtain rfl := hkey p List.mem_cons_self
    have hkeys : ∀ q ∈ ps, q.key = p.key := fun q hq => hkey q (List.mem_cons_of_mem _ hq)
    obtain ⟨saved, d', totals, hrenew, hiff⟩ := renewPublishData_iff hshows p
    obtain ⟨indications, svc', d'', hprocess, honly', hshows'⟩ :=
      processPublishAPDU_renew reb honly hrenew
    rw [RunHandled, ← hiff]
    constructor
    · rintro ⟨indications', svc₁, d₁, hprocess₁, hcached, hshows₁, hrest⟩
      rw [hprocess, Option.some.injEq, Prod.mk.injEq, Prod.mk.injEq] at hprocess₁
      obtain ⟨-, hsaved, rfl⟩ := hprocess₁
      rw [honly'.cachedData, Option.some.injEq] at hcached
      subst hcached
      exact ⟨⟨hsaved, (hshows' _).mp hshows₁⟩, (ih hkeys honly' hshows₁).mp hrest⟩
    · rintro ⟨⟨hsaved, hshows₁⟩, hrest⟩
      have hshows₂ := (hshows' _).mpr hshows₁
      exact ⟨indications, svc', d'', hsaved ▸ hprocess, honly'.cachedData, hshows₂,
        (ih hkeys honly' hshows₂).mpr hrest⟩

/-- Over every sequence of publishes with one key the cache stays fresh exactly when each publish is one that the code handles. -/
theorem staysFresh_iff {ps : List PublishReception} (hkey : ∀ p ∈ ps, p.key = k) :
    StaysFresh reb k PublishService.start none ps ↔ RunHandled none ps := by
  cases ps with
  | nil => exact Iff.rfl
  | cons p ps =>
    obtain rfl := hkey p List.mem_cons_self
    have hkeys : ∀ q ∈ ps, q.key = p.key := fun q hq => hkey q (List.mem_cons_of_mem _ hq)
    obtain ⟨indications, svc', hprocess, honly⟩ :=
      processPublishAPDU_first reb .start p rfl
    have hshows : Shows (publish2Subscribers (subscribedPublishData p)).2 ⟨p, 0⟩ ↔ p.Consistent :=
      shows_published.trans (shows_subscribed_iff.trans (and_iff_left rfl))
    constructor
    · rintro ⟨indications', svc₁, d₁, hprocess₁, hcached, hshows₁, hrest⟩
      rw [hprocess, Option.some.injEq, Prod.mk.injEq, Prod.mk.injEq] at hprocess₁
      obtain ⟨-, -, rfl⟩ := hprocess₁
      rw [honly.cachedData, Option.some.injEq] at hcached
      subst hcached
      exact ⟨hshows.mp hshows₁, (staysFresh_some_iff hkeys honly hshows₁).mp hrest⟩
    · rintro ⟨hconsistent, hrest⟩
      have hshows₁ := hshows.mpr hconsistent
      exact ⟨indications, svc', _, hprocess, honly.cachedData, hshows₁,
        (staysFresh_some_iff hkeys honly hshows₁).mpr hrest⟩

def samplePublish (seqNo : UInt8) (txSeconds : UInt32) (allowINF : Bool) : PublishReception where
  addr := Vector.replicate 16 0
  srcTSAPID := 1
  txSeconds := txSeconds
  txuSeconds := 0
  srvc := ⟨1, 1, 1, 1, seqNo, 3, [1, seqNo, 42]⟩
  lastRxUTC := 0
  clock := 0
  allowINF := allowINF
  subscribers := []
  size_le := Nat.le_refl 3

theorem samplePublish_accepted : (Freshness.mk (samplePublish 1 10 false) 0).Accepts (samplePublish 2 20 false) := by
  decide

theorem loggedPublishes_stayFresh :
    StaysFresh Rebalancing.plain (samplePublish 1 10 true).key PublishService.start none
      [samplePublish 1 10 true, samplePublish 2 20 true] :=
  (staysFresh_iff (by simp [samplePublish, PublishReception.key])).mpr
    ⟨rfl, (if_pos samplePublish_accepted).mpr ⟨rfl, (if_pos rfl).mpr ⟨Or.inl rfl, by decide⟩⟩, trivial⟩

/-- While informational logging is off, the second of two publishes in sequence leaves the transmit time of the first. -/
theorem nextPublish_keepsTime :
    ¬ StaysFresh Rebalancing.plain (samplePublish 1 10 false).key PublishService.start none
      [samplePublish 1 10 false, samplePublish 2 20 false] := by
  rintro ⟨indications, svc, d, hprocess, -, -, hrest⟩
  obtain ⟨indications', svc', hfirst, honly⟩ := processPublishAPDU_first Rebalancing.plain
    .start (samplePublish 1 10 false) rfl
  rw [hfirst, Option.some.injEq, Prod.mk.injEq, Prod.mk.injEq] at hprocess
  obtain ⟨-, -, rfl⟩ := hprocess
  have hshows : Shows (publish2Subscribers (subscribedPublishData (samplePublish 1 10 false))).2
      ⟨samplePublish 1 10 false, 0⟩ := shows_published.mpr (shows_subscribed_iff.mpr ⟨rfl, rfl⟩)
  have hkeys : ∀ p ∈ [samplePublish 2 20 false], p.key = (samplePublish 1 10 false).key := by
    simp [samplePublish, PublishReception.key]
  obtain ⟨hhandles, -⟩ := (staysFresh_some_iff hkeys honly hshows).mp hrest
  obtain ⟨-, hsame⟩ := (if_pos samplePublish_accepted).mp hhandles
  obtain ⟨htime, -⟩ := (if_pos rfl).mp hsame
  exact absurd htime (by decide)

end Runs

end Isa100Gateway
