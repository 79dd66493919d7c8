import Isa100Gateway.Armo.Queue
import Isa100Gateway.Lib.Run
import Isa100Gateway.Lib.Stream
import Isa100Gateway.Slme.KeyTable

/-!
# Malformed APDUs (`aslde.cpp`)

The ASLMO counts the malformed APDUs of each source in a slot of a table. The slots in use are a list; the first access behind a full table has no result.
-/

namespace Isa100Gateway

open List

namespace Aslmo

structure MalformedApduCounter where
  bitAddr : Addr128
  thresholdExceedTime : UInt32
  resetCounter : UInt32
  malformedAPDUCounter : UInt16

/-- `ASLMO_STRUCT`, with the fields of the alert descriptor. -/
structure AslmoStruct where
  countingPeriod : UInt32
  alertReportDisabled : UInt8
  priority : UInt8
  malformedAPDUThreshold : UInt16
  malformedAPDUAdvise : UInt8

def maxAslmoCounterNo : Nat := 8000

structure AslmoState where
  aslmo : AslmoStruct
  counters : List MalformedApduCounter

def alertPrMediumM : UInt8 := 7

/-- `ASLDE_Init` clears the slots but not their number. -/
def AslmoState.init (s : AslmoState) : AslmoState :=
  ⟨⟨0, 0, alertPrMediumM, 0, 0⟩, s.counters.map fun _ => ⟨Vector.replicate 16 0, 0, 0, 0⟩⟩

def aslmoDynamicDataReset : UInt8 := 4

def AslmoState.reset (s : AslmoState) (resetType : UInt8) : AslmoState :=
  if resetType = aslmoDynamicDataReset then { s with counters := [] } else s

def MalformedApduCounter.expires (c : MalformedApduCounter) : Bool := c.malformedAPDUCounter ≠ 0 ∧ c.resetCounter = 0

def AslmoStruct.visit (aslmo : AslmoStruct) (c : MalformedApduCounter) : MalformedApduCounter :=
  if c.malformedAPDUCounter = 0 then c
  else
    let c :=
      if c.expires then
        { c with malformedAPDUCounter := 0, thresholdExceedTime := 0, resetCounter := aslmo.countingPeriod }
      else { c with resetCounter := c.resetCounter - 1 }
    if aslmo.malformedAPDUThreshold ≤ c.malformedAPDUCounter then
      { c with thresholdExceedTime := c.thresholdExceedTime + 1, resetCounter := aslmo.countingPeriod }
    else c

def AslmoState.performOneSecondOperations (s : AslmoState) : AslmoState :=
  { s with counters := s.counters.map s.aslmo.visit }

/-- `unIdx` behind the loop of `ASLMO_AddMalformedAPDU`. -/
def AslmoState.counterIdx (s : AslmoState) (srcAddr : Addr128) : Nat := s.counters.findIdx (·.bitAddr = srcAddr)

def AslmoState.counted (s : AslmoState) (srcAddr : Addr128) : AslmoState :=
  let unIdx := s.counterIdx srcAddr
  if unIdx < s.counters.length then
    { s with counters := s.counters.modify unIdx fun c =>
      { c with malformedAPDUCounter := c.malformedAPDUCounter + 1 } }
  else if unIdx < maxAslmoCounterNo then
    { s with counters := s.counters ++ [⟨srcAddr, 0, s.aslmo.countingPeriod, 1⟩] }
  else s

/-- The alert, if there is one; `stAlert` is what the memory holds before. No result where the slot is none. -/
def AslmoState.malformedAlert (s : AslmoState) (stAlert : Alert) (unIdx : Nat) : Option (Option AlertRequest) :=
  s.counters[unIdx]?.map fun c =>
    if s.aslmo.malformedAPDUThreshold ≤ c.malformedAPDUCounter ∧ s.aslmo.alertReportDisabled = 0 then
      some {
        alert := { stAlert with
          priority := s.aslmo.priority &&& 0x7F
          detObjTLPort := 0xF0B0
          detObjID := 7
          alertClass := 0
          direction := 0
          category := 1
          type := 0
          size := 22 }
        buf := c.bitAddr.toList ++ (Stream.write16 c.malformedAPDUCounter ++ Stream.write32 c.thresholdExceedTime)
        length_buf := by simp [Stream.write16, Stream.write32] }
    else none

def AslmoStruct.counts (aslmo : AslmoStruct) : Bool :=
  aslmo.malformedAPDUAdvise ≠ 0 ∧ aslmo.malformedAPDUThreshold ≠ 0 ∧ aslmo.countingPeriod ≠ 0

def AslmoState.addMalformedAPDU (s : AslmoState) (stAlert : Alert) (srcAddr : Option Addr128) :
    Option (AslmoState × Option AlertRequest) :=
  match srcAddr with
  | none => some (s, none)
  | some srcAddr =>
    if s.aslmo.counts then
      ((s.counted srcAddr).malformedAlert stAlert (s.counterIdx srcAddr)).map fun alert => (s.counted srcAddr, alert)
    else some (s, none)

/-- A state with the slots that reports have used, and the reports of each source since its slot was last reset. A call counts as a report when the counting is on. -/
structure Statistics where
  state : AslmoState
  used : List Nat
  reports : Addr128 → Nat

inductive Event
  | addMalformedAPDU (stAlert : Alert) (srcAddr : Option Addr128)
  | performOneSecondOperations
  | reset (resetType : UInt8)
  | write (aslmo : AslmoStruct)
  | init

def AslmoState.reported (s : AslmoState) (srcAddr : Option Addr128) :
    Option Addr128 := if s.aslmo.counts then srcAddr else none

def Statistics.step (r : Statistics) : Event → Option Statistics
  | .addMalformedAPDU stAlert srcAddr =>
    (r.state.addMalformedAPDU stAlert srcAddr).map fun (state, _) =>
      match r.state.reported srcAddr with
      | some srcAddr => ⟨state, r.state.counterIdx srcAddr :: r.used,
        Function.update r.reports srcAddr (r.reports srcAddr + 1)⟩
      | none => { r with state }
  | .performOneSecondOperations => some { r with
      state := r.state.performOneSecondOperations
      reports := fun a => if r.state.counters.any fun c => c.bitAddr = a ∧ c.expires then 0 else r.reports a }
  | .reset resetType => some { r with
      state := r.state.reset resetType
      reports := if resetType = aslmoDynamicDataReset then fun _ => 0 else r.reports }
  | .write aslmo => some { r with state := { r.state with aslmo } }
  | .init => some { r with state := r.state.init, reports := fun _ => 0 }

def step (r : Option Statistics) (e : Event) : Option Statistics := r.bind (·.step e)

def start : Option Statistics := some ⟨AslmoState.init ⟨⟨0, 0, 0, 0, 0⟩, []⟩, [], fun _ => 0⟩

def AslmoState.sources (s : AslmoState) : List Addr128 := s.counters.map (·.bitAddr)

structure Statistics.Sound (r : Statistics) : Prop where
  used : ∀ unIdx ∈ r.used, unIdx < maxAslmoCounterNo
  distinct : r.state.sources.Nodup
  counted : ∀ c ∈ r.state.counters, c.malformedAPDUCounter.toNat = r.reports c.bitAddr

/-- A report of a new source finds a free slot, one of another source does not wrap its counter, and no slot is in use when the layer is initialised again. -/
def Meets (r : Option Statistics) (e : Event) : Prop :=
  ∀ s ∈ r.map (·.state), match e with
    | .addMalformedAPDU _ srcAddr => ∀ a ∈ s.reported srcAddr,
      (a ∉ s.sources → s.counters.length < maxAslmoCounterNo) ∧ ∀ c ∈ s.counters, c.bitAddr = a →
        c.malformedAPDUCounter ≠ 65535
    | .init => s.counters = []
    | _ => True

/-- What carries `Sound` along a run. -/
structure Statistics.Keeps (r : Statistics) : Prop extends r.Sound where
  size : r.state.counters.length ≤ maxAslmoCounterNo
  untracked : ∀ a ∉ r.state.sources, r.reports a = 0

variable {r : Statistics} {a : Addr128} {s : AslmoState} {counters : List MalformedApduCounter}

theorem counterIdx_lt_iff : s.counterIdx a < s.counters.length ↔ a ∈ s.sources := by
  simp [AslmoState.counterIdx, AslmoState.sources, findIdx_lt_length]

theorem modify_eq_map (f : MalformedApduCounter → MalformedApduCounter) (h : (counters.map (·.bitAddr)).Nodup) :
    counters.modify (counters.findIdx (·.bitAddr = a)) f = counters.map fun c => if c.bitAddr = a then f c else c := by
  induction counters with
  | nil => rfl
  | cons c counters ih =>
    obtain ⟨hnew, hrest⟩ := nodup_cons.mp h
    by_cases hc : c.bitAddr = a
    · have hothers : counters.map (fun c => if c.bitAddr = a then f c else c) = counters.map id := by
        refine map_congr_left fun other hother => if_neg fun hsame => hnew ?_
        exact mem_map.mpr ⟨other, hother, hsame.trans hc.symm⟩
      rw [findIdx_cons, map_cons, hothers, map_id, if_pos hc]
      simp [hc]
    · rw [findIdx_cons, map_cons, if_neg hc, ← ih hrest]
      simp [hc]

theorem counted_tracked (h : s.sources.Nodup) (ha : a ∈ s.sources) : s.counted a =
    { s with counters := s.counters.map fun c =>
        if c.bitAddr = a then { c with malformedAPDUCounter := c.malformedAPDUCounter + 1 } else c } := by
  rw [AslmoState.counted, if_pos (counterIdx_lt_iff.mpr ha), AslmoState.counterIdx, modify_eq_map _ h]

theorem counterIdx_untracked (ha : a ∉ s.sources) : s.counterIdx a = s.counters.length :=
  le_antisymm findIdx_le_length (not_lt.mp (counterIdx_lt_iff.not.mpr ha))

theorem counted_untracked (ha : a ∉ s.sources) (hsize : s.counters.length < maxAslmoCounterNo) :
    s.counted a = { s with counters := s.counters ++ [⟨a, 0, s.aslmo.countingPeriod, 1⟩] } := by
  rw [AslmoState.counted, if_neg (counterIdx_lt_iff.not.mpr ha), counterIdx_untracked ha, if_pos hsize]

theorem exists_malformedAlert {unIdx : Nat} (stAlert : Alert) (h : unIdx < s.counters.length) :
    ∃ alert, s.malformedAlert stAlert unIdx = some alert := by
  rw [AslmoState.malformedAlert, getElem?_eq_getElem h]
  exact ⟨_, rfl⟩

theorem step_reported (stAlert : Alert) (hcounts : r.state.aslmo.counts = true)
    (hslot : r.state.counterIdx a < (r.state.counted a).counters.length) :
    r.step (.addMalformedAPDU stAlert (some a)) =
      some ⟨r.state.counted a, r.state.counterIdx a :: r.used, Function.update r.reports a (r.reports a + 1)⟩ := by
  obtain ⟨alert, halert⟩ := exists_malformedAlert stAlert hslot
  simp [Statistics.step, AslmoState.addMalformedAPDU, AslmoState.reported, hcounts, halert]

theorem Statistics.Keeps.tracked (h : r.Keeps) (ha : a ∈ r.state.sources)
    (hfits : ∀ c ∈ r.state.counters, c.bitAddr = a → c.malformedAPDUCounter ≠ 65535) :
    Statistics.Keeps ⟨r.state.counted a, r.state.counterIdx a :: r.used,
      Function.update r.reports a (r.reports a + 1)⟩ := by
  have hcounted := counted_tracked h.distinct ha
  have hsources : (r.state.counted a).sources = r.state.sources := by
    rw [hcounted, AslmoState.sources, AslmoState.sources, map_map]
    refine map_congr_left fun c _ => ?_
    by_cases hc : c.bitAddr = a <;> simp [hc]
  refine ⟨⟨?_, hsources ▸ h.distinct, ?_⟩, ?_, ?_⟩
  · exact forall_mem_cons.mpr ⟨(counterIdx_lt_iff.mpr ha).trans_le h.size, h.used⟩
  · rw [hcounted]
    refine forall_mem_map.mpr fun c hc => ?_
    by_cases hsame : c.bitAddr = a
    · have hone : (c.malformedAPDUCounter + 1).toNat = c.malformedAPDUCounter.toNat + 1 := by
        have hne : c.malformedAPDUCounter.toNat ≠ 65535 := fun heq => hfits c hc hsame (UInt16.toNat_inj.mp heq)
        have hlt := c.malformedAPDUCounter.toNat_lt
        rw [UInt16.toNat_add, UInt16.toNat_one]
        omega
      rw [if_pos hsame]
      simp only [hone, h.counted c hc, hsame, Function.update_self]
    · rw [if_neg hsame]
      exact (h.counted c hc).trans (Function.update_of_ne hsame _ _).symm
  · rw [hcounted]
    exact (length_map _).trans_le h.size
  · intro b hb
    have hnot : b ∉ r.state.sources := hsources ▸ hb
    exact (Function.update_of_ne (ne_of_mem_of_not_mem ha hnot).symm _ _).trans (h.untracked b hnot)

theorem Statistics.Keeps.fresh (h : r.Keeps) (ha : a ∉ r.state.sources)
    (hsize : r.state.counters.length < maxAslmoCounterNo) :
    Statistics.Keeps ⟨r.state.counted a, r.state.counterIdx a :: r.used,
      Function.update r.reports a (r.reports a + 1)⟩ := by
  have hcounted := counted_untracked ha hsize
  have hsources : (r.state.counted a).sources = r.state.sources ++ [a] := by
    rw [hcounted, AslmoState.sources, map_append]
    rfl
  refine ⟨⟨?_, ?_, ?_⟩, ?_, ?_⟩
  · exact forall_mem_cons.mpr ⟨(counterIdx_untracked ha).trans_lt hsize, h.used⟩
  · rw [hsources, ← concat_eq_append]
    exact h.distinct.concat ha
  · rw [hcounted]
    refine forall_mem_append.mpr ⟨fun c hc => ?_, forall_mem_singleton.mpr ?_⟩
    · have hne : c.bitAddr ≠ a := ne_of_mem_of_not_mem (mem_map_of_mem hc) ha
      exact (h.counted c hc).trans (Function.update_of_ne hne _ _).symm
    · have hone : Function.update r.reports a (r.reports a + 1) a = 1 := by
        rw [Function.update_self, h.untracked a ha]
      exact hone.symm
  · rw [hcounted, length_append]
    exact hsize
  · intro b hb
    rw [hsources, mem_append, not_or] at hb
    exact (Function.update_of_ne (ne_of_not_mem_cons hb.2) _ _).trans (h.untracked b hb.1)

theorem visit_bitAddr (aslmo : AslmoStruct) (c : MalformedApduCounter) : (aslmo.visit c).bitAddr = c.bitAddr := by
  simp only [AslmoStruct.visit]
  split_ifs <;> rfl

theorem visit_counter (aslmo : AslmoStruct) (c : MalformedApduCounter) :
    (aslmo.visit c).malformedAPDUCounter = if c.expires then 0 else c.malformedAPDUCounter := by
  simp only [AslmoStruct.visit]
  split_ifs <;> simp_all [MalformedApduCounter.expires]

theorem any_expires_iff (h : r.state.sources.Nodup) {c : MalformedApduCounter} (hc : c ∈ r.state.counters) :
    (r.state.counters.any fun other => other.bitAddr = c.bitAddr ∧ other.expires) = c.expires := by
  rw [Bool.eq_iff_iff, any_eq_true]
  constructor
  · rintro ⟨other, hother, hexpires⟩
    obtain ⟨hsame, hexpires⟩ := of_decide_eq_true hexpires
    exact inj_on_of_nodup_map h hother hc hsame ▸ hexpires
  · exact fun hexpires => ⟨c, hc, decide_eq_true ⟨rfl, hexpires⟩⟩

theorem Statistics.Keeps.everySecond (h : r.Keeps) : Statistics.Keeps { r with
    state := r.state.performOneSecondOperations
    reports := fun a => if r.state.counters.any fun c => c.bitAddr = a ∧ c.expires then 0 else r.reports a } := by
  have hsources : r.state.performOneSecondOperations.sources = r.state.sources := by
    rw [AslmoState.sources, AslmoState.performOneSecondOperations, map_map]
    exact map_congr_left fun c _ => visit_bitAddr r.state.aslmo c
  refine ⟨⟨h.used, hsources ▸ h.distinct, ?_⟩, (length_map _).trans_le h.size, ?_⟩
  · refine forall_mem_map.mpr fun c hc => ?_
    rw [visit_counter, visit_bitAddr]
    simp only [any_expires_iff h.distinct hc]
    split
    · rfl
    · exact h.counted c hc
  · intro a ha
    simp only [h.untracked a (hsources ▸ ha), ite_self]

theorem Statistics.Keeps.step (h : r.Keeps) {e : Event} (hmeets : Meets (some r) e) :
    ∃ r', r.step e = some r' ∧ r'.Keeps := by
  have hmeets := hmeets r.state rfl
  cases e with
  | addMalformedAPDU stAlert srcAddr =>
    cases srcAddr with
    | none =>
      refine ⟨r, ?_, h⟩
      simp [Statistics.step, AslmoState.addMalformedAPDU, AslmoState.reported]
    | some a =>
      cases hcounts : r.state.aslmo.counts with
      | false =>
        refine ⟨r, ?_, h⟩
        simp [Statistics.step, AslmoState.addMalformedAPDU, AslmoState.reported, hcounts]
      | true =>
        obtain ⟨hroom, hfits⟩ := hmeets a (if_pos hcounts)
        by_cases ha : a ∈ r.state.sources
        · refine ⟨_, step_reported stAlert hcounts ?_, h.tracked ha hfits⟩
          rw [counted_tracked h.distinct ha, length_map]
          exact counterIdx_lt_iff.mpr ha
        · refine ⟨_, step_reported stAlert hcounts ?_, h.fresh ha (hroom ha)⟩
          rw [counted_untracked ha (hroom ha), length_append, counterIdx_untracked ha]
          exact Nat.lt_succ_self _
  | performOneSecondOperations => exact ⟨_, rfl, h.everySecond⟩
  | reset resetType =>
    refine ⟨_, rfl, ?_⟩
    by_cases hdynamic : resetType = aslmoDynamicDataReset
    · rw [AslmoState.reset, if_pos hdynamic, if_pos hdynamic]
      exact ⟨⟨h.used, nodup_nil, forall_mem_nil _⟩, Nat.zero_le _, fun _ _ => rfl⟩
    · rwa [AslmoState.reset, if_neg hdynamic, if_neg hdynamic]
  | write aslmo => exact ⟨_, rfl, ⟨h.used, h.distinct, h.counted⟩, h.size, h.untracked⟩
  | init =>
    refine ⟨_, rfl, ?_⟩
    rw [AslmoState.init, hmeets]
    exact ⟨⟨h.used, nodup_nil, forall_mem_nil _⟩, Nat.zero_le _, fun _ _ => rfl⟩

/-- In a run that meets the condition no access leaves the table, and the slots count the reports of their sources. -/
theorem statistics_sound {r : Option Statistics} (h : Machine.Reachable start step Meets r) : ∃ r' ∈ r, r'.Sound := by
  have hkeeps : ∃ r', r = some r' ∧ r'.Keeps := by
    refine h.invariant (P := fun r => ∃ r', r = some r' ∧ r'.Keeps) ?_ ?_
    · exact ⟨_, rfl, ⟨forall_mem_nil _, nodup_nil, forall_mem_nil _⟩, Nat.zero_le _, fun _ _ => rfl⟩
    · rintro _ e ⟨r', rfl, hr'⟩ hmeets
      exact hr'.step hmeets
  obtain ⟨r', hr', hr'keeps⟩ := hkeeps
  exact ⟨r', hr', hr'keeps.toSound⟩

def sampleAslmo : AslmoStruct := ⟨3600, 0, alertPrMediumM, 100, 1⟩

def sampleSource (n : UInt16) : Addr128 := ((Vector.replicate 16 (0 : UInt8)).set 0 (n >>> 8).toUInt8).set 1 n.toUInt8

theorem sampleSource_injective : Function.Injective sampleSource := by
  refine Function.LeftInverse.injective (g := fun a : Addr128 => a[0].toUInt16 <<< 8 ||| a[1].toUInt16) fun n => ?_
  simpa [sampleSource] using Bytes.join_split n

def sampleReport (n : Nat) : Event := .addMalformedAPDU ⟨0, 0, 0, 0, 0, 0, 0, 0, 0, 0, 0, 0⟩
    (some (sampleSource (UInt16.ofNat n)))

instance (r : Option Statistics) : (e : Event) → Decidable (Meets r e)
  | .addMalformedAPDU _ srcAddr => inferInstanceAs (Decidable (∀ s ∈ r.map (·.state), ∀ a ∈ s.reported srcAddr,
      (a ∉ s.sources → s.counters.length < maxAslmoCounterNo) ∧ ∀ c ∈ s.counters, c.bitAddr = a →
        c.malformedAPDUCounter ≠ 65535))
  | .init => inferInstanceAs (Decidable (∀ s ∈ r.map (·.state), s.counters = []))
  | .performOneSecondOperations | .reset _ | .write _ => isTrue fun _ _ => trivial

/-- Two sources report, the table is reset, and the second one reports again. -/
def sampleRun : List Event :=
  [.write sampleAslmo, sampleReport 1, sampleReport 2, sampleReport 1, .performOneSecondOperations,
    .reset aslmoDynamicDataReset, sampleReport 2, sampleReport 3, sampleReport 2]

theorem statistics_sound_sampleRun : ∃ r ∈ Machine.run step start sampleRun, r.Sound ∧
    r.state.counters.map (·.malformedAPDUCounter) = [2, 1] := by
  have hok : Machine.Along Meets step start sampleRun := by decide
  obtain ⟨r, hr, hsound⟩ := statistics_sound (Machine.reachable_run hok)
  refine ⟨r, hr, hsound, ?_⟩
  have hcounters : (Machine.run step start sampleRun).map (·.state.counters.map (·.malformedAPDUCounter)) =
      some [2, 1] := by decide
  rw [Option.mem_def.mp hr] at hcounters
  exact Option.some.inj hcounters

def sampleReports (n : Nat) : List Event := .write sampleAslmo :: (range n).map sampleReport

theorem run_sampleReports_succ (n : Nat) : Machine.run step start (sampleReports (n + 1)) =
    step (Machine.run step start (sampleReports n)) (sampleReport n) := by
  rw [sampleReports, range_succ, map_append, ← cons_append, Machine.run, foldl_append]
  rfl

theorem sampleSource_new {n : Nat} (h : n ≤ maxAslmoCounterNo) :
    sampleSource (UInt16.ofNat n) ∉ (range n).map fun i => sampleSource (UInt16.ofNat i) := by
  rw [mem_map]
  rintro ⟨i, hi, hsame⟩
  have hlt := mem_range.mp hi
  have heq := congrArg UInt16.toNat (sampleSource_injective hsame)
  rw [UInt16.toNat_ofNat', UInt16.toNat_ofNat'] at heq
  rw [maxAslmoCounterNo] at h
  omega

theorem exists_run_sampleReports {n : Nat} (h : n ≤ maxAslmoCounterNo) :
    ∃ r, Machine.run step start (sampleReports n) = some r ∧ r.state.aslmo = sampleAslmo ∧
      r.state.sources = (range n).map fun i => sampleSource (UInt16.ofNat i) := by
  induction n with
  | zero => exact ⟨_, rfl, rfl, rfl⟩
  | succ n ih =>
    obtain ⟨r, hrun, haslmo, hsources⟩ := ih (Nat.le_of_succ_le h)
    have hsize : r.state.counters.length = n := by simpa [AslmoState.sources] using congrArg length hsources
    have hnew : sampleSource (UInt16.ofNat n) ∉ r.state.sources := hsources ▸ sampleSource_new (Nat.le_of_succ_le h)
    have hcounted := counted_untracked hnew (hsize.trans_lt h)
    have hslot : r.state.counterIdx (sampleSource (UInt16.ofNat n)) <
        (r.state.counted (sampleSource (UInt16.ofNat n))).counters.length := by
      rw [hcounted, counterIdx_untracked hnew, length_append]
      exact Nat.lt_succ_self _
    have hstep := step_reported ⟨0, 0, 0, 0, 0, 0, 0, 0, 0, 0, 0, 0⟩ (haslmo ▸ rfl) hslot
    have hnext : Machine.run step start (sampleReports (n + 1)) = r.step (sampleReport n) := by
      rw [run_sampleReports_succ, hrun]
      rfl
    refine ⟨_, hnext.trans hstep, ?_, ?_⟩
    · rw [hcounted, haslmo]
    · rw [hcounted, AslmoState.sources, map_append, range_succ, map_append, ← hsources]
      rfl

/-- When the table is full the report of one more source reads behind it. -/
theorem statistics_overrun : ¬∃ r ∈ Machine.run step start (sampleReports (maxAslmoCounterNo + 1)), r.Sound := by
  obtain ⟨r, hrun, haslmo, hsources⟩ := exists_run_sampleReports (Nat.le_refl maxAslmoCounterNo)
  have hsize : r.state.counters.length = maxAslmoCounterNo := by
    simpa [AslmoState.sources] using congrArg length hsources
  have hnew := counterIdx_lt_iff.not.mpr (hsources ▸ sampleSource_new (Nat.le_refl maxAslmoCounterNo))
  have hcounted : r.state.counted (sampleSource (UInt16.ofNat maxAslmoCounterNo)) = r.state := by
    rw [AslmoState.counted, if_neg hnew, if_neg (hsize ▸ hnew)]
  have hcounts : r.state.aslmo.counts = true := haslmo ▸ rfl
  have hnone : r.step (sampleReport maxAslmoCounterNo) = none := by
    simp [Statistics.step, sampleReport, AslmoState.addMalformedAPDU, AslmoState.malformedAlert, hcounts,
      hcounted, not_lt.mp hnew]
  rw [run_sampleReports_succ, hrun, step, Option.bind_some, hnone]
  rintro ⟨_, hr, -⟩
  cases hr

end Aslmo

end Isa100Gateway
