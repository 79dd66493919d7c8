import Isa100Gateway.Lib.Run
import Isa100Gateway.Tl.Tlde
import Mathlib.Data.Nat.Find

/-!
# Replay detection

Runs of `TLDE_Duplicate_Init` and `TLDE_IsDuplicate` next to the list of all TPDUs that were accepted. The ring answers for the newest of them as long as the scan is not stopped by an expired entry in front of a live one.
-/

namespace Isa100Gateway

open Machine List

structure AcceptedTpdu where
  key : List UInt8
  crtTime : Int
  time : Int

/-- The history variables, all accepted TPDUs, newest first, and how many of them came after the last `TLDE_Duplicate_Init`. -/
structure ReplayState where
  hist : DuplicateHist
  accepted : List AcceptedTpdu
  fresh : Nat

def ReplayState.empty : ReplayState where
  hist := .empty
  accepted := []
  fresh := 0

inductive ReplayAction where
  | init (size seconds : Int)
  | check (key : List UInt8) (crtTime : Int)

def ReplayState.accept (s : ReplayState) (key : List UInt8) (crtTime : Int) (hist : DuplicateHist) : ReplayState where
  hist := hist
  accepted := ⟨key, crtTime, toInt32 (crtTime + s.hist.timeWindow)⟩ :: s.accepted
  fresh := s.fresh + 1

def replayStep (s : ReplayState) : ReplayAction → ReplayState
  | .init size seconds =>
    match duplicateInit size seconds s.hist with
    | none => s
    | some hist => { s with hist := hist, fresh := 0 }
  | .check key crtTime =>
    match isDuplicate key crtTime s.hist with
    | none => s
    | some (true, hist) => { s with hist := hist }
    | some (false, hist) => if s.hist.array.isSome then s.accept key crtTime hist else s

/-- The accepted TPDU at place `i` has this key, and its time is inside the window. -/
def ReplayState.LiveAt (s : ReplayState) (key : List UInt8) (crtTime : Int) (i : Nat) : Prop :=
  (s.accepted[i]?).any (fun r => r.key = key ∧ crtTime ≤ r.crtTime + s.hist.timeWindow) = true

/-- The key is among the last `size - 1` accepted TPDUs, inside the window. -/
def ReplayState.Replayed (s : ReplayState) (key : List UInt8) (crtTime : Int) : Prop :=
  ∃ i < s.hist.size - 1, s.LiveAt key crtTime i

def ReplayState.Recorded (s : ReplayState) (key : List UInt8) : Prop :=
  ∃ r ∈ s.accepted, r.key = key

def DuplicateHist.IndexInRange (h : DuplicateHist) : Prop := h.array.isSome = true → h.idx < h.size

/-- The verdict on a TPDU is right, and the ring index is below the configured size. -/
def StepRight (s : ReplayState) : ReplayAction → Prop
  | .init size seconds => ∃ hist ∈ duplicateInit size seconds s.hist, hist.IndexInRange
  | .check key crtTime => ∃ r ∈ isDuplicate key crtTime s.hist,
      (s.Replayed key crtTime → r.1 = true) ∧ (¬s.Recorded key → r.1 = false) ∧ r.2.IndexInRange

/-- The newest live TPDU with the key was accepted after the last initialisation, and neither it nor a later one carries an expired time. -/
def ReplayState.ScanReaches (s : ReplayState) (key : List UInt8) (crtTime : Int) : Prop :=
  ∀ i < s.hist.size - 1, s.LiveAt key crtTime i → (∀ j < i, ¬s.LiveAt key crtTime j) →
    i < s.fresh ∧ ∀ j ≤ i, (s.accepted[j]?).all (fun r => crtTime ≤ r.time) = true

/-- The key is that of a blank slot, and the scan comes to a blank slot while the time is not past 0. -/
def ReplayState.BlankMatches (s : ReplayState) (key : List UInt8) (crtTime : Int) : Prop :=
  key = DuplicateHistEntry.blank.key ∧ crtTime ≤ 0 ∧ s.fresh < s.hist.size - 1 ∧
    ∀ r ∈ s.accepted.take s.fresh, crtTime ≤ r.time

def StepAdmitted (s : ReplayState) : ReplayAction → Prop
  | .init size _ => (s.hist.idx : Int) < size
  | .check key crtTime => s.ScanReaches key crtTime ∧ (s.BlankMatches key crtTime → s.Recorded key)

instance (s : ReplayState) (key : List UInt8) (crtTime : Int) (i : Nat) : Decidable (s.LiveAt key crtTime i) :=
  inferInstanceAs (Decidable (_ = true))

instance (s : ReplayState) (key : List UInt8) (crtTime : Int) : Decidable (s.Replayed key crtTime) :=
  inferInstanceAs (Decidable (∃ _ < _, _))

instance (s : ReplayState) (key : List UInt8) : Decidable (s.Recorded key) := inferInstanceAs (Decidable (∃ _ ∈ _, _))

instance (h : DuplicateHist) : Decidable h.IndexInRange := inferInstanceAs (Decidable (_ → _))

instance StepRight.decidable (s : ReplayState) : ∀ a, Decidable (StepRight s a)
  | .init .. => inferInstanceAs (Decidable (∃ _ ∈ _, _))
  | .check .. => inferInstanceAs (Decidable (∃ _ ∈ _, _))

instance StepAdmitted.decidable (s : ReplayState) : ∀ a, Decidable (StepAdmitted s a)
  | .init .. => inferInstanceAs (Decidable (_ < _))
  | .check key crtTime =>
    have : Decidable (s.ScanReaches key crtTime) := inferInstanceAs (Decidable (∀ _ < _, _))
    have : Decidable (s.BlankMatches key crtTime) := inferInstanceAs (Decidable (_ ∧ _))
    inferInstanceAs (Decidable (_ ∧ _))

def AcceptedTpdu.entry (r : AcceptedTpdu) : DuplicateHistEntry := ⟨r.time, r.key⟩

def ReplayState.shown (s : ReplayState) (size : Nat) : List DuplicateHistEntry :=
  (s.accepted.take s.fresh).map AcceptedTpdu.entry ++ replicate size .blank

/-- The index is inside the array, and the array holds the TPDUs accepted since the last initialisation. -/
structure ReplayState.Mirrors (s : ReplayState) : Prop where
  fresh_le : s.fresh ≤ s.accepted.length
  unset : s.hist.array = none → s.hist.size = 0 ∧ s.accepted = []
  size_eq : ∀ array, s.hist.array = some array → s.hist.size = array.length
  idx_lt : ∀ array, s.hist.array = some array → s.hist.idx < array.length
  recent_eq : ∀ array, s.hist.array = some array →
    Ring.recent array s.hist.idx = (s.shown array.length).take array.length

variable {s : ReplayState} {key : List UInt8} {crtTime : Int} {array : List DuplicateHistEntry}

theorem ReplayState.mirrors_empty : ReplayState.empty.Mirrors where
  fresh_le := Nat.le_refl _
  unset _ := ⟨rfl, rfl⟩
  size_eq _ h := by cases h
  idx_lt _ h := by cases h
  recent_eq _ h := by cases h

theorem ReplayState.Mirrors.indexInRange (h : s.Mirrors) : s.hist.IndexInRange := by
  intro hset
  obtain ⟨array, harray⟩ := Option.isSome_iff_exists.mp hset
  rw [h.size_eq array harray]
  exact h.idx_lt array harray

theorem ReplayState.mirrors_init {size : Int} (seconds : Int)
    (hsize : (s.hist.idx : Int) < size) : (replayStep s (.init size seconds)).Mirrors := by
  have hnonneg : ¬size < 0 := by omega
  have hlen : (replicate size.toNat DuplicateHistEntry.blank).length = size.toNat := by simp
  constructor
  · simp [replayStep, duplicateInit, hnonneg]
  · simp [replayStep, duplicateInit, hnonneg]
  · intro array harray
    have heq : replicate size.toNat .blank = array := by
      simpa [replayStep, duplicateInit, hnonneg] using harray
    simp [replayStep, duplicateInit, hnonneg, ← heq]
  · intro array harray
    have heq : replicate size.toNat .blank = array := by
      simpa [replayStep, duplicateInit, hnonneg] using harray
    simp only [replayStep, duplicateInit, hnonneg, ← heq, if_false, hlen]
    omega
  · intro array harray
    have heq : replicate size.toNat .blank = array := by
      simpa [replayStep, duplicateInit, hnonneg] using harray
    simp [replayStep, duplicateInit, hnonneg, ← heq, shown]

theorem ReplayState.shown_accept (hist : DuplicateHist) (size : Nat) : (s.accept key crtTime hist).shown size =
      ⟨toInt32 (crtTime + s.hist.timeWindow), key⟩ :: s.shown size := by
  simp [shown, accept, AcceptedTpdu.entry]

theorem ReplayState.Mirrors.accept (h : s.Mirrors) (key : List UInt8) (crtTime : Int)
    (harray : s.hist.array = some array) :
    (s.accept key crtTime
      { s.hist with
        array := some (array.set s.hist.idx ⟨toInt32 (crtTime + s.hist.timeWindow), key⟩)
        idx := Ring.advance s.hist.size s.hist.idx }).Mirrors := by
  have hidx := h.idx_lt array harray
  have hsize := h.size_eq array harray
  have hwritten : ∀ array', some (array.set s.hist.idx
      ⟨toInt32 (crtTime + s.hist.timeWindow), key⟩) = some array' →
      array.set s.hist.idx ⟨toInt32 (crtTime + s.hist.timeWindow), key⟩ = array' :=
    fun array' heq => Option.some.inj heq
  constructor
  · simpa [ReplayState.accept] using h.fresh_le
  · intro hnone
    cases hnone
  · intro array' heq
    rw [← hwritten array' heq, length_set]
    exact hsize
  · intro array' heq
    rw [← hwritten array' heq, length_set, ReplayState.accept, hsize]
    exact Ring.advance_lt (Nat.lt_of_le_of_lt (Nat.zero_le _) hidx)
  · intro array' heq
    rw [← hwritten array' heq, length_set, shown_accept]
    have hring := Ring.recent_set_of_history hidx (h.recent_eq array harray)
      ⟨toInt32 (crtTime + s.hist.timeWindow), key⟩
    rw [← hsize] at hring ⊢
    exact hring

theorem ReplayState.Mirrors.visited (h : s.Mirrors) (harray : s.hist.array = some array) :
    (Ring.recent array s.hist.idx).dropLast = (s.shown s.hist.size).take (s.hist.size - 1) := by
  rw [h.recent_eq array harray, h.size_eq array harray, dropLast_eq_take, take_take, length_take]
  congr 1
  simp only [shown, length_append, length_replicate]
  omega

section

variable (h : s.fresh ≤ s.accepted.length)
include h

theorem ReplayState.shown_fresh {i size : Nat} (hi : i < s.fresh) :
    (s.shown size)[i]? = (s.accepted[i]?).map AcceptedTpdu.entry := by
  have hlen : i < ((s.accepted.take s.fresh).map AcceptedTpdu.entry).length := by
    simp only [length_map, length_take]
    omega
  rw [shown, getElem?_append_left hlen, getElem?_map, getElem?_take_of_lt hi]

theorem ReplayState.shown_blank {i size : Nat}
    (hi : s.fresh ≤ i) (hsize : i < size) : (s.shown size)[i]? = some .blank := by
  have hlen : ((s.accepted.take s.fresh).map AcceptedTpdu.entry).length = s.fresh := by
    simp only [length_map, length_take]
    omega
  rw [shown, getElem?_append_right (by omega), hlen, getElem?_replicate_of_lt (by omega)]

theorem ReplayState.hits_of_replayed (hreach : s.ScanReaches key crtTime) (hreplay : s.Replayed key crtTime) :
    Ring.Hits (Expired crtTime) (Carries key)
      ((s.shown s.hist.size).take (s.hist.size - 1)) := by
  obtain ⟨i, ⟨hi, hlive⟩, hfirst⟩ : ∃ i, (i < s.hist.size - 1 ∧ s.LiveAt key crtTime i) ∧
      ∀ j < i, ¬(j < s.hist.size - 1 ∧ s.LiveAt key crtTime j) :=
    ⟨Nat.find hreplay, Nat.find_spec hreplay, fun j hj => Nat.find_min hreplay hj⟩
  have hnewest : ∀ j < i, ¬s.LiveAt key crtTime j := by
    intro j hj hlivej
    exact hfirst j hj ⟨by omega, hlivej⟩
  obtain ⟨hfresh, hall⟩ := hreach i hi hlive hnewest
  obtain ⟨r, hr, hmatch⟩ := (Option.any_eq_true _ _).mp hlive
  have hkey : r.key = key := (of_decide_eq_true hmatch).1
  refine ⟨i, r.entry, ?_, hkey, ?_⟩
  · rw [getElem?_take_of_lt hi, shown_fresh h hfresh, hr, Option.map_some]
  · intro j hj b hb
    have hjfresh : j < s.fresh := by omega
    rw [getElem?_take_of_lt (by omega), shown_fresh h hjfresh] at hb
    obtain ⟨t, ht, rfl⟩ := Option.map_eq_some_iff.mp hb
    have htime := hall j hj
    rw [ht, Option.all_some, decide_eq_true_eq] at htime
    exact Int.not_lt.mpr htime

theorem ReplayState.recorded_of_hits (hhits : Ring.Hits (Expired crtTime) (Carries key)
      ((s.shown s.hist.size).take (s.hist.size - 1))) : s.Recorded key ∨ s.BlankMatches key crtTime := by
  obtain ⟨i, e, he, hkey, hall⟩ := hhits
  have hi : i < s.hist.size - 1 := by
    have hlt := (List.getElem?_eq_some_iff.mp he).1
    simp only [length_take] at hlt
    omega
  rw [getElem?_take_of_lt hi] at he
  by_cases hfresh : i < s.fresh
  · rw [shown_fresh h hfresh] at he
    obtain ⟨r, hr, rfl⟩ := Option.map_eq_some_iff.mp he
    exact Or.inl ⟨r, mem_of_getElem? hr, hkey⟩
  · have hblank : (s.shown s.hist.size)[i]? = some .blank :=
      shown_blank h (by omega) (by omega)
    have heq : DuplicateHistEntry.blank = e := Option.some.inj (hblank.symm.trans he)
    have hlive := hall i (Nat.le_refl i) e (by rw [getElem?_take_of_lt hi]; exact he)
    subst heq
    refine Or.inr ⟨hkey.symm, Int.not_lt.mp hlive, by omega, ?_⟩
    intro r hr
    obtain ⟨j, hj⟩ := mem_iff_getElem?.mp hr
    have hjfresh : j < s.fresh := by
      have hlt := (List.getElem?_eq_some_iff.mp hj).1
      simp only [length_take] at hlt
      omega
    rw [getElem?_take_of_lt hjfresh] at hj
    refine Int.not_lt.mp (hall j (by omega) r.entry ?_)
    rw [getElem?_take_of_lt (by omega), shown_fresh h hjfresh, hj, Option.map_some]

end

theorem check_right (h : s.Mirrors) (hreach : s.ScanReaches key crtTime)
    (hblank : s.BlankMatches key crtTime → s.Recorded key) :
    StepRight s (.check key crtTime) ∧ (replayStep s (.check key crtTime)).Mirrors := by
  cases harray : s.hist.array with
  | none =>
    have hverdict : isDuplicate key crtTime s.hist = some (false, s.hist) := by
      simp [isDuplicate, harray]
    constructor
    · refine ⟨(false, s.hist), hverdict, ?_, fun _ => rfl, h.indexInRange⟩
      intro hreplay
      obtain ⟨i, hi, -⟩ := hreplay
      rw [(h.unset harray).1] at hi
      omega
    · simpa [replayStep, hverdict, harray] using h
  | some array =>
    have hvisited := h.visited harray
    cases isDuplicate_cases key crtTime harray (h.size_eq array harray) (h.idx_lt array harray) with
    | inl hdup =>
      obtain ⟨hhits, hverdict⟩ := hdup
      rw [hvisited] at hhits
      constructor
      · refine ⟨(true, s.hist), hverdict, fun _ => rfl, ?_, h.indexInRange⟩
        intro hnew
        cases ReplayState.recorded_of_hits h.fresh_le hhits with
        | inl hrecorded => exact absurd hrecorded hnew
        | inr hmatch => exact absurd (hblank hmatch) hnew
      · simpa [replayStep, hverdict] using h
    | inr hnew =>
      obtain ⟨hmiss, hverdict⟩ := hnew
      rw [hvisited] at hmiss
      have hnext : replayStep s (.check key crtTime) = s.accept key crtTime
          { s.hist with
            array := some (array.set s.hist.idx ⟨toInt32 (crtTime + s.hist.timeWindow), key⟩)
            idx := Ring.advance s.hist.size s.hist.idx } := by
        simp [replayStep, hverdict, harray]
      -- the new entry takes the slot of the oldest one
      have hmirrors := h.accept key crtTime harray
      constructor
      · refine ⟨_, hverdict, ?_, fun _ => rfl, hmirrors.indexInRange⟩
        intro hreplay
        exact absurd (ReplayState.hits_of_replayed h.fresh_le hreach hreplay) hmiss
      · rw [hnext]
        exact hmirrors

theorem replayStep_right (h : s.Mirrors) {a : ReplayAction} (hok : StepAdmitted s a) :
    StepRight s a ∧ (replayStep s a).Mirrors := by
  cases a with
  | init size seconds =>
    have hmirrors := ReplayState.mirrors_init seconds hok
    have hidx : (s.hist.idx : Int) < size := hok
    have hnonneg : ¬size < 0 := by omega
    refine ⟨⟨(replayStep s (.init size seconds)).hist, ?_, hmirrors.indexInRange⟩, hmirrors⟩
    simp [replayStep, duplicateInit, hnonneg]
  | check key crtTime => exact check_right h hok.1 hok.2

/-- In a run whose steps are all admitted, every verdict is right and the index stays in range. -/
theorem replayDetected_of_admitted (as : List ReplayAction)
    (hok : Along StepAdmitted replayStep .empty as) : Along StepRight replayStep .empty as :=
  Along.imp (P := ReplayState.Mirrors)
    (fun s a (h : s.Mirrors) (hadmitted : StepAdmitted s a) => replayStep_right h hadmitted)
    ReplayState.mirrors_empty hok

def sampleCheck (timeAndCounter counter : UInt8) : ReplayAction :=
  let time := acceptTime (1000 + tldeTimeMaxDiff.toUInt32) timeAndCounter
  .check (msgKey ⟨timeAndCounter, counter, none, []⟩ ((Vector.replicate 15 0).push 1) time
    [0xF0, 0xB2, 0xF0, 0xB1]) (toInt32 time.toNat)

/-- A TPDU of second 1000, one of second 990, and the first again. -/
theorem replayDetected_of_admitted_late : Along StepRight replayStep .empty
      [.init 100 60, sampleCheck 160 1, sampleCheck 120 2, sampleCheck 160 1] :=
  replayDetected_of_admitted _ (by decide +kernel)

/-- A TPDU of second 1000, one of second 939, and the first again; and an initialisation with fewer slots than are in use. -/
theorem replay_undetected : ¬Along StepRight replayStep .empty
      [.init 100 60, sampleCheck 160 1, sampleCheck 172 2, sampleCheck 160 1] ∧ ¬Along StepRight replayStep .empty
      [.init 100 60, sampleCheck 160 1, sampleCheck 160 2, .init 2 60] := by
  decide +kernel

end Isa100Gateway
