import Isa100Gateway.Lib.Progression
import Mathlib.Tactic.NormNum

/-!
# Slots of application links (`AppAllocation.cpp`)

An application link takes the slots of an arithmetic progression of its superframe. `isOverlapping` says whether two links of one device have a slot in common; it is what `isFreeSlot` asks about the links a device holds or is about to be told.
-/

namespace Isa100Gateway.AppAllocation

/-! ## The test for an overlap -/

def intMax : Nat := 2147483647

/-- A loop of `isOverlapping`, the slots of one link counted from the offset of the other; no result if a sum leaves the range of `int`. -/
def scanOverlap (perioada period lengthSuperframe : Int) : Nat → Int → Option Bool
  | 0, _ => none
  | rounds + 1, slot =>
    if slot < lengthSuperframe then
      if slot.tmod perioada = 0 then some true
      else if slot + period ≤ intMax then scanOverlap perioada period lengthSuperframe rounds (slot + period)
      else none
    else some false

def isOverlapping (slot1 perioada1 slot2 perioada2 lengthSuperframe : Int) : Option Bool :=
  if slot1 = slot2 then some true
  else if perioada1 = perioada2 then some false
  else if perioada1 = 0 ∨ perioada2 = 0 then some true
  else if slot1 < slot2 then
    scanOverlap perioada1 perioada2 (lengthSuperframe - slot1) (lengthSuperframe.toNat + 1) (slot2 - slot1)
  else
    scanOverlap perioada2 perioada1 (lengthSuperframe - slot2) (lengthSuperframe.toNat + 1) (slot1 - slot2)

section Scan

open Progression

variable {perioada length : Nat} {a : Progression}

theorem scanOverlap_step (rounds : Nat) (hlt : a.start < length) (h : ¬perioada ∣ a.start)
    (hsum : a.start + a.period ≤ intMax) : scanOverlap perioada a.period length (rounds + 1) a.start =
      scanOverlap perioada a.period length rounds a.tail.start := by
  have hmod : ¬(a.start : Int).tmod perioada = 0 := by
    rw [← Int.ofNat_tmod, Int.natCast_eq_zero]
    exact fun hzero => h (Nat.dvd_of_mod_eq_zero hzero)
  rw [scanOverlap, if_pos (by omega), if_neg hmod, if_pos (by omega)]
  rfl

theorem scanOverlap_of_divides (hperiod : 0 < a.period) (hlength : length ≤ intMax) :
    ∀ {rounds : Nat}, length < a.start + rounds → Divides perioada a length →
      scanOverlap perioada a.period length rounds a.start = some true := by
  intro rounds
  induction rounds generalizing a with
  | zero =>
    rintro hrounds ⟨k, hlt, -⟩
    have hle := a.start_le_place k
    omega
  | succ rounds ih =>
    intro hrounds hdivides
    by_cases hdvd : perioada ∣ a.start
    · obtain ⟨k, hlt, -⟩ := hdivides
      have hle := a.start_le_place k
      have hmod : (a.start : Int).tmod perioada = 0 := by
        rw [← Int.ofNat_tmod, Nat.mod_eq_zero_of_dvd hdvd]
        rfl
      rw [scanOverlap, if_pos (by omega), if_pos hmod]
    · have hrest := (divides_cons hdvd).mp hdivides
      have htail : a.start + a.period < length := by
        obtain ⟨k, hlt, -⟩ := hrest
        exact (a.tail.start_le_place k).trans_lt hlt
      have hrounds' : length < a.tail.start + rounds := by
        change length < a.start + a.period + rounds
        omega
      rw [scanOverlap_step rounds (by omega) hdvd (by omega)]
      exact ih (a := a.tail) hperiod hrounds' hrest

theorem scanOverlap_of_not_divides (hperiod : 0 < a.period) :
    ∀ {rounds : Nat}, length ≤ a.start + rounds → ¬Divides perioada a length → a.start ≤ intMax →
      scanOverlap perioada a.period length (rounds + 1) a.start =
        if a.exit length ≤ intMax then some false else none := by
  intro rounds
  induction rounds generalizing a with
  | zero =>
    intro hrounds _ hstart
    rw [scanOverlap, if_neg (by omega), a.exit_of_le hperiod (by omega), if_pos hstart]
  | succ rounds ih =>
    intro hrounds hdivides hstart
    by_cases hlt : a.start < length
    · have hdvd : ¬perioada ∣ a.start := fun h => hdivides ⟨0, by rwa [a.place_zero], by rwa [a.place_zero]⟩
      have hexit := a.exit_tail hperiod hlt
      have hle := a.tail.start_le_exit length
      by_cases hsum : a.start + a.period ≤ intMax
      · have hrounds' : length ≤ a.tail.start + rounds := by
          change length ≤ a.start + a.period + rounds
          omega
        rw [scanOverlap_step _ hlt hdvd hsum, ← hexit]
        exact ih (a := a.tail) hperiod hrounds' (hdivides ∘ (divides_cons hdvd).mpr) hsum
      · have hmod : ¬(a.start : Int).tmod perioada = 0 := by
          rw [← Int.ofNat_tmod, Int.natCast_eq_zero]
          exact fun hzero => hdvd (Nat.dvd_of_mod_eq_zero hzero)
        have hover : ¬a.exit length ≤ intMax := by
          rw [← hexit]
          exact fun h => hsum (hle.trans h)
        rw [scanOverlap, if_pos (by omega), if_neg hmod, if_neg (by omega), if_neg hover]
    · rw [scanOverlap, if_neg (by omega), a.exit_of_le hperiod (by omega), if_pos hstart]

theorem isSome_scanOverlap {perioada period lengthSuperframe : Int} (hperiod : 0 < period)
    (hsum : lengthSuperframe + period ≤ intMax) : ∀ {rounds : Nat} {slot : Int}, lengthSuperframe ≤ slot + rounds →
      (scanOverlap perioada period lengthSuperframe (rounds + 1) slot).isSome := by
  intro rounds
  induction rounds with
  | zero =>
    intro slot hrounds
    rw [scanOverlap, if_neg (by omega)]
    rfl
  | succ rounds ih =>
    intro slot hrounds
    rw [scanOverlap]
    by_cases hlt : slot < lengthSuperframe
    · rw [if_pos hlt]
      by_cases hmod : slot.tmod perioada = 0
      · rw [if_pos hmod]
        rfl
      · rw [if_neg hmod, if_pos (by omega)]
        exact ih (by omega)
    · rw [if_neg hlt]
      rfl

end Scan

theorem isSome_isOverlapping (slot1 perioada1 slot2 perioada2 lengthSuperframe : UInt16) :
    (isOverlapping slot1.toNat perioada1.toNat slot2.toNat perioada2.toNat lengthSuperframe.toNat).isSome := by
  have hperiod := perioada1.toNat_lt
  have hperiod' := perioada2.toNat_lt
  have hlength := lengthSuperframe.toNat_lt
  unfold isOverlapping
  by_cases hsame : (slot1.toNat : Int) = slot2.toNat
  · rw [if_pos hsame]
    rfl
  · rw [if_neg hsame]
    by_cases hequal : (perioada1.toNat : Int) = perioada2.toNat
    · rw [if_pos hequal]
      rfl
    · rw [if_neg hequal]
      by_cases hzero : (perioada1.toNat : Int) = 0 ∨ (perioada2.toNat : Int) = 0
      · rw [if_pos hzero]
        rfl
      · have hmax : (intMax : Int) = 2147483647 := rfl
        rw [if_neg hzero]
        by_cases hlt : (slot1.toNat : Int) < slot2.toNat
        · rw [if_pos hlt]
          exact isSome_scanOverlap (by omega) (by omega) (by omega)
        · rw [if_neg hlt]
          exact isSome_scanOverlap (by omega) (by omega) (by omega)

section Overlap

open Progression

variable {first second : Progression} {length : Nat}

def scanEnd (first second : Progression) (length : Nat) : Nat :=
  if first.start < second.start then (second.since first.start).exit (length - first.start)
  else (first.since second.start).exit (length - second.start)

/-- The shortcuts are right, and the scan behind them stays in the range of `int`. -/
def Comparable (first second : Progression) (length : Nat) : Prop :=
  first.start = second.start ∨
    if first.period = second.period then ¬first.start ≡ second.start [MOD first.period]
    else first.Meet second length ∨ scanEnd first second length ≤ intMax

theorem scanOverlap_since (hsecond : 0 < second.period) (hlt : first.start < second.start)
    (hstart : second.start < length) (hlength : length ≤ intMax) :
    (∃ result, scanOverlap first.period second.period (length - first.start : Int) (length + 1)
        (second.start - first.start : Int) = some result ∧ (result = true ↔ first.Meet second length)) ↔
      first.Meet second length ∨ (second.since first.start).exit (length - first.start) ≤ intMax := by
  rw [meet_iff_divides hlt.le, ← Int.ofNat_sub hlt.le, ← Int.ofNat_sub (by omega : first.start ≤ length)]
  by_cases hdivides : Divides first.period (second.since first.start) (length - first.start)
  · have hscan : scanOverlap first.period second.period (length - first.start : Nat) (length + 1)
        (second.start - first.start : Nat) = some true :=
      scanOverlap_of_divides (a := second.since first.start) hsecond (by omega) (by omega) hdivides
    rw [hscan]
    exact iff_of_true ⟨true, rfl, iff_of_true rfl hdivides⟩ (.inl hdivides)
  · have hscan : scanOverlap first.period second.period (length - first.start : Nat) (length + 1)
        (second.start - first.start : Nat) =
          if (second.since first.start).exit (length - first.start) ≤ intMax then some false else none :=
      scanOverlap_of_not_divides (a := second.since first.start) hsecond (by omega) hdivides
        (by change second.start - first.start ≤ _; omega)
    rw [hscan, or_iff_right hdivides]
    by_cases hend : (second.since first.start).exit (length - first.start) ≤ intMax
    · rw [if_pos hend]
      exact iff_of_true ⟨false, rfl, iff_of_false Bool.false_ne_true hdivides⟩ hend
    · rw [if_neg hend]
      refine iff_of_false ?_ hend
      rintro ⟨_, hnone, -⟩
      cases hnone

/-- The test says whether the two progressions have a common slot, exactly where its shortcuts are right and its scan stays in range. -/
theorem isOverlapping_eq_meet_iff (first second : Progression) (length : Nat) (hfirst : 0 < first.period)
    (hsecond : 0 < second.period) (hstart : first.start < length) (hstart' : second.start < length)
      (hlength : length ≤ intMax) :
    (∃ result, isOverlapping first.start first.period second.start second.period length = some result ∧
        (result = true ↔ first.Meet second length)) ↔
      Comparable first second length := by
  unfold Comparable isOverlapping
  by_cases hsame : first.start = second.start
  · rw [if_pos (by rw [hsame])]
    exact iff_of_true ⟨true, rfl, iff_of_true rfl (meet_of_start_eq hstart hsame)⟩ (.inl hsame)
  · rw [if_neg (by omega), or_iff_right hsame]
    by_cases hperiod : first.period = second.period
    · rw [if_pos (by rw [hperiod]), if_pos hperiod, meet_iff_of_period_eq hstart hstart' hperiod]
      constructor
      · rintro ⟨result, hresult, hiff⟩ hmod
        cases hresult
        exact Bool.false_ne_true (hiff.mpr hmod)
      · exact fun hmod => ⟨false, rfl, iff_of_false Bool.false_ne_true hmod⟩
    · rw [if_neg (by omega), if_neg (by omega), if_neg hperiod, scanEnd, Int.toNat_natCast]
      rcases Nat.lt_or_gt_of_ne hsame with hlt | hgt
      · rw [if_pos (by omega), if_pos hlt]
        exact scanOverlap_since hsecond hlt hstart' hlength
      · rw [if_neg (by omega), if_neg (by omega), meet_comm]
        exact scanOverlap_since hfirst hgt hstart hlength

/-- Every slot of the second link is one of the first, but the shortcut for equal periods says that they have none in common. -/
theorem isOverlapping_misses_congruent_offsets : ¬∃ result, isOverlapping 0 10 10 10 100 = some result ∧
      (result = true ↔ Progression.Meet ⟨0, 10⟩ ⟨10, 10⟩ 100) := by
  rintro ⟨result, hresult, hiff⟩
  have hmeet : Progression.Meet ⟨0, 10⟩ ⟨10, 10⟩ 100 := ⟨10, by decide, by decide, by decide⟩
  rw [hiff.mpr hmeet] at hresult
  exact absurd hresult (by decide)

theorem isOverlapping_eq_meet_iff_holds :
    (∃ result, isOverlapping (3 : Nat) (10 : Nat) (25 : Nat) (4 : Nat) (100 : Nat) = some result ∧
        (result = true ↔ Progression.Meet ⟨3, 10⟩ ⟨25, 4⟩ 100)) ↔
      Comparable ⟨3, 10⟩ ⟨25, 4⟩ 100 :=
  isOverlapping_eq_meet_iff ⟨3, 10⟩ ⟨25, 4⟩ 100 (by decide) (by decide) (by decide)
    (by decide) (by decide)

end Overlap

end Isa100Gateway.AppAllocation
