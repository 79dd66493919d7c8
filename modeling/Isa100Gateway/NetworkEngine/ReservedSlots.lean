import Isa100Gateway.NetworkEngine.SlotReservation
import Mathlib.Data.Nat.Bitwise

/-!
# What a reservation marks

The walk of the two loops is a progression as long as the slot numbers do not leave 16 bits. A reservation is exact if the first offer that is neither occupied nor in the way of the devices is one whose walk ends below `2 ^ 16`.
-/

namespace Isa100Gateway.AppAllocation

open Progression FirstFit Option

section Walk

variable {appSlots : AppSlots} {mask slot period length : UInt16} {rounds : Nat}

def slotsOf (slot period : UInt16) : Progression := ⟨slot.toNat, period.toNat⟩

def walk (slot period : UInt16) (k : Nat) : UInt16 := UInt16.ofNat ((slotsOf slot period).place k)

def Inside (length slot : UInt16) : Prop := slot < length ∧ slot.toNat < appSlotsLength

def Occupied (appSlots : AppSlots) (mask slot : UInt16) : Prop :=
  ∃ h : slot.toNat < appSlotsLength, appSlots ⟨slot.toNat, h⟩ &&& mask ≠ 0

def Passed (appSlots : AppSlots) (mask length slot : UInt16) : Prop :=
  Inside length slot ∧ ¬Occupied appSlots mask slot

theorem walk_zero (slot period : UInt16) : walk slot period 0 = slot := by
  rw [walk, place_zero]
  exact UInt16.ofNat_toNat

theorem walk_succ (slot period : UInt16) (k : Nat) : walk slot period (k + 1) = walk (slot + period) period k := by
  apply UInt16.toNat_inj.mp
  simp only [walk, slotsOf, place, UInt16.toNat_ofNat', UInt16.toNat_add]
  have hmul : (k + 1) * period.toNat = k * period.toNat + period.toNat := Nat.succ_mul ..
  omega

theorem toNat_walk {k : Nat} (h : (slotsOf slot period).place k < UInt16.size) :
    (walk slot period k).toNat = (slotsOf slot period).place k := UInt16.toNat_ofNat_of_lt' h

theorem forall_walk_cons {P : UInt16 → Prop} {n : Nat} :
    (∀ j < n + 1, P (walk slot period j)) ↔ P slot ∧ ∀ j < n, P (walk (slot + period) period j) := by
  constructor
  · intro h
    refine ⟨?_, fun j hj => ?_⟩
    · have hfirst := h 0 (by omega)
      rwa [walk_zero] at hfirst
    · have hlater := h (j + 1) (by omega)
      rwa [walk_succ] at hlater
  · rintro ⟨hfirst, hlater⟩ j hj
    cases j with
    | zero => rwa [walk_zero]
    | succ j =>
      rw [walk_succ]
      exact hlater j (by omega)

theorem allClear_of_passed (h : Passed appSlots mask length slot) :
    allClear appSlots mask period length (rounds + 1) slot =
      allClear appSlots mask period length rounds (slot + period) := by
  rw [allClear, if_pos h.1.1, dif_pos h.1.2, if_neg fun hmask => h.2 ⟨h.1.2, hmask⟩]

theorem allClear_eq_false_iff : allClear appSlots mask period length rounds slot = some false ↔
      ∃ k < rounds, (∀ j < k + 1, Inside length (walk slot period j)) ∧
        Occupied appSlots mask (walk slot period k) := by
  induction rounds generalizing slot with
  | zero =>
    constructor
    · intro h
      cases h
    · rintro ⟨k, hk, -⟩
      exact absurd hk (Nat.not_lt_zero k)
  | succ rounds ih =>
    by_cases hinside : Inside length slot
    · by_cases hocc : Occupied appSlots mask slot
      · have hfalse : allClear appSlots mask period length (rounds + 1) slot = some false := by
          rw [allClear, if_pos hinside.1, dif_pos hinside.2, if_pos hocc.2]
        refine iff_of_true hfalse ⟨0, Nat.succ_pos _, forall_walk_cons.mpr ⟨hinside, ?_⟩, ?_⟩
        · intro j hj
          exact absurd hj (Nat.not_lt_zero j)
        · rwa [walk_zero]
      · rw [allClear_of_passed ⟨hinside, hocc⟩, ih]
        constructor
        · rintro ⟨k, hk, hall, hoccupied⟩
          refine ⟨k + 1, by omega, forall_walk_cons.mpr ⟨hinside, hall⟩, ?_⟩
          rwa [walk_succ]
        · rintro ⟨_ | k, hk, hall, hoccupied⟩
          · rw [walk_zero] at hoccupied
            exact absurd hoccupied hocc
          · rw [walk_succ] at hoccupied
            exact ⟨k, by omega, (forall_walk_cons.mp hall).2, hoccupied⟩
    · have hne : allClear appSlots mask period length (rounds + 1) slot ≠ some false := by
        rw [allClear]
        by_cases hlt : slot < length
        · rw [if_pos hlt, dif_neg fun h => hinside ⟨hlt, h⟩]
          exact some_ne_none false ∘ Eq.symm
        · rw [if_neg hlt]
          exact fun h => Bool.noConfusion (Option.some.inj h)
      refine iff_of_false hne ?_
      rintro ⟨k, -, hall, -⟩
      exact hinside (forall_walk_cons.mp hall).1

theorem allClear_eq_true_iff : allClear appSlots mask period length rounds slot = some true ↔
      ∃ n < rounds, (∀ j < n, Passed appSlots mask length (walk slot period j)) ∧
        ¬walk slot period n < length := by
  induction rounds generalizing slot with
  | zero =>
    constructor
    · intro h
      cases h
    · rintro ⟨k, hk, -⟩
      exact absurd hk (Nat.not_lt_zero k)
  | succ rounds ih =>
    by_cases hlt : slot < length
    · by_cases hpassed : Passed appSlots mask length slot
      · rw [allClear_of_passed hpassed, ih]
        constructor
        · rintro ⟨n, hn, hall, hend⟩
          refine ⟨n + 1, by omega, forall_walk_cons.mpr ⟨hpassed, hall⟩, ?_⟩
          rwa [walk_succ]
        · rintro ⟨_ | n, hn, hall, hend⟩
          · rw [walk_zero] at hend
            exact absurd hlt hend
          · rw [walk_succ] at hend
            exact ⟨n, by omega, (forall_walk_cons.mp hall).2, hend⟩
      · have hne : allClear appSlots mask period length (rounds + 1) slot ≠ some true := by
          rw [allClear, if_pos hlt]
          by_cases hin : slot.toNat < appSlotsLength
          · rw [dif_pos hin]
            by_cases hmask : appSlots ⟨slot.toNat, hin⟩ &&& mask ≠ 0
            · rw [if_pos hmask]
              exact fun h => Bool.noConfusion (Option.some.inj h)
            · exact absurd ⟨⟨hlt, hin⟩, fun hocc => hmask hocc.2⟩ hpassed
          · rw [dif_neg hin]
            exact some_ne_none true ∘ Eq.symm
        refine iff_of_false hne ?_
        rintro ⟨_ | n, -, hall, hend⟩
        · rw [walk_zero] at hend
          exact hend hlt
        · exact hpassed (forall_walk_cons.mp hall).1
    · have htrue : allClear appSlots mask period length (rounds + 1) slot = some true := by
        rw [allClear, if_neg hlt]
      refine iff_of_true htrue ⟨0, Nat.succ_pos _, ?_, ?_⟩
      · intro j hj
        exact absurd hj (Nat.not_lt_zero j)
      · rwa [walk_zero]

theorem exists_updateSlots (change : UInt16 → UInt16) (hchange : ∀ x, change (change x) = change x)
    (appSlots : AppSlots) {n : Nat} (hn : n < rounds) (hall : ∀ j < n, Inside length (walk slot period j))
    (hend : ¬walk slot period n < length) :
    ∃ changed, updateSlots change period length rounds slot appSlots = some changed ∧
      ∀ i : Fin appSlotsLength, ((∃ j < n, (walk slot period j).toNat = i) → changed i = change (appSlots i)) ∧
        ((¬∃ j < n, (walk slot period j).toNat = i) → changed i = appSlots i) := by
  induction n generalizing slot rounds appSlots with
  | zero =>
    obtain ⟨rounds, rfl⟩ := Nat.exists_eq_add_of_lt hn
    rw [walk_zero] at hend
    refine ⟨appSlots, by rw [updateSlots, if_neg hend], fun i => ⟨?_, fun _ => rfl⟩⟩
    rintro ⟨j, hj, -⟩
    exact absurd hj (Nat.not_lt_zero j)
  | succ n ih =>
    obtain ⟨rounds, rfl⟩ := Nat.exists_eq_succ_of_ne_zero (Nat.ne_zero_of_lt hn)
    obtain ⟨hfirst, hrest⟩ := forall_walk_cons.mp hall
    rw [walk_succ] at hend
    obtain ⟨changed, hchanged, hspec⟩ := ih
      (Function.update appSlots ⟨slot.toNat, hfirst.2⟩ (change (appSlots ⟨slot.toNat, hfirst.2⟩)))
      (Nat.lt_of_succ_lt_succ hn) hrest hend
    refine ⟨changed, by rw [updateSlots, if_pos hfirst.1, dif_pos hfirst.2, hchanged], fun i => ?_⟩
    have hcons : (∃ j < n + 1, (walk slot period j).toNat = i) ↔
        slot.toNat = i ∨ ∃ j < n, (walk (slot + period) period j).toNat = i := by
      constructor
      · rintro ⟨_ | j, hj, hi⟩
        · rw [walk_zero] at hi
          exact .inl hi
        · rw [walk_succ] at hi
          exact .inr ⟨j, by omega, hi⟩
      · rintro (hi | ⟨j, hj, hi⟩)
        · exact ⟨0, by omega, by rwa [walk_zero]⟩
        · exact ⟨j + 1, by omega, by rwa [walk_succ]⟩
    have hself : ∀ i : Fin appSlotsLength, slot.toNat = i → i = ⟨slot.toNat, hfirst.2⟩ := fun i hi => Fin.ext hi.symm
    rw [hcons]
    constructor
    · rintro (hi | hi)
      · by_cases hlater : ∃ j < n, (walk (slot + period) period j).toNat = i
        · rw [(hspec i).1 hlater, hself i hi, Function.update_self, hchange]
        · rw [(hspec i).2 hlater, hself i hi, Function.update_self]
      · rw [(hspec i).1 hi]
        by_cases hi' : slot.toNat = i
        · rw [hself i hi', Function.update_self, hchange]
        · rw [Function.update_of_ne fun h => hi' (congrArg Fin.val h).symm]
    · intro hi
      rw [(hspec i).2 fun h => hi (.inr h), Function.update_of_ne fun h => hi (.inl (congrArg Fin.val h).symm)]

theorem exists_markSlots (mask : UInt16) (appSlots : AppSlots) {n : Nat} (hn : n < rounds)
    (hall : ∀ j < n, Inside length (walk slot period j)) (hend : ¬walk slot period n < length) :
    ∃ marked, markSlots mask period length rounds slot appSlots = some marked ∧
      ∀ i : Fin appSlotsLength, ((∃ j < n, (walk slot period j).toNat = i) → marked i = appSlots i ||| mask) ∧
        ((¬∃ j < n, (walk slot period j).toNat = i) → marked i = appSlots i) :=
  exists_updateSlots _ (fun x => by rw [UInt16.or_assoc, UInt16.or_self]) appSlots hn hall hend

end Walk

section Masks

variable {freq : UInt8}

theorem toNat_freqMask (hfreq : freq.toNat < 16) : (freqMask freq).toNat = 2 ^ freq.toNat := by
  rw [freqMask, Nat.one_shiftLeft]
  exact UInt16.toNat_ofNat_of_lt' (Nat.pow_lt_pow_right Nat.one_lt_two hfreq)

theorem freqMask_eq_zero (hfreq : 16 ≤ freq.toNat) : freqMask freq = 0 := by
  obtain ⟨k, hk⟩ := Nat.exists_eq_add_of_le hfreq
  apply UInt16.toNat_inj.mp
  rw [freqMask, UInt16.toNat_ofNat', Nat.one_shiftLeft, hk, Nat.pow_add]
  exact Nat.mul_mod_right ..

theorem testBit_or_freqMask (hfreq : freq.toNat < 16) (x : UInt16) (bit : Nat) :
    (x ||| freqMask freq).toNat.testBit bit = (x.toNat.testBit bit || decide (freq.toNat = bit)) := by
  rw [UInt16.toNat_or, Nat.testBit_or, toNat_freqMask hfreq, Nat.testBit_two_pow]

theorem and_freqMask_ne_zero_iff (hfreq : freq.toNat < 16) (x : UInt16) :
    x &&& freqMask freq ≠ 0 ↔ x.toNat.testBit freq.toNat = true := by
  rw [ne_eq, ← UInt16.toNat_inj, UInt16.toNat_and, toNat_freqMask hfreq, Nat.and_two_pow, UInt16.toNat_zero]
  cases x.toNat.testBit freq.toNat
  · simp
  · simp

theorem lt_of_occupied {appSlots : AppSlots} {slot : UInt16} (h : Occupied appSlots (freqMask freq) slot) :
    freq.toNat < 16 := by
  by_contra hle
  obtain ⟨hslot, hmask⟩ := h
  rw [freqMask_eq_zero (Nat.le_of_not_lt hle), UInt16.and_zero] at hmask
  exact hmask rfl

def slotFreqOf (slot : Nat) (freq : UInt8) : UInt32 := UInt32.ofNat (slot <<< 4 ||| freq.toNat)

variable {slot : Nat}

section

variable (hslot : slot < 2 ^ 16)
include hslot

theorem toNat_slotFreqOf : (slotFreqOf slot freq).toNat = slot <<< 4 ||| freq.toNat := by
  have hfreq := freq.toNat_lt
  have hshift : slot <<< 4 < 2 ^ 20 := by
    rw [Nat.shiftLeft_eq]
    omega
  exact UInt32.toNat_ofNat_of_lt' ((Nat.or_lt_two_pow hshift (by omega)).trans (by decide))

theorem toNat_getSlot_slotFreqOf : (getSlot (slotFreqOf slot freq)).toNat = slot ||| freq.toNat / 16 := by
  have hfreq := freq.toNat_lt
  have hor : slot ||| freq.toNat / 16 < 2 ^ 16 := Nat.or_lt_two_pow hslot (by omega)
  rw [getSlot, UInt32.toNat_toUInt16, UInt32.toNat_shiftRight, toNat_slotFreqOf hslot]
  change ((slot <<< 4 ||| freq.toNat) >>> 4) % 2 ^ 16 = _
  rw [Nat.shiftRight_or_distrib, Nat.shiftLeft_shiftRight, Nat.shiftRight_eq_div_pow, Nat.mod_eq_of_lt hor]

theorem getSlot_slotFreqOf (hfreq : freq.toNat < 16) : getSlot (slotFreqOf slot freq) = UInt16.ofNat slot := by
  apply UInt16.toNat_inj.mp
  rw [toNat_getSlot_slotFreqOf hslot, Nat.div_eq_of_lt hfreq, Nat.or_zero, UInt16.toNat_ofNat_of_lt' hslot]

theorem toNat_getFreq_slotFreqOf (hfreq : freq.toNat < 16) : (getFreq (slotFreqOf slot freq)).toNat = freq.toNat := by
  rw [getFreq, UInt32.toNat_toUInt8, UInt32.toNat_and, toNat_slotFreqOf hslot]
  change ((slot <<< 4 ||| freq.toNat) &&& (2 ^ 4 - 1)) % 256 = _
  rw [Nat.and_two_pow_sub_one_eq_mod, Nat.or_mod_two_pow, Nat.shiftLeft_eq, Nat.mul_mod_left, Nat.zero_or]
  omega

theorem odd_getSlot_slotFreqOf (hfreq : 16 ≤ freq.toNat) (hlt : freq < 32) :
    ¬Even (getSlot (slotFreqOf slot freq)).toNat := by
  have hlt' : freq.toNat < 32 := UInt8.lt_iff_toNat_lt.mp hlt
  have hone : freq.toNat / 16 = 1 := by omega
  rw [toNat_getSlot_slotFreqOf hslot, hone, Nat.even_iff, Nat.or_mod_two_eq_one.mpr (.inr rfl)]
  exact Nat.one_ne_zero

theorem slotFreqOf_ne_invalidFreeSlot : slotFreqOf slot freq ≠ invalidFreeSlot := by
  intro h
  have hfreq := freq.toNat_lt
  have hshift : slot <<< 4 < 2 ^ 20 := by
    rw [Nat.shiftLeft_eq]
    omega
  have hor : slot <<< 4 ||| freq.toNat < 2 ^ 20 := Nat.or_lt_two_pow hshift (by omega)
  rw [← toNat_slotFreqOf hslot, h] at hor
  exact absurd hor (by decide)

end

end Masks

/-! ## What a reservation is to do -/

def Within (startSlot maxSlotDelay slot : UInt16) : Prop :=
  ∃ k, 2 * (k + 1) ≤ maxSlotDelay.toNat ∧ slot.toNat = (startSlot.toNat / 2 * 2 + 2 * k) % appSlotsLength

/-- The frequency was free in the slots of the period and is occupied in exactly these afterwards. -/
structure Marks (before after : AppSlots) (slot period length : UInt16) (freq : Nat) : Prop where
  marked : ∀ x, (slotsOf slot period).Hits x ∧ x < length.toNat → ∃ h : x < appSlotsLength,
    (before ⟨x, h⟩).toNat.testBit freq = false ∧ (after ⟨x, h⟩).toNat.testBit freq = true
  frame : ∀ (i : Fin appSlotsLength) (bit : Nat),
    ¬(bit = freq ∧ (slotsOf slot period).Hits i ∧ i.val < length.toNat) →
      (after i).toNat.testBit bit = (before i).toNat.testBit bit

structure Reserves (before : AppSlots) (period length startSlot maxSlotDelay : UInt16)
    (result : Reservation) : Prop where
  even : Even (getSlot result.slotFreq).toNat
  within : Within startSlot maxSlotDelay (getSlot result.slotFreq)
  marks : Marks before result.appSlots (getSlot result.slotFreq) period length
    (getFreq result.slotFreq).toNat

section Accepted

variable {appSlots : AppSlots} {slot period length : UInt16} {freq : UInt8}

/-- The walk from the slot ends before the slot numbers leave 16 bits, and in the table. -/
def Ends (slot period length : UInt16) : Prop :=
  slot < length → 0 < period.toNat ∧ (slotsOf slot period).exit length.toNat < UInt16.size ∧
    ∀ x, (slotsOf slot period).Hits x ∧ x < length.toNat → x < appSlotsLength

theorem toNat_walk_of_le (hexit : (slotsOf slot period).exit length.toNat < UInt16.size) {j : Nat}
    (hj : j ≤ (slotsOf slot period).steps length.toNat) :
    (walk slot period j).toNat = (slotsOf slot period).place j := by
  refine toNat_walk (Nat.lt_of_le_of_lt ?_ hexit)
  exact Nat.add_le_add_left (Nat.mul_le_mul_right _ hj) _

section

variable (hperiod : 0 < period.toNat) (hexit : (slotsOf slot period).exit length.toNat < UInt16.size)
include hperiod hexit

theorem walk_exit_not_lt : ¬walk slot period ((slotsOf slot period).steps length.toNat) < length := by
  rw [UInt16.lt_iff_toNat_lt, toNat_walk_of_le hexit le_rfl, Nat.not_lt]
  exact le_exit hperiod

theorem walk_lt {j : Nat} (hj : j < (slotsOf slot period).steps length.toNat) : walk slot period j < length := by
  rw [UInt16.lt_iff_toNat_lt, toNat_walk_of_le hexit hj.le]
  exact (place_lt_iff hperiod _ j).mpr hj

theorem exists_walk_iff {x : Nat} : (∃ j < (slotsOf slot period).steps length.toNat, (walk slot period j).toNat = x) ↔
      (slotsOf slot period).Hits x ∧ x < length.toNat := by
  rw [hits_and_lt_iff hperiod]
  refine exists_congr fun j => and_congr_right fun hj => ?_
  rw [toNat_walk_of_le hexit hj.le]

theorem eq_steps_of_passed {n : Nat}
    (hall : ∀ j < n, Inside length (walk slot period j)) (hend : ¬walk slot period n < length) :
    n = (slotsOf slot period).steps length.toNat := by
  rcases Nat.lt_trichotomy n ((slotsOf slot period).steps length.toNat) with hlt | heq | hgt
  · exact absurd (walk_lt hperiod hexit hlt) hend
  · exact heq
  · exact absurd (hall _ hgt).1 (walk_exit_not_lt hperiod hexit)

end

variable {after : AppSlots}

theorem marks_of_walk (hfreq : freq.toNat < 16) {n : Nat} (hwalk : ∀ x, (∃ j < n, (walk slot period j).toNat = x) ↔
      (slotsOf slot period).Hits x ∧ x < length.toNat)
    (hall : ∀ j < n, Passed appSlots (freqMask freq) length (walk slot period j)) (hafter : ∀ i : Fin appSlotsLength,
      ((∃ j < n, (walk slot period j).toNat = i) → after i = appSlots i ||| freqMask freq) ∧
        ((¬∃ j < n, (walk slot period j).toNat = i) → after i = appSlots i)) :
    Marks appSlots after slot period length freq.toNat where
  marked := by
    intro x hx
    obtain ⟨j, hj, rfl⟩ := (hwalk x).mpr hx
    obtain ⟨⟨-, hin⟩, hclear⟩ := hall j hj
    refine ⟨hin, ?_, ?_⟩
    · by_contra hbit
      rw [Bool.not_eq_false, ← and_freqMask_ne_zero_iff hfreq] at hbit
      exact hclear ⟨hin, hbit⟩
    · rw [(hafter ⟨_, hin⟩).1 ⟨j, hj, rfl⟩, testBit_or_freqMask hfreq, decide_eq_true rfl, Bool.or_true]
  frame := by
    intro i bit hother
    by_cases hi : ∃ j < n, (walk slot period j).toNat = i
    · have hne : freq.toNat ≠ bit := fun h => hother ⟨h.symm, (hwalk i).mp hi⟩
      rw [(hafter i).1 hi, testBit_or_freqMask hfreq, decide_eq_false hne, Bool.or_false]
    · rw [(hafter i).2 hi]

theorem not_marks_of_wrap (hfreq : freq.toNat < 16) {n : Nat} (hlt : slot < length) (hperiod : 0 < period.toNat)
    (hexit : UInt16.size ≤ (slotsOf slot period).exit length.toNat)
    (hall : ∀ j < n, Passed appSlots (freqMask freq) length (walk slot period j))
    (hend : ¬walk slot period n < length) (hafter : ∀ i : Fin appSlotsLength,
      ((∃ j < n, (walk slot period j).toNat = i) → after i = appSlots i ||| freqMask freq) ∧
        ((¬∃ j < n, (walk slot period j).toNat = i) → after i = appSlots i)) :
    ¬Marks appSlots after slot period length freq.toNat := by
  have hsize : UInt16.size = 65536 := rfl
  have hlength := length.toNat_lt
  have hperiod' := period.toNat_lt
  have hstart : (slotsOf slot period).start < length.toNat := UInt16.lt_iff_toNat_lt.mp hlt
  have hexit' := exit_lt (a := slotsOf slot period) hperiod hstart
  have hpos := (place_lt_iff (a := slotsOf slot period) hperiod _ 0).mp (by rwa [place_zero])
  obtain ⟨k, hk⟩ := Nat.exists_eq_add_one.mpr hpos
  rw [exit, hk] at hexit hexit'
  -- the last slot before the slot numbers leave 16 bits, and the one after it
  have hbelow : ∀ j ≤ k, (walk slot period j).toNat = (slotsOf slot period).place j ∧
      walk slot period j < length := by
    intro j hj
    have hsteps : j < (slotsOf slot period).steps length.toNat := by omega
    have hplace := (place_lt_iff (a := slotsOf slot period) hperiod _ j).mpr hsteps
    have hwalk := toNat_walk (k := j) (hplace.trans hlength)
    exact ⟨hwalk, UInt16.lt_iff_toNat_lt.mpr (by rwa [hwalk])⟩
  have hwrapped : (walk slot period (k + 1)).toNat = (slotsOf slot period).place (k + 1) - 65536 := by
    rw [walk, UInt16.toNat_ofNat']
    change _ < _ + period.toNat at hexit'
    omega
  have hwrapped_lt : walk slot period (k + 1) < length := by
    rw [UInt16.lt_iff_toNat_lt, hwrapped]
    change _ < _ + period.toNat at hexit'
    omega
  have hn : k + 1 < n := by
    by_contra hle
    rcases Nat.lt_or_ge k n with hlt' | hge
    · obtain rfl : n = k + 1 := by omega
      exact hend hwrapped_lt
    · exact hend (hbelow n hge).2
  obtain ⟨⟨-, hin⟩, hclear⟩ := hall (k + 1) hn
  obtain ⟨⟨-, hlast⟩, -⟩ := hall k (by omega)
  rw [(hbelow k le_rfl).1] at hlast
  intro hmarks
  -- the wrapped slot is none of the period: it would be a whole number of periods before
  have hother : ¬(slotsOf slot period).Hits (walk slot period (k + 1)).toNat := by
    rintro ⟨j, hj⟩
    rw [hwrapped] at hj
    have hmax : appSlotsLength = 3000 := rfl
    have hperiodic : (slotsOf slot period).period = period.toNat := rfl
    rw [place_succ] at hj hexit
    have hj_le : j ≤ k := by
      by_contra hlt'
      have hmul := Nat.mul_le_mul_right period.toNat (Nat.lt_of_not_le hlt')
      simp only [place, hperiodic, Nat.succ_mul] at hj hexit hmul
      omega
    obtain ⟨d, rfl⟩ := Nat.exists_eq_add_of_le hj_le
    simp only [place, hperiodic, Nat.add_mul] at hj hexit hlast
    rcases d with _ | d
    · omega
    · rw [Nat.succ_mul] at hj hexit hlast
      omega
  have hbit := hmarks.frame ⟨_, hin⟩ freq.toNat fun h => hother h.2.1
  rw [(hafter ⟨_, hin⟩).1 ⟨k + 1, hn, rfl⟩, testBit_or_freqMask hfreq, decide_eq_true rfl, Bool.or_true] at hbit
  exact hclear ⟨hin, (and_freqMask_ne_zero_iff hfreq _).mpr hbit.symm⟩

def Blocked (appSlots : AppSlots) (mask period length slot : UInt16) : Prop :=
  ∃ k, (∀ j < k + 1, Inside length (walk slot period j)) ∧ Occupied appSlots mask (walk slot period k)

theorem walk_mod (slot period : UInt16) (k : Nat) : walk slot period (k % slotNumbers) = walk slot period k := by
  have hmod : (slotsOf slot period).place (k % slotNumbers) ≡ (slotsOf slot period).place k [MOD 2 ^ 16] :=
    ((Nat.mod_modEq k _).mul_right _).add_left _
  apply UInt16.toNat_inj.mp
  rw [walk, walk, UInt16.toNat_ofNat', UInt16.toNat_ofNat']
  exact hmod

theorem allClear_eq_false_iff_blocked {mask : UInt16} :
    allClear appSlots mask period length slotNumbers slot = some false ↔
      Blocked appSlots mask period length slot := by
  rw [allClear_eq_false_iff]
  constructor
  · exact fun ⟨k, _, hall, hocc⟩ => ⟨k, hall, hocc⟩
  · rintro ⟨k, hall, hocc⟩
    have hle := Nat.mod_le k slotNumbers
    refine ⟨k % slotNumbers, Nat.mod_lt _ (by decide), fun j hj => hall j (by omega), ?_⟩
    rwa [walk_mod]

theorem allClear_of_ends {mask : UInt16} (hends : Ends slot period length)
    (hopen : ¬Blocked appSlots mask period length slot) :
    allClear appSlots mask period length slotNumbers slot = some true := by
  rw [allClear_eq_true_iff]
  by_cases hlt : slot < length
  · obtain ⟨hperiod, hexit, hin⟩ := hends hlt
    have hsteps := steps_le (a := slotsOf slot period) hperiod length.toNat
    have hlength := length.toNat_lt
    have hinside : ∀ j < (slotsOf slot period).steps length.toNat,
        Inside length (walk slot period j) := fun j hj =>
      ⟨walk_lt hperiod hexit hj, hin _ ((exists_walk_iff hperiod hexit).mp ⟨j, hj, rfl⟩)⟩
    refine ⟨_, ?_, fun j hj => ⟨hinside j hj, ?_⟩, walk_exit_not_lt hperiod hexit⟩
    · change _ < 65536
      omega
    · exact fun hocc => hopen ⟨j, fun j' hj' => hinside j' (by omega), hocc⟩
  · refine ⟨0, by decide, fun j hj => absurd hj (Nat.not_lt_zero j), ?_⟩
    rwa [walk_zero]

theorem reserveFreq_of_open (hopen : ¬Blocked appSlots (freqMask freq) period length slot) :
    reserveFreq appSlots slot freq period length = none ∨
      ∃ after, reserveFreq appSlots slot freq period length = some (some after) := by
  unfold reserveFreq
  by_cases hshift : freq < 32
  · rw [if_pos hshift]
    rcases hclear : allClear appSlots (freqMask freq) period length slotNumbers slot with _ | ⟨_ | _⟩
    · exact .inl rfl
    · exact absurd (allClear_eq_false_iff_blocked.mp hclear) hopen
    · obtain ⟨n, hn, hall, hend⟩ := allClear_eq_true_iff.mp hclear
      obtain ⟨after, hafter, -⟩ := exists_markSlots (freqMask freq) appSlots hn
        (fun j hj => (hall j hj).1) hend
      refine .inr ⟨after, ?_⟩
      simp only [bind_eq_bind, bind_some, if_true, hafter]
  · exact .inl (if_neg hshift)

theorem reserveFreq_of_blocked (hblocked : Blocked appSlots (freqMask freq) period length slot) :
    reserveFreq appSlots slot freq period length = some none := by
  have hfreq : freq.toNat < 16 := by
    obtain ⟨k, -, hocc⟩ := hblocked
    exact lt_of_occupied hocc
  have hshift : freq < 32 := UInt8.lt_iff_toNat_lt.mpr (hfreq.trans (by decide))
  rw [reserveFreq, if_pos hshift, allClear_eq_false_iff_blocked.mpr hblocked]
  rfl

theorem exists_walk_of_reserveFreq (h : reserveFreq appSlots slot freq period length = some (some after)) :
    freq < 32 ∧ ∃ n < slotNumbers, (∀ j < n, Passed appSlots (freqMask freq) length (walk slot period j)) ∧
      ¬walk slot period n < length ∧
      ∀ i : Fin appSlotsLength, ((∃ j < n, (walk slot period j).toNat = i) → after i = appSlots i ||| freqMask freq) ∧
        ((¬∃ j < n, (walk slot period j).toNat = i) → after i = appSlots i) := by
  unfold reserveFreq at h
  by_cases hshift : freq < 32
  · rw [if_pos hshift] at h
    rcases hclear : allClear appSlots (freqMask freq) period length slotNumbers slot with _ | ⟨_ | _⟩
    · rw [hclear] at h
      cases h
    · rw [hclear] at h
      cases h
    · obtain ⟨n, hn, hall, hend⟩ := allClear_eq_true_iff.mp hclear
      obtain ⟨marked, hmarked, hspec⟩ := exists_markSlots (freqMask freq) appSlots hn
        (fun j hj => (hall j hj).1) hend
      rw [hclear] at h
      simp only [bind_eq_bind, bind_some, if_true, hmarked, Option.some.injEq] at h
      exact ⟨hshift, n, hn, hall, hend, h ▸ hspec⟩
  · rw [if_neg hshift] at h
    cases h

theorem marks_iff_ends (hfreq : freq.toNat < 16)
    (h : reserveFreq appSlots slot freq period length = some (some after)) :
    Marks appSlots after slot period length freq.toNat ↔ Ends slot period length := by
  obtain ⟨-, n, -, hall, hend, hafter⟩ := exists_walk_of_reserveFreq h
  have hinside : ∀ j < n, Inside length (walk slot period j) := fun j hj => (hall j hj).1
  constructor
  · intro hmarks hlt
    have hperiod : 0 < period.toNat := by
      by_contra hzero
      have hstay : walk slot period n = slot := by
        rw [walk, place]
        change UInt16.ofNat (slot.toNat + n * period.toNat) = slot
        rw [Nat.eq_zero_of_not_pos hzero, Nat.mul_zero, Nat.add_zero, UInt16.ofNat_toNat]
      rw [hstay] at hend
      exact hend hlt
    refine ⟨hperiod, ?_, fun x hx => ?_⟩
    · by_contra hexit
      exact not_marks_of_wrap hfreq hlt hperiod (Nat.le_of_not_lt hexit) hall hend hafter hmarks
    · obtain ⟨hin, -⟩ := hmarks.marked x hx
      exact hin
  · intro hends
    refine marks_of_walk hfreq (fun x => ?_) hall hafter
    by_cases hlt : slot < length
    · obtain ⟨hperiod, hexit, -⟩ := hends hlt
      rw [eq_steps_of_passed hperiod hexit hinside hend]
      exact exists_walk_iff hperiod hexit
    · have hzero : n = 0 := by
        by_contra hne
        have hfirst := (hinside 0 (Nat.pos_of_ne_zero hne)).1
        rw [walk_zero] at hfirst
        exact hlt hfirst
      subst hzero
      constructor
      · rintro ⟨j, hj, -⟩
        exact absurd hj (Nat.not_lt_zero j)
      · rintro ⟨hhits, hbelow⟩
        have hle : slot.toNat ≤ x := (hits_iff.mp hhits).1
        rw [UInt16.lt_iff_toNat_lt] at hlt
        omega

end Accepted

/-! ## The search -/

section Search

variable {appSlots : AppSlots} {period : UInt16} {sourceDevice destinationDevice : Device}
  {length : UInt16} {freqCount : UInt8} {startSlot maxSlotDelay : UInt16}

abbrev Offer := Nat × UInt8

def offers (freqs : List UInt8) : Nat → Nat → List Offer
  | maxDelay + 2, currSlot =>
    freqs.map (rollover currSlot, ·) ++ offers freqs maxDelay (rollover currSlot + 2)
  | _, _ => []

def Refused (appSlots : AppSlots) (period : UInt16) (sourceDevice destinationDevice : Device)
    (length : UInt16) (offer : Offer) : Prop :=
  isFreeForBoth period sourceDevice destinationDevice length (UInt16.ofNat offer.1) = some true →
    Blocked appSlots (freqMask offer.2) period length (UInt16.ofNat offer.1)

/-- The offer can be reserved exactly: a slot of the table, a frequency of the word, and a walk that ends in time. -/
structure Reservable (period length : UInt16) (offer : Offer) : Prop where
  slot_lt : offer.1 < appSlotsLength
  freq_lt : offer.2.toNat < 16
  ends : Ends (UInt16.ofNat offer.1) period length

def Proper (appSlots : AppSlots) (period length startSlot maxSlotDelay : UInt16)
    (outcome : Option Reservation) : Prop :=
  ∃ result, outcome = some result ∧ (result.slotFreq = invalidFreeSlot ∧ result.appSlots = appSlots ∨
      Reserves appSlots period length startSlot maxSlotDelay result)

theorem isSome_isFreeSlot (period length slot : UInt16) (device : Device) :
    (isFreeSlot slot period device length).isSome := by
  unfold isFreeSlot
  induction device.appLinks with
  | nil => rfl
  | cons link links ih =>
    obtain ⟨overlaps, hoverlaps⟩ := isSome_iff_exists.mp
      (isSome_isOverlapping slot period link.schedule.offset (device.getLinkPeriod link) length)
    simp only [overlapsNone, hoverlaps, bind_eq_bind, bind_some]
    cases overlaps
    · exact ih
    · rfl

theorem isSome_isFreeForBoth (period : UInt16) (sourceDevice destinationDevice : Device) (length slot : UInt16) :
    (isFreeForBoth period sourceDevice destinationDevice length slot).isSome := by
  obtain ⟨free, hfree⟩ := isSome_iff_exists.mp
    (isSome_isFreeSlot period length slot sourceDevice)
  simp only [isFreeForBoth, hfree, bind_eq_bind, bind_some]
  cases free
  · rfl
  · by_cases hbackbone : destinationDevice.isBackbone = true
    · simp only [if_true, hbackbone]
      rfl
    · simp only [if_true, if_neg hbackbone]
      exact isSome_isFreeSlot _ _ slot destinationDevice

structure Reached (startSlot maxSlotDelay : UInt16) (slot : Nat) : Prop where
  lt_size : slot < 2 ^ 16
  even : Even slot
  delay : ∃ k, 2 * (k + 1) ≤ maxSlotDelay.toNat ∧
    slot % appSlotsLength = (startSlot.toNat / 2 * 2 + 2 * k) % appSlotsLength

variable {slot maxDelay currSlot : Nat} {freq : UInt8}

theorem Reached.within_iff (h : Reached startSlot maxSlotDelay slot) :
    Within startSlot maxSlotDelay (UInt16.ofNat slot) ↔ slot < appSlotsLength := by
  rw [Within, UInt16.toNat_ofNat_of_lt' h.lt_size]
  constructor
  · rintro ⟨k, -, hslot⟩
    rw [hslot]
    exact Nat.mod_lt _ (by decide)
  · intro hlt
    obtain ⟨k, hk, hslot⟩ := h.delay
    rw [Nat.mod_eq_of_lt hlt] at hslot
    exact ⟨k, hk, hslot⟩

theorem reserves_iff_reservable (h : Reached startSlot maxSlotDelay slot) {after : AppSlots} (delay : UInt16)
    (hreserved : reserveFreq appSlots (UInt16.ofNat slot) freq period length = some (some after)) :
    Reserves appSlots period length startSlot maxSlotDelay ⟨slotFreqOf slot freq, delay, after⟩ ↔
      Reservable period length (slot, freq) := by
  obtain ⟨hshift, -⟩ := exists_walk_of_reserveFreq hreserved
  by_cases hfreq : freq.toNat < 16
  · have hslot := getSlot_slotFreqOf h.lt_size hfreq
    have hfreq' := toNat_getFreq_slotFreqOf h.lt_size hfreq
    have hmarks := marks_iff_ends hfreq hreserved
    constructor
    · rintro ⟨-, hwithin, hmarked⟩
      simp only [hslot, hfreq'] at hwithin hmarked
      exact ⟨h.within_iff.mp hwithin, hfreq, hmarks.mp hmarked⟩
    · rintro ⟨hlt, -, hends⟩
      refine ⟨?_, ?_, ?_⟩
      · change Even (getSlot (slotFreqOf slot freq)).toNat
        rw [hslot, UInt16.toNat_ofNat_of_lt' h.lt_size]
        exact h.even
      · change Within _ _ (getSlot (slotFreqOf slot freq))
        rw [hslot]
        exact h.within_iff.mpr hlt
      · change Marks _ _ (getSlot (slotFreqOf slot freq)) _ _ (getFreq (slotFreqOf slot freq)).toNat
        rw [hslot, hfreq']
        exact hmarks.mpr hends
  · refine iff_of_false ?_ fun hreservable => hfreq hreservable.freq_lt
    exact fun hreserves => odd_getSlot_slotFreqOf h.lt_size (Nat.le_of_not_lt hfreq) hshift hreserves.even

theorem exists_reserveFreq (hreservable : Reservable period length (slot, freq))
    (hopen : ¬Blocked appSlots (freqMask freq) period length (UInt16.ofNat slot)) :
    ∃ after, reserveFreq appSlots (UInt16.ofNat slot) freq period length = some (some after) := by
  have hshift : freq < 32 := UInt8.lt_iff_toNat_lt.mpr (hreservable.freq_lt.trans (by decide))
  have hclear := allClear_of_ends hreservable.ends hopen
  obtain ⟨n, hn, hall, hend⟩ := allClear_eq_true_iff.mp hclear
  obtain ⟨after, hafter, -⟩ := exists_markSlots (freqMask freq) appSlots hn
    (fun j hj => (hall j hj).1) hend
  refine ⟨after, ?_⟩
  rw [reserveFreq, if_pos hshift, hclear]
  simp only [bind_eq_bind, bind_some, if_true, hafter]

theorem proper_reserveFirst_iff (h : Reached startSlot maxSlotDelay slot) {delay : UInt16}
    (hfree : isFreeForBoth period sourceDevice destinationDevice length (UInt16.ofNat slot) = some true)
    {rest : List Offer} {next : Option Reservation}
    (hnext : Proper appSlots period length startSlot maxSlotDelay next ↔
      ∀ offer, FirstOpen (Refused appSlots period sourceDevice destinationDevice length) rest offer →
        Reservable period length offer) (freqs : List UInt8) : Proper appSlots period length startSlot maxSlotDelay
        ((reserveFirst appSlots period length (UInt16.ofNat slot) freqs).bind fun
          | some (freq, reserved) => some ⟨slotFreqOf slot freq, delay, reserved⟩
          | none => next) ↔
      ∀ offer, FirstOpen (Refused appSlots period sourceDevice destinationDevice length)
        (freqs.map (slot, ·) ++ rest) offer → Reservable period length offer := by
  induction freqs with
  | nil => exact hnext
  | cons freq freqs ih =>
    rw [List.map_cons, List.cons_append]
    by_cases hblocked : Blocked appSlots (freqMask freq) period length (UInt16.ofNat slot)
    · rw [forall_firstOpen_cons_of_refused fun _ => hblocked, ← ih, reserveFirst, reserveFreq_of_blocked hblocked]
      rfl
    · have hopen : ¬Refused appSlots period sourceDevice destinationDevice length (slot, freq) :=
        fun hrefused => hblocked (hrefused hfree)
      rw [forall_firstOpen_cons_of_open hopen, reserveFirst]
      rcases reserveFreq_of_open hblocked with hnone | ⟨after, hafter⟩
      · rw [hnone]
        refine iff_of_false ?_ fun hreservable => ?_
        · rintro ⟨result, hresult, -⟩
          cases hresult
        · obtain ⟨after, hafter⟩ := exists_reserveFreq hreservable hblocked
          rw [hnone] at hafter
          cases hafter
      · rw [hafter, ← reserves_iff_reservable h delay hafter]
        constructor
        · rintro ⟨result, hresult, hinvalid | hreserves⟩
          · cases hresult
            exact absurd hinvalid.1 (slotFreqOf_ne_invalidFreeSlot h.lt_size)
          · cases hresult
            exact hreserves
        · exact fun hreserves => ⟨_, rfl, .inr hreserves⟩

structure Searching (startSlot maxSlotDelay : UInt16) (maxDelay currSlot : Nat) : Prop where
  lt_size : currSlot < 2 ^ 16
  even : Even currSlot
  delay : ∃ k, 2 * k + maxDelay ≤ maxSlotDelay.toNat ∧
    currSlot % appSlotsLength = (startSlot.toNat / 2 * 2 + 2 * k) % appSlotsLength

theorem rollover_spec (currSlot : Nat) :
    rollover currSlot ≤ currSlot ∧ rollover currSlot % appSlotsLength = currSlot % appSlotsLength ∧
      (appSlotsLength ≤ currSlot → rollover currSlot + appSlotsLength = currSlot) := by
  unfold rollover appSlotsLength
  by_cases h : 3000 ≤ currSlot
  · rw [if_pos h]
    omega
  · rw [if_neg h]
    omega

theorem Searching.reached (h : Searching startSlot maxSlotDelay (maxDelay + 2) currSlot) :
    Reached startSlot maxSlotDelay (rollover currSlot) := by
  have hlength : appSlotsLength = 3000 := rfl
  obtain ⟨hle, hmod, hroll⟩ := rollover_spec currSlot
  obtain ⟨hlt, heven, k, hk, hslot⟩ := h
  rw [Nat.even_iff] at heven
  refine ⟨by omega, Nat.even_iff.mpr ?_, k, by omega, by omega⟩
  rcases Nat.lt_or_ge currSlot appSlotsLength with hsmall | hlarge
  · rwa [rollover, if_neg (Nat.not_le.mpr hsmall)]
  · have hsum := hroll hlarge
    omega

theorem Searching.next (h : Searching startSlot maxSlotDelay (maxDelay + 2) currSlot) :
    Searching startSlot maxSlotDelay maxDelay (rollover currSlot + 2) := by
  have hlength : appSlotsLength = 3000 := rfl
  have heven := Nat.even_iff.mp h.reached.even
  obtain ⟨-, hmod, hroll⟩ := rollover_spec currSlot
  obtain ⟨hlt, -, k, hk, hslot⟩ := h
  refine ⟨?_, Nat.even_iff.mpr (by omega), k + 1, by omega, ?_⟩
  · rcases Nat.lt_or_ge currSlot appSlotsLength with hsmall | hlarge
    · rw [rollover, if_neg (Nat.not_le.mpr hsmall)]
      omega
    · have hsum := hroll hlarge
      omega
  · have hstep : startSlot.toNat / 2 * 2 + 2 * (k + 1) = startSlot.toNat / 2 * 2 + 2 * k + 2 := by omega
    rw [hstep, Nat.add_mod, hmod, hslot, ← Nat.add_mod]

theorem toNat_and_even (slot : UInt16) : (slot &&& 0xFFFE).toNat = slot.toNat / 2 * 2 := by
  have hmask : (0xFFFE : UInt16).toNat = (2 ^ 15 - 1) <<< 1 := rfl
  have hshift : slot.toNat / 2 * 2 = (slot.toNat >>> 1) <<< 1 := by
    rw [Nat.shiftLeft_eq, Nat.shiftRight_eq_div_pow]
  rw [UInt16.toNat_and, hmask, hshift]
  apply Nat.eq_of_testBit_eq
  intro bit
  rw [Nat.testBit_and, Nat.testBit_shiftLeft, Nat.testBit_shiftLeft, Nat.testBit_shiftRight,
    Nat.testBit_two_pow_sub_one]
  by_cases hbit : bit < 16
  · by_cases hpos : 1 ≤ bit
    · have hlow : bit - 1 < 15 := by omega
      rw [decide_eq_true hpos, decide_eq_true hlow, Nat.add_sub_of_le hpos, Bool.and_true, Bool.and_true, Bool.true_and]
    · rw [decide_eq_false hpos, Bool.false_and, Bool.and_false, Bool.false_and]
  · have hzero : slot.toNat.testBit bit = false :=
      Nat.testBit_lt_two_pow (slot.toNat_lt.trans_le (Nat.pow_le_pow_right Nat.two_pos (Nat.le_of_not_lt hbit)))
    rw [Nat.add_sub_of_le (by omega : 1 ≤ bit), hzero, Bool.false_and, Bool.and_false]

theorem searching_start (startSlot maxSlotDelay : UInt16) :
    Searching startSlot maxSlotDelay maxSlotDelay.toNat (startSlot &&& 0xFFFE).toNat := by
  have hmask := toNat_and_even startSlot
  have hlt := startSlot.toNat_lt
  refine ⟨by omega, ?_, 0, by omega, ?_⟩
  · rw [hmask]
    exact even_two.mul_left _
  · rw [hmask, Nat.mul_zero, Nat.add_zero]

theorem proper_searchSlots_iff (h : Searching startSlot maxSlotDelay maxDelay currSlot) :
    Proper appSlots period length startSlot maxSlotDelay
        (searchSlots appSlots period sourceDevice destinationDevice length freqCount maxSlotDelay
          maxDelay currSlot) ↔
      ∀ offer, FirstOpen (Refused appSlots period sourceDevice destinationDevice length)
        (offers (frequencies destinationDevice freqCount) maxDelay currSlot) offer →
          Reservable period length offer := by
  induction maxDelay using Nat.twoStepInduction generalizing currSlot with
  | zero => exact iff_of_true ⟨_, rfl, .inl ⟨rfl, rfl⟩⟩ forall_firstOpen_nil
  | one => exact iff_of_true ⟨_, rfl, .inl ⟨rfl, rfl⟩⟩ forall_firstOpen_nil
  | more maxDelay ih _ =>
    have hnext := ih h.next
    rw [offers, searchSlots]
    obtain ⟨free, hfree⟩ := isSome_iff_exists.mp
      (isSome_isFreeForBoth period sourceDevice destinationDevice length
        (UInt16.ofNat (rollover currSlot)))
    simp only [hfree, bind_eq_bind, bind_some]
    cases free
    · have hall : ∀ offer ∈ (frequencies destinationDevice freqCount).map (rollover currSlot, ·),
          Refused appSlots period sourceDevice destinationDevice length offer := by
        intro offer hoffer htrue
        obtain ⟨freq, -, rfl⟩ := List.mem_map.mp hoffer
        rw [hfree] at htrue
        cases htrue
      rw [forall_firstOpen_append_of_refused hall, ← hnext]
      rfl
    · exact proper_reserveFirst_iff h.reached hfree hnext _

/-- A reservation is exact, or leaves the table alone, exactly if the first offer that is not refused can be reserved. -/
theorem reserveFreeSlot_proper_iff (appSlots : AppSlots) (period : UInt16) (sourceDevice destinationDevice : Device)
    (length : UInt16) (freqCount : UInt8) (startSlot maxSlotDelay : UInt16) :
    Proper appSlots period length startSlot maxSlotDelay
        (reserveFreeSlot appSlots period sourceDevice destinationDevice length freqCount startSlot
          maxSlotDelay) ↔
      ∀ offer, FirstOpen (Refused appSlots period sourceDevice destinationDevice length)
        (offers (frequencies destinationDevice freqCount) maxSlotDelay.toNat (startSlot &&& 0xFFFE).toNat) offer →
          Reservable period length offer :=
  proper_searchSlots_iff (searching_start startSlot maxSlotDelay)

/-- With the period 65535 the walk comes back below its start: besides slot 2, slots 1 and 0 are marked. -/
theorem reserveFreeSlot_marks_wrapped_slots : ¬Proper (fun _ => 0) 65535 3000 2 2
      (reserveFreeSlot (fun _ => 0) 65535 ⟨false, [], [], []⟩ ⟨false, [], [], []⟩ 3000 2 2 2) := by
  rintro ⟨result, hresult, hcase⟩
  have hslot : (reserveFreeSlot (fun _ => 0) 65535 ⟨false, [], [], []⟩ ⟨false, [], [], []⟩ 3000 2 2 2).map
      (fun result => (result.slotFreq, result.appSlots ⟨1, by decide⟩)) = some (0x21, 2) := by
    decide
  rw [hresult, map_some, Option.some.injEq, Prod.mk.injEq] at hslot
  rcases hcase with ⟨hinvalid, -⟩ | hreserves
  · rw [hslot.1] at hinvalid
    exact absurd hinvalid (by decide)
  · have hframe := hreserves.marks.frame ⟨1, by decide⟩ 1
    rw [hslot.1, hslot.2] at hframe
    exact absurd (hframe (by decide)) (by decide)

end Search

end Isa100Gateway.AppAllocation
