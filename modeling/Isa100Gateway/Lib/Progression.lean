import Mathlib.Data.Nat.ModEq

/-!
# Arithmetic progressions below a bound

A progression starts at a place and comes back every `period`. Two progressions meet below a length if they have a place there in common. The steps of a progression are walked up to the first one that is not below the length, its exit.
-/

structure Progression where
  start : Nat
  period : Nat

namespace Progression

variable {a b : Progression} {length x : Nat}

def place (a : Progression) (k : Nat) : Nat := a.start + k * a.period

def Hits (a : Progression) (x : Nat) : Prop := ∃ k, x = a.place k

def Meet (a b : Progression) (length : Nat) : Prop := ∃ x < length, a.Hits x ∧ b.Hits x

def tail (a : Progression) : Progression := { a with start := a.start + a.period }

@[simp] theorem place_zero (a : Progression) : a.place 0 = a.start := by
  rw [place, Nat.zero_mul, Nat.add_zero]

theorem place_succ (a : Progression) (k : Nat) : a.place (k + 1) = a.place k + a.period := by
  rw [place, place, Nat.succ_mul, Nat.add_assoc]

theorem place_tail (a : Progression) (k : Nat) : a.tail.place k = a.place (k + 1) := by
  rw [place_succ]
  exact Nat.add_right_comm ..

theorem start_le_place (a : Progression) (k : Nat) : a.start ≤ a.place k := Nat.le_add_right ..

theorem hits_place (a : Progression) (k : Nat) : a.Hits (a.place k) := ⟨k, rfl⟩

theorem hits_start (a : Progression) : a.Hits a.start := ⟨0, a.place_zero.symm⟩

theorem hits_iff : a.Hits x ↔ a.start ≤ x ∧ a.period ∣ x - a.start := by
  constructor
  · rintro ⟨k, rfl⟩
    refine ⟨a.start_le_place k, k, ?_⟩
    rw [place, Nat.add_sub_cancel_left, Nat.mul_comm]
  · rintro ⟨hle, k, hk⟩
    refine ⟨k, ?_⟩
    rw [place, Nat.mul_comm, ← hk, Nat.add_sub_of_le hle]

instance : Decidable (a.Hits x) := decidable_of_iff _ hits_iff.symm

theorem meet_comm : a.Meet b length ↔ b.Meet a length := by
  constructor <;> exact fun ⟨x, hx, h, h'⟩ => ⟨x, hx, h', h⟩

theorem meet_of_start_eq (ha : a.start < length) (h : a.start = b.start) : a.Meet b length :=
  ⟨a.start, ha, a.hits_start, h ▸ b.hits_start⟩

theorem meet_iff_of_le (h : a.start ≤ b.start) :
    a.Meet b length ↔ ∃ k, b.place k < length ∧ a.period ∣ b.place k - a.start := by
  constructor
  · rintro ⟨_, hx, ha, k, rfl⟩
    exact ⟨k, hx, (hits_iff.mp ha).2⟩
  · rintro ⟨k, hk, hdvd⟩
    exact ⟨b.place k, hk, hits_iff.mpr ⟨h.trans (b.start_le_place k), hdvd⟩, b.hits_place k⟩

theorem meet_iff_of_period_eq (ha : a.start < length) (hb : b.start < length) (h : a.period = b.period) :
    a.Meet b length ↔ a.start ≡ b.start [MOD a.period] := by
  have hone : ∀ {a b : Progression}, a.start < length → b.start < length → a.period = b.period →
      a.start ≤ b.start → (a.Meet b length ↔ a.start ≡ b.start [MOD a.period]) := by
    intro a b ha hb h hle
    rw [meet_iff_of_le hle, Nat.modEq_iff_dvd' hle]
    have hshift : ∀ k, a.period ∣ b.place k - a.start ↔ a.period ∣ b.start - a.start := by
      intro k
      have hsum : b.place k - a.start = (b.start - a.start) + k * a.period := by
        rw [place, h]
        omega
      rw [hsum]
      exact (Nat.dvd_add_iff_left (Nat.dvd_mul_left _ _)).symm
    constructor
    · rintro ⟨k, -, hdvd⟩
      exact (hshift k).mp hdvd
    · intro hdvd
      exact ⟨0, by rwa [place_zero], (hshift 0).mpr hdvd⟩
  rcases Nat.le_total a.start b.start with hle | hle
  · exact hone ha hb h hle
  · rw [meet_comm, hone hb ha h.symm hle, h]
    exact Nat.ModEq.comm

def since (a : Progression) (origin : Nat) : Progression := { a with start := a.start - origin }

theorem place_since {origin : Nat} (h : origin ≤ a.start) (k : Nat) :
    (a.since origin).place k = a.place k - origin := by
  change a.start - origin + k * a.period = a.start + k * a.period - origin
  omega

def Divides (n : Nat) (a : Progression) (length : Nat) : Prop := ∃ k, a.place k < length ∧ n ∣ a.place k

theorem divides_cons {n : Nat} (h : ¬n ∣ a.start) : Divides n a length ↔ Divides n a.tail length := by
  constructor
  · rintro ⟨_ | k, hlt, hdvd⟩
    · rw [a.place_zero] at hdvd
      exact absurd hdvd h
    · exact ⟨k, by rwa [a.place_tail], by rwa [a.place_tail]⟩
  · rintro ⟨k, hlt, hdvd⟩
    rw [a.place_tail] at hlt hdvd
    exact ⟨k + 1, hlt, hdvd⟩

theorem meet_iff_divides (h : a.start ≤ b.start) :
    a.Meet b length ↔ Divides a.period (b.since a.start) (length - a.start) := by
  rw [meet_iff_of_le h]
  refine exists_congr fun k => ?_
  have hle := h.trans (b.start_le_place k)
  rw [place_since h]
  exact and_congr_left fun _ => by omega

def steps (a : Progression) (length : Nat) : Nat := (length - a.start + (a.period - 1)) / a.period

def exit (a : Progression) (length : Nat) : Nat := a.place (a.steps length)

theorem place_lt_iff (hperiod : 0 < a.period) (length k : Nat) : a.place k < length ↔ k < a.steps length := by
  rw [steps, Nat.lt_iff_add_one_le (n := _ / _), Nat.le_div_iff_mul_le hperiod, Nat.succ_mul, place]
  omega

theorem steps_le (hperiod : 0 < a.period) (length : Nat) : a.steps length ≤ length - a.start := by
  by_contra h
  have hlast := (place_lt_iff hperiod length (length - a.start)).mpr (Nat.lt_of_not_le h)
  have hmul := Nat.le_mul_of_pos_right (length - a.start) hperiod
  rw [place] at hlast
  omega

theorem le_exit (hperiod : 0 < a.period) : length ≤ a.exit length := by
  rw [← Nat.not_lt, exit, place_lt_iff hperiod]
  exact Nat.lt_irrefl _

theorem exit_of_le (hperiod : 0 < a.period) (h : length ≤ a.start) : a.exit length = a.start := by
  have hsteps := steps_le hperiod length
  rw [Nat.sub_eq_zero_of_le h, Nat.le_zero] at hsteps
  rw [exit, hsteps, place_zero]

theorem exit_tail (hperiod : 0 < a.period) (h : a.start < length) : a.tail.exit length = a.exit length := by
  have hall : ∀ k, k < a.tail.steps length ↔ k + 1 < a.steps length := by
    intro k
    rw [← place_lt_iff hperiod, ← place_lt_iff (a := a.tail) hperiod, place_tail]
  have hpos := (place_lt_iff hperiod length 0).mp (by rwa [place_zero])
  have hlast := hall (a.tail.steps length)
  have hbefore := hall (a.tail.steps length - 1)
  have hsteps : a.steps length = a.tail.steps length + 1 := by omega
  rw [exit, exit, hsteps, place_tail]

theorem start_le_exit (a : Progression) (length : Nat) : a.start ≤ a.exit length := a.start_le_place _

theorem exit_lt (hperiod : 0 < a.period) (h : a.start < length) : a.exit length < length + a.period := by
  have hpos := (place_lt_iff hperiod length 0).mp (by rwa [place_zero])
  obtain ⟨k, hk⟩ := Nat.exists_eq_add_one.mpr hpos
  have hlast := (place_lt_iff hperiod length k).mpr (by omega)
  rw [exit, hk, place_succ]
  omega

theorem hits_and_lt_iff (hperiod : 0 < a.period) : a.Hits x ∧ x < length ↔ ∃ k < a.steps length, a.place k = x := by
  constructor
  · rintro ⟨⟨k, rfl⟩, hlt⟩
    exact ⟨k, (place_lt_iff hperiod length k).mp hlt, rfl⟩
  · rintro ⟨k, hk, rfl⟩
    exact ⟨a.hits_place k, (place_lt_iff hperiod length k).mpr hk⟩

end Progression
