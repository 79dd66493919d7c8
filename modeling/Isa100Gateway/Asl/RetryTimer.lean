import Isa100Gateway.Asl.ContractRules
import Mathlib.Data.Nat.Dist

/-!
# The retry timer

The round-trip estimator of `ASLDE_computeTXtimeout` against the same estimator in unbounded numbers: which samples it can take without an overflow, between which bounds its average stays, and what the retry timer comes to.
-/

namespace Isa100Gateway

open Machine

def smooth (n average sample : Nat) : Nat := (n - 1) * average / n + sample

section Averages

variable {n average sample bound : Nat}

theorem share_mul (hn : 0 < n) (bound : Nat) : (n - 1) * (n * bound) / n = (n - 1) * bound := by
  rw [Nat.mul_left_comm]
  exact Nat.mul_div_cancel_left _ hn

theorem add_share (hn : 0 < n) (bound : Nat) : (n - 1) * bound + bound = n * bound := by
  rw [← Nat.succ_mul]
  congr 1
  omega

theorem smooth_le (hn : 0 < n) (haverage : average ≤ n * bound) (hsample : sample ≤ bound) :
    smooth n average sample ≤ n * bound := by
  calc smooth n average sample
      ≤ (n - 1) * (n * bound) / n + bound := by
        apply Nat.add_le_add _ hsample
        exact Nat.div_le_div_right (Nat.mul_le_mul_left _ haverage)
    _ = (n - 1) * bound + bound := by rw [share_mul hn]
    _ = n * bound := add_share hn bound

theorem le_smooth (hn : 0 < n) (haverage : n * bound ≤ average) (hsample : bound ≤ sample) :
    n * bound ≤ smooth n average sample := by
  calc n * bound
      = (n - 1) * bound + bound := (add_share hn bound).symm
    _ = (n - 1) * (n * bound) / n + bound := by rw [share_mul hn]
    _ ≤ smooth n average sample := by
        apply Nat.add_le_add _ hsample
        exact Nat.div_le_div_right (Nat.mul_le_mul_left _ haverage)

end Averages

structure Estimate where
  srtt : Nat
  rttv : Nat

def Estimate.deviation (e : Estimate) (rtt : Nat) : Nat := Nat.dist (8 * rtt) e.srtt

def Estimate.sample (e : Estimate) (rtt : Nat) : Estimate :=
  if e.srtt = 0 then ⟨8 * rtt, 4 * rtt⟩
  else ⟨smooth 8 e.srtt rtt, smooth 4 e.rttv (e.deviation rtt / 4)⟩

def Estimate.retryTimer (e : Estimate) : Nat :=
  max 1 (min 60 ((e.srtt + max (4 * e.rttv) 1 + 7) / 8))

/-- The estimate, once there is one, lies between these bounds, with the deviation below eight times the upper one. -/
structure Estimate.Within (lo hi : Nat) (e : Estimate) : Prop where
  least : 8 * lo ≤ e.srtt
  greatest : e.srtt ≤ 8 * hi
  variation : e.rttv ≤ 8 * hi

section Bounds

variable {lo hi rtt : Nat} {e : Estimate}

theorem within_first (hlo : lo ≤ rtt) (hhi : rtt ≤ hi) (hnew : e.srtt = 0) : (e.sample rtt).Within lo hi := by
  rw [Estimate.sample, if_pos hnew]
  exact ⟨by simp only; omega, by simp only; omega, by simp only; omega⟩

theorem deviation_div_le (hhi : rtt ≤ hi) (h : e.Within lo hi) : e.deviation rtt / 4 ≤ 2 * hi := by
  have hgreatest := h.greatest
  have hdist : e.deviation rtt ≤ 8 * hi := by
    simp only [Estimate.deviation, Nat.dist]
    omega
  omega

theorem Estimate.Within.sample (hlo : lo ≤ rtt) (hhi : rtt ≤ hi) (h : e.Within lo hi) :
    (e.sample rtt).Within lo hi := by
  by_cases hnew : e.srtt = 0
  · exact within_first hlo hhi hnew
  · rw [Estimate.sample, if_neg hnew]
    constructor
    · exact le_smooth (by decide) h.least hlo
    · exact smooth_le (by decide) h.greatest hhi
    · have hvariation : e.rttv ≤ 4 * (2 * hi) := by
        have := h.variation
        omega
      calc smooth 4 e.rttv (e.deviation rtt / 4)
          ≤ 4 * (2 * hi) := smooth_le (by decide) hvariation (deviation_div_le hhi h)
        _ = 8 * hi := by omega

end Bounds

/-! ## The estimator of the contract -/

def Contract.estimate (c : Contract) : Estimate := ⟨c.srtt.toNat, c.rttv.toNat⟩

def roundTrip (rtt : UInt32) : Nat := max 1 rtt.toNat

/-- No intermediate value of `ASLDE_computeTXtimeout` leaves its C type: `uint32` up to the sum of both parts, then `int`. -/
structure TimerFits (c : Contract) (rtt : UInt32) : Prop where
  scaled : 8 * roundTrip rtt < 2 ^ 32
  smoothed : c.srtt ≠ 0 → 7 * c.srtt.toNat < 2 ^ 32 ∧ 3 * c.rttv.toNat < 2 ^ 32
  variation : 4 * (c.estimate.sample (roundTrip rtt)).rttv < 2 ^ 32
  timer : (c.estimate.sample (roundTrip rtt)).srtt + max (4 * (c.estimate.sample (roundTrip rtt)).rttv) 1 < 2 ^ 31

section Machine

variable {c : Contract} {rtt : UInt32}

theorem toNat_scaled (h : 8 * roundTrip rtt < 2 ^ 32) :
    ((if rtt = 0 then 1 else rtt) <<< 3 : UInt32).toNat = 8 * roundTrip rtt := by
  have hcounted : (if rtt = 0 then 1 else rtt : UInt32).toNat = roundTrip rtt := by
    unfold roundTrip
    by_cases hzero : rtt = 0
    · simp [hzero]
    · have hpos : 0 < rtt.toNat := Nat.pos_of_ne_zero fun h => hzero (UInt32.toNat_inj.mp h)
      rw [if_neg hzero]
      omega
  rw [UInt32.toNat_shiftLeft, hcounted, Nat.shiftLeft_eq]
  rw [Nat.mod_eq_of_lt]
  · simp [Nat.mul_comm]
  · simpa [Nat.mul_comm] using h

theorem toNat_shiftRight_two (x : UInt32) : (x >>> 2).toNat = x.toNat / 4 := by
  simp [UInt32.toNat_shiftRight, Nat.shiftRight_eq_div_pow]

theorem toNat_shiftRight_three (x : UInt32) : (x >>> 3).toNat = x.toNat / 8 := by
  simp [UInt32.toNat_shiftRight, Nat.shiftRight_eq_div_pow]

theorem toNat_distance (a b : UInt32) :
    (if a > b then a - b else b - a : UInt32).toNat = Nat.dist a.toNat b.toNat := by
  unfold Nat.dist
  by_cases h : a > b
  · have hlt := UInt32.lt_iff_toNat_lt.1 h
    rw [if_pos h, UInt32.toNat_sub_of_le _ _ (UInt32.le_of_lt h)]
    omega
  · have hle := UInt32.le_iff_toNat_le.1 (UInt32.not_lt.1 h)
    rw [if_neg h, UInt32.toNat_sub_of_le _ _ (UInt32.not_lt.1 h)]
    omega

end Machine

def Contract.sampled (c : Contract) (scaled : UInt32) : Contract :=
  if c.srtt = 0 then { c with srtt := scaled, rttv := scaled >>> 1 }
  else
    let delta := if scaled > c.srtt then scaled - c.srtt else c.srtt - scaled
    { c with
      rttv := ((3 * c.rttv) >>> 2) + (delta >>> 2)
      srtt := ((7 * c.srtt) >>> 3) + (scaled >>> 3) }

def Contract.eighths (c : Contract) : UInt32 :=
  c.srtt + (if c.rttv <<< 2 ≠ 0 then c.rttv <<< 2 else 1)

def cappedSeconds (eighths : Int32) : Int32 :=
  let rto := (eighths >>> 3) + (if eighths &&& 0x7 > 0 then 1 else 0)
  let rto := if rto < 1 then 1 else rto
  if rto > 60 then 60 else rto

theorem computeTXtimeout_eq (c : Contract) (rtt : UInt32) : computeTXtimeout c rtt =
      { c.sampled ((if rtt = 0 then 1 else rtt) <<< 3) with
        rto := cappedSeconds
          (c.sampled ((if rtt = 0 then 1 else rtt) <<< 3)).eighths.toInt32 } := rfl

theorem cappedSeconds_caps (eighths : Int32) :
    1 ≤ (cappedSeconds eighths).toInt ∧ (cappedSeconds eighths).toInt ≤ 60 := by
  unfold cappedSeconds
  generalize (eighths >>> 3) + (if eighths &&& 0x7 > 0 then 1 else 0) = rto
  by_cases hlow : rto < 1
  · simp [hlow]
  · have hone : (1 : Int) ≤ rto.toInt := Int32.le_iff_toInt_le.1 (Int32.not_lt.1 hlow)
    by_cases hhigh : rto > 60
    · simp [hlow, hhigh]
    · have hsixty : rto.toInt ≤ 60 := Int32.le_iff_toInt_le.1 (Int32.not_lt.1 hhigh)
      simpa [hlow, hhigh] using ⟨hone, hsixty⟩

theorem rto_computeTXtimeout (c : Contract) (rtt : UInt32) :
    1 ≤ (computeTXtimeout c rtt).rto.toInt ∧ (computeTXtimeout c rtt).rto.toInt ≤ 60 := by
  rw [computeTXtimeout_eq]
  exact cappedSeconds_caps _

variable {c : Contract} {x : UInt32}

theorem estimate_sampled {rtt : UInt32} (h : TimerFits c rtt) :
    (c.sampled ((if rtt = 0 then 1 else rtt) <<< 3)).estimate =
      c.estimate.sample (roundTrip rtt) := by
  have hscaled := toNat_scaled h.scaled
  generalize ((if rtt = 0 then 1 else rtt) <<< 3 : UInt32) = scaled at hscaled
  by_cases hnew : c.srtt = 0
  · have hzero : c.estimate.srtt = 0 := by simp [Contract.estimate, hnew]
    rw [Contract.sampled, if_pos hnew, Estimate.sample, if_pos hzero]
    have hhalf : (scaled >>> 1).toNat = scaled.toNat / 2 := by
      simp [UInt32.toNat_shiftRight, Nat.shiftRight_eq_div_pow]
    simp only [Contract.estimate, hhalf, hscaled, Estimate.mk.injEq, true_and]
    omega
  · have hold : c.estimate.srtt ≠ 0 := fun hzero => hnew (UInt32.toNat_inj.mp hzero)
    obtain ⟨hseven, hthree⟩ := h.smoothed hnew
    have hvariation := h.variation
    have htimer := h.timer
    rw [Contract.sampled, if_neg hnew]
    rw [Estimate.sample, if_neg hold] at hvariation htimer ⊢
    have hdelta := toNat_distance scaled c.srtt
    rw [hscaled] at hdelta
    generalize (if scaled > c.srtt then scaled - c.srtt else c.srtt - scaled) = delta at hdelta ⊢
    have hsrtt : ((7 * c.srtt) >>> 3).toNat = 7 * c.srtt.toNat / 8 := by
      rw [toNat_shiftRight_three, UInt32.toNat_mul]
      exact congrArg (· / 8) (Nat.mod_eq_of_lt hseven)
    have hrttv : ((3 * c.rttv) >>> 2).toNat = 3 * c.rttv.toNat / 4 := by
      rw [toNat_shiftRight_two, UInt32.toNat_mul]
      exact congrArg (· / 4) (Nat.mod_eq_of_lt hthree)
    simp only [Contract.estimate, smooth, Estimate.deviation, Nat.reduceSub] at hvariation htimer ⊢
    rw [Estimate.mk.injEq, UInt32.toNat_add, UInt32.toNat_add, hsrtt, hrttv, toNat_shiftRight_two,
      toNat_shiftRight_three, hdelta, hscaled]
    constructor
    · omega
    · omega

theorem toNat_eighths (hvariation : 4 * c.rttv.toNat < 2 ^ 32)
    (htimer : c.srtt.toNat + max (4 * c.rttv.toNat) 1 < 2 ^ 31) :
    c.eighths.toNat = c.srtt.toNat + max (4 * c.rttv.toNat) 1 := by
  have hshift : (c.rttv <<< 2).toNat = 4 * c.rttv.toNat := by
    rw [UInt32.toNat_shiftLeft, Nat.shiftLeft_eq]
    simp only [UInt32.reduceToNat, Nat.reduceMod, Nat.reducePow]
    omega
  have hshown : (if c.rttv <<< 2 ≠ 0 then c.rttv <<< 2 else 1 : UInt32).toNat =
      max (4 * c.rttv.toNat) 1 := by
    by_cases hzero : c.rttv <<< 2 = 0
    · rw [if_neg (not_not.2 hzero)]
      rw [hzero] at hshift
      simp only [UInt32.reduceToNat] at hshift ⊢
      omega
    · have hpos : (c.rttv <<< 2).toNat ≠ 0 := fun h => hzero (UInt32.toNat_inj.mp h)
      rw [if_pos hzero, hshift]
      omega
  rw [Contract.eighths, UInt32.toNat_add, hshown]
  omega

theorem toInt_wholeSeconds (h : x.toNat < 2 ^ 31) : (x.toInt32 >>> 3).toInt = (x.toNat / 8 : Nat) := by
  have hsign := toInt_toInt32 h
  calc (x.toInt32 >>> 3).toInt
      = x.toInt32.toInt >>> (3 : Nat) := by
        change (x.toInt32.toBitVec.sshiftRight' _).toInt = _
        rw [BitVec.sshiftRight', BitVec.toInt_sshiftRight]
        rfl
    _ = (x.toNat / 8 : Nat) := by
        rw [hsign, Int.shiftRight_eq_div_pow]
        rfl

theorem fraction_pos_iff (x : UInt32) : x.toInt32 &&& 0x7 > 0 ↔ x.toNat % 8 ≠ 0 := by
  have hmod : (x &&& 7).toNat = x.toNat % 8 := by
    rw [UInt32.toNat_and]
    exact Nat.and_two_pow_sub_one_eq_mod x.toNat 3
  have hsmall : (x &&& 7).toNat < 2 ^ 31 := by omega
  have hsign : (x.toInt32 &&& 0x7).toInt = ((x &&& 7).toNat : Int) := toInt_toInt32 hsmall
  rw [gt_iff_lt, Int32.lt_iff_toInt_lt, hsign, hmod]
  change (0 : Int) < _ ↔ _
  omega

theorem toInt_roundedSeconds (h : x.toNat < 2 ^ 31) :
    ((x.toInt32 >>> 3) + (if x.toInt32 &&& 0x7 > 0 then 1 else 0)).toInt =
      ((x.toNat + 7) / 8 : Nat) := by
  have hwhole := toInt_wholeSeconds h
  have hup : (if x.toInt32 &&& 0x7 > 0 then 1 else 0 : Int32).toInt =
      if x.toNat % 8 ≠ 0 then 1 else 0 := by
    simp only [fraction_pos_iff]
    split_ifs <;> rfl
  rw [Int32.toInt_add, hwhole, hup, Int.bmod_eq_of_le]
  · split_ifs <;> omega
  · split_ifs <;> omega
  · split_ifs <;> omega

theorem toInt_cappedSeconds (h : x.toNat < 2 ^ 31) :
    (cappedSeconds x.toInt32).toInt = max 1 (min 60 ((x.toNat + 7) / 8) : Nat) := by
  have hrounded := toInt_roundedSeconds h
  unfold cappedSeconds
  generalize (x.toInt32 >>> 3) + (if x.toInt32 &&& 0x7 > 0 then 1 else 0) = rto at hrounded
  by_cases hlow : rto < 1
  · have hlt : rto.toInt < 1 := Int32.lt_iff_toInt_lt.1 hlow
    have hcapped : (if (1 : Int32) > 60 then 60 else 1 : Int32).toInt = 1 := by decide
    simp only [hlow, if_true, hcapped]
    omega
  · have hone : (1 : Int) ≤ rto.toInt := Int32.le_iff_toInt_le.1 (Int32.not_lt.1 hlow)
    by_cases hhigh : rto > 60
    · have hgt : (60 : Int) < rto.toInt := Int32.lt_iff_toInt_lt.1 hhigh
      have hcapped : (60 : Int32).toInt = 60 := by decide
      simp only [hlow, hhigh, if_true, if_false, hcapped]
      omega
    · have hsixty : rto.toInt ≤ 60 := Int32.le_iff_toInt_le.1 (Int32.not_lt.1 hhigh)
      simp only [hlow, hhigh, if_false]
      omega

theorem estimate_computeTXtimeout {rtt : UInt32} (h : TimerFits c rtt) :
    (computeTXtimeout c rtt).estimate = c.estimate.sample (roundTrip rtt) ∧ (computeTXtimeout c rtt).rto.toInt =
        (c.estimate.sample (roundTrip rtt)).retryTimer := by
  have hsampled := estimate_sampled h
  rw [computeTXtimeout_eq]
  generalize c.sampled ((if rtt = 0 then 1 else rtt) <<< 3) = c' at hsampled
  refine ⟨hsampled, ?_⟩
  have hvariation := h.variation
  have htimer := h.timer
  rw [← hsampled] at hvariation htimer ⊢
  have heighths := toNat_eighths hvariation htimer
  rw [toInt_cappedSeconds (heighths ▸ htimer), heighths]
  rfl

/-- The longest round trip, in seconds, that the estimator can take: five times as many eighths for the average and its variation fit an `int`. A request is given up after at most 65536 seconds. -/
def maxRoundTrip : Nat := (2 ^ 31 - 1) / 40

section Samples

variable {c : Contract} {rtt : UInt32} {lo hi : Nat}

section

variable (hlo : lo ≤ roundTrip rtt) (hhi : roundTrip rtt ≤ hi) (hmax : hi ≤ maxRoundTrip)
    (h : c.estimate.srtt = 0 ∨ c.estimate.Within lo hi)
include hlo hhi hmax h

theorem timerFits_of_within : TimerFits c rtt := by
  have hbound : 40 * hi < 2 ^ 31 := by
    calc 40 * hi
        ≤ 40 * maxRoundTrip := Nat.mul_le_mul_left _ hmax
      _ < 2 ^ 31 := by decide
  have hnext : (c.estimate.sample (roundTrip rtt)).Within lo hi := by
    rcases h with hnew | hwithin
    · exact within_first hlo hhi hnew
    · exact hwithin.sample hlo hhi
  have hgreatest := hnext.greatest
  have hvariation := hnext.variation
  constructor
  · omega
  · intro hold
    rcases h with hnew | hwithin
    · have hzero : c.srtt.toNat = (0 : UInt32).toNat := hnew
      exact absurd (UInt32.toNat_inj.mp hzero) hold
    · have hsrtt : c.srtt.toNat ≤ 8 * hi := hwithin.greatest
      have hrttv : c.rttv.toNat ≤ 8 * hi := hwithin.variation
      omega
  · omega
  · omega

theorem within_computeTXtimeout : (computeTXtimeout c rtt).estimate.Within lo hi := by
  rw [(estimate_computeTXtimeout (timerFits_of_within hlo hhi hmax h)).1]
  rcases h with hnew | hwithin
  · exact within_first hlo hhi hnew
  · exact hwithin.sample hlo hhi

end

variable {samples : List UInt32}

theorem within_run (hbounds : ∀ rtt ∈ samples, lo ≤ roundTrip rtt ∧ roundTrip rtt ≤ hi)
    (hmax : hi ≤ maxRoundTrip) (h : c.estimate.Within lo hi) :
    (run computeTXtimeout c samples).estimate.Within lo hi := by
  induction samples generalizing c with
  | nil => exact h
  | cons rtt samples ih =>
    obtain ⟨hlo, hhi⟩ := hbounds rtt List.mem_cons_self
    apply ih fun s hs => hbounds s (List.mem_cons_of_mem rtt hs)
    exact within_computeTXtimeout hlo hhi hmax (Or.inr h)

theorem within_run_new (hne : samples ≠ []) (hbounds : ∀ rtt ∈ samples, lo ≤ roundTrip rtt ∧ roundTrip rtt ≤ hi)
    (hmax : hi ≤ maxRoundTrip) (hnew : c.srtt = 0) : (run computeTXtimeout c samples).estimate.Within lo hi := by
  cases samples with
  | nil => exact absurd rfl hne
  | cons rtt samples =>
    have hzero : c.estimate.srtt = 0 := by simp [Contract.estimate, hnew]
    obtain ⟨hlo, hhi⟩ := hbounds rtt List.mem_cons_self
    apply within_run (fun s hs => hbounds s (List.mem_cons_of_mem rtt hs)) hmax
    exact within_computeTXtimeout hlo hhi hmax (Or.inl hzero)

theorem along_timerFits (hbounds : ∀ rtt ∈ samples, lo ≤ roundTrip rtt ∧ roundTrip rtt ≤ hi)
    (hmax : hi ≤ maxRoundTrip) (h : c.estimate.srtt = 0 ∨ c.estimate.Within lo hi) :
    Along TimerFits computeTXtimeout c samples := by
  induction samples generalizing c with
  | nil => trivial
  | cons rtt samples ih =>
    obtain ⟨hlo, hhi⟩ := hbounds rtt List.mem_cons_self
    refine ⟨timerFits_of_within hlo hhi hmax h, ?_⟩
    apply ih fun s hs => hbounds s (List.mem_cons_of_mem rtt hs)
    exact Or.inr (within_computeTXtimeout hlo hhi hmax h)

theorem rto_run (hne : samples ≠ []) : 1 ≤ (run computeTXtimeout c samples).rto.toInt ∧
      (run computeTXtimeout c samples).rto.toInt ≤ 60 := by
  obtain ⟨before, last, rfl⟩ := List.eq_nil_or_concat samples |>.resolve_left hne
  simpa [run] using rto_computeTXtimeout (before.foldl computeTXtimeout c) last

theorem roundTrip_le (h : rtt.toNat ≤ maxRoundTrip) : roundTrip rtt ≤ maxRoundTrip :=
  max_le (by decide) h

/-- Samples that the estimator can take, each counted as one second at least: the smoothed round trip of a new contract stays between the least and the greatest of them, nothing overflows, and the retry timer stays within its caps. -/
theorem computeTXtimeout_bounds (hnew : c.srtt = 0) (hne : samples ≠ [])
    (hmax : ∀ rtt ∈ samples, rtt.toNat ≤ maxRoundTrip) :
    (∀ lo hi, (∀ rtt ∈ samples, lo ≤ roundTrip rtt ∧ roundTrip rtt ≤ hi) →
      8 * lo ≤ (run computeTXtimeout c samples).srtt.toNat ∧ (run computeTXtimeout c samples).srtt.toNat ≤ 8 * hi) ∧
    Along TimerFits computeTXtimeout c samples ∧ 1 ≤ (run computeTXtimeout c samples).rto.toInt ∧
      (run computeTXtimeout c samples).rto.toInt ≤ 60 := by
  refine ⟨?_, ?_, rto_run hne⟩
  · intro lo hi hbounds
    have hboth : ∀ rtt ∈ samples,
        lo ≤ roundTrip rtt ∧ roundTrip rtt ≤ min hi maxRoundTrip := by
      intro rtt hrtt
      exact ⟨(hbounds rtt hrtt).1, le_min (hbounds rtt hrtt).2 (roundTrip_le (hmax rtt hrtt))⟩
    have hwithin := within_run_new hne hboth (min_le_right _ _) hnew
    refine ⟨hwithin.least, hwithin.greatest.trans ?_⟩
    exact Nat.mul_le_mul_left 8 (min_le_left hi maxRoundTrip)
  · have hbounds : ∀ rtt ∈ samples, 0 ≤ roundTrip rtt ∧ roundTrip rtt ≤ maxRoundTrip :=
      fun rtt hrtt => ⟨Nat.zero_le _, roundTrip_le (hmax rtt hrtt)⟩
    have hzero : c.estimate.srtt = 0 := by simp [Contract.estimate, hnew]
    exact along_timerFits hbounds le_rfl (Or.inl hzero)

end Samples

end Isa100Gateway
