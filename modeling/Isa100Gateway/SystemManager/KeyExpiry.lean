import Isa100Gateway.SystemManager.KeyLifetimes
import Mathlib.Data.Nat.ModEq
import Mathlib.Data.Nat.GCD.Basic

/-!
# When the lifetimes agree

The times of a key are a sum of 32 bits. They are those of the policy sent when the lifetime of the settings is, up to the wrap of its product with the length of an hour, the number of hours that is sent, and when the sum does not wrap.
-/

namespace Isa100Gateway.SystemManager.KeyUtils

theorem expires_iff {x off : UInt32} {b s : Nat} (hoff : off.toNat % 2 = 0) (hs : s % 2 = 0) (hlt : s < 2 ^ 32) :
    ((x + off / 2).toNat = b + s / 2 ∧ (x + off).toNat = b + s) ↔
      off.toNat = s ∧ x.toNat = b ∧ b + s < 2 ^ 32 := by
  have hx := x.toNat_lt
  have ho := off.toNat_lt
  rw [UInt32.toNat_add, UInt32.toNat_add, UInt32.toNat_div]
  change (x.toNat + off.toNat / 2) % 2 ^ 32 = _ ∧ _ ↔ _
  omega

theorem toNat_mul_hour_iff (lifetime : UInt32) {hours : Nat} (h : hours < 2 ^ 16) :
    (lifetime * 3600).toNat = hours * 3600 ↔ lifetime.toNat % 2 ^ 28 = hours := by
  rw [UInt32.toNat_mul]
  change lifetime.toNat * 3600 % 2 ^ 32 = _ ↔ _
  constructor
  · intro hmul
    have hmod : 225 * lifetime.toNat ≡ 225 * hours [MOD 2 ^ 28] := by
      have hwide : lifetime.toNat * 3600 ≡ hours * 3600 [MOD 2 ^ 32] := by
        rw [Nat.ModEq, hmul, Nat.mod_eq_of_lt (by omega)]
      unfold Nat.ModEq at hwide ⊢
      omega
    have hcancel := Nat.ModEq.cancel_left_of_coprime (by decide : Nat.gcd (2 ^ 28) 225 = 1) hmod
    rw [Nat.ModEq, Nat.mod_eq_of_lt (a := hours) (by omega)] at hcancel
    exact hcancel
  · intro hmod
    omega

theorem even_mul_hour (lifetime : UInt32) : (lifetime * 3600).toNat % 2 = 0 := by
  rw [UInt32.toNat_mul]
  change lifetime.toNat * 3600 % 2 ^ 32 % 2 = 0
  omega

def hourStart (currentTAI : UInt32) : Nat := currentTAI.toNat - currentTAI.toNat % 3600

theorem toNat_sub_mod_hour (currentTAI : UInt32) : (currentTAI - currentTAI % 3600).toNat = hourStart currentTAI := by
  have hmod : (currentTAI % 3600).toNat = currentTAI.toNat % 3600 := by
    rw [UInt32.toNat_mod]
    rfl
  rw [UInt32.toNat_sub_of_le, hmod, hourStart]
  rw [UInt32.le_iff_toNat_le, hmod]
  exact Nat.mod_le _ _

theorem toNat_next_hours (currentTAI : UInt32) :
    (currentTAI - currentTAI % 3600 + 3 * 3600).toNat = (hourStart currentTAI + 10800) % 2 ^ 32 := by
  rw [UInt32.toNat_add, toNat_sub_mod_hour]
  rfl

def Hourly (policy : Policy) (keyHardLifetime : UInt32) : Prop :=
  policy.granularity = 2 ∧ policy.keyHardLifetime = keyHardLifetime

variable {policy : Policy}

theorem getGranularityInSeconds_hourly (h : policy.granularity = 2) : getGranularityInSeconds policy = 3600 := by
  rw [getGranularityInSeconds, h]
  rfl

variable {settings : KeySettings}

theorem getOffsetInSeconds_hourly (h : policy.granularity = 2) :
    getOffsetInSeconds settings policy = settings.keysHardLifeTime * 3600 := by
  rw [getOffsetInSeconds, getGranularityInSeconds_hourly h]

theorem sentPolicy_hourly {lifetime : UInt32} (h : Hourly policy lifetime) :
    sentPolicy policy = ⟨policy.notValidBefore.toNat / 3600 * 3600, lifetime.toNat % 2 ^ 16 * 3600⟩ := by
  have hwritten : writtenPolicy policy = (policy.notValidBefore / 3600 &&& 0xFFFFFF, lifetime &&& 0xFFFF) := by
    rw [writtenPolicy, JoinState.granularityMultiplier, h.1, h.2]
    rfl
  have hgranularity : (getGranularityInSeconds policy).toNat = 3600 := by
    rw [getGranularityInSeconds_hourly h.1]
    rfl
  have hbefore : (policy.notValidBefore / 3600 &&& 0xFFFFFF).toNat = policy.notValidBefore.toNat / 3600 := by
    have hlt := policy.notValidBefore.toNat_lt
    rw [UInt32.toNat_and, UInt32.toNat_div]
    change policy.notValidBefore.toNat / 3600 &&& (2 ^ 24 - 1) = _
    rw [Nat.and_two_pow_sub_one_eq_mod, Nat.mod_eq_of_lt (by omega)]
  have hhours : (lifetime &&& 0xFFFF).toNat = lifetime.toNat % 2 ^ 16 := by
    rw [UInt32.toNat_and]
    exact Nat.and_two_pow_sub_one_eq_mod lifetime.toNat 16
  rw [sentPolicy, hwritten, hgranularity, hbefore, hhours]

def Matches (keysHardLifeTime : UInt32) (hours : Nat) : Prop := keysHardLifeTime.toNat % 2 ^ 28 = hours

instance (keysHardLifeTime : UInt32) (hours : Nat) : Decidable (Matches keysHardLifeTime hours) :=
  inferInstanceAs (Decidable (_ = _))

def Ends (start hours : Nat) : Prop := start + hours * 3600 < 2 ^ 32

instance (start hours : Nat) : Decidable (Ends start hours) := inferInstanceAs (Decidable (_ < _))

theorem expires_hours_iff {κ : Type} {h : Handed κ} {x lifetime : UInt32} {hours : Nat} (hhours : hours < 2 ^ 16)
    (hsent : h.sent.hardLifetime = hours * 3600) : h.Expires (x + lifetime * 3600 / 2) (x + lifetime * 3600) ↔
      Matches lifetime hours ∧ x.toNat = h.start ∧ Ends h.start hours := by
  rw [Handed.Expires, hsent, expires_iff (even_mul_hour lifetime) (by omega) (by omega),
    toNat_mul_hour_iff lifetime hhours]
  rfl

theorem compressed_agrees_iff {κ : Type} {key : κ} {x lifetime : UInt32} {policy : CompressedPolicy} :
    (Handed.mk key x (sentCompressed policy)).Expires (x + lifetime * 3600 / 2) (x + lifetime * 3600) ↔
      Matches lifetime policy.keyHardLifetime.toNat ∧ Ends x.toNat policy.keyHardLifetime.toNat := by
  rw [expires_hours_iff policy.keyHardLifetime.toNat_lt rfl]
  constructor
  · exact fun h => ⟨h.1, h.2.2⟩
  · exact fun h => ⟨h.1, rfl, h.2⟩

theorem session_agrees_iff {currentTAI lifetime : UInt32} {securityKey : Key128}
    {source destination : Peer} {keyID index : UInt16} (h : Hourly policy lifetime)
    (hstart : policy.notValidBefore.toNat % 3600 = 0) :
    SessionAgrees ⟨getAsPhySessionKey settings currentTAI securityKey source destination policy keyID index, currentTAI,
        sentPolicy policy⟩ ↔
      Matches settings.keysHardLifeTime (lifetime.toNat % 2 ^ 16) ∧
        Ends (if policy.notValidBefore = 0 then currentTAI.toNat else policy.notValidBefore.toNat)
          (lifetime.toNat % 2 ^ 16) := by
  set handed : Handed PhySessionKey :=
    ⟨getAsPhySessionKey settings currentTAI securityKey source destination policy keyID index, currentTAI,
      sentPolicy policy⟩
  have hbefore : handed.sent.notValidBefore = policy.notValidBefore.toNat := by
    change (sentPolicy policy).notValidBefore = _
    rw [sentPolicy_hourly h]
    exact Nat.div_mul_cancel (Nat.dvd_of_mod_eq_zero hstart)
  have hbegins : handed.start = if policy.notValidBefore = 0 then currentTAI.toNat else
    policy.notValidBefore.toNat := by
    rw [Handed.start, hbefore]
    exact if_congr (by rw [← UInt32.toNat_inj]; rfl) rfl rfl
  have hhard : handed.sent.hardLifetime = lifetime.toNat % 2 ^ 16 * 3600 := by
    change (sentPolicy policy).hardLifetime = _
    rw [sentPolicy_hourly h]
  have hkept : SessionAgrees handed ↔ handed.Expires
      ((if policy.notValidBefore = 0 then currentTAI else policy.notValidBefore) + settings.keysHardLifeTime * 3600 / 2)
      ((if policy.notValidBefore = 0 then currentTAI else policy.notValidBefore) +
        settings.keysHardLifeTime * 3600) := by
    rw [← getOffsetInSeconds_hourly h.1]
    rfl
  rw [hkept, expires_hours_iff (Nat.mod_lt _ (by norm_num)) hhard, ← hbegins]
  constructor
  · exact fun hall => ⟨hall.1, hall.2.2⟩
  · refine fun hall => ⟨hall.1, ?_, hall.2⟩
    rw [hbegins]
    split <;> rfl

theorem next_hours_agrees_iff {κ : Type} (key : κ) (settings : KeySettings) (currentTAI : UInt32) {lifetime : UInt32}
    (h : Hourly policy lifetime) :
    (Handed.mk key currentTAI (sentPolicy { policy with
          notValidBefore := currentTAI - currentTAI % 3600 + 3 * 3600 })).Expires
        (currentTAI - currentTAI % 3600 + 3 * 3600 + settings.keysHardLifeTime * 3600 / 2)
        (currentTAI - currentTAI % 3600 + 3 * 3600 + settings.keysHardLifeTime * 3600) ↔
      Matches settings.keysHardLifeTime (lifetime.toNat % 2 ^ 16) ∧
        Ends (hourStart currentTAI + 10800) (lifetime.toNat % 2 ^ 16) := by
  set begins := currentTAI - currentTAI % 3600 + 3 * 3600 with hdef
  set handed : Handed κ := ⟨key, currentTAI, sentPolicy { policy with notValidBefore := begins }⟩ with hhanded
  have hhourly : Hourly { policy with notValidBefore := begins } lifetime := ⟨h.1, h.2⟩
  have hsent : handed.sent = ⟨begins.toNat / 3600 * 3600, lifetime.toNat % 2 ^ 16 * 3600⟩ := by
    rw [hhanded, sentPolicy_hourly hhourly]
  have hstart : handed.start =
      if begins.toNat / 3600 * 3600 = 0 then currentTAI.toNat else begins.toNat / 3600 * 3600 := by
    rw [Handed.start, hsent]
  have hbegins : begins.toNat = (hourStart currentTAI + 10800) % 2 ^ 32 := toNat_next_hours currentTAI
  have hlt := currentTAI.toNat_lt
  have hhard : handed.sent.hardLifetime = lifetime.toNat % 2 ^ 16 * 3600 := by rw [hsent]
  rw [expires_hours_iff (Nat.mod_lt _ (by norm_num)) hhard, Ends, Ends]
  refine and_congr_right fun _ => ?_
  generalize handed.start = begun at hstart ⊢
  by_cases hwrap : hourStart currentTAI + 10800 < 2 ^ 32
  · rw [Nat.mod_eq_of_lt hwrap] at hbegins
    unfold hourStart at hbegins ⊢
    split at hstart <;> omega
  · -- a start that wraps is no whole hour any more, and none near the time of creation
    unfold hourStart at hbegins hwrap ⊢
    split at hstart <;> omega

end Isa100Gateway.SystemManager.KeyUtils
