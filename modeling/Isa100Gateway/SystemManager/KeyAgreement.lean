import Isa100Gateway.SystemManager.KeyExpiry

/-!
# Agreement over the runs of the manager

Which keys agree with the policies sent is decided where each of them is made. The lifetime of a subnet key that a joining device gets is the remaining one of the backbone's key, lengthened until it ends later.
-/

namespace Isa100Gateway.SystemManager.KeyUtils

def endsAt (currentTAI hours : Nat) : Nat := (currentTAI + hours % 2 ^ 16 * 3600) % 2 ^ 32

theorem toNat_endsAt (currentTAI : UInt32) (hours : UInt16) :
    (currentTAI + hours.toUInt32 * 3600).toNat = endsAt currentTAI.toNat hours.toNat := by
  have hlt := hours.toNat_lt
  rw [UInt32.toNat_add, UInt32.toNat_mul, UInt16.toNat_toUInt32, endsAt, Nat.mod_eq_of_lt (a := hours.toNat) hlt]
  change (currentTAI.toNat + hours.toNat * 3600 % 2 ^ 32) % 2 ^ 32 = _
  rw [Nat.mod_eq_of_lt (a := hours.toNat * 3600) (by omega)]

variable {currentTAI hardLifeTime : UInt32}

theorem lengthenLifetime_spec {fuel : Nat} {first hours : UInt16}
    (h : lengthenLifetime currentTAI hardLifeTime fuel first = some hours) :
    ∃ k < fuel, hours.toNat = (first.toNat + k) % 2 ^ 16 ∧
      hardLifeTime.toNat < endsAt currentTAI.toNat (first.toNat + k) ∧
      ∀ j < k, endsAt currentTAI.toNat (first.toNat + j) ≤ hardLifeTime.toNat := by
  induction fuel generalizing first with
  | zero => cases h
  | succ fuel ih =>
    rw [lengthenLifetime] at h
    split at h
    next hcontinues =>
      rw [UInt32.le_iff_toNat_le, toNat_endsAt] at hcontinues
      obtain ⟨k, hk, hhours, hends, hbefore⟩ := ih h
      have hnext : ∀ j, endsAt currentTAI.toNat ((first + 1).toNat + j) =
        endsAt currentTAI.toNat (first.toNat + (j + 1)) := by
        intro j
        rw [endsAt, endsAt, UInt16.toNat_add]
        change (_ + (((first.toNat + 1) % 2 ^ 16 + j) % 2 ^ 16) * 3600) % _ = _
        rw [Nat.mod_add_mod, Nat.add_assoc, Nat.add_comm 1 j]
      refine ⟨k + 1, Nat.succ_lt_succ hk, ?_, hnext k ▸ hends, ?_⟩
      · rw [hhours, UInt16.toNat_add]
        change ((first.toNat + 1) % 2 ^ 16 + k) % 2 ^ 16 = _
        rw [Nat.mod_add_mod, Nat.add_assoc, Nat.add_comm 1 k]
      · intro j hj
        cases j with
        | zero => exact hcontinues
        | succ j => exact hnext j ▸ hbefore j (Nat.lt_of_succ_lt_succ hj)
    next hstops =>
      obtain rfl := Option.some.inj h
      rw [UInt32.le_iff_toNat_le, toNat_endsAt, Nat.not_le] at hstops
      exact ⟨0, Nat.zero_lt_succ fuel, (Nat.mod_eq_of_lt first.toNat_lt).symm, hstops, fun j hj =>
        absurd hj j.not_lt_zero⟩

/-- Where the remaining lifetime of the backbone's key, from now, ends before any wrap: it is counted in started hours, and for an expired key it is what is left of a wrapped difference. -/
def RemainderEnds (currentTAI hardLifeTime : Nat) : Prop :=
  if currentTAI ≤ hardLifeTime then Ends currentTAI ((hardLifeTime - currentTAI) / 3600 + 1)
  else Ends currentTAI ((2 ^ 32 + hardLifeTime - currentTAI) / 3600 % 2 ^ 16) ∨
    currentTAI + 65535 * 3600 ≤ 2 ^ 32 + hardLifeTime

theorem toNat_remaining_hours (currentTAI hardLifeTime : UInt32) :
    ((hardLifeTime - currentTAI) / 3600).toUInt16.toNat =
      (2 ^ 32 - currentTAI.toNat + hardLifeTime.toNat) % 2 ^ 32 / 3600 % 2 ^ 16 := by
  rw [UInt32.toNat_toUInt16, UInt32.toNat_div, UInt32.toNat_sub]
  rfl

theorem endsAt_of_ends {currentTAI hours : Nat} (hhours : hours < 2 ^ 16) (h : Ends currentTAI hours) :
    endsAt currentTAI hours = currentTAI + hours * 3600 := by
  rw [endsAt, Nat.mod_eq_of_lt hhours]
  exact Nat.mod_eq_of_lt h

theorem ends_succ_iff {start hours : Nat} : Ends start (hours + 1) ↔ start + hours * 3600 + 3600 < 2 ^ 32 := by
  rw [Ends, Nat.succ_mul, Nat.add_assoc]

theorem lengthened_ends_iff {hours : UInt16}
    (h : lengthenLifetime currentTAI hardLifeTime 65536 ((hardLifeTime - currentTAI) / 3600).toUInt16 = some hours) :
    Ends currentTAI.toNat hours.toNat ↔ RemainderEnds currentTAI.toNat hardLifeTime.toNat := by
  obtain ⟨k, -, hhours, hends, hbefore⟩ := lengthenLifetime_spec h
  have htai := currentTAI.toNat_lt
  have hhard := hardLifeTime.toNat_lt
  have hlt := hours.toNat_lt
  have hfirst := toNat_remaining_hours currentTAI hardLifeTime
  generalize ((hardLifeTime - currentTAI) / 3600).toUInt16.toNat = first at hhours hends hbefore hfirst
  generalize hours.toNat = hours, currentTAI.toNat = currentTAI, hardLifeTime.toNat = hardLifeTime at *
  have hlate : hardLifeTime < endsAt currentTAI hours := by
    rw [hhours, endsAt, Nat.mod_mod]
    exact hends
  unfold RemainderEnds
  split
  next hleft =>
    have hcount : first = (hardLifeTime - currentTAI) / 3600 % 2 ^ 16 := by omega
    clear hfirst hhard
    have hfloor := Nat.div_add_mod (hardLifeTime - currentTAI) 3600
    have hrest := Nat.mod_lt (hardLifeTime - currentTAI) (show 3600 > 0 by norm_num)
    generalize (hardLifeTime - currentTAI) / 3600 = left at hcount hfloor ⊢
    constructor
    · intro hfits
      rw [endsAt_of_ends hlt hfits] at hlate
      rw [ends_succ_iff]
      unfold Ends at hfits
      omega
    · intro hfits
      rcases Nat.lt_or_ge hours (left + 1) with hshort | hlong
      · -- an end before that of the backbone's key is not the last
        have hends : Ends currentTAI hours := by
          rw [ends_succ_iff] at hfits
          unfold Ends
          omega
        rw [endsAt_of_ends hlt hends] at hlate
        omega
      · have hsecond : hardLifeTime < endsAt currentTAI (first + 1) := by
          have hleast : left + 1 < 2 ^ 16 := Nat.lt_of_le_of_lt hlong hlt
          rw [show first + 1 = left + 1 by omega, endsAt_of_ends hleast hfits, Nat.succ_mul]
          omega
        have hk : k ≤ 1 := Nat.le_of_not_lt fun hmore => absurd (hbefore 1 hmore) (Nat.not_le.mpr hsecond)
        rwa [show hours = left + 1 by omega]
  next hexpired =>
    have hcount : first = (2 ^ 32 + hardLifeTime - currentTAI) / 3600 % 2 ^ 16 := by omega
    rw [← hcount]
    have hfirstLt : first < 2 ^ 16 := by omega
    constructor
    · intro hfits
      refine or_iff_not_imp_left.mpr fun hwraps => ?_
      -- to end before the first, the loop went past the last number of hours and began anew
      have hhere := hbefore (65535 - first) (by unfold Ends at hfits hwraps; omega)
      rw [Nat.add_sub_cancel' (by omega), endsAt] at hhere
      unfold Ends at hwraps
      omega
    · rintro (hfits | hnever)
      · have hk : k ≤ 0 := Nat.le_of_not_lt fun hmore => absurd (hbefore 0 hmore) (by
          rw [Nat.add_zero, endsAt_of_ends hfirstLt hfits]
          omega)
        have hsame : hours = first := by omega
        rwa [hsame]
      · by_contra hwraps
        rw [endsAt, Nat.mod_eq_of_lt hlt] at hlate
        unfold Ends at hwraps
        omega

section Join

variable {E : Key128 → Block → Block} {settings : Settings} {policies : Policies} {request : SecuritySymJoinRequest}
  {securityKey : Key128} {env : Surroundings} {item : ProvisioningItem} {outcome : JoinOutcome}
  {response : SecuritySymJoinResponse}

theorem securityJoinRequest_ok (hitem : settings.getProvisioningForDevice request.eui64JoiningDevice = some item)
    (h : securityJoinRequest E settings policies request securityKey env = some outcome)
    (hanswer : outcome.answer.toOption = some response) :
    ∃ phySubnetKey dlPolicy, joinSubnetKey policies item env = some (.ok (phySubnetKey, dlPolicy)) ∧
      joinResponse E settings policies request securityKey item.key env phySubnetKey dlPolicy = some outcome := by
  have hrefused : ∀ reason, (JoinOutcome.refused reason).answer.toOption ≠ some response := nofun
  rw [securityJoinRequest, hitem] at h
  dsimp only at h
  split at h
  · split at h
    · obtain ⟨subnet, hsubnet, hrest⟩ := Option.bind_eq_some_iff.mp h
      cases subnet with
      | error reason =>
        cases hrest
        exact absurd hanswer (hrefused reason)
      | ok keys => exact ⟨keys.1, keys.2, hsubnet, hrest⟩
    · cases h
      exact absurd hanswer (hrefused _)
  · cases h
    exact absurd hanswer (hrefused _)

structure Responds (settings : Settings) (policies : Policies) (currentTAI : UInt32) (phySubnetKey : PhySpecialKey)
    (dlPolicy : CompressedPolicy) (outcome : JoinOutcome) (response : SecuritySymJoinResponse) : Prop where
  subnetKey : outcome.phySubnetKey = phySubnetKey
  subnetPolicy : response.dlKeyPolicy = dlPolicy
  sessionPolicy : response.sysMgrSessionKeyPolicy =
    if settings.disableTLEncryption then ⟨0⟩ else policies.sysMgrSessionKeyPolicy
  masterPolicy : response.masterKeyPolicy = policies.masterPolicy
  masterKey : outcome.phyMasterKey.policy = policies.defaultMasterPolicy
  masterSoft : outcome.phyMasterKey.softLifeTime =
    currentTAI + policies.masterPolicy.keyHardLifetime.toUInt32 * 3600 / 2
  masterHard : outcome.phyMasterKey.hardLifeTime = currentTAI + policies.masterPolicy.keyHardLifetime.toUInt32 * 3600

variable {phySubnetKey : PhySpecialKey} {dlPolicy : CompressedPolicy}

theorem responds_of_joinResponse {joinKey : Key128}
    (h : joinResponse E settings policies request securityKey joinKey env phySubnetKey dlPolicy = some outcome)
    (hanswer : outcome.answer.toOption = some response) :
    Responds settings policies env.currentTAI phySubnetKey dlPolicy outcome response := by
  obtain ⟨encrypted, -, hrest⟩ := Option.bind_eq_some_iff.mp h
  cases hrest
  cases hanswer
  exact ⟨rfl, rfl, rfl, rfl, rfl, rfl, rfl⟩

def SubnetJoinEnds (policies : Policies) (item : ProvisioningItem) (env : Surroundings) : Prop :=
  match item.deviceType with
  | .gateway => env.currentTAI = 0
  | .backbone => Ends env.currentTAI.toNat policies.dlKeyPolicy.keyHardLifetime.toNat
  | _ => ∀ keys ∈ env.subnet.join, ∀ newestKey ∈ getNewestActiveSubnetKey env.currentTAI keys,
    RemainderEnds env.currentTAI.toNat newestKey.hardLifeTime.toNat

theorem matches_hours (hours : UInt16) : Matches hours.toUInt32 hours.toNat := by
  have hlt := hours.toNat_lt
  rw [Matches, UInt16.toNat_toUInt32]
  exact Nat.mod_eq_of_lt (by omega)

theorem own_agrees_iff {κ : Type} {key : κ} {x : UInt32} {hours : UInt16} :
    (Handed.mk key x (sentCompressed ⟨hours⟩)).Expires (x + hours.toUInt32 * 3600 / 2) (x + hours.toUInt32 * 3600) ↔
      Ends x.toNat hours.toNat := by
  rw [compressed_agrees_iff]
  exact and_iff_right (matches_hours hours)

theorem unset_agrees_iff {κ : Type} {key : κ} {x : UInt32} :
    (Handed.mk key x (sentCompressed ⟨0⟩)).Expires 0 0 ↔ x = 0 := by
  simp [Handed.Expires, Handed.start, sentCompressed, ← UInt32.toNat_inj, eq_comm]

theorem joinSubnetKey_agrees_iff (h : joinSubnetKey policies item env = some (.ok (phySubnetKey, dlPolicy))) :
    SpecialAgrees ⟨phySubnetKey, env.currentTAI, sentCompressed dlPolicy⟩ ↔ SubnetJoinEnds policies item env := by
  unfold joinSubnetKey at h
  unfold SubnetJoinEnds
  cases hdevice : item.deviceType with
  | gateway =>
    simp only [hdevice] at h
    cases h
    exact unset_agrees_iff
  | backbone =>
    simp only [hdevice] at h
    cases h
    exact own_agrees_iff
  | _ =>
    simp only [hdevice] at h
    cases hsubnet : env.subnet with
    | none =>
      rw [hsubnet] at h
      cases h
    | some backbone =>
      cases backbone with
      | none =>
        rw [hsubnet] at h
        cases h
      | some keys =>
        rw [hsubnet] at h
        dsimp only at h
        cases hnewest : getNewestActiveSubnetKey env.currentTAI keys with
        | none =>
          rw [hnewest] at h
          cases h
        | some newestKey =>
          rw [hnewest] at h
          obtain ⟨hours, hhours, hrest⟩ := Option.bind_eq_some_iff.mp h
          cases hrest
          refine own_agrees_iff.trans ((lengthened_ends_iff hhours).trans ?_)
          simp [hnewest]

theorem joinSubnetKey_backbone
    (h : joinSubnetKey policies item env = some (.ok (phySubnetKey, dlPolicy)))
      (hbackbone : item.deviceType = .backbone) :
    phySubnetKey.policy = policies.defaultSubnetPolicy ∧ dlPolicy = policies.dlKeyPolicy := by
  rw [joinSubnetKey, hbackbone] at h
  cases h
  exact ⟨rfl, rfl⟩

end Join

end Isa100Gateway.SystemManager.KeyUtils
