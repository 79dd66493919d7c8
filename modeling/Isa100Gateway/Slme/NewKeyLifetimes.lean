import Isa100Gateway.Slme.DsmoEffects

/-!
# The lifetimes of a new key

A request gives its times in seconds, minutes, hours or days, and the code multiplies and adds them in 32 bits. The soft lifetime is half of the hard one, and a lifetime of zero means that the key never expires.
-/

namespace Isa100Gateway

/-- The numbers that a request carries: the length of its unit, and the two times in that unit. -/
structure KeyTimes where
  unit : Nat
  validNotBefore : Nat
  hardLifetime : Nat

def keyTimes (mem : Memory) : KeyTimes :=
  match mem 0 &&& policyKeyGranMask with
  | 0x01 => ⟨60, (mem.uint32 1).toNat, (mem.uint24 5).toNat⟩
  | 0x02 => ⟨3600, (mem.uint24 1).toNat, (mem.uint16 4).toNat⟩
  | 0x03 => ⟨86400, (mem.uint16 1).toNat, (mem.uint16 3).toNat⟩
  | _ => ⟨1, (mem.uint32 1).toNat, (mem.uint32 5).toNat⟩

namespace KeyTimes

variable (times : KeyTimes) (now : Nat)

/-- When the lifetimes begin: a key that is valid at once counts them from now on. -/
def start : Nat := if times.unit * times.validNotBefore = 0 then now else times.unit * times.validNotBefore

/-- The times of the key are the sums without a wrap, and in order. -/
structure Exact (k : SlmeKey) : Prop where
  validNotBefore : k.validNotBefore.toNat = times.unit * times.validNotBefore
  softLifetime : k.softLifetime.toNat =
    if times.hardLifetime = 0 then 0xFFFFFFFF else times.start now + times.unit * times.hardLifetime / 2
  hardLifetime : k.hardLifetime.toNat =
    if times.hardLifetime = 0 then 0xFFFFFFFF else times.start now + times.unit * times.hardLifetime
  ordered : k.validNotBefore ≤ k.softLifetime ∧ k.softLifetime ≤ k.hardLifetime

/-- The products and the sum fit 32 bits, and half of the lifetime is not taken for one that never ends. -/
def Fits : Prop :=
  times.unit * times.validNotBefore < 2 ^ 32 ∧ (times.hardLifetime = 0 ∨
      times.start now + times.unit * times.hardLifetime < 2 ^ 32 ∧ times.unit * times.hardLifetime ≠ 1)

end KeyTimes

theorem newKeyPolicy_times (mem : Memory) :
    (newKeyPolicy mem).validNotBefore.toNat = (keyTimes mem).unit * (keyTimes mem).validNotBefore % 2 ^ 32 ∧
      (newKeyPolicy mem).hardLifetime.toNat = (keyTimes mem).unit * (keyTimes mem).hardLifetime % 2 ^ 32 := by
  unfold newKeyPolicy keyTimes
  generalize mem 0 &&& policyKeyGranMask = gran
  by_cases hminute : gran = 0x01
  · simp [hminute, Nat.mul_comm]
  by_cases hhour : gran = 0x02
  · simp [hhour, Nat.mul_comm]
  by_cases hday : gran = 0x03
  · simp [hday, Nat.mul_comm]
  · simp

theorem keyTimes_unit_pos (mem : Memory) : 0 < (keyTimes mem).unit := by
  unfold keyTimes
  split <;> exact Nat.succ_pos _

def storedLifetime (start lifetime : Nat) : Nat :=
  if lifetime = 0 then 0xFFFFFFFF else (start + lifetime) % 2 ^ 32

theorem storedLifetime_of_lt {start lifetime : Nat} (hpos : lifetime ≠ 0) (hlt : start + lifetime < 2 ^ 32) :
    storedLifetime start lifetime = start + lifetime := by
  rw [storedLifetime, if_neg hpos, Nat.mod_eq_of_lt hlt]

theorem toNat_ite_zero {x y : UInt32} : (if x = 0 then y else x).toNat = if x.toNat = 0 then y.toNat else x.toNat := by
  by_cases hzero : x = 0
  · rw [if_pos hzero, hzero]
    rfl
  · have hzero' : x.toNat ≠ 0 := fun h => hzero (UInt32.toNat_inj.mp h)
    rw [if_neg hzero, if_neg hzero']

theorem toNat_storedLifetime (start lifetime : UInt32) :
    (if lifetime = 0 then 0xFFFFFFFF else start + lifetime).toNat = storedLifetime start.toNat lifetime.toNat := by
  by_cases hzero : lifetime = 0
  · rw [if_pos hzero, hzero]
    rfl
  · have hzero' : lifetime.toNat ≠ 0 := fun h => hzero (UInt32.toNat_inj.mp h)
    rw [if_neg hzero, storedLifetime, if_neg hzero', UInt32.toNat_add]

section Stored

variable {mem : Memory} {now : UInt32}

theorem newKey_times (env : DsmoEnv) (auth : SlmeKey × List UInt8) (now : UInt32) {times : KeyTimes}
    (htimes : times = keyTimes mem) :
    let k := (authArgs env mem auth).newKey now
    let start :=
      if times.unit * times.validNotBefore % 2 ^ 32 = 0 then now.toNat
      else times.unit * times.validNotBefore % 2 ^ 32
    k.validNotBefore.toNat = times.unit * times.validNotBefore % 2 ^ 32 ∧
      k.softLifetime.toNat = storedLifetime start (times.unit * times.hardLifetime % 2 ^ 32 / 2) ∧
      k.hardLifetime.toNat = storedLifetime start (times.unit * times.hardLifetime % 2 ^ 32) := by
  obtain ⟨hbefore, hhard⟩ := newKeyPolicy_times mem
  rw [← htimes] at hbefore hhard
  have hhalf : ((newKeyPolicy mem).hardLifetime >>> 1).toNat = times.unit * times.hardLifetime % 2 ^ 32 / 2 := by
    rw [← hhard, UInt32.toNat_shiftRight]
    rfl
  refine ⟨hbefore, ?_, ?_⟩
  · rw [← hbefore, ← hhalf, ← toNat_ite_zero, ← toNat_storedLifetime]
    rfl
  · rw [← hbefore, ← hhard, ← toNat_ite_zero, ← toNat_storedLifetime]
    rfl

theorem exact_iff_fits {env : DsmoEnv} {auth : SlmeKey × List UInt8} :
    (keyTimes mem).Exact now.toNat ((authArgs env mem auth).newKey now) ↔ (keyTimes mem).Fits now.toNat := by
  obtain ⟨hbefore, hsoft, hhard⟩ := newKey_times env auth now (Eq.refl (keyTimes mem))
  have hunit := keyTimes_unit_pos mem
  generalize (authArgs env mem auth).newKey now = k at hbefore hsoft hhard
  generalize keyTimes mem = times at hbefore hsoft hhard hunit
  have hzero : times.unit * times.hardLifetime = 0 ↔ times.hardLifetime = 0 := by
    rw [Nat.mul_eq_zero]
    omega
  have hnow := now.toNat_lt
  constructor
  · intro hexact
    have hnowrap : times.unit * times.validNotBefore < 2 ^ 32 := by
      rw [← hexact.validNotBefore]
      exact k.validNotBefore.toNat_lt
    refine ⟨hnowrap, ?_⟩
    by_cases hnever : times.hardLifetime = 0
    · exact Or.inl hnever
    · have hpos : times.unit * times.hardLifetime ≠ 0 := fun h => hnever (hzero.mp h)
      have hends : times.start now.toNat + times.unit * times.hardLifetime < 2 ^ 32 := by
        have hexactHard := hexact.hardLifetime
        rw [if_neg hnever] at hexactHard
        rw [← hexactHard]
        exact k.hardLifetime.toNat_lt
      refine Or.inr ⟨hends, fun hone => ?_⟩
      have hexactSoft := hexact.softLifetime
      rw [if_neg hnever, hsoft, hone] at hexactSoft
      rw [hone] at hends
      simp [storedLifetime] at hexactSoft
      omega
  · rintro ⟨hnowrap, hends⟩
    have hstart : (if times.unit * times.validNotBefore % 2 ^ 32 = 0 then now.toNat
        else times.unit * times.validNotBefore % 2 ^ 32) = times.start now.toNat := by
      rw [Nat.mod_eq_of_lt hnowrap, KeyTimes.start]
    have hlater : times.unit * times.validNotBefore ≤ times.start now.toNat := by
      rw [KeyTimes.start]
      split <;> omega
    rw [Nat.mod_eq_of_lt hnowrap] at hbefore
    rw [hstart] at hsoft hhard
    by_cases hnever : times.hardLifetime = 0
    · rw [hzero.mpr hnever] at hsoft hhard
      refine ⟨hbefore, by rw [hsoft, if_pos hnever]; rfl, by rw [hhard, if_pos hnever]; rfl, ?_, ?_⟩
      · rw [UInt32.le_iff_toNat_le, hsoft]
        exact Nat.le_pred_of_lt k.validNotBefore.toNat_lt
      · rw [UInt32.le_iff_toNat_le, hsoft, hhard]
        exact Nat.le_refl _
    · have hpos : times.unit * times.hardLifetime ≠ 0 := fun h => hnever (hzero.mp h)
      obtain ⟨hlt, hone⟩ := hends.resolve_left hnever
      rw [Nat.mod_eq_of_lt (by omega), storedLifetime_of_lt (by omega) (by omega)] at hsoft
      rw [Nat.mod_eq_of_lt (by omega), storedLifetime_of_lt hpos hlt] at hhard
      refine ⟨hbefore, by rw [hsoft, if_neg hnever], by rw [hhard, if_neg hnever], ?_, ?_⟩
      · rw [UInt32.le_iff_toNat_le, hbefore, hsoft]
        omega
      · rw [UInt32.le_iff_toNat_le, hsoft, hhard]
        omega

end Stored

/-- The key that `DSMO_NEW_KEY` puts into the table, if it does. -/
def storedKey (env : DsmoEnv) (s : KeyStore) (req : ExecReqSrvc Memory) (keyTai : UInt32) : Option SlmeKey :=
  if req.len.toNat < newKeySize req.reqData then none
  else (newKeyAuth env s req.reqData).bind fun auth =>
    if ((authArgs env req.reqData auth).cleared s).nSLMEKeysNo.toNat < maxSlmeKeysNo then
      some ((authArgs env req.reqData auth).newKey keyTai)
    else none

section Request

variable {env : DsmoEnv} {s : KeyStore} {req : ExecReqSrvc Memory} {keyTai rspTai : UInt32} {msgIncrement : UInt8}
  {out : DsmoOutcome} {k : SlmeKey}

theorem storedKey_of_auth {auth : SlmeKey × List UInt8} (hlong : ¬req.len.toNat < newKeySize req.reqData)
    (hauth : newKeyAuth env s req.reqData = some auth) :
    storedKey env s req keyTai =
      if ((authArgs env req.reqData auth).cleared s).nSLMEKeysNo.toNat < maxSlmeKeysNo then
        some ((authArgs env req.reqData auth).newKey keyTai)
      else none := by
  rw [storedKey, if_neg hlong, hauth, Option.bind_some]

theorem executeNewKey_keys (h : executeNewKey env s req keyTai rspTai msgIncrement = some out)
    (hstored : storedKey env s req keyTai = some k) :
    ∃ auth, k = (authArgs env req.reqData auth).newKey keyTai ∧ ∀ cat, out.store.keysCatMap.keysOf cat =
        if cat = k.category then insertKey k (((authArgs env req.reqData auth).cleared s).keysCatMap.keysOf cat)
        else s.keysCatMap.keysOf cat := by
  by_cases hshort : req.len.toNat < newKeySize req.reqData
  · rw [storedKey, if_pos hshort] at hstored
    cases hstored
  cases hauth : newKeyAuth env s req.reqData with
  | none =>
    rw [storedKey, if_neg hshort, hauth] at hstored
    cases hstored
  | some auth =>
    rw [storedKey_of_auth hshort hauth] at hstored
    split at hstored
    · next hroom =>
      cases hstored
      rw [executeNewKey_long hshort, hauth] at h
      obtain ⟨⟨sfc, s'⟩, hset, rfl⟩ := Option.map_eq_some_iff.mp h
      have hcat : ((authArgs env req.reqData auth).newKey keyTai).category = (authArgs env req.reqData auth).keyCat :=
        category_newKey _ _
      refine ⟨auth, rfl, fun cat => ?_⟩
      have heffect := (setKey_effect hset).2 cat
      rw [(setKey_effect hset).1.mpr hroom] at heffect
      refine heffect.trans ?_
      rw [hcat]
      by_cases hhere : cat = (authArgs env req.reqData auth).keyCat
      · rw [if_pos ⟨hhere, rfl⟩, if_pos hhere]
      · rw [if_neg fun h => hhere h.1, if_neg hhere, keysOf_cleared, if_neg hhere]
    · cases hstored

/-- A key that a request stores is in the table, as the only one that was not there before; its times are exact and in order exactly when they fit. -/
theorem newKey_exact_iff (h : executeNewKey env s req keyTai rspTai msgIncrement = some out)
    (hstored : storedKey env s req keyTai = some k) : k ∈ out.store.keysCatMap.keysOf k.category ∧
      (∀ cat, ∀ k' ∈ out.store.keysCatMap.keysOf cat, k' = k ∨ k' ∈ s.keysCatMap.keysOf cat) ∧
      ((keyTimes req.reqData).Exact keyTai.toNat k ↔ (keyTimes req.reqData).Fits keyTai.toNat) := by
  obtain ⟨auth, rfl, hkeys⟩ := executeNewKey_keys h hstored
  refine ⟨?_, fun cat k' hk' => ?_, exact_iff_fits⟩
  · rw [hkeys, if_pos rfl]
    exact mem_insertKey.mpr (Or.inl rfl)
  · rw [hkeys] at hk'
    split at hk'
    · refine (mem_insertKey.mp hk').imp_right fun hold => ?_
      rw [keysOf_cleared] at hold
      split at hold
      · exact List.mem_of_mem_eraseP hold
      · exact hold
    · exact Or.inr hk'

end Request

def sampleLongKey : ExecReqSrvc Memory :=
  let policy : List UInt8 := [0x03, 0, 0, 0xFF, 0xFF, 0]
  let fixed : List UInt8 := [0, securityCtrlEncMic32, 7, 0, 0, 0, 2, 9]
  let encrypted : List UInt8 :=
    [14, 103, 235, 44, 226, 245, 248, 171, 232, 139, 25, 180, 75, 56, 128, 70, 40, 234, 0, 149]
  let bytes := policy ++ fixed ++ encrypted
  { srcOID := 7, dstOID := 7, reqID := 2, methID := dsmoNewKey, len := 34, reqData := fun i => bytes.getD i 0 }

theorem sampleLongKey_auth : newKeyAuth sampleDsmoEnv sampleMasterStore sampleLongKey.reqData =
    some (sampleMasterKey.newKey 1000, List.replicate 16 0x77) := by
  decide +kernel

theorem sampleLongKey_stored : storedKey sampleDsmoEnv sampleMasterStore sampleLongKey 1000 =
    some ((authArgs sampleDsmoEnv sampleLongKey.reqData
      (sampleMasterKey.newKey 1000, List.replicate 16 0x77)).newKey 1000) := by
  rw [storedKey_of_auth (by decide) sampleLongKey_auth, if_pos (by decide)]

/-- The sum wraps, and the key ends some 136 years too early. -/
theorem newKey_wraps :
    ∃ k, storedKey sampleDsmoEnv sampleMasterStore sampleLongKey 1000 = some k ∧ k.hardLifetime = 1367257704 ∧
      (keyTimes sampleLongKey.reqData).start 1000 + 86400 * 65535 = 5662225000 ∧
      ¬(keyTimes sampleLongKey.reqData).Exact 1000 k := by
  refine ⟨_, sampleLongKey_stored, by decide, by decide, fun hexact => ?_⟩
  have hsum := hexact.hardLifetime
  revert hsum
  decide

theorem newKey_exact_iff_sample :
    ∃ out k, executeNewKey sampleDsmoEnv sampleMasterStore sampleLongKey 1000 1000 0 = some out ∧
      storedKey sampleDsmoEnv sampleMasterStore sampleLongKey 1000 = some k ∧
      k ∈ out.store.keysCatMap.keysOf k.category ∧
      ((keyTimes sampleLongKey.reqData).Exact 1000 k ↔ (keyTimes sampleLongKey.reqData).Fits 1000) := by
  obtain ⟨sfc, s', hset⟩ := setKey_authArgs sampleDsmoEnv sampleMasterStore sampleLongKey.reqData 1000
    (sampleMasterKey.newKey 1000, List.replicate 16 0x77)
  have hout : executeNewKey sampleDsmoEnv sampleMasterStore sampleLongKey 1000 1000 0 =
      some (newKeyOutcome sampleDsmoEnv sampleLongKey.reqData
        (sampleMasterKey.newKey 1000, List.replicate 16 0x77) 1000 0 (sfc, s')) := by
    rw [executeNewKey_long (by decide), sampleLongKey_auth]
    simp only [hset, Option.map_some]
  obtain ⟨hmem, -, hiff⟩ := newKey_exact_iff hout sampleLongKey_stored
  exact ⟨_, _, hout, sampleLongKey_stored, hmem, hiff⟩

end Isa100Gateway
