import Isa100Gateway.Slme.KeyEffects

/-!
# What a security management request changes

A request is authentic if its MIC verifies under the master key it names. An authentic request should succeed exactly when the key it is about exists, and change that key only; any other request should leave the table alone, and only one that fails the authentication should be counted.
-/

namespace Isa100Gateway

open ExecReqSrvc

def newKeySize (mem : Memory) : Nat :=
  dsmoMaxNewKeySize - (if newKeyUsage mem = slmKeyUsageDll ∨ newKeyUsage mem = slmKeyUsageMaster then 28 else 0)
    - (newKeyPolicy mem).shorter

def newKeyID (mem : Memory) : UInt8 := mem (newKeySize mem - 28 + 7)

def newKeyAuth (env : DsmoEnv) (s : KeyStore) (mem : Memory) : Option (SlmeKey × List UInt8) :=
  match getNonSessionKey s (mem (newKeySize mem - 28 + 2)) slmKeyUsageMaster with
  | none => none
  | some master =>
    if securityCtrlEncMic32 = mem (newKeySize mem - 28 + 1) &&& (secLevelMask ||| secKeyIdModeMask) then
      (env.aes.decrypt master.key (dsmoNonce env.secManagerEUI64BE (mem.bytes (newKeySize mem - 28 + 3) 4))
        (mem.bytes 0 (newKeySize mem - 20)) (mem.bytes (newKeySize mem - 20) 20)).map (master, ·)
    else none

def authArgs (env : DsmoEnv) (mem : Memory) (auth : SlmeKey × List UInt8) : SetKeyArgs :=
  newKeyArgs env mem (newKeyID mem) auth.2

def keyCommandSize (req : ExecReqSrvc Memory) : Nat :=
  (if req.methID = dsmoDeleteKey then dsmoMaxDelKeySize else dsmoKeyPolicUpdSize) -
    (if req.reqData 0 = slmKeyUsageSession then 0 else 20)

def keyCommandCategory (mem : Memory) : KeyCategory :=
  keyCategory (some (mem.vector 5)) (mem.uint16 3) (mem.uint16 21) (mem 0)

def SetKeyArgs.Replaces (args : SetKeyArgs) (s : KeyStore) : Prop :=
  ∃ k ∈ s.keysCatMap.keysOf args.keyCat, k.Has args.usage args.keyID

instance (args : SetKeyArgs) (s : KeyStore) : Decidable (args.Replaces s) :=
  inferInstanceAs (Decidable (∃ _ ∈ _, _))

def SetKeyArgs.HasRoom (args : SetKeyArgs) (s : KeyStore) : Prop :=
  (if args.Replaces s then s.nSLMEKeysNo - 1 else s.nSLMEKeysNo).toNat < maxSlmeKeysNo

namespace ExecReqSrvc

variable (env : DsmoEnv) (s : KeyStore) (req : ExecReqSrvc Memory) (keyTai : UInt32)

def LongEnough : Prop :=
  (if req.methID = dsmoNewKey then newKeySize req.reqData else keyCommandSize req) ≤ req.len.toNat

def Authentic : Prop :=
  req.LongEnough ∧
    if req.methID = dsmoNewKey then (newKeyAuth env s req.reqData).isSome
    else authenticated env s req.reqData (keyCommandSize req)

/-- The key that the request is about exists; a new key has a place in the table. -/
def Addressed : Prop :=
  if req.methID = dsmoNewKey then ∀ auth ∈ newKeyAuth env s req.reqData, (authArgs env req.reqData auth).HasRoom s
  else ∃ k ∈ s.keysCatMap.keysOf (keyCommandCategory req.reqData), k.Has (req.reqData 0) (req.reqData 2)

/-- The request changes the list of its own category, and there the key with its own usage and id. -/
def TakesEffect (s' : KeyStore) : Prop :=
  if req.methID = dsmoNewKey then
    ∃ auth ∈ newKeyAuth env s req.reqData, ∀ cat, s'.keysCatMap.keysOf cat =
      if cat = (authArgs env req.reqData auth).keyCat then
        insertKey ((authArgs env req.reqData auth).newKey keyTai)
          ((s.keysCatMap.keysOf cat).eraseP fun k => k.Has (newKeyUsage req.reqData) (newKeyID req.reqData))
      else s.keysCatMap.keysOf cat
  else if req.methID = dsmoDeleteKey then
    ∀ cat, s'.keysCatMap.keysOf cat =
      if cat = keyCommandCategory req.reqData then
        (s.keysCatMap.keysOf cat).eraseP fun k => k.Has (req.reqData 0) (req.reqData 2)
      else s.keysCatMap.keysOf cat
  else
    ∃ softLifetime, ∀ cat, s'.keysCatMap.keysOf cat =
      if cat = keyCommandCategory req.reqData then
        (s.keysCatMap.keysOf cat).map fun k =>
          if k.Has (req.reqData 0) (req.reqData 2) then { k with softLifetime } else k
      else s.keysCatMap.keysOf cat

/-- The service feedback code is success, and so is the status in the response to a new key. -/
def AnswersSuccess (out : DsmoOutcome) : Prop :=
  out.sfc = sfcSuccess ∧ (req.methID = dsmoNewKey → ∃ rspData ∈ out.rspData, rspData.head? = some sfcSuccess)

structure Lawful (out : DsmoOutcome) : Prop where
  success : req.AnswersSuccess out ∧ req.TakesEffect env s keyTai out.store ↔
    req.Authentic env s ∧ req.Addressed env s
  unchanged : ¬(req.Authentic env s ∧ req.Addressed env s) → out.store = s
  counted : out.keyFailReport = true ↔ req.LongEnough ∧ ¬req.Authentic env s

/-- A new key that does not replace the master key it was authenticated with, and replaces another one only if there is room then. -/
def Storable : Prop :=
  ∀ auth ∈ newKeyAuth env s req.reqData,
    ¬(newKeyUsage req.reqData = slmKeyUsageMaster ∧ newKeyID req.reqData = auth.1.keyID) ∧
      ((authArgs env req.reqData auth).Replaces s → (authArgs env req.reqData auth).HasRoom s)

end ExecReqSrvc

section SetKey

variable {s : KeyStore} {args : SetKeyArgs} {crtTai : UInt32}

theorem cleared_eq : args.cleared s = if args.Replaces s then
      { nSLMEKeysNo := s.nSLMEKeysNo - 1
        keysCatMap := s.keysCatMap.updateCat args.keyCat (List.eraseP fun k => k.Has args.usage args.keyID) }
    else s := by
  rw [SetKeyArgs.cleared, deleteKey_eq]
  by_cases hreplaces : args.Replaces s
  · rw [if_pos hreplaces]
    exact congrArg Prod.snd (if_pos hreplaces)
  · rw [if_neg hreplaces]
    exact congrArg Prod.snd (if_neg hreplaces)

theorem keysOf_cleared {cat : KeyCategory} : (args.cleared s).keysCatMap.keysOf cat =
    if cat = args.keyCat then (s.keysCatMap.keysOf cat).eraseP fun k => k.Has args.usage args.keyID
    else s.keysCatMap.keysOf cat :=
  keysOf_deleteKey _ _ _ _ _

theorem hasRoom_iff : args.HasRoom s ↔ (args.cleared s).nSLMEKeysNo.toNat < maxSlmeKeysNo := by
  rw [SetKeyArgs.HasRoom, cleared_eq]
  split <;> rfl

theorem cleared_ne (h : args.Replaces s) : args.cleared s ≠ s := by
  intro hsame
  have hcount := congrArg KeyStore.nSLMEKeysNo hsame
  rw [cleared_eq, if_pos h] at hcount
  grind

theorem exists_setKey (h : args.usage = slmKeyUsageSession → args.peerIPv6Address ≠ none) :
    ∃ sfc s', setKey s args crtTai = some (sfc, s') := by
  have hnull : ¬(args.usage = slmKeyUsageSession ∧ args.peerIPv6Address = none) := fun hnull => h hnull.1 hnull.2
  simp only [setKey, insertKeyCat, if_neg hnull]
  split
  · exact ⟨_, _, rfl⟩
  · split <;> exact ⟨_, _, rfl⟩

theorem setKey_authArgs (env : DsmoEnv) (s : KeyStore) (mem : Memory) (crtTai : UInt32)
    (auth : SlmeKey × List UInt8) : ∃ sfc s', setKey s (authArgs env mem auth) crtTai = some (sfc, s') := by
  apply exists_setKey
  intro hsession
  have husage : newKeyUsage mem = slmKeyUsageSession := hsession
  simp [authArgs, newKeyArgs, husage]

end SetKey

section Failure

variable {env : DsmoEnv} {s : KeyStore} {req : ExecReqSrvc Memory} {keyTai : UInt32}

theorem short_lawful (hshort : ¬req.LongEnough) : req.Lawful env s keyTai (.answer s sfcInvalidSize) where
  success := iff_of_false (fun h => nomatch h.1.1) fun h => hshort h.1.1
  unchanged := fun _ => rfl
  counted := iff_of_false (fun h => nomatch h) fun h => hshort h.1

theorem failed_lawful_iff (hlong : req.LongEnough) : req.Lawful env s keyTai (.failed s) ↔ ¬req.Authentic env s := by
  constructor
  · exact fun hlawful => (hlawful.counted.mp rfl).2
  · exact fun hauthentic => {
      success := iff_of_false (fun h => nomatch h.1.1) fun h => hauthentic h.1
      unchanged := fun _ => rfl
      counted := iff_of_true rfl ⟨hlong, hauthentic⟩ }

end Failure

section NewKey

variable {env : DsmoEnv} {s : KeyStore} {req : ExecReqSrvc Memory} {keyTai rspTai : UInt32} {msgIncrement : UInt8}
  {out : DsmoOutcome}

theorem executeNewKey_short (h : req.len.toNat < newKeySize req.reqData) :
    executeNewKey env s req keyTai rspTai msgIncrement = some (.answer s sfcInvalidSize) := by
  unfold executeNewKey
  exact if_pos h

/-- What an authentic request leaves behind, given the result of `SLME_SetKey`. -/
def newKeyOutcome (env : DsmoEnv) (mem : Memory) (auth : SlmeKey × List UInt8) (rspTai : UInt32)
    (msgIncrement : UInt8) (result : UInt8 × KeyStore) : DsmoOutcome where
  sfc := sfcSuccess
  rspData :=
    if newKeyUsage mem = slmKeyUsageMaster ∧ newKeyID mem = auth.1.keyID then none
    else some (newKeyRsp env auth.1 (if result.1 = sfcSuccess then sfcSuccess else sfcFailure) rspTai msgIncrement)
  store := result.2
  keyFailReport := false
  newKeyAdded :=
    if result.1 = sfcSuccess ∧ newKeyUsage mem = slmKeyUsageSession then some (authArgs env mem auth).keyCat else none

theorem executeNewKey_long (h : ¬req.len.toNat < newKeySize req.reqData) :
    executeNewKey env s req keyTai rspTai msgIncrement =
      match newKeyAuth env s req.reqData with
      | none => some (.failed s)
      | some auth => (setKey s (authArgs env req.reqData auth) keyTai).map
          (newKeyOutcome env req.reqData auth rspTai msgIncrement) := by
  unfold executeNewKey newKeyAuth
  refine (if_neg h).trans ?_
  rw [← newKeySize]
  cases getNonSessionKey s (req.reqData (newKeySize req.reqData - 28 + 2)) slmKeyUsageMaster with
  | none => rfl
  | some master =>
    by_cases hlevel : securityCtrlEncMic32 =
        req.reqData (newKeySize req.reqData - 28 + 1) &&& (secLevelMask ||| secKeyIdModeMask)
    · simp only [if_pos hlevel, if_neg (not_not_intro hlevel)]
      cases env.aes.decrypt master.key (dsmoNonce env.secManagerEUI64BE
          (req.reqData.bytes (newKeySize req.reqData - 28 + 3) 4))
          (req.reqData.bytes 0 (newKeySize req.reqData - 20)) (req.reqData.bytes (newKeySize req.reqData - 20) 20) with
      | none => rfl
      | some material => exact (Option.map_eq_bind ..).symm
    · simp only [if_neg hlevel, if_pos hlevel]

theorem mem_of_getNonSessionKey {keyID usage : UInt8} {k : SlmeKey} (h : getNonSessionKey s keyID usage = some k) :
    k ∈ s.keysCatMap.keysOf (keyCategory none 0 0 usage) ∧ k.Has usage keyID := by
  unfold getNonSessionKey findKey at h
  rw [findKeyCat_eq] at h
  cases hfind : s.keysCatMap.lookup (keyCategory none 0 0 usage) with
  | none =>
    rw [hfind] at h
    cases h
  | some list =>
    rw [hfind] at h
    rw [keysOf_of_lookup hfind]
    exact ⟨List.mem_of_find?_eq_some h, by simpa [SlmeKey.Has] using List.find?_some h⟩

variable {auth : SlmeKey × List UInt8} {s' : KeyStore}

theorem replaces_of_freed (hauth : newKeyAuth env s req.reqData = some auth)
    (hfreed : newKeyUsage req.reqData = slmKeyUsageMaster ∧ newKeyID req.reqData = auth.1.keyID) :
    (authArgs env req.reqData auth).Replaces s := by
  unfold newKeyAuth at hauth
  cases hmaster : getNonSessionKey s (req.reqData (newKeySize req.reqData - 28 + 2)) slmKeyUsageMaster with
  | none =>
    rw [hmaster] at hauth
    cases hauth
  | some master =>
    rw [hmaster] at hauth
    dsimp only at hauth
    split at hauth
    · obtain ⟨material, -, rfl⟩ := Option.map_eq_some_iff.mp hauth
      obtain ⟨hmem, hhas⟩ := mem_of_getNonSessionKey hmaster
      have hcat : (authArgs env req.reqData (master, material)).keyCat = keyCategory none 0 0 slmKeyUsageMaster := by
        have husage : (authArgs env req.reqData (master, material)).usage = slmKeyUsageMaster := hfreed.1
        have hother : slmKeyUsageMaster ≠ slmKeyUsageSession := by decide
        rw [SetKeyArgs.keyCat, keyCategory, keyCategory, husage, if_neg hother, if_neg hother]
      refine ⟨master, by rwa [hcat], ?_, hfreed.2.symm⟩
      exact hhas.1.trans hfreed.1.symm
    · cases hauth

theorem takesEffect_newKey (hmethod : req.methID = dsmoNewKey) (hauth : newKeyAuth env s req.reqData = some auth)
    (hset : setKey s (authArgs env req.reqData auth) keyTai = some (sfcSuccess, s')) :
    req.TakesEffect env s keyTai s' := by
  rw [TakesEffect, if_pos hmethod]
  refine ⟨auth, hauth, fun cat => ?_⟩
  rw [(setKey_effect hset).2, keysOf_cleared]
  by_cases hcat : cat = (authArgs env req.reqData auth).keyCat
  · rw [if_pos ⟨hcat, rfl⟩, if_pos hcat, if_pos hcat]
    rfl
  · rw [if_neg fun h => hcat h.1, if_neg hcat, if_neg hcat]

theorem setKey_full {args : SetKeyArgs} {sfc : UInt8} (hset : setKey s args keyTai = some (sfc, s'))
    (hfull : ¬args.HasRoom s) : s' = args.cleared s := by
  rw [hasRoom_iff, not_lt] at hfull
  unfold setKey at hset
  rw [← SetKeyArgs.cleared] at hset
  simp only [ge_iff_le, if_pos hfull, Option.some.injEq, Prod.mk.injEq] at hset
  exact hset.2.symm

theorem answersSuccess_newKey (hmethod : req.methID = dsmoNewKey) {result : UInt8 × KeyStore} :
    req.AnswersSuccess (newKeyOutcome env req.reqData auth rspTai msgIncrement result) ↔
      ¬(newKeyUsage req.reqData = slmKeyUsageMaster ∧ newKeyID req.reqData = auth.1.keyID) ∧ result.1 = sfcSuccess := by
  unfold AnswersSuccess newKeyOutcome
  by_cases hfreed : newKeyUsage req.reqData = slmKeyUsageMaster ∧ newKeyID req.reqData = auth.1.keyID
  · simp [hmethod, hfreed]
  · by_cases hsfc : result.1 = sfcSuccess
    · simp [hmethod, hfreed, hsfc, newKeyRsp]
    · have hfailure : sfcFailure ≠ sfcSuccess := by decide
      simp [hmethod, hfreed, hsfc, newKeyRsp, hfailure]

theorem newKeyOutcome_lawful_iff (rspTai : UInt32) (msgIncrement : UInt8) (hmethod : req.methID = dsmoNewKey)
    (hlong : req.LongEnough)
    (hauth : newKeyAuth env s req.reqData = some auth) {sfc : UInt8}
    (hset : setKey s (authArgs env req.reqData auth) keyTai = some (sfc, s')) :
    req.Lawful env s keyTai (newKeyOutcome env req.reqData auth rspTai msgIncrement (sfc, s')) ↔
      ¬(newKeyUsage req.reqData = slmKeyUsageMaster ∧ newKeyID req.reqData = auth.1.keyID) ∧
        ((authArgs env req.reqData auth).Replaces s → (authArgs env req.reqData auth).HasRoom s) := by
  have hauthentic : req.Authentic env s := ⟨hlong, by rw [if_pos hmethod, hauth]; rfl⟩
  have haddressed : req.Addressed env s ↔ (authArgs env req.reqData auth).HasRoom s := by
    rw [Addressed, if_pos hmethod, hauth]
    simp
  have hsuccess : sfc = sfcSuccess ↔ (authArgs env req.reqData auth).HasRoom s :=
    (setKey_effect hset).1.trans hasRoom_iff.symm
  constructor
  · intro hlawful
    have hroom : (authArgs env req.reqData auth).Replaces s → (authArgs env req.reqData auth).HasRoom s := by
      intro hreplaces
      by_contra hfull
      have hsame := hlawful.unchanged fun h => hfull (haddressed.mp h.2)
      exact cleared_ne hreplaces ((setKey_full hset hfull).symm.trans hsame)
    refine ⟨fun hfreed => ?_, hroom⟩
    have hdone := hlawful.success.mpr ⟨hauthentic, haddressed.mpr (hroom (replaces_of_freed hauth hfreed))⟩
    exact ((answersSuccess_newKey hmethod).mp hdone.1).1 hfreed
  · rintro ⟨hkept, hroom⟩
    refine ⟨?_, fun hnot => ?_, iff_of_false (fun h => nomatch h) fun h => h.2 hauthentic⟩
    · rw [answersSuccess_newKey hmethod, haddressed, ← hsuccess]
      constructor
      · exact fun h => ⟨hauthentic, h.1.2⟩
      · rintro ⟨-, hsfc⟩
        obtain rfl : sfc = sfcSuccess := hsfc
        exact ⟨⟨hkept, rfl⟩, takesEffect_newKey hmethod hauth hset⟩
    · have hfull : ¬(authArgs env req.reqData auth).HasRoom s :=
        fun h => hnot ⟨hauthentic, haddressed.mpr h⟩
      have hstays : ¬(authArgs env req.reqData auth).Replaces s := fun h => hfull (hroom h)
      have hcleared : (authArgs env req.reqData auth).cleared s = s := by rw [cleared_eq, if_neg hstays]
      exact (setKey_full hset hfull).trans hcleared

theorem executeNewKey_lawful_iff (hmethod : req.methID = dsmoNewKey) :
    (∃ out, executeNewKey env s req keyTai rspTai msgIncrement = some out ∧ req.Lawful env s keyTai out) ↔
      (req.LongEnough → req.Storable env s) := by
  have hsize : req.LongEnough ↔ ¬req.len.toNat < newKeySize req.reqData := by
    rw [LongEnough, if_pos hmethod, not_lt]
  by_cases hlong : req.LongEnough
  · rw [executeNewKey_long (hsize.mp hlong)]
    cases hauth : newKeyAuth env s req.reqData with
    | none =>
      have hdenied : ¬req.Authentic env s := by
        rw [Authentic, if_pos hmethod, hauth]
        simp
      refine iff_of_true ⟨_, rfl, (failed_lawful_iff hlong).mpr hdenied⟩ fun _ auth h => ?_
      rw [hauth] at h
      cases h
    | some auth =>
      obtain ⟨sfc, s', hset⟩ := setKey_authArgs env s req.reqData keyTai auth
      have hlaw := newKeyOutcome_lawful_iff rspTai msgIncrement hmethod hlong hauth hset
      have hstorable : req.Storable env s ↔ _ := ⟨fun h => h auth hauth, fun h other hother => by
        rw [hauth] at hother
        cases hother
        exact h⟩
      simp only [hset, Option.map_some, Option.some.injEq, exists_eq_left', hlaw, hlong, forall_const]
      exact hstorable.symm
  · have hshort : req.len.toNat < newKeySize req.reqData := by
      rw [hsize, not_not] at hlong
      exact hlong
    exact iff_of_true ⟨_, executeNewKey_short hshort, short_lawful hlong⟩ fun h => absurd h hlong

end NewKey

section KeyCommand

variable {env : DsmoEnv} {s : KeyStore} {req : ExecReqSrvc Memory} {keyTai : UInt32}

theorem keyCommandCategory_of_not_session {mem : Memory} (h : mem 0 ≠ slmKeyUsageSession) :
    keyCommandCategory mem = keyCategory none 0 0 (mem 0) := by
  rw [keyCommandCategory, keyCategory, keyCategory, if_neg h, if_neg h]

section

variable (hmethod : req.methID = dsmoDeleteKey)
include hmethod

theorem size_deleteKey :
    (if req.reqData 0 = slmKeyUsageSession then dsmoMaxDelKeySize else dsmoMaxDelKeySize - 20) =
      keyCommandSize req := by
  rw [keyCommandSize, if_pos hmethod]
  split <;> rfl

theorem executeDeleteKey_authentic (hauthentic : req.Authentic env s) :
    ∃ peer sPort dPort, keyCategory peer sPort dPort (req.reqData 0) = keyCommandCategory req.reqData ∧
      executeDeleteKey env s req = .answer (deleteKey s peer sPort dPort (req.reqData 2) (req.reqData 0)).2
          (deleteKey s peer sPort dPort (req.reqData 2) (req.reqData 0)).1 := by
  have hother : req.methID ≠ dsmoNewKey := by rw [hmethod]; decide
  obtain ⟨hlong, hmic⟩ := hauthentic
  rw [LongEnough, if_neg hother] at hlong
  rw [if_neg hother] at hmic
  unfold executeDeleteKey
  simp only [size_deleteKey hmethod, if_neg (Nat.not_lt.mpr hlong), hmic, not_true_eq_false, if_false]
  by_cases hsession : req.reqData 0 = slmKeyUsageSession
  · simp only [if_pos hsession]
    exact ⟨_, _, _, rfl, rfl⟩
  · simp only [if_neg hsession]
    exact ⟨_, _, _, (keyCommandCategory_of_not_session hsession).symm, rfl⟩

theorem executeDeleteKey_denied (hlong : req.LongEnough)
    (hdenied : ¬req.Authentic env s) : executeDeleteKey env s req = .failed s := by
  have hother : req.methID ≠ dsmoNewKey := by rw [hmethod]; decide
  have hmic : authenticated env s req.reqData (keyCommandSize req) = false := by
    by_contra hmic
    exact hdenied ⟨hlong, by rwa [if_neg hother, ← Bool.not_eq_false]⟩
  rw [LongEnough, if_neg hother] at hlong
  unfold executeDeleteKey
  simp only [size_deleteKey hmethod, if_neg (Nat.not_lt.mpr hlong), hmic]
  rfl

theorem executeDeleteKey_short (hshort : ¬req.LongEnough) :
    executeDeleteKey env s req = .answer s sfcInvalidSize := by
  have hother : req.methID ≠ dsmoNewKey := by rw [hmethod]; decide
  rw [LongEnough, if_neg hother, not_le] at hshort
  unfold executeDeleteKey
  simp only [size_deleteKey hmethod, if_pos hshort]

theorem executeDeleteKey_lawful : req.Lawful env s keyTai (executeDeleteKey env s req) := by
  have hother : req.methID ≠ dsmoNewKey := by rw [hmethod]; decide
  by_cases hlong : req.LongEnough
  · by_cases hauthentic : req.Authentic env s
    · obtain ⟨peer, sPort, dPort, hcat, hdelete⟩ := executeDeleteKey_authentic hmethod hauthentic
      have haddressed : req.Addressed env s ↔
          ∃ k ∈ s.keysCatMap.keysOf (keyCategory peer sPort dPort (req.reqData 0)),
            k.Has (req.reqData 0) (req.reqData 2) := by
        rw [Addressed, if_neg hother, hcat]
      have heffect : req.TakesEffect env s keyTai (executeDeleteKey env s req).store := by
        rw [TakesEffect, if_neg hother, if_pos hmethod, hdelete, ← hcat]
        exact fun cat => keysOf_deleteKey _ _ _ _ _
      have hanswers : req.AnswersSuccess (executeDeleteKey env s req) ↔ req.Addressed env s := by
        rw [haddressed, AnswersSuccess, hdelete, deleteKey_eq]
        split
        · next hfound => exact iff_of_true ⟨rfl, fun h => absurd h hother⟩ hfound
        · next hfound => exact iff_of_false (fun h => nomatch h.1) hfound
      refine ⟨?_, fun hnot => ?_, ?_⟩
      · rw [and_iff_left heffect, hanswers, and_iff_right hauthentic]
      · have hfound := fun h => hnot ⟨hauthentic, haddressed.mpr h⟩
        rw [hdelete, deleteKey_eq, if_neg hfound]
        rfl
      · rw [hdelete]
        exact iff_of_false (fun h => nomatch h) fun h => h.2 hauthentic
    · rw [executeDeleteKey_denied hmethod hlong hauthentic]
      exact (failed_lawful_iff hlong).mpr hauthentic
  · rw [executeDeleteKey_short hmethod hlong]
    exact short_lawful hlong

end

theorem executeKeyPolicyUpdate_lawful_iff (hmethod : req.methID = dsmoKeyPolicyUpdate) :
    req.Lawful env s keyTai (executeKeyPolicyUpdate s req) ↔ ¬req.Authentic env s := by
  have hother : req.methID ≠ dsmoNewKey := by rw [hmethod]; decide
  have hdelete : req.methID ≠ dsmoDeleteKey := by rw [hmethod]; decide
  have hsize : (if req.reqData 0 = slmKeyUsageSession then dsmoKeyPolicUpdSize else dsmoKeyPolicUpdSize - 20) =
      keyCommandSize req := by
    rw [keyCommandSize, if_neg hdelete]
    split <;> rfl
  have hlength : req.LongEnough ↔ ¬req.len.toNat < keyCommandSize req := by
    rw [LongEnough, if_neg hother, not_lt]
  by_cases hlong : req.LongEnough
  · simp only [executeKeyPolicyUpdate, hsize, if_neg (hlength.mp hlong)]
    exact failed_lawful_iff hlong
  · have hshort : req.len.toNat < keyCommandSize req := by rwa [hlength, not_not] at hlong
    simp only [executeKeyPolicyUpdate, hsize, if_pos hshort]
    exact iff_of_true (short_lawful hlong) fun h => hlong h.1

end KeyCommand

/-- The requests that `DSMO_Execute` treats as it should: all but a policy update that is authentic, a new master key in place of the one it was authenticated with, and a new key that would replace another although there is no room even then. -/
theorem dsmoExecute_lawful_iff {env : DsmoEnv} {s : KeyStore} {req : ExecReqSrvc Memory} (keyTai rspTai : UInt32)
    (msgIncrement : UInt8)
    (hmethod : req.methID = dsmoNewKey ∨ req.methID = dsmoDeleteKey ∨ req.methID = dsmoKeyPolicyUpdate) :
    (∃ out, dsmoExecute env s req keyTai rspTai msgIncrement = some out ∧ req.Lawful env s keyTai out) ↔
      (req.methID = dsmoNewKey → req.LongEnough → req.Storable env s) ∧
        (req.methID = dsmoKeyPolicyUpdate → ¬req.Authentic env s) := by
  unfold dsmoExecute
  obtain hnew | hdelete | hpolicy := hmethod
  · have hother : req.methID ≠ dsmoKeyPolicyUpdate := by rw [hnew]; decide
    rw [if_pos hnew, executeNewKey_lawful_iff hnew]
    exact ⟨fun h => ⟨fun _ => h, fun hpolicy => absurd hpolicy hother⟩, fun h => h.1 hnew⟩
  · have hnew : req.methID ≠ dsmoNewKey := by rw [hdelete]; decide
    have hpolicy : req.methID ≠ dsmoKeyPolicyUpdate := by rw [hdelete]; decide
    rw [if_neg hnew, if_pos hdelete]
    exact iff_of_true ⟨_, rfl, executeDeleteKey_lawful hdelete⟩ ⟨fun h => absurd h hnew, fun h => absurd h hpolicy⟩
  · have hnew : req.methID ≠ dsmoNewKey := by rw [hpolicy]; decide
    have hdelete : req.methID ≠ dsmoDeleteKey := by rw [hpolicy]; decide
    rw [if_neg hnew, if_neg hdelete, if_pos hpolicy]
    simp only [Option.some.injEq, exists_eq_left', executeKeyPolicyUpdate_lawful_iff hpolicy]
    exact ⟨fun h => ⟨fun hcontra => absurd hcontra hnew, fun _ => h⟩, fun h => h.2 hpolicy⟩

def sampleMasterKey : SetKeyArgs where
  peerIPv6Address := none
  udpSPort := 0
  udpDPort := 0
  keyID := 7
  key := Vector.replicate 16 0x66
  issuerEUI64 := none
  validNotBefore := 0
  softLifetime := 1800
  hardLifetime := 3600
  usage := slmKeyUsageMaster
  policy := 0

def sampleMasterStore : KeyStore := KeyAction.step sampleDsmoEnv KeyStore.init (.set sampleMasterKey 1000)

/-- Usage, master key id, key id, soft lifetime, four bytes of the nonce, and the MIC. -/
def samplePolicyUpdate : ExecReqSrvc Memory :=
  let bytes : List UInt8 := [slmKeyUsageMaster, 7, 7, 50, 0, 0, 0, 1, 243, 194, 225, 184]
  { srcOID := 7, dstOID := 7, reqID := 1, methID := dsmoKeyPolicyUpdate, len := 12, reqData := fun i => bytes.getD i 0 }

theorem samplePolicyUpdate_authentic : samplePolicyUpdate.Authentic sampleDsmoEnv sampleMasterStore := by
  refine ⟨by unfold LongEnough; decide, ?_⟩
  rw [if_neg (by decide)]
  decide +kernel

/-- It is authentic and the key exists, yet it is answered with failure and counted as an attack. -/
theorem policyUpdate_refused : samplePolicyUpdate.Authentic sampleDsmoEnv sampleMasterStore ∧
      samplePolicyUpdate.Addressed sampleDsmoEnv sampleMasterStore ∧
      dsmoExecute sampleDsmoEnv sampleMasterStore samplePolicyUpdate 1000 1000 0 = some (.failed sampleMasterStore) ∧
      ¬samplePolicyUpdate.Lawful sampleDsmoEnv sampleMasterStore 1000 (.failed sampleMasterStore) := by
  have hauthentic := samplePolicyUpdate_authentic
  refine ⟨hauthentic, ?_, rfl, fun hlawful => (failed_lawful_iff hauthentic.1).mp hlawful hauthentic⟩
  rw [Addressed, if_neg (by decide)]
  decide

theorem dsmoExecute_lawful_iff_sample :
    (∃ out, dsmoExecute sampleDsmoEnv sampleMasterStore samplePolicyUpdate 1000 1000 0 = some out ∧
        samplePolicyUpdate.Lawful sampleDsmoEnv sampleMasterStore 1000 out) ↔
      (samplePolicyUpdate.methID = dsmoNewKey → samplePolicyUpdate.LongEnough →
          samplePolicyUpdate.Storable sampleDsmoEnv sampleMasterStore) ∧
        (samplePolicyUpdate.methID = dsmoKeyPolicyUpdate →
          ¬samplePolicyUpdate.Authentic sampleDsmoEnv sampleMasterStore) :=
  dsmoExecute_lawful_iff 1000 1000 0 (Or.inr (Or.inr rfl))

end Isa100Gateway
