import Isa100Gateway.Slme.KeyStoreInvariant
import Isa100Gateway.SystemManager.KeyDistribution

/-!
# Keys that arrive

The device that holds the master key reads from the bytes of a key the policy and the peer that the system manager wrote, decrypts the key, and sets it with these values; from the bytes of a deletion it deletes the key with this peer and this number. Only a hard lifetime that is too long for the device's clock in seconds is read differently.
-/

namespace Isa100Gateway

open Stream Memory Ccm CcmObject

namespace SystemManager

theorem toNat_shiftRight32 (value : UInt32) (k : UInt32) (hk : k < 32) :
    (value >>> k).toNat = value.toNat / 2 ^ k.toNat := by
  have hmod : k.toNat % 32 = k.toNat := Nat.mod_eq_of_lt hk
  simp [Nat.shiftRight_eq_div_pow, hmod]

theorem masked_octet (value mask k : UInt32) (hk : k < 32) (hmask : mask.toNat = 255 * 2 ^ k.toNat) :
    ((value &&& mask) >>> k).toUInt8 = (value >>> k).toUInt8 := by
  apply UInt8.toNat_inj.mp
  rw [UInt32.toNat_toUInt8, UInt32.toNat_toUInt8, toNat_shiftRight32 _ _ hk, toNat_shiftRight32 _ _ hk,
    UInt32.toNat_and,
    hmask, ← Nat.shiftRight_eq_div_pow, Nat.shiftRight_and_distrib, ← Nat.shiftLeft_eq, Nat.shiftLeft_shiftRight,
    Nat.shiftRight_eq_div_pow, show (255 : Nat) = 2 ^ 8 - 1 from rfl, Nat.and_two_pow_sub_one_eq_mod]
  exact Nat.mod_mod _ _

theorem octet_mid₂ (value : UInt32) : ((value &&& 0xFF0000) >>> 16).toUInt8 = (value >>> 16).toUInt8 :=
  masked_octet value 0xFF0000 16 (by decide) rfl

theorem octet_mid₁ (value : UInt32) : ((value &&& 0xFF00) >>> 8).toUInt8 = (value >>> 8).toUInt8 :=
  masked_octet value 0xFF00 8 (by decide) rfl

theorem octet_low (value : UInt32) : (value &&& 0xFF).toUInt8 = value.toUInt8 := by
  apply UInt8.toNat_inj.mp
  rw [UInt32.toNat_toUInt8, UInt32.toNat_toUInt8, UInt32.toNat_and]
  change (value.toNat &&& 2 ^ 8 - 1) % 256 = _
  rw [Nat.and_two_pow_sub_one_eq_mod]
  exact Nat.mod_mod _ _

end SystemManager

namespace Memory

def Holds (mem : Memory) (offset : Nat) (bytes : List UInt8) : Prop := mem.bytes offset bytes.length = bytes

variable {mem : Memory} {offset : Nat} {front back : List UInt8} {b : UInt8}

theorem Holds.bytes_eq (h : mem.Holds offset front) : mem.bytes offset front.length = front := h

theorem length_bytes (count : Nat) : (mem.bytes offset count).length = count := by simp [bytes]

theorem bytes_add (m n : Nat) : mem.bytes offset (m + n) = mem.bytes offset m ++ mem.bytes (offset + m) n := by
  simp [bytes, List.range_add, Nat.add_assoc]

theorem holds_append :
    mem.Holds offset (front ++ back) ↔ mem.Holds offset front ∧ mem.Holds (offset + front.length) back := by
  unfold Holds
  rw [List.length_append, bytes_add]
  constructor
  · exact fun h => List.append_inj h (length_bytes front.length)
  · rintro ⟨hfront, hback⟩
    rw [hfront, hback]

theorem holds_cons : mem.Holds offset (b :: back) ↔ mem offset = b ∧ mem.Holds (offset + 1) back := by
  have happend : mem.Holds offset ([b] ++ back) ↔ mem.Holds offset [b] ∧ mem.Holds (offset + 1) back := holds_append
  have hfirst : mem.Holds offset [b] ↔ mem offset = b := by simp [Holds, bytes]
  rwa [hfirst] at happend

theorem Holds.vector {len : Nat} {v : Vector UInt8 len} (h : mem.Holds offset v.toList) : mem.vector offset = v := by
  have hlist : (mem.vector offset : Vector UInt8 len).toList = mem.bytes offset len := by
    apply List.ext_getElem
    · simp [bytes]
    · intro i h₁ h₂
      simp [Memory.vector, bytes]
  apply Vector.toList_inj.mp
  rw [hlist, ← h, Vector.length_toList]

theorem Holds.uint16 {value : UInt16} (h : mem.Holds offset (write16 value)) : mem.uint16 offset = value := by
  obtain ⟨hhigh, hrest⟩ := holds_cons.mp h
  obtain ⟨hlow, -⟩ := holds_cons.mp hrest
  rw [Memory.uint16, hhigh, hlow]
  exact Bytes.join_split value

variable {value : UInt32}

theorem Holds.uint32 (h : mem.Holds offset (write32 value)) : mem.uint32 offset = value := by
  obtain ⟨h₃, hrest₃⟩ := holds_cons.mp h
  obtain ⟨h₂, hrest₂⟩ := holds_cons.mp hrest₃
  obtain ⟨h₁, hrest₁⟩ := holds_cons.mp hrest₂
  obtain ⟨h₀, -⟩ := holds_cons.mp hrest₁
  rw [Memory.uint32, h₃, h₂, h₁, h₀]
  exact Bytes.join_split32 value

theorem Holds.uint24 (h : mem.Holds offset (SystemManager.write24 value)) (hvalue : value.toNat < 2 ^ 24) :
    mem.uint24 offset = value := by
  obtain ⟨h₂, hrest₂⟩ := holds_cons.mp h
  obtain ⟨h₁, hrest₁⟩ := holds_cons.mp hrest₂
  obtain ⟨h₀, -⟩ := holds_cons.mp hrest₁
  have hzero : (value >>> 24).toUInt8.toUInt32 = 0 := by
    apply UInt32.toNat_inj.mp
    rw [UInt8.toNat_toUInt32, Bytes.toNat_split32 value 24 (by decide)]
    change value.toNat / 2 ^ 24 % 256 = 0
    omega
  have hjoin := Bytes.join_split32 value
  rw [hzero] at hjoin
  rw [Memory.uint24, h₂, h₁, h₀, SystemManager.octet_mid₂, SystemManager.octet_mid₁, SystemManager.octet_low]
  simpa using hjoin

theorem Holds.low16 (h : mem.Holds offset (SystemManager.writeLow16 value)) (hvalue : value.toNat < 2 ^ 16) :
    (mem.uint16 offset).toUInt32 = value := by
  obtain ⟨h₁, hrest₁⟩ := holds_cons.mp h
  obtain ⟨h₀, -⟩ := holds_cons.mp hrest₁
  rw [Memory.uint16, h₁, h₀, SystemManager.octet_mid₁, SystemManager.octet_low]
  apply UInt32.toNat_inj.mp
  rw [UInt16.toNat_toUInt32, Bytes.toNat_join, Bytes.toNat_split32 value 8 (by decide), UInt32.toNat_toUInt8]
  change value.toNat / 2 ^ 8 % 256 * 256 + value.toNat % 256 = value.toNat
  omega

end Memory

namespace SystemManager

open KeyUtils

def lifetimeBound (policy : Policy) : Nat :=
  if policy.granularity = 0 then 2 ^ 32 else if policy.granularity = 1 then 2 ^ 24 else 2 ^ 16

structure Policy.FitsEncoding (policy : Policy) : Prop where
  granularity : policy.granularity < 4
  lifetime : policy.keyHardLifetime.toNat < lifetimeBound policy
  aligned : policy.notValidBefore.toNat % (getGranularityInSeconds policy).toNat = 0

theorem keyTypeUsageValue_bits (policy : Policy) :
    keyTypeUsageValue policy &&& policyKeyGranMask = policy.granularity &&& 0x03 ∧
      (keyTypeUsageValue policy &&& policyKeyUsageMask) >>> policyKeyUsageOff = policy.keyUsage &&& 0x07 := by
  have hall : ∀ g < 4, ∀ u < 8, ∀ t < 8,
      (UInt8.ofNat g ||| (UInt8.ofNat u) <<< (2 : UInt8) ||| (UInt8.ofNat t) <<< (5 : UInt8)) &&& policyKeyGranMask =
          UInt8.ofNat g ∧
        ((UInt8.ofNat g ||| (UInt8.ofNat u) <<< (2 : UInt8) ||| (UInt8.ofNat t) <<< (5 : UInt8)) &&&
            policyKeyUsageMask) >>> policyKeyUsageOff = UInt8.ofNat u := by decide +kernel
  have hlt : ∀ x : UInt8, (x &&& 0x07).toNat < 8 ∧ (x &&& 0x03).toNat < 4 := by
    apply Bytes.forall_uint8
    decide +kernel
  have hhere := hall _ (hlt policy.granularity).2 _ (hlt policy.keyUsage).1 _ (hlt policy.keyType).1
  rwa [UInt8.ofNat_toNat, UInt8.ofNat_toNat, UInt8.ofNat_toNat] at hhere

theorem div_mul_of_aligned {value seconds : UInt32} (h : value.toNat % seconds.toNat = 0) :
    value / seconds * seconds = value := by
  apply UInt32.toNat_inj.mp
  rw [UInt32.toNat_mul, UInt32.toNat_div, Nat.div_mul_cancel (Nat.dvd_of_mod_eq_zero h)]
  exact Nat.mod_eq_of_lt value.toNat_lt

theorem newKeyPolicy_eq {mem : Memory} {policy : Policy} (hfits : policy.FitsEncoding)
    (hmem : mem.Holds 0 (marshallPolicy policy)) : newKeyPolicy mem = {
      shorter := 10 - (marshallPolicy policy).length
      validNotBefore := policy.notValidBefore
      hardLifetime := policy.keyHardLifetime * getGranularityInSeconds policy
      offset := (marshallPolicy policy).length - 1 } ∧
    6 ≤ (marshallPolicy policy).length ∧ (marshallPolicy policy).length ≤ 10 := by
  obtain ⟨htype, hrest⟩ := holds_cons.mp hmem
  obtain ⟨htimes, -⟩ := holds_append.mp hrest
  have hgran : mem 0 &&& policyKeyGranMask = policy.granularity &&& 0x03 := htype ▸ (keyTypeUsageValue_bits policy).1
  have haligned := div_mul_of_aligned hfits.aligned
  have hlifetime := hfits.lifetime
  have hnvb := policy.notValidBefore.toNat_lt
  obtain hg | hg | hg | hg : policy.granularity = 0 ∨ policy.granularity = 1 ∨ policy.granularity = 2 ∨
    policy.granularity = 3 := by
    have hlt := UInt8.lt_iff_toNat_lt.mp hfits.granularity
    simp only [← UInt8.toNat_inj]
    change policy.granularity.toNat = 0 ∨ policy.granularity.toNat = 1 ∨ policy.granularity.toNat = 2 ∨
      policy.granularity.toNat = 3
    change policy.granularity.toNat < 4 at hlt
    omega
  · have hseconds : getGranularityInSeconds policy = 1 := by rw [getGranularityInSeconds, hg]; rfl
    have hwritten : marshallTimes policy = write32 policy.notValidBefore ++ write32 policy.keyHardLifetime := by
      rw [marshallTimes, JoinState.granularityMultiplier, hg]
      change write32 (policy.notValidBefore / 1) ++ write32 policy.keyHardLifetime = _
      rw [UInt32.div_one]
    rw [hwritten] at htimes
    obtain ⟨hbefore, hlife⟩ := holds_append.mp htimes
    have hread : newKeyPolicy mem = ⟨0, mem.uint32 1, mem.uint32 5, 9⟩ := by
      rw [newKeyPolicy, hgran, hg]
      rfl
    have hlen : (marshallPolicy policy).length = 10 := by rw [marshallPolicy, hwritten]; rfl
    have hlifeAt : mem.uint32 5 = policy.keyHardLifetime := hlife.uint32
    rw [hread, hlen, hseconds, hbefore.uint32, hlifeAt, UInt32.mul_one]
    exact ⟨rfl, by decide, by decide⟩
  · have hseconds : getGranularityInSeconds policy = 60 := by rw [getGranularityInSeconds, hg]; rfl
    have hwritten : marshallTimes policy = write32 (policy.notValidBefore / 60) ++ write24 policy.keyHardLifetime := by
      rw [marshallTimes, JoinState.granularityMultiplier, hg]
      rfl
    rw [hwritten] at htimes
    obtain ⟨hbefore, hlife⟩ := holds_append.mp htimes
    have hread : newKeyPolicy mem = ⟨1, mem.uint32 1 * 60, mem.uint24 5 * 60, 8⟩ := by
      rw [newKeyPolicy, hgran, hg]
      rfl
    have hlen : (marshallPolicy policy).length = 9 := by rw [marshallPolicy, hwritten]; rfl
    rw [lifetimeBound, hg] at hlifetime
    rw [hseconds] at haligned
    have hlifeAt : mem.uint24 5 = policy.keyHardLifetime := hlife.uint24 hlifetime
    rw [hread, hlen, hseconds, hbefore.uint32, hlifeAt, haligned]
    exact ⟨rfl, by decide, by decide⟩
  · have hseconds : getGranularityInSeconds policy = 3600 := by rw [getGranularityInSeconds, hg]; rfl
    have hwritten : marshallTimes policy = write24 (policy.notValidBefore / 3600) ++
      writeLow16 policy.keyHardLifetime := by
      rw [marshallTimes, JoinState.granularityMultiplier, hg]
      rfl
    rw [hwritten] at htimes
    obtain ⟨hbefore, hlife⟩ := holds_append.mp htimes
    have hread : newKeyPolicy mem = ⟨3, mem.uint24 1 * 3600, (mem.uint16 4).toUInt32 * 3600, 6⟩ := by
      rw [newKeyPolicy, hgran, hg]
      rfl
    have hlen : (marshallPolicy policy).length = 7 := by rw [marshallPolicy, hwritten]; rfl
    have hshort : (policy.notValidBefore / 3600).toNat < 2 ^ 24 := by
      rw [UInt32.toNat_div]
      change policy.notValidBefore.toNat / 3600 < _
      omega
    rw [lifetimeBound, hg] at hlifetime
    rw [hseconds] at haligned
    have hlifeAt : (mem.uint16 4).toUInt32 = policy.keyHardLifetime := hlife.low16 hlifetime
    rw [hread, hlen, hseconds, hbefore.uint24 hshort, hlifeAt, haligned]
    exact ⟨rfl, by decide, by decide⟩
  · have hseconds : getGranularityInSeconds policy = 86400 := by rw [getGranularityInSeconds, hg]; rfl
    have hwritten : marshallTimes policy =
        writeLow16 (policy.notValidBefore / 86400) ++ writeLow16 policy.keyHardLifetime := by
      rw [marshallTimes, JoinState.granularityMultiplier, hg]
      rfl
    rw [hwritten] at htimes
    obtain ⟨hbefore, hlife⟩ := holds_append.mp htimes
    have hread : newKeyPolicy mem = ⟨4, (mem.uint16 1).toUInt32 * 86400, (mem.uint16 3).toUInt32 * 86400, 5⟩ := by
      rw [newKeyPolicy, hgran, hg]
      rfl
    have hlen : (marshallPolicy policy).length = 6 := by rw [marshallPolicy, hwritten]; rfl
    have hshort : (policy.notValidBefore / 86400).toNat < 2 ^ 16 := by
      rw [UInt32.toNat_div]
      change policy.notValidBefore.toNat / 86400 < _
      omega
    rw [lifetimeBound, hg] at hlifetime
    rw [hseconds] at haligned
    have hlifeAt : (mem.uint16 3).toUInt32 = policy.keyHardLifetime := hlife.low16 hlifetime
    rw [hread, hlen, hseconds, hbefore.low16 hshort, hlifeAt, haligned]
    exact ⟨rfl, by decide, by decide⟩

section Cipher

variable {E : Key128 → Block → Block}

def SecurityKeyAndPolicies.auth (entity : SecurityKeyAndPolicies) : List UInt8 :=
  marshallPolicy entity.keyPolicy ++ entity.marshallRemote ++ entity.marshallStatic

theorem SecurityKeyAndPolicies.marshall_eq (entity : SecurityKeyAndPolicies) :
    entity.marshall = entity.auth ++ (entity.keyMaterial.toList ++ entity.mic.toList) := by
  rw [marshall, auth, List.append_assoc _ entity.keyMaterial.toList]

theorem SecurityKeyAndPolicies.take_marshall (entity : SecurityKeyAndPolicies) :
    entity.marshall.take (entity.marshall.length - 16 - 4) = entity.auth := by
  have hlen : entity.marshall.length - 16 - 4 = entity.auth.length := by
    rw [entity.marshall_eq]
    simp
  rw [hlen, entity.marshall_eq, List.take_left]

theorem length_distributionNonce (settings : Settings) (timeStamp : UInt32) :
    (distributionNonce settings timeStamp).length = 13 := by
  simp [distributionNonce, networkBytes]

theorem toList_micOf {bytes : List UInt8} (h : bytes.length = 4) : (micOf bytes).toList = bytes := by
  apply List.ext_getElem
  · simp [h]
  · intro i h₁ h₂
    simp [micOf, h₂]

theorem authEncrypt_ccm2 (E : Key128 → Block → Block) (key : Key128) {nonce : List UInt8} (auth msg : List UInt8)
    {pMsg : Option (List UInt8)} (hnonce : nonce.length = 13) (hauth : auth.length < 256) (hmsg : msg.length ≤ 16)
    (hpMsg : PointsTo pMsg msg) :
    ∃ c, ccm2.authEncrypt E (some key) (some nonce) (some auth) (UInt16.ofNat auth.length) pMsg
        (UInt16.ofNat msg.length) true =
      some (c, UInt16.ofNat auth.length + UInt16.ofNat msg.length + 4,
        auth ++ encrypt (blockCipher (E key)) micSize nonce auth msg) := by
  have hround : ∀ n < 300, roundUp n ≤ 320 := by
    intro n hn
    rw [roundUp]
    omega
  have hpasses : Passes nonce (some auth) pMsg (UInt16.ofNat auth.length) (UInt16.ofNat msg.length) nonce
      auth msg := by
    refine ⟨hnonce, .inr ⟨[], by rw [List.append_nil]⟩, .inr ⟨[], by rw [List.append_nil]⟩, hpMsg,
      toNat_ofNat_length (by omega), toNat_ofNat_length (by omega), ?_⟩
    have hfront := hround (if auth = [] then 0 else 2 + auth.length) (by split <;> omega)
    have hback := hround msg.length (by omega)
    omega
  obtain ⟨c, hcall, -⟩ := authEncrypt_eq (c := ccm2) (E := E) key hpasses rfl (by decide) (by omega)
  refine ⟨c, hcall.trans ?_⟩
  rw [encrypt, List.append_assoc, mic_eq key nonce auth msg rfl (by decide) (by decide)]
  rfl

theorem marshall_encrypted (settings : Settings) (sessionKey : SecurityKeyAndPolicies) (masterKey : Key128)
    (hauth : sessionKey.auth.length < 256) :
    ∃ sent, encryptAndAuthSessionKey E settings sessionKey masterKey = some sent ∧
      sent.marshall = sessionKey.auth ++ encrypt (blockCipher (E masterKey)) micSize
        (distributionNonce settings sessionKey.timeStamp) sessionKey.auth sessionKey.keyMaterial.toList := by
  have hpoints : PointsTo (some sessionKey.keyMaterial.toList) sessionKey.keyMaterial.toList :=
    .inr ⟨[], by rw [List.append_nil]⟩
  obtain ⟨c, hcall⟩ := authEncrypt_ccm2 E masterKey sessionKey.auth sessionKey.keyMaterial.toList
    (length_distributionNonce settings sessionKey.timeStamp) hauth (by simp) hpoints
  generalize henc : encrypt (blockCipher (E masterKey)) micSize (distributionNonce settings sessionKey.timeStamp)
    sessionKey.auth sessionKey.keyMaterial.toList = enc at hcall ⊢
  have hlen : enc.length = 20 := by rw [← henc, length_encrypt, Vector.length_toList]; rfl
  rw [Vector.length_toList] at hcall
  refine ⟨{ sessionKey with
    keyMaterial := Block.ofList (((sessionKey.auth ++ enc).drop sessionKey.auth.length).take 16)
    mic := micOf ((sessionKey.auth ++ enc).drop (sessionKey.auth.length + 16)) }, ?_, ?_⟩
  · rw [encryptAndAuthSessionKey]
    simp only [sessionKey.take_marshall]
    rw [show (16 : UInt16) = UInt16.ofNat 16 from rfl, hcall]
    rfl
  · rw [SecurityKeyAndPolicies.marshall_eq]
    have hkey : ((sessionKey.auth ++ enc).drop sessionKey.auth.length).take 16 = enc.take 16 := by rw [List.drop_left]
    have hmic : (sessionKey.auth ++ enc).drop (sessionKey.auth.length + 16) = enc.drop 16 := by
      rw [← List.drop_drop, List.drop_left]
    change sessionKey.auth ++ (Vector.toList (Block.ofList _) ++ (micOf _).toList) = _
    rw [hkey, hmic, Block.toList_ofList (by simp [hlen]), toList_micOf (by simp [hlen]), List.take_append_drop]

end Cipher

/-! ## The device -/

/-- The cipher of the device decrypts what the standard encrypts over the block cipher of the manager. -/
def Opens (aes : AesCcm) (E : Key128 → Block → Block) : Prop :=
  ∀ key nonce auth data,
    aes.decrypt key nonce auth (encrypt (blockCipher (E key)) micSize nonce.toList auth data) = some data

structure HoldsMasterKey (env : DsmoEnv) (s : KeyStore) (settings : Settings) (newestKey : PhySpecialKey) : Prop where
  manager : env.secManagerEUI64BE = settings.managerAddress64
  holds : ∃ master, getNonSessionKey s newestKey.keyID slmKeyUsageMaster = some master ∧ master.key = newestKey.key

structure Requests (req : ExecReqSrvc Memory) (methID : UInt8) (sent : List UInt8) : Prop where
  methID : req.methID = methID
  len : req.len.toNat = sent.length
  data : req.reqData.Holds 0 sent

def Accepts (after : UInt8 × KeyStore → DsmoOutcome) : Prop :=
  ∀ r, (after r).sfc = sfcSuccess ∧ (after r).store = r.2 ∧ (after r).keyFailReport = false

theorem toList_dsmoNonce (settings : Settings) (timeStamp : UInt32) :
    (dsmoNonce settings.managerAddress64 (write32 timeStamp)).toList = distributionNonce settings timeStamp := by
  apply List.ext_getElem
  · rw [Vector.length_toList, length_distributionNonce]
  · intro i h₁ h₂
    have hi : i < 13 := by simpa using h₁
    by_cases hlast : i = 12
    · subst hlast
      simp [dsmoNonce, distributionNonce, networkBytes]
    · have hfront : i < (settings.managerAddress64.toList ++ write32 timeStamp).length := by
        simp
        omega
      have hright : (distributionNonce settings timeStamp)[i] =
          (settings.managerAddress64.toList ++ write32 timeStamp)[i] := List.getElem_append_left hfront
      rw [hright]
      simp only [dsmoNonce, Vector.getElem_toList, Vector.getElem_ofFn, if_neg hlast]
      exact List.getD_eq_getElem _ _ hfront

section Delivery

variable {E : Key128 → Block → Block} {settings : Settings} {env : DsmoEnv} {s : KeyStore} {newestKey : PhySpecialKey}

theorem length_marshallRemote (entity : SecurityKeyAndPolicies) :
    entity.marshallRemote.length = if entity.keyPolicy.keyUsage = slmKeyUsageSession then 28 else 0 := by
  rw [SecurityKeyAndPolicies.marshallRemote]
  change List.length (if entity.keyPolicy.keyUsage = slmKeyUsageSession then _ else _) = _
  split
  · simp
  · rfl

def SecurityKeyAndPolicies.args (settings : Settings) (entity : SecurityKeyAndPolicies) : SetKeyArgs :=
  let session := entity.keyPolicy.keyUsage = slmKeyUsageSession
  { peerIPv6Address := if session then some entity.remoteAddress128 else none
    udpSPort := if session then entity.endPortSource else 0
    udpDPort := if session then entity.endPortRemote else 0
    keyID := entity.newKeyID
    key := entity.keyMaterial
    issuerEUI64 :=
      if entity.keyPolicy.keyUsage = slmKeyUsageMaster then some settings.managerAddress64
      else if session then some entity.eui64Remote else none
    validNotBefore := entity.keyPolicy.notValidBefore
    softLifetime := (entity.keyPolicy.keyHardLifetime * getGranularityInSeconds entity.keyPolicy) >>> 1
    hardLifetime := entity.keyPolicy.keyHardLifetime * getGranularityInSeconds entity.keyPolicy
    usage := entity.keyPolicy.keyUsage
    policy := entity.keyPolicy.policyPolicy }

variable {entity : SecurityKeyAndPolicies}

theorem newKeyArgs_eq {mem : Memory} (hmanager : env.secManagerEUI64BE = settings.managerAddress64)
    (hfits : entity.keyPolicy.FitsEncoding) (husage : entity.keyPolicy.keyUsage < 8) (hmem : mem.Holds 0 entity.auth) :
    newKeyUsage mem = entity.keyPolicy.keyUsage ∧
      newKeyArgs env mem entity.newKeyID entity.keyMaterial.toList = entity.args settings := by
  obtain ⟨hpolicyRemote, -⟩ := Memory.holds_append.mp hmem
  obtain ⟨hpolicy, hremote⟩ := Memory.holds_append.mp hpolicyRemote
  obtain ⟨hread, hatLeast, -⟩ := newKeyPolicy_eq hfits hpolicy
  obtain ⟨htype, htail⟩ := Memory.holds_cons.mp hpolicy
  have hkeyUsage : newKeyUsage mem = entity.keyPolicy.keyUsage := by
    have hlow : ∀ u < 8, UInt8.ofNat u &&& 0x07 = UInt8.ofNat u := by decide
    have hsame := hlow entity.keyPolicy.keyUsage.toNat (UInt8.lt_iff_toNat_lt.mp husage)
    rw [UInt8.ofNat_toNat] at hsame
    rw [newKeyUsage, htype, (keyTypeUsageValue_bits entity.keyPolicy).2, hsame]
  have hpolicyPolicy : mem ((marshallPolicy entity.keyPolicy).length - 1) = entity.keyPolicy.policyPolicy := by
    obtain ⟨hlast, -⟩ := Memory.holds_cons.mp (Memory.holds_append.mp htail).2
    have hlen : (marshallPolicy entity.keyPolicy).length - 1 = 0 + 1 + (marshallTimes entity.keyPolicy).length := by
      simp [marshallPolicy]
      omega
    rw [hlen]
    exact hlast
  have hmaterial : (Vector.ofFn fun i => entity.keyMaterial.toList.getD i 0) = entity.keyMaterial :=
    Block.ofList_toList entity.keyMaterial
  refine ⟨hkeyUsage, ?_⟩
  by_cases hsession : entity.keyPolicy.keyUsage = slmKeyUsageSession
  · have hwritten : entity.marshallRemote = write16 entity.endPortSource ++ entity.eui64Remote.toList ++
        entity.remoteAddress128.toList ++ write16 entity.endPortRemote := if_pos hsession
    rw [hwritten] at hremote
    obtain ⟨hfront, hport⟩ := Memory.holds_append.mp hremote
    obtain ⟨hfront', haddress⟩ := Memory.holds_append.mp hfront
    obtain ⟨hsource, heui64⟩ := Memory.holds_append.mp hfront'
    simp only [List.length_append, Vector.length_toList, length_write16, Nat.zero_add] at hsource heui64 haddress hport
    generalize (marshallPolicy entity.keyPolicy).length = len at *
    have h1 : len - 1 + 1 = len := by omega
    have h3 : len - 1 + 3 = len + 2 := by omega
    have h11 : len - 1 + 11 = len + (2 + 8) := by omega
    have h27 : len - 1 + 27 = len + (2 + 8 + 16) := by omega
    have hother : slmKeyUsageSession ≠ slmKeyUsageMaster := by decide
    simp only [newKeyArgs, hread, hkeyUsage, hsession, SecurityKeyAndPolicies.args, if_true, hpolicyPolicy, hmaterial,
      h1, h3, h11, h27, hsource.uint16, hport.uint16, haddress.vector, heui64.vector, if_neg hother]
  · simp only [newKeyArgs, hread, hkeyUsage, SecurityKeyAndPolicies.args, if_neg hsession, hpolicyPolicy, hmaterial,
      hmanager]

def afterSetKey (env : DsmoEnv) (mem : Memory) (master : SlmeKey) (args : SetKeyArgs) (rspTai : UInt32)
    (msgIncrement : UInt8) (r : UInt8 × KeyStore) : DsmoOutcome :=
  let status := if r.1 = sfcSuccess then sfcSuccess else sfcFailure
  let freed := newKeyUsage mem = slmKeyUsageMaster ∧ args.keyID = master.keyID
  { sfc := sfcSuccess
    rspData := if freed then none else some (newKeyRsp env master status rspTai msgIncrement)
    store := r.2
    keyFailReport := false
    newKeyAdded :=
      if r.1 = sfcSuccess ∧ newKeyUsage mem = slmKeyUsageSession then
        some (keyCategory args.peerIPv6Address args.udpSPort args.udpDPort (newKeyUsage mem))
      else none }

/-- Where the device finds the parts of a message: `base` is where the fields without a fixed place end. -/
structure Layout (mem : Memory) (entity : SecurityKeyAndPolicies) (enc : List UInt8) (base : Nat) : Prop where
  size : dsmoMaxNewKeySize -
    (if entity.keyPolicy.keyUsage = slmKeyUsageDll ∨ entity.keyPolicy.keyUsage = slmKeyUsageMaster then 28 else 0) -
      (newKeyPolicy mem).shorter = base + 28
  length : entity.auth.length = base + 8
  securityControl : mem (base + 1) = entity.securityControl
  keyIdentifier : mem (base + 2) = entity.keyIdentifier
  timeStamp : mem.bytes (base + 3) 4 = write32 entity.timeStamp
  newKeyID : mem (base + 7) = entity.newKeyID
  auth : mem.bytes 0 (base + 28 - 20) = entity.auth
  enc : mem.bytes (base + 28 - 20) 20 = enc

theorem layout_of_holds {mem : Memory} {enc : List UInt8} (henclen : enc.length = 20)
    (hfits : entity.keyPolicy.FitsEncoding) (husage : entity.keyPolicy.keyUsage < 3)
      (hmem : mem.Holds 0 (entity.auth ++ enc)) :
    ∃ base, Layout mem entity enc base := by
  obtain ⟨hauth, hencrypted⟩ := holds_append.mp hmem
  obtain ⟨hfront, hstatic⟩ := holds_append.mp hauth
  obtain ⟨hpolicy, -⟩ := holds_append.mp hfront
  obtain ⟨hread, hatLeast, hatMost⟩ := newKeyPolicy_eq hfits hpolicy
  have hfrontlen : (marshallPolicy entity.keyPolicy ++ entity.marshallRemote).length =
      (marshallPolicy entity.keyPolicy).length + if entity.keyPolicy.keyUsage = slmKeyUsageSession then 28 else 0 := by
    rw [List.length_append, length_marshallRemote]
  have hauthlen : entity.auth.length = (marshallPolicy entity.keyPolicy ++ entity.marshallRemote).length + 8 := by
    rw [SecurityKeyAndPolicies.auth, List.length_append]
    rfl
  generalize (marshallPolicy entity.keyPolicy ++ entity.marshallRemote).length = base at *
  have hcut : base + 28 - 20 = entity.auth.length := by omega
  obtain ⟨hids, hrest⟩ := holds_append.mp hstatic
  obtain ⟨hids', hstamp⟩ := holds_append.mp hids
  rw [Nat.zero_add] at hids' hstamp hrest hencrypted
  obtain ⟨-, hids₁⟩ := holds_cons.mp hids'
  obtain ⟨hcontrol, hids₂⟩ := holds_cons.mp hids₁
  obtain ⟨hidentifier, -⟩ := holds_cons.mp hids₂
  obtain ⟨hnewKeyID, -⟩ := holds_cons.mp hrest
  refine ⟨base, ?_, hauthlen, hcontrol, hidentifier, hstamp, hnewKeyID, ?_, ?_⟩
  · have husages : ∀ u < 3, (if UInt8.ofNat u = slmKeyUsageDll ∨ UInt8.ofNat u = slmKeyUsageMaster then 28 else 0) +
        (if UInt8.ofNat u = slmKeyUsageSession then 28 else 0) = 28 := by decide
    have hsum := husages entity.keyPolicy.keyUsage.toNat (UInt8.lt_iff_toNat_lt.mp husage)
    rw [UInt8.ofNat_toNat] at hsum
    generalize (if entity.keyPolicy.keyUsage = slmKeyUsageSession then 28 else 0) = remote at hsum hfrontlen
    rw [hread]
    change 66 - _ - (10 - _) = base + 28
    omega
  · rw [hcut]
    exact hauth
  · rw [hcut, ← henclen]
    exact hencrypted

variable {req : ExecReqSrvc Memory}

theorem executeNewKey_eq (hopens : Opens env.aes E)
    (hholds : HoldsMasterKey env s settings newestKey) (hidentifier : entity.keyIdentifier = newestKey.keyID)
    (hcontrol : entity.securityControl &&& (secLevelMask ||| secKeyIdModeMask) = securityCtrlEncMic32)
    (hfits : entity.keyPolicy.FitsEncoding) (husage : entity.keyPolicy.keyUsage < 3)
    (hreq : Requests req dsmoNewKey (entity.auth ++ encrypt (blockCipher (E newestKey.key)) micSize
      (distributionNonce settings entity.timeStamp) entity.auth entity.keyMaterial.toList))
    (keyTai rspTai : UInt32) (msgIncrement : UInt8) : ∃ after, Accepts after ∧
      dsmoExecute env s req keyTai rspTai msgIncrement = (setKey s (entity.args settings) keyTai).map after := by
  obtain ⟨master, hfound, hkey⟩ := hholds.holds
  generalize henc : encrypt (blockCipher (E newestKey.key)) micSize (distributionNonce settings entity.timeStamp)
    entity.auth entity.keyMaterial.toList = enc at hreq
  have henclen : enc.length = 20 := by rw [← henc, length_encrypt, Vector.length_toList]; rfl
  obtain ⟨base, layout⟩ := layout_of_holds henclen hfits husage hreq.data
  obtain ⟨hkeyUsage, hargs⟩ := newKeyArgs_eq hholds.manager hfits (UInt8.lt_trans husage (by decide))
    (holds_append.mp hreq.data).1
  have hopen : env.aes.decrypt master.key (dsmoNonce env.secManagerEUI64BE (write32 entity.timeStamp)) entity.auth enc =
      some entity.keyMaterial.toList := by
    rw [hkey, hholds.manager, ← henc, ← toList_dsmoNonce]
    exact hopens newestKey.key _ entity.auth entity.keyMaterial.toList
  have hlong : ¬ req.len.toNat < base + 28 := by
    rw [hreq.len, List.length_append, layout.length]
    omega
  refine ⟨afterSetKey env req.reqData master (entity.args settings) rspTai msgIncrement, fun r => ⟨rfl, rfl, rfl⟩, ?_⟩
  rw [dsmoExecute, if_pos hreq.methID, executeNewKey]
  rw [hkeyUsage, layout.size, if_neg hlong, Nat.add_sub_cancel, layout.keyIdentifier, hidentifier, hfound]
  dsimp only
  rw [layout.securityControl, hcontrol, if_neg (not_not.mpr rfl), layout.timeStamp, layout.auth, layout.enc, hopen]
  dsimp only
  rw [layout.newKeyID, hargs]
  cases setKey s (entity.args settings) keyTai with
  | none => rfl
  | some r =>
    rw [Option.map_some, afterSetKey, hkeyUsage]
    rfl

theorem executeDeleteKey_eq {entity : SecurityDeleteKeyReq} (hopens : Opens env.aes E)
    (hholds : HoldsMasterKey env s settings newestKey) (hidentifier : entity.masterKeyID = newestKey.keyID)
    (htype : entity.keyType = slmKeyUsageSession)
    (hmic : entity.mic.toList = encrypt (blockCipher (E newestKey.key)) micSize
      (distributionNonce settings entity.nonce)
      (entity.marshall.take 27) [])
    (hreq : Requests req dsmoDeleteKey entity.marshall) (keyTai rspTai : UInt32) (msgIncrement : UInt8) :
    let r := deleteKey s (some entity.destinationAddress) entity.sourcePort entity.destinationPort entity.keyID
      slmKeyUsageSession
    dsmoExecute env s req keyTai rspTai msgIncrement = some (.answer r.2 r.1) := by
  obtain ⟨master, hfound, hkey⟩ := hholds.holds
  obtain ⟨hauth, hmicAt⟩ := holds_append.mp hreq.data
  obtain ⟨hfields, hnonce⟩ := holds_append.mp hauth
  obtain ⟨hfields', hdestinationPort⟩ := holds_append.mp hfields
  obtain ⟨hports, haddress⟩ := holds_append.mp hfields'
  obtain ⟨hids, hsourcePort⟩ := holds_append.mp hports
  obtain ⟨htypeAt, hids₁⟩ := holds_cons.mp hids
  obtain ⟨hidentifierAt, hids₂⟩ := holds_cons.mp hids₁
  obtain ⟨hkeyID, -⟩ := holds_cons.mp hids₂
  have hlen : req.len.toNat = 31 := by
    rw [hreq.len]
    simp [SecurityDeleteKeyReq.marshall]
  have hfront : entity.marshall.take 27 = [entity.keyType, entity.masterKeyID, entity.keyID] ++
    write16 entity.sourcePort ++
      entity.destinationAddress.toList ++ write16 entity.destinationPort ++ write32 entity.nonce :=
    List.take_left' (by simp)
  have hauthAt : req.reqData.bytes 0 27 = entity.marshall.take 27 := by
    rw [hfront]
    have hbytes := Holds.bytes_eq hauth
    simpa using hbytes
  have hnonceAt : req.reqData.bytes 23 4 = write32 entity.nonce := by
    have hbytes := Holds.bytes_eq hnonce
    simpa using hbytes
  have hmicBytes : req.reqData.bytes 27 4 = entity.mic.toList := by
    have hbytes := Holds.bytes_eq hmicAt
    simpa using hbytes
  have hauthenticated : authenticated env s req.reqData 31 = true := by
    rw [authenticated, show req.reqData 1 = newestKey.keyID from hidentifierAt.trans hidentifier, hfound]
    dsimp only [micSize, Nat.reduceSub]
    rw [hnonceAt, hauthAt, hmicBytes, hmic, hkey, hholds.manager, ← toList_dsmoNonce, hopens newestKey.key]
    rfl
  have hsession : req.reqData 0 = slmKeyUsageSession := htypeAt.trans htype
  have hport : req.reqData.uint16 3 = entity.sourcePort := hsourcePort.uint16
  have hport' : req.reqData.uint16 21 = entity.destinationPort := by
    have hread := hdestinationPort.uint16
    simpa using hread
  have hpeer : (req.reqData.vector 5 : Addr128) = entity.destinationAddress := by
    have hread := haddress.vector
    simpa using hread
  have hkeyIDAt : req.reqData 2 = entity.keyID := hkeyID
  have hnot : req.methID ≠ dsmoNewKey := by
    rw [hreq.methID]
    decide
  have hsize : ¬ req.len.toNat < dsmoMaxDelKeySize := by
    rw [hlen]
    decide
  rw [dsmoExecute, if_neg hnot, if_pos hreq.methID, executeDeleteKey]
  rw [if_pos hsession, if_neg hsize, show dsmoMaxDelKeySize = 31 from rfl, hauthenticated,
    if_neg (not_not.mpr rfl), if_pos hsession, hpeer, hport, hport', hkeyIDAt, hsession]

end Delivery

namespace KeyToSend

def policy : KeyToSend → Policy
  | .session phyKey => phyKey.sessionKeyPolicy
  | .master phyKey | .subnet phyKey => phyKey.policy

def usage : KeyToSend → UInt8
  | .session _ => slmKeyUsageSession
  | .master _ => slmKeyUsageMaster
  | .subnet _ => slmKeyUsageDll

/-- The keys that the manager creates: the policy has the usage, and lifetimes for its granularity. -/
structure Sendable (key : KeyToSend) : Prop where
  usage : key.policy.keyUsage = key.usage
  fits : key.policy.FitsEncoding

def hardSeconds (key : KeyToSend) : Nat :=
  key.policy.keyHardLifetime.toNat * (getGranularityInSeconds key.policy).toNat

def peer : KeyToSend → Option Addr128
  | .session phyKey => some (Block.ofList phyKey.destination.address128)
  | .master _ | .subnet _ => none

def ports : KeyToSend → UInt16 × UInt16
  | .session phyKey => (portOf phyKey.source.tsap, portOf phyKey.destination.tsap)
  | .master _ | .subnet _ => (0, 0)

def issuer (settings : Settings) : KeyToSend → Option Eui64
  | .session phyKey => some phyKey.destination.address64
  | .master _ => some settings.managerAddress64
  | .subnet _ => none

def keyID : KeyToSend → UInt8
  | .session phyKey => phyKey.keyID.toUInt8
  | .master phyKey | .subnet phyKey => phyKey.keyID

def material : KeyToSend → Key128
  | .session phyKey => phyKey.key
  | .master phyKey | .subnet phyKey => phyKey.key

structure Sets (settings : Settings) (key : KeyToSend) (args : SetKeyArgs) : Prop where
  peer : args.peerIPv6Address = key.peer
  ports : (args.udpSPort, args.udpDPort) = key.ports
  issuer : args.issuerEUI64 = key.issuer settings
  keyID : args.keyID = key.keyID
  material : args.key = key.material
  usage : args.usage = key.usage
  validNotBefore : args.validNotBefore = key.policy.notValidBefore
  hardLifetime : args.hardLifetime.toNat = key.hardSeconds

theorem sets_prepared {settings : Settings} {key : KeyToSend} (hsendable : key.Sendable)
    (hseconds : key.hardSeconds < 2 ^ 32) (newestKey : PhySpecialKey) (timeStamp : UInt32)
    (uninitialised : SecurityKeyAndPolicies) :
    key.Sets settings ((key.prepared newestKey timeStamp uninitialised).args settings) := by
  have husage := hsendable.usage
  have hlifetime : (key.policy.keyHardLifetime * getGranularityInSeconds key.policy).toNat = key.hardSeconds := by
    rw [UInt32.toNat_mul]
    exact Nat.mod_eq_of_lt hseconds
  cases key with
  | session phyKey =>
    have hsession : phyKey.sessionKeyPolicy.keyUsage = slmKeyUsageSession := husage
    have hother : slmKeyUsageSession ≠ slmKeyUsageMaster := by decide
    refine ⟨if_pos hsession, ?_, ?_, rfl, rfl, husage, rfl, hlifetime⟩
    · exact congrArg₂ Prod.mk (if_pos hsession) (if_pos hsession)
    · change (if phyKey.sessionKeyPolicy.keyUsage = slmKeyUsageMaster then _ else
        if phyKey.sessionKeyPolicy.keyUsage = slmKeyUsageSession then _ else _) = _
      rw [hsession, if_neg hother, if_pos rfl]
      rfl
  | master phyKey =>
    have hmaster : phyKey.policy.keyUsage = slmKeyUsageMaster := husage
    have hother : phyKey.policy.keyUsage ≠ slmKeyUsageSession := by
      rw [hmaster]
      decide
    exact ⟨if_neg hother, congrArg₂ Prod.mk (if_neg hother) (if_neg hother), if_pos hmaster, rfl, rfl, husage, rfl,
      hlifetime⟩
  | subnet phyKey =>
    have hdll : phyKey.policy.keyUsage = slmKeyUsageDll := husage
    have hother : phyKey.policy.keyUsage ≠ slmKeyUsageSession := by
      rw [hdll]
      decide
    have hother' : phyKey.policy.keyUsage ≠ slmKeyUsageMaster := by
      rw [hdll]
      decide
    exact ⟨if_neg hother, congrArg₂ Prod.mk (if_neg hother) (if_neg hother),
      (if_neg hother').trans (if_neg hother), rfl,
      rfl, husage, rfl, hlifetime⟩

end KeyToSend

section Claims

variable (E : Key128 → Block → Block) (settings : KeySettings) (env : DsmoEnv) (s : KeyStore)
    (newestKey : PhySpecialKey)

/-- The bytes of a key make the device call `SLME_SetKey` with what the manager means. -/
def KeyToSend.Arrives (key : KeyToSend) (timeStamp : UInt32) (uninitialised : SecurityKeyAndPolicies) : Prop :=
  ∃ sent args, key.send E settings.toSettings newestKey timeStamp uninitialised = some sent ∧
    key.Sets settings.toSettings args ∧
    ∀ req, Requests req dsmoNewKey sent → ∀ keyTai rspTai msgIncrement, ∃ after, Accepts after ∧
      dsmoExecute env s req keyTai rspTai msgIncrement = (setKey s args keyTai).map after

/-- The bytes of a deletion make the device delete the key with this peer and number, and nothing else. -/
def DeletionArrives (phyKey : KeyUtils.PhySessionKey) (currentTAI : UInt32) (uninitialised : Vector UInt8 4) : Prop :=
  ∃ params, getKeyDeletionParams E settings.toSettings settings.policies phyKey newestKey currentTAI uninitialised =
      some params ∧
    ∀ req, Requests req dsmoDeleteKey params.marshall → ∀ keyTai rspTai msgIncrement, ∃ s' sfc,
      dsmoExecute env s req keyTai rspTai msgIncrement = some (.answer s' sfc) ∧
      match findKey s.keysCatMap (some (Block.ofList phyKey.destination.address128)) (portOf phyKey.source.tsap)
        (portOf phyKey.destination.tsap) phyKey.keyID.toUInt8 slmKeyUsageSession with
      | some k => sfc = sfcSuccess ∧ s.keysCatMap.keys.Perm (k :: s'.keysCatMap.keys)
      | none => sfc = sfcInvalidElementIndex ∧ s' = s

variable {E settings env s newestKey}

theorem length_auth_lt (entity : SecurityKeyAndPolicies) : entity.auth.length < 256 := by
  have htimes : (marshallTimes entity.keyPolicy).length ≤ 8 := by
    unfold marshallTimes
    split
    · exact Nat.le_refl 8
    · split
      · exact Nat.le_succ 7
      · split
        · exact Nat.le_add_right 5 3
        · exact Nat.le_add_right 4 4
  have hremote := length_marshallRemote entity
  have hstatic : entity.marshallStatic.length = 8 := rfl
  have hpolicy : (marshallPolicy entity.keyPolicy).length = (marshallTimes entity.keyPolicy).length + 2 := by
    simp [marshallPolicy]
  rw [SecurityKeyAndPolicies.auth, List.length_append, List.length_append, hstatic, hremote, hpolicy]
  split <;> omega

theorem KeyToSend.Sendable.arrives {key : KeyToSend} (hsendable : key.Sendable) (hopens : Opens env.aes E)
    (hholds : HoldsMasterKey env s settings.toSettings newestKey)
    (hseconds : key.hardSeconds < 2 ^ 32) (timeStamp : UInt32) (uninitialised : SecurityKeyAndPolicies) :
    key.Arrives E settings env s newestKey timeStamp uninitialised := by
  let entity := key.prepared newestKey timeStamp uninitialised
  have hpolicy : entity.keyPolicy = key.policy := by cases key <;> rfl
  have hidentifier : entity.keyIdentifier = newestKey.keyID := by cases key <;> rfl
  have hstamp : entity.timeStamp = timeStamp := by cases key <;> rfl
  have hcontrol : entity.securityControl &&& (secLevelMask ||| secKeyIdModeMask) = securityCtrlEncMic32 := by
    have hclosed : (0x05 + (0x01 : UInt8) <<< (3 : UInt8)) &&& (secLevelMask ||| secKeyIdModeMask) =
      securityCtrlEncMic32 := by
      decide
    cases key <;> exact hclosed
  have husage : entity.keyPolicy.keyUsage < 3 := by
    rw [hpolicy, hsendable.usage]
    cases key with
    | session _ => exact show slmKeyUsageSession < 3 by decide
    | master _ => exact show slmKeyUsageMaster < 3 by decide
    | subnet _ => exact show slmKeyUsageDll < 3 by decide
  obtain ⟨sealed, henc, hmarshall⟩ :=
    marshall_encrypted (E := E) settings.toSettings entity newestKey.key (length_auth_lt entity)
  refine ⟨sealed.marshall, entity.args settings.toSettings, ?_, ?_, ?_⟩
  · rw [KeyToSend.send]
    change (encryptAndAuthSessionKey E settings.toSettings entity newestKey.key).bind _ = _
    rw [henc]
    rfl
  · exact KeyToSend.sets_prepared hsendable hseconds newestKey timeStamp uninitialised
  · intro req hreq keyTai rspTai msgIncrement
    rw [hmarshall] at hreq
    exact executeNewKey_eq hopens hholds hidentifier hcontrol (hpolicy ▸ hsendable.fits) husage hreq keyTai rspTai
      msgIncrement

theorem perm_eraseP {p : SlmeKey → Bool} {list : List SlmeKey} {k : SlmeKey} (h : list.find? p = some k) :
    list.Perm (k :: list.eraseP p) := by
  obtain ⟨hk, front, back, rfl, hfront⟩ := List.find?_eq_some_iff_append.mp h
  have hnone : ∀ a ∈ front, ¬ p a = true := fun a ha => by simpa using hfront a ha
  rw [List.eraseP_append_right _ hnone, List.eraseP_cons_of_pos hk]
  exact List.perm_middle

theorem deleteKey_cases (s : KeyStore) (peer : Option Addr128) (sPort dPort : UInt16) (keyID usage : UInt8) :
    match findKey s.keysCatMap peer sPort dPort keyID usage with
    | some k => (deleteKey s peer sPort dPort keyID usage).1 = sfcSuccess ∧
        s.keysCatMap.keys.Perm (k :: (deleteKey s peer sPort dPort keyID usage).2.keysCatMap.keys)
    | none => (deleteKey s peer sPort dPort keyID usage).1 = sfcInvalidElementIndex ∧
        (deleteKey s peer sPort dPort keyID usage).2 = s := by
  rw [findKey, deleteKey]
  cases hcat : findKeyCat s.keysCatMap peer sPort dPort usage with
  | none => exact ⟨rfl, rfl⟩
  | some list =>
    dsimp only
    cases hfind : list.find? fun k => decide (k.usage = usage ∧ k.keyID = keyID) with
    | none =>
      have hno : ¬ (list.any fun k => decide (k.usage = usage ∧ k.keyID = keyID)) = true := by
        rw [List.any_eq_true, ← List.find?_isSome, hfind]
        exact nofun
      rw [if_neg hno]
      exact ⟨rfl, rfl⟩
    | some k =>
      have hyes : (list.any fun k => decide (k.usage = usage ∧ k.keyID = keyID)) = true := by
        rw [List.any_eq_true, ← List.find?_isSome, hfind]
        rfl
      rw [if_pos hyes]
      have hkeys := perm_keys_updateCat (f := fun l => l.eraseP fun k => k.usage = usage ∧ k.keyID = keyID) hcat
      refine ⟨rfl, (List.perm_append_right_iff _).mp (hkeys.trans ?_)⟩
      exact ((perm_eraseP hfind).append_left _).trans List.perm_middle

theorem deletionArrives (hopens : Opens env.aes E) (hholds : HoldsMasterKey env s settings.toSettings newestKey)
    (phyKey : KeyUtils.PhySessionKey) (currentTAI : UInt32) (uninitialised : Vector UInt8 4) :
    DeletionArrives E settings env s newestKey phyKey currentTAI uninitialised := by
  let asked : SecurityDeleteKeyReq := {
    keyType := settings.policies.defaultSessionPolicy.keyUsage
    masterKeyID := newestKey.keyID
    keyID := phyKey.keyID.toUInt8
    sourcePort := portOf phyKey.source.tsap
    destinationAddress := Block.ofList phyKey.destination.address128
    destinationPort := portOf phyKey.destination.tsap
    nonce := currentTAI
    mic := uninitialised }
  have hlen : asked.marshall.length - 4 = 27 := by simp [SecurityDeleteKeyReq.marshall]
  have hauthlen : (asked.marshall.take 27).length = 27 := by simp [SecurityDeleteKeyReq.marshall]
  obtain ⟨c, hcall⟩ := authEncrypt_ccm2 E newestKey.key (asked.marshall.take 27) []
    (length_distributionNonce settings.toSettings currentTAI) (by omega) (by decide) (.inl rfl)
  generalize henc : encrypt (blockCipher (E newestKey.key)) micSize (distributionNonce settings.toSettings currentTAI)
    (asked.marshall.take 27) [] = enc at hcall
  have henclen : enc.length = 4 := by rw [← henc, length_encrypt]; rfl
  let params : SecurityDeleteKeyReq := { asked with mic := micOf enc }
  refine ⟨params, ?_, fun req hreq keyTai rspTai msgIncrement => ?_⟩
  · rw [getKeyDeletionParams]
    change (ccm2.authEncrypt E (some newestKey.key) (some (distributionNonce settings.toSettings currentTAI))
      (some (asked.marshall.take (asked.marshall.length - 4)))
      (UInt16.ofNat (asked.marshall.take (asked.marshall.length - 4)).length) none 0 true).bind _ = _
    rw [hlen, show (0 : UInt16) = UInt16.ofNat ([] : List UInt8).length from rfl, hcall]
    change some { asked with mic := micOf ((asked.marshall.take 27 ++ enc).drop (asked.marshall.take 27).length) } = _
    rw [List.drop_left]
  · have hsame : params.marshall.take 27 = asked.marshall.take 27 := by
      simp [SecurityDeleteKeyReq.marshall, params, List.take_append]
    have hmic : params.mic.toList = encrypt (blockCipher (E newestKey.key)) micSize
        (distributionNonce settings.toSettings params.nonce) (params.marshall.take 27) [] := by
      rw [hsame]
      exact (toList_micOf henclen).trans henc.symm
    exact ⟨_, _, executeDeleteKey_eq hopens hholds rfl rfl hmic hreq keyTai rspTai msgIncrement,
      deleteKey_cases s (some params.destinationAddress) params.sourcePort params.destinationPort params.keyID
        slmKeyUsageSession⟩

/-- What the device would set does not tell a lifetime whose seconds are more than `SLME_SetKey` takes. -/
theorem KeyToSend.Arrives.hardSeconds_lt {key : KeyToSend} {timeStamp : UInt32} {uninitialised : SecurityKeyAndPolicies}
    (h : key.Arrives E settings env s newestKey timeStamp uninitialised) : key.hardSeconds < 2 ^ 32 := by
  obtain ⟨-, args, -, hsets, -⟩ := h
  rw [← hsets.hardLifetime]
  exact args.hardLifetime.toNat_lt

/-- The device that holds the master key gets a key with the values that the manager means exactly when its hard lifetime can be counted in 32-bit seconds, and deletes the key that the manager means. -/
theorem distribution_agrees (hopens : Opens env.aes E) (hholds : HoldsMasterKey env s settings.toSettings newestKey) :
    (∀ (key : KeyToSend) timeStamp uninitialised, key.Sendable →
      (key.Arrives E settings env s newestKey timeStamp uninitialised ↔ key.hardSeconds < 2 ^ 32)) ∧
    ∀ phyKey currentTAI uninitialised, DeletionArrives E settings env s newestKey phyKey currentTAI uninitialised := by
  refine ⟨fun key timeStamp uninitialised hsendable => ⟨fun h => h.hardSeconds_lt, fun hseconds => ?_⟩,
    deletionArrives hopens hholds⟩
  exact hsendable.arrives hopens hholds hseconds timeStamp uninitialised

end Claims

/-! ### One device -/

def ccmOver (E : Key128 → Block → Block) : AesCcm where
  crypt key nonce auth data := encrypt (blockCipher (E key)) micSize nonce.toList auth data
  decrypt key nonce auth data := decrypt (blockCipher (E key)) micSize nonce.toList auth data
  length_crypt key nonce auth data _ := length_encrypt (blockCipher (E key)) micSize nonce.toList auth data
  decrypt_crypt key nonce auth data _ := decrypt_encrypt (blockCipher (E key)) micSize nonce.toList auth data

theorem opens_ccmOver (E : Key128 → Block → Block) : Opens (ccmOver E) E :=
  fun key nonce auth data => decrypt_encrypt (blockCipher (E key)) micSize nonce.toList auth data

def sampleCipher (key : Key128) (plain : Block) : Block := Block.ofList (rijndaelEncrypt key plain.toList)

def sampleKeySettings : KeySettings :=
  ⟨⟨Vector.replicate 8 1, [], false, false⟩, 48, 48, by decide⟩

def sampleMasterKey : PhySpecialKey := { PhySpecialKey.initial with keyID := 3, key := Vector.replicate 16 5 }

def sampleEnv : DsmoEnv := ⟨ccmOver sampleCipher, Vector.replicate 8 1, Vector.replicate 8 2⟩

def sampleStore : KeyStore where
  nSLMEKeysNo := 1
  keysCatMap := [(⟨zeroAddr, 0, 0⟩, [⟨zeroAddr, 0, 0, 3, slmKeyUsageMaster, 0, 0, 0xFFFFFFFF, 0xFFFFFFFF,
    Vector.replicate 16 5, Vector.replicate 8 1⟩])]

theorem sample_holds : HoldsMasterKey sampleEnv sampleStore sampleKeySettings.toSettings sampleMasterKey where
  manager := rfl
  holds := ⟨_, rfl, rfl⟩

def sampleSession (granularity : UInt8) (keyHardLifetime : UInt32) : KeyToSend :=
  .session {
    keyID := 9
    key := Vector.replicate 16 7
    sessionKeyPolicy := ⟨granularity, 1, 1, 172800, keyHardLifetime, 0⟩
    index := 1
    source := ⟨Vector.replicate 8 2, List.replicate 16 2, 0⟩
    destination := ⟨Vector.replicate 8 4, List.replicate 16 4, 1⟩
    softLifeTime := 0
    hardLifeTime := 0
    markedAsExpiring := false }

def sampleUninitialised : SecurityKeyAndPolicies :=
  ⟨.initial, 0, Vector.replicate 8 0, Vector.replicate 16 0, 0, 0, 0, 0, 0, 0, Vector.replicate 16 0,
    Vector.replicate 4 0⟩

theorem distribution_agrees_sample :
    (sampleSession 2 48).Arrives sampleCipher sampleKeySettings sampleEnv sampleStore sampleMasterKey 1000
      sampleUninitialised :=
  ((distribution_agrees (opens_ccmOver sampleCipher) sample_holds).1 (sampleSession 2 48) 1000 sampleUninitialised
    ⟨rfl, by decide, by decide, by decide⟩).mpr (by decide)

/-- 50000 days are more seconds than 32 bits hold. -/
theorem long_lifetime_disagrees :
    ¬ ∀ (E : Key128 → Block → Block) (settings : KeySettings) (env : DsmoEnv) (s : KeyStore)
      (newestKey : PhySpecialKey),
      Opens env.aes E → HoldsMasterKey env s settings.toSettings newestKey →
        ∀ (key : KeyToSend) timeStamp uninitialised, key.Sendable →
          key.Arrives E settings env s newestKey timeStamp uninitialised := by
  intro h
  have harrives := h sampleCipher sampleKeySettings sampleEnv sampleStore sampleMasterKey
    (opens_ccmOver sampleCipher) sample_holds (sampleSession 3 50000) 1000 sampleUninitialised
    ⟨rfl, by decide, by decide, by decide⟩
  have hseconds : 50000 * 86400 < 2 ^ 32 := harrives.hardSeconds_lt
  omega

end SystemManager

end Isa100Gateway
