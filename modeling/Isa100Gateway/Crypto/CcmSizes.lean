import Isa100Gateway.Crypto.AesCcm
import Isa100Gateway.Crypto.JoinHash

/-!
# The 16-bit sizes of the class `Ccm`

The scratch buffer takes the first block, the additional data and the message, each rounded up to whole blocks. Where that many bytes have no 16-bit size, `m_uiWorkBufSz` wraps to a smaller buffer and the message is pushed behind its end.
-/

namespace Isa100Gateway

open List Option

namespace CcmObject

def counterValues (more : UInt16 → Bool) (next : UInt16 → UInt16) : Nat → UInt16 → List UInt16
  | 0, i => [i]
  | fuel + 1, i => i :: if more i then counterValues more next fuel (next i) else []

theorem isChain_counterValues {more : UInt16 → Bool} {next : UInt16 → UInt16} {p : UInt16 → Prop}
    {r : UInt16 → UInt16 → Prop} (hstep : ∀ i, p i → more i = true → p (next i) ∧ r i (next i)) (fuel : Nat) :
    ∀ i, p i → (counterValues more next fuel i).IsChain r := by
  induction fuel with
  | zero => exact fun i _ => List.IsChain.singleton i
  | succ fuel ih =>
    intro i hi
    rw [counterValues]
    split
    · rename_i hmore
      obtain ⟨hnext, hr⟩ := hstep i hi hmore
      have hrest := ih (next i) hnext
      cases fuel with
      | zero => exact isChain_cons_cons.mpr ⟨hr, hrest⟩
      | succ fuel => exact isChain_cons_cons.mpr ⟨hr, hrest⟩
    · exact List.IsChain.singleton i

def blkIts (c : CcmObject) : List UInt16 := counterValues (fun i => decide (i < c.workBufSz)) (· + 16) maxRounds 16

def msgIdxs (c : CcmObject) (msgSz : UInt16) : List UInt16 :=
  counterValues (fun i => decide (i.toNat < c.msgOffset.toNat + msgSz.toNat)) (· + 1) 65536 c.msgOffset

def scratchSize (aadSz msgSz : UInt16) : Nat :=
  16 + roundUp (if aadSz = 0 then 0 else 2 + aadSz.toNat) + roundUp msgSz.toNat

/-- The sizes and the loop counters of a call are those of a computation without wraparound. -/
structure Exact (c : CcmObject) (aadSz msgSz : UInt16) : Prop where
  msgOffset : c.msgOffset.toNat = 16 + roundUp (if aadSz = 0 then 0 else 2 + aadSz.toNat)
  workBufSz : c.workBufSz.toNat = scratchSize aadSz msgSz
  blkIts : c.blkIts.IsChain fun i j => j.toNat = i.toNat + 16
  msgIdxs : (c.msgIdxs msgSz).IsChain fun i j => j.toNat = i.toNat + 1

section Sizes

variable (c : CcmObject) (key : Key128) (puiNonce : List UInt8) {aadSz : UInt16} (msgSz : UInt16)

theorem msgOffset_prepare (haad : aadSz < 0xFF00) : (c.prepare key puiNonce aadSz msgSz).msgOffset.toNat =
      16 + roundUp (if aadSz = 0 then 0 else 2 + aadSz.toNat) := by
  have hlt : aadSz.toNat < 0xFF00 := UInt16.lt_iff_toNat_lt.mp haad
  have hsmall : 16 + roundUp (if aadSz = 0 then 0 else 2 + aadSz.toNat) < 2 ^ 16 := by
    unfold roundUp
    split <;> omega
  exact UInt16.toNat_ofNat'.trans (Nat.mod_eq_of_lt hsmall)

theorem workBufSz_prepare (haad : aadSz < 0xFF00) :
    (c.prepare key puiNonce aadSz msgSz).workBufSz.toNat = scratchSize aadSz msgSz % 65536 := by
  have hoffset := msgOffset_prepare c key puiNonce msgSz haad
  have hsize : (c.prepare key puiNonce aadSz msgSz).workBufSz =
      UInt16.ofNat ((c.prepare key puiNonce aadSz msgSz).msgOffset.toNat + roundUp msgSz.toNat) := rfl
  rw [hsize, hoffset, UInt16.toNat_ofNat', scratchSize]

theorem exact_prepare_iff (haad : aadSz < 0xFF00) :
    Exact (c.prepare key puiNonce aadSz msgSz) aadSz msgSz ↔ scratchSize aadSz msgSz < 65536 := by
  have hoffset := msgOffset_prepare c key puiNonce msgSz haad
  have hsize := workBufSz_prepare c key puiNonce msgSz haad
  constructor
  · intro h
    rw [← h.workBufSz]
    exact UInt16.toNat_lt _
  · intro hfits
    rw [Nat.mod_eq_of_lt hfits] at hsize
    have hle := le_roundUp msgSz.toNat
    have hdvd : 16 ∣ scratchSize aadSz msgSz := by
      have h₁ := dvd_roundUp (if aadSz = 0 then 0 else 2 + aadSz.toNat)
      have h₂ := dvd_roundUp msgSz.toNat
      rw [scratchSize]
      omega
    have hmin : 16 ≤ scratchSize aadSz msgSz := by
      rw [scratchSize]
      omega
    refine ⟨hoffset, hsize, ?_, ?_⟩
    · -- the counter stays on multiples of 16 up to the size
      refine isChain_counterValues (p := fun i => 16 ∣ i.toNat ∧ i.toNat ≤ scratchSize aadSz msgSz) ?_ _ _ ?_
      · rintro i ⟨hi, -⟩ hmore
        have hlt := UInt16.lt_iff_toNat_lt.mp (of_decide_eq_true hmore)
        rw [hsize] at hlt
        have hnext : (i + 16).toNat = i.toNat + 16 := by
          rw [UInt16.toNat_add]
          exact Nat.mod_eq_of_lt (by change i.toNat + 16 < 2 ^ 16; omega)
        rw [hnext]
        exact ⟨by omega, rfl⟩
      · exact ⟨by decide, hmin⟩
    · refine isChain_counterValues (p := fun i => i.toNat ≤ scratchSize aadSz msgSz) ?_ _ _ ?_
      · intro i _ hmore
        have hlt := of_decide_eq_true hmore
        rw [hoffset] at hlt
        rw [scratchSize] at hfits ⊢
        have hnext : (i + 1).toNat = i.toNat + 1 := by
          rw [UInt16.toNat_add]
          exact Nat.mod_eq_of_lt (by change i.toNat + 1 < 2 ^ 16; omega)
        rw [hnext]
        exact ⟨by omega, rfl⟩
      · rw [hoffset, scratchSize]
        omega

end Sizes

section Push

variable {c d : CcmObject} {bytes : List UInt8}

structure Pushed (c d : CcmObject) (n : Nat) : Prop where
  room : c.workBufIdx.toNat + n ≤ c.workBuf.length
  workBuf : d.workBuf.length = c.workBuf.length
  workBufIdx : d.workBufIdx = c.workBufIdx + UInt16.ofNat n
  nonceSz : d.nonceSz = c.nonceSz

theorem pushed_of_push (h : c.push bytes = some d) : Pushed c d bytes.length := by
  obtain ⟨workBuf, hwrite, hd⟩ := bind_eq_some_iff.mp h
  cases hd
  refine ⟨?_, Buffer.length_write hwrite, rfl, rfl⟩
  by_contra hroom
  rw [Buffer.write, if_neg hroom] at hwrite
  cases hwrite

theorem pushed_of_pushFrom {p : Option (List UInt8)} {size : UInt16} (h : c.pushFrom p size = some d) :
    Pushed c d size.toNat := by
  obtain ⟨buf, -, h⟩ := bind_eq_some_iff.mp h
  obtain ⟨bytes, hread, hpush⟩ := bind_eq_some_iff.mp h
  rw [← Buffer.length_read hread]
  exact pushed_of_push hpush

theorem sizes_of_pushBlock0 {aadSz msgSz : UInt16} (hnonceSz : c.nonceSz = 13)
    (h : c.pushBlock0 aadSz msgSz = some d) : d.workBuf.length = c.workBuf.length ∧ d.workBufIdx = 16 := by
  obtain ⟨c₁, hflags, h⟩ := bind_eq_some_iff.mp h
  obtain ⟨c₂, hnonce, h⟩ := bind_eq_some_iff.mp h
  obtain ⟨c₃, hhigh, hlow⟩ := bind_eq_some_iff.mp h
  have h₁ := pushed_of_push hflags
  have h₂ := pushed_of_pushFrom hnonce
  have h₃ := pushed_of_push hhigh
  have h₄ := pushed_of_push hlow
  refine ⟨by rw [h₄.workBuf, h₃.workBuf, h₂.workBuf, h₁.workBuf], ?_⟩
  rw [h₄.workBufIdx, h₃.workBufIdx, h₂.workBufIdx, h₁.workBufIdx, h₁.nonceSz]
  change 0 + UInt16.ofNat 1 + UInt16.ofNat c.nonceSz.toNat + UInt16.ofNat 1 + UInt16.ofNat 1 = 16
  rw [hnonceSz]
  decide

theorem sizes_of_pushAad {aad : Option (List UInt8)} {aadSz : UInt16} (hidx : c.workBufIdx = 16)
    (haad : aadSz < 0xFF00) (h : c.pushAad aad aadSz = some d) :
    d.workBuf.length = c.workBuf.length ∧
      d.workBufIdx.toNat = 16 + roundUp (if aadSz = 0 then 0 else 2 + aadSz.toNat) := by
  have hlt : aadSz.toNat < 0xFF00 := UInt16.lt_iff_toNat_lt.mp haad
  rw [pushAad] at h
  split at h
  · rename_i hnone
    cases h
    rw [if_pos hnone, hidx]
    exact ⟨rfl, rfl⟩
  · rename_i hsome
    obtain ⟨c₁, hhigh, h⟩ := bind_eq_some_iff.mp h
    obtain ⟨c₂, hlow, h⟩ := bind_eq_some_iff.mp h
    obtain ⟨c₃, hdata, h⟩ := bind_eq_some_iff.mp h
    cases h
    have h₁ := pushed_of_push hhigh
    have h₂ := pushed_of_push hlow
    have h₃ := pushed_of_pushFrom hdata
    refine ⟨h₃.workBuf.trans (h₂.workBuf.trans h₁.workBuf), ?_⟩
    have hindex : c₃.workBufIdx.toNat = 18 + aadSz.toNat := by
      rw [h₃.workBufIdx, h₂.workBufIdx, h₁.workBufIdx, hidx, UInt16.ofNat_toNat, UInt16.toNat_add]
      exact Nat.mod_eq_of_lt (by change 18 + aadSz.toNat < 2 ^ 16; omega)
    have hround : roundUp (18 + aadSz.toNat) = 16 + roundUp (2 + aadSz.toNat) := by
      unfold roundUp
      omega
    have hsmall : 16 + roundUp (2 + aadSz.toNat) < 2 ^ 16 := by
      unfold roundUp
      omega
    rw [if_neg hsome, alignWorkBufIdx, hindex, hround]
    exact UInt16.toNat_ofNat'.trans (Nat.mod_eq_of_lt hsmall)

theorem room_of_pushMsg {msg : Option (List UInt8)} {msgSz : UInt16} (hsome : msgSz ≠ 0)
    (h : c.pushMsg msg msgSz = some d) : c.workBufIdx.toNat + msgSz.toNat ≤ c.workBuf.length := by
  rw [pushMsg, if_neg hsome] at h
  obtain ⟨c₁, hdata, -⟩ := bind_eq_some_iff.mp h
  exact (pushed_of_pushFrom hdata).room

theorem fill_eq_none {key : Key128} {puiNonce : List UInt8} {aad msg : Option (List UInt8)} {aadSz msgSz : UInt16}
    (hlen : c.lenFldSz = 2) (haad : aadSz < 0xFF00) (hlong : 65536 ≤ scratchSize aadSz msgSz) :
    (c.prepare key puiNonce aadSz msgSz).fill aad aadSz msg msgSz = none := by
  have hlt : aadSz.toNat < 0xFF00 := UInt16.lt_iff_toNat_lt.mp haad
  have hmsgSz := msgSz.toNat_lt
  have hsize := workBufSz_prepare c key puiNonce msgSz haad
  have hbuf : (c.prepare key puiNonce aadSz msgSz).workBuf.length = scratchSize aadSz msgSz % 65536 := by
    rw [← hsize]
    exact length_replicate
  have hoffset : 16 + roundUp (if aadSz = 0 then 0 else 2 + aadSz.toNat) < 65536 := by
    unfold roundUp
    split <;> omega
  rw [eq_none_iff_forall_ne_some]
  intro d hfill
  obtain ⟨c₁, hblock0, hfill⟩ := bind_eq_some_iff.mp hfill
  obtain ⟨c₂, haadPush, hmsgPush⟩ := bind_eq_some_iff.mp hfill
  have hnonceSz : (c.prepare key puiNonce aadSz msgSz).nonceSz = 13 := by
    change 15 - c.lenFldSz = 13
    rw [hlen]
    decide
  obtain ⟨hbuf₁, hidx₁⟩ := sizes_of_pushBlock0 hnonceSz hblock0
  obtain ⟨hbuf₂, hidx₂⟩ := sizes_of_pushAad hidx₁ haad haadPush
  have hsome : msgSz ≠ 0 := by
    rintro rfl
    rw [scratchSize] at hlong
    exact absurd hlong (Nat.not_le.mpr hoffset)
  have hpos : 0 < msgSz.toNat := Nat.pos_of_ne_zero fun h => hsome (UInt16.toNat_inj.mp h)
  have hroom := room_of_pushMsg hsome hmsgPush
  have hround : roundUp msgSz.toNat ≤ 65536 := by
    unfold roundUp
    omega
  rw [hidx₂, hbuf₂, hbuf₁, hbuf] at hroom
  rw [scratchSize] at hroom hlong
  omega

end Push

/-- Arguments that the guards let through: a nonce of 13 bytes, and pointers to as many bytes as their sizes say. -/
structure Arguments (puiNonce : List UInt8) (pAad pMsg : Option (List UInt8)) (aadSz msgSz : UInt16)
    (nonce aad msg : List UInt8) : Prop where
  length_nonce : nonce.length = 13
  pointsTo_nonce : PointsTo (some puiNonce) nonce
  pointsTo_aad : PointsTo pAad aad
  pointsTo_msg : PointsTo pMsg msg
  length_aad : aadSz.toNat = aad.length
  length_msg : msgSz.toNat = msg.length
  aadSz_lt : aadSz < 0xFF00

section Public

variable {c : CcmObject} {E : Key128 → Block → Block} {key : Key128} {puiNonce nonce aad msg enc : List UInt8}
  {pAad pMsg pEnc : Option (List UInt8)} {aadSz msgSz encMsgSz micSz : UInt16}

section

variable (h : Arguments puiNonce pAad pMsg aadSz msgSz nonce aad msg)
include h

theorem Arguments.scratchSize_eq :
    scratchSize aadSz msgSz = 16 + roundUp (if aad = [] then 0 else 2 + aad.length) + roundUp msg.length := by
  simp only [scratchSize, size_eq_zero h.length_aad, h.length_aad, h.length_msg]

theorem Arguments.passes
    (hfits : scratchSize aadSz msgSz < 65536) : Passes puiNonce pAad pMsg aadSz msgSz nonce aad msg :=
  { h with fits := h.scratchSize_eq ▸ hfits }

theorem Arguments.length_aad_lt : aad.length < 0xFF00 := by
  rw [← h.length_aad]
  exact UInt16.lt_iff_toNat_lt.mp h.aadSz_lt

end

theorem Arguments.take (h : Arguments puiNonce pAad pMsg aadSz encMsgSz nonce aad enc) (hmic : micSz ≤ encMsgSz) :
    Arguments puiNonce pAad pMsg aadSz (encMsgSz - micSz) nonce aad (enc.take (encMsgSz - micSz).toNat) := by
  have hle : (encMsgSz - micSz).toNat ≤ enc.length := by
    rw [← h.length_msg, UInt16.toNat_sub_of_le _ _ hmic]
    exact Nat.sub_le _ _
  refine { h with pointsTo_msg := ?_, length_msg := (length_take_of_le hle).symm }
  obtain hnone | ⟨rest, hrest⟩ := h.pointsTo_msg
  · exact Or.inl (by rw [hnone, take_nil])
  · exact Or.inr ⟨enc.drop (encMsgSz - micSz).toNat ++ rest, by rw [hrest, ← append_assoc, take_append_drop]⟩

theorem Arguments.guard (h : Arguments puiNonce pAad pMsg aadSz msgSz nonce aad msg) (hc : Setup c micSz) :
    c.lenFldSz ≠ 0 ∧ (pAad ≠ none ∧ aadSz ≠ 0 ∨ aadSz = 0) ∧
      (pMsg ≠ none ∧ msgSz ≠ 0 ∨ msgSz = 0) ∧ aadSz < 0xFF00 :=
  ⟨by simp [hc.lenFldSz], h.pointsTo_aad.guard h.length_aad, h.pointsTo_msg.guard h.length_msg, h.aadSz_lt⟩

theorem authEncrypt_eq_none (hc : Setup c micSz) (h : Arguments puiNonce pAad pMsg aadSz msgSz nonce aad msg)
    (hlong : 65536 ≤ scratchSize aadSz msgSz) (out : Bool) :
    c.authEncrypt E (some key) (some puiNonce) pAad aadSz pMsg msgSz out = none := by
  rw [authEncrypt, if_neg (not_not.mpr (h.guard hc))]
  simp only [bind_eq_bind, bind_some, fill_eq_none hc.lenFldSz h.aadSz_lt hlong, bind_none]

theorem checkAuthDecrypt_eq_none (hc : Setup c micSz) (h : Arguments puiNonce pAad pEnc aadSz encMsgSz nonce aad enc)
    (hsome : encMsgSz ≠ 0) (hmic : micSz ≤ encMsgSz) (hlong : 65536 ≤ scratchSize aadSz (encMsgSz - micSz)) :
    c.checkAuthDecrypt E (some key) (some puiNonce) pAad aadSz pEnc encMsgSz true = none := by
  have hne : enc ≠ [] := fun hnil => hsome ((size_eq_zero h.length_msg).mpr hnil)
  have hguard : c.lenFldSz ≠ 0 ∧ (pAad ≠ none ∧ aadSz ≠ 0 ∨ aadSz = 0) ∧ (pEnc ≠ none ∧ encMsgSz ≠ 0) ∧
      aadSz < 0xFF00 ∧ (true = true ∧ some key ≠ none ∧ some puiNonce ≠ none) ∧ c.authFldSz ≤ encMsgSz :=
    ⟨by simp [hc.lenFldSz], h.pointsTo_aad.guard h.length_aad, ⟨h.pointsTo_msg.ne_none hne, hsome⟩, h.aadSz_lt,
      by simp, hc.authFldSz ▸ hmic⟩
  rw [checkAuthDecrypt, if_neg (not_not.mpr hguard), hc.authFldSz]
  simp only [bind_eq_bind, bind_some, fill_eq_none hc.lenFldSz h.aadSz_lt hlong, bind_none]

theorem exists_authEncrypt (E : Key128 → Block → Block) (key : Key128) (hc : Setup c micSz)
    (h : Arguments puiNonce pAad pMsg aadSz msgSz nonce aad msg)
    (hfits : scratchSize aadSz msgSz < 65536) (out : Bool) :
    ∃ c' size bytes, c.authEncrypt E (some key) (some puiNonce) pAad aadSz pMsg msgSz out = some (c', size, bytes) ∧
      size.toNat = aadSz.toNat + msgSz.toNat + micSz.toNat ∧ bytes.length = if out then size.toNat else 0 := by
  have hsize : (aadSz + msgSz + c.authFldSz).toNat = aadSz.toNat + msgSz.toNat + micSz.toNat := by
    have hmic := hc.le
    have h₁ := le_roundUp msgSz.toNat
    have h₂ := le_roundUp (2 + aadSz.toNat)
    have haad : aadSz.toNat ≤ roundUp (if aadSz = 0 then 0 else 2 + aadSz.toNat) := by
      split
      · rename_i hzero
        rw [hzero]
        exact Nat.zero_le _
      · omega
    rw [hc.authFldSz] at hmic ⊢
    rw [scratchSize] at hfits
    rw [UInt16.toNat_add, UInt16.toNat_add]
    omega
  have hpasses := h.passes hfits
  cases out with
  | true =>
    obtain ⟨c', hrun, -⟩ := authEncrypt_eq (E := E) (c := c) key hpasses hc.lenFldSz hc.le h.length_aad_lt
    refine ⟨c', _, _, hrun, hsize, ?_⟩
    rw [if_pos rfl, hsize, length_append, length_append, Ccm.length_ctr, length_mic hc.le, hc.authFldSz,
      h.length_aad, h.length_msg]
  | false =>
    obtain ⟨d₁, hfill, hlaid₁⟩ := hpasses.laid key hc.lenFldSz
    obtain ⟨d₂, hmac, -, -, hlaid₂⟩ := hlaid₁.cbcMac (E := E)
    obtain ⟨d₃, hsalt, -, -, hlaid₃⟩ := hlaid₂.saltCtr (E := E) h.length_msg
    refine ⟨d₃.release, aadSz + msgSz + d₃.authFldSz, [], ?_, by rw [hlaid₃.authFldSz, hsize], rfl⟩
    rw [authEncrypt, if_neg (not_not.mpr (h.guard hc))]
    simp only [bind_eq_bind, bind_some, hfill, hmac, hsalt]
    rfl

theorem exists_checkAuthDecrypt (E : Key128 → Block → Block) (key : Key128) (hc : Setup c micSz)
    (h : Arguments puiNonce pAad pEnc aadSz encMsgSz nonce aad enc)
    (hsome : encMsgSz ≠ 0) (hmic : micSz ≤ encMsgSz) (hfits : scratchSize aadSz (encMsgSz - micSz) < 65536) :
    ∃ c' ok plain, c.checkAuthDecrypt E (some key) (some puiNonce) pAad aadSz pEnc encMsgSz true =
        some (c', ok, plain) ∧ plain.length ≤ encMsgSz.toNat - micSz.toNat := by
  have hsub : (encMsgSz - micSz).toNat = encMsgSz.toNat - micSz.toNat := UInt16.toNat_sub_of_le _ _ hmic
  have hlen : enc = enc.take (encMsgSz - micSz).toNat ++ enc.drop (encMsgSz - micSz).toNat :=
    (take_append_drop _ _).symm
  have hne : enc ≠ [] := fun hnil => hsome ((size_eq_zero h.length_msg).mpr hnil)
  have hpasses := (h.take hmic).passes hfits
  have hmic' : micSz.toNat ≤ encMsgSz.toNat := UInt16.le_iff_toNat_le.mp hmic
  have hpEnc := h.pointsTo_msg
  have hsize := h.length_msg
  have hdrop : (enc.drop (encMsgSz - micSz).toNat).length = c.authFldSz.toNat := by
    rw [length_drop, hsub, ← h.length_msg, hc.authFldSz]
    omega
  rw [hlen] at hpEnc hne hsize
  rw [← hc.authFldSz] at hpasses
  obtain ⟨c', hrun, -⟩ := checkAuthDecrypt_eq hpasses (hc.authFldSz ▸ hpEnc)
    (hc.authFldSz ▸ hne) (hc.authFldSz ▸ hsize) (hc.authFldSz ▸ hdrop) hc.lenFldSz hc.le h.length_aad_lt
  refine ⟨c', _, _, hrun, ?_⟩
  split
  · rw [Ccm.length_ctr, ← hpasses.length_msg, hc.authFldSz, hsub]
  · exact Nat.zero_le _

/-- Sizes and counters are exact, and both functions return within their buffers, exactly when the scratch buffer has a 16-bit size. Otherwise they overrun it. -/
theorem ccm_sizes_iff (E : Key128 → Block → Block) (key : Key128) (hc : Setup c micSz)
    (h : Arguments puiNonce pAad pMsg aadSz msgSz nonce aad msg)
    (hEnc : Arguments puiNonce pAad pEnc aadSz encMsgSz nonce aad enc) (hsome : encMsgSz ≠ 0)
    (hmic : micSz ≤ encMsgSz) (out : Bool) :
    (((c.prepare key puiNonce aadSz msgSz).Exact aadSz msgSz ∧
        ∃ c' size bytes, c.authEncrypt E (some key) (some puiNonce) pAad aadSz pMsg msgSz out = some (c', size, bytes) ∧
          size.toNat = aadSz.toNat + msgSz.toNat + micSz.toNat ∧ bytes.length = if out then size.toNat else 0) ↔
      scratchSize aadSz msgSz < 65536) ∧
    (c.authEncrypt E (some key) (some puiNonce) pAad aadSz pMsg msgSz out = none ↔ 65536 ≤ scratchSize aadSz msgSz) ∧
    (((c.prepare key puiNonce aadSz (encMsgSz - micSz)).Exact aadSz (encMsgSz - micSz) ∧
        ∃ c' ok plain, c.checkAuthDecrypt E (some key) (some puiNonce) pAad aadSz pEnc encMsgSz true =
          some (c', ok, plain) ∧ plain.length ≤ encMsgSz.toNat - micSz.toNat) ↔
      scratchSize aadSz (encMsgSz - micSz) < 65536) ∧
    (c.checkAuthDecrypt E (some key) (some puiNonce) pAad aadSz pEnc encMsgSz true = none ↔
      65536 ≤ scratchSize aadSz (encMsgSz - micSz)) := by
  refine ⟨⟨?_, ?_⟩, ⟨?_, ?_⟩, ⟨?_, ?_⟩, ⟨?_, ?_⟩⟩
  · rintro ⟨hexact, -⟩
    exact (exact_prepare_iff c key puiNonce _ h.aadSz_lt).mp hexact
  · intro hfits
    exact ⟨(exact_prepare_iff c key puiNonce _ h.aadSz_lt).mpr hfits, exists_authEncrypt E key hc h hfits out⟩
  · intro hnone
    by_contra hfits
    obtain ⟨c', size, bytes, hrun, -⟩ := exists_authEncrypt E key hc h (Nat.not_le.mp hfits) out
    exact nomatch hnone.symm.trans hrun
  · exact fun hlong => authEncrypt_eq_none hc h hlong out
  · rintro ⟨hexact, -⟩
    exact (exact_prepare_iff c key puiNonce _ h.aadSz_lt).mp hexact
  · intro hfits
    exact ⟨(exact_prepare_iff c key puiNonce _ h.aadSz_lt).mpr hfits,
      exists_checkAuthDecrypt E key hc hEnc hsome hmic hfits⟩
  · intro hnone
    by_contra hfits
    obtain ⟨c', ok, plain, hrun, -⟩ :=
      exists_checkAuthDecrypt E key hc hEnc hsome hmic (Nat.not_le.mp hfits)
    exact nomatch hnone.symm.trans hrun
  · exact fun hlong => checkAuthDecrypt_eq_none hc hEnc hsome hmic hlong

theorem ccm_sizes_sample :
    ∃ c' size bytes, ccm2.authEncrypt (fun key plain => Block.ofList (rijndaelEncrypt key plain.toList))
        (some (Vector.replicate 16 7)) (some (replicate 13 1)) (some [2, 3]) 2 (some [4]) 1 true =
          some (c', size, bytes) ∧
      size.toNat = UInt16.toNat 2 + UInt16.toNat 1 + UInt16.toNat 4 ∧ bytes.length = if true then size.toNat else 0 :=
  have harguments : Arguments (replicate 13 1) (some [2, 3]) (some [4]) 2 1 (replicate 13 1) [2, 3] [4] :=
    ⟨rfl, Or.inr ⟨[], rfl⟩, Or.inr ⟨[], rfl⟩, Or.inr ⟨[], rfl⟩, rfl, rfl, by decide⟩
  have hEnc : Arguments (replicate 13 1) (some [2, 3]) (some [5, 6, 7, 8]) 2 4 (replicate 13 1) [2, 3]
      [5, 6, 7, 8] :=
    ⟨rfl, Or.inr ⟨[], rfl⟩, Or.inr ⟨[], rfl⟩, Or.inr ⟨[], rfl⟩, rfl, rfl, by decide⟩
  ((ccm_sizes_iff (fun key plain => Block.ofList (rijndaelEncrypt key plain.toList)) (Vector.replicate 16 7)
    ccm2_setup harguments hEnc (by decide) (by decide) true).1.mpr (by decide)).2

/-- A message of 65521 bytes without additional data: the rounding wraps the buffer to 16 bytes. -/
theorem ccm_sizes_wrap : ((ccm2.prepare (Vector.replicate 16 7) (replicate 13 1) 0 65521).workBufSz = 16) ∧
      ccm2.authEncrypt (fun key plain => Block.ofList (rijndaelEncrypt key plain.toList))
        (some (Vector.replicate 16 7)) (some (replicate 13 1)) none 0 (some (replicate 65521 0)) 65521 true =
          none := by
  refine ⟨?_, ?_⟩
  · apply UInt16.toNat_inj.mp
    rw [workBufSz_prepare _ _ _ _ (by decide)]
    rfl
  · have harguments : Arguments (replicate 13 1) none (some (replicate 65521 0)) 0 65521
        (replicate 13 1) [] (replicate 65521 0) :=
      ⟨rfl, Or.inr ⟨[], (congrArg some (append_nil _)).symm⟩, Or.inl rfl,
        Or.inr ⟨[], (congrArg some (append_nil _)).symm⟩, rfl, length_replicate.symm, by decide⟩
    exact authEncrypt_eq_none ccm2_setup harguments (by decide) true

end Public

end CcmObject

end Isa100Gateway
