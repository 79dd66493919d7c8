import Isa100Gateway.Crypto.CcmObject
import Isa100Gateway.Lib.Bytes

/-!
# The class `Ccm` computes CCM

The scratch buffer holds `B_0`, the additional data and the message, each padded to whole blocks, so that the loop over it is the CBC-MAC of the reference and the loop over its last part is the reference's counter mode.
-/

namespace Isa100Gateway

open Block Buffer Ccm List Option

def blockCipher (E : Block → Block) : BlockCipher := fun bytes => (E (ofList bytes)).toList

namespace Block

@[simp]
theorem ofList_toList (b : Block) : ofList b.toList = b := by
  ext i hi
  simp [ofList]

theorem toList_ofList {bytes : List UInt8} (h : bytes.length = 16) : (ofList bytes).toList = bytes := by
  apply ext_getElem
  · simp [h]
  · intro i hi₁ hi₂
    simp [ofList, hi₂]

theorem toList_xor (a b : Block) : (a.xor b).toList = xorBytes a.toList b.toList := by
  simp [xor, xorBytes]

theorem set_counter {nonce : List UInt8} (hnonce : nonce.length = 13) (x y x' y' : UInt8) :
    ((ofList (1 :: nonce ++ [x', y'])).set 14 x).set 15 y = ofList (1 :: nonce ++ [x, y]) := by
  ext i hi
  have hlast : i = 15 ∨ i = 14 ∨ i < 14 := by omega
  obtain rfl | rfl | hbefore := hlast
  · simp [ofList, hnonce]
  · simp [ofList, hnonce]
  · have hshort : i < (1 :: nonce).length := by simp [hnonce, hbefore]
    have h₁₅ : 15 ≠ i := by omega
    have h₁₄ : 14 ≠ i := by omega
    simp only [ofList, Vector.getElem_set, h₁₅, h₁₄, if_false, Vector.getElem_ofFn,
      getD_eq_getElem?_getD, getElem?_append_left hshort]

end Block

namespace CcmObject

theorem dvd_roundUp (n : Nat) : 16 ∣ roundUp n := by
  unfold roundUp
  omega

theorem le_roundUp (n : Nat) : n ≤ roundUp n := by
  unfold roundUp
  omega

theorem length_pad (data : List UInt8) : (pad data).length = roundUp data.length := by
  simp [pad, blockSize, roundUp]

theorem pad_append {front data : List UInt8} (h : 16 ∣ front.length) : pad (front ++ data) = front ++ pad data := by
  have hmod : (front ++ data).length % 16 = data.length % 16 := by
    rw [length_append]
    omega
  simp only [pad, blockSize, hmod, append_assoc]

def filled (c : CcmObject) (bytes : List UInt8) : CcmObject :=
  { c with
    workBuf := bytes ++ replicate (c.workBufSz.toNat - bytes.length) 0
    workBufIdx := UInt16.ofNat bytes.length }

variable (c : CcmObject) {front bytes : List UInt8}

theorem push_filled (hroom : front.length + bytes.length ≤ c.workBufSz.toNat) :
    (c.filled front).push bytes = some (c.filled (front ++ bytes)) := by
  have hsize := c.workBufSz.toNat_lt
  have hidx : (c.filled front).workBufIdx.toNat = front.length := by
    simp only [filled, UInt16.toNat_ofNat']
    omega
  have hwrite := write_cleared front bytes (c.workBufSz.toNat - front.length) 0 hidx (by omega)
  have hnext : UInt16.ofNat front.length + UInt16.ofNat bytes.length =
      UInt16.ofNat (front ++ bytes).length := by
    rw [← UInt16.ofNat_add, length_append]
  simp only [push, filled] at hwrite ⊢
  rw [hwrite]
  simp only [bind_eq_bind, bind_some, hnext, length_append, Nat.sub_sub]

def PointsTo (p : Option (List UInt8)) (bytes : List UInt8) : Prop :=
  bytes = [] ∨ ∃ rest, p = some (bytes ++ rest)

theorem pushFrom_filled {p : Option (List UInt8)} {size : UInt16}
    (hp : PointsTo p bytes) (hsize : size.toNat = bytes.length) (hne : size ≠ 0)
    (hroom : front.length + bytes.length ≤ c.workBufSz.toNat) :
    (c.filled front).pushFrom p size = some (c.filled (front ++ bytes)) := by
  obtain rfl | ⟨rest, rfl⟩ := hp
  · exact absurd (UInt16.toNat_inj.mp hsize) hne
  · have hread : read (bytes ++ rest) 0 size.toNat = some bytes :=
      read_append [] rfl hsize
    simp [pushFrom, hread, push_filled c hroom]

theorem alignWorkBufIdx_filled {front : List UInt8} (hroom : roundUp front.length ≤ c.workBufSz.toNat) :
    (c.filled front).alignWorkBufIdx = c.filled (pad front) := by
  have hsize := c.workBufSz.toNat_lt
  have hle := le_roundUp front.length
  have hidx : front.length % 65536 = front.length := Nat.mod_eq_of_lt (by omega)
  have hzeros : (16 - front.length % 16) % 16 + (c.workBufSz.toNat - roundUp front.length) =
      c.workBufSz.toNat - front.length := by
    unfold roundUp at hroom ⊢
    omega
  have hpad : pad front = front ++ replicate ((16 - front.length % 16) % 16) 0 := rfl
  simp only [alignWorkBufIdx, filled, length_pad, UInt16.toNat_ofNat', Nat.reducePow, hidx]
  rw [hpad, ← hzeros, replicate_add, append_assoc]

theorem lengthField_toNat (size : UInt16) : [(size >>> 8).toUInt8] ++ [size.toUInt8] = lengthField size.toNat := by
  have hhigh : (size >>> 8).toUInt8 = UInt8.ofNat (size.toNat / 256) := by
    rw [← Bytes.toNat_split_high, UInt8.ofNat_toNat]
  have hlow : size.toUInt8 = UInt8.ofNat size.toNat := by
    apply UInt8.toNat_inj.mp
    simp
  rw [hhigh, hlow]
  rfl

def flags (aad : List UInt8) : UInt8 :=
  let adata : UInt16 := if aad = [] then 0 else 64
  (if c.authFldSz = 0 then adata + (c.lenFldSz - 1)
    else adata + 4 * (c.authFldSz - 2) + (c.lenFldSz - 1)).toUInt8

def block0 (nonce aad msg : List UInt8) : List UInt8 :=
  c.flags aad :: nonce ++ lengthField msg.length

def layout (nonce aad msg : List UInt8) : List UInt8 :=
  c.block0 nonce aad msg ++ aadField aad ++ pad msg

section Fill

variable {nonce aad msg : List UInt8} {pNonce pAad pMsg : Option (List UInt8)} {aadSz msgSz : UInt16}

theorem size_eq_zero {bytes : List UInt8} {size : UInt16} (h : size.toNat = bytes.length) :
    size = 0 ↔ bytes = [] := by
  rw [← length_eq_zero_iff, ← h, ← UInt16.toNat_inj]
  rfl

theorem length_block0 (hnonce : nonce.length = 13) : (c.block0 nonce aad msg).length = 16 := by
  simp [block0, lengthField, hnonce]

theorem length_aadField : (aadField aad).length = roundUp (if aad = [] then 0 else 2 + aad.length) := by
  by_cases haad : aad = []
  · simp [aadField, haad, roundUp]
  · rw [aadField, if_neg haad, if_neg haad, length_pad, length_append]
    rfl

theorem pushBlock0_eq (hnonce : nonce.length = 13) (hpNonce : PointsTo (some c.puiNonce) nonce)
    (hnonceSz : c.nonceSz = 13) (haadSz : aadSz.toNat = aad.length) (hmsgSz : msgSz.toNat = msg.length)
    (hcleared : c.workBuf = replicate c.workBufSz.toNat 0) (hroom : 16 ≤ c.workBufSz.toNat) :
    c.pushBlock0 aadSz msgSz = some (c.filled (c.block0 nonce aad msg)) := by
  have hstart : { c with workBufIdx := 0 } = c.filled [] := by
    simp [filled, ← hcleared]
  have hflags : (if c.authFldSz = 0 then (if aadSz = 0 then 0 else 64) + (c.lenFldSz - 1)
      else (if aadSz = 0 then 0 else 64) + 4 * (c.authFldSz - 2) + (c.lenFldSz - 1)).toUInt8 = c.flags aad := by
    simp only [flags, size_eq_zero haadSz]
  have hsize : c.nonceSz.toNat = nonce.length := by
    rw [hnonceSz, hnonce]
    rfl
  have hpushNonce : (c.filled [c.flags aad]).pushFrom (some c.puiNonce) c.nonceSz =
      some (c.filled ([c.flags aad] ++ nonce)) :=
    c.pushFrom_filled hpNonce hsize (by simp [hnonceSz]) (by simp [hnonce]; omega)
  simp only [pushBlock0, hstart, hflags, bind_eq_bind]
  rw [push_filled c (by simp; omega), bind_some, nil_append]
  change ((c.filled [c.flags aad]).pushFrom (some c.puiNonce) c.nonceSz).bind _ = _
  rw [hpushNonce, bind_some, push_filled c (by simp [hnonce]; omega), bind_some,
    push_filled c (by simp [hnonce]; omega), append_assoc _ _ [msgSz.toUInt8], lengthField_toNat, hmsgSz]
  rfl

theorem pushAad_eq {front : List UInt8} (hfront : 16 ∣ front.length) (hpAad : PointsTo pAad aad)
    (haadSz : aadSz.toNat = aad.length) (hroom : front.length + (aadField aad).length ≤ c.workBufSz.toNat) :
    (c.filled front).pushAad pAad aadSz = some (c.filled (front ++ aadField aad)) := by
  by_cases haad : aad = []
  · rw [pushAad, if_pos ((size_eq_zero haadSz).mpr haad), aadField, if_pos haad, append_nil]
  · have hne : aadSz ≠ 0 := fun h => haad ((size_eq_zero haadSz).mp h)
    rw [length_aadField, if_neg haad] at hroom
    have hle := le_roundUp (2 + aad.length)
    have halign : roundUp (front ++ (lengthField aad.length ++ aad)).length =
        front.length + roundUp (2 + aad.length) := by
      rw [← length_pad, pad_append hfront, length_append, length_pad, length_append]
      rfl
    rw [pushAad, if_neg hne]
    simp only [bind_eq_bind]
    rw [push_filled c (by simp; omega), bind_some, push_filled c (by simp; omega), bind_some,
      pushFrom_filled c hpAad haadSz hne (by simp; omega), bind_some,
      append_assoc _ _ [aadSz.toUInt8], lengthField_toNat, haadSz, append_assoc,
      alignWorkBufIdx_filled c (by rw [halign]; exact hroom), pad_append hfront, aadField, if_neg haad]

theorem pushMsg_eq {front : List UInt8} (hfront : 16 ∣ front.length) (hpMsg : PointsTo pMsg msg)
    (hmsgSz : msgSz.toNat = msg.length) (hroom : front.length + roundUp msg.length ≤ c.workBufSz.toNat) :
    (c.filled front).pushMsg pMsg msgSz = some (c.filled (front ++ pad msg)) := by
  by_cases hmsg : msg = []
  · rw [pushMsg, if_pos ((size_eq_zero hmsgSz).mpr hmsg), hmsg]
    simp [pad, blockSize]
  · have hne : msgSz ≠ 0 := fun h => hmsg ((size_eq_zero hmsgSz).mp h)
    have hle := le_roundUp msg.length
    have halign : roundUp (front ++ msg).length = front.length + roundUp msg.length := by
      rw [← length_pad, pad_append hfront, length_append, length_pad]
    rw [pushMsg, if_neg hne]
    simp only [bind_eq_bind]
    rw [pushFrom_filled c hpMsg hmsgSz hne (by omega), bind_some,
      alignWorkBufIdx_filled c (by rw [halign]; exact hroom), pad_append hfront]

end Fill

section Cipher

variable (E : Key128 → Block → Block)

def blockAt (buf : List UInt8) (i : Nat) : List UInt8 := (buf.drop (16 * i)).take 16

theorem cbcLoop_eq (hbuf : c.workBuf.length = c.workBufSz.toNat) {n : Nat} :
    ∀ (k fuel : Nat) (x : Block), n < fuel → 16 * (k + n) = c.workBufSz.toNat →
      (c.cbcLoop E fuel (UInt16.ofNat (16 * k)) x).map Vector.toList =
        some (((range' k n).map (blockAt c.workBuf)).foldl
          (fun x b => blockCipher (E c.keyRk) (xorBytes x b)) x.toList) := by
  have hsize := c.workBufSz.toNat_lt
  induction n with
  | zero =>
    intro k fuel x hfuel hblocks
    obtain ⟨fuel, rfl⟩ : ∃ m, fuel = m + 1 := ⟨fuel - 1, by omega⟩
    have hend : ¬UInt16.ofNat (16 * k) < c.workBufSz := by
      rw [UInt16.lt_iff_toNat_lt, UInt16.toNat_ofNat']
      omega
    rw [cbcLoop, if_neg hend]
    rfl
  | succ n ih =>
    intro k fuel x hfuel hblocks
    obtain ⟨fuel, rfl⟩ : ∃ m, fuel = m + 1 := ⟨fuel - 1, by omega⟩
    have hidx : (UInt16.ofNat (16 * k)).toNat = 16 * k := by
      rw [UInt16.toNat_ofNat']
      omega
    have hmore : UInt16.ofNat (16 * k) < c.workBufSz := by
      rw [UInt16.lt_iff_toNat_lt, hidx]
      omega
    have hread : read c.workBuf (16 * k) 16 = some (blockAt c.workBuf k) := by
      rw [Buffer.read, if_pos (by omega)]
      rfl
    have hnext : UInt16.ofNat (16 * k) + 16 = UInt16.ofNat (16 * (k + 1)) := by
      rw [Nat.mul_succ, UInt16.ofNat_add]
      rfl
    have hblock : (blockAt c.workBuf k).length = 16 := by
      simp only [blockAt, length_take, length_drop]
      omega
    have hinput : x.xor (ofList (blockAt c.workBuf k)) =
        ofList (xorBytes x.toList (blockAt c.workBuf k)) := by
      rw [← ofList_toList (x.xor _), toList_xor, toList_ofList hblock]
    rw [cbcLoop, if_pos hmore, hidx, hread, bind_eq_bind, bind_some, hnext, hinput,
      ih (k + 1) fuel _ (by omega) (by omega)]
    rfl

theorem cbcMac_eq (hbuf : c.workBuf.length = c.workBufSz.toNat) (hdvd : 16 ∣ c.workBufSz.toNat)
    (hfirst : 16 ≤ c.workBufSz.toNat) :
    c.cbcMac E = some { c with
      rguiT := Block.ofList (Ccm.cbcMac (blockCipher (E c.keyRk)) (Ccm.blocks c.workBuf)) } := by
  have hsize := c.workBufSz.toNat_lt
  obtain ⟨n, hn⟩ : ∃ n, c.workBufSz.toNat = 16 * (1 + n) := ⟨c.workBufSz.toNat / 16 - 1, by omega⟩
  have hread : read c.workBuf 0 16 = some (blockAt c.workBuf 0) := by
    rw [Buffer.read, if_pos (by omega)]
    rfl
  have hblock : (blockAt c.workBuf 0).length = 16 := by
    simp only [blockAt, length_take, length_drop]
    omega
  have hzero : xorBytes (replicate blockSize 0) (blockAt c.workBuf 0) = blockAt c.workBuf 0 := by
    apply ext_getElem
    · simp [xorBytes, blockSize, hblock]
    · intro i h₁ h₂
      simp [xorBytes]
  have hblocks : blocks c.workBuf =
      blockAt c.workBuf 0 :: (range' 1 n).map (blockAt c.workBuf) := by
    have hcount : c.workBuf.length / blockSize = n + 1 := by
      rw [hbuf, hn, blockSize]
      omega
    rw [blocks, hcount, range_eq_range', range'_succ, map_cons]
    rfl
  have hloop := c.cbcLoop_eq E hbuf 1 maxRounds (E c.keyRk (ofList (blockAt c.workBuf 0)))
    (n := n) (by rw [maxRounds]; omega) hn.symm
  obtain ⟨t, ht, htag⟩ := map_eq_some_iff.mp hloop
  have htag' : t = Block.ofList (Ccm.cbcMac (blockCipher (E c.keyRk)) (Ccm.blocks c.workBuf)) := by
    rw [← Block.ofList_toList t, htag, hblocks, Ccm.cbcMac, List.foldl_cons, hzero]
    rfl
  rw [cbcMac, hread, bind_eq_bind, bind_some]
  change (c.cbcLoop E maxRounds (UInt16.ofNat (16 * 1)) _).bind _ = _
  rw [ht, bind_some, htag']

section Counter

variable (F : BlockCipher) (nonce msg : List UInt8)

def ctrPrefix (n : Nat) : List UInt8 :=
  msg.mapIdx fun j b => if j < n then b ^^^ keyStream F nonce j else b

@[simp]
theorem length_ctrPrefix (n : Nat) : (ctrPrefix F nonce msg n).length = msg.length := by
  simp [ctrPrefix]

theorem ctrPrefix_zero : ctrPrefix F nonce msg 0 = msg := by
  apply ext_getElem
  · simp
  · intro i h₁ h₂
    simp [ctrPrefix]

theorem ctrPrefix_of_le {n : Nat} (h : msg.length ≤ n) : ctrPrefix F nonce msg n = ctr F nonce msg := by
  apply ext_getElem
  · simp
  · intro i h₁ h₂
    have hi : i < n := by
      simp only [length_ctrPrefix] at h₁
      omega
    simp [ctrPrefix, ctr, hi]

theorem getElem?_ctrPrefix {n : Nat} (h : n < msg.length) : (ctrPrefix F nonce msg n)[n]? = some msg[n] := by
  simp [ctrPrefix, h]

theorem set_ctrPrefix {n : Nat} (h : n < msg.length) :
    (ctrPrefix F nonce msg n).set n (msg[n] ^^^ keyStream F nonce n) = ctrPrefix F nonce msg (n + 1) := by
  apply ext_getElem
  · simp
  · intro i h₁ h₂
    rw [getElem_set]
    by_cases hi : n = i
    · subst hi
      simp [ctrPrefix]
    · have hlt : i < n + 1 ↔ i < n := by omega
      simp only [ctrPrefix, getElem_mapIdx, if_neg hi, hlt]

variable {F nonce msg} {before : List UInt8}

theorem xorBlock_eq (after : List UInt8) (hsize : before.length + msg.length < 65536) (block : List UInt8) :
    ∀ n, n ≤ msg.length → (∀ (i : Nat) (h : i < block.length), block[i] = keyStream F nonce (n + i)) →
      xorBlock (before.length + msg.length) block (UInt16.ofNat (before.length + n))
          (before ++ ctrPrefix F nonce msg n ++ after) =
        some (UInt16.ofNat (before.length + min (n + block.length) msg.length),
          before ++ ctrPrefix F nonce msg (n + block.length) ++ after) := by
  induction block with
  | nil =>
    intro n hn _
    rw [length_nil, Nat.add_zero, Nat.min_eq_left hn]
    rfl
  | cons s block ih =>
    intro n hn hblock
    have hidx : (UInt16.ofNat (before.length + n)).toNat = before.length + n := by
      rw [UInt16.toNat_ofNat']
      omega
    by_cases hend : n < msg.length
    · have hs : s = keyStream F nonce n := hblock 0 (by simp)
      have hget : (before ++ ctrPrefix F nonce msg n ++ after)[before.length + n]? = some msg[n] := by
        rw [append_assoc, getElem?_append_right (by omega), Nat.add_sub_cancel_left,
          getElem?_append_left (by simpa using hend), getElem?_ctrPrefix F nonce msg hend]
      have hset : (before ++ ctrPrefix F nonce msg n ++ after).set (before.length + n) (msg[n] ^^^ s) =
          before ++ ctrPrefix F nonce msg (n + 1) ++ after := by
        rw [append_assoc, set_append_right _ _ (by omega), Nat.add_sub_cancel_left,
          set_append_left _ _ (by simpa using hend), hs, set_ctrPrefix F nonce msg hend, append_assoc]
      have hnext : UInt16.ofNat (before.length + n) + 1 = UInt16.ofNat (before.length + (n + 1)) := by
        exact (UInt16.ofNat_add (before.length + n) 1).symm
      have hrest : ∀ (i : Nat) (h : i < block.length), block[i] = keyStream F nonce (n + 1 + i) := by
        intro i h
        have hi := hblock (i + 1) (by simp [h])
        rwa [getElem_cons_succ, ← Nat.add_assoc, Nat.add_right_comm] at hi
      rw [xorBlock, if_pos (by rw [hidx]; omega), hidx, hget, bind_eq_bind, bind_some, hset, hnext,
        ih (n + 1) hend hrest, length_cons]
      congr 2
      · congr 1
        omega
      · congr 2
        congr 1
        omega
    · -- the message ends inside the block
      have hdone : ∀ m, n ≤ m → ctrPrefix F nonce msg m = ctr F nonce msg :=
        fun m hm => ctrPrefix_of_le F nonce msg (by omega)
      rw [xorBlock, if_neg (by rw [hidx]; omega), hdone n le_rfl, hdone _ (Nat.le_add_right _ _),
        Nat.min_eq_right (by omega), show n = msg.length by omega]

end Counter

theorem ctrLoop_eq {nonce msg before : List UInt8} (after : List UInt8) (hnonce : nonce.length = 13)
    (hsize : before.length + msg.length < 65536) (fuel : Nat) : ∀ k, msg.length ≤ 16 * (k + fuel) →
      c.ctrLoop E (ofList (counterBlock nonce k)) (before.length + msg.length) (fuel + 1)
          (UInt16.ofNat k) (UInt16.ofNat (before.length + min (16 * k) msg.length))
          (before ++ ctrPrefix (blockCipher (E c.keyRk)) nonce msg (16 * k) ++ after) =
        some (before ++ ctr (blockCipher (E c.keyRk)) nonce msg ++ after) := by
  have hdone : ∀ k fuel, msg.length ≤ 16 * k →
      c.ctrLoop E (ofList (counterBlock nonce k)) (before.length + msg.length) (fuel + 1)
          (UInt16.ofNat k) (UInt16.ofNat (before.length + min (16 * k) msg.length))
          (before ++ ctrPrefix (blockCipher (E c.keyRk)) nonce msg (16 * k) ++ after) =
        some (before ++ ctr (blockCipher (E c.keyRk)) nonce msg ++ after) := by
    intro k fuel hend
    have hidx : ¬(UInt16.ofNat (before.length + msg.length)).toNat < before.length + msg.length := by
      rw [UInt16.toNat_ofNat']
      omega
    rw [Nat.min_eq_right hend, ctrPrefix_of_le _ _ _ hend, ctrLoop, if_neg hidx]
  induction fuel with
  | zero =>
    intro k hfuel
    exact hdone k 0 hfuel
  | succ fuel ih =>
    intro k hfuel
    by_cases hend : msg.length ≤ 16 * k
    · exact hdone k (fuel + 1) hend
    · have hmin : min (16 * k) msg.length = 16 * k := by omega
      have hidx : (UInt16.ofNat (before.length + 16 * k)).toNat = before.length + 16 * k := by
        rw [UInt16.toNat_ofNat']
        omega
      have hnext : UInt16.ofNat k + 1 = UInt16.ofNat (k + 1) := (UInt16.ofNat_add k 1).symm
      have hcounter : (UInt16.ofNat (k + 1)).toNat = k + 1 := by
        rw [UInt16.toNat_ofNat']
        omega
      have hblock : (((ofList (counterBlock nonce k)).set 14
            (UInt16.ofNat (k + 1) >>> 8).toUInt8).set 15 (UInt16.ofNat (k + 1)).toUInt8) =
          ofList (counterBlock nonce (k + 1)) := by
        have hfield := lengthField_toNat (UInt16.ofNat (k + 1))
        rw [hcounter] at hfield
        simp only [counterBlock, ← hfield]
        exact set_counter hnonce _ _ _ _
      have hstream : ∀ (i : Nat)
          (h : i < (blockCipher (E c.keyRk) (counterBlock nonce (k + 1))).length),
          (blockCipher (E c.keyRk) (counterBlock nonce (k + 1)))[i] =
            keyStream (blockCipher (E c.keyRk)) nonce (16 * k + i) := by
        intro i h
        have hi : i < 16 := by simpa [blockCipher] using h
        have hdiv : (16 * k + i) / blockSize = k := by
          rw [blockSize]
          omega
        have hmod : (16 * k + i) % blockSize = i := by
          rw [blockSize]
          omega
        rw [keyStream, hdiv, hmod, getD_eq_getElem _ _ h]
      have hlen : (blockCipher (E c.keyRk) (counterBlock nonce (k + 1))).length = 16 := by
        simp [blockCipher]
      have hxor := xorBlock_eq after hsize _ (16 * k) (by omega) hstream
      rw [hlen] at hxor
      rw [ctrLoop, hmin, if_pos (by rw [hidx]; omega)]
      simp only [hnext, hblock]
      change (xorBlock _ (blockCipher (E c.keyRk) (counterBlock nonce (k + 1))) _ _).bind _ = _
      have hrest := ih (k + 1) (by omega)
      rw [Nat.mul_succ] at hrest
      rw [hxor, bind_some]
      exact hrest

theorem firstCounter_eq {nonce : List UInt8} (hnonce : nonce.length = 13) (hlen : c.lenFldSz = 2)
    (hnonceSz : c.nonceSz = 13) (hpNonce : PointsTo (some c.puiNonce) nonce) :
    c.firstCounter = some (ofList (counterBlock nonce 0)) := by
  obtain rfl | ⟨rest, hrest⟩ := hpNonce
  · exact nomatch hnonce
  · have hread : read c.puiNonce 0 (UInt16.toNat 13) = some nonce := by
      rw [Option.some.inj hrest]
      exact read_append [] rfl hnonce.symm
    have hwrite : write ([1] ++ replicate 15 (0 : UInt8)) 1 nonce = _ :=
      write_cleared [1] nonce 15 0 rfl (by omega)
    have hfirst : ((2 : UInt16) - 1).toUInt8 :: replicate 15 (0 : UInt8) = [1] ++ replicate 15 0 := rfl
    rw [firstCounter, hnonceSz, hread, bind_eq_bind, bind_some, hlen, hfirst, hwrite,
      bind_some, hnonce, Vector.set_comm _ _ (by decide)]
    exact congrArg some (set_counter hnonce 0 0 0 0)

theorem saltCtr_eq {nonce msg before after : List UInt8} {msgSz : UInt16} (hnonce : nonce.length = 13)
    (hlen : c.lenFldSz = 2) (hnonceSz : c.nonceSz = 13) (hpNonce : PointsTo (some c.puiNonce) nonce)
    (hbefore : c.msgOffset.toNat = before.length) (hblock0 : 16 ≤ before.length) (hmsgSz : msgSz.toNat = msg.length)
    (hsize : before.length + msg.length < 65536) (hbuf : c.workBuf = before ++ msg ++ after) :
    c.saltCtr E msgSz = some { c with
      rguiU := c.rguiT.xor (E c.keyRk (ofList (counterBlock nonce 0)))
      workBuf := before ++ ctr (blockCipher (E c.keyRk)) nonce msg ++ after } := by
  rw [saltCtr, c.firstCounter_eq hnonce hlen hnonceSz hpNonce, bind_eq_bind, bind_some]
  by_cases hmsg : msg = []
  · rw [if_pos ((size_eq_zero hmsgSz).mpr hmsg)]
    simp [hbuf, hmsg, ctr]
  · have hloop := ctrLoop_eq
      { c with rguiU := c.rguiT.xor (E c.keyRk (ofList (counterBlock nonce 0))) } E after
      hnonce hsize (maxRounds - 1) 0 (by rw [maxRounds]; omega)
    have hstart : UInt16.ofNat (before.length + min (16 * 0) msg.length) = c.msgOffset := by
      rw [Nat.mul_zero, Nat.zero_min, Nat.add_zero, ← hbefore, UInt16.ofNat_toNat]
    rw [hstart, Nat.mul_zero, ctrPrefix_zero, ← hbuf] at hloop
    rw [if_neg fun h => hmsg ((size_eq_zero hmsgSz).mp h)]
    simp only [hmsgSz, hbefore]
    exact congrArg (bind · _) hloop

/-! ## The public functions -/

/-- Arguments that pass `nonce`, `aad` and `msg` and keep the scratch buffer within its 16-bit size. -/
structure Passes (puiNonce : List UInt8) (pAad pMsg : Option (List UInt8)) (aadSz msgSz : UInt16)
    (nonce aad msg : List UInt8) : Prop where
  length_nonce : nonce.length = 13
  pointsTo_nonce : PointsTo (some puiNonce) nonce
  pointsTo_aad : PointsTo pAad aad
  pointsTo_msg : PointsTo pMsg msg
  length_aad : aadSz.toNat = aad.length
  length_msg : msgSz.toNat = msg.length
  fits : 16 + roundUp (if aad = [] then 0 else 2 + aad.length) + roundUp msg.length < 65536

section Public

variable {c E} {key : Key128} {puiNonce nonce aad msg : List UInt8} {pAad pMsg : Option (List UInt8)}
  {aadSz msgSz : UInt16}

theorem Passes.msgOffset (c : CcmObject) (key : Key128) (h : Passes puiNonce pAad pMsg aadSz msgSz nonce aad msg) :
    (c.prepare key puiNonce aadSz msgSz).msgOffset.toNat = 16 + (aadField aad).length := by
  have hfits := h.fits
  have hsize : (if aadSz = 0 then 0 else 2 + aadSz.toNat) = if aad = [] then 0 else 2 + aad.length := by
    simp only [size_eq_zero h.length_aad, h.length_aad]
  simp only [prepare, hsize, UInt16.toNat_ofNat', length_aadField]
  omega

theorem Passes.workBufSz (c : CcmObject) (key : Key128) (h : Passes puiNonce pAad pMsg aadSz msgSz nonce aad msg) :
    (c.prepare key puiNonce aadSz msgSz).workBufSz.toNat = (c.layout nonce aad msg).length := by
  have hfits := h.fits
  have hoffset := h.msgOffset c key
  have hsize : (c.prepare key puiNonce aadSz msgSz).workBufSz =
      UInt16.ofNat ((c.prepare key puiNonce aadSz msgSz).msgOffset.toNat + roundUp msgSz.toNat) := rfl
  rw [hsize, hoffset, h.length_msg, UInt16.toNat_ofNat', layout, length_append, length_append,
    length_block0 c h.length_nonce, length_pad, length_aadField]
  omega

theorem Passes.fill_eq (h : Passes puiNonce pAad pMsg aadSz msgSz nonce aad msg) (hlen : c.lenFldSz = 2) :
    (c.prepare key puiNonce aadSz msgSz).fill pAad aadSz pMsg msgSz =
      some ((c.prepare key puiNonce aadSz msgSz).filled (c.layout nonce aad msg)) := by
  have hsize := h.workBufSz c key
  have hblock0 : ((c.prepare key puiNonce aadSz msgSz).block0 nonce aad msg).length = 16 :=
    length_block0 _ h.length_nonce
  have hlayout : (c.prepare key puiNonce aadSz msgSz).layout nonce aad msg = c.layout nonce aad msg := rfl
  rw [← hlayout, layout, length_append, length_append, length_pad, hblock0] at hsize
  have hnonceSz : (c.prepare key puiNonce aadSz msgSz).nonceSz = 13 := by
    change 15 - c.lenFldSz = 13
    rw [hlen]
    decide
  have hdvd : 16 ∣ (aadField aad).length := by
    rw [length_aadField]
    exact dvd_roundUp _
  rw [fill, pushBlock0_eq _ h.length_nonce h.pointsTo_nonce hnonceSz h.length_aad h.length_msg rfl (by omega),
    bind_eq_bind,
    bind_some, pushAad_eq _ (by rw [hblock0]) h.pointsTo_aad h.length_aad (by omega), bind_some,
    pushMsg_eq _ (by rw [length_append]; omega) h.pointsTo_msg h.length_msg (by rw [length_append]; omega)]
  rfl

theorem workBuf_filled {buf : List UInt8} (h : c.workBufSz.toNat = buf.length) : (c.filled buf).workBuf = buf := by
  simp [filled, h]

theorem length_layout (c : CcmObject) (aad msg : List UInt8) (hnonce : nonce.length = 13) :
    (c.layout nonce aad msg).length = 16 + (aadField aad).length + roundUp msg.length := by
  rw [layout, length_append, length_append, length_block0 c hnonce, length_pad]

structure Laid (c₀ c : CcmObject) (key : Key128) (nonce aad msg : List UInt8) : Prop where
  keyRk : c.keyRk = key
  authFldSz : c.authFldSz = c₀.authFldSz
  lenFldSz : c.lenFldSz = c₀.lenFldSz
  lenFldSz_eq : c₀.lenFldSz = 2
  nonceSz : c.nonceSz = 13
  length_nonce : nonce.length = 13
  pointsTo_nonce : PointsTo (some c.puiNonce) nonce
  msgOffset : c.msgOffset.toNat = 16 + (aadField aad).length
  workBufSz : c.workBufSz.toNat = (c₀.layout nonce aad msg).length
  workBuf : c.workBuf = c₀.layout nonce aad msg

theorem Passes.laid (key : Key128) (h : Passes puiNonce pAad pMsg aadSz msgSz nonce aad msg) (hlen : c.lenFldSz = 2) :
    ∃ d, (c.prepare key puiNonce aadSz msgSz).fill pAad aadSz pMsg msgSz = some d ∧
      Laid c d key nonce aad msg := by
  refine ⟨_, h.fill_eq hlen, rfl, rfl, rfl, hlen, ?nonceSz, h.length_nonce, h.pointsTo_nonce, h.msgOffset c key,
    h.workBufSz c key, workBuf_filled (h.workBufSz c key)⟩
  change 15 - c.lenFldSz = 13
  rw [hlen]
  decide

section Laid

variable {c₀ : CcmObject}

theorem Laid.with_rguiT (h : Laid c₀ c key nonce aad msg) (rguiT : Block) :
    Laid c₀ { c with rguiT } key nonce aad msg :=
  { h with }

theorem Laid.cbcMac (h : Laid c₀ c key nonce aad msg) : ∃ d, c.cbcMac E = some d ∧
      d.rguiT = Block.ofList (Ccm.cbcMac (blockCipher (E key)) (Ccm.blocks (c₀.layout nonce aad msg))) ∧
      d.rguiU = c.rguiU ∧ Laid c₀ d key nonce aad msg := by
  have hlength := length_layout c₀ aad msg h.length_nonce
  have haad : 16 ∣ (aadField aad).length := by
    rw [length_aadField]
    exact dvd_roundUp _
  have hmsg := dvd_roundUp msg.length
  have hbuf : c.workBuf.length = c.workBufSz.toNat := by rw [h.workBuf, h.workBufSz]
  refine ⟨_, cbcMac_eq c E hbuf (by rw [h.workBufSz]; omega) (by rw [h.workBufSz]; omega), ?_, rfl, { h with }⟩
  rw [h.workBuf, h.keyRk]

theorem Laid.saltCtr (h : Laid c₀ c key nonce aad msg) (hmsgSz : msgSz.toNat = msg.length) :
    ∃ d, c.saltCtr E msgSz = some d ∧ d.rguiT = c.rguiT ∧
      d.rguiU = c.rguiT.xor (E key (ofList (counterBlock nonce 0))) ∧
      Laid c₀ d key nonce aad (ctr (blockCipher (E key)) nonce msg) := by
  have hlength := length_layout c₀ aad msg h.length_nonce
  have hlength' := length_layout c₀ aad (ctr (blockCipher (E key)) nonce msg) h.length_nonce
  rw [length_ctr, ← hlength] at hlength'
  have hle := le_roundUp msg.length
  have hsize := c.workBufSz.toNat_lt
  have hfront : (c₀.block0 nonce aad msg ++ aadField aad).length = 16 + (aadField aad).length := by
    rw [length_append, length_block0 c₀ h.length_nonce]
  have hbuf : c.workBuf = c₀.block0 nonce aad msg ++ aadField aad ++ msg ++
      replicate ((16 - msg.length % 16) % 16) 0 := by
    rw [h.workBuf, layout, pad, ← append_assoc]
    rfl
  have hctr : c₀.layout nonce aad (ctr (blockCipher (E key)) nonce msg) =
      c₀.block0 nonce aad msg ++ aadField aad ++ ctr (blockCipher (E key)) nonce msg ++
        replicate ((16 - msg.length % 16) % 16) 0 := by
    rw [layout, pad, ← append_assoc, block0, block0, length_ctr]
    rfl
  rw [h.workBufSz, hlength] at hsize
  refine ⟨_, saltCtr_eq c E h.length_nonce (h.lenFldSz.trans h.lenFldSz_eq) h.nonceSz h.pointsTo_nonce
    (h.msgOffset.trans hfront.symm) (by rw [hfront]; omega) hmsgSz (by rw [hfront]; omega) hbuf, rfl, ?_, ?_⟩
  · rw [h.keyRk]
  · have hsz := h.workBufSz.trans hlength'.symm
    exact { h with workBufSz := hsz, workBuf := by rw [hctr, h.keyRk] }

end Laid

def micBlock (c : CcmObject) (E : Key128 → Block → Block) (key : Key128) (nonce aad msg : List UInt8) : Block :=
  (Block.ofList (Ccm.cbcMac (blockCipher (E key)) (Ccm.blocks (c.layout nonce aad msg)))).xor
    (E key (ofList (counterBlock nonce 0)))

def mic (c : CcmObject) (E : Key128 → Block → Block) (key : Key128) (nonce aad msg : List UInt8) : List UInt8 :=
  (c.micBlock E key nonce aad msg).toList.take c.authFldSz.toNat

theorem length_mic (hauth : c.authFldSz.toNat ≤ 16) : (c.mic E key nonce aad msg).length = c.authFldSz.toNat := by
  simp [mic, hauth]

theorem read_block (b : Block) {n : Nat} (hn : n ≤ 16) : read b.toList 0 n = some (b.toList.take n) := by
  rw [Buffer.read, if_pos (by simpa using hn), List.drop_zero]

variable {bytes : List UInt8} {p : Option (List UInt8)} {size micSz : UInt16}

theorem copyOut_eq (hp : PointsTo p bytes) (hsize : size.toNat = bytes.length) : copyOut p 0 size = some bytes := by
  by_cases hnone : bytes = []
  · rw [copyOut, if_pos ((size_eq_zero hsize).mpr hnone), hnone]
  · obtain rfl | ⟨rest, rfl⟩ := hp
    · exact absurd rfl hnone
    · rw [copyOut, if_neg fun hz => hnone ((size_eq_zero hsize).mp hz)]
      exact read_append [] rfl hsize

theorem copyOut_append {before bytes after : List UInt8} {offset : Nat}
    (hoffset : offset = before.length) (hsize : size.toNat = bytes.length) :
    copyOut (some (before ++ bytes ++ after)) offset size = some bytes := by
  by_cases hnone : bytes = []
  · rw [copyOut, if_pos ((size_eq_zero hsize).mpr hnone), hnone]
  · rw [copyOut, if_neg fun hz => hnone ((size_eq_zero hsize).mp hz)]
    exact read_append before hoffset hsize

theorem Laid.copyOut_msg {c₀ : CcmObject} (h : Laid c₀ c key nonce aad msg) (hmsgSz : msgSz.toNat = msg.length) :
    copyOut (some c.workBuf) c.msgOffset.toNat msgSz = some msg := by
  have hfront : c.msgOffset.toNat = (c₀.block0 nonce aad msg ++ aadField aad).length := by
    rw [h.msgOffset, length_append, length_block0 c₀ h.length_nonce]
  rw [h.workBuf, layout, pad, ← append_assoc]
  exact copyOut_append hfront hmsgSz

theorem PointsTo.ne_none (hp : PointsTo p bytes) (hne : bytes ≠ []) : p ≠ none := by
  obtain rfl | ⟨rest, rfl⟩ := hp
  · exact absurd rfl hne
  · simp

theorem PointsTo.guard (hp : PointsTo p bytes)
    (hsize : size.toNat = bytes.length) : p ≠ none ∧ size ≠ 0 ∨ size = 0 := by
  by_cases hzero : size = 0
  · exact Or.inr hzero
  · exact Or.inl ⟨hp.ne_none fun h => hzero ((size_eq_zero hsize).mpr h), hzero⟩

theorem authEncrypt_eq (key : Key128) (h : Passes puiNonce pAad pMsg aadSz msgSz nonce aad msg) (hlen : c.lenFldSz = 2)
    (hauth : c.authFldSz.toNat ≤ 16) (haad : aad.length < 0xFF00) :
    ∃ c', c.authEncrypt E (some key) (some puiNonce) pAad aadSz pMsg msgSz true =
        some (c', aadSz + msgSz + c.authFldSz,
          aad ++ ctr (blockCipher (E key)) nonce msg ++ c.mic E key nonce aad msg) ∧
      c'.lenFldSz = c.lenFldSz ∧ c'.authFldSz = c.authFldSz := by
  have hguard : c.lenFldSz ≠ 0 ∧ (pAad ≠ none ∧ aadSz ≠ 0 ∨ aadSz = 0) ∧
      (pMsg ≠ none ∧ msgSz ≠ 0 ∨ msgSz = 0) ∧ aadSz < 0xFF00 := by
    refine ⟨by simp [hlen], h.pointsTo_aad.guard h.length_aad, h.pointsTo_msg.guard h.length_msg, ?_⟩
    rw [UInt16.lt_iff_toNat_lt, h.length_aad]
    exact haad
  obtain ⟨d₁, hfill, hlaid₁⟩ := h.laid key hlen
  obtain ⟨d₂, hmac, hT₂, -, hlaid₂⟩ := hlaid₁.cbcMac (E := E)
  obtain ⟨d₃, hsalt, -, hU₃, hlaid₃⟩ := hlaid₂.saltCtr (E := E) h.length_msg
  have hblock : d₃.rguiU = c.micBlock E key nonce aad msg := by rw [hU₃, hT₂, micBlock]
  have hmic := read_block (c.micBlock E key nonce aad msg) hauth
  have hcopy : copyOut (some d₃.workBuf) d₃.msgOffset.toNat msgSz = some (ctr (blockCipher (E key)) nonce msg) :=
    hlaid₃.copyOut_msg (by rw [length_ctr, h.length_msg])
  refine ⟨d₃.release, ?_, hlaid₃.lenFldSz, hlaid₃.authFldSz⟩
  rw [authEncrypt, if_neg (not_not.mpr hguard)]
  simp only [bind_eq_bind, bind_some, hfill, hmac, hsalt, if_true, hcopy, hlaid₃.authFldSz, hmic,
    copyOut_eq h.pointsTo_aad h.length_aad, hblock, mic]

theorem xorBytes_cancel {a b : List UInt8} (h : a.length = b.length) : xorBytes (xorBytes a b) b = a := by
  apply ext_getElem
  · simp [xorBytes, h]
  · intro i h₁ h₂
    simp only [xorBytes, getElem_zipWith]
    rw [UInt8.xor_assoc, UInt8.xor_self, UInt8.xor_zero]

theorem take_eq_iff {t s : Block} {u old : List UInt8} (hu : u.length ≤ 16) (hold : (u ++ old).length = 16) :
    t.toList.take u.length = ((ofList (u ++ old)).xor s).toList.take u.length ↔
      (t.xor s).toList.take u.length = u := by
  have hleft : ((ofList (u ++ old)).xor s).toList.take u.length = xorBytes u (s.toList.take u.length) := by
    rw [toList_xor, toList_ofList hold, xorBytes, xorBytes, take_zipWith, take_left]
  have hright : (t.xor s).toList.take u.length =
      xorBytes (t.toList.take u.length) (s.toList.take u.length) := by
    rw [toList_xor, xorBytes, xorBytes, take_zipWith]
  have hs : (s.toList.take u.length).length = u.length := by simp [hu]
  have ht : (t.toList.take u.length).length = u.length := by simp [hu]
  rw [hleft, hright]
  constructor
  · intro h
    rw [h, xorBytes_cancel hs.symm]
  · intro h
    have hcancel := xorBytes_cancel (ht.trans hs.symm)
    rw [h] at hcancel
    exact hcancel.symm

theorem checkAuthDecrypt_eq {ct u : List UInt8} {encMsgSz : UInt16}
    (h : Passes puiNonce pAad pMsg aadSz (encMsgSz - c.authFldSz) nonce aad ct)
    (hp : PointsTo pMsg (ct ++ u)) (hne : ct ++ u ≠ []) (hsize : encMsgSz.toNat = (ct ++ u).length)
    (hu : u.length = c.authFldSz.toNat) (hlen : c.lenFldSz = 2) (hauth : c.authFldSz.toNat ≤ 16)
    (haad : aad.length < 0xFF00) :
    ∃ c', c.checkAuthDecrypt E (some key) (some puiNonce) pAad aadSz pMsg encMsgSz true =
        some (c', decide (c.mic E key nonce aad (ctr (blockCipher (E key)) nonce ct) = u),
          if c.mic E key nonce aad (ctr (blockCipher (E key)) nonce ct) = u then
            ctr (blockCipher (E key)) nonce ct else []) ∧
      c'.lenFldSz = c.lenFldSz ∧ c'.authFldSz = c.authFldSz := by
  have hguard : c.lenFldSz ≠ 0 ∧ (pAad ≠ none ∧ aadSz ≠ 0 ∨ aadSz = 0) ∧ (pMsg ≠ none ∧ encMsgSz ≠ 0) ∧
      aadSz < 0xFF00 ∧ (True ∧ some key ≠ none ∧ some puiNonce ≠ none) ∧ c.authFldSz ≤ encMsgSz := by
    refine ⟨by simp [hlen], h.pointsTo_aad.guard h.length_aad, ⟨hp.ne_none hne, ?_⟩, ?_, by simp, ?_⟩
    · exact fun hz => hne ((size_eq_zero hsize).mp hz)
    · rw [UInt16.lt_iff_toNat_lt, h.length_aad]
      exact haad
    · rw [UInt16.le_iff_toNat_le, hsize, length_append, hu]
      exact Nat.le_add_left _ _
  obtain ⟨rest, hrest⟩ := hp.resolve_left hne
  obtain ⟨d₁, hfill, hlaid₁⟩ := h.laid key hlen
  have hmicRead : read (ct ++ u ++ rest) (encMsgSz - c.authFldSz).toNat d₁.authFldSz.toNat = some u :=
    read_append ct h.length_msg (by rw [hlaid₁.authFldSz, hu])
  have hwrite : write d₁.rguiT.toList 0 u = some (u ++ d₁.rguiT.toList.drop u.length) := by
    rw [write, if_pos (by simp [hu, hauth])]
    simp
  have hlen₁ : (u ++ d₁.rguiT.toList.drop u.length).length = 16 := by
    simp only [length_append, length_drop, Vector.length_toList]
    omega
  obtain ⟨d₂, hsalt, -, hU₂, hlaid₂⟩ :=
    (hlaid₁.with_rguiT (ofList (u ++ d₁.rguiT.toList.drop u.length))).saltCtr (E := E) h.length_msg
  obtain ⟨d₃, hmac, hT₃, hU₃, hlaid₃⟩ := hlaid₂.cbcMac (E := E)
  have hcopy : copyOut (some d₃.workBuf) d₃.msgOffset.toNat (encMsgSz - c.authFldSz) =
      some (ctr (blockCipher (E key)) nonce ct) :=
    hlaid₃.copyOut_msg (by rw [length_ctr, h.length_msg])
  have hsame : d₃.rguiT.toList.take c.authFldSz.toNat = d₃.rguiU.toList.take c.authFldSz.toNat ↔
      c.mic E key nonce aad (ctr (blockCipher (E key)) nonce ct) = u := by
    rw [hU₃, hU₂, hT₃, ← hu, take_eq_iff (by omega) hlen₁, mic, hu]
    rfl
  rw [hrest] at hfill
  rw [checkAuthDecrypt, if_neg (not_not.mpr (by simpa using hguard))]
  simp only [bind_eq_bind, bind_some, hfill, hrest, hmicRead, hwrite, hsalt, hmac,
    hlaid₃.authFldSz, read_block _ hauth]
  by_cases hok : c.mic E key nonce aad (ctr (blockCipher (E key)) nonce ct) = u
  · have hcmp := hsame.mpr hok
    rw [if_neg (not_not.mpr hcmp), hcopy]
    exact ⟨d₃.release, by simp [hok], hlaid₃.lenFldSz, hlaid₃.authFldSz⟩
  · have hcmp := mt hsame.mp hok
    rw [if_pos hcmp]
    refine ⟨{ d₃.release with rguiT := Vector.replicate 16 0, rguiU := Vector.replicate 16 0 }, ?_,
      hlaid₃.lenFldSz, hlaid₃.authFldSz⟩
    rw [if_neg hok, decide_eq_false hok]

/-! ### The even MIC lengths of the standard -/

theorem flags_eq (hlen : c.lenFldSz = 2) (hauth : c.authFldSz.toNat ≤ 16) (heven : c.authFldSz.toNat % 2 = 0) :
    c.flags aad = UInt8.ofNat ((if aad = [] then 0 else 64) + 8 * ((c.authFldSz.toNat - 2) / 2) + 1) := by
  have hclear : ∀ m < 17, m % 2 = 0 →
      (if UInt16.ofNat m = 0 then 0 + (2 - 1) else 0 + 4 * (UInt16.ofNat m - 2) + (2 - 1)).toUInt8 =
        UInt8.ofNat (0 + 8 * ((m - 2) / 2) + 1) := by decide
  have hset : ∀ m < 17, m % 2 = 0 →
      (if UInt16.ofNat m = 0 then 64 + (2 - 1) else 64 + 4 * (UInt16.ofNat m - 2) + (2 - 1)).toUInt8 =
        UInt8.ofNat (64 + 8 * ((m - 2) / 2) + 1) := by decide
  have hclear' := hclear c.authFldSz.toNat (by omega) heven
  have hset' := hset c.authFldSz.toNat (by omega) heven
  rw [UInt16.ofNat_toNat] at hclear' hset'
  rw [flags, hlen]
  by_cases haad : aad = []
  · simpa only [haad, if_true] using hclear'
  · simpa only [haad, if_false] using hset'

theorem length_cbcMac (E : Key128 → Block → Block) (key : Key128) (bs : List (List UInt8)) :
    (Ccm.cbcMac (blockCipher (E key)) bs).length = 16 := by
  have hfold : ∀ x : List UInt8, x.length = 16 →
      (bs.foldl (fun x b => blockCipher (E key) (xorBytes x b)) x).length = 16 := by
    induction bs with
    | nil => exact fun x hx => hx
    | cons b bs ih => exact fun x _ => ih _ (by simp [blockCipher])
  exact hfold _ (by simp [Ccm.blockSize])

theorem mic_eq (key : Key128) (nonce aad msg : List UInt8) (hlen : c.lenFldSz = 2)
    (hauth : c.authFldSz.toNat ≤ 16) (heven : c.authFldSz.toNat % 2 = 0) :
    c.mic E key nonce aad msg = Ccm.mic (blockCipher (E key)) c.authFldSz.toNat nonce aad msg := by
  have hlayout : c.layout nonce aad msg =
      Ccm.firstBlock c.authFldSz.toNat nonce aad msg ++ Ccm.aadField aad ++ Ccm.pad msg := by
    rw [layout, block0, flags_eq hlen hauth heven]
    rfl
  have htag := length_cbcMac E key (Ccm.blocks (c.layout nonce aad msg))
  apply List.ext_getElem
  · rw [length_mic hauth, Ccm.length_mic]
  · intro i h₁ h₂
    have hi : i < 16 := by
      rw [length_mic hauth] at h₁
      omega
    simp [mic, micBlock, Ccm.mic, Ccm.tag, ← hlayout, Block.toList_xor, Ccm.xorBytes, Block.toList_ofList htag, htag,
      blockCipher, hi]

/-! ### Both directions -/

structure Setup (c : CcmObject) (micSz : UInt16) : Prop where
  lenFldSz : c.lenFldSz = 2
  authFldSz : c.authFldSz = micSz
  supported : micSz ≤ 16 ∧ (micSz = 0 ∨ 4 ≤ micSz)

theorem Setup.le (h : Setup c micSz) : c.authFldSz.toNat ≤ 16 := by
  rw [h.authFldSz]
  exact UInt16.le_iff_toNat_le.mp h.supported.1

theorem Setup.mic_eq {d : CcmObject} (hc : Setup c micSz) (hd : Setup d micSz) :
    d.mic E key nonce aad msg = c.mic E key nonce aad msg := by
  simp only [mic, micBlock, layout, block0, flags, hc.lenFldSz, hc.authFldSz, hd.lenFldSz, hd.authFldSz]

theorem toNat_ofNat_length (h : bytes.length < 65536) : (UInt16.ofNat bytes.length).toNat = bytes.length := by
  rw [UInt16.toNat_ofNat', Nat.mod_eq_of_lt h]

theorem Setup.checkAuthDecrypt_eq (key : Key128) {pEnc : Option (List UInt8)} {ct u : List UInt8}
    (hc : Setup c micSz) (h : Passes puiNonce pAad pMsg aadSz msgSz nonce aad msg) (haad : aad.length < 0xFF00)
    (hp : PointsTo pEnc (ct ++ u)) (hne : ct ++ u ≠ []) (hu : u.length = micSz.toNat)
    (hlong : (ct ++ u).length < 65536)
    (hfits : 16 + roundUp (if aad = [] then 0 else 2 + aad.length) + roundUp ct.length < 65536) :
    ∃ c', c.checkAuthDecrypt E (some key) (some puiNonce) pAad aadSz pEnc (UInt16.ofNat (ct ++ u).length) true =
      some (c', decide (c.mic E key nonce aad (ctr (blockCipher (E key)) nonce ct) = u),
        if c.mic E key nonce aad (ctr (blockCipher (E key)) nonce ct) = u then
          ctr (blockCipher (E key)) nonce ct else []) := by
  have hsize := toNat_ofNat_length hlong
  have hct : (UInt16.ofNat (ct ++ u).length - c.authFldSz).toNat = ct.length := by
    have hle : c.authFldSz ≤ UInt16.ofNat (ct ++ u).length := by
      rw [UInt16.le_iff_toNat_le, hsize, hc.authFldSz, ← hu, length_append]
      exact Nat.le_add_left _ _
    rw [UInt16.toNat_sub_of_le _ _ hle, hsize, hc.authFldSz, ← hu, length_append, Nat.add_sub_cancel]
  have hpct : PointsTo pEnc ct := by
    obtain ⟨rest, hrest⟩ := hp.resolve_left hne
    exact Or.inr ⟨u ++ rest, by rw [hrest, append_assoc]⟩
  have hpasses : Passes puiNonce pAad pEnc aadSz (UInt16.ofNat (ct ++ u).length - c.authFldSz) nonce aad ct :=
    ⟨h.length_nonce, h.pointsTo_nonce, h.pointsTo_aad, hpct, h.length_aad, hct, hfits⟩
  obtain ⟨c', hrun, -⟩ := CcmObject.checkAuthDecrypt_eq (E := E) (c := c) hpasses hp hne hsize
    (by rw [hu, hc.authFldSz]) hc.lenFldSz hc.le haad
  exact ⟨c', hrun⟩

/-- The class computes CCM: encryption is the reference's for the even MIC lengths, its output decrypts to the message, and any other buffer is accepted only with the MIC of what it decrypts to. -/
theorem ccm_refines (E : Key128 → Block → Block) {micSz : UInt16} (hc : Setup c micSz)
    (h : Passes puiNonce pAad pMsg aadSz msgSz nonce aad msg) (haad : aad.length < 0xFF00) :
    (∃ c', c.authEncrypt E (some key) (some puiNonce) pAad aadSz pMsg msgSz true =
      some (c', UInt16.ofNat (aad.length + msg.length + micSz.toNat),
        aad ++ (Ccm.ctr (blockCipher (E key)) nonce msg ++ c.mic E key nonce aad msg))) ∧
    (micSz.toNat % 2 = 0 → Ccm.ctr (blockCipher (E key)) nonce msg ++ c.mic E key nonce aad msg =
      Ccm.encrypt (blockCipher (E key)) micSz.toNat nonce aad msg) ∧
    (∀ d pEnc, Setup d micSz → ¬(msg = [] ∧ micSz = 0) →
      PointsTo pEnc (Ccm.ctr (blockCipher (E key)) nonce msg ++ c.mic E key nonce aad msg) →
      ∃ d', d.checkAuthDecrypt E (some key) (some puiNonce) pAad aadSz pEnc
        (UInt16.ofNat (msg.length + micSz.toNat)) true = some (d', true, msg)) ∧
    ∀ d pEnc ct u, Setup d micSz → PointsTo pEnc (ct ++ u) → u.length = micSz.toNat → ct ++ u ≠ [] →
      (ct ++ u).length < 65536 →
      16 + roundUp (if aad = [] then 0 else 2 + aad.length) + roundUp ct.length < 65536 →
      ∃ d' ok plain, d.checkAuthDecrypt E (some key) (some puiNonce) pAad aadSz pEnc
          (UInt16.ofNat (ct ++ u).length) true = some (d', ok, plain) ∧
        (ok = true → plain = Ccm.ctr (blockCipher (E key)) nonce ct ∧ c.mic E key nonce aad plain = u) := by
  have hmicLen : (c.mic E key nonce aad msg).length = micSz.toNat := by
    rw [length_mic hc.le, hc.authFldSz]
  have hmicSz : micSz.toNat ≤ 16 := UInt16.le_iff_toNat_le.mp hc.supported.1
  have hmsg := le_roundUp msg.length
  have hfits := h.fits
  refine ⟨?encrypts, ?standard, ?decrypts, ?checks⟩
  case encrypts =>
    obtain ⟨c', hrun, -⟩ := authEncrypt_eq (E := E) key h hc.lenFldSz hc.le haad
    have hsum : aadSz + msgSz + c.authFldSz = UInt16.ofNat (aad.length + msg.length + micSz.toNat) := by
      rw [UInt16.ofNat_add, UInt16.ofNat_add, ← h.length_aad, ← h.length_msg, hc.authFldSz]
      simp only [UInt16.ofNat_toNat]
    rw [hsum, List.append_assoc] at hrun
    exact ⟨c', hrun⟩
  case standard =>
    intro heven
    have hmic := mic_eq (E := E) key nonce aad msg hc.lenFldSz hc.le
      (by rw [hc.authFldSz]; exact heven)
    rw [hmic, hc.authFldSz, Ccm.encrypt]
  case decrypts =>
    intro d pEnc hd hsome hp
    have hctr : Ccm.ctr (blockCipher (E key)) nonce (Ccm.ctr (blockCipher (E key)) nonce msg) = msg :=
      Ccm.ctr_ctr _ _ _
    have hlen : (Ccm.ctr (blockCipher (E key)) nonce msg ++ c.mic E key nonce aad msg).length =
        msg.length + micSz.toNat := by
      rw [List.length_append, Ccm.length_ctr, hmicLen]
    have hne : Ccm.ctr (blockCipher (E key)) nonce msg ++ c.mic E key nonce aad msg ≠ [] := by
      intro hnil
      rw [hnil, List.length_nil] at hlen
      apply hsome
      constructor
      · exact List.length_eq_zero_iff.mp (by omega)
      · exact UInt16.toNat_inj.mp (by change micSz.toNat = 0; omega)
    obtain ⟨d', hrun⟩ := hd.checkAuthDecrypt_eq (E := E) key h haad hp hne hmicLen
      (by rw [hlen]; omega) (by rw [Ccm.length_ctr]; exact h.fits)
    rw [hlen, hctr, hc.mic_eq hd, decide_eq_true rfl, if_pos rfl] at hrun
    exact ⟨d', hrun⟩
  case checks =>
    intro d pEnc ct u hd hp hu hne hlong hfits'
    obtain ⟨d', hrun⟩ := hd.checkAuthDecrypt_eq (E := E) key h haad hp hne hu hlong hfits'
    refine ⟨d', _, _, hrun, ?_⟩
    intro hok
    have hmic := of_decide_eq_true hok
    rw [if_pos hmic]
    exact ⟨rfl, by rw [← hc.mic_eq hd]; exact hmic⟩

end Public

def sampleObject : CcmObject where
  rguiT := Vector.replicate 16 0
  rguiU := Vector.replicate 16 0
  keyRk := Vector.replicate 16 0
  puiNonce := []
  workBuf := []
  workBufSz := 0
  workBufIdx := 0
  authFldSz := 4
  lenFldSz := 2
  nonceSz := 0
  msgOffset := 0

def sampleKey : Key128 := Vector.replicate 16 7

def sampleCipher (key : Key128) (block : Block) : Block := block.xor key

def sampleNonce : List UInt8 := replicate 13 1

theorem ccm_refines_sample : ∃ c', sampleObject.authEncrypt sampleCipher (some sampleKey) (some sampleNonce)
        (some [1, 2, 3]) 3 (some [4, 5]) 2 true =
      some (c', UInt16.ofNat (3 + 2 + 4), [1, 2, 3] ++
        (ctr (blockCipher (sampleCipher sampleKey)) sampleNonce [4, 5] ++
          sampleObject.mic sampleCipher sampleKey sampleNonce [1, 2, 3] [4, 5])) := by
  have hc : Setup sampleObject 4 := ⟨rfl, rfl, by decide⟩
  have h : Passes sampleNonce (some [1, 2, 3]) (some [4, 5]) 3 2 sampleNonce [1, 2, 3] [4, 5] :=
    ⟨rfl, Or.inr ⟨[], rfl⟩, Or.inr ⟨[], rfl⟩, Or.inr ⟨[], rfl⟩, rfl, rfl, by decide⟩
  exact (ccm_refines sampleCipher hc h (by decide)).1

/-- Additional data of 65280 bytes fits the scratch buffer, and is refused. -/
theorem authEncrypt_refuses_long_aad :
    16 + roundUp (2 + (replicate 65280 (0 : UInt8)).length) + roundUp 0 < 65536 ∧ Setup sampleObject 4 ∧
      sampleObject.authEncrypt sampleCipher (some sampleKey) (some sampleNonce)
        (some (replicate 65280 0)) 65280 none 0 true = some (sampleObject, 0, []) ∧
      [] ≠ replicate 65280 0 ++
        encrypt (blockCipher (sampleCipher sampleKey)) 4 sampleNonce (replicate 65280 0) [] := by
  refine ⟨by rw [length_replicate]; decide, ⟨rfl, rfl, by decide⟩, ?_, ?_⟩
  · rw [authEncrypt, if_pos]
    intro h
    exact absurd h.2.2.2 (by decide)
  · intro h
    have hlen := congrArg length h
    rw [length_append, length_replicate, length_nil] at hlen
    omega

end Cipher

end CcmObject

end Isa100Gateway
