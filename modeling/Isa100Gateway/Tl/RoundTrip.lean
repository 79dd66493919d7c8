import Isa100Gateway.Lib.Bytes
import Isa100Gateway.Tl.ChecksumLaw
import Isa100Gateway.Tl.Tlde

/-!
# From request to indication

The receiver takes the send time, the nonce, the associated data and the checksum from a datagram as the sender put them in.
-/

namespace Isa100Gateway

theorem and_0x80_ne_zero_iff (t : UInt8) : t &&& 0x80 ≠ 0 ↔ 128 ≤ t.toNat :=
  Bytes.forall_uint8 (P := fun t => t &&& 0x80 ≠ 0 ↔ 128 ≤ t.toNat) (by decide +kernel) t

theorem toNat_seconds (timeAndCounter : UInt8) : (timeAndCounter >>> 2).toNat = timeAndCounter.toNat / 4 := by
  simp [Nat.shiftRight_eq_div_pow]

theorem toNat_low_seconds (crtTime : UInt32) : (crtTime &&& 0x3F).toUInt8.toNat = crtTime.toNat % 64 := by
  have hmask : crtTime.toNat &&& 63 = crtTime.toNat % 64 := Nat.and_two_pow_sub_one_eq_mod _ 6
  simp only [UInt32.toNat_toUInt8, UInt32.toNat_and, UInt32.reduceToNat, hmask]
  omega

theorem toNat_timeTraveling (crtTime : UInt32) (timeAndCounter : UInt8) :
    (timeTraveling crtTime timeAndCounter).toNat =
      (crtTime.toNat % 64 + 64 - timeAndCounter.toNat / 4) % 64 := by
  have hlow := toNat_low_seconds crtTime
  have hsec := toNat_seconds timeAndCounter
  have htc := timeAndCounter.toNat_lt
  have hdiff : ((crtTime &&& 0x3F).toUInt8 - timeAndCounter >>> 2).toNat =
      (256 - timeAndCounter.toNat / 4 + crtTime.toNat % 64) % 256 := by
    rw [UInt8.toNat_sub, hlow, hsec]
  unfold timeTraveling
  by_cases hborrow : (crtTime &&& 0x3F).toUInt8 - timeAndCounter >>> 2 &&& 0x80 ≠ 0
  · have hbig := (and_0x80_ne_zero_iff _).mp hborrow
    rw [hdiff] at hbig
    simp only [if_pos hborrow, UInt8.toNat_add, hdiff, UInt8.reduceToNat]
    omega
  · have hsmall := mt (and_0x80_ne_zero_iff _).mpr hborrow
    rw [hdiff] at hsmall
    simp only [if_neg hborrow, hdiff]
    omega

theorem uc250msStep_lt (t : TaiTime) : t.uc250msStep.toNat < 4 := by
  have husec := UInt32.lt_iff_toNat_lt.mp t.usec_lt
  simp only [TaiTime.uc250msStep, UInt32.toNat_toUInt8, UInt32.toNat_div, UInt32.reduceToNat] at husec ⊢
  omega

theorem toNat_timeAndCounter (t : TaiTime) : t.timeAndCounter.toNat = t.sec.toNat % 64 * 4 + t.uc250msStep.toNat := by
  have hstep := uc250msStep_lt t
  have hshift : (t.sec <<< 2).toUInt8.toNat = t.sec.toNat % 64 * 2 ^ 2 := by
    simp [Nat.shiftLeft_eq]
    omega
  rw [TaiTime.timeAndCounter, UInt8.toNat_or, hshift, Bytes.lor_eq_add hstep]
  omega

theorem toNat_travel {sent : TaiTime} {now : UInt32} (hlate : now.toNat ≤ sent.sec.toNat + 60)
    (hearly : sent.sec.toNat ≤ now.toNat + 1) :
    (timeTraveling (now + tldeTimeMaxDiff.toUInt32) sent.timeAndCounter).toNat =
      now.toNat + 2 - sent.sec.toNat := by
  have hstep := uc250msStep_lt sent
  have hcrt : (now + tldeTimeMaxDiff.toUInt32).toNat = (now.toNat + 2) % 2 ^ 32 := by
    simp [tldeTimeMaxDiff]
  rw [toNat_timeTraveling, hcrt, toNat_timeAndCounter]
  omega

theorem issueTime_timeAndCounter {sent : TaiTime} {now : UInt32}
    (hlate : now.toNat ≤ sent.sec.toNat + 60) (hearly : sent.sec.toNat ≤ now.toNat + 1) :
    issueTime (now + tldeTimeMaxDiff.toUInt32) sent.timeAndCounter = sent.sec := by
  have hnow := now.toNat_lt
  have hsent := sent.sec.toNat_lt
  have hcrt : (now + tldeTimeMaxDiff.toUInt32).toNat = (now.toNat + 2) % 2 ^ 32 := by
    simp [tldeTimeMaxDiff]
  apply UInt32.toNat_inj.mp
  rw [issueTime, UInt32.toNat_sub, UInt8.toNat_toUInt32, hcrt, toNat_travel hlate hearly]
  omega

theorem length_front (h : Ipv6PseudoHdr) : h.front.length = 40 := by
  simp [Ipv6PseudoHdr.front]

/-- The header is longer by the key index if there is more than one key, and ends in the time and the counter. -/
structure IsSecurityHdr (secHdr : List UInt8) (timeAndCounter counter : UInt8) : Prop where
  ctrl : (byteAt secHdr 0 = securityEncMic32 ∧ secHdr.length = 3) ∨
    (byteAt secHdr 0 = securityCtrlEncMic32 ∧ secHdr.length = 4)
  timeAndCounter_eq : byteAt secHdr (secHdr.length - 2) = timeAndCounter
  counter_eq : byteAt secHdr (secHdr.length - 1) = counter

theorem isSecurityHdr_securityHdr (keysNo keyID timeAndCounter counter : UInt8) :
    IsSecurityHdr (securityHdr keysNo keyID timeAndCounter counter) timeAndCounter counter := by
  by_cases hmore : keysNo > 1
  · rw [securityHdr, if_pos hmore]
    exact ⟨Or.inr ⟨rfl, rfl⟩, rfl, rfl⟩
  · rw [securityHdr, if_neg hmore]
    exact ⟨Or.inl ⟨rfl, rfl⟩, rfl, rfl⟩

theorem length_securityHdr (keysNo keyID timeAndCounter counter : UInt8) :
    (securityHdr keysNo keyID timeAndCounter counter).length = if keysNo > 1 then 4 else 3 := by
  by_cases hmore : keysNo > 1 <;> simp [securityHdr, hmore]

theorem IsSecurityHdr.length_le {secHdr : List UInt8} {timeAndCounter counter : UInt8}
    (h : IsSecurityHdr secHdr timeAndCounter counter) : 3 ≤ secHdr.length ∧ secHdr.length ≤ 4 := by
  cases h.ctrl with
  | inl h => omega
  | inr h => omega

theorem byteAt_append {left : List UInt8} (right : List UInt8) {i : Nat} (hi : i < left.length) :
    byteAt (left ++ right) i = byteAt left i := by
  simp only [byteAt, List.getD_eq_getElem?_getD, List.getElem?_append_left hi]

theorem tlNonce_take (eui64 : Eui64) (time : UInt32) (auth : List UInt8) {len : Nat} (hlen : 2 ≤ len) :
    tlNonce eui64 time (auth.take len) len = tlNonce eui64 time auth len := by
  have hbyte : ∀ i < len, byteAt (auth.take len) i = byteAt auth i := by
    intro i hi
    simp only [byteAt, List.getD_eq_getElem?_getD, List.getElem?_take_of_lt hi]
  rw [tlNonce, tlNonce, hbyte (len - 2) (by omega), hbyte (len - 1) (by omega)]

variable {key : SlmeKey} {pseudo : Ipv6PseudoHdr}

theorem decryptCall_eq_encryptCall {eui64 : Eui64} {keyBytes : Key128}
    {time : UInt32} {tx rx : Ipv6PseudoHdr} {hdrLen : Nat} (hlen : 2 ≤ authLen hdrLen)
    (hkey : key.key = keyBytes) (hissuer : key.issuerEUI64 = eui64)
    (hauth : rx.bytes.take (authLen hdrLen) = tx.bytes.take (authLen hdrLen)) :
    decryptCall key time rx hdrLen = encryptCall eui64 tx hdrLen keyBytes time := by
  have hnonce : tlNonce key.issuerEUI64 time rx.bytes (authLen hdrLen) =
      tlNonce eui64 time tx.bytes (authLen hdrLen) := by
    rw [← tlNonce_take _ _ rx.bytes hlen, ← tlNonce_take _ _ tx.bytes hlen, hauth, hissuer]
  simp only [decryptCall, encryptCall, hnonce, hauth, hkey]

theorem icmpInterimChksum_drop (data : List UInt8) (skip : Nat) (cksum : UInt32) :
    (if data.length > skip then icmpInterimChksum (data.drop skip) cksum else cksum) =
      icmpInterimChksum (data.drop skip) cksum := by
  by_cases h : data.length > skip
  · rw [if_pos h]
  · rw [if_neg h, List.drop_eq_nil_of_le (by omega)]
    rfl

theorem txChecksum_eq (heven : Even pseudo.tlSecurityHdr.length)
    (hdrLen : Nat) (evenHeader : Bool) (appData : List UInt8) :
    txChecksum pseudo hdrLen evenHeader appData = icmpGetFinalCksum (icmpInterimChksum
        (pseudo.tlSecurityHdr ++ appData.drop (if evenHeader then 0 else 1))
        (icmpInterimChksum
          { pseudo with padding := (UInt32.ofNat (appData.length + hdrLen)).toUInt16 }.front
          (UInt32.ofNat (appData.length + hdrLen)))) := by
  have hfront : ∀ h : Ipv6PseudoHdr, Even h.front.length := by
    intro h
    rw [length_front]
    decide
  rw [icmpInterimChksum_append heven, txChecksum]
  simp only [icmpInterimChksum_drop, Ipv6PseudoHdr.bytes]
  rw [icmpInterimChksum_append (hfront _)]

section Datagram

variable {ccm : AesCcm} {tx rx : TlSettings} {req : TlRequest} {secHdr appData : List UInt8}
  {cksum : UInt16}

theorem drop_tpdu_data : (req.tpdu secHdr cksum appData).data.drop udpHdrSize = secHdr ++ appData := rfl

theorem length_tpdu_data : (req.tpdu secHdr cksum appData).data.length =
    udpHdrSize + secHdr.length + appData.length := by
  simp [Tpdu.data, TlRequest.tpdu, udpHdrSize]
  omega

theorem byteAt_tpdu_data (i : Nat) : byteAt (req.tpdu secHdr cksum appData).data (udpHdrSize + i) =
    byteAt (secHdr ++ appData) i := by
  have hdrop : (req.tpdu secHdr cksum appData).data.drop udpHdrSize = secHdr ++ appData :=
    drop_tpdu_data
  rw [← hdrop, byteAt, byteAt, List.getD_eq_getElem?_getD, List.getD_eq_getElem?_getD, List.getElem?_drop]

theorem byteAt_tpdu_secHdr {i : Nat} (hi : i < secHdr.length) :
    byteAt (req.tpdu secHdr cksum appData).data (udpHdrSize + i) = byteAt secHdr i := by
  rw [byteAt_tpdu_data, byteAt_append _ hi]

theorem IsSecurityHdr.ctrl_tpdu {timeAndCounter counter : UInt8} (h : IsSecurityHdr secHdr timeAndCounter counter) :
    (byteAt (req.tpdu secHdr cksum appData).data 8 = securityEncMic32 ∧ udpHdrSize + secHdr.length = plainHdrSize) ∨
    (byteAt (req.tpdu secHdr cksum appData).data 8 = securityCtrlEncMic32 ∧
      udpHdrSize + secHdr.length = moreKeysHdrSize) := by
  have hlow := h.length_le.1
  have hpos : 0 < secHdr.length := by omega
  have hfirst : byteAt (req.tpdu secHdr cksum appData).data (udpHdrSize + 0) = byteAt secHdr 0 :=
    byteAt_tpdu_secHdr hpos
  rw [Nat.add_zero, udpHdrSize] at hfirst
  rw [hfirst]
  cases h.ctrl with
  | inl h => exact Or.inl ⟨h.1, by rw [h.2]; rfl⟩
  | inr h => exact Or.inr ⟨h.1, by rw [h.2]; rfl⟩

theorem toUInt16_ofNat (n : Nat) : (UInt32.ofNat n).toUInt16 = UInt16.ofNat n := by
  apply UInt16.toNat_inj.mp
  simp

theorem rxChecksum_tpdu {pseudoSecHdr : List UInt8} (evenHeader : Bool)
    (hpeer : rx.ipv6Address = req.destAddress) (heven : Even pseudoSecHdr.length)
    (hsplit : pseudoSecHdr ++ appData.drop (if evenHeader then 0 else 1) = secHdr ++ appData) :
    rxChecksum rx tx.ipv6Address (req.tpdu secHdr cksum appData).data =
      txChecksum (req.pseudoHdr tx pseudoSecHdr) (udpHdrSize + secHdr.length) evenHeader appData := by
  have hlen : appData.length + (udpHdrSize + secHdr.length) =
      (req.tpdu secHdr cksum appData).data.length := by
    rw [length_tpdu_data]
    omega
  have hbytes : (req.pseudoHdr tx pseudoSecHdr).tlSecurityHdr = pseudoSecHdr := rfl
  have hsum := txChecksum_eq (hbytes ▸ heven) (udpHdrSize + secHdr.length) evenHeader appData
  rw [hsum, hbytes, hsplit, hlen, toUInt16_ofNat, rxChecksum, drop_tpdu_data]
  simp only [Ipv6PseudoHdr.bytes, Ipv6PseudoHdr.front, rxPseudoHdr, TlRequest.pseudoHdr, hpeer, List.append_nil]
  rfl

end Datagram

variable {keyTai crtTime : UInt32}

theorem openTpdu_eq {ccm : AesCcm} {g : TlSettings} {data : List UInt8} {headerLen : Nat}
    (hctrl : (byteAt data 8 = securityEncMic32 ∧ headerLen = plainHdrSize) ∨
      (byteAt data 8 = securityCtrlEncMic32 ∧ headerLen = moreKeysHdrSize))
    (hkey : rxKey g.keys keyTai pseudo.ipv6SrcAddr data = some key) :
    openTpdu ccm g keyTai crtTime pseudo data =
      if data.length ≤ headerLen + 4 then .error .encryptedTooSmall
      else
        let call := decryptCall key (issueTime crtTime (byteAt data (headerLen - 2))) pseudo headerLen
        match ccm.open call (data.drop headerLen) with
        | none => .error .invalidMic
        | some appData => .ok ⟨byteAt data (headerLen - 2), byteAt data (headerLen - 1), some call, appData⟩ := by
  have hdiffer : securityCtrlEncMic32 ≠ securityEncMic32 := by decide
  cases hopen : ccm.open (decryptCall key (issueTime crtTime (byteAt data (headerLen - 2))) pseudo headerLen)
      (data.drop headerLen) with
  | none | some appData =>
    obtain ⟨hctrl, rfl⟩ | ⟨hctrl, rfl⟩ := hctrl
    · simp [openTpdu, hctrl, hkey, hopen]
    · simp [openTpdu, hctrl, hkey, hdiffer, hopen]

/-! ## The round trip -/

theorem take_auth {front secHdr appData : List UInt8} (hfront : front.length = 40) (hsec : secHdr.length ≤ 4) :
    (front ++ (secHdr ++ appData).take 4).take (authLen (udpHdrSize + secHdr.length)) =
      front ++ secHdr := by
  have hlen : authLen (udpHdrSize + secHdr.length) = front.length + secHdr.length := by
    simp only [authLen, udpHdrSize, hfront]
    omega
  rw [hlen, List.take_length_add_append, List.take_take, Nat.min_eq_left hsec, List.take_left]

section RoundTrip

variable {ccm : AesCcm} {tx rx : TlSettings} {req : TlRequest} {sent : TaiTime} {key peerKey : SlmeKey}
  {keyBytes : Key128}
  {keysNo msgIncrement : UInt8} {keyTai now : UInt32}

theorem decryptCall_securedTpdu (hpeer : rx.ipv6Address = req.destAddress) (hkey : peerKey.key = keyBytes)
    (hissuer : peerKey.issuerEUI64 = tx.eui64) {secHdr appData : List UInt8}
    (cksum : UInt16) (hlow : 2 ≤ secHdr.length) (hhigh : secHdr.length ≤ 4) :
    decryptCall peerKey sent.sec (rxPseudoHdr rx tx.ipv6Address (req.tpdu secHdr cksum appData).data 0
        (((req.tpdu secHdr cksum appData).data.drop udpHdrSize).take 4)) (udpHdrSize + secHdr.length) =
      encryptCall tx.eui64 (req.pseudoHdr tx secHdr) (udpHdrSize + secHdr.length) keyBytes sent.sec := by
  have hlen : 2 ≤ authLen (udpHdrSize + secHdr.length) := by
    simp only [authLen, udpHdrSize]
    omega
  apply decryptCall_eq_encryptCall hlen hkey hissuer
  have hfront : (rxPseudoHdr rx tx.ipv6Address (req.tpdu secHdr cksum appData).data 0
      (((req.tpdu secHdr cksum appData).data.drop udpHdrSize).take 4)).front =
      (req.pseudoHdr tx secHdr).front := by
    simp only [Ipv6PseudoHdr.front, rxPseudoHdr, TlRequest.pseudoHdr, hpeer]
    rfl
  have hauth : (req.pseudoHdr tx secHdr).bytes.length = authLen (udpHdrSize + secHdr.length) := by
    simp only [Ipv6PseudoHdr.bytes, List.length_append, length_front, TlRequest.pseudoHdr, authLen, udpHdrSize]
    omega
  rw [← hauth, List.take_length, hauth, Ipv6PseudoHdr.bytes, hfront]
  exact take_auth (length_front _) hhigh

variable {call : AeadCall} {data : List UInt8} {counter counter' : UInt8} {tpdu : Tpdu}

theorem openTpdu_tpdu {crtTime : UInt32} {secHdr : List UInt8} (cksum : UInt16)
    (hhdr : IsSecurityHdr secHdr sent.timeAndCounter msgIncrement)
    (hpeer : rx.ipv6Address = req.destAddress) (hkey : peerKey.key = keyBytes)
    (hissuer : peerKey.issuerEUI64 = tx.eui64) (hne : req.appData ≠ []) (hlen : req.appData.length ≤ maxApduSize)
    (htime : issueTime crtTime sent.timeAndCounter = sent.sec)
    (hcall : call = encryptCall tx.eui64 (req.pseudoHdr tx secHdr) (udpHdrSize + secHdr.length)
      keyBytes sent.sec) (hdata : data = (req.tpdu secHdr cksum (ccm.seal call req.appData)).data)
    (hlookup : rxKey rx.keys keyTai tx.ipv6Address data = some peerKey) : openTpdu ccm rx keyTai crtTime
        (rxPseudoHdr rx tx.ipv6Address data 0 ((data.drop udpHdrSize).take 4)) data =
      .ok ⟨sent.timeAndCounter, msgIncrement, some call, req.appData⟩ := by
  obtain ⟨hlow, hhigh⟩ := hhdr.length_le
  have hfield : ∀ i < secHdr.length, byteAt data (udpHdrSize + i) = byteAt secHdr i := by
    intro i hi
    rw [hdata, byteAt_tpdu_secHdr hi]
  have htimeField : byteAt data (udpHdrSize + secHdr.length - 2) = sent.timeAndCounter := by
    rw [Nat.add_sub_assoc (by omega), hfield _ (by omega), hhdr.timeAndCounter_eq]
  have hcounterField : byteAt data (udpHdrSize + secHdr.length - 1) = msgIncrement := by
    rw [Nat.add_sub_assoc (by omega), hfield _ (by omega), hhdr.counter_eq]
  have hcalls : decryptCall peerKey (issueTime crtTime (byteAt data (udpHdrSize + secHdr.length - 2)))
      (rxPseudoHdr rx tx.ipv6Address data 0 ((data.drop udpHdrSize).take 4))
      (udpHdrSize + secHdr.length) = call := by
    rw [htimeField, htime, hcall, hdata]
    exact decryptCall_securedTpdu hpeer hkey hissuer cksum (by omega) hhigh
  have hctrl : (byteAt data 8 = securityEncMic32 ∧ udpHdrSize + secHdr.length = plainHdrSize) ∨
      (byteAt data 8 = securityCtrlEncMic32 ∧ udpHdrSize + secHdr.length = moreKeysHdrSize) := by
    rw [hdata]
    exact hhdr.ctrl_tpdu
  have hsealed : (ccm.seal call req.appData).length = req.appData.length + micSize :=
    ccm.length_crypt _ _ _ _ hlen
  have hlong : udpHdrSize + secHdr.length + 4 < data.length := by
    have hpos := List.length_pos_iff.mpr hne
    rw [hdata, length_tpdu_data, hsealed, micSize]
    omega
  have hdrop : data.drop (udpHdrSize + secHdr.length) = ccm.seal call req.appData := by
    rw [hdata, ← List.drop_drop, drop_tpdu_data, List.drop_left]
  have hopen : ccm.open (decryptCall peerKey
      (issueTime crtTime (byteAt data (udpHdrSize + secHdr.length - 2)))
      (rxPseudoHdr rx tx.ipv6Address data 0 ((data.drop udpHdrSize).take 4))
      (udpHdrSize + secHdr.length)) (data.drop (udpHdrSize + secHdr.length)) = some req.appData := by
    rw [hcalls, hdrop]
    exact ccm.decrypt_crypt _ _ _ _ hlen
  rw [openTpdu_eq hctrl hlookup, if_neg hlong.not_ge]
  dsimp only
  rw [hopen, hcalls, htimeField, hcounterField]

theorem seal_ne_nil (call : AeadCall) (hlen : data.length ≤ maxApduSize) : ccm.seal call data ≠ [] := by
  intro hnil
  have hsealed : (ccm.seal call data).length = data.length + micSize :=
    ccm.length_crypt _ _ _ _ hlen
  simp [hnil, micSize] at hsealed

theorem append_byteAt_drop (hne : data ≠ []) (secHdr : List UInt8) :
    secHdr ++ [byteAt data 0] ++ data.drop 1 = secHdr ++ data := by
  cases data with
  | nil => exact absurd rfl hne
  | cons first rest => simp [byteAt]

theorem securedTpdu_cksum (hpeer : rx.ipv6Address = req.destAddress) (hlen : req.appData.length ≤ maxApduSize) :
    ∃ cksum, (securedTpdu ccm tx sent req key keysNo msgIncrement).2 =
        req.tpdu (securityHdr keysNo key.keyID sent.timeAndCounter msgIncrement) cksum
          (ccm.seal (securedTpdu ccm tx sent req key keysNo msgIncrement).1 req.appData) ∧
      rxChecksum rx tx.ipv6Address (securedTpdu ccm tx sent req key keysNo msgIncrement).2.data =
        cksum := by
  have hhdrLen := length_securityHdr keysNo key.keyID sent.timeAndCounter msgIncrement
  refine ⟨_, rfl, rxChecksum_tpdu (decide (keysNo > 1)) hpeer ?_ ?_⟩
  · by_cases hmore : keysNo > 1
    · simp only [hmore, decide_true, if_true, hhdrLen]
      decide
    · simp only [hmore, decide_false, Bool.false_eq_true, if_false, List.length_append, hhdrLen,
        List.length_singleton]
      decide
  · by_cases hmore : keysNo > 1
    · simp only [hmore, decide_true, if_true, List.drop_zero]
    · simp only [hmore, decide_false, Bool.false_eq_true, if_false]
      exact append_byteAt_drop (seal_ne_nil _ hlen) _

theorem nldeDataIndication_of_checked {srcAddr : Addr128} (priorityAndFlags : UInt8) (hist : DuplicateHist)
    (hport : ¬(dstPortBytes data).2 &&& 0x0F ≥ maxNbOfPorts) (hlong : ¬data.length ≤ plainHdrSize)
    (hcksum : byteAt data 6 = (rxChecksum rx srcAddr data >>> 8).toUInt8 ∧
      byteAt data 7 = (rxChecksum rx srcAddr data).toUInt8) (hsecured : byteAt data 8 ≠ securityNone) :
    nldeDataIndication ccm rx keyTai now srcAddr data priorityAndFlags hist =
      finishIndication [] srcAddr priorityAndFlags (now + tldeTimeMaxDiff.toUInt32) data hist
        (openTpdu ccm rx keyTai (now + tldeTimeMaxDiff.toUInt32)
          (rxPseudoHdr rx srcAddr data 0 ((data.drop udpHdrSize).take 4)) data) := by
  have hsum : ¬(byteAt data 6 ≠ (rxChecksum rx srcAddr data >>> 8).toUInt8 ∨
      byteAt data 7 ≠ (rxChecksum rx srcAddr data).toUInt8) := by
    rw [← hcksum.1, ← hcksum.2]
    simp
  have halert : ¬(rx.tlSecurityLevel ≠ securityNone ∧ byteAt data 8 = securityNone) :=
    fun h => hsecured h.2
  rw [nldeDataIndication, if_neg hport, if_neg hlong, if_neg hsum, if_neg halert]

theorem port_and_mask {port : UInt8} (h : port < 16) : (0xB0 ||| port) &&& 0x0F = port := by
  have hall : ∀ p : UInt8, p < 16 → (0xB0 ||| p) &&& 0x0F = p := fun p =>
    Bytes.forall_uint8 (P := fun p => p < 16 → (0xB0 ||| p) &&& 0x0F = p) (by decide +kernel) p
  exact hall port h

theorem transportTime_eq (hlate : now.toNat ≤ sent.sec.toNat + 60) (hearly : sent.sec.toNat ≤ now.toNat + 1) :
    transportTime (now + tldeTimeMaxDiff.toUInt32) sent.timeAndCounter =
      UInt8.ofNat (now.toNat - sent.sec.toNat) := by
  have htravel := toNat_travel hlate hearly
  have hmax : tldeTimeMaxDiff.toNat = 2 := rfl
  unfold transportTime
  by_cases hlong : timeTraveling (now + tldeTimeMaxDiff.toUInt32) sent.timeAndCounter > tldeTimeMaxDiff
  · have hgt := UInt8.lt_iff_toNat_lt.mp hlong
    simp only [if_pos hlong]
    apply UInt8.toNat_inj.mp
    rw [UInt8.toNat_sub_of_le _ _ (UInt8.le_of_lt hlong), htravel, UInt8.toNat_ofNat', hmax]
    rw [htravel] at hgt
    omega
  · have hle := mt UInt8.lt_iff_toNat_lt.mpr hlong
    simp only [if_neg hlong]
    rw [htravel] at hle
    apply UInt8.toNat_inj.mp
    rw [UInt8.toNat_ofNat', UInt8.toNat_zero]
    omega

theorem secured_of_sent
    (hsend : tldeDataRequest ccm tx keyTai sent req counter = (.sent (some call) tpdu, counter')) :
    ∃ key keysNo, securedTpdu ccm tx sent req key keysNo counter' = (call, tpdu) := by
  rcases tldeDataRequest_cases ccm tx keyTai sent req counter with h | h | h | ⟨key, keysNo, -, h⟩
  · simp [h] at hsend
  · simp [h] at hsend
  · simp [h] at hsend
  · rw [h] at hsend
    simp only [Prod.mk.injEq, TxOutcome.sent.injEq, Option.some.injEq] at hsend
    obtain ⟨⟨hcall, htpdu⟩, hcounter⟩ := hsend
    exact ⟨key, keysNo, by rw [← hcounter, ← hcall, ← htpdu]⟩

theorem secured_form (hsend : tldeDataRequest ccm tx keyTai sent req counter = (.sent (some call) tpdu, counter'))
    (hlen : req.appData.length ≤ maxApduSize) (hpeer : rx.ipv6Address = req.destAddress) :
    ∃ key secHdr cksum, IsSecurityHdr secHdr sent.timeAndCounter counter' ∧
      call = encryptCall tx.eui64 (req.pseudoHdr tx secHdr) (udpHdrSize + secHdr.length) key sent.sec ∧
      tpdu = req.tpdu secHdr cksum (ccm.seal call req.appData) ∧
      rxChecksum rx tx.ipv6Address tpdu.data = cksum := by
  obtain ⟨key, keysNo, hsecured⟩ := secured_of_sent hsend
  have hcall : call = (securedTpdu ccm tx sent req key keysNo counter').1 := by rw [hsecured]
  have htpdu : tpdu = (securedTpdu ccm tx sent req key keysNo counter').2 := by rw [hsecured]
  obtain ⟨cksum, hform, hcksum⟩ : ∃ cksum,
      tpdu = req.tpdu (securityHdr keysNo key.keyID sent.timeAndCounter counter') cksum
        (ccm.seal call req.appData) ∧ rxChecksum rx tx.ipv6Address tpdu.data = cksum := by
    rw [htpdu, hcall]
    exact securedTpdu_cksum hpeer hlen
  exact ⟨key.key, _, cksum, isSecurityHdr_securityHdr keysNo key.keyID sent.timeAndCounter counter',
    hcall, hform, hcksum⟩

variable {txKeyTai rxKeyTai : UInt32}

theorem nldeDataIndication_of_sent
    (hsend : tldeDataRequest ccm tx txKeyTai sent req counter = (.sent (some call) tpdu, counter'))
    (hdstPort : req.dstPort < 16) (hlen : req.appData.length ≤ maxApduSize)
    (hpeer : rx.ipv6Address = req.destAddress) (priorityAndFlags : UInt8) (hist : DuplicateHist) :
    nldeDataIndication ccm rx rxKeyTai now tx.ipv6Address tpdu.data priorityAndFlags hist =
      finishIndication [] tx.ipv6Address priorityAndFlags (now + tldeTimeMaxDiff.toUInt32) tpdu.data
        hist (openTpdu ccm rx rxKeyTai (now + tldeTimeMaxDiff.toUInt32)
          (rxPseudoHdr rx tx.ipv6Address tpdu.data 0 ((tpdu.data.drop udpHdrSize).take 4))
          tpdu.data) := by
  obtain ⟨key, secHdr, cksum, hhdr, hcall, hform, hcksum⟩ := secured_form hsend hlen hpeer
  have hlow := hhdr.length_le.1
  apply nldeDataIndication_of_checked
  · rw [hform]
    exact UInt8.not_le.mpr ((port_and_mask hdstPort).symm ▸ hdstPort)
  · have hsealed : (ccm.seal call req.appData).length = req.appData.length + micSize :=
      ccm.length_crypt _ _ _ _ hlen
    rw [hform, length_tpdu_data, hsealed, micSize, udpHdrSize, plainHdrSize]
    omega
  · rw [hcksum, hform]
    exact ⟨rfl, rfl⟩
  · rw [hform]
    cases hhdr.ctrl_tpdu with
    | inl h =>
      rw [h.1]
      decide
    | inr h =>
      rw [h.1]
      decide

/-- The datagram of a secured request, received up to 60 seconds late or 1 second early by the holder of the same key. -/
theorem indication_of_request {counter counter' : UInt8} {txKeyTai rxKeyTai : UInt32} {call : AeadCall} {tpdu : Tpdu}
    (hsend : tldeDataRequest ccm tx txKeyTai sent req counter = (.sent (some call) tpdu, counter'))
    (hsrcPort : req.srcPort < 16) (hdstPort : req.dstPort < 16) (hne : req.appData ≠ [])
    (hlen : req.appData.length ≤ maxApduSize) (hpeer : rx.ipv6Address = req.destAddress)
    (hlookup : rxKey rx.keys rxKeyTai tx.ipv6Address tpdu.data = some peerKey)
    (hkey : peerKey.key = call.key) (hissuer : peerKey.issuerEUI64 = tx.eui64)
    (hlate : now.toNat ≤ sent.sec.toNat + 60) (hearly : sent.sec.toNat ≤ now.toNat + 1)
    (priorityAndFlags : UInt8) (hist : DuplicateHist) :
    issueTime (now + tldeTimeMaxDiff.toUInt32) sent.timeAndCounter = sent.sec ∧
    openTpdu ccm rx rxKeyTai (now + tldeTimeMaxDiff.toUInt32)
        (rxPseudoHdr rx tx.ipv6Address tpdu.data 0 ((tpdu.data.drop udpHdrSize).take 4)) tpdu.data =
      .ok ⟨sent.timeAndCounter, counter', some call, req.appData⟩ ∧
    nldeDataIndication ccm rx rxKeyTai now tx.ipv6Address tpdu.data priorityAndFlags hist =
      match checkDuplicate ⟨sent.timeAndCounter, counter', some call, req.appData⟩ tx.ipv6Address
        (now + tldeTimeMaxDiff.toUInt32) tpdu.data hist with
      | none => ⟨[], .undefined, hist⟩
      | some (true, hist) => ⟨[], .drop .duplicate, hist⟩
      | some (false, hist) =>
        ⟨[], .indication
          { srcAddr := tx.ipv6Address
            srcTsap := req.srcPort
            priorityAndFlags := priorityAndFlags
            appData := req.appData
            dstTsap := req.dstPort
            transportTime := UInt8.ofNat (now.toNat - sent.sec.toNat)
            txTime := ⟨sent.sec, txUsec sent.timeAndCounter counter'⟩
            secLevel := byteAt tpdu.data 8 }, hist⟩ := by
  obtain ⟨key, secHdr, cksum, hhdr, hcall, hform, hcksum⟩ := secured_form hsend hlen hpeer
  have htime := issueTime_timeAndCounter hlate hearly
  have hopen := openTpdu_tpdu cksum hhdr hpeer (hkey.trans (congrArg AeadCall.key hcall)) hissuer
    hne hlen htime hcall (congrArg Tpdu.data hform) hlookup
  have hdst : (dstPortBytes tpdu.data).2 &&& 0x0F = req.dstPort := by
    rw [hform]
    exact port_and_mask hdstPort
  have hsrc : (srcPortBytes tpdu.data).2 &&& 0x0F = req.srcPort := by
    rw [hform]
    exact port_and_mask hsrcPort
  refine ⟨htime, hopen, ?_⟩
  rewrite [nldeDataIndication_of_sent hsend hdstPort hlen hpeer, hopen, finishIndication,
    Opened.indication, hsrc, hdst, htime, transportTime_eq hlate hearly]
  rfl

theorem refused_of_empty
    (hsend : tldeDataRequest ccm tx txKeyTai sent req counter = (.sent (some call) tpdu, counter'))
    (hdstPort : req.dstPort < 16) (hempty : req.appData = []) (hpeer : rx.ipv6Address = req.destAddress)
    (hlookup : rxKey rx.keys rxKeyTai tx.ipv6Address tpdu.data = some peerKey)
    (priorityAndFlags : UInt8) (hist : DuplicateHist) :
    nldeDataIndication ccm rx rxKeyTai now tx.ipv6Address tpdu.data priorityAndFlags hist =
      ⟨[], .drop .encryptedTooSmall, hist⟩ := by
  have hlen : req.appData.length ≤ maxApduSize := by
    rw [hempty]
    exact Nat.zero_le _
  obtain ⟨key, secHdr, cksum, hhdr, hcall, hform, hcksum⟩ := secured_form hsend hlen hpeer
  have hsealed : (ccm.seal call req.appData).length = req.appData.length + micSize :=
    ccm.length_crypt _ _ _ _ hlen
  have hshort : tpdu.data.length ≤ udpHdrSize + secHdr.length + 4 := by
    rw [hform, length_tpdu_data, hsealed, hempty]
    exact Nat.le_refl _
  have hctrl : (byteAt tpdu.data 8 = securityEncMic32 ∧ udpHdrSize + secHdr.length = plainHdrSize) ∨
      (byteAt tpdu.data 8 = securityCtrlEncMic32 ∧
        udpHdrSize + secHdr.length = moreKeysHdrSize) := by
    rw [hform]
    exact hhdr.ctrl_tpdu
  rw [nldeDataIndication_of_sent hsend hdstPort hlen hpeer, openTpdu_eq hctrl hlookup, if_pos hshort,
    finishIndication]
  rfl

end RoundTrip

def sampleTxAddress : Addr128 := (Vector.replicate 15 0).push 1
def sampleRxAddress : Addr128 := (Vector.replicate 15 0).push 2
def sampleEui64 : Eui64 := (Vector.replicate 7 0x11).push 0x22

def sampleKey (peer : Addr128) (sPort dPort : UInt16) : SlmeKey where
  peerIPv6Address := peer
  udpSPort := sPort
  udpDPort := dPort
  keyID := 3
  usage := slmKeyUsageSession
  policy := 0
  validNotBefore := 0
  softLifetime := 0xFFFFFFFF
  hardLifetime := 0xFFFFFFFF
  key := Vector.replicate 16 0x5A
  issuerEUI64 := sampleEui64

def sampleSettings (own peer : Addr128) (sPort dPort : UInt16) : TlSettings where
  ipv6Address := own
  eui64 := sampleEui64
  tlSecurityLevel := securityEncMic32
  keys := [(⟨peer, sPort, dPort⟩, [sampleKey peer sPort dPort])]

def sampleTx : TlSettings := sampleSettings sampleTxAddress sampleRxAddress 0xF0B2 0xF0B1
def sampleRx : TlSettings := sampleSettings sampleRxAddress sampleTxAddress 0xF0B1 0xF0B2

def sampleTlRequest (appData : List UInt8) : TlRequest where
  eui64DestAddr := none
  destAddress := sampleRxAddress
  priorityAndFlags := 0
  appData := appData
  appHandle := 9
  srcPort := 2
  dstPort := 1
  allowEncryption := true

def sampleTime : TaiTime := ⟨1000, 300000, by decide⟩

def sampleSecured (appData : List UInt8) : AeadCall × Tpdu :=
  securedTpdu rijndaelCcm sampleTx sampleTime (sampleTlRequest appData)
    (sampleKey sampleRxAddress 0xF0B2 0xF0B1) 1 8

theorem sampleSecured_sent (appData : List UInt8) :
    tldeDataRequest rijndaelCcm sampleTx 1000 sampleTime (sampleTlRequest appData) 7 =
      (.sent (some (sampleSecured appData).1) (sampleSecured appData).2, 8) := by
  have hkey : findTxKey sampleTx.keys sampleRxAddress (0xF0B0 ||| (2 : UInt8).toUInt16)
      (0xF0B0 ||| (1 : UInt8).toUInt16) 1000 =
      (some (sampleKey sampleRxAddress 0xF0B2 0xF0B1), 1) := by
    decide +kernel
  exact tldeDataRequest_secured rfl rfl (by decide) hkey 7

theorem sampleSecured_lookup (appData : List UInt8) :
    rxKey sampleRx.keys 1001 sampleTx.ipv6Address (sampleSecured appData).2.data =
      some (sampleKey sampleTxAddress 0xF0B1 0xF0B2) := by
  have hctrl : byteAt (sampleSecured appData).2.data 8 = securityEncMic32 := rfl
  have hfound : (findTxKey sampleRx.keys sampleTxAddress (ntohs (0xF0, 0xB0 ||| 1))
      (ntohs (0xF0, 0xB0 ||| 2)) 1001).1 = some (sampleKey sampleTxAddress 0xF0B1 0xF0B2) := by
    decide +kernel
  rw [rxKey, if_pos hctrl]
  exact hfound

theorem indication_of_request_sample : openTpdu rijndaelCcm sampleRx 1001 (1001 + tldeTimeMaxDiff.toUInt32)
        (rxPseudoHdr sampleRx sampleTxAddress (sampleSecured [1, 2, 3]).2.data 0
          (((sampleSecured [1, 2, 3]).2.data.drop udpHdrSize).take 4))
        (sampleSecured [1, 2, 3]).2.data =
      .ok ⟨sampleTime.timeAndCounter, 8, some (sampleSecured [1, 2, 3]).1, [1, 2, 3]⟩ ∧
    nldeDataIndication rijndaelCcm sampleRx 1001 1001 sampleTxAddress
        (sampleSecured [1, 2, 3]).2.data 0 .empty =
      ⟨[], .indication
        { srcAddr := sampleTxAddress
          srcTsap := 2
          priorityAndFlags := 0
          appData := [1, 2, 3]
          dstTsap := 1
          transportTime := 1
          txTime := ⟨1000, 264000⟩
          secLevel := securityEncMic32 }, .empty⟩ :=
  (indication_of_request (sampleSecured_sent [1, 2, 3]) (by decide) (by decide) (by decide)
    (by decide) rfl (sampleSecured_lookup [1, 2, 3]) rfl rfl
    (by decide : (1001 : UInt32).toNat ≤ 1000 + 60) (by decide) 0 .empty).2

/-- A request without application data goes out, and its datagram is refused. -/
theorem emptyPayload_refused : tldeDataRequest rijndaelCcm sampleTx 1000 sampleTime (sampleTlRequest []) 7 =
        (.sent (some (sampleSecured []).1) (sampleSecured []).2, 8) ∧
      rxKey sampleRx.keys 1001 sampleTxAddress (sampleSecured []).2.data =
        some (sampleKey sampleTxAddress 0xF0B1 0xF0B2) ∧
      nldeDataIndication rijndaelCcm sampleRx 1001 1001 sampleTxAddress (sampleSecured []).2.data 0
        .empty = ⟨[], .drop .encryptedTooSmall, .empty⟩ :=
  ⟨sampleSecured_sent [], sampleSecured_lookup [],
    refused_of_empty (sampleSecured_sent []) (by decide) rfl rfl (sampleSecured_lookup []) 0 .empty⟩

end Isa100Gateway
