import Isa100Gateway.Asl.Types
import Isa100Gateway.Crypto.AesCcm
import Isa100Gateway.Tl.Checksum
import Isa100Gateway.Tl.Duplicate

/-!
# The transport layer data entity

`TLDE_DATA_Request` and `NLDE_DATA_Indication` of `tlde.cpp`. A clock reading is an argument; `SLME_FindTxKey` takes one of its own.
-/

namespace Isa100Gateway

def udpProtocolCode : UInt8 := 17
def tldeTimeMaxDiff : UInt8 := 2
def maxNbOfPorts : UInt8 := 16

def udpHdrSize : Nat := 8

def plainHdrSize : Nat := 11

def moreKeysHdrSize : Nat := 12

/-- `IPV6_PSEUDO_HDR`. Of `m_aTLSecurityHdr` only the bytes written so far are listed. -/
structure Ipv6PseudoHdr where
  ipv6SrcAddr : Addr128
  ipv6DstAddr : Addr128
  padding : UInt16
  srcPort : UInt8 × UInt8
  dstPort : UInt8 × UInt8
  tlSecurityHdr : List UInt8

def Ipv6PseudoHdr.front (h : Ipv6PseudoHdr) : List UInt8 :=
  h.ipv6SrcAddr.toList ++ h.ipv6DstAddr.toList ++ [(h.padding >>> 8).toUInt8, h.padding.toUInt8, 0, udpProtocolCode,
      h.srcPort.1, h.srcPort.2, h.dstPort.1, h.dstPort.2]

def Ipv6PseudoHdr.bytes (h : Ipv6PseudoHdr) : List UInt8 := h.front ++ h.tlSecurityHdr

def byteAt (data : List UInt8) (i : Nat) : UInt8 := data.getD i 0

def ntohs (port : UInt8 × UInt8) : UInt16 := port.1.toUInt16 <<< 8 ||| port.2.toUInt16

structure AeadCall where
  key : Key128
  nonce : Nonce
  auth : List UInt8

def authLen (secHeaderLen : Nat) : Nat := 44 - 4 + secHeaderLen - udpHdrSize

def tlNonce (eui64 : Eui64) (time : UInt32) (auth : List UInt8) (len : Nat) : Nonce :=
  eui64 ++ #v[(time >>> 14).toUInt8, (time >>> 6).toUInt8, byteAt auth (len - 2),
    byteAt auth (len - 1), 0xFF]

def encryptCall (eui64 : Eui64) (auth : Ipv6PseudoHdr) (secHeaderLen : Nat) (key : Key128)
    (crtTai : UInt32) : AeadCall where
  key := key
  nonce := tlNonce eui64 crtTai auth.bytes (authLen secHeaderLen)
  auth := auth.bytes.take (authLen secHeaderLen)

def decryptCall (key : SlmeKey) (issueTime : UInt32) (auth : Ipv6PseudoHdr) (secHeaderLen : Nat) : AeadCall where
  key := key.key
  nonce := tlNonce key.issuerEUI64 issueTime auth.bytes (authLen secHeaderLen)
  auth := auth.bytes.take (authLen secHeaderLen)

def AesCcm.seal (ccm : AesCcm) (call : AeadCall) (data : List UInt8) : List UInt8 :=
  ccm.crypt call.key call.nonce call.auth data

def AesCcm.open (ccm : AesCcm) (call : AeadCall) (data : List UInt8) : Option (List UInt8) :=
  ccm.decrypt call.key call.nonce call.auth data

structure TaiTime where
  sec : UInt32
  usec : UInt32
  usec_lt : usec < 1000000

def TaiTime.uc250msStep (t : TaiTime) : UInt8 := (t.usec / 250000).toUInt8

def TaiTime.timeAndCounter (t : TaiTime) : UInt8 := (t.sec <<< 2).toUInt8 ||| t.uc250msStep

structure TlSettings where
  ipv6Address : Addr128
  eui64 : Eui64
  tlSecurityLevel : UInt8
  keys : KeyTable

/-- The arguments of `TLDE_DATA_Request`. Of the contract it reads the destination. -/
structure TlRequest where
  eui64DestAddr : Option Eui64
  destAddress : Addr128
  priorityAndFlags : UInt8
  appData : List UInt8
  appHandle : UInt16
  srcPort : UInt8
  dstPort : UInt8
  allowEncryption : Bool

structure Tpdu where
  ipv6DstAddr : Addr128
  priorityAndFlags : UInt8
  hdr : List UInt8
  appData : List UInt8
  appHandle : UInt16

def Tpdu.data (tpdu : Tpdu) : List UInt8 := tpdu.hdr ++ tpdu.appData

inductive TxOutcome where
  | eui64Refused
  | confirm (appHandle : UInt16) (status : UInt8)
  | sent (call : Option AeadCall) (tpdu : Tpdu)

def securityHdr (keysNo keyID timeAndCounter counter : UInt8) : List UInt8 :=
  if keysNo > 1 then [securityCtrlEncMic32, keyID, timeAndCounter, counter]
  else [securityEncMic32, timeAndCounter, counter]

def txChecksum (pseudo : Ipv6PseudoHdr) (hdrLen : Nat) (evenHeader : Bool) (appData : List UInt8) : UInt16 :=
  let len := UInt32.ofNat (appData.length + hdrLen)
  let skip := if evenHeader then 0 else 1
  let cksum := icmpInterimChksum { pseudo with padding := len.toUInt16 }.bytes len
  icmpGetFinalCksum
    (if appData.length > skip then icmpInterimChksum (appData.drop skip) cksum else cksum)

def TlRequest.srcPortBytes (req : TlRequest) : UInt8 × UInt8 := (0xF0, 0xB0 ||| req.srcPort)

def TlRequest.dstPortBytes (req : TlRequest) : UInt8 × UInt8 := (0xF0, 0xB0 ||| req.dstPort)

def TlRequest.tpdu (req : TlRequest) (secHdr : List UInt8) (cksum : UInt16) (appData : List UInt8) : Tpdu :=
  let udpLen := UInt16.ofNat (appData.length + (udpHdrSize + secHdr.length))
  { ipv6DstAddr := req.destAddress
    priorityAndFlags := req.priorityAndFlags
    hdr := [req.srcPortBytes.1, req.srcPortBytes.2, req.dstPortBytes.1, req.dstPortBytes.2,
      (udpLen >>> 8).toUInt8, udpLen.toUInt8, (cksum >>> 8).toUInt8, cksum.toUInt8] ++ secHdr
    appData := appData
    appHandle := req.appHandle }

def TlRequest.pseudoHdr (g : TlSettings) (req : TlRequest) (secHdr : List UInt8) : Ipv6PseudoHdr where
  ipv6SrcAddr := g.ipv6Address
  ipv6DstAddr := req.destAddress
  padding := 0
  srcPort := req.srcPortBytes
  dstPort := req.dstPortBytes
  tlSecurityHdr := secHdr

def plainTpdu (g : TlSettings) (now : TaiTime) (req : TlRequest) (msgIncrement : UInt8) : Tpdu :=
  let secHdr := [securityNone, now.timeAndCounter, msgIncrement]
  let pseudo := req.pseudoHdr g (secHdr ++ [byteAt req.appData 0])
  req.tpdu secHdr (txChecksum pseudo plainHdrSize false req.appData) req.appData

def securedTpdu (ccm : AesCcm) (g : TlSettings) (now : TaiTime) (req : TlRequest) (key : SlmeKey)
    (keysNo msgIncrement : UInt8) : AeadCall × Tpdu :=
  let secHdr := securityHdr keysNo key.keyID now.timeAndCounter msgIncrement
  let hdrLen := udpHdrSize + secHdr.length
  let evenHeader : Bool := keysNo > 1
  let call := encryptCall g.eui64 (req.pseudoHdr g secHdr) hdrLen key.key now.sec
  let appData := ccm.seal call req.appData
  let pseudo := req.pseudoHdr g (if evenHeader then secHdr else secHdr ++ [byteAt appData 0])
  (call, req.tpdu secHdr (txChecksum pseudo hdrLen evenHeader appData) appData)

def TlRequest.srcPortNo (req : TlRequest) : UInt16 := 0xF0B0 ||| req.srcPort.toUInt16

def TlRequest.dstPortNo (req : TlRequest) : UInt16 := 0xF0B0 ||| req.dstPort.toUInt16

/-- `TLDE_DATA_Request`, with `g_ucMsgIncrement`. -/
def tldeDataRequest (ccm : AesCcm) (g : TlSettings) (keyTai : UInt32) (now : TaiTime)
    (req : TlRequest) (msgIncrement : UInt8) : TxOutcome × UInt8 :=
  if req.eui64DestAddr.isSome then (.eui64Refused, msgIncrement)
  else if req.allowEncryption ∧ g.tlSecurityLevel ≠ securityNone then
    match findTxKey g.keys req.destAddress req.srcPortNo req.dstPortNo keyTai with
    | (none, _) => (.confirm req.appHandle sfcNoKey, msgIncrement)
    | (some key, keysNo) =>
      let (call, tpdu) := securedTpdu ccm g now req key keysNo (msgIncrement + 1)
      (.sent (some call) tpdu, msgIncrement + 1)
  else (.sent none (plainTpdu g now req (msgIncrement + 1)), msgIncrement + 1)

/-! ## Receiving -/

inductive RxDrop where
  | illegalPort
  | tooSmall
  | invalidChecksum
  | noKey
  | encryptedTooSmall
  | invalidMic
  | unsupportedSecurity
  | duplicate

inductive TlmeAlert where
  | illegalUseOfPort (port : UInt8 × UInt8)
  | tpduOutOfSecPol (data : List UInt8)

structure TxTime where
  sec : UInt32
  usec : Int

structure TlIndication where
  srcAddr : Addr128
  srcTsap : UInt8
  priorityAndFlags : UInt8
  appData : List UInt8
  dstTsap : UInt8
  transportTime : UInt8
  txTime : TxTime
  secLevel : UInt8

inductive RxOutcome where
  | drop (reason : RxDrop)
  | indication (ind : TlIndication)
  | undefined

structure RxResult where
  alerts : List TlmeAlert
  outcome : RxOutcome
  hist : DuplicateHist

/-- `ucTimeTraveling`: the seconds between the truncated send time and `ulCrtTime`. -/
def timeTraveling (crtTime : UInt32) (timeAndCounter : UInt8) : UInt8 :=
  let t := (crtTime &&& 0x3F).toUInt8 - timeAndCounter >>> 2
  if t &&& 0x80 ≠ 0 then t + 0x40 else t

def issueTime (crtTime : UInt32) (timeAndCounter : UInt8) : UInt32 :=
  crtTime - (timeTraveling crtTime timeAndCounter).toUInt32

/-- `ucTimeTraveling` without the allowance for a sender that is ahead. -/
def transportTime (crtTime : UInt32) (timeAndCounter : UInt8) : UInt8 :=
  let travel := timeTraveling crtTime timeAndCounter
  if travel > tldeTimeMaxDiff then travel - tldeTimeMaxDiff else 0

def acceptTime (crtTime : UInt32) (timeAndCounter : UInt8) : UInt32 :=
  crtTime - (transportTime crtTime timeAndCounter).toUInt32

def txUsec (timeAndCounter counter : UInt8) : Int :=
  let usec : Int := ((timeAndCounter &&& 0x3).toNat <<< 8 ||| counter.toNat : Nat)
  if usec ≥ 1000 then 1000 * 1000 - (1025 - usec) else usec * 1000

structure Opened where
  timeAndCounter : UInt8
  counter : UInt8
  call : Option AeadCall
  appData : List UInt8

def srcPortBytes (data : List UInt8) : UInt8 × UInt8 := (byteAt data 0, byteAt data 1)

def dstPortBytes (data : List UInt8) : UInt8 × UInt8 := (byteAt data 2, byteAt data 3)

def rxKey (keys : KeyTable) (keyTai : UInt32) (srcAddr : Addr128) (data : List UInt8) : Option SlmeKey :=
  if byteAt data 8 = securityEncMic32 then
    (findTxKey keys srcAddr (ntohs (dstPortBytes data)) (ntohs (srcPortBytes data)) keyTai).1
  else
    findKey keys (some srcAddr) (ntohs (dstPortBytes data)) (ntohs (srcPortBytes data))
      (byteAt data 9) slmKeyUsageSession

def openTpdu (ccm : AesCcm) (g : TlSettings) (keyTai crtTime : UInt32) (pseudo : Ipv6PseudoHdr)
    (data : List UInt8) : Except RxDrop Opened :=
  let securityCtrl := byteAt data 8
  if securityCtrl = securityEncMic32 ∨ securityCtrl = securityCtrlEncMic32 then
    let headerLen := if securityCtrl = securityEncMic32 then plainHdrSize else moreKeysHdrSize
    let timeAndCounter := byteAt data (headerLen - 2)
    match rxKey g.keys keyTai pseudo.ipv6SrcAddr data with
    | none => .error .noKey
    | some key =>
      if data.length ≤ headerLen + 4 then .error .encryptedTooSmall
      else
        let call := decryptCall key (issueTime crtTime timeAndCounter) pseudo headerLen
        match ccm.open call (data.drop headerLen) with
        | none => .error .invalidMic
        | some appData => .ok ⟨timeAndCounter, byteAt data (headerLen - 1), some call, appData⟩
  else if securityCtrl = securityNone then
    .ok ⟨byteAt data 9, byteAt data 10, none, data.drop plainHdrSize⟩
  else .error .unsupportedSecurity

def RxDrop.alerts (data : List UInt8) : RxDrop → List TlmeAlert
  | .noKey => [.tpduOutOfSecPol (data.take 40)]
  | .unsupportedSecurity => [.tpduOutOfSecPol (data.take 40)]
  | _ => []

/-- `msgKey`. The time is copied in host order, least significant byte first. -/
def msgKey (o : Opened) (srcAddr : Addr128) (time : UInt32) (data : List UInt8) : List UInt8 :=
  [o.counter, o.timeAndCounter] ++ srcAddr.toList ++
    [time.toUInt8, (time >>> 8).toUInt8, (time >>> 16).toUInt8, (time >>> 24).toUInt8,
      (srcPortBytes data).1, (srcPortBytes data).2, (dstPortBytes data).1, (dstPortBytes data).2]

def checkDuplicate (o : Opened) (srcAddr : Addr128) (crtTime : UInt32) (data : List UInt8)
    (hist : DuplicateHist) : Option (Bool × DuplicateHist) :=
  let time := acceptTime crtTime o.timeAndCounter
  isDuplicate (msgKey o srcAddr time data) (toInt32 time.toNat) hist

def Opened.indication (o : Opened) (srcAddr : Addr128) (priorityAndFlags : UInt8) (crtTime : UInt32)
    (data : List UInt8) : TlIndication where
  srcAddr := srcAddr
  srcTsap := (srcPortBytes data).2 &&& 0x0F
  priorityAndFlags := priorityAndFlags
  appData := o.appData
  dstTsap := (dstPortBytes data).2 &&& 0x0F
  transportTime := transportTime crtTime o.timeAndCounter
  txTime := ⟨issueTime crtTime o.timeAndCounter, txUsec o.timeAndCounter o.counter⟩
  secLevel := byteAt data 8

def rxPseudoHdr (g : TlSettings) (srcAddr : Addr128) (data : List UInt8) (padding : UInt16)
    (secHdr : List UInt8) : Ipv6PseudoHdr where
  ipv6SrcAddr := srcAddr
  ipv6DstAddr := g.ipv6Address
  padding := padding
  srcPort := srcPortBytes data
  dstPort := dstPortBytes data
  tlSecurityHdr := secHdr

def rxChecksum (g : TlSettings) (srcAddr : Addr128) (data : List UInt8) : UInt16 :=
  let pseudo := rxPseudoHdr g srcAddr data (UInt16.ofNat data.length) []
  let cksum := icmpInterimChksum pseudo.bytes (UInt32.ofNat data.length)
  icmpGetFinalCksum (icmpInterimChksum (data.drop udpHdrSize) cksum)

def finishIndication (alerts : List TlmeAlert) (srcAddr : Addr128) (priorityAndFlags : UInt8)
    (crtTime : UInt32) (data : List UInt8) (hist : DuplicateHist) : Except RxDrop Opened → RxResult
  | .error reason => ⟨alerts ++ reason.alerts data, .drop reason, hist⟩
  | .ok o =>
    match checkDuplicate o srcAddr crtTime data hist with
    | none => ⟨alerts, .undefined, hist⟩
    | some (true, hist) => ⟨alerts, .drop .duplicate, hist⟩
    | some (false, hist) =>
      ⟨alerts, .indication (o.indication srcAddr priorityAndFlags crtTime data), hist⟩

def nldeDataIndication (ccm : AesCcm) (g : TlSettings) (keyTai now : UInt32) (srcAddr : Addr128)
    (data : List UInt8) (priorityAndFlags : UInt8) (hist : DuplicateHist) : RxResult :=
  let crtTime := now + tldeTimeMaxDiff.toUInt32
  if (dstPortBytes data).2 &&& 0x0F ≥ maxNbOfPorts then
    ⟨[.illegalUseOfPort (dstPortBytes data)], .drop .illegalPort, hist⟩
  else if data.length ≤ plainHdrSize then ⟨[], .drop .tooSmall, hist⟩
  else
    let cksum := rxChecksum g srcAddr data
    if byteAt data 6 ≠ (cksum >>> 8).toUInt8 ∨ byteAt data 7 ≠ cksum.toUInt8 then
      ⟨[], .drop .invalidChecksum, hist⟩
    else
      let alerts := if g.tlSecurityLevel ≠ securityNone ∧ byteAt data 8 = securityNone then
        [TlmeAlert.tpduOutOfSecPol (data.take 40)] else []
      let pseudo := rxPseudoHdr g srcAddr data 0 ((data.drop udpHdrSize).take 4)
      finishIndication alerts srcAddr priorityAndFlags crtTime data hist
        (openTpdu ccm g keyTai crtTime pseudo data)

theorem tldeDataRequest_secured {ccm : AesCcm} {g : TlSettings} {keyTai : UInt32} {now : TaiTime}
    {req : TlRequest} {key : SlmeKey} {keysNo : UInt8} (heui : req.eui64DestAddr.isSome = false)
    (hallow : req.allowEncryption = true) (hlevel : g.tlSecurityLevel ≠ securityNone)
    (hkey : findTxKey g.keys req.destAddress req.srcPortNo req.dstPortNo keyTai = (some key, keysNo))
    (msgIncrement : UInt8) : tldeDataRequest ccm g keyTai now req msgIncrement =
      (.sent (some (securedTpdu ccm g now req key keysNo (msgIncrement + 1)).1)
        (securedTpdu ccm g now req key keysNo (msgIncrement + 1)).2, msgIncrement + 1) := by
  simp [tldeDataRequest, heui, hallow, hlevel, hkey]

theorem tldeDataRequest_cases (ccm : AesCcm) (g : TlSettings) (keyTai : UInt32) (now : TaiTime)
    (req : TlRequest) (msgIncrement : UInt8) :
    tldeDataRequest ccm g keyTai now req msgIncrement = (.eui64Refused, msgIncrement) ∨
    tldeDataRequest ccm g keyTai now req msgIncrement = (.confirm req.appHandle sfcNoKey, msgIncrement) ∨
    tldeDataRequest ccm g keyTai now req msgIncrement =
      (.sent none (plainTpdu g now req (msgIncrement + 1)), msgIncrement + 1) ∨
    ∃ key keysNo, findTxKey g.keys req.destAddress req.srcPortNo req.dstPortNo keyTai = (some key, keysNo) ∧
      tldeDataRequest ccm g keyTai now req msgIncrement =
        (.sent (some (securedTpdu ccm g now req key keysNo (msgIncrement + 1)).1)
          (securedTpdu ccm g now req key keysNo (msgIncrement + 1)).2, msgIncrement + 1) := by
  by_cases heui : req.eui64DestAddr.isSome
  · exact Or.inl (by simp [tldeDataRequest, heui])
  · by_cases hsecured : req.allowEncryption ∧ g.tlSecurityLevel ≠ securityNone
    · cases hkey : findTxKey g.keys req.destAddress req.srcPortNo req.dstPortNo keyTai with
      | mk found keysNo =>
        cases found with
        | none => exact Or.inr (Or.inl (by simp [tldeDataRequest, heui, hsecured, hkey]))
        | some key =>
          refine Or.inr (Or.inr (Or.inr ⟨key, keysNo, rfl, ?_⟩))
          exact tldeDataRequest_secured (Bool.not_eq_true _ ▸ heui) hsecured.1 hsecured.2 hkey _
    · exact Or.inr (Or.inr (Or.inl (by rw [tldeDataRequest, if_neg heui, if_neg hsecured])))

end Isa100Gateway
