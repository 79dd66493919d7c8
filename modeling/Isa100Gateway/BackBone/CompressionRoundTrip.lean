import Isa100Gateway.BackBone.LowPANTunnel
import Isa100Gateway.Lib.Bytes
import Isa100Gateway.Tl.ChecksumLaw

/-!
# Compression and uncompression of UDP packets

A packet without security carries its checksum, and the checksum of a secured packet is computed again where it is uncompressed. The final step of that computation adds the halves of the sum without the carry.
-/

namespace Isa100Gateway

open OnesComplement List

def udpPseudoHeader (ip : IPv6Packet) : List UInt8 :=
  ip.ipHeader.srcAddr.bytes ++ ip.ipHeader.dstAddr.bytes ++ ([0, 0] ++ netBytes ip.udpHeader.udpLen) ++
    [0, 0, 0, ip.ipHeader.nextHeader]

def udpDatagram (ip : IPv6Packet) : List UInt8 :=
  IPv6UDPHeader.bytes { ip.udpHeader with udpCkSum := 0 } ++ ip.udpPayload

def cksumWords (ip : IPv6Packet) : List Nat := words (udpPseudoHeader ip ++ udpDatagram ip)

structure IPv6Packet.WellFormed (ip : IPv6Packet) : Prop where
  udp : ip.ipHeader.nextHeader = 17
  payload : ip.udpPayload ≠ []
  udpLen : ip.udpHeader.udpLen.toNat = 8 + ip.udpPayload.length
  payloadSize : ip.ipHeader.payloadSize = ip.udpHeader.udpLen
  sPort : 61616 ≤ ip.udpHeader.sPort.toNat ∧ ip.udpHeader.sPort.toNat ≤ 61631
  dPort : 61616 ≤ ip.udpHeader.dPort.toNat ∧ ip.udpHeader.dPort.toNat ≤ 61631
  udpCkSum : ip.udpHeader.udpCkSum.toNat = checksum (cksumWords ip)

def lowPanPayload (dstAddr : UInt16) (pkt : ProtocolPacket) : List UInt8 :=
  pkt.data.drop (NetMsgBbrToTrHeader.size + if dstAddr = 0 then ipv6AddrLength else 0)

/-- The same payload as it comes from the serial line; with both short addresses 0 the destination is in front of it. -/
def receivedPacket (ip : IPv6Packet) (srcAddr dstAddr : UInt16) (payload : List UInt8) : List UInt8 :=
  NetMsgTrToBbrHeader.bytes ⟨ip.ipHeader.trafficClass, srcAddr, dstAddr⟩ ++
    (if dstAddr = 0 ∧ srcAddr = 0 then ip.ipHeader.dstAddr.bytes else []) ++ payload

structure SameDatagram (ip out : IPv6Packet) : Prop where
  srcAddr : out.ipHeader.srcAddr = ip.ipHeader.srcAddr
  dstAddr : out.ipHeader.dstAddr = ip.ipHeader.dstAddr
  trafficClass : out.ipHeader.trafficClass = ip.ipHeader.trafficClass
  sPort : out.udpHeader.sPort = ip.udpHeader.sPort
  dPort : out.udpHeader.dPort = ip.udpHeader.dPort
  udpLen : out.udpHeader.udpLen = ip.udpHeader.udpLen
  udpCkSum : out.udpHeader.udpCkSum = ip.udpHeader.udpCkSum
  udpPayload : out.udpPayload = ip.udpPayload

/-- The compressed packet is uncompressed to the same datagram, whatever was in the buffer before. The address of the backbone router is only read where it is the source. -/
def CompressionRoundTrips (ip : IPv6Packet) (srcAddr dstAddr : UInt16) : Prop :=
  ∃ pkt, ipV6ToLowPAN ip srcAddr dstAddr = some (some pkt) ∧ ∀ init, ∃ out,
    lowPanToIPv6 ip.ipHeader.srcAddr (receivedPacket ip srcAddr dstAddr (lowPanPayload dstAddr pkt)) init
      ip.ipHeader.srcAddr ip.ipHeader.dstAddr = some out ∧ SameDatagram ip out

def IPv6Packet.FitsBuffer (ip : IPv6Packet) (dstAddr : UInt16) : Prop :=
  17 + (if dstAddr = 0 then 16 else 0) + ip.udpPayload.length + 4 < 65536

def IPv6Packet.NoCarry (ip : IPv6Packet) : Prop :=
  (cksumWords ip).sum % 65536 + (cksumWords ip).sum / 65536 < 65536

variable {ip : IPv6Packet} {srcAddr dstAddr : UInt16}

def Pushed (pkt pkt' : ProtocolPacket) (front : List UInt8) : Prop :=
  pkt'.data = front ++ pkt.data ∧ pkt'.headSpare + front.length = pkt.headSpare

theorem Pushed.refl (pkt : ProtocolPacket) : Pushed pkt pkt [] := ⟨rfl, rfl⟩

theorem Pushed.push {pkt pkt' : ProtocolPacket} {front : List UInt8} (h : Pushed pkt pkt' front) (bytes : List UInt8)
    (hroom : (bytes ++ front).length ≤ pkt.headSpare) : Pushed pkt (pkt'.pushFront bytes) (bytes ++ front) := by
  obtain ⟨hdata, hspare⟩ := h
  rw [length_append] at hroom
  have hfits : bytes.length ≤ pkt'.headSpare := by omega
  unfold ProtocolPacket.pushFront
  rw [dif_pos hfits]
  constructor
  · exact (congrArg (bytes ++ ·) hdata).trans (append_assoc ..).symm
  · rw [length_append]
    dsimp only
    omega

def compressedPorts (ip : IPv6Packet) : UInt8 :=
  ((ip.udpHeader.sPort - 61616) <<< 4 ||| (ip.udpHeader.dPort - 61616)).toUInt8

def lowPanHeader (ip : IPv6Packet) : List UInt8 :=
  if ip.udpPayload.head? = some securityNone then
    [0b01111101, 0b01110111, 0b11110011, compressedPorts ip] ++ netBytes ip.udpHeader.udpCkSum
  else [0b00000001, compressedPorts ip]

theorem port_sub_lt {port : UInt16} (h : 61616 ≤ port.toNat ∧ port.toNat ≤ 61631) :
    (port - 61616).toNat = port.toNat - 61616 ∧ ¬port - 61616 ≥ 16 := by
  have hsub : (port - 61616).toNat = port.toNat - 61616 :=
    UInt16.toNat_sub_of_le _ _ (UInt16.le_iff_toNat_le.mpr h.1)
  refine ⟨hsub, fun hge => ?_⟩
  have hge := UInt16.le_iff_toNat_le.mp hge
  rw [hsub] at hge
  change 16 ≤ _ at hge
  omega

theorem length_addr (addr : IPv6Addr) : addr.bytes.length = 16 := addr.size

theorem lowPanPayload_append {pkt : ProtocolPacket} {h : NetMsgBbrToTrHeader} {payload : List UInt8}
    (hdata : pkt.data = h.bytes ++ ((if dstAddr = 0 then ip.ipHeader.srcAddr.bytes else []) ++ payload)) :
    lowPanPayload dstAddr pkt = payload := by
  rw [lowPanPayload, hdata, ← append_assoc]
  refine drop_left' ?_
  rw [length_append]
  split
  · rw [ip.ipHeader.srcAddr.size]
    rfl
  · rfl

variable {size headSpare tailSpare : UInt16}

theorem allocateCopy_of_fits {msg : List UInt8} (hsize : size.toNat = msg.length)
    (hfits : headSpare.toNat + msg.length + tailSpare.toNat < 65536) :
    ∃ pkt, ProtocolPacket.allocateCopy msg size headSpare tailSpare = some pkt ∧ pkt.data = msg ∧
      pkt.headSpare = headSpare.toNat := by
  unfold ProtocolPacket.allocateCopy
  rw [dif_pos ⟨hsize.le, hsize.symm ▸ hfits⟩]
  refine ⟨_, rfl, ?_, rfl⟩
  exact take_of_length_le hsize.ge

theorem allocateCopy_of_wraps {msg : List UInt8} (hsize : size.toNat = msg.length)
    (hwraps : ¬headSpare.toNat + msg.length + tailSpare.toNat < 65536) :
    ProtocolPacket.allocateCopy msg size headSpare tailSpare = none :=
  dif_neg fun hfits => hwraps (hsize ▸ hfits.2)

theorem pushed_lowPanHeader {pkt : ProtocolPacket} {security : UInt8} (hhead : ip.udpPayload.head? = some security)
    (hroom : 6 ≤ pkt.headSpare) :
    Pushed pkt
      (if security = securityNone then
        ((((pkt.pushFront (netBytes ip.udpHeader.udpCkSum)).pushFront [compressedPorts ip]).pushFront
          [0b11110011]).pushFront [0b01110111]).pushFront [0b01111101]
      else (pkt.pushFront [compressedPorts ip]).pushFront [0b00000001]) (lowPanHeader ip) := by
  unfold lowPanHeader
  rw [hhead]
  by_cases hnone : security = securityNone
  · rw [if_pos hnone, if_pos (congrArg some hnone)]
    have hcksum : (netBytes ip.udpHeader.udpCkSum ++ []).length = 2 := rfl
    refine Pushed.push (Pushed.push (Pushed.push (Pushed.push (Pushed.push (Pushed.refl pkt) _ ?_) _ ?_) _ ?_) _
      ?_) _ ?_
    all_goals
      simp only [length_append, length_cons, length_nil, netBytes]
      omega
  · rw [if_neg hnone, if_neg fun heq => hnone (Option.some.inj heq)]
    refine Pushed.push (Pushed.push (Pushed.refl pkt) _ ?_) _ ?_
    all_goals
      simp only [length_append, length_cons, length_nil]
      omega

def serialHeader (ip : IPv6Packet) (srcAddr dstAddr : UInt16) : NetMsgBbrToTrHeader :=
  ⟨hostWord ip.ipHeader.flowLabel.2.1 ip.ipHeader.flowLabel.2.2, ip.ipHeader.trafficClass, srcAddr, dstAddr⟩

theorem ipV6ToLowPAN_eq (h : ip.WellFormed) {security : UInt8} (hhead : ip.udpPayload.head? = some security) :
    ipV6ToLowPAN ip srcAddr dstAddr = (ProtocolPacket.allocateCopy ip.udpPayload (UInt16.ofNat ip.udpPayload.length)
        (7 + 10 + if dstAddr = 0 then 16 else 0) 4).map fun pkt =>
        let pkt :=
          if security = securityNone then
            ((((pkt.pushFront (netBytes ip.udpHeader.udpCkSum)).pushFront [compressedPorts ip]).pushFront
              [0b11110011]).pushFront [0b01110111]).pushFront [0b01111101]
          else (pkt.pushFront [compressedPorts ip]).pushFront [0b00000001]
        let pkt := if dstAddr = 0 then pkt.pushFront ip.ipHeader.srcAddr.bytes else pkt
        some (pkt.pushFront (serialHeader ip srcAddr dstAddr).bytes) := by
  have hports : ¬(ip.udpHeader.sPort - 61616 ≥ 16 ∨ ip.udpHeader.dPort - 61616 ≥ 16) :=
    not_or.mpr ⟨(port_sub_lt h.sPort).2, (port_sub_lt h.dPort).2⟩
  obtain ⟨ipHeader, udpHeader, udpPayload⟩ := ip
  cases udpPayload with
  | nil => exact nomatch hhead
  | cons b rest =>
    obtain rfl : b = security := Option.some.inj hhead
    unfold ipV6ToLowPAN compressedPorts serialHeader
    dsimp only at hports ⊢
    rw [if_neg hports]

theorem ipV6ToLowPAN_cases (h : ip.WellFormed) :
    (ip.FitsBuffer dstAddr ∧ ∃ pkt, ipV6ToLowPAN ip srcAddr dstAddr = some (some pkt) ∧
      lowPanPayload dstAddr pkt = lowPanHeader ip ++ ip.udpPayload) ∨
    ¬ip.FitsBuffer dstAddr ∧ ipV6ToLowPAN ip srcAddr dstAddr = none := by
  obtain ⟨security, rest, hpayload⟩ := exists_cons_of_ne_nil h.payload
  have hhead : ip.udpPayload.head? = some security := by rw [hpayload, head?_cons]
  have hlen := h.udpLen
  have hword := ip.udpHeader.udpLen.toNat_lt
  have hsize : (UInt16.ofNat ip.udpPayload.length).toNat = ip.udpPayload.length :=
    UInt16.toNat_ofNat_of_lt' (by change _ < 65536; omega)
  have hreserved : ((7 : UInt16) + 10 + if dstAddr = 0 then 16 else 0).toNat = 17 + if dstAddr = 0 then 16 else 0 := by
    split <;> rfl
  have hbuffer : ip.FitsBuffer dstAddr ↔ ((7 : UInt16) + 10 + if dstAddr = 0 then 16 else 0).toNat +
      ip.udpPayload.length + (4 : UInt16).toNat < 65536 := by
    rw [hreserved]
    rfl
  rw [hbuffer, ipV6ToLowPAN_eq h hhead]
  by_cases hfits : ((7 : UInt16) + 10 + if dstAddr = 0 then 16 else 0).toNat + ip.udpPayload.length +
      (4 : UInt16).toNat < 65536
  · refine Or.inl ⟨hfits, ?_⟩
    obtain ⟨pkt, halloc, hdata, hspare⟩ := allocateCopy_of_fits hsize hfits
    rw [halloc, Option.map_some]
    refine ⟨_, rfl, ?_⟩
    rw [hreserved] at hspare
    have hsix : (lowPanHeader ip).length ≤ 6 := by
      unfold lowPanHeader
      split
      · exact Nat.le_refl _
      · exact Nat.le_add_left _ _
    have hroom : 6 ≤ pkt.headSpare := by omega
    have hheader := pushed_lowPanHeader hhead hroom
    generalize (if security = securityNone then
      ((((pkt.pushFront (netBytes ip.udpHeader.udpCkSum)).pushFront [compressedPorts ip]).pushFront
        [0b11110011]).pushFront [0b01110111]).pushFront [0b01111101]
      else (pkt.pushFront [compressedPorts ip]).pushFront [0b00000001]) = compressed at hheader ⊢
    have hserial : (serialHeader ip srcAddr dstAddr).bytes.length = 7 := rfl
    refine @lowPanPayload_append ip dstAddr _ (serialHeader ip srcAddr dstAddr) _ ?_
    by_cases hdst : dstAddr = 0
    · rw [if_pos hdst] at hspare ⊢
      rw [if_pos hdst]
      have haddr := hheader.push ip.ipHeader.srcAddr.bytes (by
        rw [length_append, length_addr]
        omega)
      have hpushed := haddr.push (serialHeader ip srcAddr dstAddr).bytes (by
        rw [length_append, length_append, length_addr, hserial]
        omega)
      rw [hpushed.1, hdata]
      simp only [append_assoc]
    · rw [if_neg hdst] at hspare ⊢
      rw [if_neg hdst]
      have hpushed := hheader.push (serialHeader ip srcAddr dstAddr).bytes (by
        rw [length_append, hserial]
        omega)
      rw [hpushed.1, hdata]
      simp only [append_assoc, nil_append]
  · refine Or.inr ⟨hfits, ?_⟩
    rw [allocateCopy_of_wraps hsize hfits]
    rfl

/-! ## The uncompressed packet -/

def uncompressed (ip : IPv6Packet) (header : IPv6IPHeader) (udpCkSum : UInt16) : IPv6Packet where
  ipHeader :=
    { header with
      srcAddr := ip.ipHeader.srcAddr
      dstAddr := ip.ipHeader.dstAddr
      nextHeader := 0b00010001
      versionAndTrafficClass := (6 : UInt8) <<< 4 ||| ip.ipHeader.trafficClass >>> 4
      flowLabel := (ip.ipHeader.trafficClass <<< 4, header.flowLabel.2)
      payloadSize := UInt16.ofNat (8 + ip.udpPayload.length) }
  udpHeader :=
    { sPort := (61616 : UInt16) + (compressedPorts ip >>> 4).toUInt16
      dPort := (61616 : UInt16) + (compressedPorts ip &&& 0x0f).toUInt16
      udpLen := UInt16.ofNat (8 + ip.udpPayload.length)
      udpCkSum := udpCkSum }
  udpPayload := ip.udpPayload

theorem ports_compressed (h : ip.WellFormed) :
    (61616 : UInt16) + (compressedPorts ip >>> 4).toUInt16 = ip.udpHeader.sPort ∧
      (61616 : UInt16) + (compressedPorts ip &&& 0x0f).toUInt16 = ip.udpHeader.dPort := by
  have hnibbles : ∀ s < 16, ∀ d < 16,
      (61616 : UInt16) + (((UInt16.ofNat s) <<< 4 ||| UInt16.ofNat d).toUInt8 >>> 4).toUInt16 =
          UInt16.ofNat (61616 + s) ∧
        (61616 : UInt16) + (((UInt16.ofNat s) <<< 4 ||| UInt16.ofNat d).toUInt8 &&& 0x0f).toUInt16 =
          UInt16.ofNat (61616 + d) := by decide
  have hnibble : ∀ port : UInt16, 61616 ≤ port.toNat ∧ port.toNat ≤ 61631 →
      port - 61616 = UInt16.ofNat (port.toNat - 61616) ∧ UInt16.ofNat (61616 + (port.toNat - 61616)) = port := by
    intro port hport
    rw [← (port_sub_lt hport).1, UInt16.ofNat_toNat, (port_sub_lt hport).1, Nat.add_sub_cancel' hport.1,
      UInt16.ofNat_toNat]
    exact ⟨rfl, rfl⟩
  have hs := hnibble _ h.sPort
  have hd := hnibble _ h.dPort
  have hboth := hnibbles (ip.udpHeader.sPort.toNat - 61616) (by have hle := h.sPort.2; omega)
    (ip.udpHeader.dPort.toNat - 61616) (by have hle := h.dPort.2; omega)
  rw [hs.2, hd.2, ← hs.1, ← hd.1] at hboth
  exact hboth

theorem trafficClass_split : ∀ tc : UInt8, ((6 : UInt8) <<< 4 ||| tc >>> 4) <<< 4 ||| tc <<< 4 >>> 4 = tc :=
  Bytes.forall_uint8 (by decide +kernel)

theorem udpLen_compressed (h : ip.WellFormed) : UInt16.ofNat (8 + ip.udpPayload.length) = ip.udpHeader.udpLen := by
  rw [← h.udpLen, UInt16.ofNat_toNat]

theorem sameDatagram_uncompressed (h : ip.WellFormed) (header : IPv6IPHeader) (udpCkSum : UInt16) :
    SameDatagram ip (uncompressed ip header udpCkSum) ↔ udpCkSum = ip.udpHeader.udpCkSum := by
  constructor
  · exact fun hsame => hsame.udpCkSum
  · intro hck
    exact ⟨rfl, rfl, trafficClass_split _, (ports_compressed h).1, (ports_compressed h).2, udpLen_compressed h,
      hck, rfl⟩

def addressWords (h : IPv6IPHeader) : List Nat := words (h.srcAddr.bytes ++ h.dstAddr.bytes)

theorem words_addresses (h : IPv6IPHeader) (data : List UInt8) :
    words (h.srcAddr.bytes ++ (h.dstAddr.bytes ++ data)) = addressWords h ++ words data := by
  rw [← append_assoc, words_append, addressWords]
  rw [length_append, length_addr, length_addr]

theorem sum_words_pseudoHeader (h : IPv6IPHeader) :
    (words (pseudoHeader h)).sum = (addressWords h).sum + (words (netBytes h.payloadSize)).sum +
      h.nextHeader.toNat := by
  unfold pseudoHeader
  rw [append_assoc, append_assoc, append_assoc, words_addresses, sum_append]
  simp [netBytes, words, Nat.add_assoc]

theorem sum_cksumWords (h : ip.WellFormed) :
    (cksumWords ip).sum = (words (pseudoHeader ip.ipHeader)).sum + (words (udpDatagram ip)).sum := by
  have hsplit : udpPseudoHeader ip ++ udpDatagram ip = ip.ipHeader.srcAddr.bytes ++ (ip.ipHeader.dstAddr.bytes ++
      (0 :: 0 :: (netBytes ip.udpHeader.udpLen ++ 0 :: 0 :: 0 :: ip.ipHeader.nextHeader :: udpDatagram ip))) := by
    simp [udpPseudoHeader]
  rw [cksumWords, hsplit, words_addresses, sum_words_pseudoHeader, h.payloadSize, sum_append]
  simp [netBytes, words, Nat.add_assoc]

theorem sum_cksumWords_bounds (h : ip.WellFormed) : 0 < (cksumWords ip).sum ∧ (cksumWords ip).sum < 2 ^ 32 := by
  have hlen := h.udpLen
  have hword := ip.udpHeader.udpLen.toNat_lt
  have hdatagram : (udpDatagram ip).length = 8 + ip.udpPayload.length := by
    rw [udpDatagram, length_append]
    rfl
  have hpseudo : (pseudoHeader ip.ipHeader).length = 38 := by
    simp [pseudoHeader, length_addr, netBytes]
  have h₁ := sum_words_le (pseudoHeader ip.ipHeader)
  have h₂ := sum_words_le (udpDatagram ip)
  have h₃ := two_mul_length_words_le (pseudoHeader ip.ipHeader)
  have h₄ := two_mul_length_words_le (udpDatagram ip)
  have hnext : ip.ipHeader.nextHeader.toNat = 17 := congrArg UInt8.toNat h.udp
  rw [sum_cksumWords h]
  constructor
  · rw [sum_words_pseudoHeader]
    omega
  · omega

theorem interim_cksumWords (h : ip.WellFormed) :
    (icmpInterimChksum (udpDatagram ip) (icmpInterimChksum (pseudoHeader ip.ipHeader) 0)).toNat =
      (cksumWords ip).sum := by
  have hbound := (sum_cksumWords_bounds h).2
  rw [sum_cksumWords h] at hbound
  have hpseudo : (icmpInterimChksum (pseudoHeader ip.ipHeader) 0).toNat = (words (pseudoHeader ip.ipHeader)).sum := by
    rw [toNat_icmpInterimChksum, UInt32.toNat_zero, Nat.zero_add, Nat.mod_eq_of_lt (by omega)]
  rw [toNat_icmpInterimChksum, hpseudo, Nat.mod_eq_of_lt hbound, sum_cksumWords h]

theorem netWord_netBytes (x : UInt16) : netWord (x >>> 8).toUInt8 x.toUInt8 = x := Bytes.join_split x

theorem udpToIPv6_carried (header : IPv6IPHeader) : udpToIPv6 ip.ipHeader.trafficClass header 0b11110011
      (compressedPorts ip :: (netBytes ip.udpHeader.udpCkSum ++ ip.udpPayload)) ip.ipHeader.srcAddr
      ip.ipHeader.dstAddr = some (uncompressed ip header ip.udpHeader.udpCkSum) := by
  have hpop : popFront 2 (netBytes ip.udpHeader.udpCkSum ++ ip.udpPayload) =
      some (netBytes ip.udpHeader.udpCkSum, ip.udpPayload) := by simp [popFront, netBytes]
  have hflag : (0b11110011 : UInt8) &&& 0x04 = 0 := by decide
  unfold udpToIPv6 popByte
  dsimp only
  rw [if_pos hflag, hpop]
  unfold netBytes
  dsimp only
  rw [if_pos hflag, netWord_netBytes]
  rfl

theorem udpToIPv6_computed (h : ip.WellFormed) (header : IPv6IPHeader) :
    udpToIPv6 ip.ipHeader.trafficClass header 0b11110111 (compressedPorts ip :: ip.udpPayload) ip.ipHeader.srcAddr
      ip.ipHeader.dstAddr = some (uncompressed ip header (icmpGetFinalCksum
        (icmpInterimChksum (udpDatagram ip) (icmpInterimChksum (pseudoHeader ip.ipHeader) 0)))) := by
  have hdatagram : udpDatagram ip =
      IPv6UDPHeader.bytes { (uncompressed ip header 0).udpHeader with udpCkSum := 0 } ++ ip.udpPayload := by
    unfold udpDatagram uncompressed IPv6UDPHeader.bytes
    rw [(ports_compressed h).1, (ports_compressed h).2, udpLen_compressed h]
  have hpseudo : pseudoHeader ip.ipHeader = pseudoHeader (uncompressed ip header 0).ipHeader := by
    unfold pseudoHeader uncompressed
    rw [udpLen_compressed h, h.payloadSize, h.udp]
  rw [hdatagram, hpseudo]
  rfl

theorem ofBytes_trToBbr (h : NetMsgTrToBbrHeader) : NetMsgTrToBbrHeader.ofBytes h.bytes = h := by
  change NetMsgTrToBbrHeader.mk h.trafficClass (netWord _ _) (netWord _ _) = h
  rw [netWord_netBytes, netWord_netBytes]

theorem popAddr_append (addr : IPv6Addr) (data : List UInt8) : popAddr (addr.bytes ++ data) = some (addr, data) := by
  obtain ⟨bytes, hsize⟩ := addr
  have hle : ipv6AddrLength ≤ (bytes ++ data).length := by
    rw [length_append]
    omega
  unfold popAddr
  rw [dif_pos hle]
  simp only [take_left' hsize, drop_left' hsize]

theorem lowPanToIPv6_received {payload : List UInt8} (hpayload : payload ≠ []) (init : IPv6Packet) :
    lowPanToIPv6 ip.ipHeader.srcAddr (receivedPacket ip srcAddr dstAddr payload) init ip.ipHeader.srcAddr
        ip.ipHeader.dstAddr =
      dispatchToIPv6 ip.ipHeader.trafficClass payload init ip.ipHeader.srcAddr ip.ipHeader.dstAddr := by
  have hserial : ∀ h : NetMsgTrToBbrHeader, h.bytes.length = NetMsgTrToBbrHeader.size := fun _ => rfl
  have hpos := length_pos_iff.mpr hpayload
  unfold lowPanToIPv6 receivedPacket
  rw [append_assoc]
  generalize hh : NetMsgTrToBbrHeader.mk ip.ipHeader.trafficClass srcAddr dstAddr = h
  rw [take_left' (hserial h), drop_left' (hserial h), ofBytes_trToBbr]
  rw [if_neg (by rw [length_append, length_append, hserial]; omega)]
  subst hh
  by_cases hzero : dstAddr = 0 ∧ srcAddr = 0
  · rw [if_pos hzero, if_pos hzero, popAddr_append]
  · rw [if_neg hzero, if_neg hzero, nil_append]

theorem dispatchToIPv6_compressed (h : ip.WellFormed) (init : IPv6Packet) : ∃ header udpCkSum,
    dispatchToIPv6 ip.ipHeader.trafficClass (lowPanHeader ip ++ ip.udpPayload) init ip.ipHeader.srcAddr
        ip.ipHeader.dstAddr = some (uncompressed ip header udpCkSum) ∧
      (udpCkSum = ip.udpHeader.udpCkSum ↔ ip.udpPayload.head? = some securityNone ∨ ip.NoCarry) := by
  unfold lowPanHeader
  by_cases hnone : ip.udpPayload.head? = some securityNone
  · rw [if_pos hnone]
    exact ⟨_, _, udpToIPv6_carried { init.ipHeader with hopLimit := 1 },
      fun _ => Or.inl hnone, fun _ => rfl⟩
  · rw [if_neg hnone]
    refine ⟨_, _, udpToIPv6_computed h { init.ipHeader with hopLimit := 64, flowLabel := (0, 0, 0) }, ?_⟩
    have hwords := words_lt (udpPseudoHeader ip ++ udpDatagram ip)
    have hsum := (sum_cksumWords_bounds h).2
    have hinterim := (interim_cksumWords h).trans (Nat.mod_eq_of_lt hsum).symm
    rw [← UInt16.toNat_inj, h.udpCkSum, or_iff_right hnone]
    exact (icmpGetFinalCksum_eq_iff hwords hinterim).trans (dvd_lostCarries_iff hsum)

/-- A well-formed packet gets through exactly where its buffer fits and, if it is secured, the halves of its sum add up without a carry. -/
theorem compression_roundTrips_iff (ip : IPv6Packet) (srcAddr dstAddr : UInt16) (h : ip.WellFormed) :
    CompressionRoundTrips ip srcAddr dstAddr ↔
      ip.FitsBuffer dstAddr ∧ (ip.udpPayload.head? = some securityNone ∨ ip.NoCarry) := by
  have hreceived : ∀ init, ∃ header udpCkSum,
      lowPanToIPv6 ip.ipHeader.srcAddr (receivedPacket ip srcAddr dstAddr (lowPanHeader ip ++ ip.udpPayload)) init
        ip.ipHeader.srcAddr ip.ipHeader.dstAddr = some (uncompressed ip header udpCkSum) ∧
      (SameDatagram ip (uncompressed ip header udpCkSum) ↔
        ip.udpPayload.head? = some securityNone ∨ ip.NoCarry) := by
    intro init
    obtain ⟨header, udpCkSum, hout, hiff⟩ := dispatchToIPv6_compressed h init
    refine ⟨header, udpCkSum, ?_, (sameDatagram_uncompressed h header udpCkSum).trans hiff⟩
    rw [lowPanToIPv6_received (append_ne_nil_of_right_ne_nil _ h.payload), hout]
  rcases @ipV6ToLowPAN_cases ip srcAddr dstAddr h with ⟨hfits, pkt, hpkt, hpayload⟩ | ⟨hwraps, hnone⟩
  · unfold CompressionRoundTrips
    rw [and_iff_right hfits]
    constructor
    · rintro ⟨pkt', hpkt', hall⟩
      obtain rfl : pkt = pkt' := Option.some.inj (Option.some.inj (hpkt.symm.trans hpkt'))
      obtain ⟨out, hout, hsame⟩ := hall ip
      obtain ⟨header, udpCkSum, hout', hiff⟩ := hreceived ip
      rw [hpayload, hout'] at hout
      cases hout
      exact hiff.mp hsame
    · intro hcond
      refine ⟨pkt, hpkt, fun init => ?_⟩
      obtain ⟨header, udpCkSum, hout, hiff⟩ := hreceived init
      exact ⟨_, hpayload ▸ hout, hiff.mpr hcond⟩
  · refine iff_of_false ?_ fun hcond => hwraps hcond.1
    rintro ⟨pkt, hpkt, -⟩
    rw [hnone] at hpkt
    exact nomatch hpkt

def zeroIPv6Addr : IPv6Addr := ⟨replicate 16 0, length_replicate⟩

def sampleDatagram (udpLen udpCkSum : UInt16) (udpPayload : List UInt8) : IPv6Packet where
  ipHeader := ⟨0x61, (0, 0, 0), udpLen, 17, 64, zeroIPv6Addr, zeroIPv6Addr⟩
  udpHeader := ⟨61616, 61616, udpLen, udpCkSum⟩
  udpPayload := udpPayload

theorem compression_roundTrips_plain : (sampleDatagram 9 0x1E7B [0]).WellFormed ∧
    CompressionRoundTrips (sampleDatagram 9 0x1E7B [0]) 1 0 := by
  have hformed : (sampleDatagram 9 0x1E7B [0]).WellFormed :=
    ⟨by decide, by decide, by decide, by decide, by decide, by decide, by decide +kernel⟩
  exact ⟨hformed, (compression_roundTrips_iff _ 1 0 hformed).mpr ⟨by unfold IPv6Packet.FitsBuffer; decide, Or.inl rfl⟩⟩

/-- The sum of this secured packet is 0x1FFFF, and its halves add up to 0x10000. -/
theorem carry_lost : (sampleDatagram 12 0xFFFE [1, 0, 0x1D, 0x76]).WellFormed ∧
    ¬CompressionRoundTrips (sampleDatagram 12 0xFFFE [1, 0, 0x1D, 0x76]) 1 2 := by
  refine ⟨⟨by decide, by decide, by decide, by decide, by decide, by decide, by decide +kernel⟩, ?_⟩
  rintro ⟨pkt, hpkt, hall⟩
  obtain ⟨out, hout, hsame⟩ := hall (sampleDatagram 0 0 [])
  have hlost : ∀ compressed ∈ ipV6ToLowPAN (sampleDatagram 12 0xFFFE [1, 0, 0x1D, 0x76]) 1 2, ∀ pkt ∈ compressed,
      (lowPanToIPv6 zeroIPv6Addr (receivedPacket (sampleDatagram 12 0xFFFE [1, 0, 0x1D, 0x76]) 1 2
        (lowPanPayload 2 pkt)) (sampleDatagram 0 0 []) zeroIPv6Addr zeroIPv6Addr).map
          (fun out => out.udpHeader.udpCkSum) = some 0xFFFF := by decide +kernel
  have hcksum := hlost _ hpkt pkt rfl
  have hout' : (some out).map (fun out => out.udpHeader.udpCkSum) = some 0xFFFF := hout ▸ hcksum
  have hfinal : out.udpHeader.udpCkSum = 0xFFFF := Option.some.inj hout'
  rw [hsame.udpCkSum] at hfinal
  exact absurd hfinal (by decide)

end Isa100Gateway
