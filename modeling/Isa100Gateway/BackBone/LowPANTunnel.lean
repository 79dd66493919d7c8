import Isa100Gateway.BackBone.DeFrgmTbl
import Isa100Gateway.Slme.KeyTable
import Isa100Gateway.Tl.Checksum

/-!
# The 6LoWPAN tunnel (`LowPANTunnel.cpp`)

IPv6 packets are compressed into 6LoWPAN payloads and cut into fragments for the serial line; what comes back from it is assembled and uncompressed. A `uint16_t` in a serial header has the byte order of the host, which is little-endian, and the other fields have network order and are seen as the values that `ntohs` gives.
-/

namespace Isa100Gateway

/-- The bytes from `m_pHead` to `m_pTail`, and the spare room of the buffer on both sides. The size of the buffer is a `uint16_t`. -/
structure ProtocolPacket where
  headSpare : Nat
  data : List UInt8
  tailSpare : Nat
  fits : headSpare + data.length + tailSpare < 65536

def popFront (n : Nat) (data : List UInt8) : Option (List UInt8 × List UInt8) :=
  if n ≤ data.length then some (data.take n, data.drop n) else none

namespace ProtocolPacket

/-- Where the size of the buffer wraps, the copy does not fit into it. -/
def allocateCopy (msg : List UInt8) (size headSpare tailSpare : UInt16) : Option ProtocolPacket :=
  if h : size.toNat ≤ msg.length ∧ headSpare.toNat + size.toNat + tailSpare.toNat < 65536 then
    some ⟨headSpare.toNat, msg.take size.toNat, tailSpare.toNat, by rw [List.length_take_of_le h.1]; exact h.2⟩
  else none

def pushFront (bytes : List UInt8) (pkt : ProtocolPacket) : ProtocolPacket :=
  if h : bytes.length ≤ pkt.headSpare then
    ⟨pkt.headSpare - bytes.length, bytes ++ pkt.data, pkt.tailSpare, by
      have hfits := pkt.fits
      rw [List.length_append]
      omega⟩
  else pkt

def pushBack (bytes : List UInt8) (pkt : ProtocolPacket) : ProtocolPacket :=
  if h : bytes.length ≤ pkt.tailSpare then
    ⟨pkt.headSpare, pkt.data ++ bytes, pkt.tailSpare - bytes.length, by
      have hfits := pkt.fits
      rw [List.length_append]
      omega⟩
  else pkt

def popFront (n : Nat) (pkt : ProtocolPacket) : Option (List UInt8 × ProtocolPacket) :=
  if h : n ≤ pkt.data.length then
    some (pkt.data.take n, ⟨pkt.headSpare + n, pkt.data.drop n, pkt.tailSpare, by
      have hfits := pkt.fits
      rw [List.length_drop]
      omega⟩)
  else none

end ProtocolPacket

def hostBytes (x : UInt16) : List UInt8 := [x.toUInt8, (x >>> 8).toUInt8]

def hostWord (low high : UInt8) : UInt16 := high.toUInt16 <<< 8 ||| low.toUInt16

def netBytes (x : UInt16) : List UInt8 := [(x >>> 8).toUInt8, x.toUInt8]

def netWord (high low : UInt8) : UInt16 := high.toUInt16 <<< 8 ||| low.toUInt16

structure NetMsgBbrToTrHeader where
  contractID : UInt16
  trafficClass : UInt8
  srcAddr : UInt16
  dstAddr : UInt16

namespace NetMsgBbrToTrHeader

def size : Nat := 7

def bytes (h : NetMsgBbrToTrHeader) : List UInt8 :=
  hostBytes h.contractID ++ h.trafficClass :: hostBytes h.srcAddr ++ hostBytes h.dstAddr

def ofBytes : List UInt8 → NetMsgBbrToTrHeader
  | [c₀, c₁, trafficClass, s₀, s₁, d₀, d₁] => ⟨hostWord c₀ c₁, trafficClass, hostWord s₀ s₁, hostWord d₀ d₁⟩
  | _ => ⟨0, 0, 0, 0⟩

end NetMsgBbrToTrHeader

namespace NetMsgTrToBbrHeader

def size : Nat := 5

def bytes (h : NetMsgTrToBbrHeader) : List UInt8 :=
  h.trafficClass :: hostBytes h.srcAddr ++ hostBytes h.dstAddr

def ofBytes : List UInt8 → NetMsgTrToBbrHeader
  | [trafficClass, s₀, s₁, d₀, d₁] => ⟨trafficClass, hostWord s₀ s₁, hostWord d₀ d₁⟩
  | _ => ⟨0, 0, 0⟩

end NetMsgTrToBbrHeader

def ipv6AddrLength : Nat := 16

structure IPv6Addr where
  bytes : List UInt8
  size : bytes.length = ipv6AddrLength
  deriving DecidableEq

structure IPv6IPHeader where
  versionAndTrafficClass : UInt8
  flowLabel : UInt8 × UInt8 × UInt8
  payloadSize : UInt16
  nextHeader : UInt8
  hopLimit : UInt8
  srcAddr : IPv6Addr
  dstAddr : IPv6Addr

structure IPv6UDPHeader where
  (sPort dPort udpLen udpCkSum : UInt16)

structure IPv6Packet where
  ipHeader : IPv6IPHeader
  udpHeader : IPv6UDPHeader
  udpPayload : List UInt8

def udpPayloadOffset : Nat := 48

def IPv6UDPHeader.bytes (h : IPv6UDPHeader) : List UInt8 :=
  netBytes h.sPort ++ netBytes h.dPort ++ netBytes h.udpLen ++ netBytes h.udpCkSum

def IPv6IPHeader.trafficClass (h : IPv6IPHeader) : UInt8 :=
  h.versionAndTrafficClass <<< 4 ||| h.flowLabel.1 >>> 4

/-- `IpV6ToLowPAN`. The outer option is that of `allocateCopy`, the inner one is the packet that is refused. -/
def ipV6ToLowPAN (ip : IPv6Packet) (srcAddr dstAddr : UInt16) : Option (Option ProtocolPacket) :=
  match ip.udpPayload with
  | [] => some none
  | security :: _ =>
    let stSerialHeader : NetMsgBbrToTrHeader :=
      { contractID := hostWord ip.ipHeader.flowLabel.2.1 ip.ipHeader.flowLabel.2.2
        trafficClass := ip.ipHeader.trafficClass
        srcAddr := srcAddr
        dstAddr := dstAddr }
    let sPort := ip.udpHeader.sPort - 61616
    let dPort := ip.udpHeader.dPort - 61616
    let ports := if sPort ≥ 16 ∨ dPort ≥ 16 then (0, 0) else (sPort, dPort)
    let u8Ports := (ports.1 <<< 4 ||| ports.2).toUInt8
    let startReservedLen : UInt16 := 7 + 10 + if dstAddr = 0 then 16 else 0
    (ProtocolPacket.allocateCopy ip.udpPayload (UInt16.ofNat ip.udpPayload.length) startReservedLen 4).map fun pkt =>
      let pkt :=
        if security = securityNone then
          -- contract enabled header without a contract, and the checksum is in the packet
          ((((pkt.pushFront (netBytes ip.udpHeader.udpCkSum)).pushFront [u8Ports]).pushFront [0b11110011]).pushFront
            [0b01110111]).pushFront [0b01111101]
        else (pkt.pushFront [u8Ports]).pushFront [0b00000001]
      let pkt := if dstAddr = 0 then pkt.pushFront ip.ipHeader.srcAddr.bytes else pkt
      some (pkt.pushFront stSerialHeader.bytes)

def popByte : List UInt8 → Option (UInt8 × List UInt8)
  | [] => none
  | b :: data => some (b, data)

def skipByte (data : List UInt8) : List UInt8 := data.tail

def popAddr (data : List UInt8) : Option (IPv6Addr × List UInt8) :=
  if h : ipv6AddrLength ≤ data.length then
    some (⟨data.take ipv6AddrLength, List.length_take_of_le h⟩, data.drop ipv6AddrLength)
  else none

def IPv6Packet.ofBytes (init : IPv6Packet) : List UInt8 → IPv6Packet
  | b₀ :: b₁ :: b₂ :: b₃ :: b₄ :: b₅ :: b₆ :: b₇ :: rest =>
    match popAddr rest with
    | none => init
    | some (srcAddr, rest) =>
      match popAddr rest with
      | none => init
      | some (dstAddr, rest) =>
        match rest with
        | u₀ :: u₁ :: u₂ :: u₃ :: u₄ :: u₅ :: u₆ :: u₇ :: payload =>
          { ipHeader := ⟨b₀, (b₁, b₂, b₃), netWord b₄ b₅, b₆, b₇, srcAddr, dstAddr⟩
            udpHeader := ⟨netWord u₀ u₁, netWord u₂ u₃, netWord u₄ u₅, netWord u₆ u₇⟩
            udpPayload := payload }
        | _ => init
  | _ => init

def pseudoHeader (h : IPv6IPHeader) : List UInt8 :=
  h.srcAddr.bytes ++ h.dstAddr.bytes ++ netBytes h.payloadSize ++ [0, 0, 0] ++ [h.nextHeader]

/-- The part of `lowPanToIPv6` after the header forms: `header` has the fields that they set, `udpDispatch` tells whether the checksum is carried. -/
def udpToIPv6 (trafficClass : UInt8) (header : IPv6IPHeader) (udpDispatch : UInt8) (data : List UInt8)
    (srcIpv6 dstIpv6 : IPv6Addr) : Option IPv6Packet :=
  match popByte data with
  | none => none
  | some (udpPorts, data) =>
    let pktHasCheckSum := udpDispatch &&& 0x04 = 0
    match (if pktHasCheckSum then popFront 2 data else some ([0, 0], data)) with
    | some ([high, low], data) =>
      let size := UInt16.ofNat (8 + data.length)
      let header :=
        { header with
          srcAddr := srcIpv6
          dstAddr := dstIpv6
          nextHeader := 0b00010001
          versionAndTrafficClass := (6 : UInt8) <<< 4 ||| trafficClass >>> 4
          flowLabel := (trafficClass <<< 4, header.flowLabel.2)
          payloadSize := size }
      let udp : IPv6UDPHeader :=
        { sPort := (61616 : UInt16) + (udpPorts >>> 4).toUInt16
          dPort := (61616 : UInt16) + (udpPorts &&& 0x0f).toUInt16
          udpLen := size
          udpCkSum := 0 }
      let pktCheckSum :=
        if pktHasCheckSum then netWord high low
        else
          icmpGetFinalCksum
            (icmpInterimChksum (udp.bytes ++ data) (icmpInterimChksum (pseudoHeader header) 0))
      some ⟨header, { udp with udpCkSum := pktCheckSum }, data⟩
    | _ => none

def dispatchToIPv6 (trafficClass : UInt8) (data : List UInt8) (init : IPv6Packet) (srcIpv6 dstIpv6 : IPv6Addr) :
    Option IPv6Packet :=
  match popByte data with
  | none => none
  | some (ipDispatch, data) =>
    if ipDispatch &&& 0b11100000 = 0b01000000 then
      if data.length < udpPayloadOffset then none else some (IPv6Packet.ofBytes init data)
    else if ipDispatch = 0b00000001 then
      let header := { init.ipHeader with hopLimit := 64, flowLabel := (0, 0, 0) }
      udpToIPv6 trafficClass header 0b11110111 data srcIpv6 dstIpv6
    else if ipDispatch &&& 0b11100000 = 0b01100000 then
      let data := skipByte data
      let labelled :=
        if ipDispatch &&& 0b11111100 = 0b01101100 then
          let data := skipByte data
          match popFront 2 data with
          | some ([f₁, f₂], data) =>
            some ({ init.ipHeader with flowLabel := (init.ipHeader.flowLabel.1, f₁, f₂) }, data)
          | _ => some (init.ipHeader, data)
        else if ipDispatch &&& 0b11111100 = 0b01111100 then some (init.ipHeader, data)
        else none
      match labelled with
      | none => none
      | some (header, data) =>
        let limited :=
          if ipDispatch &&& 0b00000011 = 0 then
            match popByte data with
            | some (hopLimit, data) => ({ header with hopLimit := hopLimit }, data)
            | none => (header, data)
          else if ipDispatch &&& 0b00000011 = 1 then ({ header with hopLimit := 1 }, data)
          else if ipDispatch &&& 0b00000011 = 2 then ({ header with hopLimit := 64 }, data)
          else ({ header with hopLimit := 255 }, data)
        match popByte limited.2 with
        | none => none
        | some (udpDispatch, data) =>
          if udpDispatch &&& 0b11111011 ≠ 0b11110011 then none
          else udpToIPv6 trafficClass limited.1 udpDispatch data srcIpv6 dstIpv6
    else none

def lowPanToIPv6 (bbIpv6 : IPv6Addr) (pkt : List UInt8) (init : IPv6Packet) (srcIpv6 dstIpv6 : IPv6Addr) :
    Option IPv6Packet :=
  if pkt.length < NetMsgTrToBbrHeader.size + 1 then none
  else
    let stNetMsgTrToBbr := NetMsgTrToBbrHeader.ofBytes (pkt.take NetMsgTrToBbrHeader.size)
    let data := pkt.drop NetMsgTrToBbrHeader.size
    if stNetMsgTrToBbr.dstAddr = 0 ∧ stNetMsgTrToBbr.srcAddr = 0 then
      match popAddr data with
      | none => none
      | some (trOrigDest, data) => dispatchToIPv6 stNetMsgTrToBbr.trafficClass data init bbIpv6 trOrigDest
    else dispatchToIPv6 stNetMsgTrToBbr.trafficClass data init srcIpv6 dstIpv6

/-! What the calls of `PopFront` leave of a packet, also where the conversion fails. -/

def udpLeft (udpDispatch : UInt8) (data : List UInt8) : List UInt8 :=
  match popByte data with
  | none => data
  | some (_, data) =>
    if udpDispatch &&& 0x04 = 0 then
      match popFront 2 data with
      | some (_, data) => data
      | none => data
    else data

def dispatchLeft (data : List UInt8) : List UInt8 :=
  match popByte data with
  | none => data
  | some (ipDispatch, data) =>
    if ipDispatch &&& 0b11100000 = 0b01000000 then data
    else if ipDispatch = 0b00000001 then udpLeft 0b11110111 data
    else if ipDispatch &&& 0b11100000 = 0b01100000 then
      let data := skipByte data
      if ipDispatch &&& 0b11111100 = 0b01101100 ∨ ipDispatch &&& 0b11111100 = 0b01111100 then
        let data :=
          if ipDispatch &&& 0b11111100 = 0b01101100 then
            let data := skipByte data
            match popFront 2 data with
            | some (_, data) => data
            | none => data
          else data
        let data := if ipDispatch &&& 0b00000011 = 0 then skipByte data else data
        match popByte data with
        | none => data
        | some (udpDispatch, data) =>
          if udpDispatch &&& 0b11111011 ≠ 0b11110011 then data else udpLeft udpDispatch data
      else data
    else data

/-- The bytes that `lowPanToIPv6` leaves in its packet. -/
def lowPanLeft (pkt : List UInt8) : List UInt8 :=
  if pkt.length < NetMsgTrToBbrHeader.size + 1 then pkt
  else
    let stNetMsgTrToBbr := NetMsgTrToBbrHeader.ofBytes (pkt.take NetMsgTrToBbrHeader.size)
    let data := pkt.drop NetMsgTrToBbrHeader.size
    if stNetMsgTrToBbr.dstAddr = 0 ∧ stNetMsgTrToBbr.srcAddr = 0 then
      match popAddr data with
      | none => data
      | some (_, data) => dispatchLeft data
    else dispatchLeft data

structure BackBoneCfg where
  max6lowPanNetPayload : Nat

def BackBoneCfg.fragSize (cfg : BackBoneCfg) : Nat := cfg.max6lowPanNetPayload / 8 * 8

inductive PrioLevel
  | high
  | low
  | ack

/-- What `AddToTty` returns (whether the caller is to delete the packet), and the packets that it hands to `addPktToTty`. -/
structure TtyResult where
  deletePkt : Bool
  dgramTag : UInt16
  queued : List (ProtocolPacket × PrioLevel)

/-- `FragmHdr` with the dispatch bits in its first byte. -/
def fragmHdr (dispatch : UInt8) (dataGramSize dgramTag : UInt16) : List UInt8 :=
  [(dataGramSize >>> 8).toUInt8 ||| dispatch, dataGramSize.toUInt8, (dgramTag >>> 8).toUInt8, dgramTag.toUInt8]

def fragReservedLen (stSerialHeader : NetMsgBbrToTrHeader) : UInt16 :=
  7 + 10 + (if stSerialHeader.dstAddr = 0 then 16 else 0) + 1 + 4 + 1

def remainingFragments (cfg : BackBoneCfg) (stSerialHeader : NetMsgBbrToTrHeader) (srcIPv6 : List UInt8)
    (dataGramSize dgramTag : UInt16) : Nat → UInt16 → ProtocolPacket → Option (List (ProtocolPacket × PrioLevel))
  | 0, _, _ => none
  | fuel + 1, datagramOffset, pkt =>
    if datagramOffset < dataGramSize then
      let rest := dataGramSize - datagramOffset
      let frgmSz := if rest.toNat > cfg.fragSize then UInt16.ofNat cfg.fragSize else rest
      (ProtocolPacket.allocateCopy (pkt.data.drop datagramOffset.toNat) frgmSz
        (fragReservedLen stSerialHeader) 4).bind fun fragment =>
        let fragment := fragment.pushFront [(datagramOffset / 8).toUInt8]
        let fragment := fragment.pushFront (fragmHdr 0xE0 dataGramSize dgramTag)
        -- the address goes in front of the whole packet, not of the fragment
        let pkt := if stSerialHeader.dstAddr = 0 then pkt.pushFront srcIPv6 else pkt
        let fragment := fragment.pushFront stSerialHeader.bytes
        (remainingFragments cfg stSerialHeader srcIPv6 dataGramSize dgramTag fuel
          (datagramOffset + UInt16.ofNat cfg.fragSize) pkt).map ((fragment, .low) :: ·)
    else some []

def addToTty (fuel : Nat) (cfg : BackBoneCfg) (dgramTag : UInt16) (pkt : ProtocolPacket) : Option TtyResult :=
  if pkt.data.length < NetMsgBbrToTrHeader.size then some ⟨true, dgramTag, []⟩
  else
    let dstAddr := (NetMsgBbrToTrHeader.ofBytes (pkt.data.take NetMsgBbrToTrHeader.size)).dstAddr
    let dataGramSize := UInt16.ofNat (pkt.data.length - NetMsgBbrToTrHeader.size) - (if dstAddr = 0 then 16 else 0)
    if dataGramSize.toNat ≤ cfg.max6lowPanNetPayload then some ⟨false, dgramTag, [(pkt, .high)]⟩
    else
      match pkt.popFront NetMsgBbrToTrHeader.size with
      | none => some ⟨true, dgramTag, []⟩
      | some (header, pkt) =>
        let stSerialHeader := NetMsgBbrToTrHeader.ofBytes header
        match (if stSerialHeader.dstAddr = 0 then pkt.popFront ipv6AddrLength else some ([], pkt)) with
        | none => some ⟨true, dgramTag, []⟩
        | some (srcIPv6, pkt) =>
          let dgramTag := dgramTag + 1
          (ProtocolPacket.allocateCopy pkt.data (UInt16.ofNat cfg.fragSize)
            (fragReservedLen stSerialHeader) 4).bind fun fragment =>
            let fragment := fragment.pushFront (fragmHdr 0xC0 dataGramSize dgramTag)
            let pkt := if stSerialHeader.dstAddr = 0 then pkt.pushFront srcIPv6 else pkt
            let fragment := fragment.pushFront stSerialHeader.bytes
            (remainingFragments cfg stSerialHeader srcIPv6 dataGramSize dgramTag fuel
              (UInt16.ofNat cfg.fragSize) pkt).map fun rest => ⟨true, dgramTag, (fragment, .low) :: rest⟩

def netDispatchFragFirst : UInt8 := 6

def netDispatchFragNext : UInt8 := 7

/-- The parts of a fragment as `addFragment` reads them: the serial header, the address in front, the dispatch byte, and `FragmHdr`, which it reads from behind the dispatch byte. -/
structure ReceivedFragment where
  serial : NetMsgTrToBbrHeader
  ipv6 : Option (List UInt8)
  dispatch : UInt8
  dgramSz : UInt16
  dgramTag : UInt16
  data : List UInt8

def readFragment (pkt : List UInt8) : Option ReceivedFragment :=
  match popFront NetMsgTrToBbrHeader.size pkt with
  | none => none
  | some (header, data) =>
    let stSerial := NetMsgTrToBbrHeader.ofBytes header
    let addressed :=
      if stSerial.dstAddr = 0 ∧ stSerial.srcAddr = 0 then
        (popFront ipv6AddrLength data).map fun (ipv6, data) => (some ipv6, data)
      else some (none, data)
    match addressed with
    | none => none
    | some (ipv6, data) =>
      match popByte data with
      | none => none
      | some (dispatch, data) =>
        match popFront 4 data with
        | some ([sz₀, sz₁, tag₀, tag₁], data) =>
          some ⟨stSerial, ipv6, dispatch, netWord (sz₀ &&& 0x07) sz₁, netWord tag₀ tag₁, data⟩
        | _ => none

def tunnelAddFragment (now : Int) (pkt : List UInt8) (table : DeFrgmTbl) : Option DeFrgmTbl :=
  match readFragment pkt with
  | none => some table
  | some f =>
    if f.dispatch >>> 5 = netDispatchFragFirst then
      (DeFrgmTbl.startMsg now f.dgramTag f.serial.srcAddr f.serial.dstAddr f.serial.trafficClass f.dgramSz
        (UInt16.ofNat f.data.length) f.ipv6 table).bind fun (started, table) =>
        if started then (DeFrgmTbl.addFragment f.dgramTag f.serial.srcAddr 0 f.data table).map Prod.snd
        else some table
    else if f.dispatch >>> 5 = netDispatchFragNext then
      match popByte f.data with
      | none => some table
      | some (dgramOff, data) =>
        (DeFrgmTbl.addFragment f.dgramTag f.serial.srcAddr (dgramOff.toUInt16 * 8) data table).map Prod.snd
    else some table

end Isa100Gateway
