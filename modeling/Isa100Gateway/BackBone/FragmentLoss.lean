import Isa100Gateway.BackBone.LowPANTunnel
import Isa100Gateway.BackBone.Reassembly
import Isa100Gateway.Lib.Bytes
import Mathlib.Order.Interval.Finset.Nat

/-!
# Fragments across the serial line

The tunnel cuts a packet into fragments and assembles what comes back. The receiver takes the dispatch byte off in front of a fragmentation header that already has it, so that each fragment brings less into the message than it was cut to.
-/

namespace Isa100Gateway

open List NetMsgBbrToTrHeader Option

structure NetworkPacket where
  header : NetMsgBbrToTrHeader
  srcIPv6 : List UInt8
  payload : List UInt8
  prefixed : srcIPv6.length = if header.dstAddr = 0 then ipv6AddrLength else 0

def NetworkPacket.bytes (net : NetworkPacket) : List UInt8 := net.header.bytes ++ net.srcIPv6 ++ net.payload

def toReceiveLayout (h : NetMsgBbrToTrHeader) (fragment : ProtocolPacket) : List UInt8 :=
  NetMsgTrToBbrHeader.bytes ⟨h.trafficClass, h.srcAddr, h.dstAddr⟩ ++ fragment.data.drop size

def feed : List (Int × List UInt8) → DeFrgmTbl → Option (List FullMsg × DeFrgmTbl)
  | [], table => some ([], table)
  | (now, pkt) :: rest, table =>
    (tunnelAddFragment now pkt table).bind fun table =>
      let (out, table) := DeFrgmTbl.hasFullMsg table
      (feed rest table).map fun (outs, table) => (out.toList ++ outs, table)

def arriving (h : NetMsgBbrToTrHeader) (queued : List (ProtocolPacket × PrioLevel)) (arrivals : List (Int × Nat)) :
    List (Int × List UInt8) :=
  arrivals.filterMap fun (now, i) => queued[i]?.map fun (fragment, _) => (now, toReceiveLayout h fragment)

/-- The fragments of the packet `net` arrive in the given order at an empty table, and exactly one message comes out, which is that of the packet. -/
def FragmentsRoundTrip (cfg : BackBoneCfg) (dgramTag : UInt16) (net : NetworkPacket) (pkt : ProtocolPacket)
    (arrivals : List (Int × Nat)) : Prop :=
  pkt.data = net.bytes ∧ ∃ fuel res, addToTty fuel cfg dgramTag pkt = some res ∧
    ∃ out table, feed (arriving net.header res.queued arrivals) [] = some ([out], table) ∧
      out.payload = net.payload.map some ∧
      out.serial = ⟨net.header.trafficClass, net.header.srcAddr, net.header.dstAddr⟩ ∧
      out.ipv6 = if net.header.dstAddr = 0 then some net.srcIPv6 else none

/-! ## What a received fragment can write -/

theorem popFront_eq_some {n : Nat} {data front rest : List UInt8} (h : popFront n data = some (front, rest)) :
    front.length = n ∧ rest.length + n = data.length := by
  unfold popFront at h
  split at h
  · rename_i hle
    cases h
    refine ⟨length_take_of_le hle, ?_⟩
    rw [length_drop]
    omega
  · exact nomatch h

theorem popByte_eq_some {data rest : List UInt8} {b : UInt8} (h : popByte data = some (b, rest)) :
    data = b :: rest := by
  cases data with
  | nil => exact nomatch h
  | cons a data =>
    cases h
    rfl

theorem readFragment_length {pkt : List UInt8} {f : ReceivedFragment} (h : readFragment pkt = some f) :
    f.data.length + 10 ≤ pkt.length := by
  unfold readFragment at h
  split at h
  · exact nomatch h
  · rename_i header data hheader
    obtain ⟨-, hdata⟩ := popFront_eq_some hheader
    dsimp only at h
    split at h
    · exact nomatch h
    · rename_i ipv6 afterAddr haddr
      have hafter : afterAddr.length ≤ data.length := by
        split at haddr
        · obtain ⟨⟨front, rest⟩, hpop, heq⟩ := map_eq_some_iff.mp haddr
          cases heq
          have hlen := (popFront_eq_some hpop).2
          dsimp only
          omega
        · cases haddr
          exact le_refl _
      split at h
      · exact nomatch h
      · rename_i dispatch afterDispatch hdispatch
        have hbyte := congrArg length (popByte_eq_some hdispatch)
        rw [length_cons] at hbyte
        split at h
        · rename_i hhdr
          obtain ⟨-, hrest⟩ := popFront_eq_some hhdr
          cases h
          simp only [NetMsgTrToBbrHeader.size] at hdata
          dsimp only
          omega
        · exact nomatch h

def span (pkt : List UInt8) : Finset Nat :=
  match readFragment pkt with
  | none => ∅
  | some f =>
    if f.dispatch >>> 5 = netDispatchFragFirst then Finset.Ico 0 f.data.length
    else
      match popByte f.data with
      | none => ∅
      | some (dgramOff, data) =>
        Finset.Ico (dgramOff.toUInt16 * 8).toNat ((dgramOff.toUInt16 * 8).toNat + data.length)

theorem card_span_le (pkt : List UInt8) : (span pkt).card ≤ pkt.length - 10 := by
  unfold span
  split
  · exact Nat.zero_le _
  · rename_i f hread
    have hlen := readFragment_length hread
    split
    · rw [Nat.card_Ico]
      omega
    · split
      · exact Nat.zero_le _
      · rename_i dgramOff data hpop
        have hbyte := congrArg length (popByte_eq_some hpop)
        rw [length_cons] at hbyte
        rw [Nat.card_Ico]
        omega

def maxDgramSz : Nat := 2047

/-- All messages of the table have sizes of eleven bits, and only the places of `W` are written. -/
def WrittenIn (W : Finset Nat) (table : DeFrgmTbl) : Prop :=
  ∀ msg ∈ table, msg.msgPtr.length ≤ maxDgramSz ∧ ∀ i, msg.Written i → i ∈ W

variable {W : Finset Nat} {table table' : DeFrgmTbl}

theorem WrittenIn.startMsg (h : WrittenIn W table) {now : Int} {dgramTag srcAddr dstAddr : UInt16}
    {trafficClass : UInt8} {msgSz frgSz : UInt16} {ipv6 : Option (List UInt8)} {started : Bool}
    (hsize : msgSz.toNat ≤ maxDgramSz)
    (hstart : DeFrgmTbl.startMsg now dgramTag srcAddr dstAddr trafficClass msgSz frgSz ipv6 table =
      some (started, table')) : WrittenIn W table' := by
  unfold DeFrgmTbl.startMsg at hstart
  dsimp only at hstart
  split at hstart
  · cases hstart
    exact h
  split at hstart
  · cases hstart
    exact h
  split at hstart
  · cases hstart
    exact h
  split at hstart
  · cases hstart
    exact h
  · obtain ⟨bitfield, -, heq⟩ := map_eq_some_iff.mp hstart
    cases heq
    intro msg hmsg
    rcases mem_append.mp hmsg with hmsg | hmsg
    · exact h msg (mem_of_mem_take hmsg)
    · rcases mem_cons.mp hmsg with rfl | hmsg
      · refine ⟨length_replicate.le.trans hsize, ?_⟩
        rintro i ⟨b, hb⟩
        obtain ⟨-, hnone⟩ := mem_replicate.mp (mem_of_getElem? hb)
        cases hnone
      · exact h msg (mem_of_mem_drop hmsg)

theorem WrittenIn.addFragment (h : WrittenIn W table) {dgramTag srcAddr dgramOff : UInt16} {frg : List UInt8}
    {added : Bool} (hspan : Finset.Ico dgramOff.toNat (dgramOff.toNat + frg.length) ⊆ W)
    (hadd : DeFrgmTbl.addFragment dgramTag srcAddr dgramOff frg table = some (added, table')) :
    WrittenIn W table' := by
  unfold DeFrgmTbl.addFragment at hadd
  split at hadd
  · cases hadd
    exact h
  · dsimp only at hadd
    split at hadd
    · rename_i msg _ hget
      split at hadd
      · cases hadd
        exact h
      · obtain ⟨frgBit, -, hadd⟩ := bind_eq_some_iff.mp hadd
        split at hadd
        · cases hadd
          exact h
        · obtain ⟨msgPtr, hwrite, heq⟩ := map_eq_some_iff.mp hadd
          cases heq
          have hold := h msg (mem_of_getElem? hget)
          intro m hm
          rcases mem_or_eq_of_mem_set hm with hm | rfl
          · exact h m hm
          · refine ⟨(Buffer.length_write hwrite).le.trans hold.1, ?_⟩
            rintro i ⟨b, hb⟩
            change msgPtr[i]? = some (some b) at hb
            rw [Buffer.getElem?_write hwrite, length_map] at hb
            split at hb
            · rename_i hunder
              exact hspan (Finset.mem_Ico.mpr hunder)
            · exact hold.2 i ⟨b, hb⟩
    · cases hadd
      exact h

theorem readFragment_dgramSz {pkt : List UInt8} {f : ReceivedFragment} (h : readFragment pkt = some f) :
    f.dgramSz.toNat ≤ maxDgramSz := by
  have hnet : ∀ a b : UInt8, (netWord (a &&& 0x07) b).toNat ≤ maxDgramSz := by
    intro a b
    have hjoin := Bytes.toNat_join (a &&& 0x07) b
    have hb := b.toNat_lt
    have ha : (a &&& 0x07).toNat ≤ 7 := by
      rw [UInt8.toNat_and]
      exact Nat.and_le_right
    unfold netWord maxDgramSz
    omega
  unfold readFragment at h
  split at h
  · exact nomatch h
  · dsimp only at h
    split at h
    · exact nomatch h
    · split at h
      · exact nomatch h
      · split at h
        · cases h
          exact hnet _ _
        · exact nomatch h

theorem WrittenIn.tunnelAddFragment (h : WrittenIn W table) {now : Int} {pkt : List UInt8} (hspan : span pkt ⊆ W)
    (hadd : tunnelAddFragment now pkt table = some table') : WrittenIn W table' := by
  unfold Isa100Gateway.tunnelAddFragment at hadd
  unfold span at hspan
  cases hread : readFragment pkt with
  | none =>
    rw [hread] at hadd
    cases hadd
    exact h
  | some f =>
    rw [hread] at hadd hspan
    dsimp only at hadd hspan
    split at hadd
    · rename_i hfirst
      rw [if_pos hfirst] at hspan
      obtain ⟨⟨started, t⟩, hstart, hadd⟩ := bind_eq_some_iff.mp hadd
      have hstarted := h.startMsg (readFragment_dgramSz hread) hstart
      dsimp only at hadd
      split at hadd
      · obtain ⟨⟨added, t'⟩, hput, rfl⟩ := map_eq_some_iff.mp hadd
        refine hstarted.addFragment ?_ hput
        rw [UInt16.toNat_zero, Nat.zero_add]
        exact hspan
      · cases hadd
        exact hstarted
    · rename_i hfirst
      rw [if_neg hfirst] at hspan
      split at hadd
      · split at hadd
        · cases hadd
          exact h
        · rename_i dgramOff data hpop
          rw [hpop] at hspan
          obtain ⟨⟨added, t'⟩, hput, rfl⟩ := map_eq_some_iff.mp hadd
          exact h.addFragment hspan hput
      · cases hadd
        exact h

theorem feed_writtenIn {arrivals : List (Int × List UInt8)} (hspan : ∀ a ∈ arrivals, span a.2 ⊆ W) :
    ∀ {table table' : DeFrgmTbl} {outs : List FullMsg}, WrittenIn W table →
      feed arrivals table = some (outs, table') → ∀ out ∈ outs, out.payload.length ≤ maxDgramSz ∧
        ∀ i b, out.payload[i]? = some (some b) → i ∈ W := by
  induction arrivals with
  | nil =>
    intro table table' outs _ hfeed out hout
    cases hfeed
    exact absurd hout not_mem_nil
  | cons a arrivals ih =>
    intro table table' outs h hfeed out hout
    obtain ⟨now, pkt⟩ := a
    obtain ⟨added, hadd, hfeed⟩ := bind_eq_some_iff.mp hfeed
    have hadded := h.tunnelAddFragment (hspan _ mem_cons_self) hadd
    obtain ⟨⟨rest, t⟩, hrest, heq⟩ := map_eq_some_iff.mp hfeed
    cases heq
    rcases mem_append.mp hout with hout | hout
    · obtain ⟨msg, hmsg, rfl, -⟩ := hasFullMsg_some (mem_toList.mp hout)
      obtain ⟨hsize, hwritten⟩ := hadded msg hmsg
      exact ⟨hsize, fun i b hb => hwritten i ⟨b, hb⟩⟩
    · have hleft : WrittenIn W (DeFrgmTbl.hasFullMsg added).2 := fun m hm =>
        hadded m ((hasFullMsg_sublist added).subset hm)
      exact ih (fun a ha => hspan a (mem_cons_of_mem _ ha)) hleft hrest out hout

/-! ## What the fragments carry -/

def spans : List (List UInt8) → Finset Nat
  | [] => ∅
  | pkt :: pkts => span pkt ∪ spans pkts

theorem span_subset_spans {pkts : List (List UInt8)} {pkt : List UInt8} (h : pkt ∈ pkts) : span pkt ⊆ spans pkts := by
  induction pkts with
  | nil => exact absurd h not_mem_nil
  | cons p pkts ih =>
    rcases mem_cons.mp h with rfl | h
    · exact Finset.subset_union_left
    · exact (ih h).trans Finset.subset_union_right

theorem card_spans_le (pkts : List (List UInt8)) : (spans pkts).card ≤ (pkts.map fun pkt => pkt.length - 10).sum := by
  induction pkts with
  | nil => exact Nat.zero_le _
  | cons pkt pkts ih =>
    calc (spans (pkt :: pkts)).card
        ≤ (span pkt).card + (spans pkts).card := Finset.card_union_le _ _
      _ ≤ (pkt.length - 10) + (pkts.map fun pkt => pkt.length - 10).sum :=
        Nat.add_le_add (card_span_le pkt) ih
      _ = _ := sum_cons.symm

theorem hostWord_bytes (x : UInt16) : hostWord x.toUInt8 (x >>> 8).toUInt8 = x := Bytes.join_split x

theorem length_bytes (h : NetMsgBbrToTrHeader) : h.bytes.length = size := rfl

theorem ofBytes_bytes (h : NetMsgBbrToTrHeader) : ofBytes h.bytes = h := by
  change NetMsgBbrToTrHeader.mk (hostWord _ _) h.trafficClass (hostWord _ _) (hostWord _ _) = h
  rw [hostWord_bytes, hostWord_bytes, hostWord_bytes]

theorem length_pushFront_le (bytes : List UInt8) (pkt : ProtocolPacket) :
    (pkt.pushFront bytes).data.length ≤ bytes.length + pkt.data.length := by
  unfold ProtocolPacket.pushFront
  split
  · exact (length_append ..).le
  · exact Nat.le_add_left _ _

theorem length_allocateCopy {msg : List UInt8} {size headSpare tailSpare : UInt16} {pkt : ProtocolPacket}
    (h : ProtocolPacket.allocateCopy msg size headSpare tailSpare = some pkt) : pkt.data.length = size.toNat := by
  unfold ProtocolPacket.allocateCopy at h
  split at h
  · rename_i hfits
    cases h
    exact length_take_of_le hfits.1
  · exact nomatch h

def carried (queued : List (ProtocolPacket × PrioLevel)) : Nat :=
  (queued.map fun fragment => fragment.1.data.length - 12).sum

theorem carried_cons (fragment : ProtocolPacket × PrioLevel) (queued : List (ProtocolPacket × PrioLevel)) :
    carried (fragment :: queued) = fragment.1.data.length - 12 + carried queued := sum_cons

variable {h : NetMsgBbrToTrHeader} {arrivals : List (Int × Nat)}

theorem carried_remaining {cfg : BackBoneCfg} {srcIPv6 : List UInt8}
    {dataGramSize dgramTag : UInt16} (hfrag : cfg.fragSize < dataGramSize.toNat)
    (hsize : dataGramSize.toNat ≤ maxDgramSz) (fuel : Nat) :
    ∀ {datagramOffset : UInt16} {pkt : ProtocolPacket} {queued : List (ProtocolPacket × PrioLevel)},
      remainingFragments cfg h srcIPv6 dataGramSize dgramTag fuel datagramOffset pkt = some queued →
      carried queued ≤ dataGramSize.toNat - datagramOffset.toNat := by
  have hfragSize : (UInt16.ofNat cfg.fragSize).toNat = cfg.fragSize :=
    UInt16.toNat_ofNat_of_lt' (by change _ < 65536; unfold maxDgramSz at hsize; omega)
  induction fuel with
  | zero =>
    intro datagramOffset pkt queued hqueued
    exact nomatch hqueued
  | succ fuel ih =>
    intro datagramOffset pkt queued hqueued
    unfold remainingFragments at hqueued
    split at hqueued
    · rename_i hlt
      rw [UInt16.lt_iff_toNat_lt] at hlt
      obtain ⟨fragment, halloc, hqueued⟩ := bind_eq_some_iff.mp hqueued
      obtain ⟨rest, hrest, rfl⟩ := map_eq_some_iff.mp hqueued
      have hpart := ih hrest
      have hlen := length_allocateCopy halloc
      have hsub : (dataGramSize - datagramOffset).toNat = dataGramSize.toNat - datagramOffset.toNat :=
        UInt16.toNat_sub_of_le _ _ (UInt16.le_iff_toNat_le.mpr hlt.le)
      have hnext : (datagramOffset + UInt16.ofNat cfg.fragSize).toNat = datagramOffset.toNat + cfg.fragSize := by
        rw [UInt16.toNat_add, hfragSize]
        unfold maxDgramSz at hsize
        omega
      rw [carried_cons]
      have h₁ := length_pushFront_le [(datagramOffset / 8).toUInt8] fragment
      have h₂ := length_pushFront_le (fragmHdr 0xE0 dataGramSize dgramTag)
        (fragment.pushFront [(datagramOffset / 8).toUInt8])
      have h₃ := length_pushFront_le h.bytes ((fragment.pushFront [(datagramOffset / 8).toUInt8]).pushFront
        (fragmHdr 0xE0 dataGramSize dgramTag))
      simp only [length_bytes, size, fragmHdr, length_cons, length_nil] at h₁ h₂ h₃
      simp only [fragmHdr]
      split at hlen
      · rw [hfragSize] at hlen
        omega
      · omega
    · cases hqueued
      exact Nat.zero_le _

variable {cfg : BackBoneCfg} {dgramTag : UInt16} {net : NetworkPacket} {pkt : ProtocolPacket}

theorem length_netBytes (hpkt : pkt.data = net.bytes) :
    pkt.data.length = size + net.srcIPv6.length + net.payload.length := by
  rw [hpkt, NetworkPacket.bytes, length_append, length_append, length_bytes]

theorem carried_addToTty {fuel : Nat} {res : TtyResult} (hpkt : pkt.data = net.bytes)
    (hfrag : 40 ≤ cfg.fragSize) (hlarge : cfg.max6lowPanNetPayload < net.payload.length)
    (hsize : net.payload.length ≤ maxDgramSz) (hres : addToTty fuel cfg dgramTag pkt = some res) :
    carried res.queued < net.payload.length := by
  have hlength := length_netBytes hpkt
  have hfits := pkt.fits
  have hprefixed := net.prefixed
  have hmax : cfg.fragSize ≤ cfg.max6lowPanNetPayload := Nat.div_mul_le_self _ _
  have htake : pkt.data.take size = net.header.bytes := by
    rw [hpkt, NetworkPacket.bytes, append_assoc]
    exact take_left' (length_bytes _)
  have hdataGram : (UInt16.ofNat (pkt.data.length - size) -
      (if net.header.dstAddr = 0 then 16 else 0)).toNat = net.payload.length := by
    have hword : (UInt16.ofNat (pkt.data.length - size)).toNat =
        net.srcIPv6.length + net.payload.length := by
      rw [hlength, UInt16.toNat_ofNat_of_lt' (by change _ < 65536; omega)]
      omega
    by_cases hdst : net.header.dstAddr = 0
    · rw [if_pos hdst] at hprefixed ⊢
      have hle : (16 : UInt16) ≤ UInt16.ofNat (pkt.data.length - size) := by
        rw [UInt16.le_iff_toNat_le, hword, hprefixed]
        exact Nat.le_add_right _ _
      rw [UInt16.toNat_sub_of_le _ _ hle, hword, hprefixed]
      exact Nat.add_sub_cancel_left _ _
    · rw [if_neg hdst] at hprefixed ⊢
      rw [UInt16.sub_zero, hword, hprefixed, Nat.zero_add]
  unfold addToTty at hres
  rw [if_neg (by omega)] at hres
  dsimp only at hres
  rw [htake, ofBytes_bytes] at hres
  generalize hdgs : UInt16.ofNat (pkt.data.length - size) -
      (if net.header.dstAddr = 0 then 16 else 0) = dataGramSize at hdataGram hres
  rw [if_neg (by omega)] at hres
  have hfragSize : (UInt16.ofNat cfg.fragSize).toNat = cfg.fragSize :=
    UInt16.toNat_ofNat_of_lt' (by change _ < 65536; unfold maxDgramSz at hsize; omega)
  split at hres
  · rename_i hpop
    unfold ProtocolPacket.popFront at hpop
    rw [dif_pos (by omega)] at hpop
    exact nomatch hpop
  · rename_i header body hpop
    unfold ProtocolPacket.popFront at hpop
    rw [dif_pos (by omega)] at hpop
    cases hpop
    rw [htake, ofBytes_bytes] at hres
    split at hres
    · rename_i hpop
      split at hpop
      · rename_i hdst
        rw [if_pos hdst] at hprefixed
        unfold ProtocolPacket.popFront at hpop
        rw [dif_pos (by rw [length_drop]; omega)] at hpop
        exact nomatch hpop
      · exact nomatch hpop
    · rename_i srcIPv6 rest _
      obtain ⟨fragment, halloc, hres⟩ := bind_eq_some_iff.mp hres
      obtain ⟨queued, hqueued, rfl⟩ := map_eq_some_iff.mp hres
      have hrest := carried_remaining (by omega) (by omega) fuel hqueued
      have hlen := length_allocateCopy halloc
      have h₁ := length_pushFront_le (fragmHdr 0xC0 dataGramSize (dgramTag + 1)) fragment
      have h₂ := length_pushFront_le net.header.bytes
        (fragment.pushFront (fragmHdr 0xC0 dataGramSize (dgramTag + 1)))
      simp only [length_bytes, size, fragmHdr, length_cons, length_nil] at h₁ h₂
      rw [carried_cons]
      simp only [fragmHdr]
      omega

theorem sum_received_le (h : NetMsgBbrToTrHeader) (queued : List (ProtocolPacket × PrioLevel)) :
    ((queued.map fun fragment => toReceiveLayout h fragment.1).map fun pkt => pkt.length - 10).sum ≤
      carried queued := by
  induction queued with
  | nil => exact Nat.le_refl _
  | cons fragment queued ih =>
    have hlayout : (toReceiveLayout h fragment.1).length = 5 + (fragment.1.data.length - 7) := by
      rw [toReceiveLayout, length_append, length_drop]
      rfl
    rw [carried_cons, map_cons, map_cons, sum_cons]
    omega

theorem mem_arriving {queued : List (ProtocolPacket × PrioLevel)}
    {a : Int × List UInt8} (ha : a ∈ arriving h queued arrivals) :
    a.2 ∈ queued.map fun fragment => toReceiveLayout h fragment.1 := by
  obtain ⟨⟨now, i⟩, -, ha⟩ := mem_filterMap.mp ha
  obtain ⟨fragment, hget, rfl⟩ := map_eq_some_iff.mp ha
  exact mem_map.mpr ⟨fragment, mem_of_getElem? hget, rfl⟩

theorem payload_lost {fuel : Nat} {res : TtyResult} {outs : List FullMsg}
    {table : DeFrgmTbl} (hpkt : pkt.data = net.bytes) (hfrag : 40 ≤ cfg.fragSize)
    (hlarge : cfg.max6lowPanNetPayload < net.payload.length) (hres : addToTty fuel cfg dgramTag pkt = some res)
    (hfeed : feed (arriving net.header res.queued arrivals) [] = some (outs, table)) :
    ∀ out ∈ outs, out.payload ≠ net.payload.map some := by
  intro out hout heq
  set received := res.queued.map fun fragment => toReceiveLayout net.header fragment.1 with hreceived
  have hempty : WrittenIn (spans received) [] := fun _ hmsg => absurd hmsg not_mem_nil
  obtain ⟨hsize, hwritten⟩ := feed_writtenIn (fun a ha => span_subset_spans (mem_arriving ha)) hempty hfeed out hout
  rw [heq, length_map] at hsize
  have hall : Finset.range net.payload.length ⊆ spans received := by
    intro i hi
    have hi := Finset.mem_range.mp hi
    refine hwritten i net.payload[i] ?_
    rw [heq, getElem?_map, getElem?_eq_getElem hi, map_some]
  have hcontra : net.payload.length < net.payload.length := by
    calc net.payload.length
        = (Finset.range net.payload.length).card := (Finset.card_range _).symm
      _ ≤ (spans received).card := Finset.card_le_card hall
      _ ≤ (received.map fun pkt => pkt.length - 10).sum := card_spans_le received
      _ ≤ carried res.queued := sum_received_le net.header res.queued
      _ < net.payload.length := carried_addToTty hpkt hfrag hlarge hsize hres
  exact lt_irrefl _ hcontra

/-- No packet that is cut into fragments gets through. -/
theorem fragments_not_roundTrip (cfg : BackBoneCfg) (dgramTag : UInt16) (net : NetworkPacket) (pkt : ProtocolPacket)
    (arrivals : List (Int × Nat)) (hfrag : 40 ≤ cfg.fragSize)
    (hlarge : cfg.max6lowPanNetPayload < net.payload.length) : ¬FragmentsRoundTrip cfg dgramTag net pkt arrivals := by
  rintro ⟨hpkt, fuel, res, hres, out, table, hfeed, hpayload, -⟩
  exact payload_lost hpkt hfrag hlarge hres hfeed out mem_cons_self hpayload

def samplePacket : NetworkPacket :=
  ⟨⟨0, 0, 1, 2⟩, [], replicate 112 7, length_nil⟩

def sampleBuffer : ProtocolPacket := ⟨0, samplePacket.bytes, 2, by decide⟩

theorem fragments_not_roundTrip_sample : (40 ≤ (BackBoneCfg.mk 98).fragSize ∧ 98 < samplePacket.payload.length) ∧
    ¬FragmentsRoundTrip ⟨98⟩ 0 samplePacket sampleBuffer [(0, 0), (0, 1)] :=
  ⟨by decide, fragments_not_roundTrip ⟨98⟩ 0 samplePacket sampleBuffer _ (by decide) (by decide)⟩

/-- The two fragments of the packet arrive in order, and the table stays empty. -/
theorem fragments_lost : (∃ res, addToTty 2 ⟨98⟩ 0 sampleBuffer = some res ∧ res.queued.length = 2 ∧
      feed (arriving samplePacket.header res.queued [(0, 0), (0, 1)]) [] = some ([], [])) ∧
    ¬FragmentsRoundTrip ⟨98⟩ 0 samplePacket sampleBuffer [(0, 0), (0, 1)] := by
  constructor
  · obtain ⟨res, hres, hlost⟩ : ∃ res ∈ addToTty 2 ⟨98⟩ 0 sampleBuffer, res.queued.length = 2 ∧
        feed (arriving samplePacket.header res.queued [(0, 0), (0, 1)]) [] = some ([], []) := by decide +kernel
    exact ⟨res, hres, hlost⟩
  · rintro ⟨hpkt, fuel, res, hres, out, table, hfeed, hpayload, -⟩
    exact payload_lost hpkt (by decide) (by decide) hres hfeed out mem_cons_self hpayload

end Isa100Gateway
