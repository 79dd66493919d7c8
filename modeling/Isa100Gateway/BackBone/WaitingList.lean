import Isa100Gateway.BackBone.LowPANTunnel
import Isa100Gateway.Lib.Run
import Mathlib.Data.List.Perm.Basic

/-!
# Messages that wait for an address translation (`LowPANTunnel.cpp`, `BbrGlobal.cpp`, `BackBoneApp.cpp`)

A message whose addresses are not in the translation table waits in one list for both directions. One sweep forwards what has become resolvable, another one is to drop what is too old. A run numbers the messages as they come and keeps the numbers that were forwarded and dropped.
-/

namespace Isa100Gateway.WaitingList

open List

/-- The two lookups in the translation table, and the value that a packet on the stack happens to have. -/
structure Att where
  bbIPv6 : IPv6Addr
  smIPv6 : IPv6Addr
  findATT : IPv6Addr → Option UInt16
  findATTByShortAddr : UInt16 → Option IPv6Addr
  stack : IPv6Packet

inductive Packet
  | toTR (ip : IPv6Packet)
  | fromTR (pkt : List UInt8)

/-- `packet` is what earlier calls of `lowPanToIPv6` have left of the message; `undecodable` marks a message on which such a call has failed. The source has neither the mark nor the number. -/
structure CMsgWaitATT where
  id : Nat
  recvTime : Int
  packet : Packet
  undecodable : Bool

inductive Sent
  | tty (pkt : ProtocolPacket)
  | udp (ip : IPv6Packet)

inductive Outcome
  | waits
  | sent (x : Sent)
  | undecodable

namespace Att

variable (att : Att)

def getIpv6ForShort (short : UInt16) (default : IPv6Addr) : Option IPv6Addr :=
  match att.findATTByShortAddr short with
  | some address => some address
  | none => if short = 0 then some default else none

def get6LowPanAddrs (ip : IPv6Packet) : Option (UInt16 × UInt16) :=
  if ip.udpPayload = [] then none
  else if ip.ipHeader.dstAddr = att.bbIPv6 then some (0, 0)
  else do
    let dst ← att.findATT ip.ipHeader.dstAddr
    let src ← att.findATT ip.ipHeader.srcAddr
    return (src, dst)

def getIPv6Addrs (pkt : List UInt8) : Option (IPv6Addr × IPv6Addr) :=
  if pkt.length < NetMsgTrToBbrHeader.size + 1 then some (att.bbIPv6, att.bbIPv6)
  else
    let header := NetMsgTrToBbrHeader.ofBytes (pkt.take NetMsgTrToBbrHeader.size)
    if header.dstAddr = 0 ∧ header.srcAddr = 0 then some (att.bbIPv6, att.bbIPv6)
    else do
      let dst ← att.getIpv6ForShort header.dstAddr att.smIPv6
      let src ← att.getIpv6ForShort header.srcAddr att.bbIPv6
      return (src, dst)

/-- The common part of `SendToDL`, `handleFull6lowPANMsg` and the sweep: look the addresses up and convert. -/
def outcome : Packet → Outcome
  | .toTR ip =>
    match att.get6LowPanAddrs ip with
    | none => .waits
    | some (src, dst) =>
      match ipV6ToLowPAN ip src dst with
      | some (some pkt) => .sent (.tty pkt)
      | _ => .undecodable
  | .fromTR pkt =>
    match att.getIPv6Addrs pkt with
    | none => .waits
    | some (src, dst) =>
      match lowPanToIPv6 att.bbIPv6 pkt att.stack src dst with
      | some ip => .sent (.udp ip)
      | none => .undecodable

/-- What is to be sent for a message: whether a packet can be decoded is a matter of its bytes, so that one on which the conversion has failed is not to be sent. -/
def forwarded (m : CMsgWaitATT) : Option Sent :=
  if m.undecodable then none
  else
    match att.outcome m.packet with
    | .sent x => some x
    | _ => none

end Att

def maxTtlForMsg : Int := 60

def checkWaitAttListForTimeout (now : Int) : List CMsgWaitATT → List CMsgWaitATT
  | [] => []
  | m :: rest => if m.recvTime + maxTtlForMsg ≤ now then m :: rest else checkWaitAttListForTimeout now rest

/-- The packet on which the sweep gives up stays in the list, without the bytes that the conversion took from it. -/
def checkWaitAttListForSend (att : Att) : List CMsgWaitATT → List (Nat × Sent) × List CMsgWaitATT
  | [] => ([], [])
  | m :: rest =>
    match att.outcome m.packet with
    | .waits => ((checkWaitAttListForSend att rest).1, m :: (checkWaitAttListForSend att rest).2)
    | .sent x => ((m.id, x) :: (checkWaitAttListForSend att rest).1, (checkWaitAttListForSend att rest).2)
    | .undecodable =>
      match m.packet with
      | .toTR _ => checkWaitAttListForSend att rest
      | .fromTR pkt => ([], { m with packet := .fromTR (lowPanLeft pkt), undecodable := true } :: rest)

structure State where
  waiting : List CMsgWaitATT
  arrived : Nat
  forwarded : List Nat
  expired : List Nat

def start : State := ⟨[], 0, [], []⟩

inductive Event
  /-- `SendToDL` and `handleFull6lowPANMsg`, which forward or drop what is resolvable at once. -/
  | arrive (att : Att) (now : Int) (packet : Packet)
  | send (att : Att)
  | timeout (now : Int)

def step (s : State) : Event → State
  | .arrive att now packet =>
    match att.outcome packet with
    | .waits => { s with waiting := s.waiting ++ [⟨s.arrived, now, packet, false⟩], arrived := s.arrived + 1 }
    | _ => s
  | .send att =>
    { s with
      waiting := (checkWaitAttListForSend att s.waiting).2
      forwarded := s.forwarded ++ (checkWaitAttListForSend att s.waiting).1.map Prod.fst }
  | .timeout now =>
    { s with
      waiting := checkWaitAttListForTimeout now s.waiting
      expired := s.expired ++
        (s.waiting.take (s.waiting.length - (checkWaitAttListForTimeout now s.waiting).length)).map CMsgWaitATT.id }

def ready (att : Att) (l : List CMsgWaitATT) : List (Nat × Sent) :=
  l.filterMap fun m => (att.forwarded m).map fun x => (m.id, x)

def blocked (att : Att) (l : List CMsgWaitATT) : List CMsgWaitATT := l.filter fun m => (att.forwarded m).isNone

/-- The sending sweep forwards every message that can be, and only that leaves the list; the other sweep keeps none that
is older than the limit and drops none that is younger. -/
def Lawful (s : State) : Event → Prop
  | .arrive _ _ _ => True
  | .send att => (checkWaitAttListForSend att s.waiting).1 = ready att s.waiting ∧
    (checkWaitAttListForSend att s.waiting).2.map CMsgWaitATT.id = (blocked att s.waiting).map CMsgWaitATT.id
  | .timeout now => ∃ dropped, s.waiting = dropped ++ checkWaitAttListForTimeout now s.waiting ∧
    (∀ m ∈ dropped, m.recvTime + maxTtlForMsg ≤ now) ∧
    ∀ m ∈ checkWaitAttListForTimeout now s.waiting, now ≤ m.recvTime + maxTtlForMsg

/-- No message to the transceiver is resolved and cannot be converted, behind one from it none is to be forwarded, and what is left of an undecodable message is not taken for one that can be sent. -/
def SendsAll (att : Att) : List CMsgWaitATT → Prop
  | [] => True
  | m :: rest =>
    match att.outcome m.packet, m.packet with
    | .undecodable, .toTR _ => False
    | .undecodable, .fromTR _ => ∀ m' ∈ rest, att.forwarded m' = none
    | .sent _, _ => m.undecodable = false ∧ SendsAll att rest
    | .waits, _ => SendsAll att rest

def Meets (s : State) : Event → Prop
  | .arrive _ _ _ => True
  | .send att => SendsAll att s.waiting
  | .timeout now => (∀ m ∈ s.waiting, now ≤ m.recvTime + maxTtlForMsg) ∧
    ∀ m ∈ s.waiting.head?, m.recvTime + maxTtlForMsg ≤ now

variable {att : Att} {l : List CMsgWaitATT} {m : CMsgWaitATT} {s : State} {now : Int}

theorem ready_cons : ready att (m :: l) = ((att.forwarded m).map fun x => (m.id, x)).toList ++ ready att l := by
  rw [ready, filterMap_cons]
  cases att.forwarded m <;> rfl

theorem blocked_cons : blocked att (m :: l) = if (att.forwarded m).isNone then m :: blocked att l else blocked att l :=
  filter_cons

theorem perm_ready_blocked (att : Att) (l : List CMsgWaitATT) :
    ((ready att l).map Prod.fst ++ (blocked att l).map CMsgWaitATT.id).Perm (l.map CMsgWaitATT.id) := by
  induction l with
  | nil => exact .nil
  | cons m rest ih =>
    rw [ready_cons, blocked_cons]
    cases att.forwarded m with
    | none => exact perm_middle.trans (ih.cons m.id)
    | some x => exact ih.cons m.id

theorem length_checkWaitAttListForSend (att : Att) (l : List CMsgWaitATT) :
    (checkWaitAttListForSend att l).1.length + (checkWaitAttListForSend att l).2.length ≤ l.length := by
  induction l with
  | nil => exact Nat.le_refl 0
  | cons m rest ih =>
    rw [checkWaitAttListForSend]
    split
    · simp only [length_cons]
      omega
    · simp only [length_cons]
      omega
    · split
      · exact ih.trans (Nat.le_succ _)
      · exact Nat.le_of_eq (Nat.zero_add _)

theorem mem_ids_of_ready {id : Nat} {x : Sent} (h : (id, x) ∈ ready att l) : id ∈ l.map CMsgWaitATT.id := by
  obtain ⟨m, hm, hx⟩ := mem_filterMap.mp h
  obtain ⟨_, -, hpair⟩ := Option.map_eq_some_iff.mp hx
  exact mem_map.mpr ⟨m, hm, congrArg Prod.fst hpair⟩

theorem forwarded_sent {x : Sent} (h : att.outcome m.packet = .sent x) (hwhole : m.undecodable = false) :
    att.forwarded m = some x := by
  unfold Att.forwarded
  rw [hwhole, h]
  rfl

theorem forwarded_undecodable (h : m.undecodable = true) : att.forwarded m = none := if_pos h

theorem forwarded_unsent (h : ∀ x, att.outcome m.packet ≠ .sent x) : att.forwarded m = none := by
  unfold Att.forwarded
  split
  · rfl
  · split
    · rename_i x hx
      exact absurd hx (h x)
    · rfl

/-- What the sweep is to do with the messages that come after the first. -/
def Forwards (att : Att) (l : List CMsgWaitATT) : Prop :=
  (checkWaitAttListForSend att l).1 = ready att l ∧
    (checkWaitAttListForSend att l).2.map CMsgWaitATT.id = (blocked att l).map CMsgWaitATT.id

theorem sendsAll_iff (hnodup : (l.map CMsgWaitATT.id).Nodup) : SendsAll att l ↔ Forwards att l := by
  induction l with
  | nil => exact iff_of_true trivial ⟨rfl, rfl⟩
  | cons m rest ih =>
    obtain ⟨hfirst, hrest⟩ := nodup_cons.mp hnodup
    have ih := ih hrest
    unfold Forwards at ih ⊢
    rw [SendsAll, checkWaitAttListForSend, ready_cons, blocked_cons]
    cases houtcome : att.outcome m.packet with
    | waits =>
      have hnone : att.forwarded m = none := forwarded_unsent (by simp [houtcome])
      simp [hnone, ih]
    | sent x =>
      cases hmark : m.undecodable with
      | false => simp [forwarded_sent houtcome hmark, ih]
      | true =>
        -- what is sent has the number of a message that comes later
        refine iff_of_false (fun h => Bool.noConfusion h.1) fun h => hfirst ?_
        have hready : (m.id, x) :: (checkWaitAttListForSend att rest).1 = ready att rest := by
          simpa [forwarded_undecodable hmark] using h.1
        exact mem_ids_of_ready (x := x) (hready ▸ mem_cons_self)
    | undecodable =>
      have hnone : att.forwarded m = none := forwarded_unsent (by simp [houtcome])
      rcases hpacket : m.packet with ip | pkt
      · -- the message is gone without being forwarded, so that the sweep is short of one
        refine iff_of_false id fun heq => ?_
        have hlength := (perm_ready_blocked att rest).length_eq
        have hswept := length_checkWaitAttListForSend att rest
        obtain ⟨hready, hblocked⟩ := heq
        have hready' := congrArg length hready
        have hblocked' := congrArg length hblocked
        simp only [length_append, length_map, hnone, Option.isNone_none, if_true, Option.map_none, Option.toList_none,
          nil_append, length_cons] at hlength hready' hblocked'
        omega
      · have hempty : (∀ m' ∈ rest, att.forwarded m' = none) ↔ ready att rest = [] := by
          rw [ready, filterMap_eq_nil_iff]
          simp only [Option.map_eq_none_iff]
        have hblocked : ready att rest = [] → blocked att rest = rest := fun hready =>
          filter_eq_self.mpr fun m' hm' => Option.isNone_iff_eq_none.mpr (hempty.mpr hready m' hm')
        simp only [hnone, hempty, Option.isNone_none, if_true, Option.map_none, Option.toList_none, nil_append,
          map_cons,
          cons.injEq, true_and]
        exact ⟨fun h => ⟨h.symm, by rw [hblocked h]⟩, fun h => h.1.symm⟩

theorem checkWaitAttListForTimeout_suffix (now : Int) (l : List CMsgWaitATT) :
    checkWaitAttListForTimeout now l <:+ l := by
  induction l with
  | nil => exact suffix_refl _
  | cons m rest ih =>
    rw [checkWaitAttListForTimeout]
    split
    · exact suffix_refl _
    · exact ih.trans (suffix_cons m rest)

theorem timeout_lawful_iff (now : Int) : Lawful s (.timeout now) ↔ Meets s (.timeout now) := by
  unfold Lawful Meets
  rcases s.waiting with _ | ⟨m, rest⟩
  · exact iff_of_true ⟨[], rfl, fun _ h => (nomatch h), fun _ h => (nomatch h)⟩
      ⟨fun _ h => (nomatch h), fun _ h => (nomatch h)⟩
  · dsimp only
    rw [checkWaitAttListForTimeout]
    by_cases hold : m.recvTime + maxTtlForMsg ≤ now
    · rw [if_pos hold]
      constructor
      · rintro ⟨dropped, -, -, hkept⟩
        exact ⟨hkept, fun _ hm => Option.some.inj hm ▸ hold⟩
      · exact fun h => ⟨[], rfl, fun _ hm => (nomatch hm), h.1⟩
    · rw [if_neg hold]
      refine iff_of_false ?_ fun h => hold (h.2 m rfl)
      rintro ⟨dropped, happend, hdropped, -⟩
      -- the first message goes, so that it is among those that were dropped
      cases dropped with
      | nil =>
        have hlength := (checkWaitAttListForTimeout_suffix now rest).length_le
        rw [← nil_append (checkWaitAttListForTimeout now rest), ← happend] at hlength
        exact absurd hlength (Nat.not_succ_le_self _)
      | cons m' dropped =>
        obtain ⟨rfl, -⟩ := cons.inj happend
        exact hold (hdropped m mem_cons_self)

/-- Each message that came is waiting, was forwarded or was dropped, one of the three and once. -/
def Accounted (s : State) : Prop :=
  (s.forwarded ++ s.expired ++ s.waiting.map CMsgWaitATT.id).Perm (range s.arrived)

theorem Accounted.nodup (h : Accounted s) : (s.waiting.map CMsgWaitATT.id).Nodup := by
  have hall : (s.forwarded ++ s.expired ++ s.waiting.map CMsgWaitATT.id).Nodup := h.nodup_iff.mpr nodup_range
  exact (nodup_append.mp hall).2.1

theorem Accounted.lawful_iff_meets (h : Accounted s) (e : Event) : Lawful s e ↔ Meets s e := by
  cases e with
  | arrive att now packet => exact Iff.rfl
  | send att => exact (sendsAll_iff h.nodup).symm
  | timeout now => exact timeout_lawful_iff now

theorem Accounted.step (h : Accounted s) {e : Event} (hok : Meets s e) : Accounted (step s e) := by
  unfold Accounted at h ⊢
  cases e with
  | arrive att now packet =>
    unfold WaitingList.step
    dsimp only
    split
    · rw [map_append, ← append_assoc, range_succ]
      exact h.append_right _
    · exact h
  | send att =>
    obtain ⟨hready, hblocked⟩ := (sendsAll_iff (Accounted.nodup h)).mp hok
    refine Perm.trans ?_ h
    change ((s.forwarded ++ (checkWaitAttListForSend att s.waiting).1.map Prod.fst) ++ s.expired ++
      (checkWaitAttListForSend att s.waiting).2.map CMsgWaitATT.id).Perm _
    rw [hready, hblocked, append_assoc, append_assoc, append_assoc]
    refine Perm.append_left _ (perm_append_comm_assoc _ _ _ |>.trans ?_)
    exact (perm_ready_blocked att s.waiting).append_left _
  | timeout now =>
    obtain ⟨dropped, hdropped⟩ := checkWaitAttListForTimeout_suffix now s.waiting
    have htake : s.waiting.take (s.waiting.length - (checkWaitAttListForTimeout now s.waiting).length) = dropped := by
      have hlength := congrArg length hdropped
      rw [length_append] at hlength
      rw [← hlength, Nat.add_sub_cancel, ← hdropped, take_left]
    change (s.forwarded ++ (s.expired ++ _) ++ (checkWaitAttListForTimeout now s.waiting).map CMsgWaitATT.id).Perm _
    rw [htake, ← append_assoc, append_assoc, ← map_append, hdropped]
    exact h

/-- In every run whose sweeps meet the condition no message is lost or forwarded twice, and the next sweep does what it is
for exactly if it meets the condition. -/
theorem sweeps_lawful {s : State} (h : Machine.Reachable start step Meets s) :
    Accounted s ∧ ∀ e, Lawful s e ↔ Meets s e := by
  have haccounted : Accounted s := by
    apply h.invariant (P := Accounted)
    · exact Perm.refl []
    · exact fun _ _ hs hok => hs.step hok
  exact ⟨haccounted, haccounted.lawful_iff_meets⟩

def zeroAddr : IPv6Addr := ⟨replicate 16 0, rfl⟩

def samplePacket : IPv6Packet := ⟨⟨96, (0, 0, 0), 9, 17, 64, zeroAddr, zeroAddr⟩, ⟨61616, 61616, 9, 0⟩, [1]⟩

def sampleAtt (known : Bool) : Att :=
  ⟨⟨replicate 16 1, rfl⟩, zeroAddr, fun _ => if known then some 7 else none,
    fun _ => if known then some zeroAddr else none, samplePacket⟩

def waitingPacket : Event := .arrive (sampleAtt false) 100 (.toTR samplePacket)

/-- A packet to the transceiver, and one from it with a dispatch byte that no form has. -/
def waitingPackets : State :=
  Machine.run step start [waitingPacket, .arrive (sampleAtt false) 101 (.fromTR [0, 0, 2, 0, 3, 0xFF, 9])]

theorem sweeps_lawful_forwarded : (step waitingPackets (.send (sampleAtt true))).forwarded = [0] ∧
    (step waitingPackets (.send (sampleAtt true))).waiting.map CMsgWaitATT.packet = [.fromTR [9]] ∧
    Accounted (step waitingPackets (.send (sampleAtt true))) := by
  have harrived : Machine.Reachable start step Meets waitingPackets := by
    unfold waitingPackets
    exact Machine.reachable_run ⟨trivial, trivial, trivial⟩
  have hsend : Meets waitingPackets (.send (sampleAtt true)) := ⟨rfl, fun _ h => (nomatch h)⟩
  exact ⟨rfl, rfl, (sweeps_lawful (.step _ harrived hsend)).1⟩

/-- The sweep drops a message that is ten seconds old. -/
theorem checkWaitAttListForTimeout_drops_fresh :
    (step (step start waitingPacket) (.timeout 110)).expired = [0] ∧ ¬ Lawful (step start waitingPacket)
      (.timeout 110) := by
  refine ⟨rfl, fun hlawful => ?_⟩
  have hmeets := (timeout_lawful_iff 110).mp hlawful
  exact absurd (hmeets.2 ⟨0, 100, .toTR samplePacket, false⟩ rfl) (by decide)

end Isa100Gateway.WaitingList
