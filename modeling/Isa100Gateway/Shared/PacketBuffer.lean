import Isa100Gateway.Lib.Buffer
import Isa100Gateway.Lib.Run

/-!
# The packet buffer (`ProtocolPacket.cpp`)

A packet is built between spare room at the front and at the back of one allocation. Pointers are offsets in it, and a `memcpy` that leaves it has no value.
-/

namespace Isa100Gateway

structure PacketBuffer where
  buf : List UInt8
  head : Nat
  tail : Nat
  bufSz : UInt16

inductive PacketOp
  | pushFront (size : UInt16) (input : Vector UInt8 size.toNat)
  | pushBack (size : UInt16) (input : Vector UInt8 size.toNat)
  | popFront (out : Bool) (size : UInt16)
  | popBack (out : Bool) (size : UInt16)

/-- What a call returns, and the bytes that it stores at `out`. -/
structure PacketAnswer where
  success : Bool
  out : List UInt8

namespace PacketBuffer

def setIn (cargoSize headSpare tailSpare : UInt16)
    (buf : Vector UInt8 (headSpare.toNat + cargoSize.toNat + tailSpare.toNat)) : PacketBuffer :=
  ⟨buf.toList, headSpare.toNat, headSpare.toNat + cargoSize.toNat, headSpare + cargoSize + tailSpare⟩

def allocateCopy (cargoOff : UInt32) (size headSpare tailSpare : UInt16) (msg : Option (Vector UInt8 size.toNat))
    (fresh : Nat → UInt8) : Option (Bool × PacketBuffer) :=
  if size.toNat < cargoOff.toNat then some (false, ⟨[], 0, 0, 0⟩)
  else
    let bufSz := headSpare + size + tailSpare
    let buf := (List.range bufSz.toNat).map fresh
    let tail := size.toNat + headSpare.toNat
    match msg with
    | none => some (true, ⟨buf, tail, tail, bufSz⟩)
    | some msg =>
      let head := headSpare.toNat + cargoOff.toNat
      (Buffer.write buf head msg.toList).map fun buf => (true, ⟨buf, head, tail, bufSz⟩)

def pushFront (p : PacketBuffer) (size : UInt16) (input : Vector UInt8 size.toNat) :
    Option (PacketAnswer × PacketBuffer) :=
  if p.head < size.toNat then some (⟨false, []⟩, p)
  else (Buffer.write p.buf (p.head - size.toNat) input.toList).map fun buf =>
    (⟨true, []⟩, { p with buf, head := p.head - size.toNat })

def pushBack (p : PacketBuffer) (size : UInt16) (input : Vector UInt8 size.toNat) :
    Option (PacketAnswer × PacketBuffer) :=
  if p.bufSz.toNat < p.tail + size.toNat then some (⟨false, []⟩, p)
  else (Buffer.write p.buf p.tail input.toList).map fun buf =>
    (⟨true, []⟩, { p with buf, tail := p.tail + size.toNat })

def popFront (p : PacketBuffer) (out : Bool) (size : UInt16) : Option (PacketAnswer × PacketBuffer) :=
  if p.tail < p.head + size.toNat then some (⟨false, []⟩, p)
  else
    let popped := { p with head := p.head + size.toNat }
    if !out then some (⟨true, []⟩, popped)
    else (Buffer.read p.buf p.head size.toNat).map fun bytes => (⟨true, bytes⟩, popped)

/-- After a copy to `out` the code returns 0, which is `false`. -/
def popBack (p : PacketBuffer) (out : Bool) (size : UInt16) : Option (PacketAnswer × PacketBuffer) :=
  if size = 0 then some (⟨true, []⟩, p)
  else if p.tail < p.head + size.toNat then some (⟨false, []⟩, p)
  else
    let popped := { p with tail := p.tail - size.toNat }
    if !out then some (⟨true, []⟩, popped)
    else (Buffer.read p.buf popped.tail size.toNat).map fun bytes => (⟨false, bytes⟩, popped)

def step (p : PacketBuffer) : PacketOp → Option (PacketAnswer × PacketBuffer)
  | .pushFront size input => p.pushFront size input
  | .pushBack size input => p.pushBack size input
  | .popFront out size => p.popFront out size
  | .popBack out size => p.popBack out size

def run (p : PacketBuffer) : List PacketOp → Option (List PacketAnswer × PacketBuffer)
  | [] => some ([], p)
  | op :: ops => (p.step op).bind fun r => (r.2.run ops).map fun rest => (r.1 :: rest.1, rest.2)

def content (p : PacketBuffer) : Option (List UInt8) := Buffer.read p.buf p.head (p.tail - p.head)

end PacketBuffer

structure ByteDeque where
  front : Nat
  content : List UInt8
  back : Nat

namespace ByteDeque

def removed (out : Bool) (bytes : List UInt8) : List UInt8 := if out then bytes else []

/-- A call that does not fit, or that asks for more than there is, is refused. -/
def step (q : ByteDeque) : PacketOp → PacketAnswer × ByteDeque
  | .pushFront size input =>
    if size.toNat ≤ q.front then (⟨true, []⟩, ⟨q.front - size.toNat, input.toList ++ q.content, q.back⟩)
    else (⟨false, []⟩, q)
  | .pushBack size input =>
    if size.toNat ≤ q.back then (⟨true, []⟩, ⟨q.front, q.content ++ input.toList, q.back - size.toNat⟩)
    else (⟨false, []⟩, q)
  | .popFront out size =>
    if size.toNat ≤ q.content.length then
      (⟨true, removed out (q.content.take size.toNat)⟩,
        ⟨q.front + size.toNat, q.content.drop size.toNat, q.back⟩)
    else (⟨false, []⟩, q)
  | .popBack out size =>
    if size.toNat ≤ q.content.length then
      (⟨true, removed out (q.content.drop (q.content.length - size.toNat))⟩,
        ⟨q.front, q.content.take (q.content.length - size.toNat), q.back + size.toNat⟩)
    else (⟨false, []⟩, q)

def run (q : ByteDeque) : List PacketOp → List PacketAnswer × ByteDeque
  | [] => ([], q)
  | op :: ops => ((q.step op).1 :: ((q.step op).2.run ops).1, ((q.step op).2.run ops).2)

/-- The call does not remove bytes from the back into a buffer. -/
def Meets (q : ByteDeque) : PacketOp → Prop
  | .popBack true size => size = 0 ∨ q.content.length < size.toNat
  | _ => True

end ByteDeque

/-- `m_bufSz` is the size of the allocation, and the pointers enclose the content. -/
structure PacketBuffer.Holds (p : PacketBuffer) (q : ByteDeque) : Prop where
  content : (p.buf.drop q.front).take q.content.length = q.content
  room : p.buf.length = q.front + q.content.length + q.back
  head : p.head = q.front
  tail : p.tail = q.front + q.content.length
  bufSz : p.bufSz.toNat = p.buf.length

section Steps

variable {p : PacketBuffer} {q : ByteDeque} {size : UInt16} {ops : List PacketOp}

open PacketBuffer
open List (append_assoc drop_append_of_le_length drop_drop drop_left' drop_take length_append length_drop length_take
  length_take_of_le take_left' take_length_add_append take_take)

section

variable (h : p.Holds q)
include h

/-- Whatever a deque refuses, the packet refuses without a change. -/
theorem PacketBuffer.Holds.refused {op : PacketOp} (hop : (q.step op).1.success = false) :
    p.step op = some (⟨false, []⟩, p) := by
  obtain ⟨-, hroom, hhead, htail, hbufSz⟩ := h
  cases op <;> simp only [ByteDeque.step] at hop <;> split at hop
  case pushFront.isFalse => rw [PacketBuffer.step, pushFront, if_pos (by omega)]
  case pushBack.isFalse => rw [PacketBuffer.step, pushBack, if_pos (by omega)]
  case popFront.isFalse => rw [PacketBuffer.step, popFront, if_pos (by omega)]
  case popBack.isFalse size hfits =>
    have hsome : size ≠ 0 := fun hzero => hfits (hzero ▸ Nat.zero_le _)
    rw [PacketBuffer.step, popBack, if_neg hsome, if_pos (by omega)]
  all_goals cases hop

theorem PacketBuffer.Holds.pushFront (input : Vector UInt8 size.toNat) (hfits : size.toNat ≤ q.front) :
    ∃ p', p.pushFront size input = some (⟨true, []⟩, p') ∧
      p'.Holds ⟨q.front - size.toNat, input.toList ++ q.content, q.back⟩ ∧ p'.bufSz = p.bufSz := by
  obtain ⟨hcontent, hroom, hhead, htail, hbufSz⟩ := h
  have hinput := input.length_toList
  rw [PacketBuffer.pushFront, if_neg (by omega), Buffer.write, if_pos (by omega)]
  refine ⟨_, rfl, ⟨?_, ?_, ?_, ?_, ?_⟩, rfl⟩ <;> dsimp only
  · have hfront : q.front - size.toNat + size.toNat = q.front := Nat.sub_add_cancel hfits
    rw [hhead, hinput, hfront, append_assoc, drop_left' (length_take_of_le (by omega)), length_append,
      take_length_add_append, hcontent]
  · simp
    omega
  · rw [hhead]
  · rw [length_append, htail]
    omega
  · simp
    omega

theorem PacketBuffer.Holds.pushBack (input : Vector UInt8 size.toNat) (hfits : size.toNat ≤ q.back) :
    ∃ p', p.pushBack size input = some (⟨true, []⟩, p') ∧
      p'.Holds ⟨q.front, q.content ++ input.toList, q.back - size.toNat⟩ ∧ p'.bufSz = p.bufSz := by
  obtain ⟨hcontent, hroom, hhead, htail, hbufSz⟩ := h
  have hinput := input.length_toList
  rw [PacketBuffer.pushBack, if_neg (by omega), Buffer.write, if_pos (by omega)]
  refine ⟨_, rfl, ⟨?_, ?_, hhead, ?_, ?_⟩, rfl⟩ <;> dsimp only
  · have hbefore : (p.buf.take p.tail).drop q.front = q.content := by
      rw [drop_take, htail, Nat.add_sub_cancel_left, hcontent]
    rw [append_assoc, drop_append_of_le_length (by rw [length_take]; omega), hbefore, length_append,
      take_length_add_append, take_left' rfl]
  · simp
    omega
  · rw [length_append, htail]
    omega
  · simp
    omega

theorem PacketBuffer.Holds.take_content {n : Nat} (hn : n ≤ q.content.length) :
    (p.buf.drop q.front).take n = q.content.take n := by
  conv_rhs => rw [← h.content]
  rw [take_take, Nat.min_eq_left hn]

theorem PacketBuffer.Holds.popFront (out : Bool) (hfits : size.toNat ≤ q.content.length) :
    ∃ p', p.popFront out size = some (⟨true, ByteDeque.removed out (q.content.take size.toNat)⟩, p') ∧
      p'.Holds ⟨q.front + size.toNat, q.content.drop size.toNat, q.back⟩ ∧ p'.bufSz = p.bufSz := by
  have htake := h.take_content hfits
  obtain ⟨hcontent, hroom, hhead, htail, hbufSz⟩ := h
  have hread : Buffer.read p.buf p.head size.toNat = some (q.content.take size.toNat) := by
    rw [Buffer.read, if_pos (by omega), hhead, htake]
  have hholds : PacketBuffer.Holds { p with head := p.head + size.toNat }
      ⟨q.front + size.toNat, q.content.drop size.toNat, q.back⟩ := by
    refine ⟨?_, ?_, ?_, ?_, hbufSz⟩ <;> dsimp only
    · rw [← drop_drop, length_drop, ← drop_take, hcontent]
    · rw [length_drop]
      omega
    · rw [hhead]
    · rw [length_drop]
      omega
  rw [PacketBuffer.popFront, if_neg (by omega), hread]
  cases out with
  | false => exact ⟨_, rfl, hholds, rfl⟩
  | true => exact ⟨_, rfl, hholds, rfl⟩

theorem PacketBuffer.Holds.popBack (hfits : size.toNat ≤ q.content.length) :
    ∃ p', p.popBack false size = some (⟨true, []⟩, p') ∧
      p'.Holds ⟨q.front, q.content.take (q.content.length - size.toNat), q.back + size.toNat⟩ ∧ p'.bufSz = p.bufSz := by
  by_cases hzero : size = 0
  · subst hzero
    refine ⟨p, if_pos rfl, ?_, rfl⟩
    simpa using h
  have htake := h.take_content (Nat.sub_le q.content.length size.toNat)
  obtain ⟨hcontent, hroom, hhead, htail, hbufSz⟩ := h
  rw [PacketBuffer.popBack, if_neg hzero, if_neg (by omega)]
  refine ⟨_, rfl, ⟨?_, ?_, hhead, ?_, hbufSz⟩, rfl⟩ <;> dsimp only
  · rw [length_take_of_le (Nat.sub_le ..), htake]
  · rw [length_take_of_le (Nat.sub_le ..)]
    omega
  · rw [length_take_of_le (Nat.sub_le ..)]
    omega

theorem PacketBuffer.Holds.refuses {op : PacketOp} (hop : q.step op = (⟨false, []⟩, q)) :
    ∃ p', p.step op = some ((q.step op).1, p') ∧ p'.Holds (q.step op).2 ∧ p'.bufSz = p.bufSz := by
  rw [hop]
  exact ⟨p, h.refused (by rw [hop]), h, rfl⟩

/-- What a call does to the packet: it answers as the deque does. -/
theorem PacketBuffer.Holds.step (op : PacketOp) (hop : q.Meets op) :
    ∃ p', p.step op = some ((q.step op).1, p') ∧ p'.Holds (q.step op).2 ∧ p'.bufSz = p.bufSz := by
  cases op with
  | pushFront size input =>
    by_cases hfits : size.toNat ≤ q.front
    · rw [ByteDeque.step, if_pos hfits]
      exact h.pushFront input hfits
    · exact h.refuses (if_neg hfits)
  | pushBack size input =>
    by_cases hfits : size.toNat ≤ q.back
    · rw [ByteDeque.step, if_pos hfits]
      exact h.pushBack input hfits
    · exact h.refuses (if_neg hfits)
  | popFront out size =>
    by_cases hfits : size.toNat ≤ q.content.length
    · rw [ByteDeque.step, if_pos hfits]
      exact h.popFront out hfits
    · exact h.refuses (if_neg hfits)
  | popBack out size =>
    by_cases hfits : size.toNat ≤ q.content.length
    · rw [ByteDeque.step, if_pos hfits]
      cases out with
      | false => exact h.popBack hfits
      | true =>
        obtain rfl : size = 0 := hop.resolve_right (Nat.not_lt.mpr hfits)
        refine ⟨p, ?_, by simpa using h, rfl⟩
        simp [PacketBuffer.step, PacketBuffer.popBack, ByteDeque.removed]
    · exact h.refuses (if_neg hfits)

theorem PacketBuffer.Holds.run (hops : Machine.Along ByteDeque.Meets (fun q op => (q.step op).2) q ops) :
    ∃ p', p.run ops = some ((q.run ops).1, p') ∧ p'.Holds (q.run ops).2 ∧ p'.bufSz = p.bufSz := by
  induction ops generalizing p q with
  | nil => exact ⟨p, rfl, h, rfl⟩
  | cons op ops ih =>
    obtain ⟨p₁, hstep, hholds, hbufSz⟩ := h.step op hops.1
    obtain ⟨p', hrun, hholds', hbufSz'⟩ := ih hholds hops.2
    refine ⟨p', ?_, hholds', hbufSz'.trans hbufSz⟩
    rw [PacketBuffer.run, hstep, Option.bind_some, hrun]
    rfl

theorem PacketBuffer.Holds.content_eq : p.content = some q.content := by
  obtain ⟨hcontent, hroom, hhead, htail, -⟩ := h
  have hlen : p.tail - p.head = q.content.length := by omega
  rw [PacketBuffer.content, Buffer.read, if_pos (by omega), hlen, hhead, hcontent]

end

end Steps

inductive PacketInit
  | setIn (cargoSize headSpare tailSpare : UInt16)
      (buf : Vector UInt8 (headSpare.toNat + cargoSize.toNat + tailSpare.toNat))
  | allocateCopy (cargoOff : UInt32) (size headSpare tailSpare : UInt16) (msg : Option (Vector UInt8 size.toNat))
      (fresh : Nat → UInt8)

namespace PacketInit

open List (append_assoc drop_left' length_append length_drop length_map length_range length_take length_take_of_le range
  take_left' take_zero)

def packet : PacketInit → Option (Bool × PacketBuffer)
  | .setIn cargoSize headSpare tailSpare buf => some (true, .setIn cargoSize headSpare tailSpare buf)
  | .allocateCopy cargoOff size headSpare tailSpare msg fresh =>
    PacketBuffer.allocateCopy cargoOff size headSpare tailSpare msg fresh

/-- The room for a message that is not given counts as room at the front. -/
def deque : PacketInit → ByteDeque
  | .setIn cargoSize headSpare tailSpare buf =>
    ⟨headSpare.toNat, (buf.toList.drop headSpare.toNat).take cargoSize.toNat, tailSpare.toNat⟩
  | .allocateCopy _ size headSpare tailSpare none _ => ⟨headSpare.toNat + size.toNat, [], tailSpare.toNat⟩
  | .allocateCopy _ _ headSpare tailSpare (some msg) _ => ⟨headSpare.toNat, msg.toList, tailSpare.toNat⟩

def allocated : PacketInit → Nat
  | .setIn size headSpare tailSpare _ | .allocateCopy _ size headSpare tailSpare _ _ =>
    headSpare.toNat + size.toNat + tailSpare.toNat

/-- The sizes add up in 16 bits; a message starts at its first byte, and without one the offset is within the size. -/
def Meets (init : PacketInit) : Prop :=
  init.allocated < 65536 ∧ match init with
    | .setIn .. => True
    | .allocateCopy cargoOff size _ _ none _ => cargoOff.toNat ≤ size.toNat
    | .allocateCopy cargoOff _ _ _ (some _) _ => cargoOff = 0

theorem toNat_sizes {headSpare size tailSpare : UInt16} (h : headSpare.toNat + size.toNat + tailSpare.toNat < 65536) :
    (headSpare + size + tailSpare).toNat = headSpare.toNat + size.toNat + tailSpare.toNat := by
  rw [UInt16.toNat_add, UInt16.toNat_add]
  omega

theorem holds {init : PacketInit} (h : init.Meets) :
    ∃ p, init.packet = some (true, p) ∧ p.Holds init.deque ∧ p.bufSz.toNat = init.allocated := by
  obtain ⟨hsizes, hoff⟩ := h
  cases init with
  | setIn cargoSize headSpare tailSpare buf =>
    have hbufSz := toNat_sizes hsizes
    have hlen : (deque (.setIn cargoSize headSpare tailSpare buf)).content.length = cargoSize.toNat :=
      length_take_of_le (by rw [length_drop, Vector.length_toList]; omega)
    refine ⟨_, rfl, ⟨?_, ?_, rfl, ?_, hbufSz.trans buf.length_toList.symm⟩, hbufSz⟩
    · rw [hlen]
      rfl
    · rw [hlen]
      exact buf.length_toList
    · rw [hlen]
      rfl
  | allocateCopy cargoOff size headSpare tailSpare msg fresh =>
    have hbufSz := toNat_sizes hsizes
    have hfresh : ((range (headSpare + size + tailSpare).toNat).map fresh).length =
        headSpare.toNat + size.toNat + tailSpare.toNat := by
      rw [length_map, length_range, hbufSz]
    cases msg with
    | none =>
      rw [packet, PacketBuffer.allocateCopy, if_neg (Nat.not_lt.mpr hoff)]
      exact ⟨_, rfl, ⟨take_zero, hfresh, Nat.add_comm .., Nat.add_comm .., hbufSz.trans hfresh.symm⟩, hbufSz⟩
    | some msg =>
      obtain rfl : cargoOff = 0 := hoff
      have hmsg := msg.length_toList
      have hfits : headSpare.toNat + msg.toList.length ≤
        ((range (headSpare + size + tailSpare).toNat).map fresh).length := by
        omega
      rw [packet, PacketBuffer.allocateCopy, UInt32.toNat_zero, if_neg (Nat.not_lt_zero _)]
      simp only [Nat.add_zero, Buffer.write]
      rw [if_pos hfits]
      refine ⟨_, rfl, ⟨?_, ?_, rfl, ?_, ?_⟩, hbufSz⟩ <;> dsimp only [deque]
      · rw [append_assoc, drop_left' (length_take_of_le (by omega)), take_left' rfl]
      · simp only [length_append, length_take, length_drop, hfresh]
        omega
      · rw [hmsg, Nat.add_comm]
      · simp only [length_append, length_take, length_drop, hfresh]
        omega

end PacketInit

namespace PacketBuffer

/-- The answers and the content are those of the deque, with the pointers inside the allocation; what does not fit or asks for too much changes nothing. -/
theorem deque_law (init : PacketInit) (ops : List PacketOp) (hinit : init.Meets)
    (hops : Machine.Along ByteDeque.Meets (fun q op => (q.step op).2) init.deque ops) :
    ∃ start p, init.packet = some (true, start) ∧ start.run ops = some ((init.deque.run ops).1, p) ∧
      p.content = some (init.deque.run ops).2.content ∧ p.head ≤ p.tail ∧ p.tail ≤ p.buf.length ∧
      p.buf.length = init.allocated ∧
      ∀ op, ((init.deque.run ops).2.step op).1.success = false → p.step op = some (⟨false, []⟩, p) := by
  obtain ⟨start, hpacket, hstart, hallocated⟩ := PacketInit.holds hinit
  obtain ⟨p, hrun, hholds, hbufSz⟩ := hstart.run hops
  obtain ⟨-, hroom, hhead, htail, hsize⟩ := id hholds
  refine ⟨start, p, hpacket, hrun, hholds.content_eq, by omega, by omega, ?_, fun op hop => hholds.refused hop⟩
  rw [← hsize, hbufSz, hallocated]

def sampleInit : PacketInit := .allocateCopy 0 2 1 1 (some #v[1, 2]) fun _ => 0

def sampleOps : List PacketOp := [.pushFront 1 #v[9], .popBack false 1, .pushBack 3 #v[5, 6, 7], .popFront true 2]

theorem deque_law_sample : sampleInit.Meets ∧
    Machine.Along ByteDeque.Meets (fun q op => (q.step op).2) sampleInit.deque sampleOps ∧
    ∃ start p, sampleInit.packet = some (true, start) ∧
      start.run sampleOps = some ([⟨true, []⟩, ⟨true, []⟩, ⟨false, []⟩, ⟨true, [9, 1]⟩], p) ∧ p.content = some [] := by
  have hinit : sampleInit.Meets := ⟨by decide, rfl⟩
  have hops : Machine.Along ByteDeque.Meets (fun q op => (q.step op).2) sampleInit.deque sampleOps :=
    ⟨trivial, trivial, trivial, trivial, trivial⟩
  obtain ⟨start, p, hpacket, hrun, hcontent, -⟩ := deque_law sampleInit sampleOps hinit hops
  exact ⟨hinit, hops, start, p, hpacket, hrun, hcontent⟩

/-- A byte goes out with the answer `false`, a message behind an offset leaves the allocation, and a tail is beyond the wrapped size. -/
theorem deque_law_broken :
    (∃ start p, sampleInit.packet = some (true, start) ∧ start.step (.popBack true 1) = some (⟨false, [2]⟩, p) ∧
      p.content = some [1] ∧ (sampleInit.deque.step (.popBack true 1)).1 = ⟨true, [2]⟩) ∧
    (PacketInit.allocateCopy 1 2 0 0 (some #v[1, 2]) fun _ => 0).packet = none ∧
    ∀ buf, (setIn 1 65535 0 buf).bufSz.toNat < (setIn 1 65535 0 buf).tail := by
  refine ⟨⟨_, _, rfl, rfl, rfl, rfl⟩, rfl, fun buf => ?_⟩
  exact (by decide : (65535 + 1 + 0 : UInt16).toNat < (65535 : UInt16).toNat + (1 : UInt16).toNat)

end PacketBuffer

end Isa100Gateway
