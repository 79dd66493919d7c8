import Isa100Gateway.Shared.PacketStream
import Isa100Gateway.Lib.Delimited
import Isa100Gateway.Lib.Bytes

/-!
# What a packet stream delivers

With the later frame parser, the packets that are read are the messages that were written, however the link cuts the bytes into reads. After damaged bytes the next frames are read too, unless a frame that the damage left open is still in the buffer: a second STX makes the parser drop everything it has.
-/

namespace Isa100Gateway.PacketStream

open Delimited FrameParser PacketStream.Stream List

theorem not_marker (b : UInt8) : (b = STX ∨ b = ETX ∨ b = CHX → ~~~b ≠ STX ∧ ~~~b ≠ ETX) ∧ ~~~(~~~b) = b := by
  revert b
  apply Bytes.forall_uint8
  decide +kernel

theorem plain_escape (b : UInt8) : Plain STX ETX (escape b) := by
  rw [escape]
  split
  · next hmarker =>
    intro c hc
    rcases mem_cons.mp hc with rfl | hc
    · exact ⟨by decide, by decide⟩
    · rw [mem_singleton.mp hc]
      exact (not_marker b).1 hmarker
  · next hplain =>
    intro c hc
    rw [mem_singleton.mp hc]
    exact ⟨fun heq => hplain (.inl heq), fun heq => hplain (.inr (.inl heq))⟩

theorem plain_flatMap_escape (msg : List UInt8) : Plain STX ETX (msg.flatMap escape) := by
  intro c hc
  obtain ⟨b, -, hcb⟩ := mem_flatMap.mp hc
  exact plain_escape b c hcb

theorem unescape_cons {after : Option UInt8} {b : UInt8} (h : b ≠ CHX) (rest : List UInt8) :
    unescape after (b :: rest) = (unescape after rest).map (b :: ·) := by
  cases rest with
  | nil =>
    change (if b ≠ CHX then some [b] else _) = some [b]
    rw [if_pos h]
  | cons c rest => rw [unescape, if_pos h]

theorem unescape_escape (after : Option UInt8) (msg : List UInt8) :
    unescape after (msg.flatMap escape) = some msg := by
  induction msg with
  | nil => rfl
  | cons b msg ih =>
    rw [flatMap_cons, escape]
    split
    · rw [cons_append, singleton_append, unescape, if_neg (not_not.mpr rfl), ih, Option.map_some, (not_marker b).2]
    · next hplain =>
      rw [singleton_append, unescape_cons (fun heq => hplain (.inr (.inr heq))), ih, Option.map_some]

theorem unescape_isSome (next : UInt8) (body : List UInt8) : (unescape (some next) body).isSome := by
  fun_induction unescape (some next) body with
  | case1 => rfl
  | case2 => rfl
  | case3 => rfl
  | case4 b c rest hb ih => rwa [Option.isSome_map]
  | case5 b c rest hb ih => rwa [Option.isSome_map]

theorem unescapeMsg_isSome (msg : List UInt8) : (nivisV3.UnescapeMsg msg).isSome := by
  rw [UnescapeMsg]
  cases hlast : msg.getLast? with
  | none =>
    rw [getLast?_eq_none_iff.mp hlast]
    rfl
  | some next => exact unescape_isSome next _

variable {noise body rest : List UInt8}

theorem scan_plain (i : Nat) (hbody : Plain STX ETX body) (rest : List UInt8) :
    scan i (body ++ rest) = scan (i + body.length) rest := by
  induction body generalizing i with
  | nil => rfl
  | cons b body ih =>
    obtain ⟨hstx, hetx⟩ := hbody b mem_cons_self
    rw [cons_append, scan, if_neg hstx, if_neg hetx,
      ih (i + 1) fun other hother => hbody other (mem_cons_of_mem b hother), length_cons, Nat.add_right_comm,
      Nat.add_assoc]

theorem dropWhile_noise (h : ∀ b ∈ noise, b ≠ STX) (rest : List UInt8) :
    (noise ++ rest).dropWhile (· ≠ STX) = rest.dropWhile (· ≠ STX) :=
  dropWhile_append_of_pos fun b hb => decide_eq_true (h b hb)

theorem dropWhile_stx (rest : List UInt8) : (STX :: rest).dropWhile (· ≠ STX) = STX :: rest :=
  dropWhile_cons_of_neg (by decide)

section Parse

variable (parser : FrameParser)

section

variable (h : ∀ b ∈ noise, b ≠ STX)
include h

theorem parse_noise : parser.ParseRxMessage noise = (0, []) := by
  have hdrop := dropWhile_noise h []
  rw [append_nil, dropWhile_nil] at hdrop
  rw [ParseRxMessage, hdrop]

theorem parse_stx (rest : List UInt8) : parser.ParseRxMessage (noise ++ STX :: rest) =
      match scan 1 rest with
      | .stxAgain => (0, [])
      | .etx i => (parser.lengthAt i, STX :: rest)
      | .notFound => (0, STX :: rest) := by
  cases hscan : scan 1 rest <;> simp only [ParseRxMessage, dropWhile_noise h, dropWhile_stx, hscan]

theorem parse_open (hbody : Plain STX ETX body) :
    parser.ParseRxMessage (noise ++ STX :: body) = (0, STX :: body) := by
  have hscan := scan_plain 1 hbody []
  rw [append_nil] at hscan
  rw [parse_stx parser h, hscan]
  rfl

theorem parse_closed (hbody : Plain STX ETX body) : parser.ParseRxMessage (noise ++ STX :: (body ++ ETX :: rest)) =
      (parser.lengthAt (1 + body.length), STX :: (body ++ ETX :: rest)) := by
  rw [parse_stx parser h, scan_plain 1 hbody]
  rfl

theorem parse_stxAgain (hbody : Plain STX ETX body) :
    parser.ParseRxMessage (noise ++ STX :: (body ++ STX :: rest)) = (0, []) := by
  rw [parse_stx parser h, scan_plain 1 hbody]
  rfl

end

end Parse

/-- The buffer and the link hold quiet bytes, then the frames of some messages, and then any bytes. -/
structure Ready (front : List UInt8) (messages : List (List UInt8)) (tail : List UInt8) (stream : Stream) : Prop where
  bytes : stream.m_buf ++ stream.link = front ++ (written messages ++ tail)
  quiet : Quiet STX ETX front
  fits : stream.m_buf.length ≤ bufSize

def Fit (messages : List (List UInt8)) : Prop := ∀ msg ∈ messages, (EscapeMsg msg).length ≤ bufSize

instance (messages : List (List UInt8)) : Decidable (Fit messages) := inferInstanceAs (Decidable (∀ _ ∈ _, _))

def distance (stream : Stream) : Nat := 2 * stream.link.length + stream.m_buf.length

variable {front tail msg : List UInt8} {messages : List (List UInt8)} {stream : Stream}

theorem written_cons (msg : List UInt8) (messages : List (List UInt8)) (tail : List UInt8) :
    written (msg :: messages) ++ tail = STX :: (msg.flatMap escape ++ ETX :: (written messages ++ tail)) := by
  simp only [written, flatMap_cons, EscapeMsg, cons_append, append_assoc, nil_append]

inductive Parsed (front : List UInt8) (msg : List UInt8) (messages : List (List UInt8)) (tail link : List UInt8) :
    Int × List UInt8 → Prop
  | nothing {m_buf front' : List UInt8} (hready : Ready front' (msg :: messages) tail ⟨m_buf, link⟩)
    (hempty : front = [] → front' = []) (hlink : link ≠ [])
    (hfull : bufSize ≤ m_buf.length → front ≠ [] ∧ ∃ front', Ready front' (msg :: messages) tail ⟨[], link⟩) :
    Parsed front msg messages tail link (0, m_buf)
  | damaged {body rest front' : List UInt8} (hfront : front ≠ []) (hbody : Plain STX ETX body)
    (hready : Ready front' (msg :: messages) tail ⟨rest, link⟩) :
    Parsed front msg messages tail link (nivisV3.lengthAt (1 + body.length), STX :: (body ++ ETX :: rest))
  | message {rest : List UInt8} (hready : Ready [] messages tail ⟨rest, link⟩) :
    Parsed front msg messages tail link
      (nivisV3.lengthAt (1 + (msg.flatMap escape).length), STX :: (msg.flatMap escape ++ ETX :: rest))

/-- Where the first frame of a stream comes from: it is the frame of the message, or quiet bytes before it. -/
def Comes (front msg : List UInt8) (messages : List (List UInt8)) (tail noise body rest : List UInt8) : Prop :=
  (noise = front ∧ body = msg.flatMap escape ∧ rest = written messages ++ tail) ∨
    ∃ front', Quiet STX ETX front' ∧ front = noise ++ STX :: (body ++ ETX :: front') ∧
      rest = front' ++ STX :: (msg.flatMap escape ++ ETX :: (written messages ++ tail))

theorem Comes.ready {m_buf link noise' : List UInt8} (h : Comes front msg messages tail noise body rest)
    (hbody : Plain STX ETX body) (hnoise : ∀ b ∈ noise', b ≠ STX)
    (hbytes : m_buf ++ link = noise' ++ STX :: (body ++ ETX :: rest)) (hsize : m_buf.length ≤ bufSize)
    (hempty : noise = [] → noise' = []) :
    ∃ front', Ready front' (msg :: messages) tail ⟨m_buf, link⟩ ∧ (front = [] → front' = []) := by
  rcases h with ⟨rfl, rfl, rfl⟩ | ⟨front', hfront', rfl, rfl⟩
  · have hquiet : Quiet STX ETX (noise' ++ []) := Quiet.of_noise hnoise .nil
    rw [append_nil] at hquiet
    exact ⟨noise', ⟨hbytes.trans (congrArg _ (written_cons msg messages tail).symm), hquiet, hsize⟩, hempty⟩
  · refine ⟨noise' ++ STX :: (body ++ ETX :: front'), ⟨?_, Quiet.of_noise hnoise (.closed hbody hfront'), hsize⟩, ?_⟩
    · rw [hbytes, written_cons]
      simp only [append_assoc, cons_append]
    · intro hnil
      exact absurd hnil (append_ne_nil_of_right_ne_nil noise (cons_ne_nil _ _))

theorem parsed (h : Ready front (msg :: messages) tail stream) (hfit : (EscapeMsg msg).length ≤ bufSize) :
    Parsed front msg messages tail stream.link (nivisV3.ParseRxMessage stream.m_buf) ∧
      (nivisV3.ParseRxMessage stream.m_buf).2.length ≤ stream.m_buf.length := by
  obtain ⟨m_buf, link⟩ := stream
  obtain ⟨hbytes, hquiet, hsize⟩ := h
  dsimp only at hbytes hsize ⊢
  rw [written_cons] at hbytes
  obtain ⟨noise, body, rest, hfirst, hnoise, hbody, hwhere⟩ :=
    hquiet.first (plain_flatMap_escape msg) (written messages ++ tail)
  replace hwhere : Comes front msg messages tail noise body rest := hwhere
  rw [hfirst] at hbytes
  rcases arrived_cases hbytes with ⟨noise', hsplit, hlink⟩ | ⟨body₁, body₂, hsplit, hbuf, hlink⟩ | ⟨rest₁, hbuf, hrest⟩
  · -- only noise has arrived
    have hbuf : ∀ b ∈ m_buf, b ≠ STX := fun b hb => hnoise b (by rw [hsplit]; exact mem_append_left _ hb)
    have hnoise' : ∀ b ∈ noise', b ≠ STX := fun b hb => hnoise b (by rw [hsplit]; exact mem_append_right _ hb)
    have hempty : noise = [] → noise' = [] := fun hnil => (append_eq_nil_iff.mp (hsplit.symm.trans hnil)).2
    have hnow : [] ++ link = noise' ++ STX :: (body ++ ETX :: rest) := hlink
    obtain ⟨front', hready, hfront'⟩ := hwhere.ready hbody hnoise' hnow (Nat.zero_le _) hempty
    rw [parse_noise nivisV3 hbuf]
    refine ⟨.nothing hready hfront' ?_ fun hfull => absurd hfull (by decide), Nat.zero_le _⟩
    rw [hlink]
    exact append_ne_nil_of_right_ne_nil noise' (cons_ne_nil _ _)
  · -- the first frame has arrived in part
    have hbody₁ : Plain STX ETX body₁ := fun b hb => hbody b (by rw [hsplit]; exact mem_append_left _ hb)
    have hkept : (STX :: body₁).length ≤ m_buf.length := by
      rw [hbuf, length_append]
      exact Nat.le_add_left _ _
    have hnow : (STX :: body₁) ++ link = [] ++ STX :: (body ++ ETX :: rest) := by
      rw [hlink, hsplit]
      simp only [append_assoc, cons_append, nil_append]
    obtain ⟨front', hready, hfront'⟩ := hwhere.ready hbody (fun b hb => absurd hb not_mem_nil) hnow
      (hkept.trans hsize) fun _ => rfl
    rw [hbuf, parse_open nivisV3 hnoise hbody₁, ← hbuf]
    refine ⟨.nothing hready hfront' ?_ fun hfull => ?_, hkept⟩
    · rw [hlink]
      exact append_ne_nil_of_right_ne_nil body₂ (cons_ne_nil _ _)
    rcases hwhere with ⟨-, rfl, -⟩ | ⟨front'', hfront'', rfl, rfl⟩
    · -- the frame of the message fits, so the buffer cannot be full before its end
      have hlength := congrArg length hsplit
      simp only [EscapeMsg, length_cons, length_append, length_nil] at hfit hlength hfull
      omega
    · refine ⟨append_ne_nil_of_right_ne_nil noise (cons_ne_nil _ _), body₂ ++ ETX :: front'', ?_, ?_,
        Nat.zero_le _⟩
      · rw [hlink, written_cons]
        simp only [append_assoc, cons_append, nil_append]
      · have hbody₂ : ∀ b ∈ body₂, b ≠ STX :=
          fun b hb => (hbody b (by rw [hsplit]; exact mem_append_right _ hb)).1
        exact Quiet.of_noise hbody₂ (.noise (by decide) hfront'')
  · -- the first frame is complete
    have hkept : (STX :: (body ++ ETX :: rest₁)).length ≤ m_buf.length := by
      rw [hbuf, length_append]
      exact Nat.le_add_left _ _
    have hrest₁ : rest₁.length ≤ bufSize := by
      simp only [length_cons, length_append] at hkept
      omega
    rw [hbuf, parse_closed nivisV3 hnoise hbody, ← hbuf]
    refine ⟨?_, hkept⟩
    rcases hwhere with ⟨-, rfl, hrest'⟩ | ⟨front', hfront', rfl, hrest'⟩
    · exact .message ⟨hrest.symm.trans hrest', .nil, hrest₁⟩
    · refine .damaged (append_ne_nil_of_right_ne_nil noise (cons_ne_nil _ _)) hbody
        ⟨?_, hfront', hrest₁⟩
      rw [written_cons]
      exact hrest.symm.trans hrest'

/-- The stream after a read: it is still before the message, or the message was the packet. -/
inductive After (front msg : List UInt8) (messages : List (List UInt8)) (tail : List UInt8) :
    Option (List UInt8) → Stream → Prop
  | before {packet : Option (List UInt8)} {front' : List UInt8} {stream : Stream}
    (hready : Ready front' (msg :: messages) tail stream) (hempty : front = [] → front' = [] ∧ packet = none) :
    After front msg messages tail packet stream
  | message {stream : Stream} (hready : Ready [] messages tail stream) : After front msg messages tail (some msg) stream

theorem take_frame (body rest : List UInt8) :
    (STX :: (body ++ ETX :: rest)).take (1 + body.length + 1) = STX :: (body ++ [ETX]) ∧
      (STX :: (body ++ ETX :: rest)).drop (1 + body.length + 1) = rest := by
  have hlength : (STX :: (body ++ [ETX])).length = 1 + body.length + 1 := by
    simp only [length_cons, length_append, length_nil]
    omega
  have hsplit : STX :: (body ++ ETX :: rest) = (STX :: (body ++ [ETX])) ++ rest := by
    simp only [cons_append, append_assoc, nil_append]
  rw [hsplit]
  exact ⟨take_left' hlength, drop_left' hlength⟩

theorem unescapeMsg_frame (body : List UInt8) :
    nivisV3.UnescapeMsg (STX :: (body ++ [ETX])) = unescape (some ETX) body := by
  have hlast : (STX :: (body ++ [ETX])).getLast? = some ETX := by
    rw [← cons_append]
    exact getLast?_concat
  rw [UnescapeMsg, hlast, tail_cons, dropLast_concat]

theorem Parsed.take {link m_buf : List UInt8} {rb : Int} (h : Parsed front msg messages tail link (rb, m_buf))
    (hrb : 0 < rb) : ∃ packet stream, (Stream.mk m_buf link).takePacket nivisV3 rb.toNat = some (packet, stream) ∧
      After front msg messages tail packet stream ∧ distance stream < distance ⟨m_buf, link⟩ := by
  cases h with
  | nothing => exact absurd hrb (by decide)
  | @damaged body rest front' hfront hbody hready =>
    obtain ⟨htake, hdrop⟩ := take_frame body rest
    obtain ⟨packet, hpacket⟩ := Option.isSome_iff_exists.mp (unescape_isSome ETX body)
    refine ⟨some packet, ⟨rest, link⟩, ?_, .before hready fun hnil => absurd hnil hfront, ?_⟩
    · change (nivisV3.UnescapeMsg (List.take (1 + body.length + 1) _)).map _ = _
      rw [htake, unescapeMsg_frame, hpacket, Option.map_some]
      exact congrArg (fun left => some (some packet, Stream.mk left link)) hdrop
    · simp only [distance, length_cons, length_append]
      omega
  | @message rest hready =>
    obtain ⟨htake, hdrop⟩ := take_frame (msg.flatMap escape) rest
    refine ⟨some msg, ⟨rest, link⟩, ?_, .message hready, ?_⟩
    · change (nivisV3.UnescapeMsg (List.take (1 + (msg.flatMap escape).length + 1) _)).map _ = _
      rw [htake, unescapeMsg_frame, unescape_escape, Option.map_some]
      exact congrArg (fun left => some (some msg, Stream.mk left link)) hdrop
    · simp only [distance, length_cons, length_append]
      omega

def LinkRead.gives : LinkRead → Bool
  | .data limit => decide (0 < limit)
  | _ => false

/-- What `GetMsgLen` leaves behind: no message, or one that can be taken. -/
def Got (front msg : List UInt8) (messages : List (List UInt8)) (tail : List UInt8) (far : Nat) (gives : Bool)
    (result : Int × Stream) : Prop :=
  (result.1 ≤ 0 ∧ (∃ front', Ready front' (msg :: messages) tail result.2 ∧ (front = [] → front' = [])) ∧
    distance result.2 ≤ far ∧ (gives → distance result.2 < far)) ∨
  (0 < result.1 ∧ ∃ packet stream, result.2.takePacket nivisV3 result.1.toNat = some (packet, stream) ∧
    After front msg messages tail packet stream ∧ distance stream < far)

variable {packet : Option (List UInt8)} {front₁ : List UInt8}

theorem After.of_front (h : After front₁ msg messages tail packet stream) (hfront : front = [] → front₁ = []) :
    After front msg messages tail packet stream := by
  cases h with
  | before hready hempty => exact .before hready fun hnil => hempty (hfront hnil)
  | message hready => exact .message hready

theorem Got.of_front {far far₁ : Nat} {gives : Bool} {result : Int × Stream}
    (h : Got front₁ msg messages tail far₁ gives result) (hfront : front = [] → front₁ = []) (hfar : far₁ ≤ far) :
    Got front msg messages tail far gives result := by
  rcases h with ⟨hrb, ⟨front', hready, hempty⟩, hnear, hcloser⟩ | ⟨hrb, packet, after, htake, hafter, hcloser⟩
  · exact .inl ⟨hrb, ⟨front', hready, fun hnil => hempty (hfront hnil)⟩, hnear.trans hfar,
      fun hgives => (hcloser hgives).trans_le hfar⟩
  · exact .inr ⟨hrb, packet, after, htake, hafter.of_front hfront, hcloser.trans_le hfar⟩

theorem readLink_got (h : Ready front (msg :: messages) tail stream) (hfit : (EscapeMsg msg).length ≤ bufSize)
    (hroom : stream.m_buf.length < bufSize) (hlink : stream.link ≠ []) (read : LinkRead) :
    Got front msg messages tail (distance stream) read.gives (stream.readLink nivisV3 read) := by
  have hsame : ∃ front', Ready front' (msg :: messages) tail stream ∧ (front = [] → front' = []) := ⟨front, h, id⟩
  cases read with
  | interrupted => exact .inl ⟨(by decide : (-1 : Int) ≤ 0), hsame, Nat.le_refl _, nofun⟩
  | failed => exact .inl ⟨Int.le_refl 0, hsame, Nat.le_refl _, nofun⟩
  | notOpen => exact .inl ⟨Int.le_refl 0, hsame, Nat.le_refl _, nofun⟩
  | data limit =>
    rw [readLink]
    split
    · next hnone =>
      refine .inl ⟨Int.le_refl 0, hsame, Nat.le_refl _, fun hgives => ?_⟩
      have hlimit : 0 < limit := of_decide_eq_true hgives
      rcases take_eq_nil_iff.mp hnone with hcount | hempty
      · omega
      · exact absurd hempty hlink
    · next hsome =>
      have hlength : 0 < (stream.link.take (min limit (bufSize - stream.m_buf.length))).length :=
        length_pos_iff.mpr hsome
      have hready : Ready front (msg :: messages) tail
          ⟨stream.m_buf ++ stream.link.take (min limit (bufSize - stream.m_buf.length)),
            stream.link.drop (min limit (bufSize - stream.m_buf.length))⟩ := by
        refine ⟨?_, h.quiet, ?_⟩
        · rw [append_assoc, take_append_drop, h.bytes]
        · rw [length_append, length_take]
          omega
      obtain ⟨hparsed, hshort⟩ := parsed hready hfit
      have hnear : distance ⟨(nivisV3.ParseRxMessage (stream.m_buf ++
          stream.link.take (min limit (bufSize - stream.m_buf.length)))).2,
            stream.link.drop (min limit (bufSize - stream.m_buf.length))⟩ < distance stream := by
        simp only [length_append, length_take] at hshort hlength
        simp only [distance, length_drop]
        omega
      generalize nivisV3.ParseRxMessage _ = found at hparsed hshort hnear
      obtain ⟨rb, m_buf⟩ := found
      by_cases hrb : 0 < rb
      · obtain ⟨packet, after, htake, hafter, hcloser⟩ := hparsed.take hrb
        exact .inr ⟨hrb, packet, after, htake, hafter, hcloser.trans hnear⟩
      · cases hparsed with
        | @nothing _ front' hready' hempty => exact .inl ⟨Int.le_refl 0, ⟨front', hready', hempty⟩, hnear.le,
          fun _ => hnear⟩
        | damaged => exact absurd (Int.natCast_pos.mpr (Nat.succ_pos _)) hrb
        | message => exact absurd (Int.natCast_pos.mpr (Nat.succ_pos _)) hrb

theorem getMsgLen_got (h : Ready front (msg :: messages) tail stream) (hfit : (EscapeMsg msg).length ≤ bufSize)
    (read : LinkRead) : Got front msg messages tail (distance stream) read.gives (stream.GetMsgLen nivisV3 read) := by
  obtain ⟨hparsed, hshort⟩ := parsed h hfit
  rw [GetMsgLen]
  generalize nivisV3.ParseRxMessage _ = found at hparsed hshort
  obtain ⟨rb, m_buf⟩ := found
  have hnear : distance ⟨m_buf, stream.link⟩ ≤ distance stream := Nat.add_le_add_left hshort _
  dsimp only
  by_cases hrb : 0 < rb
  · rw [if_pos hrb]
    obtain ⟨packet, after, htake, hafter, hcloser⟩ := hparsed.take hrb
    exact .inr ⟨hrb, packet, after, htake, hafter, hcloser.trans_le hnear⟩
  rw [if_neg hrb]
  cases hparsed with
  | damaged => exact absurd (Int.natCast_pos.mpr (Nat.succ_pos _)) hrb
  | message => exact absurd (Int.natCast_pos.mpr (Nat.succ_pos _)) hrb
  | @nothing _ front' hready hempty hlink hfull =>
  by_cases hdrop : bufSize ≤ m_buf.length
  · obtain ⟨hfront, front₁, hready₁⟩ := hfull hdrop
    rw [if_pos hdrop]
    exact (readLink_got hready₁ hfit (Nat.zero_lt_succ 511) hlink read).of_front (fun hnil => absurd hnil hfront)
      (le_trans (Nat.add_le_add_left (Nat.zero_le _) _) hnear)
  · rw [if_neg hdrop]
    exact (readLink_got hready hfit (Nat.lt_of_not_le hdrop) hlink read).of_front hempty hnear

def gives (reads : List LinkRead) : Bool := reads.head?.any LinkRead.gives

theorem read_after (h : Ready front (msg :: messages) tail stream) (hfit : (EscapeMsg msg).length ≤ bufSize)
    (reads : List LinkRead) : ∃ packet stream', stream.Read nivisV3 reads = some (packet, stream') ∧
      After front msg messages tail packet stream' ∧ distance stream' ≤ distance stream ∧
        (gives reads → distance stream' < distance stream) := by
  induction reads generalizing front stream with
  | nil => exact ⟨none, stream, rfl, .before h fun hnil => ⟨hnil, rfl⟩, Nat.le_refl _, nofun⟩
  | cons read reads ih =>
    have hgot := getMsgLen_got h hfit read
    rw [Read]
    generalize stream.GetMsgLen nivisV3 read = result at hgot
    obtain ⟨rb, stream₁⟩ := result
    dsimp only
    rcases hgot with ⟨hrb, ⟨front₁, hready, hempty⟩, hnear, hcloser⟩ | ⟨hrb, packet, after, htake, hafter, hcloser⟩
    · rw [if_neg (Int.not_lt.mpr hrb)]
      by_cases hneg : rb < 0
      · rw [if_pos hneg]
        exact ⟨none, stream₁, rfl, .before hready fun hnil => ⟨hempty hnil, rfl⟩, hnear, hcloser⟩
      · rw [if_neg hneg]
        obtain ⟨packet, after, hread, hafter, hle, -⟩ := ih hready
        exact ⟨packet, after, hread, hafter.of_front hempty, hle.trans hnear,
          fun hgives => hle.trans_lt (hcloser hgives)⟩
    · rw [if_pos hrb]
      exact ⟨packet, after, htake, hafter, hcloser.le, fun _ => hcloser⟩

theorem exists_read (stream : Stream) (reads : List LinkRead) :
    ∃ result, stream.Read nivisV3 reads = some result := by
  induction reads generalizing stream with
  | nil => exact ⟨_, rfl⟩
  | cons read reads ih =>
    rw [Read]
    generalize stream.GetMsgLen nivisV3 read = result
    obtain ⟨rb, stream₁⟩ := result
    dsimp only
    split
    · obtain ⟨packet, hpacket⟩ := Option.isSome_iff_exists.mp (unescapeMsg_isSome (stream₁.m_buf.take rb.toNat))
      rw [takePacket, hpacket]
      exact ⟨_, rfl⟩
    · split
      · exact ⟨_, rfl⟩
      · exact ih stream₁

theorem packets_cons {reads : List LinkRead} {stream' : Stream}
    (h : stream.Read nivisV3 reads = some (packet, stream')) (more : List (List LinkRead)) :
    stream.packets nivisV3 (reads :: more) =
      (stream'.packets nivisV3 more).map fun rest => (packet.toList ++ rest.1, rest.2) := by
  rw [packets, h]
  change ((stream'.packets nivisV3 more).bind fun rest => some (packet.toList ++ rest.1, rest.2)) = _
  cases stream'.packets nivisV3 more with
  | none => rfl
  | some rest => rfl

theorem exists_packets (stream : Stream) (reads : List (List LinkRead)) :
    ∃ packets, stream.packets nivisV3 reads = some packets := by
  induction reads generalizing stream with
  | nil => exact ⟨_, rfl⟩
  | cons read reads ih =>
    obtain ⟨⟨packet, stream'⟩, hread⟩ := exists_read stream read
    obtain ⟨packets, hpackets⟩ := ih stream'
    rw [packets_cons hread, hpackets]
    exact ⟨_, rfl⟩

theorem read_empty (reads : List LinkRead) : (Stream.mk [] []).Read nivisV3 reads = some (none, ⟨[], []⟩) := by
  induction reads with
  | nil => rfl
  | cons read reads ih =>
    have hgot : ∃ rb : Int, (Stream.mk [] []).GetMsgLen nivisV3 read = (rb, ⟨[], []⟩) ∧ rb ≤ 0 := by
      cases read with
      | data limit =>
        refine ⟨0, ?_, Int.le_refl 0⟩
        change Stream.readLink nivisV3 ⟨[], []⟩ (.data limit) = _
        rw [readLink]
        rw [take_nil, if_pos rfl]
      | interrupted => exact ⟨-1, rfl, by decide⟩
      | failed => exact ⟨0, rfl, Int.le_refl 0⟩
      | notOpen => exact ⟨0, rfl, Int.le_refl 0⟩
    obtain ⟨rb, hget, hrb⟩ := hgot
    rw [Read, hget]
    dsimp only
    rw [if_neg (Int.not_lt.mpr hrb)]
    split
    · rfl
    · exact ih

theorem packets_empty (reads : List (List LinkRead)) :
    (Stream.mk [] []).packets nivisV3 reads = some ([], ⟨[], []⟩) := by
  induction reads with
  | nil => rfl
  | cons read reads ih =>
    rw [packets_cons (read_empty read), ih]
    rfl

theorem Ready.messages_nil (h : Ready front messages tail stream) (hdistance : distance stream = 0) :
    messages = [] := by
  have hbytes : stream.m_buf ++ stream.link = [] := by
    apply eq_nil_of_length_eq_zero
    simp only [distance] at hdistance
    rw [length_append]
    omega
  cases messages with
  | nil => rfl
  | cons msg messages =>
    have hnil := (append_eq_nil_iff.mp (h.bytes.symm.trans hbytes)).2
    rw [written_cons] at hnil
    exact absurd hnil (cons_ne_nil _ _)

theorem packets_ready (h : Ready front messages tail stream) (hfit : Fit messages) (reads : List (List LinkRead)) :
    ∃ packets stream', stream.packets nivisV3 reads = some (packets, stream') ∧
      (distance stream ≤ reads.countP gives →
        ∃ earlier later, packets = earlier ++ (messages ++ later) ∧ (front = [] → earlier = [])) ∧
      (front = [] → tail = [] → packets <+: messages) := by
  induction reads generalizing front messages stream with
  | nil =>
    refine ⟨[], stream, rfl, fun hdistance => ?_, fun _ _ => nil_prefix⟩
    obtain rfl := h.messages_nil (Nat.le_zero.mp hdistance)
    exact ⟨[], [], rfl, fun _ => rfl⟩
  | cons read reads ih =>
    cases messages with
    | nil =>
      obtain ⟨⟨packets, stream'⟩, hpackets⟩ := exists_packets stream (read :: reads)
      refine ⟨packets, stream', hpackets, fun _ => ⟨[], packets, rfl, fun _ => rfl⟩, fun hfront htail => ?_⟩
      have hbytes := h.bytes
      rw [hfront, htail] at hbytes
      obtain ⟨hbuf, hlink⟩ := append_eq_nil_iff.mp hbytes
      have hstream : stream = ⟨[], []⟩ := by
        cases stream
        exact congrArg₂ Stream.mk hbuf hlink
      rw [hstream, packets_empty] at hpackets
      have hnil : packets = [] := (congrArg Prod.fst (Option.some.inj hpackets)).symm
      exact hnil ▸ nil_prefix
    | cons msg messages =>
      obtain ⟨packet, after, hread, hafter, hnear, hcloser⟩ := read_after h (hfit msg mem_cons_self) read
      have hcount : distance stream ≤ (read :: reads).countP gives → distance after ≤ reads.countP gives := by
        intro hdistance
        rw [countP_cons] at hdistance
        split at hdistance
        · next hgives =>
          have := hcloser hgives
          omega
        · omega
      cases hafter with
      | @before _ front' _ hready hempty =>
        obtain ⟨packets, stream', hpackets, hall, hleads⟩ := ih hready hfit
        refine ⟨packet.toList ++ packets, stream', ?_, fun hdistance => ?_, fun hfront htail => ?_⟩
        · rw [packets_cons hread, hpackets]
          rfl
        · obtain ⟨earlier, later, hsplit, hearlier⟩ := hall (hcount hdistance)
          refine ⟨packet.toList ++ earlier, later, by rw [hsplit, append_assoc], fun hfront => ?_⟩
          obtain ⟨hfront', hnone⟩ := hempty hfront
          rw [hearlier hfront', hnone]
          rfl
        · obtain ⟨hfront', hnone⟩ := hempty hfront
          rw [hnone]
          exact hleads hfront' htail
      | message hready =>
        obtain ⟨packets, stream', hpackets, hall, hleads⟩ :=
          ih hready fun other hother => hfit other (mem_cons_of_mem msg hother)
        refine ⟨msg :: packets, stream', ?_, fun hdistance => ?_, fun _ htail => ?_⟩
        · rw [packets_cons hread, hpackets]
          rfl
        · obtain ⟨earlier, later, hsplit, hearlier⟩ := hall (hcount hdistance)
          refine ⟨[], later, ?_, fun _ => rfl⟩
          rw [hsplit, hearlier rfl]
          rfl
        · exact (prefix_cons_inj msg).mpr (hleads rfl htail)

/-- What is written is read again, for every way in which the link cuts it; frames after damaged bytes are read too, unless the damage leaves a frame open, in which case the next STX empties the buffer. -/
theorem framing (messages : List (List UInt8)) (hfit : Fit messages) (reads : List (List LinkRead)) :
    (∃ packets stream, (Stream.mk [] (written messages)).packets nivisV3 reads = some (packets, stream) ∧
      packets <+: messages ∧ (2 * (written messages).length ≤ reads.countP gives → packets = messages)) ∧
    (∀ m_buf damaged tail : List UInt8, m_buf.length ≤ bufSize → Quiet STX ETX (m_buf ++ damaged) →
      2 * (m_buf ++ (damaged ++ (written messages ++ tail))).length ≤ reads.countP gives →
        ∃ earlier later stream, (Stream.mk m_buf (damaged ++ (written messages ++ tail))).packets nivisV3 reads =
          some (earlier ++ (messages ++ later), stream)) ∧
    ∀ noise body rest : List UInt8, (∀ b ∈ noise, b ≠ STX) → Plain STX ETX body →
      nivisV3.ParseRxMessage (noise ++ STX :: (body ++ STX :: rest)) = (0, []) := by
  refine ⟨?_, ?_, fun noise body rest hnoise hbody => parse_stxAgain nivisV3 hnoise hbody⟩
  · have hready : Ready [] messages [] ⟨[], written messages⟩ :=
      ⟨congrArg ([] ++ ·) (append_nil (written messages)).symm, .nil, Nat.zero_le _⟩
    obtain ⟨packets, stream, hpackets, hall, hleads⟩ := packets_ready hready hfit reads
    refine ⟨packets, stream, hpackets, hleads rfl rfl, fun henough => ?_⟩
    obtain ⟨earlier, later, hsplit, hearlier⟩ := hall henough
    have hsame := hleads rfl rfl
    rw [hsplit, hearlier rfl, nil_append] at hsame ⊢
    have hlength := hsame.length_le
    rw [length_append] at hlength
    have hlater : later = [] := eq_nil_of_length_eq_zero (by omega)
    rw [hlater, append_nil]
  · intro m_buf damaged tail hsize hquiet henough
    have hready : Ready (m_buf ++ damaged) messages tail ⟨m_buf, damaged ++ (written messages ++ tail)⟩ :=
      ⟨(append_assoc _ _ _).symm, hquiet, hsize⟩
    have hdistance : distance ⟨m_buf, damaged ++ (written messages ++ tail)⟩ ≤ reads.countP gives := by
      rw [length_append] at henough
      simp only [distance]
      omega
    obtain ⟨packets, stream, hpackets, hall, -⟩ := packets_ready hready hfit reads
    obtain ⟨earlier, later, hsplit, -⟩ := hall hdistance
    exact ⟨earlier, later, stream, by rw [hpackets, hsplit]⟩

theorem framing_sample : Fit [[0x41, STX], [CHX]] ∧
      ∃ packets stream, (Stream.mk [] (written [[0x41, STX], [CHX]])).packets nivisV3 [[.data 3], [.data 512]] =
        some (packets, stream) ∧ packets <+: [[0x41, STX], [CHX]] := by
  have hfit : Fit [[0x41, STX], [CHX]] := by decide
  obtain ⟨packets, stream, hpackets, hleads, -⟩ := (framing _ hfit [[.data 3], [.data 512]]).1
  exact ⟨hfit, packets, stream, hpackets, hleads⟩

/-- The earlier parser gives another message, and a frame behind one that was left open is lost. -/
theorem framing_lost :
    (Stream.mk [] (written [[0x41]])).packets nivisV2 [[.data 512]] = some ([[STX]], ⟨[0x41, ETX], []⟩) ∧
      (Stream.mk [] ([STX, 0x01] ++ written [[0x41]])).packets nivisV3 [[.data 512]] = some ([], ⟨[], []⟩) := by
  decide

end Isa100Gateway.PacketStream
