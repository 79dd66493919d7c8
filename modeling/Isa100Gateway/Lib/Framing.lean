import Mathlib.Data.List.Infix

/-!
# Framed streams

A stream of frames, each a header of fixed length followed by as much payload as the header says. `parse` reads a whole stream at once; the rules say how it reads a stream that a receiver has seen only in part.
-/

namespace Framing

open List

variable {β : Type*}

structure Format (β : Type*) where
  headerLen : Nat
  payloadLen : List β → Nat
  headerLen_pos : 0 < headerLen

variable (fmt : Format β)

def parse (stream : List β) : List (List β × List β) :=
  let header := stream.take fmt.headerLen
  let rest := stream.drop fmt.headerLen
  if fmt.headerLen ≤ stream.length ∧ fmt.payloadLen header ≤ rest.length then
    (header, rest.take (fmt.payloadLen header)) :: parse (rest.drop (fmt.payloadLen header))
  else []
termination_by stream.length
decreasing_by
  have := fmt.headerLen_pos
  simp only [length_drop]
  omega

structure WellFormed (frame : List β × List β) : Prop where
  header : frame.1.length = fmt.headerLen
  payload : frame.2.length = fmt.payloadLen frame.1

instance (frame : List β × List β) : Decidable (WellFormed fmt frame) :=
  decidable_of_iff (frame.1.length = fmt.headerLen ∧ frame.2.length = fmt.payloadLen frame.1)
    ⟨fun h => ⟨h.1, h.2⟩, fun h => ⟨h.header, h.payload⟩⟩

def encode (frames : List (List β × List β)) : List β := frames.flatMap fun frame => frame.1 ++ frame.2

def Unfinished (stream : List β) : Prop :=
  stream.length < fmt.headerLen ∨ (stream.drop fmt.headerLen).length < fmt.payloadLen (stream.take fmt.headerLen)

variable {fmt} {frame : List β × List β} {frames : List (List β × List β)} {stream : List β}

@[simp]
theorem encode_nil : encode ([] : List (List β × List β)) = [] := rfl

@[simp]
theorem encode_cons : encode (frame :: frames) = frame.1 ++ (frame.2 ++ encode frames) := by
  simp [encode]

@[simp]
theorem encode_append (frames' : List (List β × List β)) :
    encode (frames ++ frames') = encode frames ++ encode frames' := by
  simp [encode]

theorem parse_of_unfinished (h : Unfinished fmt stream) : parse fmt stream = [] := by
  rw [parse, if_neg]
  rcases h with h | h <;> omega

theorem parse_frame_append (h : WellFormed fmt frame) (rest : List β) :
    parse fmt (frame.1 ++ (frame.2 ++ rest)) = frame :: parse fmt rest := by
  have hheader : (frame.1 ++ (frame.2 ++ rest)).take fmt.headerLen = frame.1 :=
    take_left' h.header
  have htail : (frame.1 ++ (frame.2 ++ rest)).drop fmt.headerLen = frame.2 ++ rest :=
    drop_left' h.header
  have hfits : fmt.headerLen ≤ (frame.1 ++ (frame.2 ++ rest)).length ∧
      fmt.payloadLen frame.1 ≤ (frame.2 ++ rest).length := by
    have := h.header
    have := h.payload
    simp only [length_append]
    omega
  rw [parse]
  simp only [hheader, htail]
  rw [if_pos hfits, take_left' h.payload, drop_left' h.payload]

theorem parse_encode_append (h : ∀ frame ∈ frames, WellFormed fmt frame) (rest : List β) :
    parse fmt (encode frames ++ rest) = frames ++ parse fmt rest := by
  induction frames with
  | nil => rfl
  | cons frame frames ih =>
    have hrest := ih fun other hother => h other (mem_cons_of_mem _ hother)
    calc
      parse fmt (encode (frame :: frames) ++ rest)
          = parse fmt (frame.1 ++ (frame.2 ++ (encode frames ++ rest))) := by simp
      _ = frame :: parse fmt (encode frames ++ rest) :=
          parse_frame_append (h frame mem_cons_self) _
      _ = frame :: frames ++ parse fmt rest := by rw [hrest, cons_append]

theorem parse_encode (h : ∀ frame ∈ frames, WellFormed fmt frame) : parse fmt (encode frames) = frames := by
  have hnil : parse fmt ([] : List β) = [] := parse_of_unfinished (.inl fmt.headerLen_pos)
  simpa [hnil] using parse_encode_append h []

theorem exists_parse (fmt : Format β) (stream : List β) :
    ∃ rest, stream = encode (parse fmt stream) ++ rest ∧ Unfinished fmt rest ∧
      ∀ frame ∈ parse fmt stream, WellFormed fmt frame := by
  induction stream using parse.induct fmt with
  | case1 stream header rest hfits ih =>
    obtain ⟨last, hlast, hunfinished, hframes⟩ := ih
    have hparse : parse fmt stream =
        (header, rest.take (fmt.payloadLen header)) :: parse fmt (rest.drop (fmt.payloadLen header)) := by
      rw [parse]
      exact if_pos hfits
    refine ⟨last, ?_, hunfinished, ?_⟩
    · rw [hparse, encode_cons, append_assoc, append_assoc, ← hlast,
        take_append_drop, take_append_drop]
    · rw [hparse]
      rintro frame (_ | ⟨_, hframe⟩)
      · exact ⟨length_take_of_le hfits.1, length_take_of_le hfits.2⟩
      · exact hframes frame hframe
  | case2 stream header rest hfits =>
    have hunfinished : Unfinished fmt stream := by
      rcases Nat.lt_or_ge stream.length fmt.headerLen with hshort | hlong
      · exact .inl hshort
      · exact .inr (Nat.lt_of_not_le fun hfit => hfits ⟨hlong, hfit⟩)
    have hparse := parse_of_unfinished hunfinished
    exact ⟨stream, by simp [hparse], hunfinished, by simp [hparse]⟩

theorem parse_prefix (more : List β) : parse fmt stream <+: parse fmt (stream ++ more) := by
  obtain ⟨rest, hstream, -, hframes⟩ := exists_parse fmt stream
  have hmore : stream ++ more = encode (parse fmt stream) ++ (rest ++ more) := by
    rw [← append_assoc, ← hstream]
  rw [hmore, parse_encode_append hframes]
  exact prefix_append _ _

end Framing
