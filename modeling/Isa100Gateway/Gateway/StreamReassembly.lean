import Isa100Gateway.Gateway.TcpGsap

/-!
# Reassembly of the client stream

However TCP cuts the stream, the messages dispatched so far are those that a parser finds in the bytes read so far. The connection is closed early only for inactivity and for a message above the configured size.
-/

namespace Isa100Gateway

open Framing List TcpGSAP

section

variable (cfg : GsapConfig) (crcOk : List UInt8 → Bool) {gsap : TcpGSAP} {stream : List UInt8}
  {msgs : List (List UInt8 × List UInt8)}

/-! ## One call -/

def TcpGSAP.assembled (gsap : TcpGSAP) : List UInt8 :=
  if gsap.ucStatus = .waitHdr then gsap.reqHeader.take gsap.received
  else gsap.reqHeader ++ gsap.reqData.take gsap.received

structure TcpGSAP.Assembling (gsap : TcpGSAP) : Prop where
  header : gsap.reqHeader.length = sizeofGSAPHdr
  consumed : gsap.consumed = encode gsap.dispatched ++ gsap.assembled
  frames : ∀ frame ∈ gsap.dispatched, WellFormed gsapFormat frame
  received : gsap.received ≤ gsap.dwExpected
  data : gsap.ucStatus = .waitHdr ∧ gsap.reqData = [] ∨
    gsap.ucStatus = .waitData ∧ gsap.reqData.length = hdrDataSize gsap.reqHeader

structure TcpGSAP.Reassembles (stream : List UInt8) (gsap : TcpGSAP) : Prop where
  stream : gsap.consumed ++ gsap.socket = stream
  parsed : gsap.dispatched = parse gsapFormat gsap.consumed
  waiting : gsap.bIsValid = true → gsap.Assembling ∧ gsap.received < gsap.dwExpected

theorem TcpGSAP.assembled_header (hstatus : gsap.ucStatus = .waitHdr) :
    gsap.assembled = gsap.reqHeader.take gsap.received := if_pos hstatus

theorem TcpGSAP.assembled_data (hstatus : gsap.ucStatus = .waitData) :
    gsap.assembled = gsap.reqHeader ++ gsap.reqData.take gsap.received := by
  simp [assembled, hstatus]

theorem TcpGSAP.dwExpected_header (hstatus : gsap.ucStatus = .waitHdr) :
    gsap.dwExpected = sizeofGSAPHdr := if_pos hstatus

theorem TcpGSAP.dwExpected_data (hstatus : gsap.ucStatus = .waitData) :
    gsap.dwExpected = hdrDataSize gsap.reqHeader := by
  simp [dwExpected, hstatus]

theorem TcpGSAP.Assembling.unfinished (h : gsap.Assembling) (hmore : gsap.received < gsap.dwExpected) :
    Unfinished gsapFormat gsap.assembled := by
  rcases h.data with ⟨hstatus, -⟩ | ⟨hstatus, hdata⟩
  · rw [dwExpected_header hstatus] at hmore
    refine .inl ?_
    rw [assembled_header hstatus, length_take, h.header]
    exact lt_of_le_of_lt (Nat.min_le_left _ _) hmore
  · rw [dwExpected_data hstatus] at hmore
    refine .inr ?_
    have hheader : gsap.reqHeader.length = gsapFormat.headerLen := h.header
    rw [assembled_data hstatus, drop_left' hheader, take_left' hheader, length_take]
    exact lt_of_le_of_lt (Nat.min_le_left _ _) hmore

theorem parse_of_unfinished_rest {frames : List (List UInt8 × List UInt8)} {rest : List UInt8}
    (hframes : ∀ frame ∈ frames, WellFormed gsapFormat frame) (hrest : Unfinished gsapFormat rest) :
    parse gsapFormat (encode frames ++ rest) = frames := by
  rw [parse_encode_append hframes, parse_of_unfinished hrest, append_nil]

theorem TcpGSAP.store_header {chunk hdr : List UInt8} (hstatus : gsap.ucStatus = .waitHdr)
    (hwrite : Buffer.write gsap.reqHeader gsap.received chunk = some hdr) :
    gsap.store chunk = some { gsap with
      socket := gsap.socket.drop chunk.length
      consumed := gsap.consumed ++ chunk
      received := gsap.received + chunk.length
      reqHeader := hdr } := by
  simp only [store, if_pos hstatus, hwrite, Option.map_some]

theorem TcpGSAP.store_data {chunk data : List UInt8} (hstatus : gsap.ucStatus = .waitData)
    (hwrite : Buffer.write gsap.reqData gsap.received chunk = some data) :
    gsap.store chunk = some { gsap with
      socket := gsap.socket.drop chunk.length
      consumed := gsap.consumed ++ chunk
      received := gsap.received + chunk.length
      reqData := data } := by
  have hother : gsap.ucStatus ≠ .waitHdr := by simp [hstatus]
  simp only [store, if_neg hother, hwrite, Option.map_some]

theorem TcpGSAP.Assembling.store (h : gsap.Assembling) {chunk : List UInt8}
    (hfits : chunk.length ≤ gsap.dwExpected - gsap.received) (hsocket : chunk <+: gsap.socket) :
    ∃ stored, gsap.store chunk = some stored ∧ stored.Assembling ∧ stored.consumed = gsap.consumed ++ chunk ∧
      stored.consumed ++ stored.socket = gsap.consumed ++ gsap.socket ∧
      stored.dispatched = gsap.dispatched ∧ stored.bIsValid = gsap.bIsValid := by
  have hreceived := h.received
  obtain ⟨more, hmore⟩ := hsocket
  have hstream : gsap.consumed ++ chunk ++ gsap.socket.drop chunk.length =
      gsap.consumed ++ gsap.socket := by
    rw [← hmore, drop_left, append_assoc]
  rcases h.data with ⟨hstatus, hdata⟩ | ⟨hstatus, hdata⟩
  · rw [dwExpected_header hstatus] at hfits hreceived
    have hroom : gsap.received + chunk.length ≤ gsap.reqHeader.length := by
      rw [h.header]
      omega
    obtain ⟨hdr, hwrite, hlen, htake⟩ := Buffer.exists_write hroom
    refine ⟨_, store_header hstatus hwrite, ?_, rfl, hstream, rfl, rfl⟩
    constructor
    · exact hlen.trans h.header
    · simp only [assembled, if_pos hstatus, htake]
      rw [h.consumed, assembled_header hstatus, append_assoc]
    · exact h.frames
    · simp only [dwExpected, if_pos hstatus]
      exact Nat.add_le_of_le_sub' hreceived hfits
    · exact .inl ⟨hstatus, hdata⟩
  · rw [dwExpected_data hstatus] at hfits hreceived
    have hroom : gsap.received + chunk.length ≤ gsap.reqData.length := by
      rw [hdata]
      omega
    obtain ⟨data, hwrite, hlen, htake⟩ := Buffer.exists_write hroom
    have hother : gsap.ucStatus ≠ .waitHdr := by simp [hstatus]
    refine ⟨_, store_data hstatus hwrite, ?_, rfl, hstream, rfl, rfl⟩
    constructor
    · exact h.header
    · simp only [assembled, if_neg hother, htake]
      rw [h.consumed, assembled_data hstatus, append_assoc, append_assoc]
    · exact h.frames
    · simp only [dwExpected, if_neg hother]
      exact Nat.add_le_of_le_sub' hreceived hfits
    · exact .inr ⟨hstatus, hlen.trans hdata⟩

theorem length_ntohHdr {hdr : List UInt8} (h : hdr.length = sizeofGSAPHdr) :
    (ntohHdr hdr).length = sizeofGSAPHdr := by
  simp only [sizeofGSAPHdr] at h ⊢
  simp only [ntohHdr, length_append, length_reverse, length_take, length_drop, h]
  decide

theorem TcpGSAP.Assembling.dispatch (h : gsap.Assembling) (now : Int)
    (hassembled : gsap.assembled = gsap.reqHeader ++ gsap.reqData)
    (hdata : gsap.reqData.length = hdrDataSize gsap.reqHeader) : (gsap.dispatch crcOk now).Assembling ∧
      (gsap.dispatch crcOk now).received < (gsap.dispatch crcOk now).dwExpected := by
  have hmsg : WellFormed gsapFormat (gsap.reqHeader, gsap.reqData) := ⟨h.header, hdata⟩
  constructor
  · constructor
    · by_cases hcrc : crcOk gsap.reqHeader
      · simpa [TcpGSAP.dispatch, hcrc] using length_ntohHdr h.header
      · simpa [TcpGSAP.dispatch, hcrc] using h.header
    · calc
        gsap.consumed = encode gsap.dispatched ++ (gsap.reqHeader ++ gsap.reqData) := by
          rw [h.consumed, hassembled]
        _ = encode (gsap.dispatched ++ [(gsap.reqHeader, gsap.reqData)]) := by simp
        _ = _ := by simp [TcpGSAP.dispatch, assembled]
    · intro frame hframe
      rcases mem_append.1 hframe with hframe | hframe
      · exact h.frames frame hframe
      · exact mem_singleton.1 hframe ▸ hmsg
    · exact Nat.zero_le _
    · exact .inl ⟨rfl, rfl⟩
  · exact (by decide : 0 < sizeofGSAPHdr)

theorem TcpGSAP.Assembling.openData (h : gsap.Assembling) (hstatus : gsap.ucStatus = .waitHdr)
    (hfull : gsap.received = sizeofGSAPHdr) :
    ({ gsap with
      ucStatus := .waitData
      reqData := replicate (hdrDataSize gsap.reqHeader) 0
      received := 0 } : TcpGSAP).Assembling := by
  constructor
  · exact h.header
  · simp only [assembled, reduceCtorEq, if_false, take_zero, append_nil]
    rw [h.consumed, assembled_header hstatus, hfull, take_of_length_le h.header.le]
  · exact h.frames
  · exact Nat.zero_le _
  · exact .inr ⟨rfl, length_replicate⟩

theorem TcpGSAP.advance_frame (now : Int) : (gsap.advance cfg crcOk now).consumed = gsap.consumed ∧
      (gsap.advance cfg crcOk now).socket = gsap.socket := by
  unfold advance
  split
  · cases gsap.ucStatus with
    | waitHdr => dsimp only; split_ifs <;> exact ⟨rfl, rfl⟩
    | waitData => exact ⟨rfl, rfl⟩
    | msgReady => exact ⟨rfl, rfl⟩
  · exact ⟨rfl, rfl⟩

theorem TcpGSAP.Assembling.advance (h : gsap.Assembling) (now : Int) : (gsap.advance cfg crcOk now).Assembling ∧
        (gsap.advance cfg crcOk now).received < (gsap.advance cfg crcOk now).dwExpected ∧
        (gsap.advance cfg crcOk now).bIsValid = gsap.bIsValid ∨
      gsap.advance cfg crcOk now = { gsap with bIsValid := false } ∧
        gsap.assembled = gsap.reqHeader ∧ cfg.maxSize < hdrDataSize gsap.reqHeader := by
  by_cases hfull : gsap.received = gsap.dwExpected
  · rcases h.data with ⟨hstatus, hdata⟩ | ⟨hstatus, hdata⟩
    · rw [dwExpected_header hstatus] at hfull
      have hassembled : gsap.assembled = gsap.reqHeader := by
        rw [assembled_header hstatus, hfull, List.take_of_length_le h.header.le]
      have hadvance : gsap.advance cfg crcOk now =
          if hdrDataSize gsap.reqHeader > cfg.maxSize then { gsap with bIsValid := false }
          else if hdrDataSize gsap.reqHeader = 0 then gsap.dispatch crcOk now
          else { gsap with
            ucStatus := .waitData
            reqData := List.replicate (hdrDataSize gsap.reqHeader) 0
            received := 0 } := by
        simp only [TcpGSAP.advance, dwExpected_header hstatus, hfull, if_true, hstatus]
      rw [hadvance]
      split_ifs with hhuge hempty
      · exact .inr ⟨rfl, hassembled, hhuge⟩
      · have hnext := h.dispatch crcOk now (by simp [hassembled, hdata]) (by simp [hdata, hempty])
        exact .inl ⟨hnext.1, hnext.2, rfl⟩
      · exact .inl ⟨h.openData hstatus hfull, Nat.pos_of_ne_zero hempty, rfl⟩
    · rw [dwExpected_data hstatus] at hfull
      have hassembled : gsap.assembled = gsap.reqHeader ++ gsap.reqData := by
        rw [assembled_data hstatus, hfull, List.take_of_length_le hdata.le]
      have hadvance : gsap.advance cfg crcOk now = gsap.dispatch crcOk now := by
        simp only [TcpGSAP.advance, dwExpected_data hstatus, hfull, if_true, hstatus]
      have hnext := h.dispatch crcOk now hassembled hdata
      rw [hadvance]
      exact .inl ⟨hnext.1, hnext.2, rfl⟩
  · have hadvance : gsap.advance cfg crcOk now = gsap := if_neg hfull
    rw [hadvance]
    exact .inl ⟨h, lt_of_le_of_ne h.received hfull, rfl⟩

def TcpGSAP.Oversize (cfg : GsapConfig) (gsap : TcpGSAP) : Prop :=
  ∃ hdr : List UInt8, gsap.consumed = encode gsap.dispatched ++ hdr ∧ hdr.length = sizeofGSAPHdr ∧
    cfg.maxSize < hdrDataSize hdr

theorem TcpGSAP.Assembling.parsed (h : gsap.Assembling) (hmore : gsap.received < gsap.dwExpected) :
    gsap.dispatched = parse gsapFormat gsap.consumed := by
  rw [h.consumed, parse_of_unfinished_rest h.frames (h.unfinished hmore)]

theorem TcpGSAP.Reassembles.close (h : gsap.Reassembles stream) :
    ({ gsap with bIsValid := false } : TcpGSAP).Reassembles stream :=
  ⟨h.stream, h.parsed, fun hvalid => nomatch hvalid⟩

theorem TcpGSAP.Reassembles.receive (h : gsap.Reassembles stream) (hvalid : gsap.bIsValid = true)
    {chunk : List UInt8} (hfits : chunk.length ≤ gsap.dwExpected - gsap.received)
    (hsocket : chunk <+: gsap.socket) (now : Int) :
    ∃ next, (gsap.store chunk).map (advance cfg crcOk now) = some next ∧
      next.Reassembles stream ∧ next.consumed = gsap.consumed ++ chunk ∧
      (next.bIsValid = true ∨ next.Oversize cfg) := by
  obtain ⟨hassembling, -⟩ := h.waiting hvalid
  obtain ⟨stored, hstore, hstored, hconsumed, hstream, -, hstoredValid⟩ :=
    hassembling.store hfits hsocket
  obtain ⟨hnextConsumed, hnextSocket⟩ := stored.advance_frame cfg crcOk now
  refine ⟨stored.advance cfg crcOk now, by rw [hstore, Option.map_some], ?_,
    hnextConsumed.trans hconsumed, ?_⟩
  · refine ⟨by rw [hnextConsumed, hnextSocket, hstream, h.stream], ?_, ?_⟩
    · rcases hstored.advance cfg crcOk now with
        ⟨hnext, hwaiting, -⟩ | ⟨hnext, hheader, hhuge⟩
      · exact hnext.parsed hwaiting
      · have hunfinished : Unfinished gsapFormat stored.reqHeader := by
          have hlen : stored.reqHeader.length ≤ gsapFormat.headerLen := hstored.header.le
          refine .inr ?_
          rw [drop_of_length_le hlen, take_of_length_le hlen]
          exact Nat.zero_lt_of_lt hhuge
        rw [hnext]
        rw [hstored.consumed, hheader, parse_of_unfinished_rest hstored.frames hunfinished]
    · rcases hstored.advance cfg crcOk now with ⟨hnext, hwaiting, -⟩ | ⟨hnext, -⟩
      · exact fun _ => ⟨hnext, hwaiting⟩
      · intro hnextValid
        rw [hnext] at hnextValid
        exact nomatch hnextValid
  · rcases hstored.advance cfg crcOk now with
      ⟨-, -, hnextValid⟩ | ⟨hnext, hheader, hhuge⟩
    · exact .inl (hnextValid.trans (hstoredValid.trans hvalid))
    · refine .inr ⟨stored.reqHeader, ?_, hstored.header, hhuge⟩
      rw [hnext]
      exact hheader ▸ hstored.consumed

/-- A call keeps the record of the stream. A connection that survives it has read something if there was something to read, and one that does not was inactive or was sent too large a message. -/
theorem TcpGSAP.Reassembles.processData (h : gsap.Reassembles stream) (call : ProcessCall) :
    ∃ next, gsap.processData cfg crcOk call = some next ∧ next.Reassembles stream ∧ (next.bIsValid = true →
        gsap.consumed.length + min gsap.socket.length (min 1 call.ready) ≤ next.consumed.length) ∧
      (gsap.bIsValid = true → ¬gsap.inactive cfg call → next.bIsValid = true ∨ next.Oversize cfg) := by
  by_cases hvalid : gsap.bIsValid = true
  swap
  · exact ⟨gsap, by simp [TcpGSAP.processData, hvalid], h, fun hnext => absurd hnext hvalid,
      fun hgsap => absurd hgsap hvalid⟩
  obtain ⟨hassembling, hmore⟩ := h.waiting hvalid
  by_cases hinactive : gsap.inactive cfg call
  · refine ⟨{ gsap with bIsValid := false }, ?_, h.close, fun hnext => (nomatch hnext),
      fun _ hactive => absurd hinactive hactive⟩
    simp [TcpGSAP.processData, hvalid, hinactive]
  have hprocess : gsap.processData cfg crcOk call =
      if gsap.socket.take (min call.ready (gsap.dwExpected - gsap.received)) = [] then some gsap
      else (gsap.store (gsap.socket.take (min call.ready (gsap.dwExpected - gsap.received)))).map
        (advance cfg crcOk call.now) := by
    simp only [TcpGSAP.processData, hvalid, hmore.le.not_gt, hinactive, Nat.sub_pos_of_lt hmore,
      not_true_eq_false, if_false, true_and]
  have hlen : (gsap.socket.take (min call.ready (gsap.dwExpected - gsap.received))).length =
      min (min call.ready (gsap.dwExpected - gsap.received)) gsap.socket.length := length_take
  rw [hprocess]
  have hsocket : gsap.socket.take (min call.ready (gsap.dwExpected - gsap.received)) <+: gsap.socket :=
    take_prefix _ _
  generalize gsap.socket.take (min call.ready (gsap.dwExpected - gsap.received)) = chunk at *
  split_ifs with hnothing
  · -- `Recv` had nothing to deliver
    rw [hnothing, length_nil] at hlen
    refine ⟨gsap, rfl, h, fun _ => ?_, fun _ _ => .inl hvalid⟩
    omega
  · obtain ⟨next, hnext, hreassembles, hconsumed, hclosed⟩ :=
      h.receive cfg crcOk hvalid (by omega) hsocket call.now
    refine ⟨next, hnext, hreassembles, fun _ => ?_, fun _ _ => hclosed⟩
    rw [hconsumed, length_append]
    omega

theorem reassembles_connect (stream : List UInt8) (now : Int) : (connect stream now).Reassembles stream := by
  have hwaiting : (connect stream now).received < (connect stream now).dwExpected :=
    (by decide : 0 < sizeofGSAPHdr)
  have hassembling : (connect stream now).Assembling :=
    ⟨length_replicate, rfl, fun _ hframe => (nomatch hframe), hwaiting.le, .inl ⟨rfl, rfl⟩⟩
  exact ⟨rfl, hassembling.parsed hwaiting, fun _ => ⟨hassembling, hwaiting⟩⟩

theorem TcpGSAP.Reassembles.run (h : gsap.Reassembles stream) (calls : List ProcessCall) :
    ∃ last, gsap.run cfg crcOk calls = some last ∧ last.Reassembles stream := by
  induction calls generalizing gsap with
  | nil => exact ⟨gsap, rfl, h⟩
  | cons call calls ih =>
    obtain ⟨next, hnext, hreassembles, -⟩ := h.processData cfg crcOk call
    obtain ⟨last, hlast, hdone⟩ := ih hreassembles
    exact ⟨last, by rw [run, foldlM_cons, hnext]; exact hlast, hdone⟩

def TcpGSAP.StaysActive (cfg : GsapConfig) (crcOk : List UInt8 → Bool) : TcpGSAP → List ProcessCall → Prop
  | _, [] => True
  | gsap, call :: calls => ¬gsap.inactive cfg call ∧
      ∀ next ∈ gsap.processData cfg crcOk call, StaysActive cfg crcOk next calls

theorem TcpGSAP.Reassembles.not_oversize (h : gsap.Reassembles (encode msgs))
    (hmsgs : ∀ msg ∈ msgs, WellFormed gsapFormat msg) (hsize : ∀ msg ∈ msgs, msg.2.length ≤ cfg.maxSize) :
    ¬gsap.Oversize cfg := by
  rintro ⟨hdr, hconsumed, hlen, hhuge⟩
  obtain ⟨rest, hrest⟩ : gsap.dispatched <+: msgs := by
    rw [h.parsed, ← parse_encode hmsgs, ← h.stream]
    exact parse_prefix _
  have hstream : encode rest = hdr ++ gsap.socket := by
    have := h.stream
    rw [hconsumed, ← hrest, encode_append, append_assoc] at this
    exact (append_cancel_left this).symm
  rcases rest with _ | ⟨msg, rest⟩
  · have hnil : hdr = [] := (append_eq_nil_iff.1 hstream.symm).1
    rw [hnil] at hlen
    exact nomatch hlen
  · have hmem : msg ∈ msgs := hrest ▸ mem_append_right _ mem_cons_self
    have hmsg := hmsgs msg hmem
    have hheader : msg.1 = hdr := (append_inj (encode_cons ▸ hstream) (hmsg.header.trans hlen.symm)).1
    have hpayload : msg.2.length = hdrDataSize msg.1 := hmsg.payload
    have hbound := hsize msg hmem
    rw [hpayload, hheader] at hbound
    exact hhuge.not_ge hbound

theorem TcpGSAP.Reassembles.run_active (h : gsap.Reassembles (encode msgs)) (hvalid : gsap.bIsValid = true)
    (hmsgs : ∀ msg ∈ msgs, WellFormed gsapFormat msg) (hsize : ∀ msg ∈ msgs, msg.2.length ≤ cfg.maxSize)
    {calls : List ProcessCall} (hactive : gsap.StaysActive cfg crcOk calls) :
    ∃ last, gsap.run cfg crcOk calls = some last ∧ last.bIsValid = true ∧
      min (encode msgs).length (gsap.consumed.length + calls.countP fun call => 0 < call.ready) ≤
        last.consumed.length := by
  induction calls generalizing gsap with
  | nil => exact ⟨gsap, rfl, hvalid, Nat.min_le_right _ _⟩
  | cons call calls ih =>
    obtain ⟨next, hnext, hreassembles, hreads, hclosed⟩ :=
      h.processData cfg crcOk call
    have hnextValid : next.bIsValid = true :=
      (hclosed hvalid hactive.1).resolve_right (hreassembles.not_oversize cfg hmsgs hsize)
    obtain ⟨last, hlast, hlastValid, hcount⟩ := ih hreassembles hnextValid (hactive.2 next hnext)
    refine ⟨last, by rw [TcpGSAP.run, List.foldlM_cons, hnext]; exact hlast, hlastValid, ?_⟩
    have hstream := congrArg length h.stream
    have hread := hreads hnextValid
    rw [length_append] at hstream
    by_cases hready : 0 < call.ready
    · rw [countP_cons_of_pos (by simpa using hready)]
      omega
    · rw [countP_cons_of_neg (by simpa using hready)]
      omega

end

/-- However the stream of messages is cut, no write leaves its buffer and the messages dispatched are those complete in the bytes read, from the first on and each once. All of them are dispatched when the stream was read to its end, which inactivity and the size limit alone can prevent. -/
theorem dispatched_messages (cfg : GsapConfig) (crcOk : List UInt8 → Bool) (now : Int)
    (msgs : List (List UInt8 × List UInt8)) (hmsgs : ∀ msg ∈ msgs, WellFormed gsapFormat msg)
    (calls : List ProcessCall) :
    ∃ gsap, (connect (encode msgs) now).run cfg crcOk calls = some gsap ∧ gsap.consumed ++ gsap.socket = encode msgs ∧
      gsap.dispatched = parse gsapFormat gsap.consumed ∧
      gsap.dispatched <+: msgs ∧
      (gsap.socket = [] → gsap.dispatched = msgs) ∧
      ((connect (encode msgs) now).StaysActive cfg crcOk calls → (∀ msg ∈ msgs, msg.2.length ≤ cfg.maxSize) →
        gsap.bIsValid = true ∧
          ((encode msgs).length ≤ (calls.countP fun call => 0 < call.ready) →
            gsap.dispatched = msgs)) := by
  have hconnect := reassembles_connect (encode msgs) now
  obtain ⟨gsap, hrun, h⟩ := hconnect.run cfg crcOk calls
  have hall : gsap.socket = [] → gsap.dispatched = msgs := by
    intro hsocket
    have hconsumed : gsap.consumed = encode msgs := by rw [← h.stream, hsocket, append_nil]
    rw [h.parsed, hconsumed, parse_encode hmsgs]
  refine ⟨gsap, hrun, h.stream, h.parsed, ?_, hall, ?_⟩
  · rw [h.parsed, ← parse_encode hmsgs, ← h.stream]
    exact parse_prefix _
  · intro hactive hsize
    obtain ⟨last, hlast, hvalid, hcount⟩ := hconnect.run_active cfg crcOk rfl hmsgs hsize hactive
    obtain rfl : gsap = last := Option.some.inj (hrun.symm.trans hlast)
    refine ⟨hvalid, fun henough => hall ?_⟩
    have hstream := congrArg length h.stream
    rw [length_append] at hstream
    have hlen : gsap.socket.length = 0 := by omega
    exact length_eq_zero_iff.1 hlen

def defaultGsapConfig : GsapConfig where
  inactivity := 3600
  maxSize := 10 * 1024 * 1024
  maxSize_lt := by decide

/-- Two messages of two bytes and of none, read in chunks of 7 bytes. -/
theorem dispatched_messages_two :
    let msgs := [(replicate 13 0 ++ [2] ++ replicate 4 0, [1, 2]), (replicate 18 0, [])]
    ∃ gsap, (connect (encode msgs) 0).run defaultGsapConfig (fun _ => true)
        (replicate 8 ⟨0, 0, 7⟩) = some gsap ∧ gsap.dispatched = msgs := by
  intro msgs
  obtain ⟨gsap, hrun, -, -, -, hall, -⟩ := dispatched_messages defaultGsapConfig (fun _ => true) 0 msgs
    (by decide) (replicate 8 ⟨0, 0, 7⟩)
  have hsocket : ((connect (encode msgs) 0).run defaultGsapConfig (fun _ => true)
      (replicate 8 ⟨0, 0, 7⟩)).map socket = some [] := by decide
  rw [hrun] at hsocket
  exact ⟨gsap, hrun, hall (Option.some.inj hsocket)⟩

/-- A header cut in two, whose second half arrives an hour late: the connection is closed before. -/
theorem not_all_messages_dispatched : ¬∀ (cfg : GsapConfig) (crcOk : List UInt8 → Bool) (now : Int)
      (msgs : List (List UInt8 × List UInt8)), (∀ msg ∈ msgs, WellFormed gsapFormat msg) →
      ∀ calls : List ProcessCall,
        (encode msgs).length ≤ (calls.countP fun call => 0 < call.ready) →
        ∃ gsap, (connect (encode msgs) now).run cfg crcOk calls = some gsap ∧
          gsap.dispatched = parse gsapFormat (encode msgs) := by
  intro hclaim
  have hmsgs : ∀ msg ∈ [(replicate 18 (0 : UInt8), ([] : List UInt8))], WellFormed gsapFormat msg := by
    decide
  obtain ⟨gsap, hrun, hdispatched⟩ := hclaim defaultGsapConfig (fun _ => true) 0
    [(replicate 18 0, [])] hmsgs (replicate 9 ⟨0, 0, 1⟩ ++ replicate 9 ⟨3601, 0, 1⟩) (by decide)
  have hlost : ((connect (encode [(replicate 18 0, [])]) 0).run defaultGsapConfig
      (fun _ => true) (replicate 9 ⟨0, 0, 1⟩ ++ replicate 9 ⟨3601, 0, 1⟩)).map
        dispatched = some [] := by decide
  rw [hrun, Option.map_some, hdispatched, parse_encode hmsgs] at hlost
  exact nomatch hlost

end Isa100Gateway
