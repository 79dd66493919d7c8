import Isa100Gateway.Shared.Pipe
import Mathlib.Tactic.IntervalCases

/-!
# Reading back what was written to a pipe

Messages of one header size, with garbage in front of each, against the reader. Garbage without a marker is skipped, unless it ends in the byte of the marker: then the reader takes the marker for complete too early, and the length it reads is never the stored one. The length itself is not checked.
-/

namespace Isa100Gateway

open Stream RunMarker List

@[simp] theorem length_storeInt (order : ByteOrder) (value : Int32) : (storeInt order value).length = 4 := by
  cases order <;> rfl

theorem loadInt_storeInt (order : ByteOrder) (value : Int32) (rest : List UInt8) :
    loadInt order (storeInt order value ++ rest) = value := by
  have hjoin := congrArg UInt32.toInt32 (Bytes.join_split32 value.toUInt32)
  cases order with
  | big => exact hjoin
  | little => exact hjoin

theorem join32_inj {b₃ b₂ b₁ b₀ c₃ c₂ c₁ c₀ : UInt8}
    (h : (b₃.toUInt32 <<< 24 ||| b₂.toUInt32 <<< 16 ||| b₁.toUInt32 <<< 8 ||| b₀.toUInt32).toInt32 =
      (c₃.toUInt32 <<< 24 ||| c₂.toUInt32 <<< 16 ||| c₁.toUInt32 <<< 8 ||| c₀.toUInt32).toInt32) :
    b₃ = c₃ ∧ b₂ = c₂ ∧ b₁ = c₁ ∧ b₀ = c₀ := by
  have hword := congrArg UInt32.toNat (congrArg Int32.toUInt32 h)
  simp only [UInt32.toUInt32_toInt32] at hword
  rw [Bytes.toNat_join32, Bytes.toNat_join32] at hword
  have := b₃.toNat_lt
  have := b₂.toNat_lt
  have := b₁.toNat_lt
  have := b₀.toNat_lt
  have := c₃.toNat_lt
  have := c₂.toNat_lt
  have := c₁.toNat_lt
  have := c₀.toNat_lt
  simp only [← UInt8.toNat_inj]
  omega

theorem loadInt_inj {order : ByteOrder} {block block' : List UInt8} (hlen : block.length = 4)
    (hlen' : block'.length = 4) (h : loadInt order block = loadInt order block') : block = block' := by
  obtain ⟨b₀, b₁, b₂, b₃, rfl⟩ := length_eq_four.1 hlen
  obtain ⟨c₀, c₁, c₂, c₃, rfl⟩ := length_eq_four.1 hlen'
  cases order with
  | big =>
    obtain ⟨rfl, rfl, rfl, rfl⟩ := join32_inj h
    rfl
  | little =>
    obtain ⟨rfl, rfl, rfl, rfl⟩ := join32_inj h
    rfl

/-! ## The start marker -/

/-- The last `k` bytes read are marker bytes, and the one before them is not. -/
structure EndsIn (marker : UInt32) (k : Nat) : Prop where
  lt : k < 4
  same : marker.toNat % 256 ^ k = pipeStartMarker.toNat % 256 ^ k
  other : marker.toNat / 256 ^ k % 256 ≠ markerByte.toNat

theorem toNat_shiftIn (marker : UInt32) (b : UInt8) :
    (marker <<< 8 ||| b.toUInt32).toNat = marker.toNat % 2 ^ 24 * 256 + b.toNat := by
  have hb := b.toNat_lt
  have hshift : (marker <<< 8).toNat = marker.toNat % 2 ^ 24 * 2 ^ 8 := by
    rw [UInt32.toNat_shiftLeft, Nat.shiftLeft_eq]
    simp only [UInt32.reduceToNat, Nat.reduceMod, Nat.reducePow]
    omega
  rw [UInt32.toNat_or, hshift, UInt8.toNat_toUInt32, Bytes.lor_eq_add hb]
  norm_num

theorem endsIn_zero : EndsIn 0 0 := ⟨by decide, by decide, by decide⟩

variable {marker : UInt32} {blockLen : Int32} {memory : SysMemory}

theorem EndsIn.mismatch {b : UInt8} (hb : b ≠ markerByte) : EndsIn (marker <<< 8 ||| b.toUInt32) 0 := by
  have hlt := b.toNat_lt
  have hne : b.toNat ≠ markerByte.toNat := fun h => hb (UInt8.toNat_inj.1 h)
  refine ⟨by decide, by simp only [pow_zero, Nat.mod_one], ?_⟩
  rw [toNat_shiftIn]
  omega

theorem EndsIn.grow {k : Nat} (h : EndsIn marker k) (hk : k + 1 < 4) :
    EndsIn (marker <<< 8 ||| markerByte.toUInt32) (k + 1) := by
  obtain ⟨-, hsame, hother⟩ := h
  have hlt : k < 3 := by omega
  refine ⟨hk, ?_, ?_⟩
  all_goals
    rw [toNat_shiftIn]
    simp only [pipeStartMarker, markerByte, UInt32.reduceToNat, UInt8.reduceToNat] at hsame hother ⊢
    interval_cases k <;> omega

theorem EndsIn.ne_marker {k : Nat} (h : EndsIn marker k) : marker ≠ pipeStartMarker := by
  rintro rfl
  obtain ⟨hlt, -, hother⟩ := h
  simp only [pipeStartMarker, markerByte, UInt32.reduceToNat, UInt8.reduceToNat] at *
  interval_cases k <;> omega

theorem EndsIn.complete (h : EndsIn marker 3) : marker <<< 8 ||| markerByte.toUInt32 = pipeStartMarker := by
  obtain ⟨-, hsame, -⟩ := h
  apply UInt32.toNat_inj.1
  rw [toNat_shiftIn]
  simp only [pipeStartMarker, markerByte, UInt32.reduceToNat, UInt8.reduceToNat] at *
  omega

theorem readMarkerFrom_eq_seek {k : Nat} (h : EndsIn marker k) (pipe : List UInt8) :
    readMarkerFrom marker pipe = (seek markerByte 4 k pipe).map fun rest => ((), rest) := by
  induction pipe generalizing marker k with
  | nil => rfl
  | cons b pipe ih =>
    rw [readMarkerFrom, seek]
    by_cases hb : b = markerByte
    · subst hb
      rw [if_pos rfl]
      by_cases hlast : k + 1 = 4
      · have hk : k = 3 := by omega
        subst hk
        rw [if_pos rfl, if_pos h.complete]
        rfl
      · have hgrown := h.grow (by have := h.lt; omega)
        rw [if_neg hlast, if_neg hgrown.ne_marker]
        exact ih hgrown
    · have hreset : EndsIn (marker <<< 8 ||| b.toUInt32) 0 := EndsIn.mismatch hb
      rw [if_neg hb, if_neg hreset.ne_marker]
      exact ih hreset

theorem readStartMarker_noise {noise : List UInt8} (h : Clean markerByte 4 0 noise) (rest : List UInt8) :
    readStartMarker (noise ++ (replicate 4 markerByte ++ rest)) =
      some ((), replicate (runLength markerByte 0 noise) markerByte ++ rest) := by
  rw [readStartMarker, readMarkerFrom_eq_seek endsIn_zero, seek_marker h]
  rfl

theorem storeInt_pipeStartMarker (order : ByteOrder) :
    storeInt order pipeStartMarker.toInt32 = replicate 4 markerByte := by
  cases order with
  | big => decide
  | little => decide

/-- A header size, and a limit for the data that an `int` can count together with it. -/
structure PipeSizes where
  headerSize : Int32
  limit : Int32
  four_le : 4 ≤ headerSize.toInt
  limit_nonneg : 0 ≤ limit.toInt
  fits : headerSize.toInt + limit.toInt < 2 ^ 31

structure PipeFrame (sizes : PipeSizes) where
  garbage : List UInt8
  header : List UInt8
  data : List UInt8
  garbage_clean : ¬ replicate 4 markerByte <:+: garbage
  length_header : header.length = sizes.headerSize.toInt.toNat
  length_data_le : data.length ≤ sizes.limit.toInt.toNat

variable {sizes : PipeSizes}

namespace PipeFrame

def dataLen (frame : PipeFrame sizes) : Int32 := Int32.ofNat frame.data.length

def written (order : ByteOrder) (frame : PipeFrame sizes) : Option (List UInt8) :=
  (writeMsg order sizes.headerSize frame.header frame.data frame.dataLen).map (frame.garbage ++ ·)

/-- What the caller of `ReadMsg` is meant to get: the header from byte 4 on, and the data. -/
def contents (frame : PipeFrame sizes) : List UInt8 × List UInt8 := (frame.header.drop 4, frame.data)

def stored (frame : PipeFrame sizes) : Int32 := sizes.headerSize + frame.dataLen - 4

def headerRead (order : ByteOrder) (frame : PipeFrame sizes) : List UInt8 :=
  storeInt order frame.stored ++ frame.header.drop 4

/-- The parts that `WriteMsg` puts into the pipe, behind the garbage. -/
def parts (order : ByteOrder) (frame : PipeFrame sizes) : List UInt8 :=
  frame.garbage ++ (replicate 4 markerByte ++ (frame.headerRead order ++ frame.data))

end PipeFrame

def writeFrames (order : ByteOrder) : List (PipeFrame sizes) → Option (List UInt8)
  | [] => some []
  | frame :: frames => do
    let front ← frame.written order
    let back ← writeFrames order frames
    return front ++ back

def PipeMsg.contents (msg : PipeMsg) : List UInt8 × List UInt8 := (msg.header.drop 4, msg.data)

/-- So many reads as messages were written return these, once each and in order, and leave nothing. -/
def PipeRoundTrips (order : ByteOrder) (memory : SysMemory) (frames : List (PipeFrame sizes)) : Prop :=
  ∃ pipe msgs, writeFrames order frames = some pipe ∧
    readMsgs order memory sizes.headerSize frames.length pipe = some (msgs, []) ∧
    msgs.map PipeMsg.contents = frames.map PipeFrame.contents

structure SysMemory.Suffices (memory : SysMemory) (limit : Int32) : Prop where
  not_low : ∀ len : Int32, 0 ≤ len.toInt → len.toInt ≤ limit.toInt → memory.isSysMemoryLow (len / 1024) = false
  reallocs : ∀ len : Int32, 0 < len.toInt → len.toInt ≤ limit.toInt → memory.reallocs len = true

theorem toInt_sub_eq {a b : Int32} (hlow : -2 ^ 31 ≤ a.toInt - b.toInt) (hhigh : a.toInt - b.toInt < 2 ^ 31) :
    (a - b).toInt = a.toInt - b.toInt := by
  rw [Int32.toInt_sub]
  exact Int.bmod_eq_of_le (by omega) (by omega)

theorem toInt_add_eq {a b : Int32} (hlow : -2 ^ 31 ≤ a.toInt + b.toInt) (hhigh : a.toInt + b.toInt < 2 ^ 31) :
    (a + b).toInt = a.toInt + b.toInt := by
  rw [Int32.toInt_add]
  exact Int.bmod_eq_of_le (by omega) (by omega)

theorem PipeSizes.toInt_headerSize_sub (sizes : PipeSizes) :
    (sizes.headerSize - 4).toInt = sizes.headerSize.toInt - 4 := by
  have hfour := sizes.four_le
  have hlt := sizes.headerSize.toInt_lt
  exact toInt_sub_eq (by simp; omega) (by simp; omega)

theorem PipeFrame.toInt_dataLen (frame : PipeFrame sizes) : frame.dataLen.toInt = frame.data.length := by
  have hlen := frame.length_data_le
  have hfour := sizes.four_le
  have hnonneg := sizes.limit_nonneg
  have hfits := sizes.fits
  exact Int32.toInt_ofNat_of_lt (by omega)

theorem PipeFrame.toInt_stored (frame : PipeFrame sizes) :
    frame.stored.toInt = sizes.headerSize.toInt + frame.data.length - 4 := by
  have hlen := frame.length_data_le
  have hfour := sizes.four_le
  have hnonneg := sizes.limit_nonneg
  have hfits := sizes.fits
  have hdata := frame.toInt_dataLen
  have hsum : (sizes.headerSize + frame.dataLen).toInt = sizes.headerSize.toInt + frame.dataLen.toInt :=
    toInt_add_eq (by omega) (by omega)
  have hconst : (4 : Int32).toInt = 4 := rfl
  rw [stored, toInt_sub_eq (by omega) (by omega), hsum, hdata, hconst]

theorem dataLenOf_stored (frame : PipeFrame sizes) : dataLenOf sizes.headerSize frame.stored = frame.dataLen := by
  unfold dataLenOf PipeFrame.stored
  grind

theorem stored_of_dataLenOf {stored : Int32} (frame : PipeFrame sizes)
    (h : dataLenOf sizes.headerSize stored = frame.dataLen) : stored = frame.stored := by
  unfold dataLenOf at h
  unfold PipeFrame.stored
  grind

theorem dataLenOf_in_range_iff (sizes : PipeSizes) (stored : Int32) :
    (0 ≤ (dataLenOf sizes.headerSize stored).toInt ∧ (dataLenOf sizes.headerSize stored).toInt ≤ sizes.limit.toInt) ↔
      sizes.headerSize.toInt - 4 ≤ stored.toInt ∧ stored.toInt ≤ sizes.headerSize.toInt - 4 + sizes.limit.toInt := by
  have hfour := sizes.four_le
  have hnonneg := sizes.limit_nonneg
  have hfits := sizes.fits
  have hlow := stored.le_toInt
  have hhigh := stored.toInt_lt
  rw [dataLenOf, Int32.toInt_sub, sizes.toInt_headerSize_sub, Int.bmod_def]
  split
  all_goals omega

theorem writeBlock_all {block : List UInt8} (hlen : blockLen.toInt = block.length) :
    writeBlock block blockLen = some block := by
  have hnonneg : ¬ blockLen < 0 := by
    rw [Int32.lt_iff_toInt_lt]
    simp
    omega
  rw [writeBlock, if_neg hnonneg, hlen, Int.toNat_natCast, take_length]

theorem PipeFrame.toInt_headerSize_sub (frame : PipeFrame sizes) :
    (sizes.headerSize - 4).toInt = (frame.header.drop 4).length := by
  have hfour := sizes.four_le
  rw [sizes.toInt_headerSize_sub, length_drop, frame.length_header]
  omega

theorem PipeFrame.written_eq (order : ByteOrder) (frame : PipeFrame sizes) :
    frame.written order = some (frame.parts order) := by
  have hmarker : writeBlock (storeInt order pipeStartMarker.toInt32) 4 = some (replicate 4 markerByte) := by
    rw [storeInt_pipeStartMarker]
    rfl
  have hlen : writeBlock (storeInt order frame.stored) 4 = some (storeInt order frame.stored) :=
    writeBlock_all (by rw [length_storeInt]; rfl)
  have hheader := writeBlock_all frame.toInt_headerSize_sub
  have hdata := writeBlock_all frame.toInt_dataLen
  rw [stored] at hlen
  rw [written, writeMsg, hmarker, hlen, hheader, hdata]
  simp only [Option.bind_eq_bind, Option.bind_some, Option.pure_def, Option.map_some, parts, headerRead,
    stored, append_assoc]

theorem PipeFrame.length_headerRead (order : ByteOrder) (frame : PipeFrame sizes) :
    (frame.headerRead order).length = sizes.headerSize.toInt.toNat := by
  have hfour := sizes.four_le
  rw [headerRead, length_append, length_storeInt, length_drop, frame.length_header]
  omega

theorem decodes_readBlock {block : List UInt8} (hlen : blockLen.toInt = block.length)
    (hpos : 0 < block.length) : Decodes (readBlock blockLen) block block := by
  intro rest
  have hnot : ¬ blockLen ≤ 0 := by
    rw [Int32.le_iff_toInt_le]
    simp
    omega
  rw [readBlock, if_neg hnot, hlen, Int.toNat_natCast]
  exact decodes_readBytes block rest

theorem decodes_readData (hmemory : memory.Suffices sizes.limit) (frame : PipeFrame sizes) :
    Decodes (readData memory frame.dataLen) frame.data frame.data := by
  have hlen := frame.toInt_dataLen
  have hle := frame.length_data_le
  have hnonneg := sizes.limit_nonneg
  have hnotLow := hmemory.not_low frame.dataLen (by omega) (by omega)
  have hzero : frame.dataLen = 0 ↔ frame.data.length = 0 := by
    rw [← Int32.toInt_inj, hlen]
    simp
  unfold readData
  rw [if_neg (by simp [hnotLow])]
  by_cases hempty : frame.data.length = 0
  · have hdata : frame.data = [] := length_eq_zero_iff.1 hempty
    rw [if_neg (by simp [hzero.2 hempty]), if_neg (by simp [hzero.2 hempty]), hdata]
    exact decodes_pure []
  · have hne : frame.dataLen ≠ 0 := fun h => hempty (hzero.1 h)
    have hreallocs := hmemory.reallocs frame.dataLen (by omega) (by omega)
    rw [if_neg (by simp [hreallocs]), if_pos hne]
    exact decodes_readBlock hlen (by omega)

def PipeFrame.msg (order : ByteOrder) (frame : PipeFrame sizes) : PipeMsg :=
  { header := frame.headerRead order, data := frame.data }

theorem PipeFrame.contents_msg (order : ByteOrder) (frame : PipeFrame sizes) :
    (frame.msg order).contents = frame.contents := by
  simp only [msg, PipeMsg.contents, headerRead, contents]
  rw [drop_append_of_le_length (by rw [length_storeInt]), ← length_storeInt order frame.stored,
    drop_length, nil_append]

theorem decodes_readMsg (hmemory : memory.Suffices sizes.limit) (order : ByteOrder)
    (frame : PipeFrame sizes) (hend : runLength markerByte 0 frame.garbage = 0) :
    Decodes (readMsg order memory sizes.headerSize) (frame.parts order) (frame.msg order) := by
  have hmarker : Decodes readStartMarker (frame.garbage ++ replicate 4 markerByte) () := by
    intro rest
    rw [append_assoc, readStartMarker_noise frame.garbage_clean, hend]
    rfl
  have hheader : Decodes (readBlock sizes.headerSize) (frame.headerRead order) (frame.headerRead order) := by
    have hfour := sizes.four_le
    have hlen := frame.length_headerRead order
    exact decodes_readBlock (by omega) (by omega)
  have hload : loadInt order (frame.headerRead order) = frame.stored := loadInt_storeInt order _ _
  have hdata : Decodes (readData memory (dataLenOf sizes.headerSize (loadInt order (frame.headerRead order))))
      frame.data frame.data := by
    rw [hload, dataLenOf_stored]
    exact decodes_readData hmemory frame
  have hmsg := hdata.bind_pure (f := PipeMsg.mk (frame.headerRead order))
  rw [PipeFrame.parts, ← append_assoc]
  refine hmarker.bind ?_
  exact Decodes.bind (f := fun header => do
    let data ← readData memory (dataLenOf sizes.headerSize (loadInt order header))
    pure (PipeMsg.mk header data)) hheader hmsg

theorem loadInt_take (order : ByteOrder) (block : List UInt8) (hlen : 4 ≤ block.length) :
    loadInt order (block.take 4) = loadInt order block := by
  match block, hlen with
  | b₀ :: b₁ :: b₂ :: b₃ :: rest, _ =>
    cases order with
    | big => rfl
    | little => rfl

theorem length_of_readBlock {pipe pipe' block : List UInt8} (h : readBlock blockLen pipe = some (block, pipe')) :
    blockLen.toInt = block.length ∧ block = pipe.take blockLen.toInt.toNat := by
  unfold readBlock at h
  by_cases hle : blockLen ≤ 0
  · rw [if_pos hle] at h
    cases h
  rw [if_neg hle, readBytes] at h
  have hpos : 0 < blockLen.toInt := by
    rw [Int32.le_iff_toInt_le] at hle
    simpa using hle
  by_cases hlen : blockLen.toInt.toNat ≤ pipe.length
  · rw [if_pos hlen] at h
    cases h
    rw [length_take]
    exact ⟨by omega, rfl⟩
  · rw [if_neg hlen] at h
    cases h

theorem length_of_readData {dataLen : Int32} {pipe pipe' data : List UInt8}
    (h : readData memory dataLen pipe = some (data, pipe')) : dataLen.toInt = data.length := by
  unfold readData at h
  by_cases hlow : memory.isSysMemoryLow (dataLen / 1024) = true
  · rw [if_pos hlow] at h
    cases h
  rw [if_neg hlow] at h
  by_cases hnull : ¬ memory.reallocs dataLen = true ∧ dataLen ≠ 0
  · rw [if_pos hnull] at h
    cases h
  rw [if_neg hnull] at h
  by_cases hzero : dataLen = 0
  · rw [if_neg (by simpa using hzero)] at h
    cases h
    rw [hzero]
    rfl
  · rw [if_pos hzero] at h
    exact (length_of_readBlock h).1

theorem loadInt_early (order : ByteOrder) (frame : PipeFrame sizes) {early : Nat} (hpos : 0 < early) (hlt : early < 4)
    (rest : List UInt8) :
    loadInt order ((replicate early markerByte ++ (storeInt order frame.stored ++ rest)).take 4) ≠ frame.stored := by
  intro heq
  have hfront : (replicate early markerByte ++ (storeInt order frame.stored ++ rest)).take 4 =
      replicate early markerByte ++ (storeInt order frame.stored).take (4 - early) := by
    rw [take_append, length_replicate, take_of_length_le (by simp; omega),
      take_append_of_le_length (by simp)]
  have hown : loadInt order (storeInt order frame.stored) = frame.stored := by
    simpa using loadInt_storeInt order frame.stored []
  have hlen : (replicate early markerByte ++ (storeInt order frame.stored).take (4 - early)).length = 4 := by
    simp
    omega
  rw [hfront] at heq
  have hshift := loadInt_inj hlen (length_storeInt order frame.stored) (heq.trans hown.symm)
  have hsame := eq_replicate_of_shift hpos ((congrArg _ (by rw [length_storeInt])).trans hshift)
  rw [length_storeInt, ← storeInt_pipeStartMarker order] at hsame
  have hmarker : frame.stored = pipeStartMarker.toInt32 := by
    calc frame.stored = loadInt order (storeInt order frame.stored ++ []) := (loadInt_storeInt order _ []).symm
      _ = loadInt order (storeInt order pipeStartMarker.toInt32 ++ []) := by rw [hsame]
      _ = pipeStartMarker.toInt32 := loadInt_storeInt order _ []
  -- The marker is negative as a length.
  have hnegative : frame.stored.toInt < 0 := by
    rw [hmarker]
    decide
  have hfour := sizes.four_le
  have hstored := frame.toInt_stored
  omega

theorem length_readMsg_early {order : ByteOrder} {frame : PipeFrame sizes}
    (hend : runLength markerByte 0 frame.garbage ≠ 0) {rest pipe' : List UInt8} {msg : PipeMsg}
    (h : readMsg order memory sizes.headerSize (frame.parts order ++ rest) = some (msg, pipe')) :
    msg.data.length ≠ frame.data.length := by
  intro hlen
  have hlt : runLength markerByte 0 frame.garbage < 4 := runLength_lt frame.garbage_clean
  rw [PipeFrame.parts, append_assoc, append_assoc, readMsg] at h
  obtain ⟨found, pipe₁, hmarker, h⟩ := bind_eq_some_iff.1 h
  obtain ⟨header, pipe₂, hheader, h⟩ := bind_eq_some_iff.1 h
  obtain ⟨data, pipe₃, hdata, h⟩ := bind_eq_some_iff.1 h
  cases h
  rw [readStartMarker_noise frame.garbage_clean] at hmarker
  cases hmarker
  obtain ⟨hheaderLen, hheader⟩ := length_of_readBlock hheader
  have hcomputed := length_of_readData hdata
  have hsame : dataLenOf sizes.headerSize (loadInt order header) = frame.dataLen := by
    rw [← Int32.toInt_inj, frame.toInt_dataLen]
    exact hcomputed.trans (congrArg _ hlen)
  have hstored := stored_of_dataLenOf frame hsame
  have hfour := sizes.four_le
  rw [← loadInt_take order header (by omega), hheader, take_take, Nat.min_eq_left (by omega),
    PipeFrame.headerRead, append_assoc, append_assoc] at hstored
  exact loadInt_early order frame (by omega) hlt _ hstored

section Frames

variable {order : ByteOrder} {memory : SysMemory} (hmemory : memory.Suffices sizes.limit)

theorem pipeRoundTrips_nil : PipeRoundTrips order memory ([] : List (PipeFrame sizes)) :=
  ⟨[], [], rfl, rfl, rfl⟩

theorem exists_writeFrames (order : ByteOrder) (frames : List (PipeFrame sizes)) :
    ∃ pipe, writeFrames order frames = some pipe := by
  induction frames with
  | nil => exact ⟨[], rfl⟩
  | cons frame frames ih =>
    obtain ⟨back, hback⟩ := ih
    rw [writeFrames, frame.written_eq, hback]
    exact ⟨_, rfl⟩

variable {frame : PipeFrame sizes}

include hmemory in
theorem pipeRoundTrips_cons_iff (hend : runLength markerByte 0 frame.garbage = 0) (frames : List (PipeFrame sizes)) :
    PipeRoundTrips order memory (frame :: frames) ↔ PipeRoundTrips order memory frames := by
  obtain ⟨back, hback⟩ := exists_writeFrames order frames
  have hwrite : writeFrames order (frame :: frames) = some (frame.parts order ++ back) := by
    rw [writeFrames, frame.written_eq, hback]
    rfl
  have hfirst := decodes_readMsg hmemory order frame hend back
  constructor
  · rintro ⟨pipe, msgs, hpipe, hread, hcontents⟩
    rw [hwrite] at hpipe
    cases hpipe
    obtain ⟨msg, left, hmsg, hread⟩ := bind_eq_some_iff.1 hread
    obtain ⟨msgs', left', hmsgs, hread⟩ := bind_eq_some_iff.1 hread
    cases hread
    rw [hfirst] at hmsg
    cases hmsg
    exact ⟨back, msgs', hback, hmsgs, (cons.inj hcontents).2⟩
  · rintro ⟨pipe, msgs, hpipe, hread, hcontents⟩
    rw [hback] at hpipe
    cases hpipe
    refine ⟨_, frame.msg order :: msgs, hwrite, ?_, ?_⟩
    · refine bind_eq_some_iff.2 ⟨_, _, hfirst, ?_⟩
      exact bind_eq_some_iff.2 ⟨_, _, hread, rfl⟩
    · exact congrArg₂ cons (frame.contents_msg order) hcontents

theorem not_pipeRoundTrips_cons (hend : runLength markerByte 0 frame.garbage ≠ 0)
    (frames : List (PipeFrame sizes)) : ¬ PipeRoundTrips order memory (frame :: frames) := by
  rintro ⟨pipe, msgs, hpipe, hread, hcontents⟩
  obtain ⟨back, hback⟩ := exists_writeFrames order frames
  rw [writeFrames, frame.written_eq, hback] at hpipe
  cases hpipe
  obtain ⟨msg, left, hmsg, hread⟩ := bind_eq_some_iff.1 hread
  obtain ⟨msgs', left', -, hread⟩ := bind_eq_some_iff.1 hread
  cases hread
  have hdata : msg.data = frame.data := congrArg Prod.snd (cons.inj hcontents).1
  exact length_readMsg_early hend hmsg (congrArg length hdata)

include hmemory in
theorem pipeRoundTrips_iff (frames : List (PipeFrame sizes)) :
    PipeRoundTrips order memory frames ↔ ∀ frame ∈ frames, frame.garbage.getLast? ≠ some markerByte := by
  induction frames with
  | nil => simpa using pipeRoundTrips_nil
  | cons frame frames ih =>
    rw [forall_mem_cons, ← runLength_eq_zero_iff]
    by_cases hend : runLength markerByte 0 frame.garbage = 0
    · rw [pipeRoundTrips_cons_iff hmemory hend, ih]
      exact (and_iff_right hend).symm
    · constructor
      · intro htrips
        exact absurd htrips (not_pipeRoundTrips_cons hend frames)
      · intro hgood
        exact absurd hgood.1 hend

end Frames

/-- The messages come back exactly when no garbage ends in the byte of the marker. The length computed for the data is exactly then in range when the stored one is that of a message within the limit. -/
theorem pipe_roundTrip (sizes : PipeSizes) (order : ByteOrder) {memory : SysMemory}
    (hmemory : memory.Suffices sizes.limit) :
    (∀ frames : List (PipeFrame sizes),
      PipeRoundTrips order memory frames ↔ ∀ frame ∈ frames, frame.garbage.getLast? ≠ some markerByte) ∧
    ∀ stored : Int32,
      (0 ≤ (dataLenOf sizes.headerSize stored).toInt ∧ (dataLenOf sizes.headerSize stored).toInt ≤ sizes.limit.toInt) ↔
        sizes.headerSize.toInt - 4 ≤ stored.toInt ∧ stored.toInt ≤ sizes.headerSize.toInt - 4 + sizes.limit.toInt :=
  ⟨pipeRoundTrips_iff hmemory, dataLenOf_in_range_iff sizes⟩

def sampleMemory : SysMemory where
  isSysMemoryLow _ := false
  reallocs len := decide (0 ≤ len)

def sampleSizes : PipeSizes where
  headerSize := 8
  limit := 16
  four_le := by decide
  limit_nonneg := by decide
  fits := by decide

theorem sampleMemory_suffices : sampleMemory.Suffices sampleSizes.limit where
  not_low _ _ _ := rfl
  reallocs len hpos _ := by
    apply decide_eq_true
    rw [Int32.le_iff_toInt_le]
    exact hpos.le

def sampleFrame (garbage : List UInt8) (h : ¬ replicate 4 markerByte <:+: garbage) : PipeFrame sampleSizes where
  garbage := garbage
  header := [0, 0, 0, 0, 1, 2, 3, 4]
  data := [9]
  garbage_clean := h
  length_header := by decide
  length_data_le := by decide

theorem pipe_roundTrip_sample :
    PipeRoundTrips .little sampleMemory [sampleFrame [1, 0xcb, 2] (by decide), sampleFrame [] (by decide)] :=
  ((pipe_roundTrip sampleSizes .little sampleMemory_suffices).1 _).2 (by decide)

/-- One marker byte in front of a message is enough to lose it, and a stored length of 0 makes a length of -4. -/
theorem markerByte_loses_message : ¬ PipeRoundTrips .little sampleMemory [sampleFrame [0xcb] (by decide)] ∧
      (dataLenOf sampleSizes.headerSize 0).toInt = -4 :=
  ⟨not_pipeRoundTrips_cons (by decide) [], by decide⟩

end Isa100Gateway
