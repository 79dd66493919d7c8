import Isa100Gateway.Lib.Run
import Isa100Gateway.Lib.Tiling

/-!
# Reception of a file (`FirmwareUpdateManager.cpp`, `UDO.cpp`)

A client sends the upload/download object of the system manager a file in blocks that are numbered from one. A request that throws leaves the session as it was, without an answer. No code sets a cutover time, so that a file is applied at once.
-/

namespace Isa100Gateway.SystemManager.FirmwareUpdate

open Tiling

inductive Phase
  | idle | downloading | dlComplete | dlError | applicationSetup
  deriving DecidableEq

inductive SFC
  | success | operationAccepted | invalidArgument | unexpectedMethodSequence | dataSequenceError | invalidBlockNumber
  | blockDataError
  deriving DecidableEq

structure FirmwareUpdateManager where
  (fileSize blockSize blocksNo currentBlockId : Nat)
  fileBlocks : List (List UInt8)
  phase : Phase

namespace FirmwareUpdateManager

section

variable (u : FirmwareUpdateManager)

def fileSetup : FirmwareUpdateManager := ⟨0, 0, 0, 0, [], .applicationSetup⟩

def setPhase (phase : Phase) : FirmwareUpdateManager := { u with phase := phase }

def initServerDownload (blockSize fileSize : Nat) : FirmwareUpdateManager :=
  { u with
    blockSize := blockSize
    fileSize := fileSize
    blocksNo := (fileSize + blockSize - 1) % 2 ^ 32 / blockSize % 2 ^ 16 }

def lastBlockSize : Nat := if u.fileSize % u.blockSize = 0 then u.blockSize else u.fileSize % u.blockSize

def getNextBlockSize : Nat := if u.currentBlockId + 1 = u.blocksNo then u.lastBlockSize else u.blockSize

def confirmBlock (blockId : Nat) (bytes : List UInt8) : SFC × FirmwareUpdateManager :=
  if u.currentBlockId = blockId then (.dataSequenceError, u)
  else if u.currentBlockId + 1 ≠ blockId then (.invalidBlockNumber, u)
  else if blockId ≠ u.blocksNo ∧ bytes.length ≠ u.blockSize ∨
      blockId = u.blocksNo ∧ bytes.length % 2 ^ 16 ≠ u.lastBlockSize then (.blockDataError, u)
  else
    (.success, { u with currentBlockId := (u.currentBlockId + 1) % 2 ^ 16, fileBlocks := u.fileBlocks ++ [bytes] })

def isDownloadComplete (rationale : UInt8) : SFC × FirmwareUpdateManager :=
  if rationale = 1 then (.success, u.setPhase .idle)
  else if u.currentBlockId ≠ u.blocksNo then (.unexpectedMethodSequence, u.setPhase .dlError)
  else (.success, u.setPhase .dlComplete)

end

end FirmwareUpdateManager

open FirmwareUpdateManager

abbrev Session := Option FirmwareUpdateManager

/-- The session after a request and the answer, with the numbers that it tells. -/
abbrev Reply := Session × Option (SFC × List Nat)

section

variable (u : FirmwareUpdateManager)

def serverStartDownload (blockSize : UInt16) (downloadSize : UInt32) : Reply :=
  if blockSize = 0 then (some u, some (.invalidArgument, []))
  else (some ((u.initServerDownload blockSize.toNat downloadSize.toNat).setPhase .downloading), some (.success, []))

def serverDataDownload (blockId : UInt16) (data : List UInt8) : Reply :=
  if data.length < u.getNextBlockSize then (some u, none)
  else
    let (code, u) := u.confirmBlock blockId.toNat (data.take u.getNextBlockSize)
    (some u, some (code, if code = .invalidBlockNumber ∨ code = .dataSequenceError then [u.currentBlockId] else []))

def serverEndDownload (rationale : UInt8) : Reply :=
  let (code, u) := u.isDownloadComplete rationale
  (some u, some (code, []))

/-- The session, the answer and the file that is written. -/
def writeCommand (command : UInt8) : FirmwareUpdateManager × SFC × Option (List UInt8) :=
  if u.phase = .dlComplete ∨ u.phase = .dlError ∨ u.phase = .applicationSetup then
    if command = 1 then ({ u with fileBlocks := [] }.setPhase .idle, .operationAccepted, some u.fileBlocks.flatten)
    else (u.setPhase .idle, .success, none)
  else (u.setPhase .idle, .unexpectedMethodSequence, none)

/-- A session that was idle for five minutes is erased. -/
def checkTimeouts (idleExpired existsConfirmedDevice isServerTimeOut : Bool) : Session :=
  if u.phase = .idle then if idleExpired then none else some u
  else if !existsConfirmedDevice then some (u.setPhase .idle)
  else if isServerTimeOut then some (u.setPhase .dlError)
  else some u

end

def inPhase (session : Session) (phase : Phase) (request : FirmwareUpdateManager → Reply) : Reply :=
  match session.filter (·.phase = phase) with
  | none => (session, some (.unexpectedMethodSequence, []))
  | some u => request u

/-- What `setFileName` finds: its client is no device or none that is confirmed, the file cannot be created, or it can. -/
inductive FileSetup
  | noDevice | notConfirmed | fileError | created

def deviceNotExists : Nat := 1

def fileError : Nat := 3

/-- The status is the one parameter of the answer; a client that is no device gets none. -/
def setFileName (session : Session) : FileSetup → Reply
  | .noDevice => (session, none)
  | .notConfirmed => (session, some (.success, [deviceNotExists]))
  | .fileError => (session, some (.success, [fileError]))
  | .created => (some fileSetup, some (.success, [0]))

inductive UdoEvent
  | setFileName (found : FileSetup)
  | startDownload (blockSize : UInt16) (downloadSize : UInt32)
  | dataDownload (blockId : UInt16) (data : List UInt8)
  | endDownload (rationale : UInt8)
  | writeCommand (command : UInt8)
  | checkTimeouts (idleExpired existsConfirmedDevice isServerTimeOut : Bool)

def udoStep (session : Session) : UdoEvent → Reply
  | .setFileName found => setFileName session found
  | .startDownload blockSize downloadSize =>
    inPhase session .applicationSetup (serverStartDownload · blockSize downloadSize)
  | .dataDownload blockId data => inPhase session .downloading (serverDataDownload · blockId data)
  | .endDownload rationale => inPhase session .downloading (serverEndDownload · rationale)
  | .writeCommand command =>
    (session.map fun u => (writeCommand u command).1, session.map fun u => ((writeCommand u command).2.1, []))
  | .checkTimeouts idleExpired existsConfirmedDevice isServerTimeOut =>
    (session.bind (checkTimeouts · idleExpired existsConfirmedDevice isServerTimeOut), none)

def udoWrites (session : Session) : UdoEvent → Option (List UInt8)
  | .writeCommand command => session.bind fun u => (writeCommand u command).2.2
  | _ => none

/-! ## The file on the way -/

variable {file : List UInt8} {size : Nat}

def fileBlock (file : List UInt8) (size i : Nat) : List UInt8 := (file.drop (i * size)).take size

theorem flatten_fileBlock (file : List UInt8) (size n : Nat) :
    ((List.range n).map (fileBlock file size)).flatten = file.take (n * size) := by
  induction n with
  | zero => simp
  | succ n ih =>
    rw [List.range_succ, List.map_append, List.flatten_append, ih, Nat.succ_mul, List.take_add]
    simp [fileBlock]

/-- The sizes fit the counters of a session. -/
structure Transferable (file : List UInt8) (size : Nat) : Prop where
  positive : 0 < size
  fits : file.length + size < 2 ^ 32
  count : blockCount file.length size < 2 ^ 16

/-- What a client of the file sends, in any order and as often as it likes. -/
def Sends (file : List UInt8) (size : Nat) : UdoEvent → Prop
  | .startDownload blockSize downloadSize => blockSize.toNat = size ∧ downloadSize.toNat = file.length
  | .dataDownload blockId data => ∃ i < blockCount file.length size, blockId.toNat = i + 1 ∧ data =
    fileBlock file size i
  | _ => True

namespace FirmwareUpdateManager

variable {u : FirmwareUpdateManager}

def Announced (file : List UInt8) (size : Nat) (u : FirmwareUpdateManager) : Prop :=
  u.blockSize = size ∧ u.fileSize = file.length ∧ u.blocksNo = blockCount file.length size

/-- The session has the first blocks of the file, and all of them where the download is complete. -/
structure Receives (file : List UInt8) (size : Nat) (u : FirmwareUpdateManager) : Prop where
  count : u.currentBlockId ≤ blockCount file.length size
  blocks : u.fileBlocks = (List.range u.currentBlockId).map (fileBlock file size)
  announced : u.phase = .downloading ∨ u.phase = .dlComplete → u.Announced file size
  complete : u.phase = .dlComplete → u.currentBlockId = u.blocksNo

theorem announced_start (hfile : Transferable file size) (u : FirmwareUpdateManager) :
    (u.initServerDownload size file.length).Announced file size := by
  have hfits := hfile.fits
  refine ⟨rfl, rfl, ?_⟩
  change (file.length + size - 1) % 2 ^ 32 / size % 2 ^ 16 = blockCount file.length size
  rw [Nat.mod_eq_of_lt (show file.length + size - 1 < 2 ^ 32 by omega)]
  exact Nat.mod_eq_of_lt hfile.count

theorem Announced.block_le (h : u.Announced file size) (hfile : Transferable file size)
    (hcount : u.currentBlockId < blockCount file.length size) :
    (fileBlock file size u.currentBlockId).length ≤ u.getNextBlockSize := by
  obtain ⟨hblock, hsize, hblocks⟩ := h
  rw [fileBlock, List.length_take, List.length_drop, getNextBlockSize, lastBlockSize, hblock, hsize, hblocks]
  split_ifs with hlast hrest
  · exact Nat.min_le_left ..
  · have hstart := (lt_blockCount_iff hfile.positive).mp hcount
    have hend : file.length ≤ _ := le_blockCount_mul hfile.positive
    rw [← hlast, Nat.succ_mul] at hend
    have hmod := Nat.add_mul_mod_self_right (file.length - u.currentBlockId * size) u.currentBlockId size
    rw [Nat.sub_add_cancel (Nat.le_of_lt hstart)] at hmod
    have hlt : file.length - u.currentBlockId * size < size := by
      refine Nat.lt_of_le_of_ne (by omega) fun heq => hrest ?_
      rw [hmod, heq, Nat.mod_self]
    rw [hmod, Nat.mod_eq_of_lt hlt]
    exact Nat.min_le_right ..
  · exact Nat.min_le_left ..

theorem Receives.confirm (h : u.Receives file size) (hfile : Transferable file size) (hphase : u.phase = .downloading)
    {i : Nat} (hi : i < blockCount file.length size) :
    (u.confirmBlock (i + 1) ((fileBlock file size i).take u.getNextBlockSize)).2.Receives file size := by
  unfold confirmBlock
  split_ifs with _ hnext
  · exact h
  · exact h
  · exact h
  obtain rfl : u.currentBlockId = i := by omega
  have hannounced := h.announced (.inl hphase)
  rw [Nat.mod_eq_of_lt (Nat.lt_of_le_of_lt hi hfile.count), List.take_of_length_le (hannounced.block_le hfile hi)]
  refine ⟨hi, ?_, fun _ => hannounced, fun hcomplete => ?_⟩
  · rw [List.range_succ, List.map_append, ← h.blocks]
    rfl
  · cases hphase.symm.trans hcomplete

end FirmwareUpdateManager

variable {session : Session} {u : FirmwareUpdateManager}

def Inv (file : List UInt8) (size : Nat) (session : Session) : Prop :=
  ∀ u ∈ session, u.phase ≠ .idle → u.Receives file size

theorem inv_none : Inv file size none := by
  rintro _ ⟨⟩

theorem inv_some (h : u.phase ≠ .idle → u.Receives file size) : Inv file size (some u) := by
  rintro _ ⟨⟩
  exact h

theorem inv_idle (u : FirmwareUpdateManager) : Inv file size (some (u.setPhase .idle)) :=
  inv_some fun hphase => absurd rfl hphase

theorem inv_fail (h : u.Receives file size) : Inv file size (some (u.setPhase .dlError)) :=
  inv_some fun _ => ⟨h.count, h.blocks, by simp [setPhase], by simp [setPhase]⟩

theorem inv_inPhase {phase : Phase} {request : FirmwareUpdateManager → Reply} (h : Inv file size session)
    (hphase : phase ≠ .idle) (hrequest : ∀ u, u.Receives file size → u.phase = phase → Inv file size (request u).1) :
    Inv file size (inPhase session phase request).1 := by
  unfold inPhase
  split
  · exact h
  · next u hu =>
    obtain ⟨hu, hin⟩ := Option.filter_eq_some_iff.mp hu
    have hin := of_decide_eq_true hin
    exact hrequest u (h u hu (hin.trans_ne hphase)) hin

theorem inv_step (hfile : Transferable file size) (h : Inv file size session) {e : UdoEvent} (he : Sends file size e) :
    Inv file size (udoStep session e).1 := by
  cases e with
  | setFileName found =>
    cases found with
    | created => exact inv_some fun _ => ⟨Nat.zero_le _, rfl, by simp [fileSetup], by simp [fileSetup]⟩
    | _ => exact h
  | startDownload blockSize downloadSize =>
    obtain ⟨rfl, hsize⟩ := he
    refine inv_inPhase h (by decide) fun u hu _ => ?_
    have hpositive : blockSize ≠ 0 := by
      rintro rfl
      exact Nat.lt_irrefl 0 hfile.positive
    rw [serverStartDownload, if_neg hpositive, hsize]
    exact inv_some fun _ =>
      ⟨hu.count, hu.blocks, fun _ => announced_start hfile u, by simp [setPhase]⟩
  | dataDownload blockId data =>
    obtain ⟨i, hi, hid, rfl⟩ := he
    refine inv_inPhase h (by decide) fun u hu hphase => ?_
    unfold serverDataDownload
    rw [hid]
    split
    · exact inv_some fun _ => hu
    · exact inv_some fun _ => hu.confirm hfile hphase hi
  | endDownload rationale =>
    refine inv_inPhase h (by decide) fun u hu hphase => ?_
    unfold serverEndDownload isDownloadComplete
    split_ifs with _ hall
    · exact inv_idle u
    · exact inv_fail hu
    · have hannounced := hu.announced (.inl hphase)
      exact inv_some fun _ => ⟨hu.count, hu.blocks, fun _ => hannounced, fun _ => not_not.mp hall⟩
  | writeCommand command =>
    rcases session with _ | u
    · exact inv_none
    · change Inv file size (some (writeCommand u command).1)
      unfold writeCommand
      split_ifs
      · exact inv_idle _
      · exact inv_idle u
      · exact inv_idle u
  | checkTimeouts idleExpired existsConfirmedDevice isServerTimeOut =>
    rcases session with _ | u
    · exact inv_none
    · change Inv file size (checkTimeouts u idleExpired existsConfirmedDevice isServerTimeOut)
      unfold checkTimeouts
      split_ifs with hidle
      · exact inv_none
      · exact h
      · exact inv_idle u
      · exact inv_fail (h u rfl hidle)
      · exact h

/-- In every run with a client of the file, whose blocks may be lost, repeated and come in any order, what is written is the file up to a block, and the whole file where the download was complete. -/
theorem file_written (hfile : Transferable file size)
    (h : Machine.Reachable none (fun session e => (udoStep session e).1) (fun _ e => Sends file size e) session)
    {e : UdoEvent} {written : List UInt8} (hwritten : udoWrites session e = some written) :
    ∃ u ∈ session, ∃ n ≤ blockCount file.length size,
      written = file.take (n * size) ∧ (u.phase = .dlComplete → written = file) := by
  have hinv : Inv file size session := h.invariant inv_none fun _ _ h he => inv_step hfile h he
  cases e with
  | writeCommand command =>
    obtain ⟨u, hu, hfile'⟩ := Option.bind_eq_some_iff.mp hwritten
    unfold writeCommand at hfile'
    split_ifs at hfile' with hphase
    cases hfile'
    have hreceives := hinv u hu (by rintro hidle; simp [hidle] at hphase)
    refine ⟨u, hu, u.currentBlockId, hreceives.count, ?_, fun hcomplete => ?_⟩
    · rw [hreceives.blocks, flatten_fileBlock]
    · have hall := (hreceives.complete hcomplete).trans (hreceives.announced (.inr hcomplete)).2.2
      rw [hreceives.blocks, flatten_fileBlock, hall, List.take_of_length_le (le_blockCount_mul hfile.positive)]
  | _ => cases hwritten

/-- A file of two blocks, the first of them repeated. -/
def threeBytesSent : List UdoEvent :=
  [.setFileName .created, .startDownload 2 3, .dataDownload 1 [7, 8], .dataDownload 1 [7, 8], .dataDownload 2 [9],
    .endDownload 0]

theorem file_written_threeBytes : ∃ written ∈ udoWrites
    (Machine.run (fun session e => (udoStep session e).1) none threeBytesSent) (.writeCommand 1), written =
      [7, 8, 9] := by
  have hfile : Transferable [7, 8, 9] 2 := ⟨by decide, by decide, by decide⟩
  refine ⟨_, rfl, ?_⟩
  have hsent : Machine.Along (fun _ e => Sends [7, 8, 9] 2 e)
    (fun session e => (udoStep session e).1) none threeBytesSent :=
    ⟨trivial, ⟨rfl, rfl⟩, ⟨0, by decide, rfl, rfl⟩, ⟨0, by decide, rfl, rfl⟩, ⟨1, by decide, rfl, rfl⟩, trivial,
      trivial⟩
  obtain ⟨u, hu, -, -, -, hall⟩ := file_written hfile (Machine.reachable_run hsent) (e := .writeCommand 1) rfl
  cases hu
  exact hall rfl

end Isa100Gateway.SystemManager.FirmwareUpdate
