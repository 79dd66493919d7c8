import Isa100Gateway.Gateway.BulkTransfer

/-!
# Completeness of a bulk download (`BulkTransferSvc.cpp`)

The service counts the transfer requests that it hands to the stack, and compares the count with the quotient of the sizes plus one. The runs in which this decides whether the device has the file, and those in which the block size fits the contract.
-/

namespace Isa100Gateway.BulkTransferService

open BulkState

def fileBlock (bytes : List UInt8) (block i : Nat) : List UInt8 :=
  let span := Tiling.blockSpan bytes.length block i
  Stream.write16 (UInt16.ofNat i) ++ (bytes.drop span.1).take span.2

def Progress.spans (t : Progress) : List (Nat × Nat) :=
  Tiling.blockSpans t.file.bytes.length t.blockSize.toNat

structure Progress.Complete (t : Progress) : Prop where
  count : t.spans.length ≤ t.acked.length
  ofFile : ∀ data ∈ t.acked, ∃ i < t.spans.length, data = fileBlock t.file.bytes t.blockSize.toNat i
  all : ∀ i < t.spans.length, fileBlock t.file.bytes t.blockSize.toNat i ∈ t.acked

instance (t : Progress) : Decidable t.Complete :=
  decidable_of_iff
    (t.spans.length ≤ t.acked.length ∧
      (∀ data ∈ t.acked, ∃ i < t.spans.length, data = fileBlock t.file.bytes t.blockSize.toNat i) ∧
      ∀ i < t.spans.length, fileBlock t.file.bytes t.blockSize.toNat i ∈ t.acked)
    ⟨fun h => ⟨h.1, h.2.1, h.2.2⟩, fun h => ⟨h.count, h.ofFile, h.all⟩⟩

/-- When a close request ends a transfer the way that its blocks ask for: the number of blocks does not overflow, no transfer request beyond the quotient of the sizes was in vain, a file of whole blocks is not complete with one request for each of them, and a GSAP session does not abort. -/
structure AdmissibleClose (u : RemUDOData) (ygsap : Bool) : Prop where
  total : u.file.bytes.length / u.blockSize.toNat + 1 < 2 ^ 32
  counted : u.sent < 2 ^ 16
  surplus : u.file.bytes.length / u.blockSize.toNat < u.sent → u.progress.Complete
  multiple : u.blockSize.toNat ∣ u.file.bytes.length → u.sent = u.file.bytes.length / u.blockSize.toNat →
    ¬ u.progress.Complete
  aborted : ygsap = false → u.progress.Complete

/-- The device has blocks of a size, and `apply` can be sent. -/
def AdmissibleAnswer (u : RemUDOData) (request : UdoRequest) (rsp : Response) (tracked sent : Bool) : Prop :=
  rsp.sfc = sfcSuccess → tracked →
    (u.state = .idle → rsp.type = .readRsp → rsp.attrID request = udoMaxBlckSize → rsp.data16 ≠ 0) ∧
    (u.state = .dlComplete → rsp.type = .execRsp → sent)

def Admissible (s : BulkState) : BulkEvent → Prop
  | .openRequest _ lease _ => ∀ maxNSDU ∈ lease.join, blockOverhead < maxNSDU
  | .transferRequest .. => ∀ u ∈ s.entry, u.state = .idle ∨ u.state = .downloading
  | .closeRequest ygsap .. => ∀ u ∈ s.entry, AdmissibleClose u ygsap
  | .apdu rsp tracked sent => ∀ u ∈ s.entry, ∀ p ∈ u.pending, AdmissibleAnswer u p.request rsp tracked sent
  | .isaTimeout _ | .leaseDelete _ => True

structure Sized (u : RemUDOData) : Prop where
  size : u.bulkSize = u.file.size
  positive : 0 < u.blockSize
  fits : u.blockSize.toNat + blockOverhead.toNat ≤ u.maxNSDU.toNat
  counted : u.currentBlock = UInt16.ofNat u.sent
  acked : u.acked.length ≤ u.sent

def Finished (closed : Option Progress) : Prop := ∃ t ∈ closed, t.Complete

/-- What a client that waits for the answer to a request may rely on in a state of the transfer. -/
def Honest (closed : Option Progress) (state : UdoState) (requester : Requester) : Prop :=
  ∀ ygsap, requester = .client ygsap →
    (state = .dlComplete ∨ state = .applying → Finished closed) ∧ (state = .dlError → ygsap)

structure TransferInv (closed : Option Progress) (u : RemUDOData) : Prop where
  sized : Sized u
  awaited : ∀ p ∈ u.pending, u.acked.length + (blockOf p.request).length ≤ u.sent
  honest : ∀ p ∈ u.pending, Honest closed u.state p.requester

structure Sound (closed : Option Progress) (outcome : Outcome) : Prop where
  entry : ∀ u ∈ outcome.1, TransferInv closed u
  honest : .bulkClose bulkcSuccess ∈ outcome.2 → Finished closed

@[simp]
theorem not_mem_confirmBulkOpen (status : UInt8) (requester : Requester) (ygs gsap : UInt8) (blockSize : UInt16)
    (itemSize : UInt32) : .bulkClose status ∉ confirmBulkOpen requester ygs gsap blockSize itemSize := by
  cases requester <;> simp [confirmBulkOpen, confirm]

@[simp]
theorem not_mem_confirmBulkTransfer (status : UInt8) (requester : Requester) (ygs gsap : UInt8) :
    .bulkClose status ∉ confirmBulkTransfer requester ygs gsap := by
  cases requester <;> simp [confirmBulkTransfer, confirm]

theorem mem_confirmBulkClose_iff (status : UInt8) (requester : Requester) (ygs gsap : UInt8) :
    .bulkClose status ∈ confirmBulkClose requester ygs gsap ↔
      ∃ ygsap, requester = .client ygsap ∧ status = if ygsap then ygs else gsap := by
  cases requester <;> simp [confirmBulkClose, confirm]

theorem not_mem_confirmBulkClose {ygs gsap : UInt8} (hygs : bulkcSuccess ≠ ygs) (hgsap : bulkcSuccess ≠ gsap)
    {requester : Requester} : .bulkClose bulkcSuccess ∉ confirmBulkClose requester ygs gsap := by
  rw [mem_confirmBulkClose_iff]
  rintro ⟨ygsap, -, hstatus⟩
  split at hstatus
  · exact hygs hstatus
  · exact hgsap hstatus

theorem not_mem_confirmBulkClose_ygsap {ygs gsap : UInt8} (hygs : bulkcSuccess ≠ ygs) :
    .bulkClose bulkcSuccess ∉ confirmBulkClose (.client true) ygs gsap := by
  rw [mem_confirmBulkClose_iff]
  rintro ⟨_, ⟨⟩, hstatus⟩
  exact hygs hstatus

@[simp]
theorem not_mem_failOpen (u : RemUDOData) (status : UInt8) (msg : Requester) : .bulkClose status ∉ failOpen u msg :=
  not_mem_confirmBulkOpen _ _ _ _ _ _

@[simp]
theorem not_mem_failClose (msg : Requester) : .bulkClose bulkcSuccess ∉ failClose msg :=
  not_mem_confirmBulkClose (by decide) (by decide)

@[simp]
theorem not_mem_timeoutConfirm (u : RemUDOData) (msg : Requester) :
    .bulkClose bulkcSuccess ∉ timeoutConfirm u msg := by
  have hclose : .bulkClose bulkcSuccess ∉ confirmBulkClose msg ygsCommFailed bulkcFail :=
    not_mem_confirmBulkClose (by decide) (by decide)
  unfold timeoutConfirm
  split <;> simp [hclose]

@[simp]
theorem not_mem_ifTracked {pMSG : Option Requester} {out : Requester → List BulkConfirm} {c : BulkConfirm}
    (h : ∀ msg, c ∉ out msg) : c ∉ ifTracked pMSG out := by
  cases pMSG with
  | none => exact List.not_mem_nil
  | some msg => exact h msg

section

variable {u : RemUDOData} {closed : Option Progress}

theorem sound_none {out : List BulkConfirm} (hout : .bulkClose bulkcSuccess ∉ out) : Sound closed (none, out) :=
  ⟨nofun, fun hmem => absurd hmem hout⟩

theorem sound_some (h : TransferInv closed u) {out : List BulkConfirm} (hout : .bulkClose bulkcSuccess ∉ out) :
    Sound closed (some u, out) := by
  refine ⟨?_, fun hmem => absurd hmem hout⟩
  rintro u' ⟨⟩
  exact h

theorem Sized.advanceState (h : Sized u) (newState : UdoState) : Sized (advanceState u newState) :=
  ⟨h.size, h.positive, h.fits, h.counted, h.acked⟩

variable {request : UdoRequest} {requester : Requester} {pMSG : Option Requester} {rsp : Response} {outcome : Outcome}
  {ygsap : Bool}

theorem Sized.await (h : Sized u) (hblock : blockOf request = [])
    (hhonest : Honest closed u.state requester) : TransferInv closed (u.await request requester) where
  sized := ⟨h.size, h.positive, h.fits, h.counted, h.acked⟩
  awaited := by
    rintro p ⟨⟩
    simpa [hblock, RemUDOData.await] using h.acked
  honest := by
    rintro p ⟨⟩
    exact hhonest

theorem honest_gateway (state : UdoState) : Honest closed state .gateway := nofun

theorem honest_of_state {state : UdoState} (h : state = .idle ∨ state = .downloading) (requester : Requester) :
    Honest closed state requester := by
  rintro ygsap -
  obtain rfl | rfl := h <;> simp

section

variable (h : Sized u)
include h

theorem sendOpening_sound (hstate : u.state = .idle) (sent : Bool) (msg : Requester)
    (hblock : blockOf request = []) : Sound closed (sendOpening u sent msg request) := by
  cases sent with
  | false => exact ⟨nofun, by simp [sendOpening]⟩
  | true =>
    exact sound_some (h.await hblock (honest_of_state (.inl hstate) msg)) (by simp)

theorem askState_sound (sent : Bool) : ∀ u' ∈ askState u sent, TransferInv closed u' := by
  cases sent with
  | false => exact nofun
  | true =>
    rintro u' ⟨⟩
    exact h.await rfl (honest_gateway _)

theorem endDownload_sound (sent : Bool) {rationale : UInt8}
    (hhonest : Honest closed (if rationale ≠ 0 then .dlError else .dlComplete) requester) :
    ∀ u' ∈ endDownload u sent rationale requester, TransferInv closed u' := by
  cases sent with
  | false => exact nofun
  | true =>
    rintro u' ⟨⟩
    exact (h.advanceState _).await (u := advanceState u _) rfl hhonest

theorem sendReset_sound (sent : Bool)
    (hhonest : Honest closed u.state (pMSG.getD .gateway)) : Sound closed (sendReset u sent pMSG) := by
  cases sent with
  | false => exact ⟨nofun, by simp [sendReset]⟩
  | true =>
    exact sound_some (h.await rfl hhonest) (by simp)

theorem tryReset_sound (sent : Bool) : ∀ u' ∈ tryReset u sent, TransferInv closed u' := by
  unfold tryReset
  split
  · exact endDownload_sound h sent (honest_gateway _)
  · exact (sendReset_sound h sent (honest_gateway _)).entry
  · exact (sendReset_sound h sent (honest_gateway _)).entry
  · exact nofun

theorem adoptState_sound (rsp : Response) (sent : Bool) : ∀ u' ∈ adoptState u rsp sent, TransferInv closed u' :=
  tryReset_sound (h.advanceState _) sent

theorem processStateRead_sound (rsp : Response) (sent : Bool) :
    ∀ u' ∈ processStateRead u rsp sent, TransferInv closed u' := by
  unfold processStateRead
  split
  · exact tryReset_sound h sent
  · exact adoptState_sound h rsp sent

theorem Sized.negotiate {rspData : UInt16} (hdata : rspData ≠ 0) : Sized (negotiate u rspData) := by
  unfold BulkTransferService.negotiate
  split
  · next hless =>
    have hlt : rspData < u.blockSize := hless.resolve_left (UInt16.pos_iff_ne_zero.mp h.positive)
    refine ⟨h.size, UInt16.pos_iff_ne_zero.mpr hdata, ?_, h.counted, h.acked⟩
    have hfits := h.fits
    have hlt' : rspData.toNat < u.blockSize.toNat := hlt
    change rspData.toNat + _ ≤ u.maxNSDU.toNat
    omega
  · exact h

/-! ## The states -/

theorem processIdleExec_sound (hstate : u.state = .idle) (request : UdoRequest) (rsp : Response)
    (sent : Bool) (msg : Requester) (hpending : u.pending = none) :
    Sound closed (processIdleExec u request rsp sent msg) := by
  unfold processIdleExec
  split
  · exact ⟨askState_sound h sent, by simp⟩
  split
  · split
    · exact sendOpening_sound h hstate sent msg rfl
    · exact sound_none (by simp)
  split
  · have hopened : TransferInv closed (advanceState u .downloading) :=
      ⟨h.advanceState _, by simp [advanceState, hpending], by simp [advanceState, hpending]⟩
    exact sound_some hopened (by simp)
  · exact sound_none (by simp)

theorem processIdleRead_sound (hstate : u.state = .idle) (sent : Bool)
    (hsize : rsp.sfc = sfcSuccess → pMSG.isSome → rsp.attrID request = udoMaxBlckSize → rsp.data16 ≠ 0) :
    Sound closed (processIdleRead u request pMSG rsp sent) := by
  unfold processIdleRead
  split
  · exact sound_none (by simp)
  next hsfc =>
  have hsuccess : rsp.sfc = sfcSuccess := not_not.mp hsfc
  split
  · next hattr =>
    cases pMSG with
    | none => exact sound_none (by simp)
    | some msg =>
      have hstate' : (negotiate u rsp.data16).state = .idle := by
        unfold negotiate
        split <;> exact hstate
      exact sendOpening_sound (h.negotiate (hsize hsuccess rfl hattr)) hstate' sent msg rfl
  split
  · cases pMSG with
    | none => exact sound_none (by simp)
    | some msg =>
      dsimp only
      split
      · exact sound_none (by simp)
      split
      · exact sendOpening_sound h hstate sent msg rfl
      · exact sendOpening_sound h hstate sent msg rfl
  split
  · split
    · exact sound_none (by simp)
    · exact ⟨adoptState_sound h rsp sent, by simp⟩
  · exact sound_none (by simp)

theorem processStateIdle_sound (hstate : u.state = .idle) (hpending : u.pending = none) (sent : Bool)
    (hsize : rsp.sfc = sfcSuccess → pMSG.isSome → rsp.type = .readRsp → rsp.attrID request = udoMaxBlckSize →
      rsp.data16 ≠ 0) : Sound closed (processStateIdle u request pMSG rsp sent) := by
  unfold processStateIdle
  split
  · cases pMSG with
    | none => exact sound_none (by simp)
    | some msg => exact processIdleExec_sound h hstate request rsp sent msg hpending
  · next htype => exact processIdleRead_sound h hstate sent fun hsfc hmsg => hsize hsfc hmsg htype
  · exact sound_none (by simp)
  · exact sound_none (by simp)

theorem acknowledge_sound (hpending : u.pending = none)
    (hblock : u.acked.length + (blockOf request).length ≤ u.sent) :
    TransferInv closed { u with acked := u.acked ++ blockOf request } where
  sized := ⟨h.size, h.positive, h.fits, h.counted, by rwa [List.length_append]⟩
  awaited := by simp [hpending]
  honest := by simp [hpending]

theorem processStateDownload_sound (hpending : u.pending = none)
    (hblock : u.acked.length + (blockOf request).length ≤ u.sent) (pMSG : Option Requester) (rsp : Response)
    (sent : Bool) : Sound closed (processStateDownload u request pMSG rsp sent) := by
  have hsame : TransferInv closed u := ⟨h, by simp [hpending], by simp [hpending]⟩
  unfold processStateDownload
  split
  · cases pMSG with
    | none => exact sound_none (by simp)
    | some msg =>
      dsimp only
      split
      · exact sound_some hsame (by simp)
      split
      · exact sound_some (acknowledge_sound h hpending hblock) (by simp)
      split
      · exact ⟨askState_sound h sent, by simp⟩
      · exact sound_some (acknowledge_sound h hpending hblock) (by simp)
  · exact ⟨processStateRead_sound h rsp sent, by simp⟩
  · exact sound_none (by simp)
  · exact sound_none (by simp)

theorem processStateDowldCompl_sound (hstate : u.state = .dlComplete)
    (hhonest : ∀ msg ∈ pMSG, Honest closed u.state msg) (rsp : Response) (sent : Bool)
    (hprocess : processStateDowldCompl u pMSG rsp sent = some outcome) : Sound closed outcome := by
  unfold processStateDowldCompl at hprocess
  split at hprocess
  · cases pMSG with
    | none =>
      cases hprocess
      exact sound_none (by simp)
    | some msg =>
      dsimp only at hprocess
      split at hprocess
      · cases hprocess
        exact ⟨askState_sound h sent, by simp⟩
      · cases sent with
        | false => exact absurd hprocess nofun
        | true =>
          cases hprocess
          refine ⟨?_, by simp⟩
          rintro u' ⟨⟩
          -- what the client was promised in this state holds in the next one
          have happlying : Honest closed .applying msg := fun ygsap hmsg =>
            ⟨fun _ => ((hhonest msg rfl) ygsap hmsg).1 (.inl hstate), nofun⟩
          exact (h.advanceState .applying).await (u := advanceState u .applying) rfl happlying
  · cases hprocess
    exact ⟨processStateRead_sound h rsp sent, by simp⟩
  · cases hprocess
    exact ⟨askState_sound h sent, by simp⟩
  · cases hprocess
    exact ⟨askState_sound h sent, by simp⟩

theorem processStateApply_sound (hstate : u.state = .applying)
    (hhonest : ∀ msg ∈ pMSG, Honest closed u.state msg) (rsp : Response) (sent : Bool) :
    Sound closed (processStateApply u pMSG rsp sent) := by
  unfold processStateApply
  split
  · cases pMSG with
    | none => exact sound_none (by simp)
    | some msg =>
      dsimp only
      split
      · exact ⟨askState_sound h sent, by simp⟩
      · refine ⟨nofun, fun hmem => ?_⟩
        obtain ⟨ygsap, hmsg, -⟩ := (mem_confirmBulkClose_iff ..).mp hmem
        exact ((hhonest msg rfl) ygsap hmsg).1 (.inr hstate)
  · exact ⟨processStateRead_sound h rsp sent, by simp⟩
  · exact ⟨askState_sound h sent, by simp⟩
  · exact ⟨askState_sound h sent, by simp⟩

theorem failReset_sound (pMSG : Option Requester) (sent : Bool) : Sound closed (failReset u pMSG sent) := by
  cases pMSG with
  | none => exact sound_none (by simp)
  | some msg => exact ⟨askState_sound h sent, by simp [failReset]⟩

theorem processStateDLError_sound (hstate : u.state = .dlError)
    (hhonest : ∀ msg ∈ pMSG, Honest closed u.state msg) (rsp : Response) (sent : Bool) :
    Sound closed (processStateDLError u pMSG rsp sent) := by
  unfold processStateDLError
  split
  · split
    · exact failReset_sound h pMSG sent
    · -- a GSAP session would read the confirm of its abort as a success
      refine sound_none ?_
      cases pMSG with
      | none => simp [ifTracked]
      | some msg =>
        cases msg with
        | gateway => exact List.not_mem_nil
        | client ygsap =>
          obtain rfl : ygsap = true := ((hhonest _ rfl) ygsap rfl).2 hstate
          exact not_mem_confirmBulkClose_ygsap (by decide)
  · exact ⟨adoptState_sound h rsp sent, by simp⟩
  · split
    · exact failReset_sound h pMSG sent
    · refine sendReset_sound h sent ?_
      cases pMSG with
      | none => exact honest_gateway _
      | some msg => exact hhonest msg rfl
  · exact sound_none (by simp)

end

theorem tracked_of_isSome {tracked : Bool}
    (h : (if tracked then some requester else none).isSome) : tracked = true := by
  cases tracked with
  | false => cases h
  | true => rfl

theorem processAPDU_sound (h : TransferInv closed u) {tracked sent : Bool}
    (hok : ∀ p ∈ u.pending, AdmissibleAnswer u p.request rsp tracked sent)
    (hprocess : processAPDU (some u) rsp tracked sent = some outcome) : Sound closed outcome := by
  unfold processAPDU at hprocess
  dsimp only at hprocess
  split at hprocess
  · cases hprocess
    exact sound_some h (by simp)
  next p hp =>
  have hsized : Sized u.answered :=
    ⟨h.sized.size, h.sized.positive, h.sized.fits, h.sized.counted, h.sized.acked⟩
  have hblock : u.answered.acked.length + (blockOf p.request).length ≤ u.answered.sent := h.awaited p hp
  have hhonest : ∀ msg ∈ (if tracked then some p.requester else none), Honest closed u.answered.state msg := by
    intro msg hmsg
    cases tracked with
    | false => cases hmsg
    | true =>
      cases hmsg
      exact h.honest p hp
  have hanswer := hok p hp
  unfold processState at hprocess
  split at hprocess
  · next hstate =>
    cases hprocess
    refine processStateIdle_sound hsized hstate rfl sent fun hsfc hmsg htype hattr => ?_
    exact (hanswer hsfc (tracked_of_isSome hmsg)).1 hstate htype hattr
  · cases hprocess
    exact processStateDownload_sound hsized rfl hblock _ rsp sent
  · next hstate => exact processStateDowldCompl_sound hsized hstate hhonest rsp sent hprocess
  · next hstate =>
    cases hprocess
    exact processStateApply_sound hsized hstate hhonest rsp sent
  · next hstate =>
    cases hprocess
    exact processStateDLError_sound hsized hstate hhonest rsp sent
  · cases hprocess
    exact sound_none (by simp)

theorem toNat_size (file : Item) : file.size.toNat = file.bytes.length := by
  rw [Item.size, UInt32.toNat_ofNat']
  exact Nat.mod_eq_of_lt file.fits

theorem requestedBlockSize_fits {asked maxNSDU : UInt16} (hroom : blockOverhead < maxNSDU) :
    0 < requestedBlockSize asked maxNSDU ∧
      (requestedBlockSize asked maxNSDU).toNat + blockOverhead.toNat ≤ maxNSDU.toNat := by
  have hroom' : blockOverhead.toNat < maxNSDU.toNat := hroom
  have hmax : (maxGWBlockSize maxNSDU).toNat = maxNSDU.toNat - blockOverhead.toNat :=
    UInt16.toNat_sub_of_le _ _ (UInt16.le_of_lt hroom)
  unfold requestedBlockSize
  split
  · next hasked =>
    have hless : asked.toNat < (maxGWBlockSize maxNSDU).toNat := hasked.2
    exact ⟨UInt16.pos_iff_ne_zero.mpr hasked.1, by omega⟩
  · refine ⟨?_, by omega⟩
    change 0 < (maxGWBlockSize maxNSDU).toNat
    omega

theorem openedTransfer_inv (req : OpenRequest) {maxNSDU : UInt16} (hroom : blockOverhead < maxNSDU) :
    TransferInv closed (openedTransfer req maxNSDU) where
  sized :=
    ⟨rfl, (requestedBlockSize_fits hroom).1, (requestedBlockSize_fits hroom).2, rfl, Nat.le_refl _⟩
  awaited := by
    rintro p ⟨⟩
    exact Nat.le_refl _
  honest := by
    rintro p ⟨⟩
    exact honest_of_state (.inl rfl) _

theorem requestBulkOpen_sound {entry : Option RemUDOData} (h : ∀ u ∈ entry, TransferInv closed u)
    {req : OpenRequest} {lease : Option BulkLease} (hok : ∀ maxNSDU ∈ lease.join, blockOverhead < maxNSDU)
    (sent : Bool) : Sound closed (requestBulkOpen entry req lease sent) := by
  have hrefuse (ygs gsap : UInt8) (blockSize : UInt16) (itemSize : UInt32) :
      Sound closed (entry, confirmBulkOpen (.client req.ygsap) ygs gsap blockSize itemSize) := ⟨h, by simp⟩
  unfold requestBulkOpen
  split
  · exact hrefuse ..
  split
  · exact hrefuse ..
  split
  · exact hrefuse ..
  split
  · exact hrefuse ..
  split
  · exact hrefuse ..
  · next maxNSDU =>
    split
    · exact sound_some (openedTransfer_inv req (hok maxNSDU rfl)) (by simp)
    · exact hrefuse ..

theorem Sized.blocksToSend_eq (h : Sized u) : blocksToSend u = some (u.bulkSize / u.blockSize.toUInt32 + 1) :=
  if_neg (UInt16.pos_iff_ne_zero.mp h.positive)

theorem sentBlock_inv (h : Sized u) (hstate : u.state = .idle ∨ u.state = .downloading) (params : List UInt8)
    (requester : Requester) :
    TransferInv closed
      { u.await (.exec udoDwldData params) requester with currentBlock := u.currentBlock + 1, sent := u.sent + 1 } where
  sized := by
    refine ⟨h.size, h.positive, h.fits, ?_, Nat.le_succ_of_le h.acked⟩
    change u.currentBlock + 1 = UInt16.ofNat (u.sent + 1)
    rw [h.counted, UInt16.ofNat_add]
    rfl
  awaited := by
    rintro p ⟨⟩
    exact Nat.succ_le_succ h.acked
  honest := by
    rintro p ⟨⟩
    exact honest_of_state hstate _

theorem requestBulkTransfer_sound {entry : Option RemUDOData} (h : ∀ u ∈ entry, TransferInv closed u)
    (hok : ∀ u ∈ entry, u.state = .idle ∨ u.state = .downloading) {data : List UInt8} {leaseOk sent : Bool}
    (hrequest : requestBulkTransfer entry ygsap data leaseOk sent = some outcome) : Sound closed outcome := by
  unfold requestBulkTransfer at hrequest
  split at hrequest
  · cases hrequest
    exact ⟨h, by simp⟩
  split at hrequest
  · cases hrequest
    exact sound_none (by simp)
  next u =>
  have hinv := h u rfl
  split at hrequest
  · cases hrequest
    exact sound_none (by simp)
  split at hrequest
  · cases hrequest
    have hunsent : TransferInv closed { u with pending := none } :=
      ⟨⟨hinv.sized.size, hinv.sized.positive, hinv.sized.fits, hinv.sized.counted, hinv.sized.acked⟩, nofun, nofun⟩
    exact sound_some hunsent (by simp)
  · rw [hinv.sized.blocksToSend_eq] at hrequest
    cases hrequest
    exact sound_some (sentBlock_inv hinv.sized (hok u rfl) _ _) (by simp)

theorem Progress.Complete.count_le (h : u.progress.Complete) (hsized : Sized u) :
    Tiling.blockCount u.file.bytes.length u.blockSize.toNat ≤ u.sent := by
  have hcount := h.count
  rw [Progress.spans, Tiling.length_blockSpans] at hcount
  exact hcount.trans hsized.acked

/-- Of an admissible close, the quotient of the sizes is below the number of requests just if the transfer is complete. -/
theorem AdmissibleClose.lt_sent_iff (hok : AdmissibleClose u ygsap) (h : Sized u) :
    u.file.bytes.length / u.blockSize.toNat < u.sent ↔ u.progress.Complete := by
  refine ⟨hok.surplus, fun hcomplete => ?_⟩
  have hblock : 0 < u.blockSize.toNat := h.positive
  have hcount := hcomplete.count_le h
  rw [Tiling.blockCount_eq hblock] at hcount
  split at hcount
  · next hdvd => exact lt_of_le_of_ne hcount fun heq => hok.multiple hdvd heq.symm hcomplete
  · exact hcount

theorem closeRationale_eq (h : Sized u) (hok : AdmissibleClose u ygsap) :
    closeRationale u = some (if u.progress.Complete then udoEndDownloadSuccess else udoEndDownloadAbort) := by
  have hquotient : (u.bulkSize / u.blockSize.toUInt32 + 1).toNat = u.file.bytes.length / u.blockSize.toNat + 1 := by
    rw [UInt32.toNat_add, UInt32.toNat_div, UInt16.toNat_toUInt32, h.size, toNat_size]
    exact Nat.mod_eq_of_lt hok.total
  have hcurrent : u.currentBlock.toUInt32.toNat = u.sent := by
    rw [UInt16.toNat_toUInt32, h.counted, UInt16.toNat_ofNat']
    exact Nat.mod_eq_of_lt hok.counted
  have hcompare : u.currentBlock.toUInt32 ≥ u.bulkSize / u.blockSize.toUInt32 + 1 ↔ u.progress.Complete := by
    rw [← hok.lt_sent_iff h, ge_iff_le, UInt32.le_iff_toNat_le, hquotient, hcurrent]
    rfl
  rw [closeRationale, h.blocksToSend_eq]
  change some (if _ then _ else _) = _
  simp only [hcompare]

/-- The state after `endDownload` tells the client no more than what the transfer was. -/
theorem closed_honest (hok : AdmissibleClose u ygsap) : Honest (some u.progress)
      (if (if u.progress.Complete then udoEndDownloadSuccess else udoEndDownloadAbort) ≠ 0 then .dlError else
        .dlComplete)
      (.client ygsap) := by
  rintro _ ⟨⟩
  by_cases hcomplete : u.progress.Complete
  · rw [if_pos hcomplete]
    exact ⟨fun _ => ⟨_, rfl, hcomplete⟩, nofun⟩
  · rw [if_neg hcomplete]
    refine ⟨nofun, fun _ => ?_⟩
    cases ygsap with
    | false => exact absurd (hok.aborted rfl) hcomplete
    | true => rfl

end

variable {s : BulkState} {e : BulkEvent} {entry : Option RemUDOData}

theorem closeRequest_sound (h : ∀ u ∈ s.entry, TransferInv s.closed u) {ygsap : Bool} {dataSize : Nat}
    {leaseOk sent : Bool} (hok : ∀ u ∈ s.entry, AdmissibleClose u ygsap) {outcome : Outcome}
    (hrequest : requestBulkClose s.entry ygsap dataSize leaseOk sent = some outcome) :
    Sound (closedBy s (.closeRequest ygsap dataSize leaseOk sent)) outcome := by
  unfold requestBulkClose at hrequest
  rw [closedBy]
  split at hrequest
  · next hsize =>
    cases hrequest
    rw [if_neg fun hboth => hsize hboth.1]
    have hfail : .bulkClose bulkcSuccess ∉ confirmBulkClose (.client ygsap) ygsFailure bulkoFailOther :=
      not_mem_confirmBulkClose (by decide) (by decide)
    exact ⟨h, fun hmem => absurd hmem hfail⟩
  next hsize =>
  split at hrequest
  · cases hrequest
    exact sound_none (not_mem_failClose _)
  next u hu =>
  split at hrequest
  · cases hrequest
    exact sound_none (not_mem_confirmBulkClose (by decide) (by decide))
  · next hlease =>
    have hclose := hok u hu
    have hsized := (h u hu).sized
    rw [closeRationale_eq hsized hclose] at hrequest
    cases hrequest
    rw [if_pos ⟨not_not.mp hsize, not_not.mp hlease⟩, hu]
    exact ⟨endDownload_sound hsized sent (closed_honest hclose), by simp⟩

abbrev BulkState.Inv (s : BulkState) : Prop := Sound s.closed (s.entry, s.out)

theorem inv_init : init.Inv := ⟨nofun, by simp [init]⟩

theorem handle_sound (h : s.Inv) (hok : Admissible s e) {outcome : Outcome}
    (hhandle : handle s.entry e = some outcome) : Sound (closedBy s e) outcome := by
  cases e with
  | openRequest req lease sent =>
    cases hhandle
    exact requestBulkOpen_sound h.entry hok sent
  | transferRequest ygsap data leaseOk sent => exact requestBulkTransfer_sound h.entry hok hhandle
  | closeRequest ygsap dataSize leaseOk sent => exact closeRequest_sound h.entry hok hhandle
  | apdu rsp tracked sent =>
    cases hentry : s.entry with
    | none =>
      rw [handle, hentry] at hhandle
      cases hhandle
      exact sound_none (by simp)
    | some u =>
      rw [handle, hentry] at hhandle
      exact processAPDU_sound (h.entry u hentry) (hok u hentry) hhandle
  | isaTimeout tracked =>
    cases hhandle
    unfold processISATimeout
    split
    · exact sound_none (by simp)
    next u hentry =>
    split
    · exact sound_some (h.entry u hentry) (by simp)
    · refine sound_none ?_
      split
      · exact not_mem_timeoutConfirm u _
      · exact List.not_mem_nil
  | leaseDelete sent =>
    cases hhandle
    refine ⟨fun u' hu' => ?_, by simp [onLeaseDelete]⟩
    obtain ⟨u, hu, hreset⟩ := Option.bind_eq_some_iff.mp hu'
    exact tryReset_sound (h.entry u hu).sized sent u' hreset

theorem step_inv {s s' : BulkState} (h : s.Inv) (hok : Admissible s e) (hstep : s.step e = some s') : s'.Inv := by
  obtain ⟨outcome, hhandle, rfl⟩ := Option.map_eq_some_iff.mp hstep
  exact handle_sound h hok hhandle

theorem processState_isSome {u : RemUDOData} {request : UdoRequest} {pMSG : Option Requester} {rsp : Response}
    {sent : Bool} (hsent : u.state = .dlComplete → pMSG.isSome → rsp.type = .execRsp → rsp.sfc = sfcSuccess → sent) :
    (processState u request pMSG rsp sent).isSome := by
  unfold processState
  split
  · rfl
  · rfl
  · next hstate =>
    unfold processStateDowldCompl
    split
    · next htype =>
      cases pMSG with
      | none => rfl
      | some msg =>
        dsimp only
        split
        · rfl
        · next hsfc =>
          have hsent' : sent = true := hsent hstate rfl htype (not_not.mp hsfc)
          subst hsent'
          rfl
    · rfl
    · rfl
    · rfl
  · rfl
  · rfl
  · rfl

theorem processAPDU_isSome {rsp : Response} {tracked sent : Bool}
    (hok : ∀ u ∈ entry, ∀ p ∈ u.pending, AdmissibleAnswer u p.request rsp tracked sent) :
    (processAPDU entry rsp tracked sent).isSome := by
  unfold processAPDU
  split
  · rfl
  next u =>
  split
  · rfl
  next p hp =>
  refine processState_isSome fun hstate hmsg htype hsfc => ?_
  exact (hok u rfl p hp hsfc (tracked_of_isSome hmsg)).2 hstate htype

theorem requestBulkTransfer_isSome (h : ∀ u ∈ entry, Sized u) (ygsap : Bool)
    (data : List UInt8) (leaseOk sent : Bool) : (requestBulkTransfer entry ygsap data leaseOk sent).isSome := by
  unfold requestBulkTransfer
  split
  · rfl
  split
  · rfl
  next u =>
  split
  · rfl
  split
  · rfl
  · rw [(h u rfl).blocksToSend_eq]
    rfl

theorem requestBulkClose_isSome (h : ∀ u ∈ entry, Sized u) (ygsap : Bool)
    (dataSize : Nat) (leaseOk sent : Bool) : (requestBulkClose entry ygsap dataSize leaseOk sent).isSome := by
  unfold requestBulkClose
  split
  · rfl
  split
  · rfl
  next u =>
  split
  · rfl
  · rw [closeRationale, (h u rfl).blocksToSend_eq]
    rfl

theorem step_isSome (h : s.Inv) (hok : Admissible s e) : (s.step e).isSome := by
  have hsized : ∀ u ∈ s.entry, Sized u := fun u hu => (h.entry u hu).sized
  rw [step, Option.isSome_map]
  cases e with
  | openRequest req lease sent => rfl
  | transferRequest ygsap data leaseOk sent => exact requestBulkTransfer_isSome hsized ygsap data leaseOk sent
  | closeRequest ygsap dataSize leaseOk sent => exact requestBulkClose_isSome hsized ygsap dataSize leaseOk sent
  | apdu rsp tracked sent => exact processAPDU_isSome hok
  | isaTimeout tracked => rfl
  | leaseDelete sent => rfl

/-- A close request, the answer to `endDownload`, and the one to the command that follows. -/
def closing (ygsap : Bool) (endRsp commandRsp : Response) : List BulkEvent :=
  [.closeRequest ygsap 12 true true, .apdu endRsp true true, .apdu commandRsp true true]

section

variable {s : BulkState} {u : RemUDOData} {ygsap : Bool} {endRsp commandRsp : Response}

def ending (u : RemUDOData) (ygsap : Bool) (rationale : UInt8) (state : UdoState) : BulkState :=
  ⟨some (advanceState (u.await (.exec udoEndDwld [rationale]) (.client ygsap)) state), [], some u.progress⟩

def commanding (u : RemUDOData) (ygsap : Bool) (command : UInt8) (state : UdoState) (closed : Option Progress) :
    BulkState :=
  ⟨some (advanceState (u.answered.await (.write udoComm command) (.client ygsap)) state), [], closed⟩

theorem step_close (hentry : s.entry = some u) (h : Sized u) (hok : AdmissibleClose u ygsap) :
    s.step (.closeRequest ygsap 12 true true) =
      if u.progress.Complete then some (ending u ygsap udoEndDownloadSuccess .dlComplete)
      else some (ending u ygsap udoEndDownloadAbort .dlError) := by
  have hclosed : closedBy s (.closeRequest ygsap 12 true true) = some u.progress := by
    rw [closedBy, hentry]
    rfl
  have hrequest : requestBulkClose (some u) ygsap 12 true true =
      (closeRationale u).bind fun rationale => some (endDownload u true rationale (.client ygsap), []) := rfl
  rw [step, hclosed, handle, hentry, hrequest, closeRationale_eq h hok]
  split <;> rfl

theorem step_ended_success (hend : endRsp.type = .execRsp) (hsfc : endRsp.sfc = sfcSuccess) :
    (ending u ygsap udoEndDownloadSuccess .dlComplete).step (.apdu endRsp true true) =
      some (commanding u ygsap bulkApply .applying (some u.progress)) := by
  cases endRsp
  cases hend
  cases hsfc
  rfl

theorem step_ended_abort (hend : endRsp.type = .execRsp) (hsfc : endRsp.sfc = sfcSuccess) :
    (ending u ygsap udoEndDownloadAbort .dlError).step (.apdu endRsp true true) =
      some (commanding u ygsap bulkReset .dlError (some u.progress)) := by
  cases endRsp
  cases hend
  cases hsfc
  rfl

theorem mem_processStateApply_iff (hcommand : commandRsp.type = .writeRsp) :
    .bulkClose bulkcSuccess ∈ (processStateApply u (some (.client ygsap)) commandRsp true).2 ↔
      commandRsp.sfc = sfcOperationAccepted := by
  unfold processStateApply
  rw [hcommand]
  dsimp only
  split
  · next hsfc => simp [hsfc]
  · next hsfc =>
    have haccepted : .bulkClose bulkcSuccess ∈ confirmBulkClose (.client ygsap) ygsSuccess bulkcSuccess :=
      (mem_confirmBulkClose_iff ..).mpr ⟨ygsap, rfl, by cases ygsap <;> rfl⟩
    exact iff_of_true haccepted (not_not.mp hsfc)

theorem not_mem_processStateDLError (hcommand : commandRsp.type = .writeRsp) :
    .bulkClose bulkcSuccess ∉ (processStateDLError u (some (.client true)) commandRsp true).2 := by
  unfold processStateDLError
  rw [hcommand]
  dsimp only
  split
  · exact not_mem_failClose (.client true)
  · exact not_mem_confirmBulkClose_ygsap (by decide)

theorem runs_closing (hentry : s.entry = some u) (h : Sized u) (hok : AdmissibleClose u ygsap)
    (hend : endRsp.type = .execRsp) (hsfc : endRsp.sfc = sfcSuccess) (hcommand : commandRsp.type = .writeRsp) :
    ∃ s', Machine.runs step s (closing ygsap endRsp commandRsp) = some s' ∧
      (.bulkClose bulkcSuccess ∈ s'.out ↔ u.progress.Complete ∧ commandRsp.sfc = sfcOperationAccepted) := by
  rw [closing, Machine.runs, step_close hentry h hok]
  by_cases hcomplete : u.progress.Complete
  · rw [if_pos hcomplete, Option.bind_some, Machine.runs, step_ended_success hend hsfc]
    refine ⟨_, rfl, ?_⟩
    rw [and_iff_right hcomplete]
    exact mem_processStateApply_iff hcommand
  · have hygsap : ygsap = true := by
      cases ygsap with
      | false => exact absurd (hok.aborted rfl) hcomplete
      | true => rfl
    subst hygsap
    rw [if_neg hcomplete, Option.bind_some, Machine.runs, step_ended_abort hend hsfc]
    refine ⟨_, rfl, iff_of_false (not_mem_processStateDLError hcommand) fun hboth => hcomplete hboth.1⟩

end

/-- Every admissible step has a result. The block size of a transfer is positive and leaves room in the NSDU of its contract, and the `ceil(fileSize / blockSize)` blocks have each byte of the file once. A close that succeeds was one of a complete transfer, and when the device ends the download and carries out the command, a close succeeds just if the transfer is complete and the command was accepted. -/
theorem bulk_download_complete {s : BulkState} (h : Machine.Reaches .init step Admissible s) :
    (∀ e, Admissible s e → (s.step e).isSome) ∧
    (∀ u ∈ s.entry, 0 < u.blockSize ∧ u.blockSize.toNat + blockOverhead.toNat ≤ u.maxNSDU.toNat ∧
      u.progress.spans.length = (u.file.bytes.length + u.blockSize.toNat - 1) / u.blockSize.toNat ∧
      ∀ i < u.file.bytes.length, u.progress.spans.countP (fun span => span.1 ≤ i ∧ i < span.1 + span.2) = 1) ∧
    (.bulkClose bulkcSuccess ∈ s.out → ∃ t ∈ s.closed, t.Complete) ∧
    ∀ u ∈ s.entry, ∀ ygsap endRsp commandRsp, AdmissibleClose u ygsap →
      endRsp.type = .execRsp → endRsp.sfc = sfcSuccess → commandRsp.type = .writeRsp →
      ∃ s', Machine.runs step s (closing ygsap endRsp commandRsp) = some s' ∧
        (.bulkClose bulkcSuccess ∈ s'.out ↔ u.progress.Complete ∧ commandRsp.sfc = sfcOperationAccepted) := by
  have hinv : s.Inv := h.invariant inv_init fun _ _ _ hinv hok hstep => step_inv hinv hok hstep
  refine ⟨fun e hok => step_isSome hinv hok, fun u hu => ?_, hinv.honest,
    fun u hu ygsap endRsp commandRsp hok hend hsfc hcommand =>
      runs_closing hu (hinv.entry u hu).sized hok hend hsfc hcommand⟩
  have hsized := (hinv.entry u hu).sized
  have hblock : 0 < u.blockSize.toNat := hsized.positive
  refine ⟨hsized.positive, hsized.fits, Tiling.length_blockSpans .., fun i hi => ?_⟩
  exact (Tiling.tiles_blockSpans hblock).countP_inside (Nat.zero_le i) hi

instance (u : RemUDOData) (ygsap : Bool) : Decidable (AdmissibleClose u ygsap) :=
  decidable_of_iff
    (u.file.bytes.length / u.blockSize.toNat + 1 < 2 ^ 32 ∧ u.sent < 2 ^ 16 ∧
      (u.file.bytes.length / u.blockSize.toNat < u.sent → u.progress.Complete) ∧
      (u.blockSize.toNat ∣ u.file.bytes.length → u.sent = u.file.bytes.length / u.blockSize.toNat →
        ¬ u.progress.Complete) ∧
      (ygsap = false → u.progress.Complete))
    ⟨fun h => ⟨h.1, h.2.1, h.2.2.1, h.2.2.2.1, h.2.2.2.2⟩,
      fun h => ⟨h.total, h.counted, h.surplus, h.multiple, h.aborted⟩⟩

instance (u : RemUDOData) (request : UdoRequest) (rsp : Response) (tracked sent : Bool) :
    Decidable (AdmissibleAnswer u request rsp tracked sent) := by
  unfold AdmissibleAnswer
  infer_instance

instance (s : BulkState) : ∀ e, Decidable (Admissible s e)
  | .openRequest _ lease _ => Option.decidableForallMem lease.join
  | .transferRequest .. => inferInstanceAs (Decidable (∀ _ ∈ _, _))
  | .closeRequest .. => inferInstanceAs (Decidable (∀ _ ∈ _, _))
  | .apdu .. => inferInstanceAs (Decidable (∀ _ ∈ _, _))
  | .isaTimeout _ | .leaseDelete _ => isTrue trivial

def answer (type : ResponseType) (sfc : UInt8) (data : List UInt8) : BulkEvent :=
  .apdu ⟨type, sfc, fun i => data.getD i 0, 0⟩ true true

def blockRequest (block : List UInt8) : BulkEvent :=
  .transferRequest true (List.replicate 8 0 ++ block ++ List.replicate 4 0) true true

def opening (file : Item) (blockSize : UInt8) : List BulkEvent :=
  [.openRequest ⟨true, 19, udoModeDownload, 0, 2, [], file⟩ (some (some 29)) true,
    answer .readRsp sfcSuccess [0, blockSize], answer .readRsp sfcSuccess [0, 0, 1, 0],
    answer .execRsp sfcSuccess []]

def twoBlocks (file : Item) : List BulkEvent :=
  opening file 2 ++ [blockRequest (fileBlock file.bytes 2 0), answer .execRsp sfcSuccess [],
      blockRequest (fileBlock file.bytes 2 1), answer .execRsp sfcSuccess []]

def threeBytes : Item := ⟨[7, 8, 9], by decide⟩

def fourBytes : Item := ⟨[7, 8, 9, 10], by decide⟩

def accepted (type : ResponseType) (sfc : UInt8) : Response := ⟨type, sfc, fun _ => 0, 0⟩

/-- A file of three bytes, whose last block is shorter, is closed with success. -/
theorem bulk_download_complete_threeBytes : ∃ s s', Machine.runs step .init (twoBlocks threeBytes) = some s ∧
    Machine.runs step s
      (closing true (accepted .execRsp sfcSuccess) (accepted .writeRsp sfcOperationAccepted)) = some s' ∧
    .bulkClose bulkcSuccess ∈ s'.out := by
  obtain ⟨s, hrun, u, hu, hok, hcomplete⟩ :
      ∃ s ∈ Machine.runs step .init (twoBlocks threeBytes), ∃ u ∈ s.entry,
        AdmissibleClose u true ∧ u.progress.Complete := by
    decide +kernel
  obtain ⟨-, -, -, hclose⟩ := bulk_download_complete (Machine.reaches_runs (by decide +kernel) hrun)
  obtain ⟨s', hend, hsuccess⟩ := hclose u hu true (accepted .execRsp sfcSuccess)
    (accepted .writeRsp sfcOperationAccepted) hok rfl rfl rfl
  exact ⟨s, s', hrun, hend, hsuccess.mpr ⟨hcomplete, rfl⟩⟩

/-- A device may tell blocks of no size, and a file of two whole blocks is aborted with both of them acknowledged. -/
theorem bulk_download_not_complete : ¬ (∀ es s, Machine.runs step .init es = some s → ∀ u ∈ s.entry,
      0 < u.blockSize ∧ u.blockSize.toNat + blockOverhead.toNat ≤ u.maxNSDU.toNat) ∧
    ¬ (∀ es s, Machine.runs step .init es = some s → ∀ u ∈ s.entry, ∀ s',
      Machine.runs step s
        (closing true (accepted .execRsp sfcSuccess) (accepted .writeRsp sfcOperationAccepted)) = some s' →
      (.bulkClose bulkcSuccess ∈ s'.out ↔ u.progress.Complete)) := by
  constructor
  · intro hclaim
    obtain ⟨s, hrun, u, hu, hzero⟩ :
        ∃ s ∈ Machine.runs step .init (opening fourBytes 0), ∃ u ∈ s.entry, u.blockSize = 0 := by
      decide +kernel
    exact absurd (hclaim _ s hrun u hu).1 (by rw [hzero]; decide)
  · intro hclaim
    obtain ⟨s, hrun, u, hu, hcomplete, s', hend, hout⟩ :
        ∃ s ∈ Machine.runs step .init (twoBlocks fourBytes), ∃ u ∈ s.entry, u.progress.Complete ∧
          ∃ s' ∈ Machine.runs step s
            (closing true (accepted .execRsp sfcSuccess) (accepted .writeRsp sfcOperationAccepted)),
            .bulkClose bulkcSuccess ∉ s'.out := by
      decide +kernel
    exact hout ((hclaim _ s hrun u hu s' hend).mpr hcomplete)

end Isa100Gateway.BulkTransferService
