import Isa100Gateway.Asl.Queue
import Isa100Gateway.Asl.ServiceRoundTrip
import Isa100Gateway.Lib.Table

/-!
# Facts about the transmit queue

How the operations of the queue change the contract table, and the invariant of a single queue entry.
-/

namespace Isa100Gateway

open Machine

theorem toInt_toInt32 {x : UInt32} (h : x.toNat < 2 ^ 31) : x.toInt32.toInt = x.toNat := by
  change x.toBitVec.toInt = x.toBitVec.toNat
  apply BitVec.toInt_eq_toNat_of_lt
  change 2 * x.toNat < 2 ^ 32
  omega

theorem toNat_toUInt32 {x : Int32} (h : 0 ≤ x.toInt) : (x.toUInt32.toNat : Int) = x.toInt := by
  change (x.toBitVec.toNat : Int) = x.toBitVec.toInt
  change 0 ≤ x.toBitVec.toInt at h
  rw [BitVec.toInt_eq_toNat_cond] at h ⊢
  split_ifs at h ⊢ with hsmall
  · rfl
  · have := x.toBitVec.isLt
    omega

variable {m m' : TxMsg}

theorem lock_eq_some {contracts : Contracts} {c : Contract} : contracts.lock m = some c ↔
      contracts.lookup m.contractId = some c ∧ c.serial = m.weakContract := by
  simp [Contracts.lock, Option.filter_eq_some_iff]

theorem lookup_onContract (sh : Shared) (m : TxMsg) (f : Contract → Contract) (id : UInt16) :
    (sh.onContract m f).contracts.lookup id = (sh.contracts.lookup id).map fun c =>
      if id = m.contractId ∧ c.serial = m.weakContract then f c else c := by
  unfold Shared.onContract
  cases hlock : sh.contracts.lock m with
  | some c =>
    obtain ⟨hlook, hserial⟩ := lock_eq_some.1 hlock
    rw [Table.lookup_insert]
    by_cases h : id = m.contractId
    · subst h
      simp [hlook, hserial]
    · simp [h]
  | none =>
    have hdead : ∀ c, sh.contracts.lookup m.contractId = some c → c.serial ≠ m.weakContract := by
      intro c hlook hserial
      rw [lock_eq_some.2 ⟨hlook, hserial⟩] at hlock
      cases hlock
    cases hlook : sh.contracts.lookup id with
    | none => rfl
    | some c =>
      have hother : ¬ (id = m.contractId ∧ c.serial = m.weakContract) := by
        rintro ⟨rfl, hserial⟩
        exact hdead c hlook hserial
      simp [hother]

@[simp] theorem log_onContract (sh : Shared) (m : TxMsg) (f : Contract → Contract) :
    (sh.onContract m f).log = sh.log := by
  unfold Shared.onContract
  cases sh.contracts.lock m <;> rfl

@[simp] theorem log_release (sh : Shared) (m : TxMsg) : (sh.release m).log = sh.log := by
  unfold Shared.release
  by_cases hmarked : m.inSlidingWindow = true
  · rw [if_pos hmarked, log_onContract]
  · rw [if_neg hmarked]

@[simp] theorem contracts_dataTimeout (sh : Shared) (m : TxMsg) (sfc : UInt8) :
    (sh.dataTimeout m sfc).contracts = sh.contracts := rfl

@[simp] theorem log_dataTimeout (sh : Shared) (m : TxMsg) (sfc : UInt8) :
    (sh.dataTimeout m sfc).log = .dataTimeout m.uid m.appHandle m.srcSAP m.dstSAP sfc :: sh.log := rfl

def Contract.core (c : Contract) : Nat × Nat × UInt8 × Ipv6Addr × UInt8 :=
  (c.serial, c.issued, c.reqID, c.destAddress, c.maxSendWindow)

@[simp] theorem core_slidingWindowAllowsTX (c : Contract) : (slidingWindowAllowsTX c).2.core = c.core := by
  unfold slidingWindowAllowsTX
  by_cases hmax : c.maxSendWindow = 0
  · simp [hmax]
  · by_cases hcrt : c.crtWndSize > c.maxSendWindow <;> simp [hmax, hcrt, Contract.core]

@[simp] theorem core_slidingWindowIncreaseUsage (c : Contract) : (slidingWindowIncreaseUsage c).2.core = c.core := by
  unfold slidingWindowIncreaseUsage
  by_cases hmax : c.maxSendWindow = 0
  · simp [hmax]
  · have hcore := core_slidingWindowAllowsTX c
    by_cases hallowed : (slidingWindowAllowsTX c).1 = true
    · simpa [hmax, hallowed, Contract.core] using hcore
    · simp [hmax, hallowed]

@[simp] theorem core_receiveResponse (c : Contract) : (receiveResponseForSlidingWindow c).core = c.core := by
  unfold receiveResponseForSlidingWindow Contract.core
  grind

@[simp] theorem core_receiveTimeout (c : Contract) : (receiveTimeoutForSlidingWindow c).core = c.core := by
  unfold receiveTimeoutForSlidingWindow Contract.core
  grind

@[simp] theorem core_computeTXtimeout (c : Contract) (rtt : UInt32) : (computeTXtimeout c rtt).core = c.core := by
  unfold computeTXtimeout Contract.core
  grind

@[simp] theorem core_packetSent (tvNow : TimeVal) (c : Contract) : (c.packetSent tvNow).core = c.core := rfl

@[simp] theorem core_responseReceived (now : UInt32) (m : TxMsg) (c : Contract) :
    (responseReceived now m c).core = c.core := by
  unfold responseReceived
  by_cases hmarked : m.inSlidingWindow <;> simp [hmarked]

def Contract.timing (c : Contract) : Int32 × UInt32 × UInt32 × Int16 × TimeVal :=
  (c.rto, c.srtt, c.rttv, c.comittedBurst, c.sendNoEarlierThan)

@[simp] theorem timing_slidingWindowAllowsTX (c : Contract) : (slidingWindowAllowsTX c).2.timing = c.timing := by
  unfold slidingWindowAllowsTX
  by_cases hmax : c.maxSendWindow = 0
  · simp [hmax]
  · by_cases hcrt : c.crtWndSize > c.maxSendWindow <;> simp [hmax, hcrt, Contract.timing]

@[simp] theorem timing_slidingWindowIncreaseUsage (c : Contract) :
    (slidingWindowIncreaseUsage c).2.timing = c.timing := by
  unfold slidingWindowIncreaseUsage
  by_cases hmax : c.maxSendWindow = 0
  · simp [hmax]
  · have htiming := timing_slidingWindowAllowsTX c
    by_cases hallowed : (slidingWindowAllowsTX c).1 = true
    · simpa [hmax, hallowed, Contract.timing] using htiming
    · simp [hmax, hallowed]

@[simp] theorem timing_receiveResponse (c : Contract) : (receiveResponseForSlidingWindow c).timing = c.timing := by
  unfold receiveResponseForSlidingWindow Contract.timing
  grind

@[simp] theorem timing_receiveTimeout (c : Contract) : (receiveTimeoutForSlidingWindow c).timing = c.timing := by
  unfold receiveTimeoutForSlidingWindow Contract.timing
  grind

def TxMsg.core (m : TxMsg) : Nat × Nat × Option Nat × UInt8 × UInt16 × Bool × List UInt8 × UInt16 × UInt8 × UInt8 :=
  (m.uid, m.weakContract, m.issueNo, m.reqID, m.contractId, m.noRspExpected, m.txApduData,
    m.appHandle, m.srcSAP, m.dstSAP)

theorem justWaitsTLCnf_of_core (h : m'.core = m.core) : m'.justWaitsTLCnf = m.justWaitsTLCnf := by
  obtain ⟨-, -, -, -, -, hnoRsp, hdata, -⟩ : _ ∧ _ ∧ _ ∧ _ ∧ _ ∧ _ ∧ _ ∧ _ := by
    simpa [TxMsg.core] using h
  simp [TxMsg.justWaitsTLCnf, TxMsg.apduByte, hnoRsp, hdata]

structure TxMsg.WellFormed (m : TxMsg) : Prop where
  unsent : m.status = .readyToSend → m.inSlidingWindow = false
  expects : m.status = .readyToSend ∨ m.inSlidingWindow = true → m.justWaitsTLCnf = false
  justWaits : m.status = .sentWaitJustTLCnf → m.justWaitsTLCnf = true

theorem TxMsg.WellFormed.setStatus (h : m.WellFormed) (hcore : m'.core = m.core)
    (hmarked : m'.inSlidingWindow = m.inSlidingWindow) (hunsent : m'.status ≠ .readyToSend)
    (hwaits : m'.status ≠ .sentWaitJustTLCnf) : m'.WellFormed where
  unsent hstatus := absurd hstatus hunsent
  expects hin := by
    rw [justWaitsTLCnf_of_core hcore]
    exact h.expects (Or.inr (hmarked ▸ hin.resolve_left hunsent))
  justWaits hstatus := absurd hstatus hwaits

theorem TxMsg.WellFormed.congr (h : m.WellFormed) (hcore : m'.core = m.core)
    (hmarked : m'.inSlidingWindow = m.inSlidingWindow) (hstatus : m'.status = m.status) : m'.WellFormed where
  unsent := by rw [hstatus, hmarked]; exact h.unsent
  expects := by rw [hstatus, hmarked, justWaitsTLCnf_of_core hcore]; exact h.expects
  justWaits := by rw [hstatus, justWaitsTLCnf_of_core hcore]; exact h.justWaits

theorem TxMsg.WellFormed.clear (h : m.WellFormed) : TxMsg.WellFormed { m with status := .readyToClear } :=
  h.setStatus rfl rfl (by simp) (by simp)

theorem core_sent (m : TxMsg) (handle : UInt8) (now : UInt32) : (m.sent handle now).core = m.core := rfl

theorem status_sent_ne (m : TxMsg) (handle : UInt8) (now : UInt32) :
    (m.sent handle now).status ≠ .readyToSend ∧ (m.sent handle now).status ≠ .readyToClear := by
  unfold TxMsg.sent
  cases m.justWaitsTLCnf <;> simp

theorem TxMsg.WellFormed.sent (handle : UInt8) (now : UInt32)
    (hexpects : m.inSlidingWindow = true → m.justWaitsTLCnf = false) : (m.sent handle now).WellFormed where
  unsent hstatus := absurd hstatus (status_sent_ne m handle now).1
  expects hin := by
    rw [justWaitsTLCnf_of_core (core_sent m handle now)]
    exact hexpects (hin.resolve_left (status_sent_ne m handle now).1)
  justWaits hstatus := by
    rw [justWaitsTLCnf_of_core (core_sent m handle now)]
    by_contra hwaits
    simp [TxMsg.sent, hwaits] at hstatus

/-! ### The header byte of a new entry -/

private theorem primitive_and_type (b : UInt8) :
    b &&& 0x80 = (b &&& 0x9F) &&& 0x80 ∧ getAslSrvcType b = getAslSrvcType (b &&& 0x9F) := by
  revert b
  apply Bytes.forall_uint8
  decide +kernel

theorem apduByte_of_setGenericObject {obj : GenericAslSrvc Payload} {outBufLen : UInt16}
    {apdu : List UInt8} (hset : setGenericObject obj outBufLen = some apdu) :
    apdu.headD 0 &&& 0x80 = obj.writtenType &&& 0x80 ∧
      getAslSrvcType (apdu.headD 0) = getAslSrvcType obj.writtenType := by
  obtain ⟨first, rest, rfl, htype⟩ := setGenericObject_head obj hset
  rw [← htype]
  exact primitive_and_type first

theorem writtenType_withReqID {ptr : Type} (obj : GenericAslSrvc ptr) (reqID : UInt8) :
    (obj.withReqID reqID).writtenType = obj.writtenType := by
  cases obj <;> rfl

theorem wellFormed_newTxMsg (cfg : RetrySettings) (req : AddRequest) (c : Contract) (uid : Nat)
    {apdu : List UInt8} {outBufLen : UInt16}
    (hset : setGenericObject (req.obj.withReqID c.reqID) outBufLen = some apdu) :
    (newTxMsg cfg req c uid apdu).WellFormed where
  unsent _ := rfl
  expects hin := by
    have hstatus : (newTxMsg cfg req c uid apdu).status = .readyToSend :=
      hin.resolve_right Bool.false_ne_true
    obtain ⟨hflow, hrsp⟩ : req.obj.flowControlled = true ∧ req.noRspExpected = 0 := by
      by_contra hnot
      simp [newTxMsg, hnot] at hstatus
    obtain ⟨hprim, htype⟩ := apduByte_of_setGenericObject hset
    rw [writtenType_withReqID] at hprim htype
    have hwritten : req.obj.writtenType = srvcReadReq ∨ req.obj.writtenType = srvcWriteReq ∨
        req.obj.writtenType = srvcExecReq := by
      revert hflow
      cases req.obj <;> simp [GenericAslSrvc.flowControlled, GenericAslSrvc.writtenType,
        GenericAslSrvc.type, srvcReadReq, srvcWriteReq, srvcExecReq]
    simp only [TxMsg.justWaitsTLCnf, TxMsg.apduByte, newTxMsg, hprim, htype, hrsp]
    rcases hwritten with h | h | h <;> rw [h] <;> decide
  justWaits hstatus := by
    by_cases h : req.obj.flowControlled = true ∧ req.noRspExpected = 0 <;>
      simp [newTxMsg, h] at hstatus

structure TxMsg.SameEntry (m m' : TxMsg) : Prop where
  core : m'.core = m.core
  marked : m'.inSlidingWindow = m.inSlidingWindow
  status : m'.status = m.status
  sendTime : m'.sendTime = m.sendTime

structure TxMsg.Rescheduled (m m' : TxMsg) : Prop where
  core : m'.core = m.core
  marked : m'.inSlidingWindow = m.inSlidingWindow
  status : m'.status = .readyToSendNoFC
  sendTime : m'.sendTime = m.sendTime

theorem timeoutVisit_eq (sh : Shared) (m : TxMsg) :
    timeoutVisit sh m = ((checkTimeout (checkLifetime sh m).1 (checkLifetime sh m).2).1,
        some (checkTimeout (checkLifetime sh m).1 (checkLifetime sh m).2).2) := rfl

section TimeoutRules

variable {P : Shared → TxMsg → Prop} {sh : Shared} {m : TxMsg}

theorem checkLifetime_rule (hsame : ∀ sh m m', m.SameEntry m' → P sh m → P sh m')
    (hgiveUp : ∀ sh m, m.status ≠ .readyToClear → P sh m → P (sh.giveUp m).1 (sh.giveUp m).2) (h : P sh m) :
    P (checkLifetime sh m).1 (checkLifetime sh m).2 := by
  by_cases hclear : m.status = .readyToClear
  · rw [checkLifetime, if_pos hclear]
    exact h
  · rw [checkLifetime, if_neg hclear]
    have hmoved : P sh { m with lifetime := m.lifetime - 1 } := hsame sh m _ ⟨rfl, rfl, rfl, rfl⟩ h
    by_cases hzero : m.lifetime - 1 = 0
    · simpa only [if_pos hzero] using hgiveUp sh { m with lifetime := m.lifetime - 1 } hclear hmoved
    · simpa only [if_neg hzero] using hmoved

theorem retryMessage_rule (hgiveUp : ∀ sh m, m.status ≠ .readyToClear → P sh m → P (sh.giveUp m).1 (sh.giveUp m).2)
    (hretry : ∀ sh m m', m.status ≠ .readyToClear → m.Rescheduled m' → P sh m → P sh m')
    (hclear : m.status ≠ .readyToClear) (h : P (sh.onContract m receiveTimeoutForSlidingWindow) m) :
    P (retryMessage sh m).1 (retryMessage sh m).2 := by
  by_cases hno : m.retryNo ≠ 0
  · simp only [retryMessage, if_pos hno]
    exact hretry _ m _ hclear ⟨rfl, rfl, rfl, rfl⟩ h
  · simp only [retryMessage, if_neg hno]
    exact hgiveUp _ m hclear h

theorem checkTimeout_rule (hsame : ∀ sh m m', m.SameEntry m' → P sh m → P sh m') (h : P sh m)
    (hretry : m.status ≠ .readyToClear → ¬ m.ReadyToSend → m.timeout = 0 →
      P (retryMessage sh m).1 (retryMessage sh m).2) : P (checkTimeout sh m).1 (checkTimeout sh m).2 := by
  by_cases hidle : m.status = .readyToClear ∨ m.ReadyToSend
  · rw [checkTimeout, if_pos hidle]
    exact h
  · obtain ⟨hclear, hready⟩ := not_or.1 hidle
    rw [checkTimeout, if_neg hidle]
    by_cases htimer : m.timeout ≠ 0
    · rw [if_pos htimer]
      exact hsame sh m _ ⟨rfl, rfl, rfl, rfl⟩ h
    · rw [if_neg htimer]
      exact hretry hclear hready (not_ne_iff.1 htimer)

theorem timeoutVisit_rule (hsame : ∀ sh m m', m.SameEntry m' → P sh m → P sh m')
    (hgiveUp : ∀ sh m, m.status ≠ .readyToClear → P sh m → P (sh.giveUp m).1 (sh.giveUp m).2)
    (htimeout : ∀ sh m, P sh m → P (sh.onContract m receiveTimeoutForSlidingWindow) m)
    (hretry : ∀ sh m m', m.status ≠ .readyToClear → m.Rescheduled m' → P sh m → P sh m') (h : P sh m) :
    ∃ m', timeoutVisit sh m = ((timeoutVisit sh m).1, some m') ∧ P (timeoutVisit sh m).1 m' := by
  refine ⟨_, rfl, ?_⟩
  rw [timeoutVisit_eq]
  apply checkTimeout_rule hsame (checkLifetime_rule hsame hgiveUp h)
  intro hclear _ _
  exact retryMessage_rule hgiveUp hretry hclear (htimeout _ _ (checkLifetime_rule hsame hgiveUp h))

end TimeoutRules

theorem searchVisit_cases (tvNow : TimeVal) (sh : Shared) (best : Option ApduIdtfTx) (m : TxMsg) :
    (m.ReadyToSend ∧ sh.contracts.lock m = none ∧
      searchVisit tvNow (sh, best) m = ((sh.dataTimeout m sfcNoContract, best), none)) ∨
    (∃ best', searchVisit tvNow (sh, best) m = ((sh, best'), some m)) ∨
    (∃ best', m.status = .readyToSend ∧ searchVisit tvNow (sh, best) m =
      ((sh.onContract m fun c => (slidingWindowAllowsTX c).2, best'), some m)) := by
  by_cases hready : m.ReadyToSend ∧ m.outranks best = true
  · cases hlock : sh.contracts.lock m with
    | none => exact Or.inl ⟨hready.1, rfl, by simp [searchVisit, hready, hlock]⟩
    | some c =>
      right
      by_cases hfc : m.status = .readyToSend
      · right
        simp only [searchVisit, if_pos hready, hlock, if_pos hfc]
        split_ifs
        all_goals exact ⟨_, hfc, rfl⟩
      · left
        simp only [searchVisit, if_pos hready, hlock, if_neg hfc]
        split_ifs
        all_goals exact ⟨_, rfl⟩
  · exact Or.inr (Or.inl ⟨best, by simp only [searchVisit, if_neg hready]⟩)

/-- What a visit of the concatenation does to an entry that is ready on the chosen contract: it is refused by the window, sent into the window, sent without it, or dropped because it can never fit. -/
theorem concatVisit_cases (contractId : UInt16) (room : Int) (handle : UInt8) (now : UInt32)
    (c : Contract) (out : List UInt8) (m : TxMsg) :
    concatVisit contractId room handle now (c, out) m = ((c, out), some m) ∨
    m.ReadyToSend ∧ contractId = m.contractId ∧
      ((m.apduLen.toNat : Int) ≤ room - out.length ∧ m.status = .readyToSend ∧
          (slidingWindowIncreaseUsage c).1 = false ∧
          concatVisit contractId room handle now (c, out) m = (((slidingWindowIncreaseUsage c).2, out), some m) ∨
        (m.apduLen.toNat : Int) ≤ room - out.length ∧ m.status = .readyToSend ∧
          (slidingWindowIncreaseUsage c).1 = true ∧
          concatVisit contractId room handle now (c, out) m =
            (((slidingWindowIncreaseUsage c).2, out ++ m.txApduData),
              some ({ m with inSlidingWindow := true }.sent handle now)) ∨
        (m.apduLen.toNat : Int) ≤ room - out.length ∧ m.status ≠ .readyToSend ∧
          concatVisit contractId room handle now (c, out) m = ((c, out ++ m.txApduData), some (m.sent handle now)) ∨
        ¬ (m.apduLen.toNat : Int) ≤ room - out.length ∧ out = [] ∧ concatVisit contractId room handle now (c, out) m =
            ((c, out), some { m with status := .readyToClear })) := by
  by_cases hready : m.ReadyToSend ∧ contractId = m.contractId
  · by_cases hfits : (m.apduLen.toNat : Int) ≤ room - out.length
    · by_cases hfc : m.status = .readyToSend
      · cases hallowed : (slidingWindowIncreaseUsage c).1 with
        | false =>
          refine Or.inr ⟨hready.1, hready.2, Or.inl ⟨hfits, hfc, rfl, ?_⟩⟩
          simp [concatVisit, if_pos hready, if_pos hfits, if_pos hfc, hallowed]
        | true =>
          refine Or.inr ⟨hready.1, hready.2, Or.inr (Or.inl ⟨hfits, hfc, rfl, ?_⟩)⟩
          simp [concatVisit, if_pos hready, if_pos hfits, if_pos hfc, hallowed]
      · refine Or.inr ⟨hready.1, hready.2, Or.inr (Or.inr (Or.inl ⟨hfits, hfc, ?_⟩))⟩
        simp only [concatVisit, if_pos hready, if_pos hfits, if_neg hfc]
    · by_cases hempty : out = []
      · refine Or.inr ⟨hready.1, hready.2, Or.inr (Or.inr (Or.inr ⟨hfits, hempty, ?_⟩))⟩
        simp only [concatVisit, if_pos hready, if_neg hfits, if_pos hempty]
      · left
        simp only [concatVisit, if_pos hready, if_neg hfits, if_neg hempty]
  · left
    simp only [concatVisit, if_neg hready]

theorem responseVisit_cases (now : UInt32) (key : ResponseKey) (sh : Shared) (found : Option TxMsg) (m : TxMsg) :
    responseVisit now key (sh, found) m = ((sh, found), some m) ∨
    found = none ∧ m.IsOriginalRequest sh.contracts key ∧ responseVisit now key (sh, found) m =
        (({ contracts := (sh.onContract m (responseReceived now m)).contracts
            log := .matched m.uid :: sh.log }, some m),
          some { m with status := .readyToClear }) := by
  by_cases horiginal : found.isNone ∧ m.IsOriginalRequest sh.contracts key
  · refine Or.inr ⟨Option.isNone_iff_eq_none.1 horiginal.1, horiginal.2, ?_⟩
    simp only [responseVisit, if_pos horiginal, log_onContract]
  · left
    simp only [responseVisit, if_neg horiginal]

/-- A confirm leaves the entry alone, restarts its timer, advances it to the wait for its response, or erases it. -/
theorem confirmMsg_cases (conf : ApduConfirm) (m : TxMsg) :
    confirmMsg conf m = some m ∨
    m.AwaitsConfirm conf ∧ (confirmMsg conf m = some { m with timeout := 2 } ∨
        confirmMsg conf m = some { m with status := .confirmedWaitRsp } ∨
        m.status = .sentWaitJustTLCnf ∧ confirmMsg conf m = none ∨
        conf.confirmStatus = sfcNoContract ∧ confirmMsg conf m = none) := by
  by_cases hawaits : m.AwaitsConfirm conf
  · right
    refine ⟨hawaits, ?_⟩
    by_cases hsuccess : conf.confirmStatus = sfcSuccess
    · by_cases hjust : m.status = .sentWaitJustTLCnf
      · exact Or.inr (Or.inr (Or.inl ⟨hjust, by simp [confirmMsg, hawaits, hsuccess, hjust]⟩))
      · exact Or.inr (Or.inl (by simp [confirmMsg, hawaits, hsuccess, hjust]))
    · by_cases hno : sfcNoContract = conf.confirmStatus
      · exact Or.inr (Or.inr (Or.inr ⟨hno.symm,
          by rw [confirmMsg, if_pos hawaits, if_neg hsuccess, if_pos hno]⟩))
      · exact Or.inl (by rw [confirmMsg, if_pos hawaits, if_neg hsuccess, if_neg hno])
  · left
    simp [confirmMsg, hawaits]

theorem addGenericObject_cases (cfg : RetrySettings) (req : AddRequest) (st : AslState) :
    (addGenericObject cfg req st).2 = st ∨
    ∃ c, st.shared.contracts.lookup req.contractID = some c ∧ ((addGenericObject cfg req st).2 = { st with
          shared := { st.shared with contracts := st.shared.contracts.issueReqID req c } } ∨
        ∃ apdu, setGenericObject (req.obj.withReqID c.reqID) commonApduBufSize = some apdu ∧
          (addGenericObject cfg req st).2 = { st with
            shared :=
              { contracts := st.shared.contracts.issueReqID req c
                log := .queued (newTxMsg cfg req c st.nextUid apdu) :: st.shared.log }
            queue := st.queue ++ [newTxMsg cfg req c st.nextUid apdu]
            nextUid := st.nextUid + 1 }) := by
  cases hlook : st.shared.contracts.lookup req.contractID with
  | none =>
    left
    simp only [addGenericObject, hlook]
  | some c =>
    refine Or.inr ⟨c, rfl, ?_⟩
    cases hset : setGenericObject (req.obj.withReqID c.reqID) commonApduBufSize with
    | none =>
      left
      simp only [addGenericObject, hlook, hset]
    | some apdu =>
      refine Or.inr ⟨apdu, rfl, ?_⟩
      simp only [addGenericObject, hlook, hset]

def HasRoom (contracts : Contracts) (id : UInt16) : Prop :=
  contracts.lookup id ≠ none ∨ contracts.entries.length < maxContractNo

instance (contracts : Contracts) (id : UInt16) : Decidable (HasRoom contracts id) :=
  inferInstanceAs (Decidable (_ ∨ _))

theorem storeContract_cases (random : UInt8) (req : SetContractReq) (st : AslState) :
    (storeContract random req st).2 = st ∨
    (∃ c, st.shared.contracts.lookup req.idx.contractId = some c ∧
      (storeContract random req st).2 = { st with shared := { st.shared with
        contracts := st.shared.contracts.insert req.idx.contractId
          (req.contract c.serial c.issued c.reqID) } }) ∨
    st.shared.contracts.lookup req.idx.contractId = none ∧ HasRoom st.shared.contracts req.idx.contractId ∧
      (storeContract random req st).2 =
        st.insertNew req.idx.contractId fun serial => req.contract serial 0 random := by
  cases hlook : st.shared.contracts.lookup req.idx.contractId with
  | some c => exact Or.inr (Or.inl ⟨c, rfl, by simp only [storeContract, hlook]⟩)
  | none =>
    by_cases hfull : st.shared.contracts.entries.length ≥ maxContractNo
    · left
      simp only [storeContract, hlook, if_pos hfull]
    · refine Or.inr (Or.inr ⟨rfl, Or.inr (not_le.1 hfull), ?_⟩)
      simp only [storeContract, hlook, if_neg hfull]

theorem addDmoContract_cases (random : UInt8) (unset : UnsetFields) (dmo : DmoContract) (st : AslState) :
    (addDmoContract random unset dmo st).2 = st ∨
    (∃ c, st.shared.contracts.lookup dmo.contractID = some c ∧
      (addDmoContract random unset dmo st).2 = { st with shared := { st.shared with
        contracts := st.shared.contracts.insert dmo.contractID (dmo.updated c) } }) ∨
    st.shared.contracts.lookup dmo.contractID = none ∧ HasRoom st.shared.contracts dmo.contractID ∧
      (addDmoContract random unset dmo st).2 =
        st.insertNew dmo.contractID (dmo.contract random unset) := by
  cases hlook : st.shared.contracts.lookup dmo.contractID with
  | some c => exact Or.inr (Or.inl ⟨c, rfl, by simp only [addDmoContract, hlook]⟩)
  | none =>
    by_cases hfull : st.shared.contracts.entries.length ≥ maxContractNo
    · left
      simp only [addDmoContract, hlook, if_pos hfull]
    · refine Or.inr (Or.inr ⟨rfl, Or.inr (not_le.1 hfull), ?_⟩)
      simp only [addDmoContract, hlook, if_neg hfull]

theorem setContract_cases (ownAddress : Ipv6Addr) (random : UInt8) (req : SetContractReq) (st : AslState) :
    (setContract ownAddress random req st).2 = st ∨ req.data.ownIPv6 = ownAddress ∧ (req.idx = req.data ∧
          (setContract ownAddress random req st).2 = (storeContract random req st).2 ∨
        req.idx ≠ req.data ∧ (setContract ownAddress random req st).2 =
          (storeContract random req (deleteContract req.idx.contractId st)).2) := by
  by_cases hown : req.data.ownIPv6 ≠ ownAddress
  · left
    rw [setContract, if_pos hown]
  · refine Or.inr ⟨not_ne_iff.1 hown, ?_⟩
    rw [setContract, if_neg hown]
    by_cases hidx : req.idx ≠ req.data
    · exact Or.inr ⟨hidx, by rw [if_pos hidx]⟩
    · exact Or.inl ⟨not_ne_iff.1 hidx, by rw [if_neg hidx]⟩

theorem flushAPDUBuffer_rule {P : AslState → Prop} {tvNow : TimeVal} {now : UInt32} {st : AslState}
    (hsearch : P (searchStep tvNow st).1)
    (hsent : ∀ idtf c, (searchStep tvNow st).2 = some idtf →
      (searchStep tvNow st).1.shared.contracts.lookup idtf.contractId = some c →
      P (sendConcatenated tvNow now idtf c (searchStep tvNow st).1)) : P (flushAPDUBuffer tvNow now st) := by
  unfold flushAPDUBuffer
  cases hfound : (searchStep tvNow st).2 with
  | none => simpa [hfound] using hsearch
  | some idtf =>
    cases hlook : (searchStep tvNow st).1.shared.contracts.lookup idtf.contractId with
    | none => simpa [hfound, hlook] using hsearch
    | some c => simpa [hfound, hlook] using hsent idtf c hfound hlook

theorem setContract_rule {P : AslState → Prop} {ownAddress : Ipv6Addr} {random : UInt8}
    {req : SetContractReq} {st : AslState} (hdelete : ∀ st, P st → P (deleteContract req.idx.contractId st))
    (hstore : ∀ st, P st → P (storeContract random req st).2) (h : P st) :
    P (setContract ownAddress random req st).2 := by
  rcases setContract_cases ownAddress random req st with heq | ⟨-, ⟨-, heq⟩ | ⟨-, heq⟩⟩
  · rw [heq]
    exact h
  · rw [heq]
    exact hstore st h
  · rw [heq]
    exact hstore _ (hdelete st h)

theorem dataConfirm_eq (st : AslState) (conf : ApduConfirm) :
    ∃ confs, dataConfirm st conf = { st with conf := confs } := by
  by_cases hfull : st.conf.length < maxApduConfEntryNo
  · exact ⟨st.conf ++ [conf], by rw [dataConfirm, if_pos hfull]⟩
  · exact ⟨st.conf, by rw [dataConfirm, if_neg hfull]⟩

structure AslState.SameQueue (st st' : AslState) : Prop where
  queue : st'.queue = st.queue
  log : st'.shared.log = st.shared.log
  nextUid : st'.nextUid = st.nextUid

theorem sameQueue_setContract (ownAddress : Ipv6Addr) (random : UInt8) (req : SetContractReq)
    (st : AslState) : st.SameQueue (setContract ownAddress random req st).2 := by
  apply setContract_rule (P := st.SameQueue)
  · intro st' h
    exact ⟨h.queue, h.log, h.nextUid⟩
  · intro st' h
    rcases storeContract_cases random req st' with heq | ⟨c, _, heq⟩ | ⟨_, _, heq⟩
    all_goals rw [heq]
    all_goals exact ⟨h.queue, h.log, h.nextUid⟩
  · exact ⟨rfl, rfl, rfl⟩

theorem sameQueue_addDmoContract (random : UInt8) (unset : UnsetFields) (dmo : DmoContract)
    (st : AslState) : st.SameQueue (addDmoContract random unset dmo st).2 := by
  rcases addDmoContract_cases random unset dmo st with heq | ⟨c, _, heq⟩ | ⟨_, _, heq⟩
  all_goals rw [heq]
  all_goals exact ⟨rfl, rfl, rfl⟩

end Isa100Gateway
