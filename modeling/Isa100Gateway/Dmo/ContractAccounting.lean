import Isa100Gateway.Dmo.RequestId
import Isa100Gateway.Lib.Run

/-!
# Accounting of the pending contract requests

`g_ucContractRspPending` counts the requests that still wait, in every run that keeps clear of four slips: an error response to a waiting request, a request that is stored and cannot be sent, a reclaimed request id, and a 256th waiting request.
-/

namespace Isa100Gateway

open Machine DmoContractAttribute DmoState Option

def DmoState.waitingNo (st : DmoState) : Nat :=
  Census.count Waiting requestIds st.pendingContractRspMap

structure DmoState.Accounted (st : DmoState) : Prop where
  counter : st.contractRspPending.toNat = st.waitingNo
  filed : st.Filed

theorem toNat_succ {x : UInt8} (h : x.toNat < 255) : (x + 1).toNat = x.toNat + 1 := by
  rw [UInt8.toNat_add]
  change (x.toNat + 1) % 256 = x.toNat + 1
  omega

theorem toNat_pred {x : UInt8} (h : 0 < x.toNat) : (x - 1).toNat + 1 = x.toNat := by
  have hle : (1 : UInt8) ≤ x := by
    rw [UInt8.le_iff_toNat_le]
    exact h
  rw [UInt8.toNat_sub_of_le _ _ hle]
  change x.toNat - 1 + 1 = x.toNat
  omega

section Counter

variable {st : DmoState} {id : UInt8} {c : DmoContractAttribute} {b : Option DmoContractAttribute} {st' : DmoState}

theorem waitingNo_update (hmap : st'.pendingContractRspMap = Function.update st.pendingContractRspMap id b) :
    st'.waitingNo + ((st.pendingContractRspMap id).any Waiting).toNat =
      st.waitingNo + (b.any Waiting).toNat := by
  unfold waitingNo
  rw [hmap]
  exact Census.count_update nodup_requestIds (mem_requestIds id) _ _

theorem waitingNo_pos (hfind : st.pendingContractRspMap id = some c) (hwaits : c.Waiting = true) : 0 < st.waitingNo :=
  Census.count_pos (mem_requestIds id) hfind hwaits

theorem DmoState.Accounted.replace (h : st.Accounted)
    (hmap : st'.pendingContractRspMap = Function.update st.pendingContractRspMap id b)
    (hsame : b.any Waiting = (st.pendingContractRspMap id).any Waiting) (hb : ∀ c', b = some c' → c'.RequestAt id)
    (hcounter : st'.contractRspPending = st.contractRspPending) : st'.Accounted where
  counter := by
    have hcount := waitingNo_update hmap
    rw [hsame] at hcount
    rw [hcounter, h.counter]
    exact (Nat.add_right_cancel hcount).symm
  filed := h.filed.update hb hmap

theorem DmoState.Accounted.add (h : st.Accounted)
    (hmap : st'.pendingContractRspMap = Function.update st.pendingContractRspMap id (some c))
    (hold : (st.pendingContractRspMap id).any Waiting = false)
    (hnew : c.Waiting = true) (hc : c.RequestAt id) (hroom : st.waitingNo < 255)
    (hcounter : st'.contractRspPending = st.contractRspPending + 1) : st'.Accounted where
  counter := by
    have hcount := waitingNo_update hmap
    rw [hold, any_some, hnew] at hcount
    rw [hcounter, toNat_succ (h.counter ▸ hroom), h.counter]
    exact hcount.symm
  filed := h.filed.update (fun c' hc' => some.inj hc' ▸ hc) hmap

theorem DmoState.Accounted.remove (h : st.Accounted)
    (hfind : st.pendingContractRspMap id = some c) (hwaits : c.Waiting = true)
    (hmap : st'.pendingContractRspMap = Function.update st.pendingContractRspMap id b) (hnew : b.any Waiting = false)
    (hb : ∀ c', b = some c' → c'.RequestAt id)
    (hcounter : st'.contractRspPending = st.contractRspPending - 1) : st'.Accounted where
  counter := by
    have hcount := waitingNo_update hmap
    rw [hnew, hfind, any_some, hwaits] at hcount
    have hpos : 0 < st.contractRspPending.toNat := h.counter ▸ waitingNo_pos hfind hwaits
    have hpred := toNat_pred hpos
    rw [h.counter] at hpred
    rw [hcounter]
    exact Nat.succ.inj (hpred.trans hcount.symm)
  filed := h.filed.update hb hmap

end Counter

def DmoState.CanSend (st : DmoState) (env : DmoEnv) (aslSfc : UInt8) : Prop :=
  st.dmoContractsMap.lookup env.sysMngContractID ≠ none ∧ aslSfc = sfcSuccess

/-- A new request can be stored: fewer than 255 wait, and it is sent at once or waits for its key. -/
def DmoState.CanStore (st : DmoState) (env : DmoEnv) (aslSfc : UInt8) : Prop :=
  if env.lacksKey = true then env.newSessionKeySfc = sfcSuccess → st.waitingNo < 255
  else st.waitingNo < 255 ∧ st.CanSend env aslSfc

/-- A contract request keeps the accounts. It is for a definite service; if neither a contract nor a pending request has its end points and service, a request id is free; and if it gets as far as being stored, it can be. -/
def RequestAccounts (env : DmoEnv) (aslSfc : UInt8) (args : NewContractArgs) (st : DmoState) : Prop :=
  args.srvcType ≠ anyServiceType ∧ (st.getContract args.endpoints args.srvcType = false →
      (st.findRequest args.endpoints args.srvcType = none → ∃ id, st.pendingContractRspMap id = none) ∧
      ((∀ e, st.findRequest args.endpoints args.srvcType = some e → e.2.Waiting = false) →
        env.joined = true → st.dmoContractsMap.entries.length < maxContractNo →
        st.CanStore env aslSfc))

/-- A new key keeps the accounts if every request that waits for it can be sent. -/
def KeyAccounts (env : DmoEnv) (aslSfc : UInt8 → UInt8) (endpoints : ContractEndpoints) (st : DmoState) : Prop :=
  ∀ id c, st.pendingContractRspMap id = some c → c.endpoints = endpoints →
    c.contractStatus = contractPendingNoKey → st.CanSend env (aslSfc id)

def ResponseAccounts (reqData0 : UInt8) (rsp : ContractRsp) (st : DmoState) : Prop :=
  rsp.sfc ≠ sfcSuccess → ∀ c, st.pendingContractRspMap reqData0 = some c → c.Waiting = false

def DmoAction.Accounts (st : DmoState) : DmoAction → Prop
  | .requestNewContract env aslSfc args => RequestAccounts env aslSfc args st
  | .newKeyAdded env aslSfc endpoints => KeyAccounts env aslSfc endpoints st
  | .contractResponse _ reqData0 rsp => ResponseAccounts reqData0 rsp st
  | .timeout _ | .dmoContractsMap _ | .init => True

variable {args : NewContractArgs} {env : DmoEnv} {st : DmoState}

theorem requestAt_contract {id status : UInt8} (hservice : args.srvcType ≠ anyServiceType)
    (hstatus : status = contractPendingNoKey ∨ status = contractPending) :
    (args.contract env id status).RequestAt id where
  contractID := rfl
  serviceType := hservice
  status := hstatus.elim Or.inl fun h => Or.inr (Or.inl h)

variable {c : DmoContractAttribute}

theorem sendContractRequest_sent {aslSfc id : UInt8} (h : st.CanSend env aslSfc) :
    sendContractRequest env aslSfc id c st = (sfcSuccess, { st.setPending id (some { c with
        contractReqType := contractReqTypeNew
        activationTAI := env.deadline }) with
      contractRspPending := st.contractRspPending + 1 }) := by
  unfold sendContractRequest
  rw [if_neg h.1, if_pos h.2]

theorem sendContractRequest_cases (env : DmoEnv) (aslSfc id : UInt8) (c : DmoContractAttribute) (st : DmoState) :
    (sendContractRequest env aslSfc id c st).2 = st ∨
      (sendContractRequest env aslSfc id c st).2 = { st.setPending id (some { c with
          contractReqType := contractReqTypeNew
          activationTAI := env.deadline }) with
        contractRspPending := st.contractRspPending + 1 } := by
  by_cases hcontract : st.dmoContractsMap.lookup env.sysMngContractID = none
  · left
    rw [sendContractRequest, if_pos hcontract]
  · by_cases hsfc : aslSfc = sfcSuccess
    · right
      rw [sendContractRequest_sent ⟨hcontract, hsfc⟩]
    · left
      rw [sendContractRequest, if_neg hcontract, if_neg hsfc]

theorem DmoState.Accounted.addPendingRequest {aslSfc id : UInt8}
    (h : st.Accounted) (hservice : args.srvcType ≠ anyServiceType)
    (hold : (st.pendingContractRspMap id).any Waiting = false)
    (hstore : st.CanStore env aslSfc) : (addPendingRequest env aslSfc args id st).2.Accounted := by
  unfold Isa100Gateway.addPendingRequest
  unfold CanStore at hstore
  by_cases hkey : env.lacksKey = true
  · rw [if_pos hkey] at hstore ⊢
    by_cases hasked : env.newSessionKeySfc = sfcSuccess
    · rw [if_pos hasked]
      exact h.add rfl hold rfl (requestAt_contract hservice (Or.inl rfl)) (hstore hasked) rfl
    · rwa [if_neg hasked]
  · rw [if_neg hkey] at hstore ⊢
    obtain ⟨hroom, hcontract, hsfc⟩ := hstore
    have hc : (args.contract env id contractPending).RequestAt id :=
      requestAt_contract hservice (Or.inr rfl)
    have hsend : (st.setPending id (some (args.contract env id contractPending))).CanSend env
        aslSfc := ⟨hcontract, hsfc⟩
    change (sendContractRequest env aslSfc id (args.contract env id contractPending)
      (st.setPending id (some (args.contract env id contractPending)))).2.Accounted
    rw [sendContractRequest_sent hsend]
    refine h.add (Function.update_idem ..) hold rfl ?_ hroom rfl
    exact ⟨hc.contractID, hc.serviceType, hc.status⟩

theorem DmoState.Accounted.admit {st st' : DmoState} {aslSfc sfc id : UInt8}
    (h : st.Accounted) (hservice : args.srvcType ≠ anyServiceType)
    (hold : (st.pendingContractRspMap id).any Waiting = false)
    (hstore : env.joined = true → st.dmoContractsMap.entries.length < maxContractNo → st.CanStore env aslSfc)
    (hrun : admitRequest env aslSfc args ⟨none, some id⟩ st = some (sfc, st')) : st'.Accounted := by
  unfold admitRequest at hrun
  rw [if_neg (not_not_intro rfl)] at hrun
  by_cases hjoined : env.joined = false
  · rw [if_pos hjoined] at hrun
    cases hrun
    exact h
  · rw [if_neg hjoined] at hrun
    by_cases hfull : st.dmoContractsMap.entries.length ≥ maxContractNo
    · rw [if_pos hfull] at hrun
      cases hrun
      exact h
    · rw [if_neg hfull, map_some] at hrun
      have hstored := h.addPendingRequest hservice hold
        (hstore (Bool.not_eq_false _ ▸ hjoined) (not_le.mp hfull))
      rwa [some.inj hrun] at hstored

theorem accounted_requestNewContract {st st' : DmoState} {aslSfc sfc : UInt8}
    (h : st.Accounted) (hok : RequestAccounts env aslSfc args st)
    (hrun : requestNewContract env aslSfc args st = some (sfc, st')) : st'.Accounted := by
  obtain ⟨hservice, hok⟩ := hok
  unfold requestNewContract at hrun
  by_cases hexists : st.getContract args.endpoints args.srvcType = true
  · rw [if_pos hexists] at hrun
    cases hrun
    exact h
  · rw [if_neg hexists, isPendingContractRequest_query h.filed env.rand hservice] at hrun
    obtain ⟨hfree, hstore⟩ := hok (Bool.eq_false_iff.mpr hexists)
    -- the request id is the one of the first request with these end points, or a free one
    cases hfind : st.findRequest args.endpoints args.srvcType with
    | some e =>
      obtain ⟨id, c⟩ := e
      have hmem : st.pendingContractRspMap id = some c :=
        mem_pendingEntries.mp (List.mem_of_find?_eq_some hfind)
      rw [hfind] at hrun hstore
      by_cases hwaits : c.Waiting = true
      · simp only [hwaits, if_true, bind_some] at hrun
        cases hrun
        exact h
      · rw [Bool.not_eq_true] at hwaits
        simp only [hwaits] at hrun
        apply h.admit hservice _ (hstore fun e he => some.inj he ▸ hwaits) hrun
        rw [hmem, any_some, hwaits]
    | none =>
      rw [hfind] at hrun
      obtain ⟨id, hnew, hidfree⟩ := newRequestId_free h.filed env.rand (hfree hfind)
      rw [hnew] at hrun
      have hmoved : DmoState.Accounted { st with contractReqID := id + 1 } := ⟨h.counter, h.filed⟩
      apply hmoved.admit hservice _ _ hrun
      · simp [hidfree]
      · exact hstore fun e he => absurd (hfind.symm.trans he) (by simp)

section Keys

variable {st : DmoState} {env : DmoEnv} {endpoints : ContractEndpoints}

theorem notifyRound_map (env : DmoEnv) (aslSfc id : UInt8) (c : DmoContractAttribute) (st : DmoState) :
    (notifyRound env aslSfc id c st).dmoContractsMap = st.dmoContractsMap ∧
      ∃ c', (notifyRound env aslSfc id c st).pendingContractRspMap =
          Function.update st.pendingContractRspMap id (some c') ∧
        c'.contractStatus = contractPending ∧ c'.endpoints = c.endpoints ∧
        c'.contractID = c.contractID ∧ c'.serviceType = c.serviceType := by
  dsimp only [notifyRound]
  obtain heq | heq := sendContractRequest_cases env aslSfc id
    { c with contractStatus := contractPending }
    { st.setPending id (some { c with contractStatus := contractPending }) with
      contractRspPending := st.contractRspPending - 1 }
  · rw [heq]
    exact ⟨rfl, _, rfl, rfl, rfl, rfl, rfl⟩
  · rw [heq]
    exact ⟨rfl, _, Function.update_idem .., rfl, rfl, rfl, rfl⟩

variable {id aslSfc : UInt8} {c : DmoContractAttribute}

theorem requestAt_notifyRound {c c' : DmoContractAttribute} (h : c.RequestAt id)
    (hstatus : c'.contractStatus = contractPending) (hid : c'.contractID = c.contractID)
    (hservice : c'.serviceType = c.serviceType) : c'.RequestAt id where
  contractID := hid.trans h.contractID
  serviceType := hservice ▸ h.serviceType
  status := Or.inr (Or.inl hstatus)

theorem filed_notifyRound (h : st.Filed)
    (hfind : st.pendingContractRspMap id = some c) : (notifyRound env aslSfc id c st).Filed := by
  obtain ⟨-, c', hmap, hstatus, -, hid, hservice⟩ := notifyRound_map env aslSfc id c st
  apply h.update _ hmap
  intro c'' heq
  cases heq
  exact requestAt_notifyRound (h id c hfind) hstatus hid hservice

theorem DmoState.Accounted.notifyRound (h : st.Accounted) (hfind : st.pendingContractRspMap id = some c)
    (hstatus : c.contractStatus = contractPendingNoKey) (hsend : st.CanSend env aslSfc) :
    (notifyRound env aslSfc id c st).Accounted := by
  obtain ⟨-, c', hmap, hstatus', -, hid, hservice⟩ := notifyRound_map env aslSfc id c st
  apply h.replace hmap
  · rw [hfind, any_some, any_some]
    simp [Waiting, hstatus, hstatus', contractPending, contractPendingNoKey, contractPendingFailed]
  · intro c'' heq
    cases heq
    exact requestAt_notifyRound (h.filed id c hfind) hstatus' hid hservice
  · have hsend' : CanSend { st.setPending id
        (some { c with contractStatus := contractPending }) with
        contractRspPending := st.contractRspPending - 1 } env aslSfc := hsend
    unfold Isa100Gateway.notifyRound
    simp only
    rw [sendContractRequest_sent hsend']
    exact UInt8.sub_add_cancel _ _

theorem keyAccounts_notifyRound {aslSfc : UInt8 → UInt8} (h : KeyAccounts env aslSfc endpoints st)
    (id : UInt8) (c : DmoContractAttribute) :
    KeyAccounts env aslSfc endpoints (notifyRound env (aslSfc id) id c st) := by
  obtain ⟨htable, c', hmap, hstatus, -, -, -⟩ := notifyRound_map env (aslSfc id) id c st
  intro id' d hfind hend hnokey
  rw [hmap] at hfind
  by_cases heq : id' = id
  · rw [heq, Function.update_self] at hfind
    rw [← some.inj hfind, hstatus] at hnokey
    exact absurd hnokey (by decide)
  · rw [Function.update_of_ne heq] at hfind
    unfold CanSend
    rw [htable]
    exact h id' d hfind hend hnokey

theorem notifyLoop_succ (h : st.Filed) (aslSfc : UInt8 → UInt8) (rounds : Nat) :
    (notifyLoop env aslSfc endpoints (rounds + 1) st = st ∧
      ∀ id c, st.pendingContractRspMap id = some c → c.endpoints = endpoints →
        c.contractStatus ≠ contractPendingNoKey) ∨
    ∃ id c, st.pendingContractRspMap id = some c ∧ c.endpoints = endpoints ∧ c.contractStatus = contractPendingNoKey ∧
      notifyLoop env aslSfc endpoints (rounds + 1) st =
        notifyLoop env aslSfc endpoints rounds (notifyRound env (aslSfc id) id c st) := by
  rw [notifyLoop, isPendingContractRequest_key h]
  cases hfind : st.pendingEntries.find? fun e =>
      decide (e.2.endpoints = endpoints ∧ e.2.contractStatus = contractPendingNoKey) with
  | none =>
    refine Or.inl ⟨rfl, ?_⟩
    intro id c hmem hend hnokey
    have hnot := List.find?_eq_none.mp hfind (id, c) (mem_pendingEntries.mpr hmem)
    exact hnot (decide_eq_true ⟨hend, hnokey⟩)
  | some e =>
    obtain ⟨id, c⟩ := e
    have hpass : c.endpoints = endpoints ∧ c.contractStatus = contractPendingNoKey := by
      simpa using List.find?_some hfind
    exact Or.inr ⟨id, c, mem_pendingEntries.mp (List.mem_of_find?_eq_some hfind), hpass.1, hpass.2,
      rfl⟩

theorem accounted_notifyLoop {aslSfc : UInt8 → UInt8} (rounds : Nat) (h : st.Accounted)
    (hok : KeyAccounts env aslSfc endpoints st) : (notifyLoop env aslSfc endpoints rounds st).Accounted := by
  induction rounds generalizing st with
  | zero => exact h
  | succ rounds ih =>
    obtain ⟨heq, -⟩ | ⟨id, c, hfind, hend, hnokey, heq⟩ := notifyLoop_succ h.filed aslSfc rounds
    · rwa [heq]
    · rw [heq]
      exact ih (h.notifyRound hfind hnokey (hok id c hfind hend hnokey))
        (keyAccounts_notifyRound hok id c)

def DmoState.keyless (st : DmoState) (endpoints : ContractEndpoints) : Nat :=
  Census.count (fun c => decide (c.endpoints = endpoints ∧ c.contractStatus = contractPendingNoKey))
    requestIds st.pendingContractRspMap

def DmoState.Takes (st : DmoState) (endpoints : ContractEndpoints) (id : UInt8) : Prop :=
  ∃ c, st.pendingContractRspMap id = some c ∧ c.endpoints = endpoints ∧
    (c.contractStatus = contractPendingNoKey ∨ c.contractStatus = contractPending)

theorem keyless_notifyRound (hfind : st.pendingContractRspMap id = some c) (hend : c.endpoints = endpoints)
    (hnokey : c.contractStatus = contractPendingNoKey) :
    (notifyRound env aslSfc id c st).keyless endpoints + 1 = st.keyless endpoints := by
  obtain ⟨-, c', hmap, hstatus, -, -, -⟩ := notifyRound_map env aslSfc id c st
  have hcount := Census.count_update
    (p := fun c => decide (c.endpoints = endpoints ∧ c.contractStatus = contractPendingNoKey))
    nodup_requestIds (mem_requestIds id) st.pendingContractRspMap (some c')
  rw [hfind, any_some, any_some, decide_eq_true ⟨hend, hnokey⟩, hstatus,
    decide_eq_false (fun h => absurd h.2 (by decide))] at hcount
  unfold keyless
  rw [hmap]
  exact hcount

theorem takes_notifyRound (hend : c.endpoints = endpoints) {id' : UInt8} (h : st.Takes endpoints id') :
    (notifyRound env aslSfc id c st).Takes endpoints id' := by
  obtain ⟨-, c', hmap, hstatus, hsame, -, -⟩ := notifyRound_map env aslSfc id c st
  unfold Takes
  rw [hmap]
  by_cases heq : id' = id
  · rw [heq, Function.update_self]
    exact ⟨c', rfl, hsame.trans hend, Or.inr hstatus⟩
  · rw [Function.update_of_ne heq]
    exact h

theorem notifyLoop_takes {aslSfc : UInt8 → UInt8} (rounds : Nat) (h : st.Filed)
    (henough : st.keyless endpoints ≤ rounds) (htakes : st.Takes endpoints id) :
    ∃ c, (notifyLoop env aslSfc endpoints rounds st).pendingContractRspMap id = some c ∧
      c.contractStatus = contractPending := by
  induction rounds generalizing st with
  | zero =>
    obtain ⟨c, hfind, hend, hnokey | hpending⟩ := htakes
    · have hpos : 0 < st.keyless endpoints :=
        Census.count_pos (mem_requestIds id) hfind (decide_eq_true ⟨hend, hnokey⟩)
      omega
    · exact ⟨c, hfind, hpending⟩
  | succ rounds ih =>
    obtain ⟨heq, hnone⟩ | ⟨id', c, hfind, hend, hnokey, heq⟩ := notifyLoop_succ h aslSfc rounds
    · rw [heq]
      obtain ⟨c, hfind, hend, hnokey | hpending⟩ := htakes
      · exact absurd hnokey (hnone id c hfind hend)
      · exact ⟨c, hfind, hpending⟩
    · rw [heq]
      have hfewer : (notifyRound env (aslSfc id') id' c st).keyless endpoints + 1 = st.keyless endpoints :=
        keyless_notifyRound hfind hend hnokey
      exact ih (filed_notifyRound h hfind) (by omega) (takes_notifyRound hend htakes)

theorem DmoState.Accounted.notify_reaches (h : st.Accounted) (aslSfc : UInt8 → UInt8)
    (hfind : st.pendingContractRspMap id = some c)
    (hend : c.endpoints = endpoints) (hnokey : c.contractStatus = contractPendingNoKey) :
    ∃ c', (notifyNewKeyAdded env aslSfc endpoints st).pendingContractRspMap id = some c' ∧
      c'.contractStatus = contractPending := by
  have hwaits : c.Waiting = true := by
    simp [Waiting, hnokey, contractPendingNoKey, contractPendingFailed]
  have hpending : st.contractRspPending ≠ 0 := by
    intro hzero
    have hpos := waitingNo_pos hfind hwaits
    rw [← h.counter, hzero] at hpos
    exact absurd hpos (by decide)
  unfold notifyNewKeyAdded
  rw [if_neg hpending]
  exact notifyLoop_takes _ h.filed (Census.count_le_length _ _ _) ⟨c, hfind, hend, Or.inl hnokey⟩

end Keys

theorem DmoContractAttribute.RequestAt.fail {id : UInt8} (h : c.RequestAt id) (time : UInt32) : RequestAt
      { c with activationTAI := time, contractStatus := contractPendingFailed } id where
  contractID := h.contractID
  serviceType := h.serviceType
  status := Or.inr (Or.inr rfl)

theorem DmoState.Accounted.withContracts (h : st.Accounted) (contracts : DmoContractsMap) :
    DmoState.Accounted { st with dmoContractsMap := contracts } where
  counter := h.counter
  filed := h.filed

theorem DmoState.Accounted.takeResponse (h : st.Accounted) (rsp : ContractRsp)
    (c : DmoContractAttribute) : (takeResponse rsp c st).Accounted := by
  unfold Isa100Gateway.takeResponse installContract
  by_cases hcode : rsp.responseCode ≠ contractRspOk
  · rwa [if_pos hcode]
  · rw [if_neg hcode]
    by_cases hfull : c.contractReqType = contractReqTypeNew ∧ st.dmoContractsMap.entries.length ≥ maxContractNo
    · rwa [if_pos hfull]
    · rw [if_neg hfull]
      by_cases habsent : st.dmoContractsMap.lookup (rsp.contract c).contractID = none
      · rw [if_pos habsent]
        exact h.withContracts _
      · rwa [if_neg habsent]

theorem accounted_processContractResponse {reqData0 : UInt8}
    {rsp : ContractRsp} (h : st.Accounted) (hok : ResponseAccounts reqData0 rsp st) :
    (processContractResponse env reqData0 rsp st).Accounted := by
  unfold processContractResponse
  by_cases herror : rsp.sfc ≠ sfcSuccess
  · rw [if_pos herror]
    cases hfind : st.pendingContractRspMap reqData0 with
    | none => exact h
    | some c =>
      change DmoState.Accounted (st.setPending reqData0
        (some { c with activationTAI := env.crtTaiSec, contractStatus := contractPendingFailed }))
      refine h.replace (pendingContractRspMap_setPending _ _ _) ?_ ?_ rfl
      · rw [hfind, any_some, any_some, hok herror c hfind]
        rfl
      · intro c' heq
        cases heq
        exact (h.filed _ c hfind).fail env.crtTaiSec
  · rw [if_neg herror]
    cases hfind : st.pendingContractRspMap rsp.requestId with
    | none => exact h
    | some c =>
      by_cases hfailed : c.contractStatus = contractPendingFailed
      · simp only [if_pos hfailed]
        refine h.replace (pendingContractRspMap_setPending _ _ none) ?_ (fun c' heq => nomatch heq) rfl
        rw [hfind, any_some, Waiting, hfailed]
        rfl
      · simp only [if_neg hfailed]
        have hwaits : c.Waiting = true := bne_iff_ne.mpr hfailed
        apply DmoState.Accounted.takeResponse
        exact h.remove hfind hwaits rfl rfl (fun c' heq => nomatch heq) rfl

theorem accounted_timeoutStep (now : UInt32) (id : UInt8) (h : st.Accounted) : (timeoutStep now st id).Accounted := by
  unfold timeoutStep
  cases hfind : st.pendingContractRspMap id with
  | none => exact h
  | some c =>
    by_cases hlate : c.activationTAI < now ∧ c.contractStatus ≠ contractPendingFailed
    · simp only [if_pos hlate]
      apply h.remove hfind (bne_iff_ne.mpr hlate.2) rfl rfl _ rfl
      intro c' heq
      cases heq
      exact (h.filed id c hfind).fail c.activationTAI
    · simp only [if_neg hlate]
      exact h

theorem accounted_timeoutContractReqs (now : UInt32) (h : st.Accounted) : (timeoutContractReqs now st).Accounted :=
  run_invariant (fun _ id h _ => accounted_timeoutStep now id h) h (along_true st requestIds)

theorem accounted_start (contractReqID : UInt8) : DmoState.Accounted { start with contractReqID := contractReqID } where
  counter := by
    unfold waitingNo Census.count
    rw [List.countP_eq_zero.mpr]
    · rfl
    · intro id _
      simp [start]
  filed _ _ hfind := absurd hfind (by simp [start])

theorem accounted_dmoStep (a : DmoAction) (h : st.Accounted) (hok : a.Accounts st) : (dmoStep st a).Accounted := by
  cases a with
  | requestNewContract env aslSfc args =>
    change DmoState.Accounted (((requestNewContract env aslSfc args st).map Prod.snd).getD st)
    cases hrun : requestNewContract env aslSfc args st with
    | none => exact h
    | some r => exact accounted_requestNewContract h hok hrun
  | newKeyAdded env aslSfc endpoints =>
    change (notifyNewKeyAdded env aslSfc endpoints st).Accounted
    unfold notifyNewKeyAdded
    by_cases hzero : st.contractRspPending = 0
    · rwa [if_pos hzero]
    · rw [if_neg hzero]
      exact accounted_notifyLoop _ h hok
  | contractResponse env reqData0 rsp => exact accounted_processContractResponse h hok
  | timeout now =>
    simp only [dmoStep, dmoRun, getD_some]
    exact accounted_timeoutContractReqs now h
  | dmoContractsMap contracts => exact h.withContracts contracts
  | init => exact accounted_start st.contractReqID

theorem accounted_of_reachable (h : Reachable start dmoStep DmoAction.Accounts st) : st.Accounted :=
  h.invariant (P := DmoState.Accounted) (accounted_start 1) fun _ a h hok => accounted_dmoStep a h hok

/-- In a run whose steps keep the accounts, the counter is the number of requests that wait, and a new key reaches every request that waits for it. -/
theorem contractRspPending_eq_waitingNo {st : DmoState} (h : Reachable start dmoStep DmoAction.Accounts st) :
    st.contractRspPending.toNat = st.waitingNo ∧ ∀ env aslSfc endpoints id c, st.pendingContractRspMap id = some c →
        c.endpoints = endpoints → c.contractStatus = contractPendingNoKey →
        ∃ c', (notifyNewKeyAdded env aslSfc endpoints st).pendingContractRspMap id = some c' ∧
          c'.contractStatus = contractPending := by
  have haccounted := accounted_of_reachable h
  refine ⟨haccounted.counter, ?_⟩
  intro env aslSfc endpoints id c hfind hend hnokey
  exact haccounted.notify_reaches aslSfc hfind hend hnokey

def sampleDmoEnv (crtTaiSec : UInt32) (secured : Bool) : DmoEnv where
  crtTaiSec := crtTaiSec
  contractReqTimeout := 10
  joined := true
  tlSecurityLevel := if secured then 5 else securityNone
  hasTxKey := false
  newSessionKeySfc := sfcSuccess
  sysMngContractID := 1
  rand := 0
  unsetReqType := 0

def sampleNewContract (dstTLPort : UInt16) : NewContractArgs where
  endpoints := ⟨samplePeer, dstTLPort, 0xF0B2⟩
  contractLife := 0xFFFFFFFF
  srvcType := 1
  priority := 0
  maxAPDUSize := 80
  reliability := 0
  bandwidth := ⟨-15, 1, 5⟩

def sampleRequested : DmoState :=
  dmoStep start (.requestNewContract (sampleDmoEnv 100 true) sfcSuccess
    (sampleNewContract 0xF0B1))

theorem reachable_sampleRequested : Reachable start dmoStep DmoAction.Accounts sampleRequested := by
  apply Reachable.init.step
  refine ⟨by decide, fun _ => ⟨fun _ => ⟨1, rfl⟩, fun _ _ _ _ => ?_⟩⟩
  decide +kernel

theorem contractRspPending_eq_waitingNo_sampleRequested :
    sampleRequested.contractRspPending.toNat = sampleRequested.waitingNo ∧
      ∀ env aslSfc endpoints id c, sampleRequested.pendingContractRspMap id = some c →
        c.endpoints = endpoints → c.contractStatus = contractPendingNoKey →
        ∃ c', (notifyNewKeyAdded env aslSfc endpoints sampleRequested).pendingContractRspMap id =
            some c' ∧ c'.contractStatus = contractPending :=
  contractRspPending_eq_waitingNo reachable_sampleRequested

/-- A first request that the ASL refuses, a second one that waits for its key, and the timeout of the first. -/
def sampleMiscounted : DmoState :=
  run dmoStep start
    [.dmoContractsMap (AList.insert 1
        ((sampleNewContract 0xF0B0).contract (sampleDmoEnv 0 false) 1 contractRspOk) ∅),
      .requestNewContract (sampleDmoEnv 100 false) sfcInsufficientDeviceResources
        (sampleNewContract 0xF0B1),
      .requestNewContract (sampleDmoEnv 145 true) sfcSuccess (sampleNewContract 0xF0B2),
      .timeout 150]

/-- The counter is zero while a request waits for its key, and the key does not reach it. -/
theorem key_misses_request : sampleMiscounted.contractRspPending = 0 ∧ sampleMiscounted.waitingNo = 1 ∧
      (sampleMiscounted.pendingContractRspMap 2).map contractStatus = some contractPendingNoKey ∧
      (sampleMiscounted.pendingContractRspMap 2).map endpoints = some (sampleNewContract 0xF0B2).endpoints ∧
      ((notifyNewKeyAdded (sampleDmoEnv 150 true) (fun _ => sfcSuccess)
          (sampleNewContract 0xF0B2).endpoints sampleMiscounted).pendingContractRspMap 2).map
        contractStatus = some contractPendingNoKey := by
  decide +kernel

end Isa100Gateway
