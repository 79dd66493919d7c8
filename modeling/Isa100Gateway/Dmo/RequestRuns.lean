import Isa100Gateway.Dmo.ContractAccounting

/-!
# Request ids over whole runs

Every entry of the pending map stays a request under its own id, whatever the steps of a run. A new request gets an id that no waiting request has, except where all ids are in the map and the search begins at zero: there the first test of the search passes for an id that it did not find free.
-/

namespace Isa100Gateway

open Machine DmoState Option

/-! ## Every entry is a request -/

section Filed

variable {st st' : DmoState} {env : DmoEnv} {aslSfc sfc id : UInt8} {args : NewContractArgs}

theorem filed_setFailed (h : st.Filed) {c : DmoContractAttribute} (hfind : st.pendingContractRspMap id = some c)
    (time : UInt32) (hmap : st'.pendingContractRspMap = Function.update st.pendingContractRspMap id
      (some { c with activationTAI := time, contractStatus := contractPendingFailed })) : st'.Filed := by
  apply h.update _ hmap
  intro c' heq
  cases heq
  exact (h id c hfind).fail time

theorem filed_newRequestId (h : st.Filed) {s : IdSearch} (hnew : newRequestId s st = some (id, st')) : st'.Filed := by
  unfold newRequestId at hnew
  by_cases hfree : s.tentativeReqID ≥ st.contractReqID
  · rw [if_pos hfree] at hnew
    cases hnew
    exact h
  rw [if_neg hfree] at hnew
  by_cases hwrapped : s.tentativeReqIDWrapped < st.contractReqID
  · rw [if_pos hwrapped] at hnew
    cases hnew
    exact h
  rw [if_neg hwrapped] at hnew
  cases hfind : st.pendingContractRspMap s.reclaimableReqID with
  | none =>
    rw [hfind] at hnew
    cases hnew
  | some c =>
    rw [hfind] at hnew
    cases hnew
    exact filed_setFailed h hfind c.activationTAI rfl

theorem filed_addPendingRequest (h : st.Filed) (hservice : args.srvcType ≠ anyServiceType) :
    (addPendingRequest env aslSfc args id st).2.Filed := by
  have hentry : ∀ status, status = contractPendingNoKey ∨ status = contractPending →
      ∀ c, some (args.contract env id status) = some c → c.RequestAt id := by
    rintro status hstatus c heq
    cases heq
    exact requestAt_contract hservice hstatus
  unfold addPendingRequest
  by_cases hkey : env.lacksKey = true
  · rw [if_pos hkey]
    split
    · exact h.update (hentry _ (Or.inl rfl)) rfl
    · exact h
  · rw [if_neg hkey]
    have hstored : (st.setPending id (some (args.contract env id contractPending))).Filed :=
      h.update (hentry _ (Or.inr rfl)) rfl
    obtain hsame | hsent := sendContractRequest_cases env aslSfc id (args.contract env id contractPending)
      (st.setPending id (some (args.contract env id contractPending)))
    · exact hsame ▸ hstored
    · have hc := hentry contractPending (Or.inr rfl) _ rfl
      rw [hsent]
      apply hstored.update _ rfl
      intro c heq
      cases heq
      exact ⟨hc.contractID, hc.serviceType, hc.status⟩

variable {answer : PendingAnswer}

theorem filed_admitRequest (h : st.Filed) (hservice : answer.requestId = none ∨ args.srvcType ≠ anyServiceType)
    (hrun : admitRequest env aslSfc args answer st = some (sfc, st')) : st'.Filed := by
  unfold admitRequest at hrun
  by_cases hpending : answer.contract ≠ none
  · rw [if_pos hpending] at hrun
    cases hrun
    exact h
  rw [if_neg hpending] at hrun
  by_cases hjoined : env.joined = false
  · rw [if_pos hjoined] at hrun
    cases hrun
    exact h
  rw [if_neg hjoined] at hrun
  by_cases hfull : st.dmoContractsMap.entries.length ≥ maxContractNo
  · rw [if_pos hfull] at hrun
    cases hrun
    exact h
  rw [if_neg hfull] at hrun
  obtain ⟨id, hid, heq⟩ := map_eq_some_iff.mp hrun
  obtain hnone | hdefinite := hservice
  · rw [hnone] at hid
    cases hid
  · have hstored : (addPendingRequest env aslSfc args id st).2.Filed := filed_addPendingRequest h hdefinite
    rwa [heq] at hstored

theorem isPendingContractRequest_any (h : st.Filed) (rand : UInt8) {q : PendingQuery}
    (hany : q.serviceType = anyServiceType)
    (hrun : isPendingContractRequest rand q st = some (answer, st')) : answer.requestId = none ∧ st' = st := by
  unfold isPendingContractRequest at hrun
  rw [loop_eq] at hrun
  cases hloop : st.pendingEntries.findSome? q.answer with
  | none =>
    rw [hloop] at hrun
    dsimp only at hrun
    rw [if_pos (Or.inr hany)] at hrun
    cases hrun
    exact ⟨rfl, rfl⟩
  | some found =>
    rw [hloop] at hrun
    cases hrun
    obtain ⟨⟨id, c⟩, hmem, hanswer⟩ := List.exists_of_findSome?_eq_some hloop
    have hdefinite := (h id c (mem_pendingEntries.mp hmem)).serviceType
    refine ⟨?_, rfl⟩
    unfold PendingQuery.answer at hanswer
    rw [hany] at hanswer
    grind

theorem filed_requestNewContract (h : st.Filed) (hrun : requestNewContract env aslSfc args st = some (sfc, st')) :
    st'.Filed := by
  unfold requestNewContract at hrun
  by_cases hexists : st.getContract args.endpoints args.srvcType = true
  · rw [if_pos hexists] at hrun
    cases hrun
    exact h
  rw [if_neg hexists] at hrun
  obtain ⟨⟨answer, found⟩, hsearch, hadmit⟩ := bind_eq_some_iff.mp hrun
  by_cases hany : args.srvcType = anyServiceType
  · obtain ⟨hnone, rfl⟩ := isPendingContractRequest_any h env.rand hany hsearch
    exact filed_admitRequest h (Or.inl hnone) hadmit
  · refine filed_admitRequest ?_ (Or.inr hany) hadmit
    rw [isPendingContractRequest_query h env.rand hany] at hsearch
    cases hfind : st.findRequest args.endpoints args.srvcType with
    | some e =>
      rw [hfind] at hsearch
      cases hsearch
      exact h
    | none =>
      rw [hfind] at hsearch
      obtain ⟨⟨id, moved⟩, hnew, heq⟩ := map_eq_some_iff.mp hsearch
      cases heq
      exact filed_newRequestId h hnew

theorem filed_notifyLoop {aslSfc : UInt8 → UInt8} {endpoints : ContractEndpoints} (rounds : Nat) (h : st.Filed) :
    (notifyLoop env aslSfc endpoints rounds st).Filed := by
  induction rounds generalizing st with
  | zero => exact h
  | succ rounds ih =>
    obtain ⟨hend, -⟩ | ⟨id, c, hfind, -, -, hround⟩ := notifyLoop_succ h aslSfc rounds
    · rwa [hend]
    · rw [hround]
      exact ih (filed_notifyRound h hfind)

theorem filed_processContractResponse (h : st.Filed) (reqData0 : UInt8) (rsp : ContractRsp) :
    (processContractResponse env reqData0 rsp st).Filed := by
  have hgone : ∀ id, (st.setPending id none).Filed := fun id => h.update (c := none) (fun _ heq => nomatch heq) rfl
  unfold processContractResponse
  by_cases herror : rsp.sfc ≠ sfcSuccess
  · rw [if_pos herror]
    cases hfind : st.pendingContractRspMap reqData0 with
    | none => exact h
    | some c => exact filed_setFailed h hfind env.crtTaiSec rfl
  · rw [if_neg herror]
    cases hfind : st.pendingContractRspMap rsp.requestId with
    | none => exact h
    | some c =>
      dsimp only
      split
      · exact hgone rsp.requestId
      · have hmap : ∀ st : DmoState, (takeResponse rsp c st).pendingContractRspMap = st.pendingContractRspMap := by
          intro st
          unfold takeResponse installContract
          split_ifs <;> rfl
        intro id c' hc'
        rw [hmap] at hc'
        exact hgone rsp.requestId id c' hc'

theorem filed_timeoutStep (now : UInt32) (id : UInt8) (h : st.Filed) : (timeoutStep now st id).Filed := by
  unfold timeoutStep
  cases hfind : st.pendingContractRspMap id with
  | none => exact h
  | some c =>
    dsimp only
    split
    · exact filed_setFailed h hfind c.activationTAI rfl
    · exact h

theorem filed_dmoStep (h : st.Filed) (a : DmoAction) : (dmoStep st a).Filed := by
  cases a with
  | requestNewContract env aslSfc args =>
    change Filed (((requestNewContract env aslSfc args st).map Prod.snd).getD st)
    cases hrun : requestNewContract env aslSfc args st with
    | none => exact h
    | some r => exact filed_requestNewContract h hrun
  | newKeyAdded env aslSfc endpoints =>
    change (notifyNewKeyAdded env aslSfc endpoints st).Filed
    unfold notifyNewKeyAdded
    split
    · exact h
    · exact filed_notifyLoop _ h
  | contractResponse env reqData0 rsp => exact filed_processContractResponse h reqData0 rsp
  | timeout now =>
    simp only [dmoStep, dmoRun, getD_some]
    exact run_invariant (fun _ id h _ => filed_timeoutStep now id h) h (along_true st requestIds)
  | dmoContractsMap contracts => exact h
  | init => exact fun _ _ hfind => absurd hfind (by simp [dmoStep, dmoRun, start])

end Filed

abbrev DmoState.Reached : DmoState → Prop := Reachable start dmoStep fun st a => (dmoRun st a).isSome

variable {st : DmoState} {id : UInt8}

theorem DmoState.Reached.filed (h : st.Reached) : st.Filed :=
  h.invariant (P := Filed) (fun _ _ hfind => absurd hfind (by simp [start])) fun _ a hst _ => filed_dmoStep hst a

section Full

variable {st : DmoState}

structure IdSearch.Reclaims (s : IdSearch) (st : DmoState) (n : Nat) : Prop where
  failed : s.foundReclaimableID = true → ∃ c, st.pendingContractRspMap s.reclaimableReqID = some c ∧ c.Waiting = false
  found : ∀ k < n, ∀ c, st.pendingContractRspMap (UInt8.ofNat k) = some c → c.Waiting = false →
    s.foundReclaimableID = true

theorem visit_reclaimable (contractReqID : UInt8) (s : IdSearch) (c : DmoContractAttribute) :
    (c.Waiting = true → (s.visit contractReqID c).foundReclaimableID = s.foundReclaimableID ∧
      (s.visit contractReqID c).reclaimableReqID = s.reclaimableReqID) ∧
    (c.Waiting = false → (s.visit contractReqID c).foundReclaimableID = true ∧
      ((s.visit contractReqID c).reclaimableReqID = c.contractID.toUInt8 ∨
        s.foundReclaimableID = true ∧ (s.visit contractReqID c).reclaimableReqID = s.reclaimableReqID)) := by
  unfold IdSearch.visit IdSearch.visitReclaimable IdSearch.visitFree DmoContractAttribute.Waiting
  grind

theorem idSearch_reclaims (h : st.Filed) (rand : UInt8) (n : Nat) : (st.idSearch rand n).Reclaims st n := by
  induction n with
  | zero => exact ⟨fun hfound => (nomatch hfound), fun k hk => absurd hk (Nat.not_lt_zero k)⟩
  | succ n ih =>
    rw [idSearch_succ]
    cases hfind : st.pendingContractRspMap (UInt8.ofNat n) with
    | none =>
      refine ⟨ih.failed, fun k hk c hc => ?_⟩
      obtain hlt | rfl := Nat.lt_succ_iff_lt_or_eq.mp hk
      · exact ih.found k hlt c hc
      · rw [hfind] at hc
        cases hc
    | some c =>
      obtain ⟨hskip, htake⟩ := visit_reclaimable st.contractReqID (st.idSearch rand n) c
      by_cases hwaits : c.Waiting = true
      · obtain ⟨hfound, hid⟩ := hskip hwaits
        refine ⟨?_, fun k hk c' hc' hfailed => ?_⟩
        · rw [hfound, hid]
          exact ih.failed
        · rw [hfound]
          obtain hlt | rfl := Nat.lt_succ_iff_lt_or_eq.mp hk
          · exact ih.found k hlt c' hc' hfailed
          · rw [hfind] at hc'
            cases hc'
            rw [hwaits] at hfailed
            cases hfailed
      · rw [Bool.not_eq_true] at hwaits
        obtain ⟨hfound, hid⟩ := htake hwaits
        refine ⟨fun _ => ?_, fun _ _ _ _ _ => hfound⟩
        obtain hhere | ⟨hearlier, hkept⟩ := hid
        · rw [hhere, (h _ c hfind).contractID, UInt8.toUInt8_toUInt16]
          exact ⟨c, hfind, hwaits⟩
        · rw [hkept]
          exact ih.failed hearlier

theorem idSearch_full (h : st.Filed) (rand : UInt8) (hfull : ∀ id, (st.pendingContractRspMap id).isSome) :
    (st.idSearch rand 256).tentativeReqID = 0 ∧
      (st.idSearch rand 256).tentativeReqIDWrapped = st.contractReqID := by
  obtain ⟨htentative, hwrapped⟩ := idSearch_skips h rand 256 le_rfl
  have hbound := st.contractReqID.toNat_lt
  have htaken : ∀ n, st.taken n = true := fun n => hfull _
  obtain ⟨-, hle, -, hstop⟩ := Census.foldl_skip st.taken st.contractReqID.toNat 256
  obtain ⟨-, hle', hpassed', hstop'⟩ :=
    Census.foldl_skip (fun k => st.taken k && decide (k < st.contractReqID.toNat)) 0 256
  rw [htentative, hwrapped]
  generalize (List.range 256).foldl (Census.skip st.taken) st.contractReqID.toNat = t at *
  generalize (List.range 256).foldl
    (Census.skip fun k => st.taken k && decide (k < st.contractReqID.toNat)) 0 = w at *
  constructor
  · have hend : t = 256 := by
      by_contra hne
      have hfree := hstop (by omega)
      rw [htaken] at hfree
      cases hfree
    rw [hend]
    rfl
  · have hend : w = st.contractReqID.toNat := by
      by_contra hne
      by_cases hlow : w < st.contractReqID.toNat
      · have hfree := hstop' (by omega)
        simp [htaken, hlow] at hfree
      · have hpassed := hpassed' st.contractReqID.toNat (Nat.zero_le _) (by omega)
        simp at hpassed
    rw [hend, UInt8.ofNat_toNat]

theorem newRequestId_full_zero (h : st.Filed) (rand : UInt8) (hfull : ∀ id, (st.pendingContractRspMap id).isSome)
    (hzero : st.contractReqID = 0) :
    newRequestId (st.idSearch rand 256) st = some (0, { st with contractReqID := 1 }) := by
  unfold newRequestId
  rw [(idSearch_full h rand hfull).1, hzero, if_pos (UInt8.le_refl 0)]
  rfl

theorem newRequestId_full (h : st.Filed) (rand : UInt8) (hfull : ∀ id, (st.pendingContractRspMap id).isSome)
    (hpos : st.contractReqID ≠ 0) (hfailed : ∃ id c, st.pendingContractRspMap id = some c ∧ c.Waiting = false) :
    ∃ id c, st.pendingContractRspMap id = some c ∧ c.Waiting = false ∧
      newRequestId (st.idSearch rand 256) st = some (id, { st.setPending id (some c) with
        contractRspPending := st.contractRspPending - 1
        contractReqID := id + 1 }) := by
  obtain ⟨htentative, hwrapped⟩ := idSearch_full h rand hfull
  obtain ⟨id, c, hfind, hwaits⟩ := hfailed
  have hreclaims := idSearch_reclaims h rand 256
  have hfound := hreclaims.found id.toNat id.toNat_lt c (by rwa [UInt8.ofNat_toNat]) hwaits
  obtain ⟨c', hfind', hwaits'⟩ := hreclaims.failed hfound
  have hstatus : c'.contractStatus = contractPendingFailed := by simpa [DmoContractAttribute.Waiting] using hwaits'
  have hlow : ¬(0 : UInt8) ≥ st.contractReqID := by
    rw [ge_iff_le, UInt8.le_iff_toNat_le]
    intro hle
    exact hpos (UInt8.toNat_inj.mp (Nat.le_zero.mp hle))
  refine ⟨_, c', hfind', hwaits', ?_⟩
  unfold newRequestId
  rw [htentative, hwrapped, if_neg hlow, if_neg (UInt8.lt_irrefl _), hfind', ← hstatus]
  rfl

theorem newRequestId_next (h : st.Filed) (rand : UInt8) (hfree : st.pendingContractRspMap st.contractReqID = none) :
    newRequestId (st.idSearch rand 256) st =
      some (st.contractReqID, { st with contractReqID := st.contractReqID + 1 }) := by
  have hbound := st.contractReqID.toNat_lt
  obtain ⟨htentative, -⟩ := idSearch_skips h rand 256 le_rfl
  obtain ⟨hge, -, hpassed, -⟩ := Census.foldl_skip st.taken st.contractReqID.toNat 256
  have hstay : (List.range 256).foldl (Census.skip st.taken) st.contractReqID.toNat = st.contractReqID.toNat := by
    by_contra hmoved
    have htaken := hpassed st.contractReqID.toNat le_rfl (by omega)
    rw [taken, UInt8.ofNat_toNat, hfree] at htaken
    cases htaken
  rw [hstay, UInt8.ofNat_toNat] at htentative
  unfold newRequestId
  rw [htentative, if_pos (UInt8.le_refl _)]

end Full

def DmoState.Live (st : DmoState) (id : UInt8) : Prop := ∃ c ∈ st.pendingContractRspMap id, c.Waiting = true

/-- The search hands out an id that no waiting request holds, and leaves the waiting requests as they are. -/
def DmoState.HandsOutFresh (st : DmoState) (rand : UInt8) (args : NewContractArgs) : Prop :=
  ∃ id st', isPendingContractRequest rand args.query st = some (⟨none, some id⟩, st') ∧ ¬st.Live id ∧
    ∀ id' c, st.pendingContractRspMap id' = some c → c.Waiting = true → st'.pendingContractRspMap id' = some c

section Fresh

variable {st : DmoState} {args : NewContractArgs}

theorem handsOutFresh_of_newRequestId (h : st.Filed) {rand : UInt8} (hservice : args.srvcType ≠ anyServiceType)
    (hnew : st.findRequest args.endpoints args.srvcType = none) {id : UInt8} {st' : DmoState}
    (hid : newRequestId (st.idSearch rand 256) st = some (id, st')) : st.HandsOutFresh rand args ↔ ¬st.Live id ∧
      ∀ id' c, st.pendingContractRspMap id' = some c → c.Waiting = true → st'.pendingContractRspMap id' = some c := by
  unfold HandsOutFresh
  rw [isPendingContractRequest_query h rand hservice, hnew]
  simp only [hid, map_some, Option.some.injEq, Prod.mk.injEq, PendingAnswer.mk.injEq, true_and]
  constructor
  · rintro ⟨id', moved, ⟨rfl, rfl⟩, hfresh⟩
    exact hfresh
  · exact fun hfresh => ⟨id, st', ⟨rfl, rfl⟩, hfresh⟩

end Fresh

/-! ## Runs that fill the table -/

def sampleKeyless (n : Nat) : DmoAction :=
  .requestNewContract (sampleDmoEnv 100 true) sfcSuccess (sampleNewContract (UInt16.ofNat n))

def sampleRefusal (id : UInt8) : DmoAction :=
  .contractResponse (sampleDmoEnv 100 true) id
    { sfc := sfcFailure, requestId := 0, responseCode := 0, contractID := 0, serviceType := 0, assignedExpTime := 0
      priority := 0, assignedMaxNSDUSize := 0, reliability := 0, bandwidth := ⟨0, 0, 0⟩ }

structure DmoState.PortsBelow (st : DmoState) (n : Nat) : Prop where
  contracts : st.dmoContractsMap = ∅
  ports : ∀ id c, st.pendingContractRspMap id = some c → c.dstTLPort.toNat < n

section Sample

variable {st : DmoState} {n : Nat}

theorem findRequest_sample (h : st.PortsBelow n) (hn : n < 2 ^ 16) :
    st.findRequest (sampleNewContract (UInt16.ofNat n)).endpoints (sampleNewContract (UInt16.ofNat n)).srvcType =
      none := by
  apply List.find?_eq_none.mpr
  rintro ⟨id, c⟩ hmem hsame
  have hport := h.ports id c (mem_pendingEntries.mp hmem)
  have hends : c.endpoints = (sampleNewContract (UInt16.ofNat n)).endpoints := (of_decide_eq_true hsame).1
  have heq : c.dstTLPort = UInt16.ofNat n := congrArg ContractEndpoints.dstTLPort hends
  rw [heq, UInt16.toNat_ofNat_of_lt' hn] at hport
  exact Nat.lt_irrefl n hport

theorem dmoRun_sampleKeyless (h : st.PortsBelow n) (hfiled : st.Filed) (hn : n < 2 ^ 16) {id : UInt8} {moved : DmoState}
    (hid : newRequestId (st.idSearch 0 256) st = some (id, moved)) (hmoved : moved.PortsBelow n) :
    ∃ c : DmoContractAttribute, c.Waiting = true ∧ c.dstTLPort = UInt16.ofNat n ∧
      dmoRun st (sampleKeyless n) = some { moved.setPending id (some c) with
        contractRspPending := moved.contractRspPending + 1 } := by
  have hservice : (sampleNewContract (UInt16.ofNat n)).srvcType ≠ anyServiceType := by
    change (1 : UInt8) ≠ 255
    decide
  have hnone : st.getContract (sampleNewContract (UInt16.ofNat n)).endpoints
      (sampleNewContract (UInt16.ofNat n)).srvcType = false := by
    rw [getContract, h.contracts]
    rfl
  refine ⟨(sampleNewContract (UInt16.ofNat n)).contract (sampleDmoEnv 100 true) id contractPendingNoKey, rfl, rfl, ?_⟩
  have hsearch : isPendingContractRequest 0 (sampleNewContract (UInt16.ofNat n)).query st =
      some (⟨none, some id⟩, moved) := by
    rw [isPendingContractRequest_query hfiled 0 hservice, findRequest_sample h hn]
    simp only [hid, map_some]
  have hroom : ¬moved.dmoContractsMap.entries.length ≥ maxContractNo := by
    rw [hmoved.contracts]
    decide
  change (requestNewContract (sampleDmoEnv 100 true) sfcSuccess (sampleNewContract (UInt16.ofNat n)) st).map
    Prod.snd = _
  unfold requestNewContract
  rw [hnone, if_neg Bool.false_ne_true]
  change Option.map Prod.snd ((isPendingContractRequest 0 (sampleNewContract (UInt16.ofNat n)).query st).bind _) = _
  rw [hsearch]
  simp only [bind_some, admitRequest, ne_eq, not_true_eq_false, if_false, if_neg hroom]
  rfl

theorem portsBelow_sampleKeyless {moved : DmoState} (id : UInt8) (hmoved : moved.PortsBelow n) (hn : n < 2 ^ 16)
    {c : DmoContractAttribute} (hc : c.dstTLPort = UInt16.ofNat n) (pending : UInt8) :
    PortsBelow { moved.setPending id (some c) with contractRspPending := pending } (n + 1) := by
  refine ⟨hmoved.contracts, fun id' c' hfind => ?_⟩
  change Function.update moved.pendingContractRspMap id (some c) id' = some c' at hfind
  by_cases heq : id' = id
  · rw [heq, Function.update_self] at hfind
    cases hfind
    rw [hc, UInt16.toNat_ofNat_of_lt' hn]
    exact Nat.lt_succ_self n
  · rw [Function.update_of_ne heq] at hfind
    exact Nat.lt_succ_of_lt (hmoved.ports id' c' hfind)

structure DmoState.Filling (st : DmoState) (n : Nat) : Prop extends st.PortsBelow n where
  reached : st.Reached
  counter : st.contractReqID = UInt8.ofNat (n + 1)
  live : ∀ i < n, st.Live (UInt8.ofNat (i + 1))
  free : ∀ i, n ≤ i → i < 256 → st.pendingContractRspMap (UInt8.ofNat (i + 1)) = none

theorem filling_start : start.Filling 0 where
  contracts := rfl
  ports := fun _ _ hfind => absurd hfind (by simp [start])
  reached := .init
  counter := rfl
  live := fun i hi => absurd hi (Nat.not_lt_zero i)
  free := fun _ _ _ => rfl

theorem ofNat_succ_inj {i j : Nat} (hi : i < 256) (hj : j < 256) (h : UInt8.ofNat (i + 1) = UInt8.ofNat (j + 1)) :
    i = j := by
  have hmod := congrArg UInt8.toNat h
  rw [UInt8.toNat_ofNat', UInt8.toNat_ofNat'] at hmod
  omega

theorem DmoState.Filling.request (h : st.Filling n) (hn : n < 256) :
    (dmoStep st (sampleKeyless n)).Filling (n + 1) := by
  have hnext := newRequestId_next h.reached.filed 0 (h.counter ▸ h.free n le_rfl hn)
  have hmoved : PortsBelow { st with contractReqID := st.contractReqID + 1 } n := ⟨h.contracts, h.ports⟩
  obtain ⟨c, hwaits, hport, hrun⟩ := dmoRun_sampleKeyless h.toPortsBelow h.reached.filed (by omega) hnext hmoved
  have hports := portsBelow_sampleKeyless st.contractReqID hmoved (by omega) hport
    (st.contractRspPending + 1)
  have hreached : (dmoStep st (sampleKeyless n)).Reached := h.reached.step _ (by rw [hrun]; rfl)
  rw [dmoStep, hrun, getD_some] at hreached ⊢
  refine ⟨hports, hreached, ?_, fun i hi => ?_, fun i hi hlt => ?_⟩
  · change st.contractReqID + 1 = _
    rw [h.counter, ← ofNat_add_one]
  · change ∃ c' ∈ Function.update st.pendingContractRspMap st.contractReqID (some c) (UInt8.ofNat (i + 1)), _
    obtain hlt | rfl := Nat.lt_succ_iff_lt_or_eq.mp hi
    · rw [Function.update_of_ne]
      · exact h.live i hlt
      · rw [h.counter]
        exact fun heq => absurd (ofNat_succ_inj (by omega) hn heq) (by omega)
    · rw [h.counter, Function.update_self]
      exact ⟨c, rfl, hwaits⟩
  · change Function.update st.pendingContractRspMap st.contractReqID (some c) (UInt8.ofNat (i + 1)) = none
    rw [Function.update_of_ne]
    · exact h.free i (by omega) hlt
    · rw [h.counter]
      exact fun heq => absurd (ofNat_succ_inj hlt hn heq) (by omega)

/-- Requests to the ports below `n`, none of which is answered. -/
def afterRequests (n : Nat) : DmoState := (List.range n).foldl (fun st i => dmoStep st (sampleKeyless i)) start

theorem filling_afterRequests (hn : n ≤ 256) : (afterRequests n).Filling n := by
  induction n with
  | zero => exact filling_start
  | succ n ih =>
    rw [afterRequests, List.range_succ, List.foldl_append]
    exact (ih (by omega)).request (by omega)

theorem DmoState.Filling.all_live (h : st.Filling 256) (id : UInt8) : st.Live id := by
  have hlt := id.toNat_lt
  have hlive := h.live ((id.toNat + 255) % 256) (Nat.mod_lt _ (by decide))
  have hid : UInt8.ofNat ((id.toNat + 255) % 256 + 1) = id := by
    apply UInt8.toNat_inj.mp
    rw [UInt8.toNat_ofNat']
    omega
  rwa [hid] at hlive

end Sample

theorem dmoRun_sampleRefusal {c : DmoContractAttribute} (hfind : st.pendingContractRspMap id = some c) :
    ∃ c' : DmoContractAttribute, c'.Waiting = false ∧ c'.dstTLPort = c.dstTLPort ∧
      dmoRun st (sampleRefusal id) = some (st.setPending id (some c')) := by
  refine ⟨{ c with activationTAI := 100, contractStatus := contractPendingFailed }, rfl, rfl, ?_⟩
  change some (processContractResponse (sampleDmoEnv 100 true) id _ st) = _
  unfold processContractResponse
  rw [if_pos (by decide), hfind]
  rfl

theorem DmoState.PortsBelow.replace {n : Nat} (h : st.PortsBelow n)
    {c c' : DmoContractAttribute} (hfind : st.pendingContractRspMap id = some c) (hport : c'.dstTLPort = c.dstTLPort) :
    (st.setPending id (some c')).PortsBelow n := by
  refine ⟨h.contracts, fun other d hd => ?_⟩
  change Function.update st.pendingContractRspMap id (some c') other = some d at hd
  by_cases heq : other = id
  · rw [heq, Function.update_self] at hd
    cases hd
    rw [hport]
    exact h.ports id c hfind
  · rw [Function.update_of_ne heq] at hd
    exact h.ports other d hd

structure DmoState.Refused (st : DmoState) (id : UInt8) (n : Nat) (st' : DmoState) : Prop extends st'.PortsBelow n where
  reached : st'.Reached
  counter : st'.contractReqID = st.contractReqID
  here : ∃ c, st'.pendingContractRspMap id = some c ∧ c.Waiting = false
  other : ∀ id' ≠ id, st'.pendingContractRspMap id' = st.pendingContractRspMap id'

theorem refused_sampleRefusal {n : Nat} (hports : st.PortsBelow n) (hreached : st.Reached)
    (hlive : st.Live id) : st.Refused id n (dmoStep st (sampleRefusal id)) := by
  obtain ⟨c, hfind, -⟩ := hlive
  obtain ⟨failed, hfailed, hport, hrefused⟩ := dmoRun_sampleRefusal hfind
  have hstep := hreached.step (sampleRefusal id) (by rw [hrefused]; rfl)
  rw [dmoStep, hrefused, getD_some] at hstep ⊢
  refine ⟨hports.replace hfind hport, hstep, rfl, ⟨failed, ?_, hfailed⟩, fun id' hne => ?_⟩
  · rw [pendingContractRspMap_setPending, Function.update_self]
  · rw [pendingContractRspMap_setPending, Function.update_of_ne hne]

theorem DmoState.Refused.not_live {st st' : DmoState} {n : Nat} (h : st.Refused id n st') : ¬st'.Live id := by
  obtain ⟨c, hc, hfailed⟩ := h.here
  rintro ⟨d, hd, hwaits⟩
  rw [mem_def, hc] at hd
  cases hd
  rw [hfailed] at hwaits
  cases hwaits

theorem DmoState.Refused.full {st st' : DmoState} {n : Nat} (h : st.Refused id n st')
    (hlive : ∀ id, st.Live id) (id' : UInt8) : (st'.pendingContractRspMap id').isSome := by
  by_cases heq : id' = id
  · obtain ⟨c, hc, -⟩ := h.here
    rw [heq, hc]
    rfl
  · obtain ⟨c, hc, -⟩ := hlive id'
    rw [h.other id' heq, hc]
    rfl

/-- All ids are taken, and the request with the id 255 has failed. -/
def crowded : DmoState := dmoStep (afterRequests 256) (sampleRefusal 255)

theorem refused_crowded : (afterRequests 256).Refused 255 256 crowded :=
  have hst := filling_afterRequests (n := 256) le_rfl
  refused_sampleRefusal hst.toPortsBelow hst.reached (hst.all_live 255)

theorem contractReqID_crowded : crowded.contractReqID = 1 := by
  rw [refused_crowded.counter, (filling_afterRequests (n := 256) le_rfl).counter]
  rfl

/-! ## Fresh ids -/

/-- A new request gets an id that no waiting request holds, except when the counter is zero, all ids are taken and the
request with the id zero waits. -/
theorem handsOutFresh_iff (h : st.Reached) (rand : UInt8) (hservice : args.srvcType ≠ anyServiceType)
    (hnew : st.findRequest args.endpoints args.srvcType = none) (hfree : ∃ id, ¬st.Live id) :
    st.HandsOutFresh rand args ↔
      ¬(st.contractReqID = 0 ∧ (∀ id, (st.pendingContractRspMap id).isSome) ∧ st.Live 0) := by
  have hfiled := h.filed
  by_cases hfull : ∀ id, (st.pendingContractRspMap id).isSome
  · by_cases hzero : st.contractReqID = 0
    · rw [handsOutFresh_of_newRequestId hfiled hservice hnew (newRequestId_full_zero hfiled rand hfull hzero)]
      constructor
      · exact fun hfresh hslip => hfresh.1 hslip.2.2
      · exact fun hslip => ⟨fun hlive => hslip ⟨hzero, hfull, hlive⟩, fun _ _ hfind _ => hfind⟩
    · obtain ⟨id, hid⟩ := hfree
      obtain ⟨c, hfind⟩ := isSome_iff_exists.mp (hfull id)
      have hwaits : c.Waiting = false := by
        by_contra hwaits
        exact hid ⟨c, hfind, Bool.not_eq_false _ ▸ hwaits⟩
      obtain ⟨id', c', hfind', hwaits', hreclaim⟩ := newRequestId_full hfiled rand hfull hzero ⟨id, c, hfind, hwaits⟩
      rw [handsOutFresh_of_newRequestId hfiled hservice hnew hreclaim]
      refine iff_of_true ⟨?_, fun other d hother hdwaits => ?_⟩ fun hslip => hzero hslip.1
      · rintro ⟨d, hd, hdwaits⟩
        rw [mem_def, hfind'] at hd
        cases hd
        rw [hwaits'] at hdwaits
        cases hdwaits
      · have hne : other ≠ id' := by
          rintro rfl
          rw [hfind'] at hother
          cases hother
          rw [hwaits'] at hdwaits
          cases hdwaits
        change Function.update st.pendingContractRspMap id' (some c') other = some d
        rw [Function.update_of_ne hne, hother]
  · obtain ⟨id, hid⟩ := not_forall.mp hfull
    obtain ⟨id', hnext, hid'⟩ := newRequestId_free hfiled rand ⟨id, by simpa using hid⟩
    rw [handsOutFresh_of_newRequestId hfiled hservice hnew hnext]
    refine iff_of_true ⟨?_, fun _ _ hfind _ => hfind⟩ fun hslip => hfull hslip.2.1
    rintro ⟨d, hd, -⟩
    rw [mem_def, hid'] at hd
    cases hd

theorem handsOutFresh_iff_crowded : crowded.HandsOutFresh 0 (sampleNewContract 256) ∧
    (∀ id ≠ 255, crowded.Live id) ∧ ¬crowded.Live 255 := by
  have hlive : ∀ id ≠ 255, crowded.Live id := fun id hne => by
    unfold Live
    rw [refused_crowded.other id hne]
    exact (filling_afterRequests le_rfl).all_live id
  have hnew := findRequest_sample refused_crowded.toPortsBelow (by decide)
  refine ⟨?_, hlive, refused_crowded.not_live⟩
  refine (handsOutFresh_iff refused_crowded.reached 0 (by decide) hnew ⟨255, refused_crowded.not_live⟩).mpr
    fun hslip => ?_
  exact absurd (contractReqID_crowded.symm.trans hslip.1) (by decide)

structure DmoState.Wrapped (st : DmoState) : Prop extends st.PortsBelow 257 where
  reached : st.Reached
  counter : st.contractReqID = 0
  live : ∀ id, st.Live id

theorem exists_wrapped_of {st₀ st₁ : DmoState} (hlive : ∀ id, st₀.Live id) (h₁ : st₀.Refused 255 256 st₁)
    (hcounter : st₁.contractReqID = 1) : ∃ st : DmoState, st.Wrapped := by
  -- only 255 can be reclaimed
  obtain ⟨id, d, hd, hdwaits, hnew⟩ := newRequestId_full h₁.reached.filed 0 (h₁.full hlive)
    (by rw [hcounter]; decide) ⟨255, h₁.here⟩
  obtain rfl : id = 255 := by
    by_contra hne
    obtain ⟨d', hd', hwaits'⟩ := hlive id
    rw [h₁.other id hne, hd'] at hd
    cases hd
    rw [hwaits'] at hdwaits
    cases hdwaits
  have hmoved : PortsBelow { st₁.setPending 255 (some d) with
      contractRspPending := st₁.contractRspPending - 1
      contractReqID := 255 + 1 } 256 :=
    ⟨h₁.contracts, (h₁.toPortsBelow.replace hd rfl).ports⟩
  obtain ⟨c', hwaits, hport', hrun⟩ := dmoRun_sampleKeyless h₁.toPortsBelow h₁.reached.filed (by decide) hnew hmoved
  have hreached := h₁.reached.step (sampleKeyless 256) (by rw [hrun]; rfl)
  rw [dmoStep, hrun, getD_some] at hreached
  refine ⟨_, portsBelow_sampleKeyless 255 hmoved (by decide) hport' _, hreached, rfl, fun id => ?_⟩
  change ∃ e ∈ Function.update (Function.update st₁.pendingContractRspMap 255 (some d)) 255 (some c') id, _
  by_cases heq : id = 255
  · rw [heq, Function.update_self]
    exact ⟨c', rfl, hwaits⟩
  · rw [Function.update_of_ne heq, Function.update_of_ne heq, h₁.other id heq]
    exact hlive id

/-- The next refusal leaves an id that no waiting request holds, and still a new request gets the id zero, under which one waits. -/
theorem handsOut_live_id : ∃ st : DmoState, st.Reached ∧ ¬st.Live 254 ∧ st.Live 0 ∧
      st.findRequest (sampleNewContract 257).endpoints (sampleNewContract 257).srvcType = none ∧
      (isPendingContractRequest 0 (sampleNewContract 257).query st).map Prod.fst = some ⟨none, some 0⟩ ∧
      ¬st.HandsOutFresh 0 (sampleNewContract 257) := by
  obtain ⟨st, hst⟩ :=
    exists_wrapped_of (filling_afterRequests le_rfl).all_live refused_crowded contractReqID_crowded
  have h₁ := refused_sampleRefusal hst.toPortsBelow hst.reached (hst.live 254)
  generalize dmoStep st (sampleRefusal 254) = st₁ at h₁
  have hlive : st₁.Live 0 := by
    unfold Live
    rw [h₁.other 0 (by decide)]
    exact hst.live 0
  have hnew := newRequestId_full_zero h₁.reached.filed 0 (h₁.full hst.live) (h₁.counter.trans hst.counter)
  have hnone : st₁.findRequest (sampleNewContract 257).endpoints (sampleNewContract 257).srvcType = none :=
    findRequest_sample h₁.toPortsBelow (by decide)
  have hservice : (sampleNewContract 257).srvcType ≠ anyServiceType := by decide
  refine ⟨st₁, h₁.reached, h₁.not_live, hlive, hnone, ?_, fun hfresh => ?_⟩
  · rw [isPendingContractRequest_query h₁.reached.filed 0 hservice, hnone]
    simp only [hnew, map_some]
  · exact ((handsOutFresh_of_newRequestId h₁.reached.filed hservice hnone hnew).mp hfresh).1 hlive

end Isa100Gateway
