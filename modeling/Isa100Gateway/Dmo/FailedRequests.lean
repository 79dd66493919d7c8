import Isa100Gateway.Dmo.RequestRuns

/-!
# Contract requests that fail

A contract request that fails should leave no pending request behind, or a retry is refused as a duplicate. `DMO_RequestNewContract` files the request before it is sent, and does not take it back when the sending fails.
-/

namespace Isa100Gateway

structure LeavesNoTrace (args : NewContractArgs) (st st' : DmoState) : Prop where
  entries : ∀ id c, st'.pendingContractRspMap id = some c → c.Waiting = true → c.endpoints = args.endpoints →
    st.pendingContractRspMap id = some c
  retry : ∀ env aslSfc sfc st'', requestNewContract env aslSfc args st' = some (sfc, st'') → sfc ≠ sfcDuplicate

/-- The request gets past all checks: no contract and no waiting request is in its way, and the device has joined and has room. -/
structure DmoState.Admits (st : DmoState) (env : DmoEnv) (args : NewContractArgs) : Prop where
  definite : args.srvcType ≠ anyServiceType
  noContract : st.getContract args.endpoints args.srvcType = false
  noRequest : ∀ e ∈ st.findRequest args.endpoints args.srvcType, e.2.Waiting = false
  joined : env.joined = true
  room : st.dmoContractsMap.entries.length < maxContractNo

section Search

variable {st st' : DmoState} {rand : UInt8} {q : PendingQuery} {answer : PendingAnswer} {args : NewContractArgs}

theorem isPendingContractRequest_contract (hrun : isPendingContractRequest rand q st = some (answer, st')) :
    answer.contract = (st.pendingEntries.findSome? q.answer).bind PendingAnswer.contract := by
  unfold isPendingContractRequest at hrun
  rw [loop_eq] at hrun
  cases hloop : st.pendingEntries.findSome? q.answer with
  | some found =>
    rw [hloop] at hrun
    cases hrun
    rfl
  | none =>
    rw [hloop] at hrun
    dsimp only at hrun
    split at hrun
    · cases hrun
      rfl
    · obtain ⟨r, -, heq⟩ := Option.map_eq_some_iff.mp hrun
      cases heq
      rfl

/-- Handing out an id leaves the end points and services of all requests as they are, and lets none wait that did not. -/
theorem newRequestId_entries {s : IdSearch} {id : UInt8} (hnew : newRequestId s st = some (id, st')) :
    st'.dmoContractsMap = st.dmoContractsMap ∧ ∀ id c', st'.pendingContractRspMap id = some c' →
      ∃ c, st.pendingContractRspMap id = some c ∧ c'.endpoints = c.endpoints ∧ c'.serviceType = c.serviceType ∧
        (c'.Waiting = true → c' = c) := by
  unfold newRequestId at hnew
  by_cases hfree : s.tentativeReqID ≥ st.contractReqID
  · rw [if_pos hfree] at hnew
    cases hnew
    exact ⟨rfl, fun _ c hc => ⟨c, hc, rfl, rfl, fun _ => rfl⟩⟩
  rw [if_neg hfree] at hnew
  by_cases hwrapped : s.tentativeReqIDWrapped < st.contractReqID
  · rw [if_pos hwrapped] at hnew
    cases hnew
    exact ⟨rfl, fun _ c hc => ⟨c, hc, rfl, rfl, fun _ => rfl⟩⟩
  rw [if_neg hwrapped] at hnew
  cases hfind : st.pendingContractRspMap s.reclaimableReqID with
  | none =>
    rw [hfind] at hnew
    cases hnew
  | some c =>
    rw [hfind] at hnew
    cases hnew
    refine ⟨rfl, fun id c' hc' => ?_⟩
    change Function.update st.pendingContractRspMap s.reclaimableReqID _ id = some c' at hc'
    by_cases heq : id = s.reclaimableReqID
    · rw [heq, Function.update_self] at hc'
      cases hc'
      exact ⟨c, heq ▸ hfind, rfl, rfl, fun hwaits => nomatch hwaits⟩
    · rw [Function.update_of_ne heq] at hc'
      exact ⟨c', hc', rfl, rfl, fun _ => rfl⟩

theorem findRequest_none_iff {endpoints : ContractEndpoints} {srvcType : UInt8} :
    st.findRequest endpoints srvcType = none ↔
      ∀ id c, st.pendingContractRspMap id = some c → ¬(c.endpoints = endpoints ∧ c.serviceType = srvcType) := by
  rw [DmoState.findRequest, List.find?_eq_none]
  constructor
  · intro hnone id c hfind hsame
    exact hnone (id, c) (mem_pendingEntries.mpr hfind) (decide_eq_true hsame)
  · rintro hnone ⟨id, c⟩ hmem hsame
    exact hnone id c (mem_pendingEntries.mp hmem) (of_decide_eq_true hsame)

structure SearchLeaves (args : NewContractArgs) (st st' : DmoState) : Prop where
  contracts : st'.dmoContractsMap = st.dmoContractsMap
  waiting : ∀ id c, st'.pendingContractRspMap id = some c → c.Waiting = true → st.pendingContractRspMap id = some c
  again : (st'.pendingEntries.findSome? args.query.answer).bind PendingAnswer.contract = none

theorem findSome?_of_findRequest_none (h : st.Filed) (hservice : args.srvcType ≠ anyServiceType)
    (hnone : st.findRequest args.endpoints args.srvcType = none) :
    st.pendingEntries.findSome? args.query.answer = none := by
  rw [Census.findSome?_eq_find? fun e he => answer_query h hservice he]
  exact congrArg _ hnone

theorem isPendingContractRequest_leaves (h : st.Filed)
    (hrun : isPendingContractRequest rand args.query st = some (answer, st')) (hnone : answer.contract = none) :
    SearchLeaves args st st' := by
  have hcontract := isPendingContractRequest_contract hrun
  rw [hnone] at hcontract
  have hsame : SearchLeaves args st st := ⟨rfl, fun _ _ hc _ => hc, hcontract.symm⟩
  by_cases hany : args.srvcType = anyServiceType
  · obtain ⟨-, rfl⟩ := isPendingContractRequest_any h rand hany hrun
    exact hsame
  · rw [isPendingContractRequest_query h rand hany] at hrun
    cases hfind : st.findRequest args.endpoints args.srvcType with
    | some e =>
      rw [hfind] at hrun
      cases hrun
      exact hsame
    | none =>
      rw [hfind] at hrun
      obtain ⟨⟨id, moved⟩, hnew, heq⟩ := Option.map_eq_some_iff.mp hrun
      cases heq
      obtain ⟨hcontracts, hentries⟩ := newRequestId_entries hnew
      have hnone' : moved.findRequest args.endpoints args.srvcType = none := by
        rw [findRequest_none_iff] at hfind ⊢
        intro id' c' hc' hends
        obtain ⟨c, hc, hpoints, hservice, -⟩ := hentries id' c' hc'
        exact hfind id' c hc ⟨hpoints ▸ hends.1, hservice ▸ hends.2⟩
      refine ⟨hcontracts, fun id' c' hc' hwaits => ?_, ?_⟩
      · obtain ⟨c, hc, -, -, hkept⟩ := hentries id' c' hc'
        rw [hkept hwaits, hc]
      · rw [findSome?_of_findRequest_none (filed_newRequestId h hnew) hany hnone']
        rfl

theorem exists_newRequestId (h : st.Filed) (rand : UInt8) :
    ∃ id st', newRequestId (st.idSearch rand 256) st = some (id, st') := by
  by_cases hfull : ∀ id, (st.pendingContractRspMap id).isSome
  · obtain ⟨c, hc⟩ := Option.isSome_iff_exists.mp (hfull (st.idSearch rand 256).reclaimableReqID)
    unfold newRequestId
    rw [hc]
    split_ifs
    · exact ⟨_, _, rfl⟩
    · exact ⟨_, _, rfl⟩
    · exact ⟨_, _, rfl⟩
  · obtain ⟨id, hid⟩ := not_forall.mp hfull
    obtain ⟨id', hnext, -⟩ := newRequestId_free h rand ⟨id, by simpa using hid⟩
    exact ⟨id', _, hnext⟩

end Search

/-! ## The request -/

section Request

variable {st st' : DmoState} {env : DmoEnv} {aslSfc sfc : UInt8} {args : NewContractArgs} {answer : PendingAnswer}

theorem sfc_ne_duplicate : sfcSuccess ≠ sfcDuplicate ∧ sfcInsufficientDeviceResources ≠ sfcDuplicate ∧
    sfcIncompatibleMode ≠ sfcDuplicate := by
  decide

theorem sendContractRequest_fst (env : DmoEnv) (aslSfc id : UInt8) (c : DmoContractAttribute) (st : DmoState) :
    (sendContractRequest env aslSfc id c st).1 ≠ sfcDuplicate := by
  unfold sendContractRequest
  split_ifs
  · exact sfc_ne_duplicate.2.2
  · exact sfc_ne_duplicate.1
  · exact sfc_ne_duplicate.2.1

theorem addPendingRequest_fst (env : DmoEnv) (aslSfc : UInt8) (args : NewContractArgs) (id : UInt8) (st : DmoState) :
    (addPendingRequest env aslSfc args id st).1 ≠ sfcDuplicate := by
  unfold addPendingRequest
  split_ifs
  · exact sfc_ne_duplicate.1
  · exact sfc_ne_duplicate.2.1
  · exact sendContractRequest_fst _ _ _ _ _

theorem admitRequest_fst (hnone : answer.contract = none)
    (hrun : admitRequest env aslSfc args answer st = some (sfc, st')) : sfc ≠ sfcDuplicate := by
  unfold admitRequest at hrun
  rw [if_neg (not_not_intro hnone)] at hrun
  split_ifs at hrun
  · cases hrun
    exact sfc_ne_duplicate.2.1
  · cases hrun
    exact sfc_ne_duplicate.2.1
  · obtain ⟨id, -, heq⟩ := Option.map_eq_some_iff.mp hrun
    have hsfc : (addPendingRequest env aslSfc args id st).1 = sfc := congrArg Prod.fst heq
    exact hsfc ▸ addPendingRequest_fst env aslSfc args id st

theorem requestNewContract_fst (hcontract : st.getContract args.endpoints args.srvcType = false)
    (hsearch : (st.pendingEntries.findSome? args.query.answer).bind PendingAnswer.contract = none)
    (hrun : requestNewContract env aslSfc args st = some (sfc, st')) : sfc ≠ sfcDuplicate := by
  unfold requestNewContract at hrun
  rw [hcontract, if_neg Bool.false_ne_true] at hrun
  obtain ⟨⟨answer, found⟩, hfound, hadmit⟩ := Option.bind_eq_some_iff.mp hrun
  exact admitRequest_fst ((isPendingContractRequest_contract hfound).trans hsearch) hadmit

theorem SearchLeaves.leavesNoTrace (h : SearchLeaves args st st')
    (hcontract : st.getContract args.endpoints args.srvcType = false) : LeavesNoTrace args st st' where
  entries := fun id c hc hwaits _ => h.waiting id c hc hwaits
  retry := by
    have hcontract' : st'.getContract args.endpoints args.srvcType = false := by
      rw [DmoState.getContract, h.contracts]
      exact hcontract
    exact fun env aslSfc sfc st'' hrun => requestNewContract_fst hcontract' h.again hrun

theorem search_of_admits (h : st.Filed) (hadmits : st.Admits env args) (rand : UInt8) :
    ∃ id found, isPendingContractRequest rand args.query st = some (⟨none, some id⟩, found) ∧
      ∀ c, c.endpoints = args.endpoints → c.serviceType = args.srvcType → c.Waiting = true →
        st.pendingContractRspMap id ≠ some c := by
  rw [isPendingContractRequest_query h rand hadmits.definite]
  cases hfind : st.findRequest args.endpoints args.srvcType with
  | some e =>
    have hfailed := hadmits.noRequest e hfind
    refine ⟨e.1, st, by simp [hfailed], fun c _ _ hwaits hc => ?_⟩
    have hmem := mem_pendingEntries.mp (List.mem_of_find?_eq_some hfind)
    rw [hmem] at hc
    cases hc
    rw [hwaits] at hfailed
    cases hfailed
  | none =>
    obtain ⟨id, found, hnew⟩ := exists_newRequestId h rand
    refine ⟨id, found, by simp [hnew], fun c hends hservice _ hc => ?_⟩
    exact findRequest_none_iff.mp hfind id c hc ⟨hends, hservice⟩

theorem admits_of_search {rand id : UInt8} {found : DmoState} (h : st.Filed)
    (hcontract : st.getContract args.endpoints args.srvcType = false)
    (hfound : isPendingContractRequest rand args.query st = some (answer, found)) (hnone : answer.contract = none)
    (hid : answer.requestId = some id) (hjoined : env.joined = true)
    (hroom : st.dmoContractsMap.entries.length < maxContractNo) : st.Admits env args := by
  have hdefinite : args.srvcType ≠ anyServiceType := by
    intro hany
    rw [(isPendingContractRequest_any h rand hany hfound).1] at hid
    cases hid
  refine ⟨hdefinite, hcontract, fun e he => ?_, hjoined, hroom⟩
  rw [Option.mem_def] at he
  rw [isPendingContractRequest_query h rand hdefinite, he] at hfound
  cases hfound
  by_contra hwaits
  rw [Bool.not_eq_false] at hwaits
  simp [hwaits] at hnone

theorem requestNewContract_of_admits (hadmits : st.Admits env args) {id : UInt8} {found : DmoState}
    (hfound : isPendingContractRequest env.rand args.query st = some (⟨none, some id⟩, found))
    (hcontracts : found.dmoContractsMap = st.dmoContractsMap) :
    requestNewContract env aslSfc args st = some (addPendingRequest env aslSfc args id found) := by
  have hroom : ¬found.dmoContractsMap.entries.length ≥ maxContractNo := by
    rw [hcontracts]
    exact not_le.mpr hadmits.room
  have hjoined : ¬env.joined = false := by simp [hadmits.joined]
  unfold requestNewContract
  rw [hadmits.noContract, if_neg Bool.false_ne_true, hfound]
  simp only [Option.bind_some, admitRequest, ne_eq, not_true_eq_false, if_false, if_neg hjoined, if_neg hroom,
    Option.map_some]

theorem sendContractRequest_unsent (hsend : ¬st.CanSend env aslSfc) (id : UInt8) (c : DmoContractAttribute) :
    (sendContractRequest env aslSfc id c st).1 ≠ sfcSuccess ∧ (sendContractRequest env aslSfc id c st).2 = st := by
  unfold sendContractRequest
  by_cases hcontract : st.dmoContractsMap.lookup env.sysMngContractID = none
  · rw [if_pos hcontract]
    exact ⟨by change sfcIncompatibleMode ≠ sfcSuccess; decide, rfl⟩
  · have hsfc : aslSfc ≠ sfcSuccess := fun hsfc => hsend ⟨hcontract, hsfc⟩
    rw [if_neg hcontract, if_neg hsfc]
    exact ⟨by change sfcInsufficientDeviceResources ≠ sfcSuccess; decide, rfl⟩

theorem addPendingRequest_unsent (args : NewContractArgs) (hkey : env.lacksKey = false) (id : UInt8)
    (hsend : ¬st.CanSend env aslSfc) :
    (addPendingRequest env aslSfc args id st).1 ≠ sfcSuccess ∧ (addPendingRequest env aslSfc args id st).2 =
        st.setPending id (some (args.contract env id contractPending)) := by
  have hsend' : ¬(st.setPending id (some (args.contract env id contractPending))).CanSend env aslSfc := hsend
  unfold addPendingRequest
  rw [hkey, if_neg Bool.false_ne_true]
  exact sendContractRequest_unsent hsend' id _

theorem addPendingRequest_failed (hsend : env.lacksKey = true ∨ st.CanSend env aslSfc) {id : UInt8}
    (hfailed : (addPendingRequest env aslSfc args id st).1 ≠ sfcSuccess) :
    (addPendingRequest env aslSfc args id st).2 = st := by
  unfold addPendingRequest at hfailed ⊢
  by_cases hkey : env.lacksKey = true
  · rw [if_pos hkey] at hfailed ⊢
    split
    · next hasked =>
      rw [if_pos hasked] at hfailed
      exact absurd rfl hfailed
    · rfl
  · rw [if_neg hkey] at hfailed
    have hcan := hsend.resolve_left hkey
    have hcan' : (st.setPending id (some (args.contract env id contractPending))).CanSend env aslSfc := hcan
    rw [sendContractRequest_sent hcan'] at hfailed
    exact absurd rfl hfailed

/-- Exactly the requests that get past all checks and then cannot be sent leave a trace. -/
theorem failedRequest_leavesNoTrace_iff (h : st.Reached) (env : DmoEnv) (aslSfc : UInt8) (args : NewContractArgs) :
    (∀ sfc st', requestNewContract env aslSfc args st = some (sfc, st') → sfc ≠ sfcSuccess → sfc ≠ sfcDuplicate →
        LeavesNoTrace args st st') ↔
      ¬(st.Admits env args ∧ env.lacksKey = false ∧ ¬st.CanSend env aslSfc) := by
  have hfiled := h.filed
  constructor
  · rintro hclean ⟨hadmits, hkey, hsend⟩
    obtain ⟨id, found, hfound, hold⟩ := search_of_admits hfiled hadmits env.rand
    have hleaves := isPendingContractRequest_leaves hfiled hfound rfl
    have hsend' : ¬found.CanSend env aslSfc := by
      unfold DmoState.CanSend
      rwa [hleaves.contracts]
    obtain ⟨hfailed, hstored⟩ := addPendingRequest_unsent args hkey id hsend'
    have htrace := hclean _ _ (requestNewContract_of_admits hadmits hfound hleaves.contracts) hfailed
      (addPendingRequest_fst _ _ _ _ _)
    have hentry : (addPendingRequest env aslSfc args id found).2.pendingContractRspMap id =
        some (args.contract env id contractPending) := by
      rw [hstored, pendingContractRspMap_setPending, Function.update_self]
    exact hold _ rfl rfl rfl (htrace.entries id _ hentry rfl rfl)
  · intro hclean sfc st' hrun hfailed hother
    unfold requestNewContract at hrun
    by_cases hexists : st.getContract args.endpoints args.srvcType = true
    · rw [if_pos hexists] at hrun
      cases hrun
      exact absurd rfl hother
    have hcontract := Bool.eq_false_iff.mpr hexists
    rw [if_neg hexists] at hrun
    obtain ⟨⟨answer, found⟩, hfound, hadmit⟩ := Option.bind_eq_some_iff.mp hrun
    unfold admitRequest at hadmit
    by_cases hpending : answer.contract ≠ none
    · rw [if_pos hpending] at hadmit
      cases hadmit
      exact absurd rfl hother
    have hleaves := isPendingContractRequest_leaves hfiled hfound (not_not.mp hpending)
    rw [if_neg hpending] at hadmit
    split_ifs at hadmit with hjoined hfull
    · cases hadmit
      exact hleaves.leavesNoTrace hcontract
    · cases hadmit
      exact hleaves.leavesNoTrace hcontract
    · obtain ⟨id, hid, heq⟩ := Option.map_eq_some_iff.mp hadmit
      have hstored : (addPendingRequest env aslSfc args id found).2 = st' := congrArg Prod.snd heq
      have hsfc : (addPendingRequest env aslSfc args id found).1 = sfc := congrArg Prod.fst heq
      have hadmits : st.Admits env args :=
        admits_of_search hfiled hcontract hfound (not_not.mp hpending) hid (by simpa using hjoined)
          (hleaves.contracts ▸ not_le.mp hfull)
      have hsend : env.lacksKey = true ∨ found.CanSend env aslSfc := by
        by_contra hunsent
        rw [not_or, Bool.not_eq_true] at hunsent
        refine hclean ⟨hadmits, hunsent.1, fun hsend => hunsent.2 ?_⟩
        unfold DmoState.CanSend
        rwa [hleaves.contracts]
      rw [← hstored, addPendingRequest_failed hsend (hsfc ▸ hfailed)]
      exact hleaves.leavesNoTrace hcontract

end Request

def sampleManagedDmo : DmoState :=
  dmoStep DmoState.start (.dmoContractsMap (AList.insert 1
    ((sampleNewContract 0xF0B0).contract (sampleDmoEnv 0 false) 1 contractRspOk) ∅))

theorem reached_sampleManagedDmo : sampleManagedDmo.Reached := Machine.Reachable.init.step _ rfl

theorem failedRequest_leavesNoTrace_iff_sample :
    (∀ sfc st', requestNewContract (sampleDmoEnv 100 false) sfcSuccess (sampleNewContract 0xF0B1) sampleManagedDmo =
        some (sfc, st') → sfc ≠ sfcSuccess → sfc ≠ sfcDuplicate →
        LeavesNoTrace (sampleNewContract 0xF0B1) sampleManagedDmo st') ↔
      ¬(sampleManagedDmo.Admits (sampleDmoEnv 100 false) (sampleNewContract 0xF0B1) ∧
        (sampleDmoEnv 100 false).lacksKey = false ∧ ¬sampleManagedDmo.CanSend (sampleDmoEnv 100 false) sfcSuccess) :=
  failedRequest_leavesNoTrace_iff reached_sampleManagedDmo _ _ _

def sampleUnsent : DmoState :=
  dmoStep sampleManagedDmo (.requestNewContract (sampleDmoEnv 100 false) sfcInsufficientDeviceResources
    (sampleNewContract 0xF0B1))

/-- The request fails for lack of resources, and the retry is refused as a duplicate. -/
theorem failedRequest_leaves_entry :
    requestNewContract (sampleDmoEnv 100 false) sfcInsufficientDeviceResources (sampleNewContract 0xF0B1)
        sampleManagedDmo = some (sfcInsufficientDeviceResources, sampleUnsent) ∧
      sampleManagedDmo.pendingContractRspMap 1 = none ∧
      (sampleUnsent.pendingContractRspMap 1).map DmoContractAttribute.Waiting = some true ∧
      (requestNewContract (sampleDmoEnv 101 false) sfcSuccess (sampleNewContract 0xF0B1) sampleUnsent).map Prod.fst =
        some sfcDuplicate ∧
      ¬LeavesNoTrace (sampleNewContract 0xF0B1) sampleManagedDmo sampleUnsent := by
  have hretry : (requestNewContract (sampleDmoEnv 101 false) sfcSuccess (sampleNewContract 0xF0B1) sampleUnsent).map
      Prod.fst = some sfcDuplicate := by
    decide +kernel
  have hsfc : (requestNewContract (sampleDmoEnv 100 false) sfcInsufficientDeviceResources (sampleNewContract 0xF0B1)
      sampleManagedDmo).map Prod.fst = some sfcInsufficientDeviceResources := by
    decide +kernel
  obtain ⟨⟨sfc, st'⟩, hrun, rfl⟩ := Option.map_eq_some_iff.mp hsfc
  refine ⟨?_, rfl, by decide +kernel, hretry, fun hclean => ?_⟩
  · rw [sampleUnsent, dmoStep, dmoRun, hrun]
    rfl
  · obtain ⟨⟨sfc', st''⟩, hagain, hduplicate⟩ := Option.map_eq_some_iff.mp hretry
    exact hclean.retry _ _ sfc' st'' hagain hduplicate

end Isa100Gateway
