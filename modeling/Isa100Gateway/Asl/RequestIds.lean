import Isa100Gateway.Asl.Correlation

/-!
# Request ids in use

A new request gets the id that the counter of its contract shows, whatever the queue holds, and a response is matched with every entry that is not cleared, sent or not. In a run whose new ids are not in use at the peer, a response to a queued request that was sent finds this request and no other.
-/

namespace Isa100Gateway

open Machine List TxMsg

/-- A READ, WRITE or EXECUTE request with this id whose contract is in the table with this peer. -/
def TxMsg.RequestTo (contracts : Contracts) (m : TxMsg) (peer : Ipv6Addr) (reqID : UInt8) : Prop :=
  m.issueNo ≠ none ∧ m.reqID = reqID ∧ ∃ c ∈ contracts.lock m, c.destAddress = peer

instance (contracts : Contracts) (m : TxMsg) (peer : Ipv6Addr) (reqID : UInt8) :
    Decidable (m.RequestTo contracts peer reqID) :=
  inferInstanceAs (Decidable (_ ∧ _))

/-- No two queued requests to one peer have the same id. -/
def DistinctReqIDs (contracts : Contracts) (queue : List TxMsg) : Prop :=
  queue.Pairwise fun a b => ∀ peer reqID, a.RequestTo contracts peer reqID → ¬ b.RequestTo contracts peer reqID

/-- The steps of the statement. The counter of the contract shows an id that no queued request to its peer has, and a contract with queued requests keeps its peer when it is written again. -/
def AslState.Issues (st : AslState) : AslAction → Prop
  | .addGenericObject _ req => req.obj.takesReqID = true → ∀ c ∈ st.shared.contracts.lookup req.contractID,
      ∀ m ∈ st.queue, ¬ m.RequestTo st.shared.contracts c.destAddress c.reqID
  | .setContract _ _ req => req.idx = req.data → ∀ m ∈ st.queue, m.issueNo ≠ none →
      m.contractId = req.idx.contractId → ∀ c ∈ st.shared.contracts.lock m, c.destAddress = req.peerIPv6
  | _ => True

instance (st : AslState) : ∀ a : AslAction, Decidable (st.Issues a)
  | .addGenericObject .. => inferInstanceAs (Decidable (_ → ∀ _ ∈ _, ∀ _ ∈ _, ¬ _))
  | .setContract .. => inferInstanceAs (Decidable (_ → ∀ _ ∈ _, _ → _ → ∀ _ ∈ _, _))
  | .aslTask .. | .dataConfirm _ | .response .. | .oneSecond | .addDmoContract .. | .deleteContract _ => isTrue trivial

/-- A response with the ids of a queued entry answers a request that is in the queue and was sent, and has not the ids of an entry that carries no request id (a tunnelled request, a publication, an alert). -/
structure AslState.Solicits (st : AslState) (key : ResponseKey) : Prop where
  asked : (∃ m ∈ st.queue, m.IsOriginalRequest st.shared.contracts key) →
    ∃ m ∈ st.queue, m.IsOriginalRequest st.shared.contracts key ∧ m.WasSent ∧ m.status ≠ .readyToSend
  carriesID : ∀ m ∈ st.queue, m.IsOriginalRequest st.shared.contracts key → m.issueNo ≠ none

/-- The entry is the one queued request to the responder with the id of the response, and it was transmitted. -/
structure AslState.Asked (st : AslState) (key : ResponseKey) (m : TxMsg) : Prop where
  queued : m ∈ st.queue
  answers : m.answers key
  request : m.RequestTo st.shared.contracts key.idtf.addr key.reqID
  unique : ∀ x ∈ st.queue, x.RequestTo st.shared.contracts key.idtf.addr key.reqID → x = m
  sent : m.WasSent ∧ m.status ≠ .readyToSend
  transmitted : Transmitted st.shared.log m

variable {contracts contracts' : Contracts} {queue queue' : List TxMsg} {m m' : TxMsg} {st : AslState} {peer : Ipv6Addr}
  {reqID : UInt8} {key : ResponseKey}

theorem TxMsg.RequestTo.of_core (h : m.RequestTo contracts peer reqID) (hcore : m'.core = m.core) :
    m'.RequestTo contracts peer reqID := by
  obtain ⟨hweak, hissue, hreq, hid⟩ := sameIssue_of_core hcore
  unfold RequestTo Contracts.lock at h ⊢
  rw [hweak, hissue, hreq, hid]
  exact h

theorem DistinctReqIDs.sublist (h : DistinctReqIDs contracts queue)
    (hsub : (queue'.map core).Sublist (queue.map core)) :
    DistinctReqIDs contracts queue' := by
  refine pairwise_of_sublist_map ?_ hsub h
  intro a b a' b' ha hb hab peer reqID hrequest hrequest'
  exact hab peer reqID (hrequest.of_core ha.symm) (hrequest'.of_core hb.symm)

/-- A write to the table that gives no queued request another peer. -/
theorem DistinctReqIDs.writeTable (h : DistinctReqIDs contracts queue)
    (hpeer : ∀ m ∈ queue, m.issueNo ≠ none → ∀ c' ∈ contracts'.lock m, ∃ c ∈ contracts.lock m,
      c.destAddress = c'.destAddress) : DistinctReqIDs contracts' queue := by
  have hrequest : ∀ m ∈ queue, ∀ peer reqID,
      m.RequestTo contracts' peer reqID → m.RequestTo contracts peer reqID := by
    rintro m hm peer reqID ⟨hissue, hreq, c', hc', hdest⟩
    obtain ⟨c, hc, hsame⟩ := hpeer m hm hissue c' hc'
    exact ⟨hissue, hreq, c, hc, hsame.trans hdest⟩
  refine h.imp_of_mem ?_
  intro a b ha hb hab peer reqID hrequest_a hrequest_b
  exact hab peer reqID (hrequest a ha peer reqID hrequest_a) (hrequest b hb peer reqID hrequest_b)

theorem DistinctReqIDs.insert {id : UInt16} {c c' : Contract} (h : DistinctReqIDs contracts queue)
    (hc : contracts.lookup id = some c) (hserial : c'.serial = c.serial)
    (hpeer : ∀ m ∈ queue, m.issueNo ≠ none → m.contractId = id → c.serial = m.weakContract →
      c.destAddress = c'.destAddress) : DistinctReqIDs (contracts.insert id c') queue := by
  refine h.writeTable ?_
  intro m hm hissue d hd
  obtain ⟨hrow, hweak⟩ := lock_eq_some.mp hd
  rw [Table.lookup_insert] at hrow
  by_cases hid : m.contractId = id
  · rw [if_pos hid] at hrow
    cases hrow
    have hsame := hserial ▸ hweak
    exact ⟨c, lock_eq_some.mpr ⟨hid ▸ hc, hsame⟩, hpeer m hm hissue hid hsame⟩
  · rw [if_neg hid] at hrow
    exact ⟨d, lock_eq_some.mpr ⟨hrow, hweak⟩, rfl⟩

/-- A new contract has a serial number that no queued entry has. -/
theorem DistinctReqIDs.insertNew {id : UInt16} {c : Contract} {nextSerial : Nat} (h : DistinctReqIDs contracts queue)
    (hissued : Issued contracts nextSerial queue) (hserial : c.serial = nextSerial) :
    DistinctReqIDs (contracts.insert id c) queue := by
  refine h.writeTable ?_
  intro m hm _ d hd
  obtain ⟨hrow, hweak⟩ := lock_eq_some.mp hd
  rw [Table.lookup_insert] at hrow
  by_cases hid : m.contractId = id
  · rw [if_pos hid] at hrow
    cases hrow
    have hfresh := hissued.weakFresh m hm
    omega
  · rw [if_neg hid] at hrow
    exact ⟨d, lock_eq_some.mpr ⟨hrow, hweak⟩, rfl⟩

theorem DistinctReqIDs.erase (h : DistinctReqIDs contracts queue) (id : UInt16) :
    DistinctReqIDs (contracts.erase id) queue := by
  refine h.writeTable ?_
  intro m _ _ c hc
  obtain ⟨hrow, hweak⟩ := lock_eq_some.mp hc
  rw [Table.lookup_erase] at hrow
  split at hrow
  · cases hrow
  · exact ⟨c, lock_eq_some.mpr ⟨hrow, hweak⟩, rfl⟩

theorem DistinctReqIDs.issueReqID {req : AddRequest} {c : Contract} (h : DistinctReqIDs contracts queue)
    (hc : contracts.lookup req.contractID = some c) : DistinctReqIDs (contracts.issueReqID req c) queue := by
  unfold Contracts.issueReqID
  split
  · exact h.insert hc rfl fun _ _ _ _ _ => rfl
  · exact h

theorem DistinctReqIDs.enqueue {cfg : RetrySettings} {req : AddRequest} {c : Contract} {uid : Nat} {apdu : List UInt8}
    (h : DistinctReqIDs contracts queue) (hc : contracts.lookup req.contractID = some c)
    (hfree : req.obj.takesReqID = true → ∀ m ∈ queue, ¬ m.RequestTo contracts c.destAddress c.reqID) :
    DistinctReqIDs (contracts.issueReqID req c) (queue ++ [newTxMsg cfg req c uid apdu]) := by
  refine pairwise_append.mpr ⟨h.issueReqID hc, pairwise_singleton _ _, ?_⟩
  intro m hm x hx peer reqID hrequest hnew
  obtain rfl := mem_singleton.mp hx
  obtain ⟨hissue, rfl, d, hd, rfl⟩ := hnew
  have htakes : req.obj.takesReqID = true := by
    obtain ⟨k, hk⟩ := Option.ne_none_iff_exists'.mp hissue
    exact (issueNo_newTxMsg hk).1
  -- the counter of the contract moves on, its peer stays
  have hrow := (lock_eq_some.mp hd).1
  rw [Contracts.issueReqID, if_pos htakes] at hrow hrequest
  obtain rfl : c.takeReqID = d := Option.some.inj ((AList.lookup_insert _).symm.trans hrow)
  obtain ⟨hissue', hreq, e, he, hdest⟩ := hrequest
  refine hfree htakes m hm ⟨hissue', hreq, ?_⟩
  obtain ⟨hrow', hweak⟩ := lock_eq_some.mp he
  rw [Table.lookup_insert] at hrow'
  by_cases hid : m.contractId = req.contractID
  · rw [if_pos hid] at hrow'
    cases hrow'
    exact ⟨c, lock_eq_some.mpr ⟨hid ▸ hc, hweak⟩, rfl⟩
  · rw [if_neg hid] at hrow'
    exact ⟨e, lock_eq_some.mpr ⟨hrow', hweak⟩, hdest⟩

def AslState.DistinctReqIDs (st : AslState) : Prop :=
  Isa100Gateway.DistinctReqIDs st.shared.contracts st.queue

theorem AslState.DistinctReqIDs.frame {st' : AslState} (h : st.DistinctReqIDs) (hframe : Frame st st') :
    st'.DistinctReqIDs := by
  refine Isa100Gateway.DistinctReqIDs.writeTable (h.sublist hframe.queue) ?_
  intro m _ _ c' hc'
  obtain ⟨hrow, hweak⟩ := lock_eq_some.mp hc'
  have hsame := hframe.table m.contractId
  rw [hrow] at hsame
  obtain ⟨c, hc, hcore⟩ := Option.map_eq_some_iff.mp hsame.symm
  obtain ⟨hserial, -, -, hdest, -⟩ : _ ∧ _ ∧ _ ∧ _ ∧ _ := by
    simpa [Contract.core] using hcore
  exact ⟨c, lock_eq_some.mpr ⟨hc, hserial.trans hweak⟩, hdest⟩

theorem AslState.DistinctReqIDs.storeContract {random : UInt8} {req : SetContractReq} (h : st.DistinctReqIDs)
    (hissued : st.Issued) (hpeer : ∀ m ∈ st.queue, m.issueNo ≠ none → m.contractId = req.idx.contractId →
      ∀ c ∈ st.shared.contracts.lock m, c.destAddress = req.peerIPv6) :
    (storeContract random req st).2.DistinctReqIDs := by
  rcases storeContract_cases random req st with heq | ⟨c, hc, heq⟩ | ⟨-, -, heq⟩
  · rw [heq]
    exact h
  · rw [heq]
    refine Isa100Gateway.DistinctReqIDs.insert h hc rfl ?_
    intro m hm hissue hid hweak
    exact hpeer m hm hissue hid c (lock_eq_some.mpr ⟨hid ▸ hc, hweak⟩)
  · rw [heq]
    exact Isa100Gateway.DistinctReqIDs.insertNew h hissued rfl

theorem distinctReqIDs_aslStep {a : AslAction} (h : st.DistinctReqIDs) (hissued : st.Issued) (hok : st.Issues a) :
    (aslStep st a).DistinctReqIDs := by
  cases a with
  | addGenericObject cfg req =>
    change (addGenericObject cfg req st).2.DistinctReqIDs
    rcases addGenericObject_cases cfg req st with heq | ⟨c, hc, heq | ⟨apdu, _, heq⟩⟩
    · rw [heq]
      exact h
    · rw [heq]
      exact Isa100Gateway.DistinctReqIDs.issueReqID h hc
    · rw [heq]
      exact Isa100Gateway.DistinctReqIDs.enqueue h hc fun htakes => hok htakes c hc
  | aslTask tvNow now => exact h.frame (frame_aslTask tvNow now st)
  | dataConfirm conf =>
    obtain ⟨confs, heq⟩ := dataConfirm_eq st conf
    change (dataConfirm st conf).DistinctReqIDs
    rw [heq]
    exact h
  | response now key => exact h.frame (frame_searchOriginalRequest now key st)
  | oneSecond => exact h.frame (frame_performOneSecondOperations st)
  | setContract ownAddress random req =>
    change (setContract ownAddress random req st).2.DistinctReqIDs
    rcases setContract_cases ownAddress random req st with heq | ⟨-, ⟨hidx, heq⟩ | ⟨-, heq⟩⟩
    · rw [heq]
      exact h
    · rw [heq]
      exact h.storeContract hissued (hok hidx)
    · rw [heq]
      have herased : (deleteContract req.idx.contractId st).DistinctReqIDs := Isa100Gateway.DistinctReqIDs.erase h _
      refine herased.storeContract (Issued.erase _ hissued) ?_
      -- the row is gone, so no entry can lock it
      intro m _ _ hid c hc
      have hrow := (lock_eq_some.mp hc).1
      change (st.shared.contracts.erase req.idx.contractId).lookup m.contractId = some c at hrow
      rw [Table.lookup_erase, if_pos hid] at hrow
      cases hrow
  | addDmoContract random unset dmo =>
    change (addDmoContract random unset dmo st).2.DistinctReqIDs
    rcases addDmoContract_cases random unset dmo st with heq | ⟨c, hc, heq⟩ | ⟨-, -, heq⟩
    · rw [heq]
      exact h
    · rw [heq]
      exact Isa100Gateway.DistinctReqIDs.insert h hc rfl fun _ _ _ _ _ => rfl
    · rw [heq]
      exact Isa100Gateway.DistinctReqIDs.insertNew h hissued rfl
  | deleteContract id => exact Isa100Gateway.DistinctReqIDs.erase h id

theorem DistinctReqIDs.eq_of_requestTo (h : DistinctReqIDs contracts queue) {x : TxMsg} (hm : m ∈ queue)
    (hx : x ∈ queue)
    (hrequest : m.RequestTo contracts peer reqID) (hrequest' : x.RequestTo contracts peer reqID) : x = m := by
  obtain ⟨older, younger, rfl⟩ := append_of_mem hm
  obtain ⟨-, hyounger, holder⟩ := pairwise_append.mp h
  rcases mem_append.mp hx with hx | hx
  · exact absurd hrequest (holder x hx m mem_cons_self peer reqID hrequest')
  rcases mem_cons.mp hx with rfl | hx
  · rfl
  · exact absurd hrequest' ((pairwise_cons.mp hyounger).1 x hx peer reqID hrequest)

theorem TxMsg.IsOriginalRequest.requestTo (h : m.IsOriginalRequest contracts key) (hissue : m.issueNo ≠ none) :
    m.RequestTo contracts key.idtf.addr key.reqID :=
  ⟨hissue, h.1.2.2.2.1, h.2.2⟩

/-- A contract that is the only one to its peer gives out a free id as long as its queued requests are among the last 255 that it numbered. -/
theorem issues_of_recent (h : st.Issued) {cfg : RetrySettings} {req : AddRequest}
    (hrecent : ∀ c ∈ st.shared.contracts.lookup req.contractID, ∀ m ∈ st.queue, ∀ k ∈ m.issueNo,
      ∀ d ∈ st.shared.contracts.lock m, d.destAddress = c.destAddress →
        m.contractId = req.contractID ∧ c.issued < k + 256) : st.Issues (.addGenericObject cfg req) := by
  rintro - c hc m hm ⟨hissue, hreq, d, hd, hdest⟩
  obtain ⟨k, hk⟩ := Option.ne_none_iff_exists'.mp hissue
  obtain ⟨hid, hnear⟩ := hrecent c hc m hm k hk d hd hdest
  obtain rfl : d = c := by
    have hrow := (lock_eq_some.mp hd).1
    rw [hid] at hrow
    exact Option.some.inj (hrow.symm.trans hc)
  obtain ⟨hlt, hcounter⟩ := h.behind m hm k hk d hd
  -- the counter has moved on by less than its period
  rw [← hreq] at hcounter
  have hstep : UInt8.ofNat (d.issued - k) = 0 := by
    have hsame : m.reqID + UInt8.ofNat (d.issued - k) = m.reqID + 0 := by
      rw [← hcounter, UInt8.add_zero]
    exact (UInt8.add_right_inj m.reqID).mp hsame
  have hmod := congrArg UInt8.toNat hstep
  rw [UInt8.toNat_ofNat'] at hmod
  change (d.issued - k) % 256 = 0 at hmod
  omega

/-- In every run that gives out ids that are free at the peer, the queued requests to one peer have different ids, and whatever the search returns for a response to a request that is queued and was sent is that request. -/
theorem response_finds_request (h : Reachable AslState.init aslStep AslState.Issues st) :
    st.DistinctReqIDs ∧ ∀ now key, st.Solicits key → ∀ m, (searchOriginalRequest now key st).1 = some m →
      st.Asked key m := by
  have hdistinct : st.DistinctReqIDs ∧ st.Issued := by
    have hinit : AslState.init.Issued := issued_of_reachable (.init : Reachable AslState.init aslStep AslState.Issues _)
    refine h.invariant (P := fun st => st.DistinctReqIDs ∧ st.Issued) ⟨Pairwise.nil, hinit⟩ ?_
    intro st a ⟨hdistinct, hissued⟩ hok
    exact ⟨distinctReqIDs_aslStep hdistinct hissued hok, issued_aslStep a hissued⟩
  have hcorrelated : Correlated st :=
    correlated_of_reachable (h.invariant (P := Reachable AslState.init aslStep fun _ _ => True) .init
      fun _ a hreach _ => hreach.step a trivial)
  refine ⟨hdistinct.1, fun now key hsolicits m hfound => ?_⟩
  obtain ⟨older, younger, c, hqueue, -, hanswers, hclear, hc, hdest, htransmitted, -⟩ :=
    hcorrelated.found now key m hfound
  have hmem : m ∈ st.queue := by
    rw [hqueue]
    exact mem_append_right older mem_cons_self
  have horiginal : m.IsOriginalRequest st.shared.contracts key := ⟨hanswers, hclear, c, hc, hdest⟩
  have hrequest := horiginal.requestTo (hsolicits.carriesID m hmem horiginal)
  have hunique : ∀ x ∈ st.queue, x.RequestTo st.shared.contracts key.idtf.addr key.reqID → x = m :=
    fun x hx hrequest' => hdistinct.1.eq_of_requestTo hmem hx hrequest hrequest'
  obtain ⟨x, hx, horiginal', hsent⟩ := hsolicits.asked ⟨m, hmem, horiginal⟩
  obtain rfl := hunique x hx (horiginal'.requestTo (hsolicits.carriesID x hx horiginal'))
  exact ⟨hmem, hanswers, hrequest, hunique, hsent, htransmitted hsent.1⟩

instance (m : TxMsg) : Decidable m.WasSent := inferInstanceAs (Decidable (_ ∨ _))

/-- Two requests of one contract, the first of them sent. -/
def twoRequests : List AslAction :=
  [.setContract sampleOwnAddress 9 (sampleSetContract 1 1),
    .addGenericObject sampleRetries (sampleRequest 1 sampleReadReq),
    .addGenericObject sampleRetries (sampleRequest 1 sampleReadReq), .aslTask ⟨100, 0⟩ 100]

theorem response_finds_request_first :
    ∃ m ∈ (searchOriginalRequest 100 sampleReadRspKey (run aslStep AslState.init twoRequests)).1,
      (run aslStep AslState.init twoRequests).Asked sampleReadRspKey m ∧ m.uid = 0 := by
  have hreach : Reachable AslState.init aslStep AslState.Issues (run aslStep AslState.init twoRequests) :=
    reachable_run (by decide +kernel)
  have hsolicits : (run aslStep AslState.init twoRequests).Solicits sampleReadRspKey :=
    ⟨fun _ => by decide +kernel, by decide +kernel⟩
  have huid : (searchOriginalRequest 100 sampleReadRspKey (run aslStep AslState.init twoRequests)).1.map uid =
      some 0 := by
    decide +kernel
  obtain ⟨m, hm, hzero⟩ := Option.map_eq_some_iff.mp huid
  exact ⟨m, hm, (response_finds_request hreach).2 100 sampleReadRspKey hsolicits m hm, hzero⟩

/-- Two contracts to one peer give out the same request id, and a response finds a request that was never sent. -/
theorem unsentRequest_matched : ∃ st, Reachable AslState.init aslStep (fun _ _ => True) st ∧
      (st.queue.map fun m => (m.reqID, (st.shared.contracts.lock m).map fun c => c.destAddress)) =
        [(9, some samplePeer), (9, some samplePeer)] ∧
      (searchOriginalRequest 100 sampleReadRspKey st).1.map status = some .readyToSend := by
  let actions : List AslAction :=
    [.setContract sampleOwnAddress 9 (sampleSetContract 1 1), .setContract sampleOwnAddress 9 (sampleSetContract 2 1),
      .addGenericObject sampleRetries (sampleRequest 1 sampleReadReq),
      .addGenericObject sampleRetries (sampleRequest 2 sampleReadReq)]
  refine ⟨run aslStep AslState.init actions, reachable_run (along_true _ _), ?_, ?_⟩
  · decide +kernel
  · decide +kernel

end Isa100Gateway
