import Isa100Gateway.Asl.QueueFacts

/-!
# Request and response

What `ASLDE_SearchOriginalRequest` returns, and how far apart two queued requests with one request id are. The id is an 8-bit counter of the contract object; `issued` is the same counter without the wrap.
-/

namespace Isa100Gateway

open Machine List TxMsg

theorem pass_responseVisit_found (now : UInt32) (key : ResponseKey) (sh : Shared) (m : TxMsg) (queue : List TxMsg) :
    pass (responseVisit now key) (sh, some m) queue = ((sh, some m), queue) := by
  induction queue with
  | nil => rfl
  | cons x queue ih => simp [Machine.pass, responseVisit, ih]

theorem responseVisit_original (now : UInt32) {key : ResponseKey} {sh : Shared} {m : TxMsg}
    (h : m.IsOriginalRequest sh.contracts key) :
    ∃ sh', responseVisit now key (sh, none) m =
      ((sh', some m), some { m with status := .readyToClear }) := by
  simp only [responseVisit, Option.isNone_none, h, and_self, if_true]
  exact ⟨_, rfl⟩

theorem pass_responseVisit (now : UInt32) (key : ResponseKey) (sh : Shared) (queue : List TxMsg) :
    (∀ x ∈ queue, ¬ x.IsOriginalRequest sh.contracts key) ∧
      pass (responseVisit now key) (sh, none) queue = ((sh, none), queue) ∨
    ∃ older m younger sh', queue = older ++ m :: younger ∧ (∀ x ∈ older, ¬ x.IsOriginalRequest sh.contracts key) ∧
      m.IsOriginalRequest sh.contracts key ∧
      pass (responseVisit now key) (sh, none) queue =
        ((sh', some m), older ++ { m with status := .readyToClear } :: younger) := by
  induction queue with
  | nil => exact Or.inl ⟨by simp, rfl⟩
  | cons x queue ih =>
    by_cases horiginal : x.IsOriginalRequest sh.contracts key
    · obtain ⟨sh', hvisit⟩ := responseVisit_original now horiginal
      refine Or.inr ⟨[], x, queue, sh', rfl, by simp, horiginal, ?_⟩
      simp [Machine.pass, hvisit, pass_responseVisit_found]
    · rcases ih with ⟨hnone, hpass⟩ | ⟨older, m, younger, sh', rfl, holder, hm, hpass⟩
      · left
        refine ⟨?_, by simp [Machine.pass, responseVisit, horiginal, hpass]⟩
        intro y hy
        rcases mem_cons.1 hy with rfl | hy
        · exact horiginal
        · exact hnone y hy
      · right
        refine ⟨x :: older, m, younger, sh', rfl, ?_, hm, ?_⟩
        · intro y hy
          rcases mem_cons.1 hy with rfl | hy
          · exact horiginal
          · exact holder y hy
        · simp [Machine.pass, responseVisit, horiginal, hpass]

def TxMsg.SameContract (a b : TxMsg) : Prop :=
  a.contractId = b.contractId ∧ a.weakContract = b.weakContract

def IssuedBefore (a b : TxMsg) : Prop :=
  a.SameContract b → ∀ k ∈ a.issueNo, ∀ k' ∈ b.issueNo, k < k'

/-- An issued request id is as far behind the counter of its contract as requests were issued since. -/
structure Issued (contracts : Contracts) (nextSerial : Nat) (queue : List TxMsg) : Prop where
  serialFresh : ∀ id c, contracts.lookup id = some c → c.serial < nextSerial
  weakFresh : ∀ m ∈ queue, m.weakContract < nextSerial
  behind : ∀ m ∈ queue, ∀ k ∈ m.issueNo, ∀ c, contracts.lock m = some c →
    k < c.issued ∧ c.reqID = m.reqID + UInt8.ofNat (c.issued - k)
  ordered : queue.Pairwise IssuedBefore

def SameTable (contracts contracts' : Contracts) : Prop :=
  ∀ id, (contracts'.lookup id).map Contract.core = (contracts.lookup id).map Contract.core

theorem SameTable.refl (contracts : Contracts) : SameTable contracts contracts := fun _ => rfl

theorem SameTable.trans {c₁ c₂ c₃ : Contracts} (h : SameTable c₁ c₂) (h' : SameTable c₂ c₃) :
    SameTable c₁ c₃ := fun id => (h' id).trans (h id)

/-- The steps that neither queue an entry nor write the contract table keep the identity of everything they keep. -/
structure Frame (st st' : AslState) : Prop where
  table : SameTable st.shared.contracts st'.shared.contracts
  queue : (st'.queue.map core).Sublist (st.queue.map core)
  serial : st'.nextSerial = st.nextSerial

theorem Frame.trans {st st' st'' : AslState} (h : Frame st st') (h' : Frame st' st'') : Frame st st'' :=
  ⟨h.table.trans h'.table, h'.queue.trans h.queue, h'.serial.trans h.serial⟩

theorem mem_of_sublist_core {queue queue' : List TxMsg}
    (h : (queue'.map core).Sublist (queue.map core)) {m' : TxMsg} (hm' : m' ∈ queue') :
    ∃ m ∈ queue, m'.core = m.core := by
  obtain ⟨m, hm, hcore⟩ := mem_map.1 (h.subset (mem_map_of_mem hm'))
  exact ⟨m, hm, hcore.symm⟩

variable {m m' : TxMsg} {nextSerial : Nat} {st : AslState} {tvNow : TimeVal} {now : UInt32}

theorem sameIssue_of_core (h : m'.core = m.core) :
    m'.weakContract = m.weakContract ∧ m'.issueNo = m.issueNo ∧ m'.reqID = m.reqID ∧
      m'.contractId = m.contractId := by
  obtain ⟨-, hweak, hissue, hreq, hid, -⟩ : _ ∧ _ ∧ _ ∧ _ ∧ _ ∧ _ := by
    simpa [core] using h
  exact ⟨hweak, hissue, hreq, hid⟩

theorem pairwise_of_sublist_map {α β : Type*} {f : α → β} {R : α → α → Prop} {l l' : List α}
    (hcongr : ∀ a b a' b', f a' = f a → f b' = f b → R a b → R a' b') (hsub : (l'.map f).Sublist (l.map f))
    (h : l.Pairwise R) : l'.Pairwise R := by
  have hmap : (l.map f).Pairwise fun x y => ∀ a b, f a = x → f b = y → R a b := by
    rw [pairwise_map]
    exact h.imp fun hab a' b' ha hb => hcongr _ _ _ _ ha hb hab
  have hmap' := hmap.sublist hsub
  rw [pairwise_map] at hmap'
  exact hmap'.imp fun hab => hab _ _ rfl rfl

theorem IssuedBefore.of_core {a b a' b' : TxMsg} (ha : a'.core = a.core) (hb : b'.core = b.core)
    (h : IssuedBefore a b) : IssuedBefore a' b' := by
  obtain ⟨hweak, hissue, -, hid⟩ := sameIssue_of_core ha
  obtain ⟨hweak', hissue', -, hid'⟩ := sameIssue_of_core hb
  unfold IssuedBefore TxMsg.SameContract at h ⊢
  rw [hweak, hissue, hid, hweak', hissue', hid']
  exact h

theorem Issued.contracts {contracts contracts' : Contracts} {queue : List TxMsg}
    (hlook : ∀ id c', contracts'.lookup id = some c' → ∃ c, contracts.lookup id = some c ∧
      c'.serial = c.serial ∧ c'.issued = c.issued ∧ c'.reqID = c.reqID)
    (h : Issued contracts nextSerial queue) : Issued contracts' nextSerial queue where
  serialFresh id c' hc' := by
    obtain ⟨c, hc, hserial, -⟩ := hlook id c' hc'
    rw [hserial]
    exact h.serialFresh id c hc
  weakFresh := h.weakFresh
  behind m hm k hk c' hc' := by
    obtain ⟨hrow, hweak⟩ := lock_eq_some.1 hc'
    obtain ⟨c, hc, hserial, hissued, hreqID⟩ := hlook _ c' hrow
    rw [hissued, hreqID]
    exact h.behind m hm k hk c (lock_eq_some.2 ⟨hc, hserial ▸ hweak⟩)
  ordered := h.ordered

theorem Issued.queue {contracts : Contracts} {queue queue' : List TxMsg}
    (hsub : (queue'.map core).Sublist (queue.map core))
    (h : Issued contracts nextSerial queue) : Issued contracts nextSerial queue' where
  serialFresh := h.serialFresh
  weakFresh m' hm' := by
    obtain ⟨m, hm, hcore⟩ := mem_of_sublist_core hsub hm'
    rw [(sameIssue_of_core hcore).1]
    exact h.weakFresh m hm
  behind m' hm' k hk c hc := by
    obtain ⟨m, hm, hcore⟩ := mem_of_sublist_core hsub hm'
    obtain ⟨hweak, hissue, hreq, hid⟩ := sameIssue_of_core hcore
    obtain ⟨hrow, hserial⟩ := lock_eq_some.1 hc
    rw [hreq]
    apply h.behind m hm k (hissue ▸ hk) c
    exact lock_eq_some.2 ⟨hid ▸ hrow, hweak ▸ hserial⟩
  ordered := pairwise_of_sublist_map (fun _ _ _ _ ha hb hab => hab.of_core ha hb) hsub h.ordered

theorem Issued.frame {st st' : AslState} (hframe : Frame st st')
    (h : Issued st.shared.contracts st.nextSerial st.queue) :
    Issued st'.shared.contracts st'.nextSerial st'.queue := by
  rw [hframe.serial]
  apply Issued.queue hframe.queue
  apply h.contracts
  intro id c' hc'
  have hsame := hframe.table id
  rw [hc'] at hsame
  obtain ⟨c, hc, hcore⟩ := Option.map_eq_some_iff.1 hsame.symm
  obtain ⟨hserial, hissued, hreqID, -⟩ : _ ∧ _ ∧ _ ∧ _ := by
    simpa [Contract.core] using hcore
  exact ⟨c, hc, hserial.symm, hissued.symm, hreqID.symm⟩

theorem sameTable_onContract (sh : Shared) (m : TxMsg) {f : Contract → Contract}
    (hf : ∀ c, (f c).core = c.core) : SameTable sh.contracts (sh.onContract m f).contracts := by
  intro id
  rw [lookup_onContract, Option.map_map]
  congr 1
  funext c
  by_cases hown : id = m.contractId ∧ c.serial = m.weakContract
  · simp [hown, hf]
  · simp [hown]

theorem sameTable_insert {contracts : Contracts} {id : UInt16} {c c' : Contract}
    (hc : contracts.lookup id = some c) (hcore : c'.core = c.core) :
    SameTable contracts (contracts.insert id c') := by
  intro id'
  rw [Table.lookup_insert]
  by_cases hid : id' = id
  · rw [if_pos hid, hid, hc]
    exact congrArg some hcore
  · rw [if_neg hid]

theorem sameTable_release (sh : Shared) (m : TxMsg) : SameTable sh.contracts (sh.release m).contracts := by
  unfold Shared.release
  by_cases hmarked : m.inSlidingWindow = true
  · rw [if_pos hmarked]
    exact sameTable_onContract sh m core_receiveResponse
  · rw [if_neg hmarked]
    exact SameTable.refl _

theorem frame_timeoutVisit (sh : Shared) (m : TxMsg) : SameTable sh.contracts (timeoutVisit sh m).1.contracts ∧
      ∀ x ∈ (timeoutVisit sh m).2, x.core = m.core := by
  obtain ⟨m', hvisit, htable, hcore⟩ := timeoutVisit_rule
    (P := fun sh' m' => SameTable sh.contracts sh'.contracts ∧ m'.core = m.core)
    (fun _ _ _ hsame h => ⟨h.1, hsame.core.trans h.2⟩)
    (fun sh' m' _ h => ⟨h.1.trans (sameTable_release sh' m'), h.2⟩)
    (fun sh' m' h => ⟨h.1.trans (sameTable_onContract sh' m' core_receiveTimeout), h.2⟩)
    (fun _ _ _ _ hre h => ⟨h.1, hre.core.trans h.2⟩)
    ⟨SameTable.refl sh.contracts, rfl⟩
  refine ⟨htable, ?_⟩
  rw [hvisit]
  rintro x ⟨⟩
  exact hcore

theorem frame_searchVisit (tvNow : TimeVal) (sh : Shared) (best : Option ApduIdtfTx) (m : TxMsg) :
    SameTable sh.contracts (searchVisit tvNow (sh, best) m).1.1.contracts ∧
      ∀ x ∈ (searchVisit tvNow (sh, best) m).2, x.core = m.core := by
  rcases searchVisit_cases tvNow sh best m with ⟨_, _, heq⟩ | ⟨best', heq⟩ | ⟨best', _, heq⟩
  · rw [heq]
    exact ⟨SameTable.refl _, by rintro x ⟨⟩⟩
  · rw [heq]
    exact ⟨SameTable.refl _, by rintro x ⟨⟩; rfl⟩
  · rw [heq]
    exact ⟨sameTable_onContract sh m core_slidingWindowAllowsTX, by rintro x ⟨⟩; rfl⟩

theorem frame_responseVisit (now : UInt32) (key : ResponseKey) (sh : Shared) (found : Option TxMsg) (m : TxMsg) :
    SameTable sh.contracts (responseVisit now key (sh, found) m).1.1.contracts ∧
      ∀ x ∈ (responseVisit now key (sh, found) m).2, x.core = m.core := by
  rcases responseVisit_cases now key sh found m with heq | ⟨_, _, heq⟩
  · rw [heq]
    exact ⟨SameTable.refl _, by rintro x ⟨⟩; rfl⟩
  · rw [heq]
    exact ⟨sameTable_onContract sh m (core_responseReceived now m), by rintro x ⟨⟩; rfl⟩

theorem frame_concatVisit (id : UInt16) (room : Int) (handle : UInt8) (now : UInt32) (c : Contract)
    (out : List UInt8) (m : TxMsg) : (concatVisit id room handle now (c, out) m).1.1.core = c.core ∧
      ∀ x ∈ (concatVisit id room handle now (c, out) m).2, x.core = m.core := by
  rcases concatVisit_cases id room handle now c out m with heq | ⟨_, _, hcase⟩
  · rw [heq]
    exact ⟨rfl, by rintro x ⟨⟩; rfl⟩
  rcases hcase with ⟨_, _, _, heq⟩ | ⟨_, _, _, heq⟩ | ⟨_, _, heq⟩ | ⟨_, _, heq⟩
  · rw [heq]
    exact ⟨core_slidingWindowIncreaseUsage c, by rintro x ⟨⟩; rfl⟩
  · rw [heq]
    exact ⟨core_slidingWindowIncreaseUsage c, by rintro x ⟨⟩; rfl⟩
  · rw [heq]
    exact ⟨rfl, by rintro x ⟨⟩; rfl⟩
  · rw [heq]
    exact ⟨rfl, by rintro x ⟨⟩; rfl⟩

theorem core_confirmMsg (conf : ApduConfirm) (m : TxMsg) : ∀ x ∈ confirmMsg conf m, x.core = m.core := by
  rcases confirmMsg_cases conf m with heq | ⟨_, heq | heq | ⟨_, heq⟩ | ⟨_, heq⟩⟩ <;> rw [heq] <;>
    rintro x ⟨⟩ <;> rfl

theorem sublist_confirmQueue (conf : ApduConfirm) (queue : List TxMsg) :
    ((confirmQueue queue conf).map core).Sublist (queue.map core) := by
  induction queue with
  | nil => exact Sublist.refl _
  | cons m queue ih =>
    have hcore := core_confirmMsg conf m
    unfold confirmQueue at ih ⊢
    cases hleft : confirmMsg conf m with
    | none =>
      rw [filterMap_cons_none hleft]
      exact ih.cons m.core
    | some x =>
      rw [filterMap_cons_some hleft, map_cons, map_cons, hcore x hleft]
      exact ih.cons_cons m.core

theorem frame_checkTLConfirms (st : AslState) : Frame st (checkTLConfirms st) := by
  refine ⟨SameTable.refl _, ?_, rfl⟩
  change ((run confirmQueue st.queue st.conf).map core).Sublist _
  apply run_invariant (P := fun queue => (queue.map core).Sublist (st.queue.map core))
    _ (Sublist.refl _) (along_true st.queue st.conf)
  intro queue conf h _
  exact (sublist_confirmQueue conf queue).trans h

theorem frame_searchStep (tvNow : TimeVal) (st : AslState) : Frame st (searchStep tvNow st).1 := by
  refine ⟨?_, ?_, rfl⟩
  · apply pass_invariant_all (s := (st.shared, none))
      (P := fun (s : Shared × Option ApduIdtfTx) (_ : List TxMsg) =>
        SameTable st.shared.contracts s.1.contracts) _ (SameTable.refl _)
    rintro ⟨sh, best⟩ _ m _ h
    exact h.trans (frame_searchVisit tvNow sh best m).1
  · apply pass_sublist
    rintro ⟨sh, best⟩ m
    exact (frame_searchVisit tvNow sh best m).2

theorem frame_sendConcatenated {idtf : ApduIdtfTx} {c : Contract}
    (hlook : st.shared.contracts.lookup idtf.contractId = some c) :
    Frame st (sendConcatenated tvNow now idtf c st) := by
  refine ⟨?_, ?_, rfl⟩
  · have hwalk : (concatenateAPDUs idtf.contractId st.handle now c st.queue).1.1.core = c.core := by
      apply pass_invariant_all (s := (c, []))
        (P := fun (s : Contract × List UInt8) (_ : List TxMsg) => s.1.core = c.core) _ rfl
      rintro ⟨c', out⟩ _ m _ h
      exact (frame_concatVisit _ _ _ _ c' out m).1.trans h
    exact sameTable_insert hlook ((core_packetSent tvNow _).trans hwalk)
  · apply pass_sublist
    rintro ⟨c', out⟩ m
    exact (frame_concatVisit _ _ _ _ c' out m).2

theorem frame_aslTask (tvNow : TimeVal) (now : UInt32) (st : AslState) : Frame st (aslTask tvNow now st) := by
  have hsearch := (frame_checkTLConfirms st).trans (frame_searchStep tvNow (checkTLConfirms st))
  exact flushAPDUBuffer_rule (P := Frame st) hsearch fun _ _ _ hlook => hsearch.trans (frame_sendConcatenated hlook)

theorem frame_performOneSecondOperations (st : AslState) : Frame st (performOneSecondOperations st) := by
  refine ⟨?_, ?_, rfl⟩
  · apply pass_invariant_all (s := st.shared)
      (P := fun (sh : Shared) (_ : List TxMsg) => SameTable st.shared.contracts sh.contracts) _
      (SameTable.refl _)
    intro sh _ m _ h
    exact h.trans (frame_timeoutVisit sh m).1
  · have hpass := pass_sublist (f := core) (fun sh m => (frame_timeoutVisit sh m).2)
      st.shared st.queue
    exact (filter_sublist.map core).trans hpass

theorem frame_searchOriginalRequest (now : UInt32) (key : ResponseKey) (st : AslState) :
    Frame st (searchOriginalRequest now key st).2 := by
  refine ⟨?_, ?_, rfl⟩
  · apply pass_invariant_all (s := (st.shared, none))
      (P := fun (s : Shared × Option TxMsg) (_ : List TxMsg) =>
        SameTable st.shared.contracts s.1.contracts) _ (SameTable.refl _)
    rintro ⟨sh, found⟩ _ m _ h
    exact h.trans (frame_responseVisit now key sh found m).1
  · apply pass_sublist
    rintro ⟨sh, found⟩ m
    exact (frame_responseVisit now key sh found m).2

section Writes

variable {contracts : Contracts} {nextSerial : Nat} {queue : List TxMsg}

variable {id : UInt16} {c : Contract} {req : AddRequest}

theorem Issued.insertSame {c c' : Contract} (hc : contracts.lookup id = some c)
    (hserial : c'.serial = c.serial) (hissued : c'.issued = c.issued) (hreqID : c'.reqID = c.reqID)
    (h : Issued contracts nextSerial queue) : Issued (contracts.insert id c') nextSerial queue := by
  apply h.contracts
  intro id' d hd
  rw [Table.lookup_insert] at hd
  by_cases hid : id' = id
  · rw [if_pos hid] at hd
    cases hd
    exact ⟨c, hid ▸ hc, hserial, hissued, hreqID⟩
  · rw [if_neg hid] at hd
    exact ⟨d, hd, rfl, rfl, rfl⟩

theorem Issued.erase (id : UInt16) (h : Issued contracts nextSerial queue) :
    Issued (contracts.erase id) nextSerial queue := by
  apply h.contracts
  intro id' c hc
  rw [Table.lookup_erase] at hc
  by_cases hid : id' = id
  · rw [if_pos hid] at hc
    cases hc
  · rw [if_neg hid] at hc
    exact ⟨c, hc, rfl, rfl, rfl⟩

theorem Issued.insertNew (hserial : c.serial = nextSerial) (h : Issued contracts nextSerial queue) :
    Issued (contracts.insert id c) (nextSerial + 1) queue where
  serialFresh id' d hd := by
    rw [Table.lookup_insert] at hd
    by_cases hid : id' = id
    · rw [if_pos hid] at hd
      cases hd
      omega
    · rw [if_neg hid] at hd
      have := h.serialFresh id' d hd
      omega
  weakFresh m hm := by
    have := h.weakFresh m hm
    omega
  behind m hm k hk d hd := by
    obtain ⟨hrow, hweak⟩ := lock_eq_some.1 hd
    rw [Table.lookup_insert] at hrow
    by_cases hid : m.contractId = id
    · rw [if_pos hid] at hrow
      cases hrow
      have := h.weakFresh m hm
      omega
    · rw [if_neg hid] at hrow
      exact h.behind m hm k hk d (lock_eq_some.2 ⟨hrow, hweak⟩)
  ordered := h.ordered

private theorem ofNat_succ (n : Nat) : UInt8.ofNat (n + 1) = UInt8.ofNat n + 1 := by
  rw [UInt8.ofNat_add]
  rfl

theorem Issued.takeReqID (hc : contracts.lookup id = some c) (h : Issued contracts nextSerial queue) :
    Issued (contracts.insert id c.takeReqID) nextSerial queue where
  serialFresh id' d hd := by
    rw [Table.lookup_insert] at hd
    by_cases hid : id' = id
    · rw [if_pos hid] at hd
      cases hd
      exact h.serialFresh id c hc
    · rw [if_neg hid] at hd
      exact h.serialFresh id' d hd
  weakFresh := h.weakFresh
  behind m hm k hk d hd := by
    obtain ⟨hrow, hweak⟩ := lock_eq_some.1 hd
    rw [Table.lookup_insert] at hrow
    by_cases hid : m.contractId = id
    · rw [if_pos hid] at hrow
      cases hrow
      have hlock : contracts.lock m = some c := lock_eq_some.2 ⟨hid ▸ hc, hweak⟩
      obtain ⟨hlt, hreqID⟩ := h.behind m hm k hk c hlock
      refine ⟨Nat.lt_succ_of_lt hlt, ?_⟩
      have hsub : c.takeReqID.issued - k = c.issued - k + 1 := Nat.succ_sub hlt.le
      rw [hsub, ofNat_succ, ← UInt8.add_assoc, ← hreqID]
      rfl
    · rw [if_neg hid] at hrow
      exact h.behind m hm k hk d (lock_eq_some.2 ⟨hrow, hweak⟩)
  ordered := h.ordered

theorem Issued.issueReqID (hc : contracts.lookup req.contractID = some c) (h : Issued contracts nextSerial queue) :
    Issued (contracts.issueReqID req c) nextSerial queue := by
  unfold Contracts.issueReqID
  by_cases htakes : req.obj.takesReqID = true
  · rw [if_pos htakes]
    exact h.takeReqID hc
  · rw [if_neg htakes]
    exact h

theorem issueNo_newTxMsg {cfg : RetrySettings} {uid k : Nat}
    {apdu : List UInt8} (hk : k ∈ (newTxMsg cfg req c uid apdu).issueNo) :
    req.obj.takesReqID = true ∧ c.issued = k := by
  by_cases htakes : req.obj.takesReqID = true
  · have hnew : (newTxMsg cfg req c uid apdu).issueNo = some c.issued := if_pos htakes
    exact ⟨htakes, Option.some.inj (hnew.symm.trans hk)⟩
  · have hnew : (newTxMsg cfg req c uid apdu).issueNo = none := if_neg htakes
    exact nomatch hnew.symm.trans hk

theorem Issued.enqueue {cfg : RetrySettings} {uid : Nat}
    {apdu : List UInt8} (hc : contracts.lookup req.contractID = some c) (h : Issued contracts nextSerial queue) :
    Issued (contracts.issueReqID req c) nextSerial (queue ++ [newTxMsg cfg req c uid apdu]) := by
  have hissued := h.issueReqID hc
  have hmem : ∀ x, x ∈ queue ++ [newTxMsg cfg req c uid apdu] →
      x ∈ queue ∨ x = newTxMsg cfg req c uid apdu := by
    intro x hx
    simpa using hx
  refine ⟨hissued.serialFresh, ?_, ?_, ?_⟩
  · intro x hx
    obtain hx | rfl := hmem x hx
    · exact h.weakFresh x hx
    · exact h.serialFresh _ c hc
  · intro x hx k hk d hd
    obtain hx | rfl := hmem x hx
    · exact hissued.behind x hx k hk d hd
    · obtain ⟨htakes, rfl⟩ := issueNo_newTxMsg hk
      have hrow : (contracts.issueReqID req c).lookup req.contractID = some c.takeReqID := by
        rw [Contracts.issueReqID, if_pos htakes, AList.lookup_insert]
      obtain rfl : c.takeReqID = d := Option.some.inj (hrow.symm.trans (lock_eq_some.1 hd).1)
      refine ⟨Nat.lt_succ_self _, ?_⟩
      have hone : c.takeReqID.issued - c.issued = 1 := Nat.add_sub_cancel_left _ _
      rw [hone]
      rfl
  · rw [pairwise_append]
    refine ⟨h.ordered, pairwise_singleton _ _, ?_⟩
    -- the counter of the contract is ahead of every id it has issued before
    intro a ha b hb hsame k hk k' hk'
    obtain rfl : b = newTxMsg cfg req c uid apdu := mem_singleton.mp hb
    obtain ⟨-, rfl⟩ := issueNo_newTxMsg hk'
    have hlock : contracts.lock a = some c := by
      apply lock_eq_some.2
      exact ⟨hsame.1 ▸ hc, hsame.2.symm⟩
    exact (h.behind a ha k hk c hlock).1

end Writes

def AslState.Issued (st : AslState) : Prop :=
  Isa100Gateway.Issued st.shared.contracts st.nextSerial st.queue

theorem issued_storeContract {random : UInt8} {req : SetContractReq}
    (h : st.Issued) : (storeContract random req st).2.Issued := by
  rcases storeContract_cases random req st with heq | ⟨c, hc, heq⟩ | ⟨_, _, heq⟩
  · rw [heq]
    exact h
  · rw [heq]
    exact Issued.insertSame hc rfl rfl rfl h
  · rw [heq]
    exact Issued.insertNew rfl h

theorem issued_aslStep (a : AslAction) (h : st.Issued) : (aslStep st a).Issued := by
  cases a with
  | addGenericObject cfg req =>
    change (addGenericObject cfg req st).2.Issued
    rcases addGenericObject_cases cfg req st with heq | ⟨c, hc, heq | ⟨apdu, _, heq⟩⟩
    · rw [heq]
      exact h
    · rw [heq]
      exact Issued.issueReqID hc h
    · rw [heq]
      exact Issued.enqueue hc h
  | aslTask tvNow now => exact Issued.frame (frame_aslTask tvNow now st) h
  | dataConfirm conf =>
    obtain ⟨confs, heq⟩ := dataConfirm_eq st conf
    change (dataConfirm st conf).Issued
    rw [heq]
    exact h
  | response now key => exact Issued.frame (frame_searchOriginalRequest now key st) h
  | oneSecond => exact Issued.frame (frame_performOneSecondOperations st) h
  | setContract ownAddress random req =>
    exact setContract_rule (fun _ h => Issued.erase _ h) (fun _ h => issued_storeContract h) h
  | addDmoContract random unset dmo =>
    change (addDmoContract random unset dmo st).2.Issued
    rcases addDmoContract_cases random unset dmo st with heq | ⟨c, hc, heq⟩ | ⟨_, _, heq⟩
    · rw [heq]
      exact h
    · rw [heq]
      exact Issued.insertSame hc rfl rfl rfl h
    · rw [heq]
      exact Issued.insertNew rfl h
  | deleteContract id => exact Issued.erase id h

theorem issued_of_reachable {ok : AslState → AslAction → Prop}
    (h : Reachable AslState.init aslStep ok st) : st.Issued := by
  have hinit : AslState.init.Issued := by
    refine ⟨?_, ?_, ?_, ?_⟩ <;> simp [AslState.init]
  exact h.invariant hinit fun st a h _ => issued_aslStep a h

/-! ## Transmission -/

/-- The APDU of the entry was part of a TSDU that the transport layer got, on the entry's contract. -/
def Transmitted (log : List AslEvent) (m : TxMsg) : Prop :=
  ∃ prio data handle src dst enc,
    .tldeDataRequest m.contractId prio data handle src dst enc ∈ log ∧ m.txApduData <:+: data

def TxMsg.WasSent (m : TxMsg) : Prop :=
  m.sendTime ≠ 0 ∨ m.status = .sentWaitJustTLCnf ∨ m.status = .sentWaitCnfAndResponse ∨ m.status = .confirmedWaitRsp

def AllTransmitted (log : List AslEvent) (queue : List TxMsg) : Prop :=
  ∀ m ∈ queue, m.WasSent → Transmitted log m

theorem apdu_of_core (h : m'.core = m.core) : m'.contractId = m.contractId ∧ m'.txApduData = m.txApduData := by
  obtain ⟨-, -, -, -, hid, -, hdata, -⟩ : _ ∧ _ ∧ _ ∧ _ ∧ _ ∧ _ ∧ _ ∧ _ := by
    simpa [core] using h
  exact ⟨hid, hdata⟩

theorem Transmitted.of_core {log : List AslEvent} (hcore : m'.core = m.core)
    (h : Transmitted log m) : Transmitted log m' := by
  obtain ⟨hid, hdata⟩ := apdu_of_core hcore
  unfold Transmitted
  rw [hid, hdata]
  exact h

theorem Transmitted.mono {log log' : List AslEvent} {m : TxMsg} (hlog : log ⊆ log')
    (h : Transmitted log m) : Transmitted log' m := by
  obtain ⟨prio, data, handle, src, dst, enc, hmem, hinfix⟩ := h
  exact ⟨prio, data, handle, src, dst, enc, hlog hmem, hinfix⟩

section Transmission

variable {log log' : List AslEvent} {done rest : List TxMsg} {m : TxMsg} {m' : Option TxMsg}

theorem AllTransmitted.visit (hm' : ∀ x ∈ m', x.core = m.core ∧ (x.WasSent → m.WasSent))
    (hlog : log ⊆ log') (h : AllTransmitted log (done ++ m :: rest)) :
    AllTransmitted log' (done ++ m'.toList ++ rest) := by
  intro x hx hsent
  have hx' : x ∈ done ∨ x ∈ m' ∨ x ∈ rest := by simpa using hx
  rcases hx' with hx | hx | hx
  · exact (h x (by simp [hx]) hsent).mono hlog
  · obtain ⟨hcore, hback⟩ := hm' x hx
    exact ((h m (by simp) (hback hsent)).of_core hcore).mono hlog
  · exact (h x (by simp [hx]) hsent).mono hlog

theorem wasSent_congr {x : TxMsg} (hstatus : x.status = m.status) (htime : x.sendTime = m.sendTime)
    (h : x.WasSent) : m.WasSent := by
  rwa [WasSent, hstatus, htime] at h

theorem wasSent_of_idle {x : TxMsg} (hidle : x.status = .readyToClear ∨ x.status = .readyToSendNoFC)
    (htime : x.sendTime = m.sendTime) (h : x.WasSent) : m.WasSent := by
  left
  rw [← htime]
  apply h.resolve_right
  rcases hidle with hstatus | hstatus <;> simp [hstatus]

theorem wasSent_of_clear (h : WasSent { m with status := .readyToClear }) : m.WasSent :=
  wasSent_of_idle (x := { m with status := .readyToClear }) (Or.inl rfl) rfl h

theorem log_giveUp (sh : Shared) (m : TxMsg) : sh.log ⊆ (sh.giveUp m).1.log := by
  intro e he
  apply mem_cons_of_mem
  rw [log_release]
  exact he

theorem transmitted_timeoutVisit (sh : Shared) (m : TxMsg) : sh.log ⊆ (timeoutVisit sh m).1.log ∧
      ∀ x ∈ (timeoutVisit sh m).2, x.core = m.core ∧ (x.WasSent → m.WasSent) := by
  obtain ⟨m', hvisit, hlog, hm'⟩ := timeoutVisit_rule
    (P := fun sh' m' => sh.log ⊆ sh'.log ∧ m'.core = m.core ∧ (m'.WasSent → m.WasSent))
    (fun _ _ _ hsame h => ⟨h.1, hsame.core.trans h.2.1,
      fun hsent => h.2.2 (wasSent_congr hsame.status hsame.sendTime hsent)⟩)
    (fun sh' m' _ h => ⟨fun e he => log_giveUp sh' m' (h.1 he), h.2.1,
      fun hsent => h.2.2 (wasSent_of_clear hsent)⟩)
    (fun _ _ h => by simpa using h)
    (fun _ _ _ _ hre h => ⟨h.1, hre.core.trans h.2.1,
      fun hsent => h.2.2 (wasSent_of_idle (Or.inr hre.status) hre.sendTime hsent)⟩)
    ⟨Subset.refl sh.log, rfl, fun hsent => hsent⟩
  refine ⟨hlog, ?_⟩
  rw [hvisit]
  rintro x ⟨⟩
  exact hm'

theorem AllTransmitted.searchVisit {tvNow : TimeVal} {sh : Shared} {best : Option ApduIdtfTx}
    (h : AllTransmitted sh.log (done ++ m :: rest)) : AllTransmitted (searchVisit tvNow (sh, best) m).1.1.log
      (done ++ (searchVisit tvNow (sh, best) m).2.toList ++ rest) := by
  rcases searchVisit_cases tvNow sh best m with ⟨_, _, heq⟩ | ⟨best', heq⟩ | ⟨best', _, heq⟩
  · rw [heq]
    exact h.visit (by rintro x ⟨⟩) (subset_cons_self _ _)
  · rw [heq]
    simpa using h
  · rw [heq]
    simpa using h

theorem AllTransmitted.responseVisit {now : UInt32} {key : ResponseKey} {sh : Shared}
    {found : Option TxMsg} (h : AllTransmitted sh.log (done ++ m :: rest)) :
    AllTransmitted (responseVisit now key (sh, found) m).1.1.log
      (done ++ (responseVisit now key (sh, found) m).2.toList ++ rest) := by
  rcases responseVisit_cases now key sh found m with heq | ⟨_, _, heq⟩
  · rw [heq]
    simpa using h
  · rw [heq]
    apply h.visit _ (subset_cons_self _ _)
    rintro x ⟨⟩
    exact ⟨rfl, wasSent_of_clear⟩

theorem AllTransmitted.confirmQueue {queue : List TxMsg} {conf : ApduConfirm}
    (h : AllTransmitted log queue) : AllTransmitted log (confirmQueue queue conf) := by
  intro x hx hsent
  obtain ⟨m, hm, hx⟩ := mem_filterMap.1 hx
  rcases confirmMsg_cases conf m with heq | ⟨hawaits, hcase⟩
  · rw [heq] at hx
    have hmx := Option.some.inj hx
    rw [← hmx] at hsent ⊢
    exact h m hm hsent
  have hm_sent : m.WasSent := by
    rcases hawaits.1 with hstatus | hstatus <;> simp [WasSent, hstatus]
  exact (h m hm hm_sent).of_core (core_confirmMsg conf m x hx)

theorem transmitted_concatVisit {id : UInt16} {room : Int} {handle : UInt8} {now : UInt32}
    {c : Contract} {out : List UInt8}
    (h : ∀ x ∈ done ++ m :: rest, x.WasSent → Transmitted log x ∨ x.contractId = id ∧ x.txApduData <:+: out) :
    ∀ x ∈ done ++ (concatVisit id room handle now (c, out) m).2.toList ++ rest, x.WasSent →
      Transmitted log x ∨ x.contractId = id ∧
        x.txApduData <:+: (concatVisit id room handle now (c, out) m).1.2 := by
  have hgrow : ∀ data : List UInt8, ∀ x ∈ done ++ m :: rest, x.WasSent →
      Transmitted log x ∨ x.contractId = id ∧ x.txApduData <:+: out ++ data := by
    intro data x hx hsent
    rcases h x hx hsent with htx | ⟨hid, hinfix⟩
    · exact Or.inl htx
    · exact Or.inr ⟨hid, hinfix.trans (prefix_append _ _).isInfix⟩
  rcases concatVisit_cases id room handle now c out m with heq | ⟨_, hid, hcase⟩
  · rw [heq]
    simpa using h
  rcases hcase with ⟨_, _, _, heq⟩ | ⟨_, _, _, heq⟩ | ⟨_, _, heq⟩ | ⟨_, _, heq⟩
  · rw [heq]
    simpa using h
  · rw [heq]
    intro x hx hsent
    have hx' : x ∈ done ∨ x = { m with inSlidingWindow := true }.sent handle now ∨ x ∈ rest := by
      simpa using hx
    rcases hx' with hx | rfl | hx
    · exact hgrow _ x (by simp [hx]) hsent
    · exact Or.inr ⟨hid.symm, (suffix_append _ _).isInfix⟩
    · exact hgrow _ x (by simp [hx]) hsent
  · rw [heq]
    intro x hx hsent
    have hx' : x ∈ done ∨ x = m.sent handle now ∨ x ∈ rest := by simpa using hx
    rcases hx' with hx | rfl | hx
    · exact hgrow _ x (by simp [hx]) hsent
    · exact Or.inr ⟨hid.symm, (suffix_append _ _).isInfix⟩
    · exact hgrow _ x (by simp [hx]) hsent
  · rw [heq]
    intro x hx hsent
    have hx' : x ∈ done ∨ x = { m with status := .readyToClear } ∨ x ∈ rest := by simpa using hx
    rcases hx' with hx | rfl | hx
    · exact h x (by simp [hx]) hsent
    · exact h m (by simp) (wasSent_of_clear hsent)
    · exact h x (by simp [hx]) hsent

end Transmission

section

variable (h : AllTransmitted st.shared.log st.queue)
include h

theorem allTransmitted_sendConcatenated {idtf : ApduIdtfTx} {c : Contract} :
    AllTransmitted (sendConcatenated tvNow now idtf c st).shared.log
      (sendConcatenated tvNow now idtf c st).queue := by
  have hwalk : ∀ x ∈ (concatenateAPDUs idtf.contractId st.handle now c st.queue).2, x.WasSent →
      Transmitted st.shared.log x ∨ x.contractId = idtf.contractId ∧
        x.txApduData <:+: (concatenateAPDUs idtf.contractId st.handle now c st.queue).1.2 := by
    apply pass_invariant_all (s := (c, []))
      (P := fun (s : Contract × List UInt8) queue => ∀ x ∈ queue, x.WasSent →
        Transmitted st.shared.log x ∨ x.contractId = idtf.contractId ∧ x.txApduData <:+: s.2)
    · exact fun x hx hsent => Or.inl (h x hx hsent)
    · rintro ⟨c', out⟩ done m rest h
      exact transmitted_concatVisit h
  intro x hx hsent
  rcases hwalk x hx hsent with htx | ⟨hid, hinfix⟩
  · exact htx.mono (subset_cons_self _ _)
  · refine ⟨idtf.priorityAndFlags, _, st.handle, idtf.srcTSAPID, idtf.dstTSAPID,
      idtf.allowEncryption, ?_, hinfix⟩
    rw [hid]
    exact mem_cons_self

theorem allTransmitted_aslTask : AllTransmitted (aslTask tvNow now st).shared.log (aslTask tvNow now st).queue := by
  have hconfirms : AllTransmitted st.shared.log (checkTLConfirms st).queue :=
    run_invariant (P := AllTransmitted st.shared.log) (fun _ _ h _ => h.confirmQueue) h
      (along_true st.queue st.conf)
  have hsearch : AllTransmitted (searchStep tvNow (checkTLConfirms st)).1.shared.log
      (searchStep tvNow (checkTLConfirms st)).1.queue := by
    apply pass_invariant_all (s := ((checkTLConfirms st).shared, none))
      (P := fun (s : Shared × Option ApduIdtfTx) queue => AllTransmitted s.1.log queue) _ hconfirms
    rintro ⟨sh, best⟩ _ _ _ h
    exact h.searchVisit
  exact flushAPDUBuffer_rule (P := fun st => AllTransmitted st.shared.log st.queue) hsearch fun _ _ _ _ =>
    allTransmitted_sendConcatenated hsearch

theorem allTransmitted_performOneSecondOperations : AllTransmitted (performOneSecondOperations st).shared.log
      (performOneSecondOperations st).queue := by
  have htimeouts := pass_invariant_all
    (P := fun (sh : Shared) queue => AllTransmitted sh.log queue)
    (fun sh _ m _ h => h.visit (transmitted_timeoutVisit sh m).2 (transmitted_timeoutVisit sh m).1) h
  intro x hx hsent
  exact htimeouts x (mem_of_mem_filter hx) hsent

theorem allTransmitted_addGenericObject {cfg : RetrySettings} {req : AddRequest} :
    AllTransmitted (addGenericObject cfg req st).2.shared.log
      (addGenericObject cfg req st).2.queue := by
  rcases addGenericObject_cases cfg req st with heq | ⟨c, _, heq | ⟨apdu, _, heq⟩⟩
  · rw [heq]
    exact h
  · rw [heq]
    exact h
  · rw [heq]
    intro x hx hsent
    rcases mem_append.1 hx with hx | hx
    · exact (h x hx hsent).mono (subset_cons_self _ _)
    · obtain rfl : x = newTxMsg cfg req c st.nextUid apdu := by simpa using hx
      have hunsent : ¬ (newTxMsg cfg req c st.nextUid apdu).WasSent := by
        by_cases hflow : req.obj.flowControlled = true ∧ req.noRspExpected = 0 <;>
          simp [WasSent, newTxMsg, hflow]
      exact absurd hsent hunsent

end

theorem AllTransmitted.sameQueue {st st' : AslState} (hsame : st.SameQueue st')
    (h : AllTransmitted st.shared.log st.queue) : AllTransmitted st'.shared.log st'.queue := by
  rw [hsame.log, hsame.queue]
  exact h

theorem allTransmitted_aslStep (a : AslAction) (h : AllTransmitted st.shared.log st.queue) :
    AllTransmitted (aslStep st a).shared.log (aslStep st a).queue := by
  cases a with
  | addGenericObject cfg req => exact allTransmitted_addGenericObject h
  | aslTask tvNow now => exact allTransmitted_aslTask h
  | dataConfirm conf =>
    obtain ⟨confs, heq⟩ := dataConfirm_eq st conf
    change AllTransmitted (dataConfirm st conf).shared.log (dataConfirm st conf).queue
    rw [heq]
    exact h
  | response now key =>
    apply pass_invariant_all (s := (st.shared, none))
      (P := fun (s : Shared × Option TxMsg) queue => AllTransmitted s.1.log queue) _ h
    rintro ⟨sh, found⟩ _ _ _ h
    exact h.responseVisit
  | oneSecond => exact allTransmitted_performOneSecondOperations h
  | setContract ownAddress random req => exact h.sameQueue (sameQueue_setContract _ _ _ st)
  | addDmoContract random unset dmo => exact h.sameQueue (sameQueue_addDmoContract _ _ _ st)
  | deleteContract id => exact h

theorem Issued.apart {contracts : Contracts} {queue : List TxMsg} (h : Issued contracts nextSerial queue) :
    queue.Pairwise fun a b => a.SameContract b → contracts.lock a ≠ none → a.reqID = b.reqID →
      ∀ k ∈ a.issueNo, ∀ k' ∈ b.issueNo, ∃ n, 0 < n ∧ k' = k + 256 * n := by
  apply h.ordered.imp_of_mem
  intro a b ha hb hordered hsame hlive hreq k hk k' hk'
  obtain ⟨c, hc⟩ := Option.ne_none_iff_exists'.1 hlive
  have hc' : contracts.lock b = some c := by
    obtain ⟨hrow, hserial⟩ := lock_eq_some.1 hc
    exact lock_eq_some.2 ⟨hsame.1 ▸ hrow, hserial.trans hsame.2⟩
  -- both ids count back from the counter of the one contract
  obtain ⟨hlt, hreqID⟩ := h.behind a ha k hk c hc
  obtain ⟨hlt', hreqID'⟩ := h.behind b hb k' hk' c hc'
  have hkk := hordered hsame k hk k' hk'
  rw [hreq] at hreqID
  have hofNat : UInt8.ofNat (c.issued - k) = UInt8.ofNat (c.issued - k') :=
    (UInt8.add_right_inj b.reqID).1 (hreqID.symm.trans hreqID')
  have hmod := congrArg UInt8.toNat hofNat
  rw [UInt8.toNat_ofNat', UInt8.toNat_ofNat'] at hmod
  refine ⟨(k' - k) / 256, ?_, ?_⟩
  · omega
  · omega

structure Correlated (st : AslState) : Prop where
  /-- The returned entry is the oldest queued request that answers the response on a live contract to the responder; it is cleared, and it was transmitted on that contract if it was sent at all. -/
  found : ∀ now key m, (searchOriginalRequest now key st).1 = some m →
    ∃ older younger c, st.queue = older ++ m :: younger ∧ (searchOriginalRequest now key st).2.queue =
        older ++ { m with status := .readyToClear } :: younger ∧
      m.answers key ∧ m.status ≠ .readyToClear ∧ st.shared.contracts.lock m = some c ∧
      c.destAddress = key.idtf.addr ∧ (m.WasSent → Transmitted st.shared.log m) ∧
      ∀ x ∈ older, ¬ x.IsOriginalRequest st.shared.contracts key
  /-- Two queued requests of one live contract with one request id are at least 256 requests apart. -/
  apart : st.queue.Pairwise fun a b => a.SameContract b → st.shared.contracts.lock a ≠ none →
    a.reqID = b.reqID → ∀ k ∈ a.issueNo, ∀ k' ∈ b.issueNo, ∃ n, 0 < n ∧ k' = k + 256 * n

/-- In every reached state a response gets the oldest entry that answers it, and the ids of one contract come round only after 256 requests. -/
theorem correlated_of_reachable {st : AslState}
    (h : Reachable AslState.init aslStep (fun _ _ => True) st) : Correlated st where
  found now key m hfound := by
    rcases pass_responseVisit now key st.shared st.queue with
      ⟨_, hpass⟩ | ⟨older, m', younger, sh', hqueue, holder, horiginal, hpass⟩
    · simp [searchOriginalRequest, hpass] at hfound
    · obtain rfl : m' = m := by simpa [searchOriginalRequest, hpass] using hfound
      obtain ⟨hanswers, hclear, c, hc, haddr⟩ := horiginal
      have hsent : m'.WasSent → Transmitted st.shared.log m' :=
        h.invariant (P := fun st => AllTransmitted st.shared.log st.queue)
          (fun x hx => by simp [AslState.init] at hx)
          (fun st a h _ => allTransmitted_aslStep a h) m' (by simp [hqueue])
      refine ⟨older, younger, c, hqueue, ?_, hanswers, hclear, hc, haddr, hsent, holder⟩
      simp [searchOriginalRequest, hpass]
  apart := (issued_of_reachable h).apart

end Isa100Gateway
