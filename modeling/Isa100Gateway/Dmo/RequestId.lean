import Isa100Gateway.Dmo.ContractRequest
import Isa100Gateway.Lib.Census

/-!
# Request ids

What `DMO_IsPendingContractRequest` finds: the first request that its caller asks about, or an id that no entry of the pending map uses as long as there is one.
-/

namespace Isa100Gateway

open Census List

theorem mem_requestIds (id : UInt8) : id ∈ requestIds :=
  mem_map.mpr ⟨id.toNat, mem_range.mpr id.toNat_lt, UInt8.ofNat_toNat⟩

theorem ofNat_inj {a b : Nat} (ha : a < 256) (hb : b < 256) (h : UInt8.ofNat a = UInt8.ofNat b) : a = b := by
  have := congrArg UInt8.toNat h
  rwa [UInt8.toNat_ofNat_of_lt' ha, UInt8.toNat_ofNat_of_lt' hb] at this

theorem nodup_requestIds : requestIds.Nodup := by
  apply Nodup.map_on _ nodup_range
  intro a ha b hb h
  exact ofNat_inj (mem_range.mp ha) (mem_range.mp hb) h

variable {st : DmoState}

theorem mem_pendingEntries {id : UInt8} {c : DmoContractAttribute} :
    (id, c) ∈ st.pendingEntries ↔ st.pendingContractRspMap id = some c := by
  unfold DmoState.pendingEntries
  rw [mem_filterMap]
  constructor
  · rintro ⟨id', -, h⟩
    obtain ⟨c', hc', heq⟩ := Option.map_eq_some_iff.mp h
    cases heq
    exact hc'
  · intro h
    exact ⟨id, mem_requestIds id, by rw [h]; rfl⟩

@[simp] theorem pendingContractRspMap_setPending (st : DmoState) (id : UInt8)
    (c : Option DmoContractAttribute) : (st.setPending id c).pendingContractRspMap =
      Function.update st.pendingContractRspMap id c := rfl

structure DmoContractAttribute.RequestAt (c : DmoContractAttribute) (id : UInt8) : Prop where
  contractID : c.contractID = id.toUInt16
  serviceType : c.serviceType ≠ anyServiceType
  status : c.contractStatus = contractPendingNoKey ∨ c.contractStatus = contractPending ∨
    c.contractStatus = contractPendingFailed

def DmoState.Filed (st : DmoState) : Prop :=
  ∀ id c, st.pendingContractRspMap id = some c → c.RequestAt id

theorem DmoState.Filed.update {st st' : DmoState} (h : st.Filed) {id : UInt8}
    {c : Option DmoContractAttribute} (hc : ∀ c', c = some c' → c'.RequestAt id)
    (hmap : st'.pendingContractRspMap = Function.update st.pendingContractRspMap id c) : st'.Filed := by
  intro id' c' hfind
  rw [hmap] at hfind
  by_cases heq : id' = id
  · subst heq
    rw [Function.update_self] at hfind
    exact hc c' hfind
  · rw [Function.update_of_ne heq] at hfind
    exact h id' c' hfind

theorem loop_eq (q : PendingQuery) (contractReqID : UInt8) (s : IdSearch)
    (entries : List (UInt8 × DmoContractAttribute)) :
    q.loop contractReqID s entries =
      match entries.findSome? q.answer with
      | some answer => .inr answer
      | none => .inl (entries.foldl (fun s e => s.visit contractReqID e.2) s) := by
  induction entries generalizing s with
  | nil => rfl
  | cons e entries ih =>
    unfold PendingQuery.loop
    cases h : q.answer e with
    | some answer => simp [h]
    | none =>
      simp only [findSome?_cons, h, foldl_cons]
      exact ih _

theorem isPendingContractRequest_key (h : st.Filed) (rand : UInt8) (endpoints : ContractEndpoints) :
    isPendingContractRequest rand (keyQuery endpoints) st =
      some (⟨st.pendingEntries.find? fun e =>
        decide (e.2.endpoints = endpoints ∧ e.2.contractStatus = contractPendingNoKey), none⟩, st) := by
  have hanswer : ∀ e ∈ st.pendingEntries, (keyQuery endpoints).answer e =
      if decide (e.2.endpoints = endpoints ∧ e.2.contractStatus = contractPendingNoKey) = true then
        some ⟨some e, none⟩ else none := by
    rintro ⟨id, c⟩ he
    have hservice := (h id c (mem_pendingEntries.mp he)).serviceType
    unfold PendingQuery.answer keyQuery
    by_cases hend : endpoints = c.endpoints
    · by_cases hstatus : c.contractStatus = contractPendingNoKey
      · simp [hend, hstatus]
      · simp [hend, hstatus, Ne.symm hstatus, Ne.symm hservice]
    · simp [hend, Ne.symm hend]
  unfold isPendingContractRequest
  rw [loop_eq, findSome?_eq_find? hanswer]
  cases st.pendingEntries.find? fun e =>
      decide (e.2.endpoints = endpoints ∧ e.2.contractStatus = contractPendingNoKey) with
  | some e => rfl
  | none => rfl

def DmoContractAttribute.Waiting (c : DmoContractAttribute) : Bool :=
  c.contractStatus != contractPendingFailed

def DmoState.findRequest (st : DmoState) (endpoints : ContractEndpoints) (srvcType : UInt8) :
    Option (UInt8 × DmoContractAttribute) :=
  st.pendingEntries.find? fun e =>
    decide (e.2.endpoints = endpoints ∧ e.2.serviceType = srvcType)

variable {args : NewContractArgs}

theorem answer_query (h : st.Filed) (hservice : args.srvcType ≠ anyServiceType) {e : UInt8 × DmoContractAttribute}
    (he : e ∈ st.pendingEntries) : args.query.answer e =
      if decide (e.2.endpoints = args.endpoints ∧ e.2.serviceType = args.srvcType) = true then
        some ⟨if e.2.Waiting then some e else none, some e.1⟩
      else none := by
  obtain ⟨id, c⟩ := e
  obtain ⟨hid, -, hstatus⟩ := h id c (mem_pendingEntries.mp he)
  have hback : c.contractID.toUInt8 = id := by rw [hid, UInt8.toUInt8_toUInt16]
  unfold PendingQuery.answer NewContractArgs.query DmoContractAttribute.Waiting
  by_cases hend : args.endpoints = c.endpoints
  · by_cases hsrvc : args.srvcType = c.serviceType
    · obtain hst | hst | hst := hstatus
      · simp [hend, hsrvc, hst, hback, hsrvc ▸ hservice, contractPendingNoKey, contractPendingFailed]
      · simp [hend, hsrvc, hst, hback, hsrvc ▸ hservice, contractPending, contractPendingFailed]
      · simp [hend, hsrvc, hst, hback, hsrvc ▸ hservice, contractPendingFailed, contractPendingNoKey, contractPending]
    · simp [hend, hsrvc, Ne.symm hsrvc, hservice]
  · simp [hend, Ne.symm hend]

def DmoState.idSearch (st : DmoState) (rand : UInt8) (n : Nat) : IdSearch :=
  (((range n).map UInt8.ofNat).filterMap fun id =>
    (st.pendingContractRspMap id).map fun c => (id, c)).foldl
      (fun (s : IdSearch) (e : UInt8 × DmoContractAttribute) => s.visit st.contractReqID e.2)
      (IdSearch.start st.contractReqID rand)

theorem isPendingContractRequest_query (h : st.Filed) (rand : UInt8) (hservice : args.srvcType ≠ anyServiceType) :
    isPendingContractRequest rand args.query st =
      match st.findRequest args.endpoints args.srvcType with
      | some e => some (⟨if e.2.Waiting then some e else none, some e.1⟩, st)
      | none => (newRequestId (st.idSearch rand 256) st).map fun r => (⟨none, some r.1⟩, r.2) := by
  have hnot : ¬ (args.query.wantsRequestId = false ∨ args.query.serviceType = anyServiceType) := by
    rintro (hwants | hany)
    · cases hwants
    · exact hservice hany
  unfold isPendingContractRequest DmoState.findRequest
  rw [loop_eq, findSome?_eq_find? fun e he => answer_query h hservice he]
  cases st.pendingEntries.find? fun e =>
      decide (e.2.endpoints = args.endpoints ∧ e.2.serviceType = args.srvcType) with
  | some e => rfl
  | none => exact if_neg hnot

def DmoState.taken (st : DmoState) (n : Nat) : Bool :=
  (st.pendingContractRspMap (UInt8.ofNat n)).isSome

theorem visitReclaimable_free (contractReqID : UInt8) (s : IdSearch) (c : DmoContractAttribute) :
    (s.visitReclaimable contractReqID c).tentativeReqID = s.tentativeReqID ∧
      (s.visitReclaimable contractReqID c).tentativeReqIDWrapped = s.tentativeReqIDWrapped := by
  unfold IdSearch.visitReclaimable
  grind

theorem ofNat_add_one (n : Nat) : UInt8.ofNat (n + 1) = UInt8.ofNat n + 1 := by
  rw [UInt8.ofNat_add]
  rfl

/-- The two cursors of the loop over the ids below `n`, as `Census.skip` on numbers. -/
structure IdSearch.Skips (s : IdSearch) (st : DmoState) (n : Nat) : Prop where
  tentative : s.tentativeReqID = UInt8.ofNat ((range n).foldl (skip st.taken) st.contractReqID.toNat)
  wrapped : s.tentativeReqIDWrapped = UInt8.ofNat ((range n).foldl
    (skip fun k => st.taken k && decide (k < st.contractReqID.toNat)) 0)

theorem idSearch_succ (st : DmoState) (rand : UInt8) (n : Nat) : st.idSearch rand (n + 1) =
      match st.pendingContractRspMap (UInt8.ofNat n) with
      | none => st.idSearch rand n
      | some c => (st.idSearch rand n).visit st.contractReqID c := by
  unfold DmoState.idSearch
  rw [range_succ, map_append, filterMap_append, foldl_append]
  cases h : st.pendingContractRspMap (UInt8.ofNat n) with
  | none => simp [h]
  | some c => simp [h]

theorem foldl_skip_succ (taken : Nat → Bool) (s n : Nat) : (range (n + 1)).foldl (skip taken) s =
      skip taken ((range n).foldl (skip taken) s) n := by
  rw [range_succ, foldl_append]
  rfl

/-- One visit moves a cursor as `Census.skip` does, as long as it has not wrapped. -/
theorem ofNat_skip {taken : Nat → Bool} {t n : Nat} (ht : t < 256) (hn : n < 256) (htaken : taken n = true) :
    UInt8.ofNat (skip taken t n) =
      if (UInt8.ofNat t).toUInt16 = (UInt8.ofNat n).toUInt16 then UInt8.ofNat t + 1
      else UInt8.ofNat t := by
  unfold skip
  by_cases heq : t = n
  · rw [if_pos ⟨htaken, heq⟩, if_pos (by rw [heq]), ofNat_add_one]
  · rw [if_neg (fun h => heq h.2), if_neg]
    intro h
    exact heq (ofNat_inj ht hn (UInt8.toUInt16_inj.mp h))

theorem ofNat_skip_low {taken : Nat → Bool} {counter : UInt8} {w n : Nat} (hw : w < 256)
    (hn : n < 256) (htaken : taken n = true) :
    UInt8.ofNat (skip (fun k => taken k && decide (k < counter.toNat)) w n) =
      if (UInt8.ofNat w).toUInt16 = (UInt8.ofNat n).toUInt16 ∧ UInt8.ofNat w < counter then
        UInt8.ofNat w + 1
      else UInt8.ofNat w := by
  have hless : UInt8.ofNat w < counter ↔ w < counter.toNat := by
    rw [UInt8.lt_iff_toNat_lt, UInt8.toNat_ofNat_of_lt' hw]
  simp only [hless]
  by_cases hlow : n < counter.toNat
  · rw [ofNat_skip hw hn (by simp [htaken, hlow])]
    by_cases hmeet : (UInt8.ofNat w).toUInt16 = (UInt8.ofNat n).toUInt16
    · have heq : w = n := ofNat_inj hw hn (UInt8.toUInt16_inj.mp hmeet)
      rw [if_pos hmeet, if_pos ⟨hmeet, by omega⟩]
    · rw [if_neg hmeet, if_neg (fun h => hmeet h.1)]
  · have hstay : skip (fun k => taken k && decide (k < counter.toNat)) w n = w :=
      if_neg (by simp [hlow])
    rw [hstay, if_neg]
    rintro ⟨hmeet, hlt⟩
    exact hlow (ofNat_inj hw hn (UInt8.toUInt16_inj.mp hmeet) ▸ hlt)

theorem idSearch_skips (h : st.Filed) (rand : UInt8) : ∀ n ≤ 256, (st.idSearch rand n).Skips st n := by
  intro n
  induction n with
  | zero =>
    intro _
    exact ⟨(UInt8.ofNat_toNat).symm, rfl⟩
  | succ n ih =>
    intro hn
    obtain ⟨htentative, hwrapped⟩ := ih (by omega)
    have hbound := st.contractReqID.toNat_lt
    obtain ⟨-, hle, -, -⟩ := foldl_skip st.taken st.contractReqID.toNat n
    obtain ⟨-, hle', -, -⟩ :=
      foldl_skip (fun k => st.taken k && decide (k < st.contractReqID.toNat)) 0 n
    rw [idSearch_succ]
    cases hfind : st.pendingContractRspMap (UInt8.ofNat n) with
    | none =>
      have hfree : st.taken n = false := by simp [DmoState.taken, hfind]
      constructor
      · rw [foldl_skip_succ, skip, if_neg (by simp [hfree])]
        exact htentative
      · rw [foldl_skip_succ, skip, if_neg (by simp [hfree])]
        exact hwrapped
    | some c =>
      have htaken : st.taken n = true := by simp [DmoState.taken, hfind]
      have hid := (h _ c hfind).contractID
      obtain ⟨hsame, hsame'⟩ := visitReclaimable_free st.contractReqID
        ((st.idSearch rand n).visitFree st.contractReqID c) c
      constructor
      · rw [foldl_skip_succ, ofNat_skip (by omega) (by omega) htaken, ← htentative, ← hid]
        exact hsame
      · rw [foldl_skip_succ, ofNat_skip_low (by omega) (by omega) htaken, ← hwrapped, ← hid]
        exact hsame'

theorem newRequestId_free (h : st.Filed) (rand : UInt8) (hfree : ∃ id, st.pendingContractRspMap id = none) :
    ∃ id, newRequestId (st.idSearch rand 256) st = some (id, { st with contractReqID := id + 1 }) ∧
      st.pendingContractRspMap id = none := by
  obtain ⟨htentative, hwrapped⟩ := idSearch_skips h rand 256 le_rfl
  have hbound := st.contractReqID.toNat_lt
  obtain ⟨hge, hle, hpassed, hstop⟩ := foldl_skip st.taken st.contractReqID.toNat 256
  obtain ⟨-, hle', hpassed', hstop'⟩ :=
    foldl_skip (fun k => st.taken k && decide (k < st.contractReqID.toNat)) 0 256
  generalize (range 256).foldl (skip st.taken) st.contractReqID.toNat = t at *
  generalize (range 256).foldl
    (skip fun k => st.taken k && decide (k < st.contractReqID.toNat)) 0 = w at *
  have hnone : ∀ n, st.taken n = false → st.pendingContractRspMap (UInt8.ofNat n) = none := by
    intro n htaken
    simpa [DmoState.taken] using htaken
  unfold newRequestId
  rw [htentative, hwrapped]
  by_cases ht : t < 256
  · have hreach : UInt8.ofNat t ≥ st.contractReqID := by
      rw [ge_iff_le, UInt8.le_iff_toNat_le, UInt8.toNat_ofNat_of_lt' ht]
      exact hge
    rw [if_pos hreach]
    exact ⟨_, rfl, hnone t (hstop ht)⟩
  · -- every id from the counter on is taken, so a free one lies below it
    have hend : t = 256 := by omega
    subst hend
    obtain ⟨id, hid⟩ := hfree
    have hidfree : st.taken id.toNat = false := by simp [DmoState.taken, hid]
    have hidlow : id.toNat < st.contractReqID.toNat := by
      by_contra hhigh
      rw [hpassed id.toNat (not_lt.mp hhigh) id.toNat_lt] at hidfree
      cases hidfree
    have hpos : ¬ UInt8.ofNat 256 ≥ st.contractReqID := by
      rw [ge_iff_le, UInt8.le_iff_toNat_le]
      change ¬ st.contractReqID.toNat ≤ 0
      omega
    have hwle : w ≤ id.toNat := by
      by_contra hover
      have := hpassed' id.toNat (Nat.zero_le _) (not_le.mp hover)
      simp [hidfree] at this
    have hw : w < 256 := by omega
    have hless : UInt8.ofNat w < st.contractReqID := by
      rw [UInt8.lt_iff_toNat_lt, UInt8.toNat_ofNat_of_lt' hw]
      omega
    rw [if_neg hpos, if_pos hless]
    refine ⟨_, rfl, hnone w ?_⟩
    have hlow : w < st.contractReqID.toNat := by omega
    simpa [hlow] using hstop' hw

end Isa100Gateway
