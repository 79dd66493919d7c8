import Isa100Gateway.Asl.QueueFacts

/-!
# Invariants of the contracts

A property of a single contract that the operations on contracts keep holds of every contract of the table after every step of the transmit machinery.
-/

namespace Isa100Gateway

open Machine

def AllContracts (P : Contract → Prop) (contracts : Contracts) : Prop :=
  ∀ id c, contracts.lookup id = some c → P c

structure ContractRule (P : Contract → Prop) : Prop where
  allowsTX : ∀ c, P c → P (slidingWindowAllowsTX c).2
  increaseUsage : ∀ c, P c → P (slidingWindowIncreaseUsage c).2
  packetSent : ∀ tvNow c, P c → P (c.packetSent tvNow)
  takeReqID : ∀ c, P c → P c.takeReqID
  setContract : ∀ (req : SetContractReq) serial issued reqID, P (req.contract serial issued reqID)
  updated : ∀ (dmo : DmoContract) c, P c → P (dmo.updated c)
  addDmoContract : ∀ (dmo : DmoContract) random unset serial, P (dmo.contract random unset serial)

variable {P : Contract → Prop}

section Table

variable {contracts : Contracts} {id : UInt16} {c : Contract}

theorem AllContracts.insert (hc : P c) (h : AllContracts P contracts) : AllContracts P (contracts.insert id c) := by
  intro id' c' hc'
  rw [Table.lookup_insert] at hc'
  by_cases hid : id' = id
  · rw [if_pos hid] at hc'
    cases hc'
    exact hc
  · rw [if_neg hid] at hc'
    exact h id' c' hc'

theorem AllContracts.erase (h : AllContracts P contracts) : AllContracts P (contracts.erase id) := by
  intro id' c hc
  rw [Table.lookup_erase] at hc
  by_cases hid : id' = id
  · rw [if_pos hid] at hc
    cases hc
  · rw [if_neg hid] at hc
    exact h id' c hc

theorem AllContracts.onContract {sh : Shared} {m : TxMsg} {f : Contract → Contract}
    (hf : ∀ c, sh.contracts.lock m = some c → P c → P (f c)) (h : AllContracts P sh.contracts) :
    AllContracts P (sh.onContract m f).contracts := by
  intro id c' hc'
  rw [lookup_onContract] at hc'
  obtain ⟨c, hc, rfl⟩ := Option.map_eq_some_iff.1 hc'
  by_cases hown : id = m.contractId ∧ c.serial = m.weakContract
  · rw [if_pos hown]
    exact hf c (lock_eq_some.2 ⟨hown.1 ▸ hc, hown.2⟩) (h id c hc)
  · rw [if_neg hown]
    exact h id c hc

theorem AllContracts.release {sh : Shared} {m : TxMsg} (hresponse : ∀ c, P c → P (receiveResponseForSlidingWindow c))
    (h : AllContracts P sh.contracts) : AllContracts P (sh.release m).contracts := by
  unfold Shared.release
  by_cases hmarked : m.inSlidingWindow = true
  · rw [if_pos hmarked]
    exact h.onContract fun c _ hc => hresponse c hc
  · rw [if_neg hmarked]
    exact h

end Table

section SendTask

variable {tvNow : TimeVal} {now : UInt32} {st : AslState}

theorem ContractRule.searchVisit (hP : ContractRule P) {sh : Shared} {best : Option ApduIdtfTx}
    {m : TxMsg} (h : AllContracts P sh.contracts) :
    AllContracts P (searchVisit tvNow (sh, best) m).1.1.contracts := by
  rcases searchVisit_cases tvNow sh best m with ⟨_, _, heq⟩ | ⟨best', heq⟩ | ⟨best', _, heq⟩
  · rw [heq]
    exact h
  · rw [heq]
    exact h
  · rw [heq]
    exact h.onContract fun c _ hc => hP.allowsTX c hc

theorem ContractRule.concatVisit (hP : ContractRule P) {id : UInt16} {room : Int} {handle : UInt8}
    {c : Contract} {out : List UInt8} {m : TxMsg} (h : P c) : P (concatVisit id room handle now (c, out) m).1.1 := by
  rcases concatVisit_cases id room handle now c out m with heq | ⟨_, _, hcase⟩
  · rw [heq]
    exact h
  rcases hcase with ⟨_, _, _, heq⟩ | ⟨_, _, _, heq⟩ | ⟨_, _, heq⟩ | ⟨_, _, heq⟩
  · rw [heq]
    exact hP.increaseUsage c h
  · rw [heq]
    exact hP.increaseUsage c h
  · rw [heq]
    exact h
  · rw [heq]
    exact h

theorem ContractRule.sendConcatenated (hP : ContractRule P) {idtf : ApduIdtfTx} {c : Contract}
    (hlook : st.shared.contracts.lookup idtf.contractId = some c) (h : AllContracts P st.shared.contracts) :
    AllContracts P (sendConcatenated tvNow now idtf c st).shared.contracts := by
  have hwalk : P (concatenateAPDUs idtf.contractId st.handle now c st.queue).1.1 :=
    pass_invariant_all (P := fun (s : Contract × List UInt8) (_ : List TxMsg) => P s.1)
      (fun _ _ _ _ hc => hP.concatVisit hc) (s := (c, [])) (h _ c hlook)
  exact h.insert (hP.packetSent tvNow _ hwalk)

theorem ContractRule.searchStep (hP : ContractRule P) (h : AllContracts P st.shared.contracts) :
    AllContracts P (searchStep tvNow st).1.shared.contracts := by
  apply pass_invariant_all (s := (st.shared, none))
    (P := fun (s : Shared × Option ApduIdtfTx) (_ : List TxMsg) => AllContracts P s.1.contracts) _ h
  rintro ⟨sh, best⟩ _ _ _ h
  exact hP.searchVisit h

theorem ContractRule.aslTask (hP : ContractRule P) (h : AllContracts P st.shared.contracts) :
    AllContracts P (aslTask tvNow now st).shared.contracts := by
  have hsearch : AllContracts P (Isa100Gateway.searchStep tvNow (checkTLConfirms st)).1.shared.contracts :=
    hP.searchStep h
  exact flushAPDUBuffer_rule (P := fun st => AllContracts P st.shared.contracts) hsearch fun _ _ _ hlook =>
    hP.sendConcatenated hlook hsearch

end SendTask

section Steps

variable {st : AslState}

theorem AllContracts.responseVisit {now : UInt32} {key : ResponseKey} {sh : Shared} {found : Option TxMsg} {m : TxMsg}
    (hresponse : m.answers key → ∀ c, P c → P (responseReceived now m c)) (h : AllContracts P sh.contracts) :
    AllContracts P (responseVisit now key (sh, found) m).1.1.contracts := by
  rcases responseVisit_cases now key sh found m with heq | ⟨_, horiginal, heq⟩
  · rw [heq]
    exact h
  · rw [heq]
    exact h.onContract fun c _ hc => hresponse horiginal.1 c hc

theorem AllContracts.searchOriginalRequest {now : UInt32} {key : ResponseKey}
    (hresponse : ∀ m ∈ st.queue, m.answers key → ∀ c, P c → P (responseReceived now m c))
    (h : AllContracts P st.shared.contracts) :
    AllContracts P (searchOriginalRequest now key st).2.shared.contracts := by
  have hall : ∀ (queue : List TxMsg) (s : Shared × Option TxMsg),
      (∀ m ∈ queue, m.answers key → ∀ c, P c → P (responseReceived now m c)) →
      AllContracts P s.1.contracts →
      AllContracts P (pass (Isa100Gateway.responseVisit now key) s queue).1.1.contracts := by
    intro queue
    induction queue with
    | nil =>
      intro s _ h
      exact h
    | cons m queue ih =>
      rintro ⟨sh, found⟩ hqueue h
      have hvisited : AllContracts P
          (Isa100Gateway.responseVisit now key (sh, found) m).1.1.contracts :=
        h.responseVisit (hqueue m List.mem_cons_self)
      exact ih _ (fun m' hm' => hqueue m' (List.mem_cons_of_mem m hm')) hvisited
  exact hall st.queue (st.shared, none) hresponse h

section

variable (hP : ContractRule P) (h : AllContracts P st.shared.contracts)
include hP h

theorem ContractRule.addGenericObject {cfg : RetrySettings} {req : AddRequest} :
    AllContracts P (addGenericObject cfg req st).2.shared.contracts := by
  have hissued : ∀ c, st.shared.contracts.lookup req.contractID = some c →
      AllContracts P (st.shared.contracts.issueReqID req c) := by
    intro c hc
    unfold Contracts.issueReqID
    by_cases htakes : req.obj.takesReqID = true
    · rw [if_pos htakes]
      exact h.insert (hP.takeReqID c (h _ c hc))
    · rw [if_neg htakes]
      exact h
  rcases addGenericObject_cases cfg req st with heq | ⟨c, hlook, heq | ⟨apdu, _, heq⟩⟩
  · rw [heq]
    exact h
  · rw [heq]
    exact hissued c hlook
  · rw [heq]
    exact hissued c hlook

theorem ContractRule.storeContract {random : UInt8} {req : SetContractReq} :
    AllContracts P (storeContract random req st).2.shared.contracts := by
  rcases storeContract_cases random req st with heq | ⟨c, _, heq⟩ | ⟨_, _, heq⟩
  · rw [heq]
    exact h
  · rw [heq]
    exact h.insert (hP.setContract req _ _ _)
  · rw [heq]
    exact h.insert (hP.setContract req _ _ _)

theorem ContractRule.addDmoContractStep {random : UInt8} {unset : UnsetFields} {dmo : DmoContract} :
    AllContracts P (Isa100Gateway.addDmoContract random unset dmo st).2.shared.contracts := by
  rcases addDmoContract_cases random unset dmo st with heq | ⟨c, hlook, heq⟩ | ⟨_, _, heq⟩
  · rw [heq]
    exact h
  · rw [heq]
    exact h.insert (hP.updated dmo c (h _ c hlook))
  · rw [heq]
    exact h.insert (hP.addDmoContract dmo random unset _)

end

theorem ContractRule.aslStep (hP : ContractRule P) (a : AslAction) (hresponse : ∀ now key, a = .response now key →
      AllContracts P (Isa100Gateway.searchOriginalRequest now key st).2.shared.contracts)
    (htimeout : a = .oneSecond → AllContracts P (performOneSecondOperations st).shared.contracts)
    (h : AllContracts P st.shared.contracts) : AllContracts P (aslStep st a).shared.contracts := by
  cases a with
  | addGenericObject cfg req => exact hP.addGenericObject h
  | aslTask tvNow now => exact hP.aslTask h
  | dataConfirm conf =>
    obtain ⟨confs, heq⟩ := dataConfirm_eq st conf
    change AllContracts P (dataConfirm st conf).shared.contracts
    rw [heq]
    exact h
  | response now key => exact hresponse now key rfl
  | oneSecond => exact htimeout rfl
  | setContract ownAddress random req =>
    exact setContract_rule (P := fun st => AllContracts P st.shared.contracts)
      (fun _ h => h.erase) (fun _ h => hP.storeContract h) h
  | addDmoContract random unset dmo => exact hP.addDmoContractStep h
  | deleteContract id => exact h.erase

end Steps

end Isa100Gateway
