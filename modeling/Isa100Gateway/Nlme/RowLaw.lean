import Isa100Gateway.Asl.Correlation
import Isa100Gateway.Nlme.AddressTranslation

/-!
# Setting rows of the network layer tables

How many rows the three tables can have, and which calls that set a row of a reachable table obey the row-set law of `Table.SetLaw`.
-/

namespace Isa100Gateway

open Machine NlmeTables Table

/-- The row-set law for one call of `NLME_setRoute`. -/
def RouteSetLaw (idx : Ipv6Addr) (row : RouteAttributes) (routes : RoutesMap) : Prop :=
  SetLaw (fun (t : RoutesMap) i => t.lookup i) (· = row) idx row.destAddress
    ((setRoute idx row routes).1 = sfcSuccess) routes (setRoute idx row routes).2

theorem storeRoute_law (row : RouteAttributes) (routes : RoutesMap) :
    SetLaw (fun (t : RoutesMap) i => t.lookup i) (· = row) row.destAddress row.destAddress
      ((storeRoute row routes).1 = sfcSuccess) routes (storeRoute row routes).2 := by
  have hinsert : SetLaw (fun (t : RoutesMap) i => t.lookup i) (· = row) row.destAddress
      row.destAddress (sfcSuccess = sfcSuccess) routes (routes.insert row.destAddress row) := by
    refine SetLaw.of_update (r := row) rfl ?_ ?_
    · rfl
    · rw [find_insert, Function.update_idem]
  unfold storeRoute
  cases routes.lookup row.destAddress with
  | some _ => exact hinsert
  | none =>
    by_cases hfull : routes.entries.length ≥ maxRoutesNo
    · rw [if_pos hfull]
      exact SetLaw.of_unchanged insufficient_ne_success rfl
    · rw [if_neg hfull]
      exact hinsert

variable {routes : RoutesMap} {row : RouteAttributes} {st : AslState} {id : UInt16}

theorem full_of_storeRoute_error
    (h : (storeRoute row routes).1 ≠ sfcSuccess) : maxRoutesNo ≤ routes.entries.length := by
  by_contra hroom
  apply h
  unfold storeRoute
  cases routes.lookup row.destAddress with
  | some _ => rfl
  | none => rw [if_neg hroom]

theorem length_storeRoute_le (h : routes.entries.length ≤ maxRoutesNo) :
    (storeRoute row routes).2.entries.length ≤ maxRoutesNo := by
  unfold storeRoute
  cases hlook : routes.lookup row.destAddress with
  | some _ =>
    have hpresent : routes.lookup row.destAddress ≠ none := by simp [hlook]
    exact (length_insert_of_present hpresent row).le.trans h
  | none =>
    by_cases hfull : routes.entries.length ≥ maxRoutesNo
    · rwa [if_pos hfull]
    · rw [if_neg hfull]
      calc (routes.insert row.destAddress row).entries.length
          = routes.entries.length + 1 := length_insert_of_absent hlook row
        _ ≤ maxRoutesNo := by omega

theorem length_setRoute_le {idx : Ipv6Addr} (h : routes.entries.length ≤ maxRoutesNo) :
    (setRoute idx row routes).2.entries.length ≤ maxRoutesNo := by
  apply length_storeRoute_le
  by_cases hidx : idx ≠ row.destAddress
  · rw [if_pos hidx]
    exact (length_erase_le routes idx).trans h
  · rwa [if_neg hidx]

/-- A table that is not overfull obeys the law. Removing the old row makes the room that the new one needs, so an error leaves nothing removed. -/
theorem setRoute_law (idx : Ipv6Addr) (row : RouteAttributes)
    (h : routes.entries.length ≤ maxRoutesNo) : RouteSetLaw idx row routes := by
  unfold RouteSetLaw setRoute
  by_cases hidx : idx ≠ row.destAddress
  · rw [if_pos hidx]
    apply (storeRoute_law row (delRoute idx routes).2).after_erase (find_erase routes idx)
    intro hfail
    apply erase_of_absent
    by_contra hpresent
    have hfull := full_of_storeRoute_error hfail
    have hremoved := length_erase_of_present hpresent
    have hlen : (delRoute idx routes).2.entries.length + 1 = routes.entries.length := hremoved
    omega
  · rw [if_neg hidx, not_ne_iff.mp hidx]
    exact storeRoute_law row routes

theorem length_of_sameTable {contracts contracts' : Contracts} (h : SameTable contracts contracts') :
    contracts'.entries.length = contracts.entries.length := by
  apply length_eq_of_keys
  intro id
  rw [← Option.map_eq_none_iff (f := Contract.core), h id, Option.map_eq_none_iff]

theorem length_issueReqID {contracts : Contracts} {req : AddRequest} {c : Contract}
    (hc : contracts.lookup req.contractID = some c) :
    (contracts.issueReqID req c).entries.length = contracts.entries.length := by
  unfold Contracts.issueReqID
  by_cases htakes : req.obj.takesReqID = true
  · rw [if_pos htakes]
    exact length_insert_of_present (by simp [hc]) _
  · rw [if_neg htakes]

def AslState.ContractsBounded (st : AslState) : Prop :=
  st.shared.contracts.entries.length ≤ maxContractNo

theorem AslState.ContractsBounded.frame {st st' : AslState} (hframe : Frame st st')
    (h : st.ContractsBounded) : st'.ContractsBounded :=
  (length_of_sameTable hframe.table).trans_le h

theorem AslState.ContractsBounded.insertNew {c : Nat → Contract}
    (habsent : st.shared.contracts.lookup id = none) (hroom : HasRoom st.shared.contracts id) :
    (st.insertNew id c).ContractsBounded := by
  have hlt := hroom.resolve_left (fun h => h habsent)
  calc (st.insertNew id c).shared.contracts.entries.length
      = st.shared.contracts.entries.length + 1 := length_insert_of_absent habsent _
    _ ≤ maxContractNo := hlt

theorem AslState.ContractsBounded.erase (id : UInt16) (h : st.ContractsBounded) :
    (deleteContract id st).ContractsBounded :=
  (length_erase_le st.shared.contracts id).trans h

theorem contractsBounded_storeContract {random : UInt8} {req : SetContractReq}
    (h : st.ContractsBounded) : (storeContract random req st).2.ContractsBounded := by
  rcases storeContract_cases random req st with heq | ⟨c, hc, heq⟩ | ⟨habsent, hroom, heq⟩
  · rwa [heq]
  · rw [heq]
    exact (length_insert_of_present (by simp [hc]) _).trans_le h
  · rw [heq]
    exact AslState.ContractsBounded.insertNew habsent hroom

theorem contractsBounded_addDmoContract {random : UInt8} {unset : UnsetFields} {dmo : DmoContract}
    (h : st.ContractsBounded) : (addDmoContract random unset dmo st).2.ContractsBounded := by
  rcases addDmoContract_cases random unset dmo st with heq | ⟨c, hc, heq⟩ | ⟨habsent, hroom, heq⟩
  · rwa [heq]
  · rw [heq]
    exact (length_insert_of_present (by simp [hc]) _).trans_le h
  · rw [heq]
    exact AslState.ContractsBounded.insertNew habsent hroom

theorem contractsBounded_addGenericObject {cfg : RetrySettings} {req : AddRequest}
    (h : st.ContractsBounded) : (addGenericObject cfg req st).2.ContractsBounded := by
  rcases addGenericObject_cases cfg req st with heq | ⟨c, hc, heq | ⟨apdu, -, heq⟩⟩
  · rwa [heq]
  · rw [heq]
    exact (length_issueReqID hc).trans_le h
  · rw [heq]
    exact (length_issueReqID hc).trans_le h

theorem contractsBounded_aslStep (a : AslAction) (h : st.ContractsBounded) : (aslStep st a).ContractsBounded := by
  cases a with
  | addGenericObject cfg req => exact contractsBounded_addGenericObject h
  | aslTask tvNow now => exact h.frame (frame_aslTask tvNow now st)
  | dataConfirm conf =>
    obtain ⟨confs, heq⟩ := dataConfirm_eq st conf
    change (dataConfirm st conf).ContractsBounded
    rwa [heq]
  | response now key => exact h.frame (frame_searchOriginalRequest now key st)
  | oneSecond => exact h.frame (frame_performOneSecondOperations st)
  | setContract ownAddress random req =>
    exact setContract_rule (fun _ h => h.erase _) (fun _ h => contractsBounded_storeContract h) h
  | addDmoContract random unset dmo => exact contractsBounded_addDmoContract h
  | deleteContract id => exact h.erase id

/-- The row-set law for one call of `NLME_setContract`. The table keeps only contracts of the own address, under their ids; the fields that come from the table's own counters may be anything. -/
def ContractSetLaw (ownAddress : Ipv6Addr) (random : UInt8) (req : SetContractReq) (st : AslState) : Prop :=
  SetLaw (fun (st : AslState) i => st.shared.contracts.lookup i)
    (fun c => ∃ serial issued reqID, c = req.contract serial issued reqID)
    req.idx.contractId req.data.contractId
    ((setContract ownAddress random req st).1 = sfcSuccess) st (setContract ownAddress random req st).2

/-- When `NLME_setContract` obeys the law: the contract is of another device, or the row keeps its id, or a full table has no row under the old id. -/
def ContractSettable (ownAddress : Ipv6Addr) (req : SetContractReq) (contracts : Contracts) : Prop :=
  req.data.ownIPv6 ≠ ownAddress ∨ req.idx.contractId = req.data.contractId ∨ ¬ HasRoom contracts req.idx.contractId

theorem storeContract_law (random : UInt8) (req : SetContractReq) (st : AslState) :
    SetLaw (fun (st : AslState) i => st.shared.contracts.lookup i)
      (fun c => ∃ serial issued reqID, c = req.contract serial issued reqID)
      req.idx.contractId req.idx.contractId
      ((storeContract random req st).1 = sfcSuccess) st (storeContract random req st).2 := by
  have hinsert : ∀ (st' : AslState) (serial issued : Nat) (reqID : UInt8),
      st'.shared.contracts = st.shared.contracts.insert req.idx.contractId (req.contract serial issued reqID) →
      SetLaw (fun (st : AslState) i => st.shared.contracts.lookup i)
        (fun c => ∃ serial issued reqID, c = req.contract serial issued reqID)
        req.idx.contractId req.idx.contractId (sfcSuccess = sfcSuccess) st st' := by
    intro st' serial issued reqID hst'
    apply SetLaw.of_update (r := req.contract serial issued reqID) rfl ⟨_, _, _, rfl⟩
    rw [Function.update_idem, hst', find_insert]
  unfold storeContract
  cases st.shared.contracts.lookup req.idx.contractId with
  | some c => exact hinsert _ c.serial c.issued c.reqID rfl
  | none =>
    by_cases hfull : st.shared.contracts.entries.length ≥ maxContractNo
    · rw [if_pos hfull]
      exact SetLaw.of_unchanged insufficient_ne_success rfl
    · rw [if_neg hfull]
      exact hinsert _ st.nextSerial 0 random rfl

theorem storeContract_success_iff (random : UInt8) (req : SetContractReq) (st : AslState) :
    (storeContract random req st).1 = sfcSuccess ↔
      HasRoom st.shared.contracts req.idx.contractId := by
  unfold storeContract HasRoom
  cases hlook : st.shared.contracts.lookup req.idx.contractId with
  | some c => simp
  | none =>
    by_cases hfull : st.shared.contracts.entries.length ≥ maxContractNo
    · simp [hfull, insufficient_ne_success]
    · simp [hfull, not_le.mp hfull]

theorem deleteContract_of_absent (h : st.shared.contracts.lookup id = none) : deleteContract id st = st := by
  unfold deleteContract
  rw [erase_of_absent h]

theorem hasRoom_deleteContract (hlen : st.ContractsBounded)
    (h : HasRoom st.shared.contracts id) : HasRoom (deleteContract id st).shared.contracts id := by
  by_cases hpresent : st.shared.contracts.lookup id = none
  · rwa [deleteContract_of_absent hpresent]
  · right
    have hremoved := length_erase_of_present hpresent
    have hlen' : (deleteContract id st).shared.contracts.entries.length + 1 =
      st.shared.contracts.entries.length := hremoved
    have hbounded : st.shared.contracts.entries.length ≤ maxContractNo := hlen
    omega

theorem setContract_law_iff (ownAddress : Ipv6Addr) (random : UInt8) (req : SetContractReq)
    (hlen : st.ContractsBounded) : ContractSetLaw ownAddress random req st ↔
      ContractSettable ownAddress req st.shared.contracts := by
  unfold ContractSetLaw ContractSettable setContract
  by_cases hown : req.data.ownIPv6 ≠ ownAddress
  · simp only [if_pos hown]
    exact ⟨fun _ => Or.inl hown, fun _ => SetLaw.of_unchanged (by decide) rfl⟩
  simp only [if_neg hown]
  by_cases hid : req.idx.contractId = req.data.contractId
  · refine ⟨fun _ => Or.inr (Or.inl hid), fun _ => ?_⟩
    rw [← hid]
    by_cases hidx : req.idx ≠ req.data
    · rw [if_pos hidx]
      apply (storeContract_law random req _).after_erase
      · exact find_erase st.shared.contracts req.idx.contractId
      · intro hfail
        apply deleteContract_of_absent
        by_contra hpresent
        apply hfail
        rw [storeContract_success_iff]
        exact hasRoom_deleteContract hlen (Or.inl hpresent)
    · rw [if_neg hidx]
      exact storeContract_law random req st
  · have hidx : req.idx ≠ req.data := fun heq => hid (congrArg ContractIdx.contractId heq)
    have hstore := storeContract_law random req (deleteContract req.idx.contractId st)
    rw [if_pos hidx]
    by_cases hroom : HasRoom st.shared.contracts req.idx.contractId
    · -- The new row is stored under the id it should have replaced.
      have hsuccess := (storeContract_success_iff random req _).mpr
        (hasRoom_deleteContract hlen hroom)
      refine ⟨fun hlaw => ?_, fun hsettable => ?_⟩
      · obtain ⟨c, hfound, -⟩ := hstore.found hsuccess
        exact nomatch hfound.symm.trans (hlaw.gone hsuccess hid)
      · rcases hsettable with h | h | h
        · exact absurd h hown
        · exact absurd h hid
        · exact absurd hroom h
    · refine ⟨fun _ => Or.inr (Or.inr hroom), fun _ => ?_⟩
      have habsent : st.shared.contracts.lookup req.idx.contractId = none := by
        by_contra hpresent
        exact hroom (Or.inl hpresent)
      rw [deleteContract_of_absent habsent] at hstore ⊢
      have hfail := mt (storeContract_success_iff random req st).mp hroom
      exact SetLaw.of_unchanged hfail (hstore.unchanged hfail)

structure NlmeTables.WellFormed (st : NlmeTables) : Prop where
  routes : st.routes.entries.length ≤ maxRoutesNo
  att : st.att.Consistent
  contracts : st.asl.ContractsBounded

theorem wellFormed_nlmeStep {st : NlmeTables} (a : NlmeAction) (h : st.WellFormed) : (nlmeStep st a).WellFormed := by
  cases a with
  | setRoute idx row => exact { h with routes := length_setRoute_le h.routes }
  | delRoute idx => exact { h with routes := (length_erase_le st.routes idx).trans h.routes }
  | setATT idx row => exact { h with att := h.att.setATT idx row }
  | delATT idx => exact { h with att := h.att.delATT idx }
  | addATT longAddress shortAddress => exact { h with att := h.att.setATT longAddress _ }
  | asl action => exact { h with contracts := contractsBounded_aslStep action h.contracts }

theorem wellFormed_of_reachable {ok : NlmeTables → NlmeAction → Prop} {st : NlmeTables}
    (h : Reachable init nlmeStep ok st) : st.WellFormed := by
  have hinit : init.WellFormed := by
    refine ⟨Nat.zero_le _, ⟨?_, ?_, ?_, rfl, Nat.zero_le _⟩, Nat.zero_le _⟩
    · intro long short entry
      constructor
      · rintro ⟨hfind, -⟩
        cases hfind
      · rintro ⟨hfind, -⟩
        cases hfind
    · intro _ _ _ _ hfind
      cases hfind
    · intro _ _ hfind
      cases hfind
  exact h.invariant hinit fun st a h _ => wellFormed_nlmeStep a h

/-- Which calls that set a row of a reachable table obey the row-set law. -/
theorem rowSet_law_iff {st : NlmeTables} (h : Reachable init nlmeStep (fun _ _ => True) st) :
    (∀ idx row, RouteSetLaw idx row st.routes) ∧
      (∀ ownAddress random req, ContractSetLaw ownAddress random req st.asl ↔
        ContractSettable ownAddress req st.asl.shared.contracts) ∧
      ∀ idx row, AttSetLaw idx row st.att ↔ AttSettable idx row st.att := by
  have hwell := wellFormed_of_reachable h
  refine ⟨?_, ?_, ?_⟩
  · intro idx row
    exact setRoute_law idx row hwell.routes
  · intro ownAddress random req
    exact setContract_law_iff ownAddress random req hwell.contracts
  · intro idx row
    exact setATT_law_iff hwell.att idx row

def samplePeer2 : Ipv6Addr := List.replicate 15 0 ++ [3]

def sampleTables : NlmeTables :=
  run nlmeStep init
    [.asl (.setContract sampleOwnAddress 9 (sampleSetContract 1 1)),
      .setATT sampleOwnAddress ⟨sampleOwnAddress, ⟨0, 1⟩⟩, .setATT samplePeer ⟨samplePeer, ⟨0, 2⟩⟩]

theorem reachable_sampleTables : Reachable init nlmeStep (fun _ _ => True) sampleTables :=
  reachable_run (along_true _ _)

theorem rowSet_law_iff_sampleTables : (∀ idx row, RouteSetLaw idx row sampleTables.routes) ∧
      (∀ ownAddress random req, ContractSetLaw ownAddress random req sampleTables.asl ↔
        ContractSettable ownAddress req sampleTables.asl.shared.contracts) ∧
      ∀ idx row, AttSetLaw idx row sampleTables.att ↔ AttSettable idx row sampleTables.att :=
  rowSet_law_iff reachable_sampleTables

/-- Contract 1 replaced by a contract 2 is stored as contract 1, and a translation replaced by a row with the short address of another one is lost. -/
theorem replaced_row_lost :
    Reachable init nlmeStep (fun _ _ => True) sampleTables ∧ ¬ ContractSetLaw sampleOwnAddress 9
        { sampleSetContract 1 1 with data := ⟨2, sampleOwnAddress⟩ } sampleTables.asl ∧
      ¬ AttSetLaw sampleOwnAddress ⟨samplePeer2, ⟨0, 2⟩⟩ sampleTables.att := by
  have hwell := wellFormed_of_reachable reachable_sampleTables
  refine ⟨reachable_sampleTables, ?_, ?_⟩
  · rw [setContract_law_iff _ _ _ hwell.contracts]
    unfold ContractSettable
    decide
  · rw [setATT_law_iff hwell.att]
    rintro (h | h | h)
    · exact absurd h (by decide)
    · exact absurd h (by decide)
    · have hother := h ⟨1, ⟨samplePeer, ⟨0, 2⟩⟩⟩ (by decide)
      exact absurd hother (by decide)

/-- `m_aShortAddress` in network order. -/
def ShortAddr.ofUInt16 (shortAddress : UInt16) : ShortAddr :=
  ⟨(shortAddress >>> 8).toUInt8, shortAddress.toUInt8⟩

/-- When `NLME_AddATT` makes a short address yield the long one. It writes the high byte twice, so it does if this is the address and is free, or if it is taken, nothing is written, and the table had the translation already. -/
def AddAttYields (long : Ipv6Addr) (shortAddress : UInt16) (att : AttTable) : Prop :=
  if findATTByShortAddr ⟨(shortAddress >>> 8).toUInt8, (shortAddress >>> 8).toUInt8⟩ att = none then
    shortAddress.toUInt8 = (shortAddress >>> 8).toUInt8
  else att.Yields (ShortAddr.ofUInt16 shortAddress) long

/-- The address translations of a reachable state: both lookups hold the same entries, within the maximum, and what `NLME_AddATT` achieves. -/
theorem addressTranslation_consistent {st : NlmeTables} (h : Reachable init nlmeStep (fun _ _ => True) st) :
    st.att.Inverse ∧ st.att.map2toEntry.entries.length = st.att.map16toEntry.entries.length ∧
      st.att.map16toEntry.entries.length ≤ maxAddrTranslationsNo ∧
      ∀ long shortAddress, st.att.map16toEntry.entries.length < maxAddrTranslationsNo →
        ((addATT long shortAddress st.att).2.Yields (ShortAddr.ofUInt16 shortAddress) long ↔
          AddAttYields long shortAddress st.att) := by
  have hatt := (wellFormed_of_reachable h).att
  refine ⟨hatt.inverse, hatt.sameLength, hatt.bounded, ?_⟩
  intro long shortAddress hroom
  unfold addATT setATT AddAttYields
  rw [if_neg (not_not_intro rfl)]
  rw [yields_storeATT_iff hatt hroom ⟨long, _⟩]
  simp [ShortAddr.ofUInt16]

theorem addressTranslation_consistent_sampleTables : sampleTables.att.Inverse ∧
      sampleTables.att.map2toEntry.entries.length = sampleTables.att.map16toEntry.entries.length ∧
      sampleTables.att.map16toEntry.entries.length ≤ maxAddrTranslationsNo ∧
      ∀ long shortAddress,
        sampleTables.att.map16toEntry.entries.length < maxAddrTranslationsNo →
        ((addATT long shortAddress sampleTables.att).2.Yields
            (ShortAddr.ofUInt16 shortAddress) long ↔
          AddAttYields long shortAddress sampleTables.att) :=
  addressTranslation_consistent reachable_sampleTables

/-- The short address `0x1234` of an entry added to an empty table is not found. -/
theorem addATT_loses_low_byte :
    Reachable init nlmeStep (fun _ _ => True) init ∧ init.att.map16toEntry.entries.length < maxAddrTranslationsNo ∧
      (addATT samplePeer 0x1234 init.att).1 = sfcSuccess ∧
      ¬ (addATT samplePeer 0x1234 init.att).2.Yields
        (ShortAddr.ofUInt16 0x1234) samplePeer := by
  refine ⟨.init, by decide, by decide, ?_⟩
  rintro ⟨entry, hfind, -⟩
  have hnone : findATTByShortAddr (ShortAddr.ofUInt16 0x1234)
      (addATT samplePeer 0x1234 init.att).2 = none := by decide
  rw [hnone] at hfind
  cases hfind

end Isa100Gateway
