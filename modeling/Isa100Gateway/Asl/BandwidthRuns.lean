import Isa100Gateway.Asl.Bandwidth

/-!
# The bandwidth law

Sequences of passes of the send task: no APDU that obeys the bandwidth of its contract is handed over before the contract may send, and the messages that carry such APDUs keep the interval of the committed burst. The walk that fills a message does not look at the bandwidth, so this needs that no contract that has to wait holds ready APDUs of both kinds.
-/

namespace Isa100Gateway

open Machine

def Contracts.timing (contracts : Contracts) (id : UInt16) : Option (Int32 × UInt32 × UInt32 × Int16 × TimeVal) :=
  (contracts.lookup id).map Contract.timing

def AslEvent.transportRequest : AslEvent → Option (UInt16 × List UInt8)
  | .tldeDataRequest contractId _ appData .. => some (contractId, appData)
  | _ => none

def Shared.transportRequests (sh : Shared) : List (UInt16 × List UInt8) :=
  sh.log.filterMap AslEvent.transportRequest

def TxMsg.Admitted (contracts : Contracts) (tvNow : TimeVal) (m : TxMsg) : Prop :=
  m.ReadyToSend ∧ ∃ c, contracts.lookup m.contractId = some c ∧
    (m.obeyContractBandwidth ≠ 0 → bandwidthLimitAllowsTX tvNow c = true)

structure Searched (tvNow : TimeVal) (st : AslState) (s : Shared × Option ApduIdtfTx)
    (queue : List TxMsg) : Prop where
  timing : s.1.contracts.timing = st.shared.contracts.timing
  requests : s.1.transportRequests = st.shared.transportRequests
  queue : ∀ m ∈ queue, m ∈ st.queue
  found : ∀ idtf ∈ s.2, ∃ m ∈ st.queue, m.contractId = idtf.contractId ∧ m.Admitted st.shared.contracts tvNow

theorem timing_onContract (sh : Shared) (m : TxMsg) {f : Contract → Contract} (hf : ∀ c, (f c).timing = c.timing) :
    (sh.onContract m f).contracts.timing = sh.contracts.timing := by
  funext id
  rw [Contracts.timing, lookup_onContract, Option.map_map, Contracts.timing]
  congr 1
  funext c
  by_cases hown : id = m.contractId ∧ c.serial = m.weakContract
  · simp [hown, hf]
  · simp [hown]

theorem bandwidthLimitAllowsTX_congr {tvNow : TimeVal} {c c' : Contract} (h : c'.timing = c.timing) :
    bandwidthLimitAllowsTX tvNow c' = bandwidthLimitAllowsTX tvNow c := by
  have hearliest : c'.sendNoEarlierThan = c.sendNoEarlierThan := congrArg (·.2.2.2.2) h
  rw [bandwidthLimitAllowsTX, bandwidthLimitAllowsTX, hearliest]

theorem lookup_of_timing {contracts contracts' : Contracts} {id : UInt16} {c : Contract}
    (h : contracts'.timing = contracts.timing) (hlook : contracts.lookup id = some c) :
    ∃ c', contracts'.lookup id = some c' ∧ c'.timing = c.timing := by
  have hid := congrFun h id
  rw [Contracts.timing, Contracts.timing, hlook] at hid
  exact Option.map_eq_some_iff.1 hid

theorem searchVisit_found (tvNow : TimeVal) (sh : Shared) (best : Option ApduIdtfTx) (m : TxMsg) :
    (searchVisit tvNow (sh, best) m).1.2 = best ∨ (searchVisit tvNow (sh, best) m).1.2 = some (loadIDTF m) ∧
        m.Admitted sh.contracts tvNow := by
  by_cases hready : m.ReadyToSend ∧ m.outranks best = true
  · cases hlock : sh.contracts.lock m with
    | none => exact Or.inl (by simp [searchVisit, hready, hlock])
    | some c =>
      simp only [searchVisit, if_pos hready, hlock]
      by_cases hwindow : m.status = .readyToSend ∧ ¬ (slidingWindowAllowsTX c).1 = true
      · exact Or.inl (by rw [if_pos hwindow])
      rw [if_neg hwindow]
      by_cases hlimit : m.obeyContractBandwidth ≠ 0 ∧ ¬ bandwidthLimitAllowsTX tvNow c = true
      · exact Or.inl (by rw [if_pos hlimit])
      · rw [if_neg hlimit]
        refine Or.inr ⟨rfl, hready.1, c, (lock_eq_some.1 hlock).1, ?_⟩
        intro hobeys
        by_contra hrefused
        exact hlimit ⟨hobeys, hrefused⟩
  · exact Or.inl (by simp only [searchVisit, if_neg hready])

theorem transportRequests_dataTimeout (sh : Shared) (m : TxMsg) (sfc : UInt8) :
    (sh.dataTimeout m sfc).transportRequests = sh.transportRequests := rfl

theorem transportRequests_onContract (sh : Shared) (m : TxMsg) (f : Contract → Contract) :
    (sh.onContract m f).transportRequests = sh.transportRequests := by
  rw [Shared.transportRequests, log_onContract, Shared.transportRequests]

section Search

variable {tvNow : TimeVal} {st : AslState}

theorem searchVisit_keeps (tvNow : TimeVal) (sh : Shared) (best : Option ApduIdtfTx) (m : TxMsg) :
    (searchVisit tvNow (sh, best) m).1.1.contracts.timing = sh.contracts.timing ∧
      (searchVisit tvNow (sh, best) m).1.1.transportRequests = sh.transportRequests ∧
      ∀ m' ∈ (searchVisit tvNow (sh, best) m).2, m' = m := by
  rcases searchVisit_cases tvNow sh best m with ⟨_, _, heq⟩ | ⟨best', heq⟩ | ⟨best', _, heq⟩
  · rw [heq]
    exact ⟨rfl, transportRequests_dataTimeout sh m _, by simp⟩
  · rw [heq]
    exact ⟨rfl, rfl, by simp⟩
  · rw [heq]
    refine ⟨timing_onContract sh m timing_slidingWindowAllowsTX, ?_, by simp⟩
    exact transportRequests_onContract sh m _

theorem Searched.visit {sh : Shared} {best : Option ApduIdtfTx} {done rest : List TxMsg} {m : TxMsg}
    (h : Searched tvNow st (sh, best) (done ++ m :: rest)) : Searched tvNow st (searchVisit tvNow (sh, best) m).1
      (done ++ (searchVisit tvNow (sh, best) m).2.toList ++ rest) := by
  obtain ⟨htiming, hrequests, hleft⟩ := searchVisit_keeps tvNow sh best m
  have hm : m ∈ st.queue := h.queue m (by simp)
  refine ⟨htiming.trans h.timing, hrequests.trans h.requests, ?_, ?_⟩
  · intro m' hm'
    rcases mem_visited.1 hm' with hvisited | hother
    · rw [hleft m' hvisited]
      exact hm
    · exact h.queue m' (mem_of_unvisited hother)
  · intro idtf hfound
    rcases searchVisit_found tvNow sh best m with hsame | ⟨hnew, hready, c, hlook, hallowed⟩
    · exact h.found idtf (hsame ▸ hfound)
    · rw [hnew] at hfound
      cases hfound
      obtain ⟨c', hlook', htiming'⟩ := lookup_of_timing h.timing.symm hlook
      refine ⟨m, hm, rfl, hready, c', hlook', fun hobeys => ?_⟩
      rw [bandwidthLimitAllowsTX_congr htiming']
      exact hallowed hobeys

theorem searched_searchStep (tvNow : TimeVal) (st : AslState) :
    Searched tvNow st ((searchStep tvNow st).1.shared, (searchStep tvNow st).2)
      (searchStep tvNow st).1.queue := by
  have hstart : Searched tvNow st (st.shared, none) st.queue :=
    ⟨rfl, rfl, fun _ h => h, fun _ h => by cases h⟩
  exact pass_invariant_all (P := Searched tvNow st) (fun _ _ _ _ h => h.visit) hstart

end Search

theorem ready_of_confirmMsg {conf : ApduConfirm} {m m' : TxMsg}
    (h : confirmMsg conf m = some m') (hready : m'.ReadyToSend) : m' = m := by
  rcases confirmMsg_cases conf m with heq | ⟨hawaits, heq | heq | ⟨-, heq⟩ | ⟨-, heq⟩⟩
  · rw [heq] at h
    exact (Option.some.inj h).symm
  · rw [heq] at h
    cases h
    rcases hready with hready | hready
    all_goals
      have hstatus := hawaits.1
      simp only at hready
      rw [hready] at hstatus
      simp at hstatus
  · rw [heq] at h
    cases h
    rcases hready with hready | hready
    all_goals cases hready
  · rw [heq] at h
    cases h
  · rw [heq] at h
    cases h

theorem mem_of_ready_confirmed {st : AslState} {m : TxMsg} (h : m ∈ (checkTLConfirms st).queue)
    (hready : m.ReadyToSend) : m ∈ st.queue := by
  have hall : Along (fun _ _ => True) confirmQueue st.queue st.conf := along_true _ _
  refine run_invariant (P := fun queue => ∀ m ∈ queue, m.ReadyToSend → m ∈ st.queue) ?_
    (fun m hm _ => hm) hall m h hready
  intro queue conf hqueue _ m hm hready
  obtain ⟨m', hm', heq⟩ := List.mem_filterMap.1 hm
  obtain rfl := ready_of_confirmMsg heq hready
  exact hqueue m hm' hready

section Pass

variable {tvNow : TimeVal} {now : UInt32} {st : AslState}

theorem aslTask_cases (tvNow : TimeVal) (now : UInt32) (st : AslState) :
    transmission tvNow now st = none ∧ aslTask tvNow now st = (searchStep tvNow (checkTLConfirms st)).1 ∨
      ∃ idtf c, (searchStep tvNow (checkTLConfirms st)).2 = some idtf ∧
        (searchStep tvNow (checkTLConfirms st)).1.shared.contracts.lookup idtf.contractId = some c ∧
        transmission tvNow now st = some
          { contractId := idtf.contractId
            time := tvNow
            contract := c
            carried := carriedFrom idtf.contractId c.tsduRoom
              (searchStep tvNow (checkTLConfirms st)).1.handle now (c, [])
              (searchStep tvNow (checkTLConfirms st)).1.queue } ∧
        aslTask tvNow now st =
          sendConcatenated tvNow now idtf c (searchStep tvNow (checkTLConfirms st)).1 := by
  unfold transmission aslTask flushAPDUBuffer
  generalize searchStep tvNow (checkTLConfirms st) = searched
  obtain ⟨st₁, found⟩ := searched
  cases found with
  | none => exact Or.inl ⟨rfl, rfl⟩
  | some idtf =>
    cases hlook : st₁.shared.contracts.lookup idtf.contractId with
    | none => exact Or.inl (by simp [hlook])
    | some c => exact Or.inr ⟨idtf, c, rfl, hlook, by simp [hlook], by simp [hlook]⟩

theorem timing_concatenateAPDUs (contractId : UInt16) (handle : UInt8) (now : UInt32) (c : Contract)
    (queue : List TxMsg) : (concatenateAPDUs contractId handle now c queue).1.1.timing = c.timing := by
  apply pass_invariant_all (s := (c, []))
    (P := fun (s : Contract × List UInt8) (_ : List TxMsg) => s.1.timing = c.timing) _ rfl
  rintro ⟨c', out⟩ _ m _ h
  rcases concatVisit_cases contractId c.tsduRoom handle now c' out m with heq | ⟨_, _, hcase⟩
  · rw [heq]
    exact h
  rcases hcase with ⟨_, _, _, heq⟩ | ⟨_, _, _, heq⟩ | ⟨_, _, heq⟩ | ⟨_, _, heq⟩
  all_goals rw [heq]
  · exact (timing_slidingWindowIncreaseUsage c').trans h
  · exact (timing_slidingWindowIncreaseUsage c').trans h
  · exact h
  · exact h

theorem contracts_sendConcatenated (tvNow : TimeVal) (now : UInt32) (idtf : ApduIdtfTx)
    (c : Contract) (st : AslState) :
    (sendConcatenated tvNow now idtf c st).shared.contracts = st.shared.contracts.insert idtf.contractId
        ((concatenateAPDUs idtf.contractId st.handle now c st.queue).1.1.packetSent tvNow) := rfl

theorem timing_packetSent {c c' : Contract} (h : c'.timing = c.timing) :
    (c'.packetSent tvNow).timing = (recordPacketNextTXTime tvNow c).timing := by
  obtain ⟨hrto, hsrtt, hrttv, hburst, -⟩ : _ ∧ _ ∧ _ ∧ _ ∧ _ := by
    simpa [Contract.timing] using h
  simp [Contract.packetSent, recordPacketNextTXTime, Contract.packetIntervalMS, Contract.timing,
    hrto, hsrtt, hrttv, hburst]

theorem timing_of_no_transmission (h : transmission tvNow now st = none) :
    (aslTask tvNow now st).shared.contracts.timing = st.shared.contracts.timing := by
  rcases aslTask_cases tvNow now st with ⟨-, heq⟩ | ⟨idtf, c, -, -, hsome, -⟩
  · rw [heq]
    exact (searched_searchStep tvNow (checkTLConfirms st)).timing
  · rw [h] at hsome
    cases hsome

variable {t : Transmission}

theorem timing_of_transmission (h : transmission tvNow now st = some t) :
    t.time = tvNow ∧ st.shared.contracts.timing t.contractId = some t.contract.timing ∧
      (aslTask tvNow now st).shared.contracts.timing = Function.update st.shared.contracts.timing t.contractId
          (some (recordPacketNextTXTime tvNow t.contract).timing) := by
  have hsearched := (searched_searchStep tvNow (checkTLConfirms st)).timing
  rcases aslTask_cases tvNow now st with ⟨hnone, -⟩ | ⟨idtf, c, -, hlook, hsome, heq⟩
  · rw [h] at hnone
    cases hnone
  · rw [h] at hsome
    cases hsome
    refine ⟨rfl, ?_, ?_⟩
    · have hid := congrFun hsearched idtf.contractId
      rw [Contracts.timing, hlook] at hid
      exact hid.symm
    · funext id
      rw [heq, contracts_sendConcatenated, Contracts.timing, Table.lookup_insert]
      by_cases hid : id = idtf.contractId
      · rw [if_pos hid, hid, Function.update_self]
        exact congrArg some (timing_packetSent (timing_concatenateAPDUs _ _ _ c _))
      · rw [if_neg hid, Function.update_of_ne hid]
        exact congrFun hsearched id

/-! ### Bandwidth -/

/-- No contract that has to wait has both an APDU that obeys its bandwidth and one that does not ready in the queue. -/
def Unmixed (tvNow : TimeVal) (st : AslState) : Prop :=
  ∀ m ∈ st.queue, ∀ m' ∈ st.queue, m.ReadyToSend → m'.ReadyToSend → m.contractId = m'.contractId →
    m.obeyContractBandwidth ≠ 0 → m'.obeyContractBandwidth = 0 →
      ∀ c ∈ st.shared.contracts.lookup m.contractId, bandwidthLimitAllowsTX tvNow c = true

instance (tvNow : TimeVal) (st : AslState) : Decidable (Unmixed tvNow st) := inferInstanceAs (Decidable (∀ _ ∈ _, _))

theorem selected_of_transmission (h : transmission tvNow now st = some t) :
    ∃ m ∈ st.queue, m.ReadyToSend ∧ m.contractId = t.contractId ∧
      ∃ c, st.shared.contracts.lookup t.contractId = some c ∧ t.contract.timing = c.timing ∧
        (m.obeyContractBandwidth ≠ 0 → bandwidthLimitAllowsTX tvNow c = true) := by
  have hsearched := searched_searchStep tvNow (checkTLConfirms st)
  rcases aslTask_cases tvNow now st with ⟨hnone, -⟩ | ⟨idtf, c, hfound, hlook, hsome, -⟩
  · rw [h] at hnone
    cases hnone
  rw [h] at hsome
  cases hsome
  obtain ⟨m, hm, hid, hready, c', hlook', hallowed⟩ := hsearched.found idtf hfound
  obtain ⟨c'', hlook'', htiming⟩ := lookup_of_timing hsearched.timing hlook'
  rw [hid] at hlook' hlook''
  cases hlook''.symm.trans hlook
  exact ⟨m, mem_of_ready_confirmed hm hready, hready, hid, c', hlook', htiming, hallowed⟩

theorem carried_of_transmission (h : transmission tvNow now st = some t) {m : TxMsg} (hm : m ∈ t.carried) :
    m ∈ st.queue ∧ m.ReadyToSend ∧ m.contractId = t.contractId := by
  have hsearched := searched_searchStep tvNow (checkTLConfirms st)
  rcases aslTask_cases tvNow now st with ⟨hnone, -⟩ | ⟨idtf, c, -, -, hsome, -⟩
  · rw [h] at hnone
    cases hnone
  · rw [h] at hsome
    cases hsome
    obtain ⟨hmem, hready, hid⟩ := mem_carriedFrom hm
    exact ⟨mem_of_ready_confirmed (hsearched.queue m hmem) hready, hready, hid⟩

theorem notBefore_of_limited (hok : Unmixed tvNow st)
    (h : transmission tvNow now st = some t) (hlimited : t.Limited) : t.notBefore.Before t.time := by
  obtain ⟨m, hcarried, hobeys⟩ := hlimited
  obtain ⟨hm, hready, hid⟩ := carried_of_transmission h hcarried
  obtain ⟨m', hm', hready', hid', c, hlook, htiming, hallowed⟩ := selected_of_transmission h
  have hquiet : bandwidthLimitAllowsTX tvNow c = true := by
    by_cases hobeys' : m'.obeyContractBandwidth = 0
    · apply hok m hm m' hm' hready hready' (hid.trans hid'.symm) hobeys hobeys' c
      rw [hid]
      exact hlook
    · exact hallowed hobeys'
  rw [← bandwidthLimitAllowsTX_congr htiming] at hquiet
  rw [(timing_of_transmission h).1]
  exact bandwidthLimitAllowsTX_iff.1 hquiet

end Pass

def taskStep (st : AslState) (clock : TimeVal × UInt32) : AslState := aslTask clock.1 clock.2 st

def transmissions : AslState → List (TimeVal × UInt32) → List Transmission
  | _, [] => []
  | st, clock :: passes =>
    (transmission clock.1 clock.2 st).toList ++ transmissions (taskStep st clock) passes

/-- No APDU that obeys its contract's bandwidth is handed over before the contract may send, and two messages of a contract with such APDUs are an interval apart, unless the clock was set back for a message of the contract between them. -/
structure BandwidthLaw (ts : List Transmission) : Prop where
  notBefore : ∀ t ∈ ts, t.Limited → ¬ t.time.Before t.notBefore
  spaced : ∀ before a between b after, ts = before ++ a :: (between ++ b :: after) →
    a.contractId = b.contractId → a.Limited → b.Limited →
    (∀ t ∈ between, t.contractId = a.contractId → a.time.micros ≤ t.time.micros) →
    a.time.micros + a.contract.interval ≤ b.time.micros

/-- The clock is a clock, no contract that has to wait holds ready APDUs of both kinds, and the next time of a contract with a ready APDU fits a `long`. -/
def KeepsBandwidth (st : AslState) (clock : TimeVal × UInt32) : Prop :=
  clock.1.Valid ∧ Unmixed clock.1 st ∧ ∀ m ∈ st.queue, m.ReadyToSend →
      ∀ c ∈ st.shared.contracts.lookup m.contractId, RecordFits clock.1 c

instance (st : AslState) (clock : TimeVal × UInt32) : Decidable (KeepsBandwidth st clock) :=
  inferInstanceAs (Decidable (_ ∧ _))

def WaitsFrom (contracts : Contracts) (id : UInt16) (start interval : Int) : Prop :=
  ∃ c, contracts.lookup id = some c ∧ c.interval = interval ∧ c.sendNoEarlierThan.Valid ∧
    start + interval ≤ c.sendNoEarlierThan.micros

section Passes

variable {st : AslState} {clock : TimeVal × UInt32} {passes : List (TimeVal × UInt32)}
  {id : UInt16} {start interval : Int}

theorem WaitsFrom.congr {contracts contracts' : Contracts} (htiming : contracts'.timing id = contracts.timing id)
    (h : WaitsFrom contracts id start interval) : WaitsFrom contracts' id start interval := by
  obtain ⟨c, hlook, hinterval, hvalid, hlate⟩ := h
  rw [Contracts.timing, Contracts.timing, hlook] at htiming
  obtain ⟨c', hlook', hsame⟩ := Option.map_eq_some_iff.1 htiming
  obtain ⟨-, -, -, hburst, htime⟩ : _ ∧ _ ∧ _ ∧ _ ∧ _ := by
    simpa [Contract.timing] using hsame
  refine ⟨c', hlook', ?_, htime ▸ hvalid, htime ▸ hlate⟩
  rw [Contract.interval, hburst]
  exact hinterval

theorem waitsFrom_of_transmission {t : Transmission} (hok : KeepsBandwidth st clock)
    (h : transmission clock.1 clock.2 st = some t) :
    WaitsFrom (taskStep st clock).shared.contracts t.contractId t.time.micros
      t.contract.interval := by
  obtain ⟨hvalid, -, hall⟩ := hok
  obtain ⟨htime, -, hafter⟩ := timing_of_transmission h
  obtain ⟨m, hm, hready, hid, c, hlook, htiming, -⟩ := selected_of_transmission h
  have hburst : t.contract.comittedBurst = c.comittedBurst := congrArg (·.2.2.2.1) htiming
  have hfits : RecordFits clock.1 t.contract := by
    have hc := hall m hm hready c (hid ▸ hlook)
    simpa only [RecordFits, Contract.interval, hburst] using hc
  obtain ⟨hvalid', hmicros⟩ := micros_recordPacketNextTXTime hvalid hfits
  have hown := congrFun hafter t.contractId
  rw [Function.update_self, Contracts.timing] at hown
  obtain ⟨c', hlook', hsame⟩ := Option.map_eq_some_iff.1 hown
  obtain ⟨-, -, -, hburst', hnext⟩ : _ ∧ _ ∧ _ ∧ _ ∧ _ := by
    simpa [Contract.timing] using hsame
  refine ⟨c', hlook', ?_, hnext ▸ hvalid', ?_⟩
  · rw [Contract.interval, hburst']
    rfl
  · rw [htime, hnext]
    exact hmicros.ge

theorem spaced_of_waitsFrom {between after : List Transmission} {b : Transmission}
    (hok : Along KeepsBandwidth taskStep st passes) (hwaits : WaitsFrom st.shared.contracts id start interval)
    (hsplit : transmissions st passes = between ++ b :: after) (hid : b.contractId = id) (hlimited : b.Limited)
    (hbetween : ∀ t ∈ between, t.contractId = id → start ≤ t.time.micros) : start + interval ≤ b.time.micros := by
  induction passes generalizing st between with
  | nil => simp [transmissions] at hsplit
  | cons clock passes ih =>
    obtain ⟨hhere, hrest⟩ := hok
    cases hsent : transmission clock.1 clock.2 st with
    | none =>
      rw [transmissions, hsent] at hsplit
      apply ih hrest (hwaits.congr _) hsplit hbetween
      exact congrFun (timing_of_no_transmission hsent) id
    | some t =>
      rw [transmissions, hsent] at hsplit
      obtain ⟨htime, hfrom, hafter⟩ := timing_of_transmission hsent
      cases between with
      | nil =>
        obtain ⟨rfl, -⟩ := List.cons.inj hsplit
        obtain ⟨c, hlook, -, hvalid, hlate⟩ := hwaits
        have hbefore := notBefore_of_limited hhere.2.1 hsent hlimited
        rw [hid, Contracts.timing, hlook] at hfrom
        have hsame : c.sendNoEarlierThan = t.notBefore :=
          congrArg (·.2.2.2.2) (Option.some.inj hfrom)
        calc start + interval
            ≤ t.notBefore.micros := hsame ▸ hlate
          _ ≤ t.time.micros := by
              apply le_of_lt
              exact hbefore.micros_lt (hsame ▸ hvalid) (htime ▸ hhere.1)
      | cons t' between =>
        obtain ⟨rfl, htail⟩ := List.cons.inj hsplit
        have hlater : ∀ t' ∈ between, t'.contractId = id → start ≤ t'.time.micros :=
          fun t' ht' => hbetween t' (List.mem_cons_of_mem t ht')
        apply ih hrest _ htail hlater
        by_cases hown : t.contractId = id
        · have hstart := hbetween t List.mem_cons_self hown
          obtain ⟨c', hlook', hinterval', hvalid', hlate'⟩ := waitsFrom_of_transmission hhere hsent
          obtain ⟨c, hlook, hinterval, -⟩ := hwaits
          rw [hown, Contracts.timing, hlook] at hfrom
          have hburst : c.comittedBurst = t.contract.comittedBurst :=
            congrArg (·.2.2.2.1) (Option.some.inj hfrom)
          have hsame : t.contract.interval = interval := by
            rw [← hinterval, Contract.interval, Contract.interval, hburst]
          rw [hsame] at hinterval' hlate'
          exact ⟨c', hown ▸ hlook', hinterval', hvalid', by omega⟩
        · apply hwaits.congr
          change (aslTask clock.1 clock.2 st).shared.contracts.timing id = _
          rw [hafter, Function.update_of_ne (Ne.symm hown)]

theorem notBefore_of_mem {t : Transmission} (hok : Along KeepsBandwidth taskStep st passes)
    (ht : t ∈ transmissions st passes) (hlimited : t.Limited) : t.notBefore.Before t.time := by
  induction passes generalizing st with
  | nil => cases ht
  | cons clock passes ih =>
    rcases List.mem_append.1 ht with hhere | hrest
    · exact notBefore_of_limited hok.1.2.1 (Option.mem_toList.1 hhere) hlimited
    · exact ih hok.2 hrest

theorem spaced_of_split {before between after : List Transmission} {a b : Transmission}
    (hok : Along KeepsBandwidth taskStep st passes)
    (hsplit : transmissions st passes = before ++ a :: (between ++ b :: after))
    (hid : a.contractId = b.contractId) (hlimited : b.Limited)
    (hbetween : ∀ t ∈ between, t.contractId = a.contractId → a.time.micros ≤ t.time.micros) :
    a.time.micros + a.contract.interval ≤ b.time.micros := by
  induction passes generalizing st before with
  | nil => simp [transmissions] at hsplit
  | cons clock passes ih =>
    cases hsent : transmission clock.1 clock.2 st with
    | none =>
      rw [transmissions, hsent] at hsplit
      exact ih hok.2 hsplit
    | some t =>
      rw [transmissions, hsent] at hsplit
      cases before with
      | nil =>
        obtain ⟨rfl, htail⟩ := List.cons.inj hsplit
        exact spaced_of_waitsFrom hok.2 (waitsFrom_of_transmission hok.1 hsent) htail hid.symm
          hlimited hbetween
      | cons t' before =>
        obtain ⟨-, htail⟩ := List.cons.inj hsplit
        exact ih hok.2 htail

/-- The law holds of every sequence of passes that keep the bandwidth, from any state. -/
theorem bandwidthLaw_of_passes (hok : Along KeepsBandwidth taskStep st passes) :
    BandwidthLaw (transmissions st passes) where
  notBefore _ ht hlimited := (notBefore_of_mem hok ht hlimited).asymm
  spaced _ _ _ _ _ hsplit hid _ hlimited hbetween :=
    spaced_of_split hok hsplit hid hlimited hbetween

end Passes

def samplePacedRequest (obeyContractBandwidth : UInt8) : AddRequest :=
  { sampleRequest 1 sampleWriteRsp with obeyContractBandwidth := obeyContractBandwidth }

def samplePacedActions : List AslAction :=
  [.setContract sampleOwnAddress 9 (sampleSetContract 1 0),
    .addGenericObject sampleRetries (samplePacedRequest 1), .aslTask ⟨100, 0⟩ 100,
    .addGenericObject sampleRetries (samplePacedRequest 1)]

theorem bandwidthLaw_of_passes_sample : BandwidthLaw (transmissions (run aslStep AslState.init samplePacedActions)
      [(⟨100, 500000⟩, 100), (⟨101, 1⟩, 101)]) :=
  bandwidthLaw_of_passes (by decide +kernel)

/-- An APDU that does not obey the bandwidth takes one that does along, half a second early. -/
theorem mixedQueue_breaks_bandwidthLaw : ¬ ∀ st, Reachable AslState.init aslStep (fun _ _ => True) st →
      ∀ passes : List (TimeVal × UInt32), (∀ clock ∈ passes, clock.1.Valid) →
        BandwidthLaw (transmissions st passes) := by
  intro h
  let actions := samplePacedActions ++ [.addGenericObject sampleRetries (samplePacedRequest 0)]
  have hlaw := h (run aslStep AslState.init actions) (reachable_run (along_true _ _))
    [(⟨100, 500000⟩, 100)] (by decide)
  have hearly : ∃ t ∈ transmissions (run aslStep AslState.init actions) [(⟨100, 500000⟩, 100)],
      t.Limited ∧ t.time.Before t.notBefore := by decide +kernel
  obtain ⟨t, ht, hlimited, hbefore⟩ := hearly
  exact hlaw.notBefore t ht hlimited hbefore

end Isa100Gateway
