import Isa100Gateway.Asl.Correlation
import Isa100Gateway.Asl.RetryTimer

/-!
# Round trips in clocked runs

A request is given up when its 16-bit lifetime has been counted down, so a response to a request that was sent gives a sample of at most 65536 times the distance between two calls of `ASLDE_PerformOneSecondOperations`. The source asks for a call every second; the estimator can take distances up to 819 seconds.
-/

namespace Isa100Gateway

open Machine List

/-- The machinery with the TAI of the last step and of the last one-second operations, in seconds. -/
structure Clocked where
  asl : AslState
  now : Nat
  ticked : Nat

namespace Clocked

def start (t : Nat) : Clocked := ⟨AslState.init, t, t⟩

def ticks : AslAction → Bool
  | .oneSecond => true
  | _ => false

/-- The action and the TAI at which it happens. -/
def step (s : Clocked) (e : Nat × AslAction) : Clocked :=
  ⟨aslStep s.asl e.2, e.1, if ticks e.2 then e.1 else s.ticked⟩

def reads (t : Nat) : AslAction → Prop
  | .aslTask _ now => now.toNat = t
  | .response now _ => now.toNat = t
  | _ => True

instance (t : Nat) : ∀ a : AslAction, Decidable (reads t a)
  | .aslTask .. | .response .. => inferInstanceAs (Decidable (_ = _))
  | .addGenericObject .. | .dataConfirm _ | .oneSecond | .setContract .. | .addDmoContract .. | .deleteContract _ =>
    isTrue trivial

/-- The clock does not go back, every step reads it, and two calls of the one-second operations are at most `interval` seconds apart. -/
def InTime (interval : Nat) (s : Clocked) (e : Nat × AslAction) : Prop :=
  s.now ≤ e.1 ∧ e.1 ≤ s.ticked + interval ∧ reads e.1 e.2

instance (interval : Nat) (s : Clocked) (e : Nat × AslAction) : Decidable (InTime interval s e) :=
  inferInstanceAs (Decidable (_ ∧ _))

end Clocked

/-- The calls of the one-second operations after which the entry is given up: a lifetime of 0 wraps. -/
def TxMsg.ticksLeft (m : TxMsg) : Nat := (m.lifetime - 1).toNat + 1

/-- What the send time of an entry has to do with the clock and with the lifetime that is left. -/
def TxMsg.Dated (interval ticked now : Nat) (m : TxMsg) : Prop :=
  m.sendTime ≠ 0 → m.sendTime.toNat ≤ now ∧ ticked + interval * m.ticksLeft ≤ m.sendTime.toNat + interval * 65536

variable {interval ticked now t : Nat} {m m' x : TxMsg} {queue : List TxMsg} {st : AslState} {s : Clocked}

theorem ticksLeft_le (m : TxMsg) : m.ticksLeft ≤ 65536 := (m.lifetime - 1).toNat_lt

theorem TxMsg.Dated.mono (h : m.Dated interval ticked now) (hnow : now ≤ t) : m.Dated interval ticked t :=
  fun hsent => ⟨(h hsent).1.trans hnow, (h hsent).2⟩

theorem TxMsg.Dated.congr (h : m.Dated interval ticked now) (htime : m'.sendTime = m.sendTime)
    (hlifetime : m'.lifetime = m.lifetime) : m'.Dated interval ticked now := by
  unfold Dated ticksLeft at h ⊢
  rw [htime, hlifetime]
  exact h

theorem TxMsg.Dated.sent {tai : UInt32} (h : m.Dated interval ticked now) (htai : tai.toNat = now)
    (hticked : ticked ≤ now) (handle : UInt8) : (m.sent handle tai).Dated interval ticked now := by
  intro hsent
  by_cases hfirst : m.sendTime = 0
  · have htime : (m.sent handle tai).sendTime = tai := if_pos hfirst
    rw [htime, htai]
    have hleft := Nat.mul_le_mul_left interval (ticksLeft_le (m.sent handle tai))
    exact ⟨le_rfl, by omega⟩
  · have htime : (m.sent handle tai).sendTime = m.sendTime := if_neg hfirst
    exact h.congr htime rfl hsent

/-! ## One-second operations -/

theorem checkTimeout_keeps (sh : Shared) (m : TxMsg) : (checkTimeout sh m).2.sendTime = m.sendTime ∧
    (checkTimeout sh m).2.lifetime = m.lifetime ∧
    (m.status = .readyToClear → (checkTimeout sh m).2.status = .readyToClear) := by
  unfold checkTimeout
  split_ifs with hidle htimer
  · exact ⟨rfl, rfl, id⟩
  · exact ⟨rfl, rfl, id⟩
  · unfold retryMessage
    refine ⟨?_, ?_, fun hclear => absurd (Or.inl hclear) hidle⟩ <;> split_ifs <;> rfl

theorem checkLifetime_counts {sh : Shared} (hlive : (checkLifetime sh m).2.status ≠ .readyToClear) :
    (checkLifetime sh m).2 = { m with lifetime := m.lifetime - 1 } ∧ m.lifetime - 1 ≠ 0 := by
  by_cases hcleared : m.status = .readyToClear
  · rw [checkLifetime, if_pos hcleared] at hlive
    exact absurd hcleared hlive
  · rw [checkLifetime, if_neg hcleared] at hlive ⊢
    by_cases hzero : m.lifetime - 1 = 0
    · simp only [if_pos hzero, ne_eq] at hlive
      exact absurd rfl hlive
    · simp only [if_neg hzero]
      exact ⟨trivial, hzero⟩

/-- An entry that outlives the one-second operations has one of them less to go. -/
theorem timeoutVisit_ticks {sh : Shared} (hx : x ∈ (timeoutVisit sh m).2) (hlive : x.status ≠ .readyToClear) :
    x.sendTime = m.sendTime ∧ x.ticksLeft + 1 = m.ticksLeft := by
  rw [timeoutVisit_eq] at hx
  obtain rfl := Option.mem_some_iff.mp hx
  obtain ⟨htime, hlifetime, hclear⟩ := checkTimeout_keeps (checkLifetime sh m).1 (checkLifetime sh m).2
  obtain ⟨hcounted, hzero⟩ := checkLifetime_counts fun h => hlive (hclear h)
  have hpos : (1 : UInt16) ≤ m.lifetime - 1 := by
    rw [UInt16.le_iff_toNat_le]
    exact Nat.one_le_iff_ne_zero.mpr fun h => hzero (UInt16.toNat_inj.mp h)
  unfold TxMsg.ticksLeft
  rw [htime, hlifetime, hcounted]
  refine ⟨rfl, ?_⟩
  change (m.lifetime - 1 - 1).toNat + 1 + 1 = (m.lifetime - 1).toNat + 1
  rw [UInt16.toNat_sub_of_le _ _ hpos]
  have hone : 1 ≤ (m.lifetime - 1).toNat := UInt16.le_iff_toNat_le.mp hpos
  change (m.lifetime - 1).toNat - 1 + 1 + 1 = _
  omega

/-! ## Steps -/

def AllDated (interval ticked now : Nat) (queue : List TxMsg) : Prop :=
  ∀ m ∈ queue, m.Dated interval ticked now

theorem AllDated.confirmQueue (h : AllDated interval ticked now queue) (conf : ApduConfirm) :
    AllDated interval ticked now (confirmQueue queue conf) := by
  intro x hx
  obtain ⟨m, hm, hx⟩ := mem_filterMap.mp hx
  have hkeeps : x.sendTime = m.sendTime ∧ x.lifetime = m.lifetime := by
    rcases confirmMsg_cases conf m with heq | ⟨-, heq | heq | ⟨-, heq⟩ | ⟨-, heq⟩⟩ <;> rw [heq] at hx <;> cases hx <;>
      exact ⟨rfl, rfl⟩
  exact (h m hm).congr hkeeps.1 hkeeps.2

theorem AllDated.searchStep (h : AllDated interval ticked now st.queue) (tvNow : TimeVal) :
    AllDated interval ticked now (searchStep tvNow st).1.queue := by
  intro x hx
  obtain ⟨⟨sh, best⟩, m, hm, hx⟩ := mem_pass hx
  obtain rfl : x = m := by
    rcases searchVisit_cases tvNow sh best m with ⟨-, -, heq⟩ | ⟨best', heq⟩ | ⟨best', -, heq⟩ <;> rw [heq] at hx <;>
      cases hx
    · rfl
    · rfl
  exact h x hm

theorem AllDated.sendConcatenated {tai : UInt32} {tvNow : TimeVal} {idtf : ApduIdtfTx} {c : Contract}
    (h : AllDated interval ticked now st.queue) (htai : tai.toNat = now) (hticked : ticked ≤ now) :
    AllDated interval ticked now (sendConcatenated tvNow tai idtf c st).queue := by
  intro x hx
  obtain ⟨⟨c', out⟩, m, hm, hx⟩ := mem_pass hx
  have hdated := h m hm
  rcases concatVisit_cases idtf.contractId c.tsduRoom st.handle tai c' out m with
    heq | ⟨-, -, ⟨-, -, -, heq⟩ | ⟨-, -, -, heq⟩ | ⟨-, -, heq⟩ | ⟨-, -, heq⟩⟩ <;> rw [heq] at hx <;> cases hx
  · exact hdated
  · exact hdated
  · exact TxMsg.Dated.sent (m := { m with inSlidingWindow := true }) (hdated.congr rfl rfl) htai hticked _
  · exact hdated.sent htai hticked _
  · exact hdated.congr rfl rfl

theorem AllDated.aslTask {tai : UInt32} {tvNow : TimeVal} (h : AllDated interval ticked now st.queue)
    (htai : tai.toNat = now) (hticked : ticked ≤ now) : AllDated interval ticked now (aslTask tvNow tai st).queue := by
  have hconfirms : AllDated interval ticked now (checkTLConfirms st).queue :=
    run_invariant (P := AllDated interval ticked now) (fun _ conf h _ => h.confirmQueue conf) h
      (along_true st.queue st.conf)
  have hsearch := AllDated.searchStep hconfirms tvNow
  exact flushAPDUBuffer_rule (P := fun st => AllDated interval ticked now st.queue) hsearch fun _ _ _ _ =>
    AllDated.sendConcatenated hsearch htai hticked

theorem AllDated.searchOriginalRequest (h : AllDated interval ticked now st.queue) (tai : UInt32) (key : ResponseKey) :
    AllDated interval ticked now (searchOriginalRequest tai key st).2.queue := by
  intro x hx
  obtain ⟨⟨sh, found⟩, m, hm, hx⟩ := mem_pass hx
  rcases responseVisit_cases tai key sh found m with heq | ⟨-, -, heq⟩ <;> rw [heq] at hx <;> cases hx
  · exact h _ hm
  · exact (h m hm).congr rfl rfl

theorem AllDated.performOneSecondOperations (h : AllDated interval ticked now st.queue) (hnow : now ≤ t)
    (ht : t ≤ ticked + interval) : AllDated interval t t (performOneSecondOperations st).queue := by
  intro x hx hsent
  obtain ⟨hx, hlive⟩ := mem_filter.mp hx
  obtain ⟨sh, m, hm, hx⟩ := mem_pass hx
  obtain ⟨htime, hticks⟩ := timeoutVisit_ticks hx (of_decide_eq_true hlive)
  obtain ⟨hle, hleft⟩ := h m hm (htime ▸ hsent)
  rw [htime]
  rw [← hticks, Nat.mul_succ] at hleft
  exact ⟨hle.trans hnow, by omega⟩

/-- The last one-second operations are over, and every queued entry is dated. -/
structure Clocked.Dated (interval : Nat) (s : Clocked) : Prop where
  ticked : s.ticked ≤ s.now
  queue : AllDated interval s.ticked s.now s.asl.queue

theorem Clocked.Dated.step {e : Nat × AslAction} (h : s.Dated interval) (hok : s.InTime interval e) :
    (s.step e).Dated interval := by
  obtain ⟨t, a⟩ := e
  obtain ⟨hnow, hinterval, hreads⟩ := hok
  have hticked : s.ticked ≤ t := h.ticked.trans hnow
  have hqueue : AllDated interval s.ticked t s.asl.queue := fun m hm => (h.queue m hm).mono hnow
  cases a with
  | addGenericObject cfg req =>
    refine ⟨hticked, ?_⟩
    change AllDated interval s.ticked t (addGenericObject cfg req s.asl).2.queue
    rcases addGenericObject_cases cfg req s.asl with heq | ⟨c, -, heq | ⟨apdu, -, heq⟩⟩
    · rw [heq]
      exact hqueue
    · rw [heq]
      exact hqueue
    · rw [heq]
      intro x hx
      rcases mem_append.mp hx with hx | hx
      · exact hqueue x hx
      · obtain rfl := mem_singleton.mp hx
        exact fun hsent => absurd rfl hsent
  | aslTask tvNow tai => exact ⟨hticked, hqueue.aslTask hreads hticked⟩
  | dataConfirm conf =>
    refine ⟨hticked, ?_⟩
    obtain ⟨confs, heq⟩ := dataConfirm_eq s.asl conf
    change AllDated interval s.ticked t (dataConfirm s.asl conf).queue
    rw [heq]
    exact hqueue
  | response tai key => exact ⟨hticked, hqueue.searchOriginalRequest tai key⟩
  | oneSecond => exact ⟨le_rfl, AllDated.performOneSecondOperations h.queue hnow hinterval⟩
  | setContract ownAddress random req =>
    refine ⟨hticked, ?_⟩
    change AllDated interval s.ticked t (setContract ownAddress random req s.asl).2.queue
    rw [(sameQueue_setContract ownAddress random req s.asl).queue]
    exact hqueue
  | addDmoContract random unset dmo =>
    refine ⟨hticked, ?_⟩
    change AllDated interval s.ticked t (addDmoContract random unset dmo s.asl).2.queue
    rw [(sameQueue_addDmoContract random unset dmo s.asl).queue]
    exact hqueue
  | deleteContract id => exact ⟨hticked, hqueue⟩

/-- The sample of a response to a request that was sent. -/
theorem Clocked.Dated.sample_le {tai : UInt32} (h : s.Dated interval) (hnow : s.now ≤ tai.toNat)
    (hinterval : tai.toNat ≤ s.ticked + interval) (hm : m ∈ s.asl.queue) (hsent : m.sendTime ≠ 0) :
    (tai - m.sendTime).toNat ≤ interval * 65536 := by
  obtain ⟨hle, hleft⟩ := h.queue m hm hsent
  have horder : m.sendTime ≤ tai := UInt32.le_iff_toNat_le.mpr (hle.trans hnow)
  rw [UInt32.toNat_sub_of_le _ _ horder]
  have hleast : interval * 1 ≤ interval * m.ticksLeft := Nat.mul_le_mul_left interval (Nat.le_add_left 1 _)
  omega

theorem initialRTO_caps (comittedBurst : Int16) :
    1 ≤ (initialRTO comittedBurst).toInt ∧ (initialRTO comittedBurst).toInt ≤ 60 := by
  unfold initialRTO
  generalize Int32.ofInt (2 * -comittedBurst.toInt) = rto
  by_cases hlow : rto < 3
  · simp [hlow]
  · have hthree : (3 : Int) ≤ rto.toInt := Int32.le_iff_toInt_le.mp (Int32.not_lt.mp hlow)
    by_cases hhigh : rto > 60
    · simp [hlow, hhigh]
    · have hsixty : rto.toInt ≤ 60 := Int32.le_iff_toInt_le.mp (Int32.not_lt.mp hhigh)
      simp only [hlow, hhigh, if_false]
      omega

/-- The retry timer is within its caps, and the estimator has taken no sample or only samples that fit. -/
structure Contract.Timed (c : Contract) : Prop where
  rto : 1 ≤ c.rto.toInt ∧ c.rto.toInt ≤ 60
  estimate : c.estimate.srtt = 0 ∨ c.estimate.Within 1 maxRoundTrip

namespace Contract.Timed

variable {c c' : Contract}

theorem congr (h : c.Timed) (htiming : c'.timing = c.timing) : c'.Timed := by
  obtain ⟨hrto, hsrtt, hrttv, -⟩ : _ ∧ _ ∧ _ ∧ _ := by simpa [Contract.timing] using htiming
  have hestimate : c'.estimate = c.estimate := by simp [Contract.estimate, hsrtt, hrttv]
  exact ⟨hrto ▸ h.rto, hestimate ▸ h.estimate⟩

theorem responseReceived {tai : UInt32} (h : c.Timed) (hmax : (tai - m.sendTime).toNat ≤ maxRoundTrip) :
    (responseReceived tai m c).Timed := by
  have htimed : (computeTXtimeout c (tai - m.sendTime)).Timed := by
    refine ⟨rto_computeTXtimeout c _, Or.inr ?_⟩
    exact within_computeTXtimeout (le_max_left _ _) (roundTrip_le hmax) le_rfl h.estimate
  unfold Isa100Gateway.responseReceived
  by_cases hmarked : m.inSlidingWindow = true
  · rw [if_pos hmarked]
    exact htimed.congr (timing_receiveResponse _)
  · rw [if_neg hmarked]
    exact htimed

end Contract.Timed

theorem contractRule_timed : ContractRule Contract.Timed where
  allowsTX c h := h.congr (timing_slidingWindowAllowsTX c)
  increaseUsage c h := h.congr (timing_slidingWindowIncreaseUsage c)
  packetSent _ _ h := ⟨h.rto, h.estimate⟩
  takeReqID _ h := ⟨h.rto, h.estimate⟩
  setContract req _ _ _ := ⟨initialRTO_caps req.comittedBurst, Or.inl rfl⟩
  updated dmo _ h := ⟨initialRTO_caps dmo.comittedBurst, h.estimate⟩
  addDmoContract dmo _ _ _ := ⟨initialRTO_caps dmo.comittedBurst, Or.inl rfl⟩

theorem timed_performOneSecondOperations (h : AllContracts Contract.Timed st.shared.contracts) :
    AllContracts Contract.Timed (performOneSecondOperations st).shared.contracts := by
  have hrelease : ∀ c : Contract, c.Timed → (receiveResponseForSlidingWindow c).Timed :=
    fun c hc => hc.congr (timing_receiveResponse c)
  apply pass_invariant_all (s := st.shared)
    (P := fun (sh : Shared) (_ : List TxMsg) => AllContracts Contract.Timed sh.contracts) _ h
  intro sh _ m _ h
  obtain ⟨_, _, hm'⟩ := timeoutVisit_rule (m := m)
    (P := fun (sh : Shared) _ => AllContracts Contract.Timed sh.contracts)
    (fun _ _ _ _ h => h) (fun _ _ _ h => h.release hrelease)
    (fun sh m h => h.onContract fun c _ hc => hc.congr (timing_receiveTimeout c))
    (fun _ _ _ _ _ h => h) h
  exact hm'

namespace Clocked

/-- A response has the ids of no entry that was not sent. -/
def Solicits (s : Clocked) : AslAction → Prop
  | .response _ key => ∀ m ∈ s.asl.queue, m.answers key → m.sendTime ≠ 0
  | _ => True

instance (s : Clocked) : ∀ a : AslAction, Decidable (s.Solicits a)
  | .response .. => inferInstanceAs (Decidable (∀ _ ∈ _, _ → _))
  | .addGenericObject .. | .aslTask .. | .dataConfirm _ | .oneSecond | .setContract .. | .addDmoContract ..
  | .deleteContract _ => isTrue trivial

def Admits (interval : Nat) (s : Clocked) (e : Nat × AslAction) : Prop :=
  s.InTime interval e ∧ s.Solicits e.2

instance (interval : Nat) (s : Clocked) (e : Nat × AslAction) : Decidable (s.Admits interval e) :=
  inferInstanceAs (Decidable (_ ∧ _))

theorem Dated.responses {tai : UInt32} {key : ResponseKey} (h : s.Dated interval) (hshort : interval ≤ 819)
    (hok : s.Admits interval (tai.toNat, .response tai key)) (hm : m ∈ s.asl.queue) (hanswers : m.answers key) :
    (tai - m.sendTime).toNat ≤ maxRoundTrip := by
  obtain ⟨⟨hnow, hinterval, -⟩, hsolicits⟩ := hok
  calc (tai - m.sendTime).toNat
      ≤ interval * 65536 := h.sample_le hnow hinterval hm (hsolicits m hm hanswers)
    _ ≤ 819 * 65536 := Nat.mul_le_mul_right _ hshort
    _ ≤ maxRoundTrip := by decide

theorem timed_step {e : Nat × AslAction} (hshort : interval ≤ 819) (hdated : s.Dated interval)
    (h : AllContracts Contract.Timed s.asl.shared.contracts) (hok : s.Admits interval e) :
    AllContracts Contract.Timed (s.step e).asl.shared.contracts := by
  obtain ⟨t, a⟩ := e
  refine contractRule_timed.aslStep a ?_ (fun _ => timed_performOneSecondOperations h) h
  rintro tai key rfl
  obtain rfl : tai.toNat = t := hok.1.2.2
  refine AllContracts.searchOriginalRequest ?_ h
  intro m hm hanswers c hc
  exact hc.responseReceived (hdated.responses hshort hok hm hanswers)

end Clocked

/-- Samples that the estimator can take, each counted as one second at least, keep the smoothed round trip of a new contract between the least and the greatest of them, without an overflow and with the retry timer within its caps. In every run with one-second operations at most 819 seconds apart, the contracts keep these bounds, and a response to a request that was sent gives such a sample. -/
theorem retry_timer_bounds :
    (∀ (c : Contract) (samples : List UInt32), c.srtt = 0 → samples ≠ [] →
      (∀ rtt ∈ samples, rtt.toNat ≤ maxRoundTrip) →
      (∀ lo hi, (∀ rtt ∈ samples, lo ≤ roundTrip rtt ∧ roundTrip rtt ≤ hi) →
        8 * lo ≤ (run computeTXtimeout c samples).srtt.toNat ∧
          (run computeTXtimeout c samples).srtt.toNat ≤ 8 * hi) ∧
      Along TimerFits computeTXtimeout c samples ∧ 1 ≤ (run computeTXtimeout c samples).rto.toInt ∧
        (run computeTXtimeout c samples).rto.toInt ≤ 60) ∧
    ∀ (t interval : Nat) (s : Clocked), interval ≤ 819 →
      Reachable (Clocked.start t) Clocked.step (Clocked.Admits interval) s →
      AllContracts Contract.Timed s.asl.shared.contracts ∧
        ∀ tai key, s.Admits interval (tai.toNat, .response tai key) →
          ∀ m ∈ (searchOriginalRequest tai key s.asl).1, (tai - m.sendTime).toNat ≤ maxRoundTrip := by
  refine ⟨fun c samples hnew hne hmax => computeTXtimeout_bounds hnew hne hmax, ?_⟩
  intro t interval s hshort h
  have hinit : (Clocked.start t).Dated interval := ⟨le_rfl, fun m hm => by cases hm⟩
  obtain ⟨hdated, htimed⟩ : s.Dated interval ∧ AllContracts Contract.Timed s.asl.shared.contracts := by
    refine h.invariant (P := fun s => s.Dated interval ∧ AllContracts Contract.Timed s.asl.shared.contracts)
      ⟨hinit, fun id c hc => by cases hc⟩ ?_
    rintro s e ⟨hdated, htimed⟩ hok
    exact ⟨hdated.step hok.1, Clocked.timed_step hshort hdated htimed hok⟩
  refine ⟨htimed, fun tai key hok m hm => ?_⟩
  rcases pass_responseVisit tai key s.asl.shared s.asl.queue with
    ⟨-, hpass⟩ | ⟨older, m', younger, sh', hqueue, -, horiginal, hpass⟩
  · simp [searchOriginalRequest, hpass] at hm
  · obtain rfl : m' = m := by simpa [searchOriginalRequest, hpass] using hm
    have hmem : m' ∈ s.asl.queue := by
      rw [hqueue]
      exact mem_append_right older mem_cons_self
    exact hdated.responses hshort hok hmem horiginal.1

def sampleRoundTrips : List UInt32 := [0, 5, 3]

def sampleTimedContract : Contract := (sampleSetContract 1 2).contract 0 0 9

/-- A request that is sent at second 100, and the one-second operations at 101. -/
def sampleClocked : Clocked :=
  run Clocked.step (Clocked.start 99)
    [(99, .setContract sampleOwnAddress 9 (sampleSetContract 1 1)),
      (100, .addGenericObject sampleRetries (sampleRequest 1 sampleReadReq)), (100, .aslTask ⟨100, 0⟩ 100),
      (101, .oneSecond)]

theorem retry_timer_bounds_sample :
    ((∀ lo hi, (∀ rtt ∈ sampleRoundTrips, lo ≤ roundTrip rtt ∧ roundTrip rtt ≤ hi) →
        8 * lo ≤ (run computeTXtimeout sampleTimedContract sampleRoundTrips).srtt.toNat ∧
          (run computeTXtimeout sampleTimedContract sampleRoundTrips).srtt.toNat ≤ 8 * hi) ∧
      Along TimerFits computeTXtimeout sampleTimedContract sampleRoundTrips ∧
      1 ≤ (run computeTXtimeout sampleTimedContract sampleRoundTrips).rto.toInt ∧
        (run computeTXtimeout sampleTimedContract sampleRoundTrips).rto.toInt ≤ 60) ∧
    AllContracts Contract.Timed sampleClocked.asl.shared.contracts ∧
      ∃ m ∈ (searchOriginalRequest 105 sampleReadRspKey sampleClocked.asl).1, (105 - m.sendTime).toNat ≤
        maxRoundTrip := by
  have hreach : Reachable (Clocked.start 99) Clocked.step (Clocked.Admits 5) sampleClocked :=
    reachable_run (by decide +kernel)
  have hadmits : sampleClocked.Admits 5 (105, .response 105 sampleReadRspKey) := by decide +kernel
  have hsome : (searchOriginalRequest 105 sampleReadRspKey sampleClocked.asl).1.isSome := by decide +kernel
  obtain ⟨m, hm⟩ := Option.isSome_iff_exists.mp hsome
  obtain ⟨htimed, hresponses⟩ := retry_timer_bounds.2 99 5 sampleClocked (by decide) hreach
  exact ⟨retry_timer_bounds.1 sampleTimedContract sampleRoundTrips rfl (by decide)
      (by simp [sampleRoundTrips, maxRoundTrip]),
    htimed, m, hm, hresponses 105 sampleReadRspKey hadmits m hm⟩

/-- A response within the second of its request counts as one second, so the average is above every sample. -/
theorem instantResponse_exceeds : ¬ ∀ (c : Contract) (samples : List UInt32), c.srtt = 0 → samples ≠ [] →
      (∀ rtt ∈ samples, rtt.toNat ≤ maxRoundTrip) →
      ∀ lo hi, (∀ rtt ∈ samples, lo ≤ rtt.toNat ∧ rtt.toNat ≤ hi) →
        8 * lo ≤ (run computeTXtimeout c samples).srtt.toNat + 1 ∧
          (run computeTXtimeout c samples).srtt.toNat ≤ 8 * hi + 1 := by
  intro h
  have habove := (h sampleTimedContract [0] rfl (by decide) (by simp) 0 0 (by simp)).2
  have height : (run computeTXtimeout sampleTimedContract [0]).srtt.toNat = 8 := by decide
  omega

end Isa100Gateway
