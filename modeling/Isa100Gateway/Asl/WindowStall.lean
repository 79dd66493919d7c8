import Isa100Gateway.Asl.ContractRules
import Isa100Gateway.Asl.Window

/-!
# No window stall

A window with nothing outstanding has to be open, because only a response or the end of an outstanding message opens it again. The one branch that breaks this is a retry of a message outside the window.
-/

namespace Isa100Gateway

open Machine

def NoWindowStall (st : AslState) : Prop :=
  ∀ id c, st.shared.contracts.lookup id = some c → c.maxSendWindow ≠ 0 → c.inUseWndSize = 0 →
    1 ≤ c.crtWndSize ∧ (slidingWindowAllowsTX c).1 = true

def Contract.Open (c : Contract) : Prop := c.inUseWndSize = 0 → c.crtWndSize ≠ 0

def AllOpen (contracts : Contracts) : Prop := ∀ id c, contracts.lookup id = some c → c.Open

variable {c : Contract}

theorem Contract.Open.allowsTX (h : c.Open) (hmax : c.maxSendWindow ≠ 0)
    (hidle : c.inUseWndSize = 0) : (slidingWindowAllowsTX c).1 = true := by
  have hcrt := UInt8.pos_iff_ne_zero.2 (h hidle)
  have hwindow := UInt8.pos_iff_ne_zero.2 hmax
  by_cases hlimit : c.crtWndSize > c.maxSendWindow
  · simpa [slidingWindowAllowsTX, hmax, hlimit, hidle] using hwindow
  · simpa [slidingWindowAllowsTX, hmax, hlimit, hidle] using hcrt

theorem Contract.Open.slidingWindowAllowsTX (h : c.Open) : (slidingWindowAllowsTX c).2.Open := by
  intro hidle
  rw [inUse_slidingWindowAllowsTX] at hidle
  by_cases hmax : c.maxSendWindow = 0
  · simpa [Isa100Gateway.slidingWindowAllowsTX, hmax] using h hidle
  · by_cases hlimit : c.crtWndSize > c.maxSendWindow
    · simp [Isa100Gateway.slidingWindowAllowsTX, hmax, hlimit]
    · simpa [Isa100Gateway.slidingWindowAllowsTX, hmax, hlimit] using h hidle

theorem Contract.Open.slidingWindowIncreaseUsage (h : c.Open) : (slidingWindowIncreaseUsage c).2.Open := by
  by_cases hmax : c.maxSendWindow = 0
  · simpa [Isa100Gateway.slidingWindowIncreaseUsage, hmax] using h
  · cases hallowed : (Isa100Gateway.slidingWindowAllowsTX c).1 with
    | true =>
      have hgranted : (Isa100Gateway.slidingWindowIncreaseUsage c).1 = true := by
        simp [Isa100Gateway.slidingWindowIncreaseUsage, hmax, hallowed]
      intro hidle
      have hone := (inUse_increaseUsage hmax hgranted).1
      rw [hidle] at hone
      simp at hone
    | false =>
      simpa [Isa100Gateway.slidingWindowIncreaseUsage, hmax, hallowed] using
        h.slidingWindowAllowsTX

private theorem succ_ne_zero_of_lt {a b : UInt8} (h : b < a) : b + 1 ≠ 0 := by
  intro hzero
  have hlt := UInt8.lt_iff_toNat_lt.1 h
  have hsum := congrArg UInt8.toNat hzero
  have ha := a.toNat_lt
  rw [UInt8.toNat_add] at hsum
  simp only [UInt8.reduceToNat] at hsum
  omega

theorem open_receiveResponse (hmax : c.maxSendWindow ≠ 0) : (receiveResponseForSlidingWindow c).Open := by
  have hgrown := fun a b => @succ_ne_zero_of_lt a b
  unfold Contract.Open receiveResponseForSlidingWindow
  rw [if_neg hmax]
  grind

theorem Contract.Open.receiveResponse (h : c.Open) : (receiveResponseForSlidingWindow c).Open := by
  by_cases hmax : c.maxSendWindow = 0
  · simpa [receiveResponseForSlidingWindow, hmax] using h
  · exact open_receiveResponse hmax

theorem open_receiveTimeout (h : c.Open) (hbusy : c.maxSendWindow ≠ 0 → c.inUseWndSize ≠ 0) :
    (receiveTimeoutForSlidingWindow c).Open := by
  by_cases hmax : c.maxSendWindow = 0
  · simpa [receiveTimeoutForSlidingWindow, hmax] using h
  · intro hidle
    rw [inUse_receiveTimeout] at hidle
    exact absurd hidle (hbusy hmax)

theorem Contract.Open.responseReceived (now : UInt32) (m : TxMsg) (h : c.Open) : (responseReceived now m c).Open := by
  obtain ⟨hinUse, hcrt, -⟩ := window_computeTXtimeout c (now - m.sendTime)
  have hcompute : (computeTXtimeout c (now - m.sendTime)).Open := by
    unfold Contract.Open
    rw [hinUse, hcrt]
    exact h
  by_cases hmarked : m.inSlidingWindow = true
  · rw [Isa100Gateway.responseReceived, if_pos hmarked]
    exact hcompute.receiveResponse
  · rw [Isa100Gateway.responseReceived, if_neg hmarked]
    exact hcompute

section Steps

variable {sh : Shared} {m : TxMsg}

def RetryKeepsOpen (sh : Shared) (m : TxMsg) : Prop :=
  ∀ c ∈ sh.contracts.lock m, c.maxSendWindow ≠ 0 → c.inUseWndSize = 0 → m.retryNo = 0 ∧ m.inSlidingWindow = true

instance (sh : Shared) (m : TxMsg) : Decidable (RetryKeepsOpen sh m) := inferInstanceAs (Decidable (∀ _ ∈ _, _))

theorem release_receiveTimeout (hmarked : m.inSlidingWindow = true) (h : AllOpen sh.contracts) :
    AllOpen ((sh.onContract m receiveTimeoutForSlidingWindow).release m).contracts := by
  rw [Shared.release, if_pos hmarked]
  intro id c' hc'
  rw [lookup_onContract, lookup_onContract, Option.map_map] at hc'
  obtain ⟨c, hc, rfl⟩ := Option.map_eq_some_iff.1 hc'
  have hserial := serial_of_core (core_receiveTimeout c)
  by_cases hown : id = m.contractId ∧ c.serial = m.weakContract
  · have hvalue : (receiveResponseForSlidingWindow (receiveTimeoutForSlidingWindow c)).Open := by
      by_cases hmax : c.maxSendWindow = 0
      · simpa [receiveResponseForSlidingWindow, receiveTimeoutForSlidingWindow, hmax] using h id c hc
      · apply open_receiveResponse
        rw [maxSendWindow_of_core (core_receiveTimeout c)]
        exact hmax
    simpa [hown, hserial] using hvalue
  · simpa [hown] using h id c hc

theorem allOpen_retryMessage (hok : RetryKeepsOpen sh m) (h : AllOpen sh.contracts) :
    AllOpen (retryMessage sh m).1.contracts := by
  by_cases hlast : m.retryNo = 0 ∧ m.inSlidingWindow = true
  · simpa [retryMessage, hlast.1, Shared.giveUp] using release_receiveTimeout hlast.2 h
  · have hclosed : AllOpen (sh.onContract m receiveTimeoutForSlidingWindow).contracts :=
      AllContracts.onContract (fun c hc hopen => open_receiveTimeout hopen
        fun hmax hidle => hlast (hok c hc hmax hidle)) h
    by_cases hno : m.retryNo ≠ 0
    · simpa [retryMessage, hno] using hclosed
    · have hreleased : AllOpen ((sh.onContract m receiveTimeoutForSlidingWindow).release m).contracts :=
        AllContracts.release (fun _ hc => hc.receiveResponse) hclosed
      simpa [retryMessage, hno, Shared.giveUp] using hreleased

def Retries (m : TxMsg) : Prop :=
  m.status ≠ .readyToClear ∧ ¬ m.ReadyToSend ∧ m.timeout = 0

instance (m : TxMsg) : Decidable (Retries m) := inferInstanceAs (Decidable (_ ∧ _))

def TimeoutKeepsOpen (sh : Shared) (m : TxMsg) : Prop :=
  Retries (checkLifetime sh m).2 → RetryKeepsOpen (checkLifetime sh m).1 (checkLifetime sh m).2

instance (sh : Shared) (m : TxMsg) : Decidable (TimeoutKeepsOpen sh m) :=
  inferInstanceAs (Decidable
    (Retries (checkLifetime sh m).2 → RetryKeepsOpen (checkLifetime sh m).1 (checkLifetime sh m).2))

theorem allOpen_timeoutVisit (hok : TimeoutKeepsOpen sh m) (h : AllOpen sh.contracts) :
    AllOpen (timeoutVisit sh m).1.contracts := by
  rw [timeoutVisit_eq]
  have hlife := checkLifetime_rule (P := fun (sh : Shared) _ => AllOpen sh.contracts)
    (fun _ _ _ _ h => h) (fun _ _ _ h => AllContracts.release (fun _ hc => hc.receiveResponse) h) (m := m) h
  apply checkTimeout_rule (P := fun (sh : Shared) _ => AllOpen sh.contracts)
    (fun _ _ _ _ h => h) hlife
  intro hclear hready htimer
  exact allOpen_retryMessage (hok ⟨hclear, hready, htimer⟩) hlife

theorem contractRule_open : ContractRule Contract.Open where
  allowsTX _ h := h.slidingWindowAllowsTX
  increaseUsage _ h := h.slidingWindowIncreaseUsage
  packetSent _ _ h := h
  takeReqID _ h := h
  setContract _ _ _ _ _ := by simp [SetContractReq.contract]
  updated _ _ h := h
  addDmoContract _ _ _ _ _ := by simp [DmoContract.contract]

def KeepsOpen (st : AslState) : AslAction → Prop
  | .oneSecond => PassAll TimeoutKeepsOpen timeoutVisit st.shared st.queue
  | _ => True

instance (st : AslState) : ∀ a, Decidable (KeepsOpen st a)
  | .oneSecond => inferInstanceAs (Decidable (PassAll _ _ _ _))
  | .aslTask .. | .addGenericObject .. | .dataConfirm _ | .response .. | .setContract ..
  | .addDmoContract .. | .deleteContract _ => isTrue trivial

theorem allOpen_aslStep {st : AslState} (a : AslAction) (h : AllOpen st.shared.contracts)
    (hok : KeepsOpen st a) : AllOpen (aslStep st a).shared.contracts := by
  apply contractRule_open.aslStep a _ _ h
  · rintro now key -
    exact AllContracts.searchOriginalRequest (fun m _ _ _ hc => hc.responseReceived now m) h
  · rintro rfl
    exact pass_invariant (P := fun (sh : Shared) (_ : List TxMsg) => AllOpen sh.contracts)
      (fun _ _ _ _ hok h => allOpen_timeoutVisit hok h) st.queue [] st.shared hok h

end Steps

/-- No window stalls in any run whose retries keep idle windows open. -/
theorem noWindowStall_of_reachable {st : AslState}
    (h : Reachable AslState.init aslStep KeepsOpen st) : NoWindowStall st := by
  have hinit : AllOpen AslState.init.shared.contracts := by
    intro id c hc
    simp [AslState.init] at hc
  have hopen := h.invariant (P := fun st => AllOpen st.shared.contracts) hinit
    fun st a h hok => allOpen_aslStep a h hok
  intro id c hc hmax hidle
  refine ⟨?_, (hopen id c hc).allowsTX hmax hidle⟩
  rw [UInt8.le_iff_toNat_le]
  exact UInt8.lt_iff_toNat_lt.1 (UInt8.pos_iff_ne_zero.2 (hopen id c hc hidle))

/-- A request that is never answered is given up, and its window opens again. -/
theorem noWindowStall_of_reachable_givenUp : NoWindowStall (run aslStep AslState.init
      ([.setContract sampleOwnAddress 9 (sampleSetContract 1 2),
        .addGenericObject ⟨0, 0, 60⟩ (sampleRequest 1 sampleReadReq), .aslTask ⟨100, 0⟩ 100] ++
        List.replicate 4 .oneSecond)) :=
  noWindowStall_of_reachable (reachable_run (by decide +kernel))

/-- A response whose confirm never comes is retried while nothing is outstanding. -/
theorem retriedResponse_windowStall :
    ∃ st, Reachable AslState.init aslStep (fun _ _ => True) st ∧ ¬ NoWindowStall st := by
  let actions : List AslAction :=
    [.setContract sampleOwnAddress 9 (sampleSetContract 1 1),
      .addGenericObject sampleRetries (sampleRequest 1 sampleWriteRsp), .aslTask ⟨100, 0⟩ 100] ++
      List.replicate 4 .oneSecond
  refine ⟨run aslStep AslState.init actions, reachable_run (along_true _ _), ?_⟩
  intro h
  have hcontract : ((run aslStep AslState.init actions).shared.contracts.lookup 1).map
      (fun c => (c.maxSendWindow, c.inUseWndSize, c.crtWndSize)) = some (1, 0, 0) := by
    decide +kernel
  obtain ⟨c, hc, hwindow⟩ := Option.map_eq_some_iff.1 hcontract
  obtain ⟨hmax, hidle, hcrt⟩ : c.maxSendWindow = 1 ∧ c.inUseWndSize = 0 ∧ c.crtWndSize = 0 := by
    simpa using hwindow
  have hopen := (h 1 c hc (by rw [hmax]; decide) hidle).1
  rw [hcrt] at hopen
  revert hopen
  decide

end Isa100Gateway
