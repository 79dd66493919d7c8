import Isa100Gateway.Asl.QueueFacts

/-!
# The sliding window

The counter `m_nInUseWndSize` against the queue it counts, and the window that must not stay closed while nothing is outstanding. Each holds over every run whose steps keep away from a few branches of the source, which are named here, and fails on a run that takes one of them.
-/

namespace Isa100Gateway

open Machine TxMsg AslState List Table

theorem serial_of_core {c c' : Contract} (h : c'.core = c.core) : c'.serial = c.serial :=
  congrArg (fun core => core.1) h

theorem maxSendWindow_of_core {c c' : Contract} (h : c'.core = c.core) : c'.maxSendWindow = c.maxSendWindow :=
  congrArg (fun core => core.2.2.2.2) h

@[simp] theorem inUse_slidingWindowAllowsTX (c : Contract) :
    (slidingWindowAllowsTX c).2.inUseWndSize = c.inUseWndSize := by
  unfold slidingWindowAllowsTX
  by_cases hmax : c.maxSendWindow = 0
  · simp [hmax]
  · by_cases hcrt : c.crtWndSize > c.maxSendWindow <;> simp [hmax, hcrt]

variable {c : Contract} {m : TxMsg} {m' : Option TxMsg} {queue : List TxMsg}

theorem inUse_lt_of_allowsTX (hmax : c.maxSendWindow ≠ 0)
    (h : (slidingWindowAllowsTX c).1 = true) : c.inUseWndSize < c.maxSendWindow := by
  by_cases hcrt : c.crtWndSize > c.maxSendWindow
  · simpa [slidingWindowAllowsTX, hmax, hcrt] using h
  · have hlt : c.inUseWndSize < c.crtWndSize := by
      simpa [slidingWindowAllowsTX, hmax, hcrt] using h
    exact UInt8.lt_of_lt_of_le hlt (UInt8.not_lt.1 hcrt)

theorem inUse_increaseUsage (hmax : c.maxSendWindow ≠ 0) (h : (slidingWindowIncreaseUsage c).1 = true) :
    (slidingWindowIncreaseUsage c).2.inUseWndSize.toNat = c.inUseWndSize.toNat + 1 ∧
      (slidingWindowIncreaseUsage c).2.inUseWndSize ≤ c.maxSendWindow := by
  have hallowed : (slidingWindowAllowsTX c).1 = true := by
    by_contra hnot
    simp [slidingWindowIncreaseUsage, hmax, hnot] at h
  have hlt := inUse_lt_of_allowsTX hmax hallowed
  have hvalue : (slidingWindowIncreaseUsage c).2.inUseWndSize = c.inUseWndSize + 1 := by
    simp [slidingWindowIncreaseUsage, hmax, hallowed]
  rw [hvalue, UInt8.le_iff_toNat_le, UInt8.toNat_add]
  have := c.maxSendWindow.toNat_lt
  have := UInt8.lt_iff_toNat_lt.1 hlt
  simp only [UInt8.reduceToNat]
  omega

theorem inUse_increaseUsage_refused (h : (slidingWindowIncreaseUsage c).1 = false) :
    (slidingWindowIncreaseUsage c).2.inUseWndSize = c.inUseWndSize := by
  by_cases hmax : c.maxSendWindow = 0
  · simp [slidingWindowIncreaseUsage, hmax] at h
  · cases hallowed : (slidingWindowAllowsTX c).1 with
    | true => simp [slidingWindowIncreaseUsage, hmax, hallowed] at h
    | false => simp [slidingWindowIncreaseUsage, hmax, hallowed]

theorem inUse_receiveResponse (hmax : c.maxSendWindow ≠ 0) : (receiveResponseForSlidingWindow c).inUseWndSize =
      if c.inUseWndSize ≠ 0 then c.inUseWndSize - 1 else c.inUseWndSize := by
  unfold receiveResponseForSlidingWindow
  grind

theorem toNat_inUse_receiveResponse (hle : c.inUseWndSize ≤ c.maxSendWindow) (hone : 1 ≤ c.inUseWndSize.toNat) :
    (receiveResponseForSlidingWindow c).inUseWndSize.toNat + 1 = c.inUseWndSize.toNat := by
  have hmax : c.maxSendWindow ≠ 0 := by
    intro hzero
    have := UInt8.le_iff_toNat_le.1 hle
    rw [hzero] at this
    simp only [UInt8.reduceToNat] at this
    omega
  have hne : c.inUseWndSize ≠ 0 := by
    intro hzero
    rw [hzero] at hone
    simp at hone
  rw [inUse_receiveResponse hmax, if_pos hne, UInt8.toNat_sub_of_le]
  · simp only [UInt8.reduceToNat]
    omega
  · rw [UInt8.le_iff_toNat_le]
    exact hone

@[simp] theorem inUse_receiveTimeout (c : Contract) :
    (receiveTimeoutForSlidingWindow c).inUseWndSize = c.inUseWndSize := by
  unfold receiveTimeoutForSlidingWindow
  by_cases hmax : c.maxSendWindow = 0 <;> simp [hmax]

theorem window_computeTXtimeout (c : Contract) (rtt : UInt32) :
    (computeTXtimeout c rtt).inUseWndSize = c.inUseWndSize ∧ (computeTXtimeout c rtt).crtWndSize = c.crtWndSize ∧
      (computeTXtimeout c rtt).successTransmissions = c.successTransmissions := by
  unfold computeTXtimeout
  grind

def TxMsg.outstanding (id : UInt16) (m : TxMsg) : Bool :=
  m.contractId == id && m.inSlidingWindow && m.status != .readyToClear

def TxMsg.places (m : TxMsg) : Nat :=
  if m.inSlidingWindow ∧ m.status ≠ .readyToClear then 1 else 0

/-- The counter of every contract is the number of its outstanding messages, and within the largest window. -/
def WindowAccounting (st : AslState) : Prop :=
  ∀ id c, st.shared.contracts.lookup id = some c → c.inUseWndSize.toNat = st.queue.countP (outstanding id) ∧
      c.inUseWndSize ≤ c.maxSendWindow

/-- The accounting with what carries it from step to step: an outstanding message points to the contract object that is in the table, and every entry is well formed. -/
structure Accounted (contracts : Contracts) (queue : List TxMsg) : Prop where
  count : ∀ id c, contracts.lookup id = some c → c.inUseWndSize.toNat = queue.countP (outstanding id)
  bound : ∀ id c, contracts.lookup id = some c → c.inUseWndSize ≤ c.maxSendWindow
  live : ∀ m ∈ queue, m.places = 1 → ∀ c, contracts.lookup m.contractId = some c → c.serial = m.weakContract
  wellFormed : ∀ m ∈ queue, m.WellFormed

theorem places_le_one (m : TxMsg) : m.places ≤ 1 := by
  unfold places
  split_ifs <;> omega

theorem places_clear (h : m.status = .readyToClear) : m.places = 0 := by
  simp [places, h]

theorem countP_outstanding_cons (id : UInt16) (m : TxMsg) (queue : List TxMsg) :
    (m :: queue).countP (outstanding id) =
      queue.countP (outstanding id) + if m.contractId = id then m.places else 0 := by
  rw [countP_cons]
  by_cases hid : m.contractId = id
  · by_cases hplace : m.inSlidingWindow ∧ m.status ≠ .readyToClear <;>
      simp [outstanding, places, hid, hplace]
  · simp [outstanding, hid]

def placesOf : Option TxMsg → Nat
  | some m => m.places
  | none => 0

theorem countP_outstanding_visit (id : UInt16) (done rest : List TxMsg)
    (hid : ∀ x ∈ m', x.contractId = m.contractId) :
    (done ++ m'.toList ++ rest).countP (outstanding id) +
        (if m.contractId = id then m.places else 0) =
      (done ++ m :: rest).countP (outstanding id) +
        if m.contractId = id then placesOf m' else 0 := by
  simp only [countP_append, countP_outstanding_cons]
  cases m' with
  | none =>
    simp only [Option.toList_none, countP_nil, placesOf]
    split_ifs <;> omega
  | some x =>
    have hx : x.contractId = m.contractId := hid x rfl
    simp only [Option.toList_some, countP_outstanding_cons, countP_nil, placesOf, hx]
    split_ifs <;> omega

theorem Accounted.places_le {contracts : Contracts}
    (h : Accounted contracts queue) (hm : m ∈ queue) (hc : contracts.lookup m.contractId = some c) :
    m.places ≤ c.inUseWndSize.toNat := by
  obtain ⟨done, rest, rfl⟩ := append_of_mem hm
  rw [h.count _ c hc, countP_append, countP_outstanding_cons, if_pos rfl]
  omega

theorem Accounted.places_foreign {contracts : Contracts} (h : Accounted contracts queue) (hm : m ∈ queue)
    (hc : contracts.lookup m.contractId = some c) (hserial : c.serial ≠ m.weakContract) : m.places = 0 := by
  have hle := places_le_one m
  by_contra hne
  exact hserial (h.live m hm (by omega) c hc)

variable {f : Contract → Contract} {done rest : List TxMsg}

theorem Accounted.visit {contracts contracts' : Contracts} (h : Accounted contracts (done ++ m :: rest))
    (hlook : ∀ id, contracts'.lookup id = (contracts.lookup id).map fun c =>
      if id = m.contractId ∧ c.serial = m.weakContract then f c else c)
    (hm' : ∀ x ∈ m', x.core = m.core ∧ x.WellFormed)
    (hlive : ∀ c, contracts.lookup m.contractId = some c → c.serial = m.weakContract →
      c.inUseWndSize ≤ c.maxSendWindow → m.places ≤ c.inUseWndSize.toNat →
      (f c).serial = c.serial ∧ (f c).inUseWndSize ≤ (f c).maxSendWindow ∧
        (f c).inUseWndSize.toNat + m.places = c.inUseWndSize.toNat + placesOf m')
    (hdead : ∀ c, contracts.lookup m.contractId = some c → c.serial ≠ m.weakContract → placesOf m' ≤ m.places) :
    Accounted contracts' (done ++ m'.toList ++ rest) := by
  have hid : ∀ x ∈ m', x.contractId = m.contractId ∧ x.weakContract = m.weakContract := by
    intro x hx
    have hcore := (hm' x hx).1
    exact ⟨congrArg (fun core => core.2.2.2.2.1) hcore, congrArg (fun core => core.2.1) hcore⟩
  have hmem : m ∈ done ++ m :: rest := by simp
  have hcount := fun id => countP_outstanding_visit id done rest (fun x hx => (hid x hx).1)
  -- another contract may have taken the id of the one that the entry points to
  have hforeign : ∀ c, contracts.lookup m.contractId = some c → c.serial ≠ m.weakContract →
      m.places = 0 ∧ placesOf m' = 0 := by
    intro c hc hserial
    have hplaces := h.places_foreign hmem hc hserial
    have := hdead c hc hserial
    exact ⟨hplaces, by omega⟩
  have hplace := fun c => h.places_le (c := c) hmem
  refine ⟨?_, ?_, ?_, ?_⟩
  · intro id c' hc'
    obtain ⟨c, hc, rfl⟩ := Option.map_eq_some_iff.1 (hlook id ▸ hc')
    have hc_count := h.count id c hc
    have hvisit := hcount id
    by_cases hown : id = m.contractId
    · subst hown
      rw [if_pos rfl, if_pos rfl] at hvisit
      by_cases hserial : c.serial = m.weakContract
      · rw [if_pos ⟨rfl, hserial⟩]
        have := (hlive c hc hserial (h.bound _ c hc) (hplace c hc)).2.2
        omega
      · rw [if_neg fun both => hserial both.2]
        obtain ⟨hzero, hzero'⟩ := hforeign c hc hserial
        omega
    · rw [if_neg fun both => hown both.1]
      rw [if_neg (Ne.symm hown), if_neg (Ne.symm hown)] at hvisit
      omega
  · intro id c' hc'
    obtain ⟨c, hc, rfl⟩ := Option.map_eq_some_iff.1 (hlook id ▸ hc')
    by_cases hown : id = m.contractId ∧ c.serial = m.weakContract
    · obtain ⟨rfl, hserial⟩ := hown
      rw [if_pos ⟨rfl, hserial⟩]
      exact (hlive c hc hserial (h.bound _ c hc) (hplace c hc)).2.1
    · rw [if_neg hown]
      exact h.bound id c hc
  · intro x hx hplaces c' hc'
    obtain ⟨c, hc, rfl⟩ := Option.map_eq_some_iff.1 (hlook x.contractId ▸ hc')
    have hserial' : (if x.contractId = m.contractId ∧ c.serial = m.weakContract then f c
        else c).serial = c.serial := by
      by_cases hown : x.contractId = m.contractId ∧ c.serial = m.weakContract
      · rw [if_pos hown]
        rw [hown.1] at hc
        exact (hlive c hc hown.2 (h.bound _ c hc) (hplace c hc)).1
      · rw [if_neg hown]
    rw [hserial']
    rcases mem_visited.1 hx with hx | hx
    · obtain ⟨hid', hweak⟩ := hid x hx
      rw [hid'] at hc
      rw [hweak]
      by_contra hserial
      have hzero := (hforeign c hc hserial).2
      rw [Option.mem_def.1 hx] at hzero
      change x.places = 0 at hzero
      omega
    · exact h.live x (mem_of_unvisited hx) hplaces c hc
  · intro x hx
    rcases mem_visited.1 hx with hx | hx
    · exact (hm' x hx).2
    · exact h.wellFormed x (mem_of_unvisited hx)

theorem Accounted.replace {contracts : Contracts}
    (h : Accounted contracts (done ++ m :: rest)) (hm' : ∀ x ∈ m', x.core = m.core ∧ x.WellFormed)
    (hlive : ∀ c, contracts.lookup m.contractId = some c → c.serial = m.weakContract → placesOf m' = m.places)
    (hdead : ∀ c, contracts.lookup m.contractId = some c → c.serial ≠ m.weakContract → placesOf m' ≤ m.places) :
    Accounted contracts (done ++ m'.toList ++ rest) := by
  apply h.visit (f := fun c => c) (by simp) hm' _ hdead
  intro c hc hserial hbound _
  exact ⟨rfl, hbound, by rw [hlive c hc hserial]⟩

theorem Accounted.contracts {contracts contracts' : Contracts} (h : Accounted contracts queue)
    (hlook : ∀ id c', contracts'.lookup id = some c' → ∃ c, contracts.lookup id = some c ∧
      c'.serial = c.serial ∧ c'.inUseWndSize = c.inUseWndSize ∧ c'.inUseWndSize ≤ c'.maxSendWindow) :
    Accounted contracts' queue where
  count id c' hc' := by
    obtain ⟨c, hc, -, hinUse, -⟩ := hlook id c' hc'
    rw [hinUse]
    exact h.count id c hc
  bound id c' hc' := by
    obtain ⟨c, hc, -, -, hbound⟩ := hlook id c' hc'
    exact hbound
  live m hm hplaces c' hc' := by
    obtain ⟨c, hc, hserial, -⟩ := hlook _ c' hc'
    rw [hserial]
    exact h.live m hm hplaces c hc
  wellFormed := h.wellFormed

theorem Accounted.onContract {sh : Shared} (m : TxMsg) (hcore : ∀ c, (f c).core = c.core)
    (hinUse : ∀ c, (f c).inUseWndSize = c.inUseWndSize) (h : Accounted sh.contracts queue) :
    Accounted (sh.onContract m f).contracts queue := by
  apply h.contracts
  intro id c' hc'
  rw [lookup_onContract] at hc'
  obtain ⟨c, hc, rfl⟩ := Option.map_eq_some_iff.1 hc'
  refine ⟨c, hc, ?_⟩
  have hbound := h.bound id c hc
  by_cases hown : id = m.contractId ∧ c.serial = m.weakContract
  · rw [if_pos hown]
    refine ⟨serial_of_core (hcore c), hinUse c, ?_⟩
    rw [hinUse, maxSendWindow_of_core (hcore c)]
    exact hbound
  · rw [if_neg hown]
    exact ⟨rfl, rfl, hbound⟩

/-! ## The walks over the queue -/

section Visits

variable {contracts : Contracts} {sh : Shared} {done rest : List TxMsg} {m : TxMsg}

variable {m' : TxMsg} {base : Contracts} {id : UInt16}

theorem places_of_sameEntry (h : m.SameEntry m') : m'.places = m.places := by
  simp [places, h.marked, h.status]

theorem Accounted.sameEntry (hsame : m.SameEntry m')
    (h : Accounted contracts (done ++ m :: rest)) : Accounted contracts (done ++ m' :: rest) := by
  have hwf := (h.wellFormed m (by simp)).congr hsame.core hsame.marked hsame.status
  have hplaces : placesOf (some m') = m.places := places_of_sameEntry hsame
  have hkeep : ∀ x ∈ some m', x.core = m.core ∧ x.WellFormed := by
    rintro x ⟨⟩
    exact ⟨hsame.core, hwf⟩
  have := h.replace hkeep (fun _ _ _ => hplaces) (fun _ _ _ => hplaces.le)
  simpa using this

theorem Accounted.cleared {contracts' : Contracts} {f : Contract → Contract}
    (hlook : ∀ id, contracts'.lookup id = (contracts.lookup id).map fun c =>
      if id = m.contractId ∧ c.serial = m.weakContract then f c else c)
    (hcore : ∀ c, (f c).core = c.core)
    (hinUse : ∀ c, c.inUseWndSize ≤ c.maxSendWindow → m.places ≤ c.inUseWndSize.toNat →
      (f c).inUseWndSize.toNat + m.places = c.inUseWndSize.toNat)
    (h : Accounted contracts (done ++ m :: rest)) :
    Accounted contracts' (done ++ { m with status := .readyToClear } :: rest) := by
  have hzero : placesOf (some { m with status := .readyToClear }) = 0 := places_clear rfl
  have hwf := (h.wellFormed m (by simp)).clear
  have hkeep : ∀ x ∈ some { m with status := .readyToClear }, x.core = m.core ∧ x.WellFormed := by
    rintro x ⟨⟩
    exact ⟨rfl, hwf⟩
  have := h.visit hlook hkeep
    (by
      intro c _ _ hbound hplaces
      have hmoved := hinUse c hbound hplaces
      refine ⟨serial_of_core (hcore c), ?_, by rw [hzero]; exact hmoved⟩
      rw [maxSendWindow_of_core (hcore c), UInt8.le_iff_toNat_le]
      have := UInt8.le_iff_toNat_le.1 hbound
      omega)
    (fun _ _ _ => by rw [hzero]; exact Nat.zero_le _)
  simpa using this

theorem places_of_marked (hmarked : m.inSlidingWindow = true) (hclear : m.status ≠ .readyToClear) : m.places = 1 := by
  simp [places, hmarked, hclear]

theorem places_of_not_marked (hmarked : m.inSlidingWindow = false) : m.places = 0 := by
  simp [places, hmarked]

theorem Accounted.giveUp (hclear : m.status ≠ .readyToClear) (h : Accounted sh.contracts (done ++ m :: rest)) :
    Accounted (sh.giveUp m).1.contracts (done ++ (sh.giveUp m).2 :: rest) := by
  cases hmarked : m.inSlidingWindow with
  | true =>
    have hone := places_of_marked hmarked hclear
    have hrelease : sh.release m = sh.onContract m receiveResponseForSlidingWindow := by
      rw [Shared.release, if_pos hmarked]
    apply h.cleared (f := receiveResponseForSlidingWindow)
    · intro id
      rw [Shared.giveUp, hrelease]
      exact lookup_onContract sh m _ id
    · exact core_receiveResponse
    · intro c hbound hplaces
      rw [hone] at hplaces ⊢
      exact toNat_inUse_receiveResponse hbound hplaces
  | false =>
    have hzero := places_of_not_marked hmarked
    have hrelease : sh.release m = sh := by
      rw [Shared.release, if_neg (by simp [hmarked])]
    apply h.cleared (f := fun c => c)
    · intro id
      rw [Shared.giveUp, hrelease]
      simp
    · exact fun _ => rfl
    · intro c _ _
      omega

theorem Accounted.rescheduled (hclear : m.status ≠ .readyToClear)
    (hre : m.Rescheduled m') (h : Accounted contracts (done ++ m :: rest)) :
    Accounted contracts (done ++ m' :: rest) := by
  have hwf := (h.wellFormed m (by simp)).setStatus hre.core hre.marked (by simp [hre.status])
    (by simp [hre.status])
  have hplaces : placesOf (some m') = m.places := by
    simp [placesOf, places, hre.marked, hre.status, hclear]
  have hkeep : ∀ x ∈ some m', x.core = m.core ∧ x.WellFormed := by
    rintro x ⟨⟩
    exact ⟨hre.core, hwf⟩
  have := h.replace hkeep (fun _ _ _ => hplaces) (fun _ _ _ => hplaces.le)
  simpa using this

theorem Accounted.timeoutVisit (h : Accounted sh.contracts (done ++ m :: rest)) :
    Accounted (timeoutVisit sh m).1.contracts (done ++ (timeoutVisit sh m).2.toList ++ rest) := by
  obtain ⟨m', hvisit, hm'⟩ := timeoutVisit_rule
    (P := fun sh m => Accounted sh.contracts (done ++ m :: rest))
    (fun _ _ _ hsame h => h.sameEntry hsame)
    (fun _ _ hclear h => h.giveUp hclear)
    (fun _ m h => h.onContract m core_receiveTimeout inUse_receiveTimeout)
    (fun _ _ _ hclear hre h => h.rescheduled hclear hre) h
  rw [hvisit]
  simpa using hm'

theorem Accounted.searchVisit {tvNow : TimeVal} {best : Option ApduIdtfTx}
    (h : Accounted sh.contracts (done ++ m :: rest)) : Accounted (searchVisit tvNow (sh, best) m).1.1.contracts
      (done ++ (searchVisit tvNow (sh, best) m).2.toList ++ rest) := by
  rcases searchVisit_cases tvNow sh best m with ⟨_, hlock, heq⟩ | ⟨best', heq⟩ | ⟨best', _, heq⟩
  · rw [heq]
    apply h.replace
    · rintro x ⟨⟩
    · intro c hc hserial
      rw [lock_eq_some.2 ⟨hc, hserial⟩] at hlock
      cases hlock
    · intro _ _ _
      exact Nat.zero_le _
  · rw [heq]
    simpa using h
  · rw [heq]
    have := h.onContract m core_slidingWindowAllowsTX inUse_slidingWindowAllowsTX
    simpa using this

theorem Accounted.responseVisit {now : UInt32} {key : ResponseKey} {found : Option TxMsg}
    (h : Accounted sh.contracts (done ++ m :: rest)) : Accounted (responseVisit now key (sh, found) m).1.1.contracts
      (done ++ (responseVisit now key (sh, found) m).2.toList ++ rest) := by
  rcases responseVisit_cases now key sh found m with heq | ⟨_, horiginal, heq⟩
  · rw [heq]
    simpa using h
  · rw [heq]
    have hclear := horiginal.2.1
    have hcleared := h.cleared (f := responseReceived now m)
      (lookup_onContract sh m (responseReceived now m)) (core_responseReceived now m)
      (by
        intro c hbound hplaces
        have hcompute := (window_computeTXtimeout c (now - m.sendTime)).1
        have hcore := core_computeTXtimeout c (now - m.sendTime)
        cases hmarked : m.inSlidingWindow with
        | true =>
          rw [places_of_marked hmarked hclear] at hplaces ⊢
          rw [responseReceived, if_pos hmarked, ← hcompute]
          apply toNat_inUse_receiveResponse
          · rw [hcompute, maxSendWindow_of_core hcore]
            exact hbound
          · rw [hcompute]
            exact hplaces
        | false =>
          rw [places_of_not_marked hmarked, responseReceived, if_neg (by simp [hmarked]), hcompute]
          rfl)
    simpa using hcleared

/-- A confirm does not drop an entry that holds a place in a window of the table. -/
def ConfirmKeeps (contracts : Contracts) (queue : List TxMsg) (conf : ApduConfirm) : Prop :=
  conf.confirmStatus = sfcNoContract → ∀ m ∈ queue, m.AwaitsConfirm conf →
    m.inSlidingWindow = true → contracts.lookup m.contractId = none

instance (contracts : Contracts) (queue : List TxMsg) (conf : ApduConfirm) :
    Decidable (ConfirmKeeps contracts queue conf) := inferInstanceAs (Decidable (_ → _))

theorem Accounted.confirmQueue {queue : List TxMsg} {conf : ApduConfirm}
    (hok : ConfirmKeeps contracts queue conf) (h : Accounted contracts queue) :
    Accounted contracts (confirmQueue queue conf) := by
  have hkeeps : ∀ m ∈ queue, conf.confirmStatus = sfcNoContract → m.AwaitsConfirm conf →
      m.inSlidingWindow = true → contracts.lookup m.contractId = none :=
    fun m hm hno => hok hno m hm
  apply filterMap_invariant (P := Accounted contracts) _ queue [] hkeeps h
  intro done m rest hok h
  have hwf := h.wellFormed m (by simp)
  rcases confirmMsg_cases conf m with heq | ⟨hawaits, heq | heq | ⟨hjust, heq⟩ | ⟨hno, heq⟩⟩
  · rw [heq]
    simpa using h
  · rw [heq]
    have hsame : m.SameEntry { m with timeout := 2 } := ⟨rfl, rfl, rfl, rfl⟩
    simpa using h.sameEntry hsame
  · rw [heq]
    have hplaces : placesOf (some { m with status := .confirmedWaitRsp }) = m.places := by
      have hclear : m.status ≠ .readyToClear := by
        rcases hawaits.1 with hstatus | hstatus <;> simp [hstatus]
      simp [placesOf, places, hclear]
    apply h.replace _ (fun _ _ _ => hplaces) (fun _ _ _ => hplaces.le)
    rintro x ⟨⟩
    exact ⟨rfl, hwf.setStatus rfl rfl (by simp) (by simp)⟩
  · rw [heq]
    have hzero : m.places = 0 := by
      apply places_of_not_marked
      by_contra hmarked
      have := hwf.expects (Or.inr (by simpa using hmarked))
      rw [hwf.justWaits hjust] at this
      cases this
    apply h.replace
    · rintro x ⟨⟩
    · intro _ _ _
      exact hzero.symm
    · intro _ _ _
      exact Nat.zero_le _
  · rw [heq]
    apply h.replace
    · rintro x ⟨⟩
    · intro c hc _
      cases hmarked : m.inSlidingWindow with
      | true =>
        rw [hok hno hawaits hmarked] at hc
        cases hc
      | false => exact (places_of_not_marked hmarked).symm
    · intro _ _ _
      exact Nat.zero_le _

/-- A visit of the concatenation takes a place only in the window of the contract the entry points to, if that has a window, and drops no entry that holds a place. -/
def ConcatKeeps (contractId : UInt16) (room : Int) (s : Contract × List UInt8) (m : TxMsg) : Prop :=
  m.ReadyToSend → contractId = m.contractId → ((m.apduLen.toNat : Int) ≤ room - s.2.length → m.status = .readyToSend →
      (slidingWindowIncreaseUsage s.1).1 = true → s.1.serial = m.weakContract ∧ s.1.maxSendWindow ≠ 0) ∧
    (¬ (m.apduLen.toNat : Int) ≤ room - s.2.length → s.2 = [] → m.inSlidingWindow = false)

instance (contractId : UInt16) (room : Int) (s : Contract × List UInt8) (m : TxMsg) :
    Decidable (ConcatKeeps contractId room s m) := inferInstanceAs (Decidable (_ → _))

theorem lookup_insert_insert (base : Contracts) (id : UInt16) {c c' : Contract} {m : TxMsg}
    (hid : id = m.contractId) (hserial : c.serial = m.weakContract) (f : Contract → Contract)
    (hc' : c' = f c) (id' : UInt16) :
    (base.insert id c').lookup id' = ((base.insert id c).lookup id').map fun c =>
      if id' = m.contractId ∧ c.serial = m.weakContract then f c else c := by
  rw [lookup_insert, lookup_insert]
  by_cases h : id' = id
  · simp [h, hid, hserial, hc']
  · have hne : ¬ id' = m.contractId := fun heq => h (heq.trans hid.symm)
    simp [h, hne]

theorem places_sent (m : TxMsg) (handle : UInt8) (now : UInt32) :
    (m.sent handle now).places = if m.inSlidingWindow then 1 else 0 := by
  have hclear := (status_sent_ne m handle now).2
  have hmarked : (m.sent handle now).inSlidingWindow = m.inSlidingWindow := rfl
  simp [places, hmarked, hclear]

theorem Accounted.insertSame {c c' : Contract}
    {queue : List TxMsg} (hcore : c'.core = c.core) (hinUse : c'.inUseWndSize = c.inUseWndSize)
    (h : Accounted (base.insert id c) queue) : Accounted (base.insert id c') queue := by
  apply h.contracts
  intro id' d hd
  rw [lookup_insert] at hd
  have hlook := lookup_insert base id id' c
  by_cases hown : id' = id
  · rw [if_pos hown] at hd hlook
    cases hd
    refine ⟨c, hlook, serial_of_core hcore, hinUse, ?_⟩
    rw [hinUse, maxSendWindow_of_core hcore]
    exact h.bound id' c hlook
  · rw [if_neg hown] at hd hlook
    exact ⟨d, hlook.trans hd, rfl, rfl, h.bound id' d (hlook.trans hd)⟩

theorem Accounted.takesPlace {c : Contract} (handle : UInt8)
    (now : UInt32) (hid : id = m.contractId) (hstatus : m.status = .readyToSend)
    (hallowed : (slidingWindowIncreaseUsage c).1 = true) (hserial : c.serial = m.weakContract)
    (hmax : c.maxSendWindow ≠ 0) (h : Accounted (base.insert id c) (done ++ m :: rest)) :
    Accounted (base.insert id (slidingWindowIncreaseUsage c).2)
      (done ++ ({ m with inSlidingWindow := true }.sent handle now) :: rest) := by
  have hwf := h.wellFormed m (by simp)
  have hkeep : ∀ x ∈ some ({ m with inSlidingWindow := true }.sent handle now),
      x.core = m.core ∧ x.WellFormed := by
    rintro x ⟨⟩
    exact ⟨rfl, WellFormed.sent handle now fun _ => hwf.expects (Or.inl hstatus)⟩
  have hzero := places_of_not_marked (hwf.unsent hstatus)
  have hone : placesOf (some ({ m with inSlidingWindow := true }.sent handle now)) = 1 :=
    places_sent _ handle now
  have hown : (base.insert id c).lookup m.contractId = some c := by
    rw [← hid, AList.lookup_insert]
  have := h.visit (lookup_insert_insert base id hid hserial (fun c => (slidingWindowIncreaseUsage c).2)
      rfl) hkeep
    (by
      intro c' hc' _ _ _
      obtain rfl : c = c' := Option.some.inj (hown.symm.trans hc')
      have hcore := core_slidingWindowIncreaseUsage c
      obtain ⟨hinUse, hbound⟩ := inUse_increaseUsage hmax hallowed
      refine ⟨serial_of_core hcore, ?_, by omega⟩
      rw [maxSendWindow_of_core hcore]
      exact hbound)
    (by
      intro c' hc' hne
      obtain rfl : c = c' := Option.some.inj (hown.symm.trans hc')
      exact absurd hserial hne)
  simpa using this

theorem Accounted.concatVisit {room : Int} {handle : UInt8}
    {now : UInt32} {c : Contract} {out : List UInt8} (hok : ConcatKeeps id room (c, out) m)
    (h : Accounted (base.insert id c) (done ++ m :: rest)) :
    Accounted (base.insert id (concatVisit id room handle now (c, out) m).1.1)
      (done ++ (concatVisit id room handle now (c, out) m).2.toList ++ rest) := by
  have hwf := h.wellFormed m (by simp)
  rcases concatVisit_cases id room handle now c out m with heq | ⟨hready, hid, hcase⟩
  · rw [heq]
    simpa using h
  obtain ⟨hplace, hdrop⟩ := hok hready hid
  rcases hcase with ⟨_, _, hrefused, heq⟩ | ⟨hfits, hstatus, hallowed, heq⟩ | ⟨_, _, heq⟩ |
    ⟨hfits, hempty, heq⟩
  · rw [heq]
    have := h.insertSame (core_slidingWindowIncreaseUsage c) (inUse_increaseUsage_refused hrefused)
    simpa using this
  · rw [heq]
    obtain ⟨hserial, hmax⟩ := hplace hfits hstatus hallowed
    have := h.takesPlace handle now hid hstatus hallowed hserial hmax
    simpa using this
  · rw [heq]
    have hplaces : placesOf (some (m.sent handle now)) = m.places := by
      have hclear : m.status ≠ .readyToClear := by
        rcases hready with hstatus | hstatus <;> simp [hstatus]
      rw [placesOf, places_sent]
      simp [places, hclear]
    apply h.replace _ (fun _ _ _ => hplaces) (fun _ _ _ => hplaces.le)
    rintro x ⟨⟩
    exact ⟨rfl, WellFormed.sent handle now fun hmarked => hwf.expects (Or.inr hmarked)⟩
  · rw [heq]
    have hzero := places_of_not_marked (hdrop hfits hempty)
    have hcleared : Accounted (base.insert id c)
        (done ++ { m with status := .readyToClear } :: rest) :=
      h.cleared (f := fun c => c) (by simp) (fun _ => rfl) (fun _ _ _ => by rw [hzero]; rfl)
    simpa using hcleared

end Visits

/-! ## Steps -/

section Steps

variable {st : AslState}

def AslState.Accounted (st : AslState) : Prop :=
  Isa100Gateway.Accounted st.shared.contracts st.queue

theorem accounted_performOneSecondOperations (h : st.Accounted) : (performOneSecondOperations st).Accounted := by
  have htimeouts := pass_invariant_all
    (P := fun (sh : Shared) queue => Accounted sh.contracts queue)
    (fun _ _ _ _ h => h.timeoutVisit) h
  apply filter_invariant (P := Accounted (pass timeoutVisit st.shared st.queue).1.contracts) _
    htimeouts
  intro done m rest hremoved h
  have hclear : m.status = .readyToClear := by simpa using hremoved
  have hrest : Accounted (pass timeoutVisit st.shared st.queue).1.contracts
      (done ++ (none : Option TxMsg).toList ++ rest) := by
    apply h.replace
    · rintro x ⟨⟩
    · intro _ _ _
      exact (places_clear hclear).symm
    · intro _ _ _
      exact Nat.zero_le _
  simpa using hrest

theorem accounted_checkTLConfirms (hok : Along (ConfirmKeeps st.shared.contracts) confirmQueue st.queue st.conf)
    (h : st.Accounted) : (checkTLConfirms st).Accounted :=
  run_invariant (P := Accounted st.shared.contracts) (fun _ _ h hok => h.confirmQueue hok) h hok

theorem accounted_searchStep (tvNow : TimeVal) (h : st.Accounted) : (searchStep tvNow st).1.Accounted := by
  apply pass_invariant_all (s := (st.shared, none))
    (P := fun (s : Shared × Option ApduIdtfTx) queue => Accounted s.1.contracts queue) _ h
  rintro ⟨sh, best⟩ done m rest h
  exact h.searchVisit

def FlushKeeps (tvNow : TimeVal) (now : UInt32) (st : AslState) : Prop :=
  ∀ idtf ∈ (searchStep tvNow st).2,
    ∀ c ∈ (searchStep tvNow st).1.shared.contracts.lookup idtf.contractId,
      PassAll (ConcatKeeps idtf.contractId c.tsduRoom)
        (concatVisit idtf.contractId c.tsduRoom st.handle now) (c, []) (searchStep tvNow st).1.queue

instance (tvNow : TimeVal) (now : UInt32) (st : AslState) : Decidable (FlushKeeps tvNow now st) :=
  inferInstanceAs (Decidable (∀ _ ∈ _, _))

variable {c : Contract} {queue : List TxMsg} {random : UInt8}

theorem accounted_sendConcatenated {tvNow : TimeVal} {now : UInt32} {idtf : ApduIdtfTx}
    (hlook : st.shared.contracts.lookup idtf.contractId = some c)
    (hok : PassAll (ConcatKeeps idtf.contractId c.tsduRoom)
      (concatVisit idtf.contractId c.tsduRoom st.handle now) (c, []) st.queue)
    (h : st.Accounted) : (sendConcatenated tvNow now idtf c st).Accounted := by
  have hstart : Accounted (st.shared.contracts.insert idtf.contractId c) ([] ++ st.queue) := by
    apply Accounted.contracts h
    intro id c' hc'
    have hsame : st.shared.contracts.lookup id = some c' := by
      rw [lookup_insert] at hc'
      by_cases hid : id = idtf.contractId
      · rw [if_pos hid] at hc'
        rw [hid, hlook, ← hc']
      · rwa [if_neg hid] at hc'
    exact ⟨c', hsame, rfl, rfl, h.bound id c' hsame⟩
  have hwalk := pass_invariant
    (P := fun s queue => Accounted (st.shared.contracts.insert idtf.contractId s.1) queue)
    (fun _ _ _ _ hok h => h.concatVisit hok) st.queue [] (c, []) hok hstart
  exact hwalk.insertSame (core_packetSent tvNow _) rfl

theorem accounted_flushAPDUBuffer {tvNow : TimeVal} {now : UInt32} (hok : FlushKeeps tvNow now st)
    (h : st.Accounted) : (flushAPDUBuffer tvNow now st).Accounted := by
  have hsearch := accounted_searchStep tvNow h
  exact flushAPDUBuffer_rule hsearch fun idtf c hfound hlook =>
    accounted_sendConcatenated hlook (hok idtf hfound c hlook) hsearch

theorem accounted_searchOriginalRequest (now : UInt32) (key : ResponseKey) (h : st.Accounted) :
    (searchOriginalRequest now key st).2.Accounted := by
  apply pass_invariant_all (s := (st.shared, none))
    (P := fun (s : Shared × Option TxMsg) queue => Accounted s.1.contracts queue) _ h
  rintro ⟨sh, found⟩ done m rest h
  exact h.responseVisit

theorem Accounted.issueReqID {contracts : Contracts} {req : AddRequest}
    (hlook : contracts.lookup req.contractID = some c)
    (h : Accounted contracts queue) : Accounted (contracts.issueReqID req c) queue := by
  unfold Contracts.issueReqID
  by_cases htakes : req.obj.takesReqID = true
  · rw [if_pos htakes]
    apply h.contracts
    intro id c' hc'
    rw [lookup_insert] at hc'
    by_cases hid : id = req.contractID
    · rw [if_pos hid] at hc'
      cases hc'
      exact ⟨c, hid ▸ hlook, rfl, rfl, h.bound _ c hlook⟩
    · rw [if_neg hid] at hc'
      exact ⟨c', hc', rfl, rfl, h.bound id c' hc'⟩
  · rw [if_neg htakes]
    exact h

theorem Accounted.append {contracts : Contracts} {m : TxMsg}
    (hwf : m.WellFormed) (hzero : m.places = 0) (h : Accounted contracts queue) :
    Accounted contracts (queue ++ [m]) where
  count id c hc := by
    rw [h.count id c hc, countP_append, countP_outstanding_cons]
    simp [hzero]
  bound := h.bound
  live x hx hplaces c hc := by
    rcases mem_append.1 hx with hx | hx
    · exact h.live x hx hplaces c hc
    · rw [mem_singleton.1 hx] at hplaces
      omega
  wellFormed x hx := by
    rcases mem_append.1 hx with hx | hx
    · exact h.wellFormed x hx
    · rw [mem_singleton.1 hx]
      exact hwf

theorem accounted_addGenericObject (cfg : RetrySettings) (req : AddRequest) (h : st.Accounted) :
    (addGenericObject cfg req st).2.Accounted := by
  rcases addGenericObject_cases cfg req st with heq | ⟨c, hlook, heq | ⟨apdu, hset, heq⟩⟩
  · rw [heq]
    exact h
  · rw [heq]
    exact Accounted.issueReqID hlook h
  · rw [heq]
    apply Accounted.append (wellFormed_newTxMsg cfg req c st.nextUid hset)
      (places_of_not_marked rfl)
    exact Accounted.issueReqID hlook h

theorem accounted_deleteContract (id : UInt16) (h : st.Accounted) : (deleteContract id st).Accounted := by
  apply Accounted.contracts h
  intro id' c' hc'
  change (st.shared.contracts.erase id).lookup id' = some c' at hc'
  rw [lookup_erase] at hc'
  by_cases hid : id' = id
  · rw [if_pos hid] at hc'
    cases hc'
  · rw [if_neg hid] at hc'
    exact ⟨c', hc', rfl, rfl, h.bound id' c' hc'⟩

def NoneOutstanding (st : AslState) (id : UInt16) : Prop :=
  ∀ m ∈ st.queue, m.outstanding id = false

instance (st : AslState) (id : UInt16) : Decidable (NoneOutstanding st id) := inferInstanceAs (Decidable (∀ _ ∈ _, _))

theorem Accounted.insertEmpty {contracts : Contracts} {id : UInt16}
    (hnone : ∀ m ∈ queue, m.outstanding id = false) (hempty : c.inUseWndSize = 0)
    (h : Accounted contracts queue) : Accounted (contracts.insert id c) queue := by
  refine ⟨?_, ?_, ?_, h.wellFormed⟩
  · intro id' c' hc'
    rw [lookup_insert] at hc'
    by_cases hid : id' = id
    · rw [if_pos hid] at hc'
      cases hc'
      rw [hid, hempty, countP_eq_zero.2 (fun m hm => by simp [hnone m hm])]
      rfl
    · rw [if_neg hid] at hc'
      exact h.count id' c' hc'
  · intro id' c' hc'
    rw [lookup_insert] at hc'
    by_cases hid : id' = id
    · rw [if_pos hid] at hc'
      cases hc'
      rw [hempty]
      exact UInt8.zero_le
    · rw [if_neg hid] at hc'
      exact h.bound id' c' hc'
  · intro m hm hplaces c' hc'
    rw [lookup_insert] at hc'
    by_cases hid : m.contractId = id
    · have hholds : m.outstanding id = true := by
        have hboth : m.inSlidingWindow = true ∧ m.status ≠ .readyToClear := by
          by_contra hnot
          simp [places, hnot] at hplaces
        simp [outstanding, hid, hboth]
      rw [hnone m hm] at hholds
      cases hholds
    · rw [if_neg hid] at hc'
      exact h.live m hm hplaces c' hc'

theorem accounted_storeContract {req : SetContractReq}
    (hok : HasRoom st.shared.contracts req.idx.contractId → NoneOutstanding st req.idx.contractId)
    (h : st.Accounted) : (storeContract random req st).2.Accounted := by
  rcases storeContract_cases random req st with heq | ⟨c, hlook, heq⟩ | ⟨_, hroom, heq⟩
  · rw [heq]
    exact h
  · rw [heq]
    exact Accounted.insertEmpty (hok (Or.inl (by simp [hlook]))) rfl h
  · rw [heq]
    exact Accounted.insertEmpty (hok hroom) rfl h

def SetContractKeeps (ownAddress : Ipv6Addr) (req : SetContractReq) (st : AslState) : Prop :=
  req.data.ownIPv6 = ownAddress →
    HasRoom (if req.idx ≠ req.data then st.shared.contracts.erase req.idx.contractId
      else st.shared.contracts) req.idx.contractId →
    NoneOutstanding st req.idx.contractId

instance (ownAddress : Ipv6Addr) (req : SetContractReq) (st : AslState) :
    Decidable (SetContractKeeps ownAddress req st) := inferInstanceAs (Decidable (_ → _))

theorem accounted_setContract {ownAddress : Ipv6Addr} {req : SetContractReq}
    (hok : SetContractKeeps ownAddress req st) (h : st.Accounted) :
    (setContract ownAddress random req st).2.Accounted := by
  rcases setContract_cases ownAddress random req st with heq | ⟨hown, ⟨hidx, heq⟩ | ⟨hidx, heq⟩⟩
  · rw [heq]
    exact h
  · rw [heq]
    have hok := hok hown
    rw [if_neg (not_ne_iff.2 hidx)] at hok
    exact accounted_storeContract hok h
  · rw [heq]
    have hok := hok hown
    rw [if_pos hidx] at hok
    exact accounted_storeContract hok (accounted_deleteContract _ h)

/-- A contract that exists does not get a window below its counter, and a new one has no message outstanding under its id. -/
def AddDmoContractKeeps (dmo : DmoContract) (st : AslState) : Prop :=
  (∀ c ∈ st.shared.contracts.lookup dmo.contractID, c.inUseWndSize ≤ dmo.maxSendWindow) ∧
    (st.shared.contracts.lookup dmo.contractID = none →
      HasRoom st.shared.contracts dmo.contractID → NoneOutstanding st dmo.contractID)

instance (dmo : DmoContract) (st : AslState) : Decidable (AddDmoContractKeeps dmo st) :=
  inferInstanceAs (Decidable (_ ∧ _))

theorem accounted_addDmoContract {unset : UnsetFields} {dmo : DmoContract}
    (hok : AddDmoContractKeeps dmo st) (h : st.Accounted) : (addDmoContract random unset dmo st).2.Accounted := by
  rcases addDmoContract_cases random unset dmo st with heq | ⟨c, hlook, heq⟩ | ⟨hlook, hroom, heq⟩
  · rw [heq]
    exact h
  · rw [heq]
    have hbound : c.inUseWndSize ≤ dmo.maxSendWindow := hok.1 c hlook
    apply Accounted.contracts h
    intro id c' hc'
    rw [lookup_insert] at hc'
    by_cases hid : id = dmo.contractID
    · rw [if_pos hid] at hc'
      cases hc'
      exact ⟨c, hid ▸ hlook, rfl, rfl, hbound⟩
    · rw [if_neg hid] at hc'
      exact ⟨c', hc', rfl, rfl, h.bound id c' hc'⟩
  · rw [heq]
    exact Accounted.insertEmpty (hok.2 hlook hroom) rfl h

/-- The steps that keep the account: none of the branches is taken in which the source moves messages and counter apart. -/
def KeepsAccount (st : AslState) : AslAction → Prop
  | .aslTask tvNow now =>
    Along (ConfirmKeeps st.shared.contracts) confirmQueue st.queue st.conf ∧ FlushKeeps tvNow now (checkTLConfirms st)
  | .setContract ownAddress _ req => SetContractKeeps ownAddress req st
  | .addDmoContract _ _ dmo => AddDmoContractKeeps dmo st
  | .addGenericObject .. | .dataConfirm _ | .response .. | .oneSecond | .deleteContract _ => True

instance (st : AslState) : ∀ a, Decidable (KeepsAccount st a)
  | .aslTask .. => inferInstanceAs (Decidable (_ ∧ _))
  | .setContract ownAddress _ req => inferInstanceAs (Decidable (SetContractKeeps ownAddress req st))
  | .addDmoContract _ _ dmo => inferInstanceAs (Decidable (AddDmoContractKeeps dmo st))
  | .addGenericObject .. | .dataConfirm _ | .response .. | .oneSecond | .deleteContract _ =>
    isTrue trivial

theorem accounted_aslStep (a : AslAction) (h : st.Accounted) (hok : KeepsAccount st a) :
    (aslStep st a).Accounted := by
  cases a with
  | addGenericObject cfg req => exact accounted_addGenericObject cfg req h
  | aslTask tvNow now =>
    exact accounted_flushAPDUBuffer hok.2 (accounted_checkTLConfirms hok.1 h)
  | dataConfirm conf =>
    obtain ⟨confs, heq⟩ := dataConfirm_eq st conf
    change (dataConfirm st conf).Accounted
    rw [heq]
    exact h
  | response now key => exact accounted_searchOriginalRequest now key h
  | oneSecond => exact accounted_performOneSecondOperations h
  | setContract ownAddress random req => exact accounted_setContract hok h
  | addDmoContract random unset dmo => exact accounted_addDmoContract hok h
  | deleteContract id => exact accounted_deleteContract id h

end Steps

/-- The window accounting holds in every state of every run whose steps keep the account. -/
theorem windowAccounting_of_reachable {st : AslState}
    (h : Reachable init aslStep KeepsAccount st) : WindowAccounting st := by
  have hinit : init.Accounted := by
    refine ⟨?_, ?_, ?_, ?_⟩ <;> simp [init]
  have hinv := h.invariant hinit fun st a h hok => accounted_aslStep a h hok
  intro id c hc
  exact ⟨hinv.count id c hc, hinv.bound id c hc⟩

/-- A request is sent and times out, and its window place comes back. -/
theorem windowAccounting_of_reachable_retried : WindowAccounting (run aslStep init
      ([.setContract sampleOwnAddress 9 (sampleSetContract 1 2),
        .addGenericObject sampleRetries (sampleRequest 1 sampleReadReq), .aslTask ⟨100, 0⟩ 100] ++
        replicate 5 .oneSecond)) :=
  windowAccounting_of_reachable (reachable_run (by decide +kernel))

/-- The row of a contract is written again while a request is outstanding. -/
theorem rewrittenContract_not_windowAccounting :
    ∃ st, Reachable init aslStep (fun _ _ => True) st ∧ ¬ WindowAccounting st := by
  let actions : List AslAction :=
    [.setContract sampleOwnAddress 9 (sampleSetContract 1 1),
      .addGenericObject sampleRetries (sampleRequest 1 sampleReadReq), .aslTask ⟨100, 0⟩ 100,
      .setContract sampleOwnAddress 17 (sampleSetContract 1 1)]
  refine ⟨run aslStep init actions, reachable_run (along_true _ _), ?_⟩
  intro h
  have hcounter : ((run aslStep init actions).shared.contracts.lookup 1).map
      (fun c => c.inUseWndSize) = some 0 := by decide +kernel
  have hqueue : (run aslStep init actions).queue.countP (outstanding 1) = 1 := by
    decide +kernel
  obtain ⟨c, hc, hzero⟩ := Option.map_eq_some_iff.1 hcounter
  have hcount := (h 1 c hc).1
  rw [hzero, hqueue] at hcount
  cases hcount

end Isa100Gateway
