import Isa100Gateway.MonitorHost.TrackingManager

/-!
# Every request is told once

Whatever comes back into the manager while it sends or tells, a request whose `SendRequest` returned is pending, or in the rest of a walk, or was told, and only one of these. Two things lose requests: a packet that stops the process, and an exception that a walk does not catch.
-/

namespace Isa100Gateway.MonitorHost

namespace TrackingManager

def receiver (m : TrackingManager) (packet : GeneralPacket) (indication : Option GService) : Option GService :=
  if isIndication packet then indication
  else (m.pendingTrackings.find packet.trackingID).map fun command => command.request.service

/-- The condition under which a step loses no request. The id of a request can be in use when it is entered only if all ids were given out while it was being sent. -/
def Meets (m : TrackingManager) : TrackingEvent → Prop
  | .sendPacketReturns _ =>
    ∀ frame ∈ m.stack.head?, ∀ request ∈ frame.sending, m.pendingTrackings.find request.trackingID = none
  | .receivePacket packet indication _ =>
    ∀ service ∈ m.receiver packet indication, ¬ service.Stops m.sessionID packet
  | .receiveResponseThrows standard => standard = true ∨ ∀ frame ∈ m.stack.head?, frame.waiting = []
  | .sendRequest _ _ _ _ | .sendPacketThrows | .receiveResponseReturns | .handleDisconnect | .checkTimeoutRequests _
  | .newSession _ => True

section Count

variable {n : Nat} {rs qs : List Request} {r : Request}

theorem count_nil : count n [] = 0 := List.countP_nil

theorem count_append : count n (rs ++ qs) = count n rs + count n qs := List.countP_append

theorem count_cons : count n (r :: rs) = count n [r] + count n rs := by
  rw [← count_append]
  rfl

theorem count_singleton : count n [r] = if r.number = n then 1 else 0 := by
  rw [count, List.countP_singleton]
  simp only [decide_eq_true_eq]

theorem count_perm (h : rs.Perm qs) : count n rs = count n qs := h.countP_eq _

end Count

def sending (m : TrackingManager) : List Request := m.stack.flatMap Frame.sending

/-- Each request that got an id is being sent, or its `SendRequest` returned or threw; each that returned is waiting or was told. Requests are kept and told under the id they were sent with. -/
structure Balanced (m : TrackingManager) : Prop where
  sent : ∀ n, count n m.sending + m.returned.count n + m.thrown.count n = if n < m.issued then 1 else 0
  told : ∀ n, count n m.told + count n m.waiting = m.returned.count n
  pending : ∀ e ∈ m.pendingTrackings.entries, e.2.request.trackingID = e.1
  called : ∀ c ∈ m.calls, ∀ trackingID, c.cause = .packet trackingID → c.request.trackingID = trackingID
  walks : ∀ rest status trackingID, Frame.sweep rest status (.packet trackingID) ∉ m.stack

theorem balanced_init : Balanced init where
  sent n := by simp [init, sending, count_nil]
  told n := by simp [init, TrackingManager.told, waiting, requests, OrderedMap.empty, count_nil]
  pending := nofun
  called := nofun
  walks := nofun

variable {m m' : TrackingManager} {frame : Frame} {stack : List Frame}

theorem sending_cons (h : m.stack = frame :: stack) : m.sending = frame.sending ++ stack.flatMap Frame.sending := by
  rw [sending, h, List.flatMap_cons]

theorem count_waiting (n : Nat) :
    count n m.waiting = count n (requests m.pendingTrackings.entries) + count n (m.stack.flatMap Frame.waiting) :=
  count_append

theorem count_waiting_cons {n : Nat} (h : m.stack = frame :: stack) : count n m.waiting =
      count n (requests m.pendingTrackings.entries) +
        (count n frame.waiting + count n (stack.flatMap Frame.waiting)) := by
  rw [count_waiting, h, List.flatMap_cons, count_append]

theorem count_number {n : Nat} {request : Request} : ([request.number] : List Nat).count n = count n [request] := by
  rw [count_singleton, List.count_singleton, beq_eq_decide]
  simp only [decide_eq_true_eq]

/-! ## One step -/

theorem balanced_sendRequest (hb : m.Balanced) (service : GService) (timeout retryCount : Int) (serializes : Bool) :
    (m.sendRequest service timeout retryCount serializes).Balanced := by
  unfold sendRequest
  dsimp only
  split
  · exact hb
  · split
    · refine ⟨fun n => ?_, hb.told, hb.pending, hb.called, fun rest status trackingID hmem => ?_⟩
      · have hsent := hb.sent n
        change count n ([_] ++ m.sending) + _ + _ = _
        rw [count_append, count_singleton]
        dsimp only
        split at hsent <;> split <;> split <;> omega
      · obtain hnew | hold := List.mem_cons.mp hmem
        · cases hnew
        · exact hb.walks rest status trackingID hold
    · refine ⟨fun n => ?_, hb.told, hb.pending, hb.called, hb.walks⟩
      have hsent := hb.sent n
      change count n m.sending + m.returned.count n + (m.thrown ++ [m.issued + 1 - 1]).count n = _
      rw [List.count_append, List.count_singleton, beq_eq_decide]
      dsimp only
      split at hsent <;> split <;> split <;> simp_all <;> omega

/-- The call of the sender is over: the packet was handed to it and its request waits, or the call threw. -/
theorem Balanced.sendPacketEnds {request : Request} {timeout retryCount : Int} {stack : List Frame}
    (hb : m.Balanced) (hstack : m.stack = .sendPacket request timeout retryCount :: stack)
    (hrest : m'.stack = stack ∧ m'.issued = m.issued ∧ m'.calls = m.calls)
    (hpending : ∀ e ∈ m'.pendingTrackings.entries, e.2.request.trackingID = e.1)
    (hends : m'.returned = m.returned ++ [request.number] ∧ m'.thrown = m.thrown ∧
        (requests m'.pendingTrackings.entries).Perm (request :: requests m.pendingTrackings.entries) ∨
      m'.returned = m.returned ∧ m'.thrown = m.thrown ++ [request.number] ∧
        m'.pendingTrackings = m.pendingTrackings) : m'.Balanced := by
  obtain ⟨hstack', hissued, hcalls⟩ := hrest
  have htoldSame : m'.told = m.told := congrArg (List.map Call.request) hcalls
  refine ⟨fun n => ?_, fun n => ?_, hpending, by rw [hcalls]; exact hb.called, fun rest status trackingID hmem => ?_⟩
  · have hsent := hb.sent n
    rw [sending_cons hstack, count_append] at hsent
    change count n [request] + _ + _ + _ = _ at hsent
    rw [sending, hstack', hissued]
    obtain ⟨hreturned, hthrown, -⟩ | ⟨hreturned, hthrown, -⟩ := hends
    · rw [hreturned, hthrown, List.count_append, count_number]
      omega
    · rw [hreturned, hthrown, List.count_append, count_number]
      omega
  · have htold := hb.told n
    rw [count_waiting_cons hstack] at htold
    change _ + (_ + (count n [] + _)) = _ at htold
    rw [count_nil] at htold
    rw [count_waiting, hstack', htoldSame]
    obtain ⟨hreturned, -, hrequests⟩ | ⟨hreturned, -, hpendingSame⟩ := hends
    · rw [hreturned, List.count_append, count_number, count_perm hrequests, count_cons]
      omega
    · rw [hreturned, hpendingSame]
      omega
  · rw [hstack'] at hmem
    exact hb.walks rest status trackingID (hstack ▸ List.mem_cons_of_mem _ hmem)

theorem balanced_sendPacketReturns {now : Int} (hb : m.Balanced) (hok : m.Meets (.sendPacketReturns now))
    (h : m.sendPacketReturns now = some m') : m'.Balanced := by
  unfold sendPacketReturns at h
  split at h
  next request timeout retryCount stack hstack =>
    have hfree : m.pendingTrackings.find request.trackingID = none :=
      hok _ (by rw [hstack]; rfl) request (List.mem_singleton.mpr rfl)
    have hperm := OrderedMap.perm_insert hfree (v := ⟨request, now + timeout, timeout, retryCount⟩)
    cases h
    refine hb.sendPacketEnds hstack ⟨rfl, rfl, rfl⟩ (fun e he => ?_) (.inl ⟨rfl, rfl, ?_⟩)
    · obtain rfl | hold := List.mem_cons.mp (hperm.mem_iff.mp he)
      · rfl
      · exact hb.pending e hold
    · exact hperm.map fun e => e.2.request
  next => cases h

theorem balanced_sendPacketThrows (hb : m.Balanced) (h : m.sendPacketThrows = some m') : m'.Balanced := by
  unfold sendPacketThrows at h
  split at h
  next request timeout retryCount stack hstack =>
    cases h
    exact hb.sendPacketEnds hstack ⟨rfl, rfl, rfl⟩ hb.pending (.inr ⟨rfl, rfl, rfl⟩)
  next => cases h

structure Walking (m : TrackingManager) (rest : List Request) : Prop where
  sent : ∀ n, count n m.sending + m.returned.count n + m.thrown.count n = if n < m.issued then 1 else 0
  told : ∀ n, count n m.told + count n m.waiting + count n rest = m.returned.count n
  pending : ∀ e ∈ m.pendingTrackings.entries, e.2.request.trackingID = e.1
  called : ∀ c ∈ m.calls, ∀ trackingID, c.cause = .packet trackingID → c.request.trackingID = trackingID
  walks : ∀ rest status trackingID, Frame.sweep rest status (.packet trackingID) ∉ m.stack

theorem Walking.balanced {rest : List Request} (h : m.Walking rest) (hrest : rest = []) : m.Balanced where
  sent := h.sent
  told n := by
    have htold := h.told n
    rwa [hrest, count_nil, Nat.add_zero] at htold
  pending := h.pending
  called := h.called
  walks := h.walks

theorem Walking.sweep {rest : List Request} (h : m.Walking rest) (status : ResponseStatus) {cause : Cause}
    (hcause : ∀ trackingID, cause ≠ .packet trackingID) : (m.sweep rest status cause).Balanced := by
  cases hrest : rest with
  | nil => exact h.balanced hrest
  | cons request rest' =>
    refine ⟨h.sent, fun n => ?_, h.pending, fun c hc => ?_, fun rest status trackingID hmem => ?_⟩
    · have htold := h.told n
      rw [hrest, count_cons, count_waiting] at htold
      have htold' : count n (m.sweep (request :: rest') status cause).told = count n m.told + count n [request] := by
        rw [← count_append]
        exact congrArg (count n) (List.map_append (f := Call.request))
      rw [htold', count_waiting_cons (m := m.sweep (request :: rest') status cause) rfl]
      change _ + (count n (requests m.pendingTrackings.entries) + (count n rest' + _)) = m.returned.count n
      omega
    · obtain hold | hnew := List.mem_append.mp hc
      · exact h.called c hold
      · rw [List.mem_singleton.mp hnew]
        exact fun trackingID heq => absurd heq (hcause trackingID)
    · obtain hnew | hold := List.mem_cons.mp hmem
      · exact hcause trackingID (Frame.sweep.inj hnew).2.2.symm
      · exact h.walks rest status trackingID hold

theorem stopped_sweep (rest : List Request) (status : ResponseStatus) (cause : Cause) :
    (m.sweep rest status cause).stopped = m.stopped := by cases rest <;> rfl

theorem stopped_receiveResponseEnds {caught : Bool} (hruns : m.stopped = false)
    (h : m.receiveResponseEnds caught = some m') : m'.stopped = false := by
  unfold receiveResponseEnds at h
  split at h
  · rw [← Option.some.inj h]
    exact hruns
  · rw [← Option.some.inj h]
    split
    · rw [stopped_sweep]
      exact hruns
    · exact hruns
  · cases h

theorem balanced_receiveResponseEnds {caught : Bool} (hb : m.Balanced)
    (hok : caught = true ∨ ∀ frame ∈ m.stack.head?, frame.waiting = []) (h : m.receiveResponseEnds caught = some m') :
    m'.Balanced := by
  unfold receiveResponseEnds at h
  split at h
  next stack hstack =>
    have hm := Option.some.inj h
    have hsending : m'.sending = m.sending := by
      rw [sending_cons hstack, ← hm]
      rfl
    have hwaiting : m'.waiting = m.waiting := by
      rw [waiting, waiting, hstack, ← hm]
      rfl
    refine ⟨fun n => ?_, fun n => ?_, ?_, ?_, fun rest status trackingID hmem => ?_⟩
    · rw [hsending, ← hm]
      exact hb.sent n
    · rw [hwaiting, ← hm]
      exact hb.told n
    · rw [← hm]
      exact hb.pending
    · rw [← hm]
      exact hb.called
    · rw [← hm] at hmem
      exact hb.walks rest status trackingID (hstack ▸ List.mem_cons_of_mem _ hmem)
  next rest status cause stack hstack =>
    have hwalking : Walking { m with stack } rest := by
      refine ⟨fun n => ?_, fun n => ?_, hb.pending, hb.called, fun rest status trackingID hmem => ?_⟩
      · have hsent := hb.sent n
        rw [sending_cons hstack] at hsent
        exact hsent
      · have htold := hb.told n
        rw [count_waiting_cons hstack] at htold
        change count n m.told + (_ + (count n rest + _)) = _ at htold
        rw [count_waiting]
        change count n m.told + (count n (requests m.pendingTrackings.entries) +
          count n (stack.flatMap Frame.waiting)) + _ =
          m.returned.count n
        omega
      · exact hb.walks rest status trackingID (hstack ▸ List.mem_cons_of_mem _ hmem)
    have hcause : ∀ trackingID, cause ≠ .packet trackingID := by
      rintro trackingID rfl
      exact hb.walks rest status trackingID (hstack ▸ List.mem_cons_self)
    rw [← Option.some.inj h]
    split
    · exact hwalking.sweep status hcause
    · next hthrown =>
      have hempty := hok.resolve_left hthrown
      exact hwalking.balanced (hempty (.sweep rest status cause) (by rw [hstack]; rfl))
  next => cases h

theorem Balanced.pushReceiveResponse (hb : m.Balanced) : Balanced { m with stack := .receiveResponse :: m.stack } where
  sent := hb.sent
  told := hb.told
  pending := hb.pending
  called := hb.called
  walks rest status trackingID hmem := by
    obtain hnew | hold := List.mem_cons.mp hmem
    · cases hnew
    · exact hb.walks rest status trackingID hold

theorem Balanced.tell {trackingID : Int32} {command : TrackingCommand} (hb : m.Balanced)
    (hfind : m.pendingTrackings.find trackingID = some command) (status : ResponseStatus) :
    Balanced { m with
      pendingTrackings := m.pendingTrackings.erase trackingID
      calls := m.calls ++ [⟨command.request, status, .packet trackingID⟩] } where
  sent := hb.sent
  told n := by
    have hperm : (requests m.pendingTrackings.entries).Perm
        (command.request :: requests (m.pendingTrackings.erase trackingID).entries) :=
      (OrderedMap.perm_erase hfind).map fun e : Int32 × TrackingCommand => e.2.request
    have htold := hb.told n
    rw [count_waiting, count_perm hperm, count_cons] at htold
    rw [count_waiting]
    change count n ((m.calls ++ [_]).map Call.request) +
      (count n (requests (m.pendingTrackings.erase trackingID).entries) + count n (m.stack.flatMap Frame.waiting)) =
        m.returned.count n
    rw [List.map_append, count_append]
    change count n m.told + count n [command.request] + _ = _
    omega
  pending e he := hb.pending e (List.mem_of_mem_filter he)
  called c hc := by
    obtain hold | hnew := List.mem_append.mp hc
    · exact hb.called c hold
    · rw [List.mem_singleton.mp hnew]
      intro trackingID' heq
      obtain rfl := Cause.packet.inj heq
      exact hb.pending _ (OrderedMap.mem_entries.mpr hfind)
  walks := hb.walks

theorem receivePacket_cases (packet : GeneralPacket) (indication : Option GService) (parsed : Parsed) :
    m.receivePacket packet indication parsed = m ∨
      (∃ service, m.receiver packet indication = some service ∧ service.Stops m.sessionID packet) ∨
      m.receivePacket packet indication parsed = { m with stack := .receiveResponse :: m.stack } ∨
      ∃ command status, m.pendingTrackings.find packet.trackingID = some command ∧
        m.receivePacket packet indication parsed = { m with
            pendingTrackings := m.pendingTrackings.erase packet.trackingID
            stack := .receiveResponse :: m.stack
            calls := m.calls ++ [⟨command.request, status, .packet packet.trackingID⟩] } := by
  unfold receivePacket receiver
  split
  · split
    · exact .inl rfl
    · next service =>
      split
      · next hnone => exact .inr (.inl ⟨service, rfl, unserialize_eq_none_iff.mp hnone⟩)
      · exact .inr (.inr (.inl rfl))
  · split
    · exact .inl rfl
    · next command hfind =>
      dsimp only
      split
      · next hnone =>
        exact .inr (.inl ⟨command.request.service, by rw [hfind]; rfl, unserialize_eq_none_iff.mp hnone⟩)
      · next status _ => exact .inr (.inr (.inr ⟨command, status, hfind, rfl⟩))

theorem balanced_receivePacket {packet : GeneralPacket} {indication : Option GService} {parsed : Parsed}
    (hb : m.Balanced) (hok : m.Meets (.receivePacket packet indication parsed)) :
    (m.receivePacket packet indication parsed).Balanced ∧
      (m.receivePacket packet indication parsed).stopped = m.stopped := by
  obtain heq | hstops | heq | hfound := receivePacket_cases (m := m) packet indication parsed
  · rw [heq]
    exact ⟨hb, rfl⟩
  · obtain ⟨service, hservice, hstop⟩ := hstops
    exact absurd hstop (hok service hservice)
  · rw [heq]
    exact ⟨hb.pushReceiveResponse, rfl⟩
  · obtain ⟨command, status, hfind, heq⟩ := hfound
    rw [heq]
    exact ⟨(hb.tell hfind status).pushReceiveResponse, rfl⟩

theorem balanced_handleDisconnect (hb : m.Balanced) : m.handleDisconnect.Balanced := by
  have hwalking : Walking { m with pendingTrackings := .empty } (requests m.pendingTrackings.entries) := by
    refine ⟨hb.sent, fun n => ?_, nofun, hb.called, hb.walks⟩
    have htold := hb.told n
    rw [count_waiting] at htold
    rw [count_waiting]
    change count n m.told + (count n [] + count n (m.stack.flatMap Frame.waiting)) + _ = m.returned.count n
    rw [count_nil]
    omega
  exact hwalking.sweep .failureLostConnection fun _ => nofun

theorem balanced_checkTimeoutRequests (hb : m.Balanced) (clock : Int32 → Int) :
    (m.checkTimeoutRequests clock).Balanced := by
  have hperm : (requests (m.pendingTrackings.entries.filter fun e => expired clock e.1 e.2) ++
      requests (m.pendingTrackings.entries.filter fun e => !expired clock e.1 e.2)).Perm
        (requests m.pendingTrackings.entries) := by
    unfold requests
    rw [← List.map_append]
    exact (List.filter_append_perm _ _).map _
  have hwalking : Walking
      { m with pendingTrackings := m.pendingTrackings.filter fun trackingID command =>
        !expired clock trackingID command }
      (requests (m.pendingTrackings.entries.filter fun e => expired clock e.1 e.2)) := by
    refine ⟨hb.sent, fun n => ?_, fun e he => hb.pending e (List.mem_of_mem_filter he), hb.called, hb.walks⟩
    have htold := hb.told n
    have hcount := count_perm (n := n) hperm
    rw [count_append] at hcount
    rw [count_waiting] at htold
    rw [count_waiting]
    change count n m.told + (count n (requests (m.pendingTrackings.entries.filter fun e => !expired clock e.1 e.2)) +
      count n (m.stack.flatMap Frame.waiting)) + _ = m.returned.count n
    omega
  exact hwalking.sweep .failureHostTimeout fun _ => nofun

theorem balanced_step {e : TrackingEvent} (hb : m.Balanced) (hok : m.Meets e) (h : m.step e = some m') :
    m'.Balanced := by
  unfold step at h
  split at h
  · cases h
  · cases e with
    | sendRequest service timeout retryCount serializes =>
      rw [← Option.some.inj h]
      exact balanced_sendRequest hb service timeout retryCount serializes
    | sendPacketReturns now => exact balanced_sendPacketReturns hb hok h
    | sendPacketThrows => exact balanced_sendPacketThrows hb h
    | receivePacket packet indication parsed =>
      rw [← Option.some.inj h]
      exact (balanced_receivePacket hb hok).1
    | receiveResponseReturns => exact balanced_receiveResponseEnds hb (.inl rfl) h
    | receiveResponseThrows standard => exact balanced_receiveResponseEnds hb hok h
    | handleDisconnect =>
      rw [← Option.some.inj h]
      exact balanced_handleDisconnect hb
    | checkTimeoutRequests clock =>
      rw [← Option.some.inj h]
      exact balanced_checkTimeoutRequests hb clock
    | newSession sessionID =>
      rw [← Option.some.inj h]
      exact ⟨hb.sent, hb.told, hb.pending, hb.called, hb.walks⟩

theorem stopped_step {e : TrackingEvent} (hb : m.Balanced) (hok : m.Meets e) (h : m.step e = some m') :
    m'.stopped = false := by
  unfold step at h
  split at h
  · cases h
  · next hruns =>
    have hstopped : m.stopped = false := Bool.eq_false_iff.mpr hruns
    cases e with
    | sendRequest service timeout retryCount serializes =>
      rw [← Option.some.inj h, sendRequest]
      split
      · exact hstopped
      · split <;> exact hstopped
    | sendPacketReturns now =>
      change m.sendPacketReturns now = some m' at h
      unfold sendPacketReturns at h
      split at h
      · rw [← Option.some.inj h]
        exact hstopped
      · cases h
    | sendPacketThrows =>
      change m.sendPacketThrows = some m' at h
      unfold sendPacketThrows at h
      split at h
      · rw [← Option.some.inj h]
        exact hstopped
      · cases h
    | receivePacket packet indication parsed =>
      rw [← Option.some.inj h, (balanced_receivePacket hb hok).2]
      exact hstopped
    | receiveResponseReturns => exact stopped_receiveResponseEnds hstopped h
    | receiveResponseThrows standard => exact stopped_receiveResponseEnds hstopped h
    | handleDisconnect =>
      rw [← Option.some.inj h, handleDisconnect, stopped_sweep]
      exact hstopped
    | checkTimeoutRequests clock =>
      rw [← Option.some.inj h, checkTimeoutRequests, stopped_sweep]
      exact hstopped
    | newSession sessionID =>
      rw [← Option.some.inj h]
      exact hstopped

/-- The state with nothing called and the clock past every timeout ends all that is pending. -/
def Completes (m : TrackingManager) : Prop :=
  ∀ clock : Int32 → Int, m.stack = [] → (∀ e ∈ m.pendingTrackings.entries, e.2.timeoutDate < clock e.1) →
    ∃ m', Machine.runs step m (.checkTimeoutRequests clock ::
        List.replicate m.pendingTrackings.entries.length .receiveResponseReturns) = some m' ∧
      m'.returned = m.returned ∧ ∀ n ∈ m.returned, count n m'.told = 1

/-- What the host is owed: a request that returned is told once or still waits, never both; it is told under its own id, which no other pending request has; a request that threw is nowhere. -/
structure Tracked (m : TrackingManager) : Prop where
  once : ∀ n, count n m.told + count n m.waiting = if n ∈ m.returned then 1 else 0
  own : ∀ c ∈ m.calls, ∀ trackingID, c.cause = .packet trackingID → c.request.trackingID = trackingID
  distinct : (requests m.pendingTrackings.entries).Pairwise fun r q => r.trackingID ≠ q.trackingID
  thrown : ∀ n ∈ m.thrown, n ∉ m.returned ∧ count n m.told = 0 ∧ count n m.waiting = 0
  completes : m.Completes

theorem Balanced.count_returned (hb : m.Balanced) (n : Nat) : m.returned.count n = if n ∈ m.returned then 1 else 0 := by
  have hsent := hb.sent n
  split
  next hmem =>
    have hpos := List.count_pos_iff.mpr hmem
    split at hsent <;> omega
  next hnot => exact List.count_eq_zero.mpr hnot

theorem runs_sweep (status : ResponseStatus) (cause : Cause) (rest : List Request) :
    ∀ m : TrackingManager, m.stack = [] → m.stopped = false →
      ∃ m', Machine.runs step (m.sweep rest status cause) (List.replicate rest.length .receiveResponseReturns) =
        some m' ∧
        m'.stack = [] ∧ m'.pendingTrackings = m.pendingTrackings ∧ m'.returned = m.returned := by
  induction rest with
  | nil => exact fun m hstack _ => ⟨m, rfl, hstack, rfl, rfl⟩
  | cons request rest ih =>
    intro m hstack hruns
    let told : TrackingManager := { m with stack := [], calls := m.calls ++ [⟨request, status, cause⟩] }
    obtain ⟨m', hrun, hstack', hpending, hreturned⟩ := ih told rfl hruns
    refine ⟨m', ?_, hstack', hpending, hreturned⟩
    have hstep : (m.sweep (request :: rest) status cause).step .receiveResponseReturns =
        some (told.sweep rest status cause) := by
      rw [step, if_neg (Bool.eq_false_iff.mp ((stopped_sweep _ _ _).trans hruns))]
      change some (TrackingManager.sweep { m with stack := m.stack, calls := _ } rest status cause) = _
      rw [hstack]
      rfl
    rw [List.length_cons, List.replicate_succ, Machine.runs, hstep]
    exact hrun

theorem Balanced.completes (hb : m.Balanced) (hruns : m.stopped = false) : m.Completes := by
  intro clock hstack hlate
  have hall : (m.pendingTrackings.entries.filter fun e => expired clock e.1 e.2) = m.pendingTrackings.entries :=
    List.filter_eq_self.mpr fun e he => decide_eq_true (hlate e he)
  have hnone : (m.pendingTrackings.entries.filter fun e => !expired clock e.1 e.2) = [] := by
    refine List.filter_eq_nil_iff.mpr fun e he hkept => ?_
    rw [expired, decide_eq_true (hlate e he)] at hkept
    cases hkept
  let rest := m.pendingTrackings.filter fun trackingID command => !expired clock trackingID command
  obtain ⟨m', hrun, hstack', hpending, hreturned⟩ :=
    runs_sweep .failureHostTimeout .hostTimeout (requests m.pendingTrackings.entries)
      { m with pendingTrackings := rest } hstack hruns
  have hstep : m.step (.checkTimeoutRequests clock) =
      some (TrackingManager.sweep { m with pendingTrackings := rest } (requests m.pendingTrackings.entries)
        .failureHostTimeout .hostTimeout) := by
    rw [step, if_neg (Bool.eq_false_iff.mp hruns)]
    rw [checkTimeoutRequests, hall]
  have hruns' : Machine.runs step m (.checkTimeoutRequests clock ::
      List.replicate m.pendingTrackings.entries.length .receiveResponseReturns) = some m' := by
    rw [Machine.runs, hstep, ← hrun, requests, List.length_map]
    rfl
  refine ⟨m', hruns', hreturned, fun n hn => ?_⟩
  have hbalanced : m'.Balanced := by
    refine Machine.runs_invariant hb (fun s a s' ha hs hnext => balanced_step hs ?_ hnext) hruns'
    obtain rfl | hreturn := List.mem_cons.mp ha
    · trivial
    · rw [List.eq_of_mem_replicate hreturn]
      trivial
  have htold := hbalanced.told n
  rw [hreturned] at htold
  change _ = m.returned.count n at htold
  rw [count_waiting, hstack', hpending, hb.count_returned, if_pos hn] at htold
  change _ + (count n (requests (m.pendingTrackings.entries.filter fun e => !expired clock e.1 e.2)) +
    count n []) = _ at htold
  rw [hnone] at htold
  change _ + (count n [] + count n []) = _ at htold
  rw [count_nil] at htold
  omega

theorem Balanced.tracked (hb : m.Balanced) (hruns : m.stopped = false) : m.Tracked where
  once n := (hb.told n).trans (hb.count_returned n)
  own := hb.called
  distinct := by
    rw [requests, List.pairwise_map]
    refine m.pendingTrackings.sorted.imp_of_mem fun {e e'} he he' hlt => ?_
    rw [hb.pending e he, hb.pending e' he']
    exact ne_of_lt hlt
  thrown n hn := by
    have hsent := hb.sent n
    have htold := hb.told n
    have hpos := List.count_pos_iff.mpr hn
    have hzero : m.returned.count n = 0 := by split at hsent <;> omega
    exact ⟨List.count_eq_zero.mp hzero, by omega, by omega⟩
  completes := hb.completes hruns

/-- In every run in which no packet stops the process, no exception ends a walk early and no request is entered under an id in use, the requests are tracked. -/
theorem requests_tracked (h : Machine.Reaches init step Meets m) : m.Tracked := by
  have hboth : m.Balanced ∧ m.stopped = false := by
    refine Machine.Reaches.invariant (P := fun m => m.Balanced ∧ m.stopped = false) ⟨balanced_init, rfl⟩ ?_ h
    intro s e s' hs hok hnext
    exact ⟨balanced_step hs.1 hok hnext, stopped_step hs.1 hok hnext⟩
  exact hboth.1.tracked hboth.2

instance {service : GService} {sessionID : UInt32} {packet : GeneralPacket} :
    Decidable (service.Compares sessionID packet) :=
  match service with
  | .session => isTrue trivial
  | .subscribe false => isFalse id
  | .topologyReport | .deviceListReport | .networkHealthReport | .scheduleReport | .neighbourHealthReport
  | .deviceHealthReport | .networkResourceReport | .alertSubscription | .alertIndication | .delContract | .contract
  | .bulk | .writeObjectAttribute | .readMultipleObjectAttributes | .publishSubscribe | .publish _ | .subscribe true
  | .getSizeForPubIndication | .publishIndication | .getFirmwareVersion | .firmwareUpdate | .getFirmwareUpdateStatus
  | .cancelFirmwareUpdate | .resetDevice | .sensorFrmUpdateCancel | .getChannelsStatistics | .getContractsAndRoutes
  | .isaCSRequest => inferInstanceAs (Decidable (_ = _))

instance {service : GService} {sessionID : UInt32} {packet : GeneralPacket} :
    Decidable (service.Stops sessionID packet) := inferInstanceAs (Decidable (_ ∧ _))

instance : ∀ e : TrackingEvent, Decidable (m.Meets e)
  | .sendPacketReturns _ => inferInstanceAs (Decidable (∀ _ ∈ _, _))
  | .receivePacket .. => inferInstanceAs (Decidable (∀ _ ∈ _, _))
  | .receiveResponseThrows _ => inferInstanceAs (Decidable (_ ∨ _))
  | .sendRequest _ _ _ _ | .sendPacketThrows | .receiveResponseReturns | .handleDisconnect | .checkTimeoutRequests _
  | .newSession _ => isTrue trivial

def deviceListConfirm (trackingID : Int32) (data : List UInt8) (sized : data.length < 2 ^ 32) : GeneralPacket :=
  let packet : GeneralPacket := ⟨3, 0x83, 0, trackingID, 0, data, sized⟩
  { packet with headerCRC := generateCRC32C packet.header }

/-- Two requests; the first gets its confirm while the second is sent, the second is lost, and its `ReceiveResponse` sends a third. -/
def interleaved : List TrackingEvent :=
  [.sendRequest .deviceListReport 60 0 true, .sendPacketReturns 100, .sendRequest .topologyReport 60 0 true,
    .receivePacket (deviceListConfirm 2 [] (Nat.two_pow_pos 32)) none (.status 0), .receiveResponseThrows false,
    .sendPacketReturns 110, .handleDisconnect, .sendRequest .contract 60 0 true, .sendPacketThrows,
    .receiveResponseReturns]

theorem interleaved_tracked :
    ∃ m, Machine.runs step init interleaved = some m ∧ m.told.map Request.number = [0, 1] ∧ m.thrown = [2] ∧
      m.Tracked := by
  have hend : (Machine.runs step init interleaved).map (fun m => (m.told.map Request.number, m.thrown)) =
      some ([0, 1], [2]) := by decide +kernel
  obtain ⟨m, hrun, heq⟩ := Option.map_eq_some_iff.mp hend
  obtain ⟨htold, hthrown⟩ := Prod.mk.inj heq
  have hmeets : Machine.AllAlong Meets step init interleaved := by decide +kernel
  exact ⟨m, hrun, htold, hthrown, requests_tracked (Machine.reaches_runs hmeets hrun)⟩

def shortConfirm : List TrackingEvent :=
  [.sendRequest .deviceListReport 60 0 true, .sendPacketReturns 100,
    .receivePacket (deviceListConfirm 2 [0, 0] (by decide)) none (.status 0)]

/-- A packet too short for its checksum takes the request out, and nobody is told. -/
theorem short_confirm_untracked : ¬ ∀ m, Machine.Reaches init step (fun _ _ => True) m → m.Tracked := by
  intro h
  have hend : (Machine.runs step init shortConfirm).map (fun m => (count 0 m.told + count 0 m.waiting, m.returned)) =
      some (0, [0]) := by decide +kernel
  obtain ⟨m, hrun, heq⟩ := Option.map_eq_some_iff.mp hend
  obtain ⟨hlost, hreturned⟩ := Prod.mk.inj heq
  have hall : Machine.AllAlong (fun _ _ => True) step init shortConfirm := by decide +kernel
  have honce := (h m (Machine.reaches_runs hall hrun)).once 0
  rw [hlost, hreturned, if_pos List.mem_cons_self] at honce
  cases honce

end TrackingManager

end Isa100Gateway.MonitorHost
