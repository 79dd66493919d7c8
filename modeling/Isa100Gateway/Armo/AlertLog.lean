import Isa100Gateway.Armo.QueueLayout

/-!
# The alert log

What the alert queue is for: it keeps the accepted alerts in the order of their arrival until they are acknowledged or pushed out by newer ones. The log is replayed from the effects of a run, and every step of the ARMO keeps the bytes of the queue in agreement with it.
-/

namespace Isa100Gateway

open ArmoState List

open Records (Holds Format)

/-- An alert that waits for its acknowledgement. `draw` counts the ids of its category that were given out before its own. -/
structure LogEntry where
  category : AlertCategory
  draw : Nat
  alert : Alert
  data : Payload

structure AlertLog where
  entries : List LogEntry
  drawn : AlertCategory → Nat

def AlertLog.start : AlertLog where
  entries := []
  drawn := fun _ => 0

def AlertLog.draw (log : AlertLog) (c : AlertCategory) : AlertLog :=
  { log with drawn := Function.update log.drawn c (log.drawn c + 1) }

def AlertLog.push (log : AlertLog) (c : AlertCategory) (alert : Alert) (data : Payload) : AlertLog :=
  { log.draw c with entries := log.entries ++ [⟨c, log.drawn c, alert, data⟩] }

def AlertLog.apply (log : AlertLog) : ArmoEffect → AlertLog
  | .evicted => { log with entries := log.entries.tail }
  | .queued alert data =>
    match armoIndex alert.category with
    | some c => log.push c alert data
    | none => log
  | .acknowledged id => { log with entries := log.entries.eraseP fun e => e.alert.id == id }
  | .drawnForEvent c => log.draw c
  | .forwarded _ _ | .notifyAlertAcknowledge _ | .report _ | .recoveredAlarm _ | .recoveryEvent _ => log

def AlertLog.replay (log : AlertLog) (effects : List ArmoEffect) : AlertLog :=
  effects.foldl AlertLog.apply log

theorem AlertLog.replay_append (log : AlertLog) (xs ys : List ArmoEffect) :
    log.replay (xs ++ ys) = (log.replay xs).replay ys :=
  foldl_append

theorem AlertLog.replay_evicted (log : AlertLog) (k : Nat) :
    log.replay (replicate k .evicted) = { log with entries := log.entries.drop k } := by
  induction k generalizing log with
  | zero => rfl
  | succ k ih =>
    rw [replicate_succ, AlertLog.replay, foldl_cons]
    change (log.apply .evicted).replay _ = _
    rw [ih]
    simp [AlertLog.apply]

def accepted (effects : List ArmoEffect) : List (Alert × Payload) :=
  effects.filterMap fun
    | .queued alert data => some (alert, data)
    | _ => none

def LogEntry.content (e : LogEntry) : Alert × Payload := (e.alert, e.data)

theorem AlertLog.apply_sublist (log : AlertLog) (effect : ArmoEffect) :
    ((log.apply effect).entries.map LogEntry.content).Sublist
      (log.entries.map LogEntry.content ++ accepted [effect]) := by
  cases effect with
  | evicted => simpa [AlertLog.apply, accepted] using (tail_sublist _).map _
  | queued alert data =>
    simp only [AlertLog.apply, accepted]
    cases armoIndex alert.category with
    | none => exact sublist_append_left _ _
    | some c => simp [AlertLog.push, LogEntry.content]
  | acknowledged id => simpa [AlertLog.apply, accepted] using eraseP_sublist.map LogEntry.content
  | forwarded | notifyAlertAcknowledge | drawnForEvent | report | recoveredAlarm | recoveryEvent =>
    simp [AlertLog.apply, AlertLog.draw, accepted]

theorem AlertLog.replay_sublist (log : AlertLog) (effects : List ArmoEffect) :
    ((log.replay effects).entries.map LogEntry.content).Sublist
      (log.entries.map LogEntry.content ++ accepted effects) := by
  induction effects generalizing log with
  | nil => simp [AlertLog.replay, accepted]
  | cons effect effects ih =>
    have hsplit : accepted (effect :: effects) = accepted [effect] ++ accepted effects := by
      rw [accepted, accepted, accepted, ← filterMap_append, singleton_append]
    rw [hsplit, ← append_assoc]
    exact (ih (log.apply effect)).trans ((log.apply_sublist effect).append_right _)

/-- The record keeps the alert of the entry. `ARMO_Task` has its own field in it, the time of the next report. -/
structure Stores (r : AlertRecord) (e : LogEntry) : Prop where
  alert : r.alert.resendAt 0 = e.alert
  data : r.data = e.data
  category : r.category = e.category

theorem Stores.id {r : AlertRecord} {e : LogEntry} (h : Stores r e) : r.alert.id = e.alert.id := by
  have hid := congrArg Alert.id h.alert
  exact hid

theorem Stores.size {r : AlertRecord} {e : LogEntry} (h : Stores r e) : r.alert.size = e.alert.size := by
  have hsize := congrArg Alert.size h.alert
  exact hsize

/-- The queue of `s` holds the records `rs`, which are the alerts of the log, and the id counters of `s` count the ids given out. -/
structure Represents (s : ArmoState) (rs : List AlertRecord) (log : AlertLog) : Prop where
  queue : QueueHolds s.queue rs
  stored : Forall₂ Stores rs log.entries
  counted : ∀ c, (s.armo c).alertsNo = UInt8.ofNat (log.drawn c)
  ids : ∀ e ∈ log.entries, e.alert.id = nextAlertId e.category (UInt8.ofNat e.draw)

theorem represents_start : Represents start [] AlertLog.start where
  queue := queueHolds_start
  stored := .nil
  counted _ := rfl
  ids _ h := nomatch h

section Agreement

variable {s s' : ArmoState} {rs : List AlertRecord} {log : AlertLog} {c : AlertCategory}

theorem Represents.congr (h : Represents s rs log) (hqueue : s'.queue = s.queue)
    (halertsNo : ∀ c, (s'.armo c).alertsNo = (s.armo c).alertsNo) : Represents s' rs log where
  queue := hqueue ▸ h.queue
  stored := h.stored
  counted c := (halertsNo c).trans (h.counted c)
  ids := h.ids

@[simp] theorem ArmoState.update_self (s : ArmoState) (c : AlertCategory) (f : ArmoStruct → ArmoStruct) :
    (s.update c f).armo c = f (s.armo c) :=
  Function.update_self c _ _

theorem ArmoState.update_of_ne (s : ArmoState) {c d : AlertCategory} (f : ArmoStruct → ArmoStruct)
    (h : d ≠ c) : (s.update c f).armo d = s.armo d :=
  Function.update_of_ne h _ _

variable {f : ArmoStruct → ArmoStruct}

theorem ArmoState.alertsNo_update (s : ArmoState) (c d : AlertCategory)
    (hf : ∀ a, (f a).alertsNo = a.alertsNo) : ((s.update c f).armo d).alertsNo = (s.armo d).alertsNo := by
  by_cases hd : d = c
  · rw [hd, update_self, hf]
  · rw [s.update_of_ne f hd]

theorem Represents.update (h : Represents s rs log) (c : AlertCategory)
    (hf : ∀ a, (f a).alertsNo = a.alertsNo) : Represents (s.update c f) rs log :=
  h.congr rfl fun d => s.alertsNo_update c d hf

theorem Represents.count (h : Represents s rs log) (c : AlertCategory) :
    Represents (s.countAlert c) rs (log.draw c) where
  queue := h.queue
  stored := h.stored
  ids := h.ids
  counted d := by
    by_cases hd : d = c
    · subst hd
      simp [countAlert, AlertLog.draw, h.counted d]
    · have hdrawn : (log.draw c).drawn d = log.drawn d := Function.update_of_ne hd _ _
      rw [countAlert, s.update_of_ne _ hd, h.counted d, hdrawn]

theorem map_eq_map_of_forall₂ {α β γ : Type*} {R : α → β → Prop} {f : α → γ} {g : β → γ}
    (hfg : ∀ a b, R a b → f a = g b) {as : List α} {bs : List β} (h : Forall₂ R as bs) : as.map f = bs.map g := by
  have hmaps : Forall₂ (· = ·) (as.map f) (bs.map g) :=
    forall₂_map_left_iff.mpr (forall₂_map_right_iff.mpr (h.imp hfg))
  rwa [forall₂_eq_eq_eq] at hmaps

theorem forall₂_eraseP {α β : Type*} {R : α → β → Prop} {p : α → Bool} {q : β → Bool}
    (hpq : ∀ a b, R a b → p a = q b) {as : List α} {bs : List β} (h : Forall₂ R as bs) :
    Forall₂ R (as.eraseP p) (bs.eraseP q) := by
  induction h with
  | nil => exact .nil
  | cons hab hrest ih =>
    rename_i a b as bs
    rw [eraseP_cons, eraseP_cons, hpq a b hab]
    cases q b with
    | true => exact hrest
    | false => exact .cons hab ih

theorem replay_ackEffects (log : AlertLog) (id : UInt8) :
    log.replay (ackEffects id) = { log with entries := log.entries.eraseP fun e => e.alert.id == id } := by
  unfold ackEffects
  split <;> rfl

theorem processAlertAck_represents (h : Represents s rs log) (id : UInt8) :
    ∃ s', processAlertAck id s = some (ackEffects id, s') ∧
      Represents s' (rs.eraseP fun r => r.alert.id == id) (log.replay (ackEffects id)) := by
  obtain ⟨queue, hack, hholds⟩ := processAlertAck_holds h.queue id
  refine ⟨_, hack, ?_⟩
  rw [replay_ackEffects]
  exact {
    queue := hholds
    stored := forall₂_eraseP (fun r e hre => by rw [hre.id]) h.stored
    counted := h.counted
    ids := fun e he => h.ids e (mem_of_mem_eraseP he) }

theorem AlertLog.replay_stored {alert : Alert} (log : AlertLog) (k : Nat) (data : Payload)
    (hcat : armoIndex alert.category = some c) :
    log.replay (replicate k .evicted ++ [.queued alert data]) =
      AlertLog.push { log with entries := log.entries.drop k } c alert data := by
  rw [AlertLog.replay_append, AlertLog.replay_evicted]
  simp only [AlertLog.replay, foldl_cons, foldl_nil, AlertLog.apply, hcat]

theorem storeAlert_represents (req : AlertRequest) (time : CrtTaiTime) (h : Represents s rs log)
    (hcat : armoIndex req.alert.category = some c) (hsize : req.alert.size.toNat ≤ maxUnwrappedSize)
    (hlen : (alertLength req.alert.size).toNat ≤ armoQueueSize) :
    ∃ queue r, storeAlert c req time s =
        some (replicate (roomFor req rs) .evicted ++ [.queued (s.storedAlert c req time) req.buf],
          { s.countAlert c with queue := queue }) ∧
      Represents { s.countAlert c with queue := queue } (rs.drop (roomFor req rs) ++ [r])
        (AlertLog.push { log with entries := log.entries.drop (roomFor req rs) } c
          (s.storedAlert c req time) req.buf) := by
  obtain ⟨queue, r, hstore, hholds, halert, hdata, hcategory⟩ :=
    storeAlert_holds req time h.queue hcat hsize hlen
  refine ⟨queue, r, hstore, ?_⟩
  have hnew : Stores r ⟨c, log.drawn c, s.storedAlert c req time, req.buf⟩ :=
    ⟨by rw [halert]; rfl, hdata, hcategory⟩
  have hcount := h.count c
  exact {
    queue := hholds
    stored := rel_append (forall₂_drop _ h.stored) (.cons hnew .nil)
    counted := hcount.counted
    ids := by
      intro e he
      rcases mem_append.mp he with he | he
      · exact h.ids e (mem_of_mem_drop he)
      · obtain rfl := mem_singleton.mp he
        change nextAlertId c (s.armo c).alertsNo = _
        rw [h.counted c] }

end Agreement

def ArmoState.setMaster (s : ArmoState) (c : AlertCategory) (alertMaster : AlertCommEndpoint)
    (contractReqTimestamp : UInt16) : ArmoState :=
  { s.update c fun a => { a with alertMaster := alertMaster } with
    contractReqTimestamp := contractReqTimestamp }

theorem ArmoState.setMaster_self (s : ArmoState) (c : AlertCategory) :
    s.setMaster c (s.armo c).alertMaster s.contractReqTimestamp = s := by
  simp [setMaster, update]

theorem configureEndpoint_eq (tick : ArmoTick) (s : ArmoState) (c : AlertCategory) :
    ∃ m t, configureEndpoint tick c s = s.setMaster c m t := by
  unfold configureEndpoint
  split
  · cases tick.contract c with
    | none =>
      dsimp only
      split
      · exact ⟨_, _, rfl⟩
      · exact ⟨_, _, (s.setMaster_self c).symm⟩
    | some contractID =>
      dsimp only
      split
      · refine ⟨{ (s.armo c).alertMaster with
          contractID := contractID, contractStatus := .awaitContractEstablishment },
          tick.time.seconds.toUInt16, ?_⟩
        simp only [setMaster, update, Function.update_self, Function.update_idem]
      · exact ⟨_, s.contractReqTimestamp, rfl⟩
  · exact ⟨_, _, (s.setMaster_self c).symm⟩

theorem checkAlarmContract_eq (tick : ArmoTick) (s : ArmoState) (c : AlertCategory) :
    checkAlarmContract tick s c = s ∨
      ¬ s.active c ∧ ∃ m t, checkAlarmContract tick s c = s.setMaster c m t := by
  unfold checkAlarmContract
  cases hstatus : (s.armo c).alertMaster.contractStatus with
  | contractActive => exact Or.inl rfl
  | awaitContractEstablishment | waitingContractTermination =>
    right
    refine ⟨by simp [active, hstatus], ?_⟩
    dsimp only
    split
    · exact ⟨_, s.contractReqTimestamp, rfl⟩
    · exact ⟨_, _, (s.setMaster_self c).symm⟩
  | noContr =>
    right
    refine ⟨by simp [active, hstatus], ?_⟩
    exact configureEndpoint_eq tick s c

/-- `s'` is `s` with other alert masters for the categories that have no active contract. -/
structure SameButMasters (s s' : ArmoState) : Prop where
  queue : s'.queue = s.queue
  alarmTimeout : s'.alarmTimeout = s.alarmTimeout
  callbackSendAlertTR : s'.callbackSendAlertTR = s.callbackSendAlertTR
  armo : ∀ c, s'.armo c = { s.armo c with alertMaster := (s'.armo c).alertMaster }
  master : ∀ c, s.active c → (s'.armo c).alertMaster = (s.armo c).alertMaster

theorem SameButMasters.refl (s : ArmoState) : SameButMasters s s :=
  ⟨rfl, rfl, rfl, fun _ => rfl, fun _ _ => rfl⟩

theorem SameButMasters.active {s s' : ArmoState} (h : SameButMasters s s') {c : AlertCategory}
    (hactive : s.active c) : s'.active c := by
  rw [ArmoState.active, h.master c hactive]
  exact hactive

theorem SameButMasters.trans {s s' s'' : ArmoState} (h : SameButMasters s s')
    (h' : SameButMasters s' s'') : SameButMasters s s'' where
  queue := h'.queue.trans h.queue
  alarmTimeout := h'.alarmTimeout.trans h.alarmTimeout
  callbackSendAlertTR := h'.callbackSendAlertTR.trans h.callbackSendAlertTR
  armo c := by
    rw [h'.armo c, h.armo c]
  master c hactive := (h'.master c (h.active hactive)).trans (h.master c hactive)

theorem SameButMasters.setMaster {s : ArmoState} {c : AlertCategory} (hactive : ¬ s.active c)
    (m : AlertCommEndpoint) (t : UInt16) : SameButMasters s (s.setMaster c m t) where
  queue := rfl
  alarmTimeout := rfl
  callbackSendAlertTR := rfl
  armo d := by
    by_cases hd : d = c
    · subst hd
      simp [ArmoState.setMaster, ArmoState.update]
    · simp [ArmoState.setMaster, ArmoState.update, hd]
  master d hd := by
    have hne : d ≠ c := fun heq => hactive (heq ▸ hd)
    simp [ArmoState.setMaster, ArmoState.update, hne]

theorem checkAlarmContracts_same (tick : ArmoTick) (s : ArmoState) :
    SameButMasters s (checkAlarmContracts tick s) := by
  have hfold (cs : List AlertCategory) (s : ArmoState) :
      SameButMasters s (cs.foldl (checkAlarmContract tick) s) := by
    induction cs generalizing s with
    | nil => exact .refl s
    | cons c cs ih =>
      rcases checkAlarmContract_eq tick s c with heq | ⟨hactive, m, t, heq⟩
      · rw [foldl_cons, heq]
        exact ih s
      · rw [foldl_cons, heq]
        exact (SameButMasters.setMaster hactive m t).trans (ih _)
  exact hfold _ s

/-! ## The task -/

section Task

variable {s : ArmoState} {rs xs ys : List AlertRecord} {r : AlertRecord} {log : AlertLog}
  {c : AlertCategory} {tick : ArmoTick}

theorem Represents.contracts (h : Represents s rs log) (tick : ArmoTick) :
    Represents (checkAlarmContracts tick s) rs log :=
  have hsame := checkAlarmContracts_same tick s
  h.congr hsame.queue fun c => by rw [hsame.armo c]

theorem generateRecoveryEvent_represents (h : Represents s rs log) (tick : ArmoTick)
    (c : AlertCategory) (alertType : UInt8) : Represents (generateRecoveryEvent tick c alertType s).2.2 rs
      (log.replay (generateRecoveryEvent tick c alertType s).2.1) := by
  unfold generateRecoveryEvent
  by_cases hactive : s.active c
  · rw [if_neg (not_not.mpr hactive)]
    by_cases hdisabled : (s.armo c).recoveryDescr.alertReportDisabled = 0
    · rw [if_neg (not_not.mpr hdisabled)]
      cases haccept : tick.acceptsEvent with
      | true => exact h.count c
      | false => exact h.count c
    · rw [if_pos hdisabled]
      exact h
  · rw [if_pos hactive]
    exact h

def KeepsEntries (effects : List ArmoEffect) : Prop :=
  ∀ log : AlertLog, (log.replay effects).entries = log.entries

theorem generateRecoveryEvent_keeps (tick : ArmoTick) (c : AlertCategory) (alertType : UInt8)
    (s : ArmoState) : KeepsEntries (generateRecoveryEvent tick c alertType s).2.1 := by
  intro log
  unfold generateRecoveryEvent
  split
  · rfl
  split
  · rfl
  · cases tick.acceptsEvent with
    | true => rfl
    | false => rfl

theorem read_data (h : QueueHolds s.queue (xs ++ r :: ys)) :
    Buffer.read s.queue.mem ((alertFormat.pack xs).length + sizeofAlert) r.alert.size.toNat =
      some r.data := by
  have hmem := h.holds.mem_eq
  generalize s.queue.mem.drop s.queue.used = free at hmem
  have hcut : s.queue.mem = alertFormat.pack xs ++ r.alert.bytes ++ r.data ++
      (r.slack ++ (alertFormat.pack ys ++ free)) := by
    rw [hmem]
    simp [alertFormat_bytes]
  rw [hcut]
  apply Buffer.read_append
  · rw [length_append, r.alert.length_bytes]
  · exact r.length_data.symm

def ArmoState.recovered (s : ArmoState) (c : AlertCategory) (r : AlertRecord) (accepts : Bool) :
    List ArmoEffect × ArmoState :=
  if accepts then
    ([.recoveredAlarm (alertReport s c r.alert r.data (s.armo c).recoveryDescr.priority)],
      s.setLastID c r.alert.id)
  else ([], s)

theorem recoverNextAlarm_none (h : QueueHolds s.queue rs) (hfind : (rs.find? fun r => s.wanted c r.alert) = none) :
    recoverNextAlarm tick c s = some (false, [], s) := by
  have hnone : ∀ r ∈ rs, s.wanted c r.alert = false := fun r hr =>
    Bool.eq_false_of_not_eq_true (find?_eq_none.mp hfind r hr)
  have hwalk : Records.find alertLayout (s.wanted c) s.queue (s.queue.used + 1) 0 = some none :=
    Records.find_nothing h.holds hnone (Nat.lt_succ_self _)
  rw [recoverNextAlarm, hwalk]
  rfl

theorem recoverNextAlarm_some (tick : ArmoTick) (h : QueueHolds s.queue rs)
    (hfind : (rs.find? fun r => s.wanted c r.alert) = some r) :
    ∃ pos, recoverNextAlarm tick c s = some (true, s.recovered c r (tick.accepts pos)) := by
  obtain ⟨hr, xs, ys, rfl, hxs⟩ := find?_eq_some_iff_append.mp hfind
  have hxs' : ∀ x ∈ xs, s.wanted c x.alert = false := fun x hx => by simpa using hxs x hx
  have hwalk : Records.find alertLayout (s.wanted c) s.queue (s.queue.used + 1) 0 =
      some (some ((alertFormat.pack xs).length, r.alert)) :=
    Records.find_first h.holds hxs' hr (Nat.lt_succ_self _)
  refine ⟨(alertFormat.pack xs).length, ?_⟩
  rw [recoverNextAlarm, hwalk, Option.bind_some]
  dsimp only
  rw [read_data h, Option.map_some, recovered]
  cases tick.accepts (alertFormat.pack xs).length with
  | true => rfl
  | false => rfl

def ArmoState.afterEvent (s : ArmoState) (tick : ArmoTick) (c : AlertCategory) (alertType : UInt8)
    (next : RecoveryState) : List ArmoEffect × ArmoState :=
  let event := generateRecoveryEvent tick c alertType s
  (event.2.1, if event.1 then event.2.2.setRecovery c next else event.2.2)

/-- The turns of category `c` that `ARMO_checkRecoveryState` can take when the queue holds the records `rs`. -/
inductive TurnOutcome (tick : ArmoTick) (c : AlertCategory) (s : ArmoState) (rs : List AlertRecord) :
    List ArmoEffect × ArmoState → Prop
  | disabled (hstate : (s.armo c).recovery.state = .disabled) : TurnOutcome tick c s rs ([], s)
  | start (hstate : (s.armo c).recovery.state = .enabled) :
      TurnOutcome tick c s rs (s.afterEvent tick c alarmRecoveryStart .startSent)
  | alarm (hstate : (s.armo c).recovery.state = .startSent) {r : AlertRecord}
      (hfind : (rs.find? fun r => s.wanted c r.alert) = some r) (pos : Nat) :
      TurnOutcome tick c s rs (s.recovered c r (tick.accepts pos))
  | noMore (hstate : (s.armo c).recovery.state = .startSent)
      (hfind : (rs.find? fun r => s.wanted c r.alert) = none) :
      TurnOutcome tick c s rs ([], s.setRecovery c .done)
  | finish (hstate : (s.armo c).recovery.state = .done) :
      TurnOutcome tick c s rs (s.afterEvent tick c alarmRecoveryEnd .disabled)

theorem recoveryTurn_outcome (hqueue : QueueHolds s.queue rs) (tick : ArmoTick) (c : AlertCategory) :
    ∃ next, recoveryTurn tick c s = some next ∧ TurnOutcome tick c s rs next := by
  unfold recoveryTurn
  cases hstate : (s.armo c).recovery.state with
  | disabled => exact ⟨_, rfl, .disabled hstate⟩
  | enabled => exact ⟨_, rfl, .start hstate⟩
  | done => exact ⟨_, rfl, .finish hstate⟩
  | startSent =>
    cases hfind : rs.find? fun r => s.wanted c r.alert with
    | none =>
      rw [recoverNextAlarm_none hqueue hfind]
      exact ⟨_, rfl, .noMore hstate hfind⟩
    | some r =>
      obtain ⟨pos, hnext⟩ := recoverNextAlarm_some tick hqueue hfind
      rw [hnext]
      exact ⟨_, rfl, .alarm hstate hfind pos⟩

theorem Represents.setRecovery (h : Represents s rs log) (c : AlertCategory) (state : RecoveryState) :
    Represents (s.setRecovery c state) rs log :=
  h.update c fun _ => rfl

theorem Represents.setLastID (h : Represents s rs log) (c : AlertCategory) (id : UInt8) :
    Represents (s.setLastID c id) rs log :=
  h.update c fun _ => rfl

theorem afterEvent_represents (h : Represents s rs log) (tick : ArmoTick) (c : AlertCategory)
    (alertType : UInt8) (next : RecoveryState) : Represents (s.afterEvent tick c alertType next).2 rs
      (log.replay (s.afterEvent tick c alertType next).1) := by
  have hevent := generateRecoveryEvent_represents h tick c alertType
  unfold afterEvent
  dsimp only
  split
  · exact hevent.setRecovery c next
  · exact hevent

variable {next : List ArmoEffect × ArmoState}

theorem TurnOutcome.represents (h : Represents s rs log)
    (hnext : TurnOutcome tick c s rs next) : Represents next.2 rs (log.replay next.1) := by
  cases hnext with
  | disabled => exact h
  | start => exact afterEvent_represents h tick c alarmRecoveryStart .startSent
  | finish => exact afterEvent_represents h tick c alarmRecoveryEnd .disabled
  | noMore => exact h.setRecovery c .done
  | alarm _ _ pos =>
    cases tick.accepts pos with
    | true => exact h.setLastID c _
    | false => exact h

theorem TurnOutcome.keeps (hnext : TurnOutcome tick c s rs next) : KeepsEntries next.1 := by
  cases hnext with
  | disabled | noMore => exact fun _ => rfl
  | start => exact generateRecoveryEvent_keeps tick c alarmRecoveryStart s
  | finish => exact generateRecoveryEvent_keeps tick c alarmRecoveryEnd s
  | alarm _ _ pos =>
    cases tick.accepts pos with
    | true => exact fun _ => rfl
    | false => exact fun _ => rfl

def AlertRecord.resendAt (r : AlertRecord) (time : UInt32) : AlertRecord :=
  { r with alert := r.alert.resendAt time }

theorem Stores.resendAt {e : LogEntry} (h : Stores r e) (time : UInt32) : Stores (r.resendAt time) e where
  alert := h.alert
  data := h.data
  category := h.category

def OnlyReports (effects : List ArmoEffect) : Prop := ∀ effect ∈ effects, ∃ r, effect = .report r

theorem OnlyReports.replay {effects : List ArmoEffect} (h : OnlyReports effects) (log : AlertLog) :
    log.replay effects = log := by
  induction effects with
  | nil => rfl
  | cons effect effects ih =>
    obtain ⟨r, rfl⟩ := h effect mem_cons_self
    exact ih fun e he => h e (mem_cons_of_mem _ he)

theorem reportVisit_holds (tick : ArmoTick) (s : ArmoState) (shared : UInt8 × List ArmoEffect)
    (before : List UInt8) (r : AlertRecord) (after : List UInt8) (hshared : OnlyReports shared.2) :
    ∃ shared' r', reportVisit tick s shared before.length r.alert
        (before ++ alertFormat.bytes r ++ after) = some (shared', before ++ alertFormat.bytes r' ++ after) ∧
      OnlyReports shared'.2 ∧ (∃ time, r' = r.resendAt time) ∧
      alertFormat.length (alertFormat.header r') = alertFormat.length (alertFormat.header r) := by
  have hread : Buffer.read (before ++ alertFormat.bytes r ++ after) (before.length + sizeofAlert)
      r.alert.size.toNat = some r.data := by
    have hcut : before ++ alertFormat.bytes r ++ after =
        before ++ r.alert.bytes ++ r.data ++ (r.slack ++ after) := by
      simp [alertFormat_bytes]
    rw [hcut]
    exact Buffer.read_append _ (by rw [length_append, r.alert.length_bytes]) r.length_data.symm
  have hwrite (time : UInt32) : Buffer.write (before ++ alertFormat.bytes r ++ after) before.length
      (word32 time) = some (before ++ alertFormat.bytes (r.resendAt time) ++ after) := by
    have hcut (t : UInt32) : before ++ alertFormat.bytes (r.resendAt t) ++ after =
        before ++ word32 t ++ (r.alert.bytes.drop 4 ++ r.data ++ r.slack ++ after) := by
      simp [alertFormat_bytes, AlertRecord.resendAt, Alert.resendAt, Alert.bytes, word32]
    rw [hcut time]
    exact (congrArg (Buffer.write · _ _) (hcut r.alert.nextSendTAI)).trans (Buffer.write_append rfl rfl)
  have hkeep : ∃ time, r = r.resendAt time := ⟨r.alert.nextSendTAI, rfl⟩
  rw [reportVisit, r.category_eq, Option.bind_some]
  dsimp only
  split
  · rw [hread, Option.bind_some]
    split
    · rw [hwrite]
      refine ⟨_, r.resendAt _, rfl, ?_, ⟨_, rfl⟩, rfl⟩
      intro effect heffect
      rcases mem_append.mp heffect with hold | hnew
      · exact hshared effect hold
      · exact ⟨_, mem_singleton.mp hnew⟩
    · exact ⟨_, r, rfl, hshared, hkeep, rfl⟩
  · exact ⟨_, r, rfl, hshared, hkeep, rfl⟩

theorem forall₂_stores_of_resendAt {rs rs' : List AlertRecord} {entries : List LogEntry}
    (hR : Forall₂ (fun r r' => ∃ time, r' = r.resendAt time) rs rs')
    (h : Forall₂ Stores rs entries) : Forall₂ Stores rs' entries := by
  induction hR generalizing entries with
  | nil => exact h
  | cons htime _ ih =>
    obtain ⟨time, rfl⟩ := htime
    cases h with
    | cons hhead hrest => exact .cons (hhead.resendAt time) (ih hrest)

theorem armoTask_recovery (hsome : recoveringCategory (checkAlarmContracts tick s) = some c) : armoTask tick s =
      (recoveryTurn tick c (checkAlarmContracts tick s)).map fun (effects, s) =>
        (effects, s.startAckTimeout) := by
  unfold armoTask
  dsimp only
  rw [hsome]

theorem Represents.startAckTimeout (h : Represents s rs log) : Represents s.startAckTimeout rs log := by
  unfold ArmoState.startAckTimeout
  split
  · exact h.congr rfl fun _ => rfl
  · exact h

theorem armoTask_report (h : QueueHolds s.queue rs) (tick : ArmoTick)
    (hnone : recoveringCategory (checkAlarmContracts tick s) = none) :
    ∃ effects s' rs', armoTask tick s = some (effects, s') ∧ OnlyReports effects ∧
      s'.armo = (checkAlarmContracts tick s).armo ∧ QueueHolds s'.queue rs' ∧
      Forall₂ (fun r r' => ∃ time, r' = r.resendAt time) rs rs' := by
  have hqueue : QueueHolds (checkAlarmContracts tick s).queue rs := by
    rw [(checkAlarmContracts_same tick s).queue]
    exact h
  unfold armoTask
  dsimp only
  rw [hnone]
  generalize checkAlarmContracts tick s = s at hqueue ⊢
  have hstart : OnlyReports (s.alarmTimeout, ([] : List ArmoEffect)).2 := fun _ he => nomatch he
  obtain ⟨shared, queue, rs', hwalk, honly, hholds, hresent, hsize⟩ :=
    Records.walk_all (reportVisit_holds tick s) hstart hqueue.holds (Nat.lt_succ_self _)
  have hwalk' : Records.walk alertLayout (reportVisit tick s) (s.queue.used + 1) 0
      (s.alarmTimeout, []) s.queue = some (shared, queue) := hwalk
  rw [hwalk']
  exact ⟨_, _, rs', rfl, honly, rfl, ⟨hholds, hsize.trans hqueue.size⟩, hresent⟩

theorem Represents.report (h : Represents s rs log) {tick : ArmoTick} {s' : ArmoState}
    {rs' : List AlertRecord} (harmo : s'.armo = (checkAlarmContracts tick s).armo) (hqueue : QueueHolds s'.queue rs')
    (hresent : Forall₂ (fun r r' => ∃ time, r' = r.resendAt time) rs rs') : Represents s' rs' log where
  queue := hqueue
  stored := forall₂_stores_of_resendAt hresent h.stored
  counted c := by
    rw [harmo]
    exact (h.contracts tick).counted c
  ids := h.ids

theorem armoTask_represents (h : Represents s rs log) (tick : ArmoTick) :
    ∃ effects s' rs', armoTask tick s = some (effects, s') ∧
      Represents s' rs' (log.replay effects) ∧ KeepsEntries effects := by
  cases hcategory : recoveringCategory (checkAlarmContracts tick s) with
  | some c =>
    have hcontracts := h.contracts tick
    obtain ⟨⟨effects, s'⟩, hturn, hnext⟩ := recoveryTurn_outcome hcontracts.queue tick c
    refine ⟨effects, s'.startAckTimeout, rs, ?_, (hnext.represents hcontracts).startAckTimeout, hnext.keeps⟩
    rw [armoTask_recovery hcategory, hturn]
    rfl
  | none =>
    obtain ⟨effects, s', rs', htask, honly, harmo, hqueue, hresent⟩ := armoTask_report h.queue tick hcategory
    refine ⟨effects, s', rs', htask, ?_, fun log => congrArg AlertLog.entries (honly.replay log)⟩
    rw [honly.replay]
    exact h.report harmo hqueue hresent

end Task

/-! ## Steps and runs -/

/-- An alert reaches the part of `ARMO_AddAlertToQueue` that stores it, for category `c`. -/
structure ArmoState.Admits (s : ArmoState) (req : AlertRequest) (c : AlertCategory) : Prop where
  callback : s.callbackSendAlertTR = false
  category : armoIndex req.alert.category = some c
  enabled : (s.armo c).alertsDisable = 0
  length : (alertLength req.alert.size).toNat < armoQueueSize

/-- The calls of `ARMO_AddAlertToQueue` that stay inside the arrays: the gateway takes the alert itself, or the alert is found too big, or it names a category and, where alerts of the category are enabled, its length does not wrap. -/
def ArmoState.Accommodates (s : ArmoState) (req : AlertRequest) : Prop :=
  s.callbackSendAlertTR = true ∨
    (req.alert.size.toNat ≤ maxUnwrappedSize ∧ armoQueueSize < sizeofAlert + req.alert.size.toNat) ∨
    ∃ c, armoIndex req.alert.category = some c ∧
      ((s.armo c).alertsDisable = 0 → req.alert.size.toNat ≤ maxUnwrappedSize)

def ArmoEvent.Fits (s : ArmoState) : ArmoEvent → Prop
  | .addAlertToQueue req _ => s.Accommodates req
  | _ => True

section Steps

variable {s : ArmoState} {rs : List AlertRecord} {log : AlertLog} (req : AlertRequest)
  (time : CrtTaiTime) {c : AlertCategory}

theorem addAlertToQueue_forwarded (h : Represents s rs log) (hcallback : s.callbackSendAlertTR = true) :
    ∃ s', addAlertToQueue req time s =
        some (sfcSuccess, .forwarded req.alert req.buf :: ackEffects req.alert.id, s') ∧
      Represents s' (rs.eraseP fun r => r.alert.id == req.alert.id)
        (log.replay (ackEffects req.alert.id)) := by
  obtain ⟨s', hack, hs'⟩ := processAlertAck_represents h req.alert.id
  refine ⟨s', ?_, hs'⟩
  rw [addAlertToQueue, if_pos hcallback, hack]
  rfl

theorem addAlertToQueue_tooBig (hcallback : s.callbackSendAlertTR = false)
    (hlen : armoQueueSize < (alertLength req.alert.size).toNat) :
    addAlertToQueue req time s = some (sfcInvalidSize, [], s) := by
  rw [addAlertToQueue, if_neg (by simp [hcallback]), if_pos hlen]

theorem addAlertToQueue_store (hadmits : s.Admits req c) : addAlertToQueue req time s =
      (storeAlert c req time s).map fun (effects, s) => (sfcSuccess, effects, s) := by
  rw [addAlertToQueue, if_neg (by simp [hadmits.callback]), if_neg (Nat.not_lt.mpr hadmits.length.le),
    hadmits.category, Option.bind_some, if_pos ⟨hadmits.enabled, hadmits.length⟩]

theorem addAlertToQueue_stored (h : Represents s rs log) (hadmits : s.Admits req c)
    (hsize : req.alert.size.toNat ≤ maxUnwrappedSize) :
    ∃ queue r, addAlertToQueue req time s = some (sfcSuccess,
          replicate (roomFor req rs) .evicted ++ [.queued (s.storedAlert c req time) req.buf],
          { s.countAlert c with queue := queue }) ∧
      Represents { s.countAlert c with queue := queue } (rs.drop (roomFor req rs) ++ [r])
        (AlertLog.push { log with entries := log.entries.drop (roomFor req rs) } c
          (s.storedAlert c req time) req.buf) := by
  obtain ⟨queue, r, hstore, hs'⟩ :=
    storeAlert_represents req time h hadmits.category hsize hadmits.length.le
  refine ⟨queue, r, ?_, hs'⟩
  rw [addAlertToQueue_store req time hadmits, hstore]
  rfl

theorem addAlertToQueue_refused (hcallback : s.callbackSendAlertTR = false)
    (hlen : ¬ armoQueueSize < (alertLength req.alert.size).toNat) (hcat : armoIndex req.alert.category = some c)
    (hnot : ¬ ((s.armo c).alertsDisable = 0 ∧ (alertLength req.alert.size).toNat < armoQueueSize)) :
    addAlertToQueue req time s = some (sfcObjectStateConflict, [], s) := by
  rw [addAlertToQueue, if_neg (by simp [hcallback]), if_neg hlen, hcat, Option.bind_some, if_neg hnot]

section

variable (h : Represents s rs log)
include h

theorem addAlertToQueue_represents (hfits : s.Accommodates req) :
    ∃ sfc effects s' rs', addAlertToQueue req time s = some (sfc, effects, s') ∧
      Represents s' rs' (log.replay effects) := by
  by_cases hcallback : s.callbackSendAlertTR = true
  · obtain ⟨s', hadd, hs'⟩ := addAlertToQueue_forwarded req time h hcallback
    exact ⟨_, _, s', _, hadd, hs'⟩
  have hoff : s.callbackSendAlertTR = false := Bool.eq_false_of_not_eq_true hcallback
  by_cases hbig : armoQueueSize < (alertLength req.alert.size).toNat
  · exact ⟨_, _, s, rs, addAlertToQueue_tooBig req time hoff hbig, h⟩
  rcases hfits with hon | ⟨hsize, hbig'⟩ | ⟨c, hcat, hfits⟩
  · exact absurd hon hcallback
  · rw [toNat_alertLength_of_le hsize] at hbig
    omega
  by_cases hvalid : (s.armo c).alertsDisable = 0 ∧ (alertLength req.alert.size).toNat < armoQueueSize
  · have hadmits : s.Admits req c := ⟨hoff, hcat, hvalid.1, hvalid.2⟩
    obtain ⟨queue, r, hadd, hs'⟩ := addAlertToQueue_stored req time h hadmits (hfits hvalid.1)
    refine ⟨sfcSuccess, _, _, rs.drop (roomFor req rs) ++ [r], hadd, ?_⟩
    have hcat' : armoIndex (s.storedAlert c req time).category = some c := hcat
    rwa [log.replay_stored _ _ hcat']
  · exact ⟨_, _, s, rs, addAlertToQueue_refused req time hoff hbig hcat hvalid, h⟩

theorem addAlertToQueue_none (hnot : ¬ s.Accommodates req) : addAlertToQueue req time s = none := by
  unfold Accommodates at hnot
  push Not at hnot
  obtain ⟨hcallback, hbig, hcats⟩ := hnot
  have hoff : s.callbackSendAlertTR = false := Bool.eq_false_of_not_eq_true hcallback
  have hsmall : ¬ armoQueueSize < (alertLength req.alert.size).toNat := by
    by_cases hsize : req.alert.size.toNat ≤ maxUnwrappedSize
    · have := hbig hsize
      rw [toNat_alertLength_of_le hsize]
      simp only [armoQueueSize] at this ⊢
      omega
    · have := toNat_alertLength_of_lt (Nat.lt_of_not_le hsize)
      simp only [armoQueueSize, sizeofAlert] at this ⊢
      omega
  cases hcat : armoIndex req.alert.category with
  | none =>
    rw [addAlertToQueue, if_neg hcallback, if_neg hsmall, hcat]
    rfl
  | some c =>
    obtain ⟨henabled, hwrapped⟩ := hcats c hcat
    have hlen : (alertLength req.alert.size).toNat < armoQueueSize :=
      (toNat_alertLength_of_lt hwrapped).trans_lt (by decide)
    rw [addAlertToQueue_store req time ⟨hoff, hcat, henabled, hlen⟩, storeAlert_wrapped req time h.queue hwrapped]
    rfl

theorem armoExecute_represents (methID : UInt8) (reqBuf : Payload) :
    Represents (armoExecute methID reqBuf s).2 rs log := by
  unfold armoExecute
  split
  · exact h
  split
  · split
    · exact h
    · split
      · exact h
      · exact h.setRecovery _ _
  · exact h

theorem armoStep_represents {e : ArmoEvent} (hfits : e.Fits s) :
    ∃ effects s' rs', armoStep s e = some (effects, s') ∧ Represents s' rs' (log.replay effects) := by
  cases e with
  | addAlertToQueue req time =>
    obtain ⟨sfc, effects, s', rs', hadd, hs'⟩ := addAlertToQueue_represents req time h hfits
    exact ⟨effects, s', rs', congrArg (Option.map _) hadd, hs'⟩
  | processAlertAck id =>
    obtain ⟨s', hack, hs'⟩ := processAlertAck_represents h id
    exact ⟨_, s', _, hack, hs'⟩
  | task tick =>
    obtain ⟨effects, s', rs', htask, hs', -⟩ := armoTask_represents h tick
    exact ⟨effects, s', rs', htask, hs'⟩
  | execute methID reqBuf => exact ⟨_, _, rs, rfl, armoExecute_represents h methID reqBuf⟩
  | configure c alertMaster confTimeout alertsDisable recoveryDescr =>
    exact ⟨_, _, rs, rfl, h.update c fun _ => rfl⟩
  | setCallback callbackSendAlertTR => exact ⟨_, _, rs, rfl, h.congr rfl fun _ => rfl⟩

theorem armoStep_none {e : ArmoEvent} (hnot : ¬ e.Fits s) : armoStep s e = none := by
  cases e with
  | addAlertToQueue req time => exact congrArg (Option.map _) (addAlertToQueue_none req time h hnot)
  | processAlertAck | task | execute | configure | setCallback => exact absurd trivial hnot

end

end Steps

def RunFits : ArmoState → List ArmoEvent → Prop
  | _, [] => True
  | s, e :: es => e.Fits s ∧ ∀ effects s', armoStep s e = some (effects, s') → RunFits s' es

section Runs

variable {s s' : ArmoState} {rs : List AlertRecord} {log : AlertLog} {es : List ArmoEvent}
  {effects : List ArmoEffect}

theorem armoRun_cons {e : ArmoEvent} (hstep : armoStep s e = some (effects, s')) :
    armoRun s (e :: es) = (armoRun s' es).map fun (more, s) => (effects ++ more, s) := by
  rw [armoRun, hstep]
  rfl

theorem armoRun_represents (h : Represents s rs log) (hfits : RunFits s es) :
    ∃ effects s' rs', armoRun s es = some (effects, s') ∧ Represents s' rs' (log.replay effects) := by
  induction es generalizing s rs log with
  | nil => exact ⟨[], s, rs, rfl, h⟩
  | cons e es ih =>
    obtain ⟨effects, s', rs', hstep, hs'⟩ := armoStep_represents h hfits.1
    obtain ⟨more, s'', rs'', hrun, hs''⟩ := ih hs' (hfits.2 effects s' hstep)
    refine ⟨effects ++ more, s'', rs'', ?_, ?_⟩
    · rw [armoRun_cons hstep, hrun]
      rfl
    · rwa [AlertLog.replay_append]

theorem RunFits.of_armoRun (h : Represents s rs log) (hrun : armoRun s es = some (effects, s')) : RunFits s es := by
  induction es generalizing s rs log effects with
  | nil => trivial
  | cons e es ih =>
    by_cases hfits : e.Fits s
    · refine ⟨hfits, ?_⟩
      intro first s₁ hstep
      obtain ⟨first', s₁', rs₁, hstep', hs₁⟩ := armoStep_represents h hfits
      cases hstep'.symm.trans hstep
      rw [armoRun_cons hstep] at hrun
      obtain ⟨⟨more, s₂⟩, hrest, hend⟩ := Option.map_eq_some_iff.mp hrun
      cases hend
      exact ih hs₁ hrest
    · rw [armoRun, armoStep_none h hfits] at hrun
      exact nomatch hrun

end Runs

def AlertRecord.content (r : AlertRecord) : Alert × Payload := (r.alert.resendAt 0, r.data)

/-- The records `rs` tile the used part of the queue, which lies inside the buffer: each record is its header and its data, rounded up to whole words, and begins where the one before it ends. -/
structure TiledBy (queue : Records.Block UInt8) (rs : List AlertRecord) : Prop where
  tiled : queue.mem.take queue.used = rs.flatMap alertFormat.bytes
  used_le : queue.used ≤ queue.mem.length
  size : queue.mem.length = armoQueueSize
  record : ∀ r ∈ rs, sizeofAlert + r.data.length ≤ (alertFormat.bytes r).length ∧
    (alertFormat.bytes r).length < sizeofAlert + r.data.length + 4

/-- The queue is tiled by alerts that the run has accepted, in the order of their acceptance. -/
def QueueInOrder (effects : List ArmoEffect) (s : ArmoState) : Prop :=
  ∃ rs, TiledBy s.queue rs ∧ (rs.map AlertRecord.content).Sublist (accepted effects)

theorem Represents.inOrder {s : ArmoState} {rs : List AlertRecord} {effects : List ArmoEffect}
    (h : Represents s rs (AlertLog.start.replay effects)) : QueueInOrder effects s := by
  refine ⟨rs, ⟨h.queue.holds.tiled, h.queue.holds.used_le, h.queue.size, fun r _ => r.length_lt⟩, ?_⟩
  have hcontents : rs.map AlertRecord.content = (AlertLog.start.replay effects).entries.map LogEntry.content :=
    map_eq_map_of_forall₂ (fun r e hre => Prod.ext hre.alert hre.data) h.stored
  rw [hcontents]
  exact AlertLog.start.replay_sublist effects

/-- A run goes through, and leaves a tiled queue in order of arrival, exactly when every queued alert has a length that does not wrap. -/
theorem alertQueue_inOrder_iff (es : List ArmoEvent) :
    (∃ effects s, armoRun start es = some (effects, s) ∧ QueueInOrder effects s) ↔
      RunFits start es := by
  constructor
  · rintro ⟨effects, s, hrun, -⟩
    exact RunFits.of_armoRun represents_start hrun
  · intro hfits
    obtain ⟨effects, s, rs, hrun, hs⟩ := armoRun_represents represents_start hfits
    exact ⟨effects, s, hrun, hs.inOrder⟩

def wrappedRequest : AlertRequest where
  alert := ⟨0, 0xF0B0, 2, 0, 0, 0, 0, 0, 0, 0, 0, 65512⟩
  buf := replicate 65512 0
  length_buf := length_replicate

/-- The sum of the sizes wraps in sixteen bits, so that the check for room lets the alert through. -/
theorem wrappedRequest_overruns :
    ¬ ∃ effects s, armoRun start [.addAlertToQueue wrappedRequest ⟨0, 0⟩] = some (effects, s) ∧
      QueueInOrder effects s := by
  rintro ⟨effects, s, hrun, -⟩
  have hfits := (RunFits.of_armoRun represents_start hrun).1
  rcases hfits with hon | ⟨hsize, -⟩ | ⟨c, hcat, hsize⟩
  · exact nomatch hon
  · exact absurd hsize (by decide)
  · exact absurd (hsize rfl) (by decide)

end Isa100Gateway
