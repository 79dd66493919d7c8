import Isa100Gateway.Armo.AlertLog
import Isa100Gateway.Lib.Resume

/-!
# Alarm recovery

A recovery command makes the task send a start event, then the waiting alarms of the category, one in each run, and then an end event. Where it is among the alarms the ARMO knows only by the id of the last one it sent. `RecoveryView.turn` says what a run of the task does for one category, in terms of its list of waiting alarms; `recoveryTurn_own` and `recoveryTurn_other` connect it to the code, and `Remaining` counts what is left to do.
-/

namespace Isa100Gateway

open ArmoState

open Resume (Visits findNext)

inductive RecoveryItem where
  | started
  | alarm (alert : Alert) (data : Payload)
  | ended

def RecoveryItem.ofAlarm (x : Alert × Payload) : RecoveryItem := .alarm x.1 x.2

def recoveryItem (c : AlertCategory) : ArmoEffect → Option RecoveryItem
  | .recoveryEvent r =>
    if r.obj.alertInfo.category = UInt8.ofNat c.val then
      some (if r.obj.alertInfo.type = alarmRecoveryStart then .started else .ended)
    else none
  | .recoveredAlarm r =>
    if r.obj.alertInfo.category = UInt8.ofNat c.val then
      some (.alarm r.obj.alertInfo r.obj.alertValue)
    else none
  | _ => none

def recoveryTrace (c : AlertCategory) (effects : List ArmoEffect) : List RecoveryItem :=
  effects.filterMap (recoveryItem c)

theorem recoveryTrace_append (c : AlertCategory) (xs ys : List ArmoEffect) :
    recoveryTrace c (xs ++ ys) = recoveryTrace c xs ++ recoveryTrace c ys :=
  List.filterMap_append

def waitingAlarms (c : AlertCategory) (rs : List AlertRecord) : List (Alert × Payload) :=
  (rs.filter fun r => r.alert.category == UInt8.ofNat c.val).map fun r => (r.alert, r.data)

def recoveryPlan (c : AlertCategory) (rs : List AlertRecord) : List RecoveryItem :=
  .started :: ((waitingAlarms c rs).map .ofAlarm ++ [.ended])

def alarmId (x : Alert × Payload) : UInt8 := x.1.id

theorem categoryByte_inj {c d : AlertCategory} (h : UInt8.ofNat c.val = UInt8.ofNat d.val) : c = d := by
  have hc : c.val < 4 := c.isLt
  have hd : d.val < 4 := d.isLt
  have hval := congrArg UInt8.toNat h
  rw [UInt8.toNat_ofNat', UInt8.toNat_ofNat'] at hval
  apply Fin.ext
  omega

theorem followsId_irrefl (id : UInt8) : followsId id id = false := by
  have hlow : ¬ (61 < id &&& 0x3F ∧ id &&& 0x3F < 3) := by
    rw [UInt8.lt_iff_toNat_lt, UInt8.lt_iff_toNat_lt]
    simp only [UInt8.reduceToNat]
    omega
  have hlt : ¬ id < id := by
    rw [UInt8.lt_iff_toNat_lt]
    exact Nat.lt_irrefl _
  simp only [followsId, hlt, decide_false, Bool.false_or, ← Bool.decide_and]
  exact decide_eq_false hlow

structure RecoveryView where
  active : Bool
  reports : Bool
  recovery : AlertRecovery

def ArmoStruct.recoveryView (a : ArmoStruct) : RecoveryView where
  active := decide (a.alertMaster.contractStatus = .contractActive)
  reports := decide (a.recoveryDescr.alertReportDisabled = 0)
  recovery := a.recovery

namespace RecoveryView

def moveTo (v : RecoveryView) (state : RecoveryState) : RecoveryView :=
  { v with recovery := { v.recovery with state := state } }

def resumeAfter (v : RecoveryView) (id : UInt8) : RecoveryView :=
  { v with recovery := { v.recovery with lastID := id } }

def event (v : RecoveryView) (item : RecoveryItem) : List RecoveryItem :=
  if v.reports then [item] else []

def tell (v : RecoveryView) (item : RecoveryItem) (next : RecoveryState) (accepted : Bool) :
    List RecoveryItem × RecoveryView :=
  if v.active && (!v.reports || accepted) then (v.event item, v.moveTo next) else ([], v)

def nextAlarm (v : RecoveryView) (alarms : List (Alert × Payload)) : Option (Alert × Payload) :=
  if v.active then findNext followsId alarmId alarms v.recovery.lastID else none

/-- One turn of a recovery: what the alert master learns, and what is next. `accepted` tells whether the ASL takes a report. -/
def turn (alarms : List (Alert × Payload)) (v : RecoveryView) (accepted : Bool) : List RecoveryItem × RecoveryView :=
  match v.recovery.state with
  | .disabled => ([], v)
  | .enabled => v.tell .started .startSent accepted
  | .startSent =>
    match v.nextAlarm alarms with
    | none => ([], v.moveTo .done)
    | some x =>
      if accepted then ([.ofAlarm x], v.resumeAfter (alarmId x)) else ([], v)
  | .done => v.tell .ended .disabled accepted

theorem tell_cases {v : RecoveryView} (hactive : v.active = true) (item : RecoveryItem)
    (next : RecoveryState) (accepted : Bool) : v.tell item next accepted = (v.event item, v.moveTo next) ∨
      accepted = false ∧ v.tell item next accepted = ([], v) := by
  cases accepted with
  | true => exact Or.inl (by simp [tell, hactive])
  | false =>
    cases hreports : v.reports with
    | false => exact Or.inl (by simp [tell, hactive, hreports])
    | true => exact Or.inr ⟨rfl, by simp [tell, hactive, hreports]⟩

theorem tell_inactive {v : RecoveryView} (hactive : v.active = false) (item : RecoveryItem)
    (next : RecoveryState) (accepted : Bool) : v.tell item next accepted = ([], v) := by
  simp [tell, hactive]

section Turn

variable {alarms : List (Alert × Payload)} {v : RecoveryView} {accepted : Bool}

theorem turn_disabled (hstate : v.recovery.state = .disabled) : v.turn alarms accepted = ([], v) := by
  simp only [turn, hstate]

theorem turn_enabled (hstate : v.recovery.state = .enabled) :
    v.turn alarms accepted = v.tell .started .startSent accepted := by
  simp only [turn, hstate]

theorem turn_done (hstate : v.recovery.state = .done) :
    v.turn alarms accepted = v.tell .ended .disabled accepted := by
  simp only [turn, hstate]

theorem turn_noMore (hstate : v.recovery.state = .startSent) (hnext : v.nextAlarm alarms = none) :
    v.turn alarms accepted = ([], v.moveTo .done) := by
  simp only [turn, hstate, hnext]

theorem turn_alarm (hstate : v.recovery.state = .startSent) {x : Alert × Payload}
    (hnext : v.nextAlarm alarms = some x) (accepted : Bool) :
    v.turn alarms accepted =
      if accepted then ([.ofAlarm x], v.resumeAfter (alarmId x)) else ([], v) := by
  simp only [turn, hstate, hnext]

theorem nextAlarm_active (hactive : v.active = true) :
    v.nextAlarm alarms = findNext followsId alarmId alarms v.recovery.lastID :=
  if_pos hactive

end Turn

end RecoveryView

/-- The alert master has `todo` still to learn, and it takes `n` turns in which the ASL accepts what it is given. -/
inductive Remaining (alarms : List (Alert × Payload)) (v : RecoveryView) :
    List RecoveryItem → Nat → Prop
  | disabled (hstate : v.recovery.state = .disabled) : Remaining alarms v [] 0
  | enabled (hactive : v.active = true) (hstate : v.recovery.state = .enabled)
      {as : List (Alert × Payload)}
      (hvisits : Visits (findNext followsId alarmId alarms) alarmId v.recovery.lastID as) :
      Remaining alarms v (v.event .started ++ (as.map .ofAlarm ++ v.event .ended)) (as.length + 3)
  | startSent (hactive : v.active = true) (hstate : v.recovery.state = .startSent)
      {as : List (Alert × Payload)}
      (hvisits : Visits (findNext followsId alarmId alarms) alarmId v.recovery.lastID as) :
      Remaining alarms v (as.map .ofAlarm ++ v.event .ended) (as.length + 2)
  | done (hactive : v.active = true) (hstate : v.recovery.state = .done) :
      Remaining alarms v (v.event .ended) 1

section Remaining

variable {alarms : List (Alert × Payload)} {v : RecoveryView} {todo : List RecoveryItem} {n : Nat}

theorem Remaining.active (h : Remaining alarms v todo n) (hstate : v.recovery.state ≠ .disabled) :
    v.active = true := by
  cases h with
  | disabled hdisabled => exact absurd hdisabled hstate
  | enabled hactive | startSent hactive | done hactive => exact hactive

theorem Remaining.nothing (h : Remaining alarms v todo n) (hstate : v.recovery.state = .disabled) : todo = [] := by
  cases h with
  | disabled => rfl
  | enabled _ hother | startSent _ hother | done _ hother => exact nomatch hstate.symm.trans hother

theorem Remaining.pos (h : Remaining alarms v todo n) (hstate : v.recovery.state ≠ .disabled) : 0 < n := by
  cases h with
  | disabled hdisabled => exact absurd hdisabled hstate
  | enabled | startSent | done => exact Nat.succ_pos _

theorem Remaining.turn (h : Remaining alarms v todo n) (accepted : Bool) :
    ∃ todo' n', todo = (v.turn alarms accepted).1 ++ todo' ∧
      Remaining alarms (v.turn alarms accepted).2 todo' n' ∧ n' ≤ n ∧
      (accepted = true → v.recovery.state ≠ .disabled → n' < n) := by
  have hstay : v.turn alarms false = ([], v) → ∃ todo' n', todo = (v.turn alarms false).1 ++ todo' ∧
      Remaining alarms (v.turn alarms false).2 todo' n' ∧ n' ≤ n ∧
      (false = true → v.recovery.state ≠ .disabled → n' < n) := by
    intro hturn
    rw [hturn]
    exact ⟨todo, n, rfl, h, le_rfl, fun hfalse => nomatch hfalse⟩
  cases h with
  | disabled hstate =>
    rw [v.turn_disabled hstate]
    exact ⟨[], 0, rfl, .disabled hstate, le_rfl, fun _ hne => absurd hstate hne⟩
  | enabled hactive hstate hvisits =>
    rename_i as
    obtain htell | ⟨rfl, htell⟩ := v.tell_cases hactive .started .startSent accepted
    · have hleft : Remaining alarms (v.moveTo .startSent) (as.map .ofAlarm ++ v.event .ended)
          (as.length + 2) := .startSent (v := v.moveTo .startSent) hactive rfl hvisits
      rw [v.turn_enabled hstate, htell]
      exact ⟨_, _, rfl, hleft, by omega, fun _ _ => by omega⟩
    · exact hstay ((v.turn_enabled hstate).trans htell)
  | done hactive hstate =>
    obtain htell | ⟨rfl, htell⟩ := v.tell_cases hactive .ended .disabled accepted
    · have hleft : Remaining alarms (v.moveTo .disabled) [] 0 := .disabled rfl
      rw [v.turn_done hstate, htell]
      exact ⟨[], 0, (List.append_nil _).symm, hleft, by omega, fun _ _ => by omega⟩
    · exact hstay ((v.turn_done hstate).trans htell)
  | startSent hactive hstate hvisits =>
    cases hvisits with
    | stop hnone =>
      have hleft : Remaining alarms (v.moveTo .done) (v.event .ended) 1 := .done hactive rfl
      rw [v.turn_noMore hstate ((v.nextAlarm_active hactive).trans hnone)]
      exact ⟨_, 1, rfl, hleft, by omega, fun _ _ => by omega⟩
    | step hsome hrest =>
      rename_i x as
      have hturn := v.turn_alarm hstate ((v.nextAlarm_active hactive).trans hsome)
      cases accepted with
      | true =>
        have hleft : Remaining alarms (v.resumeAfter (alarmId x)) (as.map .ofAlarm ++ v.event .ended)
            (as.length + 2) := .startSent (v := v.resumeAfter (alarmId x)) hactive hstate hrest
        rw [hturn true, if_pos rfl]
        have hlen : (x :: as).length = as.length + 1 := List.length_cons
        exact ⟨_, _, rfl, hleft, by omega, fun _ _ => by omega⟩
      | false => exact hstay (hturn false)

theorem Remaining.tell_eq {item : RecoveryItem} {next : RecoveryState}
    (h : Remaining alarms (v.tell item next true).2 todo n) (hstate : v.recovery.state ≠ .disabled) :
    v.active = true ∧ v.tell item next true = (v.event item, v.moveTo next) := by
  cases hactive : v.active with
  | false =>
    rw [v.tell_inactive hactive] at h
    exact absurd (h.active hstate) (by simp [hactive])
  | true =>
    obtain htell | ⟨hfalse, -⟩ := v.tell_cases hactive item next true
    · exact ⟨rfl, htell⟩
    · exact nomatch hfalse

theorem Remaining.of_turn (h : Remaining alarms (v.turn alarms true).2 todo n) :
    ∃ n', Remaining alarms v ((v.turn alarms true).1 ++ todo) n' := by
  cases hstate : v.recovery.state with
  | disabled =>
    rw [v.turn_disabled hstate] at h ⊢
    exact ⟨n, h⟩
  | enabled =>
    rw [v.turn_enabled hstate] at h ⊢
    obtain ⟨hactive, htell⟩ := h.tell_eq (by simp [hstate])
    rw [htell] at h ⊢
    cases h with
    | startSent _ _ hvisits => exact ⟨_, .enabled hactive hstate hvisits⟩
    | disabled hother | enabled _ hother | done _ hother => exact nomatch hother
  | done =>
    rw [v.turn_done hstate] at h ⊢
    obtain ⟨hactive, htell⟩ := h.tell_eq (by simp [hstate])
    rw [htell] at h ⊢
    cases h with
    | disabled =>
      rw [List.append_nil]
      exact ⟨_, .done hactive hstate⟩
    | startSent _ hother | enabled _ hother | done _ hother => exact nomatch hother
  | startSent =>
    cases hnext : v.nextAlarm alarms with
    | none =>
      rw [v.turn_noMore hstate hnext] at h ⊢
      cases h with
      | done hactive =>
        exact ⟨_, .startSent (v := v) hactive hstate (.stop ((v.nextAlarm_active hactive).symm.trans hnext))⟩
      | disabled hother | startSent _ hother | enabled _ hother => exact nomatch hother
    | some x =>
      rw [v.turn_alarm hstate hnext, if_pos rfl] at h ⊢
      have hstate' : (v.resumeAfter (alarmId x)).recovery.state = .startSent := hstate
      cases h with
      | startSent hactive _ hvisits =>
        exact ⟨_, .startSent (v := v) hactive hstate
          (.step ((v.nextAlarm_active hactive).symm.trans hnext) hvisits)⟩
      | disabled hother | enabled _ hother | done _ hother =>
        exact absurd (hstate'.symm.trans hother) (by simp)

end Remaining

/-! ## The turns of the task -/

structure ArmoTick.Accepts (tick : ArmoTick) : Prop where
  event : tick.acceptsEvent = true
  alarm : ∀ pos, tick.accepts pos = true

section Turns

variable {s s' : ArmoState} {rs : List AlertRecord} {c d : AlertCategory} {tick : ArmoTick}
  {effects : List ArmoEffect}

theorem setRecovery_view (s : ArmoState) (c : AlertCategory) (state : RecoveryState) :
    ((s.setRecovery c state).armo c).recoveryView = (s.armo c).recoveryView.moveTo state := by
  rw [setRecovery, update_self]
  rfl

theorem setRecovery_of_ne (s : ArmoState) (state : RecoveryState) (h : c ≠ d) :
    (s.setRecovery d state).armo c = s.armo c :=
  s.update_of_ne _ h

theorem setLastID_of_ne (s : ArmoState) (id : UInt8) (h : c ≠ d) : (s.setLastID d id).armo c = s.armo c :=
  s.update_of_ne _ h

theorem countAlert_of_ne (s : ArmoState) (h : c ≠ d) : (s.countAlert d).armo c = s.armo c :=
  s.update_of_ne _ h

theorem countAlert_view (s : ArmoState) (c : AlertCategory) :
    ((s.countAlert c).armo c).recoveryView = (s.armo c).recoveryView := by
  rw [countAlert, update_self]
  rfl

def eventItem (alertType : UInt8) : RecoveryItem :=
  if alertType = alarmRecoveryStart then .started else .ended

theorem recoveryItem_event (s : ArmoState) (c d : AlertCategory) (alertType id priority : UInt8) (time : CrtTaiTime) :
    recoveryItem c (.recoveryEvent (alertReport s d (recoveryEventAlert d alertType id priority time) []
      priority)) = if d = c then some (eventItem alertType) else none := by
  by_cases hd : d = c
  · rw [if_pos hd, hd]
    exact if_pos rfl
  · rw [if_neg hd]
    exact if_neg fun hcat => hd (categoryByte_inj hcat)

theorem recoveryItem_alarm (s : ArmoState) (c d : AlertCategory) {r : AlertRecord}
    (hcat : r.alert.category = UInt8.ofNat d.val) (priority : UInt8) :
    recoveryItem c (.recoveredAlarm (alertReport s d r.alert r.data priority)) =
      if d = c then some (.ofAlarm (r.alert, r.data)) else none := by
  by_cases hd : d = c
  · rw [if_pos hd]
    exact if_pos (hd ▸ hcat)
  · rw [if_neg hd]
    exact if_neg fun heq => hd (categoryByte_inj (hcat.symm.trans heq))

theorem afterEvent_own (s : ArmoState) (tick : ArmoTick) (c : AlertCategory) (alertType : UInt8)
    (next : RecoveryState) : (recoveryTrace c (s.afterEvent tick c alertType next).1,
        ((s.afterEvent tick c alertType next).2.armo c).recoveryView) =
      (s.armo c).recoveryView.tell (eventItem alertType) next tick.acceptsEvent := by
  have hactive : (s.armo c).recoveryView.active = decide (s.active c) := rfl
  have hreports : (s.armo c).recoveryView.reports = decide ((s.armo c).recoveryDescr.alertReportDisabled = 0) := rfl
  unfold afterEvent generateRecoveryEvent RecoveryView.tell RecoveryView.event
  rw [hactive, hreports]
  by_cases hc : s.active c
  · rw [if_neg (not_not.mpr hc), decide_eq_true hc]
    by_cases hr : (s.armo c).recoveryDescr.alertReportDisabled = 0
    · rw [if_neg (not_not.mpr hr), decide_eq_true hr]
      have hview := countAlert_view s c
      cases tick.acceptsEvent with
      | true =>
        have hitem := recoveryItem_event s c c alertType (getNextAlertId c s).1
          (s.armo c).recoveryDescr.priority tick.time
        rw [if_pos rfl] at hitem
        refine Prod.ext ?_ ?_
        · simp only [recoveryTrace, List.filterMap_cons, if_true, hitem]
          rfl
        · exact (setRecovery_view _ c next).trans (congrArg (·.moveTo next) hview)
      | false => exact Prod.ext rfl hview
    · rw [if_pos hr, decide_eq_false hr]
      exact Prod.ext rfl (setRecovery_view s c next)
  · rw [if_pos hc, decide_eq_false hc]
    rfl

theorem afterEvent_other (s : ArmoState) (tick : ArmoTick) (alertType : UInt8) (next : RecoveryState) (h : c ≠ d) :
    recoveryTrace c (s.afterEvent tick d alertType next).1 = [] ∧
      (s.afterEvent tick d alertType next).2.armo c = s.armo c := by
  unfold afterEvent generateRecoveryEvent
  split
  · exact ⟨rfl, rfl⟩
  split
  · exact ⟨rfl, setRecovery_of_ne s next h⟩
  · cases tick.acceptsEvent with
    | true =>
      have hitem := recoveryItem_event s c d alertType (getNextAlertId d s).1
        (s.armo d).recoveryDescr.priority tick.time
      rw [if_neg h.symm] at hitem
      refine ⟨?_, (setRecovery_of_ne _ next h).trans (countAlert_of_ne s h)⟩
      simp only [recoveryTrace, List.filterMap_cons, if_true, hitem]
      rfl
    | false => exact ⟨rfl, countAlert_of_ne s h⟩

theorem afterEvent_queue (s : ArmoState) (tick : ArmoTick) (c : AlertCategory) (alertType : UInt8)
    (next : RecoveryState) : (s.afterEvent tick c alertType next).2.queue = s.queue := by
  unfold afterEvent generateRecoveryEvent
  split
  · rfl
  split
  · rfl
  · cases tick.acceptsEvent with
    | true => rfl
    | false => rfl

theorem nextAlarm_eq_find (s : ArmoState) (c : AlertCategory) (rs : List AlertRecord) :
    (s.armo c).recoveryView.nextAlarm (waitingAlarms c rs) =
      (rs.find? fun r => s.wanted c r.alert).map fun r => (r.alert, r.data) := by
  have hactive : (s.armo c).recoveryView.active = decide (s.active c) := rfl
  rw [RecoveryView.nextAlarm, hactive, findNext, waitingAlarms]
  by_cases hc : s.active c
  · rw [decide_eq_true hc, if_pos rfl, List.find?_map, List.find?_filter]
    congr 2
    funext r
    rw [Bool.decide_and, Bool.decide_eq_true, Bool.decide_eq_true, wanted, decide_eq_true hc, Bool.and_true]
    rfl
  · rw [decide_eq_false hc]
    simp [wanted, hc]

theorem category_of_find {r : AlertRecord} (hfind : (rs.find? fun r => s.wanted c r.alert) = some r) :
    r.alert.category = UInt8.ofNat c.val := by
  have hwanted := List.find?_some hfind
  simp only [wanted, Bool.and_eq_true, beq_iff_eq] at hwanted
  exact hwanted.1.1

variable {next : List ArmoEffect × ArmoState}

theorem TurnOutcome.own (h : TurnOutcome tick c s rs next) :
    ∃ accepted, (tick.Accepts → accepted = true) ∧ (recoveryTrace c next.1, (next.2.armo c).recoveryView) =
        (s.armo c).recoveryView.turn (waitingAlarms c rs) accepted := by
  have hview : (s.armo c).recoveryView.recovery = (s.armo c).recovery := rfl
  unfold RecoveryView.turn
  cases h with
  | disabled hstate =>
    rw [hview, hstate]
    exact ⟨true, fun _ => rfl, rfl⟩
  | start hstate =>
    rw [hview, hstate]
    exact ⟨tick.acceptsEvent, fun h => h.event, afterEvent_own s tick c alarmRecoveryStart .startSent⟩
  | finish hstate =>
    rw [hview, hstate]
    exact ⟨tick.acceptsEvent, fun h => h.event, afterEvent_own s tick c alarmRecoveryEnd .disabled⟩
  | noMore hstate hfind =>
    rw [hview, hstate, nextAlarm_eq_find, hfind]
    exact ⟨true, fun _ => rfl, Prod.ext rfl (setRecovery_view s c .done)⟩
  | alarm hstate hfind pos =>
    rename_i r
    rw [hview, hstate, nextAlarm_eq_find, hfind]
    refine ⟨tick.accepts pos, fun h => h.alarm pos, ?_⟩
    cases tick.accepts pos with
    | true =>
      have hitem := recoveryItem_alarm s c c (category_of_find hfind) (s.armo c).recoveryDescr.priority
      rw [if_pos rfl] at hitem
      refine Prod.ext ?_ ?_
      · simp only [recovered, recoveryTrace, List.filterMap_cons, if_true, hitem]
        rfl
      · simp only [recovered, setLastID, if_true, update_self]
        rfl
    | false => rfl

theorem TurnOutcome.other (h : TurnOutcome tick d s rs next)
    (hne : c ≠ d) : recoveryTrace c next.1 = [] ∧ next.2.armo c = s.armo c := by
  cases h with
  | disabled => exact ⟨rfl, rfl⟩
  | start => exact afterEvent_other s tick _ _ hne
  | finish => exact afterEvent_other s tick _ _ hne
  | noMore => exact ⟨rfl, setRecovery_of_ne s .done hne⟩
  | alarm _ hfind pos =>
    cases tick.accepts pos with
    | true =>
      have hitem := recoveryItem_alarm s c d (category_of_find hfind) (s.armo d).recoveryDescr.priority
      rw [if_neg hne.symm] at hitem
      refine ⟨?_, setLastID_of_ne s _ hne⟩
      simp only [recovered, recoveryTrace, List.filterMap_cons, if_true, hitem]
      rfl
    | false => exact ⟨rfl, rfl⟩

theorem TurnOutcome.queue (h : TurnOutcome tick c s rs next) : next.2.queue = s.queue := by
  cases h with
  | disabled | noMore => rfl
  | start => exact afterEvent_queue s tick c _ _
  | finish => exact afterEvent_queue s tick c _ _
  | alarm _ _ pos =>
    cases tick.accepts pos with
    | true => rfl
    | false => rfl

end Turns

end Isa100Gateway
