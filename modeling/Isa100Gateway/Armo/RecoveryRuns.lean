import Isa100Gateway.Armo.Recovery
import Mathlib.Algebra.BigOperators.Group.Finset.Basic
import Mathlib.Algebra.Order.BigOperators.Group.Finset
import Mathlib.Order.Interval.Finset.Fin

/-!
# Runs of alarm recovery

`ARMO_Task` serves one category in each run, and of those in recovery always the first. A recovery is complete when the alert master has learnt everything that waits, once and in order, and nothing after it. It comes to that exactly when every waiting alarm follows the one before it by the id comparison of the code, no later one leads back to an earlier one, and the categories before it do not hold it up.
-/

namespace Isa100Gateway

open List

open Resume (Visits findNext InOrder)

/-- No category up to `c` is in recovery. -/
def ArmoState.Idle (s : ArmoState) (c : AlertCategory) : Prop :=
  ∀ d ≤ c, (s.armo d).recovery.state = .disabled

/-- What the categories up to `c` have to tell their alert masters, and in how many turns. -/
structure Recovering (s : ArmoState) (rs : List AlertRecord) (c : AlertCategory)
    (todo : AlertCategory → List RecoveryItem) (left : AlertCategory → Nat) : Prop where
  queue : QueueHolds s.queue rs
  remaining : ∀ d ≤ c, Remaining (waitingAlarms d rs) (s.armo d).recoveryView (todo d) (left d)

section Served

variable {s : ArmoState} {rs : List AlertRecord} {c d : AlertCategory} {tick : ArmoTick}

theorem recoveringCategory_eq_some_iff : recoveringCategory s = some d ↔
    (s.armo d).recovery.state ≠ .disabled ∧ ∀ e < d, (s.armo e).recovery.state = .disabled := by
  rw [recoveringCategory, find?_eq_some_iff_getElem]
  constructor
  · rintro ⟨hd, i, hi, hget, hbefore⟩
    refine ⟨by simpa using hd, ?_⟩
    intro e he
    have hval : i = d.val := by simpa using congrArg Fin.val hget
    have hlt : e.val < i := hval ▸ he
    simpa using hbefore e.val hlt
  · rintro ⟨hd, hbefore⟩
    refine ⟨by simpa using hd, d.val, by simp, by simp, ?_⟩
    intro j hj
    have hlt : (⟨j, hj.trans d.isLt⟩ : AlertCategory) < d := hj
    simp [hbefore _ hlt]

theorem exists_recoveringCategory (hnot : ¬ s.Idle c) : ∃ d ≤ c, recoveringCategory s = some d := by
  unfold ArmoState.Idle at hnot
  push Not at hnot
  obtain ⟨e, he, hstate⟩ := hnot
  have hsome : (recoveringCategory s).isSome := by
    rw [recoveringCategory, find?_isSome]
    exact ⟨e, mem_finRange e, by simpa using hstate⟩
  obtain ⟨d, hd⟩ := Option.isSome_iff_exists.mp hsome
  refine ⟨d, le_trans ?_ he, hd⟩
  by_contra hlt
  exact hstate ((recoveringCategory_eq_some_iff.mp hd).2 e (lt_of_not_ge hlt))

theorem contracts_recovery (tick : ArmoTick) (s : ArmoState) (d : AlertCategory) :
    ((checkAlarmContracts tick s).armo d).recovery = (s.armo d).recovery := by
  rw [(checkAlarmContracts_same tick s).armo d]

theorem recoveringCategory_contracts (tick : ArmoTick) (s : ArmoState) :
    recoveringCategory (checkAlarmContracts tick s) = recoveringCategory s := by
  simp only [recoveringCategory, contracts_recovery]

theorem Remaining.contracts {alarms : List (Alert × Payload)} {todo : List RecoveryItem} {n : Nat}
    (h : Remaining alarms (s.armo d).recoveryView todo n) (tick : ArmoTick) :
    Remaining alarms ((checkAlarmContracts tick s).armo d).recoveryView todo n := by
  have hsame := checkAlarmContracts_same tick s
  by_cases hactive : s.active d
  · have hview : ((checkAlarmContracts tick s).armo d).recoveryView = (s.armo d).recoveryView := by
      rw [hsame.armo d, hsame.master d hactive]
    rwa [hview]
  · have hinactive : (s.armo d).recoveryView.active ≠ true := fun h => hactive (of_decide_eq_true h)
    cases h with
    | disabled hstate =>
      refine .disabled (Eq.trans ?_ hstate)
      exact congrArg AlertRecovery.state (contracts_recovery tick s d)
    | enabled hactive | startSent hactive | done hactive => exact absurd hactive hinactive

theorem ArmoState.startAckTimeout_same (s : ArmoState) :
    s.startAckTimeout.armo = s.armo ∧ s.startAckTimeout.queue = s.queue := by
  unfold ArmoState.startAckTimeout
  split
  · exact ⟨rfl, rfl⟩
  · exact ⟨rfl, rfl⟩

/-- A run of the task while category `d` is served: a turn of `d`, and the others stay as they are. -/
structure Serves (tick : ArmoTick) (d : AlertCategory) (rs : List AlertRecord) (s s' : ArmoState)
    (effects : List ArmoEffect) : Prop where
  queue : s'.queue = s.queue
  own : ∃ accepted, (tick.Accepts → accepted = true) ∧ recoveryTrace d effects =
      (((checkAlarmContracts tick s).armo d).recoveryView.turn (waitingAlarms d rs) accepted).1 ∧
    (s'.armo d).recoveryView =
      (((checkAlarmContracts tick s).armo d).recoveryView.turn (waitingAlarms d rs) accepted).2
  other : ∀ e, e ≠ d → recoveryTrace e effects = [] ∧ s'.armo e = (checkAlarmContracts tick s).armo e

variable {effects : List ArmoEffect}

theorem Serves.holds {s' : ArmoState} (h : Serves tick d rs s s' effects)
    (hqueue : QueueHolds s.queue rs) : QueueHolds s'.queue rs := by
  rw [h.queue]
  exact hqueue

theorem armoTask_serves (hqueue : QueueHolds s.queue rs) (hd : recoveringCategory s = some d) (tick : ArmoTick) :
    ∃ effects s', armoTask tick s = some (effects, s') ∧ Serves tick d rs s s' effects := by
  have hsame := checkAlarmContracts_same tick s
  have hqueue' : QueueHolds (checkAlarmContracts tick s).queue rs := by
    rw [hsame.queue]
    exact hqueue
  obtain ⟨⟨effects, s'⟩, hturn, hnext⟩ := recoveryTurn_outcome hqueue' tick d
  obtain ⟨harmo, hkept⟩ := s'.startAckTimeout_same
  obtain ⟨accepted, haccepted, hown⟩ := hnext.own
  refine ⟨effects, s'.startAckTimeout, ?_, ?_⟩
  · rw [armoTask_recovery ((recoveringCategory_contracts tick s).trans hd), hturn]
    rfl
  · exact {
      queue := hkept.trans (hnext.queue.trans hsame.queue)
      own := by
        rw [harmo]
        exact ⟨accepted, haccepted, congrArg Prod.fst hown, congrArg Prod.snd hown⟩
      other := by
        intro e he
        rw [harmo]
        exact hnext.other he }

theorem OnlyReports.recoveryTrace (h : OnlyReports effects) (c : AlertCategory) : recoveryTrace c effects = [] := by
  apply filterMap_eq_nil_iff.mpr
  intro effect heffect
  obtain ⟨r, rfl⟩ := h effect heffect
  rfl

theorem armoTask_idle (hqueue : QueueHolds s.queue rs) (hidle : s.Idle c) (tick : ArmoTick) :
    ∃ effects s' rs', armoTask tick s = some (effects, s') ∧ QueueHolds s'.queue rs' ∧ s'.Idle c ∧
      recoveryTrace c effects = [] := by
  cases hcategory : recoveringCategory s with
  | none =>
    obtain ⟨effects, s', rs', htask, honly, harmo, hqueue', -⟩ :=
      armoTask_report hqueue tick ((recoveringCategory_contracts tick s).trans hcategory)
    refine ⟨effects, s', rs', htask, hqueue', ?_, ?_⟩
    · intro e he
      rw [harmo, contracts_recovery]
      exact hidle e he
    · exact honly.recoveryTrace c
  | some d =>
    obtain ⟨effects, s', htask, hserves⟩ := armoTask_serves hqueue hcategory tick
    have hne (e : AlertCategory) (he : e ≤ c) : e ≠ d := by
      rintro rfl
      exact (recoveringCategory_eq_some_iff.mp hcategory).1 (hidle e he)
    refine ⟨effects, s', rs, htask, hserves.holds hqueue, ?_, (hserves.other c (hne c le_rfl)).1⟩
    · intro e he
      rw [(hserves.other e (hne e he)).2, contracts_recovery]
      exact hidle e he

end Served

/-- At least `n` runs of the task find the ASL ready. -/
def AcceptsAtLeast (n : Nat) (ticks : List ArmoTick) : Prop :=
  ∃ ready : List ArmoTick, ready.Sublist ticks ∧ ready.length = n ∧ ∀ tick ∈ ready, tick.Accepts

variable {ticks : List ArmoTick}

theorem AcceptsAtLeast.of_le {m n : Nat} (h : AcceptsAtLeast n ticks) (hle : m ≤ n) : AcceptsAtLeast m ticks := by
  obtain ⟨ready, hsub, hlen, haccepts⟩ := h
  refine ⟨ready.take m, (take_sublist m ready).trans hsub, ?_, ?_⟩
  · rw [length_take, hlen, min_eq_left hle]
  · exact fun tick htick => haccepts tick (mem_of_mem_take htick)

theorem AcceptsAtLeast.cons {n : Nat} {tick : ArmoTick} (h : AcceptsAtLeast n (tick :: ticks)) :
    AcceptsAtLeast n ticks ∨ tick.Accepts ∧ AcceptsAtLeast (n - 1) ticks := by
  obtain ⟨ready, hsub, hlen, haccepts⟩ := h
  cases hsub with
  | cons _ hsub => exact Or.inl ⟨ready, hsub, hlen, haccepts⟩
  | cons_cons _ hsub =>
    rename_i ready
    rw [length_cons] at hlen
    exact Or.inr ⟨haccepts _ mem_cons_self,
      ready, hsub, by omega, fun t ht => haccepts t (mem_cons_of_mem _ ht)⟩

def turnsLeft (c : AlertCategory) (left : AlertCategory → Nat) : Nat := ∑ d ∈ Finset.Iic c, left d

section Runs

variable {s s' : ArmoState} {rs : List AlertRecord} {c d : AlertCategory}
  {todo : AlertCategory → List RecoveryItem} {left : AlertCategory → Nat} {effects : List ArmoEffect}

theorem turnsLeft_update_le {n : Nat} (hle : n ≤ left d) :
    turnsLeft c (Function.update left d n) ≤ turnsLeft c left := by
  apply Finset.sum_le_sum
  intro e _
  by_cases he : e = d
  · rw [he, Function.update_self]
    exact hle
  · rw [Function.update_of_ne he]

theorem turnsLeft_update_lt {n : Nat} (hd : d ≤ c) (hlt : n < left d) :
    turnsLeft c (Function.update left d n) < turnsLeft c left := by
  apply Finset.sum_lt_sum
  · intro e _
    by_cases he : e = d
    · rw [he, Function.update_self]
      exact hlt.le
    · rw [Function.update_of_ne he]
  · refine ⟨d, Finset.mem_Iic.mpr hd, ?_⟩
    rw [Function.update_self]
    exact hlt

theorem Recovering.idle (h : Recovering s rs c todo left) (hleft : turnsLeft c left = 0) : s.Idle c := by
  intro d hd
  have hzero := Finset.sum_eq_zero_iff.mp hleft d (Finset.mem_Iic.mpr hd)
  by_contra hstate
  exact ((h.remaining d hd).pos hstate).ne' hzero

theorem Recovering.nothing_todo (h : Recovering s rs c todo left) (hidle : s.Idle c) : todo c = [] :=
  (h.remaining c le_rfl).nothing (hidle c le_rfl)

theorem Recovering.task (h : Recovering s rs c todo left) (hnot : ¬ s.Idle c) (tick : ArmoTick) :
    ∃ effects s' todo' left', armoTask tick s = some (effects, s') ∧ Recovering s' rs c todo' left' ∧
      todo c = recoveryTrace c effects ++ todo' c ∧ turnsLeft c left' ≤ turnsLeft c left ∧
      (tick.Accepts → turnsLeft c left' < turnsLeft c left) := by
  obtain ⟨d, hd, hserved⟩ := exists_recoveringCategory hnot
  obtain ⟨effects, s', htask, hserves⟩ := armoTask_serves h.queue hserved tick
  obtain ⟨accepted, haccepted, htrace, hview⟩ := hserves.own
  obtain ⟨todo', n, htodo, hremaining, hle, hlt⟩ := ((h.remaining d hd).contracts tick).turn accepted
  have hstate : ((checkAlarmContracts tick s).armo d).recoveryView.recovery.state ≠ .disabled := by
    change ((checkAlarmContracts tick s).armo d).recovery.state ≠ .disabled
    rw [contracts_recovery]
    exact (recoveringCategory_eq_some_iff.mp hserved).1
  refine ⟨effects, s', Function.update todo d todo', Function.update left d n, htask, ?_, ?_,
    turnsLeft_update_le hle, fun h => turnsLeft_update_lt hd (hlt (haccepted h) hstate)⟩
  · refine ⟨hserves.holds h.queue, ?_⟩
    intro e he
    by_cases hed : e = d
    · subst hed
      rw [Function.update_self, Function.update_self, hview]
      exact hremaining
    · rw [Function.update_of_ne hed, Function.update_of_ne hed, (hserves.other e hed).2]
      exact (h.remaining e he).contracts tick
  · by_cases hcd : c = d
    · subst hcd
      rw [Function.update_self, htrace]
      exact htodo
    · rw [Function.update_of_ne hcd, (hserves.other c hcd).1, nil_append]

theorem armoRun_task {tick : ArmoTick} {ticks : List ArmoTick} (htask : armoTask tick s = some (effects, s')) :
    armoRun s ((tick :: ticks).map .task) =
      (armoRun s' (ticks.map .task)).map fun (more, s) => (effects ++ more, s) :=
  armoRun_cons (e := .task tick) htask

theorem armoRun_idle (hqueue : QueueHolds s.queue rs) (hidle : s.Idle c) (ticks : List ArmoTick) :
    ∃ effects s', armoRun s (ticks.map .task) = some (effects, s') ∧ s'.Idle c ∧
      recoveryTrace c effects = [] := by
  induction ticks generalizing s rs with
  | nil => exact ⟨[], s, rfl, hidle, rfl⟩
  | cons tick ticks ih =>
    obtain ⟨effects, s₁, rs₁, htask, hqueue₁, hidle₁, htrace⟩ := armoTask_idle hqueue hidle tick
    obtain ⟨more, s', hrun, hidle', hmore⟩ := ih hqueue₁ hidle₁
    refine ⟨effects ++ more, s', ?_, hidle', ?_⟩
    · rw [armoRun_task htask, hrun]
      rfl
    · rw [recoveryTrace_append, htrace, hmore]
      rfl

theorem Recovering.run (h : Recovering s rs c todo left) (ticks : List ArmoTick) :
    ∃ effects s', armoRun s (ticks.map .task) = some (effects, s') ∧ recoveryTrace c effects <+: todo c ∧
      (AcceptsAtLeast (turnsLeft c left) ticks → recoveryTrace c effects = todo c ∧ s'.Idle c) := by
  induction ticks generalizing s todo left with
  | nil =>
    refine ⟨[], s, rfl, nil_prefix, ?_⟩
    rintro ⟨ready, hsub, hlen, -⟩
    rw [sublist_nil.mp hsub] at hlen
    have hidle := h.idle hlen.symm
    exact ⟨(h.nothing_todo hidle).symm, hidle⟩
  | cons tick ticks ih =>
    by_cases hidle : s.Idle c
    · obtain ⟨effects, s', hrun, hidle', htrace⟩ := armoRun_idle h.queue hidle (tick :: ticks)
      have hall := htrace.trans (h.nothing_todo hidle).symm
      exact ⟨effects, s', hrun, hall ▸ prefix_refl _, fun _ => ⟨hall, hidle'⟩⟩
    · obtain ⟨effects, s₁, todo₁, left₁, htask, h₁, htodo, hle, hlt⟩ := h.task hidle tick
      obtain ⟨more, s', hrun, hprefix, hall⟩ := ih h₁
      refine ⟨effects ++ more, s', ?_, ?_, ?_⟩
      · rw [armoRun_task htask, hrun]
        rfl
      · rw [recoveryTrace_append, htodo]
        exact (prefix_append_right_inj _).mpr hprefix
      · intro haccepts
        have hrest : AcceptsAtLeast (turnsLeft c left₁) ticks := by
          rcases haccepts.cons with hlater | ⟨hready, hlater⟩
          · exact hlater.of_le hle
          · have := hlt hready
            exact hlater.of_le (by omega)
        obtain ⟨hmore, hidle'⟩ := hall hrest
        exact ⟨by rw [recoveryTrace_append, htodo, hmore], hidle'⟩

end Runs

def ArmoTick.noContract : ArmoTick where
  time := ⟨0, 0⟩
  contract := fun _ => none
  requestSfc := fun _ => sfcObjectStateConflict
  accepts := fun _ => true
  acceptsEvent := true

theorem ArmoTick.noContract_accepts : ArmoTick.noContract.Accepts := ⟨rfl, fun _ => rfl⟩

section Ended

variable {s s' : ArmoState} {rs : List AlertRecord} {c d : AlertCategory} {effects : List ArmoEffect}

theorem noContract_view (s : ArmoState) (d : AlertCategory) :
    ((checkAlarmContracts .noContract s).armo d).recoveryView = (s.armo d).recoveryView := by
  have hturn (s : ArmoState) (c : AlertCategory) :
      ((checkAlarmContract .noContract s c).armo d).recoveryView = (s.armo d).recoveryView := by
    have hupdate (hstatus : (s.armo c).alertMaster.contractStatus ≠ .contractActive) :
        ((s.update c fun a => { a with
          alertMaster := { a.alertMaster with contractStatus := .noContr } }).armo d).recoveryView =
          (s.armo d).recoveryView := by
      by_cases hd : d = c
      · subst hd
        rw [ArmoState.update_self]
        simp [ArmoStruct.recoveryView, hstatus]
      · rw [s.update_of_ne _ hd]
    unfold checkAlarmContract
    cases hstatus : (s.armo c).alertMaster.contractStatus with
    | contractActive => rfl
    | awaitContractEstablishment | waitingContractTermination =>
      dsimp only
      split
      · exact hupdate (by simp [hstatus])
      · rfl
    | noContr =>
      dsimp only [configureEndpoint, ArmoTick.noContract]
      split
      · rw [if_neg (by decide)]
      · rfl
  have hfold (cs : List AlertCategory) (s : ArmoState) :
      ((cs.foldl (checkAlarmContract .noContract) s).armo d).recoveryView = (s.armo d).recoveryView := by
    induction cs generalizing s with
    | nil => rfl
    | cons c cs ih => rw [foldl_cons, ih, hturn]
  exact hfold _ s

theorem recovering_of_idle (hqueue : QueueHolds s.queue rs) (hidle : s.Idle c) :
    Recovering s rs c (fun _ => []) (fun _ => 0) :=
  ⟨hqueue, fun d hd => .disabled (hidle d hd)⟩

theorem recovering_of_armoRun (hqueue : QueueHolds s.queue rs) {n : Nat}
    (hrun : armoRun s ((replicate n ArmoTick.noContract).map .task) = some (effects, s')) (hidle : s'.Idle c) :
    ∃ todo left, Recovering s rs c todo left ∧ todo c = recoveryTrace c effects := by
  induction n generalizing s effects with
  | zero =>
    cases hrun
    exact ⟨_, _, recovering_of_idle hqueue hidle, rfl⟩
  | succ n ih =>
    by_cases hnow : s.Idle c
    · obtain ⟨effects', s'', hrun', -, htrace⟩ :=
        armoRun_idle hqueue hnow (replicate (n + 1) ArmoTick.noContract)
      cases hrun'.symm.trans hrun
      exact ⟨_, _, recovering_of_idle hqueue hnow, htrace.symm⟩
    · obtain ⟨d, hd, hserved⟩ := exists_recoveringCategory hnow
      obtain ⟨first, s₁, htask, hserves⟩ := armoTask_serves hqueue hserved .noContract
      rw [replicate_succ, armoRun_task htask] at hrun
      obtain ⟨⟨more, s₂⟩, hrest, hend⟩ := Option.map_eq_some_iff.mp hrun
      cases hend
      obtain ⟨todo, left, h₁, htodo⟩ := ih (hserves.holds hqueue) hrest
      -- the ASL accepts whatever this run of the task sends, so that the turn can be taken back
      obtain ⟨accepted, haccepted, htrace, hview⟩ := hserves.own
      obtain rfl := haccepted ArmoTick.noContract_accepts
      rw [noContract_view] at htrace hview
      have hafter := h₁.remaining d hd
      rw [hview] at hafter
      obtain ⟨k, hbefore⟩ := hafter.of_turn
      rw [← htrace] at hbefore
      refine ⟨Function.update todo d (recoveryTrace d first ++ todo d), Function.update left d k,
        ⟨hqueue, ?_⟩, ?_⟩
      · intro e he
        by_cases hed : e = d
        · subst hed
          rw [Function.update_self, Function.update_self]
          exact hbefore
        · have hother := h₁.remaining e he
          rw [(hserves.other e hed).2, noContract_view] at hother
          rw [Function.update_of_ne hed, Function.update_of_ne hed]
          exact hother
      · rw [recoveryTrace_append]
        by_cases hcd : c = d
        · subst hcd
          rw [Function.update_self, htodo]
        · rw [Function.update_of_ne hcd, htodo, (hserves.other c hcd).1, nil_append]

theorem idle_of_armoRun (hqueue : QueueHolds s.queue rs) {ticks : List ArmoTick}
    (hfirst : (s.armo c).recovery.state = .disabled → s.Idle c)
    (hrun : armoRun s (ticks.map .task) = some (effects, s'))
    (hend : (s'.armo c).recovery.state = .disabled) : s'.Idle c := by
  induction ticks generalizing s rs effects with
  | nil =>
    cases hrun
    exact hfirst hend
  | cons tick ticks ih =>
    by_cases hnow : s.Idle c
    · obtain ⟨effects', s'', hrun', hidle, -⟩ := armoRun_idle hqueue hnow (tick :: ticks)
      cases hrun'.symm.trans hrun
      exact hidle
    · obtain ⟨d, hd, hserved⟩ := exists_recoveringCategory hnow
      obtain ⟨first, s₁, htask, hserves⟩ := armoTask_serves hqueue hserved tick
      have hkeep (e : AlertCategory) (he : e ≠ d) :
          (s₁.armo e).recovery.state = (s.armo e).recovery.state := by
        rw [(hserves.other e he).2, contracts_recovery]
      rw [armoRun_task htask] at hrun
      obtain ⟨⟨more, s₂⟩, hrest, hmap⟩ := Option.map_eq_some_iff.mp hrun
      cases hmap
      refine ih (hserves.holds hqueue) ?_ hrest
      intro hdone e he
      by_cases hcd : c = d
      · -- the turn was that of `c`, so that nothing before it was in recovery
        subst hcd
        rcases lt_or_eq_of_le he with hlt | rfl
        · exact (hkeep e hlt.ne).trans ((recoveringCategory_eq_some_iff.mp hserved).2 e hlt)
        · exact hdone
      · exact absurd (hfirst ((hkeep c hcd).symm.trans hdone)) hnow

end Ended

/-! ## Complete recoveries -/

/-- Whatever the runs of the task find outside the ARMO, the alert master of `c` learns the plan from its beginning, and all of it and nothing more once the ASL has been ready often enough. -/
def RecoversCompletely (s : ArmoState) (c : AlertCategory) (rs : List AlertRecord) : Prop :=
  ∃ n, ∀ ticks : List ArmoTick, ∃ effects s', armoRun s (ticks.map .task) = some (effects, s') ∧
    recoveryTrace c effects <+: recoveryPlan c rs ∧
    (AcceptsAtLeast n ticks → recoveryTrace c effects = recoveryPlan c rs ∧ (s'.armo c).recovery.state = .disabled)

/-- The recovery of a category comes to an end if it is under way: its contract is active, and the ids of its alarms do not lead in a circle. -/
def ArmoState.RecoveryEnds (s : ArmoState) (d : AlertCategory) (rs : List AlertRecord) : Prop :=
  match (s.armo d).recovery.state with
  | .disabled => True
  | .done => s.active d
  | .enabled | .startSent =>
    s.active d ∧ ∃ as, Visits (findNext followsId alarmId (waitingAlarms d rs)) alarmId (s.armo d).recovery.lastID as

section Complete

variable {s : ArmoState} {rs : List AlertRecord} {c d : AlertCategory}

theorem recoveryEnds_iff : s.RecoveryEnds d rs ↔
    ∃ todo n, Remaining (waitingAlarms d rs) (s.armo d).recoveryView todo n := by
  have hactive : (s.armo d).recoveryView.active = true ↔ s.active d := decide_eq_true_iff
  unfold ArmoState.RecoveryEnds
  cases hstate : (s.armo d).recovery.state with
  | disabled => exact ⟨fun _ => ⟨_, _, .disabled hstate⟩, fun _ => trivial⟩
  | done =>
    constructor
    · intro h
      exact ⟨_, _, .done (hactive.mpr h) hstate⟩
    · rintro ⟨todo, n, h⟩
      exact hactive.mp (h.active (by change (s.armo d).recovery.state ≠ _; simp [hstate]))
  | enabled =>
    constructor
    · rintro ⟨h, as, hvisits⟩
      exact ⟨_, _, .enabled (hactive.mpr h) hstate hvisits⟩
    · rintro ⟨todo, n, h⟩
      cases h with
      | enabled h _ hvisits => exact ⟨hactive.mp h, _, hvisits⟩
      | disabled hother | startSent _ hother | done _ hother => exact nomatch hstate.symm.trans hother
  | startSent =>
    constructor
    · rintro ⟨h, as, hvisits⟩
      exact ⟨_, _, .startSent (hactive.mpr h) hstate hvisits⟩
    · rintro ⟨todo, n, h⟩
      cases h with
      | startSent h _ hvisits => exact ⟨hactive.mp h, _, hvisits⟩
      | disabled hother | enabled _ hother | done _ hother => exact nomatch hstate.symm.trans hother

theorem armoIndex_category (c : AlertCategory) : armoIndex (UInt8.ofNat c.val) = some c := by
  have hc : c.val < 4 := c.isLt
  have hval : (UInt8.ofNat c.val).toNat = c.val := by
    rw [UInt8.toNat_ofNat']
    omega
  rw [armoIndex, dif_pos (by rw [hval]; exact hc)]
  exact congrArg some (Fin.ext hval)

theorem armoExecute_accepted (hcommand : (armoExecute armoAlarmRecovery [UInt8.ofNat c.val] s).1 = sfcSuccess) :
    (s.armo c).recovery.state = .disabled ∧
      (armoExecute armoAlarmRecovery [UInt8.ofNat c.val] s).2 = s.setRecovery c .enabled := by
  unfold armoExecute at hcommand ⊢
  rw [if_neg (not_not.mpr rfl)] at hcommand ⊢
  simp only [armoIndex_category] at hcommand ⊢
  by_cases hstate : (s.armo c).recovery.state = .disabled
  · exact ⟨hstate, by rw [if_neg (not_not.mpr hstate)]⟩
  · rw [if_pos hstate] at hcommand
    exact absurd hcommand (show sfcObjectStateConflict ≠ sfcSuccess by decide)

theorem remaining_plan (hactive : s.active c) (hreports : (s.armo c).recoveryDescr.alertReportDisabled = 0)
    (horder : InOrder followsId (s.armo c).recovery.lastID ((waitingAlarms c rs).map alarmId)) :
    ∃ n, Remaining (waitingAlarms c rs) ((s.setRecovery c .enabled).armo c).recoveryView
      (recoveryPlan c rs) n := by
  have hvisits := (Resume.visits_find_iff followsId_irrefl).mpr horder
  have hevent (item : RecoveryItem) : ((s.armo c).recoveryView.moveTo .enabled).event item = [item] :=
    if_pos (decide_eq_true hreports)
  have hremaining := Remaining.enabled (v := (s.armo c).recoveryView.moveTo .enabled)
    (decide_eq_true hactive) rfl hvisits
  rw [hevent, hevent] at hremaining
  rw [setRecovery_view]
  exact ⟨_, hremaining⟩

theorem order_of_remaining {n : Nat}
    (h : Remaining (waitingAlarms c rs) ((s.setRecovery c .enabled).armo c).recoveryView
      (recoveryPlan c rs) n) : (s.armo c).recoveryDescr.alertReportDisabled = 0 ∧
      InOrder followsId (s.armo c).recovery.lastID ((waitingAlarms c rs).map alarmId) := by
  rw [setRecovery_view] at h
  generalize htodo : recoveryPlan c rs = todo at h
  cases h with
  | disabled hother | startSent _ hother | done _ hother => exact nomatch hother
  | enabled _ _ hvisits =>
    rename_i as
    by_cases hreports : (s.armo c).recoveryDescr.alertReportDisabled = 0
    · have hevent (item : RecoveryItem) :
          ((s.armo c).recoveryView.moveTo .enabled).event item = [item] :=
        if_pos (decide_eq_true hreports)
      rw [hevent, hevent, recoveryPlan, singleton_append] at htodo
      have hmaps := append_cancel_right (cons.inj htodo).2
      have hinj : Function.Injective RecoveryItem.ofAlarm := by
        intro x y hxy
        obtain ⟨halert, hdata⟩ := RecoveryItem.alarm.inj hxy
        exact Prod.ext halert hdata
      obtain rfl := map_injective_iff.mpr hinj hmaps
      exact ⟨hreports, (Resume.visits_find_iff followsId_irrefl).mp hvisits⟩
    · -- without the events the plan, which begins with one, cannot be what is left
      have hevent (item : RecoveryItem) :
          ((s.armo c).recoveryView.moveTo .enabled).event item = [] :=
        if_neg (by simpa [RecoveryView.moveTo, ArmoStruct.recoveryView] using hreports)
      rw [hevent, hevent, recoveryPlan, nil_append, append_nil] at htodo
      have hstart : RecoveryItem.started ∈ as.map RecoveryItem.ofAlarm := by
        rw [← htodo]
        exact mem_cons_self
      obtain ⟨x, -, hx⟩ := mem_map.mp hstart
      exact nomatch hx

theorem recoveryEnds_setRecovery (h : d ≠ c) (state : RecoveryState) :
    (s.setRecovery c state).RecoveryEnds d rs ↔ s.RecoveryEnds d rs := by
  rw [recoveryEnds_iff, recoveryEnds_iff, setRecovery_of_ne s state h]

theorem RecoversCompletely.order (h : RecoversCompletely (s.setRecovery c .enabled) c rs)
    (hqueue : QueueHolds s.queue rs) : (s.armo c).recoveryDescr.alertReportDisabled = 0 ∧
      InOrder followsId (s.armo c).recovery.lastID ((waitingAlarms c rs).map alarmId) ∧
      ∀ d < c, s.RecoveryEnds d rs := by
  obtain ⟨n, hall⟩ := h
  obtain ⟨effects, s', hrun, -, hcomplete⟩ := hall (replicate n .noContract)
  have hready : AcceptsAtLeast n (replicate n ArmoTick.noContract) :=
    ⟨_, Sublist.refl _, length_replicate, fun tick htick => by
      rw [eq_of_mem_replicate htick]
      exact ArmoTick.noContract_accepts⟩
  obtain ⟨htrace, hend⟩ := hcomplete hready
  have henabled : ((s.setRecovery c .enabled).armo c).recovery.state ≠ .disabled := by
    rw [ArmoState.setRecovery, ArmoState.update_self]
    exact RecoveryState.noConfusion
  have hidle := idle_of_armoRun (s := s.setRecovery c .enabled) hqueue
    (fun hdone => absurd hdone henabled) hrun hend
  obtain ⟨todo, left, hrecovering, htodo⟩ :=
    recovering_of_armoRun (s := s.setRecovery c .enabled) hqueue hrun hidle
  have hown := hrecovering.remaining c le_rfl
  rw [htodo, htrace] at hown
  obtain ⟨hreports, horder⟩ := order_of_remaining hown
  refine ⟨hreports, horder, ?_⟩
  intro d hd
  rw [← recoveryEnds_setRecovery hd.ne .enabled, recoveryEnds_iff]
  exact ⟨_, _, hrecovering.remaining d hd.le⟩

/-- An accepted recovery command with an active contract is carried out completely exactly when recovery events are enabled, the waiting alarms follow each other and the last alarm of the recovery before, and the recoveries of the categories before it come to an end. -/
theorem recoversCompletely_iff (hqueue : QueueHolds s.queue rs) (hactive : s.active c)
    (hcommand : (armoExecute armoAlarmRecovery [UInt8.ofNat c.val] s).1 = sfcSuccess) :
    RecoversCompletely (armoExecute armoAlarmRecovery [UInt8.ofNat c.val] s).2 c rs ↔
      (s.armo c).recoveryDescr.alertReportDisabled = 0 ∧
        InOrder followsId (s.armo c).recovery.lastID ((waitingAlarms c rs).map alarmId) ∧
        ∀ d < c, s.RecoveryEnds d rs := by
  obtain ⟨-, hafter⟩ := armoExecute_accepted hcommand
  rw [hafter]
  constructor
  · intro h
    exact h.order hqueue
  · rintro ⟨hreports, horder, hlower⟩
    have hall (d : AlertCategory) : ∃ todo n, d ≤ c →
        Remaining (waitingAlarms d rs) ((s.setRecovery c .enabled).armo d).recoveryView todo n ∧
          (d = c → todo = recoveryPlan c rs) := by
      by_cases hd : d < c
      · obtain ⟨todo, n, h⟩ :=
          recoveryEnds_iff.mp ((recoveryEnds_setRecovery hd.ne .enabled).mpr (hlower d hd))
        exact ⟨todo, n, fun _ => ⟨h, fun heq => absurd heq hd.ne⟩⟩
      · obtain ⟨n, h⟩ := remaining_plan hactive hreports horder
        refine ⟨recoveryPlan c rs, n, fun hle => ?_⟩
        obtain rfl := le_antisymm hle (le_of_not_gt hd)
        exact ⟨h, fun _ => rfl⟩
    choose todo left hremaining using hall
    have hrecovering : Recovering (s.setRecovery c .enabled) rs c todo left :=
      ⟨hqueue, fun d hd => (hremaining d hd).1⟩
    have htodo := (hremaining c le_rfl).2 rfl
    refine ⟨turnsLeft c left, fun ticks => ?_⟩
    obtain ⟨effects, s', hrun, hprefix, hcomplete⟩ := hrecovering.run ticks
    rw [htodo] at hprefix hcomplete
    exact ⟨effects, s', hrun, hprefix, fun hready =>
      ⟨(hcomplete hready).1, (hcomplete hready).2 c le_rfl⟩⟩

end Complete

def ArmoState.connected : ArmoState :=
  ArmoState.start.update alertCatDevDiag fun a => { a with
    alertMaster := { a.alertMaster with contractStatus := .contractActive } }

def diagnosticsRequest : AlertRequest where
  alert := ⟨0, 0xF0B0, 2, 0, 0, 0, 0, 0, 0, 0, 0, 0⟩
  buf := []
  length_buf := List.length_nil

def alertCatCommDiag : AlertCategory := ⟨1, by decide⟩

def waitingRecord (c : AlertCategory) (id : UInt8) : AlertRecord where
  alert := { diagnosticsRequest.alert with category := UInt8.ofNat c.val, id := id }
  data := []
  slack := []
  category := c
  length_data := List.length_nil
  length_slack := show sizeofAlert + 0 + 0 = (alertLength 0).toNat by decide
  category_eq := armoIndex_category c

/-- An alarm of the device diagnostics and behind it two of the communication diagnostics. -/
def waitingRecords : List AlertRecord :=
  [waitingRecord alertCatDevDiag 0, waitingRecord alertCatCommDiag 0x40, waitingRecord alertCatCommDiag 0x41]

def ArmoState.waiting : ArmoState :=
  { ArmoState.connected.update alertCatCommDiag fun a => { a with
      alertMaster := { a.alertMaster with contractStatus := .contractActive } } with
    queue := {
      mem := alertFormat.pack waitingRecords ++ replicate (armoQueueSize - (alertFormat.pack waitingRecords).length) 0
      used := (alertFormat.pack waitingRecords).length } }

theorem recoversCompletely_waiting :
    recoveryPlan alertCatCommDiag waitingRecords =
      [.started, .ofAlarm ((waitingRecord alertCatCommDiag 0x40).alert, []),
        .ofAlarm ((waitingRecord alertCatCommDiag 0x41).alert, []), .ended] ∧
    RecoversCompletely (armoExecute armoAlarmRecovery [UInt8.ofNat alertCatCommDiag.val] .waiting).2
      alertCatCommDiag waitingRecords := by
  have hqueue : QueueHolds ArmoState.waiting.queue waitingRecords := by
    refine ⟨.of_mem_eq _ rfl rfl, ?_⟩
    change (alertFormat.pack waitingRecords ++ replicate _ 0).length = _
    rw [length_append, length_replicate]
    decide
  refine ⟨rfl, (recoversCompletely_iff (c := alertCatCommDiag) hqueue rfl rfl).mpr
    ⟨rfl, ⟨by decide, by decide⟩, fun d hd => ?_⟩⟩
  obtain rfl : d = alertCatDevDiag := Fin.ext (Nat.lt_one_iff.mp hd)
  trivial

/-- The first alarm of the device diagnostics has the id 0, which a fresh ARMO takes for the last one that it sent. -/
theorem firstAlarm_skipped : ¬ ∀ s effects sfc time rs,
        addAlertToQueue diagnosticsRequest time .connected = some (sfc, effects, s) →
        QueueHolds s.queue rs → s.active alertCatDevDiag →
        (armoExecute armoAlarmRecovery [UInt8.ofNat alertCatDevDiag.val] s).1 = sfcSuccess →
        RecoversCompletely (armoExecute armoAlarmRecovery [UInt8.ofNat alertCatDevDiag.val] s).2
          alertCatDevDiag rs := by
  intro hall
  have hstart : Represents .connected [] AlertLog.start := represents_start.update alertCatDevDiag fun _ => rfl
  have hadmits : ArmoState.connected.Admits diagnosticsRequest alertCatDevDiag :=
    ⟨rfl, rfl, rfl, by decide⟩
  obtain ⟨queue, r, hadd, hrep⟩ := addAlertToQueue_stored diagnosticsRequest ⟨0, 0⟩ hstart hadmits (by decide)
  rw [drop_nil, nil_append] at hrep
  obtain ⟨-, hafter⟩ := armoExecute_accepted (c := alertCatDevDiag)
    (s := { ArmoState.connected.countAlert alertCatDevDiag with queue := queue }) rfl
  have hcomplete := hall _ _ _ _ [r] hadd hrep.queue rfl rfl
  rw [hafter] at hcomplete
  obtain ⟨-, ⟨hchain, -⟩, -⟩ := hcomplete.order hrep.queue
  cases hrep.stored with
  | cons hstores _ =>
    have hcategory : r.alert.category = UInt8.ofNat alertCatDevDiag.val :=
      congrArg Alert.category hstores.alert
    have hid : r.alert.id = 0 := hstores.id
    have hwaiting : waitingAlarms alertCatDevDiag [r] = [(r.alert, r.data)] := by
      simp [waitingAlarms, hcategory]
    rw [hwaiting, map_singleton, alarmId, hid] at hchain
    have hfollows : followsId 0 0 = true := (isChain_cons_cons.mp hchain).1
    exact absurd (hfollows.symm.trans (followsId_irrefl 0)) (by simp)

end Isa100Gateway
