import Isa100Gateway.Armo.AlertLog

/-!
# Alert ids

An id is the category of the alert and the low six bits of a counter of the category. An acknowledgement names an alert by its id alone, so it reaches the right one as long as no two alerts that wait at the same time are a multiple of 64 ids apart.
-/

namespace Isa100Gateway

open AlertLog List

theorem toNat_nextAlertId (c : AlertCategory) (alertsNo : UInt8) :
    (nextAlertId c alertsNo).toNat = c.val * 64 + alertsNo.toNat % 64 := by
  have hc : c.val < 4 := c.isLt
  have hlow : (alertsNo &&& 0x3F).toNat = alertsNo.toNat % 2 ^ 6 := by
    rw [UInt8.toNat_and]
    exact Nat.and_two_pow_sub_one_eq_mod alertsNo.toNat 6
  have hhigh : (UInt8.ofNat c.val <<< 6).toNat = c.val * 2 ^ 6 := by
    simp [Nat.shiftLeft_eq]
    omega
  rw [nextAlertId, UInt8.toNat_or, hlow, hhigh, Bytes.lor_eq_add (Nat.mod_lt _ (by norm_num))]
  rfl

theorem nextAlertId_eq_iff (c d : AlertCategory) (m n : Nat) :
    nextAlertId c (UInt8.ofNat m) = nextAlertId d (UInt8.ofNat n) ↔ c = d ∧ m % 64 = n % 64 := by
  have hm : (UInt8.ofNat m).toNat % 64 = m % 64 := by
    rw [UInt8.toNat_ofNat']
    omega
  have hn : (UInt8.ofNat n).toNat % 64 = n % 64 := by
    rw [UInt8.toNat_ofNat']
    omega
  rw [← UInt8.toNat_inj, toNat_nextAlertId, toNat_nextAlertId, hm, hn, Fin.ext_iff]
  omega

def DistinctIds (rs : List AlertRecord) : Prop := rs.Pairwise fun r r' => r.alert.id ≠ r'.alert.id

/-- The ids of the queued alerts are pairwise distinct, and an acknowledgement removes the alert that carries its id and nothing else. -/
def ArmoState.AcksExactly (s : ArmoState) : Prop :=
  ∃ rs, QueueHolds s.queue rs ∧ DistinctIds rs ∧ ∀ id, ∃ effects s', processAlertAck id s = some (effects, s') ∧
      QueueHolds s'.queue (rs.filter fun r => r.alert.id != id)

variable {rs : List AlertRecord}

theorem eraseP_eq_filter_of_distinct (h : DistinctIds rs) (id : UInt8) :
    (rs.eraseP fun r => r.alert.id == id) = rs.filter fun r => r.alert.id != id := by
  induction rs with
  | nil => rfl
  | cons r rs ih =>
    obtain ⟨hhead, hrest⟩ := pairwise_cons.mp h
    by_cases hr : r.alert.id = id
    · have hkeep : (rs.filter fun x => x.alert.id != id) = rs :=
        filter_eq_self.mpr fun x hx => bne_iff_ne.mpr fun heq => hhead x hx (hr.trans heq.symm)
      rw [eraseP_cons, filter_cons, hkeep]
      simp [hr]
    · have hne : (r.alert.id == id) = false := beq_eq_false_iff_ne.mpr hr
      rw [eraseP_cons, filter_cons, ih hrest]
      simp [hne, hr]

def AlertLog.Distinct (log : AlertLog) : Prop :=
  log.entries.Pairwise fun e e' => e.alert.id ≠ e'.alert.id

section State

variable {s : ArmoState} {rs : List AlertRecord} {log : AlertLog}

theorem Represents.distinct_iff (h : Represents s rs log) : DistinctIds rs ↔ log.Distinct := by
  have hids : (rs.map fun r => r.alert.id) = log.entries.map fun e => e.alert.id :=
    map_eq_map_of_forall₂ (fun r e hre => hre.id) h.stored
  have hmap {α : Type} (f : α → UInt8) (as : List α) :
      as.Pairwise (fun a b => f a ≠ f b) ↔ (as.map f).Pairwise (· ≠ ·) := pairwise_map.symm
  rw [DistinctIds, Distinct, hmap (fun r : AlertRecord => r.alert.id),
    hmap (fun e : LogEntry => e.alert.id), hids]

theorem Represents.acksExactly_iff (h : Represents s rs log) : s.AcksExactly ↔ log.Distinct := by
  rw [← h.distinct_iff]
  constructor
  · rintro ⟨rs', hqueue, hdistinct, -⟩
    have hheaders := congrArg (map Alert.id) (hqueue.holds.header_unique h.queue.holds)
    rw [map_map, map_map] at hheaders
    rw [DistinctIds, ← pairwise_map] at hdistinct ⊢
    exact hheaders ▸ hdistinct
  · intro hdistinct
    refine ⟨rs, h.queue, hdistinct, ?_⟩
    intro id
    obtain ⟨queue, hack, hholds⟩ := processAlertAck_holds h.queue id
    exact ⟨_, _, hack, eraseP_eq_filter_of_distinct hdistinct id ▸ hholds⟩

end State

/-! ## Fresh ids -/

def LogEntry.length (e : LogEntry) : Nat := (alertLength e.alert.size).toNat

def AlertLog.evictedBy (log : AlertLog) (req : AlertRequest) : Nat :=
  evictions (alertLength req.alert.size).toNat (log.entries.map LogEntry.length)

/-- Of the alerts that stay when `req` is queued, none of its category was drawn 64 ids earlier, or 128, and so on. -/
def AlertLog.Fresh (log : AlertLog) (req : AlertRequest) (c : AlertCategory) : Prop :=
  ∀ e ∈ log.entries.drop (log.evictedBy req), e.category = c → e.draw % 64 ≠ log.drawn c % 64

def ArmoEvent.Fresh (s : ArmoState) (log : AlertLog) : ArmoEvent → Prop
  | .addAlertToQueue req _ =>
    ∀ c, s.Admits req c → req.alert.size.toNat ≤ maxUnwrappedSize → log.Fresh req c
  | _ => True

def RunFresh : ArmoState → AlertLog → List ArmoEvent → Prop
  | _, _, [] => True
  | s, log, e :: es =>
    e.Fresh s log ∧ ∀ effects s', armoStep s e = some (effects, s') → RunFresh s' (log.replay effects) es

def RunAlways (P : ArmoState → Prop) : ArmoState → List ArmoEvent → Prop
  | s, [] => P s
  | s, e :: es => P s ∧ ∀ effects s', armoStep s e = some (effects, s') → RunAlways P s' es

variable {s : ArmoState} {log : AlertLog}

theorem RunAlways.head {P : ArmoState → Prop} {es : List ArmoEvent} (h : RunAlways P s es) : P s := by
  cases es with
  | nil => exact h
  | cons e es => exact h.1

section Steps

variable {s : ArmoState} {rs : List AlertRecord} {log : AlertLog} {c : AlertCategory}

theorem Represents.roomFor_eq (h : Represents s rs log) (req : AlertRequest) :
    roomFor req rs = log.evictedBy req := by
  have hlengths : rs.map AlertRecord.length = log.entries.map LogEntry.length :=
    map_eq_map_of_forall₂ (fun r e hre => by rw [AlertRecord.length, LogEntry.length, hre.size]) h.stored
  rw [roomFor, evictedBy, hlengths]

variable {effects : List ArmoEffect} {s' : ArmoState}

theorem addAlertToQueue_entries (h : Represents s rs log) {req : AlertRequest} {time : CrtTaiTime} {sfc : UInt8}
    (hadd : addAlertToQueue req time s = some (sfc, effects, s')) :
    (∃ c, s.Admits req c ∧ req.alert.size.toNat ≤ maxUnwrappedSize ∧
        log.replay effects = push { log with entries := log.entries.drop (log.evictedBy req) } c
          (s.storedAlert c req time) req.buf) ∨
      ((∀ c, ¬ s.Admits req c) ∧ (log.replay effects).entries.Sublist log.entries) := by
  by_cases hadmits : ∃ c, s.Admits req c
  · left
    obtain ⟨c, hadmits⟩ := hadmits
    have hsize : req.alert.size.toNat ≤ maxUnwrappedSize := by
      by_contra hwrapped
      rw [addAlertToQueue_store req time hadmits,
        storeAlert_wrapped req time h.queue (Nat.lt_of_not_le hwrapped)] at hadd
      exact nomatch hadd
    obtain ⟨queue, r, hstored, -⟩ := addAlertToQueue_stored req time h hadmits hsize
    rw [hstored] at hadd
    cases hadd
    have hcat : armoIndex (s.storedAlert c req time).category = some c := hadmits.category
    refine ⟨c, hadmits, hsize, ?_⟩
    rw [log.replay_stored _ _ hcat, h.roomFor_eq]
  · right
    push Not at hadmits
    refine ⟨hadmits, ?_⟩
    unfold addAlertToQueue at hadd
    split at hadd
    · obtain ⟨s₁, hack, -⟩ := processAlertAck_represents h req.alert.id
      rw [hack] at hadd
      cases hadd
      change (log.replay (ackEffects req.alert.id)).entries.Sublist _
      rw [replay_ackEffects]
      exact eraseP_sublist
    split at hadd
    · cases hadd
      exact Sublist.refl _
    · rename_i hcallback hbig
      obtain ⟨c, hcat, hadd⟩ := Option.bind_eq_some_iff.mp hadd
      split at hadd
      · rename_i hvalid
        exact absurd ⟨Bool.eq_false_of_not_eq_true hcallback, hcat, hvalid.1, hvalid.2⟩ (hadmits c)
      · cases hadd
        exact Sublist.refl _

theorem armoStep_entries (h : Represents s rs log) {e : ArmoEvent}
    (hother : ∀ req time, e ≠ .addAlertToQueue req time)
    (hstep : armoStep s e = some (effects, s')) : (log.replay effects).entries.Sublist log.entries := by
  cases e with
  | addAlertToQueue req time => exact absurd rfl (hother req time)
  | processAlertAck id =>
    obtain ⟨s₁, hack, -⟩ := processAlertAck_represents h id
    cases hack.symm.trans hstep
    rw [replay_ackEffects]
    exact eraseP_sublist
  | task tick =>
    obtain ⟨effects', s₁, rs₁, htask, -, hkeeps⟩ := armoTask_represents h tick
    cases htask.symm.trans hstep
    rw [hkeeps log]
  | execute | configure | setCallback =>
    cases hstep
    exact Sublist.refl _

theorem Represents.distinct_push_iff (h : Represents s rs log) (hdistinct : log.Distinct)
    (req : AlertRequest) (time : CrtTaiTime) (c : AlertCategory) :
    (push { log with entries := log.entries.drop (log.evictedBy req) } c
      (s.storedAlert c req time) req.buf).Distinct ↔ log.Fresh req c := by
  have hid : (s.storedAlert c req time).id = nextAlertId c (UInt8.ofNat (log.drawn c)) := by
    change nextAlertId c (s.armo c).alertsNo = _
    rw [h.counted c]
  have hclash (e : LogEntry) (he : e ∈ log.entries.drop (log.evictedBy req)) :
      e.alert.id = (s.storedAlert c req time).id ↔
        e.category = c ∧ e.draw % 64 = log.drawn c % 64 := by
    rw [hid, h.ids e (mem_of_mem_drop he), nextAlertId_eq_iff]
  have hstay : (log.entries.drop (log.evictedBy req)).Pairwise fun e e' => e.alert.id ≠ e'.alert.id :=
    Pairwise.sublist (drop_sublist _ _) hdistinct
  unfold Distinct push Fresh
  rw [pairwise_append]
  constructor
  · rintro ⟨-, -, hnew⟩ e he hcat hdraw
    exact hnew e he _ (mem_singleton_self _) ((hclash e he).mpr ⟨hcat, hdraw⟩)
  · intro hfresh
    refine ⟨hstay, pairwise_singleton _ _, ?_⟩
    intro e he e' he' heq
    obtain rfl := mem_singleton.mp he'
    obtain ⟨hcat, hdraw⟩ := (hclash e he).mp heq
    exact hfresh e he hcat hdraw

theorem armoStep_distinct_iff (h : Represents s rs log) (hdistinct : log.Distinct) {e : ArmoEvent}
    (hstep : armoStep s e = some (effects, s')) : (log.replay effects).Distinct ↔ e.Fresh s log := by
  have hquiet (hsub : (log.replay effects).entries.Sublist log.entries) : (log.replay effects).Distinct :=
    Pairwise.sublist hsub hdistinct
  cases e with
  | addAlertToQueue req time =>
    obtain ⟨⟨sfc, effects', s₁⟩, hadd, hend⟩ := Option.map_eq_some_iff.mp hstep
    cases hend
    rcases addAlertToQueue_entries h hadd with ⟨c, hadmits, hsize, hreplay⟩ | ⟨hnot, hsub⟩
    · rw [hreplay, h.distinct_push_iff hdistinct]
      constructor
      · intro hfresh d hd _
        obtain rfl := Option.some.inj (hadmits.category.symm.trans hd.category)
        exact hfresh
      · intro hfresh
        exact hfresh c hadmits hsize
    · exact ⟨fun _ c hadmits => absurd hadmits (hnot c), fun _ => hquiet hsub⟩
  | processAlertAck | task | execute | configure | setCallback =>
    have hsub := armoStep_entries h (by rintro _ _ ⟨⟩) hstep
    exact ⟨fun _ => trivial, fun _ => hquiet hsub⟩

end Steps

section Runs

variable {s : ArmoState} {rs : List AlertRecord} {log : AlertLog}

theorem represents_of_armoStep (h : Represents s rs log) {e : ArmoEvent} {effects : List ArmoEffect}
    {s' : ArmoState} (hstep : armoStep s e = some (effects, s')) : ∃ rs', Represents s' rs' (log.replay effects) := by
  have hfits : e.Fits s := by
    by_contra hnot
    rw [armoStep_none h hnot] at hstep
    exact nomatch hstep
  obtain ⟨effects', s₁, rs', hstep', hs₁⟩ := armoStep_represents h hfits
  cases hstep'.symm.trans hstep
  exact ⟨rs', hs₁⟩

theorem fresh_of_none (h : Represents s rs log) {e : ArmoEvent} (hstep : armoStep s e = none) : e.Fresh s log := by
  cases e with
  | addAlertToQueue req time =>
    intro c hadmits hsize
    obtain ⟨queue, r, hadd, -⟩ := addAlertToQueue_stored req time h hadmits hsize
    rw [armoStep, hadd] at hstep
    exact nomatch hstep
  | processAlertAck | task | execute | configure | setCallback => trivial

theorem runAlways_acksExactly_iff (h : Represents s rs log) (hdistinct : log.Distinct)
    (es : List ArmoEvent) : RunAlways ArmoState.AcksExactly s es ↔ RunFresh s log es := by
  induction es generalizing s rs log with
  | nil => exact ⟨fun _ => trivial, fun _ => h.acksExactly_iff.mpr hdistinct⟩
  | cons e es ih =>
    constructor
    · rintro ⟨-, hrest⟩
      refine ⟨?_, ?_⟩
      · cases hstep : armoStep s e with
        | none => exact fresh_of_none h hstep
        | some next =>
          obtain ⟨effects, s'⟩ := next
          obtain ⟨rs', hs'⟩ := represents_of_armoStep h hstep
          have hnext := hs'.acksExactly_iff.mp (hrest effects s' hstep).head
          exact (armoStep_distinct_iff h hdistinct hstep).mp hnext
      · intro effects s' hstep
        obtain ⟨rs', hs'⟩ := represents_of_armoStep h hstep
        have hnext := hs'.acksExactly_iff.mp (hrest effects s' hstep).head
        exact (ih hs' hnext).mp (hrest effects s' hstep)
    · rintro ⟨hfresh, hrest⟩
      refine ⟨h.acksExactly_iff.mpr hdistinct, ?_⟩
      intro effects s' hstep
      obtain ⟨rs', hs'⟩ := represents_of_armoStep h hstep
      have hnext := (armoStep_distinct_iff h hdistinct hstep).mpr hfresh
      exact (ih hs' hnext).mpr (hrest effects s' hstep)

end Runs

/-- In every state of a run the queued alerts have distinct ids, and acknowledgements are exact, just when every alert that the run queues gets a fresh id. -/
theorem acksExactly_iff_runFresh (es : List ArmoEvent) :
    RunAlways ArmoState.AcksExactly ArmoState.start es ↔ RunFresh ArmoState.start start es :=
  runAlways_acksExactly_iff represents_start Pairwise.nil es

def shortRequest : AlertRequest where
  alert := ⟨0, 0xF0B0, 2, 0, 0, 0, 0, 0, 0, 0, 0, 0⟩
  buf := []
  length_buf := rfl

def queueShort : ArmoEvent := .addAlertToQueue shortRequest ⟨0, 0⟩

/-- The queue after `n` short alerts that nobody has acknowledged. -/
structure HoldsShort (n : Nat) (s : ArmoState) (log : AlertLog) : Prop where
  admits : s.Admits shortRequest alertCatDevDiag
  draws : log.entries.map LogEntry.draw = range n
  category : ∀ e ∈ log.entries, e.category = alertCatDevDiag
  length : ∀ e ∈ log.entries, e.length = sizeofAlert
  drawn : log.drawn alertCatDevDiag = n

theorem evictions_eq_zero {len : Nat} {ls : List Nat} (h : ls.sum + len ≤ armoQueueSize) : evictions len ls = 0 := by
  cases ls with
  | nil => rfl
  | cons l ls => exact if_neg (Nat.not_lt.mpr h)

theorem HoldsShort.evictedBy {n : Nat} (h : HoldsShort n s log) (hn : n < 600) : log.evictedBy shortRequest = 0 := by
  have hcount : log.entries.length = n := by
    simpa using congrArg List.length h.draws
  have hlengths : log.entries.map LogEntry.length = replicate n sizeofAlert := by
    rw [← hcount, ← map_const']
    exact map_congr_left h.length
  have hnew : (alertLength shortRequest.alert.size).toNat = sizeofAlert := by decide
  apply evictions_eq_zero
  rw [hlengths, sum_replicate_nat, hnew]
  simp only [sizeofAlert, armoQueueSize]
  omega

theorem HoldsShort.push {n : Nat} (h : HoldsShort n s log) (queue : Records.Block UInt8) :
    HoldsShort (n + 1) { s.countAlert alertCatDevDiag with queue := queue }
      (log.push alertCatDevDiag (s.storedAlert alertCatDevDiag shortRequest ⟨0, 0⟩) []) where
  admits := {
    callback := h.admits.callback
    category := rfl
    enabled := by
      change ((s.countAlert alertCatDevDiag).armo alertCatDevDiag).alertsDisable = 0
      rw [ArmoState.countAlert, ArmoState.update_self]
      exact h.admits.enabled
    length := h.admits.length }
  draws := by
    rw [AlertLog.push, List.map_append, h.draws, List.range_succ, ← h.drawn]
    rfl
  category e he := by
    rcases mem_append.mp he with he | he
    · exact h.category e he
    · rw [mem_singleton.mp he]
  length e he := by
    rcases mem_append.mp he with he | he
    · exact h.length e he
    · rw [mem_singleton.mp he]
      change (alertLength shortRequest.alert.size).toNat = sizeofAlert
      decide
  drawn := by
    change Function.update log.drawn alertCatDevDiag (log.drawn alertCatDevDiag + 1) alertCatDevDiag = _
    rw [Function.update_self, h.drawn]

theorem HoldsShort.step {n : Nat} (h : HoldsShort n s log) (hrep : Represents s rs log) (hn : n < 600) :
    ∃ effects s' rs', armoStep s queueShort = some (effects, s') ∧
      Represents s' rs' (log.replay effects) ∧ HoldsShort (n + 1) s' (log.replay effects) := by
  obtain ⟨queue, r, hadd, hrep'⟩ := addAlertToQueue_stored shortRequest ⟨0, 0⟩ hrep h.admits (by decide)
  have hkeep : roomFor shortRequest rs = 0 := (hrep.roomFor_eq _).trans (h.evictedBy hn)
  rw [hkeep] at hadd hrep'
  have hcat : armoIndex (s.storedAlert alertCatDevDiag shortRequest ⟨0, 0⟩).category =
      some alertCatDevDiag := h.admits.category
  have hreplay := log.replay_stored 0 shortRequest.buf hcat
  refine ⟨_, _, rs.drop 0 ++ [r], congrArg (Option.map _) hadd, ?_, ?_⟩
  · rw [hreplay]
    exact hrep'
  · rw [hreplay]
    exact h.push queue

theorem armoRun_concat {s s₁ s₂ : ArmoState} {es : List ArmoEvent} {e : ArmoEvent}
    {effects more : List ArmoEffect} (hrun : armoRun s es = some (effects, s₁))
    (hstep : armoStep s₁ e = some (more, s₂)) : armoRun s (es ++ [e]) = some (effects ++ more, s₂) := by
  induction es generalizing s effects with
  | nil =>
    cases hrun
    rw [nil_append, armoRun_cons hstep]
    simp [armoRun]
  | cons a es ih =>
    obtain ⟨⟨first, s'⟩, hfirst, hmap⟩ := Option.bind_eq_some_iff.mp hrun
    obtain ⟨⟨rest, s''⟩, hrest, hend⟩ := Option.map_eq_some_iff.mp hmap
    cases hend
    rw [cons_append, armoRun_cons hfirst, ih hrest, Option.map_some, append_assoc]

theorem armoRun_queueShort (n : Nat) (hn : n ≤ 600) :
    ∃ effects s rs, armoRun ArmoState.start (replicate n queueShort) = some (effects, s) ∧
      Represents s rs (start.replay effects) ∧
      HoldsShort n s (start.replay effects) := by
  induction n with
  | zero =>
    refine ⟨[], ArmoState.start, [], rfl, represents_start, ⟨⟨rfl, rfl, rfl, by decide⟩, rfl, ?_, ?_, rfl⟩⟩
    · intro e he
      exact nomatch he
    · intro e he
      exact nomatch he
  | succ n ih =>
    obtain ⟨effects, s, rs, hrun, hrep, hshort⟩ := ih (Nat.le_of_succ_le hn)
    obtain ⟨more, s', rs', hstep, hrep', hshort'⟩ := hshort.step hrep hn
    refine ⟨effects ++ more, s', rs', ?_, ?_, ?_⟩
    · rw [replicate_succ']
      exact armoRun_concat hrun hstep
    · rwa [replay_append]
    · rwa [replay_append]

/-- The 65th alert of a category that waits has the id of the first. -/
theorem shortAlerts_share_id : ¬ ∀ es effects s, armoRun ArmoState.start es = some (effects, s) → s.AcksExactly := by
  intro hall
  obtain ⟨effects, s, rs, hrun, hrep, hshort⟩ := armoRun_queueShort 65 (by decide)
  have hdistinct := hrep.acksExactly_iff.mp (hall _ effects s hrun)
  have hids : (start.replay effects).entries.map (fun e => e.alert.id) =
      (range 65).map fun k => nextAlertId alertCatDevDiag (UInt8.ofNat k) := by
    rw [← hshort.draws, map_map]
    refine map_congr_left fun e he => ?_
    rw [hrep.ids e he, hshort.category e he]
    rfl
  have hnodup : ((range 65).map fun k => nextAlertId alertCatDevDiag (UInt8.ofNat k)).Nodup := by
    rw [← hids]
    exact pairwise_map.mpr hdistinct
  have hsame := inj_on_of_nodup_map hnodup (mem_range.mpr (by decide : 0 < 65))
    (mem_range.mpr (by decide : 64 < 65)) ((nextAlertId_eq_iff _ _ 0 64).mpr ⟨rfl, rfl⟩)
  exact absurd hsame (by decide)

end Isa100Gateway
