import Isa100Gateway.Lib.Run
import Mathlib.Algebra.Order.BigOperators.Group.List
import Mathlib.Algebra.Order.Ring.Nat
import Mathlib.Data.UInt

/-!
# Failure rates of an edge (`Edge.cpp`)

An edge keeps the last reports of its sender and their sums over a long and a short window. A report enters both windows; what leaves them is subtracted. The history of a run holds the reports since the last reset, newest first.
-/

namespace Isa100Gateway.EdgeDiagnostics

open List

section Windows

variable {α : Type*} {x : α} {reports : List α} {old new : Nat}

theorem take_cons_of_grow (h : min (reports.length + 1) new = min reports.length old + 1) :
    (x :: reports).take new = x :: reports.take old := by
  obtain ⟨new, rfl⟩ := Nat.exists_eq_succ_of_ne_zero (by omega : new ≠ 0)
  rw [take_succ_cons, cons_inj_right, take_eq_take_iff]
  omega

theorem take_of_slide (h : new + 1 = min reports.length old) (hlt : new < reports.length) :
    reports.take old = reports.take new ++ [reports[new]] := by
  rw [take_append_getElem hlt, take_eq_take_iff]
  omega

theorem getElem?_reverse_take (h : new + 1 = min reports.length old) (hlt : new < reports.length) {size : Nat}
    (hsize : new < min reports.length size) :
    (reports.take size).reverse[min reports.length size - (new + 1)]? = some reports[new] := by
  rw [getElem?_reverse (by rw [length_take]; omega), getElem?_take_of_lt (by rw [length_take]; omega),
    length_take, getElem?_eq_getElem (by omega)]
  congr 2
  omega

end Windows

def total (values : List UInt16) : Nat := (values.map UInt16.toNat).sum

theorem toNat_sum (values : List UInt16) : values.sum.toNat = total values % 2 ^ 16 := by
  induction values with
  | nil => rfl
  | cons x values ih =>
    rw [sum_cons, UInt16.toNat_add, ih, Nat.add_mod_mod]
    rfl

structure Window where
  values : List UInt16
  sum : UInt16
  sumShort : UInt16

namespace Window

def empty : Window := ⟨[], 0, 0⟩

def push (w : Window) (x : UInt16) : Window := { w with values := w.values ++ [x], sum := w.sum + x }

def growShort (w : Window) (x : UInt16) : Window := { w with sumShort := w.sumShort + x }

def slideShort (w : Window) (size short x : UInt16) : Option Window :=
  if short ≤ size then
    w.values[(size - short).toNat]?.map fun old => { w with sumShort := w.sumShort - old + x }
  else none

def roll (w : Window) (x : UInt16) : Window :=
  match w.values with
  | [] => w
  | first :: rest => { w with values := rest ++ [x], sum := w.sum - first + x }

/-- The vector and the sums are those of the last `long` and `short` reports. -/
structure Tracks (w : Window) (reports : List UInt16) (long short : Nat) : Prop where
  values : w.values = (reports.take long).reverse
  sum : w.sum = (reports.take long).sum
  sumShort : w.sumShort = (reports.take short).sum

variable {w : Window} {reports : List UInt16} {old oldShort : Nat} {long short x : UInt16}

section

variable (h : w.Tracks reports old oldShort)
include h

theorem Tracks.length : w.values.length = min reports.length old := by
  rw [h.values, length_reverse, length_take, min_comm]

theorem Tracks.push_growShort (hlong : min (reports.length + 1) long.toNat = min reports.length old + 1)
    (hshort : min (reports.length + 1) short.toNat = min reports.length oldShort + 1) :
    ((w.push x).growShort x).Tracks (x :: reports) long.toNat short.toNat := by
  constructor
  · rw [take_cons_of_grow hlong, reverse_cons, ← h.values]
    rfl
  · rw [take_cons_of_grow hlong, sum_cons, ← h.sum, add_comm]
    rfl
  · rw [take_cons_of_grow hshort, sum_cons, ← h.sumShort, add_comm]
    rfl

theorem Tracks.slideShort (hsize : min reports.length old < 2 ^ 16)
    (hshort : short.toNat = min reports.length oldShort) (hpos : 0 < short.toNat)
    (hle : short.toNat ≤ min reports.length old) {values : List UInt16} (sum : UInt16) :
    ∃ w', slideShort ⟨w.values ++ values, sum, w.sumShort⟩ (UInt16.ofNat w.values.length) short x = some w' ∧
      w'.values = w.values ++ values ∧ w'.sum = sum ∧
      w'.sumShort = ((x :: reports).take short.toNat).sum := by
  obtain ⟨new, hnew⟩ := Nat.exists_eq_succ_of_ne_zero hpos.ne'
  have hlt : new < reports.length := by omega
  have hget : (w.values ++ values)[min reports.length old - short.toNat]? = some reports[new] := by
    rw [getElem?_append_left (by rw [h.length]; omega), h.values, hnew]
    exact getElem?_reverse_take (hnew ▸ hshort) hlt (by omega)
  have hindex : (UInt16.ofNat w.values.length - short).toNat = min reports.length old - short.toNat := by
    rw [UInt16.toNat_sub_of_le, UInt16.toNat_ofNat_of_lt', h.length]
    · rwa [h.length]
    · rwa [UInt16.le_iff_toNat_le, UInt16.toNat_ofNat_of_lt' (by rwa [h.length]), h.length]
  have hle' : short ≤ UInt16.ofNat w.values.length := by
    rwa [UInt16.le_iff_toNat_le, UInt16.toNat_ofNat_of_lt' (by rwa [h.length]), h.length]
  have hsplit : reports.take oldShort = reports.take new ++ [reports[new]] := take_of_slide (by omega) hlt
  refine ⟨_, by rw [Window.slideShort, if_pos hle', hindex, hget]; rfl, rfl, rfl, ?_⟩
  change w.sumShort - reports[new] + x = _
  rw [h.sumShort, hsplit, hnew, take_succ_cons, sum_append, sum_singleton, sum_cons, add_sub_cancel_right, add_comm]

theorem Tracks.push_slideShort (hlong : min (reports.length + 1) long.toNat = min reports.length old + 1)
    (hsize : min reports.length old < 2 ^ 16) (hshort : short.toNat = min reports.length oldShort)
    (hpos : 0 < short.toNat) (hle : short.toNat ≤ min reports.length old) :
    ∃ w', (w.push x).slideShort (UInt16.ofNat w.values.length) short x = some w' ∧
      w'.Tracks (x :: reports) long.toNat short.toNat := by
  obtain ⟨w', hw', hvalues, hsum, hsumShort⟩ := h.slideShort (x := x) hsize hshort hpos hle (w.sum + x)
  refine ⟨w', hw', ?_, ?_, hsumShort⟩
  · rw [take_cons_of_grow hlong, reverse_cons, ← h.values, hvalues]
  · rw [take_cons_of_grow hlong, sum_cons, ← h.sum, hsum, add_comm]

theorem Tracks.roll (hlong : long.toNat = min reports.length old)
    (hsize : min reports.length old < 2 ^ 16) (hshort : short.toNat = min reports.length oldShort)
    (hpos : 0 < short.toNat) (hle : short.toNat ≤ min reports.length old) :
    ∃ w', w.slideShort (UInt16.ofNat w.values.length) short x = some w' ∧
      (w'.roll x).Tracks (x :: reports) long.toNat short.toNat := by
  obtain ⟨w', hw', hvalues, hsum, hsumShort⟩ := h.slideShort (x := x) hsize hshort hpos hle w.sum
  obtain ⟨new, hnew⟩ := Nat.exists_eq_succ_of_ne_zero (by omega : long.toNat ≠ 0)
  have hlt : new < reports.length := by omega
  have hsplit : reports.take old = reports.take new ++ [reports[new]] := take_of_slide (by omega) hlt
  have hcons : w'.values = reports[new] :: (reports.take new).reverse := by
    rw [hvalues, append_nil, h.values, hsplit, reverse_append, reverse_singleton, singleton_append]
  have hroll : w'.roll x = ⟨(reports.take new).reverse ++ [x], w'.sum - reports[new] + x, w'.sumShort⟩ := by
    rw [Window.roll, hcons]
  refine ⟨w', by rwa [append_nil] at hw', ?_, ?_, ?_⟩
  · rw [hroll, hnew, take_succ_cons, reverse_cons]
  · rw [hroll, hnew, take_succ_cons, hsum, h.sum, hsplit, sum_append, sum_singleton, sum_cons,
      add_sub_cancel_right, add_comm]
  · rw [hroll, hsumShort]

end

end Window

inductive RsqiLevel
  | excellent
  | good
  | fair
  | poor

def calculateRadioQualityLevel (rsqi : UInt8) : RsqiLevel :=
  if rsqi ≤ 63 then .poor
  else if rsqi ≤ 127 then .fair
  else if rsqi ≤ 191 then .good
  else .excellent

structure Report where
  rssi : Int8
  rsqi : UInt8
  sent : UInt16
  received : UInt16
  failed : UInt16

/-- The fields of `Edge` that reports change; `LastPublishes` is the two windows. -/
structure Edge where
  rssi : Int8
  rsqi : UInt8
  radioQualityLevel : RsqiLevel
  sent : UInt32
  received : UInt32
  failed : UInt32
  publishDiagNo : UInt8
  successSent : Window
  failedSent : Window

namespace Edge

def init : Edge := ⟨-127, 0, .poor, 0, 0, 0, 0, .empty, .empty⟩

def resetEdgeDiagnosticsOnChangeParent (e : Edge) : Edge :=
  { e with publishDiagNo := 0, successSent := .empty, failedSent := .empty }

def count (counter : UInt32) (x : UInt16) : UInt32 :=
  if 0xFFFFFFFF - counter ≤ x.toUInt32 then 0xFFFFFFFF else counter + x.toUInt32

def measure (e : Edge) (r : Report) : Edge :=
  { e with
    rssi := r.rssi
    rsqi := r.rsqi
    radioQualityLevel := calculateRadioQualityLevel r.rsqi
    sent := count e.sent r.sent
    received := count e.received r.received
    failed := count e.failed r.failed }

/-- No result stands for a vector read outside its bounds. -/
def addDiagnostics (e : Edge) (r : Report) (tresholdNoPublish tresholdNoPublishShort : UInt16) : Option Edge :=
  let successSentSize := UInt16.ofNat e.successSent.values.length
  let failedSentSize := UInt16.ofNat e.failedSent.values.length
  if tresholdNoPublish ≠ e.publishDiagNo.toUInt16 then
    let publishDiagNo := e.publishDiagNo + 1
    if publishDiagNo.toUInt16 ≤ tresholdNoPublishShort then
      some { e.measure r with
        publishDiagNo
        successSent := (e.successSent.push r.sent).growShort r.sent
        failedSent := (e.failedSent.push r.failed).growShort r.failed }
    else do
      -- the vectors have just taken the report in, so the test that they are not empty holds
      let failedSent ← (e.failedSent.push r.failed).slideShort failedSentSize tresholdNoPublishShort r.failed
      let successSent ← (e.successSent.push r.sent).slideShort successSentSize tresholdNoPublishShort r.sent
      return { e.measure r with publishDiagNo, successSent, failedSent }
  else if e.successSent.values ≠ [] ∧ e.failedSent.values ≠ [] then do
    let failedSent ← e.failedSent.slideShort failedSentSize tresholdNoPublishShort r.failed
    let successSent ← e.successSent.slideShort successSentSize tresholdNoPublishShort r.sent
    return { e.measure r with successSent := successSent.roll r.sent, failedSent := failedSent.roll r.failed }
  else
    return e.measure r

def percent (failed success : UInt16) : Nat :=
  if 0 < failed.toNat + success.toNat then failed.toNat * 100 / (failed.toNat + success.toNat) else 0

def getFailedTxPercent (e : Edge) : Nat := percent e.failedSent.sum e.successSent.sum

def getFailedTxPercentShort (e : Edge) : Nat := percent e.failedSent.sumShort e.successSent.sumShort

theorem percent_le (failed success : UInt16) : percent failed success ≤ 100 := by
  rw [percent]
  split_ifs with hpos
  · exact Nat.div_le_of_le_mul (Nat.mul_le_mul_right 100 (Nat.le_add_right _ _))
  · exact Nat.zero_le 100

end Edge

structure History where
  reports : List Report
  long : UInt16
  short : UInt16

namespace History

def empty : History := ⟨[], 0, 0⟩

def channel (h : History) (field : Report → UInt16) : List UInt16 := h.reports.map field

def longSize (h : History) : Nat := min h.reports.length h.long.toNat

def shortSize (h : History) : Nat := min h.reports.length h.short.toNat

def add (h : History) (r : Report) (long short : UInt16) : History := ⟨r :: h.reports, long, short⟩

/-- The exact totals of the long window fit the 16-bit sums. -/
def Fits (h : History) : Prop :=
  total ((h.channel Report.sent).take h.long.toNat) < 2 ^ 16 ∧
    total ((h.channel Report.failed).take h.long.toNat) < 2 ^ 16

instance (h : History) : Decidable h.Fits := inferInstanceAs (Decidable (_ ∧ _))

/-- The windows take the new report in as the thresholds ask: a window that the counter lets grow has to grow by one
report, one that the counter lets slide has to be full and of the length asked. -/
def Steady (h : History) (long short : UInt16) : Prop :=
  if long.toNat ≠ h.longSize % 2 ^ 8 then
    min (h.reports.length + 1) long.toNat = h.longSize + 1 ∧
      if (h.longSize + 1) % 2 ^ 8 ≤ short.toNat then
        min (h.reports.length + 1) short.toNat = h.shortSize + 1
      else short.toNat = h.shortSize
  else long.toNat = h.longSize ∧ short.toNat = h.shortSize

instance (h : History) (long short : UInt16) : Decidable (h.Steady long short) := by
  unfold Steady
  infer_instance

end History

inductive Event
  | report (r : Report) (long short : UInt16)
  | reset

def step (s : Edge × History) : Event → Option (Edge × History)
  | .report r long short => (s.1.addDiagnostics r long short).map fun e => (e, s.2.add r long short)
  | .reset => some (s.1.resetEdgeDiagnosticsOnChangeParent, .empty)

def Keeps (s : Edge × History) : Event → Prop
  | .report r long short =>
    0 < short.toNat ∧ short.toNat ≤ long.toNat ∧ s.2.Steady long short ∧ (s.2.add r long short).Fits
  | .reset => True

instance (s : Edge × History) : ∀ a, Decidable (Keeps s a)
  | .report _ _ _ => inferInstanceAs (Decidable (_ ∧ _))
  | .reset => isTrue trivial

structure Measures (e : Edge) (h : History) : Prop where
  success : e.successSent.sum.toNat = total ((h.channel Report.sent).take h.long.toNat)
  failed : e.failedSent.sum.toNat = total ((h.channel Report.failed).take h.long.toNat)
  successShort : e.successSent.sumShort.toNat = total ((h.channel Report.sent).take h.short.toNat)
  failedShort : e.failedSent.sumShort.toNat = total ((h.channel Report.failed).take h.short.toNat)

/-- What a run keeps: the windows, the counter, which is the window's size on eight bits, and the bound of the sums. -/
structure Consistent (e : Edge) (h : History) : Prop where
  success : e.successSent.Tracks (h.channel Report.sent) h.long.toNat h.short.toNat
  failed : e.failedSent.Tracks (h.channel Report.failed) h.long.toNat h.short.toNat
  publishDiagNo : e.publishDiagNo.toNat = h.longSize % 2 ^ 8
  ordered : h.short.toNat ≤ h.long.toNat
  fits : h.Fits

theorem total_take_le (values : List UInt16) {short long : Nat} (hle : short ≤ long) :
    total (values.take short) ≤ total (values.take long) := by
  rw [← min_eq_left hle, ← take_take]
  exact ((take_sublist short _).map UInt16.toNat).sum_le_sum fun _ _ => Nat.zero_le _

theorem Consistent.measures {e : Edge} {h : History} (hc : Consistent e h) : Measures e h := by
  have hsent := total_take_le (h.channel Report.sent) hc.ordered
  have hfailed := total_take_le (h.channel Report.failed) hc.ordered
  obtain ⟨hfitsSent, hfitsFailed⟩ := hc.fits
  constructor
  · rw [hc.success.sum, toNat_sum, Nat.mod_eq_of_lt hfitsSent]
  · rw [hc.failed.sum, toNat_sum, Nat.mod_eq_of_lt hfitsFailed]
  · rw [hc.success.sumShort, toNat_sum, Nat.mod_eq_of_lt (hsent.trans_lt hfitsSent)]
  · rw [hc.failed.sumShort, toNat_sum, Nat.mod_eq_of_lt (hfailed.trans_lt hfitsFailed)]

theorem consistent_empty (e : Edge) : Consistent e.resetEdgeDiagnosticsOnChangeParent .empty :=
  ⟨⟨rfl, rfl, rfl⟩, ⟨rfl, rfl, rfl⟩, rfl, Nat.le_refl 0, by decide⟩

theorem History.longSize_add (h : History) (r : Report) (long short : UInt16) :
    (h.add r long short).longSize = min (h.reports.length + 1) long.toNat := rfl

theorem Consistent.addDiagnostics {e : Edge} {h : History} (hc : Consistent e h) {r : Report} {long short : UInt16}
    (hpos : 0 < short.toNat) (hle : short.toNat ≤ long.toNat) (hsteady : h.Steady long short)
    (hfits : (h.add r long short).Fits) :
    ∃ e', e.addDiagnostics r long short = some e' ∧ Consistent e' (h.add r long short) := by
  have hlength : ∀ field, (h.channel field).length = h.reports.length := fun _ => length_map _
  have hsize : min h.reports.length h.long.toNat < 2 ^ 16 := (Nat.min_le_right _ _).trans_lt h.long.toNat_lt
  have hordered := hc.ordered
  have hdiag : long = e.publishDiagNo.toUInt16 ↔ long.toNat = h.longSize % 2 ^ 8 := by
    rw [← UInt16.toNat_inj, UInt8.toNat_toUInt16, hc.publishDiagNo]
  have hnext : (e.publishDiagNo + 1).toNat = (h.longSize + 1) % 2 ^ 8 := by
    rw [UInt8.toNat_add, hc.publishDiagNo, UInt8.toNat_one, Nat.mod_add_mod]
  have hcount : (e.publishDiagNo + 1).toUInt16 ≤ short ↔ (h.longSize + 1) % 2 ^ 8 ≤ short.toNat := by
    rw [UInt16.le_iff_toNat_le, UInt8.toNat_toUInt16, hnext]
  rw [History.Steady] at hsteady
  rw [Edge.addDiagnostics]
  by_cases hroll : long.toNat = h.longSize % 2 ^ 8
  · obtain ⟨hlong, hshort⟩ := (if_neg (not_not.mpr hroll)).mp hsteady
    unfold History.longSize History.shortSize at *
    obtain ⟨ws, hws, hsent⟩ := hc.success.roll (x := r.sent) (by rwa [hlength]) (by rwa [hlength])
      (by rwa [hlength]) hpos
      (by rw [hlength]; omega)
    obtain ⟨wf, hwf, hfailed⟩ := hc.failed.roll (x := r.failed) (by rwa [hlength]) (by rwa [hlength])
      (by rwa [hlength]) hpos
      (by rw [hlength]; omega)
    have hfull : e.successSent.values ≠ [] ∧ e.failedSent.values ≠ [] := by
      rw [← length_pos_iff, ← length_pos_iff, hc.success.length, hc.failed.length, hlength, hlength]
      omega
    rw [if_neg (not_not.mpr (hdiag.mpr hroll)), if_pos hfull, hws, hwf]
    refine ⟨_, rfl, hsent, hfailed, ?_, hle, hfits⟩
    rw [History.longSize_add]
    change e.publishDiagNo.toNat = _
    rw [hc.publishDiagNo, History.longSize]
    omega
  · obtain ⟨hlong, hshort⟩ := (if_pos hroll).mp hsteady
    have hpublish : (e.publishDiagNo + 1).toNat = (h.add r long short).longSize % 2 ^ 8 := by
      rw [hnext, History.longSize_add, hlong]
    rw [if_pos fun heq => hroll (hdiag.mp heq)]
    by_cases hgrow : (h.longSize + 1) % 2 ^ 8 ≤ short.toNat
    · have hshort := (if_pos hgrow).mp hshort
      rw [if_pos (hcount.mpr hgrow)]
      exact ⟨_, rfl, hc.success.push_growShort (by rwa [hlength]) (by rwa [hlength]),
        hc.failed.push_growShort (by rwa [hlength]) (by rwa [hlength]), hpublish, hle, hfits⟩
    · have hshort := (if_neg hgrow).mp hshort
      unfold History.longSize History.shortSize at *
      obtain ⟨ws, hws, hsent⟩ := hc.success.push_slideShort (x := r.sent) (by rwa [hlength]) (by rwa [hlength])
        (by rwa [hlength]) hpos (by rw [hlength]; omega)
      obtain ⟨wf, hwf, hfailed⟩ := hc.failed.push_slideShort (x := r.failed) (by rwa [hlength]) (by rwa [hlength])
        (by rwa [hlength]) hpos (by rw [hlength]; omega)
      rw [if_neg fun heq => hgrow (hcount.mp heq), hws, hwf]
      exact ⟨_, rfl, hsent, hfailed, hpublish, hle, hfits⟩

theorem Consistent.step {s : Edge × History} (hc : Consistent s.1 s.2) {a : Event} (hok : Keeps s a) :
    ∃ s', step s a = some s' ∧ Consistent s'.1 s'.2 := by
  cases a with
  | report r long short =>
    obtain ⟨hpos, hle, hsteady, hfits⟩ := hok
    obtain ⟨e', he', hc'⟩ := hc.addDiagnostics hpos hle hsteady hfits
    exact ⟨(e', _), by rw [EdgeDiagnostics.step, he']; rfl, hc'⟩
  | reset => exact ⟨_, rfl, consistent_empty s.1⟩

theorem reached_consistent {s : Edge × History} (h : Machine.Reaches (Edge.init, .empty) step Keeps s) :
    Consistent s.1 s.2 := by
  apply h.invariant (P := fun s => Consistent s.1 s.2) (consistent_empty Edge.init)
  intro s a s' hc hok hstep
  obtain ⟨t, ht, hct⟩ := hc.step hok
  obtain rfl : t = s' := Option.some.inj (ht.symm.trans hstep)
  exact hct

/-- In every run of reports that meet `Keeps` and of resets, the sums are those of the last reports and the next such
step has a result. The percentages are in range for any edge. -/
theorem addDiagnostics_measures {s : Edge × History} (h : Machine.Reaches (Edge.init, .empty) step Keeps s) :
    Measures s.1 s.2 ∧ (∀ a, Keeps s a → (step s a).isSome) ∧
      ∀ e : Edge, e.getFailedTxPercent ≤ 100 ∧ e.getFailedTxPercentShort ≤ 100 := by
  have hc := reached_consistent h
  refine ⟨hc.measures, ?_, fun e => ⟨Edge.percent_le _ _, Edge.percent_le _ _⟩⟩
  intro a hok
  obtain ⟨s', hs', -⟩ := hc.step hok
  rw [hs', Option.isSome_some]

def reportOf (sent failed : UInt16) : Report := ⟨-60, 200, sent, 0, failed⟩

def fullWindow : List Event :=
  [.report (reportOf 5 1) 2 1, .report (reportOf 7 0) 2 1, .report (reportOf 9 3) 2 1]

theorem addDiagnostics_measures_full_window :
    ∃ s, Machine.runs step (Edge.init, .empty) fullWindow = some s ∧ s.1.successSent.sum = 16 ∧ Measures s.1 s.2 :=
  have halong : Machine.AllAlong Keeps step (Edge.init, .empty) fullWindow := by decide
  ⟨_, rfl, rfl, (addDiagnostics_measures (Machine.reaches_runs halong rfl)).1⟩

/-- After the long threshold fell from two reports to one, the sum still counts three. -/
theorem addDiagnostics_counts_beyond_lowered_threshold : ∃ s, Machine.runs step (Edge.init, .empty)
        [.report (reportOf 1 0) 2 1, .report (reportOf 1 0) 2 1, .report (reportOf 1 0) 1 1] = some s ∧
      ¬ Measures s.1 s.2 :=
  ⟨_, rfl, fun h => absurd h.success (by decide)⟩

end Isa100Gateway.EdgeDiagnostics
