import Isa100Gateway.Gateway.SapStruct

/-!
# The layout of the reports

How long each record announces itself to be, and what the validators of the records check: that a record ends inside the report, wherever its memory says it ends.
-/

namespace Isa100Gateway

namespace SapStruct

open MemoryProbe

section

variable {m : Nat → UInt8} {n : Nat}

@[simp]
theorem inside_u8 (q : Nat) : Inside n (u8 m q) ↔ q + 1 ≤ n := by simp [Inside, u8]

@[simp]
theorem inside_net16 (q : Nat) : Inside n (net16 m q) ↔ q + 2 ≤ n := by simp [Inside, net16]

@[simp]
theorem inside_raw16 (q : Nat) : Inside n (raw16 m q) ↔ q + 2 ≤ n := by simp [Inside, raw16]

theorem payload_left (this q : Nat) : (n : Int) - this - (q - this) = n - q := by omega

theorem inside_logHex {this : Nat} (h : this ≤ n) : Inside n (logHex this (n - this)) := by
  rw [logHex, inside_touch]
  omega

variable {valid : Nat → Probe Bool} {next : Nat → Probe Nat} {size : Nat → Nat}

theorem checkRecords_value (hnext : ∀ q, (next q).value = q + size q) (this : Nat) (p : Int) (k q : Nat) :
    (checkRecords this p valid next k q).value =
      if ∀ i < k, (valid (place size q i)).value = true then some (place size q k) else none := by
  simp only [checkRecords, value_bind, value_pure, checkAll_value hnext]

theorem checkRecords_isSome (hnext : ∀ q, (next q).value = q + size q) (this : Nat) (p : Int) (k q : Nat) :
    (checkRecords this p valid next k q).value.isSome = true ↔
      ∀ i < k, (valid (place size q i)).value = true := by
  rw [checkRecords_value hnext]
  split_ifs with h
  · exact ⟨fun _ => h, fun _ => rfl⟩
  · exact ⟨fun hnone => (nomatch hnone), fun hall => absurd hall h⟩

theorem inside_checkRecords (hnext : ∀ q, (next q).value = q + size q) {this : Nat} (hthis : this ≤ n) (k q : Nat) :
    Inside n (checkRecords this (n - this) valid next k q) ↔
      ∀ i < k, (∀ j < i, (valid (place size q j)).value = true) → Inside n (valid (place size q i)) ∧
          ((valid (place size q i)).value = true → Inside n (next (place size q i))) := by
  simp only [checkRecords, inside_bind, inside_checkAll hnext, inside_doIf, inside_pure, and_true]
  exact and_iff_left fun _ => inside_logHex hthis

theorem inside_checkRecords_report (hnext : ∀ q, (next q).value = q + size q) (k q : Nat) :
    Inside n (checkRecords 0 n valid next k q) ↔ ∀ i < k, (∀ j < i, (valid (place size q j)).value = true) →
        Inside n (valid (place size q i)) ∧
          ((valid (place size q i)).value = true → Inside n (next (place size q i))) := by
  simpa using inside_checkRecords hnext (Nat.zero_le n) k q

theorem nextOf_value (size : Nat → Probe Nat) (q : Nat) : (nextOf size q).value = q + (size q).value := rfl

@[simp]
theorem inside_nextOf (size : Nat → Probe Nat) (q : Nat) : Inside n (nextOf size q) ↔ Inside n (size q) := by
  simp [nextOf]

@[simp]
theorem inside_touchRecord (size : Nat → Probe Nat) (q : Nat) :
    Inside n (touchRecord size q) ↔ Inside n (size q) ∧ q + (size q).value ≤ n := by
  simp [touchRecord]

theorem checkSize_iff {header : Nat} {size : Probe Nat} (this : Nat) (hheader : header ≤ size.value)
    (hsize : this + header ≤ n → Inside n size) :
    ((checkSize header size this (n - this)).value = true ↔ this + size.value ≤ n) ∧
      Inside n (checkSize header size this (n - this)) := by
  unfold checkSize
  by_cases hshort : (n : Int) - this < header
  · rw [if_pos hshort]
    exact ⟨⟨fun h => (Bool.false_ne_true h).elim, fun h => by omega⟩, inside_pure _⟩
  · rw [if_neg hshort]
    have hinside := hsize (by omega)
    by_cases hlong : (n : Int) - this < size.value
    · have hlog : Inside n (logHex this (n - this)) := inside_logHex (by omega)
      simp only [value_bind, inside_bind, hinside, if_pos hlong, value_pure, inside_pure, hlog, and_true]
      exact ⟨fun h => (Bool.false_ne_true h).elim, fun h => by omega⟩
    · simp only [value_bind, inside_bind, hinside, if_neg hlong, value_pure, inside_pure, and_true]
      exact ⟨fun _ => by omega, fun _ => trivial⟩

section

variable {header : Nat} {start count : Probe Nat} {valid : Nat → Int → Probe Bool} {next : Nat → Probe Nat}
  {size : Nat → Nat} (hnext : ∀ q, (next q).value = q + size q)
include hnext

theorem checkList_value (this : Nat) : (checkList header start count valid next this (n - this)).value = true ↔
      this + header ≤ n ∧ ∀ i < count.value, (valid (place size start.value i)
        (n - (place size start.value i : Nat))).value = true := by
  unfold checkList
  by_cases hshort : (n : Int) - this < header
  · rw [if_pos hshort]
    exact ⟨fun h => (Bool.false_ne_true h).elim, fun h => by omega⟩
  · rw [if_neg hshort]
    simp only [value_bind, value_pure, checkRecords_isSome hnext, payload_left]
    exact ⟨fun h => ⟨by omega, h⟩, fun h => h.2⟩

theorem inside_checkList (this : Nat) : Inside n (checkList header start count valid next this (n - this)) ↔
      (this + header ≤ n → Inside n start ∧ Inside n count ∧ ∀ i < count.value,
        (∀ j < i, (valid (place size start.value j) (n - (place size start.value j : Nat))).value = true) →
          Inside n (valid (place size start.value i) (n - (place size start.value i : Nat))) ∧
            ((valid (place size start.value i) (n - (place size start.value i : Nat))).value = true →
              Inside n (next (place size start.value i)))) := by
  unfold checkList
  by_cases hshort : (n : Int) - this < header
  · rw [if_pos hshort]
    exact ⟨fun _ h => by omega, fun _ => inside_pure _⟩
  · rw [if_neg hshort]
    have hfits : this + header ≤ n := by omega
    simp only [inside_bind, inside_pure, and_true, inside_checkRecords hnext (by omega : this ≤ n),
      payload_left, hfits, true_imp_iff]

theorem checkReport_value : (checkList header start count valid next 0 n).value = true ↔
      header ≤ n ∧ ∀ i < count.value, (valid (place size start.value i)
        (n - (place size start.value i : Nat))).value = true := by
  simpa using checkList_value (n := n) hnext 0

theorem inside_checkReport : Inside n (checkList header start count valid next 0 n) ↔
      (header ≤ n → Inside n start ∧ Inside n count ∧ ∀ i < count.value,
        (∀ j < i, (valid (place size start.value j) (n - (place size start.value j : Nat))).value = true) →
          Inside n (valid (place size start.value i) (n - (place size start.value i : Nat))) ∧
            ((valid (place size start.value i) (n - (place size start.value i : Nat))).value = true →
              Inside n (next (place size start.value i)))) := by
  simpa using inside_checkList (n := n) hnext 0

theorem walkSize_value (this : Nat) :
    (walkSize start count next this).value = place size start.value count.value - this := by
  simp only [walkSize, value_bind, value_pure, walk_value hnext]

theorem inside_walkSize (this : Nat) : Inside n (walkSize start count next this) ↔ Inside n start ∧ Inside n count ∧
      ∀ i < count.value, Inside n (next (place size start.value i)) := by
  simp only [walkSize, inside_bind, inside_pure, and_true, inside_walk hnext]

theorem inside_visitList (visit : Nat → Probe Unit) :
    Inside n (visitList start count visit next) ↔ Inside n start ∧ Inside n count ∧
      ∀ i < count.value, Inside n (visit (place size start.value i)) ∧
        Inside n (next (place size start.value i)) := by
  simp only [visitList, inside_bind, inside_visitAll hnext]

end

end

namespace DeviceListRsp

variable (m : Nat → UInt8)

def stringLen (q : Nat) : Nat := 1 + (u8 m q).value

def stringPlace (d k : Nat) : Nat := place (stringLen m) (d + 28) k

def deviceLen (d : Nat) : Nat := stringPlace m d 5 - d

variable {m} {n d : Nat}

theorem le_stringPlace (d k : Nat) : d + 28 ≤ stringPlace m d k := le_place _ _ k

theorem stringPlace_succ (d k : Nat) :
    stringPlace m d (k + 1) = stringPlace m d k + (1 + (u8 m (stringPlace m d k)).value) := rfl

theorem add_deviceLen (d : Nat) : d + deviceLen m d = stringPlace m d 5 := by
  have := le_stringPlace (m := m) d 5
  rw [deviceLen]
  omega

theorem stringPtr_value (d k : Nat) : (Device.stringPtr m d k).value = stringPlace m d k := by
  induction k with
  | zero => rfl
  | succ k ih =>
    simp only [Device.stringPtr, VisibleString.size, value_bind, value_pure, ih, stringPlace_succ]

theorem inside_stringPtr {k : Nat} (h : stringPlace m d k ≤ n) : Inside n (Device.stringPtr m d k) := by
  induction k with
  | zero => exact inside_pure _
  | succ k ih =>
    rw [stringPlace_succ] at h
    simp only [Device.stringPtr, VisibleString.size, inside_bind, stringPtr_value, inside_u8, inside_pure]
    refine ⟨ih (by omega), ⟨by omega, trivial⟩, trivial⟩

theorem stringsValid_range {k : Nat} (hk : stringPlace m d k ≤ n) (c : Nat) :
    ((Device.stringsValid m d (n - d) ((List.range' k c).map fun k this => Device.stringPtr m this k)
        (stringPlace m d k - d)).value = true ↔ stringPlace m d (k + c) ≤ n) ∧
      (Inside n (Device.stringsValid m d (n - d)
        ((List.range' k c).map fun k this => Device.stringPtr m this k) (stringPlace m d k - d)) ↔
        ∀ j < c, stringPlace m d (k + j) ≠ n) := by
  induction c generalizing k with
  | zero => exact ⟨⟨fun _ => hk, fun _ => rfl⟩, ⟨fun _ j hj => absurd hj (Nat.not_lt_zero j), fun _ => inside_pure _⟩⟩
  | succ c ih =>
    have hstart := le_stringPlace (m := m) d k
    have hnext := stringPlace_succ (m := m) d k
    have hsize : stringPlace m d k - d + (1 + (u8 m (stringPlace m d k)).value) =
        stringPlace m d (k + 1) - d := by omega
    have hptr : Inside n (Device.stringPtr m d k) := inside_stringPtr hk
    have hcheck : ((n : Int) - d < (stringPlace m d (k + 1) - d : Nat)) ↔ n < stringPlace m d (k + 1) := by
      omega
    have hk' : k + 1 + c = k + (c + 1) := by omega
    have hshift : (∀ j < c + 1, stringPlace m d (k + j) ≠ n) ↔
        stringPlace m d k ≠ n ∧ ∀ j < c, stringPlace m d (k + 1 + j) ≠ n := by
      rw [Nat.forall_lt_succ_left']
      simp only [Nat.add_zero, Nat.add_assoc, Nat.add_comm 1]
    simp only [List.range'_succ, List.map_cons, Device.stringsValid, VisibleString.size, value_bind,
      value_pure, inside_bind, inside_pure, and_true, stringPtr_value, hsize, inside_u8, hcheck, hptr,
      true_and]
    rw [hshift]
    by_cases hfits : n < stringPlace m d (k + 1)
    · have hlast : stringPlace m d (k + 1) ≤ stringPlace m d (k + (c + 1)) :=
        place_le_place _ _ (by omega)
      have hlog : Inside n (logHex d (n - d)) := inside_logHex (by omega)
      have hbeyond : ∀ j < c, stringPlace m d (k + 1 + j) ≠ n := by
        intro j _
        have : stringPlace m d (k + 1) ≤ stringPlace m d (k + 1 + j) := place_le_place _ _ (by omega)
        omega
      rw [if_pos hfits]
      simp only [value_bind, value_pure, Bool.false_eq_true, false_iff, inside_bind, inside_pure, hlog, and_true]
      exact ⟨by omega, ⟨fun h => ⟨by omega, hbeyond⟩, fun h => by omega⟩⟩
    · obtain ⟨hvalue, hinside⟩ := ih (k := k + 1) (by omega)
      rw [if_neg hfits, hvalue, hinside, hk']
      exact ⟨Iff.rfl, and_congr_left' ⟨fun h => by omega, fun h => by omega⟩⟩

theorem device_valid (d : Nat) : ((Device.valid m d (n - d)).value = true ↔ d + deviceLen m d ≤ n) ∧
      (Inside n (Device.valid m d (n - d)) ↔ ∀ k < 5, stringPlace m d k ≠ n) := by
  have hall : ∀ k, d + 28 ≤ stringPlace m d k := le_stringPlace d
  rw [add_deviceLen]
  by_cases hshort : n < d + 28
  · have hcheck : (n : Int) - d < 28 := by omega
    have hlast := hall 5
    rw [Device.valid, if_pos hcheck]
    refine ⟨⟨fun h => (Bool.false_ne_true h).elim, fun h => by omega⟩, ⟨fun _ k _ => ?_, fun _ => inside_pure _⟩⟩
    have := hall k
    omega
  · have hcheck : ¬(n : Int) - d < 28 := by omega
    have hfirst : stringPlace m d 0 = d + 28 := rfl
    have h := stringsValid_range (m := m) (n := n) (d := d) (k := 0) (by omega) 5
    simp only [hfirst, Nat.add_sub_cancel_left, Nat.zero_add] at h
    rw [Device.valid, if_neg hcheck]
    exact h

theorem device_size (d : Nat) : (Device.size m d).value = deviceLen m d := by
  have hsum : stringPlace m d 5 = d + (28 + stringLen m (stringPlace m d 0) +
      stringLen m (stringPlace m d 1) + stringLen m (stringPlace m d 2) +
      stringLen m (stringPlace m d 3) + stringLen m (stringPlace m d 4)) := by
    simp only [stringPlace, place]
    omega
  rw [deviceLen, hsum, Nat.add_sub_cancel_left]
  simp only [Device.size, Device.getManufacturerPtr, Device.getModelPtr, Device.getRevisionPtr,
    Device.getDeviceTagPtr, Device.getSerialNoPtr, VisibleString.size, value_bind, value_pure,
    stringPtr_value, stringLen]

theorem device_next (d : Nat) : (Device.next m d).value = d + deviceLen m d := by
  rw [Device.next, nextOf_value, device_size]

theorem inside_device (h : d + deviceLen m d ≤ n) : Inside n (Device.size m d) ∧ Inside n (Device.next m d) ∧
      Inside n (Device.getSerialNoPtr m d) := by
  rw [add_deviceLen] at h
  have hptr : ∀ k < 5, stringPlace m d k + 1 ≤ n := by
    intro k hk
    have := place_add_le (stringLen m) (d + 28) hk
    simp only [stringLen, stringPlace] at *
    omega
  have hstring : ∀ k < 5, Inside n (Device.stringPtr m d k) := fun k hk =>
    inside_stringPtr (Nat.le_of_succ_le (hptr k hk))
  have hsize : Inside n (Device.size m d) := by
    simp only [Device.size, Device.getManufacturerPtr, Device.getModelPtr, Device.getRevisionPtr,
      Device.getDeviceTagPtr, Device.getSerialNoPtr, VisibleString.size, inside_bind, inside_pure,
      stringPtr_value, inside_u8, and_true]
    exact ⟨⟨hstring 0 (by omega), hptr 0 (by omega)⟩, ⟨hstring 1 (by omega), hptr 1 (by omega)⟩,
      ⟨hstring 2 (by omega), hptr 2 (by omega)⟩, ⟨hstring 3 (by omega), hptr 3 (by omega)⟩,
      ⟨hstring 4 (by omega), hptr 4 (by omega)⟩⟩
  exact ⟨hsize, by simpa [Device.next] using hsize, hstring 4 (by omega)⟩

end DeviceListRsp

namespace TopologyReportRsp

variable (m : Nat → UInt8)

def graphLen (q : Nat) : Nat := 4 + (raw16 m (q + 2)).value * 16

def graphPlace (d i : Nat) : Nat :=
  place (graphLen m) (d + 20 + 17 * (raw16 m (d + 16)).value) i

def deviceLen (d : Nat) : Nat := graphPlace m d (net16 m (d + 18)).value - d

variable {m} {n : Nat}

theorem graph_next (q : Nat) : (Graph.next m q).value = q + graphLen m q := rfl

theorem graph_valid (q : Nat) : ((Graph.valid m q (n - q)).value = true ↔ q + graphLen m q ≤ n) ∧
      Inside n (Graph.valid m q (n - q)) := by
  refine checkSize_iff q (Nat.le_add_right 4 _) fun hfits => ?_
  simp only [Graph.size, inside_bind, inside_raw16, inside_pure, and_true]
  omega

theorem inside_graph {q : Nat} (h : q + graphLen m q ≤ n) : Inside n (Graph.size m q) := by
  have hlen : 4 ≤ graphLen m q := Nat.le_add_right 4 _
  simp only [Graph.size, inside_bind, inside_raw16, inside_pure, and_true]
  omega

theorem le_graphPlace (d i : Nat) : d + 20 ≤ graphPlace m d i :=
  Nat.le_trans (Nat.le_add_right _ _) (le_place _ _ i)

theorem add_deviceLen (d : Nat) : d + deviceLen m d = graphPlace m d (net16 m (d + 18)).value := by
  have := le_graphPlace (m := m) d (net16 m (d + 18)).value
  rw [deviceLen]
  omega

theorem device_size (d : Nat) : (Device.size m d).value = deviceLen m d :=
  walkSize_value graph_next d

theorem device_next (d : Nat) : (Device.next m d).value = d + deviceLen m d := by
  rw [Device.next, nextOf_value, device_size]

theorem device_valid (d : Nat) : (Device.valid m d (n - d)).value = true ↔
      d + 20 ≤ n ∧ ∀ i < (net16 m (d + 18)).value,
        graphPlace m d i + graphLen m (graphPlace m d i) ≤ n := by
  simp only [Device.valid, checkList_value graph_next, (graph_valid _).1]
  rfl

theorem inside_device (h : (Device.valid m d (n - d)).value = true) :
    Inside n (Device.size m d) ∧ Inside n (visitList (Device.getGraphPtr m d) (net16 m (d + 18))
      (touchRecord (Graph.size m)) (Graph.next m)) := by
  obtain ⟨hfits, hgraphs⟩ := (device_valid d).1 h
  have hptr : Inside n (Device.getGraphPtr m d) := by
    simp only [Device.getGraphPtr, inside_bind, inside_raw16, inside_pure, and_true]
    omega
  have hcount : Inside n (net16 m (d + 18)) := by
    rw [inside_net16]
    omega
  simp only [Device.size, inside_walkSize graph_next, inside_visitList graph_next, Graph.next,
    inside_nextOf, inside_touchRecord, hptr, hcount, true_and]
  exact ⟨fun i hi => inside_graph (hgraphs i hi),
    fun i hi => ⟨⟨inside_graph (hgraphs i hi), hgraphs i hi⟩, inside_graph (hgraphs i hi)⟩⟩

theorem inside_device_valid (d : Nat) : Inside n (Device.valid m d (n - d)) := by
  rw [Device.valid, inside_checkList graph_next]
  intro hfits
  refine ⟨?_, ?_, fun i _ _ => ⟨(graph_valid _).2, fun hgraph => ?_⟩⟩
  · simp only [Device.getGraphPtr, inside_bind, inside_raw16, inside_pure, and_true]
    omega
  · rw [inside_net16]
    omega
  · rw [Graph.next, inside_nextOf]
    exact inside_graph ((graph_valid _).1.1 hgraph)

end TopologyReportRsp

namespace ScheduleReportRsp

variable (m : Nat → UInt8)

def superframeLen (q : Nat) : Nat := 25 * (net16 m (q + 8)).value + 10

def scheduleLen (d : Nat) : Nat := place (superframeLen m) (d + 18) (net16 m (d + 16)).value - d

variable {m} {n : Nat}

theorem superframe_next (q : Nat) : (Superframe.next m q).value = q + superframeLen m q := rfl

theorem inside_superframe {q : Nat} (h : q + 10 ≤ n) : Inside n (Superframe.size m q) := by
  simp only [Superframe.size, inside_bind, inside_net16, inside_pure, and_true]
  omega

theorem superframe_valid (q : Nat) : ((Superframe.valid m q (n - q)).value = true ↔ q + superframeLen m q ≤ n) ∧
      Inside n (Superframe.valid m q (n - q)) :=
  checkSize_iff q (Nat.le_add_left 10 _) inside_superframe

theorem add_scheduleLen (d : Nat) :
    d + scheduleLen m d = place (superframeLen m) (d + 18) (net16 m (d + 16)).value := by
  have := le_place (superframeLen m) (d + 18) (net16 m (d + 16)).value
  rw [scheduleLen]
  omega

theorem schedule_size (d : Nat) : (DeviceSchedule.size m d).value = scheduleLen m d :=
  walkSize_value superframe_next d

theorem schedule_next (d : Nat) : (DeviceSchedule.next m d).value = d + scheduleLen m d := by
  rw [DeviceSchedule.next, nextOf_value, schedule_size]

theorem schedule_valid (d : Nat) : (DeviceSchedule.valid m d (n - d)).value = true ↔ d + scheduleLen m d ≤ n := by
  simp only [DeviceSchedule.valid, checkList_value superframe_next, (superframe_valid _).1, value_pure]
  have hstart := le_place (superframeLen m) (d + 18) (net16 m (d + 16)).value
  rw [add_scheduleLen]
  constructor
  · exact fun h => (forall_end_le_iff _ h.1).1 h.2
  · exact fun h => ⟨Nat.le_trans hstart h, (forall_end_le_iff _ (Nat.le_trans hstart h)).2 h⟩

theorem superframe_end_le (q : Nat) (h : q + superframeLen m q ≤ n) : q + 10 ≤ n :=
  Nat.le_trans (Nat.add_le_add_left (Nat.le_add_left 10 _) q) h

theorem inside_schedule {d : Nat} (h : d + scheduleLen m d ≤ n) :
    Inside n (DeviceSchedule.size m d) ∧ Inside n (visitList (pure (d + 18)) (net16 m (d + 16))
      (touchRecord (Superframe.size m)) (Superframe.next m)) := by
  rw [add_scheduleLen] at h
  have hstart := Nat.le_trans (le_place (superframeLen m) (d + 18) _) h
  have hcount : Inside n (net16 m (d + 16)) := by
    rw [inside_net16]
    exact hstart
  have hframes := (forall_end_le_iff (superframeLen m) hstart).2 h
  have hsizes := fun i hi => inside_superframe (m := m) (superframe_end_le _ (hframes i hi))
  simp only [DeviceSchedule.size, inside_walkSize superframe_next, inside_visitList superframe_next,
    Superframe.next, inside_nextOf, inside_touchRecord, hcount, inside_pure, value_pure, true_and]
  exact ⟨hsizes, fun i hi => ⟨⟨hsizes i hi, hframes i hi⟩, hsizes i hi⟩⟩

theorem inside_schedule_valid (d : Nat) : Inside n (DeviceSchedule.valid m d (n - d)) := by
  rw [DeviceSchedule.valid, inside_checkList superframe_next]
  intro hfits
  refine ⟨inside_pure _, ?_, fun i _ _ => ⟨(superframe_valid _).2, fun hframe => ?_⟩⟩
  · rw [inside_net16]
    exact hfits
  · rw [Superframe.next, inside_nextOf]
    exact inside_superframe (superframe_end_le _ ((superframe_valid _).1.1 hframe))

end ScheduleReportRsp

/-! ## Contracts and routes -/

namespace ContractsAndRoutes

variable (m : Nat → UInt8)

def elementLen (q : Nat) : Nat := 1 + if (u8 m q).value ≠ 0 then 2 else 16

abbrev elementPlace (r i : Nat) : Nat := place (elementLen m) (r + 5) i

def selectorLen : Nat → Nat
  | 0 => 2 + 16
  | 1 => 2
  | 2 => 16
  | _ => 0

def routeLen (r : Nat) : Nat :=
  elementPlace m r (u8 m (r + 2)).value + selectorLen (u8 m (r + 3)).value - r

/-- The fields of a route are in the range of their codes. -/
def RouteClean (r : Nat) : Prop :=
  (u8 m (r + 3)).value ≤ 3 ∧ ∀ i < (u8 m (r + 2)).value, (u8 m (elementPlace m r i)).value ≤ 1

/-- A route without elements and with an unknown selector, less than 8 bytes before the end of the report. -/
def TruncatedRoute (n r : Nat) : Prop :=
  r + 5 ≤ n ∧ n < r + 8 ∧ (u8 m (r + 2)).value = 0 ∧ 3 < (u8 m (r + 3)).value

def routePlace (d j : Nat) : Nat := place (routeLen m) (d + 18 + 45 * (u8 m (d + 16)).value) j

def deviceLen (d : Nat) : Nat := routePlace m d (u8 m (d + 17)).value - d

def DeviceClean (d : Nat) : Prop := ∀ j < (u8 m (d + 17)).value, RouteClean m (routePlace m d j)

variable {m} {n : Nat}

theorem element_next (q : Nat) : (RouteElement.next m q).value = q + elementLen m q := rfl

theorem three_le_elementLen (q : Nat) : 3 ≤ elementLen m q := by
  unfold elementLen
  split_ifs <;> omega

theorem inside_element {q : Nat} (h : q + 1 ≤ n) : Inside n (RouteElement.size m q) := by
  simpa only [RouteElement.size, inside_bind, inside_u8, inside_pure, and_true] using h

theorem element_valid (q : Nat) : ((RouteElement.valid m q (n - q)).value = true ↔
        q + elementLen m q ≤ n ∧ (u8 m q).value ≤ 1) ∧
      Inside n (RouteElement.valid m q (n - q)) := by
  have hlen := three_le_elementLen (m := m) q
  have hsize : (RouteElement.size m q).value = elementLen m q := rfl
  unfold RouteElement.valid
  by_cases hshort : (n : Int) - q < 1
  · rw [if_pos hshort]
    exact ⟨⟨fun h => (Bool.false_ne_true h).elim, fun h => by omega⟩, inside_pure _⟩
  · rw [if_neg hshort]
    have hinside : Inside n (RouteElement.size m q) := inside_element (by omega)
    have hflag : q + 1 ≤ n := by omega
    have hlog : Inside n (logHex q (n - q)) := inside_logHex (by omega)
    simp only [value_bind, inside_bind, hinside, hsize, inside_u8, hflag, true_and]
    split_ifs with hbad
    · refine ⟨⟨False.elim, fun h => by omega⟩, ?_⟩
      rw [inside_bind]
      exact ⟨hlog, inside_pure _⟩
    · exact ⟨⟨fun _ => by omega, fun _ => rfl⟩, inside_pure _⟩

theorem selectorSize_value (r : Nat) : ∀ k, (Route.selectorSize r k).value = selectorLen k
  | 0 => rfl
  | 1 => rfl
  | 2 => rfl
  | 3 => rfl
  | _ + 4 => rfl

theorem inside_selectorSize (r : Nat) : ∀ k, Inside n (Route.selectorSize r k) ↔ (3 < k → r + 8 ≤ n)
  | 0 => by simp [Route.selectorSize]
  | 1 => by simp [Route.selectorSize]
  | 2 => by simp [Route.selectorSize]
  | 3 => by simp [Route.selectorSize]
  | k + 4 => by
    simp only [Route.selectorSize, inside_bind, inside_touch, inside_pure, and_true]
    omega

theorem le_elementPlace (r i : Nat) : r + 5 ≤ elementPlace m r i := le_place _ _ i

theorem add_routeLen (r : Nat) : r + routeLen m r =
    elementPlace m r (u8 m (r + 2)).value + selectorLen (u8 m (r + 3)).value := by
  have := le_elementPlace (m := m) r (u8 m (r + 2)).value
  rw [routeLen]
  omega

theorem route_size (r : Nat) : (Route.size m r).value = routeLen m r := by
  simp only [Route.size, value_bind, value_pure, walk_value element_next, selectorSize_value]
  rfl

theorem route_next (r : Nat) : (Route.next m r).value = r + routeLen m r := by
  rw [Route.next, nextOf_value, route_size]

theorem inside_route_size {r : Nat} (hfits : r + 5 ≤ n)
    (helements : ∀ i < (u8 m (r + 2)).value, elementPlace m r i + 1 ≤ n) :
    Inside n (Route.size m r) ↔ (3 < (u8 m (r + 3)).value → r + 8 ≤ n) := by
  have hall : ∀ i < (u8 m (r + 2)).value,
      Inside n (RouteElement.next m (place (elementLen m) (r + 5) i)) := by
    intro i hi
    rw [RouteElement.next, inside_nextOf]
    exact inside_element (helements i hi)
  simp only [Route.size, inside_bind, inside_u8, inside_walk element_next, inside_selectorSize, inside_pure, and_true]
  exact ⟨fun h => h.2.2.2, fun h => ⟨by omega, hall, by omega, h⟩⟩

theorem route_valid (r : Nat) : ((Route.valid m r (n - r)).value = true ↔ r + routeLen m r ≤ n ∧ RouteClean m r) ∧
      (Inside n (Route.valid m r (n - r)) ↔ ¬TruncatedRoute m n r) := by
  have hend := le_elementPlace (m := m) r (u8 m (r + 2)).value
  have hlen := add_routeLen (m := m) r
  by_cases hshort : (n : Int) - r < 5
  · rw [Route.valid, if_pos hshort]
    refine ⟨⟨fun h => (Bool.false_ne_true h).elim, fun h => by omega⟩, ⟨fun _ h => ?_, fun _ => inside_pure _⟩⟩
    have := h.1
    omega
  have hfits : r + 5 ≤ n := by omega
  have hrecords : Inside n (checkRecords r (n - r) (fun q => RouteElement.valid m q (n - q))
      (RouteElement.next m) (u8 m (r + 2)).value (r + 5)) := by
    rw [inside_checkRecords element_next (by omega)]
    refine fun i _ _ => ⟨(element_valid _).2, fun h => ?_⟩
    have helement := ((element_valid _).1.1 h).1
    have := three_le_elementLen (m := m) (place (elementLen m) (r + 5) i)
    rw [RouteElement.next, inside_nextOf]
    exact inside_element (by omega)
  have hcount : r + 2 + 1 ≤ n := by omega
  rw [Route.valid, if_neg hshort]
  simp only [value_bind, inside_bind, inside_u8, payload_left, hrecords, checkRecords_value element_next,
    (element_valid _).1, hcount, true_and]
  by_cases hall : ∀ i < (u8 m (r + 2)).value, elementPlace m r i + elementLen m (elementPlace m r i) ≤ n ∧
      (u8 m (elementPlace m r i)).value ≤ 1
  · have helements : ∀ i < (u8 m (r + 2)).value, elementPlace m r i + 1 ≤ n := by
      intro i hi
      have := (hall i hi).1
      have := three_le_elementLen (m := m) (elementPlace m r i)
      omega
    have hsize := inside_route_size hfits helements
    have hlog : Inside n (logHex r (n - r)) := inside_logHex (by omega)
    have halternative : r + 3 + 1 ≤ n := by omega
    rw [if_pos hall, if_neg (Option.some_ne_none _)]
    simp only [value_bind, inside_bind, route_size, inside_u8, hsize, halternative, true_and]
    constructor
    · split_ifs with hbad
      · refine ⟨False.elim, fun h => ?_⟩
        have := h.2.1
        omega
      · exact ⟨fun _ => ⟨by omega, by omega, fun i hi => (hall i hi).2⟩, fun _ => rfl⟩
    · have hrest : Inside n (if (n : Int) - r < routeLen m r ∨ (u8 m (r + 3)).value > 3 then do
            logHex r (n - r)
            pure false
          else pure true) := by
        split_ifs
        · rw [inside_bind]
          exact ⟨hlog, inside_pure _⟩
        · exact inside_pure _
      rw [and_iff_left hrest]
      constructor
      · rintro h ⟨-, hnear, -, hunknown⟩
        exact Nat.not_le_of_lt hnear (h hunknown)
      · -- an element before the selector leaves room for what the message reads
        intro h hunknown
        by_contra hnear
        refine h ⟨hfits, by omega, ?_, hunknown⟩
        by_contra hsome
        have hfirst := hall 0 (by omega)
        have hplace : elementPlace m r 0 = r + 5 := rfl
        have := three_le_elementLen (m := m) (elementPlace m r 0)
        omega
  · rw [if_neg hall, if_pos rfl]
    refine ⟨⟨fun h => (Bool.false_ne_true h).elim, fun h => absurd ?_ hall⟩,
      ⟨fun _ h => hall ?_, fun _ => inside_pure _⟩⟩
    · have hfit : elementPlace m r (u8 m (r + 2)).value ≤ n := by omega
      exact fun i hi => ⟨(forall_end_le_iff (elementLen m) hfits).2 hfit i hi, h.2.2 i hi⟩
    · intro i hi
      have := h.2.2.1
      omega

theorem le_routePlace (d j : Nat) : d + 18 + 45 * (u8 m (d + 16)).value ≤ routePlace m d j := le_place _ _ j

theorem add_deviceLen (d : Nat) : d + deviceLen m d = routePlace m d (u8 m (d + 17)).value := by
  have := le_routePlace (m := m) d (u8 m (d + 17)).value
  rw [deviceLen]
  omega

theorem device_size (d : Nat) : (DeviceContractsAndRoutes.size m d).value = deviceLen m d :=
  walkSize_value route_next d

theorem device_next (d : Nat) : (DeviceContractsAndRoutes.next m d).value = d + deviceLen m d := by
  rw [DeviceContractsAndRoutes.next, nextOf_value, device_size]

theorem device_valid (d : Nat) : (DeviceContractsAndRoutes.valid m d (n - d)).value = true ↔
      d + 18 ≤ n ∧ ∀ j < (u8 m (d + 17)).value,
        routePlace m d j + routeLen m (routePlace m d j) ≤ n ∧ RouteClean m (routePlace m d j) := by
  simp only [DeviceContractsAndRoutes.valid, checkList_value route_next, (route_valid _).1]
  rfl

theorem device_valid_of_clean {d : Nat} (h : d + deviceLen m d ≤ n) (hclean : DeviceClean m d) :
    (DeviceContractsAndRoutes.valid m d (n - d)).value = true := by
  rw [add_deviceLen] at h
  have hstart := le_routePlace (m := m) d (u8 m (d + 17)).value
  rw [device_valid]
  exact ⟨by omega, fun j hj => ⟨(forall_end_le_iff (routeLen m) (by omega)).2 h j hj, hclean j hj⟩⟩

theorem inside_route {r : Nat} (hfits : r + routeLen m r ≤ n) (hclean : RouteClean m r) :
    Inside n (Route.size m r) ∧ Inside n (visitList (pure (r + 5)) (u8 m (r + 2))
      (touchRecord (RouteElement.size m)) (RouteElement.next m)) := by
  have hend := le_elementPlace (m := m) r (u8 m (r + 2)).value
  rw [add_routeLen] at hfits
  have hstart : r + 5 ≤ n := by omega
  have hcount : Inside n (u8 m (r + 2)) := by
    rw [inside_u8]
    omega
  have helements := (forall_end_le_iff (elementLen m) (k := (u8 m (r + 2)).value) hstart).2
    (Nat.le_trans (Nat.le_add_right _ _) hfits)
  have hflags : ∀ i < (u8 m (r + 2)).value, elementPlace m r i + 1 ≤ n := by
    intro i hi
    have := helements i hi
    have := three_le_elementLen (m := m) (elementPlace m r i)
    simp only [elementPlace] at *
    omega
  have hsizes := fun i hi => inside_element (m := m) (hflags i hi)
  refine ⟨(inside_route_size hstart hflags).2 fun h => absurd hclean.1 (by omega), ?_⟩
  simp only [inside_visitList element_next, RouteElement.next, inside_nextOf, inside_touchRecord, hcount,
    inside_pure, value_pure, true_and]
  exact fun i hi => ⟨⟨hsizes i hi, helements i hi⟩, hsizes i hi⟩

theorem inside_device {d : Nat} (h : (DeviceContractsAndRoutes.valid m d (n - d)).value = true) :
    Inside n (DeviceContractsAndRoutes.size m d) ∧
      Inside n (visitList (DeviceContractsAndRoutes.getRoutePtr m d) (u8 m (d + 17)) (fun q => do
        touchRecord (Route.size m) q
        visitList (pure (q + 5)) (u8 m (q + 2)) (touchRecord (RouteElement.size m)) (RouteElement.next m))
        (Route.next m)) := by
  obtain ⟨hfits, hroutes⟩ := device_valid d |>.1 h
  have hptr : Inside n (DeviceContractsAndRoutes.getRoutePtr m d) := by
    simp only [DeviceContractsAndRoutes.getRoutePtr, inside_bind, inside_u8, inside_pure, and_true]
    omega
  have hcount : Inside n (u8 m (d + 17)) := by
    rw [inside_u8]
    omega
  have hroute := fun j hj => inside_route (hroutes j hj).1 (hroutes j hj).2
  simp only [DeviceContractsAndRoutes.size, inside_walkSize route_next, inside_visitList route_next, Route.next,
    inside_nextOf, inside_bind, inside_touchRecord, route_size, hptr, hcount, true_and]
  exact ⟨fun j hj => (hroute j hj).1,
    fun j hj => ⟨⟨⟨(hroute j hj).1, (hroutes j hj).1⟩, (hroute j hj).2⟩, (hroute j hj).1⟩⟩

theorem inside_device_valid (d : Nat) :
    Inside n (DeviceContractsAndRoutes.valid m d (n - d)) ↔ (d + 18 ≤ n → ∀ j < (u8 m (d + 17)).value,
        (∀ i < j, routePlace m d i + routeLen m (routePlace m d i) ≤ n ∧
          RouteClean m (routePlace m d i)) → ¬TruncatedRoute m n (routePlace m d j)) := by
  rw [DeviceContractsAndRoutes.valid, inside_checkList route_next]
  refine imp_congr_right fun hfits => ?_
  have hptr : Inside n (DeviceContractsAndRoutes.getRoutePtr m d) := by
    simp only [DeviceContractsAndRoutes.getRoutePtr, inside_bind, inside_u8, inside_pure, and_true]
    omega
  have hcount : Inside n (u8 m (d + 17)) := by
    rw [inside_u8]
    omega
  simp only [hptr, hcount, true_and, (route_valid _).1, (route_valid _).2]
  constructor
  · exact fun h j hj hbefore => (h j hj hbefore).1
  · refine fun h j hj hbefore => ⟨h j hj hbefore, fun hroute => ?_⟩
    rw [Route.next, inside_nextOf]
    exact (inside_route hroute.1 hroute.2).1

end ContractsAndRoutes

end SapStruct

end Isa100Gateway
