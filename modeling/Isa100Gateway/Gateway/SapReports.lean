import Isa100Gateway.Gateway.SapConsumers
import Isa100Gateway.Gateway.SapLayout

/-!
# What the validators of the reports protect

For each report, exactly when its validator stays inside the bytes received and protects the walkers and consumers.
-/

namespace Isa100Gateway

open MemoryProbe SapStruct ContractsAndRoutes DeviceHealthRsp DeviceListRsp SapReport ScheduleReportRsp
    TopologyReportRsp

section

variable {m : Nat → UInt8} {n : Nat}

theorem inside_isNetworkAddress (address : List UInt8) (q : Nat) :
    Inside n (isNetworkAddress m address q) ↔ q + 16 ≤ n := by
  simp [isNetworkAddress, readAddress, Inside, bind, pure]

namespace SapStruct.DeviceListRsp

abbrev devicePlace (m : Nat → UInt8) (i : Nat) : Nat := place (deviceLen m) 2 i

theorem valid_iff : (valid m n).value = true ↔ 2 ≤ n ∧ devicePlace m (net16 m 0).value ≤ n := by
  rw [valid, checkReport_value device_next]
  refine and_congr_right fun hfits => ?_
  simp only [(device_valid _).1, value_pure]
  exact forall_end_le_iff _ hfits

theorem device_end_le (h : (valid m n).value = true) {i : Nat} (hi : i < (net16 m 0).value) :
    devicePlace m i + deviceLen m (devicePlace m i) ≤ n := by
  obtain ⟨hfits, hend⟩ := valid_iff.1 h
  exact (forall_end_le_iff _ hfits).2 hend i hi

theorem inside_valid : Inside n (valid m n) ↔
    (2 ≤ n → ∀ i < (net16 m 0).value, ∀ k < 5, stringPlace m (devicePlace m i) k ≠ n) := by
  rw [valid, inside_checkReport device_next]
  refine imp_congr_right fun hfits => ?_
  simp only [inside_pure, inside_net16, hfits, true_and, value_pure, device_valid]
  constructor
  · intro h i hi k hk hcut
    -- the devices before a string that begins at the end of the report lie inside it
    have hstart := le_stringPlace (m := m) (devicePlace m i) k
    have hplace : devicePlace m i ≤ n := by omega
    exact (h i hi ((forall_end_le_iff _ hfits).2 hplace)).1 k hk hcut
  · exact fun h i hi _ => ⟨h i hi, fun hend => (inside_device hend).2.1⟩

theorem inside_count (h : (valid m n).value = true) : Inside n (net16 m 0) := by
  rw [inside_net16]
  exact (valid_iff.1 h).1

theorem size_spec (h : (valid m n).value = true) : (size m).value ≤ n ∧ Inside n (size m) := by
  rw [size, walkSize_value device_next, inside_walkSize device_next]
  exact ⟨Nat.le_trans (Nat.sub_le _ _) (valid_iff.1 h).2, inside_pure _, inside_count h,
    fun i hi => (inside_device (device_end_le h hi)).2.1⟩

theorem inside_elements (h : (valid m n).value = true) : Inside n (elements m) := by
  rw [elements, inside_visitList device_next]
  refine ⟨inside_pure _, inside_count h, fun i hi => ?_⟩
  have hend := device_end_le h hi
  have hdevice := inside_device hend
  have hstring : stringPlace m (devicePlace m i) 4 +
      (VisibleString.size m (stringPlace m (devicePlace m i) 4)).value ≤ n := by
    rw [add_deviceLen] at hend
    exact hend
  have hread : stringPlace m (devicePlace m i) 4 + 1 ≤ n :=
    Nat.le_trans (Nat.add_le_add_left (Nat.le_add_right 1 _) _) hstring
  refine ⟨?_, hdevice.2.1⟩
  simp only [inside_bind, inside_touchRecord, device_size]
  refine ⟨⟨hdevice.1, hend⟩, hdevice.2.2, ?_, ?_⟩
  · simpa [VisibleString.size, Device.getSerialNoPtr, stringPtr_value] using hread
  · rwa [Device.getSerialNoPtr, stringPtr_value]

end SapStruct.DeviceListRsp

theorem inside_formatReportDeviceList (h : (DeviceListRsp.valid m n).value = true) (details : List UInt8) :
    Inside n (formatReportDeviceList m n details) := by
  have haddress : ∀ i < (net16 m 0).value, devicePlace m i + 16 ≤ n := by
    intro i hi
    have hend := device_end_le h hi
    have := le_stringPlace (m := m) (devicePlace m i) 5
    rw [DeviceListRsp.add_deviceLen] at hend
    omega
  have hfind : Inside n (findRecord (isNetworkAddress m details) (DeviceListRsp.Device.next m)
      (net16 m 0).value 2) :=
    inside_findRecord DeviceListRsp.device_next fun i hi =>
      ⟨(inside_isNetworkAddress _ _).2 (haddress i hi),
        (inside_device (device_end_le h hi)).2.1⟩
  unfold formatReportDeviceList
  split
  · exact inside_pure _
  · rw [inside_bind]
    refine ⟨(size_spec h).2, ?_⟩
    split
    · exact inside_pure _
    · simp only [inside_bind]
      refine ⟨inside_count h, hfind, ?_⟩
      split
      · exact inside_pure _
      · rename_i q hq
        obtain ⟨i, hi, rfl⟩ := place_of_findRecord DeviceListRsp.device_next hq
        have hend := device_end_le h hi
        simp only [inside_bind, inside_touch, inside_pure, and_true, DeviceListRsp.device_size]
        exact ⟨(DeviceListRsp.inside_device hend).1, hend⟩

namespace SapStruct.TopologyReportRsp

abbrev devicePlace (m : Nat → UInt8) (i : Nat) : Nat := place (deviceLen m) 4 i

def reportEnd (m : Nat → UInt8) : Nat := (net16 m 2).value * 18 + devicePlace m (net16 m 0).value

theorem device_of_end (h : devicePlace m (net16 m 0).value ≤ n) {i : Nat} (hi : i < (net16 m 0).value) :
    (Device.valid m (devicePlace m i) (n - (devicePlace m i : Nat))).value = true := by
  have hend : devicePlace m i + deviceLen m (devicePlace m i) ≤ n :=
    Nat.le_trans (place_add_le _ _ hi) h
  have hstart := le_graphPlace (m := m) (devicePlace m i) (net16 m (devicePlace m i + 18)).value
  rw [add_deviceLen] at hend
  rw [device_valid]
  refine ⟨by omega, fun j hj => Nat.le_trans ?_ hend⟩
  exact place_add_le (graphLen m) _ hj

theorem inside_checkDevices :
    Inside n (checkRecords 0 n (fun q => Device.valid m q (n - q)) (Device.next m) (net16 m 0).value 4) := by
  rw [inside_checkRecords_report device_next]
  refine fun i _ _ => ⟨inside_device_valid _, fun hdevice => ?_⟩
  rw [Device.next, inside_nextOf]
  exact (inside_device hdevice).1

theorem valid_spec : ((valid m n).value = true ↔ 4 ≤ n ∧ reportEnd m ≤ n) ∧ Inside n (valid m n) := by
  unfold valid
  by_cases hshort : (n : Int) < 4
  · rw [if_pos hshort]
    exact ⟨⟨fun h => (Bool.false_ne_true h).elim, fun h => by omega⟩, inside_pure _⟩
  · have hfits : 4 ≤ n := by omega
    have hlog : Inside n (logHex 0 n) := by
      rw [logHex, inside_touch]
      omega
    rw [if_neg hshort]
    simp only [value_bind, inside_bind, inside_net16, inside_checkDevices, checkRecords_value device_next, true_and]
    by_cases hall : ∀ i < (net16 m 0).value,
        (Device.valid m (devicePlace m i) (n - (devicePlace m i : Nat))).value = true
    · rw [if_pos hall]
      simp only [value_bind, inside_bind, inside_net16]
      have hvalue : (((net16 m 2).value * 18 + devicePlace m (net16 m 0).value : Nat) : Int) =
        (reportEnd m : Nat) := rfl
      rw [hvalue]
      split_ifs with hlong
      · refine ⟨⟨False.elim, fun h => by omega⟩, by omega, by omega, ?_⟩
        rw [inside_bind]
        exact ⟨hlog, inside_pure _⟩
      · exact ⟨⟨fun _ => by omega, fun _ => rfl⟩, by omega, by omega, inside_pure _⟩
    · rw [if_neg hall]
      refine ⟨⟨fun h => (Bool.false_ne_true h).elim, fun h =>
        absurd (fun i hi => device_of_end ?_ hi) hall⟩, by omega, inside_pure _⟩
      exact Nat.le_trans (Nat.le_add_left _ _) h.2

theorem device_of_valid (h : (valid m n).value = true) {i : Nat} (hi : i < (net16 m 0).value) :
    (Device.valid m (devicePlace m i) (n - (devicePlace m i : Nat))).value = true ∧
      devicePlace m i + deviceLen m (devicePlace m i) ≤ n := by
  have hend : devicePlace m (net16 m 0).value ≤ n :=
    Nat.le_trans (Nat.le_add_left _ _) (valid_spec.1.1 h).2
  exact ⟨device_of_end hend hi, Nat.le_trans (place_add_le _ _ hi) hend⟩

theorem size_spec (h : (valid m n).value = true) : (size m).value ≤ n ∧ Inside n (size m) := by
  obtain ⟨hfits, hend⟩ := valid_spec.1.1 h
  simp only [size, value_bind, value_pure, walk_value device_next, inside_bind, inside_net16,
    inside_walk device_next, inside_pure, and_true, Device.next, inside_nextOf]
  exact ⟨hend, by omega, fun i hi => (inside_device (device_of_valid h hi).1).1, hfits⟩

/-- The backbones that `GET_Backbone_PTR` reaches are those after as many devices without neighbors and graphs as the host reads in the network's byte order. -/
theorem inside_elements (h : (valid m n).value = true) : Inside n (elements m) ↔
    ((net16 m 2).value = 0 ∨ 4 + 20 * (raw16 m 0).value + 18 * (net16 m 2).value ≤ n) := by
  obtain ⟨hfits, hend⟩ := valid_spec.1.1 h
  have hdevices : Inside n (visitList (pure 4) (net16 m 0) (fun q => do
      touchRecord (Device.size m) q
      visitList (Device.getGraphPtr m q) (net16 m (q + 18)) (touchRecord (Graph.size m)) (Graph.next m))
      (Device.next m)) := by
    rw [inside_visitList device_next, inside_net16]
    refine ⟨inside_pure _, by omega, fun i hi => ?_⟩
    obtain ⟨hdevice, hdeviceEnd⟩ := device_of_valid h hi
    obtain ⟨hsize, hgraphs⟩ := inside_device hdevice
    simp only [inside_bind, inside_touchRecord, device_size, Device.next, inside_nextOf]
    exact ⟨⟨⟨hsize, hdeviceEnd⟩, hgraphs⟩, hsize⟩
  simp only [elements, inside_bind, hdevices, inside_net16, inside_doIf, getBackbonePtr, inside_raw16, inside_pure,
    value_bind, value_pure, inside_touch, true_and, and_true, ne_eq]
  omega

end SapStruct.TopologyReportRsp

namespace SapStruct.ScheduleReportRsp

abbrev devicePlace (m : Nat → UInt8) (i : Nat) : Nat := place (scheduleLen m) (3 + 2 * (u8 m 0).value) i

theorem valid_iff : (valid m n).value = true ↔
    3 ≤ n ∧ ∀ i < (net16 m 1).value, devicePlace m i + scheduleLen m (devicePlace m i) ≤ n := by
  rw [valid, checkReport_value schedule_next]
  simp only [schedule_valid]
  rfl

theorem inside_getDeviceSchedulePtr (h : 3 ≤ n) : Inside n (getDeviceSchedulePtr m) := by
  simp only [getDeviceSchedulePtr, inside_bind, inside_u8, inside_pure, and_true]
  omega

theorem inside_count (h : 3 ≤ n) : Inside n (net16 m 1) := by
  rw [inside_net16]
  exact h

theorem inside_next {d : Nat} (h : d + scheduleLen m d ≤ n) : Inside n (DeviceSchedule.next m d) := by
  rw [DeviceSchedule.next, inside_nextOf]
  exact (inside_schedule h).1

theorem inside_valid : Inside n (valid m n) := by
  rw [valid, inside_checkReport schedule_next]
  refine fun hfits => ⟨inside_getDeviceSchedulePtr hfits, inside_count hfits, fun i _ _ =>
    ⟨inside_schedule_valid _, fun h => inside_next ((schedule_valid _).1 h)⟩⟩

theorem size_spec (h : (valid m n).value = true) :
    ((size m).value ≤ n ↔ ((net16 m 1).value = 0 → 3 + 2 * (u8 m 0).value ≤ n)) ∧ Inside n (size m) := by
  obtain ⟨hfits, hdevices⟩ := valid_iff.1 h
  have hvalue : (size m).value = devicePlace m (net16 m 1).value := walkSize_value schedule_next 0
  rw [hvalue, size, inside_walkSize schedule_next]
  refine ⟨?_, inside_getDeviceSchedulePtr hfits, inside_count hfits, fun i hi => inside_next (hdevices i hi)⟩
  rcases hcount : (net16 m 1).value with _ | k
  · exact ⟨fun h _ => h, fun h => h rfl⟩
  · exact ⟨fun _ h => (nomatch h), fun _ => hdevices k (by omega)⟩

theorem inside_elements (h : (valid m n).value = true) : Inside n (elements m) := by
  obtain ⟨hfits, hdevices⟩ := valid_iff.1 h
  rw [elements, inside_visitList schedule_next]
  refine ⟨inside_getDeviceSchedulePtr hfits, inside_count hfits, fun i hi => ⟨?_, inside_next (hdevices i hi)⟩⟩
  simp only [inside_bind, inside_touchRecord, schedule_size]
  exact ⟨⟨(inside_schedule (hdevices i hi)).1, hdevices i hi⟩, (inside_schedule (hdevices i hi)).2⟩

end SapStruct.ScheduleReportRsp

theorem inside_formatReportSchedule (h : (ScheduleReportRsp.valid m n).value = true) (details : List UInt8) :
    Inside n (formatReportSchedule m n details) := by
  obtain ⟨hfits, hdevices⟩ := ScheduleReportRsp.valid_iff.1 h
  have haddress : ∀ i < (net16 m 1).value, ScheduleReportRsp.devicePlace m i + 16 ≤ n := by
    intro i hi
    have hend := hdevices i hi
    have := le_place (ScheduleReportRsp.superframeLen m) (ScheduleReportRsp.devicePlace m i + 18)
      (net16 m (ScheduleReportRsp.devicePlace m i + 16)).value
    rw [add_scheduleLen] at hend
    omega
  have hfind : Inside n (findRecord (isNetworkAddress m details) (DeviceSchedule.next m)
      (net16 m 1).value (getDeviceSchedulePtr m).value) :=
    inside_findRecord schedule_next fun i hi =>
      ⟨(inside_isNetworkAddress _ _).2 (haddress i hi), inside_next (hdevices i hi)⟩
  unfold formatReportSchedule
  rw [inside_bind]
  refine ⟨(size_spec h).2, ?_⟩
  split
  · exact inside_pure _
  · simp only [inside_bind, inside_touch]
    refine ⟨by omega, ScheduleReportRsp.inside_getDeviceSchedulePtr hfits, ScheduleReportRsp.inside_count hfits,
      hfind, ?_⟩
    split
    · exact inside_pure _
    · rename_i q hq
      obtain ⟨i, hi, rfl⟩ := place_of_findRecord schedule_next hq
      simp only [inside_bind, inside_touch, inside_pure, and_true, schedule_size]
      exact ⟨(inside_schedule (hdevices i hi)).1, hdevices i hi⟩

namespace SapStruct.DeviceHealthRsp

abbrev devicePlace (i : Nat) : Nat := place (fun _ => 32) 2 i

theorem device_next (q : Nat) : (DeviceHealth.next q).value = q + 32 := rfl

theorem inside_size (h : 2 ≤ n) : Inside n (size m) := by
  simp only [size, inside_bind, inside_net16, inside_pure, and_true]
  omega

theorem valid_spec : ((valid m n).value = true ↔ (size m).value ≤ n) ∧ Inside n (valid m n) := by
  have h := checkSize_iff (n := n) 0 (Nat.le_add_left 2 _ : 2 ≤ (size m).value) fun hfits =>
    inside_size (by omega)
  simpa [valid] using h

theorem fits_of_valid (h : (valid m n).value = true) : 2 ≤ n :=
  Nat.le_trans (Nat.le_add_left 2 _) (valid_spec.1.1 h)

theorem device_end_le (h : (valid m n).value = true) {i : Nat} (hi : i < (net16 m 0).value) :
    devicePlace i + 32 ≤ n := by
  have hend : 32 * (net16 m 0).value + 2 ≤ n := valid_spec.1.1 h
  rw [devicePlace, place_const]
  omega

theorem inside_elements (h : (valid m n).value = true) : Inside n (elements m) := by
  rw [elements, inside_visitList device_next, inside_net16]
  refine ⟨inside_pure _, fits_of_valid h, fun i hi => ?_⟩
  simp only [inside_touchRecord, DeviceHealth.size, DeviceHealth.next, inside_nextOf, inside_pure, value_pure,
    true_and, and_true]
  exact device_end_le h hi

end SapStruct.DeviceHealthRsp

theorem inside_healthOfDevices (h : (DeviceHealthRsp.valid m n).value = true) (addresses : List (List UInt8)) :
    Inside n (healthOfDevices m (net16 m 0).value addresses) := by
  induction addresses with
  | nil => exact inside_pure _
  | cons address addresses ih =>
    have hfind : Inside n (findRecord (isNetworkAddress m address) DeviceHealth.next
        (net16 m 0).value 2) := by
      refine inside_findRecord DeviceHealthRsp.device_next fun i hi => ⟨?_, inside_pure _⟩
      have : place (fun _ => 32) 2 i + 32 ≤ n := device_end_le h hi
      rw [inside_isNetworkAddress]
      omega
    simp only [healthOfDevices, inside_bind]
    refine ⟨hfind, ?_⟩
    split
    · exact ih
    · rename_i q hq
      obtain ⟨i, hi, rfl⟩ := place_of_findRecord DeviceHealthRsp.device_next hq
      simp only [inside_bind, inside_touch, inside_pure, and_true]
      exact ⟨device_end_le h hi, ih⟩

theorem inside_formatReportDeviceHealth (h : (DeviceHealthRsp.valid m n).value = true)
    (addresses : List (List UInt8)) : Inside n (formatReportDeviceHealth m n addresses) := by
  have hfits := DeviceHealthRsp.fits_of_valid h
  unfold formatReportDeviceHealth
  rw [inside_bind]
  refine ⟨DeviceHealthRsp.inside_size hfits, ?_⟩
  split
  · exact inside_pure _
  · simp only [inside_bind, inside_net16, inside_pure, and_true]
    exact ⟨hfits, inside_healthOfDevices h addresses⟩

namespace SapStruct.ContractsAndRoutes

abbrev devicePlace (m : Nat → UInt8) (i : Nat) : Nat := place (deviceLen m) 1 i

/-- No reached route ends the report in a way that the message about its selector reads past. -/
def NoTruncatedRoute (m : Nat → UInt8) (n : Nat) : Prop :=
  ∀ i < (u8 m 0).value, (∀ k < i, DeviceClean m (devicePlace m k)) → ∀ j < (u8 m (devicePlace m i + 17)).value,
      (∀ k < j, RouteClean m (routePlace m (devicePlace m i) k)) →
        ¬TruncatedRoute m n (routePlace m (devicePlace m i) j)

def LastContractsFit (m : Nat → UInt8) (n : Nat) : Prop :=
  ∀ i, i + 1 = (u8 m 0).value → (∀ k < i, DeviceClean m (devicePlace m k)) →
    (u8 m (devicePlace m i + 17)).value = 0 → devicePlace m i + 18 ≤ n →
      devicePlace m i + 18 + 45 * (u8 m (devicePlace m i + 16)).value ≤ n

theorem valid_iff : (valid m n).value = true ↔ 1 ≤ n ∧ ∀ i < (u8 m 0).value,
      (DeviceContractsAndRoutes.valid m (devicePlace m i) (n - (devicePlace m i : Nat))).value = true := by
  rw [valid, checkReport_value device_next]
  rfl

theorem device_next_le {i k : Nat} (hik : i < k) :
    devicePlace m i + deviceLen m (devicePlace m i) ≤ devicePlace m k := place_add_le _ _ hik

theorem devices_valid {i : Nat} (hplace : devicePlace m i ≤ n) (hclean : ∀ k < i, DeviceClean m (devicePlace m k)) :
    ∀ k < i, (DeviceContractsAndRoutes.valid m (devicePlace m k) (n - (devicePlace m k : Nat))).value = true :=
  fun k hk => device_valid_of_clean (Nat.le_trans (device_next_le hk) hplace) (hclean k hk)

theorem clean_of_valid {d : Nat} (h : (DeviceContractsAndRoutes.valid m d (n - d)).value = true) :
    DeviceClean m d := fun j hj => ((device_valid d).1 h).2 j hj |>.2

theorem inside_valid : Inside n (valid m n) ↔ (1 ≤ n → NoTruncatedRoute m n) := by
  rw [valid, inside_checkReport device_next]
  refine imp_congr_right fun hfits => ?_
  simp only [inside_pure, inside_u8, hfits, true_and, value_pure, inside_device_valid]
  constructor
  · intro h i hi hclean j hj hroutes htruncated
    have hroute := le_routePlace (m := m) (devicePlace m i) j
    have hend := htruncated.1
    have hstart : devicePlace m i + 18 + 45 * (u8 m (devicePlace m i + 16)).value ≤ n := by omega
    have hplace : routePlace m (devicePlace m i) j ≤ n := by omega
    have hdevice : devicePlace m i + 18 ≤ n := by omega
    refine (h i hi (devices_valid (by omega) hclean)).1 hdevice j hj (fun k hk => ?_) htruncated
    exact ⟨(forall_end_le_iff (routeLen m) hstart).2 hplace k hk, hroutes k hk⟩
  · intro h i hi hbefore
    refine ⟨fun _ j hj hroutes => h i hi (fun k hk => clean_of_valid (hbefore k hk)) j hj
      fun k hk => (hroutes k hk).2, fun hvalid => ?_⟩
    rw [DeviceContractsAndRoutes.next, inside_nextOf]
    exact (inside_device hvalid).1

theorem device_end_le (h : (valid m n).value = true) (hlast : LastContractsFit m n) {i : Nat}
    (hi : i < (u8 m 0).value) : devicePlace m i + deviceLen m (devicePlace m i) ≤ n := by
  have hdevices := (valid_iff.1 h).2
  obtain ⟨hfits, hroutes⟩ := (device_valid _).1 (hdevices i hi)
  have hsome : (u8 m (devicePlace m i + 17)).value ≠ 0 →
      devicePlace m i + deviceLen m (devicePlace m i) ≤ n := by
    intro hcount
    obtain ⟨k, hk⟩ := Nat.exists_eq_succ_of_ne_zero hcount
    rw [add_deviceLen, hk]
    exact (hroutes k (by omega)).1
  rcases Nat.lt_or_ge (i + 1) (u8 m 0).value with hnext | hend
  · have hstart := ((device_valid _).1 (hdevices (i + 1) hnext)).1
    have hle : devicePlace m i + deviceLen m (devicePlace m i) ≤ devicePlace m (i + 1) :=
      device_next_le (Nat.lt_succ_self i)
    omega
  · by_cases hcount : (u8 m (devicePlace m i + 17)).value = 0
    · rw [add_deviceLen, hcount]
      exact hlast i (by omega) (fun k hk => clean_of_valid (hdevices k (by omega))) hcount hfits
    · exact hsome hcount

theorem inside_elements (h : (valid m n).value = true) : Inside n (elements m) ↔ LastContractsFit m n := by
  obtain ⟨hfits, hdevices⟩ := valid_iff.1 h
  have hreads := fun i hi => inside_device (hdevices i hi)
  rw [elements, inside_visitList device_next, inside_u8]
  simp only [inside_bind, inside_touchRecord, device_size, DeviceContractsAndRoutes.next, inside_nextOf]
  constructor
  · rintro ⟨-, -, helements⟩ i hi - hcount -
    have hend := (helements i (by omega)).1.1.2
    rw [value_pure, add_deviceLen, hcount] at hend
    exact hend
  · refine fun hlast => ⟨inside_pure _, hfits, fun i hi => ?_⟩
    exact ⟨⟨⟨(hreads i hi).1, device_end_le h hlast hi⟩, (hreads i hi).2⟩, (hreads i hi).1⟩

end SapStruct.ContractsAndRoutes

theorem inside_updateContractRate (ctx : PublishRateContext) {pD this : Nat} (hdevice : pD + 18 ≤ n)
    (hcontract : this + 45 ≤ n) : Inside n (updateContractRate m ctx pD this) := by
  simp only [updateContractRate, readAddress, inside_bind, inside_u8, inside_doIf, inside_touch, inside_raw16]
  have haddress : Inside n ({ value := (List.range 16).map fun i => m (this + 9 + i), spans := [(this + 9, 16)] } :
      Probe (List UInt8)) := by
    simp only [Inside, List.mem_singleton]
    rintro _ rfl
    show this + 9 + 16 ≤ n
    omega
  refine ⟨by omega, fun _ => by omega, fun _ => ⟨by omega, by omega, by omega, fun _ => by omega, fun _ => by omega⟩,
    fun _ => ⟨haddress, fun _ => ⟨by omega, fun _ => ⟨fun _ => by omega, by omega, by omega, by omega⟩⟩⟩⟩

theorem contract_next (q : Nat) : (nextOf sizeofContract q).value = q + 45 := rfl

theorem inside_contracts (ctx : PublishRateContext) {d : Nat} (h : d + 18 + 45 * (u8 m (d + 16)).value ≤ n) :
    Inside n (visitList (pure (d + 18)) (u8 m (d + 16)) (updateContractRate m ctx d) (nextOf sizeofContract)) := by
  rw [inside_visitList contract_next, inside_u8]
  refine ⟨inside_pure _, by omega, fun j hj => ⟨inside_updateContractRate ctx (by omega) ?_, inside_pure _⟩⟩
  rw [place_const, value_pure]
  omega

theorem inside_updatePublishRate (hinside : Inside n (ContractsAndRoutes.valid m n))
    (hlast : ContractsAndRoutes.LastContractsFit m n) (ctx : PublishRateContext) :
    Inside n (updatePublishRate m ctx n) := by
  simp only [updatePublishRate, inside_bind, inside_doIf]
  refine ⟨hinside, fun h => ?_⟩
  obtain ⟨hfits, hdevices⟩ := ContractsAndRoutes.valid_iff.1 h
  rw [inside_visitList ContractsAndRoutes.device_next, inside_u8]
  refine ⟨inside_pure _, hfits, fun i hi => ⟨inside_contracts ctx ?_, ?_⟩⟩
  · have hend := ContractsAndRoutes.device_end_le h hlast hi
    rw [ContractsAndRoutes.add_deviceLen] at hend
    exact Nat.le_trans (ContractsAndRoutes.le_routePlace _ _) hend
  · rw [ContractsAndRoutes.DeviceContractsAndRoutes.next, inside_nextOf]
    exact (ContractsAndRoutes.inside_device (hdevices i hi)).1

/-- What the bytes of a report have to be like for its validator to protect the gateway. -/
def SapReport.Sound (m : Nat → UInt8) (n : Nat) : SapReport → Prop
  | .deviceList => 2 ≤ n → ∀ i < (net16 m 0).value, ∀ k < 5,
      DeviceListRsp.stringPlace m (DeviceListRsp.devicePlace m i) k ≠ n
  | .topology => 4 ≤ n → reportEnd m ≤ n →
      (net16 m 2).value = 0 ∨ 4 + 20 * (raw16 m 0).value + 18 * (net16 m 2).value ≤ n
  | .schedule => 3 ≤ n → (net16 m 1).value = 0 → 3 + 2 * (u8 m 0).value ≤ n
  | .deviceHealth => True
  | .contractsAndRoutes => 1 ≤ n → NoTruncatedRoute m n ∧ LastContractsFit m n

theorem protects_deviceList : deviceList.Protects m n ↔ deviceList.Sound m n := by
  constructor
  · exact fun h => DeviceListRsp.inside_valid.1 h.valid
  · intro h
    refine ⟨DeviceListRsp.inside_valid.2 h, ?_, DeviceListRsp.inside_elements, fun hvalid request => ?_⟩
    · rintro hvalid _ ⟨⟩
      exact size_spec hvalid
    · simpa [consume] using inside_formatReportDeviceList hvalid request.details

theorem protects_topology : topology.Protects m n ↔ topology.Sound m n := by
  constructor
  · intro h hfits hend
    have hvalid := valid_spec.1.2 ⟨hfits, hend⟩
    exact (inside_elements hvalid).1 (h.elements hvalid)
  · intro h
    refine ⟨valid_spec.2, ?_, fun hvalid => ?_, fun _ _ => inside_pure _⟩
    · rintro hvalid _ ⟨⟩
      exact size_spec hvalid
    · obtain ⟨hfits, hend⟩ := valid_spec.1.1 hvalid
      exact (inside_elements hvalid).2 (h hfits hend)

theorem protects_schedule : schedule.Protects m n ↔ schedule.Sound m n := by
  constructor
  · intro h hfits hcount
    have hvalid : (ScheduleReportRsp.valid m n).value = true :=
      valid_iff.2 ⟨hfits, fun i hi => absurd hi (by omega)⟩
    exact (size_spec hvalid).1.1 (h.size hvalid _ rfl).1 hcount
  · intro h
    refine ⟨inside_valid, ?_, inside_elements, fun hvalid request => ?_⟩
    · rintro hvalid _ ⟨⟩
      have hsize := size_spec hvalid
      exact ⟨hsize.1.2 (h (valid_iff.1 hvalid).1), hsize.2⟩
    · simpa [consume] using inside_formatReportSchedule hvalid request.details

theorem protects_deviceHealth : deviceHealth.Protects m n := by
  refine ⟨valid_spec.2, ?_, inside_elements, fun hvalid request => ?_⟩
  · rintro hvalid _ ⟨⟩
    exact ⟨valid_spec.1.1 hvalid, inside_size (fits_of_valid hvalid)⟩
  · simpa [consume] using inside_formatReportDeviceHealth hvalid request.addresses

theorem protects_contractsAndRoutes :
    SapReport.contractsAndRoutes.Protects m n ↔ SapReport.contractsAndRoutes.Sound m n := by
  constructor
  · intro h hfits
    have hroutes := ContractsAndRoutes.inside_valid.1 h.valid hfits
    refine ⟨hroutes, fun i hi hclean hcount hdevice => ?_⟩
    have hvalid : (ContractsAndRoutes.valid m n).value = true := by
      refine ContractsAndRoutes.valid_iff.2 ⟨hfits, fun k hk => ?_⟩
      rcases Nat.lt_or_ge k i with hbefore | hlast
      · exact ContractsAndRoutes.devices_valid (by omega) hclean k hbefore
      · obtain rfl : k = i := by omega
        exact (ContractsAndRoutes.device_valid _).2 ⟨hdevice, fun j hj => absurd hj (by omega)⟩
    exact (ContractsAndRoutes.inside_elements hvalid).1 (h.elements hvalid) i hi hclean hcount hdevice
  · intro h
    refine ⟨ContractsAndRoutes.inside_valid.2 fun hfits => (h hfits).1, fun _ _ hsize => (nomatch hsize),
      fun hvalid => ?_, fun hvalid request => ?_⟩
    · exact (ContractsAndRoutes.inside_elements hvalid).2 (h (ContractsAndRoutes.valid_iff.1 hvalid).1).2
    · have hfits := (ContractsAndRoutes.valid_iff.1 hvalid).1
      exact inside_updatePublishRate (ContractsAndRoutes.inside_valid.2 fun _ => (h hfits).1) (h hfits).2 request.ctx

end

/-- For every report and every memory, the validator reads inside the `n` bytes and protects walkers and consumers exactly when the bytes avoid the cases it overlooks. -/
theorem protects_iff_sound (m : Nat → UInt8) (n : Nat) (rep : SapReport) : rep.Protects m n ↔ rep.Sound m n := by
  cases rep with
  | deviceList => exact protects_deviceList
  | topology => exact protects_topology
  | schedule => exact protects_schedule
  | deviceHealth => exact iff_of_true protects_deviceHealth trivial
  | contractsAndRoutes => exact protects_contractsAndRoutes

/-- A schedule of three bytes with 255 channels and no devices is accepted, and its `SIZE()` is 513. -/
theorem schedule_not_protected : ¬∀ (m : Nat → UInt8) (n : Nat) (rep : SapReport), rep.Protects m n := by
  intro hclaim
  have hsize := (hclaim (fun q => if q = 0 then 255 else 0) 3 .schedule).size (by decide)
    (ScheduleReportRsp.size fun q => if q = 0 then 255 else 0) rfl
  exact absurd hsize.1 (by decide)

end Isa100Gateway
