import Isa100Gateway.Gateway.AlertSubscribe
import Isa100Gateway.Gateway.SapReports
import Isa100Gateway.Gateway.SystemReport

/-!
# The buffers of the report formatters (`SystemReportSvc.cpp`)

What the `formatReport` functions and `translateYGSAP` write. The buffer of a formatter is as large as the report, the one of the translation has 4 KiB, and a write that leaves its buffer has no value.
-/

namespace Isa100Gateway

open MemoryProbe SapStruct Buffer Option
open UserRequest (bytes bytes16 ntohs)

namespace ReportBuffers

structure Formatted where
  ok : Bool
  len : Nat
  out : List UInt8

def memory (out : List UInt8) (i : Nat) : UInt8 := out.getD i 0

def htons (n : UInt16) : List UInt8 := [(n >>> 8).toUInt8, n.toUInt8]

section

variable (mem : Nat → UInt8) (out : List UInt8)

def formatReportDeviceList (details : List UInt8) : Option Formatted :=
  if ¬ isDeviceListFilterReq details then some ⟨true, out.length, out⟩
  else if out.length < (DeviceListRsp.size mem).value then some ⟨false, out.length, out⟩
  else do
    let out ← write out 0 (htons 1)
    match (findRecord (isNetworkAddress mem details) (DeviceListRsp.Device.next mem) (net16 mem 0).value 2).value with
    | none => pure ⟨false, out.length, out⟩
    | some pD => do
      let out ← write out 2 (bytes mem pD (DeviceListRsp.Device.size mem pD).value).value
      pure ⟨true, (DeviceListRsp.size (memory out)).value, out⟩

def formatReportSchedule (details : List UInt8) : Option Formatted :=
  if out.length < (ScheduleReportRsp.size mem).value then some ⟨false, out.length, out⟩
  else do
    let out ← write out 0 (bytes mem 0 out.length).value
    let out ← write out 1 (htons 1)
    match (findRecord (isNetworkAddress mem details) (ScheduleReportRsp.DeviceSchedule.next mem)
        (net16 mem 1).value (ScheduleReportRsp.getDeviceSchedulePtr mem).value).value with
    | none => pure ⟨false, out.length, out⟩
    | some pD => do
      let out ← write out (ScheduleReportRsp.getDeviceSchedulePtr (memory out)).value
        (bytes mem pD (ScheduleReportRsp.DeviceSchedule.size mem pD).value).value
      pure ⟨true, (ScheduleReportRsp.size (memory out)).value, out⟩

def formatHealthDevices : List (List UInt8) → UInt16 → List UInt8 → Option (UInt16 × List UInt8)
  | [], devicesFound, out => some (devicesFound, out)
  | address :: addresses, devicesFound, out =>
    match (findRecord (isNetworkAddress mem address) DeviceHealthRsp.DeviceHealth.next (net16 mem 0).value 2).value with
    | none => formatHealthDevices addresses devicesFound out
    | some q => do
      let out ← write out (2 + 32 * devicesFound.toNat) (bytes mem q 32).value
      formatHealthDevices addresses (devicesFound + 1) out

def formatReportDeviceHealth (addresses : List (List UInt8)) : Option Formatted :=
  if out.length < (DeviceHealthRsp.size mem).value then some ⟨false, out.length, out⟩
  else do
    let (devicesFound, out) ← formatHealthDevices mem addresses 0 out
    let out ← write out 0 (htons devicesFound)
    if devicesFound = 0 then pure ⟨false, out.length, out⟩
    else pure ⟨true, (DeviceHealthRsp.size (memory out)).value, out⟩

end

def requestAddresses (req : Nat → UInt8) : List (List UInt8) :=
  (List.range (ntohs req 0).value.toNat).map fun i => (bytes req (2 + 16 * i) 16).value

abbrev RequestDetails := Option (Nat → UInt8)

def formatReport (service : ReportService) (mem : Nat → UInt8) (out : List UInt8) : RequestDetails → Option Formatted
  | none => some ⟨true, out.length, out⟩
  | some req =>
    match service with
    | .deviceList => formatReportDeviceList mem out (bytes req 0 16).value
    | .schedule => formatReportSchedule mem out (bytes req 0 16).value
    | .deviceHealth => formatReportDeviceHealth mem out (requestAddresses req)
    | _ => some ⟨true, out.length, out⟩

def confirm2All (service : ReportService) (mem : Nat → UInt8) : List RequestDetails → List UInt8 →
    Option (List Formatted)
  | [], _ => some []
  | details :: requests, out => do
    let formatted ← formatReport service mem out details
    let others ← confirm2All service mem requests formatted.out
    pure (formatted :: others)

inductive ExtractError where
  | invalidTagSelector
  | allTags
  | tagNotFound

def extractAddress (devices : YDevList) (mem : Nat → UInt8) (q : Nat) : Except ExtractError Addr128 :=
  if mem q = 0 then
    if mem (q + 1) = 0 then .error .allTags
    else
      match devices (deviceTag mem (mem (q + 1)) (q + 2)).value with
      | none => .error .tagNotFound
      | some address => .ok address
  else if mem q = 1 then .ok (bytes16 mem (q + 18)).value
  else .error .invalidTagSelector

inductive TranslatedReq where
  | original
  | failed (status : ExtractError)
  | translated (buf : List UInt8) (dataSize : Nat)

def translateDevices (devices : YDevList) (mem : Nat → UInt8) : (left j : Nat) → List UInt8 →
    Option (Except ExtractError (List UInt8))
  | 0, _, buf => some (.ok buf)
  | left + 1, j, buf =>
    match extractAddress devices mem (2 + 34 * j) with
    | .error status => some (.error status)
    | .ok address => do
      let buf ← write buf (2 + 16 * j) address.toList
      translateDevices devices mem left (j + 1) buf

def translateDevice (devices : YDevList) (mem : Nat → UInt8) (buf : List UInt8) : Option TranslatedReq :=
  match extractAddress devices mem 0 with
  | .error status => some (.failed status)
  | .ok address => do
    let buf ← write buf 0 address.toList
    pure (.translated buf 16)

def translateDeviceHealth (devices : YDevList) (mem : Nat → UInt8) (buf : List UInt8) : Option TranslatedReq := do
  let count := (ntohs mem 0).value
  match ← translateDevices devices mem count.toNat 0 buf with
  | .error status => pure (.failed status)
  | .ok buf => do
    let buf ← write buf 0 (htons count)
    pure (.translated buf (2 + count.toNat * 16))

def translateYGSAP (devices : YDevList) (service : ReportService) (r : UserRequest) (buf : Vector UInt8 4096) :
    Option TranslatedReq :=
  if ¬ r.ygsap ∨ r.dataSize ≤ 4 then some .original
  else
    match service with
    | .deviceList | .schedule | .neighborHealth => translateDevice devices r.mem buf.toList
    | .deviceHealth => translateDeviceHealth devices r.mem buf.toList
    | .topology | .networkHealth | .networkResource => some .original

/-! ## What fits -/

def HasDevice (mem : Nat → UInt8) (address : List UInt8) : Prop :=
  ∃ j < (net16 mem 0).value, (readAddress mem (2 + 32 * j)).value = address

instance (mem : Nat → UInt8) : DecidablePred (HasDevice mem) := fun _ => inferInstanceAs (Decidable (∃ _ < _, _))

def devicesOf (mem : Nat → UInt8) (addresses : List (List UInt8)) : Nat := addresses.countP (HasDevice mem ·)

@[simp]
theorem length_bytes (mem : Nat → UInt8) (q length : Nat) : (bytes mem q length).value.length = length := by
  simp [bytes]

@[simp]
theorem length_htons (n : UInt16) : (htons n).length = 2 := rfl

section

variable {mem : Nat → UInt8} {out : List UInt8} {test : Nat → Probe Bool} {devicesFound : UInt16}

theorem deviceList_found (h : (DeviceListRsp.valid mem out.length).value = true) {pD : Nat}
    (hfound : (findRecord test (DeviceListRsp.Device.next mem) (net16 mem 0).value 2).value = some pD) :
    2 ≤ pD ∧ pD + (DeviceListRsp.Device.size mem pD).value ≤ out.length := by
  obtain ⟨i, hi, rfl⟩ := place_of_findRecord DeviceListRsp.device_next hfound
  rw [DeviceListRsp.device_size]
  exact ⟨le_place _ _ i, DeviceListRsp.device_end_le h hi⟩

theorem schedule_found (h : (ScheduleReportRsp.valid mem out.length).value = true)
    {pD : Nat} (hfound : (findRecord test (ScheduleReportRsp.DeviceSchedule.next mem) (net16 mem 1).value
      (ScheduleReportRsp.getDeviceSchedulePtr mem).value).value = some pD) :
    (ScheduleReportRsp.getDeviceSchedulePtr mem).value ≤ pD ∧
      pD + (ScheduleReportRsp.DeviceSchedule.size mem pD).value ≤ out.length := by
  obtain ⟨i, hi, rfl⟩ := place_of_findRecord ScheduleReportRsp.schedule_next hfound
  rw [ScheduleReportRsp.schedule_size]
  exact ⟨le_place _ _ i, (ScheduleReportRsp.valid_iff.1 h).2 i hi⟩

theorem formatReportDeviceList_fits (h : (DeviceListRsp.valid mem out.length).value = true) (details : List UInt8) :
    ∃ f, formatReportDeviceList mem out details = some f ∧ f.out.length = out.length := by
  unfold formatReportDeviceList
  split
  · exact ⟨_, rfl, rfl⟩
  split
  · exact ⟨_, rfl, rfl⟩
  · have hcount : 0 + (htons 1).length ≤ out.length := (DeviceListRsp.valid_iff.1 h).1
    obtain ⟨out₁, hwrite₁, hlen₁, -⟩ := exists_write hcount
    simp only [hwrite₁, bind_eq_bind, bind_some]
    split
    · exact ⟨_, rfl, hlen₁⟩
    · rename_i pD hfound
      obtain ⟨hstart, hend⟩ := deviceList_found h hfound
      have hdevice : 2 + (bytes mem pD (DeviceListRsp.Device.size mem pD).value).value.length ≤ out₁.length := by
        rw [length_bytes, hlen₁]
        omega
      obtain ⟨out₂, hwrite₂, hlen₂, -⟩ := exists_write hdevice
      rw [hwrite₂]
      exact ⟨_, rfl, by rw [hlen₂, hlen₁]⟩

theorem formatReportSchedule_fits (h : (ScheduleReportRsp.valid mem out.length).value = true) (details : List UInt8) :
    ∃ f, formatReportSchedule mem out details = some f ∧ f.out.length = out.length := by
  have hfits := (ScheduleReportRsp.valid_iff.1 h).1
  unfold formatReportSchedule
  split
  · exact ⟨_, rfl, rfl⟩
  · have hwhole : Buffer.write out 0 (bytes mem 0 out.length).value = some (bytes mem 0 out.length).value :=
      Buffer.write_all (length_bytes _ _ _)
    have hcount : 1 + (htons 1).length ≤ (bytes mem 0 out.length).value.length := by
      rw [length_bytes]
      exact hfits
    obtain ⟨out₁, hwrite₁, hlen₁, -⟩ := Buffer.exists_write hcount
    rw [length_bytes] at hlen₁
    simp only [hwhole, hwrite₁, Option.bind_eq_bind, Option.bind_some]
    split
    · exact ⟨_, rfl, hlen₁⟩
    · rename_i pD hfound
      obtain ⟨hplace, hend⟩ := schedule_found h hfound
      -- the count of the channels lies in front of what the second write changes
      have hchannels : memory out₁ 0 = mem 0 := by
        rw [memory, List.getD_eq_getElem?_getD, Buffer.getElem?_write hwrite₁, if_neg (by omega)]
        simp [bytes, show 0 < out.length by omega]
      have hstart : (ScheduleReportRsp.getDeviceSchedulePtr (memory out₁)).value =
          (ScheduleReportRsp.getDeviceSchedulePtr mem).value := by
        simp [ScheduleReportRsp.getDeviceSchedulePtr, u8, hchannels]
      have hdevice : (ScheduleReportRsp.getDeviceSchedulePtr (memory out₁)).value +
          (bytes mem pD (ScheduleReportRsp.DeviceSchedule.size mem pD).value).value.length ≤ out₁.length := by
        rw [length_bytes, hlen₁, hstart]
        omega
      obtain ⟨out₂, hwrite₂, hlen₂, -⟩ := Buffer.exists_write hdevice
      rw [hwrite₂]
      exact ⟨_, rfl, by rw [hlen₂, hlen₁]⟩

theorem isSome_findDevice (mem : Nat → UInt8) (address : List UInt8) :
    (findRecord (isNetworkAddress mem address) DeviceHealthRsp.DeviceHealth.next (net16 mem 0).value 2).value.isSome =
      true ↔ HasDevice mem address := by
  rw [isSome_findRecord DeviceHealthRsp.device_next]
  simp only [place_const, isNetworkAddress, value_bind, value_pure, decide_eq_true_eq]
  rfl

variable {addresses : List (List UInt8)}

/-- The loop succeeds when the devices fit, keeps the length of the buffer and counts what it found. -/
theorem formatHealthDevices_spec (mem : Nat → UInt8) (addresses : List (List UInt8)) (devicesFound : UInt16)
    (out : List UInt8) (hroom : devicesFound.toNat + addresses.length < 65536) :
    match formatHealthDevices mem addresses devicesFound out with
    | some res => res.1.toNat = devicesFound.toNat + devicesOf mem addresses ∧ res.2.length = out.length ∧
        (2 + 32 * devicesFound.toNat ≤ out.length → 2 + 32 * res.1.toNat ≤ out.length)
    | none => out.length < 2 + 32 * (devicesFound.toNat + devicesOf mem addresses) := by
  induction addresses generalizing devicesFound out with
  | nil => exact ⟨rfl, rfl, id⟩
  | cons address addresses ih =>
    have hdevice := isSome_findDevice mem address
    rw [List.length_cons] at hroom
    rw [formatHealthDevices]
    cases hfound : (findRecord (isNetworkAddress mem address) DeviceHealthRsp.DeviceHealth.next (net16 mem 0).value
      2).value with
    | none =>
      rw [hfound] at hdevice
      have hmissing : ¬HasDevice mem address := fun hhas => nomatch hdevice.2 hhas
      rw [devicesOf, List.countP_cons_of_neg (by simpa using hmissing)]
      exact ih devicesFound out (by omega)
    | some q =>
      rw [hfound] at hdevice
      have hhas : HasDevice mem address := hdevice.1 rfl
      rw [devicesOf, List.countP_cons_of_pos (by simpa using hhas), ← devicesOf]
      dsimp only
      by_cases hfits : 2 + 32 * devicesFound.toNat + (bytes mem q 32).value.length ≤ out.length
      · obtain ⟨out₁, hwrite, hlen, -⟩ := exists_write hfits
        have hnext : (devicesFound + 1).toNat = devicesFound.toNat + 1 := by
          rw [UInt16.toNat_add, UInt16.toNat_one, Nat.mod_eq_of_lt (by omega)]
        rw [length_bytes] at hfits
        have hrest := ih (devicesFound + 1) out₁ (by omega)
        rw [hwrite, bind_eq_bind, bind_some]
        rw [hnext, hlen] at hrest
        split at hrest
        · exact ⟨by omega, hrest.2.1, fun _ => hrest.2.2 (by omega)⟩
        · omega
      · have hwrite : write out (2 + 32 * devicesFound.toNat) (bytes mem q 32).value = none := if_neg hfits
        rw [length_bytes] at hfits
        rw [hwrite, bind_eq_bind, bind_none]
        dsimp only
        omega

theorem formatReportDeviceHealth_fits (h : (DeviceHealthRsp.valid mem out.length).value = true)
    (hcount : addresses.length < 65536) :
    (formatReportDeviceHealth mem out addresses).isSome ↔ 2 + 32 * devicesOf mem addresses ≤ out.length := by
  have hsize : ¬out.length < (DeviceHealthRsp.size mem).value := Nat.not_lt_of_le (DeviceHealthRsp.valid_spec.1.1 h)
  have hheader := DeviceHealthRsp.fits_of_valid h
  have hspec := formatHealthDevices_spec mem addresses 0 out (by simpa using hcount)
  rw [formatReportDeviceHealth, if_neg hsize]
  cases hfound : formatHealthDevices mem addresses 0 out with
  | none =>
    rw [hfound] at hspec
    simpa using hspec
  | some res =>
    rw [hfound] at hspec
    obtain ⟨hfound, hlen, hlast⟩ := hspec
    have hfits : 0 + (htons res.1).length ≤ res.2.length := by
      rw [hlen]
      exact hheader
    obtain ⟨out₁, hwrite, -⟩ := exists_write hfits
    have hall := hlast (by simpa using hheader)
    rw [hfound] at hall
    simp only [bind_eq_bind, bind_some, hwrite]
    refine iff_of_true ?_ (by simpa using hall)
    split <;> rfl

theorem length_formatReportDeviceHealth (hcount : addresses.length < 65536)
    {f : Formatted} (h : formatReportDeviceHealth mem out addresses = some f) : f.out.length = out.length := by
  unfold formatReportDeviceHealth at h
  split at h
  · cases h
    rfl
  · obtain ⟨⟨devicesFound, out₁⟩, hfound, h⟩ := bind_eq_some_iff.1 h
    obtain ⟨out₂, hwrite, h⟩ := bind_eq_some_iff.1 h
    have hspec := formatHealthDevices_spec mem addresses 0 out (by simpa using hcount)
    rw [hfound] at hspec
    rw [← hspec.2.1, ← length_write hwrite]
    split at h
    · cases h
      rfl
    · cases h
      rfl

end

/-! The formatters extract what the probes of the same functions find. -/

theorem length_requestAddresses (req : Nat → UInt8) : (requestAddresses req).length < 65536 := by
  rw [requestAddresses, List.length_map, List.length_range]
  exact UInt16.toNat_lt _

def formattedReport : ReportService → Option SapReport
  | .deviceList => some .deviceList
  | .schedule => some .schedule
  | .deviceHealth => some .deviceHealth
  | _ => none

structure CachedReport where
  service : ReportService
  mem : Nat → UInt8
  size : Nat
  valid : ∀ rep ∈ formattedReport service, (rep.valid mem size).value = true

/-- The device health reports that a request extracts fit in the buffer of the whole report. -/
def CachedReport.Fits (rep : CachedReport) (details : RequestDetails) : Prop :=
  rep.service = .deviceHealth → ∀ req ∈ details, 2 + 32 * devicesOf rep.mem (requestAddresses req) ≤ rep.size

theorem formatReport_fits (rep : CachedReport) {out : List UInt8} (hout : out.length = rep.size)
    (details : RequestDetails) : ((formatReport rep.service rep.mem out details).isSome ↔ rep.Fits details) ∧
      ∀ f, formatReport rep.service rep.mem out details = some f → f.out.length = out.length := by
  obtain ⟨service, mem, size, hvalid⟩ := rep
  obtain rfl : out.length = size := hout
  cases details with
  | none => simp [formatReport, CachedReport.Fits]
  | some req =>
    cases service with
    | deviceList =>
      obtain ⟨f, hf, hlen⟩ := formatReportDeviceList_fits (hvalid .deviceList rfl) (bytes req 0 16).value
      simp [formatReport, CachedReport.Fits, hf, hlen]
    | schedule =>
      obtain ⟨f, hf, hlen⟩ := formatReportSchedule_fits (hvalid .schedule rfl) (bytes req 0 16).value
      simp [formatReport, CachedReport.Fits, hf, hlen]
    | deviceHealth =>
      refine ⟨?_, fun f => length_formatReportDeviceHealth (length_requestAddresses req)⟩
      rw [formatReport, formatReportDeviceHealth_fits (hvalid .deviceHealth rfl) (length_requestAddresses req)]
      simp [CachedReport.Fits]
    | _ => simp [formatReport, CachedReport.Fits]

theorem confirm2All_fits (rep : CachedReport) (requests : List RequestDetails) {out : List UInt8}
    (hout : out.length = rep.size) :
    (confirm2All rep.service rep.mem requests out).isSome ↔ ∀ details ∈ requests, rep.Fits details := by
  induction requests generalizing out with
  | nil => simp [confirm2All]
  | cons details requests ih =>
    obtain ⟨hfits, hlen⟩ := formatReport_fits rep hout details
    rw [confirm2All, List.forall_mem_cons, ← hfits]
    cases hf : formatReport rep.service rep.mem out details with
    | none => simp
    | some f =>
      have hothers := ih ((hlen f hf).trans hout)
      simp only [bind_eq_bind, bind_some, isSome_some, true_and, ← hothers]
      cases confirm2All rep.service rep.mem requests f.out <;> rfl

section

variable (devices : YDevList) (mem : Nat → UInt8)

/-- The extraction of the `j`-th device of a device health request succeeds. -/
def Extracts (j : Nat) : Prop := (extractAddress devices mem (2 + 34 * j)).toOption.isSome

variable {devices mem}

theorem translateDevices_fits {left j : Nat} (hj : j ≤ 255) {buf : List UInt8} (hbuf : buf.length = 4096) :
    (translateDevices devices mem left j buf).isSome ↔
      j + left ≤ 255 ∨ ∃ i < 256, j ≤ i ∧ ¬Extracts devices mem i := by
  induction left generalizing j buf with
  | zero => simp [translateDevices, hj]
  | succ left ih =>
    rw [translateDevices]
    cases hextract : extractAddress devices mem (2 + 34 * j) with
    | error status =>
      have hfails : ¬Extracts devices mem j := by simp [Extracts, hextract, Except.toOption]
      exact ⟨fun _ => .inr ⟨j, by omega, Nat.le_refl j, hfails⟩, fun _ => rfl⟩
    | ok address =>
      have hextracts : Extracts devices mem j := by simp [Extracts, hextract, Except.toOption]
      rcases Nat.lt_or_eq_of_le hj with hbelow | rfl
      · have hroom : 2 + 16 * j + address.toList.length ≤ buf.length := by
          rw [Vector.length_toList, hbuf]
          omega
        obtain ⟨buf₁, hwrite, hlen, -⟩ := exists_write hroom
        simp only [hwrite, bind_eq_bind, bind_some]
        rw [ih hbelow (hlen.trans hbuf), Nat.succ_add_eq_add_succ]
        refine or_congr_right (exists_congr fun i => and_congr_right fun _ => ⟨?_, ?_⟩)
        · exact fun ⟨hi, hfails⟩ => ⟨Nat.le_of_succ_le hi, hfails⟩
        · rintro ⟨hi, hfails⟩
          have hne : j ≠ i := fun heq => hfails (heq ▸ hextracts)
          exact ⟨by omega, hfails⟩
      · -- the last cell of the 256th address would be the 4098th
        have hfull : write buf (2 + 16 * 255) address.toList = none := by
          refine if_neg ?_
          rw [Vector.length_toList, hbuf]
          omega
        simp only [hfull, bind_eq_bind, bind_none, isSome_none, Bool.false_eq_true, false_iff]
        rintro (hcount | ⟨i, hi, hle, hfails⟩)
        · omega
        · obtain rfl : 255 = i := by omega
          exact hfails hextracts

theorem length_translateDevices {left j : Nat} {buf buf' : List UInt8}
    (h : translateDevices devices mem left j buf = some (.ok buf')) : buf'.length = buf.length := by
  induction left generalizing j buf with
  | zero =>
    cases h
    rfl
  | succ left ih =>
    rw [translateDevices] at h
    split at h
    · exact nomatch h
    · obtain ⟨buf₁, hwrite, hrest⟩ := bind_eq_some_iff.1 h
      rw [ih hrest, length_write hwrite]

theorem isSome_translateDevice (buf : Vector UInt8 4096) : (translateDevice devices mem buf.toList).isSome = true := by
  unfold translateDevice
  split
  · rfl
  · rename_i address _
    have hroom : 0 + address.toList.length ≤ buf.toList.length := by simp
    obtain ⟨buf₁, hwrite, -⟩ := exists_write hroom
    rw [hwrite]
    rfl

theorem translateDeviceHealth_fits (buf : Vector UInt8 4096) : (translateDeviceHealth devices mem buf.toList).isSome ↔
      (ntohs mem 0).value.toNat ≤ 255 ∨ ∃ j < 256, ¬Extracts devices mem j := by
  have hloop : (translateDevices devices mem (ntohs mem 0).value.toNat 0 buf.toList).isSome ↔
      0 + (ntohs mem 0).value.toNat ≤ 255 ∨ ∃ j < 256, 0 ≤ j ∧ ¬Extracts devices mem j :=
    translateDevices_fits (Nat.zero_le 255) buf.length_toList
  simp only [Nat.zero_add, Nat.zero_le, true_and] at hloop
  rw [← hloop, translateDeviceHealth]
  cases hdone : translateDevices devices mem (ntohs mem 0).value.toNat 0 buf.toList with
  | none => simp
  | some res =>
    cases res with
    | error status => simp
    | ok buf₁ =>
      have hroom : 0 + (htons (ntohs mem 0).value).length ≤ buf₁.length := by
        rw [length_translateDevices hdone]
        simp
      obtain ⟨buf₂, hwrite, -⟩ := exists_write hroom
      simp [hwrite]

/-- Where a device health request is translated, its list is short or one of its first 256 devices fails. -/
def TranslationFits (devices : YDevList) (service : ReportService) (r : UserRequest) : Prop :=
  r.ygsap = true → 4 < r.dataSize → service = .deviceHealth →
    (ntohs r.mem 0).value.toNat ≤ 255 ∨ ∃ j < 256, ¬Extracts devices r.mem j

theorem translateYGSAP_fits (devices : YDevList) (service : ReportService) (r : UserRequest) (buf : Vector UInt8 4096) :
    (translateYGSAP devices service r buf).isSome ↔ TranslationFits devices service r := by
  unfold translateYGSAP TranslationFits
  by_cases htranslated : r.ygsap = true ∧ 4 < r.dataSize
  · obtain ⟨hygsap, hsize⟩ := htranslated
    rw [if_neg (by simp [hygsap, UInt32.not_le, hsize])]
    cases service with
    | deviceHealth => simp [hygsap, hsize, translateDeviceHealth_fits]
    | topology | networkHealth | networkResource => simp
    | _ => simp [isSome_translateDevice]
  · have hnone : ¬r.ygsap ∨ r.dataSize ≤ 4 := by
      rw [← UInt32.not_lt]
      exact not_and_or.1 htranslated
    rw [if_pos hnone]
    exact ⟨fun _ hygsap hsize => absurd ⟨hygsap, hsize⟩ htranslated, fun _ => rfl⟩

end

/-- What the formatters write for the clients of a valid report, and the translation for a request, stays inside the buffers exactly where each device health request is small enough. -/
theorem report_buffers_fit_iff (rep : CachedReport) (requests : List RequestDetails) (out : Vector UInt8 rep.size)
    (devices : YDevList) (service : ReportService) (r : UserRequest) (buf : Vector UInt8 4096) :
    ((confirm2All rep.service rep.mem requests out.toList).isSome ↔ ∀ details ∈ requests, rep.Fits details) ∧
      ((translateYGSAP devices service r buf).isSome ↔ TranslationFits devices service r) :=
  ⟨confirm2All_fits rep requests out.length_toList, translateYGSAP_fits devices service r buf⟩

def oneDevice : CachedReport where
  service := .deviceHealth
  mem i := if i = 0 then 0 else if i = 1 then 1 else 7
  size := 34
  valid := by
    intro rep hrep
    cases hrep
    decide

def twiceTheDevice (i : Nat) : UInt8 := if i = 0 then 0 else if i = 1 then 2 else 7

def manyDevices : UserRequest where
  ygsap := true
  sessionId := 1
  transactionId := 1
  dataSize := 8710
  mem i := if i = 1 then 0 else 1

/-- A device that is asked for twice is copied twice, and 256 addresses of the other protocol do not fit the buffer. -/
theorem report_buffers_overrun :
    (¬∀ (rep : CachedReport) (requests : List RequestDetails) (out : Vector UInt8 rep.size),
      (confirm2All rep.service rep.mem requests out.toList).isSome = true) ∧
    ¬∀ (devices : YDevList) (service : ReportService) (r : UserRequest) (buf : Vector UInt8 4096),
      (translateYGSAP devices service r buf).isSome = true := by
  constructor
  · intro h
    have hfits := (confirm2All_fits oneDevice [some twiceTheDevice] Vector.length_toList).1
      (h oneDevice [some twiceTheDevice] (Vector.replicate 34 0))
    have hroom : 2 + 32 * devicesOf oneDevice.mem (requestAddresses twiceTheDevice) ≤ 34 :=
      hfits _ (List.mem_singleton.2 rfl) rfl _ rfl
    exact absurd hroom (by decide)
  · intro h
    have hfits := (translateYGSAP_fits (fun _ => none) .deviceHealth manyDevices _).1
      (h (fun _ => none) .deviceHealth manyDevices (Vector.replicate 4096 0))
    rcases hfits rfl (by decide) rfl with hcount | ⟨j, -, hfails⟩
    · exact absurd hcount (by decide)
    · refine hfails ?_
      have hselector : manyDevices.mem (2 + 34 * j) = 1 := if_neg (by omega)
      simp [Extracts, extractAddress, hselector, Except.toOption]

end ReportBuffers

end Isa100Gateway
