import Isa100Gateway.Lib.Buffer
import Isa100Gateway.Lib.Run
import Isa100Gateway.Lib.Tiling
import Mathlib.Logic.Function.Basic

/-!
# Report transfers (`SystemReportSvc.cpp`)

The gateway has the system manager generate reports, and asks for the blocks of each, one after the other. The state keeps beside the fields of the code what a transfer is about: the data that the system manager announced, and the spans of it that were requested.
-/

namespace Isa100Gateway

inductive ReportService where
  | deviceList
  | topology
  | schedule
  | deviceHealth
  | neighborHealth
  | networkHealth
  | networkResource
deriving DecidableEq

def ReportService.all : List ReportService :=
  [.deviceList, .topology, .schedule, .deviceHealth, .neighborHealth, .networkHealth, .networkResource]

/-- The fields of `Report` that the transfer uses. A cell of the buffer has no value before it is stored. -/
structure Report where
  handler : UInt32
  size : UInt32
  bin : Option (List (Option UInt8))
  received : UInt32

namespace Report

def start : Report := ⟨0, 0, none, 0⟩

def nextBlockSize (r : Report) (maxBlockSize : UInt32) : UInt32 :=
  if r.size - r.received < maxBlockSize then r.size - r.received else maxBlockSize

def isComplete (r : Report) : Bool := r.received ≠ 0 && r.received = r.size

end Report

def SystemReportSvc.packets (maxBlockSize size : UInt32) : UInt32 :=
  size / maxBlockSize + if size % maxBlockSize ≠ 0 then 1 else 0

/-- A report that the system manager has generated: a handler, and the data behind the size. -/
structure AnnouncedReport where
  handler : UInt32
  data : List UInt8
  fits : data.length < 2 ^ 32

def AnnouncedReport.size (a : AnnouncedReport) : UInt32 := UInt32.ofNat a.data.length

theorem AnnouncedReport.size_toNat (a : AnnouncedReport) : a.size.toNat = a.data.length := by
  rw [AnnouncedReport.size, UInt32.toNat_ofNat', Nat.mod_eq_of_lt a.fits]

structure GenerateReportRsp where
  maxBlockSize : UInt32
  report : ReportService → AnnouncedReport

/-- What a transfer is about: the data announced, the spans requested, and whether the report was invalidated since. -/
structure Transfer where
  number : Nat
  data : List UInt8
  requested : List (Nat × Nat)
  invalidated : Bool

structure BlockRequest where
  service : ReportService
  handler : UInt32
  offset : UInt32
  size : UInt16
  number : Nat
  data : List UInt8

def BlockRequest.block (q : BlockRequest) : List UInt8 := (q.data.drop q.offset.toNat).take q.size.toNat

def setGPDU (data : List UInt8) (q : Nat) (latency reliability : UInt8) : List UInt8 :=
  ((data.set q latency).set (q + 1) reliability).set (q + 2) reliability

structure GPDUSums where
  data : List UInt8
  sumLatency : UInt32
  sumReliability : UInt32
  deviceNumber : UInt32

def fillDevice (stats : List UInt8 → Option (UInt8 × UInt8)) (sums : GPDUSums) (i : Nat) : GPDUSums :=
  match stats ((sums.data.drop (36 + 43 * i)).take 16) with
  | none => sums
  | some (latency, reliability) =>
    ⟨setGPDU sums.data (36 + 43 * i + 36) latency reliability, sums.sumLatency + latency.toUInt32,
      sums.sumReliability + reliability.toUInt32, sums.deviceNumber + 1⟩

def fillGPDUStats (stats : List UInt8 → Option (UInt8 × UInt8)) (data : List UInt8) : List UInt8 :=
  let devices := (data.getD 0 0).toNat * 256 + (data.getD 1 0).toNat
  if data.length < 2 ^ 31 ∧ 36 ≤ data.length ∧ 43 * devices + 36 ≤ data.length then
    let sums := (List.range devices).foldl (fillDevice stats) ⟨data, 0, 0, 0⟩
    if sums.deviceNumber = 0 then sums.data
    else setGPDU sums.data 29 (sums.sumLatency / sums.deviceNumber).toUInt8
      (sums.sumReliability / sums.deviceNumber).toUInt8
  else data

def finishReport (stats : List UInt8 → Option (UInt8 × UInt8)) (service : ReportService)
    (cells : List (Option UInt8)) : List (Option UInt8) :=
  if service = .networkHealth then (fillGPDUStats stats (cells.map (·.getD 0))).map some else cells

@[simp]
theorem length_setGPDU (data : List UInt8) (q : Nat) (latency reliability : UInt8) :
    (setGPDU data q latency reliability).length = data.length := by
  simp [setGPDU]

theorem length_fillDevice (stats : List UInt8 → Option (UInt8 × UInt8)) (sums : GPDUSums) (i : Nat) :
    (fillDevice stats sums i).data.length = sums.data.length := by
  unfold fillDevice
  split
  · rfl
  · exact length_setGPDU _ _ _ _

theorem length_fillDevices (stats : List UInt8 → Option (UInt8 × UInt8)) (devices : List Nat) (sums : GPDUSums) :
    (devices.foldl (fillDevice stats) sums).data.length = sums.data.length := by
  induction devices generalizing sums with
  | nil => rfl
  | cons i devices ih => rw [List.foldl_cons, ih, length_fillDevice]

theorem length_fillGPDUStats (stats : List UInt8 → Option (UInt8 × UInt8)) (data : List UInt8) :
    (fillGPDUStats stats data).length = data.length := by
  unfold fillGPDUStats
  simp only
  split_ifs
  · exact length_fillDevices stats _ _
  · rw [length_setGPDU, length_fillDevices]
  · rfl

theorem length_finishReport (stats : List UInt8 → Option (UInt8 × UInt8)) (service : ReportService)
    (cells : List (Option UInt8)) : (finishReport stats service cells).length = cells.length := by
  unfold finishReport
  split
  · rw [List.length_map, length_fillGPDUStats, List.length_map]
  · rfl

structure SystemReportSvc where
  maxBlockSize : UInt32
  reports : ReportService → Report
  transfers : ReportService → Transfer
  pending : List BlockRequest
  transferCount : Nat

namespace SystemReportSvc

def start : SystemReportSvc where
  maxBlockSize := 0
  reports _ := .start
  transfers _ := ⟨0, [], [], false⟩
  pending := []
  transferCount := 1

def setReport (s : SystemReportSvc) (service : ReportService) (r : Report) (t : Transfer) : SystemReportSvc :=
  { s with
    reports := Function.update s.reports service r
    transfers := Function.update s.transfers service t }

def clean (s : SystemReportSvc) (service : ReportService) : SystemReportSvc :=
  s.setReport service { s.reports service with bin := none, received := 0 }
    { s.transfers service with invalidated := true }

def reset (s : SystemReportSvc) (service : ReportService) : SystemReportSvc :=
  s.setReport service { s.reports service with received := 0 } { s.transfers service with invalidated := true }

def reqReportBlock (s : SystemReportSvc) (service : ReportService) (sent : Bool) : SystemReportSvc :=
  let r := s.reports service
  let t := s.transfers service
  let size := (r.nextBlockSize s.maxBlockSize).toUInt16
  if sent then
    { s.setReport service r { t with requested := t.requested ++ [(r.received.toNat, size.toNat)] } with
      pending := s.pending ++ [⟨service, r.handler, r.received, size, t.number, t.data⟩] }
  else s.clean service

def newReport (s : SystemReportSvc) (service : ReportService) (a : AnnouncedReport) (sent : Bool) : SystemReportSvc :=
  reqReportBlock
    { s.setReport service ⟨a.handler, a.size, some (List.replicate a.size.toNat none), 0⟩
        ⟨s.transferCount, a.data, [], false⟩ with
      transferCount := s.transferCount + 1 }
    service sent

@[simp]
theorem setReport_same (s : SystemReportSvc) (service : ReportService) (r : Report) (t : Transfer) :
    (s.setReport service r t).reports service = r ∧ (s.setReport service r t).transfers service = t := by
  simp [setReport]

@[simp]
theorem maxBlockSize_setReport (s : SystemReportSvc) (service : ReportService) (r : Report) (t : Transfer) :
    (s.setReport service r t).maxBlockSize = s.maxBlockSize := rfl

@[simp]
theorem maxBlockSize_reqReportBlock (s : SystemReportSvc) (service : ReportService) (sent : Bool) :
    (s.reqReportBlock service sent).maxBlockSize = s.maxBlockSize := by
  cases sent <;> rfl

@[simp]
theorem maxBlockSize_newReport (s : SystemReportSvc) (service : ReportService) (a : AnnouncedReport) (sent : Bool) :
    (s.newReport service a sent).maxBlockSize = s.maxBlockSize := by
  rw [newReport, maxBlockSize_reqReportBlock]
  rfl

/-- The check of the response to `SMO.generateReport`. -/
def Usable (rsp : GenerateReportRsp) (service : ReportService) : Prop :=
  (rsp.report service).size ≠ 0 ∧ (rsp.report service).handler ≠ 0

instance (rsp : GenerateReportRsp) (service : ReportService) : Decidable (Usable rsp service) :=
  inferInstanceAs (Decidable (_ ∧ _))

def newOtherReport (rsp : GenerateReportRsp) (service : ReportService) (sent : ReportService → Bool)
    (s : SystemReportSvc) (other : ReportService) : SystemReportSvc :=
  if (rsp.report other).size ≠ 0 ∧ service ≠ other then s.newReport other (rsp.report other) (sent other) else s

/-- The response to `SMO.generateReport`, as the request of a client for `service` has it. -/
def generateReportRsp (s : SystemReportSvc) (service : ReportService) (rsp : GenerateReportRsp)
    (sent : ReportService → Bool) : SystemReportSvc :=
  if Usable rsp service then
    (ReportService.all.foldl (newOtherReport rsp service sent) { s with maxBlockSize := rsp.maxBlockSize }).newReport
      service (rsp.report service) (sent service)
  else s

/-- "offset can only be multiple of m_dwMaxBlockSize", "only last packet can be smaller", "cannot receive more than requested". -/
def ValidCall (s : SystemReportSvc) (q : BlockRequest) : Prop :=
  q.offset % s.maxBlockSize = 0 ∧ (q.size.toUInt32 < s.maxBlockSize →
      packets s.maxBlockSize q.offset = packets s.maxBlockSize (s.reports q.service).size - 1) ∧
    q.size.toUInt32 ≤ s.maxBlockSize

instance (s : SystemReportSvc) (q : BlockRequest) : Decidable (ValidCall s q) := inferInstanceAs (Decidable (_ ∧ _))

def Expected (s : SystemReportSvc) (q : BlockRequest) : Prop :=
  (s.reports q.service).bin ≠ none ∧ q.handler = (s.reports q.service).handler ∧
    (s.reports q.service).received = q.offset

instance (s : SystemReportSvc) (q : BlockRequest) : Decidable (Expected s q) := inferInstanceAs (Decidable (_ ∧ _))

/-- What `addReportBlock` does with a block that it takes. A write outside the buffer has no value. -/
def storeBlock (s : SystemReportSvc) (q : BlockRequest) (stats : List UInt8 → Option (UInt8 × UInt8)) (sent : Bool) :
    Option SystemReportSvc := do
  let r := s.reports q.service
  let cells ← Buffer.write (r.bin.getD []) q.offset.toNat (q.block.map some)
  let received := q.offset + q.size.toUInt32
  if received = r.size then
    pure (s.setReport q.service { r with bin := some (finishReport stats q.service cells), received := received }
      (s.transfers q.service))
  else
    pure ((s.setReport q.service { r with bin := some cells, received := received }
      (s.transfers q.service)).reqReportBlock q.service sent)

def addReportBlock (s : SystemReportSvc) (q : BlockRequest) (stats : List UInt8 → Option (UInt8 × UInt8))
    (sent : Bool) : Option SystemReportSvc :=
  if s.maxBlockSize = 0 then none
  else if ValidCall s q ∧ Expected s q then s.storeBlock q stats sent
  else some s

end SystemReportSvc

/-- What happens to the service: a request of a client, a response, a request that is answered with an error or not at all, and the loss of the contract with the system manager. -/
inductive ReportEvent where
  | requestReport (service : ReportService)
  | generateReportRsp (service : ReportService) (rsp : GenerateReportRsp) (sent : ReportService → Bool)
  | getBlockRsp (k : Nat) (len : UInt16) (stats : List UInt8 → Option (UInt8 × UInt8)) (sent : Bool)
  | dropped (k : Nat)
  | contractLost

namespace SystemReportSvc

def step (s : SystemReportSvc) : ReportEvent → Option SystemReportSvc
  | .requestReport service => some (s.reset service)
  | .generateReportRsp service rsp sent => some (s.generateReportRsp service rsp sent)
  | .getBlockRsp k len stats sent =>
    match s.pending[k]? with
    | none => some s
    | some q =>
      let s := { s with pending := s.pending.eraseIdx k }
      if len = q.size then s.addReportBlock q stats sent else some s
  | .dropped k => some { s with pending := s.pending.eraseIdx k }
  | .contractLost => some (ReportService.all.foldl clean s)

end SystemReportSvc

end Isa100Gateway
