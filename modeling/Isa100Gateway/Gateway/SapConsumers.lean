import Isa100Gateway.Gateway.SapStruct

/-!
# The consumers of the reports

The `formatReport` functions of `SystemReportSvc.cpp` and `CGwUAP::UpdatePublishRate`, as far as they read the report. A formatted report is given by the spans that are copied into it.
-/

namespace Isa100Gateway

open MemoryProbe SapStruct

variable (mem : Nat → UInt8)

inductive FormattedReport
  | unchanged
  | failed
  | devices (spans : List (Nat × Nat))

def readAddress (q : Nat) : Probe (List UInt8) :=
  { value := (List.range 16).map fun i => mem (q + i), spans := [(q, 16)] }

def isNetworkAddress (address : List UInt8) (q : Nat) : Probe Bool := do
  let found ← readAddress mem q
  pure (decide (found = address))

def isDeviceListFilterReq (details : List UInt8) : Bool := decide (details ≠ List.replicate 16 0)

def formatReportDeviceList (len : Nat) (details : List UInt8) : Probe FormattedReport :=
  if ¬ isDeviceListFilterReq details then pure .unchanged
  else do
    let size ← DeviceListRsp.size mem
    if len < size then pure .failed
    else do
      let count ← net16 mem 0
      let found ← findRecord (isNetworkAddress mem details) (DeviceListRsp.Device.next mem) count 2
      match found with
      | none => pure .failed
      | some q => do
        let size ← DeviceListRsp.Device.size mem q
        touch q size
        pure (.devices [(q, size)])

def formatReportSchedule (len : Nat) (details : List UInt8) : Probe FormattedReport := do
  let size ← ScheduleReportRsp.size mem
  if len < size then pure .failed
  else do
    touch 0 len
    let device ← ScheduleReportRsp.getDeviceSchedulePtr mem
    let count ← net16 mem 1
    let found ← findRecord (isNetworkAddress mem details) (ScheduleReportRsp.DeviceSchedule.next mem) count device
    match found with
    | none => pure .failed
    | some q => do
      let size ← ScheduleReportRsp.DeviceSchedule.size mem q
      touch q size
      pure (.devices [(q, size)])

def healthOfDevices (count : Nat) : List (List UInt8) → Probe (List (Nat × Nat))
  | [] => pure []
  | address :: addresses => do
    let found ← findRecord (isNetworkAddress mem address) DeviceHealthRsp.DeviceHealth.next count 2
    match found with
    | none => healthOfDevices count addresses
    | some q => do
      touch q 32
      let spans ← healthOfDevices count addresses
      pure ((q, 32) :: spans)

def formatReportDeviceHealth (len : Nat) (addresses : List (List UInt8)) : Probe FormattedReport := do
  let size ← DeviceHealthRsp.size mem
  if len < size then pure .failed
  else do
    let count ← net16 mem 0
    let spans ← healthOfDevices mem count addresses
    pure (if spans = [] then .failed else .devices spans)

def isa100GwUap : Nat := 2

/-- What `UpdatePublishRate` depends on besides the report: the address of the gateway and the settings of the log. -/
structure PublishRateContext where
  gwAddress : List UInt8
  allowDBG : Bool
  displayReports : Bool

def updateContractRate (ctx : PublishRateContext) (pD this : Nat) : Probe Unit := do
  let serviceType ← u8 mem (this + 2)
  doIf (serviceType = 0) (touch (this + 38) 2)
  doIf (ctx.allowDBG = true) do
    touch this 7
    touch pD 16
    touch (this + 7) 24
    doIf (serviceType = 0) (touch (this + 35) 2)
    doIf (serviceType ≠ 0) (touch (this + 40) 2)
  doIf (serviceType = 0) do
    let destination ← readAddress mem (this + 9)
    doIf (destination = ctx.gwAddress) do
      let destinationSAP ← raw16 mem (this + 25)
      doIf (destinationSAP = isa100GwUap) do
        doIf (ctx.displayReports ∨ ctx.allowDBG) (touch this 2)
        touch pD 16
        touch (this + 7) 2
        touch (this + 35) 5

def sizeofContract (_this : Nat) : Probe Nat := pure 45

def updatePublishRate (ctx : PublishRateContext) (len : Nat) : Probe Unit := do
  let valid ← ContractsAndRoutes.valid mem len
  doIf (valid = true) (visitList (pure 1) (u8 mem 0) (fun pD =>
    visitList (pure (pD + 18)) (u8 mem (pD + 16)) (updateContractRate mem ctx pD) (nextOf sizeofContract))
    (ContractsAndRoutes.DeviceContractsAndRoutes.next mem))

inductive SapReport
  | deviceList
  | topology
  | schedule
  | deviceHealth
  | contractsAndRoutes

structure SapRequest where
  details : List UInt8
  addresses : List (List UInt8)
  ctx : PublishRateContext

def SapReport.valid (p : Int) : SapReport → Probe Bool
  | .deviceList => DeviceListRsp.valid mem p
  | .topology => TopologyReportRsp.valid mem p
  | .schedule => ScheduleReportRsp.valid mem p
  | .deviceHealth => DeviceHealthRsp.valid mem p
  | .contractsAndRoutes => ContractsAndRoutes.valid mem p

/-- `SIZE()`, which `ContractsAndRoutes` does not have. -/
def SapReport.size : SapReport → Option (Probe Nat)
  | .deviceList => some (DeviceListRsp.size mem)
  | .topology => some (TopologyReportRsp.size mem)
  | .schedule => some (ScheduleReportRsp.size mem)
  | .deviceHealth => some (DeviceHealthRsp.size mem)
  | .contractsAndRoutes => none

def SapReport.elements : SapReport → Probe Unit
  | .deviceList => DeviceListRsp.elements mem
  | .topology => TopologyReportRsp.elements mem
  | .schedule => ScheduleReportRsp.elements mem
  | .deviceHealth => DeviceHealthRsp.elements mem
  | .contractsAndRoutes => ContractsAndRoutes.elements mem

/-- What consumes a report. `formatReport` leaves a topology as it is. -/
def SapReport.consume (len : Nat) (request : SapRequest) : SapReport → Probe Unit
  | .deviceList => do
    let _ ← formatReportDeviceList mem len request.details
  | .topology => pure ()
  | .schedule => do
    let _ ← formatReportSchedule mem len request.details
  | .deviceHealth => do
    let _ ← formatReportDeviceHealth mem len request.addresses
  | .contractsAndRoutes => updatePublishRate mem request.ctx len

/-- The validator of a report reads inside the `n` bytes, and what it accepts is safe to walk. -/
structure SapReport.Protects (n : Nat) (rep : SapReport) : Prop where
  valid : Inside n (rep.valid mem n)
  size : (rep.valid mem n).value = true → ∀ size ∈ rep.size mem, size.value ≤ n ∧ Inside n size
  elements : (rep.valid mem n).value = true → Inside n (rep.elements mem)
  consume : (rep.valid mem n).value = true → ∀ request, Inside n (rep.consume mem n request)

end Isa100Gateway
