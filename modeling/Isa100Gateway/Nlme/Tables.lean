import Isa100Gateway.Asl.Queue

/-!
# Tables of the network layer (`nlme.cpp`)

The route table and the address translation table, with the functions that set and delete their rows. The third table of the layer, the contracts, is part of the state of the ASL, which walks it on every transmission.
-/

namespace Isa100Gateway

structure RouteAttributes where
  destAddress : Ipv6Addr
  nextHopAddress : Ipv6Addr
  nwkHopLimit : UInt8
  outgoingInterface : UInt8

abbrev RoutesMap := AList (fun _ : Ipv6Addr => RouteAttributes)

def delRoute (idx : Ipv6Addr) (routes : RoutesMap) : UInt8 × RoutesMap :=
  (sfcSuccess, routes.erase idx)

def storeRoute (row : RouteAttributes) (routes : RoutesMap) : UInt8 × RoutesMap :=
  match routes.lookup row.destAddress with
  | some _ => (sfcSuccess, routes.insert row.destAddress row)
  | none =>
    if routes.entries.length ≥ maxRoutesNo then (sfcInsufficientDeviceResources, routes)
    else (sfcSuccess, routes.insert row.destAddress row)

def setRoute (idx : Ipv6Addr) (row : RouteAttributes) (routes : RoutesMap) : UInt8 × RoutesMap :=
  storeRoute row (if idx ≠ row.destAddress then (delRoute idx routes).2 else routes)

structure ShortAddr where
  first : UInt8
  second : UInt8
deriving DecidableEq

structure AttRow where
  ipv6Addr : Ipv6Addr
  shortAddress : ShortAddr
deriving DecidableEq

/-- An allocated `NLME_ADDR_TRANS_ATTRIBUTES`. `serial` stands for its address, which the two maps share; the source has no such field. -/
structure AttEntry where
  serial : Nat
  row : AttRow
deriving DecidableEq

structure AttTable where
  map16toEntry : AList (fun _ : Ipv6Addr => AttEntry)
  map2toEntry : AList (fun _ : ShortAddr => AttEntry)
  nextSerial : Nat

def AttTable.init : AttTable where
  map16toEntry := ∅
  map2toEntry := ∅
  nextSerial := 0

def findATT (ipv6Addr : Ipv6Addr) (att : AttTable) : Option AttEntry :=
  att.map16toEntry.lookup ipv6Addr

def findATTByShortAddr (shortAddr : ShortAddr) (att : AttTable) : Option AttEntry :=
  att.map2toEntry.lookup shortAddr

def delATT (idx : Ipv6Addr) (att : AttTable) : UInt8 × AttTable :=
  match att.map16toEntry.lookup idx with
  | none => (sfcInvalidElementIndex, att)
  | some entry =>
    (sfcSuccess, { att with
      map16toEntry := att.map16toEntry.erase idx
      map2toEntry := att.map2toEntry.erase entry.row.shortAddress })

def addEntry (row : AttRow) (att : AttTable) : UInt8 × AttTable :=
  if att.map16toEntry.entries.length ≥ maxAddrTranslationsNo then
    (sfcInsufficientDeviceResources, att)
  else
    let entry : AttEntry := { serial := att.nextSerial, row := row }
    (sfcSuccess, {
      map16toEntry := att.map16toEntry.insert row.ipv6Addr entry
      map2toEntry := att.map2toEntry.insert row.shortAddress entry
      nextSerial := att.nextSerial + 1 })

def storeATT (row : AttRow) (att : AttTable) : UInt8 × AttTable :=
  match att.map16toEntry.lookup row.ipv6Addr, att.map2toEntry.lookup row.shortAddress with
  | some long, some short =>
    if long.serial = short.serial then (sfcSuccess, att) else (sfcInconsistentContent, att)
  | none, some _ => (sfcInconsistentContent, att)
  | some _, none => addEntry row (delATT row.ipv6Addr att).2
  | none, none => addEntry row att

def setATT (idx : Ipv6Addr) (row : AttRow) (att : AttTable) : UInt8 × AttTable :=
  storeATT row (if idx ≠ row.ipv6Addr then (delATT idx att).2 else att)

/-- `NLME_AddATT`. Both bytes of the short address are filled from `p_u16ShortAddress >> 8`. -/
def addATT (longAddress : Ipv6Addr) (shortAddress : UInt16) (att : AttTable) : UInt8 × AttTable :=
  setATT longAddress
    { ipv6Addr := longAddress
      shortAddress := ⟨(shortAddress >>> 8).toUInt8, (shortAddress >>> 8).toUInt8⟩ } att

structure NlmeTables where
  routes : RoutesMap
  att : AttTable
  asl : AslState

def NlmeTables.init : NlmeTables where
  routes := ∅
  att := AttTable.init
  asl := AslState.init

inductive NlmeAction where
  | setRoute (idx : Ipv6Addr) (row : RouteAttributes)
  | delRoute (idx : Ipv6Addr)
  | setATT (idx : Ipv6Addr) (row : AttRow)
  | delATT (idx : Ipv6Addr)
  | addATT (longAddress : Ipv6Addr) (shortAddress : UInt16)
  | asl (action : AslAction)

def nlmeStep (st : NlmeTables) : NlmeAction → NlmeTables
  | .setRoute idx row => { st with routes := (setRoute idx row st.routes).2 }
  | .delRoute idx => { st with routes := (delRoute idx st.routes).2 }
  | .setATT idx row => { st with att := (setATT idx row st.att).2 }
  | .delATT idx => { st with att := (delATT idx st.att).2 }
  | .addATT longAddress shortAddress => { st with att := (addATT longAddress shortAddress st.att).2 }
  | .asl action => { st with asl := aslStep st.asl action }

end Isa100Gateway
