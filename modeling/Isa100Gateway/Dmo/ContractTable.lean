import Isa100Gateway.Dmo.ContractMessages

/-!
# The contract table of a device over the network (`dmap_dmo.cpp`)

Rows are read and written as records of 41 bytes. Writing and parsing a record are inverse, so that a request changes the rows that it names and no others.
-/

namespace Isa100Gateway

open Stream List Option

def dmoContractBufSize : Nat := 41

def dmoContractTable : UInt16 := 26

def dmoTerminateContract : UInt8 := 1
def dmoModifyContract : UInt8 := 2

def sfcIncompatibleAttribute : UInt8 := 15
def sfcDeviceSoftwareCondition : UInt8 := 24

def contractRecord (c : DmoContractAttribute) : List UInt8 :=
  write16 c.contractID ++ (c.contractStatus :: c.serviceType :: (write32 c.activationTAI ++ (write16 c.srcTLPort ++
    (c.dstAddr128 ++ (write16 c.dstTLPort ++ (write32 c.assignedExpTime ++ (c.priority ::
      (write16 c.assignedMaxNSDUSize ++ (c.reliability :: insertBandwidthInfo c.bandwidth c.serviceType)))))))))

/-- `DMO_binarizeContract` with `bufLen` bytes of room. -/
def binarizeContract (c : DmoContractAttribute) (bufLen : UInt16) : UInt8 × List UInt8 :=
  if bufLen.toNat < dmoContractBufSize then (sfcDeviceSoftwareCondition, []) else (sfcSuccess, contractRecord c)

theorem length_insertBandwidthInfo (bandwidth : DmoContractBandwidth) (serviceType : UInt8) :
    (insertBandwidthInfo bandwidth serviceType).length = 5 := by
  rw [insertBandwidthInfo]
  split <;> rfl

theorem length_contractRecord (c : DmoContractAttribute) : (contractRecord c).length = 25 + c.dstAddr128.length := by
  simp only [contractRecord, length_append, length_cons, length_write16, length_write32, length_insertBandwidthInfo]
  omega

/-! ### Parsing what was written -/

theorem decodes_bandwidth (bandwidth : DmoContractBandwidth) (serviceType : UInt8) :
    Decodes (extractBandwidthInfo serviceType) (insertBandwidthInfo bandwidth serviceType) bandwidth := by
  rw [extractBandwidthInfo, insertBandwidthInfo]
  apply (decodes_read16 _).bind
  split
  · exact decodes_cons (decodes_read16 _).bind_pure
  · exact (decodes_read16 _).bind (decodes_read8 _).bind_pure

theorem decodes_record (c old : DmoContractAttribute) (haddr : c.dstAddr128.length = 16) :
    Decodes (parseContract old) (contractRecord c) { c with contractReqType := old.contractReqType } := by
  have haddr' : Decodes (readBytes 16) c.dstAddr128 c.dstAddr128 := haddr ▸ decodes_readBytes c.dstAddr128
  rw [parseContract, contractRecord]
  apply (decodes_read16 _).bind
  apply decodes_cons
  apply decodes_cons
  apply (decodes_read32 _).bind
  apply (decodes_read16 _).bind
  apply haddr'.bind
  apply (decodes_read16 _).bind
  apply (decodes_read32 _).bind
  apply decodes_cons
  apply (decodes_read16 _).bind
  apply decodes_cons
  exact (decodes_bandwidth _ _).bind_pure

/-! ### Writing what was parsed -/

theorem keeps_bandwidth (serviceType : UInt8) :
    Keeps (extractBandwidthInfo serviceType) [] fun bandwidth => insertBandwidthInfo bandwidth serviceType := by
  rw [extractBandwidthInfo]
  apply keeps_read16.bind
  intro period
  split
  · rename_i hperiodic
    refine keeps_read8.bind fun phase => keeps_read16.bind fun deadline => keeps_pure ?_
    rw [insertBandwidthInfo, if_pos hperiodic]
    rfl
  · rename_i haperiodic
    refine keeps_read16.bind fun excessBurst => keeps_read8.bind fun maxSendWindow => keeps_pure ?_
    rw [insertBandwidthInfo, if_neg haperiodic]
    rfl

theorem keeps_record (old : DmoContractAttribute) : Keeps (parseContract old) [] contractRecord := by
  rw [parseContract]
  refine keeps_read16.bind fun contractID => ?_
  refine keeps_read8.bind fun contractStatus => ?_
  refine keeps_read8.bind fun serviceType => ?_
  refine keeps_read32.bind fun activationTAI => ?_
  refine keeps_read16.bind fun srcTLPort => ?_
  refine (keeps_readBytes 16).bind fun dstAddr128 => ?_
  refine keeps_read16.bind fun dstTLPort => ?_
  refine keeps_read32.bind fun assignedExpTime => ?_
  refine keeps_read8.bind fun priority => ?_
  refine keeps_read16.bind fun assignedMaxNSDUSize => ?_
  refine keeps_read8.bind fun reliability => ?_
  refine (keeps_bandwidth serviceType).bind fun bandwidth => keeps_pure ?_
  simp [contractRecord]

theorem takes_bandwidth (serviceType : UInt8) : Takes (extractBandwidthInfo serviceType) 5 := by
  rw [extractBandwidthInfo]
  refine takes_read16.bind (n := 3) fun period => ?_
  split
  · exact takes_read8.bind fun _ => takes_read16.bind fun _ => takes_pure _
  · exact takes_read16.bind fun _ => takes_read8.bind fun _ => takes_pure _

theorem takes_record (old : DmoContractAttribute) : Takes (parseContract old) 41 := by
  rw [parseContract]
  exact takes_read16.bind fun _ => takes_read8.bind fun _ => takes_read8.bind fun serviceType =>
    takes_read32.bind fun _ => takes_read16.bind fun _ => (takes_readBytes 16).bind fun _ => takes_read16.bind fun _ =>
      takes_read32.bind fun _ => takes_read8.bind fun _ => takes_read16.bind fun _ => takes_read8.bind fun _ =>
        (takes_bandwidth serviceType).bind fun _ => takes_pure _

theorem exists_parseContract (old : DmoContractAttribute) {bytes : List UInt8}
    (hlen : dmoContractBufSize ≤ bytes.length) :
    ∃ c, parseContract old bytes = some (c, bytes.drop 41) ∧ contractRecord c = bytes.take 41 := by
  obtain ⟨c, hparse⟩ := takes_record old bytes hlen
  refine ⟨c, hparse, ?_⟩
  have hbytes : bytes = contractRecord c ++ bytes.drop 41 := keeps_record old bytes c _ hparse
  have hsplit := (take_append_drop 41 bytes).trans hbytes
  exact (append_cancel_right hsplit).symm

/-! ## The table -/

namespace DmoTable

def read (table : DmoContractsMap) (index1 bufLen : UInt16) : UInt8 × List UInt8 :=
  match table.lookup index1 with
  | none => (sfcInvalidElementIndex, [])
  | some c => binarizeContract c bufLen

def deleteContract (contractID : UInt16) (table : DmoContractsMap) : UInt8 × DmoContractsMap :=
  match table.lookup contractID with
  | none => (sfcInvalidElementIndex, table)
  | some _ => (sfcSuccess, table.erase contractID)

/-- `DMO_setContract`. `new` is what the memory of a new contract holds. -/
def setContract (new : DmoContractAttribute) (deleteIndex : UInt16) (data : List UInt8) (table : DmoContractsMap) :
    Option (UInt8 × DmoContractsMap) :=
  if data.length < dmoContractBufSize then some (sfcInvalidSize, table)
  else do
    let (index, _) ← read16 data
    let table := if deleteIndex ≠ index then (deleteContract deleteIndex table).2 else table
    match table.lookup index with
    | none =>
      if maxContractNo ≤ table.entries.length then some (sfcInsufficientDeviceResources, table)
      else do
        let (c, _) ← parseContract new data
        some (sfcSuccess, table.insert index c)
    | some old => do
      let (c, _) ← parseContract old data
      some (sfcSuccess, table.insert index c)

/-- `DMO_Execute`: `p_ucReqLen` bytes at `p_pReqBuf`. The cutover time behind the attribute is not used. -/
def execute (new : DmoContractAttribute) (methodID : UInt8) (reqBuf : List UInt8) (table : DmoContractsMap) :
    Option (UInt8 × DmoContractsMap) :=
  if methodID = dmoModifyContract ∨ methodID = dmoTerminateContract then
    if reqBuf.length < 6 then some (sfcInvalidSize, table)
    else do
      let (attrID, _) ← read16 reqBuf
      if attrID ≠ dmoContractTable then some (sfcIncompatibleAttribute, table)
      else
        let reqBuf := reqBuf.drop 6
        if methodID = dmoModifyContract then
          if reqBuf.length < 2 then some (sfcInvalidSize, table)
          else do
            let (index, data) ← read16 reqBuf
            setContract new index data table
        else
          if reqBuf.length ≠ 2 then some (sfcInvalidSize, table)
          else do
            let (index, _) ← read16 reqBuf
            some (deleteContract index table)
  else some (sfcInvalidMethod, table)

structure Request where
  new : DmoContractAttribute
  methodID : UInt8
  reqBuf : List UInt8

def run : List Request → DmoContractsMap → Option DmoContractsMap
  | [], table => some table
  | r :: requests, table => do
    let (_, table) ← execute r.new r.methodID r.reqBuf table
    run requests table

/-! ### What a request does to a row -/

def WellFormed (index : UInt16) (c : DmoContractAttribute) : Prop := c.contractID = index ∧ c.dstAddr128.length = 16

def BeginsWith (data : List UInt8) (index : UInt16) : Prop := ∃ rest, read16 data = some (index, rest)

def Request.Names (r : Request) (index : UInt16) : Prop :=
  BeginsWith (r.reqBuf.drop 6) index ∨ BeginsWith (r.reqBuf.drop 8) index

def RowKept (table table' : DmoContractsMap) (index : UInt16) : Prop := table'.lookup index = table.lookup index

def RowWritten (table' : DmoContractsMap) (index : UInt16) : Prop :=
  table'.lookup index = none ∨ ∃ c, table'.lookup index = some c ∧ WellFormed index c

theorem wellFormed_parseContract {old c : DmoContractAttribute} {data rest rest' : List UInt8} {index : UInt16}
    (hlen : dmoContractBufSize ≤ data.length) (hindex : read16 data = some (index, rest))
    (hparse : parseContract old data = some (c, rest')) : WellFormed index c := by
  obtain ⟨c', hparse', hrecord⟩ := exists_parseContract old hlen
  obtain rfl : c = c' := congrArg Prod.fst (Option.some.inj (hparse.symm.trans hparse'))
  have hdata : data = write16 index ++ rest := keeps_read16 _ _ _ hindex
  have hsize := congrArg length hrecord
  rw [length_contractRecord, length_take_of_le (by exact hlen)] at hsize
  refine ⟨?_, by omega⟩
  have hfront : write16 c.contractID = write16 index := by
    have htake := congrArg (take 2) hrecord
    rw [contractRecord, take_left' (length_write16 _), take_take, hdata] at htake
    exact htake.trans (take_left' (length_write16 _))
  have hback := decodes_read16 c.contractID []
  rw [hfront, decodes_read16] at hback
  exact (congrArg Prod.fst (Option.some.inj hback)).symm

theorem deleteContract_rows (contractID : UInt16) (table : DmoContractsMap) (index : UInt16) :
    RowKept table (deleteContract contractID table).2 index ∨
      index = contractID ∧ (deleteContract contractID table).2.lookup index = none := by
  rw [deleteContract]
  split
  · exact Or.inl rfl
  · by_cases h : index = contractID
    · subst h
      exact Or.inr ⟨rfl, AList.lookup_erase _ _⟩
    · exact Or.inl (AList.lookup_erase_ne h)

theorem setContract_rows (new : DmoContractAttribute) (deleteIndex : UInt16) (data : List UInt8)
    (table : DmoContractsMap) :
    ∃ sfc table', setContract new deleteIndex data table = some (sfc, table') ∧ ∀ index, RowKept table table' index ∨
      (index = deleteIndex ∨ BeginsWith data index) ∧ RowWritten table' index := by
  rw [setContract]
  split
  · exact ⟨_, _, rfl, fun _ => Or.inl rfl⟩
  · rename_i hlong
    have hlen : dmoContractBufSize ≤ data.length := Nat.not_lt.mp hlong
    obtain ⟨dataIndex, hread⟩ := takes_read16 data ((by decide : 2 ≤ dmoContractBufSize).trans hlen)
    rw [hread]
    simp only [bind_eq_bind, bind_some]
    have hdeleted : ∀ index, RowKept table
          (if deleteIndex ≠ dataIndex then (deleteContract deleteIndex table).2 else table) index ∨
        index = deleteIndex ∧
          (if deleteIndex ≠ dataIndex then (deleteContract deleteIndex table).2 else table).lookup index = none := by
      intro index
      split
      · exact deleteContract_rows deleteIndex table index
      · exact Or.inl rfl
    generalize (if deleteIndex ≠ dataIndex then (deleteContract deleteIndex table).2 else table) = deleted at hdeleted ⊢
    have hwrite : ∀ old, ∃ c rest, parseContract old data = some (c, rest) ∧ ∀ index,
        RowKept table (deleted.insert dataIndex c) index ∨ (index = deleteIndex ∨ BeginsWith data index) ∧
            RowWritten (deleted.insert dataIndex c) index := by
      intro old
      obtain ⟨c, hparse, -⟩ := exists_parseContract old hlen
      refine ⟨c, _, hparse, fun index => ?_⟩
      by_cases hne : index = dataIndex
      · subst hne
        exact Or.inr ⟨Or.inr ⟨_, hread⟩, Or.inr ⟨c, AList.lookup_insert _, wellFormed_parseContract hlen hread hparse⟩⟩
      · have hother : (deleted.insert dataIndex c).lookup index = deleted.lookup index := AList.lookup_insert_ne hne
        rcases hdeleted index with hkept | ⟨heq, hgone⟩
        · exact Or.inl (hother.trans hkept)
        · exact Or.inr ⟨Or.inl heq, Or.inl (hother.trans hgone)⟩
    split
    · split
      · refine ⟨_, _, rfl, fun index => ?_⟩
        rcases hdeleted index with hkept | ⟨heq, hgone⟩
        · exact Or.inl hkept
        · exact Or.inr ⟨Or.inl heq, Or.inl hgone⟩
      · obtain ⟨c, rest, hparse, hrows⟩ := hwrite new
        exact ⟨sfcSuccess, _, by rw [hparse]; rfl, hrows⟩
    · rename_i old hfound
      obtain ⟨c, rest, hparse, hrows⟩ := hwrite old
      exact ⟨sfcSuccess, _, by rw [hparse]; rfl, hrows⟩

theorem execute_rows (r : Request) (table : DmoContractsMap) :
    ∃ sfc table', execute r.new r.methodID r.reqBuf table = some (sfc, table') ∧
      ∀ index, RowKept table table' index ∨ r.Names index ∧ RowWritten table' index := by
  have hsame : ∀ sfc, ∃ sfc' table', some (sfc, table) = some ((sfc' : UInt8), table') ∧
      ∀ index, RowKept table table' index ∨ r.Names index ∧ RowWritten table' index :=
    fun sfc => ⟨sfc, table, rfl, fun _ => Or.inl rfl⟩
  rw [execute]
  split
  · split
    · exact hsame _
    · rename_i hlong
      obtain ⟨attrID, hattr⟩ := takes_read16 r.reqBuf (by omega)
      rw [hattr]
      simp only [bind_eq_bind, bind_some]
      split
      · exact hsame _
      · split
        · split
          · exact hsame _
          · rename_i hindex
            obtain ⟨deleteIndex, hread⟩ := takes_read16 (r.reqBuf.drop 6) (Nat.not_lt.mp hindex)
            rw [hread, bind_some, drop_drop]
            rw [drop_drop] at hread
            obtain ⟨sfc, table', hset, hrows⟩ := setContract_rows r.new deleteIndex (r.reqBuf.drop (6 + 2)) table
            refine ⟨sfc, table', hset, fun index => (hrows index).imp_right fun ⟨hnamed, hwritten⟩ => ⟨?_, hwritten⟩⟩
            rcases hnamed with rfl | hdata
            · exact Or.inl ⟨_, hread⟩
            · exact Or.inr hdata
        · split
          · exact hsame _
          · rename_i hindex
            obtain ⟨contractID, hread⟩ := takes_read16 (r.reqBuf.drop 6) (not_not.mp hindex).ge
            rw [hread, bind_some]
            refine ⟨_, _, rfl, fun index => ?_⟩
            rcases deleteContract_rows contractID table index with hkept | ⟨rfl, hgone⟩
            · exact Or.inl hkept
            · exact Or.inr ⟨Or.inl ⟨_, hread⟩, Or.inl hgone⟩
  · exact hsame _

/-! ### Runs -/

theorem run_rows (requests : List Request) (table : DmoContractsMap) :
    ∃ table', run requests table = some table' ∧ ∀ index, RowKept table table' index ∨
      (∃ r ∈ requests, r.Names index) ∧ RowWritten table' index := by
  induction requests generalizing table with
  | nil => exact ⟨table, rfl, fun _ => Or.inl rfl⟩
  | cons r requests ih =>
    obtain ⟨sfc, middle, hexecute, hrows⟩ := execute_rows r table
    obtain ⟨table', hrun, hrows'⟩ := ih middle
    refine ⟨table', by rw [run, hexecute]; exact hrun, fun index => ?_⟩
    rcases hrows' index with hkept' | ⟨⟨r', hr', hnamed⟩, hwritten⟩
    · rcases hrows index with hkept | ⟨hnamed, hwritten⟩
      · exact Or.inl (hkept'.trans hkept)
      · refine Or.inr ⟨⟨r, mem_cons_self, hnamed⟩, ?_⟩
        rw [RowWritten, hkept']
        exact hwritten
    · exact Or.inr ⟨⟨r', mem_cons_of_mem r hr', hnamed⟩, hwritten⟩

def AllWellFormed (table : DmoContractsMap) : Prop := ∀ index c, table.lookup index = some c → WellFormed index c

theorem AllWellFormed.run {table table' : DmoContractsMap} (h : AllWellFormed table) {requests : List Request}
    (hrun : run requests table = some table') : AllWellFormed table' := by
  obtain ⟨t, ht, hrows⟩ := run_rows requests table
  obtain rfl : t = table' := Option.some.inj (ht.symm.trans hrun)
  intro index c hlookup
  rcases hrows index with hkept | ⟨-, hgone | ⟨c', hwritten, hform⟩⟩
  · exact h index c (hkept.symm.trans hlookup)
  · exact nomatch hgone.symm.trans hlookup
  · obtain rfl : c' = c := Option.some.inj (hwritten.symm.trans hlookup)
    exact hform

/-! ### Reading, changing and writing a row -/

variable {table : DmoContractsMap}

theorem read_row {index bufLen : UInt16} {c : DmoContractAttribute}
    (hrow : table.lookup index = some c) (hroom : dmoContractBufSize ≤ bufLen.toNat) :
    read table index bufLen = (sfcSuccess, contractRecord c) := by
  rw [read, hrow]
  exact if_neg (Nat.not_lt.mpr hroom)

theorem execute_modify {index : UInt16} {old : DmoContractAttribute}
    (hrow : table.lookup index = some old) (new : DmoContractAttribute) {header data : List UInt8}
    (hheader : header.length = 6) (hattr : BeginsWith header dmoContractTable) (hdata : data.length = 41)
    (hindex : BeginsWith data index) : ∃ c, parseContract old data = some (c, []) ∧ contractRecord c = data ∧
      execute new dmoModifyContract (header ++ write16 index ++ data) table =
        some (sfcSuccess, table.insert index c) := by
  obtain ⟨c, hparse, hrecord⟩ := exists_parseContract old hdata.ge
  rw [drop_of_length_le hdata.le] at hparse
  rw [take_of_length_le hdata.le] at hrecord
  refine ⟨c, hparse, hrecord, ?_⟩
  obtain ⟨left, hattr⟩ := hattr
  obtain ⟨rest, hindex⟩ := hindex
  have hfront : read16 (header ++ write16 index ++ data) =
    some (dmoContractTable, left ++ (write16 index ++ data)) := by
    rw [show header = write16 dmoContractTable ++ left from keeps_read16 _ _ _ hattr, append_assoc, append_assoc]
    exact decodes_read16 _ _
  have hlong : ¬(header ++ write16 index ++ data).length < 6 := by
    simp only [length_append, hheader]
    omega
  have hdrop : (header ++ write16 index ++ data).drop 6 = write16 index ++ data := by
    rw [append_assoc, drop_left' hheader]
  have hlong' : ¬(write16 index ++ data).length < 2 := by
    rw [length_append, length_write16]
    omega
  have hsize : ¬data.length < dmoContractBufSize := Nat.not_lt.mpr hdata.ge
  have hset : setContract new index data table = some (sfcSuccess, table.insert index c) := by
    rw [setContract, if_neg hsize, hindex]
    simp only [bind_eq_bind, bind_some, ne_eq, not_true_eq_false, if_false, hrow, hparse]
  rw [execute, if_pos (Or.inl rfl), if_neg hlong, hfront]
  simp only [bind_eq_bind, bind_some, ne_eq, not_true_eq_false, if_false, if_true, hdrop, hlong',
    decodes_read16 index data, hset]

/-- The record codec in both directions, and what it gives for the table: a run leaves the rows alone that it does not name, and a row that is read, changed and written back is the only one that changes. -/
theorem contract_record_codec : (∀ c old : DmoContractAttribute, c.dstAddr128.length = 16 → ∀ rest,
      parseContract old (contractRecord c ++ rest) = some ({ c with contractReqType := old.contractReqType }, rest)) ∧
    (∀ (old : DmoContractAttribute) (bytes : List UInt8), dmoContractBufSize ≤ bytes.length →
      ∃ c, parseContract old bytes = some (c, bytes.drop 41) ∧ contractRecord c = bytes.take 41) ∧
    (∀ (requests : List Request) (table : DmoContractsMap), ∃ table', run requests table = some table' ∧
      ∀ index, (∀ r ∈ requests, ¬r.Names index) → table'.lookup index = table.lookup index) ∧
    ∀ (requests : List Request) (table₀ table : DmoContractsMap), AllWellFormed table₀ →
      run requests table₀ = some table → ∀ (index bufLen : UInt16) (c : DmoContractAttribute),
      table.lookup index = some c → dmoContractBufSize ≤ bufLen.toNat → ∃ record,
        read table index bufLen = (sfcSuccess, record) ∧ BeginsWith record index ∧
        ∀ (new : DmoContractAttribute) (header data : List UInt8), header.length = 6 →
          BeginsWith header dmoContractTable → data.length = 41 → BeginsWith data index →
          ∃ c' table', execute new dmoModifyContract (header ++ write16 index ++ data) table =
              some (sfcSuccess, table') ∧
            contractRecord c' = data ∧ (data = record → c' = c) ∧
            ∀ i, table'.lookup i = if i = index then some c' else table.lookup i := by
  refine ⟨fun c old haddr => decodes_record c old haddr, fun old bytes hlen => exists_parseContract old hlen, ?_, ?_⟩
  · intro requests table
    obtain ⟨table', hrun, hrows⟩ := run_rows requests table
    refine ⟨table', hrun, fun index hnames => ?_⟩
    rcases hrows index with hkept | ⟨⟨r, hr, hnamed⟩, -⟩
    · exact hkept
    · exact absurd hnamed (hnames r hr)
  · intro requests table₀ table hform hrun index bufLen c hrow hroom
    obtain ⟨hid, haddr⟩ := hform.run hrun index c hrow
    have hbegins : BeginsWith (contractRecord c) index := by
      rw [← hid, contractRecord]
      exact ⟨_, decodes_read16 _ _⟩
    refine ⟨contractRecord c, read_row hrow hroom, hbegins, ?_⟩
    intro new header data hheader hattr hdata hindex
    obtain ⟨c', hparse, hrecord, hexecute⟩ := execute_modify hrow new hheader hattr hdata hindex
    refine ⟨c', _, hexecute, hrecord, ?_, fun i => ?_⟩
    · rintro rfl
      have hback := (decodes_record c c haddr).run
      exact congrArg Prod.fst (Option.some.inj (hparse.symm.trans hback))
    · split
      · rename_i heq
        rw [heq, AList.lookup_insert]
      · rename_i hne
        exact AList.lookup_insert_ne hne

def samplePeriodic : DmoContractAttribute where
  assignedExpTime := 0xFFFFFFFF
  activationTAI := 17
  contractID := 5
  srcTLPort := 0xF0B2
  assignedMaxNSDUSize := 96
  dstTLPort := 0xF0B3
  contractStatus := 0
  serviceType := srvcPeriodicComm
  reliability := 1
  priority := 3
  dstAddr128 := replicate 16 0xFE
  bandwidth := ⟨-4, 30, 2⟩
  contractReqType := contractReqTypeNew

def sampleTable : DmoContractsMap :=
  ((∅ : DmoContractsMap).insert 5 samplePeriodic).insert 7 { samplePeriodic with contractID := 7, priority := 1 }

/-- It names the row 9, which the table does not have. -/
def sampleTermination : Request := ⟨samplePeriodic, dmoTerminateContract, [0, 26, 0, 0, 0, 0] ++ write16 9⟩

/-- After a request for another row the row 5 is read and written back, and the row 7 stays. -/
theorem contract_record_codec_sample : ∃ table, run [sampleTermination] sampleTable = some table ∧
    ∃ record, read table 5 41 = (sfcSuccess, record) ∧
      ∃ table', execute samplePeriodic dmoModifyContract ([0, 26, 0, 0, 0, 0] ++ write16 5 ++ record) table =
          some (sfcSuccess, table') ∧
        table'.lookup 5 = some samplePeriodic ∧ table'.lookup 7 = sampleTable.lookup 7 := by
  have hform : AllWellFormed sampleTable := by
    intro index c hlookup
    by_cases h₇ : index = 7
    · subst h₇
      cases hlookup
      exact ⟨rfl, rfl⟩
    by_cases h₅ : index = 5
    · subst h₅
      cases hlookup
      exact ⟨rfl, rfl⟩
    rw [sampleTable, AList.lookup_insert_ne h₇, AList.lookup_insert_ne h₅] at hlookup
    cases hlookup
  obtain ⟨table, hrun, hrows⟩ := contract_record_codec.2.2.1 [sampleTermination] sampleTable
  have hkept : ∀ index, index ≠ 9 → table.lookup index = sampleTable.lookup index := by
    refine fun index hne => hrows index fun r hr => ?_
    rw [mem_singleton.mp hr]
    rintro (⟨rest, hread⟩ | ⟨rest, hread⟩)
    · cases hread
      exact hne rfl
    · cases hread
  have hrow : table.lookup 5 = some samplePeriodic := hkept 5 (by decide)
  obtain ⟨record, hread, hbegins, hwrite⟩ := contract_record_codec.2.2.2 _ _ _ hform hrun 5 41 samplePeriodic hrow
    (by decide)
  have hlen : record.length = 41 := by
    rw [read_row hrow (by decide)] at hread
    obtain rfl : contractRecord samplePeriodic = record := congrArg Prod.snd hread
    rfl
  obtain ⟨c', table', hexecute, -, hsame, hothers⟩ :=
    hwrite samplePeriodic [0, 26, 0, 0, 0, 0] record rfl ⟨_, rfl⟩ hlen hbegins
  refine ⟨table, hrun, record, hread, table', hexecute, by rw [hothers, if_pos rfl, hsame rfl], ?_⟩
  rw [hothers, if_neg (by decide), hkept 7 (by decide)]

end DmoTable

end Isa100Gateway
