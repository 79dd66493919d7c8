import Isa100Gateway.NetworkEngine.SlotReservation
import Isa100Gateway.NetworkEngine.AdvertiseSchedule
import Mathlib.Order.Bounds.Defs

/-!
# The search for a management chunk (`Subnet.cpp`)

`getAvailableMngChunckInbound` and `getAvailableMngChunckOutbound` walk by twos over the sets of the chunk table and return the first chunk that they do not refuse. Set numbers are counted in eight bits, also below 0 and above the table.
-/

namespace Isa100Gateway.MngChunks

open List
open AppAllocation (TdmaLinkTypes)
open AdvertiseSchedule (LinkType TdmaLinkDir)
open FirstFit

structure PhyLink where
  role : TdmaLinkTypes
  type : LinkType
  direction : TdmaLinkDir
  offset : UInt16
  deriving DecidableEq

namespace PhyLink

variable (link : PhyLink)

def isMng : Bool := link.role = .management ∨ link.role = .udoFirmware

def setNo : UInt8 := UInt8.ofNat (link.offset.toNat % 100)

def isInbound : Bool := link.type = .TRANSMIT ∧ link.direction = .INBOUND

def isOutbound : Bool := link.type = .RECEIVE ∧ link.direction = .OUTBOUND

end PhyLink

def setsOf (counts : PhyLink → Bool) (links : List PhyLink) : List UInt8 := (links.filter counts).map PhyLink.setNo

/-- Of the chunks of a device the search reads the set numbers. -/
structure Device where
  address32 : UInt32
  isBackbone : Bool
  mngChunckInboundNonRouter : List UInt8
  mngChunckInboundRouter : List UInt8
  mngChunckOutbound : List UInt8
  linksTable : List (Option PhyLink)
  deriving DecidableEq

namespace Device

variable (device : Device)

def mngLinks : List PhyLink := device.linksTable.reduceOption.filter PhyLink.isMng

def getMinInboundBC_Router : UInt8 := (setsOf PhyLink.isInbound device.mngLinks).foldl min 99

def getMaxOutBoundBC (joinReservedSet : UInt8) : UInt8 := device.mngChunckOutbound.foldl max joinReservedSet

def isUsedBcSetNumber (setNumber : UInt8) : Bool :=
  setNumber ∈ device.mngChunckInboundNonRouter ∨ setNumber ∈ device.mngChunckInboundRouter ∨
    setNumber ∈ device.mngChunckOutbound ∨
    device.isBackbone = false ∧ setNumber ∈ device.mngLinks.map PhyLink.setNo

end Device

/-- An operation that was not sent yet: of one on a link, its physical entity. -/
structure Operation where
  owner : UInt32
  isOnLink : Bool
  physicalEntity : Option PhyLink

def pendingLinks (operations : List Operation) (address32 : UInt32) : List PhyLink :=
  ((operations.filter fun operation => operation.owner = address32 ∧ operation.isOnLink).map
    Operation.physicalEntity).reduceOption.filter PhyLink.isMng

/-- The owner of each chunk, 0 for none. The frequencies are the different radio channels of the subnet. -/
structure Subnet where
  numberOfFrequencies : Nat
  numberOfFrequencies_lt : numberOfFrequencies < 256
  mngChunksTable : Fin 100 → Fin numberOfFrequencies → UInt16

abbrev Chunk := UInt8 × UInt8

/-- No result outside the table. -/
def Subnet.isMngChunckReserved (subnet : Subnet) (chunk : Chunk) : Option Bool :=
  if h : chunk.1.toNat < 100 ∧ chunk.2.toNat < subnet.numberOfFrequencies then
    some (subnet.mngChunksTable ⟨_, h.1⟩ ⟨_, h.2⟩ ≠ 0)
  else none

def Subnet.frequencies (subnet : Subnet) : List UInt8 :=
  (List.range' 1 (subnet.numberOfFrequencies - 1)).map UInt8.ofNat

structure Loop where
  i : UInt8
  goesOn : UInt8 → Bool
  next : UInt8 → UInt8

/-- The set numbers that loops one after the other come to in so many rounds, and whether the last has ended. -/
def walk : Nat → List Loop → List UInt8 × Bool
  | 0, _ => ([], false)
  | _ + 1, [] => ([], true)
  | rounds + 1, loop :: loops =>
    if loop.goesOn loop.i then
      let rest := walk rounds ({ loop with i := loop.next loop.i } :: loops)
      (loop.i :: rest.1, rest.2)
    else walk rounds loops

structure Search where
  usedChunks : List UInt8
  frequencies : List UInt8
  loops : List Loop

structure Call where
  subnet : Subnet
  unsentOperations : List Operation
  device : Device
  parent : Device
  joinReservedSet : UInt8

variable (c : Call)

def Search.judge (search : Search) (chunk : Chunk) : Option Verdict :=
  if chunk.1 ∉ search.usedChunks ∧ c.parent.isUsedBcSetNumber chunk.1 = false ∧
      (c.device = c.parent ∨ c.device.isUsedBcSetNumber chunk.1 = false) then
    (c.subnet.isMngChunckReserved chunk).map fun reserved => if reserved then .skip else .take
  else some .skip

def Search.offers (search : Search) (rounds : Nat) : List Chunk :=
  (walk rounds search.loops).1.flatMap fun i => search.frequencies.map (i, ·)

def Search.run (search : Search) (rounds : Nat) : Option (Option Chunk) :=
  match firstFit (search.judge c) (search.offers rounds) with
  | some none => if (walk rounds search.loops).2 then some none else none
  | result => result

def inboundSearch : Search :=
  if c.parent.isBackbone then
    { usedChunks := [], frequencies := [0], loops := [⟨99, (c.joinReservedSet < ·), (· - 2)⟩] }
  else
    let pending := pendingLinks c.unsentOperations c.parent.address32
    let maxSetNo := (setsOf PhyLink.isInbound pending).foldl min c.parent.getMinInboundBC_Router
    { usedChunks := setsOf PhyLink.isOutbound pending
      frequencies := c.subnet.frequencies
      loops := [⟨maxSetNo - 2, (c.joinReservedSet < ·), (· - 2)⟩, ⟨99, (maxSetNo ≤ ·), (· - 2)⟩] }

def getAvailableMngChunckInbound : Nat → Option (Option Chunk) := (inboundSearch c).run c

def outboundSearch : Search :=
  let pending :=
    pendingLinks c.unsentOperations c.device.address32 ++ pendingLinks c.unsentOperations c.parent.address32
  let minSetNo := (setsOf PhyLink.isOutbound pending).foldl max
    (if c.parent.isBackbone then c.joinReservedSet else c.parent.getMaxOutBoundBC c.joinReservedSet)
  let above : Loop := ⟨minSetNo + 2, (· ≤ 99), (· + 2)⟩
  { usedChunks := setsOf PhyLink.isInbound pending
    frequencies := c.subnet.frequencies
    loops := if c.parent.isBackbone then [above] else [above, ⟨c.joinReservedSet + 2, (· ≤ minSetNo), (· + 2)⟩] }

def getAvailableMngChunckOutbound : Nat → Option (Option Chunk) := (outboundSearch c).run c

/-- Inside the table, above the join reserved set, and not in the set of a pending management link of the parent. -/
structure Sound (chunk : Chunk) : Prop where
  inTable : (c.subnet.isMngChunckReserved chunk).isSome
  above : c.joinReservedSet < chunk.1
  pending : chunk.1 ∉ (pendingLinks c.unsentOperations c.parent.address32).map PhyLink.setNo

structure Fits (chunk : Chunk) : Prop extends Sound c chunk where
  unreserved : c.subnet.isMngChunckReserved chunk = some false
  unusedByParent : c.parent.isUsedBcSetNumber chunk.1 = false
  unusedByDevice : c.device.isUsedBcSetNumber chunk.1 = false

/-- After some number of rounds a search has its answer, and a chunk that it returns fits. -/
def Meets (run : Nat → Option (Option Chunk)) : Prop :=
  ∃ rounds answer, run rounds = some answer ∧ ∀ chunk ∈ answer, Fits c chunk

/-! ## When the searches meet their purpose -/

def pendingSets : List UInt8 := (pendingLinks c.unsentOperations c.parent.address32).map PhyLink.setNo

/-- Where the inbound search below a router begins to count down. -/
def maxSetNo : UInt8 :=
  (setsOf PhyLink.isInbound (pendingLinks c.unsentOperations c.parent.address32)).foldl min
    c.parent.getMinInboundBC_Router

/-- Where the outbound search begins to count up. -/
def minSetNo : UInt8 :=
  (setsOf PhyLink.isOutbound
    (pendingLinks c.unsentOperations c.device.address32 ++
      pendingLinks c.unsentOperations c.parent.address32)).foldl max
    (if c.parent.isBackbone then c.joinReservedSet else c.parent.getMaxOutBoundBC c.joinReservedSet)

/-- Nobody whom the search asks uses the set, and one of its chunks is not reserved. -/
def Search.Free (search : Search) (i : UInt8) : Prop :=
  (i ∉ search.usedChunks ∧ c.parent.isUsedBcSetNumber i = false ∧
    (c.device = c.parent ∨ c.device.isUsedBcSetNumber i = false)) ∧
  ∃ frequency ∈ search.frequencies, c.subnet.isMngChunckReserved (i, frequency) = some false

/-- The free sets in steps of two from `i`. -/
def Search.freeSets (search : Search) (i : UInt8) (within : UInt8 → Prop) : Set UInt8 :=
  {k | within k ∧ k.toNat % 2 = i.toNat % 2 ∧ search.Free c k}

/-- Below a backbone the greatest free odd set is not pending; with nothing reserved for joining there is one. -/
def ClearBelowBackbone : Prop :=
  let free := (inboundSearch c).freeSets c 99 fun k => c.joinReservedSet < k ∧ k ≤ 99
  0 < c.subnet.numberOfFrequencies ∧ (∀ k, IsGreatest free k → k ∉ pendingSets c) ∧ (free = ∅ → c.joinReservedSet ≠ 0)

/-- Below a router the greatest free set below `maxSetNo` is not pending. Where there is none the eight-bit count ends above
zero, and the greatest free odd set from `maxSetNo` on lies above the join reserved set and is not pending. -/
def ClearBelowRouter : Prop :=
  let below := (inboundSearch c).freeSets c (maxSetNo c) fun k => c.joinReservedSet < k ∧ k < maxSetNo c
  let above := (inboundSearch c).freeSets c 99 fun k => maxSetNo c ≤ k ∧ k ≤ 99
  (∀ k, IsGreatest below k → k ∉ pendingSets c) ∧
    (below = ∅ → 2 ≤ maxSetNo c ∧ (c.joinReservedSet = 0 → (maxSetNo c).toNat % 2 = 0) ∧
      ∀ k, IsGreatest above k → c.joinReservedSet < k ∧ k ∉ pendingSets c)

def ClearInbound : Prop := if c.parent.isBackbone then ClearBelowBackbone c else ClearBelowRouter c

/-- The least free set above `minSetNo` is not pending, nor, where there is none and the parent is a router, the least free
one above the join reserved set. -/
def ClearOutbound : Prop :=
  let above := (outboundSearch c).freeSets c (minSetNo c) fun k => minSetNo c < k ∧ k ≤ 99
  let below := (outboundSearch c).freeSets c c.joinReservedSet fun k => c.joinReservedSet < k ∧ k ≤ minSetNo c
  minSetNo c < 100 ∧ (∀ k, IsLeast above k → k ∉ pendingSets c) ∧
    (above = ∅ → c.parent.isBackbone = false → ∀ k, IsLeast below k → k ∉ pendingSets c)

/-- The join reserved set and the sets in use are sets of the table, which has at least two frequencies. -/
structure InTable : Prop where
  joinReservedSet : c.joinReservedSet < 100
  parent : ∀ i, c.parent.isUsedBcSetNumber i → i < 100
  device : ∀ i, c.device.isUsedBcSetNumber i → i < 100
  frequencies : 2 ≤ c.subnet.numberOfFrequencies

/-! ## The walk -/

variable {c} {search : Search} {chunk : Chunk} {rounds : Nat} {answer : Option Chunk}

theorem fits_of_take (htake : search.judge c chunk = some .take) (habove : c.joinReservedSet < chunk.1)
    (hpending : chunk.1 ∉ pendingSets c) : Fits c chunk := by
  unfold Search.judge at htake
  split at htake
  · rename_i hunused
    obtain ⟨-, hparent, hdevice⟩ := hunused
    obtain ⟨reserved, hreserved, hverdict⟩ := Option.map_eq_some_iff.mp htake
    cases reserved with
    | true => cases hverdict
    | false =>
      have hdevice' := hdevice.elim (fun hsame => hsame ▸ hparent) id
      exact ⟨⟨Option.isSome_of_eq_some hreserved, habove, hpending⟩, hreserved, hparent, hdevice'⟩
  · cases htake

theorem walk_succ (rounds : Nat) (loops : List Loop) : (walk rounds loops).1 <+: (walk (rounds + 1) loops).1 ∧
    ((walk rounds loops).2 = true → walk (rounds + 1) loops = walk rounds loops) := by
  induction rounds generalizing loops with
  | zero => exact .intro nil_prefix fun h => nomatch h
  | succ rounds ih =>
    cases loops with
    | nil => exact ⟨prefix_refl _, fun _ => rfl⟩
    | cons loop loops =>
      rw [walk, walk]
      split
      · obtain ⟨hbegins, hended⟩ := ih ({ loop with i := loop.next loop.i } :: loops)
        exact ⟨cons_prefix_cons.mpr ⟨rfl, hbegins⟩, fun h => by simp only [hended h]⟩
      · exact ih loops

theorem run_succ (h : search.run c rounds = some answer) : search.run c (rounds + 1) = some answer := by
  obtain ⟨⟨more, hmore⟩, hended⟩ := walk_succ rounds search.loops
  unfold Search.run at h ⊢
  rcases hfirst : firstFit (search.judge c) (search.offers rounds) with _ | _ | found <;> simp only [hfirst] at h
  · cases h
  · by_cases hend : (walk rounds search.loops).2 = true
    · rw [Search.offers, hended hend, ← Search.offers, hfirst]
      exact h
    · rw [if_neg hend] at h
      cases h
  · have hoffers : search.offers (rounds + 1) = search.offers rounds ++ more.flatMap fun i =>
      search.frequencies.map (i, ·) := by
      rw [Search.offers, ← hmore, flatMap_append, Search.offers]
    rw [hoffers, firstFit_append_of_take hfirst]
    exact h

theorem run_mono {rounds' : Nat} (h : search.run c rounds = some answer) (hle : rounds ≤ rounds') :
    search.run c rounds' = some answer := by
  induction hle with
  | refl => exact h
  | step _ ih => exact run_succ ih

theorem run_of_firstFit (h : firstFit (search.judge c) (search.offers rounds) = some (some chunk)) :
    search.run c rounds = some (some chunk) := by
  unfold Search.run
  rw [h]

theorem take_of_run (h : search.run c rounds = some (some chunk)) : search.judge c chunk = some .take := by
  unfold Search.run at h
  split at h
  · split at h <;> cases h
  · exact (firstFit_eq_some.mp h).2

/-- A returned chunk fits if its set lies above the join reserved set and is not pending. -/
theorem meets_iff_of_run (h : search.run c rounds = some (some chunk)) :
    Meets c (search.run c) ↔ c.joinReservedSet < chunk.1 ∧ chunk.1 ∉ pendingSets c := by
  constructor
  · rintro ⟨rounds', answer, hrun, hfits⟩
    have hsame : some (some chunk) = some answer :=
      (run_mono h (Nat.le_max_left rounds rounds')).symm.trans (run_mono hrun (Nat.le_max_right rounds rounds'))
    have hfit := hfits chunk (Option.some.inj hsame).symm
    exact ⟨hfit.above, hfit.pending⟩
  · rintro ⟨habove, hpending⟩
    refine ⟨rounds, some chunk, h, fun chunk' hchunk => ?_⟩
    cases hchunk
    exact fits_of_take (take_of_run h) habove hpending

theorem meets_of_run_none (h : search.run c rounds = some none) : Meets c (search.run c) :=
  ⟨rounds, none, h, fun _ hchunk => nomatch hchunk⟩

theorem not_meets_of_run (h : ∀ rounds, ∃ rounds' ≥ rounds, search.run c rounds' = none) : ¬Meets c (search.run c) := by
  rintro ⟨rounds, answer, hrun, -⟩
  obtain ⟨rounds', hle, hnone⟩ := h rounds
  rw [run_mono hrun hle] at hnone
  cases hnone

/-- The loop comes to the sets of the list and then to `i'`. -/
def Passes (loop : Loop) (sets : List UInt8) (i' : UInt8) : Prop :=
  ∀ loops rounds, walk (sets.length + rounds) (loop :: loops) =
    (sets ++ (walk rounds ({ loop with i := i' } :: loops)).1, (walk rounds ({ loop with i := i' } :: loops)).2)

theorem Passes.nil (loop : Loop) : Passes loop [] loop.i := by
  intro loops rounds
  rw [length_nil, Nat.zero_add]
  rfl

theorem Passes.cons {loop : Loop} {sets : List UInt8} {i' : UInt8} (hgoes : loop.goesOn loop.i)
    (h : Passes { loop with i := loop.next loop.i } sets i') : Passes loop (loop.i :: sets) i' := by
  intro loops rounds
  rw [length_cons, Nat.add_right_comm, walk, if_pos hgoes]
  simp only [h loops rounds, cons_append]

theorem walk_ended {loop : Loop} (h : loop.goesOn loop.i = false) (rounds : Nat) (loops : List Loop) :
    walk (rounds + 1) (loop :: loops) = walk rounds loops := by
  rw [walk, if_neg (by simp [h])]

theorem passes_down (bound i : UInt8) : ∃ sets i', Passes ⟨i, (bound < ·), (· - 2)⟩ sets i' ∧ sets.Pairwise (· > ·) ∧
    (∀ k, k ∈ sets ↔ (bound < k ∧ k ≤ i) ∧ k.toNat % 2 = i.toNat % 2) ∧
    (i' ≤ bound ∧ (bound = 0 → i.toNat % 2 = 0) ∨ bound = 0 ∧ i' = 255 ∧ i.toNat % 2 = 1) := by
  induction hn : i.toNat using Nat.strong_induction_on generalizing i with
  | _ n ih =>
    subst hn
    by_cases hgoes : bound < i
    · by_cases hone : i = 1
      · subst hone
        have hbound : bound = 0 := by
          rw [UInt8.lt_iff_toNat_lt] at hgoes
          exact UInt8.toNat_inj.mp (Nat.lt_one_iff.mp hgoes)
        subst hbound
        refine ⟨[1], 255, Passes.cons (by decide) (Passes.nil ⟨255, (0 < ·), (· - 2)⟩), pairwise_singleton _ _,
          ?_, .inr ⟨rfl, rfl, rfl⟩⟩
        intro k
        rw [mem_singleton, ← UInt8.toNat_inj, UInt8.lt_iff_toNat_lt, UInt8.le_iff_toNat_le]
        simp only [UInt8.reduceToNat]
        omega
      · have htwo : 2 ≤ i := by
          rw [UInt8.lt_iff_toNat_lt] at hgoes
          rw [UInt8.le_iff_toNat_le]
          rw [← UInt8.toNat_inj] at hone
          simp only [UInt8.reduceToNat] at hone ⊢
          omega
        have hnext : (i - 2).toNat = i.toNat - 2 := UInt8.toNat_sub_of_le i 2 htwo
        rw [UInt8.le_iff_toNat_le] at htwo
        simp only [UInt8.reduceToNat] at htwo
        obtain ⟨sets, i', hpasses, hsorted, hmem, hlast⟩ := ih (i - 2).toNat (by omega) (i - 2) rfl
        refine ⟨i :: sets, i', Passes.cons (decide_eq_true hgoes) hpasses,
          pairwise_cons.mpr ⟨fun k hk => ?_, hsorted⟩, ?_, ?_⟩
        · have hle := ((hmem k).mp hk).1.2
          rw [UInt8.le_iff_toNat_le, hnext] at hle
          exact UInt8.lt_iff_toNat_lt.mpr (by omega)
        · intro k
          rw [UInt8.lt_iff_toNat_lt] at hgoes
          rw [mem_cons, hmem, ← UInt8.toNat_inj, UInt8.lt_iff_toNat_lt, UInt8.le_iff_toNat_le,
            UInt8.le_iff_toNat_le, hnext]
          omega
        · rw [hnext] at hlast
          exact hlast.imp (fun h => ⟨h.1, fun hbound => by have := h.2 hbound; omega⟩) fun h => ⟨h.1, h.2.1, by omega⟩
    · have hle := UInt8.not_lt.mp hgoes
      refine ⟨[], i, Passes.nil _, .nil, fun k => ?_, .inl ⟨hle, ?_⟩⟩
      · rw [UInt8.lt_iff_toNat_lt] at hgoes
        rw [UInt8.lt_iff_toNat_lt, UInt8.le_iff_toNat_le]
        simp only [not_mem_nil, false_iff]
        omega
      · rintro rfl
        have hzero : i.toNat = 0 := Nat.le_zero.mp (UInt8.le_iff_toNat_le.mp hle)
        rw [hzero]

theorem passes_up (top i : UInt8) (htop : top ≤ 99) (hi : i ≤ 101) :
    ∃ sets i', Passes ⟨i, (· ≤ top), (· + 2)⟩ sets i' ∧ sets.Pairwise (· < ·) ∧
      (∀ k, k ∈ sets ↔ (i ≤ k ∧ k ≤ top) ∧ k.toNat % 2 = i.toNat % 2) ∧ ¬ i' ≤ top := by
  rw [UInt8.le_iff_toNat_le] at htop hi
  induction hn : 101 - i.toNat using Nat.strong_induction_on generalizing i with
  | _ n ih =>
    by_cases hgoes : i ≤ top
    · have hle := UInt8.le_iff_toNat_le.mp hgoes
      simp only [UInt8.reduceToNat] at htop hi
      have hnext : (i + 2).toNat = i.toNat + 2 := by
        rw [UInt8.toNat_add]
        exact Nat.mod_eq_of_lt (by simp only [UInt8.reduceToNat]; omega)
      obtain ⟨sets, i', hpasses, hsorted, hmem, hlast⟩ := ih (101 - (i + 2).toNat) (by omega) (i + 2)
        (by simp only [UInt8.reduceToNat]; omega) rfl
      refine ⟨i :: sets, i', Passes.cons (decide_eq_true hgoes) hpasses,
        pairwise_cons.mpr ⟨fun k hk => ?_, hsorted⟩, ?_, hlast⟩
      · have hge := ((hmem k).mp hk).1.1
        rw [UInt8.le_iff_toNat_le, hnext] at hge
        exact UInt8.lt_iff_toNat_lt.mpr (by omega)
      · intro k
        rw [mem_cons, hmem, ← UInt8.toNat_inj, UInt8.le_iff_toNat_le, UInt8.le_iff_toNat_le,
          UInt8.le_iff_toNat_le, hnext]
        omega
    · refine ⟨[], i, Passes.nil _, .nil, fun k => ?_, hgoes⟩
      rw [UInt8.le_iff_toNat_le] at hgoes
      rw [UInt8.le_iff_toNat_le, UInt8.le_iff_toNat_le]
      simp only [not_mem_nil, false_iff]
      omega

/-! ## Over the sets of a search -/

theorem free_iff {i : UInt8} :
    search.Free c i ↔ ∃ frequency ∈ search.frequencies, search.judge c (i, frequency) = some .take := by
  unfold Search.Free Search.judge
  by_cases hunused : i ∉ search.usedChunks ∧ c.parent.isUsedBcSetNumber i = false ∧
      (c.device = c.parent ∨ c.device.isUsedBcSetNumber i = false)
  · simp [hunused]
  · simp [hunused]

/-- The frequencies of the search are columns of the table. -/
def Search.InColumns (search : Search) (c : Call) : Prop :=
  ∀ frequency ∈ search.frequencies, frequency.toNat < c.subnet.numberOfFrequencies

theorem inColumns_frequencies (h : search.frequencies = c.subnet.frequencies) : search.InColumns c := by
  intro frequency hfrequency
  rw [h, Subnet.frequencies] at hfrequency
  obtain ⟨n, hn, rfl⟩ := mem_map.mp hfrequency
  have hlt := c.subnet.numberOfFrequencies_lt
  have hbounds := mem_range'_1.mp hn
  have hsmall : n < 2 ^ 8 := by omega
  rw [UInt8.toNat_ofNat_of_lt' hsmall]
  omega

theorem judge_skip_or_take {i : UInt8} (hi : i ≤ 99) (hcolumns : search.InColumns c) :
    ∀ chunk ∈ search.frequencies.map (i, ·), search.judge c chunk = some .skip ∨ search.judge c chunk = some .take := by
  intro chunk hchunk
  obtain ⟨frequency, hfrequency, rfl⟩ := mem_map.mp hchunk
  have hlt := hcolumns frequency hfrequency
  unfold Search.judge
  split
  · rw [UInt8.le_iff_toNat_le] at hi
    rw [Subnet.isMngChunckReserved, dif_pos ⟨Nat.lt_succ_of_le hi, hlt⟩, Option.map_some]
    split
    · exact .inl rfl
    · exact .inr rfl
  · exact .inl rfl

/-- The first free set of the list, as `r` orders it. -/
structure First (c : Call) (search : Search) (sets : List UInt8) (r : UInt8 → UInt8 → Prop) (i : UInt8) : Prop where
  mem : i ∈ sets
  free : search.Free c i
  first : ∀ k ∈ sets, search.Free c k → k = i ∨ r i k

theorem skips_or_finds {r : UInt8 → UInt8 → Prop} {sets : List UInt8} (hcolumns : search.InColumns c)
    (hsets : ∀ i ∈ sets, i ≤ 99) (hsorted : sets.Pairwise r) :
    (∀ i ∈ sets, ¬search.Free c i) ∧
        (∀ chunk ∈ sets.flatMap fun i => search.frequencies.map (i, ·), search.judge c chunk = some .skip) ∨
      ∃ chunk, firstFit (search.judge c) (sets.flatMap fun i => search.frequencies.map (i, ·)) = some (some chunk) ∧
        First c search sets r chunk.1 := by
  induction sets with
  | nil => exact .inl ⟨fun i hi => (nomatch hi), fun chunk hchunk => (nomatch hchunk)⟩
  | cons i sets ih =>
    obtain ⟨hle, hsets⟩ := forall_mem_cons.mp hsets
    obtain ⟨hfirst, hsorted⟩ := pairwise_cons.mp hsorted
    rw [flatMap_cons]
    rcases skips_or_takes (judge_skip_or_take hle hcolumns) with hskips | ⟨chunk, hchunk, htakes⟩
    · have hnot : ¬search.Free c i := by
        rw [free_iff]
        rintro ⟨frequency, hfrequency, htake⟩
        rw [hskips _ (mem_map_of_mem hfrequency)] at htake
        cases htake
      rw [firstFit_append_of_skip hskips]
      refine (ih hsets hsorted).imp (fun h => ⟨forall_mem_cons.mpr ⟨hnot, h.1⟩, ?_⟩) ?_
      · intro chunk hchunk
        exact (mem_append.mp hchunk).elim (hskips chunk) (h.2 chunk)
      · rintro ⟨chunk, hchunk, hmem, hfree, hrest⟩
        exact ⟨chunk, hchunk, mem_cons_of_mem i hmem, hfree, forall_mem_cons.mpr ⟨fun h => absurd h hnot, hrest⟩⟩
    · obtain ⟨frequency, hfrequency, rfl⟩ := mem_map.mp hchunk
      have htake := (firstFit_eq_some.mp htakes).2
      refine .inr ⟨_, firstFit_append_of_take htakes, mem_cons_self, free_iff.mpr ⟨frequency, hfrequency, htake⟩, ?_⟩
      exact forall_mem_cons.mpr ⟨fun _ => .inl rfl, fun k hk _ => .inr (hfirst k hk)⟩

/-- The search refuses all it comes to in some number of rounds, and goes on with `loops`. -/
def Arrives (c : Call) (search : Search) (loops : List Loop) : Prop :=
  ∃ n sets, (∀ chunk ∈ sets.flatMap fun i => search.frequencies.map (i, ·), search.judge c chunk = some .skip) ∧
    ∀ rounds, walk (n + rounds) search.loops = (sets ++ (walk rounds loops).1, (walk rounds loops).2)

namespace Arrives

variable {loop : Loop} {loops : List Loop} {sets : List UInt8} {i' : UInt8} {r : UInt8 → UInt8 → Prop}

theorem start (c : Call) (search : Search) : Arrives c search search.loops :=
  ⟨0, [], fun chunk hchunk => (nomatch hchunk), fun rounds => by rw [Nat.zero_add]; rfl⟩

theorem ended (h : Arrives c search (loop :: loops)) (hended : loop.goesOn loop.i = false) :
    Arrives c search loops := by
  obtain ⟨n, front, hskips, hwalk⟩ := h
  refine ⟨n + 1, front, hskips, fun rounds => ?_⟩
  rw [Nat.add_assoc, Nat.add_comm 1, hwalk, walk_ended hended]

theorem finished (h : Arrives c search []) : ∃ rounds, search.run c rounds = some none := by
  obtain ⟨n, front, hskips, hwalk⟩ := h
  have hwalk := hwalk 1
  refine ⟨n + 1, ?_⟩
  have hnone : firstFit (search.judge c) (search.offers (n + 1)) = some none := by
    rw [Search.offers, hwalk, walk, append_nil, ← append_nil (flatMap _ _), firstFit_append_of_skip hskips]
    rfl
  rw [Search.run, hnone, hwalk]
  rfl

theorem pass (h : Arrives c search (loop :: loops)) (hpasses : Passes loop sets i') (hcolumns : search.InColumns c)
    (hsets : ∀ i ∈ sets, i ≤ 99) (hsorted : sets.Pairwise r) :
    (∀ i ∈ sets, ¬search.Free c i) ∧ Arrives c search ({ loop with i := i' } :: loops) ∨
      ∃ rounds chunk, search.run c rounds = some (some chunk) ∧ First c search sets r chunk.1 := by
  obtain ⟨n, front, hskips, hwalk⟩ := h
  rcases skips_or_finds hcolumns hsets hsorted with ⟨hnot, hskips'⟩ | ⟨chunk, hchunk, hfirst⟩
  · refine .inl ⟨hnot, n + sets.length, front ++ sets, ?_, fun rounds => ?_⟩
    · intro chunk hchunk
      rw [flatMap_append] at hchunk
      exact (mem_append.mp hchunk).elim (hskips chunk) (hskips' chunk)
    · rw [Nat.add_assoc, hwalk, hpasses, append_assoc]
  · refine .inr ⟨n + sets.length, chunk, run_of_firstFit ?_, hfirst⟩
    have hlast : walk (n + sets.length) search.loops = (front ++ sets, false) := by
      rw [← Nat.add_zero sets.length, hwalk, hpasses, walk, append_nil]
    rw [Search.offers, hlast, flatMap_append, firstFit_append_of_skip hskips, hchunk]

/-- The next set is outside the table and not refused. -/
theorem not_meets (h : Arrives c search (loop :: loops)) (hgoes : loop.goesOn loop.i) {frequency : UInt8}
    {frequencies : List UInt8} (hfrequencies : search.frequencies = frequency :: frequencies)
    (hout : search.judge c (loop.i, frequency) = none) : ¬Meets c (search.run c) := by
  obtain ⟨n, front, hskips, hwalk⟩ := h
  refine not_meets_of_run fun rounds => ⟨n + (rounds + 1), by omega, ?_⟩
  have hnone : firstFit (search.judge c) (search.offers (n + (rounds + 1))) = none := by
    rw [Search.offers, hwalk, walk, if_pos hgoes, flatMap_append, firstFit_append_of_skip hskips, flatMap_cons,
      hfrequencies, map_cons, cons_append, firstFit, hout]
  rw [Search.run, hnone]

end Arrives

section Answers

variable {sets : List UInt8} {i start : UInt8} {within : UInt8 → Prop} {S : Set UInt8}

theorem First.isGreatest (h : First c search sets (· > ·) i)
    (hmem : ∀ k, k ∈ sets ↔ within k ∧ k.toNat % 2 = start.toNat % 2) :
    IsGreatest (search.freeSets c start within) i := by
  obtain ⟨hwithin, hparity⟩ := (hmem i).mp h.mem
  refine ⟨⟨hwithin, hparity, h.free⟩, fun k hk => ?_⟩
  rcases h.first k ((hmem k).mpr ⟨hk.1, hk.2.1⟩) hk.2.2 with rfl | hlt
  · exact UInt8.le_refl k
  · exact UInt8.le_of_lt hlt

theorem First.isLeast (h : First c search sets (· < ·) i)
    (hmem : ∀ k, k ∈ sets ↔ within k ∧ k.toNat % 2 = start.toNat % 2) :
    IsLeast (search.freeSets c start within) i := by
  obtain ⟨hwithin, hparity⟩ := (hmem i).mp h.mem
  refine ⟨⟨hwithin, hparity, h.free⟩, fun k hk => ?_⟩
  rcases h.first k ((hmem k).mpr ⟨hk.1, hk.2.1⟩) hk.2.2 with rfl | hlt
  · exact UInt8.le_refl k
  · exact UInt8.le_of_lt hlt

theorem freeSets_eq_empty (h : ∀ k ∈ sets, ¬search.Free c k)
    (hmem : ∀ k, k ∈ sets ↔ within k ∧ k.toNat % 2 = start.toNat % 2) : search.freeSets c start within = ∅ :=
  Set.eq_empty_of_forall_notMem fun k hk => h k ((hmem k).mpr ⟨hk.1, hk.2.1⟩) hk.2.2

/-- A loop that counts down returns the greatest free set. Where there is none it ends, or it comes to 255 behind 1. -/
theorem Arrives.count_down {bound : UInt8} {loops : List Loop}
    (h : Arrives c search (⟨i, (bound < ·), (· - 2)⟩ :: loops)) (hcolumns : search.InColumns c) (hi : i ≤ 99)
    (hwithin : ∀ k, (bound < k ∧ k ≤ i) ∧ k.toNat % 2 = i.toNat % 2 ↔ within k ∧ k.toNat % 2 = start.toNat % 2) :
    search.freeSets c start within = ∅ ∧
        (Arrives c search loops ∧ (bound = 0 → i.toNat % 2 = 0) ∨
          Arrives c search (⟨255, (bound < ·), (· - 2)⟩ :: loops) ∧ bound = 0 ∧ i.toNat % 2 = 1) ∨
      ∃ rounds chunk, search.run c rounds = some (some chunk) ∧
        IsGreatest (search.freeSets c start within) chunk.1 := by
  obtain ⟨sets, i', hpasses, hsorted, hmem, hlast⟩ := passes_down bound i
  have hmem' (k) := (hmem k).trans (hwithin k)
  have hsets : ∀ k ∈ sets, k ≤ 99 := fun k hk => UInt8.le_trans ((hmem k).mp hk).1.2 hi
  rcases h.pass hpasses hcolumns hsets hsorted with ⟨hnot, harrives⟩ | ⟨rounds, chunk, hrun, hfirst⟩
  · refine .inl ⟨freeSets_eq_empty hnot hmem', ?_⟩
    rcases hlast with ⟨hended, heven⟩ | ⟨hzero, rfl, hodd⟩
    · exact .inl ⟨harrives.ended (decide_eq_false (UInt8.not_lt.mpr hended)), heven⟩
    · exact .inr ⟨harrives, hzero, hodd⟩
  · exact .inr ⟨rounds, chunk, hrun, hfirst.isGreatest hmem'⟩

/-- A loop that counts up returns the least free set, or there is none and it ends. -/
theorem Arrives.count_up {top : UInt8} {loops : List Loop}
    (h : Arrives c search (⟨i + 2, (· ≤ top), (· + 2)⟩ :: loops)) (hcolumns : search.InColumns c) (htop : top ≤ 99)
    (hi : i < 100) :
    search.freeSets c i (fun k => i < k ∧ k ≤ top) = ∅ ∧ Arrives c search loops ∨
      ∃ rounds chunk, search.run c rounds = some (some chunk) ∧
        IsLeast (search.freeSets c i fun k => i < k ∧ k ≤ top) chunk.1 := by
  have hsmall : i.toNat < 100 := UInt8.lt_iff_toNat_lt.mp hi
  have hnext : (i + 2).toNat = i.toNat + 2 := by
    rw [UInt8.toNat_add]
    exact Nat.mod_eq_of_lt (by simp only [UInt8.reduceToNat]; omega)
  have hbound : i + 2 ≤ 101 := by
    rw [UInt8.le_iff_toNat_le, hnext]
    simp only [UInt8.reduceToNat]
    omega
  obtain ⟨sets, i', hpasses, hsorted, hmem, hlast⟩ := passes_up top (i + 2) htop hbound
  have hmem' : ∀ k, k ∈ sets ↔ (i < k ∧ k ≤ top) ∧ k.toNat % 2 = i.toNat % 2 := by
    intro k
    simp only [hmem, UInt8.le_iff_toNat_le, UInt8.lt_iff_toNat_lt, hnext]
    omega
  have hsets : ∀ k ∈ sets, k ≤ 99 := fun k hk => UInt8.le_trans ((hmem' k).mp hk).1.2 htop
  rcases h.pass hpasses hcolumns hsets hsorted with ⟨hnot, harrives⟩ | ⟨rounds, chunk, hrun, hfirst⟩
  · exact .inl ⟨freeSets_eq_empty hnot hmem', harrives.ended (decide_eq_false hlast)⟩
  · exact .inr ⟨rounds, chunk, hrun, hfirst.isLeast hmem'⟩

theorem meets_iff_of_greatest (hrun : search.run c rounds = some (some chunk)) (hgreatest : IsGreatest S chunk.1) :
    Meets c (search.run c) ↔ ∀ k, IsGreatest S k → c.joinReservedSet < k ∧ k ∉ pendingSets c := by
  rw [meets_iff_of_run hrun]
  constructor
  · intro h k hk
    rwa [UInt8.le_antisymm (hgreatest.2 hk.1) (hk.2 hgreatest.1)]
  · exact fun h => h chunk.1 hgreatest

theorem meets_iff_of_least (hrun : search.run c rounds = some (some chunk)) (hleast : IsLeast S chunk.1) :
    Meets c (search.run c) ↔ ∀ k, IsLeast S k → c.joinReservedSet < k ∧ k ∉ pendingSets c := by
  rw [meets_iff_of_run hrun]
  constructor
  · intro h k hk
    rwa [UInt8.le_antisymm (hk.2 hleast.1) (hleast.2 hk.1)]
  · exact fun h => h chunk.1 hleast

end Answers

theorem setNo_lt (link : PhyLink) : link.setNo < 100 := by
  have hlt : link.offset.toNat % 100 < 100 := Nat.mod_lt _ (by decide)
  have hsmall : link.offset.toNat % 100 < 2 ^ 8 := by omega
  rw [UInt8.lt_iff_toNat_lt, PhyLink.setNo, UInt8.toNat_ofNat_of_lt' hsmall]
  exact hlt

theorem lt_of_mem_setsOf {counts : PhyLink → Bool} {links : List PhyLink} {i : UInt8}
    (h : i ∈ setsOf counts links) : i < 100 := by
  obtain ⟨link, -, rfl⟩ := mem_map.mp h
  exact setNo_lt link

theorem foldl_min_le (l : List UInt8) (a : UInt8) : l.foldl min a ≤ a := by
  induction l generalizing a with
  | nil => exact UInt8.le_refl a
  | cons b l ih =>
    have hmin : min a b ≤ a := by
      change (if a ≤ b then a else b) ≤ a
      split
      · exact UInt8.le_refl a
      · exact (UInt8.le_total a b).resolve_left (by assumption)
    exact UInt8.le_trans (ih (min a b)) hmin

theorem le_foldl_max (l : List UInt8) (a : UInt8) : a ≤ l.foldl max a := by
  induction l generalizing a with
  | nil => exact UInt8.le_refl a
  | cons b l ih =>
    have hmax : a ≤ max a b := by
      change a ≤ if a ≤ b then b else a
      split
      · assumption
      · exact UInt8.le_refl a
    exact UInt8.le_trans hmax (ih (max a b))

theorem foldl_max_le {l : List UInt8} {a n : UInt8} (ha : a ≤ n) (hl : ∀ b ∈ l, b ≤ n) : l.foldl max a ≤ n := by
  induction l generalizing a with
  | nil => exact ha
  | cons b l ih =>
    obtain ⟨hb, hl⟩ := forall_mem_cons.mp hl
    apply ih _ hl
    change (if a ≤ b then b else a) ≤ n
    split
    · exact hb
    · exact ha

theorem maxSetNo_le (c : Call) : maxSetNo c ≤ 99 := UInt8.le_trans (foldl_min_le _ _) (foldl_min_le _ _)

theorem joinReservedSet_le (c : Call) : c.joinReservedSet ≤ minSetNo c := by
  refine UInt8.le_trans ?_ (le_foldl_max _ _)
  split
  · exact UInt8.le_refl _
  · exact le_foldl_max _ _

theorem InTable.judge_eq_none (h : InTable c) {i frequency : UInt8} (hi : 100 ≤ i) (hused : i ∉ search.usedChunks) :
    search.judge c (i, frequency) = none := by
  have hnot : ∀ {used : Bool}, (used = true → i < 100) → used = false := fun hlt =>
    Bool.eq_false_of_not_eq_true fun hused => absurd (hlt hused) (UInt8.not_lt.mpr hi)
  unfold Search.judge
  rw [if_pos ⟨hused, hnot (h.parent i), .inr (hnot (h.device i))⟩, Subnet.isMngChunckReserved, dif_neg]
  · rfl
  · exact fun hlt => absurd hlt.1 (Nat.not_lt.mpr (UInt8.le_iff_toNat_le.mp hi))

theorem InTable.minSetNo_lt (h : InTable c) : minSetNo c < 100 := by
  have hlast {k : UInt8} (hk : k < 100) : k ≤ 99 := by
    rw [UInt8.lt_iff_toNat_lt] at hk
    exact UInt8.le_iff_toNat_le.mpr (Nat.le_of_lt_succ hk)
  refine UInt8.lt_of_le_of_lt (foldl_max_le ?_ fun i hi => hlast (lt_of_mem_setsOf hi))
    (show (99 : UInt8) < 100 by decide)
  split
  · exact hlast h.joinReservedSet
  · refine foldl_max_le (hlast h.joinReservedSet) fun i hi => hlast (h.parent i ?_)
    exact decide_eq_true (.inr (.inr (.inl hi)))

theorem InTable.exists_frequency (h : InTable c) :
    ∃ frequency frequencies, c.subnet.frequencies = frequency :: frequencies := by
  apply exists_cons_of_ne_nil
  intro hnil
  have hlength := congrArg List.length hnil
  rw [Subnet.frequencies, length_map, length_range', length_nil] at hlength
  have htwo := h.frequencies
  omega

/-! ## The searches -/

theorem meets_belowBackbone (hbackbone : c.parent.isBackbone = true) :
    (ClearBelowBackbone c → Meets c (getAvailableMngChunckInbound c)) ∧
      (InTable c → Meets c (getAvailableMngChunckInbound c) → ClearBelowBackbone c) := by
  have hsearch : inboundSearch c =
      { usedChunks := [], frequencies := [0], loops := [⟨99, (c.joinReservedSet < ·), (· - 2)⟩] } := if_pos hbackbone
  have hfrequencies : (inboundSearch c).frequencies = [0] := hsearch ▸ rfl
  have hcolumns : 0 < c.subnet.numberOfFrequencies → (inboundSearch c).InColumns c := by
    intro hpositive frequency hfrequency
    rw [hfrequencies] at hfrequency
    rw [mem_singleton.mp hfrequency]
    exact hpositive
  have hstart := Arrives.start c (inboundSearch c)
  rw [show (inboundSearch c).loops = [⟨99, (c.joinReservedSet < ·), (· - 2)⟩] from hsearch ▸ rfl] at hstart
  have houtcome (hpositive) := hstart.count_down (hcolumns hpositive) (UInt8.le_refl 99) fun _ => Iff.rfl
  constructor
  · rintro ⟨hpositive, hclear, hempty⟩
    rcases houtcome hpositive with ⟨hnone, ⟨harrives, -⟩ | ⟨-, hzero, -⟩⟩ | ⟨rounds, chunk, hrun, hgreatest⟩
    · obtain ⟨rounds, hrun⟩ := harrives.finished
      exact meets_of_run_none hrun
    · exact absurd hzero (hempty hnone)
    · exact (meets_iff_of_greatest hrun hgreatest).mpr fun k hk => ⟨hk.1.1.1, hclear k hk⟩
  · intro hin hmeets
    have hpositive : 0 < c.subnet.numberOfFrequencies := Nat.lt_of_lt_of_le Nat.two_pos hin.frequencies
    refine ⟨hpositive, ?_⟩
    rcases houtcome hpositive with ⟨hempty, hends⟩ | ⟨rounds, chunk, hrun, hgreatest⟩
    · rw [hempty]
      refine ⟨fun k hk => absurd hk.1 (Set.notMem_empty k), fun _ hzero => ?_⟩
      rcases hends with ⟨-, heven⟩ | ⟨harrives, -, -⟩
      · exact absurd (heven hzero) (by decide)
      · refine harrives.not_meets (by rw [hzero]; rfl) hfrequencies
          (hin.judge_eq_none (show (100 : UInt8) ≤ 255 by decide) ?_) hmeets
        rw [hsearch]
        exact not_mem_nil
    · refine ⟨fun k hk => ((meets_iff_of_greatest hrun hgreatest).mp hmeets k hk).2, fun hempty => ?_⟩
      exact absurd hgreatest.1 (hempty ▸ Set.notMem_empty _)

theorem meets_belowRouter (hrouter : c.parent.isBackbone = false) :
    (ClearBelowRouter c → Meets c (getAvailableMngChunckInbound c)) ∧
      (InTable c → Meets c (getAvailableMngChunckInbound c) → ClearBelowRouter c) := by
  have hsearch : inboundSearch c =
      { usedChunks := setsOf PhyLink.isOutbound (pendingLinks c.unsentOperations c.parent.address32)
        frequencies := c.subnet.frequencies
        loops := [⟨maxSetNo c - 2, (c.joinReservedSet < ·), (· - 2)⟩, ⟨99, (maxSetNo c ≤ ·), (· - 2)⟩] } :=
    if_neg (by simp [hrouter])
  have hfrequencies : (inboundSearch c).frequencies = c.subnet.frequencies := hsearch ▸ rfl
  have hcolumns := inColumns_frequencies hfrequencies
  have hout : InTable c → ∀ i frequency, 100 ≤ i → (inboundSearch c).judge c (i, frequency) = none := by
    intro hin i frequency hi
    refine hin.judge_eq_none hi fun hused => absurd (lt_of_mem_setsOf (hsearch ▸ hused)) (UInt8.not_lt.mpr hi)
  have hstart := Arrives.start c (inboundSearch c)
  rw [show (inboundSearch c).loops =
    [⟨maxSetNo c - 2, (c.joinReservedSet < ·), (· - 2)⟩, ⟨99, (maxSetNo c ≤ ·), (· - 2)⟩] from hsearch ▸ rfl] at hstart
  have hmax := maxSetNo_le c
  unfold ClearBelowRouter getAvailableMngChunckInbound
  generalize maxSetNo c = maxSet at hstart hmax ⊢
  by_cases htwo : 2 ≤ maxSet
  · have hsub : (maxSet - 2).toNat = maxSet.toNat - 2 := UInt8.toNat_sub_of_le _ _ htwo
    have hle : maxSet.toNat ≤ 99 := UInt8.le_iff_toNat_le.mp hmax
    have hge : 2 ≤ maxSet.toNat := UInt8.le_iff_toNat_le.mp htwo
    have hfirst : maxSet - 2 ≤ 99 := by
      rw [UInt8.le_iff_toNat_le, hsub]
      exact (Nat.sub_le _ _).trans hle
    have hbelow : ∀ k, (c.joinReservedSet < k ∧ k ≤ maxSet - 2) ∧ k.toNat % 2 = (maxSet - 2).toNat % 2 ↔
        (c.joinReservedSet < k ∧ k < maxSet) ∧ k.toNat % 2 = maxSet.toNat % 2 := by
      intro k
      rw [UInt8.le_iff_toNat_le, UInt8.lt_iff_toNat_lt, UInt8.lt_iff_toNat_lt, hsub]
      omega
    rcases hstart.count_down hcolumns hfirst hbelow with
      ⟨hempty, ⟨hsecond, heven⟩ | ⟨harrives, hzero, hodd⟩⟩ | ⟨rounds, chunk, hrun, hgreatest⟩
    · have hpred : (maxSet - 1).toNat = maxSet.toNat - 1 :=
        UInt8.toNat_sub_of_le _ _ (UInt8.le_iff_toNat_le.mpr (Nat.one_le_of_lt hge))
      have hfrom (k : UInt8) : maxSet - 1 < k ↔ maxSet ≤ k := by
        rw [UInt8.le_iff_toNat_le, UInt8.lt_iff_toNat_lt, hpred]
        omega
      have heven' : c.joinReservedSet = 0 → maxSet.toNat % 2 = 0 := fun hzero => by
        have := heven hzero
        omega
      have hnone : ∀ k, IsGreatest (∅ : Set UInt8) k → k ∉ pendingSets c := fun k hk => absurd hk.1 (Set.notMem_empty k)
      simp only [← hfrom] at hsecond
      rw [hempty]
      rcases hsecond.count_down hcolumns (UInt8.le_refl 99) fun k => by rw [hfrom] with
        ⟨habove, ⟨harrives, -⟩ | ⟨-, hzero, -⟩⟩ | ⟨rounds, chunk, hrun, hgreatest⟩
      · obtain ⟨rounds, hrun⟩ := harrives.finished
        rw [habove]
        refine ⟨fun _ => meets_of_run_none hrun, fun _ _ => ⟨hnone, fun _ => ⟨htwo, heven', fun k hk => ?_⟩⟩⟩
        exact absurd hk.1 (Set.notMem_empty k)
      · have hpredZero : (maxSet - 1).toNat = 0 := congrArg UInt8.toNat hzero
        omega
      · rw [meets_iff_of_greatest hrun hgreatest]
        exact ⟨fun h => (h.2 rfl).2.2, fun _ h => ⟨hnone, fun _ => ⟨htwo, heven', h⟩⟩⟩
    · rw [hempty]
      refine ⟨fun h => ?_, fun hin hmeets => ?_⟩
      · have heven := (h.2 rfl).2.1 hzero
        omega
      · obtain ⟨frequency, frequencies, hcons⟩ := hin.exists_frequency
        refine absurd hmeets (harrives.not_meets (by rw [hzero]; rfl) (hfrequencies.trans hcons) ?_)
        exact hout hin 255 frequency (by decide)
    · have hne : (inboundSearch c).freeSets c maxSet (fun k => c.joinReservedSet < k ∧ k < maxSet) ≠ ∅ := fun hempty =>
        absurd hgreatest.1 (hempty ▸ Set.notMem_empty _)
      rw [meets_iff_of_greatest hrun hgreatest]
      exact ⟨fun h k hk => ⟨hk.1.1.1, h.1 k hk⟩, fun _ h => ⟨fun k hk => (h k hk).2, fun hempty => absurd hempty hne⟩⟩
  · have hsmall : maxSet.toNat < 2 := Nat.not_le.mp fun hge => htwo (UInt8.le_iff_toNat_le.mpr hge)
    have hempty : (inboundSearch c).freeSets c maxSet (fun k => c.joinReservedSet < k ∧ k < maxSet) = ∅ := by
      refine Set.eq_empty_of_forall_notMem fun k hk => ?_
      have habove := UInt8.lt_iff_toNat_lt.mp hk.1.1
      have hbelow := UInt8.lt_iff_toNat_lt.mp hk.1.2
      omega
    refine ⟨fun h => absurd (h.2 hempty).1 htwo, fun hin hmeets => ?_⟩
    have hwrapped : (maxSet - 2).toNat = 254 + maxSet.toNat := by
      rw [UInt8.toNat_sub]
      exact Nat.mod_eq_of_lt (by simp only [UInt8.reduceToNat]; omega)
    obtain ⟨frequency, frequencies, hcons⟩ := hin.exists_frequency
    refine absurd hmeets (hstart.not_meets (decide_eq_true ?_) (hfrequencies.trans hcons) (hout hin _ frequency ?_))
    · have hlt := UInt8.lt_iff_toNat_lt.mp hin.joinReservedSet
      simp only [UInt8.reduceToNat] at hlt
      rw [UInt8.lt_iff_toNat_lt, hwrapped]
      omega
    · rw [UInt8.le_iff_toNat_le, hwrapped]
      simp only [UInt8.reduceToNat]
      omega

theorem meets_outbound : (ClearOutbound c → Meets c (getAvailableMngChunckOutbound c)) ∧
    (InTable c → Meets c (getAvailableMngChunckOutbound c) → ClearOutbound c) := by
  have hcolumns : (outboundSearch c).InColumns c := inColumns_frequencies rfl
  have hstart := Arrives.start c (outboundSearch c)
  have hloops : (outboundSearch c).loops = ⟨minSetNo c + 2, (· ≤ 99), (· + 2)⟩ ::
      if c.parent.isBackbone then [] else [⟨c.joinReservedSet + 2, (· ≤ minSetNo c), (· + 2)⟩] := by
    change (if c.parent.isBackbone then [(⟨minSetNo c + 2, (· ≤ 99), (· + 2)⟩ : Loop)]
      else [⟨minSetNo c + 2, (· ≤ 99), (· + 2)⟩, ⟨c.joinReservedSet + 2, (· ≤ minSetNo c), (· + 2)⟩]) = _
    split <;> rfl
  rw [hloops] at hstart
  suffices hiff : minSetNo c < 100 → (Meets c ((outboundSearch c).run c) ↔ ClearOutbound c) from
    ⟨fun h => (hiff h.1).mpr h, fun hin h => (hiff hin.minSetNo_lt).mp h⟩
  intro hlt
  have hjoin := joinReservedSet_le c
  unfold ClearOutbound
  generalize minSetNo c = minSet at hstart hlt hjoin ⊢
  rcases hstart.count_up hcolumns (UInt8.le_refl 99) hlt with ⟨hempty, harrives⟩ | ⟨rounds, chunk, hrun, hleast⟩
  · have hnone : ∀ k, IsLeast (∅ : Set UInt8) k → k ∉ pendingSets c := fun k hk => absurd hk.1 (Set.notMem_empty k)
    rw [hempty]
    cases hparent : c.parent.isBackbone with
    | true =>
      rw [hparent] at harrives
      obtain ⟨rounds, hrun⟩ := harrives.finished
      exact iff_of_true (meets_of_run_none hrun) ⟨hlt, hnone, fun _ h => Bool.noConfusion h⟩
    | false =>
      rw [hparent] at harrives
      have hlimit : minSet ≤ 99 := UInt8.le_iff_toNat_le.mpr (Nat.le_of_lt_succ (UInt8.lt_iff_toNat_lt.mp hlt))
      rcases harrives.count_up hcolumns hlimit (UInt8.lt_of_le_of_lt hjoin hlt) with
        ⟨hbelow, harrives⟩ | ⟨rounds, chunk, hrun, hleast⟩
      · obtain ⟨rounds, hrun⟩ := harrives.finished
        rw [hbelow]
        exact iff_of_true (meets_of_run_none hrun) ⟨hlt, hnone, fun _ _ => hnone⟩
      · rw [meets_iff_of_least hrun hleast]
        constructor
        · exact fun h => ⟨hlt, hnone, fun _ _ k hk => (h k hk).2⟩
        · exact fun h k hk => ⟨hk.1.1.1, h.2.2 rfl rfl k hk⟩
  · rw [meets_iff_of_least hrun hleast]
    constructor
    · exact fun h => ⟨hlt, fun k hk => (h k hk).2, fun hempty => absurd hleast.1 (hempty ▸ Set.notMem_empty _)⟩
    · exact fun h k hk => ⟨UInt8.lt_of_le_of_lt hjoin hk.1.1.1, h.2.1 k hk⟩

/-- The searches meet their purpose on the calls that are clear, and on no other that keeps to the table. -/
theorem chunk_searches_meet (c : Call) :
    (ClearInbound c → Meets c (getAvailableMngChunckInbound c)) ∧
    (ClearOutbound c → Meets c (getAvailableMngChunckOutbound c)) ∧
    (InTable c → (Meets c (getAvailableMngChunckInbound c) → ClearInbound c) ∧
      (Meets c (getAvailableMngChunckOutbound c) → ClearOutbound c)) := by
  have hinbound : (ClearInbound c → Meets c (getAvailableMngChunckInbound c)) ∧
      (InTable c → Meets c (getAvailableMngChunckInbound c) → ClearInbound c) := by
    unfold ClearInbound
    cases hparent : c.parent.isBackbone with
    | true => exact meets_belowBackbone hparent
    | false => exact meets_belowRouter hparent
  exact ⟨hinbound.1, meets_outbound.1, fun hin => ⟨hinbound.2 hin, meets_outbound.2 hin⟩⟩

/-- A router sends from set 23 on, and is to get a link of set 21. -/
def routerCall : Call where
  subnet := ⟨14, by decide, fun i frequency => if i = 19 ∧ frequency = 1 then 7 else 0⟩
  unsentOperations := [⟨5, true, some ⟨.management, .RECEIVE, .OUTBOUND, 21⟩⟩]
  device := ⟨9, false, [], [], [], []⟩
  parent := ⟨5, false, [], [], [], [some ⟨.management, .TRANSMIT, .INBOUND, 23⟩]⟩
  joinReservedSet := 5

theorem chunk_searches_meet_router : Meets routerCall (getAvailableMngChunckInbound routerCall) ∧
    getAvailableMngChunckInbound routerCall 3 = some (some (19, 2)) := by
  have hclear : ClearInbound routerCall := by
    refine ⟨fun k hk => hk.1.2.2.1.1, fun hempty => ?_⟩
    have hfree : (inboundSearch routerCall).Free routerCall 19 := ⟨by decide, 2, by decide, rfl⟩
    have hmem : 19 ∈ (inboundSearch routerCall).freeSets routerCall (maxSetNo routerCall) fun k =>
        routerCall.joinReservedSet < k ∧ k < maxSetNo routerCall := ⟨by decide, by decide, hfree⟩
    exact absurd hmem (hempty ▸ Set.notMem_empty 19)
  exact ⟨(chunk_searches_meet routerCall).1 hclear, by decide⟩

def lowCall : Call where
  subnet := ⟨14, by decide, fun _ _ => 0⟩
  unsentOperations := []
  device := ⟨9, false, [], [], [], []⟩
  parent := ⟨5, false, [], [], [], [some ⟨.management, .TRANSMIT, .INBOUND, 1⟩]⟩
  joinReservedSet := 23

/-- The first loop starts at 1 - 2 in eight bits, behind the table. -/
theorem inbound_search_leaves_table : ¬ Meets lowCall (getAvailableMngChunckInbound lowCall) := by
  rintro ⟨rounds, answer, hrun, -⟩
  cases rounds with
  | zero => cases hrun
  | succ rounds =>
    have hnone : getAvailableMngChunckInbound lowCall (rounds + 1) = none := rfl
    rw [hnone] at hrun
    cases hrun

end Isa100Gateway.MngChunks
