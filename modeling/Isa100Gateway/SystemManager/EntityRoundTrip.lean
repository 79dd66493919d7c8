import Isa100Gateway.SystemManager.EntitiesHelper

/-!
# What is read of a data-link entity

Neighbors, links, superframes and graphs are read back as they were written, as long as the graphs that are extended for a neighbor have twelve bits. A route is read back when it is selected by a contract or is the default route: the selector of the others, or the source address after it, is not read the way it is written.
-/

namespace Isa100Gateway.EntitiesHelper

open Stream

variable {α β : Type}

theorem toNat_shiftLeft_one_or (value : UInt16) (h : value < 0x8000) :
    ((value <<< 1 ||| 0x01).toUInt8).toNat = (2 * value.toNat + 1) % 256 := by
  have hlt : value.toNat < 32768 := UInt16.lt_iff_toNat_lt.mp h
  have hshift : (value <<< 1).toNat = value.toNat * 2 ^ 1 := by
    simp [Nat.shiftLeft_eq]
    omega
  rw [UInt16.toNat_toUInt8, UInt16.toNat_or, hshift, show (0x01 : UInt16).toNat = 1 from rfl,
    Bytes.lor_eq_add (by decide)]
  omega

theorem odd_octet (b : UInt8) : (b &&& 0x01 = 0 ↔ b.toNat % 2 = 0) ∧ (b >>> 1).toNat = b.toNat / 2 := by
  revert b
  apply Bytes.forall_uint8
  decide +kernel

theorem carries_extDLUint {value : UInt16} (h : value < 0x8000) :
    Carries (marshallExtDLUint value) unmarshallExtDLUint value := by
  have hlt : value.toNat < 32768 := UInt16.lt_iff_toNat_lt.mp h
  have hallowed : ¬ value > 0x7FFF := by
    rw [gt_iff_lt, UInt16.lt_iff_toNat_lt]
    change ¬ 32767 < value.toNat
    omega
  rw [marshallExtDLUint, if_neg hallowed]
  split
  · next hshort =>
    have hvalue : value.toNat < 128 := UInt16.lt_iff_toNat_lt.mp hshort
    have hall : ∀ n < 128, ((UInt16.ofNat n <<< 1).toUInt8 &&& 0xFE) &&& 0x01 = 0 ∧
        (((UInt16.ofNat n <<< 1).toUInt8 &&& 0xFE) >>> 1).toUInt16 = UInt16.ofNat n := by decide +kernel
    obtain ⟨heven, hread⟩ := hall value.toNat hvalue
    rw [UInt16.ofNat_toNat] at heven hread
    apply Decodes.carries
    apply decodes_cons
    rw [if_pos heven, hread]
    exact decodes_pure value
  · next hlong =>
    obtain ⟨hodd, hhalf⟩ := odd_octet (value <<< 1 ||| 0x01).toUInt8
    have hfirst := toNat_shiftLeft_one_or value h
    have hnext : (value >>> 7).toUInt8.toNat = value.toNat / 128 := by
      have hshift : (value >>> 7).toNat = value.toNat / 128 := by
        simp [Nat.shiftRight_eq_div_pow]
      rw [UInt16.toNat_toUInt8, hshift]
      omega
    apply Decodes.carries
    apply decodes_cons
    rw [if_neg (mt hodd.mp (by omega))]
    apply decodes_cons
    have hjoin : (value >>> 7).toUInt8.toUInt16 <<< 7 ||| ((value <<< 1 ||| 0x01).toUInt8 >>> 1).toUInt16 = value := by
      apply UInt16.toNat_inj.mp
      have hhigh : ((value >>> 7).toUInt8.toUInt16 <<< 7).toNat = value.toNat / 128 * 2 ^ 7 := by
        rw [UInt16.toNat_shiftLeft, UInt8.toNat_toUInt16, hnext, Nat.shiftLeft_eq]
        change value.toNat / 128 * 2 ^ 7 % 65536 = _
        omega
      rw [UInt16.toNat_or, hhigh, UInt8.toNat_toUInt16, hhalf, hfirst, Bytes.lor_eq_add (by omega)]
      omega
    rw [hjoin]
    exact decodes_pure value

theorem carries_read8 (b : UInt8) : Carries (.bytes [b]) read8 b := (decodes_read8 b).carries

theorem carries_read16 (value : UInt16) : Carries (.bytes (write16 value)) read16 value :=
    (decodes_read16 value).carries

theorem carries_address64 (address : Address64) : Carries address.marshall Address64.unmarshall address := by
  apply Decodes.carries
  intro rest
  have hlength : 8 ≤ (address.value ++ rest).length := by
    rw [List.length_append, address.length]
    exact Nat.le_add_right 8 _
  rw [Address64.unmarshall, dif_pos hlength]
  obtain ⟨value, h⟩ := address
  simp only [List.take_left' h, List.drop_left' h]

theorem carries_elements {write : β → Output} {r : Reader α} {seen : β → α} {count : UInt8} {vector : List β}
    (hcount : vector.length = count.toNat) (h : ∀ b ∈ vector, Carries (write b) r (seen b)) :
    Carries (elements count vector write) (readList r count.toNat) (vector.map seen) := by
  rw [elements, if_pos hcount.ge, ← hcount, List.take_length]
  exact carries_each h

theorem kept_kept {c : Prop} [Decidable c] (a other other' : α) :
    (if c then (if c then a else other) else other') = if c then a else other' := by
  by_cases hc : c
  · rw [if_pos hc, if_pos hc, if_pos hc]
  · rw [if_neg hc, if_neg hc]

/-- What entities of one kind have to do to be read back: all the bytes are taken, and what is transmitted is the same. -/
def ReadBack (out : Output) (unmarshall : α → Reader α) (empty : α → Prop) (transmitted : α → α) (a : α) : Prop :=
  ∃ written, out = .bytes written ∧
    ∀ target, empty target → ∃ a', unmarshall target written = some (a', []) ∧ transmitted a' = transmitted a

theorem readBack_iff {out : Output} {unmarshall : α → Reader α} {empty : α → Prop} {transmitted : α → α} {a : α}
    (seen : α → α) {P : Prop} (hsome : ∃ target, empty target)
    (h : ∀ target, empty target → Carries out (unmarshall target) (seen target))
    (hseen : ∀ target, empty target → (transmitted (seen target) = transmitted a ↔ P)) :
    ReadBack out unmarshall empty transmitted a ↔ P := by
  obtain ⟨target, htarget⟩ := hsome
  constructor
  · rintro ⟨written, hwritten, hread⟩
    obtain ⟨a', ha', hsame⟩ := hread target htarget
    obtain ⟨written', hwritten', hdecodes⟩ := h target htarget
    have heq : written = written' := Option.some.inj (hwritten.symm.trans hwritten')
    subst heq
    have hrun := ha'.symm.trans hdecodes.run
    have ha : a' = seen target := congrArg Prod.fst (Option.some.inj hrun)
    rw [ha] at hsame
    exact (hseen target htarget).mp hsame
  · intro hP
    obtain ⟨written, hwritten, -⟩ := h target htarget
    refine ⟨written, hwritten, fun other hother => ?_⟩
    obtain ⟨written', hwritten', hdecodes⟩ := h other hother
    have heq : written = written' := Option.some.inj (hwritten.symm.trans hwritten')
    subst heq
    exact ⟨seen other, hdecodes.run, (hseen other hother).mpr hP⟩

def ExtendGraph.seen (entry : ExtendGraph) : ExtendGraph := { entry with graph_ID := entry.graph_ID &&& 0x0FFF }

theorem graph_octet : ∀ n < 16, ∀ lastHop < 2, ∀ preferredBranch < 2,
    let octet := ((UInt16.ofNat n) <<< 4).toUInt8 ||| UInt8.ofNat lastHop <<< 3 ||| UInt8.ofNat preferredBranch <<< 2
    ((octet &&& 0xF0) >>> 4).toUInt16 = UInt16.ofNat n ∧ (octet &&& 0x08) >>> 3 = UInt8.ofNat lastHop ∧
      (octet &&& 0x04) >>> 2 = UInt8.ofNat preferredBranch := by
  decide +kernel

theorem carries_extendGraph {entry : ExtendGraph} (hlast : entry.lastHop < 2) (hbranch : entry.preferredBranch < 2) :
    Carries entry.marshallEntity ExtendGraph.unmarshallEntity entry.seen := by
  have hnibble : (entry.graph_ID &&& 0x000F).toNat = entry.graph_ID.toNat % 16 :=
    Bytes.toNat_and_two_pow_sub_one entry.graph_ID 4 0x000F (by decide)
  obtain ⟨hlow, hlastHop, hpreferred⟩ := graph_octet (entry.graph_ID &&& 0x000F).toNat (by omega) entry.lastHop.toNat
    (UInt8.lt_iff_toNat_lt.mp hlast) entry.preferredBranch.toNat (UInt8.lt_iff_toNat_lt.mp hbranch)
  simp only [UInt16.ofNat_toNat, UInt8.ofNat_toNat] at hlow hlastHop hpreferred
  have hjoin : (entry.graph_ID >>> 4).toUInt8.toUInt16 <<< 4 ||| (entry.graph_ID &&& 0x000F) =
      entry.graph_ID &&& 0x0FFF := by
    apply UInt16.toNat_inj.mp
    have hshift : (entry.graph_ID >>> 4).toNat = entry.graph_ID.toNat / 16 := by
      simp [Nat.shiftRight_eq_div_pow]
    have hhigh : ((entry.graph_ID >>> 4).toUInt8.toUInt16 <<< 4).toNat = entry.graph_ID.toNat / 16 % 256 * 2 ^ 4 := by
      rw [UInt16.toNat_shiftLeft, UInt8.toNat_toUInt16, UInt16.toNat_toUInt8, hshift, Nat.shiftLeft_eq]
      change entry.graph_ID.toNat / 16 % 256 * 2 ^ 4 % 65536 = _
      omega
    rw [UInt16.toNat_or, hhigh, hnibble, Bytes.lor_eq_add (by omega),
      Bytes.toNat_and_two_pow_sub_one entry.graph_ID 12 0x0FFF (by decide)]
    omega
  apply Decodes.carries
  apply decodes_cons
  apply decodes_cons
  rw [hlow, hlastHop, hpreferred, hjoin]
  exact decodes_pure _

theorem and_0x0FFF_eq_iff (value : UInt16) : value &&& 0x0FFF = value ↔ value < 0x1000 := by
  rw [← UInt16.toNat_inj, Bytes.toNat_and_two_pow_sub_one value 12 0x0FFF (by decide), UInt16.lt_iff_toNat_lt]
  change value.toNat % 4096 = value.toNat ↔ value.toNat < 4096
  omega

namespace PhyNeighbor

theorem octet_bits (clockSource extGrCnt diagLevel linkBacklog : UInt8) (hclock : clockSource < 4)
    (hcount : extGrCnt < 4)
    (hdiag : diagLevel < 4) (hbacklog : linkBacklog < 2) :
    let octet := octet clockSource extGrCnt diagLevel linkBacklog
    (octet &&& 0xC0) >>> 6 = clockSource ∧ (octet &&& 0x30) >>> 4 = extGrCnt ∧ (octet &&& 0x0E) >>> 2 = diagLevel ∧
      (octet &&& 0x02) >>> 1 = linkBacklog := by
  have hall : ∀ c < 4, ∀ e < 4, ∀ d < 4, ∀ l < 2,
      let octet := octet (UInt8.ofNat c) (UInt8.ofNat e) (UInt8.ofNat d) (UInt8.ofNat l)
      (octet &&& 0xC0) >>> 6 = UInt8.ofNat c ∧ (octet &&& 0x30) >>> 4 = UInt8.ofNat e ∧
        (octet &&& 0x0E) >>> 2 = UInt8.ofNat d ∧ (octet &&& 0x02) >>> 1 = UInt8.ofNat l := by
    decide +kernel
  have := hall clockSource.toNat (UInt8.lt_iff_toNat_lt.mp hclock) extGrCnt.toNat (UInt8.lt_iff_toNat_lt.mp hcount)
    diagLevel.toNat (UInt8.lt_iff_toNat_lt.mp hdiag) linkBacklog.toNat (UInt8.lt_iff_toNat_lt.mp hbacklog)
  simpa only [UInt8.ofNat_toNat] using this

structure Encodable (entity : PhyNeighbor) : Prop where
  index : entity.index < 0x8000
  clockSource : entity.clockSource < 4
  extGrCnt : entity.extGrCnt < 4
  count : entity.extendGraph.length = entity.extGrCnt.toNat
  graphs : ∀ entry ∈ entity.extendGraph, entry.graph_ID < 0x8000 ∧ entry.lastHop < 2 ∧ entry.preferredBranch < 2
  diagLevel : entity.diagLevel < 4
  linkBacklog : entity.linkBacklog < 2
  linkBacklogIndex : entity.linkBacklog = 1 → entity.linkBacklogIndex < 0x8000

def transmitted (entity : PhyNeighbor) : PhyNeighbor :=
  { entity with
    linkBacklogIndex := if entity.linkBacklog = 1 then entity.linkBacklogIndex else 0
    linkBacklogDur := if entity.linkBacklog = 1 then entity.linkBacklogDur else 0 }

def seen (entity target : PhyNeighbor) : PhyNeighbor :=
  let backlog := if entity.linkBacklog = 1 then (entity.linkBacklogIndex, entity.linkBacklogDur)
    else (target.linkBacklogIndex, target.linkBacklogDur)
  { entity with
    extendGraph := target.extendGraph ++ entity.extendGraph.map ExtendGraph.seen
    linkBacklogIndex := backlog.1
    linkBacklogDur := backlog.2 }

theorem carries {entity : PhyNeighbor} (h : entity.Encodable) (target : PhyNeighbor) :
    Carries entity.marshallEntity target.unmarshallEntity (entity.seen target) := by
  obtain ⟨hclock, hcount, hdiag, hbacklog⟩ :=
    octet_bits _ _ _ _ h.clockSource h.extGrCnt h.diagLevel h.linkBacklog
  apply (carries_extDLUint h.index).bind
  apply (carries_address64 entity.address64).bind
  apply (carries_read8 entity.groupCode).bind
  apply (carries_read8 _).bind
  rw [hclock, hcount, hdiag, hbacklog]
  apply (carries_elements h.count fun entry hentry =>
    carries_extendGraph (h.graphs entry hentry).2.1 (h.graphs entry hentry).2.2).bind
  apply Carries.bind_pure
  apply Carries.when
  intro hset
  apply (carries_extDLUint (h.linkBacklogIndex hset)).bind
  exact (carries_read8 entity.linkBacklogDur).bind_pure

theorem transmitted_seen {entity target : PhyNeighbor} (htarget : target.extendGraph = []) :
    (entity.seen target).transmitted = entity.transmitted ↔ ∀ entry ∈ entity.extendGraph, entry.graph_ID < 0x1000 := by
  have hgraphs : entity.extendGraph.map ExtendGraph.seen = entity.extendGraph ↔
      ∀ entry ∈ entity.extendGraph, entry.graph_ID < 0x1000 := by
    conv_lhs => rhs; rw [← List.map_id entity.extendGraph]
    rw [List.map_inj_left]
    refine forall₂_congr fun entry _ => ?_
    rw [← and_0x0FFF_eq_iff]
    exact ⟨fun heq => congrArg ExtendGraph.graph_ID heq, fun heq => by rw [ExtendGraph.seen, heq]; rfl⟩
  rw [← hgraphs]
  constructor
  · intro heq
    have hlists := congrArg PhyNeighbor.extendGraph heq
    rwa [transmitted, seen, htarget, List.nil_append] at hlists
  · intro heq
    rw [transmitted, seen, htarget, heq, transmitted]
    by_cases hset : entity.linkBacklog = 1
    · simp only [hset, if_true, List.nil_append]
    · simp only [hset, if_false, List.nil_append]

end PhyNeighbor

theorem length_marshallExtDLUint {value : UInt16} {written : List UInt8}
    (h : marshallExtDLUint value = .bytes written) :
    written.length ≤ 2 := by
  rw [marshallExtDLUint] at h
  split at h
  · cases h
  · split at h
    · rw [← Option.some.inj h]
      exact Nat.le_succ 1
    · rw [← Option.some.inj h]
      exact Nat.le_refl 2

namespace PhyRoute

theorem octet_bits (size alternative : UInt8) (hsize : size < 16) (halternative : alternative < 4) :
    let octet := octet size alternative
    (octet &&& 0xF0) >>> 4 = size ∧ (octet &&& 0x0C) >>> 2 = alternative := by
  have hall : ∀ s < 16, ∀ a < 4,
      let octet := octet (UInt8.ofNat s) (UInt8.ofNat a)
      (octet &&& 0xF0) >>> 4 = UInt8.ofNat s ∧ (octet &&& 0x0C) >>> 2 = UInt8.ofNat a := by
    decide +kernel
  have := hall size.toNat (UInt8.lt_iff_toNat_lt.mp hsize) alternative.toNat (UInt8.lt_iff_toNat_lt.mp halternative)
  simpa only [UInt8.ofNat_toNat] using this

structure Encodable (entity : PhyRoute) : Prop where
  index : entity.index < 0x8000
  size : entity.route.length ≤ 15
  alternative : entity.alternative < 4
  sourceAddress : entity.alternative = 0 → entity.sourceAddress < 0x8000

/-- The default route has no selector, and only routes of a contract and a source have a source address. -/
def transmitted (entity : PhyRoute) : PhyRoute :=
  { entity with
    selector := if entity.alternative = 3 then 0 else entity.selector
    sourceAddress := if entity.alternative = 0 then entity.sourceAddress else 0 }

/-- What is read of a route that is selected by a contract or is the default route. -/
def seen (entity target : PhyRoute) : PhyRoute :=
  { entity with
    route := target.route ++ entity.route
    selector := if entity.alternative = 1 then entity.selector else target.selector
    sourceAddress := 0 }

theorem carries_route {entity : PhyRoute} (h : entity.route.length ≤ 15) :
    Carries entity.marshallRoute (readList read16 entity.route.length) entity.route := by
  rw [marshallRoute, if_pos (by omega)]
  have heach : Carries (.each (fun element => .bytes (write16 element)) entity.route)
      (readList read16 entity.route.length) (entity.route.map id) :=
    carries_each fun element _ => carries_read16 element
  rwa [List.map_id] at heach

variable {entity : PhyRoute}

def readSelector (entity target : PhyRoute) : Reader PhyRoute := do
  let selector ← readWhen (entity.alternative < 2) read16 target.selector
  let sourceAddress ← readWhen (entity.alternative = 0) read32 0
  return ⟨entity.index, entity.alternative, entity.forwardLimit, target.route ++ entity.route, selector, sourceAddress⟩

def marshallSelector (entity : PhyRoute) : Output :=
  Output.when (entity.alternative ≠ RouteOption.UseDefaultRoute.value) (.bytes (write16 entity.selector)) ++
    Output.when (entity.alternative = RouteOption.UseBbrContractID.value)
      (marshallExtDLUint entity.sourceAddress.toUInt16)

theorem reads_head (h : entity.Encodable) (target : PhyRoute) {P : Output → Reader PhyRoute → Prop}
    (hbind : ∀ (γ : Type) (out out' : Output) (r : Reader γ) (c : γ) (f : γ → Reader PhyRoute),
      Carries out r c → P out' (f c) → P (out ++ out') (r >>= f))
    (hselector : P entity.marshallSelector (entity.readSelector target)) :
    P entity.marshallEntity target.unmarshallEntity := by
  have hsize : UInt8.ofNat entity.route.length < 16 := by
    rw [UInt8.lt_iff_toNat_lt, UInt8.toNat_ofNat']
    have := h.size
    change entity.route.length % 256 < 16
    omega
  have hlength : (UInt8.ofNat entity.route.length).toNat = entity.route.length := by
    rw [UInt8.toNat_ofNat']
    have := h.size
    omega
  obtain ⟨hcount, halternative⟩ := octet_bits _ _ hsize h.alternative
  apply hbind _ _ _ _ _ _ (carries_extDLUint h.index)
  apply hbind _ _ _ _ _ _ (carries_read8 _)
  dsimp only
  rw [hcount, halternative, hlength]
  apply hbind _ _ _ _ _ _ (carries_read8 entity.forwardLimit)
  exact hbind _ _ _ _ _ _ (carries_route h.size) hselector

theorem carries (h : entity.Encodable) (halternative : entity.alternative = 1 ∨ entity.alternative = 3)
    (target : PhyRoute) : Carries entity.marshallEntity target.unmarshallEntity (entity.seen target) := by
  apply reads_head h target (P := fun out r => Carries out r (entity.seen target))
    fun _ _ _ _ _ _ hhead htail => hhead.bind htail
  rw [marshallSelector, readSelector, seen]
  rcases halternative with halternative | halternative
  · rw [halternative]
    exact (carries_read16 entity.selector).bind (decodes_pure _).carries
  · rw [halternative]
    exact (decodes_pure target.selector).carries.bind (decodes_pure _).carries

theorem incomplete_address (h : entity.Encodable) (halternative : entity.alternative = 2) (target : PhyRoute) :
    Incomplete entity.marshallEntity target.unmarshallEntity := by
  apply reads_head h target (P := Incomplete) fun _ _ _ _ _ _ hhead htail => hhead.incomplete htail
  intro written route hwritten hread
  rw [marshallSelector, halternative] at hwritten
  rw [readSelector, halternative] at hread
  have hwritten' : written = write16 entity.selector := (Option.some.inj hwritten).symm
  subst hwritten'
  have hleft : write16 entity.selector = [] := congrArg Prod.snd (Option.some.inj hread)
  exact nomatch hleft

theorem incomplete_source (h : entity.Encodable) (halternative : entity.alternative = 0) (target : PhyRoute) :
    Incomplete entity.marshallEntity target.unmarshallEntity := by
  apply reads_head h target (P := Incomplete) fun _ _ _ _ _ _ hhead htail => hhead.incomplete htail
  rw [marshallSelector, readSelector, halternative]
  apply (carries_read16 entity.selector).incomplete
  intro written route hwritten
  have hshort := length_marshallExtDLUint hwritten
  change (read32 written).bind _ ≠ _
  rw [read32_short (by omega)]
  nofun

theorem transmitted_seen {target : PhyRoute} (htarget : target.route = [])
    (halternative : entity.alternative = 1 ∨ entity.alternative = 3) :
    (entity.seen target).transmitted = entity.transmitted := by
  rw [transmitted, seen, htarget, List.nil_append, transmitted]
  rcases halternative with halternative | halternative
  · rw [halternative]
    rfl
  · rw [halternative]
    rfl

end PhyRoute

/-! ## Links -/

theorem carries_low16 (value : UInt16) : Carries (.bytes (writeLow16 value)) readLow16 value := by
  apply Decodes.carries
  apply decodes_cons
  apply decodes_cons
  rw [Bytes.join_split]
  exact decodes_pure value

def Schedule.Encodable (schedule : Schedule) : ScheduleType → Prop
  | .OFFSET => schedule.offset < 0x8000
  | .OFFSET_AND_INTERVAL => schedule.offset < 0x8000 ∧ schedule.interval < 0x8000
  | .RANGE => schedule.offset < 0x8000 ∧ schedule.interval < 0x8000
  | .BITMAP => True

def Schedule.seen (schedule target : Schedule) : ScheduleType → Schedule
  | .OFFSET => { target with offset := schedule.offset }
  | _ => schedule

theorem carries_schedule {schedule : Schedule} {schedType : ScheduleType} (h : schedule.Encodable schedType)
    (target : Schedule) :
    Carries (schedule.marshall schedType) (target.unmarshall schedType) (schedule.seen target schedType) := by
  cases schedType with
  | OFFSET => exact (carries_extDLUint h).bind_pure
  | OFFSET_AND_INTERVAL => exact (carries_extDLUint h.1).bind (carries_extDLUint h.2).bind_pure
  | RANGE => exact (carries_extDLUint h.1).bind (carries_extDLUint h.2).bind_pure
  | BITMAP => exact (carries_low16 schedule.interval).bind (carries_low16 schedule.offset).bind_pure

namespace PhyLink

theorem octet_bits (neighborType graphType : UInt8) (schedType : ScheduleType) (chType priorityType : UInt8)
    (hneighbor : neighborType < 4) (hgraph : graphType < 4) (hch : chType < 2) (hpriority : priorityType < 2) :
    let octet := octet neighborType graphType schedType chType priorityType
    (octet &&& 0xC0) >>> 6 = neighborType ∧ (octet &&& 0x30) >>> 4 = graphType ∧
      ScheduleType.fromUint8 ((octet &&& 0x0C) >>> 2) = schedType ∧ (octet &&& 0x02) >>> 1 = chType ∧
        priorityTypeFromUint8 (octet &&& 0x01) = priorityType := by
  have hhigh : ∀ n < 4, ∀ g < 4, ∀ c < 2, ∀ p < 2,
      let octet := octet (UInt8.ofNat n) (UInt8.ofNat g) schedType (UInt8.ofNat c) (UInt8.ofNat p)
      (octet &&& 0xC0) >>> 6 = UInt8.ofNat n ∧ (octet &&& 0x30) >>> 4 = UInt8.ofNat g := by
    cases schedType <;> decide +kernel
  have hlow : ∀ n < 4, ∀ g < 4, ∀ c < 2, ∀ p < 2,
      let octet := octet (UInt8.ofNat n) (UInt8.ofNat g) schedType (UInt8.ofNat c) (UInt8.ofNat p)
      ScheduleType.fromUint8 ((octet &&& 0x0C) >>> 2) = schedType ∧ (octet &&& 0x02) >>> 1 = UInt8.ofNat c ∧
        priorityTypeFromUint8 (octet &&& 0x01) = UInt8.ofNat p := by
    cases schedType <;> decide +kernel
  have hhigh' := hhigh neighborType.toNat (UInt8.lt_iff_toNat_lt.mp hneighbor) graphType.toNat
    (UInt8.lt_iff_toNat_lt.mp hgraph) chType.toNat (UInt8.lt_iff_toNat_lt.mp hch) priorityType.toNat
    (UInt8.lt_iff_toNat_lt.mp hpriority)
  have hlow' := hlow neighborType.toNat (UInt8.lt_iff_toNat_lt.mp hneighbor) graphType.toNat
    (UInt8.lt_iff_toNat_lt.mp hgraph) chType.toNat (UInt8.lt_iff_toNat_lt.mp hch) priorityType.toNat
    (UInt8.lt_iff_toNat_lt.mp hpriority)
  simp only [UInt8.ofNat_toNat] at hhigh' hlow'
  exact ⟨hhigh'.1, hhigh'.2, hlow'⟩

structure Encodable (entity : PhyLink) : Prop where
  index : entity.index < 0x8000
  superframeIndex : entity.superframeIndex < 0x8000
  template1 : entity.template1 < 0x8000
  template2 : IsTRx entity.type → entity.template2 < 0x8000
  neighborType : entity.neighborType < 4
  graphType : entity.graphType < 4
  chType : entity.chType < 2
  priorityType : entity.priorityType < 2
  neighbor : entity.neighborType ≠ 0 → entity.neighbor < 0x8000
  graphID : entity.graphType ≠ 0 → entity.graphID < 0x8000
  schedule : entity.schedule.Encodable entity.schedType

def seen (entity target : PhyLink) : PhyLink :=
  { entity with
    template2 := if IsTRx entity.type then entity.template2 else target.template2
    neighbor := if entity.neighborType ≠ 0 then entity.neighbor else target.neighbor
    graphID := if entity.graphType ≠ 0 then entity.graphID else target.graphID
    schedule := entity.schedule.seen target.schedule entity.schedType
    chOffset := if entity.chType ≠ 0 then entity.chOffset else target.chOffset
    priority := if entity.priorityType = 1 then entity.priority else target.priority }

def blank (entity : PhyLink) : PhyLink :=
  { entity with template2 := 0, neighbor := 0, graphID := 0, schedule := ⟨0, 0⟩, chOffset := 0, priority := 0 }

def transmitted (entity : PhyLink) : PhyLink := entity.seen entity.blank

theorem priorityType_ne_zero_iff {priorityType : UInt8} (h : priorityType < 2) :
    priorityType ≠ 0 ↔ priorityType = 1 := by
  revert h
  revert priorityType
  apply Bytes.forall_uint8
  decide +kernel

theorem carries {entity : PhyLink} (h : entity.Encodable) (target : PhyLink) :
    Carries entity.marshallEntity target.unmarshallEntity (entity.seen target) := by
  obtain ⟨hneighbor, hgraph, hsched, hch, hpriority⟩ := octet_bits _ _ entity.schedType _ _ h.neighborType h.graphType
    h.chType h.priorityType
  apply (carries_extDLUint h.index).bind
  apply (carries_extDLUint h.superframeIndex).bind
  apply (carries_read8 entity.type).bind
  apply (carries_extDLUint h.template1).bind
  apply (Carries.when (fun htrx => carries_extDLUint (h.template2 htrx)) target.template2).bind
  apply (carries_read8 _).bind
  rw [hneighbor, hgraph, hsched, hch, hpriority]
  apply (Carries.when (fun hset => carries_extDLUint (h.neighbor hset)) target.neighbor).bind
  apply (Carries.when (fun hset => carries_extDLUint (h.graphID hset)) target.graphID).bind
  apply (carries_schedule h.schedule target.schedule).bind
  apply (Carries.when (fun _ => carries_read8 entity.chOffset) target.chOffset).bind
  -- the writer tests for a priority type that is not zero, the reader for one
  simp only [priorityType_ne_zero_iff h.priorityType]
  exact (Carries.when (fun _ => carries_read8 entity.priority) target.priority).bind_pure

theorem schedule_seen_seen (schedule target : Schedule) (schedType : ScheduleType) :
    (schedule.seen target schedType).seen ⟨0, 0⟩ schedType = schedule.seen ⟨0, 0⟩ schedType := by
  cases schedType <;> rfl

theorem transmitted_seen (entity target : PhyLink) : (entity.seen target).transmitted = entity.transmitted := by
  rw [transmitted, transmitted, seen, seen, seen, blank, blank]
  simp only [kept_kept, schedule_seen_seen]

end PhyLink

namespace PhySuperframe

theorem octet_bits (sfType priority chMapOv idleUsed : UInt8) (htype : sfType < 4) (hpriority : priority < 16)
    (hmap : chMapOv < 2) (hidle : idleUsed < 2) :
    let octet := octet sfType priority chMapOv idleUsed
    (octet &&& 0xC0) >>> 6 = sfType ∧ (octet &&& 0x3C) >>> 2 = priority ∧ (octet &&& 0x2) >>> 1 = chMapOv ∧
      octet &&& 1 = idleUsed := by
  have hall : ∀ s < 4, ∀ p < 16, ∀ m < 2, ∀ i < 2,
      let octet := octet (UInt8.ofNat s) (UInt8.ofNat p) (UInt8.ofNat m) (UInt8.ofNat i)
      (octet &&& 0xC0) >>> 6 = UInt8.ofNat s ∧ (octet &&& 0x3C) >>> 2 = UInt8.ofNat p ∧
        (octet &&& 0x2) >>> 1 = UInt8.ofNat m ∧ octet &&& 1 = UInt8.ofNat i := by
    decide +kernel
  have := hall sfType.toNat (UInt8.lt_iff_toNat_lt.mp htype) priority.toNat (UInt8.lt_iff_toNat_lt.mp hpriority)
    chMapOv.toNat (UInt8.lt_iff_toNat_lt.mp hmap) idleUsed.toNat (UInt8.lt_iff_toNat_lt.mp hidle)
  simpa only [UInt8.ofNat_toNat] using this

structure Encodable (entity : PhySuperframe) : Prop where
  index : entity.index < 0x8000
  chIndex : entity.chIndex < 0x8000
  sfType : entity.sfType < 4
  priority : entity.priority < 16
  chMapOv : entity.chMapOv < 2
  idleUsed : entity.idleUsed < 2
  chRate : entity.chRate < 0x8000

def seen (entity target : PhySuperframe) : PhySuperframe :=
  { entity with
    chMap := if entity.chMapOv = 1 then entity.chMap else target.chMap
    idleTimer := if entity.idleUsed = 1 then entity.idleTimer else target.idleTimer
    rndSlots := if entity.sfType = randomizeSlowHop then entity.rndSlots else target.rndSlots }

def transmitted (entity : PhySuperframe) : PhySuperframe :=
  entity.seen { entity with chMap := 0, idleTimer := 0, rndSlots := 0 }

theorem carries_idleTimer (idleTimer : Int32) :
    Carries (.bytes (write32 idleTimer.toUInt32)) (do let value ← read32; pure value.toInt32) idleTimer := by
  have hread := (decodes_read32 idleTimer.toUInt32).bind_pure (f := fun value => value.toInt32)
  exact hread.carries

theorem carries {entity : PhySuperframe} (h : entity.Encodable) (target : PhySuperframe) :
    Carries entity.marshallEntity target.unmarshallEntity (entity.seen target) := by
  obtain ⟨htype, hpriority, hmap, hidle⟩ := octet_bits _ _ _ _ h.sfType h.priority h.chMapOv h.idleUsed
  apply (carries_extDLUint h.index).bind
  apply (carries_read16 entity.tsDur).bind
  apply (carries_extDLUint h.chIndex).bind
  apply (carries_read8 entity.chBirth).bind
  apply (carries_read8 _).bind
  rw [htype, hpriority, hmap, hidle]
  apply (carries_read16 entity.sfPeriod).bind
  apply (carries_read16 entity.sfBirth).bind
  apply (carries_extDLUint h.chRate).bind
  apply (Carries.when (fun _ => carries_read16 entity.chMap) target.chMap).bind
  apply (Carries.when (fun _ => carries_idleTimer entity.idleTimer) target.idleTimer).bind
  exact (Carries.when (fun _ => carries_read8 entity.rndSlots) target.rndSlots).bind_pure

theorem transmitted_seen (entity target : PhySuperframe) : (entity.seen target).transmitted = entity.transmitted := by
  rw [transmitted, transmitted, seen, seen, seen]
  simp only [kept_kept]

end PhySuperframe

namespace PhyGraph

theorem octet_bits (preferredBranch neighborCount queue : UInt8) (hbranch : preferredBranch < 2)
    (hcount : neighborCount < 8) (hqueue : queue < 16) :
    let octet := octet preferredBranch neighborCount queue
    (octet &&& 0x80) >>> 7 = preferredBranch ∧ (octet &&& 0x70) >>> 4 = neighborCount ∧ octet &&& 0x0F = queue := by
  have hall : ∀ b < 2, ∀ n < 8, ∀ q < 16,
      let octet := octet (UInt8.ofNat b) (UInt8.ofNat n) (UInt8.ofNat q)
      (octet &&& 0x80) >>> 7 = UInt8.ofNat b ∧ (octet &&& 0x70) >>> 4 = UInt8.ofNat n ∧
        octet &&& 0x0F = UInt8.ofNat q := by
    decide +kernel
  have := hall preferredBranch.toNat (UInt8.lt_iff_toNat_lt.mp hbranch) neighborCount.toNat
    (UInt8.lt_iff_toNat_lt.mp hcount) queue.toNat (UInt8.lt_iff_toNat_lt.mp hqueue)
  simpa only [UInt8.ofNat_toNat] using this

structure Encodable (entity : PhyGraph) : Prop where
  index : entity.index < 0x8000
  preferredBranch : entity.preferredBranch < 2
  neighborCount : entity.neighborCount < 8
  queue : entity.queue < 16
  maxLifetime : entity.maxLifetime < 0x8000
  count : entity.neighbors.length = entity.neighborCount.toNat
  neighbors : ∀ neighbor ∈ entity.neighbors, neighbor < 0x8000

theorem carries {entity target : PhyGraph} (h : entity.Encodable) (htarget : target.neighbors = []) :
    Carries entity.marshallEntity target.unmarshallEntity entity := by
  obtain ⟨hbranch, hcount, hqueue⟩ := octet_bits _ _ _ h.preferredBranch h.neighborCount h.queue
  apply (carries_extDLUint h.index).bind
  apply (carries_read8 _).bind
  rw [hbranch, hcount, hqueue, htarget]
  apply (carries_extDLUint h.maxLifetime).bind
  have hneighbors : Carries (elements entity.neighborCount entity.neighbors marshallExtDLUint)
      (readList unmarshallExtDLUint entity.neighborCount.toNat) (entity.neighbors.map id) :=
    carries_elements h.count fun neighbor hneighbor => carries_extDLUint (h.neighbors neighbor hneighbor)
  rw [List.map_id] at hneighbors
  exact hneighbors.bind_pure

end PhyGraph

inductive Entity
  | neighbor (entity : PhyNeighbor)
  | route (entity : PhyRoute)
  | link (entity : PhyLink)
  | superframe (entity : PhySuperframe)
  | graph (entity : PhyGraph)

namespace Entity

def Encodable : Entity → Prop
  | neighbor entity => entity.Encodable
  | route entity => entity.Encodable
  | link entity => entity.Encodable
  | superframe entity => entity.Encodable
  | graph entity => entity.Encodable

def RoundTrips : Entity → Prop
  | neighbor entity => ReadBack entity.marshallEntity PhyNeighbor.unmarshallEntity
      (fun target => target.extendGraph = []) PhyNeighbor.transmitted entity
  | route entity => ReadBack entity.marshallEntity PhyRoute.unmarshallEntity
      (fun target => target.route = []) PhyRoute.transmitted entity
  | link entity => ReadBack entity.marshallEntity PhyLink.unmarshallEntity (fun _ => True) PhyLink.transmitted entity
  | superframe entity => ReadBack entity.marshallEntity PhySuperframe.unmarshallEntity (fun _ => True)
      PhySuperframe.transmitted entity
  | graph entity => ReadBack entity.marshallEntity PhyGraph.unmarshallEntity
      (fun target => target.neighbors = []) id entity

/-- The graphs extended for a neighbor have twelve bits, and a route is selected by a contract or is the default route. -/
def ReadAsWritten : Entity → Prop
  | neighbor entity => ∀ entry ∈ entity.extendGraph, entry.graph_ID < 0x1000
  | route entity => entity.alternative = RouteOption.UseContractID.value ∨
      entity.alternative = RouteOption.UseDefaultRoute.value
  | link _ | superframe _ | graph _ => True

end Entity

theorem alternative_cases {alternative : UInt8} (h : alternative < 4) :
    alternative = 0 ∨ alternative = 1 ∨ alternative = 2 ∨ alternative = 3 := by
  revert h
  revert alternative
  apply Bytes.forall_uint8
  decide +kernel

theorem PhyRoute.readBack_iff_alternative {entity : PhyRoute} (h : entity.Encodable) :
    ReadBack entity.marshallEntity PhyRoute.unmarshallEntity
      (fun target => target.route = []) PhyRoute.transmitted entity ↔
      entity.alternative = 1 ∨ entity.alternative = 3 := by
  have hempty : ∃ target : PhyRoute, target.route = [] := ⟨{ entity with route := [] }, rfl⟩
  constructor
  · rintro ⟨written, hwritten, hread⟩
    obtain ⟨target, htarget⟩ := hempty
    obtain ⟨route, hroute, -⟩ := hread target htarget
    rcases alternative_cases h.alternative with halternative | halternative | halternative | halternative
    · exact absurd hroute (incomplete_source h halternative target written route hwritten)
    · exact .inl halternative
    · exact absurd hroute (incomplete_address h halternative target written route hwritten)
    · exact .inr halternative
  · intro halternative
    exact (readBack_iff _ hempty (fun target _ => carries h halternative target) fun target htarget =>
      iff_of_true (transmitted_seen htarget halternative) halternative).mpr halternative

/-- Exactly which entities are read back as they were written. -/
theorem entity_roundTrips_iff (entity : Entity) (h : entity.Encodable) : entity.RoundTrips ↔ entity.ReadAsWritten := by
  cases entity with
  | neighbor entity =>
    exact readBack_iff _ ⟨{ entity with extendGraph := [] }, rfl⟩ (fun target _ => PhyNeighbor.carries h target)
      fun target htarget => PhyNeighbor.transmitted_seen htarget
  | route entity => exact PhyRoute.readBack_iff_alternative h
  | link entity =>
    exact readBack_iff _ ⟨entity, trivial⟩ (fun target _ => PhyLink.carries h target) fun target _ =>
      iff_of_true (PhyLink.transmitted_seen entity target) trivial
  | superframe entity =>
    exact readBack_iff _ ⟨entity, trivial⟩ (fun target _ => PhySuperframe.carries h target) fun target _ =>
      iff_of_true (PhySuperframe.transmitted_seen entity target) trivial
  | graph entity =>
    exact readBack_iff (fun _ => entity) ⟨{ entity with neighbors := [] }, rfl⟩
      (fun target htarget => PhyGraph.carries h htarget) fun _ _ => iff_of_true rfl trivial

def addressRoute : PhyRoute := ⟨3, 2, 16, [0xA005], 0x0102, 0⟩

theorem addressRoute_encodable : (Entity.route addressRoute).Encodable where
  index := by decide
  size := by decide
  alternative := by decide
  sourceAddress := by decide

theorem entity_roundTrips_address : (Entity.route addressRoute).Encodable ∧
      ((Entity.route addressRoute).RoundTrips ↔ (Entity.route addressRoute).ReadAsWritten) :=
  ⟨addressRoute_encodable, entity_roundTrips_iff _ addressRoute_encodable⟩

/-- The selector of the route is written and stays in the stream. -/
theorem addressRoute_left : (Entity.route addressRoute).Encodable ∧ ¬ (Entity.route addressRoute).RoundTrips := by
  refine ⟨addressRoute_encodable, ?_⟩
  rintro ⟨written, hwritten, hread⟩
  obtain ⟨route, hroute, -⟩ := hread ⟨0, 0, 15, [], 0, 0⟩ rfl
  have hbytes : written = [0x06, 0x18, 0x10, 0xA0, 0x05, 0x01, 0x02] := (Option.some.inj hwritten).symm
  subst hbytes
  have hleft : ([0x01, 0x02] : List UInt8) = [] := congrArg Prod.snd (Option.some.inj hroute)
  exact nomatch hleft

end Isa100Gateway.EntitiesHelper
