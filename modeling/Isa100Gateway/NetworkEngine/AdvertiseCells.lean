import Isa100Gateway.NetworkEngine.AdvertiseSchedule
import Mathlib.Data.Nat.ModEq

/-!
# Cells and advertise links

Which slot and channel a cell stands for, that no two cells stand for the same with the fast period, and what every function does to the table and to the link of its device.
-/

namespace Isa100Gateway.AdvertiseSchedule

open CellTable

/-- The fast advertise period, if it is shorter than 30 seconds, counts the seconds of `join_adv_period` in 16 bits, and a second has room for the three chunks. -/
structure SubnetSettings.Spaced (settings : SubnetSettings) : Prop where
  period_pos : 0 < settings.joinAdvPeriod.toNat
  room : advertisePeriod settings < settings.slotsPer30Sec →
    16 ≤ settings.slotsPerSec.toNat ∧ settings.joinAdvPeriod.toNat * settings.slotsPerSec.toNat < 2 ^ 16

instance (settings : SubnetSettings) : Decidable settings.Spaced :=
  decidable_of_iff (0 < settings.joinAdvPeriod.toNat ∧ (advertisePeriod settings < settings.slotsPer30Sec →
    16 ≤ settings.slotsPerSec.toNat ∧ settings.joinAdvPeriod.toNat * settings.slotsPerSec.toNat < 2 ^ 16))
    ⟨fun h => ⟨h.1, h.2⟩, fun h => ⟨h.period_pos, h.room⟩⟩

variable {settings : SubnetSettings}

theorem toNat_channelOffset (settings : SubnetSettings) (cell : Cell) :
    (channelOffset settings cell).toNat = cell.2 / settings.joinAdvPeriod.toNat * 4 := by
  have hcell : cell.2.val < 30 := cell.2.isLt
  have hdiv := Nat.div_le_self cell.2.val settings.joinAdvPeriod.toNat
  rw [channelOffset, UInt8.toNat_ofNat_of_lt']
  change _ < 256
  omega

theorem channelOffset_eq_zero_iff (hspaced : settings.Spaced) (cell : Cell) :
    channelOffset settings cell = 0 ↔ cell.2.val < settings.joinAdvPeriod.toNat := by
  have hpos := hspaced.period_pos
  rw [← UInt8.toNat_inj, toNat_channelOffset, UInt8.toNat_zero, Nat.mul_eq_zero, Nat.div_eq_zero_iff]
  omega

theorem startSlotAdv_lt (index : Fin maxNrOfAdvBandwidthChuncks) : (startSlotAdv index).toNat < 16 := by
  revert index
  decide

theorem startSlotAdv_injective : Function.Injective startSlotAdv := by
  have hall : ∀ index index', startSlotAdv index = startSlotAdv index' → index = index' := by decide
  intro index index'
  exact hall index index'

theorem toNat_advertisePeriod (h : settings.joinAdvPeriod.toNat * settings.slotsPerSec.toNat < 2 ^ 16) :
    (advertisePeriod settings).toNat = settings.joinAdvPeriod.toNat * settings.slotsPerSec.toNat := by
  rw [advertisePeriod, UInt16.toNat_mul, Nat.mod_eq_of_lt h]

theorem toNat_advertiseStartSlot (hspaced : settings.Spaced) (hfast : advertisePeriod settings < settings.slotsPer30Sec)
    (cell : Cell) : (advertiseStartSlot settings cell).toNat =
        cell.2 % settings.joinAdvPeriod.toNat * settings.slotsPerSec.toNat + (startSlotAdv cell.1).toNat ∧
      (advertiseStartSlot settings cell).toNat < (advertisePeriod settings).toNat := by
  obtain ⟨hroom, hfits⟩ := hspaced.room hfast
  have hstart := startSlotAdv_lt cell.1
  have hmod := Nat.mod_lt cell.2.val hspaced.period_pos
  have hsecond : (cell.2 % settings.joinAdvPeriod.toNat + 1) * settings.slotsPerSec.toNat ≤
      settings.joinAdvPeriod.toNat * settings.slotsPerSec.toNat := Nat.mul_le_mul_right _ hmod
  rw [Nat.add_mul, Nat.one_mul] at hsecond
  have hperiod := settings.joinAdvPeriod.toNat_lt
  have hindex : (UInt16.ofNat (cell.2 % settings.joinAdvPeriod.toNat)).toNat = cell.2 % settings.joinAdvPeriod.toNat :=
    UInt16.toNat_ofNat_of_lt' (by change _ < 65536; omega)
  have hslot : (advertiseStartSlot settings cell).toNat =
      cell.2 % settings.joinAdvPeriod.toNat * settings.slotsPerSec.toNat + (startSlotAdv cell.1).toNat := by
    rw [advertiseStartSlot, UInt16.toNat_add, UInt16.toNat_mul, hindex,
      Nat.mod_eq_of_lt (a := _ * _) (by omega), Nat.mod_eq_of_lt (by omega)]
  refine ⟨hslot, ?_⟩
  rw [hslot, toNat_advertisePeriod hfits]
  omega

theorem eq_of_same_slot_and_channel (hspaced : settings.Spaced)
    (hfast : advertisePeriod settings < settings.slotsPer30Sec) {cell cell' : Cell}
    (hslot : (advertiseStartSlot settings cell).toNat ≡ (advertiseStartSlot settings cell').toNat
      [MOD (advertisePeriod settings).toNat])
    (hchannel : channelOffset settings cell = channelOffset settings cell') : cell = cell' := by
  obtain ⟨hroom, -⟩ := hspaced.room hfast
  obtain ⟨hvalue, hlt⟩ := toNat_advertiseStartSlot hspaced hfast cell
  obtain ⟨hvalue', hlt'⟩ := toNat_advertiseStartSlot hspaced hfast cell'
  have hslots := hslot.eq_of_lt_of_lt hlt hlt'
  rw [hvalue, hvalue'] at hslots
  have hstart := startSlotAdv_lt cell.1
  have hstart' := startSlotAdv_lt cell'.1
  have hchunk : (startSlotAdv cell.1).toNat = (startSlotAdv cell'.1).toNat := by
    have hmod := congrArg (· % settings.slotsPerSec.toNat) hslots
    simp only [Nat.mul_add_mod_self_right] at hmod
    rwa [Nat.mod_eq_of_lt (by omega), Nat.mod_eq_of_lt (by omega)] at hmod
  have hsecond : cell.2 % settings.joinAdvPeriod.toNat = cell'.2 % settings.joinAdvPeriod.toNat := by
    rw [hchunk] at hslots
    exact Nat.eq_of_mul_eq_mul_right (by omega) (Nat.add_right_cancel hslots)
  have hquotient : cell.2 / settings.joinAdvPeriod.toNat = cell'.2 / settings.joinAdvPeriod.toNat := by
    have hvalues := congrArg UInt8.toNat hchannel
    rw [toNat_channelOffset, toNat_channelOffset] at hvalues
    omega
  have hcolumn : cell.2.val = cell'.2.val := by
    rw [← Nat.div_add_mod cell.2.val settings.joinAdvPeriod.toNat, hsecond, hquotient, Nat.div_add_mod]
  exact Prod.ext (startSlotAdv_injective (UInt16.toNat_inj.1 hchunk)) (Fin.ext hcolumn)

/-! ## What the functions do -/

theorem mem_cells (cell : Cell) : cell ∈ cells := by
  unfold cells
  rw [List.mem_flatMap]
  refine ⟨cell.2, List.mem_finRange _, ?_⟩
  rw [List.mem_map]
  exact ⟨cell.1, List.mem_finRange _, rfl⟩

theorem cells_pairwise : cells.Pairwise fun cell cell' => cell.2 ≤ cell'.2 := by
  unfold cells
  rw [List.pairwise_flatMap]
  constructor
  · intro advPeriods _
    rw [List.pairwise_map]
    exact List.pairwise_of_forall fun _ _ => Nat.le_refl _
  · refine (List.pairwise_le_finRange _).imp fun hle => ?_
    simp only [List.mem_map]
    rintro _ ⟨_, -, rfl⟩ _ ⟨_, -, rfl⟩
    exact hle

def firstOpen (table : AdvertiseChuncksTable) (address : Address16) : Option Cell :=
  cells.find? fun cell => Open 0 table address.1 cell

theorem find?_clear_eq_firstOpen (table : AdvertiseChuncksTable) (address : Address16) :
    (cells.find? fun cell => removeDeviceFromAdvertiseChuncksTable table address cell = 0) =
      firstOpen table address := by
  unfold firstOpen
  congr 1
  funext cell
  rw [decide_eq_decide]
  exact clear_eq_free_iff

namespace Device

def active (device : Device) : Prop := device.hasRoleActivated ≠ .NOT_ACTIVE

def advertises (device : Device) : Prop := device.isBackbone = false ∧ device.active

instance (device : Device) : Decidable device.advertises := inferInstanceAs (Decidable (_ ∧ ¬ _))

def isRouter (device : Device) : Prop := device.isBackbone = false ∧ device.isRouting = true

def SameKind (device device' : Device) : Prop :=
  device'.isBackbone = device.isBackbone ∧ device'.isRouting = device.isRouting

def StandsFor (settings : SubnetSettings) (device : Device) (cell : Cell) : Prop :=
  device.configured.map (fun link => (link.schedule.offset, link.chOffset)) =
    some (advertiseStartSlot settings cell, channelOffset settings cell)

instance (settings : SubnetSettings) (device : Device) (cell : Cell) : Decidable (device.StandsFor settings cell) :=
  inferInstanceAs (Decidable (_ = _))

end Device

variable {table table' : AdvertiseChuncksTable} {address : Address16} {device device' : Device}

theorem obtainAdvAlgorithmData_router (hkind : device.isBackbone = false)
    {data : Option AdvAlgorithmData} (h : obtainAdvAlgorithmData settings table address device = some (data, table')) :
    (∃ cell, firstOpen table address = some cell ∧ data = some (cellData settings cell) ∧
      table' = Function.update (removeDeviceFromAdvertiseChuncksTable table address) cell address.1) ∨
    firstOpen table address = none ∧ data = none ∧ table' = removeDeviceFromAdvertiseChuncksTable table address := by
  rw [obtainAdvAlgorithmData, hkind] at h
  simp only [Bool.false_eq_true, if_false, find?_clear_eq_firstOpen] at h
  cases hfirst : firstOpen table address with
  | none =>
    rw [hfirst] at h
    cases h
    exact .inr ⟨rfl, rfl, rfl⟩
  | some cell =>
    simp only [hfirst] at h
    by_cases hperiod : settings.joinAdvPeriod = 0
    · rw [if_pos hperiod] at h
      cases h
    · rw [if_neg hperiod] at h
      cases h
      exact .inl ⟨cell, rfl, rfl, rfl⟩

theorem obtainAdvAlgorithmData_backbone (settings : SubnetSettings) (table : AdvertiseChuncksTable)
    (address : Address16)
    (hkind : device.isBackbone = true) :
    obtainAdvAlgorithmData settings table address device = some (some (backboneData settings), table) := by
  rw [obtainAdvAlgorithmData, if_pos hkind]

theorem roleOfPeriod_active (settings : SubnetSettings) (period : UInt16) :
    roleOfPeriod settings period ≠ .NOT_ACTIVE := by
  unfold roleOfPeriod
  split
  · decide
  · decide

@[simp] theorem slowDown_offset (settings : SubnetSettings) (period : UInt16) (link : PhyLink) :
    (slowDown settings period link).schedule.offset = link.schedule.offset := by
  unfold slowDown
  split
  · rfl
  · rfl

@[simp] theorem slowDown_chOffset (settings : SubnetSettings) (period : UInt16) (link : PhyLink) :
    (slowDown settings period link).chOffset = link.chOffset := by
  unfold slowDown
  split
  · rfl
  · rfl

variable {data : AdvAlgorithmData}

theorem activateRouterRole_of_data (deviceLevel : Int8) (ids : LinkIDs)
    (hdata : obtainAdvAlgorithmData settings table address device = some (some data, table')) :
    ∃ device', activateRouterRole settings table address device deviceLevel ids = some (table', device') ∧
      device.SameKind device' ∧ device'.active ∧
      device'.configured.map (fun link => (link.schedule.offset, link.chOffset)) =
        some (data.advertiseStartSlot, data.channelOffset) := by
  unfold activateRouterRole
  rw [hdata]
  refine ⟨_, rfl, ⟨rfl, rfl⟩, roleOfPeriod_active _ _, ?_⟩
  simp only [Device.writeAdvertiseLink, Option.map_some, slowDown_offset, slowDown_chOffset]
  rfl

theorem activateRouterRole_of_none (deviceLevel : Int8) (ids : LinkIDs)
    (hdata : obtainAdvAlgorithmData settings table address device = some (none, table')) :
    activateRouterRole settings table address device deviceLevel ids = some (table', device) := by
  unfold activateRouterRole
  rw [hdata]

namespace Device

def HasPeriod (settings : SubnetSettings) (link : PhyLink) (desiredPeriodInSlots : UInt16) : Prop :=
  link.schedule.interval = desiredPeriodInSlots ∨
    settings.slotsPer30Sec ≤ desiredPeriodInSlots ∧ link.schedule.interval = 0

instance (settings : SubnetSettings) (link : PhyLink) (desiredPeriodInSlots : UInt16) :
    Decidable (HasPeriod settings link desiredPeriodInSlots) := inferInstanceAs (Decidable (_ ∨ _))

def periodLink (settings : SubnetSettings) (device : Device) (desiredPeriodInSlots : UInt16) : Option PhyLink :=
  if device.advInfo = none then none
  else device.advertiseLink.filter fun link => ¬ HasPeriod settings link desiredPeriodInSlots

def isSlow (settings : SubnetSettings) (link : PhyLink) : Prop :=
  link.schedType = .OFFSET ∨ settings.slotsPer30Sec ≤ link.schedule.interval

instance (settings : SubnetSettings) (link : PhyLink) : Decidable (isSlow settings link) :=
  inferInstanceAs (Decidable (_ ∨ _))

def hasFastLink (settings : SubnetSettings) (device : Device) : Prop :=
  ∃ link, device.advertiseLink = some link ∧ ¬ isSlow settings link

instance (settings : SubnetSettings) (device : Device) : Decidable (device.hasFastLink settings) :=
  inferInstanceAs (Decidable (∃ link ∈ device.advertiseLink, ¬ isSlow settings link))

end Device

open Device (HasPeriod isSlow)

theorem changeAdvertiseLinkPeriod_cases (settings : SubnetSettings) (device : Device) (desiredPeriodInSlots : UInt16) :
    device.periodLink settings desiredPeriodInSlots = none ∧
        (changeAdvertiseLinkPeriod settings device desiredPeriodInSlots).2 = device ∨
      ∃ link, device.periodLink settings desiredPeriodInSlots = some link ∧ device.advInfo ≠ none ∧
        device.SameKind (changeAdvertiseLinkPeriod settings device desiredPeriodInSlots).2 ∧
        (changeAdvertiseLinkPeriod settings device desiredPeriodInSlots).2.active ∧
        (changeAdvertiseLinkPeriod settings device desiredPeriodInSlots).2.configured.map
          (fun link => (link.schedule.offset, link.chOffset)) = some (link.schedule.offset, 0) := by
  unfold Device.periodLink changeAdvertiseLinkPeriod
  cases hlink : device.advertiseLink with
  | none =>
    left
    refine ⟨?_, rfl⟩
    rw [Option.filter_none, ite_self]
  | some link =>
    by_cases hperiod : HasPeriod settings link desiredPeriodInSlots
    · left
      have hkept : (some link).filter (fun link => ¬ HasPeriod settings link desiredPeriodInSlots) = none := by
        simp [hperiod]
      rw [hkept, ite_self]
      exact ⟨rfl, congrArg Prod.snd (if_pos hperiod)⟩
    · have hnot : ¬ (link.schedule.interval = desiredPeriodInSlots ∨
          settings.slotsPer30Sec ≤ desiredPeriodInSlots ∧ link.schedule.interval = 0) := hperiod
      simp only [if_neg hnot]
      cases hinfo : device.advInfo with
      | none => exact .inl ⟨if_pos rfl, rfl⟩
      | some info =>
        right
        refine ⟨link, ?_, by simp, ⟨rfl, rfl⟩, roleOfPeriod_active _ _, ?_⟩
        · simp [hperiod]
        · simp only [Device.writeAdvertiseLink, Option.map_some, slowDown_offset, slowDown_chOffset]
          rfl

theorem updateAdvPeriod_of_none (hdata : obtainAdvAlgorithmData settings table address device = some (none, table')) :
    updateAdvPeriod settings table address device = some (false, table', device) := by
  unfold updateAdvPeriod
  rw [hdata]

theorem updateAdvPeriod_of_data
    (hdata : obtainAdvAlgorithmData settings table address device = some (some data, table')) :
    ∃ success device', updateAdvPeriod settings table address device = some (success, table', device') ∧
      (¬ device.hasFastLink settings ∧ device' = device ∨
        device.hasFastLink settings ∧ device.SameKind device' ∧ device'.active ∧
          device'.configured.map (fun link => (link.schedule.offset, link.chOffset)) =
            some (data.advertiseStartSlot, 0)) := by
  unfold updateAdvPeriod Device.hasFastLink
  rw [hdata]
  cases hlink : device.advertiseLink with
  | none =>
    rw [Option.none_or]
    cases hlast : device.linksTable.getLast? with
    | none => exact ⟨_, _, rfl, .inl ⟨by simp, rfl⟩⟩
    | some last =>
      by_cases hslow : isSlow settings last
      · exact ⟨_, _, if_pos hslow, .inl ⟨by simp, rfl⟩⟩
      · exact ⟨_, _, if_neg hslow, .inl ⟨by simp, rfl⟩⟩
  | some link =>
    rw [Option.some_or]
    by_cases hslow : isSlow settings link
    · exact ⟨_, _, if_pos hslow, .inl ⟨by simpa using hslow, rfl⟩⟩
    · refine ⟨_, _, if_neg hslow, .inr ⟨⟨link, rfl, hslow⟩, ⟨rfl, rfl⟩, roleOfPeriod_active _ _, rfl⟩⟩

end Isa100Gateway.AdvertiseSchedule
