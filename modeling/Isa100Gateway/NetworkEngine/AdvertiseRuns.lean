import Isa100Gateway.NetworkEngine.AdvertiseCells
import Isa100Gateway.Lib.Run
import Mathlib.Data.Fintype.Prod

/-!
# One cell for each advertising router

When a step keeps the link of each router at the cell of the router, and that in a run of such steps no two routers are heard at the same time on the same channel.
-/

namespace Isa100Gateway.AdvertiseSchedule

open CellTable Machine Option

variable {settings : SubnetSettings} {table table' : AdvertiseChuncksTable} {address : Address16}
    {device device' : Device}

/-- What is asked of the cells of an address and of the device there. A device that waits for its turn may still have the link of the settings before. -/
structure Placed (settings : SubnetSettings) (table : AdvertiseChuncksTable) (address : Address16)
    (device : Option Device) (waits : Bool) : Prop where
  owner : ∀ cell, table cell = address.1 → ∃ d, device = some d ∧ d.isRouter
  unique : ∀ cell cell', table cell = address.1 → table cell' = address.1 → cell = cell'
  owns : ∀ d, device = some d → d.advertises → ∃ cell, table cell = address.1
  stands : ∀ d cell, device = some d → d.advertises → waits = false → table cell = address.1 → d.StandsFor settings cell
  informed : ∀ d, device = some d → d.advInfo ≠ none → d.active

def Scheduled (s : State) : Prop :=
  s.settings.Spaced ∧
    ∀ address, Placed s.settings s.advertiseChuncksTable address (s.devices address) (s.waiting address)

variable {s s' : State} {waits waits' : Bool} {cell : Cell} {place : Option Device}

theorem Placed.congr (htable : ∀ cell, table' cell = address.1 ↔ table cell = address.1)
    (h : Placed settings table address place waits) : Placed settings table' address place waits where
  owner cell hcell := h.owner cell ((htable cell).1 hcell)
  unique cell cell' hcell hcell' := h.unique cell cell' ((htable cell).1 hcell) ((htable cell').1 hcell')
  owns d hd hadvertises := by
    obtain ⟨cell, hcell⟩ := h.owns d hd hadvertises
    exact ⟨cell, (htable cell).2 hcell⟩
  stands d cell hd hadvertises hwaits hcell := h.stands d cell hd hadvertises hwaits ((htable cell).1 hcell)
  informed := h.informed

def State.put (s : State) (address : Address16) (table : AdvertiseChuncksTable) (place : Option Device) (waits : Bool) :
    State :=
  { s with
    advertiseChuncksTable := table
    devices := Function.update s.devices address place
    waiting := Function.update s.waiting address waits }

theorem scheduled_put_iff (h : Scheduled s) (htable : ∀ other : Address16, other ≠ address → ∀ cell,
      table' cell = other.1 ↔ s.advertiseChuncksTable cell = other.1) :
    Scheduled (s.put address table' place waits) ↔ Placed s.settings table' address place waits := by
  constructor
  · intro hput
    have hhere := hput.2 address
    simp only [State.put, Function.update_self] at hhere
    exact hhere
  · intro hplaced
    refine ⟨h.1, fun other => ?_⟩
    by_cases hother : other = address
    · subst hother
      simp only [State.put, Function.update_self]
      exact hplaced
    · simp only [State.put, Function.update_of_ne hother]
      exact (h.2 other).congr (htable other hother)

theorem placed_keep_iff (h : Placed settings table address (some device) waits) (hkind : device.SameKind device')
    (hinformed : device'.advInfo ≠ none → device'.active) (hadvertises : device'.advertises → device.advertises) :
    Placed settings table address (some device') waits' ↔
      (waits' = false → device'.advertises → ∀ cell, table cell = address.1 → device'.StandsFor settings cell) := by
  constructor
  · intro h' hwaits hactive cell hcell
    exact h'.stands device' cell rfl hactive hwaits hcell
  · intro h'
    refine ⟨?_, h.unique, ?_, ?_, fun d hd => ?_⟩
    · intro cell hcell
      obtain ⟨d, hd, hrouter⟩ := h.owner cell hcell
      cases hd
      exact ⟨device', rfl, hkind.1.trans hrouter.1, hkind.2.trans hrouter.2⟩
    · intro d hd hactive
      cases hd
      exact h.owns device rfl (hadvertises hactive)
    · intro d cell hd hactive hwaits hcell
      cases hd
      exact h' hwaits hactive cell hcell
    · cases hd
      exact hinformed

theorem placed_without_cell (hnone : ∀ cell, table cell ≠ address.1)
    (hplace : ∀ d, place = some d → ¬ d.advertises ∧ d.advInfo = none) : Placed settings table address place waits where
  owner cell hcell := absurd hcell (hnone cell)
  unique cell _ hcell := absurd hcell (hnone cell)
  owns d hd hadvertises := absurd hadvertises (hplace d hd).1
  stands _ cell _ _ _ hcell := absurd hcell (hnone cell)
  informed d hd hinfo := absurd (hplace d hd).2 hinfo

theorem Open.of_firstOpen (h : firstOpen table address = some cell) : Open 0 table address.1 cell := by
  simpa using List.find?_some h

theorem move_other_iff (h : firstOpen table address = some cell) {other : Address16} (hother : other ≠ address)
    (cell' : Cell) :
    Function.update (removeDeviceFromAdvertiseChuncksTable table address) cell address.1 cell' = other.1 ↔
      table cell' = other.1 :=
  move_eq_other_iff (fun heq => hother (Subtype.ext heq)) other.2 (Open.of_firstOpen h)

theorem clear_of_firstOpen_none (h : firstOpen table address = none) :
    removeDeviceFromAdvertiseChuncksTable table address = table := by
  funext cell
  have hclosed : ¬ Open 0 table address.1 cell := by
    simpa using List.find?_eq_none.1 h cell (mem_cells cell)
  exact if_neg fun hown => hclosed (.inl hown)

theorem Placed.firstOpen_isSome (h : Placed settings table address (some device) waits)
    (hadvertises : device.advertises) :
    ∃ cell, firstOpen table address = some cell := by
  obtain ⟨cell, hcell⟩ := h.owns device rfl hadvertises
  apply isSome_iff_exists.1
  rw [firstOpen, List.find?_isSome]
  exact ⟨cell, mem_cells cell, decide_eq_true (Or.inl hcell)⟩

theorem cell_of_obtainAdvAlgorithmData (hkind : device.isBackbone = false) {data : AdvAlgorithmData}
    (hobtain : obtainAdvAlgorithmData settings table address device = some (some data, table')) :
    ∃ cell, firstOpen table address = some cell ∧ data = cellData settings cell ∧
      ∀ cell', table' cell' = address.1 ↔ cell' = cell := by
  rcases obtainAdvAlgorithmData_router hkind hobtain with ⟨cell, hfirst, hdata, rfl⟩ | ⟨-, hdata, -⟩
  · exact ⟨cell, hfirst, some.inj hdata, fun cell' => move_eq_owner_iff address.2⟩
  · cases hdata

variable {data : Option AdvAlgorithmData}

theorem others_of_obtainAdvAlgorithmData
    (hobtain : obtainAdvAlgorithmData settings table address device = some (data, table')) {other : Address16}
    (hother : other ≠ address) (cell : Cell) : table' cell = other.1 ↔ table cell = other.1 := by
  cases hkind : device.isBackbone with
  | true =>
    rw [obtainAdvAlgorithmData_backbone settings table address hkind] at hobtain
    cases hobtain
    rfl
  | false =>
    rcases obtainAdvAlgorithmData_router hkind hobtain with ⟨first, hfirst, -, rfl⟩ | ⟨hnone, -, rfl⟩
    · exact move_other_iff hfirst hother cell
    · rw [clear_of_firstOpen_none hnone]

theorem placed_obtain_iff (h : Placed settings table address (some device) waits)
    (hguard : device.isBackbone = true ∨ device.isRouting = true)
    (hobtain : obtainAdvAlgorithmData settings table address device = some (data, table'))
    (hkind : device.SameKind device') (hinformed : device'.advInfo ≠ none → device'.active)
    (hadvertises : data = none → device'.advertises → device.advertises) :
    Placed settings table' address (some device') waits' ↔
      (waits' = false → device'.advertises → ∀ cell, table' cell = address.1 → device'.StandsFor settings cell) := by
  cases hbackbone : device.isBackbone with
  | true =>
    rw [obtainAdvAlgorithmData_backbone settings table address hbackbone] at hobtain
    cases hobtain
    have hnot : ¬ device'.advertises := by
      rintro ⟨hfalse, -⟩
      rw [hkind.1, hbackbone] at hfalse
      cases hfalse
    exact placed_keep_iff h hkind hinformed fun hactive => absurd hactive hnot
  | false =>
    cases data with
    | none =>
      rcases obtainAdvAlgorithmData_router hbackbone hobtain with ⟨_, -, hdata, -⟩ | ⟨hnone, -, rfl⟩
      · cases hdata
      · rw [clear_of_firstOpen_none hnone]
        exact placed_keep_iff h hkind hinformed (hadvertises rfl)
    | some data =>
      obtain ⟨cell, -, -, hcell⟩ := cell_of_obtainAdvAlgorithmData hbackbone hobtain
      have hrouting : device.isRouting = true := hguard.resolve_left (by simp [hbackbone])
      constructor
      · intro h' hwaits hactive other hother
        exact h'.stands device' other rfl hactive hwaits hother
      · intro h'
        refine ⟨fun _ _ => ⟨device', rfl, hkind.1.trans hbackbone, hkind.2.trans hrouting⟩, ?_, ?_, ?_, ?_⟩
        · intro first second hfirst hsecond
          rw [(hcell first).1 hfirst, (hcell second).1 hsecond]
        · intro d hd hactive
          exact ⟨cell, (hcell cell).2 rfl⟩
        · intro d other hd hactive hwaits hother
          cases hd
          exact h' hwaits hactive other hother
        · intro d hd
          cases hd
          exact hinformed

/-! ## Steps -/

def PassedOver (settings : SubnetSettings) (device : Device) : Prop :=
  ∀ info ∈ device.advInfo,
    info.advRx.interval.toNat = settings.joinAdvPeriod.toNat * settings.slotsPerSec.toNat

instance (settings : SubnetSettings) (device : Device) : Decidable (PassedOver settings device) :=
  inferInstanceAs (Decidable (∀ _ ∈ _, _))

/-- The turn of a router keeps its link at its cell. A link that is not written has to stand for the cell that the router then has; one that is written stands for it when there is an open cell in one of the first `join_adv_period` columns, whose channel offset is 0. -/
def UpdateKeeps (settings : SubnetSettings) (table : AdvertiseChuncksTable) (address : Address16) (device : Device) :
    Prop :=
  if PassedOver settings device then ∀ cell, table cell = address.1 → device.StandsFor settings cell
  else if device.hasFastLink settings then
    ∃ cell, Open 0 table address.1 cell ∧ cell.2.val < settings.joinAdvPeriod.toNat
  else ∀ cell ∈ firstOpen table address, device.StandsFor settings cell

instance (settings : SubnetSettings) (table : AdvertiseChuncksTable) (address : Address16) (device : Device) :
    Decidable (UpdateKeeps settings table address device) :=
  inferInstanceAs (Decidable (ite _ _ (ite _ _ _)))

/-- The steps that keep the link of each router at its cell. A link whose period is changed has to be at the slot of its cell, which must lie in one of the first `join_adv_period` columns. -/
def Meets (s : State) : Action → Prop
  | .changePeriod address desiredPeriodInSlots => ∀ device ∈ s.devices address, device.advertises →
      s.waiting address = false → ∀ link ∈ device.periodLink s.settings desiredPeriodInSlots,
      ∀ cell, s.advertiseChuncksTable cell = address.1 →
        cell.2.val < s.settings.joinAdvPeriod.toNat ∧ link.schedule.offset = advertiseStartSlot s.settings cell
  | .reload settings => settings.Spaced
  | .update address => ∀ device ∈ s.devices address, device.isRouting → device.advertises →
      UpdateKeeps s.settings s.advertiseChuncksTable address device
  | _ => True

instance (s : State) : ∀ action, Decidable (Meets s action)
  | .changePeriod .. => inferInstanceAs (Decidable (∀ _ ∈ _, _))
  | .reload settings => inferInstanceAs (Decidable settings.Spaced)
  | .update _ => inferInstanceAs (Decidable (∀ _ ∈ _, _))
  | .join _ _ _ | .activate _ _ _ | .remove _ => inferInstanceAs (Decidable True)

theorem standsFor_zero_iff (hspaced : settings.Spaced) {offset : UInt16}
    (hlink : device.configured.map (fun link => (link.schedule.offset, link.chOffset)) = some (offset, 0))
      (cell : Cell) :
    device.StandsFor settings cell ↔
      cell.2.val < settings.joinAdvPeriod.toNat ∧ offset = advertiseStartSlot settings cell := by
  rw [Device.StandsFor, hlink, some_inj, Prod.mk.injEq, eq_comm (a := (0 : UInt8)),
    channelOffset_eq_zero_iff hspaced, and_comm]

theorem State.onDevice_eq_some {f : Device → Option State} (hstep : s.onDevice address f = some s') :
    s.devices address = none ∧ s' = s ∨ ∃ device, s.devices address = some device ∧ f device = some s' := by
  unfold onDevice at hstep
  cases hdevice : s.devices address with
  | none =>
    rw [hdevice] at hstep
    exact .inl ⟨rfl, (some.inj hstep).symm⟩
  | some device =>
    simp only [hdevice] at hstep
    exact .inr ⟨device, rfl, hstep⟩

theorem Placed.obtain_ne_none (h : Placed settings table address (some device) waits)
    (hobtain : obtainAdvAlgorithmData settings table address device = some (none, table')) : ¬ device.advertises := by
  intro hadvertises
  obtain ⟨cell, hfirst⟩ := h.firstOpen_isSome hadvertises
  rcases obtainAdvAlgorithmData_router hadvertises.1 hobtain with ⟨_, -, hdata, -⟩ | ⟨hnone, -, -⟩
  · cases hdata
  · rw [hnone] at hfirst
    cases hfirst

theorem updateKeeps_iff_passed (hpassed : PassedOver settings device) :
    UpdateKeeps settings table address device ↔ ∀ cell, table cell = address.1 → device.StandsFor settings cell := by
  rw [UpdateKeeps, if_pos hpassed]

theorem updateKeeps_iff_slow (hpassed : ¬ PassedOver settings device) (hslow : ¬ device.hasFastLink settings)
    (hfirst : firstOpen table address = some cell) :
    UpdateKeeps settings table address device ↔ device.StandsFor settings cell := by
  rw [UpdateKeeps, if_neg hpassed, if_neg hslow, hfirst]
  simp only [mem_some_iff, forall_eq']

theorem updateKeeps_iff_fast (hpassed : ¬ PassedOver settings device) (hfast : device.hasFastLink settings)
    (hfirst : firstOpen table address = some cell) :
    UpdateKeeps settings table address device ↔ cell.2.val < settings.joinAdvPeriod.toNat := by
  have hmeets := find?_meets_iff (P := fun cell : Cell => cell.2.val < settings.joinAdvPeriod.toNat)
    (cells_pairwise.imp fun hle hlt => Nat.lt_of_le_of_lt hle hlt)
    ((find?_clear_eq_firstOpen table address).trans hfirst)
  rw [UpdateKeeps, if_neg hpassed, if_pos hfast, hmeets]
  constructor
  · rintro ⟨other, hopen, hcolumn⟩
    exact ⟨other, mem_cells other, hopen, hcolumn⟩
  · rintro ⟨other, -, hopen, hcolumn⟩
    exact ⟨other, hopen, hcolumn⟩

section Steps

variable (h : Scheduled s)

include h in
theorem Scheduled.placed (hdevice : s.devices address = some device) :
    Placed s.settings s.advertiseChuncksTable address (some device) (s.waiting address) := by
  rw [← hdevice]
  exact h.2 address

include h in
theorem scheduled_join {isBackbone isRouting : Bool} (hstep : step s (.join address isBackbone isRouting) = some s') :
    Scheduled s' := by
  rw [step] at hstep
  by_cases habsent : s.devices address = none
  · rw [if_pos habsent] at hstep
    have hput : s' = s.put address s.advertiseChuncksTable (some (.fresh isBackbone isRouting))
      (s.waiting address) := by
      rw [State.put, Function.update_eq_self]
      exact (some.inj hstep).symm
    have hnone : ∀ cell, s.advertiseChuncksTable cell ≠ address.1 := by
      intro cell hcell
      obtain ⟨d, hd, -⟩ := (h.2 address).owner cell hcell
      rw [habsent] at hd
      cases hd
    rw [hput, scheduled_put_iff h fun _ _ _ => Iff.rfl]
    apply placed_without_cell hnone
    intro d hd
    cases hd
    exact ⟨fun hadvertises => hadvertises.2 rfl, rfl⟩
  · rw [if_neg habsent] at hstep
    cases hstep
    exact h

include h in
theorem scheduled_remove (hstep : step s (.remove address) = some s') : Scheduled s' := by
  rcases State.onDevice_eq_some hstep with ⟨-, rfl⟩ | ⟨device, hdevice, hstep⟩
  · exact h
  · have hput : s' = s.put address (s.updateModelOnRemoveDevice address device).advertiseChuncksTable none
        (s.waiting address) := by
      rw [State.put, Function.update_eq_self]
      exact (some.inj hstep).symm
    have hothers : ∀ other : Address16, other ≠ address → ∀ cell,
        (s.updateModelOnRemoveDevice address device).advertiseChuncksTable cell = other.1 ↔
          s.advertiseChuncksTable cell = other.1 := by
      intro other hother cell
      unfold State.updateModelOnRemoveDevice
      by_cases hrouting : device.isRouting = true
      · simp only [if_pos hrouting]
        exact clear_eq_other_iff (fun heq => hother (Subtype.ext heq)) other.2
      · simp only [if_neg hrouting]
    have hnone : ∀ cell, (s.updateModelOnRemoveDevice address device).advertiseChuncksTable cell ≠ address.1 := by
      intro cell
      unfold State.updateModelOnRemoveDevice
      by_cases hrouting : device.isRouting = true
      · simp only [if_pos hrouting]
        exact clear_ne address.2
      · simp only [if_neg hrouting]
        intro hcell
        obtain ⟨d, hd, hrouter⟩ := (h.placed hdevice).owner cell hcell
        cases hd
        exact hrouting hrouter.2
    rw [hput, scheduled_put_iff h hothers]
    apply placed_without_cell hnone
    intro d hd
    cases hd

include h in
theorem scheduled_activate {deviceLevel : Int8} {ids : LinkIDs}
    (hstep : step s (.activate address deviceLevel ids) = some s') : Scheduled s' := by
  rcases State.onDevice_eq_some hstep with ⟨-, rfl⟩ | ⟨router, hdevice, hstep⟩
  · exact h
  · have hhere := h.placed hdevice
    by_cases hguard : router.isBackbone = true ∨ router.isRouting = true
    · rw [if_pos hguard] at hstep
      obtain ⟨⟨table', device'⟩, hactivate, hput⟩ := map_eq_some_iff.1 hstep
      have hput : s' = s.put address table' (some device') false := hput.symm
      rw [hput]
      cases hobtain : obtainAdvAlgorithmData s.settings s.advertiseChuncksTable address router with
      | none =>
        rw [activateRouterRole, hobtain] at hactivate
        cases hactivate
      | some found =>
        obtain ⟨data, table⟩ := found
        cases data with
        | none =>
          cases (activateRouterRole_of_none deviceLevel ids hobtain).symm.trans hactivate
          rw [scheduled_put_iff h fun _ hother => others_of_obtainAdvAlgorithmData hobtain hother,
            placed_obtain_iff hhere hguard hobtain ⟨rfl, rfl⟩ (hhere.informed _ rfl) fun _ hactive => hactive]
          exact fun _ hactive => absurd hactive (hhere.obtain_ne_none hobtain)
        | some data =>
          obtain ⟨activated, hactivated, hkind, hrole, hlink⟩ := activateRouterRole_of_data deviceLevel ids hobtain
          cases hactivated.symm.trans hactivate
          rw [scheduled_put_iff h fun _ hother => others_of_obtainAdvAlgorithmData hobtain hother,
            placed_obtain_iff hhere hguard hobtain hkind (fun _ => hrole) fun hnone => nomatch hnone]
          intro _ hactive cell hcell
          obtain ⟨first, -, hdata, honly⟩ := cell_of_obtainAdvAlgorithmData (hkind.1 ▸ hactive.1) hobtain
          rw [(honly cell).1 hcell, Device.StandsFor, hlink, hdata]
          rfl
    · rw [if_neg hguard] at hstep
      cases hstep
      exact h

include h in
theorem scheduled_changePeriod_iff {desiredPeriodInSlots : UInt16}
    (hstep : step s (.changePeriod address desiredPeriodInSlots) = some s') :
    Scheduled s' ↔ Meets s (.changePeriod address desiredPeriodInSlots) := by
  rcases State.onDevice_eq_some hstep with ⟨hdevice, rfl⟩ | ⟨device, hdevice, hstep⟩
  · refine iff_of_true h ?_
    simp [Meets, hdevice]
  · have hhere := h.placed hdevice
    have hmeets : Meets s (.changePeriod address desiredPeriodInSlots) ↔
        (device.advertises → s.waiting address = false → ∀ link ∈ device.periodLink s.settings desiredPeriodInSlots,
          ∀ cell, s.advertiseChuncksTable cell = address.1 → cell.2.val < s.settings.joinAdvPeriod.toNat ∧
              link.schedule.offset = advertiseStartSlot s.settings cell) := by
      simp only [Meets, hdevice, mem_some_iff, forall_eq']
    have hput : s' = s.put address s.advertiseChuncksTable
        (some (changeAdvertiseLinkPeriod s.settings device desiredPeriodInSlots).2) (s.waiting address) := by
      rw [State.put, Function.update_eq_self]
      exact (some.inj hstep).symm
    rw [hput, hmeets, scheduled_put_iff h fun _ _ _ => Iff.rfl]
    rcases changeAdvertiseLinkPeriod_cases s.settings device desiredPeriodInSlots with
      ⟨hnone, hsame⟩ | ⟨link, hsome, hinfo, hkind, hrole, hlink⟩
    · rw [hsame, hnone]
      exact iff_of_true hhere fun _ _ _ hmem => nomatch hmem
    · have hactive := hhere.informed device rfl hinfo
      rw [placed_keep_iff hhere hkind (fun _ => hrole) fun hadvertises => ⟨hkind.1 ▸ hadvertises.1, hactive⟩, hsome]
      simp only [mem_some_iff, forall_eq', standsFor_zero_iff h.1 hlink]
      constructor
      · intro hkeep hadvertises hwaits
        exact hkeep hwaits ⟨hkind.1.trans hadvertises.1, hrole⟩
      · intro hkeep hwaits hadvertises
        exact hkeep ⟨hkind.1 ▸ hadvertises.1, hactive⟩ hwaits

include h in
theorem scheduled_passed_iff (hdevice : s.devices address = some device) (hpassed : PassedOver s.settings device) :
    Scheduled { s with waiting := Function.update s.waiting address false } ↔
      (device.advertises → UpdateKeeps s.settings s.advertiseChuncksTable address device) := by
  have hhere := h.placed hdevice
  have hput : { s with waiting := Function.update s.waiting address false } =
      s.put address s.advertiseChuncksTable (some device) false := by
    rw [State.put, ← hdevice, Function.update_eq_self]
  rw [hput, scheduled_put_iff h fun _ _ _ => Iff.rfl,
    placed_keep_iff hhere ⟨rfl, rfl⟩ (hhere.informed _ rfl) fun hadvertises => hadvertises,
    updateKeeps_iff_passed hpassed]
  exact forall_prop_of_true rfl

include h in
theorem scheduled_called_iff (hdevice : s.devices address = some device) (hrouting : device.isRouting = true)
    (hpassed : ¬ PassedOver s.settings device) {success : Bool}
    (hupdate : updateAdvPeriod s.settings s.advertiseChuncksTable address device = some (success, table', device')) :
    Scheduled (s.put address table' (some device') false) ↔
      (device.advertises → UpdateKeeps s.settings s.advertiseChuncksTable address device) := by
  have hhere := h.placed hdevice
  have hinfo : device.advInfo ≠ none := by
    intro hnone
    apply hpassed
    intro info hmem
    rw [hnone] at hmem
    cases hmem
  have hactive := hhere.informed device rfl hinfo
  cases hobtain : obtainAdvAlgorithmData s.settings s.advertiseChuncksTable address device with
  | none =>
    rw [updateAdvPeriod, hobtain] at hupdate
    cases hupdate
  | some found =>
    obtain ⟨data, table⟩ := found
    cases data with
    | none =>
      cases (updateAdvPeriod_of_none hobtain).symm.trans hupdate
      have hnot := hhere.obtain_ne_none hobtain
      rw [scheduled_put_iff h fun _ hother => others_of_obtainAdvAlgorithmData hobtain hother,
        placed_obtain_iff hhere (.inr hrouting) hobtain ⟨rfl, rfl⟩ (fun _ => hactive) fun _ hadvertises => hadvertises]
      exact iff_of_true (fun _ hadvertises => absurd hadvertises hnot) fun hadvertises => absurd hadvertises hnot
    | some data =>
      obtain ⟨success', updated, hupdated, hcases⟩ := updateAdvPeriod_of_data hobtain
      cases hupdated.symm.trans hupdate
      have hkind : device.SameKind device' := by
        rcases hcases with ⟨-, rfl⟩ | ⟨-, hkind, -⟩
        · exact ⟨rfl, rfl⟩
        · exact hkind
      have hrole : device'.active := by
        rcases hcases with ⟨-, rfl⟩ | ⟨-, -, hrole, -⟩
        · exact hactive
        · exact hrole
      rw [scheduled_put_iff h fun _ hother => others_of_obtainAdvAlgorithmData hobtain hother,
        placed_obtain_iff hhere (.inr hrouting) hobtain hkind (fun _ => hrole) fun hnone => nomatch hnone]
      have hadvertises : device'.advertises ↔ device.advertises := by
        rw [Device.advertises, Device.advertises, hkind.1]
        exact and_congr_right fun _ => iff_of_true hrole hactive
      rw [forall_prop_of_true rfl, hadvertises]
      refine imp_congr_right fun hrouter => ?_
      obtain ⟨first, hfirst, hdata, honly⟩ := cell_of_obtainAdvAlgorithmData hrouter.1 hobtain
      simp only [honly, forall_eq]
      rcases hcases with ⟨hslow, rfl⟩ | ⟨hfast, -, -, hlink⟩
      · rw [updateKeeps_iff_slow hpassed hslow hfirst]
      · rw [updateKeeps_iff_fast hpassed hfast hfirst, standsFor_zero_iff h.1 hlink, hdata]
        exact and_iff_left rfl

include h in
theorem scheduled_update_iff (hstep : step s (.update address) = some s') :
    Scheduled s' ↔ Meets s (.update address) := by
  rcases State.onDevice_eq_some hstep with ⟨hdevice, rfl⟩ | ⟨device, hdevice, hstep⟩
  · refine iff_of_true h ?_
    simp [Meets, hdevice]
  · have hmeets : Meets s (.update address) ↔ (device.isRouting → device.advertises →
        UpdateKeeps s.settings s.advertiseChuncksTable address device) := by
      simp only [Meets, hdevice, mem_some_iff, forall_eq']
    rw [hmeets]
    by_cases hrouting : device.isRouting = true
    · rw [if_pos hrouting, State.updateDevice] at hstep
      rw [forall_prop_of_true hrouting]
      cases hinfo : device.advInfo with
      | none =>
        rw [hinfo] at hstep
        cases hstep
        refine scheduled_passed_iff h hdevice ?_
        intro info hmem
        rw [hinfo] at hmem
        cases hmem
      | some info =>
        simp only [hinfo] at hstep
        have hpassed : PassedOver s.settings device ↔
            info.advRx.interval.toNat = s.settings.joinAdvPeriod.toNat * s.settings.slotsPerSec.toNat := by
          simp only [PassedOver, hinfo, mem_some_iff, forall_eq']
        by_cases hinterval : info.advRx.interval.toNat = s.settings.joinAdvPeriod.toNat * s.settings.slotsPerSec.toNat
        · rw [if_pos hinterval] at hstep
          cases hstep
          exact scheduled_passed_iff h hdevice (hpassed.2 hinterval)
        · rw [if_neg hinterval] at hstep
          obtain ⟨⟨success, table', device'⟩, hupdate, hput⟩ := map_eq_some_iff.1 hstep
          cases hput
          exact scheduled_called_iff h hdevice hrouting (fun h' => hinterval (hpassed.1 h')) hupdate
    · rw [if_neg hrouting] at hstep
      cases hstep
      exact iff_of_true h fun h' => absurd h' hrouting

include h in
theorem scheduled_step_iff {action : Action} (hstep : step s action = some s') : Scheduled s' ↔ Meets s action := by
  cases action with
  | join address isBackbone isRouting => exact iff_of_true (scheduled_join h hstep) trivial
  | activate address deviceLevel ids => exact iff_of_true (scheduled_activate h hstep) trivial
  | changePeriod address desiredPeriodInSlots => exact scheduled_changePeriod_iff h hstep
  | reload settings =>
    cases hstep
    constructor
    · intro hreloaded
      exact hreloaded.1
    · intro hspaced
      refine ⟨hspaced, fun address => ?_⟩
      obtain ⟨howner, hunique, howns, -, hinformed⟩ := h.2 address
      exact ⟨howner, hunique, howns, fun _ _ _ _ hwaits => (nomatch hwaits), hinformed⟩
  | update address => exact scheduled_update_iff h hstep
  | remove address => exact iff_of_true (scheduled_remove h hstep) trivial

end Steps

theorem scheduled_initial (hspaced : settings.Spaced) : Scheduled (initial settings) := by
  refine ⟨hspaced, fun address => placed_without_cell ?_ ?_⟩
  · intro cell hcell
    exact address.2 hcell.symm
  · intro d hd
    cases hd

def SentFast (settings : SubnetSettings) (link : PhyLink) : Prop :=
  link.schedule.interval = advertisePeriod settings ∧ advertisePeriod settings < settings.slotsPer30Sec

instance (settings : SubnetSettings) (link : PhyLink) : Decidable (SentFast settings link) :=
  inferInstanceAs (Decidable (_ ∧ _))

/-- Some advertisements of the two links, sent with the period of the settings, share slot and channel. -/
def Collide (settings : SubnetSettings) (link link' : PhyLink) : Prop :=
  link.schedule.offset.toNat ≡ link'.schedule.offset.toNat [MOD (advertisePeriod settings).toNat] ∧
    link.chOffset = link'.chOffset

/-- Each active router has one cell; once it has had its turn since the last reload, its link is at that cell, and two such routers that advertise with the fast period do not collide. -/
structure ConflictFree (s : State) : Prop where
  oneCell : ∀ address device, s.devices address = some device → device.advertises →
    ∃! cell, s.advertiseChuncksTable cell = address.1
  stands : ∀ address device cell, s.devices address = some device → device.advertises → s.waiting address = false →
    s.advertiseChuncksTable cell = address.1 → device.StandsFor s.settings cell
  apart : ∀ address address' device device' link link', address ≠ address' →
    s.devices address = some device → device.advertises → s.waiting address = false →
    s.devices address' = some device' → device'.advertises → s.waiting address' = false →
    device.configured = some link → SentFast s.settings link →
    device'.configured = some link' → SentFast s.settings link' → ¬ Collide s.settings link link'

theorem Scheduled.conflictFree (h : Scheduled s) : ConflictFree s := by
  obtain ⟨hspaced, hplaced⟩ := h
  refine ⟨?_, ?_, ?_⟩
  · intro address device hdevice hadvertises
    obtain ⟨cell, hcell⟩ := (hplaced address).owns device hdevice hadvertises
    exact ⟨cell, hcell, fun other hother => (hplaced address).unique other cell hother hcell⟩
  · intro address device cell hdevice hadvertises hwaits hcell
    exact (hplaced address).stands device cell hdevice hadvertises hwaits hcell
  · rintro address address' device device' link link' hne hdevice hadvertises hwaits hdevice' hadvertises' hwaits'
      hlink ⟨-, hfast⟩ hlink' - ⟨hslot, hchannel⟩
    obtain ⟨cell, hcell⟩ := (hplaced address).owns device hdevice hadvertises
    obtain ⟨cell', hcell'⟩ := (hplaced address').owns device' hdevice' hadvertises'
    have hstands := (hplaced address).stands device cell hdevice hadvertises hwaits hcell
    have hstands' := (hplaced address').stands device' cell' hdevice' hadvertises' hwaits' hcell'
    rw [Device.StandsFor, hlink, map_some, some_inj, Prod.mk.injEq] at hstands
    rw [Device.StandsFor, hlink', map_some, some_inj, Prod.mk.injEq] at hstands'
    rw [hstands.1, hstands'.1] at hslot
    rw [hstands.2, hstands'.2] at hchannel
    have hsame := eq_of_same_slot_and_channel hspaced hfast hslot hchannel
    rw [hsame] at hcell
    exact hne (Subtype.ext (hcell.symm.trans hcell'))

/-- In a run whose steps keep the links at their cells, the schedule is free of conflicts in every state. -/
theorem conflictFree_of_meets (hspaced : settings.Spaced) (h : Reaches (initial settings) step Meets s) :
    ConflictFree s := by
  have hscheduled : Scheduled s := by
    refine h.invariant (scheduled_initial hspaced) ?_
    intro s action s' hs hmeets hstep
    exact (scheduled_step_iff hs hstep).2 hmeets
  exact hscheduled.conflictFree

def sampleSettings (joinAdvPeriod : UInt16) : SubnetSettings where
  timeslotLength := 0x28E0
  joinAdvPeriod := joinAdvPeriod
  joinBbrAdvPeriod := 1
  joinRxtxPeriod := 1
  maxNumberOfLayers := 2
  timeslotLength_ne_zero := by decide

def sampleRouter (index : Fin 4) : Address16 := ⟨UInt16.ofNat (index + 3), by revert index; decide⟩

def sampleIDs : LinkIDs := { advertise := 10, joinResponse := 11, transmitGroup := 12, receive := 13 }

def sampleRun : List Action :=
  [.join (sampleRouter 0) false true, .join (sampleRouter 1) false true,
    .activate (sampleRouter 0) 1 sampleIDs, .activate (sampleRouter 1) 1 sampleIDs,
    .changePeriod (sampleRouter 1) 3000, .reload (sampleSettings 9), .update (sampleRouter 0), .update (sampleRouter 1)]

/-- One router is slowed down, and both are in the first column when the period grows. -/
theorem conflictFree_of_meets_sample :
    ∃ s, runs step (initial (sampleSettings 7)) sampleRun = some s ∧ ConflictFree s := by
  have hrun : (runs step (initial (sampleSettings 7)) sampleRun).isSome = true := by decide +kernel
  refine ⟨_, (some_get hrun).symm, ?_⟩
  exact conflictFree_of_meets (by decide +kernel)
    (reaches_runs (by decide +kernel) (some_get hrun).symm)

def jammedRun : List Action :=
  (List.finRange 4).map (fun index => .join (sampleRouter index) false true) ++
    (List.finRange 4).map (fun index => .activate (sampleRouter index) 1 sampleIDs) ++
    [.changePeriod (sampleRouter 3) 3000, .changePeriod (sampleRouter 3) 100]

def InFirstSlot (s : State) (address : Address16) : Prop :=
  ∃ device ∈ s.devices address, device.advertises ∧ s.waiting address = false ∧
    ∃ link ∈ device.configured, SentFast s.settings link ∧ link.schedule.offset = 3 ∧ link.chOffset = 0

instance (s : State) (address : Address16) : Decidable (InFirstSlot s address) :=
    inferInstanceAs (Decidable (∃ _ ∈ _, _))

theorem not_conflictFree_of_inFirstSlot {address' : Address16} (hne : address ≠ address') (h : InFirstSlot s address)
    (h' : InFirstSlot s address') : ¬ ConflictFree s := by
  intro hfree
  obtain ⟨device, hdevice, hadvertises, hwaits, link, hlink, hfast, hoffset, hchannel⟩ := h
  obtain ⟨device', hdevice', hadvertises', hwaits', link', hlink', hfast', hoffset', hchannel'⟩ := h'
  refine hfree.apart address address' device device' link link' hne hdevice hadvertises hwaits hdevice' hadvertises'
    hwaits' hlink hfast hlink' hfast' ⟨?_, ?_⟩
  · rw [hoffset, hoffset']
  · rw [hchannel, hchannel']

/-- The fourth router then advertises in the slot and on the channel of the first. -/
theorem changePeriod_jams : ∃ s, runs step (initial (sampleSettings 1)) jammedRun = some s ∧ ¬ ConflictFree s := by
  have hne : sampleRouter 0 ≠ sampleRouter 3 := by decide
  have hjammed : ∃ s ∈ runs step (initial (sampleSettings 1)) jammedRun,
      InFirstSlot s (sampleRouter 0) ∧ InFirstSlot s (sampleRouter 3) := by decide +kernel
  obtain ⟨s, hrun, hfirst, hfourth⟩ := hjammed
  exact ⟨s, hrun, not_conflictFree_of_inFirstSlot hne hfirst hfourth⟩

end Isa100Gateway.AdvertiseSchedule
