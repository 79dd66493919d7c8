import Mathlib.Data.List.Nodup
import Isa100Gateway.Lib.Table
import Isa100Gateway.NetworkEngine.AddressTables

/-!
# Translations and routes are not duplicated

What the tables hold and what the containers still write into them is seen as one; a commit replaces rows with the same identifier only. A contract between two devices outside subnet 0 never finds the translation it looks for, so that a run keeps the tables in order as long as no contract meets one that is already there.
-/

namespace Isa100Gateway.AddressTables

open List

/-! ## What counts of the tables -/

structure Identity where
  address128 : Address128
  deviceType : DeviceType
  status : DeviceStatus

def Device.identity (device : Device) : Identity := ⟨device.address128, device.deviceType, device.status⟩

/-- The devices, the translations of each of them and the routes of the gateway, pending writes included. -/
@[ext]
structure View where
  who : Address32 → Option Identity
  subnet : Address32 → Option Subnet
  att : Address32 → List PhyAddressTranslation
  routes : List PhyNetworkRoute

/-- The route goes to a device through the backbone of its subnet, or to the manager itself. -/
def View.Leads (v : View) (route : PhyNetworkRoute) : Prop :=
  (∃ manager, v.who address16Manager = some manager ∧ route.destination = manager.address128 ∧
      route.nextHop = manager.address128) ∨
    ∃ b device subnet c backbone, v.who b = some device ∧ route.destination = device.address128 ∧
      v.subnet b = some subnet ∧ subnet.backbone = some c ∧ v.who c = some backbone ∧
        route.nextHop = backbone.address128

/-- A translation is for one of the devices, with its 16-bit address. -/
def View.Translates (v : View) (row : PhyAddressTranslation) : Prop :=
  ∃ b device, v.who b = some device ∧ row.longAddress = device.address128 ∧ row.shortAddress = getAddress16 b

def View.addTranslation (v : View) (a : Address32) (row : PhyAddressTranslation) : View :=
  { v with att := Function.update v.att a (v.att a ++ [row]) }

def View.addRoute (v : View) (route : PhyNetworkRoute) : View := { v with routes := v.routes ++ [route] }

theorem View.mem_addTranslation {v : View} {a c : Address32} {row row' : PhyAddressTranslation} :
    row' ∈ (v.addTranslation a row).att c ↔ row' ∈ v.att c ∨ c = a ∧ row' = row := by
  by_cases hc : c = a
  · subst hc
    simp [addTranslation]
  · simp [addTranslation, hc]

structure View.Orderly (v : View) : Prop where
  manager : ∃ manager, v.who address16Manager = some manager
  distinct : ∀ a b i j, v.who a = some i → v.who b = some j → i.address128 = j.address128 → a = b
  typeOfManager : ∀ a i, v.who a = some i → (i.deviceType = .manager ↔ a = address16Manager)
  typeOfGateway : ∀ a i, v.who a = some i → (i.deviceType = .gateway ↔ a = address16Gateway)
  low : ∀ a i, v.who a = some i → a = address16Manager ∨ a = address16Gateway ∨ 2 < getAddress16 a
  backbones : ∀ a i, v.who a = some i → i.deviceType = .backbone → ∃ subnet, v.subnet a = some subnet ∧
    subnet.backbone = some a
  ofSubnet : ∀ a subnet c, v.subnet a = some subnet → subnet.backbone = some c →
    extractSubnet c = extractSubnet a ∧ ∃ i, v.who c = some i ∧ i.deviceType = .backbone
  longs : ∀ a, ((v.att a).map PhyAddressTranslation.longAddress).Nodup
  shorts : ∀ a, ((v.att a).map PhyAddressTranslation.shortAddress).Nodup
  translates : ∀ a, ∀ row ∈ v.att a, v.Translates row
  unconfirmed : ∀ a i, v.who a = some i → i.deviceType = .backbone → i.status ≠ .joinConfirmed →
    ∀ manager, v.who address16Manager = some manager → ∀ row ∈ v.att a, row.longAddress ≠ manager.address128
  unjoined : ∀ a i, v.who a = some i → i.deviceType = .backbone → ∀ b j, v.who b = some j → j.deviceType = .device →
    j.status = .joinRequestReceived → ∀ row ∈ v.att a, row.longAddress ≠ j.address128
  destinations : (v.routes.map PhyNetworkRoute.destination).Nodup
  direct : ∀ route ∈ v.routes, route.nwkHopLimit = 64 ∧ route.outgoingInterface = 1
  leads : ∀ route ∈ v.routes, v.Leads route

structure View.Within (v' v : View) : Prop where
  who : v'.who = v.who
  subnet : v'.subnet = v.subnet
  att : ∀ a, (v'.att a).Sublist (v.att a)
  routes : v'.routes.Sublist v.routes

namespace View.Orderly

variable {v v' : View}

theorem within (h : v.Orderly) (hwithin : v'.Within v) : v'.Orderly := by
  obtain ⟨hwho, hsubnet, hatt, hroutes⟩ := hwithin
  refine ⟨?_, ?_, ?_, ?_, ?_, ?_, ?_, ?_, ?_, ?_, ?_, ?_, ?_, ?_, ?_⟩ <;> try rw [hwho]
  · exact h.manager
  · exact h.distinct
  · exact h.typeOfManager
  · exact h.typeOfGateway
  · exact h.low
  · rw [hsubnet]
    exact h.backbones
  · rw [hsubnet]
    exact h.ofSubnet
  · exact fun a => ((hatt a).map _).nodup (h.longs a)
  · exact fun a => ((hatt a).map _).nodup (h.shorts a)
  · intro a row hrow
    rw [Translates, hwho]
    exact h.translates a row ((hatt a).subset hrow)
  · exact fun a i hi hbackbone hstatus manager hmanager row hrow =>
      h.unconfirmed a i hi hbackbone hstatus manager hmanager row ((hatt a).subset hrow)
  · exact fun a i hi hbackbone b j hj hdevice hstatus row hrow =>
      h.unjoined a i hi hbackbone b j hj hdevice hstatus row ((hatt a).subset hrow)
  · exact (hroutes.map _).nodup h.destinations
  · exact fun route hroute => h.direct route (hroutes.subset hroute)
  · intro route hroute
    rw [Leads, hwho, hsubnet]
    exact h.leads route (hroutes.subset hroute)

theorem translate (h : v.Orderly) {a b : Address32} {device : Identity} {id : Nat} (hdevice : v.who b = some device)
    (hlong : ∀ row ∈ v.att a, row.longAddress ≠ device.address128)
    (hshort : ∀ row ∈ v.att a, row.shortAddress = getAddress16 b → row.longAddress = device.address128)
    (hunconfirmed : ∀ i, v.who a = some i → i.deviceType = .backbone → i.status ≠ .joinConfirmed →
      device.deviceType ≠ .manager)
    (hunjoined : ∀ i, v.who a = some i → i.deviceType = .backbone → device.deviceType = .device →
      device.status ≠ .joinRequestReceived) :
    (v.addTranslation a ⟨id, device.address128, getAddress16 b⟩).Orderly := by
  refine ⟨h.manager, h.distinct, h.typeOfManager, h.typeOfGateway, h.low, h.backbones, h.ofSubnet, ?_, ?_, ?_,
    ?_, ?_, h.destinations, h.direct, h.leads⟩
  · intro c
    by_cases hc : c = a
    · subst hc
      simp only [addTranslation, Function.update_self, map_append, nodup_append]
      refine ⟨h.longs c, nodup_singleton _, ?_⟩
      intro long hmem long' hmem'
      obtain ⟨row, hrow, rfl⟩ := mem_map.mp hmem
      obtain rfl := mem_singleton.mp hmem'
      exact hlong row hrow
    · simp only [addTranslation, Function.update_of_ne hc]
      exact h.longs c
  · intro c
    by_cases hc : c = a
    · subst hc
      simp only [addTranslation, Function.update_self, map_append, nodup_append]
      refine ⟨h.shorts c, nodup_singleton _, ?_⟩
      intro short hmem short' hmem'
      obtain ⟨row, hrow, rfl⟩ := mem_map.mp hmem
      obtain rfl := mem_singleton.mp hmem'
      exact fun heq => hlong row hrow (hshort row hrow heq)
    · simp only [addTranslation, Function.update_of_ne hc]
      exact h.shorts c
  · intro c row hrow
    rcases mem_addTranslation.mp hrow with hrow | ⟨-, rfl⟩
    · exact h.translates c row hrow
    · exact ⟨b, device, hdevice, rfl, rfl⟩
  · intro c i hi hbackbone hstatus manager hmanager row hrow
    rcases mem_addTranslation.mp hrow with hrow | ⟨rfl, rfl⟩
    · exact h.unconfirmed c i hi hbackbone hstatus manager hmanager row hrow
    · intro heq
      have hb := h.distinct b address16Manager device manager hdevice hmanager heq
      exact hunconfirmed i hi hbackbone hstatus ((h.typeOfManager b device hdevice).mpr hb)
  · intro c i hi hbackbone b' j hj hdevice' hstatus row hrow
    rcases mem_addTranslation.mp hrow with hrow | ⟨rfl, rfl⟩
    · exact h.unjoined c i hi hbackbone b' j hj hdevice' hstatus row hrow
    · intro heq
      obtain rfl := h.distinct b b' device j hdevice hj heq
      obtain rfl : device = j := Option.some.inj (hdevice.symm.trans hj)
      exact hunjoined i hi hbackbone hdevice' hstatus

theorem longAddress_of_low (h : v.Orderly) {a b : Address32} {device : Identity} (hdevice : v.who b = some device)
    (hlow : b = address16Manager ∨ b = address16Gateway) :
    ∀ row ∈ v.att a, row.shortAddress = getAddress16 b → row.longAddress = device.address128 := by
  intro row hrow heq
  obtain ⟨c, other, hother, hlong, hshort⟩ := h.translates a row hrow
  have hsame : c = b := by
    have haddress : getAddress16 c = getAddress16 b := hshort.symm.trans heq
    rcases hlow with rfl | rfl
    · rcases h.low c other hother with rfl | rfl | hc
      · rfl
      · exact absurd haddress (by decide)
      · have : getAddress16 c = 1 := haddress
        omega
    · rcases h.low c other hother with rfl | rfl | hc
      · exact absurd haddress (by decide)
      · rfl
      · have : getAddress16 c = 2 := haddress
        omega
  subst hsame
  cases hdevice.symm.trans hother
  exact hlong

theorem route (h : v.Orderly) {route : PhyNetworkRoute} (hnew : ∀ old ∈ v.routes, old.destination ≠ route.destination)
    (hdirect : route.nwkHopLimit = 64 ∧ route.outgoingInterface = 1) (hleads : v.Leads route) :
    (v.addRoute route).Orderly := by
  refine ⟨h.manager, h.distinct, h.typeOfManager, h.typeOfGateway, h.low, h.backbones, h.ofSubnet, h.longs, h.shorts,
    h.translates, h.unconfirmed, h.unjoined, ?_, ?_, ?_⟩
  · simp only [addRoute, map_append, nodup_append]
    refine ⟨h.destinations, nodup_singleton _, ?_⟩
    intro destination hmem destination' hmem'
    obtain ⟨old, hold, rfl⟩ := mem_map.mp hmem
    obtain rfl := mem_singleton.mp hmem'
    exact hnew old hold
  · intro old hold
    rcases mem_append.mp hold with hold | hold
    · exact h.direct old hold
    · obtain rfl := mem_singleton.mp hold
      exact hdirect
  · intro old hold
    rcases mem_append.mp hold with hold | hold
    · exact h.leads old hold
    · obtain rfl := mem_singleton.mp hold
      exact hleads

theorem status (h : v.Orderly) {a : Address32} {i : Identity} (hi : v.who a = some i) (status : DeviceStatus)
    (hbackbone : i.deviceType = .backbone → status ≠ .joinConfirmed → i.status ≠ .joinConfirmed)
    (hdevice : i.deviceType = .device → status = .joinRequestReceived → i.status = .joinRequestReceived) :
    { v with who := Function.update v.who a (some { i with status := status }) }.Orderly := by
  have hold : ∀ b j, Function.update v.who a (some { i with status := status }) b = some j →
      ∃ old, v.who b = some old ∧ old.address128 = j.address128 ∧ old.deviceType = j.deviceType ∧
        (j.deviceType = .backbone → j.status ≠ .joinConfirmed → old.status ≠ .joinConfirmed) ∧
        (j.deviceType = .device → j.status = .joinRequestReceived → old.status = .joinRequestReceived) := by
    intro b j hj
    by_cases hb : b = a
    · subst hb
      rw [Function.update_self] at hj
      cases hj
      exact ⟨i, hi, rfl, rfl, hbackbone, hdevice⟩
    · rw [Function.update_of_ne hb] at hj
      exact ⟨j, hj, rfl, rfl, fun _ hstatus => hstatus, fun _ hstatus => hstatus⟩
  have hnew : ∀ b j, v.who b = some j → ∃ new, Function.update v.who a (some { i with status := status }) b = some new ∧
      new.address128 = j.address128 := by
    intro b j hj
    by_cases hb : b = a
    · subst hb
      rw [Function.update_self]
      cases hi.symm.trans hj
      exact ⟨_, rfl, rfl⟩
    · rw [Function.update_of_ne hb]
      exact ⟨j, hj, rfl⟩
  refine ⟨?_, ?_, ?_, ?_, ?_, ?_, ?_, h.longs, h.shorts, ?_, ?_, ?_, h.destinations, h.direct, ?_⟩
  · obtain ⟨manager, hmanager⟩ := h.manager
    obtain ⟨new, hnew, -⟩ := hnew _ manager hmanager
    exact ⟨new, hnew⟩
  · intro b c j k hj hk heq
    obtain ⟨j', hj', hsame, -⟩ := hold b j hj
    obtain ⟨k', hk', hsame', -⟩ := hold c k hk
    exact h.distinct b c j' k' hj' hk' (hsame.trans (heq.trans hsame'.symm))
  · intro b j hj
    obtain ⟨j', hj', -, htype, -⟩ := hold b j hj
    rw [← htype]
    exact h.typeOfManager b j' hj'
  · intro b j hj
    obtain ⟨j', hj', -, htype, -⟩ := hold b j hj
    rw [← htype]
    exact h.typeOfGateway b j' hj'
  · intro b j hj
    obtain ⟨j', hj', -⟩ := hold b j hj
    exact h.low b j' hj'
  · intro b j hj htype
    obtain ⟨j', hj', -, htype', -⟩ := hold b j hj
    exact h.backbones b j' hj' (htype'.trans htype)
  · intro b subnet c hsubnet hc
    obtain ⟨hsame, j, hj, htype⟩ := h.ofSubnet b subnet c hsubnet hc
    by_cases ha : c = a
    · subst ha
      cases hi.symm.trans hj
      exact ⟨hsame, _, Function.update_self .., htype⟩
    · exact ⟨hsame, j, (Function.update_of_ne ha _ _).trans hj, htype⟩
  · intro b row hrow
    obtain ⟨c, device, hdevice, hlong, hshort⟩ := h.translates b row hrow
    obtain ⟨new, hnew, hsame⟩ := hnew c device hdevice
    exact ⟨c, new, hnew, hlong.trans hsame.symm, hshort⟩
  · intro b j hj htype hstatus manager hmanager row hrow
    obtain ⟨j', hj', -, htype', hstatus', -⟩ := hold b j hj
    obtain ⟨manager', hmanager', hsame, -⟩ := hold _ manager hmanager
    rw [← hsame]
    exact h.unconfirmed b j' hj' (htype'.trans htype) (hstatus' htype hstatus) manager' hmanager' row hrow
  · intro b j hj htype c k hk hdevice hstatus row hrow
    obtain ⟨j', hj', -, htype', -⟩ := hold b j hj
    obtain ⟨k', hk', hsame, hdevice', -, hstatus'⟩ := hold c k hk
    rw [← hsame]
    exact h.unjoined b j' hj' (htype'.trans htype) c k' hk' (hdevice'.trans hdevice) (hstatus' hdevice hstatus) row hrow
  · intro route hroute
    rcases h.leads route hroute with ⟨manager, hmanager, hdestination, hnext⟩ |
      ⟨b, device, subnet, c, backbone, hdevice, hdestination, hsubnet, hbackbone, hc, hnext⟩
    · obtain ⟨new, hnew, hsame⟩ := hnew _ manager hmanager
      exact .inl ⟨new, hnew, hdestination.trans hsame.symm, hnext.trans hsame.symm⟩
    · obtain ⟨device', hdevice', hsame⟩ := hnew b device hdevice
      obtain ⟨backbone', hbackbone', hsame'⟩ := hnew c backbone hc
      exact .inr ⟨b, device', subnet, c, backbone', hdevice', hdestination.trans hsame.symm, hsubnet, hbackbone,
        hbackbone', hnext.trans hsame'.symm⟩

theorem join (h : v.Orderly) {a : Address32} {i : Identity} (hnew : v.who a = none) (hempty : v.att a = [])
    (hfresh : ∀ b j, v.who b = some j → j.address128 ≠ i.address128)
    (hmanager : i.deviceType = .manager ↔ a = address16Manager)
    (hgateway : i.deviceType = .gateway ↔ a = address16Gateway)
    (hlow : a = address16Manager ∨ a = address16Gateway ∨ 2 < getAddress16 a) {subnet : Address32 → Option Subnet}
    (hsubnet : ∀ b s c, v.subnet b = some s → s.backbone = some c → subnet b = some s)
    (hold : ∀ b s c, subnet b = some s → s.backbone = some c → v.subnet b = some s ∨
      extractSubnet c = extractSubnet b ∧ c = a ∧ i.deviceType = .backbone)
    (hbackbone : i.deviceType = .backbone → subnet a = some ⟨some a⟩) :
    { v with who := Function.update v.who a (some i), subnet := subnet }.Orderly := by
  have hsplit : ∀ b j, Function.update v.who a (some i) b = some j → b = a ∧ j = i ∨ b ≠ a ∧ v.who b = some j := by
    intro b j hj
    by_cases hb : b = a
    · subst hb
      rw [Function.update_self] at hj
      exact .inl ⟨rfl, (Option.some.inj hj).symm⟩
    · rw [Function.update_of_ne hb] at hj
      exact .inr ⟨hb, hj⟩
  have hkept : ∀ b j, v.who b = some j → Function.update v.who a (some i) b = some j := by
    intro b j hj
    have hb : b ≠ a := by
      rintro rfl
      rw [hnew] at hj
      cases hj
    rw [Function.update_of_ne hb]
    exact hj
  have hknown : ∀ b, ∀ row ∈ v.att b, row.longAddress ≠ i.address128 := by
    intro b row hrow heq
    obtain ⟨c, device, hdevice, hlong, -⟩ := h.translates b row hrow
    exact hfresh c device hdevice (hlong.symm.trans heq)
  refine ⟨?_, ?_, ?_, ?_, ?_, ?_, ?_, h.longs, h.shorts, ?_, ?_, ?_, h.destinations, h.direct, ?_⟩
  · obtain ⟨manager, hmanager⟩ := h.manager
    exact ⟨manager, hkept _ manager hmanager⟩
  · intro b c j k hj hk heq
    rcases hsplit b j hj with ⟨hb, rfl⟩ | ⟨-, hjv⟩
    · rcases hsplit c k hk with ⟨hc, -⟩ | ⟨-, hkv⟩
      · exact hb.trans hc.symm
      · exact absurd heq.symm (hfresh c k hkv)
    · rcases hsplit c k hk with ⟨-, rfl⟩ | ⟨-, hkv⟩
      · exact absurd heq (hfresh b j hjv)
      · exact h.distinct b c j k hjv hkv heq
  · intro b j hj
    rcases hsplit b j hj with ⟨rfl, rfl⟩ | ⟨-, hj⟩
    · exact hmanager
    · exact h.typeOfManager b j hj
  · intro b j hj
    rcases hsplit b j hj with ⟨rfl, rfl⟩ | ⟨-, hj⟩
    · exact hgateway
    · exact h.typeOfGateway b j hj
  · intro b j hj
    rcases hsplit b j hj with ⟨rfl, rfl⟩ | ⟨-, hj⟩
    · exact hlow
    · exact h.low b j hj
  · intro b j hj htype
    rcases hsplit b j hj with ⟨rfl, rfl⟩ | ⟨-, hj⟩
    · exact ⟨_, hbackbone htype, rfl⟩
    · obtain ⟨s, hs, hb⟩ := h.backbones b j hj htype
      exact ⟨s, hsubnet b s b hs hb, hb⟩
  · intro b s c hs hc
    rcases hold b s c hs hc with hs | ⟨hsame, rfl, htype⟩
    · obtain ⟨hsame, j, hj, htype⟩ := h.ofSubnet b s c hs hc
      exact ⟨hsame, j, hkept c j hj, htype⟩
    · exact ⟨hsame, i, Function.update_self .., htype⟩
  · intro b row hrow
    obtain ⟨c, device, hdevice, hlong, hshort⟩ := h.translates b row hrow
    exact ⟨c, device, hkept c device hdevice, hlong, hshort⟩
  · intro b j hj htype hstatus manager hmanager row hrow
    rcases hsplit b j hj with ⟨rfl, -⟩ | ⟨-, hj⟩
    · rw [hempty] at hrow
      cases hrow
    · rcases hsplit _ manager hmanager with ⟨-, rfl⟩ | ⟨-, hmanager⟩
      · exact hknown b row hrow
      · exact h.unconfirmed b j hj htype hstatus manager hmanager row hrow
  · intro b j hj htype c k hk hdevice hstatus row hrow
    rcases hsplit b j hj with ⟨rfl, -⟩ | ⟨-, hj⟩
    · rw [hempty] at hrow
      cases hrow
    · rcases hsplit c k hk with ⟨-, rfl⟩ | ⟨-, hk⟩
      · exact hknown b row hrow
      · exact h.unjoined b j hj htype c k hk hdevice hstatus row hrow
  · intro route hroute
    rcases h.leads route hroute with ⟨manager, hmanager, hdestination, hnext⟩ |
      ⟨b, device, s, c, backbone, hdevice, hdestination, hs, hbackbone, hc, hnext⟩
    · exact .inl ⟨manager, hkept _ manager hmanager, hdestination, hnext⟩
    · exact .inr ⟨b, device, s, c, backbone, hkept b device hdevice, hdestination, hsubnet b s c hs hbackbone,
        hbackbone,
        hkept c backbone hc, hnext⟩

theorem isDirectRoute_of_destination (h : v.Orderly) {b : Address32} {backbone : Identity}
    (hb : v.who b = some backbone)
    (htype : backbone.deviceType = .backbone) {route : PhyNetworkRoute} (hroute : route ∈ v.routes)
    (hdestination : route.destination = backbone.address128) : Task.isDirectRoute backbone.address128 route = true := by
  obtain ⟨hlimit, hinterface⟩ := h.direct route hroute
  rcases h.leads route hroute with ⟨manager, hmanager, hto, -⟩ |
    ⟨c, device, subnet, d, hop, hdevice, hto, hsubnet, hbackbone, hhop, hnext⟩
  · have hsame := h.distinct b address16Manager backbone manager hb hmanager (hdestination.symm.trans hto)
    have hmanagerType := (h.typeOfManager b backbone hb).mpr hsame
    rw [htype] at hmanagerType
    cases hmanagerType
  · obtain rfl := h.distinct b c backbone device hb hdevice (hdestination.symm.trans hto)
    obtain ⟨subnet', hsubnet', hbackbone'⟩ := h.backbones b backbone hb htype
    cases hsubnet.symm.trans hsubnet'
    cases hbackbone.symm.trans hbackbone'
    cases hb.symm.trans hhop
    simp [Task.isDirectRoute, hdestination, hnext, hlimit, hinterface]

end View.Orderly

end Isa100Gateway.AddressTables
