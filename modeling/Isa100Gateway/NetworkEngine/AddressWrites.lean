import Isa100Gateway.NetworkEngine.AddressUniqueness

/-!
# What the writes do to the tables

Each write appends one row to what a table holds or waits for, and the commits of a container only take rows away. The gateway and a backbone are configured with one route in each direction and one translation, whatever they already know of each other.
-/

namespace Isa100Gateway.AddressTables

open Operation AddressTables.Task List Network Option

def Operation.translationOf (a : Address32) : Operation → Option PhyAddressTranslation
  | .addressTranslation deviceAddress row => if deviceAddress = a then some row else none
  | .networkRoute _ _ => none

def Operation.routeOf (a : Address32) : Operation → Option PhyNetworkRoute
  | .addressTranslation _ _ => none
  | .networkRoute deviceAddress row => if deviceAddress = a then some row else none

theorem translationOf_self (a : Address32) (row : PhyAddressTranslation) :
    translationOf a (.addressTranslation a row) = some row :=
  if_pos rfl

theorem routeOf_self (a : Address32) (row : PhyNetworkRoute) : routeOf a (.networkRoute a row) = some row :=
  if_pos rfl

namespace Network

variable (n : Network)

def translations (a : Address32) : List PhyAddressTranslation := (n.getDevice a).elim [] Device.addressTranslationTable

def routes (a : Address32) : List PhyNetworkRoute := (n.getDevice a).elim [] Device.networkRoutesTable

def Addressed : Prop := ∀ a device, n.getDevice a = some device → device.address32 = a

end Network

def Task.view (t : Task) : View where
  who a := (t.network.getDevice a).map Device.identity
  subnet := t.network.getSubnet
  att a := t.network.translations a ++ t.operations.filterMap (translationOf a)
  routes := t.network.routes address16Gateway ++ t.operations.filterMap (routeOf address16Gateway)

structure Task.Orderly (t : Task) : Prop where
  addressed : t.network.Addressed
  view : t.view.Orderly

def Network.Orderly (n : Network) : Prop := Task.Orderly ⟨n, []⟩

section Devices

variable {n : Network} {device old : Device} {a : Address32}

theorem getDevice_setDevice : (n.setDevice device).getDevice a =
    if a = device.address32 then some device else n.getDevice a :=
  Table.lookup_insert n.devices device.address32 a device

theorem Network.Addressed.setDevice (h : n.Addressed) : (n.setDevice device).Addressed := by
  intro a found hfound
  rw [getDevice_setDevice] at hfound
  by_cases ha : a = device.address32
  · rw [if_pos ha] at hfound
    cases hfound
    exact ha.symm
  · rw [if_neg ha] at hfound
    exact h a found hfound

theorem translations_setDevice : (n.setDevice device).translations a =
    if a = device.address32 then device.addressTranslationTable else n.translations a := by
  rw [translations, getDevice_setDevice]
  by_cases ha : a = device.address32
  · rw [if_pos ha, if_pos ha]
    rfl
  · rw [if_neg ha, if_neg ha]
    rfl

theorem routes_setDevice : (n.setDevice device).routes a =
    if a = device.address32 then device.networkRoutesTable else n.routes a := by
  rw [routes, getDevice_setDevice]
  by_cases ha : a = device.address32
  · rw [if_pos ha, if_pos ha]
    rfl
  · rw [if_neg ha, if_neg ha]
    rfl

theorem translations_of (h : n.getDevice a = some device) : n.translations a = device.addressTranslationTable := by
  rw [translations, h]
  rfl

theorem routes_of (h : n.getDevice a = some device) : n.routes a = device.networkRoutesTable := by
  rw [routes, h]
  rfl

/-! A device that is written again with a field as it was leaves what is read of that field. -/

theorem identity_setDevice_of_same (device : Device) (hold : n.getDevice device.address32 = some old)
    (hsame : device.identity = old.identity) (a : Address32) :
    ((n.setDevice device).getDevice a).map Device.identity = (n.getDevice a).map Device.identity := by
  rw [getDevice_setDevice]
  by_cases ha : a = device.address32
  · rw [if_pos ha, ha, hold, map_some, map_some, hsame]
  · rw [if_neg ha]

theorem translations_setDevice_of_same (device : Device) (hold : n.getDevice device.address32 = some old)
    (hsame : device.addressTranslationTable = old.addressTranslationTable) (a : Address32) :
    (n.setDevice device).translations a = n.translations a := by
  rw [translations_setDevice]
  by_cases ha : a = device.address32
  · rw [if_pos ha, ha, translations_of hold, hsame]
  · rw [if_neg ha]

theorem routes_setDevice_of_same (device : Device) (hold : n.getDevice device.address32 = some old)
    (hsame : device.networkRoutesTable = old.networkRoutesTable) (a : Address32) :
    (n.setDevice device).routes a = n.routes a := by
  rw [routes_setDevice]
  by_cases ha : a = device.address32
  · rw [if_pos ha, ha, routes_of hold, hsame]
  · rw [if_neg ha]

end Devices

section Views

variable {t : Task} {old : Device} {a : Address32}

theorem view_setDevice (t : Task) (device : Device) : view { t with network := t.network.setDevice device } =
    { who := Function.update t.view.who device.address32 (some device.identity)
      subnet := t.view.subnet
      att := Function.update t.view.att device.address32
        (device.addressTranslationTable ++ t.operations.filterMap (translationOf device.address32))
      routes := (t.network.setDevice device).routes address16Gateway ++
        t.operations.filterMap (routeOf address16Gateway) } := by
  ext1
  · funext b
    change ((t.network.setDevice device).getDevice b).map Device.identity = Function.update t.view.who _ _ b
    rw [getDevice_setDevice, Function.update_apply]
    split <;> rfl
  · rfl
  · funext b
    change (t.network.setDevice device).translations b ++ _ = Function.update t.view.att _ _ b
    rw [translations_setDevice, Function.update_apply]
    split
    · next hb => rw [hb]
    · rfl
  · rfl

theorem view_setDevice_keeping (t : Task) (device : Device)
    (htranslations : device.addressTranslationTable = t.network.translations device.address32)
    (hroutes : address16Gateway = device.address32 → device.networkRoutesTable = t.network.routes device.address32) :
    view { t with network := t.network.setDevice device } =
      { t.view with who := Function.update t.view.who device.address32 (some device.identity) } := by
  rw [view_setDevice]
  ext1
  · rfl
  · rfl
  · refine (Function.update_eq_self_iff).mpr ?_
    change _ = t.network.translations device.address32 ++ _
    rw [htranslations]
  · change (t.network.setDevice device).routes address16Gateway ++ _ = t.network.routes address16Gateway ++ _
    rw [routes_setDevice]
    split
    · next ha => rw [hroutes ha, ← ha]
    · rfl

theorem view_setDevice_same (t : Task) (device : Device) (hold : t.network.getDevice device.address32 = some old)
    (hidentity : device.identity = old.identity)
    (htranslations : device.addressTranslationTable = old.addressTranslationTable)
    (hroutes : device.networkRoutesTable = old.networkRoutesTable) :
    view { t with network := t.network.setDevice device } = t.view := by
  rw [view_setDevice_keeping t device (by rw [htranslations, translations_of hold]) fun _ => by
    rw [hroutes, routes_of hold]]
  refine View.ext (Function.update_eq_self_iff.mpr ?_) rfl rfl rfl
  change _ = (t.network.getDevice device.address32).map Device.identity
  rw [hold, hidentity]
  rfl

theorem view_setDevice_status (t : Task) (device : Device) (hold : t.network.getDevice device.address32 = some old)
    (htranslations : device.addressTranslationTable = old.addressTranslationTable)
    (hroutes : device.address32 = address16Gateway → device.networkRoutesTable = old.networkRoutesTable) :
    view { t with network := t.network.setDevice device } =
      { t.view with who := Function.update t.view.who device.address32 (some device.identity) } :=
  view_setDevice_keeping t device (by rw [htranslations, translations_of hold]) fun ha => by
    rw [hroutes ha.symm, routes_of hold]

theorem view_setDevice_new (t : Task) (device : Device) (hnew : t.network.getDevice device.address32 = none)
    (htranslations : device.addressTranslationTable = []) (hroutes : device.networkRoutesTable = []) :
    view { t with network := t.network.setDevice device } =
      { t.view with who := Function.update t.view.who device.address32 (some device.identity) } := by
  refine view_setDevice_keeping t device ?_ fun _ => ?_
  · rw [htranslations, translations, hnew]
    rfl
  · rw [hroutes, routes, hnew]
    rfl

theorem view_append_translation (n : Network) (operations : List Operation) (row : PhyAddressTranslation) :
    view ⟨n, operations ++ [.addressTranslation a row]⟩ = (view ⟨n, operations⟩).addTranslation a row := by
  ext1
  · rfl
  · rfl
  · funext b
    change n.translations b ++ (operations ++ [_]).filterMap _ = Function.update (view ⟨n, operations⟩).att a _ b
    rw [filterMap_append, ← append_assoc, Function.update_apply]
    by_cases hb : b = a
    · subst hb
      simp [translationOf, view]
    · simp [translationOf, view, hb, Ne.symm hb]
  · change n.routes address16Gateway ++ (operations ++ [_]).filterMap _ = _
    rw [filterMap_append]
    simp [routeOf, view, View.addTranslation]

theorem view_append_route (n : Network) (operations : List Operation) (row : PhyNetworkRoute) :
    view ⟨n, operations ++ [.networkRoute a row]⟩ =
      if a = address16Gateway then (view ⟨n, operations⟩).addRoute row else view ⟨n, operations⟩ := by
  have hatt : ∀ b, (view ⟨n, operations ++ [.networkRoute a row]⟩).att b = (view ⟨n, operations⟩).att b := by
    intro b
    change n.translations b ++ (operations ++ [_]).filterMap _ = _
    rw [filterMap_append]
    simp [translationOf, view]
  have hroutes : (view ⟨n, operations ++ [.networkRoute a row]⟩).routes =
      (view ⟨n, operations⟩).routes ++ if a = address16Gateway then [row] else [] := by
    change n.routes address16Gateway ++ (operations ++ [_]).filterMap _ = _
    rw [filterMap_append, ← append_assoc]
    by_cases ha : a = address16Gateway <;> simp [routeOf, view, ha]
  split
  · next ha =>
    rw [if_pos ha] at hroutes
    exact View.ext rfl rfl (funext hatt) hroutes
  · next ha =>
    rw [if_neg ha, append_nil] at hroutes
    exact View.ext rfl rfl (funext hatt) hroutes

theorem writeAddressTranslation_some {longAddress : Address128} {shortAddress : Nat} {t' : Task}
    (h : t.network.Addressed) (ht : t.writeAddressTranslation a longAddress shortAddress = some t') :
    (∃ id, t'.operations = t.operations ++ [.addressTranslation a ⟨id, longAddress, shortAddress⟩] ∧
      t'.view = t.view.addTranslation a ⟨id, longAddress, shortAddress⟩) ∧ t'.network.Addressed := by
  obtain ⟨device, hdevice, ht⟩ := bind_eq_some_iff.mp ht
  obtain ⟨id, -, rfl⟩ := map_eq_some_iff.mp ht
  obtain rfl := h a device hdevice
  refine ⟨⟨id, rfl, ?_⟩, h.setDevice⟩
  have hsame := view_setDevice_same t { device with lastATTID := id } hdevice rfl rfl rfl
  exact (view_append_translation ..).trans (congrArg (View.addTranslation · _ _) hsame)

theorem writeNetworkRoute_some {destination nextHop : Address128} {outgoingInterface : Nat} {t' : Task}
    (h : t.network.Addressed) (ht : t.writeNetworkRoute a destination nextHop outgoingInterface = some t') :
    (∃ id, t'.operations = t.operations ++ [.networkRoute a ⟨id, destination, nextHop, 64, outgoingInterface⟩] ∧
      t'.view = if a = address16Gateway then t.view.addRoute ⟨id, destination, nextHop, 64, outgoingInterface⟩
        else t.view) ∧ t'.network.Addressed := by
  obtain ⟨device, hdevice, ht⟩ := bind_eq_some_iff.mp ht
  obtain ⟨id, -, rfl⟩ := map_eq_some_iff.mp ht
  obtain rfl := h a device hdevice
  refine ⟨⟨id, rfl, ?_⟩, h.setDevice⟩
  have hsame := view_setDevice_same t { device with lastNetworkRouteID := id } hdevice rfl rfl rfl
  refine (view_append_route ..).trans ?_
  rw [← hsame]

variable {n : Network}

theorem Network.Addressed.commit (h : n.Addressed) (operation : Operation) : (n.commit operation).Addressed := by
  cases operation with
  | addressTranslation b row =>
    rw [Network.commit]
    split
    · exact h
    · exact h.setDevice
  | networkRoute b row =>
    rw [Network.commit]
    split
    · exact h
    · exact h.setDevice

theorem View.Within.refl (v : View) : v.Within v := ⟨rfl, rfl, fun _ => Sublist.refl _, Sublist.refl _⟩

theorem View.Within.trans {v v' v'' : View} (h : v''.Within v') (h' : v'.Within v) : v''.Within v :=
  ⟨h.who.trans h'.who, h.subnet.trans h'.subnet, fun a => (h.att a).trans (h'.att a), h.routes.trans h'.routes⟩

theorem commit_within (h : n.Addressed) (operation : Operation) (operations : List Operation) :
    (view ⟨n.commit operation, operations⟩).Within (view ⟨n, operation :: operations⟩) := by
  have hdrop : (view ⟨n, operations⟩).Within (view ⟨n, operation :: operations⟩) := by
    refine ⟨rfl, rfl, fun a => ?_, ?_⟩
    · exact (Sublist.refl _).append ((sublist_cons_self _ _).filterMap _)
    · exact (Sublist.refl _).append ((sublist_cons_self _ _).filterMap _)
  cases operation with
  | addressTranslation b row =>
    cases hb : n.getDevice b with
    | none =>
      rw [commit, hb]
      exact hdrop
    | some device =>
      obtain rfl := h b device hb
      rw [commit, hb]
      refine ⟨?_, rfl, fun a => ?_, ?_⟩
      · funext a
        exact identity_setDevice_of_same (device.createAddressTranslation row) hb rfl a
      · change ((n.setDevice _).translations a ++ _).Sublist (n.translations a ++ _)
        rw [translations_setDevice]
        split
        · next ha =>
          rw [show a = device.address32 from ha, translations_of hb]
          change ((_ ++ [row]) ++ _).Sublist (_ ++ (addressTranslation _ row :: operations).filterMap _)
          rw [append_assoc, filterMap_cons_some (translationOf_self ..)]
          exact filter_sublist.append (Sublist.refl _)
        · exact (hdrop.att a)
      · change ((n.setDevice _).routes _ ++ _).Sublist _
        rw [routes_setDevice_of_same (device.createAddressTranslation row) hb rfl]
        exact Sublist.refl _
  | networkRoute b row =>
    cases hb : n.getDevice b with
    | none =>
      rw [commit, hb]
      exact hdrop
    | some device =>
      obtain rfl := h b device hb
      rw [commit, hb]
      refine ⟨?_, rfl, fun a => ?_, ?_⟩
      · funext a
        exact identity_setDevice_of_same (device.createNetworkRoute row) hb rfl a
      · change ((n.setDevice _).translations a ++ _).Sublist (n.translations a ++ _)
        rw [translations_setDevice_of_same (device.createNetworkRoute row) hb rfl]
        exact Sublist.refl _
      · change ((n.setDevice _).routes _ ++ _).Sublist (n.routes address16Gateway ++ _)
        rw [routes_setDevice]
        split
        · next ha =>
          rw [show address16Gateway = device.address32 from ha, routes_of hb]
          change ((_ ++ [row]) ++ _).Sublist (_ ++ (networkRoute _ row :: operations).filterMap _)
          rw [append_assoc, filterMap_cons_some (routeOf_self ..)]
          exact filter_sublist.append (Sublist.refl _)
        · exact hdrop.routes

theorem committed_within (h : n.Addressed) (operations : List Operation) :
    (view ⟨committed ⟨n, operations⟩, []⟩).Within (view ⟨n, operations⟩) ∧
      (committed ⟨n, operations⟩).Addressed := by
  induction operations generalizing n with
  | nil => exact ⟨.refl _, h⟩
  | cons operation operations ih =>
    obtain ⟨hwithin, haddressed⟩ := ih (h.commit operation)
    exact ⟨hwithin.trans (commit_within h operation operations), haddressed⟩

theorem Task.Orderly.committed (h : t.Orderly) : t.committed.Orderly :=
  have hcommitted := committed_within h.addressed t.operations
  ⟨hcommitted.2, h.view.within hcommitted.1⟩

theorem view_eraseRoute {device : Device} (p : PhyNetworkRoute → Bool)
    (hold : t.network.getDevice address16Gateway = some device)
    (haddress : device.address32 = address16Gateway) :
    view ⟨t.network.setDevice { device with networkRoutesTable := device.networkRoutesTable.eraseP p },
        t.operations⟩ =
      { t.view with routes := device.networkRoutesTable.eraseP p ++
          t.operations.filterMap (routeOf address16Gateway) } := by
  refine (view_setDevice t _).trans ?_
  ext1
  · refine (Function.update_eq_self_iff).mpr ?_
    change _ = (t.network.getDevice device.address32).map Device.identity
    rw [haddress, hold]
    rfl
  · rfl
  · refine (Function.update_eq_self_iff).mpr ?_
    change _ = t.network.translations device.address32 ++ _
    rw [haddress, translations_of hold]
  · rw [routes_setDevice, if_pos haddress.symm]

end Views

/-! ## The gateway and a backbone -/

section Gateways

theorem destination_eraseP {routes : List PhyNetworkRoute} {p : PhyNetworkRoute → Bool} {destination : Address128}
    (hnodup : (routes.map PhyNetworkRoute.destination).Nodup)
    (hp : ∀ route ∈ routes, route.destination = destination → p route = true)
    (hdestination : ∀ route, p route = true → route.destination = destination) :
    ∀ route ∈ routes.eraseP p, route.destination ≠ destination := by
  induction routes with
  | nil => exact fun route hroute => absurd hroute not_mem_nil
  | cons first routes ih =>
    obtain ⟨hfirst, hnodup⟩ := nodup_cons.mp hnodup
    intro route hroute
    by_cases hpfirst : p first = true
    · rw [eraseP_cons_of_pos hpfirst] at hroute
      rw [← hdestination first hpfirst]
      exact fun heq => hfirst (heq ▸ mem_map_of_mem hroute)
    · rw [eraseP_cons_of_neg hpfirst] at hroute
      rcases mem_cons.mp hroute with rfl | hroute
      · exact fun heq => hpfirst (hp route mem_cons_self heq)
      · exact ih hnodup (fun route hroute => hp route (mem_cons_of_mem _ hroute)) route hroute

structure Task.Untouched (t : Task) (c : Address32) : Prop where
  rows : t.operations.filterMap (translationOf c) = []
  routes : ∀ backbone, t.view.who c = some backbone →
    ∀ route ∈ t.operations.filterMap (routeOf address16Gateway), route.destination ≠ backbone.address128

structure Configures (t : Task) (c : Address32) (t' : Task) : Prop where
  orderly : t'.Orderly
  who : t'.view.who = t.view.who
  subnet : t'.view.subnet = t.view.subnet
  untouched : ∀ d, d ≠ c → t.Untouched d → t'.Untouched d

variable {t t' t'' : Task} {gwDevice backbone : Device} {c : Address32}

theorem Configures.trans (h : Configures t c t') (h' : Configures t' c t'') : Configures t c t'' :=
  ⟨h'.orderly, h'.who.trans h.who, h'.subnet.trans h.subnet, fun d hd hu => h'.untouched d hd (h.untouched d hd hu)⟩

theorem who_of (h : t.network.getDevice c = some backbone) : t.view.who c = some backbone.identity := by
  change (t.network.getDevice c).map Device.identity = _
  rw [h]
  rfl

theorem configures_backboneRoute {destination nextHop : Address128} {outgoingInterface : Nat} (h : t.Orderly)
    (hc : c ≠ address16Gateway) (ht : t.writeNetworkRoute c destination nextHop outgoingInterface = some t') :
    Configures t c t' ∧ t'.view.att = t.view.att ∧ (t.Untouched c → t'.Untouched c) := by
  obtain ⟨⟨id, hoperations, hview⟩, haddressed⟩ := writeNetworkRoute_some h.addressed ht
  rw [if_neg hc] at hview
  have hkept : ∀ d, t.Untouched d → t'.Untouched d := by
    intro d hu
    constructor
    · rw [hoperations, filterMap_append, hu.rows]
      rfl
    · intro backbone hbackbone route hroute
      rw [hview] at hbackbone
      rw [hoperations, filterMap_append] at hroute
      simp only [routeOf, filterMap_cons, if_neg hc, filterMap_nil, append_nil] at hroute
      exact hu.routes backbone hbackbone route hroute
  exact ⟨⟨⟨haddressed, hview ▸ h.view⟩, by rw [hview], by rw [hview], fun d _ => hkept d⟩, by rw [hview], hkept c⟩

theorem configures_gatewayRoute (h : t.Orderly) (hgw : t.network.getDevice address16Gateway = some gwDevice)
    (hc : t.view.who c = some backbone.identity) (htype : backbone.deviceType = .backbone) (hu : t.Untouched c)
    {n : Network}
    (hn : n = t.network.setDevice
      { gwDevice with networkRoutesTable := gwDevice.networkRoutesTable.eraseP (isDirectRoute backbone.address128) })
    (ht : writeNetworkRoute ⟨n, t.operations⟩ gwDevice.address32 backbone.address128 backbone.address128 1 = some t') :
    Configures t c t' ∧ t'.view.att = t.view.att := by
  have haddress := h.addressed _ gwDevice hgw
  rw [haddress] at ht
  subst hn
  obtain ⟨⟨id, hoperations, hview⟩, haddressed⟩ :=
    writeNetworkRoute_some (t := ⟨_, t.operations⟩) h.addressed.setDevice ht
  rw [if_pos rfl] at hview
  replace hview := hview.trans (congrArg (View.addRoute · _) (view_eraseRoute _ hgw haddress))
  have hroutes : t.view.routes = gwDevice.networkRoutesTable ++ t.operations.filterMap (routeOf address16Gateway) := by
    change t.network.routes address16Gateway ++ _ = _
    rw [routes_of hgw]
  have herased : ∀ old ∈ gwDevice.networkRoutesTable.eraseP (isDirectRoute backbone.address128),
      old.destination ≠ backbone.address128 := by
    apply destination_eraseP
    · have hnodup := h.view.destinations
      rw [hroutes, map_append] at hnodup
      exact hnodup.of_append_left
    · intro route hroute hdestination
      refine h.view.isDirectRoute_of_destination hc htype ?_ hdestination
      rw [hroutes]
      exact mem_append_left _ hroute
    · intro route hdirect
      rw [isDirectRoute, decide_eq_true_iff] at hdirect
      exact hdirect.1
  obtain ⟨subnet, hsubnet, hbackbone⟩ := h.view.backbones c _ hc htype
  refine ⟨⟨⟨haddressed, ?_⟩, by rw [hview]; rfl, by rw [hview]; rfl, ?_⟩, by rw [hview]; rfl⟩
  · rw [hview]
    apply View.Orderly.route
    · apply h.view.within
      refine ⟨rfl, rfl, fun _ => Sublist.refl _, ?_⟩
      rw [hroutes]
      exact eraseP_sublist.append (Sublist.refl _)
    · intro old hold
      rcases mem_append.mp hold with hold | hold
      · exact herased old hold
      · exact hu.routes _ hc old hold
    · exact ⟨rfl, rfl⟩
    · exact .inr ⟨c, _, subnet, c, _, hc, rfl, hsubnet, hbackbone, hc, rfl⟩
  · intro d hd hud
    constructor
    · rw [hoperations, filterMap_append]
      change t.operations.filterMap _ ++ [] = []
      rw [append_nil]
      exact hud.rows
    · intro other hother route hroute
      rw [hoperations, filterMap_append] at hroute
      have hother : t.view.who d = some other := by
        rw [hview] at hother
        exact hother
      rcases mem_append.mp hroute with hroute | hroute
      · exact hud.routes other hother route hroute
      · obtain rfl := mem_singleton.mp hroute
        exact fun heq => hd (h.view.distinct d c other _ hother hc heq.symm)

variable {gateway : Identity}

section

variable (h : t.Orderly) (hgw : t.view.who address16Gateway = some gateway)
    (haddress : gwDevice.address32 = address16Gateway) (hlong : gwDevice.address128 = gateway.address128)
include h hgw haddress hlong

theorem configures_translation
    (htable : t.view.att c = backbone.addressTranslationTable) (hc : backbone.address32 = c)
    (ht : t.configureAddresTranslationTable_GW_BBR gwDevice backbone = some t') :
    Configures t c t' ∧ ∀ row ∈ t'.view.att c, row ∈ t.view.att c ∨ row.longAddress = gateway.address128 := by
  subst hc
  have htype := (h.view.typeOfGateway _ gateway hgw).mpr rfl
  rw [configureAddresTranslationTable_GW_BBR] at ht
  by_cases hfound : (backbone.addressTranslationTable.any fun row =>
      row.longAddress = gwDevice.address128 ∧ row.shortAddress = getAddress16 gwDevice.address32) = true
  · rw [if_pos hfound] at ht
    cases ht
    exact ⟨⟨h, rfl, rfl, fun _ _ hu => hu⟩, fun row hrow => .inl hrow⟩
  · rw [if_neg hfound, haddress, hlong] at ht
    obtain ⟨⟨id, hoperations, hview⟩, haddressed⟩ := writeAddressTranslation_some h.addressed ht
    refine ⟨⟨⟨haddressed, ?_⟩, by rw [hview]; rfl, by rw [hview]; rfl, ?_⟩, ?_⟩
    · rw [hview]
      apply h.view.translate hgw
      · intro row hrow heq
        obtain ⟨b, device, hdevice, hto, hshort⟩ := h.view.translates _ row hrow
        obtain rfl := h.view.distinct b address16Gateway device gateway hdevice hgw (hto.symm.trans heq)
        rw [htable] at hrow
        refine hfound (any_eq_true.mpr ⟨row, hrow, ?_⟩)
        rw [decide_eq_true_iff, hlong, haddress]
        exact ⟨heq, hshort⟩
      · exact h.view.longAddress_of_low hgw (.inr rfl)
      · intro _ _ _ _ hmanager
        rw [htype] at hmanager
        cases hmanager
      · intro _ _ _ hdevice
        rw [htype] at hdevice
        cases hdevice
    · intro d hd hu
      constructor
      · rw [hoperations, filterMap_append, hu.rows]
        simp [translationOf, Ne.symm hd]
      · intro other hother route hroute
        rw [hview] at hother
        rw [hoperations, filterMap_append] at hroute
        rcases mem_append.mp hroute with hroute | hroute
        · exact hu.routes other hother route hroute
        · cases hroute
    · intro row hrow
      rw [hview] at hrow
      rcases View.mem_addTranslation.mp hrow with hrow | ⟨-, rfl⟩
      · exact .inl hrow
      · exact .inr rfl

theorem configures_gateway
    (hc : t.network.getDevice c = some backbone) (htype : backbone.deviceType = .backbone) (hu : t.Untouched c)
    (ht : t.configureGateway gwDevice backbone = some t') :
    Configures t c t' ∧ ∀ row ∈ t'.view.att c, row ∈ t.view.att c ∨ row.longAddress = gateway.address128 := by
  have hwho : t.view.who c = some backbone.identity := who_of hc
  have hne : c ≠ address16Gateway := by
    intro heq
    have hgateway := (h.view.typeOfGateway c _ hwho).mpr heq
    rw [show backbone.identity.deviceType = .backbone from htype] at hgateway
    cases hgateway
  have htable : t.view.att c = backbone.addressTranslationTable := by
    change t.network.translations c ++ t.operations.filterMap _ = _
    rw [hu.rows, append_nil, translations_of hc]
  obtain rfl := h.addressed c backbone hc
  obtain ⟨t₁, hroutes, ht⟩ := bind_eq_some_iff.mp ht
  rw [configureNetworkRoute_GW_BBR] at hroutes
  obtain ⟨t₂, hown, hroutes⟩ := bind_eq_some_iff.mp hroutes
  have hown : Configures t backbone.address32 t₂ ∧ t₂.view.att = t.view.att ∧ t₂.Untouched backbone.address32 := by
    split at hown
    · cases hown
      exact ⟨⟨h, rfl, rfl, fun _ _ hu => hu⟩, rfl, hu⟩
    · obtain ⟨hconfigures, hatt, hkept⟩ := configures_backboneRoute h hne hown
      exact ⟨hconfigures, hatt, hkept hu⟩
  obtain ⟨hconfigures, hatt, hu₂⟩ := hown
  obtain ⟨gwDevice', hgwDevice', hroutes⟩ := bind_eq_some_iff.mp hroutes
  rw [haddress] at hgwDevice'
  obtain ⟨hconfigures', hatt'⟩ := configures_gatewayRoute hconfigures.orderly hgwDevice'
    (hconfigures.who ▸ hwho) htype hu₂
    rfl hroutes
  have htwo := hconfigures.trans hconfigures'
  obtain ⟨hconfigures'', hrows⟩ := configures_translation htwo.orderly (htwo.who ▸ hgw) haddress hlong
    (by rw [hatt', hatt, htable]) rfl ht
  refine ⟨htwo.trans hconfigures'', ?_⟩
  rw [hatt', hatt] at hrows
  exact hrows

theorem configureSubnets_orderly {subnets : List Subnet} (hnodup : (subnets.filterMap Subnet.backbone).Nodup)
    (hbackbones : ∀ c ∈ subnets.filterMap Subnet.backbone,
      (∃ i, t.view.who c = some i ∧ i.deviceType = .backbone) ∧ t.Untouched c)
    (ht : Machine.runs (fun t (subnet : Subnet) => t.configureSubnet gwDevice subnet.backbone) t subnets = some t') :
    t'.Orderly := by
  induction subnets generalizing t with
  | nil =>
    cases ht
    exact h
  | cons subnet subnets ih =>
    obtain ⟨t₁, hone, ht⟩ := bind_eq_some_iff.mp ht
    cases hbackbone : subnet.backbone with
    | none =>
      rw [filterMap_cons_none hbackbone] at hnodup hbackbones
      simp only [hbackbone] at hone
      cases hone
      exact ih h hgw hnodup hbackbones ht
    | some c =>
      rw [filterMap_cons_some hbackbone] at hnodup hbackbones
      obtain ⟨hnot, hnodup⟩ := nodup_cons.mp hnodup
      obtain ⟨⟨i, hi, htype⟩, hu⟩ := hbackbones c mem_cons_self
      obtain ⟨backbone, hc, rfl⟩ := map_eq_some_iff.mp hi
      simp only [hbackbone, configureSubnet, bind_some, hc] at hone
      have hconfigures : Configures t c t₁ := by
        split at hone
        · exact (configures_gateway h hgw haddress hlong hc htype hu hone).1
        · cases hone
          exact ⟨h, rfl, rfl, fun _ _ hu => hu⟩
      apply ih hconfigures.orderly (hconfigures.who ▸ hgw) hnodup _ ht
      intro d hd
      obtain ⟨hwho, hud⟩ := hbackbones d (mem_cons_of_mem _ hd)
      refine ⟨hconfigures.who ▸ hwho, hconfigures.untouched d ?_ hud⟩
      rintro rfl
      exact hnot hd

end

end Gateways

end Isa100Gateway.AddressTables
