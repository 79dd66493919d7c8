import Isa100Gateway.NetworkEngine.AddressWrites

/-!
# Joins and contracts write every translation and every route once

The joins write nothing that is there already. A contract does so only when it misses a translation that the table has.
-/

namespace Isa100Gateway.AddressTables

open List Network Option AddressTables.Task

/-! ## Joins -/

section Joins

variable {n n' : Network} {device : Device} {a : Address32}

theorem Network.Orderly.status (h : n.Orderly) (ha : n.getDevice a = some device) (status : DeviceStatus)
    (hbackbone : device.deviceType = .backbone → status ≠ .joinConfirmed → device.status ≠ .joinConfirmed)
    (hdevice : device.deviceType = .device → status = .joinRequestReceived → device.status = .joinRequestReceived) :
    (n.setDevice { device with status := status }).Orderly := by
  obtain rfl := h.addressed a device ha
  refine ⟨h.addressed.setDevice, ?_⟩
  have hview := view_setDevice_status ⟨n, []⟩ { device with status := status } ha rfl fun _ => rfl
  change (view ⟨n.setDevice { device with status := status }, []⟩).Orderly
  rw [hview]
  exact h.view.status (who_of (t := ⟨n, []⟩) ha) status hbackbone hdevice

variable {address128 : Address128} {subnetId address16 : Nat} {address : Address32}

theorem not_known (hfresh : ∀ entry ∈ n.devices.entries, entry.2.address128 ≠ address128) :
    ∀ b j, (view ⟨n, []⟩).who b = some j → j.address128 ≠ address128 := by
  intro b j hj
  obtain ⟨device, hdevice, rfl⟩ := map_eq_some_iff.mp hj
  exact hfresh ⟨b, device⟩ (AList.mem_lookup_iff.mp hdevice)

theorem Network.Orderly.join (h : n.Orderly) (device : Device) (hnew : n.getDevice device.address32 = none)
    (hfresh : ∀ entry ∈ n.devices.entries, entry.2.address128 ≠ device.address128)
    (htranslations : device.addressTranslationTable = []) (hroutes : device.networkRoutesTable = [])
    (hmanager : device.deviceType = .manager ↔ device.address32 = address16Manager)
    (hgateway : device.deviceType = .gateway ↔ device.address32 = address16Gateway)
    (hlow : device.address32 = address16Manager ∨ device.address32 = address16Gateway ∨ 2 <
      getAddress16 device.address32)
    {subnets : AList fun _ : Nat => Subnet} (hkept : ∀ b s c, n.getSubnet b = some s → s.backbone = some c →
      getSubnet ⟨(n.setDevice device).devices, subnets⟩ b = some s)
    (hold : ∀ b s c, getSubnet ⟨(n.setDevice device).devices, subnets⟩ b = some s → s.backbone = some c →
      n.getSubnet b = some s ∨
        extractSubnet c = extractSubnet b ∧ c = device.address32 ∧ device.deviceType = .backbone)
    (hbackbone : device.deviceType = .backbone →
      getSubnet ⟨(n.setDevice device).devices, subnets⟩ device.address32 = some ⟨some device.address32⟩) :
    Orderly ⟨(n.setDevice device).devices, subnets⟩ := by
  refine ⟨h.addressed.setDevice, ?_⟩
  have hview := view_setDevice_new ⟨n, []⟩ device hnew htranslations hroutes
  have hsubnets : view ⟨⟨(n.setDevice device).devices, subnets⟩, []⟩ = { view ⟨n.setDevice device, []⟩ with
        subnet := getSubnet ⟨(n.setDevice device).devices, subnets⟩ } := rfl
  rw [hsubnets, hview]
  apply h.view.join (i := device.identity) _ _ (not_known hfresh) hmanager hgateway hlow hkept hold hbackbone
  · exact congrArg (Option.map Device.identity) hnew
  · change n.translations device.address32 ++ [] = []
    rw [translations, hnew]
    rfl

theorem requestJoinSecurityGateway_orderly (h : n.Orderly)
    (hn' : n.requestJoinSecurityGateway address128 = some n') : n'.Orderly := by
  rw [requestJoinSecurityGateway] at hn'
  split at hn'
  · next gwDevice hgw =>
    cases hn'
    have htype := (h.view.typeOfGateway _ _ (who_of (t := ⟨n, []⟩) hgw)).mpr rfl
    apply h.status hgw
    · intro hbackbone
      exact absurd (hbackbone.symm.trans htype) (by decide)
    · intro hdevice
      exact absurd (hdevice.symm.trans htype) (by decide)
  · next hnone =>
    split at hn'
    · next hfresh =>
      cases hn'
      apply h.join ⟨address16Gateway, address128, .gateway, .joinRequestReceived, 0, 0, [], [], []⟩ hnone hfresh rfl rfl
        (by simp [address16Gateway, address16Manager]) (by simp) (.inr (.inl rfl))
      · exact fun _ _ _ hs _ => hs
      · exact fun _ _ _ hs _ => .inl hs
      · exact fun hbackbone => by cases hbackbone
    · cases hn'

theorem getAddress16_createAddress32 (h : address16 < maxNumberOfDevices) :
    getAddress16 (createAddress32 subnetId address16) = address16 := by
  rw [maxNumberOfDevices] at h
  rw [getAddress16, createAddress32]
  omega

theorem extractSubnet_createAddress32 (h : address16 < maxNumberOfDevices) :
    extractSubnet (createAddress32 subnetId address16) = subnetId := by
  rw [maxNumberOfDevices] at h
  rw [extractSubnet, createAddress32]
  omega

theorem getSubnet_insert (devices : AList fun _ : Address32 => Device) (subnetId : Nat) (subnet : Subnet)
    (b : Address32) :
    getSubnet ⟨devices, n.subnets.insert subnetId subnet⟩ b =
      if b = address16Gateway ∨ b = address16Manager then none
      else if extractSubnet b = subnetId then some subnet else n.subnets.lookup (extractSubnet b) := by
  rw [getSubnet, Table.lookup_insert]

theorem requestJoinSecurity_orderly {isBackbone : Bool}
    (h : n.Orderly) (hfirst : isBackbone = true → ∀ subnet ∈ n.subnets.lookup subnetId, subnet.backbone = none)
    (hn' : n.requestJoinSecurity subnetId address16 address128 isBackbone = some n') : n'.Orderly := by
  rw [requestJoinSecurity] at hn'
  split at hn'
  · next hjoin =>
    obtain ⟨-, hlow, hhigh, hnew, hfresh⟩ := hjoin
    cases hn'
    have hshort : getAddress16 (createAddress32 subnetId address16) = address16 := getAddress16_createAddress32 hhigh
    have hsubnetId : extractSubnet (createAddress32 subnetId address16) = subnetId :=
      extractSubnet_createAddress32 hhigh
    generalize createAddress32 subnetId address16 = a at *
    have hmanager : a ≠ address16Manager := by
      rintro rfl
      rw [← hshort] at hlow
      exact absurd hlow (by decide)
    have hgateway : a ≠ address16Gateway := by
      rintro rfl
      rw [← hshort] at hlow
      exact absurd hlow (by decide)
    cases isBackbone with
    | true =>
      apply h.join ⟨a, address128, .backbone, .joinRequestReceived, 0, 0, [], [], []⟩ hnew hfresh rfl rfl
        (by simp [hmanager]) (by simp [hgateway]) (.inr (.inr (hshort.symm ▸ hlow)))
      · intro b s c hs hc
        rw [getSubnet_insert, hsubnetId]
        rw [getSubnet] at hs
        split at hs
        · cases hs
        · next hb =>
          have hother : extractSubnet b ≠ subnetId := by
            rintro rfl
            rw [hfirst rfl s hs] at hc
            cases hc
          rw [if_neg hb, if_neg hother]
          exact hs
      · intro b s c hs hc
        rw [getSubnet_insert, hsubnetId] at hs
        rw [getSubnet]
        split at hs
        · cases hs
        · next hb =>
          rw [if_neg hb]
          split at hs
          · next hsame =>
            cases hs
            cases hc
            exact .inr ⟨hsubnetId.trans hsame.symm, rfl, rfl⟩
          · exact .inl hs
      · intro _
        rw [getSubnet_insert, if_neg (not_or.mpr ⟨hgateway, hmanager⟩), if_pos rfl]
    | false =>
      apply h.join ⟨a, address128, .device, .joinRequestReceived, 0, 0, [], [], []⟩ hnew hfresh rfl rfl
        (by simp [hmanager]) (by simp [hgateway]) (.inr (.inr (hshort.symm ▸ hlow)))
      · exact fun _ _ _ hs _ => hs
      · exact fun _ _ _ hs _ => .inl hs
      · exact fun hbackbone => by cases hbackbone
  · cases hn'

/-- No other device has the 16-bit address of the device in the table. -/
def Network.NoClash (n : Network) (a b : Address32) : Prop :=
  ∀ device ∈ n.getDevice b, ∀ row ∈ n.translations a,
    row.shortAddress = getAddress16 b → row.longAddress = device.address128

instance (n : Network) (a b : Address32) : Decidable (n.NoClash a b) := inferInstanceAs (Decidable (∀ _ ∈ _, _))

theorem requestJoinSystemManager_orderly {accepted : Bool} (h : n.Orderly)
    (hclash : ∀ device ∈ n.getDevice address, device.deviceType = .device →
      ∀ subnet ∈ n.getSubnet address, ∀ c ∈ subnet.backbone, n.NoClash c address)
    (hn' : n.requestJoinSystemManager address accepted = some n') : n'.Orderly := by
  rw [requestJoinSystemManager] at hn'
  split at hn'
  · cases hn'
    exact h
  next device hdevice =>
  split at hn'
  swap
  · cases hn'
    exact h
  next hstatus =>
  have hjoined : (n.setDevice { device with status := .netJoinReceived }).Orderly := by
    apply h.status hdevice
    · intro _ _ hconfirmed
      exact absurd (hstatus.symm.trans hconfirmed) (by decide)
    · intro _ hreceived
      cases hreceived
  split at hn'
  swap
  · cases hn'
    exact hjoined
  next htype =>
  obtain ⟨subnet, hsubnet, hn'⟩ := bind_eq_some_iff.mp hn'
  split at hn'
  · cases hn'
    exact hjoined
  next brDevice hbrDevice =>
  split at hn'
  swap
  · cases hn'
    exact hjoined
  obtain ⟨t, ht, rfl⟩ := map_eq_some_iff.mp hn'
  apply Orderly.committed
  obtain ⟨c, hc, hbrDevice⟩ := bind_eq_some_iff.mp hbrDevice
  obtain rfl := h.addressed _ device hdevice
  obtain rfl := hjoined.addressed _ brDevice hbrDevice
  have hview := view_setDevice_status ⟨n, []⟩ { device with status := .netJoinReceived } hdevice rfl fun _ => rfl
  obtain ⟨-, j, hj, hbackbone⟩ := h.view.ofSubnet _ subnet _ hsubnet hc
  obtain ⟨⟨id, -, htranslation⟩, haddressed⟩ := writeAddressTranslation_some hjoined.addressed ht
  refine ⟨haddressed, ?_⟩
  rw [htranslation]
  have hrows : (view ⟨n.setDevice { device with status := .netJoinReceived }, []⟩).att =
      (view ⟨n, []⟩).att := by
    rw [hview]
  have hself : (view ⟨n.setDevice { device with status := .netJoinReceived }, []⟩).who device.address32 =
      some ⟨device.address128, device.deviceType, .netJoinReceived⟩ :=
    (congrFun (congrArg View.who hview) _).trans (Function.update_self ..)
  have hwho : (view ⟨n, []⟩).who device.address32 = some device.identity := who_of hdevice
  have hunknown := h.view.unjoined _ j hj hbackbone _ _ hwho htype hstatus
  apply hjoined.view.translate hself
  · rw [hrows]
    exact hunknown
  · rw [hrows]
    intro row hrow
    refine hclash device hdevice htype subnet hsubnet _ hc device hdevice row ?_
    exact (append_nil (n.translations _)) ▸ hrow
  · intro _ _ _ _ hmanager
    exact absurd (hmanager.symm.trans htype) (by decide)
  · intro _ _ _ _ hreceived
    cases hreceived

theorem nextHop_of_manager {manager : Device} {route : PhyNetworkRoute} (h : n.Orderly)
    (hmanager : n.getManager = some manager) (hroute : route ∈ (view ⟨n, []⟩).routes)
    (hdestination : route.destination = manager.address128) : route.nextHop = manager.address128 := by
  have hwho : (view ⟨n, []⟩).who address16Manager = some manager.identity := who_of hmanager
  rcases h.view.leads route hroute with ⟨manager', hmanager', -, hnext⟩ | ⟨b, j, subnet, c, _, hj, hto, hsubnet, -⟩
  · cases hwho.symm.trans hmanager'
    exact hnext
  · obtain rfl := h.view.distinct b address16Manager j _ hj hwho (hto.symm.trans hdestination)
    cases hsubnet

theorem createRouteToManager_orderly {manager : Device} (h : n.Orderly) (ha : n.getDevice a = some device)
    (hmanager : n.getManager = some manager) (status : DeviceStatus)
    (hbackbone : device.deviceType = .backbone → status ≠ .joinConfirmed → device.status ≠ .joinConfirmed)
    (hdevice : device.deviceType = .device → status = .joinRequestReceived → device.status = .joinRequestReceived)
    (hnew : a = address16Gateway →
      ∀ route ∈ device.networkRoutesTable, route.destination = manager.address128 → route.nextHop ≠ manager.address128)
    (hn' : n.createRouteToManager { device with status := status } manager = some n') : n'.Orderly := by
  have hstatus := h.status ha status hbackbone hdevice
  obtain ⟨id, -, rfl⟩ := map_eq_some_iff.mp hn'
  obtain rfl := h.addressed a device ha
  refine ⟨h.addressed.setDevice, ?_⟩
  have hkept := view_setDevice_status ⟨n, []⟩ { device with status := status } ha rfl fun _ => rfl
  have hstatusView := hkept ▸ hstatus.view
  generalize hdef : Device.createNetworkRoute _ _ = new
  have haddress : new.address32 = device.address32 := by rw [← hdef]; rfl
  have hidentity : new.identity = { device.identity with status := status } := by rw [← hdef]; rfl
  have htable : new.addressTranslationTable = device.addressTranslationTable := by rw [← hdef]; rfl
  have ha' : n.getDevice new.address32 = some device := by rw [haddress]; exact ha
  by_cases hgw : device.address32 = address16Gateway
  · have hroutes : (view ⟨n, []⟩).routes = device.networkRoutesTable := by
      change n.routes address16Gateway ++ [] = _
      rw [append_nil, ← hgw, routes_of ha]
    have hview : view ⟨n.setDevice new, []⟩ = View.addRoute
          { who := Function.update (view ⟨n, []⟩).who device.address32
              (some { device.identity with status := status })
            subnet := (view ⟨n, []⟩).subnet
            att := (view ⟨n, []⟩).att
            routes := device.networkRoutesTable.filter fun old => old.networkRouteID ≠ id }
          ⟨id, manager.address128, manager.address128, 64, 1⟩ := by
      refine (view_setDevice ⟨n, []⟩ new).trans ?_
      ext1
      · rw [haddress, hidentity]
        rfl
      · rfl
      · refine Function.update_eq_self_iff.mpr ?_
        change _ = n.translations new.address32 ++ _
        rw [haddress, htable, translations_of ha]
      · change (n.setDevice new).routes address16Gateway ++ [] = _
        rw [append_nil, routes_setDevice, if_pos (haddress.trans hgw).symm, ← hdef]
        rfl
    rw [hview]
    apply View.Orderly.route
    · apply hstatusView.within
      refine ⟨rfl, rfl, fun _ => Sublist.refl _, ?_⟩
      rw [hroutes]
      exact filter_sublist
    · intro old hold hdestination
      have hold := mem_of_mem_filter hold
      exact hnew hgw old hold hdestination (nextHop_of_manager h hmanager (hroutes ▸ hold) hdestination)
    · exact ⟨rfl, rfl⟩
    · have hother : address16Manager ≠ device.address32 := by
        rw [hgw]
        decide
      refine .inl ⟨manager.identity, ?_, rfl, rfl⟩
      exact (Function.update_of_ne hother _ _).trans (who_of hmanager)
  · have hview := view_setDevice_status ⟨n, []⟩ new ha' htable fun hgateway => absurd (haddress.symm.trans hgateway) hgw
    rw [haddress, hidentity] at hview
    exact hview ▸ hstatusView

theorem requestJoinContract_orderly (h : n.Orderly) (hn' : n.requestJoinContract address = some n') : n'.Orderly := by
  rw [requestJoinContract] at hn'
  split at hn'
  · cases hn'
    exact h
  next device hdevice =>
  split at hn'
  swap
  · cases hn'
    exact h
  next hstatus =>
  obtain ⟨manager, hmanager, hn'⟩ := bind_eq_some_iff.mp hn'
  have hbackbone : device.deviceType = .backbone → DeviceStatus.contractJoinReceived ≠ .joinConfirmed →
      device.status ≠ .joinConfirmed := by
    intro _ _ hconfirmed
    exact absurd (hstatus.symm.trans hconfirmed) (by decide)
  have hreceived : device.deviceType = .device → DeviceStatus.contractJoinReceived = .joinRequestReceived →
      device.status = .joinRequestReceived := by
    intro _ hreceived
    cases hreceived
  have htype := h.view.typeOfGateway address _ (who_of (t := ⟨n, []⟩) hdevice)
  dsimp only at hn'
  split at hn'
  · split at hn'
    · cases hn'
      exact h.status hdevice _ hbackbone hreceived
    · next hnew =>
      apply createRouteToManager_orderly h hdevice hmanager _ hbackbone hreceived _ hn'
      intro _ route hroute hdestination hnext
      refine hnew (any_eq_true.mpr ⟨route, hroute, ?_⟩)
      rw [decide_eq_true_iff]
      exact ⟨hdestination, hnext⟩
  · next hother =>
    apply createRouteToManager_orderly h hdevice hmanager _ hbackbone hreceived _ hn'
    intro hgateway
    exact absurd (htype.mpr hgateway) hother

theorem untouched_nil (c : Address32) : Untouched ⟨n, []⟩ c := ⟨rfl, fun _ _ _ hroute => by cases hroute⟩

theorem requestConfirmJoinGW_orderly {gwDevice : Device} (h : n.Orderly)
    (hgw : n.getDevice address16Gateway = some gwDevice) (hn' : n.requestConfirmJoinGW gwDevice = some n') :
    n'.Orderly := by
  obtain ⟨t, ht, rfl⟩ := map_eq_some_iff.mp hn'
  have hentry : ∀ entry ∈ n.subnets.entries, ∀ c, entry.2.backbone = some c →
      extractSubnet c = entry.1 ∧ ∃ i, (view ⟨n, []⟩).who c = some i ∧ i.deviceType = .backbone := by
    intro entry hentry c hc
    have hsubnetId : extractSubnet (createAddress32 entry.1 3) = entry.1 := extractSubnet_createAddress32 (by decide)
    have hsubnet : n.getSubnet (createAddress32 entry.1 3) = some entry.2 := by
      have hlow : ¬ (createAddress32 entry.1 3 = address16Gateway ∨ createAddress32 entry.1 3 = address16Manager) := by
        change ¬ ((entry.1 * 0x10000 + 3 : Nat) = 2 ∨ (entry.1 * 0x10000 + 3 : Nat) = 1)
        omega
      rw [getSubnet, if_neg hlow, hsubnetId]
      exact AList.mem_lookup_iff.mpr hentry
    obtain ⟨hsame, hwho⟩ := h.view.ofSubnet (createAddress32 entry.1 3) entry.2 c hsubnet hc
    exact ⟨hsame.trans hsubnetId, hwho⟩
  apply Orderly.committed
  apply configureSubnets_orderly h (who_of hgw) (h.addressed _ gwDevice hgw) rfl _ _ ht
  · have hkeys := nodupKeys_iff_pairwise.mp n.subnets.nodupKeys
    rw [filterMap_map]
    refine pairwise_filterMap.mpr (hkeys.imp_of_mem ?_)
    intro entry entry' hmem hmem' hne c hc c' hc' heq
    subst heq
    exact hne ((hentry entry hmem c hc).1.symm.trans (hentry entry' hmem' c hc').1)
  · intro c hc
    obtain ⟨subnet, hsubnet, hc⟩ := mem_filterMap.mp hc
    obtain ⟨entry, hmem, rfl⟩ := mem_map.mp hsubnet
    exact ⟨(hentry entry hmem c hc).2, untouched_nil c⟩

theorem requestConfirmJoin_orderly (h : n.Orderly) (hn' : n.requestConfirmJoin address = some n') : n'.Orderly := by
  rw [requestConfirmJoin] at hn'
  split at hn'
  · cases hn'
    exact h
  next device hdevice =>
  split at hn'
  swap
  · cases hn'
    exact h
  next hstatus =>
  have hconfirmed : (n.setDevice { device with status := .joinConfirmed }).Orderly := by
    apply h.status hdevice
    · intro _ hne
      exact absurd rfl hne
    · intro _ hreceived
      cases hreceived
  obtain rfl := h.addressed address device hdevice
  have hself : (n.setDevice { device with status := .joinConfirmed }).getDevice device.address32 =
      some { device with status := .joinConfirmed } := by
    rw [getDevice_setDevice, if_pos rfl]
  have htype := h.view.typeOfGateway _ _ (who_of (t := ⟨n, []⟩) hdevice)
  dsimp only at hn'
  split at hn'
  · next hgateway =>
    have haddress := htype.mp hgateway
    exact requestConfirmJoinGW_orderly hconfirmed (by rw [← hself, haddress]) hn'
  next hother =>
  split at hn'
  swap
  · cases hn'
    exact hconfirmed
  next hbackbone =>
  obtain ⟨t₁, hconfigured, hn'⟩ := bind_eq_some_iff.mp hn'
  obtain ⟨manager, hmanager, hn'⟩ := bind_eq_some_iff.mp hn'
  obtain ⟨t₂, htranslation, hn'⟩ := bind_eq_some_iff.mp hn'
  obtain ⟨t₃, hroute, rfl⟩ := map_eq_some_iff.mp hn'
  apply Orderly.committed
  have hwho : (view ⟨n.setDevice { device with status := .joinConfirmed }, []⟩).who device.address32 =
      some (Device.identity { device with status := .joinConfirmed }) := who_of hself
  have hwhoManager : (view ⟨n.setDevice { device with status := .joinConfirmed }, []⟩).who address16Manager =
      some manager.identity := who_of hmanager
  have hmanagerType := (hconfirmed.view.typeOfManager _ _ hwhoManager).mpr rfl
  have hnew : ∀ row ∈ (view ⟨n.setDevice { device with status := .joinConfirmed }, []⟩).att device.address32,
      row.longAddress ≠ manager.address128 := by
    have hnotManager : address16Manager ≠ device.address32 := by
      intro heq
      have hmanagerType := (h.view.typeOfManager _ _ (who_of (t := ⟨n, []⟩) hdevice)).mpr heq.symm
      exact absurd (hbackbone.symm.trans hmanagerType) (by decide)
    have hold : n.getDevice address16Manager = some manager := by
      rw [← hmanager, getManager, getDevice_setDevice, if_neg hnotManager]
    have hview := view_setDevice_status ⟨n, []⟩ { device with status := .joinConfirmed } hdevice rfl fun _ => rfl
    rw [hview]
    refine h.view.unconfirmed device.address32 device.identity (who_of hdevice) hbackbone ?_ manager.identity
      (who_of hold)
    intro hjoined
    exact absurd (hstatus.symm.trans hjoined) (by decide)
  have hfirst : Configures ⟨n.setDevice { device with status := .joinConfirmed }, []⟩ device.address32 t₁ ∧
      ∀ row ∈ t₁.view.att device.address32, row.longAddress ≠ manager.address128 := by
    split at hconfigured
    · cases hconfigured
      exact ⟨⟨hconfirmed, rfl, rfl, fun _ _ hu => hu⟩, hnew⟩
    next gwDevice hgw =>
    split at hconfigured
    · have hwhoGateway : (view ⟨n.setDevice { device with status := .joinConfirmed }, []⟩).who address16Gateway =
          some gwDevice.identity := who_of hgw
      obtain ⟨hconfigures, hrows⟩ := configures_gateway hconfirmed hwhoGateway (hconfirmed.addressed _ _ hgw) rfl hself
        hbackbone (untouched_nil _) hconfigured
      refine ⟨hconfigures, ?_⟩
      intro row hrow
      rcases hrows row hrow with hrow | hlong
      · exact hnew row hrow
      · intro heq
        have hsame := hconfirmed.view.distinct _ _ _ _ hwhoGateway hwhoManager (hlong.symm.trans heq)
        exact absurd hsame (by decide)
    · cases hconfigured
      exact ⟨⟨hconfirmed, rfl, rfl, fun _ _ hu => hu⟩, hnew⟩
  obtain ⟨hconfigures, hrows⟩ := hfirst
  have haddress := hconfirmed.addressed _ manager hmanager
  rw [configureATTwithManager, haddress] at htranslation
  obtain ⟨⟨id, -, hview⟩, haddressed⟩ := writeAddressTranslation_some hconfigures.orderly.addressed htranslation
  have hsecond : t₂.Orderly := by
    refine ⟨haddressed, ?_⟩
    rw [hview]
    have hwhoManager₁ : t₁.view.who address16Manager = some manager.identity := hconfigures.who ▸ hwhoManager
    apply hconfigures.orderly.view.translate hwhoManager₁ hrows
    · exact hconfigures.orderly.view.longAddress_of_low hwhoManager₁ (.inl rfl)
    · intro i hi _ hunconfirmed
      rw [hconfigures.who, hwho] at hi
      cases hi
      exact absurd rfl hunconfirmed
    · intro _ _ _ hdeviceType
      exact absurd (hdeviceType.symm.trans hmanagerType) (by decide)
  have hne : device.address32 ≠ address16Gateway := fun heq => hother (htype.mpr heq)
  exact (configures_backboneRoute hsecond hne hroute).1.orderly

end Joins

/-! ## Contracts -/

section Contracts

/-- The translation is found, or the table has neither address and no join of the two is still to write the row. -/
def Free (device peer : Device) : Prop :=
  existsATT device peer = true ∨ (∀ row ∈ device.addressTranslationTable,
      row.longAddress ≠ peer.address128 ∧ row.shortAddress ≠ getAddress16 peer.address32) ∧
    ¬ (device.deviceType = .backbone ∧ device.status ≠ .joinConfirmed ∧ peer.deviceType = .manager) ∧
    ¬ (device.deviceType = .backbone ∧ peer.deviceType = .device ∧ peer.status = .joinRequestReceived)

instance (device peer : Device) : Decidable (Free device peer) := inferInstanceAs (Decidable (_ ∨ _))

variable {t t' : Task} {device peer : Device}

structure Translated (t : Task) (device : Device) (t' : Task) : Prop where
  orderly : t'.Orderly
  who : t'.view.who = t.view.who
  subnet : t'.view.subnet = t.view.subnet
  routes : t'.view.routes = t.view.routes
  att : ∀ c, c ≠ device.address32 → t'.view.att c = t.view.att c

theorem addATT_orderly (h : t.Orderly) (hdevice : t.view.who device.address32 = some device.identity)
    (hpeer : t.view.who peer.address32 = some peer.identity)
    (htable : existsATT device peer = false → t.view.att device.address32 = device.addressTranslationTable)
    (hfree : Free device peer) (ht : t.addATT device peer = some t') : Translated t device t' := by
  rw [addATT] at ht
  by_cases hfound : existsATT device peer = true
  · rw [if_pos hfound] at ht
    cases ht
    exact ⟨h, rfl, rfl, rfl, fun _ _ => rfl⟩
  · obtain ⟨hrows, hunconfirmed, hunjoined⟩ := hfree.resolve_left hfound
    have htable := htable (Bool.eq_false_iff.mpr hfound)
    rw [if_neg hfound] at ht
    obtain ⟨⟨id, -, hview⟩, haddressed⟩ := writeAddressTranslation_some h.addressed ht
    refine ⟨⟨haddressed, ?_⟩, by rw [hview]; rfl, by rw [hview]; rfl, by rw [hview]; rfl, ?_⟩
    · rw [hview]
      apply h.view.translate hpeer
      · intro row hrow
        rw [htable] at hrow
        exact (hrows row hrow).1
      · intro row hrow heq
        rw [htable] at hrow
        exact absurd heq (hrows row hrow).2
      · intro i hi hbackbone hstatus hmanager
        cases hdevice.symm.trans hi
        exact hunconfirmed ⟨hbackbone, hstatus, hmanager⟩
      · intro i hi hbackbone hdeviceType hreceived
        cases hdevice.symm.trans hi
        exact hunjoined ⟨hbackbone, hdeviceType, hreceived⟩
    · intro c hc
      rw [hview]
      exact Function.update_of_ne hc _ _

variable {request : ContractRequest}

theorem addRouteToDevice_orderly {source dest : Device} {routed : Option Task}
    (h : t.Orderly) (hsource : source.address32 = address16Gateway)
    (hdest : t.view.who request.destinationAddress = some dest.identity)
    (hmanager : request.destinationAddress ≠ address16Manager) (hroutes : t.view.routes = source.networkRoutesTable)
    (ht : addRouteToDevice t source dest request = some routed) : ∀ t' ∈ routed, t'.Orderly := by
  rw [addRouteToDevice] at ht
  split at ht
  · split at ht
    · cases ht
    · cases ht
      exact fun _ hnone => by cases hnone
  next subnet hsubnet =>
  split at ht
  · cases ht
  next backbone hbackbone =>
  obtain ⟨c, hc, hbackbone⟩ := bind_eq_some_iff.mp hbackbone
  have hwho : t.view.who c = some backbone.identity := who_of hbackbone
  split at ht
  · cases ht
    intro t' ht'
    obtain rfl := mem_some_iff.mp ht'
    exact h
  next hnew =>
  obtain ⟨t₁, hwrite, rfl⟩ := map_eq_some_iff.mp ht
  intro t' ht'
  obtain rfl := mem_some_iff.mp ht'
  rw [hsource] at hwrite
  obtain ⟨⟨id, -, hview⟩, haddressed⟩ := writeNetworkRoute_some h.addressed hwrite
  rw [if_pos rfl] at hview
  refine ⟨haddressed, ?_⟩
  rw [hview]
  apply h.view.route
  · intro old hold hdestination
    refine hnew (any_eq_true.mpr ⟨old, hroutes ▸ hold, ?_⟩)
    rw [decide_eq_true_iff]
    refine ⟨hdestination, ?_⟩
    rcases h.view.leads old hold with ⟨manager, hmanager', hto, -⟩ | ⟨b, j, s, d, hop, hj, hto, hs, hd, hhop, hnext⟩
    · exact absurd (h.view.distinct _ _ _ _ hdest hmanager' (hdestination.symm.trans hto)) hmanager
    · obtain rfl := h.view.distinct _ _ _ _ hdest hj (hdestination.symm.trans hto)
      cases hsubnet.symm.trans hs
      cases hc.symm.trans hd
      cases hwho.symm.trans hhop
      exact hnext
  · exact ⟨rfl, rfl⟩
  · exact .inr ⟨_, _, subnet, c, _, hdest, rfl, hsubnet, hc, hwho, rfl⟩

def FreeContract (request : ContractRequest) (source dest : Device) : Prop :=
  (source.deviceType ≠ .gateway → Free source dest) ∧
    (dest.deviceType ≠ .manager → dest.deviceType ≠ .gateway → Free dest source ∧
      (source.deviceType ≠ .gateway → request.sourceAddress = request.destinationAddress →
        existsATT source dest = true))

instance (request : ContractRequest) (source dest : Device) : Decidable (FreeContract request source dest) :=
  inferInstanceAs (Decidable (_ ∧ _))

theorem requestCreateContract_orderly {n n' : Network} {refused allocated : Bool} (h : n.Orderly)
    (hfree : ∀ source ∈ n.getDevice request.sourceAddress, ∀ dest ∈ n.getDevice request.destinationAddress,
      request.sourceSAP < 0xF0B0 → request.destinationSAP < 0xF0B0 → refused = false → allocated = true →
      findContractSource2Destination source request = false → FreeContract request source dest)
    (hn' : n.requestCreateContract request refused allocated = some n') : n'.Orderly := by
  rw [requestCreateContract] at hn'
  split at hn'
  · cases hn'
    exact h
  next hsaps =>
  obtain ⟨hsourceSAP, hdestSAP⟩ := not_or.mp hsaps
  split at hn'
  swap
  · cases hn'
    exact h
  next source dest hsource hdest =>
  split at hn'
  · cases hn'
    exact h
  next hrefused =>
  split at hn'
  · cases hn'
    exact h
  next hfound =>
  split at hn'
  · cases hn'
    exact h
  next hallocated =>
  obtain ⟨hsourceFree, hdestFree⟩ := hfree source hsource dest hdest (UInt16.not_le.mp hsourceSAP)
    (UInt16.not_le.mp hdestSAP) (Bool.eq_false_iff.mpr hrefused) (by simpa using hallocated)
    (Bool.eq_false_iff.mpr hfound)
  obtain ⟨t₁, hwithSource, hn'⟩ := bind_eq_some_iff.mp hn'
  obtain ⟨t₂, hwithDest, hn'⟩ := bind_eq_some_iff.mp hn'
  have hsourceAddress := h.addressed _ source hsource
  have hdestAddress := h.addressed _ dest hdest
  have hsourceFound : n.getDevice source.address32 = some source := by
    rw [hsourceAddress]
    exact hsource
  have hdestFound : n.getDevice dest.address32 = some dest := by
    rw [hdestAddress]
    exact hdest
  generalize hcontracts : source.contractsTable ++ _ = contracts at hwithSource
  have hview := view_setDevice_same ⟨n, []⟩ { source with contractsTable := contracts } hsourceFound rfl rfl rfl
  have hinserted : Orderly ⟨n.setDevice { source with contractsTable := contracts }, []⟩ :=
    ⟨h.addressed.setDevice, hview ▸ h.view⟩
  have hwhoSource : (view ⟨n, []⟩).who source.address32 = some source.identity := who_of hsourceFound
  have hwhoDest : (view ⟨n, []⟩).who dest.address32 = some dest.identity := who_of hdestFound
  have htable : ∀ device : Device, n.getDevice device.address32 = some device →
      (view ⟨n, []⟩).att device.address32 = device.addressTranslationTable := by
    intro device hdevice
    change n.translations device.address32 ++ [] = _
    rw [append_nil, translations_of hdevice]
  have hfirst : Translated ⟨n.setDevice { source with contractsTable := contracts }, []⟩ source t₁ := by
    split at hwithSource
    · cases hwithSource
      exact ⟨hinserted, rfl, rfl, rfl, fun _ _ => rfl⟩
    · next hgateway =>
      apply addATT_orderly hinserted _ _ _ (hsourceFree hgateway) hwithSource
      · rw [hview]
        exact hwhoSource
      · rw [hview]
        exact hwhoDest
      · intro _
        rw [hview]
        exact htable source hsourceFound
  have hsecond : Translated t₁ dest t₂ := by
    split at hwithDest
    · cases hwithDest
      exact ⟨hfirst.orderly, rfl, rfl, rfl, fun _ _ => rfl⟩
    · next hother =>
      obtain ⟨hmanager, hgateway⟩ := not_or.mp hother
      obtain ⟨hpeer, hself⟩ := hdestFree hmanager hgateway
      apply addATT_orderly hfirst.orderly _ _ _ hpeer hwithDest
      · rw [hfirst.who, hview]
        exact hwhoDest
      · rw [hfirst.who, hview]
        exact hwhoSource
      · intro hmissing
        by_cases hsame : dest.address32 = source.address32
        · -- A device that has a contract with itself.
          have hdestSource : dest = source := by
            rw [hsame, hsourceFound] at hdestFound
            exact (Option.some.inj hdestFound).symm
          subst hdestSource
          rw [hself hgateway (hsourceAddress.symm.trans hdestAddress)] at hmissing
          cases hmissing
        · rw [hfirst.att _ hsame, hview]
          exact htable dest hdestFound
  split at hn'
  · next hgateway =>
    obtain ⟨routed, hrouted, rfl⟩ := map_eq_some_iff.mp hn'
    have hdestWho : t₂.view.who request.destinationAddress = some dest.identity := by
      rw [hsecond.who, hfirst.who, hview, ← hdestAddress]
      exact hwhoDest
    have hsourceGateway : source.address32 = address16Gateway :=
      (h.view.typeOfGateway _ _ hwhoSource).mp hgateway.1
    have hroutes : t₂.view.routes = source.networkRoutesTable := by
      rw [hsecond.routes, hfirst.routes, hview]
      change n.routes address16Gateway ++ [] = _
      rw [append_nil, ← hsourceGateway, routes_of hsourceFound]
    have hroutedOrderly := addRouteToDevice_orderly hsecond.orderly hsourceGateway hdestWho hgateway.2 hroutes hrouted
    cases routed with
    | none =>
      refine ⟨hsecond.orderly.addressed, hsecond.orderly.view.within ⟨rfl, rfl, fun a => ?_, ?_⟩⟩
      · exact (Sublist.refl _).append (nil_sublist _)
      · exact (Sublist.refl _).append (nil_sublist _)
    | some t₃ => exact (hroutedOrderly t₃ rfl).committed
  · cases hn'
    exact hsecond.orderly.committed

end Contracts

def Ok (n : Network) : Event → Prop
  | .joinSecurity subnetId _ _ isBackbone =>
    isBackbone = true → ∀ subnet ∈ n.subnets.lookup subnetId, subnet.backbone = none
  | .joinSystemManager address _ =>
    ∀ device ∈ n.getDevice address, device.deviceType = .device →
      ∀ subnet ∈ n.getSubnet address, ∀ c ∈ subnet.backbone, n.NoClash c address
  | .createContract request refused allocated =>
    ∀ source ∈ n.getDevice request.sourceAddress, ∀ dest ∈ n.getDevice request.destinationAddress,
      request.sourceSAP < 0xF0B0 → request.destinationSAP < 0xF0B0 → refused = false → allocated = true →
      findContractSource2Destination source request = false → FreeContract request source dest
  | _ => True

instance (n : Network) (e : Event) : Decidable (Ok n e) :=
  match e with
  | .joinSecurityGateway _ => isTrue trivial
  | .joinSecurity .. => inferInstanceAs (Decidable (_ → _))
  | .joinSystemManager .. => inferInstanceAs (Decidable (∀ _ ∈ _, _))
  | .joinContract _ => isTrue trivial
  | .confirmJoin _ => isTrue trivial
  | .createContract .. => inferInstanceAs (Decidable (∀ _ ∈ _, _))

theorem Network.Orderly.step {n n' : Network} {e : Event} (h : n.Orderly) (hok : Ok n e) (hn' : step n e = some n') :
    n'.Orderly := by
  cases e with
  | joinSecurityGateway address128 => exact requestJoinSecurityGateway_orderly h hn'
  | joinSecurity subnetId address16 address128 isBackbone => exact requestJoinSecurity_orderly h hok hn'
  | joinSystemManager address accepted => exact requestJoinSystemManager_orderly h hok hn'
  | joinContract address => exact requestJoinContract_orderly h hn'
  | confirmJoin address => exact requestConfirmJoin_orderly h hn'
  | createContract request refused allocated => exact requestCreateContract_orderly h hok hn'

theorem subnets_init (subnetIds : List Nat) (subnetId : Nat) (subnet : Subnet)
    (h : (subnetIds.foldr (fun subnetId subnets => subnets.insert subnetId ⟨none⟩)
      (∅ : AList fun _ : Nat => Subnet)).lookup subnetId = some subnet) : subnet.backbone = none := by
  induction subnetIds with
  | nil => cases h
  | cons first subnetIds ih =>
    rw [foldr_cons, Table.lookup_insert] at h
    split at h
    · cases h
      rfl
    · exact ih h

theorem orderly_init (address128 : Address128) (subnetIds : List Nat) : (init address128 subnetIds).Orderly := by
  have hdevice : ∀ a device, (init address128 subnetIds).getDevice a = some device → a = address16Manager ∧
      device = ⟨address16Manager, address128, .manager, .joinConfirmed, 0, 0, [], [], []⟩ := by
    intro a device hdevice
    have hmem := AList.mem_lookup_iff.mp hdevice
    cases mem_singleton.mp hmem
    exact ⟨rfl, rfl⟩
  have hwho : ∀ a i, (view ⟨init address128 subnetIds, []⟩).who a = some i → a = address16Manager ∧
      i = ⟨address128, .manager, .joinConfirmed⟩ := by
    intro a i hi
    obtain ⟨device, hfound, rfl⟩ := map_eq_some_iff.mp hi
    obtain ⟨rfl, rfl⟩ := hdevice a device hfound
    exact ⟨rfl, rfl⟩
  have hsubnets : ∀ a subnet, (init address128 subnetIds).getSubnet a = some subnet → subnet.backbone = none := by
    intro a subnet hsubnet
    rw [getSubnet] at hsubnet
    split at hsubnet
    · cases hsubnet
    · exact subnets_init subnetIds _ subnet hsubnet
  have hatt : ∀ a, (view ⟨init address128 subnetIds, []⟩).att a = [] := by
    intro a
    change translations _ a ++ [] = []
    rw [append_nil, translations]
    cases hfound : (init address128 subnetIds).getDevice a with
    | none => rfl
    | some device =>
      obtain ⟨-, rfl⟩ := hdevice a device hfound
      rfl
  refine ⟨fun a device hfound => ?_, ⟨⟨_, rfl⟩, ?_, ?_, ?_, ?_, ?_, ?_, ?_, ?_, ?_, ?_, ?_, .nil, ?_, ?_⟩⟩
  · obtain ⟨rfl, rfl⟩ := hdevice a device hfound
    rfl
  · exact fun a b i j hi hj _ => (hwho a i hi).1.trans (hwho b j hj).1.symm
  · intro a i hi
    obtain ⟨rfl, rfl⟩ := hwho a i hi
    exact ⟨fun _ => rfl, fun _ => rfl⟩
  · intro a i hi
    obtain ⟨rfl, rfl⟩ := hwho a i hi
    exact ⟨fun hgateway => (by cases hgateway), fun heq => absurd heq (by decide)⟩
  · exact fun a i hi => .inl (hwho a i hi).1
  · intro a i hi hbackbone
    obtain ⟨-, rfl⟩ := hwho a i hi
    cases hbackbone
  · intro a subnet c hsubnet hc
    rw [hsubnets a subnet hsubnet] at hc
    cases hc
  · intro a
    rw [hatt]
    exact .nil
  · intro a
    rw [hatt]
    exact .nil
  · intro a row hrow
    rw [hatt] at hrow
    cases hrow
  · intro a i hi hbackbone
    obtain ⟨-, rfl⟩ := hwho a i hi
    cases hbackbone
  · intro a i hi hbackbone
    obtain ⟨-, rfl⟩ := hwho a i hi
    cases hbackbone
  · exact fun route hroute => by cases hroute
  · exact fun route hroute => by cases hroute

/-- Every device has one translation for a device, with its current 16-bit address, and the gateway one route. -/
structure Network.Unduplicated (n : Network) : Prop where
  longs : ∀ a, ((n.translations a).map PhyAddressTranslation.longAddress).Nodup
  shorts : ∀ a, ((n.translations a).map PhyAddressTranslation.shortAddress).Nodup
  current : ∀ a, ∀ row ∈ n.translations a, ∃ b device, n.getDevice b = some device ∧
    row.longAddress = device.address128 ∧ row.shortAddress = getAddress16 b
  routes : ((n.routes address16Gateway).map PhyNetworkRoute.destination).Nodup

theorem Network.Orderly.unduplicated {n : Network} (h : n.Orderly) : n.Unduplicated := by
  have hatt : ∀ a, (view ⟨n, []⟩).att a = n.translations a := fun a => append_nil _
  have hroutes : (view ⟨n, []⟩).routes = n.routes address16Gateway := append_nil _
  refine ⟨fun a => hatt a ▸ h.view.longs a, fun a => hatt a ▸ h.view.shorts a, ?_, hroutes ▸ h.view.destinations⟩
  intro a row hrow
  obtain ⟨b, i, hi, hlong, hshort⟩ := h.view.translates a row (hatt a ▸ hrow)
  obtain ⟨device, hdevice, rfl⟩ := map_eq_some_iff.mp hi
  exact ⟨b, device, hdevice, hlong, hshort⟩

/-- Over every run of joins and contracts that write no translation twice, no table has a duplicate. -/
theorem tables_unduplicated {address128 : Address128} {subnetIds : List Nat} {n : Network}
    (h : Machine.Reaches (init address128 subnetIds) step Ok n) : n.Unduplicated :=
  (h.invariant (orderly_init address128 subnetIds) fun _ _ _ horderly hok hnext => horderly.step hok hnext).unduplicated

def sampleJoins : List Event :=
  [.joinSecurity 1 3 0x300 true, .joinSystemManager 0x10003 true, .joinContract 0x10003, .confirmJoin 0x10003,
    .joinSecurityGateway 0x200, .joinSystemManager 2 true, .joinContract 2, .confirmJoin 2,
    .joinSecurity 1 4 0x400 false, .joinSystemManager 0x10004 true, .joinContract 0x10004, .confirmJoin 0x10004,
    .joinSecurity 1 5 0x500 false, .joinSystemManager 0x10005 true, .joinContract 0x10005, .confirmJoin 0x10005]

def sampleContract (contractRequestId : UInt16) : Event :=
  .createContract ⟨contractRequestId, 0x10004, 0xF0A1, 0x10005, 0xF0A1, .nonPeriodic⟩ false true

theorem tables_unduplicated_sample :
    ∃ n ∈ Machine.runs step (init 0x100 [1]) (sampleJoins ++ [sampleContract 1]), n.Unduplicated ∧
      (n.translations 0x10004).map PhyAddressTranslation.longAddress = [0x500] := by
  have hok : Machine.AllAlong Ok step (init 0x100 [1]) (sampleJoins ++ [sampleContract 1]) := by
    decide +kernel
  obtain ⟨n, hn, hrows⟩ : ∃ n ∈ Machine.runs step (init 0x100 [1]) (sampleJoins ++ [sampleContract 1]),
      (n.translations 0x10004).map PhyAddressTranslation.longAddress = [0x500] := by
    decide +kernel
  exact ⟨n, hn, tables_unduplicated (Machine.reaches_runs hok hn), hrows⟩

/-- A second contract between the devices writes the translations again. -/
theorem contracts_duplicate : ¬ ∀ (address128 : Address128) (subnetIds : List Nat) (events : List Event) (n : Network),
    Machine.runs step (init address128 subnetIds) events = some n → n.Unduplicated := by
  intro hall
  obtain ⟨n, hn, hrows⟩ : ∃ n ∈ Machine.runs step (init 0x100 [1])
      (sampleJoins ++ [sampleContract 1, sampleContract 2]),
      (n.translations 0x10004).map PhyAddressTranslation.longAddress = [0x500, 0x500] := by
    decide +kernel
  have hnodup := (hall _ _ _ n hn).longs 0x10004
  rw [hrows] at hnodup
  exact absurd hnodup (by decide)

end Isa100Gateway.AddressTables
