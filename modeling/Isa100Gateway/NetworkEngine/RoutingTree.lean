import Isa100Gateway.NetworkEngine.ParentTree
import Isa100Gateway.NetworkEngine.ParentChange

/-!
# The routing tree under changes of parents

Where every device but the backbone and the gateway has its parent as its preferred exit, the chains of parents are paths of the inbound graph, so that an acyclic graph keeps them a tree. A change of parents keeps this up exactly if the new parent does not lead to the device in the graph and all other devices are in step with the graph; the walks along the clock sources do not see to it.
-/

open Relation

namespace Isa100Gateway.NetworkEngine

open Chains FirstFit

namespace Subnet

def hangsOn (s : Subnet) (a : Address16) : Option Address16 := (s.getDevice a).map Device.parent

def InStepAt (s : Subnet) (backbone a : Address16) : Prop :=
  a ≠ backbone → a ≠ addressGateway → ∀ p, s.hangsOn a = some p → ∃ e, s.graphEdges.find a = some e ∧ e.prefered = p

structure WellRouted (s : Subnet) (backbone : Address16) : Prop where
  tree : s.ParentTree backbone
  acyclic : Acyclic (Exits s.graphEdges.find)
  inStep : ∀ a, s.InStepAt backbone a

variable {s s' : Subnet} {backbone : Address16} {radio : RadioState}

theorem isSome_hangsOn (a : Address16) : (s.hangsOn a).isSome = (s.getDevice a).isSome := Option.isSome_map

variable {a p : Address16}

theorem parentOf_of_hangsOn (h : s.hangsOn a = some p) :
    s.parentOf a = if (s.getDevice p).isSome then some p else none := by
  obtain ⟨device, hdevice, rfl⟩ := Option.map_eq_some_iff.mp h
  unfold parentOf
  rw [hdevice, Option.bind_some]

theorem hangsOn_of_parentOf (h : s.parentOf a = some p) : s.hangsOn a = some p ∧ (s.getDevice p).isSome := by
  obtain ⟨device, hdevice, hp⟩ := Option.bind_eq_some_iff.mp h
  by_cases hparent : (s.getDevice device.parent).isSome
  · rw [if_pos hparent] at hp
    cases hp
    unfold hangsOn
    rw [hdevice]
    exact ⟨rfl, hparent⟩
  · rw [if_neg hparent] at hp
    cases hp

theorem ParentTree.hangs (h : s.ParentTree backbone) (hp : s.hangsOn a = some p)
    (hbackbone : a ≠ backbone) (hgateway : a ≠ addressGateway) :
    (s.getDevice p).isSome ∧ (p = addressGateway → backbone = addressGateway) := by
  have hdevice : (s.getDevice a).isSome := by
    rw [← isSome_hangsOn, hp]
    rfl
  obtain ⟨n, hn⟩ := h.leads a hdevice hgateway
  obtain _ | n := n
  · exact absurd (Option.some.inj hn) hbackbone
  have hlink := parentOf_of_hangsOn hp
  by_cases hparent : (s.getDevice p).isSome
  · refine ⟨hparent, ?_⟩
    rintro rfl
    rw [if_pos hparent] at hlink
    rw [climb_succ_of_link hlink] at hn
    obtain _ | n := n
    · exact (Option.some.inj hn).symm
    · rw [climb_succ_of_end h.gateway] at hn
      cases hn
  · rw [if_neg hparent] at hlink
    rw [climb_succ_of_end hlink] at hn
    cases hn

/-- The chains of parents are paths of the graph, so they end, and they can only end at the backbone. -/
theorem parentTree_of_inStep (hbackbone : s.backbone = some backbone) (hdevice : (s.getDevice backbone).isSome)
    (hroot : s.parentOf backbone = none) (hgateway : s.parentOf addressGateway = none)
    (hacyclic : Acyclic (Exits s.graphEdges.find)) (hinStep : ∀ a, s.InStepAt backbone a)
    (hhangs : ∀ a p, s.hangsOn a = some p → a ≠ backbone → a ≠ addressGateway →
      (s.getDevice p).isSome ∧ (p = addressGateway → backbone = addressGateway)) : s.ParentTree backbone := by
  have hexit : ∀ a b, s.parentOf a = some b → Exits s.graphEdges.find a b := by
    intro a b hlink
    obtain ⟨hb, hparent⟩ := hangsOn_of_parentOf hlink
    obtain ⟨e, he, rfl⟩ := hinStep a (by rintro rfl; rw [hroot] at hlink; cases hlink)
      (by rintro rfl; rw [hgateway] at hlink; cases hlink) b hb
    exact ⟨e, he, .inl ⟨ne_zero_of_isSome hparent, rfl⟩⟩
  have hend : ∀ a, climb s.parentOf s.pathFuel a = none := by
    refine climb_eq_none_of_card_lt (s := s.subnetNodes.keys.toFinset) ?_ ?_ s.card_keys_lt_pathFuel
    · intro a ha
      obtain ⟨b, hb⟩ := Option.isSome_iff_exists.mp ha
      rw [List.mem_toFinset, OrderedMap.mem_keys]
      change (s.getDevice a).isSome
      rw [← isSome_hangsOn, (hangsOn_of_parentOf hb).1]
      rfl
    · exact fun a k hk hloop => hacyclic a (TransGen.mono hexit a a (transGen_of_climb hk hloop))
  have hleads : ∀ n a, climb s.parentOf n a = none → (s.getDevice a).isSome → a ≠ addressGateway →
      ∃ k, climb s.parentOf k a = some backbone := by
    intro n
    induction n with
    | zero => exact fun a hnone => nomatch hnone
    | succ n ih =>
      intro a hnone hnode hne
      by_cases heq : a = backbone
      · exact ⟨0, congrArg some heq⟩
      rw [← isSome_hangsOn] at hnode
      obtain ⟨p, hp⟩ := Option.isSome_iff_exists.mp hnode
      obtain ⟨hparent, hnot⟩ := hhangs a p hp heq hne
      have hlink := parentOf_of_hangsOn hp
      rw [if_pos hparent] at hlink
      by_cases hgate : p = addressGateway
      · refine ⟨1, ?_⟩
        rw [climb_succ_of_link hlink, hnot hgate, hgate]
        rfl
      · rw [climb_succ_of_link hlink] at hnone
        obtain ⟨k, hk⟩ := ih p hnone hparent hgate
        exact ⟨k + 1, (climb_succ_of_link hlink k).trans hk⟩
  exact ⟨hbackbone, hdevice, hroot, hgateway, fun a hnode hne => hleads _ a (hend a) hnode hne⟩

theorem getDevice_updateDevice (a b : Address16) (f : Device → Device) :
    (s.updateDevice a f).getDevice b = if a = b then (s.getDevice b).map f else s.getDevice b := by
  unfold updateDevice
  split
  · next hnone =>
    by_cases heq : a = b
    · rw [if_pos heq, ← heq, hnone]
      rfl
    · rw [if_neg heq]
  · next device hdevice =>
    unfold getDevice
    rw [OrderedMap.find_set]
    by_cases heq : a = b
    · rw [if_pos heq, if_pos heq, ← heq]
      unfold getDevice at hdevice
      rw [hdevice]
      rfl
    · rw [if_neg heq, if_neg heq]

@[simp]
theorem graphEdges_updateDevice (a : Address16) (f : Device → Device) :
    (s.updateDevice a f).graphEdges = s.graphEdges := by
  unfold updateDevice
  split <;> rfl

@[simp]
theorem backbone_updateDevice (a : Address16) (f : Device → Device) : (s.updateDevice a f).backbone = s.backbone := by
  unfold updateDevice
  split <;> rfl

theorem hangsOn_updateDevice {f : Device → Device} (hf : ∀ device, (f device).parent = device.parent) (a : Address16) :
    (s.updateDevice a f).hangsOn = s.hangsOn := by
  funext b
  unfold hangsOn
  rw [getDevice_updateDevice]
  by_cases heq : a = b
  · rw [if_pos heq, Option.map_map]
    exact congrArg (fun g => (s.getDevice b).map g) (funext hf)
  · rw [if_neg heq]

theorem hangsOn_setParent (b : Address16) (ha : (s.getDevice a).isSome) :
    (s.updateDevice a (Device.setParent p)).hangsOn b = if a = b then some p else s.hangsOn b := by
  unfold hangsOn
  rw [getDevice_updateDevice]
  by_cases heq : a = b
  · rw [if_pos heq, if_pos heq, Option.map_map, ← heq]
    obtain ⟨device, hdevice⟩ := Option.isSome_iff_exists.mp ha
    rw [hdevice]
    rfl
  · rw [if_neg heq, if_neg heq]

@[simp]
theorem hangsOn_updateDevice_deleteCandidate (a c : Address16) :
    (s.updateDevice a (Device.deleteCandidate c)).hangsOn = s.hangsOn :=
  hangsOn_updateDevice (f := Device.deleteCandidate c) (fun _ => rfl) a

@[simp]
theorem hangsOn_updateDevice_addBadRateCandidate (a c : Address16) :
    (s.updateDevice a (Device.addBadRateCandidate c)).hangsOn = s.hangsOn :=
  hangsOn_updateDevice (f := Device.addBadRateCandidate c) (fun _ => rfl) a

@[simp]
theorem hangsOn_addBadRateCandidate (a b : Address16) : (s.addBadRateCandidate a b).hangsOn = s.hangsOn := by
  unfold addBadRateCandidate
  split <;> simp

@[simp]
theorem graphEdges_addBadRateCandidate (a b : Address16) : (s.addBadRateCandidate a b).graphEdges = s.graphEdges := by
  unfold addBadRateCandidate
  split <;> simp

@[simp]
theorem backbone_addBadRateCandidate (a b : Address16) : (s.addBadRateCandidate a b).backbone = s.backbone := by
  unfold addBadRateCandidate
  split <;> simp

theorem isSome_getDevice_congr (h : ∀ a, (s'.hangsOn a).isSome = (s.hangsOn a).isSome) (a : Address16) :
    (s'.getDevice a).isSome = (s.getDevice a).isSome := by
  rw [← isSome_hangsOn, ← isSome_hangsOn, h]

/-- A device may hang on another one: it is neither the backbone nor the gateway, and no path of the graph leads from a new parent that is not its backup to it. -/
structure MayHangOn (s : Subnet) (backbone device newParent : Address16) : Prop where
  ne_backbone : device ≠ backbone
  ne_gateway : device ≠ addressGateway
  parent : newParent = addressGateway → backbone = addressGateway
  apart : newParent ≠ s.getBackupFor device → ¬ReflTransGen (Exits s.graphEdges.find) newParent device

/-- The backup is an exit of the device, so that no path leads back from it. -/
theorem apart_of_backup (hacyclic : Acyclic (Exits s.graphEdges.find))
    (hbackup : (s.getDevice (s.getBackupFor a)).isSome) :
    ¬ReflTransGen (Exits s.graphEdges.find) (s.getBackupFor a) a := by
  intro hpath
  have hne := ne_zero_of_isSome hbackup
  unfold getBackupFor at hne hpath
  rcases hfind : s.graphEdges.find a with _ | destinations
  · rw [hfind] at hne
    exact hne rfl
  · rw [hfind] at hne hpath
    exact hacyclic a (.head' ⟨destinations, hfind, .inr ⟨hne, rfl⟩⟩ hpath)

def redirected (s : Subnet) (device oldParent newParent : Address16) : Subnet :=
  ((((s.updateDevice device (Device.setParent newParent)).updateDevice device
    (Device.deleteCandidate newParent)).updateDevice newParent (Device.deleteCandidate device)).addBadRateCandidate
    device oldParent).setDeviceDestination device ⟨newParent, 0⟩

variable {d o p : Address16}

theorem hangsOn_redirected (hd : (s.getDevice d).isSome) (b : Address16) :
    (s.redirected d o p).hangsOn b = if d = b then some p else s.hangsOn b := by
  unfold redirected
  change (((((s.updateDevice d (Device.setParent p)).updateDevice d (Device.deleteCandidate p)).updateDevice p
    (Device.deleteCandidate d)).addBadRateCandidate d o)).hangsOn b = _
  rw [hangsOn_addBadRateCandidate, hangsOn_updateDevice_deleteCandidate, hangsOn_updateDevice_deleteCandidate,
    hangsOn_setParent b hd]

theorem find_redirected (b : Address16) :
    (s.redirected d o p).graphEdges.find b = if d = b then some ⟨p, 0⟩ else s.graphEdges.find b := by
  unfold redirected setDeviceDestination
  rw [graphEdges_addBadRateCandidate, graphEdges_updateDevice, graphEdges_updateDevice, graphEdges_updateDevice,
    OrderedMap.find_set]

theorem backbone_redirected : (s.redirected d o p).backbone = s.backbone := by
  unfold redirected setDeviceDestination
  simp

theorem isSome_getDevice_redirected (hd : (s.getDevice d).isSome) (b : Address16) :
    ((s.redirected d o p).getDevice b).isSome = (s.getDevice b).isSome := by
  refine isSome_getDevice_congr (fun b => ?_) b
  rw [hangsOn_redirected hd]
  by_cases heq : d = b
  · rw [if_pos heq, ← heq, isSome_hangsOn, hd]
    rfl
  · rw [if_neg heq]

theorem parentOf_redirected (hd : (s.getDevice d).isSome) (hp : (s.getDevice p).isSome) (b : Address16) :
    (s.redirected d o p).parentOf b = if d = b then some p else s.parentOf b := by
  have hsome := isSome_getDevice_redirected (o := o) (p := p) hd
  by_cases heq : d = b
  · subst heq
    rw [if_pos rfl, parentOf_of_hangsOn (p := p) (by rw [hangsOn_redirected hd, if_pos rfl]), hsome, if_pos hp]
  · rw [if_neg heq]
    rcases hhangs : s.hangsOn b with _ | q
    · have hnone : ∀ s : Subnet, s.hangsOn b = none → s.parentOf b = none := by
        intro s hnone
        unfold parentOf
        rw [Option.map_eq_none_iff.mp hnone]
        rfl
      rw [hnone s hhangs, hnone]
      rw [hangsOn_redirected hd, if_neg heq, hhangs]
    · rw [parentOf_of_hangsOn hhangs, parentOf_of_hangsOn (p := q), hsome]
      rw [hangsOn_redirected hd, if_neg heq, hhangs]

theorem exits_redirected {a b : Address16} (h : Exits (s.redirected d o p).graphEdges.find a b) :
    withEdge (Exits s.graphEdges.find) d p a b := by
  obtain ⟨e, he, hb⟩ := h
  rw [find_redirected] at he
  by_cases heq : d = a
  · rw [if_pos heq] at he
    cases he
    exact .inr ⟨heq.symm, hb.elim And.right fun hzero => absurd rfl hzero.1⟩
  · rw [if_neg heq] at he
    exact .inl ⟨e, he, hb⟩

theorem mayHangOn_of_redirected (hd : (s.getDevice d).isSome) (hp : (s.getDevice p).isSome)
    (h : (s.redirected d o p).WellRouted backbone) : s.MayHangOn backbone d p := by
  have hhangs : (s.redirected d o p).hangsOn d = some p := by rw [hangsOn_redirected hd, if_pos rfl]
  have hparent : (s.redirected d o p).parentOf d = some p := by rw [parentOf_redirected hd hp, if_pos rfl]
  have hbackbone : d ≠ backbone := by
    rintro rfl
    cases h.tree.root.symm.trans hparent
  have hgateway : d ≠ addressGateway := by
    rintro rfl
    cases h.tree.gateway.symm.trans hparent
  refine ⟨hbackbone, hgateway, (h.tree.hangs hhangs hbackbone hgateway).2, fun _ hpath => ?_⟩
  -- the path still stands up to the device, and its new exit closes it
  have hstill : ReflTransGen (Exits (s.redirected d o p).graphEdges.find) p d := by
    refine reflTransGen_of_agree (fun a b ha hedge => ?_) hpath
    obtain ⟨e, he, hb⟩ := hedge
    exact ⟨e, by rw [find_redirected, if_neg ha.symm, he], hb⟩
  refine h.acyclic d (TransGen.head' ⟨⟨p, 0⟩, ?_, .inl ⟨ne_zero_of_isSome hp, rfl⟩⟩ hstill)
  rw [find_redirected, if_pos rfl]

/-- A redirection keeps the subnet well routed if and only if the device may hang on its new parent and all others are in step. -/
theorem wellRouted_redirected (htree : s.ParentTree backbone) (hacyclic : Acyclic (Exits s.graphEdges.find))
    (hd : (s.getDevice d).isSome) (hp : (s.getDevice p).isSome) :
    (s.redirected d o p).WellRouted backbone ↔ s.MayHangOn backbone d p ∧ ∀ a, a ≠ d → s.InStepAt backbone a := by
  have hsame : ∀ a, a ≠ d → ((s.redirected d o p).InStepAt backbone a ↔ s.InStepAt backbone a) := by
    intro a ha
    unfold InStepAt
    rw [hangsOn_redirected hd, if_neg ha.symm, find_redirected, if_neg ha.symm]
  constructor
  · exact fun h => ⟨mayHangOn_of_redirected hd hp h, fun a ha => (hsame a ha).mp (h.inStep a)⟩
  · rintro ⟨hmay, hothers⟩
    have hapart : ¬ReflTransGen (Exits s.graphEdges.find) p d := by
      by_cases hbackup : p = s.getBackupFor d
      · rw [hbackup] at hp ⊢
        exact apart_of_backup hacyclic hp
      · exact hmay.apart hbackup
    have hacyclic' : Acyclic (Exits (s.redirected d o p).graphEdges.find) :=
      (hacyclic.withEdge hapart).mono fun a b => exits_redirected
    have hinStep : ∀ a, (s.redirected d o p).InStepAt backbone a := by
      intro a
      by_cases heq : a = d
      · subst heq
        intro _ _ q hq
        rw [hangsOn_redirected hd, if_pos rfl] at hq
        exact ⟨⟨p, 0⟩, by rw [find_redirected, if_pos rfl], Option.some.inj hq⟩
      · exact (hsame a heq).mpr (hothers a heq)
    refine ⟨parentTree_of_inStep ?_ ?_ ?_ ?_ hacyclic' hinStep ?_, hacyclic', hinStep⟩
    · rw [backbone_redirected]
      exact htree.isBackbone
    · rw [isSome_getDevice_redirected hd]
      exact htree.device
    · rw [parentOf_redirected hd hp, if_neg hmay.ne_backbone]
      exact htree.root
    · rw [parentOf_redirected hd hp, if_neg hmay.ne_gateway]
      exact htree.gateway
    · intro a q hq hbackbone hgateway
      rw [isSome_getDevice_redirected hd]
      rw [hangsOn_redirected hd] at hq
      by_cases heq : d = a
      · rw [if_pos heq] at hq
        cases hq
        exact ⟨hp, hmay.parent⟩
      · rw [if_neg heq] at hq
        exact htree.hangs hq hbackbone hgateway

end Subnet

end Isa100Gateway.NetworkEngine
