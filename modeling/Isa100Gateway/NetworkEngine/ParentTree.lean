import Isa100Gateway.NetworkEngine.Subnet

/-!
# The tree of parents and the exits of the inbound graph

Every device goes up to the backbone along its parents, and the exits of the graph are the edges whose cycles are to be excluded.
-/

open Relation

namespace Isa100Gateway.NetworkEngine

open Chains List OrderedMap

def Exits (exits : Address16 → Option DoubleExitDestinations) (a b : Address16) : Prop :=
  ∃ d, exits a = some d ∧ (d.prefered ≠ 0 ∧ b = d.prefered ∨ d.backup ≠ 0 ∧ b = d.backup)

namespace Subnet

variable {s : Subnet} {backbone : Address16}

/-- The parents form a tree under the backbone; the manager is no device of the subnet, and the gateway hangs on the manager. -/
structure ParentTree (s : Subnet) (backbone : Address16) : Prop where
  isBackbone : s.backbone = some backbone
  device : (s.getDevice backbone).isSome
  root : s.parentOf backbone = none
  gateway : s.parentOf addressGateway = none
  leads : ∀ a, (s.getDevice a).isSome → a ≠ addressGateway → ∃ n, climb s.parentOf n a = some backbone

theorem card_keys_lt_pathFuel (s : Subnet) : s.subnetNodes.keys.toFinset.card < s.pathFuel := by
  calc s.subnetNodes.keys.toFinset.card
    _ ≤ s.subnetNodes.keys.length := toFinset_card_le _
    _ = s.subnetNodes.entries.length := length_map ..
    _ < s.pathFuel := Nat.lt_succ_self _

variable {a : Address16}

theorem ParentTree.no_cycle (h : s.ParentTree backbone) {k : Nat} (hk : 0 < k) : climb s.parentOf k a ≠ some a := by
  have hend : ∀ a, s.parentOf a = none → climb s.parentOf k a ≠ some a := by
    intro a ha hloop
    obtain ⟨k, rfl⟩ : ∃ k', k = k' + 1 := ⟨k - 1, by omega⟩
    rw [climb_succ_of_end ha] at hloop
    cases hloop
  by_cases hgateway : a = addressGateway
  · exact hend a (hgateway ▸ h.gateway)
  · rcases hdevice : s.getDevice a with _ | device
    · exact hend a (by unfold parentOf; rw [hdevice]; rfl)
    · obtain ⟨n, hn⟩ := h.leads a (by rw [hdevice]; rfl) hgateway
      exact climb_ne_self_of_end hn h.root hk

theorem ParentTree.climb_pathFuel (h : s.ParentTree backbone) (a : Address16) :
    climb s.parentOf s.pathFuel a = none := by
  refine climb_eq_none_of_card_lt (s := s.subnetNodes.keys.toFinset) ?_ (fun a k hk => h.no_cycle hk)
    s.card_keys_lt_pathFuel a
  intro a ha
  rw [List.mem_toFinset, OrderedMap.mem_keys]
  change (s.getDevice a).isSome
  rcases hdevice : s.getDevice a with _ | device
  · unfold parentOf at ha
    rw [hdevice] at ha
    cases ha
  · rfl

end Subnet

/-! Subnets of routers under the backbone 10. -/

def router (parent : Address16) (neighbors candidates : List Address16) : Device :=
  ⟨parent, .joinedAndConfigured, true, false, candidates, [], neighbors⟩

def subnetOf (devices : List (Address16 × Device)) (graphEdges : DoubleExitEdges)
    (h : findEntry devices 0 = none) (hsorted : devices.Pairwise fun a b => a.1 < b.1) : Subnet where
  subnetNodes := ⟨devices, hsorted⟩
  backbone := some 10
  subnetEdges _ _ := true
  graphEdges := graphEdges
  hasSpaceFor _ _ := true
  nodes_ne_zero := h

theorem parentTree_of_forall {s : Subnet} (hbackbone : s.backbone = some 10) (hroot : s.parentOf 10 = none)
    (hdevice : (s.getDevice 10).isSome) (hgateway : s.parentOf addressGateway = none) {n : Nat}
    (hleads : ∀ a ∈ s.subnetNodes.keys, a ≠ addressGateway → ∃ k < n, climb s.parentOf k a = some 10) :
    s.ParentTree 10 where
  isBackbone := hbackbone
  device := hdevice
  root := hroot
  gateway := hgateway
  leads a ha hne := by
    obtain ⟨k, -, hk⟩ := hleads a (mem_keys.mpr ha) hne
    exact ⟨k, hk⟩

def freshSubnet : Subnet :=
  subnetOf [(2, ⟨1, .other, false, false, [], [], []⟩), (10, ⟨1, .joinedAndConfigured, false, true, [], [], [11, 12]⟩),
      (11, router 10 [10, 13] []), (12, router 10 [10] []), (13, router 11 [11] [12])]
    ⟨[(11, ⟨10, 0⟩), (12, ⟨10, 0⟩), (13, ⟨11, 0⟩)], by decide⟩ (by decide) (by decide)

theorem acyclic_of_entries {edges : DoubleExitEdges} (level : Address16 → Nat)
    (h : ∀ e ∈ edges.entries, level e.2.prefered < level e.1 ∧ (e.2.backup ≠ 0 → level e.2.backup < level e.1)) :
    Acyclic (Exits edges.find) := by
  refine Acyclic.of_level level ?_
  rintro a b ⟨d, hd, ⟨-, rfl⟩ | ⟨hb, rfl⟩⟩
  · exact (h (a, d) (mem_entries.mpr hd)).1
  · exact (h (a, d) (mem_entries.mpr hd)).2 hb

end Isa100Gateway.NetworkEngine
