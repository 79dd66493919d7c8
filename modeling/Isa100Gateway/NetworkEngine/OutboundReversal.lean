import Isa100Gateway.Lib.Explore
import Isa100Gateway.NetworkEngine.Outbound
import Isa100Gateway.NetworkEngine.ParentTree

/-!
# Reversed edges

The first search visits what the destination reaches and puts every visited device on the lists of its exits, so that the list of a device holds the devices that lead to it. The backup of the destination is visited a second time where the preferred exit leads to it, and is then twice on the lists of its exits.
-/

open Relation

namespace Isa100Gateway.NetworkEngine

open Chains Explore List

namespace Subnet

variable (s : Subnet)

def Link (a b : Address16) : Prop := Exits s.graphEdges.find a b ∧ (s.getDevice a).isSome ∧ (s.getDevice b).isSome

def copies (a b : Address16) : Nat :=
  (s.graphEdges.find a).elim 0 fun exits =>
    (if exits.prefered ≠ 0 ∧ exits.prefered = b then 1 else 0) + if exits.backup ≠ 0 ∧ exits.backup = b then 1 else 0

def devices : Finset Address16 := s.subnetNodes.keys.toFinset

variable {s : Subnet}

theorem mem_devices {a : Address16} : a ∈ s.devices ↔ (s.getDevice a).isSome :=
  mem_toFinset.trans OrderedMap.mem_keys

theorem remaining_lt_searchFuel (visited : List Address16) : remaining s.devices visited + 1 < s.searchFuel := by
  have hcard := s.card_keys_lt_pathFuel
  have hle := remaining_le_card s.devices visited
  unfold searchFuel
  unfold pathFuel at hcard
  unfold devices at hle ⊢
  omega

theorem copies_pos {a b : Address16} : 0 < s.copies a b ↔ Exits s.graphEdges.find a b := by
  unfold copies Exits
  rcases s.graphEdges.find a with _ | exits
  · exact Iff.intro (fun h => absurd h (Nat.lt_irrefl 0)) fun ⟨_, h, _⟩ => nomatch h
  · change 0 < _ + _ ↔ _
    constructor
    · intro h
      obtain hpos | hpos := Nat.add_pos_iff_pos_or_pos.mp h
      · split_ifs at hpos with hprefered
        · exact ⟨exits, rfl, .inl ⟨hprefered.1, hprefered.2.symm⟩⟩
        · exact absurd hpos (Nat.lt_irrefl 0)
      · split_ifs at hpos with hbackup
        · exact ⟨exits, rfl, .inr ⟨hbackup.1, hbackup.2.symm⟩⟩
        · exact absurd hpos (Nat.lt_irrefl 0)
    · rintro ⟨d, hd, hb⟩
      cases hd
      obtain ⟨hne, rfl⟩ | ⟨hne, rfl⟩ := hb
      · rw [if_pos (c := exits.prefered ≠ 0 ∧ exits.prefered = exits.prefered) ⟨hne, rfl⟩]
        exact Nat.add_pos_left Nat.one_pos _
      · rw [if_pos (c := exits.backup ≠ 0 ∧ exits.backup = exits.backup) ⟨hne, rfl⟩]
        exact Nat.add_pos_right _ Nat.one_pos

theorem copies_le_one {a b : Address16}
    (h : ∀ exits, s.graphEdges.find a = some exits → exits.prefered ≠ 0 → ¬(exits.prefered = b ∧ exits.backup = b)) :
    s.copies a b ≤ 1 := by
  unfold copies
  rcases hfind : s.graphEdges.find a with _ | exits
  · exact Nat.zero_le 1
  · change _ + _ ≤ 1
    have hboth := h exits hfind
    split_ifs with hprefered hbackup
    · exact absurd ⟨hprefered.2, hbackup.2⟩ (hboth hprefered.1)
    all_goals decide

end Subnet

namespace Reversal

def nodes (r : Reversal) (x : Address16) : List Address16 :=
    ((r.outboundGraph.find x).getD []).map NodeLevel.nodeAddress

variable (r : Reversal)

theorem visited_lowerCost (source destination : Address16) : (r.lowerCost source destination).visited = r.visited := by
  unfold lowerCost
  split
  · split_ifs <;> rfl
  · rfl

theorem nodes_lowerCost (source destination : Address16) : (r.lowerCost source destination).nodes = r.nodes := by
  unfold lowerCost
  split
  · split_ifs <;> rfl
  · rfl

theorem visited_setCost (graphDestination destination : Address16) (level : Int8) :
    (r.setCost graphDestination destination level).visited = r.visited := by
  unfold setCost
  split_ifs <;> rfl

theorem nodes_setCost (graphDestination destination : Address16) (level : Int8) :
    (r.setCost graphDestination destination level).nodes = r.nodes := by
  unfold setCost
  split_ifs <;> rfl

theorem count_pushNode (a : Address16) (node : NodeLevel) (x y : Address16) :
    ((r.pushNode a node).nodes x).count y = (r.nodes x).count y + if a = x ∧ node.nodeAddress = y then 1 else 0 := by
  unfold nodes pushNode
  rw [OrderedMap.find_set]
  by_cases hx : a = x
  · subst hx
    rw [if_pos rfl, Option.getD_some, map_append, count_append]
    by_cases hy : node.nodeAddress = y
    · rw [if_pos ⟨rfl, hy⟩, ← hy, map_singleton, count_singleton_self]
    · rw [if_neg fun h => hy h.2, map_singleton, count_singleton]
      rw [if_neg (by simpa using hy)]
  · rw [if_neg hx, if_neg fun h => hx h.1]
    rfl

end Reversal

namespace Subnet

/-- From one state of the reversal to another: a newly visited device is put on the lists of its exits, besides `extra`. -/
structure Reverses (s : Subnet) (reached : Address16 → Prop) (extra : Address16 → Address16 → Nat) (r r' : Reversal) :
    Prop where
  explores : Explores s.Link reached r.visited r'.visited
  count : ∀ x y, (r'.nodes x).count y =
    (r.nodes x).count y + extra y x + if y ∈ r'.visited ∧ y ∉ r.visited then s.copies y x else 0

variable {s : Subnet} {reached reached' : Address16 → Prop} {extra extra' : Address16 → Address16 → Nat}
  {r r' r'' : Reversal}

theorem Reverses.of_same (hvisited : ∀ a, a ∈ r'.visited ↔ a ∈ r.visited)
    (hcount : ∀ x y, (r'.nodes x).count y = (r.nodes x).count y + extra y x) : s.Reverses reached extra r r' := by
  refine ⟨.of_same hvisited, fun x y => ?_⟩
  rw [hcount, if_neg fun h => h.2 ((hvisited y).mp h.1)]
  rfl

theorem Reverses.weaken (h : s.Reverses reached extra r r') (hle : ∀ a, reached a → reached' a) :
    s.Reverses reached' extra r r' :=
  ⟨h.explores.weaken hle, h.count⟩

theorem Reverses.trans (h : s.Reverses reached extra r r') (h' : s.Reverses reached extra' r' r'') :
    s.Reverses reached (fun y x => extra y x + extra' y x) r r'' := by
  refine ⟨h.explores.trans h'.explores, fun x y => ?_⟩
  rw [h'.count, h.count]
  have hmono := h.explores.mono y
  have hmono' := h'.explores.mono y
  by_cases hold : y ∈ r.visited
  · rw [if_neg fun hy => hy.2 hold, if_neg fun hy => hy.2 (hmono hold), if_neg fun hy => hy.2 hold]
    omega
  · by_cases hmid : y ∈ r'.visited
    · rw [if_pos ⟨hmid, hold⟩, if_neg fun hy => hy.2 hmid, if_pos ⟨hmono' hmid, hold⟩]
      omega
    · rw [if_neg fun hy => hmid hy.1]
      by_cases hnew : y ∈ r''.visited
      · rw [if_pos ⟨hnew, hmid⟩, if_pos ⟨hnew, hold⟩]
        omega
      · rw [if_neg fun hy => hnew hy.1, if_neg fun hy => hnew hy.1]
        omega

def pushed (a exit y x : Address16) : Nat := if exit ≠ 0 ∧ exit = x ∧ a = y then 1 else 0

variable {exits : DoubleExitDestinations}

theorem copies_eq_pushed {a : Address16} (h : s.graphEdges.find a = some exits) (y x : Address16) :
    pushed a exits.prefered y x + pushed a exits.backup y x = if a = y then s.copies a x else 0 := by
  unfold pushed copies
  rw [h]
  by_cases hy : a = y
  · simp only [hy, and_true, if_true, Option.elim_some]
  · simp only [hy, and_false, if_false]

theorem reverseExit_spec {visit : Reversal → Address16 → Option Reversal} (r : Reversal) (a exit : Address16)
    (level : Int8)
    (h : exit ≠ 0 → ∃ r', visit (r.pushNode exit ⟨a, level⟩) exit = some r' ∧
      s.Reverses reached (fun _ _ => 0) (r.pushNode exit ⟨a, level⟩) r' ∧
      ((s.getDevice exit).isSome → exit ∈ r'.visited)) :
    ∃ r', r.reverseExit visit ⟨a, level⟩ exit = some r' ∧ s.Reverses reached (pushed a exit) r r' ∧
      ((s.getDevice exit).isSome → exit ∈ r'.visited) := by
  unfold Reversal.reverseExit
  by_cases hexit : exit = 0
  · rw [if_neg (not_not.mpr hexit)]
    refine ⟨r, rfl, .of_same (fun _ => Iff.rfl) fun x y => ?_, fun hdevice => absurd hexit (ne_zero_of_isSome hdevice)⟩
    unfold pushed
    rw [if_neg fun hne => hne.1 hexit]
    rfl
  · rw [if_pos hexit]
    obtain ⟨r', hvisit, hreverses, hmem⟩ := h hexit
    refine ⟨r', hvisit, ⟨hreverses.explores, fun x y => ?_⟩, hmem⟩
    rw [hreverses.count, Reversal.count_pushNode]
    unfold pushed
    simp only [hexit, ne_eq, not_false_eq_true, true_and, Nat.add_zero]
    rfl

def Reached (s : Subnet) (a b : Address16) : Prop := (s.getDevice a).isSome ∧ ReflTransGen s.Link a b

/-- What a call makes of any state, if the fuel is more than the number of the devices left. -/
def ReverseEnds (s : Subnet) (graphDestination : Address16) (fuel : Nat) : Prop :=
  ∀ source r destination, remaining s.devices r.visited < fuel → (source ≠ destination ∨ destination ∉ r.visited) →
    ∃ r', s.reverseEdge graphDestination fuel source r destination = some r' ∧
      s.Reverses (s.Reached destination) (fun _ _ => 0) r r' ∧
      ((s.getDevice destination).isSome → destination ∈ r'.visited)

theorem Reached.isSome {a b : Address16} (h : s.Reached a b) : (s.getDevice b).isSome := by
  obtain rfl | ⟨c, -, hlast⟩ := ReflTransGen.cases_tail h.2
  · exact h.1
  · exact hlast.2.2

theorem Reached.head {a b c : Address16} (hexit : Exits s.graphEdges.find a b) (ha : (s.getDevice a).isSome)
    (h : s.Reached b c) : s.Reached a c :=
  ⟨ha, .head ⟨hexit, ha, h.1⟩ h.2⟩

theorem ne_of_exits (hacyclic : Acyclic s.Link) {a b : Address16} (ha : (s.getDevice a).isSome)
    (h : Exits s.graphEdges.find a b) : a ≠ b := by
  rintro rfl
  exact hacyclic a (.single ⟨h, ha, ha⟩)

theorem reverseExits_spec (hacyclic : Acyclic s.Link) {graphDestination a : Address16} {fuel : Nat}
    (hends : s.ReverseEnds graphDestination fuel)
    (hexits : s.graphEdges.find a = some exits) (ha : (s.getDevice a).isSome) (level : Int8)
    (hfuel : remaining s.devices r.visited < fuel) :
    ∃ r', (do
        let r ← r.reverseExit (s.reverseEdge graphDestination fuel a) ⟨a, level⟩ exits.prefered
        r.reverseExit (s.reverseEdge graphDestination fuel a) ⟨a, level⟩ exits.backup) = some r' ∧
      s.Reverses (s.Reached a) (fun y x => if a = y then s.copies a x else 0) r r' ∧
      ∀ b, s.Link a b → b ∈ r'.visited := by
  -- no device is its own exit, so the call for an exit is never the one that visits a device again
  have hexit : ∀ (r : Reversal) (b : Address16), Exits s.graphEdges.find a b → remaining s.devices r.visited < fuel →
      ∃ r', s.reverseEdge graphDestination fuel a (r.pushNode b ⟨a, level⟩) b = some r' ∧
        s.Reverses (s.Reached a) (fun _ _ => 0) (r.pushNode b ⟨a, level⟩) r' ∧
        ((s.getDevice b).isSome → b ∈ r'.visited) := by
    intro r b hb hfuel
    obtain ⟨r', hcall, hreverses, hmem⟩ := hends a (r.pushNode b ⟨a, level⟩) b hfuel (.inl (ne_of_exits hacyclic ha hb))
    exact ⟨r', hcall, hreverses.weaken fun c hc => hc.head hb ha, hmem⟩
  obtain ⟨r', hfirst, hreverses, hmem⟩ := reverseExit_spec r a exits.prefered level
    fun hne => hexit r exits.prefered ⟨exits, hexits, .inl ⟨hne, rfl⟩⟩ hfuel
  have hfuel' := (remaining_le_of_mono s.devices hreverses.explores.mono).trans_lt hfuel
  obtain ⟨r'', hsecond, hreverses', hmem'⟩ := reverseExit_spec r' a exits.backup level
    fun hne => hexit r' exits.backup ⟨exits, hexits, .inr ⟨hne, rfl⟩⟩ hfuel'
  refine ⟨r'', ?_, ?_, ?_⟩
  · rw [hfirst]
    exact hsecond
  · have hboth := hreverses.trans hreverses'
    refine ⟨hboth.explores, fun x y => ?_⟩
    rw [hboth.count, copies_eq_pushed hexits]
  · rintro b ⟨⟨d, hd, hb⟩, -, hdevice⟩
    cases hexits.symm.trans hd
    obtain ⟨-, rfl⟩ | ⟨-, rfl⟩ := hb
    · exact hreverses'.explores.mono _ (hmem hdevice)
    · exact hmem' hdevice

theorem reverseEdge_device (hacyclic : Acyclic s.Link) {graphDestination source a : Address16} {fuel : Nat}
    (hends : s.ReverseEnds graphDestination fuel) (ha : (s.getDevice a).isSome) (hskip : ¬(a ∈ r.visited ∧ source ≠ a))
    (hfuel : remaining s.devices (a :: r.visited) < fuel) :
    ∃ r', s.reverseEdge graphDestination (fuel + 1) source r a = some r' ∧
      s.Reverses (s.Reached a) (fun y x => if a = y then s.copies a x else 0) (r.setVisited a) r' ∧
      ∀ b, s.Link a b → b ∈ r'.visited := by
  rw [reverseEdge, if_neg (by rw [Option.isNone_iff_eq_none]; exact Option.isSome_iff_ne_none.mp ha), if_neg hskip]
  rcases hfind : s.graphEdges.find a with _ | exits
  · refine ⟨r.setVisited a, rfl, .of_same (fun _ => Iff.rfl) fun x y => ?_, ?_⟩
    · unfold copies
      rw [hfind, Option.elim_none, ite_self]
      rfl
    · rintro b ⟨⟨d, hd, -⟩, -, -⟩
      rw [hfind] at hd
      cases hd
  · let level := r.levelOf graphDestination source a
    have hvisited := (r.setVisited a).visited_setCost graphDestination a level
    have hnodes := (r.setVisited a).nodes_setCost graphDestination a level
    obtain ⟨r', hcall, hreverses, hnext⟩ := reverseExits_spec (r := (r.setVisited a).setCost graphDestination a level)
      hacyclic hends hfind ha level (by rw [hvisited]; exact hfuel)
    refine ⟨r', hcall, ⟨?_, fun x y => ?_⟩, hnext⟩
    · rw [← hvisited]
      exact hreverses.explores
    · rw [hreverses.count, hvisited, hnodes]

theorem reverseEnds (hacyclic : Acyclic s.Link) (graphDestination : Address16) :
    ∀ fuel, s.ReverseEnds graphDestination fuel := by
  intro fuel
  induction fuel with
  | zero => exact fun _ _ _ hfuel => absurd hfuel (Nat.not_lt_zero _)
  | succ fuel ih =>
    intro source r a hfuel hsource
    by_cases ha : (s.getDevice a).isSome
    · by_cases hskip : a ∈ r.visited ∧ source ≠ a
      · refine ⟨r.lowerCost source a, ?_, .of_same (fun b => ?_) fun x y => ?_, fun _ => ?_⟩
        · rw [reverseEdge, if_neg (by rw [Option.isNone_iff_eq_none]; exact Option.isSome_iff_ne_none.mp ha),
            if_pos hskip]
        · rw [Reversal.visited_lowerCost]
        · rw [Reversal.nodes_lowerCost]
          rfl
        · rw [Reversal.visited_lowerCost]
          exact hskip.1
      · have hnew : a ∉ r.visited := fun hold => hsource.elim (fun hne => hskip ⟨hold, hne⟩) fun hnot => hnot hold
        have hless := remaining_cons_lt (mem_devices.mpr ha) hnew
        obtain ⟨r', hcall, hreverses, hnext⟩ := reverseEdge_device hacyclic ih ha hskip (by omega)
        refine ⟨r', hcall, ⟨hreverses.explores.enter ⟨ha, .refl⟩ hnext, fun x y => ?_⟩, fun _ => ?_⟩
        · rw [hreverses.count]
          by_cases hy : a = y
          · subst hy
            rw [if_pos rfl, if_neg fun h => h.2 mem_cons_self, if_pos ⟨hreverses.explores.mono a mem_cons_self, hnew⟩]
            rfl
          · rw [if_neg hy]
            have hiff : (y ∈ r'.visited ∧ y ∉ (r.setVisited a).visited) ↔ y ∈ r'.visited ∧ y ∉ r.visited := by
              have hcons : y ∈ (r.setVisited a).visited ↔ y ∈ r.visited := by
                change y ∈ a :: r.visited ↔ _
                rw [mem_cons]
                exact or_iff_right fun heq => hy heq.symm
              rw [hcons]
            simp only [hiff]
            rfl
        · exact hreverses.explores.mono a mem_cons_self
    · refine ⟨r, ?_, .of_same (fun _ => Iff.rfl) fun _ _ => rfl, fun h => absurd h ha⟩
      rw [reverseEdge, if_pos (Option.isNone_iff_eq_none.mpr (Option.not_isSome_iff_eq_none.mp ha))]

/-! ## The reversal for a destination -/

/-- What keeps a device from being twice on the list of another: no device that is reached has it as both exits, and the backup of the destination does not lead to it and is not reached from the preferred exit as well. -/
structure ListedOnce (s : Subnet) (destination x : Address16) : Prop where
  distinct : ∀ y exits, s.Reached destination y → y ≠ destination → s.graphEdges.find y = some exits →
    ¬(exits.prefered = x ∧ exits.backup = x)
  backup : ∀ exits, s.graphEdges.find destination = some exits → exits.prefered ≠ 0 → exits.backup ≠ 0 →
    s.Reached exits.prefered exits.backup → ¬Exits s.graphEdges.find exits.backup x

structure Reversed (s : Subnet) (destination : Address16) (r : Reversal) : Prop where
  mem : ∀ x y, y ∈ r.nodes x ↔ s.Reached destination y ∧ Exits s.graphEdges.find y x
  ofDestination : ∀ x, (r.nodes x).count destination ≤ 1
  once : ∀ x, s.ListedOnce destination x → (r.nodes x).Nodup

variable {destination : Address16}

theorem nodes_emptyReversal (x : Address16) : emptyReversal.nodes x = [] := rfl

theorem visited_complete {visited visited' : List Address16} (h : Explores s.Link reached visited visited')
    (hclosed : ∀ a ∈ visited, ∀ b, s.Link a b → b ∈ visited') (hd : destination ∈ visited') {a : Address16}
    (ha : s.Reached destination a) : a ∈ visited' :=
  h.complete hclosed hd ha.2

theorem reversed_single (hacyclic : Acyclic s.Link) (hdevice : (s.getDevice destination).isSome)
    (hsingle : ∀ exits, s.graphEdges.find destination = some exits → ¬(exits.prefered ≠ 0 ∧ exits.backup ≠ 0)) :
    ∃ r, s.reverseEdge destination s.searchFuel destination emptyReversal destination = some r ∧
      s.Reversed destination r := by
  have hfuel := remaining_lt_searchFuel (s := s) emptyReversal.visited
  obtain ⟨r, hcall, hreverses, hmem⟩ := reverseEnds hacyclic destination s.searchFuel destination emptyReversal
    destination
    (by omega) (.inr not_mem_nil)
  have hvisited : ∀ y, y ∈ r.visited ↔ s.Reached destination y := fun y =>
    ⟨fun hy => hreverses.explores.reached y hy not_mem_nil,
      visited_complete hreverses.explores (fun _ h => absurd h not_mem_nil) (hmem hdevice)⟩
  have hcount : ∀ x y, (r.nodes x).count y = if y ∈ r.visited then s.copies y x else 0 := by
    intro x y
    rw [hreverses.count, nodes_emptyReversal, count_nil, Nat.zero_add]
    exact if_congr (and_iff_left not_mem_nil) rfl rfl
  have honce : ∀ x y, (y ≠ destination → ∀ exits, s.Reached destination y → s.graphEdges.find y = some exits →
      ¬(exits.prefered = x ∧ exits.backup = x)) → (r.nodes x).count y ≤ 1 := by
    intro x y hdistinct
    rw [hcount]
    split_ifs with hy
    · refine copies_le_one fun exits hexits hne hsame => ?_
      by_cases heq : y = destination
      · exact hsingle exits (heq ▸ hexits) ⟨hne, by rw [hsame.2, ← hsame.1]; exact hne⟩
      · exact hdistinct heq exits ((hvisited y).mp hy) hexits hsame
    · exact Nat.zero_le 1
  refine ⟨r, hcall, fun x y => ?_, fun x => honce x destination fun h => absurd rfl h, fun x hx => ?_⟩
  · rw [← count_pos_iff, hcount, ← hvisited, ← copies_pos]
    split_ifs with hy
    · exact (and_iff_right hy).symm
    · exact Iff.intro (fun h => absurd h (Nat.lt_irrefl 0)) fun h => absurd h.1 hy
  · exact nodup_iff_count_le_one.mpr fun y => honce x y fun hne exits hreach hexits =>
      hx.distinct y exits hreach hne hexits

theorem startReversal_nodes (exits : DoubleExitDestinations) (x y : Address16) :
    ((s.startReversal destination exits).nodes x).count y =
      if destination = y ∧ (exits.prefered = x ∨ exits.backup = x) then 1 else 0 := by
  have hfind : (s.startReversal destination exits).outboundGraph.find x =
      if exits.prefered = x ∨ exits.backup = x then some [⟨destination, -1⟩] else none := by
    unfold startReversal
    simp only [OrderedMap.find_insert, OrderedMap.find_empty, and_true]
    by_cases hprefered : exits.prefered = x
    · by_cases hbackup : exits.backup = x
      · simp [hprefered, hbackup]
      · simp [hprefered, hbackup]
    · by_cases hbackup : exits.backup = x
      · simp [hprefered, hbackup]
      · simp [hprefered, hbackup]
  unfold Reversal.nodes
  rw [hfind]
  by_cases hx : exits.prefered = x ∨ exits.backup = x
  · rw [if_pos hx, Option.getD_some, map_singleton, count_singleton]
    by_cases hy : destination = y
    · rw [if_pos (beq_iff_eq.mpr hy), if_pos ⟨hy, hx⟩]
    · rw [if_neg (by simpa using hy), if_neg fun h => hy h.1]
  · rw [if_neg hx, if_neg (c := destination = y ∧ (exits.prefered = x ∨ exits.backup = x)) fun h => hx h.2]
    rfl

section

variable (hacyclic : Acyclic s.Link) (hdevice : (s.getDevice destination).isSome)
    (hexits : s.graphEdges.find destination = some exits) (hprefered : exits.prefered ≠ 0) (hbackup : exits.backup ≠ 0)
include hacyclic hdevice hexits hprefered hbackup

/-- The two searches for a destination with two exits: the second visits the backup again if the first has come there. -/
theorem reverses_double : ∃ r, s.reverseFrom destination = some r ∧ ∃ extra,
      s.Reverses (s.Reached destination) extra (s.startReversal destination exits) r ∧
      (∀ b, s.Link destination b → b ∈ r.visited) ∧
      ((∀ y x, extra y x = 0) ∨ s.Reached exits.prefered exits.backup ∧
        ∀ y x, extra y x = if exits.backup = y then s.copies exits.backup x else 0) := by
  have hexitP : Exits s.graphEdges.find destination exits.prefered := ⟨exits, hexits, .inl ⟨hprefered, rfl⟩⟩
  have hexitB : Exits s.graphEdges.find destination exits.backup := ⟨exits, hexits, .inr ⟨hbackup, rfl⟩⟩
  have hstart : (s.startReversal destination exits).visited = [destination] := if_pos hdevice
  have hfuel := remaining_lt_searchFuel (s := s) (s.startReversal destination exits).visited
  have hnewP : exits.prefered ∉ (s.startReversal destination exits).visited := by
    rw [hstart]
    exact fun h => ne_of_exits hacyclic hdevice hexitP (mem_singleton.mp h).symm
  obtain ⟨r, hfirst, hreverses, hmem⟩ := reverseEnds hacyclic exits.prefered s.searchFuel exits.prefered
    (s.startReversal destination exits) exits.prefered (by omega) (.inr hnewP)
  have hfromP := hreverses.weaken fun c hc => Reached.head hexitP hdevice hc
  have hreverse : ∀ r', s.reverseEdge exits.backup s.searchFuel exits.backup r exits.backup = some r' →
      s.reverseFrom destination = some r' := by
    intro r' hsecond
    unfold reverseFrom
    rw [hexits]
    dsimp only
    rw [if_pos ⟨hprefered, hbackup⟩, hfirst]
    exact hsecond
  have hlinks : ∀ r' : Reversal, (∀ a ∈ r.visited, a ∈ r'.visited) →
      ((s.getDevice exits.backup).isSome → exits.backup ∈ r'.visited) → ∀ b, s.Link destination b → b ∈ r'.visited := by
    rintro r' hmono hmem' b ⟨⟨d, hd, hb⟩, -, hdevice⟩
    cases hexits.symm.trans hd
    obtain ⟨-, rfl⟩ | ⟨-, rfl⟩ := hb
    · exact hmono _ (hmem hdevice)
    · exact hmem' hdevice
  have hless := remaining_le_of_mono s.devices hreverses.explores.mono
  by_cases hagain : exits.backup ∈ r.visited
  · have hreach : s.Reached exits.prefered exits.backup := by
      refine hreverses.explores.reached _ hagain ?_
      rw [hstart]
      exact fun h => ne_of_exits hacyclic hdevice hexitB (mem_singleton.mp h).symm
    have hsame : ∀ a, a ∈ (r.setVisited exits.backup).visited ↔ a ∈ r.visited := fun a =>
      ⟨fun h => (mem_cons.mp h).elim (fun heq => heq ▸ hagain) id, mem_cons_of_mem _⟩
    have hless' := remaining_le_of_mono s.devices fun a ha => mem_cons_of_mem exits.backup
      (hreverses.explores.mono a ha)
    obtain ⟨r', hsecond, hreverses', -⟩ := reverseEdge_device hacyclic
      (reverseEnds hacyclic exits.backup (s.searchFuel - 1)) hreach.isSome (fun h => h.2 rfl)
      (show remaining s.devices (exits.backup :: r.visited) < s.searchFuel - 1 by omega)
    rw [Nat.sub_add_cancel (by omega)] at hsecond
    have hvisit : s.Reverses (s.Reached destination) (fun _ _ => 0) r (r.setVisited exits.backup) :=
      .of_same hsame fun _ _ => rfl
    have hboth := (hfromP.trans hvisit).trans (hreverses'.weaken fun c hc => Reached.head hexitB hdevice hc)
    refine ⟨r', hreverse r' hsecond, _, hboth, ?_, .inr ⟨hreach, fun y x => ?_⟩⟩
    · have hmono := fun a ha => hreverses'.explores.mono a ((hsame a).mpr ha)
      exact hlinks r' hmono fun _ => hmono _ hagain
    · rw [Nat.zero_add]
  · obtain ⟨r', hsecond, hreverses', hmem'⟩ := reverseEnds hacyclic exits.backup s.searchFuel exits.backup r
      exits.backup
      (by omega) (.inr hagain)
    have hboth := hfromP.trans (hreverses'.weaken fun c hc => Reached.head hexitB hdevice hc)
    exact ⟨r', hreverse r' hsecond, _, hboth, hlinks r' hreverses'.explores.mono hmem', .inl fun _ _ => rfl⟩

theorem reversed_double : ∃ r, s.reverseFrom destination = some r ∧ s.Reversed destination r := by
  obtain ⟨r, hcall, extra, hreverses, hlinks, hextra⟩ := reverses_double hacyclic hdevice hexits hprefered hbackup
  have hstart : (s.startReversal destination exits).visited = [destination] := if_pos hdevice
  have hnew : ∀ y, y ∉ (s.startReversal destination exits).visited ↔ y ≠ destination := fun y => by
    rw [hstart, mem_singleton]
  have hvisited : ∀ y, y ∈ r.visited ↔ s.Reached destination y := by
    intro y
    have hd : destination ∈ r.visited := hreverses.explores.mono _ (by rw [hstart]; exact mem_singleton_self _)
    refine ⟨fun hy => ?_, visited_complete hreverses.explores (fun a ha b hab => ?_) hd⟩
    · by_cases heq : y = destination
      · subst heq
        exact ⟨hdevice, .refl⟩
      · exact hreverses.explores.reached y hy ((hnew y).mpr heq)
    · rw [hstart] at ha
      exact hlinks b (mem_singleton.mp ha ▸ hab)
  have hback : exits.backup ≠ destination :=
    (ne_of_exits hacyclic hdevice ⟨exits, hexits, .inr ⟨hbackup, rfl⟩⟩).symm
  have hextra0 : ∀ x, extra destination x = 0 := by
    intro x
    obtain hnone | ⟨-, hagain⟩ := hextra
    · exact hnone destination x
    · rw [hagain, if_neg hback]
  have hcountD : ∀ x, (r.nodes x).count destination = if exits.prefered = x ∨ exits.backup = x then 1 else 0 := by
    intro x
    rw [hreverses.count, startReversal_nodes, hextra0,
      if_neg (c := destination ∈ r.visited ∧ _) fun h => (hnew _).mp h.2 rfl, Nat.add_zero]
    exact if_congr (and_iff_right rfl) rfl rfl
  have hcount : ∀ x y, y ≠ destination →
      (r.nodes x).count y = extra y x + if y ∈ r.visited then s.copies y x else 0 := by
    intro x y hne
    rw [hreverses.count, startReversal_nodes, if_neg fun h => hne h.1.symm, Nat.zero_add]
    exact congrArg _ (if_congr (and_iff_left ((hnew y).mpr hne)) rfl rfl)
  refine ⟨r, hcall, fun x y => ?_, fun x => ?_, fun x hx => nodup_iff_count_le_one.mpr fun y => ?_⟩
  · rw [← count_pos_iff]
    by_cases heq : y = destination
    · subst heq
      rw [hcountD, and_iff_right ⟨hdevice, .refl⟩]
      constructor
      · intro hpos
        split_ifs at hpos with hx
        · exact ⟨exits, hexits, hx.imp (fun h => ⟨hprefered, h.symm⟩) fun h => ⟨hbackup, h.symm⟩⟩
        · exact absurd hpos (Nat.lt_irrefl 0)
      · rintro ⟨d, hd, hx⟩
        cases hexits.symm.trans hd
        rw [if_pos (hx.imp (fun h => h.2.symm) fun h => h.2.symm)]
        exact Nat.one_pos
    · rw [hcount x y heq, ← hvisited, ← copies_pos]
      by_cases hy : y ∈ r.visited
      · rw [if_pos hy, and_iff_right hy]
        refine ⟨fun hpos => ?_, fun hpos => Nat.add_pos_right _ hpos⟩
        obtain hnone | ⟨-, hagain⟩ := hextra
        · rwa [hnone, Nat.zero_add] at hpos
        · rw [hagain] at hpos
          split_ifs at hpos with hb
          · rw [hb] at hpos
            omega
          · rwa [Nat.zero_add] at hpos
      · rw [if_neg hy, Nat.add_zero]
        refine ⟨fun hpos => ?_, fun h => absurd h.1 hy⟩
        obtain hnone | ⟨hreach, hagain⟩ := hextra
        · rw [hnone] at hpos
          exact absurd hpos (Nat.lt_irrefl 0)
        · rw [hagain] at hpos
          split_ifs at hpos with hb
          · have hreached := hreach.head ⟨exits, hexits, .inl ⟨hprefered, rfl⟩⟩ hdevice
            exact absurd ((hvisited y).mpr (hb ▸ hreached)) hy
          · exact absurd hpos (Nat.lt_irrefl 0)
  · rw [hcountD]
    split_ifs <;> decide
  · by_cases heq : y = destination
    · rw [heq, hcountD]
      split_ifs <;> decide
    · rw [hcount x y heq]
      have hextra' : extra y x = 0 := by
        obtain hnone | ⟨hreach, hagain⟩ := hextra
        · exact hnone y x
        · rw [hagain]
          split_ifs with hb
          · exact Nat.eq_zero_of_not_pos fun hpos =>
              hx.backup exits hexits hprefered hbackup hreach (copies_pos.mp hpos)
          · rfl
      rw [hextra', Nat.zero_add]
      split_ifs with hy
      · exact copies_le_one fun d hd _ => hx.distinct y d ((hvisited y).mp hy) heq hd
      · exact Nat.zero_le 1

end

theorem reverseFrom_spec (hacyclic : Acyclic s.Link) (hdevice : (s.getDevice destination).isSome) :
    ∃ r, s.reverseFrom destination = some r ∧ s.Reversed destination r := by
  rcases hfind : s.graphEdges.find destination with _ | exits
  · obtain ⟨r, hcall, hr⟩ := reversed_single hacyclic hdevice fun exits hexits => by
      rw [hfind] at hexits
      cases hexits
    refine ⟨r, ?_, hr⟩
    unfold reverseFrom
    rw [hfind]
    exact hcall
  · by_cases hdouble : exits.prefered ≠ 0 ∧ exits.backup ≠ 0
    · exact reversed_double hacyclic hdevice hfind hdouble.1 hdouble.2
    · obtain ⟨r, hcall, hr⟩ := reversed_single hacyclic hdevice fun exits' hexits => by
        cases hfind.symm.trans hexits
        exact hdouble
      refine ⟨r, ?_, hr⟩
      unfold reverseFrom
      rw [hfind]
      dsimp only
      rw [if_neg hdouble]
      exact hcall

end Subnet

end Isa100Gateway.NetworkEngine
