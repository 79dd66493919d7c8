import Isa100Gateway.NetworkEngine.OutboundReversal

/-!
# The outbound graph reverses the inbound graph

The second search starts at the backbone and takes for each device two entries of its list as exits. They are reversed inbound edges, so there are no cycles, and every way down ends at the destination. A device with two neighbours on its list gets a backup where no neighbour is on the list twice: an entry that is there twice, with a lower level than the others, takes both places.
-/

open Relation

namespace Isa100Gateway.NetworkEngine

open Chains Explore List NodeLevel

variable {destination : Address16}

structure TakenFrom (devices : List Address16) (exits : DoubleExitDestinations) : Prop where
  prefered : exits.prefered ∈ devices
  backup : exits.backup = 0 ∨ exits.backup ∈ devices

variable {exits : DoubleExitDestinations} {nodes : List NodeLevel} {devices : List Address16}

theorem TakenFrom.preferDestination
    (h : TakenFrom devices exits) {node : NodeLevel} (hnode : node.nodeAddress ∈ devices) :
    TakenFrom devices (preferDestination destination exits node) := by
  unfold NetworkEngine.preferDestination
  split_ifs
  · exact ⟨hnode, .inr h.prefered⟩
  · exact h

theorem takenFrom_foldl (rest : List NodeLevel)
    (hrest : ∀ node ∈ rest, node.nodeAddress ∈ devices) (h : TakenFrom devices exits) :
    TakenFrom devices (rest.foldl (preferDestination destination) exits) := by
  induction rest generalizing exits with
  | nil => exact h
  | cons node rest ih =>
    obtain ⟨hnode, hrest⟩ := forall_mem_cons.mp hrest
    exact ih hrest (h.preferDestination hnode)

theorem selectExits_taken
    (h : selectExits destination nodes = some exits) : TakenFrom (nodes.map nodeAddress) exits := by
  match nodes, h with
  | [first], h =>
    cases h
    exact ⟨mem_cons_self, .inl rfl⟩
  | first :: second :: rest, h =>
    cases h
    have hfirst : first.nodeAddress ∈ (first :: second :: rest).map nodeAddress := mem_cons_self
    have hsecond : second.nodeAddress ∈ (first :: second :: rest).map nodeAddress :=
      mem_cons_of_mem _ mem_cons_self
    refine takenFrom_foldl rest (fun node hnode => ?_) ?_
    · exact mem_map_of_mem (mem_cons_of_mem _ (mem_cons_of_mem _ hnode))
    · split_ifs
      · exact ⟨hsecond, .inr hfirst⟩
      · exact ⟨hfirst, .inr hsecond⟩
      · exact ⟨hfirst, .inl rfl⟩

theorem selectExits_isSome (destination : Address16) (h : nodes ≠ []) :
    ∃ exits, selectExits destination nodes = some exits := by
  match nodes, h with
  | [_], _ => exact ⟨_, rfl⟩
  | _ :: _ :: _, _ => exact ⟨_, rfl⟩

theorem backup_foldl (rest : List NodeLevel) (hprefered : exits.prefered ≠ 0)
    (hrest : ∀ node ∈ rest, node.nodeAddress ≠ 0)
    (h : exits.backup ≠ 0 ∨ exits.prefered ≠ destination ∧ ∃ node ∈ rest, node.nodeAddress = destination) :
    (rest.foldl (preferDestination destination) exits).backup ≠ 0 := by
  induction rest generalizing exits with
  | nil => exact h.elim id fun ⟨_, _, hnode, _⟩ => nomatch hnode
  | cons node rest ih =>
    obtain ⟨hnode, hrest⟩ := forall_mem_cons.mp hrest
    rw [foldl_cons]
    unfold preferDestination
    split_ifs with hdestination
    · exact ih hnode hrest (.inl hprefered)
    · refine ih hprefered hrest (h.imp_right fun ⟨hne, other, hother, heq⟩ => ⟨hne, other, ?_, heq⟩)
      obtain rfl | hother := mem_cons.mp hother
      · exact absurd ⟨heq, by rw [heq]; exact hne.symm⟩ hdestination
      · exact hother

theorem selectExits_backup
    (h : selectExits destination nodes = some exits) (hnodes : ∀ node ∈ nodes, node.nodeAddress ≠ 0) {a b : Address16}
    (hne : a ≠ b) (ha : a ∈ nodes.map nodeAddress) (hb : b ∈ nodes.map nodeAddress)
    (honce : (nodes.map nodeAddress).Nodup ∨ destination ∈ nodes.map nodeAddress ∧
      (nodes.map nodeAddress).count destination ≤ 1) : exits.backup ≠ 0 := by
  match nodes, h with
  | [first], _ =>
    rw [map_singleton, mem_singleton] at ha hb
    exact absurd (ha.trans hb.symm) hne
  | first :: second :: rest, h =>
    cases h
    obtain ⟨hfirst, hnodes⟩ := forall_mem_cons.mp hnodes
    obtain ⟨hsecond, hrest⟩ := forall_mem_cons.mp hnodes
    by_cases hsame : second.nodeAddress = first.nodeAddress
    · -- the first two places go to one device, which is then not the destination
      rw [if_neg (not_not.mpr hsame)]
      obtain hnodup | ⟨hmem, hcount⟩ := honce
      · rw [map_cons, map_cons, hsame] at hnodup
        exact absurd mem_cons_self (nodup_cons.mp hnodup).1
      · rw [map_cons, map_cons, hsame] at hmem hcount
        have hother : first.nodeAddress ≠ destination := by
          rintro rfl
          rw [count_cons_self, count_cons_self] at hcount
          omega
        have hlate : destination ∈ rest.map nodeAddress :=
          mem_of_ne_of_mem hother.symm (mem_of_ne_of_mem hother.symm hmem)
        exact backup_foldl rest hfirst hrest (.inr ⟨hother, mem_map.mp hlate⟩)
    · rw [if_pos hsame]
      split_ifs
      · exact backup_foldl rest hsecond hrest (.inl hfirst)
      · exact backup_foldl rest hfirst hrest (.inl hsecond)

namespace Subnet

variable {s : Subnet} {outboundGraph : OutboundGraphMap}

def exitsFrom (outboundGraph : OutboundGraphMap) (destination a : Address16) : Option DoubleExitDestinations :=
  (outboundGraph.find a).bind (selectExits destination)

def Descends (s : Subnet) (outboundGraph : OutboundGraphMap) (destination a b : Address16) : Prop :=
  Exits (exitsFrom outboundGraph destination) a b ∧ b ≠ destination ∧ (s.getDevice b).isSome

structure Creates (s : Subnet) (outboundGraph : OutboundGraphMap) (destination : Address16) (reached : Address16 → Prop)
    (o o' : OutboundEdges) : Prop where
  explores : Explores (s.Descends outboundGraph destination) reached o.visited o'.visited
  used : ∀ a, o'.usedEdges.find a =
    if a ∈ o'.visited ∧ a ∉ o.visited then (exitsFrom outboundGraph destination a).or (o.usedEdges.find a)
    else o.usedEdges.find a

variable {reached reached' : Address16 → Prop} {o o' o'' : OutboundEdges}

theorem Creates.refl (o : OutboundEdges) : s.Creates outboundGraph destination reached o o :=
  ⟨.refl _, fun _ => (if_neg fun h => h.2 h.1).symm⟩

theorem Creates.weaken (h : s.Creates outboundGraph destination reached o o') (hle : ∀ a, reached a → reached' a) :
    s.Creates outboundGraph destination reached' o o' :=
  ⟨h.explores.weaken hle, h.used⟩

theorem Creates.trans (h : s.Creates outboundGraph destination reached o o')
    (h' : s.Creates outboundGraph destination reached o' o'') : s.Creates outboundGraph destination reached o o'' := by
  refine ⟨h.explores.trans h'.explores, fun a => ?_⟩
  rw [h'.used, h.used]
  have hmono := h.explores.mono a
  have hmono' := h'.explores.mono a
  by_cases hold : a ∈ o.visited
  · rw [if_neg fun ha => ha.2 (hmono hold), if_neg fun ha => ha.2 hold, if_neg fun ha => ha.2 hold]
  · by_cases hmid : a ∈ o'.visited
    · rw [if_neg fun ha => ha.2 hmid, if_pos ⟨hmid, hold⟩, if_pos ⟨hmono' hmid, hold⟩]
    · rw [if_neg (c := a ∈ o'.visited ∧ a ∉ o.visited) fun ha => hmid ha.1]
      exact if_congr (and_congr_right fun _ => iff_of_true hmid hold) rfl rfl

/-- What a call makes of any state, if the fuel is more than the number of the devices left. -/
def CreateEnds (s : Subnet) (outboundGraph : OutboundGraphMap) (destination : Address16) (fuel : Nat) : Prop :=
  ∀ o source, remaining s.devices o.visited < fuel →
    ∃ o', s.createOutboundGraph outboundGraph destination fuel o source = some o' ∧
      s.Creates outboundGraph destination (fun a => source ≠ destination ∧ (s.getDevice source).isSome ∧
        ReflTransGen (s.Descends outboundGraph destination) source a) o o' ∧
      (source ≠ destination → (s.getDevice source).isSome → source ∈ o'.visited)

theorem createExit_spec {fuel : Nat} (hends : s.CreateEnds outboundGraph destination fuel) {a exit : Address16}
    (hexit : exit ≠ 0 → Exits (exitsFrom outboundGraph destination) a exit)
    (hfuel : remaining s.devices o.visited < fuel) :
    ∃ o', createExit (s.createOutboundGraph outboundGraph destination fuel) o exit = some o' ∧
      s.Creates outboundGraph destination (ReflTransGen (s.Descends outboundGraph destination) a) o o' ∧
      (exit ≠ destination → (s.getDevice exit).isSome → exit ∈ o'.visited) := by
  unfold createExit
  by_cases hzero : exit = 0
  · rw [if_neg (not_not.mpr hzero)]
    exact ⟨o, rfl, .refl o, fun _ hdevice => absurd hzero (ne_zero_of_isSome hdevice)⟩
  · rw [if_pos hzero]
    obtain ⟨o', hcall, hcreates, hmem⟩ := hends o exit hfuel
    refine ⟨o', hcall, hcreates.weaken fun b hb => ?_, hmem⟩
    exact .head ⟨hexit hzero, hb.1, hb.2.1⟩ hb.2.2

theorem createEnds_step {fuel : Nat} (hends : s.CreateEnds outboundGraph destination fuel) {source : Address16}
    (hnew : source ∉ o.visited) (hfuel : remaining s.devices (source :: o.visited) < fuel) :
    ∃ o', (match (outboundGraph.find source).bind (selectExits destination) with
        | none => some (o.skip source)
        | some exits => do
          let o ← createExit (s.createOutboundGraph outboundGraph destination fuel) (o.use source exits) exits.prefered
          createExit (s.createOutboundGraph outboundGraph destination fuel) o exits.backup) = some o' ∧
      s.Creates outboundGraph destination (ReflTransGen (s.Descends outboundGraph destination) source) o o' ∧
      source ∈ o'.visited := by
  have hused : ∀ (edges : DoubleExitEdges) (o' : OutboundEdges),
      (∀ a, edges.find a =
        if source = a then (exitsFrom outboundGraph destination source).or (o.usedEdges.find source)
        else o.usedEdges.find a) →
      s.Creates outboundGraph destination (ReflTransGen (s.Descends outboundGraph destination) source)
        ⟨source :: o.visited, edges⟩ o' →
      (∀ b, s.Descends outboundGraph destination source b → b ∈ o'.visited) →
      s.Creates outboundGraph destination (ReflTransGen (s.Descends outboundGraph destination) source) o o' := by
    intro edges o' hedges hcreates hnext
    refine ⟨hcreates.explores.enter .refl hnext, fun a => ?_⟩
    rw [hcreates.used, hedges]
    by_cases ha : source = a
    · subst ha
      rw [if_neg fun h => h.2 mem_cons_self, if_pos rfl, if_pos ⟨hcreates.explores.mono source mem_cons_self, hnew⟩]
    · rw [if_neg ha]
      refine if_congr (and_congr_right fun _ => not_congr ?_) rfl rfl
      exact mem_cons.trans (or_iff_right (Ne.symm ha))
  rcases hexits : (outboundGraph.find source).bind (selectExits destination) with _ | exits
  · refine ⟨o.skip source, rfl, hused o.usedEdges _ (fun a => ?_) (.refl _) ?_, mem_cons_self⟩
    · unfold exitsFrom
      rw [hexits, Option.none_or]
      split_ifs with ha
      · rw [ha]
      · rfl
    · rintro b ⟨⟨d, hd, -⟩, -⟩
      exact absurd (hexits.symm.trans hd) nofun
  · have hexit : ∀ exit, (exit = exits.prefered ∨ exit = exits.backup) → exit ≠ 0 →
        Exits (exitsFrom outboundGraph destination) source exit := by
      rintro exit (rfl | rfl) hne
      · exact ⟨exits, hexits, .inl ⟨hne, rfl⟩⟩
      · exact ⟨exits, hexits, .inr ⟨hne, rfl⟩⟩
    obtain ⟨o', hfirst, hcreates, hmem⟩ := createExit_spec (o := o.use source exits) hends (hexit _ (.inl rfl)) hfuel
    have hfuel' := (remaining_le_of_mono s.devices hcreates.explores.mono).trans_lt hfuel
    obtain ⟨o'', hsecond, hcreates', hmem'⟩ := createExit_spec hends (hexit _ (.inr rfl)) hfuel'
    have hboth := hcreates.trans hcreates'
    refine ⟨o'', ?_, hused _ o'' (fun a => ?_) hboth ?_, hboth.explores.mono _ mem_cons_self⟩
    · dsimp only
      rw [hfirst]
      exact hsecond
    · unfold exitsFrom
      rw [OrderedMap.find_set, hexits, Option.some_or]
    · rintro b ⟨⟨d, hd, hb⟩, hother, hdevice⟩
      cases hexits.symm.trans hd
      obtain ⟨-, rfl⟩ | ⟨-, rfl⟩ := hb
      · exact hcreates'.explores.mono _ (hmem hother hdevice)
      · exact hmem' hother hdevice

theorem createEnds (outboundGraph : OutboundGraphMap) (hdestination : destination ≠ 0) :
    ∀ fuel, s.CreateEnds outboundGraph destination fuel := by
  intro fuel
  induction fuel with
  | zero => exact fun _ _ hfuel => absurd hfuel (Nat.not_lt_zero _)
  | succ fuel ih =>
    intro o source hfuel
    rw [createOutboundGraph]
    by_cases hend : source = destination
    · rw [if_pos (.inr hend)]
      exact ⟨o, rfl, .refl o, fun hne => absurd hend hne⟩
    · rw [if_neg fun h => h.elim hdestination hend]
      by_cases hdevice : (s.getDevice source).isSome
      · by_cases hold : source ∈ o.visited
        · rw [if_pos (.inr hold)]
          exact ⟨o, rfl, .refl o, fun _ _ => hold⟩
        · rw [if_neg fun h => h.elim
            (fun hnone => by rw [Option.isNone_iff_eq_none.mp hnone] at hdevice; cases hdevice) hold]
          have hless := remaining_cons_lt (mem_devices.mpr hdevice) hold
          obtain ⟨o', hcall, hcreates, hmem⟩ := createEnds_step ih hold (by omega)
          exact ⟨o', hcall, hcreates.weaken fun a ha => ⟨hend, hdevice, ha⟩, fun _ _ => hmem⟩
      · rw [if_pos (.inl (Option.isNone_iff_eq_none.mpr (Option.not_isSome_iff_eq_none.mp hdevice)))]
        exact ⟨o, rfl, .refl o, fun _ h => absurd h hdevice⟩

/-! ## The result -/

/-- What an outbound graph is for: reversed inbound edges between the destination and the backbone, without cycles, that lead to the destination whatever exits are taken, and with a backup where there are two neighbours, none of them listed twice. -/
structure LeadsOut (s : Subnet) (destination backbone : Address16) (usedEdges : DoubleExitEdges) : Prop where
  reversed : ∀ a b, Exits usedEdges.find a b →
    s.Link b a ∧ ReflTransGen s.Link destination b ∧ ReflTransGen s.Link a backbone
  acyclic : Acyclic (Exits usedEdges.find)
  leads : ∀ a, a = backbone ∨ (usedEdges.find a).isSome ∨ (∃ x, Exits usedEdges.find x a) →
    AlwaysLeads (Exits usedEdges.find) destination a
  backup : ∀ a exits, usedEdges.find a = some exits → ∀ b c, b ≠ c →
    s.Link b a ∧ ReflTransGen s.Link destination b → s.Link c a ∧ ReflTransGen s.Link destination c →
    s.ListedOnce destination a ∨ Exits s.graphEdges.find destination a → exits.backup ≠ 0

def sortedNodes (r : Reversal) (a : Address16) : List NodeLevel := ((sortedByLevel r).find a).getD []

theorem exitsFrom_sortedByLevel (r : Reversal) (a : Address16) :
    exitsFrom (sortedByLevel r) destination a = selectExits destination (sortedNodes r a) := by
  unfold exitsFrom sortedNodes
  rcases (sortedByLevel r).find a with _ | nodes
  · rfl
  · rfl

theorem lowerLevel_nodeAddress (nodeCost : OrderedMap Address16 Int16) (node : NodeLevel) :
    (lowerLevel nodeCost node).nodeAddress = node.nodeAddress := by
  unfold lowerLevel
  split
  · split_ifs <;> rfl
  · rfl

theorem sortedNodes_perm (r : Reversal) (a : Address16) : ((sortedNodes r a).map nodeAddress).Perm (r.nodes a) := by
  unfold sortedNodes sortedByLevel Reversal.nodes
  rw [OrderedMap.find_filterMap]
  rcases r.outboundGraph.find a with _ | nodes
  · exact .refl _
  · have haddress : (nodes.map (lowerLevel r.nodeCost)).map nodeAddress = nodes.map nodeAddress := by
      rw [List.map_map]
      exact map_congr_left fun node _ => lowerLevel_nodeAddress _ node
    rw [Option.getD_some, ← haddress]
    exact (perm_insertionSort _ _).map _

variable {r : Reversal} {backbone : Address16}

theorem mem_sortedNodes (h : s.Reversed destination r) {a b : Address16} :
    b ∈ (sortedNodes r a).map nodeAddress ↔ s.Reached destination b ∧ Exits s.graphEdges.find b a :=
  (sortedNodes_perm r a).mem_iff.trans (h.mem a b)

theorem exits_reversed (h : s.Reversed destination r) {a b : Address16}
    (hexit : Exits (exitsFrom (sortedByLevel r) destination) a b) :
    s.Reached destination b ∧ Exits s.graphEdges.find b a := by
  obtain ⟨exits, hexits, hb⟩ := hexit
  rw [exitsFrom_sortedByLevel] at hexits
  have htaken := selectExits_taken hexits
  obtain ⟨-, rfl⟩ | ⟨hne, rfl⟩ := hb
  · exact (mem_sortedNodes h).mp htaken.prefered
  · exact (mem_sortedNodes h).mp (htaken.backup.resolve_left hne)

theorem exists_exit (h : s.Reversed destination r) {a : Address16} (hne : a ≠ destination)
    (hreach : s.Reached destination a) : ∃ exits, exitsFrom (sortedByLevel r) destination a = some exits ∧
      Exits (exitsFrom (sortedByLevel r) destination) a exits.prefered := by
  obtain heq | ⟨c, hpath, hlast⟩ := ReflTransGen.cases_tail hreach.2
  · exact absurd heq hne
  · have hmem := (mem_sortedNodes h (b := c)).mpr ⟨⟨hreach.1, hpath⟩, hlast.1⟩
    have hlist : sortedNodes r a ≠ [] := by
      intro hnil
      rw [hnil] at hmem
      cases hmem
    obtain ⟨exits, hexits⟩ := selectExits_isSome destination hlist
    have hprefered := (mem_sortedNodes h).mp (selectExits_taken hexits).prefered
    rw [← exitsFrom_sortedByLevel] at hexits
    exact ⟨exits, hexits, exits, hexits, .inl ⟨ne_zero_of_isSome hprefered.1.isSome, rfl⟩⟩

theorem between_of_descends (h : s.Reversed destination r)
    (hreach : s.Reached destination backbone) (hne : backbone ≠ destination) {a : Address16}
    (hpath : ReflTransGen (s.Descends (sortedByLevel r) destination) backbone a) :
    a ≠ destination ∧ s.Reached destination a ∧ ReflTransGen s.Link a backbone := by
  induction hpath with
  | refl => exact ⟨hne, hreach, .refl⟩
  | @tail b c _ hstep ih =>
    obtain ⟨hexit, hother, hc⟩ := hstep
    obtain ⟨hreached, hinbound⟩ := exits_reversed h hexit
    exact ⟨hother, hreached, .head ⟨hinbound, hc, ih.2.1.isSome⟩ ih.2.2⟩

theorem leadsOut_of_creates (hacyclic : Acyclic s.Link) (h : s.Reversed destination r)
    (hreach : s.Reached destination backbone) {o : OutboundEdges}
    (hcreates : s.Creates (sortedByLevel r) destination
      (fun a => backbone ≠ destination ∧ (s.getDevice backbone).isSome ∧
      ReflTransGen (s.Descends (sortedByLevel r) destination) backbone a) ⟨[], OrderedMap.empty⟩ o)
    (hmem : backbone ≠ destination → (s.getDevice backbone).isSome → backbone ∈ o.visited) :
    s.LeadsOut destination backbone o.usedEdges := by
  have hfind : ∀ a, o.usedEdges.find a =
      if a ∈ o.visited then exitsFrom (sortedByLevel r) destination a else none := by
    intro a
    rw [hcreates.used, OrderedMap.find_empty, Option.or_none]
    exact if_congr (and_iff_left not_mem_nil) rfl rfl
  have hbetween : ∀ a ∈ o.visited, a ≠ destination ∧ s.Reached destination a ∧ ReflTransGen s.Link a backbone := by
    intro a ha
    obtain ⟨hne, hdevice, hpath⟩ := hcreates.explores.reached a ha not_mem_nil
    exact between_of_descends h hreach hne hpath
  have hexit : ∀ a b, Exits o.usedEdges.find a b ↔ a ∈ o.visited ∧
    Exits (exitsFrom (sortedByLevel r) destination) a b := by
    intro a b
    unfold Exits
    rw [hfind]
    by_cases ha : a ∈ o.visited
    · rw [if_pos ha, and_iff_right ha]
    · rw [if_neg ha]
      exact iff_of_false (fun ⟨_, hd, _⟩ => nomatch hd) fun hboth => ha hboth.1
  have hreversed : ∀ a b, Exits o.usedEdges.find a b →
      s.Link b a ∧ ReflTransGen s.Link destination b ∧ ReflTransGen s.Link a backbone := by
    intro a b hab
    obtain ⟨ha, hab⟩ := (hexit a b).mp hab
    obtain ⟨-, hreached, hpath⟩ := hbetween a ha
    obtain ⟨hb, hinbound⟩ := exits_reversed h hab
    exact ⟨⟨hinbound, hb.isSome, hreached.isSome⟩, hb.2, hpath⟩
  have hacyclic' : Acyclic (Exits o.usedEdges.find) := by
    intro a hcycle
    refine hacyclic a (transGen_swap.mp ?_)
    exact TransGen.mono (fun x y hxy => (hreversed x y hxy).1) a a hcycle
  have hnext : ∀ a ∈ o.visited, ∀ b, Exits o.usedEdges.find a b → b = destination ∨ b ∈ o.visited := by
    intro a ha b hab
    by_cases hb : b = destination
    · exact .inl hb
    · exact .inr (hcreates.explores.closed a ha not_mem_nil b ⟨((hexit a b).mp hab).2, hb, (hreversed a b hab).1.2.1⟩)
  have hleads : ∀ a ∈ o.visited, AlwaysLeads (Exits o.usedEdges.find) destination a := by
    intro a ha
    refine alwaysLeads_of_acyclic hacyclic' o.visited.toFinset (fun a ha => ?_) (fun a ha b hab => ?_)
      (mem_toFinset.mpr ha)
    · have ha := mem_toFinset.mp ha
      obtain ⟨exits, -, hprefered⟩ := exists_exit h (hbetween a ha).1 (hbetween a ha).2.1
      exact ⟨_, (hexit a _).mpr ⟨ha, hprefered⟩⟩
    · exact (hnext a (mem_toFinset.mp ha) b hab).imp_right mem_toFinset.mpr
  have hvisited : ∀ a exits, o.usedEdges.find a = some exits →
      a ∈ o.visited ∧ exitsFrom (sortedByLevel r) destination a = some exits := by
    intro a exits ha
    rw [hfind] at ha
    split_ifs at ha with hold
    exact ⟨hold, ha⟩
  refine ⟨hreversed, hacyclic', ?_, ?_⟩
  · rintro a (rfl | ha | ⟨x, hxa⟩)
    · by_cases heq : a = destination
      · exact heq ▸ .here
      · exact hleads a (hmem heq hreach.isSome)
    · obtain ⟨exits, hexits⟩ := Option.isSome_iff_exists.mp ha
      exact hleads a (hvisited a exits hexits).1
    · obtain rfl | ha := hnext x ((hexit x a).mp hxa).1 a hxa
      · exact .here
      · exact hleads a ha
  · rintro a exits ha b c hne ⟨hb, hreachB⟩ ⟨hc, hreachC⟩ honce
    obtain ⟨-, hselect⟩ := hvisited a exits ha
    rw [exitsFrom_sortedByLevel] at hselect
    refine selectExits_backup hselect (fun node hnode => ?_) hne ((mem_sortedNodes h).mpr ⟨⟨hreach.1, hreachB⟩, hb.1⟩)
      ((mem_sortedNodes h).mpr ⟨⟨hreach.1, hreachC⟩, hc.1⟩) ?_
    · exact ne_zero_of_isSome ((mem_sortedNodes h).mp (mem_map_of_mem hnode)).1.isSome
    · refine honce.imp (fun honce => ?_) fun hexit => ⟨?_, ?_⟩
      · exact (sortedNodes_perm r a).nodup_iff.mpr (h.once a honce)
      · exact (mem_sortedNodes h).mpr ⟨⟨hreach.1, .refl⟩, hexit⟩
      · rw [(sortedNodes_perm r a).count_eq]
        exact h.ofDestination a

/-- The evaluation ends with a graph that leads out from the backbone, where the links lead in without a cycle. -/
theorem outbound_graph_leads_out {s : Subnet} {destination backbone : Address16}
    (hbackbone : s.backbone = some backbone)
    (hdevice : (s.getDevice backbone).isSome) (hacyclic : Acyclic s.Link)
    (hreach : ReflTransGen s.Link destination backbone) :
    ∃ usedEdges, s.evaluateOutboundGraph destination = some usedEdges ∧ s.LeadsOut destination backbone usedEdges := by
  have hdestination : (s.getDevice destination).isSome := by
    obtain rfl | ⟨b, hfirst, -⟩ := ReflTransGen.cases_head hreach
    · exact hdevice
    · exact hfirst.2.1
  obtain ⟨r, hr, hreversed⟩ := reverseFrom_spec hacyclic hdestination
  have hfuel := remaining_lt_searchFuel (s := s) []
  obtain ⟨o, ho, hcreates, hmem⟩ := createEnds (sortedByLevel r) (ne_zero_of_isSome hdestination)
    s.searchFuel ⟨[], OrderedMap.empty⟩ backbone (Nat.lt_of_succ_lt hfuel)
  refine ⟨o.usedEdges, ?_, leadsOut_of_creates hacyclic hreversed ⟨hdestination, hreach⟩ hcreates hmem⟩
  unfold evaluateOutboundGraph
  rw [hbackbone]
  dsimp only
  rw [hr, Option.bind_eq_bind, Option.bind_some, ho]
  rfl

end Subnet

/-- Of the exits of 20, the preferred exit 21 has the other, 22, as an exit as well; 22 and 23 have 24 as their exit. -/
def crossedSubnet : Subnet :=
  subnetOf [(10, ⟨1, .joinedAndConfigured, false, true, [], [], []⟩), (20, router 21 [] []), (21, router 22 [] []),
      (22, router 24 [] []), (23, router 24 [] []), (24, router 10 [] [])]
    ⟨[(20, ⟨21, 22⟩), (21, ⟨22, 23⟩), (22, ⟨24, 0⟩), (23, ⟨24, 0⟩), (24, ⟨10, 0⟩)], by decide⟩ (by decide) (by decide)

theorem crossedSubnet_acyclic : Acyclic crossedSubnet.Link := by
  have hacyclic : Acyclic (Exits crossedSubnet.graphEdges.find) :=
    acyclic_of_entries (fun a => if a = 10 then 0 else if a = 24 then 1 else if a = 20 then 4 else if a =
      21 then 3 else 2)
      (by decide)
  exact hacyclic.mono fun _ _ h => h.1

theorem crossedSubnet_link (a b : Address16) (exits : DoubleExitDestinations)
    (h : crossedSubnet.graphEdges.find a = some exits ∧
      (exits.prefered ≠ 0 ∧ b = exits.prefered ∨ exits.backup ≠ 0 ∧ b = exits.backup) ∧
      (crossedSubnet.getDevice a).isSome ∧ (crossedSubnet.getDevice b).isSome) : crossedSubnet.Link a b :=
  ⟨⟨exits, h.1, h.2.1⟩, h.2.2⟩

theorem crossedSubnet_reaches : ReflTransGen crossedSubnet.Link 20 10 :=
  .head (crossedSubnet_link 20 22 ⟨21, 22⟩ (by decide)) (.head (crossedSubnet_link 22 24 ⟨24, 0⟩ (by decide))
    (.single (crossedSubnet_link 24 10 ⟨10, 0⟩ (by decide))))

theorem outbound_graph_leads_out_crossed : ∃ usedEdges, crossedSubnet.evaluateOutboundGraph 20 = some usedEdges ∧
    crossedSubnet.LeadsOut 20 10 usedEdges :=
  Subnet.outbound_graph_leads_out rfl (by decide) crossedSubnet_acyclic crossedSubnet_reaches

/-- The two neighbours 22 and 23 lead to 24, but 22 is on its list twice, before 23. -/
theorem crossed_backup_missing : Acyclic crossedSubnet.Link ∧ ReflTransGen crossedSubnet.Link 20 10 ∧
    (∃ usedEdges, crossedSubnet.evaluateOutboundGraph 20 = some usedEdges ∧ usedEdges.find 24 = some ⟨22, 0⟩) ∧
    (crossedSubnet.Link 22 24 ∧ ReflTransGen crossedSubnet.Link 20 22) ∧
    crossedSubnet.Link 23 24 ∧ ReflTransGen crossedSubnet.Link 20 23 := by
  refine ⟨crossedSubnet_acyclic, crossedSubnet_reaches, ?_, ⟨?_, ?_⟩, ?_, ?_⟩
  · have hresult : ∃ usedEdges ∈ crossedSubnet.evaluateOutboundGraph 20, usedEdges.find 24 = some ⟨22, 0⟩ := by
      decide +kernel
    exact hresult
  · exact crossedSubnet_link 22 24 ⟨24, 0⟩ (by decide)
  · exact .single (crossedSubnet_link 20 22 ⟨21, 22⟩ (by decide))
  · exact crossedSubnet_link 23 24 ⟨24, 0⟩ (by decide)
  · exact .head (crossedSubnet_link 20 21 ⟨21, 22⟩ (by decide))
      (.single (crossedSubnet_link 21 23 ⟨22, 23⟩ (by decide)))

end Isa100Gateway.NetworkEngine
