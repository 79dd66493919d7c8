import Isa100Gateway.NetworkEngine.NewParents
import Isa100Gateway.NetworkEngine.ParentTree

/-!
# Changes of parents that keep the tree

Every change but the one on a removal comes to at most one redirection, so that it is judged by that. On a removal, parents change without the exits.
-/

open Relation

namespace Isa100Gateway.NetworkEngine

open Chains FirstFit Option

namespace Subnet

variable {s : Subnet} {backbone : Address16} {radio : RadioState}

/-- The tests name a new parent for the child, where it is a configured device with a parent. -/
def DetectsNewParent (s : Subnet) (radio : RadioState) (child : Address16) (avoid : Option Address16)
    (isUrgent : Bool) (p : Address16) : Prop :=
  ∃ childDevice, s.getDevice child = some childDevice ∧ childDevice.statusForReports = .joinedAndConfigured ∧
    (s.getDevice childDevice.parent).isSome ∧
    (ParentSearch.mk radio child childDevice avoid isUrgent).Names s p

def DetectionSettles (s : Subnet) (radio : RadioState) (child : Address16) (avoid : Option Address16)
    (isUrgent : Bool) : Prop :=
  ∀ childDevice, s.getDevice child = some childDevice → childDevice.statusForReports = .joinedAndConfigured →
    (ParentSearch.mk radio child childDevice avoid isUrgent).Settles s

theorem ParentTree.backboneDevice (h : s.ParentTree backbone) :
    ∃ device, s.backbone.bind s.getDevice = some device := by
  obtain ⟨device, hdevice⟩ := isSome_iff_exists.mp h.device
  refine ⟨device, ?_⟩
  rw [h.isBackbone, bind_some, hdevice]

theorem ParentTree.redirectDeviceToNewParent (h : s.ParentTree backbone) {d o p : Address16}
    (hd : (s.getDevice d).isSome)
    (ho : (s.getDevice o).isSome) (hp : (s.getDevice p).isSome) :
    s.redirectDeviceToNewParent d o p = some (s.redirected d o p) := by
  obtain ⟨device, hdevice⟩ := h.backboneDevice
  unfold Subnet.redirectDeviceToNewParent
  rw [if_neg, if_neg]
  · rfl
  · rintro ⟨-, hnone⟩
    rw [hdevice] at hnone
    cases hnone
  · rw [← not_isSome, ← not_isSome, ← not_isSome, hd, ho, hp]
    decide

variable {isUrgent : Bool} {avoid : Option Address16}

theorem detectNewParentForDevice_fst {child : Address16} {s' : Subnet}
    (h : s.detectNewParentForDevice radio child avoid isUrgent = some (s', false)) : s' = s := by
  have hfalse : some (s, false) = some (s', false) → s' = s := fun heq => (Prod.mk.inj (Option.some.inj heq)).1.symm
  unfold detectNewParentForDevice at h
  split at h
  · split at h
    · exact hfalse h
    obtain ⟨newParent, -, h⟩ := bind_eq_some_iff.mp h
    split at h
    · obtain ⟨s'', -, h⟩ := bind_eq_some_iff.mp h
      cases (Prod.mk.inj (Option.some.inj h)).2
    · exact hfalse h
  · exact hfalse h

theorem ParentTree.detectNewParentForDevice (h : s.ParentTree backbone) (radio : RadioState) (child : Address16)
    (avoid : Option Address16) (isUrgent : Bool) :
    ((s.detectNewParentForDevice radio child avoid isUrgent).isSome ↔
      s.DetectionSettles radio child avoid isUrgent) ∧
    (∀ p, s.DetectsNewParent radio child avoid isUrgent p →
      ∃ o, s.detectNewParentForDevice radio child avoid isUrgent = some (s.redirected child o p, true)) ∧
    ((∀ p, ¬s.DetectsNewParent radio child avoid isUrgent p) →
      s.DetectionSettles radio child avoid isUrgent →
      s.detectNewParentForDevice radio child avoid isUrgent = some (s, false)) := by
  obtain ⟨backboneDevice, hbackbone⟩ := h.backboneDevice
  unfold Subnet.detectNewParentForDevice DetectionSettles DetectsNewParent
  rw [hbackbone]
  rcases hchild : s.getDevice child with _ | childDevice
  · refine ⟨Iff.intro (fun _ _ hnone => nomatch hnone) fun _ => rfl, ?_, fun _ _ => rfl⟩
    rintro p ⟨childDevice, hnone, -⟩
    cases hnone
  dsimp only
  by_cases hjoined : childDevice.statusForReports = .joinedAndConfigured
  swap
  · rw [if_pos hjoined]
    refine ⟨Iff.intro (fun _ device hdevice hstatus => ?_) fun _ => rfl, ?_, fun _ _ => rfl⟩
    · cases hdevice
      exact absurd hstatus hjoined
    · rintro p ⟨device, hdevice, hstatus, -⟩
      cases hdevice
      exact absurd hstatus hjoined
  rw [if_neg (not_not_intro hjoined)]
  have hresult : s.findNewParent radio child childDevice avoid isUrgent =
      (ParentSearch.mk radio child childDevice avoid isUrgent).findNewParent s := rfl
  have hsettles : (∀ device, some childDevice = some device → device.statusForReports = .joinedAndConfigured →
      (ParentSearch.mk radio child device avoid isUrgent).Settles s) ↔
      (s.findNewParent radio child childDevice avoid isUrgent).isSome := by
    rw [hresult, ParentSearch.findNewParent_isSome h]
    refine ⟨fun hall => hall childDevice rfl hjoined, fun hsettles device hdevice _ => ?_⟩
    cases hdevice
    exact hsettles
  have hfinds : ∀ p, (∃ device, some childDevice = some device ∧ device.statusForReports = .joinedAndConfigured ∧
      (s.getDevice device.parent).isSome ∧ (ParentSearch.mk radio child device avoid
        isUrgent).Names s p) ↔
      (s.getDevice childDevice.parent).isSome ∧
        s.findNewParent radio child childDevice avoid isUrgent = some (some p) := by
    intro p
    rw [hresult, ParentSearch.findNewParent_eq_some h]
    constructor
    · rintro ⟨device, hdevice, -, hfound⟩
      cases hdevice
      exact hfound
    · exact fun hfound => ⟨childDevice, rfl, hjoined, hfound⟩
  simp only [hsettles, hfinds]
  rcases hsearch : s.findNewParent radio child childDevice avoid isUrgent with _ | _ | p
  · refine ⟨Iff.intro (fun hnone => nomatch hnone) (fun hnone => nomatch hnone), ?_, fun _ hnone => nomatch hnone⟩
    rintro p ⟨-, hnone⟩
    cases hnone
  · refine ⟨Iff.intro (fun _ => rfl) fun _ => rfl, ?_, fun _ _ => rfl⟩
    rintro p ⟨-, hnone⟩
    cases Option.some.inj hnone
  · have hp := ((ParentSearch.findNewParent_eq_some h).mp (hresult.symm.trans hsearch)).isSome
    rcases hparent : s.getDevice childDevice.parent with _ | parentDevice
    · refine ⟨Iff.intro (fun _ => rfl) fun _ => rfl, ?_, fun _ _ => rfl⟩
      rintro p ⟨hnone, -⟩
      cases hnone
    · have hredirect := h.redirectDeviceToNewParent (d := child) (o := childDevice.parent) (p := p)
        (by rw [hchild]; rfl) (by rw [hparent]; rfl) hp
      refine ⟨Iff.intro (fun _ => rfl) fun _ => ?_, ?_, fun hnone _ => absurd ⟨rfl, rfl⟩ (hnone p)⟩
      · rw [bind_eq_bind, bind_some]
        dsimp only
        rw [hredirect]
        rfl
      · rintro q ⟨-, hq⟩
        cases hq
        refine ⟨childDevice.parent, ?_⟩
        rw [bind_eq_bind, bind_some]
        dsimp only
        rw [hredirect]
        rfl

/-- What the loop of `retryToFindNewParent` makes of a neighbour. -/
def judgeOldChild (s : Subnet) (radio : RadioState) (device neighbor : Address16) : Option Verdict :=
  if s.isOldChild device neighbor then
    (s.detectNewParentForDevice radio neighbor (some device) true).map fun result => if result.2 then .take else .skip
  else some .skip

theorem redirectOldChild_eq (device : Address16) (neighbors : List Address16) :
    redirectOldChild radio device neighbors s =
      (firstFit (s.judgeOldChild radio device) neighbors).bind fun
        | none => some s
        | some neighbor => (s.detectNewParentForDevice radio neighbor (some device) true).map Prod.fst := by
  induction neighbors with
  | nil => rfl
  | cons neighbor neighbors ih =>
    unfold redirectOldChild
    by_cases hold : s.isOldChild device neighbor = true
    swap
    · have hskip : s.judgeOldChild radio device neighbor = some .skip := if_neg hold
      rw [if_neg hold, firstFit_cons_skip hskip, ih]
    rw [if_pos hold]
    have hjudge : s.judgeOldChild radio device neighbor =
      (s.detectNewParentForDevice radio neighbor (some device) true).map fun result =>
        if result.2 then .take else .skip :=
      if_pos hold
    rcases hdetect : s.detectNewParentForDevice radio neighbor (some device) true with _ | ⟨s', found⟩
    · rw [hdetect] at hjudge
      rw [firstFit, hjudge]
      rfl
    cases found
    · obtain rfl := detectNewParentForDevice_fst hdetect
      rw [hdetect] at hjudge
      rw [firstFit_cons_skip hjudge]
      exact ih
    · rw [hdetect] at hjudge
      rw [firstFit_cons_take hjudge, bind_some]
      dsimp only
      rw [hdetect]
      rfl

/-! ## What a change comes to -/

/-- The loop over the neighbours passes by one that is no old child, and one whose search ends while the tests name no parent for it. -/
def NeighborPassed (s : Subnet) (radio : RadioState) (device neighbor : Address16) : Prop :=
  s.isOldChild device neighbor = true → s.DetectionSettles radio neighbor (some device) true ∧
    ∀ p, ¬s.DetectsNewParent radio neighbor (some device) true p

/-- The loop comes to a neighbour: all before it in the table are passed by. -/
def ReachesNeighbor (s : Subnet) (radio : RadioState) (device oldParent neighbor : Address16) : Prop :=
  (s.getDevice oldParent).isSome ∧ radio.isEnabledInboundGraphEvaluation = true ∧ ∃ phyDevice,
    s.getDevice device = some phyDevice ∧ ∃ before after, phyDevice.neighborsTable = before ++ neighbor :: after ∧
      ∀ b ∈ before, s.NeighborPassed radio device b

def Ends (s : Subnet) (radio : RadioState) : ParentChange → Prop
  | .detectNewParentForDevice child avoid isUrgent =>
    s.DetectionSettles radio child avoid isUrgent
  | .retryToFindNewParent device oldParent =>
    ∀ neighbor, s.ReachesNeighbor radio device oldParent neighbor → s.isOldChild device neighbor = true →
      s.DetectionSettles radio neighbor (some device) true
  | .redirectDeviceToNewParent .. => True
  | .redirectChildParent _ => True

def Redirects (s : Subnet) (radio : RadioState) : ParentChange → Address16 → Address16 → Prop
  | .detectNewParentForDevice child avoid isUrgent, d, p =>
    d = child ∧ s.DetectsNewParent radio child avoid isUrgent p
  | .retryToFindNewParent device oldParent, d, p =>
    s.ReachesNeighbor radio device oldParent d ∧ s.isOldChild device d = true ∧
      s.DetectsNewParent radio d (some device) true p
  | .redirectDeviceToNewParent device oldParent newParent, d, p =>
    d = device ∧ p = newParent ∧ (s.getDevice device).isSome ∧ (s.getDevice oldParent).isSome ∧
      (s.getDevice newParent).isSome
  | .redirectChildParent _, _, _ => False

structure Outcome (s : Subnet) (result : Option Subnet) (settles : Prop)
    (redirects : Address16 → Address16 → Prop) : Prop where
  ends : result.isSome ↔ settles
  redirected : ∀ d p, redirects d p →
    ∃ o, result = some (s.redirected d o p) ∧ (s.getDevice d).isSome ∧ (s.getDevice p).isSome
  unique : ∀ d p d' p', redirects d p → redirects d' p' → d = d'
  unchanged : settles → (∀ d p, ¬redirects d p) → result = some s

theorem Outcome.wellRouted {result : Option Subnet} {settles : Prop} {redirects : Address16 → Address16 → Prop}
    (h : Outcome s result settles redirects) (htree : s.ParentTree backbone)
      (hacyclic : Acyclic (Exits s.graphEdges.find)) :
    (∃ s', result = some s' ∧ s'.WellRouted backbone) ↔
      settles ∧ (∀ d p, redirects d p → s.MayHangOn backbone d p) ∧ ∀ a, (∀ p, ¬redirects a p) →
        s.InStepAt backbone a := by
  by_cases hany : ∃ d p, redirects d p
  · obtain ⟨d, p, hredirects⟩ := hany
    constructor
    · rintro ⟨s', hresult, hwell⟩
      refine ⟨h.ends.mp (by rw [hresult]; rfl), fun d' p' hredirects' => ?_, fun a hnot => ?_⟩
      · obtain ⟨o, hsome, hd, hp⟩ := h.redirected d' p' hredirects'
        cases hresult.symm.trans hsome
        exact ((wellRouted_redirected htree hacyclic hd hp).mp hwell).1
      · obtain ⟨o, hsome, hd, hp⟩ := h.redirected d p hredirects
        cases hresult.symm.trans hsome
        refine ((wellRouted_redirected htree hacyclic hd hp).mp hwell).2 a ?_
        rintro rfl
        exact hnot p hredirects
    · rintro ⟨-, hmay, hothers⟩
      obtain ⟨o, hsome, hd, hp⟩ := h.redirected d p hredirects
      refine ⟨_, hsome, (wellRouted_redirected htree hacyclic hd hp).mpr ⟨hmay d p hredirects, fun a ha => ?_⟩⟩
      exact hothers a fun p' hredirects' => ha (h.unique a p' d p hredirects' hredirects)
  · have hnone : ∀ d p, ¬redirects d p := fun d p hredirects => hany ⟨d, p, hredirects⟩
    constructor
    · rintro ⟨s', hresult, hwell⟩
      have hends := h.ends.mp (by rw [hresult]; rfl)
      obtain rfl := Option.some.inj (hresult.symm.trans (h.unchanged hends hnone))
      exact ⟨hends, fun d p hredirects => absurd hredirects (hnone d p), fun a _ => hwell.inStep a⟩
    · exact fun hcond => ⟨s, h.unchanged hcond.1 hnone, htree, hacyclic, fun a => hcond.2.2 a (hnone a)⟩

theorem DetectsNewParent.isSome {child p : Address16}
    (h : s.DetectsNewParent radio child avoid isUrgent p) :
      (s.getDevice child).isSome ∧ (s.getDevice p).isSome := by
  obtain ⟨childDevice, hchild, -, -, hfinds⟩ := h
  exact ⟨by rw [hchild]; rfl, hfinds.isSome⟩

section

variable (h : s.ParentTree backbone)
include h

theorem ParentTree.outcome_detect (child : Address16) (avoid : Option Address16) (isUrgent : Bool) :
    Outcome s ((s.detectNewParentForDevice radio child avoid isUrgent).map Prod.fst)
      (s.DetectionSettles radio child avoid isUrgent)
      fun d p => d = child ∧ s.DetectsNewParent radio child avoid isUrgent p := by
  obtain ⟨hends, hredirected, hunchanged⟩ := h.detectNewParentForDevice radio child avoid
    isUrgent
  refine ⟨?_, ?_, ?_, ?_⟩
  · rw [isSome_map]
    exact hends
  · rintro d p ⟨rfl, hdetects⟩
    obtain ⟨o, hsome⟩ := hredirected p hdetects
    exact ⟨o, by rw [hsome]; rfl, hdetects.isSome⟩
  · rintro d p d' p' ⟨rfl, -⟩ ⟨rfl, -⟩
    rfl
  · intro hsettles hnone
    rw [hunchanged (fun p hdetects => hnone child p ⟨rfl, hdetects⟩) hsettles]
    rfl

variable {device neighbor : Address16}

theorem ParentTree.judgeOldChild_isSome : (s.judgeOldChild radio device neighbor).isSome ↔
      (s.isOldChild device neighbor = true → s.DetectionSettles radio neighbor (some device) true) := by
  unfold judgeOldChild
  by_cases hold : s.isOldChild device neighbor = true
  · rw [if_pos hold, isSome_map, (h.detectNewParentForDevice ..).1]
    exact Iff.intro (fun hsettles _ => hsettles) fun hall => hall hold
  · rw [if_neg hold]
    exact Iff.intro (fun _ hold' => absurd hold' hold) fun _ => rfl

theorem ParentTree.judgeOldChild_eq_take : s.judgeOldChild radio device neighbor = some .take ↔
      s.isOldChild device neighbor = true ∧ ∃ p, s.DetectsNewParent radio neighbor (some device) true p := by
  obtain ⟨hends, hredirected, hunchanged⟩ := h.detectNewParentForDevice radio neighbor
    (some device) true
  unfold judgeOldChild
  by_cases hold : s.isOldChild device neighbor = true
  · rw [if_pos hold]
    constructor
    · intro htake
      refine ⟨hold, ?_⟩
      by_contra hnone
      obtain ⟨result, hresult, htaken⟩ := map_eq_some_iff.mp htake
      have hsettles := hends.mp (by rw [hresult]; rfl)
      rw [hunchanged (fun p hdetects => hnone ⟨p, hdetects⟩) hsettles] at hresult
      cases hresult
      cases htaken
    · rintro ⟨-, p, hdetects⟩
      obtain ⟨o, hsome⟩ := hredirected p hdetects
      rw [hsome]
      rfl
  · rw [if_neg hold]
    refine Iff.intro (fun hskip => ?_) fun hand => absurd hand.1 hold
    cases Option.some.inj hskip

theorem ParentTree.judgeOldChild_eq_skip :
    s.judgeOldChild radio device neighbor = some .skip ↔ s.NeighborPassed radio device neighbor := by
  obtain ⟨hends, hredirected, hunchanged⟩ := h.detectNewParentForDevice radio neighbor (some device) true
  unfold judgeOldChild NeighborPassed
  by_cases hold : s.isOldChild device neighbor = true
  · rw [if_pos hold]
    constructor
    · intro hskip _
      obtain ⟨result, hresult, hpassed⟩ := map_eq_some_iff.mp hskip
      refine ⟨hends.mp (by rw [hresult]; rfl), fun p hdetects => ?_⟩
      obtain ⟨o, hsome⟩ := hredirected p hdetects
      cases hsome.symm.trans hresult
      cases hpassed
    · intro hpassed
      rw [hunchanged (hpassed hold).2 (hpassed hold).1]
      rfl
  · rw [if_neg hold]
    exact Iff.intro (fun _ hold' => absurd hold' hold) fun _ => rfl

/-- A retry changes nothing, or it is the loop over the neighbours. -/
theorem ParentTree.retryToFindNewParent_cases (radio : RadioState) (device oldParent : Address16) :
    (∀ neighbor, ¬s.ReachesNeighbor radio device oldParent neighbor) ∧
        s.retryToFindNewParent radio device oldParent = some s ∨
      ∃ neighbors, (∀ neighbor, s.ReachesNeighbor radio device oldParent neighbor ↔
          Comes (s.judgeOldChild radio device) neighbors neighbor) ∧
        s.retryToFindNewParent radio device oldParent = redirectOldChild radio device neighbors s := by
  unfold Subnet.retryToFindNewParent
  rcases hphy : s.getDevice device with _ | phyDevice
  · refine .inl ⟨?_, rfl⟩
    rintro neighbor ⟨-, -, phyDevice, hnone, -⟩
    rw [hphy] at hnone
    cases hnone
  rcases hold : s.getDevice oldParent with _ | oldDevice
  · refine .inl ⟨?_, rfl⟩
    rintro neighbor ⟨hnone, -⟩
    rw [hold] at hnone
    cases hnone
  dsimp only
  by_cases henabled : radio.isEnabledInboundGraphEvaluation = true
  swap
  · rw [if_pos (by simpa using henabled)]
    exact .inl ⟨fun neighbor hreaches => henabled hreaches.2.1, rfl⟩
  rw [if_neg (by simpa using henabled)]
  refine .inr ⟨phyDevice.neighborsTable, fun neighbor => ?_, rfl⟩
  rw [comes_iff]
  simp only [h.judgeOldChild_eq_skip]
  constructor
  · rintro ⟨-, -, phyDevice', hphy', hpassed⟩
    cases hphy.symm.trans hphy'
    exact hpassed
  · exact fun hpassed => ⟨by rw [hold]; rfl, henabled, phyDevice, hphy, hpassed⟩

theorem ParentTree.outcome_retry (device oldParent : Address16) :
    Outcome s (s.retryToFindNewParent radio device oldParent) (s.Ends radio (.retryToFindNewParent device oldParent))
      (s.Redirects radio (.retryToFindNewParent device oldParent)) := by
  rcases h.retryToFindNewParent_cases radio device oldParent with ⟨hfalse, hsame⟩ | ⟨neighbors, hreaches, hloop⟩
  · rw [hsame]
    refine ⟨Iff.intro (fun _ neighbor hreaches => absurd hreaches (hfalse neighbor)) fun _ => rfl, ?_, ?_,
      fun _ _ => rfl⟩
    · exact fun d p hredirects => absurd hredirects.1 (hfalse d)
    · exact fun d p d' p' hredirects => absurd hredirects.1 (hfalse d)
  rw [hloop, redirectOldChild_eq]
  have hends : s.Ends radio (.retryToFindNewParent device oldParent) ↔
      (firstFit (s.judgeOldChild radio device) neighbors).isSome := by
    simp only [firstFit_isSome, ← hreaches, h.judgeOldChild_isSome, Ends]
  have hredirects : ∀ d p, s.Redirects radio (.retryToFindNewParent device oldParent) d p →
      firstFit (s.judgeOldChild radio device) neighbors = some (some d) ∧
        s.DetectsNewParent radio d (some device) true p := by
    rintro d p ⟨hcomes, hchild, hdetects⟩
    exact ⟨firstFit_eq_some.mpr ⟨(hreaches d).mp hcomes, h.judgeOldChild_eq_take.mpr ⟨hchild, p, hdetects⟩⟩, hdetects⟩
  refine ⟨?_, ?_, ?_, ?_⟩
  · rw [hends]
    rcases hfit : firstFit (s.judgeOldChild radio device) neighbors with _ | _ | neighbor
    · rfl
    · rfl
    · obtain ⟨-, htake⟩ := firstFit_eq_some.mp hfit
      obtain ⟨-, p, hdetects⟩ := h.judgeOldChild_eq_take.mp htake
      obtain ⟨o, hsome⟩ := (h.detectNewParentForDevice ..).2.1 p hdetects
      rw [bind_some]
      dsimp only
      rw [hsome]
      rfl
  · intro d p hredirect
    obtain ⟨hfit, hdetects⟩ := hredirects d p hredirect
    obtain ⟨o, hsome⟩ := (h.detectNewParentForDevice ..).2.1 p hdetects
    refine ⟨o, ?_, hdetects.isSome⟩
    rw [hfit, bind_some]
    dsimp only
    rw [hsome]
    rfl
  · intro d p d' p' hredirect hredirect'
    exact Option.some.inj (Option.some.inj ((hredirects d p hredirect).1.symm.trans (hredirects d' p' hredirect').1))
  · intro hsettles hnone
    rcases hfit : firstFit (s.judgeOldChild radio device) neighbors with _ | _ | neighbor
    · rw [hends, hfit] at hsettles
      cases hsettles
    · rfl
    · obtain ⟨hcomes, htake⟩ := firstFit_eq_some.mp hfit
      obtain ⟨hchild, p, hdetects⟩ := h.judgeOldChild_eq_take.mp htake
      exact absurd ⟨(hreaches neighbor).mpr hcomes, hchild, hdetects⟩ (hnone neighbor p)

theorem ParentTree.outcome_redirect (radio : RadioState) (device oldParent newParent : Address16) :
    Outcome s (s.redirectDeviceToNewParent device oldParent newParent) True
      (s.Redirects radio (.redirectDeviceToNewParent device oldParent newParent)) := by
  by_cases hall : (s.getDevice device).isSome ∧ (s.getDevice oldParent).isSome ∧ (s.getDevice newParent).isSome
  · have hresult := h.redirectDeviceToNewParent hall.1 hall.2.1 hall.2.2
    refine ⟨by rw [hresult]; simp, ?_, ?_, fun _ hnone => absurd ⟨rfl, rfl, hall⟩ (hnone device newParent)⟩
    · rintro d p ⟨rfl, rfl, -⟩
      exact ⟨oldParent, hresult, hall.1, hall.2.2⟩
    · rintro d p d' p' ⟨rfl, -⟩ ⟨rfl, -⟩
      rfl
  · have hresult : s.redirectDeviceToNewParent device oldParent newParent = some s := by
      unfold Subnet.redirectDeviceToNewParent
      rw [if_pos]
      by_contra hnot
      simp only [isNone_iff_eq_none, not_or, ← ne_eq, ← isSome_iff_ne_none] at hnot
      exact hall ⟨hnot.1, hnot.2.2, hnot.2.1⟩
    refine ⟨by rw [hresult]; simp, ?_, ?_, fun _ _ => hresult⟩
    · rintro d p ⟨rfl, rfl, hsome⟩
      exact absurd hsome hall
    · rintro d p d' p' ⟨rfl, -⟩ ⟨rfl, -⟩
      rfl

end

/-! ## Removals -/

def Rehangs (s : Subnet) (removingDevice child backup : Address16) : Prop :=
  ∃ device, s.getDevice removingDevice = some device ∧ child ∈ device.neighborsTable ∧
    s.backupOnRemoval removingDevice child = some backup

theorem backupOnRemoval_eq_some {removingDevice child backup : Address16} :
    s.backupOnRemoval removingDevice child = some backup ↔ backup = s.getBackupFor child ∧
      s.hangsOn child = some removingDevice ∧ (s.getDevice backup).map Device.statusForReports =
        some .joinedAndConfigured := by
  unfold backupOnRemoval hangsOn
  rcases hchild : s.getDevice child with _ | device
  · exact Iff.intro (fun hnone => nomatch hnone) fun hnone => nomatch hnone.2.1
  rcases hbackup : s.getDevice (s.getBackupFor child) with _ | backupDevice
  · refine Iff.intro (fun hnone => nomatch hnone) ?_
    rintro ⟨rfl, -, hnone⟩
    rw [hbackup] at hnone
    cases hnone
  dsimp only
  rw [map_some, Option.some.injEq]
  constructor
  · intro h
    split at h
    · next hboth =>
      cases h
      rw [hbackup, map_some, hboth.2]
      exact ⟨rfl, hboth.1, rfl⟩
    · cases h
  · rintro ⟨rfl, hparent, hjoined⟩
    rw [hbackup, map_some] at hjoined
    rw [if_pos ⟨hparent, Option.some.inj hjoined⟩]

theorem map_statusForReports_setParent (a p b : Address16) :
    ((s.updateDevice a (Device.setParent p)).getDevice b).map Device.statusForReports =
      (s.getDevice b).map Device.statusForReports := by
  rw [getDevice_updateDevice]
  by_cases heq : a = b
  · rw [if_pos heq, Option.map_map]
    rfl
  · rw [if_neg heq]

theorem getBackupFor_updateDevice (a b : Address16) (f : Device → Device) :
    (s.updateDevice a f).getBackupFor b = s.getBackupFor b := by
  unfold getBackupFor
  rw [graphEdges_updateDevice]

theorem hangsOn_rehang (removingDevice neighbor b : Address16) : (s.rehang removingDevice neighbor).hangsOn b =
      if neighbor = b then (s.backupOnRemoval removingDevice b).or (s.hangsOn b) else s.hangsOn b := by
  unfold rehang
  rcases hbackup : s.backupOnRemoval removingDevice neighbor with _ | backup
  · by_cases heq : neighbor = b
    · rw [if_pos heq, ← heq, hbackup]
      rfl
    · rw [if_neg heq]
  · have hchild : (s.getDevice neighbor).isSome := by
      rw [← isSome_hangsOn, (backupOnRemoval_eq_some.mp hbackup).2.1]
      rfl
    rw [hangsOn_setParent b hchild]
    by_cases heq : neighbor = b
    · rw [if_pos heq, if_pos heq, ← heq, hbackup]
      rfl
    · rw [if_neg heq, if_neg heq]

theorem backupOnRemoval_rehang (removingDevice neighbor b : Address16) :
    ((s.rehang removingDevice neighbor).backupOnRemoval removingDevice b).or
      ((s.rehang removingDevice neighbor).hangsOn b) =
      (s.backupOnRemoval removingDevice b).or (s.hangsOn b) := by
  rcases hbackup : s.backupOnRemoval removingDevice neighbor with _ | backup
  · have hsame : s.rehang removingDevice neighbor = s := by
      unfold rehang
      rw [hbackup]
    rw [hsame]
  have hnext : s.rehang removingDevice neighbor = s.updateDevice neighbor (Device.setParent backup) := by
    unfold rehang
    rw [hbackup]
  obtain ⟨hown, hchild, hjoined⟩ := backupOnRemoval_eq_some.mp hbackup
  have hnode : (s.getDevice neighbor).isSome := by
    rw [← isSome_hangsOn, hchild]
    rfl
  by_cases heq : neighbor = b
  · subst heq
    have hhangs : (s.rehang removingDevice neighbor).hangsOn neighbor = some backup := by
      rw [hnext, hangsOn_setParent neighbor hnode, if_pos rfl]
    rw [hhangs]
    rcases hagain : (s.rehang removingDevice neighbor).backupOnRemoval removingDevice neighbor with _ | backup'
    · rw [hbackup]
      rfl
    · have hsame := (backupOnRemoval_eq_some.mp hagain).1
      rw [hnext, getBackupFor_updateDevice, ← hown] at hsame
      rw [hbackup, hsame]
      rfl
  · have hsame : (s.rehang removingDevice neighbor).backupOnRemoval removingDevice b =
        s.backupOnRemoval removingDevice b := by
      refine ext fun backup' => ?_
      rw [backupOnRemoval_eq_some, backupOnRemoval_eq_some, hnext,
        getBackupFor_updateDevice, hangsOn_setParent b hnode, if_neg heq, map_statusForReports_setParent]
    rw [hsame, hangsOn_rehang, if_neg heq]

theorem hangsOn_foldl_rehang (removingDevice b : Address16) (neighbors : List Address16) : ∀ s : Subnet,
    (neighbors.foldl (rehang removingDevice) s).hangsOn b =
      if b ∈ neighbors then (s.backupOnRemoval removingDevice b).or (s.hangsOn b) else s.hangsOn b := by
  induction neighbors with
  | nil => exact fun _ => rfl
  | cons neighbor neighbors ih =>
    intro s
    rw [List.foldl_cons, ih]
    by_cases hlater : b ∈ neighbors
    · rw [if_pos hlater, if_pos (List.mem_cons_of_mem _ hlater), backupOnRemoval_rehang]
    · rw [if_neg hlater, hangsOn_rehang]
      by_cases heq : neighbor = b
      · rw [if_pos heq, if_pos (by rw [heq]; exact List.mem_cons_self)]
      · rw [if_neg heq, if_neg]
        exact fun hmem => (List.mem_cons.mp hmem).elim (fun hb => heq hb.symm) hlater

theorem foldl_rehang_unchanged (removingDevice : Address16) (neighbors : List Address16) : ∀ s : Subnet,
    (neighbors.foldl (rehang removingDevice) s).graphEdges = s.graphEdges ∧
      (neighbors.foldl (rehang removingDevice) s).backbone = s.backbone := by
  induction neighbors with
  | nil => exact fun _ => ⟨rfl, rfl⟩
  | cons neighbor neighbors ih =>
    intro s
    have hturn : (s.rehang removingDevice neighbor).graphEdges = s.graphEdges ∧
        (s.rehang removingDevice neighbor).backbone = s.backbone := by
      unfold rehang
      split
      · exact ⟨rfl, rfl⟩
      · exact ⟨graphEdges_updateDevice .., backbone_updateDevice ..⟩
    rw [List.foldl_cons]
    exact ⟨(ih _).1.trans hturn.1, (ih _).2.trans hturn.2⟩

theorem redirectChildParent_hangsOn (removingDevice a : Address16) :
    (∀ b, s.Rehangs removingDevice a b → (s.redirectChildParent removingDevice).hangsOn a = some b) ∧
    ((∀ b, ¬s.Rehangs removingDevice a b) → (s.redirectChildParent removingDevice).hangsOn a = s.hangsOn a) := by
  unfold redirectChildParent
  rcases hremoving : s.getDevice removingDevice with _ | device
  · refine ⟨?_, fun _ => rfl⟩
    rintro b ⟨device, hnone, -⟩
    rw [hremoving] at hnone
    cases hnone
  rw [hangsOn_foldl_rehang]
  constructor
  · rintro b ⟨device', hdevice, hmem, hbackup⟩
    cases hremoving.symm.trans hdevice
    rw [if_pos hmem, hbackup]
    rfl
  · intro hnot
    by_cases hmem : a ∈ device.neighborsTable
    · rw [if_pos hmem]
      rcases hbackup : s.backupOnRemoval removingDevice a with _ | b
      · rfl
      · exact absurd ⟨device, hremoving, hmem, hbackup⟩ (hnot b)
    · rw [if_neg hmem]

theorem redirectChildParent_unchanged (removingDevice : Address16) :
    (s.redirectChildParent removingDevice).graphEdges = s.graphEdges ∧
      (s.redirectChildParent removingDevice).backbone = s.backbone := by
  unfold redirectChildParent
  split
  · exact ⟨rfl, rfl⟩
  · exact foldl_rehang_unchanged ..

section Rehung

variable {removingDevice a b : Address16}

theorem Rehangs.hangs (h : s.Rehangs removingDevice a b) : s.hangsOn a = some removingDevice := by
  obtain ⟨device, -, -, hbackup⟩ := h
  exact (backupOnRemoval_eq_some.mp hbackup).2.1

theorem Rehangs.isSome (h : s.Rehangs removingDevice a b) :
    (s.getDevice removingDevice).isSome ∧ (s.getDevice b).isSome := by
  obtain ⟨device, hdevice, -, hbackup⟩ := h
  refine ⟨by rw [hdevice]; rfl, ?_⟩
  rw [← isSome_map (f := Device.statusForReports), (backupOnRemoval_eq_some.mp hbackup).2.2]
  rfl

theorem Rehangs.parentOf_eq (h : s.Rehangs removingDevice a b) : s.parentOf a = some removingDevice := by
  rw [parentOf_of_hangsOn h.hangs, if_pos h.isSome.1]

theorem Rehangs.ne_root (h : s.Rehangs removingDevice a b) (htree : s.ParentTree backbone) :
    a ≠ backbone ∧ a ≠ addressGateway := by
  constructor
  · rintro rfl
    cases htree.root.symm.trans h.parentOf_eq
  · rintro rfl
    cases htree.gateway.symm.trans h.parentOf_eq

theorem isSome_getDevice_redirectChildParent (removingDevice a : Address16) :
    ((s.redirectChildParent removingDevice).getDevice a).isSome = (s.getDevice a).isSome := by
  refine isSome_getDevice_congr (fun a => ?_) a
  by_cases hany : ∃ b, s.Rehangs removingDevice a b
  · obtain ⟨b, hrehangs⟩ := hany
    rw [(redirectChildParent_hangsOn removingDevice a).1 b hrehangs, hrehangs.hangs]
    rfl
  · rw [(redirectChildParent_hangsOn removingDevice a).2 (not_exists.mp hany)]

theorem parentOf_redirectChildParent_eq_none (hnone : s.parentOf a = none) :
    (s.redirectChildParent removingDevice).parentOf a = none := by
  have hnot : ∀ b, ¬s.Rehangs removingDevice a b := fun b hrehangs => by
    cases hnone.symm.trans hrehangs.parentOf_eq
  by_contra hlink
  obtain ⟨p, hp⟩ := isSome_iff_exists.mp (isSome_iff_ne_none.mpr hlink)
  obtain ⟨hhangs, hparent⟩ := hangsOn_of_parentOf hp
  rw [(redirectChildParent_hangsOn removingDevice a).2 hnot] at hhangs
  rw [isSome_getDevice_redirectChildParent] at hparent
  rw [parentOf_of_hangsOn hhangs, if_pos hparent] at hnone
  cases hnone

end Rehung

/-- A removal keeps the subnet well routed if and only if every child that changes its parent has its backup as its preferred exit already. -/
theorem wellRouted_redirectChildParent (htree : s.ParentTree backbone) (hacyclic : Acyclic (Exits s.graphEdges.find))
    (removingDevice : Address16) : (s.redirectChildParent removingDevice).WellRouted backbone ↔
      (∀ a b, s.Rehangs removingDevice a b → (∃ e, s.graphEdges.find a = some e ∧ e.prefered = b) ∧
        (b = addressGateway → backbone = addressGateway)) ∧
      ∀ a, (∀ b, ¬s.Rehangs removingDevice a b) → s.InStepAt backbone a := by
  obtain ⟨hgraph, hbackbone⟩ := s.redirectChildParent_unchanged removingDevice
  have hsame : ∀ a, (∀ b, ¬s.Rehangs removingDevice a b) →
      ((s.redirectChildParent removingDevice).InStepAt backbone a ↔ s.InStepAt backbone a) := by
    intro a hnot
    unfold InStepAt
    rw [hgraph, (redirectChildParent_hangsOn removingDevice a).2 hnot]
  constructor
  · intro h
    refine ⟨fun a b hrehangs => ?_, fun a hnot => (hsame a hnot).mp (h.inStep a)⟩
    have hhangs := (redirectChildParent_hangsOn removingDevice a).1 b hrehangs
    obtain ⟨hbackbone, hgateway⟩ := hrehangs.ne_root htree
    have hstep := h.inStep a hbackbone hgateway b hhangs
    rw [hgraph] at hstep
    exact ⟨hstep, (h.tree.hangs hhangs hbackbone hgateway).2⟩
  · rintro ⟨hrehung, hothers⟩
    have hinStep : ∀ a, (s.redirectChildParent removingDevice).InStepAt backbone a := by
      intro a
      by_cases hany : ∃ b, s.Rehangs removingDevice a b
      · obtain ⟨b, hrehangs⟩ := hany
        intro _ _ p hp
        rw [(redirectChildParent_hangsOn removingDevice a).1 b hrehangs] at hp
        cases hp
        rw [hgraph]
        exact (hrehung a b hrehangs).1
      · exact (hsame a (not_exists.mp hany)).mpr (hothers a (not_exists.mp hany))
    have hacyclic' : Acyclic (Exits (s.redirectChildParent removingDevice).graphEdges.find) := by
      rw [hgraph]
      exact hacyclic
    refine ⟨parentTree_of_inStep ?_ ?_ ?_ ?_ hacyclic' hinStep ?_, hacyclic', hinStep⟩
    · rw [hbackbone]
      exact htree.isBackbone
    · rw [isSome_getDevice_redirectChildParent]
      exact htree.device
    · exact parentOf_redirectChildParent_eq_none htree.root
    · exact parentOf_redirectChildParent_eq_none htree.gateway
    · intro a p hp hbackbone hgateway
      rw [isSome_getDevice_redirectChildParent]
      by_cases hany : ∃ b, s.Rehangs removingDevice a b
      · obtain ⟨b, hrehangs⟩ := hany
        rw [(redirectChildParent_hangsOn removingDevice a).1 b hrehangs] at hp
        obtain rfl := Option.some.inj hp
        exact ⟨hrehangs.isSome.2, (hrehung a b hrehangs).2⟩
      · rw [(redirectChildParent_hangsOn removingDevice a).2 (not_exists.mp hany)] at hp
        exact htree.hangs hp hbackbone hgateway

/-- A change does no harm: its walks end, the device that it redirects may hang on its new parent, a child that gets its backup on a removal has it as its preferred exit already, and every other device is in step with the graph. -/
def Harmless (s : Subnet) (radio : RadioState) (backbone : Address16) (change : ParentChange) : Prop :=
  match change with
  | .redirectChildParent removingDevice =>
    (∀ a b, s.Rehangs removingDevice a b → (∃ e, s.graphEdges.find a = some e ∧ e.prefered = b) ∧
      (b = addressGateway → backbone = addressGateway)) ∧
    ∀ a, (∀ b, ¬s.Rehangs removingDevice a b) → s.InStepAt backbone a
  | change =>
    s.Ends radio change ∧ (∀ d p, s.Redirects radio change d p → s.MayHangOn backbone d p) ∧
      ∀ a, (∀ p, ¬s.Redirects radio change a p) → s.InStepAt backbone a

end Subnet

/-- A change of parents leaves a tree with an acyclic graph in step if and only if it does no harm. -/
theorem parent_change_keeps_tree (s : Subnet) (radio : RadioState) (backbone : Address16) (change : ParentChange)
    (htree : s.ParentTree backbone) (hacyclic : Acyclic (Exits s.graphEdges.find)) :
    (∃ s', s.changeParent radio change = some s' ∧ s'.WellRouted backbone) ↔ s.Harmless radio backbone change := by
  cases change with
  | detectNewParentForDevice child avoid isUrgent =>
    exact (htree.outcome_detect child avoid isUrgent).wellRouted htree hacyclic
  | retryToFindNewParent device oldParent =>
    exact (htree.outcome_retry device oldParent).wellRouted htree hacyclic
  | redirectDeviceToNewParent device oldParent newParent =>
    exact (htree.outcome_redirect radio device oldParent newParent).wellRouted htree hacyclic
  | redirectChildParent removingDevice =>
    refine Iff.trans ?_ (s.wellRouted_redirectChildParent htree hacyclic removingDevice)
    constructor
    · rintro ⟨s', hs', hwell⟩
      cases hs'
      exact hwell
    · exact fun hwell => ⟨_, rfl, hwell⟩

theorem inStep_of_forall {s : Subnet} {backbone : Address16}
    (h : ∀ a ∈ s.subnetNodes.keys, a ≠ backbone → a ≠ addressGateway → ∃ e ∈ s.graphEdges.find a, s.hangsOn a =
      some e.prefered)
    (a : Address16) : s.InStepAt backbone a := by
  intro hbackbone hgateway p hp
  have hdevice : (s.getDevice a).isSome := by
    rw [← Subnet.isSome_hangsOn, hp]
    rfl
  obtain ⟨e, he, hprefered⟩ := h a (OrderedMap.mem_keys.mpr hdevice) hbackbone hgateway
  exact ⟨e, he, Option.some.inj (hprefered.symm.trans hp)⟩

def steadyRadio (s : Subnet) : RadioState where
  preferedClockSource a := (s.hangsOn a).getD 0
  hasHighFailRate _ _ := false
  evalEdgeCost _ _ := some 1
  hasOutboundGraph _ := true
  isManagerOrGateway a := a ≤ 2
  isEnabledInboundGraphEvaluation := true

def branchSubnet : Subnet :=
  subnetOf [(10, ⟨1, .joinedAndConfigured, false, true, [], [], [11, 13]⟩), (11, router 10 [10, 12, 13] []),
      (12, router 11 [11] [13]), (13, router 10 [10, 11] [12])]
    ⟨[(11, ⟨10, 13⟩), (12, ⟨11, 0⟩), (13, ⟨10, 0⟩)], by decide⟩ (by decide) (by decide)

theorem branchSubnet_wellRouted : branchSubnet.WellRouted 10 where
  tree := parentTree_of_forall (n := 3) rfl (by decide) (by decide) (by decide) (by decide)
  acyclic := acyclic_of_entries (fun a => if a = 10 then 0 else if a = 13 then 1 else if a = 11 then 2 else 3)
    (by decide)
  inStep := inStep_of_forall (by decide)

/-- The device 12 leaves its parent 11: it has no backup, and its candidate 13 leads to the backbone only. -/
theorem parent_change_keeps_tree_candidate : ∃ s',
    branchSubnet.changeParent (steadyRadio branchSubnet) (.detectNewParentForDevice 12 (some 11) true) = some s' ∧
      s'.WellRouted 10 ∧ s'.hangsOn 12 = some 13 := by
  have hnode : branchSubnet.getDevice 12 = some (router 11 [11] [13]) := rfl
  let q : Subnet.ParentSearch := ⟨steadyRadio branchSubnet, 12, router 11 [11] [13], some 11, true⟩
  have honly : ∀ {p}, q.Reaches branchSubnet p → p = 13 := by
    rintro p ⟨-, -, before, after, hcandidates, -⟩
    have hmem : p ∈ q.childDevice.candidates := hcandidates ▸ List.mem_append_right _ List.mem_cons_self
    exact List.mem_singleton.mp hmem
  have hharmless : branchSubnet.Harmless (steadyRadio branchSubnet) 10
      (.detectNewParentForDevice 12 (some 11) true) := by
    refine ⟨?_, ?_, fun a _ => branchSubnet_wellRouted.inStep a⟩
    · intro childDevice hdevice _
      obtain rfl := Option.some.inj (hdevice.symm.trans hnode)
      refine ⟨⟨fun hnone => absurd hnone (by decide), fun _ hfalse => nomatch hfalse⟩, fun c hreaches => ?_⟩
      obtain rfl := honly hreaches
      refine ⟨fun _ hfalse => absurd hfalse (by decide), fun _ => ⟨⟨3, by decide⟩, fun a ha => ⟨3, ?_⟩⟩⟩
      obtain rfl := Option.some.inj ha
      decide
    · rintro d p ⟨rfl, childDevice, hdevice, -, -, hnames⟩
      obtain rfl := Option.some.inj (hdevice.symm.trans hnode)
      obtain rfl : p = 13 := by
        cases hnames with
        | backup hsuits => exact absurd hsuits.configured (by decide)
        | candidate hreaches => exact honly hreaches
      refine ⟨by decide, by decide, fun hgateway => absurd hgateway (by decide), fun _ hpath => ?_⟩
      rcases ReflTransGen.cases_head hpath with heq | ⟨b, ⟨e, he, hexit⟩, hrest⟩
      · cases heq
      · cases he
        obtain rfl : b = 10 := hexit.elim And.right fun hbackup => absurd rfl hbackup.1
        rcases ReflTransGen.cases_head hrest with heq | ⟨b, ⟨e, he, -⟩, -⟩
        · cases heq
        · cases he
  obtain ⟨s', hs', hwell⟩ :=
    (parent_change_keeps_tree _ _ 10 _ branchSubnet_wellRouted.tree branchSubnet_wellRouted.acyclic).mpr hharmless
  refine ⟨s', hs', hwell, ?_⟩
  have hmoved : (branchSubnet.changeParent (steadyRadio branchSubnet)
      (.detectNewParentForDevice 12 (some 11) true)).bind (Subnet.hangsOn · 12) = some 13 := by decide +kernel
  rwa [hs'] at hmoved

/-- The search gives 13 the parent 12, which leads back to it through the backup of 11. -/
theorem candidate_leads_back : branchSubnet.WellRouted 10 ∧ ∃ s',
    branchSubnet.changeParent (steadyRadio branchSubnet) (.detectNewParentForDevice 13 (some 13) true) = some s' ∧
      ¬Acyclic (Exits s'.graphEdges.find) := by
  have hresult : ∃ s' ∈ branchSubnet.changeParent (steadyRadio branchSubnet)
    (.detectNewParentForDevice 13 (some 13) true),
      s'.graphEdges.find 13 = some ⟨12, 0⟩ ∧ s'.graphEdges.find 12 = some ⟨11, 0⟩ ∧
        s'.graphEdges.find 11 = some ⟨10, 13⟩ := by decide +kernel
  obtain ⟨s', hs', h13, h12, h11⟩ := hresult
  refine ⟨branchSubnet_wellRouted, s', hs', fun hacyclic => hacyclic 13 ?_⟩
  exact .head ⟨_, h13, .inl ⟨by decide, rfl⟩⟩ (.head ⟨_, h12, .inl ⟨by decide, rfl⟩⟩
    (.single ⟨_, h11, .inr ⟨by decide, rfl⟩⟩))

end Isa100Gateway.NetworkEngine
