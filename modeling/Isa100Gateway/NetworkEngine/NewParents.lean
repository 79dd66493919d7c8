import Isa100Gateway.NetworkEngine.RoutingTree

/-!
# Which changes of parents keep the routing tree

The search for a new parent is told by the tests of the source on the backup and on each candidate: when it ends, and which device it comes to. With the backup the change is safe, since the backup does not lead back in an acyclic graph; a candidate is only tested against the clock sources and one exit of its own.
-/

open Relation

namespace Isa100Gateway.NetworkEngine

open Chains FirstFit Iff Option

namespace Subnet

variable {s : Subnet} {backbone : Address16} {radio : RadioState} {child : Address16} {childDevice : Device}
  {avoid : Option Address16} {isUrgent : Bool}

def clockLink (s : Subnet) (radio : RadioState) (dst a : Address16) : Option Address16 :=
  if (s.getDevice a).isSome ∧ a ≠ dst then some (radio.preferedClockSource a) else none

def WalkEnds (s : Subnet) (radio : RadioState) (src dst : Address16) : Prop :=
  ∃ n, climb (s.clockLink radio dst) n src = none

theorem checkPreferedClockSourceCycle_isSome {dst : Address16} (fuel : Nat) : ∀ src,
    (s.checkPreferedClockSourceCycle radio fuel src dst).isSome ↔ climb (s.clockLink radio dst) fuel src = none := by
  induction fuel with
  | zero => exact fun src => intro (fun h => nomatch h) fun h => nomatch h
  | succ fuel ih =>
    intro src
    unfold checkPreferedClockSourceCycle
    rcases hdevice : s.getDevice src with _ | device
    · rw [climb_succ_of_end]
      · exact intro (fun _ => rfl) fun _ => rfl
      · unfold clockLink
        rw [hdevice]
        rfl
    by_cases heq : src = dst
    · rw [if_pos heq, climb_succ_of_end]
      · exact intro (fun _ => rfl) fun _ => rfl
      · exact if_neg fun h => h.2 heq
    · have hlink : s.clockLink radio dst src = some (radio.preferedClockSource src) := by
        unfold clockLink
        rw [if_pos ⟨by rw [hdevice]; rfl, heq⟩]
      rw [if_neg heq, climb_succ_of_link hlink]
      exact ih _

theorem isSome_checkPreferedClockSourceCycle {src dst : Address16} :
    (s.checkPreferedClockSourceCycle radio s.pathFuel src dst).isSome ↔ s.WalkEnds radio src dst := by
  rw [checkPreferedClockSourceCycle_isSome]
  refine ⟨fun h => ⟨_, h⟩, fun ⟨n, hn⟩ => ?_⟩
  refine climb_eq_none_of_ends (s := s.subnetNodes.keys.toFinset) (fun a ha => ?_) s.card_keys_lt_pathFuel hn
  rw [List.mem_toFinset, OrderedMap.mem_keys]
  by_contra hnone
  unfold clockLink at ha
  rw [if_neg fun h => hnone h.1] at ha
  cases ha

theorem isSome_hasPreferedClockSource {a : Address16} :
    (s.hasPreferedClockSource radio a avoid).isSome ↔ ∀ b ∈ avoid, s.WalkEnds radio a b := by
  cases avoid with
  | none => exact intro (fun _ b hb => nomatch hb) fun _ => rfl
  | some b =>
    refine isSome_checkPreferedClockSourceCycle.trans (intro (fun h c hc => ?_) fun h => h b rfl)
    cases hc
    exact h

theorem countLevels_isSome {fuel : Nat} : ∀ {a : Address16} {node : Device} {level : UInt8},
    s.getDevice a = some node → climb s.parentOf fuel a = none → (s.countLevels fuel node level).isSome := by
  induction fuel with
  | zero => exact fun _ hclimb => nomatch hclimb
  | succ fuel ih =>
    intro a node level hnode hclimb
    unfold countLevels
    by_cases hbackbone : node.isBackbone = true
    · rw [if_pos hbackbone]
      rfl
    · rw [if_neg hbackbone]
      rcases hnext : s.getDevice node.parent with _ | parent
      · rfl
      · refine ih hnext ?_
        have hlink : s.parentOf a = some node.parent := by
          unfold parentOf
          rw [hnode, bind_some, hnext, if_pos isSome_some]
        rwa [climb_succ_of_link hlink] at hclimb

theorem checkFailRateOnNewPath_isSome (radio : RadioState) {fuel : Nat} : ∀ (visited : List Address16) {a : Address16},
    climb s.parentOf fuel a = none → (s.checkFailRateOnNewPath radio fuel visited a).isSome := by
  induction fuel with
  | zero =>
    intro _ _ hclimb
    cases hclimb
  | succ fuel ih =>
    intro visited a hclimb
    unfold checkFailRateOnNewPath
    rcases hdevice : s.getDevice a with _ | device
    · rfl
    dsimp only
    split
    · rfl
    split
    · rfl
    rcases hnext : s.getDevice device.parent with _ | parent
    · rfl
    dsimp only
    split
    · rfl
    · refine ih _ ?_
      have hlink : s.parentOf a = some device.parent := by
        unfold parentOf
        rw [hdevice, bind_some, hnext, if_pos isSome_some]
      rwa [climb_succ_of_link hlink] at hclimb

theorem ParentTree.isTooLow_isSome (h : s.ParentTree backbone) (radio : RadioState) (isUrgent : Bool)
    (a : Address16) : (s.isTooLow radio isUrgent a).isSome := by
  unfold isTooLow
  split
  · rfl
  rw [isSome_map]
  unfold getDeviceLevel
  rcases hdevice : s.getDevice a with _ | node
  · rfl
  dsimp only
  split
  · rfl
  · rw [isSome_map]
    exact countLevels_isSome hdevice (h.climb_pathFuel a)

theorem ParentTree.candidateIsGood_isSome (h : s.ParentTree backbone) (radio : RadioState) (child : Address16)
    (childDevice : Device) (candidate : Address16) :
    (s.candidateIsGood radio child childDevice candidate).isSome := by
  unfold candidateIsGood
  rcases s.getDevice candidate with _ | candidateDevice
  · rfl
  dsimp only
  split
  · rfl
  obtain ⟨bad, hbad⟩ := isSome_iff_exists.mp
    (checkFailRateOnNewPath_isSome radio [] (h.climb_pathFuel candidate))
  rw [hbad]
  cases bad <;> rfl

theorem ParentTree.backupIsGood_isSome (h : s.ParentTree backbone) (radio : RadioState) (child : Address16)
    (childDevice : Device)
    (isUrgent : Bool) (backup : Address16) (backupDevice : Device) (has : Bool) :
    (s.backupIsGood radio child childDevice isUrgent backup backupDevice has).isSome := by
  unfold backupIsGood
  split
  · rfl
  obtain ⟨tooLow, htooLow⟩ := isSome_iff_exists.mp (h.isTooLow_isSome radio
    isUrgent backup)
  rw [htooLow]
  cases tooLow <;> rfl

theorem newEdgeCostsMore_isSome (radio : RadioState) (child : Address16) (childDevice : Device)
    (newParent : Address16) :
    (s.newEdgeCostsMore radio child childDevice newParent).isSome = (s.getDevice childDevice.parent).isSome := by
  unfold newEdgeCostsMore
  rcases s.getDevice childDevice.parent with _ | parent
  · rfl
  dsimp only
  split <;> rfl

/-! ## The tests of a search -/

/-- A search for a new parent of a device, with what it reads of the radio. -/
structure ParentSearch where
  radio : RadioState
  child : Address16
  childDevice : Device
  avoid : Option Address16
  isUrgent : Bool

namespace ParentSearch

variable (q : ParentSearch) (s : Subnet)

def backupAsNewParent : Option (Option Address16) :=
  s.backupAsNewParent q.radio q.child q.childDevice q.avoid q.isUrgent

def judgeCandidate (candidate : Address16) : Option Verdict :=
  s.judgeCandidate q.radio q.child q.childDevice q.avoid q.isUrgent candidate

def findNewParent : Option (Option Address16) :=
  s.findNewParent q.radio q.child q.childDevice q.avoid q.isUrgent

/-- The backup before the costs are compared: it is a configured device without a bad rate or a high fail rate, its clock sources do not lead to the device to avoid, and where there is no hurry it is at most one level down. -/
structure BackupPasses : Prop where
  configured : (s.getDevice (s.getBackupFor q.child)).map Device.statusForReports = some .joinedAndConfigured
  rate : q.childDevice.candidateIsBadRate (s.getBackupFor q.child) = false
  avoids : s.hasPreferedClockSource q.radio (s.getBackupFor q.child) q.avoid = some false
  level : s.isTooLow q.radio q.isUrgent (s.getBackupFor q.child) = some false
  failRate : q.radio.hasHighFailRate q.child (s.getBackupFor q.child) = false

structure BackupSuits : Prop extends BackupPasses q s where
  cost : q.isUrgent = false →
    s.newEdgeCostsMore q.radio q.child q.childDevice (s.getBackupFor q.child) = some false

/-- The clock sources of the backup end where a device is to be avoided, and there is an old parent if the costs are compared. -/
structure BackupSettles : Prop where
  walk : (s.getDevice (s.getBackupFor q.child)).isSome → ∀ a ∈ q.avoid, s.WalkEnds q.radio (s.getBackupFor q.child) a
  parent : q.BackupPasses s → q.isUrgent = false → (s.getDevice q.childDevice.parent).isSome

variable (candidate : Address16)

/-- A good candidate whose cost and level are no hindrance, so that its clock sources are followed. -/
structure CandidatePasses : Prop where
  good : s.candidateIsGood q.radio q.child q.childDevice candidate = some true
  cost : q.isUrgent = false → s.newEdgeCostsMore q.radio q.child q.childDevice candidate = some false
  level : s.isTooLow q.radio q.isUrgent candidate = some false

/-- They lead neither to the child nor to the device to avoid, and the last tests hold. -/
structure CandidateSuits : Prop extends CandidatePasses q s candidate where
  isPreferedClockSrcCycle : s.checkPreferedClockSourceCycle q.radio s.pathFuel candidate q.child = some false
  hasPreferedClockSource : s.hasPreferedClockSource q.radio candidate q.avoid = some false
  fits : s.candidateFits q.child q.childDevice candidate false false = true

/-- A good candidate that costs more ends the search where there is no hurry. -/
structure CandidateCostsMore : Prop where
  good : s.candidateIsGood q.radio q.child q.childDevice candidate = some true
  noHurry : q.isUrgent = false
  cost : s.newEdgeCostsMore q.radio q.child q.childDevice candidate = some true

structure CandidateSettles : Prop where
  parent : s.candidateIsGood q.radio q.child q.childDevice candidate = some true → q.isUrgent = false →
    (s.getDevice q.childDevice.parent).isSome
  walks : q.CandidatePasses s candidate →
    s.WalkEnds q.radio candidate q.child ∧ ∀ a ∈ q.avoid, s.WalkEnds q.radio candidate a

/-- The search passes by a candidate: its walks end, it does not suit, and it does not end the search by its cost. -/
structure CandidatePassed : Prop where
  settles : q.CandidateSettles s candidate
  not_suits : ¬q.CandidateSuits s candidate
  not_costsMore : ¬q.CandidateCostsMore s candidate

/-- The search comes to a candidate: the backup does not suit, and every candidate before it in the list is passed by. -/
structure Reaches : Prop where
  backup : q.BackupSettles s
  not_suits : ¬q.BackupSuits s
  passed : ∃ before after, q.childDevice.candidates = before ++ candidate :: after ∧ ∀ c ∈ before, q.CandidatePassed s c

structure Settles : Prop where
  backup : q.BackupSettles s
  candidates : ∀ c, q.Reaches s c → q.CandidateSettles s c

/-- The tests name a backup that suits, and otherwise the first candidate that suits, unless one before it ends the search. -/
inductive Names : Address16 → Prop
  | backup (hsuits : q.BackupSuits s) : Names (s.getBackupFor q.child)
  | candidate {p : Address16} (hreaches : q.Reaches s p) (hsuits : q.CandidateSuits s p) : Names p

variable {q s candidate}

theorem backupIsGood_eq_true {backupDevice : Device} {has : Bool}
    (hdevice : s.getDevice (s.getBackupFor q.child) = some backupDevice)
    (hhas : s.hasPreferedClockSource q.radio (s.getBackupFor q.child) q.avoid = some has) :
    s.backupIsGood q.radio q.child q.childDevice q.isUrgent
      (s.getBackupFor q.child) backupDevice has = some true ↔
      q.BackupPasses s := by
  unfold backupIsGood
  constructor
  · intro hgood
    split at hgood
    · cases hgood
    · next hpass =>
      simp only [not_or, Decidable.not_not, Bool.not_eq_true] at hpass
      obtain ⟨tooLow, hlevel, hrest⟩ := bind_eq_some_iff.mp hgood
      cases tooLow
      · refine ⟨by rw [hdevice, map_some, hpass.1], hpass.2.1, by rw [hhas, hpass.2.2], hlevel, ?_⟩
        simpa using hrest
      · cases hrest
  · rintro ⟨hconfigured, hrate, havoids, hlevel, hfailRate⟩
    rw [hdevice, map_some] at hconfigured
    obtain rfl := Option.some.inj (hhas.symm.trans havoids)
    rw [if_neg, hlevel, hfailRate]
    · rfl
    · simp [Option.some.inj hconfigured, hrate]

/-- The search takes the backup, turns it down or does not end. -/
theorem backupAsNewParent_cases (q : ParentSearch) (h : s.ParentTree backbone) :
    q.backupAsNewParent s = some (some (s.getBackupFor q.child)) ∧ q.BackupSettles s ∧ q.BackupSuits s ∨
      q.backupAsNewParent s = some none ∧ q.BackupSettles s ∧ ¬q.BackupSuits s ∨
      q.backupAsNewParent s = none ∧ ¬q.BackupSettles s ∧ ¬q.BackupSuits s := by
  unfold backupAsNewParent Subnet.backupAsNewParent
  dsimp only
  rcases hdevice : s.getDevice (s.getBackupFor q.child) with _ | backupDevice
  · have hnot : ¬q.BackupPasses s := by
      intro hpasses
      have hconfigured := hpasses.configured
      rw [hdevice] at hconfigured
      cases hconfigured
    refine .inr (.inl ⟨rfl, ⟨?_, fun hpasses => absurd hpasses hnot⟩, fun hsuits => hnot hsuits.toBackupPasses⟩)
    rw [hdevice]
    exact fun hsome => nomatch hsome
  rcases hhas : s.hasPreferedClockSource q.radio (s.getBackupFor q.child) q.avoid with _ | has
  · refine .inr (.inr ⟨rfl, fun hsettles => ?_, fun hsuits => ?_⟩)
    · have hends := isSome_hasPreferedClockSource.mpr (hsettles.walk (by rw [hdevice]; rfl))
      rw [hhas] at hends
      cases hends
    · cases hhas.symm.trans hsuits.avoids
  have hwalk : ∀ a ∈ q.avoid, s.WalkEnds q.radio (s.getBackupFor q.child) a :=
    isSome_hasPreferedClockSource.mp (by rw [hhas]; rfl)
  have hpasses := backupIsGood_eq_true hdevice hhas
  obtain ⟨good, hgood⟩ := isSome_iff_exists.mp (h.backupIsGood_isSome q.radio q.child
    q.childDevice q.isUrgent (s.getBackupFor q.child) backupDevice has)
  rw [hgood] at hpasses
  dsimp only
  rw [bind_eq_bind, bind_some, hgood, bind_some]
  cases good
  · have hnot : ¬q.BackupPasses s := fun h => nomatch hpasses.mpr h
    exact .inr (.inl ⟨rfl, ⟨fun _ => hwalk, fun h => absurd h hnot⟩, fun hsuits => hnot hsuits.toBackupPasses⟩)
  have hpass := hpasses.mp rfl
  by_cases hurgent : q.isUrgent = true
  · have hnot : q.isUrgent ≠ false := by rw [hurgent]; decide
    rw [if_neg (by decide), if_pos hurgent]
    exact .inl ⟨rfl, ⟨fun _ => hwalk, fun _ hfalse => absurd hfalse hnot⟩, ⟨hpass, fun hfalse => absurd hfalse hnot⟩⟩
  have hparent := newEdgeCostsMore_isSome (s := s) q.radio q.child q.childDevice (s.getBackupFor q.child)
  have hnoHurry : q.isUrgent = false := Bool.eq_false_iff.mpr hurgent
  rw [if_neg (by decide), if_neg hurgent]
  rcases hcost : s.newEdgeCostsMore q.radio q.child q.childDevice (s.getBackupFor q.child) with _ | more
  · rw [hcost] at hparent
    refine .inr (.inr ⟨rfl, fun hsettles => ?_, fun hsuits => ?_⟩)
    · have hsome := hsettles.parent hpass hnoHurry
      rw [← hparent] at hsome
      cases hsome
    · cases hcost.symm.trans (hsuits.cost hnoHurry)
  rw [hcost] at hparent
  have hsettles : q.BackupSettles s := ⟨fun _ => hwalk, fun _ _ => hparent.symm⟩
  cases more
  · exact .inl ⟨rfl, hsettles, ⟨hpass, fun _ => hcost⟩⟩
  · refine .inr (.inl ⟨rfl, hsettles, fun hsuits => ?_⟩)
    cases hcost.symm.trans (hsuits.cost hnoHurry)

theorem CandidateSuits.settles (h : q.CandidateSuits s candidate) : q.CandidateSettles s candidate := by
  refine ⟨fun _ hurgent => ?_, fun _ => ⟨?_, ?_⟩⟩
  · rw [← newEdgeCostsMore_isSome q.radio q.child q.childDevice candidate, h.cost hurgent]
    rfl
  · exact isSome_checkPreferedClockSourceCycle.mp (by rw [h.isPreferedClockSrcCycle]; rfl)
  · exact isSome_hasPreferedClockSource.mp (by rw [h.hasPreferedClockSource]; rfl)

theorem CandidateSuits.not_costsMore (h : q.CandidateSuits s candidate) : ¬q.CandidateCostsMore s candidate :=
  fun hcosts => nomatch (h.cost hcosts.noHurry).symm.trans hcosts.cost

def followClockSources (q : ParentSearch) (s : Subnet) (candidate : Address16) : Option Verdict := do
  let isPreferedClockSrcCycle ← s.checkPreferedClockSourceCycle q.radio s.pathFuel candidate q.child
  let hasPreferedClockSource ← s.hasPreferedClockSource q.radio candidate q.avoid
  if s.candidateFits q.child q.childDevice candidate isPreferedClockSrcCycle hasPreferedClockSource then return .take
  return .skip

theorem judgeCandidate_of_good (hgood : s.candidateIsGood q.radio q.child q.childDevice candidate = some true) :
    q.judgeCandidate s candidate =
      if q.isUrgent then q.followClockSources s candidate
      else
        (s.newEdgeCostsMore q.radio q.child q.childDevice candidate).bind fun more =>
          if more then some .stop
          else
            (s.isTooLow q.radio q.isUrgent candidate).bind fun tooLow =>
              if tooLow then some .skip else q.followClockSources s candidate := by
  obtain ⟨radio, child, childDevice, avoid, isUrgent⟩ := q
  unfold judgeCandidate Subnet.judgeCandidate
  rw [hgood]
  cases isUrgent
  · rcases s.newEdgeCostsMore radio child childDevice candidate with _ | more
    · rfl
    · cases more
      · rcases s.isTooLow radio false candidate with _ | tooLow
        · rfl
        · cases tooLow <;> rfl
      · rfl
  · rfl

theorem followClockSources_cases (hpasses : q.CandidatePasses s candidate) :
    q.followClockSources s candidate = some .take ∧ q.CandidateSuits s candidate ∨
      q.followClockSources s candidate = some .skip ∧ q.CandidatePassed s candidate ∨
      q.followClockSources s candidate = none ∧ ¬q.CandidateSettles s candidate := by
  unfold followClockSources
  rcases hcycle : s.checkPreferedClockSourceCycle q.radio s.pathFuel candidate q.child with _ | isCycle
  · refine .inr (.inr ⟨rfl, fun hsettles => ?_⟩)
    have hends := isSome_checkPreferedClockSourceCycle.mpr (hsettles.walks hpasses).1
    rw [hcycle] at hends
    cases hends
  rcases hhas : s.hasPreferedClockSource q.radio candidate q.avoid with _ | has
  · refine .inr (.inr ⟨rfl, fun hsettles => ?_⟩)
    have hends := isSome_hasPreferedClockSource.mpr (hsettles.walks hpasses).2
    rw [hhas] at hends
    cases hends
  rw [bind_eq_bind, bind_some, bind_some]
  by_cases hfits : s.candidateFits q.child q.childDevice candidate isCycle has = true
  · have hboth : isCycle = false ∧ has = false := by
      unfold candidateFits at hfits
      simp only [Bool.decide_and, Bool.and_eq_true, decide_eq_true_eq, Bool.not_eq_eq_eq_not, Bool.not_true] at hfits
      exact ⟨hfits.2.1, hfits.2.2.1⟩
    obtain ⟨rfl, rfl⟩ := hboth
    rw [if_pos hfits]
    exact .inl ⟨rfl, hpasses, hcycle, hhas, hfits⟩
  · rw [if_neg hfits]
    refine .inr (.inl ⟨rfl, ⟨fun _ hurgent => ?_, fun _ => ⟨?_, ?_⟩⟩, fun hsuits => hfits ?_, fun hcosts => ?_⟩)
    · rw [← newEdgeCostsMore_isSome q.radio q.child q.childDevice candidate, hpasses.cost hurgent]
      rfl
    · exact isSome_checkPreferedClockSourceCycle.mp (by rw [hcycle]; rfl)
    · exact isSome_hasPreferedClockSource.mp (by rw [hhas]; rfl)
    · obtain rfl := Option.some.inj (hcycle.symm.trans hsuits.isPreferedClockSrcCycle)
      obtain rfl := Option.some.inj (hhas.symm.trans hsuits.hasPreferedClockSource)
      exact hsuits.fits
    · cases (hpasses.cost hcosts.noHurry).symm.trans hcosts.cost

/-- A candidate is taken, ends the search by its cost, is passed by, or has clock sources that do not end. -/
theorem judgeCandidate_cases (q : ParentSearch) (h : s.ParentTree backbone) (candidate : Address16) :
    q.judgeCandidate s candidate = some .take ∧ q.CandidateSuits s candidate ∨
      q.judgeCandidate s candidate = some .stop ∧ q.CandidateCostsMore s candidate ∧ q.CandidateSettles s candidate ∨
      q.judgeCandidate s candidate = some .skip ∧ q.CandidatePassed s candidate ∨
      q.judgeCandidate s candidate = none ∧ ¬q.CandidateSettles s candidate := by
  have hfollow : q.CandidatePasses s candidate → q.judgeCandidate s candidate = q.followClockSources s candidate →
      q.judgeCandidate s candidate = some .take ∧ q.CandidateSuits s candidate ∨
        q.judgeCandidate s candidate = some .stop ∧ q.CandidateCostsMore s candidate ∧ q.CandidateSettles s candidate ∨
        q.judgeCandidate s candidate = some .skip ∧ q.CandidatePassed s candidate ∨
        q.judgeCandidate s candidate = none ∧ ¬q.CandidateSettles s candidate := by
    intro hpasses heq
    rw [heq]
    exact (followClockSources_cases hpasses).imp_right .inr
  obtain ⟨good, hgood⟩ := isSome_iff_exists.mp (h.candidateIsGood_isSome q.radio q.child q.childDevice candidate)
  cases good
  · have hnot : s.candidateIsGood q.radio q.child q.childDevice candidate ≠ some true := by rw [hgood]; decide
    refine .inr (.inr (.inl ⟨?_, ⟨fun h => absurd h hnot, fun h => absurd h.good hnot⟩, fun h => hnot h.good,
      fun h => hnot h.good⟩))
    unfold judgeCandidate Subnet.judgeCandidate
    rw [hgood]
    rfl
  have hjudge := judgeCandidate_of_good hgood
  by_cases hurgent : q.isUrgent = true
  · rw [if_pos hurgent] at hjudge
    exact hfollow ⟨hgood, fun hnot => absurd (hurgent.symm.trans hnot) (by decide), if_pos hurgent⟩ hjudge
  rw [if_neg hurgent] at hjudge
  have hnoHurry : q.isUrgent = false := Bool.eq_false_iff.mpr hurgent
  have hparent := newEdgeCostsMore_isSome (s := s) q.radio q.child q.childDevice candidate
  rcases hcost : s.newEdgeCostsMore q.radio q.child q.childDevice candidate with _ | more
  · rw [hcost] at hjudge hparent
    refine .inr (.inr (.inr ⟨hjudge, fun hsettles => ?_⟩))
    have hsome := hsettles.parent hgood hnoHurry
    rw [← hparent] at hsome
    cases hsome
  rw [hcost] at hjudge hparent
  cases more
  swap
  · refine .inr (.inl ⟨hjudge, ⟨hgood, hnoHurry, hcost⟩, ⟨fun _ _ => hparent.symm, fun h => ?_⟩⟩)
    cases hcost.symm.trans (h.cost hnoHurry)
  obtain ⟨tooLow, hlevel⟩ := isSome_iff_exists.mp (h.isTooLow_isSome q.radio q.isUrgent candidate)
  rw [hlevel] at hjudge
  cases tooLow
  · exact hfollow ⟨hgood, fun _ => hcost, hlevel⟩ hjudge
  · have hnot : ¬q.CandidatePasses s candidate := fun hpasses => nomatch hlevel.symm.trans hpasses.level
    refine .inr (.inr (.inl ⟨hjudge, ⟨fun _ _ => hparent.symm, fun h => absurd h hnot⟩, fun h =>
      hnot h.toCandidatePasses,
      fun h => ?_⟩))
    cases hcost.symm.trans h.cost

theorem judgeCandidate_isSome (h : s.ParentTree backbone) :
    (q.judgeCandidate s candidate).isSome ↔ q.CandidateSettles s candidate := by
  rcases judgeCandidate_cases q h candidate with hcase | hcase | hcase | hcase
  · simp [hcase, hcase.2.settles]
  · simp [hcase]
  · simp [hcase, hcase.2.settles]
  · simp [hcase]

theorem judgeCandidate_eq_skip (h : s.ParentTree backbone) :
    q.judgeCandidate s candidate = some .skip ↔ q.CandidatePassed s candidate := by
  rcases judgeCandidate_cases q h candidate with hcase | hcase | hcase | hcase
  · have hnot : ¬q.CandidatePassed s candidate := fun hpassed => hpassed.not_suits hcase.2
    simp [hcase, hnot]
  · have hnot : ¬q.CandidatePassed s candidate := fun hpassed => hpassed.not_costsMore hcase.2.1
    simp [hcase, hnot]
  · simp [hcase]
  · have hnot : ¬q.CandidatePassed s candidate := fun hpassed => hcase.2 hpassed.settles
    simp [hcase, hnot]

theorem judgeCandidate_eq_take (h : s.ParentTree backbone) :
    q.judgeCandidate s candidate = some .take ↔ q.CandidateSuits s candidate := by
  rcases judgeCandidate_cases q h candidate with hcase | hcase | hcase | hcase
  · simp [hcase]
  · have hnot : ¬q.CandidateSuits s candidate := fun hsuits => hsuits.not_costsMore hcase.2.1
    simp [hcase, hnot]
  · simp [hcase, hcase.2.not_suits]
  · have hnot : ¬q.CandidateSuits s candidate := fun hsuits => hcase.2 hsuits.settles
    simp [hcase, hnot]

theorem reaches_iff (h : s.ParentTree backbone) :
    q.Reaches s candidate ↔ q.backupAsNewParent s = some none ∧
      Comes (q.judgeCandidate s) q.childDevice.candidates candidate := by
  have hbackup : q.backupAsNewParent s = some none ↔ q.BackupSettles s ∧ ¬q.BackupSuits s := by
    rcases backupAsNewParent_cases q h with hcase | hcase | hcase
    · simp [hcase]
    · simp [hcase]
    · simp [hcase]
  rw [hbackup, comes_iff]
  simp only [judgeCandidate_eq_skip h]
  exact intro (fun hr => ⟨⟨hr.backup, hr.not_suits⟩, hr.passed⟩) fun hr => ⟨hr.1.1, hr.1.2, hr.2⟩

theorem findNewParent_eq : q.findNewParent s = (q.backupAsNewParent s).bind fun
    | some backup => some (some backup)
    | none => firstFit (q.judgeCandidate s) q.childDevice.candidates := rfl

theorem findNewParent_isSome (h : s.ParentTree backbone) : (q.findNewParent s).isSome ↔ q.Settles s := by
  have hsettles : q.Settles s ↔ q.BackupSettles s ∧
      (q.backupAsNewParent s = some none → (firstFit (q.judgeCandidate s) q.childDevice.candidates).isSome) := by
    rw [firstFit_isSome]
    constructor
    · exact fun hs => ⟨hs.backup, fun hnone c hc =>
        (judgeCandidate_isSome h).mpr (hs.candidates c ((reaches_iff h).mpr ⟨hnone, hc⟩))⟩
    · refine fun hs => ⟨hs.1, fun c hc => ?_⟩
      obtain ⟨hnone, hcomes⟩ := (reaches_iff h).mp hc
      exact (judgeCandidate_isSome h).mp (hs.2 hnone c hcomes)
  rw [hsettles, findNewParent_eq]
  rcases backupAsNewParent_cases q h with ⟨hcase, hs, -⟩ | ⟨hcase, hs, -⟩ | ⟨hcase, hs, -⟩
  · simp [hcase, hs]
  · simp [hcase, hs]
  · simp [hcase, hs]

theorem findNewParent_eq_some (h : s.ParentTree backbone) {p : Address16} :
    q.findNewParent s = some (some p) ↔ q.Names s p := by
  rw [findNewParent_eq]
  rcases backupAsNewParent_cases q h with ⟨hcase, -, hsuits⟩ | ⟨hcase, -, hsuits⟩ | ⟨hcase, hs, hsuits⟩
  · rw [hcase, bind_some]
    constructor
    · intro hp
      cases hp
      exact .backup hsuits
    · rintro (_ | ⟨hreaches, -⟩)
      · rfl
      · exact absurd hsuits hreaches.not_suits
  · rw [hcase, bind_some]
    refine Iff.trans firstFit_eq_some (intro (fun hfit => ?_) ?_)
    · exact .candidate ((reaches_iff h).mpr ⟨hcase, hfit.1⟩) ((judgeCandidate_eq_take h).mp hfit.2)
    · rintro (hbackup | ⟨hreaches, htaken⟩)
      · exact absurd hbackup hsuits
      · exact ⟨((reaches_iff h).mp hreaches).2, (judgeCandidate_eq_take h).mpr htaken⟩
  · rw [hcase, bind_none]
    refine intro (fun hnone => nomatch hnone) ?_
    rintro (hbackup | ⟨hreaches, -⟩)
    · exact absurd hbackup hsuits
    · exact absurd hreaches.backup hs

theorem Names.isSome {p : Address16} (h : q.Names s p) : (s.getDevice p).isSome := by
  cases h with
  | backup hsuits =>
    rw [← isSome_map (f := Device.statusForReports), hsuits.configured]
    rfl
  | candidate _ hsuits =>
    have hgood := hsuits.good
    rcases hdevice : s.getDevice p with _ | device
    · unfold candidateIsGood at hgood
      rw [hdevice] at hgood
      cases Option.some.inj hgood
    · rfl

end ParentSearch

end Subnet

end Isa100Gateway.NetworkEngine
