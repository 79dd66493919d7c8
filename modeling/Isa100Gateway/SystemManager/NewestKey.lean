import Isa100Gateway.SystemManager.JoinSecurity

/-!
# The newest active key (`SecurityManager.cpp`)

The walk over the master or subnet keys of a device starts with the first key that is there, whatever it is, and goes on to a committed key of a greater hard lifetime as long as the key it holds is valid already.
-/

namespace Isa100Gateway.SystemManager

def getNewestActiveMasterKey : UInt32 → List (Attribute PhySpecialKey) → Option PhySpecialKey :=
  getNewestActiveSubnetKey

namespace NewestKey

variable (currentTAI : UInt32)

def present (entries : List (Attribute PhySpecialKey)) : List (PhySpecialKey × Bool) :=
  entries.filterMap fun entry => entry.currentValue.map (·, entry.isPending)

def Active (entry : PhySpecialKey × Bool) : Prop := entry.2 = false ∧ entry.1.policy.notValidBefore ≤ currentTAI

/-- What the selection is for. -/
structure Selects (keys : List (PhySpecialKey × Bool)) (newestKey : Option PhySpecialKey) : Prop where
  active : (∃ entry ∈ keys, Active currentTAI entry) → ∃ key ∈ newestKey, (key, false) ∈ keys ∧
    key.policy.notValidBefore ≤ currentTAI ∧ ∀ other ∈ keys, Active currentTAI other → other.1.hardLifeTime ≤
      key.hardLifeTime
  idle : (∀ entry ∈ keys, ¬Active currentTAI entry) → ∀ key ∈ newestKey, key.policy.notValidBefore ≤ currentTAI

/-- No committed key that outlives all before it is still to become valid. -/
def Ready (hardLifeTime : UInt32) : List (PhySpecialKey × Bool) → Prop
  | [] => True
  | (key, isPending) :: rest =>
    if hardLifeTime < key.hardLifeTime ∧ isPending = false then
      key.policy.notValidBefore ≤ currentTAI ∧ Ready key.hardLifeTime rest
    else Ready hardLifeTime rest

/-- When the code does it: the first key is valid already, no other that the walk goes on to is not, and a pending first
key does not win while there is an active one. -/
def Meets : List (PhySpecialKey × Bool) → Prop
  | [] => True
  | (key, isPending) :: rest =>
    key.policy.notValidBefore ≤ currentTAI ∧ Ready currentTAI key.hardLifeTime rest ∧
      (isPending = true → (∃ entry ∈ rest, Active currentTAI entry) →
        (key, false) ∈ rest ∨ ∃ entry ∈ rest, entry.2 = false ∧ key.hardLifeTime < entry.1.hardLifeTime)

def better (newestKey : PhySpecialKey) (entry : PhySpecialKey × Bool) : PhySpecialKey :=
  if newestKey.hardLifeTime < entry.1.hardLifeTime ∧ newestKey.policy.notValidBefore ≤ currentTAI ∧ entry.2 = false then
    entry.1
  else newestKey

variable {currentTAI} {entries : List (Attribute PhySpecialKey)} {rest : List (PhySpecialKey × Bool)}
    {key : PhySpecialKey}

theorem getNewest_absent (isPending : Bool) :
    getNewestActiveSubnetKey currentTAI (⟨none, isPending⟩ :: entries) =
      getNewestActiveSubnetKey currentTAI entries := by
  cases entries with
  | nil => rfl
  | cons entry entries =>
    obtain ⟨currentValue, isPending⟩ := entry
    cases currentValue with
    | none => rfl
    | some key => simp [getNewestActiveSubnetKey]

theorem getNewest_present (isPending : Bool) :
    getNewestActiveSubnetKey currentTAI (⟨some key, isPending⟩ :: entries) =
      some ((present entries).foldl (better currentTAI) key) := by
  induction entries generalizing key with
  | nil => rfl
  | cons entry entries ih =>
    obtain ⟨currentValue, pending⟩ := entry
    cases currentValue with
    | none => exact ih
    | some other =>
      refine Eq.trans ?_ (@ih (better currentTAI key (other, pending)))
      simp only [getNewestActiveSubnetKey, List.foldl_cons, Option.getD_some, better]
      split <;> rfl

theorem getNewest_eq (entries : List (Attribute PhySpecialKey)) : getNewestActiveSubnetKey currentTAI entries =
    (present entries).head?.map fun first => (present entries).tail.foldl (better currentTAI) first.1 := by
  induction entries with
  | nil => rfl
  | cons entry entries ih =>
    obtain ⟨currentValue, isPending⟩ := entry
    cases currentValue with
    | none =>
      rw [getNewest_absent, ih]
      rfl
    | some key => exact getNewest_present isPending

theorem foldl_stays (h : currentTAI < key.policy.notValidBefore) : rest.foldl (better currentTAI) key = key := by
  induction rest with
  | nil => rfl
  | cons entry rest ih =>
    have hsame : better currentTAI key entry = key := if_neg fun hbetter => absurd hbetter.2.1 (UInt32.not_le.mpr h)
    rw [List.foldl_cons, hsame, ih]

theorem foldl_ready (h : key.policy.notValidBefore ≤ currentTAI) :
    (rest.foldl (better currentTAI) key).policy.notValidBefore ≤ currentTAI ↔
      Ready currentTAI key.hardLifeTime rest := by
  induction rest generalizing key with
  | nil => exact iff_of_true h trivial
  | cons entry rest ih =>
    obtain ⟨other, isPending⟩ := entry
    rw [List.foldl_cons, Ready, better]
    by_cases hgreater : key.hardLifeTime < other.hardLifeTime ∧ isPending = false
    · rw [if_pos ⟨hgreater.1, h, hgreater.2⟩, if_pos hgreater]
      by_cases hvalid : other.policy.notValidBefore ≤ currentTAI
      · rw [ih hvalid, and_iff_right hvalid]
      · rw [foldl_stays (UInt32.not_le.mp hvalid)]
        exact iff_of_false hvalid fun hready => hvalid hready.1
    · rw [if_neg fun hbetter => hgreater ⟨hbetter.1, hbetter.2.2⟩, if_neg hgreater]
      exact ih h

theorem foldl_greatest (h : key.policy.notValidBefore ≤ currentTAI) (hready : Ready currentTAI key.hardLifeTime rest) :
    let newestKey := rest.foldl (better currentTAI) key
    (newestKey = key ∨ (newestKey, false) ∈ rest ∧ key.hardLifeTime < newestKey.hardLifeTime) ∧
      ∀ entry ∈ rest, entry.2 = false → entry.1.hardLifeTime ≤ newestKey.hardLifeTime := by
  induction rest generalizing key with
  | nil => exact ⟨.inl rfl, fun _ hentry => (nomatch hentry)⟩
  | cons entry rest ih =>
    obtain ⟨other, isPending⟩ := entry
    rw [Ready] at hready
    rw [List.foldl_cons, better]
    by_cases hgreater : key.hardLifeTime < other.hardLifeTime ∧ isPending = false
    · rw [if_pos hgreater] at hready
      rw [if_pos ⟨hgreater.1, h, hgreater.2⟩]
      obtain ⟨hends, hall⟩ := ih hready.1 hready.2
      have hother : other.hardLifeTime ≤ (rest.foldl (better currentTAI) other).hardLifeTime := by
        rcases hends with heq | ⟨-, hlt⟩
        · rw [heq]
          exact UInt32.le_refl _
        · exact UInt32.le_of_lt hlt
      refine ⟨.inr ⟨?_, UInt32.lt_of_lt_of_le hgreater.1 hother⟩, List.forall_mem_cons.mpr ⟨fun _ => hother, hall⟩⟩
      rcases hends with heq | ⟨hmem, -⟩
      · rw [heq, hgreater.2]
        exact List.mem_cons_self
      · exact List.mem_cons_of_mem _ hmem
    · rw [if_neg hgreater] at hready
      rw [if_neg fun hbetter => hgreater ⟨hbetter.1, hbetter.2.2⟩]
      obtain ⟨hends, hall⟩ := ih h hready
      refine ⟨hends.imp_right fun hmore => ⟨List.mem_cons_of_mem _ hmore.1, hmore.2⟩,
        List.forall_mem_cons.mpr ⟨?_, hall⟩⟩
      intro hcommitted
      have hle : other.hardLifeTime ≤ key.hardLifeTime := UInt32.not_lt.mp fun hlt => hgreater ⟨hlt, hcommitted⟩
      rcases hends with heq | ⟨-, hlt⟩
      · rwa [heq]
      · exact UInt32.le_trans hle (UInt32.le_of_lt hlt)

theorem selects_foldl_iff (isPending : Bool) :
    Selects currentTAI ((key, isPending) :: rest) (some (rest.foldl (better currentTAI) key)) ↔
      Meets currentTAI ((key, isPending) :: rest) := by
  generalize hnewest : rest.foldl (better currentTAI) key = newestKey
  constructor
  · intro h
    -- whichever case it is, the key at the end is valid
    have hvalid : newestKey.policy.notValidBefore ≤ currentTAI := by
      by_cases hactive : ∃ entry ∈ (key, isPending) :: rest, Active currentTAI entry
      · obtain ⟨_, heq, -, hvalid, -⟩ := h.active hactive
        exact Option.some.inj heq ▸ hvalid
      · exact h.idle (fun entry hentry hat => hactive ⟨entry, hentry, hat⟩) newestKey rfl
    have hfirst : key.policy.notValidBefore ≤ currentTAI := by
      by_contra hlater
      rw [foldl_stays (UInt32.not_le.mp hlater)] at hnewest
      exact hlater (hnewest ▸ hvalid)
    have hready := (foldl_ready hfirst).mp (hnewest.symm ▸ hvalid)
    refine ⟨hfirst, hready, fun hpending ⟨entry, hentry, hat⟩ => ?_⟩
    obtain ⟨_, heq, hmem, -, -⟩ := h.active ⟨entry, List.mem_cons_of_mem _ hentry, hat⟩
    cases heq
    have hrest : (newestKey, false) ∈ rest := by
      rcases List.mem_cons.mp hmem with heq | hrest
      · exact absurd ((Prod.mk.inj heq).2.trans hpending) Bool.false_ne_true
      · exact hrest
    rcases (foldl_greatest hfirst hready).1 with heq | ⟨-, hlt⟩
    · exact .inl (heq ▸ hnewest ▸ hrest)
    · exact .inr ⟨_, hrest, rfl, hnewest ▸ hlt⟩
  · rintro ⟨hfirst, hready, hpending⟩
    have hvalid := (foldl_ready hfirst).mpr hready
    obtain ⟨hends, hall⟩ := foldl_greatest hfirst hready
    rw [hnewest] at hvalid hends hall
    refine ⟨?_, fun _ _ hnew => Option.some.inj hnew ▸ hvalid⟩
    rintro ⟨entry, hentry, hat⟩
    have hmem : (newestKey, false) ∈ (key, isPending) :: rest := by
      rcases hends with rfl | ⟨hmem, -⟩
      · cases isPending with
        | false => exact List.mem_cons_self
        | true =>
          have hrest : entry ∈ rest := by
            rcases List.mem_cons.mp hentry with rfl | hrest
            · cases hat.1
            · exact hrest
          rcases hpending rfl ⟨entry, hrest, hat⟩ with hsame | ⟨other, hother, hcommitted, hlt⟩
          · exact List.mem_cons_of_mem _ hsame
          · exact absurd (hall other hother hcommitted) (UInt32.not_le.mpr hlt)
      · exact List.mem_cons_of_mem _ hmem
    refine ⟨newestKey, rfl, hmem, hvalid, List.forall_mem_cons.mpr ⟨fun _ => ?_, fun other hother hat =>
      hall other hother hat.1⟩⟩
    rcases hends with rfl | ⟨-, hlt⟩
    · exact UInt32.le_refl _
    · exact UInt32.le_of_lt hlt

/-- The two functions select the newest active key exactly of the tables that meet the condition. -/
theorem newest_key_selected_iff (currentTAI : UInt32) (entries : List (Attribute PhySpecialKey)) :
    (Selects currentTAI (present entries) (getNewestActiveMasterKey currentTAI entries) ↔
      Meets currentTAI (present entries)) ∧
      (Selects currentTAI (present entries) (getNewestActiveSubnetKey currentTAI entries) ↔
        Meets currentTAI (present entries)) := by
  have hsubnet : Selects currentTAI (present entries) (getNewestActiveSubnetKey currentTAI entries) ↔
      Meets currentTAI (present entries) := by
    rw [getNewest_eq]
    rcases present entries with _ | ⟨⟨key, isPending⟩, rest⟩
    · refine iff_of_true ⟨?_, fun _ _ hnew => (nomatch hnew)⟩ trivial
      rintro ⟨_, hentry, -⟩
      cases hentry
    · exact selects_foldl_iff isPending
  exact ⟨hsubnet, hsubnet⟩

def sampleKey (keyID : UInt8) (notValidBefore hardLifeTime : UInt32) : Attribute PhySpecialKey :=
  ⟨some { PhySpecialKey.initial with keyID, policy := { Policy.initial with notValidBefore }, hardLifeTime }, false⟩

/-- The key that becomes valid at 1000 is selected at 10, though the other one is active. -/
theorem future_key_selected : ¬Selects 10 (present [sampleKey 1 0 500, sampleKey 2 1000 2000])
      (getNewestActiveMasterKey 10 [sampleKey 1 0 500, sampleKey 2 1000 2000]) := by
  intro h
  obtain ⟨key, hkey, -, hvalid, -⟩ := h.active ⟨_, List.mem_cons_self, rfl, by decide⟩
  cases hkey
  exact absurd hvalid (by decide)

end NewestKey

end Isa100Gateway.SystemManager
