import Isa100Gateway.NetworkEngine.ParentChange
import Isa100Gateway.Lib.Run
import Mathlib.Data.List.GetD

/-!
# The list of parent candidates (`Subnet.cpp`, `TheoreticAttributes.cpp`)

The array `candidates` of a device. Before every operation the devices, their room for children and the costs of the edges may be others. A result is missing where the source writes behind the array.
-/

namespace Isa100Gateway.NetworkEngine.CandidateList

open List

structure Surroundings where
  isDevice : Address16 → Bool
  isDevice_zero : isDevice 0 = false
  hasChildSpace : Address16 → Bool
  subnetEdges : Address16 → Option (UInt16 → Int)
  getNumberOfChildren : Address16 → UInt16

namespace Surroundings

variable (env : Surroundings)

def cost (a : Address16) : Option Int := (env.subnetEdges a).map fun evalEdgeCost =>
    evalEdgeCost (env.getNumberOfChildren a)

def deviceCost (a : Address16) : Option Int := if env.isDevice a then env.cost a else none

def sortRound (candidates : List Address16) (i j : Nat) : List Address16 :=
  match env.deviceCost (candidates.getD i 0), env.deviceCost (candidates.getD j 0) with
  | some costI, some costJ =>
    if costI < costJ then (candidates.set i (candidates.getD j 0)).set j (candidates.getD i 0) else candidates
  | _, _ => candidates

def sortCandidates (candidates : List Address16) : List Address16 :=
  (range maxNoCandidates).foldl (fun candidates i => (range i).foldl (env.sortRound · i ·) candidates) candidates

end Surroundings

/-- Behind the first place the zero goes to `candidates[8 - position]`. -/
def deleteCandidateFromPosition (candidates : List Address16) (position : Nat) : Option (List Address16) :=
  if maxNoCandidates ≤ position then some candidates
  else if position = 0 then none
  else some (Device.deleteCandidateFromPosition candidates position)

def deleteCandidate (candidates : List Address16) (candidate : Address16) : Option (List Address16) :=
  (range maxNoCandidates).foldlM (fun candidates i =>
    if candidates[i]? = some candidate then deleteCandidateFromPosition candidates i else some candidates) candidates

def insertAt (candidates : List Address16) (i : Nat) (candidate : Address16) : List Address16 :=
  (candidates.insertIdx i candidate).take maxNoCandidates

variable (env : Surroundings) (candidate16 : Address16) (costCandidate : Int)

def compareNext (candidates : List Address16) (i : Nat) (goesOn : Option (List Address16)) : Option (List Address16) :=
  if candidates.getD (i + 1) 0 = 0 then some (candidates.set (i + 1) candidate16)
  else
    match env.deviceCost (candidates.getD (i + 1) 0) with
    | none => some (candidates.set (i + 1) candidate16)
    | some costToCandidateII =>
      if costCandidate < costToCandidateII then some (insertAt candidates (i + 1) candidate16) else goesOn

def deleteOrSet (candidates : List Address16) (i : Nat) (goesOn : List Address16 → Option (List Address16)) :
    Option (List Address16) :=
  (deleteCandidateFromPosition candidates i).bind fun candidates =>
    if candidates.getD i 0 = 0 then some (candidates.set i candidate16) else goesOn candidates

def insertLoop : Nat → Nat → List Address16 → Option (List Address16)
  | 0, _, _ => none
  | rounds + 1, i, candidates =>
    let candidateI := candidates.getD i 0
    let compare (candidates : List Address16) : Option (List Address16) :=
      match env.subnetEdges candidateI with
      | none => deleteOrSet candidate16 candidates i (insertLoop rounds i)
      | some evalEdgeCost =>
        if evalEdgeCost (env.getNumberOfChildren (candidates.getD i 0)) ≤ costCandidate then
          if candidates.getD i 0 = candidate16 then some (env.sortCandidates candidates)
          else compareNext env candidate16 costCandidate candidates i (insertLoop rounds (i + 1) candidates)
        else some (insertAt candidates i candidate16)
    let checkSpace (candidates : List Address16) : Option (List Address16) :=
      if env.isDevice candidateI ∧ env.hasChildSpace candidateI then compare candidates
      else if i = 0 then none
      else compare ((candidates.eraseIdx i ++ [candidates.getD 7 0]).set (maxNoCandidates - i) 0)
    if maxNoCandidates - 1 ≤ i then some candidates
    else if env.isDevice candidateI then checkSpace candidates
    else deleteOrSet candidate16 candidates i checkSpace

/-- A round that stays at its place shortens the list. -/
def maxRounds : Nat := 64

def addDeviceCandidate (candidates : List Address16) : Option (List Address16) :=
  if env.isDevice candidate16 then
    (if candidate16 ∈ candidates then deleteCandidate candidates candidate16 else
      some candidates).bind fun candidates =>
      match if env.hasChildSpace candidate16 then env.cost candidate16 else none with
      | none => some candidates
      | some costCandidate =>
        if candidates.getD 0 0 = 0 then some (candidates.set 0 candidate16)
        else insertLoop env candidate16 costCandidate maxRounds 0 candidates
  else some candidates

inductive Event where
  | addDeviceCandidate (env : Surroundings) (candidate16 : Address16)
  | deleteCandidate (candidate : Address16)
  | deleteCandidateFromPosition (position : Nat)
  | sortCandidates (env : Surroundings)
  /-- Of the two lists that `addBadRateCandidate` deletes from, one. -/
  | addBadRateCandidate (neighbor : Address16)

def step (candidates : List Address16) : Event → Option (List Address16)
  | .addDeviceCandidate env candidate16 => addDeviceCandidate env candidate16 candidates
  | .deleteCandidate candidate => deleteCandidate candidates candidate
  | .deleteCandidateFromPosition position => deleteCandidateFromPosition candidates position
  | .sortCandidates env => some (env.sortCandidates candidates)
  | .addBadRateCandidate neighbor => deleteCandidate candidates neighbor

def start : List Address16 := replicate maxNoCandidates 0

def entries (candidates : List Address16) : List Address16 := candidates.filter (· ≠ 0)

def pad (l : List Address16) : List Address16 := l ++ replicate (maxNoCandidates - l.length) 0

/-- Each candidate once, and all zeros at the end. -/
structure Tidy (candidates : List Address16) : Prop where
  length : candidates.length = maxNoCandidates
  eq_pad : candidates = pad (entries candidates)
  nodup : (entries candidates).Nodup

def InOrder (l : List Address16) : Prop := l.Pairwise fun a b => ∀ j ∈ env.cost a, ∀ k ∈ env.cost b, j ≤ k

/-- What the operations are for. -/
def Lawful (candidates : List Address16) : Event → List Address16 → Prop
  | .addDeviceCandidate env candidate16, candidates' =>
    entries candidates' ⊆ candidate16 :: entries candidates ∧
      (env.isDevice candidate16 → env.hasChildSpace candidate16 → (env.cost candidate16).isSome →
        InOrder env (entries candidates'))
  | .deleteCandidate c, candidates' | .addBadRateCandidate c, candidates' =>
    entries candidates' = (entries candidates).erase c
  | .deleteCandidateFromPosition position, candidates' => entries candidates' = (entries candidates).eraseIdx position
  | .sortCandidates _, candidates' => (entries candidates').Perm (entries candidates)

/-- The zero goes behind the candidates that are left. -/
def Clears (l : List Address16) (position : Nat) : Prop :=
  position = 7 ∨ 1 ≤ position ∧ position + (l.eraseIdx position).length ≤ maxNoCandidates

def Deletes (candidates : List Address16) (candidate : Address16) : Prop :=
  ∀ position < maxNoCandidates, candidates[position]? = some candidate → Clears (entries candidates) position

def passes (a : Address16) : Bool := (env.deviceCost a).any (· ≤ costCandidate)

/-- The list is in order, the first candidate has an edge, none that the walk passes is gone or full, and a candidate
without a device or an edge that is overwritten has none cheaper behind it. -/
structure Inserts (l : List Address16) : Prop where
  inOrder : InOrder env l
  head : ∀ a ∈ l.head?, env.hasChildSpace a ∧ (env.deviceCost a).isSome
  space : ∀ a ∈ (l.takeWhile (passes env costCandidate)).take 7, env.hasChildSpace a
  overwritten : ∀ a ∈ (l.dropWhile (passes env costCandidate)).head?, env.deviceCost a = none →
    ∀ b ∈ (l.dropWhile (passes env costCandidate)).tail, ∀ k ∈ env.cost b, costCandidate ≤ k

/-- When the code does it. -/
def Meets (candidates : List Address16) : Event → Prop
  | .addDeviceCandidate env candidate16 =>
    env.isDevice candidate16 → Deletes candidates candidate16 ∧
      (env.hasChildSpace candidate16 → ∀ costCandidate ∈ env.cost candidate16,
        Inserts env costCandidate ((entries candidates).erase candidate16))
  | .deleteCandidate c | .addBadRateCandidate c => Deletes candidates c
  | .deleteCandidateFromPosition position => position < maxNoCandidates → Clears (entries candidates) position
  | .sortCandidates _ => True

structure Good (l : List Address16) : Prop where
  length : l.length ≤ maxNoCandidates
  ne_zero : 0 ∉ l
  nodup : l.Nodup

variable {env candidate16 costCandidate} {l l' candidates : List Address16} {p i j : Nat} {c : Address16}

theorem entries_pad (h : 0 ∉ l) : entries (pad l) = l := by
  have hself : l.filter (· ≠ 0) = l := filter_eq_self.mpr fun a ha => by
    have hne : a ≠ 0 := fun heq => h (heq ▸ ha)
    simpa using hne
  rw [entries, pad, filter_append, hself, filter_replicate]
  simp

theorem length_pad (h : l.length ≤ maxNoCandidates) : (pad l).length = maxNoCandidates := by
  rw [pad, length_append, length_replicate]
  omega

theorem Good.tidy (h : Good l) : Tidy (pad l) := by
  have hentries := entries_pad h.ne_zero
  exact ⟨length_pad h.length, by rw [hentries], by rw [hentries]; exact h.nodup⟩

theorem Tidy.good (h : Tidy candidates) : Good (entries candidates) :=
  ⟨h.length ▸ length_filter_le _ _, by simp [entries], h.nodup⟩

theorem Good.sublist (h : Good l) (hsub : l'.Sublist l) : Good l' :=
  ⟨hsub.length_le.trans h.length, fun hmem => h.ne_zero (hsub.subset hmem), h.nodup.sublist hsub⟩

theorem eraseIdx_pad (h : l.length ≤ maxNoCandidates) (hp : p < maxNoCandidates) :
    (pad l).eraseIdx p ++ [0] = pad (l.eraseIdx p) := by
  unfold pad maxNoCandidates at *
  by_cases hlt : p < l.length
  · rw [eraseIdx_append_of_lt_length hlt, length_eraseIdx_of_lt hlt, append_assoc, ← replicate_succ']
    congr 2
    omega
  · have hle := Nat.le_of_not_lt hlt
    rw [eraseIdx_append_of_length_le hle, eraseIdx_of_length_le hle, append_assoc, eraseIdx_replicate,
      if_pos (by omega), ← replicate_succ']
    congr 2
    omega

theorem set_pad_zero (hp : l.length ≤ p) : (pad l).set p 0 = pad l := by
  rw [pad, set_append_right _ _ hp, set_replicate_self]

theorem delete_pad (h : Good l) (hp : p < maxNoCandidates) (hclears : Clears l p) :
    deleteCandidateFromPosition (pad l) p = some (pad (l.eraseIdx p)) := by
  have hpos : p ≠ 0 := by
    rintro rfl
    exact absurd hclears (by simp [Clears])
  rw [deleteCandidateFromPosition, if_neg (Nat.not_le.mpr hp), if_neg hpos, Device.deleteCandidateFromPosition]
  split_ifs with hlast
  · have hlength := length_pad h.length
    rw [← eraseIdx_pad h.length hp, set_eq_take_append_cons_drop, if_pos (hlength.symm ▸ hp),
      eraseIdx_eq_take_drop_succ, drop_eq_nil_of_le (by omega), append_nil]
  · rw [eraseIdx_pad h.length hp, set_pad_zero]
    have := hclears.resolve_left hlast
    omega

theorem getElem?_pad (h : l[p]? = some c) : (pad l)[p]? = some c := by
  rw [pad, List.getElem?_append_left (List.getElem?_eq_some_iff.mp h).1, h]

theorem mem_of_mem_pad (h : c ∈ pad l) : c ∈ l ∨ c = 0 := by
  rw [pad, mem_append, mem_replicate] at h
  exact h.imp_right And.right

theorem deletes_pad (h : Good l) {ps : List Nat}
    (hps : ∀ p ∈ ps, p < maxNoCandidates ∧ ((pad l)[p]? = some c → Clears l p)) :
    ∃ l', ps.foldlM (fun candidates i =>
        if candidates[i]? = some c then deleteCandidateFromPosition candidates i else some candidates) (pad l) =
          some (pad l') ∧ (l' = l.erase c ∨ l' = l ∧ ∀ p ∈ ps, l[p]? ≠ some c) := by
  induction ps generalizing l with
  | nil => exact ⟨l, rfl, .inr ⟨rfl, fun _ hp => (nomatch hp)⟩⟩
  | cons p ps ih =>
    obtain ⟨hp, hclears⟩ := hps p mem_cons_self
    have hrest : ∀ q ∈ ps, q < maxNoCandidates ∧ ((pad l)[q]? = some c → Clears l q) :=
      fun q hq => hps q (mem_cons_of_mem p hq)
    rw [foldlM_cons]
    by_cases hat : (pad l)[p]? = some c
    · rw [if_pos hat, delete_pad h hp (hclears hat)]
      by_cases hlt : p < l.length
      · -- the candidate is deleted, and the rest of the walk does not meet it
        have hc : l[p] = c := by
          rw [pad, getElem?_append_left hlt, getElem?_eq_getElem hlt] at hat
          exact Option.some.inj hat
        have herase : l.eraseIdx p = l.erase c := by rw [← hc, h.nodup.erase_getElem]
        have hgone : c ∉ pad (l.erase c) := fun hmem => by
          rcases mem_of_mem_pad hmem with hmem | hzero
          · exact h.nodup.not_mem_erase hmem
          · exact h.ne_zero (hzero ▸ hc ▸ getElem_mem hlt)
        rw [herase]
        obtain ⟨l', hl', hcase⟩ := ih (h.sublist erase_sublist)
          fun q hq => ⟨(hrest q hq).1, fun hatq => absurd (mem_of_getElem? hatq) hgone⟩
        refine ⟨l', hl', .inl (hcase.elim (fun heq => heq.trans ?_) And.left)⟩
        exact erase_of_not_mem h.nodup.not_mem_erase
      · have hle := Nat.le_of_not_lt hlt
        rw [eraseIdx_of_length_le hle]
        obtain ⟨l', hl', hcase⟩ := ih h hrest
        refine ⟨l', hl', hcase.imp_right fun hsame => ⟨hsame.1, forall_mem_cons.mpr ⟨?_, hsame.2⟩⟩⟩
        simp [getElem?_eq_none hle]
    · rw [if_neg hat]
      obtain ⟨l', hl', hcase⟩ := ih h hrest
      exact ⟨l', hl', hcase.imp_right fun hsame => ⟨hsame.1, forall_mem_cons.mpr ⟨mt getElem?_pad hat, hsame.2⟩⟩⟩

theorem deleteCandidate_pad (h : Good l) (hdeletes : Deletes (pad l) c) :
    deleteCandidate (pad l) c = some (pad (l.erase c)) := by
  unfold Deletes at hdeletes
  rw [entries_pad h.ne_zero] at hdeletes
  obtain ⟨l', hl', hcase⟩ := deletes_pad h fun p hp => ⟨mem_range.mp hp, hdeletes p (mem_range.mp hp)⟩
  rw [deleteCandidate, hl']
  rcases hcase with rfl | ⟨rfl, hnone⟩
  · rfl
  · rw [erase_of_not_mem fun hmem => ?_]
    obtain ⟨p, hp, hc⟩ := mem_iff_getElem.mp hmem
    exact hnone p (List.mem_range.mpr (hp.trans_le h.length)) (List.getElem?_eq_some_iff.mpr ⟨hp, hc⟩)

theorem getD_pad : (pad l).getD p 0 = l.getD p 0 := by
  by_cases hlt : p < l.length
  · rw [pad, getD_append _ _ _ _ hlt]
  · rw [pad, getD_append_right _ _ _ _ (Nat.le_of_not_lt hlt), getD_eq_default _ _ (Nat.le_of_not_lt hlt)]
    simp [getD_eq_getElem?_getD, getElem?_replicate]
    split_ifs <;> rfl

variable {k : Int} {a : Address16}

theorem lt_of_deviceCost (h : env.deviceCost (l.getD p 0) = some k) : p < l.length := by
  by_contra hle
  rw [getD_eq_default _ _ (Nat.le_of_not_lt hle), Surroundings.deviceCost, env.isDevice_zero] at h
  cases h

theorem set_pad {v : Address16} (hp : p < l.length) : (pad l).set p v = pad (l.set p v) := by
  rw [pad, pad, set_append_left _ _ hp, length_set]

theorem sortRound_pad (env : Surroundings) (l : List Address16) (i j : Nat) :
    ∃ l', env.sortRound (pad l) i j = pad l' ∧ l'.Perm l := by
  unfold Surroundings.sortRound
  rw [getD_pad, getD_pad]
  split
  · rename_i costI costJ hi hj
    split_ifs
    · have hi := lt_of_deviceCost hi
      have hj := lt_of_deviceCost hj
      rw [set_pad hi, set_pad (by rwa [length_set]), getD_eq_getElem _ _ hi, getD_eq_getElem _ _ hj]
      exact ⟨_, rfl, set_set_perm hi hj⟩
    · exact ⟨l, rfl, .refl l⟩
  · exact ⟨l, rfl, .refl l⟩

theorem sortCandidates_pad (env : Surroundings) (l : List Address16) :
    ∃ l', env.sortCandidates (pad l) = pad l' ∧ l'.Perm l := by
  unfold Surroundings.sortCandidates
  refine foldlRecOn (motive := fun cs => ∃ l', cs = pad l' ∧ l'.Perm l) _ _ ⟨l, rfl, .refl l⟩ ?_
  rintro _ ⟨l₁, rfl, hperm₁⟩ i -
  refine foldlRecOn (motive := fun cs => ∃ l', cs = pad l' ∧ l'.Perm l) _ _ ⟨l₁, rfl, hperm₁⟩ ?_
  rintro _ ⟨l₂, rfl, hperm₂⟩ j -
  obtain ⟨l₃, heq, hperm₃⟩ := sortRound_pad env l₂ i j
  exact ⟨l₃, heq, hperm₃.trans hperm₂⟩

variable {before done todo rest : List Address16} {rounds : Nat} {goesOn : Option (List Address16)}

theorem insertAt_pad (before : List Address16) (h : (before ++ rest).length ≤ maxNoCandidates) :
    insertAt (pad (before ++ rest)) before.length c = pad ((before ++ c :: rest).take maxNoCandidates) := by
  have hinsert : ∀ tail : List Address16, (before ++ tail).insertIdx before.length c = before ++ c :: tail := by
    intro tail
    induction before with
    | nil => rfl
    | cons a before ih => simp [insertIdx_succ_cons, ih ((Nat.le_succ _).trans h)]
  rw [insertAt, pad, append_assoc, hinsert, ← cons_append, ← append_assoc, take_append, pad, take_replicate]
  congr 2
  simp only [length_append, length_cons, length_take, maxNoCandidates] at *
  omega

theorem set_pad_next (rest : List Address16) (c : Address16) (hlt : before.length < maxNoCandidates) :
    (pad (before ++ rest)).set before.length c = pad (before ++ c :: rest.tail) := by
  unfold pad
  rw [append_assoc, set_append_right _ _ le_rfl, Nat.sub_self, append_assoc]
  congr 1
  cases rest with
  | nil =>
    have hroom : maxNoCandidates - before.length = maxNoCandidates - (before.length + 1) + 1 := by omega
    simp [hroom, replicate_succ]
  | cons z rest => simp

/-- What becomes of the list, given the part that the walk passes. -/
inductive Placed (env : Surroundings) (candidate16 : Address16) (costCandidate : Int) (before rest : List Address16) :
    List Address16 → Prop
  | full (h : maxNoCandidates ≤ before.length) : Placed env candidate16 costCandidate before rest (before ++ rest)
  | sets (hlt : before.length < maxNoCandidates) (h : ∀ z ∈ rest.head?, env.deviceCost z = none) :
    Placed env candidate16 costCandidate before rest (before ++ candidate16 :: rest.tail)
  | inserts {z : Address16} {k : Int} (hz : z ∈ rest.head?) (hk : env.deviceCost z = some k) (h : costCandidate < k) :
    Placed env candidate16 costCandidate before rest ((before ++ candidate16 :: rest).take maxNoCandidates)

theorem compareNext_pad (hi : before.length = i + 1) (hlt : i < 7) (h : Good (before ++ rest))
    (hrest : ∀ z ∈ rest.head?, ∀ k ∈ env.deviceCost z, costCandidate < k) :
    ∃ l', compareNext env candidate16 costCandidate (pad (before ++ rest)) i goesOn = some (pad l') ∧
      Placed env candidate16 costCandidate before rest l' := by
  have hroom : before.length < maxNoCandidates := by
    rw [hi]
    exact Nat.succ_lt_succ hlt
  have hset := set_pad_next rest candidate16 hroom
  rw [hi] at hset
  unfold compareNext
  rw [getD_pad, getD_append_right _ _ _ _ hi.le, hi, Nat.sub_self]
  cases rest with
  | nil => exact ⟨_, by rw [getD_nil, if_pos rfl, hset], .sets hroom fun _ hz => (nomatch hz)⟩
  | cons z rest =>
    have hz : z ≠ 0 := fun heq => h.ne_zero (heq ▸ mem_append_right _ mem_cons_self)
    rw [getD_cons_zero, if_neg hz]
    rcases hcost : env.deviceCost z with _ | k
    · exact ⟨_, by rw [hset], .sets hroom fun _ hz => Option.some.inj hz ▸ hcost⟩
    · have hk := hrest z rfl k hcost
      have hinsert := @insertAt_pad candidate16 _ before h.length
      rw [hi] at hinsert
      exact ⟨_, by simp only [if_pos hk, hinsert], .inserts rfl hcost hk⟩

theorem deviceCost_eq_some (h : env.deviceCost a = some k) :
    env.isDevice a ∧ ∃ evalEdgeCost, env.subnetEdges a = some evalEdgeCost ∧
      evalEdgeCost (env.getNumberOfChildren a) = k := by
  unfold Surroundings.deviceCost at h
  split at h
  · rename_i hdevice
    obtain ⟨evalEdgeCost, hedge, hk⟩ := Option.map_eq_some_iff.mp h
    exact ⟨hdevice, evalEdgeCost, hedge, hk⟩
  · cases h

theorem insertLoop_succ (ha : l.getD i 0 = a) (hi : i < 7) (hcost : env.deviceCost a = some k)
    (hspace : env.hasChildSpace a) (hne : a ≠ candidate16) :
    insertLoop env candidate16 costCandidate (rounds + 1) i (pad l) =
      if k ≤ costCandidate then
        compareNext env candidate16 costCandidate (pad l) i
          (insertLoop env candidate16 costCandidate rounds (i + 1) (pad l))
      else some (insertAt (pad l) i candidate16) := by
  obtain ⟨hdevice, evalEdgeCost, hedge, rfl⟩ := deviceCost_eq_some hcost
  simp only [insertLoop, getD_pad, ha, hdevice, hspace, hedge, hne, if_true, if_false, and_self,
    show ¬ maxNoCandidates - 1 ≤ i from Nat.not_le.mpr hi]

theorem compareNext_goesOn (ha : l.getD (i + 1) 0 = a) (hne : a ≠ 0)
    (hk : env.deviceCost a = some k) (hle : k ≤ costCandidate) :
    compareNext env candidate16 costCandidate (pad l) i goesOn = goesOn := by
  simp only [compareNext, getD_pad, ha, if_neg hne, hk, if_neg (not_lt.mpr hle)]

theorem insertLoop_pad (done : List Address16) (rounds : Nat) (h : Good (done ++ (todo ++ rest)))
    (hrounds : todo.length < rounds)
    (htodo : ∀ a ∈ todo, ∃ k, env.deviceCost a = some k ∧ k ≤ costCandidate) (hne : todo ≠ [])
    (hspace : ∀ a ∈ (done ++ todo).take 7, env.hasChildSpace a) (hnew : candidate16 ∉ todo)
    (hrest : ∀ z ∈ rest.head?, ∀ k ∈ env.deviceCost z, costCandidate < k) :
    ∃ l', insertLoop env candidate16 costCandidate rounds done.length (pad (done ++ (todo ++ rest))) = some (pad l') ∧
      Placed env candidate16 costCandidate (done ++ todo) rest l' := by
  induction todo generalizing done rounds with
  | nil => exact absurd rfl hne
  | cons a todo ih =>
    obtain ⟨rounds, rfl⟩ := Nat.exists_eq_add_of_lt hrounds
    obtain ⟨k, hk, hle⟩ := htodo a mem_cons_self
    by_cases hi : done.length < 7
    · have hat : (done ++ (a :: todo ++ rest)).getD done.length 0 = a := by simp
      have hroom : env.hasChildSpace a := by
        apply hspace
        rw [take_append, take_of_length_le hi.le]
        obtain ⟨m, hm⟩ := Nat.exists_eq_add_of_lt hi
        simp [hm, Nat.add_assoc]
      rw [insertLoop_succ hat hi hk hroom fun heq => hnew (heq ▸ mem_cons_self), if_pos hle]
      have hsplit : ∀ tail, done ++ (a :: tail) = done ++ [a] ++ tail := fun tail => by simp
      have hlength : (done ++ [a]).length = done.length + 1 := by simp
      cases todo with
      | nil =>
        rw [cons_append, nil_append, hsplit] at h ⊢
        exact compareNext_pad hlength hi h hrest
      | cons b todo =>
        obtain ⟨k', hk', hle'⟩ := htodo b (mem_cons_of_mem a mem_cons_self)
        have hnext : (done ++ (a :: (b :: todo) ++ rest)).getD (done.length + 1) 0 = b := by simp
        have hb : b ≠ 0 := fun heq => h.ne_zero (by simp [heq])
        rw [compareNext_goesOn hnext hb hk' hle', cons_append, hsplit, ← hlength, hsplit (b :: todo)]
        rw [cons_append, hsplit] at h
        apply ih _ _ h
        · simp only [length_cons]
          omega
        · exact fun x hx => htodo x (mem_cons_of_mem a hx)
        · exact cons_ne_nil b todo
        · rwa [← hsplit]
        · exact fun hmem => hnew (mem_cons_of_mem a hmem)
    · have hlength := h.length
      simp only [length_append, length_cons, maxNoCandidates] at hlength
      obtain rfl := eq_nil_of_length_eq_zero (show todo.length = 0 by omega)
      obtain rfl := eq_nil_of_length_eq_zero (show rest.length = 0 by omega)
      refine ⟨done ++ ([a] ++ []), ?_, ?_⟩
      · rw [insertLoop]
        exact if_pos (Nat.le_of_not_lt hi)
      · rw [← append_assoc]
        refine .full ?_
        simp only [length_append, length_singleton, maxNoCandidates]
        omega

theorem inOrder_middle (h : InOrder env (before ++ rest)) (hc : env.cost c = some k)
    (hbefore : ∀ a ∈ before, ∀ j ∈ env.cost a, j ≤ k) (hrest : ∀ b ∈ rest, ∀ j ∈ env.cost b, k ≤ j) :
    InOrder env (before ++ c :: rest) := by
  obtain ⟨hleft, hright, hboth⟩ := pairwise_append.mp h
  refine pairwise_append.mpr ⟨hleft, pairwise_cons.mpr ⟨fun b hb j hj => ?_, hright⟩, ?_⟩
  · cases hj.symm.trans hc
    exact hrest b hb
  · intro a ha b hb
    rcases mem_cons.mp hb with rfl | hb
    · intro j hj k' hk'
      cases hk'.symm.trans hc
      exact hbefore a ha j hj
    · exact hboth a ha b hb

theorem Placed.facts (h : Placed env candidate16 costCandidate before rest l') (hgood : Good (before ++ rest))
    (hnew : candidate16 ∉ before ++ rest) (hne : candidate16 ≠ 0) (horder : InOrder env (before ++ rest))
    (hc : env.cost candidate16 = some costCandidate) (hbefore : ∀ a ∈ before, ∀ j ∈ env.cost a, j ≤ costCandidate)
    (hover : ∀ a ∈ rest.head?, env.deviceCost a = none → ∀ b ∈ rest.tail, ∀ k ∈ env.cost b, costCandidate ≤ k) :
    Good l' ∧ l' ⊆ candidate16 :: (before ++ rest) ∧ InOrder env l' := by
  have hmiddle : ∀ tail : List Address16, (before ++ tail).Sublist (before ++ rest) →
      (∀ b ∈ tail, ∀ k ∈ env.cost b, costCandidate ≤ k) →
      0 ∉ before ++ candidate16 :: tail ∧ (before ++ candidate16 :: tail).Nodup ∧
        before ++ candidate16 :: tail ⊆ candidate16 :: (before ++ rest) ∧
          InOrder env (before ++ candidate16 :: tail) := by
    intro tail hsub hdearer
    have hperm : (before ++ candidate16 :: tail).Perm _ := perm_middle
    refine ⟨?_, ?_, ?_, inOrder_middle (horder.sublist hsub) hc hbefore hdearer⟩
    · rw [hperm.mem_iff, mem_cons, not_or]
      exact ⟨hne.symm, fun hmem => hgood.ne_zero (hsub.subset hmem)⟩
    · rw [hperm.nodup_iff, nodup_cons]
      exact ⟨fun hmem => hnew (hsub.subset hmem), hgood.nodup.sublist hsub⟩
    · exact Subset.trans hperm.subset (cons_subset_cons _ hsub.subset)
  cases h with
  | full => exact ⟨hgood, subset_cons_self .., horder⟩
  | sets hlt hnone =>
    have hlength := hgood.length
    obtain ⟨hzero, hnodup, hsub, hinOrder⟩ := hmiddle rest.tail ((tail_sublist rest).append_left before) fun b hb => by
      cases rest with
      | nil => cases hb
      | cons z rest => exact hover z rfl (hnone z rfl) b hb
    refine ⟨⟨?_, hzero, hnodup⟩, hsub, hinOrder⟩
    simp only [length_append, length_cons, length_tail] at hlength ⊢
    omega
  | @inserts z k hz hk hlt =>
    obtain ⟨hzero, hnodup, hsub, hinOrder⟩ := hmiddle rest (Sublist.refl _) fun b hb j hj => by
      obtain ⟨rest, rfl⟩ := head?_eq_some_iff.mp hz
      have hcost : env.cost z = some k := by
        unfold Surroundings.deviceCost at hk
        split at hk
        · exact hk
        · cases hk
      rcases mem_cons.mp hb with rfl | hb
      · exact (hlt.trans_eq (Option.some.inj (hcost.symm.trans hj))).le
      · have htail := (pairwise_append.mp horder).2.1
        exact hlt.le.trans ((pairwise_cons.mp htail).1 b hb k hcost j hj)
    have htake := take_sublist maxNoCandidates (before ++ candidate16 :: rest)
    exact ⟨⟨length_take_le _ _, fun hmem => hzero (htake.subset hmem), hnodup.sublist htake⟩,
      Subset.trans htake.subset hsub, hinOrder.sublist htake⟩

theorem insert_pad (h : Good l) (hnew : candidate16 ∉ l) (hne : l ≠ []) (hinserts : Inserts env costCandidate l) :
    ∃ l', insertLoop env candidate16 costCandidate maxRounds 0 (pad l) = some (pad l') ∧
      Placed env candidate16 costCandidate (l.takeWhile (passes env costCandidate))
        (l.dropWhile (passes env costCandidate)) l' := by
  have hsplit := takeWhile_append_dropWhile (p := passes env costCandidate) (l := l)
  have hpasses : ∀ a ∈ l.takeWhile (passes env costCandidate), ∃ k, env.deviceCost a = some k ∧ k ≤ costCandidate := by
    intro a ha
    have hpass := all_eq_true.mp all_takeWhile a ha
    simpa [passes, Option.any_eq_true] using hpass
  have hrest : ∀ z ∈ (l.dropWhile (passes env costCandidate)).head?, ∀ k ∈ env.deviceCost z, costCandidate < k := by
    intro z hz k hk
    have hstop := head?_dropWhile_not (passes env costCandidate) l
    rw [hz] at hstop
    simpa [passes, show env.deviceCost z = some k from hk] using hstop
  by_cases hnone : l.takeWhile (passes env costCandidate) = []
  · rw [hnone, nil_append] at hsplit
    obtain ⟨a, tail, rfl⟩ := exists_cons_of_ne_nil hne
    obtain ⟨hspace, hcost⟩ := hinserts.head a rfl
    obtain ⟨k, hk⟩ := Option.isSome_iff_exists.mp hcost
    have hlt := hrest a (by rw [hsplit]; rfl) k hk
    have ha : (a :: tail).getD 0 0 = a := rfl
    rw [hnone, hsplit, maxRounds, insertLoop_succ ha (Nat.zero_lt_succ 6) hk hspace
      fun heq => hnew (heq ▸ mem_cons_self), if_neg (not_le.mpr hlt)]
    exact ⟨_, congrArg some (insertAt_pad [] h.length), .inserts rfl hk hlt⟩
  · have hgood := h
    rw [← hsplit] at hgood
    have hloop := insertLoop_pad [] maxRounds hgood ?_ hpasses hnone hinserts.space
      (fun hmem => hnew ((takeWhile_sublist _).subset hmem)) hrest
    · rwa [nil_append, nil_append, hsplit] at hloop
    · have hle := (takeWhile_sublist (l := l) (passes env costCandidate)).length_le.trans h.length
      exact hle.trans_lt (by decide)

theorem add_pad (h : Good l) (hmeets : Meets (pad l) (.addDeviceCandidate env c)) :
    ∃ l', addDeviceCandidate env c (pad l) = some (pad l') ∧ Good l' ∧ l' ⊆ c :: l ∧
      (env.isDevice c → env.hasChildSpace c → (env.cost c).isSome → InOrder env l') := by
  unfold Meets at hmeets
  rw [entries_pad h.ne_zero] at hmeets
  by_cases hdevice : env.isDevice c
  swap
  · exact ⟨l, if_neg hdevice, h, subset_cons_self c l, fun hd => absurd hd hdevice⟩
  obtain ⟨hdeletes, hinserts⟩ := hmeets hdevice
  have hdeleted : (if c ∈ pad l then deleteCandidate (pad l) c else some (pad l)) = some (pad (l.erase c)) := by
    split
    · exact deleteCandidate_pad h hdeletes
    · rename_i hmem
      rw [erase_of_not_mem fun hl => hmem (mem_append_left _ hl)]
  have hgood := h.sublist (erase_sublist (a := c))
  have hnew : c ∉ l.erase c := h.nodup.not_mem_erase
  have hsub : l.erase c ⊆ c :: l := Subset.trans erase_subset (subset_cons_self c l)
  have hzero : c ≠ 0 := by
    rintro rfl
    exact absurd (env.isDevice_zero.symm.trans hdevice) Bool.false_ne_true
  rw [addDeviceCandidate, if_pos hdevice, hdeleted, Option.bind_some]
  rcases hcost : (if env.hasChildSpace c then env.cost c else none) with _ | costCandidate
  · refine ⟨_, rfl, hgood, hsub, fun _ hspace hsome => ?_⟩
    rw [if_pos hspace] at hcost
    rw [hcost] at hsome
    cases hsome
  obtain ⟨hspace, hc⟩ := Option.ite_none_right_eq_some.mp hcost
  have hinserts := hinserts hspace costCandidate hc
  have hsplit := takeWhile_append_dropWhile (p := passes env costCandidate) (l := l.erase c)
  suffices hplaced : ∃ l', (if (pad (l.erase c)).getD 0 0 = 0 then some ((pad (l.erase c)).set 0 c)
      else insertLoop env c costCandidate maxRounds 0 (pad (l.erase c))) = some (pad l') ∧
      Placed env c costCandidate ((l.erase c).takeWhile (passes env costCandidate))
        ((l.erase c).dropWhile (passes env costCandidate)) l' by
    obtain ⟨l', hl', hplaced⟩ := hplaced
    have hbefore : ∀ a ∈ (l.erase c).takeWhile (passes env costCandidate), ∀ j ∈ env.cost a, j ≤ costCandidate := by
      intro a ha j hj
      have hpass := all_eq_true.mp all_takeWhile a ha
      simp only [passes, Option.any_eq_true, decide_eq_true_eq] at hpass
      obtain ⟨k, hk, hle⟩ := hpass
      obtain ⟨-, evalEdgeCost, hedge, rfl⟩ := deviceCost_eq_some hk
      rw [Surroundings.cost, hedge] at hj
      exact (Option.some.inj hj).symm.trans_le hle
    obtain ⟨hgood', hsub', horder⟩ := hplaced.facts (hsplit.symm ▸ hgood) (hsplit.symm ▸ hnew) hzero
      (hsplit.symm ▸ hinserts.inOrder) hc hbefore hinserts.overwritten
    rw [hsplit] at hsub'
    exact ⟨l', hl', hgood', Subset.trans hsub' (cons_subset.mpr ⟨mem_cons_self, hsub⟩), fun _ _ _ => horder⟩
  rw [getD_pad]
  rcases hempty : l.erase c with _ | ⟨a, tail⟩
  · exact ⟨[c], rfl, .sets (Nat.zero_lt_succ 7) fun _ hz => (nomatch hz)⟩
  · have ha : a ≠ 0 := fun heq => hgood.ne_zero (by rw [hempty, heq]; exact mem_cons_self)
    rw [getD_cons_zero, if_neg ha, ← hempty]
    exact insert_pad hgood hnew (by rw [hempty]; exact cons_ne_nil a tail) hinserts

theorem lawful_step {event : Event} (h : Tidy candidates) (hmeets : Meets candidates event) :
    ∃ candidates', step candidates event = some candidates' ∧ Tidy candidates' ∧
      Lawful candidates event candidates' := by
  have hgood := h.good
  generalize hl : entries candidates = l at hgood
  obtain rfl : candidates = pad l := hl ▸ h.eq_pad
  have herase : ∀ c, Deletes (pad l) c →
      ∃ candidates', deleteCandidate (pad l) c = some candidates' ∧ Tidy candidates' ∧
        entries candidates' = (entries (pad l)).erase c := by
    intro c hdeletes
    have hgood' := hgood.sublist (erase_sublist (a := c))
    exact ⟨_, deleteCandidate_pad hgood hdeletes, hgood'.tidy, by rw [hl, entries_pad hgood'.ne_zero]⟩
  cases event with
  | addDeviceCandidate env c =>
    obtain ⟨l', hl', hgood', hsub, horder⟩ := add_pad hgood hmeets
    refine ⟨_, hl', hgood'.tidy, ?_⟩
    simp only [Lawful, hl, entries_pad hgood'.ne_zero]
    exact ⟨hsub, horder⟩
  | deleteCandidate c => exact herase c hmeets
  | addBadRateCandidate c => exact herase c hmeets
  | sortCandidates env =>
    obtain ⟨l', hl', hperm⟩ := sortCandidates_pad env l
    have hgood' : Good l' := ⟨hperm.length_eq.trans_le hgood.length, hperm.mem_iff.not.mpr hgood.ne_zero,
      hperm.nodup_iff.mpr hgood.nodup⟩
    refine ⟨_, rfl, hl' ▸ hgood'.tidy, ?_⟩
    change (entries _).Perm _
    rwa [hl', hl, entries_pad hgood'.ne_zero]
  | deleteCandidateFromPosition position =>
    by_cases hlt : position < maxNoCandidates
    · have hclears := hmeets hlt
      rw [hl] at hclears
      have hgood' := hgood.sublist (eraseIdx_sublist l position)
      refine ⟨_, delete_pad hgood hlt hclears, hgood'.tidy, ?_⟩
      change entries _ = _
      rw [hl, entries_pad hgood'.ne_zero]
    · refine ⟨_, if_pos (Nat.le_of_not_lt hlt), h, ?_⟩
      change entries _ = _
      rw [hl, eraseIdx_of_length_le (hgood.length.trans (Nat.le_of_not_lt hlt))]

/-- In every run whose operations meet the condition the list is tidy, and the next operation that meets it is lawful. -/
theorem candidates_lawful (h : Machine.Reaches start step Meets candidates) :
    Tidy candidates ∧ ∀ event, Meets candidates event →
      ∃ candidates', step candidates event = some candidates' ∧ Lawful candidates event candidates' := by
  have htidy : Tidy candidates := by
    refine h.invariant (P := Tidy) ⟨rfl, rfl, by decide⟩ fun candidates event candidates' hc hmeets hstep => ?_
    obtain ⟨_, heq, htidy, -⟩ := lawful_step hc hmeets
    exact Option.some.inj (heq.symm.trans hstep) ▸ htidy
  refine ⟨htidy, fun event hmeets => ?_⟩
  obtain ⟨candidates', hstep, -, hlawful⟩ := lawful_step htidy hmeets
  exact ⟨candidates', hstep, hlawful⟩

def openSurroundings : Surroundings := ⟨(· ≠ 0), rfl, fun _ => true, fun a => some fun _ => a, fun _ => 0⟩

def twoCandidates : List Address16 := [11, 13, 0, 0, 0, 0, 0, 0]

def threeCandidates : List Address16 := [11, 12, 13, 0, 0, 0, 0, 0]

theorem candidates_lawful_middle :
    (∃ candidates', step twoCandidates (.addDeviceCandidate openSurroundings 12) = some candidates' ∧
      Lawful twoCandidates (.addDeviceCandidate openSurroundings 12) candidates') ∧
    Tidy threeCandidates ∧
    ∃ candidates', step threeCandidates (.deleteCandidate 12) = some candidates' ∧
      Lawful threeCandidates (.deleteCandidate 12) candidates' := by
  have hfirst : Meets start (.addDeviceCandidate openSurroundings 11) := fun _ =>
    ⟨by unfold Deletes Clears; decide, fun _ _ _ => by constructor <;> simp [start, entries, InOrder]⟩
  have hlast : Meets [11, 0, 0, 0, 0, 0, 0, 0] (.addDeviceCandidate openSurroundings 13) := fun _ =>
    ⟨by unfold Deletes Clears; decide, fun _ _ h => by
      obtain rfl := Option.some.inj h
      exact ⟨by unfold InOrder; decide, by decide, by decide, by decide⟩⟩
  have hmiddle : Meets twoCandidates (.addDeviceCandidate openSurroundings 12) := fun _ =>
    ⟨by unfold Deletes Clears; decide, fun _ _ h => by
      obtain rfl := Option.some.inj h
      exact ⟨by unfold InOrder; decide, by decide, by decide, by decide⟩⟩
  have hdelete : Meets threeCandidates (.deleteCandidate 12) := by
    change Deletes _ _
    unfold Deletes Clears
    decide
  have htwo : Machine.Reaches start step Meets twoCandidates :=
    .step _ (.step _ .init hfirst (by decide)) hlast (by decide)
  have hthree : Machine.Reaches start step Meets threeCandidates := .step _ htwo hmiddle (by decide)
  exact ⟨(candidates_lawful htwo).2 _ hmiddle, (candidates_lawful hthree).1, (candidates_lawful hthree).2 _ hdelete⟩

/-- The only candidate is deleted: the zero goes behind the array. -/
theorem delete_only_candidate :
    (addDeviceCandidate openSurroundings 11 start).bind (deleteCandidate · 11) = none := by
  decide

end Isa100Gateway.NetworkEngine.CandidateList
