import Mathlib.Algebra.BigOperators.Group.List.Basic
import Mathlib.Data.List.Nodup
import Isa100Gateway.Lib.Run
import Mathlib.Algebra.Ring.Nat

/-!
# Readings of the published data

The host keeps the readings of each publishing device in a queue until they are saved. The number of all readings, the list of the handles with readings and the queues are kept apart; handles of erased devices are used again.
-/

namespace Isa100Gateway.PublishedData

open List

variable {δ ρ : Type*}

/-- A reading in the queue of a handle, and the allocation of the handle that it was added for. -/
structure Queued (ρ : Type*) where
  reading : ρ
  allocation : Nat

/-- `listI` is the node of the handle in the list of handles with readings, `none` the end of the list. -/
structure DataPerDevice (ρ : Type*) where
  (pubDataError staleData freshData isHandled : Bool)
  data : List (Queued ρ)
  listI : Option Nat
  allocation : Nat

/-- `nodes` and `allocations` count what was made so far, `owners` has the devices that were given a handle. -/
structure PublishedDataMng (δ ρ : Type*) where
  m_handles : List Nat
  m_handleToData : List (DataPerDevice ρ)
  m_readingHandles : List (Nat × Nat)
  m_readingsNo : Int
  nodes : Nat
  allocations : Nat
  owners : List (Nat × δ)

namespace PublishedDataMng

variable (s : PublishedDataMng δ ρ)

def init : PublishedDataMng δ ρ := ⟨[], [], [], 0, 0, 0, []⟩

def data (handle : Int) : Option (Nat × DataPerDevice ρ) :=
  if handle < 0 then none else (s.m_handleToData[handle.toNat]?).map fun d => (handle.toNat, d)

def handled (handle : Int) : Option (Nat × DataPerDevice ρ) := (s.data handle).filter fun d => d.2.isHandled

def setData (handle : Nat) (d : DataPerDevice ρ) : PublishedDataMng δ ρ :=
  { s with m_handleToData := s.m_handleToData.set handle d }

def newData : DataPerDevice ρ := ⟨true, false, false, true, [], none, s.allocations⟩

def GetNewPublishHandle (device : δ) : PublishedDataMng δ ρ × Nat :=
  match s.m_handles with
  | [] =>
    ({ s with
      m_handleToData := s.m_handleToData ++ [s.newData]
      allocations := s.allocations + 1
      owners := (s.m_handleToData.length, device) :: s.owners }, s.m_handleToData.length)
  | handle :: handles =>
    ({ s.setData handle s.newData with
      m_handles := handles
      allocations := s.allocations + 1
      owners := (handle, device) :: s.owners }, handle)

def intMax : Int := 2 ^ 31 - 1

def AddReading (handle : Int) (reading : ρ) : Option (PublishedDataMng δ ρ) :=
  match s.handled handle with
  | none => some s
  | some (h, d) =>
    if s.m_readingsNo = intMax then none
    else
      let queued : Queued ρ := ⟨reading, d.allocation⟩
      if d.data.length = 0 then
        some { s.setData h { d with listI := some s.nodes, data := queued :: d.data } with
          m_readingHandles := (s.nodes, h) :: s.m_readingHandles
          nodes := s.nodes + 1
          m_readingsNo := s.m_readingsNo + 1 }
      else some { s.setData h { d with data := queued :: d.data } with m_readingsNo := s.m_readingsNo + 1 }

def ClearReadings (handle : Int) : Option (PublishedDataMng δ ρ) :=
  match s.data handle with
  | none => some s
  | some (h, d) =>
    if d.data.length > 0 then
      let cleared := { s.setData h { d with data := [], listI := none } with
        m_readingsNo := (s.m_readingsNo - d.data.length).bmod (2 ^ 32) }
      match d.listI with
      | none => some cleared
      | some node =>
        if node ∈ s.m_readingHandles.map Prod.fst then
          some { cleared with m_readingHandles := s.m_readingHandles.filter fun entry => entry.1 ≠ node }
        else none
    else some s

def EraseData (handle : Int) : PublishedDataMng δ ρ :=
  match s.handled handle with
  | none => s
  | some (h, d) =>
    { s.setData h { d with isHandled := false } with
      m_handles := s.m_handles ++ [h]
      owners := s.owners.filter fun owner => owner.1 ≠ h }

end PublishedDataMng

inductive Event (δ ρ : Type*)
  | getNewPublishHandle (device : δ)
  | addReading (handle : Int) (reading : ρ)
  | clearReadings (handle : Int)
  | eraseData (handle : Int)

def step (s : PublishedDataMng δ ρ) : Event δ ρ → Option (PublishedDataMng δ ρ)
  | .getNewPublishHandle device => some (s.GetNewPublishHandle device).1
  | .addReading handle reading => s.AddReading handle reading
  | .clearReadings handle => s.ClearReadings handle
  | .eraseData handle => some (s.EraseData handle)

def queued (l : List (DataPerDevice ρ)) : Nat := (l.map fun d => d.data.length).sum

structure Consistent (s : PublishedDataMng δ ρ) : Prop where
  owners : (s.owners.map Prod.fst).Nodup
  owned : ∀ h, h ∈ s.owners.map Prod.fst ↔ ∃ d, s.m_handleToData[h]? = some d ∧ d.isHandled = true
  readingsNo : s.m_readingsNo = queued s.m_handleToData
  once : (s.m_readingHandles.map Prod.snd).Nodup
  listed : ∀ h, h ∈ s.m_readingHandles.map Prod.snd ↔ ∃ d, s.m_handleToData[h]? = some d ∧ d.data ≠ []
  own : ∀ (h : Nat) (d : DataPerDevice ρ), s.m_handleToData[h]? = some d → ∀ q ∈ d.data, q.allocation = d.allocation

/-- A handle is given again only after the readings of the device that had it were cleared. -/
def Ok (s : PublishedDataMng δ ρ) : Event δ ρ → Prop
  | .getNewPublishHandle _ => ∀ h ∈ s.m_handles.head?, ∀ d ∈ s.m_handleToData[h]?, d.data.length = 0
  | _ => True

/-! ## The invariant -/

structure Inv (s : PublishedDataMng δ ρ) : Prop where
  free : ∀ h ∈ s.m_handles, ∃ d, s.m_handleToData[h]? = some d ∧ d.isHandled = false
  freeOnce : s.m_handles.Nodup
  owners : (s.owners.map Prod.fst).Nodup
  owned : ∀ h, h ∈ s.owners.map Prod.fst ↔ ∃ d, s.m_handleToData[h]? = some d ∧ d.isHandled = true
  readingsNo : s.m_readingsNo = queued s.m_handleToData
  bounded : s.m_readingsNo ≤ PublishedDataMng.intMax
  made : ∀ entry ∈ s.m_readingHandles, entry.1 < s.nodes
  nodesOnce : (s.m_readingHandles.map Prod.fst).Nodup
  empty : ∀ (h : Nat) (d : DataPerDevice ρ), s.m_handleToData[h]? = some d → d.data = [] → d.listI = none
  node : ∀ (h : Nat) (d : DataPerDevice ρ), s.m_handleToData[h]? = some d → d.data ≠ [] →
    ∃ k, d.listI = some k ∧ (k, h) ∈ s.m_readingHandles
  back : ∀ k h, (k, h) ∈ s.m_readingHandles → ∃ d, s.m_handleToData[h]? = some d ∧ d.listI = some k
  own : ∀ (h : Nat) (d : DataPerDevice ρ), s.m_handleToData[h]? = some d → ∀ q ∈ d.data, q.allocation = d.allocation

variable {l : List (DataPerDevice ρ)} {old : DataPerDevice ρ}

theorem queued_set {h : Nat} (hold : l[h]? = some old)
    (d : DataPerDevice ρ) : queued (l.set h d) + old.data.length = queued l + d.data.length := by
  induction l generalizing h with
  | nil => cases hold
  | cons first l ih =>
    cases h with
    | zero =>
      cases hold
      simp only [queued, set_cons_zero, map_cons, sum_cons]
      omega
    | succ h =>
      have := ih hold
      simp only [queued, set_cons_succ, map_cons, sum_cons] at this ⊢
      omega

theorem set_self {h : Nat} (hold : l[h]? = some old) (d : DataPerDevice ρ) : (l.set h d)[h]? = some d :=
  List.getElem?_set_self (List.getElem?_eq_some_iff.mp hold).1

theorem set_cases {h j : Nat} {old d found : DataPerDevice ρ} (hold : l[h]? = some old)
    (hfound : (l.set h d)[j]? = some found) : j = h ∧ found = d ∨ j ≠ h ∧ l[j]? = some found := by
  by_cases hj : j = h
  · subst hj
    rw [set_self hold] at hfound
    exact .inl ⟨rfl, (Option.some.inj hfound).symm⟩
  · rw [getElem?_set_ne (Ne.symm hj)] at hfound
    exact .inr ⟨hj, hfound⟩

theorem exists_set {h : Nat} {old d : DataPerDevice ρ} (hold : l[h]? = some old)
    (P : DataPerDevice ρ → Prop) (j : Nat) :
    (∃ found, (l.set h d)[j]? = some found ∧ P found) ↔ if j = h then P d else ∃ found, l[j]? = some found ∧
      P found := by
  by_cases hj : j = h
  · subst hj
    rw [if_pos rfl, set_self hold]
    exact ⟨fun ⟨found, hfound, hP⟩ => Option.some.inj hfound ▸ hP, fun hP => ⟨d, rfl, hP⟩⟩
  · rw [if_neg hj, getElem?_set_ne (Ne.symm hj)]

section Steps

variable {s s' : PublishedDataMng δ ρ} {h : Nat} {d : DataPerDevice ρ} {handle : Int}

theorem data_eq_some (hd : s.data handle = some (h, d)) : s.m_handleToData[h]? = some d := by
  rw [PublishedDataMng.data] at hd
  split at hd
  · cases hd
  · obtain ⟨found, hfound, heq⟩ := Option.map_eq_some_iff.mp hd
    cases heq
    exact hfound

theorem handled_eq_some (hd : s.handled handle = some (h, d)) :
    s.m_handleToData[h]? = some d ∧ d.isHandled = true := by
  obtain ⟨hdata, hhandled⟩ := Option.filter_eq_some_iff.mp hd
  exact ⟨data_eq_some hdata, hhandled⟩

theorem Inv.consistent (hs : Inv s) : Consistent s := by
  refine ⟨hs.owners, hs.owned, hs.readingsNo, ?_, ?_, hs.own⟩
  · apply Nodup.map_on
    · intro entry hentry entry' hentry' heq
      obtain ⟨d, hd, hk⟩ := hs.back _ _ hentry
      obtain ⟨d', hd', hk'⟩ := hs.back _ _ hentry'
      rw [heq] at hd
      cases hd.symm.trans hd'
      exact Prod.ext (Option.some.inj (hk.symm.trans hk')) heq
    · exact hs.nodesOnce.of_map
  · intro h
    constructor
    · intro hmem
      obtain ⟨entry, hentry, rfl⟩ := mem_map.mp hmem
      obtain ⟨d, hd, hk⟩ := hs.back _ _ hentry
      refine ⟨d, hd, ?_⟩
      intro hempty
      rw [hs.empty _ d hd hempty] at hk
      cases hk
    · rintro ⟨d, hd, hdata⟩
      obtain ⟨k, -, hmem⟩ := hs.node h d hd hdata
      exact mem_map_of_mem hmem

theorem inv_init : Inv (PublishedDataMng.init : PublishedDataMng δ ρ) where
  free := fun _ hh => by cases hh
  freeOnce := .nil
  owners := .nil
  owned := fun h => ⟨fun hh => (by cases hh), fun ⟨_, hd, _⟩ => (by cases hd)⟩
  readingsNo := rfl
  bounded := (by decide : (0 : Int) ≤ 2 ^ 31 - 1)
  made := fun _ hh => by cases hh
  nodesOnce := .nil
  empty := fun _ _ hd => by cases hd
  node := fun _ _ hd => by cases hd
  back := fun _ _ hh => by cases hh
  own := fun _ _ hd => by cases hd

theorem getElem?_concat_iff {l : List (DataPerDevice ρ)} {new : DataPerDevice ρ} {j : Nat} :
    (l ++ [new])[j]? = some d ↔ l[j]? = some d ∨ j = l.length ∧ d = new := by
  rcases Nat.lt_trichotomy j l.length with hj | rfl | hj
  · rw [getElem?_append_left hj]
    exact ⟨.inl, fun h => h.resolve_right fun heq => absurd heq.1 (Nat.ne_of_lt hj)⟩
  · rw [getElem?_concat_length, getElem?_eq_none (Nat.le_refl _)]
    exact ⟨fun h => .inr ⟨rfl, (Option.some.inj h).symm⟩, fun h => (h.resolve_left (by simp)).2 ▸ rfl⟩
  · rw [getElem?_eq_none (by simp; omega), getElem?_eq_none (Nat.le_of_lt hj)]
    exact ⟨.inl, fun h => h.resolve_right fun heq => absurd heq.1 (Nat.ne_of_gt hj)⟩

theorem Inv.newHandle (hs : Inv s) (device : δ) (hnone : s.m_handles = []) :
    Inv (s.GetNewPublishHandle device).1 := by
  have hnew : (s.GetNewPublishHandle device).1 = { s with
        m_handleToData := s.m_handleToData ++ [s.newData]
        allocations := s.allocations + 1
        owners := (s.m_handleToData.length, device) :: s.owners } := by
    rw [PublishedDataMng.GetNewPublishHandle, hnone]
  rw [hnew]
  have hunknown : s.m_handleToData.length ∉ s.owners.map Prod.fst := by
    intro hmem
    obtain ⟨d, hd, -⟩ := (hs.owned _).mp hmem
    rw [getElem?_eq_none (Nat.le_refl _)] at hd
    cases hd
  refine ⟨?_, hs.freeOnce, ?_, ?_, ?_, hs.bounded, hs.made, hs.nodesOnce, ?_, ?_, ?_, ?_⟩
  · intro h hh
    rw [hnone] at hh
    cases hh
  · exact nodup_cons.mpr ⟨hunknown, hs.owners⟩
  · intro h
    simp only [map_cons, mem_cons, getElem?_concat_iff]
    constructor
    · rintro (rfl | hmem)
      · exact ⟨_, .inr ⟨rfl, rfl⟩, rfl⟩
      · obtain ⟨d, hd, hhandled⟩ := (hs.owned h).mp hmem
        exact ⟨d, .inl hd, hhandled⟩
    · rintro ⟨d, hd | ⟨hlength, -⟩, hhandled⟩
      · exact .inr ((hs.owned h).mpr ⟨d, hd, hhandled⟩)
      · exact .inl hlength
  · change s.m_readingsNo = _
    rw [hs.readingsNo]
    simp [queued, PublishedDataMng.newData]
  · intro h d hd
    rcases getElem?_concat_iff.mp hd with hd | ⟨-, rfl⟩
    · exact hs.empty h d hd
    · exact fun _ => rfl
  · intro h d hd hdata
    rcases getElem?_concat_iff.mp hd with hd | ⟨-, rfl⟩
    · exact hs.node h d hd hdata
    · exact absurd rfl hdata
  · intro k h hmem
    obtain ⟨d, hd, hk⟩ := hs.back k h hmem
    exact ⟨d, getElem?_concat_iff.mpr (.inl hd), hk⟩
  · intro h d hd
    rcases getElem?_concat_iff.mp hd with hd | ⟨-, rfl⟩
    · exact hs.own h d hd
    · exact fun _ hq => by cases hq

theorem Inv.reusedHandle (hs : Inv s) (device : δ) {handles : List Nat} (hfree : s.m_handles = h :: handles)
    (hd : s.m_handleToData[h]? = some d) (hhandled : d.isHandled = false) (hdata : d.data = []) :
    Inv (s.GetNewPublishHandle device).1 := by
  have hnew : (s.GetNewPublishHandle device).1 = { s.setData h s.newData with
        m_handles := handles
        allocations := s.allocations + 1
        owners := (h, device) :: s.owners } := by
    rw [PublishedDataMng.GetNewPublishHandle, hfree]
  rw [hnew]
  obtain ⟨hnot, honce⟩ := nodup_cons.mp (hfree ▸ hs.freeOnce)
  have hlistI := hs.empty h d hd hdata
  have hunused : h ∉ s.owners.map Prod.fst := by
    intro hmem
    obtain ⟨found, hfound, hfoundHandled⟩ := (hs.owned h).mp hmem
    cases hd.symm.trans hfound
    rw [hhandled] at hfoundHandled
    cases hfoundHandled
  refine ⟨?_, honce, nodup_cons.mpr ⟨hunused, hs.owners⟩, ?_, ?_, hs.bounded, hs.made, hs.nodesOnce, ?_, ?_, ?_, ?_⟩
  · intro j hj
    have hne : j ≠ h := fun heq => hnot (heq ▸ hj)
    refine (exists_set hd (fun found => found.isHandled = false) j).mpr ?_
    rw [if_neg hne]
    exact hs.free j (hfree ▸ mem_cons_of_mem _ hj)
  · intro j
    rw [map_cons, mem_cons]
    refine Iff.trans ?_ (exists_set hd (fun found => found.isHandled = true) j).symm
    by_cases hj : j = h
    · rw [if_pos hj]
      exact ⟨fun _ => rfl, fun _ => .inl hj⟩
    · rw [if_neg hj]
      exact ⟨fun hmem => (hs.owned j).mp (hmem.resolve_left hj), fun hmem => .inr ((hs.owned j).mpr hmem)⟩
  · have hqueued := queued_set hd s.newData
    rw [hdata] at hqueued
    change s.m_readingsNo = ((queued (s.m_handleToData.set h s.newData) : Nat) : Int)
    rw [hs.readingsNo]
    exact congrArg Nat.cast hqueued.symm
  · intro j found hfound
    rcases set_cases hd hfound with ⟨-, rfl⟩ | ⟨-, hfound⟩
    · exact fun _ => rfl
    · exact hs.empty j found hfound
  · intro j found hfound hne
    rcases set_cases hd hfound with ⟨-, rfl⟩ | ⟨-, hfound⟩
    · exact absurd rfl hne
    · exact hs.node j found hfound hne
  · intro k j hmem
    obtain ⟨found, hfound, hk⟩ := hs.back k j hmem
    refine (exists_set hd (fun found => found.listI = some k) j).mpr ?_
    by_cases hj : j = h
    · subst hj
      cases hd.symm.trans hfound
      rw [hlistI] at hk
      cases hk
    · rw [if_neg hj]
      exact ⟨found, hfound, hk⟩
  · intro j found hfound
    rcases set_cases hd hfound with ⟨-, rfl⟩ | ⟨-, hfound⟩
    · exact fun _ hq => by cases hq
    · exact hs.own j found hfound

theorem Inv.setQueue (hs : Inv s) (hd : s.m_handleToData[h]? = some d) (new : DataPerDevice ρ)
    {readingHandles : List (Nat × Nat)} {readingsNo : Int} {nodes : Nat} (hhandled : new.isHandled = d.isHandled)
    (hreadingsNo : readingsNo = ((queued (s.m_handleToData.set h new) : Nat) : Int))
    (hbounded : readingsNo ≤ PublishedDataMng.intMax) (hmade : ∀ entry ∈ readingHandles, entry.1 < nodes)
    (hnodesOnce : (readingHandles.map Prod.fst).Nodup) (hempty : new.data = [] → new.listI = none)
    (hnode : new.data ≠ [] → ∃ k, new.listI = some k ∧ (k, h) ∈ readingHandles)
    (hback : ∀ k j, (k, j) ∈ readingHandles → j = h ∧ new.listI = some k ∨ j ≠ h ∧ (k, j) ∈ s.m_readingHandles)
    (hkept : ∀ k j, j ≠ h → (k, j) ∈ s.m_readingHandles → (k, j) ∈ readingHandles)
    (hown : ∀ q ∈ new.data, q.allocation = new.allocation) :
    Inv { s.setData h new with m_readingHandles := readingHandles, m_readingsNo := readingsNo, nodes := nodes } := by
  have hsame : ∀ (b : Bool) (j : Nat),
      (∃ found, (s.m_handleToData.set h new)[j]? = some found ∧ found.isHandled = b) ↔
        ∃ found, s.m_handleToData[j]? = some found ∧ found.isHandled = b := by
    intro b j
    refine (exists_set hd (fun found => found.isHandled = b) j).trans ?_
    by_cases hj : j = h
    · subst hj
      rw [if_pos rfl, hhandled]
      exact ⟨fun hb => ⟨d, hd, hb⟩, fun ⟨found, hfound, hb⟩ => Option.some.inj (hd.symm.trans hfound) ▸ hb⟩
    · rw [if_neg hj]
  refine ⟨?_, hs.freeOnce, hs.owners, ?_, hreadingsNo, hbounded, hmade, hnodesOnce, ?_, ?_, ?_, ?_⟩
  · exact fun j hj => (hsame false j).mpr (hs.free j hj)
  · exact fun j => (hs.owned j).trans (hsame true j).symm
  · intro j found hfound
    rcases set_cases hd hfound with ⟨-, rfl⟩ | ⟨-, hfound⟩
    · exact hempty
    · exact hs.empty j found hfound
  · intro j found hfound hdata
    rcases set_cases hd hfound with ⟨rfl, rfl⟩ | ⟨hj, hfound⟩
    · exact hnode hdata
    · obtain ⟨k, hk, hmem⟩ := hs.node j found hfound hdata
      exact ⟨k, hk, hkept k j hj hmem⟩
  · intro k j hmem
    refine (exists_set hd (fun found => found.listI = some k) j).mpr ?_
    rcases hback k j hmem with ⟨rfl, hk⟩ | ⟨hj, hmem⟩
    · rw [if_pos rfl]
      exact hk
    · rw [if_neg hj]
      exact hs.back k j hmem
  · intro j found hfound
    rcases set_cases hd hfound with ⟨-, rfl⟩ | ⟨-, hfound⟩
    · exact hown
    · exact hs.own j found hfound

theorem Inv.node_of_ne (hs : Inv s) (hd : s.m_handleToData[h]? = some d) {k k' : Nat} (hk : d.listI = some k)
    (hmem : (k', h) ∈ s.m_readingHandles) : k' = k := by
  obtain ⟨found, hfound, hk'⟩ := hs.back k' h hmem
  cases hd.symm.trans hfound
  exact Option.some.inj (hk'.symm.trans hk)

theorem Inv.AddReading (hs : Inv s) {reading : ρ} (hs' : s.AddReading handle reading = some s') : Inv s' := by
  rw [PublishedDataMng.AddReading] at hs'
  split at hs'
  · cases hs'
    exact hs
  next h d hfound =>
  obtain ⟨hd, hhandled⟩ := handled_eq_some hfound
  split at hs'
  · cases hs'
  next hmax =>
  have hbounded : s.m_readingsNo + 1 ≤ PublishedDataMng.intMax := by
    have := hs.bounded
    omega
  have hcount : ∀ new : DataPerDevice ρ, new.data.length = d.data.length + 1 →
      s.m_readingsNo + 1 = ((queued (s.m_handleToData.set h new) : Nat) : Int) := by
    intro new hlength
    have hqueued := queued_set hd new
    rw [hs.readingsNo]
    omega
  have hown : ∀ q ∈ (⟨reading, d.allocation⟩ : Queued ρ) :: d.data, q.allocation = d.allocation := by
    intro q hq
    rcases mem_cons.mp hq with rfl | hq
    · rfl
    · exact hs.own h d hd q hq
  split at hs'
  · next hempty =>
    cases hs'
    have hlistI := hs.empty h d hd (length_eq_zero_iff.mp hempty)
    have hunlisted : ∀ k, (k, h) ∉ s.m_readingHandles := by
      intro k hmem
      obtain ⟨found, hfound, hk⟩ := hs.back k h hmem
      cases hd.symm.trans hfound
      rw [hlistI] at hk
      cases hk
    have hunmade : s.nodes ∉ s.m_readingHandles.map Prod.fst := by
      intro hmem
      obtain ⟨entry, hentry, heq⟩ := mem_map.mp hmem
      exact absurd heq (Nat.ne_of_lt (hs.made entry hentry))
    apply hs.setQueue hd { d with listI := some s.nodes, data := ⟨reading, d.allocation⟩ :: d.data } rfl (hcount _ rfl)
      hbounded _ _ (fun hnil => by cases hnil)
      (fun _ => ⟨_, rfl, mem_cons_self⟩) _ (fun k j _ hmem => mem_cons_of_mem _ hmem) hown
    · intro entry hentry
      rcases mem_cons.mp hentry with rfl | hentry
      · exact Nat.lt_succ_self _
      · exact Nat.lt_succ_of_lt (hs.made entry hentry)
    · exact nodup_cons.mpr ⟨hunmade, hs.nodesOnce⟩
    · intro k j hmem
      rcases mem_cons.mp hmem with heq | hmem
      · cases heq
        exact .inl ⟨rfl, rfl⟩
      · exact .inr ⟨fun hj => hunlisted k (hj ▸ hmem), hmem⟩
  · next hempty =>
    cases hs'
    have hdata : d.data ≠ [] := fun hnil => hempty (length_eq_zero_iff.mpr hnil)
    obtain ⟨k, hk, hmem⟩ := hs.node h d hd hdata
    apply hs.setQueue hd { d with data := ⟨reading, d.allocation⟩ :: d.data } rfl (hcount _ rfl) hbounded hs.made
      hs.nodesOnce (fun hnil => by cases hnil)
      (fun _ => ⟨k, hk, hmem⟩) _ (fun _ _ _ hmem => hmem) hown
    intro k' j hmem'
    by_cases hj : j = h
    · subst hj
      exact .inl ⟨rfl, hs.node_of_ne hd hk hmem' ▸ hk⟩
    · exact .inr ⟨hj, hmem'⟩

theorem Inv.ClearReadings (hs : Inv s) (hs' : s.ClearReadings handle = some s') : Inv s' := by
  rw [PublishedDataMng.ClearReadings] at hs'
  split at hs'
  · cases hs'
    exact hs
  next h d hfound =>
  have hd := data_eq_some hfound
  split at hs'
  swap
  · cases hs'
    exact hs
  next hsome =>
  have hdata : d.data ≠ [] := length_pos_iff.mp hsome
  obtain ⟨k, hk, hmem⟩ := hs.node h d hd hdata
  have hqueued := queued_set hd { d with data := [], listI := none }
  dsimp only [length_nil] at hqueued
  have hmax : s.m_readingsNo ≤ 2 ^ 31 - 1 := hs.bounded
  have hcut : (s.m_readingsNo - d.data.length).bmod (2 ^ 32) = s.m_readingsNo - d.data.length := by
    have hcount := hs.readingsNo
    apply Int.bmod_eq_of_le <;> omega
  rw [hk] at hs'
  dsimp only at hs'
  rw [if_pos (mem_map_of_mem hmem), hcut] at hs'
  cases hs'
  apply hs.setQueue hd { d with data := [], listI := none } rfl _ _ _ _ (fun _ => rfl)
    (fun hne => absurd rfl hne) _ _ (fun _ hq => by cases hq)
  · rw [hs.readingsNo]
    omega
  · change s.m_readingsNo - d.data.length ≤ 2 ^ 31 - 1
    omega
  · exact fun entry hentry => hs.made entry (mem_of_mem_filter hentry)
  · exact (filter_sublist.map _).nodup hs.nodesOnce
  · intro k' j hmem'
    obtain ⟨hmem', hne⟩ := mem_filter.mp hmem'
    refine .inr ⟨?_, hmem'⟩
    rintro rfl
    rw [hs.node_of_ne hd hk hmem'] at hne
    simp at hne
  · intro k' j hj hmem'
    refine mem_filter.mpr ⟨hmem', ?_⟩
    have hne : k' ≠ k := by
      rintro rfl
      exact hj (congrArg Prod.snd (inj_on_of_nodup_map hs.nodesOnce hmem' hmem rfl))
    simpa using hne

theorem Inv.EraseData (hs : Inv s) (handle : Int) : Inv (s.EraseData handle) := by
  rw [PublishedDataMng.EraseData]
  split
  · exact hs
  next h d hvalid =>
  obtain ⟨hd, hhandled⟩ := handled_eq_some hvalid
  have hunfree : h ∉ s.m_handles := by
    intro hmem
    obtain ⟨found, hfound, hfree⟩ := hs.free h hmem
    cases hd.symm.trans hfound
    rw [hhandled] at hfree
    cases hfree
  refine ⟨?_, ?_, ?_, ?_, ?_, hs.bounded, hs.made, hs.nodesOnce, ?_, ?_, ?_, ?_⟩
  · intro j hj
    refine (exists_set hd (fun found => found.isHandled = false) j).mpr ?_
    by_cases hjh : j = h
    · rw [if_pos hjh]
    · rw [if_neg hjh]
      rcases mem_append.mp hj with hj | hj
      · exact hs.free j hj
      · exact absurd (mem_singleton.mp hj) hjh
  · refine nodup_append.mpr ⟨hs.freeOnce, nodup_singleton _, ?_⟩
    intro j hj j' hj' heq
    rw [heq, mem_singleton.mp hj'] at hj
    exact hunfree hj
  · exact (filter_sublist.map _).nodup hs.owners
  · intro j
    refine Iff.trans ?_ (exists_set hd (fun found => found.isHandled = true) j).symm
    by_cases hj : j = h
    · rw [if_pos hj]
      subst hj
      simp
    · rw [if_neg hj, ← hs.owned j]
      simp [hj]
  · have hqueued := queued_set hd { d with isHandled := false }
    change s.m_readingsNo = ((queued (s.m_handleToData.set h { d with isHandled := false }) : Nat) : Int)
    rw [hs.readingsNo]
    dsimp only at hqueued
    omega
  · intro j found hfound
    rcases set_cases hd hfound with ⟨-, rfl⟩ | ⟨-, hfound⟩
    · exact hs.empty h d hd
    · exact hs.empty j found hfound
  · intro j found hfound
    rcases set_cases hd hfound with ⟨rfl, rfl⟩ | ⟨-, hfound⟩
    · exact hs.node j d hd
    · exact hs.node j found hfound
  · intro k j hmem
    refine (exists_set hd (fun found => found.listI = some k) j).mpr ?_
    obtain ⟨found, hfound, hk⟩ := hs.back k j hmem
    by_cases hj : j = h
    · subst hj
      cases hd.symm.trans hfound
      rw [if_pos rfl]
      exact hk
    · rw [if_neg hj]
      exact ⟨found, hfound, hk⟩
  · intro j found hfound
    rcases set_cases hd hfound with ⟨-, rfl⟩ | ⟨-, hfound⟩
    · exact hs.own h d hd
    · exact hs.own j found hfound

theorem Inv.step (hs : Inv s) {e : Event δ ρ} (hok : Ok s e) (hs' : step s e = some s') : Inv s' := by
  cases e with
  | getNewPublishHandle device =>
    cases hs'
    cases hfree : s.m_handles with
    | nil => exact hs.newHandle device hfree
    | cons h handles =>
      obtain ⟨d, hd, hhandled⟩ := hs.free h (hfree ▸ mem_cons_self)
      have hdata : d.data.length = 0 := hok h (by rw [hfree]; rfl) d hd
      exact hs.reusedHandle device hfree hd hhandled (length_eq_zero_iff.mp hdata)
  | addReading handle reading => exact hs.AddReading hs'
  | clearReadings handle => exact hs.ClearReadings hs'
  | eraseData handle =>
    cases hs'
    exact hs.EraseData handle

theorem Inv.ok_of_consistent (hs : Inv s) {e : Event δ ρ} (hs' : PublishedData.step s e = some s')
    (h' : Consistent s') :
    Ok s e := by
  cases e with
  | getNewPublishHandle device =>
    intro h hhead d hd
    cases hs'
    obtain ⟨handles, hfree⟩ : ∃ handles, s.m_handles = h :: handles := by
      cases hlist : s.m_handles with
      | nil =>
        rw [hlist] at hhead
        cases hhead
      | cons first handles =>
        rw [hlist] at hhead
        exact ⟨handles, congrArg (· :: handles) (Option.some.inj hhead)⟩
    have hcount := h'.readingsNo
    have hqueued := queued_set hd s.newData
    rw [PublishedDataMng.GetNewPublishHandle, hfree] at hcount
    change s.m_readingsNo = ((queued (s.m_handleToData.set h s.newData) : Nat) : Int) at hcount
    rw [hs.readingsNo] at hcount
    change _ = _ + 0 at hqueued
    omega
  | addReading => trivial
  | clearReadings => trivial
  | eraseData => trivial

end Steps

instance (s : PublishedDataMng δ ρ) : (e : Event δ ρ) → Decidable (Ok s e)
  | .getNewPublishHandle _ => inferInstanceAs (Decidable (∀ _ ∈ _, _))
  | .addReading _ _ => isTrue trivial
  | .clearReadings _ => isTrue trivial
  | .eraseData _ => isTrue trivial

/-- The records agree over every run that gives no handle with readings, and a step that gives one breaks them. -/
theorem readings_consistent {s : PublishedDataMng δ ρ} (h : Machine.Reaches PublishedDataMng.init step Ok s) :
    Consistent s ∧ ∀ e s', step s e = some s' → (Consistent s' ↔ Ok s e) := by
  have hs : Inv s := h.invariant inv_init fun _ _ _ hs hok hs' => hs.step hok hs'
  refine ⟨hs.consistent, fun e s' hs' => ⟨hs.ok_of_consistent hs', fun hok => (hs.step hok hs').consistent⟩⟩

/-- A device with a reading is erased, its reading is cleared, and another device gets its handle. -/
def sampleEvents : List (Event Nat Nat) :=
  [.getNewPublishHandle 7, .addReading 0 41, .eraseData 0, .clearReadings 0, .getNewPublishHandle 8, .addReading 0 42]

theorem readings_consistent_sample :
    ∃ s ∈ Machine.runs step PublishedDataMng.init sampleEvents, Consistent s ∧ s.m_readingHandles.map Prod.snd =
      [0] := by
  have hok : Machine.AllAlong Ok step PublishedDataMng.init sampleEvents := by decide
  obtain ⟨s, hs, hhandles⟩ : ∃ s ∈ Machine.runs step PublishedDataMng.init sampleEvents,
      s.m_readingHandles.map Prod.snd = [0] := by decide
  exact ⟨s, hs, (readings_consistent (Machine.reaches_runs hok hs)).1, hhandles⟩

/-- The reading of an erased device is counted for the device that gets its handle. -/
theorem erased_reading_counted : ¬ ∀ (events : List (Event Nat Nat)) (s : PublishedDataMng Nat Nat),
    Machine.runs step PublishedDataMng.init events = some s → Consistent s := by
  intro hall
  obtain ⟨s, hs, hcount⟩ : ∃ s ∈ Machine.runs step PublishedDataMng.init
      ([.getNewPublishHandle 7, .addReading 0 41, .eraseData 0, .getNewPublishHandle 8] : List (Event Nat Nat)),
      s.m_readingsNo = 1 ∧ queued s.m_handleToData = 0 := by decide
  have hconsistent := (hall _ s hs).readingsNo
  rw [hcount.1, hcount.2] at hconsistent
  cases hconsistent

end Isa100Gateway.PublishedData
