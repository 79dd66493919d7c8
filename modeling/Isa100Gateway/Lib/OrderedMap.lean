import Mathlib.Data.List.Basic
import Mathlib.Order.Lattice

/-!
# Maps in the order of their keys

The sorted map of the C++ library as the list of its entries: no key is there twice, and iterating goes through the entries in the order of the keys. `insert` leaves an entry that is there, `set` overwrites it.
-/

structure OrderedMap (κ α : Type*) [LinearOrder κ] where
  entries : List (κ × α)
  sorted : entries.Pairwise fun a b => a.1 < b.1

namespace OrderedMap

open List

variable {κ α : Type*} [LinearOrder κ]

def putEntry (k : κ) (v : α) : List (κ × α) → List (κ × α)
  | [] => [(k, v)]
  | (k', v') :: rest =>
    if k < k' then (k, v) :: (k', v') :: rest
    else if k = k' then (k, v) :: rest
    else (k', v') :: putEntry k v rest

variable {entries : List (κ × α)}

theorem mem_putEntry {k : κ} {v : α} {e : κ × α} (h : e ∈ putEntry k v entries) : e = (k, v) ∨ e ∈ entries := by
  induction entries with
  | nil => exact .inl (mem_singleton.mp h)
  | cons e' rest ih =>
    obtain ⟨k', v'⟩ := e'
    unfold putEntry at h
    split_ifs at h with hlt heq
    · exact (mem_cons.mp h).imp id id
    · exact (mem_cons.mp h).imp id (mem_cons_of_mem _)
    · obtain rfl | hrest := mem_cons.mp h
      · exact .inr mem_cons_self
      · exact (ih hrest).imp id (mem_cons_of_mem _)

theorem sorted_putEntry (k : κ) (v : α) (h : entries.Pairwise fun a b => a.1 < b.1) :
    (putEntry k v entries).Pairwise fun a b => a.1 < b.1 := by
  induction entries with
  | nil => exact pairwise_singleton _ _
  | cons e rest ih =>
    obtain ⟨k', v'⟩ := e
    obtain ⟨hhead, htail⟩ := pairwise_cons.mp h
    unfold putEntry
    split_ifs with hlt heq
    · refine pairwise_cons.mpr ⟨fun e he => ?_, h⟩
      obtain rfl | hrest := mem_cons.mp he
      · exact hlt
      · exact lt_trans hlt (hhead e hrest)
    · exact pairwise_cons.mpr ⟨fun e he => heq ▸ hhead e he, htail⟩
    · refine pairwise_cons.mpr ⟨fun e he => ?_, ih htail⟩
      obtain rfl | hrest := mem_putEntry he
      · exact lt_of_le_of_ne (not_lt.mp hlt) (Ne.symm heq)
      · exact hhead e hrest

def findEntry (entries : List (κ × α)) (k : κ) : Option α := (entries.find? fun e => e.1 = k).map Prod.snd

theorem findEntry_cons (k' : κ) (v' : α) (rest : List (κ × α)) (k : κ) :
    findEntry ((k', v') :: rest) k = if k' = k then some v' else findEntry rest k := by
  unfold findEntry
  by_cases heq : k' = k
  · rw [if_pos heq, find?_cons_of_pos (p := fun e : κ × α => e.1 = k) (decide_eq_true heq)]
    rfl
  · rw [if_neg heq, find?_cons_of_neg (p := fun e : κ × α => e.1 = k) (by simpa using heq)]

theorem findEntry_putEntry (k : κ) (v : α) (entries : List (κ × α)) (k' : κ) :
    findEntry (putEntry k v entries) k' = if k = k' then some v else findEntry entries k' := by
  induction entries with
  | nil => exact findEntry_cons k v [] k'
  | cons e rest ih =>
    obtain ⟨k'', v''⟩ := e
    unfold putEntry
    by_cases hlt : k < k''
    · rw [if_pos hlt, findEntry_cons]
    · rw [if_neg hlt]
      by_cases heq : k = k''
      · rw [if_pos heq, findEntry_cons, findEntry_cons, ← heq]
        by_cases hkey : k = k'
        · rw [if_pos hkey, if_pos hkey]
        · rw [if_neg hkey, if_neg hkey, if_neg hkey]
      · rw [if_neg heq, findEntry_cons, findEntry_cons, ih]
        by_cases hkey : k = k'
        · rw [if_pos hkey, if_pos hkey, if_neg (fun hk => heq (hkey.trans hk.symm))]
        · rw [if_neg hkey, if_neg hkey]

theorem findEntry_of_mem (hsorted : entries.Pairwise fun a b => a.1 < b.1) {k : κ} {v : α}
    (h : (k, v) ∈ entries) : findEntry entries k = some v := by
  induction entries with
  | nil => cases h
  | cons e rest ih =>
    obtain ⟨k', v'⟩ := e
    obtain ⟨hhead, htail⟩ := pairwise_cons.mp hsorted
    rw [findEntry_cons]
    obtain heq | hrest := mem_cons.mp h
    · cases heq
      rw [if_pos rfl]
    · rw [if_neg (ne_of_lt (hhead _ hrest)), ih htail hrest]

theorem mem_of_findEntry {k : κ} {v : α} (h : findEntry entries k = some v) : (k, v) ∈ entries := by
  obtain ⟨⟨k', v'⟩, hfind, rfl⟩ := Option.map_eq_some_iff.mp h
  have hkey := @List.find?_some (κ × α) (fun e => e.1 = k) _ _ hfind
  obtain rfl : k' = k := of_decide_eq_true hkey
  exact mem_of_find?_eq_some hfind

def empty : OrderedMap κ α := ⟨[], Pairwise.nil⟩

def find (m : OrderedMap κ α) (k : κ) : Option α := findEntry m.entries k

def set (m : OrderedMap κ α) (k : κ) (v : α) : OrderedMap κ α := ⟨putEntry k v m.entries, sorted_putEntry k v m.sorted⟩

/-- `insert`, which does not overwrite. -/
def insert (m : OrderedMap κ α) (k : κ) (v : α) : OrderedMap κ α := if (m.find k).isSome then m else m.set k v

def erase (m : OrderedMap κ α) (k : κ) : OrderedMap κ α :=
  ⟨m.entries.filter fun e => e.1 ≠ k, m.sorted.sublist filter_sublist⟩

def keys (m : OrderedMap κ α) : List κ := m.entries.map Prod.fst

def filter (m : OrderedMap κ α) (p : κ → α → Bool) : OrderedMap κ α :=
  ⟨m.entries.filter fun e => p e.1 e.2, m.sorted.sublist filter_sublist⟩

def filterMap {β : Type*} (m : OrderedMap κ α) (f : κ → α → Option β) : OrderedMap κ β where
  entries := m.entries.filterMap fun e => (f e.1 e.2).map fun w => (e.1, w)
  sorted := by
    refine Pairwise.filterMap _ (fun a a' hlt b hb b' hb' => ?_) m.sorted
    obtain ⟨w, -, rfl⟩ := Option.map_eq_some_iff.mp hb
    obtain ⟨w', -, rfl⟩ := Option.map_eq_some_iff.mp hb'
    exact hlt

variable {m : OrderedMap κ α} {k k' : κ} {v : α}

theorem find_empty (k : κ) : (empty : OrderedMap κ α).find k = none := rfl

theorem find_set : (m.set k v).find k' = if k = k' then some v else m.find k' := findEntry_putEntry k v m.entries k'

theorem find_set_self : (m.set k v).find k = some v := by rw [find_set, if_pos rfl]

theorem find_insert : (m.insert k v).find k' = if k = k' ∧ m.find k = none then some v else m.find k' := by
  unfold insert
  rcases hfind : m.find k with _ | v'
  · rw [if_neg (by simp), find_set]
    by_cases heq : k = k'
    · rw [if_pos heq, if_pos ⟨heq, rfl⟩]
    · rw [if_neg heq, if_neg (fun h => heq h.1)]
  · rw [if_pos (Option.isSome_some), if_neg (fun h => nomatch h.2)]

theorem mem_entries : (k, v) ∈ m.entries ↔ m.find k = some v :=
  ⟨findEntry_of_mem m.sorted, mem_of_findEntry⟩

theorem mem_keys : k ∈ m.keys ↔ (m.find k).isSome := by
  rw [Option.isSome_iff_exists]
  unfold keys
  rw [mem_map]
  constructor
  · rintro ⟨⟨k', v⟩, he, rfl⟩
    exact ⟨v, mem_entries.mp he⟩
  · rintro ⟨v, hv⟩
    exact ⟨(k, v), mem_entries.mpr hv, rfl⟩

theorem find_erase : (m.erase k).find k' = if k = k' then none else m.find k' := by
  refine Option.ext fun v => ?_
  rw [← mem_entries]
  change (k', v) ∈ m.entries.filter _ ↔ _
  rw [mem_filter, mem_entries]
  by_cases heq : k = k'
  · rw [if_pos heq, heq]
    simp
  · rw [if_neg heq]
    exact Iff.intro And.left fun h => ⟨h, decide_eq_true fun hkey => heq hkey.symm⟩

theorem nodup_entries (m : OrderedMap κ α) : m.entries.Nodup :=
  m.sorted.imp fun hlt heq => ne_of_lt hlt (congrArg Prod.fst heq)

theorem eq_of_find {m' : OrderedMap κ α} (h : ∀ k, m.find k = m'.find k) : m = m' := by
  have hmem : ∀ e, e ∈ m.entries ↔ e ∈ m'.entries := by
    rintro ⟨k, v⟩
    rw [mem_entries, mem_entries, h]
  have hperm : m.entries.Perm m'.entries :=
    (perm_ext_iff_of_nodup m.nodup_entries m'.nodup_entries).mpr hmem
  have hentries : m.entries = m'.entries :=
    hperm.eq_of_pairwise (fun a b _ _ hab hba => absurd hab (lt_asymm hba)) m.sorted m'.sorted
  cases m
  cases m'
  congr

theorem set_of_find (h : m.find k = some v) : m.set k v = m := by
  apply eq_of_find
  intro k'
  rw [find_set]
  by_cases heq : k = k'
  · rw [if_pos heq, ← heq, h]
  · rw [if_neg heq]

theorem perm_erase (h : m.find k = some v) : m.entries.Perm ((k, v) :: (m.erase k).entries) := by
  have hnot : (k, v) ∉ (m.erase k).entries := by
    rw [mem_entries, find_erase, if_pos rfl]
    exact nofun
  refine (perm_ext_iff_of_nodup m.nodup_entries
    (nodup_cons.mpr ⟨hnot, (m.erase k).nodup_entries⟩)).mpr ?_
  rintro ⟨k', v'⟩
  rw [mem_cons, mem_entries, mem_entries, find_erase, Prod.mk.injEq]
  by_cases heq : k = k'
  · subst heq
    rw [if_pos rfl, h]
    simp [eq_comm]
  · rw [if_neg heq, or_iff_right fun hsame => heq hsame.1.symm]

theorem perm_insert (h : m.find k = none) : (m.insert k v).entries.Perm ((k, v) :: m.entries) := by
  have hnot : (k, v) ∉ m.entries := by
    rw [mem_entries, h]
    exact nofun
  refine (perm_ext_iff_of_nodup (m.insert k v).nodup_entries
    (nodup_cons.mpr ⟨hnot, m.nodup_entries⟩)).mpr ?_
  rintro ⟨k', v'⟩
  rw [mem_cons, mem_entries, mem_entries, find_insert, Prod.mk.injEq]
  by_cases heq : k = k'
  · subst heq
    rw [if_pos ⟨rfl, h⟩, h]
    simp [eq_comm]
  · rw [if_neg fun hsame => heq hsame.1, or_iff_right fun hsame => heq hsame.1.symm]

theorem find_filterMap {β : Type*} {f : κ → α → Option β} : (m.filterMap f).find k = (m.find k).bind (f k) := by
  refine Option.ext fun w => ?_
  rw [← mem_entries, Option.bind_eq_some_iff]
  change (k, w) ∈ m.entries.filterMap _ ↔ _
  rw [mem_filterMap]
  constructor
  · rintro ⟨⟨k', v⟩, he, hw⟩
    obtain ⟨w', hw', heq⟩ := Option.map_eq_some_iff.mp hw
    cases heq
    exact ⟨v, mem_entries.mp he, hw'⟩
  · rintro ⟨v, hv, hw⟩
    exact ⟨(k, v), mem_entries.mpr hv, by rw [hw]; rfl⟩

theorem filter_flatMap {β : Type*} (key : β → κ) (f : κ → α → List β) (hf : ∀ k v, ∀ b ∈ f k v, key b = k) (k : κ) :
    (m.entries.flatMap fun e => f e.1 e.2).filter (key · = k) = (m.find k).elim [] (f k) := by
  have hentry : ∀ k' v, (f k' v).filter (key · = k) = if k' = k then f k' v else [] := by
    intro k' v
    by_cases heq : k' = k
    · rw [if_pos heq, filter_eq_self]
      exact fun b hb => decide_eq_true ((hf k' v b hb).trans heq)
    · rw [if_neg heq, filter_eq_nil_iff]
      intro b hb hkey
      exact heq ((hf k' v b hb).symm.trans (of_decide_eq_true hkey))
  unfold find
  obtain ⟨entries, hsorted⟩ := m
  induction entries with
  | nil => rfl
  | cons e rest ih =>
    obtain ⟨k', v'⟩ := e
    obtain ⟨hhead, htail⟩ := pairwise_cons.mp hsorted
    rw [flatMap_cons, filter_append, hentry, findEntry_cons, ih htail]
    by_cases heq : k' = k
    · subst heq
      have hnone : findEntry rest k' = none := by
        by_contra hsome
        obtain ⟨v, hv⟩ := Option.ne_none_iff_exists'.mp hsome
        exact lt_irrefl k' (hhead (k', v) (mem_of_findEntry hv))
      rw [if_pos rfl, if_pos rfl, hnone]
      exact append_nil _
    · rw [if_neg heq, if_neg heq]
      rfl

end OrderedMap
