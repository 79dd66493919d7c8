import Mathlib.Data.List.Infix

/-!
# Tables that forget by age and by number

A call is answered by whether the table has an entry with its key. Before, the entries that are not fresh any more are removed; afterwards an unknown call enters, and the oldest entry leaves a table that became too long. What the table knows can be read off the calls so far and their answers.
-/

open List

namespace AgedTable

structure Run (κ ν : Type*) where
  table : List (κ × ν)
  past : List ((κ × ν) × Bool)

section Check

variable {κ ν : Type*} [DecidableEq κ] (fresh : ν → ν → Bool) (capacity : Nat)

/-- The answer, and the table: the oldest entry first. -/
def check (table : List (κ × ν)) (call : κ × ν) : Bool × List (κ × ν) :=
  let kept := table.filter fun entry => fresh call.2 entry.2
  if kept.any (·.1 = call.1) then (true, kept)
  else
    let pushed := kept ++ [call]
    (false, if capacity < pushed.length then pushed.tail else pushed)

def step (r : Run κ ν) (call : κ × ν) : Run κ ν :=
  ⟨(check fresh capacity r.table call).2, (call, (check fresh capacity r.table call).1) :: r.past⟩

def run (calls : List (κ × ν)) : Run κ ν := calls.foldl (step fresh capacity) ⟨[], []⟩

end Check

variable {κ ν : Type*} (fresh : ν → ν → Bool) (capacity : Nat)

/-- What calls have entered and left fresh, the last one first. -/
def live : List ((κ × ν) × Bool) → List (κ × ν)
  | [] => []
  | (call, known) :: past => (if known then [] else [call]) ++ (live past).filter fun entry => fresh call.2 entry.2

/-- An unknown call with the key is still fresh, was so at all calls since, and never had more than the capacity of the table behind it. -/
def Remembered (past : List ((κ × ν) × Bool)) (call : κ × ν) : Prop :=
  ∃ since entry older, past = since ++ (entry, false) :: older ∧ entry.1 = call.1 ∧ fresh call.2 entry.2 = true ∧
    (∀ later ∈ since, fresh later.1.2 entry.2 = true) ∧ ∀ recent, recent <:+ since →
      (live fresh recent).length < capacity

structure Mirrors (r : Run κ ν) : Prop where
  latest : r.table.reverse <+: live fresh r.past
  size : r.table.length ≤ capacity
  held : ∀ since entry older, r.past = since ++ (entry, false) :: older →
    (∀ later ∈ since, fresh later.1.2 entry.2 = true) →
    ((live fresh since).length < r.table.length ↔ ∀ recent, recent <:+ since → (live fresh recent).length < capacity)

variable {fresh capacity} {r : Run κ ν} {past since older : List ((κ × ν) × Bool)} {entry call : κ × ν}
    {front rest : List (κ × ν)}

theorem exists_live_append (h : ∀ later ∈ since, fresh later.1.2 entry.2 = true) :
    ∃ rest, live fresh (since ++ (entry, false) :: older) = live fresh since ++ entry :: rest := by
  induction since with
  | nil => exact ⟨_, rfl⟩
  | cons later since ih =>
    obtain ⟨hfresh, hsince⟩ := forall_mem_cons.mp h
    obtain ⟨rest, hrest⟩ := ih hsince
    refine ⟨rest.filter fun old => fresh later.1.2 old.2, ?_⟩
    rw [cons_append, live, live, hrest, filter_append, filter_cons, if_pos hfresh, append_assoc]

theorem exists_of_live (h : live fresh past = front ++ entry :: rest) :
    ∃ since older, past = since ++ (entry, false) :: older ∧ (∀ later ∈ since, fresh later.1.2 entry.2 = true) ∧
      live fresh since = front := by
  induction past generalizing front rest with
  | nil => simp [live] at h
  | cons later past ih =>
    obtain ⟨call, known⟩ := later
    -- the entry is one of the earlier ones, and the call has left it fresh
    have hearlier : ∀ {front' rest' : List (κ × ν)}, (live fresh past).filter (fun old => fresh call.2 old.2) =
      front' ++ entry :: rest' →
        ∃ since older, past = since ++ (entry, false) :: older ∧
          (∀ later ∈ (call, known) :: since, fresh later.1.2 entry.2 = true) ∧
          (live fresh since).filter (fun old => fresh call.2 old.2) = front' := by
      intro front' rest' hfilter
      obtain ⟨left, right, hlive, hleft, hright⟩ := filter_eq_append_iff.mp hfilter
      obtain ⟨gone, right', hsplit, hgone, hfresh, -⟩ := filter_eq_cons_iff.mp hright
      rw [hsplit, ← append_assoc] at hlive
      obtain ⟨since, older, hpast, hsince, hfront⟩ := ih hlive
      refine ⟨since, older, hpast, forall_mem_cons.mpr ⟨hfresh, hsince⟩, ?_⟩
      rw [hfront, filter_append, hleft, filter_eq_nil_iff.mpr hgone, append_nil]
    cases known with
    | true =>
      obtain ⟨since, older, rfl, hsince, hfront⟩ := hearlier h
      exact ⟨(call, true) :: since, older, rfl, hsince, hfront⟩
    | false =>
      cases front with
      | nil =>
        cases (cons.inj h).1
        exact ⟨[], past, rfl, forall_mem_nil _, rfl⟩
      | cons first front =>
        obtain ⟨rfl, hrest⟩ := cons.inj h
        obtain ⟨since, older, rfl, hsince, hfront⟩ := hearlier hrest
        exact ⟨(call, false) :: since, older, rfl, hsince, congrArg (call :: ·) hfront⟩

section

variable (h : Mirrors fresh capacity r) (hpast : r.past = since ++ (entry, false) :: older)
    (hsince : ∀ later ∈ since, fresh later.1.2 entry.2 = true)
include h hpast hsince

theorem Mirrors.latest_start :
    if (live fresh since).length < r.table.length then live fresh since ++ [entry] <+: r.table.reverse
    else r.table.reverse <+: live fresh since := by
  obtain ⟨rest, hrest⟩ : ∃ rest, live fresh (since ++ (entry, false) :: older) = live fresh since ++ entry :: rest :=
    exists_live_append hsince
  have hlatest := h.latest
  rw [hpast, hrest] at hlatest
  split
  · refine prefix_of_prefix_length_le ((prefix_append_right_inj _).mpr (prefix_append [entry] rest)) hlatest ?_
    rwa [length_append, length_reverse]
  · refine prefix_of_prefix_length_le hlatest (prefix_append _ _) ?_
    rw [length_reverse]
    omega

theorem kept_lt_iff (hfresh : fresh call.2 entry.2 = true) :
    ((live fresh since).filter fun old => fresh call.2 old.2).length <
      (r.table.filter fun old => fresh call.2 old.2).length ↔
      (live fresh since).length < r.table.length := by
  have hkept : (r.table.filter fun old => fresh call.2 old.2).length =
    (r.table.reverse.filter fun old => fresh call.2 old.2).length := by
    rw [filter_reverse, length_reverse]
  have hstart := h.latest_start hpast hsince
  rw [hkept]
  split at hstart <;> rename_i hlt
  · have hle := (hstart.filter fun old => fresh call.2 old.2).length_le
    rw [filter_append, length_append, filter_cons, if_pos hfresh, length_cons] at hle
    exact iff_of_true (by omega) hlt
  · have hle := (hstart.filter fun old => fresh call.2 old.2).length_le
    exact iff_of_false (by omega) hlt

end

theorem forall_ending_cons {P : List ((κ × ν) × Bool) → Prop} {later : (κ × ν) × Bool} :
    (∀ recent, recent <:+ later :: since → P recent) ↔ P (later :: since) ∧ ∀ recent, recent <:+ since → P recent := by
  simp [suffix_cons_iff]

section Check

variable [DecidableEq κ]

theorem Mirrors.step (h : Mirrors fresh capacity r) (hcapacity : 0 < capacity) (call : κ × ν) :
    Mirrors fresh capacity (AgedTable.step fresh capacity r call) := by
  have hkept : (r.table.filter fun old => fresh call.2 old.2).reverse <+: (live fresh r.past).filter fun old =>
    fresh call.2 old.2 := by
    rw [← filter_reverse]
    exact h.latest.filter _
  have hsize := (length_filter_le (fun old => fresh call.2 old.2) r.table).trans h.size
  unfold AgedTable.step check
  by_cases hknown : (r.table.filter fun old => fresh call.2 old.2).any (·.1 = call.1) = true
  · rw [if_pos hknown]
    refine ⟨hkept, hsize, fun since entry older hpast hsince => ?_⟩
    cases since with
    | nil => cases hpast
    | cons later since =>
      obtain ⟨rfl, hrest⟩ := cons.inj hpast
      obtain ⟨hfresh, hsince⟩ := forall_mem_cons.mp hsince
      have hheld := h.held since entry older hrest hsince
      have hlt := kept_lt_iff h hrest hsince hfresh
      rw [forall_ending_cons, ← hheld, ← hlt]
      exact ⟨fun hin => ⟨hin.trans_le hsize, hin⟩, fun hin => hin.2⟩
  · rw [if_neg hknown]
    generalize hpushed : (r.table.filter fun old => fresh call.2 old.2) ++ [call] = pushed
    have hlatest : pushed.reverse <+: call :: (live fresh r.past).filter fun old => fresh call.2 old.2 := by
      rw [← hpushed, reverse_append, reverse_singleton, singleton_append]
      exact (prefix_cons_inj call).mpr hkept
    have hlength : pushed.length = (r.table.filter fun old => fresh call.2 old.2).length + 1 := by
      rw [← hpushed, length_append, length_singleton]
    have hend : (if capacity < pushed.length then pushed.tail else pushed) <:+ pushed := by
      split
      · exact tail_suffix pushed
      · exact suffix_refl pushed
    have htable : (if capacity < pushed.length then pushed.tail else pushed).length = min pushed.length capacity := by
      split
      · rw [length_tail]
        omega
      · omega
    have hrecent := reverse_prefix.mpr hend
    refine ⟨hrecent.trans hlatest, htable.trans_le (Nat.min_le_right _ _), fun since entry older hpast hsince => ?_⟩
    change _ < (if capacity < pushed.length then pushed.tail else pushed).length ↔ _
    rw [htable, hlength]
    cases since with
    | nil =>
      refine iff_of_true (by simp only [live, length_nil]; omega) fun recent hrecent => ?_
      rw [suffix_nil.mp hrecent]
      exact hcapacity
    | cons later since =>
      obtain ⟨rfl, hrest⟩ := cons.inj hpast
      obtain ⟨hfresh, hsince⟩ := forall_mem_cons.mp hsince
      rw [forall_ending_cons, ← h.held since entry older hrest hsince, ← kept_lt_iff h hrest hsince hfresh]
      simp only [live, Bool.false_eq_true, if_false, length_append, length_singleton]
      omega

theorem Mirrors.run (hcapacity : 0 < capacity) (calls : List (κ × ν)) :
    Mirrors fresh capacity (AgedTable.run fresh capacity calls) := by
  refine foldlRecOn calls _ ⟨prefix_rfl, Nat.zero_le _, ?_⟩ fun r h call _ => h.step hcapacity call
  intro since entry older hpast
  simp at hpast

theorem Mirrors.check_iff (h : Mirrors fresh capacity r) :
    (check fresh capacity r.table call).1 = true ↔ Remembered fresh capacity r.past call := by
  have hcheck : (check fresh capacity r.table call).1 = true ↔ ∃ entry ∈ r.table, fresh call.2 entry.2 = true ∧
    entry.1 = call.1 := by
    rw [check]
    split
    · rename_i hknown
      refine iff_of_true rfl ?_
      obtain ⟨entry, hentry, hkey⟩ := any_eq_true.mp hknown
      obtain ⟨hentry, hfresh⟩ := mem_filter.mp hentry
      exact ⟨entry, hentry, hfresh, of_decide_eq_true hkey⟩
    · rename_i hunknown
      refine iff_of_false Bool.false_ne_true ?_
      rintro ⟨entry, hentry, hfresh, hkey⟩
      exact hunknown (any_eq_true.mpr ⟨entry, mem_filter.mpr ⟨hentry, hfresh⟩, decide_eq_true hkey⟩)
  rw [hcheck]
  constructor
  · rintro ⟨entry, hentry, hfresh, hkey⟩
    obtain ⟨front, rest, hsplit⟩ := append_of_mem (mem_reverse.mpr hentry)
    obtain ⟨older, hlatest⟩ := h.latest
    rw [hsplit, append_assoc, cons_append] at hlatest
    obtain ⟨since, older, hpast, hsince, rfl⟩ := exists_of_live hlatest.symm
    refine ⟨since, entry, older, hpast, hkey, hfresh, hsince, (h.held since entry older hpast hsince).mp ?_⟩
    have hlength := congrArg length hsplit
    rw [length_reverse, length_append, length_cons] at hlength
    omega
  · rintro ⟨since, entry, older, hpast, hkey, hfresh, hsince, hroom⟩
    have hlt := (h.held since entry older hpast hsince).mpr hroom
    have hstart := h.latest_start hpast hsince
    rw [if_pos hlt] at hstart
    exact ⟨entry, mem_reverse.mp (hstart.subset (mem_append_right _ (mem_singleton_self entry))), hfresh, hkey⟩

end Check

end AgedTable
