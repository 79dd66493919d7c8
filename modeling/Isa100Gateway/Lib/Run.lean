import Mathlib.Data.List.Basic
import Mathlib.Tactic.Tauto

/-!
# Runs and queue passes

A state machine is a step function; `Reachable` collects the states of its runs, restricted to steps that meet a condition. `pass` is one walk over a queue during which every element may change a shared state, be replaced, or be removed. Both come with the rule that reduces an invariant to one step.
-/

namespace Machine

open List

section Runs

variable {σ α : Type*}

/-- The states of the runs from `init` in which every step meets `ok`. -/
inductive Reachable (init : σ) (step : σ → α → σ) (ok : σ → α → Prop) : σ → Prop
  | init : Reachable init step ok init
  | step {s : σ} (a : α) : Reachable init step ok s → ok s a → Reachable init step ok (step s a)

variable {init : σ} {step : σ → α → σ} {ok : σ → α → Prop} {P : σ → Prop} {s : σ} {as : List α}

theorem Reachable.invariant (hinit : P init)
    (hstep : ∀ s a, P s → ok s a → P (step s a)) (h : Reachable init step ok s) : P s := by
  induction h with
  | init => exact hinit
  | step a _ hok ih => exact hstep _ a ih hok

def run (step : σ → α → σ) (s : σ) (as : List α) : σ := as.foldl step s

def Along (ok : σ → α → Prop) (step : σ → α → σ) : σ → List α → Prop
  | _, [] => True
  | s, a :: as => ok s a ∧ Along ok step (step s a) as

instance Along.decidable [∀ s a, Decidable (ok s a)] : ∀ (s : σ) (as : List α), Decidable (Along ok step s as)
  | _, [] => isTrue trivial
  | s, a :: as =>
    have := Along.decidable (step s a) as
    inferInstanceAs (Decidable (_ ∧ _))

theorem reachable_run_of (h : Reachable init step ok s)
    (hok : Along ok step s as) : Reachable init step ok (run step s as) := by
  induction as generalizing s with
  | nil => exact h
  | cons a as ih => exact ih (h.step a hok.1) hok.2

theorem reachable_run (hok : Along ok step init as) : Reachable init step ok (run step init as) :=
  reachable_run_of .init hok

theorem run_invariant (hstep : ∀ s a, P s → ok s a → P (step s a))
    (hP : P s) (hok : Along ok step s as) : P (run step s as) := by
  induction as generalizing s with
  | nil => exact hP
  | cons a as ih => exact ih (hstep s a hP hok.1) hok.2

theorem Along.imp {ok' : σ → α → Prop} (hstep : ∀ s a, P s → ok s a → ok' s a ∧ P (step s a)) (hP : P s)
    (hok : Along ok step s as) : Along ok' step s as := by
  induction as generalizing s with
  | nil => trivial
  | cons a as ih =>
    have hhere := hstep s a hP hok.1
    exact ⟨hhere.1, ih hhere.2 hok.2⟩

theorem along_true (s : σ) (as : List α) : Along (fun _ _ => True) step s as := by
  induction as generalizing s with
  | nil => trivial
  | cons a as ih => exact ⟨trivial, ih (step s a)⟩

end Runs

section Partial

variable {σ α : Type*}

inductive Reaches (init : σ) (step : σ → α → Option σ) (ok : σ → α → Prop) : σ → Prop
  | init : Reaches init step ok init
  | step {s s' : σ} (a : α) : Reaches init step ok s → ok s a → step s a = some s' → Reaches init step ok s'

theorem Reaches.invariant {init : σ} {step : σ → α → Option σ} {ok : σ → α → Prop} {P : σ → Prop}
    (hinit : P init) (hstep : ∀ s a s', P s → ok s a → step s a = some s' → P s') {s : σ}
    (h : Reaches init step ok s) : P s := by
  induction h with
  | init => exact hinit
  | step a _ hok hnext ih => exact hstep _ a _ ih hok hnext

def runs (step : σ → α → Option σ) : σ → List α → Option σ
  | s, [] => some s
  | s, a :: as => (step s a).bind fun s => runs step s as

def AllAlong (ok : σ → α → Prop) (step : σ → α → Option σ) : σ → List α → Prop
  | _, [] => True
  | s, a :: as => ok s a ∧ ∀ s' ∈ step s a, AllAlong ok step s' as

variable {init : σ} {step : σ → α → Option σ} {ok : σ → α → Prop}

instance AllAlong.decidable [∀ s a, Decidable (ok s a)] : ∀ (s : σ) (as : List α), Decidable (AllAlong ok step s as)
  | _, [] => isTrue trivial
  | _, _ :: as =>
    have := fun s' => AllAlong.decidable s' as
    inferInstanceAs (Decidable (_ ∧ _))

variable {as : List α}

theorem reaches_runs_of {s s' : σ} (h : Reaches init step ok s)
    (hok : AllAlong ok step s as) (hrun : runs step s as = some s') : Reaches init step ok s' := by
  induction as generalizing s with
  | nil =>
    cases hrun
    exact h
  | cons a as ih =>
    obtain ⟨s₁, hstep, hrest⟩ := Option.bind_eq_some_iff.mp hrun
    exact ih (h.step a hok.1 hstep) (hok.2 s₁ hstep) hrest

theorem runs_invariant {P : σ → Prop} {s s' : σ} (hP : P s)
    (hstep : ∀ s a s', a ∈ as → P s → step s a = some s' → P s') (hrun : runs step s as = some s') : P s' := by
  induction as generalizing s with
  | nil =>
    cases hrun
    exact hP
  | cons a as ih =>
    obtain ⟨s₁, hs₁, hrest⟩ := Option.bind_eq_some_iff.mp hrun
    apply ih _ _ hrest
    · exact hstep s a s₁ mem_cons_self hP hs₁
    · intro t b t' hb hPt ht
      exact hstep t b t' (mem_cons_of_mem a hb) hPt ht

theorem reaches_runs {s : σ} (hok : AllAlong ok step init as)
    (hrun : runs step init as = some s) : Reaches init step ok s :=
  reaches_runs_of .init hok hrun

end Partial

section Passes

variable {σ α : Type*}

/-- One walk over a queue, oldest element first. A visit may change the shared state and replaces or removes the visited element. -/
def pass (visit : σ → α → σ × Option α) : σ → List α → σ × List α
  | s, [] => (s, [])
  | s, a :: as =>
    let (s₁, a₁) := visit s a
    let (s₂, as₁) := pass visit s₁ as
    (s₂, a₁.toList ++ as₁)

/-- Every visit of a pass meets `ok` in the shared state it starts from. -/
def PassAll (ok : σ → α → Prop) (visit : σ → α → σ × Option α) : σ → List α → Prop
  | _, [] => True
  | s, a :: as => ok s a ∧ PassAll ok visit (visit s a).1 as

variable {visit : σ → α → σ × Option α} {ok : σ → α → Prop}

instance PassAll.decidable [∀ s a, Decidable (ok s a)] : ∀ (s : σ) (as : List α), Decidable (PassAll ok visit s as)
  | _, [] => isTrue trivial
  | s, a :: as =>
    have := PassAll.decidable (visit s a).1 as
    inferInstanceAs (Decidable (_ ∧ _))

theorem mem_visited {done rest : List α} {a : Option α} {b : α} :
    b ∈ done ++ a.toList ++ rest ↔ b ∈ a ∨ b ∈ done ∨ b ∈ rest := by
  simp only [mem_append, Option.mem_toList]
  tauto

theorem mem_of_unvisited {done rest : List α} {a b : α} (h : b ∈ done ∨ b ∈ rest) : b ∈ done ++ a :: rest := by
  rcases h with h | h
  · exact mem_append_left _ h
  · exact mem_append_right _ (mem_cons_of_mem a h)

/-- A property of the shared state and the whole queue that each visit preserves survives the pass. During a visit the queue is the part already walked, the visited element, and the rest. -/
theorem pass_invariant {P : σ → List α → Prop} (hvisit : ∀ s done a rest, ok s a → P s (done ++ a :: rest) →
      P (visit s a).1 (done ++ (visit s a).2.toList ++ rest)) :
    ∀ (as done : List α) (s : σ), PassAll ok visit s as → P s (done ++ as) →
      P (pass visit s as).1 (done ++ (pass visit s as).2) := by
  intro as
  induction as with
  | nil =>
    intro done s _ hP
    exact hP
  | cons a as ih =>
    intro done s hok hP
    have hstep := hvisit s done a as hok.1 hP
    have hrest := ih (done ++ (visit s a).2.toList) (visit s a).1 hok.2 hstep
    simpa [pass, append_assoc] using hrest

theorem passAll_true (s : σ) (as : List α) : PassAll (fun _ _ => True) visit s as := by
  induction as generalizing s with
  | nil => trivial
  | cons a as ih => exact ⟨trivial, ih _⟩

theorem pass_invariant_all {P : σ → List α → Prop} (hvisit : ∀ s done a rest, P s (done ++ a :: rest) →
      P (visit s a).1 (done ++ (visit s a).2.toList ++ rest))
    {s : σ} {as : List α} (hP : P s as) : P (pass visit s as).1 (pass visit s as).2 :=
  pass_invariant (fun s done a rest _ => hvisit s done a rest) as [] s (passAll_true s as) hP

theorem filterMap_invariant {P : List α → Prop} {g : α → Option α} {ok : α → Prop}
    (hvisit : ∀ done a rest, ok a → P (done ++ a :: rest) → P (done ++ (g a).toList ++ rest)) :
    ∀ (as done : List α), (∀ a ∈ as, ok a) → P (done ++ as) → P (done ++ as.filterMap g) := by
  intro as
  induction as with
  | nil =>
    intro done _ hP
    exact hP
  | cons a as ih =>
    intro done hok hP
    have hstep := hvisit done a as (hok a mem_cons_self) hP
    have hrest := ih (done ++ (g a).toList) (fun b hb => hok b (mem_cons_of_mem a hb)) hstep
    cases hg : g a with
    | none => simpa [filterMap_cons, hg] using hrest
    | some b => simpa [filterMap_cons, hg] using hrest

theorem filter_invariant {P : List α → Prop} {keeps : α → Bool}
    (hremove : ∀ done a rest, keeps a = false → P (done ++ a :: rest) → P (done ++ rest))
    {as : List α} (hP : P as) : P (as.filter keeps) := by
  rw [← filterMap_eq_filter]
  have hall : ∀ a ∈ as, True := fun _ _ => trivial
  apply filterMap_invariant _ as [] hall hP
  intro done a rest _ h
  cases hkeeps : keeps a with
  | true =>
    have hsome : Option.guard keeps a = some a := by simp [hkeeps]
    simpa [hsome] using h
  | false =>
    have hnone : Option.guard keeps a = none := by simp [hkeeps]
    simpa [hnone] using hremove done a rest hkeeps h

theorem mem_pass {s : σ} {as : List α} {b : α} (h : b ∈ (pass visit s as).2) :
    ∃ s', ∃ a ∈ as, b ∈ (visit s' a).2 := by
  induction as generalizing s with
  | nil => cases h
  | cons a as ih =>
    rcases mem_append.mp h with h | h
    · exact ⟨s, a, mem_cons_self, Option.mem_toList.mp h⟩
    · obtain ⟨s', a', ha', hvisit⟩ := ih h
      exact ⟨s', a', mem_cons_of_mem a ha', hvisit⟩

theorem pass_sublist {β : Type*} {f : α → β} (hvisit : ∀ s a, ∀ b ∈ (visit s a).2, f b = f a)
    (s : σ) (as : List α) : ((pass visit s as).2.map f).Sublist (as.map f) := by
  induction as generalizing s with
  | nil => exact List.Sublist.refl _
  | cons a as ih =>
    have hrest := ih (visit s a).1
    have hhead := hvisit s a
    cases hleft : (visit s a).2 with
    | none => simpa [pass, hleft] using hrest.cons (f a)
    | some b =>
      rw [hleft] at hhead
      simpa [pass, hleft, hhead b rfl] using hrest

end Passes

end Machine
