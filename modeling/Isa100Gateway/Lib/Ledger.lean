import Isa100Gateway.Lib.Run
import Mathlib.Data.List.Nodup

/-!
# Requests and their answers

A machine takes in numbered requests, keeps some of them waiting and answers them in its steps. If every step answers as many times as it stops waiting, each request is answered exactly once, or waits and is not answered.
-/

namespace Ledger

section Books

variable {σ ε : Type*}

/-- The state of a machine, the requests that it has taken in, and those that it has answered. -/
structure Book (σ : Type*) where
  state : σ
  accepted : List Nat
  answered : List Nat

def Book.start (s : σ) : Book σ := ⟨s, [], []⟩

variable (next : σ → ε → Option σ) (accepts : σ → ε → List Nat) (answers : σ → ε → σ → List Nat)

def step (b : Book σ) (e : ε) : Option (Book σ) :=
  (next b.state e).map fun s => ⟨s, b.accepted ++ accepts b.state e, b.answered ++ answers b.state e s⟩

variable {next accepts answers} {init : σ} {ok : σ → ε → Prop} {P : σ → Prop} {waits : σ → Nat → Nat}
  {number : σ → Nat}

theorem reaches_state {b : Book σ}
    (h : Machine.Reaches (Book.start init) (step next accepts answers) (fun b e => ok b.state e) b) :
    Machine.Reaches init next ok b.state := by
  induction h with
  | init => exact .init
  | step e _ hok hnext ih =>
    obtain ⟨s, hs, rfl⟩ := Option.map_eq_some_iff.mp hnext
    exact ih.step e hok hs

section

variable (hinit : P init) (hP : ∀ s e s', P s → ok s e → next s e = some s' → P s')
include hinit hP

theorem balanced (hidle : ∀ n, waits init n = 0) (hstep : ∀ s e s', P s → ok s e → next s e = some s' → ∀ n,
      (answers s e s').count n + waits s' n = waits s n + (accepts s e).count n) {b : Book σ}
    (h : Machine.Reaches (Book.start init) (step next accepts answers) (fun b e => ok b.state e) b) (n : Nat) :
    b.answered.count n + waits b.state n = b.accepted.count n := by
  have hboth : P b.state ∧ ∀ n, b.answered.count n + waits b.state n = b.accepted.count n := by
    refine h.invariant (P := fun b => P b.state ∧ ∀ n, b.answered.count n + waits b.state n = b.accepted.count n)
      ⟨hinit, fun n => ?_⟩ ?_
    · rw [Book.start, hidle, List.count_nil]
    · rintro b e b' ⟨hb, hbook⟩ hok hnext
      obtain ⟨s, hs, rfl⟩ := Option.map_eq_some_iff.mp hnext
      refine ⟨hP _ _ _ hb hok hs, fun n => ?_⟩
      calc (b.answered ++ answers b.state e s).count n + waits s n
          = b.answered.count n + ((answers b.state e s).count n + waits s n) := by
            rw [List.count_append, Nat.add_assoc]
        _ = b.answered.count n + (waits b.state n + (accepts b.state e).count n) := by
            rw [hstep _ _ _ hb hok hs]
        _ = b.accepted.count n + (accepts b.state e).count n := by rw [← Nat.add_assoc, hbook]
        _ = (b.accepted ++ accepts b.state e).count n := (List.count_append ..).symm
  exact hboth.2 n

theorem accepted_nodup (hstep : ∀ s e s', P s → next s e = some s' → number s ≤ number s' ∧ (accepts s e).Nodup ∧
      ∀ n ∈ accepts s e, number s ≤ n ∧ n < number s') {b : Book σ}
    (h : Machine.Reaches (Book.start init) (step next accepts answers) (fun b e => ok b.state e) b) :
    b.accepted.Nodup ∧ ∀ n ∈ b.accepted, n < number b.state := by
  have hboth : P b.state ∧ b.accepted.Nodup ∧ ∀ n ∈ b.accepted, n < number b.state := by
    refine h.invariant (P := fun b => P b.state ∧ b.accepted.Nodup ∧ ∀ n ∈ b.accepted, n < number b.state)
      ⟨hinit, List.nodup_nil, fun n hn => absurd hn List.not_mem_nil⟩ ?_
    rintro b e b' ⟨hb, hnodup, hused⟩ hok hnext
    obtain ⟨s, hs, rfl⟩ := Option.map_eq_some_iff.mp hnext
    obtain ⟨hmono, hnew, hfresh⟩ := hstep _ _ _ hb hs
    refine ⟨hP _ _ _ hb hok hs, List.nodup_append.mpr ⟨hnodup, hnew, ?_⟩, fun n hn => ?_⟩
    · rintro n hn m hm rfl
      have hlt := hused n hn
      have hge := (hfresh n hm).1
      omega
    · rcases List.mem_append.mp hn with hn | hn
      · exact Nat.lt_of_lt_of_le (hused n hn) hmono
      · exact (hfresh n hn).2
  exact hboth.2

theorem answered_once (hidle : ∀ n, waits init n = 0) (hstep : ∀ s e s', P s → ok s e → next s e = some s' → ∀ n,
      (answers s e s').count n + waits s' n = waits s n + (accepts s e).count n)
    (hnumber : ∀ s e s', P s → next s e = some s' → number s ≤ number s' ∧ (accepts s e).Nodup ∧
      ∀ n ∈ accepts s e, number s ≤ n ∧ n < number s') {b : Book σ}
    (h : Machine.Reaches (Book.start init) (step next accepts answers) (fun b e => ok b.state e) b) (n : Nat) :
    b.answered.count n + waits b.state n = if n ∈ b.accepted then 1 else 0 := by
  rw [balanced hinit hP hidle hstep h n]
  exact (accepted_nodup hinit hP hnumber h).1.count

end

end Books

end Ledger
