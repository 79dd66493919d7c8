import Mathlib.Data.List.Basic
import Mathlib.Data.List.Chain

/-!
# Resumed searches

A search that remembers the key of its last hit and starts again from the front each time. `Visits` lists what it finds from a key on until nothing is left to find. When the search looks for the first element of a list whose key follows the remembered one, `visits_find_iff` says when it visits the whole list once, in order.
-/

namespace Resume

open List

variable {κ ρ : Type*}

/-- From the key `k` the search finds `rs`, one after the other, and then nothing. -/
inductive Visits (next : κ → Option ρ) (key : ρ → κ) : κ → List ρ → Prop
  | stop {k : κ} : next k = none → Visits next key k []
  | step {k : κ} {r : ρ} {rs : List ρ} :
      next k = some r → Visits next key (key r) rs → Visits next key k (r :: rs)

section Visits

variable {next : κ → Option ρ} {key : ρ → κ} {k : κ} {r : ρ} {rs rs' xs ys : List ρ}

theorem Visits.unique (h : Visits next key k rs) (h' : Visits next key k rs') : rs = rs' := by
  induction h generalizing rs' with
  | stop hnone =>
    cases h' with
    | stop => rfl
    | step hsome _ => exact absurd (hnone.symm.trans hsome) (by simp)
  | step hsome _ ih =>
    cases h' with
    | stop hnone => exact absurd (hnone.symm.trans hsome) (by simp)
    | step hsome' hrest =>
      cases hsome.symm.trans hsome'
      rw [ih hrest]

theorem Visits.suffix (h : Visits next key k (xs ++ r :: ys)) : Visits next key (key r) ys := by
  induction xs generalizing k with
  | nil =>
    cases h with
    | step _ hrest => exact hrest
  | cons x xs ih =>
    cases h with
    | step _ hrest => exact ih hrest

theorem Visits.nodup (h : Visits next key k rs) : (rs.map key).Nodup := by
  induction h with
  | stop => exact nodup_nil
  | step _ hrest ih =>
    rename_i k r rs _
    refine nodup_cons.mpr ⟨?_, ih⟩
    intro hmem
    obtain ⟨r', hr', hkey⟩ := mem_map.mp hmem
    obtain ⟨xs, ys, rfl⟩ := append_of_mem hr'
    -- from the repeated key the search would go on in two ways of different length
    have hlater := hrest.suffix
    rw [hkey] at hlater
    have hlen := congrArg length (hlater.unique hrest)
    simp only [length_append, length_cons] at hlen
    omega

end Visits

section Find

variable {follows : κ → κ → Bool} {key : ρ → κ} {k : κ} {as : List ρ}

/-- The first element whose key follows `k`. -/
def findNext (follows : κ → κ → Bool) (key : ρ → κ) (as : List ρ) (k : κ) : Option ρ :=
  as.find? fun a => follows k (key a)

/-- Each key follows the one before it, and none leads back. -/
structure InOrder (follows : κ → κ → Bool) (k : κ) (keys : List κ) : Prop where
  chain : (k :: keys).IsChain fun a b => follows a b = true
  back : keys.Pairwise fun a b => follows b a = false

theorem InOrder.visits_suffix (hirrefl : ∀ k, follows k k = false) (hback : (as.map key).Pairwise
    fun a b => follows b a = false) {done todo : List ρ} (has : as = done ++ todo) {k : κ}
    (hk : ∀ a ∈ done, follows k (key a) = false)
    (hchain : (k :: todo.map key).IsChain fun a b => follows a b = true) :
    Visits (findNext follows key as) key k todo := by
  induction todo generalizing done k with
  | nil =>
    apply Visits.stop
    rw [findNext, find?_eq_none]
    intro a ha
    rw [has, append_nil] at ha
    simpa using hk a ha
  | cons r todo ih =>
    obtain ⟨hfirst, hrest⟩ := isChain_cons_cons.mp hchain
    have hnext : findNext follows key as k = some r := by
      rw [findNext, find?_eq_some_iff_append]
      exact ⟨hfirst, done, todo, has, fun a ha => by simpa using hk a ha⟩
    have hdone : ∀ a ∈ done ++ [r], follows (key r) (key a) = false := by
      intro a ha
      rcases mem_append.mp ha with ha | ha
      · rw [has, map_append, map_cons, pairwise_append] at hback
        exact hback.2.2 (key a) (mem_map_of_mem ha) (key r) mem_cons_self
      · rw [mem_singleton.mp ha]
        exact hirrefl (key r)
    exact .step hnext (ih (by rw [has, append_assoc]; rfl) hdone hrest)

theorem Visits.chain {rs : List ρ} (h : Visits (findNext follows key as) key k rs) :
    (k :: rs.map key).IsChain fun a b => follows a b = true := by
  induction h with
  | stop => exact isChain_singleton _
  | step hsome _ ih =>
    refine isChain_cons_cons.mpr ⟨?_, ih⟩
    have hfound := find?_some hsome
    exact hfound

theorem Visits.not_back {xs ys : List ρ} {a b : ρ}
    (h : Visits (findNext follows key (xs ++ a :: ys)) key k (xs ++ a :: ys)) (hb : b ∈ ys) :
    follows (key b) (key a) = false := by
  by_contra hfollows
  have hfollows : follows (key b) (key a) = true := by simpa using hfollows
  obtain ⟨ys₁, zs, rfl⟩ := append_of_mem hb
  have hsplit : xs ++ a :: (ys₁ ++ b :: zs) = (xs ++ [a]) ++ (ys₁ ++ b :: zs) := by simp
  have hnodup := h.nodup
  have hlater : Visits (findNext follows key (xs ++ a :: (ys₁ ++ b :: zs))) key (key b) zs := by
    have hall : xs ++ a :: (ys₁ ++ b :: zs) = (xs ++ a :: ys₁) ++ b :: zs := by simp
    have hvisits := h
    rw [hall] at hvisits
    rw [hall]
    exact hvisits.suffix
  have hhit : ((xs ++ [a]).find? fun x => follows (key b) (key x)).isSome := by
    rw [find?_isSome]
    exact ⟨a, by simp, hfollows⟩
  obtain ⟨c, hc⟩ := Option.isSome_iff_exists.mp hhit
  have hnext : findNext follows key (xs ++ a :: (ys₁ ++ b :: zs)) (key b) = some c := by
    rw [findNext, hsplit, find?_append, hc]
    rfl
  have hfront : key c ∈ (xs ++ [a]).map key := mem_map_of_mem (mem_of_find?_eq_some hc)
  cases hlater with
  | stop hnone => exact absurd (hnone.symm.trans hnext) (by simp)
  | step hsome _ =>
    cases hsome.symm.trans hnext
    rw [hsplit, map_append] at hnodup
    refine (nodup_append.mp hnodup).2.2 _ hfront _ ?_ rfl
    simp

theorem Visits.back (h : Visits (findNext follows key as) key k as) :
    as.Pairwise fun a b => follows (key b) (key a) = false := by
  have hsuffix (todo done : List ρ) (has : as = done ++ todo) :
      todo.Pairwise fun a b => follows (key b) (key a) = false := by
    induction todo generalizing done with
    | nil => exact Pairwise.nil
    | cons a todo ih =>
      refine pairwise_cons.mpr ⟨?_, ih (done ++ [a]) (by simp [has])⟩
      intro b hb
      subst has
      exact h.not_back hb
  exact hsuffix as [] (nil_append as).symm

theorem visits_find_iff (hirrefl : ∀ k, follows k k = false) :
    Visits (findNext follows key as) key k as ↔ InOrder follows k (as.map key) := by
  constructor
  · intro h
    exact ⟨h.chain, pairwise_map.mpr h.back⟩
  · rintro ⟨hchain, hback⟩
    exact InOrder.visits_suffix hirrefl hback (nil_append as).symm (fun a ha => nomatch ha) hchain

end Find

end Resume
