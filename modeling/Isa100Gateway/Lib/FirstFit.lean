import Mathlib.Data.List.Basic

/-!
# The first offer that fits

A search judges the offers of a list in their order. An offer is skipped, or it is taken and ends the search, or it ends the search with nothing; a judgement that does not come to an end leaves the search without a result.
-/

namespace FirstFit

inductive Verdict
  | skip
  | stop
  | take
  deriving DecidableEq

variable {α : Type*} (judge : α → Option Verdict)

def firstFit : List α → Option (Option α)
  | [] => some none
  | a :: offers =>
    match judge a with
    | none => none
    | some .skip => firstFit offers
    | some .stop => some none
    | some .take => some (some a)

inductive Comes : List α → α → Prop
  | here (a : α) (offers : List α) : Comes (a :: offers) a
  | later {a b : α} {offers : List α} (hskip : judge b = some .skip) (h : Comes offers a) : Comes (b :: offers) a

variable {judge}

variable {offers : List α} {b : α}

theorem comes_cons {a b : α} : Comes judge (b :: offers) a ↔ a = b ∨ judge b = some .skip ∧ Comes judge offers a := by
  constructor
  · rintro (_ | ⟨hskip, h⟩)
    · exact .inl rfl
    · exact .inr ⟨hskip, h⟩
  · rintro (rfl | ⟨hskip, h⟩)
    · exact .here a offers
    · exact .later hskip h

theorem comes_iff {a : α} : Comes judge offers a ↔
    ∃ before after, offers = before ++ a :: after ∧ ∀ b ∈ before, judge b = some .skip := by
  constructor
  · intro h
    induction h with
    | here a offers => exact ⟨[], offers, rfl, fun b hb => nomatch hb⟩
    | later hskip _ ih =>
      obtain ⟨before, after, rfl, hbefore⟩ := ih
      exact ⟨_ :: before, after, rfl, List.forall_mem_cons.mpr ⟨hskip, hbefore⟩⟩
  · rintro ⟨before, after, rfl, hbefore⟩
    induction before with
    | nil => exact .here a after
    | cons b before ih =>
      exact .later (hbefore b List.mem_cons_self) (ih fun c hc => hbefore c (List.mem_cons_of_mem b hc))

theorem firstFit_cons_skip (h : judge b = some .skip) : firstFit judge (b :: offers) = firstFit judge offers := by
  rw [firstFit, h]

theorem firstFit_cons_take (h : judge b = some .take) : firstFit judge (b :: offers) = some (some b) := by
  rw [firstFit, h]

theorem firstFit_isSome : (firstFit judge offers).isSome ↔ ∀ a, Comes judge offers a → (judge a).isSome := by
  induction offers with
  | nil => exact Iff.intro (fun _ a h => by cases h) fun _ => rfl
  | cons b offers ih =>
    by_cases hskip : judge b = some .skip
    · rw [firstFit_cons_skip hskip, ih]
      constructor
      · intro h a ha
        rcases comes_cons.mp ha with rfl | ⟨-, hlater⟩
        · rw [hskip]
          rfl
        · exact h a hlater
      · exact fun h a ha => h a (.later hskip ha)
    · -- the search ends at `b`
      have hends : (firstFit judge (b :: offers)).isSome ↔ (judge b).isSome := by
        unfold firstFit
        rcases hjudge : judge b with _ | verdict
        · rfl
        · cases verdict with
          | skip => exact absurd hjudge hskip
          | stop => rfl
          | take => rfl
      rw [hends]
      constructor
      · intro hb a ha
        rcases comes_cons.mp ha with rfl | hlater
        · exact hb
        · exact absurd hlater.1 hskip
      · exact fun h => h b (.here b offers)

theorem firstFit_eq_some {a : α} :
    firstFit judge offers = some (some a) ↔ Comes judge offers a ∧ judge a = some .take := by
  induction offers with
  | nil =>
    constructor
    · intro h
      cases Option.some.inj h
    · rintro ⟨h, -⟩
      cases h
  | cons b offers ih =>
    rw [comes_cons]
    by_cases hskip : judge b = some .skip
    · rw [firstFit_cons_skip hskip, ih]
      constructor
      · exact fun h => ⟨.inr ⟨hskip, h.1⟩, h.2⟩
      · rintro ⟨rfl | h, htake⟩
        · rw [hskip] at htake
          cases htake
        · exact ⟨h.2, htake⟩
    · have hends : firstFit judge (b :: offers) = some (some a) ↔ a = b ∧ judge b = some .take := by
        unfold firstFit
        rcases hjudge : judge b with _ | verdict
        · simp
        · cases verdict with
          | skip => exact absurd hjudge hskip
          | stop => simp
          | take => simpa using eq_comm
      rw [hends]
      constructor
      · rintro ⟨rfl, htake⟩
        exact ⟨.inl rfl, htake⟩
      · rintro ⟨rfl | h, htake⟩
        · exact ⟨rfl, htake⟩
        · exact absurd h.1 hskip

theorem firstFit_append_of_skip {front : List α} (hfront : ∀ a ∈ front, judge a = some .skip) :
    firstFit judge (front ++ offers) = firstFit judge offers := by
  induction front with
  | nil => rfl
  | cons b front ih =>
    rw [List.cons_append, firstFit_cons_skip (hfront b List.mem_cons_self)]
    exact ih fun a ha => hfront a (List.mem_cons_of_mem b ha)

theorem firstFit_append_of_take {front : List α} {a : α} (hfront : firstFit judge front = some (some a)) :
    firstFit judge (front ++ offers) = some (some a) := by
  rw [firstFit_eq_some] at hfront ⊢
  refine ⟨?_, hfront.2⟩
  obtain ⟨hcomes, -⟩ := hfront
  induction hcomes with
  | here a rest => exact .here a (rest ++ offers)
  | later hskip _ ih => exact .later hskip ih

theorem skips_or_takes (hjudge : ∀ a ∈ offers, judge a = some .skip ∨ judge a = some .take) :
    (∀ a ∈ offers, judge a = some .skip) ∨ ∃ a ∈ offers, firstFit judge offers = some (some a) := by
  induction offers with
  | nil => exact .inl fun a ha => nomatch ha
  | cons b offers ih =>
    rcases hjudge b List.mem_cons_self with hskip | htake
    · rw [firstFit_cons_skip hskip]
      rcases ih fun a ha => hjudge a (List.mem_cons_of_mem b ha) with hall | ⟨a, ha, hfirst⟩
      · exact .inl (List.forall_mem_cons.mpr ⟨hskip, hall⟩)
      · exact .inr ⟨a, List.mem_cons_of_mem b ha, hfirst⟩
    · exact .inr ⟨b, List.mem_cons_self, firstFit_cons_take htake⟩

inductive FirstOpen (Refused : α → Prop) : List α → α → Prop
  | here {a : α} {offers : List α} (hopen : ¬Refused a) : FirstOpen Refused (a :: offers) a
  | later {a b : α} {offers : List α} (hrefused : Refused b) (h : FirstOpen Refused offers a) :
      FirstOpen Refused (b :: offers) a

variable {Refused Good : α → Prop}

theorem forall_firstOpen_nil : ∀ a, FirstOpen Refused [] a → Good a := by
  intro a h
  cases h

theorem forall_firstOpen_cons_of_refused (hb : Refused b) :
    (∀ a, FirstOpen Refused (b :: offers) a → Good a) ↔ ∀ a, FirstOpen Refused offers a → Good a := by
  constructor
  · exact fun h a ha => h a (.later hb ha)
  · intro h a ha
    cases ha with
    | here hopen => exact absurd hb hopen
    | later _ hlater => exact h a hlater

theorem forall_firstOpen_cons_of_open (hb : ¬Refused b) :
    (∀ a, FirstOpen Refused (b :: offers) a → Good a) ↔ Good b := by
  constructor
  · exact fun h => h b (.here hb)
  · intro h a ha
    cases ha with
    | here => exact h
    | later hrefused => exact absurd hrefused hb

theorem forall_firstOpen_append_of_refused {front offers : List α} (hfront : ∀ b ∈ front, Refused b) :
    (∀ a, FirstOpen Refused (front ++ offers) a → Good a) ↔ ∀ a, FirstOpen Refused offers a → Good a := by
  induction front with
  | nil => rfl
  | cons b front ih =>
    rw [List.cons_append, forall_firstOpen_cons_of_refused (hfront b List.mem_cons_self),
      ih fun c hc => hfront c (List.mem_cons_of_mem _ hc)]

end FirstFit
