import Isa100Gateway.Lib.Ring
import Mathlib.Data.Int.Basic
import Mathlib.Algebra.Group.Nat.Defs

/-!
# The duplicate history of `tlde.cpp`

`TLDE_Duplicate_Init` and `TLDE_IsDuplicate`. `none` is undefined behaviour: an access outside the array, a loop that does not end, or an array of negative size. A signed sum that does not fit an `int` wraps.
-/

namespace Isa100Gateway

open List Ring

def duplicateKeySize : Nat := 26

def toInt32 (x : Int) : Int := x.bmod (2 ^ 32)

structure DuplicateHistEntry where
  time : Int
  key : List UInt8

def DuplicateHistEntry.blank : DuplicateHistEntry where
  time := 0
  key := replicate duplicateKeySize 0

structure DuplicateHist where
  array : Option (List DuplicateHistEntry)
  timeWindow : Int
  size : Nat
  idx : Nat

def DuplicateHist.empty : DuplicateHist where
  array := none
  timeWindow := 0
  size := 0
  idx := 0

def duplicateInit (size seconds : Int) (h : DuplicateHist) : Option DuplicateHist :=
  if size < 0 then none
  else some
    { h with
      array := some (replicate size.toNat .blank)
      timeWindow := seconds
      size := size.toNat }

def duplicateScan (array : List DuplicateHistEntry) (size idx : Nat) (key : List UInt8)
    (crtTime : Int) : Nat → Int → Option Bool
  | 0, _ => none
  | fuel + 1, uIdx =>
    if uIdx = idx then some false
    else if uIdx < 0 then duplicateScan array size idx key crtTime fuel (size - 1)
    else
      match array[uIdx.toNat]? with
      | none => none
      | some e =>
        if e.time < crtTime then some false
        else if e.key = key then some true
        else duplicateScan array size idx key crtTime fuel (uIdx - 1)

def isDuplicate (key : List UInt8) (crtTime : Int) (h : DuplicateHist) : Option (Bool × DuplicateHist) :=
  match h.array with
  | none => some (false, h)
  | some array =>
    match duplicateScan array h.size h.idx key crtTime (h.size + 2) (h.idx - 1) with
    | none => none
    | some true => some (true, h)
    | some false =>
      if h.idx < array.length then
        some (false,
          { h with
            array := some (array.set h.idx ⟨toInt32 (crtTime + h.timeWindow), key⟩)
            idx := advance h.size h.idx })
      else none

def Expired (crtTime : Int) (e : DuplicateHistEntry) : Prop := e.time < crtTime

def Carries (key : List UInt8) (e : DuplicateHistEntry) : Prop := e.key = key

/-- The scan ends, and it returns 1 exactly if it meets the key before an expired entry. -/
def Searches (key : List UInt8) (crtTime : Int) (history : List DuplicateHistEntry) (result : Option Bool) : Prop :=
  ∃ b, result = some b ∧ (b = true ↔ Hits (Expired crtTime) (Carries key) history)

variable {array left right : List DuplicateHistEntry} {e : DuplicateHistEntry} {size idx : Nat}
  {key : List UInt8} {crtTime : Int}

theorem searches_nil : Searches key crtTime [] (some false) := by
  refine ⟨false, rfl, ?_⟩
  simpa using not_hits_nil

theorem duplicateScan_visit {fuel : Nat} {uIdx : Int} {history : List DuplicateHistEntry}
    (hidx : uIdx ≠ idx) (hpos : 0 ≤ uIdx) (hentry : array[uIdx.toNat]? = some e) (hrest : Searches key crtTime history
      (duplicateScan array size idx key crtTime fuel (uIdx - 1))) : Searches key crtTime (e :: history)
      (duplicateScan array size idx key crtTime (fuel + 1) uIdx) := by
  have hneg : ¬uIdx < 0 := by omega
  by_cases hexpired : e.time < crtTime
  · refine ⟨false, by simp [duplicateScan, hidx, hneg, hentry, hexpired], ?_⟩
    have hmiss : ¬Hits (Expired crtTime) (Carries key) (e :: history) :=
      not_hits_of_stop hexpired
    simpa using hmiss
  · by_cases hkey : e.key = key
    · refine ⟨true, by simp [duplicateScan, hidx, hneg, hentry, hexpired, hkey], ?_⟩
      have hhits : Hits (Expired crtTime) (Carries key) (e :: history) :=
        hits_cons_of_hit hexpired hkey
      simpa using hhits
    · obtain ⟨b, hb, hiff⟩ := hrest
      refine ⟨b, by simp [duplicateScan, hidx, hneg, hentry, hexpired, hkey, hb], ?_⟩
      have hcons : Hits (Expired crtTime) (Carries key) (e :: history) ↔
          Hits (Expired crtTime) (Carries key) history := hits_cons_iff hexpired hkey
      rw [hiff, hcons]

theorem reverse_take_succ {α : Type} {as : List α} {m : Nat} {a : α} (h : as[m]? = some a) :
    (as.take (m + 1)).reverse = a :: (as.take m).reverse := by
  simp [take_add_one, h]

theorem duplicateScan_above (left right : List DuplicateHistEntry) (e : DuplicateHistEntry)
    (size : Nat) (key : List UInt8) (crtTime : Int) : ∀ m fuel : Nat, m ≤ right.length → m < fuel →
      Searches key crtTime (right.take m).reverse
        (duplicateScan (left ++ e :: right) size left.length key crtTime fuel
          (left.length + m)) := by
  intro m
  induction m with
  | zero =>
    intro fuel _ hfuel
    cases fuel with
    | zero => omega
    | succ fuel => simpa [duplicateScan] using searches_nil
  | succ m ih =>
    intro fuel hm hfuel
    cases fuel with
    | zero => omega
    | succ fuel =>
      obtain ⟨entry, hentry⟩ : ∃ entry, right[m]? = some entry :=
        ⟨right[m], getElem?_eq_getElem hm⟩
      have hrest := ih fuel (by omega) (by omega)
      rw [reverse_take_succ hentry]
      apply duplicateScan_visit
      · omega
      · omega
      · have hindex : ((left.length : Int) + (m + 1 : Nat)).toNat = left.length + (m + 1) := by omega
        have hoffset : left.length + (m + 1) - left.length = m + 1 := by omega
        rw [hindex, getElem?_append_right (by omega), hoffset, getElem?_cons_succ]
        exact hentry
      · have hprev : (left.length : Int) + (m + 1 : Nat) - 1 = left.length + m := by omega
        rw [hprev]
        exact hrest

theorem duplicateScan_below (key : List UInt8) (crtTime : Int) (hsize : size = (left ++ e :: right).length) :
    ∀ m fuel : Nat, m ≤ left.length → m + right.length + 1 < fuel →
      Searches key crtTime ((left.take m).reverse ++ right.reverse)
        (duplicateScan (left ++ e :: right) size left.length key crtTime fuel (m - 1)) := by
  intro m
  induction m with
  | zero =>
    intro fuel _ hfuel
    cases fuel with
    | zero => omega
    | succ fuel =>
      -- below index 0 the loop goes on at the last slot
      have hwrap : duplicateScan (left ++ e :: right) size left.length key crtTime (fuel + 1) (-1) =
          duplicateScan (left ++ e :: right) size left.length key crtTime fuel (size - 1) := by
        have hidx : ¬(-1 : Int) = left.length := by omega
        simp [duplicateScan, hidx]
      have hlast : (size : Int) - 1 = left.length + right.length := by
        simp only [hsize, length_append, length_cons]
        omega
      have habove := duplicateScan_above left right e size key crtTime right.length fuel
        (Nat.le_refl _) (by omega)
      rw [take_length] at habove
      simpa [hwrap, hlast] using habove
  | succ m ih =>
    intro fuel hm hfuel
    cases fuel with
    | zero => omega
    | succ fuel =>
      obtain ⟨entry, hentry⟩ : ∃ entry, left[m]? = some entry :=
        ⟨left[m], getElem?_eq_getElem hm⟩
      have hrest := ih fuel (by omega) (by omega)
      rw [reverse_take_succ hentry, cons_append]
      apply duplicateScan_visit
      · omega
      · omega
      · have hindex : (((m + 1 : Nat) : Int) - 1).toNat = m := by omega
        rw [hindex, getElem?_append_left hm]
        exact hentry
      · have hprev : ((m + 1 : Nat) : Int) - 1 - 1 = m - 1 := by omega
        rw [hprev]
        exact hrest

theorem duplicateScan_searches (key : List UInt8) (crtTime : Int) (hsize : size = array.length)
    (hidx : idx < array.length) : Searches key crtTime (recent array idx).dropLast
      (duplicateScan array size idx key crtTime (size + 2) (idx - 1)) := by
  obtain ⟨left, e, right, rfl, rfl⟩ := exists_split hidx
  have hfuel : left.length + right.length + 1 < size + 2 := by
    simp only [hsize, length_append, length_cons]
    omega
  have hbelow := duplicateScan_below key crtTime hsize left.length (size + 2) (Nat.le_refl _) hfuel
  rw [take_length] at hbelow
  rw [dropLast_recent]
  exact hbelow

theorem isDuplicate_cases {h : DuplicateHist} (key : List UInt8) (crtTime : Int)
    (harray : h.array = some array) (hsize : h.size = array.length) (hidx : h.idx < array.length) :
    (Hits (Expired crtTime) (Carries key) (recent array h.idx).dropLast ∧
      isDuplicate key crtTime h = some (true, h)) ∨
    (¬Hits (Expired crtTime) (Carries key) (recent array h.idx).dropLast ∧ isDuplicate key crtTime h = some (false,
        { h with
          array := some (array.set h.idx ⟨toInt32 (crtTime + h.timeWindow), key⟩)
          idx := advance h.size h.idx })) := by
  obtain ⟨b, hb, hiff⟩ := duplicateScan_searches key crtTime hsize hidx
  cases b with
  | true => exact Or.inl ⟨hiff.mp rfl, by simp [isDuplicate, harray, hb]⟩
  | false =>
    refine Or.inr ⟨?_, by simp [isDuplicate, harray, hb, hidx]⟩
    intro hhits
    exact Bool.noConfusion (hiff.mpr hhits)

end Isa100Gateway
