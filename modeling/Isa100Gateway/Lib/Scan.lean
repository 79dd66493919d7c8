import Mathlib.Data.List.Basic
import Mathlib.Tactic.Ring

/-!
# Pointer scans over a byte memory

A `Scan` is a program that walks one read pointer over a memory of bytes. It returns a value, the pointer it stopped at, and every offset it dereferenced. Two families of rules are proved for it: `Parses` says what a scan returns over a memory that holds given bytes, and `Reads` bounds the offsets a scan dereferences, whatever the memory holds.
-/

namespace ByteScan

/-- The read pointer of a scan, as an offset from the start of the buffer, and the offsets dereferenced so far (newest first). -/
structure Cursor where
  pos : Nat
  reads : List Nat

def Cursor.start : Cursor := { pos := 0, reads := [] }

def Scan (α : Type) : Type := (Nat → UInt8) → Cursor → α × Cursor

namespace Scan

variable {α β : Type}

instance : Monad Scan where
  pure a := fun _ cur => (a, cur)
  bind m k := fun mem cur => k (m mem cur).1 mem (m mem cur).2

/-- `*p`, or `p[k]`: dereference without moving the pointer. -/
def peekAt (k : Nat) : Scan UInt8 := fun mem cur =>
  (mem (cur.pos + k), { cur with reads := (cur.pos + k) :: cur.reads })

def next : Scan UInt8 := fun mem cur =>
  (mem cur.pos, { pos := cur.pos + 1, reads := cur.pos :: cur.reads })

def skip (k : Nat) : Scan Unit := fun _ cur => ((), { cur with pos := cur.pos + k })

def seek (k : Nat) : Scan Unit := fun _ cur => ((), { cur with pos := k })

def here : Scan Nat := fun _ cur => (cur.pos, cur)

theorem pure_apply (a : α) (mem : Nat → UInt8) (cur : Cursor) : (pure a : Scan α) mem cur = (a, cur) := rfl

theorem bind_apply (m : Scan α) (k : α → Scan β) (mem : Nat → UInt8) (cur : Cursor) :
    (m >>= k) mem cur = k (m mem cur).1 mem (m mem cur).2 := rfl

end Scan

open Scan

/-- The memory holds `bytes` from offset `p` on. -/
def Holds (mem : Nat → UInt8) (p : Nat) (bytes : List UInt8) : Prop :=
  ∀ i (h : i < bytes.length), mem (p + i) = bytes[i]

variable {mem : Nat → UInt8}

theorem Holds.head {p : Nat} {b : UInt8} {bs : List UInt8} (h : Holds mem p (b :: bs)) : mem p = b :=
  h 0 (Nat.succ_pos _)

theorem Holds.left {p : Nat} {xs ys : List UInt8} (h : Holds mem p (xs ++ ys)) : Holds mem p xs := by
  intro i hi
  have := h i (by simp; omega)
  rwa [List.getElem_append_left hi] at this

theorem Holds.right {p : Nat} {xs ys : List UInt8} (h : Holds mem p (xs ++ ys)) : Holds mem (p + xs.length) ys := by
  intro i hi
  have := h (xs.length + i) (by simp; omega)
  rw [List.getElem_append_right (by omega)] at this
  simpa [Nat.add_assoc] using this

/-- A memory that starts with `bytes` and is zero after them. -/
def ofBytes (bytes : List UInt8) : Nat → UInt8 := fun i => bytes.getD i 0

theorem holds_ofBytes (bytes : List UInt8) : Holds (ofBytes bytes) 0 bytes := by
  intro i hi
  simp [ofBytes, hi]

/-- Started at `p` over any memory that holds `bytes` there, `m` returns `a` and stops right after `bytes`. -/
def Parses {α : Type} (mem : Nat → UInt8) (p : Nat) (m : Scan α) (bytes : List UInt8) (a : α) : Prop :=
  Holds mem p bytes → ∀ reads,
    (m mem ⟨p, reads⟩).1 = a ∧ (m mem ⟨p, reads⟩).2.pos = p + bytes.length

section Parses

variable {α β : Type} {mem : Nat → UInt8} {p : Nat}

theorem parses_pure (a : α) : Parses mem p (pure a) [] a := by
  intro _ _
  exact ⟨rfl, rfl⟩

variable {b : β}

theorem parses_bind {m : Scan α} {k : α → Scan β} {xs ys : List UInt8} {a : α}
    (hm : Parses mem p m xs a) (hk : Parses mem (p + xs.length) (k a) ys b) :
    Parses mem p (m >>= k) (xs ++ ys) b := by
  intro hholds reads
  obtain ⟨hval, hpos⟩ := hm hholds.left reads
  have hcur : (m mem ⟨p, reads⟩).2 = ⟨p + xs.length, (m mem ⟨p, reads⟩).2.reads⟩ := by
    rw [← hpos]
  obtain ⟨hval', hpos'⟩ := hk hholds.right (m mem ⟨p, reads⟩).2.reads
  rw [bind_apply, hval, hcur]
  refine ⟨hval', ?_⟩
  rw [hpos', List.length_append]
  ring

theorem parses_next (b : UInt8) : Parses mem p next [b] b := by
  intro hholds _
  exact ⟨hholds.head, rfl⟩

theorem parses_here : Parses mem p here [] p := by
  intro _ _
  exact ⟨rfl, rfl⟩

theorem parses_skip (bytes : List UInt8) (k : Nat) (hk : bytes.length = k) : Parses mem p (skip k) bytes () := by
  intro _ _
  exact ⟨rfl, by rw [hk]; rfl⟩

theorem parses_peekAt_bind {k : Nat} {f : UInt8 → Scan β} {bytes : List UInt8}
    (hk : k < bytes.length) (hf : Parses mem p (f bytes[k]) bytes b) : Parses mem p (peekAt k >>= f) bytes b := by
  intro hholds reads
  have hbyte : mem (p + k) = bytes[k] := hholds k hk
  have := hf hholds ((p + k) :: reads)
  rw [bind_apply]
  simpa [peekAt, hbyte] using this

theorem parses_bind_nil {m : Scan α} {k : α → Scan β} {ys : List UInt8} {a : α}
    (hm : Parses mem p m [] a) (hk : Parses mem p (k a) ys b) : Parses mem p (m >>= k) ys b :=
  parses_bind hm hk

theorem parses_next_bind {k : UInt8 → Scan β} {x : UInt8} {ys : List UInt8}
    (hk : Parses mem (p + 1) (k x) ys b) : Parses mem p (next >>= k) (x :: ys) b :=
  parses_bind (parses_next x) hk

end Parses

/-- Started at `p`, over any memory, `m` never moves back, every offset it dereferences lies before the pointer it stops at, and its result and final pointer satisfy `Q`. -/
def Reads {α : Type} (mem : Nat → UInt8) (p : Nat) (m : Scan α) (Q : α → Nat → Prop) : Prop :=
  ∀ reads, Q (m mem ⟨p, reads⟩).1 (m mem ⟨p, reads⟩).2.pos ∧ p ≤ (m mem ⟨p, reads⟩).2.pos ∧
    ∀ i ∈ (m mem ⟨p, reads⟩).2.reads, i ∈ reads ∨ i < (m mem ⟨p, reads⟩).2.pos

section Reads

variable {α β : Type} {mem : Nat → UInt8} {p : Nat}

theorem reads_pure {a : α} {Q : α → Nat → Prop} (h : Q a p) : Reads mem p (pure a) Q := by
  intro reads
  exact ⟨h, le_rfl, fun i hi => Or.inl hi⟩

variable {Q : β → Nat → Prop}

theorem reads_bind {m : Scan α} {k : α → Scan β} {P : α → Nat → Prop}
    (hm : Reads mem p m P) (hk : ∀ a q, P a q → p ≤ q → Reads mem q (k a) Q) : Reads mem p (m >>= k) Q := by
  intro reads
  obtain ⟨hP, hle, hreads⟩ := hm reads
  obtain ⟨hQ, hle', hreads'⟩ := hk _ _ hP hle (m mem ⟨p, reads⟩).2.reads
  refine ⟨hQ, le_trans hle hle', ?_⟩
  intro i hi
  rcases hreads' i hi with hold | hnew
  · rcases hreads i hold with h | h
    · exact Or.inl h
    · exact Or.inr (lt_of_lt_of_le h hle')
  · exact Or.inr hnew

theorem reads_next {Q : UInt8 → Nat → Prop} (h : Q (mem p) (p + 1)) : Reads mem p next Q := by
  intro reads
  refine ⟨h, Nat.le_succ p, ?_⟩
  intro i hi
  rcases List.mem_cons.mp hi with rfl | hi
  · exact Or.inr (Nat.lt_succ_self _)
  · exact Or.inl hi

theorem reads_here_bind {k : Nat → Scan β} (hk : Reads mem p (k p) Q) : Reads mem p (here >>= k) Q :=
  hk

theorem reads_skip_bind {n : Nat} {k : Unit → Scan β}
    (hk : Reads mem (p + n) (k ()) Q) : Reads mem p (skip n >>= k) Q := by
  intro reads
  obtain ⟨hQ, hle, hreads⟩ := hk reads
  exact ⟨hQ, le_trans (Nat.le_add_right p n) hle, hreads⟩

theorem reads_seek_bind {q : Nat} {k : Unit → Scan β} (hq : p ≤ q)
    (hk : Reads mem q (k ()) Q) : Reads mem p (seek q >>= k) Q := by
  intro reads
  obtain ⟨hQ, hle, hreads⟩ := hk reads
  exact ⟨hQ, le_trans hq hle, hreads⟩

theorem reads_peekAt_bind {k : Nat} {f : UInt8 → Scan β}
    (hf : Reads mem p (f (mem (p + k))) (fun b q => p + k < q ∧ Q b q)) : Reads mem p (peekAt k >>= f) Q := by
  intro reads
  obtain ⟨⟨hlt, hQ⟩, hle, hreads⟩ := hf ((p + k) :: reads)
  refine ⟨hQ, hle, ?_⟩
  intro i hi
  rcases hreads i hi with hold | hnew
  · rcases List.mem_cons.mp hold with rfl | hold
    · exact Or.inr hlt
    · exact Or.inl hold
  · exact Or.inr hnew

theorem reads_next_bind {k : UInt8 → Scan β} (hk : Reads mem (p + 1) (k (mem p)) Q) : Reads mem p (next >>= k) Q := by
  refine reads_bind (P := fun a q => a = mem p ∧ q = p + 1) (reads_next ⟨rfl, rfl⟩) ?_
  rintro a q ⟨rfl, rfl⟩ _
  exact hk

theorem Reads.mono {m : Scan α} {P Q : α → Nat → Prop} (h : Reads mem p m P)
    (hPQ : ∀ a q, p ≤ q → P a q → Q a q) : Reads mem p m Q := by
  intro reads
  obtain ⟨hP, hle, hreads⟩ := h reads
  exact ⟨hPQ _ _ hle hP, hle, hreads⟩

end Reads

end ByteScan
