import Isa100Gateway.Lib.Buffer
import Mathlib.Data.List.Forall2

/-!
# Packed records

Records of different lengths that lie one after another at the start of a buffer, each with its own length in its header, and the loops that C code runs over them. `Holds` says that a list of records tiles the used part of the buffer; the rules say what a walk, a search and a removal do to that list.
-/

namespace Records

open List

variable {β η ρ σ : Type*}

/-- What the code knows of a record: how to read the header of the record that a block of memory starts with, and the length that a header announces. -/
structure Layout (β η : Type*) where
  parse : List β → Option η
  length : η → Nat

structure Block (β : Type*) where
  mem : List β
  used : Nat

def Block.removeAt (b : Block β) (pos len : Nat) : Option (Block β) :=
  if pos + len ≤ b.used then
    (Buffer.read b.mem (pos + len) (b.used - len - pos)).bind fun moved =>
      (Buffer.write b.mem pos moved).map fun mem => { mem := mem, used := b.used - len }
  else none

/-- `while (p < end) { if (test) break; p += len; }`: where the loop stopped and the header it found there. There is no value when the walk leaves the buffer or takes more than `fuel` turns. -/
def find (lay : Layout β η) (test : η → Bool) (b : Block β) : Nat → Nat → Option (Option (Nat × η))
  | 0, _ => none
  | fuel + 1, pos =>
    if pos < b.used then
      (lay.parse (b.mem.drop pos)).bind fun h =>
        if test h then some (some (pos, h)) else find lay test b fuel (pos + lay.length h)
    else some none

/-- `while (p < end) { visit; p += len; }`, where a visit may change a shared state and the memory. -/
def walk (lay : Layout β η) (visit : σ → Nat → η → List β → Option (σ × List β)) :
    Nat → Nat → σ → Block β → Option (σ × Block β)
  | 0, _, _, _ => none
  | fuel + 1, pos, s, b =>
    if pos < b.used then
      (lay.parse (b.mem.drop pos)).bind fun h =>
        (visit s pos h b.mem).bind fun next =>
          walk lay visit fuel (pos + lay.length h) next.1 { b with mem := next.2 }
    else some (s, b)

/-! ## Tiled blocks -/

/-- A layout with the records it is meant for: their bytes start with the header, and are as long as the header says. -/
structure Format (β η ρ : Type*) extends Layout β η where
  header : ρ → η
  bytes : ρ → List β
  parse_bytes : ∀ r rest, parse (bytes r ++ rest) = some (header r)
  length_bytes : ∀ r, (bytes r).length = length (header r)
  length_pos : ∀ r, 0 < length (header r)

section Tiling

variable (fmt : Format β η ρ)

def Format.pack (rs : List ρ) : List β := rs.flatMap fmt.bytes

@[simp] theorem Format.pack_nil : fmt.pack [] = [] := rfl

@[simp] theorem Format.pack_cons (r : ρ) (rs : List ρ) : fmt.pack (r :: rs) = fmt.bytes r ++ fmt.pack rs := rfl

@[simp] theorem Format.pack_append (rs rs' : List ρ) : fmt.pack (rs ++ rs') = fmt.pack rs ++ fmt.pack rs' :=
  flatMap_append

theorem Format.length_le_pack (rs : List ρ) : rs.length ≤ (fmt.pack rs).length := by
  induction rs with
  | nil => exact Nat.le_refl 0
  | cons r rs ih =>
    have hpos := fmt.length_pos r
    rw [← fmt.length_bytes r] at hpos
    simp only [Format.pack_cons, length_append, length_cons]
    omega

/-- The records `rs` tile the used part of a block: each one begins where the one before it ends, and the last one ends at the used size, inside the buffer. -/
structure Holds (b : Block β) (rs : List ρ) : Prop where
  tiled : b.mem.take b.used = fmt.pack rs
  used_le : b.used ≤ b.mem.length

variable {fmt} {b : Block β} {rs done xs ys : List ρ} {r : ρ}

theorem Holds.used_eq (h : Holds fmt b rs) : b.used = (fmt.pack rs).length := by
  rw [← h.tiled, length_take, Nat.min_eq_left h.used_le]

theorem Holds.mem_eq (h : Holds fmt b rs) : b.mem = fmt.pack rs ++ b.mem.drop b.used := by
  rw [← h.tiled, take_append_drop]

theorem Holds.of_mem_eq (free : List β) (hmem : b.mem = fmt.pack rs ++ free)
    (hused : b.used = (fmt.pack rs).length) : Holds fmt b rs where
  tiled := by rw [hmem, hused, take_left]
  used_le := by
    rw [hmem, hused, length_append]
    exact Nat.le_add_right _ _

theorem Holds.nil (mem : List β) : Holds fmt { mem := mem, used := 0 } [] :=
  .of_mem_eq mem rfl rfl

theorem Holds.length_le_used (h : Holds fmt b rs) : rs.length ≤ b.used := by
  rw [h.used_eq]
  exact fmt.length_le_pack rs

theorem Format.header_eq_of_pack_eq {rs rs' : List ρ} (h : fmt.pack rs = fmt.pack rs') :
    rs.map fmt.header = rs'.map fmt.header := by
  have hcons (r : ρ) (rs : List ρ) : fmt.pack (r :: rs) ≠ [] := fun hnil => by
    have hlen := fmt.length_le_pack (r :: rs)
    rw [hnil] at hlen
    exact Nat.not_succ_le_zero _ hlen
  induction rs generalizing rs' with
  | nil =>
    cases rs' with
    | nil => rfl
    | cons r' rs' => exact absurd h.symm (hcons r' rs')
  | cons r rs ih =>
    cases rs' with
    | nil => exact absurd h (hcons r rs)
    | cons r' rs' =>
      rw [Format.pack_cons, Format.pack_cons] at h
      have hheader : fmt.header r = fmt.header r' := by
        have hparse := fmt.parse_bytes r (fmt.pack rs)
        rw [h, fmt.parse_bytes] at hparse
        exact (Option.some.inj hparse).symm
      have hlen : (fmt.bytes r).length = (fmt.bytes r').length := by
        rw [fmt.length_bytes, fmt.length_bytes, hheader]
      rw [map_cons, map_cons, hheader, ih (append_inj h hlen).2]

theorem Holds.header_unique (h : Holds fmt b rs) (h' : Holds fmt b xs) : rs.map fmt.header = xs.map fmt.header :=
  Format.header_eq_of_pack_eq (h.tiled.symm.trans h'.tiled)

theorem Holds.parse_at (h : Holds fmt b (done ++ r :: ys)) : (fmt.pack done).length < b.used ∧
      fmt.parse (b.mem.drop (fmt.pack done).length) = some (fmt.header r) := by
  have hpos := fmt.length_pos r
  rw [← fmt.length_bytes r] at hpos
  constructor
  · rw [h.used_eq]
    simp only [Format.pack_append, Format.pack_cons, length_append]
    omega
  · rw [h.mem_eq, Format.pack_append, Format.pack_cons, append_assoc, drop_left, append_assoc, fmt.parse_bytes]

theorem Format.length_pack_concat (done : List ρ) (r : ρ) :
    (fmt.pack done).length + fmt.length (fmt.header r) = (fmt.pack (done ++ [r])).length := by
  simp [fmt.length_bytes]

variable {test : η → Bool} {fuel : Nat}

theorem find_none (h : Holds fmt b (done ++ rs)) (htest : ∀ r ∈ rs, test (fmt.header r) = false)
    (hfuel : rs.length < fuel) : find fmt.toLayout test b fuel (fmt.pack done).length = some none := by
  induction rs generalizing done fuel with
  | nil =>
    obtain ⟨fuel, rfl⟩ := Nat.exists_eq_add_of_lt hfuel
    have hend : ¬ (fmt.pack done).length < b.used := by simp [h.used_eq]
    simp [find, hend]
  | cons r rs ih =>
    obtain ⟨fuel, rfl⟩ := Nat.exists_eq_add_of_lt hfuel
    obtain ⟨hin, hparse⟩ := h.parse_at
    have hr := htest r mem_cons_self
    have hrest : Holds fmt b ((done ++ [r]) ++ rs) := by simpa using h
    have hlen : rs.length < rs.length + 1 + fuel := by omega
    rw [length_cons, find, if_pos hin, hparse, Option.bind_some, if_neg (by simp [hr]), fmt.length_pack_concat]
    exact ih hrest (fun r hmem => htest r (mem_cons_of_mem _ hmem)) hlen

theorem find_some (h : Holds fmt b (done ++ (xs ++ r :: ys)))
    (hxs : ∀ x ∈ xs, test (fmt.header x) = false) (hr : test (fmt.header r) = true) (hfuel : xs.length < fuel) :
    find fmt.toLayout test b fuel (fmt.pack done).length =
      some (some ((fmt.pack (done ++ xs)).length, fmt.header r)) := by
  induction xs generalizing done fuel with
  | nil =>
    obtain ⟨fuel, rfl⟩ := Nat.exists_eq_add_of_lt hfuel
    obtain ⟨hin, hparse⟩ := h.parse_at
    rw [find, if_pos hin, hparse, Option.bind_some, if_pos hr, append_nil]
  | cons x xs ih =>
    obtain ⟨fuel, rfl⟩ := Nat.exists_eq_add_of_lt hfuel
    have hhere : Holds fmt b (done ++ x :: (xs ++ r :: ys)) := h
    obtain ⟨hin, hparse⟩ := hhere.parse_at
    have hx := hxs x mem_cons_self
    have hrest : Holds fmt b ((done ++ [x]) ++ (xs ++ r :: ys)) := by simpa using h
    have hlen : xs.length < xs.length + 1 + fuel := by omega
    rw [length_cons, find, if_pos hin, hparse, Option.bind_some, if_neg (by simp [hx]),
      fmt.length_pack_concat, ih hrest (fun y hmem => hxs y (mem_cons_of_mem _ hmem)) hlen,
      append_assoc, singleton_append]

theorem Holds.length_lt_fuel (h : Holds fmt b rs) (hfuel : b.used < fuel) : rs.length < fuel :=
  Nat.lt_of_le_of_lt h.length_le_used hfuel

theorem find_nothing (h : Holds fmt b rs) (htest : ∀ r ∈ rs, test (fmt.header r) = false)
    (hfuel : b.used < fuel) : find fmt.toLayout test b fuel 0 = some none := by
  have hall : Holds fmt b ([] ++ rs) := h
  exact find_none hall htest (h.length_lt_fuel hfuel)

theorem find_first (h : Holds fmt b (xs ++ r :: ys)) (hxs : ∀ x ∈ xs, test (fmt.header x) = false)
    (hr : test (fmt.header r) = true) (hfuel : b.used < fuel) :
    find fmt.toLayout test b fuel 0 = some (some ((fmt.pack xs).length, fmt.header r)) := by
  have hall : Holds fmt b ([] ++ (xs ++ r :: ys)) := h
  have hlen := h.length_lt_fuel hfuel
  rw [length_append] at hlen
  exact find_some hall hxs hr (by omega)

theorem removeAt_holds (h : Holds fmt b (xs ++ r :: ys)) :
    ∃ b', b.removeAt (fmt.pack xs).length (fmt.length (fmt.header r)) = some b' ∧
      Holds fmt b' (xs ++ ys) ∧ b'.mem.length = b.mem.length ∧
      b'.used + fmt.length (fmt.header r) = b.used := by
  have hused := h.used_eq
  have hmem := h.mem_eq
  have hlen := fmt.length_bytes r
  simp only [Format.pack_append, Format.pack_cons, length_append] at hused hmem
  generalize hfree : b.mem.drop b.used = free at hmem
  -- the moved bytes overwrite the start of what followed the removed record
  have hsplit : b.mem = fmt.pack xs ++ (fmt.bytes r ++ fmt.pack ys).take (fmt.pack ys).length ++
      ((fmt.bytes r ++ fmt.pack ys).drop (fmt.pack ys).length ++ free) := by
    rw [hmem, append_assoc (fmt.pack xs) (take _ _), ← append_assoc (take _ _),
      take_append_drop, append_assoc, append_assoc]
  generalize (fmt.bytes r ++ fmt.pack ys).drop (fmt.pack ys).length ++ free = rest at hsplit
  have hread : Buffer.read b.mem ((fmt.pack xs).length + fmt.length (fmt.header r))
      (b.used - fmt.length (fmt.header r) - (fmt.pack xs).length) = some (fmt.pack ys) := by
    rw [hmem, ← append_assoc (fmt.pack xs)]
    exact Buffer.read_append _ (by simp [hlen]) (by omega)
  have hwrite : Buffer.write b.mem (fmt.pack xs).length (fmt.pack ys) =
      some (fmt.pack xs ++ fmt.pack ys ++ rest) := by
    rw [hsplit]
    exact Buffer.write_append rfl (by simp)
  have hfits : (fmt.pack xs).length + fmt.length (fmt.header r) ≤ b.used := by omega
  refine ⟨{ mem := fmt.pack xs ++ fmt.pack ys ++ rest, used := b.used - fmt.length (fmt.header r) },
    ?_, ?_, Buffer.length_write hwrite, ?_⟩
  · rw [Block.removeAt, if_pos hfits, hread, Option.bind_some, hwrite, Option.map_some]
  · apply Holds.of_mem_eq rest
    · rw [Format.pack_append]
    · simp only [Format.pack_append, length_append]
      omega
  · simp only
    omega

variable {visit : σ → Nat → η → List β → Option (σ × List β)} {P : σ → Prop} {R : ρ → ρ → Prop}

theorem walk_holds (hvisit : ∀ s before r after, P s → ∃ s' r',
      visit s before.length (fmt.header r) (before ++ fmt.bytes r ++ after) =
        some (s', before ++ fmt.bytes r' ++ after) ∧
      P s' ∧ R r r' ∧ fmt.length (fmt.header r') = fmt.length (fmt.header r))
    {s : σ} (hs : P s) (h : Holds fmt b (done ++ rs)) (hfuel : rs.length < fuel) :
    ∃ s' b' rs', walk fmt.toLayout visit fuel (fmt.pack done).length s b = some (s', b') ∧ P s' ∧
      Holds fmt b' (done ++ rs') ∧ Forall₂ R rs rs' ∧ b'.mem.length = b.mem.length := by
  induction rs generalizing done fuel s b with
  | nil =>
    obtain ⟨fuel, rfl⟩ := Nat.exists_eq_add_of_lt hfuel
    have hend : ¬ (fmt.pack done).length < b.used := by simp [h.used_eq]
    exact ⟨s, b, [], by simp [walk, hend], hs, h, Forall₂.nil, rfl⟩
  | cons r rs ih =>
    obtain ⟨fuel, rfl⟩ := Nat.exists_eq_add_of_lt hfuel
    obtain ⟨hin, hparse⟩ := h.parse_at
    have hused := h.used_eq
    have hmem := h.mem_eq
    simp only [Format.pack_append, Format.pack_cons] at hused hmem
    generalize b.mem.drop b.used = free at hmem
    have hbytes : b.mem = fmt.pack done ++ fmt.bytes r ++ (fmt.pack rs ++ free) := by
      rw [hmem]
      simp
    obtain ⟨s₁, r₁, hv, hP, hR, hlen⟩ := hvisit s (fmt.pack done) r (fmt.pack rs ++ free) hs
    have hnext : Holds fmt
        { b with mem := fmt.pack done ++ fmt.bytes r₁ ++ (fmt.pack rs ++ free) }
        ((done ++ [r₁]) ++ rs) := by
      apply Holds.of_mem_eq free
      · simp
      · simp only [Format.pack_append, Format.pack_cons, Format.pack_nil, length_append,
          length_nil, fmt.length_bytes, hlen] at hused ⊢
        omega
    have hrest : rs.length < rs.length + 1 + fuel := by omega
    obtain ⟨s₂, b₂, rs₂, hwalk, hP₂, hholds, hall, hsize⟩ := ih hP hnext hrest
    refine ⟨s₂, b₂, r₁ :: rs₂, ?_, hP₂, ?_, hall.cons hR, ?_⟩
    · rw [length_cons, walk, if_pos hin, hparse, Option.bind_some, hbytes, hv, Option.bind_some,
        ← hwalk, ← fmt.length_pack_concat, hlen]
    · simpa using hholds
    · rw [hsize, hbytes]
      simp [fmt.length_bytes, hlen]

theorem walk_all (hvisit : ∀ s before r after, P s → ∃ s' r',
      visit s before.length (fmt.header r) (before ++ fmt.bytes r ++ after) =
        some (s', before ++ fmt.bytes r' ++ after) ∧
      P s' ∧ R r r' ∧ fmt.length (fmt.header r') = fmt.length (fmt.header r))
    {s : σ} (hs : P s) (h : Holds fmt b rs) (hfuel : b.used < fuel) :
    ∃ s' b' rs', walk fmt.toLayout visit fuel 0 s b = some (s', b') ∧ P s' ∧
      Holds fmt b' rs' ∧ Forall₂ R rs rs' ∧ b'.mem.length = b.mem.length := by
  have hall : Holds fmt b ([] ++ rs) := h
  exact walk_holds hvisit hs hall (h.length_lt_fuel hfuel)

end Tiling

end Records
