import Isa100Gateway.Lib.Bytes

/-!
# Byte streams in network order

An output stream is the list of the bytes written. A reader takes values from the front of an input stream and fails when there are not enough bytes. `Decodes` says which bytes a reader takes and what it makes of them, whatever follows; readers that decode one after the other decode the bytes one after the other. `Carries` says the same of a writer that may fail.
-/

namespace Stream

abbrev Reader := StateT (List UInt8) Option

def read8 : Reader UInt8 := fun bytes =>
  match bytes with
  | [] => none
  | b :: bytes => some (b, bytes)

def read16 : Reader UInt16 := do
  let high ← read8
  let low ← read8
  return high.toUInt16 <<< 8 ||| low.toUInt16

def read32 : Reader UInt32 := do
  let b₃ ← read8
  let b₂ ← read8
  let b₁ ← read8
  let b₀ ← read8
  return b₃.toUInt32 <<< 24 ||| b₂.toUInt32 <<< 16 ||| b₁.toUInt32 <<< 8 ||| b₀.toUInt32

def readBytes (count : Nat) : Reader (List UInt8) := fun bytes =>
  if count ≤ bytes.length then some (bytes.take count, bytes.drop count) else none

def write16 (value : UInt16) : List UInt8 := [(value >>> 8).toUInt8, value.toUInt8]

def write32 (value : UInt32) : List UInt8 :=
  [(value >>> 24).toUInt8, (value >>> 16).toUInt8, (value >>> 8).toUInt8, value.toUInt8]

@[simp] theorem length_write16 (value : UInt16) : (write16 value).length = 2 := rfl

@[simp] theorem length_write32 (value : UInt32) : (write32 value).length = 4 := rfl

section Decodes

variable {α β : Type}

def Decodes (r : Reader α) (bytes : List UInt8) (a : α) : Prop := ∀ rest, r (bytes ++ rest) = some (a, rest)

variable {r : Reader α}

theorem Decodes.run {bytes : List UInt8} {a : α} (h : Decodes r bytes a) : r bytes = some (a, []) := by
  simpa using h []

theorem decodes_pure (a : α) : Decodes (pure a) [] a := fun _ => rfl

theorem Decodes.bind {f : α → Reader β} {bytes bytes' : List UInt8} {a : α} {b : β}
    (h : Decodes r bytes a) (h' : Decodes (f a) bytes' b) : Decodes (r >>= f) (bytes ++ bytes') b := by
  intro rest
  rw [List.append_assoc]
  change ((r (bytes ++ (bytes' ++ rest))).bind fun p => f p.1 p.2) = some (b, rest)
  rw [h, Option.bind_some, h']

theorem Decodes.bind_pure {f : α → β} {bytes : List UInt8} {a : α} (h : Decodes r bytes a) :
    Decodes (do let a ← r; pure (f a)) bytes (f a) := by
  have hbind := h.bind (f := fun a => pure (f a)) (decodes_pure (f a))
  rwa [List.append_nil] at hbind

theorem bind_eq_some_iff {f : α → Reader β} {bytes rest : List UInt8} {b : β} :
    (r >>= f) bytes = some (b, rest) ↔ ∃ a left, r bytes = some (a, left) ∧ f a left = some (b, rest) := by
  change (r bytes).bind (fun p => f p.1 p.2) = some (b, rest) ↔ _
  rw [Option.bind_eq_some_iff, Prod.exists]

theorem decodes_read8 (b : UInt8) : Decodes read8 [b] b := fun _ => rfl

theorem decodes_read16 (value : UInt16) : Decodes read16 (write16 value) value := by
  intro rest
  exact congrArg (fun value => some (value, rest)) (Bytes.join_split value)

theorem decodes_read32 (value : UInt32) : Decodes read32 (write32 value) value := by
  intro rest
  exact congrArg (fun value => some (value, rest)) (Bytes.join_split32 value)

theorem decodes_readBytes (bytes : List UInt8) : Decodes (readBytes bytes.length) bytes bytes := by
  intro rest
  rw [readBytes, if_pos (by simp)]
  simp

theorem decodes_cons {f : UInt8 → Reader β} {first : UInt8} {bytes : List UInt8} {b : β}
    (h : Decodes (f first) bytes b) :
    Decodes (read8 >>= f) (first :: bytes) b :=
  (decodes_read8 first).bind h

end Decodes

section Keeps

variable {α β : Type}

/-- The reader comes back on enough bytes, of which it takes the first `n`. -/
def Takes (r : Reader α) (n : Nat) : Prop := ∀ bytes, n ≤ bytes.length → ∃ a, r bytes = some (a, bytes.drop n)

/-- With the bytes in front of it, what the reader takes is what is written for its value. -/
def Keeps (r : Reader α) (front : List UInt8) (write : α → List UInt8) : Prop :=
  ∀ bytes a rest, r bytes = some (a, rest) → front ++ bytes = write a ++ rest

theorem takes_pure (a : α) : Takes (pure a) 0 := fun _ _ => ⟨a, rfl⟩

theorem Takes.bind {r : Reader α} {f : α → Reader β} {m n : Nat} (h : Takes r m) (h' : ∀ a, Takes (f a) n) :
    Takes (r >>= f) (m + n) := by
  intro bytes hbytes
  obtain ⟨a, hread⟩ := h bytes (by omega)
  obtain ⟨b, hrest⟩ := h' a (bytes.drop m) (by rw [List.length_drop]; omega)
  exact ⟨b, bind_eq_some_iff.mpr ⟨a, _, hread, by rw [hrest, List.drop_drop]⟩⟩

theorem takes_read8 : Takes read8 1 := by
  rintro (_ | ⟨b, bytes⟩) hbytes
  · exact absurd hbytes (by decide)
  · exact ⟨b, rfl⟩

theorem takes_read16 : Takes read16 2 := takes_read8.bind fun _ => takes_read8.bind fun _ => takes_pure _

theorem takes_read32 : Takes read32 4 :=
  takes_read8.bind fun _ => takes_read8.bind fun _ => takes_read8.bind fun _ => takes_read8.bind fun _ => takes_pure _

theorem takes_readBytes (count : Nat) : Takes (readBytes count) count := fun bytes hbytes =>
  ⟨bytes.take count, if_pos hbytes⟩

variable {write : α → List UInt8}

theorem keeps_pure {a : α} {front : List UInt8} (h : front = write a) : Keeps (pure a) front write := by
  intro bytes b rest hread
  cases hread
  rw [h]

theorem Keeps.bind {r : Reader α} {f : α → Reader β} {front : List UInt8}
    {write' : β → List UInt8} (h : Keeps r [] write) (h' : ∀ a, Keeps (f a) (front ++ write a) write') :
    Keeps (r >>= f) front write' := by
  intro bytes b rest hread
  obtain ⟨a, left, hfirst, hsecond⟩ := bind_eq_some_iff.mp hread
  have hbytes : bytes = write a ++ left := h bytes a left hfirst
  rw [hbytes, ← List.append_assoc]
  exact h' a left b rest hsecond

theorem keeps_read8 : Keeps read8 [] fun b => [b] := by
  rintro (_ | ⟨b, bytes⟩) a rest hread
  · exact nomatch hread
  · cases hread
    rfl

theorem keeps_read16 : Keeps read16 [] write16 :=
  keeps_read8.bind fun high => keeps_read8.bind fun low => keeps_pure (Bytes.split_join high low).symm

theorem keeps_read32 : Keeps read32 [] write32 :=
  keeps_read8.bind fun b₃ => keeps_read8.bind fun b₂ => keeps_read8.bind fun b₁ => keeps_read8.bind fun b₀ =>
    keeps_pure (Bytes.split_join32 b₃ b₂ b₁ b₀ rfl).symm

theorem keeps_readBytes (count : Nat) : Keeps (readBytes count) [] id := by
  intro bytes a rest hread
  rw [readBytes] at hread
  split at hread
  · cases hread
    exact (List.take_append_drop count bytes).symm
  · exact nomatch hread

end Keeps

def Output := Option (List UInt8)

namespace Output

def thrown : Output := none

def bytes (written : List UInt8) : Output := some written

def append (out out' : Output) : Output := Option.bind out fun written => Option.map (written ++ ·) out'

instance : Append Output := ⟨append⟩

def each {α : Type} (write : α → Output) : List α → Output
  | [] => bytes []
  | a :: as => write a ++ each write as

def when (c : Prop) [Decidable c] (out : Output) : Output := if c then out else bytes []

theorem append_nil (out : Output) : out ++ bytes [] = out := by
  rcases out with _ | written
  · rfl
  · exact congrArg some (List.append_nil written)

theorem nil_append (out : Output) : bytes [] ++ out = out := by
  rcases out with _ | written
  · rfl
  · rfl

theorem when_pos {c : Prop} [Decidable c] (h : c) (out : Output) : out.when c = out := if_pos h

theorem when_neg {c : Prop} [Decidable c] (h : ¬ c) (out : Output) : out.when c = bytes [] := if_neg h

theorem append_eq_some {out out' : Output} {written : List UInt8} :
    out ++ out' = bytes written ↔ ∃ front back, out = bytes front ∧ out' = bytes back ∧ written = front ++ back := by
  refine Option.bind_eq_some_iff.trans (exists_congr fun front => ?_)
  constructor
  · rintro ⟨hfront, hmap⟩
    obtain ⟨back, hback, rfl⟩ := Option.map_eq_some_iff.mp hmap
    exact ⟨back, hfront, hback, rfl⟩
  · rintro ⟨back, hfront, hback, rfl⟩
    exact ⟨hfront, Option.map_eq_some_iff.mpr ⟨back, hback, rfl⟩⟩

end Output

def readList {α : Type} (r : Reader α) : Nat → Reader (List α)
  | 0 => pure []
  | count + 1 => do
    let a ← r
    let as ← readList r count
    return a :: as

def readWhen {α : Type} (c : Prop) [Decidable c] (r : Reader α) (other : α) : Reader α := if c then r else pure other

section Carries

variable {α β : Type}

def Carries (out : Output) (r : Reader α) (a : α) : Prop := ∃ written, out = .bytes written ∧ Decodes r written a

variable {out out' : Output} {r : Reader α} {a : α}

theorem Decodes.carries {written : List UInt8} (h : Decodes r written a) : Carries (.bytes written) r a :=
  ⟨written, rfl, h⟩

theorem Carries.bind {f : α → Reader β} {b : β} (h : Carries out r a) (h' : Carries out' (f a) b) :
    Carries (out ++ out') (r >>= f) b := by
  obtain ⟨front, rfl, hfront⟩ := h
  obtain ⟨back, rfl, hback⟩ := h'
  exact ⟨front ++ back, rfl, hfront.bind hback⟩

theorem Carries.bind_pure {f : α → β} (h : Carries out r a) : Carries out (do let a ← r; pure (f a)) (f a) := by
  obtain ⟨written, rfl, hwritten⟩ := h
  exact ⟨written, rfl, hwritten.bind_pure⟩

theorem Carries.when {c : Prop} [Decidable c] (h : c → Carries out r a) (other : α) :
    Carries (out.when c) (readWhen c r other) (if c then a else other) := by
  rw [Output.when, readWhen]
  by_cases hc : c
  · rw [if_pos hc, if_pos hc, if_pos hc]
    exact h hc
  · rw [if_neg hc, if_neg hc, if_neg hc]
    exact (decodes_pure other).carries

theorem carries_each {write : β → Output} {seen : β → α} {bs : List β} (h : ∀ b ∈ bs, Carries (write b) r (seen b)) :
    Carries (Output.each write bs) (readList r bs.length) (bs.map seen) := by
  induction bs with
  | nil => exact (decodes_pure []).carries
  | cons b bs ih =>
    apply (h b (List.mem_cons_self ..)).bind
    exact (ih fun b' hb' => h b' (List.mem_cons_of_mem b hb')).bind_pure

def Incomplete (out : Output) (r : Reader α) : Prop := ∀ written a, out = .bytes written → r written ≠ some (a, [])

theorem Carries.incomplete {f : α → Reader β} (h : Carries out r a) (h' : Incomplete out' (f a)) :
    Incomplete (out ++ out') (r >>= f) := by
  intro written b hwritten
  obtain ⟨front, back, hfront, hback, rfl⟩ := Output.append_eq_some.mp hwritten
  obtain ⟨front', hfront', hdecodes⟩ := h
  have heq : front' = front := Option.some.inj (hfront'.symm.trans hfront)
  subst heq
  change ((r (front' ++ back)).bind fun p => f p.1 p.2) ≠ some (b, [])
  rw [hdecodes, Option.bind_some]
  exact h' back b hback

theorem read32_short {bytes : List UInt8} (h : bytes.length < 4) : read32 bytes = none := by
  rcases bytes with _ | ⟨b₃, _ | ⟨b₂, _ | ⟨b₁, _ | ⟨b₀, rest⟩⟩⟩⟩
  · rfl
  · rfl
  · rfl
  · rfl
  · simp only [List.length_cons] at h
    omega

end Carries

end Stream
