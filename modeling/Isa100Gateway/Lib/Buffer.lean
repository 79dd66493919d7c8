import Mathlib.Data.List.Basic

/-!
# Buffers

A block of memory as the list of its cells. Reads and writes that leave the block have no value. A buffer is looked at as the concatenation of the parts it is laid out in, and the rules say what an access does to such a layout.
-/

namespace Buffer

open List

variable {α : Type*}

def read (buf : List α) (i n : Nat) : Option (List α) :=
  if i + n ≤ buf.length then some ((buf.drop i).take n) else none

def write (buf : List α) (i : Nat) (data : List α) : Option (List α) :=
  if i + data.length ≤ buf.length then some (buf.take i ++ data ++ buf.drop (i + data.length)) else none

variable {i n : Nat} {buf data : List α}

theorem read_append (before : List α) {data after : List α} (hi : i = before.length)
    (hn : n = data.length) : read (before ++ data ++ after) i n = some data := by
  subst hi hn
  have hfits : before.length + data.length ≤ (before ++ data ++ after).length := by
    simp only [length_append]
    omega
  rw [read, if_pos hfits]
  simp

theorem write_append {before old after data : List α} (hi : i = before.length) (hold : old.length = data.length) :
    write (before ++ old ++ after) i data = some (before ++ data ++ after) := by
  subst hi
  have hfits : before.length + data.length ≤ (before ++ old ++ after).length := by
    simp only [length_append]
    omega
  have hdrop : (before ++ old ++ after).drop (before.length + data.length) = after := by
    rw [← hold, ← length_append, drop_left]
  rw [write, if_pos hfits, hdrop, append_assoc before old after, take_left]

theorem write_cleared (before data : List α) (n : Nat) (zero : α) (hi : i = before.length) (hroom : data.length ≤ n) :
    write (before ++ replicate n zero) i data =
      some (before ++ data ++ replicate (n - data.length) zero) := by
  have hsplit : replicate n zero =
      replicate data.length zero ++ replicate (n - data.length) zero := by
    rw [← replicate_add, Nat.add_sub_cancel' hroom]
  rw [hsplit, ← append_assoc, write_append hi (by simp)]

theorem length_write {buf buf' : List α} {data : List α} (h : write buf i data = some buf') :
    buf'.length = buf.length := by
  unfold write at h
  split at h
  · rename_i hfits
    cases h
    simp only [length_append, length_take, length_drop]
    omega
  · exact nomatch h

theorem exists_write (h : i + data.length ≤ buf.length) :
    ∃ buf', write buf i data = some buf' ∧ buf'.length = buf.length ∧
      buf'.take (i + data.length) = buf.take i ++ data := by
  have hwrite : write buf i data = some (buf.take i ++ data ++ buf.drop (i + data.length)) := if_pos h
  have hlen : (buf.take i ++ data).length = i + data.length := by
    simp only [length_append, length_take]
    omega
  exact ⟨_, hwrite, length_write hwrite, take_left' hlen⟩

theorem exists_write_layout (h : i + data.length ≤ buf.length) :
    ∃ before after, before.length = i ∧ write buf i data = some (before ++ data ++ after) :=
  ⟨buf.take i, buf.drop (i + data.length), length_take_of_le (by omega), if_pos h⟩

variable {buf' front : List α}

theorem getElem?_write (h : write buf i data = some buf') (j : Nat) :
    buf'[j]? = if i ≤ j ∧ j < i + data.length then data[j - i]? else buf[j]? := by
  unfold write at h
  split at h
  · rename_i hfits
    cases h
    have hfront : (buf.take i).length = i := length_take_of_le (by omega)
    rw [append_assoc, getElem?_append, getElem?_append, hfront]
    split
    · rw [if_neg (by omega), getElem?_take_of_lt (by omega)]
    · split
      · rw [if_pos (by omega)]
      · rw [if_neg (by omega), getElem?_drop]
        congr 1
        omega
  · exact nomatch h

theorem write_write {i j : Nat} (h : write buf i front = some buf')
    (hj : j = i + front.length) (back : List α) : write buf' j back = write buf i (front ++ back) := by
  subst hj
  have hlen := length_write h
  unfold write at h ⊢
  split at h
  · rename_i hfits
    cases h
    have hfront : (buf.take i ++ front).length = i + front.length := by
      rw [length_append, length_take_of_le (by omega)]
    rw [hlen, length_append, ← Nat.add_assoc]
    split
    · have htake : (buf.take i ++ front ++ buf.drop (i + front.length)).take (i + front.length) =
          buf.take i ++ front := take_left' hfront
      rw [htake, drop_append, drop_eq_nil_of_le (by omega), hfront, nil_append, drop_drop,
        append_assoc (buf.take i), Nat.add_assoc, Nat.add_assoc, Nat.add_sub_add_left, Nat.add_sub_cancel_left]
    · rfl
  · exact nomatch h

theorem write_all (h : data.length = buf.length) : write buf 0 data = some data := by
  rw [write, if_pos (by omega), take_zero, drop_eq_nil_of_le (by omega), nil_append, append_nil]

theorem write_zero (h : data.length ≤ buf.length) : write buf 0 data = some (data ++ buf.drop data.length) := by
  rw [write, if_pos (by omega), take_zero, nil_append, Nat.zero_add]

theorem exists_write_next (h : write buf 0 front = some buf')
    (hi : i = front.length) (back : List α) (hroom : front.length + back.length ≤ buf.length) :
    ∃ buf'', write buf' i back = some buf'' ∧ write buf 0 (front ++ back) = some buf'' := by
  have hfits : i + back.length ≤ buf'.length := by
    rw [length_write h, hi]
    exact hroom
  obtain ⟨buf'', hwrite, -⟩ := exists_write hfits
  refine ⟨buf'', hwrite, ?_⟩
  have hnext : i = 0 + front.length := by omega
  rw [← write_write h hnext, hwrite]

theorem read_split (h : read buf i n = some data) {m : Nat} (hm : m ≤ n) :
    read buf i m = some (data.take m) ∧ read buf (i + m) (n - m) = some (data.drop m) := by
  unfold read at h ⊢
  split at h
  · rename_i hfits
    cases h
    rw [if_pos (by omega), if_pos (by omega), take_take, Nat.min_eq_left hm, drop_take, drop_drop]
    exact ⟨rfl, rfl⟩
  · exact nomatch h

theorem length_read (h : read buf i n = some data) : data.length = n := by
  unfold read at h
  split at h
  · cases h
    rw [length_take, length_drop]
    omega
  · exact nomatch h

theorem read_write {i j n : Nat} (h : write buf i data = some buf')
    (hbeside : j + n ≤ i ∨ i + data.length ≤ j) : read buf' j n = read buf j n := by
  have hlen := length_write h
  unfold read
  rw [hlen]
  split
  · congr 1
    apply ext_getElem?
    intro k
    rw [getElem?_take, getElem?_take, getElem?_drop, getElem?_drop, getElem?_write h]
    split
    · rw [if_neg (by omega)]
    · rfl
  · rfl

theorem exists_append (l : List α) (n : Nat) (h : n ≤ l.length) :
    ∃ front back, l = front ++ back ∧ front.length = n :=
  ⟨l.take n, l.drop n, (take_append_drop n l).symm, length_take_of_le h⟩

end Buffer
