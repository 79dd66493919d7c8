import Isa100Gateway.BackBone.DeFrgmTbl
import Isa100Gateway.Lib.Run
import Mathlib.Data.Nat.Bitwise
import Mathlib.Data.List.Nodup
import Mathlib.Logic.Function.Basic

/-!
# Soundness of the reassembly

What the calls of the fragment table keep: the order of the table, and that the marked slots of a message are written.
-/

namespace Isa100Gateway

open BinSearch DeFrgmTbl List MsgHandle

variable {n : Nat} {x y : UInt32}

theorem toNat_shiftLeft_ofNat (x : UInt32) (hn : n < 32) :
    (x <<< UInt32.ofNat n).toNat = x.toNat * 2 ^ n % 2 ^ 32 := by
  have hmod : (UInt32.ofNat n).toNat = n := UInt32.toNat_ofNat_of_lt' (hn.trans (by decide))
  rw [UInt32.toNat_shiftLeft, hmod, Nat.mod_eq_of_lt hn, Nat.shiftLeft_eq]

theorem shiftLeft_eq_some (h : shiftLeft x n = some y) : n < 32 ∧ y.toNat = x.toNat * 2 ^ n % 2 ^ 32 := by
  unfold shiftLeft at h
  split at h
  · rename_i hn
    cases h
    exact ⟨hn, toNat_shiftLeft_ofNat x hn⟩
  · exact nomatch h

theorem shiftLeft_of_lt (x : UInt32) (hn : n < 32) :
    ∃ y, shiftLeft x n = some y ∧ y.toNat = x.toNat * 2 ^ n % 2 ^ 32 :=
  ⟨_, if_pos hn, toNat_shiftLeft_ofNat x hn⟩

theorem testBit_unused {y : UInt32} {n k : Nat} (hy : y.toNat = 0xFFFFFFFE * 2 ^ n % 2 ^ 32) (hk : k < 32) :
    y.toNat.testBit k = decide (n < k) := by
  have hones : ∀ j < 32, Nat.testBit 0xFFFFFFFE j = decide (0 < j) := by decide
  rw [hy, Nat.testBit_mod_two_pow, ← Nat.shiftLeft_eq, Nat.testBit_shiftLeft, decide_eq_true hk, Bool.true_and]
  by_cases hle : n ≤ k
  · rw [hones (k - n) (by omega), decide_eq_true hle, Bool.true_and]
    exact decide_eq_decide.mpr (by omega)
  · rw [decide_eq_false hle, Bool.false_and, decide_eq_false (by omega)]

theorem toNat_bit {y : UInt32} (hn : n < 32) (hy : y.toNat = (1 : UInt32).toNat * 2 ^ n % 2 ^ 32) :
    y.toNat = 2 ^ n := by
  rw [hy, show (1 : UInt32).toNat = 1 from rfl, Nat.one_mul]
  exact Nat.mod_eq_of_lt (Nat.pow_lt_pow_right (by omega) hn)

theorem and_bit_ne_zero_iff (hy : y.toNat = 2 ^ n) : x &&& y ≠ 0 ↔ x.toNat.testBit n = true := by
  have hand : (x &&& y).toNat = (x.toNat.testBit n).toNat * 2 ^ n := by
    rw [UInt32.toNat_and, hy, Nat.and_two_pow]
  have hzero : x &&& y = 0 ↔ (x &&& y).toNat = 0 := by
    rw [← UInt32.toNat_inj]
    rfl
  rw [ne_eq, hzero, hand]
  cases x.toNat.testBit n <;> simp

theorem testBit_or_bit {n k : Nat} (hy : y.toNat = 2 ^ n) :
    (x ||| y).toNat.testBit k = (x.toNat.testBit k || decide (n = k)) := by
  rw [UInt32.toNat_or, hy, Nat.testBit_or, Nat.testBit_two_pow]

def MsgHandle.key (msg : MsgHandle) : Nat := msg.tagShortAddr.toNat

def MsgHandle.tag (msg : MsgHandle) : UInt16 := (msg.tagShortAddr >>> 16).toUInt16

def MsgHandle.src (msg : MsgHandle) : UInt16 := msg.tagShortAddr.toUInt16

theorem key_lt_iff (a b : MsgHandle) : a.key < b.key ↔ a.tag < b.tag ∨ a.tag = b.tag ∧ a.src < b.src := by
  have ha := a.tagShortAddr.toNat_lt
  have hb := b.tagShortAddr.toNat_lt
  have htag : ∀ m : MsgHandle, m.tag.toNat = m.key / 65536 := by
    intro m
    have hm := m.tagShortAddr.toNat_lt
    simp only [tag, key, UInt32.toNat_toUInt16, UInt32.toNat_shiftRight, Nat.shiftRight_eq_div_pow]
    simp
    omega
  have hsrc : ∀ m : MsgHandle, m.src.toNat = m.key % 65536 := fun m => UInt32.toNat_toUInt16 _
  rw [UInt16.lt_iff_toNat_lt, UInt16.lt_iff_toNat_lt, ← UInt16.toNat_inj, htag, htag, hsrc, hsrc]
  omega

theorem compares_tagAddr (key : UInt32) : Compares MsgHandle.key key.toNat (compareTagAddr key) := by
  refine ⟨fun msg h => ?_, fun msg h => ?_, fun msg h => ?_⟩
  · unfold compareTagAddr at h
    split at h
    · rename_i hlt
      exact UInt32.lt_iff_toNat_lt.mp hlt
    · split at h <;> exact nomatch h
  · unfold compareTagAddr at h
    split at h
    · exact nomatch h
    · split at h
      · exact nomatch h
      · rename_i heq
        exact congrArg UInt32.toNat (not_not.mp heq).symm
  · unfold compareTagAddr at h
    split at h
    · exact nomatch h
    · split at h
      · rename_i hlt hne
        have hne : key.toNat ≠ msg.key := fun heq => hne (UInt32.toNat_inj.mp heq)
        rw [UInt32.lt_iff_toNat_lt] at hlt
        change msg.key < key.toNat
        change ¬key.toNat < msg.key at hlt
        omega
      · exact nomatch h

abbrev Fragment := Nat × List UInt8

def Fragment.Covers (f : Fragment) (i : Nat) (b : UInt8) : Prop := f.1 ≤ i ∧ f.2[i - f.1]? = some b

structure Reassembly where
  table : DeFrgmTbl
  accepted : UInt32 → List Fragment

inductive DeFrgmCall
  | startMsg (now : Int) (dgramTag srcAddr dstAddr : UInt16) (trafficClass : UInt8) (msgSz frgSz : UInt16)
      (ipv6 : Option (List UInt8))
  | addFragment (dgramTag srcAddr dgramOff : UInt16) (frg : List UInt8)
  | dropExpired (now : Int)
  | hasFullMsg

namespace Reassembly

def start : Reassembly := ⟨[], fun _ => []⟩

def call (r : Reassembly) : DeFrgmCall → Option Reassembly
  | .startMsg now dgramTag srcAddr dstAddr trafficClass msgSz frgSz ipv6 =>
    (startMsg now dgramTag srcAddr dstAddr trafficClass msgSz frgSz ipv6 r.table).map
      fun (started, table) =>
        ⟨table, if started then Function.update r.accepted (frgmKey dgramTag srcAddr) [] else r.accepted⟩
  | .addFragment dgramTag srcAddr dgramOff frg =>
    (addFragment dgramTag srcAddr dgramOff frg r.table).map fun (added, table) =>
      let key := frgmKey dgramTag srcAddr
      ⟨table, if added then Function.update r.accepted key (r.accepted key ++ [(dgramOff.toNat, frg)])
        else r.accepted⟩
  | .dropExpired now => some ⟨dropExpired now r.table, r.accepted⟩
  | .hasFullMsg => some ⟨(hasFullMsg r.table).2, r.accepted⟩

end Reassembly

def MsgHandle.slot (msg : MsgHandle) (i : Nat) : Nat := i / msg.frgSz.toNat

def MsgHandle.Written (msg : MsgHandle) (i : Nat) : Prop := ∃ b, msg.msgPtr[i]? = some (some b)

/-- The bytes of the slot in which the fragment starts are in the fragment or were written before. -/
def MsgHandle.Fills (msg : MsgHandle) (off : Nat) (frg : List UInt8) : Prop :=
  ∀ i < msg.msgSz.toNat, msg.slot i = msg.slot off → (off ≤ i ∧ i < off + frg.length) ∨ msg.Written i

/-- A datagram is started with 32 slots at most, and the fragments that mark a slot fill it. -/
def Reassembly.Fills (r : Reassembly) : DeFrgmCall → Prop
  | .startMsg _ dgramTag srcAddr _ _ msgSz frgSz _ =>
    40 ≤ frgSz.toNat → frgSz ≤ msgSz → r.table.length < maxMessages →
      (∀ msg ∈ r.table, msg.tagShortAddr ≠ frgmKey dgramTag srcAddr) →
      (msgSz.toNat - 1) / frgSz.toNat < 32
  | .addFragment dgramTag srcAddr dgramOff frg =>
    ∀ msg ∈ r.table, msg.tagShortAddr = frgmKey dgramTag srcAddr →
      dgramOff.toNat + frg.length ≤ msg.msgSz.toNat → msg.slot dgramOff.toNat < 32 ∧
        (msg.bitfield.toNat.testBit (msg.slot dgramOff.toNat) = false → msg.Fills dgramOff.toNat frg)
  | .dropExpired _ => True
  | .hasFullMsg => True

instance (msg : MsgHandle) (i : Nat) : Decidable (msg.Written i) :=
  match h : msg.msgPtr[i]? with
  | some (some b) => isTrue ⟨b, h⟩
  | some none => isFalse fun ⟨_, hb⟩ => nomatch h.symm.trans hb
  | none => isFalse fun ⟨_, hb⟩ => nomatch h.symm.trans hb

instance (msg : MsgHandle) (off : Nat) (frg : List UInt8) : Decidable (msg.Fills off frg) :=
  inferInstanceAs (Decidable (∀ _ < _, _))

instance (r : Reassembly) (c : DeFrgmCall) : Decidable (r.Fills c) :=
  match c with
  | .startMsg .. => inferInstanceAs (Decidable (_ → _))
  | .addFragment .. => inferInstanceAs (Decidable (∀ _ ∈ _, _))
  | .dropExpired _ => isTrue trivial
  | .hasFullMsg => isTrue trivial

/-! ## One call -/

structure MsgHandle.Tracks (accepted : List Fragment) (msg : MsgHandle) : Prop where
  size : msg.msgPtr.length = msg.msgSz.toNat
  slots : msg.slot (msg.msgSz.toNat - 1) < 32
  written : ∀ i b, msg.msgPtr[i]? = some (some b) → ∃ f ∈ accepted, Fragment.Covers f i b
  marked : ∀ i < msg.msgSz.toNat, msg.bitfield.toNat.testBit (msg.slot i) = true → msg.Written i

structure Reassembly.Sound (r : Reassembly) : Prop where
  sorted : SortedBy key r.table
  bounded : r.table.length ≤ maxMessages
  tracked : ∀ msg ∈ r.table, msg.Tracks (r.accepted msg.tagShortAddr)

variable {r r' : Reassembly} {table : DeFrgmTbl} {msg : MsgHandle}

def newHandle (now : Int) (key : UInt32) (dstAddr : UInt16) (trafficClass : UInt8) (msgSz frgSz : UInt16)
    (ipv6 : Option (List UInt8)) (bitfield : UInt32) : MsgHandle :=
  { bitfield := bitfield, tagShortAddr := key, timestamp := now, msgPtr := replicate msgSz.toNat none,
    dstAddr := dstAddr, msgSz := msgSz, frgSz := frgSz, trafficClass := trafficClass, ipv6 := ipv6 }

variable {ipv6 : Option (List UInt8)} {accepted : List Fragment}

theorem startMsg_cases {now : Int} {dgramTag srcAddr dstAddr : UInt16} {trafficClass : UInt8}
    {msgSz frgSz : UInt16} (hsorted : SortedBy MsgHandle.key table) :
    DeFrgmTbl.startMsg now dgramTag srcAddr dstAddr trafficClass msgSz frgSz ipv6 table = some (false, table) ∨
    40 ≤ frgSz.toNat ∧ frgSz ≤ msgSz ∧ table.length < maxMessages ∧
      ∃ i, Window MsgHandle.key (frgmKey dgramTag srcAddr).toNat table i i ∧
        DeFrgmTbl.startMsg now dgramTag srcAddr dstAddr trafficClass msgSz frgSz ipv6 table =
          (shiftLeft 0xFFFFFFFE ((msgSz.toNat - 1) / frgSz.toNat)).map fun bitfield =>
            (true, table.take i ++ newHandle now (frgmKey dgramTag srcAddr) dstAddr trafficClass msgSz frgSz ipv6
              bitfield :: table.drop i) := by
  have hanswers := find_answers hsorted (compares_tagAddr (frgmKey dgramTag srcAddr))
  unfold DeFrgmTbl.startMsg
  dsimp only
  split
  · exact Or.inl rfl
  · split
    · exact Or.inl rfl
    · split
      · exact Or.inl rfl
      · rename_i hforty hle hroom
        split
        · exact Or.inl rfl
        · rename_i hfound
          rcases hfind : find (compareTagAddr (frgmKey dgramTag srcAddr)) table with ⟨found, i⟩
          rw [hfind] at hfound hanswers
          obtain rfl : found = false := by simpa using hfound
          exact Or.inr ⟨by omega, UInt16.not_lt.mp hle, by omega, i, hanswers, rfl⟩

theorem addFragment_cases {dgramTag srcAddr dgramOff : UInt16} {frg : List UInt8}
    (hsorted : SortedBy MsgHandle.key table) :
    DeFrgmTbl.addFragment dgramTag srcAddr dgramOff frg table = some (false, table) ∨
    ∃ i msg, table[i]? = some msg ∧ msg.tagShortAddr = frgmKey dgramTag srcAddr ∧
      dgramOff.toNat + frg.length ≤ msg.msgSz.toNat ∧
      DeFrgmTbl.addFragment dgramTag srcAddr dgramOff frg table =
        (shiftLeft 1 (msg.slot dgramOff.toNat)).bind fun frgBit =>
          if msg.bitfield &&& frgBit ≠ 0 then some (false, table)
          else (Buffer.write msg.msgPtr dgramOff.toNat (frg.map some)).map fun msgPtr =>
            (true, table.set i { msg with bitfield := msg.bitfield ||| frgBit, msgPtr := msgPtr }) := by
  have hanswers := find_answers hsorted (compares_tagAddr (frgmKey dgramTag srcAddr))
  unfold DeFrgmTbl.addFragment
  dsimp only
  split
  · exact Or.inl rfl
  · rcases hfind : find (compareTagAddr (frgmKey dgramTag srcAddr)) table with ⟨found, i⟩
    rw [hfind] at hanswers
    cases found with
    | false => exact Or.inl rfl
    | true =>
      obtain ⟨msg, hget, hkey⟩ := hanswers
      dsimp only
      rw [hget]
      dsimp only
      split
      · exact Or.inl rfl
      · exact Or.inr ⟨i, msg, hget, UInt32.toNat_inj.mp hkey, by omega, rfl⟩

theorem slot_mono {i j : Nat} (h : i ≤ j) : msg.slot i ≤ msg.slot j := Nat.div_le_div_right h

theorem MsgHandle.Tracks.slot_lt (h : msg.Tracks accepted) {i : Nat} (hi : i < msg.msgSz.toNat) : msg.slot i < 32 :=
  lt_of_le_of_lt (slot_mono (by omega)) h.slots

theorem tracks_newHandle {now : Int} {key : UInt32} {dstAddr : UInt16} {trafficClass : UInt8}
    {msgSz frgSz : UInt16} {bitfield : UInt32}
    (hshift : shiftLeft 0xFFFFFFFE ((msgSz.toNat - 1) / frgSz.toNat) = some bitfield) :
    (newHandle now key dstAddr trafficClass msgSz frgSz ipv6 bitfield).Tracks [] := by
  obtain ⟨hslots, hbits⟩ := shiftLeft_eq_some hshift
  refine ⟨length_replicate, hslots, ?_, ?_⟩
  · intro i b hget
    obtain ⟨-, hnone⟩ := mem_replicate.mp (mem_of_getElem? hget)
    cases hnone
  · intro i hi hmarked
    have hslot : i / frgSz.toNat ≤ (msgSz.toNat - 1) / frgSz.toNat :=
      Nat.div_le_div_right (Nat.le_sub_one_of_lt hi)
    have hbit := testBit_unused hbits (lt_of_le_of_lt hslot hslots)
    rw [decide_eq_false (by omega)] at hbit
    exact absurd (hmarked.symm.trans hbit) (by decide)

theorem MsgHandle.Tracks.add (h : msg.Tracks accepted) {off : Nat} {frg : List UInt8}
    {frgBit : UInt32} {msgPtr : List (Option UInt8)}
    (hbit : frgBit.toNat = 2 ^ msg.slot off) (hfills : msg.Fills off frg)
    (hwrite : Buffer.write msg.msgPtr off (frg.map some) = some msgPtr) :
    Tracks (accepted ++ [(off, frg)])
      { msg with bitfield := msg.bitfield ||| frgBit, msgPtr := msgPtr } := by
  have hcell := Buffer.getElem?_write hwrite
  rw [length_map] at hcell
  have hkept : ∀ i, msg.Written i → ∃ b, msgPtr[i]? = some (some b) := by
    rintro i ⟨b, hb⟩
    rw [hcell]
    split
    · rename_i hunder
      have hlt : i - off < frg.length := by omega
      exact ⟨frg[i - off], by rw [getElem?_map, getElem?_eq_getElem hlt, Option.map_some]⟩
    · exact ⟨b, hb⟩
  have hfresh : ∀ i, off ≤ i → i < off + frg.length → ∃ b, msgPtr[i]? = some (some b) := by
    intro i hlow hhigh
    have hlt : i - off < frg.length := by omega
    refine ⟨frg[i - off], ?_⟩
    rw [hcell, if_pos ⟨hlow, hhigh⟩, getElem?_map, getElem?_eq_getElem hlt, Option.map_some]
  refine ⟨(Buffer.length_write hwrite).trans h.size, h.slots, ?_, ?_⟩
  · intro i b hget
    change msgPtr[i]? = some (some b) at hget
    rw [hcell] at hget
    split at hget
    · rename_i hunder
      rw [getElem?_map, Option.map_eq_some_iff] at hget
      obtain ⟨b', hb', hsome⟩ := hget
      cases hsome
      exact ⟨_, mem_append_right _ mem_cons_self, hunder.1, hb'⟩
    · obtain ⟨f, hf, hcovers⟩ := h.written i b hget
      exact ⟨f, mem_append_left _ hf, hcovers⟩
  · intro i hi hmarked
    change (msg.bitfield ||| frgBit).toNat.testBit (msg.slot i) = true at hmarked
    rw [testBit_or_bit hbit, Bool.or_eq_true, decide_eq_true_iff] at hmarked
    rcases hmarked with hmarked | hslot
    · exact hkept i (h.marked i hi hmarked)
    · rcases hfills i hi hslot.symm with hunder | hwritten
      · exact hfresh i hunder.1 hunder.2
      · exact hkept i hwritten

theorem Reassembly.Sound.addMessage (h : r.Sound) {i : Nat} {msg : MsgHandle} {key : UInt32}
    (hkey : msg.tagShortAddr = key) (hwindow : Window MsgHandle.key key.toNat r.table i i)
    (hroom : r.table.length < maxMessages) (htracks : msg.Tracks []) :
    Reassembly.Sound ⟨r.table.take i ++ msg :: r.table.drop i, Function.update r.accepted key []⟩ := by
  have habsent := hwindow.absent
  subst hkey
  refine ⟨h.sorted.insert rfl hwindow, ?_, ?_⟩
  · simp only [length_append, length_take, length_cons, length_drop]
    omega
  · intro m hm
    have hcases : m = msg ∨ m ∈ r.table := by
      rcases mem_append.mp hm with hm | hm
      · exact Or.inr (mem_of_mem_take hm)
      · rcases mem_cons.mp hm with hm | hm
        · exact Or.inl hm
        · exact Or.inr (mem_of_mem_drop hm)
    dsimp only
    rcases hcases with rfl | hm
    · rw [Function.update_self]
      exact htracks
    · rw [Function.update_of_ne fun heq => habsent m hm (congrArg UInt32.toNat heq)]
      exact h.tracked m hm

theorem Reassembly.Sound.replace (h : r.Sound) {i : Nat} {msg' : MsgHandle} {f : Fragment}
    (hget : r.table[i]? = some msg) (hkey : msg'.tagShortAddr = msg.tagShortAddr)
    (htracks : msg'.Tracks (r.accepted msg.tagShortAddr ++ [f])) : Reassembly.Sound ⟨r.table.set i msg',
      Function.update r.accepted msg.tagShortAddr (r.accepted msg.tagShortAddr ++ [f])⟩ := by
  refine ⟨h.sorted.set hget (congrArg UInt32.toNat hkey), (length_set ..).le.trans h.bounded, ?_⟩
  intro m hm
  obtain ⟨j, hj, rfl⟩ := mem_iff_getElem.mp hm
  rw [length_set] at hj
  rw [getElem_set]
  dsimp only
  split
  · rw [hkey, Function.update_self]
    exact htracks
  · rename_i hne
    have hother : r.table[j] ∈ r.table := getElem_mem hj
    rw [Function.update_of_ne]
    · exact h.tracked _ hother
    · intro heq
      have hsame := h.sorted.unique hother (mem_of_getElem? hget) (congrArg UInt32.toNat heq)
      obtain ⟨hi, hget⟩ := List.getElem?_eq_some_iff.mp hget
      exact hne ((Nodup.getElem_inj_iff h.sorted.nodup).mp (hget.trans hsame.symm))

theorem Reassembly.Sound.sublist (h : r.Sound) {table : DeFrgmTbl} (hsub : table.Sublist r.table) :
    Reassembly.Sound ⟨table, r.accepted⟩ :=
  ⟨Pairwise.sublist hsub h.sorted, hsub.length_le.trans h.bounded,
    fun m hm => h.tracked m (hsub.subset hm)⟩

theorem dropExpiredBelow_sublist (expirationTime : Int) (i : Nat) (table : DeFrgmTbl) :
    (dropExpiredBelow expirationTime i table).Sublist table := by
  induction i generalizing table with
  | zero => exact Sublist.refl table
  | succ i ih =>
    unfold dropExpiredBelow
    refine (ih _).trans ?_
    split
    · exact eraseIdx_sublist table i
    · exact Sublist.refl table

theorem hasFullMsg_sublist (table : DeFrgmTbl) : (hasFullMsg table).2.Sublist table := by
  unfold hasFullMsg
  split
  · exact eraseIdx_sublist table _
  · exact Sublist.refl table

theorem Reassembly.Sound.call (h : r.Sound) {c : DeFrgmCall} (hfills : r.Fills c) :
    ∃ r', r.call c = some r' ∧ r'.Sound := by
  cases c with
  | startMsg now dgramTag srcAddr dstAddr trafficClass msgSz frgSz ipv6 =>
    rcases startMsg_cases h.sorted with hrefused | ⟨hforty, hle, hroom, i, hwindow, hstart⟩
    · exact ⟨r, by rw [Reassembly.call, hrefused]; rfl, h⟩
    · have habsent : ∀ m ∈ r.table, m.tagShortAddr ≠ frgmKey dgramTag srcAddr := fun m hm heq =>
        hwindow.absent m hm (congrArg UInt32.toNat heq)
      obtain ⟨bitfield, hshift, -⟩ := shiftLeft_of_lt 0xFFFFFFFE (hfills hforty hle hroom habsent)
      refine ⟨_, by rw [Reassembly.call, hstart, hshift]; rfl, ?_⟩
      exact h.addMessage rfl hwindow hroom (tracks_newHandle hshift)
  | addFragment dgramTag srcAddr dgramOff frg =>
    rcases addFragment_cases h.sorted with hrefused | ⟨i, msg, hget, hkey, hinside, hadd⟩
    · exact ⟨r, by rw [Reassembly.call, hrefused]; rfl, h⟩
    · have hmem := List.mem_of_getElem? hget
      have htracks := h.tracked msg hmem
      obtain ⟨hslot, hfills⟩ := hfills msg hmem hkey hinside
      obtain ⟨frgBit, hshift, hbit⟩ := shiftLeft_of_lt 1 hslot
      have hbit := toNat_bit hslot hbit
      rw [hshift, Option.bind_some] at hadd
      split at hadd
      · exact ⟨r, by rw [Reassembly.call, hadd]; rfl, h⟩
      · rename_i hfresh
        rw [and_bit_ne_zero_iff hbit, Bool.not_eq_true] at hfresh
        have hroom : dgramOff.toNat + (frg.map some).length ≤ msg.msgPtr.length := by
          rw [List.length_map, htracks.size]
          exact hinside
        obtain ⟨msgPtr, hwrite, -⟩ := Buffer.exists_write hroom
        rw [hwrite] at hadd
        refine ⟨_, by rw [Reassembly.call, hadd]; rfl, ?_⟩
        rw [← hkey]
        exact h.replace hget rfl (htracks.add hbit (hfills hfresh) hwrite)
  | dropExpired now => exact ⟨_, rfl, h.sublist (dropExpiredBelow_sublist _ _ _)⟩
  | hasFullMsg => exact ⟨_, rfl, h.sublist (hasFullMsg_sublist _)⟩

theorem hasFullMsg_some {out : FullMsg} (h : (hasFullMsg table).1 = some out) :
    ∃ msg ∈ table, out = fullMsg msg ∧ ∀ k < 32, msg.bitfield.toNat.testBit k = true := by
  unfold hasFullMsg at h
  split at h
  · rename_i i hfind
    obtain ⟨hi, hfull, -⟩ := findIdx?_eq_some_iff_getElem.mp hfind
    rw [getElem?_eq_getElem hi, Option.map_some] at h
    refine ⟨_, getElem_mem hi, (Option.some.inj h).symm, ?_⟩
    rw [of_decide_eq_true hfull]
    decide
  · exact nomatch h

theorem sound_start : Reassembly.start.Sound :=
  ⟨Pairwise.nil, Nat.zero_le _, fun _ hmsg => absurd hmsg not_mem_nil⟩

/-- In every state reached by calls that meet the condition, the table is sorted by tag and source, has each key once and 256 entries at most, the next such call uses no bit beyond the 32, and each byte of a returned message was written by a fragment that its datagram accepted. -/
theorem reassembly_sound (h : Machine.Reaches Reassembly.start Reassembly.call Reassembly.Fills r) :
    (r.table.Pairwise fun a b => a.tag < b.tag ∨ a.tag = b.tag ∧ a.src < b.src) ∧
    (r.table.map tagShortAddr).Nodup ∧ r.table.length ≤ maxMessages ∧ (∀ c, r.Fills c → r.call c ≠ none) ∧
    ∀ out, (hasFullMsg r.table).1 = some out → ∃ msg ∈ r.table, out = fullMsg msg ∧
      out.payload.length = msg.msgSz.toNat ∧ ∀ i < msg.msgSz.toNat,
        ∃ f ∈ r.accepted msg.tagShortAddr, ∃ b, Fragment.Covers f i b ∧ out.payload[i]? = some (some b) := by
  have hsound : r.Sound := by
    refine h.invariant sound_start ?_
    intro s c s' hs hfills hcall
    obtain ⟨s'', hcall', hsound⟩ := hs.call hfills
    obtain rfl : s'' = s' := Option.some.inj (hcall'.symm.trans hcall)
    exact hsound
  refine ⟨hsound.sorted.imp fun hlt => (key_lt_iff _ _).mp hlt, ?_, hsound.bounded, ?_, ?_⟩
  · refine pairwise_map.mpr (hsound.sorted.imp fun hlt heq => ?_)
    exact hlt.ne (congrArg UInt32.toNat heq)
  · intro c hfills hnone
    obtain ⟨r', hcall, -⟩ := hsound.call hfills
    rw [hnone] at hcall
    exact nomatch hcall
  · intro out hout
    obtain ⟨msg, hmem, rfl, hfull⟩ := hasFullMsg_some hout
    have htracks := hsound.tracked msg hmem
    refine ⟨msg, hmem, rfl, htracks.size, fun i hi => ?_⟩
    obtain ⟨b, hb⟩ := htracks.marked i hi (hfull _ (htracks.slot_lt hi))
    obtain ⟨f, hf, hcovers⟩ := htracks.written i b hb
    exact ⟨f, hf, b, hcovers, hb⟩

def wholeDatagram : List DeFrgmCall :=
  [.startMsg 0 7 1 2 0 80 40 none, .addFragment 7 1 0 (replicate 40 1), .addFragment 7 1 40 (replicate 40 2)]

theorem reassembly_sound_whole : ∃ r, Machine.runs Reassembly.call Reassembly.start wholeDatagram = some r ∧
    (∃ out ∈ (hasFullMsg r.table).1, ∃ msg ∈ r.table, out = fullMsg msg) ∧
    (r.table.map tagShortAddr).Nodup ∧ r.table.length ≤ maxMessages := by
  obtain ⟨r, hrun, hfull⟩ : ∃ r ∈ Machine.runs Reassembly.call Reassembly.start wholeDatagram,
      (hasFullMsg r.table).1.isSome = true := by decide +kernel
  have hsound := reassembly_sound (Machine.reaches_runs (by decide +kernel) hrun)
  obtain ⟨out, hout⟩ := Option.isSome_iff_exists.mp hfull
  obtain ⟨msg, hmem, heq, -⟩ := hsound.2.2.2.2 out hout
  exact ⟨r, hrun, ⟨out, hout, msg, hmem, heq⟩, hsound.2.1, hsound.2.2.1⟩

/-- The second fragment of the datagram is one byte long and completes it. A datagram of 2047 bytes in fragments of 40 has more slots than the word has bits. -/
theorem reassembly_unsound : (∃ r, Machine.Reaches Reassembly.start Reassembly.call (fun _ _ => True) r ∧
      ∃ out ∈ (hasFullMsg r.table).1, none ∈ out.payload) ∧
    Reassembly.start.call (.startMsg 0 7 1 2 0 2047 40 none) = none := by
  refine ⟨?_, rfl⟩
  obtain ⟨r, hrun, hhole⟩ : ∃ r ∈ Machine.runs Reassembly.call Reassembly.start
      [.startMsg 0 7 1 2 0 80 40 none, .addFragment 7 1 0 (replicate 40 1), .addFragment 7 1 40 [2]],
      ∃ out ∈ (hasFullMsg r.table).1, none ∈ out.payload := by decide +kernel
  exact ⟨r, Machine.reaches_runs (by decide) hrun, hhole⟩

end Isa100Gateway
