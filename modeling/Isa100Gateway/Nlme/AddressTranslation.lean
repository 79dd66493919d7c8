import Isa100Gateway.Lib.Table
import Isa100Gateway.Nlme.Tables

/-!
# The address translation table

The two lookups of the table hold the same entries, and what each operation does to both. From this follow the calls of `NLME_setATT` that obey the row-set law and what a lookup by short address yields.
-/

namespace Isa100Gateway

open Table

theorem insufficient_ne_success : sfcInsufficientDeviceResources ≠ sfcSuccess := by decide

theorem inconsistent_ne_success : sfcInconsistentContent ≠ sfcSuccess := by decide

def AttTable.Inverse (att : AttTable) : Prop :=
  ∀ long short entry,
    (findATT long att = some entry ∧ entry.row.shortAddress = short) ↔
      (findATTByShortAddr short att = some entry ∧ entry.row.ipv6Addr = long)

structure AttTable.Consistent (att : AttTable) : Prop where
  inverse : att.Inverse
  serialInj : ∀ long entry long' entry', findATT long att = some entry →
    findATT long' att = some entry' → entry.serial = entry'.serial → entry = entry'
  serialFresh : ∀ long entry, findATT long att = some entry → entry.serial < att.nextSerial
  sameLength : att.map2toEntry.entries.length = att.map16toEntry.entries.length
  bounded : att.map16toEntry.entries.length ≤ maxAddrTranslationsNo

section Att

variable {att : AttTable} {idx long : Ipv6Addr} {short : ShortAddr} {row : AttRow} {entry : AttEntry}

theorem AttTable.Consistent.of_long (h : att.Consistent) (hfind : findATT long att = some entry) :
    entry.row.ipv6Addr = long ∧ findATTByShortAddr entry.row.shortAddress att = some entry :=
  ((h.inverse long entry.row.shortAddress entry).mp ⟨hfind, rfl⟩).symm

theorem AttTable.Consistent.of_short (h : att.Consistent) (hfind : findATTByShortAddr short att = some entry) :
    entry.row.shortAddress = short ∧ findATT entry.row.ipv6Addr att = some entry :=
  ((h.inverse entry.row.ipv6Addr short entry).mpr ⟨hfind, rfl⟩).symm

theorem delATT_of_absent (h : findATT idx att = none) : (delATT idx att).2 = att := by
  unfold delATT
  rw [show att.map16toEntry.lookup idx = none from h]

theorem delATT_of_present (h : findATT idx att = some entry) : (delATT idx att).2 = { att with
      map16toEntry := att.map16toEntry.erase idx
      map2toEntry := att.map2toEntry.erase entry.row.shortAddress } := by
  unfold delATT
  rw [show att.map16toEntry.lookup idx = some entry from h]

theorem findATT_delATT (idx long : Ipv6Addr) (att : AttTable) :
    findATT long (delATT idx att).2 = if long = idx then none else findATT long att := by
  cases hidx : findATT idx att with
  | none =>
    rw [delATT_of_absent hidx]
    by_cases heq : long = idx
    · rw [if_pos heq, heq, hidx]
    · rw [if_neg heq]
  | some entry =>
    rw [delATT_of_present hidx]
    exact lookup_erase att.map16toEntry idx long

theorem find_delATT (idx : Ipv6Addr) (att : AttTable) : (fun long => findATT long (delATT idx att).2) =
      Function.update (fun long => findATT long att) idx none := by
  funext long
  rw [findATT_delATT, Function.update_apply]

theorem findByShortAddr_delATT (h : findATT idx att = some entry) :
    (fun short => findATTByShortAddr short (delATT idx att).2) =
      Function.update (fun short => findATTByShortAddr short att) entry.row.shortAddress none := by
  rw [delATT_of_present h]
  exact find_erase att.map2toEntry entry.row.shortAddress

theorem findATTByShortAddr_delATT (h : att.Consistent) (idx : Ipv6Addr) (short : ShortAddr) :
    findATTByShortAddr short (delATT idx att).2 =
      (findATTByShortAddr short att).filter fun entry => entry.row.ipv6Addr ≠ idx := by
  cases hidx : findATT idx att with
  | none =>
    rw [delATT_of_absent hidx]
    cases hshort : findATTByShortAddr short att with
    | none => rfl
    | some other =>
      have hne : other.row.ipv6Addr ≠ idx := by
        intro heq
        have := (h.of_short hshort).2
        rw [heq, hidx] at this
        cases this
      simp [Option.filter_some, hne]
  | some entry =>
    obtain ⟨hlong, hback⟩ := h.of_long hidx
    rw [delATT_of_present hidx]
    change (att.map2toEntry.erase entry.row.shortAddress).lookup short = _
    rw [lookup_erase]
    by_cases heq : short = entry.row.shortAddress
    · rw [if_pos heq, heq, hback]
      simp [Option.filter_some, hlong]
    · rw [if_neg heq]
      cases hshort : findATTByShortAddr short att with
      | none => exact hshort
      | some other =>
        obtain ⟨hother, hfind⟩ := h.of_short hshort
        have hne : other.row.ipv6Addr ≠ idx := by
          intro hidx'
          rw [hidx', hidx] at hfind
          exact heq (hother ▸ congrArg (fun e => e.row.shortAddress) (Option.some.inj hfind).symm)
        rw [show att.map2toEntry.lookup short = some other from hshort]
        simp [Option.filter_some, hne]

theorem length_delATT_of_present (h : findATT idx att ≠ none) :
    (delATT idx att).2.map16toEntry.entries.length + 1 = att.map16toEntry.entries.length := by
  obtain ⟨entry, hidx⟩ := Option.ne_none_iff_exists'.mp h
  rw [delATT_of_present hidx]
  exact length_erase_of_present h

theorem AttTable.Consistent.paired (h : att.Consistent) :
    Paired (fun long => findATT long att) (fun short => findATTByShortAddr short att)
      (fun entry => entry.row.ipv6Addr) fun entry => entry.row.shortAddress :=
  h.inverse

theorem AttTable.Consistent.tagged (h : att.Consistent) :
    Tagged (fun long => findATT long att) AttEntry.serial att.nextSerial :=
  ⟨h.serialInj, h.serialFresh⟩

theorem AttTable.Consistent.delATT (h : att.Consistent) (idx : Ipv6Addr) : (delATT idx att).2.Consistent := by
  cases hidx : findATT idx att with
  | none => rwa [delATT_of_absent hidx]
  | some entry =>
    have hpaired := h.paired.erase hidx
    have htagged := h.tagged.erase idx
    have hpresent : att.map16toEntry.lookup idx ≠ none := Option.ne_none_iff_exists'.mpr ⟨entry, hidx⟩
    have hpresent' : att.map2toEntry.lookup entry.row.shortAddress ≠ none :=
      Option.ne_none_iff_exists'.mpr ⟨entry, (h.of_long hidx).2⟩
    rw [← find_delATT] at hpaired htagged
    rw [← findByShortAddr_delATT hidx] at hpaired
    rw [delATT_of_present hidx] at hpaired htagged ⊢
    refine ⟨hpaired, htagged.inj, htagged.fresh, ?_, ?_⟩
    · have h16 := length_erase_of_present hpresent
      have h2 := length_erase_of_present hpresent'
      have hsame := h.sameLength
      exact Nat.succ.inj (h2.trans (hsame.trans h16.symm))
    · exact (length_erase_le att.map16toEntry idx).trans h.bounded

theorem addEntry_of_full (h : att.map16toEntry.entries.length ≥ maxAddrTranslationsNo) :
    addEntry row att = (sfcInsufficientDeviceResources, att) := by
  rw [addEntry, if_pos h]

theorem addEntry_of_room (h : att.map16toEntry.entries.length < maxAddrTranslationsNo) :
    addEntry row att = (sfcSuccess, {
      map16toEntry := att.map16toEntry.insert row.ipv6Addr ⟨att.nextSerial, row⟩
      map2toEntry := att.map2toEntry.insert row.shortAddress ⟨att.nextSerial, row⟩
      nextSerial := att.nextSerial + 1 }) := by
  rw [addEntry, if_neg (not_le.mpr h)]

theorem findATTByShortAddr_addEntry (short : ShortAddr)
    (h : att.map16toEntry.entries.length < maxAddrTranslationsNo) :
    findATTByShortAddr short (addEntry row att).2 =
      if short = row.shortAddress then some ⟨att.nextSerial, row⟩
      else findATTByShortAddr short att := by
  rw [addEntry_of_room h]
  exact lookup_insert att.map2toEntry row.shortAddress short _

theorem findATT_addEntry (long : Ipv6Addr) (h : att.map16toEntry.entries.length < maxAddrTranslationsNo) :
    findATT long (addEntry row att).2 =
      if long = row.ipv6Addr then some ⟨att.nextSerial, row⟩ else findATT long att := by
  rw [addEntry_of_room h]
  exact lookup_insert att.map16toEntry row.ipv6Addr long _

theorem find_addEntry (h : att.map16toEntry.entries.length < maxAddrTranslationsNo) :
    (fun long => findATT long (addEntry row att).2) =
      Function.update (fun long => findATT long att) row.ipv6Addr (some ⟨att.nextSerial, row⟩) := by
  funext long
  rw [findATT_addEntry long h, Function.update_apply]

theorem findByShortAddr_addEntry (h : att.map16toEntry.entries.length < maxAddrTranslationsNo) :
    (fun short => findATTByShortAddr short (addEntry row att).2) =
      Function.update (fun short => findATTByShortAddr short att) row.shortAddress
        (some ⟨att.nextSerial, row⟩) := by
  funext short
  rw [findATTByShortAddr_addEntry short h, Function.update_apply]

theorem AttTable.Consistent.addEntry (h : att.Consistent) (hlong : findATT row.ipv6Addr att = none)
    (hshort : findATTByShortAddr row.shortAddress att = none) : (addEntry row att).2.Consistent := by
  by_cases hfull : att.map16toEntry.entries.length ≥ maxAddrTranslationsNo
  · rwa [addEntry_of_full hfull]
  have hroom := not_le.mp hfull
  have hpaired := h.paired.insert (e := ⟨att.nextSerial, row⟩) hlong hshort
  have htagged := h.tagged.insert (e := ⟨att.nextSerial, row⟩) row.ipv6Addr rfl
  rw [← find_addEntry hroom] at hpaired htagged
  rw [← findByShortAddr_addEntry hroom] at hpaired
  have h16 := length_insert_of_absent hlong ⟨att.nextSerial, row⟩
  have h2 := length_insert_of_absent hshort ⟨att.nextSerial, row⟩
  rw [addEntry_of_room hroom] at hpaired htagged ⊢
  refine ⟨hpaired, htagged.inj, htagged.fresh, ?_, ?_⟩
  · exact h2.trans ((congrArg Nat.succ h.sameLength).trans h16.symm)
  · exact h16.trans_le hroom

/-! ## Setting -/

theorem storeATT_eq (row : AttRow) (att : AttTable) :
    storeATT row att =
      match findATT row.ipv6Addr att, findATTByShortAddr row.shortAddress att with
      | some long, some short =>
        if long.serial = short.serial then (sfcSuccess, att) else (sfcInconsistentContent, att)
      | none, some _ => (sfcInconsistentContent, att)
      | some _, none => addEntry row (delATT row.ipv6Addr att).2
      | none, none => addEntry row att :=
  rfl

theorem storeATT_cases (h : att.Consistent) (row : AttRow) :
    ((storeATT row att) = (sfcSuccess, att) ∧ ∃ entry, entry.row = row ∧ findATT row.ipv6Addr att = some entry ∧
        findATTByShortAddr row.shortAddress att = some entry) ∨
    ((storeATT row att) = (sfcInconsistentContent, att) ∧ ∃ entry,
        findATTByShortAddr row.shortAddress att = some entry ∧ entry.row.ipv6Addr ≠ row.ipv6Addr) ∨
    (storeATT row att = addEntry row (delATT row.ipv6Addr att).2 ∧
        findATTByShortAddr row.shortAddress att = none) := by
  cases hlong : findATT row.ipv6Addr att with
  | none =>
    cases hshort : findATTByShortAddr row.shortAddress att with
    | none =>
      refine Or.inr (Or.inr ⟨?_, rfl⟩)
      rw [delATT_of_absent hlong, storeATT_eq, hlong, hshort]
    | some short =>
      refine Or.inr (Or.inl ⟨?_, short, rfl, ?_⟩)
      · rw [storeATT_eq, hlong, hshort]
      · intro heq
        have hfind := (h.of_short hshort).2
        rw [heq, hlong] at hfind
        cases hfind
  | some long =>
    cases hshort : findATTByShortAddr row.shortAddress att with
    | none =>
      refine Or.inr (Or.inr ⟨?_, rfl⟩)
      rw [storeATT_eq, hlong, hshort]
    | some short =>
      obtain ⟨hback, hfind⟩ := h.of_short hshort
      by_cases hserial : long.serial = short.serial
      · have heq : long = short := h.serialInj _ _ _ _ hlong hfind hserial
        subst heq
        refine Or.inl ⟨?_, long, ?_, rfl, rfl⟩
        · rw [storeATT_eq, hlong, hshort]
          exact if_pos rfl
        · obtain ⟨hkey, -⟩ := h.of_long hlong
          cases hrow : long.row
          cases row
          simp_all
      · refine Or.inr (Or.inl ⟨?_, short, rfl, ?_⟩)
        · rw [storeATT_eq, hlong, hshort]
          exact if_neg hserial
        · intro heq
          rw [heq, hlong] at hfind
          exact hserial (congrArg AttEntry.serial (Option.some.inj hfind))

theorem AttTable.Consistent.storeATT (h : att.Consistent) (row : AttRow) : (storeATT row att).2.Consistent := by
  obtain ⟨heq, -⟩ | ⟨heq, -⟩ | ⟨heq, hshort⟩ := storeATT_cases h row
  · rwa [heq]
  · rwa [heq]
  · rw [heq]
    apply (h.delATT row.ipv6Addr).addEntry
    · rw [findATT_delATT, if_pos rfl]
    · rw [findATTByShortAddr_delATT h, hshort]
      rfl

theorem AttTable.Consistent.setATT (h : att.Consistent) (idx : Ipv6Addr) (row : AttRow) :
    (setATT idx row att).2.Consistent := by
  unfold Isa100Gateway.setATT
  by_cases hidx : idx ≠ row.ipv6Addr
  · rw [if_pos hidx]
    exact (h.delATT idx).storeATT row
  · rw [if_neg hidx]
    exact h.storeATT row

theorem room_after_delATT (h : att.Consistent)
    (hroom : findATT idx att = none → att.map16toEntry.entries.length < maxAddrTranslationsNo) :
    (delATT idx att).2.map16toEntry.entries.length < maxAddrTranslationsNo := by
  by_cases hpresent : findATT idx att = none
  · rw [delATT_of_absent hpresent]
    exact hroom hpresent
  · have hremoved := length_delATT_of_present hpresent
    have hbounded := h.bounded
    omega

theorem storeATT_error_iff (h : att.Consistent)
    (hroom : att.map16toEntry.entries.length < maxAddrTranslationsNo) (row : AttRow) :
    (storeATT row att).1 ≠ sfcSuccess ↔ ∃ entry,
      findATTByShortAddr row.shortAddress att = some entry ∧ entry.row.ipv6Addr ≠ row.ipv6Addr := by
  obtain ⟨heq, entry, hrow, -, hshort⟩ | ⟨heq, hother⟩ | ⟨heq, hshort⟩ := storeATT_cases h row
  · rw [heq]
    refine ⟨fun hne => absurd rfl hne, ?_⟩
    rintro ⟨entry', hshort', hne⟩
    rw [hshort] at hshort'
    rw [← Option.some.inj hshort', hrow] at hne
    exact absurd rfl hne
  · rw [heq]
    exact ⟨fun _ => hother, fun _ => inconsistent_ne_success⟩
  · rw [heq, addEntry_of_room (room_after_delATT h fun _ => hroom)]
    refine ⟨fun hne => absurd rfl hne, ?_⟩
    rintro ⟨entry', hshort', -⟩
    rw [hshort] at hshort'
    cases hshort'

/-- The row-set law for one call of `NLME_setATT`. -/
def AttSetLaw (idx : Ipv6Addr) (row : AttRow) (att : AttTable) : Prop :=
  SetLaw (fun att long => findATT long att) (fun entry => entry.row = row) idx row.ipv6Addr
    ((setATT idx row att).1 = sfcSuccess) att (setATT idx row att).2

/-- When `NLME_setATT` obeys the law: no old row is removed, or the short address of the new row does not belong to a third row. -/
def AttSettable (idx : Ipv6Addr) (row : AttRow) (att : AttTable) : Prop :=
  idx = row.ipv6Addr ∨ findATT idx att = none ∨ ∀ entry, findATTByShortAddr row.shortAddress att = some entry →
      entry.row.ipv6Addr = idx ∨ entry.row.ipv6Addr = row.ipv6Addr

theorem storeATT_law (h : att.Consistent) (row : AttRow) :
    SetLaw (fun att long => findATT long att) (fun entry => entry.row = row) row.ipv6Addr
      row.ipv6Addr ((storeATT row att).1 = sfcSuccess) att (storeATT row att).2 := by
  obtain ⟨heq, entry, hrow, hlong, -⟩ | ⟨heq, -⟩ | ⟨heq, -⟩ := storeATT_cases h row
  · rw [heq]
    refine SetLaw.of_update (r := entry) rfl hrow ?_
    rw [Function.update_idem, ← hlong]
    exact (Function.update_eq_self row.ipv6Addr _).symm
  · rw [heq]
    exact SetLaw.of_unchanged inconsistent_ne_success rfl
  · rw [heq]
    by_cases hroom : (delATT row.ipv6Addr att).2.map16toEntry.entries.length < maxAddrTranslationsNo
    · refine SetLaw.of_update (r := ⟨(delATT row.ipv6Addr att).2.nextSerial, row⟩) ?_ rfl ?_
      · rw [addEntry_of_room hroom]
      · funext long
        rw [findATT_addEntry long hroom, Function.update_apply, findATT_delATT, Function.update_apply]
    · rw [addEntry_of_full (not_lt.mp hroom)]
      have habsent : findATT row.ipv6Addr att = none := by
        by_contra hpresent
        exact hroom (room_after_delATT h fun hnone => absurd hnone hpresent)
      exact SetLaw.of_unchanged insufficient_ne_success (delATT_of_absent habsent)

theorem setATT_law_iff (h : att.Consistent) (idx : Ipv6Addr) (row : AttRow) :
    AttSetLaw idx row att ↔ AttSettable idx row att := by
  unfold AttSetLaw AttSettable setATT
  by_cases hidx : idx ≠ row.ipv6Addr
  · have hstore := storeATT_law (h.delATT idx) row
    have hfind := find_delATT idx att
    rw [if_pos hidx]
    by_cases habsent : findATT idx att = none
    · refine ⟨fun _ => Or.inr (Or.inl habsent), fun _ => ?_⟩
      exact hstore.after_erase hfind fun _ => delATT_of_absent habsent
    · have herror := storeATT_error_iff (h.delATT idx)
        (room_after_delATT h fun hnone => absurd hnone habsent) row
      simp only [findATTByShortAddr_delATT h, Option.filter_eq_some_iff, decide_eq_true_eq] at herror
      by_cases hsuccess : (storeATT row (delATT idx att).2).1 = sfcSuccess
      · refine ⟨fun _ => Or.inr (Or.inr ?_), fun _ => ?_⟩
        · intro entry hshort
          by_contra hother
          rw [not_or] at hother
          exact herror.mpr ⟨entry, ⟨hshort, hother.1⟩, hother.2⟩ hsuccess
        · exact hstore.after_erase hfind fun hfail => absurd hsuccess hfail
      · -- The old row is already gone when the short address turns out to be taken.
        constructor
        · intro hlaw
          have hgone := findATT_delATT idx idx att
          rw [if_pos rfl, ← hstore.unchanged hsuccess, hlaw.unchanged hsuccess] at hgone
          exact absurd hgone habsent
        · rintro (heq | hnone | howner)
          · exact absurd heq hidx
          · exact absurd hnone habsent
          · obtain ⟨entry, ⟨hshort, hne⟩, hne'⟩ := herror.mp hsuccess
            exact absurd (howner entry hshort) (by simp [hne, hne'])
  · rw [if_neg hidx]
    rw [not_ne_iff] at hidx
    exact ⟨fun _ => Or.inl hidx, fun _ => hidx ▸ storeATT_law h row⟩

def AttTable.Yields (att : AttTable) (short : ShortAddr) (long : Ipv6Addr) : Prop :=
  ∃ entry, findATTByShortAddr short att = some entry ∧ entry.row.ipv6Addr = long

theorem yields_storeATT_iff (h : att.Consistent)
    (hroom : att.map16toEntry.entries.length < maxAddrTranslationsNo) (row : AttRow)
    (short : ShortAddr) : (storeATT row att).2.Yields short row.ipv6Addr ↔
      if findATTByShortAddr row.shortAddress att = none then short = row.shortAddress
      else att.Yields short row.ipv6Addr := by
  obtain ⟨heq, entry, -, -, hshort⟩ | ⟨heq, entry, hshort, -⟩ | ⟨heq, hshort⟩ := storeATT_cases h row
  · rw [heq, if_neg (by simp [hshort])]
  · rw [heq, if_neg (by simp [hshort])]
  · rw [heq, if_pos hshort]
    unfold AttTable.Yields
    rw [findATTByShortAddr_addEntry short (room_after_delATT h fun _ => hroom), findATTByShortAddr_delATT h]
    by_cases hown : short = row.shortAddress
    · rw [if_pos hown]
      exact ⟨fun _ => hown, fun _ => ⟨_, rfl, rfl⟩⟩
    · rw [if_neg hown]
      refine ⟨?_, fun heq => absurd heq hown⟩
      rintro ⟨entry, hfind, hlong⟩
      rw [Option.filter_eq_some_iff, decide_eq_true_eq] at hfind
      exact absurd hlong hfind.2

end Att

end Isa100Gateway
