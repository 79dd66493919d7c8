import Isa100Gateway.Lib.Run
import Isa100Gateway.Slme.Dsmo
import Mathlib.Data.List.Perm.Basic

/-!
# The key table over whole runs

Every list is in the order of `SLME_SetKey`, has one key for each usage and key id, and holds the keys of its own category; `g_nSLMEKeysNo` counts them all. `SLME_UpdateJoinSessionsKeys` is the one step that can break this: it changes the peer address inside a key and leaves the key where it is.
-/

namespace Isa100Gateway

open KeyStore Option SlmeKey List

section Order

variable {a b c : SlmeKey}

theorem SlmeKey.goesBefore_iff : a.goesBefore b = true ↔
    a.usage < b.usage ∨ a.usage = b.usage ∧ (b.hardLifetime < a.hardLifetime ∨
      a.hardLifetime = b.hardLifetime ∧ (b.softLifetime < a.softLifetime ∨
        a.softLifetime = b.softLifetime ∧ b.keyID < a.keyID)) := by
  simp only [goesBefore, GT.gt, UInt8.lt_iff_toNat_lt, UInt32.lt_iff_toNat_lt, ← UInt8.toNat_inj, ← UInt32.toNat_inj]
  split_ifs <;> simp only [false_iff, true_iff, decide_eq_true_eq] <;> omega

theorem SlmeKey.goesBefore_trans (hab : a.goesBefore b = true) (hbc : b.goesBefore c = true) :
    a.goesBefore c = true := by
  rw [goesBefore_iff] at hab hbc ⊢
  simp only [UInt8.lt_iff_toNat_lt, UInt32.lt_iff_toNat_lt, ← UInt8.toNat_inj, ← UInt32.toNat_inj] at hab hbc ⊢
  omega

theorem SlmeKey.goesBefore_total (h : ¬(a.usage = b.usage ∧ a.keyID = b.keyID))
    (hab : a.goesBefore b = false) : b.goesBefore a = true := by
  rw [← Bool.not_eq_true, goesBefore_iff] at hab
  rw [goesBefore_iff]
  simp only [UInt8.lt_iff_toNat_lt, UInt32.lt_iff_toNat_lt, ← UInt8.toNat_inj, ← UInt32.toNat_inj] at h hab ⊢
  omega

end Order

structure KeyList (cat : KeyCategory) (list : List SlmeKey) : Prop where
  ordered : list.Pairwise fun a b => a.goesBefore b = true
  distinct : list.Pairwise fun a b => ¬(a.usage = b.usage ∧ a.keyID = b.keyID)
  filed : ∀ k ∈ list, k.category = cat

section List

variable {cat : KeyCategory} {list : List SlmeKey} {new : SlmeKey}

theorem KeyList.sublist {list' : List SlmeKey} (h : KeyList cat list) (hsub : list'.Sublist list) :
    KeyList cat list' :=
  ⟨h.ordered.sublist hsub, h.distinct.sublist hsub, fun k hk => h.filed k (hsub.subset hk)⟩

theorem mem_insertKey {k : SlmeKey} : k ∈ insertKey new list ↔ k = new ∨ k ∈ list := by
  induction list with
  | nil => simp [insertKey]
  | cons first list ih =>
    by_cases hstop : new.goesBefore first = true
    · simp [insertKey, hstop]
    · rw [insertKey, if_neg hstop, mem_cons, ih, mem_cons]
      tauto

theorem length_insertKey : (insertKey new list).length = list.length + 1 := by
  induction list with
  | nil => rfl
  | cons first list ih =>
    by_cases hstop : new.goesBefore first = true
    · simp [insertKey, hstop]
    · rw [insertKey, if_neg hstop, length_cons, ih, length_cons]

theorem keyList_insertKey (h : KeyList cat list) (hcat : new.category = cat)
    (hnew : ∀ k ∈ list, ¬(k.usage = new.usage ∧ k.keyID = new.keyID)) : KeyList cat (insertKey new list) := by
  induction list with
  | nil => exact ⟨pairwise_singleton _ _, pairwise_singleton _ _, by simpa [insertKey] using hcat⟩
  | cons first list ih =>
    obtain ⟨hfirst, hordered⟩ := pairwise_cons.mp h.ordered
    obtain ⟨hdistinct₁, hdistinct⟩ := pairwise_cons.mp h.distinct
    have hfiled : ∀ k ∈ insertKey new (first :: list), k.category = cat := by
      intro k hk
      obtain rfl | hold := mem_insertKey.mp hk
      · exact hcat
      · exact h.filed k hold
    have hne : ∀ k ∈ first :: list, ¬(new.usage = k.usage ∧ new.keyID = k.keyID) := by
      intro k hk hsame
      exact hnew k hk ⟨hsame.1.symm, hsame.2.symm⟩
    by_cases hstop : new.goesBefore first = true
    · rw [insertKey, if_pos hstop] at hfiled ⊢
      refine ⟨pairwise_cons.mpr ⟨?_, h.ordered⟩, pairwise_cons.mpr ⟨hne, h.distinct⟩, hfiled⟩
      intro k hk
      obtain rfl | hrest := mem_cons.mp hk
      · exact hstop
      · exact goesBefore_trans hstop (hfirst k hrest)
    · have hstop' : new.goesBefore first = false := Bool.eq_false_iff.mpr hstop
      have hbefore := goesBefore_total (hne first mem_cons_self) hstop'
      have hrest := ih ⟨hordered, hdistinct, fun k hk => h.filed k (mem_cons_of_mem _ hk)⟩
        fun k hk => hnew k (mem_cons_of_mem _ hk)
      rw [insertKey, if_neg hstop] at hfiled ⊢
      refine ⟨pairwise_cons.mpr ⟨?_, hrest.ordered⟩, pairwise_cons.mpr ⟨?_, hrest.distinct⟩, hfiled⟩
      · intro k hk
        obtain rfl | hold := mem_insertKey.mp hk
        · exact hbefore
        · exact hfirst k hold
      · intro k hk
        obtain rfl | hold := mem_insertKey.mp hk
        · exact hnew first mem_cons_self
        · exact hdistinct₁ k hold

theorem KeyList.not_mem_eraseP (h : KeyList cat list) {usage keyID : UInt8} :
    ∀ k ∈ list.eraseP fun k => k.usage = usage ∧ k.keyID = keyID, ¬(k.usage = usage ∧ k.keyID = keyID) := by
  induction list with
  | nil => simp
  | cons first list ih =>
    obtain ⟨hfirst, hdistinct⟩ := pairwise_cons.mp h.distinct
    intro k hk hsame
    by_cases hhere : first.usage = usage ∧ first.keyID = keyID
    · rw [eraseP_cons_of_pos (by simpa using hhere)] at hk
      exact hfirst k hk ⟨hhere.1.trans hsame.1.symm, hhere.2.trans hsame.2.symm⟩
    · rw [eraseP_cons_of_neg (by simpa using hhere)] at hk
      obtain rfl | hrest := mem_cons.mp hk
      · exact hhere hsame
      · exact ih (h.sublist (sublist_cons_self _ _)) k hrest hsame

end List

section Map

variable {table : KeyTable} {cat : KeyCategory} {list : List SlmeKey} {f : List SlmeKey → List SlmeKey}

theorem eq_of_not_compareKeyCategory {a b : KeyCategory} (hab : compareKeyCategory a b = false)
    (hba : compareKeyCategory b a = false) : a = b := by
  have hdPort : a.udpDPort = b.udpDPort := by
    by_contra hne
    simp only [compareKeyCategory, if_pos hne, if_pos (Ne.symm hne), decide_eq_false_iff_not,
      UInt16.lt_iff_toNat_lt] at hab hba
    exact hne (UInt16.toNat_inj.mp (by omega))
  have hsPort : a.udpSPort = b.udpSPort := by
    by_contra hne
    simp only [compareKeyCategory, hdPort, ne_eq, not_true_eq_false, if_false, if_pos hne, if_pos (Ne.symm hne),
      decide_eq_false_iff_not, UInt16.lt_iff_toNat_lt] at hab hba
    exact hne (UInt16.toNat_inj.mp (by omega))
  simp only [compareKeyCategory, hdPort, hsPort, ne_eq, not_true_eq_false, if_false] at hab hba
  have haddr := Vector.toList_inj.mp (Bytes.eq_of_not_memcmpLess hab hba)
  cases a
  cases b
  simp_all

theorem insertCat_perm (h : table.lookup cat = none) :
    (KeyTable.insertCat cat list table).Perm ((cat, list) :: table) := by
  induction table with
  | nil => exact List.Perm.refl _
  | cons entry table ih =>
    obtain ⟨c, l⟩ := entry
    obtain ⟨hne, hrest⟩ : cat ≠ c ∧ table.lookup cat = none := by
      by_cases hcat : cat = c
      · simp [hcat] at h
      · have hbeq : (cat == c) = false := beq_eq_false_iff_ne.mpr hcat
        exact ⟨hcat, by simpa [lookup_cons, hbeq] using h⟩
    unfold KeyTable.insertCat
    split_ifs with hbefore hafter
    · exact List.Perm.refl _
    · exact ((ih hrest).cons (c, l)).trans (List.Perm.swap _ _ _)
    · exact absurd (eq_of_not_compareKeyCategory (Bool.eq_false_iff.mpr hbefore) (Bool.eq_false_iff.mpr hafter)) hne

theorem map_fst_updateCat : (table.updateCat cat f).map Prod.fst = table.map Prod.fst := by
  induction table with
  | nil => rfl
  | cons entry table ih =>
    obtain ⟨c, l⟩ := entry
    by_cases hc : c = cat
    · simp [KeyTable.updateCat, hc]
    · simp [KeyTable.updateCat, hc, ih]

theorem lookup_updateCat : (table.updateCat cat f).lookup cat = (table.lookup cat).map f := by
  induction table with
  | nil => rfl
  | cons entry table ih =>
    obtain ⟨c, l⟩ := entry
    by_cases hc : c = cat
    · simp [KeyTable.updateCat, hc]
    · have hbeq : (cat == c) = false := beq_eq_false_iff_ne.mpr (Ne.symm hc)
      simp [KeyTable.updateCat, hc, lookup_cons, hbeq, ih]

theorem mem_updateCat {e : KeyCategory × List SlmeKey} (hlookup : table.lookup cat = some list)
    (h : e ∈ table.updateCat cat f) : e = (cat, f list) ∨ e ∈ table := by
  induction table with
  | nil => exact nomatch h
  | cons entry table ih =>
    obtain ⟨c, l⟩ := entry
    by_cases hc : c = cat
    · subst hc
      obtain rfl : l = list := by simpa [lookup_cons] using hlookup
      rw [KeyTable.updateCat, if_pos rfl] at h
      obtain rfl | hrest := mem_cons.mp h
      · exact Or.inl rfl
      · exact Or.inr (mem_cons_of_mem _ hrest)
    · have hbeq : (cat == c) = false := beq_eq_false_iff_ne.mpr (Ne.symm hc)
      rw [KeyTable.updateCat, if_neg hc] at h
      obtain rfl | hrest := mem_cons.mp h
      · exact Or.inr mem_cons_self
      · cases ih (by simpa [lookup_cons, hbeq] using hlookup) hrest with
        | inl hupdated => exact Or.inl hupdated
        | inr hold => exact Or.inr (mem_cons_of_mem _ hold)

theorem perm_keys_updateCat (hlookup : table.lookup cat = some list) :
    (table.keys ++ f list).Perm ((table.updateCat cat f).keys ++ list) := by
  induction table with
  | nil => exact nomatch hlookup
  | cons entry table ih =>
    obtain ⟨c, l⟩ := entry
    by_cases hc : c = cat
    · subst hc
      obtain rfl : l = list := by simpa [lookup_cons] using hlookup
      rw [KeyTable.updateCat, if_pos rfl, KeyTable.keys, KeyTable.keys, flatMap_cons, flatMap_cons, append_assoc]
      exact perm_append_comm.trans (perm_append_comm.append_right l)
    · have hbeq : (cat == c) = false := beq_eq_false_iff_ne.mpr (Ne.symm hc)
      have hrest := ih (by simpa [lookup_cons, hbeq] using hlookup)
      rw [KeyTable.updateCat, if_neg hc, KeyTable.keys, KeyTable.keys, flatMap_cons, flatMap_cons, append_assoc,
        append_assoc]
      exact hrest.append_left l

theorem lookup_of_mem (hcats : (table.map Prod.fst).Nodup) (h : (cat, list) ∈ table) :
    table.lookup cat = some list := by
  induction table with
  | nil => exact nomatch h
  | cons entry table ih =>
    obtain ⟨c, l⟩ := entry
    rw [map_cons, nodup_cons] at hcats
    obtain heq | hrest := mem_cons.mp h
    · cases heq
      simp
    · have hne : cat ≠ c := fun hc => hcats.1 (mem_map.mpr ⟨_, hrest, hc⟩)
      have hbeq : (cat == c) = false := beq_eq_false_iff_ne.mpr hne
      simpa [lookup_cons, hbeq] using ih hcats.2 hrest

theorem mem_of_lookup (h : table.lookup cat = some list) : (cat, list) ∈ table := by
  obtain ⟨before, after, hsplit, -⟩ := lookup_eq_some_iff.mp h
  rw [hsplit]
  exact mem_append_right _ mem_cons_self

theorem length_le_keys (h : (cat, list) ∈ table) : list.length ≤ table.keys.length := by
  have hmem : list ∈ table.map Prod.snd := mem_map_of_mem h
  have hsub := (sublist_flatten_of_mem hmem).length_le
  rwa [← flatMap_def] at hsub

end Map

/-! ## The invariant -/

structure KeyStore.WellFiled (s : KeyStore) : Prop where
  cats : (s.keysCatMap.map Prod.fst).Nodup
  lists : ∀ e ∈ s.keysCatMap, KeyList e.1 e.2
  count : s.nSLMEKeysNo.toNat = s.keysCatMap.keys.length
  bound : s.nSLMEKeysNo.toNat ≤ maxSlmeKeysNo

theorem wellFiled_init : init.WellFiled where
  cats := nodup_nil
  lists := fun _ h => nomatch h
  count := rfl
  bound := Nat.zero_le _

section Steps

variable {s : KeyStore} {peer : Option Addr128} {sPort dPort : UInt16} {keyID usage : UInt8}

theorem findKeyCat_eq (table : KeyTable) :
    findKeyCat table peer sPort dPort usage = table.lookup (keyCategory peer sPort dPort usage) := rfl

variable {list : List SlmeKey} {cat : KeyCategory} {table : KeyTable}

theorem KeyStore.WellFiled.updateCat {f : List SlmeKey → List SlmeKey} (hcats : (table.map Prod.fst).Nodup)
    (hlists : ∀ e ∈ table, KeyList e.1 e.2) (hlookup : table.lookup cat = some list)
    (hlist : KeyList cat (f list)) {keysNo : UInt16}
    (hcount : keysNo.toNat + list.length = table.keys.length + (f list).length)
    (hbound : keysNo.toNat ≤ maxSlmeKeysNo) : WellFiled ⟨keysNo, table.updateCat cat f⟩ where
  cats := by
    rw [map_fst_updateCat]
    exact hcats
  lists := by
    intro e he
    obtain rfl | hold := mem_updateCat hlookup he
    · exact hlist
    · exact hlists e hold
  count := by
    have hlength := (perm_keys_updateCat (f := f) hlookup).length_eq
    rw [length_append, length_append] at hlength
    change keysNo.toNat = (table.updateCat cat f).keys.length
    omega
  bound := hbound

theorem KeyStore.WellFiled.deleteKey (h : s.WellFiled) (peer : Option Addr128) (sPort dPort : UInt16)
    (keyID usage : UInt8) : (Isa100Gateway.deleteKey s peer sPort dPort keyID usage).2.WellFiled := by
  unfold Isa100Gateway.deleteKey
  cases hfind : findKeyCat s.keysCatMap peer sPort dPort usage with
  | none => exact h
  | some list =>
    rw [findKeyCat_eq] at hfind
    have hlist := h.lists _ (mem_of_lookup hfind)
    by_cases hany : (list.any fun k => k.usage = usage ∧ k.keyID = keyID) = true
    · obtain ⟨k, hk, hid⟩ := any_eq_true.mp hany
      have hlength : (list.eraseP fun k => k.usage = usage ∧ k.keyID = keyID).length = list.length - 1 :=
        length_eraseP_of_mem hk (by simpa using hid)
      have hpos := length_pos_of_mem hk
      have htotal := length_le_keys (mem_of_lookup hfind)
      have hdown : (s.nSLMEKeysNo - 1).toNat = s.nSLMEKeysNo.toNat - 1 := by
        rw [UInt16.toNat_sub_of_le]
        · rfl
        · rw [UInt16.le_iff_toNat_le, h.count]
          change 1 ≤ _
          omega
      have hcount := h.count
      have hbound := h.bound
      simp only [hany, if_true]
      apply WellFiled.updateCat h.cats h.lists hfind (hlist.sublist eraseP_sublist)
      · omega
      · omega
    · simp only [hany]
      exact h

theorem KeyStore.WellFiled.not_mem_deleteKey (h : s.WellFiled)
    (hlookup : (Isa100Gateway.deleteKey s peer sPort dPort keyID usage).2.keysCatMap.lookup
      (keyCategory peer sPort dPort usage) = some list) : ∀ k ∈ list, ¬(k.usage = usage ∧ k.keyID = keyID) := by
  unfold Isa100Gateway.deleteKey at hlookup
  cases hfind : findKeyCat s.keysCatMap peer sPort dPort usage with
  | none =>
    rw [hfind] at hlookup
    rw [findKeyCat_eq] at hfind
    exact nomatch hfind.symm.trans hlookup
  | some old =>
    rw [hfind] at hlookup
    rw [findKeyCat_eq] at hfind
    by_cases hany : (old.any fun k => k.usage = usage ∧ k.keyID = keyID) = true
    · simp only [hany, if_true, lookup_updateCat, hfind, map_some, Option.some.injEq] at hlookup
      subst hlookup
      exact (h.lists _ (mem_of_lookup hfind)).not_mem_eraseP
    · simp only [hany] at hlookup
      cases hfind.symm.trans hlookup
      intro k hk hid
      exact hany (any_eq_true.mpr ⟨k, hk, decide_eq_true hid⟩)

theorem category_newKey (args : SetKeyArgs) (crtTai : UInt32) : (args.newKey crtTai).category =
    keyCategory args.peerIPv6Address args.udpSPort args.udpDPort args.usage := by
  by_cases hsession : args.usage = slmKeyUsageSession
  · simp [category, SetKeyArgs.newKey, keyCategory, hsession]
  · simp [category, SetKeyArgs.newKey, keyCategory, hsession]

theorem KeyStore.WellFiled.insertCat (hcats : (table.map Prod.fst).Nodup)
    (hlists : ∀ e ∈ table, KeyList e.1 e.2) (hnone : table.lookup cat = none) :
    ((table.insertCat cat []).map Prod.fst).Nodup ∧ (∀ e ∈ table.insertCat cat [], KeyList e.1 e.2) ∧
      (table.insertCat cat []).lookup cat = some [] ∧
      (table.insertCat cat []).keys.length = table.keys.length := by
  have hperm : (table.insertCat cat []).Perm ((cat, []) :: table) := insertCat_perm hnone
  have hfresh : cat ∉ table.map Prod.fst := by
    intro hmem
    obtain ⟨⟨c, l⟩, he, rfl⟩ := mem_map.mp hmem
    exact nomatch hnone.symm.trans (lookup_of_mem hcats he)
  have hcats' : ((table.insertCat cat []).map Prod.fst).Nodup :=
    ((hperm.map Prod.fst).nodup_iff).mpr (nodup_cons.mpr ⟨hfresh, hcats⟩)
  refine ⟨hcats', ?_, lookup_of_mem hcats' (hperm.mem_iff.mpr mem_cons_self), ?_⟩
  · intro e he
    obtain rfl | hold := mem_cons.mp (hperm.mem_iff.mp he)
    · exact ⟨List.Pairwise.nil, List.Pairwise.nil, fun _ h => nomatch h⟩
    · exact hlists e hold
  · exact (hperm.flatMap_right Prod.snd).length_eq

theorem KeyStore.WellFiled.addKey {new : SlmeKey}
    {keysNo : UInt16} (hcats : (table.map Prod.fst).Nodup) (hlists : ∀ e ∈ table, KeyList e.1 e.2)
    (hcount : keysNo.toNat = table.keys.length) (hroom : keysNo.toNat < maxSlmeKeysNo)
    (hlookup : table.lookup cat = some list) (hcat : new.category = cat)
    (hnew : ∀ k ∈ list, ¬(k.usage = new.usage ∧ k.keyID = new.keyID)) :
    WellFiled ⟨keysNo + 1, table.updateCat cat (insertKey new)⟩ := by
  have hlist := hlists _ (mem_of_lookup hlookup)
  have hlength : (insertKey new list).length = list.length + 1 := length_insertKey
  have hup : (keysNo + 1).toNat = keysNo.toNat + 1 := by
    rw [maxSlmeKeysNo, maxContractNo] at hroom
    rw [UInt16.toNat_add, UInt16.toNat_one]
    omega
  apply WellFiled.updateCat hcats hlists hlookup (keyList_insertKey hlist hcat hnew)
  · omega
  · omega

theorem KeyStore.WellFiled.setKey (h : s.WellFiled) {args : SetKeyArgs} {crtTai : UInt32} {sfc : UInt8}
    {s' : KeyStore} (hset : setKey s args crtTai = some (sfc, s')) : s'.WellFiled := by
  have hdel := h.deleteKey args.peerIPv6Address args.udpSPort args.udpDPort args.keyID args.usage
  have hgone : ∀ list, (Isa100Gateway.deleteKey s args.peerIPv6Address args.udpSPort args.udpDPort args.keyID
      args.usage).2.keysCatMap.lookup (keyCategory args.peerIPv6Address args.udpSPort args.udpDPort args.usage) =
        some list → ∀ k ∈ list, ¬(k.usage = args.usage ∧ k.keyID = args.keyID) :=
    fun list hlookup => h.not_mem_deleteKey hlookup
  unfold Isa100Gateway.setKey at hset
  generalize (Isa100Gateway.deleteKey s args.peerIPv6Address args.udpSPort args.udpDPort args.keyID args.usage).2 = d
    at hdel hgone hset
  by_cases hfull : d.nSLMEKeysNo.toNat ≥ maxSlmeKeysNo
  · simp only [if_pos hfull, Option.some.injEq, Prod.mk.injEq] at hset
    rw [← hset.2]
    exact hdel
  · simp only [if_neg hfull, findKeyCat_eq] at hset
    have hroom := Nat.lt_of_not_ge hfull
    cases hfind : d.keysCatMap.lookup
        (keyCategory args.peerIPv6Address args.udpSPort args.udpDPort args.usage) with
    | some list =>
      simp only [hfind, bind_eq_bind, bind_some, Option.some.injEq, Prod.mk.injEq] at hset
      rw [← hset.2]
      exact WellFiled.addKey hdel.cats hdel.lists hdel.count hroom hfind (category_newKey args crtTai)
        (hgone list hfind)
    | none =>
      obtain ⟨hcats, hlists, hlookup, hlength⟩ := WellFiled.insertCat hdel.cats hdel.lists hfind
      by_cases hnull : args.usage = slmKeyUsageSession ∧ args.peerIPv6Address = none
      · simp [hfind, insertKeyCat, if_pos hnull] at hset
      · simp only [hfind, insertKeyCat, if_neg hnull, bind_eq_bind, bind_some, Option.some.injEq,
          Prod.mk.injEq] at hset
        rw [← hset.2]
        exact WellFiled.addKey hcats hlists (hdel.count.trans hlength.symm) hroom hlookup
          (category_newKey args crtTai) fun _ hk => nomatch hk

/-! ### Expiry -/

theorem expireKeys_eq (crtTai : UInt32) (list : List SlmeKey) (keysNo : UInt16) : expireKeys crtTai list keysNo =
      (list.filter fun k => ¬k.hardLifetime ≤ crtTai,
        keysNo - UInt16.ofNat (list.countP fun k => k.hardLifetime ≤ crtTai)) := by
  induction list generalizing keysNo with
  | nil => simp [expireKeys]
  | cons k list ih =>
    by_cases hover : k.hardLifetime ≤ crtTai
    · have hsub : keysNo - 1 - UInt16.ofNat (list.countP fun k => k.hardLifetime ≤ crtTai) =
          keysNo - UInt16.ofNat (list.countP (fun k => k.hardLifetime ≤ crtTai) + 1) := by
        have hone : UInt16.ofNat 1 = 1 := rfl
        rw [UInt16.ofNat_add, hone]
        grind
      rw [expireKeys, if_pos hover, ih, filter_cons_of_neg (by simpa using hover),
        countP_cons_of_pos (by simpa using hover), hsub]
    · rw [expireKeys, if_neg hover, ih, filter_cons_of_pos (by simpa using hover),
        countP_cons_of_neg (by simpa using hover)]

theorem expireCats_eq (crtTai : UInt32) (table : KeyTable) (keysNo : UInt16) : expireCats crtTai table keysNo =
      ((table.map fun e => (e.1, e.2.filter fun k => ¬k.hardLifetime ≤ crtTai)).filter fun e => e.2 ≠ [],
        keysNo - UInt16.ofNat (table.keys.countP fun k => k.hardLifetime ≤ crtTai)) := by
  induction table generalizing keysNo with
  | nil => simp [expireCats, KeyTable.keys]
  | cons entry table ih =>
    obtain ⟨c, l⟩ := entry
    have hsub : ∀ a b : Nat, keysNo - UInt16.ofNat a - UInt16.ofNat b = keysNo - UInt16.ofNat (a + b) := by
      intro a b
      rw [UInt16.ofNat_add]
      grind
    have hkeys : KeyTable.keys ((c, l) :: table) = l ++ KeyTable.keys table := flatMap_cons
    simp only [expireCats, expireKeys_eq, ih, hkeys, countP_append, hsub, map_cons]
    by_cases hempty : (l.filter fun k => ¬k.hardLifetime ≤ crtTai) = []
    · rw [if_pos hempty, filter_cons_of_neg (by simpa using hempty)]
    · rw [if_neg hempty, filter_cons_of_pos (by simpa using hempty)]

theorem keys_filter_nonempty (table : KeyTable) : KeyTable.keys (table.filter fun e => e.2 ≠ []) = table.keys := by
  induction table with
  | nil => rfl
  | cons entry table ih =>
    obtain ⟨c, l⟩ := entry
    by_cases hempty : l = []
    · rw [filter_cons_of_neg (by simpa using hempty), ih, hempty]
      rfl
    · rw [filter_cons_of_pos (by simpa using hempty)]
      exact congrArg (l ++ ·) ih

theorem KeyStore.WellFiled.keyUpdateTask (h : s.WellFiled) (crtTai : UInt32) :
    (keyUpdateTask s crtTai).WellFiled := by
  have hkeys : KeyTable.keys ((s.keysCatMap.map fun e =>
      (e.1, e.2.filter fun k => ¬k.hardLifetime ≤ crtTai)).filter fun e => e.2 ≠ []) =
        s.keysCatMap.keys.filter fun k => ¬k.hardLifetime ≤ crtTai := by
    rw [keys_filter_nonempty, KeyTable.keys, KeyTable.keys, flatMap_map, filter_flatMap]
  have hcount := h.count
  have hbound := h.bound
  have hsplit : s.keysCatMap.keys.length = s.keysCatMap.keys.countP (fun k => k.hardLifetime ≤ crtTai) +
      (s.keysCatMap.keys.filter fun k => ¬k.hardLifetime ≤ crtTai).length := by
    rw [length_eq_countP_add_countP fun k => k.hardLifetime ≤ crtTai, ← countP_eq_length_filter]
    simp only [decide_eq_true_eq]
  have hleft : (s.nSLMEKeysNo - UInt16.ofNat (s.keysCatMap.keys.countP fun k => k.hardLifetime ≤ crtTai)).toNat =
      (s.keysCatMap.keys.filter fun k => ¬k.hardLifetime ≤ crtTai).length := by
    have hsize := s.nSLMEKeysNo.toNat_lt
    rw [UInt16.toNat_sub, UInt16.toNat_ofNat']
    omega
  unfold Isa100Gateway.keyUpdateTask
  rw [expireCats_eq]
  refine ⟨?_, ?_, ?_, ?_⟩
  · have hfst : (s.keysCatMap.map fun e => (e.1, e.2.filter fun k => ¬k.hardLifetime ≤ crtTai)).map Prod.fst =
        s.keysCatMap.map Prod.fst := by
      rw [List.map_map]
      rfl
    exact (hfst ▸ h.cats).sublist (filter_sublist.map Prod.fst)
  · intro e he
    obtain ⟨old, hold, rfl⟩ := mem_map.mp (mem_of_mem_filter he)
    exact (h.lists old hold).sublist filter_sublist
  · change (_ - _ : UInt16).toNat = (KeyTable.keys _).length
    rw [hkeys, hleft]
  · change (_ - _ : UInt16).toNat ≤ _
    rw [hleft]
    omega

/-! ### `DSMO_Execute` -/

section Dsmo

variable {env : DsmoEnv} {req : ExecReqSrvc Memory} {keyTai rspTai : UInt32} {msgIncrement : UInt8}
  {out : DsmoOutcome}

theorem executeNewKey_store (h : executeNewKey env s req keyTai rspTai msgIncrement = some out) :
    out.store = s ∨ ∃ args sfc, setKey s args keyTai = some (sfc, out.store) := by
  unfold executeNewKey at h
  extract_lets mem usage size static at h
  by_cases hshort : req.len.toNat < size
  · rw [if_pos hshort] at h
    exact Or.inl (by rw [← Option.some.inj h]; rfl)
  rw [if_neg hshort] at h
  cases hmaster : getNonSessionKey s (mem (static + 2)) slmKeyUsageMaster with
  | none =>
    rw [hmaster] at h
    exact Or.inl (by rw [← Option.some.inj h]; rfl)
  | some master =>
    simp only [hmaster] at h
    by_cases hlevel : securityCtrlEncMic32 ≠ mem (static + 1) &&& (secLevelMask ||| secKeyIdModeMask)
    · rw [if_pos hlevel] at h
      exact Or.inl (by rw [← Option.some.inj h]; rfl)
    rw [if_neg hlevel] at h
    rename_i nonce
    cases hplain : env.aes.decrypt master.key nonce (mem.bytes 0 (size - 20)) (mem.bytes (size - 20) 20) with
    | none =>
      rw [hplain] at h
      exact Or.inl (by rw [← Option.some.inj h]; rfl)
    | some material =>
      simp only [hplain, bind_eq_bind] at h
      obtain ⟨⟨sfc, store⟩, hset, hout⟩ := bind_eq_some_iff.mp h
      right
      exact ⟨_, sfc, by rw [hset, ← Option.some.inj hout]⟩

theorem executeDeleteKey_store (h : executeDeleteKey env s req = out) : out.store = s ∨
      ∃ peer sPort dPort keyID usage, out.store = (Isa100Gateway.deleteKey s peer sPort dPort keyID usage).2 := by
  subst h
  unfold executeDeleteKey
  extract_lets mem session size
  by_cases hshort : req.len.toNat < size
  · rw [if_pos hshort]
    exact Or.inl rfl
  rw [if_neg hshort]
  by_cases hauth : ¬authenticated env s mem size
  · rw [if_pos hauth]
    exact Or.inl rfl
  rw [if_neg hauth]
  right
  by_cases hsession : session
  · simp only [if_pos hsession]
    exact ⟨_, _, _, _, _, rfl⟩
  · simp only [if_neg hsession]
    exact ⟨_, _, _, _, _, rfl⟩

theorem dsmoExecute_store (h : dsmoExecute env s req keyTai rspTai msgIncrement = some out) :
    out.store = s ∨ (∃ args sfc, setKey s args keyTai = some (sfc, out.store)) ∨
      ∃ peer sPort dPort keyID usage, out.store = (Isa100Gateway.deleteKey s peer sPort dPort keyID usage).2 := by
  unfold dsmoExecute at h
  split_ifs at h with hnew hdelete hpolicy
  · cases executeNewKey_store h with
    | inl hsame => exact Or.inl hsame
    | inr hset => exact Or.inr (Or.inl hset)
  · cases executeDeleteKey_store (Option.some.inj h) with
    | inl hsame => exact Or.inl hsame
    | inr hdel => exact Or.inr (Or.inr hdel)
  · left
    rw [← Option.some.inj h, executeKeyPolicyUpdate]
    split_ifs <;> rfl
  · exact Or.inl (by rw [← Option.some.inj h]; rfl)

end Dsmo

/-! ### `SLME_UpdateJoinSessionsKeys` -/

section Join

variable {issuer : Eui64} {address : Addr128}

/-- The session keys of the table all have the address that is about to be written into them. -/
def KeyStore.AtHome (s : KeyStore) (address : Addr128) : Prop :=
  ∀ k ∈ s.keysCatMap.keys, k.usage = slmKeyUsageSession → k.peerIPv6Address = address

instance (address : Addr128) : Decidable (s.AtHome address) := by
  unfold AtHome
  infer_instance

theorem goesBefore_updateJoin (a b : SlmeKey) :
    (a.updateJoin issuer address).goesBefore (b.updateJoin issuer address) = a.goesBefore b := by
  have hsame : ∀ k : SlmeKey, (k.updateJoin issuer address).usage = k.usage ∧
      (k.updateJoin issuer address).hardLifetime = k.hardLifetime ∧
      (k.updateJoin issuer address).softLifetime = k.softLifetime ∧
      (k.updateJoin issuer address).keyID = k.keyID := by
    intro k
    unfold updateJoin
    split_ifs <;> exact ⟨rfl, rfl, rfl, rfl⟩
  simp only [goesBefore, hsame]

theorem keyID_updateJoin (k : SlmeKey) : (k.updateJoin issuer address).keyID = k.keyID := by
  unfold updateJoin
  split_ifs <;> rfl

theorem usage_updateJoin (k : SlmeKey) : (k.updateJoin issuer address).usage = k.usage := by
  unfold updateJoin
  split_ifs <;> rfl

theorem category_updateJoin {k : SlmeKey} : (k.updateJoin issuer address).category = k.category ↔
      (k.usage = slmKeyUsageSession → k.peerIPv6Address = address) := by
  unfold updateJoin
  by_cases hsession : k.usage = slmKeyUsageSession
  · simp only [hsession, category, KeyCategory.mk.injEq, and_true, if_true, forall_const]
    exact eq_comm
  · simp [hsession]

theorem KeyStore.WellFiled.updateJoin_iff (h : s.WellFiled) :
    (updateJoinSessionsKeys s issuer address).WellFiled ↔ s.AtHome address := by
  have hmem : ∀ k, k ∈ s.keysCatMap.keys ↔ ∃ e ∈ s.keysCatMap, k ∈ e.2 := by
    intro k
    rw [KeyTable.keys, mem_flatMap]
  constructor
  · intro h' k hk hsession
    obtain ⟨e, he, hke⟩ := (hmem k).mp hk
    have he' : (e.1, e.2.map (SlmeKey.updateJoin issuer address)) ∈
        (updateJoinSessionsKeys s issuer address).keysCatMap := mem_map_of_mem he
    have hfiled := (h'.lists _ he').filed _ (mem_map_of_mem hke)
    exact category_updateJoin.mp (hfiled.trans ((h.lists e he).filed k hke).symm) hsession
  · intro hhome
    refine ⟨?_, ?_, ?_, h.bound⟩
    · have hfst : (updateJoinSessionsKeys s issuer address).keysCatMap.map Prod.fst =
          s.keysCatMap.map Prod.fst := by
        rw [updateJoinSessionsKeys, List.map_map]
        rfl
      rw [hfst]
      exact h.cats
    · intro e he
      obtain ⟨old, hold, rfl⟩ := mem_map.mp he
      have hlist := h.lists old hold
      refine ⟨?_, ?_, ?_⟩
      · apply pairwise_map.mpr
        exact hlist.ordered.imp fun hab => (goesBefore_updateJoin _ _).trans hab
      · apply pairwise_map.mpr
        refine hlist.distinct.imp fun hab => ?_
        rw [usage_updateJoin, usage_updateJoin, keyID_updateJoin, keyID_updateJoin]
        exact hab
      · intro k hk
        obtain ⟨before, hbefore, rfl⟩ := mem_map.mp hk
        rw [category_updateJoin.mpr (hhome before ((hmem before).mpr ⟨old, hold, hbefore⟩))]
        exact hlist.filed before hbefore
    · have hlength : (updateJoinSessionsKeys s issuer address).keysCatMap.keys.length =
          s.keysCatMap.keys.length := by
        simp [updateJoinSessionsKeys, KeyTable.keys, flatMap_map, length_flatMap]
      rw [hlength]
      exact h.count

end Join

end Steps

inductive KeyAction where
  | set (args : SetKeyArgs) (crtTai : UInt32)
  | delete (peer : Option Addr128) (sPort dPort : UInt16) (keyID usage : UInt8)
  | execute (req : ExecReqSrvc Memory) (keyTai rspTai : UInt32) (msgIncrement : UInt8)
  | updateJoin (issuer : Eui64) (peer : Addr128)
  | updateTask (crtTai : UInt32)

def KeyAction.run (env : DsmoEnv) (s : KeyStore) : KeyAction → Option KeyStore
  | .set args crtTai => (setKey s args crtTai).map Prod.snd
  | .delete peer sPort dPort keyID usage => some (deleteKey s peer sPort dPort keyID usage).2
  | .execute req keyTai rspTai msgIncrement =>
    (dsmoExecute env s req keyTai rspTai msgIncrement).map DsmoOutcome.store
  | .updateJoin issuer peer => some (updateJoinSessionsKeys s issuer peer)
  | .updateTask crtTai => some (keyUpdateTask s crtTai)

def KeyAction.step (env : DsmoEnv) (s : KeyStore) (a : KeyAction) : KeyStore := (a.run env s).getD s

/-- An action with defined behaviour that, if it is a join update, finds every session key under the address it writes. -/
def KeyAction.Keeps (env : DsmoEnv) (s : KeyStore) (a : KeyAction) : Prop :=
  (a.run env s).isSome ∧ ∀ issuer peer, a = .updateJoin issuer peer → s.AtHome peer

theorem KeyAction.run_cases {env : DsmoEnv} {s s' : KeyStore} {a : KeyAction} (hrun : a.run env s = some s') :
    s' = s ∨ (∃ args crtTai sfc, setKey s args crtTai = some (sfc, s')) ∨
      (∃ peer sPort dPort keyID usage, s' = (deleteKey s peer sPort dPort keyID usage).2) ∨
      (∃ issuer peer, a = .updateJoin issuer peer ∧ s' = updateJoinSessionsKeys s issuer peer) ∨
      ∃ crtTai, s' = keyUpdateTask s crtTai := by
  cases a with
  | set args crtTai =>
    obtain ⟨⟨sfc, store⟩, hset, rfl⟩ := map_eq_some_iff.mp hrun
    exact .inr (.inl ⟨args, crtTai, sfc, hset⟩)
  | delete peer sPort dPort keyID usage =>
    exact .inr (.inr (.inl ⟨peer, sPort, dPort, keyID, usage, (Option.some.inj hrun).symm⟩))
  | execute req keyTai rspTai msgIncrement =>
    obtain ⟨out, hout, rfl⟩ := map_eq_some_iff.mp hrun
    obtain hsame | ⟨args, sfc, hset⟩ | hdel := dsmoExecute_store hout
    · exact .inl hsame
    · exact .inr (.inl ⟨args, keyTai, sfc, hset⟩)
    · exact .inr (.inr (.inl hdel))
  | updateJoin issuer peer =>
    exact .inr (.inr (.inr (.inl ⟨issuer, peer, rfl, (Option.some.inj hrun).symm⟩)))
  | updateTask crtTai =>
    exact .inr (.inr (.inr (.inr ⟨crtTai, (Option.some.inj hrun).symm⟩)))

theorem KeyStore.WellFiled.step {env : DsmoEnv} {s : KeyStore} {a : KeyAction} (h : s.WellFiled)
    (ha : a.Keeps env s) : (a.step env s).WellFiled := by
  obtain ⟨s', hrun⟩ := isSome_iff_exists.mp ha.1
  rw [KeyAction.step, hrun, getD_some]
  obtain rfl | ⟨args, crtTai, sfc, hset⟩ | ⟨peer, sPort, dPort, keyID, usage, rfl⟩ | ⟨issuer, peer, hjoin, rfl⟩ |
    ⟨crtTai, rfl⟩ := KeyAction.run_cases hrun
  · exact h
  · exact h.setKey hset
  · exact h.deleteKey peer sPort dPort keyID usage
  · exact h.updateJoin_iff.mpr (ha.2 issuer peer hjoin)
  · exact h.keyUpdateTask crtTai

/-- The key table is in order after every run in which each join update writes the address that the session keys already have; and a join update that does not breaks it. -/
theorem keyStore_wellFiled {env : DsmoEnv} {s : KeyStore}
    (h : Machine.Reachable init (fun s a => KeyAction.step env s a)
      (fun s a => KeyAction.Keeps env s a) s) :
    s.WellFiled ∧ ∀ issuer peer, (updateJoinSessionsKeys s issuer peer).WellFiled ↔ s.AtHome peer := by
  have hs : s.WellFiled := h.invariant wellFiled_init fun _ _ hs ha => hs.step ha
  exact ⟨hs, fun _ _ => hs.updateJoin_iff⟩

def sampleDsmoEnv : DsmoEnv where
  aes := rijndaelCcm
  secManagerEUI64BE := Vector.replicate 8 1
  eui64BE := Vector.replicate 8 2

def sampleJoinKey : SetKeyArgs where
  peerIPv6Address := some (Vector.replicate 16 0x11)
  udpSPort := 0xF0B0
  udpDPort := 0xF0B1
  keyID := 0
  key := Vector.replicate 16 0x55
  issuerEUI64 := none
  validNotBefore := 0
  softLifetime := 1800
  hardLifetime := 3600
  usage := slmKeyUsageSession
  policy := 0

def sampleIssuer : Eui64 := Vector.replicate 8 3

/-- Two keys of one pair, of which the later one lasts longer. -/
def overlappingKeys : List KeyAction :=
  [.set sampleJoinKey 1000, .set { sampleJoinKey with keyID := 1, hardLifetime := 7200 } 1500]

/-- The join update leaves both keys where they are, the task deletes the first one. -/
theorem keyStore_wellFiled_sample : ∃ s : KeyStore, s.WellFiled ∧ s.keysCatMap.keys.map SlmeKey.keyID = [1] ∧
    s = Machine.run (fun s a => KeyAction.step sampleDsmoEnv s a) init
      (overlappingKeys ++ [.updateJoin sampleIssuer (Vector.replicate 16 0x11), .updateTask 5000]) := by
  have hjoin : KeyAction.Keeps sampleDsmoEnv (Machine.run (fun s a => KeyAction.step sampleDsmoEnv s a) init
      overlappingKeys) (.updateJoin sampleIssuer (Vector.replicate 16 0x11)) := by
    refine ⟨rfl, ?_⟩
    intro issuer peer h
    cases h
    decide
  have hok : Machine.Along (fun s a => KeyAction.Keeps sampleDsmoEnv s a)
      (fun s a => KeyAction.step sampleDsmoEnv s a) init
      (overlappingKeys ++ [.updateJoin sampleIssuer (Vector.replicate 16 0x11), .updateTask 5000]) :=
    ⟨⟨by decide, fun _ _ h => nomatch h⟩, ⟨by decide, fun _ _ h => nomatch h⟩, hjoin,
      ⟨rfl, fun _ _ h => nomatch h⟩, trivial⟩
  exact ⟨_, (keyStore_wellFiled (Machine.reachable_run hok)).1, by decide, rfl⟩

/-- The answer to the join names another address: the key stays under the old one, and is not found under the new one. -/
theorem updateJoin_moves_key : ¬ WellFiled (Machine.run (fun s a => KeyAction.step sampleDsmoEnv s a) init
      [.set sampleJoinKey 1000, .updateJoin sampleIssuer (Vector.replicate 16 0x22)]) ∧
    findKey (Machine.run (fun s a => KeyAction.step sampleDsmoEnv s a) init
        [.set sampleJoinKey 1000, .updateJoin sampleIssuer (Vector.replicate 16 0x22)]).keysCatMap
      (some (Vector.replicate 16 0x22)) 0xF0B0 0xF0B1 0 slmKeyUsageSession = none := by
  constructor
  · intro h
    have hmoved : ∃ e ∈ (Machine.run (fun s a => KeyAction.step sampleDsmoEnv s a) init
        [.set sampleJoinKey 1000, .updateJoin sampleIssuer (Vector.replicate 16 0x22)]).keysCatMap,
        ∃ k ∈ e.2, k.category ≠ e.1 := by decide
    obtain ⟨e, he, k, hk, hne⟩ := hmoved
    exact hne ((h.lists e he).filed k hk)
  · decide

end Isa100Gateway
