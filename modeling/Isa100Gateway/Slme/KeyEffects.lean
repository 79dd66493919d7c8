import Isa100Gateway.Slme.KeyStoreInvariant

/-!
# What the operations do to each category

`keysOf` reads the table as a function from categories to lists. Every operation on the table rewrites the list of one category, but for `SLME_KeyUpdateTask` and `SLME_UpdateJoinSessionsKeys`, which treat all lists alike.
-/

namespace Isa100Gateway

open KeyTable

def KeyTable.keysOf (table : KeyTable) (cat : KeyCategory) : List SlmeKey := (table.lookup cat).getD []

section Table

variable {table : KeyTable} {cat c : KeyCategory} {list : List SlmeKey} {f : List SlmeKey → List SlmeKey}

theorem keysOf_of_lookup (h : table.lookup cat = some list) : table.keysOf cat = list := by
  rw [keysOf, h, Option.getD_some]

theorem keysOf_of_lookup_none (h : table.lookup cat = none) : table.keysOf cat = [] := by
  rw [keysOf, h, Option.getD_none]

theorem keysOf_cons (l : List SlmeKey) (table : KeyTable) :
    keysOf ((c, l) :: table) cat = if cat = c then l else table.keysOf cat := by
  by_cases hcat : cat = c
  · simp [keysOf, hcat]
  · have hbeq : (cat == c) = false := beq_eq_false_iff_ne.mpr hcat
    simp [keysOf, List.lookup_cons, hbeq, hcat]

theorem keysOf_of_notMem (h : cat ∉ table.map Prod.fst) : table.keysOf cat = [] := by
  induction table with
  | nil => rfl
  | cons entry table ih =>
    obtain ⟨first, l⟩ := entry
    simp only [List.map_cons, List.mem_cons, not_or] at h
    rw [keysOf_cons, if_neg h.1, ih h.2]

theorem keysOf_updateCat (hempty : table.lookup cat = none → f [] = []) :
    (table.updateCat cat f).keysOf c = if c = cat then f (table.keysOf cat) else table.keysOf c := by
  induction table with
  | nil =>
    have hnil : keysOf [] cat = [] := rfl
    rw [updateCat, hnil, hempty rfl]
    split <;> rfl
  | cons entry table ih =>
    obtain ⟨first, l⟩ := entry
    by_cases hfirst : first = cat
    · subst hfirst
      rw [updateCat, if_pos rfl, keysOf_cons, keysOf_cons, if_pos rfl]
      by_cases hc : c = first
      · rw [if_pos hc, if_pos hc]
      · rw [if_neg hc, if_neg hc, keysOf_cons, if_neg hc]
    · have hne : cat ≠ first := Ne.symm hfirst
      have hbeq : (cat == first) = false := beq_eq_false_iff_ne.mpr hne
      have hrest := ih fun h => hempty (by simpa [List.lookup_cons, hbeq] using h)
      rw [updateCat, if_neg hfirst, keysOf_cons, keysOf_cons, keysOf_cons, if_neg hne, hrest]
      by_cases hc : c = cat
      · rw [if_neg (hc ▸ hne), if_pos hc, if_pos hc]
      · rw [if_neg hc, if_neg hc]

theorem keysOf_insertCat (h : table.lookup cat = none) : (table.insertCat cat []).keysOf c = table.keysOf c := by
  induction table with
  | nil =>
    rw [insertCat, keysOf_cons]
    split <;> rfl
  | cons entry table ih =>
    obtain ⟨first, l⟩ := entry
    obtain ⟨hne, hrest⟩ : cat ≠ first ∧ table.lookup cat = none := by
      by_cases hcat : cat = first
      · simp [hcat] at h
      · have hbeq : (cat == first) = false := beq_eq_false_iff_ne.mpr hcat
        exact ⟨hcat, by simpa [List.lookup_cons, hbeq] using h⟩
    unfold insertCat
    split_ifs
    · rw [keysOf_cons]
      by_cases hc : c = cat
      · rw [if_pos hc, hc, keysOf_of_lookup_none h]
      · rw [if_neg hc]
    · rw [keysOf_cons, keysOf_cons, ih hrest]
    · rfl

theorem lookup_insertCat : ((table.insertCat cat []).lookup cat).isSome := by
  induction table with
  | nil => simp [insertCat]
  | cons entry table ih =>
    obtain ⟨first, l⟩ := entry
    unfold insertCat
    split_ifs with hbefore hafter
    · simp
    · by_cases hcat : cat = first
      · simp [hcat]
      · have hbeq : (cat == first) = false := beq_eq_false_iff_ne.mpr hcat
        simpa [List.lookup_cons, hbeq] using ih
    · rw [eq_of_not_compareKeyCategory (Bool.eq_false_iff.mpr hbefore) (Bool.eq_false_iff.mpr hafter)]
      simp

end Table

def SetKeyArgs.keyCat (args : SetKeyArgs) : KeyCategory :=
  keyCategory args.peerIPv6Address args.udpSPort args.udpDPort args.usage

def SetKeyArgs.cleared (args : SetKeyArgs) (s : KeyStore) : KeyStore :=
  (deleteKey s args.peerIPv6Address args.udpSPort args.udpDPort args.keyID args.usage).2

section Operations

variable {s s' : KeyStore} {cat : KeyCategory} {crtTai : UInt32}

def SlmeKey.Has (usage keyID : UInt8) (k : SlmeKey) : Prop := k.usage = usage ∧ k.keyID = keyID

instance (usage keyID : UInt8) (k : SlmeKey) : Decidable (k.Has usage keyID) := inferInstanceAs (Decidable (_ ∧ _))

theorem deleteKey_eq (peer : Option Addr128) (sPort dPort : UInt16) (keyID usage : UInt8) :
    deleteKey s peer sPort dPort keyID usage =
      if ∃ k ∈ s.keysCatMap.keysOf (keyCategory peer sPort dPort usage), k.Has usage keyID then
        (sfcSuccess,
          { nSLMEKeysNo := s.nSLMEKeysNo - 1
            keysCatMap := s.keysCatMap.updateCat (keyCategory peer sPort dPort usage)
              (List.eraseP fun k => k.Has usage keyID) })
      else (sfcInvalidElementIndex, s) := by
  unfold deleteKey
  rw [findKeyCat_eq]
  cases hfind : s.keysCatMap.lookup (keyCategory peer sPort dPort usage) with
  | none =>
    rw [keysOf_of_lookup_none hfind]
    simp
  | some list =>
    rw [keysOf_of_lookup hfind]
    have hany : (list.any fun k => k.usage = usage ∧ k.keyID = keyID) = true ↔ ∃ k ∈ list, k.Has usage keyID := by
      simp [SlmeKey.Has]
    by_cases hfound : ∃ k ∈ list, k.Has usage keyID
    · rw [if_pos hfound]
      exact if_pos (hany.mpr hfound)
    · rw [if_neg hfound]
      exact if_neg fun h => hfound (hany.mp h)

theorem keysOf_deleteKey (peer : Option Addr128) (sPort dPort : UInt16) (keyID usage : UInt8) :
    (deleteKey s peer sPort dPort keyID usage).2.keysCatMap.keysOf cat =
      if cat = keyCategory peer sPort dPort usage then
        (s.keysCatMap.keysOf cat).eraseP fun k => k.Has usage keyID
      else s.keysCatMap.keysOf cat := by
  rw [deleteKey_eq]
  by_cases hfound : ∃ k ∈ s.keysCatMap.keysOf (keyCategory peer sPort dPort usage), k.Has usage keyID
  · rw [if_pos hfound]
    refine (keysOf_updateCat fun _ => rfl).trans ?_
    by_cases hcat : cat = keyCategory peer sPort dPort usage
    · rw [if_pos hcat, if_pos hcat, hcat]
    · rw [if_neg hcat, if_neg hcat]
  · rw [if_neg hfound]
    by_cases hcat : cat = keyCategory peer sPort dPort usage
    · rw [if_pos hcat, hcat, List.eraseP_of_forall_not]
      intro k hk hhas
      exact hfound ⟨k, hk, by simpa using hhas⟩
    · rw [if_neg hcat]

theorem setKey_effect {args : SetKeyArgs} {sfc : UInt8} (h : setKey s args crtTai = some (sfc, s')) :
    (sfc = sfcSuccess ↔ (args.cleared s).nSLMEKeysNo.toNat < maxSlmeKeysNo) ∧ ∀ cat, s'.keysCatMap.keysOf cat =
        if cat = args.keyCat ∧ sfc = sfcSuccess then
          insertKey (args.newKey crtTai) ((args.cleared s).keysCatMap.keysOf cat)
        else (args.cleared s).keysCatMap.keysOf cat := by
  unfold setKey at h
  rw [← SetKeyArgs.cleared] at h
  generalize args.cleared s = d at h ⊢
  by_cases hfull : d.nSLMEKeysNo.toNat ≥ maxSlmeKeysNo
  · simp only [if_pos hfull, Option.some.injEq, Prod.mk.injEq] at h
    obtain ⟨rfl, rfl⟩ := h
    have hsfc : sfcInsufficientDeviceResources ≠ sfcSuccess := by decide
    refine ⟨iff_of_false hsfc (by omega), fun cat => ?_⟩
    rw [if_neg fun h => hsfc h.2]
  · have hkeyCat : keyCategory args.peerIPv6Address args.udpSPort args.udpDPort args.usage = args.keyCat := rfl
    simp only [if_neg hfull, findKeyCat_eq, hkeyCat] at h
    have hinsert : ∀ table : KeyTable, (∀ cat, table.keysOf cat = d.keysCatMap.keysOf cat) →
        (table.lookup args.keyCat).isSome → ∀ cat,
          (table.updateCat args.keyCat (insertKey (args.newKey crtTai))).keysOf cat =
          if cat = args.keyCat ∧ sfcSuccess = sfcSuccess then
            insertKey (args.newKey crtTai) (d.keysCatMap.keysOf cat)
          else d.keysCatMap.keysOf cat := by
      intro table hsame hsome cat
      rw [keysOf_updateCat fun hnone => by simp [hnone] at hsome, hsame]
      by_cases hcat : cat = args.keyCat
      · rw [if_pos hcat, if_pos ⟨hcat, rfl⟩, hcat]
      · rw [if_neg hcat, if_neg fun h => hcat h.1, hsame]
    cases hfind : d.keysCatMap.lookup args.keyCat with
    | some list =>
      simp only [hfind, Option.bind_eq_bind, Option.bind_some, Option.some.injEq, Prod.mk.injEq] at h
      obtain ⟨rfl, rfl⟩ := h
      exact ⟨iff_of_true rfl (by omega), hinsert _ (fun _ => rfl) (by rw [hfind]; rfl)⟩
    | none =>
      by_cases hnull : args.usage = slmKeyUsageSession ∧ args.peerIPv6Address = none
      · simp [hfind, insertKeyCat, if_pos hnull] at h
      · simp only [hfind, insertKeyCat, if_neg hnull, hkeyCat, Option.bind_eq_bind, Option.bind_some,
          Option.some.injEq, Prod.mk.injEq] at h
        obtain ⟨rfl, rfl⟩ := h
        exact ⟨iff_of_true rfl (by omega), hinsert _ (fun _ => keysOf_insertCat hfind) lookup_insertCat⟩

end Operations

end Isa100Gateway
