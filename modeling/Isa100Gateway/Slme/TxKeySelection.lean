import Isa100Gateway.Slme.KeyEffects

/-!
# Which key `SLME_FindTxKey` chooses

The lookup takes the first key of the list that is already valid. The list is in the order of `SLME_SetKey`, so this key lasts longest. The lookup does not look at the hard lifetimes: a key whose lifetime is over is gone once `SLME_KeyUpdateTask` has run.
-/

namespace Isa100Gateway

open KeyAction KeyStore List

section Ordered

variable {α : Type*} {R : α → α → Prop} {p : α → Bool} {list : List α} {a : α}

theorem find?_before (hordered : list.Pairwise R) (h : list.find? p = some a) :
    ∀ b ∈ list, p b = true → b = a ∨ R a b := by
  induction list with
  | nil => exact nomatch h
  | cons first list ih =>
    rw [pairwise_cons] at hordered
    cases hfirst : p first with
    | true =>
      rw [find?_cons_of_pos hfirst] at h
      cases h
      intro b hb _
      exact (mem_cons.mp hb).imp_right (hordered.1 b)
    | false =>
      rw [find?_cons_of_neg (by simp [hfirst])] at h
      intro b hb hpb
      cases mem_cons.mp hb with
      | inl heq =>
        rw [heq, hfirst] at hpb
        exact nomatch hpb
      | inr hrest => exact ih hordered.2 h b hrest hpb

end Ordered

section Loop

variable {table : KeyTable} {crtTai : UInt32}

def ValidFrom (crtTai : UInt32) (k : SlmeKey) : Prop := k.validNotBefore ≤ crtTai

instance (k : SlmeKey) : Decidable (ValidFrom crtTai k) := inferInstanceAs (Decidable (_ ≤ _))

def Usable (crtTai : UInt32) (k : SlmeKey) : Prop := ValidFrom crtTai k ∧ crtTai < k.hardLifetime

instance (k : SlmeKey) : Decidable (Usable crtTai k) := inferInstanceAs (Decidable (_ ∧ _))

theorem candidate_eq (k : SlmeKey) (found : Option SlmeKey) :
    candidate crtTai k found = found.or (if ValidFrom crtTai k then some k else none) := by
  cases found with
  | none =>
    simp only [candidate, ValidFrom, Option.isNone_none, true_and, Option.none_or]
    congr
  | some key => simp [candidate]

theorem findTxKeyLoop_fst (list : List SlmeKey) (found : Option SlmeKey) (count : UInt8) :
    (findTxKeyLoop crtTai list found count).1 = found.or (list.find? (ValidFrom crtTai ·)) := by
  induction list generalizing found count with
  | nil => simp [findTxKeyLoop]
  | cons k list ih =>
    have hcandidate : (candidate crtTai k found).or (list.find? (ValidFrom crtTai ·)) =
        found.or ((k :: list).find? (ValidFrom crtTai ·)) := by
      rw [candidate_eq, Option.or_assoc]
      by_cases hvalid : ValidFrom crtTai k
      · simp [hvalid]
      · simp [hvalid]
    by_cases hdone : count + 1 > 1 ∧ (candidate crtTai k found).isSome
    · obtain ⟨key, hkey⟩ := Option.isSome_iff_exists.mp hdone.2
      rw [findTxKeyLoop, if_pos hdone, ← hcandidate, hkey, Option.some_or]
    · rw [findTxKeyLoop, if_neg hdone, ih, hcandidate]

theorem findTxKey_fst (peer : Addr128) (sPort dPort : UInt16) : (findTxKey table peer sPort dPort crtTai).1 =
      (table.keysOf ⟨peer, sPort, dPort⟩).find? (ValidFrom crtTai ·) := by
  have hcat : findKeyCat table (some peer) sPort dPort slmKeyUsageSession = table.lookup ⟨peer, sPort, dPort⟩ := rfl
  cases hfind : table.lookup ⟨peer, sPort, dPort⟩ with
  | none => simp [findTxKey, KeyTable.keysOf, hcat, hfind]
  | some list => simp [findTxKey, KeyTable.keysOf, hcat, hfind, findTxKeyLoop_fst]

end Loop

/-- The result of a search for the key that lasts longest among those of a list that `Fits`. Where a list holds several usages, the least one that fits goes first. -/
structure Chooses (Fits : SlmeKey → Prop) (list : List SlmeKey) (found : Option SlmeKey) : Prop where
  isSome_iff : found.isSome ↔ ∃ k ∈ list, Fits k
  fits : ∀ k ∈ found, k ∈ list ∧ Fits k
  longest : ∀ k ∈ found, ∀ k' ∈ list, Fits k' →
    k.usage < k'.usage ∨ k.usage = k'.usage ∧ k'.hardLifetime ≤ k.hardLifetime

section Choice

variable {s : KeyStore} {cat : KeyCategory} {list : List SlmeKey} {crtTai : UInt32}

theorem SlmeKey.longer_of_goesBefore {a b : SlmeKey} (h : a.goesBefore b = true) :
    a.usage < b.usage ∨ a.usage = b.usage ∧ b.hardLifetime ≤ a.hardLifetime := by
  rw [SlmeKey.goesBefore_iff] at h
  refine h.imp_right fun hsame => ⟨hsame.1, ?_⟩
  cases hsame.2 with
  | inl hlonger => exact UInt32.le_of_lt hlonger
  | inr heq => exact UInt32.le_of_eq heq.1.symm

theorem KeyList.chooses (h : KeyList cat list) (Fits : SlmeKey → Prop) [DecidablePred Fits] :
    Chooses Fits list (list.find? (Fits ·)) where
  isSome_iff := by simp [find?_isSome]
  fits := fun k hk => ⟨mem_of_find?_eq_some hk, by simpa using find?_some hk⟩
  longest := by
    intro k hk k' hk' hfits
    cases find?_before h.ordered hk k' hk' (decide_eq_true hfits) with
    | inl heq => exact Or.inr ⟨by rw [heq], heq ▸ UInt32.le_refl _⟩
    | inr hbefore => exact SlmeKey.longer_of_goesBefore hbefore

theorem KeyStore.WellFiled.keyList_keysOf (h : s.WellFiled) (cat : KeyCategory) :
    KeyList cat (s.keysCatMap.keysOf cat) := by
  cases hfind : s.keysCatMap.lookup cat with
  | none =>
    rw [KeyTable.keysOf, hfind]
    exact ⟨Pairwise.nil, Pairwise.nil, fun _ hk => absurd hk not_mem_nil⟩
  | some list =>
    rw [KeyTable.keysOf, hfind]
    exact h.lists _ (mem_of_lookup hfind)

theorem keysOf_expireCats {table : KeyTable} (hcats : (table.map Prod.fst).Nodup) (keysNo : UInt16) :
    (expireCats crtTai table keysNo).1.keysOf cat =
      (table.keysOf cat).filter fun k => ¬k.hardLifetime ≤ crtTai := by
  induction table generalizing keysNo with
  | nil => rfl
  | cons entry table ih =>
    obtain ⟨c, l⟩ := entry
    rw [map_cons, nodup_cons] at hcats
    simp only [expireCats, expireKeys_eq]
    by_cases hempty : (l.filter fun k => ¬k.hardLifetime ≤ crtTai) = []
    · rw [if_pos hempty, ih hcats.2, keysOf_cons]
      by_cases hcat : cat = c
      · rw [if_pos hcat, hempty, hcat, keysOf_of_notMem hcats.1, filter_nil]
      · rw [if_neg hcat]
    · rw [if_neg hempty, keysOf_cons, keysOf_cons, ih hcats.2]
      by_cases hcat : cat = c
      · rw [if_pos hcat, if_pos hcat]
      · rw [if_neg hcat, if_neg hcat]

theorem KeyStore.WellFiled.keysOf_keyUpdateTask (h : s.WellFiled) :
    (Isa100Gateway.keyUpdateTask s crtTai).keysCatMap.keysOf cat =
      (s.keysCatMap.keysOf cat).filter fun k => ¬k.hardLifetime ≤ crtTai :=
  keysOf_expireCats h.cats _

theorem find?_usable : (list.filter fun k => ¬k.hardLifetime ≤ crtTai).find? (ValidFrom crtTai ·) =
      list.find? (Usable crtTai ·) := by
  rw [find?_filter]
  congr 1
  funext k
  rw [Bool.eq_iff_iff]
  simp only [decide_eq_true_eq, UInt32.not_le]
  exact and_comm

end Choice

def zeroCategory : KeyCategory := ⟨zeroAddr, 0, 0⟩

def KeyStore.SessionsOnly (s : KeyStore) : Prop :=
  ∀ cat ≠ zeroCategory, ∀ k ∈ s.keysCatMap.keysOf cat, k.usage = slmKeyUsageSession

section Sessions

variable {env : DsmoEnv} {s s' : KeyStore} {crtTai : UInt32}

theorem keyCategory_session {peer : Option Addr128} {sPort dPort : UInt16} {usage : UInt8}
    (h : keyCategory peer sPort dPort usage ≠ zeroCategory) : usage = slmKeyUsageSession := by
  by_contra hother
  exact h (by rw [keyCategory, if_neg hother, zeroCategory])

theorem KeyStore.SessionsOnly.of_subset (h : s.SessionsOnly)
    (hsub : ∀ cat, s'.keysCatMap.keysOf cat ⊆ s.keysCatMap.keysOf cat) : s'.SessionsOnly :=
  fun cat hcat k hk => h cat hcat k (hsub cat hk)

theorem KeyStore.SessionsOnly.deleteKey (h : s.SessionsOnly) (peer : Option Addr128) (sPort dPort : UInt16)
    (keyID usage : UInt8) : (Isa100Gateway.deleteKey s peer sPort dPort keyID usage).2.SessionsOnly := by
  apply h.of_subset
  intro cat
  rw [keysOf_deleteKey]
  split
  · exact eraseP_subset
  · exact Subset.refl _

theorem KeyStore.SessionsOnly.setKey (h : s.SessionsOnly) {args : SetKeyArgs} {sfc : UInt8}
    (hset : Isa100Gateway.setKey s args crtTai = some (sfc, s')) : s'.SessionsOnly := by
  have hcleared : (args.cleared s).SessionsOnly := h.deleteKey _ _ _ _ _
  intro cat hcat k hk
  rw [(setKey_effect hset).2] at hk
  split at hk
  · next hnew =>
    cases mem_insertKey.mp hk with
    | inl heq =>
      rw [heq]
      exact keyCategory_session (hnew.1 ▸ hcat)
    | inr hold => exact hcleared cat hcat k hold
  · exact hcleared cat hcat k hk

theorem keysOf_updateJoin (issuer : Eui64) (peer : Addr128) (cat : KeyCategory) :
    (updateJoinSessionsKeys s issuer peer).keysCatMap.keysOf cat =
      (s.keysCatMap.keysOf cat).map (SlmeKey.updateJoin issuer peer) := by
  rw [updateJoinSessionsKeys]
  generalize s.keysCatMap = table
  induction table with
  | nil => rfl
  | cons entry table ih =>
    rw [map_cons, keysOf_cons, keysOf_cons, ih]
    split <;> rfl

theorem KeyStore.SessionsOnly.step {a : KeyAction} (hfiled : s.WellFiled) (h : s.SessionsOnly) :
    (a.step env s).SessionsOnly := by
  cases hrun : a.run env s with
  | none =>
    rw [KeyAction.step, hrun]
    exact h
  | some s' =>
    rw [KeyAction.step, hrun, Option.getD_some]
    obtain rfl | ⟨args, crtTai, sfc, hset⟩ | ⟨peer, sPort, dPort, keyID, usage, rfl⟩ | ⟨issuer, peer, -, rfl⟩ |
      ⟨crtTai, rfl⟩ := run_cases hrun
    · exact h
    · exact h.setKey hset
    · exact h.deleteKey peer sPort dPort keyID usage
    · intro cat hcat k hk
      rw [keysOf_updateJoin] at hk
      obtain ⟨old, hold, rfl⟩ := mem_map.mp hk
      rw [usage_updateJoin]
      exact h cat hcat old hold
    · apply h.of_subset
      intro cat
      rw [hfiled.keysOf_keyUpdateTask]
      exact filter_subset_self _

end Sessions

/-- In every run the lookup takes, of the valid keys of a pair, one that lasts longest, whether its lifetime is over or not; right after `SLME_KeyUpdateTask` it takes one that lasts longest of the keys that are valid and not over. The keys of a pair with a peer are all session keys. -/
theorem findTxKey_chooses {env : DsmoEnv} {s : KeyStore} (h : Machine.Reachable init (fun s a => step env s a)
      (fun s a => Keeps env s a) s) (peer : Addr128) (sPort dPort : UInt16) (crtTai : UInt32) :
    Chooses (ValidFrom crtTai) (s.keysCatMap.keysOf ⟨peer, sPort, dPort⟩)
        (findTxKey s.keysCatMap peer sPort dPort crtTai).1 ∧
      Chooses (Usable crtTai) (s.keysCatMap.keysOf ⟨peer, sPort, dPort⟩)
        (findTxKey (keyUpdateTask s crtTai).keysCatMap peer sPort dPort crtTai).1 ∧
      (⟨peer, sPort, dPort⟩ ≠ zeroCategory →
        ∀ k ∈ s.keysCatMap.keysOf ⟨peer, sPort, dPort⟩, k.usage = slmKeyUsageSession) := by
  have hinit : init.WellFiled ∧ init.SessionsOnly :=
    ⟨wellFiled_init, fun _ _ _ hk => nomatch hk⟩
  obtain ⟨hs, hsessions⟩ := h.invariant (P := fun s => s.WellFiled ∧ s.SessionsOnly) hinit
    fun _ _ hs ha => ⟨hs.1.step ha, hs.2.step hs.1⟩
  have hlist := hs.keyList_keysOf ⟨peer, sPort, dPort⟩
  refine ⟨?_, ?_, hsessions _⟩
  · rw [findTxKey_fst]
    exact hlist.chooses _
  · rw [findTxKey_fst, hs.keysOf_keyUpdateTask, find?_usable]
    exact hlist.chooses _

/-- Of two keys of one pair the one that lasts longer is found. -/
theorem findTxKey_chooses_sample : ∃ s : KeyStore,
    Chooses (ValidFrom 2000) (s.keysCatMap.keysOf ⟨Vector.replicate 16 0x11, 0xF0B0, 0xF0B1⟩)
      (findTxKey s.keysCatMap (Vector.replicate 16 0x11) 0xF0B0 0xF0B1 2000).1 ∧
    (findTxKey s.keysCatMap (Vector.replicate 16 0x11) 0xF0B0 0xF0B1 2000).1.map SlmeKey.keyID = some 1 ∧
    s = Machine.run (fun s a => step sampleDsmoEnv s a) init overlappingKeys := by
  have hok : Machine.Along (fun s a => Keeps sampleDsmoEnv s a)
      (fun s a => step sampleDsmoEnv s a) init overlappingKeys :=
    ⟨⟨by decide, fun _ _ h => nomatch h⟩, ⟨by decide, fun _ _ h => nomatch h⟩, trivial⟩
  exact ⟨_, (findTxKey_chooses (Machine.reachable_run hok) _ _ _ _).1, by decide, rfl⟩

/-- Until the task has run, a key whose hard lifetime is over is taken. -/
theorem findTxKey_takes_over : ∃ k ∈ (findTxKey (Machine.run (fun s a => step sampleDsmoEnv s a) init
        [.set sampleJoinKey 1000]).keysCatMap (Vector.replicate 16 0x11) 0xF0B0 0xF0B1 5000).1,
      k.hardLifetime ≤ 5000 ∧ ∀ k' ∈ (Machine.run (fun s a => step sampleDsmoEnv s a) init
        [.set sampleJoinKey 1000]).keysCatMap.keysOf ⟨Vector.replicate 16 0x11, 0xF0B0, 0xF0B1⟩, ¬Usable 5000 k' := by
  decide

end Isa100Gateway
