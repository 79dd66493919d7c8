import Isa100Gateway.Asl.QueueFacts

/-!
# No silent loss

A request that expects a response stays in the transmit queue until it is matched or its owner is notified, and exactly one of the two happens. Two branches of the source erase an entry without a word.
-/

namespace Isa100Gateway

open Machine AslState List TxMsg

/-- The events that settle the entry `uid`: it was matched, or its owner was notified. -/
def AslEvent.settles (uid : Nat) : AslEvent → Bool
  | .matched u => u == uid
  | .dataTimeout u .. => u == uid
  | .queued _ | .tldeDataRequest .. => false

def settledCount (log : List AslEvent) (uid : Nat) : Nat := log.countP (AslEvent.settles uid)

def AslEvent.addressedTo (m : TxMsg) : AslEvent → Prop
  | .dataTimeout _ appHandle srcSAP dstSAP _ =>
    appHandle = m.appHandle ∧ srcSAP = m.srcSAP ∧ dstSAP = m.dstSAP
  | .matched _ | .queued _ | .tldeDataRequest .. => True

/-- Every request that expects a response was settled once, or still waits in the queue and was never settled; and what settles a request is addressed to its owner. -/
structure NoSilentLoss (st : AslState) : Prop where
  settled : ∀ m, .queued m ∈ st.shared.log → m.justWaitsTLCnf = false → settledCount st.shared.log m.uid = 1 ∨
    settledCount st.shared.log m.uid = 0 ∧ ∃ m' ∈ st.queue, m'.uid = m.uid ∧ m'.status ≠ .readyToClear
  owner : ∀ m, .queued m ∈ st.shared.log → ∀ e ∈ st.shared.log, e.settles m.uid = true → e.addressedTo m

/-- The invariant behind `NoSilentLoss`: entries are told apart by their uid, and an entry that was not cleared was not settled. -/
structure Delivered (log : List AslEvent) (nextUid : Nat) (queue : List TxMsg) : Prop where
  settled : ∀ m, .queued m ∈ log → m.justWaitsTLCnf = false → settledCount log m.uid = 1 ∨
    settledCount log m.uid = 0 ∧ ∃ m' ∈ queue, m'.core = m.core ∧ m'.status ≠ .readyToClear
  owner : ∀ m, .queued m ∈ log → ∀ e ∈ log, e.settles m.uid = true → e.addressedTo m
  pending : ∀ m ∈ queue, m.justWaitsTLCnf = false → m.status ≠ .readyToClear → settledCount log m.uid = 0
  distinct : (queue.map uid).Nodup
  origin : ∀ m ∈ queue, ∀ m₀, .queued m₀ ∈ log → m₀.uid = m.uid → m.core = m₀.core
  queueFresh : ∀ m ∈ queue, m.uid < nextUid
  logFresh : ∀ m, .queued m ∈ log → m.uid < nextUid
  countFresh : ∀ uid, nextUid ≤ uid → settledCount log uid = 0
  wellFormed : ∀ m ∈ queue, m.WellFormed

theorem uid_of_core {m m' : TxMsg} (h : m'.core = m.core) : m'.uid = m.uid :=
  congrArg (fun core => core.1) h

theorem addressedTo_of_core {m m' : TxMsg} (h : m'.core = m.core) {e : AslEvent}
    (he : e.addressedTo m') : e.addressedTo m := by
  obtain ⟨-, -, -, -, -, -, -, hhandle, hsrc, hdst⟩ :
      _ ∧ _ ∧ _ ∧ _ ∧ _ ∧ _ ∧ _ ∧ _ ∧ _ ∧ _ := by
    simpa [core] using h
  cases e with
  | dataTimeout uid appHandle srcSAP dstSAP sfc =>
    simpa [AslEvent.addressedTo, hhandle, hsrc, hdst] using he
  | queued _ => trivial
  | matched _ => trivial
  | tldeDataRequest _ _ _ _ _ _ _ => trivial

theorem settledCount_cons (e : AslEvent) (log : List AslEvent) (uid : Nat) :
    settledCount (e :: log) uid = settledCount log uid + if e.settles uid then 1 else 0 :=
  countP_cons

section Rules

variable {log : List AslEvent} {nextUid : Nat} {queue done rest : List TxMsg} {m : TxMsg}
  {m' : Option TxMsg}

theorem nodup_visit (hm' : ∀ x ∈ m', x.core = m.core) (h : ((done ++ m :: rest).map uid).Nodup) :
    ((done ++ m'.toList ++ rest).map uid).Nodup := by
  have hsub : ((done ++ m'.toList ++ rest).map uid).Sublist
      ((done ++ m :: rest).map uid) := by
    cases m' with
    | none => simp
    | some x => simp [uid_of_core (hm' x rfl)]
  exact h.sublist hsub

theorem uid_ne_of_nodup (h : ((done ++ m :: rest).map uid).Nodup) {x : TxMsg}
    (hx : x ∈ done ∨ x ∈ rest) : x.uid ≠ m.uid := by
  rw [map_append, map_cons, nodup_middle, nodup_cons] at h
  intro heq
  apply h.1
  rw [← heq, ← map_append]
  exact mem_map_of_mem (mem_append.2 hx)

theorem Delivered.eq_visited (h : Delivered log nextUid (done ++ m :: rest)) {x : TxMsg}
    (hx : x ∈ done ++ m :: rest) (huid : x.uid = m.uid) : x = m := by
  have hx' : x ∈ done ∨ x = m ∨ x ∈ rest := by simpa using hx
  by_contra hne
  exact uid_ne_of_nodup h.distinct (by tauto) huid

theorem Delivered.settled_visit {log' : List AslEvent} (hm' : ∀ x ∈ m', x.core = m.core)
    (hcount : ∀ uid, uid ≠ m.uid → settledCount log' uid = settledCount log uid)
    (hsettled : m.justWaitsTLCnf = false →
      settledCount log m.uid = 1 ∨ settledCount log m.uid = 0 ∧ m.status ≠ .readyToClear →
      settledCount log' m.uid = 1 ∨ settledCount log' m.uid = 0 ∧ ∃ x ∈ m', x.status ≠ .readyToClear)
    (h : Delivered log nextUid (done ++ m :: rest)) {m₀ : TxMsg} (hm₀ : .queued m₀ ∈ log)
    (hexpects : m₀.justWaitsTLCnf = false) : settledCount log' m₀.uid = 1 ∨ settledCount log' m₀.uid = 0 ∧
      ∃ x ∈ done ++ m'.toList ++ rest, x.core = m₀.core ∧ x.status ≠ .readyToClear := by
  by_cases huid : m₀.uid = m.uid
  · have hcore := h.origin m (by simp) m₀ hm₀ huid
    have hbefore : settledCount log m.uid = 1 ∨
        settledCount log m.uid = 0 ∧ m.status ≠ .readyToClear := by
      rw [← huid]
      rcases h.settled m₀ hm₀ hexpects with hone | ⟨hzero, x, hx, hx_core, hclear⟩
      · exact Or.inl hone
      · have hx_eq := h.eq_visited hx ((uid_of_core hx_core).trans huid)
        exact Or.inr ⟨hzero, hx_eq ▸ hclear⟩
    rw [huid]
    rcases hsettled (by rw [justWaitsTLCnf_of_core hcore]; exact hexpects) hbefore with
      hone | ⟨hzero, x, hx, hclear⟩
    · exact Or.inl hone
    · exact Or.inr ⟨hzero, x, mem_visited.2 (Or.inl hx), (hm' x hx).trans hcore, hclear⟩
  · rw [hcount _ huid]
    rcases h.settled m₀ hm₀ hexpects with hone | ⟨hzero, x, hx, hcore, hclear⟩
    · exact Or.inl hone
    · have hx' : x ∈ done ∨ x = m ∨ x ∈ rest := by simpa using hx
      have hne : x ≠ m := by
        rintro rfl
        exact huid (uid_of_core hcore).symm
      exact Or.inr ⟨hzero, x, mem_visited.2 (Or.inr (by tauto)), hcore, hclear⟩

theorem Delivered.visit {log' : List AslEvent} (hm' : ∀ x ∈ m', x.core = m.core ∧ x.WellFormed)
    (hlog : ∀ e ∈ log', e ∈ log ∨
      (∀ m₀, e ≠ .queued m₀) ∧ e.addressedTo m ∧ ∀ uid, e.settles uid = true → uid = m.uid)
    (hcount : ∀ uid, uid ≠ m.uid → settledCount log' uid = settledCount log uid)
    (hsettled : m.justWaitsTLCnf = false →
      settledCount log m.uid = 1 ∨ settledCount log m.uid = 0 ∧ m.status ≠ .readyToClear →
      settledCount log' m.uid = 1 ∨ settledCount log' m.uid = 0 ∧ ∃ x ∈ m', x.status ≠ .readyToClear)
    (hkept : ∀ x ∈ m', m.justWaitsTLCnf = false → x.status ≠ .readyToClear → settledCount log' m.uid = 0)
    (h : Delivered log nextUid (done ++ m :: rest)) : Delivered log' nextUid (done ++ m'.toList ++ rest) := by
  have hmem : m ∈ done ++ m :: rest := by simp
  have hcore := fun x hx => (hm' x hx).1
  have hqueued : ∀ m₀, .queued m₀ ∈ log' → .queued m₀ ∈ log := by
    intro m₀ hm₀
    exact (hlog _ hm₀).resolve_right fun hnew => hnew.1 m₀ rfl
  refine ⟨?_, ?_, ?_, nodup_visit hcore h.distinct, ?_, ?_, ?_, ?_, ?_⟩
  · exact fun m₀ hm₀ => h.settled_visit hcore hcount hsettled (hqueued m₀ hm₀)
  · intro m₀ hm₀ e he hsettles
    rcases hlog e he with he | ⟨_, hto, honly⟩
    · exact h.owner m₀ (hqueued m₀ hm₀) e he hsettles
    · exact addressedTo_of_core (h.origin m hmem m₀ (hqueued m₀ hm₀) (honly _ hsettles)) hto
  · intro x hx hexpects hclear
    rcases mem_visited.1 hx with hx | hx
    · rw [uid_of_core (hcore x hx)]
      exact hkept x hx (by rwa [← justWaitsTLCnf_of_core (hcore x hx)]) hclear
    · rw [hcount _ (uid_ne_of_nodup h.distinct hx)]
      exact h.pending x (mem_of_unvisited hx) hexpects hclear
  · intro x hx m₀ hm₀ huid
    rcases mem_visited.1 hx with hx | hx
    · have horigin := h.origin m hmem m₀ (hqueued m₀ hm₀)
      exact (hcore x hx).trans (horigin (huid.trans (uid_of_core (hcore x hx))))
    · exact h.origin x (mem_of_unvisited hx) m₀ (hqueued m₀ hm₀) huid
  · intro x hx
    rcases mem_visited.1 hx with hx | hx
    · rw [uid_of_core (hcore x hx)]
      exact h.queueFresh m hmem
    · exact h.queueFresh x (mem_of_unvisited hx)
  · exact fun m₀ hm₀ => h.logFresh m₀ (hqueued m₀ hm₀)
  · intro uid huid
    have := h.queueFresh m hmem
    rw [hcount uid (by omega)]
    exact h.countFresh uid huid
  · intro x hx
    rcases mem_visited.1 hx with hx | hx
    · exact (hm' x hx).2
    · exact h.wellFormed x (mem_of_unvisited hx)

theorem Delivered.replace (hm' : ∀ x ∈ m', x.core = m.core ∧ x.WellFormed)
    (hkept : ∀ x ∈ m', x.status ≠ .readyToClear → m.status ≠ .readyToClear)
    (hleft : m.justWaitsTLCnf = false → m.status ≠ .readyToClear → ∃ x ∈ m', x.status ≠ .readyToClear)
    (h : Delivered log nextUid (done ++ m :: rest)) : Delivered log nextUid (done ++ m'.toList ++ rest) := by
  apply h.visit hm' (fun _ he => Or.inl he) (fun _ _ => rfl)
  · rintro hexpects (hone | ⟨hzero, hclear⟩)
    · exact Or.inl hone
    · exact Or.inr ⟨hzero, hleft hexpects hclear⟩
  · intro x hx hexpects hclear
    exact h.pending m (by simp) hexpects (hkept x hx hclear)

theorem Delivered.settle {e : AslEvent} (he : ∀ uid, e.settles uid = (m.uid == uid)) (hto : e.addressedTo m)
    (hm' : ∀ x ∈ m', x.core = m.core ∧ x.WellFormed ∧ x.status = .readyToClear)
    (hclear : m.status ≠ .readyToClear) (h : Delivered log nextUid (done ++ m :: rest)) :
    Delivered (e :: log) nextUid (done ++ m'.toList ++ rest) := by
  have hevent : ∀ m₀, e ≠ .queued m₀ := by
    rintro m₀ rfl
    have := he m.uid
    simp [AslEvent.settles] at this
  apply h.visit (fun x hx => ⟨(hm' x hx).1, (hm' x hx).2.1⟩)
  · intro e' he'
    rcases mem_cons.1 he' with rfl | he'
    · refine Or.inr ⟨hevent, hto, ?_⟩
      intro uid huid
      rw [he] at huid
      exact (eq_of_beq huid).symm
    · exact Or.inl he'
  · intro uid huid
    rw [settledCount_cons, he]
    simp [huid.symm]
  · rintro hexpects -
    left
    rw [settledCount_cons, he, h.pending m (by simp) hexpects hclear]
    simp
  · intro x hx _ hx_clear
    exact absurd (hm' x hx).2.2 hx_clear

theorem Delivered.event {e : AslEvent} (he : ∀ uid, e.settles uid = false)
    (hevent : ∀ m₀, e ≠ .queued m₀) (h : Delivered log nextUid queue) : Delivered (e :: log) nextUid queue := by
  have hcount : ∀ uid, settledCount (e :: log) uid = settledCount log uid := by
    intro uid
    rw [settledCount_cons, he]
    simp
  have hqueued : ∀ m₀, .queued m₀ ∈ e :: log → .queued m₀ ∈ log := by
    intro m₀ hm₀
    rcases mem_cons.1 hm₀ with heq | hm₀
    · exact absurd heq.symm (hevent m₀)
    · exact hm₀
  refine ⟨?_, ?_, ?_, h.distinct, ?_, h.queueFresh, ?_, ?_, h.wellFormed⟩
  · intro m₀ hm₀
    rw [hcount]
    exact h.settled m₀ (hqueued m₀ hm₀)
  · intro m₀ hm₀ e' he' hsettles
    rcases mem_cons.1 he' with rfl | he'
    · rw [he] at hsettles
      cases hsettles
    · exact h.owner m₀ (hqueued m₀ hm₀) e' he' hsettles
  · intro x hx
    rw [hcount]
    exact h.pending x hx
  · exact fun x hx m₀ hm₀ => h.origin x hx m₀ (hqueued m₀ hm₀)
  · exact fun m₀ hm₀ => h.logFresh m₀ (hqueued m₀ hm₀)
  · intro uid huid
    rw [hcount]
    exact h.countFresh uid huid

theorem Delivered.enqueue {m : TxMsg} (huid : m.uid = nextUid) (hwf : m.WellFormed)
    (hclear : m.status ≠ .readyToClear) (h : Delivered log nextUid queue) :
    Delivered (.queued m :: log) (nextUid + 1) (queue ++ [m]) := by
  have hcount : ∀ uid, settledCount (.queued m :: log) uid = settledCount log uid := by
    intro uid
    rw [settledCount_cons]
    rfl
  have hqueued : ∀ m₀, .queued m₀ ∈ AslEvent.queued m :: log → m₀ = m ∨ .queued m₀ ∈ log := by
    intro m₀ hm₀
    simpa using hm₀
  have hmem : ∀ x, x ∈ queue ++ [m] → x ∈ queue ∨ x = m := by
    intro x hx
    simpa using hx
  refine ⟨?_, ?_, ?_, ?_, ?_, ?_, ?_, ?_, ?_⟩
  · intro m₀ hm₀ hexpects
    rw [hcount]
    rcases hqueued m₀ hm₀ with rfl | hm₀
    · exact Or.inr ⟨h.countFresh _ huid.ge, m₀, by simp, rfl, hclear⟩
    · rcases h.settled m₀ hm₀ hexpects with hone | ⟨hzero, x, hx, hx'⟩
      · exact Or.inl hone
      · exact Or.inr ⟨hzero, x, mem_append_left _ hx, hx'⟩
  · intro m₀ hm₀ e he hsettles
    rcases mem_cons.1 he with rfl | hold
    · cases hsettles
    · rcases hqueued m₀ hm₀ with rfl | hm₀
      -- nothing in the log is about the id of the new entry
      · have hnever := countP_eq_zero.1 (h.countFresh _ huid.ge)
        exact absurd hsettles (hnever e hold)
      · exact h.owner m₀ hm₀ e hold hsettles
  · intro x hx hexpects hx_clear
    rw [hcount]
    rcases hmem x hx with hx | rfl
    · exact h.pending x hx hexpects hx_clear
    · exact h.countFresh _ huid.ge
  · rw [map_append, nodup_append]
    refine ⟨h.distinct, by simp, ?_⟩
    intro uid hin uid' hin' heq
    obtain ⟨x, hx, rfl⟩ := mem_map.1 hin
    have := h.queueFresh x hx
    have hlast : uid' = m.uid := by simpa using hin'
    omega
  · intro x hx m₀ hm₀ heq
    rcases hmem x hx with hold | rfl
    · rcases hqueued m₀ hm₀ with rfl | hm₀
      · have := h.queueFresh x hold
        omega
      · exact h.origin x hold m₀ hm₀ heq
    · rcases hqueued m₀ hm₀ with rfl | hm₀
      · rfl
      · have := h.logFresh m₀ hm₀
        omega
  · intro x hx
    rcases hmem x hx with hx | rfl
    · have := h.queueFresh x hx
      omega
    · omega
  · intro m₀ hm₀
    rcases hqueued m₀ hm₀ with rfl | hm₀
    · omega
    · have := h.logFresh m₀ hm₀
      omega
  · intro uid hle
    rw [hcount]
    exact h.countFresh uid (by omega)
  · intro x hx
    rcases hmem x hx with hx | rfl
    · exact h.wellFormed x hx
    · exact hwf

end Rules

section Visits

variable {sh : Shared} {log : List AslEvent} {nextUid : Nat} {done rest : List TxMsg} {m : TxMsg}

theorem Delivered.sameEntry {m' : TxMsg} (hsame : m.SameEntry m') (h : Delivered log nextUid (done ++ m :: rest)) :
    Delivered log nextUid (done ++ m' :: rest) := by
  have hwf := (h.wellFormed m (by simp)).congr hsame.core hsame.marked hsame.status
  have hkeep : ∀ x ∈ some m', x.core = m.core ∧ x.WellFormed := by
    rintro x ⟨⟩
    exact ⟨hsame.core, hwf⟩
  have := h.replace hkeep
    (by
      rintro x ⟨⟩ hclear
      rwa [hsame.status] at hclear)
    (fun _ hclear => ⟨m', rfl, by rwa [hsame.status]⟩)
  simpa using this

theorem Delivered.keep {m' : TxMsg} (hcore : m'.core = m.core) (hwf : m'.WellFormed)
    (hbefore : m.status ≠ .readyToClear) (hafter : m'.status ≠ .readyToClear)
    (h : Delivered log nextUid (done ++ m :: rest)) : Delivered log nextUid (done ++ m' :: rest) := by
  have hkeep : ∀ x ∈ some m', x.core = m.core ∧ x.WellFormed := by
    rintro x ⟨⟩
    exact ⟨hcore, hwf⟩
  have := h.replace hkeep (fun _ _ _ => hbefore) (fun _ _ => ⟨m', rfl, hafter⟩)
  simpa using this

theorem Delivered.giveUp (hclear : m.status ≠ .readyToClear) (h : Delivered sh.log nextUid (done ++ m :: rest)) :
    Delivered (sh.giveUp m).1.log nextUid (done ++ (sh.giveUp m).2 :: rest) := by
  have hwf := (h.wellFormed m (by simp)).clear
  have hcleared : ∀ x ∈ some { m with status := .readyToClear },
      x.core = m.core ∧ x.WellFormed ∧ x.status = .readyToClear := by
    rintro x ⟨⟩
    exact ⟨rfl, hwf, rfl⟩
  have hsettled := h.settle (e := .dataTimeout m.uid m.appHandle m.srcSAP m.dstSAP sfcTimeout)
    (fun _ => rfl) ⟨rfl, rfl, rfl⟩ hcleared hclear
  simpa [Shared.giveUp] using hsettled

theorem Delivered.timeoutVisit (h : Delivered sh.log nextUid (done ++ m :: rest)) :
    Delivered (timeoutVisit sh m).1.log nextUid
      (done ++ (timeoutVisit sh m).2.toList ++ rest) := by
  obtain ⟨m', hvisit, hm'⟩ := timeoutVisit_rule
    (P := fun sh m => Delivered sh.log nextUid (done ++ m :: rest))
    (fun _ _ _ hsame h => h.sameEntry hsame)
    (fun _ _ hclear h => h.giveUp hclear)
    (fun _ _ h => by simpa using h)
    (fun _ m m' hclear hre h => h.keep hre.core
      ((h.wellFormed m (by simp)).setStatus hre.core hre.marked (by simp [hre.status])
        (by simp [hre.status]))
      hclear (by simp [hre.status])) h
  rw [hvisit]
  simpa using hm'

theorem not_clear_of_readyToSend (h : m.ReadyToSend) : m.status ≠ .readyToClear := by
  rcases h with hstatus | hstatus <;> simp [hstatus]

theorem Delivered.searchVisit {tvNow : TimeVal} {best : Option ApduIdtfTx}
    (h : Delivered sh.log nextUid (done ++ m :: rest)) : Delivered (searchVisit tvNow (sh, best) m).1.1.log nextUid
      (done ++ (searchVisit tvNow (sh, best) m).2.toList ++ rest) := by
  rcases searchVisit_cases tvNow sh best m with ⟨hready, _, heq⟩ | ⟨best', heq⟩ | ⟨best', _, heq⟩
  · rw [heq]
    exact h.settle (fun _ => rfl) ⟨rfl, rfl, rfl⟩ (by rintro x ⟨⟩)
      (not_clear_of_readyToSend hready)
  · rw [heq]
    simpa using h
  · rw [heq]
    simpa using h

theorem Delivered.responseVisit {now : UInt32} {key : ResponseKey} {found : Option TxMsg}
    (h : Delivered sh.log nextUid (done ++ m :: rest)) :
    Delivered (responseVisit now key (sh, found) m).1.1.log nextUid
      (done ++ (responseVisit now key (sh, found) m).2.toList ++ rest) := by
  rcases responseVisit_cases now key sh found m with heq | ⟨_, horiginal, heq⟩
  · rw [heq]
    simpa using h
  · rw [heq]
    have hwf := (h.wellFormed m (by simp)).clear
    apply h.settle (e := .matched m.uid) (fun _ => rfl) trivial _ horiginal.2.1
    rintro x ⟨⟩
    exact ⟨rfl, hwf, rfl⟩

def ConfirmDelivers (queue : List TxMsg) (conf : ApduConfirm) : Prop :=
  conf.confirmStatus = sfcNoContract → ∀ m ∈ queue, m.AwaitsConfirm conf → m.justWaitsTLCnf = true

instance (queue : List TxMsg) (conf : ApduConfirm) : Decidable (ConfirmDelivers queue conf) :=
  inferInstanceAs (Decidable (_ → _))

theorem not_clear_of_awaitsConfirm {conf : ApduConfirm} (h : m.AwaitsConfirm conf) : m.status ≠ .readyToClear := by
  rcases h.1 with hstatus | hstatus <;> simp [hstatus]

theorem Delivered.erase (hjust : m.justWaitsTLCnf = true)
    (h : Delivered log nextUid (done ++ m :: rest)) : Delivered log nextUid (done ++ rest) := by
  have hnone : ∀ x ∈ (none : Option TxMsg), x.core = m.core ∧ x.WellFormed := by
    rintro x ⟨⟩
  have := h.replace hnone (by rintro x ⟨⟩)
    (by
      intro hexpects
      rw [hjust] at hexpects
      cases hexpects)
  simpa using this

theorem Delivered.confirmQueue {queue : List TxMsg} {conf : ApduConfirm}
    (hok : ConfirmDelivers queue conf) (h : Delivered log nextUid queue) :
    Delivered log nextUid (confirmQueue queue conf) := by
  have hdelivers : ∀ m ∈ queue, conf.confirmStatus = sfcNoContract → m.AwaitsConfirm conf → m.justWaitsTLCnf = true :=
    fun m hm hno => hok hno m hm
  apply filterMap_invariant (P := Delivered log nextUid) _ queue [] hdelivers h
  intro done m rest hok h
  have hwf := h.wellFormed m (by simp)
  rcases confirmMsg_cases conf m with heq | ⟨hawaits, heq | heq | ⟨hjust, heq⟩ | ⟨hno, heq⟩⟩
  · rw [heq]
    simpa using h
  · rw [heq]
    have hsame : m.SameEntry { m with timeout := 2 } := ⟨rfl, rfl, rfl, rfl⟩
    simpa using h.sameEntry hsame
  · rw [heq]
    have hconfirmed : WellFormed { m with status := .confirmedWaitRsp } :=
      hwf.setStatus rfl rfl (by simp) (by simp)
    have hcore : core { m with status := .confirmedWaitRsp } = m.core := rfl
    simpa using h.keep hcore hconfirmed (not_clear_of_awaitsConfirm hawaits) (by simp)
  · rw [heq]
    simpa using h.erase (hwf.justWaits hjust)
  · rw [heq]
    simpa using h.erase (hok hno hawaits)

def ConcatDelivers (contractId : UInt16) (room : Int) (s : Contract × List UInt8) (m : TxMsg) : Prop :=
  m.ReadyToSend → contractId = m.contractId →
    ¬ (m.apduLen.toNat : Int) ≤ room - s.2.length → s.2 = [] → m.justWaitsTLCnf = true

instance (contractId : UInt16) (room : Int) (s : Contract × List UInt8) (m : TxMsg) :
    Decidable (ConcatDelivers contractId room s m) := inferInstanceAs (Decidable (_ → _))

theorem Delivered.concatVisit {id : UInt16} {room : Int} {handle : UInt8} {now : UInt32}
    {c : Contract} {out : List UInt8} (hok : ConcatDelivers id room (c, out) m)
    (h : Delivered log nextUid (done ++ m :: rest)) : Delivered log nextUid
      (done ++ (concatVisit id room handle now (c, out) m).2.toList ++ rest) := by
  have hwf := h.wellFormed m (by simp)
  rcases concatVisit_cases id room handle now c out m with heq | ⟨hready, hid, hcase⟩
  · rw [heq]
    simpa using h
  have hclear := not_clear_of_readyToSend hready
  rcases hcase with ⟨_, _, _, heq⟩ | ⟨_, hstatus, _, heq⟩ | ⟨_, _, heq⟩ | ⟨hfits, hempty, heq⟩
  · rw [heq]
    simpa using h
  · rw [heq]
    have hsent := WellFormed.sent (m := { m with inSlidingWindow := true }) handle now
      fun _ => hwf.expects (Or.inl hstatus)
    have hcore : ({ m with inSlidingWindow := true }.sent handle now).core = m.core := rfl
    simpa using h.keep hcore hsent hclear (status_sent_ne _ handle now).2
  · rw [heq]
    have hsent := WellFormed.sent handle now fun hmarked => hwf.expects (Or.inr hmarked)
    simpa using h.keep (core_sent m handle now) hsent hclear (status_sent_ne m handle now).2
  · rw [heq]
    have hjust := hok hready hid hfits hempty
    apply h.replace
    · rintro x ⟨⟩
      exact ⟨rfl, hwf.clear⟩
    · rintro x ⟨⟩ hx
      exact absurd rfl hx
    · intro hexpects
      rw [hjust] at hexpects
      cases hexpects

end Visits

section Steps

variable {st : AslState}

def AslState.Delivered (st : AslState) : Prop :=
  Isa100Gateway.Delivered st.shared.log st.nextUid st.queue

theorem delivered_performOneSecondOperations (h : st.Delivered) : (performOneSecondOperations st).Delivered := by
  have htimeouts := pass_invariant_all
    (P := fun (sh : Shared) queue => Delivered sh.log st.nextUid queue)
    (fun _ _ _ _ h => h.timeoutVisit) h
  apply filter_invariant
    (P := Delivered (pass timeoutVisit st.shared st.queue).1.log st.nextUid) _ htimeouts
  intro done m rest hremoved h
  have hclear : m.status = .readyToClear := by simpa using hremoved
  have hrest : Delivered (pass timeoutVisit st.shared st.queue).1.log st.nextUid
      (done ++ (none : Option TxMsg).toList ++ rest) := by
    apply h.replace
    · rintro x ⟨⟩
    · rintro x ⟨⟩
    · intro _ hne
      exact absurd hclear hne
  simpa using hrest

theorem delivered_checkTLConfirms (hok : Along ConfirmDelivers confirmQueue st.queue st.conf)
    (h : st.Delivered) : (checkTLConfirms st).Delivered :=
  run_invariant (P := Delivered st.shared.log st.nextUid) (fun _ _ h hok => h.confirmQueue hok) h
    hok

theorem delivered_searchStep (tvNow : TimeVal) (h : st.Delivered) : (searchStep tvNow st).1.Delivered := by
  apply pass_invariant_all (s := (st.shared, none))
    (P := fun (s : Shared × Option ApduIdtfTx) queue => Delivered s.1.log st.nextUid queue) _ h
  rintro ⟨sh, best⟩ done m rest h
  exact h.searchVisit

def FlushDelivers (tvNow : TimeVal) (now : UInt32) (st : AslState) : Prop :=
  ∀ idtf ∈ (searchStep tvNow st).2,
    ∀ c ∈ (searchStep tvNow st).1.shared.contracts.lookup idtf.contractId,
      PassAll (ConcatDelivers idtf.contractId c.tsduRoom)
        (concatVisit idtf.contractId c.tsduRoom st.handle now) (c, []) (searchStep tvNow st).1.queue

instance (tvNow : TimeVal) (now : UInt32) (st : AslState) :
    Decidable (FlushDelivers tvNow now st) := inferInstanceAs (Decidable (∀ _ ∈ _, _))

theorem delivered_sendConcatenated {tvNow : TimeVal} {now : UInt32} {idtf : ApduIdtfTx}
    {c : Contract} (hok : PassAll (ConcatDelivers idtf.contractId c.tsduRoom)
      (concatVisit idtf.contractId c.tsduRoom st.handle now) (c, []) st.queue)
    (h : st.Delivered) : (sendConcatenated tvNow now idtf c st).Delivered := by
  have hwalk := pass_invariant
    (P := fun (_ : Contract × List UInt8) queue => Delivered st.shared.log st.nextUid queue)
    (fun _ _ _ _ hok h => h.concatVisit hok) st.queue [] (c, []) hok h
  exact hwalk.event (fun _ => rfl) (fun _ heq => by cases heq)

theorem delivered_flushAPDUBuffer {tvNow : TimeVal} {now : UInt32}
    (hok : FlushDelivers tvNow now st) (h : st.Delivered) : (flushAPDUBuffer tvNow now st).Delivered := by
  have hsearch := delivered_searchStep tvNow h
  exact flushAPDUBuffer_rule hsearch fun idtf c hfound hlook =>
    delivered_sendConcatenated (hok idtf hfound c hlook) hsearch

theorem delivered_addGenericObject (cfg : RetrySettings) (req : AddRequest) (h : st.Delivered) :
    (addGenericObject cfg req st).2.Delivered := by
  rcases addGenericObject_cases cfg req st with heq | ⟨c, hlook, heq | ⟨apdu, hset, heq⟩⟩
  · rw [heq]
    exact h
  · rw [heq]
    exact h
  · rw [heq]
    apply Delivered.enqueue rfl (wellFormed_newTxMsg cfg req c st.nextUid hset) _ h
    by_cases hflow : req.obj.flowControlled = true ∧ req.noRspExpected = 0 <;>
      simp [newTxMsg, hflow]

theorem AslState.Delivered.sameQueue {st' : AslState} (hsame : st.SameQueue st')
    (h : st.Delivered) : st'.Delivered := by
  change Isa100Gateway.Delivered st'.shared.log st'.nextUid st'.queue
  rw [hsame.log, hsame.nextUid, hsame.queue]
  exact h

/-- The steps that lose nothing: no request that expects a response is erased by a confirm or dropped by the concatenation. -/
def Delivers (st : AslState) : AslAction → Prop
  | .aslTask tvNow now =>
    Along ConfirmDelivers confirmQueue st.queue st.conf ∧ FlushDelivers tvNow now (checkTLConfirms st)
  | .addGenericObject .. | .dataConfirm _ | .response .. | .oneSecond | .setContract ..
  | .addDmoContract .. | .deleteContract _ => True

instance (st : AslState) : ∀ a, Decidable (Delivers st a)
  | .aslTask .. => inferInstanceAs (Decidable (_ ∧ _))
  | .addGenericObject .. | .dataConfirm _ | .response .. | .oneSecond | .setContract ..
  | .addDmoContract .. | .deleteContract _ => isTrue trivial

theorem delivered_aslStep (a : AslAction) (h : st.Delivered) (hok : Delivers st a) : (aslStep st a).Delivered := by
  cases a with
  | addGenericObject cfg req => exact delivered_addGenericObject cfg req h
  | aslTask tvNow now =>
    exact delivered_flushAPDUBuffer hok.2 (delivered_checkTLConfirms hok.1 h)
  | dataConfirm conf =>
    obtain ⟨confs, heq⟩ := dataConfirm_eq st conf
    change (dataConfirm st conf).Delivered
    rw [heq]
    exact h
  | response now key =>
    apply pass_invariant_all (s := (st.shared, none))
      (P := fun (s : Shared × Option TxMsg) queue => Delivered s.1.log st.nextUid queue) _ h
    rintro ⟨sh, found⟩ done m rest h
    exact h.responseVisit
  | oneSecond => exact delivered_performOneSecondOperations h
  | setContract ownAddress random req => exact h.sameQueue (sameQueue_setContract _ _ _ st)
  | addDmoContract random unset dmo => exact h.sameQueue (sameQueue_addDmoContract _ _ _ st)
  | deleteContract id => exact h

end Steps

/-- No request is lost silently in any run whose steps deliver. -/
theorem noSilentLoss_of_reachable {st : AslState} (h : Reachable init aslStep Delivers st) : NoSilentLoss st := by
  have hinit : init.Delivered := by
    refine ⟨?_, ?_, ?_, ?_, ?_, ?_, ?_, ?_, ?_⟩ <;> simp [init, settledCount]
  have hinv := h.invariant hinit fun st a h hok => delivered_aslStep a h hok
  refine ⟨?_, hinv.owner⟩
  intro m hm hexpects
  rcases hinv.settled m hm hexpects with hone | ⟨hzero, x, hx, hcore, hclear⟩
  · exact Or.inl hone
  · exact Or.inr ⟨hzero, x, hx, uid_of_core hcore, hclear⟩

/-- A request is sent, confirmed and answered. -/
theorem noSilentLoss_of_reachable_answered : NoSilentLoss (run aslStep init
      [.setContract sampleOwnAddress 9 (sampleSetContract 1 2),
        .addGenericObject sampleRetries (sampleRequest 1 sampleReadReq), .aslTask ⟨100, 0⟩ 100,
        .dataConfirm ⟨0, sfcSuccess⟩, .aslTask ⟨101, 0⟩ 101,
        .response 102 sampleReadRspKey, .oneSecond]) :=
  noSilentLoss_of_reachable (reachable_run (by decide +kernel))

/-- The transport layer confirms that there is no contract, and the request is gone. -/
theorem noContractConfirm_silentLoss : ∃ st, Reachable init aslStep (fun _ _ => True) st ∧ ¬ NoSilentLoss st := by
  let actions : List AslAction :=
    [.setContract sampleOwnAddress 9 (sampleSetContract 1 1),
      .addGenericObject sampleRetries (sampleRequest 1 sampleReadReq), .aslTask ⟨100, 0⟩ 100,
      .dataConfirm ⟨0, sfcNoContract⟩, .aslTask ⟨101, 0⟩ 101]
  refine ⟨run aslStep init actions, reachable_run (along_true _ _), ?_⟩
  intro h
  have hqueued : ((run aslStep init actions).shared.log.any fun e =>
      match e with
      | .queued m => !m.justWaitsTLCnf && m.uid == 0
      | _ => false) = true := by decide +kernel
  have hcount : settledCount (run aslStep init actions).shared.log 0 = 0 := by
    decide +kernel
  have hempty : (run aslStep init actions).queue = [] := by decide +kernel
  obtain ⟨e, he, hm⟩ := any_eq_true.1 hqueued
  cases e with
  | queued m =>
    obtain ⟨hexpects, huid⟩ : m.justWaitsTLCnf = false ∧ m.uid = 0 := by simpa using hm
    rcases h.settled m he hexpects with hone | ⟨_, x, hx, _⟩
    · rw [huid, hcount] at hone
      cases hone
    · rw [hempty] at hx
      cases hx
  | matched _ => cases hm
  | dataTimeout _ _ _ _ _ => cases hm
  | tldeDataRequest _ _ _ _ _ _ _ => cases hm

end Isa100Gateway
