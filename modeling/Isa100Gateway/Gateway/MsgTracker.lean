import Isa100Gateway.Lib.Run
import Mathlib.Data.UInt

/-!
# The message tracker (`MsgTracker.cpp`)

The entries in use of the array are a list in the order of the array. An entry that comes without data keeps the bytes that its slot had, which an event carries as `slot`. A run starts with no entry, and its clock does not go back.
-/

namespace Isa100Gateway.MsgTracker

open List

structure Msg where
  appHandle : UInt16
  sessionID : UInt32
  transactionID : UInt32
  serviceType : UInt8
  data : List UInt8
  time : Int

def capacity : Nat := 200

def maxAge : Int := 5 * 60

/-- The number of messages, or 0 if there is no room, and the messages. -/
def addMessage (now : Int) (m : Msg) (data : Option (List UInt8)) (slot : List UInt8) (l : List Msg) : Nat × List Msg :=
  if capacity ≤ l.length then (0, l)
  else (l.length + 1, l ++ [{ m with data := data.getD slot, time := now }])

def findMessage (appHandle : UInt16) (l : List Msg) : Option Nat := l.findIdx? fun m => m.appHandle = appHandle

def removeMessage (found : Msg → Bool) (l : List Msg) : List Msg := l.eraseP found

def renewMessage (now : Int) (i : Nat) (appHandle : UInt16) (l : List Msg) : Option (Nat × List Msg) :=
  l[i]?.map fun m =>
    let m := { m with appHandle := appHandle }
    if capacity ≤ l.length then (0, l.set i m)
    else
      let m := { m with time := now }
      (l.length, if i < l.length - 1 then l.eraseIdx i ++ [m] else l.set i m)

def renewMessageOf (now : Int) (appHandleOld appHandleNew : UInt16) (l : List Msg) : Option (Nat × List Msg) :=
  match findMessage appHandleOld l with
  | none => some (0, l)
  | some i => renewMessage now i appHandleNew l

def dropExpired (now : Int) (l : List Msg) : List Msg := l.dropWhile fun m => m.time < now - maxAge

def processSessionDelete (sessionID : UInt32) (l : List Msg) : List Msg :=
  if l.any fun m => m.sessionID = sessionID then
    processSessionDelete sessionID (l.eraseP fun m => m.sessionID = sessionID)
  else l
termination_by l.length
decreasing_by
  obtain ⟨m, hm, hsession⟩ := any_eq_true.mp (by assumption)
  rw [length_eraseP_of_mem hm hsession]
  exact Nat.sub_one_lt (length_pos_of_mem hm).ne'

structure State where
  messages : List Msg
  clock : Int

def start (clock : Int) : State := ⟨[], clock⟩

inductive Call
  | addMessage (m : Msg) (data : Option (List UInt8)) (slot : List UInt8)
  | findMessage (appHandle : UInt16)
  | removeMessage (appHandle : UInt16)
  | removeTransaction (sessionID transactionID : UInt32)
  | renewEntry (i : Nat) (appHandle : UInt16)
  | renewMessage (appHandleOld appHandleNew : UInt16)
  | processSessionDelete (sessionID : UInt32)
  | dropExpired

def Call.apply (now : Int) (l : List Msg) : Call → Option (List Msg)
  | .addMessage m data slot => some (MsgTracker.addMessage now m data slot l).2
  | .findMessage _ => some l
  | .removeMessage appHandle => some (MsgTracker.removeMessage (fun m => m.appHandle = appHandle) l)
  | .removeTransaction sessionID transactionID =>
    some (MsgTracker.removeMessage (fun m => m.sessionID = sessionID ∧ m.transactionID = transactionID) l)
  | .renewEntry i appHandle => (MsgTracker.renewMessage now i appHandle l).map Prod.snd
  | .renewMessage appHandleOld appHandleNew => (renewMessageOf now appHandleOld appHandleNew l).map Prod.snd
  | .processSessionDelete sessionID => some (MsgTracker.processSessionDelete sessionID l)
  | .dropExpired => some (MsgTracker.dropExpired now l)

def step (s : State) (e : Int × Call) : Option State := (e.2.apply e.1 s.messages).map fun l => ⟨l, e.1⟩

def Clocked (s : State) (e : Int × Call) : Prop := s.clock ≤ e.1

instance (s : State) (e : Int × Call) : Decidable (Clocked s e) := inferInstanceAs (Decidable (_ ≤ _))

def Removes (found : Msg → Prop) (l l' : List Msg) : Prop :=
  (∀ m ∈ l, ¬ found m) ∧ l' = l ∨
    ∃ pre m post, l = pre ++ m :: post ∧ (∀ m' ∈ pre, ¬ found m') ∧ found m ∧ l' = pre ++ post

def Renews (now : Int) (appHandle : UInt16) (pre : List Msg) (m : Msg) (post l' : List Msg) : Prop :=
  l' = if capacity ≤ (pre ++ m :: post).length then pre ++ { m with appHandle := appHandle } :: post
    else pre ++ post ++ [{ m with appHandle := appHandle, time := now }]

def Effect (now : Int) (l l' : List Msg) : Call → Prop
  | .addMessage m data slot =>
    l' = if capacity ≤ l.length then l else l ++ [{ m with data := data.getD slot, time := now }]
  | .findMessage _ => l' = l
  | .removeMessage appHandle => Removes (fun m => m.appHandle = appHandle) l l'
  | .removeTransaction sessionID transactionID =>
    Removes (fun m => m.sessionID = sessionID ∧ m.transactionID = transactionID) l l'
  | .renewEntry i appHandle => ∃ pre m post, l = pre ++ m :: post ∧ pre.length = i ∧ Renews now appHandle pre m post l'
  | .renewMessage appHandleOld appHandleNew => (∀ m ∈ l, m.appHandle ≠ appHandleOld) ∧ l' = l ∨
    ∃ pre m post, l = pre ++ m :: post ∧ (∀ m' ∈ pre, m'.appHandle ≠ appHandleOld) ∧ m.appHandle = appHandleOld ∧
      Renews now appHandleNew pre m post l'
  | .processSessionDelete sessionID => l' = l.filter fun m => m.sessionID ≠ sessionID
  | .dropExpired => l' = l.filter fun m => now - maxAge ≤ m.time

/-- The tracker before a call at `now`: in the order of the stamps, none of which is later, and within its capacity. -/
structure Ordered (now : Int) (l : List Msg) : Prop where
  sorted : l.Pairwise fun m m' => m.time ≤ m'.time
  past : ∀ m ∈ l, m.time ≤ now
  capacity : l.length ≤ capacity

variable {now : Int} {l l' pre post : List Msg} {m : Msg}

theorem removes_removeMessage (found : Msg → Prop) [DecidablePred found] (l : List Msg) :
    Removes found l (removeMessage (fun m => found m) l) := by
  rcases exists_or_eq_self_of_eraseP (fun m => decide (found m)) l with hself | ⟨m, pre, post, hpre, hm, hl, herase⟩
  · by_cases hany : ∃ m ∈ l, found m
    · obtain ⟨m, hm, hfound⟩ := hany
      have hlength := length_eraseP_of_mem (p := fun m => decide (found m)) hm (decide_eq_true hfound)
      rw [hself] at hlength
      have hpos := length_pos_of_mem hm
      omega
    · exact .inl ⟨fun m hm hfound => hany ⟨m, hm, hfound⟩, hself⟩
  · refine .inr ⟨pre, m, post, hl, fun m' hm' => ?_, of_decide_eq_true hm, herase⟩
    exact of_decide_eq_false (Bool.eq_false_iff.mpr (hpre m' hm'))

theorem processSessionDelete_eq_filter (sessionID : UInt32) (l : List Msg) :
    processSessionDelete sessionID l = l.filter fun m => m.sessionID ≠ sessionID := by
  fun_induction processSessionDelete sessionID l with
  | case1 l hany ih =>
    rw [ih]
    rcases removes_removeMessage (fun m => m.sessionID = sessionID) l with ⟨hnone, -⟩ | ⟨pre, m, post, hl, -,
      hm, herase⟩
    · obtain ⟨m, hm, hsession⟩ := any_eq_true.mp hany
      exact absurd (of_decide_eq_true hsession) (hnone m hm)
    · rw [removeMessage] at herase
      rw [herase, hl]
      simp [hm]
  | case2 l hany =>
    refine (filter_eq_self.mpr fun m hm => ?_).symm
    simp only [any_eq_true, not_exists, not_and] at hany
    simpa using hany m hm

theorem dropExpired_eq_filter (h : l.Pairwise fun m m' => m.time ≤ m'.time) (now : Int) :
    dropExpired now l = l.filter fun m => now - maxAge ≤ m.time := by
  induction l with
  | nil => rfl
  | cons m rest ih =>
    obtain ⟨hhead, htail⟩ := pairwise_cons.mp h
    by_cases hold : m.time < now - maxAge
    · have hgone : ¬ now - maxAge ≤ m.time := Int.not_le.mpr hold
      rw [dropExpired, dropWhile_cons, if_pos (decide_eq_true hold), filter_cons, if_neg (by rwa [decide_eq_true_iff])]
      exact ih htail
    · rw [dropExpired, dropWhile_cons, if_neg (by rwa [decide_eq_true_iff])]
      refine (filter_eq_self.mpr fun m' hm' => ?_).symm
      have hyoung := Int.not_lt.mp hold
      obtain rfl | hm' := mem_cons.mp hm'
      · exact decide_eq_true hyoung
      · exact decide_eq_true (hyoung.trans (hhead m' hm'))

theorem renewMessage_split (now : Int) (appHandle : UInt16) (pre : List Msg) (m : Msg) (post : List Msg) :
    ∃ n l', renewMessage now pre.length appHandle (pre ++ m :: post) = some (n, l') ∧
      Renews now appHandle pre m post l' := by
  have hget : (pre ++ m :: post)[pre.length]? = some m := by simp
  have hset : ∀ m', (pre ++ m :: post).set pre.length m' = pre ++ m' :: post := by simp
  rw [renewMessage, hget, Option.map_some]
  dsimp only
  rw [hset, hset]
  by_cases hfull : capacity ≤ (pre ++ m :: post).length
  · rw [if_pos hfull]
    exact ⟨_, _, rfl, (if_pos hfull).symm⟩
  · rw [if_neg hfull]
    refine ⟨_, _, rfl, ?_⟩
    rw [Renews, if_neg hfull]
    cases post with
    | nil => simp
    | cons m' post =>
      rw [if_pos (by simp), eraseIdx_append_of_length_le (Nat.le_refl _), Nat.sub_self]
      rfl

theorem effect_apply (h : Ordered now l) {c : Call} (hstep : c.apply now l = some l') : Effect now l l' c := by
  cases c with
  | addMessage m data slot =>
    cases hstep
    unfold Effect addMessage
    dsimp only
    split <;> rfl
  | findMessage appHandle => exact (Option.some.inj hstep).symm
  | removeMessage appHandle =>
    cases hstep
    exact removes_removeMessage (fun m => m.appHandle = appHandle) l
  | removeTransaction sessionID transactionID =>
    cases hstep
    exact removes_removeMessage (fun m => m.sessionID = sessionID ∧ m.transactionID = transactionID) l
  | renewEntry i appHandle =>
    obtain ⟨⟨n, l''⟩, hrenew, rfl⟩ := Option.map_eq_some_iff.mp hstep
    obtain ⟨m, hm, -⟩ := Option.map_eq_some_iff.mp hrenew
    obtain ⟨hi, rfl⟩ := List.getElem?_eq_some_iff.mp hm
    have hsplit : l = l.take i ++ l[i] :: l.drop (i + 1) := by simp
    have hlength : (l.take i).length = i := length_take_of_le hi.le
    obtain ⟨n', l''', hrenew', heffect⟩ := renewMessage_split now appHandle (l.take i) l[i] (l.drop (i + 1))
    rw [← hsplit, hlength, hrenew] at hrenew'
    cases hrenew'
    exact ⟨_, _, _, hsplit, hlength, heffect⟩
  | renewMessage appHandleOld appHandleNew =>
    obtain ⟨⟨n, l''⟩, hrenew, rfl⟩ := Option.map_eq_some_iff.mp hstep
    unfold renewMessageOf findMessage at hrenew
    rcases hfind : l.findIdx? fun m => m.appHandle = appHandleOld with _ | i
    · rw [hfind] at hrenew
      cases hrenew
      exact .inl ⟨fun m hm => of_decide_eq_false (findIdx?_eq_none_iff.mp hfind m hm), rfl⟩
    · rw [hfind] at hrenew
      obtain ⟨hi, hfound, hbefore⟩ := findIdx?_eq_some_iff_getElem.mp hfind
      have hsplit : l = l.take i ++ l[i] :: l.drop (i + 1) := by simp
      have hlength : (l.take i).length = i := length_take_of_le hi.le
      obtain ⟨n', l''', hrenew', heffect⟩ := renewMessage_split now appHandleNew (l.take i) l[i] (l.drop (i + 1))
      rw [← hsplit, hlength] at hrenew'
      cases hrenew.symm.trans hrenew'
      refine .inr ⟨_, _, _, hsplit, fun m hm => ?_, of_decide_eq_true hfound, heffect⟩
      obtain ⟨j, hj, rfl⟩ := getElem_of_mem hm
      rw [length_take] at hj
      rw [getElem_take]
      exact of_decide_eq_false (Bool.eq_false_iff.mpr (hbefore j (by omega)))
  | processSessionDelete sessionID =>
    cases hstep
    exact processSessionDelete_eq_filter sessionID l
  | dropExpired =>
    cases hstep
    exact dropExpired_eq_filter h.sorted now

theorem Ordered.sublist (h : Ordered now l) (hsub : l'.Sublist l) : Ordered now l' :=
  ⟨h.sorted.sublist hsub, fun m hm => h.past m (hsub.subset hm), hsub.length_le.trans h.capacity⟩

theorem Ordered.append (h : Ordered now l) (hroom : l.length < MsgTracker.capacity) (hm : m.time = now) :
    Ordered now (l ++ [m]) := by
  refine ⟨pairwise_append.mpr ⟨h.sorted, pairwise_singleton _ _, ?_⟩, ?_, ?_⟩
  · intro m' hm' m'' hm''
    obtain rfl := mem_singleton.mp hm''
    exact hm ▸ h.past m' hm'
  · intro m' hm'
    obtain hm' | hm' := mem_append.mp hm'
    · exact h.past m' hm'
    · obtain rfl := mem_singleton.mp hm'
      exact hm.le
  · rw [length_append]
    exact hroom

theorem Ordered.rename (h : Ordered now (pre ++ m :: post)) (appHandle : UInt16) :
    Ordered now (pre ++ { m with appHandle := appHandle } :: post) := by
  have htimes : (pre ++ { m with appHandle := appHandle } :: post).map Msg.time =
    (pre ++ m :: post).map Msg.time := by simp
  refine ⟨?_, fun m' hm' => ?_, ?_⟩
  · have hsorted := pairwise_map.mpr h.sorted
    rw [← htimes] at hsorted
    exact pairwise_map.mp hsorted
  · have hmem := mem_map_of_mem (f := Msg.time) hm'
    rw [htimes] at hmem
    obtain ⟨m'', hm'', heq⟩ := mem_map.mp hmem
    exact heq ▸ h.past m'' hm''
  · have hlength := congrArg length htimes
    rw [length_map, length_map] at hlength
    exact hlength ▸ h.capacity

theorem Ordered.renews {appHandle : UInt16} (h : Ordered now (pre ++ m :: post))
    (heffect : Renews now appHandle pre m post l') :
    Ordered now l' := by
  rw [Renews] at heffect
  split_ifs at heffect with hfull
  · exact heffect ▸ h.rename appHandle
  · have hothers : Ordered now (pre ++ post) := h.sublist (Sublist.append_left (sublist_cons_self m post) pre)
    rw [heffect]
    refine hothers.append ?_ rfl
    simp only [length_append, length_cons] at hfull ⊢
    omega

theorem Ordered.removes {found : Msg → Prop} (h : Ordered now l) (heffect : Removes found l l') : Ordered now l' := by
  rcases heffect with ⟨-, rfl⟩ | ⟨pre, m, post, rfl, -, -, rfl⟩
  · exact h
  · exact h.sublist (Sublist.append_left (sublist_cons_self m post) pre)

theorem Ordered.effect (h : Ordered now l) {c : Call} (heffect : Effect now l l' c) : Ordered now l' := by
  cases c with
  | addMessage m data slot =>
    unfold Effect at heffect
    split_ifs at heffect with hfull
    · exact heffect ▸ h
    · exact heffect ▸ h.append (Nat.lt_of_not_le hfull) rfl
  | findMessage appHandle => exact heffect ▸ h
  | removeMessage appHandle => exact h.removes heffect
  | removeTransaction sessionID transactionID => exact h.removes heffect
  | renewEntry i appHandle =>
    obtain ⟨pre, m, post, rfl, -, hrenews⟩ := heffect
    exact h.renews hrenews
  | renewMessage appHandleOld appHandleNew =>
    obtain ⟨-, rfl⟩ | ⟨pre, m, post, rfl, -, -, hrenews⟩ := heffect
    · exact h
    · exact h.renews hrenews
  | processSessionDelete sessionID => exact heffect ▸ h.sublist filter_sublist
  | dropExpired => exact heffect ▸ h.sublist filter_sublist

/-- In every run with a clock that does not go back the entries are in the order of their stamps and within the capacity,
and each call does to them what it is for. -/
theorem tracker_ordered {clock : Int} {s : State} (h : Machine.Reaches (start clock) step Clocked s) :
    Ordered s.clock s.messages ∧ ∀ e s', Clocked s e → step s e = some s' → Effect e.1 s.messages s'.messages e.2 := by
  have hstep : ∀ s e s', Ordered s.clock s.messages → Clocked s e → step s e = some s' →
      Ordered s'.clock s'.messages ∧ Effect e.1 s.messages s'.messages e.2 := by
    intro s e s' hs hclock hstep
    obtain ⟨l', hl', rfl⟩ := Option.map_eq_some_iff.mp hstep
    have hlater : Ordered e.1 s.messages := ⟨hs.sorted, fun m hm => (hs.past m hm).trans hclock, hs.capacity⟩
    have heffect := effect_apply hlater hl'
    exact ⟨hlater.effect heffect, heffect⟩
  have hordered : Ordered s.clock s.messages := by
    apply h.invariant (P := fun s => Ordered s.clock s.messages)
    · exact ⟨Pairwise.nil, fun _ hm => (nomatch hm), Nat.zero_le _⟩
    · exact fun s e s' hs hclock hs' => (hstep s e s' hs hclock hs').1
  exact ⟨hordered, fun e s' hclock hs' => (hstep s e s' hordered hclock hs').2⟩

def sampleMsg (appHandle : UInt16) : Msg := ⟨appHandle, 1, 7, 0, [], 0⟩

def sampleCalls : List (Int × Call) :=
  [(10, .addMessage (sampleMsg 5) none []), (20, .addMessage (sampleMsg 6) none []), (30, .renewMessage 5 7)]

theorem tracker_ordered_renewed : ∃ s, Machine.runs step (start 0) sampleCalls = some s ∧
    s.messages.map Msg.appHandle = [6, 7] ∧ Ordered s.clock s.messages :=
  have halong : Machine.AllAlong Clocked step (start 0) sampleCalls := by decide
  ⟨_, rfl, rfl, (tracker_ordered (Machine.reaches_runs halong rfl)).1⟩

/-- The renewed entry has another handle, not only another stamp and position. -/
theorem renewMessage_changes_handle : ∃ s s', Machine.Reaches (start 0) step Clocked s ∧
    step s (30, .renewMessage 5 7) = some s' ∧ Clocked s (30, .renewMessage 5 7) ∧
    s.messages.map Msg.appHandle = [5] ∧ s'.messages.map Msg.appHandle = [7] :=
  ⟨_, _, .step (10, .addMessage (sampleMsg 5) none []) .init (by decide) rfl, rfl, by decide, rfl, rfl⟩

end Isa100Gateway.MsgTracker
