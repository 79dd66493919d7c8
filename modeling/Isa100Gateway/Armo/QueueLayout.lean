import Isa100Gateway.Armo.Queue
import Isa100Gateway.Lib.Bytes
import Mathlib.Tactic.Ring

/-!
# Layout of the alert queue

The records of the alert queue, and what each operation of the queue does to the list of records that tiles the buffer.
-/

namespace Isa100Gateway

open Buffer List Option Records

open Records (Holds Format)

theorem toNat_getAlignedLength (len : UInt16) : (getAlignedLength len).toNat = (len.toNat + 3) / 4 * 4 % 65536 := by
  have hlen := len.toNat_lt
  have hrem : (len &&& (cpuWordSize - 1)).toNat = len.toNat % 4 :=
    Bytes.toNat_and_two_pow_sub_one len 2 _ rfl
  have hzero : len &&& (cpuWordSize - 1) = 0 ↔ len.toNat % 4 = 0 := by
    rw [← UInt16.toNat_inj, hrem]
    rfl
  unfold getAlignedLength
  by_cases hrem0 : len.toNat % 4 = 0
  · rw [if_neg (not_not.mpr (hzero.mpr hrem0))]
    omega
  · have hsub : (cpuWordSize - (len &&& (cpuWordSize - 1))).toNat = 4 - len.toNat % 4 := by
      rw [UInt16.toNat_sub_of_le, hrem]
      · rfl
      · rw [UInt16.le_iff_toNat_le, hrem]
        exact (Nat.mod_lt _ (by norm_num)).le
    rw [if_pos (mt hzero.mp hrem0), UInt16.toNat_add, hsub]
    omega

theorem toNat_alertLength (size : UInt16) :
    (alertLength size).toNat = (sizeofAlert + size.toNat + 3) / 4 * 4 % 65536 := by
  rw [alertLength, toNat_getAlignedLength, UInt16.toNat_ofNat']
  omega

def maxUnwrappedSize : Nat := 65508

theorem toNat_alertLength_of_le {size : UInt16} (h : size.toNat ≤ maxUnwrappedSize) :
    (alertLength size).toNat = (sizeofAlert + size.toNat + 3) / 4 * 4 := by
  rw [toNat_alertLength, Nat.mod_eq_of_lt]
  simp only [sizeofAlert, maxUnwrappedSize] at h ⊢
  omega

theorem toNat_alertLength_of_lt {size : UInt16} (h : maxUnwrappedSize < size.toNat) :
    (alertLength size).toNat ≤ sizeofAlert := by
  have hsize := size.toNat_lt
  rw [toNat_alertLength]
  simp only [sizeofAlert, maxUnwrappedSize] at h ⊢
  omega

theorem parseAlert_bytes (a : Alert) (rest : List UInt8) : parseAlert (a.bytes ++ rest) = some a := by
  have h16 (x : UInt16) : join16 x.toUInt8 (x >>> 8).toUInt8 = x := Bytes.join_split x
  have h32 (x : UInt32) :
      join32 x.toUInt8 (x >>> 8).toUInt8 (x >>> 16).toUInt8 (x >>> 24).toUInt8 = x :=
    Bytes.join_split32 x
  simp only [Alert.bytes, word16, word32, cons_append, nil_append, parseAlert, h16, h32]

theorem Alert.length_bytes (a : Alert) : a.bytes.length = sizeofAlert := rfl

def Alert.resendAt (a : Alert) (time : UInt32) : Alert := { a with nextSendTAI := time }

/-- An alert of the queue: the header, the data it announces, and the bytes up to the next word. The header names one of the categories. -/
structure AlertRecord where
  alert : Alert
  data : Payload
  slack : List UInt8
  category : AlertCategory
  length_data : data.length = alert.size.toNat
  length_slack : sizeofAlert + data.length + slack.length = (alertLength alert.size).toNat
  category_eq : armoIndex alert.category = some category

def alertFormat : Format UInt8 Alert AlertRecord where
  toLayout := alertLayout
  header r := r.alert
  bytes r := r.alert.bytes ++ r.data ++ r.slack
  parse_bytes r rest := by
    rw [append_assoc, append_assoc]
    exact parseAlert_bytes r.alert (r.data ++ (r.slack ++ rest))
  length_bytes r := by
    rw [length_append, length_append, r.alert.length_bytes]
    exact r.length_slack
  length_pos r := by
    have hslack := r.length_slack
    simp only [alertLayout, ← hslack, sizeofAlert]
    omega

@[simp] theorem alertFormat_header (r : AlertRecord) : alertFormat.header r = r.alert := rfl

@[simp] theorem alertFormat_length (a : Alert) : alertFormat.length a = (alertLength a.size).toNat := rfl

theorem alertFormat_bytes (r : AlertRecord) : alertFormat.bytes r = r.alert.bytes ++ r.data ++ r.slack := rfl

theorem AlertRecord.length_lt (r : AlertRecord) : sizeofAlert + r.data.length ≤ (alertFormat.bytes r).length ∧
      (alertFormat.bytes r).length < sizeofAlert + r.data.length + 4 := by
  have hlen : (alertFormat.bytes r).length = (alertLength r.alert.size).toNat := alertFormat.length_bytes r
  have hslack := r.length_slack
  have hdata := r.length_data
  have hwrap := toNat_alertLength r.alert.size
  rw [hlen]
  omega

structure QueueHolds (queue : Block UInt8) (rs : List AlertRecord) : Prop where
  holds : Holds alertFormat queue rs
  size : queue.mem.length = armoQueueSize

theorem queueHolds_start : QueueHolds ArmoState.start.queue [] :=
  ⟨.nil _, length_replicate⟩

def ackEffects (id : UInt8) : List ArmoEffect :=
  .acknowledged id :: (if id >>> 6 = alertCatProcess then [.notifyAlertAcknowledge id] else [])

variable {rs : List AlertRecord}

theorem processAlertAck_holds {s : ArmoState} (h : QueueHolds s.queue rs) (id : UInt8) :
    ∃ queue, processAlertAck id s = some (ackEffects id, { s with queue := queue, alarmTimeout := 0 }) ∧
      QueueHolds queue (rs.eraseP fun r => r.alert.id == id) := by
  by_cases hany : ∃ r ∈ rs, r.alert.id = id
  · obtain ⟨r, hmem, hr⟩ := hany
    obtain ⟨r, xs, ys, hxs, hr, rfl, herase⟩ :=
      exists_of_eraseP (p := fun r => r.alert.id == id) hmem (beq_iff_eq.mpr hr)
    have hxs' : ∀ x ∈ xs, ((alertFormat.header x).id == id) = false := fun x hx =>
      Bool.eq_false_of_not_eq_true (hxs x hx)
    have hfind : find alertLayout (fun a => a.id == id) s.queue (s.queue.used + 1) 0 =
        some (some ((alertFormat.pack xs).length, r.alert)) :=
      find_first h.holds hxs' hr (Nat.lt_succ_self _)
    obtain ⟨queue, hremove, hholds, hsize, -⟩ := removeAt_holds h.holds
    refine ⟨queue, ?_, ?_⟩
    · have hremove' : s.queue.removeAt (alertFormat.pack xs).length (alertLayout.length r.alert) =
          some queue := hremove
      simp only [processAlertAck, hfind, bind_some, hremove', map_some, ackEffects]
    · rw [herase]
      exact ⟨hholds, hsize.trans h.size⟩
  · have hnone : ∀ r ∈ rs, ((alertFormat.header r).id == id) = false := fun r hr =>
      beq_eq_false_iff_ne.mpr fun heq => hany ⟨r, hr, heq⟩
    have hfind : find alertLayout (fun a => a.id == id) s.queue (s.queue.used + 1) 0 = some none :=
      find_nothing h.holds hnone (Nat.lt_succ_self _)
    refine ⟨s.queue, ?_, ?_⟩
    · simp only [processAlertAck, hfind, bind_some, map_some, ackEffects]
    · have hkeep : (rs.eraseP fun r => r.alert.id == id) = rs :=
        eraseP_of_forall_not fun r hr => ne_true_of_eq_false (hnone r hr)
      rwa [hkeep]

def evictions (len : Nat) : List Nat → Nat
  | [] => 0
  | l :: ls => if armoQueueSize < (l :: ls).sum + len then evictions len ls + 1 else 0

def AlertRecord.length (r : AlertRecord) : Nat := (alertLength r.alert.size).toNat

theorem length_pack (rs : List AlertRecord) : (alertFormat.pack rs).length = (rs.map AlertRecord.length).sum := by
  induction rs with
  | nil => rfl
  | cons r rs ih =>
    rw [Format.pack_cons, length_append, alertFormat.length_bytes, ih, map_cons, sum_cons]
    rfl

theorem makeRoom_holds {queue : Block UInt8} {len fuel : Nat}
    (h : QueueHolds queue rs) (hlen : len ≤ armoQueueSize) (hfuel : queue.used < fuel) :
    ∃ queue', makeRoom len fuel queue = some (evictions len (rs.map AlertRecord.length), queue') ∧
      QueueHolds queue' (rs.drop (evictions len (rs.map AlertRecord.length))) ∧
      queue'.used + len ≤ armoQueueSize := by
  induction rs generalizing queue fuel with
  | nil =>
    obtain ⟨fuel, rfl⟩ := Nat.exists_eq_add_of_lt hfuel
    have hroom : queue.used + len ≤ armoQueueSize := by
      rw [h.holds.used_eq]
      simpa using hlen
    refine ⟨queue, ?_, h, hroom⟩
    rw [makeRoom, h.size, if_neg (Nat.not_lt.mpr hroom)]
    rfl
  | cons r rs ih =>
    obtain ⟨fuel, rfl⟩ := Nat.exists_eq_add_of_lt hfuel
    have hused : queue.used = ((r :: rs).map AlertRecord.length).sum := by
      rw [h.holds.used_eq, length_pack]
    by_cases hroom : queue.used + len ≤ armoQueueSize
    · have hstop : ¬ armoQueueSize < ((r :: rs).map AlertRecord.length).sum + len := by omega
      have hnone : evictions len ((r :: rs).map AlertRecord.length) = 0 := if_neg hstop
      refine ⟨queue, ?_, ?_, hroom⟩
      · rw [makeRoom, h.size, if_neg (Nat.not_lt.mpr hroom), hnone]
      · rwa [hnone, drop_zero]
    · have hdrop : armoQueueSize < ((r :: rs).map AlertRecord.length).sum + len := by omega
      have hone : evictions len ((r :: rs).map AlertRecord.length) =
          evictions len (rs.map AlertRecord.length) + 1 := if_pos hdrop
      have hfirst : Holds alertFormat queue ([] ++ r :: rs) := h.holds
      obtain ⟨-, hparse⟩ := hfirst.parse_at
      obtain ⟨next, hremove, hholds, hsize, hshorter⟩ := removeAt_holds hfirst
      have hpos := alertFormat.length_pos r
      have hfuel' : next.used < queue.used + fuel := by omega
      obtain ⟨queue', hmake, hrest, hfits⟩ := ih ⟨hholds, hsize.trans h.size⟩ hfuel'
      refine ⟨queue', ?_, ?_, hfits⟩
      · have hparse' : alertLayout.parse queue.mem = some r.alert := hparse
        have hremove' : queue.removeAt 0 (alertLayout.length r.alert) = some next := hremove
        rw [makeRoom, h.size, if_pos (Nat.lt_of_not_le hroom), hparse', bind_some, hremove',
          bind_some, hmake, map_some, hone]
      · rwa [hone, drop_succ_cons]

def ArmoState.storedAlert (s : ArmoState) (c : AlertCategory) (req : AlertRequest) (time : CrtTaiTime) : Alert :=
  queuedAlert (getNextAlertId c s).1 time req.alert

def ArmoState.countAlert (s : ArmoState) (c : AlertCategory) : ArmoState :=
  s.update c fun a => { a with alertsNo := a.alertsNo + 1 }

section Storing

variable {queue : Block UInt8} {s : ArmoState} {rs : List AlertRecord} {c : AlertCategory}
  (req : AlertRequest) (time : CrtTaiTime)

theorem writeRecord_holds (h : QueueHolds queue rs) (alert : Alert) {data : Payload}
    (hdata : data.length = alert.size.toNat) (hcat : armoIndex alert.category = some c)
    (hlen : sizeofAlert + alert.size.toNat ≤ (alertLength alert.size).toNat)
    (hroom : queue.used + (alertLength alert.size).toNat ≤ armoQueueSize) :
    ∃ mem₁ mem₂ r, write queue.mem queue.used alert.bytes = some mem₁ ∧
      write mem₁ (queue.used + sizeofAlert) data = some mem₂ ∧
      QueueHolds { mem := mem₂, used := queue.used + (alertLength alert.size).toNat } (rs ++ [r]) ∧
      r.alert = alert ∧ r.data = data ∧ r.category = c := by
  have hmem := h.holds.mem_eq
  have hused := h.holds.used_eq
  have hfree : (queue.mem.drop queue.used).length = armoQueueSize - queue.used := by
    rw [length_drop, h.size]
  -- the free bytes, cut where the header, the data and the alignment of the new record end
  obtain ⟨old₁, rest₁, hfree₁, hold₁⟩ :=
    exists_append (queue.mem.drop queue.used) sizeofAlert (by omega)
  rw [hfree₁, length_append] at hfree
  obtain ⟨old₂, rest₂, rfl, hold₂⟩ := exists_append rest₁ alert.size.toNat (by omega)
  rw [length_append] at hfree
  obtain ⟨slack, rest₃, rfl, hslack⟩ := exists_append rest₂
    ((alertLength alert.size).toNat - sizeofAlert - alert.size.toNat) (by omega)
  rw [length_append] at hfree
  have hwrite₁ : write queue.mem queue.used alert.bytes =
      some (alertFormat.pack rs ++ alert.bytes ++ (old₂ ++ (slack ++ rest₃))) := by
    rw [hmem, hfree₁, ← append_assoc]
    exact write_append hused hold₁
  have hwrite₂ : write (alertFormat.pack rs ++ alert.bytes ++ (old₂ ++ (slack ++ rest₃)))
      (queue.used + sizeofAlert) data =
        some (alertFormat.pack rs ++ alert.bytes ++ data ++ (slack ++ rest₃)) := by
    have hpos : queue.used + sizeofAlert = (alertFormat.pack rs ++ alert.bytes).length := by
      rw [length_append, alert.length_bytes, hused]
    rw [← append_assoc]
    exact write_append hpos (hold₂.trans hdata.symm)
  let r : AlertRecord :=
    { alert := alert
      data := data
      slack := slack
      category := c
      length_data := hdata
      length_slack := by omega
      category_eq := hcat }
  have hbytes : alertFormat.pack rs ++ alert.bytes ++ data ++ (slack ++ rest₃) =
      alertFormat.pack (rs ++ [r]) ++ rest₃ := by
    simp [alertFormat_bytes, r]
  refine ⟨_, _, r, hwrite₁, hwrite₂, ⟨?_, ?_⟩, rfl, rfl, rfl⟩
  · apply Holds.of_mem_eq rest₃ hbytes
    rw [← alertFormat.length_pack_concat, hused]
    rfl
  · rw [length_write hwrite₂, length_write hwrite₁, h.size]

def roomFor (req : AlertRequest) (rs : List AlertRecord) : Nat :=
  evictions (alertLength req.alert.size).toNat (rs.map AlertRecord.length)

theorem storeAlert_holds (h : QueueHolds s.queue rs) (hcat : armoIndex req.alert.category = some c)
    (hsize : req.alert.size.toNat ≤ maxUnwrappedSize)
    (hlen : (alertLength req.alert.size).toNat ≤ armoQueueSize) :
    ∃ queue r, storeAlert c req time s =
        some (replicate (roomFor req rs) .evicted ++ [.queued (s.storedAlert c req time) req.buf],
          { s.countAlert c with queue := queue }) ∧
      QueueHolds queue (rs.drop (roomFor req rs) ++ [r]) ∧
      r.alert = s.storedAlert c req time ∧ r.data = req.buf ∧ r.category = c := by
  obtain ⟨queue, hmake, hholds, hroom⟩ := makeRoom_holds h hlen (Nat.lt_succ_self _)
  have hunwrapped : sizeofAlert + req.alert.size.toNat ≤ (alertLength req.alert.size).toNat := by
    rw [toNat_alertLength_of_le hsize]
    omega
  obtain ⟨mem₁, mem₂, r, hwrite₁, hwrite₂, hqueue, halert, hdata, hcategory⟩ :=
    writeRecord_holds hholds (s.storedAlert c req time) req.length_buf hcat hunwrapped hroom
  refine ⟨_, r, ?_, hqueue, halert, hdata, hcategory⟩
  rw [storeAlert, hmake, bind_some]
  dsimp only
  rw [show queuedAlert _ _ _ = s.storedAlert c req time from rfl, hwrite₁, bind_some, hwrite₂]
  rfl

theorem storeAlert_wrapped (h : QueueHolds s.queue rs) (hsize : maxUnwrappedSize < req.alert.size.toNat) :
    storeAlert c req time s = none := by
  have hlen : (alertLength req.alert.size).toNat ≤ armoQueueSize :=
    (toNat_alertLength_of_lt hsize).trans (by decide)
  obtain ⟨queue, hmake, hholds, -⟩ := makeRoom_holds h hlen (Nat.lt_succ_self _)
  have hbuf := req.length_buf
  have hoverrun (mem : List UInt8) (hmem : mem.length = armoQueueSize) :
      write mem (queue.used + sizeofAlert) req.buf = none := by
    rw [write, if_neg]
    simp only [hmem, armoQueueSize, maxUnwrappedSize] at hsize ⊢
    omega
  rw [storeAlert, hmake, bind_some]
  dsimp only
  rw [show queuedAlert _ _ _ = s.storedAlert c req time from rfl]
  cases hwrite : write queue.mem queue.used (s.storedAlert c req time).bytes with
  | none => rfl
  | some mem =>
    have hmem := (length_write hwrite).trans hholds.size
    rw [bind_some, hoverrun mem hmem]
    rfl

end Storing

end Isa100Gateway
