import Isa100Gateway.BackBone.MsgQueue
import Isa100Gateway.Lib.Run

/-!
# Accounting of the retransmission queue

A bucket is looked at as the list of its slots below `lastPos`; what the calls do to this list does not depend on the slots above.
-/

namespace Isa100Gateway

open List

structure BucketView where
  entries : List AckMetaData
  queueSz : UInt16
  hasGaps : Bool

def Bucket.view (b : Bucket) : BucketView := ⟨b.slots.take b.lastPos.toNat, b.queueSz, b.hasGaps⟩

structure Bucket.Sized (b : Bucket) : Prop where
  size : b.slots.length = maxPendingSize
  lastPos : b.lastPos.toNat ≤ maxPendingSize

def Bucket.Untouched (b b' : Bucket) : Prop :=
  ∀ i, b.lastPos.toNat ≤ i → b'.lastPos.toNat ≤ i → b'.slots[i]? = b.slots[i]?

namespace BucketView

def reindex (v : BucketView) : BucketView :=
  if ¬v.hasGaps then v
  else
    let entries := v.entries.filter fun entry => entry.pkt.isSome
    ⟨entries, UInt16.ofNat entries.length, false⟩

def add (it : AckMetaData) (v : BucketView) : Bool × BucketView :=
  let v := if v.entries.length ≥ maxPendingSize then reindex { v with hasGaps := true } else v
  if v.entries.length ≥ maxPendingSize then (false, v)
  else (true, { v with entries := v.entries ++ [it], queueSz := v.queueSz + 1 })

def delete (idx : Nat) (entry : AckMetaData) (v : BucketView) : BucketView :=
  ⟨v.entries.set idx { entry with pkt := none }, v.queueSz - 1, true⟩

def confirm (msgHandle status : UInt16) (v : BucketView) : Option (BucketView × Option PendingPacket) :=
  match v.entries.findIdx? fun entry => entry.msgHandle = msgHandle with
  | none => none
  | some idx =>
    match v.entries[idx]? with
    | none => none
    | some entry =>
      match entry.pkt with
      | none => some (v, none)
      | some pkt =>
        if 3 > pkt.data.length then some (v.delete idx entry, some pkt)
        else if status = confirmOutOfMemory then
          let nextsendTimestamp := entry.nextsendTimestamp - ackTimeout + retryTimeout
          some ({ v with entries := v.entries.set idx { entry with nextsendTimestamp := nextsendTimestamp } }, none)
        else some (v.delete idx entry, some pkt)

def dropExpired (seconds : Int) : Nat → Nat → BucketView → BucketView × List PendingPacket
  | 0, _, v => (v, [])
  | n + 1, idx, v =>
    match v.entries[idx]? with
    | some entry =>
      if expires seconds entry then
        let (v, pkts) := dropExpired seconds n (idx + 1) (v.delete idx entry)
        (v, entry.pkt.toList ++ pkts)
      else dropExpired seconds n (idx + 1) v
    | none => dropExpired seconds n (idx + 1) v

def send (tv : Int) (v : BucketView) : Option (BucketView × Option PendingPacket) :=
  match v.entries.findIdx? fun entry => entry.pkt.isSome ∧ entry.nextsendTimestamp ≤ tv with
  | none => none
  | some idx =>
    (v.entries[idx]?).map fun entry => ({ v with entries := v.entries.set idx (sentEntry tv entry) }, entry.pkt)

end BucketView

/-! ## A bucket and its view -/

structure Bucket.Becomes (b b' : Bucket) (v : BucketView) : Prop where
  sized : b'.Sized
  view : b'.view = v
  untouched : b.Untouched b'

variable {b : Bucket}

theorem Bucket.Sized.length_entries (h : b.Sized) : b.view.entries.length = b.lastPos.toNat :=
  length_take_of_le (h.lastPos.trans h.size.ge)

theorem Bucket.Sized.refl (h : b.Sized) : b.Becomes b b.view := ⟨h, rfl, fun _ _ _ => rfl⟩

variable {idx : Nat} {v v' : BucketView}

theorem Bucket.Sized.set (h : b.Sized) (hidx : idx < b.lastPos.toNat) (entry : AckMetaData) (queueSz : UInt16)
    (hasGaps : Bool) :
    b.Becomes { b with slots := b.slots.set idx entry, queueSz := queueSz, hasGaps := hasGaps }
      ⟨b.view.entries.set idx entry, queueSz, hasGaps⟩ := by
  refine ⟨⟨(length_set ..).trans h.size, h.lastPos⟩, ?_, ?_⟩
  · unfold Bucket.view
    rw [take_set]
  · intro i hi _
    exact getElem?_set_ne (by omega)

theorem Bucket.Becomes.trans {b' b'' : Bucket} (h : b.Becomes b' v) (h' : b'.Becomes b'' v')
    (hend : b'.lastPos = b''.lastPos) : b.Becomes b'' v' where
  sized := h'.sized
  view := h'.view
  untouched i hi hi' := (h'.untouched i (hend ▸ hi') hi').trans (h.untouched i hi (hend ▸ hi'))

theorem getElem?_view (hidx : idx < b.lastPos.toNat) : b.view.entries[idx]? = b.slots[idx]? :=
  getElem?_take_of_lt hidx

/-- What the loop of `_Reindex` makes of the slots: those that it visits and that have a packet are moved down to `r`. -/
theorem compact_eq (n : Nat) : ∀ {idx r : Nat} {slots : List AckMetaData}, r ≤ idx → idx + n ≤ slots.length →
    compact n idx r slots =
      let kept := ((slots.drop idx).take n).filter fun entry => entry.pkt.isSome
      (slots.take r ++ kept ++ slots.drop (r + kept.length), r + kept.length) := by
  induction n with
  | zero =>
    intro idx r slots hr _
    simp [compact]
  | succ n ih =>
    intro idx r slots hr hroom
    have hidx : idx < slots.length := by omega
    have hvisit : (slots.drop idx).take (n + 1) = slots[idx] :: (slots.drop (idx + 1)).take n := by
      rw [drop_eq_getElem_cons hidx, take_succ_cons]
    rw [compact, getElem?_eq_getElem hidx, hvisit]
    dsimp only
    by_cases hsome : slots[idx].pkt.isSome = true
    · have hset : ((slots.set r slots[idx]).drop (idx + 1)).take n = (slots.drop (idx + 1)).take n := by
        rw [drop_set_of_lt (by omega)]
      rw [if_pos hsome, ih (by omega) (by rw [length_set]; omega), hset,
        filter_cons_of_pos (p := fun entry : AckMetaData => entry.pkt.isSome) hsome]
      generalize hkept : ((slots.drop (idx + 1)).take n).filter (fun entry => entry.pkt.isSome) = kept
      have htake : (slots.set r slots[idx]).take (r + 1) = slots.take r ++ [slots[idx]] := by
        rw [take_add_one, getElem?_set_self (by omega), take_set_of_le (Nat.le_refl r)]
        rfl
      have hdrop : (slots.set r slots[idx]).drop (r + 1 + kept.length) = slots.drop (r + (kept.length + 1)) := by
        rw [drop_set_of_lt (by omega)]
        congr 1
        omega
      dsimp only
      rw [htake, hdrop, length_cons, append_assoc (slots.take r), singleton_append]
      congr 1
      omega
    · rw [if_neg hsome, ih (by omega) (by omega),
        filter_cons_of_neg (p := fun entry : AckMetaData => entry.pkt.isSome) hsome]

theorem Bucket.Sized.reindex (h : b.Sized) : b.Becomes (reindexBucket b) b.view.reindex := by
  unfold reindexBucket BucketView.reindex
  by_cases hgaps : b.hasGaps = true
  · have hgaps' : b.view.hasGaps = true := hgaps
    rw [if_neg (not_not.mpr hgaps), if_neg (not_not.mpr hgaps'),
      compact_eq b.lastPos.toNat (Nat.le_refl 0) (by rw [Nat.zero_add, h.size]; exact h.lastPos)]
    dsimp only
    rw [drop_zero, take_zero, nil_append, Nat.zero_add]
    generalize hkept : (b.slots.take b.lastPos.toNat).filter (fun entry => entry.pkt.isSome) = kept
    have hlen : kept.length ≤ b.lastPos.toNat := by
      rw [← hkept]
      exact (length_filter_le _ _).trans (length_take_le _ _)
    have hsize := h.size
    have hlast := h.lastPos
    have hword : (UInt16.ofNat kept.length).toNat = kept.length :=
      UInt16.toNat_ofNat_of_lt' (by change _ < 65536; unfold maxPendingSize at hlast; omega)
    refine ⟨⟨?_, ?_⟩, ?_, ?_⟩
    · dsimp only
      rw [length_append, length_drop]
      omega
    · dsimp only
      omega
    · unfold Bucket.view
      rw [hword, hkept, take_left' rfl]
    · intro i hi hi'
      rw [hword] at hi'
      rw [getElem?_append_right hi', getElem?_drop]
      congr 1
      omega
  · have hgaps' : ¬b.view.hasGaps = true := hgaps
    rw [if_pos hgaps, if_pos hgaps']
    exact h.refl

theorem Bucket.Sized.add (h : b.Sized) (it : AckMetaData) :
    (addToBucket it b).1 = (b.view.add it).1 ∧ b.Becomes (addToBucket it b).2 (b.view.add it).2 := by
  -- the bucket is compacted first when it is full, which does not move its end up
  have hmade : ∃ made, made = (if b.lastPos.toNat ≥ maxPendingSize then reindexBucket { b with hasGaps :=
    true } else b) ∧
      b.Becomes made (if b.view.entries.length ≥ maxPendingSize then ({ b.view with hasGaps := true } :
        BucketView).reindex
        else b.view) ∧ made.lastPos.toNat ≤ b.lastPos.toNat := by
    refine ⟨_, rfl, ?_⟩
    rw [h.length_entries]
    by_cases hfull : b.lastPos.toNat ≥ maxPendingSize
    · rw [if_pos hfull, if_pos hfull]
      have hgaps : Bucket.Sized { b with hasGaps := true } := ⟨h.size, h.lastPos⟩
      exact ⟨⟨hgaps.reindex.sized, hgaps.reindex.view, hgaps.reindex.untouched⟩,
        hgaps.reindex.sized.lastPos.trans hfull⟩
    · rw [if_neg hfull, if_neg hfull]
      exact ⟨h.refl, le_refl _⟩
  obtain ⟨made, hdef, hmade, hend⟩ := hmade
  unfold addToBucket BucketView.add
  rw [← hdef, ← hmade.view]
  dsimp only
  rw [hmade.sized.length_entries]
  by_cases hfull : made.lastPos.toNat ≥ maxPendingSize
  · rw [if_pos hfull, if_pos hfull]
    exact ⟨rfl, hmade.sized, rfl, hmade.untouched⟩
  · rw [if_neg hfull, if_neg hfull]
    have hroom : made.lastPos.toNat + 1 < 65536 := by
      unfold maxPendingSize at hfull
      omega
    have hlast : (made.lastPos + 1).toNat = made.lastPos.toNat + 1 := by
      rw [UInt16.toNat_add]
      exact Nat.mod_eq_of_lt hroom
    have hsize := hmade.sized.size
    refine ⟨rfl, ⟨(length_set ..).trans hsize, ?_⟩, ?_, ?_⟩
    · dsimp only
      omega
    · unfold Bucket.view
      rw [hlast, take_add_one, getElem?_set_self (by omega), take_set_of_le (Nat.le_refl _)]
      rfl
    · intro i hi hi'
      rw [hlast] at hi'
      rw [getElem?_set_ne (by omega)]
      exact hmade.untouched i hi (by omega)

theorem Bucket.Sized.delete (h : b.Sized) (hidx : idx < b.lastPos.toNat) (entry : AckMetaData) :
    b.Becomes (deleteSlot idx entry b) (b.view.delete idx entry) :=
  h.set hidx _ _ _

theorem Bucket.Sized.lt_lastPos (h : b.Sized) {p : AckMetaData → Bool}
    (hfind : b.view.entries.findIdx? p = some idx) : idx < b.lastPos.toNat := by
  rw [← h.length_entries]
  exact (findIdx?_eq_some_iff_findIdx_eq.mp hfind).1

theorem view_entries (b : Bucket) : b.slots.take b.lastPos.toNat = b.view.entries := rfl

theorem Bucket.Sized.confirm (h : b.Sized) (msgHandle status : UInt16) :
    (confirmBucket msgHandle status b = none ∧ b.view.confirm msgHandle status = none) ∨
      ∃ b' pkt, confirmBucket msgHandle status b = some (b', pkt) ∧
        b.view.confirm msgHandle status = some (b'.view, pkt) ∧ b.Becomes b' b'.view := by
  unfold confirmBucket BucketView.confirm
  rw [view_entries]
  rcases hfind : b.view.entries.findIdx? (fun entry => decide (entry.msgHandle = msgHandle)) with _ | idx
  · rw [hfind]
    exact .inl ⟨rfl, rfl⟩
  have hidx := h.lt_lastPos hfind
  rw [hfind]
  dsimp only
  rw [getElem?_view hidx]
  rcases hslot : b.slots[idx]? with _ | entry
  · exact .inl ⟨rfl, rfl⟩
  dsimp only
  rcases hpkt : entry.pkt with _ | pkt
  · exact .inr ⟨b, none, rfl, rfl, h.refl⟩
  dsimp only
  have hdelete := h.delete hidx entry
  have hkeep := h.set hidx
    { entry with pkt := some pkt, nextsendTimestamp := entry.nextsendTimestamp - ackTimeout + retryTimeout }
    b.queueSz b.hasGaps
  split_ifs with hshort hstatus
  · exact .inr ⟨_, _, rfl, congrArg (fun v => some (v, some pkt)) hdelete.view.symm, hdelete.sized, rfl,
      hdelete.untouched⟩
  · exact .inr ⟨_, _, rfl, congrArg (fun v => some (v, none)) hkeep.view.symm, hkeep.sized, rfl, hkeep.untouched⟩
  · exact .inr ⟨_, _, rfl, congrArg (fun v => some (v, some pkt)) hdelete.view.symm, hdelete.sized, rfl,
      hdelete.untouched⟩

theorem Bucket.Sized.dropExpired (seconds : Int) (n : Nat) : ∀ {b : Bucket} {idx : Nat}, b.Sized →
    idx + n ≤ b.lastPos.toNat → (dropExpiredSlots seconds n idx b).2 = (b.view.dropExpired seconds n idx).2 ∧
      b.Becomes (dropExpiredSlots seconds n idx b).1 (b.view.dropExpired seconds n idx).1 ∧
      (dropExpiredSlots seconds n idx b).1.lastPos = b.lastPos := by
  induction n with
  | zero =>
    intro b idx h _
    exact ⟨rfl, h.refl, rfl⟩
  | succ n ih =>
    intro b idx h hend
    have hidx : idx < b.lastPos.toNat := by omega
    rw [dropExpiredSlots, BucketView.dropExpired, getElem?_view hidx]
    rcases hslot : b.slots[idx]? with _ | entry
    · exact ih h (by omega)
    · dsimp only
      by_cases hexpires : expires seconds entry = true
      · have hdelete := h.delete hidx entry
        obtain ⟨hpkts, hrest, hlast⟩ := @ih _ (idx + 1) hdelete.sized (by
          change idx + 1 + n ≤ b.lastPos.toNat
          omega)
        rw [hdelete.view] at hpkts hrest
        rw [if_pos hexpires, if_pos hexpires]
        exact ⟨congrArg (entry.pkt.toList ++ ·) hpkts, hdelete.trans hrest hlast.symm, hlast⟩
      · rw [if_neg hexpires, if_neg hexpires]
        exact ih h (by omega)

theorem Bucket.Sized.send (h : b.Sized) (tv : Int) : (sendFromBucket tv b = none ∧ b.view.send tv = none) ∨
      ∃ b' pkt, sendFromBucket tv b = some (b', pkt) ∧ b.view.send tv = some (b'.view, pkt) ∧ b.Becomes b' b'.view := by
  unfold sendFromBucket BucketView.send
  rw [view_entries]
  rcases hfind : b.view.entries.findIdx? (fun entry => decide (entry.pkt.isSome ∧ entry.nextsendTimestamp ≤ tv)) with
    _ | idx
  · rw [hfind]
    exact .inl ⟨rfl, rfl⟩
  have hidx := h.lt_lastPos hfind
  rw [hfind]
  dsimp only
  rw [getElem?_view hidx]
  rcases hslot : b.slots[idx]? with _ | entry
  · exact .inl ⟨rfl, rfl⟩
  · have hsent := h.set hidx (sentEntry tv entry) b.queueSz b.hasGaps
    exact .inr ⟨_, _, rfl, congrArg (fun v => some (v, entry.pkt)) hsent.view.symm, hsent.sized, rfl, hsent.untouched⟩

/-! ## The live packets -/

def livePackets (entries : List AckMetaData) : List PendingPacket := entries.filterMap AckMetaData.pkt

def BucketView.live (v : BucketView) : List PendingPacket := livePackets v.entries

def serials (pkts : List PendingPacket) : List Nat := pkts.map PendingPacket.serial

def BucketView.Counted (v : BucketView) : Prop := v.queueSz = UInt16.ofNat v.live.length

structure BucketView.Loses (v v' : BucketView) (pkts : List PendingPacket) : Prop where
  order : v'.live.Sublist v.live
  packets : v.live.Perm (v'.live ++ pkts)
  counted : v.Counted → v'.Counted

theorem BucketView.Loses.refl (v : BucketView) : v.Loses v [] :=
  ⟨Sublist.refl _, by rw [append_nil], id⟩

theorem BucketView.Loses.trans {v v' v'' : BucketView} {pkts pkts' : List PendingPacket} (h : v.Loses v' pkts)
    (h' : v'.Loses v'' pkts') : v.Loses v'' (pkts ++ pkts') where
  order := h'.order.trans h.order
  packets :=
    calc Perm v.live (v'.live ++ pkts) := h.packets
      Perm _ (v''.live ++ pkts' ++ pkts) := h'.packets.append_right pkts
      Perm _ (v''.live ++ (pkts ++ pkts')) := by
        rw [append_assoc]
        exact perm_append_comm.append_left v''.live
  counted := h'.counted ∘ h.counted

theorem livePackets_set {entries : List AckMetaData} {entry : AckMetaData} (h : entries[idx]? = some entry)
    (new : AckMetaData) : ∃ before after, livePackets entries = before ++ entry.pkt.toList ++ after ∧
      livePackets (entries.set idx new) = before ++ new.pkt.toList ++ after := by
  obtain ⟨hidx, rfl⟩ := List.getElem?_eq_some_iff.mp h
  have hslot : ∀ entry : AckMetaData, livePackets [entry] = entry.pkt.toList := by
    intro entry
    unfold livePackets
    rcases hpkt : entry.pkt with _ | pkt
    · rw [filterMap_cons_none hpkt]
      rfl
    · rw [filterMap_cons_some hpkt]
      rfl
  refine ⟨livePackets (entries.take idx), livePackets (entries.drop (idx + 1)), ?_, ?_⟩
  · calc livePackets entries
      _ = livePackets (entries.take idx ++ [entries[idx]] ++ entries.drop (idx + 1)) := by
        rw [append_assoc, singleton_append, ← drop_eq_getElem_cons hidx, take_append_drop]
      _ = _ := by
        rw [← hslot]
        unfold livePackets
        rw [filterMap_append, filterMap_append]
  · calc livePackets (entries.set idx new)
      _ = livePackets (entries.take idx ++ [new] ++ entries.drop (idx + 1)) := by
        rw [set_eq_take_append_cons_drop, if_pos hidx, append_assoc, singleton_append]
      _ = _ := by
        rw [← hslot]
        unfold livePackets
        rw [filterMap_append, filterMap_append]

theorem BucketView.loses_set {entry new : AckMetaData} (h : v.entries[idx]? = some entry)
    (hpkt : new.pkt = entry.pkt) : v.Loses { v with entries := v.entries.set idx new } [] := by
  obtain ⟨before, after, hold, hnew⟩ := livePackets_set h new
  have hlive : BucketView.live { v with entries := v.entries.set idx new } = v.live := by
    unfold BucketView.live
    rw [hold, hnew, hpkt]
  refine ⟨?_, ?_, ?_⟩
  · rw [hlive]
  · rw [hlive, append_nil]
  · intro hcounted
    unfold BucketView.Counted
    rw [hlive]
    exact hcounted

theorem BucketView.loses_delete {entry : AckMetaData} {pkt : PendingPacket}
    (h : v.entries[idx]? = some entry) (hpkt : entry.pkt = some pkt) : v.Loses (v.delete idx entry) [pkt] := by
  obtain ⟨before, after, hold, hnew⟩ := livePackets_set h { entry with pkt := none }
  rw [hpkt] at hold
  have hlive : v.live = before ++ [pkt] ++ after := hold
  have hlive' : (v.delete idx entry).live = before ++ after := by
    rw [← append_nil before]
    exact hnew
  refine ⟨?_, ?_, ?_⟩
  · rw [hlive, hlive']
    exact (sublist_append_left before [pkt]).append_right after
  · rw [hlive, hlive', append_assoc, append_assoc]
    exact perm_append_comm.append_left before
  · intro hcounted
    have hlen : v.live.length = (before ++ after).length + 1 := by
      rw [hlive]
      simp only [length_append, length_singleton]
      omega
    unfold BucketView.Counted at hcounted ⊢
    change v.queueSz - 1 = _
    rw [hcounted, hlive', hlen, UInt16.ofNat_add]
    exact UInt16.add_sub_cancel _ _

theorem BucketView.live_reindex (v : BucketView) : v.reindex.live = v.live := by
  unfold BucketView.reindex
  by_cases hgaps : v.hasGaps = true
  · rw [if_neg (not_not.mpr hgaps)]
    unfold BucketView.live livePackets
    rw [filterMap_filter]
    refine filterMap_congr fun entry _ => ?_
    rcases hpkt : entry.pkt with _ | pkt
    · rfl
    · rfl
  · rw [if_pos hgaps]

theorem BucketView.Counted.reindex (h : v.Counted) : v.reindex.Counted := by
  unfold BucketView.Counted
  rw [v.live_reindex]
  unfold BucketView.reindex
  by_cases hgaps : v.hasGaps = true
  · rw [if_neg (not_not.mpr hgaps)]
    change UInt16.ofNat _ = UInt16.ofNat _
    congr 1
    unfold BucketView.live livePackets
    rw [← countP_eq_length_filter, length_filterMap_eq_countP]
  · rw [if_pos hgaps]
    exact h

theorem BucketView.loses_reindex (v : BucketView) : v.Loses v.reindex [] :=
  ⟨by rw [v.live_reindex], by rw [v.live_reindex, append_nil], BucketView.Counted.reindex⟩

variable {pkt : Option PendingPacket}

theorem BucketView.loses_confirm {msgHandle status : UInt16}
    (h : v.confirm msgHandle status = some (v', pkt)) : v.Loses v' pkt.toList := by
  unfold BucketView.confirm at h
  rcases hfind : v.entries.findIdx? (fun entry => decide (entry.msgHandle = msgHandle)) with _ | idx
  · rw [hfind] at h
    cases h
  rw [hfind] at h
  dsimp only at h
  rcases hslot : v.entries[idx]? with _ | entry
  · rw [hslot] at h
    cases h
  rw [hslot] at h
  dsimp only at h
  rcases hpkt : entry.pkt with _ | pkt
  · rw [hpkt] at h
    cases h
    exact Loses.refl v
  rw [hpkt] at h
  dsimp only at h
  split_ifs at h with hshort hstatus
  · cases h
    exact loses_delete hslot hpkt
  · cases h
    exact loses_set hslot hpkt.symm
  · cases h
    exact loses_delete hslot hpkt

theorem BucketView.loses_dropExpired (seconds : Int) (n : Nat) : ∀ (idx : Nat) (v : BucketView),
    v.Loses (v.dropExpired seconds n idx).1 (v.dropExpired seconds n idx).2 := by
  induction n with
  | zero => exact fun _ v => Loses.refl v
  | succ n ih =>
    intro idx v
    unfold BucketView.dropExpired
    rcases hslot : v.entries[idx]? with _ | entry
    · exact ih (idx + 1) v
    dsimp only
    by_cases hexpires : expires seconds entry = true
    · rw [if_pos hexpires]
      have hsome : entry.pkt.isSome = true := (of_decide_eq_true hexpires).1
      obtain ⟨pkt, hpkt⟩ := Option.isSome_iff_exists.mp hsome
      have hhere := loses_delete hslot hpkt
      have hrest := ih (idx + 1) (v.delete idx entry)
      rw [hpkt]
      exact hhere.trans hrest
    · rw [if_neg hexpires]
      exact ih (idx + 1) v

theorem BucketView.loses_send {tv : Int} (h : v.send tv = some (v', pkt)) : v.Loses v' [] := by
  unfold BucketView.send at h
  rcases hfind : v.entries.findIdx? (fun entry => decide (entry.pkt.isSome ∧ entry.nextsendTimestamp ≤ tv)) with _ | idx
  · rw [hfind] at h
    cases h
  rw [hfind] at h
  dsimp only at h
  rcases hslot : v.entries[idx]? with _ | entry
  · rw [hslot] at h
    cases h
  rw [hslot] at h
  cases h
  exact loses_set hslot rfl

theorem BucketView.live_le (v : BucketView) : v.live.length ≤ v.entries.length := length_filterMap_le _ _

theorem BucketView.add_cases {it : AckMetaData} {pkt : PendingPacket} (hpkt : it.pkt = some pkt) (h : v.Counted) :
    (v.add it).2.Counted ∧
      if maxPendingSize ≤ v.live.length then (v.add it).1 = false ∧ (v.add it).2.live = v.live
      else (v.add it).1 = true ∧ (v.add it).2.live = v.live ++ [pkt] := by
  have hmade : ∃ made, made = (if v.entries.length ≥ maxPendingSize then ({ v with hasGaps := true } :
    BucketView).reindex
      else v) ∧ made.live = v.live ∧ made.Counted ∧
      (made.entries.length ≥ maxPendingSize ↔ maxPendingSize ≤ v.live.length) := by
    refine ⟨_, rfl, ?_⟩
    by_cases hfull : v.entries.length ≥ maxPendingSize
    · rw [if_pos hfull]
      have hgaps : BucketView.Counted { v with hasGaps := true } := h
      refine ⟨live_reindex _, hgaps.reindex, ?_⟩
      unfold reindex BucketView.live livePackets
      rw [if_neg (not_not.mpr rfl), ← countP_eq_length_filter, length_filterMap_eq_countP]
    · rw [if_neg hfull]
      have hlive := v.live_le
      exact ⟨rfl, h, by omega⟩
  obtain ⟨made, hdef, hlive, hcounted, hfull⟩ := hmade
  unfold add
  rw [← hdef]
  by_cases hroom : made.entries.length ≥ maxPendingSize
  · rw [if_pos hroom, if_pos (hfull.mp hroom)]
    exact ⟨hcounted, rfl, hlive⟩
  · rw [if_neg hroom, if_neg (mt hfull.mpr hroom)]
    have happend : BucketView.live { made with entries := made.entries ++ [it], queueSz := made.queueSz + 1 } =
        v.live ++ [pkt] := by
      rw [← hlive]
      unfold BucketView.live livePackets
      rw [filterMap_append, filterMap_cons_some hpkt]
      rfl
    refine ⟨?_, rfl, happend⟩
    unfold Counted at hcounted ⊢
    rw [happend, hcounted, hlive, length_append, UInt16.ofNat_add]
    rfl

end Isa100Gateway
