import Isa100Gateway.BackBone.QueueAccounting

/-!
# Runs of the retransmission queue

Every packet that is offered to the queue gets the next serial number. A run keeps account of the packets that were accepted, and of those of which the caller was told that they were not.
-/

namespace Isa100Gateway

open BucketView List PendingPacket

namespace MsgQueue

def live (q : MsgQueue) (lvl : PrioQueue) : List PendingPacket := (q.bucket lvl).view.live

def held (q : MsgQueue) : List Nat := serials (q.live .high ++ q.live .low ++ q.ackPkt.toList)

structure Ok (q : MsgQueue) : Prop where
  sized : ∀ lvl, (q.bucket lvl).Sized
  counted : ∀ lvl, (q.bucket lvl).view.Counted

/-- The packets `gone` leave the buckets and `ack` leaves the place for the acknowledgement; all are deleted. -/
structure Loses (q q' : MsgQueue) (gone : PrioQueue → List PendingPacket) (ack : List PendingPacket) : Prop where
  becomes : ∀ lvl, (q.bucket lvl).Becomes (q'.bucket lvl) (q'.bucket lvl).view
  loses : ∀ lvl, (q.bucket lvl).view.Loses (q'.bucket lvl).view (gone lvl)
  ackPkt : q.ackPkt.toList = q'.ackPkt.toList ++ ack
  deleted : q'.deleted = q.deleted ++ serials (gone .high ++ gone .low ++ ack)

variable {q q' : MsgQueue} {gone : PrioQueue → List PendingPacket} {ack : List PendingPacket}

theorem Loses.ok (h : q.Loses q' gone ack) (hok : q.Ok) : q'.Ok where
  sized lvl := (h.becomes lvl).sized
  counted lvl := (h.loses lvl).counted (hok.counted lvl)

theorem Loses.perm (h : q.Loses q' gone ack) : (q'.held ++ q'.deleted).Perm (q.held ++ q.deleted) := by
  refine perm_iff_count.mpr fun n => ?_
  have hhigh := ((h.loses .high).packets.map serial).count_eq n
  have hlow := ((h.loses .low).packets.map serial).count_eq n
  unfold held serials live
  rw [h.deleted, h.ackPkt]
  unfold serials
  simp only [map_append, count_append] at hhigh hlow ⊢
  omega

/-! ## What each call does -/

theorem bucket_congr (hhigh : q'.high = q.high) (hlow : q'.low = q.low) : q'.bucket = q.bucket := by
  funext lvl
  cases lvl with
  | high => exact hhigh
  | low => exact hlow

theorem bucket_setBucket (q : MsgQueue) (lvl lvl' : PrioQueue) (b : Bucket) :
    (q.setBucket lvl b).bucket lvl' = if lvl' = lvl then b else q.bucket lvl' := by
  cases lvl <;> cases lvl' <;> rfl

theorem bucket_dropExpired (now : Int) (q : MsgQueue) (lvl : PrioQueue) : (dropExpiredPackets now q).bucket lvl =
    (dropExpiredSlots (now - expiredTimeout) (q.bucket lvl).lastPos.toNat 0 (q.bucket lvl)).1 := by
  cases lvl <;> rfl

theorem bucket_reindex (q : MsgQueue) (lvl : PrioQueue) : (reindex q).bucket lvl = reindexBucket (q.bucket lvl) := by
  cases lvl <;> rfl

theorem Ok.keeps (h : q.Ok) (hhigh : q'.high = q.high) (hlow : q'.low = q.low)
    (hack : q.ackPkt.toList = q'.ackPkt.toList ++ ack) (hdeleted : q'.deleted = q.deleted ++ serials ack) :
    q.Loses q' (fun _ => []) ack := by
  have hbucket := bucket_congr hhigh hlow
  refine ⟨fun lvl => ?_, fun lvl => ?_, hack, hdeleted⟩
  · rw [hbucket]
    exact (h.sized lvl).refl
  · rw [hbucket]
    exact Loses.refl _

theorem Ok.replaces (h : q.Ok) {lvl : PrioQueue} {b : Bucket} {pkts : List PendingPacket}
    (hbecomes : (q.bucket lvl).Becomes b b.view) (hloses : (q.bucket lvl).view.Loses b.view pkts)
    (hhigh : q'.high = (q.setBucket lvl b).high) (hlow : q'.low = (q.setBucket lvl b).low) (hack : q'.ackPkt = q.ackPkt)
    (hdeleted : q'.deleted = q.deleted ++ serials pkts) : q.Loses q' (Function.update (fun _ => []) lvl pkts) [] := by
  have hbucket := bucket_congr hhigh hlow
  refine ⟨fun lvl' => ?_, fun lvl' => ?_, ?_, ?_⟩
  · rw [hbucket, bucket_setBucket]
    split
    · rename_i heq
      exact heq ▸ hbecomes
    · exact (h.sized lvl').refl
  · rw [hbucket, bucket_setBucket, Function.update_apply]
    split
    · rename_i heq
      exact heq ▸ hloses
    · exact Loses.refl _
  · rw [hack, append_nil]
  · rw [hdeleted, append_nil]
    cases lvl with
    | high => exact congrArg (fun l => q.deleted ++ serials l) (append_nil pkts).symm
    | low => rfl

theorem serials_toList (pkt : Option PendingPacket) : (pkt.map serial).toList = serials pkt.toList := by
  cases pkt <;> rfl

theorem Ok.confirm (h : q.Ok) (msgHandle status : UInt16) :
    ∃ gone, q.Loses (confirm msgHandle status q).2 gone [] := by
  unfold Isa100Gateway.confirm
  obtain ⟨hnone, -⟩ | ⟨b, pkt, hsome, hview, hbecomes⟩ := (h.sized .high).confirm msgHandle status
  · rw [show confirmBucket msgHandle status q.high = none from hnone]
    obtain ⟨hnone, -⟩ | ⟨b, pkt, hsome, hview, hbecomes⟩ := (h.sized .low).confirm msgHandle status
    · rw [show confirmBucket msgHandle status q.low = none from hnone]
      exact ⟨_, h.keeps rfl rfl (append_nil _).symm (append_nil _).symm⟩
    · rw [show confirmBucket msgHandle status q.low = some (b, pkt) from hsome]
      exact ⟨_, h.replaces hbecomes (loses_confirm hview) rfl rfl rfl (congrArg _ (serials_toList pkt))⟩
  · rw [show confirmBucket msgHandle status q.high = some (b, pkt) from hsome]
    exact ⟨_, h.replaces hbecomes (loses_confirm hview) rfl rfl rfl (congrArg _ (serials_toList pkt))⟩

theorem Ok.dropExpired (h : q.Ok) (now : Int) : ∃ gone, q.Loses (dropExpiredPackets now q) gone [] := by
  have hdrop := fun lvl => @Bucket.Sized.dropExpired (now - expiredTimeout)
    (q.bucket lvl).lastPos.toNat _ 0 (h.sized lvl)
    (by rw [Nat.zero_add])
  refine ⟨fun lvl => (dropExpiredSlots (now - expiredTimeout) (q.bucket lvl).lastPos.toNat 0 (q.bucket lvl)).2,
    fun lvl => ?_, fun lvl => ?_, (append_nil _).symm, congrArg (q.deleted ++ serials ·) (append_nil _).symm⟩
  · rw [bucket_dropExpired]
    exact ⟨(hdrop lvl).2.1.sized, rfl, (hdrop lvl).2.1.untouched⟩
  · rw [bucket_dropExpired, (hdrop lvl).1, (hdrop lvl).2.1.view]
    exact loses_dropExpired ..

theorem Ok.reindex (h : q.Ok) : q.Loses (reindex q) (fun _ => []) [] where
  becomes lvl := by
    rw [bucket_reindex]
    exact ⟨(h.sized lvl).reindex.sized, rfl, (h.sized lvl).reindex.untouched⟩
  loses lvl := by
    rw [bucket_reindex, (h.sized lvl).reindex.view]
    exact loses_reindex _
  ackPkt := (append_nil _).symm
  deleted := (append_nil _).symm

theorem Ok.sent (h : q.Ok) {tv : Int} {lvl : PrioQueue} {b : Bucket} {pkt : Option PendingPacket}
    (hview : (q.bucket lvl).view.send tv = some (b.view, pkt)) (hbecomes : (q.bucket lvl).Becomes b b.view)
    (written : List PendingPacket) (bufState : BufState) (bufRdyCounter : UInt16) :
    q.Loses { q.setBucket lvl b with written := written, bufState := bufState, bufRdyCounter := bufRdyCounter }
      (fun _ => []) [] := by
  have hack : (q.setBucket lvl b).ackPkt = q.ackPkt := by cases lvl <;> rfl
  have hdeleted : (q.setBucket lvl b).deleted = q.deleted ++ serials [] := by cases lvl <;> exact (append_nil _).symm
  rw [← Function.update_eq_self lvl fun _ => []]
  exact h.replaces hbecomes (loses_send hview) rfl rfl hack hdeleted

theorem Ok.same (h : q.Ok) (bufState : BufState) (bufRdyCounter : UInt16) :
    q.Loses { q with bufState := bufState, bufRdyCounter := bufRdyCounter } (fun _ => []) [] :=
  h.keeps rfl rfl (append_nil _).symm (append_nil _).symm

theorem Ok.retrySend (h : q.Ok) (tv : Int) : ∃ ack, q.Loses (retrySend tv q).2 (fun _ => []) ack := by
  obtain ⟨bufState, ackPkt, high, low, bufRdyCounter, written, deleted⟩ := q
  unfold Isa100Gateway.retrySend
  rcases ackPkt with _ | pkt
  · refine ⟨[], ?_⟩
    dsimp only
    generalize hmade : (if decide (bufState ≠ .bufRdy ∧ bufState ≠ .micErr) = true then
      ({ bufState := .bufRdy, ackPkt := none, high := high, low := low, bufRdyCounter := 0, written := written,
         deleted := deleted } : MsgQueue)
      else _) = made
    have hsame : ∃ bufState' bufRdyCounter', made =
        { bufState := bufState', ackPkt := none, high := high, low := low, bufRdyCounter := bufRdyCounter',
          written := written, deleted := deleted } := by
      rw [← hmade]
      split_ifs
      · exact ⟨_, _, rfl⟩
      · exact ⟨_, _, rfl⟩
    obtain ⟨bufState', bufRdyCounter', rfl⟩ := hsame
    split_ifs with hwait
    · exact h.same bufState (bufRdyCounter + 1)
    dsimp only
    obtain ⟨hnone, -⟩ | ⟨b, pkt, hsome, hview, hbecomes⟩ := (h.sized .high).send tv
    · rw [show sendFromBucket tv high = none from hnone]
      dsimp only
      obtain ⟨hnone, -⟩ | ⟨b, pkt, hsome, hview, hbecomes⟩ := (h.sized .low).send tv
      · rw [show sendFromBucket tv low = none from hnone]
        exact h.same bufState' bufRdyCounter'
      · rw [show sendFromBucket tv low = some (b, pkt) from hsome]
        exact @Ok.sent _ h tv .low b pkt hview hbecomes (written ++ pkt.toList) .bufFull bufRdyCounter'
    · rw [show sendFromBucket tv high = some (b, pkt) from hsome]
      exact @Ok.sent _ h tv .high b pkt hview hbecomes (written ++ pkt.toList) .bufFull bufRdyCounter'
  · exact ⟨[pkt], h.keeps rfl rfl rfl rfl⟩

structure Adds (q q' : MsgQueue) (pkt : PendingPacket) (prio : PrioLevel) (added : Bool) : Prop where
  becomes : ∀ lvl, (q.bucket lvl).Becomes (q'.bucket lvl) (q'.bucket lvl).view
  counted : ∀ lvl, (q'.bucket lvl).view.Counted
  live : ∀ lvl, q'.live lvl = q.live lvl ++ if added = true ∧ prio.queue = some lvl then [pkt] else []
  perm : (q'.held ++ q'.deleted).Perm (q.held ++ q.deleted ++ if added then [pkt.serial] else [])

theorem Ok.addPending (h : q.Ok) (pkt : PendingPacket) (prio : PrioLevel) (policy : LifetimePolicy) :
    q.Adds (addPending pkt prio policy q).2 pkt prio (addPending pkt prio policy q).1 := by
  unfold Isa100Gateway.addPending
  rcases hprio : prio.queue with _ | lvl
  · have hbucket : ({ q.delete q.ackPkt with ackPkt := some pkt } : MsgQueue).bucket = q.bucket := bucket_congr rfl rfl
    refine ⟨fun lvl => ?_, fun lvl => ?_, fun lvl => ?_, ?_⟩
    · rw [hbucket]
      exact (h.sized lvl).refl
    · rw [hbucket]
      exact h.counted lvl
    · unfold live
      rw [hbucket, hprio, if_neg (fun hlvl => nomatch hlvl.2), append_nil]
    · refine perm_iff_count.mpr fun n => ?_
      change count n (serials (q.live .high ++ q.live .low ++ [pkt]) ++
        (q.deleted ++ (q.ackPkt.map serial).toList)) = _
      unfold held
      rw [serials_toList, if_pos rfl]
      unfold serials
      simp only [map_append, count_append, map_cons, map_nil]
      omega
  · dsimp only
    generalize hit : ({ pkt := some pkt, .. } : AckMetaData) = it
    have hpkt : it.pkt = some pkt := by rw [← hit]
    obtain ⟨hanswer, hbecomes⟩ := (h.sized lvl).add it
    obtain ⟨hcounted, hcases⟩ := add_cases hpkt (h.counted lvl)
    rw [← hanswer, ← hbecomes.view] at hcases
    rw [← hbecomes.view] at hcounted
    generalize haddto : addToBucket it (q.bucket lvl) = r at *
    obtain ⟨added, b⟩ := r
    dsimp only at *
    have hbecomes : (q.bucket lvl).Becomes b b.view := ⟨hbecomes.sized, rfl, hbecomes.untouched⟩
    have hlive : b.view.live = (q.bucket lvl).view.live ++ if added = true then [pkt] else [] := by
      split_ifs at hcases with hfull
      · rw [hcases.1, hcases.2]
        exact (append_nil _).symm
      · rw [hcases.1, hcases.2]
        rfl
    have hcount : ∀ n, (serials b.view.live).count n =
        (serials (q.bucket lvl).view.live).count n + (if added then [pkt.serial] else []).count n := by
      intro n
      rw [hlive]
      unfold serials
      rw [map_append, count_append]
      cases added <;> rfl
    refine ⟨fun lvl' => ?_, fun lvl' => ?_, fun lvl' => ?_, ?_⟩
    · rw [bucket_setBucket]
      split
      · rename_i heq
        exact heq ▸ hbecomes
      · exact (h.sized lvl').refl
    · rw [bucket_setBucket]
      split
      · exact hcounted
      · exact h.counted lvl'
    · unfold live
      rw [bucket_setBucket]
      split
      · rename_i heq
        subst heq
        rw [hlive]
        simp only [hprio, and_true]
      · rename_i hother
        rw [if_neg fun hlvl => hother (Option.some.inj (hlvl.2.symm.trans hprio)), append_nil]
    · refine perm_iff_count.mpr fun n => ?_
      have hcount := hcount n
      unfold held
      cases lvl
      · change count n (serials (b.view.live ++ q.live .low ++ q.ackPkt.toList) ++ q.deleted) = _
        unfold serials live at *
        simp only [map_append, count_append] at hcount ⊢
        omega
      · change count n (serials (q.live .high ++ b.view.live ++ q.ackPkt.toList) ++ q.deleted) = _
        unfold serials live at *
        simp only [map_append, count_append] at hcount ⊢
        omega

theorem Ok.addPending_refuses (h : q.Ok) (pkt : PendingPacket) (prio : PrioLevel) (policy : LifetimePolicy) :
    (Isa100Gateway.addPending pkt prio policy q).1 = false ↔
      ∃ lvl, prio.queue = some lvl ∧ maxPendingSize ≤ (q.live lvl).length := by
  unfold Isa100Gateway.addPending
  rcases hprio : prio.queue with _ | lvl
  · constructor
    · intro hrefused
      cases hrefused
    · rintro ⟨_, hlvl, _⟩
      cases hlvl
  · dsimp only
    generalize hit : ({ pkt := some pkt, .. } : AckMetaData) = it
    have hpkt : it.pkt = some pkt := by rw [← hit]
    have hanswer := ((h.sized lvl).add it).1
    have hcases := (add_cases hpkt (h.counted lvl)).2
    rw [hanswer]
    constructor
    · intro hrefused
      refine ⟨lvl, rfl, ?_⟩
      by_contra hroom
      have hadded := hcases
      rw [if_neg (show ¬maxPendingSize ≤ (q.bucket lvl).view.live.length from hroom)] at hadded
      exact Bool.false_ne_true (hrefused.symm.trans hadded.1)
    · rintro ⟨lvl', hlvl, hfull⟩
      cases hlvl
      rw [if_pos (show maxPendingSize ≤ (q.bucket lvl).view.live.length from hfull)] at hcases
      exact hcases.1

/-- The queues differ at most in the slots at or above the ends of their buckets. -/
structure Agrees (q q' : MsgQueue) : Prop where
  bufState : q'.bufState = q.bufState
  ackPkt : q'.ackPkt = q.ackPkt
  view : ∀ lvl, (q'.bucket lvl).view = (q.bucket lvl).view
  bufRdyCounter : q'.bufRdyCounter = q.bufRdyCounter
  written : q'.written = q.written
  deleted : q'.deleted = q.deleted

variable {b b' : Bucket}

theorem Agrees.setBucket (h : q.Agrees q') (hview : b'.view = b.view) (lvl : PrioQueue) :
    (q.setBucket lvl b).Agrees (q'.setBucket lvl b') := by
  have hviews : ∀ lvl', ((q'.setBucket lvl b').bucket lvl').view = ((q.setBucket lvl b).bucket lvl').view := by
    intro lvl'
    rw [bucket_setBucket, bucket_setBucket]
    split
    · exact hview
    · exact h.view lvl'
  cases lvl <;> exact ⟨h.bufState, h.ackPkt, hviews, h.bufRdyCounter, h.written, h.deleted⟩

theorem Agrees.delete (h : q.Agrees q') (pkt : Option PendingPacket) : (q.delete pkt).Agrees (q'.delete pkt) where
  bufState := h.bufState
  ackPkt := h.ackPkt
  view := by
    rintro (_ | _)
    · exact h.view .high
    · exact h.view .low
  bufRdyCounter := h.bufRdyCounter
  written := h.written
  deleted := congrArg (· ++ _) h.deleted

theorem Agrees.addPending (h : q.Agrees q') (hok : q.Ok) (hok' : q'.Ok) (pkt : PendingPacket) (prio : PrioLevel)
    (policy : LifetimePolicy) : (addPending pkt prio policy q').1 = (addPending pkt prio policy q).1 ∧
      (addPending pkt prio policy q).2.Agrees (addPending pkt prio policy q').2 := by
  unfold Isa100Gateway.addPending
  rcases hprio : prio.queue with _ | lvl
  · have hdelete := h.delete q.ackPkt
    rw [← h.ackPkt] at hdelete ⊢
    exact ⟨rfl, hdelete.bufState, rfl, hdelete.view, hdelete.bufRdyCounter, hdelete.written, hdelete.deleted⟩
  · dsimp only
    obtain ⟨hanswer, hbecomes⟩ := (hok.sized lvl).add _
    obtain ⟨hanswer', hbecomes'⟩ := (hok'.sized lvl).add _
    rw [h.view lvl] at hanswer' hbecomes'
    exact ⟨hanswer'.trans hanswer.symm, h.setBucket (hbecomes'.view.trans hbecomes.view.symm) lvl⟩

theorem act_agrees {act : Bucket → Option (Bucket × Option PendingPacket)}
    {model : BucketView → Option (BucketView × Option PendingPacket)}
    (hact : ∀ b : Bucket, b.Sized → act b = none ∧ model b.view = none ∨
      ∃ c pkt, act b = some (c, pkt) ∧ model b.view = some (c.view, pkt) ∧ b.Becomes c c.view)
    (hview : b'.view = b.view) (h : b.Sized) (h' : b'.Sized) :
    (act b = none ∧ act b' = none) ∨ ∃ c c' pkt, act b = some (c, pkt) ∧ act b' = some (c', pkt) ∧ c'.view =
      c.view := by
  obtain ⟨hnone, hv⟩ | ⟨c, pkt, hsome, hv, -⟩ := hact b h
  · obtain ⟨hnone', -⟩ | ⟨c', pkt', -, hv', -⟩ := hact b' h'
    · exact .inl ⟨hnone, hnone'⟩
    · rw [hview, hv] at hv'
      cases hv'
  · obtain ⟨-, hv'⟩ | ⟨c', pkt', hsome', hv', -⟩ := hact b' h'
    · rw [hview, hv] at hv'
      cases hv'
    · rw [hview, hv] at hv'
      obtain ⟨hc, rfl⟩ := Prod.mk.inj (Option.some.inj hv')
      exact .inr ⟨c, c', pkt, hsome, hsome', hc.symm⟩

section

variable (h : q.Agrees q') (hok : q.Ok) (hok' : q'.Ok)
include h hok hok'

theorem Agrees.confirm (msgHandle status : UInt16) :
    (confirm msgHandle status q').1 = (confirm msgHandle status q).1 ∧
      (confirm msgHandle status q).2.Agrees (confirm msgHandle status q').2 := by
  unfold Isa100Gateway.confirm
  obtain ⟨hnone, hnone'⟩ | ⟨c, c', pkt, hsome, hsome', hc⟩ :=
    act_agrees (fun _ h => h.confirm msgHandle status) (h.view .high) (hok.sized .high) (hok'.sized .high)
  · rw [show confirmBucket msgHandle status q.high = none from hnone,
      show confirmBucket msgHandle status q'.high = none from hnone']
    obtain ⟨hnone, hnone'⟩ | ⟨c, c', pkt, hsome, hsome', hc⟩ :=
      act_agrees (fun _ h => h.confirm msgHandle status) (h.view .low) (hok.sized .low) (hok'.sized .low)
    · rw [show confirmBucket msgHandle status q.low = none from hnone,
        show confirmBucket msgHandle status q'.low = none from hnone']
      exact ⟨rfl, h⟩
    · rw [show confirmBucket msgHandle status q.low = _ from hsome,
        show confirmBucket msgHandle status q'.low = _ from hsome']
      exact ⟨rfl, (h.setBucket hc .low).delete pkt⟩
  · rw [show confirmBucket msgHandle status q.high = _ from hsome,
      show confirmBucket msgHandle status q'.high = _ from hsome']
    exact ⟨rfl, (h.setBucket hc .high).delete pkt⟩

theorem Agrees.dropExpired (now : Int) : (dropExpiredPackets now q).Agrees (dropExpiredPackets now q') := by
  have hends : ∀ lvl, (q'.bucket lvl).lastPos.toNat = (q.bucket lvl).lastPos.toNat := by
    intro lvl
    rw [← (hok.sized lvl).length_entries, ← (hok'.sized lvl).length_entries, h.view lvl]
  have hdrop := fun lvl => @Bucket.Sized.dropExpired (now - expiredTimeout) (q.bucket lvl).lastPos.toNat _ 0
    (hok.sized lvl) (by rw [Nat.zero_add])
  have hdrop' := fun lvl => @Bucket.Sized.dropExpired (now - expiredTimeout) (q.bucket lvl).lastPos.toNat _ 0
    (hok'.sized lvl) (by rw [Nat.zero_add, hends lvl])
  have hpkts := fun lvl => (hdrop' lvl).1.trans ((h.view lvl).symm ▸ (hdrop lvl).1.symm)
  have hviews := fun lvl => (hdrop' lvl).2.1.view.trans ((h.view lvl).symm ▸ (hdrop lvl).2.1.view.symm)
  unfold dropExpiredPackets
  rw [show q'.high.lastPos.toNat = _ from hends .high, show q'.low.lastPos.toNat = _ from hends .low]
  refine ⟨h.bufState, h.ackPkt, ?_, h.bufRdyCounter, h.written, ?_⟩
  · rintro (_ | _)
    · exact hviews .high
    · exact hviews .low
  · dsimp only
    rw [h.deleted]
    exact congrArg (fun pkts : List PendingPacket => q.deleted ++ pkts.map serial)
      (congr (congrArg _ (hpkts .high)) (hpkts .low))

theorem Agrees.reindex : (reindex q).Agrees (reindex q') where
  bufState := h.bufState
  ackPkt := h.ackPkt
  view lvl := by
    rw [bucket_reindex, bucket_reindex]
    calc (reindexBucket (q'.bucket lvl)).view
      _ = (q'.bucket lvl).view.reindex := (hok'.sized lvl).reindex.view
      _ = (q.bucket lvl).view.reindex := by rw [h.view lvl]
      _ = (reindexBucket (q.bucket lvl)).view := (hok.sized lvl).reindex.view.symm
  bufRdyCounter := h.bufRdyCounter
  written := h.written
  deleted := h.deleted

theorem Agrees.retrySend (tv : Int) :
    (retrySend tv q').1 = (retrySend tv q).1 ∧ (retrySend tv q).2.Agrees (retrySend tv q').2 := by
  obtain ⟨bufState, ackPkt, high, low, bufRdyCounter, written, deleted⟩ := q
  obtain ⟨bufState', ackPkt', high', low', bufRdyCounter', written', deleted'⟩ := q'
  obtain rfl : bufState' = bufState := h.bufState
  obtain rfl : ackPkt' = ackPkt := h.ackPkt
  obtain rfl : bufRdyCounter' = bufRdyCounter := h.bufRdyCounter
  obtain rfl : written' = written := h.written
  obtain rfl : deleted' = deleted := h.deleted
  have hview : ∀ (bufState : BufState) (ackPkt : Option PendingPacket) (bufRdyCounter : UInt16)
      (written : List PendingPacket) (deleted : List Nat),
      Agrees { bufState, ackPkt, high, low, bufRdyCounter, written, deleted }
        { bufState, ackPkt, high := high', low := low', bufRdyCounter, written, deleted } := by
    refine fun _ _ _ _ _ => ⟨rfl, rfl, ?_, rfl, rfl, rfl⟩
    rintro (_ | _)
    · exact h.view .high
    · exact h.view .low
  unfold Isa100Gateway.retrySend
  rcases ackPkt' with _ | pkt
  · dsimp only
    by_cases hwaiting : decide (bufState' ≠ .bufRdy ∧ bufState' ≠ .micErr) = true ∧
      (bufRdyCounter' + 1).toNat < rdyTimerCicles
    · rw [if_pos hwaiting, if_pos hwaiting]
      exact ⟨rfl, hview _ _ _ _ _⟩
    rw [if_neg hwaiting, if_neg hwaiting]
    have hready : ∃ bufState bufRdyCounter, ∀ high low,
        (if decide (bufState' ≠ .bufRdy ∧ bufState' ≠ .micErr) = true then
          ({ bufState := .bufRdy, ackPkt := none, high := high, low := low, bufRdyCounter := 0, written := written',
             deleted := deleted' } : MsgQueue)
          else { bufState := bufState', ackPkt := none, high := high, low := low, bufRdyCounter := bufRdyCounter',
                 written := written', deleted := deleted' }) =
        { bufState := bufState, ackPkt := none, high := high, low := low, bufRdyCounter := bufRdyCounter,
          written := written', deleted := deleted' } := by
      by_cases hbusy : decide (bufState' ≠ .bufRdy ∧ bufState' ≠ .micErr) = true
      · exact ⟨_, _, fun _ _ => if_pos hbusy⟩
      · exact ⟨_, _, fun _ _ => if_neg hbusy⟩
    obtain ⟨bufState, bufRdyCounter, hready⟩ := hready
    rw [hready, hready]
    obtain ⟨hnone, hnone'⟩ | ⟨c, c', pkt, hsome, hsome', hc⟩ :=
      act_agrees (fun _ h => h.send tv) (h.view .high) (hok.sized .high) (hok'.sized .high)
    · rw [show sendFromBucket tv high = none from hnone, show sendFromBucket tv high' = none from hnone']
      obtain ⟨hnone, hnone'⟩ | ⟨c, c', pkt, hsome, hsome', hc⟩ :=
        act_agrees (fun _ h => h.send tv) (h.view .low) (hok.sized .low) (hok'.sized .low)
      · rw [show sendFromBucket tv low = none from hnone, show sendFromBucket tv low' = none from hnone']
        exact ⟨rfl, hview _ _ _ _ _⟩
      · rw [show sendFromBucket tv low = _ from hsome, show sendFromBucket tv low' = _ from hsome']
        exact ⟨rfl, (hview .bufFull none bufRdyCounter (written' ++ pkt.toList) deleted').setBucket hc .low⟩
    · rw [show sendFromBucket tv high = _ from hsome, show sendFromBucket tv high' = _ from hsome']
      exact ⟨rfl, (hview .bufFull none bufRdyCounter (written' ++ pkt.toList) deleted').setBucket hc .high⟩
  · exact ⟨rfl, hview _ _ _ _ _⟩

end

end MsgQueue

/-! ## Runs -/

structure TtyState where
  queue : MsgQueue
  hHandle : UInt16
  serial : Nat
  accepted : List Nat
  reported : List Nat

inductive TtyEvent
  | addPending (data : List UInt8) (prio : PrioLevel) (policy : LifetimePolicy)
  | addPktToTty (pkt : ProtocolPacket) (msgType : UInt8) (prio : PrioLevel) (policy : LifetimePolicy)
  | confirm (msgHandle status : UInt16)
  | dropExpired (now : Int)
  | reindex
  | retrySend (tv : Int)
  | setBufState (bufState : BufState)

def TtyState.offered (s : TtyState) (added told : Bool) (q : MsgQueue) : TtyState :=
  { s with
    queue := q
    serial := s.serial + 1
    accepted := s.accepted ++ if added then [s.serial] else []
    reported := s.reported ++ if told then [s.serial] else [] }

def ttyStep (computeCRC : List UInt8 → UInt16) (s : TtyState) : TtyEvent → TtyState
  | .addPending data prio policy =>
    let (added, q) := addPending ⟨s.serial, data⟩ prio policy s.queue
    s.offered added (!added) q
  | .addPktToTty pkt msgType prio policy =>
    let hHandle := nextHandle s.hHandle
    let queued : PendingPacket := ⟨s.serial, (framePkt computeCRC hHandle pkt msgType).data⟩
    let added := (addPending queued prio policy s.queue).1
    let (result, q) := addPktToTty hHandle queued prio policy s.queue
    { s with hHandle := hHandle }.offered added (result = -1) q
  | .confirm msgHandle status => { s with queue := (confirm msgHandle status s.queue).2 }
  | .dropExpired now => { s with queue := dropExpiredPackets now s.queue }
  | .reindex => { s with queue := reindex s.queue }
  | .retrySend tv => { s with queue := (retrySend tv s.queue).2 }
  | .setBufState bufState => { s with queue := { s.queue with bufState := bufState } }

structure TtyState.Initial (s : TtyState) : Prop where
  size : ∀ lvl, (s.queue.bucket lvl).slots.length = maxPendingSize
  lastPos : ∀ lvl, (s.queue.bucket lvl).lastPos = 0
  queueSz : ∀ lvl, (s.queue.bucket lvl).queueSz = 0
  ackPkt : s.queue.ackPkt = none
  deleted : s.queue.deleted = []
  serial : s.serial = 0
  accepted : s.accepted = []
  reported : s.reported = []

/-- No call through `addPktToTty` finds its bucket full of live packets. -/
def BucketHasRoom (s : TtyState) : TtyEvent → Prop
  | .addPktToTty _ _ prio _ => ∀ lvl, prio.queue = some lvl → (s.queue.bucket lvl).queueSz.toNat < maxPendingSize
  | _ => True

def Bucket.slotSerials (b : Bucket) : List Nat :=
  (b.slots.take b.lastPos.toNat).filterMap fun entry => entry.pkt.map serial

structure TtyState.Accounts (s : TtyState) : Prop where
  queueSz : ∀ lvl, (s.queue.bucket lvl).queueSz.toNat =
    ((s.queue.bucket lvl).slots.take (s.queue.bucket lvl).lastPos.toNat).countP fun entry => entry.pkt.isSome
  lastPos : ∀ lvl, (s.queue.bucket lvl).lastPos.toNat ≤ maxPendingSize
  order : ∀ lvl, (s.queue.bucket lvl).slotSerials.Pairwise (· < ·)
  /-- What was accepted is in one place once, in a slot or among the deleted. -/
  accepted : ∀ n, (s.queue.high.slotSerials ++ s.queue.low.slotSerials ++
    (s.queue.ackPkt.map PendingPacket.serial).toList ++ s.queue.deleted).count n = if n ∈ s.accepted then 1 else 0
  rejected : ∀ n < s.serial, n ∈ s.accepted ∨ n ∈ s.queue.deleted ∨ n ∈ s.reported

def TtyEvent.removes : TtyEvent → Bool
  | .confirm _ _ | .dropExpired _ => true
  | _ => false

/-- What one more call does: the slots at or above the end are neither written nor read, and only a confirm and the expiry take packets out of a bucket. -/
structure TtyState.Handles (computeCRC : List UInt8 → UInt16) (s : TtyState) (e : TtyEvent) : Prop where
  unwritten : ∀ lvl, (s.queue.bucket lvl).Untouched ((ttyStep computeCRC s e).queue.bucket lvl)
  unread : ∀ q, s.queue.Agrees q → (∀ lvl, (q.bucket lvl).Sized) → ∃ q', (ttyStep computeCRC s e).queue.Agrees q' ∧
      ttyStep computeCRC { s with queue := q } e = { ttyStep computeCRC s e with queue := q' }
  order : ∀ lvl, ∃ kept, kept.Sublist (s.queue.bucket lvl).slotSerials ∧
    kept <+: ((ttyStep computeCRC s e).queue.bucket lvl).slotSerials ∧
    (e.removes = false → kept = (s.queue.bucket lvl).slotSerials)

theorem slotSerials_eq (b : Bucket) : b.slotSerials = serials b.view.live := by
  unfold Bucket.slotSerials serials live livePackets
  rw [map_filterMap]
  rfl

structure TtyState.Housed (s : TtyState) : Prop where
  ok : s.queue.Ok
  sorted : ∀ lvl, (serials (s.queue.live lvl)).Pairwise (· < ·)
  packets : (s.queue.held ++ s.queue.deleted).Perm s.accepted
  issued : ∀ n ∈ s.accepted, n < s.serial
  nodup : s.accepted.Nodup
  told : ∀ n ∈ s.reported, n < s.serial
  answered : ∀ n < s.serial, n ∈ s.accepted ∨ n ∈ s.reported

namespace TtyState

variable {s : TtyState} {computeCRC : List UInt8 → UInt16}

theorem Initial.housed (h : s.Initial) : s.Housed := by
  have hview : ∀ lvl, (s.queue.bucket lvl).view.entries = [] := by
    intro lvl
    unfold Bucket.view
    rw [h.lastPos lvl]
    rfl
  have hlive : ∀ lvl, s.queue.live lvl = [] := by
    intro lvl
    unfold MsgQueue.live live
    rw [hview lvl]
    rfl
  refine ⟨⟨fun lvl => ⟨h.size lvl, ?_⟩, fun lvl => ?_⟩, fun lvl => ?_, ?_, ?_, ?_, ?_, ?_⟩
  · rw [h.lastPos lvl]
    exact Nat.zero_le _
  · unfold Counted
    rw [show (s.queue.bucket lvl).view.live = [] from hlive lvl]
    exact h.queueSz lvl
  · rw [hlive lvl]
    exact Pairwise.nil
  · unfold MsgQueue.held
    rw [hlive, hlive, h.ackPkt, h.deleted, h.accepted]
    exact Perm.refl _
  · rw [h.accepted]
    exact fun n hn => nomatch hn
  · rw [h.accepted]
    exact nodup_nil
  · rw [h.reported]
    exact fun n hn => nomatch hn
  · rw [h.serial]
    exact fun n hn => nomatch hn

variable {q : MsgQueue} {gone : PrioQueue → List PendingPacket} {ack : List PendingPacket}

theorem Housed.loses (h : s.Housed) (hloses : s.queue.Loses q gone ack) : Housed { s with queue := q } where
  ok := hloses.ok h.ok
  sorted lvl := (h.sorted lvl).sublist ((hloses.loses lvl).order.map _)
  packets := hloses.perm.trans h.packets
  issued := h.issued
  nodup := h.nodup
  told := h.told
  answered := h.answered

theorem Housed.live_lt (h : s.Housed) {lvl : PrioQueue} {n : Nat} (hn : n ∈ serials (s.queue.live lvl)) :
    n < s.serial := by
  refine h.issued n (h.packets.mem_iff.mp (mem_append_left _ ?_))
  unfold MsgQueue.held serials at *
  rw [map_append, map_append]
  cases lvl with
  | high => exact mem_append_left _ (mem_append_left _ hn)
  | low => exact mem_append_left _ (mem_append_right _ hn)

theorem Housed.offered (h : s.Housed) {pkt : PendingPacket} {prio : PrioLevel} {added told : Bool}
    (hadds : s.queue.Adds q pkt prio added) (hpkt : pkt.serial = s.serial) (htold : added = false → told = true) :
    (s.offered added told q).Housed where
  ok := ⟨fun lvl => (hadds.becomes lvl).sized, hadds.counted⟩
  sorted lvl := by
    change (serials (q.live lvl)).Pairwise (· < ·)
    rw [hadds.live lvl]
    split_ifs
    · rw [show serials (s.queue.live lvl ++ [pkt]) = serials (s.queue.live lvl) ++ [pkt.serial] from map_append]
      refine pairwise_append.mpr ⟨h.sorted lvl, pairwise_singleton _ _, ?_⟩
      intro n hn m hm
      rw [mem_singleton.mp hm, hpkt]
      exact h.live_lt hn
    · rw [append_nil]
      exact h.sorted lvl
  packets := by
    have hperm := hadds.perm.trans (h.packets.append_right _)
    rw [hpkt] at hperm
    exact hperm
  issued n hn := by
    obtain hold | hnew := mem_append.mp hn
    · exact Nat.lt_succ_of_lt (h.issued n hold)
    · split_ifs at hnew
      · rw [mem_singleton.mp hnew]
        exact Nat.lt_succ_self _
      · cases hnew
  nodup := by
    refine nodup_append.mpr ⟨h.nodup, ?_, ?_⟩
    · split_ifs
      · exact pairwise_singleton _ _
      · exact nodup_nil
    · intro n hn m hm
      split_ifs at hm
      · exact Nat.ne_of_lt (mem_singleton.mp hm ▸ h.issued n hn)
      · cases hm
  told n hn := by
    obtain hold | hnew := mem_append.mp hn
    · exact Nat.lt_succ_of_lt (h.told n hold)
    · split_ifs at hnew
      · rw [mem_singleton.mp hnew]
        exact Nat.lt_succ_self _
      · cases hnew
  answered n hn := by
    obtain hlt | rfl := Nat.lt_succ_iff_lt_or_eq.mp hn
    · exact (h.answered n hlt).imp (mem_append_left _) (mem_append_left _)
    · cases hadded : added with
      | true => exact .inl (mem_append_right _ (mem_singleton_self _))
      | false =>
        rw [htold hadded]
        exact .inr (mem_append_right _ (mem_singleton_self _))

theorem Housed.queueSz (h : s.Housed) (lvl : PrioQueue) :
    (s.queue.bucket lvl).queueSz.toNat = (s.queue.live lvl).length := by
  have hlive : (s.queue.live lvl).length ≤ maxPendingSize :=
    calc (s.queue.live lvl).length
      _ ≤ (s.queue.bucket lvl).view.entries.length := live_le _
      _ = (s.queue.bucket lvl).lastPos.toNat := (h.ok.sized lvl).length_entries
      _ ≤ maxPendingSize := (h.ok.sized lvl).lastPos
  have hcounted : (s.queue.bucket lvl).queueSz = UInt16.ofNat (s.queue.live lvl).length := h.ok.counted lvl
  rw [hcounted]
  exact UInt16.toNat_ofNat_of_lt' (Nat.lt_of_le_of_lt hlive (by decide))

theorem Housed.step (h : s.Housed) (e : TtyEvent) (hroom : BucketHasRoom s e) : (ttyStep computeCRC s e).Housed := by
  cases e with
  | addPending data prio policy =>
    exact h.offered (h.ok.addPending ⟨s.serial, data⟩ prio policy) rfl fun hrefused => by rw [hrefused]; rfl
  | addPktToTty pkt msgType prio policy =>
    have hhandle : Housed { s with hHandle := nextHandle s.hHandle } :=
      ⟨h.ok, h.sorted, h.packets, h.issued, h.nodup, h.told, h.answered⟩
    refine hhandle.offered (h.ok.addPending ⟨s.serial, _⟩ prio policy) rfl fun hrefused => ?_
    -- nothing is refused here, as the bucket has room
    obtain ⟨lvl, hlvl, hfull⟩ := (h.ok.addPending_refuses _ prio policy).mp hrefused
    exact absurd (hroom lvl hlvl) (Nat.not_lt.mpr (h.queueSz lvl ▸ hfull))
  | confirm msgHandle status =>
    obtain ⟨gone, hloses⟩ := h.ok.confirm msgHandle status
    exact h.loses hloses
  | dropExpired now =>
    obtain ⟨gone, hloses⟩ := h.ok.dropExpired now
    exact h.loses hloses
  | reindex => exact h.loses h.ok.reindex
  | retrySend tv =>
    obtain ⟨ack, hloses⟩ := h.ok.retrySend tv
    exact h.loses hloses
  | setBufState bufState => exact h.loses (h.ok.same bufState s.queue.bufRdyCounter)

theorem Housed.accounts (h : s.Housed) : s.Accounts where
  queueSz lvl := (h.queueSz lvl).trans length_filterMap_eq_countP
  lastPos lvl := (h.ok.sized lvl).lastPos
  order lvl := slotSerials_eq (s.queue.bucket lvl) ▸ h.sorted lvl
  accepted n := by
    rw [slotSerials_eq, slotSerials_eq]
    have hheld : s.queue.held = serials (s.queue.live .high) ++ serials (s.queue.live .low) ++
        (s.queue.ackPkt.map PendingPacket.serial).toList := by
      unfold MsgQueue.held serials
      rw [map_append, map_append]
      cases s.queue.ackPkt <;> rfl
    calc (serials (s.queue.live .high) ++ serials (s.queue.live .low) ++
          (s.queue.ackPkt.map PendingPacket.serial).toList ++ s.queue.deleted).count n
      _ = (s.queue.held ++ s.queue.deleted).count n := by rw [hheld]
      _ = s.accepted.count n := h.packets.count_eq n
      _ = if n ∈ s.accepted then 1 else 0 := h.nodup.count
  rejected n hn := (h.answered n hn).imp_right .inr

theorem handles_of_loses {e : TtyEvent}
    (hstep : (ttyStep computeCRC s e).queue = q) (hloses : s.queue.Loses q gone ack)
    (hgone : e.removes = false → ∀ lvl, gone lvl = [])
    (hunread : ∀ q, s.queue.Agrees q → q.Ok → ∃ q', (ttyStep computeCRC s e).queue.Agrees q' ∧
      ttyStep computeCRC { s with queue := q } e = { ttyStep computeCRC s e with queue := q' })
    (hok : s.queue.Ok) : s.Handles computeCRC e where
  unwritten lvl := hstep ▸ (hloses.becomes lvl).untouched
  unread q hagrees hsized := hunread q hagrees ⟨hsized, fun lvl => (hagrees.view lvl).symm ▸ hok.counted lvl⟩
  order lvl := by
    rw [hstep, slotSerials_eq, slotSerials_eq]
    refine ⟨serials (q.live lvl), (hloses.loses lvl).order.map _, prefix_rfl, fun hkeeps => ?_⟩
    have hperm := (hloses.loses lvl).packets
    rw [hgone hkeeps lvl, append_nil] at hperm
    exact congrArg serials ((hloses.loses lvl).order.eq_of_length hperm.length_eq.symm)

theorem handles_of_adds {pkt : PendingPacket} {prio : PrioLevel} {added : Bool} {e : TtyEvent}
    (hstep : (ttyStep computeCRC s e).queue = q) (hadds : s.queue.Adds q pkt prio added)
    (hunread : ∀ q, s.queue.Agrees q → q.Ok → ∃ q', (ttyStep computeCRC s e).queue.Agrees q' ∧
      ttyStep computeCRC { s with queue := q } e = { ttyStep computeCRC s e with queue := q' })
    (hok : s.queue.Ok) : s.Handles computeCRC e where
  unwritten lvl := hstep ▸ (hadds.becomes lvl).untouched
  unread q hagrees hsized := hunread q hagrees ⟨hsized, fun lvl => (hagrees.view lvl).symm ▸ hok.counted lvl⟩
  order lvl := by
    rw [hstep, slotSerials_eq, slotSerials_eq]
    refine ⟨serials (s.queue.live lvl), Sublist.refl _, ?_, fun _ => rfl⟩
    change serials (s.queue.live lvl) <+: serials (q.live lvl)
    rw [hadds.live lvl]
    exact (prefix_append _ _).map _

theorem Housed.handles (h : s.Housed) (e : TtyEvent) : s.Handles computeCRC e := by
  cases e with
  | addPending data prio policy =>
    refine handles_of_adds rfl (h.ok.addPending ⟨s.serial, data⟩ prio policy) (fun q hagrees hq => ?_) h.ok
    obtain ⟨hanswer, hrest⟩ := hagrees.addPending h.ok hq ⟨s.serial, data⟩ prio policy
    refine ⟨_, hrest, ?_⟩
    change TtyState.offered { s with queue := q } (addPending ⟨s.serial, data⟩ prio policy q).1
      (!(addPending ⟨s.serial, data⟩ prio policy q).1) (addPending ⟨s.serial, data⟩ prio policy q).2 = _
    rw [hanswer]
    rfl
  | addPktToTty pkt msgType prio policy =>
    refine handles_of_adds rfl (h.ok.addPending ⟨s.serial, _⟩ prio policy) (fun q hagrees hq => ?_) h.ok
    let queued : PendingPacket := ⟨s.serial, (framePkt computeCRC (nextHandle s.hHandle) pkt msgType).data⟩
    obtain ⟨hanswer, hrest⟩ := hagrees.addPending h.ok hq queued prio policy
    refine ⟨_, hrest, ?_⟩
    change TtyState.offered { s with queue := q, hHandle := nextHandle s.hHandle } (addPending queued prio policy q).1
      _ (addPending queued prio policy q).2 = _
    rw [hanswer]
    rfl
  | confirm msgHandle status =>
    obtain ⟨gone, hloses⟩ := h.ok.confirm msgHandle status
    exact handles_of_loses rfl hloses (fun hremoves => nomatch hremoves)
      (fun q hagrees hq => ⟨_, (hagrees.confirm h.ok hq msgHandle status).2, rfl⟩) h.ok
  | dropExpired now =>
    obtain ⟨gone, hloses⟩ := h.ok.dropExpired now
    exact handles_of_loses rfl hloses (fun hremoves => nomatch hremoves)
      (fun q hagrees hq => ⟨_, hagrees.dropExpired h.ok hq now, rfl⟩) h.ok
  | reindex =>
    exact handles_of_loses rfl h.ok.reindex (fun _ _ => rfl)
      (fun q hagrees hq => ⟨_, hagrees.reindex h.ok hq, rfl⟩) h.ok
  | retrySend tv =>
    obtain ⟨ack, hloses⟩ := h.ok.retrySend tv
    exact handles_of_loses rfl hloses (fun _ _ => rfl)
      (fun q hagrees hq => ⟨_, (hagrees.retrySend h.ok hq tv).2, rfl⟩) h.ok
  | setBufState bufState =>
    refine handles_of_loses rfl (h.ok.same bufState s.queue.bufRdyCounter) (fun _ _ => rfl) (fun q hagrees _ => ?_) h.ok
    refine ⟨{ q with bufState := bufState }, ⟨rfl, hagrees.ackPkt, ?_, hagrees.bufRdyCounter, hagrees.written,
      hagrees.deleted⟩, rfl⟩
    rintro (_ | _)
    · exact hagrees.view .high
    · exact hagrees.view .low

end TtyState

/-- In every run in which no call through `addPktToTty` finds its bucket full, the queue accounts for all its packets. -/
theorem queue_accounts (computeCRC : List UInt8 → UInt16) {init s : TtyState} (hinit : init.Initial)
    (h : Machine.Reachable init (ttyStep computeCRC) BucketHasRoom s) : s.Accounts ∧ ∀ e, s.Handles computeCRC e := by
  have hhoused : s.Housed := h.invariant hinit.housed fun s e hs hroom => hs.step e hroom
  exact ⟨hhoused.accounts, fun e => hhoused.handles e⟩

def emptyBucket : Bucket :=
  ⟨replicate maxPendingSize ⟨none, .high, 0, 0, 0, 0, .normalLifetime⟩, 0, 0, false⟩

def emptyTty : TtyState := ⟨⟨.bufRdy, none, emptyBucket, emptyBucket, 0, [], []⟩, 0, 0, [], []⟩

theorem emptyTty_initial : emptyTty.Initial where
  size := by rintro (_ | _) <;> exact length_replicate
  lastPos := by rintro (_ | _) <;> rfl
  queueSz := by rintro (_ | _) <;> rfl
  ackPkt := rfl
  deleted := rfl
  serial := rfl
  accepted := rfl
  reported := rfl

/-- Two fragments are queued, the first is sent and confirmed. -/
theorem queue_accounts_confirmed : (Machine.run (ttyStep fun _ => 0) emptyTty
      [.addPktToTty ⟨16, [], 2, by decide⟩ 5 .low .normalLifetime,
        .addPktToTty ⟨16, [], 2, by decide⟩ 5 .low .normalLifetime, .retrySend 100, .confirm 0x0100 0,
          .reindex]).Accounts :=
  (queue_accounts (fun _ => 0) emptyTty_initial
    (Machine.reachable_run (by
      refine ⟨?_, ?_, trivial, trivial, trivial, trivial⟩
      · intro lvl hlvl
        cases hlvl
        decide +kernel
      · intro lvl hlvl
        cases hlvl
        decide +kernel))).1

def localCommand : TtyEvent := .addPktToTty ⟨16, [], 2, by decide⟩ 3 .high .normalLifetime

theorem fills (n : Nat) : n ≤ maxPendingSize → ∃ s, Machine.Reachable emptyTty (ttyStep fun _ => 0) BucketHasRoom s ∧
    (s.queue.live .high).length = n := by
  induction n with
  | zero => exact fun _ => ⟨emptyTty, .init, rfl⟩
  | succ n ih =>
    intro hn
    obtain ⟨s, hs, hlen⟩ := ih (by omega)
    have hhoused : s.Housed := hs.invariant emptyTty_initial.housed fun s e hs hroom => hs.step e hroom
    have hroom : BucketHasRoom s localCommand := by
      intro lvl hlvl
      cases hlvl
      rw [hhoused.queueSz, hlen]
      omega
    refine ⟨_, hs.step localCommand hroom, ?_⟩
    have hadds := hhoused.ok.addPending ⟨s.serial,
      (framePkt (fun _ => 0) (nextHandle s.hHandle) ⟨16, [], 2, by decide⟩ 3).data⟩
      .high .normalLifetime
    have hadded := mt (hhoused.ok.addPending_refuses
      ⟨s.serial, (framePkt (fun _ => 0) (nextHandle s.hHandle) ⟨16, [], 2, by decide⟩ 3).data⟩ .high
        .normalLifetime).mp (by
        rintro ⟨lvl, hlvl, hfull⟩
        cases hlvl
        omega)
    calc _
      _ = _ := congrArg length (hadds.live .high)
      _ = n + 1 := by
        rw [if_pos ⟨Bool.of_not_eq_false hadded, rfl⟩, length_append, hlen]
        rfl

/-- The packet that comes to a full bucket is neither queued nor deleted nor reported. -/
theorem full_bucket_leaks : ∃ s, Machine.Reachable emptyTty (ttyStep fun _ => 0) (fun _ _ => True) s ∧ ¬s.Accounts := by
  obtain ⟨s, hs, hlen⟩ := fills maxPendingSize (Nat.le_refl _)
  have hhoused : s.Housed := hs.invariant emptyTty_initial.housed fun s e hs hroom => hs.step e hroom
  have hreach : Machine.Reachable emptyTty (ttyStep fun _ => 0) (fun _ _ => True) s := by
    clear hlen hhoused
    induction hs with
    | init => exact .init
    | step e _ _ ih => exact ih.step e trivial
  refine ⟨_, hreach.step localCommand trivial, fun haccounts => ?_⟩
  let queued : PendingPacket :=
    ⟨s.serial, (framePkt (fun _ => 0) (nextHandle s.hHandle) ⟨16, [], 2, by decide⟩ 3).data⟩
  have hrefused : (addPending queued .high .normalLifetime s.queue).1 = false :=
    (hhoused.ok.addPending_refuses queued .high .normalLifetime).mpr ⟨.high, rfl, hlen.ge⟩
  have hperm := (hhoused.ok.addPending queued .high .normalLifetime).perm
  rw [hrefused, if_neg Bool.false_ne_true, append_nil] at hperm
  have hnew : ∀ n, n ∈ s.accepted → n ≠ s.serial := fun n hn => Nat.ne_of_lt (hhoused.issued n hn)
  obtain haccepted | hdeleted | hreported := haccounts.rejected s.serial (Nat.lt_succ_self _)
  · change s.serial ∈ s.accepted ++ (if (addPending queued .high .normalLifetime s.queue).1 then [s.serial] else
      []) at haccepted
    rw [hrefused, if_neg Bool.false_ne_true, append_nil] at haccepted
    exact hnew _ haccepted rfl
  · exact hnew _ (hhoused.packets.mem_iff.mp (hperm.mem_iff.mp (mem_append_right _ hdeleted))) rfl
  · have hresult : decide (((nextHandle s.hHandle).toNat : Int) = -1) = false := decide_eq_false (by omega)
    change s.serial ∈ s.reported ++ (if decide (((nextHandle s.hHandle).toNat : Int) = -1) then [s.serial] else
      []) at hreported
    rw [hresult, if_neg Bool.false_ne_true, append_nil] at hreported
    exact Nat.lt_irrefl _ (hhoused.told _ hreported)

end Isa100Gateway
