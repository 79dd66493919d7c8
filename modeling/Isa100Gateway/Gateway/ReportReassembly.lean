import Isa100Gateway.Gateway.SystemReport

/-!
# Reassembly of the reports

Under which steps the blocks of a report are requested each once and in order, stay inside the buffer, and put together what the system manager announced.
-/

namespace Isa100Gateway

open Tiling SystemReportSvc List

namespace SystemReportSvc

/-- The buffer of a report: what was received of the data in front, and the whole of it where nothing is missing. -/
structure Holds (service : ReportService) (r : Report) (t : Transfer) (cells : List (Option UInt8)) : Prop where
  size_ne : r.size ≠ 0
  growing : r.received ≠ r.size → ∃ rest, cells = (t.data.take r.received.toNat).map some ++ rest ∧
    rest.length = t.data.length - r.received.toNat ∧ (t.invalidated = false → rest = replicate rest.length none)
  full : r.received = r.size → ∃ stats, cells = finishReport stats service (t.data.map some)

structure TransferInv (service : ReportService) (r : Report) (t : Transfer) : Prop where
  size_eq : r.size.toNat = t.data.length
  tiled : Tiles 0 t.requested (cover t.requested)
  cover_le : cover t.requested ≤ t.data.length
  received_le : r.received.toNat ≤ cover t.requested
  empty : r.bin = none → r.received = 0
  holds : ∀ cells ∈ r.bin, Holds service r t cells

structure RequestInv (r : Report) (t : Transfer) (q : BlockRequest) : Prop where
  handler : q.handler = r.handler
  data : q.data = t.data
  size_pos : 0 < q.size.toNat
  end_eq : q.offset.toNat + q.size.toNat = cover t.requested
  offset : q.offset = r.received ∨ r.received = 0

structure Inv (s : SystemReportSvc) : Prop where
  report : ∀ service, TransferInv service (s.reports service) (s.transfers service)
  request : ∀ q ∈ s.pending, q.number = (s.transfers q.service).number →
    RequestInv (s.reports q.service) (s.transfers q.service) q
  nodup : (s.pending.map BlockRequest.number).Nodup
  pending_lt : ∀ q ∈ s.pending, q.number < s.transferCount
  number_lt : ∀ service, (s.transfers service).number < s.transferCount
  blockSize : s.pending = [] ∨ s.maxBlockSize ≠ 0

theorem inv_start : Inv start where
  report _ :=
    { size_eq := rfl
      tiled := rfl
      cover_le := Nat.le_refl 0
      received_le := Nat.le_refl 0
      empty := fun _ => rfl
      holds := fun _ h => nomatch h }
  request _ hq := nomatch hq
  nodup := nodup_nil
  pending_lt _ hq := nomatch hq
  number_lt _ := Nat.zero_lt_one
  blockSize := .inl rfl

variable {s : SystemReportSvc} {service : ReportService}

variable {r : Report} {t : Transfer} {q : BlockRequest} {rsp : GenerateReportRsp}

/-- A report may change under its transfer as long as the request on its way is still for it. -/
theorem Inv.setReport (h : Inv s) (hinv : TransferInv service r t) (hnumber : t.number = (s.transfers service).number)
    (hrequest : ∀ q ∈ s.pending, q.service = service → q.number = (s.transfers service).number →
      RequestInv (s.reports service) (s.transfers service) q → RequestInv r t q) : Inv (s.setReport service r t) where
  report other := by
    by_cases heq : other = service
    · subst heq
      simpa [setReport] using hinv
    · simpa [SystemReportSvc.setReport, heq] using h.report other
  request q hq hcurrent := by
    by_cases heq : q.service = service
    · have hreq := h.request q hq
      subst heq
      simp only [setReport, Function.update_self] at hcurrent ⊢
      have hold : q.number = (s.transfers q.service).number := hcurrent.trans hnumber
      exact hrequest q hq rfl hold (hreq hold)
    · simp only [SystemReportSvc.setReport, Function.update_of_ne heq] at hcurrent ⊢
      exact h.request q hq hcurrent
  nodup := h.nodup
  pending_lt := h.pending_lt
  number_lt other := by
    by_cases heq : other = service
    · subst heq
      simpa [setReport, hnumber] using h.number_lt other
    · simpa [SystemReportSvc.setReport, heq] using h.number_lt other
  blockSize := h.blockSize

theorem RequestInv.restart (h : RequestInv r t q) (bin : Option (List (Option UInt8))) :
    RequestInv { r with bin := bin, received := 0 } { t with invalidated := true } q :=
  { h with offset := .inr rfl }

theorem inv_clean (h : Inv s) (service : ReportService) : Inv (s.clean service) := by
  have hreport := h.report service
  refine h.setReport ?_ rfl fun q _ _ _ hreq => hreq.restart none
  exact { hreport with
    received_le := Nat.zero_le _
    empty := fun _ => rfl
    holds := fun _ hcells => nomatch hcells }

theorem Holds.length {cells : List (Option UInt8)} (h : Holds service r t cells)
    (hreceived : r.received.toNat ≤ t.data.length) : cells.length = t.data.length := by
  by_cases hfull : r.received = r.size
  · obtain ⟨stats, rfl⟩ := h.full hfull
    rw [length_finishReport, length_map]
  · obtain ⟨rest, rfl, hrest, -⟩ := h.growing hfull
    rw [length_append, length_map, length_take, hrest]
    omega

theorem inv_reset (h : Inv s) (service : ReportService) : Inv (s.reset service) := by
  have hreport := h.report service
  refine h.setReport ?_ rfl fun q _ _ _ hreq => hreq.restart _
  refine { hreport with
    received_le := Nat.zero_le _
    empty := fun _ => rfl
    holds := fun cells hcells => ?_ }
  have hholds := hreport.holds cells hcells
  refine ⟨hholds.size_ne, fun _ => ⟨cells, rfl, ?_, nofun⟩, fun hzero => absurd hzero.symm hholds.size_ne⟩
  rw [hholds.length (Nat.le_trans hreport.received_le hreport.cover_le)]
  rfl

theorem inv_eraseIdx (h : Inv s) (k : Nat) : Inv { s with pending := s.pending.eraseIdx k } where
  report := h.report
  request q hq := h.request q (mem_of_mem_eraseIdx hq)
  nodup := ((eraseIdx_sublist s.pending k).map _).nodup h.nodup
  pending_lt q hq := h.pending_lt q (mem_of_mem_eraseIdx hq)
  number_lt := h.number_lt
  blockSize := h.blockSize.imp_left fun hnil => by simp [hnil]

theorem Inv.addRequest (h : Inv s) (hblock : s.maxBlockSize ≠ 0)
    (hcurrent : q.number = (s.transfers q.service).number)
    (hreq : RequestInv (s.reports q.service) (s.transfers q.service) q) (hnew : ∀ p ∈ s.pending, p.number ≠ q.number) :
    Inv { s with pending := s.pending ++ [q] } where
  report := h.report
  request p hp := by
    rcases mem_append.1 hp with hp | hp
    · exact h.request p hp
    · obtain rfl := mem_singleton.1 hp
      exact fun _ => hreq
  nodup := by
    rw [map_append, map_singleton, nodup_append]
    refine ⟨h.nodup, pairwise_singleton _ _, fun n hn m hm => ?_⟩
    obtain ⟨p, hp, rfl⟩ := mem_map.1 hn
    obtain rfl := mem_singleton.1 hm
    exact hnew p hp
  pending_lt p hp := by
    rcases mem_append.1 hp with hp | hp
    · exact h.pending_lt p hp
    · obtain rfl := mem_singleton.1 hp
      rw [hcurrent]
      exact h.number_lt p.service
  number_lt := h.number_lt
  blockSize := .inr hblock

theorem nextBlockSize_toNat (hreceived : r.received ≤ r.size) (maxBlockSize : UInt32) :
    (r.nextBlockSize maxBlockSize).toNat = min (r.size.toNat - r.received.toNat) maxBlockSize.toNat := by
  have hleft : (r.size - r.received).toNat = r.size.toNat - r.received.toNat := UInt32.toNat_sub_of_le _ _ hreceived
  unfold Report.nextBlockSize
  split
  · rename_i hlt
    rw [UInt32.lt_iff_toNat_lt, hleft] at hlt
    rw [hleft, Nat.min_eq_left (Nat.le_of_lt hlt)]
  · rename_i hge
    rw [UInt32.not_lt, UInt32.le_iff_toNat_le, hleft] at hge
    exact (Nat.min_eq_right hge).symm

theorem requestSize_toNat (hreceived : r.received ≤ r.size) {maxBlockSize : UInt32}
    (hfits : r.size - r.received < 65536 ∨ maxBlockSize < 65536) :
    (r.nextBlockSize maxBlockSize).toUInt16.toNat = min (r.size.toNat - r.received.toNat) maxBlockSize.toNat := by
  rw [UInt32.toNat_toUInt16, nextBlockSize_toNat hreceived, Nat.mod_eq_of_lt]
  rw [UInt32.lt_iff_toNat_lt, UInt32.lt_iff_toNat_lt, UInt32.toNat_sub_of_le _ _ hreceived] at hfits
  have hconst : (65536 : UInt32).toNat = 65536 := rfl
  omega

theorem inv_reqReportBlock (h : Inv s) (hblock : s.maxBlockSize ≠ 0)
    (hdone : (s.reports service).received.toNat = cover (s.transfers service).requested)
    (hmore : (s.reports service).received ≠ (s.reports service).size)
    (hfits : (s.reports service).size - (s.reports service).received < 65536 ∨ s.maxBlockSize < 65536)
    (hidle : ∀ q ∈ s.pending, q.number ≠ (s.transfers service).number) (sent : Bool) :
    Inv (s.reqReportBlock service sent) := by
  unfold reqReportBlock
  cases sent with
  | false => exact inv_clean h service
  | true =>
    have hreport := h.report service
    have hle : (s.reports service).received ≤ (s.reports service).size := by
      rw [UInt32.le_iff_toNat_le, hdone, hreport.size_eq]
      exact hreport.cover_le
    have hsize := requestSize_toNat hle hfits
    have hlt : (s.reports service).received.toNat < (s.reports service).size.toNat :=
      Nat.lt_of_le_of_ne (UInt32.le_iff_toNat_le.1 hle) fun heq => hmore (UInt32.toNat_inj.1 heq)
    have hblock' : 0 < s.maxBlockSize.toNat :=
      Nat.pos_of_ne_zero fun hzero => hblock (UInt32.toNat_inj.1 hzero)
    have hpos : 0 < ((s.reports service).nextBlockSize s.maxBlockSize).toUInt16.toNat := by
      rw [hsize]
      omega
    have hend : (s.reports service).received.toNat +
        ((s.reports service).nextBlockSize s.maxBlockSize).toUInt16.toNat ≤ (s.transfers service).data.length := by
      rw [hsize, ← hreport.size_eq]
      omega
    have hasked : Inv (s.setReport service (s.reports service) { s.transfers service with
        requested := (s.transfers service).requested ++ [((s.reports service).received.toNat,
          ((s.reports service).nextBlockSize s.maxBlockSize).toUInt16.toNat)] }) := by
      refine h.setReport ?_ rfl fun q hq _ hnumber => absurd hnumber (hidle q hq)
      refine { hreport with
        tiled := ?_
        cover_le := ?_
        received_le := ?_
        holds := fun cells hcells => ?_ }
      · rw [cover_append, hdone]
        exact hreport.tiled.append hpos
      · rw [cover_append, ← hdone]
        exact hend
      · rw [cover_append]
        exact Nat.le_trans hreport.received_le (Nat.le_add_right _ _)
      · exact ⟨(hreport.holds cells hcells).size_ne, (hreport.holds cells hcells).growing,
          (hreport.holds cells hcells).full⟩
    refine hasked.addRequest hblock ?_ ?_ hidle
    · simp
    · simp only [setReport_same]
      exact
        { handler := rfl
          data := rfl
          size_pos := hpos
          end_eq := by rw [cover_append, hdone]
          offset := .inl rfl }

theorem inv_newReport (h : Inv s) (hblock : s.maxBlockSize ≠ 0) {a : AnnouncedReport} (hsize : a.size ≠ 0)
    (hfits : a.size < 65536 ∨ s.maxBlockSize < 65536) (sent : Bool) : Inv (s.newReport service a sent) := by
  have hlen := a.size_toNat
  have hstarted : Inv { s.setReport service ⟨a.handler, a.size, some (replicate a.size.toNat none), 0⟩
      ⟨s.transferCount, a.data, [], false⟩ with transferCount := s.transferCount + 1 } :=
    { report := fun other => by
        by_cases heq : other = service
        · subst heq
          simp only [setReport_same]
          exact
            { size_eq := hlen
              tiled := rfl
              cover_le := Nat.zero_le _
              received_le := Nat.zero_le _
              empty := fun _ => rfl
              holds := fun cells hcells => by
                cases hcells
                refine ⟨hsize, fun _ => ⟨_, rfl, ?_, fun _ => ?_⟩, fun hzero => absurd hzero.symm hsize⟩
                · rw [length_replicate, hlen]
                  rfl
                · rw [length_replicate] }
        · simpa [setReport, heq] using h.report other
      request := fun q hq hcurrent => by
        by_cases heq : q.service = service
        · -- the number is a new one
          have hold := h.pending_lt q hq
          simp only [setReport, heq, Function.update_self] at hcurrent
          omega
        · simp only [setReport, Function.update_of_ne heq] at hcurrent ⊢
          exact h.request q hq hcurrent
      nodup := h.nodup
      pending_lt := fun q hq => Nat.lt_succ_of_lt (h.pending_lt q hq)
      number_lt := fun other => by
        by_cases heq : other = service
        · simp [setReport, heq]
        · simpa [setReport, heq] using Nat.lt_succ_of_lt (h.number_lt other)
      blockSize := h.blockSize }
  refine inv_reqReportBlock hstarted hblock ?_ ?_ ?_ ?_ sent
  · simp [cover]
  · simpa using hsize.symm
  · simpa using hfits
  · intro q hq
    have hold := h.pending_lt q hq
    simp only [setReport_same]
    omega

theorem inv_newOtherReports (hblock : rsp.maxBlockSize ≠ 0)
    (hfits : ∀ other, (rsp.report other).size < 65536 ∨ rsp.maxBlockSize < 65536) (sent : ReportService → Bool)
    (others : List ReportService) {s : SystemReportSvc} (h : Inv s) (hmax : s.maxBlockSize = rsp.maxBlockSize) :
    Inv (others.foldl (newOtherReport rsp service sent) s) ∧
      (others.foldl (newOtherReport rsp service sent) s).maxBlockSize = rsp.maxBlockSize := by
  induction others generalizing s with
  | nil => exact ⟨h, hmax⟩
  | cons other others ih =>
    rw [foldl_cons, newOtherReport]
    split
    · rename_i hnew
      refine ih (inv_newReport h ?_ hnew.1 ?_ _) ?_
      · rw [hmax]
        exact hblock
      · rw [hmax]
        exact hfits other
      · rw [maxBlockSize_newReport, hmax]
    · exact ih h hmax

theorem inv_generateReportRsp (h : Inv s) (hok : Usable rsp service → rsp.maxBlockSize ≠ 0 ∧
      ∀ other, (rsp.report other).size < 65536 ∨ rsp.maxBlockSize < 65536) (sent : ReportService → Bool) :
    Inv (s.generateReportRsp service rsp sent) := by
  unfold generateReportRsp
  split
  · rename_i husable
    obtain ⟨hblock, hfits⟩ := hok husable
    have hannounced : Inv { s with maxBlockSize := rsp.maxBlockSize } := { h with blockSize := .inr hblock }
    obtain ⟨hinv, hmax⟩ := inv_newOtherReports hblock hfits sent ReportService.all hannounced rfl
    refine inv_newReport hinv ?_ husable.1 ?_ _
    · rw [hmax]
      exact hblock
    · rw [hmax]
      exact hfits service
  · exact h

section

variable {r : Report} {t : Transfer} {q : BlockRequest}

section

variable (hreq : RequestInv r t q) (hreport : TransferInv service r t)
include hreq hreport

theorem RequestInv.end_le : q.offset.toNat + q.size.toNat ≤ t.data.length := by
  rw [hreq.end_eq]
  exact hreport.cover_le

theorem RequestInv.end_toNat : (q.offset + q.size.toUInt32).toNat = q.offset.toNat + q.size.toNat := by
  have hend := hreq.end_le hreport
  have hsize := r.size.toNat_lt
  rw [UInt32.toNat_add, UInt16.toNat_toUInt32, Nat.mod_eq_of_lt]
  rw [hreport.size_eq] at hsize
  omega

theorem RequestInv.write (hexpected : r.received = q.offset) {cells : List (Option UInt8)} (hcells : cells ∈ r.bin) :
    ∃ rest, Buffer.write cells q.offset.toNat (q.block.map some) =
        some ((t.data.take (q.offset.toNat + q.size.toNat)).map some ++ rest) ∧
      rest.length = t.data.length - (q.offset.toNat + q.size.toNat) ∧
      (t.invalidated = false → rest = replicate rest.length none) := by
  have hend := hreq.end_le hreport
  have hpos := hreq.size_pos
  have hmore : r.received ≠ r.size := by
    intro heq
    have hsize := hreport.size_eq
    rw [← heq, hexpected] at hsize
    omega
  obtain ⟨rest, rfl, hrest, hclear⟩ := (hreport.holds cells hcells).growing hmore
  rw [hexpected] at hrest ⊢
  have hfront : q.offset.toNat = ((t.data.take q.offset.toNat).map some).length := by
    rw [length_map, length_take_of_le (by omega)]
  have hblock : q.block.length = q.size.toNat := by
    rw [BlockRequest.block, hreq.data, length_take_of_le]
    rw [length_drop]
    omega
  have hold : (rest.take q.size.toNat).length = (q.block.map some).length := by
    rw [length_map, hblock, length_take_of_le (by omega)]
  have hjoin : (t.data.take q.offset.toNat).map some ++ q.block.map some =
      (t.data.take (q.offset.toNat + q.size.toNat)).map some := by
    rw [← map_append, BlockRequest.block, hreq.data, take_add]
  refine ⟨rest.drop q.size.toNat, ?_, ?_, fun hvalid => ?_⟩
  · rw [← take_append_drop q.size.toNat rest, ← append_assoc, Buffer.write_append hfront hold, hjoin,
      take_append_drop]
  · rw [length_drop, hrest, Nat.sub_sub]
  · rw [hclear hvalid, drop_replicate, length_replicate]

end

end

theorem inv_storeBlock (h : Inv s) (hblock : s.maxBlockSize ≠ 0)
    (hreq : RequestInv (s.reports q.service) (s.transfers q.service) q) (hexpected : Expected s q)
    (hidle : ∀ p ∈ s.pending, p.number ≠ (s.transfers q.service).number)
    (hfits : (s.reports q.service).size - (q.offset + q.size.toUInt32) < 65536 ∨ s.maxBlockSize < 65536)
    (stats : List UInt8 → Option (UInt8 × UInt8)) (sent : Bool) :
    ∃ s', s.storeBlock q stats sent = some s' ∧ Inv s' := by
  have hreport := h.report q.service
  have hend := hreq.end_le hreport
  have htoNat := hreq.end_toNat hreport
  obtain ⟨cells, hcells⟩ := Option.ne_none_iff_exists'.1 hexpected.1
  obtain ⟨rest, hwrite, hrest, hclear⟩ := hreq.write hreport hexpected.2.2 hcells
  have hsize_ne := (hreport.holds cells hcells).size_ne
  have hnew : ∀ bin : List (Option UInt8), (q.offset + q.size.toUInt32 ≠ (s.reports q.service).size →
        bin = ((s.transfers q.service).data.take (q.offset.toNat + q.size.toNat)).map some ++ rest) →
      (q.offset + q.size.toUInt32 = (s.reports q.service).size →
        ∃ stats, bin = finishReport stats q.service ((s.transfers q.service).data.map some)) →
      Inv (s.setReport q.service { s.reports q.service with
        bin := some bin, received := q.offset + q.size.toUInt32 } (s.transfers q.service)) := by
    intro bin hgrowing hfull
    refine h.setReport ?_ rfl fun p hp _ hnumber => absurd hnumber (hidle p hp)
    refine { hreport with
      received_le := ?_
      empty := fun hnone => nomatch hnone
      holds := fun cells' hcells' => ?_ }
    · exact Nat.le_of_eq (htoNat.trans hreq.end_eq)
    · cases hcells'
      refine ⟨hsize_ne, fun hmore => ⟨rest, ?_, ?_, hclear⟩, hfull⟩
      · rw [htoNat]
        exact hgrowing hmore
      · rw [htoNat, hrest]
  unfold storeBlock
  simp only [hcells, Option.getD_some, hwrite, Option.bind_eq_bind, Option.bind_some]
  split
  · rename_i hdone
    refine ⟨_, rfl, hnew _ (fun hmore => absurd hdone hmore) fun _ => ⟨stats, ?_⟩⟩
    have hall : q.offset.toNat + q.size.toNat = (s.transfers q.service).data.length := by
      rw [← htoNat, hdone, hreport.size_eq]
    rw [hall, Nat.sub_self, length_eq_zero_iff] at hrest
    rw [hall, hrest, take_length, append_nil]
  · rename_i hmore
    refine ⟨_, rfl, inv_reqReportBlock (hnew _ (fun _ => rfl) fun hdone => absurd hdone hmore) hblock ?_ ?_ ?_ ?_ sent⟩
    · simp only [setReport_same]
      rw [htoNat, hreq.end_eq]
    · simpa using hmore
    · simpa using hfits
    · rw [(setReport_same _ _ _ _).2]
      exact hidle

/-- The block size is announced as one, no request is for 65536 bytes or more, and a block is only taken for the transfer it was requested in. -/
def Admissible (s : SystemReportSvc) : ReportEvent → Prop
  | .generateReportRsp service rsp _ => Usable rsp service → rsp.maxBlockSize ≠ 0 ∧
      ∀ other, (rsp.report other).size < 65536 ∨ rsp.maxBlockSize < 65536
  | .getBlockRsp k len _ _ => ∀ q ∈ s.pending[k]?, len = q.size → ValidCall s q → Expected s q →
      q.number = (s.transfers q.service).number ∧
        ((s.reports q.service).size - (q.offset + q.size.toUInt32) < 65536 ∨ s.maxBlockSize < 65536)
  | _ => True

theorem idle_of_nodup {pending : List BlockRequest} (h : (pending.map BlockRequest.number).Nodup) {k : Nat}
    (hq : pending[k]? = some q) : ∀ p ∈ pending.eraseIdx k, p.number ≠ q.number := by
  obtain ⟨hk, hget⟩ := List.getElem?_eq_some_iff.1 hq
  have hsplit : pending = pending.take k ++ q :: pending.drop (k + 1) := by
    rw [← hget, getElem_cons_drop hk, take_append_drop]
  rw [hsplit, map_append, map_cons, nodup_append, nodup_cons] at h
  intro p hp heq
  rw [eraseIdx_eq_take_drop_succ, mem_append] at hp
  rcases hp with hfront | hback
  · exact h.2.2 p.number (mem_map_of_mem hfront) q.number mem_cons_self heq
  · exact h.2.1.1 (heq ▸ mem_map_of_mem hback)

theorem inv_cleanAll (h : Inv s) (services : List ReportService) : Inv (services.foldl clean s) := by
  induction services generalizing s with
  | nil => exact h
  | cons service services ih => exact ih (inv_clean h service)

theorem inv_step (h : Inv s) {e : ReportEvent} (hok : Admissible s e) : ∃ s', s.step e = some s' ∧ Inv s' := by
  cases e with
  | requestReport service => exact ⟨_, rfl, inv_reset h service⟩
  | generateReportRsp service rsp sent => exact ⟨_, rfl, inv_generateReportRsp h hok sent⟩
  | dropped k => exact ⟨_, rfl, inv_eraseIdx h k⟩
  | contractLost => exact ⟨_, rfl, inv_cleanAll h _⟩
  | getBlockRsp k len stats sent =>
    cases hq : s.pending[k]? with
    | none => exact ⟨s, by simp [step, hq], h⟩
    | some q =>
      have herased := inv_eraseIdx h k
      have hmem : q ∈ s.pending := mem_of_getElem? hq
      have hblock : s.maxBlockSize ≠ 0 := h.blockSize.resolve_left (ne_nil_of_mem hmem)
      simp only [step, hq]
      split
      · rename_i hlen
        rw [addReportBlock, if_neg hblock]
        split
        · rename_i htaken
          obtain ⟨hcurrent, hfits⟩ := hok q hq hlen htaken.1 htaken.2
          refine inv_storeBlock herased hblock (h.request q hmem hcurrent) htaken.2 ?_ hfits stats sent
          rw [← hcurrent]
          exact idle_of_nodup h.nodup hq
        · exact ⟨_, rfl, herased⟩
      · exact ⟨_, rfl, herased⟩

theorem inv_of_reaches (h : Machine.Reaches start step Admissible s) : Inv s := by
  refine h.invariant inv_start fun s e s' hinv hok hstep => ?_
  obtain ⟨s₁, hs₁, hinv₁⟩ := inv_step hinv hok
  cases hs₁.symm.trans hstep
  exact hinv₁

/-! ## Progress -/

def nextRequest (s : SystemReportSvc) (service : ReportService) : BlockRequest where
  service := service
  handler := (s.reports service).handler
  offset := (s.reports service).received
  size := ((s.reports service).nextBlockSize s.maxBlockSize).toUInt16
  number := (s.transfers service).number
  data := (s.transfers service).data

@[simp]
theorem nextRequest_service (s : SystemReportSvc) (service : ReportService) :
    (s.nextRequest service).service = service := rfl

/-- The next block of a report is on its way, and the block size is still the one the transfer began with. -/
structure Asking (s : SystemReportSvc) (service : ReportService) : Prop where
  pending : ∃ others, s.pending = others ++ [s.nextRequest service]
  bin : (s.reports service).bin ≠ none
  more : (s.reports service).received ≠ (s.reports service).size
  blockSize : s.maxBlockSize ≠ 0
  fits : (s.reports service).size < 65536 ∨ s.maxBlockSize < 65536
  aligned : (s.reports service).received % s.maxBlockSize = 0

def IsAnswer : ReportEvent → Prop
  | .getBlockRsp _ _ _ sent => sent = true
  | _ => False

theorem packets_last {maxBlockSize offset size : UInt32} (haligned : offset % maxBlockSize = 0) (hlt : offset < size)
    (hlast : size.toNat - offset.toNat < maxBlockSize.toNat) :
    packets maxBlockSize offset = packets maxBlockSize size - 1 := by
  have hmod : offset.toNat % maxBlockSize.toNat = 0 := by
    rw [← UInt32.toNat_mod, haligned]
    rfl
  obtain ⟨j, hj⟩ := Nat.dvd_of_mod_eq_zero hmod
  rw [UInt32.lt_iff_toNat_lt, hj] at hlt
  rw [hj] at hlast
  have hsize : size.toNat = (size.toNat - maxBlockSize.toNat * j) + maxBlockSize.toNat * j := by omega
  have hdiv : size / maxBlockSize = offset / maxBlockSize := by
    apply UInt32.toNat_inj.1
    rw [UInt32.toNat_div, UInt32.toNat_div, hj, hsize, Nat.add_mul_div_left _ _ (by omega), Nat.div_eq_of_lt hlast,
      Nat.zero_add, Nat.mul_div_cancel_left _ (by omega)]
  have hrest : size % maxBlockSize ≠ 0 := by
    intro heq
    have hzero : size.toNat % maxBlockSize.toNat = 0 := by
      rw [← UInt32.toNat_mod, heq]
      rfl
    rw [hsize, Nat.add_mul_mod_self_left, Nat.mod_eq_of_lt hlast] at hzero
    omega
  rw [packets, packets, if_neg (by simp [haligned]), if_pos hrest, hdiv, UInt32.add_zero, UInt32.add_sub_cancel]

theorem Asking.lt (hask : Asking s service) (h : Inv s) :
    (s.reports service).received.toNat < (s.reports service).size.toNat := by
  have hreport := h.report service
  have hle : (s.reports service).received.toNat ≤ (s.reports service).size.toNat := by
    rw [hreport.size_eq]
    exact Nat.le_trans hreport.received_le hreport.cover_le
  exact Nat.lt_of_le_of_ne hle fun heq => hask.more (UInt32.toNat_inj.1 heq)

theorem Asking.size_toNat (hask : Asking s service) (h : Inv s) : (s.nextRequest service).size.toNat =
    min ((s.reports service).size.toNat - (s.reports service).received.toNat) s.maxBlockSize.toNat := by
  have hlt := hask.lt h
  refine requestSize_toNat (UInt32.le_iff_toNat_le.2 (Nat.le_of_lt hlt)) (hask.fits.imp_left fun hsize => ?_)
  rw [UInt32.lt_iff_toNat_lt] at hsize ⊢
  rw [UInt32.toNat_sub_of_le _ _ (UInt32.le_iff_toNat_le.2 (Nat.le_of_lt hlt))]
  omega

theorem Asking.taken (hask : Asking s service) (h : Inv s) :
    ValidCall s (s.nextRequest service) ∧ Expected s (s.nextRequest service) := by
  have hsize := hask.size_toNat h
  have hlt := hask.lt h
  refine ⟨⟨hask.aligned, fun hless => ?_, ?_⟩, hask.bin, rfl, rfl⟩
  · rw [UInt32.lt_iff_toNat_lt, UInt16.toNat_toUInt32, hsize] at hless
    have hlast : (s.reports service).size.toNat - (s.reports service).received.toNat < s.maxBlockSize.toNat := by omega
    exact packets_last hask.aligned (UInt32.lt_iff_toNat_lt.2 hlt) hlast
  · rw [UInt32.le_iff_toNat_le, UInt16.toNat_toUInt32, hsize]
    omega

@[simp]
theorem reports_reqReportBlock (s : SystemReportSvc) (service : ReportService) :
    (s.reqReportBlock service true).reports = s.reports := by
  simp [reqReportBlock, setReport]

theorem data_reqReportBlock (s : SystemReportSvc) (service : ReportService) :
    ((s.reqReportBlock service true).transfers service).data = (s.transfers service).data := by
  simp [reqReportBlock, setReport]

theorem asking_reqReportBlock (hbin : (s.reports service).bin ≠ none)
    (hmore : (s.reports service).received ≠ (s.reports service).size) (hblock : s.maxBlockSize ≠ 0)
    (hfits : (s.reports service).size < 65536 ∨ s.maxBlockSize < 65536)
    (haligned : (s.reports service).received % s.maxBlockSize = 0) :
      Asking (s.reqReportBlock service true) service where
  pending := ⟨s.pending, by simp [reqReportBlock, nextRequest, setReport]⟩
  bin := by simpa using hbin
  more := by simpa using hmore
  blockSize := by simpa using hblock
  fits := by simpa using hfits
  aligned := by simpa using haligned

theorem Asking.step (hask : Asking s service) (h : Inv s) (stats : List UInt8 → Option (UInt8 × UInt8)) :
    ∃ k len s', Admissible s (.getBlockRsp k len stats true) ∧ s.step (.getBlockRsp k len stats true) = some s' ∧
      (s'.transfers service).data = (s.transfers service).data ∧
      ((s'.reports service).isComplete = true ∨ Asking s' service ∧
        (s'.reports service).size.toNat - (s'.reports service).received.toNat <
          (s.reports service).size.toNat - (s.reports service).received.toNat) := by
  obtain ⟨others, hpending⟩ := hask.pending
  have hmem : s.nextRequest service ∈ s.pending := by simp [hpending]
  have hq : s.pending[others.length]? = some (s.nextRequest service) := by
    rw [hpending, getElem?_concat_length]
  have hsize := hask.size_toNat h
  have hlt := hask.lt h
  have hreport := h.report service
  have hreq : RequestInv (s.reports service) (s.transfers service) (s.nextRequest service) := h.request _ hmem rfl
  have htoNat := hreq.end_toNat hreport
  obtain ⟨cells, hcells⟩ := Option.ne_none_iff_exists'.1 hask.bin
  obtain ⟨rest, hwrite, -, -⟩ := hreq.write hreport rfl hcells
  have hstep : s.step (.getBlockRsp others.length (s.nextRequest service).size stats true) =
      storeBlock { s with pending := s.pending.eraseIdx others.length } (s.nextRequest service) stats true := by
    simp only [SystemReportSvc.step, hq, if_true]
    rw [addReportBlock, if_neg hask.blockSize]
    exact if_pos (hask.taken h)
  have hok : Admissible s (.getBlockRsp others.length (s.nextRequest service).size stats true) := by
    intro q hq' _ _ _
    obtain rfl : s.nextRequest service = q := Option.some.inj (hq.symm.trans hq')
    refine ⟨rfl, hask.fits.imp_left fun hfits => ?_⟩
    have hend : (s.nextRequest service).offset + (s.nextRequest service).size.toUInt32 ≤ (s.reports service).size := by
      rw [UInt32.le_iff_toNat_le, htoNat, hreport.size_eq]
      exact hreq.end_le hreport
    rw [UInt32.lt_iff_toNat_lt] at hfits ⊢
    have hleft := UInt32.toNat_sub_of_le _ _ hend
    rw [nextRequest_service, hleft]
    exact Nat.lt_of_le_of_lt (Nat.sub_le _ _) hfits
  refine ⟨others.length, (s.nextRequest service).size, ?_⟩
  rw [hstep]
  unfold storeBlock
  simp only [nextRequest_service, hcells, Option.getD_some, hwrite, Option.bind_eq_bind, Option.bind_some]
  by_cases hdone : (s.nextRequest service).offset + (s.nextRequest service).size.toUInt32 = (s.reports service).size
  · simp only [hdone, ↓reduceIte]
    refine ⟨_, hok, rfl, ?_, .inl ?_⟩
    · simp
    · have hne : (s.reports service).size ≠ 0 := (hreport.holds cells hcells).size_ne
      simpa [Report.isComplete, hdone] using hne
  · simp only [hdone, ↓reduceIte]
    refine ⟨_, hok, rfl, ?_, .inr ⟨asking_reqReportBlock ?_ ?_ ?_ ?_ ?_, ?_⟩⟩
    · rw [data_reqReportBlock]
      simp
    · simp
    · simpa using hdone
    · exact hask.blockSize
    · simpa using hask.fits
    · -- a block that is not the last one is as large as blocks get
      have hfull : (s.nextRequest service).size.toNat = s.maxBlockSize.toNat := by
        have hne : (s.reports service).received.toNat + (s.nextRequest service).size.toNat ≠
            (s.reports service).size.toNat := fun heq => hdone (UInt32.toNat_inj.1 (htoNat.trans heq))
        omega
      have hmod : (s.reports service).received.toNat % s.maxBlockSize.toNat = 0 := by
        rw [← UInt32.toNat_mod, hask.aligned]
        rfl
      simp only [setReport_same, maxBlockSize_setReport]
      apply UInt32.toNat_inj.1
      rw [UInt32.toNat_mod, htoNat, hfull, Nat.add_mod_right]
      exact hmod
    · simp only [reports_reqReportBlock, setReport_same]
      rw [htoNat]
      have hpos := hreq.size_pos
      change (s.reports service).size.toNat - ((s.reports service).received.toNat + _) < _
      omega

theorem Asking.completes (hask : Asking s service) (h : Inv s) (stats : List UInt8 → Option (UInt8 × UInt8)) :
    ∃ answers s', (∀ a ∈ answers, IsAnswer a) ∧ Machine.AllAlong Admissible SystemReportSvc.step s answers ∧
      Machine.runs SystemReportSvc.step s answers = some s' ∧
      (s'.transfers service).data = (s.transfers service).data ∧ (s'.reports service).isComplete = true := by
  induction hleft : (s.reports service).size.toNat - (s.reports service).received.toNat using Nat.strongRecOn
    generalizing s with
  | _ left ih =>
    obtain ⟨k, len, s₁, hok, hstep, hdata, hdone | ⟨hnext, hless⟩⟩ := hask.step h stats
    · refine ⟨[.getBlockRsp k len stats true], s₁, ?_, ⟨hok, fun _ _ => trivial⟩, ?_, hdata, hdone⟩
      · intro a ha
        obtain rfl := mem_singleton.1 ha
        rfl
      · rw [Machine.runs, hstep]
        rfl
    · obtain ⟨s₂, hstep₂, hinv⟩ := inv_step h hok
      cases hstep.symm.trans hstep₂
      obtain ⟨answers, s', hanswers, halong, hruns, hdata', hdone⟩ := ih _ (hleft ▸ hless) hnext hinv rfl
      refine ⟨.getBlockRsp k len stats true :: answers, s', ?_, ⟨hok, ?_⟩, ?_, hdata'.trans hdata, hdone⟩
      · rw [forall_mem_cons]
        exact ⟨rfl, hanswers⟩
      · intro s₃ hs₃
        cases hstep.symm.trans hs₃
        exact halong
      · rw [Machine.runs, hstep]
        exact hruns

theorem asking_generateReportRsp (h : Inv s) (husable : Usable rsp service)
    (hok : rsp.maxBlockSize ≠ 0 ∧ ∀ other, (rsp.report other).size < 65536 ∨ rsp.maxBlockSize < 65536) :
    Asking (s.generateReportRsp service rsp fun _ => true) service ∧
      ((s.generateReportRsp service rsp fun _ => true).transfers service).data = (rsp.report service).data := by
  obtain ⟨hblock, hfits⟩ := hok
  have hannounced : Inv { s with maxBlockSize := rsp.maxBlockSize } := { h with blockSize := .inr hblock }
  obtain ⟨-, hmax⟩ := inv_newOtherReports hblock hfits (fun _ => true) ReportService.all hannounced rfl
  rw [generateReportRsp, if_pos husable, newReport]
  refine ⟨asking_reqReportBlock ?_ ?_ ?_ ?_ ?_, ?_⟩
  · simp
  · simpa using husable.1.symm
  · rw [← hmax] at hblock
    exact hblock
  · have hsize := hfits service
    rw [← hmax] at hsize
    simpa using hsize
  · simp
  · rw [data_reqReportBlock]
    simp

/-- The requests of a transfer are for each byte once and in order, all of them where the report is complete, and it is complete if its buffer has what was announced. `finishReport` changes network health reports only. -/
structure Reassembles (service : ReportService) (r : Report) (t : Transfer) : Prop where
  requests : ∃ hi ≤ t.data.length, Tiles 0 t.requested hi
  every_byte : r.isComplete = true → Tiles 0 t.requested t.data.length
  stored : r.isComplete = true → ∃ stats, r.bin = some (finishReport stats service (t.data.map some))
  declared : t.invalidated = false → r.bin = some (t.data.map some) → r.isComplete = true

theorem TransferInv.reassembles (h : TransferInv service r t) : Reassembles service r t := by
  have hdone : r.isComplete = true → r.received ≠ 0 ∧ r.received = r.size := by
    simp [Report.isComplete]
  refine ⟨⟨_, h.cover_le, h.tiled⟩, fun hcomplete => ?_, fun hcomplete => ?_, fun hvalid hbin => ?_⟩
  · have hcover : cover t.requested = t.data.length := by
      have hle := h.received_le
      rw [(hdone hcomplete).2, h.size_eq] at hle
      exact Nat.le_antisymm h.cover_le hle
    rw [← hcover]
    exact h.tiled
  · cases hbin : r.bin with
    | none => exact absurd (h.empty hbin) (hdone hcomplete).1
    | some cells =>
      obtain ⟨stats, rfl⟩ := (h.holds cells hbin).full (hdone hcomplete).2
      exact ⟨stats, rfl⟩
  · have hholds := h.holds _ hbin
    by_cases hfull : r.received = r.size
    · simpa [Report.isComplete, hfull] using hholds.size_ne
    · -- a cell that was not received has no value
      obtain ⟨rest, hcells, hrest, hclear⟩ := hholds.growing hfull
      have hlt : r.received.toNat < t.data.length := by
        refine Nat.lt_of_le_of_ne (Nat.le_trans h.received_le h.cover_le) fun heq => hfull ?_
        rw [← h.size_eq] at heq
        exact UInt32.toNat_inj.1 heq
      have hmem : none ∈ t.data.map some := by
        rw [hcells, hclear hvalid, mem_append, mem_replicate]
        exact .inr ⟨by omega, rfl⟩
      simp at hmem

/-- Every admissible step has a result, every report reached is requested and put together right, and one that the system manager announces and answers becomes complete. -/
theorem report_reassembly (h : Machine.Reaches start step Admissible s) :
    (∀ e, Admissible s e → ∃ s', s.step e = some s') ∧
      (∀ service, Reassembles service (s.reports service) (s.transfers service)) ∧
      ∀ service rsp, Usable rsp service → Admissible s (.generateReportRsp service rsp fun _ => true) →
        ∃ answers s', (∀ a ∈ answers, IsAnswer a) ∧
          Machine.AllAlong Admissible step s (.generateReportRsp service rsp (fun _ => true) :: answers) ∧
          Machine.runs step s (.generateReportRsp service rsp (fun _ => true) :: answers) = some s' ∧
          (s'.transfers service).data = (rsp.report service).data ∧ (s'.reports service).isComplete = true := by
  have hinv := inv_of_reaches h
  refine ⟨fun e hok => ?_, fun service => (hinv.report service).reassembles, fun service rsp husable hok => ?_⟩
  · obtain ⟨s', hstep, -⟩ := inv_step hinv hok
    exact ⟨s', hstep⟩
  · obtain ⟨hask, hdata⟩ := asking_generateReportRsp hinv husable (hok husable)
    have hannounced : Inv (s.generateReportRsp service rsp fun _ => true) := inv_generateReportRsp hinv hok _
    obtain ⟨answers, s', hanswers, halong, hruns, hdata', hdone⟩ := hask.completes hannounced fun _ => none
    refine ⟨answers, s', hanswers, ⟨hok, ?_⟩, hruns, hdata'.trans hdata, hdone⟩
    intro s₁ hs₁
    cases hs₁
    exact halong

def topologyRsp (maxBlockSize handler : UInt32) (data : List UInt8) (fits : data.length < 2 ^ 32) :
    GenerateReportRsp where
  maxBlockSize := maxBlockSize
  report service := if service = .topology then ⟨handler, data, fits⟩ else ⟨0, [], by decide⟩

theorem report_reassembly_topology : Reassembles .topology
      ((start.generateReportRsp .topology (topologyRsp 2 1 [1, 2, 3] (by decide)) fun _ => true).reports .topology)
      ((start.generateReportRsp .topology (topologyRsp 2 1 [1, 2, 3] (by decide)) fun _ =>
        true).transfers .topology) := by
  refine (report_reassembly (.step (.generateReportRsp .topology (topologyRsp 2 1 [1, 2, 3] (by decide)) fun _ => true)
    .init ?_ rfl)).2.1 .topology
  exact fun _ => ⟨by decide, fun _ => .inr (by decide)⟩

/-- A division by zero, and a write past the end of the buffer. -/
theorem report_reassembly_faults :
    (∃ s, Machine.Reaches start step (fun _ _ => True) s ∧ s.maxBlockSize = 0 ∧ ∃ e, s.step e = none) ∧
      ∃ s, Machine.Reaches start step (fun _ _ => True) s ∧ s.maxBlockSize ≠ 0 ∧ ∃ e, s.step e = none := by
  constructor
  · refine ⟨_, .step (.generateReportRsp .topology (topologyRsp 0 1 [1] (by decide)) fun _ => true) .init trivial rfl,
      rfl, .getBlockRsp 0 0 (fun _ => none) true, ?_⟩
    decide
  · refine ⟨_, .step (.generateReportRsp .topology (topologyRsp 4 1 [1, 2] (by decide)) fun _ => true)
      (.step (.generateReportRsp .topology (topologyRsp 4 1 [1, 2, 3, 4] (by decide)) fun _ => true) .init trivial rfl)
      trivial rfl, by decide, .getBlockRsp 0 4 (fun _ => none) true, ?_⟩
    decide

end SystemReportSvc

end Isa100Gateway
