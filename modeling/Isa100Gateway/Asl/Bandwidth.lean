import Isa100Gateway.Asl.ContractRules

/-!
# Transmissions and the bandwidth of their contracts

What a pass of the send task hands to the transport layer, on which contract and at which time, and what it leaves of the time from which the contract may send again.
-/

namespace Isa100Gateway

open Machine

def TimeVal.Valid (t : TimeVal) : Prop := 0 ≤ t.tvUsec.toInt ∧ t.tvUsec.toInt < 1000000

instance (t : TimeVal) : Decidable t.Valid := inferInstanceAs (Decidable (_ ∧ _))

def TimeVal.micros (t : TimeVal) : Int := 1000000 * t.tvSec.toInt + t.tvUsec.toInt

def TimeVal.Before (s t : TimeVal) : Prop :=
  s.tvSec < t.tvSec ∨ s.tvSec = t.tvSec ∧ s.tvUsec < t.tvUsec

instance (s t : TimeVal) : Decidable (s.Before t) := inferInstanceAs (Decidable (_ ∨ _))

theorem TimeVal.Before.asymm {s t : TimeVal} (h : s.Before t) : ¬ t.Before s := by
  unfold TimeVal.Before at h ⊢
  simp only [Int32.lt_iff_toInt_lt] at h ⊢
  rintro (hlt | ⟨heq, hlt⟩)
  · rcases h with hlt' | ⟨heq', _⟩
    · omega
    · rw [heq'] at hlt
      omega
  · rw [heq] at h
    omega

theorem TimeVal.Before.micros_lt {s t : TimeVal} (hs : s.Valid) (ht : t.Valid) (h : s.Before t) :
    s.micros < t.micros := by
  obtain ⟨hs₀, hs₁⟩ := hs
  obtain ⟨ht₀, ht₁⟩ := ht
  unfold TimeVal.micros
  rcases h with hlt | ⟨heq, hlt⟩
  · rw [Int32.lt_iff_toInt_lt] at hlt
    omega
  · rw [Int32.lt_iff_toInt_lt] at hlt
    rw [heq]
    omega

variable {tvNow : TimeVal} {c : Contract}

theorem bandwidthLimitAllowsTX_iff : bandwidthLimitAllowsTX tvNow c = true ↔ c.sendNoEarlierThan.Before tvNow := by
  rw [bandwidthLimitAllowsTX, decide_eq_true_eq, TimeVal.Before, gt_iff_lt, gt_iff_lt, @eq_comm _ tvNow.tvSec]

/-- In milliseconds: a positive burst counts messages in a second, any other the seconds between two messages. -/
def intervalMS (comittedBurst : Int16) : Nat :=
  if 0 < comittedBurst.toInt then (1000 / comittedBurst.toInt).toNat
  else (1000 * -comittedBurst.toInt).toNat

def Contract.interval (c : Contract) : Int := 1000 * intervalMS c.comittedBurst

theorem toInt_packetInterval (burst : Int16) :
    (if burst.toInt32 > 0 then 1000 / burst.toInt32 else -1000 * burst.toInt32 : Int32).toInt =
      intervalMS burst := by
  have hwiden : burst.toInt32.toInt = burst.toInt := by simp
  have hlow := Int16.le_toInt burst
  have hhigh := Int16.toInt_lt burst
  have hsign : burst.toInt32 > 0 ↔ 0 < burst.toInt := by
    rw [gt_iff_lt, Int32.lt_iff_toInt_lt, hwiden]
    rfl
  unfold intervalMS
  by_cases hpos : 0 < burst.toInt
  · have hquotient : 0 ≤ 1000 / burst.toInt := Int.ediv_nonneg (by decide) hpos.le
    have hne : (1000 : Int32) ≠ Int32.minValue := by decide
    rw [if_pos (hsign.2 hpos), if_pos hpos, Int32.toInt_div_of_ne_left _ _ hne, hwiden]
    change (1000 : Int).tdiv burst.toInt = _
    rw [Int.tdiv_eq_ediv_of_nonneg (by decide)]
    omega
  · rw [if_neg (hsign.not.2 hpos), if_neg hpos, Int32.toInt_mul, hwiden]
    change (-1000 * burst.toInt).bmod (2 ^ 32) = _
    rw [Int.bmod_eq_of_le]
    · omega
    · omega
    · omega

theorem toNat_packetIntervalMS (c : Contract) : c.packetIntervalMS.toNat = intervalMS c.comittedBurst := by
  have hvalue := toInt_packetInterval c.comittedBurst
  have hnonneg := hvalue ▸ Int.natCast_nonneg (intervalMS c.comittedBurst)
  have hunsigned := toNat_toUInt32 hnonneg
  rw [hvalue] at hunsigned
  exact Int.ofNat_inj.1 hunsigned

/-- The addition to the clock stays within a `long`. -/
def RecordFits (tvNow : TimeVal) (c : Contract) : Prop :=
  tvNow.tvUsec.toInt + c.interval < 2 ^ 31 ∧ tvNow.tvSec.toInt + (tvNow.tvUsec.toInt + c.interval) / 1000000 < 2 ^ 31

instance (tvNow : TimeVal) (c : Contract) : Decidable (RecordFits tvNow c) := inferInstanceAs (Decidable (_ ∧ _))

theorem toInt_usec (hvalid : tvNow.Valid) (hfits : RecordFits tvNow c) :
    (tvNow.tvUsec.toUInt32 + 1000 * c.packetIntervalMS).toInt32.toInt =
      tvNow.tvUsec.toInt + c.interval := by
  have husec := toNat_toUInt32 hvalid.1
  have hsum := hfits.1
  have hinterval : c.interval = 1000 * (c.packetIntervalMS.toNat : Int) := by
    rw [toNat_packetIntervalMS]
    rfl
  have hnat : (tvNow.tvUsec.toUInt32 + 1000 * c.packetIntervalMS).toNat =
      tvNow.tvUsec.toUInt32.toNat + 1000 * c.packetIntervalMS.toNat := by
    rw [UInt32.toNat_add, UInt32.toNat_mul]
    simp only [UInt32.reduceToNat, Nat.reducePow]
    omega
  have hsmall : (tvNow.tvUsec.toUInt32 + 1000 * c.packetIntervalMS).toNat < 2 ^ 31 := by omega
  rw [toInt_toInt32 hsmall, hnat]
  omega

theorem micros_recordPacketNextTXTime (hvalid : tvNow.Valid) (hfits : RecordFits tvNow c) :
    (recordPacketNextTXTime tvNow c).sendNoEarlierThan.Valid ∧
      (recordPacketNextTXTime tvNow c).sendNoEarlierThan.micros = tvNow.micros + c.interval := by
  have hinterval : 0 ≤ c.interval := Int.mul_nonneg (by decide) (Int.natCast_nonneg _)
  have husec := toInt_usec hvalid hfits
  have hnonneg : 0 ≤ tvNow.tvUsec.toInt + c.interval := Int.add_nonneg hvalid.1 hinterval
  have hsec := hfits.2
  have hlow := Int32.le_toInt tvNow.tvSec
  simp only [recordPacketNextTXTime]
  generalize (tvNow.tvUsec.toUInt32 + 1000 * c.packetIntervalMS).toInt32 = usec at husec
  have hquotient : (usec / 1000000).toInt = (tvNow.tvUsec.toInt + c.interval) / 1000000 := by
    rw [Int32.toInt_div_of_ne_right _ _ (by decide), husec]
    exact Int.tdiv_eq_ediv_of_nonneg hnonneg
  have hremainder : (usec % 1000000).toInt = (tvNow.tvUsec.toInt + c.interval) % 1000000 := by
    rw [Int32.toInt_mod, husec]
    exact Int.tmod_eq_emod_of_nonneg hnonneg
  have hcarry : (tvNow.tvSec + usec / 1000000).toInt =
      tvNow.tvSec.toInt + (tvNow.tvUsec.toInt + c.interval) / 1000000 := by
    rw [Int32.toInt_add, hquotient, Int.bmod_eq_of_le]
    · omega
    · omega
  constructor
  · simp only [TimeVal.Valid, hremainder]
    omega
  · simp only [TimeVal.micros, hremainder, hcarry]
    omega

/-- A transport message of a pass, with the contract it goes out on as the pass finds it. -/
structure Transmission where
  contractId : UInt16
  time : TimeVal
  contract : Contract
  carried : List TxMsg

def Transmission.notBefore (t : Transmission) : TimeVal := t.contract.sendNoEarlierThan

def Transmission.Limited (t : Transmission) : Prop :=
  ∃ m ∈ t.carried, m.obeyContractBandwidth ≠ 0

instance (t : Transmission) : Decidable t.Limited := inferInstanceAs (Decidable (∃ m ∈ _, _))

def HandedOver (m : TxMsg) (left : Option TxMsg) : Prop :=
  m.ReadyToSend ∧ ∃ m' ∈ left, m'.status = .sentWaitJustTLCnf ∨ m'.status = .sentWaitCnfAndResponse

instance (m : TxMsg) (left : Option TxMsg) : Decidable (HandedOver m left) := inferInstanceAs (Decidable (_ ∧ _))

def carriedFrom (contractId : UInt16) (room : Int) (handle : UInt8) (now : UInt32) :
    Contract × List UInt8 → List TxMsg → List TxMsg
  | _, [] => []
  | s, m :: queue =>
    let (s', left) := concatVisit contractId room handle now s m
    (if HandedOver m left then [m] else []) ++ carriedFrom contractId room handle now s' queue

def transmission (tvNow : TimeVal) (now : UInt32) (st : AslState) : Option Transmission :=
  let (st, found) := searchStep tvNow (checkTLConfirms st)
  found.bind fun idtf => (st.shared.contracts.lookup idtf.contractId).map fun c =>
    { contractId := idtf.contractId
      time := tvNow
      contract := c
      carried := carriedFrom idtf.contractId c.tsduRoom st.handle now (c, []) st.queue }

/-! ### What a message carries -/

section Carried

variable {contractId : UInt16} {room : Int} {handle : UInt8} {now : UInt32}

theorem handedOver_sent {m m' : TxMsg} (hready : m.ReadyToSend) : HandedOver m (some (m'.sent handle now)) := by
  refine ⟨hready, _, rfl, ?_⟩
  by_cases hjust : m'.justWaitsTLCnf = true
  · exact Or.inl (by simp [TxMsg.sent, hjust])
  · exact Or.inr (by simp [TxMsg.sent, hjust])

theorem not_handedOver_self (m : TxMsg) : ¬ HandedOver m (some m) := by
  rintro ⟨hready, m', hm', hsent⟩
  cases hm'
  rcases hready with hready | hready
  all_goals
    rw [hready] at hsent
    simp at hsent

theorem not_handedOver_clear (m : TxMsg) : ¬ HandedOver m (some { m with status := .readyToClear }) := by
  rintro ⟨-, m', hm', hsent⟩
  cases hm'
  simp at hsent

theorem concatVisit_carries (contractId : UInt16) (room : Int) (handle : UInt8) (now : UInt32)
    (c : Contract) (out : List UInt8) (m : TxMsg) :
    HandedOver m (concatVisit contractId room handle now (c, out) m).2 ∧ m.contractId = contractId ∧
        (concatVisit contractId room handle now (c, out) m).1.2 = out ++ m.txApduData ∨
      ¬ HandedOver m (concatVisit contractId room handle now (c, out) m).2 ∧
        (concatVisit contractId room handle now (c, out) m).1.2 = out := by
  rcases concatVisit_cases contractId room handle now c out m with heq | ⟨hready, hid, hcase⟩
  · rw [heq]
    exact Or.inr ⟨not_handedOver_self m, rfl⟩
  rcases hcase with ⟨_, _, _, heq⟩ | ⟨_, _, _, heq⟩ | ⟨_, _, heq⟩ | ⟨_, _, heq⟩
  · rw [heq]
    exact Or.inr ⟨not_handedOver_self m, rfl⟩
  · rw [heq]
    exact Or.inl ⟨handedOver_sent hready, hid.symm, rfl⟩
  · rw [heq]
    exact Or.inl ⟨handedOver_sent hready, hid.symm, rfl⟩
  · rw [heq]
    exact Or.inr ⟨not_handedOver_clear m, rfl⟩

theorem carriedFrom_cons (s : Contract × List UInt8) (m : TxMsg) (queue : List TxMsg) :
    carriedFrom contractId room handle now s (m :: queue) =
      (if HandedOver m (concatVisit contractId room handle now s m).2 then [m] else []) ++
        carriedFrom contractId room handle now (concatVisit contractId room handle now s m).1 queue :=
  rfl

theorem mem_carriedFrom {s : Contract × List UInt8} {queue : List TxMsg} {m : TxMsg}
    (h : m ∈ carriedFrom contractId room handle now s queue) :
    m ∈ queue ∧ m.ReadyToSend ∧ m.contractId = contractId := by
  induction queue generalizing s with
  | nil => cases h
  | cons m' queue ih =>
    rw [carriedFrom_cons] at h
    rcases List.mem_append.1 h with hhere | hrest
    · by_cases hsent : HandedOver m' (concatVisit contractId room handle now s m').2
      · rw [if_pos hsent, List.mem_singleton] at hhere
        obtain rfl := hhere
        rcases concatVisit_carries contractId room handle now s.1 s.2 m with ⟨-, hid, -⟩ | ⟨hnot, -⟩
        · exact ⟨List.mem_cons_self, hsent.1, hid⟩
        · exact absurd hsent hnot
      · rw [if_neg hsent] at hhere
        cases hhere
    · obtain ⟨hmem, hready, hid⟩ := ih hrest
      exact ⟨List.mem_cons_of_mem m' hmem, hready, hid⟩

end Carried

end Isa100Gateway
