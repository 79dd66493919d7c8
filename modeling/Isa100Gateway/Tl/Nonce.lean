import Isa100Gateway.Tl.RoundTrip
import Mathlib.Data.List.Nodup

/-!
# Nonces of a run of requests

The nonce holds 22 bits of the seconds, the quarter of the second and the message number. It does not repeat while a key lives shorter than the seconds wrap and a quarter of a second carries no more datagrams than there are message numbers.
-/

namespace Isa100Gateway

structure TxStep where
  settings : TlSettings
  keyTai : UInt32
  time : TaiTime
  req : TlRequest

structure SentTpdu where
  step : TxStep
  counter : UInt8
  call : Option AeadCall

/-- The datagrams of a run that starts with `g_ucMsgIncrement = msgIncrement`. -/
def sentBy (ccm : AesCcm) : UInt8 → List TxStep → List SentTpdu
  | _, [] => []
  | msgIncrement, a :: as =>
    match tldeDataRequest ccm a.settings a.keyTai a.time a.req msgIncrement with
    | (.sent call _, msgIncrement) => ⟨a, msgIncrement, call⟩ :: sentBy ccm msgIncrement as
    | (_, msgIncrement) => sentBy ccm msgIncrement as

def noncesUnder (key : Key128) (sent : List SentTpdu) : List Nonce :=
  sent.filterMap fun e => (e.call.filter fun call => call.key = key).map AeadCall.nonce

def TaiTime.micros (t : TaiTime) : Nat := t.sec.toNat * 1000000 + t.usec.toNat

def TaiTime.quantum (t : TaiTime) : Nat := t.sec.toNat * 4 + t.uc250msStep.toNat

def ClockMonotone (as : List TxStep) : Prop :=
  as.Pairwise (fun a b => a.time.micros ≤ b.time.micros) ∧ ∀ a ∈ as, a.keyTai ≤ a.time.sec

/-- No 250 ms step carries more than 256 datagrams. -/
def RateBounded (sent : List SentTpdu) : Prop :=
  ∀ q, (sent.filter fun e => e.step.time.quantum = q).length ≤ 256

/-- Whenever the key is in the table it has not expired, and its lifetime lies in `[start, start + 2 ^ 22]`. -/
def LifetimeBounded (key : Key128) (start : Nat) (as : List TxStep) : Prop :=
  ∀ a ∈ as, ∀ k ∈ a.settings.keys.keys, k.key = key → start ≤ k.validNotBefore.toNat ∧
    a.time.sec.toNat < k.hardLifetime.toNat ∧ k.hardLifetime.toNat ≤ start + 2 ^ 22

variable {ccm : AesCcm} {msgIncrement : UInt8} {as : List TxStep}

def SecuredBy (ccm : AesCcm) (e : SentTpdu) (call : AeadCall) : Prop :=
  ∃ key keysNo, findTxKey e.step.settings.keys e.step.req.destAddress e.step.req.srcPortNo
      e.step.req.dstPortNo e.step.keyTai = (some key, keysNo) ∧
    call = (securedTpdu ccm e.step.settings e.step.time e.step.req key keysNo e.counter).1

theorem sentBy_cons (ccm : AesCcm) (msgIncrement : UInt8) (a : TxStep) (as : List TxStep) :
    sentBy ccm msgIncrement (a :: as) = sentBy ccm msgIncrement as ∨
    ∃ call, sentBy ccm msgIncrement (a :: as) = ⟨a, msgIncrement + 1, call⟩ :: sentBy ccm (msgIncrement + 1) as ∧
      ∀ c ∈ call, SecuredBy ccm ⟨a, msgIncrement + 1, call⟩ c := by
  rcases tldeDataRequest_cases ccm a.settings a.keyTai a.time a.req msgIncrement with
    h | h | h | ⟨key, keysNo, hkey, h⟩
  · exact Or.inl (by simp [sentBy, h])
  · exact Or.inl (by simp [sentBy, h])
  · exact Or.inr ⟨none, by simp [sentBy, h], by simp⟩
  · right
    exists some (securedTpdu ccm a.settings a.time a.req key keysNo (msgIncrement + 1)).1
    constructor
    · simp [sentBy, h]
    · intro c hc
      cases hc
      exact ⟨key, keysNo, hkey, rfl⟩

theorem sentBy_sublist : ((sentBy ccm msgIncrement as).map SentTpdu.step).Sublist as := by
  induction as generalizing msgIncrement with
  | nil => exact List.Sublist.refl _
  | cons a as ih =>
    cases sentBy_cons ccm msgIncrement a as with
    | inl h =>
      rw [h]
      exact ih.cons a
    | inr h =>
      obtain ⟨call, h, -⟩ := h
      rw [h, List.map_cons]
      exact ih.cons_cons a

variable {e d : SentTpdu} {call : AeadCall} {i j : Nat}

theorem counter_sentBy {i : Nat} (h : (sentBy ccm msgIncrement as)[i]? = some e) :
    e.counter.toNat = (msgIncrement.toNat + 1 + i) % 256 := by
  induction as generalizing msgIncrement i with
  | nil => simp [sentBy] at h
  | cons a as ih =>
    cases sentBy_cons ccm msgIncrement a as with
    | inl hsame =>
      rw [hsame] at h
      exact ih h
    | inr hnext =>
      obtain ⟨call, hnext, -⟩ := hnext
      rw [hnext] at h
      have hsucc : (msgIncrement + 1).toNat = (msgIncrement.toNat + 1) % 256 := by simp
      cases i with
      | zero =>
        have he : (⟨a, msgIncrement + 1, call⟩ : SentTpdu) = e := by simpa using h
        rw [← he, hsucc, Nat.add_zero]
      | succ i =>
        rw [ih (by simpa using h), hsucc]
        omega

theorem securedBy_of_mem (h : e ∈ sentBy ccm msgIncrement as)
    (hcall : e.call = some call) : SecuredBy ccm e call := by
  induction as generalizing msgIncrement with
  | nil => simp [sentBy] at h
  | cons a as ih =>
    cases sentBy_cons ccm msgIncrement a as with
    | inl hsame =>
      rw [hsame] at h
      exact ih h
    | inr hnext =>
      obtain ⟨call', hnext, hsecured⟩ := hnext
      rw [hnext] at h
      cases List.mem_cons.mp h with
      | inl heq =>
        subst heq
        exact hsecured call hcall
      | inr hmem => exact ih hmem

theorem mem_steps_of_mem (h : e ∈ sentBy ccm msgIncrement as) : e.step ∈ as :=
  sentBy_sublist.subset (List.mem_map_of_mem h)

theorem micros_le (h : ClockMonotone as) (hij : i ≤ j)
    (hd : (sentBy ccm msgIncrement as)[i]? = some d) (he : (sentBy ccm msgIncrement as)[j]? = some e) :
    d.step.time.micros ≤ e.step.time.micros := by
  have hsteps : ((sentBy ccm msgIncrement as).map SentTpdu.step).Pairwise
      (fun a b => a.time.micros ≤ b.time.micros) := h.1.sublist sentBy_sublist
  have hsent : (sentBy ccm msgIncrement as).Pairwise
      (fun a b => a.step.time.micros ≤ b.step.time.micros) := by
    simpa [List.pairwise_map] using hsteps
  cases Nat.lt_or_eq_of_le hij with
  | inl hlt =>
    obtain ⟨hi, hdi⟩ := List.getElem?_eq_some_iff.mp hd
    obtain ⟨hj, hej⟩ := List.getElem?_eq_some_iff.mp he
    have hpair := List.pairwise_iff_getElem.mp hsent i j hi hj hlt
    rwa [hdi, hej] at hpair
  | inr heq =>
    subst heq
    have hde : d = e := Option.some.inj (hd.symm.trans he)
    rw [hde]

theorem quantum_eq (t : TaiTime) : t.quantum = t.micros / 250000 := by
  have husec := UInt32.lt_iff_toNat_lt.mp t.usec_lt
  have hstep : t.uc250msStep.toNat = t.usec.toNat / 250000 := by
    simp only [TaiTime.uc250msStep, UInt32.toNat_toUInt8, UInt32.toNat_div, UInt32.reduceToNat] at husec ⊢
    omega
  rw [TaiTime.quantum, TaiTime.micros, hstep]
  omega

def nonceFields (t : TaiTime) (counter : UInt8) : Vector UInt8 5 :=
  #v[(t.sec >>> 14).toUInt8, (t.sec >>> 6).toUInt8, t.timeAndCounter, counter, 0xFF]

theorem nonce_securedTpdu (g : TlSettings) (now : TaiTime) (req : TlRequest) (key : SlmeKey)
    (keysNo counter : UInt8) : (securedTpdu ccm g now req key keysNo counter).1.nonce =
      g.eui64 ++ nonceFields now counter := by
  have hhdr := isSecurityHdr_securityHdr keysNo key.keyID now.timeAndCounter counter
  obtain ⟨hlow, hhigh⟩ := hhdr.length_le
  have hfield : ∀ i, byteAt (req.pseudoHdr g
      (securityHdr keysNo key.keyID now.timeAndCounter counter)).bytes (40 + i) =
      byteAt (securityHdr keysNo key.keyID now.timeAndCounter counter) i := by
    intro i
    have hfront := length_front (req.pseudoHdr g
      (securityHdr keysNo key.keyID now.timeAndCounter counter))
    rw [Ipv6PseudoHdr.bytes, byteAt, List.getD_eq_getElem?_getD, ← hfront,
      List.getElem?_append_right (Nat.le_add_right _ _), Nat.add_sub_cancel_left,
      ← List.getD_eq_getElem?_getD]
    rfl
  have hlast : ∀ k ≤ 2, authLen (udpHdrSize + (securityHdr keysNo key.keyID now.timeAndCounter counter).length) - k =
      40 + ((securityHdr keysNo key.keyID now.timeAndCounter counter).length - k) := by
    intro k hk
    simp only [authLen, udpHdrSize]
    omega
  rw [nonceFields, securedTpdu]
  simp only [encryptCall, tlNonce]
  rw [hlast 2 (by omega), hlast 1 (by omega), hfield, hfield, hhdr.timeAndCounter_eq, hhdr.counter_eq]

theorem nonceFields_eq_iff (t u : TaiTime) (c d : UInt8) :
    nonceFields t c = nonceFields u d ↔ t.sec.toNat % 2 ^ 22 = u.sec.toNat % 2 ^ 22 ∧
      t.uc250msStep = u.uc250msStep ∧ c = d := by
  have htstep := uc250msStep_lt t
  have hustep := uc250msStep_lt u
  have hsplit : nonceFields t c = nonceFields u d ↔ (t.sec >>> 14).toUInt8 = (u.sec >>> 14).toUInt8 ∧
      (t.sec >>> 6).toUInt8 = (u.sec >>> 6).toUInt8 ∧ t.timeAndCounter = u.timeAndCounter ∧
      c = d := by
    simp [nonceFields]
  rw [hsplit]
  simp only [← UInt8.toNat_inj, Bytes.toNat_split32 _ 14 (by decide),
    Bytes.toNat_split32 _ 6 (by decide), toNat_timeAndCounter, UInt32.reduceToNat]
  constructor
  · intro h
    omega
  · intro h
    omega

theorem le_length_filter {α : Type*} {p : α → Bool} {l : List α} {i n : Nat}
    (hn : i + n ≤ l.length) (h : ∀ m a, i ≤ m → m < i + n → l[m]? = some a → p a = true) :
    n ≤ (l.filter p).length := by
  have hlen : ((l.drop i).take n).length = n := by
    simp only [List.length_take, List.length_drop]
    omega
  have hall : ∀ a ∈ (l.drop i).take n, p a = true := by
    intro a ha
    obtain ⟨m, hm⟩ := List.mem_iff_getElem?.mp ha
    have hmn : m < n := by
      have hlt := (List.getElem?_eq_some_iff.mp hm).1
      omega
    rw [List.getElem?_take_of_lt hmn, List.getElem?_drop] at hm
    exact h (i + m) a (by omega) (by omega) hm
  have hsub : ((l.drop i).take n).Sublist l :=
    (List.take_sublist n (l.drop i)).trans (List.drop_sublist i l)
  calc n = (((l.drop i).take n).filter p).length := by rw [List.filter_eq_self.mpr hall, hlen]
    _ ≤ (l.filter p).length := (hsub.filter p).length_le

theorem quantum_ne (hclock : ClockMonotone as) (hrate : RateBounded (sentBy ccm msgIncrement as)) (hij : i < j)
    (hd : (sentBy ccm msgIncrement as)[i]? = some d) (he : (sentBy ccm msgIncrement as)[j]? = some e)
    (hcounter : d.counter = e.counter) : d.step.time.quantum ≠ e.step.time.quantum := by
  intro hquantum
  have hi := counter_sentBy hd
  have hj := counter_sentBy he
  rw [hcounter] at hi
  -- the counter has gone around in between, all within one quarter of a second
  have hlong : i + 257 ≤ j + 1 := by omega
  have hjlen := (List.getElem?_eq_some_iff.mp he).1
  have hstretch : 257 ≤ ((sentBy ccm msgIncrement as).filter
      fun f => f.step.time.quantum = d.step.time.quantum).length := by
    apply le_length_filter (i := i) (by omega)
    intro m f him hmj hf
    have hlow := Nat.div_le_div_right (c := 250000) (micros_le hclock him hd hf)
    have hhigh := Nat.div_le_div_right (c := 250000) (micros_le hclock (by omega) hf he)
    rw [← quantum_eq, ← quantum_eq] at hlow hhigh
    simp only [decide_eq_true_eq]
    omega
  have hbound := hrate d.step.time.quantum
  omega

theorem sec_mem_lifetime {key : Key128} {start : Nat} (hclock : ClockMonotone as)
    (hlife : LifetimeBounded key start as) (he : e ∈ sentBy ccm msgIncrement as)
    (hcall : e.call = some call) (hkey : call.key = key) :
    start ≤ e.step.time.sec.toNat ∧ e.step.time.sec.toNat < start + 2 ^ 22 := by
  obtain ⟨k, keysNo, hfound, hsecured⟩ := securedBy_of_mem he hcall
  have hmem := mem_steps_of_mem he
  obtain ⟨hk, hvalid⟩ := findTxKey_some (congrArg Prod.fst hfound)
  have hsame : k.key = key := by
    rw [← hkey, hsecured]
    rfl
  obtain ⟨hstart, hexpiry, hhard⟩ := hlife e.step hmem k hk hsame
  have hfrom := UInt32.le_iff_toNat_le.mp hvalid
  have hread := UInt32.le_iff_toNat_le.mp (hclock.2 e.step hmem)
  omega

theorem nonce_of_secured (he : e ∈ sentBy ccm msgIncrement as) (hcall : e.call = some call) :
    call.nonce = e.step.settings.eui64 ++ nonceFields e.step.time e.counter := by
  obtain ⟨k, keysNo, -, hsecured⟩ := securedBy_of_mem he hcall
  rw [hsecured]
  exact nonce_securedTpdu _ _ _ _ _ _

theorem nonce_ne {key : Key128} {start i j : Nat} (hclock : ClockMonotone as)
    (hrate : RateBounded (sentBy ccm msgIncrement as)) (hlife : LifetimeBounded key start as)
    {c c' : AeadCall} (hij : i < j)
    (hd : (sentBy ccm msgIncrement as)[i]? = some d) (he : (sentBy ccm msgIncrement as)[j]? = some e)
    (hc : d.call = some c) (hc' : e.call = some c') (hkey : c.key = key) (hkey' : c'.key = key) :
    c.nonce ≠ c'.nonce := by
  intro hnonce
  have hdmem := List.mem_of_getElem? hd
  have hemem := List.mem_of_getElem? he
  rw [nonce_of_secured hdmem hc, nonce_of_secured hemem hc'] at hnonce
  obtain ⟨hsec, hstep, hcounter⟩ :=
    (nonceFields_eq_iff _ _ _ _).mp (Vector.append_inj_right hnonce)
  have hdlife := sec_mem_lifetime hclock hlife hdmem hc hkey
  have helife := sec_mem_lifetime hclock hlife hemem hc' hkey'
  have hle := micros_le hclock (Nat.le_of_lt hij) hd he
  have hquantum : d.step.time.quantum = e.step.time.quantum := by
    rw [TaiTime.quantum, TaiTime.quantum, hstep]
    omega
  exact quantum_ne hclock hrate hij hd he hcounter hquantum

/-- Within the lifetime and the rate, the nonces of a key never repeat. -/
theorem nonces_nodup {key : Key128} {start : Nat} (hclock : ClockMonotone as)
    (hrate : RateBounded (sentBy ccm msgIncrement as)) (hlife : LifetimeBounded key start as) :
    (noncesUnder key (sentBy ccm msgIncrement as)).Nodup := by
  have huse : ∀ {e : SentTpdu} {nonce : Nonce},
      (e.call.filter fun call => call.key = key).map AeadCall.nonce = some nonce →
      ∃ call, e.call = some call ∧ call.key = key ∧ call.nonce = nonce := by
    intro e nonce h
    obtain ⟨call, hcall, hnonce⟩ := Option.map_eq_some_iff.mp h
    obtain ⟨hsome, hkey⟩ := Option.filter_eq_some_iff.mp hcall
    exact ⟨call, hsome, by simpa using hkey, hnonce⟩
  apply List.pairwise_filterMap.mpr
  apply List.pairwise_iff_getElem.mpr
  intro i j hi hj hij n hn n' hn'
  obtain ⟨c, hc, hkey, rfl⟩ := huse hn
  obtain ⟨c', hc', hkey', rfl⟩ := huse hn'
  exact nonce_ne hclock hrate hlife hij (List.getElem?_eq_getElem hi) (List.getElem?_eq_getElem hj)
    hc hc' hkey hkey'

instance (as : List TxStep) : Decidable (ClockMonotone as) := inferInstanceAs (Decidable (_ ∧ _))

instance (key : Key128) (start : Nat) (as : List TxStep) : Decidable (LifetimeBounded key start as) :=
  inferInstanceAs (Decidable (∀ _ ∈ _, _))

def sampleStep (hardLifetime sec : UInt32) : TxStep where
  settings :=
    { sampleTx with
      keys := [(⟨sampleRxAddress, 0xF0B2, 0xF0B1⟩,
        [{ sampleKey sampleRxAddress 0xF0B2 0xF0B1 with hardLifetime := hardLifetime }])] }
  keyTai := sec
  time := ⟨sec, 250000, by decide⟩
  req := sampleTlRequest [1, 2, 3]

def sampleKeyBytes : Key128 := Vector.replicate 16 0x5A

theorem nonces_nodup_three : (noncesUnder sampleKeyBytes (sentBy rijndaelCcm 255
      [sampleStep 4000000 1000, sampleStep 4000000 1000, sampleStep 4000000 1001])).Nodup := by
  have hlife : LifetimeBounded sampleKeyBytes 0
      [sampleStep 4000000 1000, sampleStep 4000000 1000, sampleStep 4000000 1001] := by
    decide +kernel
  have hlen : (sentBy rijndaelCcm 255
      [sampleStep 4000000 1000, sampleStep 4000000 1000, sampleStep 4000000 1001]).length = 3 := by
    decide +kernel
  apply nonces_nodup (by decide +kernel) ?_ hlife
  intro q
  have hle := List.length_filter_le (fun e : SentTpdu => e.step.time.quantum = q)
    (sentBy rijndaelCcm 255
      [sampleStep 4000000 1000, sampleStep 4000000 1000, sampleStep 4000000 1001])
  omega

def burst : List TxStep := List.replicate 257 (sampleStep 4000000 1000)

def longRun : List TxStep :=
  sampleStep 0xFFFFFFFF 1000 :: (List.replicate 255 (sampleStep 0xFFFFFFFF 1001) ++
    [sampleStep 0xFFFFFFFF (1000 + 4194304)])

theorem not_nodup_of_getElem? {α : Type*} {l : List α} (hij : i < j) (hj : j < l.length)
    (h : l[i]? = l[j]?) : ¬l.Nodup :=
  fun hnodup => List.nodup_iff_getElem?_ne_getElem?.mp hnodup i j hij hj h

theorem burst_monotone : ClockMonotone burst := by
  constructor
  · exact List.pairwise_replicate.mpr (Or.inr (Nat.le_refl _))
  · decide +kernel

theorem longRun_monotone : ClockMonotone longRun := by
  constructor
  · apply List.pairwise_cons.mpr
    constructor
    · decide +kernel
    · apply List.pairwise_append.mpr
      refine ⟨List.pairwise_replicate.mpr (Or.inr (Nat.le_refl _)), List.pairwise_singleton _ _, ?_⟩
      decide +kernel
  · decide +kernel

theorem longRun_rateBounded : RateBounded (sentBy rijndaelCcm 0 longRun) := by
  intro q
  by_contra hmany
  have hlen : (sentBy rijndaelCcm 0 longRun).length = 257 := by decide +kernel
  have hle := List.length_filter_le (fun e : SentTpdu => e.step.time.quantum = q)
    (sentBy rijndaelCcm 0 longRun)
  have hall := List.length_filter_eq_length_iff.mp (show
    ((sentBy rijndaelCcm 0 longRun).filter fun e => e.step.time.quantum = q).length =
      (sentBy rijndaelCcm 0 longRun).length by omega)
  have hfirst : (((sentBy rijndaelCcm 0 longRun).map fun e => e.step.time.quantum)[0]?) =
      some 4001 := by decide +kernel
  have hlast : (((sentBy rijndaelCcm 0 longRun).map fun e => e.step.time.quantum)[256]?) =
      some 16781217 := by decide +kernel
  have hmem : ∀ {i n : Nat}, ((sentBy rijndaelCcm 0 longRun).map fun e => e.step.time.quantum)[i]? =
      some n → n = q := by
    intro i n h
    obtain ⟨e, he, rfl⟩ := List.mem_map.mp (List.mem_of_getElem? h)
    simpa using hall e he
  have hq := hmem hfirst
  have hq' := hmem hlast
  omega

/-- The message number comes round within one step of 250 ms, and the seconds within the life of a key that does not expire. -/
theorem nonce_reused : (ClockMonotone burst ∧ LifetimeBounded sampleKeyBytes 0 burst ∧
      ¬(noncesUnder sampleKeyBytes (sentBy rijndaelCcm 0 burst)).Nodup) ∧
    (ClockMonotone longRun ∧ RateBounded (sentBy rijndaelCcm 0 longRun) ∧
      ¬(noncesUnder sampleKeyBytes (sentBy rijndaelCcm 0 longRun)).Nodup) := by
  refine ⟨⟨burst_monotone, by decide +kernel, ?_⟩, longRun_monotone, longRun_rateBounded, ?_⟩
  · apply not_nodup_of_getElem? (show 0 < 256 by decide)
    · decide +kernel
    · decide +kernel
  · apply not_nodup_of_getElem? (show 0 < 256 by decide)
    · decide +kernel
    · decide +kernel

end Isa100Gateway
