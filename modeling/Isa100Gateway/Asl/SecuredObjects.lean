import Isa100Gateway.Asl.GenericObject
import Isa100Gateway.Tl.RoundTrip

/-!
# Service objects over the secured transport

What one application layer hands to the transport as an APDU, the other parses out of the indication.
-/

namespace Isa100Gateway

open ByteScan

variable {ccm : AesCcm} {tx rx : TlSettings} {req : TlRequest} {sent : TaiTime} {peerKey : SlmeKey} {call : AeadCall}
  {counter counter' : UInt8} {tpdu : Tpdu} {txKeyTai rxKeyTai now : UInt32}

/-- The first copy of a secured APDU brings the service object with every field that the APDU carries. -/
theorem object_delivered {obj : GenericAslSrvc Payload} {outBufLen : UInt16} {hist hist' : DuplicateHist}
    (hsrvc : ¬ obj.IsTunnelOrPublish) (hrange : obj.InRange) (hset : setGenericObject obj outBufLen = some req.appData)
    (hsend : tldeDataRequest ccm tx txKeyTai sent req counter = (.sent (some call) tpdu, counter'))
    (hdstPort : req.dstPort < 16) (hlen : req.appData.length ≤ maxApduSize) (hpeer : rx.ipv6Address = req.destAddress)
    (hlookup : rxKey rx.keys rxKeyTai tx.ipv6Address tpdu.data = some peerKey)
    (hkey : peerKey.key = call.key) (hissuer : peerKey.issuerEUI64 = tx.eui64)
    (hlate : now.toNat ≤ sent.sec.toNat + 60) (hearly : sent.sec.toNat ≤ now.toNat + 1)
    (hfirst : checkDuplicate ⟨sent.timeAndCounter, counter', some call, req.appData⟩ tx.ipv6Address
      (now + tldeTimeMaxDiff.toUInt32) tpdu.data hist = some (false, hist'))
    (priorityAndFlags nativePublish : UInt8) (old : SrvcUnion) : ∃ ind : TlIndication,
      nldeDataIndication ccm rx rxKeyTai now tx.ipv6Address tpdu.data priorityAndFlags hist =
        ⟨[], .indication ind, hist'⟩ ∧
      ∀ mem, Holds mem 0 ind.appData → ∃ obj',
        (getGenericObject nativePublish (.ofNat ind.appData.length) old mem .start).1 = some obj' ∧
          SameCarried mem obj obj' := by
  obtain ⟨key, secHdr, cksum, hhdr, hcall, hform, -⟩ := secured_form hsend hlen hpeer
  have hne : req.appData ≠ [] := by
    obtain ⟨first, rest, hcons, -⟩ := setGenericObject_head obj hset
    rw [hcons]
    exact List.cons_ne_nil first rest
  have hopen := openTpdu_tpdu cksum hhdr hpeer (hkey.trans (congrArg AeadCall.key hcall)) hissuer
    hne hlen (issueTime_timeAndCounter hlate hearly) hcall (congrArg Tpdu.data hform) hlookup
  rw [nldeDataIndication_of_sent hsend hdstPort hlen hpeer, hopen, finishIndication, hfirst]
  refine ⟨_, rfl, fun mem hholds => ?_⟩
  have hn : (UInt16.ofNat req.appData.length).toNat = req.appData.length :=
    Nat.mod_eq_of_lt (length_lt_of_setGenericObject hrange hset)
  exact ⟨_, (parses_getGenericObject nativePublish old hsrvc hrange hset hn hholds []).1,
    sameCarried_received hsrvc hrange hset hholds⟩

/-- An execute request with two octets. -/
theorem object_delivered_exec : ∃ ind : TlIndication,
    nldeDataIndication rijndaelCcm sampleRx 1001 1001 sampleTxAddress
      (sampleSecured [5, 18, 7, 3, 2, 170, 187]).2.data 0
      .empty = ⟨[], .indication ind, .empty⟩ ∧ ∀ mem, Holds mem 0 ind.appData → ∃ obj',
        (getGenericObject 0 (.ofNat ind.appData.length) .cleared mem .start).1 = some obj' ∧
        SameCarried mem (.execReq ⟨1, 2, 7, 3, 2, [170, 187]⟩) obj' :=
  have hrange : (GenericAslSrvc.execReq ⟨1, 2, 7, 3, 2, [170, 187]⟩ : GenericAslSrvc Payload).InRange :=
    ⟨by decide, rfl⟩
  object_delivered id hrange (rfl : setGenericObject _ 65535 = _) (sampleSecured_sent [5, 18, 7, 3, 2, 170, 187])
    (by decide) (by decide) rfl (sampleSecured_lookup _) rfl rfl (by decide : (1001 : UInt32).toNat ≤ 1000 + 60)
      (by decide)
    rfl 0 0 .cleared

end Isa100Gateway
