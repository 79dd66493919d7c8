import Isa100Gateway.Lib.Buffer
import Isa100Gateway.Lib.Framing
import Mathlib.Algebra.Group.Nat.Defs

/-!
# `CTcpGSAP::ProcessData`

The reassembly of client messages from a TCP stream. A call of `ProcessData` reads at most the bytes that its header or its data section lacks. `none` stands for a write outside the header or the data block.
-/

namespace Isa100Gateway

inductive GsapStatus
  | waitHdr
  | waitData
  | msgReady
deriving DecidableEq

/-- `TCP_INACTIVITY_SEC` and `TCP_MAX_MSG_SIZE`, which is compared and subtracted as an `int`. -/
structure GsapConfig where
  inactivity : Int
  maxSize : Nat
  maxSize_lt : maxSize < 2 ^ 31

def sizeofGSAPHdr : Nat := 18

def hdrDataSize (hdr : List UInt8) : Nat :=
  ((hdr.drop 10).take 4).foldl (fun size b => size * 256 + b.toNat) 0

def ntohHdr (hdr : List UInt8) : List UInt8 :=
  hdr.take 2 ++ ((hdr.drop 2).take 4).reverse ++ ((hdr.drop 6).take 4).reverse ++
    ((hdr.drop 10).take 4).reverse ++ hdr.drop 14

/-- The connection, the bytes of the client that the socket still holds, and as a record of the past the bytes read and the calls of `dispatchUserReq`. -/
structure TcpGSAP where
  ucStatus : GsapStatus
  received : Nat
  reqHeader : List UInt8
  reqData : List UInt8
  bIsValid : Bool
  lastRx : Int
  socket : List UInt8
  consumed : List UInt8
  dispatched : List (List UInt8 × List UInt8)

/-- One call of `ProcessData`: the clock, the time of the last transmission, and how many bytes TCP has ready. -/
structure ProcessCall where
  now : Int
  lastTx : Int
  ready : Nat

/-- A new connection over which the client will send `stream`. Memory that the program leaves uninitialised holds zeros. -/
def TcpGSAP.connect (stream : List UInt8) (now : Int) : TcpGSAP where
  ucStatus := .waitHdr
  received := 0
  reqHeader := List.replicate sizeofGSAPHdr 0
  reqData := []
  bIsValid := true
  lastRx := now
  socket := stream
  consumed := []
  dispatched := []

def TcpGSAP.dwExpected (gsap : TcpGSAP) : Nat :=
  if gsap.ucStatus = .waitHdr then sizeofGSAPHdr else hdrDataSize gsap.reqHeader

def TcpGSAP.inactive (cfg : GsapConfig) (call : ProcessCall) (gsap : TcpGSAP) : Prop :=
  call.now - gsap.lastRx > cfg.inactivity ∧ call.now - call.lastTx > cfg.inactivity

instance (cfg : GsapConfig) (call : ProcessCall) (gsap : TcpGSAP) : Decidable (gsap.inactive cfg call) :=
  inferInstanceAs (Decidable (_ ∧ _))

def TcpGSAP.store (chunk : List UInt8) (gsap : TcpGSAP) : Option TcpGSAP :=
  let stored := { gsap with
    socket := gsap.socket.drop chunk.length
    consumed := gsap.consumed ++ chunk
    received := gsap.received + chunk.length }
  if gsap.ucStatus = .waitHdr then
    (Buffer.write gsap.reqHeader gsap.received chunk).map fun hdr => { stored with reqHeader := hdr }
  else
    (Buffer.write gsap.reqData gsap.received chunk).map fun data => { stored with reqData := data }

/-- The end of `ProcessData` for a complete message. `crcOk` is the check of the header CRC, after which `dispatchUserReq` converts the header in place. -/
def TcpGSAP.dispatch (crcOk : List UInt8 → Bool) (now : Int) (gsap : TcpGSAP) : TcpGSAP :=
  { gsap with
    dispatched := gsap.dispatched ++ [(gsap.reqHeader, gsap.reqData)]
    reqHeader := if crcOk gsap.reqHeader then ntohHdr gsap.reqHeader else gsap.reqHeader
    reqData := []
    ucStatus := .waitHdr
    lastRx := now
    received := 0 }

def TcpGSAP.advance (cfg : GsapConfig) (crcOk : List UInt8 → Bool) (now : Int) (gsap : TcpGSAP) : TcpGSAP :=
  if gsap.received = gsap.dwExpected then
    match gsap.ucStatus with
    | .waitHdr =>
      let size := hdrDataSize gsap.reqHeader
      if size > cfg.maxSize then { gsap with bIsValid := false }
      else if size = 0 then gsap.dispatch crcOk now
      else { gsap with ucStatus := .waitData, reqData := List.replicate size 0, received := 0 }
    | .waitData => gsap.dispatch crcOk now
    | .msgReady => gsap
  else gsap

/-- `ProcessData`, which the connection list calls on valid connections only. -/
def TcpGSAP.processData (cfg : GsapConfig) (crcOk : List UInt8 → Bool) (gsap : TcpGSAP)
    (call : ProcessCall) : Option TcpGSAP :=
  if ¬ gsap.bIsValid then some gsap
  else if gsap.received > gsap.dwExpected then some { gsap with bIsValid := false }
  else if gsap.inactive cfg call then some { gsap with bIsValid := false }
  else
    let nLen := gsap.dwExpected - gsap.received
    let chunk := gsap.socket.take (min call.ready nLen)
    -- `Recv` fails when there is nothing to read; no data section, no read
    if 0 < nLen ∧ chunk = [] then some gsap
    else (gsap.store chunk).map (TcpGSAP.advance cfg crcOk call.now)

def TcpGSAP.run (cfg : GsapConfig) (crcOk : List UInt8 → Bool) (gsap : TcpGSAP)
    (calls : List ProcessCall) : Option TcpGSAP :=
  calls.foldlM (TcpGSAP.processData cfg crcOk) gsap

def gsapFormat : Framing.Format UInt8 where
  headerLen := sizeofGSAPHdr
  payloadLen := hdrDataSize
  headerLen_pos := by decide

end Isa100Gateway
