import Mathlib.Data.List.Basic

/-!
# The key table of `slme.cpp`

The keys by category, and the two lookups of the transport layer.
-/

namespace Isa100Gateway

abbrev Addr128 := Vector UInt8 16

abbrev Eui64 := Vector UInt8 8

abbrev Key128 := Vector UInt8 16

def slmKeyUsageDll : UInt8 := 0
def slmKeyUsageSession : UInt8 := 1
def slmKeyUsageMaster : UInt8 := 2

def securityNone : UInt8 := 0
def securityMic32 : UInt8 := 1
def securityEncMic32 : UInt8 := 5
def keyIdMode : UInt8 := 0x01
def keyIdModeOffset : UInt8 := 3
def securityCtrlEncMic32 : UInt8 := securityEncMic32 ||| keyIdMode <<< keyIdModeOffset

structure SlmeKey where
  peerIPv6Address : Addr128
  udpSPort : UInt16
  udpDPort : UInt16
  keyID : UInt8
  usage : UInt8
  policy : UInt8
  validNotBefore : UInt32
  softLifetime : UInt32
  hardLifetime : UInt32
  key : Key128
  issuerEUI64 : Eui64
deriving DecidableEq

structure KeyCategory where
  peerIPv6Address : Addr128
  udpSPort : UInt16
  udpDPort : UInt16
deriving DecidableEq

abbrev KeyTable := List (KeyCategory × List SlmeKey)

def KeyTable.keys (table : KeyTable) : List SlmeKey := table.flatMap Prod.snd

def findKeyCat (table : KeyTable) (peer : Option Addr128) (sPort dPort : UInt16) (keyUsage : UInt8) :
    Option (List SlmeKey) :=
  let stKeyCat : KeyCategory :=
    if keyUsage = slmKeyUsageSession then ⟨peer.getD (Vector.replicate 16 0), sPort, dPort⟩
    else ⟨Vector.replicate 16 0, 0, 0⟩
  table.lookup stKeyCat

def findKey (table : KeyTable) (peer : Option Addr128) (sPort dPort : UInt16) (keyID keyUsage : UInt8) :
    Option SlmeKey :=
  match findKeyCat table peer sPort dPort keyUsage with
  | none => none
  | some list => list.find? fun k => k.usage = keyUsage ∧ k.keyID = keyID

def candidate (crtTai : UInt32) (k : SlmeKey) (found : Option SlmeKey) : Option SlmeKey :=
  if found.isNone ∧ k.validNotBefore ≤ crtTai then some k else found

def findTxKeyLoop (crtTai : UInt32) : List SlmeKey → Option SlmeKey → UInt8 → Option SlmeKey × UInt8
  | [], found, count => (found, count)
  | k :: list, found, count =>
    if count + 1 > 1 ∧ (candidate crtTai k found).isSome then (candidate crtTai k found, count + 1)
    else findTxKeyLoop crtTai list (candidate crtTai k found) (count + 1)

def findTxKey (table : KeyTable) (peer : Addr128) (sPort dPort : UInt16) (crtTai : UInt32) : Option SlmeKey × UInt8 :=
  match findKeyCat table (some peer) sPort dPort slmKeyUsageSession with
  | none => (none, 0)
  | some list => findTxKeyLoop crtTai list none 0

variable {table : KeyTable} {list : List SlmeKey} {k : SlmeKey} {crtTai : UInt32}

theorem mem_keys_of_findKeyCat {peer : Option Addr128} {sPort dPort : UInt16} {keyUsage : UInt8}
    (h : findKeyCat table peer sPort dPort keyUsage = some list) (hk : k ∈ list) : k ∈ table.keys := by
  obtain ⟨before, after, hsplit, -⟩ := List.lookup_eq_some_iff.mp h
  apply List.mem_flatMap.mpr
  exact ⟨_, by rw [hsplit]; exact List.mem_append_right _ List.mem_cons_self, hk⟩

theorem findTxKeyLoop_some {found : Option SlmeKey} {count : UInt8}
    (h : (findTxKeyLoop crtTai list found count).1 = some k) :
    found = some k ∨ (k ∈ list ∧ k.validNotBefore ≤ crtTai) := by
  induction list generalizing found count with
  | nil => exact Or.inl h
  | cons key list ih =>
    have hcandidate : candidate crtTai key found = some k →
        found = some k ∨ (k ∈ key :: list ∧ k.validNotBefore ≤ crtTai) := by
      intro hsome
      by_cases hvalid : found.isNone ∧ key.validNotBefore ≤ crtTai
      · rw [candidate, if_pos hvalid] at hsome
        cases hsome
        exact Or.inr ⟨List.mem_cons_self, hvalid.2⟩
      · rw [candidate, if_neg hvalid] at hsome
        exact Or.inl hsome
    by_cases hdone : count + 1 > 1 ∧ (candidate crtTai key found).isSome
    · rw [findTxKeyLoop, if_pos hdone] at h
      exact hcandidate h
    · rw [findTxKeyLoop, if_neg hdone] at h
      cases ih h with
      | inl hsome => exact hcandidate hsome
      | inr hmem => exact Or.inr ⟨List.mem_cons_of_mem key hmem.1, hmem.2⟩

theorem findTxKey_some {peer : Addr128} {sPort dPort : UInt16}
    (h : (findTxKey table peer sPort dPort crtTai).1 = some k) : k ∈ table.keys ∧ k.validNotBefore ≤ crtTai := by
  cases hcat : findKeyCat table (some peer) sPort dPort slmKeyUsageSession with
  | none => simp [findTxKey, hcat] at h
  | some list =>
    have hloop : (findTxKeyLoop crtTai list none 0).1 = some k := by
      simpa [findTxKey, hcat] using h
    cases findTxKeyLoop_some hloop with
    | inl hnone => cases hnone
    | inr hmem => exact ⟨mem_keys_of_findKeyCat hcat hmem.1, hmem.2⟩

end Isa100Gateway
