import Isa100Gateway.Lib.AgedTable

/-!
# Duplicate requests and publishes (`DuplicateRequests.cpp`)

Two tables of what was received last. An entry is the call that it was made for; `time_t` holds the clock values.
-/

namespace Isa100Gateway.SystemManager

namespace DuplicateRequests

open AgedTable

def maxTableSize : Nat := 20

structure Clock where
  currentTime : UInt32
  duplicatesTimeSpan : UInt16
  deriving DecidableEq

/-- The negation of `RequestTimePredicate` and of `PublishTimePredicate`. -/
def unexpired (now entry : Clock) : Bool :=
  !(decide (now.currentTime < entry.currentTime) ||
    decide (now.duplicatesTimeSpan.toNat < now.currentTime.toNat - entry.currentTime.toNat))

structure RequestID where
  address128 : Vector UInt8 16
  appHandle : UInt16
  clientTSAP_ID : UInt8
  deriving DecidableEq

structure PublishID where
  address128 : Vector UInt8 16
  freshnessNo : UInt8
  deriving DecidableEq

def isDuplicateRequest (requestsTable : List (RequestID × Clock)) (address128 : Vector UInt8 16) (appHandle : UInt16)
    (clientTSAP_ID : UInt8) (clock : Clock) : Bool × List (RequestID × Clock) :=
  check unexpired maxTableSize requestsTable (⟨address128, appHandle, clientTSAP_ID⟩, clock)

def isDuplicatePublish (publishTable : List (PublishID × Clock)) (address128 : Vector UInt8 16)
    (freshnessNumber : UInt8)
    (clock : Clock) : Bool × List (PublishID × Clock) :=
  check unexpired maxTableSize publishTable (⟨address128, freshnessNumber⟩, clock)

/-- A call is a duplicate just if an equal one entered the table, was within the time span at all calls since, and never had as many unexpired entries behind it as fit. The tables are no longer than that. -/
theorem duplicates_remembered (requests : List (RequestID × Clock)) (publishes : List (PublishID × Clock))
    (address128 : Vector UInt8 16) (appHandle : UInt16) (clientTSAP_ID freshnessNumber : UInt8) (clock : Clock) :
    (((isDuplicateRequest (run unexpired maxTableSize requests).table address128 appHandle clientTSAP_ID
      clock).1 = true ↔
        Remembered unexpired maxTableSize (run unexpired maxTableSize requests).past
          (⟨address128, appHandle, clientTSAP_ID⟩, clock)) ∧
      (run unexpired maxTableSize requests).table.length ≤ maxTableSize) ∧
    ((isDuplicatePublish (run unexpired maxTableSize publishes).table address128 freshnessNumber clock).1 = true ↔
        Remembered unexpired maxTableSize (run unexpired maxTableSize publishes).past
          (⟨address128, freshnessNumber⟩, clock)) ∧
      (run unexpired maxTableSize publishes).table.length ≤ maxTableSize := by
  have hrequests : Mirrors unexpired maxTableSize (run unexpired maxTableSize requests) := .run (by decide) requests
  have hpublishes : Mirrors unexpired maxTableSize (run unexpired maxTableSize publishes) := .run (by decide) publishes
  exact ⟨⟨hrequests.check_iff, hrequests.size⟩, hpublishes.check_iff, hpublishes.size⟩

/-- An unknown call with the key is within the time span, with fewer entries since than fit, and no call since was earlier. -/
def RecordedSince (past : List ((PublishID × Clock) × Bool)) (call : PublishID × Clock) : Prop :=
  ∃ since entry older, past = since ++ (entry, false) :: older ∧ entry.1 = call.1 ∧ unexpired call.2 entry.2 = true ∧
    (∀ later ∈ since, entry.2.currentTime ≤ later.1.2.currentTime) ∧ since.countP (!·.2) < maxTableSize

def samplePublish (freshnessNo : UInt8) (currentTime : UInt32) : PublishID × Clock :=
  (⟨Vector.replicate 16 1, freshnessNo⟩, ⟨currentTime, 60⟩)

/-- The clock goes past the time span and comes back. -/
theorem recorded_unknown :
    ¬((isDuplicatePublish (run unexpired maxTableSize [samplePublish 1 0, samplePublish 2 61]).table
      (Vector.replicate 16 1) 1 ⟨1, 60⟩).1 = true ↔
      RecordedSince (run unexpired maxTableSize [samplePublish 1 0, samplePublish 2 61]).past (samplePublish 1 1)) := by
  refine not_iff.mpr (iff_of_true (by decide) ?_)
  refine ⟨[(samplePublish 2 61, false)], samplePublish 1 0, [], by decide, rfl, by decide, ?_, by decide⟩
  exact List.forall_mem_singleton.mpr (by decide)

end DuplicateRequests

end Isa100Gateway.SystemManager
