import Isa100Gateway.SystemManager.JoinSecurity

/-!
# The challenge check

The manager stores the last two challenges of a device. A record of all that it accepted says when a refused challenge is one of them: the bytes are compared one by one, each with those of both.
-/

namespace Isa100Gateway.SystemManager

namespace ChallengeReplay

/-- The stored challenges, and those that were accepted from each device, the last one first. -/
structure State where
  challenges : JoinRequestChallenges
  accepted : Address64 → List Block

def init : State := ⟨∅, fun _ => []⟩

def step (s : State) (request : SecuritySymJoinRequest) : State :=
  match checkChallenge s.challenges request with
  | none => s
  | some challenges =>
    ⟨challenges, Function.update s.accepted request.eui64JoiningDevice
      (request.bitChallengeFromNewDevice :: s.accepted request.eui64JoiningDevice)⟩

/-- A request is refused just if its challenge is one of the last two that were accepted from the device, and then nothing changes. -/
structure Exact (s : State) (request : SecuritySymJoinRequest) : Prop where
  refused_iff : checkChallenge s.challenges request = none ↔
    request.bitChallengeFromNewDevice ∈ (s.accepted request.eui64JoiningDevice).take 2
  unchanged : checkChallenge s.challenges request = none → (step s request).challenges = s.challenges
  distinct : ((s.accepted request.eui64JoiningDevice).take 2).Nodup

def stored : List Block → Option PreviousChallenges
  | [] => none
  | [challenge] => some ⟨challenge, Vector.replicate 16 0⟩
  | challenge :: previous :: _ => some ⟨challenge, previous⟩

def Mixed (previous : PreviousChallenges) (challenge : Block) : Prop :=
  ∀ i, previous.previousChallenge1.get i = challenge.get i ∨ previous.previousChallenge2.get i = challenge.get i

/-- No new challenge is mixed from the bytes of the two stored ones. -/
def Meets (accepted : List Block) (challenge : Block) : Prop :=
  ∀ previous, stored accepted = some previous → Mixed previous challenge → challenge ∈ accepted.take 2

structure Remembers (s : State) : Prop where
  lookup : ∀ device, s.challenges.lookup device = stored (s.accepted device)
  distinct : ∀ device, ((s.accepted device).take 2).Nodup

variable {s : State} {request : SecuritySymJoinRequest} {challenge : Block} {accepted : List Block}

theorem used_iff (previous : PreviousChallenges) : previous.used challenge = true ↔ Mixed previous challenge := by
  simp only [PreviousChallenges.used, List.all_eq_true, List.mem_finRange, true_implies, decide_eq_true_iff]
  rfl

theorem mixed_of_mem (h : challenge ∈ accepted.take 2) :
    ∃ previous, stored accepted = some previous ∧ Mixed previous challenge := by
  match accepted, h with
  | [last], h =>
    obtain rfl := List.mem_singleton.mp h
    exact ⟨_, rfl, fun i => .inl rfl⟩
  | last :: previous :: _, h =>
    refine ⟨_, rfl, ?_⟩
    rcases List.mem_pair.mp h with rfl | rfl
    · exact fun i => .inl rfl
    · exact fun i => .inr rfl

theorem refused_iff (h : Remembers s) : checkChallenge s.challenges request = none ↔
    ∃ previous, stored (s.accepted request.eui64JoiningDevice) = some previous ∧
      Mixed previous request.bitChallengeFromNewDevice := by
  rw [checkChallenge, h.lookup]
  cases stored (s.accepted request.eui64JoiningDevice) with
  | none => simp
  | some previous => simp [used_iff]

theorem recorded_of_accepted {challenges : JoinRequestChallenges}
    (h : checkChallenge s.challenges request = some challenges) :
    challenges = recordChallenge s.challenges request := by
  rw [checkChallenge] at h
  split at h
  · split at h
    · cases h
    · exact (Option.some.inj h).symm
  · exact (Option.some.inj h).symm

theorem lookup_recordChallenge (h : Remembers s) :
    (recordChallenge s.challenges request).lookup request.eui64JoiningDevice =
      stored (request.bitChallengeFromNewDevice :: s.accepted request.eui64JoiningDevice) := by
  rw [recordChallenge, AList.lookup_insert, h.lookup]
  match s.accepted request.eui64JoiningDevice with
  | [] => rfl
  | [_] => rfl
  | _ :: _ :: _ => rfl

theorem Remembers.step (h : Remembers s) (request : SecuritySymJoinRequest) : Remembers (step s request) := by
  unfold ChallengeReplay.step
  split
  · exact h
  · rename_i challenges haccepted
    obtain rfl := recorded_of_accepted haccepted
    -- a repetition of the last challenge would have been refused
    have hnew : request.bitChallengeFromNewDevice ∉ (s.accepted request.eui64JoiningDevice).take 2 := fun hmem => by
      have hrefused := (refused_iff h).mpr (mixed_of_mem hmem)
      cases haccepted.symm.trans hrefused
    have hdistinct : ((request.bitChallengeFromNewDevice :: s.accepted request.eui64JoiningDevice).take 2).Nodup := by
      refine List.nodup_cons.mpr ⟨fun hmem => hnew ?_, (h.distinct request.eui64JoiningDevice).sublist ?_⟩
      · exact List.take_subset_take_left _ (by decide) hmem
      · exact List.take_sublist_take_left (by decide)
    refine ⟨?_, ?_⟩
    · refine (Function.forall_update_iff s.accepted fun device accepted =>
        (recordChallenge s.challenges request).lookup device = stored accepted).mpr ⟨lookup_recordChallenge h, ?_⟩
      intro device hdevice
      exact (AList.lookup_insert_ne hdevice).trans (h.lookup device)
    · refine (Function.forall_update_iff s.accepted fun _ accepted => (accepted.take 2).Nodup).mpr ⟨hdistinct, ?_⟩
      exact fun device _ => h.distinct device

theorem Remembers.run (requests : List SecuritySymJoinRequest) :
    Remembers (Machine.run ChallengeReplay.step init requests) :=
  List.foldlRecOn requests _ ⟨fun _ => rfl, fun _ => List.nodup_nil⟩ fun _ h request _ => h.step request

/-- After any requests, the check of the next one is exact if and only if its challenge is not new and mixed from the stored ones. -/
theorem challenge_check_exact_iff (requests : List SecuritySymJoinRequest) (request : SecuritySymJoinRequest) :
    Exact (Machine.run step init requests) request ↔
      Meets ((Machine.run step init requests).accepted request.eui64JoiningDevice)
        request.bitChallengeFromNewDevice := by
  have h := Remembers.run requests
  generalize Machine.run step init requests = s at h ⊢
  constructor
  · intro hexact previous hstored hmixed
    exact hexact.refused_iff.mp ((refused_iff h).mpr ⟨previous, hstored, hmixed⟩)
  · intro hmeets
    refine ⟨⟨fun hrefused => ?_, fun hmem => (refused_iff h).mpr (mixed_of_mem hmem)⟩, fun hrefused => ?_, h.distinct _⟩
    · obtain ⟨previous, hstored, hmixed⟩ := (refused_iff h).mp hrefused
      exact hmeets previous hstored hmixed
    · rw [step, hrefused]

def joinRequest (challenge : Block) : SecuritySymJoinRequest := ⟨Vector.replicate 8 1, challenge, 0, 0, 0⟩

/-- After the challenges of ones and of twos, one of both is refused. -/
theorem mixed_challenge_refused : ¬Exact
    (Machine.run step init [joinRequest (Vector.replicate 16 1), joinRequest (Vector.replicate 16 2)])
    (joinRequest ((Vector.replicate 16 1).setIfInBounds 0 2)) := by
  intro h
  exact absurd (h.refused_iff.mp (by decide)) (by decide)

end ChallengeReplay

end Isa100Gateway.SystemManager
