import Isa100Gateway.Crypto.AesCcm
import Isa100Gateway.SystemManager.JoinSecurity

/-!
# Isolation of the security join

What the stored challenges stand for in every run, and when a confirm is therefore checked against the last authenticated request. The challenge of a request is stored before its MIC is looked at, and the keys of a device are stored whatever the validation said; the condition on the steps leaves out the requests that get so far and then fail.
-/

namespace Isa100Gateway.SystemManager

theorem checkChallenge_eq_some {challenges challenges' : JoinRequestChallenges} {request : SecuritySymJoinRequest}
    (h : checkChallenge challenges request = some challenges') : challenges' = recordChallenge challenges request := by
  unfold checkChallenge at h
  split at h
  · split at h
    · cases h
    · exact (Option.some.inj h).symm
  · exact (Option.some.inj h).symm

theorem lookup_recordChallenge (challenges : JoinRequestChallenges) (request : SecuritySymJoinRequest) (a : Address64) :
    ((recordChallenge challenges request).lookup a).map (·.previousChallenge1) =
      if a = request.eui64JoiningDevice then some request.bitChallengeFromNewDevice
      else (challenges.lookup a).map (·.previousChallenge1) := by
  rw [recordChallenge, Table.lookup_insert]
  split
  · rfl
  · rfl

namespace JoinState

variable {κ : Type}

/-- The last recorded challenge of a device is that of the request recorded last for it, and its assigned challenge that of the request authenticated last. -/
structure Inv (s : JoinState κ) : Prop where
  pending : ∀ p ∈ s.pending, s.received[p.number]? = some p.joinRequest
  recorded : ∀ a, (s.joinRequestChallenges.lookup a).map (·.previousChallenge1) =
    (s.recorded a).bind fun n => s.received[n]?.map (·.bitChallengeFromNewDevice)
  known : ∀ a n, s.recorded a = some n → n < s.received.length
  assigned : ∀ a, s.assignedChallenges.lookup a = (s.authenticated a).map (·.assignedChallenge)
  authenticated : ∀ a j, s.authenticated a = some j → s.received[j.number]? = some j.joinRequest

theorem inv_start (settings : Settings) (policies : Policies) (devices : AList fun _ : UInt32 => Device)
    (stackKeys : κ) : (start settings policies devices stackKeys).Inv where
  pending := fun _ hp => absurd hp List.not_mem_nil
  recorded := fun _ => rfl
  known := fun _ _ h => by cases h
  assigned := fun _ => rfl
  authenticated := fun _ _ h => by cases h

variable {s s' : JoinState κ}

theorem getElem?_received {n : Nat} {r : SecuritySymJoinRequest} (h : s.received[n]? = some r)
    (request : SecuritySymJoinRequest) : (s.received ++ [request])[n]? = some r := by
  obtain ⟨hn, -⟩ := List.getElem?_eq_some_iff.mp h
  rw [List.getElem?_append_left hn, h]

theorem Inv.submit (hs : s.Inv) (request : SecuritySymJoinRequest) : (s.submit request).Inv where
  pending := by
    intro p hp
    rcases List.mem_append.mp hp with hp | hp
    · exact getElem?_received (hs.pending p hp) request
    · obtain rfl := List.mem_singleton.mp hp
      exact List.getElem?_concat_length
  recorded := by
    intro a
    refine (hs.recorded a).trans ?_
    cases hn : s.recorded a with
    | none => simp only [JoinState.submit, hn, Option.bind_none]
    | some n =>
      simp only [JoinState.submit, hn, Option.bind_some]
      rw [List.getElem?_append_left (hs.known a n hn)]
  known := by
    intro a n hn
    have hlt := hs.known a n hn
    simp only [JoinState.submit, List.length_append]
    omega
  assigned := hs.assigned
  authenticated := fun a j hj => getElem?_received (hs.authenticated a j hj) request

theorem Inv.record (hs : s.Inv) (request : SecuritySymJoinRequest) :
    Inv { s.submit request with
      joinRequestChallenges := recordChallenge s.joinRequestChallenges request
      recorded := Function.update s.recorded request.eui64JoiningDevice (some s.received.length) } where
  pending := (hs.submit request).pending
  recorded := by
    intro a
    simp only [lookup_recordChallenge, Function.update_apply]
    by_cases ha : a = request.eui64JoiningDevice
    · rw [if_pos ha, if_pos ha, Option.bind_some]
      simp only [JoinState.submit]
      rw [List.getElem?_concat_length]
      rfl
    · rw [if_neg ha, if_neg ha]
      exact (hs.submit request).recorded a
  known := by
    intro a n hn
    simp only [Function.update_apply] at hn
    simp only [JoinState.submit, List.length_append, List.length_singleton]
    split at hn
    · cases hn
      exact Nat.lt_succ_self _
    · exact Nat.lt_succ_of_lt (hs.known a n hn)
  assigned := (hs.submit request).assigned
  authenticated := (hs.submit request).authenticated

theorem Inv.processSecuritySymJoinRequest (hs : s.Inv) (request : SecuritySymJoinRequest) :
    (s.processSecuritySymJoinRequest request).Inv := by
  unfold JoinState.processSecuritySymJoinRequest
  split
  case h_1 => exact hs
  case h_2 =>
    split
    case isTrue => exact hs.submit request
    case isFalse =>
      split
      case h_1 => exact hs
      case h_2 challenges hcheck =>
        rw [checkChallenge_eq_some hcheck]
        exact hs.record request

variable {p : PendingJoin}

theorem Inv.assignChallenge (hs : s.Inv) (hp : s.received[p.number]? = some p.joinRequest)
    (response : SecuritySymJoinResponse) : (s.assignChallenge p response).Inv where
  pending := hs.pending
  recorded := hs.recorded
  known := hs.known
  assigned := by
    intro a
    simp only [JoinState.assignChallenge, Table.lookup_insert, Function.update_apply]
    split
    · rfl
    · exact hs.assigned a
  authenticated := by
    intro a j hj
    simp only [JoinState.assignChallenge, Function.update_apply] at hj
    split at hj
    · cases hj
      exact hp
    · exact hs.authenticated a j hj

theorem Inv.with_keys (hs : s.Inv) (devices : AList fun _ : UInt32 => Device) (stackKeys : κ) :
    Inv { s with devices, stackKeys } :=
  ⟨hs.pending, hs.recorded, hs.known, hs.assigned, hs.authenticated⟩

theorem Inv.with_settings (hs : s.Inv) (settings : Settings) : Inv { s with settings } :=
  ⟨hs.pending, hs.recorded, hs.known, hs.assigned, hs.authenticated⟩

theorem Inv.drop (hs : s.Inv) (keeps : PendingJoin → Bool) : Inv { s with pending := s.pending.filter keeps } :=
  ⟨fun p hp => hs.pending p (List.mem_of_mem_filter hp), hs.recorded, hs.known, hs.assigned, hs.authenticated⟩

variable {E : Key128 → Block → Block} {setKey : κ → SetKeyRequest → κ}

theorem Inv.responseJoinSecurity (hs : s.Inv) (hp : s.received[p.number]? = some p.joinRequest)
    {deviceAddress : UInt32} {status : ResponseStatus} {env : Surroundings}
    (h : s.responseJoinSecurity E setKey p deviceAddress status env = some s') : s'.Inv := by
  unfold JoinState.responseJoinSecurity at h
  split at h
  case h_1 =>
    cases h
    exact hs
  case h_2 =>
    obtain ⟨outcome, -, hnext⟩ := Option.bind_eq_some_iff.mp h
    cases hnext
    split
    · exact (hs.assignChallenge hp _).with_keys _ _
    · exact hs.with_keys _ _

theorem mem_findPending {n : Nat} (h : s.findPending n = some p) : p ∈ s.pending :=
  List.mem_of_find?_eq_some h

theorem Inv.step (hs : s.Inv) {a : JoinStep κ} (h : s.step E setKey a = some s') : s'.Inv := by
  cases a with
  | joinRequest request =>
    cases h
    exact hs.processSecuritySymJoinRequest request
  | responseJoinSecurity n deviceAddress status env =>
    obtain ⟨p, hp, hanswer⟩ := Option.bind_eq_some_iff.mp h
    exact (hs.drop _).responseJoinSecurity (hs.pending p (mem_findPending hp)) hanswer
  | joinConfirm a response =>
    cases h
    exact hs
  | engine devices stackKeys =>
    cases h
    exact hs.with_keys devices stackKeys
  | reload settings =>
    cases h
    exact hs.with_settings settings

/-! ## Isolation -/

variable (E)

/-- The device is provisioned, and the request has the algorithm and the MIC of its join key. -/
def Authentic (s : JoinState κ) (request : SecuritySymJoinRequest) : Prop :=
  ∃ item ∈ s.settings.getProvisioningForDevice request.eui64JoiningDevice,
    request.algorithmIdentifier &&& 0x0F = 1 ∧ validateJoinRequestMIC E request item.key = true

instance (s : JoinState κ) (request : SecuritySymJoinRequest) : Decidable (s.Authentic E request) :=
  inferInstanceAs (Decidable (∃ _ ∈ _, _))

def Records (s : JoinState κ) (request : SecuritySymJoinRequest) : Prop :=
  (s.settings.getProvisioningForDevice request.eui64JoiningDevice).isSome ∧ s.settings.disableAuthentication = false ∧
    (checkChallenge s.joinRequestChallenges request).isSome

instance (s : JoinState κ) (request : SecuritySymJoinRequest) : Decidable (s.Records request) :=
  inferInstanceAs (Decidable (_ ∧ _))

/-- A request whose challenge is recorded, or that the engine's answer sets off, is authentic. A confirm comes when the last recorded request of the device is the last authenticated one. -/
def Undisturbed (s : JoinState κ) : JoinStep κ → Prop
  | .joinRequest request => s.Records request → s.Authentic E request
  | .responseJoinSecurity n deviceAddress status _ =>
    ∀ p ∈ s.findPending n, (s.answersWith deviceAddress status).isSome → s.Authentic E p.joinRequest
  | .joinConfirm a _ => s.recorded a = (s.authenticated a).map (·.number)
  | .engine _ _ | .reload _ => True

instance (s : JoinState κ) : ∀ a, Decidable (s.Undisturbed E a)
  | .joinRequest _ => inferInstanceAs (Decidable (_ → _))
  | .responseJoinSecurity .. => inferInstanceAs (Decidable (∀ _ ∈ _, _))
  | .joinConfirm .. => inferInstanceAs (Decidable (_ = _))
  | .engine _ _ | .reload _ => isTrue trivial

def FailsValidation (s : JoinState κ) : JoinStep κ → Prop
  | .joinRequest request =>
    s.settings.getProvisioningForDevice request.eui64JoiningDevice = none ∨
      checkChallenge s.joinRequestChallenges request = none ∨ ¬s.Authentic E request
  | .responseJoinSecurity n _ _ _ => ∃ p ∈ s.findPending n, ¬s.Authentic E p.joinRequest
  | .joinConfirm _ _ | .engine _ _ | .reload _ => False

structure SameKeys (s s' : JoinState κ) : Prop where
  joinRequestChallenges : s'.joinRequestChallenges = s.joinRequestChallenges
  assignedChallenges : s'.assignedChallenges = s.assignedChallenges
  devices : s'.devices = s.devices
  stackKeys : s'.stackKeys = s.stackKeys

theorem SameKeys.refl (s : JoinState κ) : s.SameKeys s := ⟨rfl, rfl, rfl, rfl⟩

variable {E}

theorem sameKeys_processSecuritySymJoinRequest {request : SecuritySymJoinRequest} (h : ¬s.Records request) :
    s.SameKeys (s.processSecuritySymJoinRequest request) := by
  unfold JoinState.processSecuritySymJoinRequest
  split
  case h_1 => exact .refl s
  case h_2 item hitem =>
    split
    case isTrue => exact ⟨rfl, rfl, rfl, rfl⟩
    case isFalse hauth =>
      split
      case h_1 => exact .refl s
      case h_2 challenges hcheck =>
        have hrecords : s.Records request := by
          rw [Records, hitem, hcheck]
          exact ⟨rfl, Bool.not_eq_true _ ▸ hauth, rfl⟩
        exact absurd hrecords h

theorem sameKeys_of_failsValidation {a : JoinStep κ} (hclean : s.Undisturbed E a) (hfails : s.FailsValidation E a)
    (h : s.step E setKey a = some s') : s.SameKeys s' := by
  cases a with
  | joinRequest request =>
    cases h
    apply sameKeys_processSecuritySymJoinRequest
    intro hrecords
    rcases hfails with hnone | hused | hmic
    · exact absurd hrecords.1 (by rw [hnone]; exact Bool.false_ne_true)
    · exact absurd hrecords.2.2 (by rw [hused]; exact Bool.false_ne_true)
    · exact hmic (hclean hrecords)
  | responseJoinSecurity n deviceAddress status env =>
    obtain ⟨p, hp, hmic⟩ := hfails
    have hanswers : s.answersWith deviceAddress status = none := by
      rw [← Option.not_isSome_iff_eq_none]
      exact fun hanswers => hmic (hclean p hp hanswers)
    obtain ⟨q, -, hnext⟩ := Option.bind_eq_some_iff.mp h
    have hsame : ({ s with pending := s.pending.filter fun q => q.number ≠ n } : JoinState κ).answersWith
        deviceAddress status = none := hanswers
    rw [JoinState.responseJoinSecurity, hsame] at hnext
    cases hnext
    exact ⟨rfl, rfl, rfl, rfl⟩
  | joinConfirm a response => exact hfails.elim
  | engine devices stackKeys => exact hfails.elim
  | reload settings => exact hfails.elim

variable (E) in
/-- The response is the hash, under the device's join key, of the challenges of the request authenticated last for it. -/
def AnswersLastJoin (s : JoinState κ) (a : Address64) (response : Block) : Prop :=
  ∃ item ∈ s.settings.getProvisioningForDevice a, ∃ j ∈ s.authenticated a,
    hmackJoin E (j.joinRequest.bitChallengeFromNewDevice.toList ++ j.assignedChallenge.toList ++ a.toList ++
      s.settings.managerAddress64.toList) item.key = response

instance (s : JoinState κ) (a : Address64) (response : Block) : Decidable (s.AnswersLastJoin E a response) :=
  inferInstanceAs (Decidable (∃ _ ∈ _, _))

theorem Inv.lookup_challenges (hs : s.Inv) {a : Address64} (hlast : s.recorded a = (s.authenticated a).map (·.number)) :
    (s.joinRequestChallenges.lookup a).map (·.previousChallenge1) =
      (s.authenticated a).map (·.joinRequest.bitChallengeFromNewDevice) := by
  rw [hs.recorded a, hlast]
  cases hj : s.authenticated a with
  | none => rfl
  | some j => rw [Option.map_some, Option.bind_some, hs.authenticated a j hj, Option.map_some, Option.map_some]

theorem Inv.securityJoinConfirm_iff (hs : s.Inv) {a : Address64}
    (hlast : s.recorded a = (s.authenticated a).map (·.number)) (response : Block) :
    s.securityJoinConfirm E a response = true ↔ s.AnswersLastJoin E a response := by
  have hrecorded := hs.lookup_challenges hlast
  have hassigned := hs.assigned a
  unfold securityJoinConfirm AnswersLastJoin
  cases hitem : s.settings.getProvisioningForDevice a with
  | none => simp
  | some item =>
    cases hj : s.authenticated a with
    | none =>
      rw [hj] at hassigned
      simp [hassigned]
    | some j =>
      rw [hj, Option.map_some] at hassigned hrecorded
      obtain ⟨challenges, hchallenges, hfirst⟩ := Option.map_eq_some_iff.mp hrecorded
      simp [hassigned, hchallenges, hfirst]

theorem inv_of_reaches {ok : JoinState κ → JoinStep κ → Prop} {settings : Settings} {policies : Policies}
    {devices : AList fun _ : UInt32 => Device} {stackKeys : κ}
    (h : Machine.Reaches (start settings policies devices stackKeys) (step E setKey) ok s) : s.Inv :=
  h.invariant (inv_start settings policies devices stackKeys) fun _ _ _ hs _ hstep => hs.step hstep

/-- In every run of undisturbed steps, a join request that fails a validation leaves the keys as they are, and a confirm succeeds exactly with the hash of the last authenticated request's challenges. -/
theorem join_isolation {settings : Settings} {policies : Policies} {devices : AList fun _ : UInt32 => Device}
    {stackKeys : κ}
    (h : Machine.Reaches (start settings policies devices stackKeys) (step E setKey) (fun s a => s.Undisturbed E a) s) :
    (∀ a s', s.Undisturbed E a → s.FailsValidation E a → s.step E setKey a = some s' → s.SameKeys s') ∧
      ∀ a response, s.Undisturbed E (.joinConfirm a response) →
        (s.securityJoinConfirm E a response = true ↔ s.AnswersLastJoin E a response) := by
  constructor
  · intro a s' hclean hfails hstep
    exact sameKeys_of_failsValidation hclean hfails hstep
  · intro a response hlast
    exact (inv_of_reaches h).securityJoinConfirm_iff hlast response

def aes128Encrypt (key : Key128) (plain : Block) : Block := Block.ofList (rijndaelEncrypt key plain.toList)

def sampleDevice : Address64 := #v[0, 0, 0, 0, 0, 0, 0, 7]

def sampleJoinKey : Key128 := Vector.ofFn fun i => UInt8.ofNat (0xC0 + i)

def sampleSettings : Settings where
  managerAddress64 := Vector.replicate 8 1
  provisioningKeys := [⟨sampleJoinKey, 1, .gateway, sampleDevice, sampleDevice⟩]
  disableAuthentication := false
  disableTLEncryption := false

def samplePolicies : Policies := ⟨⟨0⟩, ⟨720⟩, ⟨720⟩, .initial, .initial, .initial⟩

def sampleStart : JoinState (List SetKeyRequest) := start sampleSettings samplePolicies ∅ []

def sampleStep : JoinState (List SetKeyRequest) → JoinStep (List SetKeyRequest) →
    Option (JoinState (List SetKeyRequest)) :=
  step aes128Encrypt fun keys key => keys ++ [key]

def sampleAdmitted : Device where
  address64 := sampleDevice
  address128 := List.replicate 16 9
  sessionKeysTable := (∅ : AList _).insert (createEntityIndex 2 .sessionKey 1)
    ⟨some ⟨0, Vector.replicate 16 8, .initial⟩, false⟩
  masterKeysTable := ∅
  subnetKeysTable := ∅

def sampleChallenge : Block := Vector.replicate 16 5

def sampleJoin : List (JoinStep (List SetKeyRequest)) :=
  [.joinRequest ⟨sampleDevice, sampleChallenge, 0, 1, 0xE24B538C⟩, .engine ((∅ : AList _).insert 2 sampleAdmitted) [],
    .responseJoinSecurity 0 2 .success ⟨2, 1000, Vector.replicate 16 0, none⟩]

def sampleResponse : Block :=
  hmackJoin aes128Encrypt (sampleChallenge.toList ++ (managerChallenge 2).toList ++ sampleDevice.toList ++
    sampleSettings.managerAddress64.toList) sampleJoinKey

theorem join_isolation_sample : ∃ s, Machine.runs sampleStep sampleStart sampleJoin = some s ∧
      s.Undisturbed aes128Encrypt (.joinConfirm sampleDevice sampleResponse) ∧
      (s.securityJoinConfirm aes128Encrypt sampleDevice sampleResponse = true ↔
        s.AnswersLastJoin aes128Encrypt sampleDevice sampleResponse) := by
  obtain ⟨s, hrun, hlast⟩ :
      ∃ s ∈ Machine.runs sampleStep sampleStart sampleJoin,
        s.Undisturbed aes128Encrypt (.joinConfirm sampleDevice sampleResponse) := by
    decide +kernel
  have hclean : Machine.AllAlong (fun s a => s.Undisturbed aes128Encrypt a) sampleStep sampleStart sampleJoin := by
    decide +kernel
  have hreach := Machine.reaches_runs hclean hrun
  exact ⟨s, hrun, hlast, (join_isolation hreach).2 sampleDevice sampleResponse hlast⟩

/-- A request with a fresh challenge and a wrong MIC, behind a join, changes the stored challenges, and the confirm of the join is refused. -/
theorem forged_join_disturbs : ∃ s ∈ Machine.runs sampleStep sampleStart sampleJoin,
      s.FailsValidation aes128Encrypt (.joinRequest ⟨sampleDevice, Vector.replicate 16 6, 0, 1, 0⟩) ∧
      ∃ s' ∈ sampleStep s (.joinRequest ⟨sampleDevice, Vector.replicate 16 6, 0, 1, 0⟩),
        s'.joinRequestChallenges.lookup sampleDevice ≠ s.joinRequestChallenges.lookup sampleDevice ∧
        s'.AnswersLastJoin aes128Encrypt sampleDevice sampleResponse ∧
        s'.securityJoinConfirm aes128Encrypt sampleDevice sampleResponse = false := by
  unfold FailsValidation
  decide +kernel

end JoinState

end Isa100Gateway.SystemManager
