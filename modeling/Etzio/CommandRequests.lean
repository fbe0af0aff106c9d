import Etzio.EvidenceVault
import Etzio.Interaction
import Etzio.Proposals

/-!
# Requests of the verification commands

What the seven verification commands share : their arguments and errors, the store calls
they make, the constructors of the values they build, and how they read a projection. A
command drafts a `Proposal`, the event it would append with the lookups it makes when the
append is over.
-/

open CheckedRun Interaction

namespace Etzio

/-! ## Errors, results and store calls -/

/-- How a command ends without a result. -/
inductive CommandError
  /-- The command's own error, with its reason code. -/
  | rejected (reasonCode message : String)
  /-- `StaleHeadError`. -/
  | staleHead
  /-- `StoreBusyError`. -/
  | storeBusy
  /-- Any other error of the store. -/
  | store (message : String)
  /-- `ReductionError`. -/
  | reduction (message : ReductionError)
  /-- `EventIntegrityError` of `EventV1.create`. -/
  | event (message : String)
  /-- An exception of the language. -/
  | raised (message : String)
  deriving DecidableEq, Repr

/-- What a command returns beside the projection and the event. -/
inductive CommandValue
  | lease (lease : VerificationLeaseV1)
  | reassignment (predecessor lease : VerificationLeaseV1)
  | resolution (resolution : VerificationArtifactResolutionV1)
  | admission (authenticated : AuthenticatedVerifierReceiptV1)
      (outputs : VerificationOutputArtifactsV1)
  | closure (status : ClosedStatus)

/-- The records `VerificationLeaseIssuance`, `VerificationLeaseDisposition`,
`VerificationLeaseReassignment`, `VerificationArtifactResolution`,
`VerificationReceiptAdmission` and `VerificationMissionClosure`. -/
structure CommandOutcome where
  projection : MissionProjection
  event : EventV1
  value : CommandValue
  replayed : Bool

/-- The three appends of the store. -/
inductive AppendKind
  | append
  | appendEvidenceEvent
  | appendReceiptAdmission
  deriving DecidableEq, Repr

/-- How a read of the vault fails. -/
inductive VaultReadError
  /-- A store error that the commands let pass. -/
  | passed (error : CommandError)
  /-- `EvidenceVaultRequestError`. -/
  | request (requestIndex : ℕ) (reasonCode message : String)
  /-- `EvidenceError` or another `EventStoreError`. -/
  | unavailable (message : String)

/-- `VaultArtifactResolutionRequestV1`. -/
structure VaultArtifactResolutionRequestV1 where
  role : VaultRole
  digest : Digest
  maximum : ℕ

/-- `VaultEventArtifactSelectorV1`. -/
structure VaultEventArtifactSelectorV1 where
  eventDigest : Digest
  role : VaultRole
  ordinal : ℕ

/-- The operations of the event store that the commands use. -/
inductive StoreCall : Type → Type 1
  | load (missionId : Digest) : StoreCall (Except CommandError (List EventV1))
  | append (kind : AppendKind) (event : EventV1) (expectedHead : Digest) :
      StoreCall (Except CommandError Unit)
  | loadEventArtifacts (selectors : List VaultEventArtifactSelectorV1) (maximumTotal : ℕ) :
      StoreCall (Except CommandError (List (List UInt8)))
  | resolveEvidenceArtifacts (requests : List VaultArtifactResolutionRequestV1)
      (maximumTotal : ℕ) : StoreCall (Except VaultReadError (List (List UInt8)))

/-- A program of a command. -/
abbrev CommandProg (α : Type) : Type 1 := Prog StoreCall CommandError α

/-- A pure part of a command. -/
def ofExcept {α : Type} (x : Except CommandError α) : CommandProg α := .done x

/-- A call whose reply is a result. -/
def callStore {α : Type} (c : StoreCall (Except CommandError α)) : CommandProg α :=
  .call c fun y => .done y

/-- `_reject`. -/
def reject {α : Type} (reasonCode message : String) : Except CommandError α :=
  .error (.rejected reasonCode message)

/-- What the commands take from the wire layer : the content ids of leases and
resolutions, the test that a body can be represented by protocol v1, the digest of raw
bytes, and the immutable fixture manifest. -/
structure CommandEnv where
  leaseId : VerificationLeaseV1 → Digest
  leaseRepresentable : VerificationLeaseV1 → Bool
  resolutionId : VerificationArtifactResolutionV1 → Digest
  resolutionRepresentable : VerificationArtifactResolutionV1 → Bool
  normalizedPath : String → Bool
  evidenceDigest : List UInt8 → Digest
  fixtureManifest : String → Option (ℕ × Digest)

/-! ## Constructors of leases and resolutions -/

/-- `MAX_EVIDENCE_ARTIFACTS`. -/
def maxEvidenceArtifacts : ℕ := 256

/-- `MAX_RESOLUTION_SINGLE_ARTIFACT_BYTES_V1`. -/
def maxResolutionSingleArtifactBytesV1 : ℕ := 64 * 1024 * 1024

/-- A letter or digit of ASCII. -/
def isAsciiAlphanumeric (c : Char) : Bool :=
  ('A' ≤ c ∧ c ≤ 'Z') || ('a' ≤ c ∧ c ≤ 'z') || ('0' ≤ c ∧ c ≤ '9')

/-- `_IDENTITY.fullmatch`. -/
def isIdentity (text : String) : Bool :=
  match text.toList with
  | [] => false
  | c :: rest =>
    (('A' ≤ c ∧ c ≤ 'Z') || ('a' ≤ c ∧ c ≤ 'z')) && 1 ≤ rest.length && rest.length ≤ 127 &&
      rest.all fun d => isAsciiAlphanumeric d || d ∈ ['_', '.', ':', '-']

/-- Content ids in their sorted order. -/
def sortedDigests (l : List Digest) : Prop := l.Pairwise fun a b => a.toNat ≤ b.toNat

instance (l : List Digest) : Decidable (sortedDigests l) :=
  inferInstanceAs (Decidable (l.Pairwise _))

/-- `_validate_lease_values`, whose grammar checks the types make. -/
def validateLeaseValues (l : VerificationLeaseV1) : Except VerificationError Unit := do
  refuseIf (isIdentity l.candidateProducerId = false)
    (⟨"invalid_candidate_producer_id",
      "candidate_producer_id must be a canonical identity string"⟩ : VerificationError)
  refuseIf (isIdentity l.verifierId = false)
    (⟨"invalid_verifier_id", "verifier_id must be a canonical identity string"⟩ :
      VerificationError)
  refuseIf (l.evidenceArtifactDigests = [])
    (⟨"invalid_evidence_artifact_digests",
      "evidence_artifact_digests must be a non-empty tuple"⟩ : VerificationError)
  refuseIf (l.evidenceArtifactDigests.length > maxEvidenceArtifacts)
    (⟨"too_many_evidence_artifacts", "evidence artifacts exceed the fixed count ceiling"⟩ :
      VerificationError)
  refuseIf (¬l.evidenceArtifactDigests.Nodup)
    (⟨"duplicate_evidence_artifact", "evidence artifact digests must be unique"⟩ :
      VerificationError)
  refuseIf (¬sortedDigests l.evidenceArtifactDigests)
    (⟨"noncanonical_evidence_order", "evidence artifact digests must be sorted"⟩ :
      VerificationError)
  refuseIf (¬(l.pocArtifactDigest :: l.evidenceArtifactDigests ++
      [l.environmentDigest, l.effectOracleId]).Nodup)
    (⟨"artifact_role_collision",
      "verification artifact roles must use distinct content identities"⟩ : VerificationError)
  refuseIf (l.issuedAt > maxEpochSecond ∨ l.expiresAt > maxEpochSecond)
    (⟨"invalid_lease_time", "lease times must be nonnegative integer epoch seconds"⟩ :
      VerificationError)
  refuseIf (l.issuedAt ≥ l.expiresAt)
    (⟨"invalid_lease_window", "lease interval must satisfy issued_at < expires_at"⟩ :
      VerificationError)

/-- The work bindings and the assignment of a lease, with a nonce and an id. -/
def leaseOfInputs (x : LeaseNonceInputs) (nonce : BitVec 128) (id : Digest) :
    VerificationLeaseV1 where
  leaseId := id
  leaseNonce := nonce
  missionId := x.bindings.missionId
  authorityId := x.bindings.authorityId
  targetSnapshotId := x.bindings.targetSnapshotId
  candidateId := x.bindings.candidateId
  candidateProducerId := x.bindings.candidateProducerId
  pocArtifactDigest := x.bindings.pocArtifactDigest
  evidenceArtifactDigests := x.bindings.evidenceArtifactDigests
  environmentDigest := x.bindings.environmentDigest
  effectOracleId := x.bindings.effectOracleId
  verifierId := x.verifierId
  verifierKeyId := x.verifierKeyId
  issuanceTrustSnapshotId := x.issuanceTrustSnapshotId
  issuedAt := x.issuedAt
  expiresAt := x.expiresAt

variable (P : Primitives) (W : CommandEnv)

/-- `VerificationLeaseV1.issue`, with the nonce the kernel derives. The id of a lease is a
function of its other fields. -/
def issueLease (x : LeaseNonceInputs) : Except VerificationError VerificationLeaseV1 := do
  let content := leaseOfInputs x (P.leaseNonce x) 0
  validateLeaseValues content
  refuseIf (W.leaseRepresentable content = false)
    (⟨"invalid_protocol_value", "object cannot be represented by protocol v1"⟩ :
      VerificationError)
  return { content with leaseId := W.leaseId content }

/-- `VerificationArtifactBindingV1.__post_init__`. -/
def VerificationArtifactBindingV1.construct (b : VerificationArtifactBindingV1) :
    Except CommandError VerificationArtifactBindingV1 := do
  refuseIf (b.size > maxResolutionSingleArtifactBytesV1)
    (CommandError.rejected "invalid_artifact_size"
      "artifact size must be a bounded nonnegative integer")
  refuseIf (b.size = 0)
    (CommandError.rejected "invalid_artifact_size"
      "typed verification artifact size must be positive")
  return b

/-- `TargetArtifactBindingV1.__post_init__`. -/
def TargetArtifactBindingV1.construct (b : TargetArtifactBindingV1) :
    Except CommandError TargetArtifactBindingV1 := do
  refuseIf (W.normalizedPath b.relativePath = false)
    (CommandError.rejected "invalid_relative_path" "relative_path must be normalized and relative")
  refuseIf (b.size > maxResolutionSingleArtifactBytesV1)
    (CommandError.rejected "invalid_artifact_size"
      "artifact size must be a bounded nonnegative integer")
  return b

/-- `VerificationArtifactResolutionV1._validate_values`. -/
def validateResolutionValues (r : VerificationArtifactResolutionV1) : Except CommandError Unit := do
  refuseIf (r.resolvedAt > maxEpochSecond)
    (CommandError.rejected "invalid_resolved_at"
      "resolved_at must be a nonnegative int64 epoch second")
  refuseIf (r.targetArtifacts = [] ∨
      r.targetArtifacts.length > maxResolutionArtifactsPerRoleV1)
    (CommandError.rejected "invalid_target_artifacts"
      "target_artifacts must be a nonempty tuple of typed bindings")
  let paths := r.targetArtifacts.map TargetArtifactBindingV1.relativePath
  refuseIf (¬(paths.Pairwise (· ≤ ·) ∧ paths.Nodup))
    (CommandError.rejected "noncanonical_target_artifacts"
      "target artifacts must use unique canonical path order")
  refuseIf (r.evidenceArtifacts = [] ∨
      r.evidenceArtifacts.length > maxResolutionArtifactsPerRoleV1)
    (CommandError.rejected "invalid_evidence_artifacts"
      "evidence_artifacts must be a nonempty tuple of typed bindings")
  let evidence := r.evidenceArtifacts.map VerificationArtifactBindingV1.artifactDigest
  refuseIf (¬(sortedDigests evidence ∧ evidence.Nodup))
    (CommandError.rejected "noncanonical_evidence_artifacts"
      "evidence artifacts must use unique canonical digest order")
  refuseIf (r.pocArtifact.artifactType ≠ .modeledPocInput ∨
      r.environmentArtifact.artifactType ≠ .modeledEnvironmentSpec ∨
      r.effectOracleArtifact.artifactType ≠ .modeledEffectOracleSpec)
    (CommandError.rejected "artifact_role_mismatch"
      "singleton artifact type does not match its fixed role")
  refuseIf (∃ b ∈ r.evidenceArtifacts, b.artifactType ≠ .modeledSupportingEvidenceInput)
    (CommandError.rejected "artifact_role_mismatch"
      "evidence artifact type does not match its fixed role")
  let typed := [r.pocArtifact.artifactDigest, r.environmentArtifact.artifactDigest,
    r.effectOracleArtifact.artifactDigest] ++ evidence
  refuseIf (¬typed.Nodup)
    (CommandError.rejected "artifact_role_collision"
      "verification artifact roles must use distinct digests")
  refuseIf (∃ b ∈ r.targetArtifacts, b.artifactDigest ∈ typed)
    (CommandError.rejected "artifact_role_collision"
      "target and verification artifact roles must use distinct digests")
  refuseIf (r.typedInputBytes > maxTypedVerificationInputBytesV1)
    (CommandError.rejected "resolution_byte_ceiling_exceeded"
      "typed verification inputs exceed the fixed protocol-v1 ceiling")
  refuseIf (r.totalBytes > maxResolutionArtifactBytesV1)
    (CommandError.rejected "resolution_byte_ceiling_exceeded"
      "resolved artifact bytes exceed the fixed protocol-v1 ceiling")

/-- `VerificationArtifactResolutionV1.issue`, which computes the id from the rest. -/
def issueResolution (r : VerificationArtifactResolutionV1) :
    Except CommandError VerificationArtifactResolutionV1 := do
  refuseIf (W.resolutionRepresentable r = false)
    (CommandError.rejected "invalid_resolution"
      "artifact resolution cannot be represented by protocol v1")
  validateResolutionValues r
  return { r with resolutionId := W.resolutionId r }

/-! ## Requests -/

/-- The arguments of `issue_modeled_fixture_verification_lease`. -/
structure IssueRequest where
  missionId : Digest
  expectedHead : Digest
  candidateId : Digest
  pocArtifactDigest : Digest
  evidenceArtifactDigests : List Digest
  environmentDigest : Digest
  effectOracleId : Digest
  verifierKeyId : KeyId
  verifierTrustStore : VerifierTrustStore
  decisionTime : ℕ
  requestedWallclockSeconds : ℕ
  deriving DecidableEq, Repr

/-- The arguments of the commands about one retained lease. -/
structure LeaseRequest where
  missionId : Digest
  expectedHead : Digest
  verificationLeaseId : Digest
  decisionTime : ℕ
  deriving DecidableEq, Repr

/-- The arguments of `reassign_modeled_fixture_verification_lease`. -/
structure ReassignRequest where
  missionId : Digest
  expectedHead : Digest
  predecessorVerificationLeaseId : Digest
  verifierKeyId : KeyId
  verifierTrustStore : VerifierTrustStore
  decisionTime : ℕ
  requestedWallclockSeconds : ℕ
  deriving DecidableEq, Repr

/-- The arguments of `admit_modeled_fixture_verifier_receipt`, with the signed receipt
decoded. -/
structure AdmitRequest where
  missionId : Digest
  expectedHead : Digest
  verificationLeaseId : Digest
  signedReceipt : SignedVerifierReceiptV1
  decisionTrustStore : VerifierTrustStore
  decisionTime : ℕ
  deriving DecidableEq, Repr

/-- The arguments of `close_modeled_fixture_verification_mission`. -/
structure CloseRequest where
  missionId : Digest
  expectedHead : Digest
  decisionTime : ℕ
  deriving DecidableEq, Repr

/-- The seven commands with their arguments. -/
inductive VerificationCommand
  | issue (r : IssueRequest)
  | expire (r : LeaseRequest)
  | cancel (r : LeaseRequest) (reasonCode : String)
  | reassign (r : ReassignRequest)
  | resolve (r : LeaseRequest)
  | admitReceipt (r : AdmitRequest)
  | close (r : CloseRequest)
  deriving DecidableEq, Repr

/-- The mission a command is about. -/
def VerificationCommand.missionId : VerificationCommand → Digest
  | .issue r => r.missionId
  | .expire r => r.missionId
  | .cancel r _ => r.missionId
  | .reassign r => r.missionId
  | .resolve r => r.missionId
  | .admitReceipt r => r.missionId
  | .close r => r.missionId

/-- The head a command expects. -/
def VerificationCommand.expectedHead : VerificationCommand → Digest
  | .issue r => r.expectedHead
  | .expire r => r.expectedHead
  | .cancel r _ => r.expectedHead
  | .reassign r => r.expectedHead
  | .resolve r => r.expectedHead
  | .admitReceipt r => r.expectedHead
  | .close r => r.expectedHead

/-- The append a command uses. -/
def VerificationCommand.appendKind : VerificationCommand → AppendKind
  | .resolve _ => .appendEvidenceEvent
  | .admitReceipt _ => .appendReceiptAdmission
  | _ => .append

/-- `_require_time`. -/
def requireTime (decisionTime : ℕ) : Except CommandError Unit :=
  refuseIf (decisionTime > maxEpochSecond)
    (.rejected "invalid_decision_time" "decision_time must be a nonnegative int64 epoch second")

/-- The bounds of `requested_wallclock_seconds`. -/
def requireWallclock (seconds : ℕ) : Except CommandError Unit :=
  refuseIf (seconds = 0 ∨ seconds > maxEpochSecond)
    (.rejected "invalid_requested_wallclock" "requested_wallclock_seconds must be a positive int64")

/-- The checks of the arguments, before the store is read. -/
def VerificationCommand.validateRequest : VerificationCommand → Except CommandError Unit
  | .issue r => do
    refuseIf (r.evidenceArtifactDigests = [] ∨
        r.evidenceArtifactDigests.length > maxEvidenceArtifacts ∨
        ¬sortedDigests r.evidenceArtifactDigests ∨ ¬r.evidenceArtifactDigests.Nodup)
      (CommandError.rejected "invalid_evidence_artifact_digests"
        "evidence digests must be a nonempty, unique, sorted tuple of sha256 IDs")
    refuseIf (¬(r.pocArtifactDigest :: r.evidenceArtifactDigests ++
        [r.environmentDigest, r.effectOracleId]).Nodup)
      (CommandError.rejected "artifact_role_collision"
        "verification artifact roles must use distinct content identities")
    requireTime r.decisionTime
    requireWallclock r.requestedWallclockSeconds
  | .expire r => requireTime r.decisionTime
  | .cancel r reasonCode => do
    refuseIf (reasonCode ≠ verificationLeaseCancellationReasonV1)
      (CommandError.rejected "unsupported_cancellation_reason"
        "modeled lease cancellation supports only operator_cancelled")
    requireTime r.decisionTime
  | .reassign r => do
    requireTime r.decisionTime
    requireWallclock r.requestedWallclockSeconds
  | .resolve r => requireTime r.decisionTime
  | .admitReceipt r => requireTime r.decisionTime
  | .close r => requireTime r.decisionTime

/-! ## Reading a projection -/

/-- `_authority_evidence` and `_grant` : the authority of the first retained event. -/
def authorityEvidence (q : MissionProjection) (what : String) :
    Except CommandError (AuthorityGrantV1 × AuthorityAdmissionV1) :=
  match q.events.head?.bind EventV1.authority? with
  | some (admission, grant) => .ok (grant, admission)
  | none => reject "mission_not_admitted" (what ++ " retained authority admission")

/-- `_authority_evidence` of the recovery commands, which checks the permitted actions. -/
def recoveryAuthority (q : MissionProjection) :
    Except CommandError (AuthorityGrantV1 × AuthorityAdmissionV1) := do
  let x ← authorityEvidence q "verification recovery requires"
  refuseIf (lacksVerificationAuthority x.2 x.1)
    (CommandError.rejected "verification_not_authorized"
      "retained authority does not authorize modeled fixture verification")
  return x

/-- The candidate event with a content id. -/
def candidateEventOf (q : MissionProjection) (candidateId : Digest) : Option EventV1 :=
  q.final.candidates.find? fun e =>
    e.candidate?.map StaticCandidateV1.candidateId = some candidateId

/-- `_lease_by_id` and `_verification_lease`. -/
def leaseById (q : MissionProjection) (id : Digest) : Except CommandError VerificationLeaseV1 :=
  orRefuse ((q.final.verificationLeaseEvents.filterMap EventV1.createdLease?).find? fun l =>
      l.leaseId = id)
    (.rejected "verification_lease_not_retained"
      "verification_lease_id is absent from canonical mission history")

/-- `_assert_candidate_retained`. -/
def assertCandidateRetained (q : MissionProjection) (candidateId : Digest) :
    Except CommandError Unit :=
  refuseIf (candidateEventOf q candidateId = none)
    (.rejected "candidate_not_retained"
      "verification lease candidate is absent from canonical mission history")

/-- `_target_snapshot`. -/
def targetSnapshotOf (q : MissionProjection) (what : String) :
    Except CommandError (EventV1 × TargetSnapshotV1) :=
  orRefuse (q.events.findSome? fun e => e.snapshot?.map fun t => (e, t))
    (.rejected "target_not_retained" (what ++ " requires a retained target snapshot"))

/-- The lease, the trust snapshot and its id of an event that creates a lease. -/
def EventV1.leaseGrant? (e : EventV1) :
    Option (VerificationLeaseV1 × VerifierTrustStore × Digest) :=
  match e.payload with
  | .verificationLeaseIssued lease trust id => some (lease, trust, id)
  | .verificationLeaseReassigned lease _ _ trust id => some (lease, trust, id)
  | _ => none

/-- The head the command was given is the retained one, and time has not gone back. -/
def assertHead (retained : List EventV1) (expectedHead : Digest) (decisionTime : ℕ)
    (what : String) : Except CommandError Unit := do
  refuseIf (headDigest retained ≠ expectedHead) CommandError.staleHead
  refuseIf (∃ e ∈ retained.getLast?, decisionTime < e.decisionTime)
    (CommandError.rejected "decision_time_regressed"
      (what ++ " precedes the retained mission head"))

/-- `_assert_appendable`. -/
def assertAppendable (retained : List EventV1) (q : MissionProjection) (expectedHead : Digest)
    (decisionTime : ℕ) : Except CommandError Unit := do
  refuseIf q.final.phase.isTerminal
    (CommandError.rejected "mission_terminal"
      "verification recovery cannot change a terminal mission")
  refuseIf (q.final.phase ≠ .awaitingVerification)
    (CommandError.rejected "verification_not_awaiting_recovery"
      "lease recovery requires awaiting_verification state")
  assertHead retained expectedHead decisionTime "recovery decision time"

/-- `EventV1.create` with the mission's identities, after the retained events. -/
def createEvent (retained : List EventV1) (q : MissionProjection) (decisionTime : ℕ)
    (payload : Payload) : Except CommandError EventV1 :=
  (EventV1.create P
    { missionId := q.final.missionId
      seq := retained.length
      unit := eventUnitByKindV1 payload.kind
      authorityId := q.final.authorityId
      targetId := q.final.targetId
      decisionTime := decisionTime
      payload := payload
      prevDigest := headDigest retained }).mapError .event

/-- The verifier the trust store assigns to a key, for a lease of `producer`'s candidate. -/
def assignedVerifier (trust : VerifierTrustStore) (keyId : KeyId) (what : String) :
    Except CommandError TrustedVerifierKey := do
  refuseIf (keyId ∈ trust.revokedKeyIds)
    (CommandError.rejected "verifier_key_revoked"
      (what ++ " verifier key is revoked in the retained snapshot"))
  let key ← orRefuse (trust.key keyId)
    (CommandError.rejected "unknown_verifier_key"
      (what ++ " verifier key is absent from the trust snapshot"))
  refuseIf (verifierRole ∉ key.roles)
    (CommandError.rejected "verifier_role_missing"
      (what ++ " verifier key lacks the modeled fixture verifier role"))
  return key

/-! ## Proposals -/

/-- A drafted event, with the lookup after a lost race and the read of the retained event. -/
structure Proposal where
  event : EventV1
  existing : MissionProjection → Except CommandError (Option CommandOutcome)
  committed : MissionProjection → Except CommandError CommandOutcome

/-- What a command found or drafted. -/
inductive Draft
  | replay (outcome : CommandOutcome)
  | propose (proposal : Proposal)

/-- The retained event with the digest of the appended one, read from one of the
projection's lists. -/
def committedOutcome (events : List EventV1) (q : MissionProjection) (e : EventV1) (what : String)
    (value : EventV1 → Except CommandError CommandValue) : Except CommandError CommandOutcome := do
  let retained ← orRefuse (events.find? fun x => x.eventDigest = e.eventDigest)
    (.rejected "committed_event_missing" ("appended " ++ what ++ " is absent from replay"))
  let v ← value retained
  return { projection := q, event := retained, value := v, replayed := false }

/-- `_lease_from_event`. -/
def leaseValue (e : EventV1) : Except CommandError CommandValue := do
  let lease ← orRefuse e.createdLease? (.raised "event has no lease")
  return .lease lease

end Etzio
