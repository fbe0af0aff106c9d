import Etzio.CheckedRun
import Etzio.Objects

/-!
# Mission events

`EventV1` is one event of a mission-local hash chain. Its payload is the decoded
payload of its kind, so the kind is read off the payload and a payload with foreign
keys cannot be written. `validatePayload` is the cross-field part of the source's
`_validate_payload` : author, identities, times, bindings and the kernel-derived lease
nonce. `EventV1.verify` re-runs it with the wire-level checks and the digest.
-/

open CheckedRun

namespace Etzio

/-- SHA-256 of `etzio.event.v1.genesis`, the predecessor of sequence zero. -/
def genesisDigest : Digest :=
  0xd97322dec35e47b77b1045b723936e345978b2223804c19f62ac6150cb377a23#256

/-- `RECEIPT_ADMISSION_PROFILE_V1`. -/
def receiptAdmissionProfileV1 : String := "modeled_fixture_receipt_admission_v1"

/-- `VERIFICATION_LEASE_CANCELLATION_REASON_V1`. -/
def verificationLeaseCancellationReasonV1 : String := "operator_cancelled"

/-- `VERIFICATION_LEASE_REASSIGNMENT_REASONS_V1`. -/
inductive ReassignmentReason
  | activeLeaseSuperseded
  | expiredLeaseRecovery
  | cancelledLeaseRecovery
  deriving DecidableEq, Repr

/-- `MISSION_CLOSED_STATUSES_V1`. -/
inductive ClosedStatus
  | completed
  | receiptCoverageComplete
  | receiptCoverageIncomplete
  deriving DecidableEq, Repr

/-- The stages of a `mission_admission_refused` event. -/
inductive RefusalStage
  | admission
  | preflight
  deriving DecidableEq, Repr

/-- The keys of `EVENT_UNIT_BY_KIND_V1`. -/
inductive EventKind
  | authorityAdmitted
  | missionAdmissionRefused
  | missionOpened
  | analysisLeaseIssued
  | verificationLeaseIssued
  | verificationLeaseCancelled
  | verificationLeaseExpired
  | verificationLeaseReassigned
  | verificationArtifactsResolved
  | verifierReceiptAdmitted
  | candidateRecorded
  | parseFailed
  | scanCompleted
  | missionClosed
  | scanFailed
  | scanTimedOut
  | scanCancelled
  | budgetExhausted
  deriving DecidableEq, Repr

/-- The wire name of a kind. -/
def EventKind.text : EventKind → String
  | .authorityAdmitted => "authority_admitted"
  | .missionAdmissionRefused => "mission_admission_refused"
  | .missionOpened => "mission_opened"
  | .analysisLeaseIssued => "analysis_lease_issued"
  | .verificationLeaseIssued => "verification_lease_issued"
  | .verificationLeaseCancelled => "verification_lease_cancelled"
  | .verificationLeaseExpired => "verification_lease_expired"
  | .verificationLeaseReassigned => "verification_lease_reassigned"
  | .verificationArtifactsResolved => "verification_artifacts_resolved"
  | .verifierReceiptAdmitted => "verifier_receipt_admitted"
  | .candidateRecorded => "candidate_recorded"
  | .parseFailed => "parse_failed"
  | .scanCompleted => "scan_completed"
  | .missionClosed => "mission_closed"
  | .scanFailed => "scan_failed"
  | .scanTimedOut => "scan_timed_out"
  | .scanCancelled => "scan_cancelled"
  | .budgetExhausted => "budget_exhausted"

/-- `EVENT_UNIT_BY_KIND_V1`. -/
def eventUnitByKindV1 : EventKind → KernelUnit
  | .authorityAdmitted => .aquila
  | .missionAdmissionRefused => .aquila
  | .missionOpened => .etzio
  | .analysisLeaseIssued => .aquila
  | .verificationLeaseIssued => .aquila
  | .verificationLeaseCancelled => .aquila
  | .verificationLeaseExpired => .etzio
  | .verificationLeaseReassigned => .aquila
  | .verificationArtifactsResolved => .etzio
  | .verifierReceiptAdmitted => .etzio
  | .candidateRecorded => .velites
  | .parseFailed => .velites
  | .scanCompleted => .velites
  | .missionClosed => .etzio
  | .scanFailed => .etzio
  | .scanTimedOut => .etzio
  | .scanCancelled => .aquila
  | .budgetExhausted => .aquila

/-- The payload of each kind, with the fields of `EVENT_PAYLOAD_FIELDS_BY_KIND_V1`. -/
inductive Payload
  | authorityAdmitted (admission : AuthorityAdmissionV1) (grant : AuthorityGrantV1)
      (keyId : KeyId) (signature : Signature)
  | missionAdmissionRefused (reasonCode : String) (stage : RefusalStage)
  | missionOpened (targetSnapshot : TargetSnapshotV1)
  | analysisLeaseIssued (lease : AnalysisLeaseV1)
  | verificationLeaseIssued (lease : VerificationLeaseV1)
      (verifierTrustSnapshot : VerifierTrustStore) (verifierTrustSnapshotId : Digest)
  | verificationLeaseCancelled (reasonCode : String) (verificationLeaseId : Digest)
  | verificationLeaseExpired (verificationLeaseId : Digest)
  | verificationLeaseReassigned (lease : VerificationLeaseV1)
      (predecessorVerificationLeaseId : Digest) (reasonCode : ReassignmentReason)
      (verifierTrustSnapshot : VerifierTrustStore) (verifierTrustSnapshotId : Digest)
  | verificationArtifactsResolved (resolution : VerificationArtifactResolutionV1)
  | verifierReceiptAdmitted (adjudicationProfile : String)
      (decisionTrustSnapshot : VerifierTrustStore) (decisionTrustSnapshotId : Digest)
      (receipt : SignedVerifierReceiptV1) (outputs : VerificationOutputArtifactsV1)
  | candidateRecorded (candidate : StaticCandidateV1)
  | parseFailed (analysisLeaseId : Digest) (parseFailure : ParseFailure)
      (sourceArtifactDigest : Digest)
  | scanCompleted (analyzerVersion : String) (bytesScanned candidateCount fileCount
      parseFailureCount : ℕ)
  | missionClosed (candidateCount parseFailureCount : ℕ) (status : ClosedStatus)
  | scanFailed (reasonCode : String)
  | scanTimedOut (reasonCode : String)
  | scanCancelled (reasonCode : String)
  | budgetExhausted (reasonCode : String)
  deriving DecidableEq, Repr

/-- The kind a payload belongs to. -/
def Payload.kind : Payload → EventKind
  | .authorityAdmitted .. => .authorityAdmitted
  | .missionAdmissionRefused .. => .missionAdmissionRefused
  | .missionOpened .. => .missionOpened
  | .analysisLeaseIssued .. => .analysisLeaseIssued
  | .verificationLeaseIssued .. => .verificationLeaseIssued
  | .verificationLeaseCancelled .. => .verificationLeaseCancelled
  | .verificationLeaseExpired .. => .verificationLeaseExpired
  | .verificationLeaseReassigned .. => .verificationLeaseReassigned
  | .verificationArtifactsResolved .. => .verificationArtifactsResolved
  | .verifierReceiptAdmitted .. => .verifierReceiptAdmitted
  | .candidateRecorded .. => .candidateRecorded
  | .parseFailed .. => .parseFailed
  | .scanCompleted .. => .scanCompleted
  | .missionClosed .. => .missionClosed
  | .scanFailed .. => .scanFailed
  | .scanTimedOut .. => .scanTimedOut
  | .scanCancelled .. => .scanCancelled
  | .budgetExhausted .. => .budgetExhausted

/-- The semantic body of an event envelope. -/
structure EventBody where
  missionId : Digest
  seq : ℕ
  unit : KernelUnit
  authorityId : Digest
  targetId : Digest
  decisionTime : ℕ
  payload : Payload
  prevDigest : Digest
  deriving DecidableEq, Repr

/-- `EventV1` : a body with its retained digest. -/
structure EventV1 extends EventBody where
  eventDigest : Digest
  deriving DecidableEq, Repr

/-- `event.kind`. -/
def EventBody.kind (b : EventBody) : EventKind := b.payload.kind

/-- What the kernel's logic takes from hashing, signature verification and the wire
layer. -/
structure Primitives where
  /-- `EnvelopeV1.create("event", body).object_id`. -/
  eventId : EventBody → Digest
  /-- The payload bytes are canonical and the nested objects' constructors accept them. -/
  wellFormed : EventBody → Bool
  /-- `VerifierTrustStore.snapshot_id`. -/
  trustSnapshotId : VerifierTrustStore → Digest
  /-- `derive_verification_lease_nonce`. -/
  leaseNonce : LeaseNonceInputs → BitVec 128
  /-- Ed25519 verification of a signed receipt's envelope bytes under a trusted key. -/
  receiptSignatureValid : TrustedVerifierKey → SignedVerifierReceiptV1 → Bool

variable (P : Primitives)

/-! ## Event validation -/

/-- `_validate_verification_lease_evidence` : the issuance boundary that initial and
reassigned leases share. -/
def validateVerificationLeaseEvidence (b : EventBody) (lease : VerificationLeaseV1)
    (trust : VerifierTrustStore) (snapshotId : Digest) : Except String Unit := do
  refuseIf (P.trustSnapshotId trust ≠ snapshotId)
    (b.kind.text ++ " contains invalid verification evidence: " ++
      "trust snapshot ID does not match its canonical body")
  refuseIf (lease.missionId ≠ b.missionId ∨ lease.authorityId ≠ b.authorityId ∨
      lease.targetSnapshotId ≠ b.targetId)
    "verification lease does not match the event identities"
  refuseIf (lease.issuedAt ≠ b.decisionTime)
    "verification lease issued_at must equal the event decision_time"
  refuseIf (lease.candidateProducerId = lease.verifierId)
    "verification lease cannot assign the candidate producer"
  let trustedKey ← orRefuse (trust.key lease.verifierKeyId)
    "verification lease references an unknown verifier key"
  refuseIf (lease.verifierKeyId ∈ trust.revokedKeyIds)
    "verification lease references a revoked verifier key"
  refuseIf (verifierRole ∉ trustedKey.roles)
    "verification lease key lacks the modeled verifier role"
  refuseIf (trustedKey.verifierId ≠ lease.verifierId)
    "verification lease verifier identity differs from its trusted key"
  refuseIf (lease.issuanceTrustSnapshotId ≠ snapshotId)
    "verification lease does not bind its retained trust snapshot"
  refuseIf (lease.leaseNonce ≠ P.leaseNonce (lease.nonceInputs b.prevDigest))
    "verification lease nonce is not kernel-derived"

/-- The four output bindings with the digest, size and type the signed receipt gives
each of them. -/
def expectedOutputs (o : VerificationOutputArtifactsV1) (r : VerifierReceiptV1) :
    List (VerificationArtifactBindingV1 × Digest × ℕ × ArtifactType) :=
  [(o.executionOutputArtifact, r.executionOutputDigest, r.executionOutputSize,
      .modeledExecutionOutput),
    (o.effectOutputArtifact, r.effectOutputDigest, r.effectOutputSize, .modeledEffectOutput),
    (o.measuredEnvironmentOutputArtifact, r.measuredEnvironmentOutputDigest,
      r.measuredEnvironmentOutputSize, .modeledMeasuredEnvironmentOutput),
    (o.terminationOutputArtifact, r.terminationOutputDigest, r.terminationOutputSize,
      .modeledTerminationOutput)]

/-- Some output binding differs from the signed receipt. -/
def outputsDiffer (o : VerificationOutputArtifactsV1) (r : VerifierReceiptV1) : Prop :=
  ∃ x ∈ expectedOutputs o r,
    x.1.artifactDigest ≠ x.2.1 ∨ x.1.size ≠ x.2.2.1 ∨ x.1.artifactType ≠ x.2.2.2

instance (o : VerificationOutputArtifactsV1) (r : VerifierReceiptV1) :
    Decidable (outputsDiffer o r) :=
  inferInstanceAs (Decidable (∃ x ∈ expectedOutputs o r, _))

/-- `_validate_payload`, on a decoded payload. -/
def validatePayload (b : EventBody) : Except String Unit := do
  refuseIf (b.unit ≠ eventUnitByKindV1 b.kind)
    (b.kind.text ++ " events must be authored by " ++ (eventUnitByKindV1 b.kind).text)
  match b.payload with
  | .authorityAdmitted admission grant keyId signature =>
    refuseIf (grant.grantId ≠ b.authorityId)
      "authority grant object_id does not match event authority_id"
    refuseIf (admission.authorityId ≠ b.authorityId ∨ admission.targetSnapshotId ≠ b.targetId ∨
        admission.decisionTime ≠ b.decisionTime ∨
        Action.staticAnalysis ∉ admission.requiredActions ∨
        Action.staticAnalysis ∉ grant.permittedActions)
      "authority admission does not authorize this event and target"
    refuseIf (grant.targetSnapshotId ≠ b.targetId ∨ admission.grantExpiresAt ≠ grant.expiresAt)
      "authority grant does not match the admission and event target"
    refuseIf (admission.signerKeyId ≠ keyId ∨ admission.signedGrant.keyId ≠ keyId ∨
        admission.signedGrant.signature ≠ signature ∨ admission.signedGrant.grant ≠ grant)
      "authority event fields do not match the self-verifying admission"
  | .missionOpened snapshot =>
    refuseIf (snapshot.objectId ≠ b.targetId)
      "target snapshot object_id does not match event target_id"
  | .analysisLeaseIssued lease =>
    refuseIf (lease.missionId ≠ b.missionId ∨ lease.authorityId ≠ b.authorityId ∨
        lease.targetSnapshotId ≠ b.targetId)
      "analysis lease does not match the event identities"
    refuseIf (lease.expiresAt > lease.issuedAt + lease.maxWallclockSeconds)
      "analysis lease expiry exceeds its wallclock ceiling"
  | .verificationLeaseCancelled reasonCode _ =>
    refuseIf (reasonCode ≠ verificationLeaseCancellationReasonV1)
      "verification lease cancellation reason must be operator_cancelled"
  | .verificationLeaseIssued lease trust snapshotId =>
    validateVerificationLeaseEvidence P b lease trust snapshotId
  | .verificationLeaseReassigned lease _ _ trust snapshotId =>
    validateVerificationLeaseEvidence P b lease trust snapshotId
  | .verificationArtifactsResolved resolution =>
    refuseIf (resolution.missionId ≠ b.missionId ∨ resolution.authorityId ≠ b.authorityId ∨
        resolution.targetSnapshotId ≠ b.targetId)
      "artifact resolution does not match the event identities"
    refuseIf (resolution.resolvedAt ≠ b.decisionTime)
      "artifact resolution resolved_at must equal the event decision_time"
  | .verifierReceiptAdmitted profile trust snapshotId signed outputs =>
    refuseIf (profile ≠ receiptAdmissionProfileV1)
      "verifier receipt admission uses an unsupported adjudication profile"
    refuseIf (signed.receipt.missionId ≠ b.missionId ∨
        signed.receipt.authorityId ≠ b.authorityId ∨
        signed.receipt.targetSnapshotId ≠ b.targetId ∨
        signed.receipt.completedAt > b.decisionTime ∨ P.trustSnapshotId trust ≠ snapshotId)
      "verifier receipt admission differs from the event identities or time"
    refuseIf (outputsDiffer outputs signed.receipt)
      "verifier receipt admission output bindings differ from the signed receipt"
  | .candidateRecorded candidate =>
    refuseIf (candidate.missionId ≠ b.missionId ∨ candidate.authorityId ≠ b.authorityId ∨
        candidate.targetSnapshotId ≠ b.targetId)
      "candidate does not match the event identities"
  -- The remaining kinds carry only counts, texts and identifiers, which the types and
  -- the wire layer constrain.
  | .missionAdmissionRefused .. | .verificationLeaseExpired .. | .parseFailed ..
  | .scanCompleted .. | .missionClosed .. | .scanFailed .. | .scanTimedOut ..
  | .scanCancelled .. | .budgetExhausted .. => .ok ()

/-- `EventV1.verify` : the constructor's checks on a retained event. -/
def EventV1.verify (e : EventV1) : Except String Unit := do
  refuseIf (P.wellFormed e.toEventBody = false) "event body violates protocol v1"
  validatePayload P e.toEventBody
  refuseIf (e.eventDigest ≠ P.eventId e.toEventBody)
    "event digest does not match the common envelope object_id"

end Etzio
