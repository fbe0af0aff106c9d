import Etzio.AuthorityRecords

/-!
# Verification records

The artifact bindings and resolutions, the verification leases, the receipts, the signed receipts
and the trust stores of verifiers that an event retains, as they are decoded.
-/

open CheckedRun JsonText

namespace Etzio.Wire

variable (E : WireEnv)

/-! ## Artifact bindings -/

/-- `VERIFICATION_INPUT_ARTIFACT_TYPE_BY_ROLE_V1` and
`VERIFICATION_OUTPUT_ARTIFACT_TYPE_BY_ROLE_V1`, `VERIFICATION_ARTIFACT_TYPE_BY_ROLE_V1`
together. -/
def verificationArtifactTypeByRoleV1 : List (String × String) :=
  [("effect_oracle", "modeled_effect_oracle_spec"), ("environment", "modeled_environment_spec"),
    ("evidence", "modeled_supporting_evidence_input"), ("poc", "modeled_poc_input"),
    ("effect_output", "modeled_effect_output"), ("execution_output", "modeled_execution_output"),
    ("measured_environment_output", "modeled_measured_environment_output"),
    ("termination_output", "modeled_termination_output")]

/-- The artifact type of a role of the table. -/
def artifactTypeOf (role : String) : String :=
  (verificationArtifactTypeByRoleV1.lookup role).getD ""

def targetArtifactTypeV1 : String := "repository_fixture_source"

def resolutionObjectKind : String := "verification_artifact_resolution"

def resolutionProfileV1 : String := "modeled_fixture_typed_cas_v1"

def maxResolutionSingleArtifactBytesV1 : ℕ := 64 * 1024 * 1024

def maxTypedVerificationInputBytesV1 : ℕ := 64 * 1024 * 1024

def maxResolutionArtifactBytesV1 : ℕ := 128 * 1024 * 1024

def maxResolutionArtifactsPerRoleV1 : ℕ := 256

/-- `MAX_RESOLUTION_EPOCH_SECOND_V1` and `MAX_EPOCH_SECOND`. -/
def maxEpochSecond : ℕ := 2 ^ 63 - 1

/-- `_require_digest` of the artifact module. -/
def requireArtifactDigest (value : Json) (name : String) : Except WireError String :=
  textOf value isContentId
    (.artifact ("invalid_" ++ name) (name ++ " must be a full sha256 content ID"))

/-- `_require_size`. -/
def requireArtifactSize (value : Json) : Except WireError ℕ :=
  natOf value (some maxResolutionSingleArtifactBytesV1)
    (.artifact "invalid_artifact_size" "artifact size must be a bounded nonnegative integer")

/-- `_require_relative_path` of the artifact module. -/
def artifactPath (value : Json) : Except WireError String := do
  let text ← textOf value isNonblank (.artifact "invalid_relative_path"
    "relative_path must be nonempty text without edge whitespace")
  refuseIf (isRelativePath text = false)
    (.artifact "invalid_relative_path" "relative_path must be normalized and relative")
  return text

/-- `VerificationArtifactBindingV1`. -/
structure VerificationArtifactBindingV1 where
  artifactDigest : String
  artifactType : String
  size : ℕ

/-- `to_dict` of a verification artifact binding. -/
def VerificationArtifactBindingV1.toDict (b : VerificationArtifactBindingV1) : Json :=
  .obj [("artifact_digest", .str b.artifactDigest), ("artifact_type", .str b.artifactType),
    ("size", .int b.size)]

/-- `VerificationArtifactBindingV1.__post_init__`. -/
def VerificationArtifactBindingV1.new (digest type size : Json) :
    Except WireError VerificationArtifactBindingV1 := do
  let artifactDigest ← requireArtifactDigest digest "artifact_digest"
  let artifactType ← textOf type
    (fun text => text ∈ verificationArtifactTypeByRoleV1.map Prod.snd)
    (.artifact "invalid_artifact_type"
      "verification artifact type is not in the closed protocol-v1 registry")
  let size ← requireArtifactSize size
  refuseIf (size = 0) (.artifact "invalid_artifact_size"
    "typed verification artifact size must be positive")
  return ⟨artifactDigest, artifactType, size⟩

/-- `VerificationArtifactBindingV1.from_dict`. -/
def VerificationArtifactBindingV1.fromDict (value : Json) :
    Except WireError VerificationArtifactBindingV1 := do
  let value ← recordOf value ["artifact_digest", "artifact_type", "size"]
    (.artifact "malformed_artifact_binding"
      "verification artifact binding has missing or unknown fields")
  let digest ← value.item "artifact_digest"
  let type ← value.item "artifact_type"
  let size ← value.item "size"
  VerificationArtifactBindingV1.new digest type size

/-- `TargetArtifactBindingV1`. -/
structure TargetArtifactBindingV1 where
  artifactDigest : String
  artifactType : String
  relativePath : String
  size : ℕ

/-- `to_dict` of a target artifact binding. -/
def TargetArtifactBindingV1.toDict (b : TargetArtifactBindingV1) : Json :=
  .obj [("artifact_digest", .str b.artifactDigest), ("artifact_type", .str b.artifactType),
    ("relative_path", .str b.relativePath), ("size", .int b.size)]

/-- `TargetArtifactBindingV1.__post_init__`. -/
def TargetArtifactBindingV1.new (digest type path size : Json) :
    Except WireError TargetArtifactBindingV1 := do
  let artifactDigest ← requireArtifactDigest digest "artifact_digest"
  refuseIf (type ≠ .str targetArtifactTypeV1) (.artifact "invalid_target_artifact_type"
    "target artifacts must use the repository fixture source type")
  let relativePath ← artifactPath path
  let size ← requireArtifactSize size
  return ⟨artifactDigest, targetArtifactTypeV1, relativePath, size⟩

/-- `TargetArtifactBindingV1.from_dict`. -/
def TargetArtifactBindingV1.fromDict (value : Json) : Except WireError TargetArtifactBindingV1 := do
  let value ← recordOf value ["artifact_digest", "artifact_type", "relative_path", "size"]
    (.artifact "malformed_target_artifact_binding"
      "target artifact binding has missing or unknown fields")
  let digest ← value.item "artifact_digest"
  let type ← value.item "artifact_type"
  let path ← value.item "relative_path"
  let size ← value.item "size"
  TargetArtifactBindingV1.new digest type path size

/-! ## Artifact resolutions -/

/-- `VerificationArtifactResolutionV1`. -/
structure VerificationArtifactResolutionV1 where
  resolutionId : String
  authorityId : String
  candidateId : String
  effectOracleArtifact : VerificationArtifactBindingV1
  environmentArtifact : VerificationArtifactBindingV1
  evidenceArtifacts : List VerificationArtifactBindingV1
  missionId : String
  pocArtifact : VerificationArtifactBindingV1
  resolutionProfile : String
  resolvedAt : ℕ
  targetArtifacts : List TargetArtifactBindingV1
  targetSnapshotId : String
  verificationLeaseId : String

/-- `RESOLUTION_BODY_FIELDS_V1`. -/
def resolutionBodyFieldsV1 : List String :=
  ["authority_id", "candidate_id", "effect_oracle_artifact", "environment_artifact",
    "evidence_artifacts", "mission_id", "poc_artifact", "resolution_profile", "resolved_at",
    "target_artifacts", "target_snapshot_id", "verification_lease_id"]

/-- `VerificationArtifactResolutionV1._body`. -/
def VerificationArtifactResolutionV1.body (r : VerificationArtifactResolutionV1) : Json :=
  .obj [("authority_id", .str r.authorityId), ("candidate_id", .str r.candidateId),
    ("effect_oracle_artifact", r.effectOracleArtifact.toDict),
    ("environment_artifact", r.environmentArtifact.toDict),
    ("evidence_artifacts", .arr (r.evidenceArtifacts.map VerificationArtifactBindingV1.toDict)),
    ("mission_id", .str r.missionId), ("poc_artifact", r.pocArtifact.toDict),
    ("resolution_profile", .str r.resolutionProfile), ("resolved_at", .int r.resolvedAt),
    ("target_artifacts", .arr (r.targetArtifacts.map TargetArtifactBindingV1.toDict)),
    ("target_snapshot_id", .str r.targetSnapshotId),
    ("verification_lease_id", .str r.verificationLeaseId)]

/-- The bindings of the typed inputs. -/
def VerificationArtifactResolutionV1.typedInputs (r : VerificationArtifactResolutionV1) :
    List VerificationArtifactBindingV1 :=
  r.pocArtifact :: r.environmentArtifact :: r.effectOracleArtifact :: r.evidenceArtifacts

/-- `typed_input_bytes`. -/
def VerificationArtifactResolutionV1.typedInputBytes (r : VerificationArtifactResolutionV1) : ℕ :=
  (r.typedInputs.map VerificationArtifactBindingV1.size).sum

/-- `total_bytes` of a resolution. -/
def VerificationArtifactResolutionV1.totalBytes (r : VerificationArtifactResolutionV1) : ℕ :=
  (r.targetArtifacts.map TargetArtifactBindingV1.size).sum + r.typedInputBytes

/-- The bindings of a resolution. -/
structure ResolutionBindings where
  effectOracleArtifact : VerificationArtifactBindingV1
  environmentArtifact : VerificationArtifactBindingV1
  evidenceArtifacts : List VerificationArtifactBindingV1
  pocArtifact : VerificationArtifactBindingV1
  targetArtifacts : List TargetArtifactBindingV1

/-- The roles of the bindings of a resolution, in the order of `_validate_values`. -/
def validateArtifactRoles (r : VerificationArtifactResolutionV1) : Except WireError Unit := do
  refuseIf (r.targetArtifacts.isEmpty = true ∨
      r.targetArtifacts.length > maxResolutionArtifactsPerRoleV1)
    (.artifact "invalid_target_artifacts"
      "target_artifacts must be a nonempty tuple of typed bindings")
  let targetPaths := r.targetArtifacts.map TargetArtifactBindingV1.relativePath
  refuseIf (targetPaths ≠ sortedTexts targetPaths ∨ ¬targetPaths.Nodup)
    (.artifact "noncanonical_target_artifacts"
      "target artifacts must use unique canonical path order")
  refuseIf (r.evidenceArtifacts.isEmpty = true ∨
      r.evidenceArtifacts.length > maxResolutionArtifactsPerRoleV1)
    (.artifact "invalid_evidence_artifacts"
      "evidence_artifacts must be a nonempty tuple of typed bindings")
  let evidenceDigests := r.evidenceArtifacts.map VerificationArtifactBindingV1.artifactDigest
  refuseIf (evidenceDigests ≠ sortedTexts evidenceDigests ∨ ¬evidenceDigests.Nodup)
    (.artifact "noncanonical_evidence_artifacts"
      "evidence artifacts must use unique canonical digest order")
  refuseIf (r.pocArtifact.artifactType ≠ artifactTypeOf "poc" ∨
      r.environmentArtifact.artifactType ≠ artifactTypeOf "environment" ∨
      r.effectOracleArtifact.artifactType ≠ artifactTypeOf "effect_oracle")
    (.artifact "artifact_role_mismatch" "singleton artifact type does not match its fixed role")
  refuseIf (∃ binding ∈ r.evidenceArtifacts, binding.artifactType ≠ artifactTypeOf "evidence")
    (.artifact "artifact_role_mismatch" "evidence artifact type does not match its fixed role")
  let singletonAndEvidence := r.typedInputs.map VerificationArtifactBindingV1.artifactDigest
  refuseIf (¬singletonAndEvidence.Nodup) (.artifact "artifact_role_collision"
    "verification artifact roles must use distinct digests")
  refuseIf (∃ digest ∈ r.targetArtifacts.map TargetArtifactBindingV1.artifactDigest,
      digest ∈ singletonAndEvidence) (.artifact "artifact_role_collision"
    "target and verification artifact roles must use distinct digests")
  refuseIf (r.typedInputBytes > maxTypedVerificationInputBytesV1)
    (.artifact "resolution_byte_ceiling_exceeded"
      "typed verification inputs exceed the fixed protocol-v1 ceiling")
  refuseIf (r.totalBytes > maxResolutionArtifactBytesV1)
    (.artifact "resolution_byte_ceiling_exceeded"
      "resolved artifact bytes exceed the fixed protocol-v1 ceiling")

/-- A content identity of a resolution. -/
def resolutionDigest (body : Members) (field : String) : Except WireError String := do
  let value ← body.item field
  requireArtifactDigest value field

/-- `VerificationArtifactResolutionV1.__post_init__`. -/
def VerificationArtifactResolutionV1.new (resolutionId : String) (body : Members)
    (b : ResolutionBindings) : Except WireError VerificationArtifactResolutionV1 := do
  let resolutionId ← requireArtifactDigest (.str resolutionId) "resolution_id"
  let authorityId ← resolutionDigest body "authority_id"
  let candidateId ← resolutionDigest body "candidate_id"
  let missionId ← resolutionDigest body "mission_id"
  let targetSnapshotId ← resolutionDigest body "target_snapshot_id"
  let verificationLeaseId ← resolutionDigest body "verification_lease_id"
  let profile ← body.item "resolution_profile"
  refuseIf (profile ≠ .str resolutionProfileV1)
    (.artifact "unsupported_resolution_profile" "artifact resolution profile is unsupported")
  let resolvedAt ← body.item "resolved_at"
  let resolvedAt ← natOf resolvedAt (some maxEpochSecond)
    (.artifact "invalid_resolved_at" "resolved_at must be a nonnegative int64 epoch second")
  let resolution : VerificationArtifactResolutionV1 :=
    { resolutionId, authorityId, candidateId, missionId, targetSnapshotId, verificationLeaseId,
      resolvedAt, resolutionProfile := resolutionProfileV1,
      effectOracleArtifact := b.effectOracleArtifact, environmentArtifact := b.environmentArtifact,
      evidenceArtifacts := b.evidenceArtifacts, pocArtifact := b.pocArtifact,
      targetArtifacts := b.targetArtifacts }
  validateArtifactRoles resolution
  let canonical ← refused (.artifact "invalid_resolution"
    "artifact resolution cannot be represented by protocol v1")
    (E.create resolutionObjectKind resolution.body)
  refuseIf (resolution.resolutionId ≠ canonical.objectId) (.artifact "object_id_mismatch"
    "resolution_id does not match canonical resolution semantics")
  return resolution

/-- `VerificationArtifactResolutionV1.from_envelope`. -/
def VerificationArtifactResolutionV1.fromEnvelope (envelope : EnvelopeV1) :
    Except WireError VerificationArtifactResolutionV1 := do
  refuseIf (envelope.objectKind ≠ resolutionObjectKind)
    (.artifact "wrong_object_kind" "envelope is not a verification artifact resolution")
  refuseIf (envelope.attestations ≠ []) (.artifact "unexpected_attestations"
    "artifact resolution attestations must be empty")
  let body ← E.thawBody envelope
  let body ← recordOf body resolutionBodyFieldsV1 (.artifact "malformed_resolution"
    "artifact resolution body has missing or unknown fields")
  let arrays : WireError :=
    .artifact "malformed_resolution" "artifact resolution collections must be arrays"
  let evidence ← body.item "evidence_artifacts"
  let evidence ← arrayOf evidence arrays
  let targets ← body.item "target_artifacts"
  let targets ← arrayOf targets arrays
  let effectOracle ← body.item "effect_oracle_artifact"
  let effectOracleArtifact ← VerificationArtifactBindingV1.fromDict effectOracle
  let environment ← body.item "environment_artifact"
  let environmentArtifact ← VerificationArtifactBindingV1.fromDict environment
  let evidenceArtifacts ← evidence.mapM VerificationArtifactBindingV1.fromDict
  let poc ← body.item "poc_artifact"
  let pocArtifact ← VerificationArtifactBindingV1.fromDict poc
  let targetArtifacts ← targets.mapM TargetArtifactBindingV1.fromDict
  VerificationArtifactResolutionV1.new E envelope.objectId body
    { effectOracleArtifact, environmentArtifact, evidenceArtifacts, pocArtifact, targetArtifacts }

/-! ## Field checks of a verification -/

def leaseObjectKind : String := "verification_lease"

def receiptObjectKind : String := "verifier_receipt"

def leasePurpose : String := "modeled_fixture_verification"

def modeledFixtureTier : String := "modeled_fixture"

def verifierRole : String := "modeled_fixture_verifier"

def verdicts : List String := ["confirmed", "not_reproduced", "inconclusive", "invalid"]

def maxVerifierReceiptEnvelopeBytes : ℕ := 256 * 1024

def maxEvidenceArtifacts : ℕ := 256

def maxTypedVerificationOutputBytesV1 : ℕ := 64 * 1024 * 1024

def maxTrustedVerifierKeys : ℕ := 64

def maxVerifierRoles : ℕ := 16

def maxVerifierRevocations : ℕ := 10000

/-- `_validate_digest`. -/
def verificationDigest (values : Members) (field : String) : Except WireError String := do
  let value ← values.item field
  textOf value isContentId
    (.verification ("invalid_" ++ field) (field ++ " must be a full sha256 content ID"))

/-- `_validate_key_id`. -/
def verificationKeyId (values : Members) (field : String) : Except WireError String := do
  let value ← values.item field
  textOf value isKeyId
    (.verification ("invalid_" ++ field) (field ++ " must be a content-derived Ed25519 key ID"))

/-- `_validate_identity`. -/
def verificationIdentity (value : Json) (field : String) : Except WireError String :=
  textOf value isAdapterIdentity
    (.verification ("invalid_" ++ field) (field ++ " must be a canonical identity string"))

/-- `_validate_evidence_tuple`. -/
def evidenceTuple (values : List Json) : Except WireError (List String) := do
  refuseIf (values.isEmpty = true) (.verification "invalid_evidence_artifact_digests"
    "evidence_artifact_digests must be a non-empty tuple")
  refuseIf (values.length > maxEvidenceArtifacts) (.verification "too_many_evidence_artifacts"
    "evidence artifacts exceed the fixed count ceiling")
  let digests ← textsOf values isContentId (.verification "invalid_evidence_artifact_digests"
    "each evidence artifact must have a full sha256 content ID")
  refuseIf (¬digests.Nodup) (.verification "duplicate_evidence_artifact"
    "evidence artifact digests must be unique")
  refuseIf (digests ≠ sortedTexts digests) (.verification "noncanonical_evidence_order"
    "evidence artifact digests must be sorted")
  return digests

/-- `_create_envelope`. -/
def createVerificationEnvelope (kind : String) (body : Json) : Except WireError EnvelopeV1 :=
  refused (.verification "invalid_protocol_value" "object cannot be represented by protocol v1")
    (E.create kind body)

/-! ## Verification leases -/

/-- `VerificationLeaseV1`. -/
structure VerificationLeaseV1 where
  leaseId : String
  leaseNonce : String
  missionId : String
  authorityId : String
  targetSnapshotId : String
  candidateId : String
  candidateProducerId : String
  pocArtifactDigest : String
  evidenceArtifactDigests : List String
  environmentDigest : String
  effectOracleId : String
  verifierId : String
  verifierKeyId : String
  issuanceTrustSnapshotId : String
  issuedAt : ℕ
  expiresAt : ℕ

/-- `_LEASE_BODY_FIELDS` without the purpose. -/
def leaseValueFields : List String :=
  ["authority_id", "candidate_id", "candidate_producer_id", "effect_oracle_id",
    "environment_digest", "evidence_artifact_digests", "expires_at", "issuance_trust_snapshot_id",
    "issued_at", "lease_nonce", "mission_id", "poc_artifact_digest", "target_snapshot_id",
    "verifier_id", "verifier_key_id"]

/-- `VerificationLeaseV1._wire_body`. -/
def VerificationLeaseV1.body (l : VerificationLeaseV1) : Json :=
  .obj [("authority_id", .str l.authorityId), ("candidate_id", .str l.candidateId),
    ("candidate_producer_id", .str l.candidateProducerId),
    ("effect_oracle_id", .str l.effectOracleId), ("environment_digest", .str l.environmentDigest),
    ("evidence_artifact_digests", .arr (l.evidenceArtifactDigests.map .str)),
    ("expires_at", .int l.expiresAt),
    ("issuance_trust_snapshot_id", .str l.issuanceTrustSnapshotId),
    ("issued_at", .int l.issuedAt), ("lease_nonce", .str l.leaseNonce),
    ("mission_id", .str l.missionId), ("poc_artifact_digest", .str l.pocArtifactDigest),
    ("purpose", .str leasePurpose), ("target_snapshot_id", .str l.targetSnapshotId),
    ("verifier_id", .str l.verifierId), ("verifier_key_id", .str l.verifierKeyId)]

/-- A time of a lease, under the one refusal of `_validate_times`. -/
def leaseTimes (values : Members) : Except WireError (ℕ × ℕ) := do
  let error : WireError :=
    .verification "invalid_lease_time" "lease times must be nonnegative integer epoch seconds"
  let issuedAt ← values.item "issued_at"
  let issuedAt ← natOf issuedAt (some maxEpochSecond) error
  let expiresAt ← values.item "expires_at"
  let expiresAt ← natOf expiresAt (some maxEpochSecond) error
  refuseIf (issuedAt ≥ expiresAt) (.verification "invalid_lease_window"
    "lease interval must satisfy issued_at < expires_at")
  return (issuedAt, expiresAt)

/-- `_validate_lease_values`, and the lease that has the values. -/
def validateLeaseValues (leaseId : String) (values : Members) (evidence : List Json) :
    Except WireError VerificationLeaseV1 := do
  refuseIf (¬HasKeys values leaseValueFields)
    (.verification "malformed_lease" "lease has missing or unknown fields")
  let nonce ← values.item "lease_nonce"
  let leaseNonce ← textOf nonce isNonce (.verification "invalid_lease_nonce"
    "lease_nonce must be 128 bits of lowercase hexadecimal")
  let missionId ← verificationDigest values "mission_id"
  let authorityId ← verificationDigest values "authority_id"
  let targetSnapshotId ← verificationDigest values "target_snapshot_id"
  let candidateId ← verificationDigest values "candidate_id"
  let pocArtifactDigest ← verificationDigest values "poc_artifact_digest"
  let environmentDigest ← verificationDigest values "environment_digest"
  let effectOracleId ← verificationDigest values "effect_oracle_id"
  let issuanceTrustSnapshotId ← verificationDigest values "issuance_trust_snapshot_id"
  let producer ← values.item "candidate_producer_id"
  let candidateProducerId ← verificationIdentity producer "candidate_producer_id"
  let verifier ← values.item "verifier_id"
  let verifierId ← verificationIdentity verifier "verifier_id"
  let verifierKeyId ← verificationKeyId values "verifier_key_id"
  let evidenceArtifactDigests ← evidenceTuple evidence
  refuseIf (¬(pocArtifactDigest :: evidenceArtifactDigests ++
      [environmentDigest, effectOracleId]).Nodup) (.verification "artifact_role_collision"
    "verification artifact roles must use distinct content identities")
  let (issuedAt, expiresAt) ← leaseTimes values
  return { leaseId, leaseNonce, missionId, authorityId, targetSnapshotId, candidateId,
           candidateProducerId, pocArtifactDigest, evidenceArtifactDigests, environmentDigest,
           effectOracleId, verifierId, verifierKeyId, issuanceTrustSnapshotId, issuedAt,
           expiresAt }

/-- `VerificationLeaseV1.from_envelope`. -/
def VerificationLeaseV1.fromEnvelope (envelope : EnvelopeV1) :
    Except WireError VerificationLeaseV1 := do
  refuseIf (envelope.objectKind ≠ leaseObjectKind)
    (.verification "wrong_object_kind" "envelope is not a verification lease")
  refuseIf (envelope.attestations ≠ [])
    (.verification "unexpected_attestations" "verification lease attestations must be empty")
  let body ← E.thawBody envelope
  let body ← recordOf body ("purpose" :: leaseValueFields)
    (.verification "malformed_lease" "lease body has missing or unknown fields")
  let purpose ← body.item "purpose"
  refuseIf (purpose ≠ .str leasePurpose)
    (.verification "wrong_lease_purpose" "lease is not for modeled fixture verification")
  let evidence ← body.item "evidence_artifact_digests"
  let evidence ← arrayOf evidence
    (.verification "malformed_lease" "evidence_artifact_digests must be an array")
  let values := body.filter fun member => member.1 ≠ "purpose"
  refuseIf (isContentId envelope.objectId = false)
    (.verification "invalid_lease_id" "lease_id must be a full sha256 content ID")
  let lease ← validateLeaseValues envelope.objectId values evidence
  let canonical ← createVerificationEnvelope E leaseObjectKind lease.body
  refuseIf (lease.leaseId ≠ canonical.objectId)
    (.verification "object_id_mismatch" "lease_id does not match canonical lease semantics")
  return lease

/-- `derive_verification_lease_nonce`, of the fields of a lease. -/
def deriveVerificationLeaseNonce (priorEventDigest snapshotId : String) (l : VerificationLeaseV1) :
    Except WireError String := do
  let digest ← E.contentId "verification_lease_nonce" (.obj
    [("authority_id", .str l.authorityId), ("candidate_id", .str l.candidateId),
      ("candidate_producer_id", .str l.candidateProducerId),
      ("effect_oracle_id", .str l.effectOracleId),
      ("environment_digest", .str l.environmentDigest),
      ("evidence_artifact_digests", .arr (l.evidenceArtifactDigests.map .str)),
      ("expires_at", .int l.expiresAt), ("issued_at", .int l.issuedAt),
      ("mission_id", .str l.missionId), ("poc_artifact_digest", .str l.pocArtifactDigest),
      ("prior_event_digest", .str priorEventDigest),
      ("target_snapshot_id", .str l.targetSnapshotId), ("verifier_id", .str l.verifierId),
      ("verifier_key_id", .str l.verifierKeyId),
      ("issuance_trust_snapshot_id", .str snapshotId)])
  return String.ofList ((digest.toList.drop 7).take 32)

/-! ## Receipts -/

/-- `VerifierReceiptV1`. -/
structure VerifierReceiptV1 where
  receiptId : String
  artifactResolutionId : String
  leaseId : String
  missionId : String
  authorityId : String
  targetSnapshotId : String
  candidateId : String
  candidateProducerId : String
  pocArtifactDigest : String
  evidenceArtifactDigests : List String
  environmentDigest : String
  effectOracleId : String
  executionOutputDigest : String
  executionOutputSize : ℕ
  effectOutputDigest : String
  effectOutputSize : ℕ
  measuredEnvironmentOutputDigest : String
  measuredEnvironmentOutputSize : ℕ
  terminationOutputDigest : String
  terminationOutputSize : ℕ
  verifierId : String
  verifierKeyId : String
  evidenceTier : String
  verdict : String
  effectObserved : Bool
  oracleSatisfied : Bool
  completedAt : ℕ

/-- `_RECEIPT_BODY_FIELDS`. -/
def receiptBodyFields : List String :=
  ["artifact_resolution_id", "authority_id", "candidate_id", "candidate_producer_id",
    "completed_at", "effect_observed", "effect_oracle_id", "effect_output_digest",
    "effect_output_size", "environment_digest", "evidence_artifact_digests", "evidence_tier",
    "execution_output_digest", "execution_output_size", "lease_id",
    "measured_environment_output_digest", "measured_environment_output_size", "mission_id",
    "oracle_satisfied", "poc_artifact_digest", "target_snapshot_id", "termination_output_digest",
    "termination_output_size", "verdict", "verifier_id", "verifier_key_id"]

/-- `VerifierReceiptV1._wire_body`. -/
def VerifierReceiptV1.body (r : VerifierReceiptV1) : Json :=
  .obj [("artifact_resolution_id", .str r.artifactResolutionId),
    ("authority_id", .str r.authorityId), ("candidate_id", .str r.candidateId),
    ("candidate_producer_id", .str r.candidateProducerId), ("completed_at", .int r.completedAt),
    ("effect_observed", .bool r.effectObserved), ("effect_oracle_id", .str r.effectOracleId),
    ("effect_output_digest", .str r.effectOutputDigest),
    ("effect_output_size", .int r.effectOutputSize),
    ("environment_digest", .str r.environmentDigest),
    ("evidence_artifact_digests", .arr (r.evidenceArtifactDigests.map .str)),
    ("evidence_tier", .str r.evidenceTier),
    ("execution_output_digest", .str r.executionOutputDigest),
    ("execution_output_size", .int r.executionOutputSize), ("lease_id", .str r.leaseId),
    ("measured_environment_output_digest", .str r.measuredEnvironmentOutputDigest),
    ("measured_environment_output_size", .int r.measuredEnvironmentOutputSize),
    ("mission_id", .str r.missionId), ("oracle_satisfied", .bool r.oracleSatisfied),
    ("poc_artifact_digest", .str r.pocArtifactDigest),
    ("target_snapshot_id", .str r.targetSnapshotId),
    ("termination_output_digest", .str r.terminationOutputDigest),
    ("termination_output_size", .int r.terminationOutputSize), ("verdict", .str r.verdict),
    ("verifier_id", .str r.verifierId), ("verifier_key_id", .str r.verifierKeyId)]

/-- A size of an output. -/
def outputSize (values : Members) (field : String) : Except WireError ℕ := do
  let error : WireError :=
    .verification ("invalid_" ++ field) (field ++ " must be an integer from 1 through 64 MiB")
  let value ← values.item field
  let n ← natOf value (some maxTypedVerificationOutputBytesV1) error
  refuseIf (n = 0) error
  return n

/-- The value of a boolean. -/
def bool? : Json → Option Bool
  | .bool b => some b
  | _ => none

/-- `_validate_receipt_values`, and the receipt that has the values. -/
def validateReceiptValues (receiptId : String) (values : Members) (evidence : List Json) :
    Except WireError VerifierReceiptV1 := do
  refuseIf (¬HasKeys values receiptBodyFields)
    (.verification "malformed_receipt" "receipt has missing or unknown fields")
  let artifactResolutionId ← verificationDigest values "artifact_resolution_id"
  let leaseId ← verificationDigest values "lease_id"
  let missionId ← verificationDigest values "mission_id"
  let authorityId ← verificationDigest values "authority_id"
  let targetSnapshotId ← verificationDigest values "target_snapshot_id"
  let candidateId ← verificationDigest values "candidate_id"
  let pocArtifactDigest ← verificationDigest values "poc_artifact_digest"
  let environmentDigest ← verificationDigest values "environment_digest"
  let effectOracleId ← verificationDigest values "effect_oracle_id"
  let executionOutputDigest ← verificationDigest values "execution_output_digest"
  let effectOutputDigest ← verificationDigest values "effect_output_digest"
  let measuredEnvironmentOutputDigest ←
    verificationDigest values "measured_environment_output_digest"
  let terminationOutputDigest ← verificationDigest values "termination_output_digest"
  let producer ← values.item "candidate_producer_id"
  let candidateProducerId ← verificationIdentity producer "candidate_producer_id"
  let verifier ← values.item "verifier_id"
  let verifierId ← verificationIdentity verifier "verifier_id"
  let verifierKeyId ← verificationKeyId values "verifier_key_id"
  let evidenceArtifactDigests ← evidenceTuple evidence
  let outputDigests := [executionOutputDigest, effectOutputDigest,
    measuredEnvironmentOutputDigest, terminationOutputDigest]
  refuseIf (¬outputDigests.Nodup) (.verification "output_artifact_role_collision"
    "verification output roles must use distinct content identities")
  refuseIf (∃ digest ∈ outputDigests, digest ∈ pocArtifactDigest :: evidenceArtifactDigests ++
      [environmentDigest, effectOracleId]) (.verification "output_input_artifact_collision"
    "verification outputs must be distinct from predeclared inputs")
  let executionOutputSize ← outputSize values "execution_output_size"
  let effectOutputSize ← outputSize values "effect_output_size"
  let measuredEnvironmentOutputSize ← outputSize values "measured_environment_output_size"
  let terminationOutputSize ← outputSize values "termination_output_size"
  refuseIf (executionOutputSize + effectOutputSize + measuredEnvironmentOutputSize +
      terminationOutputSize > maxTypedVerificationOutputBytesV1)
    (.verification "verification_output_byte_ceiling_exceeded"
      "signed verification output sizes exceed the fixed aggregate byte ceiling")
  let tier ← values.item "evidence_tier"
  let evidenceTier ← orRefuse (str? tier)
    (.verification "invalid_evidence_tier" "evidence_tier must be a string")
  refuseIf (evidenceTier ≠ modeledFixtureTier)
    (.verification "unsupported_evidence_tier" "only modeled_fixture evidence is admitted")
  let verdict ← values.item "verdict"
  let verdict ← textOf verdict (· ∈ verdicts)
    (.verification "invalid_verdict" "unsupported verifier verdict")
  let observation : WireError :=
    .verification "invalid_observation" "effect and oracle observations must be booleans"
  let effect ← values.item "effect_observed"
  let effectObserved ← orRefuse (bool? effect) observation
  let oracle ← values.item "oracle_satisfied"
  let oracleSatisfied ← orRefuse (bool? oracle) observation
  let completed ← values.item "completed_at"
  let completedAt ← natOf completed (some maxEpochSecond) (.verification "invalid_completed_at"
    "completed_at must be a nonnegative integer epoch second")
  return { receiptId, artifactResolutionId, leaseId, missionId, authorityId, targetSnapshotId,
           candidateId, candidateProducerId, pocArtifactDigest, evidenceArtifactDigests,
           environmentDigest, effectOracleId, executionOutputDigest, executionOutputSize,
           effectOutputDigest, effectOutputSize, measuredEnvironmentOutputDigest,
           measuredEnvironmentOutputSize, terminationOutputDigest, terminationOutputSize,
           verifierId, verifierKeyId, evidenceTier, verdict, effectObserved, oracleSatisfied,
           completedAt }

/-- `VerifierReceiptV1.from_envelope`. -/
def VerifierReceiptV1.fromEnvelope (envelope : EnvelopeV1) :
    Except WireError VerifierReceiptV1 := do
  refuseIf (envelope.objectKind ≠ receiptObjectKind)
    (.verification "wrong_object_kind" "envelope is not a verifier receipt")
  refuseIf (envelope.attestations ≠ [])
    (.verification "unexpected_attestations" "verifier receipt attestations must be empty")
  let body ← E.thawBody envelope
  let body ← recordOf body receiptBodyFields
    (.verification "malformed_receipt" "receipt body has missing or unknown fields")
  let evidence ← body.item "evidence_artifact_digests"
  let evidence ← arrayOf evidence
    (.verification "malformed_receipt" "evidence_artifact_digests must be an array")
  refuseIf (isContentId envelope.objectId = false)
    (.verification "invalid_receipt_id" "receipt_id must be a full sha256 content ID")
  let receipt ← validateReceiptValues envelope.objectId body evidence
  let canonical ← createVerificationEnvelope E receiptObjectKind receipt.body
  refuseIf (receipt.receiptId ≠ canonical.objectId)
    (.verification "object_id_mismatch" "receipt_id does not match canonical receipt semantics")
  return receipt

/-! ## Signed receipts -/

/-- `SignedVerifierReceiptV1`. -/
structure SignedVerifierReceiptV1 where
  envelopeBytes : ByteArray
  keyId : String
  signatureB64 : String

/-- The refusal of a receipt envelope above its ceiling. -/
def receiptTooLarge (message : String) : WireError :=
  .verification "receipt_envelope_too_large" message

/-- `SignedVerifierReceiptV1.__post_init__`. -/
def SignedVerifierReceiptV1.new (envelopeBytes : ByteArray) (keyId signatureB64 : Json) :
    Except WireError SignedVerifierReceiptV1 := do
  refuseIf (envelopeBytes.size = 0)
    (.verification "malformed_signed_receipt" "envelope_bytes must be non-empty bytes")
  refuseIf (envelopeBytes.size > maxVerifierReceiptEnvelopeBytes)
    (receiptTooLarge "verifier receipt envelope exceeds the fixed byte ceiling")
  let keyId ← textOf keyId isKeyId
    (.verification "malformed_key_id" "key_id must identify an Ed25519 public key")
  let signatureB64 ← signatureOf signatureB64 (.verification "malformed_signature"
    "signature_b64 must be one canonical Ed25519 signature")
  return ⟨envelopeBytes, keyId, signatureB64⟩

/-- `SignedVerifierReceiptV1.to_envelope`. -/
def SignedVerifierReceiptV1.toEnvelope (signed : SignedVerifierReceiptV1) :
    Except WireError EnvelopeV1 := do
  let receiptEnvelope ← refused
    (.verification "invalid_envelope" "signed receipt envelope is invalid")
    (E.fromBytes signed.envelopeBytes)
  refuseIf (receiptEnvelope.objectKind ≠ receiptObjectKind ∨ receiptEnvelope.attestations ≠ [])
    (.verification "invalid_envelope"
      "signed verifier input must contain one unattested receipt envelope")
  let _ ← VerifierReceiptV1.fromEnvelope E receiptEnvelope
  let envelope ← protocol (EnvelopeV1.create E.nfc E.sha256 receiptObjectKind
    (.obj receiptEnvelope.body) (.arr [attestationOf signed.keyId signed.signatureB64]))
  let bytes ← E.toBytes envelope
  refuseIf (bytes.size > maxVerifierReceiptEnvelopeBytes)
    (receiptTooLarge "signed verifier receipt exceeds the fixed byte ceiling")
  return envelope

/-- `SignedVerifierReceiptV1.from_bytes`. -/
def SignedVerifierReceiptV1.fromBytes (data : ByteArray) :
    Except WireError SignedVerifierReceiptV1 := do
  refuseIf (data.size > maxVerifierReceiptEnvelopeBytes)
    (receiptTooLarge "signed verifier receipt exceeds the fixed byte ceiling")
  let envelope ← refused (.verification "invalid_envelope" "signed receipt wire is invalid")
    (E.fromBytes data)
  let one : WireError := .verification "malformed_signed_receipt"
    "signed verifier wire requires exactly one receipt attestation"
  refuseIf (envelope.objectKind ≠ receiptObjectKind) one
  let attestation ← orRefuse (singleton? envelope.attestations) one
  let attestation ← protocol (normalized E.nfc (.obj attestation))
  let attestation ← recordOf attestation attestationFields (.verification
    "malformed_signed_receipt" "receipt signature attestation has missing or unknown fields")
  let algorithm ← attestation.item "algorithm"
  refuseIf (algorithm ≠ .str "ed25519")
    (.verification "malformed_signed_receipt" "unsupported receipt signature algorithm")
  let unattested ← E.create receiptObjectKind (.obj envelope.body)
  refuseIf (unattested.objectId ≠ envelope.objectId)
    (.verification "object_id_mismatch" "attested receipt identity changed")
  let _ ← VerifierReceiptV1.fromEnvelope E unattested
  let envelopeBytes ← E.toBytes unattested
  let keyId ← attestation.item "key_id"
  let signatureB64 ← attestation.item "signature_b64"
  SignedVerifierReceiptV1.new envelopeBytes keyId signatureB64

/-! ## Output artifacts -/

/-- `VerificationOutputArtifactsV1`. -/
structure VerificationOutputArtifactsV1 where
  executionOutputArtifact : VerificationArtifactBindingV1
  effectOutputArtifact : VerificationArtifactBindingV1
  measuredEnvironmentOutputArtifact : VerificationArtifactBindingV1
  terminationOutputArtifact : VerificationArtifactBindingV1

/-- The bindings with the artifact types of their roles. -/
def VerificationOutputArtifactsV1.expected (o : VerificationOutputArtifactsV1) :
    List (VerificationArtifactBindingV1 × String) :=
  [(o.executionOutputArtifact, artifactTypeOf "execution_output"),
    (o.effectOutputArtifact, artifactTypeOf "effect_output"),
    (o.measuredEnvironmentOutputArtifact, artifactTypeOf "measured_environment_output"),
    (o.terminationOutputArtifact, artifactTypeOf "termination_output")]

/-- `total_bytes` of the output artifacts. -/
def VerificationOutputArtifactsV1.totalBytes (o : VerificationOutputArtifactsV1) : ℕ :=
  (o.expected.map fun output => output.1.size).sum

/-- `VerificationOutputArtifactsV1.__post_init__`. -/
def VerificationOutputArtifactsV1.postInit (o : VerificationOutputArtifactsV1) :
    Except WireError Unit := do
  refuseIf (∃ output ∈ o.expected, output.1.artifactType ≠ output.2)
    (.verification "invalid_verification_output_binding"
      "verification output binding has the wrong code-owned type")
  refuseIf (¬(o.expected.map fun output => output.1.artifactDigest).Nodup)
    (.verification "output_artifact_role_collision"
      "verification output roles must use distinct content identities")
  refuseIf (o.totalBytes > maxTypedVerificationOutputBytesV1)
    (.verification "verification_output_byte_ceiling_exceeded"
      "verification outputs exceed the fixed aggregate byte ceiling")

/-! ## Trust stores of verifiers -/

/-- `TrustedVerifierKey`. -/
structure TrustedVerifierKey where
  verifierId : String
  publicKeyBytes : List UInt8
  roles : List String

/-- `TrustedVerifierKey.key_id`. -/
def TrustedVerifierKey.keyId (key : TrustedVerifierKey) : String := E.keyId key.publicKeyBytes

/-- `TrustedVerifierKey.__post_init__`. The backend takes every 32 bytes for a public key. -/
def TrustedVerifierKey.postInit (key : TrustedVerifierKey) : Except WireError Unit := do
  let _ ← verificationIdentity (.str key.verifierId) "verifier_id"
  refuseIf (key.publicKeyBytes.length ≠ 32 ∨ E.validKey key.publicKeyBytes = false)
    (.verification "invalid_public_key"
      "Ed25519 public keys must be canonical prime-subgroup points")
  refuseIf (key.roles = [])
    (.verification "invalid_roles" "trusted keys require a non-empty frozen role set")
  refuseIf (key.roles.length > maxVerifierRoles)
    (.verification "invalid_roles" "trusted key exceeds the role-count ceiling")
  refuseIf (∃ role ∈ key.roles, isNonblank role = false ∨ isAdapterIdentity role = false)
    (.verification "invalid_roles" "roles must be non-blank canonical identity strings")

/-- `VerifierTrustStore`, its keys in the order they were enrolled. -/
structure VerifierTrustStore where
  keys : List TrustedVerifierKey
  revokedKeyIds : List String
  revokedReceiptIds : List String
  revokedLeaseIds : List String

/-- `keys.get(key_id)`. -/
def VerifierTrustStore.key (store : VerifierTrustStore) (keyId : String) :
    Option TrustedVerifierKey :=
  store.keys.find? fun key => key.keyId E = keyId

/-- The body of a key in a snapshot. -/
def TrustedVerifierKey.toBody (key : TrustedVerifierKey) : Json :=
  .obj [("key_id", .str (key.keyId E)), ("public_key_b64", .str (base64Text key.publicKeyBytes)),
    ("roles", .arr ((sortedTexts key.roles).map .str)), ("verifier_id", .str key.verifierId)]

/-- `to_snapshot_body`. -/
def VerifierTrustStore.toSnapshotBody (store : VerifierTrustStore) : Members :=
  let ids := sortedTexts (store.keys.map (TrustedVerifierKey.keyId E))
  let keys := ids.filterMap (store.key E)
  [("keys", .arr (keys.map (TrustedVerifierKey.toBody E))),
    ("revoked_key_ids", .arr ((sortedTexts store.revokedKeyIds).map .str)),
    ("revoked_lease_ids", .arr ((sortedTexts store.revokedLeaseIds).map .str)),
    ("revoked_receipt_ids", .arr ((sortedTexts store.revokedReceiptIds).map .str))]

/-- `VerifierTrustStore.snapshot_id`. -/
def VerifierTrustStore.snapshotId (store : VerifierTrustStore) : Except WireError String :=
  E.contentId "verifier_trust_snapshot" (.obj (store.toSnapshotBody E))

/-- An error of a trust store. -/
def invalidTrustStore (message : String) : WireError := .verification "invalid_trust_store" message

/-- `_validated_identifier_frozenset` of texts. -/
def identifierFrozenset (values : List String) (pattern : String → Bool) :
    Except WireError Unit := do
  refuseIf (values.length > maxVerifierRevocations)
    (invalidTrustStore "identifier collection exceeds its fixed count ceiling")
  refuseIf (∃ value ∈ values, pattern value = false)
    (invalidTrustStore "identifier collection contains an invalid value")
  refuseIf (¬values.Nodup) (invalidTrustStore "identifier collection contains a duplicate")

/-- `VerifierTrustStore.from_keys`, whose keys were made before. -/
def VerifierTrustStore.fromKeys (keys : List TrustedVerifierKey)
    (revokedKeyIds revokedReceiptIds revokedLeaseIds : List String) :
    Except WireError VerifierTrustStore := do
  refuseIf (keys.length > maxTrustedVerifierKeys)
    (invalidTrustStore "trust store exceeds the key-count ceiling")
  refuseIf (¬(keys.map (TrustedVerifierKey.keyId E)).Nodup)
    (invalidTrustStore "duplicate trusted verifier key")
  identifierFrozenset revokedKeyIds isKeyId
  identifierFrozenset revokedReceiptIds isContentId
  identifierFrozenset revokedLeaseIds isContentId
  refuseIf (revokedKeyIds.length + revokedReceiptIds.length + revokedLeaseIds.length >
      maxVerifierRevocations)
    (invalidTrustStore "trust store exceeds the combined revocation-count ceiling")
  return { keys, revokedKeyIds, revokedReceiptIds, revokedLeaseIds }

/-- An error of a trust snapshot. -/
def invalidTrustSnapshot (message : String) : WireError :=
  .verification "invalid_trust_snapshot" message

/-- A key entry of `_trust_store_from_snapshot_body`. -/
def verifierKeyEntry (entry : Json) : Except WireError TrustedVerifierKey := do
  let entry ← recordOf entry ["key_id", "public_key_b64", "roles", "verifier_id"]
    (invalidTrustSnapshot "trust snapshot key entry is malformed")
  let noncanonical :=
    invalidTrustSnapshot "trust snapshot key identity or roles are noncanonical"
  let keyId ← entry.item "key_id"
  let keyId ← textOf keyId isKeyId noncanonical
  let publicKeyB64 ← entry.item "public_key_b64"
  let publicKeyB64 ← textOf publicKeyB64 (fun text => text.length = 44) noncanonical
  let roles ← entry.item "roles"
  let roles ← arrayOf roles noncanonical
  refuseIf (roles.isEmpty = true ∨ roles.length > maxVerifierRoles) noncanonical
  let roles ← textsOf roles (fun role => isAdapterIdentity role && role = strip role) noncanonical
  refuseIf (roles ≠ sortedSet roles) noncanonical
  let verifierId ← entry.item "verifier_id"
  let verifierId ← textOf verifierId (fun text => isAdapterIdentity text && text = strip text)
    noncanonical
  let publicKeyBytes ← orRefuse (Base64.decode publicKeyB64.toList)
    (invalidTrustSnapshot "trust snapshot public key is malformed")
  refuseIf (publicKeyBytes.length ≠ 32 ∨ base64Text publicKeyBytes ≠ publicKeyB64 ∨
      E.keyId publicKeyBytes ≠ keyId ∨ E.validKey publicKeyBytes = false)
    (invalidTrustSnapshot "trust snapshot public key identity is malformed")
  let key : TrustedVerifierKey := ⟨verifierId, publicKeyBytes, roles⟩
  catching WireError.isVerification
    (fun _ => invalidTrustSnapshot "trust snapshot contains an invalid trusted key")
    (key.postInit E)
  return key

/-- `_trust_store_from_snapshot_body`. -/
def trustStoreFromSnapshotBody (body : Json) : Except WireError VerifierTrustStore := do
  let body ← recordOf body
    ["keys", "revoked_key_ids", "revoked_lease_ids", "revoked_receipt_ids"]
    (invalidTrustSnapshot "trust snapshot has missing or unknown fields")
  let arrays := invalidTrustSnapshot "trust snapshot collections must be arrays"
  let keys ← body.item "keys"
  let keys ← arrayOf keys arrays
  let revokedKeys ← body.item "revoked_key_ids"
  let revokedKeys ← arrayOf revokedKeys arrays
  let revokedLeases ← body.item "revoked_lease_ids"
  let revokedLeases ← arrayOf revokedLeases arrays
  let revokedReceipts ← body.item "revoked_receipt_ids"
  let revokedReceipts ← arrayOf revokedReceipts arrays
  refuseIf (keys.length > maxTrustedVerifierKeys)
    (invalidTrustSnapshot "trust snapshot exceeds the key-count ceiling")
  refuseIf (revokedKeys.length + revokedLeases.length + revokedReceipts.length >
      maxVerifierRevocations)
    (invalidTrustSnapshot "trust snapshot exceeds the revocation-count ceiling")
  let trustedKeys ← keys.mapM (verifierKeyEntry E)
  let observedKeyIds := trustedKeys.map (TrustedVerifierKey.keyId E)
  refuseIf (observedKeyIds ≠ sortedSet observedKeyIds)
    (invalidTrustSnapshot "trust snapshot keys are not in unique canonical order")
  let noncanonical := invalidTrustSnapshot "trust snapshot revocations are noncanonical"
  let revokedKeyIds ← revokedIds revokedKeys isKeyId noncanonical
  let revokedLeaseIds ← revokedIds revokedLeases isContentId noncanonical
  let revokedReceiptIds ← revokedIds revokedReceipts isContentId noncanonical
  let store ← catching WireError.isVerification
    (fun _ => invalidTrustSnapshot "trust snapshot cannot be reconstructed")
    (VerifierTrustStore.fromKeys E trustedKeys revokedKeyIds revokedReceiptIds revokedLeaseIds)
  refuseIf (store.toSnapshotBody E ≠ body)
    (invalidTrustSnapshot "trust snapshot body is not canonical")
  return store

/-- `VerifierTrustStore.from_snapshot_body`, with the snapshot identity expected of it. -/
def VerifierTrustStore.fromSnapshotBody (body : Json) (expectedSnapshotId : String) :
    Except WireError VerifierTrustStore := do
  let store ← trustStoreFromSnapshotBody E body
  refuseIf (isContentId expectedSnapshotId = false)
    (invalidTrustSnapshot "expected snapshot ID must be a full sha256 content ID")
  let snapshotId ← store.snapshotId E
  refuseIf (snapshotId ≠ expectedSnapshotId) (.verification "trust_snapshot_mismatch"
    "trust snapshot ID does not match its canonical body")
  return store

end Etzio.Wire
