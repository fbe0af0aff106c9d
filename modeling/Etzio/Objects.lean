import Mathlib

/-!
# Protocol objects

The decoded protocol-v1 objects a mission event carries, with the fields that the
kernel reads. A `sha256:` content identifier is a 256-bit value (`Digest`), so the
identifier grammar holds of every value of the type. Objects are compared as decoded
values : canonical JSON gives each of them one encoding.

`Primitives` collects what is computed outside the kernel's own logic : hashing of
canonical bytes, Ed25519 verification, and the wire-level part of `EventV1`'s
constructor (canonical payload bytes and the constructors of the nested objects).
Every result holds for arbitrary values of these.
-/

namespace Etzio

/-- A full lowercase `sha256:` identifier. -/
abbrev Digest := BitVec 256

instance : LawfulBEq Digest := instLawfulBEq

/-- An `ed25519:sha256:` identifier of a public key. -/
structure KeyId where
  digest : Digest
  deriving DecidableEq, Repr

/-- An Ed25519 signature : the 64 bytes that `signature_b64` encodes. -/
abbrev Signature := BitVec 512

/-- `authority.PERMITTED_ACTIONS`. -/
inductive Action
  | staticAnalysis
  | modeledFixtureVerification
  deriving DecidableEq, Repr

/-- The authors of events, `EVENT_UNIT_BY_KIND_V1`'s values. -/
inductive KernelUnit
  | aquila
  | etzio
  | velites
  deriving DecidableEq, Repr

/-- The identity text of a unit, as a lease's `candidate_producer_id` spells it. -/
def KernelUnit.text : KernelUnit → String
  | .aquila => "AQUILA"
  | .etzio => "ETZIO"
  | .velites => "VELITES"

/-! ## Authority -/

/-- `AuthorityGrantV1`, the fields that bound a mission. -/
structure AuthorityGrantV1 where
  grantId : Digest
  targetSnapshotId : Digest
  permittedActions : List Action
  evidenceDigest : Digest
  expiresAt : ℕ
  maxBytes : ℕ
  maxCandidates : ℕ
  maxWallclockSeconds : ℕ
  deriving DecidableEq, Repr

/-- `SignedAuthorityGrantV1` : the grant whose envelope bytes are signed, the key and
the signature. -/
structure SignedAuthorityGrantV1 where
  grant : AuthorityGrantV1
  keyId : KeyId
  signature : Signature
  deriving DecidableEq, Repr

/-- `AuthorityAdmissionV1`, with its embedded signed grant decoded. -/
structure AuthorityAdmissionV1 where
  admissionId : Digest
  authorityId : Digest
  signerKeyId : KeyId
  targetSnapshotId : Digest
  decisionTime : ℕ
  requiredActions : List Action
  grantExpiresAt : ℕ
  signedGrant : SignedAuthorityGrantV1
  deriving DecidableEq, Repr

/-! ## Targets and analysis -/

/-- `SnapshotFileV1`. -/
structure SnapshotFileV1 where
  relativePath : String
  artifactDigest : Digest
  size : ℕ
  deriving DecidableEq, Repr

/-- `TargetSnapshotV1`. -/
structure TargetSnapshotV1 where
  objectId : Digest
  files : List SnapshotFileV1
  deriving DecidableEq, Repr

/-- `artifacts_by_path().get(path)`. A later file of the same path would win, as in the
source's dict comprehension. -/
def TargetSnapshotV1.artifactAt (t : TargetSnapshotV1) (path : String) : Option Digest :=
  (t.files.reverse.find? fun f => f.relativePath = path).map SnapshotFileV1.artifactDigest

/-- `sum(file.size for file in files)`. -/
def TargetSnapshotV1.totalBytes (t : TargetSnapshotV1) : ℕ :=
  (t.files.map SnapshotFileV1.size).sum

/-- `AnalysisLeaseV1`. -/
structure AnalysisLeaseV1 where
  leaseId : Digest
  missionId : Digest
  authorityId : Digest
  targetSnapshotId : Digest
  action : Action
  issuedAt : ℕ
  expiresAt : ℕ
  maxBytes : ℕ
  maxCandidates : ℕ
  maxWallclockSeconds : ℕ
  deriving DecidableEq, Repr

/-- `StaticCandidateV1`, the fields that bind it to the mission and the target. -/
structure StaticCandidateV1 where
  candidateId : Digest
  missionId : Digest
  authorityId : Digest
  analysisLeaseId : Digest
  targetSnapshotId : Digest
  sourceArtifactDigest : Digest
  relativePath : String
  deriving DecidableEq, Repr

/-- The `parse_failure` object of a `parse_failed` event. -/
structure ParseFailure where
  line : ℕ
  column : ℕ
  reasonCode : String
  relativePath : String
  deriving DecidableEq, Repr

/-! ## Verification -/

/-- The closed registry `VERIFICATION_ARTIFACT_TYPES_V1`. -/
inductive ArtifactType
  | modeledPocInput
  | modeledSupportingEvidenceInput
  | modeledEnvironmentSpec
  | modeledEffectOracleSpec
  | modeledExecutionOutput
  | modeledEffectOutput
  | modeledMeasuredEnvironmentOutput
  | modeledTerminationOutput
  deriving DecidableEq, Repr

/-- `VerificationArtifactBindingV1`. -/
structure VerificationArtifactBindingV1 where
  artifactDigest : Digest
  artifactType : ArtifactType
  size : ℕ
  deriving DecidableEq, Repr

/-- `TargetArtifactBindingV1`. -/
structure TargetArtifactBindingV1 where
  artifactDigest : Digest
  relativePath : String
  size : ℕ
  deriving DecidableEq, Repr

/-- `VerificationLeaseV1`. -/
structure VerificationLeaseV1 where
  leaseId : Digest
  leaseNonce : BitVec 128
  missionId : Digest
  authorityId : Digest
  targetSnapshotId : Digest
  candidateId : Digest
  candidateProducerId : String
  pocArtifactDigest : Digest
  evidenceArtifactDigests : List Digest
  environmentDigest : Digest
  effectOracleId : Digest
  verifierId : String
  verifierKeyId : KeyId
  issuanceTrustSnapshotId : Digest
  issuedAt : ℕ
  expiresAt : ℕ
  deriving DecidableEq, Repr

/-- The immutable work bindings of a lease : mission, authority, target, candidate,
producer, PoC, evidence, environment and oracle. -/
structure LeaseBindings where
  missionId : Digest
  authorityId : Digest
  targetSnapshotId : Digest
  candidateId : Digest
  candidateProducerId : String
  pocArtifactDigest : Digest
  evidenceArtifactDigests : List Digest
  environmentDigest : Digest
  effectOracleId : Digest
  deriving DecidableEq, Repr

/-- The bindings tuple that a reassignment compares. -/
def VerificationLeaseV1.bindings (l : VerificationLeaseV1) : LeaseBindings where
  missionId := l.missionId
  authorityId := l.authorityId
  targetSnapshotId := l.targetSnapshotId
  candidateId := l.candidateId
  candidateProducerId := l.candidateProducerId
  pocArtifactDigest := l.pocArtifactDigest
  evidenceArtifactDigests := l.evidenceArtifactDigests
  environmentDigest := l.environmentDigest
  effectOracleId := l.effectOracleId

/-- The keyword arguments of `derive_verification_lease_nonce`. -/
structure LeaseNonceInputs where
  priorEventDigest : Digest
  bindings : LeaseBindings
  verifierId : String
  verifierKeyId : KeyId
  issuedAt : ℕ
  expiresAt : ℕ
  issuanceTrustSnapshotId : Digest
  deriving DecidableEq, Repr

/-- The nonce inputs of a lease issued after the event `prior`. -/
def VerificationLeaseV1.nonceInputs (l : VerificationLeaseV1) (prior : Digest) :
    LeaseNonceInputs where
  priorEventDigest := prior
  bindings := l.bindings
  verifierId := l.verifierId
  verifierKeyId := l.verifierKeyId
  issuedAt := l.issuedAt
  expiresAt := l.expiresAt
  issuanceTrustSnapshotId := l.issuanceTrustSnapshotId

/-- `TrustedVerifierKey`. -/
structure TrustedVerifierKey where
  verifierId : String
  publicKey : Digest
  roles : List String
  deriving DecidableEq, Repr

/-- `VerifierTrustStore`. -/
structure VerifierTrustStore where
  keys : List (KeyId × TrustedVerifierKey)
  revokedKeyIds : List KeyId
  revokedReceiptIds : List Digest
  revokedLeaseIds : List Digest
  deriving DecidableEq, Repr

/-- `keys.get(key_id)`. -/
def VerifierTrustStore.key (t : VerifierTrustStore) (k : KeyId) : Option TrustedVerifierKey :=
  t.keys.lookup k

/-- `VERIFIER_ROLE`. -/
def verifierRole : String := "modeled_fixture_verifier"

/-- `VerificationArtifactResolutionV1`. -/
structure VerificationArtifactResolutionV1 where
  resolutionId : Digest
  missionId : Digest
  authorityId : Digest
  targetSnapshotId : Digest
  candidateId : Digest
  verificationLeaseId : Digest
  pocArtifact : VerificationArtifactBindingV1
  environmentArtifact : VerificationArtifactBindingV1
  effectOracleArtifact : VerificationArtifactBindingV1
  evidenceArtifacts : List VerificationArtifactBindingV1
  targetArtifacts : List TargetArtifactBindingV1
  resolvedAt : ℕ
  deriving DecidableEq, Repr

/-- `typed_input_bytes`. -/
def VerificationArtifactResolutionV1.typedInputBytes (r : VerificationArtifactResolutionV1) : ℕ :=
  r.pocArtifact.size + r.environmentArtifact.size + r.effectOracleArtifact.size +
    (r.evidenceArtifacts.map VerificationArtifactBindingV1.size).sum

/-- `total_bytes`. -/
def VerificationArtifactResolutionV1.totalBytes (r : VerificationArtifactResolutionV1) : ℕ :=
  (r.targetArtifacts.map TargetArtifactBindingV1.size).sum + r.typedInputBytes

/-- `VERDICTS`. -/
inductive Verdict
  | confirmed
  | notReproduced
  | inconclusive
  | invalid
  deriving DecidableEq, Repr

/-- `VerifierReceiptV1`. -/
structure VerifierReceiptV1 where
  receiptId : Digest
  artifactResolutionId : Digest
  leaseId : Digest
  missionId : Digest
  authorityId : Digest
  targetSnapshotId : Digest
  candidateId : Digest
  candidateProducerId : String
  pocArtifactDigest : Digest
  evidenceArtifactDigests : List Digest
  environmentDigest : Digest
  effectOracleId : Digest
  executionOutputDigest : Digest
  executionOutputSize : ℕ
  effectOutputDigest : Digest
  effectOutputSize : ℕ
  measuredEnvironmentOutputDigest : Digest
  measuredEnvironmentOutputSize : ℕ
  terminationOutputDigest : Digest
  terminationOutputSize : ℕ
  verifierId : String
  verifierKeyId : KeyId
  evidenceTier : String
  verdict : Verdict
  effectObserved : Bool
  oracleSatisfied : Bool
  completedAt : ℕ
  deriving DecidableEq, Repr

/-- `SignedVerifierReceiptV1` : the receipt whose envelope bytes are signed, the key and
the signature. -/
structure SignedVerifierReceiptV1 where
  receipt : VerifierReceiptV1
  keyId : KeyId
  signature : Signature
  deriving DecidableEq, Repr

/-- `VerificationOutputArtifactsV1`. -/
structure VerificationOutputArtifactsV1 where
  executionOutputArtifact : VerificationArtifactBindingV1
  effectOutputArtifact : VerificationArtifactBindingV1
  measuredEnvironmentOutputArtifact : VerificationArtifactBindingV1
  terminationOutputArtifact : VerificationArtifactBindingV1
  deriving DecidableEq, Repr

/-- `total_bytes`. -/
def VerificationOutputArtifactsV1.totalBytes (o : VerificationOutputArtifactsV1) : ℕ :=
  o.executionOutputArtifact.size + o.effectOutputArtifact.size +
    o.measuredEnvironmentOutputArtifact.size + o.terminationOutputArtifact.size

end Etzio
