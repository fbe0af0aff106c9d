import Etzio.WireRecords

/-!
# Mission records

The target snapshots, the analysis leases and the static candidates that an event retains, as they
are decoded from their envelopes.
-/

open CheckedRun JsonText

namespace Etzio.Wire

variable (E : WireEnv)

/-! ## Target snapshots -/

def maxSnapshotBytesHardCeiling : ℕ := 64 * 1024 * 1024

def maxSnapshotFilesHardCeiling : ℕ := 256

/-- `_REPOSITORY_FIXTURE_SOURCE`. -/
def repositoryFixtureSource : String := "repository_fixture"

/-- `SnapshotFileV1`. -/
structure SnapshotFileV1 where
  relativePath : String
  artifactDigest : String
  size : ℕ

/-- `SnapshotFileV1.to_dict`. -/
def SnapshotFileV1.toDict (file : SnapshotFileV1) : Json :=
  .obj [("artifact_digest", .str file.artifactDigest), ("relative_path", .str file.relativePath),
    ("size", .int file.size)]

/-- `_validate_relative_path` of the evidence module. -/
def validateSnapshotPath (value : Json) : Except WireError String := do
  let nonempty : WireError := .evidence "snapshot path must be a nonempty string"
  let text ← textOf value (· ≠ "") nonempty
  refuseIf (E.nfc text = false) (.evidence "snapshot path must be NFC-normalized")
  let normalized : WireError := .evidence "snapshot path must be normalized and relative"
  refuseIf (text = "." ∨ isAbsolute text = true ∨ ".." ∈ pathParts text) normalized
  refuseIf (asPosix text ≠ text) normalized
  refuseIf ('\\' ∈ text.toList ∨ '\x00' ∈ text.toList)
    (.evidence "snapshot path contains a forbidden character")
  return text

/-- `SnapshotFileV1.__post_init__`. -/
def SnapshotFileV1.new (relativePath artifactDigest size : Json) :
    Except WireError SnapshotFileV1 := do
  let relativePath ← validateSnapshotPath E relativePath
  let artifactDigest ← textOf artifactDigest isContentId
    (.evidence "invalid snapshot artifact digest")
  let size ← natOf size none (.evidence "snapshot file size must be nonnegative")
  return ⟨relativePath, artifactDigest, size⟩

/-- `TargetSnapshotV1`. -/
structure TargetSnapshotV1 where
  source : String
  files : List SnapshotFileV1
  objectId : String

/-- `to_body_dict`. -/
def TargetSnapshotV1.body (t : TargetSnapshotV1) : Json :=
  .obj [("files", .arr (t.files.map SnapshotFileV1.toDict)), ("source", .str t.source)]

/-- `TargetSnapshotV1.__post_init__`. -/
def TargetSnapshotV1.new (source : Json) (files : List SnapshotFileV1) (objectId : String) :
    Except WireError TargetSnapshotV1 := do
  refuseIf (source ≠ .str repositoryFixtureSource)
    (.evidence "protocol-v1 snapshots must use the repository_fixture source")
  refuseIf (files.isEmpty = true) (.evidence "target snapshot files must be a nonempty tuple")
  refuseIf (files.length > maxSnapshotFilesHardCeiling)
    (.evidence "target snapshot exceeds the hard file-count ceiling")
  refuseIf ((files.map SnapshotFileV1.size).sum > maxSnapshotBytesHardCeiling)
    (.evidence "target snapshot exceeds the hard aggregate-byte ceiling")
  let paths := files.map SnapshotFileV1.relativePath
  refuseIf (paths ≠ sortedTexts paths)
    (.evidence "target snapshot files must use canonical path order")
  refuseIf (¬paths.Nodup) (.evidence "target snapshot paths must be unique")
  let snapshot : TargetSnapshotV1 := ⟨repositoryFixtureSource, files, objectId⟩
  let id ← E.contentId "target_snapshot" snapshot.body
  refuseIf (objectId ≠ id) (.evidence "target snapshot object ID does not match its content")
  return snapshot

/-- A file entry of `TargetSnapshotV1.from_envelope`. -/
def snapshotEntry (rawFile : Json) : Except WireError SnapshotFileV1 := do
  let rawFile ← recordOf rawFile ["artifact_digest", "relative_path", "size"]
    (.evidence "target snapshot contains an invalid file entry")
  let relativePath ← rawFile.item "relative_path"
  let artifactDigest ← rawFile.item "artifact_digest"
  let size ← rawFile.item "size"
  SnapshotFileV1.new E relativePath artifactDigest size

/-- `TargetSnapshotV1.from_envelope`. -/
def TargetSnapshotV1.fromEnvelope (envelope : EnvelopeV1) : Except WireError TargetSnapshotV1 := do
  refuseIf (envelope.objectKind ≠ "target_snapshot" ∨ envelope.attestations ≠ [])
    (.evidence "expected an unattested target_snapshot envelope")
  let body ← E.thawBody envelope
  let body ← recordOf body ["files", "source"]
    (.evidence "target snapshot envelope has missing or unknown fields")
  let rawFiles ← body.item "files"
  let rawFiles ← arrayOf rawFiles (.evidence "target snapshot files must be an array")
  let entries ← rawFiles.mapM (snapshotEntry E)
  let source ← body.item "source"
  TargetSnapshotV1.new E source entries envelope.objectId

/-! ## Field checks of a mission -/

/-- `_require_digest`. -/
def missionDigest (body : Members) (field : String) : Except WireError String := do
  let value ← body.item field
  textOf value isContentId (.mission (field ++ " must be a full sha256 identifier"))

/-- `_require_text`. -/
def missionText (body : Members) (field : String) : Except WireError String := do
  let value ← body.item field
  textOf value isNonblank (.mission (field ++ " must be a nonblank canonical string"))

/-- `_require_nonnegative_int`. -/
def missionNat (body : Members) (field : String) : Except WireError ℕ := do
  let value ← body.item field
  natOf value none (.mission (field ++ " must be a nonnegative integer"))

/-- `_require_relative_path`. -/
def missionPath (body : Members) : Except WireError String := do
  let text ← missionText body "relative_path"
  refuseIf (isRelativePath text = false) (.mission "relative_path must be normalized and relative")
  return text

/-! ## Analysis leases -/

/-- `AnalysisLeaseV1`. -/
structure AnalysisLeaseV1 where
  leaseId : String
  missionId : String
  authorityId : String
  targetSnapshotId : String
  workerIdentity : String
  action : String
  issuedAt : ℕ
  expiresAt : ℕ
  maxBytes : ℕ
  maxCandidates : ℕ
  maxWallclockSeconds : ℕ
  leaseNonce : String

/-- `_LEASE_FIELDS` of an analysis lease. -/
def analysisLeaseFields : List String :=
  ["action", "authority_id", "expires_at", "issued_at", "lease_nonce", "max_bytes",
    "max_candidates", "max_wallclock_seconds", "mission_id", "target_snapshot_id",
    "worker_identity"]

/-- `AnalysisLeaseV1._body`. -/
def AnalysisLeaseV1.body (l : AnalysisLeaseV1) : Json :=
  .obj [("action", .str l.action), ("authority_id", .str l.authorityId),
    ("expires_at", .int l.expiresAt), ("issued_at", .int l.issuedAt),
    ("lease_nonce", .str l.leaseNonce), ("max_bytes", .int l.maxBytes),
    ("max_candidates", .int l.maxCandidates),
    ("max_wallclock_seconds", .int l.maxWallclockSeconds), ("mission_id", .str l.missionId),
    ("target_snapshot_id", .str l.targetSnapshotId), ("worker_identity", .str l.workerIdentity)]

/-- A positive ceiling of a lease. -/
def missionPositive (body : Members) (field : String) : Except WireError ℕ := do
  let n ← missionNat body field
  refuseIf (n = 0) (.mission (field ++ " must be positive for an issued analysis lease"))
  return n

/-- `_validate_lease_body`, and the lease that has the values. -/
def validateAnalysisLeaseBody (leaseId : String) (body : Members) :
    Except WireError AnalysisLeaseV1 := do
  refuseIf (¬HasKeys body analysisLeaseFields)
    (.mission "analysis lease has missing or unknown fields")
  let missionId ← missionDigest body "mission_id"
  let authorityId ← missionDigest body "authority_id"
  let targetSnapshotId ← missionDigest body "target_snapshot_id"
  let workerIdentity ← body.item "worker_identity"
  let action ← body.item "action"
  refuseIf (workerIdentity ≠ .str "VELITES" ∨ action ≠ .str "static_analysis")
    (.mission "foundation analysis leases are VELITES static_analysis only")
  let issuedAt ← missionNat body "issued_at"
  let expiresAt ← missionNat body "expires_at"
  refuseIf (issuedAt ≥ expiresAt)
    (.mission "analysis lease must have a nonempty half-open validity window")
  let maxBytes ← missionPositive body "max_bytes"
  let maxCandidates ← missionPositive body "max_candidates"
  let maxWallclockSeconds ← missionPositive body "max_wallclock_seconds"
  let nonce ← body.item "lease_nonce"
  let leaseNonce ← textOf nonce isNonce
    (.mission "lease_nonce must contain exactly 128 bits of lowercase hex")
  return { leaseId, missionId, authorityId, targetSnapshotId, workerIdentity := "VELITES",
           action := "static_analysis", issuedAt, expiresAt, maxBytes, maxCandidates,
           maxWallclockSeconds, leaseNonce }

/-- `AnalysisLeaseV1.from_envelope`. -/
def AnalysisLeaseV1.fromEnvelope (envelope : EnvelopeV1) : Except WireError AnalysisLeaseV1 := do
  refuseIf (envelope.objectKind ≠ "analysis_lease" ∨ envelope.attestations ≠ [])
    (.mission "expected an unattested analysis_lease envelope")
  let body ← E.thawBody envelope
  let body ← recordOf body analysisLeaseFields
    (.mission "analysis lease has missing or unknown fields")
  let lease ← validateAnalysisLeaseBody envelope.objectId body
  refuseIf (isContentId lease.leaseId = false)
    (.mission "lease_id must be a full sha256 identifier")
  let canonical ← E.create "analysis_lease" lease.body
  refuseIf (canonical.objectId ≠ lease.leaseId)
    (.mission "lease_id does not match the canonical lease body")
  return lease

/-! ## Static candidates -/

/-- `PYTHON_SAST_VERSION`. -/
def pythonSastVersion : String := "python_ast.v1"

/-- `_SEVERITIES`. -/
def severities : List String := ["low", "medium", "high", "critical"]

/-- `StaticCandidateV1`. -/
structure StaticCandidateV1 where
  candidateId : String
  claimId : String
  missionId : String
  authorityId : String
  analysisLeaseId : String
  targetSnapshotId : String
  sourceArtifactDigest : String
  relativePath : String
  analyzerVersion : String
  ruleId : String
  severity : String
  line : ℕ
  column : ℕ
  symbol : String
  producerIdentity : String

/-- `_CANDIDATE_FIELDS`. -/
def candidateFields : List String :=
  ["analysis_lease_id", "analyzer_version", "authority_id", "claim_id", "column", "line",
    "mission_id", "producer_identity", "relative_path", "rule_id", "severity",
    "source_artifact_digest", "symbol", "target_snapshot_id"]

/-- `StaticCandidateV1._body`. -/
def StaticCandidateV1.body (c : StaticCandidateV1) : Json :=
  .obj [("analysis_lease_id", .str c.analysisLeaseId),
    ("analyzer_version", .str c.analyzerVersion), ("authority_id", .str c.authorityId),
    ("claim_id", .str c.claimId), ("column", .int c.column), ("line", .int c.line),
    ("mission_id", .str c.missionId), ("producer_identity", .str c.producerIdentity),
    ("relative_path", .str c.relativePath), ("rule_id", .str c.ruleId),
    ("severity", .str c.severity), ("source_artifact_digest", .str c.sourceArtifactDigest),
    ("symbol", .str c.symbol), ("target_snapshot_id", .str c.targetSnapshotId)]

/-- `_claim_id`. -/
def staticClaimId (c : StaticCandidateV1) : Except WireError String :=
  E.contentId "static_claim" (.obj
    [("analyzer_version", .str c.analyzerVersion), ("column", .int c.column), ("line", .int c.line),
      ("relative_path", .str c.relativePath), ("rule_id", .str c.ruleId),
      ("source_artifact_digest", .str c.sourceArtifactDigest), ("symbol", .str c.symbol),
      ("target_snapshot_id", .str c.targetSnapshotId)])

/-- `_validate_candidate_body`, and the candidate that has the values. -/
def validateCandidateBody (candidateId : String) (body : Members) :
    Except WireError StaticCandidateV1 := do
  refuseIf (¬HasKeys body candidateFields) (.mission "candidate has missing or unknown fields")
  let analysisLeaseId ← missionDigest body "analysis_lease_id"
  let authorityId ← missionDigest body "authority_id"
  let claimId ← missionDigest body "claim_id"
  let missionId ← missionDigest body "mission_id"
  let sourceArtifactDigest ← missionDigest body "source_artifact_digest"
  let targetSnapshotId ← missionDigest body "target_snapshot_id"
  let producerIdentity ← body.item "producer_identity"
  refuseIf (producerIdentity ≠ .str "VELITES")
    (.mission "static candidate producer must be VELITES")
  let analyzerVersion ← body.item "analyzer_version"
  refuseIf (analyzerVersion ≠ .str pythonSastVersion)
    (.mission "unsupported Python analyzer version")
  let relativePath ← missionPath body
  let ruleId ← missionText body "rule_id"
  let symbol ← missionText body "symbol"
  let severity ← body.item "severity"
  let known ← inSet severity severities
  refuseIf (known = false) (.mission "unsupported candidate severity")
  let severity ← orRefuse (str? severity) (.mission "unsupported candidate severity")
  let line ← missionNat body "line"
  refuseIf (line = 0) (.mission "candidate line must be positive")
  let column ← missionNat body "column"
  return { candidateId, claimId, missionId, authorityId, analysisLeaseId, targetSnapshotId,
           sourceArtifactDigest, relativePath, analyzerVersion := pythonSastVersion, ruleId,
           severity, line, column, symbol, producerIdentity := "VELITES" }

/-- `StaticCandidateV1.from_envelope`. -/
def StaticCandidateV1.fromEnvelope (envelope : EnvelopeV1) :
    Except WireError StaticCandidateV1 := do
  refuseIf (envelope.objectKind ≠ "candidate" ∨ envelope.attestations ≠ [])
    (.mission "expected an unattested candidate envelope")
  let body ← E.thawBody envelope
  let body ← recordOf body candidateFields (.mission "candidate has missing or unknown fields")
  let candidate ← validateCandidateBody envelope.objectId body
  refuseIf (isContentId candidate.candidateId = false)
    (.mission "candidate_id must be a full sha256 identifier")
  let expectedClaim ← staticClaimId E candidate
  refuseIf (candidate.claimId ≠ expectedClaim)
    (.mission "claim_id does not match the static claim")
  let canonical ← E.create "candidate" candidate.body
  refuseIf (canonical.objectId ≠ candidate.candidateId)
    (.mission "candidate_id does not match the canonical candidate body")
  return candidate

end Etzio.Wire
