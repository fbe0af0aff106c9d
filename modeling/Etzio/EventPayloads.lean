import Etzio.MissionRecords
import Etzio.VerificationRecords

/-!
# Event payloads

`_validate_payload` : the author and the exact fields of each of the eighteen kinds, the envelopes a
payload retains and the records they decode to, and the agreement of those records with the
identities, the time and the predecessor of the event.
-/

open CheckedRun JsonText

namespace Etzio.Wire

variable (E : WireEnv)

/-! ## Constants -/

def receiptAdmissionProfileV1 : String := "modeled_fixture_receipt_admission_v1"

def verificationLeaseCancellationReasonV1 : String := "operator_cancelled"

def verificationLeaseReassignmentReasonsV1 : List String :=
  ["active_lease_superseded", "cancelled_lease_recovery", "expired_lease_recovery"]

def missionClosedStatusesV1 : List String :=
  ["completed", "receipt_coverage_complete", "receipt_coverage_incomplete"]

def eventUnitByKindV1 : List (String × String) :=
  [("authority_admitted", "AQUILA"), ("mission_admission_refused", "AQUILA"),
    ("mission_opened", "ETZIO"), ("analysis_lease_issued", "AQUILA"),
    ("verification_lease_issued", "AQUILA"), ("verification_lease_cancelled", "AQUILA"),
    ("verification_lease_expired", "ETZIO"), ("verification_lease_reassigned", "AQUILA"),
    ("verification_artifacts_resolved", "ETZIO"), ("verifier_receipt_admitted", "ETZIO"),
    ("candidate_recorded", "VELITES"), ("parse_failed", "VELITES"), ("scan_completed", "VELITES"),
    ("mission_closed", "ETZIO"), ("scan_failed", "ETZIO"), ("scan_timed_out", "ETZIO"),
    ("scan_cancelled", "AQUILA"), ("budget_exhausted", "AQUILA")]

def eventPayloadFieldsByKindV1 : List (String × List String) :=
  [("authority_admitted", ["admission", "grant", "key_id", "signature_b64"]),
    ("mission_admission_refused", ["reason_code", "stage"]),
    ("mission_opened", ["target_snapshot"]),
    ("analysis_lease_issued", ["lease"]),
    ("verification_lease_issued",
      ["lease", "verifier_trust_snapshot", "verifier_trust_snapshot_id"]),
    ("verification_lease_cancelled", ["reason_code", "verification_lease_id"]),
    ("verification_lease_expired", ["verification_lease_id"]),
    ("verification_lease_reassigned",
      ["lease", "predecessor_verification_lease_id", "reason_code", "verifier_trust_snapshot",
        "verifier_trust_snapshot_id"]),
    ("verification_artifacts_resolved", ["resolution"]),
    ("verifier_receipt_admitted",
      ["adjudication_profile", "decision_trust_snapshot", "decision_trust_snapshot_id",
        "effect_output_artifact", "execution_output_artifact",
        "measured_environment_output_artifact", "receipt", "termination_output_artifact"]),
    ("candidate_recorded", ["candidate"]),
    ("parse_failed", ["analysis_lease_id", "parse_failure", "source_artifact_digest"]),
    ("scan_completed",
      ["analyzer_version", "bytes_scanned", "candidate_count", "file_count",
        "parse_failure_count"]),
    ("mission_closed", ["candidate_count", "parse_failure_count", "status"]),
    ("scan_failed", ["reason_code"]),
    ("scan_timed_out", ["reason_code"]),
    ("scan_cancelled", ["reason_code"]),
    ("budget_exhausted", ["reason_code"])]

/-- `_PARSE_FAILURE_KEYS`. -/
def parseFailureKeys : List String := ["column", "line", "reason_code", "relative_path"]

/-! ## Field checks -/

/-- `_require_nonempty_text`. -/
def requireNonemptyText (name : String) (value : Json) : Except WireError String :=
  textOf value isNonblank (.event (name ++ " must be non-empty text without edge whitespace"))

/-- `_require_digest`. -/
def requireDigest (name : String) (value : Json) : Except WireError String :=
  textOf value isContentId (.event (name ++ " must be a full lowercase sha256 digest"))

/-- `_require_nonnegative_int`. -/
def requireNonnegativeInt (name : String) (value : Json) : Except WireError ℕ :=
  natOf value none (.event (name ++ " must be a non-negative integer"))

/-- `_require_exact_keys`. -/
def requireExactKeys (name : String) (value : Json) (expected : List String) :
    Except WireError Members := do
  let body ← orRefuse (members? value) (.event (name ++ " must be a JSON object"))
  let keys := body.map Prod.fst
  let missing := sortedTexts (expected.filter fun key => key ∉ keys)
  let extra := sortedTexts (keys.filter fun key => key ∉ expected)
  refuseIf (¬HasKeys body expected)
    (.event (name ++ " keys differ: missing=" ++ listText missing ++ ", extra=" ++ listText extra))
  return body

/-- `_require_nested_envelope`. -/
def requireNestedEnvelope (payload : Members) (field expectedKind : String) :
    Except WireError EnvelopeV1 := do
  let value ← payload.item field
  let value ← orRefuse (members? value) (.event (field ++ " must be a protocol envelope object"))
  let envelope ← catching WireError.isProtocol
    (fun exc => .event (field ++ " is not a valid canonical envelope: " ++ exc.text)) (do
      let bytes ← E.dumps (.obj value)
      E.fromBytes bytes)
  refuseIf (envelope.objectKind ≠ expectedKind)
    (.event (field ++ " must contain a " ++ expectedKind ++ " envelope"))
  refuseIf (envelope.attestations ≠ [])
    (.event (field ++ " envelope must not contain attestations"))
  return envelope

/-- `_require_signed_verifier_receipt`. -/
def requireSignedVerifierReceipt (payload : Members) :
    Except WireError (EnvelopeV1 × SignedVerifierReceiptV1) := do
  let value ← payload.item "receipt"
  let value ← orRefuse (members? value) (.event "receipt must be a protocol envelope object")
  let (canonical, signed, envelope) ← catching WireError.isValueError
    (fun exc => .event ("receipt is not a canonical exactly-one-attested verifier receipt: " ++
      exc.text)) (do
      let canonical ← E.dumps (.obj value)
      let signed ← SignedVerifierReceiptV1.fromBytes E canonical
      let envelope ← signed.toEnvelope E
      return (canonical, signed, envelope))
  let bytes ← E.toBytes envelope
  refuseIf (bytes ≠ canonical) (.event "receipt envelope is not canonical")
  return (envelope, signed)

/-- `_require_relative_path` of the event module. -/
def requireRelativePath (value : Json) : Except WireError String := do
  let text ← requireNonemptyText "relative_path" value
  refuseIf (isRelativePath text = false) (.event "relative_path must be normalized and relative")
  return text

/-! ## Payloads by kind -/

/-- The fields of an event that its payload is checked against. -/
structure EventContext where
  kind : String
  unit : String
  missionId : String
  authorityId : String
  targetId : String
  decisionTime : ℕ
  prevDigest : String

variable (c : EventContext) (payload : Members)

/-- `_validate_verification_lease_evidence`. -/
def validateVerificationLeaseEvidence : Except WireError Unit := do
  let leaseEnvelope ← requireNestedEnvelope E payload "lease" "verification_lease"
  let snapshotId ← payload.item "verifier_trust_snapshot_id"
  let snapshotId ← requireDigest "verifier_trust_snapshot_id" snapshotId
  let snapshot ← payload.item "verifier_trust_snapshot"
  let (lease, verifierTrust) ← catching WireError.isVerification
    (fun exc => .event (c.kind ++ " contains invalid verification evidence: " ++ exc.text)) (do
      let lease ← VerificationLeaseV1.fromEnvelope E leaseEnvelope
      let verifierTrust ← VerifierTrustStore.fromSnapshotBody E snapshot snapshotId
      return (lease, verifierTrust))
  refuseIf (lease.missionId ≠ c.missionId ∨ lease.authorityId ≠ c.authorityId ∨
      lease.targetSnapshotId ≠ c.targetId)
    (.event "verification lease does not match the event identities")
  refuseIf (lease.issuedAt ≠ c.decisionTime)
    (.event "verification lease issued_at must equal the event decision_time")
  refuseIf (lease.candidateProducerId = lease.verifierId)
    (.event "verification lease cannot assign the candidate producer")
  let trustedKey ← orRefuse (verifierTrust.key E lease.verifierKeyId)
    (.event "verification lease references an unknown verifier key")
  refuseIf (lease.verifierKeyId ∈ verifierTrust.revokedKeyIds)
    (.event "verification lease references a revoked verifier key")
  refuseIf (verifierRole ∉ trustedKey.roles)
    (.event "verification lease key lacks the modeled verifier role")
  refuseIf (trustedKey.verifierId ≠ lease.verifierId)
    (.event "verification lease verifier identity differs from its trusted key")
  refuseIf (lease.issuanceTrustSnapshotId ≠ snapshotId)
    (.event "verification lease does not bind its retained trust snapshot")
  let expectedNonce ← deriveVerificationLeaseNonce E c.prevDigest snapshotId lease
  refuseIf (lease.leaseNonce ≠ expectedNonce)
    (.event "verification lease nonce is not kernel-derived")

/-- `authority_admitted`. -/
def validateAuthorityAdmitted : Except WireError Unit := do
  let admissionEnvelope ← requireNestedEnvelope E payload "admission" "authority_admission"
  let grantEnvelope ← requireNestedEnvelope E payload "grant" "authority_grant"
  let (admission, grant, embedded) ← catching WireError.isAuthority
    (fun exc => .event ("authority_admitted contains invalid authority evidence: " ++ exc.text)) (do
      let admission ← AuthorityAdmissionV1.fromEnvelope E admissionEnvelope
      let grant ← AuthorityGrantV1.fromEnvelope E grantEnvelope
      let embedded ← SignedAuthorityGrantV1.fromBytes E admission.signedGrantBytes
      return (admission, grant, embedded))
  refuseIf (grant.grantId ≠ c.authorityId)
    (.event "authority grant object_id does not match event authority_id")
  refuseIf (admission.authorityId ≠ c.authorityId ∨ admission.targetSnapshotId ≠ c.targetId ∨
      admission.decisionTime ≠ c.decisionTime ∨ "static_analysis" ∉ admission.requiredActions ∨
      "static_analysis" ∉ grant.permittedActions)
    (.event "authority admission does not authorize this event and target")
  refuseIf (grant.targetSnapshotId ≠ c.targetId ∨ admission.grantExpiresAt ≠ grant.expiresAt)
    (.event "authority grant does not match the admission and event target")
  let keyId ← payload.item "key_id"
  let keyId ← requireNonemptyText "key_id" keyId
  refuseIf (isKeyId keyId = false) (.event "key_id must identify an Ed25519 public key")
  let signatureB64 ← payload.item "signature_b64"
  let signatureB64 ← requireNonemptyText "signature_b64" signatureB64
  let signature ← orRefuse (Base64.decode signatureB64.toList)
    (.event "signature_b64 must be canonical base64")
  refuseIf (signature.length ≠ 64 ∨ base64Text signature ≠ signatureB64)
    (.event "signature_b64 must encode one canonical Ed25519 signature")
  let grantBytes ← E.toBytes grantEnvelope
  refuseIf (admission.signerKeyId ≠ keyId ∨ embedded.keyId ≠ keyId ∨
      embedded.signatureB64 ≠ signatureB64 ∨ embedded.envelopeBytes ≠ grantBytes)
    (.event "authority event fields do not match the self-verifying admission")

/-- `mission_admission_refused`. -/
def validateMissionAdmissionRefused : Except WireError Unit := do
  let reasonCode ← payload.item "reason_code"
  let _ ← requireNonemptyText "reason_code" reasonCode
  let stage ← payload.item "stage"
  let known ← inSet stage ["admission", "preflight"]
  refuseIf (known = false)
    (.event "mission admission refusal stage must be admission or preflight")

/-- `mission_opened`. -/
def validateMissionOpened : Except WireError Unit := do
  let snapshot ← requireNestedEnvelope E payload "target_snapshot" "target_snapshot"
  let _ ← catching WireError.isEvidence
    (fun exc => .event ("mission_opened contains an invalid target snapshot: " ++ exc.text))
    (TargetSnapshotV1.fromEnvelope E snapshot)
  refuseIf (snapshot.objectId ≠ c.targetId)
    (.event "target snapshot object_id does not match event target_id")

/-- `analysis_lease_issued`. -/
def validateAnalysisLeaseIssued : Except WireError Unit := do
  let leaseEnvelope ← requireNestedEnvelope E payload "lease" "analysis_lease"
  let lease ← catching WireError.isMission
    (fun exc => .event ("analysis_lease_issued contains an invalid lease: " ++ exc.text))
    (AnalysisLeaseV1.fromEnvelope E leaseEnvelope)
  refuseIf (lease.missionId ≠ c.missionId ∨ lease.authorityId ≠ c.authorityId ∨
      lease.targetSnapshotId ≠ c.targetId)
    (.event "analysis lease does not match the event identities")
  refuseIf (lease.expiresAt > lease.issuedAt + lease.maxWallclockSeconds)
    (.event "analysis lease expiry exceeds its wallclock ceiling")

/-- `verification_lease_expired`. -/
def validateVerificationLeaseExpired : Except WireError Unit := do
  let leaseId ← payload.item "verification_lease_id"
  let _ ← requireDigest "verification_lease_id" leaseId
  return ()

/-- `verification_lease_cancelled`. -/
def validateVerificationLeaseCancelled : Except WireError Unit := do
  let leaseId ← payload.item "verification_lease_id"
  let _ ← requireDigest "verification_lease_id" leaseId
  let reasonCode ← payload.item "reason_code"
  let reasonCode ← requireNonemptyText "reason_code" reasonCode
  refuseIf (reasonCode ≠ verificationLeaseCancellationReasonV1)
    (.event "verification lease cancellation reason must be operator_cancelled")

/-- `verification_lease_reassigned`. -/
def validateVerificationLeaseReassigned : Except WireError Unit := do
  let predecessor ← payload.item "predecessor_verification_lease_id"
  let _ ← requireDigest "predecessor_verification_lease_id" predecessor
  let reasonCode ← payload.item "reason_code"
  let reasonCode ← requireNonemptyText "reason_code" reasonCode
  refuseIf (reasonCode ∉ verificationLeaseReassignmentReasonsV1)
    (.event "verification lease reassignment reason is unsupported")
  validateVerificationLeaseEvidence E c payload

/-- `verification_artifacts_resolved`. -/
def validateVerificationArtifactsResolved : Except WireError Unit := do
  let resolutionEnvelope ←
    requireNestedEnvelope E payload "resolution" "verification_artifact_resolution"
  let resolution ← catching WireError.isArtifact
    (fun exc => .event ("verification_artifacts_resolved contains an invalid resolution: " ++
      exc.text)) (VerificationArtifactResolutionV1.fromEnvelope E resolutionEnvelope)
  refuseIf (resolution.missionId ≠ c.missionId ∨ resolution.authorityId ≠ c.authorityId ∨
      resolution.targetSnapshotId ≠ c.targetId)
    (.event "artifact resolution does not match the event identities")
  refuseIf (resolution.resolvedAt ≠ c.decisionTime)
    (.event "artifact resolution resolved_at must equal the event decision_time")

/-- The output bindings of a receipt admission, with what the receipt says of them. -/
def expectedOutputs (o : VerificationOutputArtifactsV1) (r : VerifierReceiptV1) :
    List (VerificationArtifactBindingV1 × String × ℕ × String) :=
  [(o.executionOutputArtifact, r.executionOutputDigest, r.executionOutputSize,
      artifactTypeOf "execution_output"),
    (o.effectOutputArtifact, r.effectOutputDigest, r.effectOutputSize,
      artifactTypeOf "effect_output"),
    (o.measuredEnvironmentOutputArtifact, r.measuredEnvironmentOutputDigest,
      r.measuredEnvironmentOutputSize, artifactTypeOf "measured_environment_output"),
    (o.terminationOutputArtifact, r.terminationOutputDigest, r.terminationOutputSize,
      artifactTypeOf "termination_output")]

/-- The output bindings of the payload of a receipt admission. -/
def outputArtifactsOf : Except WireError VerificationOutputArtifactsV1 := do
  let execution ← payload.item "execution_output_artifact"
  let executionOutputArtifact ← VerificationArtifactBindingV1.fromDict execution
  let effect ← payload.item "effect_output_artifact"
  let effectOutputArtifact ← VerificationArtifactBindingV1.fromDict effect
  let measured ← payload.item "measured_environment_output_artifact"
  let measuredEnvironmentOutputArtifact ← VerificationArtifactBindingV1.fromDict measured
  let termination ← payload.item "termination_output_artifact"
  let terminationOutputArtifact ← VerificationArtifactBindingV1.fromDict termination
  let outputs : VerificationOutputArtifactsV1 :=
    { executionOutputArtifact, effectOutputArtifact, measuredEnvironmentOutputArtifact,
      terminationOutputArtifact }
  outputs.postInit
  return outputs

/-- `verifier_receipt_admitted`. -/
def validateVerifierReceiptAdmitted : Except WireError Unit := do
  let profile ← payload.item "adjudication_profile"
  refuseIf (profile ≠ .str receiptAdmissionProfileV1)
    (.event "verifier receipt admission uses an unsupported adjudication profile")
  let snapshotId ← payload.item "decision_trust_snapshot_id"
  let snapshotId ← requireDigest "decision_trust_snapshot_id" snapshotId
  let snapshot ← payload.item "decision_trust_snapshot"
  let (trustStore, receiptEnvelope, receipt, outputArtifacts) ←
    catching (fun exc => exc.isVerification || exc.isArtifact || exc.isProtocol)
    (fun exc => .event ("verifier_receipt_admitted contains invalid decision evidence: " ++
      exc.text)) (do
      let trustStore ← VerifierTrustStore.fromSnapshotBody E snapshot snapshotId
      let (receiptEnvelope, signed) ← requireSignedVerifierReceipt E payload
      let unattested ← E.fromBytes signed.envelopeBytes
      let receipt ← VerifierReceiptV1.fromEnvelope E unattested
      let outputArtifacts ← outputArtifactsOf payload
      return (trustStore, receiptEnvelope, receipt, outputArtifacts))
  let storeId ← trustStore.snapshotId E
  refuseIf (receiptEnvelope.objectId ≠ receipt.receiptId ∨ receipt.missionId ≠ c.missionId ∨
      receipt.authorityId ≠ c.authorityId ∨ receipt.targetSnapshotId ≠ c.targetId ∨
      receipt.completedAt > c.decisionTime ∨ storeId ≠ snapshotId)
    (.event "verifier receipt admission differs from the event identities or time")
  refuseIf (∃ output ∈ expectedOutputs outputArtifacts receipt,
      output.1.artifactDigest ≠ output.2.1 ∨ output.1.size ≠ output.2.2.1 ∨
        output.1.artifactType ≠ output.2.2.2)
    (.event "verifier receipt admission output bindings differ from the signed receipt")

/-- `candidate_recorded`. -/
def validateCandidateRecorded : Except WireError Unit := do
  let candidateEnvelope ← requireNestedEnvelope E payload "candidate" "candidate"
  let candidate ← catching WireError.isMission
    (fun exc => .event ("candidate_recorded contains an invalid candidate: " ++ exc.text))
    (StaticCandidateV1.fromEnvelope E candidateEnvelope)
  refuseIf (candidate.missionId ≠ c.missionId ∨ candidate.authorityId ≠ c.authorityId ∨
      candidate.targetSnapshotId ≠ c.targetId)
    (.event "candidate does not match the event identities")

/-- `parse_failed`. -/
def validateParseFailed : Except WireError Unit := do
  let leaseId ← payload.item "analysis_lease_id"
  let _ ← requireDigest "analysis_lease_id" leaseId
  let source ← payload.item "source_artifact_digest"
  let _ ← requireDigest "source_artifact_digest" source
  let failure ← payload.item "parse_failure"
  let failure ← requireExactKeys "parse_failure" failure parseFailureKeys
  let line ← failure.item "line"
  let _ ← requireNonnegativeInt "parse_failure.line" line
  let column ← failure.item "column"
  let _ ← requireNonnegativeInt "parse_failure.column" column
  let reasonCode ← failure.item "reason_code"
  let _ ← requireNonemptyText "parse_failure.reason_code" reasonCode
  let path ← failure.item "relative_path"
  let _ ← requireRelativePath path
  return ()

/-- A count of a payload. -/
def payloadCount (field : String) : Except WireError Unit := do
  let value ← payload.item field
  let _ ← requireNonnegativeInt field value
  return ()

/-- `scan_completed`. -/
def validateScanCompleted : Except WireError Unit := do
  let version ← payload.item "analyzer_version"
  let _ ← requireNonemptyText "analyzer_version" version
  ["bytes_scanned", "candidate_count", "file_count", "parse_failure_count"].forM
    (payloadCount payload)

/-- `mission_closed`. -/
def validateMissionClosed : Except WireError Unit := do
  ["candidate_count", "parse_failure_count"].forM (payloadCount payload)
  let status ← payload.item "status"
  let status ← requireNonemptyText "status" status
  refuseIf (status ∉ missionClosedStatusesV1) (.event "mission_closed status is unsupported")

/-- The terminal interruption events. -/
def validateInterruption : Except WireError Unit := do
  let reasonCode ← payload.item "reason_code"
  let _ ← requireNonemptyText "reason_code" reasonCode
  return ()

/-- `_validate_payload`. -/
def validatePayload : Except WireError Unit := do
  let expectedUnit ← orRefuse (eventUnitByKindV1.lookup c.kind)
    (.event ("unsupported event kind: '" ++ c.kind ++ "'"))
  refuseIf (c.unit ≠ expectedUnit)
    (.event (c.kind ++ " events must be authored by " ++ expectedUnit))
  let fields ← orRefuse (eventPayloadFieldsByKindV1.lookup c.kind) (.typeError c.kind)
  let payload ← requireExactKeys (c.kind ++ " payload") (.obj payload) fields
  match c.kind with
  | "authority_admitted" => validateAuthorityAdmitted E c payload
  | "mission_admission_refused" => validateMissionAdmissionRefused payload
  | "mission_opened" => validateMissionOpened E c payload
  | "analysis_lease_issued" => validateAnalysisLeaseIssued E c payload
  | "verification_lease_expired" => validateVerificationLeaseExpired payload
  | "verification_lease_cancelled" => validateVerificationLeaseCancelled payload
  | "verification_lease_reassigned" => validateVerificationLeaseReassigned E c payload
  | "verification_lease_issued" => validateVerificationLeaseEvidence E c payload
  | "verification_artifacts_resolved" => validateVerificationArtifactsResolved E c payload
  | "verifier_receipt_admitted" => validateVerifierReceiptAdmitted E c payload
  | "candidate_recorded" => validateCandidateRecorded E c payload
  | "parse_failed" => validateParseFailed payload
  | "scan_completed" => validateScanCompleted payload
  | "mission_closed" => validateMissionClosed payload
  | _ => validateInterruption payload

end Etzio.Wire
