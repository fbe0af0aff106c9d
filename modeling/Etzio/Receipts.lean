import Etzio.Events

/-!
# Receipt authentication

`authenticateVerifierReceipt` is the pure authentication of one signed verifier
receipt against its lease, the retained artifact resolution and a trust snapshot, at a
decision time. `authenticateVerifierReceipt_inv` reads off an accepted call what the
reducer relies on : the decision time lies in the lease window, and receipt, lease and
resolution name one another.
-/

open CheckedRun

namespace Etzio

/-- `VerificationError`. -/
structure VerificationError where
  reasonCode : String
  message : String
  deriving DecidableEq, Repr

/-- `MAX_EPOCH_SECOND`. -/
def maxEpochSecond : ℕ := 2 ^ 63 - 1

/-- `MODELED_FIXTURE_TIER`. -/
def modeledFixtureTier : String := "modeled_fixture"

/-- `MAX_TYPED_VERIFICATION_OUTPUT_BYTES_V1`. -/
def maxTypedVerificationOutputBytesV1 : ℕ := 64 * 1024 * 1024

/-- `AuthenticatedVerifierReceiptV1`. -/
structure AuthenticatedVerifierReceiptV1 where
  signedReceipt : SignedVerifierReceiptV1
  lease : VerificationLeaseV1
  artifactResolution : VerificationArtifactResolutionV1
  decisionTrustSnapshotId : Digest
  deriving DecidableEq, Repr

/-- The receipt that was authenticated. -/
def AuthenticatedVerifierReceiptV1.receipt (a : AuthenticatedVerifierReceiptV1) :
    VerifierReceiptV1 :=
  a.signedReceipt.receipt

/-- The first reason of a list of failed checks, in the source's order. -/
def firstReason : List (Bool × String) → Option String
  | [] => none
  | (failed, reason) :: rest => if failed then some reason else firstReason rest

/-- `_verdict_consistency_reason`. -/
def verdictConsistencyReason (v : Verdict) (effectObserved oracleSatisfied : Bool) :
    Option String :=
  match v with
  | .confirmed =>
    firstReason [(!effectObserved, "confirmed_without_effect"),
      (!oracleSatisfied, "confirmed_without_oracle")]
  | .notReproduced =>
    firstReason [(effectObserved || oracleSatisfied, "not_reproduced_with_positive_observation")]
  | .invalid =>
    firstReason [(effectObserved || oracleSatisfied, "invalid_with_positive_observation")]
  | .inconclusive =>
    firstReason [(effectObserved && oracleSatisfied, "inconclusive_with_confirmed_observation")]

/-- The typed input bindings of a resolution, each with its role, the digest the lease
gives it and its code-owned type. -/
def resolutionBindings (r : VerificationArtifactResolutionV1) (lease : VerificationLeaseV1) :
    List (String × VerificationArtifactBindingV1 × Digest × ArtifactType) :=
  ("poc", r.pocArtifact, lease.pocArtifactDigest, .modeledPocInput) ::
    ((r.evidenceArtifacts.zip lease.evidenceArtifactDigests).zipIdx.map fun x =>
      ("evidence_" ++ toString x.2, x.1.1, x.1.2, .modeledSupportingEvidenceInput)) ++
    [("environment", r.environmentArtifact, lease.environmentDigest, .modeledEnvironmentSpec),
      ("effect_oracle", r.effectOracleArtifact, lease.effectOracleId, .modeledEffectOracleSpec)]

/-- The three checks of one typed input binding. -/
def bindingReasons (x : String × VerificationArtifactBindingV1 × Digest × ArtifactType) :
    List (Bool × String) :=
  [(x.2.1.artifactDigest != x.2.2.1, "resolution_" ++ x.1 ++ "_digest_mismatch"),
    (x.2.1.artifactType != x.2.2.2, "resolution_" ++ x.1 ++ "_type_mismatch"),
    (x.2.1.size == 0, "resolution_" ++ x.1 ++ "_empty")]

/-- The output digests a receipt claims. -/
def VerifierReceiptV1.outputDigests (r : VerifierReceiptV1) : List Digest :=
  [r.executionOutputDigest, r.effectOutputDigest, r.measuredEnvironmentOutputDigest,
    r.terminationOutputDigest]

/-- `_artifact_resolution_binding_reason`. -/
def artifactResolutionBindingReason (r : VerificationArtifactResolutionV1)
    (lease : VerificationLeaseV1) (receipt : VerifierReceiptV1) (decisionTime : ℕ) :
    Option String :=
  firstReason
    ([(receipt.artifactResolutionId != r.resolutionId, "artifact_resolution_mismatch"),
      (r.verificationLeaseId != lease.leaseId, "resolution_lease_mismatch"),
      (r.missionId != lease.missionId, "resolution_mission_mismatch"),
      (r.authorityId != lease.authorityId, "resolution_authority_mismatch"),
      (r.targetSnapshotId != lease.targetSnapshotId, "resolution_target_mismatch"),
      (r.candidateId != lease.candidateId, "resolution_candidate_mismatch"),
      (decide (r.resolvedAt < lease.issuedAt), "resolution_before_lease"),
      (decide (r.resolvedAt ≥ lease.expiresAt), "resolution_after_expiry"),
      (decide (r.resolvedAt ≥ receipt.completedAt), "resolution_after_receipt"),
      (decide (r.resolvedAt > decisionTime), "resolution_from_future"),
      (r.evidenceArtifacts.length != lease.evidenceArtifactDigests.length,
        "resolution_evidence_artifacts_mismatch")] ++
    (resolutionBindings r lease).flatMap bindingReasons ++
    [(receipt.outputDigests.any fun d =>
        d ∈ r.targetArtifacts.map TargetArtifactBindingV1.artifactDigest ++
          (resolutionBindings r lease).map fun x => x.2.1.artifactDigest,
      "output_resolution_artifact_collision")])

/-- The field comparisons of receipt and lease, each with its reason and field name. -/
def receiptLeaseComparisons (r : VerifierReceiptV1) (l : VerificationLeaseV1) :
    List (Bool × String × String) :=
  [(r.leaseId != l.leaseId, "lease_mismatch", "lease_id"),
    (r.missionId != l.missionId, "mission_mismatch", "mission_id"),
    (r.authorityId != l.authorityId, "authority_mismatch", "authority_id"),
    (r.targetSnapshotId != l.targetSnapshotId, "target_mismatch", "target_snapshot_id"),
    (r.candidateId != l.candidateId, "candidate_mismatch", "candidate_id"),
    (r.candidateProducerId != l.candidateProducerId, "candidate_producer_mismatch",
      "candidate_producer_id"),
    (r.pocArtifactDigest != l.pocArtifactDigest, "poc_artifact_mismatch", "poc_artifact_digest"),
    (r.evidenceArtifactDigests != l.evidenceArtifactDigests, "evidence_artifacts_mismatch",
      "evidence_artifact_digests"),
    (r.environmentDigest != l.environmentDigest, "environment_mismatch", "environment_digest"),
    (r.effectOracleId != l.effectOracleId, "effect_oracle_mismatch", "effect_oracle_id"),
    (r.verifierId != l.verifierId, "verifier_mismatch", "verifier_id"),
    (r.verifierKeyId != l.verifierKeyId, "verifier_key_mismatch", "verifier_key_id")]

/-- Stop at the first differing field. -/
def compareReceiptWithLease : List (Bool × String × String) → Except VerificationError Unit
  | [] => .ok ()
  | (differs, reason, field) :: rest =>
    if differs then
      .error ⟨reason, "receipt " ++ field ++ " differs from the verification lease"⟩
    else compareReceiptWithLease rest

/-- Stop with a reason that a pure check returned. -/
def refuseReason (r : Option String) (message : String) : Except VerificationError Unit :=
  match r with
  | some reason => .error ⟨reason, message⟩
  | none => .ok ()

variable (P : Primitives)

/-- `AuthenticatedVerifierReceiptV1.__post_init__`. -/
def constructAuthenticated (a : AuthenticatedVerifierReceiptV1) :
    Except VerificationError AuthenticatedVerifierReceiptV1 := do
  refuseIf (a.signedReceipt.keyId ≠ a.receipt.verifierKeyId)
    (⟨"invalid_authenticated_receipt",
      "signed_receipt and receipt do not describe the same attested value"⟩ : VerificationError)
  refuseIf (artifactResolutionBindingReason a.artifactResolution a.lease a.receipt
      maxEpochSecond ≠ none)
    (⟨"invalid_authenticated_receipt",
      "receipt, lease, and artifact resolution are internally incoherent"⟩ : VerificationError)
  return a

/-- `authenticate_verifier_receipt`, on a parsed signed receipt and no expected
verdict, as the reducer calls it. -/
def authenticateVerifierReceipt (signed : SignedVerifierReceiptV1) (trust : VerifierTrustStore)
    (lease : VerificationLeaseV1) (resolution : VerificationArtifactResolutionV1)
    (decisionTime : ℕ) : Except VerificationError AuthenticatedVerifierReceiptV1 := do
  refuseIf (decisionTime > maxEpochSecond)
    (⟨"invalid_decision_time", "decision_time must be a nonnegative int64 epoch second"⟩ :
      VerificationError)
  refuseIf (lease.candidateProducerId = lease.verifierId)
    (⟨"self_verification", "candidate producer cannot verify its own candidate"⟩ :
      VerificationError)
  refuseIf (lease.leaseId ∈ trust.revokedLeaseIds)
    (⟨"lease_revoked", "verification lease is revoked"⟩ : VerificationError)
  refuseIf (decisionTime < lease.issuedAt)
    (⟨"lease_not_yet_valid", "verification lease is not yet valid"⟩ : VerificationError)
  refuseIf (decisionTime ≥ lease.expiresAt)
    (⟨"lease_expired", "verification lease is expired"⟩ : VerificationError)
  refuseIf (signed.keyId ∈ trust.revokedKeyIds)
    (⟨"key_revoked", "verifier key is revoked"⟩ : VerificationError)
  let trustedKey ← orRefuse (trust.key signed.keyId)
    (⟨"unknown_key", "verifier key is not trusted"⟩ : VerificationError)
  refuseIf (verifierRole ∉ trustedKey.roles)
    (⟨"key_missing_verifier_role", "verifier key lacks the required role"⟩ : VerificationError)
  refuseIf (P.receiptSignatureValid trustedKey signed = false)
    (⟨"invalid_signature", "verifier signature is invalid"⟩ : VerificationError)
  let receipt := signed.receipt
  refuseIf (receipt.receiptId ∈ trust.revokedReceiptIds)
    (⟨"receipt_revoked", "verifier receipt is revoked"⟩ : VerificationError)
  refuseIf (receipt.verifierKeyId ≠ signed.keyId)
    (⟨"signer_key_mismatch", "receipt verifier key differs from its attestation"⟩ :
      VerificationError)
  refuseIf (receipt.verifierId ≠ trustedKey.verifierId)
    (⟨"verifier_identity_mismatch", "receipt verifier identity differs from the trusted key"⟩ :
      VerificationError)
  compareReceiptWithLease (receiptLeaseComparisons receipt lease)
  refuseIf (receipt.completedAt < lease.issuedAt)
    (⟨"receipt_before_lease", "receipt completion precedes lease issuance"⟩ : VerificationError)
  refuseIf (receipt.completedAt ≥ lease.expiresAt)
    (⟨"receipt_after_expiry", "receipt completion is outside the lease window"⟩ :
      VerificationError)
  refuseIf (receipt.completedAt > decisionTime)
    (⟨"receipt_from_future", "receipt completion is later than decision time"⟩ :
      VerificationError)
  refuseIf (receipt.evidenceTier ≠ modeledFixtureTier)
    (⟨"unsupported_evidence_tier", "only modeled_fixture evidence is admitted"⟩ :
      VerificationError)
  refuseReason
    (verdictConsistencyReason receipt.verdict receipt.effectObserved receipt.oracleSatisfied)
    "receipt verdict and observations are inconsistent"
  refuseReason (artifactResolutionBindingReason resolution lease receipt decisionTime)
    "receipt does not bind the exact verification artifact resolution"
  constructAuthenticated
    { signedReceipt := signed, lease := lease, artifactResolution := resolution,
      decisionTrustSnapshotId := P.trustSnapshotId trust }

/-- `VerificationOutputArtifactsV1.__post_init__`. -/
def VerificationOutputArtifactsV1.construct (o : VerificationOutputArtifactsV1) :
    Except VerificationError VerificationOutputArtifactsV1 := do
  refuseIf (o.executionOutputArtifact.artifactType ≠ .modeledExecutionOutput ∨
      o.effectOutputArtifact.artifactType ≠ .modeledEffectOutput ∨
      o.measuredEnvironmentOutputArtifact.artifactType ≠ .modeledMeasuredEnvironmentOutput ∨
      o.terminationOutputArtifact.artifactType ≠ .modeledTerminationOutput)
    (⟨"invalid_verification_output_binding",
      "verification output binding has the wrong code-owned type"⟩ : VerificationError)
  refuseIf (¬[o.executionOutputArtifact.artifactDigest, o.effectOutputArtifact.artifactDigest,
      o.measuredEnvironmentOutputArtifact.artifactDigest,
      o.terminationOutputArtifact.artifactDigest].Nodup)
    (⟨"output_artifact_role_collision",
      "verification output roles must use distinct content identities"⟩ : VerificationError)
  refuseIf (o.totalBytes > maxTypedVerificationOutputBytesV1)
    (⟨"verification_output_byte_ceiling_exceeded",
      "verification outputs exceed the fixed aggregate byte ceiling"⟩ : VerificationError)
  return o

/-! ## What an authenticated receipt establishes -/

@[simp] theorem refuseReason_eq_ok {r : Option String} {m : String} {u : Unit} :
    refuseReason r m = .ok u ↔ r = none := by
  cases r <;> simp [refuseReason]

@[simp] theorem compareReceiptWithLease_eq_ok {l : List (Bool × String × String)} {u : Unit} :
    compareReceiptWithLease l = .ok u ↔ ∀ x ∈ l, x.1 = false := by
  induction l with
  | nil => simp [compareReceiptWithLease]
  | cons x l ih =>
    obtain ⟨differs, reason, field⟩ := x
    cases differs <;> simp [compareReceiptWithLease, ih]

/-- An authenticated receipt was decided inside its lease window, was completed by then,
and names its lease. -/
theorem authenticateVerifierReceipt_inv {signed : SignedVerifierReceiptV1}
    {trust : VerifierTrustStore} {lease : VerificationLeaseV1}
    {resolution : VerificationArtifactResolutionV1} {t : ℕ} {a : AuthenticatedVerifierReceiptV1}
    (h : authenticateVerifierReceipt P signed trust lease resolution t = .ok a) :
    lease.issuedAt ≤ t ∧ t < lease.expiresAt ∧ signed.receipt.leaseId = lease.leaseId ∧
      signed.receipt.candidateId = lease.candidateId ∧ signed.receipt.completedAt ≤ t ∧
      a.receipt = signed.receipt ∧ a.decisionTrustSnapshotId = P.trustSnapshotId trust := by
  simp only [authenticateVerifierReceipt, unit_bind_eq_ok, refuseIf_eq_ok, orRefuse_bind_eq_ok,
    compareReceiptWithLease_eq_ok, refuseReason_eq_ok, not_lt, ge_iff_le, not_le] at h
  obtain ⟨-, -, -, hissued, hexpires, -, key, -, -, -, -, -, -, hcompare, -, -, hcompleted, -,
    -, -, hconstruct⟩ := h
  simp only [receiptLeaseComparisons, List.forall_mem_cons, bne_eq_false_iff_eq] at hcompare
  obtain ⟨hlease, -, -, -, hcand, -⟩ := hcompare
  simp only [constructAuthenticated, unit_bind_eq_ok] at hconstruct
  obtain ⟨-, -, ha⟩ := hconstruct
  obtain rfl : _ = a := by simpa [pure, Except.pure] using ha
  exact ⟨hissued, hexpires, hlease, hcand, hcompleted, rfl, rfl⟩

end Etzio
