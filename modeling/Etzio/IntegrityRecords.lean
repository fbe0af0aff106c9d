import Etzio.Events

/-!
# Integrity records

The typed objects of the modeled integrity profile : the signed decision that
precedes an event, the signed head checkpoint that follows it, the external floors,
and the four recovery records a transition leaves behind (pending dossier, anchor
statement, checkpoint candidate, finalization). A checkpoint named as a predecessor
is a `CheckpointRef` : its identity with the provenance of its attestation, which a
genesis identity lacks.

The bindings a record's constructor enforces and the kernel relies on are fields of
the record, so a dossier whose decision names another event cannot be written.
`IntegrityPrimitives` collects hashing and Ed25519 verification.
-/

namespace Etzio

/-! ## Evidence -/

/-- `INTEGRITY_EVIDENCE_KINDS_V1`. -/
inductive EvidenceKind
  | trustedTime
  | revocationMetadata
  | headAnchorReceipt
  | externalFloor
  deriving DecidableEq, Repr

/-- The wire name of an evidence kind. -/
def EvidenceKind.text : EvidenceKind → String
  | .trustedTime => "trusted_time"
  | .revocationMetadata => "revocation_metadata"
  | .headAnchorReceipt => "head_anchor_receipt"
  | .externalFloor => "external_floor"

/-- `EvidenceReferenceV1`. -/
structure EvidenceReferenceV1 where
  evidenceKind : EvidenceKind
  sourceId : String
  evidenceId : Digest
  deriving DecidableEq, Repr

/-- `ProviderEvidenceBlobV1`. -/
structure ProviderEvidenceBlobV1 where
  evidenceKind : EvidenceKind
  sourceId : String
  evidenceId : Digest
  content : List UInt8
  deriving DecidableEq, Repr

/-- `ProviderEvidenceBlobV1.reference`. -/
def ProviderEvidenceBlobV1.reference (b : ProviderEvidenceBlobV1) : EvidenceReferenceV1 :=
  ⟨b.evidenceKind, b.sourceId, b.evidenceId⟩

/-- The canonical order of evidence : kind, source, identity. -/
def ProviderEvidenceBlobV1.Before (a b : ProviderEvidenceBlobV1) : Prop :=
  a.evidenceKind.text < b.evidenceKind.text ∨ a.evidenceKind = b.evidenceKind ∧
    (a.sourceId < b.sourceId ∨ a.sourceId = b.sourceId ∧ a.evidenceId < b.evidenceId)

instance (a b : ProviderEvidenceBlobV1) : Decidable (a.Before b) :=
  inferInstanceAs (Decidable (_ ∨ _))

/-- `_require_exact_evidence_coverage` : the blobs are exactly the referenced ones. -/
def evidenceCovers (references : List EvidenceReferenceV1)
    (blobs : List ProviderEvidenceBlobV1) : Prop :=
  (∀ r ∈ references, r ∈ blobs.map ProviderEvidenceBlobV1.reference) ∧
    ∀ r ∈ blobs.map ProviderEvidenceBlobV1.reference, r ∈ references

instance (references : List EvidenceReferenceV1) (blobs : List ProviderEvidenceBlobV1) :
    Decidable (evidenceCovers references blobs) :=
  inferInstanceAs (Decidable (_ ∧ _))

/-! ## Trust and policy -/

/-- `INTEGRITY_ROLES_V1`. -/
inductive IntegrityRole
  | integrityDecision
  | headCheckpoint
  deriving DecidableEq, Repr

/-- `TrustedIntegrityKey`. -/
structure TrustedIntegrityKey where
  principalId : String
  publicKey : BitVec 256
  role : IntegrityRole
  deriving DecidableEq, Repr

/-- `IntegrityTrustStore`, in the order of its canonical snapshot. -/
structure IntegrityTrustStore where
  keys : List (KeyId × TrustedIntegrityKey)
  revokedKeyIds : List KeyId
  deriving DecidableEq, Repr

/-- `trust_store.keys.get(key_id)`. -/
def IntegrityTrustStore.key (t : IntegrityTrustStore) (k : KeyId) : Option TrustedIntegrityKey :=
  t.keys.lookup k

/-- `IntegrityValidationPolicyV1`, with its namespaces in canonical order. -/
structure IntegrityValidationPolicyV1 where
  decisionPolicyId : Digest
  decisionTimePolicyId : Digest
  checkpointTimePolicyId : Digest
  anchorPolicyId : Digest
  requiredRevocationNamespaces : List String
  maxDecisionUncertaintySeconds : ℕ
  maxCheckpointUncertaintySeconds : ℕ
  deriving DecidableEq, Repr

/-- `ModeledIntegrityAuthorityBindingV1`. -/
structure ModeledIntegrityAuthorityBindingV1 where
  trustSnapshotId : Digest
  trustStore : IntegrityTrustStore
  decisionKeyId : KeyId
  decisionPrincipalId : String
  checkpointKeyId : KeyId
  checkpointPrincipalId : String
  deriving DecidableEq, Repr

/-! ## Decisions, checkpoints and floors -/

/-- A checkpoint named as a predecessor : its identity and the attestation, principal
and trust snapshot it was signed under. A genesis identity has none of the three. -/
structure CheckpointRef where
  checkpointId : Digest
  attestationId : Option Digest
  principalId : Option String
  trustSnapshotId : Option Digest
  deriving DecidableEq, Repr

/-- A predecessor that claims no attestation, as only a genesis does. -/
def CheckpointRef.Unattested (r : CheckpointRef) : Prop :=
  r.attestationId = none ∧ r.principalId = none ∧ r.trustSnapshotId = none

/-- `RevocationViewV1`. -/
structure RevocationViewV1 where
  revocationNamespace : String
  rootVersion : ℕ
  version : ℕ
  snapshotId : Digest
  evidence : EvidenceReferenceV1
  validFrom : ℕ
  validUntil : ℕ
  deriving DecidableEq, Repr

/-- `RevocationFloorV1`. -/
structure RevocationFloorV1 where
  serviceInstanceId : String
  environmentId : String
  decisionPolicyId : Digest
  revocationNamespace : String
  rootVersion : ℕ
  version : ℕ
  snapshotId : Digest
  evidence : List EvidenceReferenceV1
  deriving DecidableEq, Repr

/-- `IntegrityDecisionV1`. Sequence `-1` stands for the genesis of a chain. -/
structure IntegrityDecisionV1 where
  decisionId : Digest
  serviceInstanceId : String
  environmentId : String
  missionId : Digest
  authorityId : Digest
  targetId : Digest
  priorGlobalCheckpointSequence : ℤ
  priorGlobalCheckpoint : CheckpointRef
  priorEventSeq : ℤ
  priorEventDigest : Digest
  eventKind : String
  proposedEventDigest : Digest
  timeLowerBound : ℕ
  timeUpperBound : ℕ
  timePolicyId : Digest
  timeEvidence : List EvidenceReferenceV1
  revocationViews : List RevocationViewV1
  decisionPolicyId : Digest
  interval : timeLowerBound ≤ timeUpperBound
  namespaces : revocationViews.Pairwise fun v w => v.revocationNamespace < w.revocationNamespace
  deriving Repr

/-- The transition a decision is about. -/
def IntegrityDecisionV1.scope (d : IntegrityDecisionV1) :=
  (d.decisionId, d.serviceInstanceId, d.environmentId, d.missionId, d.authorityId, d.targetId)

/-- The position it extends. -/
def IntegrityDecisionV1.position (d : IntegrityDecisionV1) :=
  (d.priorGlobalCheckpointSequence, d.priorGlobalCheckpoint, d.priorEventSeq, d.priorEventDigest,
    d.eventKind, d.proposedEventDigest)

/-- The time and the revocation it was taken under. -/
def IntegrityDecisionV1.grounds (d : IntegrityDecisionV1) :=
  (d.timeLowerBound, d.timeUpperBound, d.timePolicyId, d.timeEvidence, d.revocationViews,
    d.decisionPolicyId)

/-- Decisions are compared by their data. -/
theorem IntegrityDecisionV1.eq_iff {a b : IntegrityDecisionV1} :
    (a.scope = b.scope ∧ a.position = b.position ∧ a.grounds = b.grounds) ↔ a = b := by
  cases a
  cases b
  simp only [scope, position, grounds, Prod.mk.injEq, mk.injEq]
  tauto

instance (a b : IntegrityDecisionV1) : Decidable (a.scope = b.scope) :=
  inferInstance

instance (a b : IntegrityDecisionV1) : Decidable (a.position = b.position) :=
  inferInstance

instance (a b : IntegrityDecisionV1) : Decidable (a.grounds = b.grounds) :=
  inferInstance

instance : DecidableEq IntegrityDecisionV1 := fun a b =>
  decidable_of_iff (a.scope = b.scope ∧ a.position = b.position ∧ a.grounds = b.grounds)
    IntegrityDecisionV1.eq_iff

/-- `SignedIntegrityDecisionV1`, with its envelope decoded. -/
structure SignedIntegrityDecisionV1 where
  decision : IntegrityDecisionV1
  keyId : KeyId
  signature : Signature
  deriving DecidableEq, Repr

/-- The statement an anchor registers before its receipt exists, the body of
`_anchor_registration_body`. -/
structure AnchorRegistration where
  serviceInstanceId : String
  environmentId : String
  instanceSequence : ℕ
  previousCheckpoint : CheckpointRef
  previousMissionCheckpoint : CheckpointRef
  missionId : Digest
  authorityId : Digest
  targetId : Digest
  eventSeq : ℕ
  eventDigest : Digest
  integrityDecisionId : Digest
  integrityDecisionAttestationId : Digest
  integrityDecisionPrincipalId : String
  integrityDecisionTrustSnapshotId : Digest
  timeLowerBound : ℕ
  timeUpperBound : ℕ
  timePolicyId : Digest
  timeEvidence : List EvidenceReferenceV1
  anchorPolicyId : Digest
  deriving DecidableEq, Repr

/-- `HeadCheckpointV1` : an anchored statement with its anchor evidence. -/
structure HeadCheckpointV1 extends AnchorRegistration where
  checkpointId : Digest
  anchorStatementId : Digest
  anchorEvidence : List EvidenceReferenceV1
  interval : timeLowerBound ≤ timeUpperBound
  globalProvenance : instanceSequence = 0 → previousCheckpoint.Unattested
  missionProvenance : eventSeq = 0 → previousMissionCheckpoint.Unattested
  deriving DecidableEq, Repr

/-- `SignedHeadCheckpointV1`, with its envelope decoded. -/
structure SignedHeadCheckpointV1 where
  checkpoint : HeadCheckpointV1
  keyId : KeyId
  signature : Signature
  deriving DecidableEq, Repr

/-- `HeadCheckpointFloorV1`. -/
structure HeadCheckpointFloorV1 where
  serviceInstanceId : String
  environmentId : String
  instanceSequence : ℤ
  checkpoint : CheckpointRef
  missionId : Digest
  missionEventSeq : ℤ
  missionCheckpoint : CheckpointRef
  evidence : List EvidenceReferenceV1
  deriving DecidableEq, Repr

/-! ## Recovery records -/

/-- `INTEGRITY_ACCEPTANCE_MODES_V1`. -/
inductive AcceptanceMode
  | modeledUnsigned
  | qualifiedSigned
  deriving DecidableEq, Repr

/-- The coordinates of a transition are the ones its decision proposes. -/
structure DecisionBinds (d : IntegrityDecisionV1) (policy : IntegrityValidationPolicyV1)
    (eventDigest missionId : Digest) (eventSeq instanceSequence : ℕ) : Prop where
  eventDigest : d.proposedEventDigest = eventDigest
  missionId : d.missionId = missionId
  eventSeq : d.priorEventSeq + 1 = eventSeq
  instanceSequence : d.priorGlobalCheckpointSequence + 1 = instanceSequence
  decisionPolicy : d.decisionPolicyId = policy.decisionPolicyId
  timePolicy : d.timePolicyId = policy.decisionTimePolicyId

/-- The prior head floor names the decision's predecessors. -/
structure HeadFloorMatches (f : HeadCheckpointFloorV1) (d : IntegrityDecisionV1) : Prop where
  serviceInstanceId : f.serviceInstanceId = d.serviceInstanceId
  environmentId : f.environmentId = d.environmentId
  missionId : f.missionId = d.missionId
  instanceSequence : f.instanceSequence = d.priorGlobalCheckpointSequence
  checkpoint : f.checkpoint = d.priorGlobalCheckpoint
  missionEventSeq : f.missionEventSeq = d.priorEventSeq

/-- Each external floor equals the decision's view of its namespace, and the two cover
the same namespaces. -/
def revocationFloorsMatch (floors : List RevocationFloorV1) (d : IntegrityDecisionV1) : Prop :=
  floors.map RevocationFloorV1.revocationNamespace =
      d.revocationViews.map RevocationViewV1.revocationNamespace ∧
    ∀ f ∈ floors, ∃ v ∈ d.revocationViews, v.revocationNamespace = f.revocationNamespace ∧
      f.serviceInstanceId = d.serviceInstanceId ∧ f.environmentId = d.environmentId ∧
      f.decisionPolicyId = d.decisionPolicyId ∧ f.rootVersion = v.rootVersion ∧
      f.version = v.version ∧ f.snapshotId = v.snapshotId

instance (floors : List RevocationFloorV1) (d : IntegrityDecisionV1) :
    Decidable (revocationFloorsMatch floors d) :=
  inferInstanceAs (Decidable (_ ∧ _))

/-- The references a pending dossier's evidence covers. -/
def pendingReferences (d : IntegrityDecisionV1) (floors : List RevocationFloorV1)
    (head : HeadCheckpointFloorV1) : List EvidenceReferenceV1 :=
  d.timeEvidence ++ d.revocationViews.map RevocationViewV1.evidence ++
    floors.flatMap RevocationFloorV1.evidence ++ head.evidence

/-- `PendingIntegrityTransitionV1` : the decision dossier committed with one event. -/
structure PendingIntegrityTransitionV1 where
  eventDigest : Digest
  missionId : Digest
  eventSeq : ℕ
  instanceSequence : ℕ
  signedDecision : SignedIntegrityDecisionV1
  decisionTrustStore : IntegrityTrustStore
  validationPolicy : IntegrityValidationPolicyV1
  revocationFloors : List RevocationFloorV1
  priorHeadFloor : HeadCheckpointFloorV1
  providerEvidence : List ProviderEvidenceBlobV1
  acceptanceMode : AcceptanceMode
  binds : DecisionBinds signedDecision.decision validationPolicy eventDigest missionId eventSeq
    instanceSequence
  floors : revocationFloorsMatch revocationFloors signedDecision.decision
  head : HeadFloorMatches priorHeadFloor signedDecision.decision
  covered : evidenceCovers
    (pendingReferences signedDecision.decision revocationFloors priorHeadFloor) providerEvidence
  deriving DecidableEq

/-- `pending.decision`. -/
def PendingIntegrityTransitionV1.decision (p : PendingIntegrityTransitionV1) :
    IntegrityDecisionV1 :=
  p.signedDecision.decision

/-- `AnchorStatementRecordV1`, with its registration request decoded. -/
structure AnchorStatementRecordV1 where
  pendingRecordId : Digest
  eventDigest : Digest
  previousMissionCheckpoint : CheckpointRef
  timeLowerBound : ℕ
  timeUpperBound : ℕ
  timePolicyId : Digest
  timeEvidence : List EvidenceReferenceV1
  anchorPolicyId : Digest
  anchorStatementId : Digest
  registrationRequest : AnchorRegistration
  providerEvidence : List ProviderEvidenceBlobV1
  acceptanceMode : AcceptanceMode
  covered : evidenceCovers timeEvidence providerEvidence
  deriving DecidableEq

/-- `CheckpointCandidateRecordV1`. -/
structure CheckpointCandidateRecordV1 where
  pendingRecordId : Digest
  anchorStatementRecordId : Digest
  eventDigest : Digest
  signedCheckpoint : SignedHeadCheckpointV1
  checkpointTrustStore : IntegrityTrustStore
  providerEvidence : List ProviderEvidenceBlobV1
  acceptanceMode : AcceptanceMode
  binds : signedCheckpoint.checkpoint.eventDigest = eventDigest
  covered : evidenceCovers signedCheckpoint.checkpoint.anchorEvidence providerEvidence
  deriving DecidableEq

/-- `candidate.checkpoint`. -/
def CheckpointCandidateRecordV1.checkpoint (c : CheckpointCandidateRecordV1) : HeadCheckpointV1 :=
  c.signedCheckpoint.checkpoint

/-- `FinalizedIntegrityTransitionV1`. -/
structure FinalizedIntegrityTransitionV1 where
  pendingRecordId : Digest
  checkpointCandidateRecordId : Digest
  eventDigest : Digest
  externalHeadFloor : HeadCheckpointFloorV1
  providerEvidence : List ProviderEvidenceBlobV1
  acceptanceMode : AcceptanceMode
  covered : evidenceCovers externalHeadFloor.evidence providerEvidence
  deriving DecidableEq

/-- `IntegrityLineageV1` : the records a transition has retained so far. -/
structure IntegrityLineageV1 where
  pending : PendingIntegrityTransitionV1
  anchorStatement : Option AnchorStatementRecordV1
  checkpointCandidate : Option CheckpointCandidateRecordV1
  finalization : Option FinalizedIntegrityTransitionV1
  deriving DecidableEq

/-- The phase a lineage has reached, or one an observation can name. -/
inductive LineagePhase
  | localPending
  | anchorStatementReady
  | checkpointCandidateRetained
  | finalized
  deriving DecidableEq, Repr

/-- `IntegrityLineageV1.phase`. -/
def IntegrityLineageV1.phase (l : IntegrityLineageV1) : LineagePhase :=
  if l.finalization.isSome then .finalized
  else if l.checkpointCandidate.isSome then .checkpointCandidateRetained
  else if l.anchorStatement.isSome then .anchorStatementReady
  else .localPending

/-- Hashing of canonical bytes and Ed25519 verification, as the integrity layer uses
them. The sizes are those of the records' canonical bytes. -/
structure IntegrityPrimitives where
  /-- `IntegrityTrustStore.snapshot_id`. -/
  trustSnapshotId : IntegrityTrustStore → Digest
  /-- `signed_integrity_decision_attestation_id`. -/
  decisionAttestationId : SignedIntegrityDecisionV1 → Digest
  /-- `signed_head_checkpoint_attestation_id`. -/
  checkpointAttestationId : SignedHeadCheckpointV1 → Digest
  /-- `head_checkpoint_genesis_id`. -/
  headCheckpointGenesisId : String → String → Digest
  /-- `mission_checkpoint_genesis_id`. -/
  missionCheckpointGenesisId : String → String → Digest → Digest
  /-- `content_id("head_anchor_statement", body)`. -/
  anchorStatementId : AnchorRegistration → Digest
  /-- `PendingIntegrityTransitionV1.record_id`. -/
  pendingRecordId : PendingIntegrityTransitionV1 → Digest
  /-- `AnchorStatementRecordV1.record_id`. -/
  anchorRecordId : AnchorStatementRecordV1 → Digest
  /-- `CheckpointCandidateRecordV1.record_id`. -/
  candidateRecordId : CheckpointCandidateRecordV1 → Digest
  /-- `FinalizedIntegrityTransitionV1.record_id`. -/
  finalizationRecordId : FinalizedIntegrityTransitionV1 → Digest
  /-- `ModeledIntegrityAuthorityBindingV1.binding_id`. -/
  authorityBindingId : ModeledIntegrityAuthorityBindingV1 → Digest
  /-- `hashlib.sha256(content)`. -/
  contentDigest : List UInt8 → Digest
  /-- Verification of a signed decision under a trusted key. -/
  decisionSignatureValid : TrustedIntegrityKey → SignedIntegrityDecisionV1 → Bool
  /-- Verification of a signed checkpoint under a trusted key. -/
  checkpointSignatureValid : TrustedIntegrityKey → SignedHeadCheckpointV1 → Bool
  pendingBytes : PendingIntegrityTransitionV1 → ℕ
  anchorBytes : AnchorStatementRecordV1 → ℕ
  candidateBytes : CheckpointCandidateRecordV1 → ℕ
  finalizationBytes : FinalizedIntegrityTransitionV1 → ℕ

variable (I : IntegrityPrimitives)

/-- `IntegrityLineageV1.phase_record_id`. -/
def IntegrityLineageV1.phaseRecordId (l : IntegrityLineageV1) : Digest :=
  match l.finalization, l.checkpointCandidate, l.anchorStatement with
  | some f, _, _ => I.finalizationRecordId f
  | none, some c, _ => I.candidateRecordId c
  | none, none, some a => I.anchorRecordId a
  | none, none, none => I.pendingRecordId l.pending

end Etzio
