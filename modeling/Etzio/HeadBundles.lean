import Etzio.HeadRecords
import Etzio.TimeBundles

/-!
# Head bundles

The qualification of the anchors of a transition and of the catalog with its monitors, each against
a time that is authenticated again. An anchor proves that it includes the registration leaf ; the
catalog proves that its log extends the retained one and that the last leaf is its projected head,
and every monitor says that it saw the same log. `qualifyAnchorBundle_spec` and
`qualifyHeadCatalogBundle_spec` list what a bundle passed, and
`reauthenticateHeadCatalogBundle_again` rebuilds a catalog bundle from its own packages.
-/

open CheckedRun JsonText

namespace Etzio

variable {E : AdapterEnv}

/-! ## Shared helpers -/

/-- `_exact_source_mapping` of the head-authority adapters. -/
def exactHeadSourceMapping {α : Type} (expected : List String) (label : String)
    (m : SourceMap α) : Except AdapterError Unit :=
  refuseIf (¬((∀ key ∈ m.keys, key ∈ expected) ∧ ∀ key ∈ expected, key ∈ m.keys))
    ⟨"head_source_set_mismatch", label ++ " must contain exactly the retained source roster"⟩

/-- `_require_fresh_head`. -/
def requireFreshHead (observedAt : ℕ) (time : SealedTimeBundleV1) (maxStaleness : ℕ)
    (name : String) : Except AdapterError Unit := do
  refuseIf (observedAt > time.timeLowerBound)
    ⟨"head_publication_not_established",
      name ++ " is not established before the complete qualified time hull"⟩
  refuseIf (time.timeUpperBound - observedAt > maxStaleness)
    ⟨"head_evidence_stale", name ++ " exceeds the exact retained head-staleness ceiling"⟩

/-- A request binds a time and the transition that the time is about. -/
def HeadRequestScope.BindsTime (E : AdapterEnv) (scope : HeadRequestScope)
    (time : SealedTimeBundleV1) : Prop :=
  scope.timeBundleId = time.bundleId E ∧ scope.timeLowerBound = time.timeLowerBound ∧
    scope.timeUpperBound = time.timeUpperBound ∧ scope.timeEvidence = time.evidence ∧
    scope.serviceInstanceId = time.serviceInstanceId ∧
    scope.environmentId = time.environmentId ∧ scope.missionId = time.missionId ∧
    scope.authorityId = time.authorityId ∧ scope.targetId = time.targetId ∧
    scope.eventDigest = time.eventDigest ∧ scope.transitionIntentId = time.transitionIntentId

instance (scope : HeadRequestScope) (time : SealedTimeBundleV1) :
    Decidable (scope.BindsTime E time) :=
  inferInstanceAs (Decidable (_ ∧ _))

/-- `_require_time_binding`. -/
def requireTimeBinding (E : AdapterEnv) (scope : HeadRequestScope) (time : SealedTimeBundleV1) :
    Except AdapterError Unit :=
  refuseIf (¬scope.BindsTime E time)
    ⟨"head_time_bundle_mismatch",
      "the request does not bind the exact freshly reauthenticated time hull"⟩

/-- A field of a request by its name, as a test that two requests share it. -/
abbrev SharedField (ρ : Type) : Type := String × (ρ → ρ → Bool)

/-- The field that a projection reads. -/
def sharing {ρ α : Type} [DecidableEq α] (name : String) (get : ρ → α) : SharedField ρ :=
  (name, fun a b => get a = get b)

/-- `_require_shared_scope`. -/
def requireSharedScope {ρ : Type} (fields : List (SharedField ρ)) :
    List ρ → Except AdapterError Unit
  | [] => .error ⟨"IndexError", "tuple index out of range"⟩
  | first :: rest => rest.forM fun request => fields.forM fun shared =>
      refuseIf (shared.2 request first = false)
        ⟨"head_scope_mismatch", "every source request must share the exact " ++ shared.1⟩

/-- The fields of the transition that the requests of one bundle share. -/
def sharedScopeFields {ρ : Type} (scope : ρ → HeadRequestScope) : List (SharedField ρ) :=
  [sharing "profile_id" fun r => (scope r).profileId,
    sharing "trust_root_id" fun r => (scope r).trustRootId,
    sharing "service_instance_id" fun r => (scope r).serviceInstanceId,
    sharing "environment_id" fun r => (scope r).environmentId,
    sharing "mission_id" fun r => (scope r).missionId,
    sharing "authority_id" fun r => (scope r).authorityId,
    sharing "target_id" fun r => (scope r).targetId,
    sharing "event_digest" fun r => (scope r).eventDigest,
    sharing "transition_intent_id" fun r => (scope r).transitionIntentId]

/-- The fields that the requests of an anchor bundle share. -/
def sharedAnchorFields : List (SharedField (HeadAnchorRequestV1 E)) :=
  sharedScopeFields HeadAnchorRequestV1.toHeadRequestScope ++
    [sharing "anchor_policy_id" HeadAnchorRequestV1.anchorPolicyId,
      sharing "instance_sequence" HeadAnchorRequestV1.instanceSequence,
      sharing "anchor_statement_id" HeadAnchorRequestV1.anchorStatementId,
      sharing "anchor_leaf_hash" HeadAnchorRequestV1.anchorLeafHash,
      sharing "time_bundle_id" fun r => r.timeBundleId,
      sharing "request_nonce" fun r => r.requestNonce]

/-- The fields that the requests of a catalog bundle share. -/
def sharedCatalogFields : List (SharedField (HeadCatalogRequestV1 E)) :=
  sharedScopeFields HeadCatalogRequestV1.toHeadRequestScope ++
    [sharing "time_bundle_id" fun r => r.timeBundleId,
      sharing "prior_tree_size" HeadCatalogRequestV1.priorTreeSize,
      sharing "prior_log_root_hash" HeadCatalogRequestV1.priorLogRootHash,
      sharing "prior_instance_sequence" HeadCatalogRequestV1.priorInstanceSequence,
      sharing "prior_checkpoint_id" HeadCatalogRequestV1.priorCheckpointId,
      sharing "prior_mission_event_seq" HeadCatalogRequestV1.priorMissionEventSeq,
      sharing "prior_mission_checkpoint_id" HeadCatalogRequestV1.priorMissionCheckpointId,
      sharing "request_nonce" fun r => r.requestNonce]

/-- `_sorted_references`. -/
def sortedReferences (references : List EvidenceReferenceV1) (evidenceKind : EvidenceKind)
    (minimum : ℕ) : Except AdapterError (List EvidenceReferenceV1) := do
  refuseIf (∃ reference ∈ references, reference.evidenceKind ≠ evidenceKind)
    ⟨"invalid_head_evidence_references",
      "evidence references must be exact values of the expected kind"⟩
  let ordered := references.mergeSort fun a b => ¬b.Before a
  refuseIf (ordered.length < minimum)
    ⟨"invalid_head_evidence_references",
      "evidence references do not reach the required quorum"⟩
  refuseIf (¬(ordered.map fun reference => (reference.sourceId, reference.evidenceId)).Nodup)
    ⟨"invalid_head_evidence_references", "evidence references cannot repeat one entry"⟩
  return ordered

/-- `_require_bounded_evidence`. -/
def requireBoundedEvidence (blobs : List ProviderEvidenceBlobV1) : Except AdapterError Unit :=
  refuseIf (evidenceBytes blobs > maxAdapterTotalEvidenceBytesV1)
    ⟨"head_evidence_limit_exceeded", "retained head evidence exceeds its aggregate ceiling"⟩

/-! ## Anchors -/

variable (E) in
/-- `QualifiedAnchorBundleV1`, the sealed result. Its requests, its signed packages, its roots and
its evidence are the ones of its authenticated packages. -/
structure QualifiedAnchorBundleV1 where
  profileId : Digest
  anchorPolicyId : Digest
  anchorStatementId : Digest
  anchorLeafHash : Digest
  instanceSequence : ℕ
  timeBundleId : Digest
  authenticatedPackages : List (AnchorPackage E)

def QualifiedAnchorBundleV1.evidenceBlobs (bundle : QualifiedAnchorBundleV1 E) :
    List ProviderEvidenceBlobV1 :=
  bundle.authenticatedPackages.map (·.providerEvidence)

/-- `QualifiedAnchorBundleV1.evidence`. -/
def QualifiedAnchorBundleV1.evidence (bundle : QualifiedAnchorBundleV1 E) :
    Except AdapterError (List EvidenceReferenceV1) :=
  sortedReferences (bundle.evidenceBlobs.map ProviderEvidenceBlobV1.reference)
    .headAnchorReceipt 2

/-- The authenticated package of an anchor : the loop body of `qualify_anchor_bundle_v1`. -/
def authenticateAnchorSource (profile : HeadAuthorityTrustProfileV1 E) (time : SealedTimeBundleV1)
    (requests : SourceMap (HeadAnchorRequestV1 E)) (signedEvidence : SourceMap SignedEvidenceV1)
    (sourceId : String) : Except AdapterError (AnchorPackage E) := do
  let request ← item requests sourceId
  let signed ← item signedEvidence sourceId
  let package ← authenticateAnchorEvidence profile request signed
  let request := package.request
  requireTimeBinding E request.toHeadRequestScope time
  let claim := package.claim
  refuseIf (claim.treeSize < request.priorTreeSize)
    ⟨"head_anchor_tree_rollback", "anchor tree size regressed below the retained predecessor"⟩
  verifyMerkleInclusionV1 (merkleTreeHash E.sha256) (digestBytes request.anchorLeafHash)
    claim.leafIndex claim.treeSize (claim.inclusionProof.map digestBytes)
    (digestBytes claim.logRootHash)
  requireFreshHead claim.registeredAt time profile.maxHeadStalenessSeconds
    "anchor registration time"
  return package

/-- `qualify_anchor_bundle_v1`. The roster lists the anchors in the order of their sources. -/
def qualifyAnchorBundleV1 (profile : HeadAuthorityTrustProfileV1 E)
    (timeProfile : IntegrityAdapterTrustProfileV1 E) (timeBundle : SealedTimeBundleV1)
    (requests : SourceMap (HeadAnchorRequestV1 E)) (signedEvidence : SourceMap SignedEvidenceV1) :
    Except AdapterError (QualifiedAnchorBundleV1 E) := do
  let time ← reauthenticateTimeBundleV1 timeProfile timeBundle
  let ordered := (profile.bindingsFor .headAnchor).map (·.sourceId)
  exactHeadSourceMapping ordered "head_anchor_requests" requests
  exactHeadSourceMapping ordered "head_anchor_evidence" signedEvidence
  ordered.forM fun sourceId => do
    let request ← item requests sourceId
    refuseIf (request.sourceId ≠ sourceId)
      ⟨"head_source_set_mismatch", "an anchor request is filed under another source label"⟩
  let requestTuple ← ordered.mapM (item requests)
  requireSharedScope sharedAnchorFields requestTuple
  let packages ← ordered.mapM (authenticateAnchorSource profile time requests signedEvidence)
  requireBoundedEvidence (packages.map (·.providerEvidence))
  let first ← orRefuse requestTuple.head? ⟨"IndexError", "tuple index out of range"⟩
  return {
    profileId := profile.profileId
    anchorPolicyId := first.anchorPolicyId
    anchorStatementId := first.anchorStatementId
    anchorLeafHash := first.anchorLeafHash
    instanceSequence := first.instanceSequence
    timeBundleId := time.bundleId E
    authenticatedPackages := packages }

/-! ## The projected head -/

/-- The provenance of a checkpoint : complete, except at a genesis, which claims none. -/
def CheckpointRef.ProvenanceOf (r : CheckpointRef) (sequence : ℤ) : Prop :=
  (sequence = -1 → r.Unattested) ∧ (sequence ≠ -1 → r.attestationId ≠ none ∧
    (∃ principal ∈ r.principalId, isAdapterIdentity principal = true) ∧ r.trustSnapshotId ≠ none)

instance (r : CheckpointRef) : Decidable r.Unattested :=
  inferInstanceAs (Decidable (_ ∧ _))

instance (r : CheckpointRef) (sequence : ℤ) : Decidable (r.ProvenanceOf sequence) :=
  inferInstanceAs (Decidable ((_ → r.Unattested) ∧
    (_ → _ ∧ (∃ principal ∈ r.principalId, isAdapterIdentity principal = true) ∧ _)))

/-- What the constructor of `HeadCheckpointFloorV1` checks. -/
def HeadCheckpointFloorV1.Admissible (E : AdapterEnv) (head : HeadCheckpointFloorV1) : Prop :=
  (IsHeadSequence head.instanceSequence ∧ IsHeadSequence head.missionEventSeq) ∧
    (head.checkpoint.ProvenanceOf head.instanceSequence ∧
      head.missionCheckpoint.ProvenanceOf head.missionEventSeq) ∧
    ((head.instanceSequence = -1 ↔ head.checkpoint.checkpointId =
        headCheckpointGenesisId E head.serviceInstanceId head.environmentId) ∧
      (head.missionEventSeq = -1 ↔ head.missionCheckpoint.checkpointId =
        missionCheckpointGenesisId E head.serviceInstanceId head.environmentId head.missionId)) ∧
    head.missionEventSeq ≤ head.instanceSequence ∧
    (head.checkpoint.checkpointId = head.missionCheckpoint.checkpointId →
      head.checkpoint = head.missionCheckpoint) ∧
    (2 ≤ head.evidence.length ∧ head.evidence.length ≤ maxEvidenceRefs ∧
      (∀ reference ∈ head.evidence, reference.evidenceKind = .externalFloor) ∧
      head.evidence.Pairwise (fun a b => a.sourceId < b.sourceId) ∧
      (head.evidence.map (·.evidenceId)).Nodup)

instance (head : HeadCheckpointFloorV1) : Decidable (head.Admissible E) :=
  inferInstanceAs (Decidable (_ ∧ (_ ∧ _) ∧ _))

/-- The wire value of an identity that may be missing. -/
def optionalId (id : Option Digest) : Json := id.elim .null fun id => .str (contentIdText id)

/-- The record of a projected head, in the canonical order of its keys. -/
def catalogProjection (profile : HeadAuthorityTrustProfileV1 E) (missionId : Digest)
    (head : HeadCheckpointFloorV1) : Json :=
  .obj [("environment_id", .str profile.environmentId),
    ("head", .obj [("checkpoint_attestation_id", optionalId head.checkpoint.attestationId),
      ("checkpoint_id", .str (contentIdText head.checkpoint.checkpointId)),
      ("checkpoint_principal_id", head.checkpoint.principalId.elim .null .str),
      ("checkpoint_trust_snapshot_id", optionalId head.checkpoint.trustSnapshotId),
      ("instance_sequence", .int head.instanceSequence),
      ("mission_checkpoint_attestation_id", optionalId head.missionCheckpoint.attestationId),
      ("mission_checkpoint_id", .str (contentIdText head.missionCheckpoint.checkpointId)),
      ("mission_checkpoint_principal_id", head.missionCheckpoint.principalId.elim .null .str),
      ("mission_checkpoint_trust_snapshot_id", optionalId head.missionCheckpoint.trustSnapshotId),
      ("mission_event_seq", .int head.missionEventSeq)]),
    ("leaf_schema", .str "etzio.head-catalog-projection.v1"),
    ("log_origin", .str profile.catalogBinding.logOrigin),
    ("mission_id", .str (contentIdText missionId)),
    ("profile_id", .str (contentIdText profile.profileId)),
    ("service_instance_id", .str profile.serviceInstanceId),
    ("source_id", .str profile.catalogBinding.sourceId)]

/-- `catalog_projection_leaf_bytes_v1` of an external floor. -/
def catalogProjectionLeafBytesV1 (profile : HeadAuthorityTrustProfileV1 E) (missionId : Digest)
    (head : HeadCheckpointFloorV1) : Except AdapterError ByteArray := do
  refuseIf (head.serviceInstanceId ≠ profile.serviceInstanceId ∨
      head.environmentId ≠ profile.environmentId ∨ head.missionId ≠ missionId)
    ⟨"head_scope_mismatch", "catalog projection names another enrolled scope"⟩
  canonicalRecordBytes E headRecordError (catalogProjection profile missionId head)

/-! ## The catalog and its monitors -/

variable (E) in
/-- `QualifiedHeadCatalogBundleV1`, the sealed result. Its requests, its signed packages and its
evidence are the ones of its authenticated packages. -/
structure QualifiedHeadCatalogBundleV1 where
  profileId : Digest
  logOrigin : String
  timeBundleId : Digest
  catalogSourceId : String
  treeSize : ℕ
  logRootHash : Digest
  publishedAt : ℕ
  catalogPackage : CatalogPackage E
  monitorPackages : List (MonitorPackage E)
  externalFloor : HeadCheckpointFloorV1

def QualifiedHeadCatalogBundleV1.catalogRequest (bundle : QualifiedHeadCatalogBundleV1 E) :
    HeadCatalogRequestV1 E :=
  bundle.catalogPackage.request

def QualifiedHeadCatalogBundleV1.evidenceBlobs (bundle : QualifiedHeadCatalogBundleV1 E) :
    List ProviderEvidenceBlobV1 :=
  bundle.catalogPackage.providerEvidence :: bundle.monitorPackages.map (·.providerEvidence)

/-- The sources of a catalog bundle : the catalog, then the monitors. -/
def HeadAuthorityTrustProfileV1.catalogRoster (profile : HeadAuthorityTrustProfileV1 E) :
    List HeadAuthoritySourceBindingV1 :=
  profile.catalogBinding :: profile.bindingsFor .headMonitor

/-- A request is filed under its own source, with the role of that source. -/
def requireFiled (requests : SourceMap (HeadCatalogRequestV1 E))
    (binding : HeadAuthoritySourceBindingV1) : Except AdapterError Unit := do
  let request ← item requests binding.sourceId
  refuseIf (request.sourceId ≠ binding.sourceId)
    ⟨"head_source_set_mismatch", "a catalog request is filed under another source label"⟩
  refuseIf (request.evidenceRole ≠ binding.role)
    ⟨"head_role_mismatch", "a catalog request declares the wrong evidence role for its source"⟩

/-- The authenticated package of a source of the catalog's log, by the authentication of its
role. -/
def authenticateLogSource {κ : Type}
    (authenticate : HeadAuthorityTrustProfileV1 E → HeadCatalogRequestV1 E → SignedEvidenceV1 →
      Except AdapterError (AuthenticatedHeadEvidencePackageV1 (HeadCatalogRequestV1 E) κ))
    (profile : HeadAuthorityTrustProfileV1 E) (time : SealedTimeBundleV1)
    (requests : SourceMap (HeadCatalogRequestV1 E)) (signedEvidence : SourceMap SignedEvidenceV1)
    (binding : HeadAuthoritySourceBindingV1) :
    Except AdapterError (AuthenticatedHeadEvidencePackageV1 (HeadCatalogRequestV1 E) κ) := do
  let request ← item requests binding.sourceId
  let signed ← item signedEvidence binding.sourceId
  let package ← authenticate profile request signed
  requireTimeBinding E package.request.toHeadRequestScope time
  return package

/-- The claimed head does not go behind the retained one, and replaces none of its checkpoints. -/
def requireHeadAdvance (request : HeadCatalogRequestV1 E) (claim : HeadCatalogClaim) :
    Except AdapterError Unit := do
  refuseIf (claim.instanceSequence < request.priorInstanceSequence)
    ⟨"head_catalog_head_rollback",
      "catalog instance-global head regressed below the retained predecessor"⟩
  refuseIf (claim.missionEventSeq < request.priorMissionEventSeq)
    ⟨"head_catalog_head_rollback",
      "catalog mission head regressed below the retained predecessor"⟩
  refuseIf (claim.instanceSequence = request.priorInstanceSequence ∧
        claim.checkpoint.checkpointId ≠ request.priorCheckpointId ∨
      claim.missionEventSeq = request.priorMissionEventSeq ∧
        claim.missionCheckpoint.checkpointId ≠ request.priorMissionCheckpointId)
    ⟨"head_catalog_checkpoint_equivocation",
      "an unchanged head sequence cannot replace its retained checkpoint identity"⟩

/-- A monitor saw the log that the catalog published. -/
def requireWitness (profile : HeadAuthorityTrustProfileV1 E) (time : SealedTimeBundleV1)
    (catalog : HeadCatalogClaim) (package : MonitorPackage E) : Except AdapterError Unit := do
  let claim := package.claim
  refuseIf (claim.witnessedSourceId ≠ profile.catalogBinding.sourceId)
    ⟨"head_monitor_witness_mismatch",
      "a monitor does not witness the exact retained catalog source"⟩
  refuseIf (claim.logOrigin ≠ catalog.logOrigin ∨ claim.treeSize ≠ catalog.treeSize ∨
      claim.logRootHash ≠ catalog.logRootHash)
    ⟨"head_catalog_equivocation",
      "a monitor witnessed a different head than the catalog published"⟩
  requireFreshHead claim.observedAt time profile.maxHeadStalenessSeconds
    "monitor observation time"

/-- The floor that the catalog's claim projects. -/
def projectedFloor (profile : HeadAuthorityTrustProfileV1 E) (missionId : Digest)
    (claim : HeadCatalogClaim) (evidence : List EvidenceReferenceV1) : HeadCheckpointFloorV1 where
  serviceInstanceId := profile.serviceInstanceId
  environmentId := profile.environmentId
  instanceSequence := claim.instanceSequence
  checkpoint := claim.checkpoint
  missionId := missionId
  missionEventSeq := claim.missionEventSeq
  missionCheckpoint := claim.missionCheckpoint
  evidence := evidence

/-- `qualify_head_catalog_bundle_v1` after the authentication of its sources. -/
def fuseHeadSources (profile : HeadAuthorityTrustProfileV1 E) (time : SealedTimeBundleV1)
    (catalog : CatalogPackage E) (monitors : List (MonitorPackage E)) :
    Except AdapterError (QualifiedHeadCatalogBundleV1 E) := do
  let tree := merkleTreeHash E.sha256
  let request := catalog.request
  let claim := catalog.claim
  verifyMerkleConsistencyV1 tree request.priorTreeSize (digestBytes request.priorLogRootHash)
    claim.treeSize (digestBytes claim.logRootHash) (claim.consistencyProof.map digestBytes)
  requireFreshHead claim.publishedAt time profile.maxHeadStalenessSeconds
    "catalog publication time"
  requireHeadAdvance request claim
  monitors.forM (requireWitness profile time claim)
  requireBoundedEvidence (catalog.providerEvidence :: monitors.map (·.providerEvidence))
  let evidence ← sortedReferences (catalog.providerEvidence.reference ::
    monitors.map (·.providerEvidence.reference)) .externalFloor 2
  let externalFloor := projectedFloor profile request.missionId claim evidence
  refuseIf (¬externalFloor.Admissible E)
    ⟨"head_catalog_floor_invalid",
      "the qualified catalog head is not an admissible external head floor"⟩
  let leafBytes ← catalogProjectionLeafBytesV1 profile externalFloor.missionId externalFloor
  let leafHash ← merkleLeafHashV1 E leafBytes
  verifyMerkleInclusionV1 tree (digestBytes leafHash) (claim.treeSize - 1) claim.treeSize
    (claim.projectionInclusionProof.map digestBytes) (digestBytes claim.logRootHash)
  return {
    externalFloor
    profileId := profile.profileId
    logOrigin := profile.catalogBinding.logOrigin
    timeBundleId := time.bundleId E
    catalogSourceId := profile.catalogBinding.sourceId
    treeSize := claim.treeSize
    logRootHash := claim.logRootHash
    publishedAt := claim.publishedAt
    catalogPackage := catalog
    monitorPackages := monitors }

/-- `qualify_head_catalog_bundle_v1`. The roster lists the monitors in the order of their
sources. -/
def qualifyHeadCatalogBundleV1 (profile : HeadAuthorityTrustProfileV1 E)
    (timeProfile : IntegrityAdapterTrustProfileV1 E) (timeBundle : SealedTimeBundleV1)
    (requests : SourceMap (HeadCatalogRequestV1 E)) (signedEvidence : SourceMap SignedEvidenceV1) :
    Except AdapterError (QualifiedHeadCatalogBundleV1 E) := do
  let time ← reauthenticateTimeBundleV1 timeProfile timeBundle
  let roster := profile.catalogRoster
  let expectedSources := roster.map (·.sourceId)
  exactHeadSourceMapping expectedSources "head_catalog_requests" requests
  exactHeadSourceMapping expectedSources "head_catalog_evidence" signedEvidence
  roster.forM (requireFiled requests)
  let requestTuple ← expectedSources.mapM (item requests)
  requireSharedScope sharedCatalogFields requestTuple
  let catalog ← authenticateLogSource authenticateCatalogEvidence profile time requests
    signedEvidence profile.catalogBinding
  let monitors ← (profile.bindingsFor .headMonitor).mapM
    (authenticateLogSource authenticateMonitorEvidence profile time requests signedEvidence)
  fuseHeadSources profile time catalog monitors

/-! ## What a projected leaf says -/

/-- A head without the evidence of its floor, as a leaf projects it. -/
def HeadCheckpointFloorV1.projected (head : HeadCheckpointFloorV1) : HeadCheckpointFloorV1 :=
  { head with evidence := [] }

theorem normalForm_optionalId_inj {id id' : Option Digest}
    (h : normalForm (optionalId id) = normalForm (optionalId id')) : id = id' := by
  cases id <;> cases id' <;> simp [optionalId, normalForm] at h ⊢
  exact contentIdText_inj h

theorem normalForm_optionalText_inj {text text' : Option String}
    (h : normalForm (text.elim .null .str) = normalForm (text'.elim .null .str)) :
    text = text' := by
  cases text <;> cases text' <;> simp [normalForm] at h ⊢
  exact h

/-- Leaf bytes determine the log they are for and the head that they project. -/
theorem catalogProjectionLeafBytes_inj {profile profile' : HeadAuthorityTrustProfileV1 E}
    {missionId missionId' : Digest} {head head' : HeadCheckpointFloorV1} {data : ByteArray}
    (h : catalogProjectionLeafBytesV1 profile missionId head = .ok data)
    (h' : catalogProjectionLeafBytesV1 profile' missionId' head' = .ok data) :
    profile.profileId = profile'.profileId ∧ head.projected = head'.projected := by
  obtain ⟨hscope, hdata⟩ := unit_bind_eq_ok.mp h
  obtain ⟨hscope', hdata'⟩ := unit_bind_eq_ok.mp h'
  simp only [refuseIf_eq_ok, not_or, not_not] at hscope hscope'
  obtain ⟨hservice, henvironment, hmission⟩ := hscope
  obtain ⟨hservice', henvironment', hmission'⟩ := hscope'
  have hload := strictLoads_canonicalDumps (mapError_eq_ok.mp hdata)
  have hload' := strictLoads_canonicalDumps (mapError_eq_ok.mp hdata')
  have hnormal := Except.ok.inj (hload.symm.trans hload')
  simp only [catalogProjection, normalForm, normalFormMembers] at hnormal
  simp [setItem, sortMembers] at hnormal
  obtain ⟨henv, ⟨hatt, hid, hprincipal, hsnapshot, hsequence, hmatt, hmid, hmprincipal, hmsnapshot,
    hmsequence⟩, -, hm, hprofile, hserv, -⟩ := hnormal
  have hcheckpoint : head.checkpoint = head'.checkpoint := by
    cases hc : head.checkpoint
    cases hc' : head'.checkpoint
    simp only [hc, hc'] at hatt hid hprincipal hsnapshot
    rw [contentIdText_inj hid, normalForm_optionalId_inj hatt,
      normalForm_optionalText_inj hprincipal, normalForm_optionalId_inj hsnapshot]
  have hmissionCheckpoint : head.missionCheckpoint = head'.missionCheckpoint := by
    cases hc : head.missionCheckpoint
    cases hc' : head'.missionCheckpoint
    simp only [hc, hc'] at hmatt hmid hmprincipal hmsnapshot
    rw [contentIdText_inj hmid, normalForm_optionalId_inj hmatt,
      normalForm_optionalText_inj hmprincipal, normalForm_optionalId_inj hmsnapshot]
  refine ⟨contentIdText_inj hprofile, ?_⟩
  rw [HeadCheckpointFloorV1.projected, HeadCheckpointFloorV1.projected, hservice, hservice',
    henvironment, henvironment', hmission, hmission', hserv, henv, contentIdText_inj hm,
    hsequence, hmsequence, hcheckpoint, hmissionCheckpoint]

/-! ## What a bundle passed -/

/-- What the catalog and its monitors passed for their bundle. -/
structure CatalogFused (profile : HeadAuthorityTrustProfileV1 E) (time : SealedTimeBundleV1)
    (bundle : QualifiedHeadCatalogBundleV1 E) : Prop where
  profileId : bundle.profileId = profile.profileId
  logOrigin : bundle.logOrigin = profile.catalogBinding.logOrigin
  catalogSourceId : bundle.catalogSourceId = profile.catalogBinding.sourceId
  treeSize : bundle.treeSize = bundle.catalogPackage.claim.treeSize
  logRootHash : bundle.logRootHash = bundle.catalogPackage.claim.logRootHash
  projected : bundle.externalFloor.projected = (projectedFloor profile
    bundle.catalogRequest.missionId bundle.catalogPackage.claim []).projected
  admissible : bundle.externalFloor.Admissible E
  consistent : verifyMerkleConsistencyV1 (merkleTreeHash E.sha256)
    bundle.catalogRequest.priorTreeSize (digestBytes bundle.catalogRequest.priorLogRootHash)
    bundle.treeSize (digestBytes bundle.logRootHash)
    (bundle.catalogPackage.claim.consistencyProof.map digestBytes) = .ok ()
  advance : requireHeadAdvance bundle.catalogRequest bundle.catalogPackage.claim = .ok ()
  witnessed : ∀ package ∈ bundle.monitorPackages,
    requireWitness profile time bundle.catalogPackage.claim package = .ok ()
  included : ∃ data leafHash,
    catalogProjectionLeafBytesV1 profile bundle.externalFloor.missionId bundle.externalFloor =
      .ok data ∧ merkleLeafHashV1 E data = .ok leafHash ∧
    verifyMerkleInclusionV1 (merkleTreeHash E.sha256) (digestBytes leafHash)
      (bundle.treeSize - 1) bundle.treeSize
      (bundle.catalogPackage.claim.projectionInclusionProof.map digestBytes)
      (digestBytes bundle.logRootHash) = .ok ()

theorem fuseHeadSources_spec {profile : HeadAuthorityTrustProfileV1 E} {time : SealedTimeBundleV1}
    {catalog : CatalogPackage E} {monitors : List (MonitorPackage E)}
    {bundle : QualifiedHeadCatalogBundleV1 E}
    (h : fuseHeadSources profile time catalog monitors = .ok bundle) :
    bundle.catalogPackage = catalog ∧ bundle.monitorPackages = monitors ∧
      CatalogFused profile time bundle := by
  obtain ⟨hconsistent, hrest⟩ := unit_bind_eq_ok.mp h
  obtain ⟨-, hrest⟩ := unit_bind_eq_ok.mp hrest
  obtain ⟨hadvance, hrest⟩ := unit_bind_eq_ok.mp hrest
  obtain ⟨hwitnessed, hrest⟩ := unit_bind_eq_ok.mp hrest
  obtain ⟨-, hrest⟩ := unit_bind_eq_ok.mp hrest
  obtain ⟨evidence, -, hrest⟩ := bind_eq_ok.mp hrest
  obtain ⟨hadmissible, hrest⟩ := unit_bind_eq_ok.mp hrest
  obtain ⟨data, hdata, hrest⟩ := bind_eq_ok.mp hrest
  obtain ⟨leafHash, hleafHash, hrest⟩ := bind_eq_ok.mp hrest
  obtain ⟨hincluded, hreturn⟩ := unit_bind_eq_ok.mp hrest
  obtain rfl := Except.ok.inj hreturn
  rw [refuseIf_eq_ok, not_not] at hadmissible
  exact ⟨rfl, rfl,
    { profileId := rfl
      logOrigin := rfl
      catalogSourceId := rfl
      treeSize := rfl
      logRootHash := rfl
      projected := rfl
      admissible := hadmissible
      consistent := hconsistent
      advance := hadvance
      witnessed := forM_eq_ok.mp hwitnessed
      included := ⟨data, leafHash, hdata, hleafHash, hincluded⟩ }⟩

/-- What `qualify_head_catalog_bundle_v1` accepts : a package of the catalog and one of every
monitor, and their fusion against a time with the body of the one it was given. -/
theorem qualifyHeadCatalogBundle_spec {profile : HeadAuthorityTrustProfileV1 E}
    {timeProfile : IntegrityAdapterTrustProfileV1 E} {timeBundle : SealedTimeBundleV1}
    {requests : SourceMap (HeadCatalogRequestV1 E)} {signedEvidence : SourceMap SignedEvidenceV1}
    {bundle : QualifiedHeadCatalogBundleV1 E}
    (h : qualifyHeadCatalogBundleV1 profile timeProfile timeBundle requests signedEvidence =
      .ok bundle) :
    ∃ time, reauthenticateTimeBundleV1 timeProfile timeBundle = .ok time ∧
      (∀ binding ∈ profile.catalogRoster, requireFiled requests binding = .ok ()) ∧
      authenticateLogSource authenticateCatalogEvidence profile time requests signedEvidence
        profile.catalogBinding = .ok bundle.catalogPackage ∧
      List.Forall₂ (fun binding package => authenticateLogSource authenticateMonitorEvidence profile
        time requests signedEvidence binding = .ok package) (profile.bindingsFor .headMonitor)
          bundle.monitorPackages ∧
      CatalogFused profile time bundle := by
  obtain ⟨time, htime, hrest⟩ := bind_eq_ok.mp h
  obtain ⟨-, hrest⟩ := unit_bind_eq_ok.mp hrest
  obtain ⟨-, hrest⟩ := unit_bind_eq_ok.mp hrest
  obtain ⟨hfiled, hrest⟩ := unit_bind_eq_ok.mp hrest
  obtain ⟨requestTuple, -, hrest⟩ := bind_eq_ok.mp hrest
  obtain ⟨-, hrest⟩ := unit_bind_eq_ok.mp hrest
  obtain ⟨catalog, hcatalog, hrest⟩ := bind_eq_ok.mp hrest
  obtain ⟨monitors, hmonitors, hfuse⟩ := bind_eq_ok.mp hrest
  obtain ⟨rfl, rfl, hfused⟩ := fuseHeadSources_spec hfuse
  exact ⟨time, htime, forM_eq_ok.mp hfiled, hcatalog, mapM_eq_ok.mp hmonitors, hfused⟩

/-- The bounds of a head that advances, and the checkpoints that it keeps. -/
theorem requireHeadAdvance_eq_ok {request : HeadCatalogRequestV1 E} {claim : HeadCatalogClaim} :
    requireHeadAdvance request claim = .ok () ↔
      request.priorInstanceSequence ≤ claim.instanceSequence ∧
        request.priorMissionEventSeq ≤ claim.missionEventSeq ∧
        (claim.instanceSequence = request.priorInstanceSequence →
          claim.checkpoint.checkpointId = request.priorCheckpointId) ∧
        (claim.missionEventSeq = request.priorMissionEventSeq →
          claim.missionCheckpoint.checkpointId = request.priorMissionCheckpointId) := by
  rw [requireHeadAdvance, unit_bind_eq_ok, unit_bind_eq_ok, refuseIf_eq_ok, refuseIf_eq_ok,
    refuseIf_eq_ok]
  push Not
  tauto

/-- A monitor that passed saw the published log. -/
theorem requireWitness_spec {profile : HeadAuthorityTrustProfileV1 E} {time : SealedTimeBundleV1}
    {catalog : HeadCatalogClaim} {package : MonitorPackage E}
    (h : requireWitness profile time catalog package = .ok ()) :
    package.claim.witnessedSourceId = profile.catalogBinding.sourceId ∧
      package.claim.logOrigin = catalog.logOrigin ∧ package.claim.treeSize = catalog.treeSize ∧
      package.claim.logRootHash = catalog.logRootHash := by
  obtain ⟨hwitness, hrest⟩ := unit_bind_eq_ok.mp h
  obtain ⟨hsame, -⟩ := unit_bind_eq_ok.mp hrest
  simp only [refuseIf_eq_ok, not_or, not_not] at hwitness hsame
  exact ⟨hwitness, hsame⟩

/-- A value that was read and checked. -/
theorem read_bind_eq_ok {ε α β γ : Type} {x : Except ε α} {require : α → Except ε β}
    {f : β → Except ε γ} {c : γ} (h : (x >>= fun value => require value >>= f) = .ok c) :
    ∃ b, f b = .ok c := by
  obtain ⟨value, -, h⟩ := bind_eq_ok.mp h
  obtain ⟨b, -, h⟩ := bind_eq_ok.mp h
  exact ⟨b, h⟩

/-- A claim of the catalog names the origin of its binding. -/
theorem validateCatalogClaim_origin {request : HeadCatalogRequestV1 E}
    {binding : HeadAuthoritySourceBindingV1} {members : List (String × Json)}
    {claim : HeadCatalogClaim} (h : validateCatalogClaim request binding members = .ok claim) :
    claim.logOrigin = binding.logOrigin := by
  obtain ⟨body, -, h⟩ := bind_eq_ok.mp h
  obtain ⟨-, h⟩ := unit_bind_eq_ok.mp h
  obtain ⟨root, h⟩ := read_bind_eq_ok h
  obtain ⟨treeSize, h⟩ := read_bind_eq_ok h
  obtain ⟨publishedAt, h⟩ := read_bind_eq_ok h
  obtain ⟨consistencyProof, h⟩ := read_bind_eq_ok h
  obtain ⟨projectionInclusionProof, h⟩ := read_bind_eq_ok h
  obtain ⟨mission, h⟩ := read_bind_eq_ok h
  obtain ⟨-, h⟩ := unit_bind_eq_ok.mp h
  obtain ⟨instanceSequence, h⟩ := read_bind_eq_ok h
  obtain ⟨missionEventSeq, h⟩ := read_bind_eq_ok h
  obtain ⟨checkpoint, h⟩ := read_bind_eq_ok h
  obtain ⟨missionCheckpoint, h⟩ := read_bind_eq_ok h
  -- The optional parts of the two checkpoint references.
  obtain ⟨attestation, -, h⟩ := bind_eq_ok.mp h
  obtain ⟨snapshot, -, h⟩ := bind_eq_ok.mp h
  obtain ⟨missionAttestation, -, h⟩ := bind_eq_ok.mp h
  obtain ⟨missionSnapshot, -, h⟩ := bind_eq_ok.mp h
  obtain ⟨principal, -, h⟩ := bind_eq_ok.mp h
  obtain ⟨missionPrincipal, -, h⟩ := bind_eq_ok.mp h
  obtain rfl := Except.ok.inj h
  rfl

/-- A filed request is one of its binding. -/
theorem requireFiled_spec {requests : SourceMap (HeadCatalogRequestV1 E)}
    {binding : HeadAuthoritySourceBindingV1} (h : requireFiled requests binding = .ok ()) :
    ∃ request, item requests binding.sourceId = .ok request ∧
      request.sourceId = binding.sourceId ∧ request.evidenceRole = binding.role := by
  obtain ⟨request, hrequest, hrest⟩ := bind_eq_ok.mp h
  obtain ⟨hsource, hrole⟩ := unit_bind_eq_ok.mp hrest
  exact ⟨request, hrequest, not_not.mp (refuseIf_eq_ok.mp hsource),
    not_not.mp (refuseIf_eq_ok.mp hrole)⟩

/-- What the package of a source of the catalog's log passed : its request is the one that is filed
under its binding. -/
theorem authenticateLogSource_bound {κ : Type} {profile : HeadAuthorityTrustProfileV1 E}
    (validateClaim : HeadCatalogRequestV1 E → HeadAuthoritySourceBindingV1 →
      List (String × Json) → Except AdapterError κ) {time : SealedTimeBundleV1}
    {requests : SourceMap (HeadCatalogRequestV1 E)} {signedEvidence : SourceMap SignedEvidenceV1}
    {binding : HeadAuthoritySourceBindingV1}
    {package : AuthenticatedHeadEvidencePackageV1 (HeadCatalogRequestV1 E) κ}
    (hbinding : binding ∈ profile.sourceBindings) (hfiled : requireFiled requests binding = .ok ())
    (h : authenticateLogSource (fun profile request signed => authenticateHeadEvidenceV1 profile
      request.frame (validateClaim request) request signed) profile time requests signedEvidence
        binding = .ok package) :
    package.sourceBinding = binding ∧
      validateClaim package.request binding package.statement.claim = .ok package.claim := by
  obtain ⟨filed, hitem, hsource, -⟩ := requireFiled_spec hfiled
  obtain ⟨request, hrequest, hrest⟩ := bind_eq_ok.mp h
  obtain ⟨signed, -, hrest⟩ := bind_eq_ok.mp hrest
  obtain ⟨authenticated, hauthenticated, hrest⟩ := bind_eq_ok.mp hrest
  obtain ⟨-, hreturn⟩ := unit_bind_eq_ok.mp hrest
  obtain rfl := Except.ok.inj hreturn
  obtain rfl := Except.ok.inj (hitem.symm.trans hrequest)
  obtain ⟨hanswered, hbound, hclaim, -⟩ := authenticateHead_bound hauthenticated
  obtain ⟨hmem, -, hid⟩ := HeadAuthorityTrustProfileV1.bindingFor_eq_ok.mp hbound
  have hsame : authenticated.sourceBinding = binding :=
    List.inj_on_of_nodup_map profile.independent.1 hmem hbinding (hid.trans hsource)
  rw [hsame] at hclaim
  rw [hanswered]
  exact ⟨hsame, hclaim⟩

/-! ## What an anchor bundle shows -/

/-- The requests of one scope agree on every field that the scope shares. -/
theorem requireSharedScope_sharing {ρ α : Type} [DecidableEq α] {fields : List (SharedField ρ)}
    {requests : List ρ} {first : ρ} (name : String) (get : ρ → α)
    (hshared : sharing name get ∈ fields) (h : requireSharedScope fields requests = .ok ())
    (hfirst : requests.head? = some first) {request : ρ} (hrequest : request ∈ requests) :
    get request = get first := by
  obtain ⟨rest, rfl⟩ := List.head?_eq_some_iff.mp hfirst
  rcases List.mem_cons.mp hrequest with rfl | hrest
  · rfl
  · have hfield := forM_eq_ok.mp (forM_eq_ok.mp h request hrest) _ hshared
    rw [refuseIf_eq_ok, Bool.not_eq_false] at hfield
    exact of_decide_eq_true hfield

/-- What a package of an anchor bundle passed : it is about the registration of the bundle and its
time, and the log of the anchor did not shrink and includes that registration. -/
structure Anchored (profile : HeadAuthorityTrustProfileV1 E) (time : SealedTimeBundleV1)
    (bundle : QualifiedAnchorBundleV1 E) (package : AnchorPackage E) : Prop where
  policy : package.request.anchorPolicyId = bundle.anchorPolicyId
  statement : package.request.anchorStatementId = bundle.anchorStatementId
  sequence : package.request.instanceSequence = bundle.instanceSequence
  leaf : package.request.anchorLeafHash = bundle.anchorLeafHash
  binds : package.request.toHeadRequestScope.BindsTime E time
  grown : package.request.priorTreeSize ≤ package.claim.treeSize
  included : verifyMerkleInclusionV1 (merkleTreeHash E.sha256) (digestBytes bundle.anchorLeafHash)
    package.claim.leafIndex package.claim.treeSize (package.claim.inclusionProof.map digestBytes)
    (digestBytes package.claim.logRootHash) = .ok ()
  fresh : requireFreshHead package.claim.registeredAt time profile.maxHeadStalenessSeconds
    "anchor registration time" = .ok ()

/-- What an anchor passed on its own. -/
theorem authenticateAnchorSource_spec {profile : HeadAuthorityTrustProfileV1 E}
    {time : SealedTimeBundleV1} {requests : SourceMap (HeadAnchorRequestV1 E)}
    {signedEvidence : SourceMap SignedEvidenceV1} {sourceId : String} {package : AnchorPackage E}
    (h : authenticateAnchorSource profile time requests signedEvidence sourceId = .ok package) :
    item requests sourceId = .ok package.request ∧
      package.request.toHeadRequestScope.BindsTime E time ∧
      package.request.priorTreeSize ≤ package.claim.treeSize ∧
      verifyMerkleInclusionV1 (merkleTreeHash E.sha256) (digestBytes package.request.anchorLeafHash)
        package.claim.leafIndex package.claim.treeSize
        (package.claim.inclusionProof.map digestBytes) (digestBytes package.claim.logRootHash) =
          .ok () ∧
      requireFreshHead package.claim.registeredAt time profile.maxHeadStalenessSeconds
        "anchor registration time" = .ok () := by
  obtain ⟨request, hrequest, hrest⟩ := bind_eq_ok.mp h
  obtain ⟨signed, -, hrest⟩ := bind_eq_ok.mp hrest
  obtain ⟨authenticated, hauthenticated, hrest⟩ := bind_eq_ok.mp hrest
  obtain ⟨hbinds, hrest⟩ := unit_bind_eq_ok.mp hrest
  obtain ⟨hgrown, hrest⟩ := unit_bind_eq_ok.mp hrest
  obtain ⟨hincluded, hrest⟩ := unit_bind_eq_ok.mp hrest
  obtain ⟨hfresh, hreturn⟩ := unit_bind_eq_ok.mp hrest
  obtain rfl := Except.ok.inj hreturn
  obtain ⟨hanswered, -⟩ := authenticateHead_bound hauthenticated
  exact ⟨hrequest.trans (congrArg _ hanswered.symm), not_not.mp (refuseIf_eq_ok.mp hbinds),
    Nat.not_lt.mp (refuseIf_eq_ok.mp hgrown), hincluded, hfresh⟩

/-- What `qualify_anchor_bundle_v1` accepts : one package for each anchor of the roster, in its
order, and each of them includes the registration of the bundle. -/
theorem qualifyAnchorBundle_spec {profile : HeadAuthorityTrustProfileV1 E}
    {timeProfile : IntegrityAdapterTrustProfileV1 E} {timeBundle : SealedTimeBundleV1}
    {requests : SourceMap (HeadAnchorRequestV1 E)} {signedEvidence : SourceMap SignedEvidenceV1}
    {bundle : QualifiedAnchorBundleV1 E}
    (h : qualifyAnchorBundleV1 profile timeProfile timeBundle requests signedEvidence =
      .ok bundle) :
    ∃ time, reauthenticateTimeBundleV1 timeProfile timeBundle = .ok time ∧
      bundle.timeBundleId = time.bundleId E ∧
      bundle.authenticatedPackages.map (·.request.sourceId) =
        (profile.bindingsFor .headAnchor).map (·.sourceId) ∧
      ∀ package ∈ bundle.authenticatedPackages, Anchored profile time bundle package := by
  obtain ⟨time, htime, hrest⟩ := bind_eq_ok.mp h
  obtain ⟨-, hrest⟩ := unit_bind_eq_ok.mp hrest
  obtain ⟨-, hrest⟩ := unit_bind_eq_ok.mp hrest
  obtain ⟨hfiled, hrest⟩ := unit_bind_eq_ok.mp hrest
  obtain ⟨requestTuple, htuple, hrest⟩ := bind_eq_ok.mp hrest
  obtain ⟨hshared, hrest⟩ := unit_bind_eq_ok.mp hrest
  obtain ⟨packages, hpackages, hrest⟩ := bind_eq_ok.mp hrest
  obtain ⟨-, hrest⟩ := unit_bind_eq_ok.mp hrest
  obtain ⟨first, hfirst, hreturn⟩ := orRefuse_bind_eq_ok.mp hrest
  obtain rfl := Except.ok.inj hreturn
  have hpassed := mapM_eq_ok.mp hpackages
  -- The request of a package is the one that is filed under its source.
  have hrequests : requestTuple = packages.map (·.request) :=
    Except.ok.inj (htuple.symm.trans (mapM_eq_ok.mpr (List.forall₂_map_right_iff.mpr
      (hpassed.imp fun _ _ hp => (authenticateAnchorSource_spec hp).1))))
  subst hrequests
  refine ⟨time, htime, rfl, map_of_forall₂ ?_, fun package hpackage => ?_⟩
  · refine (forall₂_mem_right hpassed.flip).flip.imp fun sourceId package hp => ?_
    obtain ⟨request, hrequest, hsource⟩ := bind_eq_ok.mp (forM_eq_ok.mp hfiled sourceId hp.1)
    obtain rfl := Except.ok.inj ((authenticateAnchorSource_spec hp.2).1.symm.trans hrequest)
    exact not_not.mp (refuseIf_eq_ok.mp hsource)
  · obtain ⟨sourceId, -, hp⟩ := exists_related_of_mem hpassed.flip hpackage
    obtain ⟨-, hbinds, hgrown, hincluded, hfresh⟩ := authenticateAnchorSource_spec hp
    have hmem := List.mem_map_of_mem (f := fun p : AnchorPackage E => p.request) hpackage
    have hleaf := requireSharedScope_sharing "anchor_leaf_hash" HeadAnchorRequestV1.anchorLeafHash
      (by simp [sharedAnchorFields]) hshared hfirst hmem
    exact {
      policy := requireSharedScope_sharing "anchor_policy_id" HeadAnchorRequestV1.anchorPolicyId
        (by simp [sharedAnchorFields]) hshared hfirst hmem
      statement := requireSharedScope_sharing "anchor_statement_id"
        HeadAnchorRequestV1.anchorStatementId (by simp [sharedAnchorFields]) hshared hfirst hmem
      sequence := requireSharedScope_sharing "instance_sequence"
        HeadAnchorRequestV1.instanceSequence (by simp [sharedAnchorFields]) hshared hfirst hmem
      leaf := hleaf
      binds := hbinds
      grown := hgrown
      included := by rwa [← hleaf]
      fresh := hfresh }

/-! ## What a bundle needs -/

theorem requireFiled_of {requests : SourceMap (HeadCatalogRequestV1 E)}
    {binding : HeadAuthoritySourceBindingV1} {request : HeadCatalogRequestV1 E}
    (hrequest : item requests binding.sourceId = .ok request)
    (hsource : request.sourceId = binding.sourceId) (hrole : request.evidenceRole = binding.role) :
    requireFiled requests binding = .ok () :=
  bind_eq_ok.mpr ⟨request, hrequest, unit_bind_eq_ok.mpr
    ⟨refuseIf_eq_ok.mpr (not_not.mpr hsource), refuseIf_eq_ok.mpr (not_not.mpr hrole)⟩⟩

theorem requireSharedScope_of {ρ : Type} {fields : List (SharedField ρ)} {first : ρ} {rest : List ρ}
    (h : ∀ request ∈ rest, ∀ shared ∈ fields, shared.2 request first = true) :
    requireSharedScope fields (first :: rest) = .ok () :=
  forM_eq_ok.mpr fun request hrequest => forM_eq_ok.mpr fun shared hshared =>
    refuseIf_eq_ok.mpr (by simp [h request hrequest shared hshared])

theorem authenticateAnchorSource_of {profile : HeadAuthorityTrustProfileV1 E}
    {time : SealedTimeBundleV1} {requests : SourceMap (HeadAnchorRequestV1 E)}
    {signedEvidence : SourceMap SignedEvidenceV1} {sourceId : String}
    {request : HeadAnchorRequestV1 E} {signed : SignedEvidenceV1} {package : AnchorPackage E}
    (hrequest : item requests sourceId = .ok request)
    (hsigned : item signedEvidence sourceId = .ok signed)
    (hauthentic : authenticateAnchorEvidence profile request signed = .ok package)
    (hbinds : request.toHeadRequestScope.BindsTime E time)
    (hgrown : request.priorTreeSize ≤ package.claim.treeSize)
    (hincluded : verifyMerkleInclusionV1 (merkleTreeHash E.sha256)
      (digestBytes request.anchorLeafHash) package.claim.leafIndex package.claim.treeSize
      (package.claim.inclusionProof.map digestBytes) (digestBytes package.claim.logRootHash) =
        .ok ())
    (hfresh : requireFreshHead package.claim.registeredAt time profile.maxHeadStalenessSeconds
      "anchor registration time" = .ok ()) :
    authenticateAnchorSource profile time requests signedEvidence sourceId = .ok package := by
  obtain ⟨rfl, -⟩ := authenticateHead_bound hauthentic
  exact bind_eq_ok.mpr ⟨_, hrequest, bind_eq_ok.mpr ⟨_, hsigned, bind_eq_ok.mpr ⟨_, hauthentic,
    unit_bind_eq_ok.mpr ⟨refuseIf_eq_ok.mpr (not_not.mpr hbinds), unit_bind_eq_ok.mpr
      ⟨refuseIf_eq_ok.mpr (Nat.not_lt.mpr hgrown), unit_bind_eq_ok.mpr ⟨hincluded,
        unit_bind_eq_ok.mpr ⟨hfresh, rfl⟩⟩⟩⟩⟩⟩⟩

/-- The adapters of the time and of the heads demand the same rosters. -/
theorem exactHeadSourceMapping_of {α : Type} {expected : List String} {label : String}
    {m : SourceMap α} (h : exactSourceMapping expected label m = .ok ()) :
    exactHeadSourceMapping expected label m = .ok () :=
  refuseIf_eq_ok.mpr (refuseIf_eq_ok.mp h)

theorem authenticateLogSource_of {κ : Type}
    {authenticate : HeadAuthorityTrustProfileV1 E → HeadCatalogRequestV1 E → SignedEvidenceV1 →
      Except AdapterError (AuthenticatedHeadEvidencePackageV1 (HeadCatalogRequestV1 E) κ)}
    {profile : HeadAuthorityTrustProfileV1 E} {time : SealedTimeBundleV1}
    {requests : SourceMap (HeadCatalogRequestV1 E)} {signedEvidence : SourceMap SignedEvidenceV1}
    {binding : HeadAuthoritySourceBindingV1} {request : HeadCatalogRequestV1 E}
    {signed : SignedEvidenceV1}
    {package : AuthenticatedHeadEvidencePackageV1 (HeadCatalogRequestV1 E) κ}
    (hrequest : item requests binding.sourceId = .ok request)
    (hsigned : item signedEvidence binding.sourceId = .ok signed)
    (hauthentic : authenticate profile request signed = .ok package)
    (hbinds : package.request.BindsTime E time) :
    authenticateLogSource authenticate profile time requests signedEvidence binding =
      .ok package :=
  bind_eq_ok.mpr ⟨request, hrequest, bind_eq_ok.mpr ⟨signed, hsigned, bind_eq_ok.mpr
    ⟨package, hauthentic, unit_bind_eq_ok.mpr ⟨refuseIf_eq_ok.mpr (not_not.mpr hbinds), rfl⟩⟩⟩⟩

/-- The checks that a bundle passes are all that its sources need. -/
theorem fuseHeadSources_of {profile : HeadAuthorityTrustProfileV1 E} {time : SealedTimeBundleV1}
    {catalog : CatalogPackage E} {monitors : List (MonitorPackage E)}
    {evidence : List EvidenceReferenceV1} {data : ByteArray} {leafHash : Digest}
    (hconsistent : verifyMerkleConsistencyV1 (merkleTreeHash E.sha256)
      catalog.request.priorTreeSize (digestBytes catalog.request.priorLogRootHash)
      catalog.claim.treeSize (digestBytes catalog.claim.logRootHash)
      (catalog.claim.consistencyProof.map digestBytes) = .ok ())
    (hfresh : requireFreshHead catalog.claim.publishedAt time profile.maxHeadStalenessSeconds
      "catalog publication time" = .ok ())
    (hadvance : requireHeadAdvance catalog.request catalog.claim = .ok ())
    (hwitnessed : monitors.forM (requireWitness profile time catalog.claim) = .ok ())
    (hbounded : requireBoundedEvidence
      (catalog.providerEvidence :: monitors.map (·.providerEvidence)) = .ok ())
    (hsorted : sortedReferences (catalog.providerEvidence.reference ::
      monitors.map (·.providerEvidence.reference)) .externalFloor 2 = .ok evidence)
    (hadmissible : (projectedFloor profile catalog.request.missionId catalog.claim
      evidence).Admissible E)
    (hdata : catalogProjectionLeafBytesV1 profile catalog.request.missionId
      (projectedFloor profile catalog.request.missionId catalog.claim evidence) = .ok data)
    (hleafHash : merkleLeafHashV1 E data = .ok leafHash)
    (hincluded : verifyMerkleInclusionV1 (merkleTreeHash E.sha256) (digestBytes leafHash)
      (catalog.claim.treeSize - 1) catalog.claim.treeSize
      (catalog.claim.projectionInclusionProof.map digestBytes)
      (digestBytes catalog.claim.logRootHash) = .ok ()) :
    ∃ bundle, fuseHeadSources profile time catalog monitors = .ok bundle :=
  ⟨_, unit_bind_eq_ok.mpr ⟨hconsistent, unit_bind_eq_ok.mpr ⟨hfresh, unit_bind_eq_ok.mpr
    ⟨hadvance, unit_bind_eq_ok.mpr ⟨hwitnessed, unit_bind_eq_ok.mpr ⟨hbounded, bind_eq_ok.mpr
      ⟨evidence, hsorted, unit_bind_eq_ok.mpr ⟨refuseIf_eq_ok.mpr (not_not.mpr hadmissible),
        bind_eq_ok.mpr ⟨data, hdata, bind_eq_ok.mpr ⟨leafHash, hleafHash, unit_bind_eq_ok.mpr
          ⟨hincluded, rfl⟩⟩⟩⟩⟩⟩⟩⟩⟩⟩⟩

/-- Sources that are exact, filed under their own labels, of one scope and authenticated are fused
to the bundle. -/
theorem qualifyHeadCatalogBundle_of {profile : HeadAuthorityTrustProfileV1 E}
    {timeProfile : IntegrityAdapterTrustProfileV1 E} {timeBundle time : SealedTimeBundleV1}
    {requests : SourceMap (HeadCatalogRequestV1 E)} {signedEvidence : SourceMap SignedEvidenceV1}
    {requestTuple : List (HeadCatalogRequestV1 E)} {catalog : CatalogPackage E}
    {monitors : List (MonitorPackage E)} {bundle : QualifiedHeadCatalogBundleV1 E}
    (htime : reauthenticateTimeBundleV1 timeProfile timeBundle = .ok time)
    (hrequests : exactHeadSourceMapping (profile.catalogRoster.map (·.sourceId))
      "head_catalog_requests" requests = .ok ())
    (hsigned : exactHeadSourceMapping (profile.catalogRoster.map (·.sourceId))
      "head_catalog_evidence" signedEvidence = .ok ())
    (hfiled : profile.catalogRoster.forM (requireFiled requests) = .ok ())
    (htuple : (profile.catalogRoster.map (·.sourceId)).mapM (item requests) = .ok requestTuple)
    (hshared : requireSharedScope sharedCatalogFields requestTuple = .ok ())
    (hcatalog : authenticateLogSource authenticateCatalogEvidence profile time requests
      signedEvidence profile.catalogBinding = .ok catalog)
    (hmonitors : (profile.bindingsFor .headMonitor).mapM (authenticateLogSource
      authenticateMonitorEvidence profile time requests signedEvidence) = .ok monitors)
    (hfused : fuseHeadSources profile time catalog monitors = .ok bundle) :
    qualifyHeadCatalogBundleV1 profile timeProfile timeBundle requests signedEvidence =
      .ok bundle :=
  bind_eq_ok.mpr ⟨time, htime, unit_bind_eq_ok.mpr ⟨hrequests, unit_bind_eq_ok.mpr ⟨hsigned,
    unit_bind_eq_ok.mpr ⟨hfiled, bind_eq_ok.mpr ⟨requestTuple, htuple, unit_bind_eq_ok.mpr
      ⟨hshared, bind_eq_ok.mpr ⟨catalog, hcatalog, bind_eq_ok.mpr
        ⟨monitors, hmonitors, hfused⟩⟩⟩⟩⟩⟩⟩⟩

/-! ## Reauthentication -/

/-- `QualifiedHeadCatalogBundleV1.to_body`, by its fields. -/
structure HeadCatalogBody where
  catalogSourceId : String
  externalFloor : HeadCheckpointFloorV1
  logOrigin : String
  logRootHash : Digest
  profileId : Digest
  publishedAt : ℕ
  timeBundleId : Digest
  treeSize : ℕ
  deriving DecidableEq

def QualifiedHeadCatalogBundleV1.body (bundle : QualifiedHeadCatalogBundleV1 E) :
    HeadCatalogBody where
  catalogSourceId := bundle.catalogSourceId
  externalFloor := bundle.externalFloor
  logOrigin := bundle.logOrigin
  logRootHash := bundle.logRootHash
  profileId := bundle.profileId
  publishedAt := bundle.publishedAt
  timeBundleId := bundle.timeBundleId
  treeSize := bundle.treeSize

/-- The requests of a bundle, each with the signed package that answers it. -/
def QualifiedHeadCatalogBundleV1.answers (bundle : QualifiedHeadCatalogBundleV1 E) :
    List (HeadCatalogRequestV1 E × SignedEvidenceV1) :=
  (bundle.catalogPackage.request, bundle.catalogPackage.signedEvidence) ::
    bundle.monitorPackages.map fun p => (p.request, p.signedEvidence)

/-- `reauthenticate_head_catalog_bundle_v1`. -/
def reauthenticateHeadCatalogBundleV1 (profile : HeadAuthorityTrustProfileV1 E)
    (timeProfile : IntegrityAdapterTrustProfileV1 E) (timeBundle : SealedTimeBundleV1)
    (bundle : QualifiedHeadCatalogBundleV1 E) :
    Except AdapterError (QualifiedHeadCatalogBundleV1 E) := do
  let rebuilt ← qualifyHeadCatalogBundleV1 profile timeProfile timeBundle
    (sourceMap (bundle.answers.map fun a => (a.1.sourceId, a.1)))
    (sourceMap (bundle.answers.map fun a => (a.1.sourceId, a.2)))
  refuseIf (rebuilt.body ≠ bundle.body)
    ⟨"qualified_head_catalog_mutation",
      "the retained catalog bundle does not reproduce its derived body"⟩
  return rebuilt

theorem nodup_catalogRoster (profile : HeadAuthorityTrustProfileV1 E) :
    (profile.catalogRoster.map (·.sourceId)).Nodup := by
  obtain ⟨hcatalog, hrole⟩ := profile.catalogBinding_spec
  rw [HeadAuthorityTrustProfileV1.catalogRoster, List.map_cons, List.nodup_cons]
  refine ⟨fun hmem => ?_, profile.independent.1.sublist (List.filter_sublist.map _)⟩
  obtain ⟨monitor, hmonitor, hid⟩ := List.mem_map.mp hmem
  obtain ⟨hmonitorMem, hmonitorRole⟩ := List.mem_filter.mp hmonitor
  obtain rfl := List.inj_on_of_nodup_map profile.independent.1 hmonitorMem hcatalog hid
  rw [decide_eq_true_eq, hrole] at hmonitorRole
  exact absurd hmonitorRole (by decide)

/-- What a package of a source of the log holds is enough to authenticate it again. -/
theorem authenticateLogSource_spec {κ : Type} {profile : HeadAuthorityTrustProfileV1 E}
    (validateClaim : HeadCatalogRequestV1 E → HeadAuthoritySourceBindingV1 →
      List (String × Json) → Except AdapterError κ) {time : SealedTimeBundleV1}
    {requests : SourceMap (HeadCatalogRequestV1 E)} {signedEvidence : SourceMap SignedEvidenceV1}
    {binding : HeadAuthoritySourceBindingV1}
    {package : AuthenticatedHeadEvidencePackageV1 (HeadCatalogRequestV1 E) κ}
    (h : authenticateLogSource (fun profile request signed => authenticateHeadEvidenceV1 profile
      request.frame (validateClaim request) request signed) profile time requests signedEvidence
        binding = .ok package) :
    item requests binding.sourceId = .ok package.request ∧
      authenticateHeadEvidenceV1 profile package.request.frame (validateClaim package.request)
        package.request package.signedEvidence = .ok package ∧
      package.request.BindsTime E time := by
  obtain ⟨request, hrequest, hrest⟩ := bind_eq_ok.mp h
  obtain ⟨signed, -, hrest⟩ := bind_eq_ok.mp hrest
  obtain ⟨authenticated, hauthenticated, hrest⟩ := bind_eq_ok.mp hrest
  obtain ⟨hbinds, hreturn⟩ := unit_bind_eq_ok.mp hrest
  obtain rfl := Except.ok.inj hreturn
  obtain ⟨hanswered, -⟩ := authenticateHead_bound hauthenticated
  have hagain := authenticateHead_again hauthenticated
  rw [← hanswered] at hagain
  exact ⟨hrequest.trans (congrArg _ hanswered.symm), hagain,
    not_not.mp (refuseIf_eq_ok.mp hbinds)⟩

/-- A source of the log is authenticated again from dictionaries that hold its request and its
signed package under its label. -/
theorem authenticateLogSource_again {κ : Type} {profile : HeadAuthorityTrustProfileV1 E}
    (validateClaim : HeadCatalogRequestV1 E → HeadAuthoritySourceBindingV1 →
      List (String × Json) → Except AdapterError κ) {time : SealedTimeBundleV1}
    {requests requests' : SourceMap (HeadCatalogRequestV1 E)}
    {signedEvidence signedEvidence' : SourceMap SignedEvidenceV1}
    {binding : HeadAuthoritySourceBindingV1}
    {package : AuthenticatedHeadEvidencePackageV1 (HeadCatalogRequestV1 E) κ}
    (h : authenticateLogSource (fun profile request signed => authenticateHeadEvidenceV1 profile
      request.frame (validateClaim request) request signed) profile time requests signedEvidence
        binding = .ok package)
    (hrequest : item requests' binding.sourceId = .ok package.request)
    (hsigned : item signedEvidence' binding.sourceId = .ok package.signedEvidence) :
    authenticateLogSource (fun profile request signed => authenticateHeadEvidenceV1 profile
      request.frame (validateClaim request) request signed) profile time requests' signedEvidence'
        binding = .ok package := by
  obtain ⟨-, hagain, hbinds⟩ := authenticateLogSource_spec validateClaim h
  exact authenticateLogSource_of hrequest hsigned hagain hbinds

theorem forall₂_both {α β : Type} {R S : α → β → Prop} {as : List α} {bs : List β}
    (h : List.Forall₂ R as bs) (h' : List.Forall₂ S as bs) :
    List.Forall₂ (fun a b => R a b ∧ S a b) as bs := by
  induction h with
  | nil => exact .nil
  | cons hab _ ih =>
    obtain ⟨hab', hrest⟩ := List.forall₂_cons.mp h'
    exact .cons ⟨hab, hab'⟩ (ih hrest)

/-- The requests of the packages are those that were filed for the roster. -/
theorem answers_filed {profile : HeadAuthorityTrustProfileV1 E} {time : SealedTimeBundleV1}
    {requests : SourceMap (HeadCatalogRequestV1 E)} {signedEvidence : SourceMap SignedEvidenceV1}
    {bundle : QualifiedHeadCatalogBundleV1 E}
    (hcatalog : authenticateLogSource authenticateCatalogEvidence profile time requests
      signedEvidence profile.catalogBinding = .ok bundle.catalogPackage)
    (hmonitors : List.Forall₂ (fun binding package => authenticateLogSource
      authenticateMonitorEvidence profile time requests signedEvidence binding = .ok package)
        (profile.bindingsFor .headMonitor) bundle.monitorPackages) :
    List.Forall₂ (fun binding (a : HeadCatalogRequestV1 E × SignedEvidenceV1) =>
      item requests binding.sourceId = .ok a.1) profile.catalogRoster bundle.answers := by
  refine .cons (authenticateLogSource_spec validateCatalogClaim hcatalog).1 ?_
  exact List.forall₂_map_right_iff.mpr (hmonitors.imp fun _ _ hp =>
    (authenticateLogSource_spec (fun _ => validateMonitorClaim) hp).1)

/-- An answer is labelled as the source it was filed for. -/
theorem answers_labelled {roster : List HeadAuthoritySourceBindingV1}
    {requests : SourceMap (HeadCatalogRequestV1 E)}
    {answers : List (HeadCatalogRequestV1 E × SignedEvidenceV1)}
    (hfiled : ∀ binding ∈ roster, requireFiled requests binding = .ok ())
    (h : List.Forall₂ (fun binding a => item requests binding.sourceId = .ok a.1) roster answers) :
    List.Forall₂ (fun binding a => a.1.sourceId = binding.sourceId ∧
      a.1.evidenceRole = binding.role) roster answers := by
  refine (forall₂_mem_right h.flip).flip.imp fun binding a ha => ?_
  obtain ⟨request, hrequest, hlabel⟩ := requireFiled_spec (hfiled binding ha.1)
  obtain rfl := Except.ok.inj (ha.2.symm.trans hrequest)
  exact hlabel

/-- Labelled answers can be filed under their own labels, and are found there. -/
theorem answers_refiled {roster : List HeadAuthoritySourceBindingV1}
    {answers : List (HeadCatalogRequestV1 E × SignedEvidenceV1)} {α : Type}
    (value : HeadCatalogRequestV1 E × SignedEvidenceV1 → α)
    (hnodup : (roster.map (·.sourceId)).Nodup)
    (h : List.Forall₂ (fun binding a => a.1.sourceId = binding.sourceId ∧
      a.1.evidenceRole = binding.role) roster answers) (label : String) :
    exactHeadSourceMapping (roster.map (·.sourceId)) label
        (sourceMap (answers.map fun a => (a.1.sourceId, value a))) = .ok () ∧
      List.Forall₂ (fun binding a => item (sourceMap (answers.map fun a =>
        (a.1.sourceId, value a))) binding.sourceId = .ok (value a)) roster answers := by
  have hsources : answers.map (fun a => a.1.sourceId) = roster.map (·.sourceId) :=
    map_of_forall₂ (List.forall₂_map_left_iff.mpr (h.imp fun _ _ ha => ha.1))
  obtain ⟨hexact, hitems⟩ := sourceMap_roster value hnodup hsources label
  refine ⟨exactHeadSourceMapping_of hexact, (forall₂_mem_right h).imp fun binding a ha => ?_⟩
  obtain ⟨hmem, hsource, -⟩ := ha
  rw [← hsource]
  exact hitems a hmem

/-- A qualified catalog bundle is authenticated again, to itself. -/
theorem reauthenticateHeadCatalogBundle_again {profile : HeadAuthorityTrustProfileV1 E}
    {timeProfile : IntegrityAdapterTrustProfileV1 E} {timeBundle : SealedTimeBundleV1}
    {requests : SourceMap (HeadCatalogRequestV1 E)} {signedEvidence : SourceMap SignedEvidenceV1}
    {bundle : QualifiedHeadCatalogBundleV1 E}
    (h : qualifyHeadCatalogBundleV1 profile timeProfile timeBundle requests signedEvidence =
      .ok bundle) :
    reauthenticateHeadCatalogBundleV1 profile timeProfile timeBundle bundle = .ok bundle := by
  obtain ⟨time, htime, hrest⟩ := bind_eq_ok.mp h
  obtain ⟨-, hrest⟩ := unit_bind_eq_ok.mp hrest
  obtain ⟨-, hrest⟩ := unit_bind_eq_ok.mp hrest
  obtain ⟨hfiled, hrest⟩ := unit_bind_eq_ok.mp hrest
  obtain ⟨requestTuple, htuple, hrest⟩ := bind_eq_ok.mp hrest
  obtain ⟨hshared, hrest⟩ := unit_bind_eq_ok.mp hrest
  obtain ⟨catalog, hcatalog, hrest⟩ := bind_eq_ok.mp hrest
  obtain ⟨monitors, hmonitors, hfuse⟩ := bind_eq_ok.mp hrest
  obtain ⟨rfl, rfl, -⟩ := fuseHeadSources_spec hfuse
  rw [forM_eq_ok] at hfiled
  rw [mapM_eq_ok] at hmonitors
  have hanswers := answers_filed hcatalog hmonitors
  have hlabels := answers_labelled hfiled hanswers
  obtain ⟨hrequestsExact, hrequests⟩ := answers_refiled Prod.fst (nodup_catalogRoster profile)
    hlabels "head_catalog_requests"
  obtain ⟨hsignedExact, hsigned⟩ := answers_refiled Prod.snd (nodup_catalogRoster profile)
    hlabels "head_catalog_evidence"
  -- The requests of the roster are the retained ones, and share what they shared.
  have htuple' : requestTuple = bundle.answers.map Prod.fst :=
    Except.ok.inj (htuple.symm.trans (mapM_eq_ok.mpr (List.forall₂_map_left_iff.mpr
      (List.forall₂_map_right_iff.mpr hanswers))))
  rw [htuple'] at hshared
  have hfiledAgain : ∀ binding ∈ profile.catalogRoster, requireFiled (sourceMap
      (bundle.answers.map fun a => (a.1.sourceId, a.1))) binding = .ok () := by
    intro binding hmem
    obtain ⟨a, -, ⟨hsource, hrole⟩, hrequest⟩ :=
      exists_related_of_mem (forall₂_both hlabels hrequests) hmem
    exact requireFiled_of hrequest hsource hrole
  -- The catalog is the first source of the roster, the monitors are the others.
  obtain ⟨⟨hcatalogRequest, hcatalogSigned⟩, hmonitorItems⟩ :=
    List.forall₂_cons.mp (forall₂_both hrequests hsigned)
  rw [List.forall₂_map_right_iff] at hmonitorItems
  have hmonitorsAgain := (forall₂_both hmonitors hmonitorItems).imp fun _ _ hp =>
    authenticateLogSource_again (fun _ => validateMonitorClaim) hp.1 hp.2.1 hp.2.2
  have hagain := qualifyHeadCatalogBundle_of htime hrequestsExact hsignedExact
    (forM_eq_ok.mpr hfiledAgain)
    (mapM_eq_ok.mpr (List.forall₂_map_left_iff.mpr (List.forall₂_map_right_iff.mpr hrequests)))
    hshared (authenticateLogSource_again validateCatalogClaim hcatalog hcatalogRequest
      hcatalogSigned) (mapM_eq_ok.mpr hmonitorsAgain) hfuse
  rw [reauthenticateHeadCatalogBundleV1, bind_of_ok hagain,
    refuseIf_bind_of_not (not_not.mpr rfl)]
  rfl

end Etzio
