import Mathlib
import Etzio.AdapterRecords
import Etzio.IntegrityValidation
import Etzio.IntervalFusion

/-!
# Time bundles

The fusion of the trusted-time sources and the revocation results that are read against it. Every
source of the roster is authenticated in the order of the roster ; the hull of their intervals is
the time of the bundle, and a revocation result is accepted only when the whole hull lies inside
its validity and its staleness. `time_fusion_sound` is the law.
-/

open CheckedRun JsonText IntervalFusion

namespace Etzio

variable {E : AdapterEnv}

/-! ## Dictionaries of sources -/

/-- A dictionary from source identities. -/
abbrev SourceMap (α : Type) : Type := AList fun _ : String => α

/-- A dictionary that is built from its entries, of which the last of a key stays. -/
def sourceMap {α : Type} (entries : List (String × α)) : SourceMap α :=
  entries.foldl (fun m entry => m.insert entry.1 entry.2) ∅

/-- `_exact_source_mapping`. -/
def exactSourceMapping {α : Type} (expected : List String) (label : String) (m : SourceMap α) :
    Except AdapterError Unit :=
  refuseIf (¬((∀ key ∈ m.keys, key ∈ expected) ∧ ∀ key ∈ expected, key ∈ m.keys))
    ⟨"provider_source_set_mismatch",
      label ++ " differs from the complete fixed source roster"⟩

/-- `copied[key]`. -/
def item {α : Type} (m : SourceMap α) (key : String) : Except AdapterError α :=
  orRefuse (m.lookup key) ⟨"KeyError", key⟩

/-- `MAX_ADAPTER_TOTAL_EVIDENCE_BYTES_V1`. -/
def maxAdapterTotalEvidenceBytesV1 : ℕ := 16 * 1024 * 1024

/-- The bytes of some evidence. -/
def evidenceBytes (blobs : List ProviderEvidenceBlobV1) : ℕ :=
  (blobs.map fun blob => blob.content.length).sum

/-! ## Trusted time -/

/-- The sources of the trusted time, in the order of the roster. -/
def IntegrityAdapterTrustProfileV1.timeSourceIds (profile : IntegrityAdapterTrustProfileV1 E) :
    List String :=
  (profile.sourceBindings.filter fun binding => binding.role = .trustedTime).map (·.sourceId)

/-- The fields that the requests of one bundle share : all but the source. -/
def TrustedTimeRequestV1.context (request : TrustedTimeRequestV1) : TrustedTimeRequestV1 :=
  { request with sourceId := "" }

/-- The interval that an authenticated package claims. -/
def TrustedTimeClaim.bounds (claim : TrustedTimeClaim) : ℕ × ℕ :=
  (claim.timeLowerBound, claim.timeUpperBound)

/-- `QualifiedTimeBundleV1`, the sealed result. Its requests, its signed packages and its evidence
are the ones of its authenticated packages. -/
structure SealedTimeBundleV1 where
  profileId : Digest
  serviceInstanceId : String
  environmentId : String
  missionId : Digest
  authorityId : Digest
  targetId : Digest
  eventDigest : Digest
  transitionIntentId : Digest
  purpose : TimePurpose
  timePolicyId : Digest
  imprintId : Digest
  requestNonce : BitVec 256
  authenticatedPackages : List TimePackage
  timeLowerBound : ℕ
  timeUpperBound : ℕ
  interval : timeLowerBound ≤ timeUpperBound

namespace SealedTimeBundleV1

def requests (bundle : SealedTimeBundleV1) : List TrustedTimeRequestV1 :=
  bundle.authenticatedPackages.map (·.request)

def evidenceBlobs (bundle : SealedTimeBundleV1) : List ProviderEvidenceBlobV1 :=
  bundle.authenticatedPackages.map (·.providerEvidence)

/-- `QualifiedTimeBundleV1.evidence`. -/
def evidence (bundle : SealedTimeBundleV1) : List EvidenceReferenceV1 :=
  bundle.evidenceBlobs.map ProviderEvidenceBlobV1.reference

/-- The intervals that the sources of a bundle claim. -/
def sourceIntervals (bundle : SealedTimeBundleV1) : List (ℕ × ℕ) :=
  bundle.authenticatedPackages.map (·.claim.bounds)

end SealedTimeBundleV1

/-- `QualifiedTimeBundleV1.to_body`, before it is written. -/
structure QualifiedTimeBody where
  authorityId : Digest
  environmentId : String
  eventDigest : Digest
  evidence : List EvidenceReferenceV1
  imprintId : Digest
  missionId : Digest
  profileId : Digest
  purpose : TimePurpose
  requestIds : List Digest
  requestNonce : BitVec 256
  serviceInstanceId : String
  targetId : Digest
  timeLowerBound : ℕ
  timePolicyId : Digest
  timeUpperBound : ℕ
  transitionIntentId : Digest
  deriving DecidableEq

def SealedTimeBundleV1.body (E : AdapterEnv) (bundle : SealedTimeBundleV1) :
    QualifiedTimeBody where
  authorityId := bundle.authorityId
  environmentId := bundle.environmentId
  eventDigest := bundle.eventDigest
  evidence := bundle.evidence
  imprintId := bundle.imprintId
  missionId := bundle.missionId
  profileId := bundle.profileId
  purpose := bundle.purpose
  requestIds := bundle.requests.map (·.requestId E)
  requestNonce := bundle.requestNonce
  serviceInstanceId := bundle.serviceInstanceId
  targetId := bundle.targetId
  timeLowerBound := bundle.timeLowerBound
  timePolicyId := bundle.timePolicyId
  timeUpperBound := bundle.timeUpperBound
  transitionIntentId := bundle.transitionIntentId

/-- The wire value of a body. -/
def QualifiedTimeBody.toJson (body : QualifiedTimeBody) : Json :=
  .obj [("authority_id", .str (contentIdText body.authorityId)),
    ("environment_id", .str body.environmentId),
    ("event_digest", .str (contentIdText body.eventDigest)),
    ("evidence", .arr (body.evidence.map EvidenceReferenceV1.toBody)),
    ("imprint_id", .str (contentIdText body.imprintId)),
    ("mission_id", .str (contentIdText body.missionId)),
    ("profile_id", .str (contentIdText body.profileId)), ("purpose", .str body.purpose.text),
    ("request_ids", .arr (body.requestIds.map fun id => .str (contentIdText id))),
    ("request_nonce", .str (nonceText body.requestNonce)),
    ("service_instance_id", .str body.serviceInstanceId),
    ("target_id", .str (contentIdText body.targetId)),
    ("time_lower_bound", .int body.timeLowerBound),
    ("time_policy_id", .str (contentIdText body.timePolicyId)),
    ("time_upper_bound", .int body.timeUpperBound),
    ("transition_intent_id", .str (contentIdText body.transitionIntentId))]

/-- `QualifiedTimeBundleV1.bundle_id`. -/
def SealedTimeBundleV1.bundleId (E : AdapterEnv) (bundle : SealedTimeBundleV1) : Digest :=
  E.contentId "qualified_time_bundle" (bundle.body E).toJson

/-- The authenticated package of a source : the loop body of `qualify_time_bundle_v1`. -/
def authenticateTimeSource (profile : IntegrityAdapterTrustProfileV1 E)
    (requests : SourceMap TrustedTimeRequestV1) (signedEvidence : SourceMap SignedEvidenceV1)
    (sourceId : String) : Except AdapterError TimePackage := do
  let request ← item requests sourceId
  refuseIf (request.sourceId ≠ sourceId)
    ⟨"provider_source_mismatch",
      "trusted-time mapping key differs from its exact request source"⟩
  let signed ← item signedEvidence sourceId
  authenticateTimeEvidence profile request signed

/-- The time of the authenticated sources : `qualify_time_bundle_v1` after its loop. -/
def fuseTimeSources (profile : IntegrityAdapterTrustProfileV1 E) (packages : List TimePackage) :
    Except AdapterError SealedTimeBundleV1 := do
  let first ← orRefuse (packages.head?.map (·.request)) ⟨"IndexError", "list index out of range"⟩
  refuseIf (∃ package ∈ packages.tail, package.request.context ≠ first.context)
    ⟨"provider_request_mismatch",
      "trusted-time requests do not share one exact bundle context"⟩
  let intervals := packages.map (·.claim.bounds)
  let overlap ← orRefuse (overlap? intervals) ⟨"ValueError", "max() iterable argument is empty"⟩
  refuseIf (overlap.1 > overlap.2)
    ⟨"trusted_time_intervals_disjoint",
      "trusted-time source intervals have no common overlap"⟩
  let outer ← orRefuse (hull? intervals) ⟨"ValueError", "min() iterable argument is empty"⟩
  let maximumWidth := profile.validationPolicy.maximumWidth first.purpose
  refuseIf (∃ interval ∈ intervals, interval.2 - interval.1 > maximumWidth)
    ⟨"trusted_time_source_uncertainty_exceeded",
      "one trusted-time source exceeds the purpose policy"⟩
  refuseIf (outer.2 - outer.1 > maximumWidth)
    ⟨"trusted_time_uncertainty_exceeded",
      "trusted-time outer hull exceeds the purpose policy"⟩
  refuseIf (evidenceBytes (packages.map (·.providerEvidence)) > maxAdapterTotalEvidenceBytesV1)
    ⟨"adapter_evidence_limit_exceeded",
      "trusted-time evidence exceeds the aggregate byte ceiling"⟩
  let ⟨_, interval⟩ ← requireThat (outer.1 ≤ outer.2)
    ⟨"invalid_qualified_time", "qualified time has a reversed outer hull"⟩
  return {
    interval
    profileId := profile.profileId
    serviceInstanceId := first.serviceInstanceId
    environmentId := first.environmentId
    missionId := first.missionId
    authorityId := first.authorityId
    targetId := first.targetId
    eventDigest := first.eventDigest
    transitionIntentId := first.transitionIntentId
    purpose := first.purpose
    timePolicyId := first.timePolicyId
    imprintId := first.imprintId
    requestNonce := first.requestNonce
    authenticatedPackages := packages
    timeLowerBound := outer.1
    timeUpperBound := outer.2 }

/-- `qualify_time_bundle_v1`. -/
def qualifyTimeBundleV1 (profile : IntegrityAdapterTrustProfileV1 E)
    (requests : SourceMap TrustedTimeRequestV1) (signedEvidence : SourceMap SignedEvidenceV1) :
    Except AdapterError SealedTimeBundleV1 := do
  exactSourceMapping profile.timeSourceIds "trusted-time requests" requests
  exactSourceMapping profile.timeSourceIds "trusted-time packages" signedEvidence
  let packages ← profile.timeSourceIds.mapM
    (authenticateTimeSource profile requests signedEvidence)
  fuseTimeSources profile packages

/-- `reauthenticate_time_bundle_v1`. -/
def reauthenticateTimeBundleV1 (profile : IntegrityAdapterTrustProfileV1 E)
    (bundle : SealedTimeBundleV1) : Except AdapterError SealedTimeBundleV1 := do
  let fresh ← qualifyTimeBundleV1 profile
    (sourceMap (bundle.authenticatedPackages.map fun p => (p.request.sourceId, p.request)))
    (sourceMap (bundle.authenticatedPackages.map fun p => (p.request.sourceId, p.signedEvidence)))
  refuseIf (fresh.body E ≠ bundle.body E)
    ⟨"qualified_time_mutation",
      "retained qualified time differs after fresh reauthentication"⟩
  return fresh

/-! ## Revocation -/

/-- `QualifiedRevocationBundleV1`, with the state that its sources claim. -/
structure QualifiedRevocationBundleV1 extends RevocationClaim where
  profileId : Digest
  revocationNamespace : String
  timeBundleId : Digest
  authenticatedPackages : List RevocationPackage
  revocationView : RevocationViewV1
  externalFloor : RevocationFloorV1
  evidenceBlobs : List ProviderEvidenceBlobV1

/-- The sources of the revocation state of a namespace, in the order of the roster. -/
def IntegrityAdapterTrustProfileV1.revocationBindings
    (profile : IntegrityAdapterTrustProfileV1 E) (revocationNamespace : String) :
    List AdapterSourceBindingV1 :=
  profile.sourceBindings.filter fun binding =>
    binding.revocationNamespace = some revocationNamespace ∧
      binding.role ∈ [AdapterRole.revocationMetadata, AdapterRole.revocationFloor]

/-- A revocation request is the one of its source, its profile and its time. -/
def RevocationRequestV1.Matches (request : RevocationRequestV1)
    (profile : IntegrityAdapterTrustProfileV1 E) (binding : AdapterSourceBindingV1)
    (revocationNamespace : String) (time : SealedTimeBundleV1) : Prop :=
  request.sourceId = binding.sourceId ∧ request.evidenceRole = binding.role ∧
    request.revocationNamespace = revocationNamespace ∧ request.profileId = profile.profileId ∧
    request.trustRootId = profile.trustRootId ∧
    request.decisionPolicyId = profile.validationPolicy.decisionPolicyId ∧
    request.timeBundleId = time.bundleId E ∧ request.timeLowerBound = time.timeLowerBound ∧
    request.timeUpperBound = time.timeUpperBound ∧ request.timeEvidence = time.evidence ∧
    request.serviceInstanceId = time.serviceInstanceId ∧
    request.environmentId = time.environmentId ∧ request.missionId = time.missionId ∧
    request.authorityId = time.authorityId ∧ request.targetId = time.targetId ∧
    request.eventDigest = time.eventDigest ∧ request.transitionIntentId = time.transitionIntentId

instance (request : RevocationRequestV1) (profile : IntegrityAdapterTrustProfileV1 E)
    (binding : AdapterSourceBindingV1) (revocationNamespace : String)
    (time : SealedTimeBundleV1) :
    Decidable (request.Matches profile binding revocationNamespace time) :=
  inferInstanceAs (Decidable (_ ∧ _))

/-- The retained state that a revocation request names. -/
def RevocationRequestV1.predecessor (request : RevocationRequestV1) : ℕ × ℕ × Digest :=
  (request.priorRootVersion, request.priorVersion, request.priorSnapshotId)

/-- The authenticated package of a source : the loop body of `qualify_revocation_bundle_v1`. -/
def authenticateRevocationSource (profile : IntegrityAdapterTrustProfileV1 E)
    (revocationNamespace : String) (time : SealedTimeBundleV1)
    (requests : SourceMap RevocationRequestV1) (signedEvidence : SourceMap SignedEvidenceV1)
    (binding : AdapterSourceBindingV1) : Except AdapterError RevocationPackage := do
  let request ← item requests binding.sourceId
  let signed ← item signedEvidence binding.sourceId
  let package ← authenticateRevocationEvidence profile request signed
  refuseIf (¬package.request.Matches profile binding revocationNamespace time)
    ⟨"revocation_time_bundle_mismatch",
      "revocation request differs from its exact profile or time bundle"⟩
  return package

/-- The whole closed hull lies in the half-open validity, and no instant of it is before the
publication or too long after it. -/
def requireHullFresh (profile : IntegrityAdapterTrustProfileV1 E) (time : SealedTimeBundleV1)
    (state : RevocationClaim) : Except AdapterError Unit := do
  refuseIf (time.timeLowerBound < state.validFrom ∨ time.timeUpperBound ≥ state.validUntil)
    ⟨"revocation_validity_outside_window",
      "the complete closed time hull does not fit the half-open validity window"⟩
  refuseIf (state.publishedAt > time.timeLowerBound ∨
      time.timeUpperBound - state.publishedAt > profile.maxRevocationStalenessSeconds)
    ⟨"revocation_metadata_stale",
      "revocation publication time is future or stale for the complete hull"⟩

/-- The state does not go behind the retained one. -/
def requireNoRollback (prior : ℕ × ℕ × Digest) (state : RevocationClaim) :
    Except AdapterError Unit := do
  let (priorRootVersion, priorVersion, priorSnapshotId) := prior
  refuseIf (state.rootVersion < priorRootVersion)
    ⟨"revocation_root_rollback", "revocation root version is behind retained history"⟩
  refuseIf (priorRootVersion > 0 ∧ state.rootVersion > priorRootVersion + 1)
    ⟨"revocation_root_update_skipped", "revocation root update skips a retained version"⟩
  refuseIf (state.version < priorVersion)
    ⟨"revocation_version_rollback", "revocation metadata version is behind retained history"⟩
  refuseIf (state.version = priorVersion ∧
      (state.rootVersion ≠ priorRootVersion ∨ state.snapshotId ≠ priorSnapshotId))
    ⟨"revocation_same_version_mutation",
      "equal metadata versions require the same root and snapshot"⟩

/-- `_validated_evidence_references` of the floors, under the refusal of the mapping. -/
def requireFloorEvidence (evidence : List EvidenceReferenceV1) : Except AdapterError Unit :=
  refuseIf (¬(2 ≤ evidence.length ∧ evidence.length ≤ maxEvidenceRefs ∧
      evidence.Pairwise (fun a b => a.sourceId < b.sourceId) ∧
      (evidence.map (·.evidenceId)).Nodup))
    ⟨"invalid_revocation_mapping",
      "qualified revocation cannot map to provider-neutral values"⟩

/-- Evidence in its canonical order. -/
def sortEvidence (blobs : List ProviderEvidenceBlobV1) : List ProviderEvidenceBlobV1 :=
  blobs.mergeSort fun a b => ¬b.Before a

/-- The state of the authenticated sources of a namespace : `qualify_revocation_bundle_v1` after
its loop. -/
def fuseRevocationSources (profile : IntegrityAdapterTrustProfileV1 E)
    (revocationNamespace : String) (time : SealedTimeBundleV1)
    (packages : List RevocationPackage) : Except AdapterError QualifiedRevocationBundleV1 := do
  let first ← orRefuse packages.head? ⟨"IndexError", "list index out of range"⟩
  refuseIf (∃ package ∈ packages.tail,
      package.request.predecessor ≠ first.request.predecessor)
    ⟨"provider_request_mismatch", "revocation sources do not share one exact predecessor"⟩
  let state := first.claim
  refuseIf (∃ package ∈ packages.tail, package.claim ≠ state)
    ⟨"revocation_floor_disagreement",
      "metadata and every fixed floor witness must name one exact state"⟩
  requireHullFresh profile time state
  requireNoRollback first.request.predecessor state
  let coverage : AdapterError := ⟨"revocation_namespace_coverage_mismatch",
    "revocation qualification lacks its fixed metadata or floor set"⟩
  let metadata ← orRefuse
    (singleton? (packages.filter fun p => p.sourceBinding.role = .revocationMetadata)) coverage
  let floors := packages.filter fun p => p.sourceBinding.role = .revocationFloor
  refuseIf (floors.length < 2) coverage
  let floorEvidence := floors.map (·.providerEvidence.reference)
  requireFloorEvidence floorEvidence
  let evidenceBlobs := sortEvidence (packages.map (·.providerEvidence))
  refuseIf (evidenceBytes evidenceBlobs > maxAdapterTotalEvidenceBytesV1)
    ⟨"adapter_evidence_limit_exceeded",
      "revocation evidence exceeds the aggregate byte ceiling"⟩
  return {
    state with
    revocationNamespace, evidenceBlobs
    profileId := profile.profileId
    timeBundleId := time.bundleId E
    authenticatedPackages := packages
    revocationView := {
      revocationNamespace
      rootVersion := state.rootVersion
      version := state.version
      snapshotId := state.snapshotId
      evidence := metadata.providerEvidence.reference
      validFrom := state.validFrom
      validUntil := state.validUntil }
    externalFloor := {
      revocationNamespace
      serviceInstanceId := profile.serviceInstanceId
      environmentId := profile.environmentId
      decisionPolicyId := profile.validationPolicy.decisionPolicyId
      rootVersion := state.rootVersion
      version := state.version
      snapshotId := state.snapshotId
      evidence := floorEvidence } }

/-- `qualify_revocation_bundle_v1`. -/
def qualifyRevocationBundleV1 (profile : IntegrityAdapterTrustProfileV1 E)
    (revocationNamespace : String) (timeBundle : SealedTimeBundleV1)
    (requests : SourceMap RevocationRequestV1) (signedEvidence : SourceMap SignedEvidenceV1) :
    Except AdapterError QualifiedRevocationBundleV1 := do
  refuseIf (isAdapterIdentity revocationNamespace = false)
    ⟨"invalid_adapter_identity", "namespace must be a bounded ASCII identity"⟩
  refuseIf (revocationNamespace ∉ profile.validationPolicy.requiredRevocationNamespaces)
    ⟨"revocation_namespace_coverage_mismatch",
      "revocation namespace is not required by the exact profile"⟩
  let freshTime ← reauthenticateTimeBundleV1 profile timeBundle
  refuseIf (freshTime.purpose ≠ .decision)
    ⟨"revocation_time_bundle_mismatch",
      "revocation qualification requires the decision-time bundle"⟩
  let bindings := profile.revocationBindings revocationNamespace
  exactSourceMapping (bindings.map (·.sourceId)) "revocation requests" requests
  exactSourceMapping (bindings.map (·.sourceId)) "revocation packages" signedEvidence
  let packages ← bindings.mapM
    (authenticateRevocationSource profile revocationNamespace freshTime requests signedEvidence)
  fuseRevocationSources profile revocationNamespace freshTime packages

/-! ## Order of the packages -/

/-- The checks of a dictionary do not depend on the order of its entries. -/
theorem exactSourceMapping_perm {α : Type} {m m' : SourceMap α} (hperm : m'.entries.Perm m.entries)
    (expected : List String) (label : String) :
    exactSourceMapping expected label m' = exactSourceMapping expected label m := by
  have hkeys : ∀ key, key ∈ m'.keys ↔ key ∈ m.keys := fun key => (hperm.map Sigma.fst).mem_iff
  simp only [exactSourceMapping, hkeys]

theorem item_perm {α : Type} {m m' : SourceMap α} (hperm : m'.entries.Perm m.entries)
    (key : String) : item m' key = item m key := by
  rw [item, item, AList.perm_lookup hperm]

/-- The order in which the packages are supplied does not matter. -/
theorem qualifyTimeBundle_perm (profile : IntegrityAdapterTrustProfileV1 E)
    {requests requests' : SourceMap TrustedTimeRequestV1}
    {signedEvidence signedEvidence' : SourceMap SignedEvidenceV1}
    (hrequests : requests'.entries.Perm requests.entries)
    (hsigned : signedEvidence'.entries.Perm signedEvidence.entries) :
    qualifyTimeBundleV1 profile requests' signedEvidence' =
      qualifyTimeBundleV1 profile requests signedEvidence := by
  have hsource : authenticateTimeSource profile requests' signedEvidence' =
      authenticateTimeSource profile requests signedEvidence := by
    funext sourceId
    simp only [authenticateTimeSource, item_perm hrequests, item_perm hsigned]
  simp only [qualifyTimeBundleV1, exactSourceMapping_perm hrequests,
    exactSourceMapping_perm hsigned, hsource]

/-! ## What the fusions accept -/

/-- What the trusted-time sources passed for their bundle. -/
structure TimeFused (profile : IntegrityAdapterTrustProfileV1 E) (bundle : SealedTimeBundleV1) :
    Prop where
  profileId : bundle.profileId = profile.profileId
  hull : IsHull bundle.sourceIntervals (bundle.timeLowerBound, bundle.timeUpperBound)
  common : ∃ t, Common bundle.sourceIntervals t
  sourceWidth : ∀ interval ∈ bundle.sourceIntervals,
    interval.2 - interval.1 ≤ profile.validationPolicy.maximumWidth bundle.purpose
  width : bundle.timeUpperBound - bundle.timeLowerBound ≤
    profile.validationPolicy.maximumWidth bundle.purpose
  bytes : evidenceBytes bundle.evidenceBlobs ≤ maxAdapterTotalEvidenceBytesV1

theorem fuseTimeSources_spec {profile : IntegrityAdapterTrustProfileV1 E}
    {packages : List TimePackage} {bundle : SealedTimeBundleV1}
    (h : fuseTimeSources profile packages = .ok bundle) :
    bundle.authenticatedPackages = packages ∧ TimeFused profile bundle := by
  obtain ⟨first, hfirst, hrest⟩ := orRefuse_bind_eq_ok.mp h
  obtain ⟨hcontext, hrest⟩ := unit_bind_eq_ok.mp hrest
  obtain ⟨overlap, hoverlap, hrest⟩ := orRefuse_bind_eq_ok.mp hrest
  obtain ⟨hcommon, hrest⟩ := unit_bind_eq_ok.mp hrest
  obtain ⟨outer, houter, hrest⟩ := orRefuse_bind_eq_ok.mp hrest
  obtain ⟨hsources, hrest⟩ := unit_bind_eq_ok.mp hrest
  obtain ⟨hwidth, hrest⟩ := unit_bind_eq_ok.mp hrest
  obtain ⟨hbytes, hrest⟩ := unit_bind_eq_ok.mp hrest
  obtain ⟨⟨_, hinterval⟩, -, hreturn⟩ := bind_eq_ok.mp hrest
  obtain rfl := Except.ok.inj hreturn
  rw [refuseIf_eq_ok, not_lt] at hcommon hwidth hbytes
  rw [refuseIf_eq_ok] at hsources
  push Not at hsources
  exact ⟨rfl,
    { profileId := rfl
      hull := hull?_eq_some houter
      common := (exists_common_iff hoverlap).mpr hcommon
      sourceWidth := hsources
      width := hwidth
      bytes := hbytes }⟩

/-- What `qualify_time_bundle_v1` accepts : a package of every source of the roster, and their
fusion. -/
theorem qualifyTimeBundle_spec {profile : IntegrityAdapterTrustProfileV1 E}
    {requests : SourceMap TrustedTimeRequestV1} {signedEvidence : SourceMap SignedEvidenceV1}
    {bundle : SealedTimeBundleV1}
    (h : qualifyTimeBundleV1 profile requests signedEvidence = .ok bundle) :
    List.Forall₂ (fun sourceId package =>
      authenticateTimeSource profile requests signedEvidence sourceId = .ok package)
        profile.timeSourceIds bundle.authenticatedPackages ∧ TimeFused profile bundle := by
  obtain ⟨-, hrest⟩ := unit_bind_eq_ok.mp h
  obtain ⟨-, hrest⟩ := unit_bind_eq_ok.mp hrest
  obtain ⟨packages, hpackages, hfuse⟩ := bind_eq_ok.mp hrest
  obtain ⟨hsame, hfused⟩ := fuseTimeSources_spec hfuse
  exact ⟨hsame ▸ mapM_eq_ok.mp hpackages, hfused⟩

/-- The bounds of a state that is fresh for the whole hull. -/
theorem requireHullFresh_eq_ok {profile : IntegrityAdapterTrustProfileV1 E}
    {time : SealedTimeBundleV1} {state : RevocationClaim} :
    requireHullFresh profile time state = .ok () ↔
      state.validFrom ≤ time.timeLowerBound ∧ time.timeUpperBound < state.validUntil ∧
        state.publishedAt ≤ time.timeLowerBound ∧
        time.timeUpperBound - state.publishedAt ≤ profile.maxRevocationStalenessSeconds := by
  rw [requireHullFresh, unit_bind_eq_ok, refuseIf_eq_ok, refuseIf_eq_ok]
  push Not
  tauto

/-- Few pieces of evidence, each within its ceiling, are within the ceiling of all. -/
theorem evidenceBytes_le {blobs : List ProviderEvidenceBlobV1} (hfew : blobs.length ≤ 16)
    (h : ∀ blob ∈ blobs, blob.content.length ≤ maxProviderEvidenceBlobBytesV1) :
    evidenceBytes blobs ≤ maxAdapterTotalEvidenceBytesV1 := by
  have hsum := List.sum_le_card_nsmul (blobs.map fun blob => blob.content.length)
    maxProviderEvidenceBlobBytesV1 (List.forall_mem_map.mpr h)
  rw [List.length_map, smul_eq_mul] at hsum
  calc evidenceBytes blobs ≤ blobs.length * maxProviderEvidenceBlobBytesV1 := hsum
    _ ≤ 16 * maxProviderEvidenceBlobBytesV1 := Nat.mul_le_mul_right _ hfew
    _ = maxAdapterTotalEvidenceBytesV1 := (Nat.mul_assoc 16 1024 1024).symm

theorem evidenceBytes_sort (blobs : List ProviderEvidenceBlobV1) :
    evidenceBytes (sortEvidence blobs) = evidenceBytes blobs :=
  ((List.mergeSort_perm _ _).map _).sum_nat

/-- Sources that agree on a fresh state which extends their predecessor are fused. -/
theorem fuseRevocationSources_of {profile : IntegrityAdapterTrustProfileV1 E}
    {revocationNamespace : String} {time : SealedTimeBundleV1}
    {packages floors : List RevocationPackage} {first metadata : RevocationPackage}
    (hfirst : packages.head? = some first)
    (hagree : ∀ package ∈ packages.tail,
      package.request.predecessor = first.request.predecessor ∧ package.claim = first.claim)
    (hfresh : requireHullFresh profile time first.claim = .ok ())
    (hrollback : requireNoRollback first.request.predecessor first.claim = .ok ())
    (hmetadata : packages.filter (fun p => p.sourceBinding.role = .revocationMetadata) = [metadata])
    (hfloors : packages.filter (fun p => p.sourceBinding.role = .revocationFloor) = floors)
    (henough : 2 ≤ floors.length)
    (hevidence : requireFloorEvidence (floors.map (·.providerEvidence.reference)) = .ok ())
    (hfew : packages.length ≤ 16) (hbytes : ∀ package ∈ packages,
      package.providerEvidence.content.length ≤ maxProviderEvidenceBlobBytesV1) :
    ∃ bundle, fuseRevocationSources profile revocationNamespace time packages = .ok bundle ∧
      bundle.revocationView = ⟨revocationNamespace, first.claim.rootVersion, first.claim.version,
        first.claim.snapshotId, metadata.providerEvidence.reference, first.claim.validFrom,
        first.claim.validUntil⟩ ∧
      bundle.externalFloor = ⟨profile.serviceInstanceId, profile.environmentId,
        profile.validationPolicy.decisionPolicyId, revocationNamespace, first.claim.rootVersion,
        first.claim.version, first.claim.snapshotId,
        floors.map (·.providerEvidence.reference)⟩ := by
  have hbounded : ¬evidenceBytes (sortEvidence (packages.map (·.providerEvidence))) >
      maxAdapterTotalEvidenceBytesV1 := by
    rw [evidenceBytes_sort, not_lt]
    exact evidenceBytes_le (by rwa [List.length_map]) (List.forall_mem_map.mpr hbytes)
  rw [fuseRevocationSources, bind_of_ok (orRefuse_eq_ok.mpr hfirst),
    refuseIf_bind_of_not (by rintro ⟨package, hmem, hne⟩; exact hne (hagree package hmem).1)]
  simp only
  rw [refuseIf_bind_of_not (by rintro ⟨package, hmem, hne⟩; exact hne (hagree package hmem).2),
    bind_of_ok hfresh, bind_of_ok hrollback, hmetadata, hfloors, singleton?, orRefuse_some_bind,
    refuseIf_bind_of_not (not_lt.mpr henough), bind_of_ok hevidence, refuseIf_bind_of_not hbounded]
  exact ⟨_, rfl, rfl, rfl⟩

/-- What the sources of a namespace passed for their bundle. -/
structure RevocationFused (profile : IntegrityAdapterTrustProfileV1 E)
    (time : SealedTimeBundleV1) (bundle : QualifiedRevocationBundleV1) : Prop where
  timeBundleId : bundle.timeBundleId = time.bundleId E
  agreed : ∀ package ∈ bundle.authenticatedPackages, package.claim = bundle.toRevocationClaim
  fresh : requireHullFresh profile time bundle.toRevocationClaim = .ok ()

theorem fuseRevocationSources_spec {profile : IntegrityAdapterTrustProfileV1 E}
    {revocationNamespace : String} {time : SealedTimeBundleV1}
    {packages : List RevocationPackage} {bundle : QualifiedRevocationBundleV1}
    (h : fuseRevocationSources profile revocationNamespace time packages = .ok bundle) :
    bundle.authenticatedPackages = packages ∧ RevocationFused profile time bundle := by
  obtain ⟨first, hfirst, hrest⟩ := orRefuse_bind_eq_ok.mp h
  obtain ⟨-, hrest⟩ := unit_bind_eq_ok.mp hrest
  obtain ⟨hagreed, hrest⟩ := unit_bind_eq_ok.mp hrest
  obtain ⟨hfresh, hrest⟩ := unit_bind_eq_ok.mp hrest
  obtain ⟨-, hrest⟩ := unit_bind_eq_ok.mp hrest
  obtain ⟨metadata, -, hrest⟩ := orRefuse_bind_eq_ok.mp hrest
  obtain ⟨-, hrest⟩ := unit_bind_eq_ok.mp hrest
  obtain ⟨-, hrest⟩ := unit_bind_eq_ok.mp hrest
  obtain ⟨-, hreturn⟩ := unit_bind_eq_ok.mp hrest
  obtain rfl := Except.ok.inj hreturn
  rw [refuseIf_eq_ok] at hagreed
  push Not at hagreed
  refine ⟨rfl, ⟨rfl, fun package hpackage => ?_, hfresh⟩⟩
  obtain ⟨rest, rfl⟩ := List.head?_eq_some_iff.mp hfirst
  rcases List.mem_cons.mp hpackage with rfl | hrest
  · rfl
  · exact hagreed package hrest

/-- A time that is authenticated again has the interval of the retained one. -/
theorem reauthenticateTimeBundle_spec {profile : IntegrityAdapterTrustProfileV1 E}
    {bundle fresh : SealedTimeBundleV1}
    (h : reauthenticateTimeBundleV1 profile bundle = .ok fresh) : fresh.body E = bundle.body E := by
  obtain ⟨_, -, hrest⟩ := bind_eq_ok.mp h
  obtain ⟨hsame, hreturn⟩ := unit_bind_eq_ok.mp hrest
  obtain rfl := Except.ok.inj hreturn
  rwa [refuseIf_eq_ok, not_not] at hsame

/-- What `qualify_revocation_bundle_v1` accepts : the fusion of a namespace against a time with the
body of the bundle it was given. -/
theorem qualifyRevocationBundle_spec {profile : IntegrityAdapterTrustProfileV1 E}
    {revocationNamespace : String} {timeBundle : SealedTimeBundleV1}
    {requests : SourceMap RevocationRequestV1} {signedEvidence : SourceMap SignedEvidenceV1}
    {bundle : QualifiedRevocationBundleV1}
    (h : qualifyRevocationBundleV1 profile revocationNamespace timeBundle requests signedEvidence =
      .ok bundle) :
    ∃ time, reauthenticateTimeBundleV1 profile timeBundle = .ok time ∧ time.purpose = .decision ∧
      List.Forall₂ (fun binding package => authenticateRevocationSource profile revocationNamespace
        time requests signedEvidence binding = .ok package)
          (profile.revocationBindings revocationNamespace) bundle.authenticatedPackages ∧
      RevocationFused profile time bundle := by
  obtain ⟨-, hrest⟩ := unit_bind_eq_ok.mp h
  obtain ⟨-, hrest⟩ := unit_bind_eq_ok.mp hrest
  obtain ⟨time, htime, hrest⟩ := bind_eq_ok.mp hrest
  obtain ⟨hpurpose, hrest⟩ := unit_bind_eq_ok.mp hrest
  obtain ⟨-, hrest⟩ := unit_bind_eq_ok.mp hrest
  obtain ⟨-, hrest⟩ := unit_bind_eq_ok.mp hrest
  obtain ⟨packages, hpackages, hfuse⟩ := bind_eq_ok.mp hrest
  obtain ⟨hsame, hfused⟩ := fuseRevocationSources_spec hfuse
  rw [refuseIf_eq_ok, not_not] at hpurpose
  exact ⟨time, htime, hpurpose, hsame ▸ mapM_eq_ok.mp hpackages, hfused⟩

/-- A revocation result holds at every instant of the hull it was accepted against. -/
theorem revocation_at_every_instant {profile : IntegrityAdapterTrustProfileV1 E}
    {revocationNamespace : String} {timeBundle : SealedTimeBundleV1}
    {requests : SourceMap RevocationRequestV1} {signedEvidence : SourceMap SignedEvidenceV1}
    {bundle : QualifiedRevocationBundleV1}
    (h : qualifyRevocationBundleV1 profile revocationNamespace timeBundle requests signedEvidence =
      .ok bundle) {t : ℕ} (ht : t ∈ Set.Icc timeBundle.timeLowerBound timeBundle.timeUpperBound) :
    bundle.validFrom ≤ t ∧ t < bundle.validUntil ∧ bundle.publishedAt ≤ t ∧
      t - bundle.publishedAt ≤ profile.maxRevocationStalenessSeconds := by
  obtain ⟨time, htime, -, -, hfused⟩ := qualifyRevocationBundle_spec h
  have hbody := reauthenticateTimeBundle_spec htime
  have hlower : time.timeLowerBound = timeBundle.timeLowerBound :=
    congrArg QualifiedTimeBody.timeLowerBound hbody
  have hupper : time.timeUpperBound = timeBundle.timeUpperBound :=
    congrArg QualifiedTimeBody.timeUpperBound hbody
  obtain ⟨hfrom, huntil, hpublished, hstale⟩ := requireHullFresh_eq_ok.mp hfused.fresh
  obtain ⟨ht1, ht2⟩ := ht
  refine ⟨?_, ?_, ?_, ?_⟩ <;> omega

/-! ## Dictionaries that are built again -/

theorem mem_sourceMap {α : Type} {entries : List (String × α)} {m : SourceMap α} {key : String} :
    key ∈ (entries.foldl (fun m entry => m.insert entry.1 entry.2) m).keys ↔
      key ∈ m.keys ∨ key ∈ entries.map Prod.fst := by
  induction entries generalizing m with
  | nil => simp
  | cons entry entries ih =>
    rw [List.foldl_cons, ih, ← AList.mem_keys, AList.mem_insert, AList.mem_keys, List.map_cons,
      List.mem_cons]
    tauto

theorem lookup_sourceMap_of_notMem {α : Type} {entries : List (String × α)} {m : SourceMap α}
    {key : String} (h : key ∉ entries.map Prod.fst) :
    (entries.foldl (fun m entry => m.insert entry.1 entry.2) m).lookup key = m.lookup key := by
  induction entries generalizing m with
  | nil => rfl
  | cons entry entries ih =>
    rw [List.map_cons, List.mem_cons, not_or] at h
    rw [List.foldl_cons, ih h.2, AList.lookup_insert_ne h.1]

/-- An entry of distinct keys is found. -/
theorem lookup_sourceMap {α : Type} {entries : List (String × α)} {m : SourceMap α} {key : String}
    {value : α} (hnodup : (entries.map Prod.fst).Nodup) (hmem : (key, value) ∈ entries) :
    (entries.foldl (fun m entry => m.insert entry.1 entry.2) m).lookup key = some value := by
  induction entries generalizing m with
  | nil => simp at hmem
  | cons entry entries ih =>
    rw [List.map_cons, List.nodup_cons] at hnodup
    rw [List.foldl_cons]
    rcases List.mem_cons.mp hmem with rfl | hmem
    · rw [lookup_sourceMap_of_notMem hnodup.1, AList.lookup_insert]
    · exact ih hnodup.2 hmem

/-- A dictionary of values in the order of a roster of distinct sources is exact, and holds each
value under its source. -/
theorem sourceMap_roster {α β : Type} {sources : List String} {values : List β}
    {source : β → String} (value : β → α) (hnodup : sources.Nodup)
    (hsources : values.map source = sources) (label : String) :
    exactSourceMapping sources label (sourceMap (values.map fun v => (source v, value v))) =
        .ok () ∧
      ∀ v ∈ values, item (sourceMap (values.map fun v => (source v, value v))) (source v) =
        .ok (value v) := by
  have hkeys : (values.map fun v => (source v, value v)).map Prod.fst = sources := by
    rw [List.map_map, ← hsources]
    rfl
  have hmem : ∀ key, key ∈ (sourceMap (values.map fun v => (source v, value v))).keys ↔
      key ∈ sources := fun key => by
    rw [sourceMap, mem_sourceMap, hkeys]
    simp
  refine ⟨?_, fun v hv => ?_⟩
  · rw [exactSourceMapping, refuseIf_eq_ok, not_not]
    exact ⟨fun key h => (hmem key).mp h, fun key h => (hmem key).mpr h⟩
  · refine orRefuse_eq_ok.mpr (lookup_sourceMap (hkeys ▸ hnodup) ?_)
    exact List.mem_map.mpr ⟨v, hv, rfl⟩

theorem nodup_timeSourceIds (profile : IntegrityAdapterTrustProfileV1 E) :
    profile.timeSourceIds.Nodup :=
  profile.independent.1.sublist (List.filter_sublist.map _)

theorem map_of_forall₂ {α β : Type} {f : β → α} {as : List α} {bs : List β}
    (h : List.Forall₂ (fun a b => f b = a) as bs) : bs.map f = as := by
  induction h with
  | nil => rfl
  | cons hab _ ih => rw [List.map_cons, hab, ih]

/-- The package of a source answers its request, and is authenticated from itself. -/
theorem authenticateTimeSource_spec {profile : IntegrityAdapterTrustProfileV1 E}
    {requests : SourceMap TrustedTimeRequestV1} {signedEvidence : SourceMap SignedEvidenceV1}
    {sourceId : String} {package : TimePackage}
    (h : authenticateTimeSource profile requests signedEvidence sourceId = .ok package) :
    package.request.sourceId = sourceId ∧
      authenticateTimeEvidence profile package.request package.signedEvidence = .ok package := by
  obtain ⟨request, -, hrest⟩ := orRefuse_bind_eq_ok.mp h
  obtain ⟨hsource, hrest⟩ := unit_bind_eq_ok.mp hrest
  obtain ⟨signed, -, hauthentic⟩ := orRefuse_bind_eq_ok.mp hrest
  rw [refuseIf_eq_ok, not_not] at hsource
  obtain ⟨-, -, -, -, -, -, -, hrequest, -⟩ := authenticate_eq_ok.mp hauthentic
  have hagain := authenticate_again hauthentic
  rw [← hrequest] at hagain
  exact ⟨hrequest ▸ hsource, hagain⟩

/-- The packages of the sources are authenticated from dictionaries of their own requests and
signed evidence. -/
theorem authenticateTimeSources_again {profile : IntegrityAdapterTrustProfileV1 E}
    (packages : List TimePackage)
    (hsources : packages.map (·.request.sourceId) = profile.timeSourceIds)
    (hauthentic : ∀ package ∈ packages,
      authenticateTimeEvidence profile package.request package.signedEvidence = .ok package) :
    qualifyTimeBundleV1 profile
        (sourceMap (packages.map fun p => (p.request.sourceId, p.request)))
        (sourceMap (packages.map fun p => (p.request.sourceId, p.signedEvidence))) =
      fuseTimeSources profile packages := by
  obtain ⟨hrequests, hrequest⟩ := sourceMap_roster (·.request)
    (nodup_timeSourceIds profile) hsources "trusted-time requests"
  obtain ⟨hsigned, hpackage⟩ := sourceMap_roster (·.signedEvidence)
    (nodup_timeSourceIds profile) hsources "trusted-time packages"
  have hall : profile.timeSourceIds.mapM (authenticateTimeSource profile
      (sourceMap (packages.map fun p => (p.request.sourceId, p.request)))
      (sourceMap (packages.map fun p => (p.request.sourceId, p.signedEvidence)))) =
        .ok packages := by
    rw [mapM_eq_ok, ← hsources, List.forall₂_map_left_iff, List.forall₂_same]
    intro package hmem
    rw [authenticateTimeSource, bind_of_ok (hrequest package hmem),
      refuseIf_bind_of_not (not_not.mpr rfl), bind_of_ok (hpackage package hmem)]
    exact hauthentic package hmem
  rw [qualifyTimeBundleV1, bind_of_ok hrequests, bind_of_ok hsigned, bind_of_ok hall]

/-- A qualified time bundle is authenticated again, to itself. -/
theorem reauthenticateTimeBundle_again {profile : IntegrityAdapterTrustProfileV1 E}
    {requests : SourceMap TrustedTimeRequestV1} {signedEvidence : SourceMap SignedEvidenceV1}
    {bundle : SealedTimeBundleV1}
    (h : qualifyTimeBundleV1 profile requests signedEvidence = .ok bundle) :
    reauthenticateTimeBundleV1 profile bundle = .ok bundle := by
  obtain ⟨-, hrest⟩ := unit_bind_eq_ok.mp h
  obtain ⟨-, hrest⟩ := unit_bind_eq_ok.mp hrest
  obtain ⟨packages, hpackages, hfuse⟩ := bind_eq_ok.mp hrest
  obtain ⟨rfl, -⟩ := fuseTimeSources_spec hfuse
  have hall := mapM_eq_ok.mp hpackages
  have hsources : bundle.authenticatedPackages.map (·.request.sourceId) = profile.timeSourceIds :=
    map_of_forall₂ (hall.imp fun _ _ hp => (authenticateTimeSource_spec hp).1)
  rw [← hsources, List.forall₂_map_left_iff, List.forall₂_same] at hall
  have hagain := authenticateTimeSources_again _ hsources fun package hmem =>
    (authenticateTimeSource_spec (hall package hmem)).2
  rw [reauthenticateTimeBundleV1, bind_of_ok (hagain.trans hfuse),
    refuseIf_bind_of_not (not_not.mpr rfl)]
  rfl

theorem forall₂_mem_right {α β : Type} {R : α → β → Prop} {as : List α} {bs : List β}
    (h : List.Forall₂ R as bs) : List.Forall₂ (fun a b => b ∈ bs ∧ R a b) as bs := by
  induction h with
  | nil => exact .nil
  | cons hab _ ih =>
    exact .cons ⟨List.mem_cons_self, hab⟩ (ih.imp fun _ _ h => ⟨List.mem_cons_of_mem _ h.1, h.2⟩)

theorem nodup_revocationSources (profile : IntegrityAdapterTrustProfileV1 E)
    (revocationNamespace : String) :
    ((profile.revocationBindings revocationNamespace).map (·.sourceId)).Nodup :=
  profile.independent.1.sublist (List.filter_sublist.map _)

/-- The package of a source of a namespace answers its request, and is authenticated from
itself. -/
theorem authenticateRevocationSource_spec {profile : IntegrityAdapterTrustProfileV1 E}
    {revocationNamespace : String} {time : SealedTimeBundleV1}
    {requests : SourceMap RevocationRequestV1} {signedEvidence : SourceMap SignedEvidenceV1}
    {binding : AdapterSourceBindingV1} {package : RevocationPackage}
    (h : authenticateRevocationSource profile revocationNamespace time requests signedEvidence
      binding = .ok package) :
    package.request.Matches profile binding revocationNamespace time ∧
      authenticateRevocationEvidence profile package.request package.signedEvidence =
        .ok package := by
  obtain ⟨request, -, hrest⟩ := orRefuse_bind_eq_ok.mp h
  obtain ⟨signed, -, hrest⟩ := orRefuse_bind_eq_ok.mp hrest
  obtain ⟨_, hauthentic, hrest⟩ := bind_eq_ok.mp hrest
  obtain ⟨hmatches, hreturn⟩ := unit_bind_eq_ok.mp hrest
  obtain rfl := Except.ok.inj hreturn
  rw [refuseIf_eq_ok, not_not] at hmatches
  obtain ⟨-, -, -, -, -, -, -, hrequest, -⟩ := authenticate_eq_ok.mp hauthentic
  have hagain := authenticate_again hauthentic
  rw [← hrequest] at hagain
  exact ⟨hmatches, hagain⟩

/-- The packages of a namespace are authenticated from dictionaries of their own requests and
signed evidence. -/
theorem authenticateRevocationSources_again {profile : IntegrityAdapterTrustProfileV1 E}
    {revocationNamespace : String} {time : SealedTimeBundleV1}
    {packages : List RevocationPackage}
    (h : List.Forall₂ (fun binding package =>
      package.request.Matches profile binding revocationNamespace time ∧
        authenticateRevocationEvidence profile package.request package.signedEvidence =
          .ok package) (profile.revocationBindings revocationNamespace) packages)
    {timeBundle : SealedTimeBundleV1}
    (hnamespace : isAdapterIdentity revocationNamespace = true)
    (hrequired : revocationNamespace ∈ profile.validationPolicy.requiredRevocationNamespaces)
    (htime : reauthenticateTimeBundleV1 profile timeBundle = .ok time)
    (hpurpose : time.purpose = .decision) :
    qualifyRevocationBundleV1 profile revocationNamespace timeBundle
        (sourceMap (packages.map fun p => (p.request.sourceId, p.request)))
        (sourceMap (packages.map fun p => (p.request.sourceId, p.signedEvidence))) =
      fuseRevocationSources profile revocationNamespace time packages := by
  have hsources : packages.map (·.request.sourceId) =
      (profile.revocationBindings revocationNamespace).map (·.sourceId) :=
    map_of_forall₂ (List.forall₂_map_left_iff.mpr (h.imp fun _ _ hp => hp.1.1))
  obtain ⟨hrequests, hrequest⟩ := sourceMap_roster (·.request)
    (nodup_revocationSources profile revocationNamespace) hsources "revocation requests"
  obtain ⟨hsigned, hpackage⟩ := sourceMap_roster (·.signedEvidence)
    (nodup_revocationSources profile revocationNamespace) hsources "revocation packages"
  have hall : (profile.revocationBindings revocationNamespace).mapM
      (authenticateRevocationSource profile revocationNamespace time
        (sourceMap (packages.map fun p => (p.request.sourceId, p.request)))
        (sourceMap (packages.map fun p => (p.request.sourceId, p.signedEvidence)))) =
          .ok packages := by
    refine mapM_eq_ok.mpr ((forall₂_mem_right h).imp fun binding package hp => ?_)
    obtain ⟨hmem, hmatches, hauthentic⟩ := hp
    rw [authenticateRevocationSource, ← hmatches.1, bind_of_ok (hrequest package hmem),
      bind_of_ok (hpackage package hmem), bind_of_ok hauthentic,
      refuseIf_bind_of_not (not_not.mpr hmatches)]
    rfl
  rw [qualifyRevocationBundleV1, refuseIf_bind_of_not (by simp [hnamespace]),
    refuseIf_bind_of_not (not_not.mpr hrequired), bind_of_ok htime,
    refuseIf_bind_of_not (not_not.mpr hpurpose)]
  simp only
  rw [bind_of_ok hrequests, bind_of_ok hsigned, bind_of_ok hall]

/-- A qualified revocation bundle is authenticated again, to itself. -/
theorem qualifyRevocationBundle_again {profile : IntegrityAdapterTrustProfileV1 E}
    {revocationNamespace : String} {timeBundle : SealedTimeBundleV1}
    {requests : SourceMap RevocationRequestV1} {signedEvidence : SourceMap SignedEvidenceV1}
    {bundle : QualifiedRevocationBundleV1}
    (h : qualifyRevocationBundleV1 profile revocationNamespace timeBundle requests signedEvidence =
      .ok bundle) :
    qualifyRevocationBundleV1 profile revocationNamespace timeBundle
      (sourceMap (bundle.authenticatedPackages.map fun p => (p.request.sourceId, p.request)))
      (sourceMap (bundle.authenticatedPackages.map fun p =>
        (p.request.sourceId, p.signedEvidence))) = .ok bundle := by
  obtain ⟨hnamespace, hrest⟩ := unit_bind_eq_ok.mp h
  obtain ⟨hrequired, hrest⟩ := unit_bind_eq_ok.mp hrest
  obtain ⟨time, htime, hrest⟩ := bind_eq_ok.mp hrest
  obtain ⟨hpurpose, hrest⟩ := unit_bind_eq_ok.mp hrest
  obtain ⟨-, hrest⟩ := unit_bind_eq_ok.mp hrest
  obtain ⟨-, hrest⟩ := unit_bind_eq_ok.mp hrest
  obtain ⟨packages, hpackages, hfuse⟩ := bind_eq_ok.mp hrest
  obtain ⟨rfl, -⟩ := fuseRevocationSources_spec hfuse
  rw [refuseIf_eq_ok, Bool.not_eq_false] at hnamespace
  rw [refuseIf_eq_ok, not_not] at hrequired hpurpose
  exact (authenticateRevocationSources_again ((mapM_eq_ok.mp hpackages).imp fun _ _ hp =>
    authenticateRevocationSource_spec hp) hnamespace hrequired htime hpurpose).trans hfuse

/-! ## A retained revocation result -/

/-- `QualifiedRevocationBundleV1.to_body`, by its fields. -/
structure QualifiedRevocationBody where
  evidence : List EvidenceReferenceV1
  externalFloor : RevocationFloorV1
  profileId : Digest
  publishedAt : ℕ
  requestIds : List Digest
  revocationNamespace : String
  revocationView : RevocationViewV1
  rootVersion : ℕ
  snapshotId : Digest
  timeBundleId : Digest
  validFrom : ℕ
  validUntil : ℕ
  version : ℕ
  deriving DecidableEq

def QualifiedRevocationBundleV1.body (E : AdapterEnv) (bundle : QualifiedRevocationBundleV1) :
    QualifiedRevocationBody where
  evidence := bundle.evidenceBlobs.map (·.reference)
  externalFloor := bundle.externalFloor
  profileId := bundle.profileId
  publishedAt := bundle.publishedAt
  requestIds := bundle.authenticatedPackages.map (·.request.requestId E)
  revocationNamespace := bundle.revocationNamespace
  revocationView := bundle.revocationView
  rootVersion := bundle.rootVersion
  snapshotId := bundle.snapshotId
  timeBundleId := bundle.timeBundleId
  validFrom := bundle.validFrom
  validUntil := bundle.validUntil
  version := bundle.version

/-- `reauthenticate_revocation_bundle_v1`. -/
def reauthenticateRevocationBundleV1 (profile : IntegrityAdapterTrustProfileV1 E)
    (timeBundle : SealedTimeBundleV1) (bundle : QualifiedRevocationBundleV1) :
    Except AdapterError QualifiedRevocationBundleV1 := do
  let fresh ← qualifyRevocationBundleV1 profile bundle.revocationNamespace timeBundle
    (sourceMap (bundle.authenticatedPackages.map fun p => (p.request.sourceId, p.request)))
    (sourceMap (bundle.authenticatedPackages.map fun p => (p.request.sourceId, p.signedEvidence)))
  refuseIf (fresh.body E ≠ bundle.body E)
    ⟨"qualified_revocation_mutation",
      "retained revocation differs after fresh reauthentication"⟩
  return fresh

theorem fuseRevocationSources_namespace {profile : IntegrityAdapterTrustProfileV1 E}
    {revocationNamespace : String} {time : SealedTimeBundleV1}
    {packages : List RevocationPackage} {bundle : QualifiedRevocationBundleV1}
    (h : fuseRevocationSources profile revocationNamespace time packages = .ok bundle) :
    bundle.revocationNamespace = revocationNamespace := by
  obtain ⟨first, -, hrest⟩ := orRefuse_bind_eq_ok.mp h
  obtain ⟨-, hrest⟩ := unit_bind_eq_ok.mp hrest
  obtain ⟨-, hrest⟩ := unit_bind_eq_ok.mp hrest
  obtain ⟨-, hrest⟩ := unit_bind_eq_ok.mp hrest
  obtain ⟨-, hrest⟩ := unit_bind_eq_ok.mp hrest
  obtain ⟨metadata, -, hrest⟩ := orRefuse_bind_eq_ok.mp hrest
  obtain ⟨-, hrest⟩ := unit_bind_eq_ok.mp hrest
  obtain ⟨-, hrest⟩ := unit_bind_eq_ok.mp hrest
  obtain ⟨-, hreturn⟩ := unit_bind_eq_ok.mp hrest
  obtain rfl := Except.ok.inj hreturn
  rfl

theorem qualifyRevocationBundle_namespace {profile : IntegrityAdapterTrustProfileV1 E}
    {revocationNamespace : String} {timeBundle : SealedTimeBundleV1}
    {requests : SourceMap RevocationRequestV1} {signedEvidence : SourceMap SignedEvidenceV1}
    {bundle : QualifiedRevocationBundleV1}
    (h : qualifyRevocationBundleV1 profile revocationNamespace timeBundle requests signedEvidence =
      .ok bundle) : bundle.revocationNamespace = revocationNamespace := by
  obtain ⟨-, hrest⟩ := unit_bind_eq_ok.mp h
  obtain ⟨-, hrest⟩ := unit_bind_eq_ok.mp hrest
  obtain ⟨time, -, hrest⟩ := bind_eq_ok.mp hrest
  obtain ⟨-, hrest⟩ := unit_bind_eq_ok.mp hrest
  obtain ⟨-, hrest⟩ := unit_bind_eq_ok.mp hrest
  obtain ⟨-, hrest⟩ := unit_bind_eq_ok.mp hrest
  obtain ⟨packages, -, hfuse⟩ := bind_eq_ok.mp hrest
  exact fuseRevocationSources_namespace hfuse

/-- A revocation result that qualified is authenticated again from its own packages, and nothing
of it has changed. -/
theorem reauthenticateRevocationBundle_again {profile : IntegrityAdapterTrustProfileV1 E}
    {revocationNamespace : String} {timeBundle : SealedTimeBundleV1}
    {requests : SourceMap RevocationRequestV1} {signedEvidence : SourceMap SignedEvidenceV1}
    {bundle : QualifiedRevocationBundleV1}
    (h : qualifyRevocationBundleV1 profile revocationNamespace timeBundle requests signedEvidence =
      .ok bundle) :
    reauthenticateRevocationBundleV1 profile timeBundle bundle = .ok bundle := by
  have hagain := qualifyRevocationBundle_again h
  rw [← qualifyRevocationBundle_namespace h] at hagain
  rw [reauthenticateRevocationBundleV1, bind_of_ok hagain, refuseIf_bind_of_not (by simp)]
  rfl

/-! ## The law of the fusion -/

/-- The fusion of trusted time. The result does not depend on the order of the packages. The hull
of an accepted bundle is the one of the intervals that the sources of the roster claim in
authenticated packages, these share an instant of the hull, and its width respects the policy of
its purpose. A revocation result that is accepted against the bundle, for any namespace, is valid,
published and not stale at every instant of the closed hull. -/
theorem time_fusion_sound (E : AdapterEnv) (profile : IntegrityAdapterTrustProfileV1 E)
    (requests : SourceMap TrustedTimeRequestV1) (signedEvidence : SourceMap SignedEvidenceV1) :
    (∀ (requests' : SourceMap TrustedTimeRequestV1) (signedEvidence' : SourceMap SignedEvidenceV1),
      requests'.entries.Perm requests.entries →
      signedEvidence'.entries.Perm signedEvidence.entries →
      qualifyTimeBundleV1 profile requests' signedEvidence' =
        qualifyTimeBundleV1 profile requests signedEvidence) ∧
    ∀ bundle, qualifyTimeBundleV1 profile requests signedEvidence = .ok bundle →
      List.Forall₂ (fun sourceId (package : TimePackage) =>
        ∃ request signed, requests.lookup sourceId = some request ∧
          signedEvidence.lookup sourceId = some signed ∧ request.sourceId = sourceId ∧
          authenticateTimeEvidence profile request signed = .ok package)
        profile.timeSourceIds bundle.authenticatedPackages ∧
      IsHull bundle.sourceIntervals (bundle.timeLowerBound, bundle.timeUpperBound) ∧
      (∃ t ∈ Set.Icc bundle.timeLowerBound bundle.timeUpperBound,
        Common bundle.sourceIntervals t) ∧
      bundle.timeUpperBound - bundle.timeLowerBound ≤
        profile.validationPolicy.maximumWidth bundle.purpose ∧
      ∀ (profile' : IntegrityAdapterTrustProfileV1 E) (revocationNamespace : String)
        (revocationRequests : SourceMap RevocationRequestV1)
        (revocationEvidence : SourceMap SignedEvidenceV1)
        (revocation : QualifiedRevocationBundleV1),
        qualifyRevocationBundleV1 profile' revocationNamespace bundle revocationRequests
          revocationEvidence = .ok revocation →
        ∀ t ∈ Set.Icc bundle.timeLowerBound bundle.timeUpperBound,
          revocation.validFrom ≤ t ∧ t < revocation.validUntil ∧ revocation.publishedAt ≤ t ∧
            t - revocation.publishedAt ≤ profile'.maxRevocationStalenessSeconds := by
  refine ⟨fun requests' signedEvidence' hrequests hsigned =>
    qualifyTimeBundle_perm profile hrequests hsigned, fun bundle h => ?_⟩
  obtain ⟨hpackages, hfused⟩ := qualifyTimeBundle_spec h
  obtain ⟨t, ht⟩ := hfused.common
  refine ⟨hpackages.imp fun sourceId package hpackage => ?_, hfused.hull,
    ⟨t, ht.mem_hull hfused.hull, ht⟩, hfused.width, ?_⟩
  · obtain ⟨request, hrequest, hrest⟩ := orRefuse_bind_eq_ok.mp hpackage
    obtain ⟨hsource, hrest⟩ := unit_bind_eq_ok.mp hrest
    obtain ⟨signed, hsigned, hauthentic⟩ := orRefuse_bind_eq_ok.mp hrest
    rw [refuseIf_eq_ok, not_not] at hsource
    exact ⟨request, signed, hrequest, hsigned, hsource, hauthentic⟩
  · intro profile' revocationNamespace revocationRequests revocationEvidence revocation hrevocation
      t ht
    exact revocation_at_every_instant hrevocation ht

/-! ## A sample -/

/-- A digest that names the key of a package, is the number of a key of 32 bytes, and mixes all
other bytes. -/
def sampleSha256 (data : ByteArray) : Digest :=
  if data.size = 32 then
    BitVec.ofNat 256 (data.data.toList.foldl (fun n byte => 256 * n + byte.toNat) 0)
  else
    match strictLoads (fun _ => true) data with
    | .ok (.obj body) =>
      ((body.lookup "key_id").bind str?).elim 0 fun text =>
        digestOf (String.ofList (text.toList.drop 8))
    | _ => BitVec.ofNat 256 (data.data.toList.foldl (fun n byte => 257 * n + byte.toNat) 1)

def sampleSignature : List UInt8 := List.replicate 64 1

def sampleAdapterEnv : AdapterEnv where
  nfc _ := true
  contentId _ _ := 7
  sha256 := sampleSha256
  validKey _ := true
  verifies _ _ signature := signature = sampleSignature

/-- A source whose principal has its own name. -/
def sampleBinding (role : AdapterRole) (revocationNamespace : Option String) (sourceId : String)
    (n : ℕ) (identity : isAdapterIdentity sourceId = true)
    (supported : role ∈ integrityAdapterRolesV1)
    (inScope : if role = .trustedTime then revocationNamespace = none
      else ∃ name ∈ revocationNamespace, isAdapterIdentity name = true) :
    AdapterSourceBindingV1 :=
  ⟨sourceId, role, revocationNamespace, ⟨BitVec.ofNat 256 n⟩, sourceId, 7, ⟨identity, identity⟩,
    supported, inScope⟩

def sampleClockA : AdapterSourceBindingV1 :=
  sampleBinding .trustedTime none "clock_a" 1 (by decide +kernel) (by decide) (by decide)

def sampleClockB : AdapterSourceBindingV1 :=
  sampleBinding .trustedTime none "clock_b" 2 (by decide +kernel) (by decide) (by decide)

def sampleFloorA : AdapterSourceBindingV1 :=
  sampleBinding .revocationFloor (some "keys") "floor_a" 3 (by decide +kernel) (by decide)
    (by decide +kernel)

def sampleFloorB : AdapterSourceBindingV1 :=
  sampleBinding .revocationFloor (some "keys") "floor_b" 4 (by decide +kernel) (by decide)
    (by decide +kernel)

def sampleMetadata : AdapterSourceBindingV1 :=
  sampleBinding .revocationMetadata (some "keys") "metadata" 5 (by decide +kernel) (by decide)
    (by decide +kernel)

def sampleBindings : List AdapterSourceBindingV1 :=
  [sampleFloorA, sampleFloorB, sampleMetadata, sampleClockA, sampleClockB]

def samplePolicy : IntegrityValidationPolicyV1 where
  decisionPolicyId := 7
  decisionTimePolicyId := 7
  checkpointTimePolicyId := 7
  anchorPolicyId := 7
  requiredRevocationNamespaces := ["keys"]
  maxDecisionUncertaintySeconds := 30
  maxCheckpointUncertaintySeconds := 0

def sampleTrustStore : AdapterTrustStoreV1 where
  keys := sampleBindings.map fun b => ⟨b.sourceId, b.principalId, b.role, b.keyId.digest⟩
  revokedKeyIds := []

def sampleAdapterProfile : IntegrityAdapterTrustProfileV1 sampleAdapterEnv where
  serviceInstanceId := "service"
  environmentId := "fixture"
  validationPolicy := samplePolicy
  trustStore := sampleTrustStore
  sourceBindings := sampleBindings
  maxRevocationStalenessSeconds := 40
  identities := by decide +kernel
  bounded := ⟨by simp [sampleBindings], by decide⟩
  sorted := by decide +kernel
  independent := by decide +kernel
  exactKeys := by decide +kernel
  matched := by decide +kernel
  timeSources := by decide
  revocationSources := by decide +kernel
  namespaces := by decide +kernel
  staleness := by decide

/-- The authenticated package of a source whose wire is known. -/
def samplePackage {ρ κ : Type} (binding : AdapterSourceBindingV1) (frame : RequestFrame)
    (claim : List (String × Json)) (request : ρ) (claimed : κ) (wire : ByteArray) :
    AuthenticatedProviderEvidencePackageV1 ρ κ where
  profileId := 7
  request := request
  signedEvidence := signedAnswer sampleAdapterProfile binding frame claim sampleSignature
  statement := answer sampleAdapterProfile binding frame claim
  sourceBinding := binding
  providerEvidence := ⟨frame.role.evidenceKind, binding.sourceId, binding.keyId.digest,
    wire.data.toList⟩
  claim := claimed

/-- A package names its key. -/
theorem sampleSha256_wire {signed : SignedEvidenceV1} {k : KeyId} {wire : ByteArray}
    (hkeyId : signed.keyId = k.text)
    (hwire : providerEvidenceBytes sampleAdapterEnv signed = .ok wire) (hsize : wire.size ≠ 32) :
    sampleSha256 wire = k.digest := by
  rw [providerEvidenceBytes, canonicalRecordBytes, mapError_eq_ok] at hwire
  have hnormal : normalForm signed.toBody = signed.toBody := by
    simp [SignedEvidenceV1.toBody, normalForm, normalFormMembers, setItem, sortMembers]
  have hload : strictLoads (fun _ => true) wire = .ok signed.toBody :=
    (strictLoads_canonicalDumps hwire).trans (congrArg _ hnormal)
  have hdrop : (String.ofList (k.text.toList.drop 8)) = contentIdText k.digest := by
    have hstart : "ed25519:".toList.length = 8 := by rfl
    rw [KeyId.text, String.toList_append, List.drop_left' hstart, String.ofList_toList]
  rw [sampleSha256, if_neg hsize, hload]
  simp only [SignedEvidenceV1.toBody, List.lookup, String.reduceBEq, Option.bind_some, str?,
    Option.elim_some, hkeyId, hdrop, digestOf_contentIdText]

/-- A sample source that signs a valid claim is authenticated. -/
theorem samplePackage_authenticated {ρ κ : Type} (frame : RequestFrame)
    (validateClaim : List (String × Json) → Except AdapterError κ) (request : ρ)
    {binding : AdapterSourceBindingV1} {claim : List (String × Json)} {claimed : κ}
    (hbinding : binding ∈ sampleBindings) (hframe : frame.profileId = 7 ∧ frame.trustRootId = 7 ∧
      frame.serviceInstanceId = "service" ∧ frame.environmentId = "fixture")
    (hrole : binding.role = frame.role) (hsource : binding.sourceId = frame.sourceId)
    (hnamespace : binding.revocationNamespace = frame.revocationNamespace)
    (hclaim : Admitted sampleAdapterEnv.nfc 1 (.obj claim) ∧ nodes (.obj claim) ≤ 1000 ∧
      weight (.obj claim) ≤ 20000) (hclaimed : validateClaim claim = .ok claimed) :
    ∃ wire : ByteArray, wire.size ≤ maxProviderEvidenceBlobBytesV1 ∧
      authenticateProviderEvidenceV1 sampleAdapterProfile frame validateClaim request
        (signedAnswer sampleAdapterProfile binding frame claim sampleSignature) =
          .ok (samplePackage binding frame claim request claimed wire) := by
  obtain ⟨key, hkey, -⟩ := sampleAdapterProfile.matched binding hbinding
  obtain ⟨wire, hwire, hlong, hbounded, hauthentic⟩ := authenticate_signedAnswer request hframe
    (bindingFor_eq_ok.mpr ⟨hbinding, hrole, hsource, hnamespace⟩)
    (by simp [sampleAdapterProfile, sampleTrustStore]) hkey (decide_eq_true rfl) hclaim hclaimed
    (by decide)
  have hlength := length_keyIdText binding.keyId
  refine ⟨wire, hbounded, hauthentic.trans ?_⟩
  rw [samplePackage, show sampleAdapterEnv.sha256 wire = binding.keyId.digest from
    sampleSha256_wire rfl hwire (by omega)]
  rfl

def sampleTimeRequest (sourceId : String) : TrustedTimeRequestV1 where
  profileId := 7
  trustRootId := 7
  serviceInstanceId := "service"
  environmentId := "fixture"
  missionId := 11
  authorityId := 12
  targetId := 13
  eventDigest := 14
  transitionIntentId := 15
  sourceId := sourceId
  purpose := .decision
  timePolicyId := 7
  imprintId := 16
  requestNonce := 17

/-- The package of a clock. -/
def sampleClockPackage (binding : AdapterSourceBindingV1) (claim : TrustedTimeClaim)
    (wire : ByteArray) : TimePackage :=
  let request := sampleTimeRequest binding.sourceId
  samplePackage binding (request.frame sampleAdapterEnv) (claim.toBody request) request claim wire

def sampleClaimA : TrustedTimeClaim := ⟨100, 120, by decide⟩

def sampleClaimB : TrustedTimeClaim := ⟨110, 130, by decide⟩

/-- The time of both clocks. -/
def sampleTimeBundle (wireA wireB : ByteArray) : SealedTimeBundleV1 where
  profileId := 7
  serviceInstanceId := "service"
  environmentId := "fixture"
  missionId := 11
  authorityId := 12
  targetId := 13
  eventDigest := 14
  transitionIntentId := 15
  purpose := .decision
  timePolicyId := 7
  imprintId := 16
  requestNonce := 17
  authenticatedPackages :=
    [sampleClockPackage sampleClockA sampleClaimA wireA,
      sampleClockPackage sampleClockB sampleClaimB wireB]
  timeLowerBound := 100
  timeUpperBound := 130
  interval := by decide

/-- The request of a clock for the transition of an event. -/
def sampleTimeRequestAt (event : Digest) (sourceId : String) : TrustedTimeRequestV1 :=
  { sampleTimeRequest sourceId with eventDigest := event }

def sampleClockPackageAt (event : Digest) (binding : AdapterSourceBindingV1)
    (claim : TrustedTimeClaim) (wire : ByteArray) : TimePackage :=
  let request := sampleTimeRequestAt event binding.sourceId
  samplePackage binding (request.frame sampleAdapterEnv) (claim.toBody request) request claim wire

/-- The time of both clocks for the transition of an event. -/
def sampleTimeBundleAt (event : Digest) (wireA wireB : ByteArray) : SealedTimeBundleV1 :=
  { sampleTimeBundle wireA wireB with
    eventDigest := event
    authenticatedPackages :=
      [sampleClockPackageAt event sampleClockA sampleClaimA wireA,
        sampleClockPackageAt event sampleClockB sampleClaimB wireB] }

theorem samplePackage_content {ρ κ : Type} (binding : AdapterSourceBindingV1)
    (frame : RequestFrame) (claim : List (String × Json)) (request : ρ) (claimed : κ)
    (wire : ByteArray) :
    (samplePackage binding frame claim request claimed wire).providerEvidence.content.length =
      wire.size := by
  rw [samplePackage, Array.length_toList, ByteArray.size_data]

theorem sampleClockAt_authenticated (event : Digest) {binding : AdapterSourceBindingV1}
    (claim : TrustedTimeClaim) (hbinding : binding ∈ sampleBindings)
    (hrole : binding.role = .trustedTime) (hnamespace : binding.revocationNamespace = none)
    (hclaim : claim.timeUpperBound ≤ maxAdapterEpoch) :
    ∃ wire : ByteArray, wire.size ≤ maxProviderEvidenceBlobBytesV1 ∧
      let package := sampleClockPackageAt event binding claim wire
      authenticateTimeEvidence sampleAdapterProfile package.request package.signedEvidence =
        .ok package :=
  let request := sampleTimeRequestAt event binding.sourceId
  samplePackage_authenticated (request.frame sampleAdapterEnv) (validateTimeClaim request) request
    hbinding ⟨rfl, rfl, rfl, rfl⟩ hrole rfl hnamespace (claim.toBody_small request hclaim)
    (validateTimeClaim_toBody request hclaim)

/-- The clocks qualify for every event. -/
theorem sampleTimeBundleAt_qualified (event : Digest) :
    ∃ wireA wireB : ByteArray, ∃ requests signedEvidence,
      qualifyTimeBundleV1 sampleAdapterProfile requests signedEvidence =
        .ok (sampleTimeBundleAt event wireA wireB) := by
  obtain ⟨wireA, hsizeA, hA⟩ := sampleClockAt_authenticated event sampleClaimA
    (by simp [sampleBindings] : sampleClockA ∈ sampleBindings) rfl rfl (by decide)
  obtain ⟨wireB, hsizeB, hB⟩ := sampleClockAt_authenticated event sampleClaimB
    (by simp [sampleBindings] : sampleClockB ∈ sampleBindings) rfl rfl (by decide)
  let packages := (sampleTimeBundleAt event wireA wireB).authenticatedPackages
  refine ⟨wireA, wireB, _, _, (authenticateTimeSources_again packages rfl
    (List.forall_mem_cons.mpr ⟨hA, List.forall_mem_singleton.mpr hB⟩)).trans ?_⟩
  have hbytes : ¬evidenceBytes (packages.map (·.providerEvidence)) >
      maxAdapterTotalEvidenceBytesV1 := by
    refine not_lt.mpr (evidenceBytes_le (by decide : 2 ≤ 16) (List.forall_mem_map.mpr
      (List.forall_mem_cons.mpr ⟨?_, List.forall_mem_singleton.mpr ?_⟩)))
    · exact (samplePackage_content _ _ _ _ _ wireA).trans_le hsizeA
    · exact (samplePackage_content _ _ _ _ _ wireB).trans_le hsizeB
  have hcontext : ¬∃ package ∈ packages.tail,
      package.request.context ≠ (sampleTimeRequestAt event "clock_a").context := by
    rintro ⟨package, hmem, hne⟩
    obtain rfl := List.mem_singleton.mp hmem
    exact hne rfl
  have hintervals : packages.map (·.claim.bounds) = [(100, 120), (110, 130)] := rfl
  have hfirst : packages.head?.map (·.request) = some (sampleTimeRequestAt event "clock_a") := rfl
  have hoverlap : overlap? [(100, 120), (110, 130)] = some (110, 120) := by decide
  have hhull : hull? [(100, 120), (110, 130)] = some (100, 130) := by decide
  rw [fuseTimeSources, hintervals, bind_of_ok (orRefuse_eq_ok.mpr hfirst),
    refuseIf_bind_of_not hcontext]
  simp only
  rw [bind_of_ok (orRefuse_eq_ok.mpr hoverlap), refuseIf_bind_of_not (by decide),
    bind_of_ok (orRefuse_eq_ok.mpr hhull), show sampleAdapterProfile.validationPolicy.maximumWidth
      (sampleTimeRequestAt event "clock_a").purpose = 30 from rfl,
    refuseIf_bind_of_not (by decide), refuseIf_bind_of_not (by decide),
    refuseIf_bind_of_not hbytes, requireThat_bind (by decide)]
  rfl

/-- The clocks qualify. -/
theorem sampleTimeBundle_qualified : ∃ wireA wireB : ByteArray, ∃ requests signedEvidence,
    qualifyTimeBundleV1 sampleAdapterProfile requests signedEvidence =
      .ok (sampleTimeBundle wireA wireB) :=
  sampleTimeBundleAt_qualified 14

def sampleTimeEvidence : List EvidenceReferenceV1 :=
  [⟨.trustedTime, "clock_a", 1⟩, ⟨.trustedTime, "clock_b", 2⟩]

def sampleRevocationRequest (binding : AdapterSourceBindingV1)
    (supported : binding.role ∈ [AdapterRole.revocationMetadata, AdapterRole.revocationFloor]) :
    RevocationRequestV1 where
  profileId := 7
  trustRootId := 7
  serviceInstanceId := "service"
  environmentId := "fixture"
  missionId := 11
  authorityId := 12
  targetId := 13
  eventDigest := 14
  transitionIntentId := 15
  sourceId := binding.sourceId
  evidenceRole := binding.role
  revocationNamespace := "keys"
  decisionPolicyId := 7
  timeBundleId := 7
  timeLowerBound := 100
  timeUpperBound := 130
  timeEvidence := sampleTimeEvidence
  priorRootVersion := 0
  priorVersion := 0
  priorSnapshotId := 7
  requestNonce := 17
  supported := supported
  interval := by decide
  canonical := by decide +kernel

/-- The request of a source is bound to the time of the clocks. -/
theorem sampleRevocationRequest_matches {binding : AdapterSourceBindingV1}
    (supported : binding.role ∈ [AdapterRole.revocationMetadata, AdapterRole.revocationFloor])
    (wireA wireB : ByteArray) : (sampleRevocationRequest binding supported).Matches
      sampleAdapterProfile binding "keys" (sampleTimeBundle wireA wireB) :=
  ⟨rfl, rfl, rfl, rfl, rfl, rfl, rfl, rfl, rfl, rfl, rfl, rfl, rfl, rfl, rfl, rfl, rfl⟩

def sampleState : RevocationClaim where
  rootVersion := 1
  version := 1
  snapshotId := 18
  publishedAt := 90
  validFrom := 50
  validUntil := 131
  window := by decide

/-- The package of a revocation source. -/
def sampleRevocationPackage (binding : AdapterSourceBindingV1)
    (supported : binding.role ∈ [AdapterRole.revocationMetadata, AdapterRole.revocationFloor])
    (wire : ByteArray) : RevocationPackage :=
  let request := sampleRevocationRequest binding supported
  samplePackage binding (request.frame sampleAdapterEnv) (sampleState.toBody request) request
    sampleState wire

theorem sampleRevocation_authenticated {binding : AdapterSourceBindingV1}
    (supported : binding.role ∈ [AdapterRole.revocationMetadata, AdapterRole.revocationFloor])
    (hbinding : binding ∈ sampleBindings) (hnamespace : binding.revocationNamespace = some "keys") :
    ∃ wire : ByteArray, wire.size ≤ maxProviderEvidenceBlobBytesV1 ∧
      let package := sampleRevocationPackage binding supported wire
      authenticateRevocationEvidence sampleAdapterProfile package.request package.signedEvidence =
        .ok package :=
  let request := sampleRevocationRequest binding supported
  samplePackage_authenticated (request.frame sampleAdapterEnv) (validateRevocationClaim request)
    request hbinding ⟨rfl, rfl, rfl, rfl⟩ rfl rfl hnamespace
    (RevocationClaim.toBody_small (by decide +kernel : isAdapterIdentity "keys" = true)
      (by decide) (by decide) (by decide))
    (validateRevocationClaim_toBody request (by decide) (by decide) (by decide))

/-- The revocation sources qualify against the time of the clocks. -/
theorem sampleRevocation_qualified {wireA wireB : ByteArray}
    {requests : SourceMap TrustedTimeRequestV1} {signedEvidence : SourceMap SignedEvidenceV1}
    (htime : qualifyTimeBundleV1 sampleAdapterProfile requests signedEvidence =
      .ok (sampleTimeBundle wireA wireB)) :
    ∃ revocationRequests revocationEvidence revocation,
      qualifyRevocationBundleV1 sampleAdapterProfile "keys" (sampleTimeBundle wireA wireB)
        revocationRequests revocationEvidence = .ok revocation := by
  have hA : sampleFloorA.role ∈ [AdapterRole.revocationMetadata, AdapterRole.revocationFloor] := by
    decide
  have hB : sampleFloorB.role ∈ [AdapterRole.revocationMetadata, AdapterRole.revocationFloor] := by
    decide
  have hM : sampleMetadata.role ∈
      [AdapterRole.revocationMetadata, AdapterRole.revocationFloor] := by
    decide
  obtain ⟨floorA, hsizeA, hfloorA⟩ :=
    sampleRevocation_authenticated hA (by simp [sampleBindings]) rfl
  obtain ⟨floorB, hsizeB, hfloorB⟩ :=
    sampleRevocation_authenticated hB (by simp [sampleBindings]) rfl
  obtain ⟨metadata, hsizeM, hmetadata⟩ :=
    sampleRevocation_authenticated hM (by simp [sampleBindings]) rfl
  let packages := [sampleRevocationPackage sampleFloorA hA floorA,
    sampleRevocationPackage sampleFloorB hB floorB,
    sampleRevocationPackage sampleMetadata hM metadata]
  have hbindings : sampleAdapterProfile.revocationBindings "keys" =
      [sampleFloorA, sampleFloorB, sampleMetadata] := by
    decide +kernel
  have hall : List.Forall₂ (fun binding (package : RevocationPackage) =>
      package.request.Matches sampleAdapterProfile binding "keys" (sampleTimeBundle wireA wireB) ∧
        authenticateRevocationEvidence sampleAdapterProfile package.request package.signedEvidence =
          .ok package) (sampleAdapterProfile.revocationBindings "keys") packages := by
    rw [hbindings]
    exact .cons ⟨sampleRevocationRequest_matches hA wireA wireB, hfloorA⟩
      (.cons ⟨sampleRevocationRequest_matches hB wireA wireB, hfloorB⟩
        (.cons ⟨sampleRevocationRequest_matches hM wireA wireB, hmetadata⟩ .nil))
  have hbytes : ∀ package ∈ packages,
      package.providerEvidence.content.length ≤ maxProviderEvidenceBlobBytesV1 := by
    simp only [packages, List.forall_mem_cons, List.not_mem_nil, false_imp_iff, implies_true,
      and_true]
    exact ⟨(samplePackage_content _ _ _ _ _ floorA).trans_le hsizeA,
      (samplePackage_content _ _ _ _ _ floorB).trans_le hsizeB,
      (samplePackage_content _ _ _ _ _ metadata).trans_le hsizeM⟩
  have hagree : ∀ package ∈ packages.tail, package.request.predecessor = (0, 0, 7) ∧
      package.claim = sampleState :=
    List.forall_mem_cons.mpr ⟨⟨rfl, rfl⟩, List.forall_mem_singleton.mpr ⟨rfl, rfl⟩⟩
  have hfresh : requireHullFresh sampleAdapterProfile (sampleTimeBundle wireA wireB) sampleState =
      .ok () :=
    requireHullFresh_eq_ok.mpr (by decide : 50 ≤ 100 ∧ 130 < 131 ∧ 90 ≤ 100 ∧ 130 - 90 ≤ 40)
  have hevidence : requireFloorEvidence
      [⟨.externalFloor, "floor_a", 3⟩, ⟨.externalFloor, "floor_b", 4⟩] = .ok () := by
    decide +kernel
  obtain ⟨revocation, hrevocation, -, -⟩ := @fuseRevocationSources_of _ sampleAdapterProfile "keys"
    (sampleTimeBundle wireA wireB) packages
    [sampleRevocationPackage sampleFloorA hA floorA, sampleRevocationPackage sampleFloorB hB floorB]
    (sampleRevocationPackage sampleFloorA hA floorA) (sampleRevocationPackage sampleMetadata hM
      metadata) rfl hagree hfresh rfl rfl rfl le_rfl hevidence (by decide : 3 ≤ 16) hbytes
  exact ⟨_, _, revocation, (authenticateRevocationSources_again hall
    (by decide +kernel : isAdapterIdentity "keys" = true)
    (by decide +kernel : "keys" ∈ samplePolicy.requiredRevocationNamespaces)
    (reauthenticateTimeBundle_again htime) rfl).trans hrevocation⟩

/-- The bundle of the three sample sources. -/
theorem reauthenticateRevocationBundle_again_sample : ∃ time requests signedEvidence bundle,
    qualifyRevocationBundleV1 sampleAdapterProfile "keys" time requests signedEvidence =
      .ok bundle ∧
    reauthenticateRevocationBundleV1 sampleAdapterProfile time bundle = .ok bundle := by
  obtain ⟨wireA, wireB, timeRequests, timeEvidence, htime⟩ := sampleTimeBundle_qualified
  obtain ⟨requests, signedEvidence, bundle, hbundle⟩ := sampleRevocation_qualified htime
  exact ⟨_, requests, signedEvidence, bundle, hbundle, reauthenticateRevocationBundle_again hbundle⟩

/-- Two clocks of 20 seconds each, with the revocation that is current over their hull. -/
theorem time_fusion_sound_sample : ∃ requests signedEvidence bundle revocationRequests
    revocationEvidence revocation,
      qualifyTimeBundleV1 sampleAdapterProfile requests signedEvidence = .ok bundle ∧
      qualifyRevocationBundleV1 sampleAdapterProfile "keys" bundle revocationRequests
        revocationEvidence = .ok revocation ∧
      (bundle.timeLowerBound, bundle.timeUpperBound) = (100, 130) ∧
      IsHull bundle.sourceIntervals (100, 130) ∧ (∃ t, Common bundle.sourceIntervals t) ∧
      revocation.validFrom ≤ 100 ∧ 130 < revocation.validUntil ∧ revocation.publishedAt ≤ 100 ∧
      130 - revocation.publishedAt ≤ 40 := by
  obtain ⟨wireA, wireB, requests, signedEvidence, htime⟩ := sampleTimeBundle_qualified
  obtain ⟨revocationRequests, revocationEvidence, revocation, hrevocation⟩ :=
    sampleRevocation_qualified htime
  obtain ⟨-, hhull, ⟨t, -, ht⟩, -, hvalid⟩ :=
    (time_fusion_sound sampleAdapterEnv sampleAdapterProfile requests signedEvidence).2 _ htime
  have hat := hvalid sampleAdapterProfile "keys" revocationRequests revocationEvidence revocation
    hrevocation
  obtain ⟨hfrom, -, hpublished, -⟩ := hat 100 ⟨le_rfl, (by decide : 100 ≤ 130)⟩
  obtain ⟨-, huntil, -, hstale⟩ := hat 130 ⟨(by decide : 100 ≤ 130), le_rfl⟩
  exact ⟨requests, signedEvidence, _, revocationRequests, revocationEvidence, revocation, htime,
    hrevocation, rfl, hhull, ⟨t, ht⟩, hfrom, huntil, hpublished, hstale⟩

end Etzio
