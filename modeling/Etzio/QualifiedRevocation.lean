import Mathlib
import Etzio.TimeBundles

/-!
# Qualified revocation

The revocation requests that the qualified lifecycle derives from a retained predecessor, and what
the bundle that answers them is against the kernel's rule of the advance. Both layers refuse a
rollback. They differ on an unchanged version : the adapters ask that its root and snapshot are the
retained ones, and the kernel that its whole view is, evidence and validity included.
`revocation_continuity` says, on the packages the sources sign, exactly when the kernel passes what
the adapters accepted.
-/

open CheckedRun JsonText IntervalFusion

namespace Etzio

variable {E : AdapterEnv}

/-! ## Requests -/

/-- `RevocationRequestV1.issue`, against a sealed time. -/
def RevocationRequestV1.issue (profile : IntegrityAdapterTrustProfileV1 E) (sourceId : String)
    (evidenceRole : AdapterRole) (revocationNamespace : String) (time : SealedTimeBundleV1)
    (prior : ℕ × ℕ × Digest) (requestNonce : BitVec 256) :
    Except AdapterError RevocationRequestV1 := do
  let _ ← profile.bindingFor evidenceRole sourceId (some revocationNamespace)
  let ⟨_, supported⟩ ← requireThat
    (evidenceRole ∈ [AdapterRole.revocationMetadata, AdapterRole.revocationFloor])
    ⟨"invalid_revocation_request", "revocation request has a non-revocation evidence role"⟩
  let timeEvidence := time.evidence.mergeSort fun a b => ¬b.Before a
  let ⟨_, canonical⟩ ← requireThat
    (timeEvidence.Pairwise EvidenceReferenceV1.Before ∧ 2 ≤ timeEvidence.length ∧
      timeEvidence.length ≤ maxAdapterSourcesV1 ∧
      ∀ reference ∈ timeEvidence, reference.evidenceKind = .trustedTime)
    ⟨"invalid_adapter_evidence_references",
      "evidence references have wrong coverage, kind, or uniqueness"⟩
  return {
    sourceId, evidenceRole, revocationNamespace, timeEvidence, requestNonce, supported, canonical
    profileId := profile.profileId
    trustRootId := profile.trustRootId
    serviceInstanceId := profile.serviceInstanceId
    environmentId := profile.environmentId
    missionId := time.missionId
    authorityId := time.authorityId
    targetId := time.targetId
    eventDigest := time.eventDigest
    transitionIntentId := time.transitionIntentId
    decisionPolicyId := profile.validationPolicy.decisionPolicyId
    timeBundleId := time.bundleId E
    timeLowerBound := time.timeLowerBound
    timeUpperBound := time.timeUpperBound
    priorRootVersion := prior.1
    priorVersion := prior.2.1
    priorSnapshotId := prior.2.2
    interval := time.interval }

/-- `qualified_revocation_nonce_v1`. -/
def qualifiedRevocationNonceV1 (E : AdapterEnv) (revocationNamespace : String)
    (timeBundleId : Digest) : BitVec 256 :=
  E.contentId "qualified_fixture_revocation_request_v1"
    (.obj [("namespace", .str revocationNamespace),
      ("time_bundle_id", .str (contentIdText timeBundleId))])

/-- The root version, the version and the snapshot that the next state extends : those of the
predecessor's floor, or zero and the namespace's own genesis. -/
def revocationPredecessor (profile : IntegrityAdapterTrustProfileV1 E)
    (revocationNamespace : String) :
    Option IntegrityLineageV1 → Except AdapterError (ℕ × ℕ × Digest)
  | none => .ok (0, 0, E.contentId "qualified_fixture_revocation_genesis_v1"
      (.obj [("namespace", .str revocationNamespace),
        ("profile_id", .str (contentIdText profile.profileId))]))
  | some previous => do
    let floor ← orRefuse (singleton? (previous.pending.revocationFloors.filter fun floor =>
        floor.revocationNamespace = revocationNamespace))
      ⟨"qualified_revocation_predecessor_missing", "one retained predecessor floor is required"⟩
    return (floor.rootVersion, floor.version, floor.snapshotId)

/-- `qualified_revocation_requests_v1`. -/
def qualifiedRevocationRequestsV1 (profile : IntegrityAdapterTrustProfileV1 E)
    (time : SealedTimeBundleV1) (revocationNamespace : String)
    (previousGlobal : Option IntegrityLineageV1) :
    Except AdapterError (SourceMap RevocationRequestV1) := do
  let prior ← revocationPredecessor profile revocationNamespace previousGlobal
  let bindings := profile.sourceBindings.filter fun binding =>
    binding.revocationNamespace = some revocationNamespace
  let requests ← bindings.mapM fun binding => RevocationRequestV1.issue profile binding.sourceId
    binding.role revocationNamespace time prior
    (qualifiedRevocationNonceV1 E revocationNamespace (time.bundleId E))
  return sourceMap (requests.map fun request => (request.sourceId, request))

/-! ## What a request names -/

theorem RevocationRequestV1.issue_predecessor {profile : IntegrityAdapterTrustProfileV1 E}
    {sourceId revocationNamespace : String} {evidenceRole : AdapterRole}
    {time : SealedTimeBundleV1} {prior : ℕ × ℕ × Digest} {requestNonce : BitVec 256}
    {request : RevocationRequestV1}
    (h : RevocationRequestV1.issue profile sourceId evidenceRole revocationNamespace time prior
      requestNonce = .ok request) : request.predecessor = prior := by
  obtain ⟨_, -, hrest⟩ := bind_eq_ok.mp h
  obtain ⟨_, -, hrest⟩ := bind_eq_ok.mp hrest
  obtain ⟨_, -, hreturn⟩ := bind_eq_ok.mp hrest
  obtain rfl := Except.ok.inj hreturn
  rfl

/-- A value that is found in a dictionary is one of its entries'. -/
theorem mem_of_lookup_sourceMap {α : Type} {entries : List (String × α)} {m : SourceMap α}
    {key : String} {value : α}
    (h : (entries.foldl (fun m entry => m.insert entry.1 entry.2) m).lookup key = some value) :
    m.lookup key = some value ∨ (key, value) ∈ entries := by
  induction entries generalizing m with
  | nil => exact Or.inl h
  | cons entry entries ih =>
    rcases ih h with hm | hmem
    · by_cases hkey : key = entry.1
      · subst hkey
        rw [AList.lookup_insert, Option.some.injEq] at hm
        exact Or.inr (hm ▸ List.mem_cons_self)
      · rw [AList.lookup_insert_ne hkey] at hm
        exact Or.inl hm
    · exact Or.inr (List.mem_cons_of_mem _ hmem)

/-- Every derived request names the state of the predecessor. -/
theorem qualifiedRevocationRequests_predecessor {profile : IntegrityAdapterTrustProfileV1 E}
    {time : SealedTimeBundleV1} {revocationNamespace : String}
    {previousGlobal : Option IntegrityLineageV1} {requests : SourceMap RevocationRequestV1}
    (h : qualifiedRevocationRequestsV1 profile time revocationNamespace previousGlobal =
      .ok requests) : ∃ prior,
        revocationPredecessor profile revocationNamespace previousGlobal = .ok prior ∧
        ∀ key request, requests.lookup key = some request → request.predecessor = prior := by
  obtain ⟨prior, hprior, hrest⟩ := bind_eq_ok.mp h
  obtain ⟨issued, hissued, hreturn⟩ := bind_eq_ok.mp hrest
  obtain rfl := Except.ok.inj hreturn
  refine ⟨prior, hprior, fun key request hlookup => ?_⟩
  obtain hempty | hmem := mem_of_lookup_sourceMap hlookup
  · simp at hempty
  · obtain ⟨request', hmem', heq⟩ := List.mem_map.mp hmem
    obtain ⟨-, rfl⟩ := Prod.mk.inj heq
    obtain ⟨_, -, hissue⟩ := exists_related_of_mem (mapM_eq_ok.mp hissued).flip hmem'
    exact RevocationRequestV1.issue_predecessor hissue

/-! ## The rule of both layers -/

/-- The root version, the version and the snapshot of a state. -/
def RevocationClaim.state (claim : RevocationClaim) : ℕ × ℕ × Digest :=
  (claim.rootVersion, claim.version, claim.snapshotId)

def RevocationViewV1.state (view : RevocationViewV1) : ℕ × ℕ × Digest :=
  (view.rootVersion, view.version, view.snapshotId)

def RevocationFloorV1.state (floor : RevocationFloorV1) : ℕ × ℕ × Digest :=
  (floor.rootVersion, floor.version, floor.snapshotId)

/-- A state that extends a retained one : neither version goes back, and an unchanged version has
the retained root and snapshot. -/
structure Extends (prior state : ℕ × ℕ × Digest) : Prop where
  root : prior.1 ≤ state.1
  version : prior.2.1 ≤ state.2.1
  unchanged : state.2.1 = prior.2.1 → state = prior

/-- What the adapters refuse as a rollback does not extend the retained state. -/
theorem requireNoRollback_extends {prior : ℕ × ℕ × Digest} {claim : RevocationClaim}
    (h : requireNoRollback prior claim = .ok ()) : Extends prior claim.state := by
  obtain ⟨hroot, hrest⟩ := unit_bind_eq_ok.mp h
  obtain ⟨-, hrest⟩ := unit_bind_eq_ok.mp hrest
  obtain ⟨hversion, hsame⟩ := unit_bind_eq_ok.mp hrest
  rw [refuseIf_eq_ok, not_lt] at hroot hversion
  rw [refuseIf_eq_ok] at hsame
  refine ⟨hroot, hversion, fun hunchanged => ?_⟩
  have hkept : claim.rootVersion = prior.1 ∧ claim.snapshotId = prior.2.2 := by
    simp only [RevocationClaim.state] at hunchanged
    tauto
  exact Prod.ext hkept.1 (Prod.ext hunchanged hkept.2)

/-- What the kernel passes for one namespace : a view that is not behind the retained one and is
the retained one when its version is, and a floor that extends it. -/
theorem validateNamespaceAdvance_eq_ok {views : List RevocationViewV1}
    {floors : List RevocationFloorV1} {prior candidate : RevocationViewV1}
    {floor : RevocationFloorV1} (hview : viewOf views prior.revocationNamespace = some candidate)
    (hfloor : floorOf floors prior.revocationNamespace = some floor) :
    validateNamespaceAdvance views floors prior = .ok () ↔
      prior.rootVersion ≤ candidate.rootVersion ∧ prior.version ≤ candidate.version ∧
        (candidate.version = prior.version → candidate = prior) ∧
        Extends prior.state floor.state := by
  rw [validateNamespaceAdvance, hview, hfloor]
  simp only [orRefuse_some_bind, unit_bind_eq_ok, refuseIf_eq_ok, not_lt, not_or, not_and,
    not_not]
  constructor
  · rintro ⟨hroot, hversion, hsame, ⟨hfloorRoot, hfloorVersion⟩, hkept⟩
    refine ⟨hroot, hversion, hsame, hfloorRoot, hfloorVersion, fun hunchanged => ?_⟩
    obtain ⟨hsameRoot, hsnapshot⟩ := hkept hunchanged
    exact Prod.ext hsameRoot (Prod.ext hunchanged hsnapshot)
  · rintro ⟨hroot, hversion, hsame, hextends⟩
    refine ⟨hroot, hversion, hsame, ⟨hextends.root, hextends.version⟩, fun hunchanged => ?_⟩
    have hkept := hextends.unchanged hunchanged
    exact ⟨congrArg Prod.fst hkept, congrArg (fun s => s.2.2) hkept⟩

/-! ## The bundle that answers -/

/-- The view and the floor of a bundle are of its namespace and its state, and that state extends
the one its requests name. -/
theorem fuseRevocationSources_extends {profile : IntegrityAdapterTrustProfileV1 E}
    {revocationNamespace : String} {time : SealedTimeBundleV1}
    {packages : List RevocationPackage} {bundle : QualifiedRevocationBundleV1}
    (h : fuseRevocationSources profile revocationNamespace time packages = .ok bundle) :
    bundle.revocationView.revocationNamespace = revocationNamespace ∧
      bundle.externalFloor.revocationNamespace = revocationNamespace ∧
      bundle.revocationView.state = bundle.state ∧ bundle.externalFloor.state = bundle.state ∧
      ∃ package ∈ packages, Extends package.request.predecessor bundle.state := by
  obtain ⟨first, hfirst, hrest⟩ := orRefuse_bind_eq_ok.mp h
  obtain ⟨-, hrest⟩ := unit_bind_eq_ok.mp hrest
  obtain ⟨-, hrest⟩ := unit_bind_eq_ok.mp hrest
  obtain ⟨-, hrest⟩ := unit_bind_eq_ok.mp hrest
  obtain ⟨hrollback, hrest⟩ := unit_bind_eq_ok.mp hrest
  obtain ⟨metadata, -, hrest⟩ := orRefuse_bind_eq_ok.mp hrest
  obtain ⟨-, hrest⟩ := unit_bind_eq_ok.mp hrest
  obtain ⟨-, hrest⟩ := unit_bind_eq_ok.mp hrest
  obtain ⟨-, hreturn⟩ := unit_bind_eq_ok.mp hrest
  obtain rfl := Except.ok.inj hreturn
  exact ⟨rfl, rfl, rfl, rfl, first, List.mem_of_mem_head? hfirst,
    requireNoRollback_extends hrollback⟩

/-- The package of a source answers the request that is under its source. -/
theorem authenticateRevocationSource_lookup {profile : IntegrityAdapterTrustProfileV1 E}
    {revocationNamespace : String} {time : SealedTimeBundleV1}
    {requests : SourceMap RevocationRequestV1} {signedEvidence : SourceMap SignedEvidenceV1}
    {binding : AdapterSourceBindingV1} {package : RevocationPackage}
    (h : authenticateRevocationSource profile revocationNamespace time requests signedEvidence
      binding = .ok package) : requests.lookup binding.sourceId = some package.request := by
  obtain ⟨request, hrequest, hrest⟩ := orRefuse_bind_eq_ok.mp h
  obtain ⟨signed, -, hrest⟩ := orRefuse_bind_eq_ok.mp hrest
  obtain ⟨_, hauthentic, hrest⟩ := bind_eq_ok.mp hrest
  obtain ⟨-, hreturn⟩ := unit_bind_eq_ok.mp hrest
  obtain rfl := Except.ok.inj hreturn
  obtain ⟨-, -, -, -, -, -, -, hsame, -⟩ := authenticate_eq_ok.mp hauthentic
  rw [hrequest, hsame]

/-- A bundle that answers derived requests extends the predecessor they were derived from. -/
theorem qualifyRevocationBundle_extends {profile : IntegrityAdapterTrustProfileV1 E}
    {revocationNamespace : String} {time : SealedTimeBundleV1}
    {previousGlobal : Option IntegrityLineageV1} {requests : SourceMap RevocationRequestV1}
    {signedEvidence : SourceMap SignedEvidenceV1} {bundle : QualifiedRevocationBundleV1}
    (hrequests : qualifiedRevocationRequestsV1 profile time revocationNamespace previousGlobal =
      .ok requests)
    (hbundle : qualifyRevocationBundleV1 profile revocationNamespace time requests
      signedEvidence = .ok bundle) :
    bundle.revocationView.revocationNamespace = revocationNamespace ∧
      bundle.externalFloor.revocationNamespace = revocationNamespace ∧
      bundle.revocationView.state = bundle.state ∧ bundle.externalFloor.state = bundle.state ∧
      ∃ prior, revocationPredecessor profile revocationNamespace previousGlobal = .ok prior ∧
        Extends prior bundle.state := by
  obtain ⟨prior, hprior, hnamed⟩ := qualifiedRevocationRequests_predecessor hrequests
  obtain ⟨-, hrest⟩ := unit_bind_eq_ok.mp hbundle
  obtain ⟨-, hrest⟩ := unit_bind_eq_ok.mp hrest
  obtain ⟨fresh, -, hrest⟩ := bind_eq_ok.mp hrest
  obtain ⟨-, hrest⟩ := unit_bind_eq_ok.mp hrest
  obtain ⟨-, hrest⟩ := unit_bind_eq_ok.mp hrest
  obtain ⟨-, hrest⟩ := unit_bind_eq_ok.mp hrest
  obtain ⟨packages, hpackages, hfuse⟩ := bind_eq_ok.mp hrest
  obtain ⟨hview, hfloor, hviewState, hfloorState, package, hmem, hextends⟩ :=
    fuseRevocationSources_extends hfuse
  obtain ⟨binding, -, hsource⟩ := exists_related_of_mem (mapM_eq_ok.mp hpackages).flip hmem
  have hpredecessor := hnamed _ _ (authenticateRevocationSource_lookup hsource)
  exact ⟨hview, hfloor, hviewState, hfloorState, prior, hprior, hpredecessor ▸ hextends⟩

theorem singleton?_eq_some {α : Type} {as : List α} {a : α} :
    singleton? as = some a ↔ as = [a] := by
  match as with
  | [] => simp [singleton?]
  | [b] => simp [singleton?]
  | b :: c :: as => simp [singleton?]

/-- The floor that a predecessor retains for a namespace has the state of its view. -/
theorem revocationPredecessor_view {profile : IntegrityAdapterTrustProfileV1 E}
    {previous : IntegrityLineageV1} {view : RevocationViewV1} {prior : ℕ × ℕ × Digest}
    (hprior : revocationPredecessor profile view.revocationNamespace (some previous) = .ok prior)
    (hview : view ∈ previous.pending.decision.revocationViews) : prior = view.state := by
  obtain ⟨floor, hfloor, hreturn⟩ := orRefuse_bind_eq_ok.mp hprior
  obtain rfl := Except.ok.inj hreturn
  have hmem : floor ∈ previous.pending.revocationFloors.filter fun floor =>
      floor.revocationNamespace = view.revocationNamespace := by
    rw [singleton?_eq_some.mp hfloor]
    exact List.mem_singleton_self _
  obtain ⟨hfloorMem, hnamespace⟩ := List.mem_filter.mp hmem
  rw [decide_eq_true_eq] at hnamespace
  obtain ⟨v, hv, hsame, -, -, -, hroot, hversion, hsnapshot⟩ :=
    previous.pending.floors.2 floor hfloorMem
  -- The views of a decision have distinct namespaces.
  have hdistinct : (previous.pending.decision.revocationViews.map
      RevocationViewV1.revocationNamespace).Nodup :=
    List.pairwise_map.mpr (previous.pending.decision.namespaces.imp fun h => ne_of_lt h)
  obtain rfl : v = view :=
    List.inj_on_of_nodup_map hdistinct hv hview (hsame.trans hnamespace)
  exact Prod.ext hroot (Prod.ext hversion hsnapshot)

/-- A view that has the namespace and the state of a retained one is that view exactly when its
evidence and its validity are. -/
theorem RevocationViewV1.eq_iff_of_state {a b : RevocationViewV1}
    (hnamespace : a.revocationNamespace = b.revocationNamespace) (hstate : a.state = b.state) :
    a = b ↔ a.evidence = b.evidence ∧ a.validFrom = b.validFrom ∧ a.validUntil = b.validUntil := by
  obtain ⟨hroot, hrest⟩ := Prod.mk.inj hstate
  obtain ⟨hversion, hsnapshot⟩ := Prod.mk.inj hrest
  cases a
  cases b
  simp_all

/-! ## What the sources sign -/

/-- What a signed package of a source says of its namespace, with the reference to its bytes. -/
structure SignedRevocation where
  version : ℕ
  validFrom : ℕ
  validUntil : ℕ
  evidence : EvidenceReferenceV1

/-- A number of a claim. -/
def statedNat (claim : List (String × Json)) (name : String) : Option ℕ :=
  ((claim.lookup name).bind int?).map Int.toNat

/-- The signed package of the metadata source of a namespace, with that source. -/
def metadataSigned (profile : IntegrityAdapterTrustProfileV1 E) (revocationNamespace : String)
    (signedEvidence : SourceMap SignedEvidenceV1) :
    Option (AdapterSourceBindingV1 × SignedEvidenceV1) := do
  let source ← singleton?
    (sourcesOf profile.sourceBindings .revocationMetadata (some revocationNamespace))
  let signed ← signedEvidence.lookup source.sourceId
  return (source, signed)

/-- The canonical bytes of that package. -/
def metadataBytes (profile : IntegrityAdapterTrustProfileV1 E) (revocationNamespace : String)
    (signedEvidence : SourceMap SignedEvidenceV1) : Option ByteArray := do
  let (_, signed) ← metadataSigned profile revocationNamespace signedEvidence
  (providerEvidenceBytes E signed).toOption

/-- What that package says, read off its bytes. -/
def signedRevocation (profile : IntegrityAdapterTrustProfileV1 E) (revocationNamespace : String)
    (signedEvidence : SourceMap SignedEvidenceV1) : Option SignedRevocation := do
  let (source, _) ← metadataSigned profile revocationNamespace signedEvidence
  let content ← metadataBytes profile revocationNamespace signedEvidence
  let package ← (providerEvidenceOf E content).toOption
  let statement ← (providerStatementOf E package.statementBytes).toOption
  let version ← statedNat statement.claim "version"
  let validFrom ← statedNat statement.claim "valid_from"
  let validUntil ← statedNat statement.claim "valid_until"
  return ⟨version, validFrom, validUntil,
    ⟨source.role.evidenceKind, source.sourceId, E.sha256 content⟩⟩

theorem requireNat_eq_ok {value : Json} {upper n : ℕ} {error : AdapterError}
    (h : requireNat value upper error = .ok n) : (int? value).map Int.toNat = some n := by
  obtain ⟨i, hi, hrest⟩ := orRefuse_bind_eq_ok.mp h
  obtain ⟨-, hreturn⟩ := unit_bind_eq_ok.mp hrest
  rw [hi, Option.map_some, Except.ok.inj hreturn]

theorem requireAdapterPositive_eq_ok {value : Json} {name : String} {n : ℕ}
    (h : requireAdapterPositive value name = .ok n) : (int? value).map Int.toNat = some n := by
  obtain ⟨i, hi, hrest⟩ := bind_eq_ok.mp h
  obtain ⟨-, hreturn⟩ := unit_bind_eq_ok.mp hrest
  rw [requireNat_eq_ok hi, Except.ok.inj hreturn]

/-- The numbers and the event of a claim that is accepted are those it states. -/
theorem validateRevocationClaim_states {request : RevocationRequestV1}
    {members : List (String × Json)} {claim : RevocationClaim}
    (h : validateRevocationClaim request members = .ok claim) :
    statedNat members "version" = some claim.version ∧
      statedNat members "valid_from" = some claim.validFrom ∧
      statedNat members "valid_until" = some claim.validUntil ∧
      members.lookup "event_digest" = some (.str (contentIdText request.eventDigest)) := by
  obtain ⟨body, hbody, h⟩ := bind_eq_ok.mp h
  obtain ⟨members', hmembers, hbody⟩ := orRefuse_bind_eq_ok.mp hbody
  obtain ⟨-, hbody⟩ := unit_bind_eq_ok.mp hbody
  obtain rfl := Option.some.inj hmembers
  obtain rfl := Except.ok.inj hbody
  obtain ⟨hrepeated, h⟩ := unit_bind_eq_ok.mp h
  obtain ⟨rootVersion, -, h⟩ := bind_eq_ok.mp h
  obtain ⟨rootVersion, -, h⟩ := bind_eq_ok.mp h
  obtain ⟨version, hversion, h⟩ := bind_eq_ok.mp h
  obtain ⟨version, hversion', h⟩ := bind_eq_ok.mp h
  obtain ⟨snapshotId, -, h⟩ := bind_eq_ok.mp h
  obtain ⟨snapshotId, -, h⟩ := bind_eq_ok.mp h
  obtain ⟨publishedAt, -, h⟩ := bind_eq_ok.mp h
  obtain ⟨publishedAt, -, h⟩ := bind_eq_ok.mp h
  obtain ⟨validFrom, hfrom, h⟩ := bind_eq_ok.mp h
  obtain ⟨validFrom, hfrom', h⟩ := bind_eq_ok.mp h
  obtain ⟨validUntil, huntil, h⟩ := bind_eq_ok.mp h
  obtain ⟨validUntil, huntil', h⟩ := bind_eq_ok.mp h
  obtain ⟨window, -, hreturn⟩ := bind_eq_ok.mp h
  obtain rfl := Except.ok.inj hreturn
  have hevent := requireRepeated_eq_ok.mp hrepeated
    ("event_digest", contentIdText request.eventDigest) (by simp)
  rw [field_eq_ok] at hversion hfrom huntil
  exact ⟨by rw [statedNat, hversion]; exact requireAdapterPositive_eq_ok hversion',
    by rw [statedNat, hfrom]; exact requireNat_eq_ok hfrom',
    by rw [statedNat, huntil]; exact requireNat_eq_ok huntil', hevent⟩

/-- The view of a fused bundle cites its metadata package and has the window of its state. -/
theorem fuseRevocationSources_view {profile : IntegrityAdapterTrustProfileV1 E}
    {revocationNamespace : String} {time : SealedTimeBundleV1}
    {packages : List RevocationPackage} {bundle : QualifiedRevocationBundleV1}
    (h : fuseRevocationSources profile revocationNamespace time packages = .ok bundle) :
    bundle.revocationView.validFrom = bundle.validFrom ∧
      bundle.revocationView.validUntil = bundle.validUntil ∧
      ∃ package ∈ packages, package.sourceBinding.role = .revocationMetadata ∧
        bundle.revocationView.evidence = package.providerEvidence.reference := by
  obtain ⟨first, -, hrest⟩ := orRefuse_bind_eq_ok.mp h
  obtain ⟨-, hrest⟩ := unit_bind_eq_ok.mp hrest
  obtain ⟨-, hrest⟩ := unit_bind_eq_ok.mp hrest
  obtain ⟨-, hrest⟩ := unit_bind_eq_ok.mp hrest
  obtain ⟨-, hrest⟩ := unit_bind_eq_ok.mp hrest
  obtain ⟨metadata, hmetadata, hrest⟩ := orRefuse_bind_eq_ok.mp hrest
  obtain ⟨-, hrest⟩ := unit_bind_eq_ok.mp hrest
  obtain ⟨-, hrest⟩ := unit_bind_eq_ok.mp hrest
  obtain ⟨-, hreturn⟩ := unit_bind_eq_ok.mp hrest
  obtain rfl := Except.ok.inj hreturn
  have hmem : metadata ∈ packages.filter fun p => p.sourceBinding.role = .revocationMetadata := by
    rw [singleton?_eq_some.mp hmetadata]
    exact List.mem_singleton_self _
  obtain ⟨hmem, hrole⟩ := List.mem_filter.mp hmem
  exact ⟨rfl, rfl, metadata, hmem, of_decide_eq_true hrole, rfl⟩

/-- The package of a source is the one that its bytes hold, with a claim of its request. -/
theorem authenticateRevocationSource_bytes {profile : IntegrityAdapterTrustProfileV1 E}
    {revocationNamespace : String} {time : SealedTimeBundleV1}
    {requests : SourceMap RevocationRequestV1} {signedEvidence : SourceMap SignedEvidenceV1}
    {binding : AdapterSourceBindingV1} {package : RevocationPackage}
    (hbinding : binding ∈ profile.sourceBindings)
    (h : authenticateRevocationSource profile revocationNamespace time requests signedEvidence
      binding = .ok package) :
    package.sourceBinding = binding ∧ package.request.eventDigest = time.eventDigest ∧
      providerStatementOf E package.signedEvidence.statementBytes = .ok package.statement ∧
      validateRevocationClaim package.request package.statement.claim = .ok package.claim ∧
      ∃ signed content, signedEvidence.lookup binding.sourceId = some signed ∧
        providerEvidenceBytes E signed = .ok content ∧
        providerEvidenceOf E content = .ok package.signedEvidence ∧
        package.providerEvidence.reference =
          ⟨binding.role.evidenceKind, binding.sourceId, E.sha256 content⟩ := by
  obtain ⟨request, -, hrest⟩ := orRefuse_bind_eq_ok.mp h
  obtain ⟨signed, hsigned, hrest⟩ := orRefuse_bind_eq_ok.mp hrest
  obtain ⟨answered, hauthentic, hrest⟩ := bind_eq_ok.mp hrest
  obtain ⟨hmatches, hreturn⟩ := unit_bind_eq_ok.mp hrest
  obtain rfl : package = answered := (Except.ok.inj hreturn).symm
  rw [refuseIf_eq_ok, not_not] at hmatches
  obtain ⟨content, content', hwire, hread, hpassed, hcontent, hevidence, hrequest, -⟩ :=
    authenticate_eq_ok.mp hauthentic
  obtain rfl := Except.ok.inj ((providerEvidence_bytes hread).symm.trans hcontent)
  rw [← hrequest] at hpassed hevidence
  obtain ⟨hmem, hrole, hsource, -⟩ := bindingFor_eq_ok.mp hpassed.bound
  have hsame : package.sourceBinding = binding :=
    List.inj_on_of_nodup_map profile.independent.1 hmem hbinding (hsource.trans hmatches.1)
  obtain ⟨-, hblob⟩ := unit_bind_eq_ok.mp hevidence
  refine ⟨hsame, hmatches.2.2.2.2.2.2.2.2.2.2.2.2.2.2.2.1, hpassed.stated, hpassed.claimed,
    signed, content, hsigned, hwire, hread, ?_⟩
  rw [← Except.ok.inj hblob, ← hsame, hrole]
  rfl

/-- The metadata package of an accepted bundle: what its bytes hold, and what the view of the
bundle takes from it. -/
structure MetadataPackage (profile : IntegrityAdapterTrustProfileV1 E)
    (revocationNamespace : String) (event : Digest) (signedEvidence : SourceMap SignedEvidenceV1)
    (bundle : QualifiedRevocationBundleV1) (content : ByteArray) (package : RevocationPackage) :
    Prop where
  bytes : metadataBytes profile revocationNamespace signedEvidence = some content
  read : providerEvidenceOf E content = .ok package.signedEvidence
  stated : providerStatementOf E package.signedEvidence.statementBytes = .ok package.statement
  claimed : validateRevocationClaim package.request package.statement.claim = .ok package.claim
  event : package.request.eventDigest = event
  signs : signedRevocation profile revocationNamespace signedEvidence =
    some ⟨bundle.version, bundle.revocationView.validFrom, bundle.revocationView.validUntil,
      bundle.revocationView.evidence⟩
  evidenceId : bundle.revocationView.evidence.evidenceId = E.sha256 content

theorem qualifyRevocationBundle_metadata {profile : IntegrityAdapterTrustProfileV1 E}
    {revocationNamespace : String} {timeBundle : SealedTimeBundleV1}
    {requests : SourceMap RevocationRequestV1} {signedEvidence : SourceMap SignedEvidenceV1}
    {bundle : QualifiedRevocationBundleV1}
    (h : qualifyRevocationBundleV1 profile revocationNamespace timeBundle requests signedEvidence =
      .ok bundle) :
    ∃ content package, MetadataPackage profile revocationNamespace timeBundle.eventDigest
      signedEvidence bundle content package := by
  obtain ⟨-, hrest⟩ := unit_bind_eq_ok.mp h
  obtain ⟨hrequired, hrest⟩ := unit_bind_eq_ok.mp hrest
  obtain ⟨time, htime, hrest⟩ := bind_eq_ok.mp hrest
  obtain ⟨-, hrest⟩ := unit_bind_eq_ok.mp hrest
  obtain ⟨-, hrest⟩ := unit_bind_eq_ok.mp hrest
  obtain ⟨-, hrest⟩ := unit_bind_eq_ok.mp hrest
  obtain ⟨packages, hpackages, hfuse⟩ := bind_eq_ok.mp hrest
  rw [refuseIf_eq_ok, not_not] at hrequired
  obtain ⟨hfrom, huntil, package, hmem, hrole, hevidence⟩ := fuseRevocationSources_view hfuse
  obtain ⟨hsame, hfused⟩ := fuseRevocationSources_spec hfuse
  have hagreed := hfused.agreed package (hsame ▸ hmem)
  obtain ⟨binding, hbinding, hsource⟩ :=
    exists_related_of_mem (mapM_eq_ok.mp hpackages).flip hmem
  obtain ⟨hbinding, hscope⟩ := List.mem_filter.mp hbinding
  have hnamespace := (of_decide_eq_true hscope).1
  obtain ⟨hbound, hevent, hstated, hclaimed, signed, content, hsigned, hcontent, hread,
    hreference⟩ := authenticateRevocationSource_bytes hbinding hsource
  rw [hbound] at hrole
  -- The profile has one metadata source of the namespace, and the package is from it.
  have hsingle : sourcesOf profile.sourceBindings .revocationMetadata
      (some revocationNamespace) = [binding] := by
    obtain ⟨source, hone⟩ :=
      List.length_eq_one_iff.mp (profile.revocationSources _ hrequired).1
    have hin : binding ∈ sourcesOf profile.sourceBindings .revocationMetadata
        (some revocationNamespace) :=
      List.mem_filter.mpr ⟨hbinding, decide_eq_true ⟨hrole, hnamespace⟩⟩
    rw [hone, List.mem_singleton] at hin
    rw [hone, hin]
  have hfound : metadataSigned profile revocationNamespace signedEvidence =
      some (binding, signed) := by
    simp [metadataSigned, hsingle, singleton?, hsigned]
  have hbytes : metadataBytes profile revocationNamespace signedEvidence = some content := by
    simp [metadataBytes, hfound, hcontent, Except.toOption]
  obtain ⟨hversion, hvalidFrom, hvalidUntil, -⟩ := validateRevocationClaim_states hclaimed
  refine ⟨content, package, hbytes, hread, hstated, hclaimed, ?_, ?_, ?_⟩
  · exact hevent.trans
      (congrArg QualifiedTimeBody.eventDigest (reauthenticateTimeBundle_spec htime))
  · rw [hevidence, hreference, hfrom, huntil]
    simp [signedRevocation, hfound, hbytes, hread, hstated, hversion, hvalidFrom, hvalidUntil,
      hagreed, Except.toOption]
  · rw [hevidence, hreference]

/-- A package that two bundles cite is a package for one event, or two packages have one hash. -/
theorem MetadataPackage.collides {profile profile' : IntegrityAdapterTrustProfileV1 E}
    {revocationNamespace revocationNamespace' : String} {event event' : Digest}
    {signedEvidence signedEvidence' : SourceMap SignedEvidenceV1}
    {bundle bundle' : QualifiedRevocationBundleV1} {content content' : ByteArray}
    {package package' : RevocationPackage}
    (h : MetadataPackage profile revocationNamespace event signedEvidence bundle content package)
    (h' : MetadataPackage profile' revocationNamespace' event' signedEvidence' bundle' content'
      package')
    (hcited : bundle.revocationView.evidence = bundle'.revocationView.evidence)
    (hevent : event ≠ event') : content ≠ content' ∧ E.sha256 content = E.sha256 content' := by
  refine ⟨fun hsame => hevent ?_, by rw [← h.evidenceId, hcited, h'.evidenceId]⟩
  subst hsame
  have hsigned := Except.ok.inj (h.read.symm.trans h'.read)
  have hstated := h'.stated
  rw [← hsigned] at hstated
  have hstatement := Except.ok.inj (h.stated.symm.trans hstated)
  obtain ⟨-, -, -, hclaims⟩ := validateRevocationClaim_states h.claimed
  obtain ⟨-, -, -, hclaims'⟩ := validateRevocationClaim_states h'.claimed
  rw [← hstatement, hclaims] at hclaims'
  rw [← h.event, ← h'.event]
  simp only [Option.some.injEq, Json.str.injEq] at hclaims'
  exact contentIdText_inj hclaims'

/-! ## Continuity -/

/-- The rules of the advance that compare one namespace, for the view of a bundle. -/
def PassesAdvance (views : List RevocationViewV1) (floors : List RevocationFloorV1)
    (prior view : RevocationViewV1) : Prop :=
  validateNamespaceAdvance views floors prior = .ok () ∧
    validateCurrentRevocationAgainstExternalFloors [view] floors = .ok ()

/-- What the kernel asks of a qualified bundle. Every rule holds of it already but the one of an
unchanged version. -/
theorem qualifyRevocationBundle_passes {profile : IntegrityAdapterTrustProfileV1 E}
    {previous : IntegrityLineageV1} {prior : RevocationViewV1} {time : SealedTimeBundleV1}
    {requests : SourceMap RevocationRequestV1} {signedEvidence : SourceMap SignedEvidenceV1}
    {bundle : QualifiedRevocationBundleV1} {views : List RevocationViewV1}
    {floors : List RevocationFloorV1}
    (hprior : prior ∈ previous.pending.decision.revocationViews)
    (hrequests : qualifiedRevocationRequestsV1 profile time prior.revocationNamespace
      (some previous) = .ok requests)
    (hbundle : qualifyRevocationBundleV1 profile prior.revocationNamespace time requests
      signedEvidence = .ok bundle)
    (hview : viewOf views prior.revocationNamespace = some bundle.revocationView)
    (hfloor : floorOf floors prior.revocationNamespace = some bundle.externalFloor) :
    PassesAdvance views floors prior bundle.revocationView ↔
      prior.version < bundle.version ∨ bundle.version = prior.version ∧
        bundle.revocationView.evidence = prior.evidence ∧
        bundle.revocationView.validFrom = prior.validFrom ∧
        bundle.revocationView.validUntil = prior.validUntil := by
  obtain ⟨hnamespace, -, hviewState, hfloorState, _, hpredecessor, hextends⟩ :=
    qualifyRevocationBundle_extends hrequests hbundle
  obtain rfl := revocationPredecessor_view hpredecessor hprior
  obtain ⟨hroot, hrest⟩ := Prod.mk.inj hviewState
  obtain ⟨hversion, hsnapshot⟩ := Prod.mk.inj hrest
  obtain ⟨hfloorRoot, hfloorRest⟩ := Prod.mk.inj hfloorState
  obtain ⟨hfloorVersion, hfloorSnapshot⟩ := Prod.mk.inj hfloorRest
  have hcurrent : validateCurrentRevocationAgainstExternalFloors [bundle.revocationView] floors =
      .ok () := by
    refine forM_eq_ok.mpr fun v hv => ?_
    obtain rfl := List.mem_singleton.mp hv
    rw [hnamespace, hfloor, orRefuse_some_bind]
    simp only [unit_bind_eq_ok, refuseIf_eq_ok, not_lt, not_and, not_not]
    exact ⟨(hfloorRoot.trans hroot.symm).le, (hfloorVersion.trans hversion.symm).le,
      fun _ => hsnapshot.trans hfloorSnapshot.symm⟩
  have hleRoot : prior.rootVersion ≤ bundle.rootVersion := hextends.root
  have hle : prior.version ≤ bundle.version := hextends.version
  rw [PassesAdvance, and_iff_left hcurrent, validateNamespaceAdvance_eq_ok hview hfloor,
    hfloorState, and_iff_left hextends, hroot, hversion, and_iff_right hleRoot,
    and_iff_right hle]
  -- Above the retained version nothing is compared ; at it, the whole view is.
  have hsame : bundle.version = prior.version → (bundle.revocationView = prior ↔ _) :=
    fun h => RevocationViewV1.eq_iff_of_state hnamespace
      (hviewState.trans (hextends.unchanged h))
  constructor
  · intro h
    rcases hle.lt_or_eq with hlt | heq
    · exact Or.inl hlt
    · exact Or.inr ⟨heq.symm, (hsame heq.symm).mp (h heq.symm)⟩
  · rintro (hlt | ⟨-, hkept⟩) heq
    · exact absurd heq hlt.ne'
    · exact (hsame heq).mpr hkept

/-- Revocation continuity, on what the sources sign. A bundle that the adapters accept for the next
transition, under the requests that its predecessor derives, passes the kernel's rules for the
predecessor's view of the namespace exactly when the signed packages claim a version above the
retained one, or claim that version in the very package that the retained view cites, with its
validity. Where the retained view was qualified for another event, only the higher version is left,
unless SHA-256 collides on the two packages. -/
theorem revocation_continuity (E : AdapterEnv) (profile : IntegrityAdapterTrustProfileV1 E)
    {previous : IntegrityLineageV1} {prior : RevocationViewV1} {time : SealedTimeBundleV1}
    {requests : SourceMap RevocationRequestV1} {signedEvidence : SourceMap SignedEvidenceV1}
    {bundle : QualifiedRevocationBundleV1} {views : List RevocationViewV1}
    {floors : List RevocationFloorV1}
    (hprior : prior ∈ previous.pending.decision.revocationViews)
    (hrequests : qualifiedRevocationRequestsV1 profile time prior.revocationNamespace
      (some previous) = .ok requests)
    (hbundle : qualifyRevocationBundleV1 profile prior.revocationNamespace time requests
      signedEvidence = .ok bundle)
    (hview : viewOf views prior.revocationNamespace = some bundle.revocationView)
    (hfloor : floorOf floors prior.revocationNamespace = some bundle.externalFloor) :
    ∃ signed, signedRevocation profile prior.revocationNamespace signedEvidence = some signed ∧
      (PassesAdvance views floors prior bundle.revocationView ↔
        prior.version < signed.version ∨ signed.version = prior.version ∧
          signed.evidence = prior.evidence ∧ signed.validFrom = prior.validFrom ∧
          signed.validUntil = prior.validUntil) ∧
      ∀ (priorProfile : IntegrityAdapterTrustProfileV1 E) (priorTime : SealedTimeBundleV1)
        (priorRequests : SourceMap RevocationRequestV1)
        (priorEvidence : SourceMap SignedEvidenceV1) (retained : QualifiedRevocationBundleV1),
        qualifyRevocationBundleV1 priorProfile prior.revocationNamespace priorTime priorRequests
          priorEvidence = .ok retained →
        retained.revocationView = prior → priorTime.eventDigest ≠ time.eventDigest →
        (PassesAdvance views floors prior bundle.revocationView ↔
          prior.version < signed.version) ∨
        ∃ a b, metadataBytes profile prior.revocationNamespace signedEvidence = some a ∧
          metadataBytes priorProfile prior.revocationNamespace priorEvidence = some b ∧
          a ≠ b ∧ E.sha256 a = E.sha256 b := by
  have hpasses := qualifyRevocationBundle_passes hprior hrequests hbundle hview hfloor
  obtain ⟨content, package, hpackage⟩ := qualifyRevocationBundle_metadata hbundle
  refine ⟨_, hpackage.signs, hpasses, ?_⟩
  intro priorProfile priorTime priorRequests priorEvidence retained hretained hcited hevent
  obtain ⟨content', package', hpackage'⟩ := qualifyRevocationBundle_metadata hretained
  by_cases hsame : bundle.revocationView.evidence = prior.evidence
  · right
    exact ⟨content, content', hpackage.bytes, hpackage'.bytes,
      hpackage.collides hpackage' (hsame.trans (congrArg _ hcited.symm)) hevent.symm⟩
  · left
    rw [hpasses, or_iff_left fun h => hsame h.2.1]

/-! ## What can be issued -/

/-- The evidence of a time package is of its source. -/
theorem authenticateTimeSource_reference {profile : IntegrityAdapterTrustProfileV1 E}
    {requests : SourceMap TrustedTimeRequestV1} {signedEvidence : SourceMap SignedEvidenceV1}
    {sourceId : String} {package : TimePackage}
    (h : authenticateTimeSource profile requests signedEvidence sourceId = .ok package) :
    package.providerEvidence.evidenceKind = .trustedTime ∧
      package.providerEvidence.sourceId = sourceId := by
  obtain ⟨hsource, hauthentic⟩ := authenticateTimeSource_spec h
  obtain ⟨_, _, -, -, hpassed, -, hevidence, -, -⟩ := authenticate_eq_ok.mp hauthentic
  obtain ⟨-, -, hbound, -⟩ := bindingFor_eq_ok.mp hpassed.bound
  obtain ⟨-, hreturn⟩ := unit_bind_eq_ok.mp hevidence
  have hblob := (Except.ok.inj hreturn).symm
  exact ⟨congrArg ProviderEvidenceBlobV1.evidenceKind hblob,
    (congrArg ProviderEvidenceBlobV1.sourceId hblob).trans (hbound.trans hsource)⟩

/-- Two sources of one role and one namespace are in the order of their identities. -/
theorem AdapterSourceBindingV1.NotAfter.sourceId_le {a b : AdapterSourceBindingV1}
    (h : a.NotAfter b) (hrole : a.role = b.role)
    (hnamespace : a.revocationNamespace = b.revocationNamespace) : a.sourceId ≤ b.sourceId := by
  rcases h with hlt | ⟨-, hlt | ⟨-, hle⟩⟩
  · exact absurd (hrole ▸ hlt) (lt_irrefl _)
  · exact absurd (hnamespace ▸ hlt) (lt_irrefl _)
  · exact hle

/-- The sources of the trusted time are in strict order. -/
theorem timeSourceIds_sorted (profile : IntegrityAdapterTrustProfileV1 E) :
    profile.timeSourceIds.Pairwise (· < ·) := by
  have hsorted : (profile.sourceBindings.filter fun binding =>
      binding.role = .trustedTime).Pairwise fun a b => a.sourceId ≤ b.sourceId := by
    refine (profile.sorted.sublist List.filter_sublist).imp_of_mem fun ha hb hab => ?_
    have hroleA := of_decide_eq_true (List.mem_filter.mp ha).2
    have hroleB := of_decide_eq_true (List.mem_filter.mp hb).2
    have hscope : ∀ c : AdapterSourceBindingV1, c.role = .trustedTime →
        c.revocationNamespace = none := fun c hc => by simpa [hc] using c.inScope
    exact hab.sourceId_le (hroleA.trans hroleB.symm)
      ((hscope _ hroleA).trans (hscope _ hroleB).symm)
  exact (List.pairwise_map.mpr hsorted).imp₂ (fun _ _ hle hne => lt_of_le_of_ne hle hne)
    (nodup_timeSourceIds profile)

/-- The evidence of a qualified time is canonical : one reference of trusted time for each source,
in the order of the sources. -/
theorem qualifyTimeBundle_evidence {profile : IntegrityAdapterTrustProfileV1 E}
    {requests : SourceMap TrustedTimeRequestV1} {signedEvidence : SourceMap SignedEvidenceV1}
    {bundle : SealedTimeBundleV1}
    (h : qualifyTimeBundleV1 profile requests signedEvidence = .ok bundle) :
    bundle.evidence.Pairwise EvidenceReferenceV1.Before ∧ 2 ≤ bundle.evidence.length ∧
      bundle.evidence.length ≤ maxAdapterSourcesV1 ∧
      ∀ reference ∈ bundle.evidence, reference.evidenceKind = .trustedTime := by
  obtain ⟨hpackages, -⟩ := qualifyTimeBundle_spec h
  have hsources : bundle.evidence.map EvidenceReferenceV1.sourceId = profile.timeSourceIds := by
    rw [SealedTimeBundleV1.evidence, SealedTimeBundleV1.evidenceBlobs, List.map_map, List.map_map]
    exact map_of_forall₂ (hpackages.imp fun _ _ hp => (authenticateTimeSource_reference hp).2)
  have hkinds : ∀ reference ∈ bundle.evidence, reference.evidenceKind = .trustedTime := by
    intro reference hmem
    obtain ⟨blob, hblob, rfl⟩ := List.mem_map.mp hmem
    obtain ⟨package, hpackage, rfl⟩ := List.mem_map.mp hblob
    obtain ⟨_, -, hsource⟩ := exists_related_of_mem hpackages.flip hpackage
    exact (authenticateTimeSource_reference hsource).1
  have hlength : bundle.evidence.length = profile.timeSourceIds.length := by
    rw [← hsources, List.length_map]
  refine ⟨?_, ?_, ?_, hkinds⟩
  · have hsorted := timeSourceIds_sorted profile
    rw [← hsources] at hsorted
    exact (List.pairwise_map.mp hsorted).imp_of_mem fun ha hb hlt =>
      Or.inr ⟨(hkinds _ ha).trans (hkinds _ hb).symm, Or.inl hlt⟩
  · rw [hlength, IntegrityAdapterTrustProfileV1.timeSourceIds, List.length_map]
    exact profile.timeSources
  · rw [hlength, IntegrityAdapterTrustProfileV1.timeSourceIds, List.length_map]
    exact (List.length_filter_le _ _).trans profile.bounded.2

/-- The order of references is strict. -/
theorem EvidenceReferenceV1.Before.asymm {a b : EvidenceReferenceV1} (h : a.Before b) :
    ¬b.Before a := by
  rintro (hkind | ⟨hkind, hrest⟩)
  · rcases h with hlt | ⟨hsame, -⟩
    · exact lt_asymm hlt hkind
    · exact absurd (hsame ▸ hkind) (lt_irrefl _)
  · rcases h with hlt | ⟨-, hsource⟩
    · exact absurd (hkind ▸ hlt) (lt_irrefl _)
    · rcases hsource with hlt | ⟨hsame, hid⟩ <;> rcases hrest with hlt' | ⟨hsame', hid'⟩
      · exact lt_asymm hlt hlt'
      · exact absurd (hsame' ▸ hlt) (lt_irrefl _)
      · exact absurd (hsame ▸ hlt') (lt_irrefl _)
      · bv_omega

/-- A request is issued for every source of a namespace, against a time with canonical evidence,
and matches its source and that time. -/
theorem RevocationRequestV1.issue_matches {profile : IntegrityAdapterTrustProfileV1 E}
    {binding : AdapterSourceBindingV1} {revocationNamespace : String} {time : SealedTimeBundleV1}
    (prior : ℕ × ℕ × Digest) (requestNonce : BitVec 256)
    (hbinding : binding ∈ profile.sourceBindings)
    (hnamespace : binding.revocationNamespace = some revocationNamespace)
    (hscope : time.serviceInstanceId = profile.serviceInstanceId ∧
      time.environmentId = profile.environmentId)
    (hevidence : time.evidence.Pairwise EvidenceReferenceV1.Before ∧ 2 ≤ time.evidence.length ∧
      time.evidence.length ≤ maxAdapterSourcesV1 ∧
      ∀ reference ∈ time.evidence, reference.evidenceKind = .trustedTime) :
    ∃ request, RevocationRequestV1.issue profile binding.sourceId binding.role
        revocationNamespace time prior requestNonce = .ok request ∧
      request.Matches profile binding revocationNamespace time := by
  have hbound : profile.bindingFor binding.role binding.sourceId (some revocationNamespace) =
      .ok binding := bindingFor_eq_ok.mpr ⟨hbinding, rfl, rfl, hnamespace⟩
  have hsupported : binding.role ∈ [AdapterRole.revocationMetadata, .revocationFloor] := by
    have hrole : binding.role ≠ .trustedTime := by
      intro hrole
      have hscope := binding.inScope
      rw [if_pos hrole, hnamespace] at hscope
      exact absurd hscope (by simp)
    have hmem := binding.supported
    exact (List.mem_cons.mp hmem).resolve_left hrole
  have hsorted : (time.evidence.mergeSort fun a b => ¬b.Before a) = time.evidence :=
    List.mergeSort_of_pairwise (hevidence.1.imp fun h => decide_eq_true h.asymm)
  have hcanonical := hevidence
  rw [← hsorted] at hcanonical
  rw [RevocationRequestV1.issue, bind_of_ok hbound, requireThat_bind hsupported]
  simp only
  rw [requireThat_bind hcanonical]
  exact ⟨_, rfl, rfl, rfl, rfl, rfl, rfl, rfl, rfl, rfl, rfl, hsorted, hscope.1.symm,
    hscope.2.symm, rfl, rfl, rfl, rfl, rfl⟩

/-- The sources of a namespace are all revocation sources. -/
theorem revocationBindings_eq (profile : IntegrityAdapterTrustProfileV1 E)
    (revocationNamespace : String) :
    profile.revocationBindings revocationNamespace = profile.sourceBindings.filter fun binding =>
      binding.revocationNamespace = some revocationNamespace := by
  refine List.filter_congr fun binding _ => decide_eq_decide.mpr (and_iff_left_of_imp ?_)
  intro hnamespace
  have hscope := binding.inScope
  have hsupported := binding.supported
  split at hscope
  · rw [hscope] at hnamespace
    exact absurd hnamespace (by simp)
  · next hrole => exact (List.mem_cons.mp hsupported).resolve_left hrole

/-- A qualified time is of the scope of its profile. -/
theorem qualifyTimeBundle_scope {profile : IntegrityAdapterTrustProfileV1 E}
    {requests : SourceMap TrustedTimeRequestV1} {signedEvidence : SourceMap SignedEvidenceV1}
    {bundle : SealedTimeBundleV1}
    (h : qualifyTimeBundleV1 profile requests signedEvidence = .ok bundle) :
    bundle.serviceInstanceId = profile.serviceInstanceId ∧
      bundle.environmentId = profile.environmentId := by
  obtain ⟨-, hrest⟩ := unit_bind_eq_ok.mp h
  obtain ⟨-, hrest⟩ := unit_bind_eq_ok.mp hrest
  obtain ⟨packages, hpackages, hfuse⟩ := bind_eq_ok.mp hrest
  obtain ⟨first, hfirst, hrest⟩ := orRefuse_bind_eq_ok.mp hfuse
  obtain ⟨-, hrest⟩ := unit_bind_eq_ok.mp hrest
  obtain ⟨_, -, hrest⟩ := orRefuse_bind_eq_ok.mp hrest
  obtain ⟨-, hrest⟩ := unit_bind_eq_ok.mp hrest
  obtain ⟨_, -, hrest⟩ := orRefuse_bind_eq_ok.mp hrest
  obtain ⟨-, hrest⟩ := unit_bind_eq_ok.mp hrest
  obtain ⟨-, hrest⟩ := unit_bind_eq_ok.mp hrest
  obtain ⟨-, hrest⟩ := unit_bind_eq_ok.mp hrest
  obtain ⟨⟨_, _⟩, -, hreturn⟩ := bind_eq_ok.mp hrest
  obtain rfl := Except.ok.inj hreturn
  obtain ⟨package, hpackage, rfl⟩ := Option.map_eq_some_iff.mp hfirst
  obtain ⟨_, -, hsource⟩ :=
    exists_related_of_mem (mapM_eq_ok.mp hpackages).flip (List.mem_of_mem_head? hpackage)
  obtain ⟨-, hauthentic⟩ := authenticateTimeSource_spec hsource
  obtain ⟨_, _, -, -, hpassed, -⟩ := authenticate_eq_ok.mp hauthentic
  exact ⟨hpassed.serviceInstanceId, hpassed.environmentId⟩

/-- Against a qualified time and a predecessor with a state for the namespace, the lifecycle
derives exactly one request for every source of the namespace, which matches it and names that
state. -/
theorem qualifiedRevocationRequests_issued {profile : IntegrityAdapterTrustProfileV1 E}
    {timeRequests : SourceMap TrustedTimeRequestV1} {timeEvidence : SourceMap SignedEvidenceV1}
    {time : SealedTimeBundleV1} {revocationNamespace : String}
    {previousGlobal : Option IntegrityLineageV1} {prior : ℕ × ℕ × Digest}
    (htime : qualifyTimeBundleV1 profile timeRequests timeEvidence = .ok time)
    (hprior : revocationPredecessor profile revocationNamespace previousGlobal = .ok prior) :
    ∃ issued, qualifiedRevocationRequestsV1 profile time revocationNamespace previousGlobal =
        .ok (sourceMap (issued.map fun request => (request.sourceId, request))) ∧
      List.Forall₂ (fun binding request =>
        request.Matches profile binding revocationNamespace time ∧ request.predecessor = prior)
        (profile.revocationBindings revocationNamespace) issued := by
  have hissue : ∀ binding ∈ profile.revocationBindings revocationNamespace, ∃ request,
      RevocationRequestV1.issue profile binding.sourceId binding.role revocationNamespace time
          prior (qualifiedRevocationNonceV1 E revocationNamespace (time.bundleId E)) =
        .ok request ∧
        request.Matches profile binding revocationNamespace time ∧
        request.predecessor = prior := by
    intro binding hmem
    rw [revocationBindings_eq] at hmem
    obtain ⟨hbinding, hnamespace⟩ := List.mem_filter.mp hmem
    obtain ⟨request, hok, hmatch⟩ := RevocationRequestV1.issue_matches prior
      (qualifiedRevocationNonceV1 E revocationNamespace (time.bundleId E)) hbinding
      (of_decide_eq_true hnamespace) (qualifyTimeBundle_scope htime)
      (qualifyTimeBundle_evidence htime)
    exact ⟨request, hok, hmatch, RevocationRequestV1.issue_predecessor hok⟩
  obtain ⟨issued, hissued, hmatches⟩ := mapM_progress hissue
  refine ⟨issued, ?_, hmatches⟩
  rw [qualifiedRevocationRequestsV1, bind_of_ok hprior]
  simp only
  rw [← revocationBindings_eq, bind_of_ok hissued]
  rfl

/-- Packages that answer the derived requests are fused. -/
theorem qualifyRevocationBundle_answered {profile : IntegrityAdapterTrustProfileV1 E}
    {revocationNamespace : String} {time : SealedTimeBundleV1}
    {issued : List RevocationRequestV1} {packages : List RevocationPackage}
    (hnamespace : isAdapterIdentity revocationNamespace = true)
    (hrequired : revocationNamespace ∈ profile.validationPolicy.requiredRevocationNamespaces)
    (htime : reauthenticateTimeBundleV1 profile time = .ok time)
    (hpurpose : time.purpose = .decision)
    (hissued : List.Forall₂ (fun binding request =>
      request.Matches profile binding revocationNamespace time)
      (profile.revocationBindings revocationNamespace) issued)
    (hanswers : List.Forall₂ (fun request (package : RevocationPackage) =>
      package.request = request ∧
        authenticateRevocationEvidence profile request package.signedEvidence = .ok package)
      issued packages) :
    qualifyRevocationBundleV1 profile revocationNamespace time
        (sourceMap (issued.map fun request => (request.sourceId, request)))
        (sourceMap (packages.map fun p => (p.request.sourceId, p.signedEvidence))) =
      fuseRevocationSources profile revocationNamespace time packages := by
  have hrequests : packages.map (·.request) = issued :=
    map_of_forall₂ (hanswers.imp fun _ _ h => h.1)
  have hall := forall₂_comp hissued hanswers
    (T := fun binding package => package.request.Matches profile binding revocationNamespace time ∧
      authenticateRevocationEvidence profile package.request package.signedEvidence = .ok package)
    fun binding request package _ hmatch hanswer => by
      rw [hanswer.1]
      exact ⟨hmatch, hanswer.2⟩
  rw [← hrequests, List.map_map]
  exact authenticateRevocationSources_again hall hnamespace hrequired htime hpurpose

/-! ## A sample -/

/-- The answer of a revocation source to a request. -/
def sampleRevocationAnswer (state : RevocationClaim) (binding : AdapterSourceBindingV1)
    (request : RevocationRequestV1) (wire : ByteArray) : RevocationPackage :=
  samplePackage binding (request.frame sampleAdapterEnv) (state.toBody request) request state wire

theorem sampleRevocationAnswer_authenticated {state : RevocationClaim}
    (hstate : 0 < state.rootVersion ∧ state.rootVersion ≤ maxAdapterEpoch ∧ 0 < state.version ∧
      state.version ≤ maxAdapterEpoch ∧ state.validUntil ≤ maxAdapterEpoch)
    {binding : AdapterSourceBindingV1} {request : RevocationRequestV1} {time : SealedTimeBundleV1}
    (hbinding : binding ∈ sampleBindings) (hnamespace : binding.revocationNamespace = some "keys")
    (hscope : time.serviceInstanceId = "service" ∧ time.environmentId = "fixture")
    (hmatch : request.Matches sampleAdapterProfile binding "keys" time) :
    ∃ wire : ByteArray, wire.size ≤ maxProviderEvidenceBlobBytesV1 ∧
      authenticateRevocationEvidence sampleAdapterProfile request
        (sampleRevocationAnswer state binding request wire).signedEvidence =
          .ok (sampleRevocationAnswer state binding request wire) := by
  obtain ⟨hroot, hroot', hversion, hversion', huntil⟩ := hstate
  obtain ⟨hsource, hrole, hname, hprofile, htrust, -, -, -, -, -, hservice, henvironment, -⟩ :=
    hmatch
  have hidentity : isAdapterIdentity request.revocationNamespace = true := by
    rw [hname]
    decide +kernel
  exact samplePackage_authenticated (request.frame sampleAdapterEnv)
    (validateRevocationClaim request) request hbinding
    ⟨hprofile, htrust, hservice.trans hscope.1, henvironment.trans hscope.2⟩ hrole.symm
    hsource.symm (hnamespace.trans (congrArg some hname.symm))
    (RevocationClaim.toBody_small hidentity hroot' hversion' huntil)
    (validateRevocationClaim_toBody request ⟨hroot, hroot'⟩ ⟨hversion, hversion'⟩ huntil)

theorem sampleRevocationAnswer_reference (state : RevocationClaim)
    {binding : AdapterSourceBindingV1} {request : RevocationRequestV1} {time : SealedTimeBundleV1}
    (hmatch : request.Matches sampleAdapterProfile binding "keys" time) (wire : ByteArray) :
    (sampleRevocationAnswer state binding request wire).providerEvidence.reference =
      ⟨binding.role.evidenceKind, binding.sourceId, binding.keyId.digest⟩ :=
  congrArg (fun role => (⟨AdapterRole.evidenceKind role, _, _⟩ : EvidenceReferenceV1)) hmatch.2.1

/-- The view and the floor of a state that the sample sources publish. -/
def sampleViewOf (state : RevocationClaim) : RevocationViewV1 :=
  ⟨"keys", state.rootVersion, state.version, state.snapshotId,
    ⟨.revocationMetadata, "metadata", 5⟩, state.validFrom, state.validUntil⟩

def sampleFloorOf (state : RevocationClaim) : RevocationFloorV1 :=
  ⟨"service", "fixture", 7, "keys", state.rootVersion, state.version, state.snapshotId,
    [⟨.externalFloor, "floor_a", 3⟩, ⟨.externalFloor, "floor_b", 4⟩]⟩

/-- The sample sources qualify any state that is fresh and not behind the predecessor. -/
theorem sampleRevocation_answered (event : Digest) (previousGlobal : Option IntegrityLineageV1)
    (state : RevocationClaim) {prior : ℕ × ℕ × Digest}
    (hprior : revocationPredecessor sampleAdapterProfile "keys" previousGlobal = .ok prior)
    (hstate : 0 < state.rootVersion ∧ state.rootVersion ≤ maxAdapterEpoch ∧ 0 < state.version ∧
      state.version ≤ maxAdapterEpoch ∧ state.validUntil ≤ maxAdapterEpoch)
    (hfresh : state.validFrom ≤ 100 ∧ 130 < state.validUntil ∧ state.publishedAt ≤ 100 ∧
      130 - state.publishedAt ≤ 40)
    (hrollback : requireNoRollback prior state = .ok ()) :
    ∃ time requests signedEvidence bundle, time.eventDigest = event ∧
      qualifiedRevocationRequestsV1 sampleAdapterProfile time "keys" previousGlobal =
        .ok requests ∧
      qualifyRevocationBundleV1 sampleAdapterProfile "keys" time requests signedEvidence =
        .ok bundle ∧
      bundle.revocationView = sampleViewOf state ∧ bundle.externalFloor = sampleFloorOf state := by
  obtain ⟨wireA, wireB, timeRequests, timeEvidence, htime⟩ := sampleTimeBundleAt_qualified event
  obtain ⟨issued, hissued, hmatches⟩ := qualifiedRevocationRequests_issued htime hprior
  have hbindings : sampleAdapterProfile.revocationBindings "keys" =
      [sampleFloorA, sampleFloorB, sampleMetadata] := by
    decide +kernel
  rw [hbindings] at hmatches
  obtain _ | ⟨⟨hmatchA, hpriorA⟩, _ | ⟨⟨hmatchB, hpriorB⟩, _ | ⟨⟨hmatchM, hpriorM⟩, _ | _⟩⟩⟩ :=
    hmatches
  rename_i requestA requestB requestM
  obtain ⟨floorA, hsizeA, hfloorA⟩ := sampleRevocationAnswer_authenticated hstate
    (by simp [sampleBindings]) rfl ⟨rfl, rfl⟩ hmatchA
  obtain ⟨floorB, hsizeB, hfloorB⟩ := sampleRevocationAnswer_authenticated hstate
    (by simp [sampleBindings]) rfl ⟨rfl, rfl⟩ hmatchB
  obtain ⟨metadata, hsizeM, hmetadata⟩ := sampleRevocationAnswer_authenticated hstate
    (by simp [sampleBindings]) rfl ⟨rfl, rfl⟩ hmatchM
  let packages := [sampleRevocationAnswer state sampleFloorA requestA floorA,
    sampleRevocationAnswer state sampleFloorB requestB floorB,
    sampleRevocationAnswer state sampleMetadata requestM metadata]
  have hissuedMatches : List.Forall₂ (fun binding (request : RevocationRequestV1) =>
      request.Matches sampleAdapterProfile binding "keys" (sampleTimeBundleAt event wireA wireB))
      (sampleAdapterProfile.revocationBindings "keys") [requestA, requestB, requestM] := by
    rw [hbindings]
    exact .cons hmatchA (.cons hmatchB (.cons hmatchM .nil))
  have hanswers : List.Forall₂ (fun request (package : RevocationPackage) =>
      package.request = request ∧ authenticateRevocationEvidence sampleAdapterProfile request
        package.signedEvidence = .ok package) [requestA, requestB, requestM] packages :=
    .cons ⟨rfl, hfloorA⟩ (.cons ⟨rfl, hfloorB⟩ (.cons ⟨rfl, hmetadata⟩ .nil))
  have hfuse := qualifyRevocationBundle_answered
    (by decide +kernel : isAdapterIdentity "keys" = true)
    (by decide +kernel : "keys" ∈ samplePolicy.requiredRevocationNamespaces)
    (reauthenticateTimeBundle_again htime) rfl hissuedMatches hanswers
  have hbytes : ∀ package ∈ packages,
      package.providerEvidence.content.length ≤ maxProviderEvidenceBlobBytesV1 := by
    simp only [packages, List.forall_mem_cons, List.not_mem_nil, false_imp_iff, implies_true,
      and_true]
    exact ⟨(samplePackage_content _ _ _ _ _ floorA).trans_le hsizeA,
      (samplePackage_content _ _ _ _ _ floorB).trans_le hsizeB,
      (samplePackage_content _ _ _ _ _ metadata).trans_le hsizeM⟩
  have hagree : ∀ package ∈ packages.tail,
      package.request.predecessor = requestA.predecessor ∧ package.claim = state :=
    List.forall_mem_cons.mpr ⟨⟨hpriorB.trans hpriorA.symm, rfl⟩,
      List.forall_mem_singleton.mpr ⟨hpriorM.trans hpriorA.symm, rfl⟩⟩
  have hreferences : [sampleRevocationAnswer state sampleFloorA requestA floorA,
      sampleRevocationAnswer state sampleFloorB requestB floorB].map
        (·.providerEvidence.reference) =
      [⟨.externalFloor, "floor_a", 3⟩, ⟨.externalFloor, "floor_b", 4⟩] :=
    congrArg₂ (fun a b => [a, b]) (sampleRevocationAnswer_reference state hmatchA floorA)
      (sampleRevocationAnswer_reference state hmatchB floorB)
  have hevidence : requireFloorEvidence ([sampleRevocationAnswer state sampleFloorA requestA floorA,
      sampleRevocationAnswer state sampleFloorB requestB floorB].map
        (·.providerEvidence.reference)) = .ok () := by
    rw [hreferences]
    decide +kernel
  obtain ⟨bundle, hbundle, hview, hfloor⟩ := @fuseRevocationSources_of _ sampleAdapterProfile
    "keys" (sampleTimeBundleAt event wireA wireB) packages
    [sampleRevocationAnswer state sampleFloorA requestA floorA,
      sampleRevocationAnswer state sampleFloorB requestB floorB]
    (sampleRevocationAnswer state sampleFloorA requestA floorA)
    (sampleRevocationAnswer state sampleMetadata requestM metadata) rfl hagree
    (requireHullFresh_eq_ok.mpr hfresh) (hpriorA ▸ hrollback) rfl rfl le_rfl hevidence
    (by decide : 3 ≤ 16) hbytes
  refine ⟨sampleTimeBundleAt event wireA wireB, _, _, bundle, rfl, hissued, hfuse.trans hbundle,
    ?_, ?_⟩
  · rw [hview, sampleRevocationAnswer_reference state hmatchM metadata]
    rfl
  · rw [hfloor, hreferences]
    rfl

/-- Evidence of some references. -/
def sampleEvidenceOf (references : List EvidenceReferenceV1) : List ProviderEvidenceBlobV1 :=
  references.map fun r => ⟨r.evidenceKind, r.sourceId, r.evidenceId, [0]⟩

theorem sampleEvidenceOf_covers (references : List EvidenceReferenceV1) :
    evidenceCovers references (sampleEvidenceOf references) := by
  have hsame : (sampleEvidenceOf references).map ProviderEvidenceBlobV1.reference = references := by
    rw [sampleEvidenceOf, List.map_map]
    exact List.map_id _
  rw [evidenceCovers, hsame]
  exact ⟨fun _ h => h, fun _ h => h⟩

theorem sampleHull_ordered : 100 ≤ 130 := by decide

def sampleQualifiedDecision : IntegrityDecisionV1 where
  decisionId := 20
  serviceInstanceId := "service"
  environmentId := "fixture"
  missionId := 11
  authorityId := 12
  targetId := 13
  priorGlobalCheckpointSequence := -1
  priorGlobalCheckpoint := ⟨21, none, none, none⟩
  priorEventSeq := -1
  priorEventDigest := 0
  eventKind := "mission_opened"
  proposedEventDigest := 14
  timeLowerBound := 100
  timeUpperBound := 130
  timePolicyId := 7
  timeEvidence := sampleTimeEvidence
  revocationViews := [sampleViewOf sampleState]
  decisionPolicyId := 7
  interval := sampleHull_ordered
  namespaces := List.pairwise_singleton _ _

/-- The catalog head before and after the first transition. -/
def sampleCatalogHead (sequence : ℤ) (checkpoint : CheckpointRef) : HeadCheckpointFloorV1 :=
  ⟨"service", "fixture", sequence, checkpoint, 11, sequence, checkpoint,
    [⟨.externalFloor, "catalog", 22⟩, ⟨.externalFloor, "monitor", 23⟩]⟩

def sampleQualifiedPending : PendingIntegrityTransitionV1 where
  eventDigest := 14
  missionId := 11
  eventSeq := 0
  instanceSequence := 0
  signedDecision := ⟨sampleQualifiedDecision, ⟨24⟩, 0⟩
  decisionTrustStore := ⟨[], []⟩
  validationPolicy := samplePolicy
  revocationFloors := [sampleFloorOf sampleState]
  priorHeadFloor := sampleCatalogHead (-1) ⟨21, none, none, none⟩
  providerEvidence := sampleEvidenceOf (pendingReferences sampleQualifiedDecision
    [sampleFloorOf sampleState] (sampleCatalogHead (-1) ⟨21, none, none, none⟩))
  acceptanceMode := .qualifiedSigned
  binds := ⟨rfl, rfl, rfl, rfl, rfl, rfl⟩
  floors := by decide
  head := ⟨rfl, rfl, rfl, rfl, rfl, rfl⟩
  covered := sampleEvidenceOf_covers _

def sampleQualifiedCheckpoint : HeadCheckpointV1 where
  serviceInstanceId := "service"
  environmentId := "fixture"
  instanceSequence := 0
  previousCheckpoint := ⟨21, none, none, none⟩
  previousMissionCheckpoint := ⟨21, none, none, none⟩
  missionId := 11
  authorityId := 12
  targetId := 13
  eventSeq := 0
  eventDigest := 14
  integrityDecisionId := 20
  integrityDecisionAttestationId := 25
  integrityDecisionPrincipalId := "decider"
  integrityDecisionTrustSnapshotId := 26
  timeLowerBound := 100
  timeUpperBound := 130
  timePolicyId := 7
  timeEvidence := sampleTimeEvidence
  anchorPolicyId := 7
  checkpointId := 27
  anchorStatementId := 28
  anchorEvidence := [⟨.headAnchorReceipt, "anchor_a", 29⟩, ⟨.headAnchorReceipt, "anchor_b", 30⟩]
  interval := sampleHull_ordered
  globalProvenance := fun _ => ⟨rfl, rfl, rfl⟩
  missionProvenance := fun _ => ⟨rfl, rfl, rfl⟩

/-- A finalized transition of the qualified mode that retains the sample state. -/
def sampleQualifiedLineage : IntegrityLineageV1 where
  pending := sampleQualifiedPending
  anchorStatement := some {
    pendingRecordId := 31
    eventDigest := 14
    previousMissionCheckpoint := ⟨21, none, none, none⟩
    timeLowerBound := 100
    timeUpperBound := 130
    timePolicyId := 7
    timeEvidence := sampleTimeEvidence
    anchorPolicyId := 7
    anchorStatementId := 28
    registrationRequest := sampleQualifiedCheckpoint.toAnchorRegistration
    providerEvidence := sampleEvidenceOf sampleTimeEvidence
    acceptanceMode := .qualifiedSigned
    covered := sampleEvidenceOf_covers _ }
  checkpointCandidate := some {
    pendingRecordId := 31
    anchorStatementRecordId := 32
    eventDigest := 14
    signedCheckpoint := ⟨sampleQualifiedCheckpoint, ⟨33⟩, 0⟩
    checkpointTrustStore := ⟨[], []⟩
    providerEvidence := sampleEvidenceOf sampleQualifiedCheckpoint.anchorEvidence
    acceptanceMode := .qualifiedSigned
    binds := rfl
    covered := sampleEvidenceOf_covers _ }
  finalization := some {
    pendingRecordId := 31
    checkpointCandidateRecordId := 34
    eventDigest := 14
    externalHeadFloor := sampleCatalogHead 0 ⟨27, some 35, some "checker", some 26⟩
    providerEvidence := sampleEvidenceOf
      (sampleCatalogHead 0 ⟨27, some 35, some "checker", some 26⟩).evidence
    acceptanceMode := .qualifiedSigned
    covered := sampleEvidenceOf_covers _ }

/-- The sample state, signed again with a longer validity. -/
def sampleStateRenewed : RevocationClaim :=
  { sampleState with validUntil := 231, window := by decide }

/-- The version after the sample state. -/
def sampleStateNext : RevocationClaim :=
  { sampleStateRenewed with version := 2, snapshotId := 19 }

theorem samplePredecessor : revocationPredecessor sampleAdapterProfile "keys"
    (some sampleQualifiedLineage) = .ok (1, 1, 18) := by
  decide +kernel

/-- The sources of a qualified predecessor sign its version again, for the next transition and
with a longer validity. The adapters accept the bundle and the kernel refuses it. -/
theorem revocation_renewal_refused :
    (∃ time requests signedEvidence first,
      qualifiedRevocationRequestsV1 sampleAdapterProfile time "keys" none = .ok requests ∧
      qualifyRevocationBundleV1 sampleAdapterProfile "keys" time requests signedEvidence =
        .ok first ∧
      sampleQualifiedLineage.pending.decision.revocationViews = [first.revocationView] ∧
      sampleQualifiedLineage.pending.revocationFloors = [first.externalFloor]) ∧
    ∃ time requests signedEvidence bundle, time.eventDigest = 40 ∧
      qualifiedRevocationRequestsV1 sampleAdapterProfile time "keys"
        (some sampleQualifiedLineage) = .ok requests ∧
      qualifyRevocationBundleV1 sampleAdapterProfile "keys" time requests signedEvidence =
        .ok bundle ∧
      bundle.revocationView.state = (sampleViewOf sampleState).state ∧
      validateNamespaceAdvance [bundle.revocationView] [bundle.externalFloor]
        (sampleViewOf sampleState) =
          .error ⟨"revocation_same_version_mutation", "revocation version changed bytes"⟩ := by
  constructor
  · obtain ⟨time, requests, signedEvidence, first, -, hrequests, hfirst, hview, hfloor⟩ :=
      sampleRevocation_answered 14 none sampleState rfl (by decide) (by decide) (by decide)
    exact ⟨time, requests, signedEvidence, first, hrequests, hfirst, by rw [hview]; rfl,
      by rw [hfloor]; rfl⟩
  · obtain ⟨time, requests, signedEvidence, bundle, hevent, hrequests, hbundle, hview, hfloor⟩ :=
      sampleRevocation_answered 40 (some sampleQualifiedLineage) sampleStateRenewed
        samplePredecessor (by decide) (by decide) (by decide)
    refine ⟨time, requests, signedEvidence, bundle, hevent, hrequests, hbundle, ?_, ?_⟩
    · rw [hview]
      rfl
    · rw [hview, hfloor]
      decide +kernel

/-- The sources of the next transition sign the next version, where the retained view was qualified
for the event before. Both layers accept it. -/
theorem revocation_continuity_sample : ∃ time requests signedEvidence bundle signed,
    qualifiedRevocationRequestsV1 sampleAdapterProfile time "keys"
      (some sampleQualifiedLineage) = .ok requests ∧
    qualifyRevocationBundleV1 sampleAdapterProfile "keys" time requests signedEvidence =
      .ok bundle ∧
    signedRevocation sampleAdapterProfile "keys" signedEvidence = some signed ∧
    signed.version = 2 ∧
    PassesAdvance [bundle.revocationView] [bundle.externalFloor] (sampleViewOf sampleState)
      bundle.revocationView ∧
    ∃ priorTime priorRequests priorEvidence retained, priorTime.eventDigest ≠ time.eventDigest ∧
      qualifyRevocationBundleV1 sampleAdapterProfile "keys" priorTime priorRequests
        priorEvidence = .ok retained ∧
      retained.revocationView = sampleViewOf sampleState ∧
      ((PassesAdvance [bundle.revocationView] [bundle.externalFloor] (sampleViewOf sampleState)
          bundle.revocationView ↔ 1 < signed.version) ∨
        ∃ a b, metadataBytes sampleAdapterProfile "keys" signedEvidence = some a ∧
          metadataBytes sampleAdapterProfile "keys" priorEvidence = some b ∧
          a ≠ b ∧ sampleAdapterEnv.sha256 a = sampleAdapterEnv.sha256 b) := by
  obtain ⟨priorTime, priorRequests, priorEvidence, retained, hpriorEvent, -, hretained, hcited,
    -⟩ := sampleRevocation_answered 14 none sampleState rfl (by decide) (by decide) (by decide)
  obtain ⟨time, requests, signedEvidence, bundle, hevent, hrequests, hbundle, hview, hfloor⟩ :=
    sampleRevocation_answered 40 (some sampleQualifiedLineage) sampleStateNext samplePredecessor
      (by decide) (by decide) (by decide)
  have hprior : sampleViewOf sampleState ∈
      sampleQualifiedLineage.pending.decision.revocationViews :=
    List.mem_singleton_self _
  have hdistinct : priorTime.eventDigest ≠ time.eventDigest := by
    rw [hpriorEvent, hevent]
    decide
  have hviewOf : viewOf [bundle.revocationView] "keys" = some bundle.revocationView := by
    rw [hview]
    rfl
  have hfloorOf : floorOf [bundle.externalFloor] "keys" = some bundle.externalFloor := by
    rw [hfloor]
    rfl
  obtain ⟨signed, hsigned, hpasses, hcollides⟩ :=
    revocation_continuity sampleAdapterEnv sampleAdapterProfile hprior hrequests hbundle
      hviewOf hfloorOf
  have hversion : signed.version = 2 := by
    obtain ⟨_, _, hpackage⟩ := qualifyRevocationBundle_metadata hbundle
    obtain ⟨-, -, hstate, -⟩ := qualifyRevocationBundle_extends hrequests hbundle
    rw [hview] at hstate
    obtain rfl := Option.some.inj (hsigned.symm.trans hpackage.signs)
    exact (congrArg (fun s => s.2.1) hstate).symm
  have hlater : (sampleViewOf sampleState).version < signed.version := by
    rw [hversion]
    decide
  exact ⟨time, requests, signedEvidence, bundle, signed, hrequests, hbundle, hsigned, hversion,
    hpasses.mpr (Or.inl hlater), priorTime, priorRequests, priorEvidence, retained, hdistinct,
    hretained, hcited, hcollides _ _ _ _ _ hretained hcited hdistinct⟩

end Etzio
