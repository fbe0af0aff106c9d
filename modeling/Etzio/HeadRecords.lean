import Etzio.AdapterRecords
import Etzio.MerkleFrontier

/-!
# Head records

The roster of the head-authority adapters, the requests that are issued under it, and the
authentication of the packages that answer them. An anchor keeps a log of its own ; one catalog and
its monitors speak of one log, and the profile has them share its origin.
`authenticateHead_eq_ok` lists what an authenticated package passed, and
`authenticateHead_again` reads the package back from its evidence.
-/

open CheckedRun JsonText

namespace Etzio

variable (E : AdapterEnv)

/-! ## The roster -/

/-- `HeadAuthoritySourceBindingV1`. The codec profile is the one of the role. -/
structure HeadAuthoritySourceBindingV1 where
  sourceId : String
  role : AdapterRole
  logOrigin : String
  keyId : KeyId
  principalId : String
  providerPolicyId : Digest
  identities : isAdapterIdentity sourceId = true ∧ isAdapterIdentity logOrigin = true ∧
    isAdapterIdentity principalId = true
  supported : role ∈ headAuthorityAdapterRolesV1
  deriving DecidableEq

/-- `HeadAuthoritySourceBindingV1.to_body`. -/
def HeadAuthoritySourceBindingV1.toBody (binding : HeadAuthoritySourceBindingV1) : Json :=
  .obj [("codec_profile", .str binding.role.codecProfile), ("key_id", .str binding.keyId.text),
    ("log_origin", .str binding.logOrigin), ("principal_id", .str binding.principalId),
    ("provider_policy_id", .str (contentIdText binding.providerPolicyId)),
    ("role", .str binding.role.text), ("source_id", .str binding.sourceId)]

/-- The canonical order of a roster : role, source. -/
def HeadAuthoritySourceBindingV1.NotAfter (a b : HeadAuthoritySourceBindingV1) : Prop :=
  a.role.text < b.role.text ∨ a.role = b.role ∧ a.sourceId ≤ b.sourceId

instance (a b : HeadAuthoritySourceBindingV1) : Decidable (a.NotAfter b) :=
  inferInstanceAs (Decidable (_ ∨ _))

/-- `MAX_HEAD_SOURCES_V1`. -/
def maxHeadSourcesV1 : ℕ := 32

/-- The bindings of a role, in the order of the roster. -/
def headSourcesOf (bindings : List HeadAuthoritySourceBindingV1) (role : AdapterRole) :
    List HeadAuthoritySourceBindingV1 :=
  bindings.filter fun binding => binding.role = role

/-- The key of a store is the one a binding names. -/
def HeadKeyMatches (store : AdapterTrustStoreV1) (binding : HeadAuthoritySourceBindingV1) : Prop :=
  ∃ key ∈ store.key E binding.keyId.text, key.sourceId = binding.sourceId ∧
    key.principalId = binding.principalId ∧ key.role = binding.role

instance (store : AdapterTrustStoreV1) (binding : HeadAuthoritySourceBindingV1) :
    Decidable (HeadKeyMatches E store binding) :=
  inferInstanceAs (Decidable (∃ key ∈ store.key E binding.keyId.text, _))

/-- Every monitor of a roster watches the log of a catalog. -/
def MonitorsWatch (bindings : List HeadAuthoritySourceBindingV1) : Prop :=
  ∀ catalog ∈ headSourcesOf bindings .headCatalog, ∀ monitor ∈ headSourcesOf bindings .headMonitor,
    monitor.logOrigin = catalog.logOrigin

instance (bindings : List HeadAuthoritySourceBindingV1) : Decidable (MonitorsWatch bindings) :=
  inferInstanceAs (Decidable (∀ catalog ∈ _, _))

/-- `HeadAuthorityTrustProfileV1`, whose two identities are computed from its policy and its trust
store. -/
structure HeadAuthorityTrustProfileV1 where
  serviceInstanceId : String
  environmentId : String
  validationPolicy : IntegrityValidationPolicyV1
  trustStore : AdapterTrustStoreV1
  sourceBindings : List HeadAuthoritySourceBindingV1
  maxHeadStalenessSeconds : ℕ
  service : isAdapterIdentity serviceInstanceId = true
  environment : isAdapterIdentity environmentId = true
  staleness : 0 < maxHeadStalenessSeconds ∧ maxHeadStalenessSeconds ≤ maxAdapterEpoch
  bounded : sourceBindings ≠ [] ∧ sourceBindings.length ≤ maxHeadSourcesV1
  sorted : sourceBindings.Pairwise HeadAuthoritySourceBindingV1.NotAfter
  independent : (sourceBindings.map (·.sourceId)).Nodup ∧ (sourceBindings.map (·.keyId)).Nodup ∧
    (sourceBindings.map (·.principalId)).Nodup
  exactKeys : (∀ keyId ∈ sourceBindings.map (·.keyId), keyId ∈ trustStore.keys.map (·.keyId E)) ∧
    ∀ keyId ∈ trustStore.keys.map (·.keyId E), keyId ∈ sourceBindings.map (·.keyId)
  matched : ∀ binding ∈ sourceBindings, HeadKeyMatches E trustStore binding
  anchors : 2 ≤ (headSourcesOf sourceBindings .headAnchor).length
  origins : ((headSourcesOf sourceBindings .headAnchor).map (·.logOrigin)).Nodup
  catalogs : (headSourcesOf sourceBindings .headCatalog).length = 1
  monitors : 2 ≤ (headSourcesOf sourceBindings .headMonitor).length
  watched : MonitorsWatch sourceBindings

/-- The constructor of a profile of the repository's own version 1. -/
def HeadAuthorityTrustProfileV1.create (serviceInstanceId environmentId : String)
    (validationPolicy : IntegrityValidationPolicyV1) (trustStore : AdapterTrustStoreV1)
    (sourceBindings : List HeadAuthoritySourceBindingV1) (maxHeadStalenessSeconds : ℕ) :
    Except AdapterError (HeadAuthorityTrustProfileV1 E) := do
  let ⟨_, service⟩ ← requireThat (isAdapterIdentity serviceInstanceId = true)
    ⟨"invalid_head_identity", "service_instance_id must be one bounded ASCII identity"⟩
  let ⟨_, environment⟩ ← requireThat (isAdapterIdentity environmentId = true)
    ⟨"invalid_head_identity", "environment_id must be one bounded ASCII identity"⟩
  let ⟨_, staleness⟩ ← requireThat
    (0 < maxHeadStalenessSeconds ∧ maxHeadStalenessSeconds ≤ maxAdapterEpoch)
    ⟨"invalid_head_integer", "max_head_staleness_seconds must be a bounded positive integer"⟩
  let ⟨_, bounded⟩ ← requireThat
    (sourceBindings ≠ [] ∧ sourceBindings.length ≤ maxHeadSourcesV1)
    ⟨"invalid_head_source_roster",
      "head-authority profile requires a bounded nonempty source roster"⟩
  let ⟨_, sorted⟩ ← requireThat (sourceBindings.Pairwise HeadAuthoritySourceBindingV1.NotAfter)
    ⟨"invalid_head_source_roster", "head-authority source roster is not canonically ordered"⟩
  let ⟨_, independent⟩ ← requireThat
    ((sourceBindings.map (·.sourceId)).Nodup ∧ (sourceBindings.map (·.keyId)).Nodup ∧
      (sourceBindings.map (·.principalId)).Nodup)
    ⟨"head_source_independence_confusion",
      "each head-authority source requires a distinct label, key, and principal"⟩
  let ⟨_, exactKeys⟩ ← requireThat
    ((∀ keyId ∈ sourceBindings.map (·.keyId), keyId ∈ trustStore.keys.map (·.keyId E)) ∧
      ∀ keyId ∈ trustStore.keys.map (·.keyId E), keyId ∈ sourceBindings.map (·.keyId))
    ⟨"head_trust_root_roster_mismatch",
      "the trust root must contain exactly the roster's keys"⟩
  let ⟨_, matched⟩ ← requireThat (∀ binding ∈ sourceBindings, HeadKeyMatches E trustStore binding)
    ⟨"head_source_binding_mismatch",
      "a source binding disagrees with its admitted trust-root key"⟩
  let ⟨_, anchors⟩ ← requireThat (2 ≤ (headSourcesOf sourceBindings .headAnchor).length)
    ⟨"invalid_head_source_roster",
      "head-authority qualification requires at least two anchor sources"⟩
  let ⟨_, origins⟩ ← requireThat
    ((headSourcesOf sourceBindings .headAnchor).map (·.logOrigin)).Nodup
    ⟨"head_source_independence_confusion", "each anchor source requires a distinct log origin"⟩
  let ⟨_, catalogs⟩ ← requireThat ((headSourcesOf sourceBindings .headCatalog).length = 1)
    ⟨"invalid_head_source_roster",
      "head-authority qualification requires exactly one catalog source"⟩
  let ⟨_, monitors⟩ ← requireThat (2 ≤ (headSourcesOf sourceBindings .headMonitor).length)
    ⟨"invalid_head_source_roster",
      "head-authority qualification requires at least two monitor sources"⟩
  let ⟨_, watched⟩ ← requireThat (MonitorsWatch sourceBindings)
    ⟨"head_monitor_origin_mismatch", "every monitor must witness the exact catalog log origin"⟩
  return {
    serviceInstanceId, environmentId, validationPolicy, trustStore, sourceBindings
    maxHeadStalenessSeconds, service, environment, staleness, bounded, sorted, independent
    exactKeys, matched, anchors, origins, catalogs, monitors, watched }

variable {E}

namespace HeadAuthorityTrustProfileV1

/-- `trust_store.root_id`. -/
def trustRootId (profile : HeadAuthorityTrustProfileV1 E) : Digest :=
  E.contentId "head_authority_trust_root" (profile.trustStore.toBody E)

/-- `HeadAuthorityTrustProfileV1.to_body`. -/
def toBody (profile : HeadAuthorityTrustProfileV1 E) : Json :=
  .obj [("adapter_profile", .str "repository_owned_networkless_head_authority_v1"),
    ("contract_version", .int 1), ("environment_id", .str profile.environmentId),
    ("max_head_staleness_seconds", .int profile.maxHeadStalenessSeconds),
    ("service_instance_id", .str profile.serviceInstanceId),
    ("source_bindings", .arr (profile.sourceBindings.map HeadAuthoritySourceBindingV1.toBody)),
    ("trust_root", profile.trustStore.toBody E),
    ("trust_root_id", .str (contentIdText profile.trustRootId)),
    ("validation_policy", profile.validationPolicy.toBody),
    ("validation_policy_id",
      .str (contentIdText (E.contentId "integrity_validation_policy"
        profile.validationPolicy.toBody)))]

/-- `HeadAuthorityTrustProfileV1.profile_id`. -/
def profileId (profile : HeadAuthorityTrustProfileV1 E) : Digest :=
  E.contentId "head_authority_trust_profile" profile.toBody

/-- `HeadAuthorityTrustProfileV1.sources_for`, with the bindings. -/
def bindingsFor (profile : HeadAuthorityTrustProfileV1 E) (role : AdapterRole) :
    List HeadAuthoritySourceBindingV1 :=
  headSourcesOf profile.sourceBindings role

/-- A validated profile always retains one catalog binding. -/
theorem exists_catalog (profile : HeadAuthorityTrustProfileV1 E) :
    (profile.sourceBindings.find? fun binding => binding.role = .headCatalog).isSome = true := by
  obtain ⟨binding, hbinding⟩ := List.exists_mem_of_length_pos
    (profile.catalogs.symm ▸ one_pos : 0 < (headSourcesOf profile.sourceBindings _).length)
  obtain ⟨hmem, hrole⟩ := List.mem_filter.mp hbinding
  exact List.find?_isSome.mpr ⟨binding, hmem, hrole⟩

/-- `HeadAuthorityTrustProfileV1.catalog_binding`. -/
def catalogBinding (profile : HeadAuthorityTrustProfileV1 E) : HeadAuthoritySourceBindingV1 :=
  (profile.sourceBindings.find? fun binding => binding.role = .headCatalog).get
    profile.exists_catalog

/-- `HeadAuthorityTrustProfileV1.binding_for`. -/
def bindingFor (profile : HeadAuthorityTrustProfileV1 E) (role : AdapterRole) (sourceId : String) :
    Except AdapterError HeadAuthoritySourceBindingV1 := do
  refuseIf (role ∉ headAuthorityAdapterRolesV1)
    ⟨"invalid_head_role", "unsupported head-authority adapter role"⟩
  orRefuse (profile.sourceBindings.find? fun binding =>
      binding.sourceId = sourceId ∧ binding.role = role)
    ⟨"head_source_mismatch", "the requested source and role are not in the retained roster"⟩

theorem catalogBinding_spec (profile : HeadAuthorityTrustProfileV1 E) :
    profile.catalogBinding ∈ profile.sourceBindings ∧
      profile.catalogBinding.role = .headCatalog := by
  have hfind : profile.sourceBindings.find? (fun binding => binding.role = .headCatalog) =
      some profile.catalogBinding := (Option.some_get _).symm
  exact ⟨List.mem_of_find?_eq_some hfind, by simpa using List.find?_some hfind⟩

/-- The binding of a request is the one of its role and source. -/
theorem bindingFor_eq_ok {profile : HeadAuthorityTrustProfileV1 E} {role : AdapterRole}
    {sourceId : String} {binding : HeadAuthoritySourceBindingV1} :
    profile.bindingFor role sourceId = .ok binding ↔
      binding ∈ profile.sourceBindings ∧ binding.role = role ∧ binding.sourceId = sourceId := by
  rw [bindingFor, unit_bind_eq_ok, refuseIf_eq_ok, not_not, orRefuse_eq_ok]
  constructor
  · rintro ⟨-, hfind⟩
    have hfound : binding.sourceId = sourceId ∧ binding.role = role := by
      simpa using List.find?_some hfind
    exact ⟨List.mem_of_find?_eq_some hfind, hfound.2, hfound.1⟩
  · rintro ⟨hmem, rfl, rfl⟩
    refine ⟨binding.supported, ?_⟩
    obtain ⟨found, hfound⟩ : ∃ found, profile.sourceBindings.find? (fun b =>
        b.sourceId = binding.sourceId ∧ b.role = binding.role) = some found :=
      Option.isSome_iff_exists.mp (List.find?_isSome.mpr ⟨binding, hmem, by simp⟩)
    have hsame : found.sourceId = binding.sourceId ∧ found.role = binding.role := by
      simpa using List.find?_some hfound
    rw [hfound, List.inj_on_of_nodup_map profile.independent.1
      (List.mem_of_find?_eq_some hfound) hmem hsame.1]

end HeadAuthorityTrustProfileV1

/-! ## Requests -/

/-- `head_checkpoint_genesis_id`. -/
def headCheckpointGenesisId (E : AdapterEnv) (serviceInstanceId environmentId : String) : Digest :=
  E.contentId "head_checkpoint_genesis"
    (.obj [("environment_id", .str environmentId),
      ("service_instance_id", .str serviceInstanceId)])

/-- `mission_checkpoint_genesis_id`. -/
def missionCheckpointGenesisId (E : AdapterEnv) (serviceInstanceId environmentId : String)
    (missionId : Digest) : Digest :=
  E.contentId "mission_checkpoint_genesis"
    (.obj [("environment_id", .str environmentId), ("mission_id", .str (contentIdText missionId)),
      ("service_instance_id", .str serviceInstanceId)])

/-- A sequence of a head : `-1` for the genesis, and at most an epoch. -/
def IsHeadSequence (n : ℤ) : Prop := -1 ≤ n ∧ n ≤ maxAdapterEpoch

instance (n : ℤ) : Decidable (IsHeadSequence n) := inferInstanceAs (Decidable (_ ∧ _))

/-- `_validated_time_references` : a bounded quorum in canonical order. -/
def HeadTimeReferences (evidence : List EvidenceReferenceV1) : Prop :=
  (2 ≤ evidence.length ∧ evidence.length ≤ maxHeadSourcesV1) ∧
    evidence.Pairwise fun a b =>
      a.sourceId < b.sourceId ∨ a.sourceId = b.sourceId ∧ a.evidenceId < b.evidenceId

instance (evidence : List EvidenceReferenceV1) : Decidable (HeadTimeReferences evidence) :=
  inferInstanceAs (Decidable (_ ∧ _))

/-- What both kinds of head request name : the profile, the transition and the time. -/
structure HeadRequestScope where
  profileId : Digest
  trustRootId : Digest
  serviceInstanceId : String
  environmentId : String
  missionId : Digest
  authorityId : Digest
  targetId : Digest
  eventDigest : Digest
  transitionIntentId : Digest
  sourceId : String
  timeBundleId : Digest
  timeLowerBound : ℕ
  timeUpperBound : ℕ
  timeEvidence : List EvidenceReferenceV1
  requestNonce : BitVec 256
  interval : timeLowerBound ≤ timeUpperBound
  references : HeadTimeReferences timeEvidence

variable (E) in
/-- `HeadCatalogRequestV1`, whose identity is computed from its fields. -/
structure HeadCatalogRequestV1 extends HeadRequestScope where
  evidenceRole : AdapterRole
  priorTreeSize : ℕ
  priorLogRootHash : Digest
  priorInstanceSequence : ℤ
  priorCheckpointId : Digest
  priorMissionEventSeq : ℤ
  priorMissionCheckpointId : Digest
  supported : evidenceRole ∈ [AdapterRole.headCatalog, AdapterRole.headMonitor]
  sized : 1 ≤ priorTreeSize ∧ priorTreeSize ≤ maxHeadTreeSizeV1
  sequences : IsHeadSequence priorInstanceSequence ∧ IsHeadSequence priorMissionEventSeq
  genesis : (priorInstanceSequence = -1 ↔
      priorCheckpointId = headCheckpointGenesisId E serviceInstanceId environmentId) ∧
    (priorMissionEventSeq = -1 ↔ priorMissionCheckpointId =
      missionCheckpointGenesisId E serviceInstanceId environmentId missionId)
  ordered : priorMissionEventSeq ≤ priorInstanceSequence

/-- `HeadCatalogRequestV1._semantics`. -/
def HeadCatalogRequestV1.semantics (request : HeadCatalogRequestV1 E) : Json :=
  .obj [("authority_id", .str (contentIdText request.authorityId)), ("contract_version", .int 1),
    ("environment_id", .str request.environmentId),
    ("event_digest", .str (contentIdText request.eventDigest)),
    ("evidence_role", .str request.evidenceRole.text),
    ("mission_id", .str (contentIdText request.missionId)),
    ("prior_checkpoint_id", .str (contentIdText request.priorCheckpointId)),
    ("prior_instance_sequence", .int request.priorInstanceSequence),
    ("prior_log_root_hash", .str (contentIdText request.priorLogRootHash)),
    ("prior_mission_checkpoint_id", .str (contentIdText request.priorMissionCheckpointId)),
    ("prior_mission_event_seq", .int request.priorMissionEventSeq),
    ("prior_tree_size", .int request.priorTreeSize),
    ("profile_id", .str (contentIdText request.profileId)),
    ("request_nonce", .str (nonceText request.requestNonce)),
    ("service_instance_id", .str request.serviceInstanceId), ("source_id", .str request.sourceId),
    ("target_id", .str (contentIdText request.targetId)),
    ("time_bundle_id", .str (contentIdText request.timeBundleId)),
    ("time_evidence", .arr (request.timeEvidence.map EvidenceReferenceV1.toBody)),
    ("time_lower_bound", .int request.timeLowerBound),
    ("time_upper_bound", .int request.timeUpperBound),
    ("transition_intent_id", .str (contentIdText request.transitionIntentId)),
    ("trust_root_id", .str (contentIdText request.trustRootId))]

/-- `HeadCatalogRequestV1.request_id`. -/
def HeadCatalogRequestV1.requestId (request : HeadCatalogRequestV1 E) : Digest :=
  E.contentId "head_catalog_adapter_request" request.semantics

/-- What authentication reads of a head request. -/
structure HeadRequestFrame where
  profileId : Digest
  trustRootId : Digest
  sourceId : String
  role : AdapterRole
  requestId : Digest

def HeadCatalogRequestV1.frame (request : HeadCatalogRequestV1 E) : HeadRequestFrame where
  profileId := request.profileId
  trustRootId := request.trustRootId
  sourceId := request.sourceId
  role := request.evidenceRole
  requestId := request.requestId

/-! ### Anchors -/

/-- `merkle_leaf_hash_v1`. -/
def merkleLeafHashV1 (E : AdapterEnv) (data : ByteArray) : Except AdapterError Digest := do
  refuseIf (data.size = 0)
    ⟨"invalid_head_record", "a Merkle leaf requires nonempty immutable bytes"⟩
  return E.sha256 (0 :: data.data.toList).toByteArray

/-- `AnchorRegistrationLeafV1`. -/
structure AnchorRegistrationLeafV1 where
  serviceInstanceId : String
  environmentId : String
  missionId : Digest
  instanceSequence : ℕ
  anchorPolicyId : Digest
  anchorStatementId : Digest

/-- `AnchorRegistrationLeafV1.to_body`. -/
def AnchorRegistrationLeafV1.toBody (leaf : AnchorRegistrationLeafV1) : Json :=
  .obj [("anchor_policy_id", .str (contentIdText leaf.anchorPolicyId)),
    ("anchor_statement_id", .str (contentIdText leaf.anchorStatementId)),
    ("contract_version", .int 1), ("environment_id", .str leaf.environmentId),
    ("instance_sequence", .int leaf.instanceSequence),
    ("mission_id", .str (contentIdText leaf.missionId)),
    ("service_instance_id", .str leaf.serviceInstanceId)]

/-- `AnchorRegistrationLeafV1.leaf_hash`. -/
def AnchorRegistrationLeafV1.leafHash (E : AdapterEnv) (leaf : AnchorRegistrationLeafV1) :
    Except AdapterError Digest := do
  let data ← canonicalRecordBytes E headRecordError leaf.toBody
  merkleLeafHashV1 E data

variable (E) in
/-- `HeadAnchorRequestV1`, whose identity is computed from its fields. -/
structure HeadAnchorRequestV1 extends HeadRequestScope where
  anchorPolicyId : Digest
  instanceSequence : ℕ
  anchorStatementId : Digest
  anchorLeafHash : Digest
  priorTreeSize : ℕ
  sequence : instanceSequence ≤ maxAdapterEpoch
  sized : 1 ≤ priorTreeSize ∧ priorTreeSize ≤ maxHeadTreeSizeV1
  leaf : AnchorRegistrationLeafV1.leafHash E ⟨serviceInstanceId, environmentId, missionId,
    instanceSequence, anchorPolicyId, anchorStatementId⟩ = .ok anchorLeafHash

/-- `HeadAnchorRequestV1._semantics`. -/
def HeadAnchorRequestV1.semantics (request : HeadAnchorRequestV1 E) : Json :=
  .obj [("anchor_leaf_hash", .str (contentIdText request.anchorLeafHash)),
    ("anchor_policy_id", .str (contentIdText request.anchorPolicyId)),
    ("anchor_statement_id", .str (contentIdText request.anchorStatementId)),
    ("authority_id", .str (contentIdText request.authorityId)), ("contract_version", .int 1),
    ("environment_id", .str request.environmentId),
    ("event_digest", .str (contentIdText request.eventDigest)),
    ("instance_sequence", .int request.instanceSequence),
    ("mission_id", .str (contentIdText request.missionId)),
    ("prior_tree_size", .int request.priorTreeSize),
    ("profile_id", .str (contentIdText request.profileId)),
    ("request_nonce", .str (nonceText request.requestNonce)),
    ("service_instance_id", .str request.serviceInstanceId), ("source_id", .str request.sourceId),
    ("target_id", .str (contentIdText request.targetId)),
    ("time_bundle_id", .str (contentIdText request.timeBundleId)),
    ("time_evidence", .arr (request.timeEvidence.map EvidenceReferenceV1.toBody)),
    ("time_lower_bound", .int request.timeLowerBound),
    ("time_upper_bound", .int request.timeUpperBound),
    ("transition_intent_id", .str (contentIdText request.transitionIntentId)),
    ("trust_root_id", .str (contentIdText request.trustRootId))]

/-- `HeadAnchorRequestV1.request_id`. -/
def HeadAnchorRequestV1.requestId (request : HeadAnchorRequestV1 E) : Digest :=
  E.contentId "head_anchor_adapter_request" request.semantics

def HeadAnchorRequestV1.frame (request : HeadAnchorRequestV1 E) : HeadRequestFrame where
  profileId := request.profileId
  trustRootId := request.trustRootId
  sourceId := request.sourceId
  role := .headAnchor
  requestId := request.requestId

/-! ## Claims -/

/-- `_require_nonnegative_int` of the head-authority adapters. -/
def requireHeadNat (value : Json) (name : String) : Except AdapterError ℕ :=
  requireNat value maxAdapterEpoch
    ⟨"invalid_head_integer", name ++ " must be a bounded nonnegative integer"⟩

/-- `_require_epoch` of the head-authority adapters. -/
def requireHeadEpoch (value : Json) (name : String) : Except AdapterError ℕ :=
  requireNat value maxAdapterEpoch
    ⟨"invalid_head_integer", name ++ " must be a bounded epoch second"⟩

/-- `_require_head_sequence`. -/
def requireHeadSequence (value : Json) (name : String) : Except AdapterError ℤ := do
  let error : AdapterError :=
    ⟨"invalid_head_integer", name ++ " must be a bounded sequence at or above genesis -1"⟩
  let n ← orRefuse (int? value) error
  refuseIf (¬IsHeadSequence n) error
  return n

/-- `_require_tree_size`. -/
def requireTreeSize (value : Json) (name : String) : Except AdapterError ℕ := do
  let error : AdapterError :=
    ⟨"invalid_head_tree_size", name ++ " must be a bounded positive tree size"⟩
  let n ← requireNat value maxHeadTreeSizeV1 error
  refuseIf (n = 0) error
  return n

/-- `_validated_proof`, with the digests of the nodes. -/
def validatedProof (value : Json) (name : String) : Except AdapterError (List Digest) := do
  let error : AdapterError :=
    ⟨"invalid_head_proof", name ++ " must be a bounded ordered proof list"⟩
  let items ← orRefuse (items? value) error
  refuseIf (items.length > maxHeadProofNodesV1) error
  items.mapM fun item => do
    let node ← requireHeadDigest item (name ++ "_node")
    return digestOf node

/-- A field that `None` stands for the absence of. -/
def optionalText (value : Json) (name : String)
    (require : Json → String → Except AdapterError String) :
    Except AdapterError (Option String) :=
  match value with
  | .null => .ok none
  | value => do
    let text ← require value name
    return some text

/-- A field of a claim that names the log of its source. -/
def requireLogOrigin (body : List (String × Json)) (binding : HeadAuthoritySourceBindingV1)
    (label : String) : Except AdapterError Unit := do
  let origin ← field body "log_origin"
  let origin ← requireHeadIdentity origin "log_origin"
  refuseIf (origin ≠ binding.logOrigin)
    ⟨"head_log_origin_mismatch",
      label ++ " claim log origin does not match its retained source binding"⟩

/-- The claim of an anchor, less the fields that repeat its request. -/
structure HeadAnchorClaim where
  logOrigin : String
  logRootHash : Digest
  treeSize : ℕ
  leafIndex : ℕ
  registeredAt : ℕ
  inclusionProof : List Digest
  deriving DecidableEq

/-- `_ANCHOR_CLAIM_FIELDS`. -/
def anchorClaimFields : List String :=
  ["anchor_statement_id", "inclusion_proof", "leaf_hash", "leaf_index", "log_origin",
    "log_root_hash", "registered_at", "tree_size"]

/-- `_validate_anchor_claim`. -/
def validateAnchorClaim (request : HeadAnchorRequestV1 E) (binding : HeadAuthoritySourceBindingV1)
    (claim : List (String × Json)) : Except AdapterError HeadAnchorClaim := do
  let body ← requireExactDict (.obj claim) anchorClaimFields "head_anchor_claim"
  requireLogOrigin body binding "anchor"
  let statement ← field body "anchor_statement_id"
  let statement ← requireHeadDigest statement "anchor_statement_id"
  refuseIf (statement ≠ contentIdText request.anchorStatementId)
    ⟨"head_anchor_statement_mismatch",
      "anchor claim does not register the requested anchor statement"⟩
  let leaf ← field body "leaf_hash"
  let leaf ← requireHeadDigest leaf "leaf_hash"
  refuseIf (leaf ≠ contentIdText request.anchorLeafHash)
    ⟨"head_anchor_leaf_mismatch",
      "anchor claim leaf hash does not match the exact requested registration record"⟩
  let root ← field body "log_root_hash"
  let root ← requireHeadDigest root "log_root_hash"
  let treeSize ← field body "tree_size"
  let treeSize ← requireTreeSize treeSize "tree_size"
  let leafIndex ← field body "leaf_index"
  let leafIndex ← requireHeadNat leafIndex "leaf_index"
  let registeredAt ← field body "registered_at"
  let registeredAt ← requireHeadEpoch registeredAt "registered_at"
  let proof ← field body "inclusion_proof"
  let inclusionProof ← validatedProof proof "inclusion_proof"
  return {
    treeSize, leafIndex, registeredAt, inclusionProof
    logOrigin := binding.logOrigin
    logRootHash := digestOf root }

/-- The claim of the catalog, less the mission that repeats its request. -/
structure HeadCatalogClaim where
  logOrigin : String
  logRootHash : Digest
  treeSize : ℕ
  publishedAt : ℕ
  consistencyProof : List Digest
  projectionInclusionProof : List Digest
  instanceSequence : ℤ
  missionEventSeq : ℤ
  checkpoint : CheckpointRef
  missionCheckpoint : CheckpointRef
  deriving DecidableEq

/-- `_CATALOG_CLAIM_FIELDS`. -/
def catalogClaimFields : List String :=
  ["checkpoint_attestation_id", "checkpoint_id", "checkpoint_principal_id",
    "checkpoint_trust_snapshot_id", "consistency_proof", "instance_sequence", "log_origin",
    "log_root_hash", "mission_checkpoint_attestation_id", "mission_checkpoint_id",
    "mission_checkpoint_principal_id", "mission_checkpoint_trust_snapshot_id",
    "mission_event_seq", "mission_id", "projection_inclusion_proof", "published_at", "tree_size"]

/-- `_validate_catalog_claim`. -/
def validateCatalogClaim (request : HeadCatalogRequestV1 E)
    (binding : HeadAuthoritySourceBindingV1) (claim : List (String × Json)) :
    Except AdapterError HeadCatalogClaim := do
  let body ← requireExactDict (.obj claim) catalogClaimFields "head_catalog_claim"
  requireLogOrigin body binding "catalog"
  let root ← field body "log_root_hash"
  let root ← requireHeadDigest root "log_root_hash"
  let treeSize ← field body "tree_size"
  let treeSize ← requireTreeSize treeSize "tree_size"
  let publishedAt ← field body "published_at"
  let publishedAt ← requireHeadEpoch publishedAt "published_at"
  let consistency ← field body "consistency_proof"
  let consistencyProof ← validatedProof consistency "consistency_proof"
  let inclusion ← field body "projection_inclusion_proof"
  let projectionInclusionProof ← validatedProof inclusion "projection_inclusion_proof"
  let mission ← field body "mission_id"
  let mission ← requireHeadDigest mission "mission_id"
  refuseIf (mission ≠ contentIdText request.missionId)
    ⟨"head_scope_mismatch", "catalog claim mission does not match the requested scope"⟩
  let sequence ← field body "instance_sequence"
  let instanceSequence ← requireHeadSequence sequence "instance_sequence"
  let sequence ← field body "mission_event_seq"
  let missionEventSeq ← requireHeadSequence sequence "mission_event_seq"
  let checkpoint ← field body "checkpoint_id"
  let checkpoint ← requireHeadDigest checkpoint "checkpoint_id"
  let missionCheckpoint ← field body "mission_checkpoint_id"
  let missionCheckpoint ← requireHeadDigest missionCheckpoint "mission_checkpoint_id"
  let optional := fun name require => do
    let value ← field body name
    optionalText value name require
  let attestation ← optional "checkpoint_attestation_id" requireHeadDigest
  let snapshot ← optional "checkpoint_trust_snapshot_id" requireHeadDigest
  let missionAttestation ← optional "mission_checkpoint_attestation_id" requireHeadDigest
  let missionSnapshot ← optional "mission_checkpoint_trust_snapshot_id" requireHeadDigest
  let principal ← optional "checkpoint_principal_id" requireHeadIdentity
  let missionPrincipal ← optional "mission_checkpoint_principal_id" requireHeadIdentity
  return {
    treeSize, publishedAt, consistencyProof, projectionInclusionProof, instanceSequence
    missionEventSeq
    logOrigin := binding.logOrigin
    logRootHash := digestOf root
    checkpoint := ⟨digestOf checkpoint, attestation.map digestOf, principal,
      snapshot.map digestOf⟩
    missionCheckpoint := ⟨digestOf missionCheckpoint, missionAttestation.map digestOf,
      missionPrincipal, missionSnapshot.map digestOf⟩ }

/-- The claim of a monitor. -/
structure HeadMonitorClaim where
  logOrigin : String
  logRootHash : Digest
  treeSize : ℕ
  observedAt : ℕ
  witnessedSourceId : String
  deriving DecidableEq

/-- `_MONITOR_CLAIM_FIELDS`. -/
def monitorClaimFields : List String :=
  ["log_origin", "log_root_hash", "observed_at", "tree_size", "witnessed_source_id"]

/-- `_validate_monitor_claim`. -/
def validateMonitorClaim (binding : HeadAuthoritySourceBindingV1)
    (claim : List (String × Json)) : Except AdapterError HeadMonitorClaim := do
  let body ← requireExactDict (.obj claim) monitorClaimFields "head_monitor_claim"
  requireLogOrigin body binding "monitor"
  let root ← field body "log_root_hash"
  let root ← requireHeadDigest root "log_root_hash"
  let treeSize ← field body "tree_size"
  let treeSize ← requireTreeSize treeSize "tree_size"
  let observedAt ← field body "observed_at"
  let observedAt ← requireHeadEpoch observedAt "observed_at"
  let witnessed ← field body "witnessed_source_id"
  let witnessedSourceId ← requireHeadIdentity witnessed "witnessed_source_id"
  return {
    treeSize, observedAt, witnessedSourceId
    logOrigin := binding.logOrigin
    logRootHash := digestOf root }

/-! ## Authentication -/

/-- `AuthenticatedHeadEvidencePackageV1` of a request and a claim. -/
structure AuthenticatedHeadEvidencePackageV1 (ρ κ : Type) where
  profileId : Digest
  request : ρ
  signedEvidence : SignedEvidenceV1
  statement : ProviderStatementV1
  sourceBinding : HeadAuthoritySourceBindingV1
  providerEvidence : ProviderEvidenceBlobV1
  claim : κ

/-- The comparisons of a statement, in the order of the source : what it says, what is demanded
and the refusal. -/
def headFramingChecks (profile : HeadAuthorityTrustProfileV1 E)
    (binding : HeadAuthoritySourceBindingV1) (frame : HeadRequestFrame)
    (statement : ProviderStatementV1) : List (String × String × AdapterError) :=
  [(statement.profileId, contentIdText profile.profileId,
      ⟨"head_profile_mismatch", "provider statement binds another profile"⟩),
    (statement.trustRootId, contentIdText profile.trustRootId,
      ⟨"head_root_mismatch", "provider statement binds another trust root"⟩),
    (statement.serviceInstanceId, profile.serviceInstanceId,
      ⟨"head_scope_mismatch", "provider statement binds another service scope"⟩),
    (statement.environmentId, profile.environmentId,
      ⟨"head_scope_mismatch", "provider statement binds another service scope"⟩),
    (statement.sourceId, binding.sourceId,
      ⟨"head_source_mismatch", "provider statement binds another source"⟩),
    (statement.evidenceRole.text, frame.role.text,
      ⟨"head_role_mismatch", "provider statement binds another role"⟩),
    (statement.providerPolicyId, contentIdText binding.providerPolicyId,
      ⟨"head_policy_mismatch", "provider statement binds another provider policy"⟩),
    (statement.requestId, contentIdText frame.requestId,
      ⟨"head_request_mismatch", "provider statement answers another request"⟩)]

/-- `authenticate_head_evidence_v1`, for a request with a frame and a check of its claim. -/
def authenticateHeadEvidenceV1 {ρ κ : Type} (profile : HeadAuthorityTrustProfileV1 E)
    (frame : HeadRequestFrame)
    (validateClaim : HeadAuthoritySourceBindingV1 → List (String × Json) → Except AdapterError κ)
    (request : ρ) (signedEvidence : SignedEvidenceV1) :
    Except AdapterError (AuthenticatedHeadEvidencePackageV1 ρ κ) := do
  let wire ← headEvidenceBytes E signedEvidence
  let signed ← headEvidenceOf E wire
  refuseIf (frame.profileId ≠ profile.profileId)
    ⟨"head_profile_mismatch", "the request does not bind the retained head-authority profile"⟩
  refuseIf (frame.trustRootId ≠ profile.trustRootId)
    ⟨"head_root_mismatch", "the request does not bind the retained head-authority trust root"⟩
  refuseIf (signed.evidenceRole ≠ frame.role)
    ⟨"head_role_mismatch", "signed evidence role does not match the requested role"⟩
  let binding ← profile.bindingFor frame.role frame.sourceId
  refuseIf (signed.keyId ≠ binding.keyId.text)
    ⟨"head_source_mismatch", "signed evidence key is not the retained key for this source"⟩
  refuseIf (signed.keyId ∈ profile.trustStore.revokedKeyIds.map KeyId.text)
    ⟨"revoked_head_key", "signed evidence uses a revoked fixture key"⟩
  let trustedKey ← orRefuse (profile.trustStore.key E signed.keyId)
    ⟨"unknown_head_key", "signed evidence key is not in the retained trust root"⟩
  refuseIf (E.verifies trustedKey.publicKey
      (frame.role.signatureDomain ++ signed.statementBytes.data.toList) signed.signatureBytes =
        false)
    ⟨"head_signature_invalid",
      "head package signature is invalid for the exact retained bytes"⟩
  let statement ← headStatementOf E signed.statementBytes
  (headFramingChecks profile binding frame statement).forM fun check =>
    refuseIf (check.1 ≠ check.2.1) check.2.2
  let claim ← validateClaim binding statement.claim
  let content ← headEvidenceBytes E signed
  let providerEvidence ←
    ProviderEvidenceBlobV1.fromContent E frame.role.evidenceKind binding.sourceId content
  return {
    request, statement, claim, providerEvidence
    profileId := profile.profileId
    signedEvidence := signed
    sourceBinding := binding }

variable (E) in
/-- An authenticated answer of an anchor. -/
abbrev AnchorPackage : Type :=
  AuthenticatedHeadEvidencePackageV1 (HeadAnchorRequestV1 E) HeadAnchorClaim

variable (E) in
/-- An authenticated answer of the catalog. -/
abbrev CatalogPackage : Type :=
  AuthenticatedHeadEvidencePackageV1 (HeadCatalogRequestV1 E) HeadCatalogClaim

variable (E) in
/-- An authenticated answer of a monitor. -/
abbrev MonitorPackage : Type :=
  AuthenticatedHeadEvidencePackageV1 (HeadCatalogRequestV1 E) HeadMonitorClaim

def authenticateAnchorEvidence (profile : HeadAuthorityTrustProfileV1 E)
    (request : HeadAnchorRequestV1 E) (signedEvidence : SignedEvidenceV1) :
    Except AdapterError (AnchorPackage E) :=
  authenticateHeadEvidenceV1 profile request.frame (validateAnchorClaim request) request
    signedEvidence

def authenticateCatalogEvidence (profile : HeadAuthorityTrustProfileV1 E)
    (request : HeadCatalogRequestV1 E) (signedEvidence : SignedEvidenceV1) :
    Except AdapterError (CatalogPackage E) :=
  authenticateHeadEvidenceV1 profile request.frame (validateCatalogClaim request) request
    signedEvidence

def authenticateMonitorEvidence (profile : HeadAuthorityTrustProfileV1 E)
    (request : HeadCatalogRequestV1 E) (signedEvidence : SignedEvidenceV1) :
    Except AdapterError (MonitorPackage E) :=
  authenticateHeadEvidenceV1 profile request.frame validateMonitorClaim request signedEvidence

/-! ## What authentication checks -/

section Authentication

variable {ρ κ : Type} {profile : HeadAuthorityTrustProfileV1 E} {frame : HeadRequestFrame}
  {validateClaim : HeadAuthoritySourceBindingV1 → List (String × Json) → Except AdapterError κ}
  {request : ρ} {signedEvidence : SignedEvidenceV1}

/-- What a signed package and its request passed when they were authenticated. -/
structure AuthenticatesHead (profile : HeadAuthorityTrustProfileV1 E) (frame : HeadRequestFrame)
    (validateClaim : HeadAuthoritySourceBindingV1 → List (String × Json) → Except AdapterError κ)
    (binding : HeadAuthoritySourceBindingV1) (signed : SignedEvidenceV1)
    (statement : ProviderStatementV1) (claim : κ) : Prop where
  profileId : frame.profileId = profile.profileId
  trustRootId : frame.trustRootId = profile.trustRootId
  role : signed.evidenceRole = frame.role
  bound : profile.bindingFor frame.role frame.sourceId = .ok binding
  keyId : signed.keyId = binding.keyId.text
  unrevoked : signed.keyId ∉ profile.trustStore.revokedKeyIds.map KeyId.text
  signature : ∃ key, profile.trustStore.key E signed.keyId = some key ∧
    E.verifies key.publicKey (frame.role.signatureDomain ++ signed.statementBytes.data.toList)
      signed.signatureBytes = true
  stated : headStatementOf E signed.statementBytes = .ok statement
  framing : ∀ check ∈ headFramingChecks profile binding frame statement, check.1 = check.2.1
  claimed : validateClaim binding statement.claim = .ok claim

/-- An authenticated package is a signed package that is read from its own bytes, with what it
passed and the evidence that holds those bytes. -/
theorem authenticateHead_eq_ok {package : AuthenticatedHeadEvidencePackageV1 ρ κ} :
    authenticateHeadEvidenceV1 profile frame validateClaim request signedEvidence = .ok package ↔
      ∃ wire content, headEvidenceBytes E signedEvidence = .ok wire ∧
        headEvidenceOf E wire = .ok package.signedEvidence ∧
        AuthenticatesHead profile frame validateClaim package.sourceBinding package.signedEvidence
          package.statement package.claim ∧
        headEvidenceBytes E package.signedEvidence = .ok content ∧
        ProviderEvidenceBlobV1.fromContent E frame.role.evidenceKind package.sourceBinding.sourceId
          content = .ok package.providerEvidence ∧
        package.request = request ∧ package.profileId = profile.profileId := by
  constructor
  · intro h
    obtain ⟨wire, hwire, hrest⟩ := bind_eq_ok.mp h
    obtain ⟨signed, hsigned, hrest⟩ := bind_eq_ok.mp hrest
    obtain ⟨hprofile, hrest⟩ := unit_bind_eq_ok.mp hrest
    obtain ⟨hroot, hrest⟩ := unit_bind_eq_ok.mp hrest
    obtain ⟨hrole, hrest⟩ := unit_bind_eq_ok.mp hrest
    obtain ⟨binding, hbinding, hrest⟩ := bind_eq_ok.mp hrest
    obtain ⟨hkeyId, hrest⟩ := unit_bind_eq_ok.mp hrest
    obtain ⟨hrevoked, hrest⟩ := unit_bind_eq_ok.mp hrest
    obtain ⟨key, hkey, hrest⟩ := orRefuse_bind_eq_ok.mp hrest
    obtain ⟨hverifies, hrest⟩ := unit_bind_eq_ok.mp hrest
    obtain ⟨statement, hstatement, hrest⟩ := bind_eq_ok.mp hrest
    obtain ⟨hframing, hrest⟩ := unit_bind_eq_ok.mp hrest
    obtain ⟨claim, hclaim, hrest⟩ := bind_eq_ok.mp hrest
    obtain ⟨content, hcontent, hrest⟩ := bind_eq_ok.mp hrest
    obtain ⟨evidence, hevidence, hreturn⟩ := bind_eq_ok.mp hrest
    obtain rfl := Except.ok.inj hreturn
    simp only [refuseIf_eq_ok, not_not] at hprofile hroot hrole hkeyId hrevoked
    simp only [refuseIf_eq_ok, Bool.not_eq_false] at hverifies
    rw [forM_eq_ok] at hframing
    exact ⟨wire, content, hwire, hsigned,
      { profileId := hprofile
        trustRootId := hroot
        role := hrole
        bound := hbinding
        keyId := hkeyId
        unrevoked := hrevoked
        signature := ⟨key, hkey, hverifies⟩
        stated := hstatement
        framing := fun check hcheck => not_not.mp (refuseIf_eq_ok.mp (hframing check hcheck))
        claimed := hclaim }, hcontent, hevidence, rfl, rfl⟩
  · rintro ⟨wire, content, hwire, hsigned, hpassed, hcontent, hevidence, hrequest, hprofile⟩
    obtain ⟨key, hkey, hverifies⟩ := hpassed.signature
    have hframing : (headFramingChecks profile package.sourceBinding frame package.statement).forM
        (fun check => refuseIf (check.1 ≠ check.2.1) check.2.2) = .ok () :=
      forM_eq_ok.mpr fun check hcheck => refuseIf_eq_ok.mpr
        (not_not.mpr (hpassed.framing check hcheck))
    unfold authenticateHeadEvidenceV1
    rw [bind_of_ok hwire, bind_of_ok hsigned,
      refuseIf_bind_of_not (not_not.mpr hpassed.profileId),
      refuseIf_bind_of_not (not_not.mpr hpassed.trustRootId),
      refuseIf_bind_of_not (not_not.mpr hpassed.role), bind_of_ok hpassed.bound,
      refuseIf_bind_of_not (not_not.mpr hpassed.keyId), refuseIf_bind_of_not hpassed.unrevoked,
      bind_of_ok (orRefuse_eq_ok.mpr hkey), refuseIf_bind_of_not (by simp [hverifies]),
      bind_of_ok hpassed.stated, bind_of_ok hframing, bind_of_ok hpassed.claimed,
      bind_of_ok hcontent, bind_of_ok hevidence, ← hrequest, ← hprofile]
    rfl

/-- An authenticated package is authenticated again from its own signed evidence, to itself. -/
theorem authenticateHead_again {package : AuthenticatedHeadEvidencePackageV1 ρ κ}
    (h : authenticateHeadEvidenceV1 profile frame validateClaim request signedEvidence =
      .ok package) :
    authenticateHeadEvidenceV1 profile frame validateClaim request package.signedEvidence =
      .ok package := by
  obtain ⟨wire, content, -, hsigned, hpassed, hcontent, hevidence, hrequest, hprofile⟩ :=
    authenticateHead_eq_ok.mp h
  obtain rfl := Except.ok.inj ((headEvidence_bytes hsigned).symm.trans hcontent)
  exact authenticateHead_eq_ok.mpr ⟨wire, wire, hcontent, hsigned, hpassed, hcontent, hevidence,
    hrequest, hprofile⟩

/-- The source of an authenticated package is the binding of its request. -/
theorem authenticateHead_bound {package : AuthenticatedHeadEvidencePackageV1 ρ κ}
    (h : authenticateHeadEvidenceV1 profile frame validateClaim request signedEvidence =
      .ok package) :
    package.request = request ∧
      profile.bindingFor frame.role frame.sourceId = .ok package.sourceBinding ∧
      validateClaim package.sourceBinding package.statement.claim = .ok package.claim ∧
      package.providerEvidence.evidenceKind = frame.role.evidenceKind ∧
      package.providerEvidence.sourceId = package.sourceBinding.sourceId := by
  obtain ⟨wire, content, -, -, hpassed, -, hevidence, hrequest, -⟩ := authenticateHead_eq_ok.mp h
  obtain ⟨-, hreturn⟩ := unit_bind_eq_ok.mp hevidence
  have hblob := Except.ok.inj hreturn
  exact ⟨hrequest, hpassed.bound, hpassed.claimed, by rw [← hblob], by rw [← hblob]⟩

end Authentication

/-! ## Answers -/

/-- The bytes of a package are canonical under either refusal. -/
theorem headEvidenceBytes_eq_ok {signed : SignedEvidenceV1} {wire : ByteArray} :
    headEvidenceBytes E signed = .ok wire ↔ providerEvidenceBytes E signed = .ok wire := by
  rw [headEvidenceBytes, providerEvidenceBytes, canonicalRecordBytes, canonicalRecordBytes,
    mapError_eq_ok, mapError_eq_ok]

/-- The Base64 text of bounded bytes is decoded. -/
theorem decodeHeadB64_text {bytes : List UInt8} {name : String} {maximum : ℕ}
    (hne : bytes ≠ []) (hle : bytes.length ≤ maximum) :
    decodeHeadB64 (.str (base64Text bytes)) name maximum = .ok bytes := by
  have hdecode : Base64.decode (base64Text bytes).toList = some bytes := by
    rw [base64Text, String.toList_ofList, Base64.decode_encode]
  rw [decodeHeadB64, bind_of_ok (orRefuse_eq_ok.mpr (str?_eq_some.mpr rfl)),
    bind_of_ok (orRefuse_eq_ok.mpr hdecode), refuseIf_bind_of_not (not_not.mpr rfl),
    refuseIf_bind_of_not (by simp [hne, hle])]
  rfl

/-- A head package is read back from its bytes. -/
theorem headEvidence_read {signed : SignedEvidenceV1} {wire : ByteArray}
    (hwire : headEvidenceBytes E signed = .ok wire)
    (hrole : signed.evidenceRole ∈ headAuthorityAdapterRolesV1)
    (hkeyId : isKeyId signed.keyId = true) (hsignature : signed.signatureBytes.length = 64)
    (hne : signed.statementBytes.size ≠ 0) (hsize : signed.statementBytes.size ≤ maxPackageBytes) :
    headEvidenceOf E wire = .ok signed := by
  rw [headEvidenceBytes, canonicalRecordBytes, mapError_eq_ok] at hwire
  have hnormal : normalForm signed.toBody = signed.toBody := by
    simp [SignedEvidenceV1.toBody, normalForm, normalFormMembers, setItem, sortMembers]
  have hsign : signed.signatureBytes ≠ [] := by
    rintro h
    simp [h] at hsignature
  have hstatement : signed.statementBytes.data.toList ≠ [] := by
    intro h
    exact hne (by rw [← ByteArray.size_data, ← Array.length_toList, h, List.length_nil])
  have hlength : signed.statementBytes.data.toList.length ≤ maxPackageBytes := by
    rwa [Array.length_toList, ByteArray.size_data]
  have hrecord : canonicalRecordBody E headRecordError wire signedEvidenceFields
      "signed_head_evidence" = .ok [("algorithm", .str "ed25519"),
        ("evidence_role", .str signed.evidenceRole.text), ("key_id", .str signed.keyId),
        ("signature_b64", .str (base64Text signed.signatureBytes)),
        ("statement_b64", .str (base64Text signed.statementBytes.data.toList))] :=
    canonicalRecordBody_eq_ok hwire hnormal rfl
  rw [headEvidenceOf, bind_of_ok hrecord]
  simp only [field, List.lookup, String.reduceBEq, orRefuse_some_bind]
  rw [bind_of_ok (decodeHeadB64_text hstatement hlength),
    bind_of_ok (decodeHeadB64_text hsign hsignature.le),
    bind_of_ok (orRefuse_eq_ok.mpr (role?_text hrole)), requireHeadKeyId,
    requireText_bind hkeyId, refuseIf_bind_of_not (not_not.mpr (str?_eq_some.mpr rfl)),
    refuseIf_bind_of_not (not_not.mpr hsignature), toByteArray_data]
  rfl

/-- A statement of a head source is read back from its bytes. -/
theorem headStatement_read {s : ProviderStatementV1} {wire : ByteArray}
    (hwire : canonicalDumps E.nfc s.toBody = .ok wire)
    (hclaim : normalForm (.obj s.claim) = .obj s.claim)
    (h : s.Wellformed headAuthorityAdapterRolesV1) : headStatementOf E wire = .ok s := by
  have hnormal : normalForm s.toBody = s.toBody := by
    simpa [ProviderStatementV1.toBody, normalForm, normalFormMembers, setItem, sortMembers]
      using hclaim
  have hrecord : canonicalRecordBody E headRecordError wire statementFields
      "head_provider_statement" = .ok [("claim", .obj s.claim), ("contract_version", .int 1),
        ("environment_id", .str s.environmentId), ("evidence_role", .str s.evidenceRole.text),
        ("profile_id", .str s.profileId), ("provider_policy_id", .str s.providerPolicyId),
        ("request_id", .str s.requestId), ("service_instance_id", .str s.serviceInstanceId),
        ("source_id", .str s.sourceId), ("trust_root_id", .str s.trustRootId)] :=
    canonicalRecordBody_eq_ok hwire hnormal rfl
  rw [headStatementOf, bind_of_ok hrecord]
  simp only [field, List.lookup, String.reduceBEq, orRefuse_some_bind, requireHeadDigest,
    requireHeadIdentity, members?_obj]
  rw [refuseIf_bind_of_not (by simp [int?]), requireText_bind h.profileId,
    requireText_bind h.trustRootId, requireText_bind h.providerPolicyId,
    requireText_bind h.requestId, requireText_bind h.serviceInstanceId,
    requireText_bind h.environmentId, requireText_bind h.sourceId,
    bind_of_ok (orRefuse_eq_ok.mpr (role?_text h.evidenceRole))]
  rfl

/-- The statement of a source that answers a head request with a claim. -/
def headAnswer (profile : HeadAuthorityTrustProfileV1 E) (binding : HeadAuthoritySourceBindingV1)
    (frame : HeadRequestFrame) (claim : List (String × Json)) : ProviderStatementV1 where
  profileId := contentIdText profile.profileId
  trustRootId := contentIdText profile.trustRootId
  serviceInstanceId := profile.serviceInstanceId
  environmentId := profile.environmentId
  sourceId := binding.sourceId
  evidenceRole := frame.role
  providerPolicyId := contentIdText binding.providerPolicyId
  requestId := contentIdText frame.requestId
  claim := claim

/-- A head source is authenticated when it signs, under its own key that is not revoked, an answer
that holds a valid claim to a request under the profile. -/
theorem authenticate_headAnswer {ρ κ : Type} {profile : HeadAuthorityTrustProfileV1 E}
    {frame : HeadRequestFrame}
    {validateClaim : HeadAuthoritySourceBindingV1 → List (String × Json) → Except AdapterError κ}
    (request : ρ) {binding : HeadAuthoritySourceBindingV1} {claim : List (String × Json)}
    {claimed : κ} {statementBytes wire : ByteArray} {signature : List UInt8}
    {key : TrustedAdapterKeyV1} (hprofile : frame.profileId = profile.profileId)
    (htrustRoot : frame.trustRootId = profile.trustRootId)
    (hbound : profile.bindingFor frame.role frame.sourceId = .ok binding)
    (hunrevoked : binding.keyId.text ∉ profile.trustStore.revokedKeyIds.map KeyId.text)
    (hkey : profile.trustStore.key E binding.keyId.text = some key)
    (hverifies : E.verifies key.publicKey
      (frame.role.signatureDomain ++ statementBytes.data.toList) signature = true)
    (hnormal : normalForm (.obj claim) = .obj claim)
    (hstatement : canonicalDumps E.nfc (headAnswer profile binding frame claim).toBody =
      .ok statementBytes)
    (hclaimed : validateClaim binding claim = .ok claimed)
    (hsignature : signature.length = 64) (hne : statementBytes.size ≠ 0)
    (hsize : statementBytes.size ≤ maxPackageBytes)
    (hwire : headEvidenceBytes E ⟨frame.role, binding.keyId.text, statementBytes, signature⟩ =
      .ok wire)
    (hwireNe : wire.size ≠ 0) (hwireSize : wire.size ≤ maxProviderEvidenceBlobBytesV1) :
    authenticateHeadEvidenceV1 profile frame validateClaim request
        ⟨frame.role, binding.keyId.text, statementBytes, signature⟩ = .ok {
      profileId := profile.profileId
      request := request
      signedEvidence := ⟨frame.role, binding.keyId.text, statementBytes, signature⟩
      statement := headAnswer profile binding frame claim
      sourceBinding := binding
      providerEvidence := ⟨frame.role.evidenceKind, binding.sourceId, E.sha256 wire,
        wire.data.toList⟩
      claim := claimed } := by
  obtain ⟨hmem, hrole, -⟩ := HeadAuthorityTrustProfileV1.bindingFor_eq_ok.mp hbound
  have hsupported : frame.role ∈ headAuthorityAdapterRolesV1 := hrole ▸ binding.supported
  have hread := headEvidence_read hwire hsupported (isKeyId_text binding.keyId) hsignature hne hsize
  have hstated := headStatement_read hstatement hnormal
    { profileId := isContentId_contentIdText _
      trustRootId := isContentId_contentIdText _
      providerPolicyId := isContentId_contentIdText _
      requestId := isContentId_contentIdText _
      serviceInstanceId := profile.service
      environmentId := profile.environment
      sourceId := binding.identities.1
      evidenceRole := hsupported }
  have hcontent : ProviderEvidenceBlobV1.fromContent E frame.role.evidenceKind binding.sourceId
      wire = .ok ⟨frame.role.evidenceKind, binding.sourceId, E.sha256 wire, wire.data.toList⟩ := by
    rw [ProviderEvidenceBlobV1.fromContent, refuseIf_bind_of_not (by omega)]
    rfl
  refine authenticateHead_eq_ok.mpr ⟨wire, wire, hwire, hread, ?_, hwire, hcontent, rfl, rfl⟩
  exact {
    profileId := hprofile
    trustRootId := htrustRoot
    role := rfl
    bound := hbound
    keyId := rfl
    unrevoked := hunrevoked
    signature := ⟨key, hkey, hverifies⟩
    stated := hstated
    framing := by simp [headFramingChecks, headAnswer]
    claimed := hclaimed }

/-- A head answer is normalized when its claim is admitted. -/
theorem normalized_headAnswer (profile : HeadAuthorityTrustProfileV1 E)
    (binding : HeadAuthoritySourceBindingV1) (frame : HeadRequestFrame)
    {claim : List (String × Json)} (hclaim : Admitted E.nfc 1 (.obj claim))
    (hnodes : nodes (.obj claim) ≤ 1000) :
    normalized E.nfc (headAnswer profile binding frame claim).toBody =
      .ok (headAnswer profile binding frame claim).toBody := by
  have hrole : isAscii frame.role.text = true ∧ frame.role.text.length ≤ maxStringCodepoints := by
    cases frame.role <;> decide
  refine normalized_of_admitted (admitted_record (by decide +kernel : PlainFields statementFields)
    rfl (by decide) ?_) ?_
  · simp only [List.forall_mem_cons, List.not_mem_nil, false_imp_iff, implies_true, and_true]
    exact ⟨hclaim, .int (by decide) (by decide) (by decide),
      admitted_identity (by decide) profile.environment,
      .str (by decide) (validString_of_ascii hrole.1 hrole.2),
      admitted_contentIdText (by decide) _, admitted_contentIdText (by decide) _,
      admitted_contentIdText (by decide) _, admitted_identity (by decide) profile.service,
      admitted_identity (by decide) binding.identities.1, admitted_contentIdText (by decide) _⟩
  · have hceiling : 1010 ≤ maxTotalNodes := by decide
    simp only [ProviderStatementV1.toBody, headAnswer, nodes, nodesMembers] at hnodes ⊢
    omega

theorem weight_headAnswer (profile : HeadAuthorityTrustProfileV1 E)
    (binding : HeadAuthoritySourceBindingV1) (frame : HeadRequestFrame)
    (claim : List (String × Json)) :
    weight (headAnswer profile binding frame claim).toBody ≤ 6000 + weight (.obj claim) := by
  have hservice := (isAdapterIdentity_ascii profile.service).2
  have henvironment := (isAdapterIdentity_ascii profile.environment).2
  have hsource := (isAdapterIdentity_ascii binding.identities.1).2
  have hrole : frame.role.text.length ≤ 20 := by
    cases frame.role <;> decide
  have hversion : weight (.int 1) = 1 := by decide
  have hkeys : "claim".length + "contract_version".length + "environment_id".length +
      "evidence_role".length + "profile_id".length + "provider_policy_id".length +
      "request_id".length + "service_instance_id".length + "source_id".length +
      "trust_root_id".length = 127 := by rfl
  simp only [ProviderStatementV1.toBody, headAnswer, weight, weightMembers,
    length_contentIdText] at *
  omega

/-- The package in which a head source signs its answer. -/
def signedHeadAnswer (profile : HeadAuthorityTrustProfileV1 E)
    (binding : HeadAuthoritySourceBindingV1) (frame : HeadRequestFrame)
    (claim : List (String × Json)) (signature : List UInt8) : SignedEvidenceV1 :=
  ⟨frame.role, binding.keyId.text, encoded (headAnswer profile binding frame claim).toBody,
    signature⟩

/-- A head source is authenticated when it signs a small valid claim under its own key that is not
revoked. -/
theorem authenticate_signedHeadAnswer {ρ κ : Type} {profile : HeadAuthorityTrustProfileV1 E}
    {validateClaim : HeadAuthoritySourceBindingV1 → List (String × Json) → Except AdapterError κ}
    (frame : HeadRequestFrame) (request : ρ) {binding : HeadAuthoritySourceBindingV1}
    {claim : List (String × Json)} {claimed : κ} {signature : List UInt8}
    {key : TrustedAdapterKeyV1}
    (hprofile : frame.profileId = profile.profileId)
    (htrustRoot : frame.trustRootId = profile.trustRootId)
    (hbound : profile.bindingFor frame.role frame.sourceId = .ok binding)
    (hunrevoked : binding.keyId.text ∉ profile.trustStore.revokedKeyIds.map KeyId.text)
    (hkey : profile.trustStore.key E binding.keyId.text = some key)
    (hverifies : E.verifies key.publicKey (frame.role.signatureDomain ++
      (encoded (headAnswer profile binding frame claim).toBody).data.toList) signature = true)
    (hclaim : Admitted E.nfc 1 (.obj claim)) (hnodes : nodes (.obj claim) ≤ 1000)
    (hweight : weight (.obj claim) ≤ 20000)
    (hclaimed : validateClaim binding claim = .ok claimed) (hsignature : signature.length = 64) :
    ∃ wire, providerEvidenceBytes E (signedHeadAnswer profile binding frame claim signature) =
        .ok wire ∧ binding.keyId.text.length < wire.size ∧
      wire.size ≤ maxProviderEvidenceBlobBytesV1 ∧
      authenticateHeadEvidenceV1 profile frame validateClaim request
        (signedHeadAnswer profile binding frame claim signature) = .ok {
          profileId := profile.profileId
          request := request
          signedEvidence := signedHeadAnswer profile binding frame claim signature
          statement := headAnswer profile binding frame claim
          sourceBinding := binding
          providerEvidence := ⟨frame.role.evidenceKind, binding.sourceId, E.sha256 wire,
            wire.data.toList⟩
          claim := claimed } := by
  have hnormal : normalForm (.obj claim) = .obj claim := by
    have hcount := normalizeJson_of_admitted hclaim "$" 0
      (by simpa using hnodes.trans (by decide))
    exact (normalizeJson_normalForm _ _ _ _ _ _ hcount).symm
  have hbody := weight_headAnswer profile binding frame claim
  obtain ⟨hstatement, hsize⟩ := canonicalDumps_weight
    (normalized_headAnswer profile binding frame hclaim hnodes) (by unfold maxWireBytes; omega)
  have hne : (encoded (headAnswer profile binding frame claim).toBody).size ≠ 0 := by
    rw [size_encoded, ProviderStatementV1.toBody, textSize_dumps_obj]
    omega
  have hsmall : (encoded (headAnswer profile binding frame claim).toBody).size ≤ 100000 := by omega
  obtain ⟨wire, hwire, hlong, hbounded⟩ :=
    providerEvidence_writes (E := E) frame.role binding.keyId hsignature hsmall
  refine ⟨wire, hwire, hlong, hbounded, ?_⟩
  exact authenticate_headAnswer request hprofile htrustRoot hbound hunrevoked hkey hverifies hnormal
    hstatement hclaimed hsignature hne (hsmall.trans (by decide))
    (headEvidenceBytes_eq_ok.mpr hwire) (by omega) hbounded

/-- A claim of the log of its source names it. -/
theorem requireLogOrigin_eq_ok {body : List (String × Json)}
    {binding : HeadAuthoritySourceBindingV1} {label : String}
    (h : body.lookup "log_origin" = some (.str binding.logOrigin)) :
    requireLogOrigin body binding label = .ok () := by
  rw [requireLogOrigin, bind_of_ok (field_eq_ok.mpr h), requireHeadIdentity,
    requireText_bind binding.identities.2.1]
  exact refuseIf_eq_ok.mpr (not_not.mpr rfl)

end Etzio
