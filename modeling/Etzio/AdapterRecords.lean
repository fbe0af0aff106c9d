import Etzio.SignedRecords

/-!
# Adapter records

The fixed roster of the time and revocation adapters, the requests that are issued under it, and
the authentication of the packages that answer them : the signature of the exact retained bytes
first, then the framing of the statement they hold, then its claim. `authenticate_eq_ok` lists what
an authenticated package passed, and `authenticate_again` reads the package back from its evidence.

A profile or a request is typed, so the snapshots the source takes of one are the value itself. A
signed package is read from its bytes every time.
-/

open CheckedRun JsonText

namespace Etzio

variable (E : AdapterEnv)

/-! ## The roster -/

/-- `AdapterSourceBindingV1`. The codec profile is the one of the role. -/
structure AdapterSourceBindingV1 where
  sourceId : String
  role : AdapterRole
  revocationNamespace : Option String
  keyId : KeyId
  principalId : String
  providerPolicyId : Digest
  identities : isAdapterIdentity sourceId = true ∧ isAdapterIdentity principalId = true
  supported : role ∈ integrityAdapterRolesV1
  inScope : if role = .trustedTime then revocationNamespace = none
    else ∃ name ∈ revocationNamespace, isAdapterIdentity name = true
  deriving DecidableEq

/-- `AdapterSourceBindingV1.to_body`. -/
def AdapterSourceBindingV1.toBody (binding : AdapterSourceBindingV1) : Json :=
  .obj [("codec_profile", .str binding.role.codecProfile), ("key_id", .str binding.keyId.text),
    ("namespace", binding.revocationNamespace.elim .null .str),
    ("principal_id", .str binding.principalId),
    ("provider_policy_id", .str (contentIdText binding.providerPolicyId)),
    ("role", .str binding.role.text), ("source_id", .str binding.sourceId)]

/-- The canonical order of a roster : role, namespace, source. -/
def AdapterSourceBindingV1.NotAfter (a b : AdapterSourceBindingV1) : Prop :=
  a.role.text < b.role.text ∨ a.role = b.role ∧
    (a.revocationNamespace.getD "" < b.revocationNamespace.getD "" ∨
      a.revocationNamespace.getD "" = b.revocationNamespace.getD "" ∧ a.sourceId ≤ b.sourceId)

instance (a b : AdapterSourceBindingV1) : Decidable (a.NotAfter b) :=
  inferInstanceAs (Decidable (_ ∨ _))

/-- `MAX_ADAPTER_SOURCES_V1`. -/
def maxAdapterSourcesV1 : ℕ := 32

/-- The sources of a role in a namespace. -/
def sourcesOf (bindings : List AdapterSourceBindingV1) (role : AdapterRole)
    (revocationNamespace : Option String) : List AdapterSourceBindingV1 :=
  bindings.filter fun binding =>
    binding.role = role ∧ binding.revocationNamespace = revocationNamespace

/-- The key of a store is the one a binding names. -/
def KeyMatches (store : AdapterTrustStoreV1) (binding : AdapterSourceBindingV1) : Prop :=
  ∃ key ∈ store.key E binding.keyId.text, key.sourceId = binding.sourceId ∧
    key.principalId = binding.principalId ∧ key.role = binding.role

instance (store : AdapterTrustStoreV1) (binding : AdapterSourceBindingV1) :
    Decidable (KeyMatches E store binding) :=
  inferInstanceAs (Decidable (∃ key ∈ store.key E binding.keyId.text, _))

/-- `IntegrityAdapterTrustProfileV1`, whose two identities are computed from its policy and its
trust store. -/
structure IntegrityAdapterTrustProfileV1 where
  serviceInstanceId : String
  environmentId : String
  validationPolicy : IntegrityValidationPolicyV1
  trustStore : AdapterTrustStoreV1
  sourceBindings : List AdapterSourceBindingV1
  maxRevocationStalenessSeconds : ℕ
  identities : isAdapterIdentity serviceInstanceId = true ∧ isAdapterIdentity environmentId = true
  bounded : sourceBindings ≠ [] ∧ sourceBindings.length ≤ maxAdapterSourcesV1
  sorted : sourceBindings.Pairwise AdapterSourceBindingV1.NotAfter
  independent : (sourceBindings.map (·.sourceId)).Nodup ∧ (sourceBindings.map (·.keyId)).Nodup ∧
    (sourceBindings.map (·.principalId)).Nodup
  exactKeys : (∀ keyId ∈ sourceBindings.map (·.keyId), keyId ∈ trustStore.keys.map (·.keyId E)) ∧
    ∀ keyId ∈ trustStore.keys.map (·.keyId E), keyId ∈ sourceBindings.map (·.keyId)
  matched : ∀ binding ∈ sourceBindings, KeyMatches E trustStore binding
  timeSources : 2 ≤ (sourceBindings.filter fun binding => binding.role = .trustedTime).length
  revocationSources : ∀ name ∈ validationPolicy.requiredRevocationNamespaces,
    (sourcesOf sourceBindings .revocationMetadata (some name)).length = 1 ∧
      2 ≤ (sourcesOf sourceBindings .revocationFloor (some name)).length
  namespaces : ∀ binding ∈ sourceBindings, binding.role ≠ .trustedTime →
    ∃ name ∈ validationPolicy.requiredRevocationNamespaces,
      binding.revocationNamespace = some name
  staleness : maxRevocationStalenessSeconds ≤ maxAdapterEpoch

/-- The constructor of a profile of the repository's own version 1. -/
def IntegrityAdapterTrustProfileV1.create (serviceInstanceId environmentId : String)
    (validationPolicy : IntegrityValidationPolicyV1) (trustStore : AdapterTrustStoreV1)
    (sourceBindings : List AdapterSourceBindingV1) (maxRevocationStalenessSeconds : ℕ) :
    Except AdapterError (IntegrityAdapterTrustProfileV1 E) := do
  let ⟨_, hservice⟩ ← requireThat (isAdapterIdentity serviceInstanceId = true)
    ⟨"invalid_adapter_identity", "service_instance_id must be a bounded ASCII identity"⟩
  let ⟨_, henvironment⟩ ← requireThat (isAdapterIdentity environmentId = true)
    ⟨"invalid_adapter_identity", "environment_id must be a bounded ASCII identity"⟩
  let ⟨_, bounded⟩ ← requireThat
    (sourceBindings ≠ [] ∧ sourceBindings.length ≤ maxAdapterSourcesV1)
    ⟨"invalid_adapter_source_roster", "adapter source roster must be a bounded exact tuple"⟩
  let ⟨_, sorted⟩ ← requireThat (sourceBindings.Pairwise AdapterSourceBindingV1.NotAfter)
    ⟨"invalid_adapter_source_roster", "adapter source roster must be canonically sorted"⟩
  let ⟨_, independent⟩ ← requireThat
    ((sourceBindings.map (·.sourceId)).Nodup ∧ (sourceBindings.map (·.keyId)).Nodup ∧
      (sourceBindings.map (·.principalId)).Nodup)
    ⟨"adapter_source_independence_confusion",
      "logical sources require distinct labels, keys, and principals"⟩
  let ⟨_, exactKeys⟩ ← requireThat
    ((∀ keyId ∈ sourceBindings.map (·.keyId), keyId ∈ trustStore.keys.map (·.keyId E)) ∧
      ∀ keyId ∈ trustStore.keys.map (·.keyId E), keyId ∈ sourceBindings.map (·.keyId))
    ⟨"adapter_trust_root_roster_mismatch",
      "adapter trust root must contain exactly the fixed source-roster keys"⟩
  let ⟨_, matched⟩ ← requireThat (∀ binding ∈ sourceBindings, KeyMatches E trustStore binding)
    ⟨"adapter_trust_root_roster_mismatch",
      "source binding differs from its exact usable trust-root key"⟩
  let ⟨_, timeSources⟩ ← requireThat
    (2 ≤ (sourceBindings.filter fun binding => binding.role = .trustedTime).length)
    ⟨"missing_trusted_time_source",
      "adapter profile requires at least two exact trusted-time sources"⟩
  let ⟨_, revocationSources⟩ ← requireThat
    (∀ name ∈ validationPolicy.requiredRevocationNamespaces,
      (sourcesOf sourceBindings .revocationMetadata (some name)).length = 1 ∧
        2 ≤ (sourcesOf sourceBindings .revocationFloor (some name)).length)
    ⟨"invalid_revocation_source_roster",
      "each namespace requires one metadata source and at least two floor witnesses"⟩
  let ⟨_, namespaces⟩ ← requireThat
    (∀ binding ∈ sourceBindings, binding.role ≠ .trustedTime →
      ∃ name ∈ validationPolicy.requiredRevocationNamespaces,
        binding.revocationNamespace = some name)
    ⟨"invalid_revocation_source_roster",
      "revocation source namespaces differ from the validation policy"⟩
  let ⟨_, staleness⟩ ← requireThat (maxRevocationStalenessSeconds ≤ maxAdapterEpoch)
    ⟨"invalid_adapter_integer",
      "max_revocation_staleness_seconds must be a nonnegative signed-int64 integer"⟩
  return {
    serviceInstanceId, environmentId, validationPolicy, trustStore, sourceBindings
    maxRevocationStalenessSeconds, bounded, sorted, independent, exactKeys, matched, timeSources
    revocationSources, namespaces, staleness
    identities := ⟨hservice, henvironment⟩ }

variable {E}

/-- `trust_store.root_id`. -/
def IntegrityAdapterTrustProfileV1.trustRootId (profile : IntegrityAdapterTrustProfileV1 E) :
    Digest :=
  E.contentId "integrity_adapter_trust_root" (profile.trustStore.toBody E)

/-- `IntegrityAdapterTrustProfileV1.to_body`. -/
def IntegrityAdapterTrustProfileV1.toBody (profile : IntegrityAdapterTrustProfileV1 E) : Json :=
  .obj [("adapter_profile", .str "repository_owned_networkless_time_revocation_v1"),
    ("contract_version", .int 1), ("environment_id", .str profile.environmentId),
    ("max_revocation_staleness_seconds", .int profile.maxRevocationStalenessSeconds),
    ("service_instance_id", .str profile.serviceInstanceId),
    ("source_bindings", .arr (profile.sourceBindings.map AdapterSourceBindingV1.toBody)),
    ("trust_root", profile.trustStore.toBody E),
    ("trust_root_id", .str (contentIdText profile.trustRootId)),
    ("validation_policy", profile.validationPolicy.toBody),
    ("validation_policy_id",
      .str (contentIdText (E.contentId "integrity_validation_policy"
        profile.validationPolicy.toBody)))]

/-- `IntegrityAdapterTrustProfileV1.profile_id`. -/
def IntegrityAdapterTrustProfileV1.profileId (profile : IntegrityAdapterTrustProfileV1 E) :
    Digest :=
  E.contentId "integrity_adapter_trust_profile" profile.toBody

/-- `IntegrityAdapterTrustProfileV1.binding_for`. -/
def IntegrityAdapterTrustProfileV1.bindingFor (profile : IntegrityAdapterTrustProfileV1 E)
    (role : AdapterRole) (sourceId : String) (revocationNamespace : Option String) :
    Except AdapterError AdapterSourceBindingV1 :=
  match (sourcesOf profile.sourceBindings role revocationNamespace).filter
      fun binding => binding.sourceId = sourceId with
  | [binding] => .ok binding
  | _ => .error ⟨"adapter_source_binding_mismatch",
      "request source does not have one exact profile binding"⟩

/-! ## Requests -/

/-- What a trusted time is for. -/
inductive TimePurpose
  | decision
  | checkpoint
  deriving DecidableEq, Repr

def TimePurpose.text : TimePurpose → String
  | .decision => "decision"
  | .checkpoint => "checkpoint"

/-- The wire text of a nonce of 256 bits. -/
def nonceText (nonce : BitVec 256) : String := String.ofList (hexdigest nonce)

/-- `TrustedTimeRequestV1`, whose identity is computed from its fields. -/
structure TrustedTimeRequestV1 where
  profileId : Digest
  trustRootId : Digest
  serviceInstanceId : String
  environmentId : String
  missionId : Digest
  authorityId : Digest
  targetId : Digest
  eventDigest : Digest
  transitionIntentId : Digest
  sourceId : String
  purpose : TimePurpose
  timePolicyId : Digest
  imprintId : Digest
  requestNonce : BitVec 256
  deriving DecidableEq

/-- `TrustedTimeRequestV1._identity_body`. -/
def TrustedTimeRequestV1.identityBody (request : TrustedTimeRequestV1) : Json :=
  .obj [("authority_id", .str (contentIdText request.authorityId)), ("contract_version", .int 1),
    ("environment_id", .str request.environmentId),
    ("event_digest", .str (contentIdText request.eventDigest)),
    ("imprint_id", .str (contentIdText request.imprintId)),
    ("mission_id", .str (contentIdText request.missionId)),
    ("profile_id", .str (contentIdText request.profileId)),
    ("purpose", .str request.purpose.text),
    ("request_nonce", .str (nonceText request.requestNonce)),
    ("service_instance_id", .str request.serviceInstanceId), ("source_id", .str request.sourceId),
    ("target_id", .str (contentIdText request.targetId)),
    ("time_policy_id", .str (contentIdText request.timePolicyId)),
    ("transition_intent_id", .str (contentIdText request.transitionIntentId)),
    ("trust_root_id", .str (contentIdText request.trustRootId))]

/-- `TrustedTimeRequestV1.request_id`. -/
def TrustedTimeRequestV1.requestId (E : AdapterEnv) (request : TrustedTimeRequestV1) : Digest :=
  E.contentId "trusted_time_adapter_request" request.identityBody

/-- The policy of a purpose. -/
def IntegrityValidationPolicyV1.timePolicyId (policy : IntegrityValidationPolicyV1) :
    TimePurpose → Digest
  | .decision => policy.decisionTimePolicyId
  | .checkpoint => policy.checkpointTimePolicyId

/-- The width a policy allows a purpose. -/
def IntegrityValidationPolicyV1.maximumWidth (policy : IntegrityValidationPolicyV1) :
    TimePurpose → ℕ
  | .decision => policy.maxDecisionUncertaintySeconds
  | .checkpoint => policy.maxCheckpointUncertaintySeconds

/-- `TrustedTimeRequestV1.issue`. -/
def TrustedTimeRequestV1.issue (profile : IntegrityAdapterTrustProfileV1 E) (sourceId : String)
    (purpose : TimePurpose) (missionId authorityId targetId eventDigest transitionIntentId
      imprintId : Digest) (requestNonce : BitVec 256) :
    Except AdapterError TrustedTimeRequestV1 := do
  let _ ← profile.bindingFor .trustedTime sourceId none
  return {
    missionId, authorityId, targetId, eventDigest, transitionIntentId, sourceId, purpose
    imprintId, requestNonce
    profileId := profile.profileId
    trustRootId := profile.trustRootId
    serviceInstanceId := profile.serviceInstanceId
    environmentId := profile.environmentId
    timePolicyId := profile.validationPolicy.timePolicyId purpose }

/-- `RevocationRequestV1`, whose identity is computed from its fields. -/
structure RevocationRequestV1 where
  profileId : Digest
  trustRootId : Digest
  serviceInstanceId : String
  environmentId : String
  missionId : Digest
  authorityId : Digest
  targetId : Digest
  eventDigest : Digest
  transitionIntentId : Digest
  sourceId : String
  evidenceRole : AdapterRole
  revocationNamespace : String
  decisionPolicyId : Digest
  timeBundleId : Digest
  timeLowerBound : ℕ
  timeUpperBound : ℕ
  timeEvidence : List EvidenceReferenceV1
  priorRootVersion : ℕ
  priorVersion : ℕ
  priorSnapshotId : Digest
  requestNonce : BitVec 256
  supported : evidenceRole ∈ [.revocationMetadata, .revocationFloor]
  interval : timeLowerBound ≤ timeUpperBound
  canonical : timeEvidence.Pairwise EvidenceReferenceV1.Before ∧ 2 ≤ timeEvidence.length ∧
    timeEvidence.length ≤ maxAdapterSourcesV1 ∧
    ∀ reference ∈ timeEvidence, reference.evidenceKind = .trustedTime
  deriving DecidableEq

/-- `RevocationRequestV1._identity_body`. -/
def RevocationRequestV1.identityBody (request : RevocationRequestV1) : Json :=
  .obj [("authority_id", .str (contentIdText request.authorityId)), ("contract_version", .int 1),
    ("decision_policy_id", .str (contentIdText request.decisionPolicyId)),
    ("environment_id", .str request.environmentId),
    ("event_digest", .str (contentIdText request.eventDigest)),
    ("evidence_role", .str request.evidenceRole.text),
    ("mission_id", .str (contentIdText request.missionId)),
    ("namespace", .str request.revocationNamespace),
    ("prior_root_version", .int request.priorRootVersion),
    ("prior_snapshot_id", .str (contentIdText request.priorSnapshotId)),
    ("prior_version", .int request.priorVersion),
    ("profile_id", .str (contentIdText request.profileId)),
    ("request_nonce", .str (nonceText request.requestNonce)),
    ("service_instance_id", .str request.serviceInstanceId), ("source_id", .str request.sourceId),
    ("target_id", .str (contentIdText request.targetId)),
    ("time_bundle_id", .str (contentIdText request.timeBundleId)),
    ("time_evidence", .arr (request.timeEvidence.map EvidenceReferenceV1.toBody)),
    ("time_lower_bound", .int request.timeLowerBound),
    ("time_upper_bound", .int request.timeUpperBound),
    ("transition_intent_id", .str (contentIdText request.transitionIntentId)),
    ("trust_root_id", .str (contentIdText request.trustRootId))]

/-- `RevocationRequestV1.request_id`. -/
def RevocationRequestV1.requestId (E : AdapterEnv) (request : RevocationRequestV1) : Digest :=
  E.contentId "revocation_adapter_request" request.identityBody

/-- What authentication reads of an adapter request. -/
structure RequestFrame where
  profileId : Digest
  trustRootId : Digest
  serviceInstanceId : String
  environmentId : String
  sourceId : String
  role : AdapterRole
  revocationNamespace : Option String
  requestId : Digest

def TrustedTimeRequestV1.frame (E : AdapterEnv) (request : TrustedTimeRequestV1) :
    RequestFrame where
  profileId := request.profileId
  trustRootId := request.trustRootId
  serviceInstanceId := request.serviceInstanceId
  environmentId := request.environmentId
  sourceId := request.sourceId
  role := .trustedTime
  revocationNamespace := none
  requestId := request.requestId E

def RevocationRequestV1.frame (E : AdapterEnv) (request : RevocationRequestV1) : RequestFrame where
  profileId := request.profileId
  trustRootId := request.trustRootId
  serviceInstanceId := request.serviceInstanceId
  environmentId := request.environmentId
  sourceId := request.sourceId
  role := request.evidenceRole
  revocationNamespace := some request.revocationNamespace
  requestId := request.requestId E

/-! ## Claims -/

/-- The claim of a trusted-time statement, less the fields that repeat its request. -/
structure TrustedTimeClaim where
  timeLowerBound : ℕ
  timeUpperBound : ℕ
  interval : timeLowerBound ≤ timeUpperBound
  deriving DecidableEq, Repr

/-- The claim of a revocation statement, less the fields that repeat its request. -/
structure RevocationClaim where
  rootVersion : ℕ
  version : ℕ
  snapshotId : Digest
  publishedAt : ℕ
  validFrom : ℕ
  validUntil : ℕ
  window : validFrom < validUntil ∧ publishedAt < validUntil
  deriving DecidableEq, Repr

/-- The fields of a claim that repeat the request it answers. -/
def requireRepeated (body : List (String × Json)) (expected : List (String × String))
    (label : String) : Except AdapterError Unit :=
  expected.forM fun (name, text) => do
    let value ← field body name
    refuseIf (str? value ≠ some text)
      ⟨"provider_" ++ name ++ "_mismatch", label ++ " provider claim differs at " ++ name⟩

/-- `_TIME_CLAIM_FIELDS`. -/
def timeClaimFields : List String :=
  ["accuracy_authenticated", "authority_id", "event_digest", "imprint_id", "mission_id",
    "purpose", "target_id", "time_lower_bound", "time_policy_id", "time_upper_bound",
    "transition_intent_id"]

/-- `_validate_time_claim`. The accuracy is compared to `True`, which 1 equals, before its type
is checked. -/
def validateTimeClaim (request : TrustedTimeRequestV1) (claim : List (String × Json)) :
    Except AdapterError TrustedTimeClaim := do
  let body ← requireExactDict (.obj claim) timeClaimFields "trusted_time_claim"
  let accuracy ← field body "accuracy_authenticated"
  refuseIf (¬(isJsonTrue accuracy = true ∨ int? accuracy = some 1))
    ⟨"provider_accuracy_authenticated_mismatch",
      "trusted-time provider claim differs at accuracy_authenticated"⟩
  requireRepeated body
    [("authority_id", contentIdText request.authorityId),
      ("event_digest", contentIdText request.eventDigest),
      ("imprint_id", contentIdText request.imprintId),
      ("mission_id", contentIdText request.missionId), ("purpose", request.purpose.text),
      ("target_id", contentIdText request.targetId),
      ("time_policy_id", contentIdText request.timePolicyId),
      ("transition_intent_id", contentIdText request.transitionIntentId)] "trusted-time"
  refuseIf (isJsonTrue accuracy = false)
    ⟨"provider_accuracy_unauthenticated", "trusted-time accuracy must be an authenticated boolean"⟩
  let lower ← field body "time_lower_bound"
  let timeLowerBound ← requireAdapterEpoch lower "time_lower_bound"
  let upper ← field body "time_upper_bound"
  let timeUpperBound ← requireAdapterEpoch upper "time_upper_bound"
  let ⟨_, interval⟩ ← requireThat (timeLowerBound ≤ timeUpperBound)
    ⟨"trusted_time_interval_reversed", "trusted-time provider interval is reversed"⟩
  return { timeLowerBound, timeUpperBound, interval }

/-- `_REVOCATION_CLAIM_FIELDS`. -/
def revocationClaimFields : List String :=
  ["authority_id", "decision_policy_id", "event_digest", "mission_id", "namespace",
    "published_at", "root_version", "snapshot_id", "target_id", "time_bundle_id",
    "transition_intent_id", "valid_from", "valid_until", "version"]

/-- `_validate_revocation_claim`. -/
def validateRevocationClaim (request : RevocationRequestV1) (claim : List (String × Json)) :
    Except AdapterError RevocationClaim := do
  let body ← requireExactDict (.obj claim) revocationClaimFields "revocation_claim"
  requireRepeated body
    [("authority_id", contentIdText request.authorityId),
      ("decision_policy_id", contentIdText request.decisionPolicyId),
      ("event_digest", contentIdText request.eventDigest),
      ("mission_id", contentIdText request.missionId),
      ("namespace", request.revocationNamespace), ("target_id", contentIdText request.targetId),
      ("time_bundle_id", contentIdText request.timeBundleId),
      ("transition_intent_id", contentIdText request.transitionIntentId)] "revocation"
  let rootVersion ← field body "root_version"
  let rootVersion ← requireAdapterPositive rootVersion "root_version"
  let version ← field body "version"
  let version ← requireAdapterPositive version "version"
  let snapshotId ← field body "snapshot_id"
  let snapshotId ← requireAdapterDigest snapshotId "snapshot_id"
  let publishedAt ← field body "published_at"
  let publishedAt ← requireAdapterEpoch publishedAt "published_at"
  let validFrom ← field body "valid_from"
  let validFrom ← requireAdapterEpoch validFrom "valid_from"
  let validUntil ← field body "valid_until"
  let validUntil ← requireAdapterEpoch validUntil "valid_until"
  let ⟨_, window⟩ ← requireThat (validFrom < validUntil ∧ publishedAt < validUntil)
    ⟨"invalid_revocation_window", "revocation claim validity window is empty or inconsistent"⟩
  return {
    rootVersion, version, publishedAt, validFrom, validUntil, window
    snapshotId := digestOf snapshotId }

/-! ## Authentication -/

/-- `AuthenticatedProviderEvidencePackageV1` of a request and a claim. -/
structure AuthenticatedProviderEvidencePackageV1 (ρ κ : Type) where
  profileId : Digest
  request : ρ
  signedEvidence : SignedEvidenceV1
  statement : ProviderStatementV1
  sourceBinding : AdapterSourceBindingV1
  providerEvidence : ProviderEvidenceBlobV1
  claim : κ

/-- A comparison of a statement to what its request demands : what it says, what is demanded, the
reason of a refusal and the field. -/
structure FramingCheck where
  stated : String
  demanded : String
  reason : String
  name : String

/-- The comparisons of a statement, in the order of the source. The version is the one of the
statement's own type. -/
def framingChecks (profile : IntegrityAdapterTrustProfileV1 E) (binding : AdapterSourceBindingV1)
    (frame : RequestFrame) (statement : ProviderStatementV1) : List FramingCheck :=
  [⟨statement.environmentId, profile.environmentId, "provider_scope_mismatch", "environment_id"⟩,
    ⟨statement.evidenceRole.text, frame.role.text, "provider_role_mismatch", "evidence_role"⟩,
    ⟨statement.profileId, contentIdText profile.profileId, "provider_profile_mismatch",
      "profile_id"⟩,
    ⟨statement.providerPolicyId, contentIdText binding.providerPolicyId,
      "provider_policy_mismatch", "provider_policy_id"⟩,
    ⟨statement.requestId, contentIdText frame.requestId, "provider_request_mismatch",
      "request_id"⟩,
    ⟨statement.serviceInstanceId, profile.serviceInstanceId, "provider_scope_mismatch",
      "service_instance_id"⟩,
    ⟨statement.sourceId, binding.sourceId, "provider_source_mismatch", "source_id"⟩,
    ⟨statement.trustRootId, contentIdText profile.trustRootId, "provider_root_mismatch",
      "trust_root_id"⟩]

/-- `authenticate_provider_evidence_v1`, for a request with a frame and a check of its claim. -/
def authenticateProviderEvidenceV1 {ρ κ : Type} (profile : IntegrityAdapterTrustProfileV1 E)
    (frame : RequestFrame) (validateClaim : List (String × Json) → Except AdapterError κ)
    (request : ρ) (signedEvidence : SignedEvidenceV1) :
    Except AdapterError (AuthenticatedProviderEvidencePackageV1 ρ κ) := do
  refuseIf (frame.profileId ≠ profile.profileId ∨ frame.trustRootId ≠ profile.trustRootId ∨
      frame.serviceInstanceId ≠ profile.serviceInstanceId ∨
      frame.environmentId ≠ profile.environmentId)
    ⟨"provider_profile_mismatch", "adapter request differs from the complete trust profile"⟩
  let binding ← profile.bindingFor frame.role frame.sourceId frame.revocationNamespace
  let wire ← providerEvidenceBytes E signedEvidence
  let signed ← providerEvidenceOf E wire
  refuseIf (signed.evidenceRole ≠ frame.role)
    ⟨"provider_role_mismatch", "provider package role differs from the request-bound role"⟩
  refuseIf (signed.keyId ≠ binding.keyId.text)
    ⟨"unknown_adapter_key", "provider package does not use the source-bound trust anchor"⟩
  refuseIf (signed.keyId ∈ profile.trustStore.revokedKeyIds.map KeyId.text)
    ⟨"revoked_adapter_key", "provider package key is revoked"⟩
  let trustedKey ← orRefuse (profile.trustStore.key E signed.keyId)
    ⟨"unknown_adapter_key", "provider package key is not trusted"⟩
  refuseIf (E.verifies trustedKey.publicKey
      (frame.role.signatureDomain ++ signed.statementBytes.data.toList) signed.signatureBytes =
        false)
    ⟨"provider_signature_invalid",
      "provider package signature is invalid for the exact retained bytes"⟩
  let statement ← providerStatementOf E signed.statementBytes
  (framingChecks profile binding frame statement).forM fun check =>
    refuseIf (check.stated ≠ check.demanded)
      ⟨check.reason, "provider statement differs at " ++ check.name⟩
  let claim ← validateClaim statement.claim
  let content ← providerEvidenceBytes E signed
  let providerEvidence ←
    ProviderEvidenceBlobV1.fromContent E frame.role.evidenceKind binding.sourceId content
  return {
    request, statement, claim, providerEvidence
    profileId := profile.profileId
    signedEvidence := signed
    sourceBinding := binding }

/-- An authenticated answer to a trusted-time request. -/
abbrev TimePackage : Type :=
  AuthenticatedProviderEvidencePackageV1 TrustedTimeRequestV1 TrustedTimeClaim

/-- An authenticated answer to a revocation request. -/
abbrev RevocationPackage : Type :=
  AuthenticatedProviderEvidencePackageV1 RevocationRequestV1 RevocationClaim

def authenticateTimeEvidence (profile : IntegrityAdapterTrustProfileV1 E)
    (request : TrustedTimeRequestV1) (signedEvidence : SignedEvidenceV1) :
    Except AdapterError TimePackage :=
  authenticateProviderEvidenceV1 profile (request.frame E) (validateTimeClaim request) request
    signedEvidence

def authenticateRevocationEvidence (profile : IntegrityAdapterTrustProfileV1 E)
    (request : RevocationRequestV1) (signedEvidence : SignedEvidenceV1) :
    Except AdapterError RevocationPackage :=
  authenticateProviderEvidenceV1 profile (request.frame E) (validateRevocationClaim request)
    request signedEvidence

/-! ## What authentication checks -/

/-- The binding of a request is the one of its role, source and namespace. -/
theorem bindingFor_eq_ok {profile : IntegrityAdapterTrustProfileV1 E} {role : AdapterRole}
    {sourceId : String} {revocationNamespace : Option String} {binding : AdapterSourceBindingV1} :
    profile.bindingFor role sourceId revocationNamespace = .ok binding ↔
      binding ∈ profile.sourceBindings ∧ binding.role = role ∧ binding.sourceId = sourceId ∧
        binding.revocationNamespace = revocationNamespace := by
  have hmem : ∀ b, b ∈ ((sourcesOf profile.sourceBindings role revocationNamespace).filter
      fun binding => binding.sourceId = sourceId) ↔ b ∈ profile.sourceBindings ∧ b.role = role ∧
        b.sourceId = sourceId ∧ b.revocationNamespace = revocationNamespace := by
    intro b
    simp only [sourcesOf, List.mem_filter, decide_eq_true_eq]
    tauto
  have hnodup : ((sourcesOf profile.sourceBindings role revocationNamespace).filter
      fun binding => binding.sourceId = sourceId).Nodup :=
    ((List.Nodup.of_map _ profile.independent.1).filter _).filter _
  rw [← hmem, IntegrityAdapterTrustProfileV1.bindingFor]
  constructor
  · intro h
    split at h
    · next b hb =>
      obtain rfl := Except.ok.inj h
      rw [hb]
      exact List.mem_singleton_self _
    · exact absurd h (by simp)
  · intro hb
    -- Every binding of the source is the same one, and none occurs twice.
    have hall : ∀ b ∈ ((sourcesOf profile.sourceBindings role revocationNamespace).filter
        fun binding => binding.sourceId = sourceId), b = binding := fun b hb' =>
      List.inj_on_of_nodup_map profile.independent.1 ((hmem b).mp hb').1 ((hmem binding).mp hb).1
        (((hmem b).mp hb').2.2.1.trans ((hmem binding).mp hb).2.2.1.symm)
    obtain ⟨k, hk⟩ : ∃ k, ((sourcesOf profile.sourceBindings role revocationNamespace).filter
        fun binding => binding.sourceId = sourceId) = List.replicate k binding :=
      ⟨_, List.eq_replicate_of_mem hall⟩
    rw [hk, List.nodup_replicate] at hnodup
    rw [hk, List.mem_replicate] at hb
    rw [hk, show k = 1 by omega]
    rfl

/-- What a signed package and its request passed when they were authenticated. -/
structure Authenticates {κ : Type} (profile : IntegrityAdapterTrustProfileV1 E)
    (frame : RequestFrame) (validateClaim : List (String × Json) → Except AdapterError κ)
    (binding : AdapterSourceBindingV1) (signed : SignedEvidenceV1)
    (statement : ProviderStatementV1) (claim : κ) : Prop where
  profileId : frame.profileId = profile.profileId
  trustRootId : frame.trustRootId = profile.trustRootId
  serviceInstanceId : frame.serviceInstanceId = profile.serviceInstanceId
  environmentId : frame.environmentId = profile.environmentId
  bound : profile.bindingFor frame.role frame.sourceId frame.revocationNamespace = .ok binding
  role : signed.evidenceRole = frame.role
  keyId : signed.keyId = binding.keyId.text
  unrevoked : signed.keyId ∉ profile.trustStore.revokedKeyIds.map KeyId.text
  signature : ∃ key, profile.trustStore.key E signed.keyId = some key ∧
    E.verifies key.publicKey (frame.role.signatureDomain ++ signed.statementBytes.data.toList)
      signed.signatureBytes = true
  stated : providerStatementOf E signed.statementBytes = .ok statement
  framing : ∀ check ∈ framingChecks profile binding frame statement,
    check.stated = check.demanded
  claimed : validateClaim statement.claim = .ok claim

/-- An authenticated package is a signed package that is read from its own bytes, with what it
passed and the evidence that holds those bytes. -/
theorem authenticate_eq_ok {ρ κ : Type} {profile : IntegrityAdapterTrustProfileV1 E}
    {frame : RequestFrame} {validateClaim : List (String × Json) → Except AdapterError κ}
    {request : ρ} {signedEvidence : SignedEvidenceV1}
    {package : AuthenticatedProviderEvidencePackageV1 ρ κ} :
    authenticateProviderEvidenceV1 profile frame validateClaim request signedEvidence =
        .ok package ↔
      ∃ wire content, providerEvidenceBytes E signedEvidence = .ok wire ∧
        providerEvidenceOf E wire = .ok package.signedEvidence ∧
        Authenticates profile frame validateClaim package.sourceBinding package.signedEvidence
          package.statement package.claim ∧
        providerEvidenceBytes E package.signedEvidence = .ok content ∧
        ProviderEvidenceBlobV1.fromContent E frame.role.evidenceKind package.sourceBinding.sourceId
          content = .ok package.providerEvidence ∧
        package.request = request ∧ package.profileId = profile.profileId := by
  constructor
  · intro h
    obtain ⟨hframe, hrest⟩ := unit_bind_eq_ok.mp h
    obtain ⟨binding, hbinding, hrest⟩ := bind_eq_ok.mp hrest
    obtain ⟨wire, hwire, hrest⟩ := bind_eq_ok.mp hrest
    obtain ⟨signed, hsigned, hrest⟩ := bind_eq_ok.mp hrest
    obtain ⟨hrole, hrest⟩ := unit_bind_eq_ok.mp hrest
    obtain ⟨hkeyId, hrest⟩ := unit_bind_eq_ok.mp hrest
    obtain ⟨hrevoked, hrest⟩ := unit_bind_eq_ok.mp hrest
    obtain ⟨key, hkey, hrest⟩ := orRefuse_bind_eq_ok.mp hrest
    obtain ⟨hverifies, hrest⟩ := unit_bind_eq_ok.mp hrest
    obtain ⟨statement, hstatement, hrest⟩ := bind_eq_ok.mp hrest
    obtain ⟨hframing, hrest⟩ := unit_bind_eq_ok.mp hrest
    obtain ⟨claim, hclaim, hrest⟩ := bind_eq_ok.mp hrest
    obtain ⟨content, hcontent, hrest⟩ := bind_eq_ok.mp hrest
    obtain ⟨evidence, hevidence, hreturn⟩ := bind_eq_ok.mp hrest
    obtain rfl := Except.ok.inj hreturn
    simp only [refuseIf_eq_ok, not_or, not_not] at hframe hrole hkeyId hrevoked
    simp only [refuseIf_eq_ok, Bool.not_eq_false] at hverifies
    rw [forM_eq_ok] at hframing
    exact ⟨wire, content, hwire, hsigned,
      { profileId := hframe.1
        trustRootId := hframe.2.1
        serviceInstanceId := hframe.2.2.1
        environmentId := hframe.2.2.2
        bound := hbinding
        role := hrole
        keyId := hkeyId
        unrevoked := hrevoked
        signature := ⟨key, hkey, hverifies⟩
        stated := hstatement
        framing := fun check hcheck => not_not.mp (refuseIf_eq_ok.mp (hframing check hcheck))
        claimed := hclaim }, hcontent, hevidence, rfl, rfl⟩
  · rintro ⟨wire, content, hwire, hsigned, hpassed, hcontent, hevidence, hrequest, hprofile⟩
    obtain ⟨key, hkey, hverifies⟩ := hpassed.signature
    have hframe := not_or.mpr ⟨not_not.mpr hpassed.profileId, not_or.mpr
      ⟨not_not.mpr hpassed.trustRootId, not_or.mpr
        ⟨not_not.mpr hpassed.serviceInstanceId, not_not.mpr hpassed.environmentId⟩⟩⟩
    have hframing : (framingChecks profile package.sourceBinding frame package.statement).forM
        (fun check => refuseIf (check.stated ≠ check.demanded)
          (⟨check.reason, "provider statement differs at " ++ check.name⟩ : AdapterError)) =
            .ok () :=
      forM_eq_ok.mpr fun check hcheck => refuseIf_eq_ok.mpr
        (not_not.mpr (hpassed.framing check hcheck))
    unfold authenticateProviderEvidenceV1
    rw [refuseIf_bind_of_not hframe, bind_of_ok hpassed.bound, bind_of_ok hwire,
      bind_of_ok hsigned, refuseIf_bind_of_not (not_not.mpr hpassed.role),
      refuseIf_bind_of_not (not_not.mpr hpassed.keyId), refuseIf_bind_of_not hpassed.unrevoked,
      bind_of_ok (orRefuse_eq_ok.mpr hkey), refuseIf_bind_of_not (by simp [hverifies]),
      bind_of_ok hpassed.stated, bind_of_ok hframing, bind_of_ok hpassed.claimed,
      bind_of_ok hcontent, bind_of_ok hevidence, ← hrequest, ← hprofile]
    rfl

/-- An authenticated package is authenticated again from its own signed evidence, to itself. -/
theorem authenticate_again {ρ κ : Type} {profile : IntegrityAdapterTrustProfileV1 E}
    {frame : RequestFrame} {validateClaim : List (String × Json) → Except AdapterError κ}
    {request : ρ} {signedEvidence : SignedEvidenceV1}
    {package : AuthenticatedProviderEvidencePackageV1 ρ κ}
    (h : authenticateProviderEvidenceV1 profile frame validateClaim request signedEvidence =
      .ok package) :
    authenticateProviderEvidenceV1 profile frame validateClaim request package.signedEvidence =
      .ok package := by
  obtain ⟨wire, content, -, hsigned, hpassed, hcontent, hevidence, hrequest, hprofile⟩ :=
    authenticate_eq_ok.mp h
  obtain rfl := Except.ok.inj ((providerEvidence_bytes hsigned).symm.trans hcontent)
  exact authenticate_eq_ok.mpr ⟨wire, wire, hcontent, hsigned, hpassed, hcontent, hevidence,
    hrequest, hprofile⟩

/-! ## Answers -/

/-- The statement of a source that answers a request with a claim. -/
def answer (profile : IntegrityAdapterTrustProfileV1 E) (binding : AdapterSourceBindingV1)
    (frame : RequestFrame) (claim : List (String × Json)) : ProviderStatementV1 where
  profileId := contentIdText profile.profileId
  trustRootId := contentIdText profile.trustRootId
  serviceInstanceId := profile.serviceInstanceId
  environmentId := profile.environmentId
  sourceId := binding.sourceId
  evidenceRole := frame.role
  providerPolicyId := contentIdText binding.providerPolicyId
  requestId := contentIdText frame.requestId
  claim := claim

/-- A source is authenticated when it signs, under its own key that is not revoked, an answer that
holds a valid claim to a request under the profile. -/
theorem authenticate_answer {ρ κ : Type} {profile : IntegrityAdapterTrustProfileV1 E}
    {frame : RequestFrame} {validateClaim : List (String × Json) → Except AdapterError κ}
    (request : ρ) {binding : AdapterSourceBindingV1} {claim : List (String × Json)} {claimed : κ}
    {statementBytes wire : ByteArray} {signature : List UInt8} {key : TrustedAdapterKeyV1}
    (hframe : frame.profileId = profile.profileId ∧ frame.trustRootId = profile.trustRootId ∧
      frame.serviceInstanceId = profile.serviceInstanceId ∧
      frame.environmentId = profile.environmentId)
    (hbound : profile.bindingFor frame.role frame.sourceId frame.revocationNamespace = .ok binding)
    (hunrevoked : binding.keyId.text ∉ profile.trustStore.revokedKeyIds.map KeyId.text)
    (hkey : profile.trustStore.key E binding.keyId.text = some key)
    (hverifies : E.verifies key.publicKey
      (frame.role.signatureDomain ++ statementBytes.data.toList) signature = true)
    (hnormal : normalForm (.obj claim) = .obj claim)
    (hstatement : canonicalDumps E.nfc (answer profile binding frame claim).toBody =
      .ok statementBytes)
    (hclaimed : validateClaim claim = .ok claimed)
    (hsignature : signature.length = 64) (hne : statementBytes.size ≠ 0)
    (hsize : statementBytes.size ≤ maxPackageBytes)
    (hwire : providerEvidenceBytes E ⟨frame.role, binding.keyId.text, statementBytes, signature⟩ =
      .ok wire)
    (hwireNe : wire.size ≠ 0) (hwireSize : wire.size ≤ maxProviderEvidenceBlobBytesV1) :
    authenticateProviderEvidenceV1 profile frame validateClaim request
        ⟨frame.role, binding.keyId.text, statementBytes, signature⟩ = .ok {
      profileId := profile.profileId
      request := request
      signedEvidence := ⟨frame.role, binding.keyId.text, statementBytes, signature⟩
      statement := answer profile binding frame claim
      sourceBinding := binding
      providerEvidence := ⟨frame.role.evidenceKind, binding.sourceId, E.sha256 wire,
        wire.data.toList⟩
      claim := claimed } := by
  obtain ⟨hmem, hrole, -, -⟩ := bindingFor_eq_ok.mp hbound
  have hsupported : frame.role ∈ integrityAdapterRolesV1 := hrole ▸ binding.supported
  have hread := providerEvidence_read hwire hsupported (isKeyId_text binding.keyId) hsignature hne
    hsize
  have hstated := providerStatement_read hstatement hnormal
    { profileId := isContentId_contentIdText _
      trustRootId := isContentId_contentIdText _
      providerPolicyId := isContentId_contentIdText _
      requestId := isContentId_contentIdText _
      serviceInstanceId := profile.identities.1
      environmentId := profile.identities.2
      sourceId := binding.identities.1
      evidenceRole := hsupported }
  have hcontent : ProviderEvidenceBlobV1.fromContent E frame.role.evidenceKind binding.sourceId
      wire = .ok ⟨frame.role.evidenceKind, binding.sourceId, E.sha256 wire, wire.data.toList⟩ := by
    rw [ProviderEvidenceBlobV1.fromContent, refuseIf_bind_of_not (by omega)]
    rfl
  refine authenticate_eq_ok.mpr ⟨wire, wire, hwire, hread, ?_, hwire, hcontent, rfl, rfl⟩
  exact {
    profileId := hframe.1
    trustRootId := hframe.2.1
    serviceInstanceId := hframe.2.2.1
    environmentId := hframe.2.2.2
    bound := hbound
    role := rfl
    keyId := rfl
    unrevoked := hunrevoked
    signature := ⟨key, hkey, hverifies⟩
    stated := hstated
    framing := by simp [framingChecks, answer]
    claimed := hclaimed }

/-- An answer is normalized when its claim is admitted. -/
theorem normalized_answer (profile : IntegrityAdapterTrustProfileV1 E)
    (binding : AdapterSourceBindingV1) (frame : RequestFrame) {claim : List (String × Json)}
    (hclaim : Admitted E.nfc 1 (.obj claim)) (hnodes : nodes (.obj claim) ≤ 1000) :
    normalized E.nfc (answer profile binding frame claim).toBody =
      .ok (answer profile binding frame claim).toBody := by
  have hrole : isAscii frame.role.text = true ∧ frame.role.text.length ≤ maxStringCodepoints := by
    cases frame.role <;> decide
  refine normalized_of_admitted (admitted_record (by decide +kernel : PlainFields statementFields)
    rfl (by decide) ?_) ?_
  · simp only [List.forall_mem_cons, List.not_mem_nil, false_imp_iff, implies_true, and_true]
    refine ⟨hclaim, .int (by decide) (by decide) (by decide),
      admitted_identity (by decide) profile.identities.2,
      .str (by decide) (validString_of_ascii hrole.1 hrole.2),
      admitted_contentIdText (by decide) _, admitted_contentIdText (by decide) _,
      admitted_contentIdText (by decide) _, admitted_identity (by decide) profile.identities.1,
      admitted_identity (by decide) binding.identities.1, admitted_contentIdText (by decide) _⟩
  · have hceiling : 1010 ≤ maxTotalNodes := by decide
    simp only [ProviderStatementV1.toBody, answer, nodes, nodesMembers] at hnodes ⊢
    omega

theorem weight_answer (profile : IntegrityAdapterTrustProfileV1 E)
    (binding : AdapterSourceBindingV1) (frame : RequestFrame) (claim : List (String × Json)) :
    weight (answer profile binding frame claim).toBody ≤ 6000 + weight (.obj claim) := by
  have hservice := (isAdapterIdentity_ascii profile.identities.1).2
  have henvironment := (isAdapterIdentity_ascii profile.identities.2).2
  have hsource := (isAdapterIdentity_ascii binding.identities.1).2
  have hrole : frame.role.text.length ≤ 20 := by
    cases frame.role <;> decide
  have hversion : weight (.int 1) = 1 := by decide
  have hkeys : "claim".length + "contract_version".length + "environment_id".length +
      "evidence_role".length + "profile_id".length + "provider_policy_id".length +
      "request_id".length + "service_instance_id".length + "source_id".length +
      "trust_root_id".length = 127 := by rfl
  simp only [ProviderStatementV1.toBody, answer, weight, weightMembers, length_contentIdText] at *
  omega

/-! ### Claims -/

/-- The claim of a trusted-time source. -/
def TrustedTimeClaim.toBody (request : TrustedTimeRequestV1) (claim : TrustedTimeClaim) :
    List (String × Json) :=
  [("accuracy_authenticated", .bool true),
    ("authority_id", .str (contentIdText request.authorityId)),
    ("event_digest", .str (contentIdText request.eventDigest)),
    ("imprint_id", .str (contentIdText request.imprintId)),
    ("mission_id", .str (contentIdText request.missionId)), ("purpose", .str request.purpose.text),
    ("target_id", .str (contentIdText request.targetId)),
    ("time_lower_bound", .int claim.timeLowerBound),
    ("time_policy_id", .str (contentIdText request.timePolicyId)),
    ("time_upper_bound", .int claim.timeUpperBound),
    ("transition_intent_id", .str (contentIdText request.transitionIntentId))]

/-- The claim of a revocation source. -/
def RevocationClaim.toBody (request : RevocationRequestV1) (claim : RevocationClaim) :
    List (String × Json) :=
  [("authority_id", .str (contentIdText request.authorityId)),
    ("decision_policy_id", .str (contentIdText request.decisionPolicyId)),
    ("event_digest", .str (contentIdText request.eventDigest)),
    ("mission_id", .str (contentIdText request.missionId)),
    ("namespace", .str request.revocationNamespace), ("published_at", .int claim.publishedAt),
    ("root_version", .int claim.rootVersion),
    ("snapshot_id", .str (contentIdText claim.snapshotId)),
    ("target_id", .str (contentIdText request.targetId)),
    ("time_bundle_id", .str (contentIdText request.timeBundleId)),
    ("transition_intent_id", .str (contentIdText request.transitionIntentId)),
    ("valid_from", .int claim.validFrom), ("valid_until", .int claim.validUntil),
    ("version", .int claim.version)]

theorem requireRepeated_eq_ok {body : List (String × Json)} {expected : List (String × String)}
    {label : String} : requireRepeated body expected label = .ok () ↔
      ∀ m ∈ expected, body.lookup m.1 = some (.str m.2) := by
  rw [requireRepeated, forM_eq_ok]
  refine forall₂_congr fun m _ => ?_
  rw [bind_eq_ok]
  simp only [field_eq_ok, refuseIf_eq_ok, not_not, str?_eq_some]
  exact ⟨fun ⟨value, hvalue, h⟩ => h ▸ hvalue, fun h => ⟨_, h, rfl⟩⟩

/-- The claim of a trusted-time source is read as it was made. -/
theorem validateTimeClaim_toBody (request : TrustedTimeRequestV1) {claim : TrustedTimeClaim}
    (h : claim.timeUpperBound ≤ maxAdapterEpoch) :
    validateTimeClaim request (claim.toBody request) = .ok claim := by
  have hfields : (claim.toBody request).map Prod.fst = timeClaimFields := by rfl
  have hrepeated : ∀ expected, expected ⊆ [("authority_id", contentIdText request.authorityId),
      ("event_digest", contentIdText request.eventDigest),
      ("imprint_id", contentIdText request.imprintId),
      ("mission_id", contentIdText request.missionId), ("purpose", request.purpose.text),
      ("target_id", contentIdText request.targetId),
      ("time_policy_id", contentIdText request.timePolicyId),
      ("transition_intent_id", contentIdText request.transitionIntentId)] →
      requireRepeated (claim.toBody request) expected "trusted-time" = .ok () := by
    intro expected hexpected
    refine requireRepeated_eq_ok.mpr fun m hm => ?_
    have hmem := hexpected hm
    simp only [List.mem_cons, List.not_mem_nil, or_false] at hmem
    rcases hmem with rfl | rfl | rfl | rfl | rfl | rfl | rfl | rfl <;>
      simp [TrustedTimeClaim.toBody, List.lookup]
  rw [validateTimeClaim, requireExactDict_bind hfields, bind_of_ok (field_eq_ok.mpr rfl),
    refuseIf_bind_of_not (by simp [isJsonTrue]), bind_of_ok (hrepeated _ fun _ h => h),
    refuseIf_bind_of_not (by simp [isJsonTrue])]
  simp only [TrustedTimeClaim.toBody, field, List.lookup, String.reduceBEq, orRefuse_some_bind]
  rw [requireAdapterEpoch_bind (claim.interval.trans h), requireAdapterEpoch_bind h,
    requireThat_bind claim.interval]
  rfl

/-- The claim of a revocation source is read as it was made. -/
theorem validateRevocationClaim_toBody (request : RevocationRequestV1) {claim : RevocationClaim}
    (hroot : 0 < claim.rootVersion ∧ claim.rootVersion ≤ maxAdapterEpoch)
    (hversion : 0 < claim.version ∧ claim.version ≤ maxAdapterEpoch)
    (h : claim.validUntil ≤ maxAdapterEpoch) :
    validateRevocationClaim request (claim.toBody request) = .ok claim := by
  have hfields : (claim.toBody request).map Prod.fst = revocationClaimFields := by rfl
  have hrepeated : ∀ expected, expected ⊆ [("authority_id", contentIdText request.authorityId),
      ("decision_policy_id", contentIdText request.decisionPolicyId),
      ("event_digest", contentIdText request.eventDigest),
      ("mission_id", contentIdText request.missionId),
      ("namespace", request.revocationNamespace), ("target_id", contentIdText request.targetId),
      ("time_bundle_id", contentIdText request.timeBundleId),
      ("transition_intent_id", contentIdText request.transitionIntentId)] →
      requireRepeated (claim.toBody request) expected "revocation" = .ok () := by
    intro expected hexpected
    refine requireRepeated_eq_ok.mpr fun m hm => ?_
    have hmem := hexpected hm
    simp only [List.mem_cons, List.not_mem_nil, or_false] at hmem
    rcases hmem with rfl | rfl | rfl | rfl | rfl | rfl | rfl | rfl <;>
      simp [RevocationClaim.toBody, List.lookup]
  rw [validateRevocationClaim, requireExactDict_bind hfields,
    bind_of_ok (hrepeated _ fun _ h => h)]
  simp only [RevocationClaim.toBody, field, List.lookup, String.reduceBEq, orRefuse_some_bind]
  rw [requireAdapterPositive_bind hroot.1 hroot.2,
    requireAdapterPositive_bind hversion.1 hversion.2, requireAdapterDigest,
    requireText_bind (isContentId_contentIdText _),
    requireAdapterEpoch_bind (claim.window.2.le.trans h),
    requireAdapterEpoch_bind (claim.window.1.le.trans h), requireAdapterEpoch_bind h,
    requireThat_bind claim.window, digestOf_contentIdText]
  rfl

/-- The claim of a trusted-time source is a small record. -/
theorem TrustedTimeClaim.toBody_small {nfc : String → Bool} (request : TrustedTimeRequestV1)
    {claim : TrustedTimeClaim} (h : claim.timeUpperBound ≤ maxAdapterEpoch) :
    Admitted nfc 1 (.obj (claim.toBody request)) ∧ nodes (.obj (claim.toBody request)) ≤ 1000 ∧
      weight (.obj (claim.toBody request)) ≤ 20000 := by
  have hpurpose : isAscii request.purpose.text = true ∧ request.purpose.text.length ≤ 10 := by
    cases request.purpose <;> decide
  refine ⟨admitted_record (by decide +kernel : PlainFields timeClaimFields) rfl (by decide) ?_,
    ?_, ?_⟩
  · simp only [TrustedTimeClaim.toBody, List.forall_mem_cons, List.not_mem_nil, false_imp_iff,
      implies_true, and_true]
    refine ⟨.bool (by decide) true, admitted_contentIdText (by decide) _,
      admitted_contentIdText (by decide) _, admitted_contentIdText (by decide) _,
      admitted_contentIdText (by decide) _,
      .str (by decide) (validString_of_ascii hpurpose.1 (hpurpose.2.trans (by decide))),
      admitted_contentIdText (by decide) _,
      admitted_epoch (by decide) (claim.interval.trans h), admitted_contentIdText (by decide) _,
      admitted_epoch (by decide) h, admitted_contentIdText (by decide) _⟩
  · simp only [TrustedTimeClaim.toBody, nodes, nodesMembers]
    decide
  · have hkeys : ∀ key ∈ (claim.toBody request).map Prod.fst, key.length ≤ 40 :=
      (by decide : ∀ key ∈ timeClaimFields, key.length ≤ 40)
    have hcount : (claim.toBody request).length * (6 * 40 + 800 + 4) + 2 ≤ 20000 :=
      (by decide : timeClaimFields.length * (6 * 40 + 800 + 4) + 2 ≤ 20000)
    refine (weight_record hkeys ?_).trans hcount
    have hid : ∀ d : Digest, weight (.str (contentIdText d)) ≤ 800 := fun d => by
      rw [weight, length_contentIdText]
      decide
    have hpurposeWeight : weight (.str request.purpose.text) ≤ 800 := by
      rw [weight]
      omega
    simp only [TrustedTimeClaim.toBody, List.forall_mem_cons, List.not_mem_nil, false_imp_iff,
      implies_true, and_true]
    exact ⟨by decide, hid _, hid _, hid _, hid _, hpurposeWeight, hid _,
      (weight_epoch (claim.interval.trans h)).trans (by decide), hid _,
      (weight_epoch h).trans (by decide), hid _⟩

/-- The claim of a revocation source is a small record. -/
theorem RevocationClaim.toBody_small {nfc : String → Bool} {request : RevocationRequestV1}
    {claim : RevocationClaim} (hnamespace : isAdapterIdentity request.revocationNamespace = true)
    (hroot : claim.rootVersion ≤ maxAdapterEpoch) (hversion : claim.version ≤ maxAdapterEpoch)
    (h : claim.validUntil ≤ maxAdapterEpoch) :
    Admitted nfc 1 (.obj (claim.toBody request)) ∧ nodes (.obj (claim.toBody request)) ≤ 1000 ∧
      weight (.obj (claim.toBody request)) ≤ 20000 := by
  have hpublished := claim.window.2.le.trans h
  have hfrom := claim.window.1.le.trans h
  refine ⟨admitted_record (by decide +kernel : PlainFields revocationClaimFields) rfl (by decide)
    ?_, ?_, ?_⟩
  · simp only [RevocationClaim.toBody, List.forall_mem_cons, List.not_mem_nil, false_imp_iff,
      implies_true, and_true]
    refine ⟨admitted_contentIdText (by decide) _, admitted_contentIdText (by decide) _,
      admitted_contentIdText (by decide) _, admitted_contentIdText (by decide) _,
      admitted_identity (by decide) hnamespace, admitted_epoch (by decide) hpublished,
      admitted_epoch (by decide) hroot, admitted_contentIdText (by decide) _,
      admitted_contentIdText (by decide) _, admitted_contentIdText (by decide) _,
      admitted_contentIdText (by decide) _, admitted_epoch (by decide) hfrom,
      admitted_epoch (by decide) h, admitted_epoch (by decide) hversion⟩
  · simp only [RevocationClaim.toBody, nodes, nodesMembers]
    decide
  · have hkeys : ∀ key ∈ (claim.toBody request).map Prod.fst, key.length ≤ 40 :=
      (by decide : ∀ key ∈ revocationClaimFields, key.length ≤ 40)
    have hcount : (claim.toBody request).length * (6 * 40 + 800 + 4) + 2 ≤ 20000 :=
      (by decide : revocationClaimFields.length * (6 * 40 + 800 + 4) + 2 ≤ 20000)
    refine (weight_record hkeys ?_).trans hcount
    have hid : ∀ d : Digest, weight (.str (contentIdText d)) ≤ 800 := fun d => by
      rw [weight, length_contentIdText]
      decide
    have hname : weight (.str request.revocationNamespace) ≤ 800 := by
      have := (isAdapterIdentity_ascii hnamespace).2
      rw [weight]
      omega
    have hepoch : ∀ {n : ℕ}, n ≤ maxAdapterEpoch → weight (.int n) ≤ 800 := fun hn =>
      (weight_epoch hn).trans (by decide)
    simp only [RevocationClaim.toBody, List.forall_mem_cons, List.not_mem_nil, false_imp_iff,
      implies_true, and_true]
    exact ⟨hid _, hid _, hid _, hid _, hname, hepoch hpublished, hepoch hroot, hid _, hid _,
      hid _, hid _, hepoch hfrom, hepoch h, hepoch hversion⟩

/-- The package in which a source signs its answer. -/
def signedAnswer (profile : IntegrityAdapterTrustProfileV1 E) (binding : AdapterSourceBindingV1)
    (frame : RequestFrame) (claim : List (String × Json)) (signature : List UInt8) :
    SignedEvidenceV1 :=
  ⟨frame.role, binding.keyId.text, encoded (answer profile binding frame claim).toBody, signature⟩

/-- A source is authenticated when it signs a small valid claim under its own key. -/
theorem authenticate_signedAnswer {ρ κ : Type} {profile : IntegrityAdapterTrustProfileV1 E}
    {frame : RequestFrame} {validateClaim : List (String × Json) → Except AdapterError κ}
    (request : ρ) {binding : AdapterSourceBindingV1} {claim : List (String × Json)} {claimed : κ}
    {signature : List UInt8} {key : TrustedAdapterKeyV1}
    (hframe : frame.profileId = profile.profileId ∧ frame.trustRootId = profile.trustRootId ∧
      frame.serviceInstanceId = profile.serviceInstanceId ∧
      frame.environmentId = profile.environmentId)
    (hbound : profile.bindingFor frame.role frame.sourceId frame.revocationNamespace = .ok binding)
    (hunrevoked : binding.keyId.text ∉ profile.trustStore.revokedKeyIds.map KeyId.text)
    (hkey : profile.trustStore.key E binding.keyId.text = some key)
    (hverifies : E.verifies key.publicKey (frame.role.signatureDomain ++
      (encoded (answer profile binding frame claim).toBody).data.toList) signature = true)
    (hclaim : Admitted E.nfc 1 (.obj claim) ∧ nodes (.obj claim) ≤ 1000 ∧
      weight (.obj claim) ≤ 20000)
    (hclaimed : validateClaim claim = .ok claimed) (hsignature : signature.length = 64) :
    ∃ wire, providerEvidenceBytes E (signedAnswer profile binding frame claim signature) =
        .ok wire ∧ binding.keyId.text.length < wire.size ∧
      wire.size ≤ maxProviderEvidenceBlobBytesV1 ∧
      authenticateProviderEvidenceV1 profile frame validateClaim request
        (signedAnswer profile binding frame claim signature) = .ok {
          profileId := profile.profileId
          request := request
          signedEvidence := signedAnswer profile binding frame claim signature
          statement := answer profile binding frame claim
          sourceBinding := binding
          providerEvidence := ⟨frame.role.evidenceKind, binding.sourceId, E.sha256 wire,
            wire.data.toList⟩
          claim := claimed } := by
  obtain ⟨hadmitted, hnodes, hweight⟩ := hclaim
  have hnormal : normalForm (.obj claim) = .obj claim := by
    have hcount := normalizeJson_of_admitted hadmitted "$" 0
      (by simpa using hnodes.trans (by decide))
    exact (normalizeJson_normalForm _ _ _ _ _ _ hcount).symm
  have hbody := weight_answer profile binding frame claim
  obtain ⟨hstatement, hsize⟩ := canonicalDumps_weight
    (normalized_answer profile binding frame hadmitted hnodes)
    (by unfold maxWireBytes; omega)
  have hne : (encoded (answer profile binding frame claim).toBody).size ≠ 0 := by
    rw [size_encoded, ProviderStatementV1.toBody, textSize_dumps_obj]
    omega
  have hsmall : (encoded (answer profile binding frame claim).toBody).size ≤ 100000 := by omega
  have hpackage : (encoded (answer profile binding frame claim).toBody).size ≤ maxPackageBytes :=
    hsmall.trans (by decide)
  obtain ⟨wire, hwire, hlong, hbounded⟩ :=
    providerEvidence_writes (E := E) frame.role binding.keyId hsignature hsmall
  refine ⟨wire, hwire, hlong, hbounded, ?_⟩
  exact authenticate_answer request hframe hbound hunrevoked hkey hverifies hnormal hstatement
    hclaimed hsignature hne hpackage hwire (by omega) hbounded

end Etzio
